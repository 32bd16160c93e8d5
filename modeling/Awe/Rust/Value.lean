import Awe.Rust.Hex

/-! Untyped documents that a program reads and edits field by field. -/

namespace Rust

/-- A document of unknown shape. An object lists its fields in the order of their names. -/
inductive Value where
  | null
  | bool (value : Bool)
  | unsigned (value : UInt64)
  | negative (value : Int64)
  | float (bits : UInt64)
  | string (value : String)
  | array (items : List Value)
  | object (fields : List (String × Value))

namespace Value

/-- Put a field into an object, in place of one of the same name. -/
def insertField (name : String) (value : Value) : List (String × Value) → List (String × Value)
  | [] => [(name, value)]
  | field :: rest =>
    if field.1 = name then (name, value) :: rest
    else if name < field.1 then (name, value) :: field :: rest
    else field :: insertField name value rest

/-- Find a field of an object. -/
def findField (name : String) (fields : List (String × Value)) : Option Value :=
  (fields.find? fun field => field.1 = name).map Prod.snd

/-- An object with some fields, as `json!` builds it. -/
def ofFields (fields : List (String × Value)) : Value :=
  .object (fields.foldl (fun fields field => insertField field.1 field.2 fields) [])

/-- The field of an object. -/
def get (name : String) : Value → Option Value
  | .object fields => findField name fields
  | _ => none

/-- The text of a document that is one. -/
def asStr : Value → Option String
  | .string text => some text
  | _ => none

/-- The items of a document that is an array. -/
def asArray : Value → Option (List Value)
  | .array items => some items
  | _ => none

/-- The truth value of a document that is one. -/
def asBool : Value → Option Bool
  | .bool value => some value
  | _ => none

/-- The number of a document that is an unsigned one. -/
def asU64 : Value → Option UInt64
  | .unsigned value => some value
  | _ => none

/-- The text of a field, or nothing. -/
def text (name : String) (self : Value) : Option String := (self.get name).bind asStr

/-- The items of a field, or nothing. -/
def items (name : String) (self : Value) : Option (List Value) := (self.get name).bind asArray

/-- Put a field into a document that is an object. -/
def insert (self : Value) (name : String) (value : Value) : Value :=
  match self with
  | .object fields => .object (insertField name value fields)
  | other => other

/-- Change the items of a field that is an array. -/
def updateItems (name : String) (update : List Value → List Value) (self : Value) : Value :=
  match self.items name with
  | some items => self.insert name (.array (update items))
  | none => self

/-- A field that was put in is found. -/
theorem findField_insertField (name : String) (value : Value) (fields : List (String × Value)) :
    findField name (insertField name value fields) = some value := by
  induction fields with
  | nil => simp [insertField, findField]
  | cons field rest ih =>
    rw [insertField]
    split
    · simp [findField]
    · split
      · simp [findField]
      · rename_i differs _
        rw [findField, List.find?_cons_of_neg (by simpa using differs)]
        exact ih

/-- No other field is changed. -/
theorem findField_insertField_of_ne {name other : String} (apart : other ≠ name) (value : Value)
    (fields : List (String × Value)) :
    findField other (insertField name value fields) = findField other fields := by
  induction fields with
  | nil => simp [insertField, findField, apart.symm]
  | cons field rest ih =>
    -- The inserted field comes first in some branches, and a search for another name passes it.
    have skip : ∀ rest : List (String × Value),
        findField other ((name, value) :: rest) = findField other rest := by
      intro rest
      rw [findField, List.find?_cons_of_neg (by simpa using apart.symm)]
      rfl
    rw [insertField]
    split
    · rename_i same
      rw [skip, findField, findField, List.find?_cons_of_neg (by simpa [same] using apart.symm)]
    · split
      · exact skip _
      · by_cases here : field.1 = other
        · simp [findField, here]
        · rw [findField, findField, List.find?_cons_of_neg (by simpa using here),
            List.find?_cons_of_neg (by simpa using here)]
          exact ih

/-- The field of an object that was built from fields is the last one with that name. -/
theorem get_ofFields (name : String) (fields : List (String × Value)) :
    (ofFields fields).get name = findField name fields.reverse := by
  simp only [ofFields, get]
  induction fields using List.reverseRecOn with
  | nil => rfl
  | append_singleton fields field ih =>
    rw [List.foldl_append, List.foldl_cons, List.foldl_nil, List.reverse_append]
    by_cases here : name = field.1
    · subst here
      rw [findField_insertField]
      simp [findField]
    · rw [findField_insertField_of_ne here, ih, List.reverse_singleton, List.singleton_append,
        findField, findField, List.find?_cons_of_neg (by simpa using Ne.symm here)]

/-- A document with a field is an object. -/
theorem exists_of_get {self value : Value} {name : String} (found : self.get name = some value) :
    ∃ fields, self = .object fields := by
  cases self with
  | object fields => exact ⟨fields, rfl⟩
  | _ => cases found

/-- A field that was put into an object is found. -/
theorem get_insert {self old : Value} {name other : String} (found : self.get other = some old)
    (value : Value) : (self.insert name value).get name = some value := by
  obtain ⟨fields, rfl⟩ := exists_of_get found
  exact findField_insertField name value fields

/-- No other field is changed. -/
theorem get_insert_of_ne {name other : String} (apart : other ≠ name) (self value : Value) :
    (self.insert name value).get other = self.get other := by
  cases self with
  | object fields => exact findField_insertField_of_ne apart value fields
  | _ => rfl

section Items

variable {self : Value} {name other : String} {update : List Value → List Value}

/-- A field whose items are known is an array. -/
theorem get_of_items {found : List Value} (known : self.items name = some found) :
    self.get name = some (.array found) := by
  obtain ⟨value, there, shape⟩ := Option.bind_eq_some_iff.mp known
  cases value with
  | array items =>
    cases shape
    exact there
  | _ => cases shape

/-- The items of a field are what they were changed to. -/
theorem items_updateItems : (self.updateItems name update).items name =
    (self.items name).map update := by
  unfold updateItems
  cases known : self.items name with
  | none => exact known
  | some found =>
    dsimp only
    rw [items, get_insert (get_of_items known)]
    rfl

/-- No other field is changed. -/
theorem get_updateItems_of_ne (apart : other ≠ name) :
    (self.updateItems name update).get other = self.get other := by
  unfold updateItems
  split
  · exact get_insert_of_ne apart self _
  · rfl

end Items

/-- Change the first item with a property. -/
def updateFirst (found : Value → Bool) (update : Value → Value) : List Value → List Value
  | [] => []
  | item :: rest =>
    if found item then update item :: rest else item :: updateFirst found update rest

section First

variable {found : Value → Bool} {update : Value → Value}

/-- Where no item has the property, nothing is changed. -/
theorem updateFirst_of_find?_none {items : List Value} (absent : items.find? found = none) :
    updateFirst found update items = items := by
  induction items with
  | nil => rfl
  | cons item rest ih =>
    have missing := List.find?_eq_none.mp absent
    have other : ¬ found item = true := missing item List.mem_cons_self
    rw [updateFirst, if_neg other,
      ih (List.find?_eq_none.mpr fun later member => missing later (List.mem_cons_of_mem _ member))]

/-- The first item with the property is changed, and no other one. -/
theorem updateFirst_of_find? (update : Value → Value) {items : List Value} {item : Value}
    (first : items.find? found = some item) :
    ∃ before after, items = before ++ item :: after ∧
      updateFirst found update items = before ++ update item :: after := by
  induction items with
  | nil => cases first
  | cons head rest ih =>
    -- The update stops at the head, or the head stays in front of the changed one.
    by_cases here : found head = true
    · rw [List.find?_cons_of_pos here] at first
      cases first
      exact ⟨[], rest, rfl, by rw [updateFirst, if_pos here]; rfl⟩
    · rw [List.find?_cons_of_neg here] at first
      obtain ⟨before, after, split, changed⟩ := ih first
      refine ⟨head :: before, after, by rw [split]; rfl, ?_⟩
      rw [updateFirst, if_neg here, changed]
      rfl

/-- Only what is done to the first item with the property matters. -/
theorem updateFirst_congr {items : List Value} {other : Value → Value}
    (same : ∀ item, items.find? found = some item → update item = other item) :
    updateFirst found update items = updateFirst found other items := by
  cases first : items.find? found with
  | none => rw [updateFirst_of_find?_none first, updateFirst_of_find?_none first]
  -- Only the first item that is found decides, so the search moves along with the list.
  | some item =>
    induction items with
    | nil => rfl
    | cons head rest ih =>
      rw [updateFirst, updateFirst]
      by_cases here : found head = true
      · rw [if_pos here, if_pos here, same head (List.find?_cons_of_pos here)]
      · rw [if_neg here, if_neg here]
        rw [List.find?_cons_of_neg here] at first same
        rw [ih same first]

/-- Where the first item with the property stays as it is, nothing is changed. -/
theorem updateFirst_eq_self {items : List Value}
    (same : ∀ item, items.find? found = some item → update item = item) :
    updateFirst found update items = items := by
  rw [updateFirst_congr same]
  induction items with
  | nil => rfl
  | cons head rest ih =>
    rw [updateFirst]
    split
    · rfl
    · rename_i here
      rw [ih fun item first => same item (by rwa [List.find?_cons_of_neg here])]

/-- The first item with a property that its change keeps is the changed one. -/
theorem find?_updateFirst (kept : ∀ item, found (update item) = found item) (items : List Value) :
    (updateFirst found update items).find? found = (items.find? found).map update := by
  induction items with
  | nil => rfl
  | cons item rest ih =>
    rw [updateFirst]
    by_cases here : found item = true
    · rw [if_pos here, List.find?_cons_of_pos here, List.find?_cons_of_pos (by rw [kept, here])]
      rfl
    · rw [if_neg here, List.find?_cons_of_neg here, List.find?_cons_of_neg here, ih]

/-- The first item with a property is left alone by changes of items that lack it. -/
theorem find?_updateFirst_of_apart {other : Value → Bool}
    (apart : ∀ item, found item = true → other item = false ∧ other (update item) = false)
    (items : List Value) : (updateFirst found update items).find? other = items.find? other := by
  induction items with
  | nil => rfl
  | cons item rest ih =>
    rw [updateFirst]
    by_cases here : found item = true
    · obtain ⟨before, after⟩ := apart item here
      rw [if_pos here, List.find?_cons_of_neg (by simp [after]),
        List.find?_cons_of_neg (by simp [before])]
    · rw [if_neg here, List.find?_cons, List.find?_cons, ih]

/-- An item is left alone, or it is the first one with the property. -/
theorem getElem?_updateFirst (update : Value → Value) {items : List Value} {position : Nat}
    {item : Value} (there : items[position]? = some item) :
    (updateFirst found update items)[position]? = some item ∨
      (items.find? found = some item ∧
        (updateFirst found update items)[position]? = some (update item)) := by
  cases first : items.find? found with
  | none =>
    rw [updateFirst_of_find?_none first]
    exact Or.inl there
  | some head =>
    obtain ⟨before, after, rfl, changed⟩ := updateFirst_of_find? update first
    rw [changed]
    -- Only the position after those in front is another one than before.
    rcases Nat.lt_trichotomy position before.length with front | rfl | back
    · rw [List.getElem?_append_left front] at there ⊢
      exact Or.inl there
    · simp only [List.getElem?_append_right (Nat.le_refl _), Nat.sub_self,
        List.getElem?_cons_zero, Option.some.injEq] at there ⊢
      exact Or.inr ⟨there, by rw [there]⟩
    · obtain ⟨offset, rfl⟩ := Nat.exists_eq_add_of_lt back
      rw [List.getElem?_append_right (by omega)] at there ⊢
      simp only [show before.length + offset + 1 - before.length = offset + 1 by omega,
        List.getElem?_cons_succ] at there ⊢
      exact Or.inl there

/-- The first item with the property is changed where it stands. -/
theorem exists_updateFirst (update : Value → Value) {items : List Value} {item : Value}
    (first : items.find? found = some item) :
    ∃ position : Nat, items[position]? = some item ∧
      (updateFirst found update items)[position]? = some (update item) := by
  obtain ⟨before, after, rfl, changed⟩ := updateFirst_of_find? update first
  refine ⟨before.length, by simp, ?_⟩
  rw [changed]
  simp

end First

end Value

end Rust
