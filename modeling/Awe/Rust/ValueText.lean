import Awe.Rust.JsonText
import Awe.Rust.Value

/-! Documents of unknown shape as texts, as far as they hold no negative or fractional numbers. -/

namespace Rust

namespace Value

mutual

/-- A document as a serializer writes it. Negative and fractional numbers are left out. -/
def toJson : Value → Json
  | .null | .negative _ | .float _ => .null
  | .bool value => .bool value
  | .unsigned value => .num value.toNat
  | .string value => .str value
  | .array items => .arr (toJsonItems items)
  | .object fields => .obj (toJsonFields fields)

/-- The items of an array as a serializer writes them. -/
def toJsonItems : List Value → List Json
  | [] => []
  | item :: rest => toJson item :: toJsonItems rest

/-- The fields of an object as a serializer writes them. -/
def toJsonFields : List (String × Value) → List (String × Json)
  | [] => []
  | (name, value) :: rest => (name, toJson value) :: toJsonFields rest

end

mutual

/-- A document that was read. -/
def ofJson : Json → Value
  | .null => .null
  | .bool value => .bool value
  | .num value => .unsigned (.ofNat value)
  | .str value => .string value
  | .arr items => .array (ofJsonItems items)
  | .obj fields => .object (ofJsonFields fields)

/-- The items of an array that was read. -/
def ofJsonItems : List Json → List Value
  | [] => []
  | item :: rest => ofJson item :: ofJsonItems rest

/-- The fields of an object that was read. -/
def ofJsonFields : List (String × Json) → List (String × Value)
  | [] => []
  | (name, value) :: rest => (name, ofJson value) :: ofJsonFields rest

end

/-- A document that is read as it was written. -/
def Plain (document : Value) : Prop := ofJson document.toJson = document

/-- A text is read as it was written. -/
theorem plain_string (text : String) : Plain (.string text) := rfl

/-- A number is read as it was written. -/
theorem plain_unsigned (value : UInt64) : Plain (.unsigned value) :=
  congrArg Value.unsigned (UInt64.ofNat_toNat)

/-- Fields are read as they were written if their values are. -/
theorem ofJsonFields_toJsonFields {fields : List (String × Value)}
    (plain : ∀ field ∈ fields, Plain field.2) : ofJsonFields (toJsonFields fields) = fields := by
  induction fields with
  | nil => rfl
  | cons field rest ih =>
    obtain ⟨name, value⟩ := field
    have here : ofJson value.toJson = value := plain (name, value) List.mem_cons_self
    rw [toJsonFields, ofJsonFields, here, ih fun later member => plain later
      (List.mem_cons_of_mem _ member)]

/-- A field of an object is the one that was put in, or it was there before. -/
theorem mem_of_mem_insertField {name : String} {value : Value} {fields : List (String × Value)}
    {field : String × Value} (member : field ∈ insertField name value fields) :
    field = (name, value) ∨ field ∈ fields := by
  -- Induction on the fields: the inserted one stands where its name belongs and the others keep
  -- their places.
  induction fields with
  | nil => exact Or.inl (List.mem_singleton.mp member)
  | cons head rest ih =>
    rw [insertField] at member
    split at member
    · rcases List.mem_cons.mp member with here | later
      · exact Or.inl here
      · exact Or.inr (List.mem_cons_of_mem _ later)
    · split at member
      · exact List.mem_cons.mp member
      · rcases List.mem_cons.mp member with here | later
        · exact Or.inr (List.mem_cons.mpr (Or.inl here))
        · exact (ih later).imp id (List.mem_cons_of_mem _)

/-- An object that was built from fields is read as it was written if their values are. -/
theorem plain_ofFields {fields : List (String × Value)} (plain : ∀ field ∈ fields, Plain field.2) :
    Plain (ofFields fields) := by
  -- Inserting plain fields one after another keeps all fields plain.
  have built : ∀ fields start : List (String × Value), (∀ field ∈ fields, Plain field.2) →
      (∀ field ∈ start, Plain field.2) → ∀ field ∈ fields.foldl
        (fun fields field => insertField field.1 field.2 fields) start, Plain field.2 := by
    intro fields
    induction fields with
    | nil => exact fun _ _ before => before
    | cons head rest ih =>
      intro start plain before
      refine ih _ (fun field member => plain field (List.mem_cons_of_mem _ member)) ?_
      intro field member
      rcases mem_of_mem_insertField member with rfl | there
      · exact plain head List.mem_cons_self
      · exact before field there
  have fields := ofJsonFields_toJsonFields (built fields [] plain fun field member => (by cases member))
  exact congrArg Value.object fields

/-- Items are read as they were written exactly if each of them is. -/
theorem ofJsonItems_toJsonItems_iff {items : List Value} :
    ofJsonItems (toJsonItems items) = items ↔ ∀ item ∈ items, Plain item := by
  induction items with
  | nil => simp [toJsonItems, ofJsonItems]
  | cons item rest ih =>
    rw [toJsonItems, ofJsonItems, List.cons.injEq, ih, List.forall_mem_cons]
    rfl

/-- An array is read as it was written exactly if its items are. -/
theorem plain_array_iff {items : List Value} : Plain (.array items) ↔ ∀ item ∈ items, Plain item := by
  rw [← ofJsonItems_toJsonItems_iff]
  exact ⟨Value.array.inj, congrArg Value.array⟩

/-- An object is read as it was written exactly if its fields are. -/
theorem plain_object_iff {fields : List (String × Value)} :
    Plain (.object fields) ↔ ∀ field ∈ fields, Plain field.2 := by
  constructor
  · intro plain
    replace plain : ofJsonFields (toJsonFields fields) = fields := Value.object.inj plain
    induction fields with
    | nil => exact fun field member => by cases member
    | cons field rest ih =>
      obtain ⟨name, value⟩ := field
      rw [toJsonFields, ofJsonFields, List.cons.injEq, Prod.mk.injEq] at plain
      exact List.forall_mem_cons.mpr ⟨plain.1.2, ih plain.2⟩
  · exact fun plain => congrArg Value.object (ofJsonFields_toJsonFields plain)

/-- What a plain document has in a field is plain. -/
theorem Plain.get {document value : Value} {name : String} (plain : document.Plain)
    (found : document.get name = some value) : value.Plain := by
  obtain ⟨fields, rfl⟩ := exists_of_get found
  obtain ⟨field, search, rfl⟩ := Option.map_eq_some_iff.mp found
  exact plain_object_iff.mp plain field (List.mem_of_find?_eq_some search)

/-- The items of a field of a plain document are plain. -/
theorem Plain.items {document : Value} {items : List Value} {name : String}
    (plain : document.Plain) (found : document.items name = some items) :
    ∀ item ∈ items, item.Plain :=
  plain_array_iff.mp (plain.get (get_of_items found))

/-- A plain document stays one if a field is changed to plain items. -/
theorem Plain.updateItems {document : Value} {name : String} {update : List Value → List Value}
    (plain : document.Plain)
    (kept : ∀ items, document.items name = some items → ∀ item ∈ update items, item.Plain) :
    (document.updateItems name update).Plain := by
  unfold Value.updateItems
  split
  · rename_i found known
    obtain ⟨fields, rfl⟩ := exists_of_get (get_of_items known)
    refine plain_object_iff.mpr fun field member => ?_
    rcases mem_of_mem_insertField member with rfl | there
    · exact plain_array_iff.mpr (kept found known)
    · exact plain_object_iff.mp plain field there
  · exact plain

end Value

end Rust
