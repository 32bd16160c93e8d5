import Awe.Rust.Json
import Awe.Rust.Map

/-! Typed data to documents and back, as derived serializers and deserializers do it. -/

namespace Rust

namespace Json

/-- A number no larger than its type. -/
def asUnsigned (bound : Nat) : Json → Option Nat
  | .num value => if value ≤ bound then some value else none
  | _ => none

/-- A truth value. -/
def asBool : Json → Option Bool
  | .bool value => some value
  | _ => none

/-- An array of exactly as many bytes as its type has. -/
def asBytes (width : Nat) : Json → Option (Vector UInt8 width)
  | .arr items => do
    let bytes ← items.mapM fun item => (asUnsigned 255 item).map UInt8.ofNat
    if sized : bytes.toArray.size = width then some ⟨bytes.toArray, sized⟩ else none
  | _ => none

/-- A text. -/
def asString : Json → Option String
  | .str text => some text
  | _ => none

/-- An array, item by item. -/
def asList {V : Type} (decode : Json → Option V) : Json → Option (List V)
  | .arr items => items.mapM decode
  | _ => none

/-- An array of any number of bytes. -/
def asByteList : Json → Option Bytes := asList fun item => (asUnsigned 255 item).map UInt8.ofNat

/-- The fields of a record, which are named in an object and in order in an array. -/
def asStruct (names : List String) : Json → Option (List (String × Json))
  | .obj fields => some fields
  | .arr items => if items.length = names.length then some (names.zip items) else none
  | _ => none

/-- The fields of a record, the last of which may be missing in an array as they may in an object. -/
def asStructFrom (least : Nat) (names : List String) : Json → Option (List (String × Json))
  | .obj fields => some fields
  | .arr items =>
    if least ≤ items.length ∧ items.length ≤ names.length then some (names.zip items) else none
  | _ => none

/-- A value that may be absent, which is then written as `null`. -/
def ofOption {V : Type} (encode : V → Json) : Option V → Json
  | none => .null
  | some value => encode value

/-- A value that may be absent. -/
def asOption {V : Type} (decode : Json → Option V) : Json → Option (Option V)
  | .null => some none
  | document => (decode document).map some

/-- The name of a variant without content: a text, or an object's only field. -/
def asUnitVariant : Json → Option String
  | .str name => some name
  | .obj [(name, .null)] => some name
  | _ => none

/-- The name and the content of a variant, an object's only field. -/
def asVariant : Json → Option (String × Json)
  | .obj [(name, content)] => some (name, content)
  | _ => none

/-- A map with text keys is written as an object, in key order. -/
def ofMap {V : Type} (encode : V → Json) (map : BTreeMap String V) : Json :=
  .obj (map.toList.map fun entry => (entry.1, encode entry.2))

/-- Add the fields of an object to a map, a later field replacing an earlier one. -/
def addFields {V : Type} (decode : Json → Option V) :
    BTreeMap String V → List (String × Json) → Option (BTreeMap String V)
  | map, [] => some map
  | map, (name, field) :: rest => do
    let value ← decode field
    addFields decode (map.insert name value) rest

/-- An object read as a map. -/
def asMap {V : Type} (decode : Json → Option V) : Json → Option (BTreeMap String V)
  | .obj fields => addFields decode ∅ fields
  | _ => none

/-- A map whose keys are arrays: an object has no place for such a key. -/
def ofArrayKeys {K V : Type} [Ord K] [Std.TransOrd K] (map : BTreeMap K V) : Option Json :=
  if map.isEmpty then some (.obj []) else none

/-- An object read as a map whose keys are arrays: no field name is an array. -/
def asArrayKeys {K V : Type} [Ord K] [Std.TransOrd K] : Json → Option (BTreeMap K V)
  | .obj [] => some ∅
  | _ => none

/-- The value of a field that must occur once. -/
def required (fields : List (String × Json)) (name : String) : Option Json :=
  match fields.filter fun field => field.1 = name with
  | [field] => some field.2
  | _ => none

/-- The value of a field that may be missing, which then has a default. -/
def defaulted {V : Type} (fields : List (String × Json)) (name : String)
    (decode : Json → Option V) (absent : V) : Option V :=
  match fields.filter fun field => field.1 = name with
  | [] => some absent
  | [field] => decode field.2
  | _ => none

/-- A number of its type reads back as itself. -/
@[simp] theorem asUnsigned_num {bound value : Nat} (fits : value ≤ bound) :
    asUnsigned bound (.num value) = some value := if_pos fits

/-- A 16-bit number reads back. -/
@[simp] theorem asUnsigned_uint16 (value : UInt16) :
    asUnsigned 65535 (.num value.toNat) = some value.toNat :=
  asUnsigned_num (Nat.le_of_lt_succ value.toNat_lt)

/-- A 32-bit number reads back. -/
@[simp] theorem asUnsigned_uint32 (value : UInt32) :
    asUnsigned 4294967295 (.num value.toNat) = some value.toNat :=
  asUnsigned_num (Nat.le_of_lt_succ value.toNat_lt)

/-- A 64-bit number reads back. -/
@[simp] theorem asUnsigned_uint64 (value : UInt64) :
    asUnsigned u64Max (.num value.toNat) = some value.toNat :=
  asUnsigned_num (Nat.le_of_lt_succ value.toNat_lt)

/-- A number that was read fits its type. -/
theorem le_of_asUnsigned {bound value : Nat} {document : Json}
    (read : asUnsigned bound document = some value) : value ≤ bound := by
  cases document with
  | num number =>
    obtain ⟨fits, same⟩ := Option.ite_none_right_eq_some.mp read
    cases same
    exact fits
  | _ => cases read

/-- A truth value reads back as itself. -/
@[simp] theorem asBool_bool (value : Bool) : asBool (.bool value) = some value := rfl

/-- A text reads back. -/
theorem asString_str (text : String) : asString (.str text) = some text := rfl

/-- A list reads back as itself when its items do. -/
theorem asList_map {V : Type} {encode : V → Json} {decode : Json → Option V} (values : List V)
    (inverse : ∀ value ∈ values, decode (encode value) = some value) :
    asList decode (.arr (values.map encode)) = some values := by
  induction values with
  | nil => rfl
  | cons value rest ih =>
    have first := inverse value List.mem_cons_self
    have others := ih fun later member => inverse later (List.mem_cons_of_mem _ member)
    rw [asList] at others ⊢
    simp [first, others]

/-- Bytes read back as themselves. -/
@[simp] theorem asByteList_ofBytes (bytes : Bytes) : asByteList (ofBytes bytes) = some bytes := by
  have item (byte : UInt8) (_ : byte ∈ bytes) :
      (asUnsigned 255 (.num byte.toNat)).map UInt8.ofNat = some byte := by
    have small : byte.toNat ≤ 255 := Nat.le_of_lt_succ byte.toNat_lt
    simp [small]
  exact asList_map bytes item

/-- An array of bytes reads back as itself. -/
@[simp] theorem asBytes_ofBytes {width : Nat} (bytes : Vector UInt8 width) :
    asBytes width (ofBytes bytes.toList) = some bytes := by
  have read : ∀ items : Bytes, (items.map fun byte => Json.num byte.toNat).mapM
      (fun item => (asUnsigned 255 item).map UInt8.ofNat) = some items := by
    intro items
    induction items with
    | nil => rfl
    | cons byte rest ih =>
      have small : byte.toNat ≤ 255 := Nat.le_of_lt_succ byte.toNat_lt
      simp [ih, small]
  simp [asBytes, ofBytes, read, Vector.toList]

/-- A value that may be absent reads back as itself when it does and is not written as `null`. -/
theorem asOption_ofOption {V : Type} {encode : V → Json} {decode : Json → Option V}
    (value : Option V) (present : ∀ value, encode value ≠ .null)
    (inverse : ∀ value, decode (encode value) = some value) :
    asOption decode (ofOption encode value) = some value := by
  cases value with
  | none => rfl
  | some value =>
    have solid := present value
    have read := inverse value
    cases document : encode value with
    | null => exact absurd document solid
    | _ =>
      rw [document] at read
      simp [ofOption, asOption, document, read]

/-- Fields that decode are added one by one. -/
theorem addFields_encoded {V : Type} {encode : V → Json} {decode : Json → Option V}
    (entries : List (String × V)) (map : BTreeMap String V)
    (inverse : ∀ entry ∈ entries, decode (encode entry.2) = some entry.2) :
    addFields decode map (entries.map fun entry => (entry.1, encode entry.2)) =
      some (entries.foldl (fun map entry => map.insert entry.1 entry.2) map) := by
  induction entries generalizing map with
  | nil => rfl
  | cons entry rest ih =>
    have first := inverse entry (by simp)
    simp only [List.map_cons, addFields, first, Option.bind_eq_bind, Option.bind_some,
      List.foldl_cons]
    exact ih _ fun later member => inverse later (by simp [member])

/-- A map reads back as itself when its values do. -/
theorem asMap_ofMap {V : Type} {encode : V → Json} {decode : Json → Option V}
    (map : BTreeMap String V)
    (inverse : ∀ (name : String) value, map[name]? = some value → decode (encode value) = some value) :
    asMap decode (ofMap encode map) = some map := by
  rw [ofMap, asMap, addFields_encoded, BTreeMap.foldl_insert_toList]
  intro entry member
  exact inverse entry.1 entry.2 (Std.ExtTreeMap.mem_toList_iff_getElem?_eq_some.mp member)

/-- Among fields with different names, one of them is the only one of its name. -/
theorem filter_at {fields : List (String × Json)} (distinct : (fields.map Prod.fst).Nodup)
    (position : Nat) {name : String} {field : Json} (there : fields[position]? = some (name, field)) :
    (fields.filter fun field => field.1 = name) = [(name, field)] := by
  induction fields generalizing position with
  | nil => cases there
  | cons first rest ih =>
    rw [List.map_cons, List.nodup_cons] at distinct
    cases position with
    | zero =>
      cases there
      -- The rest has no field of this name.
      have gone : (rest.filter fun field => field.1 = name) = [] := by
        refine List.filter_eq_nil_iff.mpr fun other member same => distinct.1 ?_
        exact List.mem_map.mpr ⟨other, member, of_decide_eq_true same⟩
      rw [List.filter_cons_of_pos (by simp), gone]
    | succ position =>
      rw [List.getElem?_cons_succ] at there
      have member := List.mem_map_of_mem (f := Prod.fst) (List.mem_of_getElem? there)
      have apart : first.1 ≠ name := fun same => distinct.1 (same ▸ member)
      rw [List.filter_cons_of_neg (by simpa using apart)]
      exact ih distinct.2 position there

/-- A field that is there is found, if names differ. -/
theorem required_at {fields : List (String × Json)} (distinct : (fields.map Prod.fst).Nodup)
    (position : Nat) {name : String} {field : Json} (there : fields[position]? = some (name, field)) :
    required fields name = some field := by
  rw [required, filter_at distinct position there]

/-- A field that may be missing but is there is read, if names differ. -/
theorem defaulted_at {V : Type} {fields : List (String × Json)}
    (distinct : (fields.map Prod.fst).Nodup) (position : Nat) {name : String} {field : Json}
    (there : fields[position]? = some (name, field)) {decode : Json → Option V} {absent value : V}
    (decoded : decode field = some value) : defaulted fields name decode absent = some value := by
  rw [defaulted, filter_at distinct position there]
  exact decoded

/-- A field that may be missing is read where its value is known. -/
theorem read_defaulted {V R : Type} {fields : List (String × Json)} {name : String}
    {decode : Json → Option V} {absent value : V}
    (found : defaulted fields name decode absent = some value) (next : V → Option R) :
    (do
      let value ← defaulted fields name decode absent
      next value) = next value := by
  simp [found]

/-- A field that occurs and decodes is read. -/
theorem read_field {V R : Type} {fields : List (String × Json)} {name : String} {field : Json}
    {decode : Json → Option V} {value : V} (found : required fields name = some field)
    (decoded : decode field = some value) (next : V → Option R) :
    (do
      let value ← decode (← required fields name)
      next value) = next value := by
  simp [found, decoded]

/-- A field that was read occurs, and it decodes. -/
theorem exists_of_field {V R : Type} {fields : List (String × Json)} {name : String}
    {decode : Json → Option V} {next : V → Option R} {result : R}
    (read : (do
      let value ← decode (← required fields name)
      next value) = some result) :
    ∃ value, (∃ field, required fields name = some field ∧ decode field = some value) ∧
      next value = some result := by
  obtain ⟨field, present, rest⟩ := Option.bind_eq_some_iff.mp read
  obtain ⟨value, decoded, later⟩ := Option.bind_eq_some_iff.mp rest
  exact ⟨value, ⟨field, present, decoded⟩, later⟩

/-- What holds of every value that decodes holds of every value of a map that was read. -/
theorem forall_of_addFields {V : Type} {decode : Json → Option V} {good : V → Prop}
    (values : ∀ field value, decode field = some value → good value)
    {fields : List (String × Json)} {map final : BTreeMap String V}
    (read : addFields decode map fields = some final)
    (before : ∀ (name : String) value, map[name]? = some value → good value) (name : String) (value : V)
    (found : final[name]? = some value) : good value := by
  -- Induction on the fields, for every map they are added to.
  induction fields generalizing map with
  | nil =>
    obtain rfl := Option.some.inj read
    exact before name value found
  | cons field rest ih =>
    obtain ⟨first, decoded, later⟩ := Option.bind_eq_some_iff.mp read
    refine ih later fun other known present => ?_
    rcases BTreeMap.getElem?_insert_iff.mp present with ⟨-, rfl⟩ | ⟨-, older⟩
    · exact values _ _ decoded
    · exact before other known older

/-- A map that was read has the names of its fields. -/
theorem mem_addFields {V : Type} {decode : Json → Option V} {fields : List (String × Json)}
    {map final : BTreeMap String V} (read : addFields decode map fields = some final)
    (name : String) : name ∈ final ↔ name ∈ map ∨ name ∈ fields.map Prod.fst := by
  induction fields generalizing map with
  | nil =>
    obtain rfl := Option.some.inj read
    simp
  | cons field rest ih =>
    obtain ⟨first, _, later⟩ := Option.bind_eq_some_iff.mp read
    rw [ih later, BTreeMap.mem_insert_iff, List.map_cons, List.mem_cons, or_assoc, or_left_comm]

/-- Numbers of a map that was read are within the bound they were read with. -/
theorem getD_le_of_asMap {bound : Nat} {document : Json} {map : BTreeMap String Nat}
    (read : asMap (asUnsigned bound) document = some map) (name : String) :
    map.getD name 0 ≤ bound := by
  cases document with
  | obj fields =>
    rw [Std.ExtTreeMap.getD_eq_getD_getElem?]
    cases found : map[name]? with
    | none => exact Nat.zero_le _
    | some value =>
      exact forall_of_addFields (fun _ _ => le_of_asUnsigned) read (by simp) name value found
  | _ => cases read

/-- A number that may be missing is within the bound it is read with, as its default is. -/
theorem le_of_defaulted {bound absent value : Nat} {fields : List (String × Json)} {name : String}
    (small : absent ≤ bound) (read : defaulted fields name (asUnsigned bound) absent = some value) :
    value ≤ bound := by
  unfold defaulted at read
  split at read
  · obtain rfl := Option.some.inj read
    exact small
  · exact le_of_asUnsigned read
  · cases read

end Json

end Rust
