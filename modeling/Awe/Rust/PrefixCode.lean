import Awe.Rust.Hex

/-! When a concatenation of codes determines what was encoded. -/

namespace Rust

section Codes

variable {Value Other Symbol : Type} {encode : Value → List Symbol} {valid : Value → Prop}

/--
No code is the beginning of another one.

What follows a code cannot be mistaken for a part of it.
-/
def PrefixFree (encode : Value → List Symbol) (valid : Value → Prop) : Prop :=
  ∀ left right, valid left → valid right → ∀ leftRest rightRest,
    encode left ++ leftRest = encode right ++ rightRest → left = right

/-- Two rows that start with a code start with the same value, and go on alike. -/
theorem PrefixFree.split (free : PrefixFree encode valid) {left right : Value}
    {leftRest rightRest : List Symbol} (leftValid : valid left) (rightValid : valid right)
    (same : encode left ++ leftRest = encode right ++ rightRest) :
    left = right ∧ leftRest = rightRest := by
  have first := free left right leftValid rightValid leftRest rightRest same
  rw [first] at same
  exact ⟨first, List.append_cancel_left same⟩

/-- A code determines its value. -/
theorem PrefixFree.injective (free : PrefixFree encode valid) {left right : Value}
    (leftValid : valid left) (rightValid : valid right) (same : encode left = encode right) :
    left = right :=
  free left right leftValid rightValid [] [] (by rw [same])

/-- A code for other values that tell these apart is a code for these. -/
theorem PrefixFree.comp (free : PrefixFree encode valid) {embed : Other → Value}
    (injective : Function.Injective embed) :
    PrefixFree (fun other => encode (embed other)) (fun other => valid (embed other)) :=
  fun left right leftValid rightValid leftRest rightRest same =>
    injective (free (embed left) (embed right) leftValid rightValid leftRest rightRest same)

/-- Two codes one after the other are a code for pairs. -/
theorem PrefixFree.pair {encodeOther : Other → List Symbol} {validOther : Other → Prop}
    (free : PrefixFree encode valid) (freeOther : PrefixFree encodeOther validOther) :
    PrefixFree (fun both : Value × Other => encode both.1 ++ encodeOther both.2)
      (fun both => valid both.1 ∧ validOther both.2) := by
  intro left right leftValid rightValid leftRest rightRest same
  rw [List.append_assoc, List.append_assoc] at same
  -- The first codes end at the same place, and so the second ones start there.
  obtain ⟨first, rest⟩ := free.split leftValid.1 rightValid.1 same
  exact Prod.ext first (freeOther.split leftValid.2 rightValid.2 rest).1

/--
A row of codes determines the row of values, although it does not say how many there are.

No code is empty, so neither row can go on when the other one ends.
-/
theorem PrefixFree.flatMap_injective (free : PrefixFree encode valid)
    (occupied : ∀ value, valid value → encode value ≠ []) {left right : List Value}
    (leftValid : ∀ value ∈ left, valid value) (rightValid : ∀ value ∈ right, valid value)
    (same : left.flatMap encode = right.flatMap encode) : left = right := by
  induction left generalizing right with
  | nil =>
    cases right with
    | nil => rfl
    | cons value rest =>
      rw [List.flatMap_nil, List.flatMap_cons] at same
      -- A code that is not empty cannot be missing in the other row.
      have empty := (List.append_eq_nil_iff.mp same.symm).1
      exact absurd empty (occupied value (rightValid value List.mem_cons_self))
  | cons value rest ih =>
    cases right with
    | nil =>
      rw [List.flatMap_nil, List.flatMap_cons] at same
      have empty := (List.append_eq_nil_iff.mp same).1
      exact absurd empty (occupied value (leftValid value List.mem_cons_self))
    | cons other more =>
      rw [List.flatMap_cons, List.flatMap_cons] at same
      obtain ⟨first, later⟩ := free.split (leftValid value List.mem_cons_self)
        (rightValid other List.mem_cons_self) same
      rw [first, ih (fun item member => leftValid item (List.mem_cons_of_mem _ member))
        (fun item member => rightValid item (List.mem_cons_of_mem _ member)) later]

/-- A text that ends at the first mark is a code for texts without marks. -/
theorem prefixFree_terminated (mark : Symbol) :
    PrefixFree (fun text : List Symbol => text ++ [mark]) (mark ∉ ·) := by
  intro left right leftClean rightClean leftRest rightRest same
  rw [List.append_assoc, List.append_assoc] at same
  -- Induction on one text: the other one cannot end before it, nor go on behind it.
  induction left generalizing right with
  | nil =>
    cases right with
    | nil => rfl
    | cons symbol rest =>
      have first := (List.cons.inj same).1
      exact absurd (first ▸ List.mem_cons_self) rightClean
  | cons symbol rest ih =>
    cases right with
    | nil =>
      have first := (List.cons.inj same).1
      exact absurd (first ▸ List.mem_cons_self) leftClean
    | cons other more =>
      obtain ⟨first, later⟩ := List.cons.inj same
      rw [first, ih more (List.not_mem_of_not_mem_cons leftClean)
        (List.not_mem_of_not_mem_cons rightClean) later]

/-- At every position that two rows both have, their values are of the same size. -/
def Aligned (size : Value → Nat) (left right : List Value) : Prop :=
  ∀ (position : Nat) (first second : Value), left[position]? = some first →
    right[position]? = some second → size first = size second

/-- Equal rows are aligned. -/
theorem Aligned.refl (size : Value → Nat) (values : List Value) : Aligned size values values := by
  intro position first second found again
  rw [Option.some.inj (found.symm.trans again)]

/-- Rows of codes that are equally long one by one are equal if their concatenations are. -/
theorem map_eq_of_flatMap_eq (occupied : ∀ value, encode value ≠ []) {left right : List Value}
    (aligned : Aligned (fun value => (encode value).length) left right)
    (same : left.flatMap encode = right.flatMap encode) : left.map encode = right.map encode := by
  induction left generalizing right with
  | nil =>
    cases right with
    | nil => rfl
    | cons value rest =>
      exact absurd (List.append_eq_nil_iff.mp same.symm).1 (occupied value)
  | cons value rest ih =>
    cases right with
    | nil => exact absurd (List.append_eq_nil_iff.mp same).1 (occupied value)
    | cons other more =>
      rw [List.flatMap_cons, List.flatMap_cons] at same
      -- Codes that are equally long end at the same place.
      obtain ⟨first, later⟩ := List.append_inj same (aligned 0 value other rfl rfl)
      rw [List.map_cons, List.map_cons, first,
        ih (fun position => aligned (position + 1)) later]

end Codes

/-- Bytes behind their length, which is written with eight bytes. -/
def lengthPrefixed (bytes : Bytes) : Bytes := beBytes 8 bytes.length ++ bytes

/-- Bytes behind their length are a code for those whose length fits. -/
theorem prefixFree_lengthPrefixed : PrefixFree lengthPrefixed (·.length < 2 ^ 64) := by
  intro left right leftFits rightFits leftRest rightRest same
  rw [lengthPrefixed, lengthPrefixed, List.append_assoc, List.append_assoc] at same
  -- The lengths are written with as many bytes, so they are compared first.
  obtain ⟨lengths, later⟩ := List.append_inj same (by rw [length_beBytes, length_beBytes])
  have equal : left.length = right.length :=
    beBytes_injective (by simpa using leftFits) (by simpa using rightFits) lengths
  exact (List.append_inj later equal).1

end Rust
