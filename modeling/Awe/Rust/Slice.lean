import Awe.Rust.Integer
import Awe.Rust.Panic

/-! Slices, indices and checked arithmetic: where a program panics instead of going on. -/

namespace Rust

/-- How a call fails: with an error that it returns, or by a panic. -/
inductive Failure (Error : Type) where
  | error (error : Error)
  | panic
deriving DecidableEq

/-- Two steps in a row have a result exactly if the first has one, and the second one for it. -/
theorem bind_eq_ok_iff {Error Value Result : Type} {first : Except Error Value}
    {next : Value → Except Error Result} {result : Result} :
    (first >>= next) = .ok result ↔ ∃ value, first = .ok value ∧ next value = .ok result := by
  cases first with
  | error error =>
    exact iff_of_false (fun same => (by cases same)) fun ⟨_, same, _⟩ => (by cases same)
  | ok value =>
    change next value = .ok result ↔ _
    simp

/-- A step that has a result goes on with it. -/
theorem ok_bind {Error Value Result : Type} (value : Value) (next : Value → Except Error Result) :
    (Except.ok value >>= next) = next value := rfl

/-- A step that fails ends the whole. -/
theorem error_bind {Error Value Result : Type} (error : Error)
    (next : Value → Except Error Result) :
    (Except.error error >>= next : Except Error Result) = .error error := rfl

section Access

variable {Item Error : Type}

/-- The items from one position up to another, which are to be in order and not behind the end. -/
def slice (items : List Item) (start stop : Nat) : Except (Failure Error) (List Item) :=
  if start ≤ stop ∧ stop ≤ items.length then .ok ((items.take stop).drop start) else .error .panic

/-- The item at a position, which is to be before the end. -/
def index (items : List Item) (position : Nat) : Except (Failure Error) Item :=
  match items[position]? with
  | some item => .ok item
  | none => .error .panic

/-- Copy items into an array, which is to have as many places: `copy_from_slice`. -/
def copyFromSlice (width : Nat) (items : List Item) : Except (Failure Error) (Vector Item width) :=
  if sized : items.toArray.size = width then .ok ⟨items.toArray, sized⟩ else .error .panic

variable {items : List Item} {start stop position width : Nat}

/-- Positions that are in order and there give a slice. -/
theorem slice_of_le (ordered : start ≤ stop) (there : stop ≤ items.length) :
    (slice items start stop : Except (Failure Error) (List Item)) =
      .ok ((items.take stop).drop start) := if_pos ⟨ordered, there⟩

/-- The middle one of three rows is cut out at its ends. -/
theorem slice_append (Error : Type) (before middle after : List Item) :
    (slice (before ++ middle ++ after) before.length (before.length + middle.length) :
      Except (Failure Error) (List Item)) = .ok middle := by
  rw [slice_of_le (Nat.le_add_right _ _) (by simp only [List.length_append]; omega)]
  rw [← List.length_append, List.take_left, List.drop_left]

/-- An item that is there is found. -/
theorem index_of_lt (before : position < items.length) :
    (index items position : Except (Failure Error) Item) = .ok items[position] := by
  rw [index, List.getElem?_eq_getElem before]

/-- The items of an array are copied into one like it. -/
theorem copyFromSlice_toList (array : Vector Item width) :
    (copyFromSlice width array.toList : Except (Failure Error) (Vector Item width)) =
      .ok array := by
  rw [copyFromSlice, dif_pos (by simp)]
  rfl

end Access

section Arithmetic

variable {Error : Type}

/-- The sum of two positions, which is to fit a `usize`. -/
def addUsize (left right : Nat) : Except (Failure Error) Nat :=
  if left + right ≤ u64Max then .ok (left + right) else .error .panic

/-- Shift a `u64` to the left, by less than its width. -/
def shiftLeft (value : UInt64) (places : Nat) : Except (Failure Error) UInt64 :=
  if places < 64 then .ok (value <<< UInt64.ofNat places) else .error .panic

/-- A sum that fits is returned. -/
theorem addUsize_of_le {left right : Nat} (fits : left + right ≤ u64Max) :
    (addUsize left right : Except (Failure Error) Nat) = .ok (left + right) := if_pos fits

/-- A sum that is returned is the sum. -/
theorem addUsize_eq_ok {left right sum : Nat}
    (added : (addUsize left right : Except (Failure Error) Nat) = .ok sum) : sum = left + right := by
  rw [addUsize] at added
  split at added
  · exact (Except.ok.inj added).symm
  · cases added

/-- A shift by less than the width is returned. -/
theorem shiftLeft_of_lt {places : Nat} (small : places < 64) (value : UInt64) :
    (shiftLeft value places : Except (Failure Error) UInt64) =
      .ok (value <<< UInt64.ofNat places) := if_pos small

end Arithmetic

end Rust
