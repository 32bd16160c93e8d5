import Mathlib

/-! Calls that end without a value: by an error, by a panic, or not at all. -/

namespace Rust

/-- How a call ends without a value. -/
inductive Stop where
  | error (message : String)
  | panic
  | unfinished
deriving DecidableEq

/-- What an `Option` holds, or a panic: `unwrap`, `expect`, and an index that must be present. -/
def unwrap {Value : Type} : Option Value → Except Stop Value
  | some value => .ok value
  | none => .error .panic

/-- What an `Option` holds, or an error with a text: `ok_or`. -/
def okOr {Value : Type} (message : String) : Option Value → Except Stop Value
  | some value => .ok value
  | none => .error (.error message)

/-- An absent value is a panic. -/
@[simp] theorem unwrap_none {Value : Type} : unwrap (none : Option Value) = .error .panic := rfl

/-- A present value is returned. -/
@[simp] theorem unwrap_some {Value : Type} (value : Value) : unwrap (some value) = .ok value := rfl

/-- An absent value is an error. -/
@[simp] theorem okOr_none {Value : Type} (message : String) :
    okOr message (none : Option Value) = .error (.error message) := rfl

/-- A present value is no error. -/
@[simp] theorem okOr_some {Value : Type} (message : String) (value : Value) :
    okOr message (some value) = .ok value := rfl

/-- Two checks in a row succeed exactly if both do. -/
theorem seq_eq_ok {Error : Type} {first next : Except Error Unit} :
    (first >>= fun _ => next) = .ok () ↔ first = .ok () ∧ next = .ok () := by
  cases first with
  | error error => exact iff_of_false (fun same => (by cases same)) fun both => (by cases both.1)
  | ok value => exact (and_iff_right rfl).symm

/-- A computation in two halves avoids an error exactly if both halves do, as far as they come to run. -/
theorem bind_ne_error_iff {Error Value Result : Type} {first : Except Error Value}
    {next : Value → Except Error Result} {error : Error} :
    (first >>= next) ≠ .error error ↔
      first ≠ .error error ∧ ∀ value, first = .ok value → next value ≠ .error error := by
  cases first with
  | error other =>
    change (Except.error other : Except Error Result) ≠ .error error ↔ _
    simp
  | ok value =>
    change next value ≠ .error error ↔ _
    simp

/-- A loop of checks succeeds exactly if every check does. -/
theorem forM_eq_ok {Item Error : Type} {check : Item → Except Error Unit} {items : List Item} :
    items.forM check = .ok () ↔ ∀ item ∈ items, check item = .ok () := by
  induction items with
  | nil => simp [List.forM, pure, Except.pure]
  | cons item rest ih =>
    rw [List.forall_mem_cons, ← ih]
    exact seq_eq_ok

end Rust
