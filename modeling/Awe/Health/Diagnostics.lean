import Awe.Rust.Run
import Awe.Rust.Text

/-! What a node writes into its log, with secrets taken out. -/

namespace Awe

open Rust

namespace NodeDiagnostics

/-- The words after which a secret may follow. -/
def keys : List (List Char) :=
  ["password".toList, "secret".toList, "private_key".toList, "vault_key".toList, "seed".toList]

/-- What is written in the place of a secret. -/
def mark : List Char := " [REDACTED]".toList

/--
One turn of the loop of `sanitizeLog`, which takes out what follows one of the keys.

There is no result where a slice panics.
-/
def redact (toLowercase : List Char → List Char) (sanitized key : List Char) :
    Option (List Char) :=
  match Text.find key (toLowercase sanitized) with
  | none => some sanitized
  | some idx =>
    -- The position is one in the copy, and used for the text itself.
    (Text.sliceFrom sanitized idx).bind fun tail =>
      match Text.find [':'] tail with
      | none => some sanitized
      | some colon =>
        let stop := (Text.find ['\n'] tail).getD (Rust.Json.byteCount tail)
        (Text.slice tail (colon + 1) stop).map fun secretPart =>
          Text.replace secretPart mark sanitized

/-- Take secrets out of a log message. -/
def sanitizeLog (toLowercase : List Char → List Char) (input : List Char) : Option (List Char) :=
  keys.foldlM (redact toLowercase) input

/--
The slices that are taken for a key fit the text.

A key that is in the copy stands there at a position that is not inside a character of the text.
The first line that ends behind this position has a colon, or none follows.
-/
def SlicesFit (toLowercase : List Char → List Char) (text key : List Char) : Prop :=
  ∀ idx, Text.find key (toLowercase text) = some idx →
    ∃ before tail, text = before ++ tail ∧ Rust.Json.byteCount before = idx ∧
      ∀ line rest, tail = line ++ '\n' :: rest → ':' ∈ rest → ':' ∈ line

variable {toLowercase : List Char → List Char} {text key tail : List Char}

/-- What is sliced out for a key, if a colon follows: the rest of the line of the colon. -/
theorem slice_secretPart {before line : List Char} (single : '\n' ∉ before ++ ':' :: line)
    (ended : tail = [] ∨ ∃ rest, tail = '\n' :: rest) :
    Text.slice (before ++ ':' :: line ++ tail) (Rust.Json.byteCount before + 1)
      ((Text.find ['\n'] (before ++ ':' :: line ++ tail)).getD
        (Rust.Json.byteCount (before ++ ':' :: line ++ tail))) = some line := by
  rw [Text.find_lineEnd single ended]
  -- The slice is what stands between the colon and the line end.
  have sliced := Text.slice_append (before ++ [':']) line tail
  have colon : Rust.Json.byteCount (before ++ [':']) = Rust.Json.byteCount before + 1 := by
    simp [show Char.utf8Size ':' = 1 by decide]
  rw [colon] at sliced
  simpa using sliced

/-- The slice behind the first colon is refused if the line ends before it. -/
theorem slice_secretPart_isSome_iff {before after : List Char} :
    (Text.slice (before ++ ':' :: after) (Rust.Json.byteCount before + 1)
      ((Text.find ['\n'] (before ++ ':' :: after)).getD
        (Rust.Json.byteCount (before ++ ':' :: after)))).isSome ↔ '\n' ∉ before := by
  by_cases ended : '\n' ∈ before
  · -- The line ends before the colon, so the end of the slice is before its start.
    obtain ⟨line, rest, rfl, single⟩ := List.eq_append_cons_of_mem ended
    rw [List.append_assoc, List.cons_append, Text.find_singleton single,
      Option.getD_some, Text.slice_eq_none_of_lt]
    · simp
    · simp only [Rust.Json.byteCount_append]
      omega
  · -- The line goes on behind the colon, and the slice is what is left of it.
    obtain ⟨line, tail, rfl, single, ended'⟩ := Text.exists_line after
    have one : '\n' ∉ before ++ ':' :: line := by simp [ended, single]
    have sliced := slice_secretPart one ended'
    rw [List.append_assoc, List.cons_append] at sliced
    rw [sliced]
    exact iff_of_true rfl ended

/-- A line that ends in front of the first colon is one that ends before it. -/
theorem newline_before_colon_iff {before after : List Char} (first : ':' ∉ before) :
    '\n' ∉ before ↔ ∀ line rest, before ++ ':' :: after = line ++ '\n' :: rest →
      ':' ∈ rest → ':' ∈ line := by
  constructor
  · -- A line of the text is longer than what stands before the colon.
    intro single line rest same _
    rcases List.append_eq_append_iff.1 same with ⟨middle, rfl, split⟩ | ⟨middle, rfl, split⟩
    · cases middle with
      | nil => simp at split
      | cons c middle =>
        obtain ⟨rfl, -⟩ := List.cons.inj split
        simp
    · cases middle with
      | nil => simp at split
      | cons c middle =>
        obtain ⟨rfl, -⟩ := List.cons.inj split
        simp at single
  · intro ordered within
    obtain ⟨line, rest, rfl, -⟩ := List.eq_append_cons_of_mem within
    have colon := ordered line (rest ++ ':' :: after) (by simp) (by simp)
    exact first (List.mem_append_left _ colon)

/-- Where the text can be sliced at the position of a key, only the lines behind it matter. -/
theorem slicesFit_iff {idx : Nat} (found : Text.find key (toLowercase text) = some idx)
    (sliced : Text.sliceFrom text idx = some tail) :
    SlicesFit toLowercase text key ↔
      ∀ line rest, tail = line ++ '\n' :: rest → ':' ∈ rest → ':' ∈ line := by
  constructor
  · intro fits
    -- Both ways to split the text are at the same position.
    obtain ⟨before, other, split, sized, ordered⟩ := fits idx found
    have same := sliced.symm.trans (Text.sliceFrom_eq_some_iff.2 ⟨before, split, sized⟩)
    obtain rfl := Option.some.inj same
    exact ordered
  · intro ordered idx' found'
    obtain rfl := Option.some.inj (found.symm.trans found')
    obtain ⟨before, split, sized⟩ := Text.sliceFrom_eq_some_iff.1 sliced
    exact ⟨before, tail, split, sized, ordered⟩

/-- A turn has a result exactly if the slices that it takes fit. -/
theorem redact_isSome_iff :
    (redact toLowercase text key).isSome ↔ SlicesFit toLowercase text key := by
  unfold redact
  cases found : Text.find key (toLowercase text) with
  | none => exact iff_of_true rfl fun idx found' => by simp [found'] at found
  | some idx =>
    cases sliced : Text.sliceFrom text idx with
    | none =>
      refine iff_of_false (by simp [sliced]) fun fits => ?_
      -- The position is inside a character, where the text cannot be split.
      obtain ⟨before, tail, split, sized, -⟩ := fits idx found
      rw [Text.sliceFrom_eq_some_iff.2 ⟨before, split, sized⟩] at sliced
      cases sliced
    | some tail =>
      rw [slicesFit_iff found sliced]
      simp only [sliced, Option.bind_some]
      by_cases colon : ':' ∈ tail
      · obtain ⟨before, after, rfl, first⟩ := List.eq_append_cons_of_mem colon
        rw [Text.find_singleton first, ← newline_before_colon_iff first, Option.isSome_map]
        exact slice_secretPart_isSome_iff
      · -- Without a colon nothing more is sliced.
        rw [Text.find_singleton_eq_none colon]
        refine iff_of_true rfl fun line rest split behind => absurd ?_ colon
        simp [split, behind]

/-- A message has its secrets taken out exactly if the slices of every turn fit. -/
theorem sanitizeLog_isSome_iff (toLowercase : List Char → List Char) (input : List Char) :
    (sanitizeLog toLowercase input).isSome ↔
      EveryStep (fun text key => (redact toLowercase text key).getD text)
        (SlicesFit toLowercase) input keys := by
  rw [sanitizeLog]
  generalize keys = keys
  induction keys generalizing input with
  | nil => exact iff_of_true rfl trivial
  | cons key rest ih =>
    rw [List.foldlM_cons, EveryStep, ← redact_isSome_iff]
    cases redact toLowercase input key with
    -- The loop ends with the turn that panics.
    | none => simp
    | some sanitized => simpa using ih sanitized

/-- A line that ends between a key and the colon behind it makes the call panic. -/
theorem broken_label_panics :
    sanitizeLog (List.map Char.toLower) "password\n:".toList = none := by
  decide +kernel

end NodeDiagnostics

end Awe
