import Awe.Rust.JsonSize

/-! Searching, slicing and replacing in a text whose positions are counted in bytes. -/

namespace Rust

namespace Text

open Json (byteCount)

/-- The characters before a position and those behind it, if the position is not inside one. -/
def splitAt : List Char → Nat → Option (List Char × List Char)
  | text, 0 => some ([], text)
  | [], _ + 1 => none
  | c :: rest, position + 1 =>
    if c.utf8Size ≤ position + 1 then
      (splitAt rest (position + 1 - c.utf8Size)).map fun parts => (c :: parts.1, parts.2)
    else none

/-- The text from a position on. -/
def sliceFrom (text : List Char) (start : Nat) : Option (List Char) :=
  (splitAt text start).map Prod.snd

/-- The text from one position up to another, which is not to be before it. -/
def slice (text : List Char) (start stop : Nat) : Option (List Char) :=
  if start ≤ stop then
    (sliceFrom text start).bind fun tail => (splitAt tail (stop - start)).map Prod.fst
  else none

/-- The position at which a pattern first stands in a text. -/
def find (pattern : List Char) : List Char → Option Nat
  | [] => if pattern = [] then some 0 else none
  | c :: rest =>
    if pattern <+: c :: rest then some 0 else (find pattern rest).map (· + c.utf8Size)

/-- Replace a pattern that is not empty, first passing by characters that were replaced already. -/
def replaceFrom (pattern mark : List Char) : Nat → List Char → List Char
  | _, [] => []
  | skipped + 1, _ :: rest => replaceFrom pattern mark skipped rest
  | 0, c :: rest =>
    if pattern <+: c :: rest then mark ++ replaceFrom pattern mark (pattern.length - 1) rest
    else c :: replaceFrom pattern mark 0 rest

/-- Replace a pattern wherever it stands, from the left; an empty one stands at every position. -/
def replace (pattern mark text : List Char) : List Char :=
  if pattern = [] then text.flatMap (fun c => mark ++ [c]) ++ mark
  else replaceFrom pattern mark 0 text

/-- How often a pattern stands in a text, where it may overlap with itself. -/
def occurrences (pattern text : List Char) : Nat :=
  text.tails.countP fun tail => pattern <+: tail

/-- Lines one below the other. -/
def joinLines (lines : List (List Char)) : List Char := ['\n'].intercalate lines

variable {text before tail pattern mark line : List Char} {c : Char} {position start stop : Nat}

section Slices

/-- A position splits a text where the characters before it take as many bytes. -/
theorem splitAt_eq_some_iff :
    splitAt text position = some (before, tail) ↔
      text = before ++ tail ∧ byteCount before = position := by
  induction text generalizing position before with
  | nil =>
    -- Nothing is behind the end but the end itself.
    cases position with
    | zero => cases before <;> simp [splitAt, eq_comm]
    | succ position => cases before <;> simp [splitAt]
  | cons c rest ih =>
    have positive := c.utf8Size_pos
    cases position with
    | zero =>
      cases before with
      | nil => simp [splitAt, eq_comm]
      | cons first others =>
        -- A character takes a byte at least, so none stands before position zero.
        have taken := first.utf8Size_pos
        simp only [splitAt, Option.some.injEq, Prod.mk.injEq, reduceCtorEq, false_and,
          Json.byteCount_cons, false_iff]
        omega
    | succ position =>
      cases before with
      | nil =>
        simp only [splitAt, List.nil_append, Json.byteCount_nil, Nat.right_eq_add, reduceCtorEq,
          and_false, iff_false]
        split <;> simp
      | cons first others =>
        simp only [splitAt, List.cons_append, List.cons.injEq, Json.byteCount_cons]
        split
        · -- The first character is passed, and the others are split.
          simp only [Option.map_eq_some_iff, Prod.mk.injEq, List.cons.injEq, Prod.exists]
          grind
        · -- The position is inside the first character.
          refine iff_of_false (by simp) ?_
          rintro ⟨⟨rfl, -⟩, sized⟩
          omega

/-- Behind some characters stands the rest. -/
theorem sliceFrom_append (before tail : List Char) :
    sliceFrom (before ++ tail) (byteCount before) = some tail := by
  simp [sliceFrom, splitAt_eq_some_iff.2 ⟨rfl, rfl⟩]

/-- Behind as many bytes of a text stands the same rest. -/
theorem append_right_inj_of_byteCount {other rest : List Char}
    (same : before ++ tail = other ++ rest) (sized : byteCount before = byteCount other) :
    tail = rest := by
  have sliced := sliceFrom_append before tail
  rw [same, sized, sliceFrom_append] at sliced
  exact (Option.some.inj sliced).symm

/-- A slice from a position on is what stands behind characters that take as many bytes. -/
theorem sliceFrom_eq_some_iff :
    sliceFrom text start = some tail ↔
      ∃ before, text = before ++ tail ∧ byteCount before = start := by
  simp [sliceFrom, splitAt_eq_some_iff]

/-- Between two parts of a text stands what is not of them. -/
theorem slice_append (before middle after : List Char) :
    slice (before ++ middle ++ after) (byteCount before) (byteCount (before ++ middle)) =
      some middle := by
  have split : splitAt (middle ++ after) (byteCount middle) = some (middle, after) :=
    splitAt_eq_some_iff.2 ⟨rfl, rfl⟩
  rw [slice, if_pos (by simp), List.append_assoc, sliceFrom_append]
  simp [split]

/-- A slice whose end is before its start is refused. -/
theorem slice_eq_none_of_lt (crossed : stop < start) : slice text start stop = none :=
  if_neg (by omega)

end Slices

section Finding

/-- A pattern that does not have a character stands in front of it if it stands at the start. -/
theorem prefix_of_append_cons (line : List Char) (outside : c ∉ pattern)
    (starts : pattern <+: line ++ c :: tail) : pattern <+: line := by
  induction pattern generalizing line with
  | nil => exact List.nil_prefix
  | cons first others ih =>
    rw [List.mem_cons, not_or] at outside
    cases line with
    -- The pattern would start with the character that it does not have.
    | nil => exact absurd (List.cons_prefix_cons.1 starts).1.symm outside.1
    | cons head line =>
      have both := List.cons_prefix_cons.1 starts
      exact List.cons_prefix_cons.2 ⟨both.1, ih line outside.2 both.2⟩

/-- A pattern is found exactly if it stands in the text. -/
theorem find_eq_none_iff : find pattern text = none ↔ ¬ pattern <:+: text := by
  induction text with
  | nil => simp [find]
  | cons c rest ih =>
    rw [find, List.infix_cons_iff]
    split <;> simp_all

/-- In two lines, a pattern within a line is found in the first, or else in the second. -/
theorem find_append_cons (present : pattern ≠ []) (outside : c ∉ pattern) (line tail : List Char) :
    find pattern (line ++ c :: tail) =
      (find pattern line).or ((find pattern tail).map (· + byteCount (line ++ [c]))) := by
  induction line with
  | nil =>
    -- The pattern does not start at the character between the lines.
    have behind : ¬ pattern <+: c :: tail := fun starts =>
      present (List.prefix_nil.1 (prefix_of_append_cons [] outside starts))
    simp [find, present, behind]
  | cons head line ih =>
    rw [List.cons_append, find, find]
    by_cases starts : pattern <+: head :: line
    · -- It stands at the start of the first line, and so of both.
      have longer : pattern <+: head :: (line ++ c :: tail) :=
        starts.trans (List.prefix_append (head :: line) (c :: tail))
      rw [if_pos starts, if_pos longer, Option.some_or]
    · -- It does not reach from the first line into the second one.
      have behind : ¬ pattern <+: head :: (line ++ c :: tail) := fun longer =>
        starts (prefix_of_append_cons (head :: line) outside longer)
      rw [if_neg starts, if_neg behind, ih]
      cases find pattern line with
      | some position => rfl
      | none =>
        cases find pattern tail with
        | none => rfl
        | some position => simp; omega

/-- A character is found behind those that are not it. -/
theorem find_singleton (behind : c ∉ before) (tail : List Char) :
    find [c] (before ++ c :: tail) = some (byteCount before) := by
  induction before with
  | nil => simp [find]
  | cons head before ih =>
    rw [List.mem_cons, not_or] at behind
    -- The first character is another one.
    have apart : ¬ [c] <+: head :: (before ++ c :: tail) := fun starts =>
      behind.1 (List.cons_prefix_cons.1 starts).1
    rw [List.cons_append, find, if_neg apart, ih behind.2]
    simp [Nat.add_comm]

/-- A character is not found in a text that does not have it. -/
theorem find_singleton_eq_none (absent : c ∉ text) : find [c] text = none :=
  find_eq_none_iff.2 fun within => absent (within.subset (List.mem_singleton_self c))

/-- The first line of a text ends where the next one begins, or else where the text ends. -/
theorem find_lineEnd (single : '\n' ∉ line) (ended : tail = [] ∨ ∃ rest, tail = '\n' :: rest) :
    (find ['\n'] (line ++ tail)).getD (byteCount (line ++ tail)) = byteCount line := by
  rcases ended with rfl | ⟨rest, rfl⟩
  · rw [List.append_nil, find_singleton_eq_none single, Option.getD_none]
  · rw [find_singleton single, Option.getD_some]

/-- Every text has a first line. -/
theorem exists_line (text : List Char) : ∃ line tail, text = line ++ tail ∧ '\n' ∉ line ∧
    (tail = [] ∨ ∃ rest, tail = '\n' :: rest) := by
  by_cases within : '\n' ∈ text
  · obtain ⟨line, rest, rfl, single⟩ := List.eq_append_cons_of_mem within
    exact ⟨line, '\n' :: rest, rfl, single, .inr ⟨rest, rfl⟩⟩
  · exact ⟨text, [], (List.append_nil text).symm, within, .inl rfl⟩

end Finding

section Replacing

/-- Characters that were replaced already are passed by. -/
theorem replaceFrom_append (pattern mark skipped tail : List Char) :
    replaceFrom pattern mark skipped.length (skipped ++ tail) =
      replaceFrom pattern mark 0 tail := by
  induction skipped with
  | nil => rfl
  | cons c skipped ih => simpa [replaceFrom] using ih

/-- A pattern stands as often in a longer text as in a part behind, or more often. -/
theorem occurrences_le_append (pattern before tail : List Char) :
    occurrences pattern tail ≤ occurrences pattern (before ++ tail) := by
  induction before with
  | nil => exact Nat.le_refl _
  | cons c before ih =>
    refine ih.trans ?_
    simp [occurrences, List.countP_cons]

/-- The occurrences of a pattern are the one at the start and those behind. -/
theorem occurrences_cons (pattern : List Char) (c : Char) (rest : List Char) :
    occurrences pattern (c :: rest) =
      occurrences pattern rest + if pattern <+: c :: rest then 1 else 0 := by
  simp [occurrences, List.countP_cons]

/-- A text in which a pattern does not stand is kept. -/
theorem replaceFrom_of_absent (absent : occurrences pattern text = 0) :
    replaceFrom pattern mark 0 text = text := by
  induction text with
  | nil => rfl
  | cons c rest ih =>
    rw [occurrences_cons] at absent
    split at absent
    case isTrue => omega
    case isFalse apart => rw [replaceFrom, if_neg apart, ih absent]

/-- A pattern that stands in a text once is replaced there, and nothing else is. -/
theorem replace_of_once (once : occurrences pattern (before ++ pattern ++ tail) = 1) :
    replace pattern mark (before ++ pattern ++ tail) = before ++ mark ++ tail := by
  cases pattern with
  | nil =>
    -- An empty pattern stands in a text once if the text is empty itself.
    obtain ⟨rfl, rfl⟩ : before = [] ∧ tail = [] := by
      simp only [occurrences, List.nil_prefix, decide_true, List.countP_true, List.length_tails,
        List.length_append, List.length_nil] at once
      exact ⟨List.length_eq_zero_iff.1 (by omega), List.length_eq_zero_iff.1 (by omega)⟩
    simp [replace]
  | cons first others =>
    rw [replace, if_neg (List.cons_ne_nil _ _)]
    induction before with
    | nil =>
      have starts : first :: others <+: first :: (others ++ tail) := ⟨tail, rfl⟩
      -- The one occurrence is at the start, so none is left behind it.
      have behind : occurrences (first :: others) tail = 0 := by
        rw [List.nil_append, List.cons_append, occurrences_cons, if_pos starts] at once
        have fewer := occurrences_le_append (first :: others) others tail
        omega
      rw [List.nil_append, List.cons_append, replaceFrom, if_pos starts, List.length_cons,
        Nat.add_sub_cancel, replaceFrom_append, replaceFrom_of_absent behind, List.nil_append]
    | cons c before ih =>
      rw [List.cons_append, List.cons_append, occurrences_cons] at once
      -- The pattern stands behind, so it does not stand here too.
      have there : 0 < occurrences (first :: others) (before ++ first :: others ++ tail) := by
        rw [List.append_assoc]
        refine Nat.lt_of_lt_of_le ?_ (occurrences_le_append (first :: others) before _)
        rw [List.cons_append, occurrences_cons, if_pos ⟨tail, rfl⟩]
        exact Nat.succ_pos _
      split at once
      case isTrue => omega
      case isFalse apart =>
        rw [List.cons_append, List.cons_append, replaceFrom, if_neg apart, ih once]
        rfl

/-- To replace a pattern by itself changes nothing. -/
theorem replaceFrom_self (pattern : List Char) (present : pattern ≠ []) (skipped : Nat)
    (text : List Char) : replaceFrom pattern pattern skipped text = text.drop skipped := by
  induction text generalizing skipped with
  | nil => cases skipped <;> rfl
  | cons c rest ih =>
    cases skipped with
    | succ skipped => exact ih skipped
    | zero =>
      rw [replaceFrom, ih, ih]
      split
      case isFalse => rfl
      case isTrue starts =>
        -- What is put in is what was there.
        obtain ⟨tail, same⟩ := starts
        cases pattern with
        | nil => exact absurd rfl present
        | cons first others =>
          obtain ⟨rfl, rfl⟩ := List.cons.inj same
          simp

/-- To replace a pattern by itself changes nothing, if it is not empty. -/
theorem replace_self (present : pattern ≠ []) (text : List Char) :
    replace pattern pattern text = text := by
  rw [replace, if_neg present, replaceFrom_self pattern present, List.drop_zero]

end Replacing

section Lines

/-- The lines up to one, each of them with its end. -/
def endedLines (lines : List (List Char)) : List Char := lines.flatMap fun line => line ++ ['\n']

/-- The lines behind one, each of them begun. -/
def begunLines (lines : List (List Char)) : List Char := lines.flatMap fun line => '\n' :: line

/-- Lines that follow a first one are begun behind it. -/
theorem joinLines_cons (line : List Char) (rest : List (List Char)) :
    joinLines (line :: rest) = line ++ begunLines rest := by
  induction rest generalizing line with
  | nil => simp [joinLines, begunLines]
  | cons next rest ih =>
    rw [joinLines, List.intercalate_cons_cons, ← joinLines, ih]
    simp [begunLines]

/-- A line stands between those before it and those behind it. -/
theorem joinLines_append_cons (before : List (List Char)) (line : List Char)
    (after : List (List Char)) :
    joinLines (before ++ line :: after) = endedLines before ++ line ++ begunLines after := by
  induction before with
  | nil => simp [joinLines_cons, endedLines]
  | cons first before ih =>
    rw [List.cons_append, joinLines, List.intercalate_cons_of_ne_nil (by simp), ← joinLines, ih]
    simp [endedLines]

/-- A pattern that no line has is found behind them. -/
theorem find_endedLines (present : pattern ≠ []) (within : '\n' ∉ pattern)
    {lines : List (List Char)} (absent : ∀ line ∈ lines, ¬ pattern <:+: line) (tail : List Char) :
    find pattern (endedLines lines ++ tail) =
      (find pattern tail).map (· + byteCount (endedLines lines)) := by
  induction lines with
  | nil => simp [endedLines]
  | cons line lines ih =>
    have first := find_eq_none_iff.2 (absent line List.mem_cons_self)
    have later := ih fun line member => absent line (List.mem_cons_of_mem _ member)
    -- The pattern is not in the first line, and not in those behind it.
    have split : endedLines (line :: lines) ++ tail =
        line ++ '\n' :: (endedLines lines ++ tail) := by simp [endedLines]
    rw [split, find_append_cons present within, first, later, Option.none_or, Option.map_map]
    refine congrArg (Option.map · _) (funext fun position => ?_)
    simp only [Function.comp_apply, endedLines, List.flatMap_cons, Json.byteCount_append]
    omega

/-- Behind a line stands nothing, or the begin of the next one. -/
theorem begunLines_ended (lines : List (List Char)) :
    begunLines lines = [] ∨ ∃ rest, begunLines lines = '\n' :: rest := by
  cases lines with
  | nil => exact .inl rfl
  | cons line lines => exact .inr ⟨line ++ begunLines lines, by simp [begunLines]⟩

/-- A pattern that a line has is found in it, whatever stands on the lines behind. -/
theorem find_begunLines (present : pattern ≠ []) (within : '\n' ∉ pattern)
    (found : find pattern line = some position) (lines : List (List Char)) :
    find pattern (line ++ begunLines lines) = some position := by
  rcases begunLines_ended lines with nothing | ⟨rest, begun⟩
  · rw [nothing, List.append_nil, found]
  · rw [begun, find_append_cons present within, found, Option.some_or]

/-- Texts of equally many lines are the same if each line is. -/
theorem joinLines_injective {lines others : List (List Char)}
    (single : ∀ line ∈ lines, '\n' ∉ line) (single' : ∀ line ∈ others, '\n' ∉ line)
    (sized : lines.length = others.length) :
    joinLines lines = joinLines others ↔ lines = others := by
  refine ⟨fun same => ?_, congrArg joinLines⟩
  by_cases empty : lines = []
  · rw [empty] at sized ⊢
    exact (List.length_eq_zero_iff.1 sized.symm).symm
  · have empty' : others ≠ [] := fun none => empty (by simpa [none] using sized)
    -- Lines are read back from the text by splitting it at their ends.
    rw [← List.splitOn_intercalate '\n' single empty,
      ← List.splitOn_intercalate '\n' single' empty']
    exact congrArg (List.splitOn '\n') same

end Lines

section Rows

variable {Symbol : Type} [DecidableEq Symbol]

/-- The place at which a pattern that is not empty first stands in a row: `windows`, `position`. -/
def firstAt (pattern : List Symbol) : List Symbol → Option Nat
  | [] => none
  | symbol :: rest =>
    if pattern <+: symbol :: rest then some 0 else (firstAt pattern rest).map (· + 1)

/-- What stands between the first and the second place of a pattern: `split`, `nth(1)`. -/
def secondPiece (pattern row : List Symbol) : Option (List Symbol) :=
  match firstAt pattern row with
  | none => none
  | some place =>
    let behind := row.drop (place + pattern.length)
    match firstAt pattern behind with
    | none => some behind
    | some next => some (behind.take next)

variable {pattern row more line : List Symbol} {place size : Nat} {symbol cr lf : Symbol}

/-- A pattern stands at its first place, and at none before it. -/
theorem firstAt_eq_some_iff (present : pattern ≠ []) : firstAt pattern row = some place ↔
    pattern <+: row.drop place ∧ ∀ before < place, ¬ pattern <+: row.drop before := by
  induction row generalizing place with
  | nil =>
    simp only [firstAt, reduceCtorEq, List.drop_nil, List.prefix_nil, false_iff, not_and]
    exact fun empty => absurd empty present
  | cons symbol rest ih =>
    rw [firstAt]
    split
    · rename_i here
      constructor
      · rintro found
        cases found
        exact ⟨here, fun before none => absurd none (Nat.not_lt_zero before)⟩
      · rintro ⟨_, first⟩
        cases place with
        | zero => rfl
        | succ place => exact absurd here (first 0 (Nat.succ_pos place))
    · rename_i elsewhere
      cases place with
      | zero => simp [elsewhere]
      | succ place =>
        -- The places of the rest are those of the row, one further on.
        rw [Option.map_eq_some_iff]
        simp only [Nat.add_right_cancel_iff, exists_eq_right, List.drop_succ_cons, ih]
        refine and_congr_right fun _ => ⟨fun first before inside => ?_, fun first before inside => ?_⟩
        · cases before with
          | zero => exact elsewhere
          | succ before => exact first before (Nat.lt_of_succ_lt_succ inside)
        · exact first (before + 1) (Nat.succ_lt_succ inside)

/-- A pattern stands nowhere in a row without it. -/
theorem firstAt_eq_none_iff (present : pattern ≠ []) :
    firstAt pattern row = none ↔ ¬ pattern <:+: row := by
  induction row with
  | nil => simp [firstAt, present]
  | cons symbol rest ih =>
    rw [firstAt, List.infix_cons_iff, not_or, ← ih]
    split
    · simp_all
    · simp_all

/-- A pattern stands first in the beginning of a row where it does in the row, if it fits there. -/
theorem firstAt_take (present : pattern ≠ []) : firstAt pattern (row.take size) = some place ↔
    firstAt pattern row = some place ∧ place + pattern.length ≤ size := by
  have filled := List.length_pos_of_ne_nil present
  have within (start : Nat) : pattern <+: (row.take size).drop start ↔
      pattern <+: row.drop start ∧ start + pattern.length ≤ size := by
    rw [List.drop_take, List.prefix_take_iff]
    exact and_congr_right fun _ => by omega
  rw [firstAt_eq_some_iff present, firstAt_eq_some_iff present, within]
  constructor
  · rintro ⟨⟨here, fits⟩, first⟩
    refine ⟨⟨here, fun before inside there => first before inside ?_⟩, fits⟩
    exact (within before).mpr ⟨there, by omega⟩
  · rintro ⟨⟨here, first⟩, fits⟩
    exact ⟨⟨here, fits⟩, fun before inside there =>
      first before inside ((within before).mp there).1⟩

/-- A row without the first symbol of a pattern is passed by. -/
theorem firstAt_append (absent : symbol ∉ line) (tail : List Symbol) :
    firstAt (symbol :: pattern) (line ++ tail) =
      (firstAt (symbol :: pattern) tail).map (· + line.length) := by
  induction line with
  | nil => simp
  | cons first rest ih =>
    have other : ¬ symbol :: pattern <+: first :: (rest ++ tail) := fun here =>
      absurd (List.cons_prefix_cons.mp here).1 (List.ne_of_not_mem_cons absent)
    rw [List.cons_append, firstAt, if_neg other, ih (List.not_mem_of_not_mem_cons absent),
      Option.map_map]
    rfl

/-- The lines of a head, each with its ending. -/
def headLines (cr lf : Symbol) (lines : List (List Symbol)) : List Symbol :=
  lines.flatMap fun line => line ++ [cr, lf]

/-- The first empty line is the one behind a head, in which no line is empty or broken. -/
theorem firstAt_headLines (distinct : lf ≠ cr) {first : List Symbol} {lines : List (List Symbol)}
    (whole : ∀ line ∈ first :: lines, cr ∉ line) (filled : ∀ line ∈ lines, line ≠ [])
    (tail : List Symbol) :
    firstAt [cr, lf, cr, lf] (headLines cr lf (first :: lines) ++ cr :: lf :: tail) =
      some ((headLines cr lf (first :: lines)).length - 2) := by
  induction lines generalizing first with
  | nil =>
    have absent := whole first List.mem_cons_self
    have here : [cr, lf, cr, lf] <+: cr :: lf :: cr :: lf :: tail := ⟨tail, rfl⟩
    simp only [headLines, List.flatMap_cons, List.flatMap_nil, List.append_nil, List.append_assoc,
      List.cons_append, List.nil_append]
    rw [firstAt_append absent, firstAt, if_pos here]
    simp
  | cons second others ih =>
    have absent := whole first List.mem_cons_self
    have rest := ih (fun line member => whole line (List.mem_cons_of_mem _ member))
      fun line member => filled line (List.mem_cons_of_mem _ member)
    -- The next line has a symbol, which is no line ending, so the two endings do not meet.
    obtain ⟨symbol, further, spelled⟩ := List.exists_cons_of_ne_nil (filled second List.mem_cons_self)
    have other : symbol ≠ cr := by
      intro same
      refine whole second (List.mem_cons_of_mem _ List.mem_cons_self) ?_
      rw [spelled, same]
      exact List.mem_cons_self
    have split : headLines cr lf (first :: second :: others) ++ cr :: lf :: tail =
        first ++ cr :: lf :: (headLines cr lf (second :: others) ++ cr :: lf :: tail) := by
      simp [headLines]
    have begun : ∃ next, headLines cr lf (second :: others) ++ cr :: lf :: tail = symbol :: next := by
      rw [headLines, List.flatMap_cons, spelled]
      exact ⟨_, rfl⟩
    have size : 2 ≤ (headLines cr lf (second :: others)).length := by
      simp [headLines]
      omega
    have sum : (headLines cr lf (first :: second :: others)).length =
        first.length + 2 + (headLines cr lf (second :: others)).length := by
      simp [headLines]
      omega
    rw [split, firstAt_append absent]
    obtain ⟨next, begun⟩ := begun
    rw [begun] at rest ⊢
    rw [firstAt, if_neg fun here => other (List.cons_prefix_cons.mp
      (List.cons_prefix_cons.mp (List.cons_prefix_cons.mp here).2).2).1.symm]
    rw [firstAt, if_neg fun here => distinct (List.cons_prefix_cons.mp here).1.symm, rest]
    simp only [Option.map_some, Option.some.injEq]
    omega

/-- What follows a head is its second piece, as far as it has no empty line of its own. -/
theorem secondPiece_headLines (distinct : lf ≠ cr) {first : List Symbol}
    {lines : List (List Symbol)} (whole : ∀ line ∈ first :: lines, cr ∉ line)
    (filled : ∀ line ∈ lines, line ≠ []) (tail : List Symbol) :
    secondPiece [cr, lf, cr, lf] (headLines cr lf (first :: lines) ++ cr :: lf :: tail) =
      some (match firstAt [cr, lf, cr, lf] tail with
        | none => tail
        | some place => tail.take place) := by
  have size : 2 ≤ (headLines cr lf (first :: lines)).length := by
    simp [headLines]
    omega
  have behind : (headLines cr lf (first :: lines) ++ cr :: lf :: tail).drop
      ((headLines cr lf (first :: lines)).length - 2 + 4) = tail := by
    have sum : (headLines cr lf (first :: lines)).length - 2 + 4 =
        (headLines cr lf (first :: lines)).length + 2 := by omega
    rw [sum, ← List.drop_drop, List.drop_left]
    rfl
  rw [secondPiece, firstAt_headLines distinct whole filled]
  dsimp only
  have four : [cr, lf, cr, lf].length = 4 := rfl
  rw [four, behind]
  split <;> simp_all

end Rows

end Text

end Rust
