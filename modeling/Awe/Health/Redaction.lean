import Awe.Health.Diagnostics

/-! Whether a log with its secrets taken out still depends on them. -/

namespace Awe

open Rust
open Rust.Json (byteCount byteCount_append byteCount_cons)

namespace NodeDiagnostics

/-- A character that may stand on a line of ASCII text. -/
def isPlain (c : Char) : Bool := c.toNat < 128 && c != '\n'

/-- A line of ASCII text. -/
def Line := { text : List Char // text.all isPlain }
deriving DecidableEq

/-- Characters in lower case, as ASCII has it. -/
def asciiLowercase (text : List Char) : List Char := text.map Char.toLower

/-- The two logs that are compared. -/
inductive Log where
  | first
  | second
deriving DecidableEq

/-- What stands on the same line of both logs. -/
structure Entry where
  first : Line
  second : Line
deriving DecidableEq

/-- What stands on a line of one of the logs. -/
def Entry.line (self : Entry) : Log → List Char
  | .first => self.first.1
  | .second => self.second.1

/-- The text of one of the logs. -/
def text (log : Log) (entries : List Entry) : List Char :=
  Text.joinLines (entries.map fun entry => entry.line log)

/-- Logs are the same but for what stands behind the colon of lines that a key labels. -/
def DifferInSecrets (entries : List Entry) : Prop :=
  ∀ entry ∈ entries, entry.first = entry.second ∨
    ∃ label secret secret', asciiLowercase label ∈ keys ∧
      entry.first.1 = label ++ ": ".toList ++ secret ∧
        entry.second.1 = label ++ ": ".toList ++ secret'

/-- A text up to its first colon, and what follows. -/
def splitAtColon : List Char → Option (List Char × List Char)
  | [] => none
  | c :: rest =>
    if c = ':' then some ([c], rest)
    else (splitAtColon rest).map fun parts => (c :: parts.1, parts.2)

/-- A text up to the first colon behind the first mention of a key, and what follows. -/
def cut (key : List Char) : List Char → Option (List Char × List Char)
  | [] => none
  | c :: rest =>
    if key <+: asciiLowercase (c :: rest) then splitAtColon (c :: rest)
    else (cut key rest).map fun parts => (c :: parts.1, parts.2)

/-- A line with the mark in the place of what follows a key. -/
def hideText (key line : List Char) : List Char :=
  match cut key line with
  | some (front, _) => front ++ mark
  | none => line

/-- The first line that mentions a key in one of the logs or in both. -/
def firstMention (key : List Char) (entries : List Entry) : Option Nat :=
  entries.findIdx? fun entry =>
    key <:+: asciiLowercase entry.first.1 ∨ key <:+: asciiLowercase entry.second.1

/-- A function to lower case does with ASCII characters what is meant. -/
def KeepsAscii (toLowercase : List Char → List Char) : Prop :=
  ∀ text : List Char, (∀ c ∈ text, c.toNat < 128) → toLowercase text = asciiLowercase text

variable {toLowercase : List Char → List Char} {key line front rest : List Char} {c : Char}

section Cuts

/-- A text is split behind the first colon that it has. -/
theorem splitAtColon_spec (split : splitAtColon line = some (front, rest)) :
    ∃ before, ':' ∉ before ∧ front = before ++ [':'] ∧ line = before ++ ':' :: rest := by
  induction line generalizing front with
  | nil => cases split
  | cons c line ih =>
    rw [splitAtColon] at split
    split at split
    case isTrue colon =>
      obtain ⟨rfl, rfl⟩ := Prod.mk.inj (Option.some.inj split)
      -- The colon is the first character.
      exact ⟨[], by simp, by simp [colon], by simp [colon]⟩
    case isFalse other =>
      obtain ⟨⟨front', rest'⟩, behind, same⟩ := Option.map_eq_some_iff.1 split
      obtain ⟨rfl, rfl⟩ := Prod.mk.inj same
      obtain ⟨before, first, rfl, rfl⟩ := ih behind
      exact ⟨c :: before, by simp [first, Ne.symm other], rfl, rfl⟩

/-- A text that is not split has no colon. -/
theorem splitAtColon_none (split : splitAtColon line = none) : ':' ∉ line := by
  induction line with
  | nil => simp
  | cons c line ih =>
    rw [splitAtColon] at split
    split at split
    case isTrue => cases split
    case isFalse other => simp [Ne.symm other, ih (Option.map_eq_none_iff.1 split)]

/-- A key is found in the lower case of a text at its start, or else behind the first character. -/
theorem find_asciiLowercase_cons (key : List Char) (c : Char) (line : List Char) :
    Text.find key (asciiLowercase (c :: line)) =
      if key <+: asciiLowercase (c :: line) then some 0
      else (Text.find key (asciiLowercase line)).map (· + c.toLower.utf8Size) := rfl

/-- A text is cut at the colon that follows the first mention of the key. -/
theorem cut_spec (cuts : cut key line = some (front, rest)) :
    ∃ before label, ':' ∉ label ∧ front = before ++ label ++ [':'] ∧
      line = before ++ (label ++ ':' :: rest) ∧
        Text.find key (asciiLowercase line) = some (byteCount (asciiLowercase before)) := by
  induction line generalizing front with
  | nil => cases cuts
  | cons c line ih =>
    rw [cut] at cuts
    split at cuts
    case isTrue starts =>
      -- The key stands at the start, and nothing is before it.
      obtain ⟨label, first, rfl, same⟩ := splitAtColon_spec cuts
      refine ⟨[], label, first, rfl, same, ?_⟩
      rw [find_asciiLowercase_cons, if_pos starts]
      rfl
    case isFalse other =>
      obtain ⟨⟨front', rest'⟩, behind, same⟩ := Option.map_eq_some_iff.1 cuts
      obtain ⟨rfl, rfl⟩ := Prod.mk.inj same
      -- It stands later, and the first character is one of those before it.
      obtain ⟨before, label, first, rfl, split, found⟩ := ih behind
      refine ⟨c :: before, label, first, rfl, congrArg (c :: ·) split, ?_⟩
      rw [find_asciiLowercase_cons, if_neg other, found]
      simp [asciiLowercase, Nat.add_comm]

/-- A text that is not cut does not mention the key, or has no colon behind the first mention. -/
theorem cut_none (cuts : cut key line = none) :
    Text.find key (asciiLowercase line) = none ∨
      ∃ before tail, ':' ∉ tail ∧ line = before ++ tail ∧
        Text.find key (asciiLowercase line) = some (byteCount (asciiLowercase before)) := by
  induction line with
  | nil =>
    -- Only the empty text is found in a text that is empty.
    by_cases empty : key = []
    · exact .inr ⟨[], [], by simp, rfl, if_pos empty⟩
    · exact .inl (if_neg empty)
  | cons c line ih =>
    rw [cut] at cuts
    rw [find_asciiLowercase_cons]
    split at cuts
    case isTrue starts =>
      rw [if_pos starts]
      exact .inr ⟨[], c :: line, splitAtColon_none cuts, rfl, rfl⟩
    case isFalse other =>
      rw [if_neg other]
      rcases ih (Option.map_eq_none_iff.1 cuts) with absent | ⟨before, tail, colonless, rfl, found⟩
      · simp [absent]
      · refine .inr ⟨c :: before, tail, colonless, rfl, ?_⟩
        rw [found]
        simp [asciiLowercase, Nat.add_comm]

end Cuts

section Turns

/-- An ASCII character takes one byte in either case, and only a line end becomes one. -/
theorem ascii_toLower (ascii : c.toNat < 128) :
    c.utf8Size = 1 ∧ c.toLower.utf8Size = 1 ∧ (c.toLower = '\n' → c = '\n') := by
  have all : ∀ code < 128, (Char.ofNat code).utf8Size = 1 ∧
      (Char.ofNat code).toLower.utf8Size = 1 ∧
        ((Char.ofNat code).toLower = '\n' → Char.ofNat code = '\n') := by decide +kernel
  simpa using all c.toNat ascii

/-- ASCII text takes as many bytes in lower case. -/
theorem byteCount_asciiLowercase (ascii : ∀ c ∈ line, c.toNat < 128) :
    byteCount (asciiLowercase line) = byteCount line := by
  induction line with
  | nil => rfl
  | cons c line ih =>
    obtain ⟨one, one', -⟩ := ascii_toLower (ascii c List.mem_cons_self)
    rw [asciiLowercase, List.map_cons, byteCount_cons, byteCount_cons, one, one', ← asciiLowercase,
      ih fun c member => ascii c (List.mem_cons_of_mem _ member)]

/-- A turn for a key that has no colon behind its first mention does nothing. -/
theorem redact_of_cut_none (keeps : KeepsAscii toLowercase) (ascii : ∀ c ∈ line, c.toNat < 128)
    (cuts : cut key line = none) : redact toLowercase line key = some line := by
  rw [redact, keeps line ascii]
  rcases cut_none cuts with absent | ⟨before, tail, colonless, rfl, found⟩
  · rw [absent]
  · -- The position in the copy is the one in the text, as no character changes its size.
    have sized := byteCount_asciiLowercase fun c member =>
      ascii c (List.mem_append_left tail member)
    rw [found, sized]
    simp only [Text.sliceFrom_append, Option.bind_some, Text.find_singleton_eq_none colonless]

/-- A turn for a key with a colon behind it on its line replaces the rest of the line. -/
theorem redact_of_found {before label tail whole : List Char}
    (split : whole = before ++ (label ++ ':' :: rest ++ tail)) (first : ':' ∉ label)
    (single : '\n' ∉ label ++ ':' :: rest) (ended : tail = [] ∨ ∃ next, tail = '\n' :: next)
    (found : Text.find key (toLowercase whole) = some (byteCount before)) :
    redact toLowercase whole key = some (Text.replace rest mark whole) := by
  have colon : Text.find [':'] (label ++ ':' :: rest ++ tail) = some (byteCount label) := by
    rw [List.append_assoc, List.cons_append, Text.find_singleton first]
  rw [redact, found]
  simp only [split, Text.sliceFrom_append, Option.bind_some, colon, slice_secretPart single ended,
    Option.map_some]

end Turns

section Hiding

/-- A line with the mark in it is a line of ASCII text still. -/
theorem all_isPlain_hideText (key line : List Char) (plain : line.all isPlain) :
    (hideText key line).all isPlain := by
  have marked : mark.all isPlain := by decide +kernel
  rw [hideText]
  split
  case h_2 => exact plain
  case h_1 front rest cuts =>
    obtain ⟨before, label, -, rfl, rfl, -⟩ := cut_spec cuts
    simp only [List.all_append, List.all_cons, List.all_nil, Bool.and_eq_true] at plain ⊢
    exact ⟨⟨⟨plain.1, plain.2.1⟩, plain.2.2.1, trivial⟩, marked⟩

/-- A line with what follows a key hidden. -/
def Line.hide (key : List Char) (line : Line) : Line :=
  ⟨hideText key line.1, all_isPlain_hideText key line.1 line.2⟩

/-- Both logs with what follows the first mention of a key hidden on its line. -/
def hide (entries : List Entry) (key : List Char) : List Entry :=
  match firstMention key entries with
  | none => entries
  | some position => entries.modify position fun entry =>
    { first := entry.first.hide key, second := entry.second.hide key }

/--
The turn for a key takes out the rest of the same line of both logs.

Up to the colon behind the key the line is the same in both, and what follows stands in its log
once, unless it is the mark already.
-/
structure Target (entries : List Entry) (key : List Char) (position : Nat) (entry : Entry)
    (front : List Char) : Prop where
  first : firstMention key entries = some position
  there : entries[position]? = some entry
  cuts : ∀ log, ∃ rest, cut key (entry.line log) = some (front, rest) ∧
    (rest = mark ∨ Text.occurrences rest (text log entries) = 1)

/-- The turn for a key finds no colon behind it in either log, or it has a target. -/
def Targeted (entries : List Entry) (key : List Char) : Prop :=
  (∀ log, cut key (text log entries) = none) ∨
    ∃ position entry front, Target entries key position entry front

/-- The turn for a key takes out the rest of a line. -/
def Redacts (entries : List Entry) (key : List Char) (position : Nat) : Prop :=
  firstMention key entries = some position ∧
    ∃ entry, entries[position]? = some entry ∧ cut key entry.first.1 ≠ none

/-- The rest of a line is taken out at the turn of one of the keys. -/
def RedactedAt (position : Nat) : List Entry → List (List Char) → Prop
  | _, [] => False
  | entries, key :: rest =>
    Redacts entries key position ∨ RedactedAt position (hide entries key) rest

/-- The logs differ on a line. -/
def DifferAt (entries : List Entry) (position : Nat) : Prop :=
  ∃ entry, entries[position]? = some entry ∧ entry.first ≠ entry.second

variable {entries : List Entry} {entry : Entry} {position : Nat}

/-- The first line to mention a key stands behind lines that do not. -/
theorem firstMention_spec (first : firstMention key entries = some position) :
    ∃ entry, entries[position]? = some entry ∧
      entries = entries.take position ++ entry :: entries.drop (position + 1) ∧
        ∀ log, ∀ line ∈ (entries.take position).map (fun entry => asciiLowercase (entry.line log)),
          ¬ key <:+: line := by
  obtain ⟨inside, -, before⟩ := List.findIdx?_eq_some_iff_getElem.1 first
  refine ⟨entries[position], List.getElem?_eq_getElem inside, by simp, fun log line member => ?_⟩
  obtain ⟨entry, taken, rfl⟩ := List.mem_map.1 member
  obtain ⟨earlier, small, rfl⟩ := List.mem_take_iff_getElem.1 taken
  -- A line before the first one mentions the key in neither log.
  have neither := before earlier (by omega)
  simp only [decide_eq_true_eq, not_or] at neither
  cases log
  · exact neither.1
  · exact neither.2

/-- Lines in lower case end where the lines do. -/
theorem asciiLowercase_endedLines (lines : List (List Char)) :
    asciiLowercase (Text.endedLines lines) = Text.endedLines (lines.map asciiLowercase) := by
  have ended : Char.toLower '\n' = '\n' := by decide
  simp [asciiLowercase, Text.endedLines, List.map_flatMap, List.flatMap_map, ended]

/-- Lines in lower case begin where the lines do. -/
theorem asciiLowercase_begunLines (lines : List (List Char)) :
    asciiLowercase (Text.begunLines lines) = Text.begunLines (lines.map asciiLowercase) := by
  have ended : Char.toLower '\n' = '\n' := by decide
  simp [asciiLowercase, Text.begunLines, List.map_flatMap, List.flatMap_map, ended]

/-- What a line of a log has is ASCII text. -/
theorem line_plain (entry : Entry) (log : Log) :
    ∀ c ∈ entry.line log, c.toNat < 128 ∧ c ≠ '\n' := by
  have plain : (entry.line log).all isPlain := by
    cases log
    · exact entry.first.2
    · exact entry.second.2
  simpa [isPlain] using plain

/-- A line of a log, with the lines before and behind it. -/
theorem text_append_cons (log : Log) (before : List Entry) (entry : Entry) (after : List Entry) :
    text log (before ++ entry :: after) =
      Text.endedLines (before.map fun entry => entry.line log) ++ entry.line log ++
        Text.begunLines (after.map fun entry => entry.line log) := by
  rw [text, List.map_append, List.map_cons, Text.joinLines_append_cons]

/-- A log is ASCII text. -/
theorem text_ascii (log : Log) (entries : List Entry) : ∀ c ∈ text log entries, c.toNat < 128 := by
  have ended : Char.toNat '\n' < 128 := by decide
  cases entries with
  | nil => simp [text, Text.joinLines]
  | cons entry rest =>
    intro c member
    rw [text, List.map_cons, Text.joinLines_cons, Text.begunLines] at member
    rcases List.mem_append.1 member with within | within
    · exact (line_plain entry log c within).1
    · -- It is a line end, or stands on one of the other lines.
      obtain ⟨line, there, within⟩ := List.mem_flatMap.1 within
      obtain ⟨other, -, rfl⟩ := List.mem_map.1 there
      rcases List.mem_cons.1 within with rfl | within
      · exact ended
      · exact (line_plain other log c within).1

/-- A line has no line end in it, in lower case neither. -/
theorem newline_not_mem (entry : Entry) (log : Log) : '\n' ∉ entry.line log :=
  fun member => (line_plain entry log _ member).2 rfl

/-- A key that a line is the first to mention is found there in the log. -/
theorem find_text (present : key ≠ []) (within : '\n' ∉ key) {log : Log}
    {before : List Entry} (after : List Entry) {start : List Char}
    (unmentioned : ∀ line ∈ before.map (fun entry => asciiLowercase (entry.line log)),
      ¬ key <:+: line)
    (ascii : ∀ c ∈ start, c.toNat < 128)
    (found : Text.find key (asciiLowercase (entry.line log)) =
      some (byteCount (asciiLowercase start))) :
    Text.find key (asciiLowercase (text log (before ++ entry :: after))) =
      some (byteCount (Text.endedLines (before.map fun entry => entry.line log) ++ start)) := by
  have ascii' : ∀ c ∈ Text.endedLines (before.map fun entry => entry.line log), c.toNat < 128 := by
    intro c member
    refine text_ascii log (before ++ entry :: after) c ?_
    rw [text_append_cons]
    exact List.mem_append_left _ (List.mem_append_left _ member)
  have lower : before.map (fun entry => asciiLowercase (entry.line log)) =
      (before.map fun entry => entry.line log).map asciiLowercase := by simp
  rw [lower] at unmentioned
  -- The lines before do not have the key, and those behind do not matter.
  have behind := Text.find_begunLines present within found
    ((after.map fun entry => entry.line log).map asciiLowercase)
  rw [text_append_cons, List.append_assoc, asciiLowercase, List.map_append, List.map_append,
    ← asciiLowercase, ← asciiLowercase, ← asciiLowercase, asciiLowercase_begunLines,
    asciiLowercase_endedLines, Text.find_endedLines present within unmentioned, behind,
    Option.map_some, ← asciiLowercase_endedLines, byteCount_asciiLowercase ascii',
    byteCount_asciiLowercase ascii, byteCount_append, Nat.add_comm]

/-- To hide what follows a key changes the first line that mentions it. -/
theorem hide_eq (first : firstMention key entries = some position)
    (there : entries[position]? = some entry) :
    hide entries key = entries.take position ++
      { first := entry.first.hide key, second := entry.second.hide key } ::
        entries.drop (position + 1) := by
  obtain ⟨inside, rfl⟩ := List.getElem?_eq_some_iff.1 there
  rw [hide, first]
  exact List.modify_eq_take_cons_drop inside

/-- A line of a log with what follows a key hidden. -/
theorem line_hide (key : List Char) (entry : Entry) (log : Log) :
    Entry.line { first := entry.first.hide key, second := entry.second.hide key } log =
      hideText key (entry.line log) := by
  cases log <;> rfl

/--
Where the line that is the first to mention a key is cut, the log is sliced.

The rest of the line stands behind the colon, up to the line end or the end of the log.
-/
theorem text_of_cut (present : key ≠ []) (within : '\n' ∉ key) {log : Log}
    (first : firstMention key entries = some position) (there : entries[position]? = some entry)
    (cuts : cut key (entry.line log) = some (front, rest)) :
    ∃ before label after, ':' ∉ label ∧ '\n' ∉ label ++ ':' :: rest ∧
      (after = [] ∨ ∃ next, after = '\n' :: next) ∧
        text log entries = before ++ (label ++ ':' :: rest ++ after) ∧
          Text.find key (asciiLowercase (text log entries)) = some (byteCount before) ∧
            text log (hide entries key) = before ++ (label ++ ':' :: mark ++ after) := by
  obtain ⟨entry', there', split, unmentioned⟩ := firstMention_spec first
  obtain rfl := Option.some.inj (there'.symm.trans there)
  obtain ⟨start, label, colonless, rfl, line, found⟩ := cut_spec cuts
  have ascii : ∀ c ∈ start, c.toNat < 128 := fun c member =>
    (line_plain entry' log c (by simp [line, member])).1
  -- The label and what it labels stand on one line.
  have single : '\n' ∉ label ++ ':' :: rest := fun member =>
    newline_not_mem entry' log (line ▸ List.mem_append_right _ member)
  have found' := find_text present within (entries.drop (position + 1)) (unmentioned log)
    ascii found
  rw [← split] at found'
  refine ⟨_, label, _, colonless, single, Text.begunLines_ended
    ((entries.drop (position + 1)).map fun entry => entry.line log), ?_, found', ?_⟩
  · conv_lhs => rw [split]
    rw [text_append_cons, line]
    simp only [List.append_assoc]
  · rw [hide_eq first there, text_append_cons, line_hide, hideText, cuts]
    simp only [List.append_assoc, List.cons_append, List.nil_append]

/-- A log in which no colon follows a key has none behind the key on its line. -/
theorem cut_line_of_cut_text (present : key ≠ []) (within : '\n' ∉ key) {log : Log}
    (cuts : cut key (text log entries) = none) (first : firstMention key entries = some position)
    (there : entries[position]? = some entry) : cut key (entry.line log) = none := by
  by_contra cuts'
  obtain ⟨⟨front, rest⟩, cuts'⟩ := Option.ne_none_iff_exists'.1 cuts'
  obtain ⟨before, label, after, -, -, -, split, found, -⟩ :=
    text_of_cut present within first there cuts'
  rcases cut_none cuts with absent | ⟨start, tail, colonless, whole, found'⟩
  · rw [absent] at found
    cases found
  · have ascii : ∀ c ∈ start, c.toNat < 128 := fun c member =>
      text_ascii log entries c (whole ▸ List.mem_append_left _ member)
    rw [found', byteCount_asciiLowercase ascii] at found
    rw [whole] at split
    -- Both were found at one position, behind which stands a colon.
    have same := Text.append_right_inj_of_byteCount split (Option.some.inj found)
    exact colonless (by simp [same])

/-- Where no colon follows a key in either log, there is nothing to hide. -/
theorem hide_of_cut_none (present : key ≠ []) (within : '\n' ∉ key)
    (cuts : ∀ log, cut key (text log entries) = none) : hide entries key = entries := by
  cases first : firstMention key entries with
  | none => rw [hide, first]
  | some position =>
    obtain ⟨entry, there, split, -⟩ := firstMention_spec first
    have kept : ∀ log, hideText key (entry.line log) = entry.line log := fun log => by
      rw [hideText, cut_line_of_cut_text present within (cuts log) first there]
    have same : entry.first.hide key = entry.first ∧ entry.second.hide key = entry.second :=
      ⟨Subtype.ext (kept .first), Subtype.ext (kept .second)⟩
    rw [hide_eq first there, same.1, same.2, ← split]

/-- A turn that is targeted hides what follows the key in both logs. -/
theorem redact_text (keeps : KeepsAscii toLowercase) (present : key ≠ []) (within : '\n' ∉ key)
    (targeted : Targeted entries key) (log : Log) :
    redact toLowercase (text log entries) key = some (text log (hide entries key)) := by
  have ascii := text_ascii log entries
  rcases targeted with cuts | ⟨position, entry, front, target⟩
  · rw [redact_of_cut_none keeps ascii (cuts log), hide_of_cut_none present within cuts]
  · obtain ⟨rest, cuts, once⟩ := target.cuts log
    obtain ⟨before, label, after, colonless, single, ended, split, found, hidden⟩ :=
      text_of_cut present within target.first target.there cuts
    rw [← keeps _ ascii] at found
    rw [redact_of_found split colonless single ended found, hidden]
    refine congrArg some ?_
    rcases once with rfl | once
    · -- To replace the mark by itself changes nothing.
      rw [split, Text.replace_self (by decide +kernel)]
    · -- What follows the colon stands there and nowhere else.
      have split' : text log entries = (before ++ label ++ [':']) ++ rest ++ after := by
        simp [split]
      rw [split'] at once ⊢
      rw [Text.replace_of_once once]
      simp

/-- After a targeted turn the logs differ where they did, but for the line that it hides. -/
theorem differAt_hide_iff (present : key ≠ []) (within : '\n' ∉ key)
    (targeted : Targeted entries key) (line : Nat) :
    DifferAt (hide entries key) line ↔ DifferAt entries line ∧ ¬ Redacts entries key line := by
  rcases targeted with cuts | ⟨position, entry, front, target⟩
  · have untouched : ¬ Redacts entries key line := by
      rintro ⟨first, entry, there, cuts'⟩
      exact cuts' (cut_line_of_cut_text present within (cuts .first) first there)
    rw [hide_of_cut_none present within cuts]
    exact (and_iff_left untouched).symm
  · have modified : hide entries key = entries.modify position fun entry =>
        { first := entry.first.hide key, second := entry.second.hide key } := by
      rw [hide, target.first]
    obtain ⟨rest, cuts, -⟩ := target.cuts .first
    obtain ⟨rest', cuts', -⟩ := target.cuts .second
    by_cases same : line = position
    · subst same
      have redacts : Redacts entries key line :=
        ⟨target.first, entry, target.there, by simp [show cut key entry.first.1 = _ from cuts]⟩
      refine iff_of_false ?_ fun both => both.2 redacts
      rintro ⟨hidden, there, differ⟩
      rw [modified, List.getElem?_modify_eq, target.there] at there
      obtain rfl := Option.some.inj there
      -- The line reads the same up to the colon, and the mark follows in both logs.
      refine differ (Subtype.ext ?_)
      change hideText key (entry.line .first) = hideText key (entry.line .second)
      rw [hideText, hideText, cuts, cuts']
    · have untouched : ¬ Redacts entries key line := fun redacts =>
        same (Option.some.inj (redacts.1.symm.trans target.first))
      rw [and_iff_left untouched, DifferAt, DifferAt, modified,
        List.getElem?_modify_ne _ _ (Ne.symm same)]

end Hiding

section Runs

variable {keys : List (List Char)}

/-- A run of targeted turns hides what follows the keys in both logs. -/
theorem foldlM_redact_text (keeps : KeepsAscii toLowercase)
    (plain : ∀ key ∈ keys, key ≠ [] ∧ '\n' ∉ key) {entries : List Entry}
    (targeted : EveryStep hide Targeted entries keys) (log : Log) :
    keys.foldlM (redact toLowercase) (text log entries) =
      some (text log (keys.foldl hide entries)) := by
  induction keys generalizing entries with
  | nil => rfl
  | cons key keys ih =>
    obtain ⟨present, within⟩ := plain key List.mem_cons_self
    rw [List.foldlM_cons, redact_text keeps present within targeted.1 log]
    exact ih (fun key member => plain key (List.mem_cons_of_mem _ member)) targeted.2

/-- After a run of targeted turns the logs are the same if all lines that differ were hidden. -/
theorem differAt_foldl_iff (plain : ∀ key ∈ keys, key ≠ [] ∧ '\n' ∉ key) {entries : List Entry}
    (targeted : EveryStep hide Targeted entries keys) :
    (∀ line, ¬ DifferAt (keys.foldl hide entries) line) ↔
      ∀ line, DifferAt entries line → RedactedAt line entries keys := by
  induction keys generalizing entries with
  | nil => rfl
  | cons key keys ih =>
    obtain ⟨present, within⟩ := plain key List.mem_cons_self
    rw [List.foldl_cons,
      ih (fun key member => plain key (List.mem_cons_of_mem _ member)) targeted.2]
    refine forall_congr' fun line => ?_
    rw [differAt_hide_iff present within targeted.1, RedactedAt]
    tauto

/-- Turns for keys that no colon follows are targeted: they do nothing. -/
theorem everyStep_of_absent (plain : ∀ key ∈ keys, key ≠ [] ∧ '\n' ∉ key) {entries : List Entry}
    (absent : ∀ key ∈ keys, ∀ log, cut key (text log entries) = none) :
    EveryStep hide Targeted entries keys := by
  induction keys with
  | nil => trivial
  | cons key keys ih =>
    obtain ⟨present, within⟩ := plain key List.mem_cons_self
    have nothing := absent key List.mem_cons_self
    refine ⟨.inl nothing, ?_⟩
    rw [hide_of_cut_none present within nothing]
    exact ih (fun key member => plain key (List.mem_cons_of_mem _ member))
      fun key member => absent key (List.mem_cons_of_mem _ member)

/-- Logs of the same lines are the same text, and no others are. -/
theorem text_eq_iff (entries : List Entry) :
    text .first entries = text .second entries ↔ ∀ line, ¬ DifferAt entries line := by
  have single : ∀ log, ∀ line ∈ entries.map (fun entry => entry.line log), '\n' ∉ line := by
    intro log line member
    obtain ⟨entry, -, rfl⟩ := List.mem_map.1 member
    exact newline_not_mem entry log
  rw [text, text, Text.joinLines_injective (single .first) (single .second) (by simp),
    List.map_inj_left]
  constructor
  · rintro same line ⟨entry, there, differ⟩
    exact differ (Subtype.ext (same entry (List.mem_of_getElem? there)))
  · intro same entry member
    obtain ⟨line, there⟩ := List.getElem?_of_mem member
    by_contra differ
    exact same line ⟨entry, there, fun equal => differ (congrArg Subtype.val equal)⟩

end Runs

/-- No key is empty, and none has a line end in it. -/
theorem keys_plain : ∀ key ∈ keys, key ≠ [] ∧ '\n' ∉ key := by
  decide +kernel

/--
Secrets are hidden exactly if every line that has one is reached.

Where every turn is targeted, two logs become the same text exactly if each line on which they
differ has its rest taken out at the turn of some key.
-/
theorem secrets_hidden_iff (toLowercase : List Char → List Char) (keeps : KeepsAscii toLowercase)
    (entries : List Entry) (targeted : EveryStep hide Targeted entries keys) :
    (∃ sanitized, ∀ log, sanitizeLog toLowercase (text log entries) = some sanitized) ↔
      ∀ line, DifferAt entries line → RedactedAt line entries keys := by
  have run := foldlM_redact_text keeps keys_plain targeted
  rw [← differAt_foldl_iff keys_plain targeted, ← text_eq_iff]
  constructor
  · rintro ⟨sanitized, both⟩
    have first := (run .first).symm.trans (both .first)
    have second := (run .second).symm.trans (both .second)
    exact Option.some.inj (first.trans second.symm)
  · intro same
    refine ⟨text .first (keys.foldl hide entries), fun log => (run log).trans ?_⟩
    cases log
    · rfl
    · rw [same]

/-- Two logs in which one line names a user, and one a secret. -/
def visit : List Entry :=
  [⟨⟨"user bob".toList, by decide +kernel⟩, ⟨"user bob".toList, by decide +kernel⟩⟩,
    ⟨⟨"Password: x".toList, by decide +kernel⟩, ⟨"Password: y z".toList, by decide +kernel⟩⟩]

/-- A secret behind a key that is mentioned once is hidden, and nothing else is looked for. -/
theorem visit_secret_hidden : ∃ sanitized, ∀ log,
    sanitizeLog asciiLowercase (text log visit) = some sanitized := by
  have absent : ∀ key ∈ keys.drop 1, ∀ log,
      cut key (text log (hide visit "password".toList)) = none := by
    intro key member log
    cases log <;> revert key <;> decide +kernel
  have plain : ∀ key ∈ keys.drop 1, key ≠ [] ∧ '\n' ∉ key := fun key member =>
    keys_plain key (List.mem_of_mem_drop member)
  have targeted : EveryStep hide Targeted visit keys := by
    refine ⟨.inr ⟨1, _, "Password:".toList, by decide +kernel, rfl, ?_⟩,
      everyStep_of_absent plain absent⟩
    rintro (_ | _)
    · exact ⟨" x".toList, by decide +kernel, .inr (by decide +kernel)⟩
    · exact ⟨" y z".toList, by decide +kernel, .inr (by decide +kernel)⟩
  refine (secrets_hidden_iff asciiLowercase (fun _ _ => rfl) visit targeted).2 ?_
  rintro (_ | _ | line) ⟨entry, there, differ⟩
  · obtain rfl := Option.some.inj there
    exact absurd rfl differ
  · obtain rfl := Option.some.inj there
    exact .inl ⟨by decide +kernel, _, rfl, by decide +kernel⟩
  · cases there

/-- A secret behind a key that was mentioned before stays in the log. -/
theorem second_secret_stays : ∃ entries, DifferInSecrets entries ∧
    text .first entries = "password: a\npassword: b".toList ∧
      text .second entries = "password: a\npassword: c".toList ∧
        sanitizeLog asciiLowercase (text .first entries) =
          some "password: [REDACTED]\npassword: b".toList ∧
        sanitizeLog asciiLowercase (text .second entries) =
          some "password: [REDACTED]\npassword: c".toList := by
  refine ⟨[⟨⟨"password: a".toList, by decide +kernel⟩, ⟨"password: a".toList, by decide +kernel⟩⟩,
    ⟨⟨"password: b".toList, by decide +kernel⟩, ⟨"password: c".toList, by decide +kernel⟩⟩],
    ?_, by decide +kernel, by decide +kernel, by decide +kernel, by decide +kernel⟩
  intro entry member
  rcases List.mem_pair.1 member with rfl | rfl
  · exact .inl rfl
  · exact .inr ⟨"password".toList, "b".toList, "c".toList, by decide +kernel, rfl, rfl⟩

end NodeDiagnostics

end Awe
