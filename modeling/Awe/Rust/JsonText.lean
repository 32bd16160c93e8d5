import Awe.Rust.Json

/-! JSON documents as text: a compact and an indented writer, and one reader for both. -/

namespace Rust

namespace Json

/-- Where a writer puts white space. -/
structure Layout where
  /-- What stands before an item at a given depth. -/
  lineBreak : Nat → List Char
  /-- What stands between a colon and its value. -/
  afterColon : List Char

/-- No white space at all. -/
def Layout.compact : Layout := ⟨fun _ => [], []⟩

/-- One item a line, indented by two spaces a level. -/
def Layout.pretty : Layout := ⟨fun depth => '\n' :: List.replicate (2 * depth) ' ', [' ']⟩

/-- The characters JSON skips between tokens. -/
def isBlank (c : Char) : Bool := c = ' ' || c = '\n' || c = '\t' || c = '\r'

/-- A layout only adds characters a reader skips. -/
structure Layout.Blank (layout : Layout) : Prop where
  lineBreak : ∀ depth, ∀ c ∈ layout.lineBreak depth, isBlank c = true
  afterColon : ∀ c ∈ layout.afterColon, isBlank c = true

theorem Layout.compact_blank : Layout.compact.Blank := by
  constructor <;> simp [Layout.compact]

theorem Layout.pretty_blank : Layout.pretty.Blank where
  lineBreak depth c member := by
    simp only [Layout.pretty, List.mem_cons, List.mem_replicate] at member
    rcases member with rfl | ⟨_, rfl⟩ <;> rfl
  afterColon c member := by
    simp only [Layout.pretty, List.mem_singleton] at member
    subst member
    rfl

/-- The letter a character is escaped by, where it has one. -/
def shortEscape (c : Char) : Option Char :=
  if c = '"' then some '"' else if c = '\\' then some '\\' else if c = '\n' then some 'n'
  else if c = '\r' then some 'r' else if c = '\t' then some 't'
  else if c = '\x08' then some 'b' else if c = '\x0c' then some 'f' else none

/-- The character an escape letter stands for. -/
def unescape (letter : Char) : Option Char :=
  if letter = '"' then some '"' else if letter = '\\' then some '\\'
  else if letter = 'n' then some '\n' else if letter = 'r' then some '\r'
  else if letter = 't' then some '\t' else if letter = 'b' then some '\x08'
  else if letter = 'f' then some '\x0c' else none

/-- The value of one hexadecimal digit. -/
def hexValue (c : Char) : Option Nat :=
  if '0' ≤ c ∧ c ≤ '9' then some (c.toNat - 48)
  else if 'a' ≤ c ∧ c ≤ 'f' then some (c.toNat - 87) else none

/-- A character inside a quoted text. -/
def escape (c : Char) : List Char :=
  match shortEscape c with
  | some letter => ['\\', letter]
  | none =>
    if c.toNat < 32 then
      ['\\', 'u', '0', '0', hexDigit (c.toNat / 16), hexDigit (c.toNat % 16)]
    else [c]

/-- A quoted text. -/
def renderText (text : String) : List Char := '"' :: text.toList.flatMap escape ++ ['"']

mutual

/-- Write a document at a given depth. -/
def render (layout : Layout) (depth : Nat) : Json → List Char
  | .null => ['n', 'u', 'l', 'l']
  | .bool true => ['t', 'r', 'u', 'e']
  | .bool false => ['f', 'a', 'l', 's', 'e']
  | .num value => Nat.toDigits 10 value
  | .str text => renderText text
  | .arr [] => ['[', ']']
  | .arr (item :: rest) =>
    '[' :: layout.lineBreak (depth + 1) ++ render layout (depth + 1) item ++
      renderItems layout depth rest
  | .obj [] => ['\x7b', '\x7d']
  | .obj ((name, value) :: rest) =>
    '\x7b' :: layout.lineBreak (depth + 1) ++ renderText name ++ ':' :: layout.afterColon ++
      render layout (depth + 1) value ++ renderFields layout depth rest

/-- The items after the first, and the closing bracket. -/
def renderItems (layout : Layout) (depth : Nat) : List Json → List Char
  | [] => layout.lineBreak depth ++ [']']
  | item :: rest =>
    ',' :: layout.lineBreak (depth + 1) ++ render layout (depth + 1) item ++
      renderItems layout depth rest

/-- The fields after the first, and the closing brace. -/
def renderFields (layout : Layout) (depth : Nat) : List (String × Json) → List Char
  | [] => layout.lineBreak depth ++ ['\x7d']
  | (name, value) :: rest =>
    ',' :: layout.lineBreak (depth + 1) ++ renderText name ++ ':' :: layout.afterColon ++
      render layout (depth + 1) value ++ renderFields layout depth rest

end

/-- Skip white space. -/
def skipBlank (text : List Char) : List Char := text.dropWhile isBlank

/-- Read a quoted text up to its closing quote. -/
def readText : List Char → Option (List Char × List Char)
  | [] => none
  | c :: rest =>
    if c = '"' then some ([], rest)
    else if c = '\\' then
      match rest with
      | letter :: more =>
        match unescape letter with
        | some escaped => (readText more).map fun (text, after) => (escaped :: text, after)
        | none =>
          if letter = 'u' then
            match more with
            | '0' :: '0' :: high :: low :: more =>
              match hexValue high, hexValue low with
              | some high, some low =>
                (readText more).map fun (text, after) => (Char.ofNat (16 * high + low) :: text, after)
              | _, _ => none
            | _ => none
          else none
      | [] => none
    else if c.toNat < 32 then none
    else (readText rest).map fun (text, after) => (c :: text, after)

/-- Read a number, which has no leading zero unless it is zero. -/
def readNumber (text : List Char) : Option (Json × List Char) :=
  let digits := text.takeWhile Char.isDigit
  if digits = [] ∨ (digits.head? = some '0' ∧ digits.length ≠ 1) then none
  else some (.num (Nat.ofDigitChars 10 digits 0), text.dropWhile Char.isDigit)

/-- Read one of the three fixed words. -/
def readWord (text : List Char) : Option (Json × List Char) :=
  if text.take 4 = ['n', 'u', 'l', 'l'] then some (.null, text.drop 4)
  else if text.take 4 = ['t', 'r', 'u', 'e'] then some (.bool true, text.drop 4)
  else if text.take 5 = ['f', 'a', 'l', 's', 'e'] then some (.bool false, text.drop 5)
  else none

mutual

/-- Read one document, on a budget of nested values. -/
def read : Nat → List Char → Option (Json × List Char)
  | 0, _ => none
  | budget + 1, text =>
    match skipBlank text with
    | [] => none
    | c :: rest =>
      if c = '"' then
        (readText rest).map fun (text, after) => (.str (String.ofList text), after)
      else if c = '[' then
        if (skipBlank rest).head? = some ']' then some (.arr [], (skipBlank rest).tail)
        else (readItems budget rest).map fun (items, after) => (.arr items, after)
      else if c = '\x7b' then
        if (skipBlank rest).head? = some '\x7d' then some (.obj [], (skipBlank rest).tail)
        else (readFields budget rest).map fun (fields, after) => (.obj fields, after)
      else if c.isDigit then readNumber (c :: rest)
      else readWord (c :: rest)

/-- Read a nonempty list of items up to its closing bracket. -/
def readItems : Nat → List Char → Option (List Json × List Char)
  | 0, _ => none
  | budget + 1, text => do
    let (item, rest) ← read budget text
    match skipBlank rest with
    | ',' :: rest => (readItems budget rest).map fun (items, after) => (item :: items, after)
    | ']' :: rest => some ([item], rest)
    | _ => none

/-- Read a nonempty list of fields up to its closing brace. -/
def readFields : Nat → List Char → Option (List (String × Json) × List Char)
  | 0, _ => none
  | budget + 1, text =>
    match skipBlank text with
    | '"' :: rest => do
      let (name, rest) ← readText rest
      match skipBlank rest with
      | ':' :: rest => do
        let (value, rest) ← read budget rest
        match skipBlank rest with
        | ',' :: rest =>
          (readFields budget rest).map fun (fields, after) =>
            ((String.ofList name, value) :: fields, after)
        | '\x7d' :: rest => some ([(String.ofList name, value)], rest)
        | _ => none
      | _ => none
    | _ => none

end

/-- Read a whole text as one document. -/
def parse (text : List Char) : Option Json :=
  match read (text.length + 1) text with
  | some (document, rest) => if skipBlank rest = [] then some document else none
  | none => none

/-- White space before a token is skipped. -/
theorem skipBlank_append {blanks : List Char} (blank : ∀ c ∈ blanks, isBlank c = true)
    (text : List Char) : skipBlank (blanks ++ text) = skipBlank text :=
  List.dropWhile_append_of_pos blank

/-- A token is not skipped. -/
theorem skipBlank_cons {c : Char} (solid : isBlank c = false) (rest : List Char) :
    skipBlank (c :: rest) = c :: rest := by
  simp [skipBlank, solid]

/-- White space and then a token reads as the token. -/
theorem skipBlank_append_cons {blanks : List Char} (blank : ∀ c ∈ blanks, isBlank c = true)
    {c : Char} (solid : isBlank c = false) (rest : List Char) :
    skipBlank (blanks ++ c :: rest) = c :: rest := by
  rw [skipBlank_append blank, skipBlank_cons solid]

/-- An escape letter stands for the character it was chosen for. -/
theorem unescape_shortEscape {c letter : Char} (short : shortEscape c = some letter) :
    unescape letter = some c := by
  unfold shortEscape at short
  split_ifs at short <;> (cases short; subst c; rfl)

/-- Every half of a byte reads back from its digit. -/
theorem hexValue_hexDigit (half : Nat) (small : half < 16) : hexValue (hexDigit half) = some half := by
  have checked : ∀ half < 16, hexValue (hexDigit half) = some half := by decide
  exact checked half small

/-- One escaped character reads back as itself. -/
theorem readText_escape (c : Char) (rest : List Char) :
    readText (escape c ++ rest) = (readText rest).map fun (text, after) => (c :: text, after) := by
  unfold escape
  -- A character has a short escape, is written as its number, or stands for itself.
  cases short : shortEscape c with
  | some letter =>
    rw [List.cons_append, readText.eq_def]
    simp [unescape_shortEscape short]
  | none =>
    dsimp only
    split
    · rename_i control
      have high := hexValue_hexDigit (c.toNat / 16) (by omega)
      have low := hexValue_hexDigit (c.toNat % 16) (by omega)
      have whole : Char.ofNat (16 * (c.toNat / 16) + c.toNat % 16) = c := by
        rw [Nat.div_add_mod, Char.ofNat_toNat]
      simp [readText, unescape, high, low, whole]
    · rename_i printable
      have notQuote : c ≠ '"' := by rintro rfl; simp [shortEscape] at short
      have notSlash : c ≠ '\\' := by rintro rfl; simp [shortEscape] at short
      rw [List.cons_append, readText.eq_def]
      simp [notQuote, notSlash, printable]

/-- A quoted text reads back as itself. -/
theorem readText_render (text : List Char) (rest : List Char) :
    readText (text.flatMap escape ++ '"' :: rest) = some (text, rest) := by
  induction text with
  | nil =>
    rw [List.flatMap_nil, List.nil_append, readText.eq_def]
    simp
  | cons c text ih => simp [List.flatMap_cons, List.append_assoc, readText_escape, ih]

/-- A text after which a number has ended. -/
def Stops (text : List Char) : Prop := ∀ c ∈ text.head?, c.isDigit = false

/-- A number has no leading zero. -/
theorem head?_toDigits (value : Nat) (zero : (Nat.toDigits 10 value).head? = some '0') :
    (Nat.toDigits 10 value).length = 1 := by
  induction value using Nat.strongRecOn with
  | ind value ih =>
    by_cases small : value < 10
    · simp [Nat.toDigits_of_lt_base small]
    · -- The leading digit is that of the number without its last digit, which is not zero.
      rw [Nat.toDigits_of_base_le (by decide) (by omega), List.head?_append_of_ne_nil _
        Nat.toDigits_ne_nil] at zero
      have shorter := ih (value / 10) (by omega) zero
      exfalso
      by_cases tens : value / 10 < 10
      · rw [Nat.toDigits_of_lt_base tens] at zero
        have positive : 0 < value / 10 := by omega
        revert zero
        generalize value / 10 = lead at tens positive
        interval_cases lead <;> decide
      · rw [Nat.toDigits_of_base_le (by decide) (by omega), List.length_append] at shorter
        simp at shorter

/-- A number reads back as itself. -/
theorem readNumber_render (value : Nat) {rest : List Char} (stops : Stops rest) :
    readNumber (Nat.toDigits 10 value ++ rest) = some (.num value, rest) := by
  have digits : ∀ c ∈ Nat.toDigits 10 value, c.isDigit = true := fun c member =>
    Nat.isDigit_of_mem_toDigits (by decide) (by decide) member
  -- The reader takes all digits, so what follows must not start with one.
  have taken : rest.takeWhile Char.isDigit = [] := by
    cases rest with
    | nil => rfl
    | cons c rest => simp [stops c rfl]
  have dropped : rest.dropWhile Char.isDigit = rest := by
    cases rest with
    | nil => rfl
    | cons c rest => simp [stops c rfl]
  have nonempty : Nat.toDigits 10 value ≠ [] := Nat.toDigits_ne_nil
  have canonical := head?_toDigits value
  simp only [readNumber, List.takeWhile_append_of_pos digits, List.dropWhile_append_of_pos digits,
    taken, dropped, List.append_nil, Nat.ofDigitChars_ten_toDigits]
  rw [if_neg]
  rintro (empty | ⟨zero, long⟩)
  · exact nonempty empty
  · exact long (canonical zero)

/-- A rendered document starts with a token that neither closes a list nor is skipped. -/
theorem render_head (layout : Layout) (depth : Nat) (document : Json) :
    ∃ c rest, render layout depth document = c :: rest ∧ isBlank c = false ∧
      c ≠ ']' ∧ c ≠ '\x7d' := by
  -- Each kind of document starts with a character of its own.
  cases document with
  | null => exact ⟨_, _, rfl, by decide⟩
  | bool value => cases value <;> exact ⟨_, _, rfl, by decide⟩
  | num value =>
    obtain ⟨c, rest, spelled⟩ := List.exists_cons_of_ne_nil (Nat.toDigits_ne_nil (n := value) (b := 10))
    have digit : c.isDigit = true := Nat.isDigit_of_mem_toDigits (b := 10) (n := value) (by decide)
      (by decide) (by simp [spelled])
    refine ⟨c, rest, by rw [render, spelled], ?_, ?_, ?_⟩
    · cases blank : isBlank c with
      | false => rfl
      | true =>
        simp only [isBlank, Bool.or_eq_true, decide_eq_true_eq] at blank
        rcases blank with ((rfl | rfl) | rfl) | rfl <;> simp at digit
    · rintro rfl
      simp at digit
    · rintro rfl
      simp at digit
  | str text => exact ⟨'"', _, rfl, by decide⟩
  | arr items =>
    cases items with
    | nil => exact ⟨'[', _, by rw [render], by decide⟩
    | cons item rest => exact ⟨'[', _, by rw [render]; rfl, by decide⟩
  | obj fields =>
    cases fields with
    | nil => exact ⟨'\x7b', _, by rw [render], by decide⟩
    | cons field rest => exact ⟨'\x7b', _, by rw [render]; rfl, by decide⟩

/-- A token that is no digit can follow a number. -/
theorem stops_cons {c : Char} (token : c.isDigit = false) (rest : List Char) : Stops (c :: rest) := by
  intro first found
  simp only [List.head?_cons, Option.mem_some_iff] at found
  exact found ▸ token

/-- White space and then a token that is no digit can follow a number. -/
theorem stops_append_cons {blanks : List Char} (blank : ∀ c ∈ blanks, isBlank c = true) {c : Char}
    (token : c.isDigit = false) (rest : List Char) : Stops (blanks ++ c :: rest) := by
  intro first found
  cases blanks with
  | nil => exact stops_cons token rest first found
  | cons space more =>
    simp only [List.cons_append, List.head?_cons, Option.mem_some_iff] at found
    have skipped := blank space (by simp)
    simp only [isBlank, Bool.or_eq_true, decide_eq_true_eq] at skipped
    subst first
    rcases skipped with ((rfl | rfl) | rfl) | rfl <;> rfl

/-- What follows an item can follow a number. -/
theorem renderItems_stops {layout : Layout} (blank : layout.Blank) (depth : Nat)
    (items : List Json) (after : List Char) : Stops (renderItems layout depth items ++ after) := by
  cases items with
  | nil =>
    rw [renderItems, List.append_assoc]
    exact stops_append_cons (blank.lineBreak depth) (by decide) after
  | cons item rest =>
    rw [renderItems]
    exact stops_cons (by decide) _

/-- What follows a field can follow a number. -/
theorem renderFields_stops {layout : Layout} (blank : layout.Blank) (depth : Nat)
    (fields : List (String × Json)) (after : List Char) :
    Stops (renderFields layout depth fields ++ after) := by
  cases fields with
  | nil =>
    rw [renderFields, List.append_assoc]
    exact stops_append_cons (blank.lineBreak depth) (by decide) after
  | cons field rest =>
    rw [renderFields]
    exact stops_cons (by decide) _

/-- The rest of a list takes at least its bracket. -/
theorem renderItems_length_pos (layout : Layout) (depth : Nat) (items : List Json) :
    0 < (renderItems layout depth items).length := by
  cases items <;> simp [renderItems]

/-- The rest of an object takes at least its brace. -/
theorem renderFields_length_pos (layout : Layout) (depth : Nat) (fields : List (String × Json)) :
    0 < (renderFields layout depth fields).length := by
  cases fields <;> simp [renderFields]

/-- A field name and its colon read back, up to the value. -/
theorem readFields_name (budget : Nat) (name : String) (text : List Char) :
    readFields (budget + 1) (renderText name ++ ':' :: text) = (do
      let (value, rest) ← read budget text
      match skipBlank rest with
      | ',' :: rest =>
        (readFields budget rest).map fun (fields, after) => ((name, value) :: fields, after)
      | '\x7d' :: rest => some ([(name, value)], rest)
      | _ => none) := by
  have quoted : renderText name ++ ':' :: text =
      '"' :: (name.toList.flatMap escape ++ '"' :: (':' :: text)) := by
    simp [renderText]
  rw [quoted, readFields, skipBlank_cons (by decide)]
  simp only [readText_render, Option.bind_eq_bind, Option.bind_some, skipBlank_cons
    (show isBlank ':' = false by decide), String.ofList_toList]

/-- White space before a field list is skipped. -/
theorem readFields_blank (budget : Nat) {blanks : List Char}
    (skipped : ∀ c ∈ blanks, isBlank c = true) (text : List Char) :
    readFields budget (blanks ++ text) = readFields budget text := by
  cases budget with
  | zero => rw [readFields, readFields]
  | succ budget => rw [readFields, readFields, skipBlank_append skipped]

/-- White space before a document is skipped. -/
theorem read_blank (budget : Nat) {blanks : List Char}
    (skipped : ∀ c ∈ blanks, isBlank c = true) (text : List Char) :
    read budget (blanks ++ text) = read budget text := by
  cases budget with
  | zero => rw [read, read]
  | succ budget => rw [read, read, skipBlank_append skipped]

section RoundTrip

variable {layout : Layout} (blank : layout.Blank)

include blank

mutual

/-- A rendered document reads back as itself, whatever follows it. -/
theorem read_render : ∀ (document : Json) (depth budget : Nat) (rest : List Char),
    (render layout depth document).length ≤ budget → Stops rest →
      read budget (render layout depth document ++ rest) = some (document, rest)
  | document, depth, 0, rest, enough, _ => by
    -- The text of a document is not empty, so some budget is needed.
    obtain ⟨c, more, spelled, _⟩ := render_head layout depth document
    simp [spelled] at enough
  | .null, depth, budget + 1, rest, _, _ => by
    rw [render, read, List.cons_append, skipBlank_cons (by decide)]
    simp [readWord]
  | .bool true, depth, budget + 1, rest, _, _ => by
    rw [render, read, List.cons_append, skipBlank_cons (by decide)]
    simp [readWord]
  | .bool false, depth, budget + 1, rest, _, _ => by
    rw [render, read, List.cons_append, skipBlank_cons (by decide)]
    simp [readWord]
  | .num value, depth, budget + 1, rest, _, stops => by
    -- A number starts with a digit, and no other kind of document does.
    obtain ⟨c, more, spelled, solid, _⟩ := render_head layout depth (.num value)
    have number := readNumber_render value stops
    rw [render] at spelled ⊢
    have digit : c.isDigit = true := Nat.isDigit_of_mem_toDigits (b := 10) (n := value) (by decide)
      (by decide) (by simp [spelled])
    have notQuote : c ≠ '"' := by rintro rfl; simp at digit
    have notBracket : c ≠ '[' := by rintro rfl; simp at digit
    have notBrace : c ≠ '\x7b' := by rintro rfl; simp at digit
    rw [spelled, List.cons_append] at number ⊢
    rw [read, skipBlank_cons solid]
    simp [notQuote, notBracket, notBrace, digit, number]
  | .str text, depth, budget + 1, rest, _, _ => by
    rw [render, renderText, List.cons_append, read, List.cons_append, skipBlank_cons (by decide)]
    simp [readText_render]
  | .arr [], depth, budget + 1, rest, _, _ => by
    rw [render, List.cons_append, read, skipBlank_cons (by decide)]
    simp [skipBlank_cons (show isBlank ']' = false by decide)]
  | .arr (item :: items), depth, budget + 1, rest, enough, _ => by
    -- The first item decides that the list is not empty.
    obtain ⟨c, more, spelled, solid, notClosed, _⟩ := render_head layout (depth + 1) item
    have opened : skipBlank (layout.lineBreak (depth + 1) ++ render layout (depth + 1) item ++
        renderItems layout depth items ++ rest) =
          c :: (more ++ renderItems layout depth items ++ rest) := by
      rw [spelled]
      simpa using skipBlank_append_cons (blank.lineBreak (depth + 1)) solid _
    rw [render] at enough ⊢
    simp only [List.cons_append, List.length_cons, List.length_append] at enough
    have tail := renderItems_length_pos layout depth items
    -- A list needs one unit of the budget for itself and its items need the rest.
    obtain ⟨lower, rfl⟩ : ∃ lower, budget = lower + 1 := ⟨budget - 1, by omega⟩
    have first : read lower (layout.lineBreak (depth + 1) ++ render layout (depth + 1) item ++
        renderItems layout depth items ++ rest) =
          some (item, renderItems layout depth items ++ rest) := by
      simp only [List.append_assoc]
      rw [read_blank lower (blank.lineBreak (depth + 1))]
      exact read_render item (depth + 1) lower _ (by omega) (renderItems_stops blank depth items rest)
    have long : 0 < (render layout (depth + 1) item).length := by simp [spelled]
    -- The remaining items are read by the lemma about them.
    have listed := readItems_render items depth lower item rest _ first (by omega)
    simp only [List.append_assoc] at opened listed
    simp only [List.append_assoc, List.cons_append, read]
    rw [skipBlank_cons (by decide)]
    simp [opened, notClosed, listed]
  | .obj [], depth, budget + 1, rest, _, _ => by
    rw [render, List.cons_append, read, skipBlank_cons (by decide)]
    simp [skipBlank_cons (show isBlank '\x7d' = false by decide)]
  | .obj ((name, value) :: fields), depth, budget + 1, rest, enough, _ => by
    -- The first name decides that the object is not empty.
    have opened : skipBlank (layout.lineBreak (depth + 1) ++ renderText name ++
        ':' :: layout.afterColon ++ render layout (depth + 1) value ++
        renderFields layout depth fields ++ rest) =
          renderText name ++ ':' :: (layout.afterColon ++ render layout (depth + 1) value ++
            renderFields layout depth fields ++ rest) := by
      simpa [renderText] using
        skipBlank_append_cons (blank.lineBreak (depth + 1)) (show isBlank '"' = false by decide) _
    rw [render] at enough ⊢
    simp only [List.cons_append, List.length_cons, List.length_append] at enough
    have tail := renderFields_length_pos layout depth fields
    -- An object needs one unit of the budget for itself and its fields need the rest.
    obtain ⟨lower, rfl⟩ : ∃ lower, budget = lower + 1 := ⟨budget - 1, by omega⟩
    have first : read lower (layout.afterColon ++ render layout (depth + 1) value ++
        renderFields layout depth fields ++ rest) =
          some (value, renderFields layout depth fields ++ rest) := by
      simp only [List.append_assoc]
      rw [read_blank lower blank.afterColon]
      exact read_render value (depth + 1) lower _ (by omega)
        (renderFields_stops blank depth fields rest)
    -- The remaining fields are read by the lemma about them.
    have listed := readFields_render fields depth lower name value rest _ first (by omega)
    rw [← readFields_blank (lower + 1) (blank.lineBreak (depth + 1))] at listed
    simp only [List.append_assoc, List.cons_append] at opened listed
    simp only [List.append_assoc, List.cons_append, read]
    rw [skipBlank_cons (by decide)]
    have quoted : ∀ text, (renderText name ++ text).head? = some '"' := fun text => by
      simp [renderText]
    simp [opened, quoted, listed]

/-- After its first item, a rendered list reads back up to its bracket. -/
theorem readItems_render : ∀ (items : List Json) (depth budget : Nat) (item : Json)
    (rest text : List Char), read budget text = some (item, renderItems layout depth items ++ rest) →
      (renderItems layout depth items).length ≤ budget →
      readItems (budget + 1) text = some (item :: items, rest)
  | [], depth, budget, item, rest, text, first, _ => by
    rw [readItems, first]
    simp [renderItems, skipBlank_append_cons (blank.lineBreak depth) (show isBlank ']' = false by decide)]
  | next :: items, depth, budget, item, rest, text, first, enough => by
    rw [renderItems] at enough first
    simp only [List.cons_append, List.length_cons, List.length_append] at enough
    -- The reader has enough budget left for the rest of the items.
    have tail := renderItems_length_pos layout depth items
    obtain ⟨lower, rfl⟩ : ∃ lower, budget = lower + 1 := ⟨budget - 1, by omega⟩
    have second : read lower (layout.lineBreak (depth + 1) ++ (render layout (depth + 1) next ++
        (renderItems layout depth items ++ rest))) =
          some (next, renderItems layout depth items ++ rest) := by
      rw [read_blank lower (blank.lineBreak (depth + 1))]
      exact read_render next (depth + 1) lower _ (by omega) (renderItems_stops blank depth items rest)
    have listed := readItems_render items depth lower next rest _ second (by omega)
    rw [readItems, first]
    simp [skipBlank_cons (show isBlank ',' = false by decide), listed]

/-- After its first value, a rendered object reads back up to its brace. -/
theorem readFields_render : ∀ (fields : List (String × Json)) (depth budget : Nat) (name : String)
    (value : Json) (rest text : List Char),
      read budget text = some (value, renderFields layout depth fields ++ rest) →
      (renderFields layout depth fields).length ≤ budget →
      readFields (budget + 1) (renderText name ++ ':' :: text) =
        some ((name, value) :: fields, rest)
  | [], depth, budget, name, value, rest, text, first, _ => by
    rw [readFields_name, first]
    simp [renderFields,
      skipBlank_append_cons (blank.lineBreak depth) (show isBlank '\x7d' = false by decide)]
  | (nextName, next) :: fields, depth, budget, name, value, rest, text, first, enough => by
    rw [renderFields] at enough first
    simp only [List.cons_append, List.length_cons, List.length_append] at enough
    -- The reader has enough budget left for the rest of the fields.
    have tail := renderFields_length_pos layout depth fields
    obtain ⟨lower, rfl⟩ : ∃ lower, budget = lower + 1 := ⟨budget - 1, by omega⟩
    have second : read lower (layout.afterColon ++ (render layout (depth + 1) next ++
        (renderFields layout depth fields ++ rest))) =
          some (next, renderFields layout depth fields ++ rest) := by
      rw [read_blank lower blank.afterColon]
      exact read_render next (depth + 1) lower _ (by omega)
        (renderFields_stops blank depth fields rest)
    have listed := readFields_render fields depth lower nextName next rest _ second (by omega)
    rw [← readFields_blank (lower + 1) (blank.lineBreak (depth + 1))] at listed
    rw [readFields_name, first]
    simp [skipBlank_cons (show isBlank ',' = false by decide), listed]

end

/-- Reading a rendered document gives the document. -/
theorem parse_render (document : Json) : parse (render layout 0 document) = some document := by
  have whole := read_render blank document 0 ((render layout 0 document).length + 1) []
    (by omega) (by simp [Stops])
  rw [List.append_nil] at whole
  simp [parse, whole, skipBlank]

end RoundTrip

/-- A document as UTF-8 bytes. -/
def toBytes (layout : Layout) (document : Json) : Bytes :=
  (render layout 0 document).flatMap String.utf8EncodeChar

/-- Read UTF-8 bytes as a document. -/
def ofText (bytes : Bytes) : Option Json :=
  bytes.toByteArray.utf8Decode?.bind fun text => parse text.toList

/-- A document reads back from its bytes, in either layout. -/
theorem ofText_toBytes {layout : Layout} (blank : layout.Blank) (document : Json) :
    ofText (toBytes layout document) = some document := by
  have decoded : ((render layout 0 document).flatMap String.utf8EncodeChar).toByteArray.utf8Decode? =
      some (render layout 0 document).toArray := List.utf8Decode?_utf8Encode
  rw [ofText, toBytes, decoded, Option.bind_some, List.toList_toArray, parse_render blank]

/-- No bytes are no document. -/
theorem ofText_nil : ofText [] = none := by decide

end Json

end Rust
