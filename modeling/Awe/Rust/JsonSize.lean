import Awe.Rust.JsonText

/-! How many bytes a compact document can take, counted without writing it. -/

namespace Rust

namespace Json

/-- The most bytes a quoted text takes: six for an escaped character, and two quotes. -/
def textWeight (text : String) : Nat := 6 * text.length + 2

mutual

/-- The most bytes a document takes. -/
def weight : Json → Nat
  | .null => 4
  | .bool _ => 5
  | .num value => (Nat.toDigits 10 value).length
  | .str text => textWeight text
  | .arr items => weightItems items + 2
  | .obj fields => weightFields fields + 2

/-- The most bytes the items of a list take, each with its comma. -/
def weightItems : List Json → Nat
  | [] => 0
  | item :: rest => weight item + 1 + weightItems rest

/-- The most bytes the fields of an object take, each with its colon and its comma. -/
def weightFields : List (String × Json) → Nat
  | [] => 0
  | (name, value) :: rest => textWeight name + weight value + 2 + weightFields rest

end

/-- The number of bytes some characters take. -/
def byteCount (text : List Char) : Nat := (text.map Char.utf8Size).sum

/-- Texts one after the other take the bytes of both. -/
@[simp] theorem byteCount_append (left right : List Char) :
    byteCount (left ++ right) = byteCount left + byteCount right := by
  simp [byteCount]

/-- The first character and the others take the bytes of both. -/
@[simp] theorem byteCount_cons (c : Char) (rest : List Char) :
    byteCount (c :: rest) = c.utf8Size + byteCount rest := by
  simp [byteCount]

/-- No characters take no bytes. -/
@[simp] theorem byteCount_nil : byteCount [] = 0 := rfl

/-- The bytes of a text are as many as its characters take. -/
theorem length_toBytes (layout : Layout) (document : Json) :
    (toBytes layout document).length = byteCount (render layout 0 document) := by
  simp [toBytes, byteCount, List.length_flatMap]

/-- A digit takes one byte. -/
theorem utf8Size_of_isDigit {c : Char} (digit : c.isDigit = true) : c.utf8Size = 1 := by
  simp only [Char.isDigit, Bool.and_eq_true, decide_eq_true_eq] at digit
  have ascii : c.val ≤ 127 := UInt32.le_trans digit.2 (by decide)
  simp [Char.utf8Size, ascii]

/-- A text has as many bytes as its characters take. -/
theorem utf8ByteSize_ofList (text : List Char) :
    (String.ofList text).utf8ByteSize = byteCount text := by
  induction text with
  | nil => rfl
  | cons c rest ih =>
    rw [String.ofList_cons]
    simp [ih]

/-- The marks of a text take one byte each, and so do its digits. -/
theorem utf8Size_marks : (∀ c : Char, c.isDigit → c.utf8Size = 1) ∧ Char.utf8Size ',' = 1 ∧
    Char.utf8Size '\x7b' = 1 ∧ Char.utf8Size '\x7d' = 1 ∧ Char.utf8Size '[' = 1 ∧
      Char.utf8Size ']' = 1 ∧ Char.utf8Size ':' = 1 :=
  ⟨fun _ digit => utf8Size_of_isDigit digit, by decide⟩

/-- A number takes one byte for each of its digits. -/
theorem byteCount_toDigits (value : Nat) :
    byteCount (Nat.toDigits 10 value) = (Nat.toDigits 10 value).length := by
  have digits : ∀ c ∈ Nat.toDigits 10 value, c.utf8Size = 1 := fun c member =>
    utf8Size_of_isDigit (Nat.isDigit_of_mem_toDigits (by decide) (by decide) member)
  rw [byteCount, List.map_congr_left digits, List.map_const', List.sum_replicate, Nat.nsmul_eq_mul,
    Nat.mul_one]

/-- A number that fits a byte takes at most three. -/
theorem length_toDigits_byte (byte : UInt8) : (Nat.toDigits 10 byte.toNat).length ≤ 3 :=
  (Nat.length_toDigits_le_iff (by decide) (by decide)).mpr
    (Nat.lt_of_lt_of_le byte.toNat_lt (by decide))

/-- How many bytes a character takes in a quoted text: six for most control characters. -/
def escapedSize (c : Char) : Nat :=
  if (shortEscape c).isSome then 2 else if c.toNat < 32 then 6 else c.utf8Size

/-- An escape letter takes one byte. -/
theorem utf8Size_shortEscape {c letter : Char} (short : shortEscape c = some letter) :
    letter.utf8Size = 1 := by
  unfold shortEscape at short
  split_ifs at short <;> (cases short; decide)

/-- An escaped character takes that many bytes. -/
theorem byteCount_escape (c : Char) : byteCount (escape c) = escapedSize c := by
  have backslash : ('\\').utf8Size = 1 := by decide
  unfold escape escapedSize
  cases short : shortEscape c with
  | some letter =>
    simp only [byteCount_cons, byteCount_nil, backslash, utf8Size_shortEscape short,
      Option.isSome_some, if_true]
  | none =>
    simp only [Option.isSome_none, Bool.false_eq_true, if_false]
    split
    · -- Both halves of a control character are spelled by one ASCII digit each.
      have ascii : ∀ half < 16, (hexDigit half).utf8Size = 1 := by decide
      have high := ascii (c.toNat / 16) (by omega)
      have low := ascii (c.toNat % 16) (by omega)
      simp only [byteCount_cons, byteCount_nil, high, low]
      decide
    · rw [byteCount_cons, byteCount_nil, Nat.add_zero]

/-- An escaped character takes at most six bytes. -/
theorem escapedSize_le (c : Char) : escapedSize c ≤ 6 := by
  have small := c.utf8Size_le_four
  rw [escapedSize]
  split
  · decide
  · split <;> omega

/-- How many bytes a text takes with its quotes. -/
def textSize (text : String) : Nat := (text.toList.map escapedSize).sum + 2

/-- A quoted text takes that many bytes. -/
theorem byteCount_renderText (text : String) : byteCount (renderText text) = textSize text := by
  have inner : ∀ characters : List Char,
      byteCount (characters.flatMap escape) = (characters.map escapedSize).sum := by
    intro characters
    induction characters with
    | nil => rfl
    | cons c rest ih =>
      rw [List.flatMap_cons, byteCount_append, byteCount_escape, ih, List.map_cons, List.sum_cons]
  have quote : ('"').utf8Size = 1 := by decide
  simp only [renderText, textSize, List.cons_append, byteCount_cons, byteCount_append,
    byteCount_nil, quote, inner]
  omega

/-- Escaping multiplies the bytes of a text by six at most. -/
theorem byteCount_renderText_le (text : String) : byteCount (renderText text) ≤ textWeight text := by
  have each : ∀ size ∈ text.toList.map escapedSize, size ≤ 6 := by
    intro size member
    obtain ⟨c, _, rfl⟩ := List.mem_map.mp member
    exact escapedSize_le c
  have bound := List.sum_le_card_nsmul _ 6 each
  rw [List.length_map, String.length_toList, smul_eq_mul] at bound
  rw [byteCount_renderText, textSize, textWeight]
  omega

mutual

/-- A compact document takes no more bytes than its weight. -/
theorem byteCount_render_le (depth : Nat) (document : Json) :
    byteCount (render .compact depth document) ≤ weight document := by
  -- One case for each shape of document; the brackets and commas are counted in the weights.
  cases document with
  | null =>
    rw [render, weight]
    decide
  | bool value =>
    cases value <;> (rw [render, weight]; decide)
  | num value =>
    rw [render, weight, byteCount_toDigits]
  | str text => exact byteCount_renderText_le text
  | arr items =>
    cases items with
    | nil =>
      rw [render, weight, weightItems]
      decide
    | cons item rest =>
      have first := byteCount_render_le (depth + 1) item
      have others := byteCount_renderItems_le depth rest
      have bracket : ('[').utf8Size = 1 := by decide
      simp only [render, weight, weightItems, Layout.compact, List.cons_append,
        List.nil_append, byteCount_cons, byteCount_append, bracket] at first others ⊢
      omega
  | obj fields =>
    cases fields with
    | nil =>
      rw [render, weight, weightFields]
      decide
    | cons field rest =>
      obtain ⟨name, value⟩ := field
      have label := byteCount_renderText_le name
      have first := byteCount_render_le (depth + 1) value
      have others := byteCount_renderFields_le depth rest
      have brace : ('\x7b').utf8Size = 1 := by decide
      have colon : (':').utf8Size = 1 := by decide
      simp only [render, weight, weightFields, Layout.compact, List.cons_append,
        List.nil_append, byteCount_cons, byteCount_append, byteCount_nil, brace, colon] at first others ⊢
      omega

/-- The items after the first take no more than theirs, and a bracket. -/
theorem byteCount_renderItems_le (depth : Nat) (items : List Json) :
    byteCount (renderItems .compact depth items) ≤ weightItems items + 1 := by
  cases items with
  | nil =>
    rw [renderItems, weightItems, Layout.compact, List.nil_append]
    decide
  | cons item rest =>
    have first := byteCount_render_le (depth + 1) item
    have others := byteCount_renderItems_le depth rest
    have comma : (',').utf8Size = 1 := by decide
    simp only [renderItems, weightItems, Layout.compact, List.cons_append,
      List.nil_append, byteCount_cons, byteCount_append, comma] at first others ⊢
    omega

/-- The fields after the first take no more than theirs, and a brace. -/
theorem byteCount_renderFields_le (depth : Nat) (fields : List (String × Json)) :
    byteCount (renderFields .compact depth fields) ≤ weightFields fields + 1 := by
  cases fields with
  | nil =>
    rw [renderFields, weightFields, Layout.compact, List.nil_append]
    decide
  | cons field rest =>
    obtain ⟨name, value⟩ := field
    have label := byteCount_renderText_le name
    have first := byteCount_render_le (depth + 1) value
    have others := byteCount_renderFields_le depth rest
    have comma : (',').utf8Size = 1 := by decide
    have colon : (':').utf8Size = 1 := by decide
    simp only [renderFields, weightFields, Layout.compact, List.cons_append,
      List.nil_append, byteCount_cons, byteCount_append, byteCount_nil, comma, colon] at first others ⊢
    omega

end

/-- The weight of a document bounds the bytes it is written in. -/
theorem length_toBytes_le (document : Json) :
    (toBytes .compact document).length ≤ weight document := by
  rw [length_toBytes]
  exact byteCount_render_le 0 document

/-- A byte array takes at most four bytes for each of its own, and two brackets. -/
theorem weight_ofBytes_le (bytes : Bytes) : weight (ofBytes bytes) ≤ 4 * bytes.length + 2 := by
  have inner : weightItems (bytes.map fun byte => Json.num byte.toNat) ≤ 4 * bytes.length := by
    induction bytes with
    | nil => exact Nat.le_refl _
    | cons byte rest ih =>
      have digits := length_toDigits_byte byte
      simp only [List.map_cons, weightItems, weight, List.length_cons]
      omega
  simp only [ofBytes, weight]
  omega

section Tally

variable (price : Char → Nat)

/-- What some characters come to, each at its price. -/
def tally (text : List Char) : Nat := (text.map price).sum

/-- No characters come to nothing. -/
@[simp] theorem tally_nil : tally price [] = 0 := rfl

/-- The first character adds its price. -/
@[simp] theorem tally_cons (c : Char) (rest : List Char) :
    tally price (c :: rest) = price c + tally price rest := by
  simp [tally]

/-- Texts one after the other come to the sum of both. -/
@[simp] theorem tally_append (left right : List Char) :
    tally price (left ++ right) = tally price left + tally price right := by
  simp [tally]

variable {price} {digit : Nat}

/-- Characters of one price come to that price as often as they are. -/
theorem tally_of_forall {text : List Char} (same : ∀ c ∈ text, price c = digit) :
    tally price text = digit * text.length := by
  rw [tally, List.map_congr_left same, List.map_const', List.sum_replicate, Nat.nsmul_eq_mul,
    Nat.mul_comm]

/-- How many digits a number has. -/
def digits (value : Nat) : Nat := (Nat.toDigits 10 value).length

/-- How many characters a byte array takes between its brackets: its digits and its commas. -/
def numerals (bytes : Bytes) : Nat :=
  (bytes.map fun byte => digits byte.toNat).sum + (bytes.length - 1)

/-- A number comes to the price of its digits. -/
theorem tally_num (digital : ∀ c : Char, c.isDigit → price c = digit) (depth value : Nat) :
    tally price (render .compact depth (.num value)) = digit * digits value := by
  rw [render]
  exact tally_of_forall fun c member =>
    digital c (Nat.isDigit_of_mem_toDigits (by decide) (by decide) member)

/-- Items whose prices are known come to these after the first, and a comma for each. -/
theorem tally_renderItems_map {Item : Type} (document : Item → Json) (cost : Item → Nat)
    {items : List Item} (known : ∀ item ∈ items, ∀ depth,
      tally price (render .compact depth (document item)) = cost item) (depth : Nat) :
    tally price (renderItems .compact depth (items.map document)) =
      (items.map cost).sum + price ',' * items.length + price ']' := by
  induction items with
  | nil => simp [renderItems, Layout.compact]
  | cons item rest ih =>
    have first := known item List.mem_cons_self (depth + 1)
    have others := ih fun later member => known later (List.mem_cons_of_mem _ member)
    simp only [List.map_cons, renderItems, Layout.compact, List.cons_append, List.nil_append,
      tally_cons, tally_append, List.sum_cons, List.length_cons] at first others ⊢
    rw [first, others]
    ring

/-- A list of items whose prices are known comes to these, its brackets and its commas. -/
theorem tally_arr_map {Item : Type} (document : Item → Json) (cost : Item → Nat)
    {items : List Item} (known : ∀ item ∈ items, ∀ depth,
      tally price (render .compact depth (document item)) = cost item) (depth : Nat) :
    tally price (render .compact depth (.arr (items.map document))) =
      price '[' + (items.map cost).sum + price ',' * (items.length - 1) + price ']' := by
  -- A comma stands before each item but the first.
  cases items with
  | nil => simp [render]
  | cons item rest =>
    have first := known item List.mem_cons_self (depth + 1)
    have others := tally_renderItems_map document cost
      (fun later member => known later (List.mem_cons_of_mem _ member)) depth
    simp only [List.map_cons, render, Layout.compact, List.cons_append, List.nil_append,
      tally_cons, tally_append, List.sum_cons, List.length_cons, Nat.add_sub_cancel] at first others ⊢
    rw [first, others]
    ring

/-- A byte array comes to its brackets, its digits and its commas. -/
theorem tally_ofBytes (digital : ∀ c : Char, c.isDigit → price c = digit)
    (comma : price ',' = digit) (depth : Nat) (bytes : Bytes) :
    tally price (render .compact depth (ofBytes bytes)) =
      price '[' + digit * numerals bytes + price ']' := by
  have scaled : (bytes.map fun byte => digit * digits byte.toNat).sum =
      digit * (bytes.map fun byte => digits byte.toNat).sum := List.sum_map_mul_left ..
  have listed := tally_arr_map (fun byte : UInt8 => Json.num byte.toNat)
    (fun byte => digit * digits byte.toNat)
    (fun byte (_ : byte ∈ bytes) depth => tally_num digital depth byte.toNat) depth
  rw [ofBytes, listed, scaled, comma, numerals]
  ring

/-- An object comes to its braces and its fields. -/
theorem tally_obj (depth : Nat) (name : String) (value : Json) (rest : List (String × Json)) :
    tally price (render .compact depth (.obj ((name, value) :: rest))) =
      price '\x7b' + tally price (renderText name) + price ':' +
        tally price (render .compact (depth + 1) value) +
          tally price (renderFields .compact depth rest) := by
  simp only [render, Layout.compact, List.cons_append, List.nil_append, tally_cons, tally_append,
    tally_nil]
  ring

/-- A further field comes to its comma, its name, its colon and its value. -/
theorem tally_renderFields_cons (depth : Nat) (name : String) (value : Json)
    (rest : List (String × Json)) :
    tally price (renderFields .compact depth ((name, value) :: rest)) =
      price ',' + tally price (renderText name) + price ':' +
        tally price (render .compact (depth + 1) value) +
          tally price (renderFields .compact depth rest) := by
  simp only [renderFields, Layout.compact, List.cons_append, List.nil_append, tally_cons,
    tally_append, tally_nil]
  ring

/-- No further field comes to a brace. -/
theorem tally_renderFields_nil (depth : Nat) :
    tally price (renderFields .compact depth []) = price '\x7d' := by
  simp [renderFields, Layout.compact]

/-- A text comes to the sum over its bytes if every character comes to the sum over its own. -/
theorem tally_utf8 (cost : UInt8 → Nat) (text : List Char) :
    ((text.flatMap String.utf8EncodeChar).map cost).sum =
      tally (fun c => ((String.utf8EncodeChar c).map cost).sum) text := by
  induction text with
  | nil => rfl
  | cons c rest ih => rw [List.flatMap_cons, List.map_append, List.sum_append, ih, tally_cons]

/-- The bytes of a text are counted by the bytes of its characters. -/
theorem byteCount_eq_tally (text : List Char) : byteCount text = tally Char.utf8Size text := rfl

end Tally

section Nested

/-- What a byte takes in a list of numbers: its digits and a comma. -/
def bytePrice (byte : UInt8) : Nat := digits byte.toNat + 1

/-- What a character takes in a list of numbers that spells its bytes. -/
def numeralPrice (c : Char) : Nat := ((String.utf8EncodeChar c).map bytePrice).sum

/-- A list of numbers has one comma less than it has numbers. -/
theorem numerals_succ {bytes : Bytes} (occupied : bytes ≠ []) :
    numerals bytes + 1 = (bytes.map bytePrice).sum := by
  have counted : ∀ bytes : Bytes, (bytes.map bytePrice).sum =
      (bytes.map fun byte => digits byte.toNat).sum + bytes.length := by
    intro bytes
    induction bytes with
    | nil => rfl
    | cons byte rest ih =>
      simp only [List.map_cons, List.sum_cons, List.length_cons, ih, bytePrice]
      omega
  have positive := List.length_pos_iff.mpr occupied
  rw [numerals, counted]
  omega

/-- A number takes at least one digit, and a byte at most three. -/
theorem numerals_bounds (bytes : Bytes) :
    bytes.length ≤ numerals bytes ∧ numerals bytes ≤ 4 * bytes.length := by
  -- A byte takes one to three digits, and one comma or bracket.
  have each : ∀ bytes : Bytes, bytes.length ≤ (bytes.map fun byte => digits byte.toNat).sum ∧
      (bytes.map fun byte => digits byte.toNat).sum ≤ 3 * bytes.length := by
    intro bytes
    induction bytes with
    | nil => exact ⟨Nat.le_refl _, Nat.le_refl _⟩
    | cons byte rest ih =>
      have most := length_toDigits_byte byte
      have least : 0 < (Nat.toDigits 10 byte.toNat).length := Nat.length_toDigits_pos
      simp only [List.map_cons, List.sum_cons, List.length_cons, digits] at ih ⊢
      omega
  have bounds := each bytes
  rw [numerals]
  omega

/-- A list of numbers has one comma less than it has numbers, which take three digits at most. -/
theorem numerals_lt {bytes : Bytes} (occupied : bytes ≠ []) : numerals bytes < 4 * bytes.length := by
  have commas := numerals_succ occupied
  have each : ∀ byte ∈ bytes, bytePrice byte ≤ 4 := fun byte _ =>
    Nat.succ_le_succ (length_toDigits_byte byte)
  have most := List.sum_le_card_nsmul (bytes.map bytePrice) 4 fun price member => (by
    obtain ⟨byte, inside, rfl⟩ := List.mem_map.mp member
    exact each byte inside)
  rw [List.length_map, smul_eq_mul] at most
  omega

/-- A byte of three digits takes four characters, with the comma. -/
theorem numerals_replicate {byte : UInt8} (wide : digits byte.toNat = 3) (count : Nat) :
    numerals (List.replicate count byte) = 4 * count - 1 := by
  rw [numerals, List.map_replicate, List.sum_replicate, List.length_replicate, wide,
    smul_eq_mul]
  omega

/-- A document that is written as a list of numbers takes the price of its characters. -/
theorem numerals_toBytes {document : Json} (occupied : toBytes .compact document ≠ []) :
    numerals (toBytes .compact document) + 1 =
      tally numeralPrice (render .compact 0 document) := by
  rw [numerals_succ occupied]
  exact tally_utf8 bytePrice _

/-- A digit takes two digits and a comma. -/
theorem numeralPrice_digit (c : Char) (digital : c.isDigit) : numeralPrice c = 3 := by
  have range : c.toNat ∈ List.range' 48 10 := by
    simp only [Char.isDigit, Bool.and_eq_true, decide_eq_true_eq, ge_iff_le, UInt32.le_iff_toNat_le]
      at digital
    have lower : 48 ≤ c.toNat := digital.1
    have upper : c.toNat ≤ 57 := digital.2
    simp only [List.mem_range'_1]
    omega
  have all : ∀ number ∈ List.range' 48 10, numeralPrice (Char.ofNat number) = 3 := by decide
  rw [← Char.ofNat_toNat c]
  exact all _ range

end Nested

end Json

end Rust
