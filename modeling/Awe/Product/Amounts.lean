import Awe.Product.Wallet
import Awe.Rust.JsonSize

/-! When an amount of coins is read as the atoms it is worth. -/

namespace Awe

open Rust

/-- A text spells whole coins, perhaps with a point and up to eight digits after it. -/
structure SpellsAmount (text whole fraction : List Char) : Prop where
  spelled : (text = whole ∧ fraction = []) ∨ text = whole ++ '.' :: fraction
  occupied : whole ≠ []
  wholeDigits : ∀ c ∈ whole, c.isDigit = true
  fractionDigits : ∀ c ∈ fraction, c.isDigit = true
  short : fraction.length ≤ 8

/-- The atoms an amount is worth, the fraction being a part of a coin. -/
def worthAtoms (whole fraction : List Char) : ℚ :=
  (decimalValue whole + decimalValue fraction / 10 ^ fraction.length) * atomsPerCoin

/--
An amount that is given as a text is read exactly.

Whatever is accepted spells an amount and is read as its worth.
Every amount whose worth can be counted is accepted.
-/
structure ReadsExactly (text : String) : Prop where
  exact : ∀ atoms, parseOnecoinAtoms (.text text) = .ok atoms →
    ∃ whole fraction, SpellsAmount (trim text.toList) whole fraction ∧
      (atoms : ℚ) = worthAtoms whole fraction
  accepted : ∀ whole fraction, SpellsAmount (trim text.toList) whole fraction →
    worthAtoms whole fraction ≤ u128Max → ∃ atoms, parseOnecoinAtoms (.text text) = .ok atoms

/-- The value of digits is read from the left. -/
theorem decimalValue_eq (digits : List Char) : decimalValue digits = Nat.ofDigitChars 10 digits 0 :=
  rfl

/-- Filling a fraction up to eight digits scales its value. -/
theorem decimalValue_rightpad (fraction : List Char) :
    decimalValue (fraction.rightpad 8 '0') = decimalValue fraction * 10 ^ (8 - fraction.length) := by
  rw [List.rightpad, decimalValue_eq, Nat.ofDigitChars_append, Nat.ofDigitChars_replicate_zero,
    decimalValue_eq, Nat.mul_comm]

/-- Digits have a value below the power of ten of their number. -/
theorem decimalValue_lt {digits : List Char} (digital : ∀ c ∈ digits, c.isDigit = true) :
    decimalValue digits < 10 ^ digits.length := by
  -- The last digit is the one that was added to ten times the value before it.
  induction digits using List.reverseRecOn with
  | nil => exact Nat.one_pos
  | append_singleton before last ih =>
    have lower := ih fun c member => digital c (List.mem_append_left _ member)
    have digit := digital last (by simp)
    simp only [Char.isDigit, Bool.and_eq_true, decide_eq_true_eq] at digit
    have small : last.toNat ≤ 57 := UInt32.le_iff_toNat_le.mp digit.2
    rw [decimalValue_eq] at lower ⊢
    rw [Nat.ofDigitChars_append, Nat.ofDigitChars_cons, Nat.ofDigitChars_nil, List.length_append,
      List.length_singleton, Nat.pow_succ]
    have zero : '0'.toNat = 48 := rfl
    omega

/-- Digits take one byte each. -/
theorem utf8ByteSize_of_digits {digits : List Char} (digital : ∀ c ∈ digits, c.isDigit = true) :
    (String.ofList digits).utf8ByteSize = digits.length := by
  rw [Json.utf8ByteSize_ofList, Json.byteCount_eq_tally,
    Json.tally_of_forall fun c member => Json.utf8Size_of_isDigit (digital c member), Nat.one_mul]

namespace SpellsAmount

variable {text whole fraction : List Char}

/-- A fraction that is filled up to eight digits is below a hundred million. -/
theorem padded_lt (spells : SpellsAmount text whole fraction) :
    decimalValue fraction * 10 ^ (8 - fraction.length) < 10 ^ 8 := by
  have below := decimalValue_lt spells.fractionDigits
  have scaled := Nat.mul_lt_mul_of_pos_right below (Nat.pow_pos (n := 8 - fraction.length)
    (by decide : 0 < 10))
  rwa [← Nat.pow_add, Nat.add_sub_cancel' spells.short] at scaled

/-- The worth of an amount is a whole number of atoms. -/
theorem worthAtoms_eq (spells : SpellsAmount text whole fraction) :
    worthAtoms whole fraction = (decimalValue whole * atomsPerCoin +
      decimalValue fraction * 10 ^ (8 - fraction.length) * 10 ^ 10 : Nat) := by
  -- The digits that are given, those that are filled in and the ten beyond them make a coin.
  have powers : (10 : ℚ) ^ fraction.length * 10 ^ (8 - fraction.length) * 10 ^ 10 = 10 ^ 18 := by
    rw [← pow_add, ← pow_add]
    congr 1
    have short := spells.short
    omega
  have coin : (atomsPerCoin : ℚ) = 10 ^ 18 := by norm_num [atomsPerCoin]
  have positive : (10 : ℚ) ^ fraction.length ≠ 0 := by positivity
  push_cast
  rw [worthAtoms, coin, add_mul, ← powers]
  field_simp
  ring

/-- No digit of an amount is a letter, and its only other character is the point. -/
theorem plain (spells : SpellsAmount text whole fraction) :
    ¬ (text.isEmpty = true ∨ text.contains 'e' = true ∨ text.contains 'E' = true) := by
  have among (c : Char) (member : c ∈ text) : c.isDigit = true ∨ c = '.' := by
    rcases spells.spelled with ⟨rfl, _⟩ | rfl
    · exact Or.inl (spells.wholeDigits c member)
    · rcases List.mem_append.mp member with inside | inside
      · exact Or.inl (spells.wholeDigits c inside)
      · rcases List.mem_cons.mp inside with point | later
        · exact Or.inr point
        · exact Or.inl (spells.fractionDigits c later)
  -- With no digit before the point there would be nothing to read.
  have occupied : text ≠ [] := by
    rcases spells.spelled with ⟨rfl, _⟩ | rfl
    · exact spells.occupied
    · simp
  rintro (empty | lower | upper)
  · exact occupied (List.isEmpty_iff.mp empty)
  · rcases among 'e' (List.contains_iff_mem.mp lower) with digit | point
    · revert digit
      decide
    · revert point
      decide
  · rcases among 'E' (List.contains_iff_mem.mp upper) with digit | point
    · revert digit
      decide
    · revert point
      decide

/-- Digits hold no point. -/
theorem point_notMem {digits : List Char} (digital : ∀ c ∈ digits, c.isDigit = true) :
    '.' ∉ digits := fun member => absurd (digital '.' member) (by decide)

/-- The point of an amount splits it into its parts. -/
theorem splitOn_eq (spells : SpellsAmount text whole fraction) :
    (text.splitOn '.' = [whole] ∧ fraction = []) ∨ text.splitOn '.' = [whole, fraction] := by
  rcases spells.spelled with ⟨rfl, none⟩ | rfl
  · exact Or.inl ⟨List.splitOn_eq_singleton (point_notMem spells.wholeDigits), none⟩
  · refine Or.inr ?_
    rw [List.splitOn_append_cons_self_of_not_mem (point_notMem spells.wholeDigits),
      List.splitOn_eq_singleton (point_notMem spells.fractionDigits)]

/-- An amount is refused exactly if its whole part alone is too large to be counted. -/
theorem atomsOfParts_eq (spells : SpellsAmount text whole fraction) :
    atomsOfParts whole fraction =
      if decimalValue whole * atomsPerCoin ≤ u128Max then
        .ok (decimalValue whole * atomsPerCoin +
          decimalValue fraction * 10 ^ (8 - fraction.length))
      else .error "amount_coins is too large" := by
  -- None of the checks on the two parts stops an amount that is spelled right.
  have digits : whole.all Char.isDigit = true := List.all_eq_true.mpr spells.wholeDigits
  have digits' : fraction.all Char.isDigit = true := List.all_eq_true.mpr spells.fractionDigits
  have shaped : ¬ (whole.isEmpty = true ∨ (!whole.all Char.isDigit) = true) := by
    simp [spells.occupied, digits]
  have part : ¬ ((String.ofList fraction).utf8ByteSize > 8 ∨
      (!fraction.all Char.isDigit) = true) := by
    simp [utf8ByteSize_of_digits spells.fractionDigits, spells.short, digits']
  rw [atomsOfParts, if_neg shaped, if_neg part, decimalValue_rightpad]
  have padded := spells.padded_lt
  generalize decimalValue fraction * 10 ^ (8 - fraction.length) = parts at padded ⊢
  by_cases fits : decimalValue whole * atomsPerCoin ≤ u128Max
  · -- A count that fits leaves room for the part of a coin that a fraction is read as.
    have room : decimalValue whole * atomsPerCoin + parts ≤ u128Max := by
      have most := Nat.mul_le_mul_right atomsPerCoin
        ((Nat.le_div_iff_mul_le (by decide)).mpr fits)
      have left : u128Max / atomsPerCoin * atomsPerCoin + 10 ^ 8 ≤ u128Max := by decide
      exact (Nat.add_le_add most (Nat.le_of_lt padded)).trans left
    have single : decimalValue whole ≤ decimalValue whole * atomsPerCoin :=
      Nat.le_mul_of_pos_right _ (by decide)
    have small : ¬ (decimalValue whole > u128Max ∨ decimalValue whole * atomsPerCoin > u128Max) :=
      not_or.mpr ⟨Nat.not_lt.mpr (Nat.le_trans single fits), Nat.not_lt.mpr fits⟩
    rw [if_pos fits, if_neg small]
    exact if_neg (Nat.not_lt.mpr room)
  · rw [if_neg fits, if_pos (Or.inr (Nat.lt_of_not_le fits))]

/-- A text that spells an amount is read by its parts. -/
theorem parse_eq {text : String} (spells : SpellsAmount (trim text.toList) whole fraction) :
    parseOnecoinAtoms (.text text) = atomsOfParts whole fraction := by
  unfold parseOnecoinAtoms
  dsimp only
  rw [if_neg spells.plain]
  rcases spells.splitOn_eq with ⟨split, rfl⟩ | split
  · rw [split]
  · rw [split]

end SpellsAmount

/-- The parts that are accepted are digits, the fraction at most eight of them. -/
theorem digits_of_atomsOfParts {whole fraction : List Char} {atoms : Nat}
    (read : atomsOfParts whole fraction = .ok atoms) :
    whole ≠ [] ∧ (∀ c ∈ whole, c.isDigit = true) ∧ (∀ c ∈ fraction, c.isDigit = true) ∧
      fraction.length ≤ 8 := by
  -- The two tests of the source: the whole part first, then the fraction.
  unfold atomsOfParts at read
  split at read
  · cases read
  · rename_i shaped
    split at read
    · cases read
    · rename_i part
      obtain ⟨occupied, digits⟩ := not_or.mp shaped
      obtain ⟨short, digits'⟩ := not_or.mp part
      -- Only digits are left, so the byte length is the number of digits.
      have fractionDigits := List.all_eq_true.mp (by simpa using digits')
      rw [utf8ByteSize_of_digits fractionDigits] at short
      exact ⟨by simpa using occupied, List.all_eq_true.mp (by simpa using digits), fractionDigits,
        Nat.not_lt.mp short⟩

/-- Whatever is accepted spells an amount. -/
theorem spells_of_parse {text : String} {atoms : Nat}
    (read : parseOnecoinAtoms (.text text) = .ok atoms) :
    ∃ whole fraction, SpellsAmount (trim text.toList) whole fraction := by
  have joined : ['.'].intercalate ((trim text.toList).splitOn '.') = trim text.toList :=
    List.intercalate_splitOn '.'
  unfold parseOnecoinAtoms at read
  dsimp only at read
  split at read
  · cases read
  · split at read
    · -- A text without a point is whole coins alone.
      rename_i whole split
      obtain ⟨occupied, digits, fractionDigits, short⟩ := digits_of_atomsOfParts read
      rw [split] at joined
      exact ⟨whole, [], Or.inl ⟨by simpa using joined.symm, rfl⟩, occupied, digits, fractionDigits,
        short⟩
    · -- With one point there are two parts, and more points are refused.
      rename_i whole fraction split
      obtain ⟨occupied, digits, fractionDigits, short⟩ := digits_of_atomsOfParts read
      rw [split] at joined
      exact ⟨whole, fraction, Or.inr (by simpa using joined.symm), occupied, digits, fractionDigits,
        short⟩
    · cases read

/-- A text spells an amount in one way. -/
theorem SpellsAmount.unique {text whole fraction other part : List Char}
    (spells : SpellsAmount text whole fraction) (spells' : SpellsAmount text other part) :
    whole = other ∧ fraction = part := by
  rcases spells.splitOn_eq with ⟨split, rfl⟩ | split
  · rcases spells'.splitOn_eq with ⟨split', rfl⟩ | split'
    · exact ⟨List.singleton_inj.mp (split.symm.trans split'), rfl⟩
    · cases split.symm.trans split'
  · rcases spells'.splitOn_eq with ⟨split', rfl⟩ | split'
    · cases split.symm.trans split'
    · cases split.symm.trans split'
      exact ⟨rfl, rfl⟩

/--
An amount is read exactly unless it has a part of a coin and its whole coins can be counted.

The fraction is filled up to eight digits, but a coin has eighteen.
-/
theorem readsExactly_iff (text : String) :
    ReadsExactly text ↔ ¬ ∃ whole fraction, SpellsAmount (trim text.toList) whole fraction ∧
      decimalValue fraction ≠ 0 ∧ decimalValue whole * atomsPerCoin ≤ u128Max := by
  constructor
  · rintro ⟨exact, _⟩ ⟨whole, fraction, spells, part, fits⟩
    -- Reading an amount of that kind does give a number, so the number is the question.
    have read := spells.parse_eq.trans (spells.atomsOfParts_eq.trans (if_pos fits))
    obtain ⟨other, digits, spells', worth⟩ := exact _ read
    obtain ⟨rfl, rfl⟩ := spells.unique spells'
    rw [spells.worthAtoms_eq, Nat.cast_inj] at worth
    -- Ten more digits would have been needed, and they only leave a zero alone.
    have positive : 0 < decimalValue fraction * 10 ^ (8 - fraction.length) :=
      Nat.mul_pos (Nat.pos_of_ne_zero part) (Nat.pow_pos (by decide))
    omega
  · intro whole
    refine ⟨?_, ?_⟩
    · intro atoms read
      obtain ⟨coins, fraction, spells⟩ := spells_of_parse read
      refine ⟨coins, fraction, spells, ?_⟩
      rw [spells.parse_eq, spells.atomsOfParts_eq] at read
      split at read
      · rename_i fits
        have zero : decimalValue fraction = 0 := by
          by_contra part
          exact whole ⟨coins, fraction, spells, part, fits⟩
        obtain rfl := Except.ok.inj read
        rw [spells.worthAtoms_eq, zero, Nat.zero_mul, Nat.zero_mul]
      · cases read
    · intro coins fraction spells fits
      rw [spells.worthAtoms_eq, Nat.cast_le] at fits
      rw [spells.parse_eq, spells.atomsOfParts_eq, if_pos (Nat.le_trans (Nat.le_add_right _ _) fits)]
      exact ⟨_, rfl⟩

/-- Half a coin is read as half a hundred million atoms. -/
theorem half_coin_is_misread :
    parseOnecoinAtoms (.text "0.5") = .ok 50000000 ∧
      worthAtoms ['0'] ['5'] = 500000000000000000 ∧ ¬ ReadsExactly "0.5" := by
  have trimmed : trim "0.5".toList = ['0', '.', '5'] := by decide +kernel
  have spells : SpellsAmount (trim "0.5".toList) ['0'] ['5'] := by
    rw [trimmed]
    exact ⟨Or.inr rfl, by simp, by simp, by simp, by simp⟩
  have read : parseOnecoinAtoms (.text "0.5") = .ok 50000000 := by decide +kernel
  have worth : worthAtoms ['0'] ['5'] = 500000000000000000 := by
    have digits : decimalValue ['0'] = 0 ∧ decimalValue ['5'] = 5 := ⟨rfl, rfl⟩
    rw [spells.worthAtoms_eq, digits.1, digits.2]
    norm_num
  refine ⟨read, worth, ?_⟩
  rintro ⟨exact, _⟩
  obtain ⟨other, digits, spells', same⟩ := exact _ read
  obtain ⟨rfl, rfl⟩ := spells.unique spells'
  rw [worth] at same
  norm_num at same

end Awe
