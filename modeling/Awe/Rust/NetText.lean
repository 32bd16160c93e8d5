import Awe.Rust.JsonSize
import Awe.Rust.Net

/-! Printed socket addresses parse as themselves. -/

namespace Rust

namespace Net

/-- A text after which a number in a radix has ended. -/
def Ends (radix : Nat) (text : List Char) : Prop := ∀ c ∈ text.head?, isDigit radix c = false

/-- A character that is no digit ends a number. -/
theorem ends_cons {radix : Nat} {c : Char} (other : isDigit radix c = false) (rest : List Char) :
    Ends radix (c :: rest) := by
  intro first found
  cases found
  exact other

/-- A digit reads back as its value. -/
theorem digitValue_digitChar {radix value : Nat} (small : radix ≤ 16) (within : value < radix) :
    digitValue radix (Nat.digitChar value) = some value := by
  -- There are few radices, and few digits in each.
  have table : ∀ radix < 17, ∀ value < radix,
      digitValue radix (Nat.digitChar value) = some value := by decide
  exact table radix (by omega) value within

/-- A number is spelled in digits of its radix. -/
theorem isDigit_of_mem_toDigits {radix value : Nat} (proper : 1 < radix) (small : radix ≤ 16)
    {c : Char} (member : c ∈ Nat.toDigits radix value) : isDigit radix c = true := by
  -- Each step of the spelling adds the digit of a remainder.
  induction value using Nat.strongRecOn with
  | ind value ih =>
    rw [Nat.toDigits_eq_if proper] at member
    split at member
    · rename_i last
      rw [List.mem_singleton.mp member, isDigit, digitValue_digitChar small last]
      rfl
    · rename_i long
      rcases List.mem_append.mp member with earlier | last
      · exact ih (value / radix) (Nat.div_lt_self (by omega) proper) earlier
      · rw [List.mem_singleton.mp last, isDigit,
          digitValue_digitChar small (Nat.mod_lt _ (by omega))]
        rfl

/-- A row of digits, and one more. -/
theorem numberValue_append (radix : Nat) (digits : List Char) (c : Char) :
    numberValue radix (digits ++ [c]) =
      radix * numberValue radix digits + (digitValue radix c).getD 0 := by
  simp [numberValue]

/-- The spelling of a number has its value. -/
theorem numberValue_toDigits {radix : Nat} (proper : 1 < radix) (small : radix ≤ 16) (value : Nat) :
    numberValue radix (Nat.toDigits radix value) = value := by
  induction value using Nat.strongRecOn with
  | ind value ih =>
    rw [Nat.toDigits_eq_if proper]
    split
    · rename_i last
      simp [numberValue, digitValue_digitChar small last]
    · rename_i long
      rw [numberValue_append, ih (value / radix) (Nat.div_lt_self (by omega) proper),
        digitValue_digitChar small (Nat.mod_lt _ (by omega)), Option.getD_some]
      exact Nat.div_add_mod value radix

/-- A printed number reads back, and what follows it is left. -/
theorem readNumber_toDigits {radix bound value : Nat} (proper : 1 < radix) (small : radix ≤ 16)
    (within : value ≤ bound) {maxDigits : Option Nat}
    (short : ∀ limit ∈ maxDigits, (Nat.toDigits radix value).length ≤ limit)
    {allowZeroPrefix : Bool}
    (canonical : allowZeroPrefix = false → (Nat.toDigits radix value).head? = some '0' →
      (Nat.toDigits radix value).length = 1)
    {rest : List Char} (ends : Ends radix rest) :
    readNumber radix maxDigits allowZeroPrefix bound (Nat.toDigits radix value ++ rest) =
      some (value, rest) := by
  have digits : ∀ c ∈ Nat.toDigits radix value, isDigit radix c = true := fun c member =>
    isDigit_of_mem_toDigits proper small member
  -- The digits of the number are all that is taken.
  have taken : rest.takeWhile (isDigit radix) = [] := by
    cases rest with
    | nil => rfl
    | cons c rest => simp [ends c rfl]
  have dropped : rest.dropWhile (isDigit radix) = rest := by
    cases rest with
    | nil => rfl
    | cons c rest => simp [ends c rfl]
  simp only [readNumber, List.takeWhile_append_of_pos digits, List.dropWhile_append_of_pos digits,
    taken, dropped, List.append_nil, numberValue_toDigits proper small]
  rw [if_neg]
  rintro (empty | ⟨limit, named, long⟩ | ⟨strict, zero, long⟩ | large)
  · exact Nat.toDigits_ne_nil empty
  · exact absurd (short limit named) (Nat.not_le.mpr long)
  · exact absurd (canonical strict zero) (Nat.ne_of_gt long)
  · exact absurd within (Nat.not_le.mpr large)

/-- A printed octet reads back. -/
theorem readNumber_octet (octet : UInt8) {rest : List Char} (ends : Ends 10 rest) :
    readNumber 10 (some 3) false 255 (decimal octet.toNat ++ rest) = some (octet.toNat, rest) := by
  have below := octet.toNat_lt
  refine readNumber_toDigits (by decide) (by decide) (by omega) ?_
    (fun _ => Json.head?_toDigits octet.toNat) ends
  intro limit named
  cases named
  exact Json.length_toDigits_byte octet

/-- An octet after its dot reads back. -/
theorem readOctet_dot (octet : UInt8) {rest : List Char} (ends : Ends 10 rest) :
    readOctet false ('.' :: (decimal octet.toNat ++ rest)) = some (octet.toNat, rest) := by
  rw [readOctet, readSeparator, if_neg (by decide), readGivenChar, if_pos rfl, Option.bind_some,
    readNumber_octet octet ends]

/-- A printed version 4 address reads back. -/
theorem readIpv4_text (address : Ipv4Addr) {rest : List Char} (ends : Ends 10 rest) :
    readIpv4 (ipv4Text address ++ rest) = some (address, rest) := by
  -- Each octet but the last is followed by a dot, which is no digit.
  have dot (rest : List Char) : Ends 10 ('.' :: rest) := ends_cons (by decide) rest
  have shape : ipv4Text address ++ rest = decimal (address.octets.get 0).toNat ++
      '.' :: (decimal (address.octets.get 1).toNat ++
        '.' :: (decimal (address.octets.get 2).toNat ++
          '.' :: (decimal (address.octets.get 3).toNat ++ rest))) := by
    simp [ipv4Text]
  have first (rest : List Char) : readOctet true (decimal (address.octets.get 0).toNat ++
      '.' :: rest) = some ((address.octets.get 0).toNat, '.' :: rest) := by
    rw [readOctet, readSeparator, if_pos rfl, Option.bind_some, readNumber_octet _ (dot rest)]
  simp only [shape, readIpv4, first, readOctet_dot _ (dot _), readOctet_dot _ ends,
    Option.bind_eq_bind, Option.bind_some, UInt8.ofNat_toNat, Option.pure_def]
  have same : #v[address.octets.get 0, address.octets.get 1, address.octets.get 2,
      address.octets.get 3] = address.octets := by
    ext position inside
    interval_cases position <;> rfl
  rw [same]

/-- Where no dot follows the first digits there is no version 4 address. -/
theorem readIpv4_of_no_dot {text : List Char}
    (dotless : (text.dropWhile (isDigit 10)).head? ≠ some '.') : readIpv4 text = none := by
  rw [readIpv4]
  cases first : readOctet true text with
  | none => rfl
  | some found =>
    obtain ⟨value, rest⟩ := found
    -- The second octet would need the dot.
    have left : rest = text.dropWhile (isDigit 10) := by
      simp only [readOctet, readSeparator, if_true, Option.bind_some, readNumber] at first
      split at first
      · cases first
      · cases first
        rfl
    have second : readOctet false rest = none := by
      rw [readOctet, readSeparator, if_neg (by decide)]
      cases rest with
      | nil => rfl
      | cons c more =>
        rw [← left, List.head?_cons] at dotless
        rw [readGivenChar, if_neg fun same => dotless (congrArg some same)]
        rfl
    simp [second]

/-- A decimal digit is a hexadecimal one. -/
theorem isDigit_hex {c : Char} (decimal : isDigit 10 c = true) : isDigit 16 c = true := by
  simp only [isDigit, digitValue] at decimal ⊢
  split_ifs at decimal ⊢ <;> simp_all
  all_goals omega

/-- What follows the printed segments of an address: no digit, no dot. -/
structure GroupEnds (rest : List Char) : Prop where
  ends : Ends 16 rest
  dotless : rest.head? ≠ some '.'

/-- A printed segment is no version 4 address. -/
theorem readIpv4_group (segment : UInt16) {rest : List Char} (ends : GroupEnds rest) :
    readIpv4 (group segment ++ rest) = none := by
  refine readIpv4_of_no_dot ?_
  -- After the decimal digits comes a hexadecimal one, or what follows the segment.
  have digits : ∀ c ∈ group segment, isDigit 16 c = true := fun c member =>
    isDigit_of_mem_toDigits (by decide) (by decide) member
  generalize group segment = spelled at digits
  induction spelled with
  | nil =>
    cases rest with
    | nil => simp
    | cons c rest =>
      rw [List.nil_append, List.dropWhile_cons]
      split
      · rename_i decimal
        have hex := isDigit_hex decimal
        rw [ends.ends c rfl] at hex
        cases hex
      · exact ends.dotless
  | cons c more ih =>
    rw [List.cons_append, List.dropWhile_cons]
    split
    · exact ih fun later member => digits later (List.mem_cons_of_mem _ member)
    · intro dot
      cases dot
      exact absurd (digits '.' List.mem_cons_self) (by decide)

/-- A printed segment reads back. -/
theorem readNumber_group (segment : UInt16) {rest : List Char} (ends : Ends 16 rest) :
    readNumber 16 (some 4) true 65535 (group segment ++ rest) = some (segment.toNat, rest) := by
  have below := segment.toNat_lt
  refine readNumber_toDigits (by decide) (by decide) (by omega) ?_ (fun strict => by cases strict)
    ends
  intro limit named
  cases named
  exact (Nat.length_toDigits_le_iff (by decide) (by decide)).mpr below

/-- Where no digit stands there is neither a segment nor a version 4 address. -/
theorem GroupEnds.no_group {text : List Char} (ends : GroupEnds text) :
    readIpv4 text = none ∧ readNumber 16 (some 4) true 65535 text = none := by
  -- Neither reader finds a digit to begin with.
  have taken : text.takeWhile (isDigit 16) = [] := by
    cases text with
    | nil => rfl
    | cons c rest => simp [ends.ends c rfl]
  constructor
  · refine readIpv4_of_no_dot ?_
    -- An address needs a dot after its first number, and there is none.
    cases text with
    | nil => simp
    | cons c rest =>
      have other : isDigit 10 c = false := by
        by_contra decimal
        have hex := isDigit_hex (Bool.not_eq_false _ ▸ decimal)
        rw [ends.ends c rfl] at hex
        cases hex
      rw [List.dropWhile_cons, other]
      exact ends.dotless
  · rw [readNumber, taken, if_pos (Or.inl rfl)]

/-- After a colon no segment follows either, so reading segments stops here. -/
structure Blocks (rest : List Char) : Prop where
  ends : GroupEnds rest
  closed : ∀ more, rest = ':' :: more → GroupEnds more

/-- Segments with a colon before each but the very first. -/
def separated (first : Bool) (segments : List UInt16) : List Char :=
  if first then groupsText segments else segments.flatMap fun segment => ':' :: group segment

/-- Printed segments read back, as far as there are places for them. -/
theorem readGroups_separated (segments : List UInt16) (places : Nat) (first : Bool)
    {rest : List Char} (fits : segments.length ≤ places) (ends : GroupEnds rest)
    (blocks : segments.length < places → Blocks rest) :
    readGroups places first (separated first segments ++ rest) = (segments, false, rest) := by
  induction segments generalizing places first with
  | nil =>
    cases places with
    | zero => cases first <;> rfl
    | succ places =>
      have blocks := blocks (Nat.succ_pos _)
      have text : separated first [] ++ rest = rest := by cases first <;> rfl
      -- Whatever is left of the separator, no segment and no mapped address follows.
      have neither : (readSeparator ':' first rest).bind readIpv4 = none ∧
          (readSeparator ':' first rest).bind (readNumber 16 (some 4) true 65535) = none := by
        cases first with
        | true => exact ends.no_group
        | false =>
          cases rest with
          | nil => exact ⟨rfl, rfl⟩
          | cons c more =>
            rw [readSeparator, if_neg (by decide), readGivenChar]
            split
            · rename_i colon
              exact (blocks.closed more (by rw [colon])).no_group
            · exact ⟨rfl, rfl⟩
      rw [text, readGroups, neither.1, neither.2]
      simp
  | cons segment later ih =>
    cases places with
    | zero => cases fits
    | succ places =>
      have inner : GroupEnds (separated false later ++ rest) := by
        cases later with
        | nil => exact ends
        | cons next more => exact ⟨ends_cons (by decide) _, by simp [separated]⟩
      have separator : readSeparator ':' first (separated first (segment :: later) ++ rest) =
          some (group segment ++ (separated false later ++ rest)) := by
        cases first <;> simp [readSeparator, separated, groupsText, readGivenChar]
      rw [readGroups, separator, Option.bind_some, Option.bind_some, readIpv4_group segment inner,
        readNumber_group segment inner.ends]
      have others := ih places false (Nat.le_of_succ_le_succ fits)
        fun short => blocks (Nat.succ_lt_succ short)
      simp [others]

/-- A span covers zero segments only. -/
def Span.Zeros (segments : List UInt16) (span : Span) : Prop :=
  ∀ position, span.start ≤ position → position < span.start + span.len →
    segments[position]? = some 0

/-- The longest run so far is one of zeros, and so is the one that ends here. -/
structure Span.Tracks (segments : List UInt16) (count : Nat) (found : Span × Span) : Prop where
  longest : found.1.Zeros segments
  current : found.2.len ≠ 0 → found.2.Zeros segments ∧ found.2.start + found.2.len = count

/-- One more segment keeps both runs what they are said to be. -/
theorem Span.Tracks.extend {segments : List UInt16} {count : Nat} {found : Span × Span}
    (tracks : Span.Tracks segments count found) {segment : UInt16}
    (here : segments[count]? = some segment) :
    Span.Tracks segments (count + 1) (Span.extend found (segment, count)) := by
  obtain ⟨longest, current⟩ := found
  by_cases zero : segment = 0
  swap
  · rw [Span.extend, if_neg zero]
    exact ⟨tracks.longest, fun filled => absurd rfl filled⟩
  -- The run that ends here grows by this segment, or starts with it.
  have grown : Span.Zeros segments
        ⟨if current.len = 0 then count else current.start, current.len + 1⟩ ∧
      (if current.len = 0 then count else current.start) + (current.len + 1) = count + 1 := by
    subst zero
    by_cases fresh : current.len = 0
    · rw [if_pos fresh, fresh]
      refine ⟨fun position after before => ?_, rfl⟩
      have only : position = count := by
        simp only at after before
        omega
      rw [only, here]
    · rw [if_neg fresh]
      obtain ⟨zeros, ended⟩ := tracks.current fresh
      simp only at ended
      refine ⟨fun position after before => ?_, by omega⟩
      by_cases last : position = count
      · rw [last, here]
      · simp only at after before
        exact zeros position after (by simp only; omega)
  rw [Span.extend, if_pos zero]
  refine ⟨?_, fun _ => grown⟩
  dsimp only
  split
  · exact grown.1
  · exact tracks.longest

/-- The search tracks both runs from any segment on. -/
theorem Span.Tracks.foldl {segments : List UInt16} (before rest : List UInt16)
    (whole : segments = before ++ rest) {found : Span × Span}
    (tracks : Span.Tracks segments before.length found) :
    Span.Tracks segments segments.length
      ((rest.zipIdx before.length).foldl Span.extend found) := by
  -- Induction on what is left, with the part already scanned growing at its end.
  induction rest generalizing before found with
  | nil =>
    rw [List.append_nil] at whole
    rw [whole] at tracks ⊢
    exact tracks
  | cons segment later ih =>
    have here : segments[before.length]? = some segment := by simp [whole]
    have longer : (before ++ [segment]).length = before.length + 1 := List.length_append
    have next := tracks.extend here
    rw [← longer] at next
    have moved := ih (before ++ [segment]) (by simp [whole]) next
    rw [longer] at moved
    rw [List.zipIdx_cons, List.foldl_cons]
    exact moved

/-- The longest run of zeros is a run of zeros. -/
theorem longestZeros_zeros (segments : List UInt16) :
    (longestZeros segments).Zeros segments := by
  have nothing : Span.Zeros segments ⟨0, 0⟩ := fun position after before => by
    simp only at after before
    omega
  have start : Span.Tracks segments 0 (⟨0, 0⟩, ⟨0, 0⟩) :=
    ⟨nothing, fun filled => absurd rfl filled⟩
  exact (Span.Tracks.foldl [] segments rfl start).longest

/-- Filling the run back in gives the segments. -/
theorem Span.Zeros.fill {segments : List UInt16} {span : Span} (zeros : span.Zeros segments)
    (within : span.start + span.len ≤ segments.length) :
    segments.take span.start ++ List.replicate span.len 0 ++
      segments.drop (span.start + span.len) = segments := by
  -- The two lists agree at every position: before the run, inside it and after it.
  apply List.ext_getElem?
  intro position
  rw [List.append_assoc, List.getElem?_append, List.length_take,
    Nat.min_eq_left (by omega : span.start ≤ segments.length)]
  split
  · rename_i before
    rw [List.getElem?_take_of_lt before]
  · rename_i after
    rw [List.getElem?_append, List.length_replicate]
    split
    · rename_i inside
      rw [List.getElem?_replicate, if_pos inside, zeros position (by omega) (by omega)]
    · rename_i beyond
      rw [List.getElem?_drop]
      congr 1
      omega

/-- An address is the one its segments make. -/
theorem ipv6OfList_toList (address : Ipv6Addr) :
    ipv6OfList address.segments.toList = address := by
  rw [ipv6OfList]
  congr 1
  ext position inside
  simp

/-- The two octets of a segment make it again. -/
theorem ofNat_octets (segment : UInt16) :
    UInt16.ofNat (256 * (segment >>> 8).toUInt8.toNat + segment.toUInt8.toNat) = segment := by
  have below := segment.toNat_lt
  apply UInt16.toNat_inj.mp
  simp only [UInt16.toNat_ofNat', UInt16.toNat_toUInt8, UInt16.toNat_shiftRight]
  have shifted : segment.toNat >>> 8 = segment.toNat / 256 := Nat.shiftRight_eq_div_pow _ 8
  simp only [UInt16.toNat_ofNat, shifted]
  omega

/-- The characters after the address in brackets end its segments. -/
theorem blocks_cons {c : Char} (other : isDigit 16 c = false) (dotless : c ≠ '.') (rest : List Char)
    (closed : c = ':' → GroupEnds rest) : Blocks (c :: rest) := by
  refine ⟨⟨ends_cons other rest, by simpa using dotless⟩, fun more same => ?_⟩
  cases same
  exact closed rfl

/-- Two colons end the segments before them. -/
theorem blocks_gap (rest : List Char) : Blocks (':' :: ':' :: rest) :=
  blocks_cons (by decide) (by decide) _ fun _ => ⟨ends_cons (by decide) _, by simp⟩

/-- The segments of an address that maps one of version 4. -/
theorem toList_of_mapped {address : Ipv6Addr} {mapped : Ipv4Addr}
    (maps : toIpv4Mapped address = some mapped) :
    address.segments.toList = List.replicate 5 0 ++ 0xffff :: mappedSegments mapped := by
  unfold toIpv4Mapped at maps
  split at maps
  swap
  · cases maps
  rename_i first
  cases maps
  -- The last two segments are read off one by one.
  have last : address.segments.toList.drop 6 =
      [address.segments.get 6, address.segments.get 7] := by
    apply List.ext_getElem
    · simp
    · intro position inside _
      have small : position < 2 := by simpa using inside
      interval_cases position <;> simp [Vector.get_eq_getElem]
  -- The four octets of the mapped address are those of the two segments.
  have octets : mappedSegments ⟨#v[(address.segments.get 6 >>> 8).toUInt8,
      (address.segments.get 6).toUInt8, (address.segments.get 7 >>> 8).toUInt8,
      (address.segments.get 7).toUInt8]⟩ = [address.segments.get 6, address.segments.get 7] := by
    have high := ofNat_octets (address.segments.get 6)
    have low := ofNat_octets (address.segments.get 7)
    generalize address.segments.get 6 = six at high ⊢
    generalize address.segments.get 7 = seven at low ⊢
    exact congrArg₂ (fun left right => [left, right]) high low
  rw [octets, ← List.take_append_drop 6 address.segments.toList, first, last]
  rfl

/-- Segments on both sides of a gap make an address with zeros in between. -/
theorem readIpv6_gap {text inside rest : List Char} {head tail : List UInt16} {mapped : Bool}
    (before : readGroups 8 true text = (head, false, ':' :: ':' :: inside))
    (short : head.length ≠ 8)
    (after : readGroups (8 - (head.length + 1)) true inside = (tail, mapped, rest)) :
    readIpv6 text = some (ipv6OfList (head ++
      List.replicate (8 - head.length - tail.length) 0 ++ tail), rest) := by
  simp only [readIpv6, before, if_neg short, readGivenChar, if_true, Option.bind_eq_bind,
    Option.bind_some, after]
  rfl

/-- A printed version 6 address reads back. -/
theorem readIpv6_text (address : Ipv6Addr) {rest : List Char} (blocks : Blocks rest) :
    readIpv6 (ipv6Text address ++ rest) = some (address, rest) := by
  have total : address.segments.toList.length = 8 := by simp
  rw [ipv6Text]
  cases maps : toIpv4Mapped address with
  | some mapped =>
    have decimal : Ends 10 rest := fun c found => by
      by_contra digit
      have hex := isDigit_hex (Bool.not_eq_false _ ▸ digit)
      rw [blocks.ends.ends c found] at hex
      cases hex
    have spelled : group 0xffff = ['f', 'f', 'f', 'f'] := by decide
    have colon (more : List Char) : GroupEnds (':' :: more) :=
      ⟨ends_cons (by decide) _, by simp⟩
    -- Nothing stands before the gap; one segment and the mapped address stand after it.
    have head := readGroups_separated [] 8 true (by simp)
      (blocks_gap (group 0xffff ++ ':' :: (ipv4Text mapped ++ rest))).ends
      fun _ => blocks_gap _
    have inner : readGroups 6 false (':' :: (ipv4Text mapped ++ rest)) =
        (mappedSegments mapped, true, rest) := by
      rw [readGroups, if_neg (by decide), readSeparator, if_neg (by decide), readGivenChar,
        if_pos rfl, Option.bind_some, readIpv4_text mapped decimal]
    have tail : readGroups 7 true (group 0xffff ++ ':' :: (ipv4Text mapped ++ rest)) =
        (0xffff :: mappedSegments mapped, true, rest) := by
      rw [readGroups, if_neg (by decide), readSeparator, if_pos rfl, Option.bind_some,
        readIpv4_group 0xffff (colon _), Option.bind_some, readNumber_group 0xffff (colon _).ends]
      simp only [inner]
      rfl
    have text : [':', ':', 'f', 'f', 'f', 'f', ':'] ++ ipv4Text mapped ++ rest =
        ':' :: ':' :: (group 0xffff ++ ':' :: (ipv4Text mapped ++ rest)) := by
      rw [spelled]
      simp
    have nothing : separated true [] = [] := rfl
    rw [nothing, List.nil_append] at head
    rw [text, readIpv6_gap head (by decide) tail]
    have made : ipv6OfList (List.replicate 5 0 ++ 0xffff :: mappedSegments mapped) = address := by
      rw [← toList_of_mapped maps, ipv6OfList_toList]
    exact congrArg (fun address => some (address, rest)) made
  | none =>
    dsimp only
    split
    · rename_i long
      generalize located : longestZeros address.segments.toList = zeros at long
      have run := located ▸ longestZeros_zeros address.segments.toList
      -- A run of zeros ends within the address.
      have within : zeros.start + zeros.len ≤ 8 := by
        have found := run (zeros.start + zeros.len - 1) (by omega) (by omega)
        have inside := (List.getElem?_eq_some_iff.mp found).1
        omega
      have before : (address.segments.toList.take zeros.start).length = zeros.start := by
        rw [List.length_take]
        omega
      have after : (address.segments.toList.drop (zeros.start + zeros.len)).length =
          8 - (zeros.start + zeros.len) := by
        rw [List.length_drop, total]
      have head := readGroups_separated (address.segments.toList.take zeros.start) 8 true (by omega)
        (blocks_gap (groupsText (address.segments.toList.drop (zeros.start + zeros.len)) ++
          rest)).ends fun _ => blocks_gap _
      have tail := readGroups_separated (address.segments.toList.drop (zeros.start + zeros.len))
        (8 - ((address.segments.toList.take zeros.start).length + 1)) true (by omega) blocks.ends
        fun _ => blocks
      rw [separated, if_pos rfl] at head tail
      have text : groupsText (address.segments.toList.take zeros.start) ++ ':' :: ':' ::
          groupsText (address.segments.toList.drop (zeros.start + zeros.len)) ++ rest =
          groupsText (address.segments.toList.take zeros.start) ++ ':' :: ':' ::
            (groupsText (address.segments.toList.drop (zeros.start + zeros.len)) ++ rest) := by
        simp
      have filled : 8 - zeros.start - (8 - (zeros.start + zeros.len)) = zeros.len := by omega
      rw [text, readIpv6_gap head (by omega) tail, before, after, filled,
        run.fill (by omega), ipv6OfList_toList]
    · have whole := readGroups_separated address.segments.toList 8 true (by omega) blocks.ends
        fun _ => blocks
      rw [separated, if_pos rfl] at whole
      simp only [readIpv6, whole]
      rw [if_pos total, ipv6OfList_toList]

/-- A printed port reads back. -/
theorem readPort_text (port : UInt16) :
    readPort (':' :: decimal port.toNat) = some (port.toNat, []) := by
  have below := port.toNat_lt
  have read : readNumber 10 none true 65535 (Nat.toDigits 10 port.toNat ++ []) =
      some (port.toNat, []) :=
    readNumber_toDigits (by decide) (by decide) (by omega) (by simp) (fun strict => by cases strict)
      (by simp [Ends])
  rw [List.append_nil] at read
  rw [readPort, readGivenChar, if_pos rfl, Option.bind_some, decimal, read]

/-- A printed scope reads back, zero being left out. -/
theorem readScope_text (scopeId : UInt32) (rest : List Char) :
    readScope ((if scopeId = 0 then [] else '%' :: decimal scopeId.toNat) ++ ']' :: rest) =
      (scopeId.toNat, ']' :: rest) := by
  have below := scopeId.toNat_lt
  by_cases zero : scopeId = 0
  · subst zero
    rfl
  · have read : readNumber 10 none true 4294967295
        (Nat.toDigits 10 scopeId.toNat ++ ']' :: rest) = some (scopeId.toNat, ']' :: rest) :=
      readNumber_toDigits (by decide) (by decide) (by omega) (by simp)
        (fun strict => by cases strict) (ends_cons (by decide) _)
    rw [if_neg zero, readScope, List.cons_append, readGivenChar, if_pos rfl, Option.bind_some,
      decimal, read, Option.getD_some]

/-- A printed version 6 address is not read as one of version 4. -/
theorem readSocketV4_bracket (rest : List Char) : readSocketV4 ('[' :: rest) = none := by
  have none : readIpv4 ('[' :: rest) = none := readIpv4_of_no_dot (by
    rw [List.dropWhile_cons, if_neg (by decide)]
    simp)
  rw [readSocketV4, none]
  rfl

/-- The characters after an address in brackets end its segments. -/
theorem blocks_scope (scopeId : UInt32) (rest : List Char) :
    Blocks ((if scopeId = 0 then [] else '%' :: decimal scopeId.toNat) ++ ']' :: rest) := by
  by_cases zero : scopeId = 0
  · rw [if_pos zero]
    exact blocks_cons (by decide) (by decide) _ fun colon => by cases colon
  · rw [if_neg zero]
    exact blocks_cons (by decide) (by decide) _ fun colon => by cases colon

end Net

namespace SocketAddr

open Net

/-- A printed address parses as itself. -/
theorem parse_toString (address : SocketAddr) : parse address.toString = some address := by
  rw [parse, toString, String.toList_ofList]
  cases address with
  | v4 address port =>
    -- The port follows a colon, where the address ends.
    have read : readIpv4 (ipv4Text address ++ ':' :: decimal port.toNat) =
        some (address, ':' :: decimal port.toNat) := readIpv4_text address (ends_cons (by decide) _)
    have whole : readSocketV4 (ipv4Text address ++ ':' :: decimal port.toNat) =
        some (.v4 address port, []) := by
      simp [readSocketV4, read, readPort_text]
    rw [text, whole]
    rfl
  | v6 address port scopeId =>
    -- Between the brackets there is the address, and its scope if there is one.
    have shape : (SocketAddr.v6 address port scopeId).text = '[' :: (ipv6Text address ++
        ((if scopeId = 0 then [] else '%' :: decimal scopeId.toNat) ++
          ']' :: ':' :: decimal port.toNat)) := by
      simp [text]
    have read := readIpv6_text address (blocks_scope scopeId (':' :: decimal port.toNat))
    have whole : readSocketV6 ('[' :: (ipv6Text address ++
        ((if scopeId = 0 then [] else '%' :: decimal scopeId.toNat) ++
          ']' :: ':' :: decimal port.toNat))) = some (.v6 address port scopeId, []) := by
      simp only [readSocketV6, readGivenChar, if_true, Option.bind_eq_bind, Option.bind_some, read,
        readScope_text, readPort_text, UInt16.ofNat_toNat, UInt32.ofNat_toNat, Option.pure_def]
    rw [shape, readSocketV4_bracket, whole]
    rfl

/-- Different addresses are printed differently. -/
theorem toString_injective : Function.Injective toString := by
  intro left right same
  have parsed := congrArg parse same
  rw [parse_toString, parse_toString] at parsed
  exact Option.some.inj parsed

/-- Segments take at most five characters each. -/
theorem length_groupsText_le (segments : List UInt16) :
    (groupsText segments).length ≤ 5 * segments.length := by
  have digits (segment : UInt16) : (group segment).length ≤ 4 :=
    (Nat.length_toDigits_le_iff (by decide) (by decide)).mpr segment.toNat_lt
  have later (segments : List UInt16) :
      (segments.flatMap fun segment => ':' :: group segment).length ≤ 5 * segments.length := by
    induction segments with
    | nil => simp
    | cons segment rest ih =>
      have first := digits segment
      simp only [List.flatMap_cons, List.length_append, List.length_cons]
      omega
  cases segments with
  | nil => simp [groupsText]
  | cons segment rest =>
    have first := digits segment
    have others := later rest
    simp only [groupsText, List.length_append, List.length_cons]
    omega

/-- A version 4 address takes at most fifteen characters. -/
theorem length_ipv4Text_le (address : Ipv4Addr) : (ipv4Text address).length ≤ 15 := by
  have digits (octet : UInt8) : (decimal octet.toNat).length ≤ 3 := Json.length_toDigits_byte octet
  have zero := digits (address.octets.get 0)
  have one := digits (address.octets.get 1)
  have two := digits (address.octets.get 2)
  have three := digits (address.octets.get 3)
  simp only [ipv4Text, List.length_append, List.length_cons]
  omega

/-- An address is printed in few characters. -/
theorem length_text_le (address : SocketAddr) : address.text.length ≤ 64 := by
  have small (port : UInt16) : (decimal port.toNat).length ≤ 5 :=
    (Nat.length_toDigits_le_iff (by decide) (by decide)).mpr
      (Nat.lt_trans port.toNat_lt (by decide))
  cases address with
  | v4 address port =>
    have octets := length_ipv4Text_le address
    have digits := small port
    simp only [text, List.length_append, List.length_cons]
    omega
  | v6 address port scopeId =>
    have digits := small port
    have scope : (if scopeId = 0 then [] else '%' :: decimal scopeId.toNat).length ≤ 11 := by
      split
      · simp
      · have number : (decimal scopeId.toNat).length ≤ 10 :=
          (Nat.length_toDigits_le_iff (by decide) (by decide)).mpr
            (Nat.lt_trans scopeId.toNat_lt (by decide))
        rw [List.length_cons]
        omega
    have segments : (ipv6Text address).length ≤ 42 := by
      rw [ipv6Text]
      cases toIpv4Mapped address with
      | some mapped =>
        have octets := length_ipv4Text_le mapped
        simp only [List.length_append, List.length_cons, List.length_nil]
        omega
      | none =>
        have total : address.segments.toList.length = 8 := by simp
        have whole := length_groupsText_le address.segments.toList
        dsimp only
        split
        · -- The two sides of the gap hold eight segments at most.
          rename_i long
          have before := length_groupsText_le
            (address.segments.toList.take (longestZeros address.segments.toList).start)
          have after := length_groupsText_le (address.segments.toList.drop
            ((longestZeros address.segments.toList).start +
              (longestZeros address.segments.toList).len))
          rw [List.length_take] at before
          rw [List.length_drop] at after
          simp only [List.length_append, List.length_cons]
          omega
        · omega
    simp only [text, List.length_append, List.length_cons]
    omega

end SocketAddr

end Rust
