import Awe.Apps.Package
import Awe.Reference
import Awe.Rust.Leb128
import Awe.Rust.Slice

/-! What the check of a WebAssembly module accepts, and that it always comes to an end. -/

namespace Awe

open Rust

/-- A section of a module: its kind, how many bytes it has, and these. -/
structure WasmSection where
  id : UInt8
  size : Bytes
  content : Bytes
deriving DecidableEq

/-- The bytes of a section. -/
def WasmSection.bytes (self : WasmSection) : Bytes := self.id :: (self.size ++ self.content)

/-- A section as the format has it: its size is a `u32` of at most five bytes. -/
structure WasmSection.Standard (item : WasmSection) : Prop where
  leb : IsLeb item.size
  short : item.size.length ≤ 5
  small : lebValue item.size < 2 ^ 32
  sized : item.content.length = lebValue item.size

/-- A section as it is read: its size has at most ten bytes, and counts modulo `2 ^ 64`. -/
structure WasmSection.Readable (item : WasmSection) : Prop where
  leb : IsLeb item.size
  short : item.size.length ≤ 10
  sized : item.content.length = lebValue item.size % 2 ^ 64

/-- What every module starts with. -/
def wasmHeader : Bytes := 0 :: utf8 "asm" ++ [1, 0, 0, 0]

/-- The bytes of a module with sections. -/
def wasmModule (sections : List WasmSection) : Bytes :=
  wasmHeader ++ sections.flatMap WasmSection.bytes

/-- A section that the format has is one that is read. -/
theorem WasmSection.Standard.readable {item : WasmSection} (standard : item.Standard) :
    item.Readable := by
  refine ⟨standard.leb, standard.short.trans (by decide), ?_⟩
  rw [Nat.mod_eq_of_lt (standard.small.trans (by decide)), standard.sized]

/-- The next bytes of a number add their bits to those that were read. -/
theorem go_of_isLeb {code : Bytes} (leb : IsLeb code) (rest : Bytes) {value : UInt64}
    {shift budget : Nat} (enough : code.length ≤ budget) (most : budget ≤ 10)
    (placed : shift = 7 * (10 - budget)) (low : value.toNat < 2 ^ shift) :
    ∃ number, readLeb.go (code ++ rest) value (UInt64.ofNat shift) budget =
        .ok (number, 10 - budget + code.length) ∧
      number.toNat = (value.toNat + 2 ^ shift * lebValue code) % 2 ^ 64 := by
  induction code generalizing value shift budget with
  | nil => exact absurd rfl leb.ne_nil
  | cons byte more ih =>
    obtain ⟨left, rfl⟩ : ∃ left, budget = left + 1 := ⟨budget - 1, by
      rw [List.length_cons] at enough; omega⟩
    have bits : (value ||| (byte &&& 0x7f).toUInt64 <<< UInt64.ofNat shift).toNat =
        (value.toNat + 2 ^ shift * (byte.toNat % 128)) % 2 ^ 64 := by
      rw [toNat_or_shiftLeft low (by omega), UInt8.toNat_toUInt64, toNat_and_low]
    rw [List.cons_append, readLeb.go, lebValue, List.length_cons]
    generalize (value ||| (byte &&& 0x7f).toUInt64 <<< UInt64.ofNat shift) = next at bits ⊢
    by_cases last : byte.toNat < 128
    · -- The number ends here, so nothing is added to it any more.
      have alone := leb.of_last last
      subst alone
      rw [if_pos ((and_high_eq_zero_iff byte).mpr last)]
      refine ⟨next, ?_, ?_⟩
      · rw [List.length_nil]
        congr 2
        omega
      · rw [bits, lebValue, Nat.mul_zero, Nat.add_zero]
    · rw [if_neg (mt (and_high_eq_zero_iff byte).mp last)]
      have goesOn := leb.of_more last
      have further := List.length_pos_iff.mpr goesOn.ne_nil
      rw [List.length_cons] at enough
      -- At least one byte follows, so the bits of this one are all inside.
      have below := add_bits_lt low byte
      have inside : 2 ^ (shift + 7) ≤ 2 ^ 64 := Nat.pow_le_pow_right (by decide) (by omega)
      have exact : next.toNat = value.toNat + 2 ^ shift * (byte.toNat % 128) := by
        rw [bits]
        exact Nat.mod_eq_of_lt (by omega)
      obtain ⟨number, read, spelled⟩ := ih goesOn (show more.length ≤ left by omega) (by omega)
        (show shift + 7 = 7 * (10 - left) by omega)
        (show next.toNat < 2 ^ (shift + 7) by omega)
      refine ⟨number, ?_, ?_⟩
      · rw [UInt64.ofNat_add] at read
        rw [show (7 : UInt64) = UInt64.ofNat 7 from rfl, read]
        congr 2
        omega
      · rw [spelled, exact, Nat.pow_add]
        congr 1
        ring

/-- The number at the start of bytes is read, whatever follows it. -/
theorem readLeb_of_isLeb {code : Bytes} (leb : IsLeb code) (short : code.length ≤ 10)
    (rest : Bytes) : ∃ number, readLeb (code ++ rest) = .ok (number, code.length) ∧
      number.toNat = lebValue code % 2 ^ 64 := by
  obtain ⟨number, read, spelled⟩ := go_of_isLeb leb rest short (le_refl 10)
    (show 0 = 7 * (10 - 10) by decide) (show (0 : UInt64).toNat < 2 ^ 0 by decide)
  refine ⟨number, ?_, ?_⟩
  · rw [readLeb]
    refine read.trans ?_
    rw [Nat.sub_self, Nat.zero_add]
  · rw [spelled]
    congr 1
    simp

/-- What is read is the number at the start, which is not longer than the bytes that may be read. -/
theorem isLeb_of_go {bytes : Bytes} {value shift number : UInt64} {budget taken : Nat}
    (most : budget ≤ 10) (read : readLeb.go bytes value shift budget = .ok (number, taken)) :
    ∃ code rest, bytes = code ++ rest ∧ IsLeb code ∧ code.length ≤ budget ∧
      taken = 10 - budget + code.length := by
  induction budget generalizing bytes value shift with
  | zero =>
    rw [readLeb.go] at read
    cases read
  | succ left ih =>
    cases bytes with
    | nil =>
      rw [readLeb.go] at read
      cases read
    | cons byte more =>
      -- The first byte with its highest bit clear is the last one of the number.
      rw [readLeb.go] at read
      by_cases last : byte.toNat < 128
      · rw [if_pos ((and_high_eq_zero_iff byte).mpr last)] at read
        cases read
        refine ⟨[byte], more, rfl, ?_, ?_, ?_⟩
        · rw [IsLeb, if_pos last]
        · rw [List.length_singleton]
          omega
        · rw [List.length_singleton]
          omega
      · rw [if_neg (mt (and_high_eq_zero_iff byte).mp last)] at read
        obtain ⟨code, rest, rfl, leb, short, counted⟩ := ih (by omega) read
        refine ⟨byte :: code, rest, rfl, ?_, ?_, ?_⟩
        · rwa [IsLeb, if_neg last]
        · rw [List.length_cons]
          omega
        · rw [List.length_cons]
          omega

/-- A number is read exactly from the bytes of one, ten at most. -/
theorem isLeb_of_readLeb {bytes : Bytes} {number : UInt64} {taken : Nat}
    (read : readLeb bytes = .ok (number, taken)) :
    ∃ code rest, bytes = code ++ rest ∧ IsLeb code ∧ code.length ≤ 10 ∧ taken = code.length ∧
      number.toNat = lebValue code % 2 ^ 64 := by
  obtain ⟨code, rest, rfl, leb, short, counted⟩ := isLeb_of_go (le_refl 10) read
  obtain ⟨again, same, spelled⟩ := readLeb_of_isLeb leb short rest
  cases read.symm.trans same
  exact ⟨code, rest, rfl, leb, short, rfl, spelled⟩

variable {position : Nat}

/-- A section is passed over unless it imports. -/
theorem validateSections_section {item : WasmSection} (readable : item.Readable) (rest : Bytes)
    (inside : position + item.bytes.length ≤ u64Max) :
    validateSections position (item.bytes ++ rest) =
      if item.id = 2 then
        .error "WASM host imports are forbidden; use declared capabilities"
      else validateSections (position + item.bytes.length) rest := by
  have row : item.bytes ++ rest = item.id :: (item.size ++ (item.content ++ rest)) := by
    simp [WasmSection.bytes]
  have size : item.bytes.length = 1 + item.size.length + item.content.length := by
    simp only [WasmSection.bytes, List.length_cons, List.length_append]
    omega
  obtain ⟨number, read, spelled⟩ := readLeb_of_isLeb readable.leb readable.short
    (item.content ++ rest)
  rw [← readable.sized] at spelled
  rw [row, validateSections, read]
  -- The content is all there, and what follows it is what is left.
  have end_ : ¬ position + 1 + item.size.length + number.toNat > u64Max := by omega
  have whole : ¬ number.toNat >
      ((item.size ++ (item.content ++ rest)).drop item.size.length).length := by
    rw [List.drop_left, List.length_append]
    omega
  have left :
      (item.size ++ (item.content ++ rest)).drop (item.size.length + number.toNat) = rest := by
    rw [← List.drop_drop, List.drop_left, spelled, List.drop_left]
  have next : position + 1 + item.size.length + number.toNat = position + item.bytes.length := by
    omega
  change (do
    if position + 1 + item.size.length + number.toNat > u64Max then throw "invalid wasm section"
    if number.toNat > ((item.size ++ (item.content ++ rest)).drop item.size.length).length then
      throw "truncated wasm section"
    if item.id = 2 then throw "WASM host imports are forbidden; use declared capabilities"
    validateSections (position + 1 + item.size.length + number.toNat)
      ((item.size ++ (item.content ++ rest)).drop (item.size.length + number.toNat))) = _
  rw [if_neg end_, if_neg whole, left, next]
  by_cases imports : item.id = 2
  · rw [if_pos imports, if_pos imports]
    rfl
  · rw [if_neg imports, if_neg imports]

/-- Sections that are read are all passed over exactly if none of them imports. -/
theorem validateSections_flatMap {sections : List WasmSection}
    (readable : ∀ item ∈ sections, item.Readable)
    (inside : position + (sections.flatMap WasmSection.bytes).length ≤ u64Max) :
    validateSections position (sections.flatMap WasmSection.bytes) = .ok () ↔
      ∀ item ∈ sections, item.id ≠ 2 := by
  induction sections generalizing position with
  | nil =>
    rw [List.flatMap_nil, validateSections]
    simp
  | cons item rest ih =>
    rw [List.flatMap_cons, List.length_append] at inside
    rw [List.flatMap_cons, validateSections_section (readable item List.mem_cons_self) _ (by omega),
      List.forall_mem_cons]
    by_cases imports : item.id = 2
    · -- The first import section ends the walk with an error.
      rw [if_pos imports]
      exact iff_of_false (fun same => (by cases same)) fun none => none.1 imports
    · rw [if_neg imports, ih (fun other member => readable other (List.mem_cons_of_mem _ member))
        (by omega)]
      exact (and_iff_right imports).symm

/-- Whatever is passed over consists of sections that do not import. -/
theorem exists_sections {bytes : Bytes} (passed : validateSections position bytes = .ok ()) :
    ∃ sections : List WasmSection, (∀ item ∈ sections, item.Readable ∧ item.id ≠ 2) ∧
      bytes = sections.flatMap WasmSection.bytes := by
  induction size : bytes.length using Nat.strongRecOn generalizing position bytes with
  | ind length ih =>
    cases bytes with
    | nil => exact ⟨[], fun item member => absurd member List.not_mem_nil, rfl⟩
    | cons id rest =>
      rw [validateSections] at passed
      obtain ⟨⟨number, taken⟩, read, passed⟩ := bind_eq_ok_iff.mp passed
      obtain ⟨code, after, rfl, leb, short, rfl, spelled⟩ := isLeb_of_readLeb read
      dsimp only at passed
      -- None of the three checks has failed.
      split at passed
      · cases passed
      split at passed
      · cases passed
      rename_i whole
      split at passed
      · cases passed
      rename_i imports
      rw [List.drop_left] at whole
      have content : (after.take number.toNat).length = number.toNat :=
        List.length_take_of_le (Nat.le_of_not_lt whole)
      have left : (code ++ after).drop (code.length + number.toNat) = after.drop number.toNat := by
        rw [← List.drop_drop, List.drop_left]
      rw [left] at passed
      -- What is left is shorter, and consists of sections as well.
      obtain ⟨sections, fine, rest⟩ := ih (after.drop number.toNat).length (by
        rw [← size, List.length_drop, List.length_cons, List.length_append]
        omega) passed rfl
      refine ⟨⟨id, code, after.take number.toNat⟩ :: sections, ?_, ?_⟩
      · rw [List.forall_mem_cons]
        exact ⟨⟨⟨leb, short, content.trans spelled⟩, imports⟩, fine⟩
      · rw [List.flatMap_cons, ← rest]
        simp [WasmSection.bytes]

namespace Checked

/-- `read_leb`, with the panic that a shift could cause. -/
def readLeb (bytes : Bytes) : Except (Failure String) (UInt64 × Nat) := go (bytes.take 10) 0 0 0
where
  /-- Add the bits of one byte after the other. -/
  go : Bytes → UInt64 → Nat → Nat → Except (Failure String) (UInt64 × Nat)
    | [], _, _, _ => .error (.error "invalid leb128")
    | byte :: rest, value, shift, position => do
      let value := value ||| (← shiftLeft (byte &&& 0x7f).toUInt64 shift)
      if byte &&& 0x80 = 0 then return (value, position + 1)
      go rest value (shift + 7) (position + 1)

/-- Check the section at a position, and find where the next one starts. -/
def nextSection (bytes : Bytes) (position : Nat) : Except (Failure String) Nat := do
  let id ← index bytes position
  let position ← addUsize position 1
  let (length, taken) ← readLeb (← slice bytes position bytes.length)
  let position ← addUsize position taken
  if position + length.toNat > u64Max then throw (.error "invalid wasm section")
  if position + length.toNat > bytes.length then throw (.error "truncated wasm section")
  if id = 2 then throw (.error "WASM host imports are forbidden; use declared capabilities")
  return position + length.toNat

/-- The next section starts behind this one. -/
theorem lt_of_nextSection {bytes : Bytes} {position next : Nat}
    (found : nextSection bytes position = .ok next) : position < next := by
  obtain ⟨id, _, found⟩ := bind_eq_ok_iff.mp found
  obtain ⟨start, added, found⟩ := bind_eq_ok_iff.mp found
  obtain ⟨rest, _, found⟩ := bind_eq_ok_iff.mp found
  obtain ⟨⟨length, taken⟩, _, found⟩ := bind_eq_ok_iff.mp found
  obtain ⟨after, moved, found⟩ := bind_eq_ok_iff.mp found
  -- The id takes a byte, and the size and the content take no fewer than none.
  have behind := addUsize_eq_ok added
  have further := addUsize_eq_ok moved
  dsimp only at found
  split at found
  · cases found
  split at found
  · cases found
  split at found
  · cases found
  · cases found
    omega

/-- Check the sections from a position on. -/
def validateSections (bytes : Bytes) (position : Nat) : Except (Failure String) Unit :=
  if position < bytes.length then
    match _found : nextSection bytes position with
    | .error failure => .error failure
    | .ok next => validateSections bytes next
  else .ok ()
termination_by bytes.length - position
decreasing_by
  have behind := lt_of_nextSection _found
  omega

/-- `validate_wasm`, with the panics that its slices, its indices and its sums could cause. -/
def validateWasm (bytes : Bytes) : Except (Failure String) Unit := do
  if bytes.length < 8 then throw (.error "invalid WebAssembly module")
  if (← slice bytes 0 4) ≠ 0 :: utf8 "asm" then throw (.error "invalid WebAssembly module")
  if (← slice bytes 4 8) ≠ [1, 0, 0, 0] then throw (.error "invalid WebAssembly module")
  validateSections bytes 8

/-- Reading the next bytes of a number never panics: the ninth byte after them is the last. -/
theorem readLeb_go_eq (bytes : Bytes) (value : UInt64) {shift budget position : Nat}
    (most : budget ≤ 10) (placed : shift = 7 * (10 - budget)) (counted : position = 10 - budget) :
    readLeb.go (bytes.take budget) value shift position =
      (Awe.readLeb.go bytes value (UInt64.ofNat shift) budget).mapError .error := by
  induction budget generalizing bytes value shift position with
  | zero => rw [List.take_zero, readLeb.go, Awe.readLeb.go]; rfl
  | succ left ih =>
    cases bytes with
    | nil => rw [List.take_nil, readLeb.go, Awe.readLeb.go]; rfl
    | cons byte rest =>
      have small : shift < 64 := by omega
      rw [List.take_succ_cons, readLeb.go, Awe.readLeb.go, shiftLeft_of_lt small]
      change (do
        let value := value ||| (byte &&& 0x7f).toUInt64 <<< UInt64.ofNat shift
        if byte &&& 0x80 = 0 then return (value, position + 1)
        readLeb.go (rest.take left) value (shift + 7) (position + 1)) = _
      dsimp only
      by_cases last : byte &&& 0x80 = 0
      · rw [if_pos last, if_pos last]
        have taken : position + 1 = 10 - left := by omega
        rw [taken]
        rfl
      · rw [if_neg last, if_neg last]
        -- One byte more is read, and seven places are taken.
        have further := ih rest (value ||| (byte &&& 0x7f).toUInt64 <<< UInt64.ofNat shift)
          (by omega) (show shift + 7 = 7 * (10 - left) by omega)
          (show position + 1 = 10 - left by omega)
        rw [UInt64.ofNat_add] at further
        exact further

/-- Reading a number never panics, and is what it is without the panics. -/
theorem readLeb_eq (bytes : Bytes) : readLeb bytes = (Awe.readLeb bytes).mapError .error :=
  readLeb_go_eq bytes 0 (le_refl 10) rfl rfl

/-- What is read is not behind the end of the bytes. -/
theorem taken_le {bytes : Bytes} {number : UInt64} {taken : Nat}
    (read : Awe.readLeb bytes = .ok (number, taken)) : taken ≤ bytes.length := by
  obtain ⟨code, rest, rfl, _, _, rfl, _⟩ := isLeb_of_readLeb read
  rw [List.length_append]
  omega

/-- Checking one section never panics while all positions are numbers of a `usize`. -/
theorem nextSection_eq {bytes : Bytes} (addressable : bytes.length < 2 ^ 64) {position : Nat}
    (there : position < bytes.length) : nextSection bytes position = Except.mapError .error (do
      let (length, taken) ← Awe.readLeb (bytes.drop (position + 1))
      if position + 1 + taken + length.toNat > u64Max then throw "invalid wasm section"
      if position + 1 + taken + length.toNat > bytes.length then throw "truncated wasm section"
      if bytes[position] = 2 then
        throw "WASM host imports are forbidden; use declared capabilities"
      return position + 1 + taken + length.toNat) := by
  have limit : u64Max = 2 ^ 64 - 1 := rfl
  rw [nextSection, index_of_lt there, ok_bind, addUsize_of_le (by omega), ok_bind,
    slice_of_le (by omega) (le_refl _), ok_bind, List.take_length, readLeb_eq]
  cases read : Awe.readLeb (bytes.drop (position + 1)) with
  | error message => rfl
  | ok result =>
    obtain ⟨length, taken⟩ := result
    -- What was read of the number is not behind the end either.
    have inside := taken_le read
    rw [List.length_drop] at inside
    change (addUsize (position + 1) taken >>= _) = _
    rw [addUsize_of_le (by omega), ok_bind, ok_bind]
    dsimp only
    split
    · rfl
    split
    · rfl
    split
    · rfl
    · rfl

/-- A section that fails its check ends the check of the module. -/
theorem validateSections_of_error {bytes : Bytes} {position : Nat} {failure : Failure String}
    (there : position < bytes.length) (stops : nextSection bytes position = .error failure) :
    validateSections bytes position = .error failure := by
  rw [validateSections, if_pos there]
  split
  · rename_i other found
    exact congrArg Except.error (Except.error.inj (found.symm.trans stops))
  · rename_i next found
    cases found.symm.trans stops

/-- A section that passes its check is followed by the next one. -/
theorem validateSections_of_ok {bytes : Bytes} {position next : Nat}
    (there : position < bytes.length) (passes : nextSection bytes position = .ok next) :
    validateSections bytes position = validateSections bytes next := by
  rw [validateSections, if_pos there]
  split
  · rename_i failure found
    cases found.symm.trans passes
  · rename_i other found
    cases found.symm.trans passes
    rfl

/-- Checking the sections from a position on never panics, and is what it is without the panics. -/
theorem validateSections_eq {bytes : Bytes} (addressable : bytes.length < 2 ^ 64) {position : Nat}
    (inside : position ≤ bytes.length) : validateSections bytes position =
      (Awe.validateSections position (bytes.drop position)).mapError .error := by
  -- Every section that passes leaves fewer bytes.
  induction left : bytes.length - position using Nat.strongRecOn generalizing position with
  | ind left ih =>
    by_cases there : position < bytes.length
    swap
    · rw [validateSections, if_neg there, List.drop_eq_nil_of_le (by omega), Awe.validateSections]
      rfl
    have step := nextSection_eq addressable there
    rw [List.drop_eq_getElem_cons there, Awe.validateSections]
    cases read : Awe.readLeb (bytes.drop (position + 1)) with
    | error message =>
      rw [read, error_bind] at step
      exact validateSections_of_error there step
    | ok result =>
      obtain ⟨length, taken⟩ := result
      have within := taken_le read
      rw [List.length_drop] at within
      rw [read, ok_bind] at step
      rw [ok_bind]
      dsimp only at step ⊢
      have rest : ((bytes.drop (position + 1)).drop taken).length =
          bytes.length - (position + 1) - taken := by
        rw [List.length_drop, List.length_drop]
      by_cases far : position + 1 + taken + length.toNat > u64Max
      · rw [if_pos far] at step ⊢
        exact validateSections_of_error there step
      by_cases truncated : position + 1 + taken + length.toNat > bytes.length
      · rw [if_neg far, if_pos truncated] at step
        rw [if_neg far, if_pos (by omega)]
        exact validateSections_of_error there step
      by_cases imports : bytes[position] = 2
      · rw [if_neg far, if_neg truncated, if_pos imports] at step
        rw [if_neg far, if_neg (by omega), if_pos imports]
        exact validateSections_of_error there step
      rw [if_neg far, if_neg truncated, if_neg imports] at step
      rw [if_neg far, if_neg (by omega), if_neg imports, validateSections_of_ok there step]
      -- What is left starts behind the section.
      have behind : (bytes.drop (position + 1)).drop (taken + length.toNat) =
          bytes.drop (position + 1 + taken + length.toNat) := by
        rw [List.drop_drop, Nat.add_assoc (position + 1)]
      rw [behind]
      exact ih (bytes.length - (position + 1 + taken + length.toNat)) (by omega) (by omega) rfl

/-- Checking a module never panics, and is what it is without the panics. -/
theorem validateWasm_eq {bytes : Bytes} (addressable : bytes.length < 2 ^ 64) :
    validateWasm bytes = (Awe.validateWasm bytes).mapError .error := by
  rw [validateWasm, Awe.validateWasm]
  by_cases short : bytes.length < 8
  · rw [if_pos short, if_pos (Or.inl short)]
    rfl
  have front : (slice bytes 0 4 : Except (Failure String) Bytes) = .ok (bytes.take 4) := by
    rw [slice_of_le (by omega) (by omega), List.drop_zero]
  have back : (slice bytes 4 8 : Except (Failure String) Bytes) = .ok ((bytes.drop 4).take 4) := by
    rw [slice_of_le (by omega) (by omega), List.drop_take]
  rw [if_neg short, front, ok_bind]
  -- Both look at the same four bytes, and at the next four.
  by_cases magic : bytes.take 4 = 0 :: utf8 "asm"
  swap
  · rw [if_pos magic, if_pos (Or.inr (Or.inl magic))]
    rfl
  rw [if_neg (not_not.mpr magic), back, ok_bind]
  by_cases version : (bytes.drop 4).take 4 = [1, 0, 0, 0]
  swap
  · rw [if_pos version, if_pos (Or.inr (Or.inr version))]
    rfl
  rw [if_neg (not_not.mpr version), if_neg (not_or.mpr ⟨short, not_or.mpr
    ⟨not_not.mpr magic, not_not.mpr version⟩⟩)]
  exact validateSections_eq addressable (by omega)

end Checked

/-- Behind the header the sections are checked. -/
theorem validateWasm_header (rest : Bytes) :
    validateWasm (wasmHeader ++ rest) = validateSections 8 rest := by
  have size : wasmHeader.length = 8 := by decide
  have spelled : wasmHeader = [0, 0x61, 0x73, 0x6d, 1, 0, 0, 0] := by decide
  have front : (wasmHeader ++ rest).take 4 = 0 :: utf8 "asm" := by
    rw [List.take_append_of_le_length (by rw [size]; decide)]
    decide
  have back : ((wasmHeader ++ rest).drop 4).take 4 = [1, 0, 0, 0] := by
    rw [spelled]
    rfl
  have left : (wasmHeader ++ rest).drop 8 = rest := List.drop_left' size
  rw [validateWasm, front, back, left, if_neg]
  rw [List.length_append, size]
  simp

/-- What is accepted starts with the header. -/
theorem header_of_validateWasm {bytes : Bytes} (accepted : validateWasm bytes = .ok ()) :
    ∃ rest, bytes = wasmHeader ++ rest := by
  rw [validateWasm] at accepted
  split at accepted
  · cases accepted
  · rename_i headed
    obtain ⟨_, front, back⟩ := not_or.mp headed |>.imp_right not_or.mp
    -- The header is compared in two halves.
    have eight : bytes.take 8 = wasmHeader := by
      rw [← List.take_append_drop 4 (bytes.take 8), List.take_take, List.drop_take]
      exact congrArg₂ (· ++ ·) (not_not.mp front) (not_not.mp back)
    exact ⟨bytes.drop 8, by rw [← eight, List.take_append_drop]⟩

/-- A module of sections that are read is accepted exactly if none of them imports. -/
theorem validateWasm_wasmModule {sections : List WasmSection}
    (readable : ∀ item ∈ sections, item.Readable)
    (addressable : (wasmModule sections).length < 2 ^ 64) :
    validateWasm (wasmModule sections) = .ok () ↔ ∀ item ∈ sections, item.id ≠ 2 := by
  have size : wasmHeader.length = 8 := by decide
  have limit : u64Max = 2 ^ 64 - 1 := rfl
  rw [wasmModule, List.length_append, size] at addressable
  rw [wasmModule, validateWasm_header]
  exact validateSections_flatMap readable (by omega)

/-- The checks with and without panics accept the same. -/
theorem Checked.validateWasm_eq_ok_iff {bytes : Bytes} (addressable : bytes.length < 2 ^ 64) :
    Checked.validateWasm bytes = .ok () ↔ Awe.validateWasm bytes = .ok () := by
  rw [Checked.validateWasm_eq addressable]
  cases Awe.validateWasm bytes with
  | error message => exact iff_of_false (fun same => (by cases same)) fun same => (by cases same)
  | ok value => exact iff_of_true rfl rfl

/--
Modules of sections as the format has them are accepted exactly if none of them imports.

Checking any bytes comes to an end without a panic, and what is accepted consists of sections that
do not import; the size of such a section may have ten bytes.
-/
theorem wasm_imports_refused :
    (∀ sections : List WasmSection, (∀ item ∈ sections, item.Standard) →
      (wasmModule sections).length < 2 ^ 64 →
      (Checked.validateWasm (wasmModule sections) = .ok () ↔ ∀ item ∈ sections, item.id ≠ 2)) ∧
    ∀ bytes : Bytes, bytes.length < 2 ^ 64 →
      Checked.validateWasm bytes ≠ .error .panic ∧
      (Checked.validateWasm bytes = .ok () → ∃ sections : List WasmSection,
        bytes = wasmModule sections ∧ ∀ item ∈ sections, item.Readable ∧ item.id ≠ 2) := by
  constructor
  · intro sections standard addressable
    rw [Checked.validateWasm_eq_ok_iff addressable]
    exact validateWasm_wasmModule (fun item member => (standard item member).readable) addressable
  · intro bytes addressable
    refine ⟨?_, fun accepted => ?_⟩
    · rw [Checked.validateWasm_eq addressable]
      cases validateWasm bytes with
      | error message => exact fun same => (by cases same)
      | ok value => exact fun same => (by cases same)
    · rw [Checked.validateWasm_eq_ok_iff addressable] at accepted
      obtain ⟨rest, rfl⟩ := header_of_validateWasm accepted
      rw [validateWasm_header] at accepted
      -- What is accepted was walked through section by section.
      obtain ⟨sections, fine, rfl⟩ := exists_sections accepted
      exact ⟨sections, rfl, fine⟩

namespace Reference

/-- A section of a kind, with a size that is written longer than it need be. -/
def padded (id : UInt8) : WasmSection := ⟨id, [0x82, 0x80, 0x00], [7, 7]⟩

/-- The format has such a section. -/
theorem padded_standard (id : UInt8) : (padded id).Standard where
  leb := (by decide : IsLeb [0x82, 0x80, 0x00])
  short := (by decide : 3 ≤ 5)
  small := (by decide : lebValue [0x82, 0x80, 0x00] < 2 ^ 32)
  sized := rfl

/-- A section whose size has six bytes, which spell zero. -/
def longSized : WasmSection := ⟨0, [0x80, 0x80, 0x80, 0x80, 0x80, 0x00], []⟩

/-- It is read. -/
theorem longSized_readable : longSized.Readable := ⟨by decide, by decide, by decide⟩

end Reference

/-- Such a section is accepted unless it is of the second kind, and no bytes are a panic. -/
theorem padded_sections_checked :
    Checked.validateWasm (wasmModule [Reference.padded 1]) = .ok () ∧
      Checked.validateWasm (wasmModule [Reference.padded 1, Reference.padded 2]) ≠ .ok () ∧
      Checked.validateWasm [] ≠ .error .panic := by
  have standard : ∀ item ∈ [Reference.padded 1, Reference.padded 2], item.Standard := by
    intro item member
    rcases List.mem_pair.mp member with rfl | rfl
    · exact Reference.padded_standard 1
    · exact Reference.padded_standard 2
  refine ⟨(wasm_imports_refused.1 _ (fun item member => ?_) (by decide)).mpr (by decide), ?_,
    (wasm_imports_refused.2 [] (by decide)).1⟩
  · exact standard item (List.mem_of_mem_head? (by rw [List.mem_singleton.mp member]; rfl))
  · intro accepted
    have none := (wasm_imports_refused.1 _ standard (by decide)).mp accepted
    exact none (Reference.padded 2) (by decide) rfl

/-- A size of more than five bytes is accepted, although the format has no such section. -/
theorem long_size_accepted :
    Checked.validateWasm (wasmModule [Reference.longSized]) = .ok () ∧
      ¬ ∃ sections : List WasmSection, wasmModule [Reference.longSized] = wasmModule sections ∧
        ∀ item ∈ sections, item.Standard ∧ item.id ≠ 2 := by
  constructor
  · have readable : ∀ item ∈ [Reference.longSized], item.Readable := fun item member =>
      (List.mem_singleton.mp member) ▸ Reference.longSized_readable
    rw [Checked.validateWasm_eq_ok_iff (by decide), validateWasm_wasmModule readable (by decide)]
    decide
  · rintro ⟨sections, split, fine⟩
    have rest := List.append_cancel_left split
    cases sections with
    | nil => cases rest
    | cons item others =>
      have standard := (fine item List.mem_cons_self).1
      -- The size is at the start of six bytes, of which only the last one ends a number.
      have bytes : item.size ++ (item.content ++ others.flatMap WasmSection.bytes) =
          [0x80, 0x80, 0x80, 0x80, 0x80, 0x00] := by
        rw [List.flatMap_cons, List.flatMap_cons, WasmSection.bytes, WasmSection.bytes,
          List.cons_append, List.cons_append] at rest
        rw [← List.append_assoc, ← (List.cons.inj rest).2]
        rfl
      have size := List.prefix_iff_eq_take.mp ⟨_, bytes⟩
      have unfinished : ∀ length ≤ 5,
          ¬ IsLeb (([0x80, 0x80, 0x80, 0x80, 0x80, 0x00] : Bytes).take length) := by decide
      exact unfinished item.size.length standard.short (size ▸ standard.leb)

end Awe
