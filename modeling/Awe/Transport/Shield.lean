import Awe.Reference
import Awe.Rust.Integer
import Awe.Transport.Replay

/-! Packets with a keyed tag, and the hop counter that relays count down. -/

namespace Awe

open Rust

/-- The version of the packet format. -/
def shieldVersion : UInt16 := 1

/-- The most hops of a packet. -/
def maxTtl : UInt8 := 32

/-- The most bytes of a payload. -/
def maxPayload : Nat := 8 * 1024 * 1024

/-- Whether two byte strings are equal, looking at all their bytes in any case. -/
def constantTimeEq (a b : Bytes) : Bool :=
  if a.length ≠ b.length then false
  else (a.zip b).foldl (fun v pair => v ||| (pair.1 ^^^ pair.2)) 0 = (0 : UInt8)

/-- What packets further take from `blake3`. -/
structure ShieldPrimitives extends Primitives where
  /-- `blake3::Hasher::new_keyed`, over a whole message. -/
  keyedBlake3 : Bytes32 → Bytes → Bytes32

/-- What a packet is for. -/
inductive PacketClass where
  | control
  | lookup
  | shard
  | callSignal
  | site
  | message
deriving DecidableEq

/-- The number of a class. -/
def PacketClass.toByte : PacketClass → UInt8
  | control => 0
  | lookup => 1
  | shard => 2
  | callSignal => 3
  | site => 4
  | message => 5

/-- A packet with its tag. -/
structure ShieldPacket where
  version : UInt16
  packetClass : PacketClass
  sessionId : Bytes16
  requestId : Bytes16
  sequence : UInt64
  issuedAtUnix : UInt64
  ttl : UInt8
  payloadHash : Bytes32
  payload : Bytes
  tag : Bytes32
deriving DecidableEq

namespace ShieldPacket

variable (P : ShieldPrimitives)

/-- The digest of everything the tag is to protect. -/
def authenticatedBytes (self : ShieldPacket) : Bytes :=
  (P.blake3 (utf8 "AWE/SHIELD/v1" ++ beBytes 2 self.version.toNat ++ [self.packetClass.toByte] ++
    self.sessionId.toList ++ self.requestId.toList ++ beBytes 8 self.sequence.toNat ++
    beBytes 8 self.issuedAtUnix.toNat ++ [self.ttl] ++ self.payloadHash.toList)).toList

/-- The tag of a packet under a key. -/
def computeTag (self : ShieldPacket) (key : Bytes32) : Bytes32 :=
  P.keyedBlake3 key (self.authenticatedBytes P)

/-- Whether a packet is acceptable at some time. -/
def verify (self : ShieldPacket) (key : Bytes32) (nowUnix maxAgeSecs : UInt64) : Bool :=
  if self.version ≠ shieldVersion ∨ self.ttl = 0 ∨ self.ttl > maxTtl ∨
      self.payload.length > maxPayload ∨
      self.issuedAtUnix.toNat > saturatingAdd u64Max nowUnix.toNat 30 ∨
      nowUnix.toNat - self.issuedAtUnix.toNat > maxAgeSecs.toNat ∨
      self.payloadHash ≠ P.blake3 self.payload then false
  else constantTimeEq self.tag.toList (self.computeTag P key).toList

/-- Count a hop, and tag the packet again. -/
def decrementTtl (self : ShieldPacket) (key : Bytes32) : Bool × ShieldPacket :=
  if self.ttl ≤ 1 then (false, self)
  else
    let self := { self with ttl := self.ttl - 1 }
    (true, { self with tag := self.computeTag P key })

end ShieldPacket

/-- Bytes are compared right. -/
theorem constantTimeEq_iff {a b : Bytes} : constantTimeEq a b = true ↔ a = b := by
  -- No difference is lost again once it has come up.
  have zero : ∀ (pairs : List (UInt8 × UInt8)) (v : UInt8),
      pairs.foldl (fun v pair => v ||| (pair.1 ^^^ pair.2)) v = 0 ↔
        v = 0 ∧ ∀ pair ∈ pairs, pair.1 = pair.2 := by
    intro pairs
    -- The bits found so far are kept by the rest, and the next pair adds its own.
    induction pairs with
    | nil => simp
    | cons pair rest ih =>
      intro v
      rw [List.foldl_cons, ih, List.forall_mem_cons, UInt8.or_eq_zero_iff, UInt8.xor_eq_zero_iff,
        and_assoc]
  unfold constantTimeEq
  split
  · rename_i differs
    exact iff_of_false Bool.false_ne_true fun same => differs (congrArg List.length same)
  · rename_i length
    rw [decide_eq_true_iff, zero, and_iff_right rfl]
    constructor
    · intro alike
      -- Bytes of the same length are equal if they are at every position.
      refine List.ext_getElem (not_not.mp length) fun position left right => ?_
      have member : (a[position], b[position]) ∈ a.zip b := by
        rw [List.mem_iff_getElem]
        exact ⟨position, by simp [left, right], by simp⟩
      exact alike _ member
    · rintro rfl pair member
      obtain ⟨position, inside, rfl⟩ := List.mem_iff_getElem.mp member
      simp

namespace ShieldPacket

variable {P : ShieldPrimitives} {packet : ShieldPacket} {key : Bytes32} {now maxAge : UInt64}

/-- What counting a hop does not change: all that is checked but the hops and the tag. -/
structure Sound (P : ShieldPrimitives) (packet : ShieldPacket) (now maxAge : UInt64) : Prop where
  version : packet.version = shieldVersion
  payload : packet.payload.length ≤ maxPayload
  issued : packet.issuedAtUnix.toNat ≤ saturatingAdd u64Max now.toNat 30
  young : now.toNat - packet.issuedAtUnix.toNat ≤ maxAge.toNat
  hashed : packet.payloadHash = P.blake3 packet.payload

/-- A packet is acceptable exactly if it is sound, has hops left but not too many, and its own tag. -/
theorem verify_iff : packet.verify P key now maxAge = true ↔
    packet.Sound P now maxAge ∧ packet.ttl ≠ 0 ∧ packet.ttl ≤ maxTtl ∧
      packet.tag = packet.computeTag P key := by
  unfold verify
  split
  · rename_i refused
    refine iff_of_false Bool.false_ne_true ?_
    rintro ⟨⟨version, payload, issued, young, hashed⟩, hops, few, _⟩
    -- Each of the seven reasons to refuse the packet is excluded.
    rcases refused with other | none | many | long | early | old | foreign
    · exact other version
    · exact hops none
    · exact absurd few (UInt8.not_le.mpr many)
    · exact absurd payload (Nat.not_le.mpr long)
    · exact absurd issued (Nat.not_le.mpr early)
    · exact absurd young (Nat.not_le.mpr old)
    · exact foreign hashed
  · rename_i passed
    simp only [not_or, not_not, Nat.not_lt, UInt8.not_lt] at passed
    obtain ⟨version, hops, few, payload, issued, young, hashed⟩ := passed
    rw [constantTimeEq_iff, Vector.toList_inj]
    exact ⟨fun same => ⟨⟨version, payload, issued, young, hashed⟩, hops, few, same⟩,
      fun both => both.2.2.2⟩

/-- A packet with its own tag in place of the one it has. -/
def retag (P : ShieldPrimitives) (packet : ShieldPacket) (key : Bytes32) : ShieldPacket :=
  { packet with tag := packet.computeTag P key }

/-- Its tag is right, as the tag itself is not tagged. -/
theorem tag_retag : (packet.retag P key).tag = (packet.retag P key).computeTag P key := rfl

/-- It has the same hops left. -/
@[simp] theorem ttl_retag : (packet.retag P key).ttl = packet.ttl := rfl

/-- A hop is counted where two are left, and the packet is tagged again. -/
theorem decrementTtl_of_left (left : ¬ packet.ttl ≤ 1) : packet.decrementTtl P key =
    (true, ({ packet with ttl := packet.ttl - 1 } : ShieldPacket).retag P key) := by
  rw [decrementTtl, if_neg left]
  rfl

/-- With two hops left, one fewer is not none, and not too many up to one above the most. -/
theorem hops_sub_one {ttl : UInt8} (left : ¬ ttl ≤ 1) :
    ttl - 1 ≠ 0 ∧ (ttl - 1 ≤ maxTtl ↔ ttl ≤ 33) := by
  -- A hop is taken from two or more, so nothing wraps around.
  have least : 1 < ttl.toNat := UInt8.lt_iff_toNat_lt.mp (UInt8.not_le.mp left)
  have fewer : (ttl - 1).toNat = ttl.toNat - 1 :=
    UInt8.toNat_sub_of_le _ _ (UInt8.le_iff_toNat_le.mpr (Nat.le_of_lt least))
  constructor
  · intro none
    have counted : (ttl - 1).toNat = 0 := congrArg UInt8.toNat none
    omega
  · have most : maxTtl.toNat = 32 := rfl
    have above : (33 : UInt8).toNat = 33 := rfl
    rw [UInt8.le_iff_toNat_le, UInt8.le_iff_toNat_le]
    omega

/-- After a hop was counted the tag is right, whatever it was before. -/
theorem verify_decrementTtl_iff (left : ¬ packet.ttl ≤ 1) :
    (packet.decrementTtl P key).2.verify P key now maxAge = true ↔
      packet.Sound P now maxAge ∧ packet.ttl ≤ 33 := by
  obtain ⟨remaining, few⟩ := hops_sub_one left
  rw [decrementTtl_of_left left, verify_iff, ← few]
  constructor
  · -- The hops and the tag are not among what makes a packet sound.
    rintro ⟨⟨version, payload, issued, young, hashed⟩, _, few, _⟩
    exact ⟨⟨version, payload, issued, young, hashed⟩, few⟩
  · rintro ⟨⟨version, payload, issued, young, hashed⟩, few⟩
    exact ⟨⟨version, payload, issued, young, hashed⟩, remaining, few, tag_retag⟩

/--
Counting a hop keeps the verdict on a packet exactly if it does not make up for what is wrong with it.

It does where everything else about the packet is right: there the tag has to be right as well, and
there may be no more hops than a packet can have.
-/
theorem hop_keeps_verdict_iff (P : ShieldPrimitives) (packet : ShieldPacket) (key : Bytes32)
    (now maxAge : UInt64) (counted : (packet.decrementTtl P key).1 = true) :
    ((packet.decrementTtl P key).2.verify P key now maxAge = true ↔
        packet.verify P key now maxAge = true) ↔
      (packet.Sound P now maxAge → packet.ttl ≤ 33 →
        packet.ttl ≤ maxTtl ∧ packet.tag = packet.computeTag P key) := by
  -- Where a hop was counted, two or more were left.
  have left : ¬ packet.ttl ≤ 1 := by
    intro last
    rw [decrementTtl, if_pos last] at counted
    cases counted
  have hops : packet.ttl ≠ 0 := fun none => left (none ▸ by decide)
  have below (few : packet.ttl ≤ maxTtl) : packet.ttl ≤ 33 := UInt8.le_trans few (by decide)
  rw [verify_decrementTtl_iff left, verify_iff]
  constructor
  · -- A packet that is sound is accepted afterwards, so it has to be before.
    intro same sound few
    exact (same.mp ⟨sound, few⟩).2.2
  · intro right
    exact ⟨fun both => ⟨both.1, hops, right both.1 both.2⟩, fun both => ⟨both.1, below both.2.2.1⟩⟩

end ShieldPacket

namespace Reference

/-- Primitives for packets that can be evaluated. -/
def shield : ShieldPrimitives where
  toPrimitives := primitives
  keyedBlake3 key message := checksum (key.toList ++ message)

/-- A packet with hops to spare, under a tag that is given. -/
def packet (tag : Bytes32) : ShieldPacket where
  version := 1
  packetClass := .shard
  sessionId := Vector.replicate 16 1
  requestId := Vector.replicate 16 2
  sequence := 9
  issuedAtUnix := 1000
  ttl := 8
  payloadHash := checksum [1, 2, 3]
  payload := [1, 2, 3]
  tag

end Reference

namespace ShieldPacket

/-- A packet with its own tag is acceptable after a hop, as it was before. -/
theorem tagged_packet_keeps_verdict :
    let packet := (Reference.packet (Reference.key 0)).retag Reference.shield (Reference.key 7)
    (packet.decrementTtl Reference.shield (Reference.key 7)).2.verify Reference.shield
        (Reference.key 7) 1010 60 = true ↔
      packet.verify Reference.shield (Reference.key 7) 1010 60 = true := by
  have left : ¬ ((Reference.packet (Reference.key 0)).retag Reference.shield
      (Reference.key 7)).ttl ≤ 1 := by
    rw [ttl_retag]
    decide
  refine (hop_keeps_verdict_iff Reference.shield _ (Reference.key 7) 1010 60 ?_).mpr
    fun _ _ => ⟨?_, tag_retag⟩
  · rw [decrementTtl_of_left left]
  · rw [ttl_retag]
    decide

/-- A forged packet is not acceptable, until a relay counts a hop. -/
theorem relay_launders_packet :
    ∃ packet : ShieldPacket, packet = Reference.packet (Reference.key 0) ∧
      (packet.decrementTtl Reference.shield (Reference.key 7)).1 = true ∧
      packet.verify Reference.shield (Reference.key 7) 1010 60 = false ∧
      (packet.decrementTtl Reference.shield (Reference.key 7)).2.verify Reference.shield
        (Reference.key 7) 1010 60 = true := by
  refine ⟨_, rfl, ?_⟩
  decide +kernel

end ShieldPacket

end Awe
