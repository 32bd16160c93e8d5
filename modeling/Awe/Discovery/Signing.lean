import Awe.Discovery.Announcement
import Awe.Reference
import Awe.Rust.PrefixCode
import Awe.Rust.Utf8

/-! What the bytes that a node signs tell of its announcement. -/

namespace Awe

open Rust

namespace PeerAnnouncement

/-- A text up to the zero byte that ends it. -/
def zeroEnded (text : String) : Bytes := utf8 text ++ [0]

/-- The texts of an announcement, in the order in which they are signed. -/
def texts (self : PeerAnnouncement) : List String := self.nodeId :: self.addresses

/-- What a node signs besides the signature. -/
structure SameContent (one two : PeerAnnouncement) : Prop where
  nodeId : one.nodeId = two.nodeId
  addresses : one.addresses = two.addresses
  publicKey : one.publicKey = two.publicKey
  expiresAtUnix : one.expiresAtUnix = two.expiresAtUnix
  sequence : one.sequence = two.sequence

variable {P : Primitives} {one two : PeerAnnouncement}

/-- Between the tag and 48 bytes of fixed width, the texts are signed with a zero byte each. -/
theorem signingBytes_eq (self : PeerAnnouncement) : self.signingBytes =
    utf8 "AWE/DISCOVERY/v1" ++ self.texts.flatMap zeroEnded ++
      (self.publicKey.toList ++ (beBytes 8 self.expiresAtUnix.toNat ++
        beBytes 8 self.sequence.toNat)) := by
  rw [signingBytes, texts, List.flatMap_cons]
  simp only [zeroEnded, List.append_assoc]
  rfl

/-- Equal bytes are signed only with equal keys, times and sequences, and for texts that together
are the same bytes. -/
theorem parts_of_signingBytes (same : one.signingBytes = two.signingBytes) :
    one.texts.flatMap zeroEnded = two.texts.flatMap zeroEnded ∧ one.publicKey = two.publicKey ∧
      one.expiresAtUnix = two.expiresAtUnix ∧ one.sequence = two.sequence := by
  rw [signingBytes_eq, signingBytes_eq] at same
  -- The fixed widths are split off from the end.
  obtain ⟨texts, fixed⟩ := List.append_inj' same (by simp)
  obtain ⟨keys, times⟩ := List.append_inj fixed (by simp)
  obtain ⟨expiries, sequences⟩ := List.append_inj times (by simp)
  refine ⟨List.append_cancel_left texts, Vector.toList_inj.mp keys, ?_, ?_⟩
  · exact UInt64.toNat_inj.mp
      (beBytes_injective one.expiresAtUnix.toNat_lt two.expiresAtUnix.toNat_lt expiries)
  · exact UInt64.toNat_inj.mp
      (beBytes_injective one.sequence.toNat_lt two.sequence.toNat_lt sequences)

/-- Announcements that are signed alike have the same content if their texts are the same. -/
theorem sameContent_of_texts (same : one.signingBytes = two.signingBytes)
    (texts : one.texts = two.texts) : SameContent one two := by
  obtain ⟨_, publicKey, expiresAtUnix, sequence⟩ := parts_of_signingBytes same
  obtain ⟨nodeId, addresses⟩ := List.cons.inj texts
  exact ⟨nodeId, addresses, publicKey, expiresAtUnix, sequence⟩

/-- Of announcements that are signed alike one signature is valid for both or for none. -/
theorem verifySignature_congr (same : one.signingBytes = two.signingBytes)
    (signature : one.signature = two.signature) :
    one.verifySignature P = two.verifySignature P := by
  obtain ⟨_, publicKey, _⟩ := parts_of_signingBytes same
  rw [verifySignature, verifySignature, same, signature, publicKey]

/-- Texts without zero bytes are told apart by the ones that end them. -/
theorem prefixFree_zeroEnded : PrefixFree zeroEnded (0 ∉ utf8 ·) :=
  (prefixFree_terminated 0).comp utf8_injective

/-- Announcements whose texts have no zero bytes are signed alike only with the same content. -/
theorem sameContent_of_noZero (oneClean : ∀ text ∈ one.texts, 0 ∉ utf8 text)
    (twoClean : ∀ text ∈ two.texts, 0 ∉ utf8 text)
    (same : one.signingBytes = two.signingBytes) : SameContent one two := by
  refine sameContent_of_texts same (prefixFree_zeroEnded.flatMap_injective
    (fun text _ => List.append_ne_nil_of_right_ne_nil _ (List.cons_ne_nil _ _)) oneClean twoClean
    (parts_of_signingBytes same).1)

end PeerAnnouncement

open PeerAnnouncement

/--
Two announcements that are signed alike have the same content exactly if their texts are equally
long one by one.

Without zero bytes in the texts they always are.
-/
theorem same_content_iff_aligned (one two : PeerAnnouncement)
    (same : one.signingBytes = two.signingBytes) :
    SameContent one two ↔ Aligned String.utf8ByteSize one.texts two.texts := by
  constructor
  · intro content
    have texts : one.texts = two.texts := by rw [texts, texts, content.nodeId, content.addresses]
    rw [texts]
    exact Aligned.refl _ _
  · intro aligned
    -- The texts that are equally long end at the same places.
    have ended : Aligned (fun text => (zeroEnded text).length) one.texts two.texts := by
      intro position first second found there
      have sizes := aligned position first second found there
      simp only [zeroEnded, List.length_append, length_utf8, sizes]
    have codes := map_eq_of_flatMap_eq (fun text =>
      List.append_ne_nil_of_right_ne_nil (utf8 text) (List.cons_ne_nil 0 [])) ended
      (parts_of_signingBytes same).1
    refine sameContent_of_texts same (List.map_injective_iff.mpr ?_ codes)
    exact fun left right equal => utf8_injective (List.append_cancel_right equal)

namespace Reference

/-- An announcement of a node whose name has a zero byte in it. -/
def announced : PeerAnnouncement := issue primitives (identity 1) "a\x00b" 20 1

/-- The same with that name split into a name and an address. -/
def reannounced : PeerAnnouncement := { announced with nodeId := "a", addresses := ["b"] }

/-- Both are signed alike: the zero byte is taken for the end of the name. -/
theorem reannounced_signingBytes : announced.signingBytes = reannounced.signingBytes := by
  have names : utf8 announced.nodeId ++ [0] ++ announced.addresses.flatMap zeroEnded =
      utf8 reannounced.nodeId ++ [0] ++ reannounced.addresses.flatMap zeroEnded := by decide
  rw [signingBytes_eq, signingBytes_eq]
  simp only [texts, List.flatMap_cons, zeroEnded] at names ⊢
  rw [names]
  rfl

/-- The announcement is valid. -/
theorem announced_valid : announced.validate primitives 10 100 = .ok () :=
  validate_issue honestSignaturesVerify (identity 1) 1 (by decide) (by decide) (by decide)
    (by decide)

/-- The other one is valid with the same signature. -/
theorem reannounced_valid : reannounced.validate primitives 10 100 = .ok () := by
  have signed : reannounced.verifySignature primitives = true := by
    rw [← verifySignature_congr reannounced_signingBytes rfl]
    exact verifySignature_issue honestSignaturesVerify (identity 1) _ _ _
  have length : reannounced.signature.length = 64 := Vector.length_toList
  rw [validate, signed, if_neg (by decide), if_neg (not_not.mpr length)]
  decide

end Reference

/-- The texts of the two announcements are not equally long one by one. -/
theorem announced_texts_not_aligned :
    ¬ Aligned String.utf8ByteSize Reference.announced.texts Reference.reannounced.texts := by
  intro aligned
  have content := (same_content_iff_aligned Reference.announced Reference.reannounced
    Reference.reannounced_signingBytes).mpr aligned
  exact absurd content.nodeId (by decide)

/-- One signature is valid for two announcements, of different nodes and addresses. -/
theorem signature_validates_two :
    Reference.announced.signingBytes = Reference.reannounced.signingBytes ∧
      Reference.announced.signature = Reference.reannounced.signature ∧
      Reference.announced.validate Reference.primitives 10 100 = .ok () ∧
      Reference.reannounced.validate Reference.primitives 10 100 = .ok () ∧
      Reference.announced.nodeId ≠ Reference.reannounced.nodeId ∧
      Reference.announced.addresses ≠ Reference.reannounced.addresses :=
  ⟨Reference.reannounced_signingBytes, rfl, Reference.announced_valid, Reference.reannounced_valid,
    by decide, by decide⟩

end Awe
