import Awe.Rust.Panic
import Awe.Transport.Onion
import Awe.Transport.SessionLaws

/-! Which requests an onion packet can take, and which data a message. -/

namespace Awe

open Rust Rust.Json

section Layers

variable {P : TransportPrimitives} {draw : LayerDraw} {payload layer : Bytes} {recipientPk : Bytes32}

/-- A layer is refused for its size exactly if what it would seal is too long. -/
theorem encryptLayer_frameTooLarge_iff (aead : P.LawfulAead) :
    encryptLayer P draw payload recipientPk = .error .frameTooLarge ↔
      maxOnionPayload < payload.length := by
  by_cases long : payload.length > maxOnionPayload
  · rw [encryptLayer, if_pos long]
    exact iff_of_true rfl long
  · rw [encryptLayer, if_neg long]
    refine iff_of_false ?_ long
    dsimp only
    split
    · exact fun refused => (by cases refused)
    · rename_i ciphertext made
      -- The key, the nonce and the tag are few bytes, so the layer fits as well.
      have size := (aead _ _ _ _ _ made).2
      have limits : maxOnionPayload + 60 ≤ maxOnionLayer ∧ maxOnionLayer ≤ u64Max := by decide
      rw [if_neg (by omega)]
      exact fun refused => (by cases refused)

/-- A layer has sixty bytes more than what it seals: the key, the nonce and the tag. -/
theorem length_encryptLayer (aead : P.LawfulAead)
    (made : encryptLayer P draw payload recipientPk = .ok layer) :
    layer.length = payload.length + 60 := by
  rw [encryptLayer] at made
  split at made
  · cases made
  · dsimp only at made
    split at made
    · cases made
    · rename_i ciphertext encrypted
      split at made
      · cases made
      · -- The ephemeral key has 32 bytes, the nonce has 12, and the tag of the cipher has 16.
        cases made
        have size := (aead _ _ _ _ _ encrypted).2
        simp only [List.length_append, Vector.length_toList, size]
        omega

/-- The numbers of a layer that was sealed take four characters each at most. -/
theorem numerals_encryptLayer_lt (aead : P.LawfulAead)
    (made : encryptLayer P draw payload recipientPk = .ok layer) :
    numerals layer < 4 * (payload.length + 60) := by
  have size := length_encryptLayer aead made
  have occupied : layer ≠ [] := List.length_pos_iff.mp (by omega)
  have commas := numerals_lt occupied
  omega

end Layers

section Texts

variable {P : TransportPrimitives}

/-- How many bytes the text of an egress layer has. -/
def egressSize (requestPayload : Bytes) (serviceY : String) : Nat :=
  35 + byteCount (renderText serviceY) + numerals requestPayload

/-- How many bytes the text of a relay layer has. -/
def relaySize (nodeCPk : Bytes32) (layer3Ct : Bytes) (delayMs : UInt64) : Nat :=
  52 + numerals nodeCPk.toList + numerals layer3Ct + digits delayMs.toNat

/-- How many bytes the text of an ingress layer has. -/
def ingressSize (nodeBPk : Bytes32) (layer2Ct : Bytes) : Nat :=
  32 + numerals nodeBPk.toList + numerals layer2Ct

/-- The text of an egress layer has that size. -/
theorem length_toVec_egress (compact : P.CompactJson) (self : EgressUnwrapped) :
    (P.toVec self.toJson).length = egressSize self.requestPayload self.serviceY := by
  obtain ⟨digital, comma, marks⟩ := utf8Size_marks
  have names : tally Char.utf8Size (renderText "service_y") = 11 ∧
      tally Char.utf8Size (renderText "request_payload") = 17 := by decide
  -- The name of the service is quoted and escaped, which the count leaves as it is.
  have text : tally Char.utf8Size (render .compact 1 (.str self.serviceY)) =
      byteCount (renderText self.serviceY) := rfl
  rw [compact, length_toBytes, byteCount_eq_tally, egressSize]
  simp only [EgressUnwrapped.toJson, tally_obj, tally_renderFields_cons, tally_renderFields_nil,
    tally_ofBytes digital comma, marks, names, comma, text]
  omega

/-- The text of a relay layer has that size. -/
theorem length_toVec_relay (compact : P.CompactJson) (self : RelayUnwrapped) :
    (P.toVec self.toJson).length = relaySize self.nextHop self.egressLayer self.mixnetDelayMs := by
  obtain ⟨digital, comma, marks⟩ := utf8Size_marks
  have names : tally Char.utf8Size (renderText "next_hop") = 10 ∧
      tally Char.utf8Size (renderText "egress_layer") = 14 ∧
      tally Char.utf8Size (renderText "mixnet_delay_ms") = 17 := by decide
  rw [compact, length_toBytes, byteCount_eq_tally, relaySize]
  simp only [RelayUnwrapped.toJson, tally_obj, tally_renderFields_cons, tally_renderFields_nil,
    tally_num digital, tally_ofBytes digital comma, marks, names, comma]
  omega

/-- The text of an ingress layer has that size. -/
theorem length_toVec_ingress (compact : P.CompactJson) (self : IngressUnwrapped) :
    (P.toVec self.toJson).length = ingressSize self.nextHop self.relayLayer := by
  obtain ⟨digital, comma, marks⟩ := utf8Size_marks
  have names : tally Char.utf8Size (renderText "next_hop") = 10 ∧
      tally Char.utf8Size (renderText "relay_layer") = 13 := by decide
  rw [compact, length_toBytes, byteCount_eq_tally, ingressSize]
  simp only [IngressUnwrapped.toJson, tally_obj, tally_renderFields_cons, tally_renderFields_nil,
    tally_ofBytes digital comma, marks, names, comma]
  omega

end Texts

namespace TripleBlindOnionPacket

section Sizes

variable (P : TransportPrimitives) (draws : OnionDraws) (requestPayload : Bytes) (serviceY : String)
  (nodeAPk nodeBPk nodeCPk : Bytes32)

/-- What a packet seals for the egress node. -/
def layer3 : Except NetworkError Bytes :=
  encryptLayer P draws.egress (P.toVec (EgressUnwrapped.mk serviceY requestPayload).toJson) nodeCPk

/-- What a packet seals for the relay node. -/
def layer2 (layer3Ct : Bytes) : Except NetworkError Bytes :=
  encryptLayer P draws.relay (P.toVec (RelayUnwrapped.mk nodeCPk layer3Ct draws.delayMs).toJson)
    nodeBPk

/-- What a packet seals for the ingress node. -/
def layer1 (layer2Ct : Bytes) : Except NetworkError Bytes :=
  encryptLayer P draws.ingress (P.toVec (IngressUnwrapped.mk nodeBPk layer2Ct).toJson) nodeAPk

/-- The texts that are sealed in a packet are none of them too long. -/
structure LayersFit : Prop where
  egress : egressSize requestPayload serviceY ≤ maxOnionPayload
  relay : ∀ layer3Ct, layer3 P draws requestPayload serviceY nodeCPk = .ok layer3Ct →
    relaySize nodeCPk layer3Ct draws.delayMs ≤ maxOnionPayload
  ingress : ∀ layer3Ct layer2Ct, layer3 P draws requestPayload serviceY nodeCPk = .ok layer3Ct →
    layer2 P draws nodeBPk nodeCPk layer3Ct = .ok layer2Ct →
      ingressSize nodeBPk layer2Ct ≤ maxOnionPayload

/-- How many bytes the longest text of a packet has at most, whatever is drawn for it. -/
def worstSize : Nat :=
  2003 + numerals nodeBPk.toList + 4 * numerals nodeCPk.toList +
    16 * (byteCount (renderText serviceY) + numerals requestPayload)

end Sizes

variable {P : TransportPrimitives} {draws : OnionDraws} {requestPayload : Bytes} {serviceY : String}
  {nodeAPk nodeBPk nodeCPk : Bytes32}

/-- The innermost layer is not refused for its size exactly if its text fits. -/
theorem layer3_fits_iff (aead : P.LawfulAead) (compact : P.CompactJson) :
    layer3 P draws requestPayload serviceY nodeCPk ≠ .error .frameTooLarge ↔
      egressSize requestPayload serviceY ≤ maxOnionPayload := by
  rw [layer3, Ne, encryptLayer_frameTooLarge_iff aead, length_toVec_egress compact, Nat.not_lt]

/-- The middle layer is not refused for its size exactly if its text fits. -/
theorem layer2_fits_iff (aead : P.LawfulAead) (compact : P.CompactJson) (layer3Ct : Bytes) :
    layer2 P draws nodeBPk nodeCPk layer3Ct ≠ .error .frameTooLarge ↔
      relaySize nodeCPk layer3Ct draws.delayMs ≤ maxOnionPayload := by
  rw [layer2, Ne, encryptLayer_frameTooLarge_iff aead, length_toVec_relay compact, Nat.not_lt]

/-- The outermost layer is not refused for its size exactly if its text fits. -/
theorem layer1_fits_iff (aead : P.LawfulAead) (compact : P.CompactJson) (layer2Ct : Bytes) :
    layer1 P draws nodeAPk nodeBPk layer2Ct ≠ .error .frameTooLarge ↔
      ingressSize nodeBPk layer2Ct ≤ maxOnionPayload := by
  rw [layer1, Ne, encryptLayer_frameTooLarge_iff aead, length_toVec_ingress compact, Nat.not_lt]

/-- Within the declared limits, a packet is refused for its size unless its texts fit. -/
theorem build_frameTooLarge_iff (aead : P.LawfulAead) (compact : P.CompactJson)
    (payloadWithin : requestPayload.length ≤ maxOnionPayload)
    (serviceWithin : serviceY.utf8ByteSize ≤ maxOnionServiceName) :
    build P draws requestPayload serviceY nodeAPk nodeBPk nodeCPk ≠ .error .frameTooLarge ↔
      LayersFit P draws requestPayload serviceY nodeBPk nodeCPk := by
  have within : ¬ (requestPayload.length > maxOnionPayload ∨
      serviceY.utf8ByteSize > maxOnionServiceName) :=
    not_or.mpr ⟨Nat.not_lt.mpr payloadWithin, Nat.not_lt.mpr serviceWithin⟩
  rw [build, if_neg within]
  change (layer3 P draws requestPayload serviceY nodeCPk >>= fun layer3Ct =>
    layer2 P draws nodeBPk nodeCPk layer3Ct >>= fun layer2Ct =>
      layer1 P draws nodeAPk nodeBPk layer2Ct >>= fun layer1Ct =>
        pure (TripleBlindOnionPacket.mk layer1Ct)) ≠ .error .frameTooLarge ↔ _
  -- One layer after the other is refused exactly if its text is too long.
  simp only [bind_ne_error_iff, layer3_fits_iff aead compact, layer2_fits_iff aead compact,
    layer1_fits_iff aead compact]
  constructor
  · rintro ⟨egress, inner⟩
    exact ⟨egress, fun layer3Ct third => (inner layer3Ct third).1,
      fun layer3Ct layer2Ct third second => ((inner layer3Ct third).2 layer2Ct second).1⟩
  · rintro ⟨egress, relay, ingress⟩
    exact ⟨egress, fun layer3Ct third => ⟨relay layer3Ct third, fun layer2Ct second =>
      ⟨ingress layer3Ct layer2Ct third second, fun _ _ refused => (by cases refused)⟩⟩⟩

/-- Whatever is drawn, the texts fit if the longest that are possible do. -/
theorem layersFit_of_worstSize (aead : P.LawfulAead) (compact : P.CompactJson) (draws : OnionDraws)
    (small : worstSize requestPayload serviceY nodeBPk nodeCPk ≤ maxOnionPayload) :
    LayersFit P draws requestPayload serviceY nodeBPk nodeCPk := by
  have delay : digits draws.delayMs.toNat ≤ 2 := by
    refine (Nat.length_toDigits_le_iff (by decide) (by decide)).mpr ?_
    exact Nat.lt_trans draws.delayMs_lt (by decide)
  -- The sealed egress layer takes four characters a byte at most, and the delay two digits.
  have relay {layer3Ct : Bytes} (third : layer3 P draws requestPayload serviceY nodeCPk = .ok layer3Ct) :
      relaySize nodeCPk layer3Ct draws.delayMs ≤
        53 + numerals nodeCPk.toList + 4 * (egressSize requestPayload serviceY + 60) := by
    have numbers := numerals_encryptLayer_lt aead third
    rw [length_toVec_egress compact] at numbers
    dsimp only at numbers
    rw [relaySize]
    omega
  refine ⟨?_, fun layer3Ct third => ?_, fun layer3Ct layer2Ct third second => ?_⟩
  · rw [egressSize]
    rw [worstSize] at small
    omega
  · have most := relay third
    rw [egressSize] at most
    rw [worstSize] at small
    omega
  · have most := relay third
    have numbers := numerals_encryptLayer_lt aead second
    rw [length_toVec_relay compact] at numbers
    dsimp only at numbers
    rw [egressSize] at most
    rw [ingressSize]
    rw [worstSize] at small
    omega

end TripleBlindOnionPacket

namespace Reference

/-- Exchange a message with the one of its length whose bytes are all 200. -/
def exchange (special message : Bytes) : Bytes :=
  Equiv.swap special (List.replicate special.length 200) message

/-- Exchanging twice gives a message back. -/
theorem exchange_exchange (special message : Bytes) :
    exchange special (exchange special message) = message := Equiv.swap_apply_self _ _ message

/-- The special message becomes the one whose bytes are all 200. -/
theorem exchange_self (special : Bytes) :
    exchange special special = List.replicate special.length 200 := Equiv.swap_apply_left _ _

/-- A message of another length is not exchanged. -/
theorem exchange_of_length_ne {special message : Bytes} (other : message.length ≠ special.length) :
    exchange special message = message := by
  refine Equiv.swap_apply_of_ne_of_ne (fun same => other (congrArg List.length same)) fun same => ?_
  exact other (by rw [same, List.length_replicate])

/-- An exchanged message keeps its length. -/
theorem length_exchange (special message : Bytes) :
    (exchange special message).length = message.length := by
  rw [exchange, Equiv.swap_apply_def]
  split_ifs with first second
  · rw [first, List.length_replicate]
  · rw [second, List.length_replicate]
  · rfl

/-- Primitives whose ciphertexts of two given messages are spelled by three digits a byte. -/
def spelledOut (first second : Bytes) : TransportPrimitives :=
  { transport with
    encrypt := fun _ _ _ message =>
      some (exchange second (exchange first message) ++ List.replicate 16 200)
    decrypt := fun _ _ _ ciphertext =>
      some (exchange first (exchange second (ciphertext.take (ciphertext.length - 16)))) }

/-- They decrypt what they encrypted. -/
theorem lawfulAead_spelledOut (first second : Bytes) : (spelledOut first second).LawfulAead := by
  intro key nonce aad message ciphertext made
  obtain rfl := Option.some.inj made
  have size : (exchange second (exchange first message) ++ List.replicate 16 200 : Bytes).length =
      message.length + 16 := by
    rw [List.length_append, length_exchange, length_exchange, List.length_replicate]
  refine ⟨congrArg some ?_, size⟩
  rw [size, Nat.add_sub_cancel, List.take_append_of_le_length (by
    rw [length_exchange, length_exchange]), List.take_of_length_le (by
    rw [length_exchange, length_exchange]), exchange_exchange, exchange_exchange]

/-- Draws of which every byte is spelled by three digits. -/
def wideDraw : LayerDraw := ⟨key 200, Vector.replicate 12 200⟩

/-- Such draws for all layers, and a delay of ten milliseconds. -/
def wideDraws : OnionDraws := ⟨wideDraw, 5, wideDraw, wideDraw⟩

/-- A layer whose message is exchanged has only bytes that are spelled by three digits. -/
theorem encryptLayer_spelledOut {first second message : Bytes} {recipientPk : Bytes32}
    (short : message.length ≤ maxOnionPayload)
    (exchanged : exchange second (exchange first message) = List.replicate message.length 200) :
    encryptLayer (spelledOut first second) wideDraw message recipientPk =
      .ok (List.replicate (message.length + 60) 200) := by
  have limits : maxOnionPayload + 60 ≤ maxOnionLayer ∧ maxOnionLayer ≤ u64Max := by decide
  have size : ((List.replicate message.length 200 : Bytes) ++ List.replicate 16 200).length =
      message.length + 16 := by
    rw [List.length_append, List.length_replicate, List.length_replicate]
  rw [encryptLayer, if_neg (Nat.not_lt.mpr short)]
  dsimp only [spelledOut]
  rw [exchanged, if_neg (by omega)]
  -- With the key, the nonce and the tag, every byte of the layer is 200.
  have secret : (transport.xPublic wideDraw.secret).toList = List.replicate 32 200 :=
    Vector.toList_replicate
  have nonce : wideDraw.nonce.toList = List.replicate 12 200 := Vector.toList_replicate
  rw [secret, nonce, List.replicate_append_replicate, List.replicate_append_replicate,
    List.replicate_append_replicate]
  congr 2
  omega

end Reference

namespace TripleBlindOnionPacket

variable {requestPayload : Bytes} {serviceY : String} {nodeAPk nodeBPk nodeCPk : Bytes32}

/-- If no cipher and no draws make a packet too large, its longest possible text is not too long. -/
theorem worstSize_le_of_never (payloadWithin : requestPayload.length ≤ maxOnionPayload)
    (serviceWithin : serviceY.utf8ByteSize ≤ maxOnionServiceName)
    (never : ∀ P : TransportPrimitives, P.LawfulAead → P.CompactJson → ∀ draws,
      build P draws requestPayload serviceY nodeAPk nodeBPk nodeCPk ≠ .error .frameTooLarge) :
    worstSize requestPayload serviceY nodeBPk nodeCPk ≤ maxOnionPayload := by
  have wide : digits (200 : UInt8).toNat = 3 := by decide
  -- Both inner texts are taken to be encrypted into bytes of three digits each.
  generalize inner : Reference.transport.toVec (EgressUnwrapped.mk serviceY requestPayload).toJson =
    first
  have innerSize : first.length = egressSize requestPayload serviceY := by
    rw [← inner]
    exact length_toVec_egress Reference.compactJson _
  generalize middle : Reference.transport.toVec (RelayUnwrapped.mk nodeCPk
    (List.replicate (first.length + 60) 200) Reference.wideDraws.delayMs).toJson = second
  have middleSize : second.length =
      relaySize nodeCPk (List.replicate (first.length + 60) 200) Reference.wideDraws.delayMs := by
    rw [← middle]
    exact length_toVec_relay Reference.compactJson _
  have middleCount : second.length =
      52 + numerals nodeCPk.toList + (4 * (first.length + 60) - 1) + 2 := by
    have delay : digits Reference.wideDraws.delayMs.toNat = 2 := by decide
    rw [middleSize, relaySize, numerals_replicate wide, delay]
  have apart : first.length ≠ second.length := by omega
  have fits := (build_frameTooLarge_iff (Reference.lawfulAead_spelledOut first second)
    Reference.compactJson payloadWithin serviceWithin).mp
    (never _ (Reference.lawfulAead_spelledOut first second) Reference.compactJson
      Reference.wideDraws)
  have third : layer3 (Reference.spelledOut first second) Reference.wideDraws requestPayload serviceY
      nodeCPk = .ok (List.replicate (first.length + 60) 200) := by
    have short : first.length ≤ maxOnionPayload := by
      rw [innerSize]
      exact fits.egress
    change encryptLayer (Reference.spelledOut first second) Reference.wideDraw
      (Reference.transport.toVec _) nodeCPk = _
    rw [inner]
    refine Reference.encryptLayer_spelledOut short ?_
    rw [Reference.exchange_self, Reference.exchange_of_length_ne (by rwa [List.length_replicate])]
  have relayFits := fits.relay _ third
  have nextLayer : layer2 (Reference.spelledOut first second) Reference.wideDraws nodeBPk nodeCPk
      (List.replicate (first.length + 60) 200) = .ok (List.replicate (second.length + 60) 200) := by
    have short : second.length ≤ maxOnionPayload := by
      rw [middleSize]
      exact relayFits
    change encryptLayer (Reference.spelledOut first second) Reference.wideDraw
      (Reference.transport.toVec _) nodeBPk = _
    rw [middle]
    refine Reference.encryptLayer_spelledOut short ?_
    rw [Reference.exchange_of_length_ne apart.symm, Reference.exchange_self]
  have ingressFits := fits.ingress _ _ third nextLayer
  rw [ingressSize, numerals_replicate wide] at ingressFits
  rw [egressSize] at innerSize
  rw [worstSize]
  omega

end TripleBlindOnionPacket

open TripleBlindOnionPacket SecureConnection

/-- Data and requests within the declared limits are refused for their size exactly if the decimal
numbers they are written with take too many characters. -/
theorem declared_limits_attained_iff (P : TransportPrimitives) (aead : P.LawfulAead)
    (compact : P.CompactJson) (connection : SecureConnection)
    (sized : connection.stream.refusal ≠ some .frameTooLarge) (stream : UInt32) (data : Bytes)
    (draws : OnionDraws) (requestPayload : Bytes) (serviceY : String)
    (nodeAPk nodeBPk nodeCPk : Bytes32) (payloadWithin : requestPayload.length ≤ maxOnionPayload)
    (serviceWithin : serviceY.utf8ByteSize ≤ maxOnionServiceName) :
    (((sendData P stream data).run connection).1 ≠ .error .frameTooLarge ↔
      33 + digits stream.toNat + numerals data ≤ maxMessage) ∧
    (build P draws requestPayload serviceY nodeAPk nodeBPk nodeCPk ≠ .error .frameTooLarge ↔
      LayersFit P draws requestPayload serviceY nodeBPk nodeCPk) ∧
    ((∀ P : TransportPrimitives, P.LawfulAead → P.CompactJson → ∀ draws,
        build P draws requestPayload serviceY nodeAPk nodeBPk nodeCPk ≠ .error .frameTooLarge) ↔
      worstSize requestPayload serviceY nodeBPk nodeCPk ≤ maxOnionPayload) := by
  -- Data messages, one onion, and every onion of lawful primitives.
  refine ⟨?_, build_frameTooLarge_iff aead compact payloadWithin serviceWithin,
    worstSize_le_of_never payloadWithin serviceWithin, fun small P aead compact draws => ?_⟩
  · rw [Ne, sendData_frameTooLarge_iff aead compact connection sized, Nat.not_lt]
  · exact (build_frameTooLarge_iff aead compact payloadWithin serviceWithin).mpr
      (layersFit_of_worstSize aead compact draws small)

/-- Three bytes are sent, and a request of three bytes is packed. -/
theorem three_bytes_are_taken :
    ((sendData Reference.transport 1 [1, 2, 3]).run (Reference.session [] 0)).1 ≠
      .error .frameTooLarge ∧
    build Reference.transport Reference.wideDraws [1, 2, 3] "web" (Reference.key 1) (Reference.key 2)
      (Reference.key 3) ≠ .error .frameTooLarge := by
  have limits := declared_limits_attained_iff Reference.transport Reference.lawfulAead
    Reference.compactJson (Reference.session [] 0) (by decide) 1 [1, 2, 3] Reference.wideDraws
    [1, 2, 3] "web" (Reference.key 1) (Reference.key 2) (Reference.key 3) (by decide) (by decide)
  exact ⟨limits.1.mpr (by decide), limits.2.2.mpr (by decide) Reference.transport
    Reference.lawfulAead Reference.compactJson Reference.wideDraws⟩

/-- Eight megabytes of ones are within the limits, and neither sent nor packed. -/
theorem limits_are_out_of_reach :
    (¬ ∀ data : Bytes, data.length ≤ maxFrame / 2 →
      ((sendData Reference.transport 1 data).run (Reference.session [] 0)).1 ≠
        .error .frameTooLarge) ∧
    ¬ ∀ (requestPayload : Bytes) (serviceY : String), requestPayload.length ≤ maxOnionPayload →
      serviceY.utf8ByteSize ≤ maxOnionServiceName → ∀ draws,
        build Reference.transport draws requestPayload serviceY (Reference.key 1) (Reference.key 2)
          (Reference.key 3) ≠ .error .frameTooLarge := by
  have many := numerals_replicate (by decide : digits (255 : UInt8).toNat = 3) maxOnionPayload
  have length : (List.replicate maxOnionPayload (255 : UInt8)).length = maxOnionPayload :=
    List.length_replicate
  -- The data is kept closed: only its length and its numbers matter.
  generalize List.replicate maxOnionPayload (255 : UInt8) = data at many length
  have limits : maxOnionPayload = 8388608 ∧ maxMessage = 8388604 ∧ maxFrame / 2 = 8388608 := by
    decide
  constructor
  · intro claimed
    refine claimed data (by omega) ((sendData_frameTooLarge_iff Reference.lawfulAead
      Reference.compactJson _ (by decide) 1 data).mpr ?_)
    omega
  · intro claimed
    -- The innermost text alone is too long.
    have fits := ((build_frameTooLarge_iff Reference.lawfulAead Reference.compactJson (by omega)
      (by decide)).mp (claimed data "" (by omega) (by decide) Reference.wideDraws)).egress
    rw [egressSize] at fits
    omega

end Awe
