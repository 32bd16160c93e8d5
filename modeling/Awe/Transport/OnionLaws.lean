import Awe.Rust.Slice
import Awe.Transport.KeyAgreement
import Awe.Transport.OnionSizes

/-! Taking the layers off an onion packet, and what a packet that was built then yields. -/

namespace Awe

open Rust Rust.Json

/-- What nodes further take from `serde_json`: its reports about bytes that are no such layer. -/
structure OnionPrimitives extends TransportPrimitives where
  ingressError : Bytes → String
  relayError : Bytes → String
  egressError : Bytes → String

/-- Open one onion layer with the secret of its recipient. -/
def decryptLayer (P : TransportPrimitives) (layerBytes : Bytes) (nodeSecret : Bytes32) :
    Except (Failure NetworkError) Bytes :=
  if layerBytes.length < 32 + 12 + 16 ∨ layerBytes.length > maxOnionLayer then
    .error (.error (.protocol "invalid onion layer size"))
  else do
    let ephemeralPk ← copyFromSlice 32 (← slice layerBytes 0 32)
    let nonce ← copyFromSlice 12 (← slice layerBytes 32 44)
    let shared := P.diffieHellman nodeSecret ephemeralPk
    -- Expanding has no error at this length.
    let key := P.hkdfKey (utf8 "AWE/A2P2/ONION-SALT/v1") shared.toList
      (utf8 "AWE/A2P2/ONION-KEY/v1")
    match P.decrypt key nonce [] (← slice layerBytes 44 layerBytes.length) with
    | some payload => .ok payload
    | none => .error (.error .authentication)

/-- Read an ingress layer. -/
def IngressUnwrapped.ofJson (document : Json) : Option IngressUnwrapped := do
  let fields ← asStruct ["next_hop", "relay_layer"] document
  let nextHop ← asBytes 32 (← required fields "next_hop")
  let relayLayer ← asByteList (← required fields "relay_layer")
  return { nextHop, relayLayer }

/-- Read a relay layer. -/
def RelayUnwrapped.ofJson (document : Json) : Option RelayUnwrapped := do
  let fields ← asStruct ["next_hop", "egress_layer", "mixnet_delay_ms"] document
  let nextHop ← asBytes 32 (← required fields "next_hop")
  let egressLayer ← asByteList (← required fields "egress_layer")
  let mixnetDelayMs ← asUnsigned u64Max (← required fields "mixnet_delay_ms")
  return { nextHop, egressLayer, mixnetDelayMs := .ofNat mixnetDelayMs }

/-- Read an egress layer. -/
def EgressUnwrapped.ofJson (document : Json) : Option EgressUnwrapped := do
  let fields ← asStruct ["service_y", "request_payload"] document
  let serviceY ← asString (← required fields "service_y")
  let requestPayload ← asByteList (← required fields "request_payload")
  return { serviceY, requestPayload }

/-- Open a layer and read what it holds. -/
def unwrapLayer {Layer : Type} (P : TransportPrimitives) (ofJson : Json → Option Layer)
    (report : Bytes → String) (layerBytes : Bytes) (nodeSecret : Bytes32) :
    Except (Failure NetworkError) Layer := do
  let pt ← decryptLayer P layerBytes nodeSecret
  match (P.fromSlice pt).bind ofJson with
  | some layer => .ok layer
  | none => .error (.error (.protocol (report pt)))

namespace TripleBlindOnionPacket

variable (P : OnionPrimitives)

/-- Take the first layer off. -/
def unwrapIngress (self : TripleBlindOnionPacket) (nodeASecret : Bytes32) :
    Except (Failure NetworkError) IngressUnwrapped :=
  unwrapLayer P.toTransportPrimitives IngressUnwrapped.ofJson P.ingressError self.ingressLayer
    nodeASecret

/-- Take the second layer off. -/
def unwrapRelay (relayLayer : Bytes) (nodeBSecret : Bytes32) :
    Except (Failure NetworkError) RelayUnwrapped :=
  unwrapLayer P.toTransportPrimitives RelayUnwrapped.ofJson P.relayError relayLayer nodeBSecret

/-- Take the third layer off. -/
def unwrapEgress (egressLayer : Bytes) (nodeCSecret : Bytes32) :
    Except (Failure NetworkError) EgressUnwrapped :=
  unwrapLayer P.toTransportPrimitives EgressUnwrapped.ofJson P.egressError egressLayer nodeCSecret

end TripleBlindOnionPacket

/-- An ingress layer reads back. -/
theorem IngressUnwrapped.ofJson_toJson (self : IngressUnwrapped) :
    ofJson self.toJson = some self := by
  simp [ofJson, toJson, asStruct, required]

/-- A relay layer reads back. -/
theorem RelayUnwrapped.ofJson_toJson (self : RelayUnwrapped) : ofJson self.toJson = some self := by
  simp [ofJson, toJson, asStruct, required]

/-- An egress layer reads back. -/
theorem EgressUnwrapped.ofJson_toJson (self : EgressUnwrapped) :
    ofJson self.toJson = some self := by
  simp [ofJson, toJson, asStruct, required, asString]

section Layers

variable {P : TransportPrimitives} {draw : LayerDraw} {payload layer : Bytes} {secret : Bytes32}

/-- A layer that is put together from a key, a nonce and a ciphertext is taken apart again. -/
theorem decryptLayer_append (ephemeralPk : Bytes32) (nonce : Vector UInt8 12) {ciphertext : Bytes}
    (least : 16 ≤ ciphertext.length) (most : 44 + ciphertext.length ≤ maxOnionLayer) :
    decryptLayer P (ephemeralPk.toList ++ nonce.toList ++ ciphertext) secret =
      match P.decrypt (P.hkdfKey (utf8 "AWE/A2P2/ONION-SALT/v1")
          (P.diffieHellman secret ephemeralPk).toList (utf8 "AWE/A2P2/ONION-KEY/v1")) nonce []
          ciphertext with
      | some payload => .ok payload
      | none => .error (.error .authentication) := by
  have keySize : ephemeralPk.toList.length = 32 := Vector.length_toList
  have nonceSize : nonce.toList.length = 12 := Vector.length_toList
  have size : (ephemeralPk.toList ++ nonce.toList ++ ciphertext).length =
      44 + ciphertext.length := by
    rw [List.length_append, List.length_append, keySize, nonceSize]
  -- Each of the three parts is cut out where it was put.
  have first : (slice (ephemeralPk.toList ++ nonce.toList ++ ciphertext) 0 32 :
      Except (Failure NetworkError) Bytes) = .ok ephemeralPk.toList := by
    have cut := slice_append NetworkError [] ephemeralPk.toList (nonce.toList ++ ciphertext)
    rwa [List.nil_append, List.length_nil, Nat.zero_add, keySize, ← List.append_assoc] at cut
  have second : (slice (ephemeralPk.toList ++ nonce.toList ++ ciphertext) 32 44 :
      Except (Failure NetworkError) Bytes) = .ok nonce.toList := by
    have cut := slice_append NetworkError ephemeralPk.toList nonce.toList ciphertext
    rwa [keySize, nonceSize] at cut
  have third : (slice (ephemeralPk.toList ++ nonce.toList ++ ciphertext) 44
      (ephemeralPk.toList ++ nonce.toList ++ ciphertext).length :
      Except (Failure NetworkError) Bytes) = .ok ciphertext := by
    have cut := slice_append NetworkError (ephemeralPk.toList ++ nonce.toList) ciphertext []
    rw [List.append_nil, List.length_append, keySize, nonceSize] at cut
    rwa [size]
  rw [decryptLayer, if_neg (by rw [size]; omega), first, second, third]
  change (copyFromSlice 32 ephemeralPk.toList >>= fun ephemeralPk =>
    copyFromSlice 12 nonce.toList >>= _) = _
  rw [copyFromSlice_toList, copyFromSlice_toList]
  rfl

/-- Whatever is long enough to be a layer consists of a key, a nonce and a ciphertext. -/
theorem exists_layer_parts {layerBytes : Bytes} (least : 60 ≤ layerBytes.length) :
    ∃ (ephemeralPk : Bytes32) (nonce : Vector UInt8 12) (ciphertext : Bytes),
      16 ≤ ciphertext.length ∧ layerBytes = ephemeralPk.toList ++ nonce.toList ++ ciphertext := by
  have keySize : (layerBytes.take 32).toArray.size = 32 := by simp; omega
  have nonceSize : ((layerBytes.drop 32).take 12).toArray.size = 12 := by simp; omega
  refine ⟨⟨_, keySize⟩, ⟨_, nonceSize⟩, layerBytes.drop 44, ?_, ?_⟩
  · rw [List.length_drop]
    omega
  · -- Key, nonce and ciphertext are the layer taken apart at 32 and 44.
    change layerBytes = layerBytes.take 32 ++ (layerBytes.drop 32).take 12 ++ layerBytes.drop 44
    rw [List.append_assoc, ← List.drop_drop (i := 12) (j := 32), List.take_append_drop,
      List.take_append_drop]

/-- What was sealed for a node is opened with its secret. -/
theorem decryptLayer_encryptLayer (aead : P.LawfulAead) (shares : P.SharesSecrets)
    (made : encryptLayer P draw payload (P.xPublic secret) = .ok layer) :
    decryptLayer P layer secret = .ok payload := by
  rw [encryptLayer] at made
  split at made
  · cases made
  dsimp only at made
  split at made
  · cases made
  rename_i ciphertext encrypted
  split at made
  · cases made
  rename_i fits
  cases made
  obtain ⟨opens, size⟩ := aead _ _ _ _ _ encrypted
  -- Both sides agree on the secret they share, and so on the key.
  rw [decryptLayer_append _ _ (by omega) (by omega), shares secret draw.secret, opens]

/-- Opening a layer never panics: after the check of its size all parts are there. -/
theorem decryptLayer_ne_panic (P : TransportPrimitives) (layerBytes : Bytes) (secret : Bytes32) :
    decryptLayer P layerBytes secret ≠ .error .panic := by
  by_cases refused : layerBytes.length < 32 + 12 + 16 ∨ layerBytes.length > maxOnionLayer
  · rw [decryptLayer, if_pos refused]
    exact fun same => (by cases same)
  obtain ⟨least, most⟩ := not_or.mp refused
  obtain ⟨ephemeralPk, nonce, ciphertext, enough, rfl⟩ :=
    exists_layer_parts (Nat.le_of_not_lt least)
  -- A layer of allowed size has all its parts, so no slice of it is out of range.
  have fits : 44 + ciphertext.length ≤ maxOnionLayer := by
    simp only [List.length_append, Vector.length_toList] at most
    omega
  rw [decryptLayer_append _ _ enough fits]
  split
  · exact fun same => (by cases same)
  · exact fun same => (by cases same)

variable {Layer : Type} {ofJson : Json → Option Layer} {report : Bytes → String}

/-- Unwrapping a layer never panics either. -/
theorem unwrapLayer_ne_panic (layerBytes : Bytes) :
    unwrapLayer P ofJson report layerBytes secret ≠ .error .panic := by
  refine bind_ne_error_iff.mpr ⟨decryptLayer_ne_panic P layerBytes secret, fun payload _ => ?_⟩
  split
  · exact fun same => (by cases same)
  · exact fun same => (by cases same)

/-- A layer whose document was sealed for a node is unwrapped with its secret. -/
theorem unwrapLayer_encryptLayer (lawful : P.LawfulJson) (aead : P.LawfulAead)
    (shares : P.SharesSecrets) {document : Json} {content : Layer}
    (reads : ofJson document = some content)
    (made : encryptLayer P draw (P.toVec document) (P.xPublic secret) = .ok layer) :
    unwrapLayer P ofJson report layer secret = .ok content := by
  have opened := decryptLayer_encryptLayer aead shares made
  have read : (P.fromSlice (P.toVec document)).bind ofJson = some content := by
    rw [lawful.compact, Option.bind_some, reads]
  rw [unwrapLayer, opened]
  -- What was encrypted is the document, and it is read back.
  change (match (P.fromSlice (P.toVec document)).bind ofJson with
    | some layer => _
    | none => _) = _
  rw [read]

end Layers

open TripleBlindOnionPacket

/-- A packet that was built is unwrapped by its three nodes, and no bytes make one of them panic. -/
theorem onion_packet_unwraps (P : OnionPrimitives) (lawful : P.LawfulJson) (aead : P.LawfulAead)
    (shares : P.SharesSecrets) :
    (∀ (draws : OnionDraws) (requestPayload : Bytes) (serviceY : String)
        (secretA secretB secretC : Bytes32) (packet : TripleBlindOnionPacket),
      build P.toTransportPrimitives draws requestPayload serviceY (P.xPublic secretA)
          (P.xPublic secretB) (P.xPublic secretC) = .ok packet →
        ∃ ingress relay, packet.unwrapIngress P secretA = .ok ingress ∧
          ingress.nextHop = P.xPublic secretB ∧
          unwrapRelay P ingress.relayLayer secretB = .ok relay ∧
          relay.nextHop = P.xPublic secretC ∧
          unwrapEgress P relay.egressLayer secretC = .ok ⟨serviceY, requestPayload⟩) ∧
    ∀ bytes secret, unwrapIngress P ⟨bytes⟩ secret ≠ .error .panic ∧
      unwrapRelay P bytes secret ≠ .error .panic ∧ unwrapEgress P bytes secret ≠ .error .panic := by
  constructor
  swap
  · exact fun bytes secret =>
      ⟨unwrapLayer_ne_panic bytes, unwrapLayer_ne_panic bytes, unwrapLayer_ne_panic bytes⟩
  intro draws requestPayload serviceY secretA secretB secretC packet built
  rw [build] at built
  split at built
  · cases built
  -- The packet was built, so each of its layers was.
  obtain ⟨layer3Ct, third, built⟩ := bind_eq_ok_iff.mp built
  obtain ⟨layer2Ct, second, built⟩ := bind_eq_ok_iff.mp built
  obtain ⟨layer1Ct, first, built⟩ := bind_eq_ok_iff.mp built
  cases built
  refine ⟨⟨P.xPublic secretB, layer2Ct⟩, ⟨P.xPublic secretC, layer3Ct, draws.delayMs⟩, ?_, rfl, ?_,
    rfl, ?_⟩
  · exact unwrapLayer_encryptLayer lawful aead shares (IngressUnwrapped.ofJson_toJson _) first
  · exact unwrapLayer_encryptLayer lawful aead shares (RelayUnwrapped.ofJson_toJson _) second
  · exact unwrapLayer_encryptLayer lawful aead shares (EgressUnwrapped.ofJson_toJson _) third

namespace Reference

/-- Primitives for onion packets, whose reports say nothing. -/
def onion : OnionPrimitives :=
  { transport with
    ingressError := fun _ => ""
    relayError := fun _ => ""
    egressError := fun _ => "" }

/-- What building a packet with three bytes for three nodes comes to. -/
def packed : Except NetworkError TripleBlindOnionPacket :=
  build transport wideDraws [1, 2, 3] "web" (transport.xPublic (key 1)) (transport.xPublic (key 2))
    (transport.xPublic (key 3))

/-- It is built. -/
theorem packed_isOk : packed.isOk := by decide +kernel

end Reference

/-- Three bytes reach the egress node through the two others. -/
theorem packed_bytes_unwrap : ∃ packet ingress relay, Reference.packed = .ok packet ∧
    packet.unwrapIngress Reference.onion (Reference.key 1) = .ok ingress ∧
    unwrapRelay Reference.onion ingress.relayLayer (Reference.key 2) = .ok relay ∧
    unwrapEgress Reference.onion relay.egressLayer (Reference.key 3) = .ok ⟨"web", [1, 2, 3]⟩ := by
  have built := Reference.packed_isOk
  cases made : Reference.packed with
  | error error =>
    rw [made] at built
    cases built
  | ok packet =>
    obtain ⟨ingress, relay, first, _, second, _, third⟩ :=
      (onion_packet_unwraps Reference.onion Reference.lawfulJson_transport Reference.lawfulAead
        Reference.sharesSecrets).1 Reference.wideDraws [1, 2, 3] "web" (Reference.key 1)
        (Reference.key 2) (Reference.key 3) packet made
    exact ⟨packet, ingress, relay, rfl, first, second, third⟩

end Awe
