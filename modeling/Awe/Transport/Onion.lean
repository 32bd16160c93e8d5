import Awe.Transport.Wire

/-! Onion packets: a request in three layers, each sealed for the node that removes it. -/

namespace Awe

open Rust Rust.Json

/-- The most bytes of one onion layer. -/
def maxOnionLayer : Nat := maxFrame

/-- The most bytes of the name of a service. -/
def maxOnionServiceName : Nat := 256

/-- The most bytes that are sealed in one onion layer. -/
def maxOnionPayload : Nat := 8 * 1024 * 1024

/-- What is drawn for one layer: an ephemeral secret and a nonce. -/
structure LayerDraw where
  secret : Bytes32
  nonce : Vector UInt8 12

/-- Seal one onion layer under a key that only the recipient can agree on. -/
def encryptLayer (P : TransportPrimitives) (draw : LayerDraw) (payload : Bytes)
    (recipientPk : Bytes32) : Except NetworkError Bytes :=
  if payload.length > maxOnionPayload then .error .frameTooLarge
  else
    let ephemeralPk := P.xPublic draw.secret
    let shared := P.diffieHellman draw.secret recipientPk
    -- Expanding has no error at this length.
    let key := P.hkdfKey (utf8 "AWE/A2P2/ONION-SALT/v1") shared.toList (utf8 "AWE/A2P2/ONION-KEY/v1")
    match P.encrypt key draw.nonce [] payload with
    | none => .error .encryption
    | some ciphertext =>
      let total := 32 + 12 + ciphertext.length
      if total > u64Max ∨ total > maxOnionLayer then .error .frameTooLarge
      else .ok (ephemeralPk.toList ++ draw.nonce.toList ++ ciphertext)

/-- What the ingress node finds in its layer. -/
structure IngressUnwrapped where
  nextHop : Bytes32
  relayLayer : Bytes
deriving DecidableEq

/-- What the relay node finds in its layer. -/
structure RelayUnwrapped where
  nextHop : Bytes32
  egressLayer : Bytes
  mixnetDelayMs : UInt64
deriving DecidableEq

/-- What the egress node finds in its layer. -/
structure EgressUnwrapped where
  serviceY : String
  requestPayload : Bytes
deriving DecidableEq

/-- The document of an ingress layer. -/
def IngressUnwrapped.toJson (self : IngressUnwrapped) : Json := .obj [
  ("next_hop", .ofBytes self.nextHop.toList),
  ("relay_layer", .ofBytes self.relayLayer)]

/-- The document of a relay layer. -/
def RelayUnwrapped.toJson (self : RelayUnwrapped) : Json := .obj [
  ("next_hop", .ofBytes self.nextHop.toList),
  ("egress_layer", .ofBytes self.egressLayer),
  ("mixnet_delay_ms", .num self.mixnetDelayMs.toNat)]

/-- The document of an egress layer. -/
def EgressUnwrapped.toJson (self : EgressUnwrapped) : Json := .obj [
  ("service_y", .str self.serviceY),
  ("request_payload", .ofBytes self.requestPayload)]

/-- A request in three layers. -/
structure TripleBlindOnionPacket where
  ingressLayer : Bytes
deriving DecidableEq

/-- What is drawn for a packet: for each of its layers, and for the delay at the relay node. -/
structure OnionDraws where
  egress : LayerDraw
  delay : UInt32
  relay : LayerDraw
  ingress : LayerDraw

/-- How long the relay node is to wait: five milliseconds, and less than forty-five more. -/
def OnionDraws.delayMs (draws : OnionDraws) : UInt64 := (draws.delay % 45 + 5).toUInt64

/-- The relay node waits less than fifty milliseconds. -/
theorem OnionDraws.delayMs_lt (draws : OnionDraws) : draws.delayMs.toNat < 50 := by
  have less : (draws.delay % 45).toNat < 45 := by
    rw [UInt32.toNat_mod]
    exact Nat.mod_lt _ (by decide)
  rw [OnionDraws.delayMs, UInt32.toNat_toUInt64, UInt32.toNat_add]
  have five : (5 : UInt32).toNat = 5 := rfl
  omega

namespace TripleBlindOnionPacket

variable (P : TransportPrimitives)

/-- Seal a request for the egress node, that for the relay node, and that for the ingress node. -/
def build (draws : OnionDraws) (requestPayload : Bytes) (serviceY : String)
    (nodeAPk nodeBPk nodeCPk : Bytes32) : Except NetworkError TripleBlindOnionPacket :=
  if requestPayload.length > maxOnionPayload ∨ serviceY.utf8ByteSize > maxOnionServiceName then
    .error .frameTooLarge
  else do
    let egressUnwrapped : EgressUnwrapped := { serviceY, requestPayload }
    let layer3Ct ← encryptLayer P draws.egress (P.toVec egressUnwrapped.toJson) nodeCPk
    let relayUnwrapped : RelayUnwrapped :=
      { nextHop := nodeCPk, egressLayer := layer3Ct, mixnetDelayMs := draws.delayMs }
    let layer2Ct ← encryptLayer P draws.relay (P.toVec relayUnwrapped.toJson) nodeBPk
    let ingressUnwrapped : IngressUnwrapped := { nextHop := nodeBPk, relayLayer := layer2Ct }
    let layer1Ct ← encryptLayer P draws.ingress (P.toVec ingressUnwrapped.toJson) nodeAPk
    return ⟨layer1Ct⟩

end TripleBlindOnionPacket

end Awe
