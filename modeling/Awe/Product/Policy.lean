import Awe.Storage.DataPlane

/-! The local policy of a node: which streams it serves, and how large things may be. -/

namespace Awe

/-- The version of a policy. -/
def policyVersion : UInt16 := 1

/-- The stream of the messenger. -/
def messengerStream : UInt32 := 100

/-- The stream of single transfers. -/
def onecoinTransferStream : UInt32 := 201

/-- What a node allows. -/
structure NetworkPolicy where
  format : String
  version : UInt16
  enabled : Bool
  requireAuthenticatedPeers : Bool
  maxUploadBytes : Nat
  maxMessageBytes : Nat
  maxShardBytes : Nat
  maxBootstrapPeers : Nat
  allowedStreams : List UInt32
deriving DecidableEq

namespace NetworkPolicy

/-- The policy of a node that was not told otherwise. -/
def default : NetworkPolicy where
  format := "awenet-policy"
  version := policyVersion
  enabled := true
  requireAuthenticatedPeers := true
  maxUploadBytes := 4 * 1024 * 1024 * 1024
  maxMessageBytes := 64 * 1024
  maxShardBytes := 4 * 1024 * 1024
  maxBootstrapPeers := 64
  allowedStreams := [messengerStream, storageStream, onecoinTransferStream]

/-- Check a policy. -/
def validate (self : NetworkPolicy) : Except String Unit :=
  if self.format ≠ "awenet-policy" ∨ self.version ≠ policyVersion then
    .error "unsupported AWENET policy format/version"
  else if self.maxUploadBytes = 0 ∨ self.maxMessageBytes = 0 ∨ self.maxShardBytes = 0 then
    .error "policy limits must be non-zero"
  else if self.maxBootstrapPeers = 0 then .error "max_bootstrap_peers must be non-zero"
  else if self.requireAuthenticatedPeers ∧ self.allowedStreams = [] then
    .error "authenticated policy must declare allowed streams"
  else .ok ()

/-- Whether a stream is served. -/
def allowsStream (self : NetworkPolicy) (stream : UInt32) : Bool :=
  self.enabled && self.allowedStreams.contains stream

/-- Whether a file of some bytes may be uploaded. -/
def allowsUpload (self : NetworkPolicy) (bytes : Nat) : Bool :=
  self.enabled && decide (bytes ≤ self.maxUploadBytes)

/-- Whether a shard of some bytes is taken. -/
def allowsShard (self : NetworkPolicy) (bytes : Nat) : Bool :=
  self.enabled && decide (bytes ≤ self.maxShardBytes)

/-- The default policy passes its own check. -/
theorem validate_default : default.validate = .ok () := by decide

end NetworkPolicy

end Awe
