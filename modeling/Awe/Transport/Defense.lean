import Awe.Crypto
import Awe.Rust.Integer

/-! Strikes against hostile peers, and what they lead to. -/

namespace Awe

open Rust

/-- The strikes that ban a peer. -/
def defaultMaxStrikes : Nat := 8

/-- The seconds a strike keeps a peer out. -/
def defaultQuarantineSecs : Nat := 300

/-- The most peers that are kept account of. -/
def defaultMaxEntries : Nat := 65536

/-- The account of one peer. -/
structure PeerDefenseState where
  strikes : Nat
  quarantinedUntil : Nat
  lastSeen : Nat
deriving DecidableEq

/-- What is decided about a peer. -/
inductive DefenseDecision where
  | allow
  | quarantined
  | rateLimited
  | banned
deriving DecidableEq

/-- The accounts of all peers. -/
structure PeerDefense where
  states : BTreeMap Bytes32 PeerDefenseState
  maxEntries : Nat
  maxStrikes : Nat
  quarantineSecs : Nat

namespace PeerDefense

/-- No account of anybody. -/
def new (maxEntries maxStrikes quarantineSecs : Nat) : PeerDefense where
  states := ∅
  maxEntries := max maxEntries 1
  maxStrikes := max maxStrikes 1
  quarantineSecs

/-- The limits nodes use. -/
def default : PeerDefense := new defaultMaxEntries defaultMaxStrikes defaultQuarantineSecs

/-- Make room for one more peer, dropping the one seen longest ago. -/
def evict (self : PeerDefense) : PeerDefense :=
  -- The account of a banned peer may be the one that is dropped.
  if self.states.size ≥ self.maxEntries then
    match minByKey (fun entry => entry.2.lastSeen) self.states.toList with
    | some oldest => { self with states := self.states.erase oldest.1 }
    | none => self
  else self

/-- Open an account for a peer that has none. -/
def ensure (self : PeerDefense) (peer : Bytes32) (now : Nat) : PeerDefense :=
  if peer ∈ self.states then self
  else
    let self := self.evict
    { self with states := self.states.insert peer ⟨0, 0, now⟩ }

/-- The account of a peer, which has one. -/
def account (self : PeerDefense) (peer : Bytes32) (now : Nat) : PeerDefenseState :=
  { self.states.getD peer ⟨0, 0, now⟩ with lastSeen := now }

/-- What is decided about a peer that turns up. -/
def check (self : PeerDefense) (peer : Bytes32) (now : Nat) : DefenseDecision × PeerDefense :=
  let self := self.ensure peer now
  let state := self.account peer now
  let decision : DefenseDecision :=
    -- A ban does not end, but a quarantine does.
    if state.strikes ≥ self.maxStrikes then .banned
    else if state.quarantinedUntil > now then .quarantined
    else .allow
  (decision, { self with states := self.states.insert peer state })

/-- Charge a peer with a strike. -/
def strike (self : PeerDefense) (peer : Bytes32) (now : Nat) : DefenseDecision × PeerDefense :=
  let self := self.ensure peer now
  let state := self.account peer now
  let state := { state with strikes := saturatingAdd (2 ^ 32 - 1) state.strikes 1 }
  if state.strikes ≥ self.maxStrikes then
    (.banned, { self with states := self.states.insert peer state })
  else
    -- Each strike starts the quarantine anew.
    let quarantinedUntil := saturatingAdd u64Max now self.quarantineSecs
    (.quarantined,
      { self with states := self.states.insert peer { state with quarantinedUntil } })

/-- Let a peer back in, with its strikes. -/
def clearQuarantine (self : PeerDefense) (peer : Bytes32) : PeerDefense :=
  match self.states[peer]? with
  | some state => { self with states := self.states.insert peer { state with quarantinedUntil := 0 } }
  | none => self

end PeerDefense

end Awe
