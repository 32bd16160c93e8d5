import Awe.Crypto
import Awe.Rust.Integer
import Awe.Rust.Net

/-! Admission control: token buckets, bounded in number and keyed by peer or by address. -/

namespace Awe

open Rust

/-- Tokens that are spent on requests and refill with time. -/
structure TokenBucket where
  capacity : Nat
  tokens : Nat
  refillPerSecond : Nat
  lastSecond : Nat
deriving DecidableEq

namespace TokenBucket

/-- A full bucket. -/
def new (capacity refillPerSecond nowSecond : Nat) : TokenBucket where
  capacity := max capacity 1
  tokens := max capacity 1
  refillPerSecond := max refillPerSecond 1
  lastSecond := nowSecond

/-- What has flowed in since the bucket was last used. -/
def refill (self : TokenBucket) (nowSecond : Nat) : TokenBucket :=
  -- A clock that stands still or runs backwards brings nothing.
  let elapsed := nowSecond - self.lastSecond
  if elapsed > 0 then
    let refill := saturatingMul u64Max elapsed self.refillPerSecond
    { self with
      tokens := min (saturatingAdd u64Max self.tokens refill) self.capacity
      lastSecond := nowSecond }
  else self

/-- Whether there are tokens for a request, which are then spent. -/
def allow (self : TokenBucket) (cost nowSecond : Nat) : Bool × TokenBucket :=
  if cost = 0 then (true, self)
  else if cost > self.capacity then (false, self)
  else
    let self := self.refill nowSecond
    if self.tokens < cost then (false, self)
    else (true, { self with tokens := self.tokens - cost })

/-- The tokens that are left. -/
def remaining (self : TokenBucket) : Nat := self.tokens

end TokenBucket

/-- A bounded table of buckets, one for each key that was seen. -/
structure Admission (Key : Type) [Ord Key] [Std.TransOrd Key] where
  buckets : BTreeMap Key TokenBucket
  maxKeys : Nat
  capacity : Nat
  refillPerSecond : Nat

namespace Admission

variable {Key : Type} [Ord Key] [Std.TransOrd Key]

/-- A table that has seen nobody. -/
def new (maxKeys capacity refillPerSecond : Nat) : Admission Key where
  buckets := ∅
  maxKeys := max maxKeys 1
  capacity := max capacity 1
  refillPerSecond := max refillPerSecond 1

/-- Make room for one more key, dropping the bucket with the fewest tokens. -/
def evict (self : Admission Key) : Admission Key :=
  if self.buckets.size ≥ self.maxKeys then
    match minByKey (fun entry => entry.2.remaining) self.buckets.toList with
    | some oldest => { self with buckets := self.buckets.erase oldest.1 }
    | none => self
  else self

/-- Give a key its bucket, if it has none yet. -/
def track (self : Admission Key) (key : Key) (nowSecond : Nat) : Admission Key :=
  if key ∈ self.buckets then self
  else
    let self := self.evict
    { self with
      buckets := self.buckets.insert key
        (.new self.capacity self.refillPerSecond nowSecond) }

/-- Whether a key may make a request of some cost. -/
def allow (self : Admission Key) (key : Key) (cost nowSecond : Nat) : Bool × Admission Key :=
  let self := self.track key nowSecond
  -- The key is tracked now, so the bucket that is asked is its own.
  let bucket := self.buckets.getD key (.new self.capacity self.refillPerSecond nowSecond)
  let allowed := bucket.allow cost nowSecond
  (allowed.1, { self with buckets := self.buckets.insert key allowed.2 })

end Admission

/-- Admission of authenticated peers. -/
abbrev PeerAdmission := Admission Bytes32

/-- Admission of source addresses, before anybody is authenticated. -/
abbrev IpAdmission := Admission IpAddr

/-- Whether an address may connect once more. -/
def IpAdmission.allow (self : IpAdmission) (source : IpAddr) (nowSecond : Nat) :
    Bool × IpAdmission := Admission.allow self source 1 nowSecond

end Awe
