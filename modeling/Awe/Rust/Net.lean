import Awe.Rust.JsonText

/-! Socket addresses, as the standard library prints and parses them. -/

namespace Rust

/-- An IPv4 address. -/
structure Ipv4Addr where
  octets : Vector UInt8 4
deriving DecidableEq

/-- An IPv6 address. -/
structure Ipv6Addr where
  segments : Vector UInt16 8
deriving DecidableEq

/-- An address of either version. -/
inductive IpAddr where
  | v4 (address : Ipv4Addr)
  | v6 (address : Ipv6Addr)
deriving DecidableEq

/--
An address with a port.

The flow label of a version 6 address is always zero here: neither text has a place for it.
-/
inductive SocketAddr where
  | v4 (address : Ipv4Addr) (port : UInt16)
  | v6 (address : Ipv6Addr) (port : UInt16) (scopeId : UInt32)
deriving DecidableEq

/-- Whether an address stands for no interface in particular. -/
def IpAddr.isUnspecified : IpAddr → Bool
  | .v4 address => address.octets = Vector.replicate 4 0
  | .v6 address => address.segments = Vector.replicate 8 0

/-- The version of an address, then its parts. -/
def IpAddr.parts : IpAddr → List Nat
  | .v4 address => 4 :: address.octets.toList.map UInt8.toNat
  | .v6 address => 6 :: address.segments.toList.map UInt16.toNat

/-- Addresses are ordered by version and then part by part. -/
instance instOrdIpAddr : Ord IpAddr := ⟨compareOn IpAddr.parts⟩

/-- That order is a linear one on the parts. -/
instance instTransOrdIpAddr : Std.TransOrd IpAddr :=
  inferInstanceAs (Std.TransCmp (compareOn IpAddr.parts))

namespace SocketAddr

/-- An address and a port, with no scope. -/
def new : IpAddr → UInt16 → SocketAddr
  | .v4 address, port => .v4 address port
  | .v6 address, port => .v6 address port 0

/-- The address without its port. -/
def ip : SocketAddr → IpAddr
  | .v4 address _ => .v4 address
  | .v6 address _ _ => .v6 address

/-- The port. -/
def port : SocketAddr → UInt16
  | .v4 _ port => port
  | .v6 _ port _ => port

end SocketAddr

namespace Net

/-- The decimal spelling of a number. -/
def decimal (value : Nat) : List Char := Nat.toDigits 10 value

/-- The hexadecimal spelling of one segment. -/
def group (segment : UInt16) : List Char := Nat.toDigits 16 segment.toNat

/-- Four numbers between dots. -/
def ipv4Text (address : Ipv4Addr) : List Char :=
  let octet (position : Fin 4) := decimal (address.octets.get position).toNat
  octet 0 ++ '.' :: octet 1 ++ '.' :: octet 2 ++ '.' :: octet 3

/-- Segments between colons. -/
def groupsText : List UInt16 → List Char
  | [] => []
  | segment :: rest => group segment ++ rest.flatMap fun later => ':' :: group later

/-- A run of zero segments. -/
structure Span where
  start : Nat
  len : Nat

/-- One pass of the search for the longest run, the first of several. -/
def Span.extend (found : Span × Span) (entry : UInt16 × Nat) : Span × Span :=
  if entry.1 = 0 then
    -- A run that is only as long as the longest so far does not replace it.
    let current : Span := ⟨if found.2.len = 0 then entry.2 else found.2.start, found.2.len + 1⟩
    (if current.len > found.1.len then current else found.1, current)
  else (found.1, ⟨0, 0⟩)

/-- The longest run of zero segments. -/
def longestZeros (segments : List UInt16) : Span :=
  (segments.zipIdx.foldl Span.extend (⟨0, 0⟩, ⟨0, 0⟩)).1

/-- The version 4 address a version 6 address maps, if it maps one. -/
def toIpv4Mapped (address : Ipv6Addr) : Option Ipv4Addr :=
  if address.segments.toList.take 6 = [0, 0, 0, 0, 0, 0xffff] then
    let high := address.segments.get 6
    let low := address.segments.get 7
    some ⟨#v[(high >>> 8).toUInt8, high.toUInt8, (low >>> 8).toUInt8, low.toUInt8]⟩
  else none

/-- Segments between colons, the longest run of zeros left out, or a mapped address. -/
def ipv6Text (address : Ipv6Addr) : List Char :=
  match toIpv4Mapped address with
  | some mapped => [':', ':', 'f', 'f', 'f', 'f', ':'] ++ ipv4Text mapped
  | none =>
    let segments := address.segments.toList
    let zeros := longestZeros segments
    -- A single zero is written out.
    if zeros.len > 1 then
      groupsText (segments.take zeros.start) ++ ':' :: ':' ::
        groupsText (segments.drop (zeros.start + zeros.len))
    else groupsText segments

/-- The value of a digit in a radix of at most sixteen. -/
def digitValue (radix : Nat) (c : Char) : Option Nat :=
  let value :=
    if '0' ≤ c ∧ c ≤ '9' then c.toNat - 48
    else if 'a' ≤ c ∧ c ≤ 'f' then c.toNat - 87
    else if 'A' ≤ c ∧ c ≤ 'F' then c.toNat - 55
    else radix
  if value < radix then some value else none

/-- Whether a character is a digit in a radix. -/
def isDigit (radix : Nat) (c : Char) : Bool := (digitValue radix c).isSome

/-- The value of a row of digits. -/
def numberValue (radix : Nat) (digits : List Char) : Nat :=
  digits.foldl (fun value c => radix * value + (digitValue radix c).getD 0) 0

/-- Read as many digits as there are, within limits on their number and on the value. -/
def readNumber (radix : Nat) (maxDigits : Option Nat) (allowZeroPrefix : Bool) (bound : Nat)
    (text : List Char) : Option (Nat × List Char) :=
  -- All digits are taken before the limits are checked.
  let digits := text.takeWhile (isDigit radix)
  if digits = [] ∨ (∃ limit ∈ maxDigits, limit < digits.length) ∨
      (allowZeroPrefix = false ∧ digits.head? = some '0' ∧ 1 < digits.length) ∨
      bound < numberValue radix digits then none
  else some (numberValue radix digits, text.dropWhile (isDigit radix))

/-- Read one given character. -/
def readGivenChar (c : Char) : List Char → Option (List Char)
  | first :: rest => if first = c then some rest else none
  | [] => none

/-- Read what stands between two items, which the first has none of before it. -/
def readSeparator (c : Char) (first : Bool) (text : List Char) : Option (List Char) :=
  if first then some text else readGivenChar c text

/-- Read one decimal octet, which has no leading zero. -/
def readOctet (first : Bool) (text : List Char) : Option (Nat × List Char) :=
  (readSeparator '.' first text).bind (readNumber 10 (some 3) false 255)

/-- Read a version 4 address. -/
def readIpv4 (text : List Char) : Option (Ipv4Addr × List Char) := do
  let (one, text) ← readOctet true text
  let (two, text) ← readOctet false text
  let (three, text) ← readOctet false text
  let (four, text) ← readOctet false text
  return (⟨#v[.ofNat one, .ofNat two, .ofNat three, .ofNat four]⟩, text)

/-- The two segments that the octets of a version 4 address fill. -/
def mappedSegments (address : Ipv4Addr) : List UInt16 :=
  let octet (position : Fin 4) := (address.octets.get position).toNat
  [.ofNat (256 * octet 0 + octet 1), .ofNat (256 * octet 2 + octet 3)]

/-- Read segments into a number of places, the last two of which may be a version 4 address. -/
def readGroups : Nat → Bool → List Char → List UInt16 × Bool × List Char
  | 0, _, text => ([], false, text)
  | places + 1, first, text =>
    -- A version 4 address fills two places, so it is not tried in the last one.
    match if places = 0 then none else (readSeparator ':' first text).bind readIpv4 with
    | some (address, rest) => (mappedSegments address, true, rest)
    | none =>
      match (readSeparator ':' first text).bind (readNumber 16 (some 4) true 65535) with
      | some (segment, rest) =>
        let (segments, mapped, rest) := readGroups places false rest
        (.ofNat segment :: segments, mapped, rest)
      | none => ([], false, text)

/-- An address from its segments, the missing ones being zero. -/
def ipv6OfList (segments : List UInt16) : Ipv6Addr :=
  ⟨Vector.ofFn fun position => segments.getD position 0⟩

/-- Read a version 6 address. -/
def readIpv6 (text : List Char) : Option (Ipv6Addr × List Char) :=
  let (head, mapped, rest) := readGroups 8 true text
  -- Without two colons in a row all eight segments must be there.
  if head.length = 8 then some (ipv6OfList head, rest)
  else if mapped then none
  else do
    let rest ← readGivenChar ':' rest
    let rest ← readGivenChar ':' rest
    -- The two colons stand for one segment at least.
    let (tail, _, rest) := readGroups (8 - (head.length + 1)) true rest
    let zeros := List.replicate (8 - head.length - tail.length) 0
    return (ipv6OfList (head ++ zeros ++ tail), rest)

/-- Read a colon and a port. -/
def readPort (text : List Char) : Option (Nat × List Char) :=
  (readGivenChar ':' text).bind (readNumber 10 none true 65535)

/-- Read a percent sign and a scope, zero if there is none. -/
def readScope (text : List Char) : Nat × List Char :=
  ((readGivenChar '%' text).bind (readNumber 10 none true 4294967295)).getD (0, text)

/-- Read a version 4 address and its port. -/
def readSocketV4 (text : List Char) : Option (SocketAddr × List Char) := do
  let (address, rest) ← readIpv4 text
  let (port, rest) ← readPort rest
  return (.v4 address (.ofNat port), rest)

/-- Read a version 6 address in brackets, its scope and its port. -/
def readSocketV6 (text : List Char) : Option (SocketAddr × List Char) := do
  let rest ← readGivenChar '[' text
  let (address, rest) ← readIpv6 rest
  let (scopeId, rest) := readScope rest
  let rest ← readGivenChar ']' rest
  let (port, rest) ← readPort rest
  return (.v6 address (.ofNat port) (.ofNat scopeId), rest)

end Net

namespace SocketAddr

open Net

/-- The characters an address is printed as. -/
def text : SocketAddr → List Char
  | .v4 address port => ipv4Text address ++ ':' :: decimal port.toNat
  | .v6 address port scopeId =>
    -- A scope of zero is not printed.
    let scope := if scopeId = 0 then [] else '%' :: decimal scopeId.toNat
    '[' :: ipv6Text address ++ scope ++ ']' :: ':' :: decimal port.toNat

/-- Print an address. -/
def toString (address : SocketAddr) : String := String.ofList address.text

/-- Parse an address, which must be the whole text. -/
def parse (text : String) : Option SocketAddr :=
  match (readSocketV4 text.toList).orElse fun _ => readSocketV6 text.toList with
  | some (address, []) => some address
  | _ => none

end SocketAddr

end Rust
