import Awe.Onecoin.LedgerJson
import Awe.Product.Policy
import Awe.Transport.Delivery

/-! The wallet of a node: payments that are asked for, made on the ledger and sent on. -/

namespace Awe

open Rust

/-- What a request says an amount is, as far as amounts are read. -/
inductive AmountValue where
  | text (text : String)
  /-- A number, as it is written. -/
  | number (written : String)
  | other
deriving DecidableEq

/-- `char::is_whitespace`. -/
def isWhitespace (c : Char) : Bool :=
  (9 ≤ c.toNat && c.toNat ≤ 13) || c.toNat == 0x20 || c.toNat == 0x85 || c.toNat == 0xa0 ||
  c.toNat == 0x1680 || (0x2000 ≤ c.toNat && c.toNat ≤ 0x200a) || c.toNat == 0x2028 ||
  c.toNat == 0x2029 || c.toNat == 0x202f || c.toNat == 0x205f || c.toNat == 0x3000

/-- `char::is_ascii_hexdigit`. -/
def isAsciiHexdigit (c : Char) : Bool :=
  c.isDigit || ('a' ≤ c && c ≤ 'f') || ('A' ≤ c && c ≤ 'F')

/-- `str::trim`. -/
def trim (text : List Char) : List Char := (text.dropWhile isWhitespace).rdropWhile isWhitespace

/-- The value of decimal digits. -/
def decimalValue (digits : List Char) : Nat :=
  digits.foldl (fun value digit => 10 * value + (digit.toNat - 48)) 0

/-- The atoms a whole number and a fraction of up to eight digits stand for. -/
def atomsOfParts (whole fraction : List Char) : Except String Nat :=
  if whole.isEmpty ∨ !whole.all Char.isDigit then
    .error "amount_coins has invalid decimal syntax"
  else if (String.ofList fraction).utf8ByteSize > 8 ∨ !fraction.all Char.isDigit then
    .error "amount_coins supports at most 8 decimal places"
  else if decimalValue whole > u128Max ∨ decimalValue whole * atomsPerCoin > u128Max then
    .error "amount_coins is too large"
  else
    -- The fraction is filled up to eight digits, and these are taken for atoms.
    let fractionAtoms := decimalValue (fraction.rightpad 8 '0')
    if decimalValue whole * atomsPerCoin + fractionAtoms > u128Max then
      .error "amount_coins is too large"
    else .ok (decimalValue whole * atomsPerCoin + fractionAtoms)

/-- The atoms an amount stands for. -/
def parseOnecoinAtoms (value : AmountValue) : Except String Nat :=
  let parse (raw : List Char) : Except String Nat :=
    if raw.isEmpty ∨ raw.contains 'e' ∨ raw.contains 'E' then
      .error "amount_coins must be a plain decimal value"
    else match raw.splitOn '.' with
      | [whole] => atomsOfParts whole []
      | [whole, fraction] => atomsOfParts whole fraction
      | _ => .error "amount_coins has invalid decimal syntax"
  match value with
  | .text text => parse (trim text.toList)
  | .number written => parse written.toList
  | .other => .error "amount_coins must be a number or decimal string"

/-- What a request to send coins says. -/
structure SendRequest where
  recipient : String
  amountCoins : AmountValue
  memo : Option String
deriving DecidableEq

/-- The recipient and the amount of a request, as far as they are checked without the ledger. -/
def SendRequest.check (request : SendRequest) (ownId : AweId) : Except String (AweId × Nat) := do
  if request.recipient.utf8ByteSize ≠ 64 ∨ !request.recipient.toList.all isAsciiHexdigit then
    throw "recipient must be a 64-character AWE-ID"
  let amountAtoms ← parseOnecoinAtoms request.amountCoins
  if amountAtoms = 0 then
    throw "amount_coins must be positive"
  let recipient ← AweId.fromHex request.recipient
  if recipient = ownId then
    throw "cannot transfer ONECOIN to the same wallet"
  return (recipient, amountAtoms)

/-- The fee of a payment, in hundredths of a percent. -/
def walletFeeBps : Nat := 100

/-- Write the ledger to its file, which the file system may refuse. -/
def writeLedger (write : Except String Unit) : Method OnecoinLedger Unit := do
  if (← get).toJson.isNone then
    throw "ONECOIN ledger serialization failed"
  Method.ofExcept write

/-- Pay a member of the ledger and write the ledger. -/
def pay (P : Primitives) (identity : Identity) (recipient : AweId) (amountAtoms : Nat)
    (memo : Option String) (write : Except String Unit) :
    Method OnecoinLedger (String × Nat × OnecoinTransaction) := do
  let sender := identity.aweId P
  if (← get).balanceAtoms sender < amountAtoms then
    throw "insufficient ONECOIN balance"
  let nonce := (← get).nonces.getD sender.toHex 0
  let tx := OnecoinTransaction.new P identity nonce recipient amountAtoms memo
  let (txId, feeAtoms) ←
    OnecoinLedger.applyTransferWithFee P tx (identity.publicKey P) walletFeeBps
  -- The payment is on the ledger by now, and stays there if the ledger is not written.
  writeLedger write
  return (hexEncode txId.toList, feeAtoms, tx)

/-- Make the payment a request asks for. -/
def sendCoins (P : Primitives) (identity : Identity) (request : SendRequest)
    (write : Except String Unit) : Method OnecoinLedger (String × Nat × OnecoinTransaction) := do
  let sender := identity.aweId P
  let (recipient, amountAtoms) ← Method.ofExcept (request.check sender)
  if (← get).members.isEmpty then
    OnecoinLedger.initializeGenesis [sender]
  modify fun ledger => ledger.ensureMember recipient
  pay P identity recipient amountAtoms request.memo write

/-- What is answered to a request to send coins. -/
inductive SendAnswer where
  | accepted (txId : String) (feeAtoms : Nat) (recipientDelivered : Bool)
  | rejected (error : String)
deriving DecidableEq

/--
Send a payment to its recipient if that is a known peer, and tell whether it arrived.

There is no answer to that if the send never returns.
-/
def Node.deliver (P : NodePrimitives) (self : Node) (tx : OnecoinTransaction)
    (confirmed plain : SocketAddr → Dial) : Option Bool × Node :=
  if self.peers.toList.any fun entry => entry.2.aweId = tx.recipient then
    let bytes := P.toVec tx.toJson
    match self.sendToPeerConfirmed P tx.recipient onecoinTransferStream bytes confirmed with
    | (none, self) => (none, self)
    | (some (.ok _), self) => (some true, self)
    | (some (.error _), self) =>
      match self.sendToPeer P tx.recipient onecoinTransferStream bytes plain with
      | (none, self) => (none, self)
      | (some (.ok _), self) => (some true, self)
      | (some (.error _), self) => (some false, self)
  else (some false, self)

/--
Serve a request to send coins: what is answered, and what becomes of the ledger and the node.

A payment whose delivery never returns is not answered, though it is on the ledger.
-/
def Node.walletSend (P : NodePrimitives) (self : Node) (ledger : OnecoinLedger)
    (request : SendRequest) (write : Except String Unit) (confirmed plain : SocketAddr → Dial) :
    Option SendAnswer × OnecoinLedger × Node :=
  match (sendCoins P.toPrimitives self.identity request write).run ledger with
  | (.error error, ledger) => (some (.rejected error), ledger, self)
  | (.ok (txId, feeAtoms, tx), ledger) =>
    let delivered := self.deliver P tx confirmed plain
    (delivered.1.map (.accepted txId feeAtoms), ledger, delivered.2)

end Awe
