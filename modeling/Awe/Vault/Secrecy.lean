import Awe.Reference
import Awe.Rust.Utf8
import Awe.Vault.LocalVault

/-! What follows from a sealed vault for those who do not know the password. -/

namespace Awe

open Rust

/-- A message by the way it is made. -/
inductive Term where
  | constant (value : Bytes)
  | password (text : String)
  | secret (key : Bytes32)
  | argon2 (phrase salt : Term)
  | sha256 (message : Term)
  | aead (key nonce message : Term)
  | phc (salt output : Term)
  | record (passwordHash nonce ciphertext : Term)
deriving DecidableEq

/-- The bytes of a message, if every part of it can be made. -/
def Term.denote (V : VaultPrimitives) : Term → Option Bytes
  | constant value => some value
  | password text => some (utf8 text)
  | secret key => some key.toList
  | argon2 phrase salt => do
    V.argon2 V.settings (← phrase.denote V) (← salt.denote V)
  | sha256 message => do
    return (V.sha256 (← message.denote V)).toList
  | aead key nonce message => do
    V.encrypt (← asWidth 32 (← key.denote V)) (← asWidth 12 (← nonce.denote V)) (← message.denote V)
  | phc salt output => do
    return utf8 (V.phcString ⟨V.settings, some (← salt.denote V), some (← output.denote V)⟩)
  | record passwordHash nonce ciphertext => do
    let passwordHash ← ofUtf8 (← passwordHash.denote V)
    let nonce ← asWidth 12 (← nonce.denote V)
    return V.toVec (VaultRecord.toJson ⟨vaultVersion, passwordHash, nonce, ← ciphertext.denote V⟩)

/--
What follows from messages that are given.

Records and hash strings are taken apart and put together.
Nothing is read out of a digest, and a ciphertext is opened with its key only.
-/
inductive Derivable (given : Term → Prop) : Term → Prop where
  | given {term : Term} (known : given term) : Derivable given term
  | constant (value : Bytes) : Derivable given (.constant value)
  | argon2 {phrase salt : Term} (first : Derivable given phrase)
      (second : Derivable given salt) : Derivable given (.argon2 phrase salt)
  | sha256 {message : Term} (known : Derivable given message) : Derivable given (.sha256 message)
  | encrypt {key nonce message : Term} (first : Derivable given key)
      (second : Derivable given nonce) (third : Derivable given message) :
      Derivable given (.aead key nonce message)
  | decrypt {key nonce message : Term} (sealed : Derivable given (.aead key nonce message))
      (opener : Derivable given key) : Derivable given message
  | phc {salt output : Term} (first : Derivable given salt) (second : Derivable given output) :
      Derivable given (.phc salt output)
  | salt {salt output : Term} (known : Derivable given (.phc salt output)) : Derivable given salt
  | output {salt output : Term} (known : Derivable given (.phc salt output)) :
      Derivable given output
  | record {passwordHash nonce ciphertext : Term} (first : Derivable given passwordHash)
      (second : Derivable given nonce) (third : Derivable given ciphertext) :
      Derivable given (.record passwordHash nonce ciphertext)
  | passwordHash {passwordHash nonce ciphertext : Term}
      (known : Derivable given (.record passwordHash nonce ciphertext)) :
      Derivable given passwordHash
  | nonce {passwordHash nonce ciphertext : Term}
      (known : Derivable given (.record passwordHash nonce ciphertext)) : Derivable given nonce
  | ciphertext {passwordHash nonce ciphertext : Term}
      (known : Derivable given (.record passwordHash nonce ciphertext)) :
      Derivable given ciphertext

/-- A record of a secret under the output of a password, with anything in place of the hash string. -/
def vaultTerm (passwordHash : Term) (identity : Identity) (password : String) (salt : Bytes)
    (nonceBytes : Vector UInt8 12) : Term :=
  .record passwordHash (.constant nonceBytes.toList)
    (.aead (.sha256 (.argon2 (.password password) (.constant salt))) (.constant nonceBytes.toList)
      (.secret identity.exportSecret))

/-- What a vault outputs. -/
def sealedTerm (identity : Identity) (password : String) (salt : Bytes)
    (nonceBytes : Vector UInt8 12) : Term :=
  vaultTerm (.phc (.constant salt) (.argon2 (.password password) (.constant salt))) identity
    password salt nonceBytes

variable {V : VaultPrimitives} {identity : Identity} {password : String} {salt : Bytes}
  {nonceBytes : Vector UInt8 12}

/-- The term of what a vault outputs has the bytes that it outputs. -/
theorem toOption_seal (readsBack : V.ReadsBack (utf8 password) salt) :
    (LocalVault.seal V identity password salt nonceBytes).toOption =
      (sealedTerm identity password salt nonceBytes).denote V := by
  rw [LocalVault.seal_eq readsBack]
  -- The vault fails where a part of the term has no bytes.
  cases hashed : V.argon2 V.settings (utf8 password) salt with
  | none => simp [sealedTerm, vaultTerm, Term.denote, hashed, Except.toOption]
  | some output =>
    cases encrypted : V.encrypt (V.sha256 output) nonceBytes identity.exportSecret.toList with
    | none => simp [sealedTerm, vaultTerm, Term.denote, hashed, encrypted, Except.toOption]
    | some ciphertext => simp [sealedTerm, vaultTerm, Term.denote, hashed, encrypted, Except.toOption]

/-- Whoever does not know any password or secret learns from a message only what it lays open. -/
def Term.Guarded : Term → Prop
  | .constant _ => True
  | .password _ => False
  | .secret _ => False
  | .argon2 phrase salt => phrase.Guarded ∧ salt.Guarded
  | .sha256 message => message.Guarded
  | .aead key _ message => key.Guarded → message.Guarded
  | .phc salt output => salt.Guarded ∧ output.Guarded
  | .record passwordHash nonce ciphertext =>
    passwordHash.Guarded ∧ nonce.Guarded ∧ ciphertext.Guarded

/-- Guarded messages yield guarded messages. -/
theorem Derivable.guarded {given : Term → Prop} (start : ∀ term, given term → term.Guarded)
    {term : Term} (derived : Derivable given term) : term.Guarded := by
  -- Only the rule that opens ciphertexts uses what is known of a key.
  induction derived with
  | given known => exact start _ known
  | constant value => trivial
  | argon2 _ _ first second => exact ⟨first, second⟩
  | sha256 _ known => exact known
  | encrypt _ _ _ _ _ third => exact fun _ => third
  | decrypt _ _ sealed opener => exact sealed opener
  | phc _ _ first second => exact ⟨first, second⟩
  | salt _ known => exact known.1
  | output _ known => exact known.2
  | record _ _ _ first second third => exact ⟨first, second, third⟩
  | passwordHash _ known => exact known.1
  | nonce _ known => exact known.2.1
  | ciphertext _ known => exact known.2.2

/-- A record with a guarded term in place of the hash string does not yield the secret. -/
theorem not_derivable_of_guarded {passwordHash : Term} (guarded : passwordHash.Guarded) :
    ¬ Derivable (· = vaultTerm passwordHash identity password salt nonceBytes)
      (.secret identity.exportSecret) := by
  intro derived
  refine derived.guarded ?_
  rintro _ rfl
  -- The key is the digest of an output that needs the password.
  exact ⟨guarded, trivial, fun key => key.1.elim⟩

/-- The secret of a vault, from its bytes only. -/
def recover (V : VaultPrimitives) (data : Bytes) : Option Bytes := do
  let record ← VaultRecord.ofJson (← V.fromSlice data)
  let parsed ← V.parsePhc record.passwordHash
  V.decrypt (V.sha256 (← parsed.hash)) record.nonce record.ciphertext

/-- The bytes of every vault give its secret away. -/
theorem recover_seal (json : V.LawfulJson) (readsBack : V.ReadsBack (utf8 password) salt)
    (decrypts : V.Decrypts) {bytes : Bytes}
    (success : LocalVault.seal V identity password salt nonceBytes = .ok bytes) :
    recover V bytes = some identity.exportSecret.toList := by
  obtain ⟨output, ciphertext, _, parsed, encrypted, rfl⟩ := LocalVault.of_seal readsBack success
  have decrypted := decrypts _ _ _ _ encrypted
  simp [recover, json.compact, VaultRecord.ofJson_toJson, parsed, decrypted]

/-- The secret follows from the term of every vault. -/
theorem derivable_secret (identity : Identity) (password : String) (salt : Bytes)
    (nonceBytes : Vector UInt8 12) :
    Derivable (· = sealedTerm identity password salt nonceBytes)
      (.secret identity.exportSecret) := by
  have stored : Derivable (· = sealedTerm identity password salt nonceBytes)
      (sealedTerm identity password salt nonceBytes) := .given rfl
  -- The hash string ends in the output whose digest is the key.
  have output : Derivable (· = sealedTerm identity password salt nonceBytes)
      (.argon2 (.password password) (.constant salt)) := .output (.passwordHash stored)
  exact .decrypt (.ciphertext stored) (.sha256 output)

/-- The secret of every vault follows from what the vault outputs, without the password. -/
theorem vault_yields_secret (V : VaultPrimitives) (identity : Identity) (password : String)
    (salt : Bytes) (nonceBytes : Vector UInt8 12) (readsBack : V.ReadsBack (utf8 password) salt) :
    (LocalVault.seal V identity password salt nonceBytes).toOption =
        (sealedTerm identity password salt nonceBytes).denote V ∧
      Derivable (· = sealedTerm identity password salt nonceBytes)
        (.secret identity.exportSecret) :=
  ⟨toOption_seal readsBack, derivable_secret identity password salt nonceBytes⟩

namespace Reference

/-- The digits of numbers of six bits. -/
def base64Digits : List Char :=
  "ABCDEFGHIJKLMNOPQRSTUVWXYZabcdefghijklmnopqrstuvwxyz0123456789+/".toList

/-- Cut bytes into numbers of six bits. -/
def sextets : List Nat → List Nat
  | [] => []
  | [a] => [a / 4, a % 4 * 16]
  | [a, b] => [a / 4, a % 4 * 16 + b / 16, b % 16 * 4]
  | a :: b :: c :: rest =>
    a / 4 :: (a % 4 * 16 + b / 16) :: (b % 16 * 4 + c / 64) :: c % 64 :: sextets rest

/-- Put bytes together from numbers of six bits. -/
def ofSextets : List Nat → Option (List Nat)
  | [] => some []
  | [_] => none
  | [a, b] => some [a * 4 + b / 16]
  | [a, b, c] => some [a * 4 + b / 16, b % 16 * 16 + c / 4]
  | a :: b :: c :: d :: rest => do
    return (a * 4 + b / 16) :: (b % 16 * 16 + c / 4) :: (c % 4 * 64 + d) :: (← ofSextets rest)

/-- Spell bytes in base 64, without padding. -/
def base64 (bytes : Bytes) : List Char :=
  (sextets (bytes.map UInt8.toNat)).map fun sextet => base64Digits.getD sextet 'A'

/-- Read bytes in base 64. -/
def ofBase64 (digits : List Char) : Option Bytes := do
  let values ← digits.mapM (base64Digits.idxOf? ·)
  return (← ofSextets values).map UInt8.ofNat

/-- Hide a message, or show it again. -/
def masked (key : Bytes32) (nonce : Vector UInt8 12) (message : Bytes) : Bytes :=
  let mask := checksum (key.toList ++ nonce.toList)
  message.mapIdx fun position byte => byte ^^^ mask.toList.getD (position % 32) 0

/-- What is appended to a hidden message. -/
def vaultTag (key : Bytes32) (nonce : Vector UInt8 12) (message : Bytes) : Bytes :=
  (checksum (key.toList ++ nonce.toList ++ message)).toList.take 16

/-- Vaults that can be evaluated, whose hash strings are spelled as usual. -/
def vault : VaultPrimitives where
  toPrimitives := primitives
  settings := "argon2id$v=19$m=19456,t=2,p=1"
  argon2 _ password salt := some (checksum (password ++ salt)).toList
  phcString hashed := .ofList ('$' :: hashed.settings.toList ++
    (hashed.salt.elim [] fun salt => '$' :: base64 salt) ++
    (hashed.hash.elim [] fun output => '$' :: base64 output))
  parsePhc text :=
    match text.toList.splitOn '$' with
    | [[], algorithm, version, parameters, salt, output] => do
      return ⟨.ofList (algorithm ++ '$' :: version ++ '$' :: parameters), some (← ofBase64 salt),
        some (← ofBase64 output)⟩
    | _ => none
  encrypt key nonce message := some (masked key nonce message ++ vaultTag key nonce message)
  decrypt key nonce ciphertext :=
    let message := masked key nonce (ciphertext.take (ciphertext.length - 16))
    if ciphertext = masked key nonce message ++ vaultTag key nonce message then some message else none

/-- Documents read back, also those of vaults. -/
theorem lawfulJson_vault : vault.LawfulJson := lawfulJson

/-- A message that is hidden twice is shown. -/
theorem masked_masked (key : Bytes32) (nonce : Vector UInt8 12) (message : Bytes) :
    masked key nonce (masked key nonce message) = message := by
  apply List.ext_getElem
  · simp [masked]
  · intro position _ _
    simp [masked]

/-- What is encrypted decrypts. -/
theorem vault_decrypts : vault.Decrypts := by
  intro key nonce message ciphertext encrypted
  obtain rfl := Option.some.inj encrypted
  -- The tag has a fixed length, so the two parts are told apart again.
  have tail : (vaultTag key nonce message).length = 16 := by simp [vaultTag]
  have body : (masked key nonce message ++ vaultTag key nonce message).take
      ((masked key nonce message ++ vaultTag key nonce message).length - 16) =
        masked key nonce message := by
    rw [List.length_append, tail, Nat.add_sub_cancel, List.take_left']
    rfl
  simp only [vault, body, masked_masked, if_true]

/-- Every secret is sealed. -/
theorem exists_seal_vault {identity : Identity} {password : String} {salt : Bytes}
    {nonceBytes : Vector UInt8 12} (readsBack : vault.ReadsBack (utf8 password) salt) :
    ∃ bytes, LocalVault.seal vault identity password salt nonceBytes = .ok bytes := by
  have hashed : vault.argon2 vault.settings (utf8 password) salt =
      some (checksum (utf8 password ++ salt)).toList := rfl
  have encrypted (key : Bytes32) (message : Bytes) : vault.encrypt key nonceBytes message =
      some (masked key nonceBytes message ++ vaultTag key nonceBytes message) := rfl
  simp only [LocalVault.seal_eq readsBack, hashed, encrypted]
  exact ⟨_, rfl⟩

/-- The hash of a password is read back, here of one with a salt of sixteen bytes. -/
theorem vault_readsBack : vault.ReadsBack (utf8 "secret") (List.replicate 16 7) := by
  intro hashed made
  obtain rfl := Option.some.inj made
  decide +kernel

end Reference

/-- The secret of a vault under a common password follows from it. -/
theorem common_vault_yields_secret :
    (LocalVault.seal Reference.vault (Reference.identity 1) "secret" (List.replicate 16 7)
        (Vector.replicate 12 9)).toOption =
        (sealedTerm (Reference.identity 1) "secret" (List.replicate 16 7)
          (Vector.replicate 12 9)).denote Reference.vault ∧
      Derivable (· = sealedTerm (Reference.identity 1) "secret" (List.replicate 16 7)
        (Vector.replicate 12 9)) (.secret (Reference.identity 1).exportSecret) :=
  vault_yields_secret Reference.vault (Reference.identity 1) "secret" (List.replicate 16 7)
    (Vector.replicate 12 9) Reference.vault_readsBack

/-- That vault is sealed, its secret is recovered from the bytes, and it follows from the term. -/
theorem common_vault_is_not_secret :
    (∃ bytes, LocalVault.seal Reference.vault (Reference.identity 1) "secret" (List.replicate 16 7)
        (Vector.replicate 12 9) = .ok bytes ∧
      recover Reference.vault bytes = some (Reference.identity 1).exportSecret.toList) ∧
    ¬ ∀ identity password salt nonceBytes,
      ¬ Derivable (· = sealedTerm identity password salt nonceBytes)
        (.secret identity.exportSecret) := by
  refine ⟨?_, fun concealed => ?_⟩
  -- The vault exists, and the attack on its bytes succeeds.
  · obtain ⟨bytes, success⟩ := @Reference.exists_seal_vault (Reference.identity 1) "secret"
      (List.replicate 16 7) (Vector.replicate 12 9) Reference.vault_readsBack
    exact ⟨bytes, success, recover_seal Reference.lawfulJson_vault Reference.vault_readsBack
      Reference.vault_decrypts success⟩
  · exact concealed _ _ _ _
      (derivable_secret (Reference.identity 1) "secret" (List.replicate 16 7) (Vector.replicate 12 9))

end Awe
