import Awe.Identity
import Awe.Rust.Serde

/-! The record in which the secret of an identity is kept under a password. -/

namespace Awe

open Rust Rust.Json

/-- Which vaults are written and read. -/
def vaultVersion : UInt16 := 1

/-- Why a vault is not sealed or not opened. -/
inductive VaultError where
  | invalidFormat
  | invalidPassword
  | encryption
  | passwordHash
deriving DecidableEq

/-- What a password hash string says: how it was made, its salt and the output. -/
structure PasswordHash where
  settings : String
  salt : Option Bytes
  hash : Option Bytes
deriving DecidableEq

/-- The functions a vault takes from other packages. -/
structure VaultPrimitives extends Primitives where
  /-- The algorithm, the version and the parameters of `Argon2::default`. -/
  settings : String
  /-- The output of Argon2 with some settings, from a password and a salt. -/
  argon2 : String → Bytes → Bytes → Option Bytes
  /-- `PasswordHash::to_string`. -/
  phcString : PasswordHash → String
  /-- `PasswordHash::new`. -/
  parsePhc : String → Option PasswordHash
  /-- `ChaCha20Poly1305::encrypt` under a key, on a nonce and a message. -/
  encrypt : Bytes32 → Vector UInt8 12 → Bytes → Option Bytes
  /-- `ChaCha20Poly1305::decrypt` under a key, on a nonce and a ciphertext. -/
  decrypt : Bytes32 → Vector UInt8 12 → Bytes → Option Bytes

namespace VaultPrimitives

variable (V : VaultPrimitives)

/-- Hash a password: the output goes with its salt and settings. -/
def hashPassword (password salt : Bytes) : Option PasswordHash :=
  (V.argon2 V.settings password salt).map fun output => ⟨V.settings, some salt, some output⟩

/-- Hash a password again with the settings and the salt of a hash, and compare the outputs. -/
def verifyPassword (password : Bytes) (parsed : PasswordHash) : Bool :=
  match parsed.salt, parsed.hash with
  | some salt, some expected => V.argon2 parsed.settings password salt = some expected
  | _, _ => false

/-- The hash of a password is read back from its string. -/
def ReadsBack (password salt : Bytes) : Prop :=
  ∀ hashed, V.hashPassword password salt = some hashed → V.parsePhc (V.phcString hashed) = some hashed

/-- What is encrypted decrypts under the same key and nonce. -/
def Decrypts : Prop :=
  ∀ key nonce message ciphertext, V.encrypt key nonce message = some ciphertext →
    V.decrypt key nonce ciphertext = some message

end VaultPrimitives

/-- What a vault stores. -/
structure VaultRecord where
  version : UInt16
  passwordHash : String
  nonce : Vector UInt8 12
  ciphertext : Bytes
deriving DecidableEq

namespace VaultRecord

/-- The document a record is written as. -/
def toJson (self : VaultRecord) : Json := .obj [
  ("version", .num self.version.toNat),
  ("password_hash", .str self.passwordHash),
  ("nonce", .ofBytes self.nonce.toList),
  ("ciphertext", .ofBytes self.ciphertext)]

/-- Read a record. -/
def ofJson (document : Json) : Option VaultRecord := do
  let fields ← asStruct ["version", "password_hash", "nonce", "ciphertext"] document
  let version ← asUnsigned 65535 (← required fields "version")
  let passwordHash ← asString (← required fields "password_hash")
  let nonce ← asBytes 12 (← required fields "nonce")
  let ciphertext ← asByteList (← required fields "ciphertext")
  return { version := .ofNat version, passwordHash, nonce, ciphertext }

/-- A record reads back. -/
theorem ofJson_toJson (vault : VaultRecord) : ofJson vault.toJson = some vault := by
  simp [ofJson, toJson, asStruct, required, asString]

end VaultRecord

/-- The secret of an identity. -/
def Identity.exportSecret (self : Identity) : Bytes32 := self.signingKey

/-- The identity of a secret. -/
def Identity.fromSecret (secret : Bytes32) : Identity := ⟨secret⟩

/-- Keep the secret of an identity under a password; the salt and the nonce were drawn at random. -/
def LocalVault.seal (V : VaultPrimitives) (identity : Identity) (password : String) (salt : Bytes)
    (nonceBytes : Vector UInt8 12) : Except VaultError Bytes :=
  match V.hashPassword (utf8 password) salt with
  | none => .error .passwordHash
  | some hashed =>
    let passwordHash := V.phcString hashed
    match V.parsePhc passwordHash with
    | none => .error .passwordHash
    | some parsed =>
      match parsed.hash with
      | none => .error .passwordHash
      | some keyMaterial =>
        let key := V.sha256 keyMaterial
        match V.encrypt key nonceBytes identity.exportSecret.toList with
        | none => .error .encryption
        | some ciphertext =>
          .ok (V.toVec (VaultRecord.toJson ⟨vaultVersion, passwordHash, nonceBytes, ciphertext⟩))

/-- Read the identity back whose secret is kept under a password. -/
def LocalVault.open (V : VaultPrimitives) (data : Bytes) (password : String) :
    Except VaultError Identity :=
  match (V.fromSlice data).bind VaultRecord.ofJson with
  | none => .error .invalidFormat
  | some record =>
    if record.version ≠ vaultVersion then .error .invalidFormat
    else
      match V.parsePhc record.passwordHash with
      | none => .error .invalidFormat
      | some parsed =>
        if !V.verifyPassword (utf8 password) parsed then .error .invalidPassword
        else
          match parsed.hash with
          | none => .error .invalidFormat
          | some keyMaterial =>
            let key := V.sha256 keyMaterial
            match V.decrypt key record.nonce record.ciphertext with
            | none => .error .invalidPassword
            | some secret =>
              match asWidth 32 secret with
              | none => .error .invalidFormat
              | some bytes => .ok (.fromSecret bytes)

variable {V : VaultPrimitives} {identity : Identity} {password : String} {salt : Bytes}
  {nonceBytes : Vector UInt8 12}

/-- What is sealed is a record whose hash string holds the output that gives the key. -/
theorem LocalVault.seal_eq (readsBack : V.ReadsBack (utf8 password) salt) :
    LocalVault.seal V identity password salt nonceBytes =
      match V.argon2 V.settings (utf8 password) salt with
      | none => .error .passwordHash
      | some output =>
        match V.encrypt (V.sha256 output) nonceBytes identity.exportSecret.toList with
        | none => .error .encryption
        | some ciphertext => .ok (V.toVec (VaultRecord.toJson ⟨vaultVersion,
            V.phcString ⟨V.settings, some salt, some output⟩, nonceBytes, ciphertext⟩)) := by
  cases hashed : V.argon2 V.settings (utf8 password) salt with
  | none => simp [LocalVault.seal, VaultPrimitives.hashPassword, hashed]
  | some output =>
    -- What was printed a moment ago is parsed again, and gives the output back.
    have parsed := readsBack ⟨V.settings, some salt, some output⟩
      (by simp [VaultPrimitives.hashPassword, hashed])
    simp [LocalVault.seal, VaultPrimitives.hashPassword, hashed, parsed]

/-- What was sealed is a record of an output and a ciphertext under its digest. -/
theorem LocalVault.of_seal {bytes : Bytes} (readsBack : V.ReadsBack (utf8 password) salt)
    (success : LocalVault.seal V identity password salt nonceBytes = .ok bytes) :
    ∃ output ciphertext, V.argon2 V.settings (utf8 password) salt = some output ∧
      V.parsePhc (V.phcString ⟨V.settings, some salt, some output⟩) =
        some ⟨V.settings, some salt, some output⟩ ∧
      V.encrypt (V.sha256 output) nonceBytes identity.exportSecret.toList = some ciphertext ∧
      bytes = V.toVec (VaultRecord.toJson ⟨vaultVersion,
        V.phcString ⟨V.settings, some salt, some output⟩, nonceBytes, ciphertext⟩) := by
  rw [LocalVault.seal_eq readsBack] at success
  -- Sealing fails where hashing or encryption does, and otherwise writes one record.
  cases hashed : V.argon2 V.settings (utf8 password) salt with
  | none => simp [hashed] at success
  | some output =>
    rw [hashed] at success
    dsimp only at success
    cases encrypted : V.encrypt (V.sha256 output) nonceBytes identity.exportSecret.toList with
    | none => simp [encrypted] at success
    | some ciphertext =>
      rw [encrypted] at success
      have parsed := readsBack ⟨V.settings, some salt, some output⟩
        (by simp [VaultPrimitives.hashPassword, hashed])
      exact ⟨output, ciphertext, rfl, parsed, encrypted, (Except.ok.inj success).symm⟩

/-- A vault opens with the password it was sealed with. -/
theorem LocalVault.open_seal (json : V.LawfulJson) (readsBack : V.ReadsBack (utf8 password) salt)
    (decrypts : V.Decrypts) {bytes : Bytes}
    (success : LocalVault.seal V identity password salt nonceBytes = .ok bytes) :
    LocalVault.open V bytes password = .ok identity := by
  obtain ⟨output, ciphertext, hashed, parsed, encrypted, rfl⟩ := LocalVault.of_seal readsBack success
  have decrypted := decrypts _ _ _ _ encrypted
  simp [LocalVault.open, json.compact, VaultRecord.ofJson_toJson, parsed, hashed, decrypted,
    VaultPrimitives.verifyPassword, Identity.exportSecret, Identity.fromSecret]

/-- A vault does not open with a password that hashes otherwise. -/
theorem LocalVault.open_seal_of_other (json : V.LawfulJson)
    (readsBack : V.ReadsBack (utf8 password) salt) {bytes : Bytes}
    (success : LocalVault.seal V identity password salt nonceBytes = .ok bytes) {other : String}
    (apart : V.argon2 V.settings (utf8 other) salt ≠ V.argon2 V.settings (utf8 password) salt) :
    LocalVault.open V bytes other = .error .invalidPassword := by
  -- The other password fails at the comparison of the outputs, before anything is decrypted.
  obtain ⟨output, ciphertext, hashed, parsed, _, rfl⟩ := LocalVault.of_seal readsBack success
  rw [hashed] at apart
  simp [LocalVault.open, json.compact, VaultRecord.ofJson_toJson, parsed, apart,
    VaultPrimitives.verifyPassword]

end Awe
