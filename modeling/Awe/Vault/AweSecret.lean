import Awe.Reference
import Awe.Rust.Path
import Awe.Rust.PrefixCode
import Awe.Vault.LocalVault

/-! The file in which a user keeps an identity, signed by that identity, and how a node starts from it. -/

namespace Awe

open Rust Rust.Json

/-- The characters of usernames. -/
def usernameChar (c : Char) : Bool := c.isAlphanum || c == '_' || c == '-'

/-- A name of a user: short, not empty, of letters, digits, underscores and hyphens. -/
structure Username where
  text : String
  filled : text ≠ ""
  short : text.utf8ByteSize ≤ 64
  plain : text.toList.all usernameChar = true
deriving DecidableEq

/-- Take a text for a username. -/
def Username.new (value : String) : Except String Username :=
  if valid : value ≠ "" ∧ value.utf8ByteSize ≤ 64 ∧ value.toList.all usernameChar = true then
    .ok ⟨value, valid.1, valid.2.1, valid.2.2⟩
  else .error "invalid username"

/-- An identity with the name of its user. -/
structure NamedIdentity where
  username : Username
  identity : Identity
deriving DecidableEq

/-- An identity as it is kept in a file, all of it spelled out. -/
structure AweSecret where
  username : String
  aweId : String
  secretKey : String
  publicKey : String
  signature : String
deriving DecidableEq

/-- What other packages say is wrong with what they cannot read. -/
structure SecretErrors where
  /-- What `serde_json` says of a text. -/
  json : Bytes → String
  /-- What `hex` says of a text. -/
  hex : String → String
  /-- What the system says of a file that was not written as it should be. -/
  write : Written → String

namespace AweSecret

variable (P : Primitives)

/-- What is signed of a file. -/
def message (self : AweSecret) : String :=
  self.username ++ ":" ++ self.aweId ++ ":" ++ self.secretKey ++ ":" ++ self.publicKey

/-- The file of an identity, signed by it. -/
def generate (named : NamedIdentity) : AweSecret :=
  let unsigned : AweSecret := {
    username := named.username.text
    aweId := (named.identity.aweId P).toHex
    secretKey := hexEncode named.identity.exportSecret.toList
    publicKey := hexEncode (named.identity.publicKey P).toList
    signature := "" }
  { unsigned with
    signature := hexEncode (named.identity.sign P (utf8 unsigned.message)).toList }

/-- The document a file holds. -/
def toJson (self : AweSecret) : Json := .obj [
  ("username", .str self.username),
  ("awe_id", .str self.aweId),
  ("secret_key", .str self.secretKey),
  ("public_key", .str self.publicKey),
  ("signature", .str self.signature)]

/-- Read the document of a file. -/
def ofJson (document : Json) : Option AweSecret := do
  let fields ← asStruct ["username", "awe_id", "secret_key", "public_key", "signature"] document
  let username ← asString (← required fields "username")
  let aweId ← asString (← required fields "awe_id")
  let secretKey ← asString (← required fields "secret_key")
  let publicKey ← asString (← required fields "public_key")
  let signature ← asString (← required fields "signature")
  return { username, aweId, secretKey, publicKey, signature }

/-- The bytes of a file. -/
def toBytes (self : AweSecret) : Bytes := P.toVecPretty self.toJson

/-- Check that a file is signed by the identity it names. -/
def verifyIntegrity (self : AweSecret) : Except String Unit :=
  match hexDecode self.publicKey with
  | none => .error "Invalid public_key encoding in .awesecret"
  | some keyBytes =>
    match asWidth 32 keyBytes with
    | none => .error "Invalid public_key length in .awesecret"
    | some publicKey =>
      match hexDecode self.signature with
      | none => .error "Invalid signature encoding in .awesecret"
      | some signatureBytes =>
        match asWidth 64 signatureBytes with
        | none => .error "Invalid signature length in .awesecret"
        | some signature =>
          if (AweId.fromPublicKey P publicKey).toHex ≠ self.aweId then
            .error "Tampered .awesecret: AWE-ID does not match public key"
          else if !Identity.verify P publicKey (utf8 self.message) signature then
            .error "Tampered .awesecret: Cryptographic signature verification failed"
          else .ok ()

/-- Read a file. -/
def fromBytes (errors : SecretErrors) (bytes : Bytes) : Except String AweSecret :=
  match (P.fromSlice bytes).bind ofJson with
  | none => .error ("Invalid or corrupted .awesecret file: " ++ errors.json bytes)
  | some secret =>
    match secret.verifyIntegrity P with
    | .error error => .error error
    | .ok () => .ok secret

/-- The identity that a file keeps. -/
def authenticate (errors : SecretErrors) (self : AweSecret) : Except String NamedIdentity :=
  match self.verifyIntegrity P with
  | .error error => .error error
  | .ok () =>
    match Username.new self.username with
    | .error error => .error error
    | .ok username =>
      match hexDecode self.secretKey with
      | none => .error (errors.hex self.secretKey)
      | some secretBytes =>
        match asWidth 32 secretBytes with
        | none => .error "Invalid secret key length in .awesecret"
        | some secret =>
          let identity := Identity.fromSecret secret
          if (identity.aweId P).toHex ≠ self.aweId then
            .error "Mismatching AWE-ID in .awesecret"
          -- The public key was decoded before, so it can be again.
          else if some (identity.publicKey P).toList ≠ hexDecode self.publicKey then
            .error "Mismatching public key in .awesecret"
          else .ok ⟨username, identity⟩

end AweSecret

/-- The identity a node starts with: the one of its file, or a new one that is written there. -/
def startIdentity (P : Primitives) (errors : SecretErrors) (path : String)
    (write : Written) (drawn : Bytes32) (files : Files) : Except String NamedIdentity × Files :=
  match files[path]? with
  | some content =>
    ((AweSecret.fromBytes P errors content).bind (AweSecret.authenticate P errors), files)
  | none =>
    match Username.new "awe-node" with
    | .error error => (.error error, files)
    | .ok username =>
      let named : NamedIdentity := ⟨username, .fromSecret drawn⟩
      let files := files.attempt path ((AweSecret.generate P named).toBytes P) write
      -- A node that cannot keep its identity does not start, and may leave half a file.
      match write with
      | .done => (.ok named, files)
      | _ => (.error (errors.write write), files)

/-- What a node starts with each time it is started. -/
def restarts (P : Primitives) (errors : SecretErrors) (path : String) :
    List (Written × Bytes32) → Files → List (Except String NamedIdentity) × Files
  | [], files => ([], files)
  | (write, drawn) :: later, files =>
    let (started, files) := startIdentity P errors path write drawn files
    let (others, files) := restarts P errors path later files
    (started :: others, files)

/-- A username is taken as it is. -/
theorem Username.new_text (username : Username) : Username.new username.text = .ok username := by
  rw [Username.new, dif_pos ⟨username.filled, username.short, username.plain⟩]

/-- The username that is taken for a text is that text. -/
theorem Username.text_of_new {value : String} {username : Username}
    (taken : Username.new value = .ok username) : username.text = value := by
  unfold Username.new at taken
  split at taken
  · cases taken
    rfl
  · cases taken

/-- A text that spells bytes holds digits only. -/
theorem isSome_of_hexPairs {bytes decoded : Bytes} (spelled : hexPairs bytes = some decoded) :
    ∀ digit ∈ bytes, (hexValue digit).isSome = true := by
  induction bytes using hexPairs.induct generalizing decoded with
  | case1 => exact fun digit member => by cases member
  | case2 digit => cases spelled
  | case3 high low rest ih =>
    -- Both digits of a pair have a value, and so do those of the rest.
    rw [hexPairs] at spelled
    obtain ⟨first, isFirst, spelled⟩ := Option.bind_eq_some_iff.mp spelled
    obtain ⟨second, isSecond, spelled⟩ := Option.bind_eq_some_iff.mp spelled
    obtain ⟨others, isOthers, _⟩ := Option.bind_eq_some_iff.mp spelled
    intro digit member
    rcases List.mem_cons.mp member with rfl | member
    · rw [isFirst]
      rfl
    · rcases List.mem_cons.mp member with rfl | member
      · rw [isSecond]
        rfl
      · exact ih isOthers digit member

/-- A text that spells bytes has no colon. -/
theorem colon_not_mem_of_hexDecode {text : String} {decoded : Bytes}
    (spelled : hexDecode text = some decoded) : ':' ∉ text.toList := by
  intro colon
  -- A colon is a byte of its own, and that byte is no digit.
  have byte : (58 : UInt8) ∈ utf8 text := by
    rw [← String.ofList_toList (s := text), utf8_ofList]
    exact List.mem_flatMap.mpr ⟨':', colon, by decide⟩
  exact absurd (isSome_of_hexPairs spelled 58 byte) (by decide)

namespace AweSecret

variable {P : Primitives} {self other : AweSecret} {errors : SecretErrors} {named : NamedIdentity}

/-- A file reads back. -/
theorem ofJson_toJson (secret : AweSecret) : ofJson secret.toJson = some secret := by
  -- Each field is looked up first, so that the record is put together from known values.
  obtain ⟨fields, written⟩ : ∃ fields, secret.toJson = .obj fields := ⟨_, rfl⟩
  have same := Json.obj.inj written
  have username : required fields "username" = some (.str secret.username) := by
    simp [← same, required]
  have aweId : required fields "awe_id" = some (.str secret.aweId) := by simp [← same, required]
  have secretKey : required fields "secret_key" = some (.str secret.secretKey) := by
    simp [← same, required]
  have publicKey : required fields "public_key" = some (.str secret.publicKey) := by
    simp [← same, required]
  have signature : required fields "signature" = some (.str secret.signature) := by
    simp [← same, required]
  rw [written, ofJson, asStruct, Option.bind_eq_bind, Option.bind_some,
    read_field username (asString_str _), read_field aweId (asString_str _),
    read_field secretKey (asString_str _), read_field publicKey (asString_str _),
    read_field signature (asString_str _)]
  rfl

/-- A file is sound exactly if it spells a key and a signature, names the identifier of the key, and
the signature is one of its other fields under the key. -/
theorem verifyIntegrity_iff : self.verifyIntegrity P = .ok () ↔
    ∃ (publicKey : Bytes32) (signature : Bytes64),
      hexDecode self.publicKey = some publicKey.toList ∧
      hexDecode self.signature = some signature.toList ∧
      (AweId.fromPublicKey P publicKey).toHex = self.aweId ∧
      Identity.verify P publicKey (utf8 self.message) signature = true := by
  constructor
  -- Each check that passes gives one of the parts.
  · intro sound
    unfold verifyIntegrity at sound
    split at sound
    · cases sound
    · rename_i keyBytes key
      split at sound
      · cases sound
      · rename_i publicKey keyFits
        split at sound
        · cases sound
        · rename_i signatureBytes stamp
          split at sound
          · cases sound
          · rename_i signature stampFits
            split at sound
            · cases sound
            · rename_i named
              split at sound
              · cases sound
              · rename_i verified
                refine ⟨publicKey, signature, ?_, ?_, not_not.mp named, by simpa using verified⟩
                · rw [key, toList_of_asWidth keyFits]
                · rw [stamp, toList_of_asWidth stampFits]
  -- With all parts at hand, the checks pass one after the other.
  · rintro ⟨publicKey, signature, key, stamp, named, verified⟩
    rw [verifyIntegrity, key]
    dsimp only
    rw [asWidth_toList, stamp]
    dsimp only
    rw [asWidth_toList]
    dsimp only
    rw [if_neg (not_not.mpr named), verified]
    rfl

/-- What an authentic file holds: the spelling of an identity, and its signature. -/
structure Keeps (P : Primitives) (secret : AweSecret) (named : NamedIdentity) : Prop where
  username : secret.username = named.username.text
  secretKey : hexDecode secret.secretKey = some named.identity.signingKey.toList
  publicKey : hexDecode secret.publicKey = some (named.identity.publicKey P).toList
  aweId : secret.aweId = (named.identity.aweId P).toHex
  signed : ∃ signature : Bytes64, hexDecode secret.signature = some signature.toList ∧
    Identity.verify P (named.identity.publicKey P) (utf8 secret.message) signature = true

/-- What keeps an identity is sound. -/
theorem Keeps.sound (keeps : self.Keeps P named) : self.verifyIntegrity P = .ok () := by
  obtain ⟨signature, stamp, verified⟩ := keeps.signed
  exact verifyIntegrity_iff.mpr
    ⟨_, signature, keeps.publicKey, stamp, keeps.aweId.symm, verified⟩

/-- A file authenticates exactly as the identity it keeps. -/
theorem authenticate_eq_ok : self.authenticate P errors = .ok named ↔ self.Keeps P named := by
  constructor
  -- Each check that passes fixes one of the fields.
  · intro success
    unfold authenticate at success
    split at success
    · cases success
    · rename_i sound
      split at success
      · cases success
      · rename_i username taken
        split at success
        · cases success
        · rename_i secretBytes spelled
          split at success
          · cases success
          · rename_i secret fits
            dsimp only at success
            split at success
            · cases success
            · rename_i sameId
              split at success
              · cases success
              · rename_i sameKey
                cases success
                -- The signature is under the key in the file, which is that of the secret.
                obtain ⟨publicKey, signature, key, stamp, _, verified⟩ :=
                  verifyIntegrity_iff.mp sound
                have own : hexDecode self.publicKey = some _ := (not_not.mp sameKey).symm
                have same := Option.some.inj (key.symm.trans own)
                rw [Vector.toList_inj.mp same] at verified
                exact ⟨(Username.text_of_new taken).symm,
                  spelled.trans (congrArg some (toList_of_asWidth fits).symm), own,
                  (not_not.mp sameId).symm, signature, stamp, verified⟩
  -- The other way, every check is about a field that is known.
  · intro keeps
    rw [authenticate, keeps.sound]
    dsimp only
    rw [keeps.username, Username.new_text, keeps.secretKey]
    dsimp only
    have same : Identity.fromSecret named.identity.signingKey = named.identity := rfl
    rw [asWidth_toList]
    dsimp only
    rw [same, if_neg (not_not.mpr keeps.aweId.symm),
      if_neg (not_not.mpr keeps.publicKey.symm)]

/-- What is made of an identity keeps it. -/
theorem keeps_generate (honest : P.HonestSignaturesVerify) (named : NamedIdentity) :
    Keeps P (generate P named) named where
  username := rfl
  secretKey := hexDecode_hexEncode _
  publicKey := hexDecode_hexEncode _
  aweId := rfl
  signed := ⟨_, hexDecode_hexEncode _, named.identity.verify_sign honest _⟩

/-- No field in front of another has the mark that ends it. -/
theorem Keeps.clean (keeps : self.Keeps P named) : ':' ∉ self.username.toList ∧
    ':' ∉ self.aweId.toList ∧ ':' ∉ self.secretKey.toList := by
  refine ⟨fun colon => ?_, ?_, colon_not_mem_of_hexDecode keeps.secretKey⟩
  -- A username has only characters that it may have.
  · rw [keeps.username] at colon
    exact absurd (List.all_eq_true.mp named.username.plain ':' colon) (by decide)
  -- Identifiers and keys are spelled in digits.
  · rw [keeps.aweId]
    exact not_mem_hexEncode (by decide) _

/-- The signed text of a file, field by field. -/
theorem toList_message (secret : AweSecret) : secret.message.toList =
    (secret.username.toList ++ [':']) ++ ((secret.aweId.toList ++ [':']) ++
      ((secret.secretKey.toList ++ [':']) ++ secret.publicKey.toList)) := by
  simp [message, String.toList_append]

/-- An identity is what its name and its key make it. -/
theorem NamedIdentity.ext_of {left right : NamedIdentity}
    (username : left.username.text = right.username.text)
    (signingKey : left.identity.signingKey = right.identity.signingKey) : left = right := by
  obtain ⟨⟨_, _, _, _⟩, ⟨_⟩⟩ := left
  obtain ⟨⟨_, _, _, _⟩, ⟨_⟩⟩ := right
  cases username
  cases signingKey
  rfl

end AweSecret

section Starting

variable {P : Primitives} {errors : SecretErrors} {path : String} {write : Written}
  {drawn : Bytes32} {files after : Files} {named : NamedIdentity}

/-- The files hold, at a path, what keeps an identity. -/
def Files.Keep (P : Primitives) (files : Files) (path : String) (named : NamedIdentity) : Prop :=
  ∃ content secret, files[path]? = some content ∧
    (P.fromSlice content).bind AweSecret.ofJson = some secret ∧ secret.Keeps P named

/-- A node whose file keeps an identity starts with it, and leaves the file as it is. -/
theorem Files.Keep.start (kept : Files.Keep P files path named) :
    startIdentity P errors path write drawn files = (.ok named, files) := by
  obtain ⟨content, secret, stored, read, keeps⟩ := kept
  -- The file is read and found sound, so it only remains to authenticate it.
  have sound : AweSecret.fromBytes P errors content = .ok secret := by
    rw [AweSecret.fromBytes, read]
    dsimp only
    rw [keeps.sound]
  rw [startIdentity, stored]
  dsimp only
  rw [sound]
  exact congrArg (·, files) (AweSecret.authenticate_eq_ok.mpr keeps)

/-- A node that starts has a file that keeps the identity it starts with. -/
theorem Files.keep_of_start (honest : P.HonestSignaturesVerify) (json : P.LawfulJson)
    (started : startIdentity P errors path write drawn files = (.ok named, after)) :
    Files.Keep P after path named := by
  unfold startIdentity at started
  split at started
  -- There was a file, which has authenticated.
  · rename_i content stored
    obtain ⟨success, rfl⟩ := Prod.mk.inj started
    unfold AweSecret.fromBytes at success
    split at success
    · cases success
    · rename_i secret document
      split at success
      · cases success
      · exact ⟨content, secret, stored, document, AweSecret.authenticate_eq_ok.mp success⟩
  -- There was none, so one was made of what was drawn, and written.
  · split at started
    · cases started
    · dsimp only at started
      split at started
      · cases started
        refine ⟨_, _, Std.ExtTreeMap.getElem?_insert_self, ?_, AweSecret.keeps_generate honest _⟩
        rw [AweSecret.toBytes, json.pretty, Option.bind_some, AweSecret.ofJson_toJson]
      · cases started

/-- A start writes at most its own file. -/
theorem getElem?_startIdentity {other : String} (elsewhere : other ≠ path) :
    (startIdentity P errors path write drawn files).2[other]? = files[other]? := by
  unfold startIdentity
  split
  · rfl
  · split
    · rfl
    · dsimp only
      split <;> exact Files.getElem?_attempt_of_ne elsewhere _

/-- A node whose file keeps an identity starts with it every time. -/
theorem Files.Keep.restarts (kept : Files.Keep P files path named)
    (times : List (Written × Bytes32)) :
    restarts P errors path times files = (times.map fun _ => .ok named, files) := by
  induction times with
  | nil => rfl
  | cons time later ih =>
    obtain ⟨write, drawn⟩ := time
    rw [Awe.restarts, kept.start]
    dsimp only
    rw [ih]
    rfl

end Starting

/-- A node that has started once starts with the same identity every time after that, whatever is
drawn and whatever becomes of its writes: its file keeps that identity, and no other file changed. -/
theorem restarts_keep_the_identity (P : Primitives) (honest : P.HonestSignaturesVerify)
    (json : P.LawfulJson) (errors : SecretErrors) (path : String) (write : Written)
    (drawn : Bytes32) (files after : Files) (named : NamedIdentity)
    (started : startIdentity P errors path write drawn files = (.ok named, after))
    (times : List (Written × Bytes32)) :
    restarts P errors path times after = (times.map fun _ => .ok named, after) ∧
      Files.Keep P after path named ∧ ∀ other ≠ path, after[other]? = files[other]? := by
  have kept := Files.keep_of_start honest json started
  refine ⟨kept.restarts times, kept, fun other elsewhere => ?_⟩
  -- The first start may have written its file, and the later ones nothing.
  have files : after = (startIdentity P errors path write drawn files).2 :=
    (congrArg Prod.snd started).symm
  rw [files]
  exact getElem?_startIdentity elsewhere

/-- The name every node goes by. -/
def nodeUsername : Username := ⟨"awe-node", by decide, by decide, by decide⟩

/-- A node without a file starts with the identity that was drawn, and keeps it. -/
theorem startIdentity_of_absent {P : Primitives} {errors : SecretErrors} {path : String}
    {drawn : Bytes32} {files : Files} (absent : files[path]? = none) :
    startIdentity P errors path .done drawn files = (.ok ⟨nodeUsername, .fromSecret drawn⟩,
      files.insert path ((AweSecret.generate P ⟨nodeUsername, .fromSecret drawn⟩).toBytes P)) := by
  have taken : Username.new "awe-node" = .ok nodeUsername := Username.new_text nodeUsername
  rw [startIdentity, absent]
  dsimp only
  rw [taken]
  rfl

/-- A node that was started on an empty disk is who it was when the disk is full, too. -/
theorem full_disk_keeps_the_identity :
    let started : NamedIdentity := ⟨nodeUsername, Reference.identity 1⟩
    let files : Files := (∅ : Files).insert "node.awesecret"
      ((AweSecret.generate Reference.primitives started).toBytes Reference.primitives)
    restarts Reference.primitives ⟨fun _ => "", fun _ => "", fun _ => ""⟩ "node.awesecret"
      [(.broken [], Reference.key 2), (.done, Reference.key 3)] files =
      ([.ok started, .ok started], files) :=
  (restarts_keep_the_identity Reference.primitives Reference.honestSignaturesVerify
    Reference.lawfulJson ⟨fun _ => "", fun _ => "", fun _ => ""⟩ "node.awesecret" .done
    (Reference.key 1) ∅ _ ⟨nodeUsername, Reference.identity 1⟩
    (startIdentity_of_absent Std.ExtTreeMap.getElem?_empty)
    [(.broken [], Reference.key 2), (.done, Reference.key 3)]).1

/-- Two authentic files with the same signed text keep the same identity, spelled alike: what is
signed leaves open nothing but the spelling of the signature. -/
theorem signed_text_names_one_identity (P : Primitives) (errors : SecretErrors)
    {secret other : AweSecret} {named otherNamed : NamedIdentity}
    (authentic : secret.authenticate P errors = .ok named)
    (otherAuthentic : other.authenticate P errors = .ok otherNamed)
    (same : secret.message = other.message) :
    other = { secret with signature := other.signature } ∧ named = otherNamed := by
  have keeps := AweSecret.authenticate_eq_ok.mp authentic
  have otherKeeps := AweSecret.authenticate_eq_ok.mp otherAuthentic
  obtain ⟨usernameClean, aweIdClean, secretKeyClean⟩ := keeps.clean
  obtain ⟨otherUsernameClean, otherAweIdClean, otherSecretKeyClean⟩ := otherKeeps.clean
  have texts := congrArg String.toList same
  rw [AweSecret.toList_message, AweSecret.toList_message] at texts
  -- Each field ends at the first colon, and the last one where the text does.
  obtain ⟨username, texts⟩ := (prefixFree_terminated ':').split usernameClean
    otherUsernameClean texts
  obtain ⟨aweId, texts⟩ := (prefixFree_terminated ':').split aweIdClean otherAweIdClean texts
  obtain ⟨secretKey, publicKey⟩ := (prefixFree_terminated ':').split secretKeyClean
    otherSecretKeyClean texts
  have alike : other = { secret with signature := other.signature } := by
    cases other
    simp only [AweSecret.mk.injEq, and_true]
    exact ⟨(String.toList_inj.mp username).symm, (String.toList_inj.mp aweId).symm,
      (String.toList_inj.mp secretKey).symm, (String.toList_inj.mp publicKey).symm⟩
  refine ⟨alike, AweSecret.NamedIdentity.ext_of ?_ (Vector.toList_inj.mp (Option.some.inj ?_))⟩
  -- What the fields spell is the same, so the identities are.
  · rw [← keeps.username, ← otherKeeps.username, String.toList_inj.mp username]
  · rw [← keeps.secretKey, ← otherKeeps.secretKey, String.toList_inj.mp secretKey]

/-- What is signed leaves the signature out. -/
theorem AweSecret.message_with_signature (self : AweSecret) (signature : String) :
    { self with signature }.message = self.message := rfl

/-- A file is made with the signature of what is signed. -/
theorem AweSecret.signature_generate (P : Primitives) (named : NamedIdentity) :
    (AweSecret.generate P named).signature =
      hexEncode (named.identity.sign P (utf8 (AweSecret.generate P named).message)).toList := rfl

/-- An identity to keep. -/
def keptIdentity : NamedIdentity := ⟨nodeUsername, Reference.identity 171⟩

/-- The file of that identity. -/
def keptFile : AweSecret := AweSecret.generate Reference.primitives keptIdentity

/-- The signature in that file. -/
def keptSignature : Bytes64 := keptIdentity.identity.sign Reference.primitives (utf8 keptFile.message)

/-- The same file, but for the first byte of its signature, which is spelled in upper case. -/
def respelledFile : AweSecret :=
  { keptFile with
    signature := .ofList ('A' :: 'B' :: keptSignature.toList.tail.flatMap hexPair) }

/-- What is signed does not tell the files apart. -/
theorem message_respelledFile : respelledFile.message = keptFile.message :=
  keptFile.message_with_signature _

/-- The signature begins with that byte. -/
theorem toList_keptSignature : keptSignature.toList = 171 :: keptSignature.toList.tail := by
  have stamped : keptSignature.toList = (Reference.key 171).toList ++
      (Reference.checksum (utf8 keptFile.message)).toList := Vector.toList_append
  have first : (Reference.key 171).toList = 171 :: List.replicate 31 171 := by decide
  rw [stamped, first]
  rfl

/-- Both spellings are read as the signature. -/
theorem hexDecode_respelledFile :
    hexDecode respelledFile.signature = some keptSignature.toList := by
  have rest := hexDecode_hexEncode keptSignature.toList.tail
  rw [hexDecode, hexEncode, utf8_ofList] at rest
  have bytes : utf8 respelledFile.signature =
      65 :: 66 :: (keptSignature.toList.tail.flatMap hexPair).flatMap String.utf8EncodeChar :=
    utf8_ofList _
  rw [hexDecode, bytes, hexPairs, rest, toList_keptSignature]
  rfl

/-- The file authenticates as the identity it was made of. -/
theorem authenticate_keptFile (errors : SecretErrors) :
    keptFile.authenticate Reference.primitives errors = .ok keptIdentity :=
  AweSecret.authenticate_eq_ok.mpr
    (AweSecret.keeps_generate Reference.honestSignaturesVerify keptIdentity)

/-- So does the file with the other spelling. -/
theorem authenticate_respelledFile (errors : SecretErrors) :
    respelledFile.authenticate Reference.primitives errors = .ok keptIdentity := by
  have keeps := AweSecret.keeps_generate Reference.honestSignaturesVerify keptIdentity
  refine AweSecret.authenticate_eq_ok.mpr
    ⟨keeps.username, keeps.secretKey, keeps.publicKey, keeps.aweId, keptSignature,
      hexDecode_respelledFile, ?_⟩
  rw [message_respelledFile]
  exact keptIdentity.identity.verify_sign Reference.honestSignaturesVerify _

/-- Two spellings of the signature make two files, which keep one identity. -/
theorem kept_file_names_one_identity :
    let errors : SecretErrors := ⟨fun _ => "", fun _ => "", fun _ => ""⟩
    ∃ named other, keptFile.authenticate Reference.primitives errors = .ok named ∧
      respelledFile.authenticate Reference.primitives errors = .ok other ∧ named = other ∧
      respelledFile = { keptFile with signature := respelledFile.signature } ∧
      respelledFile ≠ keptFile := by
  intro errors
  obtain ⟨alike, same⟩ := signed_text_names_one_identity Reference.primitives errors
    (authenticate_keptFile errors) (authenticate_respelledFile errors) message_respelledFile.symm
  refine ⟨keptIdentity, keptIdentity, authenticate_keptFile errors,
    authenticate_respelledFile errors, same, alike, fun equal => ?_⟩
  -- The spellings differ in their first digit.
  have texts := congrArg (fun secret => secret.signature.toList.head?) equal
  have kept : keptFile.signature.toList = hexPair 171 ++
      keptSignature.toList.tail.flatMap hexPair := by
    have spelled : keptFile.signature = hexEncode keptSignature.toList :=
      AweSecret.signature_generate Reference.primitives keptIdentity
    rw [spelled, toList_keptSignature, hexEncode, String.toList_ofList, List.flatMap_cons]
    rfl
  have respelled : respelledFile.signature.toList = 'A' :: 'B' ::
      keptSignature.toList.tail.flatMap hexPair := by
    simp only [respelledFile, String.toList_ofList]
  rw [kept, respelled] at texts
  exact absurd texts (by decide)

end Awe
