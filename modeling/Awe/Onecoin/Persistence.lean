import Awe.Onecoin.Backing

/-! The node's ledger file: what is written after a run, and what the next start makes of it. -/

namespace Awe

open Rust OnecoinLedger

/--
The bytes the transfer dispatcher writes for a ledger.

A ledger that has no document is written as an empty file.
-/
def dispatcherBytes (P : Primitives) (ledger : OnecoinLedger) : Bytes :=
  (ledger.toJson.map P.toVecPretty).getD []

/-- The ledger a node reads at start-up, anything unreadable being the default ledger. -/
def readLedger (P : Primitives) (file : Option Bytes) : OnecoinLedger :=
  ((file.bind P.fromSlice).bind OnecoinLedger.ofJson).getD .default

/-- The ledger a node runs with after start-up, which makes a genesis of its own when it is empty. -/
def startUp (P : Primitives) (own : AweId) (file : Option Bytes) : Except String OnecoinLedger :=
  let ledger := readLedger P file
  if ledger.members.isEmpty then
    match (initializeGenesis [own]).run ledger with
    | (.ok (), seeded) =>
      -- The fresh genesis is written before the node goes on.
      if seeded.toJson.isSome then .ok seeded else .error "key must be a string"
    | (.error message, _) => .error message
  else .ok ledger

/--
What the node writes for a ledger reloads to that ledger, on both storage paths.

A start after any change of the ledger makes no fresh genesis.
-/
def OnecoinLedger.SurvivesRestart (P : Primitives) (own : AweId) (l : OnecoinLedger) : Prop :=
  readLedger P (some (dispatcherBytes P l)) = l ∧
  (l ≠ .default → startUp P own (some (dispatcherBytes P l)) = .ok l) ∧
  PersistentOnecoinLedger.save P l ≠ .error "ledger serialization failed" ∧
  ∀ bytes, PersistentOnecoinLedger.save P l = .ok bytes →
    PersistentOnecoinLedger.open P (some bytes) = .ok l

/-- The operation adds no entry to a map that is keyed by digests. -/
def PublicOp.RecordsNoDigest (P : Primitives) (l : OnecoinLedger) : PublicOp → Prop
  | .ordered (.mintVerifiedContributionReward signed) =>
    ∃ message, ((mintVerifiedContributionReward P signed).run l).1 = .error message
  | .ordered _ => True
  | .receiveTransfer tx senderPublicKey recipient => ¬ Receivable P tx senderPublicKey recipient

namespace OnecoinLedger

variable {P : Primitives} {l : OnecoinLedger}

/-- Neither of the maps that are keyed by digests has an entry. -/
def NoDigests (l : OnecoinLedger) : Prop := l.receivedTransactions = ∅ ∧ l.rewardedReceipts = ∅

/-- The verifier loop records no digest. -/
theorem noDigests_addGenesisVerifiers (verifiers : List Bytes32) (l : OnecoinLedger) :
    ((addGenesisVerifiers P verifiers).run l).2.NoDigests ↔ l.NoDigests := by
  obtain ⟨stored, wrote⟩ := exists_addGenesisVerifiers (P := P) verifiers l
  rw [wrote]
  exact Iff.rfl

/-- Genesis records no digest. -/
theorem noDigests_withGenesis (unique : BTreeMap String Bytes32) :
    (l.withGenesis unique).NoDigests ↔ l.NoDigests := by
  simp only [withGenesis, foldl_addGenesisMember, NoDigests]

/-- No ordered operation but a minted reward records a digest. -/
theorem noDigests_effect {op : LedgerOp} {after : OnecoinLedger} (effect : Effect P l op after)
    (unrewarding : ∀ signed, op ≠ .mintVerifiedContributionReward signed) :
    after.NoDigests ↔ l.NoDigests := by
  cases effect with
  | refused | authorized | ensured | paid | stopped | moved | charged => exact Iff.rfl
  | genesis => exact noDigests_withGenesis _
  | genesisWithVerifiers verifiers =>
    exact (noDigests_addGenesisVerifiers verifiers _).trans (noDigests_withGenesis _)
  | @rewarded signed => exact absurd rfl (unrewarding signed)

/-- The digest maps stay empty exactly as long as nothing is recorded in them. -/
theorem noDigests_apply_iff (op : PublicOp) :
    (op.apply P l).NoDigests ↔ l.NoDigests ∧ op.RecordsNoDigest P l := by
  cases op with
  | receiveTransfer tx senderPublicKey recipient =>
    rcases receiveTransfer_cases (P := P) l tx senderPublicKey recipient with
      ⟨refused, message, failed⟩ | ⟨receivable, repeated, known⟩ | ⟨receivable, _, credited⟩
    · rw [PublicOp.apply, failed]
      exact ⟨fun blank => ⟨blank, refused⟩, And.left⟩
    · -- A repeated transfer was recorded by an earlier operation.
      have recorded : l.receivedTransactions ≠ ∅ := by
        rintro empty
        simp [empty] at repeated
      rw [PublicOp.apply, known]
      exact iff_of_false (fun blank => recorded blank.1) fun both => recorded both.1.1
    · rw [PublicOp.apply, credited]
      refine iff_of_false ?_ fun both => both.2 receivable
      simp [NoDigests, withCredit]
  | ordered op =>
    by_cases rewarding : ∃ signed, op = .mintVerifiedContributionReward signed
    · obtain ⟨signed, rfl⟩ := rewarding
      rcases mintVerifiedContributionReward_cases (P := P) l signed with
        ⟨message, failed⟩ | ⟨rewardAtoms, reward, _, _, minted⟩
      · simp [PublicOp.apply, LedgerOp.apply, failed, PublicOp.RecordsNoDigest]
      · simp [PublicOp.apply, LedgerOp.apply, minted, PublicOp.RecordsNoDigest, NoDigests,
          withReward]
    · have unrewarding : ∀ signed, op ≠ .mintVerifiedContributionReward signed :=
        fun signed same => rewarding ⟨signed, same⟩
      -- Every other operation counts as one that records nothing, whether it was refused or not.
      have quiet : (PublicOp.ordered op).RecordsNoDigest P l := by
        cases op with
        | mintVerifiedContributionReward signed => exact absurd rfl (unrewarding signed)
        | _ => trivial
      exact (noDigests_effect (effect_apply op) unrewarding).trans (and_iff_left quiet).symm

/-- A fresh genesis has members. -/
theorem withGenesis_occupied {members : List AweId} (nonempty : members ≠ [])
    (empty : l.members = ∅) : (l.withGenesis (uniqueMembers members)).members ≠ ∅ := by
  obtain ⟨id, rest, rfl⟩ := List.exists_cons_of_ne_nil nonempty
  have member : key id ∈ uniqueMembers (id :: rest) := by
    rw [uniqueMembers, BTreeMap.mem_foldl_insert key (fun _ id => id.bytes)]
    simp
  exact members_ne_empty ((mem_withGenesis_members empty _ _).mpr member)

/-- The verifier loop changes no membership. -/
theorem members_addGenesisVerifiers (verifiers : List Bytes32) (l : OnecoinLedger) :
    ((addGenesisVerifiers P verifiers).run l).2.members = l.members := by
  obtain ⟨stored, wrote⟩ := exists_addGenesisVerifiers (P := P) verifiers l
  rw [wrote]

/-- An effect leaves the ledger as it was, or with members. -/
theorem effect_eq_or_occupied {op : LedgerOp} {after : OnecoinLedger}
    (effect : Effect P l op after) : after = l ∨ after.members ≠ ∅ := by
  cases effect with
  | refused => exact Or.inl rfl
  | genesis nonempty empty => exact Or.inr (withGenesis_occupied nonempty empty)
  | genesisWithVerifiers verifiers nonempty empty =>
    rw [members_addGenesisVerifiers]
    exact Or.inr (withGenesis_occupied nonempty empty)
  | authorized _ member => exact Or.inr (members_ne_empty member)
  | ensured => exact Or.inr (members_ne_empty (BTreeMap.mem_insertIfNew_iff.mpr (Or.inl rfl)))
  | @paid id | @stopped id => exact Or.inr (withMember_occupied l id)
  | rewarded _ member => exact Or.inr (members_ne_empty member)
  | moved admitted | charged _ admitted => exact Or.inr (members_ne_empty admitted.senderMember)

/-- An operation leaves the ledger as it was, or with members. -/
theorem apply_eq_or_occupied (op : PublicOp) : op.apply P l = l ∨ (op.apply P l).members ≠ ∅ := by
  cases op with
  | receiveTransfer tx senderPublicKey recipient =>
    have parties : (l.withParties P senderPublicKey recipient).members ≠ ∅ :=
      members_ne_empty (BTreeMap.mem_insertIfNew_iff.mpr (Or.inl rfl))
    rcases receiveTransfer_cases (P := P) l tx senderPublicKey recipient with
      ⟨_, message, failed⟩ | ⟨_, _, known⟩ | ⟨_, _, credited⟩
    · exact Or.inl (by rw [PublicOp.apply, failed])
    · exact Or.inr (by rw [PublicOp.apply, known]; exact parties)
    · exact Or.inr (by rw [PublicOp.apply, credited]; exact parties)
  | ordered op => exact effect_eq_or_occupied (effect_apply op)

end OnecoinLedger

/-- A run that leaves no member has changed nothing. -/
theorem eq_default_of_members_empty (P : Primitives) (ops : List PublicOp)
    (empty : (publicLedgerAfter P ops).members = ∅) : publicLedgerAfter P ops = .default := by
  refine List.foldlRecOn (motive := fun l => l.members = ∅ → l = .default) ops (PublicOp.apply P)
    (fun _ => rfl) ?_ empty
  intro l unchanged op _ empty
  rcases apply_eq_or_occupied (P := P) (l := l) op with same | occupied
  · rw [same] at empty ⊢
    exact unchanged empty
  · exact absurd empty occupied

/-- The digest maps are empty after a run exactly when no operation of it recorded a digest. -/
theorem noDigests_publicLedgerAfter_iff (P : Primitives) (ops : List PublicOp) :
    (publicLedgerAfter P ops).NoDigests ↔
      EveryStep (PublicOp.apply P) (PublicOp.RecordsNoDigest P) .default ops := by
  have initial : (OnecoinLedger.default).NoDigests := ⟨rfl, rfl⟩
  rw [publicLedgerAfter, final_iff_everyStep (fun _ op => noDigests_apply_iff op)]
  exact and_iff_right initial

/-- A run that records no digest keeps every credit covered, having none. -/
theorem covered_of_recordsNoDigest {P : Primitives} {l : OnecoinLedger} {op : PublicOp}
    (nothing : op.RecordsNoDigest P l) : op.Covered P l := by
  cases op with
  | ordered op => trivial
  | receiveTransfer tx senderPublicKey recipient => exact fun receivable => absurd receivable nothing

/-- A ledger with a digest is written as an empty file. -/
theorem dispatcherBytes_eq_nil {P : Primitives} {l : OnecoinLedger} (digests : ¬ l.NoDigests) :
    dispatcherBytes P l = [] := by
  have unwritten : l.toJson = none := by
    rw [← Option.not_isSome_iff_eq_none, isSome_toJson]
    exact digests
  rw [dispatcherBytes, unwritten]
  rfl

/-- An empty file is read as the default ledger. -/
theorem readLedger_nil {P : Primitives} (lawful : P.LawfulJson) :
    readLedger P (some []) = .default := by
  simp [readLedger, lawful.nothing]

/--
A ledger reached by public operations survives a restart of its node exactly when none of them
credited a replicated transfer or minted a reward.
-/
theorem survivesRestart_iff_no_digest_recorded {P : Primitives} (lawful : P.LawfulJson)
    (own : AweId) (ops : List PublicOp) :
    (publicLedgerAfter P ops).SurvivesRestart P own ↔
      EveryStep (PublicOp.apply P) (PublicOp.RecordsNoDigest P) .default ops := by
  rw [← noDigests_publicLedgerAfter_iff]
  constructor
  · -- A ledger with a digest is written as nothing, which reads as the default ledger.
    rintro ⟨reloaded, _⟩
    by_contra digests
    have lost : publicLedgerAfter P ops = .default := by
      rw [← reloaded, dispatcherBytes_eq_nil digests, readLedger_nil lawful]
    exact digests (lost ▸ ⟨rfl, rfl⟩)
  · intro noDigests
    obtain ⟨document, written⟩ := Option.isSome_iff_exists.mp ((isSome_toJson _).mpr noDigests)
    have representable := representable_publicLedgerAfter P ops
    have decoded := ofJson_toJson representable.fits written
    have reloaded : readLedger P (some (dispatcherBytes P (publicLedgerAfter P ops))) =
        publicLedgerAfter P ops := by
      simp [readLedger, dispatcherBytes, written, lawful.pretty, decoded]
    have backed : (publicLedgerAfter P ops).Backed := by
      have covered := ((noDigests_publicLedgerAfter_iff P ops).mp noDigests).mono
        fun _ _ => covered_of_recordsNoDigest
      exact ((everyState_backed_iff P ops).mpr covered).final
    refine ⟨reloaded, ?_, ?_, ?_⟩
    · intro changed
      have occupied : (publicLedgerAfter P ops).members ≠ ∅ := fun empty =>
        changed (eq_default_of_members_empty P ops empty)
      simp [startUp, reloaded, occupied]
    · intro refused
      rcases PersistentOnecoinLedger.open_save lawful representable written with
        large | ⟨bytes, saved, _⟩
      · simp [large] at refused
      · simp [saved] at refused
    · exact ((accepted_iff_backed lawful (consistent_publicLedgerAfter P ops) representable).mpr
        backed).2

/-- A genesis survives a restart. -/
theorem survivesRestart_genesis :
    (publicLedgerAfter Reference.primitives
      [.ordered (.initializeGenesis [Reference.aweId 1])]).SurvivesRestart Reference.primitives
        (Reference.aweId 1) :=
  (survivesRestart_iff_no_digest_recorded Reference.lawfulJson _ _).mpr ⟨trivial, trivial⟩

/-- After one replicated credit the file is empty, and the next start makes a fresh genesis. -/
theorem replicated_credit_is_lost_on_restart :
    ∃ l, l = publicLedgerAfter Reference.primitives [
        .ordered (.initializeGenesis [Reference.aweId 1]),
        .receiveTransfer (Reference.transfer 2 1 0 1) (Reference.key 2) (Reference.aweId 1)] ∧
      dispatcherBytes Reference.primitives l = [] ∧
      startUp Reference.primitives (Reference.aweId 1)
          (some (dispatcherBytes Reference.primitives l)) =
        .ok (OnecoinLedger.default.withGenesis (uniqueMembers [Reference.aweId 1])) ∧
      ¬ l.SurvivesRestart Reference.primitives (Reference.aweId 1) := by
  have receivable : Receivable Reference.primitives (Reference.transfer 2 1 0 1) (Reference.key 2)
      (Reference.aweId 1) := ⟨rfl, rfl, Reference.verify_transfer 2 1 0 (by decide)⟩
  have recorded : ¬ EveryStep (PublicOp.apply Reference.primitives)
      (PublicOp.RecordsNoDigest Reference.primitives) .default [
        .ordered (.initializeGenesis [Reference.aweId 1]),
        .receiveTransfer (Reference.transfer 2 1 0 1) (Reference.key 2) (Reference.aweId 1)] :=
    fun every => every.2.1 receivable
  have empty := dispatcherBytes_eq_nil (P := Reference.primitives)
    (mt (noDigests_publicLedgerAfter_iff Reference.primitives _).mp recorded)
  refine ⟨_, rfl, empty, ?_, ?_⟩
  · rw [empty, startUp, readLedger_nil Reference.lawfulJson]
    -- The empty file is an empty ledger, from which start-up makes a genesis of its own.
    rcases initializeGenesis_cases .default [Reference.aweId 1] with
      ⟨message, failed⟩ | ⟨_, _, seeded⟩
    · simp [initializeGenesis, Method.run_bind, OnecoinLedger.default] at failed
    · have written : (OnecoinLedger.default.withGenesis
          (uniqueMembers [Reference.aweId 1])).toJson.isSome = true := by
        rw [isSome_toJson]
        exact (noDigests_withGenesis _).mpr ⟨rfl, rfl⟩
      simp [seeded, written, show OnecoinLedger.default.members = ∅ from rfl]
  · exact mt (survivesRestart_iff_no_digest_recorded Reference.lawfulJson _ _).mp recorded

end Awe
