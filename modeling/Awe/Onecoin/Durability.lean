import Awe.Onecoin.Pending
import Awe.Rust.Commit

/-! What a failed commit leaves of memory and of the file, and when a run keeps them together. -/

namespace Awe

open Rust OnecoinConsensusRuntime

variable {P : Primitives}

/-- A file can be replaced: its document exists, is small enough, and the last step succeeds. -/
structure FileFormat.Replaceable (P : Primitives) (format : FileFormat) (document : Option Json)
    (written : Except String Unit) : Prop where
  small : ∃ body, document = some body ∧
    (P.toVec body).length ≤ maxLedgerBytes - format.magic.length
  written : written = .ok ()

/-- What is written to a file has a document that is small enough. -/
theorem FileFormat.save_iff {format : FileFormat} {document : Option Json} :
    (∃ bytes, format.save P document = .ok bytes) ↔
      ∃ body, document = some body ∧
        (P.toVec body).length ≤ maxLedgerBytes - format.magic.length := by
  cases document with
  | none => simp [FileFormat.save]
  | some body =>
    by_cases large : (P.toVec body).length > maxLedgerBytes - format.magic.length
    · simp [FileFormat.save, large]
    · simp only [FileFormat.save, if_neg large, Option.some.injEq, exists_eq_left']
      exact iff_of_true ⟨_, rfl⟩ (Nat.le_of_not_gt large)

namespace PersistentOnecoinLedger

/-- A ledger is stored exactly if its file can be replaced. -/
theorem storesIf_flush (written : Except String Unit) :
    Fallible.StoresIf (fun self : PersistentOnecoinLedger =>
      ledgerFormat.Replaceable P self.ledger.toJson written) (flush P written) := by
  intro self
  simp only [flush, Method.run_bind, Method.run_get, Method.run_ofExcept]
  -- The file is prepared before it is written, and both can fail.
  cases saved : save P self.ledger with
  | error message =>
    refine Or.inl ⟨fun replaceable => ?_, message, rfl⟩
    obtain ⟨bytes, other⟩ := FileFormat.save_iff.mpr replaceable.small
    rw [save, other] at saved
    cases saved
  | ok bytes =>
    have small := FileFormat.save_iff.mp (Exists.intro bytes saved)
    cases written with
    | error message => exact Or.inl ⟨fun storable => (by cases storable.written), message, rfl⟩
    | ok => exact Or.inr ⟨⟨small, rfl⟩, _, rfl⟩

/-- A failed transfer is undone exactly if an admitted one can be stored, or changes nothing. -/
theorem atomicAt_applyTransfer_iff (written : Except String Unit) (self : PersistentOnecoinLedger)
    (tx : OnecoinTransaction) (senderPublicKey : Bytes32) :
    Fallible.AtomicAt (applyTransfer P written tx senderPublicKey) self ↔
      (OnecoinLedger.Admits P self.ledger tx senderPublicKey tx.amountAtoms →
        ledgerFormat.Replaceable P
          (self.ledger.withTransfer P tx senderPublicKey tx.amountAtoms).toJson written ∨
        self.ledger.withTransfer P tx senderPublicKey tx.amountAtoms = self.ledger) := by
  exact Fallible.atomicAt_commit_iff
    (OnecoinLedger.applyTransfer_cases (P := P) self.ledger tx senderPublicKey) rfl rfl
    ((storesIf_flush written).mapError _)

end PersistentOnecoinLedger

namespace PersistentOnecoinState

/-- A finalized state can be stored: it passes its check, and its file can be replaced. -/
structure Storable (P : Primitives) (written : Except String Unit) (state : OnecoinFinalizedState) :
    Prop where
  valid : validateState state = .ok ()
  replaceable : stateFormat.Replaceable P state.toJson written

/-- A state that is stored is in its file, with its magic bytes. -/
theorem run_save_of_storable {written : Except String Unit} {self : PersistentOnecoinState}
    (storable : Storable P written self.state) :
    ∃ body, self.state.toJson = some body ∧
      (save P written).run self = (.ok (), { self with file := some (stateFormat.magic ++ P.toVec body) }) := by
  obtain ⟨body, document, small⟩ := storable.replaceable.small
  refine ⟨body, document, ?_⟩
  have bytes : stateFormat.save P (some body) = .ok (stateFormat.magic ++ P.toVec body) :=
    if_neg (Nat.not_lt.mpr small)
  simp only [save, Method.run_bind, Method.run_get, Method.run_ofExcept, storable.valid, document,
    bytes, storable.replaceable.written, Method.run_modify]

/-- A finalized state is stored exactly if it can be. -/
theorem storesIf_save (written : Except String Unit) :
    Fallible.StoresIf (fun self : PersistentOnecoinState => Storable P written self.state)
      (save P written) := by
  intro self
  by_cases storable : Storable P written self.state
  · obtain ⟨body, _, stored⟩ := run_save_of_storable storable
    exact Or.inr ⟨storable, _, stored⟩
  refine Or.inl ⟨storable, ?_⟩
  rcases save_cases (P := P) written self with failed | ⟨bytes, stored⟩
  · exact failed
  -- A state that was stored has passed every step.
  refine absurd ?_ storable
  simp only [save, Method.run_bind, Method.run_get, Method.run_ofExcept] at stored
  cases valid : validateState self.state with
  | error message => simp [valid] at stored
  | ok =>
    cases saved : stateFormat.save P self.state.toJson with
    | error message => simp [valid, saved] at stored
    | ok bytes =>
      cases written with
      | error message => simp [valid, saved] at stored
      | ok => exact ⟨valid, FileFormat.save_iff.mp (Exists.intro bytes saved), rfl⟩

/-- A failed finalization is undone exactly if a block that passes can be stored, or changes nothing. -/
theorem atomicAt_finalize_iff (written : Except String Unit) (self : PersistentOnecoinState)
    (block : OnecoinBlock) (certificate : QuorumCertificate) (validators : Validators) :
    Fallible.AtomicAt (finalize P written block certificate validators) self ↔
      (Finalizable P self.state block certificate validators →
        Storable P written (self.state.withBlock P block) ∨
        self.state.withBlock P block = self.state) :=
  Fallible.atomicAt_commit_iff (finalize_cases (P := P) self.state block certificate validators) rfl
    rfl ((storesIf_save written).mapError _)

/-- Storing succeeds exactly if the new state can be stored. -/
theorem stores_iff_storable {written : Except String Unit} {self : PersistentOnecoinState}
    {block : OnecoinBlock} :
    self.Stores P written block ↔ Storable P written (self.state.withBlock P block) := by
  rcases storesIf_save (P := P) written { self with state := self.state.withBlock P block } with
    ⟨refused, message, failed⟩ | ⟨storable, after, stored⟩
  · rw [Stores, failed]
    exact iff_of_false (fun unsaved => by cases unsaved) refused
  · rw [Stores, stored]
    exact iff_of_true rfl storable

/-- A state that was stored is the state that its file opens as. -/
theorem open_of_storable (lawful : P.LawfulJson) {written : Except String Unit}
    (self : PersistentOnecoinState) (storable : Storable P written self.state)
    (fits : self.state.ledger.Fits) (height : self.state.height ≤ u64Max) :
    ∃ after, (save P written).run self = (.ok (), after) ∧ after.state = self.state ∧
      PersistentOnecoinState.open P after.file = .ok after := by
  -- What was written is the whole document, which reads back as this state.
  obtain ⟨body, document, stored⟩ := run_save_of_storable storable
  refine ⟨_, stored, rfl, ?_⟩
  obtain ⟨other, found, small⟩ := storable.replaceable.small
  obtain rfl : body = other := Option.some.inj (document.symm.trans found)
  have decoded := OnecoinFinalizedState.ofJson_toJson fits height document
  have written' : stateFormat.save P (some body) = .ok (stateFormat.magic ++ P.toVec body) :=
    if_neg (Nat.not_lt.mpr small)
  rcases FileFormat.save_some lawful stateFormat (by decide) body decoded with
    large | ⟨bytes, saved, loaded⟩
  · rw [written'] at large
    cases large
  · obtain rfl := Except.ok.inj (written'.symm.trans saved)
    rw [PersistentOnecoinState.open, loaded]
    simp only [storable.valid, bind, Except.bind, pure, Except.pure]

end PersistentOnecoinState

/-- What a call answers. -/
def HandleCall.answer (P : Primitives) (r : OnecoinConsensusRuntime) (call : HandleCall) :
    Except String Outgoing :=
  ((handle P call.written call.sender call.identity call.message).run r).1

/-- The file of a runtime records its height: opened again, it has the same. -/
def OnecoinConsensusRuntime.HeightOnFile (P : Primitives) (r : OnecoinConsensusRuntime) : Prop :=
  ∃ loaded, PersistentOnecoinState.open P r.state.file = .ok loaded ∧
    loaded.state.height = r.state.state.height

variable {r : OnecoinConsensusRuntime}

/-- Finalizing a block that passes is storing the state it leads to. -/
theorem run_finalize_of_finalizable {written : Except String Unit} {block : OnecoinBlock}
    {certificate : QuorumCertificate}
    (accepted : Finalizable P r.state.state block certificate r.validators) :
    (OnecoinConsensusRuntime.finalize P written block certificate).run r =
      ((((PersistentOnecoinState.save P written).run
          { r.state with state := r.state.state.withBlock P block }).1.mapError
            ("failed to persist finalized ONECOIN state: " ++ ·)).map fun _ => block.hash P,
        { r with state := ((PersistentOnecoinState.save P written).run
          { r.state with state := r.state.state.withBlock P block }).2 }) := by
  -- The state has advanced before it is stored, and stays so when storing fails.
  have finalized : (OnecoinFinalizedState.finalize P block certificate r.validators).run
      r.state.state = (.ok (block.hash P), r.state.state.withBlock P block) := by
    rcases finalize_cases (P := P) r.state.state block certificate r.validators with
      ⟨refused, _⟩ | ⟨_, finalized⟩
    · exact absurd accepted refused
    · exact finalized
  have committed : (PersistentOnecoinState.finalize P written block certificate r.validators).run
      r.state = _ := Fallible.run_commit_of_ok finalized
  simp only [OnecoinConsensusRuntime.finalize, Method.run_bind, Method.run_get, Method.run_onPart,
    committed, Method.run_mapError]

/-- A call that finalizes no block leaves the state and its file alone. -/
theorem HandleCall.state_of_idle {call : HandleCall}
    (idle : ∀ blockHash block, ¬ call.Finalizes P r blockHash block) :
    (call.step P r).state = r.state := by
  cases call.effect (P := P) r with
  | refused _ same => rw [same]
  | proposed _ block _ kept => rw [kept, withProposal]
  | recorded _ vote block _ kept => rw [kept, withVote]
  | finalized blockHash block _ finalizes => exact absurd finalizes (idle blockHash block)

/-- A call that finalizes a block answers and leaves what storing the new state gives. -/
theorem HandleCall.run_of_finalizes {call : HandleCall} {blockHash : Bytes32} {block : OnecoinBlock}
    (finalizes : call.Finalizes P r blockHash block) :
    (call.step P r).state = ((PersistentOnecoinState.save P call.written).run
        { r.state with state := r.state.state.withBlock P block }).2 ∧
      ((∃ sent, call.answer P r = .ok sent) ↔
        ((PersistentOnecoinState.save P call.written).run
          { r.state with state := r.state.state.withBlock P block }).1 = .ok ()) := by
  obtain ⟨written, sender, identity, message⟩ := call
  obtain ⟨known, about⟩ := finalizes
  cases message with
  | proposal => exact absurd about id
  | vote vote =>
    obtain ⟨_, recordable, accepted⟩ := about
    have opened : (handle P written sender identity (.vote vote)).run r =
        (handleVote P written sender vote).run r := handle_of_validator known _ _ _
    rcases handleVote_record (P := P) written r sender vote with
      ⟨refused, _⟩ | ⟨other, also, counted⟩
    · exact absurd recordable (refused block)
    obtain rfl : block = other := Option.some.inj (recordable.pending.symm.trans also.pending)
    -- Recording the vote changes neither the state nor the validators.
    have committed : (OnecoinConsensusRuntime.finalize P written block
        (r.certificateWith vote block)).run (r.withVote vote) = _ :=
      run_finalize_of_finalizable accepted
    simp only [withVote] at committed
    simp only [HandleCall.step, HandleCall.answer, opened, counted, count,
      accepted.acceptable.certified, withVote, committed]
    rcases (PersistentOnecoinState.save P written).run
      { r.state with state := r.state.state.withBlock P block } with ⟨_ | _, after⟩
    · refine ⟨rfl, iff_of_false ?_ fun unsaved => by cases unsaved⟩
      rintro ⟨sent, success⟩
      cases success
    · exact ⟨rfl, iff_of_true ⟨_, rfl⟩ rfl⟩
  | certificate certificate =>
    obtain ⟨rfl, pending, accepted⟩ := about
    have opened : (handle P written sender identity (.certificate certificate)).run r =
        (handleCertificate P written certificate).run r := handle_of_validator known _ _ _
    rcases handleCertificate_pending (P := P) written r certificate with
      ⟨absent, _⟩ | ⟨other, also, acted⟩
    · rw [absent] at pending
      cases pending
    obtain rfl : block = other := Option.some.inj (pending.symm.trans also)
    have committed : (OnecoinConsensusRuntime.finalize P written block certificate).run r = _ :=
      run_finalize_of_finalizable accepted
    simp only [HandleCall.step, HandleCall.answer, opened, acted, committed]
    rcases (PersistentOnecoinState.save P written).run
      { r.state with state := r.state.state.withBlock P block } with ⟨_ | _, after⟩
    · refine ⟨rfl, iff_of_false ?_ fun unsaved => by cases unsaved⟩
      rintro ⟨sent, success⟩
      cases success
    · exact ⟨rfl, iff_of_true ⟨_, rfl⟩ rfl⟩

/-- What a call makes final can be stored. -/
def HandleCall.Commits (P : Primitives) (r : OnecoinConsensusRuntime) (call : HandleCall) : Prop :=
  ∀ blockHash block, call.Finalizes P r blockHash block →
    PersistentOnecoinState.Storable P call.written (r.state.state.withBlock P block)

/-- A block that becomes final is one above the state, until the height runs out. -/
theorem HandleCall.Finalizes.height {call : HandleCall} {blockHash : Bytes32} {block : OnecoinBlock}
    (finalizes : call.Finalizes P r blockHash block) :
    block.header.height = saturatingAdd u64Max r.state.state.height 1 := by
  obtain ⟨written, sender, identity, message⟩ := call
  cases message with
  | proposal => exact absurd finalizes.2 id
  | vote vote => exact finalizes.2.2.2.acceptable.height
  | certificate certificate => exact finalizes.2.2.2.acceptable.height

/-- A failed call keeps the height on file exactly if what it makes final can be stored. -/
theorem HandleCall.heightOnFile_iff (call : HandleCall) (recorded : r.HeightOnFile P) :
    (∀ message, call.answer P r = .error message → (call.step P r).HeightOnFile P) ↔
      ∀ blockHash block, call.Finalizes P r blockHash block →
        PersistentOnecoinState.Storable P call.written (r.state.state.withBlock P block) ∨
          r.state.state.height = u64Max := by
  obtain ⟨loaded, opened, same⟩ := recorded
  constructor
  · intro kept blockHash block finalizes
    obtain ⟨left, answered⟩ := HandleCall.run_of_finalizes finalizes
    rcases PersistentOnecoinState.storesIf_save (P := P) call.written
      { r.state with state := r.state.state.withBlock P block } with
      ⟨_, message, failed⟩ | ⟨storable, _⟩
    swap
    · exact Or.inl storable
    -- The call fails with the store, and the file still has the height before.
    rw [failed] at left answered
    cases answer : call.answer P r with
    | ok sent => cases answered.mp ⟨sent, answer⟩
    | error reason =>
      obtain ⟨reloaded, reopened, height⟩ := kept reason answer
      rw [left] at reopened height
      obtain rfl : loaded = reloaded := Except.ok.inj (opened.symm.trans reopened)
      have next := finalizes.height
      simp only [OnecoinFinalizedState.withBlock] at height
      unfold saturatingAdd at next
      omega
  · intro commits message failed
    by_cases idle : ∀ blockHash block, ¬ call.Finalizes P r blockHash block
    · refine ⟨loaded, ?_, ?_⟩
      all_goals rwa [HandleCall.state_of_idle idle]
    push Not at idle
    obtain ⟨blockHash, block, finalizes⟩ := idle
    obtain ⟨left, answered⟩ := HandleCall.run_of_finalizes finalizes
    rcases PersistentOnecoinState.storesIf_save (P := P) call.written
      { r.state with state := r.state.state.withBlock P block } with
      ⟨lost, reason, unsaved⟩ | ⟨_, after, stored⟩
    · -- The height has run out, so it is still the one on file.
      have last := (commits blockHash block finalizes).resolve_left lost
      rw [unsaved] at left
      have next := finalizes.height
      refine ⟨loaded, by rw [left]; exact opened, ?_⟩
      rw [left, same]
      simp only [OnecoinFinalizedState.withBlock]
      unfold saturatingAdd at next
      omega
    · rw [stored] at answered
      obtain ⟨sent, success⟩ := answered.mpr rfl
      rw [failed] at success
      cases success

/-- The numbers of a ledger fit after any transfers. -/
theorem fits_transferAll {l : OnecoinLedger} (fits : l.Fits) (transactions : List OnecoinTransaction) :
    (transferAll P l transactions).Fits := by
  refine List.foldlRecOn transactions _ fits fun l fits tx _ => ?_
  rcases OnecoinLedger.applyTransfer_cases (P := P) l tx tx.sender with
    ⟨_, message, failed⟩ | ⟨_, moved⟩
  · rw [failed]
    exact fits
  · rw [moved]
    exact fits.withTransfer tx tx.sender _

/-- The file of a runtime opens as the state in memory, and the numbers of that state fit. -/
structure OnecoinConsensusRuntime.Synced (P : Primitives) (r : OnecoinConsensusRuntime) : Prop where
  file : PersistentOnecoinState.open P r.state.file = .ok r.state
  ledger : r.state.state.ledger.Fits
  height : r.state.state.height ≤ u64Max

/-- A runtime that was just opened agrees with its file. -/
theorem synced_of_open {file : Option Bytes} {validators : Validators}
    (opened : OnecoinConsensusRuntime.open P file validators = .ok r) : r.Synced P := by
  obtain ⟨state, loaded, _, _, rfl⟩ := open_iff.mp opened
  refine ⟨?_, fits_of_open loaded, height_le_of_open loaded⟩
  rw [(exists_of_open loaded).1]
  exact loaded

/-- A call keeps memory and file together if what it makes final can be stored. -/
theorem HandleCall.synced_step (lawful : P.LawfulJson) (call : HandleCall) (synced : r.Synced P)
    (commits : call.Commits P r) : (call.step P r).Synced P := by
  -- A call that finalizes nothing leaves both the state and its file.
  by_cases idle : ∀ blockHash block, ¬ call.Finalizes P r blockHash block
  · have same := HandleCall.state_of_idle idle
    constructor
    · rw [same]
      exact synced.file
    · rw [same]
      exact synced.ledger
    · rw [same]
      exact synced.height
  push Not at idle
  obtain ⟨blockHash, block, finalizes⟩ := idle
  obtain ⟨left, _⟩ := HandleCall.run_of_finalizes finalizes
  have height : block.header.height ≤ u64Max := by
    rw [finalizes.height]
    exact saturatingAdd_le_bound _ _ _
  have fits : (r.state.state.withBlock P block).ledger.Fits := fits_transferAll synced.ledger _
  obtain ⟨after, stored, kept, reopened⟩ := PersistentOnecoinState.open_of_storable lawful
    { r.state with state := r.state.state.withBlock P block }
    (commits blockHash block finalizes) fits height
  rw [stored] at left
  constructor
  · rw [left]
    exact reopened
  · rw [left, kept]
    exact fits
  · rw [left, kept]
    exact height

/--
A commit undoes its failures exactly if what passes its checks can be stored.

The four parts are about a finalized state, about a ledger, about one call of a runtime whose height
is on file, and about all states of a run.
-/
theorem failed_commits_are_undone_iff (P : Primitives) (lawful : P.LawfulJson) :
    (∀ (written : Except String Unit) (self : PersistentOnecoinState) (block : OnecoinBlock)
        (certificate : QuorumCertificate) (validators : Validators),
      Fallible.AtomicAt (PersistentOnecoinState.finalize P written block certificate validators)
          self ↔
        (Finalizable P self.state block certificate validators →
          PersistentOnecoinState.Storable P written (self.state.withBlock P block) ∨
          self.state.withBlock P block = self.state)) ∧
    (∀ (written : Except String Unit) (self : PersistentOnecoinLedger) (tx : OnecoinTransaction)
        (senderPublicKey : Bytes32),
      Fallible.AtomicAt (PersistentOnecoinLedger.applyTransfer P written tx senderPublicKey) self ↔
        (OnecoinLedger.Admits P self.ledger tx senderPublicKey tx.amountAtoms →
          ledgerFormat.Replaceable P
            (self.ledger.withTransfer P tx senderPublicKey tx.amountAtoms).toJson written ∨
          self.ledger.withTransfer P tx senderPublicKey tx.amountAtoms = self.ledger)) ∧
    (∀ (r : OnecoinConsensusRuntime) (call : HandleCall), r.HeightOnFile P →
      ((∀ message, call.answer P r = .error message → (call.step P r).HeightOnFile P) ↔
        ∀ blockHash block, call.Finalizes P r blockHash block →
          PersistentOnecoinState.Storable P call.written (r.state.state.withBlock P block) ∨
          r.state.state.height = u64Max)) ∧
    ∀ (file : Option Bytes) (validators : Validators) (r : OnecoinConsensusRuntime),
      OnecoinConsensusRuntime.open P file validators = .ok r → ∀ calls : List HandleCall,
        EveryStep (HandleCall.step P) (HandleCall.Commits P) r calls →
          EveryState (HandleCall.step P) (OnecoinConsensusRuntime.HeightOnFile P) r calls := by
  refine ⟨PersistentOnecoinState.atomicAt_finalize_iff,
    PersistentOnecoinLedger.atomicAt_applyTransfer_iff,
    fun _ call recorded => call.heightOnFile_iff recorded, ?_⟩
  -- The run keeps the file in step with the state, and that includes its height.
  intro file validators r opened calls commits
  have synced := commits.throughout (synced_of_open opened)
    fun _ call synced commits => call.synced_step lawful synced commits
  exact synced.mono fun r synced => ⟨r.state, synced.file, rfl⟩

/-- The height stays on file while the first block is proposed, certified and final, though the file
cannot be written at first. -/
theorem first_block_stays_on_file :
    ∃ (r : OnecoinConsensusRuntime) (block : OnecoinBlock),
      OnecoinConsensusRuntime.open Reference.primitives none
        (validatorSet Reference.primitives [Reference.identity 1]) = .ok r ∧
      OnecoinBlock.new Reference.primitives (Reference.identity 1) 1 (Vector.replicate 32 0) [] 0 =
        .ok block ∧
      EveryState (HandleCall.step Reference.primitives)
        (OnecoinConsensusRuntime.HeightOnFile Reference.primitives) r
        (firstCalls (.error "no space left") block) ∧
      ((firstCalls (.error "no space left") block).foldl (HandleCall.step Reference.primitives)
        r).state.state.height = 1 := by
  obtain ⟨r, block, opened, built, sole, stores, proposal, certificate, calls, idle, proposed,
    written, finalizes⟩ := exists_first_block (.error "no space left")
  refine ⟨r, block, opened, built, ?_⟩
  rw [calls]
  refine ⟨(failed_commits_are_undone_iff Reference.primitives Reference.lawfulJson).2.2.2 none _ _
    opened _ ⟨?_, ?_, trivial⟩, ?_⟩
  · exact fun _ _ impossible => absurd impossible (idle _ _)
  -- What the certificate makes final can be stored by then.
  · rw [proposed]
    intro blockHash other also
    obtain ⟨rfl, rfl⟩ := finalizes.unique also
    rw [written]
    exact PersistentOnecoinState.stores_iff_storable.mp stores
  · rw [List.foldl_cons, List.foldl_cons, List.foldl_nil, proposed]
    exact (HandleCall.height_of_finalizes finalizes).trans (header_new built).1

/-- A first block that cannot be written to the file is final in memory, though the call fails. -/
theorem unwritten_block_stays_final :
    ∃ (block : OnecoinBlock) (certificate : QuorumCertificate) (validators : Validators)
        (message : String) (after : PersistentOnecoinState),
      (PersistentOnecoinState.finalize Reference.primitives (.error "no space left") block certificate
        validators).run ⟨none, .default⟩ = (.error message, after) ∧
      after.file = none ∧ after.state.height = 1 ∧
      after.state.tipHash = block.hash Reference.primitives ∧
      OnecoinFinalizedState.default.height = 0 := by
  obtain ⟨block, built, _⟩ := exists_new Reference.primitives (Reference.identity 1) 1
    (Vector.replicate 32 0) [] (Nat.zero_le _) 0
  -- One validator is a quorum of its own, so its block is final.
  have distinct : ([Reference.identity 1].map (Identity.account Reference.primitives)).Nodup := by
    simp
  have known := getElem?_validatorSet distinct (List.mem_singleton_self _)
  have certified := verify_signedBy_sole Reference.honestSignaturesVerify (Reference.identity 1)
    (block.hash Reference.primitives) block.header.height
  generalize validatorSet Reference.primitives [Reference.identity 1] = validators at known certified
  have accepted := finalizable_new (s := .default) Reference.honestSignaturesVerify known built
    certified
  rcases persistent_finalize_cases (P := Reference.primitives) (.error "no space left")
    ⟨none, .default⟩ block _ validators with
    ⟨refused, _⟩ | ⟨_, _, message, unsaved⟩ | ⟨_, stores, _⟩
  · exact absurd accepted refused
  · exact ⟨block, _, validators, message, _, unsaved, rfl, (header_new built).1, rfl, rfl⟩
  · exact nomatch (PersistentOnecoinState.stores_iff_storable.mp stores).replaceable.written

end Awe
