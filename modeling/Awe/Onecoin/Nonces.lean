import Awe.Onecoin.Finality

/-! Replay protection: the transfers of an account take effect once each, in the order of their nonces. -/

namespace Awe

open Rust OnecoinLedger

/-- A step of a node's finalized state: an operation on its ledger, or a finalization. -/
inductive StateOp where
  | ledger (op : LedgerOp)
  | finalize (call : FinalizeCall)

/-- The state a step leaves, whether it succeeded or failed. -/
def StateOp.apply (P : Primitives) (s : OnecoinFinalizedState) : StateOp → OnecoinFinalizedState
  | .ledger op => { s with ledger := op.apply P s.ledger }
  | .finalize call => (call.run P s).2

/-- The transfers a step makes effective, in their order of execution. -/
def StateOp.transfers (P : Primitives) (s : OnecoinFinalizedState) : StateOp → List OnecoinTransaction
  | .ledger (.applyTransfer tx senderPublicKey) =>
    match ((OnecoinLedger.applyTransfer P tx senderPublicKey).run s.ledger).1 with
    | .ok _ => [tx]
    | .error _ => []
  | .ledger (.applyTransferWithFee tx senderPublicKey feeBps) =>
    match ((OnecoinLedger.applyTransferWithFee P tx senderPublicKey feeBps).run s.ledger).1 with
    | .ok _ => [tx]
    | .error _ => []
  | .ledger _ => []
  | .finalize call =>
    match (call.run P s).1 with
    | .ok _ => call.block.transactions
    | .error _ => []

/-- A state, with the transfers that were accepted on the way to it, oldest first. -/
structure StateHistory where
  state : OnecoinFinalizedState
  accepted : List OnecoinTransaction

/-- Take one step and record the transfers it accepted. -/
def StateHistory.step (P : Primitives) (history : StateHistory) (op : StateOp) : StateHistory where
  state := op.apply P history.state
  accepted := history.accepted ++ op.transfers P history.state

/-- The history of a run from the default state. -/
def historyAfter (P : Primitives) (ops : List StateOp) : StateHistory :=
  ops.foldl (StateHistory.step P) ⟨.default, []⟩

/-- The transfers of one account. -/
def transfersFrom (P : Primitives) (account : String) (accepted : List OnecoinTransaction) :
    List OnecoinTransaction :=
  accepted.filter fun tx => accountOf P tx.sender = account

variable {P : Primitives} {l : OnecoinLedger} {accepted : List OnecoinTransaction}

/-- Stored nonces count the transfers accepted so far, which used up the nonces before them. -/
structure Counted (P : Primitives) (l : OnecoinLedger) (accepted : List OnecoinTransaction) :
    Prop where
  stored : ∀ account, l.nonces.getD account 0 = (transfersFrom P account accepted).length
  ordered : ∀ account, (transfersFrom P account accepted).map OnecoinTransaction.nonce =
    List.range (transfersFrom P account accepted).length

/-- Only the stored nonces of a ledger matter for the count. -/
theorem Counted.congr {other : OnecoinLedger} (counted : Counted P l accepted)
    (same : ∀ account, other.nonces.getD account 0 = l.nonces.getD account 0) :
    Counted P other accepted :=
  ⟨fun account => (same account).trans (counted.stored account), counted.ordered⟩

/-- An accepted transfer is counted for its sender, and for nobody else. -/
theorem Counted.withTransfer (counted : Counted P l accepted) {tx : OnecoinTransaction}
    {senderPublicKey : Bytes32} {debit : Nat} (admitted : Admits P l tx senderPublicKey debit)
    (few : accepted.length + 1 < 2 ^ 64) :
    Counted P (l.withTransfer P tx senderPublicKey debit) (accepted ++ [tx]) := by
  have nonce := admitted.nonce
  rw [counted.stored] at nonce
  have bounded : (transfersFrom P (accountOf P senderPublicKey) accepted).length ≤
      accepted.length := List.length_filter_le _ _
  -- Fewer transfers than nonces have been made, so the sender's counter does not wrap.
  have next : wrappingAdd u64Max (l.nonces.getD (accountOf P senderPublicKey) 0) 1 =
      (transfersFrom P (accountOf P senderPublicKey) accepted).length + 1 := by
    rw [counted.stored]
    exact wrappingAdd_one_of_lt (by unfold u64Max; omega)
  have extended (account : String) : transfersFrom P account (accepted ++ [tx]) =
      transfersFrom P account accepted ++ if accountOf P senderPublicKey = account then [tx] else [] := by
    rw [transfersFrom, List.filter_append, transfersFrom, List.filter_singleton, admitted.sender]
    by_cases same : accountOf P senderPublicKey = account
    · simp [same]
    · simp [same]
  constructor
  · intro account
    simp only [OnecoinLedger.withTransfer]
    rw [BTreeMap.getD_insert_eq, extended]
    by_cases same : accountOf P senderPublicKey = account
    · rw [if_pos same, if_pos same, next, same, List.length_append, List.length_singleton]
    · rw [if_neg same, if_neg same, List.append_nil, counted.stored]
  · intro account
    rw [extended]
    by_cases same : accountOf P senderPublicKey = account
    · rw [if_pos same, List.map_append, List.length_append, List.length_singleton, List.range_succ,
        counted.ordered, List.map_singleton, nonce, same]
    · rw [if_neg same, List.append_nil, counted.ordered]

/-- An executed list of transfers is counted transfer by transfer. -/
theorem Counted.transferAll {transactions : List OnecoinTransaction}
    (counted : Counted P l accepted) (executable : Executable P l transactions)
    (few : accepted.length + transactions.length < 2 ^ 64) :
    Counted P (transferAll P l transactions) (accepted ++ transactions) := by
  induction transactions generalizing l accepted with
  | nil => simpa [Awe.transferAll] using counted
  | cons tx rest ih =>
    rw [List.length_cons] at few
    have first := counted.withTransfer executable.1 (by omega)
    have later := ih first executable.2 (by rw [List.length_append, List.length_singleton]; omega)
    rw [transferAll_cons executable.1]
    rwa [List.append_assoc, List.singleton_append] at later

/-- Executed transfers keep the maps in agreement. -/
theorem consistent_transferAll {transactions : List OnecoinTransaction}
    (consistent : Consistent P l) (executable : Executable P l transactions) :
    Consistent P (transferAll P l transactions) := by
  induction transactions generalizing l with
  | nil => exact consistent
  | cons tx rest ih =>
    rw [transferAll_cons executable.1]
    exact ih (consistent.withTransfer executable.1) executable.2

/-- The genesis loop writes no nonce but zero. -/
theorem getD_nonces_withGenesis (consistent : Consistent P l) (empty : l.members = ∅)
    (unique : BTreeMap String Bytes32) (account : String) :
    (l.withGenesis unique).nonces.getD account 0 = l.nonces.getD account 0 := by
  have absent : account ∉ l.nonces := fun present => by
    simpa [empty] using (consistent.nonces account).mp present
  rw [Std.ExtTreeMap.getD_eq_fallback absent]
  simp only [OnecoinLedger.withGenesis, foldl_addGenesisMember]
  -- The loop wrote zero, which is also how an absent nonce is read.
  cases found : (unique.toList.foldl (fun map entry => map.insert entry.1 0) l.nonces)[account]? with
  | none => rw [Std.ExtTreeMap.getD_eq_getD_getElem?, found, Option.getD_none]
  | some stored =>
    rcases BTreeMap.getElem?_foldl_insert Prod.fst (fun _ => 0) _ _ found with
      ⟨_, _, _, zero⟩ | older
    · rw [BTreeMap.getD_of_getElem? found, ← zero]
    · exact absurd (BTreeMap.mem_of_getElem? older) absent

/-- The genesis verifier loop touches no nonce. -/
theorem nonces_addGenesisVerifiers (verifiers : List Bytes32) (l : OnecoinLedger) :
    ((OnecoinLedger.addGenesisVerifiers P verifiers).run l).2.nonces = l.nonces := by
  obtain ⟨stored, wrote⟩ := exists_addGenesisVerifiers (P := P) verifiers l
  rw [wrote]

/-- Only the two transfers of an ordered ledger touch a nonce. -/
theorem getD_nonces_effect (consistent : Consistent P l) {op : LedgerOp} {after : OnecoinLedger}
    (effect : Effect P l op after)
    (unmoved : ∀ tx senderPublicKey, op ≠ .applyTransfer tx senderPublicKey)
    (uncharged : ∀ tx senderPublicKey feeBps,
      op ≠ .applyTransferWithFee tx senderPublicKey feeBps) (account : String) :
    after.nonces.getD account 0 = l.nonces.getD account 0 := by
  cases effect with
  | refused | authorized | rewarded => rfl
  | genesis _ empty => exact getD_nonces_withGenesis consistent empty _ account
  | genesisWithVerifiers verifiers _ empty =>
    rw [nonces_addGenesisVerifiers]
    exact getD_nonces_withGenesis consistent empty _ account
  -- An account that is opened starts at the nonce it is read with before.
  | ensured | paid | stopped => exact BTreeMap.getD_insertIfNew_zero _ _ account
  | moved => exact absurd rfl (unmoved _ _)
  | charged => exact absurd rfl (uncharged _ _ _)

/-- What every history of a run has in common, as long as no nonce can have wrapped. -/
structure StateHistory.Protected (P : Primitives) (history : StateHistory) : Prop where
  consistent : Consistent P history.state.ledger
  counted : history.accepted.length < 2 ^ 64 → Counted P history.state.ledger history.accepted

/-- A step that accepts nothing and leaves every nonce in place keeps the count. -/
theorem StateHistory.Protected.quiet {history : StateHistory} (held : history.Protected P)
    {state : OnecoinFinalizedState} (consistent : Consistent P state.ledger)
    (same : ∀ account, state.ledger.nonces.getD account 0 =
      history.state.ledger.nonces.getD account 0) :
    StateHistory.Protected P ⟨state, history.accepted ++ []⟩ := by
  refine ⟨consistent, fun few => ?_⟩
  rw [List.append_nil] at few ⊢
  exact (held.counted few).congr same

/-- A step that executes transfers counts them. -/
theorem StateHistory.Protected.executed {history : StateHistory} (held : history.Protected P)
    {state : OnecoinFinalizedState} (consistent : Consistent P state.ledger)
    {transactions : List OnecoinTransaction}
    (counted : Counted P history.state.ledger history.accepted →
      history.accepted.length + transactions.length < 2 ^ 64 →
      Counted P state.ledger (history.accepted ++ transactions)) :
    StateHistory.Protected P ⟨state, history.accepted ++ transactions⟩ := by
  refine ⟨consistent, fun few => ?_⟩
  simp only [List.length_append] at few
  exact counted (held.counted (by omega)) few

/-- Every operation on the ledger keeps the count. -/
theorem StateHistory.Protected.ledger {history : StateHistory} (held : history.Protected P)
    (op : LedgerOp) : (history.step P (.ledger op)).Protected P := by
  have consistent := held.consistent.apply op
  have unchanged := getD_nonces_effect held.consistent (effect_apply op)
  obtain ⟨state, accepted⟩ := history
  -- Only the two transfers execute anything, so their outcome decides.
  cases op with
  | applyTransfer tx senderPublicKey =>
    rcases applyTransfer_cases (P := P) state.ledger tx senderPublicKey with
      ⟨_, message, failed⟩ | ⟨admitted, moved⟩
    · simp only [StateHistory.step, StateOp.transfers, failed]
      exact held.quiet consistent fun account => by simp [StateOp.apply, LedgerOp.apply, failed]
    · simp only [StateHistory.step, StateOp.transfers, moved]
      refine held.executed consistent fun counted few => ?_
      simp only [StateOp.apply, LedgerOp.apply, moved]
      exact counted.withTransfer admitted few
  | applyTransferWithFee tx senderPublicKey feeBps =>
    rcases applyTransferWithFee_cases (P := P) state.ledger tx senderPublicKey feeBps with
      ⟨_, message, failed⟩ | ⟨_, admitted, moved⟩
    · simp only [StateHistory.step, StateOp.transfers, failed]
      exact held.quiet consistent fun account => by simp [StateOp.apply, LedgerOp.apply, failed]
    · simp only [StateHistory.step, StateOp.transfers, moved]
      refine held.executed consistent fun counted few => ?_
      simp only [StateOp.apply, LedgerOp.apply, moved]
      exact (counted.withTransfer admitted few).congr fun _ => rfl
  | _ => exact held.quiet consistent (unchanged (by simp) (by simp))

/-- Every step keeps the count. -/
theorem StateHistory.Protected.step {history : StateHistory} (held : history.Protected P)
    (op : StateOp) : (history.step P op).Protected P := by
  cases op with
  | ledger op => exact held.ledger op
  | finalize call =>
    rcases finalize_cases (P := P) history.state call.block call.certificate call.validators with
      ⟨_, message, failed⟩ | ⟨accepted, finalized⟩
    · simp only [StateHistory.step, StateOp.transfers, StateOp.apply, FinalizeCall.run, failed]
      exact held.quiet held.consistent fun _ => rfl
    · simp only [StateHistory.step, StateOp.transfers, StateOp.apply, FinalizeCall.run, finalized]
      exact held.executed (consistent_transferAll held.consistent accepted.executable)
        fun counted few => counted.transferAll accepted.executable few

/-- Every run keeps the count. -/
theorem protected_historyAfter (P : Primitives) (ops : List StateOp) :
    (historyAfter P ops).Protected P := by
  have initial : StateHistory.Protected P ⟨.default, []⟩ :=
    ⟨consistent_default, fun _ => ⟨fun _ => by
      simp [OnecoinFinalizedState.default, OnecoinLedger.default, transfersFrom], fun _ => rfl⟩⟩
  exact List.foldlRecOn ops _ initial fun _ held op _ => held.step op

/-- Where nonces are used up in order, no transfer was accepted twice. -/
theorem Counted.nodup (counted : Counted P l accepted) : accepted.Nodup := by
  rw [List.nodup_iff_count_le_one]
  intro tx
  -- A repeated transfer would repeat its nonce among the transfers of its sender.
  have distinct : (transfersFrom P (accountOf P tx.sender) accepted).Nodup := by
    refine List.Nodup.of_map OnecoinTransaction.nonce ?_
    rw [counted.ordered]
    exact List.nodup_range
  have once := List.nodup_iff_count_le_one.mp distinct tx
  rwa [transfersFrom, List.count_filter (by simp)] at once

/--
Every account's stored nonce counts its accepted transfers, which carry the nonces 0, 1, 2 and on.

So no signed transaction takes effect twice, within a block or across blocks and operations.
-/
theorem transfers_accepted_once_in_nonce_order (P : Primitives) (ops : List StateOp)
    (few : (historyAfter P ops).accepted.length < 2 ^ 64) :
    let history := historyAfter P ops
    (∀ account, history.state.ledger.nonces.getD account 0 =
      (transfersFrom P account history.accepted).length) ∧
    (∀ account, (transfersFrom P account history.accepted).map OnecoinTransaction.nonce =
      List.range (transfersFrom P account history.accepted).length) ∧
    history.accepted.Nodup := by
  intro history
  have counted := (protected_historyAfter P ops).counted few
  exact ⟨counted.stored, counted.ordered, counted.nodup⟩

/-- An operation on the ledger accepts at most one transfer. -/
theorem length_transfers_ledger_le (s : OnecoinFinalizedState) (op : LedgerOp) :
    (StateOp.transfers P s (.ledger op)).length ≤ 1 := by
  cases op with
  | applyTransfer tx senderPublicKey =>
    simp only [StateOp.transfers]
    split <;> simp
  | applyTransferWithFee tx senderPublicKey feeBps =>
    simp only [StateOp.transfers]
    split <;> simp
  | _ => exact Nat.zero_le _

/-- A run of operations on the ledger accepts at most one transfer for each of them. -/
theorem length_accepted_ledger_le (ops : List LedgerOp) :
    (historyAfter P (ops.map .ledger)).accepted.length ≤ ops.length := by
  -- The last operation comes off first, so that the hypothesis is about the history before it.
  induction ops using List.reverseRecOn with
  | nil => exact Nat.le_refl 0
  | append_singleton earlier op ih =>
    rw [historyAfter] at ih
    rw [historyAfter, List.map_append, List.map_singleton, List.foldl_append, List.foldl_cons,
      List.foldl_nil, StateHistory.step, List.length_append, List.length_append,
      List.length_singleton]
    exact Nat.add_le_add ih (length_transfers_ledger_le _ op)

/-- A transfer that is submitted twice after genesis takes effect at most once. -/
theorem resubmitted_transfer_accepted_once :
    ∃ ops : List LedgerOp, ops = [
        .initializeGenesis [Reference.aweId 1, Reference.aweId 2],
        .applyTransfer (Reference.transfer 1 2 0 1) (Reference.key 1),
        .applyTransfer (Reference.transfer 1 2 0 1) (Reference.key 1)] ∧
      (historyAfter Reference.primitives (ops.map .ledger)).accepted.Nodup := by
  refine ⟨_, rfl, (transfers_accepted_once_in_nonce_order _ _ ?_).2.2⟩
  refine Nat.lt_of_le_of_lt (length_accepted_ledger_le _) ?_
  decide

end Awe
