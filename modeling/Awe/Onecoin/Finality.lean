import Awe.Onecoin.Quorum
import Awe.Onecoin.Supply

/-! Runs of finalizations: one chain of blocks, each executed whole or not at all. -/

namespace Awe

open Rust OnecoinLedger

/-- The arguments of one finalization. -/
structure FinalizeCall where
  block : OnecoinBlock
  certificate : QuorumCertificate
  validators : Validators

/-- What a finalization returns and the state it leaves. -/
def FinalizeCall.run (P : Primitives) (call : FinalizeCall) (s : OnecoinFinalizedState) :
    Except String Bytes32 × OnecoinFinalizedState :=
  (OnecoinFinalizedState.finalize P call.block call.certificate call.validators).run s

/-- A finalized state, with the blocks accepted on the way to it, oldest first. -/
structure FinalityRun where
  state : OnecoinFinalizedState
  accepted : List OnecoinBlock

/-- Make one finalization, recording its block if the call returned `Ok`. -/
def FinalityRun.step (P : Primitives) (run : FinalityRun) (call : FinalizeCall) : FinalityRun :=
  match call.run P run.state with
  | (.ok _, state) => ⟨state, run.accepted ++ [call.block]⟩
  | (.error _, state) => ⟨state, run.accepted⟩

/-- The state before any block, over a given ledger. -/
def OnecoinFinalizedState.fresh (ledger : OnecoinLedger) : OnecoinFinalizedState where
  ledger
  height := 0
  tipHash := Vector.replicate 32 0

/-- Blocks that link one hash to another, at consecutive heights. -/
def Chained (P : Primitives) : Bytes32 → Nat → List OnecoinBlock → Bytes32 → Prop
  | tip, _, [], last => last = tip
  | tip, height, block :: rest, last =>
    block.header.previousHash = tip ∧ block.header.height = height + 1 ∧
      Chained P (block.hash P) (height + 1) rest last

variable {P : Primitives}

/-- One more block extends a chain at its end. -/
theorem Chained.append {tip last : Bytes32} {height : Nat} {blocks : List OnecoinBlock}
    (chained : Chained P tip height blocks last) {block : OnecoinBlock}
    (previous : block.header.previousHash = last)
    (next : block.header.height = height + blocks.length + 1) :
    Chained P tip height (blocks ++ [block]) (block.hash P) := by
  induction blocks generalizing tip height with
  | nil => exact ⟨previous.trans chained, next, rfl⟩
  | cons first rest ih =>
    obtain ⟨linked, counted, later⟩ := chained
    refine ⟨linked, counted, ih later ?_⟩
    rw [List.length_cons] at next
    omega

/-- Transfers that are admitted in turn move what they say. -/
theorem transferAll_cons {l : OnecoinLedger} {tx : OnecoinTransaction}
    {rest : List OnecoinTransaction} (admitted : Admits P l tx tx.sender tx.amountAtoms) :
    transferAll P l (tx :: rest) =
      transferAll P (l.withTransfer P tx tx.sender tx.amountAtoms) rest := by
  rw [transferAll, List.foldl_cons, applyTransfer_of_admits admitted, transferAll]

/-- Executing two lists in a row is executing both. -/
theorem executable_append {first second : List OnecoinTransaction} {l : OnecoinLedger}
    (executable : Executable P l first) :
    Executable P l (first ++ second) ↔ Executable P (transferAll P l first) second := by
  induction first generalizing l with
  | nil => exact Iff.rfl
  | cons tx rest ih =>
    rw [List.cons_append, Executable, ih executable.2, transferAll_cons executable.1]
    exact and_iff_right executable.1

/-- A transfer of what its sender holds moves atoms between accounts, and no others. -/
theorem sum_withTransfer {l : OnecoinLedger} {tx : OnecoinTransaction}
    (admitted : Admits P l tx tx.sender tx.amountAtoms)
    (fits : BTreeMap.sum l.balances ≤ u128Max) :
    BTreeMap.sum (l.withTransfer P tx tx.sender tx.amountAtoms).balances =
      BTreeMap.sum l.balances := by
  have moved := sum_moveAtoms l.balances (hexEncode tx.recipient.toList) tx.amountAtoms
    admitted.funded (by omega)
  simp only [OnecoinLedger.withTransfer]
  omega

/-- Executing transactions moves atoms between accounts, and no others. -/
theorem sum_transferAll {transactions : List OnecoinTransaction} {l : OnecoinLedger}
    (executable : Executable P l transactions) (fits : BTreeMap.sum l.balances ≤ u128Max) :
    BTreeMap.sum (transferAll P l transactions).balances = BTreeMap.sum l.balances := by
  induction transactions generalizing l with
  | nil => rfl
  | cons tx rest ih =>
    have moved := sum_withTransfer executable.1 fits
    rw [transferAll_cons executable.1, ih executable.2 (by omega), moved]

/-- What a run of finalizations from a fresh state has built so far. -/
structure FinalityRun.Sound (P : Primitives) (ledger : OnecoinLedger) (run : FinalityRun) :
    Prop where
  height : run.state.height = run.accepted.length
  chained : Chained P (Vector.replicate 32 0) 0 run.accepted run.state.tipHash
  executable : Executable P ledger (run.accepted.flatMap OnecoinBlock.transactions)
  ledger : run.state.ledger = transferAll P ledger (run.accepted.flatMap OnecoinBlock.transactions)

/-- A finalization changes nothing or appends its block. -/
theorem FinalityRun.step_cases (run : FinalityRun) (call : FinalizeCall) :
    run.step P call = run ∨
    (Finalizable P run.state call.block call.certificate call.validators ∧
      run.step P call = ⟨run.state.withBlock P call.block, run.accepted ++ [call.block]⟩) := by
  rcases finalize_cases (P := P) run.state call.block call.certificate call.validators with
    ⟨_, message, failed⟩ | ⟨accepted, finalized⟩
  · exact Or.inl (by rw [FinalityRun.step, FinalizeCall.run, failed])
  · exact Or.inr ⟨accepted, by rw [FinalityRun.step, FinalizeCall.run, finalized]⟩

/-- Below the largest height, heights never fall. -/
theorem FinalityRun.height_le_step (run : FinalityRun) (call : FinalizeCall)
    (below : (run.step P call).state.height < u64Max) :
    run.state.height ≤ (run.step P call).state.height := by
  rcases run.step_cases (P := P) call with same | ⟨accepted, stepped⟩
  · rw [same]
  · have height := accepted.acceptable.height
    rw [stepped] at below ⊢
    simp only [OnecoinFinalizedState.withBlock] at below ⊢
    unfold saturatingAdd at height
    omega

/-- One finalization keeps the chain, until the height runs out. -/
theorem FinalityRun.Sound.step {ledger : OnecoinLedger} {run : FinalityRun}
    (sound : run.Sound P ledger) (call : FinalizeCall)
    (below : (run.step P call).state.height < u64Max) : (run.step P call).Sound P ledger := by
  rcases run.step_cases (P := P) call with same | ⟨accepted, stepped⟩
  · rwa [same]
  rw [stepped] at below ⊢
  -- Below the largest height, the saturating successor is the successor.
  have next : call.block.header.height = run.accepted.length + 1 := by
    have height := accepted.acceptable.height
    rw [saturatingAdd_of_lt (height ▸ below), sound.height] at height
    exact height
  have executable : Executable P ledger ((run.accepted ++ [call.block]).flatMap
      OnecoinBlock.transactions) := by
    rw [List.flatMap_append, List.flatMap_singleton, executable_append sound.executable,
      ← sound.ledger]
    exact accepted.executable
  refine ⟨by simpa [OnecoinFinalizedState.withBlock] using next, ?_, executable, ?_⟩
  · exact sound.chained.append (accepted.acceptable.previous) (by omega)
  · rw [List.flatMap_append, List.flatMap_singleton, transferAll, List.foldl_append]
    simp only [OnecoinFinalizedState.withBlock, sound.ledger]
    rfl

/-- A fresh state has built nothing. -/
theorem FinalityRun.sound_fresh (ledger : OnecoinLedger) :
    (⟨.fresh ledger, []⟩ : FinalityRun).Sound P ledger :=
  ⟨rfl, rfl, trivial, rfl⟩

/-- A run of finalizations from a fresh state builds one chain, until the height runs out. -/
theorem FinalityRun.sound_run (ledger : OnecoinLedger) (calls : List FinalizeCall)
    (below : (calls.foldl (FinalityRun.step P) ⟨.fresh ledger, []⟩).state.height < u64Max) :
    (calls.foldl (FinalityRun.step P) ⟨.fresh ledger, []⟩).Sound P ledger := by
  -- The last call comes off first, since the bound is about the state it leaves.
  induction calls using List.reverseRecOn with
  | nil => exact FinalityRun.sound_fresh ledger
  | append_singleton earlier call ih =>
    rw [List.foldl_append, List.foldl_cons, List.foldl_nil] at below ⊢
    have grown := FinalityRun.height_le_step _ call below
    exact (ih (by omega)).step call below

/--
Every run of finalizations is atomic in its calls and builds one chain that conserves the balances.

Blocks, certificates and validator maps are arbitrary and may change from call to call.
-/
theorem finalization_run_chains_and_conserves (P : Primitives) (ledger : OnecoinLedger)
    (fits : BTreeMap.sum ledger.balances ≤ u128Max) (calls : List FinalizeCall)
    (below : (calls.foldl (FinalityRun.step P) ⟨.fresh ledger, []⟩).state.height < u64Max) :
    let run := calls.foldl (FinalityRun.step P) ⟨.fresh ledger, []⟩
    (∀ (call : FinalizeCall) (s : OnecoinFinalizedState) (message : String),
      (call.run P s).1 = .error message → (call.run P s).2 = s) ∧
    run.state.height = run.accepted.length ∧
    Chained P (Vector.replicate 32 0) 0 run.accepted run.state.tipHash ∧
    run.state.ledger =
      transferAll P ledger (run.accepted.flatMap OnecoinBlock.transactions) ∧
    BTreeMap.sum run.state.ledger.balances = BTreeMap.sum ledger.balances := by
  intro run
  have sound : run.Sound P ledger := FinalityRun.sound_run ledger calls below
  refine ⟨?_, sound.height, sound.chained, sound.ledger, ?_⟩
  · -- A call that fails has left the state alone, by the inversion of finalization.
    intro call s message returned
    rcases finalize_cases (P := P) s call.block call.certificate call.validators with
      ⟨_, _, failed⟩ | ⟨_, finalized⟩
    · rw [FinalizeCall.run, failed]
    · rw [FinalizeCall.run, finalized] at returned
      cases returned
  · rw [sound.ledger, sum_transferAll sound.executable fits]

namespace Reference

/-- The ledger of identities 1 and 2 after their genesis. -/
def twoAccounts : OnecoinLedger := OnecoinLedger.default.withGenesis (uniqueMembers [aweId 1, aweId 2])

/-- Identity 1 pays identity 2, and then once more. -/
def twoPayments : List OnecoinTransaction := [transfer 1 2 0 5, transfer 1 2 1 7]

/-- Both payments can be executed there. -/
theorem executable_twoPayments : Executable primitives twoAccounts twoPayments := by
  -- The ledgers before the payments are evaluated once for all that is asked of them.
  have needed (l : OnecoinLedger) (tx : OnecoinTransaction)
      (known : accountOf primitives tx.sender ∈ l.members ∧
        hexEncode tx.recipient.toList ∈ l.members ∧
        tx.nonce = l.nonces.getD (accountOf primitives tx.sender) 0 ∧
        tx.amountAtoms ≤ l.balances.getD (accountOf primitives tx.sender) 0)
      (verified : tx.verify primitives tx.sender = true) :
      Admits primitives l tx tx.sender tx.amountAtoms :=
    ⟨known.1, known.2.1, known.2.2.1, rfl, verified, known.2.2.2⟩
  exact ⟨needed _ _ (by decide +kernel) (verify_transfer 1 2 0 (by decide)),
    needed _ _ (by decide +kernel) (verify_transfer 1 2 1 (by decide)), trivial⟩

/-- They are in order, and told apart by what they are called. -/
theorem ordered_twoPayments : twoPayments.mergeSort (fun left right =>
      compareTransactions primitives left right ≠ .gt) = twoPayments ∧
    (twoPayments.map (OnecoinTransaction.id primitives)).Nodup := by
  constructor
  · have ascending : compareTransactions primitives (transfer 1 2 0 5) (transfer 1 2 1 7) = .lt := by
      decide +kernel
    refine List.mergeSort_of_pairwise ?_
    simp [twoPayments, ascending]
  · decide +kernel

end Reference

/-- A first block of two payments is made final once, however often it is offered. -/
theorem finalization_run_of_two_payments :
    ∃ (block : OnecoinBlock) (call : FinalizeCall),
      OnecoinBlock.new Reference.primitives (Reference.identity 1) 1 (Vector.replicate 32 0)
        Reference.twoPayments 0 = .ok block ∧
      call = ⟨block, .signedBy Reference.primitives (block.hash Reference.primitives)
        block.header.height [Reference.identity 1],
        validatorSet Reference.primitives [Reference.identity 1]⟩ ∧
      let run := [call, call].foldl (FinalityRun.step Reference.primitives)
        ⟨.fresh Reference.twoAccounts, []⟩
      run.accepted = [block] ∧ block.transactions = Reference.twoPayments ∧
      Chained Reference.primitives (Vector.replicate 32 0) 0 [block] run.state.tipHash ∧
      run.state.ledger = transferAll Reference.primitives Reference.twoAccounts
        Reference.twoPayments ∧
      BTreeMap.sum run.state.ledger.balances = BTreeMap.sum Reference.twoAccounts.balances := by
  obtain ⟨block, built, sorted⟩ := exists_new Reference.primitives (Reference.identity 1) 1
    (Vector.replicate 32 0) Reference.twoPayments (by decide) 0
  have transactions := sorted.trans Reference.ordered_twoPayments.1
  -- One validator signs its own first block, which is a quorum.
  have distinct : ([Reference.identity 1].map (Identity.account Reference.primitives)).Nodup := by
    simp
  have known := getElem?_validatorSet distinct (List.mem_singleton_self _)
  have certified := verify_signedBy_sole Reference.honestSignaturesVerify (Reference.identity 1)
    (block.hash Reference.primitives) block.header.height
  generalize validatorSet Reference.primitives [Reference.identity 1] = validators at known certified ⊢
  have accepted := finalizable_built (s := .fresh Reference.twoAccounts)
    Reference.honestSignaturesVerify known built certified
    (by rw [transactions]; exact Reference.executable_twoPayments)
    (by rw [transactions]; exact Reference.ordered_twoPayments.2)
  have height := (header_new built).1
  generalize called : (⟨block, .signedBy Reference.primitives (block.hash Reference.primitives)
    block.header.height [Reference.identity 1], validators⟩ : FinalizeCall) = call
  have first : FinalityRun.step Reference.primitives ⟨.fresh Reference.twoAccounts, []⟩ call =
      ⟨(OnecoinFinalizedState.fresh Reference.twoAccounts).withBlock Reference.primitives block,
        [block]⟩ := by
    rw [← called, FinalityRun.step, FinalizeCall.run]
    rcases finalize_cases (P := Reference.primitives) (.fresh Reference.twoAccounts) block _
      validators with ⟨refused, _⟩ | ⟨_, finalized⟩
    · exact absurd accepted refused
    · rw [finalized]
      rfl
  -- The second call is refused, since the next block has to be a higher one.
  have second (run : FinalityRun) (reached : run.state.height = 1) :
      FinalityRun.step Reference.primitives run call = run := by
    rcases run.step_cases (P := Reference.primitives) call with same | ⟨again, _⟩
    · exact same
    · have next := again.acceptable.height
      rw [← called] at next
      rw [height, reached] at next
      exact absurd next (by decide)
  have final : [call, call].foldl (FinalityRun.step Reference.primitives)
      ⟨.fresh Reference.twoAccounts, []⟩ =
        ⟨(OnecoinFinalizedState.fresh Reference.twoAccounts).withBlock Reference.primitives block,
          [block]⟩ := by
    rw [List.foldl_cons, List.foldl_cons, List.foldl_nil, first, second _ height]
  have below : ([call, call].foldl (FinalityRun.step Reference.primitives)
      ⟨.fresh Reference.twoAccounts, []⟩).state.height < u64Max := by
    rw [final]
    exact height.trans_lt (by decide)
  have run := finalization_run_chains_and_conserves Reference.primitives Reference.twoAccounts
    (by decide +kernel) [call, call] below
  rw [final] at run
  obtain ⟨_, _, chained, ledger, conserved⟩ := run
  refine ⟨block, call, built, called.symm, ?_⟩
  rw [final]
  refine ⟨rfl, transactions, chained, ?_, conserved⟩
  rw [ledger, List.flatMap_singleton, transactions]

end Awe
