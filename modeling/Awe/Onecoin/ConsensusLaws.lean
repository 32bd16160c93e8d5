import Awe.Onecoin.Consensus

/-! What verifying, executing and finalizing a block can do, stated once for every later argument. -/

namespace Awe

open Rust OnecoinLedger

variable {P : Primitives}

/-- Every transaction is admitted by the ledger the ones before it leave. -/
def Executable (P : Primitives) : OnecoinLedger → List OnecoinTransaction → Prop
  | _, [] => True
  | l, tx :: rest => Admits P l tx tx.sender tx.amountAtoms ∧
      Executable P (l.withTransfer P tx tx.sender tx.amountAtoms) rest

/-- The ledger a list of transfers leaves. -/
def transferAll (P : Primitives) (l : OnecoinLedger) (transactions : List OnecoinTransaction) :
    OnecoinLedger :=
  transactions.foldl (fun l tx => ((applyTransfer P tx tx.sender).run l).2) l

/-- A transfer that is admitted leaves what it moves. -/
theorem applyTransfer_of_admits {l : OnecoinLedger} {tx : OnecoinTransaction}
    (admitted : Admits P l tx tx.sender tx.amountAtoms) :
    (applyTransfer P tx tx.sender).run l =
      (.ok (tx.id P), l.withTransfer P tx tx.sender tx.amountAtoms) := by
  rcases applyTransfer_cases (P := P) l tx tx.sender with ⟨refused, _⟩ | ⟨_, moved⟩
  · exact absurd admitted refused
  · exact moved

/-- Execution succeeds exactly on new, distinct transactions that are admitted one after another. -/
theorem executeTransactions_cases (transactions : List OnecoinTransaction)
    (seen : BTreeMap Bytes32 Bool) (l : OnecoinLedger) :
    (¬ (Executable P l transactions ∧ (transactions.map (OnecoinTransaction.id P)).Nodup ∧
        ∀ tx ∈ transactions, tx.id P ∉ seen) ∧
      ∃ message, executeTransactions P seen l transactions = .error message) ∨
    (Executable P l transactions ∧ (transactions.map (OnecoinTransaction.id P)).Nodup ∧
      (∀ tx ∈ transactions, tx.id P ∉ seen) ∧
      executeTransactions P seen l transactions = .ok (transferAll P l transactions)) := by
  induction transactions generalizing seen l with
  | nil => exact Or.inr ⟨trivial, by simp, by simp, rfl⟩
  | cons tx rest ih =>
    by_cases repeated : tx.id P ∈ seen
    · exact Or.inl ⟨fun accepted => accepted.2.2 tx List.mem_cons_self repeated,
        "duplicate transaction in block", by simp [executeTransactions, repeated]; rfl⟩
    by_cases member : (AweId.fromPublicKey P tx.sender).toHex ∈ l.members
    swap
    · exact Or.inl ⟨fun accepted => member accepted.1.1.senderMember,
        "transaction sender is not a member", by
        simp [executeTransactions, repeated, ledgerSenderKey, member]; rfl⟩
    rcases applyTransfer_cases (P := P) l tx tx.sender with
      ⟨refused, message, failed⟩ | ⟨admitted, moved⟩
    · refine Or.inl ⟨fun accepted => refused accepted.1.1, message, ?_⟩
      simp only [executeTransactions, repeated, ledgerSenderKey, member, if_true, if_false,
        Bind.bind, Except.bind, failed]
      rfl
    have step : executeTransactions P seen l (tx :: rest) = executeTransactions P
        (seen.insert (tx.id P) true) (l.withTransfer P tx tx.sender tx.amountAtoms) rest := by
      simp only [executeTransactions, repeated, ledgerSenderKey, member, if_true, if_false,
        Bind.bind, Except.bind, moved]
    -- A later transaction must differ from what was seen before and from this one.
    have fresh : (∀ later ∈ rest, later.id P ∉ seen.insert (tx.id P) true) ↔
        tx.id P ∉ rest.map (OnecoinTransaction.id P) ∧ ∀ later ∈ rest, later.id P ∉ seen := by
      simp only [BTreeMap.mem_insert_iff, List.mem_map, not_or, not_exists, not_and]
      exact ⟨fun every => ⟨fun later inside same => (every later inside).1 same,
        fun later inside => (every later inside).2⟩,
        fun both later inside => ⟨both.1 later inside, both.2 later inside⟩⟩
    rcases ih (seen.insert (tx.id P) true) (l.withTransfer P tx tx.sender tx.amountAtoms) with
      ⟨rejected, message, failed⟩ | ⟨executable, distinct, unseen, executed⟩
    · refine Or.inl ⟨fun accepted => rejected ?_, message, step.trans failed⟩
      obtain ⟨⟨_, executable⟩, distinct, unseen⟩ := accepted
      rw [List.map_cons, List.nodup_cons] at distinct
      exact ⟨executable, distinct.2, fresh.mpr ⟨distinct.1, fun later inside =>
        unseen later (List.mem_cons_of_mem _ inside)⟩⟩
    · obtain ⟨absent, older⟩ := fresh.mp unseen
      refine Or.inr ⟨⟨admitted, executable⟩, ?_, ?_, ?_⟩
      · rw [List.map_cons, List.nodup_cons]
        exact ⟨absent, distinct⟩
      · intro later inside
        rcases List.mem_cons.mp inside with rfl | inside
        · exact repeated
        · exact older later inside
      · rw [step, executed, transferAll, transferAll, List.foldl_cons, moved]

/-- Everything a block is checked for before it is executed. -/
structure Acceptable (P : Primitives) (s : OnecoinFinalizedState) (block : OnecoinBlock)
    (certificate : QuorumCertificate) (validators : Validators) : Prop where
  shape : block.validateShape P = .ok ()
  proposer : ∃ proposerKey, validators[block.header.proposer.toHex]? = some proposerKey ∧
    block.verifyProposer P proposerKey = true
  height : block.header.height = saturatingAdd u64Max s.height 1
  previous : block.header.previousHash = s.tipHash
  certified : certificate.verify P validators (block.hash P) block.header.height = .ok ()

/-- The check of a block fails exactly when one of its conditions does. -/
theorem checkBlock_cases (s : OnecoinFinalizedState) (block : OnecoinBlock)
    (certificate : QuorumCertificate) (validators : Validators) :
    (¬ Acceptable P s block certificate validators ∧
      ∃ message, s.checkBlock P block certificate validators = .error message) ∨
    (Acceptable P s block certificate validators ∧
      s.checkBlock P block certificate validators = .ok ()) := by
  -- The checks are taken one by one, in the order the code makes them.
  cases shape : block.validateShape P with
  | error message =>
    exact Or.inl ⟨fun accepted => (by simpa [shape] using accepted.shape : False), message, by
      rw [OnecoinFinalizedState.checkBlock, shape]; rfl⟩
  | ok =>
    cases found : validators[block.header.proposer.toHex]? with
    | none =>
      refine Or.inl ⟨?_, "block proposer is not a validator", ?_⟩
      · rintro ⟨_, ⟨proposerKey, known, _⟩, _⟩
        simp [found] at known
      · rw [OnecoinFinalizedState.checkBlock, shape, found]; rfl
    | some proposerKey =>
      by_cases signed : block.verifyProposer P proposerKey = true
      swap
      · refine Or.inl ⟨?_, "invalid block proposer signature", ?_⟩
        · rintro ⟨_, ⟨other, known, verified⟩, _⟩
          rw [found] at known
          cases known
          exact signed verified
        · simp only [OnecoinFinalizedState.checkBlock, shape, found, signed]; rfl
      by_cases height : block.header.height = saturatingAdd u64Max s.height 1
      swap
      · refine Or.inl ⟨fun accepted => height accepted.height, "invalid block height", ?_⟩
        simp [OnecoinFinalizedState.checkBlock, shape, found, signed, height]; rfl
      by_cases previous : block.header.previousHash = s.tipHash
      swap
      · refine Or.inl ⟨fun accepted => previous accepted.previous, "invalid previous block hash", ?_⟩
        simp [OnecoinFinalizedState.checkBlock, shape, found, signed, height, previous]; rfl
      have last : s.checkBlock P block certificate validators =
          certificate.verify P validators (block.hash P) block.header.height := by
        simp [OnecoinFinalizedState.checkBlock, shape, found, signed, height, previous]; rfl
      cases certified : certificate.verify P validators (block.hash P) block.header.height with
      | error message =>
        refine Or.inl ⟨fun accepted => ?_, message, last.trans certified⟩
        simpa [certified] using accepted.certified
      | ok => exact Or.inr ⟨⟨shape, ⟨proposerKey, found, signed⟩, height, previous, certified⟩,
          last.trans certified⟩

/-- Everything finalization asks of a block and its certificate. -/
structure Finalizable (P : Primitives) (s : OnecoinFinalizedState) (block : OnecoinBlock)
    (certificate : QuorumCertificate) (validators : Validators) : Prop where
  acceptable : Acceptable P s block certificate validators
  executable : Executable P s.ledger block.transactions
  distinct : (block.transactions.map (OnecoinTransaction.id P)).Nodup

/-- The state a finalized block leaves. -/
def OnecoinFinalizedState.withBlock (P : Primitives) (s : OnecoinFinalizedState)
    (block : OnecoinBlock) : OnecoinFinalizedState where
  ledger := transferAll P s.ledger block.transactions
  height := block.header.height
  tipHash := block.hash P

/-- Finalization changes nothing or executes the whole block. -/
theorem finalize_cases (s : OnecoinFinalizedState) (block : OnecoinBlock)
    (certificate : QuorumCertificate) (validators : Validators) :
    (¬ Finalizable P s block certificate validators ∧ ∃ message,
      (OnecoinFinalizedState.finalize P block certificate validators).run s = (.error message, s)) ∨
    (Finalizable P s block certificate validators ∧
      (OnecoinFinalizedState.finalize P block certificate validators).run s =
        (.ok (block.hash P), s.withBlock P block)) := by
  -- The block's own checks come first, then its transactions in order.
  rcases checkBlock_cases (P := P) s block certificate validators with
    ⟨refused, message, failed⟩ | ⟨acceptable, checked⟩
  · exact Or.inl ⟨fun accepted => refused accepted.acceptable, message, by
      simp [OnecoinFinalizedState.finalize, Method.run_bind, failed]⟩
  rcases executeTransactions_cases (P := P) block.transactions ∅ s.ledger with
    ⟨refused, message, failed⟩ | ⟨executable, distinct, _, executed⟩
  · refine Or.inl ⟨fun accepted => refused ⟨accepted.executable, accepted.distinct, by simp⟩,
      message, ?_⟩
    simp [OnecoinFinalizedState.finalize, Method.run_bind, checked, failed]
  · refine Or.inr ⟨⟨acceptable, executable, distinct⟩, ?_⟩
    simp [OnecoinFinalizedState.finalize, Method.run_bind, checked, executed,
      OnecoinFinalizedState.withBlock, Except.map]

/-- Everything a vote must have for a certificate to count it. -/
structure Counts (P : Primitives) (certificate : QuorumCertificate) (validators : Validators)
    (vote : SignedBlockVote) : Prop where
  validator : ∃ publicKey, validators[vote.voter.toHex]? = some publicKey ∧
    vote.verify P publicKey = true
  block : vote.blockHash = certificate.blockHash
  height : vote.height = certificate.height
  approve : vote.approve = true

/-- One pass of the counting loop adds the voter of a vote that counts. -/
theorem mem_countVote_iff (certificate : QuorumCertificate) (validators : Validators)
    (unique : BTreeMap String Bool) (vote : SignedBlockVote) (account : String) :
    account ∈ certificate.countVote P validators unique vote ↔
      (account = vote.voter.toHex ∧ Counts P certificate validators vote) ∨ account ∈ unique := by
  cases found : validators[vote.voter.toHex]? with
  | none =>
    -- A voter that is no validator counts for nothing, and the count is unchanged.
    have uncounted : ¬ Counts P certificate validators vote := by
      rintro ⟨⟨publicKey, known, _⟩, _⟩
      simp [found] at known
    simp [QuorumCertificate.countVote, found, uncounted]
  | some publicKey =>
    by_cases foreign : vote.blockHash ≠ certificate.blockHash ∨ vote.height ≠ certificate.height
    · -- A vote for another block or height is passed over.
      have uncounted : ¬ Counts P certificate validators vote := fun counts =>
        foreign.elim (· counts.block) (· counts.height)
      simp only [QuorumCertificate.countVote, found, if_pos foreign]
      simp [uncounted]
    -- What is left turns on the ballot and its signature.
    by_cases approved : (vote.approve && vote.verify P publicKey) = true
    · have both := Bool.and_eq_true_iff.mp approved
      have matching := not_or.mp foreign
      have counts : Counts P certificate validators vote :=
        ⟨⟨publicKey, found, both.2⟩, not_not.mp matching.1, not_not.mp matching.2, both.1⟩
      simp only [QuorumCertificate.countVote, found, if_neg foreign, if_pos approved]
      rw [BTreeMap.mem_insert_iff, and_iff_left counts]
    · have uncounted : ¬ Counts P certificate validators vote := by
        rintro ⟨⟨other, known, verified⟩, _, _, approve⟩
        rw [found] at known
        cases known
        simp [approve, verified] at approved
      simp only [QuorumCertificate.countVote, found, if_neg foreign, if_neg approved]
      simp [uncounted]

/-- The approvals of a certificate are the voters of the votes that count. -/
theorem mem_approvals_iff (certificate : QuorumCertificate) (validators : Validators)
    (account : String) :
    account ∈ certificate.approvals P validators ↔
      ∃ vote ∈ certificate.votes, account = vote.voter.toHex ∧
        Counts P certificate validators vote := by
  -- The loop starts from no approvals, so the induction is over any it already has.
  have loop : ∀ (votes : List SignedBlockVote) (unique : BTreeMap String Bool),
      account ∈ votes.foldl (certificate.countVote P validators) unique ↔
        (∃ vote ∈ votes, account = vote.voter.toHex ∧ Counts P certificate validators vote) ∨
          account ∈ unique := by
    intro votes
    induction votes with
    | nil => simp
    | cons vote rest ih =>
      intro unique
      rw [List.foldl_cons, ih, mem_countVote_iff]
      simp only [List.mem_cons, exists_eq_or_imp]
      rw [or_left_comm, or_assoc]
  rw [QuorumCertificate.approvals, loop]
  simp

/-- Whoever approves is a validator. -/
theorem mem_validators_of_mem_approvals {certificate : QuorumCertificate} {validators : Validators}
    {account : String} (approved : account ∈ certificate.approvals P validators) :
    account ∈ validators := by
  obtain ⟨vote, _, rfl, counts⟩ := (mem_approvals_iff certificate validators account).mp approved
  obtain ⟨_, found, _⟩ := counts.validator
  exact BTreeMap.mem_of_getElem? found

/-- A certificate is accepted exactly for its block and with enough approvals. -/
theorem certificate_verify_iff (certificate : QuorumCertificate) (validators : Validators)
    (blockHash : Bytes32) (height : Nat) :
    certificate.verify P validators blockHash height = .ok () ↔
      certificate.blockHash = blockHash ∧ certificate.height = height ∧ 0 < validators.size ∧
        QuorumCertificate.required validators.size ≤ (certificate.approvals P validators).size := by
  unfold QuorumCertificate.verify
  -- The certificate is about another block, or its count is compared with the quorum.
  split
  · rename_i foreign
    simp only [reduceCtorEq, false_iff]
    rintro ⟨sameBlock, sameHeight, _⟩
    exact foreign.elim (· sameBlock) (· sameHeight)
  · rename_i matching
    obtain ⟨sameBlock, sameHeight⟩ := not_or.mp matching
    split
    · rename_i short
      simp only [reduceCtorEq, false_iff]
      rintro ⟨_, _, occupied, enough⟩
      omega
    · rename_i enough
      simp only [true_iff]
      exact ⟨not_not.mp sameBlock, not_not.mp sameHeight, by omega, by omega⟩

/-- The canonical order is a preorder. -/
instance (P : Primitives) : Std.TransCmp (compareTransactions P) :=
  inferInstanceAs (Std.TransCmp (compareLex (compareOn OnecoinTransaction.sender)
    (compareLex (compareOn OnecoinTransaction.nonce) (compareOn (OnecoinTransaction.id P)))))

/-- What does not descend in two steps does not descend. -/
theorem canonical_trans {first second third : OnecoinTransaction}
    (left : compareTransactions P first second ≠ .gt)
    (right : compareTransactions P second third ≠ .gt) :
    compareTransactions P first third ≠ .gt := by
  rw [ne_eq, Ordering.ne_gt_iff_isLE] at left right ⊢
  exact Std.TransCmp.isLE_trans left right

/-- No neighbours of a sorted list are out of order. -/
theorem no_descent_of_pairwise {transactions : List OnecoinTransaction}
    (sorted : transactions.Pairwise fun left right => compareTransactions P left right ≠ .gt) :
    ((transactions.zip transactions.tail).any
      fun pair => compareTransactions P pair.1 pair.2 = .gt) = false := by
  rw [List.any_eq_false]
  rintro ⟨left, right⟩ neighbours
  rw [decide_eq_true_eq]
  -- A pair of neighbours is a pair of the list, in order.
  induction transactions with
  | nil => simp at neighbours
  | cons first rest ih =>
    cases rest with
    | nil => simp at neighbours
    | cons second rest =>
      rw [List.tail_cons, List.zip_cons_cons, List.mem_cons] at neighbours
      rcases neighbours with front | later
      · cases front
        exact List.rel_of_pairwise_cons sorted List.mem_cons_self
      · exact ih sorted.of_cons later

/-- Sorting puts transactions in canonical order. -/
theorem pairwise_canonical (transactions : List OnecoinTransaction) :
    (transactions.mergeSort fun left right => compareTransactions P left right ≠ .gt).Pairwise
      fun left right => compareTransactions P left right ≠ .gt := by
  -- The comparison is a preorder, as the stable sort requires.
  have transitive (first second third : OnecoinTransaction)
      (left : decide (compareTransactions P first second ≠ .gt) = true)
      (right : decide (compareTransactions P second third ≠ .gt) = true) :
      decide (compareTransactions P first third ≠ .gt) = true :=
    decide_eq_true (canonical_trans (of_decide_eq_true left) (of_decide_eq_true right))
  have total (left right : OnecoinTransaction) :
      (decide (compareTransactions P left right ≠ .gt) ||
        decide (compareTransactions P right left ≠ .gt)) = true := by
    by_cases descending : compareTransactions P left right = .gt
    · have ascending := Std.OrientedCmp.gt_iff_lt.mp descending
      simp [ascending]
    · simp [descending]
  have sorted := List.pairwise_mergeSort transitive total transactions
  simpa using sorted

/-- A block a node built has a canonical shape. -/
theorem validateShape_new {proposer : Identity} {height timestampUnix : Nat}
    {previousHash : Bytes32} {transactions : List OnecoinTransaction} {block : OnecoinBlock}
    (built : OnecoinBlock.new P proposer height previousHash transactions timestampUnix = .ok block) :
    block.validateShape P = .ok () := by
  unfold OnecoinBlock.new at built
  split at built
  · cases built
  · rename_i fits
    cases built
    simp only [OnecoinBlock.validateShape, no_descent_of_pairwise (pairwise_canonical transactions)]
    simp [Nat.not_lt.mp fits]

/-- A block a node built and signed carries its proposer's signature. -/
theorem verifyProposer_new (honest : P.HonestSignaturesVerify) {proposer : Identity}
    {height timestampUnix : Nat} {previousHash : Bytes32} {transactions : List OnecoinTransaction}
    {block : OnecoinBlock}
    (built : OnecoinBlock.new P proposer height previousHash transactions timestampUnix = .ok block) :
    block.verifyProposer P (proposer.publicKey P) = true := by
  unfold OnecoinBlock.new at built
  split at built
  · cases built
  · cases built
    -- The signature is made over the block with its signature zeroed, which it still is.
    rw [OnecoinBlock.verifyProposer, Bool.and_eq_true, Bool.and_eq_true, decide_eq_true_eq,
      decide_eq_true_eq]
    exact ⟨⟨rfl, rfl⟩, Identity.verify_sign honest proposer _⟩

/-- A block within the limit can be built, with its transactions in canonical order. -/
theorem exists_new (P : Primitives) (proposer : Identity) (height : Nat) (previousHash : Bytes32)
    (transactions : List OnecoinTransaction) (fits : transactions.length ≤ maxBlockTransactions)
    (timestampUnix : Nat) :
    ∃ block, OnecoinBlock.new P proposer height previousHash transactions timestampUnix = .ok block ∧
      block.transactions = transactions.mergeSort
        fun left right => compareTransactions P left right ≠ .gt := by
  unfold OnecoinBlock.new
  rw [if_neg (Nat.not_lt.mpr fits)]
  exact ⟨_, rfl, rfl⟩

/-- A block that was built names its height and its proposer. -/
theorem header_new {proposer : Identity} {height timestampUnix : Nat} {previousHash : Bytes32}
    {transactions : List OnecoinTransaction} {block : OnecoinBlock}
    (built : OnecoinBlock.new P proposer height previousHash transactions timestampUnix = .ok block) :
    block.header.height = height ∧ block.header.proposer = proposer.aweId P := by
  unfold OnecoinBlock.new at built
  split at built
  · cases built
  · cases built
    exact ⟨rfl, rfl⟩

/--
A block built on a state is final under any certificate that is accepted for it.

Its transactions must be different ones that can be executed there.
-/
theorem finalizable_built (honest : P.HonestSignaturesVerify) {validators : Validators}
    {s : OnecoinFinalizedState} {proposer : Identity} {timestampUnix : Nat}
    {transactions : List OnecoinTransaction} {block : OnecoinBlock}
    (known : validators[(proposer.aweId P).toHex]? = some (proposer.publicKey P))
    (built : OnecoinBlock.new P proposer (saturatingAdd u64Max s.height 1) s.tipHash transactions
      timestampUnix = .ok block)
    {certificate : QuorumCertificate}
    (certified : certificate.verify P validators (block.hash P) block.header.height = .ok ())
    (executable : Executable P s.ledger block.transactions)
    (distinct : (block.transactions.map (OnecoinTransaction.id P)).Nodup) :
    Finalizable P s block certificate validators := by
  have shape := validateShape_new built
  have signed := verifyProposer_new honest built
  unfold OnecoinBlock.new at built
  split at built
  · cases built
  · cases built
    exact ⟨⟨shape, ⟨_, known, signed⟩, rfl, rfl, certified⟩, executable, distinct⟩

/-- Of an empty block nothing has to be executed. -/
theorem finalizable_new (honest : P.HonestSignaturesVerify) {validators : Validators}
    {s : OnecoinFinalizedState} {proposer : Identity} {timestampUnix : Nat} {block : OnecoinBlock}
    (known : validators[(proposer.aweId P).toHex]? = some (proposer.publicKey P))
    (built : OnecoinBlock.new P proposer (saturatingAdd u64Max s.height 1) s.tipHash []
      timestampUnix = .ok block)
    {certificate : QuorumCertificate}
    (certified : certificate.verify P validators (block.hash P) block.header.height = .ok ()) :
    Finalizable P s block certificate validators := by
  have empty : block.transactions = [] := by
    obtain ⟨same, made, transactions⟩ := exists_new P proposer (saturatingAdd u64Max s.height 1)
      s.tipHash [] (Nat.zero_le _) timestampUnix
    rw [built] at made
    cases made
    rw [transactions, List.mergeSort_nil]
  refine finalizable_built honest known built certified ?_ ?_
  · rw [empty]
    trivial
  · rw [empty]
    exact List.nodup_nil

/-- A vote a node cast and signed carries its voter's signature. -/
theorem vote_verify_new (honest : P.HonestSignaturesVerify) (voter : Identity)
    (block : OnecoinBlock) (approve : Bool) :
    (SignedBlockVote.new P voter block approve).verify P (voter.publicKey P) = true := by
  simp only [SignedBlockVote.verify, Bool.and_eq_true, decide_eq_true_eq]
  exact ⟨rfl, Identity.verify_sign honest voter _⟩

end Awe
