import Awe.Messenger.SessionLaws

/-! Both ends of a messenger session seal under one key: which nonces they use twice. -/

namespace Awe

open Rust

namespace MessengerSession

/-- Nonces are told apart by their numbers and their random bytes. -/
theorem nonce_inj {left right : UInt64} {first second : Vector UInt8 4} :
    nonce left first = nonce right second ↔ left = right ∧ first = second := by
  refine ⟨fun same => ?_, fun same => by rw [same.1, same.2]⟩
  have bytes := congrArg Vector.toList same
  simp only [nonce] at bytes
  -- The numbers fill the first eight bytes on both sides.
  obtain ⟨spelled, drawn⟩ := List.append_inj bytes (by simp)
  have number := congrArg ofBeBytes spelled
  rw [ofBeBytes_beBytes left.toNat_lt, ofBeBytes_beBytes right.toNat_lt] at number
  exact ⟨UInt64.toNat_inj.mp number, Vector.toList_inj.mp drawn⟩

/-- A call of `encrypt` at one of the two ends of a session. -/
inductive EndCall where
  | left (draft : Draft)
  | right (draft : Draft)

/-- What a call at the left end seals. -/
def EndCall.left? : EndCall → Option Draft
  | .left draft => some draft
  | .right _ => none

/-- What a call at the right end seals. -/
def EndCall.right? : EndCall → Option Draft
  | .left _ => none
  | .right draft => some draft

/-- The two ends of a session, both of which seal. -/
structure Pair where
  left : MessengerSession
  right : MessengerSession

namespace Pair

variable (P : TransportPrimitives)

/-- The session between two ephemeral secrets. -/
def new (left right : Bytes32) (context : Bytes) : Pair :=
  ⟨fromEphemeral P left (P.xPublic right) context, fromEphemeral P right (P.xPublic left) context⟩

/-- What a call at one end returns, and what it leaves. -/
def answer (pair : Pair) :
    EndCall → Except MessengerError (UInt64 × Vector UInt8 12 × Bytes) × Pair
  | .left draft =>
    let sent := (encrypt P draft.envelope draft.random).run pair.left
    (sent.1, { pair with left := sent.2 })
  | .right draft =>
    let sent := (encrypt P draft.envelope draft.random).run pair.right
    (sent.1, { pair with right := sent.2 })

/-- The nonces that calls at both ends return, one after the other. -/
def nonces (pair : Pair) (calls : List EndCall) : List (Vector UInt8 12) :=
  (transcript (answer P) pair calls).filterMap fun entry => entry.2.toOption.map (·.2.1)

end Pair

variable {P : TransportPrimitives} {key : Bytes32}

variable (P key) in
/-- The nonces that one end uses for some drafts once it has counted up to a number. -/
def numbered : Nat → List Draft → List (Vector UInt8 12)
  | _, [] => []
  | count, draft :: rest =>
    if count < u64Max ∧ (ciphertext P key (.ofNat count) draft).isSome then
      nonce (.ofNat count) draft.random :: numbered (count + 1) rest
    else numbered (count + 1) rest

/-- An end that uses a key and has counted up to a number, or as far as it can. -/
structure Counted (key : Bytes32) (count : Nat) (self : MessengerSession) : Prop where
  key : self.key = key
  count : self.sendSequence.toNat = min count u64Max

/-- One call uses the next nonce, if a number is left and the envelope can be sealed. -/
theorem Counted.encrypt {count : Nat} {self : MessengerSession} (counted : self.Counted key count)
    (draft : Draft) :
    ((encrypt P draft.envelope draft.random).run self).1.toOption.map (·.2.1) =
      (if count < u64Max ∧ (ciphertext P key (.ofNat count) draft).isSome then
        some (nonce (.ofNat count) draft.random) else none) ∧
    ((MessengerSession.encrypt P draft.envelope draft.random).run self).2.Counted key (count + 1) := by
  obtain ⟨rfl, counts⟩ := counted
  by_cases exhausted : self.sendSequence.toNat = u64Max
  · rw [run_encrypt_exhausted exhausted, if_neg (by omega)]
    exact ⟨rfl, rfl, by dsimp only; omega⟩
  -- Numbers are left, so the count is the current one.
  have left : count < u64Max := by omega
  have current : UInt64.ofNat count = self.sendSequence := by
    rw [← UInt64.toNat_inj, counts, UInt64.toNat_ofNat_of_lt']
    · omega
    · have limit : u64Max = 2 ^ 64 - 1 := rfl
      have size : UInt64.size = 2 ^ 64 := rfl
      omega
  have advanced := sendSequence_advance exhausted
  rw [run_encrypt exhausted, current]
  refine ⟨?_, rfl, by dsimp only; omega⟩
  cases ciphertext P self.key self.sendSequence draft with
  | none => simp [Except.toOption]
  | some ct => simp [Except.toOption, left]

/-- Calls at both ends use the nonces of both, in some order. -/
theorem Pair.nonces_perm (calls : List EndCall) {pair : Pair} {left right : Nat}
    (leftCounted : pair.left.Counted key left) (rightCounted : pair.right.Counted key right) :
    (pair.nonces P calls).Perm (numbered P key left (calls.filterMap EndCall.left?) ++
      numbered P key right (calls.filterMap EndCall.right?)) := by
  induction calls generalizing pair left right with
  | nil => exact List.Perm.refl _
  | cons call rest ih =>
    cases call with
    | left draft =>
      -- The call uses up a number of the left end, and the right end stays as it is.
      obtain ⟨used, next⟩ := leftCounted.encrypt (P := P) draft
      have others := @ih (pair.answer P (.left draft)).2 _ _ next rightCounted
      simp only [nonces, transcript, List.filterMap_cons, answer, EndCall.left?, EndCall.right?, used,
        numbered] at others ⊢
      by_cases usable : left < u64Max ∧ (ciphertext P key (.ofNat left) draft).isSome
      · rw [if_pos usable, if_pos usable]
        exact others.cons _
      · rw [if_neg usable, if_neg usable]
        exact others
    | right draft =>
      -- A nonce of the right end comes after those of the left end in the sorted order.
      obtain ⟨used, next⟩ := rightCounted.encrypt (P := P) draft
      have others := @ih (pair.answer P (.right draft)).2 _ _ leftCounted next
      simp only [nonces, transcript, List.filterMap_cons, answer, EndCall.left?, EndCall.right?, used,
        numbered] at others ⊢
      by_cases usable : right < u64Max ∧ (ciphertext P key (.ofNat right) draft).isSome
      · rw [if_pos usable, if_pos usable]
        exact (others.cons _).trans List.perm_middle.symm
      · rw [if_neg usable, if_neg usable]
        exact others

/-- One end uses the nonces of the numbers that it can seal its drafts under. -/
theorem mem_numbered {drafts : List Draft} {count : Nat} {used : Vector UInt8 12} :
    used ∈ numbered P key count drafts ↔ ∃ position draft, drafts[position]? = some draft ∧
      count + position < u64Max ∧
      (ciphertext P key (.ofNat (count + position)) draft).isSome ∧
      used = nonce (.ofNat (count + position)) draft.random := by
  induction drafts generalizing count with
  | nil => simp [numbered]
  | cons draft rest ih =>
    have next (position : Nat) : count + (position + 1) = count + 1 + position := by omega
    -- The first draft has position zero, and the positions of the others go up by one.
    have shifted : (∃ position other, (draft :: rest)[position]? = some other ∧
        count + position < u64Max ∧ (ciphertext P key (.ofNat (count + position)) other).isSome ∧
        used = nonce (.ofNat (count + position)) other.random) ↔
        ((count < u64Max ∧ (ciphertext P key (.ofNat count) draft).isSome) ∧
          used = nonce (.ofNat count) draft.random) ∨
        used ∈ numbered P key (count + 1) rest := by
      rw [ih]
      constructor
      · rintro ⟨position, other, located, room, made, same⟩
        cases position with
        | zero =>
          obtain rfl := Option.some.inj located
          exact Or.inl ⟨⟨room, made⟩, same⟩
        | succ position =>
          rw [next] at room made same
          exact Or.inr ⟨position, other, located, room, made, same⟩
      · rintro (⟨⟨room, made⟩, same⟩ | ⟨position, other, located, room, made, same⟩)
        · exact ⟨0, draft, rfl, room, made, same⟩
        · rw [← next] at room made same
          exact ⟨position + 1, other, located, room, made, same⟩
    rw [shifted, numbered]
    split
    · rename_i usable
      rw [List.mem_cons, and_iff_right usable]
    · rename_i unusable
      simp [unusable]

/-- Numbers below the largest one are told apart by their 64 bits. -/
theorem ofNat_inj_of_lt {left right : Nat} (leftRoom : left < u64Max) (rightRoom : right < u64Max)
    (same : UInt64.ofNat left = UInt64.ofNat right) : left = right := by
  have limit : u64Max = 2 ^ 64 - 1 := rfl
  have size : UInt64.size = 2 ^ 64 := rfl
  have numbers := congrArg UInt64.toNat same
  rwa [UInt64.toNat_ofNat_of_lt' (by omega), UInt64.toNat_ofNat_of_lt' (by omega)] at numbers

/-- One end never uses a nonce twice. -/
theorem nodup_numbered (drafts : List Draft) (count : Nat) : (numbered P key count drafts).Nodup := by
  induction drafts generalizing count with
  | nil => exact List.nodup_nil
  | cons draft rest ih =>
    rw [numbered]
    split
    · rename_i usable
      refine List.nodup_cons.mpr ⟨fun again => ?_, ih (count + 1)⟩
      obtain ⟨position, other, _, room, _, same⟩ := mem_numbered.mp again
      -- A later draft has a greater number.
      have number := ofNat_inj_of_lt usable.1 room (nonce_inj.mp same).1
      omega
    · exact ih (count + 1)

/-- Two ends that start at zero share no nonce exactly if equal numbers have different bytes. -/
theorem disjoint_numbered_iff {left right : List Draft} :
    (∀ first ∈ numbered P key 0 left, ∀ second ∈ numbered P key 0 right, first ≠ second) ↔
      ∀ position first second, left[position]? = some first → right[position]? = some second →
        position < u64Max → (ciphertext P key (.ofNat position) first).isSome →
        (ciphertext P key (.ofNat position) second).isSome → first.random ≠ second.random := by
  constructor
  · intro apart position first second here there room made made' same
    refine apart (nonce (.ofNat position) first.random) ?_ (nonce (.ofNat position) second.random) ?_
      (by rw [same])
    · exact mem_numbered.mpr ⟨position, first, here, by omega, by rwa [Nat.zero_add], by
        rw [Nat.zero_add]⟩
    · exact mem_numbered.mpr ⟨position, second, there, by omega, by rwa [Nat.zero_add], by
        rw [Nat.zero_add]⟩
  · intro drawn used first used' second same
    obtain ⟨position, draft, here, room, made, rfl⟩ := mem_numbered.mp first
    obtain ⟨place, other, there, room', made', rfl⟩ := mem_numbered.mp second
    -- Equal nonces have equal numbers, so the drafts have equal positions.
    obtain ⟨numbers, bytes⟩ := nonce_inj.mp same
    obtain rfl : position = place := by
      have number := ofNat_inj_of_lt room room' numbers
      omega
    rw [Nat.zero_add] at room made made'
    exact drawn position draft other here there room made made' bytes

/-- In a new session no nonce is used twice exactly if equal numbers have different bytes. -/
theorem Pair.nodup_nonces_new_iff (shares : P.SharesSecrets) (left right : Bytes32) (context : Bytes)
    (calls : List EndCall) :
    ((Pair.new P left right context).nonces P calls).Nodup ↔
      ∀ position first second, (calls.filterMap EndCall.left?)[position]? = some first →
        (calls.filterMap EndCall.right?)[position]? = some second → position < u64Max →
        (ciphertext P (Pair.new P left right context).left.key (.ofNat position) first).isSome →
        (ciphertext P (Pair.new P left right context).left.key (.ofNat position) second).isSome →
        first.random ≠ second.random := by
  have same := congrArg MessengerSession.key (fromEphemeral_comm shares left right context)
  have used : ((Pair.new P left right context).nonces P calls).Perm _ :=
    Pair.nonces_perm calls ⟨rfl, (Nat.zero_min _).symm⟩ ⟨same.symm, (Nat.zero_min _).symm⟩
  -- Each end alone never repeats a nonce, so only those of different ends can be equal.
  rw [used.nodup_iff, List.nodup_append]
  simp only [nodup_numbered, true_and, disjoint_numbered_iff]

/-- The ends of a new session have one key, and no nonce is used twice iff calls with the same number
at both ends draw different bytes. -/
theorem nonces_differ_iff (P : TransportPrimitives) (shares : P.SharesSecrets) (fits : Nat → Prop)
    (sized : P.SizedAead fits) (left right : Bytes32) (context : Bytes) (calls : List EndCall) :
    (Pair.new P left right context).left.key = (Pair.new P left right context).right.key ∧
    (((Pair.new P left right context).nonces P calls).Nodup ↔
      ∀ position first second, (calls.filterMap EndCall.left?)[position]? = some first →
        (calls.filterMap EndCall.right?)[position]? = some second → position < u64Max →
        fits (P.toVec first.envelope.toJson).length → fits (P.toVec second.envelope.toJson).length →
        first.random ≠ second.random) := by
  refine ⟨congrArg key (fromEphemeral_comm shares left right context), ?_⟩
  rw [Pair.nodup_nonces_new_iff shares]
  simp only [ciphertext, sized _ _ _ _]

open Reference (transport sharesSecrets sizedAead greeting)

/-- A greeting and its answer that draw different bytes use different nonces. -/
theorem answered_greeting_has_two_nonces :
    ((Pair.new transport (Reference.key 3) (Reference.key 4) []).nonces transport
      [.left (greeting 0), .right { greeting 0 with random := Vector.replicate 4 1 }]).Nodup := by
  refine (nonces_differ_iff transport sharesSecrets _ sizedAead _ _ _ _).2.mpr ?_
  intro position first second here there _ _ _
  match position, here, there with
  | 0, here, there =>
    obtain rfl := Option.some.inj here
    obtain rfl := Option.some.inj there
    decide

/-- A greeting and its answer that draw the same bytes use one nonce. -/
theorem answered_greeting_shares_nonce :
    ¬ ∀ calls, ((Pair.new transport (Reference.key 3) (Reference.key 4) []).nonces transport
      calls).Nodup := by
  intro claimed
  have used := claimed [.left (greeting 0), .right (greeting 0)]
  rw [Pair.nodup_nonces_new_iff sharesSecrets] at used
  exact used 0 (greeting 0) (greeting 0) rfl rfl (by decide) rfl rfl rfl

end MessengerSession

end Awe
