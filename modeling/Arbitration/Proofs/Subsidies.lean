import Arbitration.Proofs.Completion
import Arbitration.Proofs.Custody

/-!
# What a subsidised counterparty gets back

A counterparty's stake is made up of its **own share** and of the subsidy that the reserve added
to it. `Engine.ownDeposit` adds up over a run what deposits for a dispute took from the account of
who made them, and that sum is the own share of the record at any time.

An agreement gives both stakes back in full, and a deadlock gives back half of what is left of
both. Neither looks at where a stake came from. So what a resolution pays to the counterparty
exceeds what it put in wherever **twice the subsidy is more than what is burned**.
-/

namespace Arbitration

/-! ### The own share -/

/-- What the counterparty itself paid of its stake. -/
def Dispute.ownShare (d : Dispute) : Nat :=
  if d.fullyStaked then d.initiatorStake.toNat - d.subsidy.toNat else 0

namespace Store

/-- What the counterparty of a dispute itself paid of its stake. -/
def ownShare (s : Store) (id : DisputeId) : Nat := ((s.get? id).map Dispute.ownShare).getD 0

variable {s s' : Store} {w : StoreWrite}

theorem ownShare_of_get? {id : DisputeId} {d : Dispute} (h : s.get? id = some d) :
    s.ownShare id = d.ownShare := by
  rw [ownShare, h, Option.map_some, Option.getD_some]

theorem ownShare_of_write (h : s.write w = .ok s') (id : DisputeId) :
    s'.ownShare id = if w.record.id = id then w.record.ownShare else s.ownShare id := by
  rw [ownShare, get?_of_write h]
  split
  · rfl
  · rfl

/-- A write that leaves the own share of its record leaves all of them. -/
theorem ownShare_of_write_same (h : s.write w = .ok s')
    (hsame : s.ownShare w.record.id = w.record.ownShare) (id : DisputeId) :
    s'.ownShare id = s.ownShare id := by
  rw [ownShare_of_write h]
  split
  · rename_i hid
    rw [← hid, hsame]
  · rfl

end Store

/-- A resolution leaves the own shares. -/
theorem Resolves.ownShare_eq {e : Engine} {d d' : Dispute} {r : Resolution} {moves : List Move}
    {events : List (DisputeId × Event)} {f : Footprint} (h : Resolves e d' r moves events f)
    (hsame : ∃ i c, d' = d.accepting i c) (hshare : e.store.ownShare d.id = d.ownShare)
    (id : DisputeId) : f.store.ownShare id = e.store.ownShare id := by
  obtain ⟨i, c, rfl⟩ := hsame
  obtain ⟨waiting, hwritten⟩ := h.exists_written
  exact Store.ownShare_of_write_same hwritten hshare id

/-- Only deposits change an own share. -/
theorem Succeeds.ownShare_eq {e : Engine} {op : Operation} {answer : Answer} {f : Footprint}
    (hs : Succeeds e op answer f) (h : e.Sound)
    (hother : ∀ caller id, op ≠ .deposit caller id) (id : DisputeId) :
    f.store.ownShare id = e.store.ownShare id := by
  have hshare : ∀ {id : DisputeId} {d : Dispute}, e.store.get? id = some d →
      e.store.ownShare d.id = d.ownShare := by
    intro id d hget
    have hid := h.keyed id d hget
    exact Store.ownShare_of_get? (hid ▸ hget)
  cases hs with
  | initiate admitted setAside counted frozen dated written =>
    rw [Store.ownShare_of_write written]
    split
    · -- there was no record under the next number, and the new one is not staked
      rename_i hid
      have hnone : e.store.get? id = none := hid ▸ h.get?_nextId
      rw [Store.ownShare, hnone]
      rfl
    · rfl
  | deposit admitted added written => exact absurd rfl (hother _ _)
  | @grantSubsidy caller id' d amount store admitted written =>
    obtain ⟨hget, -, -, hstaked, -⟩ := Engine.admitSubsidy_eq_ok_iff.1 admitted
    -- a subsidy counts only once the stake is posted
    have hnothing : ∀ amount : Amount, ({ d with subsidy := amount } : Dispute).ownShare = 0 :=
      fun amount => if_neg (Bool.eq_false_iff.1 hstaked)
    refine Store.ownShare_of_write_same written ?_ id
    exact (hshare hget).trans ((hnothing d.subsidy).trans (hnothing amount).symm)
  | @submit caller id' p d store admitted written =>
    obtain ⟨-, hget, -⟩ := Engine.admitProposal_eq_ok_iff.1 admitted
    have hsame := hshare hget
    exact Store.ownShare_of_write_same written hsame id
  | @accept caller id' a store admitted one written =>
    obtain ⟨hget, -⟩ := Engine.admitAcceptance_eq_ok_iff.1 admitted
    obtain ⟨i, c, haccept⟩ := a.record.accept_eq a.party
    rw [haccept] at written
    have hsame := hshare hget
    exact Store.ownShare_of_write_same written hsame id
  | @counter caller id' r c routed next deadline store admitted routes opened dated written =>
    obtain ⟨hget, -⟩ := Engine.admitCounter_eq_ok_iff.1 admitted
    obtain ⟨startTime, -, -, -, rfl⟩ := Dispute.counterRound_eq_ok_iff.1 opened
    have hsame := hshare hget
    exact Store.ownShare_of_write_same written hsame id
  | @agree caller id' a f admitted both resolves =>
    obtain ⟨hget, -⟩ := Engine.admitAcceptance_eq_ok_iff.1 admitted
    exact resolves.ownShare_eq (a.record.accept_eq a.party) (hshare hget) id
  | @lapse caller source id' d draw skipped f admitted draws resolves =>
    obtain ⟨hget, -⟩ := Engine.admitEnforcement_eq_silent_iff.1 admitted
    exact resolves.ownShare_eq ⟨_, _, rfl⟩ (hshare hget) id
  | @deadlock caller id' d settlement f admitted resolves =>
    obtain ⟨hget, -⟩ := Engine.admitEnforcement_eq_deadlocked_iff.1 admitted
    exact resolves.ownShare_eq ⟨_, _, rfl⟩ (hshare hget) id
  | @retry caller id' d release registry store admitted freed written =>
    obtain ⟨hget, -⟩ := Engine.admitRetry_eq_ok_iff.1 admitted
    have hsame := hshare hget
    exact Store.ownShare_of_write_same written hsame id

/-! ### What deposits take -/

namespace Engine

/-- What a deposit for a dispute takes from the account of who makes it. Other turns are none. -/
def ownDebit (e : Engine) (id : DisputeId) : Turn → Nat
  | .call (.deposit caller dispute) =>
    if dispute = id then
      (e.ledger.balance caller).toNat -
        ((e.perform (.deposit caller dispute)).2.ledger.balance caller).toNat
    else 0
  | _ => 0

/-- What all deposits for a dispute take from the accounts of who makes them. -/
def ownDeposit (e : Engine) (id : DisputeId) : List Turn → Nat
  | [] => 0
  | s :: rest => e.ownDebit id s + (e.step s).ownDeposit id rest

variable {e : Engine}

theorem ownDeposit_append (id : DisputeId) (first later : List Turn) :
    e.ownDeposit id (first ++ later) =
      e.ownDeposit id first + (e.run first).ownDeposit id later := by
  induction first generalizing e with
  | nil => exact (Nat.zero_add _).symm
  | cons s first ih =>
    rw [List.cons_append, ownDeposit, ih, ownDeposit, Nat.add_assoc]
    rfl

/-- A deposit raises the own share of its dispute by what it takes from the caller. -/
theorem Sound.ownShare_deposit {caller : AccountId} {dispute : DisputeId} {answer : Answer}
    {f : Footprint} {ledger : Ledger} (h : e.Sound)
    (hs : Succeeds e (.deposit caller dispute) answer f) (hmoves : e.ledger.Moves f.moves ledger)
    (id : DisputeId) :
    f.store.ownShare id = e.store.ownShare id +
      if dispute = id then (e.ledger.balance caller).toNat - (ledger.balance caller).toNat
      else 0 := by
  cases hs with
  | @deposit _ _ dep total store admitted added written =>
    obtain ⟨hget, -, rfl, hstaked, -, -, -, hown⟩ := admitDeposit_eq_ok_iff.1 admitted
    have hid := h.keyed dispute _ hget
    have hd := h.records dispute _ hget
    have hmatched : ({ dep.record with counterpartyStake := dep.record.initiatorStake } :
        Dispute).fullyStaked = true := by rw [Dispute.fullyStaked, hd.staked]; rfl
    rw [Store.ownShare_of_write written]
    change (if dep.record.id = id then _ else _) = _
    rw [hid]
    split
    · rename_i hsame
      -- neither escrow nor the defense fund is the account of the counterparty
      obtain ⟨hescrow, hfund, -⟩ := h.standard.protocol_ne hd.counterparty
      have hbalance := hmoves.balance dep.record.counterparty
      have hsum := Amount.sub_eq_ok_iff.1 hown
      simp only [given_cons, given_nil, taken_cons, taken_nil, if_true] at hbalance
      rw [if_neg hescrow, if_neg hescrow, if_neg hfund] at hbalance
      rw [← hsame, Store.ownShare_of_get? hget, Dispute.ownShare, Dispute.ownShare, hmatched,
        hstaked, if_pos rfl, if_neg Bool.false_ne_true]
      show dep.record.initiatorStake.toNat - dep.record.subsidy.toNat = _
      omega
    · rfl

/-- **One turn.** Own shares grow by what deposits take. -/
theorem Sound.ownShare_step (h : e.Sound) (s : Turn) (hclean : e.stepsCleanly s = true)
    (id : DisputeId) : (e.step s).store.ownShare id = e.store.ownShare id + e.ownDebit id s := by
  have hturned := h.turned s hclean
  have hdebit : ∀ caller dispute, s = .call (.deposit caller dispute) → e.ownDebit id s =
      if dispute = id then
        (e.ledger.balance caller).toNat - ((e.step s).ledger.balance caller).toNat
      else 0 := by
    rintro caller dispute rfl
    rfl
  have hnothing : (∀ caller dispute, s ≠ .call (.deposit caller dispute)) →
      e.ownDebit id s = 0 := by
    intro hother
    unfold ownDebit
    split
    · exact absurd rfl (hother _ _)
    · rfl
  generalize e.step s = e' at hturned hdebit ⊢
  cases hturned with
  | idle same =>
    have hshare : e'.store.ownShare id = e.store.ownShare id := by
      rw [Store.ownShare, same.get?, Store.ownShare]
    rw [hshare]
    by_cases hdeposit : ∃ caller dispute, s = .call (.deposit caller dispute)
    · -- a deposit that failed takes nothing
      obtain ⟨caller, dispute, hs⟩ := hdeposit
      rw [hdebit caller dispute hs, same.balance, Nat.sub_self, ite_self, Nat.add_zero]
    · rw [hnothing fun caller dispute hs => hdeposit ⟨caller, dispute, hs⟩, Nat.add_zero]
  | @done op answer f ledger succeeds moves =>
    by_cases hdeposit : ∃ caller dispute, op = .deposit caller dispute
    · obtain ⟨caller, dispute, rfl⟩ := hdeposit
      rw [hdebit caller dispute rfl]
      exact h.ownShare_deposit succeeds moves id
    · have hother : ∀ caller dispute, op ≠ .deposit caller dispute :=
        fun caller dispute hop => hdeposit ⟨caller, dispute, hop⟩
      rw [hnothing fun caller dispute hs => hother caller dispute (Turn.call.inj hs),
        Nat.add_zero]
      exact succeeds.ownShare_eq h hother id

/-- **A whole run.** The own share of a dispute is what deposits for it took. -/
theorem Sound.ownShare_run {turns : List Turn} (h : e.Sound)
    (hclean : e.runsCleanly turns = true) (id : DisputeId) :
    (e.run turns).store.ownShare id = e.store.ownShare id + e.ownDeposit id turns := by
  induction turns generalizing e with
  | nil => rfl
  | cons s rest ih =>
    obtain ⟨hfirst, hrest⟩ := Bool.and_eq_true_iff.1 hclean
    have hrun := ih (h.step s hfirst) hrest
    rw [h.ownShare_step s hfirst, Nat.add_assoc] at hrun
    exact hrun

end Engine

theorem CleanRun.ownShare_run {start : Engine} {turns : List Turn} (h : CleanRun start turns)
    (id : DisputeId) : (start.run turns).store.ownShare id = start.ownDeposit id turns := by
  have hzero : start.store.ownShare id = 0 := by
    obtain ⟨-, -, -, -, hstore, -⟩ := h.fresh.parts
    rw [hstore]
    rfl
  rw [h.fresh.sound.ownShare_run h.clean, hzero, Nat.zero_add]

/-! ### What a resolution pays to the counterparty -/

namespace Engine.Decides

variable {e : Engine} {d handed : Dispute} {r : Resolution} {moves : List Move}
  {events : List (DisputeId × Event)}

/-- Before a resolution nothing is moved to or from the counterparty. -/
theorem counterparty_untouched (h : e.Decides d handed r moves events) (hs : e.Standard)
    (hd : d.Sound e.config) :
    given d.counterparty moves = 0 ∧ taken d.counterparty moves = 0 := by
  cases h with
  | agreement staked proposed both => exact ⟨rfl, rfl⟩
  | deadlock staked split => exact ⟨rfl, rfl⟩
  | @lapse source draw skipped unstaked draws =>
    obtain ⟨-, hfund, hearmark, -, -, hreserve⟩ := hs.protocol_ne hd.counterparty
    have hsource : source ≠ d.counterparty := by
      rcases draws.source with ⟨-, rfl⟩ | ⟨-, rfl, -⟩
      · exact hreserve
      · exact hearmark
    simp only [Engine.subsidyReturn, given_cons, given_nil, taken_cons, taken_nil]
    rw [if_neg hreserve, if_neg (Ne.symm hd.distinct), if_neg hfund, if_neg hsource]
    exact ⟨rfl, rfl⟩

/-- **The share of the counterparty** is more than what it paid itself exactly if it had staked
and twice the subsidy is more than what is burned. It is never more by more than the subsidy. -/
theorem counterparty_share (h : e.Decides d handed r moves events) (hd : d.Sound e.config) :
    r.settlement.toCounterparty.toNat ≤ d.ownShare + d.subsidy.toNat ∧
      (r.settlement.toCounterparty.toNat ≤ d.ownShare ↔ d.fullyStaked = false ∨
        2 * d.subsidy.toNat ≤ r.settlement.burned.toNat + r.settlement.dust.toNat) := by
  have hsubsidy := hd.subsidised
  cases h with
  | @agreement p terms staked proposed both =>
    obtain ⟨i, c, haccept⟩ := d.accept_eq p
    have hmatched := congrArg Amount.toNat (hd.matched staked)
    rw [haccept, Dispute.ownShare, staked, if_pos rfl]
    show d.counterpartyStake.toNat ≤ _ ∧ (d.counterpartyStake.toNat ≤ _ ↔ _ ∨ _ ≤ 0 + 0)
    simp only [reduceCtorEq, false_or]
    omega
  | lapse unstaked draws =>
    exact ⟨Nat.zero_le _, iff_of_true (Nat.zero_le _) (.inl unstaked)⟩
  | @deadlock settlement staked split =>
    have hmatched := congrArg Amount.toNat (hd.matched staked)
    have hleaving := Policy.leaving_timeoutSplit split
    have hequal := Policy.timeoutSplit_equal split
    rw [Dispute.ownShare, staked, if_pos rfl]
    show settlement.toCounterparty.toNat ≤ _ ∧ (settlement.toCounterparty.toNat ≤ _ ↔ _ ∨
      _ ≤ settlement.burned.toNat + settlement.dust.toNat)
    simp only [Settlement.leaving, hequal] at hleaving
    simp only [reduceCtorEq, false_or]
    omega

end Engine.Decides

/-- A resolution pays the counterparty what the settlement says, and takes nothing from it. -/
theorem Resolution.counterparty_moves {e : Engine} {d : Dispute} {r : Resolution}
    {burned : Amount} (hs : e.Standard) (hne : d.counterparty ≠ d.initiator)
    (hparty : d.counterparty.isSystem = false) :
    given d.counterparty (r.moves e d burned) = r.settlement.toCounterparty.toNat ∧
      taken d.counterparty (r.moves e d burned) = 0 := by
  obtain ⟨hescrow, -, hearmark, hsink, -, hreserve⟩ := hs.protocol_ne hparty
  simp only [moves, payouts, List.cons_append, List.nil_append, given_cons, given_nil, taken_cons,
    taken_nil, if_true]
  rw [if_neg (Ne.symm hne), if_neg hsink, if_neg hreserve, if_neg hescrow, if_neg hescrow,
    if_neg hescrow, if_neg hearmark]
  exact ⟨Nat.zero_add _, rfl⟩

/-- **When a counterparty gets back more than it paid.** Let an operation resolve a dispute in a
clean run. What the counterparty's deposit took from it is its stake less the subsidy, and nothing
if it never staked. It is credited with its part of the settlement: at most what the deposit took
together with the subsidy, and at most what the deposit took exactly if it never staked or at least
twice the subsidy is burned. -/
theorem counterparty_credit_le_deposit_iff {start : Engine} {turns : List Turn} {op : Operation}
    {answer : Answer} {id : DisputeId} {d d' : Dispute} (h : CleanRun start turns)
    (hdone : ((start.run turns).perform op).1 = .ok answer)
    (hget : (start.run turns).store.get? id = some d) (hopen : d.resolved = false)
    (hget' : ((start.run turns).perform op).2.store.get? id = some d')
    (hresolved : d'.resolved = true) :
    start.ownDeposit id turns =
        (if d.fullyStaked then d.initiatorStake.toNat - d.subsidy.toNat else 0) ∧
      ∃ s, d'.settlement = some s ∧
        (((start.run turns).perform op).2.ledger.balance d.counterparty).toNat =
          ((start.run turns).ledger.balance d.counterparty).toNat + s.toCounterparty.toNat ∧
        s.toCounterparty.toNat ≤ start.ownDeposit id turns + d.subsidy.toNat ∧
        (s.toCounterparty.toNat ≤ start.ownDeposit id turns ↔ d.fullyStaked = false ∨
          2 * d.subsidy.toNat ≤ s.burned.toNat + s.dust.toNat) := by
  have hsound := h.sound
  have hd := hsound.records id d hget
  have hid := hsound.keyed id d hget
  have hshare : start.ownDeposit id turns = d.ownShare :=
    (h.ownShare_run id).symm.trans (Store.ownShare_of_get? hget)
  have hperform : (start.run turns).perform op =
      (.ok answer, ((start.run turns).perform op).2) := Prod.ext hdone rfl
  obtain ⟨f, ledger, hsucceeds, hmoves, hafter⟩ := Engine.perform_ok hsound.keyed hperform
  rw [← hafter] at hget' ⊢
  obtain ⟨handed, r, moves, events, hdecides, hresolves⟩ :=
    (hsucceeds.treats hsound).exists_decides hsound hget hopen hget' hresolved
  obtain ⟨hbound, hiff⟩ := hdecides.counterparty_share hd
  obtain ⟨hgiven, htaken⟩ := hdecides.counterparty_untouched hsound.standard hd
  obtain ⟨i, c, rfl⟩ := hdecides.accepting
  -- the record is the one that the resolution wrote
  obtain ⟨waiting, hwritten⟩ := hresolves.exists_written
  have hrecord : f.store.get? id = _ := (Store.get?_of_write hwritten id).trans (if_pos hid)
  obtain rfl := Option.some.inj (hrecord.symm.trans hget')
  refine ⟨hshare, r.settlement, rfl, ?_, by rwa [hshare], by rwa [hshare]⟩
  -- and the ledger has seen the moves of the resolution, and those before it
  obtain ⟨burned, -, hall⟩ := hresolves.exists_moves
  obtain ⟨hcredited, hdebited⟩ :
      given d.counterparty (r.moves (start.run turns) (d.accepting i c) burned) =
          r.settlement.toCounterparty.toNat ∧
        taken d.counterparty (r.moves (start.run turns) (d.accepting i c) burned) = 0 :=
    Resolution.counterparty_moves hsound.standard hd.distinct hd.counterparty
  have hbalance := hmoves.balance d.counterparty
  rw [hall, taken_append, given_append, htaken, hgiven] at hbalance
  rw [hcredited, hdebited, Nat.zero_add, Nat.zero_add, Nat.add_zero] at hbalance
  exact hbalance

/-! ### Deadlock and agreement under a subsidy -/

namespace Sample

/-- Bob stakes a hundred, five of which are a subsidy. -/
def backed : List Turn := subsidised ++ [.call (.deposit bob .first)]

/-- The record then. -/
def backedRecord : Dispute := { contested with subsidy := ⟨5⟩ }

/-- The second after the time to agree is over. -/
def tooLate : Timestamp := (Timestamp.ofEpoch? 1768435201).get (by decide)

/-- Both parties let the time to agree pass. -/
def deadlocked : List Turn := backed ++ [.clock tooLate]

theorem get?_deadlocked : (engine.run deadlocked).store.get? .first = some backedRecord := by
  decide +kernel

/-- The oracle proposes terms, and Alice accepts them. -/
def offered : List Turn :=
  backed ++ [.call (.submit oracle.account .first proposal), .call (.accept alice .first)]

theorem perform_submit_backed :
    (engine.run backed).perform (.submit oracle.account .first proposal) =
      (.ok .done, withProposal (engine.run backed) backedRecord) :=
  perform_submit (t := twoWeeksLater) rfl (by decide +kernel) rfl rfl rfl rfl rfl
    (by decide +kernel) (by decide +kernel) rfl

theorem run_offered : engine.run offered =
    (withProposal (engine.run backed) backedRecord).run [.call (.accept alice .first)] := by
  rw [offered, Engine.run_append, Engine.run_call perform_submit_backed]

end Sample

/-- In a deadlock half of the stakes are burned, so Bob loses more than his subsidy. -/
theorem deadlock_pays_no_subsidy :
    CleanRun Sample.engine Sample.deadlocked ∧
      (((Sample.engine.run Sample.deadlocked).perform
          (.enforce Sample.bob .first)).2.ledger.balance Sample.bob).toNat =
        ((Sample.engine.run Sample.deadlocked).ledger.balance Sample.bob).toNat + 50 ∧
      50 ≤ Sample.engine.ownDeposit .first Sample.deadlocked := by
  have hclean : CleanRun Sample.engine Sample.deadlocked :=
    ⟨Sample.engine_fresh, by decide +kernel⟩
  have hdone : ((Sample.engine.run Sample.deadlocked).perform (.enforce Sample.bob .first)).1 =
      .ok (.ended .timeoutWithBurn) := rfl
  have hafter : ((Sample.engine.run Sample.deadlocked).perform
      (.enforce Sample.bob .first)).2.store.get? .first =
        some (Sample.backedRecord.resolve .timeoutWithBurn
          ⟨⟨50⟩, ⟨50⟩, ⟨100⟩, .zero, .zero⟩ Sample.tooLate) := by
    decide +kernel
  obtain ⟨-, s, hs, hcredit, -, hiff⟩ := counterparty_credit_le_deposit_iff hclean hdone
    Sample.get?_deadlocked rfl hafter rfl
  cases hs
  exact ⟨hclean, hcredit, hiff.2 (.inr (by decide))⟩

/-- **An agreement pays the subsidy out.** Bob pays ninety-five of his stake himself, and when both
parties agree he is credited with a hundred. -/
theorem agreement_pays_subsidy_out :
    CleanRun Sample.engine Sample.offered ∧
      ((Sample.engine.run Sample.offered).perform (.accept Sample.bob .first)).1 = .ok .done ∧
      (((Sample.engine.run Sample.offered).store.get? .first).map (·.resolved)) = some false ∧
      ((((Sample.engine.run Sample.offered).perform
        (.accept Sample.bob .first)).2.store.get? .first).map (·.resolved)) = some true ∧
      Sample.engine.ownDeposit .first Sample.offered = 95 ∧
      (((Sample.engine.run Sample.offered).perform
          (.accept Sample.bob .first)).2.ledger.balance Sample.bob).toNat =
        ((Sample.engine.run Sample.offered).ledger.balance Sample.bob).toNat + 100 := by
  have hclean : Sample.engine.runsCleanly Sample.offered = true := by
    rw [Sample.offered, Engine.runsCleanly_append,
      Engine.runsCleanly_call Sample.perform_submit_backed]
    decide +kernel
  have hdeposit : Sample.engine.ownDeposit .first Sample.backed = 95 := by decide +kernel
  refine ⟨⟨Sample.engine_fresh, hclean⟩, ?_, ?_, ?_, ?_, ?_⟩
  · rw [Sample.run_offered]
    rfl
  · rw [Sample.run_offered]
    decide +kernel
  · rw [Sample.run_offered]
    decide +kernel
  · -- neither the proposal nor the acceptance is a deposit
    rw [Sample.offered, Engine.ownDeposit_append, hdeposit]
    rfl
  · rw [Sample.run_offered]
    decide +kernel

end Arbitration
