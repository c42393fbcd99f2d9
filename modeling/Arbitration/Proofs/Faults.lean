import Arbitration.Proofs.Records

/-!
# Whatever is refused

Once a compensation is refused a run is no longer clean, and the invariant of clean runs is lost: a
pot may hold less than its shares, and an asset may be free that its record says is held. The
records are another matter. A failed operation always puts them back (`Engine.store_of_error`), so
`Engine.Intact` holds in **every** state of every run: each record stands under its own number, the
numbers have no gap, and no party is an account of the protocol.

`Engine.Writes` is what can be said of a successful operation in such a state. It speaks of one
record and of escrow, and not of the registry, which may say anything by then.
-/

namespace Arbitration

namespace Dispute

/-- What the two parties have staked. -/
def stakes (d : Dispute) : Nat := d.initiatorStake.toNat + d.counterpartyStake.toNat

/-- The parties, their stakes and whether the dispute is over are the same. -/
structure Carries (d next : Dispute) : Prop where
  id : next.id = d.id
  initiator : next.initiator = d.initiator
  counterparty : next.counterparty = d.counterparty
  initiatorStake : next.initiatorStake = d.initiatorStake
  counterpartyStake : next.counterpartyStake = d.counterpartyStake
  resolved : next.resolved = d.resolved

theorem Carries.stakes {d next : Dispute} (h : d.Carries next) : next.stakes = d.stakes := by
  rw [Dispute.stakes, Dispute.stakes, h.initiatorStake, h.counterpartyStake]

theorem Carries.share {d next : Dispute} (h : d.Carries next) :
    Pot.escrow.share next = Pot.escrow.share d := by
  simp only [Pot.share, h.resolved, h.initiatorStake, h.counterpartyStake]

end Dispute

namespace Engine

/-- What no refusal can damage. -/
structure Intact (e : Engine) : Prop where
  standard : e.Standard
  keyed : e.store.Keyed
  numbered : e.store.Numbered
  outside : ∀ id d, e.store.get? id = some d →
    d.initiator.isSystem = false ∧ d.counterparty.isSystem = false

theorem Fresh.intact {e : Engine} (h : e.Fresh) : e.Intact where
  standard := h.sound.standard
  keyed := h.sound.keyed
  numbered := h.numbered
  outside id d hget := ⟨(h.sound.records id d hget).initiator,
    (h.sound.records id d hget).counterparty⟩

/-- The next number is free. -/
theorem Intact.get?_nextId {e : Engine} (h : e.Intact) : e.store.get? e.store.nextId = none := by
  cases hget : e.store.get? e.store.nextId with
  | none => rfl
  | some d => exact absurd (h.numbered.exists_get?_iff.1 ⟨d, hget⟩).2 (Nat.lt_irrefl _)

/-! ### A successful operation -/

/-- What a successful operation does to the record that it writes and to escrow. Escrow is drawn on
by the resolution of a known dispute only, whose stakes stay what they were. -/
structure Writes (e : Engine) (op : Operation) (f : Footprint) (w : StoreWrite) : Prop where
  written : e.store.write w = .ok f.store
  number : w.record.id = op.dispute e
  reserve : f.treasury.reserve = e.treasury.reserve
  outside : w.record.initiator.isSystem = false ∧ w.record.counterparty.isSystem = false
  latched : ∀ d, e.store.get? w.record.id = some d → d.resolved = true → w.record.resolved = true
  settled : w.record.resolved = true →
    ∃ d, e.store.get? w.record.id = some d ∧ w.record.stakes = d.stakes
  balanced : given e.accounts.escrow f.moves +
      ((e.store.get? w.record.id).map fun d => Pot.escrow.share d).getD 0 =
    taken e.accounts.escrow f.moves + Pot.escrow.share w.record
  oneWay : taken e.accounts.escrow f.moves = 0 ∨
    given e.accounts.escrow f.moves = 0 ∧ w.record.resolved = true

section Successful

variable {e : Engine} {op : Operation} {f : Footprint} {w : StoreWrite} {d : Dispute}

/-- A record that stakes what it did before, and moves that pass escrow by. -/
theorem Intact.writes_carried (h : e.Intact) (hget : e.store.get? (op.dispute e) = some d)
    (hcarries : d.Carries w.record) (hwritten : e.store.write w = .ok f.store)
    (hreserve : f.treasury.reserve = e.treasury.reserve)
    (hgiven : given e.accounts.escrow f.moves = 0)
    (htaken : taken e.accounts.escrow f.moves = 0) : e.Writes op f w := by
  have hid : w.record.id = op.dispute e := hcarries.id.trans (h.keyed _ _ hget)
  obtain ⟨hinitiator, hcounterparty⟩ := h.outside _ _ hget
  refine {
    written := hwritten
    number := hid
    reserve := hreserve
    outside := ⟨hcarries.initiator ▸ hinitiator, hcarries.counterparty ▸ hcounterparty⟩
    latched := fun d' hget' hresolved => ?_
    settled := fun _ => ⟨d, hid ▸ hget, hcarries.stakes⟩
    balanced := ?_
    oneWay := .inl htaken }
  · obtain rfl := Option.some.inj (hget.symm.trans (hid ▸ hget'))
    exact hcarries.resolved.trans hresolved
  · rw [hgiven, htaken, hid, hget, hcarries.share]
    rfl

/-- A resolution pays both stakes out of escrow, and marks the record. -/
theorem Intact.writes_resolution {d' : Dispute} {r : Resolution} {moves : List Move}
    {events : List (DisputeId × Event)} (h : e.Intact) (hr : Resolves e d' r moves events f)
    (hget : e.store.get? (op.dispute e) = some d) (hopen : d.resolved = false)
    (hsame : ∃ i c, d' = d.accepting i c) (hgiven : given e.accounts.escrow moves = 0)
    (htaken : taken e.accounts.escrow moves = 0) : ∃ w, e.Writes op f w := by
  obtain ⟨i, c, rfl⟩ := hsame
  obtain ⟨waiting, hwritten⟩ := hr.exists_written
  obtain ⟨burned, hadmitted, hmoves⟩ := hr.exists_moves
  have hid : d.id = op.dispute e := h.keyed _ _ hget
  have houtside := h.outside _ _ hget
  obtain ⟨hnothing, hstakes⟩ := Resolution.pots (d := d.accepting i c) h.standard houtside.1
    houtside.2 hadmitted .escrow
  have hgives : given e.accounts.escrow f.moves = 0 := by
    rw [hmoves, given_append, hgiven]
    exact (Nat.zero_add _).trans hnothing
  have htakes : taken e.accounts.escrow f.moves = d.stakes := by
    rw [hmoves, taken_append, htaken]
    exact (Nat.zero_add _).trans hstakes
  have hknown : e.store.get? (r.mark (d.accepting i c) waiting e.now).id = some d := hid ▸ hget
  refine ⟨_, {
    written := hwritten
    number := hid
    reserve := by cases hr; rfl
    outside := houtside
    latched := fun _ _ _ => rfl
    settled := fun _ => ⟨d, hknown, rfl⟩
    balanced := ?_
    oneWay := .inr ⟨hgives, rfl⟩ }⟩
  rw [hknown, hgives, htakes, Pot.share_of_resolved rfl]
  simp only [Option.map_some, Option.getD_some, Pot.share, hopen, Bool.false_eq_true, if_false]
  exact Nat.zero_add _

end Successful

/-- **Every successful operation** writes one record, and moves in escrow what that record says. -/
theorem Intact.exists_writes {e : Engine} {op : Operation} {answer : Answer} {f : Footprint}
    (h : e.Intact) (hs : Succeeds e op answer f) : ∃ w, e.Writes op f w := by
  have hreserve : e.treasury.reserve ≠ e.accounts.escrow := h.standard.reserve_ne .escrow
  have hfund : e.accounts.defenseFund ≠ e.accounts.escrow :=
    fun hsame => Pot.noConfusion ((h.standard.defenseFund_iff .escrow).1 hsame)
  have hearmark : e.accounts.incentiveEarmark ≠ e.accounts.escrow :=
    fun hsame => Pot.noConfusion ((h.standard.incentiveEarmark_iff .escrow).1 hsame)
  have hside : ∀ {a : AccountId}, a.isSystem = false → a ≠ e.accounts.escrow :=
    h.standard.outside_ne .escrow
  cases hs with
  | @initiate caller r stake earmarked escalated treasury registry store deadline admitted
      setAside counted frozen dated written =>
    obtain ⟨-, hcaller, hother, -⟩ := Engine.admitFiling_eq_ok_iff.1 admitted
    have hnew : e.store.get? (e.filed caller r stake escalated earmarked).id = none := h.get?_nextId
    refine ⟨_, {
      written
      number := rfl
      reserve := ?_
      outside := ⟨hcaller, hother⟩
      latched := fun d hget => ?_
      settled := nofun
      balanced := ?_
      oneWay := .inl ?_ }⟩
    · split at counted
      · exact (Treasury.recordHarassment_frame counted).1
      · rw [counted]
    · rw [hnew] at hget
      cases hget
    · rw [hnew]
      simp [given_cons, taken_cons, Pot.share, Engine.filed, Dispute.opened, hside hcaller,
        hreserve, hearmark]
    · simp [taken_cons, hside hcaller, hreserve]
  | @deposit caller id dep total store admitted added written =>
    obtain ⟨hget, hopen, -, hstaked, -, -, -, hown⟩ := Engine.admitDeposit_eq_ok_iff.1 admitted
    have hid := h.keyed id _ hget
    have houtside := h.outside _ _ hget
    have hsum := Amount.sub_eq_ok_iff.1 hown
    have hnothing := Dispute.isZero_counterpartyStake hstaked
    have htaken : taken e.accounts.escrow [⟨dep.record.counterparty, e.accounts.escrow,
        dep.ownShare⟩, ⟨e.accounts.defenseFund, e.accounts.escrow, dep.record.subsidy⟩] = 0 := by
      simp [taken_cons, hside houtside.2, hfund]
    refine ⟨_, {
      written
      number := hid
      reserve := rfl
      outside := houtside
      latched := fun d hget' hresolved => ?_
      settled := fun hresolved => ?_
      balanced := ?_
      oneWay := .inl htaken }⟩
    · obtain rfl := Option.some.inj (hget.symm.trans (hid ▸ hget'))
      exact hresolved
    · rw [show dep.record.resolved = true from hresolved] at hopen
      cases hopen
    · -- the own share and the subsidy make up the second stake
      rw [show e.store.get? dep.record.id = some dep.record from hid.symm ▸ hget, htaken]
      simp only [given_cons, given_nil, if_true, Option.map_some, Option.getD_some, Pot.share,
        hopen, hnothing, Amount.toNat_zero, Bool.false_eq_true, if_false]
      omega
  | @grantSubsidy caller id d amount store admitted written =>
    obtain ⟨hget, -⟩ := Engine.admitSubsidy_eq_ok_iff.1 admitted
    refine ⟨_, h.writes_carried hget ⟨rfl, rfl, rfl, rfl, rfl, rfl⟩ written rfl ?_ ?_⟩
    · simp [given_cons, hfund]
    · simp [taken_cons, hreserve]
  | @submit caller id p d store admitted written =>
    obtain ⟨-, hget, -⟩ := Engine.admitProposal_eq_ok_iff.1 admitted
    exact ⟨_, h.writes_carried hget ⟨rfl, rfl, rfl, rfl, rfl, rfl⟩ written rfl rfl rfl⟩
  | @accept caller id a store admitted one written =>
    obtain ⟨hget, -⟩ := Engine.admitAcceptance_eq_ok_iff.1 admitted
    obtain ⟨i, c, haccept⟩ := a.record.accept_eq a.party
    rw [haccept] at written
    exact ⟨_, h.writes_carried hget ⟨rfl, rfl, rfl, rfl, rfl, rfl⟩ written rfl rfl rfl⟩
  | @agree caller id a f admitted both resolves =>
    obtain ⟨hget, hopen, -⟩ := Engine.admitAcceptance_eq_ok_iff.1 admitted
    exact h.writes_resolution resolves hget hopen (a.record.accept_eq a.party) rfl rfl
  | @counter caller id r c routed next deadline store admitted routes opened dated written =>
    obtain ⟨hget, -, hparty, -⟩ := Engine.admitCounter_eq_ok_iff.1 admitted
    obtain ⟨startTime, -, -, -, rfl⟩ := Dispute.counterRound_eq_ok_iff.1 opened
    have houtside := h.outside _ _ hget
    have hcaller := Dispute.isSystem_of_partyOf houtside.1 houtside.2 hparty
    refine ⟨_, h.writes_carried hget ⟨rfl, rfl, rfl, rfl, rfl, rfl⟩ written rfl ?_ ?_⟩
    · simp [given_cons, show e.accounts.burnSink ≠ e.accounts.escrow from
        h.standard.burnSink_ne .escrow, show e.accounts.feePool ≠ e.accounts.escrow from
        h.standard.feePool_ne .escrow]
    · simp [taken_cons, hside hcaller]
  | @lapse caller source id d draw skipped f admitted draws resolves =>
    obtain ⟨hget, hopen, -⟩ := Engine.admitEnforcement_eq_silent_iff.1 admitted
    have hsource : source ≠ e.accounts.escrow := by
      rcases draws.source with ⟨-, rfl⟩ | ⟨-, rfl, -⟩
      · exact hreserve
      · exact hearmark
    refine h.writes_resolution resolves hget hopen ⟨_, _, rfl⟩ ?_ ?_
    · simp [given_cons, Engine.subsidyReturn, hreserve, hside (h.outside _ _ hget).1]
    · simp [taken_cons, Engine.subsidyReturn, hfund, hsource]
  | @deadlock caller id d settlement f admitted resolves =>
    obtain ⟨hget, hopen, -⟩ := Engine.admitEnforcement_eq_deadlocked_iff.1 admitted
    exact h.writes_resolution resolves hget hopen ⟨_, _, rfl⟩ rfl rfl
  | @retry caller id d release registry store admitted freed written =>
    obtain ⟨hget, -⟩ := Engine.admitRetry_eq_ok_iff.1 admitted
    exact ⟨_, h.writes_carried hget ⟨rfl, rfl, rfl, rfl, rfl, rfl⟩ written rfl rfl rfl⟩

/-! ### Every turn -/

variable {e e' : Engine}

theorem Intact.having {op : Operation} {f : Footprint} {w : StoreWrite} (h : e.Intact)
    (hw : e.Writes op f w) (ledger : Ledger) : (e.having f ledger).Intact where
  standard := ⟨h.standard.accounts, hw.reserve.trans h.standard.reserve⟩
  keyed := Store.keyed_of_write h.keyed hw.written
  numbered := Store.numbered_of_write h.numbered hw.written
  outside := Store.forall_get?_of_write hw.written hw.outside h.outside

/-- A failed operation damages nothing, whatever was refused on the way back. -/
theorem Intact.of_error {op : Operation} {err : DisputeError} (h : e.Intact)
    (hfailed : e.perform op = (.error err, e')) : e'.Intact := by
  have hstore := store_of_error h.keyed hfailed
  have haligned := aligned_of_error h.keyed hfailed
  exact ⟨⟨haligned.accounts.trans h.standard.accounts,
    haligned.reserve.trans h.standard.reserve⟩, hstore ▸ h.keyed, hstore ▸ h.numbered,
    hstore ▸ h.outside⟩

/-- **One step**, whatever is refused in it. -/
theorem Intact.step (h : e.Intact) (s : Turn) : (e.step s).Intact := by
  cases s with
  | clock now => exact ⟨⟨h.standard.accounts, h.standard.reserve⟩, h.keyed, h.numbered, h.outside⟩
  | switch switches =>
    exact ⟨⟨h.standard.accounts, h.standard.reserve⟩, h.keyed, ⟨h.numbered.numbers,
      h.numbered.next⟩, h.outside⟩
  | call op =>
    show (e.perform op).2.Intact
    rcases hdone : e.perform op with ⟨err | answer, e'⟩
    · exact h.of_error hdone
    · obtain ⟨f, ledger, hsucceeds, -, rfl⟩ := perform_ok h.keyed hdone
      obtain ⟨w, hwrites⟩ := h.exists_writes hsucceeds
      exact h.having hwrites ledger

end Engine

end Arbitration
