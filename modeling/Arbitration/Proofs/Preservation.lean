import Arbitration.Proofs.Soundness

/-!
# Every operation keeps the invariant

For each way to succeed there is one lemma that says how the record, its entry in the registry
and the pots advance together. The three ways to end a dispute share `Resolves.advance`: whatever
was decided, a resolution pays out of escrow exactly the two stakes, because its settlement was
checked against them.

`CleanRun.sound` is the conclusion: every state of a clean run is sound.
-/

namespace Arbitration

/-! ### Pieces -/

namespace Dispute

variable {config : Config} {d : Dispute}

/-- The record with other acceptances. -/
def accepting (d : Dispute) (initiatorAccepted counterpartyAccepted : Bool) : Dispute :=
  { d with initiatorAccepted, counterpartyAccepted }

theorem accept_eq (d : Dispute) (p : Party) : ∃ i c, d.accept p = d.accepting i c := by
  cases p with
  | initiator => exact ⟨true, d.counterpartyAccepted, rfl⟩
  | counterparty => exact ⟨d.initiatorAccepted, true, rfl⟩

theorem accept_id (d : Dispute) (p : Party) : (d.accept p).id = d.id := by
  cases p <;> rfl

/-- A party's account is none of the protocol's, if neither party's is. -/
theorem isSystem_of_partyOf {caller : AccountId} {p : Party}
    (hinitiator : d.initiator.isSystem = false) (hcounterparty : d.counterparty.isSystem = false)
    (hparty : d.partyOf caller = some p) : caller.isSystem = false := by
  have hrole := Engine.partyOf_eq_some_iff.1 hparty
  cases p with
  | initiator => exact hrole ▸ hinitiator
  | counterparty => exact hrole.1 ▸ hcounterparty

theorem Sound.isSystem_of_partyOf {caller : AccountId} {p : Party} (h : d.Sound config)
    (hparty : d.partyOf caller = some p) : caller.isSystem = false :=
  Dispute.isSystem_of_partyOf h.initiator h.counterparty hparty

theorem isZero_counterpartyStake (h : d.fullyStaked = false) : d.counterpartyStake = .zero := by
  refine Amount.isZero_iff.1 ?_
  simpa only [fullyStaked, Bool.not_eq_eq_eq_not, Bool.not_false] using h

end Dispute

/-- An incentive comes from the shared reserve, or is the one that was set aside. -/
theorem Engine.Draws.source {e : Engine} {d : Dispute} {source : AccountId} {draw : Amount}
    {skipped : List (DisputeId × Event)} (h : e.Draws d source draw skipped) :
    e.config.reservePolicy = .sharedFirstCome ∧ source = e.treasury.reserve ∨
      e.config.reservePolicy = .earmarked ∧ source = e.accounts.incentiveEarmark ∧
        draw = d.earmarkedIncentive := by
  cases h with
  | intro owes returned found =>
    unfold Engine.incentiveSource at found
    split at found
    · rename_i hpolicy
      cases found
      exact .inl ⟨hpolicy, rfl⟩
    · rename_i hpolicy
      cases found
      exact .inr ⟨hpolicy, rfl, rfl⟩

/-- What is drawn, as what was set aside, is the whole incentive or nothing. -/
theorem Engine.Draws.allOrNothing {e : Engine} {d : Dispute} {source : AccountId} {draw : Amount}
    {skipped : List (DisputeId × Event)} (hd : d.Sound e.config)
    (h : e.Draws d source draw skipped) :
    draw = .zero ∨ Policy.incentiveAmount d.initiatorStake e.config.incentiveBps = .ok draw := by
  cases h with
  | intro owes returned found =>
    unfold Engine.incentiveSource at found
    split at found
    · cases found
      exact Policy.incentiveDraw_allOrNothing _ owes
    · cases found
      exact hd.setAside

namespace Resolution

variable {e : Engine} {d : Dispute} {r : Resolution} {burned : Amount}

/-- What a resolution takes from the pots: the two stakes, and what is returned of an earmarked
incentive. -/
def taking (r : Resolution) (d : Dispute) : Pot → Nat
  | .escrow => d.initiatorStake.toNat + d.counterpartyStake.toNat
  | .defenseFund => 0
  | .incentiveEarmark => (r.returned d).toNat

/-- **The settlement was checked**, so whatever was decided, these are the amounts; and nothing is
given to the pots. -/
theorem pots (hs : e.Standard) (hi : d.initiator.isSystem = false)
    (hc : d.counterparty.isSystem = false) (hadmitted : r.toBurn d = .ok burned) (p : Pot) :
    given (p.account e.accounts) (r.moves e d burned) = 0 ∧
      taken (p.account e.accounts) (r.moves e d burned) = r.taking d p := by
  obtain ⟨total, htotal, hconserves, hburned⟩ := toBurn_eq_ok_iff.1 hadmitted
  have htotal := Amount.add_eq_ok_iff.1 htotal
  have hconserves := Settlement.conserves_iff.1 hconserves
  have hburned := Amount.add_eq_ok_iff.1 hburned
  simp only [Settlement.leaving] at hconserves
  -- neither the parties nor the sink nor the reserve is a pot, so only the sources count
  simp only [moves, payouts, List.cons_append, List.nil_append, given_cons, taken_cons, given_nil,
    taken_nil, hs.escrow_iff, hs.incentiveEarmark_iff, if_neg (hs.outside_ne p hi),
    if_neg (hs.outside_ne p hc), if_neg (hs.burnSink_ne p), if_neg (hs.reserve_ne p), true_and]
  cases p with
  | escrow =>
    simp only [taking, if_true, reduceCtorEq, if_false]
    omega
  | defenseFund => rfl
  | incentiveEarmark =>
    simp only [taking, reduceCtorEq, if_false, if_true, Nat.zero_add, Nat.add_zero]

/-- What is moved before a resolution and by it takes the shares of the dispute out of the pots. -/
structure Settles (r : Resolution) (e : Engine) (d : Dispute) (before : List Move) : Prop where
  gives : ∀ p : Pot, given (p.account e.accounts) before = 0
  takes : ∀ p : Pot, taken (p.account e.accounts) before + r.taking d p = p.share d

theorem settles_agreement {text : String} {i c : Bool} (hopen : d.resolved = false)
    (hstaked : d.fullyStaked = true) : (agreement (d.accepting i c) text).Settles e d [] := by
  refine ⟨fun _ => rfl, fun p => ?_⟩
  cases p <;> simp [Pot.share, hopen, hstaked, taking, returned, agreement]

theorem settles_deadlock {settlement : Settlement} (hopen : d.resolved = false)
    (hstaked : d.fullyStaked = true) : (deadlock d settlement).Settles e d [] := by
  refine ⟨fun _ => rfl, fun p => ?_⟩
  cases p <;> simp [Pot.share, hopen, hstaked, taking, returned, deadlock]

theorem settles_lapse {source : AccountId} {draw : Amount} {skipped : List (DisputeId × Event)}
    (hs : e.Standard) (hd : d.Sound e.config) (hopen : d.resolved = false)
    (hstaked : d.fullyStaked = false) (hdraws : e.Draws d source draw skipped) :
    (lapse d draw).Settles e d [e.subsidyReturn d, ⟨source, d.initiator, draw⟩] := by
  have hnothing := Dispute.isZero_counterpartyStake hstaked
  refine ⟨fun p => ?_, fun p => ?_⟩
  · simp only [Engine.subsidyReturn, given_cons, given_nil, if_neg (hs.reserve_ne p),
      if_neg (hs.outside_ne p hd.initiator)]
  · rcases hdraws.source with ⟨hpolicy, rfl⟩ | ⟨-, rfl, rfl⟩
    · -- paid by the shared reserve: nothing was set aside
      have hzero := hd.earmarked hpolicy
      simp only [Engine.subsidyReturn, taken_cons, taken_nil, hs.defenseFund_iff,
        if_neg (hs.reserve_ne p)]
      cases p <;> simp [Pot.share, hopen, hstaked, hnothing, hzero, taking, returned, lapse]
    · -- paid from what was set aside, all of it
      simp only [Engine.subsidyReturn, taken_cons, taken_nil, hs.defenseFund_iff,
        hs.incentiveEarmark_iff]
      cases p <;> simp [Pot.share, hopen, hstaked, hnothing, taking, returned, lapse]

/-! ### What was decided is carried out -/

theorem accords_agreement {config : Config} {p : Proposal} (hp : d.proposal = some p)
    (hboth : d.bothAccepted = true) : (agreement d p.text).Accords config d where
  payout := .agreement
  consent := iff_of_true hboth rfl
  terms := .agreement hp
  license := rfl

theorem accords_deadlock {config : Config} {settlement : Settlement}
    (hundecided : d.bothAccepted = false)
    (hsplit : Policy.timeoutSplit d.initiatorStake d.counterpartyStake config.timeoutBurnBps =
      .ok settlement) : (deadlock d settlement).Accords config d where
  payout := .deadlock hsplit
  consent := iff_of_false (Bool.not_eq_true _ ▸ hundecided) nofun
  terms := .deadlock
  license := rfl

theorem accords_lapse {source : AccountId} {draw : Amount} {skipped : List (DisputeId × Event)}
    (hd : d.Sound e.config) (hopen : d.resolved = false) (hdraws : e.Draws d source draw skipped) :
    (lapse d draw).Accords e.config d where
  payout := by
    refine .lapse (hdraws.allOrNothing hd) fun hpolicy => ?_
    rcases hdraws.source with ⟨hshared, -⟩ | ⟨-, -, hdraw⟩
    · rw [hpolicy] at hshared
      cases hshared
    · exact hdraw
  consent := iff_of_false (Bool.not_eq_true _ ▸ hd.undecided hopen) nofun
  terms := .lapse
  license := rfl

end Resolution

namespace Engine.Sound

variable {e : Engine} {id : DisputeId} {d next : Dispute} {r r' : Registry}

/-- A registry whose entries stay as they are fits an open record of the same dispute. -/
theorem advances_refl (h : e.Sound) (hget : e.store.get? id = some d) (hopen : d.resolved = false)
    (hid : next.id = id) (hholder : next.initiator = d.initiator)
    (hsame : next.resolved = d.resolved ∧ next.outcome = d.outcome ∧
      next.pendingRelease = d.pendingRelease) :
    e.registry.Advances e.registry next := by
  subst hid
  obtain ⟨hresolved, houtcome, hpending⟩ := hsame
  obtain ⟨hundecided, -, -, hnone⟩ := (h.records _ d hget).begun hopen
  refine ⟨fun _ _ => ⟨rfl, rfl, rfl⟩, ?_, h.registered.unreleased next.id⟩
  rw [Registry.fits_open_iff (hresolved.trans hopen) (houtcome.trans hundecided)
    (hpending.trans hnone), hholder]
  exact ⟨h.registered.held _ d hget hopen, h.unlicensed hget hopen⟩

/-- A license leaves all entries but its own as they are. -/
theorem licensing_frame {applies : Bool} {termsRef : String}
    (licensed : if applies then r.applyFallback id termsRef = .ok r' else r' = r) :
    r'.frozen = r.frozen ∧ r'.released = r.released ∧
      ∀ id', id ≠ id' → r'.licenses.get? id' = r.licenses.get? id' := by
  split at licensed
  · obtain ⟨-, -, rfl⟩ := Registry.applyFallback_eq_ok_iff.1 licensed
    exact ⟨rfl, rfl, fun id' hne => by rw [Table.get?_insert, if_neg hne]⟩
  · rw [licensed]
    exact ⟨rfl, rfl, fun _ _ => rfl⟩

/-- A registry advances by a release, if its entries fit the record afterwards. -/
theorem advances_unfreeze {release : Release} {freed : Registry}
    (hfreed : r.unfreeze next.id release = .ok freed) (hfits : r'.Fits next.id next)
    (hfrozen : r'.frozen = freed.frozen) (hreleased : r'.released = freed.released)
    (hlicensed : ∀ id, next.id ≠ id → r'.licenses.get? id = r.licenses.get? id) :
    r.Advances r' next := by
  obtain ⟨-, -, rfl⟩ := Registry.unfreeze_eq_ok_iff.1 hfreed
  refine ⟨fun id hne => ⟨?_, ?_, hlicensed id hne⟩, hfits, fun a ha => ?_⟩
  · rw [hfrozen, Table.get?_erase, if_neg hne]
  · rw [hreleased, Table.get?_insert, if_neg hne]
  · rw [hfrozen, Table.get?_erase, if_pos rfl] at ha
    cases ha

/-- So it does where the release is left for later, since nothing changes then. -/
theorem advances_releases {release : Release} {d' released : Dispute} {freed : Registry}
    {pending : List (DisputeId × Event)} (h : e.Sound)
    (hreleases : e.Releases d' release freed released pending) (hid : next.id = d'.id)
    (hfits : r'.Fits next.id next) (hfrozen : r'.frozen = freed.frozen)
    (hreleased : r'.released = freed.released)
    (hlicensed : ∀ id, next.id ≠ id → r'.licenses.get? id = freed.licenses.get? id) :
    e.registry.Advances r' next := by
  rw [hreleases.frame.1] at hlicensed
  cases hreleases with
  | now done => exact advances_unfreeze (hid ▸ done) hfits hfrozen hreleased hlicensed
  | later _ _ =>
    refine ⟨fun id hne => ⟨by rw [hfrozen], by rw [hreleased], hlicensed id hne⟩, hfits, ?_⟩
    rw [hfrozen, hreleased]
    exact h.registered.unreleased next.id

end Engine.Sound

/-- **Resolutions** keep the invariant if they settle the dispute. -/
theorem Resolves.advance {e : Engine} {d₀ d : Dispute} {r : Resolution} {moves : List Move}
    {events : List (DisputeId × Event)} {f : Footprint} (hr : Resolves e d r moves events f)
    (h : e.Sound) (hget : e.store.get? d₀.id = some d₀) (hopen : d₀.resolved = false)
    (hsame : ∃ i c, d = d₀.accepting i c)
    (haccepted : ∀ p, d.hasAccepted p = true → d.proposal.isSome = true)
    (hsettles : r.Settles e d₀ moves) (haccords : r.Accords e.config d) :
    ∃ w, e.Advance f w := by
  obtain ⟨i, c, rfl⟩ := hsame
  cases hr with
  | @intro burned freed registry released pending store admitted releases written licensed =>
    have hd := h.records _ _ hget
    obtain ⟨-, -, -, hnone⟩ := hd.begun hopen
    have hheld := h.registered.held _ d₀ hget hopen
    have hfits := releases.fits haccords hnone ⟨hheld, h.unlicensed hget hopen⟩ licensed
    -- a pending release is all by which the record differs from the one that was handed in
    obtain ⟨-, -, waiting, hwaiting⟩ := releases.frame
    obtain ⟨hfrozen, hreleased, hlicenses⟩ := Engine.Sound.licensing_frame licensed
    refine ⟨_, { written, record := ?_, reserve := rfl, registry := ?_, balanced := fun p => ?_ }⟩
    · rw [hwaiting]
      exact { hd with
        undecided := nofun
        dated := nofun
        accepted := haccepted
        begun := nofun
        ended := fun _ => ⟨rfl, haccords.consent, _, rfl, haccords.payout⟩ }
    · have hid : (released.resolve r.outcome r.settlement e.now).id = d₀.id := by
        rw [hwaiting]
        rfl
      refine h.advances_releases releases hid ?_ hfrozen hreleased ?_
      · rw [hid]
        exact hfits
      · rw [hid]
        exact hlicenses
    · obtain ⟨hnothing, hstakes⟩ := Resolution.pots (d := d₀.accepting i c) h.standard
        hd.initiator hd.counterparty admitted p
      have hmoves := hsettles.takes p
      have hknown : e.store.get? (released.resolve r.outcome r.settlement e.now).id = some d₀ := by
        rw [hwaiting]
        exact hget
      show given _ (moves ++ r.moves e (d₀.accepting i c) burned) + _ =
        taken _ (moves ++ r.moves e (d₀.accepting i c) burned) + _
      rw [hknown, given_append, taken_append, hsettles.gives p, hnothing, hstakes,
        Pot.share_of_resolved rfl p]
      exact (Nat.zero_add _).trans hmoves.symm

/-! ### Filing -/

namespace Engine.Sound

variable {e : Engine} {id : DisputeId} {d next : Dispute}

/-- A filing's record is in order. -/
theorem filed {caller : AccountId} {r : InitiateRequest} {stake earmarked : Amount}
    {escalated : Bool} {deadline : Timestamp} (h : e.Sound)
    (admitted : e.admitFiling caller r = .ok ⟨stake, escalated⟩)
    (setAside : e.SetsAside caller stake earmarked)
    (dated : (e.filed caller r stake escalated earmarked).stakeDeadline e.config = .ok deadline) :
    (e.filed caller r stake escalated earmarked).Sound e.config := by
  obtain ⟨hself, hcaller, hother, hpositive, -, hstake⟩ := admitFiling_eq_ok_iff.1 admitted
  -- the stake is at least the base, which is positive
  have hmultiplier := (Config.validate_eq_ok_iff.1 h.valid).2.2.2.1
  have hle := Policy.escalatedStake_le hmultiplier hstake
  have hbase := Amount.isZero_eq_false_iff.1 hpositive
  exact {
    distinct := hself
    initiator := hcaller
    counterparty := hother
    staked := Amount.isZero_eq_false_iff.2 (Nat.lt_of_lt_of_le hbase hle)
    matched := nofun
    subsidised := Nat.zero_le _
    earmarked := fun hshared => by
      cases setAside with
      | nothing _ => rfl
      | draw policy _ _ =>
        rw [hshared] at policy
        cases policy
    proposed := nofun
    undecided := fun _ => rfl
    dated := fun _ => ⟨deadline, dated⟩
    based := hpositive
    raised := hle
    setAside := by
      cases setAside with
      | nothing _ => exact .inl rfl
      | draw _ owes _ => exact Policy.incentiveDraw_allOrNothing _ owes
    countered := fun hne => absurd rfl hne
    accepted := fun p h => by cases p <;> cases h
    begun := fun _ => ⟨rfl, rfl, rfl, rfl⟩
    ended := nofun }

theorem advances_freeze {registry : Registry} (h : e.Sound)
    (hid : next.id = e.store.nextId) (hopen : next.resolved = false)
    (houtcome : next.outcome = .pending) (hnone : next.pendingRelease = none)
    (frozen : e.registry.freeze e.store.nextId next.initiator = .ok registry) :
    e.registry.Advances registry next := by
  obtain ⟨-, -, rfl⟩ := Registry.freeze_eq_ok_iff.1 frozen
  rw [← hid]
  refine ⟨fun id hne => ?_, (Registry.fits_open_iff hopen houtcome hnone).2 ⟨?_, ?_⟩,
    fun _ _ => ?_⟩
  · simp only [Table.get?_insert, Table.get?_erase, if_neg hne, and_self]
  · rw [Table.get?_insert, if_pos rfl]
  · rw [hid]
    exact (h.registered.unknown _ h.get?_nextId).2
  · rw [Table.get?_erase, if_pos rfl]

theorem balanced_filing {caller : AccountId} {r : InitiateRequest} {stake earmarked : Amount}
    {escalated : Bool} (h : e.Sound) (hcaller : caller.isSystem = false) :
    Balanced e [⟨caller, e.accounts.escrow, stake⟩,
      ⟨e.treasury.reserve, e.accounts.incentiveEarmark, earmarked⟩]
      (e.filed caller r stake escalated earmarked) := by
  intro p
  have hnew : e.store.get? (e.filed caller r stake escalated earmarked).id = none := h.get?_nextId
  simp only [hnew, given_cons, taken_cons, given_nil, taken_nil, h.standard.escrow_iff,
    h.standard.incentiveEarmark_iff, if_neg (h.standard.outside_ne p hcaller),
    if_neg (h.standard.reserve_ne p)]
  cases p <;> simp [Pot.share, Engine.filed, Dispute.opened]

/-! ### Staking -/

/-- A record that holds as much as before needs no moves. -/
theorem balanced_idle {moves : List Move} (hget : e.store.get? id = some d) (hid : next.id = id)
    (hshare : ∀ p, Pot.share next p = Pot.share d p)
    (hgiven : ∀ p : Pot, given (p.account e.accounts) moves = 0)
    (htaken : ∀ p : Pot, taken (p.account e.accounts) moves = 0) : Balanced e moves next := by
  intro p
  rw [hid, hget, hgiven, htaken, hshare]
  rfl

theorem balanced_still (hget : e.store.get? id = some d) (hid : next.id = id)
    (hshare : ∀ p, Pot.share next p = Pot.share d p) : Balanced e [] next :=
  balanced_idle hget hid hshare (fun _ => rfl) fun _ => rfl

theorem balanced_deposit {ownShare : Amount} (h : e.Sound) (hget : e.store.get? d.id = some d)
    (hopen : d.resolved = false) (hstaked : d.fullyStaked = false)
    (hown : d.initiatorStake.sub d.subsidy = .ok ownShare) :
    Balanced e [⟨d.counterparty, e.accounts.escrow, ownShare⟩,
      ⟨e.accounts.defenseFund, e.accounts.escrow, d.subsidy⟩]
      { d with counterpartyStake := d.initiatorStake } := by
  intro p
  have hd := h.records _ d hget
  have hsum := Amount.sub_eq_ok_iff.1 hown
  have hnothing := Dispute.isZero_counterpartyStake hstaked
  simp only [hget, given_cons, taken_cons, given_nil, taken_nil, h.standard.escrow_iff,
    h.standard.defenseFund_iff, if_neg (h.standard.outside_ne p hd.counterparty),
    Option.map_some, Option.getD_some]
  cases p with
  | escrow =>
    -- the own share and the subsidy make up the second stake
    simp only [Pot.share, hopen, hnothing, Amount.toNat_zero, if_true, reduceCtorEq, if_false,
      Bool.false_eq_true]
    omega
  | defenseFund => simp [Pot.share, Dispute.fullyStaked, hopen, hnothing, hd.staked]
  | incentiveEarmark => simp [Pot.share, hopen]

theorem balanced_subsidy {amount : Amount} (h : e.Sound) (hget : e.store.get? d.id = some d)
    (hopen : d.resolved = false) (hstaked : d.fullyStaked = false)
    (hnone : d.subsidy.isZero = true) :
    Balanced e [⟨e.treasury.reserve, e.accounts.defenseFund, amount⟩]
      { d with subsidy := amount } := by
  intro p
  have hzero := Amount.isZero_iff.1 hnone
  have hnothing := Dispute.isZero_counterpartyStake hstaked
  simp only [hget, given_cons, taken_cons, given_nil, taken_nil, h.standard.defenseFund_iff,
    if_neg (h.standard.reserve_ne p), Option.map_some, Option.getD_some]
  cases p <;> simp [Pot.share, Dispute.fullyStaked, hopen, hnothing, hzero]

end Engine.Sound

/-! ### All operations -/

/-- **Every successful operation** writes one record and keeps everything around it right. -/
theorem Succeeds.advance {e : Engine} {op : Operation} {answer : Answer} {f : Footprint}
    (hs : Succeeds e op answer f) (h : e.Sound) : ∃ w, e.Advance f w := by
  cases hs with
  | @initiate caller r stake earmarked escalated treasury registry store deadline admitted
      setAside counted frozen dated written =>
    obtain ⟨-, hcaller, -, -, -, -⟩ := Engine.admitFiling_eq_ok_iff.1 admitted
    have hreserve : treasury.reserve = e.treasury.reserve := by
      split at counted
      · exact (Treasury.recordHarassment_frame counted).1
      · rw [counted]
    exact ⟨_, {
      written
      record := h.filed admitted setAside dated
      reserve := hreserve
      registry := h.advances_freeze rfl rfl rfl rfl frozen
      balanced := h.balanced_filing hcaller }⟩
  | @deposit caller id dep total store admitted added written =>
    obtain ⟨hget, hopen, -, hstaked, -, hdated, -, hown⟩ :=
      Engine.admitDeposit_eq_ok_iff.1 admitted
    have hd := h.records id _ hget
    have hid := h.keyed id _ hget
    have hmatched : ({ dep.record with counterpartyStake := dep.record.initiatorStake } :
        Dispute).fullyStaked = true := by rw [Dispute.fullyStaked, hd.staked]; rfl
    exact ⟨_, {
      written
      record := { hd with
        matched := fun _ => rfl
        proposed := fun _ => hmatched
        dated := fun _ => ⟨dep.resolutionDeadline, (if_pos hmatched).trans hdated⟩
        countered := fun _ => hmatched
        ended := fun hend => Bool.noConfusion (hopen.symm.trans hend) }
      reserve := rfl
      registry := h.advances_refl hget hopen hid rfl ⟨rfl, rfl, rfl⟩
      balanced := h.balanced_deposit (hid ▸ hget) hopen hstaked hown }⟩
  | @grantSubsidy caller id d amount store admitted written =>
    obtain ⟨hget, hopen, -, hstaked, hnone, -, hamount, -⟩ :=
      Engine.admitSubsidy_eq_ok_iff.1 admitted
    obtain ⟨-, -, -, -, -, -, -, -, -, hmax, -⟩ := Config.validate_eq_ok_iff.1 h.valid
    have hd := h.records id d hget
    have hid := h.keyed id d hget
    exact ⟨_, {
      written
      record := { hd with subsidised := Policy.subsidyAmount_le hmax hamount }
      reserve := rfl
      registry := h.advances_refl hget hopen hid rfl ⟨rfl, rfl, rfl⟩
      balanced := h.balanced_subsidy (hid ▸ hget) hopen hstaked hnone }⟩
  | @submit caller id p d store admitted written =>
    obtain ⟨-, hget, hopen, hstaked, -⟩ := Engine.admitProposal_eq_ok_iff.1 admitted
    have hd := h.records id d hget
    have hid := h.keyed id d hget
    exact ⟨_, {
      written
      record := { hd with proposed := fun _ => hstaked, accepted := fun _ _ => rfl }
      reserve := rfl
      registry := h.advances_refl hget hopen hid rfl ⟨rfl, rfl, rfl⟩
      balanced := Engine.Sound.balanced_still hget hid fun _ => rfl }⟩
  | @accept caller id a store admitted one written =>
    obtain ⟨hget, hopen, -, ⟨p, hp, -⟩, -⟩ := Engine.admitAcceptance_eq_ok_iff.1 admitted
    have hd := h.records id _ hget
    have hid := h.keyed id _ hget
    obtain ⟨i, c, haccept⟩ := a.record.accept_eq a.party
    rw [haccept] at one written
    have hproposed : a.record.proposal.isSome = true := by rw [hp]; rfl
    exact ⟨_, {
      written
      record := { hd with
        undecided := fun _ => one
        accepted := fun _ _ => hproposed
        ended := fun hend => Bool.noConfusion (hopen.symm.trans hend) }
      reserve := rfl
      registry := h.advances_refl hget hopen hid rfl ⟨rfl, rfl, rfl⟩
      balanced := Engine.Sound.balanced_still hget hid fun _ => rfl }⟩
  | @agree caller id a f admitted both resolves =>
    obtain ⟨hget, hopen, -, ⟨p, hp, htext⟩, -⟩ := Engine.admitAcceptance_eq_ok_iff.1 admitted
    have hd := h.records id _ hget
    have hid := h.keyed id _ hget
    have hproposed : a.record.proposal.isSome = true := by rw [hp]; rfl
    obtain ⟨i, c, haccept⟩ := a.record.accept_eq a.party
    rw [haccept] at both resolves
    rw [htext] at resolves
    exact resolves.advance h (hid ▸ hget) hopen ⟨i, c, rfl⟩ (fun _ _ => hproposed)
      (Resolution.settles_agreement hopen (hd.proposed hproposed))
      (Resolution.accords_agreement hp both)
  | @counter caller id r c routed next deadline store admitted routes opened dated written =>
    obtain ⟨hget, hopen, hparty, hstaked, -⟩ := Engine.admitCounter_eq_ok_iff.1 admitted
    obtain ⟨startTime, -, -, -, rfl⟩ := Dispute.counterRound_eq_ok_iff.1 opened
    have hd := h.records id _ hget
    have hid := h.keyed id _ hget
    have hcaller := hd.isSystem_of_partyOf hparty
    refine ⟨_, {
      written
      record := { hd with
        proposed := nofun
        undecided := fun _ => rfl
        dated := fun _ => ⟨deadline, (if_pos hstaked).trans dated⟩
        countered := fun _ => hstaked
        accepted := fun p h => by cases p <;> cases h
        ended := fun hend => Bool.noConfusion (hopen.symm.trans hend) }
      reserve := rfl
      registry := h.advances_refl hget hopen hid rfl ⟨rfl, rfl, rfl⟩
      balanced := Engine.Sound.balanced_idle hget hid (fun _ => rfl) (fun p => ?_) fun p => ?_ }⟩
    · simp only [given_cons, given_nil, if_neg (h.standard.burnSink_ne p),
        if_neg (h.standard.feePool_ne p)]
    · simp only [taken_cons, taken_nil, if_neg (h.standard.outside_ne p hcaller)]
  | @lapse caller source id d draw skipped f admitted draws resolves =>
    obtain ⟨hget, hopen, hstaked, -⟩ := Engine.admitEnforcement_eq_silent_iff.1 admitted
    have hd := h.records id d hget
    have hid := h.keyed id d hget
    exact resolves.advance h (hid ▸ hget) hopen ⟨_, _, rfl⟩ hd.accepted
      (Resolution.settles_lapse h.standard hd hopen hstaked draws)
      (Resolution.accords_lapse hd hopen draws)
  | @deadlock caller id d settlement f admitted resolves =>
    obtain ⟨hget, hopen, hstaked, -, hsplit⟩ :=
      Engine.admitEnforcement_eq_deadlocked_iff.1 admitted
    have hd := h.records id d hget
    have hid := h.keyed id d hget
    exact resolves.advance h (hid ▸ hget) hopen ⟨_, _, rfl⟩ hd.accepted
      (Resolution.settles_deadlock hopen hstaked)
      (Resolution.accords_deadlock (hd.undecided hopen) hsplit)
  | @retry caller id d release registry store admitted freed written =>
    obtain ⟨hget, hpending, hresolved⟩ := Engine.admitRetry_eq_ok_iff.1 admitted
    have hd := h.records id d hget
    have hid := h.keyed id d hget
    have hfits := (h.registered.fits id d hget).unfreeze hresolved hpending freed
    refine ⟨_, {
      written
      record := { hd with begun := fun hopen => Bool.noConfusion (hresolved.symm.trans hopen) }
      reserve := rfl
      registry :=
        Engine.Sound.advances_unfreeze (hid ▸ freed) (hid ▸ hfits) rfl rfl fun id' _ => ?_
      balanced := Engine.Sound.balanced_still hget hid fun _ => rfl }⟩
    obtain ⟨-, -, rfl⟩ := Registry.unfreeze_eq_ok_iff.1 freed
    rfl

theorem Engine.Sound.step {e : Engine} (h : e.Sound) (s : Turn) (hclean : e.stepsCleanly s = true) :
    (e.step s).Sound := by
  cases s with
  | call op =>
    show (e.perform op).2.Sound
    rcases hdone : e.perform op with ⟨err | answer, e'⟩
    · exact h.perform_error hclean hdone
    · obtain ⟨f, ledger, hsucceeds, hmoves, rfl⟩ := Engine.perform_ok h.keyed hdone
      obtain ⟨w, hadvance⟩ := hsucceeds.advance h
      exact h.having hmoves hadvance
  | clock now => exact h.setClock now
  | switch switches => exact h.setSwitches switches

/-- **Every state of a clean run is sound.** -/
theorem CleanRun.sound {start : Engine} {turns : List Turn} (h : CleanRun start turns) :
    (start.run turns).Sound :=
  h.invariant (fun _ hfresh => hfresh.sound) fun _ s hsound hclean => hsound.step s hclean

end Arbitration
