import Arbitration.Inquiry
import Arbitration.Proofs.Burning

/-!
# Counter rounds in closed form

A round doubles the fee of the one before, and adds an extension that is cut off where the sum of
all extensions reaches its cap. The engine keeps the sum in the record and moves the start of the
dispute by each summand, and an `Inquiry` adds the summands up anew. Both come to the same numbers,
which depend on the **number of rounds** alone: `2 ^ k` base fees for the round after `k` others,
and `k` extensions or the cap, whichever is less. So the dispute starts as late as if all extensions
had been granted at once (`Dispute.Paced`), and its deadline is bounded from the day it was filed.
-/

namespace Arbitration

/-! ### Fees and extensions -/

/-- With a limit of up to 64 there is a fee for exactly the rounds below the limit whose fee is in
range. -/
theorem Policy.exists_counterFee_iff {base : Amount} {round limit : UInt32} (hlimit : limit ≤ 64) :
    (∃ fee, counterFee base round limit = .ok fee) ↔
      round < limit ∧ base.toNat * Nat.pow 2 round.toNat < UInt64.size := by
  constructor
  · rintro ⟨fee, hfee⟩
    exact ⟨counterFee_ok hfee, toNat_counterFee hfee ▸ fee.toNat_lt⟩
  · rintro ⟨hround, hrange⟩
    cases hfee : counterFee base round limit with
    | ok fee => exact ⟨fee, rfl⟩
    | error err =>
      cases err with
      | arithmetic err =>
        obtain ⟨-, hlarge⟩ := counterFee_arithmetic hlimit hfee
        exact absurd hrange (Nat.not_lt.2 hlarge)
      | counterLimit round' limit' =>
        have hbelow : ¬limit ≤ round := UInt32.not_le.2 hround
        rw [counterFee, if_neg hbelow] at hfee
        split at hfee
        · cases hfee
        · split at hfee <;> cases hfee

namespace Config

variable (c : Config)

/-- No sum of extensions leaves the range on the way. -/
theorem extensionAfter_lt (rounds : Nat) :
    (c.extensionAfter rounds).toNat + (Policy.counterExtension c.counterExtensionSecs
      (c.extensionAfter rounds) c.maxTotalExtensionSecs).toNat < UInt64.size :=
  Policy.counterExtension_lt ..

/-- The extensions of some rounds add up to one for each, or to the cap. -/
theorem toNat_extensionAfter (rounds : Nat) :
    (c.extensionAfter rounds).toNat =
      min (rounds * c.counterExtensionSecs.toNat) c.maxTotalExtensionSecs.toNat := by
  induction rounds with
  | zero =>
    rw [Nat.zero_mul, Nat.zero_min]
    rfl
  | succ rounds ih =>
    have hrange := c.extensionAfter_lt rounds
    rw [extensionAfter, UInt64.toNat_add, Nat.mod_eq_of_lt hrange, Policy.toNat_counterExtension,
      ih, Nat.succ_mul]
    omega

end Config

namespace Inquiry

variable {c : Config} {round : UInt32} {finding : Finding}

/-- What a question about a round is answered with. -/
theorem answer_counterFee_eq_ok_iff :
    (counterFee round).answer c = .ok finding ↔
      ∃ fee, Policy.counterFee c.counterBaseFee round c.maxCounters = .ok fee ∧
        .counterFee round fee (c.extensionAfter (round.toNat + 1)) = finding := by
  simp only [answer, bind_eq_ok_iff, mapError_eq_ok_iff, pure_eq_ok_iff]

/-- Under a valid configuration there is an answer for exactly the rounds that can be opened. -/
theorem exists_answer_counterFee_iff (hvalid : c.validate = .ok ()) :
    (∃ finding, (counterFee round).answer c = .ok finding) ↔
      round < c.maxCounters ∧ c.counterBaseFee.toNat * Nat.pow 2 round.toNat < UInt64.size := by
  obtain ⟨-, -, -, -, hlimit, -⟩ := Config.validate_eq_ok_iff.1 hvalid
  have hsmall : c.maxCounters ≤ 64 := UInt32.le_trans hlimit (by decide)
  simp only [answer_counterFee_eq_ok_iff, ← Policy.exists_counterFee_iff hsmall]
  constructor
  · rintro ⟨finding, fee, hfee, -⟩
    exact ⟨fee, hfee⟩
  · rintro ⟨fee, hfee⟩
    exact ⟨_, fee, hfee, rfl⟩

/-- The answer in closed form. -/
theorem answer_counterFee_closed (h : (counterFee round).answer c = .ok finding) :
    ∃ fee extension, finding = .counterFee round fee extension ∧
      fee.toNat = c.counterBaseFee.toNat * Nat.pow 2 round.toNat ∧
      extension.toNat = min ((round.toNat + 1) * c.counterExtensionSecs.toNat)
        c.maxTotalExtensionSecs.toNat := by
  obtain ⟨fee, hfee, rfl⟩ := answer_counterFee_eq_ok_iff.1 h
  exact ⟨fee, _, rfl, Policy.toNat_counterFee hfee, c.toNat_extensionAfter _⟩

end Inquiry

/-! ### One record -/

/-- A record that is as far as its number of rounds says. -/
structure Dispute.Paced (config : Config) (d : Dispute) : Prop where
  rounds : d.counterCount ≤ config.maxCounters
  extension : d.cumulativeExtensionSecs.toNat =
    min (d.counterCount.toNat * config.counterExtensionSecs.toNat)
      config.maxTotalExtensionSecs.toNat
  /-- It starts later than it was filed by all extensions together. -/
  started : d.createdAt.addSeconds d.cumulativeExtensionSecs = .ok d.startTime

namespace Dispute

variable {config : Config} {d next : Dispute}

theorem paced_opened (f : Filing) : (Dispute.opened f).Paced config where
  rounds := UInt32.le_iff_toNat_le.2 (Nat.zero_le _)
  extension := by
    rw [show (Dispute.opened f).counterCount.toNat = 0 from rfl, Nat.zero_mul, Nat.zero_min]
    rfl
  started := Timestamp.addSeconds_zero _

/-- Another round below the limit keeps the pace. -/
theorem Paced.nextRound {e : Engine} {r : CounterRequest} (h : d.Paced e.config)
    (hround : d.counterCount < e.config.maxCounters) (hopened : e.nextRound d r = .ok next) :
    next.Paced e.config ∧ next.counterCount.toNat = d.counterCount.toNat + 1 := by
  obtain ⟨startTime, hstart, hextension, hcount, rfl⟩ := counterRound_eq_ok_iff.1 hopened
  have hcounted : (UInt32.ofNat (d.counterCount.toNat + 1)).toNat = d.counterCount.toNat + 1 :=
    UInt32.toNat_ofNat_of_lt' hcount
  have hextended := UInt64.toNat_ofNat_of_lt' hextension
  refine ⟨⟨?_, ?_, ?_⟩, hcounted⟩
  · rw [UInt32.le_iff_toNat_le, hcounted]
    exact UInt32.lt_iff_toNat_lt.1 hround
  · have hbefore := h.extension
    rw [hextended, hcounted, Policy.toNat_counterExtension, Nat.succ_mul]
    omega
  · exact Timestamp.addSeconds_trans hextended h.started hstart

/-- The deadline lies no later than if all extensions that there can be were granted. -/
theorem Paced.resolutionDeadline_le {deadline : Timestamp} (h : d.Paced config)
    (hdated : d.resolutionDeadline config = .ok deadline) :
    deadline.seconds ≤ d.createdAt.seconds + config.resolutionTimeoutSecs.toNat +
        config.maxTotalExtensionSecs.toNat ∧
      ∀ secs latest, secs.toNat = config.resolutionTimeoutSecs.toNat +
        config.maxTotalExtensionSecs.toNat → d.createdAt.addSeconds secs = .ok latest →
          deadline ≤ latest := by
  have hcap : d.cumulativeExtensionSecs.toNat ≤ config.maxTotalExtensionSecs.toNat :=
    h.extension ▸ Nat.min_le_right ..
  constructor
  · obtain ⟨hstartsecs, -⟩ := Timestamp.addSeconds_eq_ok_iff.1 h.started
    obtain ⟨hsecs, -⟩ := Timestamp.addSeconds_eq_ok_iff.1 hdated
    omega
  · intro secs latest hall hlatest
    have hlt : d.cumulativeExtensionSecs.toNat + config.resolutionTimeoutSecs.toNat <
        UInt64.size := by
      have hrange : secs.toNat < UInt64.size := secs.toNat_lt
      omega
    -- the deadline, counted from the day of the filing
    have hsum := (UInt64.toNat_add _ _).trans (Nat.mod_eq_of_lt hlt)
    have hdeadline := Timestamp.addSeconds_trans hsum h.started hdated
    refine Timestamp.addSeconds_le ?_ hdeadline hlatest
    rw [UInt64.le_iff_toNat_le]
    omega

end Dispute

/-! ### One operation -/

/-- All records are as far as their numbers of rounds say. -/
def Engine.Paced (e : Engine) : Prop :=
  ∀ id d, e.store.get? id = some d → d.Paced e.config

section Operations

variable {e : Engine} {f : Footprint}

/-- A resolution leaves the rounds as they are. -/
theorem Resolves.exists_paced {d : Dispute} {r : Resolution} {moves : List Move}
    {events : List (DisputeId × Event)} (h : Resolves e d r moves events f)
    (hd : d.Paced e.config) : ∃ w, e.store.write w = .ok f.store ∧ w.record.Paced e.config := by
  obtain ⟨waiting, hwritten⟩ := h.exists_written
  exact ⟨_, hwritten, { hd with }⟩

/-- **Every successful operation** writes a record that is as far as it should be. -/
theorem Succeeds.exists_paced {op : Operation} {answer : Answer} (hs : Succeeds e op answer f)
    (h : e.Paced) : ∃ w, e.store.write w = .ok f.store ∧ w.record.Paced e.config := by
  cases hs with
  | initiate admitted setAside counted frozen dated written =>
    exact ⟨_, written, Dispute.paced_opened _⟩
  | deposit admitted added written =>
    obtain ⟨hget, -⟩ := Engine.admitDeposit_eq_ok_iff.1 admitted
    exact ⟨_, written, { h _ _ hget with }⟩
  | grantSubsidy admitted written =>
    obtain ⟨hget, -⟩ := Engine.admitSubsidy_eq_ok_iff.1 admitted
    exact ⟨_, written, { h _ _ hget with }⟩
  | submit admitted written =>
    obtain ⟨-, hget, -⟩ := Engine.admitProposal_eq_ok_iff.1 admitted
    exact ⟨_, written, { h _ _ hget with }⟩
  | @accept caller id a store admitted one written =>
    obtain ⟨hget, -⟩ := Engine.admitAcceptance_eq_ok_iff.1 admitted
    obtain ⟨i, c, haccept⟩ := a.record.accept_eq a.party
    rw [haccept] at written
    exact ⟨_, written, { h _ _ hget with }⟩
  | @agree caller id a f admitted both resolves =>
    obtain ⟨hget, -⟩ := Engine.admitAcceptance_eq_ok_iff.1 admitted
    obtain ⟨i, c, haccept⟩ := a.record.accept_eq a.party
    rw [haccept] at resolves
    exact resolves.exists_paced { h _ _ hget with }
  | counter admitted routes opened dated written =>
    obtain ⟨hget, -, -, -, -, hfee, -⟩ := Engine.admitCounter_eq_ok_iff.1 admitted
    exact ⟨_, written, ((h _ _ hget).nextRound (Policy.counterFee_ok hfee) opened).1⟩
  | lapse admitted draws resolves =>
    obtain ⟨hget, -⟩ := Engine.admitEnforcement_eq_silent_iff.1 admitted
    exact resolves.exists_paced (h _ _ hget)
  | deadlock admitted resolves =>
    obtain ⟨hget, -⟩ := Engine.admitEnforcement_eq_deadlocked_iff.1 admitted
    exact resolves.exists_paced (h _ _ hget)
  | retry admitted freed written =>
    obtain ⟨hget, -⟩ := Engine.admitRetry_eq_ok_iff.1 admitted
    exact ⟨_, written, { h _ _ hget with }⟩

end Operations

namespace Engine

variable {e e' : Engine}

theorem Idle.paced (h : e.Idle e') (hpaced : e.Paced) : e'.Paced := by
  intro id d hget
  rw [h.get?] at hget
  exact h.config ▸ hpaced id d hget

theorem Paced.having {op : Operation} {answer : Answer} {f : Footprint} (h : e.Paced)
    (hs : Succeeds e op answer f) (ledger : Ledger) : (e.having f ledger).Paced := by
  obtain ⟨w, hwritten, hrecord⟩ := hs.exists_paced h
  exact Store.forall_get?_of_write hwritten hrecord h

theorem Fresh.paced (h : e.Fresh) : e.Paced := by
  obtain ⟨-, -, -, -, hstore, -⟩ := h.parts
  intro id d hget
  rw [hstore] at hget
  cases hget

end Engine

/-- In every state of every clean run. -/
theorem CleanRun.paced {start : Engine} {turns : List Turn} (h : CleanRun start turns) :
    (start.run turns).Paced :=
  h.fresh.sound.run_induction h.clean h.fresh.paced (fun hidle hpaced => hidle.paced hpaced)
    fun _ hsucceeds _ hpaced => hpaced.having hsucceeds _

/-! ### Another round -/

/-- What opening a round over a record does. -/
structure Engine.OpensRound (e e' : Engine) (caller : AccountId) (d next : Dispute)
    (fee routed : Amount) : Prop where
  /-- The fee has doubled with every round before. -/
  doubled : fee.toNat = e.config.counterBaseFee.toNat * Nat.pow 2 d.counterCount.toNat
  /-- The fee is burned. -/
  burned : (e'.ledger.balance e.accounts.burnSink).toNat =
    (e.ledger.balance e.accounts.burnSink).toNat + fee.toNat
  /-- The caller pays it, and nothing else that does not go to the pool. -/
  paid : (e'.ledger.balance caller).toNat + fee.toNat + routed.toNat =
    (e.ledger.balance caller).toNat
  unrouted : e.config.routeExcessFeeToPool = false → routed = .zero
  recorded : e'.store.get? d.id = some next
  counted : next.counterCount.toNat = d.counterCount.toNat + 1
  /-- An inquiry about the round is answered with the fee, and with the extensions on record. -/
  answered : (Inquiry.counterFee d.counterCount).answer e.config =
    .ok (.counterFee d.counterCount fee next.cumulativeExtensionSecs)

/-- **One round.** A counter that succeeds opens the next round of its dispute. -/
theorem Engine.Sound.opensRound {e e' : Engine} {caller : AccountId} {id : DisputeId}
    {r : CounterRequest} {answer : Answer} {d : Dispute} (h : e.Sound) (hpaced : e.Paced)
    (hget : e.store.get? id = some d)
    (hdone : e.perform (.counter caller id r) = (.ok answer, e')) :
    ∃ next fee routed, e.OpensRound e' caller d next fee routed := by
  obtain ⟨f, ledger, hsucceeds, hmoves, rfl⟩ := Engine.perform_ok h.keyed hdone
  cases hsucceeds with
  | @counter _ _ _ c routed next deadline store admitted routes opened dated written =>
    obtain ⟨hfound, -, hparty, -, -, hfee, -⟩ := Engine.admitCounter_eq_ok_iff.1 admitted
    obtain rfl := Option.some.inj (hfound.symm.trans hget)
    obtain ⟨hnext, hcounted⟩ :=
      (hpaced id _ hget).nextRound (Policy.counterFee_ok hfee) opened
    have hcaller := (h.records id _ hget).isSystem_of_partyOf hparty
    obtain ⟨-, -, -, hsink, hpool, -⟩ := h.standard.protocol_ne hcaller
    have hburned := hmoves.balance e.accounts.burnSink
    have hpaid := hmoves.balance caller
    simp only [taken_cons, taken_nil, given_cons, given_nil, if_true, if_neg hsink.symm,
      if_neg h.standard.burnSink_ne_feePool.symm] at hburned
    simp only [taken_cons, taken_nil, given_cons, given_nil, if_true, if_neg hsink,
      if_neg hpool] at hpaid
    have hsame : next.cumulativeExtensionSecs =
        e.config.extensionAfter (c.record.counterCount.toNat + 1) := by
      rw [← UInt64.toNat_inj, hnext.extension, hcounted, Config.toNat_extensionAfter]
    refine ⟨next, c.fee, routed, ?_⟩
    exact {
      doubled := Policy.toNat_counterFee hfee
      burned := by
        show (ledger.balance _).toNat = _
        omega
      paid := by
        show (ledger.balance _).toNat + _ + _ = _
        omega
      unrouted := fun hroute => by
        rw [hroute] at routes
        exact routes
      recorded :=
        (Store.get?_of_write written _).trans (if_pos (Dispute.evolves_counterRound opened).id)
      counted := hcounted
      answered := Inquiry.answer_counterFee_eq_ok_iff.2 ⟨c.fee, hfee, by rw [hsame]⟩ }

/-- **Closed form of counter rounds.** In every state of every clean run the number of rounds of a
dispute tells how far it was extended and when it starts, so that its deadline stays within the
timeout and the cap of the extensions, counted from the filing. The next round that is opened costs
as many base fees as two to the power of that number, and an inquiry about it names that fee and
the extensions that go on record. Under every valid configuration an inquiry has an answer for
exactly the rounds below the limit whose fee is in range, it is the closed form, and no sum of
extensions leaves the range on the way. -/
theorem counter_rounds_closed_form {start : Engine} {turns : List Turn}
    (h : CleanRun start turns) :
    (∀ id d, (start.run turns).store.get? id = some d →
      d.Paced start.config ∧
        (∀ deadline, d.resolutionDeadline start.config = .ok deadline →
          deadline.seconds ≤ d.createdAt.seconds + start.config.resolutionTimeoutSecs.toNat +
              start.config.maxTotalExtensionSecs.toNat ∧
            ∀ secs latest, secs.toNat = start.config.resolutionTimeoutSecs.toNat +
              start.config.maxTotalExtensionSecs.toNat →
                d.createdAt.addSeconds secs = .ok latest → deadline ≤ latest) ∧
        ∀ caller r answer e',
          (start.run turns).perform (.counter caller id r) = (.ok answer, e') →
            ∃ next fee routed, (start.run turns).OpensRound e' caller d next fee routed) ∧
      ∀ c : Config, c.validate = .ok () → ∀ round : UInt32,
        ((∃ finding, (Inquiry.counterFee round).answer c = .ok finding) ↔
          round < c.maxCounters ∧
            c.counterBaseFee.toNat * Nat.pow 2 round.toNat < UInt64.size) ∧
        (∀ finding, (Inquiry.counterFee round).answer c = .ok finding →
          ∃ fee extension, finding = .counterFee round fee extension ∧
            fee.toNat = c.counterBaseFee.toNat * Nat.pow 2 round.toNat ∧
            extension.toNat = min ((round.toNat + 1) * c.counterExtensionSecs.toNat)
              c.maxTotalExtensionSecs.toNat) ∧
        ∀ rounds, (c.extensionAfter rounds).toNat + (Policy.counterExtension
          c.counterExtensionSecs (c.extensionAfter rounds) c.maxTotalExtensionSecs).toNat <
            UInt64.size := by
  have hconfig := h.fresh.sound.config_run h.clean
  refine ⟨fun id d hget => ?_, fun c hvalid round => ?_⟩
  · have hpaced : d.Paced start.config := hconfig ▸ h.paced id d hget
    exact ⟨hpaced, fun deadline => hpaced.resolutionDeadline_le,
      fun caller r answer e' => h.sound.opensRound h.paced hget⟩
  · exact ⟨Inquiry.exists_answer_counterFee_iff hvalid,
      fun finding => Inquiry.answer_counterFee_closed, c.extensionAfter_lt⟩

namespace Sample

/-- Bob and Alice have opened a round each. -/
def countered : List Turn := staking ++
  [.call (.counter bob .first ⟨filing.evidence, ⟨15⟩⟩),
    .call (.counter alice .first ⟨filing.evidence, ⟨20⟩⟩)]

/-- Bob opens the third, and offers ten more than it costs. -/
def thirdRound : Operation := .counter bob .first ⟨filing.evidence, ⟨50⟩⟩

end Sample

/-- The third round costs four times ten, and the extensions of two days each add up to the cap of
three days, on record as in the answer. -/
theorem third_round_reaches_cap :
    CleanRun Sample.routing Sample.countered ∧
      ∃ d next fee routed,
        (Sample.routing.run Sample.countered).store.get? .first = some d ∧
        (Sample.routing.run Sample.countered).OpensRound
          ((Sample.routing.run Sample.countered).perform Sample.thirdRound).2 Sample.bob d next fee
          routed ∧
        d.createdAt.addSeconds d.cumulativeExtensionSecs = .ok d.startTime ∧
        fee.toNat = 40 ∧ next.cumulativeExtensionSecs.toNat = 3 * 86400 := by
  have hclean : CleanRun Sample.routing Sample.countered :=
    ⟨Sample.engineUnder_fresh rfl, by decide +kernel⟩
  have hdone : ((Sample.routing.run Sample.countered).perform Sample.thirdRound).1 = .ok .done := by
    rfl
  have htwo : ((Sample.routing.run Sample.countered).store.get? .first).map (·.counterCount) =
      some 2 := by decide +kernel
  have hconfig : (Sample.routing.run Sample.countered).config = Sample.routing.config := by
    decide +kernel
  obtain ⟨hrecords, hanswers⟩ := counter_rounds_closed_form hclean
  obtain ⟨d, hget, hcount⟩ := Option.map_eq_some_iff.1 htwo
  obtain ⟨hpaced, -, hrounds⟩ := hrecords _ d hget
  obtain ⟨next, fee, routed, hopens⟩ := hrounds _ _ _ _ (Prod.ext hdone rfl)
  have hanswered := hopens.answered
  rw [hcount, hconfig] at hanswered
  obtain ⟨-, hclosed, -⟩ := hanswers Sample.routing.config rfl 2
  obtain ⟨fee', extension, hfinding, hfee, hextension⟩ := hclosed _ hanswered
  rw [Finding.counterFee.injEq] at hfinding
  obtain ⟨-, rfl, rfl⟩ := hfinding
  exact ⟨hclean, d, next, fee, routed, hget, hopens, hpaced.started, hfee, hextension⟩

end Arbitration
