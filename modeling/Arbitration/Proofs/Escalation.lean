import Arbitration.Proofs.Evolution

/-!
# Filing again too soon

A filing costs more within the cooldown of the last one by the same initiator against the same
counterparty, and it counts against the initiator. Three parts keep books on this: the records,
the store's encounters and the treasury's scores. A filing writes the three at different points,
and the treasury first.

`Engine.Booked` says that **the books never disagree**. What is said of records is said by way of
the newest record with a property (`Store.Newest`). Such a property is settled at filing
(`Dispute.SettledAtFiling`), so later writes to the records do not touch it and only filings are
looked at again.
-/

namespace Arbitration

/-! ### Properties of filings -/

namespace Dispute

/-- The dispute was filed by the one against the other. -/
def Between (initiator counterparty : AccountId) (d : Dispute) : Prop :=
  d.initiator = initiator ∧ d.counterparty = counterparty

/-- An earlier dispute of the same pair in the same roles. -/
def Before (d m : Dispute) : Prop :=
  m.Between d.initiator d.counterparty ∧ m.id.toNat < d.id.toNat

/-- The filing decides whether a record has the property. -/
def SettledAtFiling (p : Dispute → Prop) : Prop :=
  ∀ {d next : Dispute}, d.Evolves next → (p next ↔ p d)

theorem settledAtFiling_between (initiator counterparty : AccountId) :
    SettledAtFiling (Between initiator counterparty) := by
  intro d next h
  rw [Between, Between, h.initiator, h.counterparty]

theorem settledAtFiling_before (d : Dispute) : SettledAtFiling d.Before := by
  intro m next h
  rw [Before, Before, settledAtFiling_between _ _ h, h.id]

theorem Evolves.before_eq {d next : Dispute} (h : d.Evolves next) : next.Before = d.Before := by
  unfold Before
  rw [h.initiator, h.counterparty, h.id]

end Dispute

namespace Store

variable {s s' : Store} {w : StoreWrite} {p : Dispute → Prop} {last : Option Timestamp}

/-! ### The newest record -/

/-- The record with the highest number among those with a property. -/
structure Newest (s : Store) (p : Dispute → Prop) (m : Dispute) : Prop where
  found : s.get? m.id = some m
  has : p m
  highest : ∀ id d, s.get? id = some d → p d → id.toNat ≤ m.id.toNat

/-- When the newest record with a property was filed, if there is one. -/
inductive LastFiled (s : Store) (p : Dispute → Prop) : Option Timestamp → Prop
  | never (unmet : ∀ id d, s.get? id = some d → ¬ p d) : LastFiled s p none
  | newest {m : Dispute} (newest : s.Newest p m) : LastFiled s p (some m.createdAt)

/-- There is at most one newest record. -/
theorem Newest.eq {m m' : Dispute} (h : s.Newest p m) (h' : s.Newest p m') : m = m' := by
  have hle := h'.highest _ _ h.found h.has
  have hge := h.highest _ _ h'.found h'.has
  have hid : m.id = m'.id := DisputeId.toNat_inj.1 (Nat.le_antisymm hle hge)
  have hfound := h'.found
  rw [← hid, h.found] at hfound
  exact Option.some.inj hfound

theorem LastFiled.eq_none_iff (h : s.LastFiled p last) :
    last = none ↔ ∀ id d, s.get? id = some d → ¬ p d := by
  cases h with
  | never unmet => exact iff_of_true rfl unmet
  | @newest m newest =>
    exact iff_of_false nofun fun unmet => unmet m.id m newest.found newest.has

theorem LastFiled.eq_some_iff (h : s.LastFiled p last) {t : Timestamp} :
    last = some t ↔ ∃ m, s.Newest p m ∧ m.createdAt = t := by
  cases h with
  | never unmet =>
    refine iff_of_false nofun ?_
    rintro ⟨m, newest, -⟩
    exact unmet m.id m newest.found newest.has
  | @newest m newest =>
    constructor
    · intro ht
      exact ⟨m, newest, Option.some.inj ht⟩
    · rintro ⟨m', newest', rfl⟩
      rw [newest.eq newest']

/-- The property matters for the records of the store only. -/
theorem LastFiled.congr {q : Dispute → Prop} (h : s.LastFiled p last)
    (hiff : ∀ id d, s.get? id = some d → (p d ↔ q d)) : s.LastFiled q last := by
  cases h with
  | never unmet => exact .never fun id d hget hq => unmet id d hget ((hiff id d hget).2 hq)
  | newest newest =>
    exact .newest ⟨newest.found, (hiff _ _ newest.found).1 newest.has,
      fun id d hget hq => newest.highest id d hget ((hiff id d hget).2 hq)⟩

/-! ### Records that go on -/

/-- The same disputes, each of them gone on from what it was. -/
structure GoesOn (s s' : Store) : Prop where
  forth : ∀ id d, s.get? id = some d → ∃ next, s'.get? id = some next ∧ d.Evolves next
  back : ∀ id next, s'.get? id = some next → ∃ d, s.get? id = some d ∧ d.Evolves next

theorem LastFiled.goesOn (h : s.LastFiled p last) (hp : Dispute.SettledAtFiling p)
    (hgoes : s.GoesOn s') : s'.LastFiled p last := by
  cases h with
  | never unmet =>
    refine .never fun id d hget hd => ?_
    obtain ⟨previous, hprevious, hevolves⟩ := hgoes.back id d hget
    exact unmet id previous hprevious ((hp hevolves).1 hd)
  | @newest m newest =>
    obtain ⟨next, hget, hevolves⟩ := hgoes.forth _ _ newest.found
    rw [← hevolves.createdAt]
    refine .newest ⟨hevolves.id.symm ▸ hget, (hp hevolves).2 newest.has, fun id d hd hpd => ?_⟩
    obtain ⟨previous, hprevious, hcame⟩ := hgoes.back id d hd
    rw [hevolves.id]
    exact newest.highest id previous hprevious ((hp hcame).1 hpd)

/-! ### A new record -/

section Filed

variable {n : Dispute} (hnone : s.get? n.id = none)
  (hget : ∀ id, s'.get? id = if n.id = id then some n else s.get? id)

include hget

/-- A record with the property is the newest one when it is filed. -/
theorem lastFiled_of_filed (hhigh : ∀ id d, s.get? id = some d → id.toNat < n.id.toNat)
    (hp : p n) : s'.LastFiled p (some n.createdAt) := by
  refine .newest ⟨by rw [hget, if_pos rfl], hp, fun id d hd _ => ?_⟩
  rw [hget] at hd
  split at hd
  · rename_i hid
    exact Nat.le_of_eq (congrArg _ hid.symm)
  · exact Nat.le_of_lt (hhigh id d hd)

include hnone

/-- Another record makes no difference. -/
theorem LastFiled.filed (h : s.LastFiled p last) (hp : ¬ p n) : s'.LastFiled p last := by
  -- what has the property afterwards was there before
  have hold : ∀ id d, s'.get? id = some d → p d → s.get? id = some d := by
    intro id d hd hpd
    rw [hget] at hd
    split at hd
    · cases hd
      exact absurd hpd hp
    · exact hd
  cases h with
  | never unmet => exact .never fun id d hd hpd => unmet id d (hold id d hd hpd) hpd
  | @newest m newest =>
    have hne : n.id ≠ m.id := by
      intro hid
      have hfound := newest.found
      rw [← hid, hnone] at hfound
      cases hfound
    refine .newest ⟨?_, newest.has, fun id d hd hpd => newest.highest id d (hold id d hd hpd) hpd⟩
    rw [hget, if_neg hne]
    exact newest.found

end Filed

/-! ### Encounters -/

theorem encounters_of_write (h : s.write w = .ok s') : s'.encounters =
    match w.encounter with
    | some met => s.encounters.insert (met.initiator, met.counterparty) met.time
    | none => s.encounters := by
  obtain ⟨-, ⟨_, _, rfl⟩ | ⟨_, _, _, _, rfl⟩⟩ := write_eq_ok_iff.1 h <;> rfl

/-! ### Counting records -/

/-- The number of disputes for which the stake was raised. -/
def escalations (s : Store) : Nat := s.toList.countP (·.escalated)

/-- How many of them an account filed. -/
def escalationsBy (s : Store) (a : AccountId) : Nat :=
  s.toList.countP fun d => d.escalated && d.initiator = a

theorem escalationsBy_le (s : Store) (a : AccountId) : s.escalationsBy a ≤ s.escalations :=
  List.countP_mono_left fun _ _ h => (Bool.and_eq_true_iff.1 h).1

/-- Counting is summing ones. -/
private theorem countP_eq_total (q : Dispute → Bool) (s : Store) :
    s.toList.countP q = s.total fun d => if q d then 1 else 0 := by
  unfold total
  induction s.toList with
  | nil => rfl
  | cons d l ih =>
    rw [List.countP_cons, sumOf_cons, ih, Nat.add_comm]

/-- A write takes the old record out of a count and puts the new one in. -/
theorem countP_of_write (q : Dispute → Bool) (h : s.write w = .ok s') :
    s'.toList.countP q + ((s.get? w.record.id).map fun d => if q d then 1 else 0).getD 0 =
      s.toList.countP q + if q w.record then 1 else 0 := by
  rw [countP_eq_total, countP_eq_total]
  exact total_of_write (fun d => if q d then 1 else 0) h

/-- Where disputes only go on, what is settled at filing is counted as before. -/
theorem GoesOn.countP_eq (h : s.GoesOn s') (hw : s.write w = .ok s') {q : Dispute → Bool}
    (hq : ∀ {d next : Dispute}, d.Evolves next → q next = q d) :
    s'.toList.countP q = s.toList.countP q := by
  have hwritten := get?_of_write hw w.record.id
  rw [if_pos rfl] at hwritten
  obtain ⟨previous, hprevious, hevolves⟩ := h.back _ _ hwritten
  have hcount := countP_of_write q hw
  rw [hprevious, Option.map_some, Option.getD_some, hq hevolves] at hcount
  exact Nat.add_right_cancel hcount

end Store

/-! ### The rule -/

/-- A filing is in the cooldown if there was one and less time has passed, counted in whole seconds
and never below zero. -/
theorem Policy.inCooldown_iff {last : Option Timestamp} {now : Timestamp} {cooldown : UInt64} :
    inCooldown last now cooldown = true ↔
      ∃ t, last = some t ∧ max 0 (now.seconds - t.seconds) < (cooldown.toNat : Int) := by
  cases last with
  | none =>
    refine iff_of_false Bool.false_ne_true ?_
    rintro ⟨t, ht, -⟩
    cases ht
  | some t =>
    have hseconds : inCooldown (some t) now cooldown = true ↔
        (now.seconds - t.seconds).toNat < cooldown.toNat := by
      rw [inCooldown, Timestamp.secondsSince_eq, decide_eq_true_iff]
    simp only [hseconds, Option.some.injEq, exists_eq_left']
    omega

/-- The stake of a filing and whether it was raised, as an equation and an equivalence. -/
theorem Policy.escalatedStake_ok {base : Amount} {last : Option Timestamp} {now : Timestamp}
    {cooldown multiplier : UInt64} {esc : Escalation}
    (h : escalatedStake base last now cooldown multiplier = .ok esc) :
    esc.escalated = inCooldown last now cooldown ∧
      esc.stake.toNat = if esc.escalated then base.toNat * multiplier.toNat / wholeBps
        else base.toNat := by
  unfold escalatedStake at h
  split at h
  · rename_i hcooldown
    simp only [bind_eq_ok_iff, pure_eq_ok_iff] at h
    obtain ⟨stake, hstake, rfl⟩ := h
    exact ⟨hcooldown.symm, Amount.mulBps_eq_ok_iff.1 hstake⟩
  · rename_i hcooldown
    cases h
    exact ⟨(Bool.not_eq_true _ ▸ hcooldown).symm, rfl⟩

theorem Treasury.toNat_fullScore : fullScore.toNat = 4294967295 := rfl

/-- Below the full score counting goes up by one. -/
theorem Treasury.toNat_score_recordHarassment {t t' : Treasury} {a : AccountId}
    (h : t.recordHarassment a = .ok t') (hfull : (t.score a).toNat < 4294967295)
    (b : AccountId) :
    (t'.score b).toNat = (t.score b).toNat + if a = b then 1 else 0 := by
  rw [score_recordHarassment h]
  split
  · rename_i hab
    subst hab
    have hne : t.score a ≠ fullScore := by
      intro hsame
      rw [hsame, toNat_fullScore] at hfull
      omega
    rw [if_neg hne, UInt32.toNat_add, UInt32.toNat_one]
    exact Nat.mod_eq_of_lt (by omega)
  · rfl

/-! ### The books -/

namespace Engine

variable {e e' : Engine} {op : Operation} {f : Footprint}

/-- The records, the encounters and the scores agree. -/
structure Booked (e : Engine) : Prop where
  met : ∀ i c, e.store.LastFiled (Dispute.Between i c) (e.store.lastBetween i c)
  charged : ∀ id d, e.store.get? id = some d → ∃ last, e.store.LastFiled d.Before last ∧
    Policy.escalatedStake d.baseStake last d.createdAt e.config.cooldownSecs
      e.config.escalationMultiplierBps = .ok ⟨d.initiatorStake, d.escalated⟩
  counted : e.store.escalations < 4294967295 →
    ∀ a, (e.treasury.score a).toNat = e.store.escalationsBy a

/-- Below the full number of escalations no score is full. -/
theorem Booked.score_ne_full (h : e.Booked)
    (hfew : e.store.escalations < 4294967295) (a : AccountId) :
    e.treasury.score a ≠ Treasury.fullScore := by
  intro hfull
  have hcount := h.counted hfew a
  have hle := e.store.escalationsBy_le a
  rw [hfull, Treasury.toNat_fullScore] at hcount
  omega

theorem Fresh.booked (h : e.Fresh) : e.Booked := by
  obtain ⟨-, -, -, htreasury, hstore, -⟩ := h.parts
  have hget : ∀ id, e.store.get? id = none := by
    rw [hstore]
    exact fun _ => rfl
  refine ⟨fun i c => ?_, fun id d hd => ?_, fun _ a => ?_⟩
  · have hmet : e.store.lastBetween i c = none := by
      rw [hstore]
      rfl
    rw [hmet]
    refine .never fun id d hd => ?_
    rw [hget] at hd
    cases hd
  · rw [hget] at hd
    cases hd
  · rw [htreasury, hstore]
    rfl

/-- The books are kept by the records, the encounters and the scores alone. -/
theorem Booked.of_same (h : e.Booked) (hconfig : e'.config = e.config)
    (hrecords : e'.store.records = e.store.records)
    (hencounters : e'.store.encounters = e.store.encounters)
    (hscores : e.store.escalations < 4294967295 →
      ∀ a, e'.treasury.score a = e.treasury.score a) : e'.Booked := by
  have hget : ∀ id, e'.store.get? id = e.store.get? id := fun id =>
    congrArg (Table.get? · id) hrecords
  have hcount : ∀ q, e'.store.toList.countP q = e.store.toList.countP q := by
    intro q
    rw [Store.toList, Store.toList, hrecords]
  have hlast : ∀ {p last}, e.store.LastFiled p last → e'.store.LastFiled p last := by
    intro p last hfiled
    cases hfiled with
    | never unmet => exact .never fun id d hd => unmet id d (hget id ▸ hd)
    | newest newest =>
      exact .newest ⟨(hget _).trans newest.found, newest.has,
        fun id d hd => newest.highest id d (hget id ▸ hd)⟩
  refine ⟨fun i c => ?_, fun id d hd => ?_, fun hfew a => ?_⟩
  · rw [Store.lastBetween, hencounters]
    exact hlast (h.met i c)
  · obtain ⟨last, hbefore, hstake⟩ := h.charged id d (hget id ▸ hd)
    rw [hconfig]
    exact ⟨last, hlast hbefore, hstake⟩
  · rw [Store.escalations, hcount] at hfew
    rw [hscores hfew, Store.escalationsBy, hcount]
    exact h.counted hfew a

end Engine

/-! ### Operations on a dispute that is there -/

section Named

variable {e : Engine} {op : Operation} {answer : Answer} {f : Footprint} {id : DisputeId}

/-- A resolution writes no encounter and counts against nobody. -/
theorem Resolves.unfiled {d : Dispute} {r : Resolution} {moves : List Move}
    {events : List (DisputeId × Event)} (h : Resolves e d r moves events f) :
    f.store.encounters = e.store.encounters ∧ f.treasury = e.treasury := by
  cases h with
  | intro admitted releases written licensed => exact ⟨Store.encounters_of_write written, rfl⟩

/-- Only filings write an encounter or count against an account. -/
theorem Succeeds.unfiled (hs : Succeeds e op answer f) (hnamed : op.named = some id) :
    f.store.encounters = e.store.encounters ∧ f.treasury = e.treasury := by
  cases hs with
  | initiate admitted setAside counted frozen dated written => cases hnamed
  | deposit admitted added written => exact ⟨Store.encounters_of_write written, rfl⟩
  | grantSubsidy admitted written => exact ⟨Store.encounters_of_write written, rfl⟩
  | submit admitted written => exact ⟨Store.encounters_of_write written, rfl⟩
  | accept admitted one written => exact ⟨Store.encounters_of_write written, rfl⟩
  | agree admitted both resolves => exact resolves.unfiled
  | counter admitted routes opened dated written => exact ⟨Store.encounters_of_write written, rfl⟩
  | lapse admitted draws resolves => exact resolves.unfiled
  | deadlock admitted resolves => exact resolves.unfiled
  | retry admitted freed written => exact ⟨Store.encounters_of_write written, rfl⟩

/-- The disputes that are there go on, and there are no others. -/
theorem Succeeds.goesOn (hs : Succeeds e op answer f) (h : e.Sound)
    (hnamed : op.named = some id) : e.store.GoesOn f.store := by
  obtain ⟨next, hnext⟩ := hs.continues h
  obtain ⟨d, hd⟩ := Option.isSome_iff_exists.1 (hnext.known id hnamed)
  rw [← Operation.dispute_of_named (e := e) hnamed] at hd
  refine ⟨fun id' d' hget => ?_, fun id' d' hget => ?_⟩
  · rw [hnext.stored]
    split
    · rename_i hid
      subst hid
      exact ⟨next, rfl, hnext.evolves d' hget⟩
    · exact ⟨d', hget, .refl d'⟩
  · rw [hnext.stored] at hget
    split at hget
    · rename_i hid
      subst hid
      cases hget
      exact ⟨d, hd, hnext.evolves d hd⟩
    · exact ⟨d', hget, .refl d'⟩

end Named

/-! ### Steps -/

namespace Engine

variable {e e' : Engine}

theorem Booked.goesOn {w : StoreWrite} (h : e.Booked) (hconfig : e'.config = e.config)
    (hw : e.store.write w = .ok e'.store) (hgoes : e.store.GoesOn e'.store)
    (hencounters : e'.store.encounters = e.store.encounters)
    (htreasury : e'.treasury = e.treasury) : e'.Booked := by
  have hescalations : e'.store.escalations = e.store.escalations :=
    hgoes.countP_eq hw fun hevolves => by rw [hevolves.escalated]
  refine ⟨fun i c => ?_, fun id d hget => ?_, fun hfew a => ?_⟩
  · rw [Store.lastBetween, hencounters]
    exact (h.met i c).goesOn (Dispute.settledAtFiling_between i c) hgoes
  · obtain ⟨previous, hprevious, hevolves⟩ := hgoes.back id d hget
    obtain ⟨last, hlast, hstake⟩ := h.charged id previous hprevious
    refine ⟨last, hevolves.before_eq ▸ hlast.goesOn previous.settledAtFiling_before hgoes, ?_⟩
    rw [hconfig, hevolves.baseStake, hevolves.createdAt, hevolves.initiatorStake,
      hevolves.escalated]
    exact hstake
  · rw [hescalations] at hfew
    have hby : e'.store.escalationsBy a = e.store.escalationsBy a :=
      hgoes.countP_eq hw fun hevolves => by rw [hevolves.escalated, hevolves.initiator]
    rw [htreasury, hby]
    exact h.counted hfew a

/-- A filing is charged by the last encounter, and becomes the last one itself. -/
theorem Booked.filed {caller : AccountId} {r : InitiateRequest} {stake earmarked : Amount}
    {escalated : Bool} (h : e.Booked) (hsound : e.Sound) (hconfig : e'.config = e.config)
    (admitted : e.admitFiling caller r = .ok ⟨stake, escalated⟩)
    (counted : if escalated then e.treasury.recordHarassment caller = .ok e'.treasury
      else e'.treasury = e.treasury)
    (written : e.store.write {
      record := e.filed caller r stake escalated earmarked
      encounter := some ⟨caller, r.counterparty, e.now⟩ } = .ok e'.store) : e'.Booked := by
  obtain ⟨-, -, -, -, -, hstake⟩ := admitFiling_eq_ok_iff.1 admitted
  have hnone : e.store.get? (e.filed caller r stake escalated earmarked).id = none :=
    hsound.get?_nextId
  have hget := Store.get?_of_write written
  have hhigh : ∀ id d, e.store.get? id = some d →
      id.toNat < (e.filed caller r stake escalated earmarked).id.toNat := hsound.numbered
  refine ⟨fun i c => ?_, fun id d hd => ?_, fun hfew a => ?_⟩
  · rw [Store.lastBetween, Store.encounters_of_write written]
    show e'.store.LastFiled _ ((e.store.encounters.insert (caller, r.counterparty) e.now).get? _)
    rw [Table.get?_insert]
    by_cases hpair : (caller, r.counterparty) = (i, c)
    · obtain ⟨rfl, rfl⟩ := Prod.mk.injEq _ _ _ _ ▸ hpair
      rw [if_pos rfl]
      exact Store.lastFiled_of_filed hget hhigh ⟨rfl, rfl⟩
    · rw [if_neg hpair]
      refine (h.met i c).filed hnone hget fun hbetween => hpair ?_
      exact Prod.ext hbetween.1 hbetween.2
  · rw [hget] at hd
    rw [hconfig]
    split at hd
    · cases hd
      refine ⟨_, ?_, hstake⟩
      have hlast : e.store.LastFiled (e.filed caller r stake escalated earmarked).Before
          (e.store.lastBetween caller r.counterparty) :=
        (h.met caller r.counterparty).congr fun id d hd =>
          ⟨fun hbetween => ⟨hbetween, hsound.keyed id d hd ▸ hhigh id d hd⟩, And.left⟩
      exact hlast.filed hnone hget fun hbefore => Nat.lt_irrefl _ hbefore.2
    · obtain ⟨last, hlast, hcharge⟩ := h.charged id d hd
      refine ⟨last, hlast.filed hnone hget fun hbefore => ?_, hcharge⟩
      -- the new record comes after all others
      have hlt := hhigh id d hd
      have hgt := hbefore.2
      rw [hsound.keyed id d hd] at hgt
      exact Nat.lt_asymm hlt hgt
  · have hall := Store.countP_of_write (·.escalated) written
    have hby := Store.countP_of_write (fun d => d.escalated && d.initiator = a) written
    simp only [hnone, Option.map_none, Option.getD_none, Nat.add_zero] at hall hby
    change e'.store.escalations = e.store.escalations + if escalated then 1 else 0 at hall
    change e'.store.escalationsBy a =
      e.store.escalationsBy a + if (escalated && decide (caller = a)) = true then 1 else 0 at hby
    have hfew' : e.store.escalations < 4294967295 := by omega
    have hscore := h.counted hfew'
    cases escalated with
    | false =>
      simp only [Bool.false_eq_true, if_false, Bool.false_and, Nat.add_zero] at counted hby
      rw [counted, hscore, hby]
    | true =>
      simp only [if_true, Bool.true_and, decide_eq_true_eq] at counted hby
      have hcaller := hscore caller
      have hle := e.store.escalationsBy_le caller
      rw [Treasury.toNat_score_recordHarassment counted (by omega), hscore, hby]

/-- **One step** that succeeds keeps the books. -/
theorem Booked.having {op : Operation} {answer : Answer} {f : Footprint} (h : e.Booked)
    (hsound : e.Sound) (hs : Succeeds e op answer f) (ledger : Ledger) :
    (e.having f ledger).Booked := by
  cases hnamed : op.named with
  | some id =>
    obtain ⟨w, hadvance⟩ := hs.advance hsound
    obtain ⟨hencounters, htreasury⟩ := hs.unfiled hnamed
    exact h.goesOn rfl hadvance.written (hs.goesOn hsound hnamed) hencounters htreasury
  | none =>
    cases hs with
    | initiate admitted setAside counted frozen dated written =>
      exact h.filed hsound rfl admitted counted written
    | _ => cases hnamed

/-- **Every clean turn** keeps the books. What a failed operation took back is off them. -/
theorem Booked.step (h : e.Booked) (hsound : e.Sound) (s : Turn)
    (hclean : e.stepsCleanly s = true) : (e.step s).Booked := by
  cases s with
  | clock now => exact h.of_same rfl rfl rfl fun _ _ => rfl
  | switch switches => exact h.of_same rfl rfl rfl fun _ _ => rfl
  | call op =>
    show (e.perform op).2.Booked
    rcases hdone : e.perform op with ⟨err | answer, e'⟩
    · have hagree := hsound.agrees_of_error hclean hdone
      refine h.of_same hagree.config (congrArg _ hagree.store) (congrArg _ hagree.store) ?_
      exact fun hfew a => hagree.score a fun _ => h.score_ne_full hfew a
    · obtain ⟨f, ledger, hsucceeds, -, rfl⟩ := perform_ok hsound.keyed hdone
      exact h.having hsound hsucceeds ledger

end Engine

theorem CleanRun.booked {start : Engine} {turns : List Turn} (h : CleanRun start turns) :
    (start.run turns).Booked := by
  have hall := h.invariant (P := fun e => e.Sound ∧ e.Booked)
    (fun e hfresh => ⟨hfresh.sound, hfresh.booked⟩) fun e s ⟨hsound, hbooked⟩ hclean =>
      ⟨hsound.step s hclean, hbooked.step hsound s hclean⟩
  exact hall.2

/-- **The books on repeated filings.** In every state of every clean run the last encounter of a
pair is when the newest of its disputes was filed. The stake of a record was raised if and only if
the dispute was filed within the cooldown of the newest earlier one of the same pair, and it is
scaled by the multiplier then and the base stake otherwise. While fewer stakes were raised than a
score can count, the score of every account is the number of them that it had to pay. An operation
that fails changes none of these books. -/
theorem escalation_books {start : Engine} {turns : List Turn} (h : CleanRun start turns) :
    (∀ i c, ((start.run turns).store.lastBetween i c = none ↔
          ∀ id d, (start.run turns).store.get? id = some d → ¬ d.Between i c) ∧
        ∀ t, (start.run turns).store.lastBetween i c = some t ↔
          ∃ m, (start.run turns).store.Newest (Dispute.Between i c) m ∧ m.createdAt = t) ∧
      (∀ id n, (start.run turns).store.get? id = some n →
        (n.escalated = true ↔ ∃ m, (start.run turns).store.Newest n.Before m ∧
          max 0 (n.createdAt.seconds - m.createdAt.seconds) <
            (start.config.cooldownSecs.toNat : Int)) ∧
        n.initiatorStake.toNat = if n.escalated then
          n.baseStake.toNat * start.config.escalationMultiplierBps.toNat / wholeBps
          else n.baseStake.toNat) ∧
      ((start.run turns).store.escalations < 4294967295 →
        ∀ a, ((start.run turns).treasury.score a).toNat =
          (start.run turns).store.escalationsBy a) ∧
      ∀ op err e', (start.run turns).takesBack op = true →
        (start.run turns).perform op = (.error err, e') →
        (∀ i c, e'.store.lastBetween i c = (start.run turns).store.lastBetween i c) ∧
          ((start.run turns).store.escalations < 4294967295 →
            ∀ a, e'.treasury.score a = (start.run turns).treasury.score a) := by
  have hsound := h.sound
  have hbooked := h.booked
  have hconfig := h.fresh.sound.config_run h.clean
  refine ⟨fun i c => ⟨(hbooked.met i c).eq_none_iff, fun t => (hbooked.met i c).eq_some_iff⟩,
    fun id n hget => ?_, hbooked.counted, fun op err e' hback hdone => ⟨fun i c => ?_, ?_⟩⟩
  · obtain ⟨last, hlast, hstake⟩ := hbooked.charged id n hget
    rw [hconfig] at hstake
    obtain ⟨hescalated, hamount⟩ := Policy.escalatedStake_ok hstake
    refine ⟨?_, hamount⟩
    change n.escalated = _ at hescalated
    rw [hescalated, Policy.inCooldown_iff]
    constructor
    · rintro ⟨t, ht, hlt⟩
      obtain ⟨m, hm, rfl⟩ := hlast.eq_some_iff.1 ht
      exact ⟨m, hm, hlt⟩
    · rintro ⟨m, hm, hlt⟩
      exact ⟨m.createdAt, hlast.eq_some_iff.2 ⟨m, hm, rfl⟩, hlt⟩
  · rw [Engine.store_of_error hsound.keyed hdone]
  · intro hfew a
    exact (hsound.agrees_of_error hback hdone).score a fun _ => hbooked.score_ne_full hfew a

namespace Sample

/-- Alice files twice at once. From then on no asset can be frozen. -/
def repeated : List Turn :=
  [.call (.initiate alice filing), .call (.initiate alice filing),
    .switch { registry := { freeze := true } }]

theorem repeated_clean : CleanRun engine repeated := ⟨engine_fresh, by decide +kernel⟩

end Sample

/-- Alice's second filing is the one that was raised, by her first, and her only count. A third
one, for which the asset cannot be frozen, is taken back, and the count with it. -/
theorem second_filing_is_booked :
    CleanRun Sample.engine Sample.repeated ∧
      (∃ n m, (Sample.engine.run Sample.repeated).store.get? ⟨2⟩ = some n ∧ n.escalated = true ∧
        (Sample.engine.run Sample.repeated).store.Newest n.Before m) ∧
      ((Sample.engine.run Sample.repeated).treasury.score Sample.alice).toNat = 1 ∧
      (((Sample.engine.run Sample.repeated).perform
        (.initiate Sample.alice Sample.filing)).2.treasury.score Sample.alice).toNat = 1 := by
  obtain ⟨-, hstakes, hscores, hfailed⟩ := escalation_books Sample.repeated_clean
  have hraised : ((Sample.engine.run Sample.repeated).store.get? ⟨2⟩).any (·.escalated) = true := by
    decide +kernel
  have hcount : (Sample.engine.run Sample.repeated).store.escalations = 1 := by decide +kernel
  have hby : (Sample.engine.run Sample.repeated).store.escalationsBy Sample.alice = 1 := by
    decide +kernel
  have hfew : (Sample.engine.run Sample.repeated).store.escalations < 4294967295 := by
    rw [hcount]
    decide
  have herror : ((Sample.engine.run Sample.repeated).perform
      (.initiate Sample.alice Sample.filing)).1 = .error (.registry (.refused .freeze)) := by
    rfl
  obtain ⟨n, hget, hn⟩ := (Option.any_eq_true _ _).1 hraised
  obtain ⟨m, hm, -⟩ := (hstakes _ n hget).1.1 hn
  have hscore := (hscores hfew Sample.alice).trans hby
  have hsame := (hfailed (.initiate Sample.alice Sample.filing) _ _ (by decide +kernel)
    (Prod.ext herror rfl)).2 hfew Sample.alice
  exact ⟨Sample.repeated_clean, ⟨n, m, hget, hn, hm⟩, hscore, hsame ▸ hscore⟩

end Arbitration
