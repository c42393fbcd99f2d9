import Arbitration.Proofs.Operations

/-!
# What an outcome brings

The outcome of a dispute says **everything about its end**: how the stakes are paid out
(`Policy.Payout`), on what terms the asset is released (`Dispute.Grants`), and whether the fallback
license applies (`Dispute.license`). A resolution accords with its outcome if it carries out just
that (`Resolution.Accords`).

The registry keeps entries of its own under the number of a dispute, and knows nothing of records.
`Registry.Fits` says what these entries are if they go with a record: the asset is held by the
initiator until it is released, and then it was released on the terms of the outcome. Both the
release that was refused and left for later and the one that was made at once lead there.
-/

namespace Arbitration

/-! ### What an outcome says -/

/-- What the rules pay out for an outcome. The incentive of a dispute whose counterparty stayed
silent is paid in full or not at all; where incentives are set aside, it is what was set aside. -/
inductive Policy.Payout (config : Config) (initiatorStake counterpartyStake earmarked : Amount) :
    Outcome → Settlement → Prop
  | agreement : Payout config initiatorStake counterpartyStake earmarked .acceptedProposal
      (acceptedSplit initiatorStake counterpartyStake)
  | deadlock {s : Settlement}
      (split : timeoutSplit initiatorStake counterpartyStake config.timeoutBurnBps = .ok s) :
      Payout config initiatorStake counterpartyStake earmarked .timeoutWithBurn s
  | lapse {incentive : Amount}
      (allOrNothing : incentive = .zero ∨
        incentiveAmount initiatorStake config.incentiveBps = .ok incentive)
      (setAside : config.reservePolicy = .earmarked → incentive = earmarked) :
      Payout config initiatorStake counterpartyStake earmarked .defaultLicenseApplied
        (defaultLicenseSplit initiatorStake incentive)

namespace Dispute

/-- On what terms a dispute that ends with an outcome releases its asset. -/
inductive Grants (d : Dispute) : Outcome → Release → Prop
  | agreement {p : Proposal} (proposed : d.proposal = some p) :
      Grants d .acceptedProposal (.acceptedProposal p.text)
  | deadlock : Grants d .timeoutWithBurn (.timeoutWithBurn d.fallback.termsRef)
  | lapse : Grants d .defaultLicenseApplied (.defaultLicense d.fallback.termsRef)

/-- The terms of the fallback license that applies to the asset, if the outcome is one for which
it does. -/
def license (d : Dispute) : Option String :=
  match d.outcome with
  | .timeoutWithBurn | .defaultLicenseApplied => some d.fallback.termsRef
  | .pending | .acceptedProposal => none

/-- Whether the asset is held: the dispute is open, or the registry has yet to release it. -/
def holdsAsset (d : Dispute) : Bool := !d.resolved || d.pendingRelease.isSome

variable {d : Dispute} {outcome : Outcome} {release : Release}

theorem holdsAsset_of_open (h : d.resolved = false) : d.holdsAsset = true := by
  rw [holdsAsset, h]
  rfl

theorem holdsAsset_iff :
    d.holdsAsset = true ↔ d.resolved = false ∨ d.pendingRelease.isSome = true := by
  rw [holdsAsset, Bool.or_eq_true, Bool.not_eq_true']

theorem holdsAsset_eq_false_iff :
    d.holdsAsset = false ↔ d.resolved = true ∧ d.pendingRelease = none := by
  rw [holdsAsset, Bool.or_eq_false_iff, Bool.not_eq_false', Option.isSome_eq_false_iff,
    Option.isNone_iff_eq_none]

theorem license_of_pending (h : d.outcome = .pending) : d.license = none := by
  rw [license, h]

/-- The terms are read off the proposal and the fallback license alone. -/
theorem Grants.of_same {d' : Dispute} (h : d.Grants outcome release)
    (hproposal : d'.proposal = d.proposal) (hfallback : d'.fallback = d.fallback) :
    d'.Grants outcome release := by
  cases h with
  | agreement proposed => exact .agreement (hproposal.trans proposed)
  | deadlock =>
    rw [← hfallback]
    exact .deadlock
  | lapse =>
    rw [← hfallback]
    exact .lapse

end Dispute

/-- A resolution that carries out what its outcome says. -/
structure Resolution.Accords (r : Resolution) (config : Config) (d : Dispute) : Prop where
  payout : Policy.Payout config d.initiatorStake d.counterpartyStake d.earmarkedIncentive r.outcome
    r.settlement
  consent : d.bothAccepted = true ↔ r.outcome = .acceptedProposal
  terms : d.Grants r.outcome r.release
  license : r.applyFallback = (r.outcome != .acceptedProposal)

/-! ### Entries that go with a record -/

namespace Registry

/-- The entries under the number of a dispute go with its record. -/
structure Fits (r : Registry) (id : DisputeId) (d : Dispute) : Prop where
  held : r.frozen.get? id = if d.holdsAsset then some d.initiator else none
  released : d.holdsAsset = false →
    ∃ release, d.Grants d.outcome release ∧ r.released.get? id = some release
  owed : ∀ release, d.pendingRelease = some release → d.Grants d.outcome release
  licensed : r.licenses.get? id = d.license

variable {r r' : Registry} {id : DisputeId} {d : Dispute}

/-- Other registries with the same entries do as well. -/
theorem Fits.of_same (h : r.Fits id d) (hfrozen : r'.frozen.get? id = r.frozen.get? id)
    (hreleased : r'.released.get? id = r.released.get? id)
    (hlicenses : r'.licenses.get? id = r.licenses.get? id) : r'.Fits id d where
  held := hfrozen.trans h.held
  released hfree := by
    rw [hreleased]
    exact h.released hfree
  owed := h.owed
  licensed := hlicenses.trans h.licensed

theorem Fits.isFrozen_eq (h : r.Fits id d) : r.isFrozen id = d.holdsAsset := by
  rw [isFrozen, Table.contains, h.held]
  cases d.holdsAsset <;> rfl

/-- An open record asks only that the asset is held and that there is no license. -/
theorem fits_open_iff (hopen : d.resolved = false) (houtcome : d.outcome = .pending)
    (hnone : d.pendingRelease = none) :
    r.Fits id d ↔ r.frozen.get? id = some d.initiator ∧ r.licenses.get? id = none := by
  have hholds := Dispute.holdsAsset_of_open hopen
  have hlicense := Dispute.license_of_pending houtcome
  constructor
  · intro h
    refine ⟨?_, h.licensed.trans hlicense⟩
    rw [h.held, if_pos hholds]
  · rintro ⟨hfrozen, hlicenses⟩
    refine ⟨by rw [hfrozen, if_pos hholds], fun hfree => ?_, fun release hpending => ?_,
      hlicenses.trans hlicense.symm⟩
    · rw [hholds] at hfree
      cases hfree
    · rw [hnone] at hpending
      cases hpending

/-- An asset whose release was pending is released on the terms that were kept. -/
theorem Fits.unfreeze {release : Release} (h : r.Fits id d) (hresolved : d.resolved = true)
    (hpending : d.pendingRelease = some release) (hdone : r.unfreeze id release = .ok r') :
    r'.Fits id { d with pendingRelease := none } := by
  obtain ⟨-, -, rfl⟩ := unfreeze_eq_ok_iff.1 hdone
  have hfree : ({ d with pendingRelease := none } : Dispute).holdsAsset = false :=
    Dispute.holdsAsset_eq_false_iff.2 ⟨hresolved, rfl⟩
  refine ⟨?_, fun _ => ⟨release, ?_, Table.get?_insert_self ..⟩, nofun, h.licensed⟩
  · rw [hfree]
    exact Table.get?_erase_self ..
  · exact (h.owed release hpending).of_same rfl rfl

end Registry

/-- **The entries after a resolution** go with the marked record: the asset is released on the
terms of the outcome, or held until it can be, and the license is there if it applies. -/
theorem Engine.Releases.fits {e : Engine} {d released : Dispute} {r : Resolution}
    {freed registry : Registry} {pending : List (DisputeId × Event)} {config : Config}
    (h : e.Releases d r.release freed released pending)
    (haccords : r.Accords config d) (hnone : d.pendingRelease = none)
    (hfits : e.registry.frozen.get? d.id = some d.initiator ∧
      e.registry.licenses.get? d.id = none)
    (hlicensed : if r.applyFallback then
        freed.applyFallback d.id d.fallback.termsRef = .ok registry
      else registry = freed) :
    registry.Fits d.id (released.resolve r.outcome r.settlement e.now) := by
  obtain ⟨hheld, hunlicensed⟩ := hfits
  obtain ⟨hlicenses, -, waiting, hwaiting⟩ := h.frame
  -- the license is the last step and touches neither what is frozen nor what is released
  have hentries : registry.frozen = freed.frozen ∧ registry.released = freed.released ∧
      registry.licenses.get? d.id = (released.resolve r.outcome r.settlement e.now).license := by
    have happlies := haccords.license
    have hterms := haccords.terms
    rw [hwaiting]
    generalize r.release = release at hterms
    cases happly : r.applyFallback with
    | true =>
      rw [happly, if_pos rfl] at hlicensed
      obtain ⟨-, -, rfl⟩ := Registry.applyFallback_eq_ok_iff.1 hlicensed
      refine ⟨rfl, rfl, (Table.get?_insert_self ..).trans ?_⟩
      rw [happly] at happlies
      cases houtcome : r.outcome with
      | pending =>
        rw [houtcome] at hterms
        cases hterms
      | acceptedProposal =>
        rw [houtcome] at happlies
        cases happlies
      | timeoutWithBurn => rfl
      | defaultLicenseApplied => rfl
    | false =>
      rw [happly, if_neg Bool.false_ne_true] at hlicensed
      subst hlicensed
      have hagreed : r.outcome = .acceptedProposal := by
        rw [happly] at happlies
        exact bne_eq_false_iff_eq.1 happlies.symm
      refine ⟨rfl, rfl, ?_⟩
      rw [hlicenses, hunlicensed, hagreed]
      rfl
  obtain ⟨hfrozen, hreleased, hlicense⟩ := hentries
  cases h with
  | now done =>
    obtain ⟨-, -, rfl⟩ := Registry.unfreeze_eq_ok_iff.1 done
    have hfree : (d.resolve r.outcome r.settlement e.now).holdsAsset = false :=
      Dispute.holdsAsset_eq_false_iff.2 ⟨rfl, hnone⟩
    refine ⟨?_, fun _ => ⟨r.release, haccords.terms.of_same rfl rfl, ?_⟩,
      fun release hpending => ?_, hlicense⟩
    · rw [hfree, hfrozen]
      exact Table.get?_erase_self ..
    · rw [hreleased]
      exact Table.get?_insert_self ..
    · change d.pendingRelease = some release at hpending
      rw [hnone] at hpending
      cases hpending
  | later policy refused =>
    refine ⟨?_, nofun, fun release hpending => ?_, hlicense⟩
    · rw [hfrozen, hheld]
      rfl
    · cases hpending
      exact haccords.terms.of_same rfl rfl

end Arbitration
