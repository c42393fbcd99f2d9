import Arbitration.Proofs.Failures

/-!
# Rejected requests

An error says by its kind whether the request was rejected or a part or a calculation failed
(`DisputeError.isPrecondition`). That a rejected request has **no effect at all** is more than that
its effects are taken back: a transfer there and back would show in the count of transfers, and an
asset that is frozen and released in the calls of the registry.

Two facts are put together. What comes after the checks of an operation fails with other errors
only (`Operation.Blocked.refused`), and the checks come first, so an operation that they refuse
stops in the session that it began with (`Operation.Refused.transaction`). No invariant is needed
for this but that each record is found under its own number: a resolution looks its record up once
more when the stakes are already paid out, and would reject the request there if it were gone.
-/

namespace Arbitration

/-- The checks of an operation, made on the engine that it is called on, refuse the request. -/
def Operation.Refused (e : Engine) : Operation → DisputeError → Prop
  | .initiate caller r, err => e.admitFiling caller r = .error err
  | .deposit caller id, err => e.admitDeposit caller id = .error err
  | .grantSubsidy caller id, err => e.admitSubsidy caller id = .error err
  | .submit caller id p, err => e.admitProposal caller id p = .error err
  | .accept caller id, err => e.admitAcceptance caller id = .error err
  | .counter caller id r, err => e.admitCounter caller id r = .error err
  | .enforce _ id, err => e.admitEnforcement id = .error err
  | .retryRelease _ id, err => e.admitRetry id = .error err

/-! ### The checks come first -/

namespace Transaction

variable {α β : Type} {s s' : Session} {err : DisputeError}

theorem ask_bind_of_error {question : Engine → Except DisputeError α}
    {rest : α → Transaction β} (h : question s.engine = .error err) :
    (ask question >>= rest) s = .error err s := by
  show EStateM.bind (ask question) rest s = _
  unfold EStateM.bind
  simp only [ask, h]

theorem map_of_error {t : Transaction α} {f : α → β} (h : t s = .error err s') :
    (f <$> t) s = .error err s' := by
  show EStateM.map f t s = _
  unfold EStateM.map
  simp only [h]

end Transaction

/-- **An operation that is refused** stops where it began: no effect, no event, nothing to take
back. -/
theorem Operation.Refused.transaction {e : Engine} {op : Operation} {err : DisputeError}
    (h : op.Refused e err) : op.transaction { engine := e } = .error err { engine := e } := by
  -- every operation looks at the engine at most, and then asks
  cases op <;> exact Transaction.map_of_error (Transaction.ask_bind_of_error h)

/-! ### What comes after them rejects nothing -/

/-- A settlement that does not come to the stakes is no fault of the request. -/
theorem Resolution.fails_toBurn (r : Resolution) (d : Dispute) :
    FailsOnly (r.toBurn d) fun err => err.isPrecondition = false := by
  refine .bind (.mapError fun _ _ => rfl) fun total _ => ?_
  split
  · exact .bind (.mapError fun _ _ => rfl) fun _ _ => .bind (.throw rfl) nofun
  · exact .mapError fun _ _ => rfl

theorem Resolution.Stuck.isPrecondition {r : Resolution} {e : Engine} {d : Dispute}
    {done : List Move} {err : DisputeError} (h : r.Stuck e d done err) :
    err.isPrecondition = false := by
  cases h with
  | unbalanced refused => exact r.fails_toBurn d _ refused
  | unpaid admitted plan refused => rfl
  | unreleased policy refused => rfl
  | unwritten same refused => rfl
  | unlicensed releases refused => rfl

section Blocked

variable {e : Engine} {caller : AccountId} {id : DisputeId} {err : DisputeError}
  (hrejected : err.isPrecondition = true)
include hrejected

/-- A resolution that gets stuck rejects nothing. -/
theorem Resolution.Stuck.not_rejected {r : Resolution} {d : Dispute} {done : List Move} :
    ¬ r.Stuck e d done err := by
  intro h
  rw [h.isPrecondition] at hrejected
  cases hrejected

-- Each reason but the first one is the failure of a part or of a calculation, which its error says.

theorem Engine.Unfiled.refused_of_rejected {r : InitiateRequest} (h : e.Unfiled caller r err) :
    e.admitFiling caller r = .error err := by
  cases h with
  | refused h => exact h
  | _ => cases hrejected

theorem Engine.Undeposited.refused_of_rejected (h : e.Undeposited caller id err) :
    e.admitDeposit caller id = .error err := by
  cases h with
  | refused h => exact h
  | _ => cases hrejected

theorem Engine.Ungranted.refused_of_rejected (h : e.Ungranted caller id err) :
    e.admitSubsidy caller id = .error err := by
  cases h with
  | refused h => exact h
  | _ => cases hrejected

theorem Engine.Unproposed.refused_of_rejected {p : SignedProposal}
    (h : e.Unproposed caller id p err) : e.admitProposal caller id p = .error err := by
  cases h with
  | refused h => exact h
  | unwritten admitted h => cases hrejected

theorem Engine.Unaccepted.refused_of_rejected (h : e.Unaccepted caller id err) :
    e.admitAcceptance caller id = .error err := by
  cases h with
  | refused h => exact h
  | unwritten admitted h => cases hrejected
  | stuck admitted h => exact absurd h (Resolution.Stuck.not_rejected hrejected)

theorem Engine.Uncountered.refused_of_rejected {r : CounterRequest}
    (h : e.Uncountered caller id r err) : e.admitCounter caller id r = .error err := by
  cases h with
  | refused h => exact h
  | _ => cases hrejected

theorem Engine.Unenforced.refused_of_rejected (h : e.Unenforced id err) :
    e.admitEnforcement id = .error err := by
  cases h with
  | refused h => exact h
  | lapse admitted draws h => exact absurd h (Resolution.Stuck.not_rejected hrejected)
  | deadlock admitted h => exact absurd h (Resolution.Stuck.not_rejected hrejected)
  | _ => cases hrejected

theorem Engine.Unreleased.refused_of_rejected (h : e.Unreleased id err) :
    e.admitRetry id = .error err := by
  cases h with
  | refused h => exact h
  | unfreed admitted h => cases hrejected
  | unwritten admitted h => cases hrejected

/-- **Only the checks reject a request.** -/
theorem Operation.Blocked.refused {op : Operation} (h : op.Blocked e err) : op.Refused e err := by
  cases op with
  | initiate caller r => exact Engine.Unfiled.refused_of_rejected hrejected h
  | deposit caller id => exact Engine.Undeposited.refused_of_rejected hrejected h
  | grantSubsidy caller id => exact Engine.Ungranted.refused_of_rejected hrejected h
  | submit caller id p => exact Engine.Unproposed.refused_of_rejected hrejected h
  | accept caller id => exact Engine.Unaccepted.refused_of_rejected hrejected h
  | counter caller id r => exact Engine.Uncountered.refused_of_rejected hrejected h
  | enforce caller id => exact Engine.Unenforced.refused_of_rejected hrejected h
  | retryRelease caller id => exact Engine.Unreleased.refused_of_rejected hrejected h

end Blocked

/-! ### No effect at all -/

/-- **A rejected request has no effect.** Take any engine whose records are stored under their own
numbers, whatever it holds and whichever of its parts are made to fail, and call any operation. If
the request is rejected, then the checks refused it on the engine as it was, the operation stopped
in the session that it began with, so that there was nothing to take back, and the engine afterwards
is the engine before. -/
theorem rejected_request_has_no_effect {e e' : Engine} {op : Operation} {err : DisputeError}
    (hkeyed : e.store.Keyed) (hfailed : e.perform op = (.error err, e'))
    (hrejected : err.isPrecondition = true) :
    op.Refused e err ∧ e.stop op = some { engine := e, journal := [], events := [] } ∧ e' = e := by
  obtain ⟨s, hstop, ⟨-, hblocked⟩, hrollback⟩ := Engine.perform_error hkeyed hfailed
  have hrefused : op.Refused e err := Operation.Blocked.refused hrejected hblocked
  have hbegan : e.stop op = some { engine := e } := by
    rw [Engine.stop, hrefused.transaction]
  -- the session it stopped in has an empty journal, and working that off changes nothing
  rw [hstop, Option.some.injEq] at hbegan
  refine ⟨hrefused, hbegan ▸ hstop, ?_⟩
  rw [← hrollback, hbegan]
  rfl

namespace Sample

/-- An engine that no run leads to: both have staked, yet nothing is in escrow, ninety transfers are
counted, and every part is made to fail. -/
def wrecked : Engine :=
  let e := engine.run staking
  let poor := { e.ledger.setBalance e.accounts.escrow .zero with transfers := 90 }
  { e with ledger := poor }.setSwitches
    { refusedCredit := some e.accounts.escrow, registry := ⟨true, true, true⟩,
      refuseUpdates := true, refuseWrites := true }

/-- Bob offers nine for a round that costs ten. -/
def lowOffer : Operation := .counter bob .first ⟨filing.evidence, ⟨9⟩⟩

end Sample

/-- The offer is looked at after everything else has been checked, and the engine is as it was, its
count of transfers included. -/
theorem low_offer_has_no_effect :
    Sample.wrecked.store.Keyed ∧
      Sample.wrecked.perform Sample.lowOffer =
        (.error (.insufficientFee ⟨10⟩ ⟨9⟩), Sample.wrecked) ∧
      (DisputeError.insufficientFee ⟨10⟩ ⟨9⟩).isPrecondition = true ∧
      Sample.wrecked.stop Sample.lowOffer = some { engine := Sample.wrecked } := by
  have hclean : CleanRun Sample.engine Sample.staking := ⟨Sample.engine_fresh, by decide +kernel⟩
  have hkeyed : Sample.wrecked.store.Keyed := hclean.sound.keyed
  have hfailed : (Sample.wrecked.perform Sample.lowOffer).1 =
      .error (.insufficientFee ⟨10⟩ ⟨9⟩) := by rfl
  obtain ⟨-, hstop, hsame⟩ :=
    rejected_request_has_no_effect hkeyed (Prod.ext hfailed rfl) rfl
  exact ⟨hkeyed, Prod.ext hfailed hsame, rfl, hstop⟩

end Arbitration
