import Arbitration.Proofs.Turns

/-!
# What is held for open disputes

Custody as it is told to the parties. At any time between two calls escrow holds **exactly** what
was staked in the disputes that are not resolved, and nothing else. The two accounts beside it are
exact as well: the defense fund holds the subsidies that have not become part of a stake yet, and
the incentive earmark what was set aside for the disputes that are not resolved.
-/

namespace Arbitration

/-- **Escrow custody.** In every state of every clean run, whatever the configuration, escrow holds
the stakes of all unresolved disputes. -/
theorem escrow_balance_of_cleanRun {start : Engine} {turns : List Turn}
    (h : CleanRun start turns) :
    ((start.run turns).ledger.balance (start.run turns).accounts.escrow).toNat =
      sumOf (fun d => d.initiatorStake.toNat + d.counterpartyStake.toNat)
        ((start.run turns).store.toList.filter fun d => !d.resolved) := by
  have hcustody := h.sound.custody .escrow
  rw [sumOf_filter]
  refine hcustody.trans ?_
  show sumOf _ _ = sumOf _ _
  congr 1
  funext d
  cases hd : d.resolved <;> simp [Pot.share, hd]

/-- Once Alice and Bob have staked a hundred each, escrow holds two hundred. -/
theorem escrow_balance_after_staking :
    CleanRun Sample.engine Sample.staking ∧
      ((Sample.engine.run Sample.staking).ledger.balance
        (Sample.engine.run Sample.staking).accounts.escrow).toNat = 200 := by
  have hclean : CleanRun Sample.engine Sample.staking :=
    ⟨Sample.engine_fresh, by decide +kernel⟩
  refine ⟨hclean, (escrow_balance_of_cleanRun hclean).trans ?_⟩
  decide +kernel

/-! ### The accounts beside escrow -/

/-- A pot holds an amount for each of the records that count for it. -/
theorem Engine.Sound.balance_eq_sumOf {e : Engine} (h : e.Sound) (p : Pot)
    (amount : Dispute → Nat) (counts : Dispute → Bool)
    (hshare : ∀ d, p.share d = if counts d then amount d else 0) :
    (e.ledger.balance (p.account e.accounts)).toNat =
      sumOf amount (e.store.toList.filter counts) := by
  have hcustody := h.custody p
  have hshares : (fun d => p.share d) = fun d => if counts d then amount d else 0 := funext hshare
  rw [Store.total, hshares] at hcustody
  rw [hcustody, sumOf_filter]

/-- **Custody beside escrow.** In every state of every clean run the defense fund holds the
subsidies of the disputes that are neither resolved nor fully staked, and the incentive earmark
holds what was set aside for all unresolved disputes: nothing, where all disputes share the
reserve. -/
theorem side_pot_balances_of_cleanRun {start : Engine} {turns : List Turn}
    (h : CleanRun start turns) :
    ((start.run turns).ledger.balance (start.run turns).accounts.defenseFund).toNat =
        sumOf (fun d => d.subsidy.toNat)
          ((start.run turns).store.toList.filter fun d => !d.resolved && !d.fullyStaked) ∧
      ((start.run turns).ledger.balance (start.run turns).accounts.incentiveEarmark).toNat =
        sumOf (fun d => d.earmarkedIncentive.toNat)
          ((start.run turns).store.toList.filter fun d => !d.resolved) ∧
      (start.config.reservePolicy = .sharedFirstCome →
        (start.run turns).ledger.balance (start.run turns).accounts.incentiveEarmark = .zero) := by
  have hsound := h.sound
  have hfund := hsound.balance_eq_sumOf .defenseFund (fun d => d.subsidy.toNat)
    (fun d => !d.resolved && !d.fullyStaked) fun d => by
      cases hd : d.resolved <;> cases hs : d.fullyStaked <;> simp [Pot.share, hd, hs]
  have hearmark := hsound.balance_eq_sumOf .incentiveEarmark
    (fun d => d.earmarkedIncentive.toNat) (fun d => !d.resolved) fun d => by
      cases hd : d.resolved <;> simp [Pot.share, hd]
  refine ⟨hfund, hearmark, fun hshared => ?_⟩
  rw [← h.fresh.sound.config_run h.clean] at hshared
  -- no listed record has anything set aside, so the sum is one of zeros
  have hnothing : ∀ d ∈ (start.run turns).store.toList.filter fun d => !d.resolved,
      d.earmarkedIncentive.toNat = 0 := by
    intro d hd
    have hget := Store.get?_of_mem hsound.keyed hsound.distinct (List.mem_filter.1 hd).1
    rw [(hsound.records _ d hget).earmarked hshared, Amount.toNat_zero]
  rw [← Amount.toNat_inj, Amount.toNat_zero]
  exact hearmark.trans (sumOf_eq_zero hnothing)

namespace Sample

/-- The sample engine, if it sets incentives aside at filing. -/
def earmarking : Engine := engineUnder { Config.default with reservePolicy := .earmarked }

/-- A dispute in which Bob asks for a subsidy. -/
def subsidised : List Turn := [.call (.initiate alice filing), .call (.grantSubsidy bob .first)]

end Sample

/-- Once Bob was granted five for his defense, the fund holds them, beside the ten that were set
aside for Alice in case he stays silent. -/
theorem side_pot_balances_after_grant :
    CleanRun Sample.earmarking Sample.subsidised ∧
      ((Sample.earmarking.run Sample.subsidised).ledger.balance
        (Sample.earmarking.run Sample.subsidised).accounts.defenseFund).toNat = 5 ∧
      ((Sample.earmarking.run Sample.subsidised).ledger.balance
        (Sample.earmarking.run Sample.subsidised).accounts.incentiveEarmark).toNat = 10 := by
  have hclean : CleanRun Sample.earmarking Sample.subsidised :=
    ⟨Sample.engineUnder_fresh rfl, by decide +kernel⟩
  obtain ⟨hfund, hearmark, -⟩ := side_pot_balances_of_cleanRun hclean
  refine ⟨hclean, hfund.trans ?_, hearmark.trans ?_⟩
  · decide +kernel
  · decide +kernel

end Arbitration
