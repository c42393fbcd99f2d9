import Arbitration.Account
import Arbitration.Table

/-!
# The treasury

The treasury says which account holds the incentive reserve and counts how often an account
filed again too soon. For tests it can be made to refuse new counts; taking one back always
succeeds.
-/

namespace Arbitration

/-- Why a count is not taken. -/
inductive TreasuryError where
  | updateRefused
  deriving DecidableEq, Repr

/-- The message of a refusal. -/
def TreasuryError.message : TreasuryError → String
  | updateRefused => "treasury unavailable: score update refused"

/-- The reserve and the scores. -/
structure Treasury where
  /-- The account that holds the incentive reserve. -/
  reserve : AccountId := .system "incentive-reserve"
  /-- The scores that are not zero. -/
  scores : Table AccountId UInt32 := .empty
  refuseUpdates : Bool := false
  deriving DecidableEq, Repr

namespace Treasury

/-- How often an account filed again too soon. -/
def score (t : Treasury) (account : AccountId) : UInt32 := (t.scores.get? account).getD 0

/-- Counts one more such filing, up to the greatest count. -/
def recordHarassment (t : Treasury) (account : AccountId) : Except TreasuryError Treasury :=
  if t.refuseUpdates then .error .updateRefused
  else
    let count := t.score account
    .ok { t with
      scores := t.scores.insert account (if count = 4294967295 then count else count + 1) }

/-- Takes one count back. -/
def revertHarassment (t : Treasury) (account : AccountId) : Treasury :=
  let count := t.score account
  if count ≤ 1 then { t with scores := t.scores.erase account }
  else { t with scores := t.scores.insert account (count - 1) }

end Treasury

end Arbitration
