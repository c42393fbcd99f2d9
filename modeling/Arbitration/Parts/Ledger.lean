import Arbitration.Account
import Arbitration.Table

/-!
# The ledger

A ledger holds the balance of every account and moves value between two of them. A transfer
either happens in full or leaves the ledger as it was. For tests of failing transfers a ledger
can be told to refuse credits to one account.
-/

namespace Arbitration

/-- Why a transfer does not happen. -/
inductive LedgerError where
  | insufficientFunds (account : AccountId) (balance requested : Amount)
  | overflow (account : AccountId)
  | creditsRefused (account : AccountId)
  deriving DecidableEq, Repr

/-- The message of a refusal. -/
def LedgerError.message : LedgerError → String
  | insufficientFunds account balance requested =>
    account.name ++ " has " ++ balance.text ++ ", needs " ++ requested.text
  | overflow account => "balance overflow crediting " ++ account.name
  | creditsRefused account => "ledger unavailable: credits to " ++ account.name ++ " refused"

/-- The accounts that the protocol keeps value in. -/
structure SystemAccounts where
  /-- Holds the stakes of all open disputes. -/
  escrow : AccountId
  /-- Takes what is burned. -/
  burnSink : AccountId
  /-- Takes what is paid above a counter fee. -/
  feePool : AccountId
  /-- Holds incentives that are set aside for single disputes. -/
  incentiveEarmark : AccountId
  /-- Holds defense subsidies until the counterparty stakes. -/
  defenseFund : AccountId
  deriving DecidableEq, Repr

namespace SystemAccounts

/-- The accounts that the protocol uses if it is told no others. -/
def default : SystemAccounts where
  escrow := .system "escrow"
  burnSink := .system "burn"
  feePool := .system "fee-pool"
  incentiveEarmark := .system "incentive-earmark"
  defenseFund := .system "defense-fund"

instance : Inhabited SystemAccounts := ⟨default⟩

end SystemAccounts

/-- The balances of all accounts. -/
structure Ledger where
  balances : Table AccountId Amount := .empty
  /-- The account to which no credits are taken. -/
  refusedCredit : Option AccountId := none
  /-- The number of transfers so far. -/
  transfers : Nat := 0
  deriving DecidableEq, Repr

namespace Ledger

/-- What an account holds, nothing if it is unknown. -/
def balance (l : Ledger) (account : AccountId) : Amount := (l.balances.get? account).getD .zero

/-- The ledger with the balance of an account put to an amount. -/
def setBalance (l : Ledger) (account : AccountId) (amount : Amount) : Ledger :=
  { l with balances := l.balances.insert account amount }

/-- The ledger with some opening balances. -/
def ofBalances (balances : List (AccountId × Amount)) : Ledger := { balances := .ofList balances }

/-- All balances together. -/
def totalSupply (l : Ledger) : Nat :=
  l.balances.toList.foldr (fun entry rest => entry.2.toNat + rest) 0

/-- The accounts that hold something. -/
def holdings (l : Ledger) : List (AccountId × Amount) := l.balances.toList.filter (!·.2.isZero)

/-- Moves value from one account to another, which may be the same. -/
def transfer (l : Ledger) (source target : AccountId) (amount : Amount) :
    Except LedgerError Ledger :=
  if l.refusedCredit = some target then .error (.creditsRefused target)
  else
    match (l.balance source).sub amount with
    | .error _ => .error (.insufficientFunds source (l.balance source) amount)
    | .ok debited =>
      if source = target then .ok { l with transfers := l.transfers + 1 }
      else
        match (l.balance target).add amount with
        | .error _ => .error (.overflow target)
        | .ok credited =>
          .ok { (l.setBalance source debited).setBalance target credited with
            transfers := l.transfers + 1 }

end Ledger

end Arbitration
