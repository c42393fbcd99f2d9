import Arbitration.Dispute.Basic
import Arbitration.Table

/-!
# The store

The store keeps the record of every dispute under its number, when each pair of parties last met
in a dispute, and the last number that the oracle used. Records are replaced but never removed,
and a new one has to carry the next number. For tests writing can be made to fail.
-/

namespace Arbitration

/-- Why a record is not written. -/
inductive StoreError where
  | unexpectedId (expected got : DisputeId)
  | exhausted (e : ArithmeticError)
  | writesRefused
  deriving DecidableEq, Repr

/-- The message of a refusal. -/
def StoreError.message : StoreError → String
  | unexpectedId expected got => "expected new record " ++ expected.text ++ ", got " ++ got.text
  | exhausted e => e.message
  | writesRefused => "store unavailable: writes refused"

/-- When an initiator last filed against a counterparty. -/
structure Encounter where
  initiator : AccountId
  counterparty : AccountId
  time : Timestamp
  deriving DecidableEq

/-- What is written at once. -/
structure StoreWrite where
  record : Dispute
  encounter : Option Encounter := none
  nonce : Option UInt64 := none
  deriving DecidableEq

/-- The records of all disputes. -/
structure Store where
  records : Table DisputeId Dispute := .empty
  nextId : DisputeId := .first
  encounters : Table (AccountId × AccountId) Timestamp := .empty
  nonce : Option UInt64 := none
  refuseWrites : Bool := false
  deriving DecidableEq

namespace Store

/-- The record of a dispute. -/
def get? (s : Store) (id : DisputeId) : Option Dispute := s.records.get? id

/-- The records in the order of their numbers. -/
def toList (s : Store) : List Dispute := s.records.toList.map (·.2)

/-- The number of records. -/
def count (s : Store) : Nat := s.nextId.toNat - DisputeId.first.toNat

/-- When an initiator last filed against a counterparty. -/
def lastBetween (s : Store) (initiator counterparty : AccountId) : Option Timestamp :=
  s.encounters.get? (initiator, counterparty)

/-- The store with a record put in place, the next number being `nextId` from then on. -/
def put (s : Store) (w : StoreWrite) (nextId : DisputeId) : Store :=
  { s with
    records := s.records.insert w.record.id w.record
    nextId
    encounters :=
      match w.encounter with
      | some e => s.encounters.insert (e.initiator, e.counterparty) e.time
      | none => s.encounters
    nonce := w.nonce.or s.nonce }

/-- Replaces a record, or adds the one with the next number. -/
def write (s : Store) (w : StoreWrite) : Except StoreError Store :=
  if s.refuseWrites then .error .writesRefused
  else if s.records.contains w.record.id then .ok (s.put w s.nextId)
  else if w.record.id = s.nextId then
    match w.record.id.next with
    | .ok next => .ok (s.put w next)
    | .error e => .error (.exhausted e)
  else .error (.unexpectedId s.nextId w.record.id)

end Store

end Arbitration
