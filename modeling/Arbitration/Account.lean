import Arbitration.Amount
import Arbitration.Text.Quoted

/-!
# Accounts and dispute numbers

An `AccountId` names an owner of funds. Names that start with `system:` belong to the protocol
itself: nobody can open such an account under a name of their own choice, though records and
requests may refer to one. A `DisputeId` is a dispute's number; numbers are given out in
ascending order from one.
-/

namespace Arbitration

/-- The name of an account. -/
structure AccountId where
  name : String
  deriving DecidableEq, Repr

/-- Why a text is no name for an account. -/
inductive AccountError where
  | empty
  | tooLong
  | blank (name : String)
  | reserved (name : String)
  deriving DecidableEq, Repr

/-- The greatest length of a name, in bytes. -/
def AccountId.maxBytes : Nat := 128

/-- The message of a refusal. -/
def AccountError.message : AccountError → String
  | empty => "invalid identifier: account id must not be empty"
  | tooLong =>
    "invalid identifier: account id exceeds " ++ toString AccountId.maxBytes ++ " bytes"
  | blank name => "invalid identifier: account id " ++ Text.quoted name ++ " contains whitespace"
  | reserved name =>
    "invalid identifier: account id " ++ Text.quoted name ++ " uses the reserved system namespace"

namespace AccountId

instance : Inhabited AccountId := ⟨⟨""⟩⟩

/-- The mark of the protocol's own accounts. -/
def systemMark : List Char := ['s', 'y', 's', 't', 'e', 'm', ':']

/-- Whether a name carries the mark of the protocol's own accounts. -/
def hasSystemMark (name : String) : Bool := systemMark.isPrefixOf name.toList

/-- An account of the protocol. -/
def system (name : String) : AccountId := ⟨"system:" ++ name⟩

/-- Whether the account is one of the protocol's own. -/
def isSystem (a : AccountId) : Bool := hasSystemMark a.name

/-- An account under a name of its owner's choice. -/
def new (name : String) : Except AccountError AccountId :=
  if name.isEmpty then .error .empty
  else if maxBytes < name.utf8ByteSize then .error .tooLong
  else if name.toList.any Text.isBlank then .error (.blank name)
  else if hasSystemMark name then .error (.reserved name)
  else .ok ⟨name⟩

/-- An account that a record or a request refers to. After the protocol's mark any text will do. -/
def ofName (name : String) : Except AccountError AccountId :=
  if hasSystemMark name && systemMark.length < name.utf8ByteSize then .ok ⟨name⟩ else new name

/-- An account that can be opened is not one of the protocol's own. -/
theorem isSystem_of_new {name : String} {a : AccountId} (h : new name = .ok a) :
    a.isSystem = false := by
  unfold new at h
  repeat' split at h
  all_goals cases h
  simp_all [isSystem]

/-- Every account that can be opened can be referred to. -/
theorem ofName_of_new {name : String} {a : AccountId} (h : new name = .ok a) :
    ofName name = .ok a := by
  have hs := isSystem_of_new h
  have hname : a.name = name := by
    unfold new at h
    repeat' split at h
    all_goals cases h
    rfl
  rw [isSystem, hname] at hs
  simp [ofName, hs, h]

end AccountId

/-- The number of a dispute. -/
structure DisputeId where
  number : UInt64
  deriving DecidableEq, Repr

namespace DisputeId

instance : Inhabited DisputeId := ⟨⟨0⟩⟩

/-- The first number to be given out. -/
def first : DisputeId := ⟨1⟩

/-- The number, without a bound. -/
def toNat (d : DisputeId) : Nat := d.number.toNat

theorem toNat_inj {a b : DisputeId} : a.toNat = b.toNat ↔ a = b := by
  refine ⟨fun h => ?_, fun h => h ▸ rfl⟩
  cases a; cases b
  exact congrArg _ (UInt64.toNat_inj.1 h)

/-- The number after this one. -/
def next (d : DisputeId) : Except ArithmeticError DisputeId :=
  if h : d.toNat + 1 < UInt64.size then .ok ⟨UInt64.ofNatLT (d.toNat + 1) h⟩ else .error .disputeId

theorem next_eq_ok_iff {d e : DisputeId} : d.next = .ok e ↔ e.toNat = d.toNat + 1 := by
  unfold next
  split
  · rename_i h
    simp only [Except.ok.injEq]
    constructor
    · rintro rfl; exact UInt64.toNat_ofNatLT
    · intro he; exact toNat_inj.1 (UInt64.toNat_ofNatLT.trans he.symm)
  · rename_i h
    simp only [reduceCtorEq, false_iff]
    intro he; exact h (he ▸ e.number.toNat_lt)

/-- Only after the last number there is no other. -/
theorem next_eq_error {d : DisputeId} {err : ArithmeticError} (h : d.next = .error err) :
    err = .disputeId ∧ d.toNat + 1 = UInt64.size := by
  unfold next at h
  split at h
  · cases h
  · rename_i hlast
    cases h
    exact ⟨rfl, Nat.le_antisymm d.number.toNat_lt (Nat.not_lt.1 hlast)⟩

/-- How messages name a dispute. -/
def text (d : DisputeId) : String := "dispute:" ++ toString d.toNat

instance : ToString DisputeId := ⟨text⟩

end DisputeId

end Arbitration
