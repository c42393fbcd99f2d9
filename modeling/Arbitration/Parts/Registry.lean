import Arbitration.Dispute.Basic
import Arbitration.Table

/-!
# The asset registry

The registry holds the disputed asset of every open dispute, releases it on terms, and applies
the fallback license, which it does at most once for a dispute. It keeps a list of the calls
that it carried out. For tests each kind of call can be made to fail.
-/

namespace Arbitration

/-- The calls that a registry takes. -/
inductive RegistryOperation where
  | freeze
  | unfreeze
  | applyFallback
  deriving DecidableEq, Repr

/-- The name of a call in messages. -/
def RegistryOperation.name : RegistryOperation → String
  | freeze => "freeze"
  | unfreeze => "unfreeze"
  | applyFallback => "fallback"

/-- Why a call is not carried out. -/
inductive RegistryError where
  | alreadyFrozen (dispute : DisputeId)
  | notFrozen (dispute : DisputeId)
  | fallbackAlreadyApplied (dispute : DisputeId)
  | refused (operation : RegistryOperation)
  deriving DecidableEq, Repr

/-- The message of a refusal. -/
def RegistryError.message : RegistryError → String
  | alreadyFrozen dispute => "asset for " ++ dispute.text ++ " is already frozen"
  | notFrozen dispute => "asset for " ++ dispute.text ++ " is not frozen"
  | fallbackAlreadyApplied dispute => "fallback license for " ++ dispute.text ++ " already applied"
  | refused operation => "registry unavailable: " ++ operation.name ++ " refused"

/-- A call that was carried out. -/
inductive RegistryCall where
  | freeze (dispute : DisputeId)
  | unfreeze (dispute : DisputeId) (kind : String)
  | applyFallback (dispute : DisputeId)
  deriving DecidableEq, Repr

/-- The dispute that a call is about. -/
def RegistryCall.dispute : RegistryCall → DisputeId
  | freeze dispute => dispute
  | unfreeze dispute _ => dispute
  | applyFallback dispute => dispute

/-- The calls that fail. -/
structure RegistryFaults where
  freeze : Bool := false
  unfreeze : Bool := false
  applyFallback : Bool := false
  deriving DecidableEq, Repr

/-- The assets in dispute. -/
structure Registry where
  /-- The frozen assets and who held them. -/
  frozen : Table DisputeId AccountId := .empty
  /-- The terms on which assets were released last. -/
  released : Table DisputeId Release := .empty
  /-- The fallback licenses that were applied. -/
  licenses : Table DisputeId String := .empty
  /-- The calls so far, oldest first. -/
  calls : List RegistryCall := []
  faults : RegistryFaults := {}
  deriving DecidableEq, Repr

namespace Registry

/-- Whether the asset of a dispute is frozen. -/
def isFrozen (r : Registry) (dispute : DisputeId) : Bool := r.frozen.contains dispute

/-- The terms on which the asset of a dispute was released. -/
def releaseOf (r : Registry) (dispute : DisputeId) : Option Release := r.released.get? dispute

/-- The fallback license that was applied for a dispute. -/
def licenseOf (r : Registry) (dispute : DisputeId) : Option String := r.licenses.get? dispute

/-- The calls about one dispute. -/
def callsOf (r : Registry) (dispute : DisputeId) : List RegistryCall :=
  r.calls.filter (·.dispute = dispute)

/-- Freezes the asset of a dispute. -/
def freeze (r : Registry) (dispute : DisputeId) (holder : AccountId) :
    Except RegistryError Registry :=
  if r.faults.freeze then .error (.refused .freeze)
  else if r.isFrozen dispute then .error (.alreadyFrozen dispute)
  else .ok { r with
    frozen := r.frozen.insert dispute holder
    released := r.released.erase dispute
    calls := r.calls ++ [.freeze dispute] }

/-- Releases the asset of a dispute. -/
def unfreeze (r : Registry) (dispute : DisputeId) (release : Release) :
    Except RegistryError Registry :=
  if r.faults.unfreeze then .error (.refused .unfreeze)
  else if !r.isFrozen dispute then .error (.notFrozen dispute)
  else .ok { r with
    frozen := r.frozen.erase dispute
    released := r.released.insert dispute release
    calls := r.calls ++ [.unfreeze dispute release.kind] }

/-- Applies the fallback license of a dispute. -/
def applyFallback (r : Registry) (dispute : DisputeId) (termsRef : String) :
    Except RegistryError Registry :=
  if r.faults.applyFallback then .error (.refused .applyFallback)
  else if r.licenses.contains dispute then .error (.fallbackAlreadyApplied dispute)
  else .ok { r with
    licenses := r.licenses.insert dispute termsRef
    calls := r.calls ++ [.applyFallback dispute] }

end Registry

end Arbitration
