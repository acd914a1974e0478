import PackageVerification.Role

/-!
# Verdicts

What is said about a session: how a single answer was handled, how each axis stands, and the
decision as a whole.
-/

namespace PackageVerification

/-! ## 1. The decision -/

inductive Verdict
  | pending
  | allowed
  | rejected
  deriving DecidableEq, Repr

namespace Verdict

def isFinal : Verdict → Bool
  | .pending => false
  | .allowed | .rejected => true

def name : Verdict → String
  | .pending => "pending"
  | .allowed => "allowed"
  | .rejected => "rejected"

def ofName? : String → Option Verdict
  | "pending" => some .pending
  | "allowed" => some .allowed
  | "rejected" => some .rejected
  | _ => none

@[simp] theorem ofName?_name (v : Verdict) : ofName? v.name = some v := by
  cases v <;> rfl

def title : Verdict → String
  | .pending => "Pending"
  | .allowed => "Allowed"
  | .rejected => "Rejected"

end Verdict

/-! ## 2. The axes -/

inductive AxisStatus
  /-- No verifier was registered on the axis. -/
  | absent
  | pending
  | passed
  | failed
  /-- Done without being judged; only the integrity check ends like this. -/
  | complete
  deriving DecidableEq, Repr

namespace AxisStatus

def name : AxisStatus → String
  | .absent => "absent"
  | .pending => "pending"
  | .passed => "passed"
  | .failed => "failed"
  | .complete => "complete"

def ofName? : String → Option AxisStatus
  | "absent" => some .absent
  | "pending" => some .pending
  | "passed" => some .passed
  | "failed" => some .failed
  | "complete" => some .complete
  | _ => none

@[simp] theorem ofName?_name (s : AxisStatus) : ofName? s.name = some s := by
  cases s <;> rfl

def judged (passed : Bool) : AxisStatus := if passed then .passed else .failed

end AxisStatus

structure AxisReport where
  required : AxisStatus
  sufficient : AxisStatus
  optional : AxisStatus
  integrity : AxisStatus
  deriving DecidableEq, Repr

/-! ## 3. Single answers -/

inductive Disposition
  /-- Counted in this role. -/
  | accepted (role : Role)
  /-- The verifier had answered in this role before. -/
  | duplicate (role : Role)
  /-- Nobody asked this verifier. -/
  | unrecognized
  deriving DecidableEq, Repr

namespace Disposition

def isAccepted : Disposition → Bool
  | .accepted _ => true
  | .duplicate _ | .unrecognized => false

def text : Disposition → String
  | .accepted role => "accepted:" ++ role.name
  | .duplicate role => "duplicate:" ++ role.name
  | .unrecognized => "unrecognized"

end Disposition

/-! ## 4. While the pool is open -/

/-- Whether an install may proceed before the sufficient pool has decided. -/
inductive PendingPolicy
  | failClosed
  | permissive
  deriving DecidableEq, Repr

namespace PendingPolicy

def name : PendingPolicy → String
  | .failClosed => "fail_closed"
  | .permissive => "permissive"

def ofName? : String → Option PendingPolicy
  | "fail_closed" => some .failClosed
  | "permissive" => some .permissive
  | _ => none

@[simp] theorem ofName?_name (p : PendingPolicy) : ofName? p.name = some p := by
  cases p <;> rfl

end PendingPolicy

end PackageVerification
