import PackageVerification.Answer
import PackageVerification.Verdict
import PackageVerification.VerifierSet

/-!
# The three axes

A decision has three axes, one for each role. Each keeps who was asked and two flags: whether the
axis is complete, and whether it passed. An axis on which nobody was asked does not hold a decision
up and does not forbid an install.
-/

namespace PackageVerification

/-! ## 1. Required verifiers -/

structure RequiredAxis where
  members : VerifierSet
  unanswered : VerifierSet
  complete : Bool
  passed : Bool
  deriving DecidableEq, Repr

namespace RequiredAxis

def empty : RequiredAxis := ⟨.empty, .empty, false, true⟩

/-- Asks a verifier. One that has answered is asked again. -/
def register (a : RequiredAxis) (id : VerifierId) : RequiredAxis :=
  { a with members := a.members.insert id, unanswered := a.unanswered.insert id }

/-- Counts the answer of a verifier that has not answered yet. -/
def record (a : RequiredAxis) (id : VerifierId) (answer : Answer) : RequiredAxis :=
  let unanswered := a.unanswered.erase id
  { a with
    unanswered
    passed := a.passed && answer.isAffirmative
    complete := a.complete || unanswered.isEmpty }

def force (a : RequiredAxis) : RequiredAxis := { a with passed := true, complete := true }

def isSettled (a : RequiredAxis) : Bool := a.members.isEmpty || a.complete

def permits (a : RequiredAxis) : Bool := a.members.isEmpty || (a.complete && a.passed)

def status (a : RequiredAxis) : AxisStatus :=
  if a.members.isEmpty then .absent
  else if a.complete then .judged a.passed
  else .pending

end RequiredAxis

/-! ## 2. The sufficient pool -/

/-- One approval among the pool is enough. A verifier leaves the pool when it answers. -/
structure SufficientPool where
  pool : VerifierSet
  /-- Somebody has been in the pool. -/
  registered : Bool
  complete : Bool
  passed : Bool
  deriving DecidableEq, Repr

namespace SufficientPool

def empty : SufficientPool := ⟨.empty, false, false, false⟩

def register (p : SufficientPool) (id : VerifierId) : SufficientPool :=
  { p with pool := p.pool.insert id, registered := true }

/-- Counts the answer of a member: only a plain approval passes, and the last answer completes. -/
def record (p : SufficientPool) (id : VerifierId) (answer : Answer) : SufficientPool :=
  let pool := p.pool.erase id
  { p with
    pool
    passed := p.passed || answer = .allow
    complete := p.complete || answer = .allow || pool.isEmpty }

def waive (p : SufficientPool) : SufficientPool := { p with pool := .empty }

def isSettled (p : SufficientPool) : Bool := p.pool.isEmpty || p.complete

/-- The pool does not forbid the install: it has not decided, or it has approved. -/
def permits (p : SufficientPool) : Bool := !p.complete || p.passed

/-- A pool that was waived before it decided has passed. -/
def status (p : SufficientPool) : AxisStatus :=
  if !p.registered then .absent
  else if p.complete then .judged p.passed
  else if p.pool.isEmpty then .passed
  else .pending

end SufficientPool

/-! ## 3. The optional verifier -/

structure OptionalSeat where
  verifier : Option VerifierId
  complete : Bool
  passed : Bool
  deriving DecidableEq, Repr

namespace OptionalSeat

def empty : OptionalSeat := ⟨none, false, false⟩

def register (s : OptionalSeat) (id : VerifierId) : OptionalSeat := { s with verifier := some id }

/-- Counts an answer: nothing but a plain approval passes. -/
def record (s : OptionalSeat) (answer : Answer) : OptionalSeat :=
  { s with complete := true, passed := answer = .allow }

def isSettled (s : OptionalSeat) : Bool := s.verifier.isNone || s.complete

def permits (s : OptionalSeat) : Bool := s.verifier.isNone || s.passed

def status (s : OptionalSeat) : AxisStatus :=
  if s.verifier.isNone then .absent
  else if s.complete then .judged s.passed
  else .pending

end OptionalSeat

end PackageVerification
