import PackageVerification.Notice
import PackageVerification.Totals
import PackageVerification.Tracker.Basic

/-!
# What operations leave behind

Besides changing a session an operation reports events, counts totals and leaves log records. Why an
operation fails is a `Fault`; a failed operation changes nothing but may leave a record.
-/

namespace PackageVerification

/-! ## 1. Totals of a service -/

inductive Total
  | sessionsStarted
  | sessionsCompleted
  | sessionsTimedOut
  | responsesAccepted
  | responsesDuplicate
  | responsesUnrecognized
  | responsesLate
  | timeoutsExtended
  deriving DecidableEq, Repr

namespace Total

def all : List Total :=
  [.sessionsStarted, .sessionsCompleted, .sessionsTimedOut, .responsesAccepted,
   .responsesDuplicate, .responsesUnrecognized, .responsesLate, .timeoutsExtended]

def name : Total → String
  | .sessionsStarted => "sessions_started"
  | .sessionsCompleted => "sessions_completed"
  | .sessionsTimedOut => "sessions_timed_out"
  | .responsesAccepted => "responses_accepted"
  | .responsesDuplicate => "responses_duplicate"
  | .responsesUnrecognized => "responses_unrecognized"
  | .responsesLate => "responses_late"
  | .timeoutsExtended => "timeouts_extended"

end Total

/-! ## 2. Traces -/

/-- What an operation leaves behind, each in the order in which it came about. -/
structure Trace where
  events : List Event
  counted : List Total
  notices : List Notice
  deriving DecidableEq, Repr

namespace Trace

def empty : Trace := ⟨[], [], []⟩

def append (a b : Trace) : Trace :=
  ⟨a.events ++ b.events, a.counted ++ b.counted, a.notices ++ b.notices⟩

instance : Append Trace := ⟨append⟩

def ofNotice (n : Notice) : Trace := ⟨[], [], [n]⟩

@[simp] theorem events_append (a b : Trace) : (a ++ b).events = a.events ++ b.events := rfl

@[simp] theorem counted_append (a b : Trace) : (a ++ b).counted = a.counted ++ b.counted := rfl

@[simp] theorem notices_append (a b : Trace) : (a ++ b).notices = a.notices ++ b.notices := rfl

end Trace

/-! ## 3. Faults -/

inductive Fault
  | unknownSession (session : SessionId)
  | sessionExists (session : SessionId)
  /-- The verdict of the session is final. -/
  | sessionClosed (session : SessionId)
  | noVerifiers (session : SessionId)
  | extensionLimit (session : SessionId) (max : UInt64)
  | requiredOutstanding (outstanding : Outstanding)
  deriving DecidableEq, Repr

def Fault.message : Fault → String
  | .unknownSession s => "unknown session " ++ s.text
  | .sessionExists s => "session " ++ s.text ++ " already exists"
  | .sessionClosed s => "session " ++ s.text ++ " already has a final verdict"
  | .noVerifiers s => "session " ++ s.text ++ " has no verifiers"
  | .extensionLimit s max =>
    "extension for " ++ s.text ++ " exceeds maximum of " ++ Text.ofNat max.toNat ++ "ms"
  | .requiredOutstanding o => "verification error: " ++ o.message

end PackageVerification
