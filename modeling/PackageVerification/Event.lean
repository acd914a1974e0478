import PackageVerification.Identity
import PackageVerification.Timestamp
import PackageVerification.Verdict

/-!
# Events

What a service reports to the installer about its sessions.
-/

namespace PackageVerification

inductive RejectReason
  | duplicate
  | unrecognized
  /-- The session had timed out. -/
  | timedOut
  deriving DecidableEq, Repr

namespace RejectReason

def name : RejectReason → String
  | .duplicate => "duplicate"
  | .unrecognized => "unrecognized"
  | .timedOut => "timed_out"

def title : RejectReason → String
  | .duplicate => "Duplicate"
  | .unrecognized => "Unrecognized"
  | .timedOut => "TimedOut"

end RejectReason

inductive Event
  | sessionStarted (session : SessionId) (deadline : Timestamp)
  | responseRejected (session : SessionId) (verifier : VerifierId) (reason : RejectReason)
  | timeoutExtended (session : SessionId) (newDeadline : Timestamp)
  | sessionTimedOut (session : SessionId)
  /-- Reported once for a session, when its verdict becomes final. -/
  | sessionCompleted (session : SessionId) (verdict : Verdict)
  deriving DecidableEq, Repr

namespace Event

def session : Event → SessionId
  | .sessionStarted s _ | .responseRejected s _ _ | .timeoutExtended s _ | .sessionTimedOut s
  | .sessionCompleted s _ => s

def wrapped (kind : String) (n : Nat) : String := kind ++ "(" ++ Text.ofNat n ++ ")"

/-- An event as log records spell it: its kind, then its fields by name between braces. -/
def spelled (kind : String) (fields : List (String × String)) : String :=
  kind ++ " \x7b " ++ ", ".intercalate (fields.map fun f => f.1 ++ ": " ++ f.2) ++ " \x7d"

def description : Event → String
  | .sessionStarted s d =>
    spelled "SessionStarted"
      [("session", wrapped "SessionId" s.number.toNat),
       ("deadline", wrapped "Timestamp" d.millis.toNat)]
  | .responseRejected s v r =>
    spelled "ResponseRejected"
      [("session", wrapped "SessionId" s.number.toNat),
       ("verifier", wrapped "VerifierId" v.uid.toNat), ("reason", r.title)]
  | .timeoutExtended s d =>
    spelled "TimeoutExtended"
      [("session", wrapped "SessionId" s.number.toNat),
       ("new_deadline", wrapped "Timestamp" d.millis.toNat)]
  | .sessionTimedOut s =>
    spelled "SessionTimedOut" [("session", wrapped "SessionId" s.number.toNat)]
  | .sessionCompleted s v =>
    spelled "SessionCompleted"
      [("session", wrapped "SessionId" s.number.toNat), ("verdict", v.title)]

end Event

end PackageVerification
