import PackageVerification.Answer
import PackageVerification.Event

/-!
# Log records

Everything that is logged about a session, one constructor for each kind of record. A record has a
level, a message and fields in a fixed order; its line is built from these three.
-/

namespace PackageVerification

inductive Level
  | trace
  | debug
  | info
  | warn
  deriving DecidableEq, Repr

def Level.name : Level → String
  | .trace => "TRACE"
  | .debug => "DEBUG"
  | .info => "INFO"
  | .warn => "WARN"

/-- The line of a record: level, message, then the fields. -/
def logLine (level : Level) (message : String) (fields : List (String × String)) : String :=
  " ".intercalate (level.name :: message :: fields.map fun f => f.1 ++ "=" ++ f.2)

inductive Notice
  -- Records of a tracker.
  | sufficientWaived (session : SessionId) (verifier : VerifierId) (waived : Nat)
  | requiredAnswered (session : SessionId) (verifier : VerifierId) (answer : Answer)
      (outstanding : Nat) (passed : Bool)
  | optionalAnswered (session : SessionId) (verifier : VerifierId) (answer : Answer)
      (passed : Bool)
  | sufficientAnswered (session : SessionId) (verifier : VerifierId) (answer : Answer)
      (remaining : Nat) (complete : Bool)
  | strangerAnswered (session : SessionId) (verifier : VerifierId) (answer : Answer)
  | requiredForced (session : SessionId)
  -- Records of a service.
  | optionalReplaced (session : SessionId) (verifier : VerifierId)
  | started (session : SessionId) (verifiers : Nat) (timeout : UInt64)
  | accepted (session : SessionId) (verifier : VerifierId) (role : Role) (answer : Answer)
  | duplicateIgnored (session : SessionId) (verifier : VerifierId) (role : Role) (answer : Answer)
  | strangerIgnored (session : SessionId) (verifier : VerifierId) (answer : Answer)
  | lateIgnored (session : SessionId) (verifier : VerifierId) (answer : Answer)
  | extended (session : SessionId) (verifier : VerifierId) (extra : UInt64)
  | extensionIgnored (session : SessionId) (verifier : VerifierId)
  | strangerExtension (session : SessionId) (verifier : VerifierId)
  | integrityRecorded (session : SessionId) (answer : Answer)
  | overridden (session : SessionId) (verdict : Verdict)
  | overrideRefused (session : SessionId) (verdict : Verdict)
  | timedOut (session : SessionId) (silent : Nat) (default : Answer) (waited : UInt64)
  | completed (session : SessionId) (verdict : Verdict) (timedOut : Bool)
  | finished (session : SessionId) (verdict : Verdict)
  -- Records of a replay.
  | eventReported (event : Event)
  deriving DecidableEq, Repr

namespace Notice

def level : Notice → Level
  | .strangerAnswered .. => .trace
  | .sufficientWaived .. | .requiredAnswered .. | .optionalAnswered .. | .sufficientAnswered ..
  | .requiredForced .. | .accepted .. | .extensionIgnored .. | .integrityRecorded ..
  | .eventReported .. => .debug
  | .started .. | .extended .. | .overridden .. | .completed .. | .finished .. => .info
  | .optionalReplaced .. | .duplicateIgnored .. | .strangerIgnored .. | .lateIgnored ..
  | .strangerExtension .. | .overrideRefused .. | .timedOut .. => .warn

def message : Notice → String
  | .sufficientWaived .. => "sufficient verifiers waived"
  | .requiredAnswered .. => "required verifier answered"
  | .optionalAnswered .. => "optional verifier answered"
  | .sufficientAnswered .. => "sufficient verifier answered"
  | .strangerAnswered .. => "response from unknown verifier"
  | .requiredForced .. => "required verification forced to pass"
  | .optionalReplaced .. => "replacing registered optional verifier"
  | .started .. => "verification started"
  | .accepted .. => "response accepted"
  | .duplicateIgnored .. => "duplicate response ignored"
  | .strangerIgnored .. => "response from unknown verifier ignored"
  | .lateIgnored .. => "response after deadline ignored"
  | .extended .. => "verification timeout extended"
  | .extensionIgnored .. => "extension request ignored"
  | .strangerExtension .. => "extension request from unknown verifier ignored"
  | .integrityRecorded .. => "integrity verification complete"
  | .overridden .. => "required verification passed by override"
  | .overrideRefused .. => "override on closed session refused"
  | .timedOut .. => "verification timed out"
  | .completed .. => "verification complete"
  | .finished .. => "verification session finished"
  | .eventReported .. => "verification event"

def session : Notice → SessionId
  | .sufficientWaived s .. | .requiredAnswered s .. | .optionalAnswered s ..
  | .sufficientAnswered s .. | .strangerAnswered s .. | .requiredForced s
  | .optionalReplaced s .. | .started s .. | .accepted s .. | .duplicateIgnored s ..
  | .strangerIgnored s .. | .lateIgnored s .. | .extended s .. | .extensionIgnored s ..
  | .strangerExtension s .. | .integrityRecorded s .. | .overridden s .. | .overrideRefused s ..
  | .timedOut s .. | .completed s .. | .finished s .. => s
  | .eventReported e => e.session

def details : Notice → List (String × String)
  | .sufficientWaived _ v n => [("verifier", v.text), ("waived", Text.ofNat n)]
  | .requiredAnswered _ v a n p =>
    [("verifier", v.text), ("code", a.text), ("outstanding", Text.ofNat n), ("passed", toString p)]
  | .optionalAnswered _ v a p => [("verifier", v.text), ("code", a.text), ("passed", toString p)]
  | .sufficientAnswered _ v a n c =>
    [("verifier", v.text), ("code", a.text), ("remaining", Text.ofNat n), ("complete", toString c)]
  | .strangerAnswered _ v a | .strangerIgnored _ v a | .lateIgnored _ v a =>
    [("verifier", v.text), ("code", a.text)]
  | .requiredForced _ => []
  | .optionalReplaced _ v | .extensionIgnored _ v | .strangerExtension _ v =>
    [("verifier", v.text)]
  | .started _ n ms => [("verifiers", Text.ofNat n), ("timeout", durationText ms)]
  | .accepted _ v r a | .duplicateIgnored _ v r a =>
    [("verifier", v.text), ("role", r.name), ("code", a.text)]
  | .extended _ v ms => [("verifier", v.text), ("extra", durationText ms)]
  | .integrityRecorded _ a => [("code", a.text)]
  | .overridden _ v | .overrideRefused _ v | .finished _ v => [("verdict", v.title)]
  | .timedOut _ n a ms =>
    [("silent_required", Text.ofNat n), ("default", a.text), ("waited", durationText ms)]
  | .completed _ v t => [("verdict", v.title), ("timed_out", toString t)]
  | .eventReported e => [("event", e.description)]

def fields (n : Notice) : List (String × String) := ("session", n.session.text) :: n.details

def line (n : Notice) : String := logLine n.level n.message n.fields

end Notice

end PackageVerification
