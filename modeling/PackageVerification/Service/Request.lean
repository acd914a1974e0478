import PackageVerification.Service.Basic

/-!
# Requests to a service

The operations of a service as requests, each with its reply, so that a run of a service is a list
of requests. Main statement: `handleAll_append`, a run in two parts is the two runs in turn.
-/

namespace PackageVerification

inductive Request
  | start (session : SessionId) (roster : Roster) (now : Timestamp)
  | respond (session : SessionId) (verifier : VerifierId) (answer : Answer)
  | extend (session : SessionId) (verifier : VerifierId) (extra : UInt64) (now : Timestamp)
  | recordIntegrity (session : SessionId) (answer : Answer)
  | forceRequired (session : SessionId)
  | expire (now : Timestamp)
  | finish (session : SessionId)
  | drain
  deriving DecidableEq, Repr

inductive Reply
  | started (deadline : Timestamp)
  | answered (outcome : ResponseOutcome)
  | extended (granted : Bool)
  | recorded (allComplete : Bool)
  | forced (verdict : Verdict)
  | expired (sessions : List SessionId)
  | finished (summary : Summary)
  | drained (events : List Event)
  deriving DecidableEq, Repr

def Outcome.map {α β : Type} (f : α → β) (o : Outcome α) : Outcome β :=
  ⟨f o.result, o.service, o.notices⟩

namespace Service

def handle (s : Service) : Request → Outcome (Except Fault Reply)
  | .start id roster now => (s.start id roster now).map (Except.map .started)
  | .respond id verifier answer => (s.respond id verifier answer).map (Except.map .answered)
  | .extend id verifier extra now => (s.extend id verifier extra now).map (Except.map .extended)
  | .recordIntegrity id answer => (s.recordIntegrity id answer).map (Except.map .recorded)
  | .forceRequired id => (s.forceRequired id).map (Except.map .forced)
  | .expire now => (s.expire now).map fun ids => .ok (.expired ids)
  | .finish id => (s.finish id).map (Except.map .finished)
  | .drain => s.drain.map fun events => .ok (.drained events)

/-- Handles requests in turn: the replies, the service after them and the log records. -/
def handleAll (s : Service) : List Request → List (Except Fault Reply) × Service × List Notice
  | [] => ([], s, [])
  | r :: rs =>
    let o := s.handle r
    let (replies, after, notices) := o.service.handleAll rs
    (o.result :: replies, after, o.notices ++ notices)

theorem handleAll_append (s : Service) (rs qs : List Request) :
    s.handleAll (rs ++ qs) =
      let (replies, after, notices) := s.handleAll rs
      let (replies', after', notices') := after.handleAll qs
      (replies ++ replies', after', notices ++ notices') := by
  induction rs generalizing s with
  | nil => rfl
  | cons r rs ih => simp [handleAll, ih]

end Service

end PackageVerification
