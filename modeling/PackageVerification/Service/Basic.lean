import PackageVerification.Configuration
import PackageVerification.Service.SessionTable

/-!
# The verification service

A service follows many sessions under one configuration. Every operation is told the time that it
needs; the service has no clock. Events wait in the service until they are drained.
-/

namespace PackageVerification

structure Service where
  configuration : Configuration
  sessions : SessionTable
  /-- The events that have not been drained, earliest first. -/
  events : List Event
  totals : Totals
  deriving DecidableEq, Repr

/-- What an operation on a service comes to. Its log records stand even when it fails. -/
structure Outcome (α : Type) where
  result : α
  service : Service
  notices : List Notice

/-- The verifiers of a session as they are listed. A verifier may be listed more than once. -/
abbrev Roster := List (VerifierId × Role)

namespace Service

def new (configuration : Configuration) : Service where
  configuration
  sessions := .empty
  events := []
  totals := .ofNames (Total.all.map Total.name)

def record (s : Service) (t : Trace) : Service :=
  { s with
    events := s.events ++ t.events
    totals := t.counted.foldl (fun totals total => totals.increment total.name) s.totals }

def change {α : Type} (s : Service) (id : SessionId)
    (operation : Session → Change (Except Fault α)) : Outcome (Except Fault α) :=
  match s.sessions.get? id with
  | none => ⟨.error (.unknownSession id), s, []⟩
  | some session =>
    let c := operation session
    ⟨c.result, { s with sessions := s.sessions.update c.session }.record c.trace, c.trace.notices⟩

def sure {α : Type} (c : Change α) : Change (Except Fault α) := ⟨.ok c.result, c.session, c.trace⟩

/-! ## 1. The life of a session -/

def enroll (s : Service) (id : SessionId) (roster : Roster) : Tracker :=
  roster.foldl (fun t v => t.register v.1 v.2) (.new id s.configuration.pendingPolicy)

def replacements (roster : Roster) : List VerifierId :=
  ((roster.filter (·.2 = .optional)).drop 1).map (·.1)

def start (s : Service) (id : SessionId) (roster : Roster) (now : Timestamp) :
    Outcome (Except Fault Timestamp) :=
  let tracker := s.enroll id roster
  let replaced := (replacements roster).map (Notice.optionalReplaced id)
  if !tracker.hasVerifiers then ⟨.error (.noVerifiers id), s, replaced⟩
  else if s.sessions.contains id then ⟨.error (.sessionExists id), s, replaced⟩
  else
    let timeout := s.configuration.verificationTimeout
    let deadline := now.later timeout
    let session : Session :=
      { tracker, startedAt := now, deadline, timedOut := false, completionReported := false }
    let trace : Trace :=
      { events := [.sessionStarted id deadline]
        counted := [.sessionsStarted]
        notices := replaced ++ [.started id roster.length timeout] }
    ⟨.ok deadline, { s with sessions := s.sessions.insert session }.record trace, trace.notices⟩

def finish (s : Service) (id : SessionId) : Outcome (Except Fault Summary) :=
  match s.sessions.get? id with
  | none => ⟨.error (.unknownSession id), s, []⟩
  | some session =>
    ⟨.ok session.summary, { s with sessions := s.sessions.erase id },
      [.finished id session.verdict]⟩

/-! ## 2. Operations on a session -/

def respond (s : Service) (id : SessionId) (verifier : VerifierId) (answer : Answer) :
    Outcome (Except Fault ResponseOutcome) :=
  s.change id fun session => sure (session.respond verifier answer)

/-- Handles a request for more time; one that asks for too much fails whatever the session. -/
def extend (s : Service) (id : SessionId) (verifier : VerifierId) (extra : UInt64)
    (now : Timestamp) : Outcome (Except Fault Bool) :=
  if s.configuration.maxExtension < extra then
    ⟨.error (.extensionLimit id s.configuration.maxExtension), s, []⟩
  else s.change id fun session => sure (session.extend verifier extra now)

def recordIntegrity (s : Service) (id : SessionId) (answer : Answer) :
    Outcome (Except Fault Bool) :=
  s.change id fun session => sure (session.recordIntegrity answer)

def forceRequired (s : Service) (id : SessionId) : Outcome (Except Fault Verdict) :=
  s.change id Session.forceRequired

/-! ## 3. All sessions -/

/-- The answer of a silent verifier. A time-out does not waive the sufficient pool. -/
def defaultAnswer (s : Service) : Answer :=
  match s.configuration.defaultAnswer with
  | .allowWithoutSufficient => .allow
  | answer => answer

/-- Times out every session whose deadline has struck, in the order of their ids, and tells which.
-/
def expire (s : Service) (now : Timestamp) : Outcome (List SessionId) :=
  let due := s.sessions.toList.filter (·.isDue now)
  let traces := s.sessions.toList.map fun session => (session.strike s.defaultAnswer now).2
  let sessions :=
    s.sessions.map (fun session => (session.strike s.defaultAnswer now).1)
      fun session => session.id_strike s.defaultAnswer now
  let trace := traces.foldr (· ++ ·) .empty
  ⟨due.map (·.id), { s with sessions }.record trace, trace.notices⟩

def drain (s : Service) : Outcome (List Event) := ⟨s.events, { s with events := [] }, []⟩

def nextDeadline (s : Service) : Option Timestamp := s.sessions.nextDeadline

/-! ## 4. Views of a session -/

def view {α : Type} (s : Service) (id : SessionId) (look : Session → α) : Except Fault α :=
  match s.sessions.get? id with
  | none => .error (.unknownSession id)
  | some session => .ok (look session)

def verdict (s : Service) (id : SessionId) : Except Fault Verdict := s.view id Session.verdict

def axes (s : Service) (id : SessionId) : Except Fault AxisReport :=
  s.view id fun session => session.tracker.axes

def summary (s : Service) (id : SessionId) : Except Fault Summary := s.view id Session.summary

end Service

end PackageVerification
