import PackageVerification.Service.Trace

/-!
# Sessions

A session is a tracker on a clock: it has a deadline, it may time out, and it reports its completion
once. Each operation here is on one session and says what it leaves behind.
-/

namespace PackageVerification

structure Session where
  tracker : Tracker
  startedAt : Timestamp
  deadline : Timestamp
  timedOut : Bool
  completionReported : Bool
  deriving DecidableEq, Repr

structure Change (α : Type) where
  result : α
  session : Session
  trace : Trace

structure ResponseOutcome where
  /-- None when the session had timed out. -/
  disposition : Option Disposition
  verdict : Verdict
  /-- The verifiers and the integrity check are all done. -/
  allComplete : Bool
  deriving DecidableEq, Repr

def ResponseOutcome.isRecognized (o : ResponseOutcome) : Bool :=
  (o.disposition.map Disposition.isAccepted).getD false

structure Summary where
  session : SessionId
  verdict : Verdict
  axes : AxisReport
  timedOut : Bool
  timeoutExtended : Bool
  integrityResult : Option Answer
  startedAt : Timestamp
  deadline : Timestamp
  deriving DecidableEq, Repr

namespace Session

/-! ## 1. Views -/

def id (s : Session) : SessionId := s.tracker.session

/-- A session that timed out before it was decided is rejected. -/
def verdict (s : Session) : Verdict :=
  if s.tracker.verdict = .pending ∧ s.timedOut then .rejected else s.tracker.verdict

def isOpen (s : Session) : Bool := !s.timedOut && !s.completionReported

def summary (s : Session) : Summary where
  session := s.id
  verdict := s.verdict
  axes := s.tracker.axes
  timedOut := s.timedOut
  timeoutExtended := s.tracker.timeoutExtended
  integrityResult := s.tracker.integrityResult
  startedAt := s.startedAt
  deadline := s.deadline

/-! ## 2. Completion -/

/-- Reports the completion when the verdict has become final, and only then. -/
def reportCompletion (s : Session) : Session × Trace :=
  if !s.completionReported && s.verdict.isFinal then
    ({ s with completionReported := true },
      { events := [.sessionCompleted s.id s.verdict]
        counted := [.sessionsCompleted]
        notices := [.completed s.id s.verdict s.timedOut] })
  else (s, .empty)

/-! ## 3. Answers -/

def dispositionTrace (session : SessionId) (verifier : VerifierId) (answer : Answer) :
    Disposition → Trace
  | .accepted role =>
    { events := []
      counted := [.responsesAccepted]
      notices := [.accepted session verifier role answer] }
  | .duplicate role =>
    { events := [.responseRejected session verifier .duplicate]
      counted := [.responsesDuplicate]
      notices := [.duplicateIgnored session verifier role answer] }
  | .unrecognized =>
    { events := [.responseRejected session verifier .unrecognized]
      counted := [.responsesUnrecognized]
      notices := [.strangerIgnored session verifier answer] }

def outcome (s : Session) (disposition : Option Disposition) : ResponseOutcome :=
  ⟨disposition, s.verdict, s.tracker.isAllComplete⟩

/-- Handles an answer. After the deadline has struck nothing is counted. -/
def respond (s : Session) (verifier : VerifierId) (answer : Answer) : Change ResponseOutcome :=
  if s.timedOut then
    { result := s.outcome none
      session := s
      trace :=
        { events := [.responseRejected s.id verifier .timedOut]
          counted := [.responsesLate]
          notices := [.lateIgnored s.id verifier answer] } }
  else
    let (disposition, tracker) := s.tracker.answer verifier answer
    let answered := { s with tracker }
    let (session, completion) := answered.reportCompletion
    { result := answered.outcome (some disposition)
      session
      trace :=
        ⟨[], [], s.tracker.answerNotices verifier answer⟩ ++
          dispositionTrace s.id verifier answer disposition ++ completion }

/-! ## 4. More time -/

/-- Grants the first request for more time that a verifier of an open session makes. The deadline
is never moved to an earlier time. -/
def extend (s : Session) (verifier : VerifierId) (extra : UInt64) (now : Timestamp) :
    Change Bool :=
  if !s.tracker.isRegistered verifier then ⟨false, s, .ofNotice (.strangerExtension s.id verifier)⟩
  else if !s.isOpen || s.tracker.timeoutExtended then
    ⟨false, s, .ofNotice (.extensionIgnored s.id verifier)⟩
  else
    let deadline := s.deadline.latest (now.later extra)
    { result := true
      session := { s with tracker := s.tracker.extendTimeout, deadline }
      trace :=
        { events := [.timeoutExtended s.id deadline]
          counted := [.timeoutsExtended]
          notices := [.extended s.id verifier extra] } }

/-! ## 5. Integrity and override -/

def recordIntegrity (s : Session) (answer : Answer) : Change Bool :=
  let session := { s with tracker := s.tracker.recordIntegrity answer }
  ⟨session.tracker.isAllComplete, session, .ofNotice (.integrityRecorded s.id answer)⟩

def forceRequired (s : Session) : Change (Except Fault Verdict) :=
  if !s.isOpen then
    ⟨.error (.sessionClosed s.id), s, .ofNotice (.overrideRefused s.id s.verdict)⟩
  else
    match s.tracker.forceRequired with
    | .error outstanding => ⟨.error (.requiredOutstanding outstanding), s, .empty⟩
    | .ok tracker =>
      let forced := { s with tracker }
      let (session, completion) := forced.reportCompletion
      { result := .ok forced.verdict
        session
        trace :=
          .ofNotice (.requiredForced s.id) ++ .ofNotice (.overridden s.id forced.verdict) ++
            completion }

/-! ## 6. Time-out -/

def answerAll (answer : Answer) : Tracker → List VerifierId → Tracker × List Notice
  | t, [] => (t, [])
  | t, v :: vs =>
    let (t', notices) := answerAll answer (t.answer v answer).2 vs
    (t', t.answerNotices v answer ++ notices)

def isDue (s : Session) (now : Timestamp) : Bool := s.isOpen && s.deadline ≤ now

/-- Times a session out: each silent required verifier gives the default answer. -/
def timeOut (s : Session) (default : Answer) (now : Timestamp) : Session × Trace :=
  let silent := s.tracker.required.unanswered.toList
  let (tracker, notices) := answerAll default s.tracker silent
  let (session, completion) := { s with tracker, timedOut := true }.reportCompletion
  (session,
    ⟨[], [], notices⟩ ++
      { events := [.sessionTimedOut s.id]
        counted := [.sessionsTimedOut]
        notices := [.timedOut s.id silent.length default (s.startedAt.elapsed now)] } ++
      completion)

def strike (s : Session) (default : Answer) (now : Timestamp) : Session × Trace :=
  if s.isDue now then s.timeOut default now else (s, .empty)

/-! ## 7. The id stays -/

@[simp] theorem id_reportCompletion (s : Session) : s.reportCompletion.1.id = s.id := by
  unfold reportCompletion
  split <;> rfl

@[simp] theorem session_answerAll (answer : Answer) (t : Tracker) (vs : List VerifierId) :
    (answerAll answer t vs).1.session = t.session := by
  induction vs generalizing t with
  | nil => rfl
  | cons v vs ih => exact (ih _).trans (t.session_answer v answer)

@[simp] theorem id_timeOut (s : Session) (default : Answer) (now : Timestamp) :
    (s.timeOut default now).1.id = s.id :=
  (id_reportCompletion _).trans (session_answerAll default s.tracker _)

@[simp] theorem id_strike (s : Session) (default : Answer) (now : Timestamp) :
    (s.strike default now).1.id = s.id := by
  unfold strike
  split
  · exact s.id_timeOut default now
  · rfl

end Session

end PackageVerification
