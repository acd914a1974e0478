import PackageVerification.Proofs.Enrolment
import PackageVerification.Service.Request

/-!
# What happens to a session

What each operation on a session comes to, and `Session.react`, what a request to the service does
to one session. Main statement: `keeps_react`, a session keeps its id and everything reported is
about it.
-/

namespace PackageVerification

namespace Session

/-! ## 1. What operations come to -/

def answered (x : Session) (verifier : VerifierId) (answer : Answer) : Session :=
  { x with tracker := (x.tracker.answer verifier answer).2 }

def forced (x : Session) : Session :=
  { x with tracker := { x.tracker with required := x.tracker.required.force } }

def struck (x : Session) (default : Answer) : Session :=
  { x with
    tracker := (answerAll default x.tracker x.tracker.required.unanswered.toList).1
    timedOut := true }

@[simp] theorem id_answered (x : Session) (verifier : VerifierId) (answer : Answer) :
    (x.answered verifier answer).id = x.id :=
  x.tracker.session_answer verifier answer

@[simp] theorem id_struck (x : Session) (default : Answer) : (x.struck default).id = x.id :=
  session_answerAll default x.tracker _

theorem reportCompletion_of_reported {x : Session} (h : x.completionReported = true) :
    x.reportCompletion = (x, .empty) := by
  simp [reportCompletion, h]

theorem reportCompletion_of_not_final {x : Session} (h : x.verdict.isFinal = false) :
    x.reportCompletion = (x, .empty) := by
  simp [reportCompletion, h]

/-- A final verdict that has not been reported is reported once. -/
theorem reportCompletion_of_final {x : Session} (h : x.completionReported = false)
    (hfinal : x.verdict.isFinal = true) :
    x.reportCompletion.1 = { x with completionReported := true } ∧
      x.reportCompletion.2.events = [.sessionCompleted x.id x.verdict] := by
  simp [reportCompletion, h, hfinal]

@[simp]
theorem tracker_reportCompletion (x : Session) : x.reportCompletion.1.tracker = x.tracker := by
  unfold reportCompletion
  split <;> rfl

@[simp]
theorem timedOut_reportCompletion (x : Session) : x.reportCompletion.1.timedOut = x.timedOut := by
  unfold reportCompletion
  split <;> rfl

/-- A session is open until it has timed out or its completion was reported. -/
theorem isOpen_iff {x : Session} :
    x.isOpen = true ↔ x.timedOut = false ∧ x.completionReported = false := by
  simp [isOpen]

/-- An answer is late, or the tracker handles it. -/
theorem respond_cases (x : Session) (verifier : VerifierId) (answer : Answer) :
    (x.timedOut = true ∧ (x.respond verifier answer).session = x ∧
        (x.respond verifier answer).trace.events = [.responseRejected x.id verifier .timedOut]) ∨
      (x.timedOut = false ∧
        (x.respond verifier answer).session = (x.answered verifier answer).reportCompletion.1 ∧
        (x.respond verifier answer).trace.events =
          (dispositionTrace x.id verifier answer (x.tracker.answer verifier answer).1).events ++
            (x.answered verifier answer).reportCompletion.2.events) := by
  rw [respond]
  split_ifs with htimedOut
  · exact .inl ⟨htimedOut, rfl, rfl⟩
  · exact .inr ⟨by simpa using htimedOut, rfl, rfl⟩

/-- More time is refused without a word to the installer, or granted to an open session once. -/
theorem extend_cases (x : Session) (verifier : VerifierId) (extra : UInt64) (now : Timestamp) :
    ((x.extend verifier extra now).session = x ∧
        (x.extend verifier extra now).trace.events = []) ∨
      (x.isOpen = true ∧ x.tracker.timeoutExtended = false ∧ ∃ deadline,
        (x.extend verifier extra now).session =
          { x with tracker := x.tracker.extendTimeout, deadline } ∧
        (x.extend verifier extra now).trace.events = [.timeoutExtended x.id deadline]) := by
  rw [extend]
  split_ifs with hstranger hignored
  · exact .inl ⟨rfl, rfl⟩
  · exact .inl ⟨rfl, rfl⟩
  · rw [Bool.or_eq_true, not_or, Bool.not_eq_true', Bool.not_eq_false, Bool.not_eq_true] at hignored
    exact .inr ⟨hignored.1, hignored.2, _, rfl, rfl⟩

/-- An override is refused, or passes the required axis of an open session when everybody on it has
answered. -/
theorem forceRequired_cases (x : Session) :
    ((∃ fault, x.forceRequired.result = .error fault) ∧ x.forceRequired.session = x ∧
        x.forceRequired.trace.events = []) ∨
      ((∃ verdict, x.forceRequired.result = .ok verdict) ∧ x.isOpen = true ∧
        x.tracker.required.unanswered.isEmpty = true ∧
        x.forceRequired.session = x.forced.reportCompletion.1 ∧
        x.forceRequired.trace.events = x.forced.reportCompletion.2.events) := by
  rw [forceRequired, Tracker.forceRequired]
  split_ifs with hopen hnone
  · exact .inl ⟨⟨_, rfl⟩, rfl, rfl⟩
  · rw [Bool.not_eq_true', Bool.not_eq_false] at hopen
    exact .inr ⟨⟨_, rfl⟩, hopen, hnone, rfl, rfl⟩
  · exact .inl ⟨⟨_, rfl⟩, rfl, rfl⟩

/-- A time-out is told first, then the decision that it comes to. -/
theorem timeOut_eq (x : Session) (default : Answer) (now : Timestamp) :
    (x.timeOut default now).1 = (x.struck default).reportCompletion.1 ∧
      (x.timeOut default now).2.events =
        .sessionTimedOut x.id :: (x.struck default).reportCompletion.2.events :=
  ⟨rfl, rfl⟩

end Session

/-! ## 2. What a request does to a session -/

def Configuration.silentAnswer (c : Configuration) : Answer := (Service.new c).defaultAnswer

/-- The session that a change leaves and what it leaves behind. -/
def Change.effect {α : Type} (c : Change α) : Session × Trace := (c.session, c.trace)

namespace Session

/-- What a request does to a session that is followed, unless it ends it. -/
def react (c : Configuration) (x : Session) : Request → Session × Trace
  | .respond id verifier answer =>
    if id = x.id then (x.respond verifier answer).effect else (x, .empty)
  | .extend id verifier extra now =>
    if id = x.id ∧ ¬c.maxExtension < extra then (x.extend verifier extra now).effect
    else (x, .empty)
  | .recordIntegrity id answer =>
    if id = x.id then (x.recordIntegrity answer).effect else (x, .empty)
  | .forceRequired id => if id = x.id then x.forceRequired.effect else (x, .empty)
  | .expire now => x.strike c.silentAnswer now
  | .start .. | .finish _ | .drain => (x, .empty)

/-- A session is left alone, or one of five things happens to it. -/
theorem react_induction (c : Configuration) (x : Session) {P : Session × Trace → Prop}
    (idle : P (x, .empty))
    (respond : ∀ verifier answer, P (x.respond verifier answer).effect)
    (extend : ∀ verifier extra now, P (x.extend verifier extra now).effect)
    (integrity : ∀ answer, P (x.recordIntegrity answer).effect)
    (force : P x.forceRequired.effect)
    (timeOut : ∀ now, x.isOpen = true → P (x.timeOut c.silentAnswer now)) (r : Request) :
    P (x.react c r) := by
  cases r with
  | start | finish | drain => exact idle
  | respond id v a =>
    rw [react]
    split_ifs
    · exact respond v a
    · exact idle
  | extend id v ms now =>
    rw [react]
    split_ifs
    · exact extend v ms now
    · exact idle
  | recordIntegrity id a =>
    rw [react]
    split_ifs
    · exact integrity a
    · exact idle
  | forceRequired id =>
    rw [react]
    split_ifs
    · exact force
    · exact idle
  | expire now =>
    rw [react, strike]
    split_ifs with hdue
    · rw [isDue, Bool.and_eq_true] at hdue
      exact timeOut now hdue.1
    · exact idle

/-! ## 3. The id stays, and every event is about the session -/

def Keeps (x : Session) (e : Session × Trace) : Prop :=
  e.1.id = x.id ∧ ∀ event ∈ e.2.events, event.session = x.id

/-- A completion is told under the id of the session. -/
theorem keeps_reportCompletion (x : Session) : x.Keeps x.reportCompletion := by
  refine ⟨x.id_reportCompletion, ?_⟩
  unfold reportCompletion
  split <;> simp [Trace.empty, Event.session]

theorem keeps_respond (x : Session) (verifier : VerifierId) (answer : Answer) :
    x.Keeps (x.respond verifier answer).effect := by
  have hid := x.id_answered verifier answer
  obtain ⟨hreport, hcompletion⟩ := keeps_reportCompletion (x.answered verifier answer)
  rcases x.respond_cases verifier answer with ⟨-, hsession, hevents⟩ | ⟨-, hsession, hevents⟩
  · refine ⟨congrArg Session.id hsession, fun event hevent => ?_⟩
    rw [Change.effect, hevents] at hevent
    rw [List.mem_singleton.1 hevent]
    rfl
  · refine ⟨(congrArg Session.id hsession).trans (hreport.trans hid), fun event hevent => ?_⟩
    rw [Change.effect, hevents, List.mem_append] at hevent
    rcases hevent with hevent | hevent
    · revert hevent
      unfold dispositionTrace
      split <;> simp +contextual [Event.session]
    · exact (hcompletion event hevent).trans hid

theorem keeps_extend (x : Session) (verifier : VerifierId) (extra : UInt64) (now : Timestamp) :
    x.Keeps (x.extend verifier extra now).effect := by
  rcases x.extend_cases verifier extra now with ⟨hsession, hevents⟩ | ⟨-, -, _, hsession, hevents⟩
  · exact ⟨congrArg Session.id hsession, by simp [Change.effect, hevents]⟩
  · have hid : (x.extend verifier extra now).session.id = x.id := by
      rw [hsession]
      rfl
    exact ⟨hid, by simp [Change.effect, hevents, Event.session]⟩

theorem keeps_recordIntegrity (x : Session) (answer : Answer) :
    x.Keeps (x.recordIntegrity answer).effect :=
  ⟨rfl, List.forall_mem_nil _⟩

theorem keeps_forceRequired (x : Session) : x.Keeps x.forceRequired.effect := by
  obtain ⟨hreport, hcompletion⟩ := keeps_reportCompletion x.forced
  rcases x.forceRequired_cases with ⟨-, hsession, hevents⟩ | ⟨-, -, -, hsession, hevents⟩
  · exact ⟨congrArg Session.id hsession, by simp [Change.effect, hevents]⟩
  · refine ⟨(congrArg Session.id hsession).trans hreport, fun event hevent => ?_⟩
    rw [Change.effect, hevents] at hevent
    exact hcompletion event hevent

theorem keeps_timeOut (x : Session) (default : Answer) (now : Timestamp) :
    x.Keeps (x.timeOut default now) := by
  refine ⟨x.id_timeOut default now, fun event hevent => ?_⟩
  rw [(x.timeOut_eq default now).2, List.mem_cons] at hevent
  rcases hevent with rfl | hevent
  · rfl
  · exact ((keeps_reportCompletion _).2 event hevent).trans (x.id_struck default)

/-- Whatever is asked, a session keeps its id and is told about under it. -/
theorem keeps_react (c : Configuration) (x : Session) (r : Request) : x.Keeps (x.react c r) :=
  x.react_induction c ⟨rfl, List.forall_mem_nil _⟩ x.keeps_respond x.keeps_extend
    x.keeps_recordIntegrity x.keeps_forceRequired (fun now _ => x.keeps_timeOut _ now) r

/-- What is reported about a session says nothing of another one. -/
theorem Keeps.filter_events {x : Session} {e : Session × Trace} (h : x.Keeps e) (id : SessionId) :
    e.2.events.filter (·.session = id) = if x.id = id then e.2.events else [] := by
  split_ifs with hid
  · exact List.filter_eq_self.2 fun event hevent => by simpa [h.2 event hevent] using hid
  · exact List.filter_eq_nil_iff.2 fun event hevent => by simpa [h.2 event hevent] using hid

/-! ## 4. The beginning of a session -/

def fresh (c : Configuration) (id : SessionId) (roster : Roster) (now : Timestamp) : Session where
  tracker := .enrolled id c.pendingPolicy roster
  startedAt := now
  deadline := now.later c.verificationTimeout
  timedOut := false
  completionReported := false

@[simp] theorem id_fresh (c : Configuration) (id : SessionId) (roster : Roster) (now : Timestamp) :
    (fresh c id roster now).id = id := by
  rw [Session.id, fresh, Tracker.enrolled_eq]

/-- The session that a request begins under an id that is free. -/
def begun (c : Configuration) (id : SessionId) : Request → Option Session
  | .start id' roster now => if id' = id ∧ roster ≠ [] then some (fresh c id roster now) else none
  | _ => none

end Session

end PackageVerification
