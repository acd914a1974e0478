import Mathlib.Data.List.Forall2
import PackageVerification.Proofs.Reported

/-!
# The audit log

Some records of the log tell of what is reported to the installer as well: of each event there is
one record. They are written and queued by separate statements, but in the same order. Main
statements: `recounts_handle`, one request leaves a record for each event that it adds;
`story_tells_events`, so does a run.
-/

namespace PackageVerification

/-! ## 1. Records that tell of events -/

namespace Event

/-- The message of the record that tells of an event. -/
def headline : Event → String
  | .sessionStarted .. => "verification started"
  | .responseRejected _ _ .timedOut => "response after deadline ignored"
  | .responseRejected _ _ .duplicate => "duplicate response ignored"
  | .responseRejected _ _ .unrecognized => "response from unknown verifier ignored"
  | .timeoutExtended .. => "verification timeout extended"
  | .sessionTimedOut _ => "verification timed out"
  | .sessionCompleted .. => "verification complete"

def gravity : Event → Level
  | .responseRejected .. | .sessionTimedOut _ => .warn
  | .sessionStarted .. | .timeoutExtended .. | .sessionCompleted .. => .info

/-- What the record says besides the session: who was refused, and which decision was made. -/
def particulars : Event → List (String × String)
  | .responseRejected _ verifier _ => [("verifier", verifier.text)]
  | .sessionCompleted _ verdict => [("verdict", verdict.title)]
  | .sessionStarted .. | .timeoutExtended .. | .sessionTimedOut _ => []

end Event

structure Notice.TellsOf (n : Notice) (e : Event) : Prop where
  level : n.level = e.gravity
  message : n.message = e.headline
  session : n.session = e.session
  particulars : ∀ field ∈ e.particulars, field ∈ n.fields

def headlines : List String :=
  ["verification started", "response after deadline ignored", "duplicate response ignored",
   "response from unknown verifier ignored", "verification timeout extended",
   "verification timed out", "verification complete"]

/-- The record that tells of an event has one of the messages that do. -/
theorem Event.headline_mem_headlines (e : Event) : e.headline ∈ headlines := by
  cases e with
  | responseRejected _ _ reason => cases reason <;> simp [headline, headlines]
  | _ => simp [headline, headlines]

def story (log : List Notice) : List Notice := log.filter (·.message ∈ headlines)

@[simp]
theorem story_append (log log' : List Notice) : story (log ++ log') = story log ++ story log' :=
  List.filter_append log log'

theorem story_eq_nil {log : List Notice} (h : ∀ n ∈ log, n.message ∉ headlines) :
    story log = [] :=
  List.filter_eq_nil_iff.2 fun n hn => by simpa using h n hn

def Recounts (log : List Notice) (events : List Event) : Prop :=
  List.Forall₂ Notice.TellsOf (story log) events

namespace Recounts

/-- A log that tells its events one by one may be followed by another. -/
theorem append {log log' : List Notice} {events events' : List Event} (h : Recounts log events)
    (h' : Recounts log' events') : Recounts (log ++ log') (events ++ events') := by
  rw [Recounts, story_append]
  exact List.rel_append h h'

/-- Records with other messages tell of nothing. -/
theorem nothing {log : List Notice} (h : ∀ n ∈ log, n.message ∉ headlines) : Recounts log [] := by
  rw [Recounts, story_eq_nil h]
  exact .nil

theorem single {n : Notice} {e : Event} (h : n.TellsOf e) : Recounts [n] [e] := by
  have hmessage : n.message ∈ headlines := h.message ▸ e.headline_mem_headlines
  rw [Recounts, story, List.filter_singleton, decide_eq_true hmessage]
  exact .cons h .nil

end Recounts

/-! ## 2. The records of an operation -/

def Trace.Recounted (t : Trace) : Prop := Recounts t.notices t.events

/-- What a tracker notes down is no event. -/
theorem Tracker.message_answerNotices (t : Tracker) (verifier : VerifierId) (answer : Answer) :
    ∀ n ∈ t.answerNotices verifier answer, n.message ∉ headlines := by
  rw [answerNotices]
  rcases t.answer verifier answer with ⟨disposition, t'⟩
  cases disposition with
  | accepted role =>
    cases role with
    | required =>
      dsimp only
      split_ifs <;> simp [Notice.message, headlines]
    | optional | sufficient => simp [Notice.message, headlines]
  | duplicate role => simp
  | unrecognized => simp [Notice.message, headlines]

namespace Session

theorem message_answerAll (answer : Answer) (t : Tracker) (verifiers : List VerifierId) :
    ∀ n ∈ (answerAll answer t verifiers).2, n.message ∉ headlines := by
  induction verifiers generalizing t with
  | nil => exact List.forall_mem_nil _
  | cons v vs ih => exact List.forall_mem_append.2 ⟨t.message_answerNotices v answer, ih _⟩

/-- A decision leaves a record and an event, or neither. -/
theorem recounted_reportCompletion (x : Session) : x.reportCompletion.2.Recounted := by
  unfold reportCompletion
  split
  · exact .single ⟨rfl, rfl, rfl, by simp [Event.particulars, Notice.fields, Notice.details]⟩
  · exact .nil

/-- An answer that is not counted leaves a warning and an event, another one neither of the two. -/
theorem recounted_dispositionTrace (session : SessionId) (verifier : VerifierId) (answer : Answer)
    (disposition : Disposition) :
    (dispositionTrace session verifier answer disposition).Recounted := by
  cases disposition with
  | accepted role => exact .nothing (by simp [dispositionTrace, Notice.message, headlines])
  | duplicate role =>
    exact .single ⟨rfl, rfl, rfl, by simp [Event.particulars, Notice.fields, Notice.details]⟩
  | unrecognized =>
    exact .single ⟨rfl, rfl, rfl, by simp [Event.particulars, Notice.fields, Notice.details]⟩

theorem recounted_respond (x : Session) (verifier : VerifierId) (answer : Answer) :
    (x.respond verifier answer).trace.Recounted := by
  rw [respond]
  split_ifs
  · exact .single ⟨rfl, rfl, rfl, by simp [Event.particulars, Notice.fields, Notice.details]⟩
  · have hheard : Trace.Recounted ⟨[], [], x.tracker.answerNotices verifier answer⟩ :=
      .nothing (x.tracker.message_answerNotices verifier answer)
    exact (hheard.append (recounted_dispositionTrace _ _ _ _)).append
      (x.answered verifier answer).recounted_reportCompletion

theorem recounted_extend (x : Session) (verifier : VerifierId) (extra : UInt64) (now : Timestamp) :
    (x.extend verifier extra now).trace.Recounted := by
  rw [extend]
  split_ifs
  · exact .nothing (by simp [Trace.ofNotice, Notice.message, headlines])
  · exact .nothing (by simp [Trace.ofNotice, Notice.message, headlines])
  · exact .single ⟨rfl, rfl, rfl, List.forall_mem_nil _⟩

theorem recounted_recordIntegrity (x : Session) (answer : Answer) :
    (x.recordIntegrity answer).trace.Recounted :=
  .nothing (by simp [recordIntegrity, Trace.ofNotice, Notice.message, headlines])

theorem recounted_forceRequired (x : Session) : x.forceRequired.trace.Recounted := by
  rw [forceRequired, Tracker.forceRequired]
  split_ifs
  · exact .nothing (by simp [Trace.ofNotice, Notice.message, headlines])
  · have hforced : (Trace.ofNotice (.requiredForced x.id) ++
        .ofNotice (.overridden x.id x.forced.verdict)).Recounted :=
      .nothing (by simp [Trace.ofNotice, Notice.message, headlines])
    exact hforced.append x.forced.recounted_reportCompletion
  · exact .nil

theorem recounted_strike (x : Session) (default : Answer) (now : Timestamp) :
    (x.strike default now).2.Recounted := by
  rw [strike]
  split_ifs
  · have hsilent : Trace.Recounted
        ⟨[], [], (answerAll default x.tracker x.tracker.required.unanswered.toList).2⟩ :=
      .nothing (message_answerAll _ _ _)
    have htimedOut : ∀ silent waited, Trace.Recounted ⟨[.sessionTimedOut x.id],
        [.sessionsTimedOut], [.timedOut x.id silent default waited]⟩ :=
      fun _ _ => .single ⟨rfl, rfl, rfl, List.forall_mem_nil _⟩
    exact (hsilent.append (htimedOut _ _)).append (x.struck default).recounted_reportCompletion
  · exact .nil

/-- Sessions that are struck at the same time are told of in turn. -/
theorem recounted_strikes (xs : List Session) (default : Answer) (now : Timestamp) :
    ((xs.map fun x => (x.strike default now).2).foldr (· ++ ·) Trace.empty).Recounted := by
  induction xs with
  | nil => exact .nil
  | cons x xs ih => exact (x.recounted_strike default now).append ih

end Session

/-! ## 3. The records of a request -/

namespace Service

variable {s : Service} {α : Type}

def Recounted (s : Service) (o : Outcome α) : Prop :=
  ∃ events, o.service.events = s.events ++ events ∧ Recounts o.notices events

/-- Where nothing is added there is nothing to tell of. -/
theorem recounted_of_events_eq {o : Outcome α} (hevents : o.service.events = s.events)
    (hnotices : ∀ n ∈ o.notices, n.message ∉ headlines) : s.Recounted o :=
  ⟨[], hevents.trans (List.append_nil _).symm, .nothing hnotices⟩

theorem Recounted.map {β : Type} {o : Outcome α} (h : s.Recounted o) (f : α → β) :
    s.Recounted (o.map f) := h

theorem recounted_change (s : Service) (id : SessionId)
    {operation : Session → Change (Except Fault α)} (h : ∀ x, (operation x).trace.Recounted) :
    s.Recounted (s.change id operation) := by
  rw [change]
  cases s.sessions.get? id with
  | none => exact recounted_of_events_eq rfl (List.forall_mem_nil _)
  | some x => exact ⟨(operation x).trace.events, rfl, h x⟩

theorem recounted_start (s : Service) (id : SessionId) (roster : Roster) (now : Timestamp) :
    s.Recounted (s.start id roster now) := by
  have hreplaced : ∀ n ∈ (replacements roster).map (Notice.optionalReplaced id),
      n.message ∉ headlines := by
    simp [Notice.message, headlines]
  rw [start]
  split_ifs
  · exact recounted_of_events_eq rfl hreplaced
  · exact recounted_of_events_eq rfl hreplaced
  · exact ⟨_, rfl, (Recounts.nothing hreplaced).append
      (.single ⟨rfl, rfl, rfl, List.forall_mem_nil _⟩)⟩

theorem recounted_extend (s : Service) (id : SessionId) (verifier : VerifierId) (extra : UInt64)
    (now : Timestamp) : s.Recounted (s.extend id verifier extra now) := by
  rw [extend]
  split_ifs
  · exact recounted_of_events_eq rfl (List.forall_mem_nil _)
  · exact s.recounted_change id fun x => x.recounted_extend verifier extra now

theorem recounted_finish (s : Service) (id : SessionId) : s.Recounted (s.finish id) := by
  refine recounted_of_events_eq (s.service_finish id).2.1 ?_
  rw [finish]
  cases s.sessions.get? id <;> simp [Notice.message, headlines]

/-- A request leaves a record for each event, whatever it comes to. -/
theorem recounted_handle (s : Service) {r : Request} (hr : r ≠ .drain) :
    s.Recounted (s.handle r) := by
  cases r with
  | start id roster now => exact (s.recounted_start id roster now).map _
  | respond id v a => exact (s.recounted_change id fun x => x.recounted_respond v a).map _
  | extend id v ms now => exact (s.recounted_extend id v ms now).map _
  | recordIntegrity id a =>
    exact (s.recounted_change id fun x => x.recounted_recordIntegrity a).map _
  | forceRequired id => exact (s.recounted_change id Session.recounted_forceRequired).map _
  | expire now => exact ⟨_, rfl, Session.recounted_strikes _ _ now⟩
  | finish id => exact (s.recounted_finish id).map _
  | drain => exact absurd rfl hr

/-- A request leaves a record for each event that it adds, in their order. -/
theorem recounts_handle (s : Service) (r : Request) :
    Recounts (s.handle r).notices (s.emitted r) := by
  by_cases hr : r = .drain
  · subst hr
    exact .nil
  · obtain ⟨events, hevents, hrecounts⟩ := s.recounted_handle hr
    have hemitted : s.emitted r = events :=
      List.append_cancel_left ((s.handle_cleared hr).1.symm.trans hevents)
    exact hemitted ▸ hrecounts

/-! ## 4. The log of a run -/

def log (s : Service) (rs : List Request) : List Notice := (s.handleAll rs).2.2

@[simp] theorem log_cons (s : Service) (r : Request) (rs : List Request) :
    s.log (r :: rs) = (s.handle r).notices ++ (s.handle r).service.log rs := rfl

/-- The log of a run tells of the events that the run adds. -/
theorem recounts_log (s : Service) (rs : List Request) :
    Recounts (s.log rs) (s.emittedAll rs) := by
  induction rs generalizing s with
  | nil => exact .nil
  | cons r rs ih =>
    rw [log_cons, emittedAll]
    exact (s.recounts_handle r).append (ih _)

end Service

/-- The audit log of a run tells the same story as its events: the records that tell of events
correspond one by one and in the same order to all the events of the run, whenever these are
drained. A record and its event agree on the session, on the verifier that is refused and on the
verdict of a completion; rejections and time-outs are warnings. -/
theorem story_tells_events (c : Configuration) (rs : List Request) :
    List.Forall₂ Notice.TellsOf (story ((Service.new c).log rs)) ((Service.new c).reported rs) := by
  rw [Service.reported_eq]
  exact (Service.new c).recounts_log rs

-- All seven kinds of events, and the records of two more requests that are not among these.
example :
    let rs : List Request :=
      [.start ⟨1⟩ [(⟨5⟩, .required), (⟨6⟩, .optional)] ⟨0⟩, .respond ⟨1⟩ ⟨5⟩ .allow,
       .respond ⟨1⟩ ⟨5⟩ .reject, .respond ⟨1⟩ ⟨9⟩ .allow, .recordIntegrity ⟨1⟩ .allow,
       .extend ⟨1⟩ ⟨6⟩ 20000 ⟨10⟩, .expire ⟨20010⟩, .respond ⟨1⟩ ⟨6⟩ .allow]
    story ((Service.new .default).log rs) =
        [.started ⟨1⟩ 2 10000, .duplicateIgnored ⟨1⟩ ⟨5⟩ .required .reject,
         .strangerIgnored ⟨1⟩ ⟨9⟩ .allow, .extended ⟨1⟩ ⟨6⟩ 20000,
         .timedOut ⟨1⟩ 0 .reject 20010, .completed ⟨1⟩ .rejected true,
         .lateIgnored ⟨1⟩ ⟨6⟩ .allow] ∧
      (Service.new .default).reported rs =
        [.sessionStarted ⟨1⟩ ⟨10000⟩, .responseRejected ⟨1⟩ ⟨5⟩ .duplicate,
         .responseRejected ⟨1⟩ ⟨9⟩ .unrecognized, .timeoutExtended ⟨1⟩ ⟨20010⟩,
         .sessionTimedOut ⟨1⟩, .sessionCompleted ⟨1⟩ .rejected,
         .responseRejected ⟨1⟩ ⟨6⟩ .timedOut] := by
  decide +kernel

end PackageVerification
