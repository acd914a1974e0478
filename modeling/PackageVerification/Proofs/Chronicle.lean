import PackageVerification.Proofs.Decision

/-!
# What is reported about a session

Every session is reported in the same way: its beginning, then what happens until it is decided,
then the decision once, then the answers that are not counted any more. Main statements:
`Told.react`, a request goes on with what has been told; `reported_chronicle`, the events of a whole
run.
-/

namespace PackageVerification

/-! ## 1. The order of events -/

namespace Event

def IsIgnored (session : SessionId) (e : Event) : Prop :=
  ∃ verifier reason, (reason = .duplicate ∨ reason = .unrecognized) ∧
    e = .responseRejected session verifier reason

def IsLate (session : SessionId) (e : Event) : Prop :=
  ∃ verifier, e = .responseRejected session verifier .timedOut

def isExtension : Event → Bool
  | .timeoutExtended .. => true
  | _ => false

/-- What is reported before a decision: answers that are not counted, and more time at most once. -/
structure Prelude (session : SessionId) (w : List Event) : Prop where
  each : ∀ e ∈ w, e.IsIgnored session ∨ ∃ deadline, e = .timeoutExtended session deadline
  once : w.countP isExtension ≤ 1

end Event

/-- The events of a session whose verdict stands as told, in their order. -/
inductive Chronicle (session : SessionId) (deadline : Timestamp) : Verdict → List Event → Prop
  | waiting {w : List Event} (before : Event.Prelude session w) :
    Chronicle session deadline .pending (.sessionStarted session deadline :: w)
  | decided {w late : List Event} {verdict : Verdict} (before : Event.Prelude session w)
      (final : verdict.isFinal = true) (after : ∀ e ∈ late, e.IsIgnored session) :
    Chronicle session deadline verdict
      (.sessionStarted session deadline :: (w ++ .sessionCompleted session verdict :: late))
  | timedOut {w late : List Event} {verdict : Verdict} (before : Event.Prelude session w)
      (final : verdict.isFinal = true) (after : ∀ e ∈ late, e.IsLate session) :
    Chronicle session deadline verdict
      (.sessionStarted session deadline ::
        (w ++ .sessionTimedOut session :: .sessionCompleted session verdict :: late))

/-! ## 2. What has been told about a session -/

namespace Session

inductive Ending (x : Session) : List Event → Prop
  | waiting (hopen : x.isOpen = true) : Ending x []
  | decided {late : List Event} (htimedOut : x.timedOut = false)
      (hreported : x.completionReported = true) (after : ∀ e ∈ late, e.IsIgnored x.id) :
    Ending x (.sessionCompleted x.id x.verdict :: late)
  | timedOut {late : List Event} (htimedOut : x.timedOut = true)
      (hreported : x.completionReported = true) (after : ∀ e ∈ late, e.IsLate x.id) :
    Ending x (.sessionTimedOut x.id :: .sessionCompleted x.id x.verdict :: late)

structure Opening (x : Session) (w : List Event) : Prop where
  before : Event.Prelude x.id w
  unextended : x.tracker.timeoutExtended = false → w.countP Event.isExtension = 0

def Told (x : Session) (deadline : Timestamp) (w : List Event) : Prop :=
  ∃ p q, w = .sessionStarted x.id deadline :: (p ++ q) ∧ x.Opening p ∧ x.Ending q

variable {x y : Session} {deadline : Timestamp} {w : List Event}

theorem told_fresh (c : Configuration) (id : SessionId) (roster : Roster) (now : Timestamp)
    (deadline : Timestamp) :
    (fresh c id roster now).Told deadline [.sessionStarted id deadline] := by
  refine ⟨[], [], ?_, ⟨⟨List.forall_mem_nil _, Nat.zero_le 1⟩, fun _ => rfl⟩, .waiting rfl⟩
  rw [id_fresh]
  rfl

/-- What has been told is the chronicle of the session. -/
theorem Told.chronicle (h : x.Told deadline w) (hsound : x.Sound) :
    Chronicle x.id deadline x.verdict w := by
  obtain ⟨p, q, rfl, hp, hq⟩ := h
  cases hq with
  | waiting hopen =>
    have hreported := (isOpen_iff.1 hopen).2
    have hpending : x.verdict = .pending := by
      have hnot : ¬x.verdict.isFinal = true := fun hfinal =>
        absurd (hreported.symm.trans (hsound.reported.2 hfinal)) Bool.false_ne_true
      cases hv : x.verdict with
      | pending => rfl
      | allowed | rejected => exact absurd (congrArg Verdict.isFinal hv) hnot
    rw [List.append_nil, hpending]
    exact .waiting hp.before
  | decided _ hreported hlate => exact .decided hp.before (hsound.reported.1 hreported) hlate
  | timedOut _ hreported hlate => exact .timedOut hp.before (hsound.reported.1 hreported) hlate

/-- What has been told does not depend on the answers that were counted, unless they decide. -/
theorem Told.congr (h : x.Told deadline w) (hid : y.id = x.id)
    (hextended : y.tracker.timeoutExtended = x.tracker.timeoutExtended)
    (htimedOut : y.timedOut = x.timedOut) (hreported : y.completionReported = x.completionReported)
    (hverdict : x.completionReported = true → y.verdict = x.verdict) : y.Told deadline w := by
  obtain ⟨p, q, rfl, hp, hq⟩ := h
  refine ⟨p, q, by rw [hid], ⟨hid ▸ hp.before, fun hy => hp.unextended (hextended ▸ hy)⟩, ?_⟩
  cases hq with
  | waiting hopen =>
    refine .waiting ?_
    rw [isOpen, htimedOut, hreported]
    exact hopen
  | decided ht hr hlate =>
    rw [← hid, ← hverdict hr]
    exact .decided (htimedOut.trans ht) (hreported.trans hr) (hid ▸ hlate)
  | timedOut ht hr hlate =>
    rw [← hid, ← hverdict hr]
    exact .timedOut (htimedOut.trans ht) (hreported.trans hr) (hid ▸ hlate)

theorem countP_isExtension_of_ignored {id : SessionId} {es : List Event}
    (hes : ∀ e ∈ es, e.IsIgnored id) : es.countP Event.isExtension = 0 := by
  rw [List.countP_eq_zero]
  intro e he
  obtain ⟨v, reason, -, rfl⟩ := hes e he
  exact Bool.false_ne_true

/-- Answers that are not counted are told where they come. -/
theorem Told.ignored (h : x.Told deadline w) (htimedOut : x.timedOut = false) {es : List Event}
    (hes : ∀ e ∈ es, e.IsIgnored x.id) : x.Told deadline (w ++ es) := by
  have hnone := countP_isExtension_of_ignored hes
  obtain ⟨p, q, rfl, hp, hq⟩ := h
  cases hq with
  | waiting hopen =>
    refine ⟨p ++ es, [], by simp, ⟨⟨?_, ?_⟩, fun hx => ?_⟩, .waiting hopen⟩
    · exact List.forall_mem_append.2 ⟨hp.before.each, fun e he => .inl (hes e he)⟩
    · rw [List.countP_append, hnone]
      exact hp.before.once
    · rw [List.countP_append, hnone]
      exact hp.unextended hx
  | @decided late ht hr hlate =>
    refine ⟨p, .sessionCompleted x.id x.verdict :: (late ++ es), by simp, hp, .decided ht hr ?_⟩
    exact List.forall_mem_append.2 ⟨hlate, hes⟩
  | timedOut ht _ _ => exact absurd (htimedOut.symm.trans ht) Bool.false_ne_true

/-- After a time-out every answer is late. -/
theorem Told.late (h : x.Told deadline w) (htimedOut : x.timedOut = true) {e : Event}
    (he : e.IsLate x.id) : x.Told deadline (w ++ [e]) := by
  obtain ⟨p, q, rfl, hp, hq⟩ := h
  cases hq with
  | waiting hopen => exact absurd ((isOpen_iff.1 hopen).1.symm.trans htimedOut) Bool.false_ne_true
  | decided ht _ _ => exact absurd (ht.symm.trans htimedOut) Bool.false_ne_true
  | @timedOut late ht hr hlate =>
    refine ⟨p, .sessionTimedOut x.id :: .sessionCompleted x.id x.verdict :: (late ++ [e]), by simp,
      hp, .timedOut ht hr ?_⟩
    exact List.forall_mem_append.2 ⟨hlate, List.forall_mem_singleton.2 he⟩

/-- A session that is decided now has told so. -/
theorem Told.reportCompletion (h : x.Told deadline w) (htimedOut : x.timedOut = false) :
    x.reportCompletion.1.Told deadline (w ++ x.reportCompletion.2.events) := by
  by_cases hreported : x.completionReported = true
  · rw [reportCompletion_of_reported hreported]
    simpa [Trace.empty] using h
  · rw [Bool.not_eq_true] at hreported
    by_cases hfinal : x.verdict.isFinal = true
    · obtain ⟨hsession, hevents⟩ := reportCompletion_of_final hreported hfinal
      rw [hsession, hevents]
      obtain ⟨p, q, rfl, hp, hq⟩ := h
      -- Nothing was told of a decision so far, so that the chronicle is still at its opening.
      cases hq with
      | waiting _ =>
        have hp' : Opening { x with completionReported := true } p := ⟨hp.before, hp.unextended⟩
        rw [List.append_nil]
        exact ⟨p, [.sessionCompleted x.id x.verdict], rfl, hp',
          .decided htimedOut rfl (List.forall_mem_nil _)⟩
      | decided _ hr _ | timedOut _ hr _ =>
        exact absurd (hreported.symm.trans hr) Bool.false_ne_true
    · rw [reportCompletion_of_not_final (by simpa using hfinal)]
      simpa [Trace.empty] using h

/-- More time is granted to an open session, once. -/
theorem Told.extended (h : x.Told deadline w) (hopen : x.isOpen = true)
    (hnot : x.tracker.timeoutExtended = false) (newDeadline : Timestamp) :
    Session.Told { x with tracker := x.tracker.extendTimeout, deadline := newDeadline } deadline
      (w ++ [.timeoutExtended x.id newDeadline]) := by
  obtain ⟨p, q, rfl, hp, hq⟩ := h
  cases hq with
  | waiting _ =>
    rw [List.append_nil]
    refine ⟨p ++ [.timeoutExtended x.id newDeadline], [], by rw [List.append_nil]; rfl,
      ⟨⟨?_, ?_⟩, fun hx => absurd hx.symm Bool.false_ne_true⟩, .waiting hopen⟩
    · refine List.forall_mem_append.2 ⟨hp.before.each, List.forall_mem_singleton.2 ?_⟩
      exact .inr ⟨newDeadline, rfl⟩
    · rw [List.countP_append, hp.unextended hnot]
      exact Nat.le_refl 1
  | decided _ hr _ | timedOut _ hr _ =>
    exact absurd ((isOpen_iff.1 hopen).2.symm.trans hr) Bool.false_ne_true

/-- A time-out is told, and the decision that it forces. -/
theorem Told.timeOut (h : x.Told deadline w) (hopen : x.isOpen = true) (default : Answer)
    (now : Timestamp) :
    (x.timeOut default now).1.Told deadline (w ++ (x.timeOut default now).2.events) := by
  have hid := x.id_struck default
  have hextended : (x.struck default).tracker.timeoutExtended = x.tracker.timeoutExtended := by
    rw [struck, answerAll_eq_hear]
    exact (Tracker.hear_frame _ _).2.2.1
  have hreported : (x.struck default).completionReported = false := (isOpen_iff.1 hopen).2
  obtain ⟨hsession, hevents⟩ := reportCompletion_of_final hreported (isFinal_of_timedOut rfl)
  rw [(x.timeOut_eq default now).1, (x.timeOut_eq default now).2, hsession, hevents]
  obtain ⟨p, q, rfl, hp, hq⟩ := h
  cases hq with
  | waiting _ =>
    rw [← hid, List.append_nil]
    refine ⟨p, [.sessionTimedOut _, .sessionCompleted _ _], rfl, ⟨hid ▸ hp.before, ?_⟩,
      .timedOut rfl rfl (List.forall_mem_nil _)⟩
    exact fun hx => hp.unextended (hextended ▸ hx)
  | decided _ hr _ | timedOut _ hr _ =>
    exact absurd ((isOpen_iff.1 hopen).2.symm.trans hr) Bool.false_ne_true

theorem isIgnored_dispositionTrace (id : SessionId) (verifier : VerifierId) (answer : Answer)
    (disposition : Disposition) :
    ∀ e ∈ (dispositionTrace id verifier answer disposition).events, e.IsIgnored id := by
  intro e he
  cases disposition with
  | accepted role => exact absurd he List.not_mem_nil
  | duplicate role => exact ⟨verifier, .duplicate, .inl rfl, List.mem_singleton.1 he⟩
  | unrecognized => exact ⟨verifier, .unrecognized, .inr rfl, List.mem_singleton.1 he⟩

/-- What a request reports goes on with what has been told. -/
theorem Told.react (h : x.Told deadline w) (hsound : x.Sound) (c : Configuration) (r : Request) :
    (x.react c r).1.Told deadline (w ++ (x.react c r).2.events) := by
  refine x.react_induction c (P := fun e => e.1.Told deadline (w ++ e.2.events)) ?idle ?respond
    ?extend ?integrity ?force ?timeOut r
  case idle => exact (List.append_nil w).symm ▸ h
  case respond =>
    intro v a
    rw [Change.effect]
    rcases x.respond_cases v a with ⟨htimedOut, hsession, hevents⟩ | ⟨htimedOut, hsession, hevents⟩
    · rw [hsession, hevents]
      exact h.late htimedOut ⟨v, rfl⟩
    · rw [hsession, hevents, ← List.append_assoc]
      have hignored := h.ignored htimedOut
        (isIgnored_dispositionTrace x.id v a (x.tracker.answer v a).1)
      -- A counted answer may make a decision, but it does not alter one that has been told.
      have hanswered : (x.answered v a).Told deadline _ :=
        hignored.congr (x.id_answered v a) (x.tracker.timeoutExtended_answer v a) rfl rfl fun hr =>
          (hsound.sameDecision_answer htimedOut (hsound.reported.1 hr) v a).verdict
      exact hanswered.reportCompletion htimedOut
  case extend =>
    intro v ms now
    rw [Change.effect]
    rcases x.extend_cases v ms now with ⟨hsession, hevents⟩ | ⟨hopen, hnot, _, hsession, hevents⟩
    · rw [hsession, hevents, List.append_nil]
      exact h
    · rw [hsession, hevents]
      exact h.extended hopen hnot _
  case integrity =>
    intro a
    rw [Change.effect, recordIntegrity, Trace.ofNotice, List.append_nil]
    exact h.congr rfl rfl rfl rfl fun _ => rfl
  case force =>
    rw [Change.effect]
    rcases x.forceRequired_cases with ⟨-, hsession, hevents⟩ | ⟨-, hopen, -, hsession, hevents⟩
    · rw [hsession, hevents, List.append_nil]
      exact h
    · obtain ⟨htimedOut, hreported⟩ := isOpen_iff.1 hopen
      -- An open session has told of no decision yet.
      have hforced : x.forced.Told deadline w :=
        h.congr rfl rfl rfl rfl fun hr => absurd (hreported.symm.trans hr) Bool.false_ne_true
      rw [hsession, hevents]
      exact hforced.reportCompletion htimedOut
  case timeOut => exact fun now hopen => h.timeOut hopen _ now

end Session

/-! ## 3. Completions -/

/-- A completion is reported once if the verdict is final, and not at all if it is not. -/
theorem Chronicle.count_completed {session : SessionId} {deadline : Timestamp} {verdict : Verdict}
    {w : List Event} (h : Chronicle session deadline verdict w) (v : Verdict) :
    w.count (.sessionCompleted session v) = if verdict.isFinal ∧ v = verdict then 1 else 0 := by
  have hbefore : ∀ p, Event.Prelude session p → p.count (.sessionCompleted session v) = 0 := by
    intro p hp
    rw [List.count_eq_zero]
    intro hin
    rcases hp.each _ hin with ⟨_, _, -, he⟩ | ⟨_, he⟩ <;> cases he
  -- Neither the opening nor what comes after the decision tells of a completion.
  have hlate : ∀ es : List Event,
      (∀ e ∈ es, ∃ verifier reason, e = .responseRejected session verifier reason) →
        es.count (.sessionCompleted session v) = 0 := by
    intro es hes
    rw [List.count_eq_zero]
    intro hin
    obtain ⟨_, _, he⟩ := hes _ hin
    cases he
  -- From its decision on, a session tells of the decision and then of answers only.
  have hdecision : ∀ es : List Event, es.count (.sessionCompleted session v) = 0 →
      verdict.isFinal = true →
        (Event.sessionCompleted session verdict :: es).count (.sessionCompleted session v) =
          if verdict.isFinal ∧ v = verdict then 1 else 0 := by
    intro es hes hfinal
    by_cases hv : v = verdict
    · rw [if_pos ⟨hfinal, hv⟩, hv, List.count_cons_self, ← hv, hes]
    · have hne : Event.sessionCompleted session verdict ≠ .sessionCompleted session v := by
        intro he
        exact hv (Event.sessionCompleted.inj he).2.symm
      rw [if_neg fun h => hv h.2, List.count_cons_of_ne hne, hes]
  cases h with
  | waiting hp =>
    rw [List.count_cons_of_ne (by simp), hbefore _ hp]
    exact (if_neg fun h => Bool.false_ne_true h.1).symm
  | decided hp hfinal hafter =>
    have hnone := hlate _ fun e he => by
      obtain ⟨verifier, reason, -, h⟩ := hafter e he
      exact ⟨verifier, reason, h⟩
    rw [List.count_cons_of_ne (by simp), List.count_append, hbefore _ hp, Nat.zero_add]
    exact hdecision _ hnone hfinal
  | timedOut hp hfinal hafter =>
    have hnone := hlate _ fun e he => by
      obtain ⟨verifier, h⟩ := hafter e he
      exact ⟨verifier, .timedOut, h⟩
    rw [List.count_cons_of_ne (by simp), List.count_append, hbefore _ hp, Nat.zero_add,
      List.count_cons_of_ne (by simp)]
    exact hdecision _ hnone hfinal

/-! ## 4. Lifetimes -/

namespace Lifetime

variable {c : Configuration} {id : SessionId}

theorem told (l : Lifetime c id) : l.session.Told l.deadline l.events := by
  induction l using induction with
  | begun l hl =>
    rw [session, hl, events_begun hl]
    exact Session.told_fresh c id l.roster l.now l.deadline
  | goes_on l r hr ih =>
    rw [session_goOn, events_goOn]
    exact ih.react l.sound c r

theorem chronicle (l : Lifetime c id) : Chronicle id l.deadline l.session.verdict l.events := by
  have h := l.told.chronicle l.sound
  rwa [id_session] at h

/-- What a run reports about a session during a lifetime of it is a chronicle that ends with how the
session stands, so that its completion is reported once if its verdict is final and else not. What
is reported before and after the lifetime, and when anything is drained, has no part in it; to
finish the session adds nothing to it. -/
theorem reported_chronicle (l : Lifetime c id) (rs : List Request) :
    (∃ later, (Service.new c).reported (l.requests ++ rs) =
      (Service.new c).reported l.before ++ l.stretch ++ later) ∧
    (Service.new c).reported (l.requests ++ [.finish id]) =
      (Service.new c).reported l.before ++ l.stretch ∧
    (Service.new c).reported (l.requests ++ rs) =
      ((Service.new c).after ((l.requests ++ rs).filter (· ≠ .drain))).events ∧
    ∃ x, l.service.sessions.get? id = some x ∧
      Chronicle id l.deadline x.verdict l.events ∧
      ∀ v, l.events.count (.sessionCompleted id v) =
        if x.verdict.isFinal ∧ v = x.verdict then 1 else 0 :=
  ⟨⟨_, l.reported_requests_append rs⟩, l.reported_finish, Service.reported_without_drains _ _,
    l.session, l.get?_service, l.chronicle, l.chronicle.count_completed⟩

/-- Another session is followed too, events are drained, and nobody who was asked answers in time.
-/
theorem reported_chronicle_of_silence :
    ∃ l : Lifetime .default ⟨1⟩,
      (l.before = [.start ⟨2⟩ [(⟨7⟩, .required)] ⟨0⟩, .drain] ∧
        l.since = [.respond ⟨1⟩ ⟨9⟩ .allow, .drain, .extend ⟨1⟩ ⟨5⟩ 500 ⟨9900⟩, .expire ⟨20000⟩,
          .respond ⟨1⟩ ⟨5⟩ .allow]) ∧
      l.events =
        [.sessionStarted ⟨1⟩ ⟨10000⟩, .responseRejected ⟨1⟩ ⟨9⟩ .unrecognized,
          .timeoutExtended ⟨1⟩ ⟨10400⟩, .sessionTimedOut ⟨1⟩, .sessionCompleted ⟨1⟩ .rejected,
          .responseRejected ⟨1⟩ ⟨5⟩ .timedOut] ∧
      Chronicle ⟨1⟩ ⟨10000⟩ .rejected l.events := by
  refine ⟨⟨_, [(⟨5⟩, .required)], ⟨0⟩, ⟨10000⟩, _, by decide +kernel, by decide⟩, ⟨rfl, rfl⟩,
    by decide +kernel, ?_⟩
  -- The lifetime is hidden so that the statement is not unfolded with it.
  generalize hl : (Lifetime.mk _ _ _ _ _ _ _ : Lifetime .default ⟨1⟩) = l
  obtain ⟨-, -, -, x, hx, h, -⟩ := l.reported_chronicle []
  have hverdict : l.service.verdict ⟨1⟩ = .ok .rejected := by
    subst hl
    decide +kernel
  rw [Service.verdict, Service.view, hx] at hverdict
  rw [← Except.ok.inj hverdict]
  subst hl
  exact h

end Lifetime

end PackageVerification
