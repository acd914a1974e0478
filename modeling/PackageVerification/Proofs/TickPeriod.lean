import PackageVerification.Proofs.StepFaults
import PackageVerification.Proofs.Ticks

/-!
# The period of the ticker does not decide

A deadline strikes at the first tick that is not before it. As long as no step of a waiting session
comes in between, where the ticks are does not matter: every session takes the course that it would
take if the clock were looked at right before each of its steps. Main statements: `ending_cases` and
`ending_eq_of_avoidsGaps`.
-/

namespace PackageVerification

namespace Replay

variable {c : Configuration} {r : Replay} {script : Script} {a : Stage c}

/-! ## 1. The course of a session -/

def advance (r : Replay) (c : Configuration) (x : Session) (p : ScheduledStep) : Session :=
  if p.session = x.id then
    ((x.lapse c (r.instant p.step.after.toNat)).react c (r.request p)).1
  else x

def course (r : Replay) (c : Configuration) (x : Session) (ps : List ScheduledStep) : Session :=
  ps.foldl (r.advance c) x

/-- A session after the last tick that has passed, if one has. -/
def atTick (r : Replay) (c : Configuration) (x : Session) : (tick : Nat) → Session
  | 0 => x
  | n + 1 => x.lapse c (r.instant (r.tickOffset n))

theorem id_advance (r : Replay) (c : Configuration) (x : Session) (p : ScheduledStep) :
    (r.advance c x p).id = x.id := by
  rw [advance]
  split_ifs
  · exact ((x.lapse c _).keeps_react c _).1.trans (x.keeps_react c _).1
  · rfl

theorem id_course (r : Replay) (c : Configuration) (x : Session) (ps : List ScheduledStep) :
    (r.course c x ps).id = x.id := by
  induction ps generalizing x with
  | nil => rfl
  | cons p ps ih => exact (ih _).trans (r.id_advance c x p)

theorem instant_mono {m n : Nat} (h : m ≤ n) : r.instant m ≤ r.instant n := by
  rw [Timestamp.le_iff, toNat_instant, toNat_instant]
  omega

theorem react_request_of_ne {x : Session} {p : ScheduledStep} (h : p.session ≠ x.id) :
    (x.react c (r.request p)).1 = x := by
  rw [request]
  cases p.step.action with
  | respond answer => exact congrArg Prod.fst (if_neg h)
  | extend ms => exact congrArg Prod.fst (if_neg fun h' => h h'.1)

/-- An offset is between a deadline and the tick at which it strikes. -/
def InGap (r : Replay) (deadline : Timestamp) (offset : Nat) : Prop :=
  deadline.millis.toNat ≤ r.clock.millis.toNat + offset ∧ offset ≤ r.tickFor deadline

/-- No step of a session that waits comes between its deadline and the tick at which it strikes. -/
def AvoidsGaps (r : Replay) (c : Configuration) (script : Script) : Prop :=
  ∀ (a : Stage c) p x,
    StateTransition.Reaches (r.turn (script.sessions.map (·.id))) (r.first c script) a →
    a.conclusion = none → r.upcoming? a = some p →
    a.service.sessions.get? p.session = some x → x.verdict = .pending →
    ¬r.InGap x.deadline p.step.after.toNat

/-- Sessions are begun only at the instant at which the replay starts. -/
theorem now_of_start_mem {ids : List SessionId} {id : SessionId} {roster : Roster}
    {now : Timestamp} (hreach : StateTransition.Reaches (r.turn ids) (r.first c script) a)
    (hq : .start id roster now ∈ a.requests) : now = r.clock := by
  induction hreach with
  | refl =>
    -- Sessions are started only before the first tick, all of them at the clock's own time.
    obtain ⟨x, -, hx⟩ := List.mem_flatMap.1 (Service.mem_of_mem_untilFault hq)
    rw [opening] at hx
    cases hintegrity : x.integrity <;> simp_all
  | tail _ hturn ih =>
    obtain ⟨-, ⟨p, ps, -, -, rfl⟩ | ⟨-, ⟨-, -, rfl⟩ | ⟨-, rfl⟩⟩⟩ := turn_cases hturn
    · rcases List.mem_append.1 hq with hq | hq
      · exact ih hq
      · exact absurd (List.mem_singleton.1 hq).symm (r.request_ne_start p _ _ _)
    · rcases List.mem_append.1 hq with hq | hq
      · rcases List.mem_append.1 hq with hq | hq
        · exact ih hq
        · simp at hq
      · obtain ⟨id', -, hid⟩ := List.mem_map.1 (Service.mem_of_mem_untilFault hq)
        cases hid
    · rcases List.mem_append.1 hq with hq | hq
      · exact ih hq
      · simp at hq

/-- No step is in a gap if all of them come before the deadline that the sessions begin with. -/
theorem avoidsGaps_of_timely
    (htimely : ∀ x ∈ script.sessions, ∀ step ∈ x.steps, r.clock.millis.toNat + step.after.toNat <
      (r.clock.later c.verificationTimeout).millis.toNat) : r.AvoidsGaps c script := by
  intro a p x hreach ha hupcoming hx _ hgap
  have hp := (underway_of_reaches hreach ha).pending.subset (mem_pending_of_upcoming? hupcoming)
  obtain ⟨y, hy, -, hstep⟩ := mem_schedule_iff.1 hp
  obtain ⟨l, hl, rfl⟩ := Lifetime.exists_of_get? hx
  have hopening : l.opening ∈ a.requests := hl ▸ List.mem_append_right _ List.mem_cons_self
  have hdeadline := Timestamp.le_iff.1 l.deadline_le_session
  rw [Lifetime.first, now_of_start_mem hreach hopening] at hdeadline
  exact Nat.not_lt_of_le hgap.1 ((htimely y hy p.step hstep).trans_le hdeadline)

/-- A deadline that lies ahead of one tick strikes at the next or later, so that outside of its gap
it lies ahead of whatever comes before the next tick. -/
theorem lt_deadline_of_not_inGap {d : Timestamp} {n offset : Nat}
    (hahead : r.clock.millis.toNat + r.tickOffset n < d.millis.toNat)
    (hbefore : offset < r.tickOffset (n + 1)) (hgap : ¬r.InGap d offset) :
    r.clock.millis.toNat + offset < d.millis.toNat := by
  by_contra hstruck
  refine hgap ⟨Nat.le_of_not_lt hstruck, ?_⟩
  by_contra hlt
  have hle := tickFor_le_of_lt ((Nat.lt_of_not_le hlt).trans hbefore)
  exact Nat.not_lt_of_le (tickFor_le_iff.1 hle) hahead

theorem lapse_instant_of_lt {x : Session} {offset : Nat}
    (h : r.clock.millis.toNat + offset < x.deadline.millis.toNat) :
    x.lapse c (r.instant offset) = x := by
  refine Session.lapse_of_not_due ?_
  by_contra hdue
  rw [Bool.not_eq_false, isDue_instant_iff] at hdue
  exact Nat.not_lt_of_le hdue.2 h

/-- A step that does not come between a deadline and its tick finds the session as the look at the
clock would leave it. -/
theorem react_atTick {x : Session} {p : ScheduledStep} {n : Nat}
    (hid : p.session = x.id) (hlate : r.tickOffset n ≤ p.step.after.toNat)
    (hbefore : p.step.after.toNat < r.tickOffset (n + 1))
    (hgap : (r.atTick c x (n + 1)).isOpen = true →
      ¬r.InGap (r.atTick c x (n + 1)).deadline p.step.after.toNat) :
    ((r.atTick c x (n + 1)).react c (r.request p)).1 = r.atTick c (r.advance c x p) (n + 1) := by
  let tick := r.instant (r.tickOffset n)
  have hle : tick ≤ r.instant p.step.after.toNat := instant_mono hlate
  rw [advance, if_pos hid]
  show ((x.lapse c tick).react c _).1 = Session.lapse c ((x.lapse c _).react c _).1 tick
  by_cases hclosed : (x.lapse c tick).isOpen = false
  · -- The session is over by the last tick, and stays so.
    rw [← Session.lapse_eq_of_closed hle hclosed,
      Session.lapse_of_closed (Session.isOpen_react_of_closed hclosed _)]
  · -- The deadline has not struck by the last tick, so it does not before the step.
    have hnot : ¬x.isDue tick = true := fun hdue => hclosed (Session.isOpen_lapse_of_due hdue)
    have hsame : x.lapse c tick = x := Session.lapse_of_not_due (by simpa using hnot)
    rw [hsame, Bool.not_eq_false] at hclosed
    have hgap := hgap (show (x.lapse c tick).isOpen = true by rw [hsame, hclosed])
    rw [show r.atTick c x (n + 1) = x from hsame] at hgap
    have hahead : r.clock.millis.toNat + r.tickOffset n < x.deadline.millis.toNat := by
      by_contra hstruck
      exact hnot (isDue_instant_iff.2 ⟨hclosed, Nat.le_of_not_lt hstruck⟩)
    have hstep := lapse_instant_of_lt (c := c) (lt_deadline_of_not_inGap hahead hbefore hgap)
    have hdeadline := Timestamp.le_iff.1 (x.deadline_le_react c (r.request p))
    rw [hsame, hstep]
    exact (lapse_instant_of_lt (hahead.trans_le hdeadline)).symm

/-! ## 2. A replay and the course of its sessions -/

structure OnCourse (r : Replay) (script : Script) (a : Stage c) (done : List ScheduledStep) :
    Prop where
  schedule : schedule script = done ++ a.pending
  faultless : ∀ p ∈ done, excess? c p = none
  session : ∀ id, a.service.sessions.get? id =
    ((r.first c script).service.sessions.get? id).map fun x =>
      r.atTick c (r.course c x done) a.tick

theorem onCourse_first (r : Replay) (c : Configuration) (script : Script) :
    OnCourse r script (r.first c script) [] where
  schedule := rfl
  faultless := List.forall_mem_nil _
  session _ := Option.map_id'.symm

/-- A request that is made on the way acts on every session alone. -/
theorem get?_handle_service (a : Stage c) {q : Request}
    (hstart : ∀ id roster now, q ≠ .start id roster now) (hfinish : ∀ id, q ≠ .finish id)
    (id : SessionId) :
    (a.service.handle q).service.sessions.get? id =
      (a.service.sessions.get? id).map fun x => (x.react c q).1 := by
  rw [a.service.sessions_handle hstart hfinish, SessionTable.get?_map, configuration_service]

variable {done : List ScheduledStep} {p : ScheduledStep} {ps : List ScheduledStep}

theorem OnCourse.pass (h : OnCourse r script a done) : OnCourse r script (r.pass a) done where
  schedule := h.schedule
  faultless := h.faultless
  session id := by
    rw [get?_pass, get?_handle_service (q := .expire _) a (by simp) (by simp), h.session,
      Option.map_map]
    congr 1
    funext x
    show ((r.atTick c (r.course c x done) a.tick).lapse c _) = r.atTick c _ (a.tick + 1)
    cases a.tick with
    | zero => rfl
    | succ n => exact Session.lapse_lapse (instant_mono (tickOffset_le_iff.2 (Nat.le_succ n)))

/-- A step does to a session that is on its course what it does on it. -/
theorem react_upcoming {x : Session} {id : SessionId} (hunderway : Underway r script a)
    (hgaps : r.AvoidsGaps c script)
    (hreach : StateTransition.Reaches (r.turn (script.sessions.map (·.id))) (r.first c script) a)
    (ha : a.conclusion = none) (hpending : a.pending = p :: ps)
    (hbefore : p.step.after.toNat < r.tickOffset a.tick) (hid : x.id = id)
    (hx : a.service.sessions.get? id = some (r.atTick c x a.tick)) :
    ((r.atTick c x a.tick).react c (r.request p)).1 = r.atTick c (r.advance c x p) a.tick := by
  by_cases hp : p.session = id
  · subst hp
    -- A tick has passed, as the first one comes before every step.
    obtain ⟨n, hn⟩ : ∃ n, a.tick = n + 1 := by
      refine Nat.exists_eq_add_one.2 (Nat.pos_of_ne_zero fun hzero => ?_)
      rw [hzero, tickOffset, Nat.zero_mul] at hbefore
      exact Nat.not_lt_zero _ hbefore
    have hlate := hunderway.late n hn p (hpending ▸ List.mem_cons_self)
    have hwaits := (Service.sound_of_get? hx).isOpen_iff
    have hgap := hgaps a p _ hreach ha (upcoming?_of_before hpending hbefore) hx
    rw [hn] at hbefore hwaits hgap ⊢
    exact react_atTick hid.symm hlate hbefore fun hopen => hgap (hwaits.1 hopen)
  · rw [advance, if_neg (by rwa [hid])]
    exact react_request_of_ne (by rwa [SessionTable.id_of_get? hx])

theorem OnCourse.carryOut (h : OnCourse r script a done) (hunderway : Underway r script a)
    (hgaps : r.AvoidsGaps c script)
    (hreach : StateTransition.Reaches (r.turn (script.sessions.map (·.id))) (r.first c script) a)
    (ha : a.conclusion = none) (hpending : a.pending = p :: ps)
    (hbefore : p.step.after.toNat < r.tickOffset a.tick) (hok : excess? c p = none) :
    OnCourse r script (r.carryOut a p) (done ++ [p]) where
  schedule := by
    rw [h.schedule, hpending, List.append_assoc]
    show _ = done ++ ([p] ++ a.pending.tail)
    rw [hpending]
    rfl
  faultless q hq := by
    rcases List.mem_append.1 hq with hq | hq
    · exact h.faultless q hq
    · rw [List.mem_singleton.1 hq]
      exact hok
  session id := by
    have hsession := h.session id
    rw [service_carryOut, get?_handle_service a (r.request_ne_start p) (r.request_ne_finish p),
      hsession]
    cases hx : (r.first c script).service.sessions.get? id with
    | none => rfl
    | some x =>
      rw [hx, Option.map_some] at hsession
      have hid := (r.id_course c x done).trans (SessionTable.id_of_get? hx)
      have hcourse : r.course c x (done ++ [p]) = r.advance c (r.course c x done) p := by
        rw [course, List.foldl_append]
        rfl
      rw [Option.map_some, Option.map_some, Option.map_some, hcourse,
        react_upcoming hunderway hgaps hreach ha hpending hbefore hid hsession]
      rfl

/-- As long as no step comes between a deadline and its tick, every session is on its course. -/
theorem exists_onCourse (hgaps : r.AvoidsGaps c script)
    (hreach : StateTransition.Reaches (r.turn (script.sessions.map (·.id))) (r.first c script) a)
    (ha : a.conclusion = none) : ∃ done, OnCourse r script a done := by
  induction hreach with
  | refl => exact ⟨[], onCourse_first r c script⟩
  | tail hreach hturn ih =>
    obtain ⟨hbefore, ⟨p, ps, hpending, hstep, rfl⟩ | ⟨-, ⟨-, -, rfl⟩ | ⟨-, rfl⟩⟩⟩ :=
      turn_cases hturn
    · obtain ⟨done, hcourse⟩ := ih hbefore
      have hunderway := underway_of_reaches hreach hbefore
      have hok := hunderway.excess?_eq_none hpending ha
      exact ⟨_, hcourse.carryOut hunderway hgaps hreach hbefore hpending hstep hok⟩
    · cases ha
    · obtain ⟨done, hcourse⟩ := ih hbefore
      exact ⟨done, hcourse.pass⟩

/-- With the last tick nobody waits, so that no later look at the clock matters. -/
theorem OnCourse.get?_of_last (h : OnCourse r script a done)
    (hdeadline : (r.pass a).service.nextDeadline = none) (id : SessionId) :
    (r.pass a).service.sessions.get? id =
      ((r.first c script).service.sessions.get? id).map fun x =>
        (r.course c x done).lapse c .last := by
  have hsession := h.pass.session id
  rw [hsession]
  cases hx : (r.first c script).service.sessions.get? id with
  | none => rw [Option.map_none, Option.map_none]
  | some x =>
    rw [hx, Option.map_some] at hsession
    have hid := SessionTable.id_of_get? hsession
    have hclosed := SessionTable.nextDeadline_eq_none_iff.1 hdeadline _
      (SessionTable.mem_toList_iff.2 (hid.symm ▸ hsession))
    exact congrArg some (Session.lapse_eq_of_closed (Timestamp.le_last _) hclosed)

/-- A replay fails with the first step that asks for too much time; if there is none every session
has taken its course to the end. -/
theorem ending_cases (hgaps : r.AvoidsGaps c script)
    (hstarted : (r.startAll (.new c) script.sessions).result = .ok ()) :
    let ending := (r.run (.new c) script).ending
    (∃ fault, (schedule script).findSome? (excess? c) = some fault ∧ ending = .error fault) ∨
      (schedule script).findSome? (excess? c) = none ∧
        ∃ s : Service, ending = (finishAll s (script.sessions.map (·.id))).result ∧
          ∀ id, s.sessions.get? id =
            ((r.startAll (.new c) script.sessions).service.sessions.get? id).map fun x =>
              (r.course c x (schedule script)).lapse c .last := by
  intro ending
  refine (ending_of_started hstarted).imp_right ?_
  rintro ⟨hnone, a, hreach, ha, hpending, hdeadline, hending⟩
  -- No step is left at the end, so every session has had the whole schedule.
  obtain ⟨done, hcourse⟩ := exists_onCourse hgaps hreach ha
  obtain rfl : done = schedule script := by
    rw [hcourse.schedule, hpending, List.append_nil]
  rw [← service_first]
  exact ⟨hnone, (r.pass a).service, hending, hcourse.get?_of_last hdeadline⟩

theorem startAll_eq_of_clock {r r' : Replay} (h : r.clock = r'.clock) (s : Service)
    (xs : List ScriptedSession) : r.startAll s xs = r'.startAll s xs := by
  induction xs generalizing s with
  | nil => rfl
  | cons x xs ih => simp only [startAll, h, ih]

theorem course_eq_of_clock {r r' : Replay} (h : r.clock = r'.clock) (c : Configuration)
    (x : Session) (ps : List ScheduledStep) : r.course c x ps = r'.course c x ps := by
  have hadvance : r.advance c = r'.advance c := by
    funext x p
    simp only [advance, request, instant, h]
  rw [course, course, hadvance]

/-- Two replays of a script that start at one instant come to the same, whatever the periods of
their tickers are: if in neither of them a step of a session that waits comes between the deadline
of the session and the tick at which it strikes, both give the same summaries or fail with the same
fault. -/
theorem ending_eq_of_avoidsGaps {r r' : Replay} {c : Configuration} {script : Script}
    (hclock : r.clock = r'.clock) (h : r.AvoidsGaps c script) (h' : r'.AvoidsGaps c script) :
    (r.run (.new c) script).ending = (r'.run (.new c) script).ending := by
  have hstart := startAll_eq_of_clock hclock (.new c) script.sessions
  cases hstarted : (r.startAll (.new c) script.sessions).result with
  | error fault =>
    rw [ending_of_not_started hstarted, ending_of_not_started (hstart ▸ hstarted)]
  | ok _ =>
    -- The first fault of the schedule does not depend on the period, so both runs end in it or
    -- neither.
    rcases ending_cases h hstarted with ⟨fault, hfirst, hending⟩ | ⟨hnone, s, hending, hs⟩
    · rcases ending_cases h' (hstart ▸ hstarted) with ⟨fault', hfirst', hending'⟩ | ⟨hnone, -⟩
      · rw [hending, hending', Option.some.inj (hfirst.symm.trans hfirst')]
      · rw [hfirst] at hnone
        cases hnone
    · rcases ending_cases h' (hstart ▸ hstarted) with ⟨fault', hfirst, -⟩ | ⟨-, s', hending', hs'⟩
      · rw [hnone] at hfirst
        cases hfirst
      · rw [hending, hending']
        refine finishAll_congr fun id => ?_
        rw [hs, hs', hstart]
        simp only [course_eq_of_clock hclock]

/-- Whether the clock ticks every seven milliseconds or every ten, a session that asks for more time
is allowed and one that waits for an optional verifier is rejected. -/
theorem ending_eq_of_avoidsGaps_of_two_periods :
    let c : Configuration := { Configuration.default with verificationTimeout := 25 }
    let script : Script := ⟨[
      ⟨⟨1⟩, [(⟨5⟩, .required)], none,
        [⟨⟨5⟩, 12, .extend 40⟩, ⟨⟨5⟩, 20, .respond .allow⟩]⟩,
      ⟨⟨2⟩, [(⟨5⟩, .required), (⟨9⟩, .optional)], none, [⟨⟨5⟩, 22, .respond .allow⟩]⟩]⟩
    let r : Replay := ⟨⟨1000⟩, 7⟩
    let r' : Replay := ⟨⟨1000⟩, 10⟩
    r.AvoidsGaps c script ∧ r'.AvoidsGaps c script ∧
      (r.run (.new c) script).ending = (r'.run (.new c) script).ending ∧
      (r'.run (.new c) script).ending.map (·.map (·.verdict)) = .ok [.allowed, .rejected] := by
  intro c script r r'
  have h : r.AvoidsGaps c script := avoidsGaps_of_timely (by decide)
  have h' : r'.AvoidsGaps c script := avoidsGaps_of_timely (by decide)
  have hschedule : schedule script =
      [⟨⟨1⟩, ⟨5⟩, 12, .extend 40⟩, ⟨⟨1⟩, ⟨5⟩, 20, .respond .allow⟩,
        ⟨⟨2⟩, ⟨5⟩, 22, .respond .allow⟩] := List.mergeSort_of_pairwise (by decide)
  refine ⟨h, h', ending_eq_of_avoidsGaps rfl h h', ?_⟩
  simp only [run, hschedule]
  decide +kernel

end Replay

end PackageVerification
