import PackageVerification.Proofs.FinalVerdict
import PackageVerification.Proofs.History
import PackageVerification.Proofs.Ticks

/-!
# What a time-out decides

When the time is up the default answer stands for each silent required verifier, and for nobody
else: the pool and the optional seat are left as they are. Main statements: `Lifetime.timesOut`, how
a session stands that has timed out; `handleAll_withDefault`, a waiver by default is an approval;
`expire_times_out`, a look at the clock from end to end.
-/

namespace PackageVerification

/-! ## 1. Answers of required verifiers -/

namespace Tracker

/-- A required verifier that waives nothing touches the required axis alone. -/
theorem answer_frame_of_required {t : Tracker} {v : VerifierId} {a : Answer}
    (hv : v ∈ t.required.members) (ha : a ≠ .allowWithoutSufficient) :
    (t.answer v a).2.required.members = t.required.members ∧
      (t.answer v a).2.optional = t.optional ∧ (t.answer v a).2.sufficient = t.sufficient := by
  rw [answer, if_pos hv]
  split_ifs
  · exact ⟨rfl, rfl, if_neg ha⟩
  · exact ⟨rfl, rfl, rfl⟩

theorem hear_frame_of_required {t : Tracker} {xs : Answers}
    (h : ∀ x ∈ xs, x.1 ∈ t.required.members ∧ x.2 ≠ .allowWithoutSufficient) :
    (t.hear xs).required.members = t.required.members ∧ (t.hear xs).optional = t.optional ∧
      (t.hear xs).sufficient = t.sufficient := by
  induction xs generalizing t with
  | nil => exact ⟨rfl, rfl, rfl⟩
  | cons x xs ih =>
    obtain ⟨⟨hmember, hwaives⟩, hrest⟩ := List.forall_mem_cons.1 h
    obtain ⟨hmembers, hoptional, hsufficient⟩ := answer_frame_of_required hmember hwaives
    rw [← hmembers] at hrest
    obtain ⟨hmembers', hoptional', hsufficient'⟩ := ih hrest
    exact ⟨hmembers'.trans hmembers, hoptional'.trans hoptional, hsufficient'.trans hsufficient⟩

end Tracker

namespace RequiredAxis.Heard

variable {a : RequiredAxis} {roster : Roster} {forced : Prop} {xs : Answers}

theorem status_eq_absent_iff (h : a.Heard roster forced xs) :
    a.status = .absent ↔ roster.ids .required = [] := by
  rw [← h.isEmpty_members, status]
  cases a.members.isEmpty <;> cases a.complete <;> cases a.passed <;> decide

/-- Once everybody has answered the axis passes if it was forced, or if nobody has refused. -/
theorem status_eq_passed_iff (h : a.Heard roster forced xs) (hne : roster.ids .required ≠ [])
    (hheard : roster.RequiredHeard xs) :
    a.status = .passed ↔
      forced ∨ ∀ x ∈ xs, x.1 ∈ roster.ids .required → x.2.isAffirmative = true := by
  rw [← h.passed hne, status, (h.complete hne).2 hheard, if_neg (mt h.isEmpty_members.1 hne)]
  cases a.passed <;> decide

end RequiredAxis.Heard

/-! ## 2. How a session stands that has timed out -/

namespace Lifetime

variable {c : Configuration} {id : SessionId} {l : Lifetime c id} {ds : Answers}

/-- With a time-out everybody who is required has answered. -/
theorem Silent.requiredHeard (h : l.Silent ds) (htimedOut : l.TimedOut) :
    l.roster.RequiredHeard (l.answers ++ ds) := by
  intro v hv
  rw [Answers.ids_append, List.mem_append, or_iff_not_imp_left]
  exact fun hsilent => (h.ids v).2 ⟨htimedOut, hv, hsilent⟩

/-- Nobody refuses if nobody has refused and those who are silent, if any, are taken to approve. -/
theorem Silent.affirmative_iff (h : l.Silent ds) (htimedOut : l.TimedOut) :
    (∀ x ∈ l.answers ++ ds, x.1 ∈ l.roster.ids .required → x.2.isAffirmative = true) ↔
      (∀ x ∈ l.answers, x.1 ∈ l.roster.ids .required → x.2.isAffirmative = true) ∧
        (l.roster.RequiredHeard l.answers ∨ c.silentAnswer.isAffirmative = true) := by
  simp only [List.mem_append, or_imp, forall_and]
  refine and_congr_right fun _ => ⟨fun hall => ?_, ?_⟩
  · rw [or_iff_not_imp_left]
    intro hnot
    obtain ⟨v, hv, hsilent⟩ : ∃ v ∈ l.roster.ids .required, v ∉ l.answers.ids := by
      simpa [Roster.RequiredHeard] using hnot
    obtain ⟨d, hd, rfl⟩ := Answers.mem_ids.1 ((h.ids v).2 ⟨htimedOut, hv, hsilent⟩)
    rw [← h.default d hd]
    exact hall d hd hv
  · rintro (hheard | haffirmative) d hd hv
    · have hsilent := ((h.ids d.1).1 (Answers.mem_ids.2 ⟨d, hd, rfl⟩)).2.2
      exact absurd (hheard d.1 hv) hsilent
    · rw [h.default d hd]
      exact haffirmative

/-- Whoever is awaited besides the required verifiers goes on to be, and so nothing is allowed. -/
theorem Silent.heard_of_allowed (h : l.Silent ds) {x : Session} {forced : Prop}
    (hheard : x.tracker.Heard l.roster forced (l.answers ++ ds)) (hallowed : x.verdict = .allowed) :
    l.roster.OptionalHeard l.answers ∧ l.roster.PoolSettled l.answers := by
  rw [Session.verdict_eq_allowed_iff, hheard.verdict_eq_allowed_iff, h.optionalAllows_iff,
    h.poolAllows_iff] at hallowed
  obtain ⟨-, hoptional, hpool⟩ := hallowed
  refine ⟨fun v hv => ?_, SufficientPool.Heard.settled_of_allows hpool⟩
  obtain ⟨hrequired, hanswer⟩ := hoptional v hv
  exact ⟨hrequired, Answers.mem_ids.2 ⟨_, hanswer, rfl⟩⟩

/-- The session as a time-out leaves it. -/
structure TimesOut (l : Lifetime c id) (y : Session) : Prop where
  timedOut : y.timedOut = true
  final : y.verdict.isFinal = true
  unanswered : y.tracker.required.unanswered.isEmpty = true
  /-- Where nobody is required there is nothing to judge. -/
  absent : y.tracker.axes.required = .absent ↔ l.roster.ids .required = []
  /-- The required axis passes unless somebody on it has refused and was not overruled, or is silent
  and is taken to refuse. -/
  passed : l.roster.ids .required ≠ [] →
    (y.tracker.axes.required = .passed ↔
      (l.Forced ∨ ∀ x ∈ l.answers, x.1 ∈ l.roster.ids .required → x.2.isAffirmative = true) ∧
      (l.roster.RequiredHeard l.answers ∨
        c.defaultAnswer = .allow ∨ c.defaultAnswer = .allowWithoutSufficient))
  members : y.tracker.required.members = l.session.tracker.required.members
  optional : y.tracker.optional = l.session.tracker.optional
  sufficient : y.tracker.sufficient = l.session.tracker.sufficient
  integrityResult : y.tracker.integrityResult = l.session.tracker.integrityResult
  policy : y.tracker.policy = l.session.tracker.policy
  clock : l.session.SameClock y
  /-- Where the optional verifier is silent or the pool is not settled the session is rejected. -/
  rejected : ¬l.roster.OptionalHeard l.answers ∨ ¬l.roster.PoolSettled l.answers →
    y.verdict = .rejected

theorem tracker_lapse {now : Timestamp} (hdue : l.session.isDue now = true) :
    (l.session.lapse c now).tracker =
      l.session.tracker.hear
        (l.session.tracker.required.unanswered.toList.map (·, c.silentAnswer)) := by
  rw [Session.lapse_of_due hdue, Session.tracker_reportCompletion, Session.struck,
    Session.answerAll_eq_hear]

/-- What is counted for the silent verifiers touches the required axis alone. -/
theorem frame_lapse {now : Timestamp} (hdue : l.session.isDue now = true) :
    (l.session.lapse c now).tracker.required.members = l.session.tracker.required.members ∧
      (l.session.lapse c now).tracker.optional = l.session.tracker.optional ∧
      (l.session.lapse c now).tracker.sufficient = l.session.tracker.sufficient := by
  have hheard := l.heard_of_isOpen ((Bool.and_eq_true _ _).mp hdue).1
  rw [tracker_lapse hdue]
  refine Tracker.hear_frame_of_required fun d hd => ?_
  obtain ⟨v, hv, rfl⟩ := List.mem_map.1 hd
  have hv := ((hheard.required.unanswered v).1 hv).1
  exact ⟨(hheard.required.members v).2 hv, c.silentAnswer_ne⟩

/-- How a session stands that a look at the clock has timed out. -/
theorem timesOut (l : Lifetime c id) {now : Timestamp} (hdue : l.session.isDue now = true) :
    l.TimesOut (l.session.lapse c now) := by
  have hr : Request.expire now ≠ .finish id := by simp
  -- What a lifetime says of its session holds after one more request, the time-out itself.
  obtain ⟨htimedOut, ds, hsilent, hheard⟩ := (l.goOn _ hr).account
  have hsession : (l.goOn _ hr).session = l.session.lapse c now := l.session_goOn hr
  have hanswers : (l.goOn _ hr).answers = l.answers := l.answers_goOn_of_no_answer hr rfl
  have hforced : (l.goOn _ hr).Forced = l.Forced := by simp [forced_goOn, Exchange.forces]
  have hroster : (l.goOn _ hr).roster = l.roster := rfl
  have hstruck : (l.session.lapse c now).timedOut = true := by
    rw [Session.lapse_of_due hdue, Session.timedOut_reportCompletion, Session.struck]
  have hall := hsilent.requiredHeard (htimedOut.1 (hsession ▸ hstruck))
  have haffirmative := hsilent.affirmative_iff (htimedOut.1 (hsession ▸ hstruck))
  have hallowed := hsilent.heard_of_allowed (hsession ▸ hheard)
  rw [hsession, hforced] at hheard
  rw [hanswers, hroster] at hheard hall haffirmative hallowed
  obtain ⟨hmembers, hoptional, hsufficient⟩ := frame_lapse hdue
  obtain ⟨-, hpolicy, -, hintegrity⟩ := l.session.tracker.hear_frame
    (l.session.tracker.required.unanswered.toList.map (·, c.silentAnswer))
  rw [← tracker_lapse hdue] at hpolicy hintegrity
  have hfinal := Session.isFinal_of_timedOut hstruck
  refine
    { timedOut := hstruck
      final := hfinal
      unanswered := hheard.required.isEmpty_unanswered.2 hall
      absent := hheard.required.status_eq_absent_iff
      passed := fun hne => ?passed
      members := hmembers
      optional := hoptional
      sufficient := hsufficient
      integrityResult := hintegrity
      policy := hpolicy
      clock := Session.sameClock_react (q := .expire now) (by simp)
      rejected := fun hopen => ?rejected }
  case passed =>
    -- The axis is forced only when everybody has answered.
    have hopen : l.session.isOpen = true := ((Bool.and_eq_true _ _).mp hdue).1
    have hanswered := (l.heard_of_isOpen hopen).required.answered_of_forced
    show (l.session.lapse c now).tracker.required.status = .passed ↔ _
    rw [hheard.required.status_eq_passed_iff hne hall, haffirmative, ← c.isAffirmative_silentAnswer,
      or_and_left]
    exact and_congr_right' (or_iff_right_of_imp fun h => .inl (hanswered h))
  case rejected =>
    refine (Verdict.isFinal_iff.1 hfinal).resolve_left fun h => ?_
    obtain ⟨hoptional, hpool⟩ := hallowed h
    exact hopen.elim (absurd hoptional) (absurd hpool)

end Lifetime

/-! ## 3. A waiver by default -/

namespace Service

def withDefault (s : Service) (a : Answer) : Service :=
  { s with configuration := { s.configuration with defaultAnswer := a } }

variable {s : Service} {a : Answer}

theorem change_withDefault {α : Type} (s : Service) (a : Answer) (id : SessionId)
    (operation : Session → Change (Except Fault α)) :
    (s.withDefault a).change id operation =
      ⟨(s.change id operation).result, (s.change id operation).service.withDefault a,
        (s.change id operation).notices⟩ := by
  have hsessions : (s.withDefault a).sessions = s.sessions := rfl
  rw [change, change, hsessions]
  cases s.sessions.get? id <;> rfl

theorem start_withDefault (s : Service) (a : Answer) (id : SessionId) (roster : Roster)
    (now : Timestamp) :
    (s.withDefault a).start id roster now =
      ⟨(s.start id roster now).result, (s.start id roster now).service.withDefault a,
        (s.start id roster now).notices⟩ := by
  have henroll : (s.withDefault a).enroll id roster = s.enroll id roster := rfl
  have hsessions : (s.withDefault a).sessions = s.sessions := rfl
  rw [start, start, henroll, hsessions]
  split_ifs <;> rfl

/-- Another default answer changes nothing but the setting if it is counted as the same. -/
theorem handle_withDefault (h : (s.withDefault a).defaultAnswer = s.defaultAnswer) (r : Request) :
    (s.withDefault a).handle r =
      ⟨(s.handle r).result, (s.handle r).service.withDefault a, (s.handle r).notices⟩ := by
  have hsessions : (s.withDefault a).sessions = s.sessions := rfl
  cases r with
  | start id roster now =>
    rw [handle, start_withDefault]
    rfl
  | respond id v answer =>
    rw [handle, respond, change_withDefault]
    rfl
  | extend id v ms now =>
    have hlimit : (s.withDefault a).configuration.maxExtension = s.configuration.maxExtension := rfl
    rw [handle, handle, extend, extend, hlimit]
    split_ifs
    · rfl
    · rw [change_withDefault]
      rfl
  | recordIntegrity id answer =>
    rw [handle, recordIntegrity, change_withDefault]
    rfl
  | forceRequired id =>
    rw [handle, forceRequired, change_withDefault]
    rfl
  | expire now =>
    -- The default is read only here, as the answer given for those who were silent.
    simp only [handle, Outcome.map, expire, h, hsessions]
    rfl
  | finish id =>
    rw [handle, handle, finish, finish, hsessions]
    cases s.sessions.get? id <;> rfl
  | drain => rfl

/-- A service whose default answer is a waiver does, whatever it is asked, what one does whose
default answer is an approval. -/
theorem handleAll_withDefault (h : (s.withDefault a).defaultAnswer = s.defaultAnswer)
    (rs : List Request) :
    (s.withDefault a).handleAll rs =
      ((s.handleAll rs).1, (s.handleAll rs).2.1.withDefault a, (s.handleAll rs).2.2) := by
  induction rs generalizing s with
  | nil => rfl
  | cons r rs ih =>
    -- No request changes the configuration, so the two defaults still agree after one.
    have hnext : ((s.handle r).service.withDefault a).defaultAnswer =
        (s.handle r).service.defaultAnswer := by
      have hconfiguration := s.configuration_handle r
      rw [defaultAnswer, defaultAnswer, withDefault, hconfiguration]
      exact h
    rw [handleAll, handle_withDefault h]
    simp only [ih hnext]
    rfl

end Service

/-! ## 4. A look at the clock -/

/-- A look at the clock, after any run and under any configuration. The sessions time out, in the
order of their ids, that were undecided and whose deadline has struck; each of them is left as
`TimesOut` says, and every other one as it was. A default answer that would waive the pool is
counted as an approval, and no run of a service tells the two apart. -/
theorem expire_times_out (c : Configuration) (rs : List Request) (now : Timestamp) :
    let s := (Service.new c).after rs
    (s.expire now).result.Pairwise (· < ·) ∧
    (∀ id, id ∈ (s.expire now).result ↔
      ∃ x, s.sessions.get? id = some x ∧ x.verdict = .pending ∧ x.deadline ≤ now) ∧
    (∀ id ∈ (s.expire now).result, ∃ (l : Lifetime c id) (y : Session), l.requests = rs ∧
      (s.expire now).service.sessions.get? id = some y ∧ l.TimesOut y) ∧
    (∀ id, id ∉ (s.expire now).result →
      (s.expire now).service.sessions.get? id = s.sessions.get? id) ∧
    ∀ qs,
      let run := (Service.new { c with defaultAnswer := .allow }).handleAll qs
      (Service.new { c with defaultAnswer := .allowWithoutSufficient }).handleAll qs =
        (run.1, run.2.1.withDefault .allowWithoutSufficient, run.2.2) := by
  intro s
  let s' := Service.new { c with defaultAnswer := .allow }
  have hdefault : (s'.withDefault .allowWithoutSufficient).defaultAnswer = s'.defaultAnswer := rfl
  refine ⟨s.ascending_result_expire now, fun id => ?who, fun id hid => ?struck,
    fun id hid => ?others, fun qs => Service.handleAll_withDefault hdefault qs⟩
  case who =>
    rw [Service.mem_result_expire_iff]
    refine exists_congr fun x => and_congr_right fun hx => ?_
    rw [Session.isDue, Bool.and_eq_true, decide_eq_true_eq, (Service.sound_of_get? hx).isOpen_iff]
  case struck =>
    obtain ⟨x, hx, hdue⟩ := Service.mem_result_expire_iff.1 hid
    obtain ⟨l, rfl, rfl⟩ := Lifetime.exists_of_get? hx
    refine ⟨l, _, rfl, ?_, l.timesOut hdue⟩
    rw [Service.get?_expire, hx, Option.map_some, (Service.new c).configuration_after]
    rfl
  case others =>
    rw [Service.get?_expire]
    cases hx : s.sessions.get? id with
    | none => rfl
    | some x =>
      rw [s.mem_result_expire hx, Bool.not_eq_true] at hid
      rw [Option.map_some, Session.lapse_of_not_due hid]

/-- A waiver by default approves for the silent verifier, but sends nobody in the pool home: the
session is rejected for want of an answer from there. -/
theorem expire_times_out_of_silent_pool :
    let c : Configuration := { defaultAnswer := .allowWithoutSufficient }
    let rs : List Request :=
      [.start ⟨2⟩ [(⟨5⟩, .required), (⟨10⟩, .sufficient)] ⟨0⟩,
        .start ⟨1⟩ [(⟨9⟩, .optional)] ⟨1⟩]
    let o := ((Service.new c).after rs).expire ⟨10000⟩
    o.result = [⟨2⟩] ∧ ∃ y, o.service.sessions.get? ⟨2⟩ = some y ∧
      y.tracker.axes.required = .passed ∧ y.verdict = .rejected ∧
      y.tracker.sufficient.pool.toList = [⟨10⟩] := by
  intro c rs o
  obtain ⟨-, -, hstruck, -⟩ := expire_times_out c rs ⟨10000⟩
  have hresult : o.result = [⟨2⟩] := by decide +kernel
  obtain ⟨l, y, hl, hy, h⟩ := hstruck ⟨2⟩ (by rw [show o.result = [⟨2⟩] from hresult]; decide)
  obtain rfl : l = ⟨[], [(⟨5⟩, .required), (⟨10⟩, .sufficient)], ⟨0⟩, ⟨10000⟩, rs.tail,
      by decide +kernel, by decide +kernel⟩ := Lifetime.eq_of_requests_eq hl
  refine ⟨hresult, y, hy, (h.passed (by decide +kernel)).2 ⟨.inr ?_, .inr (.inr rfl)⟩,
    h.rejected (.inr (by decide +kernel)), ?_⟩
  · decide +kernel
  · rw [h.sufficient]
    decide +kernel

end PackageVerification
