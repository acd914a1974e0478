import PackageVerification.Proofs.Hearing
import PackageVerification.Proofs.Lifetime

/-!
# A decision is not taken back

Once the verdict of a session is final nothing that happens to it changes the decision, though its
pool may still hear answers. Main statements: `Sound.react`, what a session keeps to;
`Sound.sameDecision`, the decision stays.
-/

namespace PackageVerification

/-! ## 1. Trackers -/

/-- A required axis that is settled waits for nobody, and a pool that has decided has been approved
or is empty. -/
structure Tracker.Sound (t : Tracker) : Prop where
  required : t.required.isSettled = true → t.required.unanswered.isEmpty = true
  sufficient :
    t.sufficient.complete = true →
      t.sufficient.passed = true ∨ t.sufficient.pool.isEmpty = true

namespace Tracker.Sound

variable {t : Tracker}

theorem enrolled (session : SessionId) (policy : PendingPolicy) (roster : Roster) :
    (Tracker.enrolled session policy roster).Sound := by
  rw [Tracker.enrolled_eq]
  refine ⟨?_, ?_⟩
  · simp [RequiredAxis.isSettled]
  · simp

theorem answer (h : t.Sound) (id : VerifierId) (a : Answer) : (t.answer id a).2.Sound := by
  rcases t.answer_cases id a with
    ⟨-, hu, hnext⟩ | ⟨-, -, hnext⟩ | ⟨hp, hnext⟩ | ⟨_, -, hnext⟩ <;> rw [hnext]
  · refine ⟨fun hsettled => ?_, fun hcomplete => ?_⟩
    · -- An axis that was settled before waits for nobody, so this answer would not have counted.
      have hnot : ¬t.required.isSettled = true := fun hs =>
        VerifierSet.isEmpty_iff.1 (h.required hs) id hu
      rw [RequiredAxis.isSettled, Bool.or_eq_true, not_or] at hnot
      simp only [RequiredAxis.isSettled, RequiredAxis.record, Bool.or_eq_true] at hsettled
      rcases hsettled with hempty | hcomplete | hlast
      · exact absurd hempty hnot.1
      · exact absurd hcomplete hnot.2
      · exact hlast
    · unfold poolAfter at hcomplete ⊢
      split_ifs at hcomplete ⊢
      · exact .inr rfl
      · exact h.sufficient hcomplete
  · exact ⟨h.required, h.sufficient⟩
  · refine ⟨h.required, fun hcomplete => ?_⟩
    simp only [SufficientPool.record, Bool.or_eq_true, decide_eq_true_eq] at hcomplete ⊢
    -- A pool decides by an approval, by its last member, or had done so before.
    rcases hcomplete with (hcomplete | hallow) | hempty
    · rcases h.sufficient hcomplete with hpassed | hempty
      · exact .inl (.inl hpassed)
      · exact absurd hp (VerifierSet.isEmpty_iff.1 hempty id)
    · exact .inl (.inr hallow)
    · exact .inr hempty
  · exact h

theorem hear (h : t.Sound) (xs : Answers) : (t.hear xs).Sound := by
  induction xs generalizing t with
  | nil => exact h
  | cons x xs ih => exact ih (h.answer x.1 x.2)

theorem force (h : t.Sound) (hnone : t.required.unanswered.isEmpty = true) :
    Tracker.Sound { t with required := t.required.force } :=
  ⟨fun _ => hnone, h.sufficient⟩

/-- A decision that is complete stays as it is when more answers come in. -/
theorem answer_of_complete (h : t.Sound) (hcomplete : t.isComplete = true) (id : VerifierId)
    (a : Answer) : (t.answer id a).2.verdict = t.verdict ∧ (t.answer id a).2.axes = t.axes := by
  rw [isComplete, Bool.and_eq_true, Bool.and_eq_true] at hcomplete
  obtain ⟨⟨hrequired, hoptional⟩, hsufficient⟩ := hcomplete
  -- On a complete decision nobody is awaited, so the answer counts for the pool or not at all.
  rcases t.answer_cases id a with ⟨-, hu, -⟩ | ⟨ho, hc, -⟩ | ⟨hp, hnext⟩ | ⟨_, -, hnext⟩
  · exact absurd hu (VerifierSet.isEmpty_iff.1 (h.required hrequired) id)
  · simp [OptionalSeat.isSettled, ho, hc] at hoptional
  · -- The pool still has a member, so it was approved.
    have hnot : ¬t.sufficient.pool.isEmpty = true := fun hempty =>
      VerifierSet.isEmpty_iff.1 hempty id hp
    rw [SufficientPool.isSettled, Bool.or_eq_true, or_iff_right hnot] at hsufficient
    have hpassed := (h.sufficient hsufficient).resolve_right hnot
    have hsame : (t.sufficient.record id a).isSettled = t.sufficient.isSettled ∧
        (t.sufficient.record id a).permits = t.sufficient.permits ∧
        (t.sufficient.record id a).status = t.sufficient.status := by
      simp [SufficientPool.isSettled, SufficientPool.permits, SufficientPool.status,
        SufficientPool.record, hsufficient, hpassed]
    obtain ⟨hsettled, hpermits, hstatus⟩ := hsame
    rw [hnext]
    constructor
    · simp only [verdict, isAllowed, isComplete, hsettled, hpermits]
      rfl
    · simp only [axes, isIntegrityComplete, hstatus]
      rfl
  · rw [hnext]
    exact ⟨rfl, rfl⟩

end Tracker.Sound

/-! ## 2. Sessions -/

structure Session.SameDecision (x y : Session) : Prop where
  verdict : y.verdict = x.verdict
  deadline : y.deadline = x.deadline
  required : y.tracker.axes.required = x.tracker.axes.required
  sufficient : y.tracker.axes.sufficient = x.tracker.axes.sufficient
  optional : y.tracker.axes.optional = x.tracker.axes.optional

/-- A session has reported its completion when its verdict is final, and has done so if it has timed
out. -/
structure Session.Sound (x : Session) : Prop where
  tracker : x.tracker.Sound
  reported : x.completionReported = true ↔ x.verdict.isFinal = true
  timedOut : x.timedOut = true → x.completionReported = true

namespace Session

variable {x y z : Session} {c : Configuration}

theorem SameDecision.refl (x : Session) : x.SameDecision x := ⟨rfl, rfl, rfl, rfl, rfl⟩

theorem SameDecision.trans (h : x.SameDecision y) (h' : y.SameDecision z) : x.SameDecision z :=
  ⟨h'.verdict.trans h.verdict, h'.deadline.trans h.deadline, h'.required.trans h.required,
    h'.sufficient.trans h.sufficient, h'.optional.trans h.optional⟩

theorem verdict_of_not_timedOut (h : x.timedOut = false) : x.verdict = x.tracker.verdict := by
  simp [verdict, h]

/-- A time-out decides. -/
theorem isFinal_of_timedOut (h : x.timedOut = true) : x.verdict.isFinal = true := by
  rw [verdict]
  cases hv : x.tracker.verdict <;> simp [h, Verdict.isFinal]

theorem isFinal_verdict (t : Tracker) : t.verdict.isFinal = t.isComplete := by
  rw [Tracker.verdict]
  cases t.isComplete <;> cases t.isAllowed <;> rfl

/-- Reporting leaves everything but the report as it is. -/
theorem sameDecision_reportCompletion (x : Session) : x.SameDecision x.reportCompletion.1 := by
  unfold reportCompletion
  split
  · exact ⟨rfl, rfl, rfl, rfl, rfl⟩
  · exact .refl x

/-! ## 3. What a session keeps to -/

/-- Reporting makes good what a session has to keep to. -/
theorem sound_reportCompletion (htracker : x.tracker.Sound)
    (hreported : x.completionReported = true → x.verdict.isFinal = true) :
    x.reportCompletion.1.Sound := by
  by_cases hr : x.completionReported = true
  · rw [reportCompletion_of_reported hr]
    exact ⟨htracker, iff_of_true hr (hreported hr), fun _ => hr⟩
  · rw [Bool.not_eq_true] at hr
    by_cases hfinal : x.verdict.isFinal = true
    · rw [(reportCompletion_of_final hr hfinal).1]
      exact ⟨htracker, iff_of_true rfl hfinal, fun _ => rfl⟩
    · have htimedOut : ¬x.timedOut = true := fun h => hfinal (isFinal_of_timedOut h)
      rw [reportCompletion_of_not_final (by simpa using hfinal)]
      exact ⟨htracker, iff_of_false (by simp [hr]) hfinal, fun h => absurd h htimedOut⟩

theorem sound_fresh (c : Configuration) (id : SessionId) {roster : Roster} (hroster : roster ≠ [])
    (now : Timestamp) : (fresh c id roster now).Sound := by
  have hcomplete := Tracker.isComplete_enrolled id c.pendingPolicy roster
  rw [List.isEmpty_eq_false_iff.2 hroster, ← isFinal_verdict] at hcomplete
  have hpending : (fresh c id roster now).verdict.isFinal = false :=
    (congrArg Verdict.isFinal (verdict_of_not_timedOut rfl)).trans hcomplete
  refine ⟨.enrolled id c.pendingPolicy roster, ?_, fun h => absurd h Bool.false_ne_true⟩
  rw [hpending]
  exact iff_of_false Bool.false_ne_true Bool.false_ne_true

/-- A final decision stays as it is when more answers come in. -/
theorem Sound.sameDecision_answer (h : x.Sound) (htimedOut : x.timedOut = false)
    (hfinal : x.verdict.isFinal = true) (id : VerifierId) (a : Answer) :
    x.SameDecision (x.answered id a) := by
  have hverdict := verdict_of_not_timedOut htimedOut
  rw [hverdict, isFinal_verdict] at hfinal
  obtain ⟨hsame, haxes⟩ := h.tracker.answer_of_complete hfinal id a
  have hverdict' : (x.answered id a).verdict = (x.tracker.answer id a).2.verdict :=
    verdict_of_not_timedOut htimedOut
  exact ⟨hverdict'.trans (hsame.trans hverdict.symm), rfl,
    congrArg AxisReport.required haxes, congrArg AxisReport.sufficient haxes,
    congrArg AxisReport.optional haxes⟩

theorem Sound.react (h : x.Sound) (c : Configuration) (r : Request) : (x.react c r).1.Sound := by
  refine x.react_induction c (P := fun e => e.1.Sound) ?idle ?respond ?extend ?integrity ?force
    ?timeOut r
  case idle => exact h
  case respond =>
    intro v a
    rw [Change.effect]
    rcases x.respond_cases v a with ⟨-, hsession, -⟩ | ⟨htimedOut, hsession, -⟩
    · rw [hsession]
      exact h
    · rw [hsession]
      -- A decision that was reported is final, and stays so under the answer.
      refine sound_reportCompletion (h.tracker.answer v a) fun hreported => ?_
      have hfinal := h.reported.1 hreported
      rw [(h.sameDecision_answer htimedOut hfinal v a).verdict]
      exact hfinal
  case extend =>
    intro v ms now
    rw [Change.effect]
    rcases x.extend_cases v ms now with ⟨hsession, -⟩ | ⟨-, -, _, hsession, -⟩
    · rw [hsession]
      exact h
    · rw [hsession]
      exact ⟨⟨h.tracker.required, h.tracker.sufficient⟩, h.reported, h.timedOut⟩
  case integrity =>
    exact fun a => ⟨⟨h.tracker.required, h.tracker.sufficient⟩, h.reported, h.timedOut⟩
  case force =>
    rw [Change.effect]
    rcases x.forceRequired_cases with ⟨-, hsession, -⟩ | ⟨-, hopen, hnone, hsession, -⟩
    · rw [hsession]
      exact h
    · rw [hsession]
      refine sound_reportCompletion (h.tracker.force hnone) fun hreported => ?_
      exact absurd ((isOpen_iff.1 hopen).2.symm.trans hreported) Bool.false_ne_true
  case timeOut =>
    intro now _
    have htracker := h.tracker.hear (x.tracker.required.unanswered.toList.map (·, c.silentAnswer))
    rw [← answerAll_eq_hear] at htracker
    exact sound_reportCompletion htracker fun _ => isFinal_of_timedOut rfl

/-! ## 4. The decision stays -/

/-- Nothing that happens to a session changes a final decision. -/
theorem Sound.sameDecision_react (h : x.Sound) (hfinal : x.verdict.isFinal = true)
    (c : Configuration) (r : Request) : x.SameDecision (x.react c r).1 := by
  have hclosed : ¬x.isOpen = true := fun hopen =>
    absurd ((isOpen_iff.1 hopen).2.symm.trans (h.reported.2 hfinal)) Bool.false_ne_true
  -- Only answers and integrity checks get past a closed session.
  refine x.react_induction c (P := fun e => x.SameDecision e.1) ?idle ?respond ?extend ?integrity
    ?force ?timeOut r
  case idle => exact .refl x
  case respond =>
    intro v a
    rw [Change.effect]
    rcases x.respond_cases v a with ⟨-, hsession, -⟩ | ⟨htimedOut, hsession, -⟩
    · rw [hsession]
      exact .refl x
    · rw [hsession]
      exact (h.sameDecision_answer htimedOut hfinal v a).trans (sameDecision_reportCompletion _)
  case extend =>
    intro v ms now
    rw [Change.effect]
    rcases x.extend_cases v ms now with ⟨hsession, -⟩ | ⟨hopen, -⟩
    · rw [hsession]
      exact .refl x
    · exact absurd hopen hclosed
  case integrity => exact fun a => ⟨rfl, rfl, rfl, rfl, rfl⟩
  case force =>
    rw [Change.effect]
    rcases x.forceRequired_cases with ⟨-, hsession, -⟩ | ⟨-, hopen, -⟩
    · rw [hsession]
      exact .refl x
    · exact absurd hopen hclosed
  case timeOut => exact fun now hopen => absurd hopen hclosed

end Session

/-! ## 5. Lifetimes -/

namespace Lifetime

variable {c : Configuration} {id : SessionId}

theorem sound (l : Lifetime c id) : l.session.Sound := by
  induction l using induction with
  | begun l hl =>
    rw [session, hl]
    exact Session.sound_fresh c id l.begin_cases.1 l.now
  | goes_on l r hr ih =>
    rw [session_goOn]
    exact ih.react c r

end Lifetime

/-- A service follows sessions that keep to what they have to. -/
theorem Service.sound_of_get? {c : Configuration} {rs : List Request} {id : SessionId} {x : Session}
    (hx : ((Service.new c).after rs).sessions.get? id = some x) : x.Sound := by
  obtain ⟨l, -, rfl⟩ := Lifetime.exists_of_get? hx
  exact l.sound

end PackageVerification
