import PackageVerification.Proofs.Decision
import PackageVerification.Tracker.Operation

/-!
# What the axes say

A tracker judges its axes three times: to give a verdict, to allow the install, and to report how
each axis stands. The three agree on every tracker that operations lead to, verifiers registered
late included. Main statements: `Consistent.perform`, what the axes keep to; `verdict_of_axes`, the
verdict, the permission and completeness are read off the report.
-/

namespace PackageVerification

/-! ## 1. Verdicts of a report -/

def AxisStatus.IsClear (s : AxisStatus) : Prop := s = .absent ∨ s = .passed

instance (s : AxisStatus) : Decidable s.IsClear := inferInstanceAs (Decidable (_ ∨ _))

theorem AxisStatus.isClear_iff {s : AxisStatus} :
    s.IsClear ↔ (s ≠ .pending ∧ s ≠ .failed) ∧ s ≠ .complete := by
  cases s <;> decide

namespace AxisReport

def IsPending (r : AxisReport) : Prop :=
  r.required = .pending ∨ r.sufficient = .pending ∨ r.optional = .pending

def HasFailed (r : AxisReport) : Prop :=
  r.required = .failed ∨ r.sufficient = .failed ∨ r.optional = .failed

def Yields (r : AxisReport) : Verdict → Prop
  | .pending => r.IsPending
  | .rejected => ¬r.IsPending ∧ r.HasFailed
  | .allowed => r.required.IsClear ∧ r.sufficient.IsClear ∧ r.optional.IsClear

instance (r : AxisReport) : Decidable r.IsPending := inferInstanceAs (Decidable (_ ∨ _))

/-- A report comes to one verdict at most. -/
theorem Yields.unique {r : AxisReport} {v w : Verdict} (hv : r.Yields v) (hw : r.Yields w) :
    v = w := by
  obtain ⟨required, sufficient, optional, integrity⟩ := r
  cases v <;> cases w <;>
    simp only [Yields, IsPending, HasFailed, AxisStatus.isClear_iff] at hv hw ⊢ <;> tauto

end AxisReport

/-! ## 2. Single axes -/

namespace RequiredAxis

theorem isSettled_iff_status (a : RequiredAxis) :
    a.isSettled = true ↔ a.status ≠ .pending := by
  rw [isSettled, status]
  cases a.members.isEmpty <;> cases a.complete <;> cases a.passed <;> decide

theorem permits_iff_status (a : RequiredAxis) : a.permits = true ↔ a.status.IsClear := by
  rw [permits, status]
  cases a.members.isEmpty <;> cases a.complete <;> cases a.passed <;> decide

theorem status_ne_complete (a : RequiredAxis) : a.status ≠ .complete := by
  rw [status]
  cases a.members.isEmpty <;> cases a.complete <;> cases a.passed <;> decide

end RequiredAxis

namespace SufficientPool

/-- A pool in which nobody was ever registered has no members and has not decided. -/
structure Consistent (p : SufficientPool) : Prop where
  empty : p.registered = false → p.pool.isEmpty = true
  undecided : p.registered = false → p.complete = false

variable {p : SufficientPool}

theorem isSettled_iff_status (h : p.Consistent) : p.isSettled = true ↔ p.status ≠ .pending := by
  have hempty := h.empty
  revert hempty
  rw [isSettled, status]
  cases p.registered <;> cases p.complete <;> cases p.pool.isEmpty <;> cases p.passed <;> decide

theorem permits_iff_status (h : p.Consistent) : p.permits = true ↔ p.status ≠ .failed := by
  have hundecided := h.undecided
  revert hundecided
  rw [permits, status]
  cases p.registered <;> cases p.complete <;> cases p.pool.isEmpty <;> cases p.passed <;> decide

theorem status_ne_complete (p : SufficientPool) : p.status ≠ .complete := by
  rw [status]
  cases p.registered <;> cases p.complete <;> cases p.pool.isEmpty <;> cases p.passed <;> decide

end SufficientPool

namespace OptionalSeat

/-- A seat has passed only if its answer is in. -/
def Consistent (s : OptionalSeat) : Prop := s.passed = true → s.complete = true

theorem isSettled_iff_status (s : OptionalSeat) : s.isSettled = true ↔ s.status ≠ .pending := by
  rw [isSettled, status]
  cases s.verifier.isNone <;> cases s.complete <;> cases s.passed <;> decide

theorem permits_iff_status {s : OptionalSeat} (h : s.Consistent) :
    s.permits = true ↔ s.status.IsClear := by
  rw [Consistent] at h
  revert h
  rw [permits, status]
  cases s.verifier.isNone <;> cases s.complete <;> cases s.passed <;> decide

theorem status_ne_complete (s : OptionalSeat) : s.status ≠ .complete := by
  rw [status]
  cases s.verifier.isNone <;> cases s.complete <;> cases s.passed <;> decide

end OptionalSeat

/-! ## 3. Trackers -/

namespace Tracker

structure Consistent (t : Tracker) : Prop where
  sufficient : t.sufficient.Consistent
  optional : t.optional.Consistent

theorem consistent_new (session : SessionId) (policy : PendingPolicy) :
    (new session policy).Consistent :=
  ⟨⟨fun _ => rfl, fun _ => rfl⟩, fun h => absurd h Bool.false_ne_true⟩

variable {t : Tracker}

theorem Consistent.perform (h : t.Consistent) (o : Operation) : (t.perform o).2.Consistent := by
  -- What is asked of a pool concerns one in which nobody was registered.
  have hpool : ∀ p : SufficientPool, p.registered = true → p.Consistent := fun p hp =>
    ⟨fun hnot => absurd (hp.symm.trans hnot) (by simp),
      fun hnot => absurd (hp.symm.trans hnot) (by simp)⟩
  cases o with
  | register id role =>
    cases role with
    | required | optional => exact ⟨h.sufficient, h.optional⟩
    | sufficient => exact ⟨hpool _ rfl, h.optional⟩
  | answer id a =>
    rw [Tracker.perform]
    rcases t.answer_cases id a with
      ⟨-, -, hnext⟩ | ⟨-, -, hnext⟩ | ⟨hp, hnext⟩ | ⟨_, -, hnext⟩ <;> rw [hnext]
    · refine ⟨?_, h.optional⟩
      show (poolAfter t.sufficient a).Consistent
      unfold poolAfter
      split_ifs
      · exact ⟨fun _ => rfl, h.sufficient.undecided⟩
      · exact h.sufficient
    · exact ⟨h.sufficient, fun _ => rfl⟩
    · -- Somebody is in the pool, so somebody was registered.
      have hregistered : t.sufficient.registered = true := by
        by_contra hnot
        exact VerifierSet.isEmpty_iff.1 (h.sufficient.empty (by simpa using hnot)) id hp
      exact ⟨hpool _ hregistered, h.optional⟩
    · exact h
  | forceRequired =>
    rcases t.forceRequired_cases with ⟨-, hnext⟩ | ⟨-, hnext⟩ <;> rw [hnext]
    · exact ⟨h.sufficient, h.optional⟩
    · exact h
  | extendTimeout | recordIntegrity => exact ⟨h.sufficient, h.optional⟩

theorem consistent_after (session : SessionId) (policy : PendingPolicy) (os : List Operation) :
    ((new session policy).after os).Consistent := by
  induction os using List.reverseRecOn with
  | nil => exact consistent_new session policy
  | append_singleton os o ih =>
    rw [after_concat]
    exact ih.perform o

@[simp] theorem policy_perform (t : Tracker) (o : Operation) :
    (t.perform o).2.policy = t.policy := by
  cases o with
  | register id role => cases role <;> rfl
  | answer id a => exact t.policy_answer id a
  | forceRequired =>
    rcases t.forceRequired_cases with ⟨-, hnext⟩ | ⟨-, hnext⟩ <;> rw [hnext]
  | extendTimeout | recordIntegrity => rfl

@[simp] theorem policy_after (t : Tracker) (os : List Operation) :
    (t.after os).policy = t.policy := by
  induction os generalizing t with
  | nil => rfl
  | cons o os ih => simp [ih]

theorem isComplete_iff_axes (h : t.Consistent) : t.isComplete = true ↔ ¬t.axes.IsPending := by
  rw [isComplete, Bool.and_eq_true, Bool.and_eq_true, t.required.isSettled_iff_status,
    t.optional.isSettled_iff_status, SufficientPool.isSettled_iff_status h.sufficient,
    AxisReport.IsPending, not_or, not_or]
  show (_ ∧ _) ∧ _ ↔ t.required.status ≠ _ ∧ t.sufficient.status ≠ _ ∧ t.optional.status ≠ _
  tauto

theorem isAllowed_iff_axes (h : t.Consistent) :
    t.isAllowed = true ↔
      (t.policy = .permissive ∨ ¬t.axes.IsPending) ∧ t.axes.required.IsClear ∧
        t.axes.optional.IsClear ∧ t.axes.sufficient ≠ .failed := by
  rw [isAllowed, Bool.and_eq_true, Bool.and_eq_true, Bool.and_eq_true, Bool.or_eq_true,
    decide_eq_true_eq, isComplete_iff_axes h, t.required.permits_iff_status,
    OptionalSeat.permits_iff_status h.optional, SufficientPool.permits_iff_status h.sufficient,
    and_assoc, and_assoc]
  rfl

/-- The report of a tracker comes to its verdict. -/
theorem yields_verdict (h : t.Consistent) : t.axes.Yields t.verdict := by
  have hcomplete := isComplete_iff_axes h
  have hallowed := isAllowed_iff_axes h
  have hr : t.axes.required.IsClear ↔ t.axes.required ≠ .pending ∧ t.axes.required ≠ .failed :=
    AxisStatus.isClear_iff.trans (and_iff_left t.required.status_ne_complete)
  have hs : t.axes.sufficient.IsClear ↔
      t.axes.sufficient ≠ .pending ∧ t.axes.sufficient ≠ .failed :=
    AxisStatus.isClear_iff.trans (and_iff_left t.sufficient.status_ne_complete)
  have ho : t.axes.optional.IsClear ↔ t.axes.optional ≠ .pending ∧ t.axes.optional ≠ .failed :=
    AxisStatus.isClear_iff.trans (and_iff_left t.optional.status_ne_complete)
  -- The verdict asks first whether somebody is awaited, then whether the install is allowed.
  rw [verdict]
  split_ifs with hopen hpermitted
  · rw [Bool.not_eq_true', ← Bool.not_eq_true, hcomplete, not_not] at hopen
    exact hopen
  · rw [Bool.not_eq_true', Bool.not_eq_false, hcomplete] at hopen
    obtain ⟨-, hrclear, hoclear, hsfailed⟩ := hallowed.1 hpermitted
    refine ⟨hrclear, hs.2 ⟨fun hspending => hopen (.inr (.inl hspending)), hsfailed⟩, hoclear⟩
  · rw [Bool.not_eq_true', Bool.not_eq_false, hcomplete] at hopen
    refine ⟨hopen, ?_⟩
    -- If no axis had failed, each would be clear, and the install allowed.
    by_contra hnone
    obtain ⟨hrpending, hspending, hopending⟩ := not_or.1 hopen |>.imp_right not_or.1
    obtain ⟨hrfailed, hsfailed, hofailed⟩ := not_or.1 hnone |>.imp_right not_or.1
    refine hpermitted (hallowed.2 ⟨.inr hopen, ?_, ?_, hsfailed⟩)
    · exact hr.2 ⟨hrpending, hrfailed⟩
    · exact ho.2 ⟨hopending, hofailed⟩

theorem verdict_eq_iff_yields (h : t.Consistent) (v : Verdict) :
    t.verdict = v ↔ t.axes.Yields v :=
  ⟨fun hv => hv ▸ yields_verdict h, (yields_verdict h).unique⟩

/-! ## 4. The trackers of sessions -/

theorem hear_eq_after (t : Tracker) (xs : Answers) :
    t.hear xs = t.after (xs.map fun x => .answer x.1 x.2) := by
  induction xs generalizing t with
  | nil => rfl
  | cons x xs ih => exact ih _

theorem enrolled_eq_after (session : SessionId) (policy : PendingPolicy) (roster : Roster) :
    enrolled session policy roster =
      (new session policy).after (roster.map fun v => .register v.1 v.2) := by
  induction roster using List.reverseRecOn with
  | nil => rfl
  | append_singleton vs v ih =>
    rw [List.map_append, List.map_singleton, after_concat, ← ih]
    simp [enrolled, perform]

end Tracker

/-- Whatever happens to a session is an operation on its tracker, or several. -/
theorem Session.exists_operations (c : Configuration) (x : Session) (r : Request) :
    ∃ os, (x.react c r).1.tracker = x.tracker.after os := by
  refine x.react_induction c (P := fun e => ∃ os, e.1.tracker = x.tracker.after os) ?idle ?respond
    ?extend ?integrity ?force ?timeOut r
  case idle => exact ⟨[], rfl⟩
  case respond =>
    intro v a
    rw [Change.effect]
    rcases x.respond_cases v a with ⟨-, hsession, -⟩ | ⟨-, hsession, -⟩
    · exact ⟨[], by rw [hsession]; rfl⟩
    · exact ⟨[.answer v a], by rw [hsession, tracker_reportCompletion]; rfl⟩
  case extend =>
    intro v ms now
    rw [Change.effect]
    rcases x.extend_cases v ms now with ⟨hsession, -⟩ | ⟨-, -, _, hsession, -⟩
    · exact ⟨[], by rw [hsession]; rfl⟩
    · exact ⟨[.extendTimeout], by rw [hsession]; rfl⟩
  case integrity => exact fun a => ⟨[.recordIntegrity a], rfl⟩
  case force =>
    rw [Change.effect]
    rcases x.forceRequired_cases with ⟨-, hsession, -⟩ | ⟨-, -, hnone, hsession, -⟩
    · exact ⟨[], by rw [hsession]; rfl⟩
    · refine ⟨[.forceRequired], ?_⟩
      rw [hsession, tracker_reportCompletion]
      simp [Tracker.after, Tracker.performAll, Tracker.perform, Tracker.forceRequired, hnone,
        forced]
  case timeOut =>
    intro now _
    -- A time-out is an answer for each silent verifier, and answers in turn are operations.
    rw [(x.timeOut_eq _ now).1, tracker_reportCompletion, struck, answerAll_eq_hear,
      Tracker.hear_eq_after]
    exact ⟨_, rfl⟩

/-- The tracker of a session is one that operations lead to. -/
theorem Lifetime.exists_operations {c : Configuration} {id : SessionId} (l : Lifetime c id) :
    ∃ os, l.session.tracker = (Tracker.new id c.pendingPolicy).after os := by
  induction l using induction with
  | begun l hl =>
    rw [session, hl]
    exact ⟨_, Tracker.enrolled_eq_after id c.pendingPolicy l.roster⟩
  | goes_on l r hr ih =>
    obtain ⟨os, hos⟩ := ih
    obtain ⟨os', hos'⟩ := l.session.exists_operations c r
    refine ⟨os ++ os', ?_⟩
    rw [session_goOn, hos', hos]
    exact (congrArg Prod.snd (Tracker.performAll_append _ os os')).symm

/-! ## 5. Verdict, permission and completeness -/

namespace Tracker

theorem isAllowed_iff_verdict {t : Tracker} (hpolicy : t.policy = .failClosed) :
    t.isAllowed = true ↔ t.verdict = .allowed := by
  rw [verdict, isAllowed, hpolicy]
  cases t.isComplete <;> simp [and_assoc]

theorem isAllComplete_iff_axes {t : Tracker} (h : t.Consistent) :
    t.isAllComplete = true ↔ t.axes.integrity = .complete ∧ ¬t.axes.IsPending := by
  have hintegrity : t.isIntegrityComplete = true ↔ t.axes.integrity = .complete := by
    rw [axes]
    cases t.isIntegrityComplete <;> simp
  rw [isAllComplete, Bool.and_eq_true, hintegrity, isComplete_iff_axes h]

end Tracker

/-- A session that has timed out is rejected where its tracker is still pending. -/
theorem Session.verdict_eq_iff_yields {x : Session} (h : x.tracker.Consistent) (v : Verdict) :
    x.verdict = v ↔
      if x.timedOut = true ∧ x.tracker.axes.IsPending then v = .rejected
      else x.tracker.axes.Yields v := by
  have hpending : x.tracker.verdict = .pending ↔ x.tracker.axes.IsPending :=
    Tracker.verdict_eq_iff_yields h .pending
  by_cases htimedOut : x.timedOut = true ∧ x.tracker.axes.IsPending
  · rw [if_pos htimedOut, Session.verdict, if_pos ⟨hpending.2 htimedOut.2, htimedOut.1⟩]
    exact eq_comm
  · have hnot : ¬(x.tracker.verdict = .pending ∧ x.timedOut = true) := fun h' =>
      htimedOut ⟨h'.2, hpending.1 h'.1⟩
    rw [if_neg htimedOut, Session.verdict, if_neg hnot]
    exact Tracker.verdict_eq_iff_yields h v

/-- Whatever operations lead to a tracker, its verdict is pending when an axis is, rejected when
none is pending and one has failed, and allowed when each is absent or has passed. The install may
proceed when the verdict says so, or under the permissive policy when the required and the optional
axis are absent or have passed and the sufficient one has not failed. Everything is complete when
the integrity check is and no axis is pending. The verdict of a session in a service is the one of
its axes too, except that a session that has timed out with a pending axis is rejected. -/
theorem verdict_of_axes (session : SessionId) (policy : PendingPolicy)
    (os : List Tracker.Operation) (c : Configuration) (rs : List Request) :
    let t := (Tracker.new session policy).after os
    (t.verdict = .pending ↔ t.axes.IsPending) ∧
    (t.verdict = .rejected ↔ ¬t.axes.IsPending ∧ t.axes.HasFailed) ∧
    (t.verdict = .allowed ↔
      t.axes.required.IsClear ∧ t.axes.sufficient.IsClear ∧ t.axes.optional.IsClear) ∧
    (t.isAllowed = true ↔
      match policy with
      | .failClosed => t.verdict = .allowed
      | .permissive =>
        t.axes.required.IsClear ∧ t.axes.optional.IsClear ∧ t.axes.sufficient ≠ .failed) ∧
    (t.isAllComplete = true ↔ t.axes.integrity = .complete ∧ ¬t.axes.IsPending) ∧
    ∀ x ∈ ((Service.new c).after rs).sessions.toList, ∀ v,
      x.summary.verdict = v ↔
        if x.summary.timedOut = true ∧ x.summary.axes.IsPending then v = .rejected
        else x.summary.axes.Yields v := by
  intro t
  have h : t.Consistent := Tracker.consistent_after session policy os
  have hpolicy : t.policy = policy := Tracker.policy_after _ os
  refine ⟨Tracker.verdict_eq_iff_yields h .pending, Tracker.verdict_eq_iff_yields h .rejected,
    Tracker.verdict_eq_iff_yields h .allowed, ?_, Tracker.isAllComplete_iff_axes h,
    fun x hx v => ?_⟩
  · cases policy with
    | failClosed => exact Tracker.isAllowed_iff_verdict hpolicy
    | permissive =>
      rw [Tracker.isAllowed_iff_axes h]
      exact and_iff_right (.inl hpolicy)
  -- The tracker of a session is one that operations have led to.
  · rw [SessionTable.mem_toList_iff] at hx
    obtain ⟨l, -, hl⟩ := Lifetime.exists_of_get? hx
    obtain ⟨os', hos'⟩ := l.exists_operations
    rw [hl] at hos'
    exact Session.verdict_eq_iff_yields (hos' ▸ Tracker.consistent_after _ _ os') v

/-- A session that times out with a silent optional verifier has a pending axis and is rejected. -/
theorem verdict_of_axes_of_silent_optional :
    let rs : List Request :=
      [.start ⟨1⟩ [(⟨5⟩, .required), (⟨9⟩, .optional)] ⟨0⟩, .respond ⟨1⟩ ⟨5⟩ .allow,
        .expire ⟨10000⟩]
    ∃ x ∈ ((Service.new .default).after rs).sessions.toList,
      x.summary.timedOut = true ∧ x.summary.axes.IsPending ∧ x.summary.verdict = .rejected := by
  intro rs
  let xs := ((Service.new .default).after rs).sessions.toList
  obtain ⟨x, hx, htimedOut, hpending⟩ :
      ∃ x ∈ xs, x.summary.timedOut = true ∧ x.summary.axes.IsPending := by decide +kernel
  obtain ⟨-, -, -, -, -, hsessions⟩ := verdict_of_axes ⟨0⟩ .failClosed [] .default rs
  refine ⟨x, hx, htimedOut, hpending, (hsessions x hx .rejected).2 ?_⟩
  rw [if_pos ⟨htimedOut, hpending⟩]

end PackageVerification
