import PackageVerification.Proofs.Underway

/-!
# The faults of steps

The session of a step is followed when the step comes, so that a step fails only if it asks for too
much time. Main statement: `ending_of_started`, a replay whose sessions could be started fails with
the first step of the schedule that does, or goes on to its last tick.
-/

namespace PackageVerification

namespace Replay

variable {c : Configuration} {r : Replay} {script : Script} {a b : Stage c}

/-! ## 1. The fault of a step -/

def excess? (c : Configuration) (p : ScheduledStep) : Option Fault :=
  match p.step.action with
  | .respond _ => none
  | .extend ms =>
    if c.maxExtension < ms then some (.extensionLimit p.session c.maxExtension) else none

/-- A step of a session that is followed fails only if it asks for too much time. -/
theorem result_request_eq_error_iff {p : ScheduledStep} {fault : Fault}
    (hx : a.service.sessions.get? p.session ≠ none) :
    (a.service.handle (r.request p)).result = .error fault ↔ excess? c p = some fault := by
  have hconfiguration := configuration_service a
  generalize a.service = s at *
  subst hconfiguration
  obtain ⟨x, hx⟩ := Option.ne_none_iff_exists'.1 hx
  rw [request, excess?]
  cases p.step.action with
  | respond answer =>
    have hresult : (s.respond p.session p.step.verifier answer).result =
        .ok (x.respond p.step.verifier answer).result := s.result_change hx _
    simp [Service.handle, Outcome.map, hresult, Except.map]
  | extend ms =>
    simp only [Service.handle, Outcome.map, Service.extend]
    split_ifs with hms
    · simp [Except.map]
    · rw [s.result_change hx]
      simp [Service.sure, Except.map]

/-- A step that has been carried out on the way has not failed. -/
theorem Underway.excess?_eq_none (h : Underway r script a) {p : ScheduledStep}
    {ps : List ScheduledStep} (hpending : a.pending = p :: ps)
    (hb : (r.carryOut a p).conclusion = none) : excess? c p = none := by
  by_contra hexcess
  obtain ⟨fault, hfault⟩ := Option.ne_none_iff_exists'.1 hexcess
  have hresult := (result_request_eq_error_iff (r := r) (h.followed_step hpending)).2 hfault
  simp only [Replay.carryOut, hresult] at hb
  cases hb

/-! ## 2. Steps that have been carried out -/

/-- The steps so far have been carried out in the order of the schedule, and none has failed. -/
structure Progress (script : Script) (a : Stage c) (done : List ScheduledStep) : Prop where
  schedule : schedule script = done ++ a.pending
  faultless : ∀ p ∈ done, excess? c p = none

theorem exists_progress
    (hreach : StateTransition.Reaches (r.turn (script.sessions.map (·.id))) (r.first c script) a)
    (ha : a.conclusion = none) : ∃ done, Progress script a done := by
  induction hreach with
  | refl => exact ⟨[], rfl, List.forall_mem_nil _⟩
  | tail hreach hturn ih =>
    obtain ⟨hbefore, ⟨p, ps, hpending, -, rfl⟩ | ⟨-, ⟨-, -, rfl⟩ | ⟨-, rfl⟩⟩⟩ := turn_cases hturn
    -- The replay goes on after a step only where the step did not fail.
    · obtain ⟨done, hschedule, hdone⟩ := ih hbefore
      have hok := (underway_of_reaches hreach hbefore).excess?_eq_none hpending ha
      refine ⟨done ++ [p], ?_, List.forall_mem_append.2 ⟨hdone, List.forall_mem_singleton.2 hok⟩⟩
      have htail : (r.carryOut _ p).pending = ps := congrArg List.tail hpending
      rw [hschedule, hpending, htail, List.append_assoc, List.singleton_append]
    · cases ha
    · exact (ih hbefore).imp fun done h => ⟨h.schedule, h.faultless⟩

theorem ending_of_not_started {fault : Fault}
    (h : (r.startAll (.new c) script.sessions).result = .error fault) :
    (r.run (.new c) script).ending = .error fault := by
  simp only [run, h]

/-- Once its sessions have been started a replay fails with the first step of the schedule that asks
for too much time. If there is none it ends by finishing the sessions, after a tick with which no
step is left and no session waits. -/
theorem ending_of_started (hstarted : (r.startAll (.new c) script.sessions).result = .ok ()) :
    let ids := script.sessions.map (·.id)
    let ending := (r.run (.new c) script).ending
    (∃ fault, (schedule script).findSome? (excess? c) = some fault ∧ ending = .error fault) ∨
      (schedule script).findSome? (excess? c) = none ∧
        ∃ a : Stage c, StateTransition.Reaches (r.turn ids) (r.first c script) a ∧
          a.conclusion = none ∧ a.pending = [] ∧ (r.pass a).service.nextDeadline = none ∧
          ending = (finishAll (r.pass a).service ids).result := by
  intro ids ending
  obtain ⟨b, hb, ⟨offset, hconclusion⟩, -, -⟩ := r.exists_outcome c script
  rcases outcome_cases hb with ⟨fault, hfault, -⟩ | ⟨-, a, hunderway, ha, hreach, hcases⟩
  · rw [hstarted] at hfault
    cases hfault
  · obtain ⟨done, hschedule, hfaultless⟩ := exists_progress hreach ha
    have hdone : done.findSome? (excess? c) = none := List.findSome?_eq_none_iff.2 hfaultless
    rcases hcases with ⟨p, ps, fault, hpending, -, hresult, hfault⟩ | ⟨hpending, hdeadline, rfl⟩
    -- The step the replay stopped at is the first of the schedule that asks too much.
    · left
      have hexcess := (result_request_eq_error_iff (hunderway.followed_step hpending)).1 hresult
      obtain ⟨-, hending⟩ := Conclusion.mk.inj (Option.some.inj (hconclusion.symm.trans hfault))
      refine ⟨fault, ?_, hending⟩
      rw [hschedule, List.findSome?_append, hdone, hpending, List.findSome?_cons, hexcess]
      rfl
    · right
      obtain ⟨-, hending⟩ := Conclusion.mk.inj (Option.some.inj hconclusion.symm)
      rw [hschedule, hpending, List.append_nil]
      exact ⟨hdone, a, hreach, ha, hpending, hdeadline, hending⟩

end Replay

end PackageVerification
