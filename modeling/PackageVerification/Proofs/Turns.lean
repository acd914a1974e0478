import Mathlib.Computability.StateTransition
import PackageVerification.Proofs.Deadline

/-!
# A replay turn by turn

The loop of a replay with every tick of it: each turn is a step that comes before the next tick, or
that tick. A stage of the loop keeps what has been requested of the service so far, which says where
the service stands. Main statement: `turn_cases`, all that a turn can do.
-/

namespace PackageVerification

/-! ## 1. Requests up to the first that fails -/

namespace Service

def untilFault (s : Service) : List Request → List Request
  | [] => []
  | q :: qs =>
    match (s.handle q).result with
    | .error _ => [q]
    | .ok _ => q :: (s.handle q).service.untilFault qs

theorem mem_of_mem_untilFault {s : Service} {q : Request} {qs : List Request}
    (h : q ∈ s.untilFault qs) : q ∈ qs := by
  induction qs generalizing s with
  | nil => exact h
  | cons q' qs ih =>
    rw [untilFault] at h
    cases hresult : (s.handle q').result with
    | error fault =>
      simp only [hresult] at h
      rw [List.mem_singleton.1 h]
      exact List.mem_cons_self
    | ok reply =>
      simp only [hresult] at h
      rcases List.mem_cons.1 h with rfl | h
      · exact List.mem_cons_self
      · exact List.mem_cons_of_mem _ (ih h)

theorem after_untilFault_of_error {s : Service} {q : Request} {qs : List Request} {fault : Fault}
    (h : (s.handle q).result = .error fault) :
    s.after (s.untilFault (q :: qs)) = (s.handle q).service := by
  simp only [untilFault, h]
  rfl

theorem after_untilFault_of_ok {s : Service} {q : Request} {qs : List Request} {reply : Reply}
    (h : (s.handle q).result = .ok reply) :
    s.after (s.untilFault (q :: qs)) =
      (s.handle q).service.after ((s.handle q).service.untilFault qs) := by
  simp only [untilFault, h, after_cons]

end Service

namespace Replay

def request (r : Replay) (p : ScheduledStep) : Request :=
  match p.step.action with
  | .respond answer => .respond p.session p.step.verifier answer
  | .extend ms => .extend p.session p.step.verifier ms (r.instant p.step.after.toNat)

/-- To carry out a step is to make its request. -/
theorem perform_eq (r : Replay) (s : Service) (p : ScheduledStep) :
    r.perform s p = (s.handle (r.request p)).map (Except.map fun _ => ()) := by
  have hmap : ∀ {α : Type} (f : α → Reply) (e : Except Fault α),
      (e.map f).map (fun _ => ()) = e.map fun _ => () := by
    intro α f e
    cases e <;> rfl
  rw [perform, request]
  cases p.step.action with
  | respond a =>
    simp only [Service.handle, Outcome.map, hmap]
  | extend ms =>
    simp only [Service.handle, Outcome.map, hmap]

def opening (r : Replay) (x : ScriptedSession) : List Request :=
  .start x.id x.verifiers r.clock :: (x.integrity.map (.recordIntegrity x.id)).toList

/-- To start the sessions is to make their opening requests up to the first that fails. -/
theorem service_startAll (r : Replay) (s : Service) (xs : List ScriptedSession) :
    (r.startAll s xs).service = s.after (s.untilFault (xs.flatMap r.opening)) := by
  induction xs generalizing s with
  | nil => rfl
  | cons x xs ih =>
    rw [startAll, List.flatMap_cons, opening, List.cons_append]
    -- Starting stops at the first fault, as the requests do that are cut there.
    cases hstart : (s.start x.id x.verifiers r.clock).result with
    | error fault =>
      have hresult : (s.handle (.start x.id x.verifiers r.clock)).result = .error fault :=
        congrArg (Except.map Reply.started) hstart
      rw [Service.after_untilFault_of_error hresult]
      rfl
    | ok deadline =>
      let started := (s.start x.id x.verifiers r.clock).service
      have hresult : (s.handle (.start x.id x.verifiers r.clock)).result =
          .ok (.started deadline) := congrArg (Except.map Reply.started) hstart
      rw [Service.after_untilFault_of_ok hresult]
      cases hintegrity : x.integrity with
      | none => exact ih started
      | some answer =>
        cases hcheck : (started.recordIntegrity x.id answer).result with
        | error fault =>
          have hresult : (started.handle (.recordIntegrity x.id answer)).result = .error fault :=
            congrArg (Except.map Reply.recorded) hcheck
          simp only [started, hcheck]
          exact (Service.after_untilFault_of_error hresult).symm
        | ok complete =>
          have hresult : (started.handle (.recordIntegrity x.id answer)).result =
              .ok (.recorded complete) := congrArg (Except.map Reply.recorded) hcheck
          simp only [started, hcheck]
          exact (ih _).trans (Service.after_untilFault_of_ok hresult).symm

/-- To finish the sessions is to make the requests for it up to the first that fails. -/
theorem service_finishAll (s : Service) (ids : List SessionId) :
    (finishAll s ids).service = s.after (s.untilFault (ids.map .finish)) := by
  induction ids generalizing s with
  | nil => rfl
  | cons id ids ih =>
    rw [finishAll, List.map_cons]
    cases hfinish : (s.finish id).result with
    | error fault =>
      have hresult : (s.handle (.finish id)).result = .error fault :=
        congrArg (Except.map Reply.finished) hfinish
      exact (Service.after_untilFault_of_error hresult).symm
    | ok summary =>
      have hresult : (s.handle (.finish id)).result = .ok (.finished summary) :=
        congrArg (Except.map Reply.finished) hfinish
      exact (ih _).trans (Service.after_untilFault_of_ok hresult).symm

end Replay

/-! ## 2. Stages -/

structure Conclusion where
  offset : Nat
  ending : Except Fault (List Summary)

structure Stage (c : Configuration) where
  /-- What has been requested of the service so far. -/
  requests : List Request
  /-- What the ticks so far have handed over. -/
  batches : List Batch
  /-- The steps that are left. -/
  pending : List ScheduledStep
  /-- The number of the next tick. -/
  tick : Nat
  conclusion : Option Conclusion

variable {c : Configuration}

def Stage.service (a : Stage c) : Service := (Service.new c).after a.requests

namespace Replay

def first (r : Replay) (c : Configuration) (script : Script) : Stage c where
  requests := (Service.new c).untilFault (script.sessions.flatMap r.opening)
  batches := []
  pending := schedule script
  tick := 0
  conclusion :=
    match (r.startAll (.new c) script.sessions).result with
    | .error fault => some ⟨0, .error fault⟩
    | .ok () => none

/-- The step that comes before the next tick, if there is one. -/
def upcoming? (r : Replay) (a : Stage c) : Option ScheduledStep :=
  a.pending.head?.filter fun p => p.step.after.toNat < r.tickOffset a.tick

def carryOut (r : Replay) (a : Stage c) (p : ScheduledStep) : Stage c :=
  { a with
    requests := a.requests ++ [r.request p]
    pending := a.pending.tail
    conclusion :=
      match (a.service.handle (r.request p)).result with
      | .error fault => some ⟨p.step.after.toNat, .error fault⟩
      | .ok _ => none }

def pass (r : Replay) (a : Stage c) : Stage c :=
  { a with
    requests := a.requests ++ [.expire (r.instant (r.tickOffset a.tick)), .drain]
    batches := a.batches ++ [(r.tick a.service (r.tickOffset a.tick)).result]
    tick := a.tick + 1 }

def close (ids : List SessionId) (offset : Nat) (a : Stage c) : Stage c :=
  { a with
    requests := a.requests ++ a.service.untilFault (ids.map .finish)
    conclusion := some ⟨offset, (finishAll a.service ids).result⟩ }

/-- One turn of the loop. A tick is the last one when no step is left and no session waits. -/
def turn (r : Replay) (ids : List SessionId) (a : Stage c) : Option (Stage c) :=
  if a.conclusion.isSome then none
  else
    match r.upcoming? a with
    | some p => some (r.carryOut a p)
    | none =>
      let b := r.pass a
      if b.pending = [] ∧ b.service.nextDeadline = none then
        some (close ids (r.tickOffset a.tick) b)
      else some b

def outcome (r : Replay) (c : Configuration) (script : Script) : Part (Stage c) :=
  StateTransition.eval (r.turn (script.sessions.map (·.id))) (r.first c script)

/-! ## 3. Turns -/

variable {r : Replay} {ids : List SessionId} {a b : Stage c}

theorem upcoming?_of_before {p : ScheduledStep} {ps : List ScheduledStep}
    (hpending : a.pending = p :: ps) (hbefore : p.step.after.toNat < r.tickOffset a.tick) :
    r.upcoming? a = some p := by
  rw [upcoming?, hpending]
  simp [Option.filter, hbefore]

theorem mem_pending_of_upcoming? {p : ScheduledStep} (h : r.upcoming? a = some p) :
    p ∈ a.pending :=
  List.mem_of_mem_head? (Option.filter_eq_some_iff.1 h).1

/-- A step that comes before the next tick is carried out. -/
theorem turn_of_before {p : ScheduledStep} {ps : List ScheduledStep} (ha : a.conclusion = none)
    (hpending : a.pending = p :: ps) (hbefore : p.step.after.toNat < r.tickOffset a.tick) :
    r.turn ids a = some (r.carryOut a p) := by
  rw [turn, ha, upcoming?_of_before hpending hbefore]
  rfl

/-- Where no step comes before the next tick, that tick passes. -/
theorem turn_of_not_before (ids : List SessionId) (ha : a.conclusion = none)
    (hnot : ∀ p ∈ a.pending.head?, r.tickOffset a.tick ≤ p.step.after.toNat) :
    r.turn ids a =
      if (r.pass a).pending = [] ∧ (r.pass a).service.nextDeadline = none then
        some (close ids (r.tickOffset a.tick) (r.pass a))
      else some (r.pass a) := by
  have hupcoming : r.upcoming? a = none := by
    rw [upcoming?, Option.filter_eq_none_iff]
    intro p hp
    simpa using hnot p hp
  rw [turn, ha, hupcoming]
  rfl

theorem turn_of_concluded (ha : a.conclusion ≠ none) : r.turn ids a = none := by
  rw [turn, if_pos (Option.isSome_iff_ne_none.2 ha)]

/-- The loop ends with the stage that concludes it. -/
theorem mem_eval_of_concluded (hreach : StateTransition.Reaches (r.turn ids) a b)
    (hb : b.conclusion ≠ none) : b ∈ StateTransition.eval (r.turn ids) a :=
  StateTransition.mem_eval.2 ⟨hreach, turn_of_concluded hb⟩

/-- The first step that is left comes before the next tick, or none does. -/
theorem before_or_not (r : Replay) (a : Stage c) :
    (∃ p ps, a.pending = p :: ps ∧ p.step.after.toNat < r.tickOffset a.tick) ∨
      ∀ p ∈ a.pending.head?, r.tickOffset a.tick ≤ p.step.after.toNat := by
  cases a.pending with
  | nil => exact .inr (by simp)
  | cons p ps =>
    by_cases hbefore : p.step.after.toNat < r.tickOffset a.tick
    · exact .inl ⟨p, ps, rfl, hbefore⟩
    · refine .inr fun q hq => ?_
      rw [← Option.some.inj hq]
      exact Nat.le_of_not_lt hbefore

/-- The loop goes on until it has come to a conclusion. -/
theorem turn_ne_none (ha : a.conclusion = none) : r.turn ids a ≠ none := by
  rcases r.before_or_not a with ⟨p, ps, hpending, hbefore⟩ | hnot
  · rw [turn_of_before ha hpending hbefore]
    exact Option.some_ne_none _
  · rw [turn_of_not_before ids ha hnot]
    split_ifs <;> exact Option.some_ne_none _

/-- A turn is a step that comes before the next tick, or that tick, which may be the last one. -/
theorem turn_cases (h : r.turn ids a = some b) :
    a.conclusion = none ∧
      ((∃ p ps, a.pending = p :: ps ∧ p.step.after.toNat < r.tickOffset a.tick ∧
          b = r.carryOut a p) ∨
        (∀ p ∈ a.pending.head?, r.tickOffset a.tick ≤ p.step.after.toNat) ∧
          ((a.pending = [] ∧ (r.pass a).service.nextDeadline = none ∧
              b = close ids (r.tickOffset a.tick) (r.pass a)) ∨
            (a.pending ≠ [] ∨ (r.pass a).service.nextDeadline ≠ none) ∧ b = r.pass a)) := by
  have ha : a.conclusion = none := by
    -- A replay that has concluded takes no further turn.
    by_contra hconcluded
    rw [turn_of_concluded hconcluded] at h
    cases h
  refine ⟨ha, ?_⟩
  rcases r.before_or_not a with ⟨p, ps, hpending, hbefore⟩ | hnot
  · rw [turn_of_before ha hpending hbefore] at h
    exact .inl ⟨p, ps, hpending, hbefore, (Option.some.inj h).symm⟩
  · rw [turn_of_not_before ids ha hnot] at h
    refine .inr ⟨hnot, ?_⟩
    split_ifs at h with hlast
    · exact .inl ⟨hlast.1, hlast.2, (Option.some.inj h).symm⟩
    · exact .inr ⟨not_and_or.1 hlast, (Option.some.inj h).symm⟩

/-! ## 4. The service of a stage -/

@[simp] theorem configuration_service (a : Stage c) : a.service.configuration = c :=
  (Service.new c).configuration_after a.requests

@[simp] theorem service_carryOut (r : Replay) (a : Stage c) (p : ScheduledStep) :
    (r.carryOut a p).service = (a.service.handle (r.request p)).service :=
  Service.after_append _ _ _

/-- A tick does to the service what it does in a replay. -/
@[simp] theorem service_pass (r : Replay) (a : Stage c) :
    (r.pass a).service = (r.tick a.service (r.tickOffset a.tick)).service :=
  Service.after_append _ _ _

theorem service_close (ids : List SessionId) (offset : Nat) (a : Stage c) :
    (close ids offset a).service = (finishAll a.service ids).service := by
  rw [service_finishAll]
  exact Service.after_append _ _ _

theorem service_first (r : Replay) (c : Configuration) (script : Script) :
    (r.first c script).service = (r.startAll (.new c) script.sessions).service :=
  (r.service_startAll _ _).symm

end Replay

end PackageVerification
