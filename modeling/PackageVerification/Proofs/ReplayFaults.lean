import PackageVerification.Proofs.ReplayEnds
import PackageVerification.Proofs.StepFaults

/-!
# Why a replay fails

A replay fails for what its script says and for nothing that happens on the way: because a session
has no verifiers or shares its id, which shows before any step, or because a step asks for more time
than is ever granted. Main statements: `result_startAll_of_first`, `ending_eq_error_iff` and, of a
script as it is read, `replay_faults`.
-/

namespace PackageVerification

/-! ## 1. Sessions that can be started -/

def Startable (xs : List ScriptedSession) : Prop :=
  (∀ x ∈ xs, x.verifiers ≠ []) ∧ (xs.map (·.id)).Nodup

theorem startable_nil : Startable [] := ⟨List.forall_mem_nil _, List.nodup_nil⟩

theorem startable_concat_iff {xs : List ScriptedSession} {x : ScriptedSession} :
    Startable (xs ++ [x]) ↔ Startable xs ∧ x.verifiers ≠ [] ∧ x.id ∉ xs.map (·.id) := by
  have hlast : (xs.map (·.id) ++ [x.id]).Nodup ↔ x.id ∉ xs.map (·.id) ∧ (xs.map (·.id)).Nodup :=
    List.nodup_append_comm.trans List.nodup_cons
  simp only [Startable, List.forall_mem_append, List.forall_mem_singleton, List.map_append,
    List.map_singleton, hlast]
  tauto

/-- The first session that cannot be started has only such before it that can. -/
theorem exists_first_of_not_startable {xs : List ScriptedSession} (h : ¬Startable xs) :
    ∃ before x rest, xs = before ++ x :: rest ∧ Startable before ∧
      (x.verifiers = [] ∨ x.id ∈ before.map (·.id)) := by
  induction xs using List.reverseRecOn with
  | nil => exact absurd startable_nil h
  | append_singleton xs x ih =>
    by_cases hxs : Startable xs
    · refine ⟨xs, x, [], rfl, hxs, ?_⟩
      by_contra hfine
      exact h (startable_concat_iff.2 ⟨hxs, not_or.1 hfine⟩)
    · obtain ⟨before, y, rest, rfl, hy⟩ := ih hxs
      exact ⟨before, y, rest ++ [x], by simp, hy⟩

namespace Service

theorem result_start_of_nil (s : Service) (id : SessionId) (now : Timestamp) :
    (s.start id [] now).result = .error (.noVerifiers id) := rfl

theorem result_start_of_followed {s : Service} {id : SessionId} {roster : Roster}
    (hroster : roster ≠ []) (hx : s.sessions.get? id ≠ none) (now : Timestamp) :
    (s.start id roster now).result = .error (.sessionExists id) := by
  simp [start, enroll_eq, Tracker.hasVerifiers_enrolled, SessionTable.contains_eq, hroster,
    Option.isSome_iff_ne_none, hx]

end Service

def Script.steps (script : Script) : List ScheduledStep :=
  script.sessions.flatMap fun x => x.steps.map fun step => ⟨x.id, step⟩

namespace Replay

variable {c : Configuration} {r : Replay} {script : Script} {a b : Stage c}

theorem startAll_cons_of_error {s : Service} {x : ScriptedSession} {fault : Fault}
    (h : (s.start x.id x.verifiers r.clock).result = .error fault) (xs : List ScriptedSession) :
    (r.startAll s (x :: xs)).result = .error fault := by
  simp only [startAll, h]

/-- Once a session has been started nothing keeps the others from being started after it. -/
theorem exists_startAll_cons_of_ok {s : Service} {x : ScriptedSession} {deadline : Timestamp}
    (h : (s.start x.id x.verifiers r.clock).result = .ok deadline) :
    ∃ s' : Service, ∀ xs, (r.startAll s (x :: xs)).result = (r.startAll s' xs).result ∧
      (r.startAll s (x :: xs)).service = (r.startAll s' xs).service := by
  obtain ⟨-, hx⟩ := Service.get?_start_of_ok h
  simp only [startAll, h]
  cases x.integrity with
  | none => exact ⟨_, fun _ => ⟨rfl, rfl⟩⟩
  | some answer =>
    have hchecked := Service.result_change _ hx fun y => Service.sure (y.recordIntegrity answer)
    simp only [Service.recordIntegrity, hchecked]
    exact ⟨_, fun _ => ⟨rfl, rfl⟩⟩

theorem startAll_append_of_ok {s : Service} {xs : List ScriptedSession}
    (h : (r.startAll s xs).result = .ok ()) (ys : List ScriptedSession) :
    (r.startAll s (xs ++ ys)).result = (r.startAll (r.startAll s xs).service ys).result := by
  induction xs generalizing s with
  | nil => rfl
  | cons x xs ih =>
    cases hstart : (s.start x.id x.verifiers r.clock).result with
    | error fault =>
      rw [startAll_cons_of_error hstart] at h
      cases h
    | ok deadline =>
      obtain ⟨s', hs'⟩ := exists_startAll_cons_of_ok hstart
      rw [(hs' xs).1] at h
      rw [List.cons_append, (hs' (xs ++ ys)).1, (hs' xs).2, ih h]

theorem result_startAll_of_startable (r : Replay) (c : Configuration) {xs : List ScriptedSession}
    (h : Startable xs) : (r.startAll (.new c) xs).result = .ok () := by
  induction xs using List.reverseRecOn with
  | nil => rfl
  | append_singleton xs x ih =>
    obtain ⟨hxs, hroster, hnew⟩ := startable_concat_iff.1 h
    rw [startAll_append_of_ok (ih hxs)]
    -- The ids that are taken are those of the sessions before.
    have hfree : (r.startAll (.new c) xs).service.sessions.get? x.id = none := by
      rw [← not_not (a := _ = none), ← ne_eq, (enlists_startAll (ih hxs)).followed]
      exact not_or.2 ⟨fun htaken => htaken rfl, hnew⟩
    rcases Service.start_cases _ x.id x.verifiers r.clock with
      ⟨hnil | htaken, -⟩ | ⟨-, -, -, -, -, hstart⟩
    · exact absurd hnil hroster
    · exact absurd hfree htaken
    · obtain ⟨s', hs'⟩ := exists_startAll_cons_of_ok hstart
      rw [(hs' []).1]
      rfl

/-- The sessions of a script are started up to the first one that cannot be. -/
theorem result_startAll_of_first (r : Replay) (c : Configuration) {before : List ScriptedSession}
    (h : Startable before) (x : ScriptedSession) (rest : List ScriptedSession) :
    let result := (r.startAll (.new c) (before ++ x :: rest)).result
    (x.verifiers = [] → result = .error (.noVerifiers x.id)) ∧
      (x.verifiers ≠ [] → x.id ∈ before.map (·.id) → result = .error (.sessionExists x.id)) := by
  intro result
  have hbefore := result_startAll_of_startable r c h
  have hresult : result = (r.startAll (r.startAll (.new c) before).service (x :: rest)).result :=
    startAll_append_of_ok hbefore _
  rw [hresult]
  refine ⟨fun hnil => ?_, fun hroster htaken => ?_⟩
  · refine startAll_cons_of_error ?_ rest
    rw [hnil]
    exact Service.result_start_of_nil _ x.id r.clock
  · have hfollowed := ((enlists_startAll hbefore).followed x.id).2 (.inr htaken)
    exact startAll_cons_of_error (Service.result_start_of_followed hroster hfollowed r.clock) rest

/-! ## 2. Steps that ask for too much -/

/-- A step asks for more time than the configuration ever grants. -/
def Exceeds (c : Configuration) (p : ScheduledStep) : Prop :=
  ∃ ms, p.step.action = .extend ms ∧ c.maxExtension < ms

theorem excess?_eq_none_iff {p : ScheduledStep} : excess? c p = none ↔ ¬Exceeds c p := by
  rw [excess?, Exceeds]
  cases p.step.action <;> simp

theorem excess?_of_exceeds {p : ScheduledStep} (h : Exceeds c p) :
    excess? c p = some (.extensionLimit p.session c.maxExtension) := by
  obtain ⟨ms, haction, hms⟩ := h
  rw [excess?, haction]
  exact if_pos hms

/-- A step that is still to come does not fail unless it asks for too much, whatever has become of
its session by then. -/
theorem Underway.result_of_not_exceeds (h : Underway r script a) {p : ScheduledStep}
    (hp : p ∈ a.pending) (hnot : ¬Exceeds c p) :
    ∃ reply, (a.service.handle (r.request p)).result = .ok reply := by
  obtain ⟨x, hx, hid, -⟩ := mem_schedule_iff.1 (h.pending.subset hp)
  have hfollowed := (h.followed p.session).2 (hid ▸ List.mem_map_of_mem hx)
  cases hresult : (a.service.handle (r.request p)).result with
  | error fault =>
    rw [result_request_eq_error_iff hfollowed, excess?_eq_none_iff.2 hnot] at hresult
    cases hresult
  | ok reply => exact ⟨reply, rfl⟩

/-! ## 3. The first step that asks for too much -/

theorem schedule_perm (script : Script) : (schedule script).Perm script.steps :=
  List.mergeSort_perm script.steps _

/-- Steps of one instant keep their order. -/
theorem filter_schedule (script : Script) {f : ScheduledStep → Bool} {n : UInt64}
    (hf : ∀ p, f p = true → p.step.after = n) :
    (schedule script).filter f = script.steps.filter f := by
  have hsorted : (script.steps.filter f).Pairwise fun p q =>
      decide (p.step.after ≤ q.step.after) = true := by
    refine List.pairwise_of_forall_mem_list fun p hp q hq => ?_
    rw [hf p (List.mem_filter.1 hp).2, hf q (List.mem_filter.1 hq).2]
    exact decide_eq_true (UInt64.le_refl n)
  have hsublist : (script.steps.filter f).Sublist (schedule script) :=
    List.sublist_mergeSort decide_after_le_trans decide_after_le_total hsorted List.filter_sublist
  have hfiltered := hsublist.filter f
  rw [List.filter_filter, List.filter_congr fun p _ => Bool.and_self (f p)] at hfiltered
  exact (hfiltered.eq_of_length ((schedule_perm script).filter f).length_eq.symm).symm

/-- What the schedule has before a step is in the script, and not later than the step. -/
theorem mem_steps_of_early {early late : List ScheduledStep} {p q : ScheduledStep}
    (h : schedule script = early ++ p :: late) (hq : q ∈ early) :
    q ∈ script.steps ∧ q.step.after.toNat ≤ p.step.after.toNat := by
  constructor
  · have hmem : q ∈ schedule script := h ▸ List.mem_append_left _ hq
    exact (schedule_perm script).mem_iff.1 hmem
  · have hsorted := pairwise_schedule script
    rw [h] at hsorted
    exact (List.pairwise_append.1 hsorted).2.2 q hq p List.mem_cons_self

/-- Of the steps that ask for too much the earliest one comes first, and of several at that time the
one that the script has first. -/
theorem findSome?_schedule {before rest : List ScheduledStep} {p : ScheduledStep}
    (hsteps : script.steps = before ++ p :: rest) (hp : Exceeds c p)
    (hbefore : ∀ q ∈ before, Exceeds c q → p.step.after < q.step.after)
    (hrest : ∀ q ∈ rest, Exceeds c q → p.step.after ≤ q.step.after) :
    (schedule script).findSome? (excess? c) =
      some (.extensionLimit p.session c.maxExtension) := by
  let f := fun q => (excess? c q).isSome && q.step.after == p.step.after
  have hexceeds : ∀ q, f q = true ↔ Exceeds c q ∧ q.step.after = p.step.after := by
    intro q
    rw [Bool.and_eq_true, beq_iff_eq, Option.isSome_iff_ne_none, ne_eq, excess?_eq_none_iff,
      not_not]
  -- Among the steps of its instant it is the first that asks for too much.
  have hfilter : (schedule script).filter f = p :: rest.filter f := by
    have hnone : before.filter f = [] := by
      refine List.filter_eq_nil_iff.2 fun q hq hqf => ?_
      obtain ⟨hqc, hafter⟩ := (hexceeds q).1 hqf
      exact UInt64.lt_irrefl _ (hafter ▸ hbefore q hq hqc)
    rw [filter_schedule script fun q hq => ((hexceeds q).1 hq).2, hsteps, List.filter_append, hnone,
      List.filter_cons_of_pos ((hexceeds p).2 ⟨hp, rfl⟩), List.nil_append]
  obtain ⟨-, early, late, hschedule, hearly⟩ := List.find?_eq_some_iff_append.1
    (List.head?_filter.symm.trans (congrArg List.head? hfilter))
  -- What comes before it in the schedule is not later, so that it does not ask for too much.
  have hfaultless : early.findSome? (excess? c) = none := by
    refine List.findSome?_eq_none_iff.2 fun q hq => excess?_eq_none_iff.2 fun hqc => ?_
    obtain ⟨hmem, hle⟩ := mem_steps_of_early hschedule hq
    have hne : q.step.after ≠ p.step.after := fun hafter => by
      have hnot := hearly q hq
      rw [(hexceeds q).2 ⟨hqc, hafter⟩] at hnot
      cases hnot
    have hlt : q.step.after < p.step.after :=
      UInt64.lt_of_le_of_ne (UInt64.le_iff_toNat_le.2 hle) hne
    rw [hsteps] at hmem
    rcases List.mem_append.1 hmem with hq | hq
    · exact UInt64.lt_asymm hlt (hbefore q hq hqc)
    · rcases List.mem_cons.1 hq with rfl | hq
      · exact hne rfl
      · exact UInt64.not_lt.2 (hrest q hq hqc) hlt
  rw [hschedule, List.findSome?_append, hfaultless, Option.none_or, List.findSome?_cons,
    excess?_of_exceeds hp]

/-- A replay fails for want of verifiers, for an id that is taken or for a step that asks for too
much time, or it succeeds. -/
theorem ending_script_cases (r : Replay) (c : Configuration) (script : Script) :
    let ending := (r.run (.new c) script).ending
    (¬Startable script.sessions ∧
        ∃ id, ending = .error (.noVerifiers id) ∨ ending = .error (.sessionExists id)) ∨
      (Startable script.sessions ∧
        ∃ p ∈ script.steps, Exceeds c p ∧
          ending = .error (.extensionLimit p.session c.maxExtension)) ∨
      (Startable script.sessions ∧ (∀ p ∈ script.steps, ¬Exceeds c p) ∧
        ∃ summaries, ending = .ok summaries) := by
  intro ending
  by_cases hstartable : Startable script.sessions
  · have hstarted := result_startAll_of_startable r c hstartable
    have hmem : ∀ p, p ∈ schedule script ↔ p ∈ script.steps := fun _ =>
      (schedule_perm script).mem_iff
    -- All sessions start, so that the replay can only fail by a step that asks for too much.
    right
    rcases ending_of_started hstarted with
      ⟨fault, hfirst, hending⟩ | ⟨hnone, a, hreach, ha, -, hdeadline, hending⟩
    · obtain ⟨p, hp, hexcess⟩ := List.exists_of_findSome?_eq_some hfirst
      have hpc : Exceeds c p := by
        by_contra hnot
        rw [excess?_eq_none_iff.2 hnot] at hexcess
        cases hexcess
      obtain rfl := Option.some.inj (hexcess.symm.trans (excess?_of_exceeds hpc))
      exact .inl ⟨hstartable, p, (hmem p).1 hp, hpc, hending⟩
    · obtain ⟨summaries, hresult, -⟩ :=
        (underway_of_reaches hreach ha).finished hstarted hdeadline
      refine .inr ⟨hstartable, fun p hp => excess?_eq_none_iff.1 ?_, summaries, ?_⟩
      · exact List.findSome?_eq_none_iff.1 hnone p ((hmem p).2 hp)
      · exact hending.trans hresult
  -- The first session that cannot start is the one that is reported.
  · obtain ⟨before, x, rest, hsessions, hbefore, hx⟩ := exists_first_of_not_startable hstartable
    obtain ⟨hnil, htaken⟩ := result_startAll_of_first r c hbefore x rest
    rw [← hsessions] at hnil htaken
    refine .inl ⟨hstartable, x.id, ?_⟩
    by_cases hroster : x.verifiers = []
    · exact .inl (ending_of_not_started (hnil hroster))
    · exact .inr (ending_of_not_started (htaken hroster (hx.resolve_left hroster)))

/-- Exactly the scripts fail that name a session without verifiers or one session twice, or in which
a step asks for too much time. -/
theorem ending_eq_error_iff (r : Replay) (c : Configuration) (script : Script) :
    (∃ fault, (r.run (.new c) script).ending = .error fault) ↔
      ¬Startable script.sessions ∨ ∃ p ∈ script.steps, Exceeds c p := by
  rcases ending_script_cases r c script with
    ⟨hnot, id, hending | hending⟩ | ⟨-, p, hp, hpc, hending⟩ |
      ⟨hstartable, hnone, summaries, hending⟩
  · exact iff_of_true ⟨_, hending⟩ (.inl hnot)
  · exact iff_of_true ⟨_, hending⟩ (.inl hnot)
  · exact iff_of_true ⟨_, hending⟩ (.inr ⟨p, hp, hpc⟩)
  · refine iff_of_false ?_ ?_
    · rintro ⟨fault, hfault⟩
      rw [hending] at hfault
      cases hfault
    · rintro (hnot | ⟨p, hp, hpc⟩)
      · exact hnot hstartable
      · exact hnone p hp hpc

theorem ending_ne_unknownSession (r : Replay) (c : Configuration) (script : Script)
    (id : SessionId) : (r.run (.new c) script).ending ≠ .error (.unknownSession id) := by
  rcases ending_script_cases r c script with
    ⟨-, _, hending | hending⟩ | ⟨-, _, -, -, hending⟩ | ⟨-, -, _, hending⟩
  all_goals
    rw [hending]
    simp

/-! ## 4. Scripts as they are read -/

/-- To read a list is to read each of its members. -/
theorem forall₂_of_mapM_eq_ok {α β ε : Type} {f : α → Except ε β} {xs : List α} {ys : List β}
    (h : xs.mapM f = .ok ys) : List.Forall₂ (fun x y => f x = .ok y) xs ys := by
  induction xs generalizing ys with
  | nil =>
    obtain rfl := Except.ok.inj h
    exact .nil
  | cons x xs ih =>
    rw [List.mapM_cons] at h
    cases hx : f x with
    | error e =>
      rw [hx] at h
      cases h
    | ok y =>
      cases hxs : xs.mapM f with
      | error e =>
        rw [hx, hxs] at h
        cases h
      | ok zs =>
        rw [hx, hxs] at h
        obtain rfl := Except.ok.inj h
        exact .cons hx (ih hxs)

end Replay

/-- A session of a script is the session that is written: each written step has the one action that
is carried out. -/
def Script.IsFormOf (form : SessionForm) (x : ScriptedSession) : Prop :=
  form.id = x.id ∧ form.verifiers = x.verifiers ∧ form.integrity = x.integrity ∧
    List.Forall₂ (fun f step => f.step = .ok step) form.steps x.steps

theorem Script.isFormOf_of_session {form : SessionForm} {x : ScriptedSession}
    (h : form.session = .ok x) : IsFormOf form x := by
  rw [SessionForm.session] at h
  cases hsteps : form.steps.mapM StepForm.step with
  | error fault =>
    rw [hsteps] at h
    cases h
  | ok steps =>
    rw [hsteps] at h
    obtain rfl := Except.ok.inj h
    exact ⟨rfl, rfl, rfl, Replay.forall₂_of_mapM_eq_ok hsteps⟩

theorem Script.exists_forms_of_read {text : String} {script : Script}
    (h : Script.read text = .ok script) :
    ∃ forms, (Toml.parse text).bind (formsOfData? Toml.dialect) = some forms ∧
      List.Forall₂ IsFormOf forms script.sessions := by
  rw [Script.read] at h
  cases hforms : (Toml.parse text).bind (formsOfData? Toml.dialect) with
  | none =>
    rw [hforms] at h
    cases h
  | some forms =>
    rw [hforms] at h
    cases hsessions : forms.mapM SessionForm.session with
    | error fault =>
      simp only [hsessions] at h
      cases h
    | ok sessions =>
      simp only [hsessions] at h
      obtain rfl := Except.ok.inj h
      have hforms := Replay.forall₂_of_mapM_eq_ok hsessions
      exact ⟨forms, rfl, hforms.imp fun _ _ => isFormOf_of_session⟩

namespace Replay

/-- Why a script that has been read fails in a replay, and with what. It fails if a session has no
verifiers, two sessions share an id or a step asks for too much time. The fault is that of the first
session without verifiers or with an id of one before it; if there is none, that of the earliest
step that asks for too much, the first in the script of several at that time. No other step fails,
whatever has become of its session by the time at which it comes, and each step that is written has
the one action that is carried out. -/
theorem replay_faults (r : Replay) (c : Configuration) {text : String} {script : Script}
    (hread : Script.read text = .ok script) :
    let ending := (r.run (.new c) script).ending
    ((∃ fault, ending = .error fault) ↔
      (∃ x ∈ script.sessions, x.verifiers = []) ∨ ¬(script.sessions.map (·.id)).Nodup ∨
        ∃ p ∈ script.steps, Exceeds c p) ∧
    (∀ before x rest, script.sessions = before ++ x :: rest → Startable before →
      (x.verifiers = [] → ending = .error (.noVerifiers x.id)) ∧
      (x.verifiers ≠ [] → x.id ∈ before.map (·.id) → ending = .error (.sessionExists x.id))) ∧
    (Startable script.sessions →
      ∀ before p rest, script.steps = before ++ p :: rest → Exceeds c p →
        (∀ q ∈ before, Exceeds c q → p.step.after < q.step.after) →
        (∀ q ∈ rest, Exceeds c q → p.step.after ≤ q.step.after) →
        ending = .error (.extensionLimit p.session c.maxExtension)) ∧
    (∀ id, ending ≠ .error (.unknownSession id)) ∧
    (∀ a : Stage c,
      StateTransition.Reaches (r.turn (script.sessions.map (·.id))) (r.first c script) a →
      a.conclusion = none → ∀ p ∈ a.pending, ¬Exceeds c p →
        ∃ reply, (a.service.handle (r.request p)).result = .ok reply) ∧
    ∃ forms, (Toml.parse text).bind (Script.formsOfData? Toml.dialect) = some forms ∧
      List.Forall₂ Script.IsFormOf forms script.sessions := by
  intro ending
  refine ⟨?_, fun before x rest hsessions hbefore => ?_, ?_,
    r.ending_ne_unknownSession c script, ?_, Script.exists_forms_of_read hread⟩
  · rw [ending_eq_error_iff, Startable, not_and_or, or_assoc]
    simp only [not_forall, not_not, exists_prop]
  · obtain ⟨hnil, htaken⟩ := result_startAll_of_first r c hbefore x rest
    rw [← hsessions] at hnil htaken
    exact ⟨fun h => ending_of_not_started (hnil h), fun h h' => ending_of_not_started (htaken h h')⟩
  -- The schedule has the step that is described here before all others that ask for too much.
  · intro hstartable before p rest hsteps hp hbefore hrest
    have hfirst := findSome?_schedule hsteps hp hbefore hrest
    rcases ending_of_started (result_startAll_of_startable r c hstartable) with
      ⟨fault, hfault, hending⟩ | ⟨hnone, -⟩
    · exact hending.trans (congrArg Except.error (Option.some.inj (hfault.symm.trans hfirst)))
    · rw [hfirst] at hnone
      cases hnone
  · intro a hreach ha p hp hnot
    exact (underway_of_reaches hreach ha).result_of_not_exceeds hp hnot

/-- Two sessions ask for more than nine milliseconds. The second one asks first, although it has
been decided by then, and it is its step that fails. -/
theorem replay_faults_of_decided_session :
    let r : Replay := ⟨⟨1000⟩, 10⟩
    let c : Configuration := { Configuration.default with maxExtension := 9 }
    let text :=
      "session = [[1, [[5, 'required']], 1, [\x7bverifier = 5, after_ms = 4, extend_ms = 99\x7d]]," ++
      "[2, [[5, 'required']], 1, [[5, 0, 1], \x7bverifier = 5, extend_ms = 10\x7d]]]"
    let script : Script := ⟨[
      ⟨⟨1⟩, [(⟨5⟩, .required)], some .allow, [⟨⟨5⟩, 4, .extend 99⟩]⟩,
      ⟨⟨2⟩, [(⟨5⟩, .required)], some .allow,
        [⟨⟨5⟩, 0, .respond .allow⟩, ⟨⟨5⟩, 0, .extend 10⟩]⟩]⟩
    Script.read text = .ok script ∧ Startable script.sessions ∧
      (r.run (.new c) script).ending = .error (.extensionLimit ⟨2⟩ 9) := by
  intro r c text script
  have hread : Script.read text = .ok script := by
    have htext : (Script.read text).toOption = some script := by
      -- The pieces are shorter to evaluate than the whole.
      rw [Script.read, Toml.parse]
      simp only [text, String.toList_append]
      decide +kernel
    cases hread : Script.read text with
    | error fault =>
      rw [hread] at htext
      cases htext
    | ok script' =>
      rw [hread] at htext
      exact congrArg Except.ok (Option.some.inj htext)
  have hstartable : Startable script.sessions := ⟨by decide, by decide⟩
  obtain ⟨-, -, hlimit, -⟩ := replay_faults r c hread
  refine ⟨hread, hstartable, hlimit hstartable
    [⟨⟨1⟩, ⟨5⟩, 4, .extend 99⟩, ⟨⟨2⟩, ⟨5⟩, 0, .respond .allow⟩] ⟨⟨2⟩, ⟨5⟩, 0, .extend 10⟩ [] rfl
    ⟨10, rfl, by decide⟩ ?_ (List.forall_mem_nil _)⟩
  refine List.forall_mem_cons.2 ⟨fun _ => by decide, List.forall_mem_singleton.2 ?_⟩
  rintro ⟨ms, haction, -⟩
  cases haction

end Replay

end PackageVerification
