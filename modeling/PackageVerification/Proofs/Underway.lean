import PackageVerification.Proofs.QuietTicks

/-!
# A replay under way

While a replay is under way its service follows the sessions of the script and no other. Main
statements: `underway_of_reaches`, what holds of every stage on the way; `outcome_cases`, the three
ways in which a replay ends.
-/

namespace PackageVerification

/-! ## 1. Who is followed -/

/-- A request neither begins nor ends a session, unless it is made to do so. -/
theorem Service.followed_handle_iff (s : Service) {q : Request}
    (hstart : ∀ id roster now, q ≠ .start id roster now) (hfinish : ∀ id, q ≠ .finish id)
    (id : SessionId) :
    (s.handle q).service.sessions.get? id ≠ none ↔ s.sessions.get? id ≠ none := by
  rw [s.sessions_handle hstart hfinish, SessionTable.get?_map, ne_eq, Option.map_eq_none_iff]

namespace Replay

/-- A service has come to follow the sessions of a script, none of which it followed before. -/
structure Enlists (s s' : Service) (xs : List ScriptedSession) : Prop where
  nodup : (xs.map (·.id)).Nodup
  free : ∀ x ∈ xs, s.sessions.get? x.id = none
  followed : ∀ id, s'.sessions.get? id ≠ none ↔
    s.sessions.get? id ≠ none ∨ id ∈ xs.map (·.id)

theorem Enlists.cons {s started s' : Service} {x : ScriptedSession} {xs : List ScriptedSession}
    (hfree : s.sessions.get? x.id = none)
    (hstarted : ∀ id, started.sessions.get? id ≠ none ↔ s.sessions.get? id ≠ none ∨ id = x.id)
    (h : Enlists started s' xs) : Enlists s s' (x :: xs) := by
  have hothers : ∀ y ∈ xs, s.sessions.get? y.id = none ∧ y.id ≠ x.id := by
    intro y hy
    have hnot := (not_congr (hstarted y.id)).1 (not_not.2 (h.free y hy))
    exact ⟨not_not.1 fun h => hnot (.inl h), fun h => hnot (.inr h)⟩
  refine ⟨?_, List.forall_mem_cons.2 ⟨hfree, fun y hy => (hothers y hy).1⟩, fun id => ?_⟩
  · rw [List.map_cons, List.nodup_cons, List.mem_map]
    refine ⟨?_, h.nodup⟩
    rintro ⟨y, hy, hid⟩
    exact (hothers y hy).2 hid
  · rw [h.followed, hstarted, List.map_cons, List.mem_cons, or_assoc]

/-- A script that could be started names each session once, and its sessions are followed. -/
theorem enlists_startAll {r : Replay} {s : Service} {xs : List ScriptedSession}
    (h : (r.startAll s xs).result = .ok ()) : Enlists s (r.startAll s xs).service xs := by
  induction xs generalizing s with
  | nil => exact ⟨List.nodup_nil, List.forall_mem_nil _, fun id => by simp [startAll]⟩
  | cons x xs ih =>
    rw [startAll] at h ⊢
    rcases s.start_cases x.id x.verifiers r.clock with
      ⟨-, -, fault, hresult⟩ | ⟨-, hfree, hsessions, -, -, hresult⟩
    · simp only [hresult] at h
      cases h
    -- The start puts one identifier on the books; the integrity report that may follow adds none.
    · let started := (s.start x.id x.verifiers r.clock).service
      have hstarted : ∀ id, started.sessions.get? id ≠ none ↔
          s.sessions.get? id ≠ none ∨ id = x.id := by
        intro id
        rw [hsessions, SessionTable.get?_insert, Session.id_fresh]
        by_cases hid : x.id = id
        · simp [hid]
        · simp [hid, Ne.symm hid]
      simp only [hresult] at h ⊢
      cases hintegrity : x.integrity with
      | none =>
        simp only [hintegrity] at h ⊢
        exact (ih h).cons hfree hstarted
      | some answer =>
        have hchecked := started.followed_handle_iff (q := .recordIntegrity x.id answer)
          (by simp) (by simp)
        simp only [hintegrity] at h ⊢
        cases hcheck : (started.recordIntegrity x.id answer).result with
        | error fault =>
          simp only [started, hcheck] at h
          cases h
        | ok complete =>
          simp only [started, hcheck] at h ⊢
          exact (ih h).cons hfree fun id => (hchecked id).trans (hstarted id)

/-- To finish sessions that are followed tells how each of them stands, and none of them is followed
after that. -/
theorem finishAll_ok {s : Service} {ids : List SessionId} (hnodup : ids.Nodup)
    (hfollowed : ∀ id ∈ ids, s.sessions.get? id ≠ none) :
    ∃ summaries, (finishAll s ids).result = .ok summaries ∧ summaries.map (·.session) = ids ∧
      (∀ y ∈ summaries, ∃ x, s.sessions.get? y.session = some x ∧ y = x.summary) ∧
      (finishAll s ids).service.events = s.events ∧
      ∀ i, (finishAll s ids).service.sessions.get? i =
        if i ∈ ids then none else s.sessions.get? i := by
  induction ids generalizing s with
  | nil => exact ⟨[], rfl, rfl, List.forall_mem_nil _, rfl, fun _ => rfl⟩
  | cons id ids ih =>
    obtain ⟨hnot, hnodup⟩ := List.nodup_cons.1 hnodup
    obtain ⟨x, hx⟩ := Option.ne_none_iff_exists'.1 (hfollowed id List.mem_cons_self)
    have hid := SessionTable.id_of_get? hx
    have hresult : (s.finish id).result = .ok x.summary := by rw [Service.finish, hx]
    have hsessions := (s.service_finish id).2.2
    have hothers : ∀ i ∈ ids, (s.finish id).service.sessions.get? i = s.sessions.get? i := by
      intro i hi
      have hne : id ≠ i := by
        rintro rfl
        exact hnot hi
      rw [hsessions, if_neg hne]
    obtain ⟨summaries, hrest, hids, hsummaries, hevents, hafter⟩ := ih hnodup fun i hi => by
      rw [hothers i hi]
      exact hfollowed i (List.mem_cons_of_mem _ hi)
    refine ⟨x.summary :: summaries, ?_, ?_, fun y hy => ?_, ?_, fun i => ?_⟩
    · simp only [finishAll, hresult, hrest]
      rfl
    · rw [List.map_cons, hids, ← hid]
      rfl
    · rcases List.mem_cons.1 hy with rfl | hy
      · exact ⟨x, show s.sessions.get? x.id = some x from hid.symm ▸ hx, rfl⟩
      · obtain ⟨z, hz, hyz⟩ := hsummaries y hy
        exact ⟨z, (hothers _ (hids ▸ List.mem_map_of_mem hy)).symm.trans hz, hyz⟩
    · simp only [finishAll, hresult]
      exact hevents.trans (s.service_finish id).2.1
    · simp only [finishAll, hresult]
      rw [hafter, hsessions]
      by_cases hi : id = i
      · simp [hi]
      · simp [hi, Ne.symm hi]

/-- What finishing comes to is a matter of the sessions. -/
theorem finishAll_congr {s s' : Service} {ids : List SessionId}
    (h : ∀ id, s.sessions.get? id = s'.sessions.get? id) :
    (finishAll s ids).result = (finishAll s' ids).result := by
  induction ids generalizing s s' with
  | nil => rfl
  | cons id ids ih =>
    have hfinish : (s.finish id).result = (s'.finish id).result := by
      rw [Service.finish, Service.finish, h]
      cases s'.sessions.get? id <;> rfl
    have hothers : ∀ i, (s.finish id).service.sessions.get? i =
        (s'.finish id).service.sessions.get? i := by
      intro i
      rw [(s.service_finish id).2.2, (s'.service_finish id).2.2, h]
    rw [finishAll, finishAll, hfinish]
    cases (s'.finish id).result with
    | error fault => rfl
    | ok summary => exact congrArg (Except.map (summary :: ·)) (ih hothers)

/-! ## 2. The steps of a script -/

theorem decide_after_le_trans (p q s : ScheduledStep)
    (hpq : decide (p.step.after ≤ q.step.after) = true)
    (hqs : decide (q.step.after ≤ s.step.after) = true) :
    decide (p.step.after ≤ s.step.after) = true := by
  rw [decide_eq_true_eq, UInt64.le_iff_toNat_le] at hpq hqs ⊢
  exact hpq.trans hqs

theorem decide_after_le_total (p q : ScheduledStep) :
    (decide (p.step.after ≤ q.step.after) || decide (q.step.after ≤ p.step.after)) = true := by
  rw [Bool.or_eq_true, decide_eq_true_eq, decide_eq_true_eq, UInt64.le_iff_toNat_le,
    UInt64.le_iff_toNat_le]
  exact Nat.le_total _ _

theorem pairwise_schedule (script : Script) :
    (schedule script).Pairwise fun p q => p.step.after.toNat ≤ q.step.after.toNat := by
  have hsorted : (schedule script).Pairwise fun p q =>
      decide (p.step.after ≤ q.step.after) = true :=
    List.pairwise_mergeSort decide_after_le_trans decide_after_le_total _
  refine hsorted.imp fun h => ?_
  rwa [decide_eq_true_eq, UInt64.le_iff_toNat_le] at h

theorem mem_schedule_iff {script : Script} {p : ScheduledStep} :
    p ∈ schedule script ↔ ∃ x ∈ script.sessions, p.session = x.id ∧ p.step ∈ x.steps := by
  rw [schedule, List.mem_mergeSort]
  simp only [List.mem_flatMap, List.mem_map]
  constructor
  · rintro ⟨x, hx, step, hstep, rfl⟩
    exact ⟨x, hx, rfl, hstep⟩
  · rintro ⟨x, hx, hid, hstep⟩
    exact ⟨x, hx, p.step, hstep, by rw [← hid]⟩

/-! ## 3. Stages on the way -/

variable {c : Configuration} {r : Replay} {script : Script} {a b : Stage c}

structure Underway (r : Replay) (script : Script) (a : Stage c) : Prop where
  followed : ∀ id, a.service.sessions.get? id ≠ none ↔ id ∈ script.sessions.map (·.id)
  pending : a.pending <:+ schedule script
  /-- No step from before the last tick is left. -/
  late : ∀ n, a.tick = n + 1 → ∀ p ∈ a.pending, r.tickOffset n ≤ p.step.after.toNat
  /-- A step or a deadline came after the last tick. -/
  reason :
    ∀ n, a.tick = n + 1 →
      (∃ p ∈ schedule script, r.tickOffset n ≤ p.step.after.toNat) ∨
        ∃ id x, a.service.sessions.get? id = some x ∧
          r.clock.millis.toNat + r.tickOffset n < x.deadline.millis.toNat

variable {p : ScheduledStep} {ps : List ScheduledStep}

theorem Underway.mem_schedule (h : Underway r script a) (hp : a.pending = p :: ps) :
    p ∈ schedule script :=
  h.pending.subset (hp ▸ List.mem_cons_self)

/-- The session of a step that is left is followed. -/
theorem Underway.followed_step (h : Underway r script a) (hp : a.pending = p :: ps) :
    a.service.sessions.get? p.session ≠ none := by
  obtain ⟨x, hx, hid, -⟩ := mem_schedule_iff.1 (h.mem_schedule hp)
  exact (h.followed _).2 (hid ▸ List.mem_map_of_mem hx)

theorem underway_first (h : (r.startAll (.new c) script.sessions).result = .ok ()) :
    Underway r script (r.first c script) where
  followed id := by
    rw [service_first, (enlists_startAll h).followed]
    exact or_iff_right fun hnew => hnew rfl
  pending := List.suffix_rfl
  late n hn := absurd hn.symm (Nat.succ_ne_zero n)
  reason n hn := absurd hn.symm (Nat.succ_ne_zero n)

/-- The deadline of a session that is followed is not moved to an earlier instant by a request. -/
theorem exists_deadline_le_handle {s : Service} {q : Request} (hfinish : ∀ id, q ≠ .finish id)
    {id : SessionId} {x : Session} (hx : s.sessions.get? id = some x) :
    ∃ y, (s.handle q).service.sessions.get? id = some y ∧
      x.deadline.millis.toNat ≤ y.deadline.millis.toNat :=
  ⟨_, s.get?_handle hx (hfinish id), Timestamp.le_iff.1 (x.deadline_le_react _ q)⟩

theorem Underway.carryOut (h : Underway r script a) (p : ScheduledStep) :
    Underway r script (r.carryOut a p) where
  followed id := by
    rw [service_carryOut, Service.followed_handle_iff _ (r.request_ne_start p)
      (r.request_ne_finish p), h.followed]
  pending := (List.tail_suffix _).trans h.pending
  late n hn q hq := h.late n hn q (List.mem_of_mem_tail hq)
  reason n hn := by
    refine (h.reason n hn).imp_right ?_
    rintro ⟨id, x, hx, hlt⟩
    obtain ⟨y, hy, hle⟩ := exists_deadline_le_handle (r.request_ne_finish p) hx
    exact ⟨id, y, (r.service_carryOut a p).symm ▸ hy, Nat.lt_of_lt_of_le hlt hle⟩

theorem get?_pass (r : Replay) (a : Stage c) (id : SessionId) :
    (r.pass a).service.sessions.get? id =
      (a.service.handle (.expire (r.instant (r.tickOffset a.tick)))).service.sessions.get? id := by
  rw [service_pass]
  rfl

theorem Underway.followed_pass (h : Underway r script a) (id : SessionId) :
    (r.pass a).service.sessions.get? id ≠ none ↔ id ∈ script.sessions.map (·.id) := by
  rw [get?_pass, Service.followed_handle_iff (q := .expire _) _ (by simp) (by simp), h.followed]

/-- The steps are in the order of their times, so that none is before an offset if the first is not.
-/
theorem Underway.le_of_head (h : Underway r script a) {offset : Nat}
    (hnot : ∀ p ∈ a.pending.head?, offset ≤ p.step.after.toNat) :
    ∀ p ∈ a.pending, offset ≤ p.step.after.toNat := by
  intro p hp
  have hsorted := (pairwise_schedule script).sublist h.pending.sublist
  cases hpending : a.pending with
  | nil =>
    rw [hpending] at hp
    cases hp
  | cons q qs =>
    have hfirst := hnot q (by rw [hpending]; rfl)
    rw [hpending] at hp hsorted
    rcases List.mem_cons.1 hp with rfl | hin
    · exact hfirst
    · exact hfirst.trans (List.rel_of_pairwise_cons hsorted hin)

/-- If somebody waits after a tick, it is for a deadline ahead. -/
theorem exists_lt_deadline_pass (h : (r.pass a).service.nextDeadline ≠ none) :
    ∃ id x, (r.pass a).service.sessions.get? id = some x ∧
      r.clock.millis.toNat + r.tickOffset a.tick < x.deadline.millis.toNat := by
  obtain ⟨x, hx, hopen⟩ : ∃ x ∈ (r.pass a).service.sessions.toList, x.isOpen = true := by
    by_contra hnone
    refine h (SessionTable.nextDeadline_eq_none_iff.2 fun x hx => ?_)
    by_contra hopen
    exact hnone ⟨x, hx, by simpa using hopen⟩
  refine ⟨x.id, x, SessionTable.mem_toList_iff.1 hx, ?_⟩
  by_contra hstruck
  have hdue : x.isDue (r.instant (r.tickOffset a.tick)) = true :=
    isDue_instant_iff.2 ⟨hopen, Nat.le_of_not_lt hstruck⟩
  obtain ⟨d, hd, hle⟩ := exists_isDue_iff.1 ⟨x, hx, hdue⟩
  exact Nat.not_lt_of_le hle (lt_of_mem_nextDeadline_pass hd)

theorem Underway.pass (h : Underway r script a)
    (hnot : ∀ p ∈ a.pending.head?, r.tickOffset a.tick ≤ p.step.after.toNat)
    (hrest : a.pending ≠ [] ∨ (r.pass a).service.nextDeadline ≠ none) :
    Underway r script (r.pass a) where
  followed := h.followed_pass
  pending := h.pending
  late n hn := by
    obtain rfl := Nat.succ.inj hn
    exact h.le_of_head hnot
  reason n hn := by
    obtain rfl := Nat.succ.inj hn
    refine hrest.imp (fun hpending => ?_) exists_lt_deadline_pass
    obtain ⟨p, ps, hps⟩ := List.exists_cons_of_ne_nil hpending
    exact ⟨p, h.mem_schedule hps, hnot p (by rw [hps]; rfl)⟩

/-- A replay is under way only if its sessions could be started. -/
theorem started_of_reaches {ids : List SessionId}
    (hreach : StateTransition.Reaches (r.turn ids) (r.first c script) a)
    (ha : a.conclusion = none) : (r.startAll (.new c) script.sessions).result = .ok () := by
  have hfirst : (r.first c script).conclusion = none := by
    rcases Relation.ReflTransGen.cases_head hreach with rfl | ⟨b, hturn, -⟩
    · exact ha
    · exact (turn_cases hturn).1
  rw [first] at hfirst
  cases hresult : (r.startAll (.new c) script.sessions).result with
  | ok _ => rfl
  | error fault =>
    simp only [hresult] at hfirst
    cases hfirst

/-- Every stage on the way is what it has to be. -/
theorem underway_of_reaches
    (hreach : StateTransition.Reaches (r.turn (script.sessions.map (·.id))) (r.first c script) a)
    (ha : a.conclusion = none) : Underway r script a := by
  have hstarted := started_of_reaches hreach ha
  induction hreach with
  | refl => exact underway_first hstarted
  | tail _ hturn ih =>
    obtain ⟨hbefore, ⟨p, ps, -, -, rfl⟩ | ⟨hnot, ⟨-, -, rfl⟩ | ⟨hrest, rfl⟩⟩⟩ := turn_cases hturn
    · exact (ih hbefore).carryOut p
    · cases ha
    · exact (ih hbefore).pass hnot hrest

/-! ## 4. How a replay ends -/

/-- A replay ends when a session cannot be started, when a step fails, or with a tick after which
nothing is left to do. -/
theorem outcome_cases (hb : b ∈ r.outcome c script) :
    (∃ fault, (r.startAll (.new c) script.sessions).result = .error fault ∧
        b.conclusion = some ⟨0, .error fault⟩) ∨
      (r.startAll (.new c) script.sessions).result = .ok () ∧
      ∃ a : Stage c, Underway r script a ∧ a.conclusion = none ∧
        StateTransition.Reaches (r.turn (script.sessions.map (·.id))) (r.first c script) a ∧
        ((∃ p ps fault, a.pending = p :: ps ∧ p.step.after.toNat < r.tickOffset a.tick ∧
            (a.service.handle (r.request p)).result = .error fault ∧
            b.conclusion = some ⟨p.step.after.toNat, .error fault⟩) ∨
          a.pending = [] ∧ (r.pass a).service.nextDeadline = none ∧
            b = close (script.sessions.map (·.id)) (r.tickOffset a.tick) (r.pass a)) := by
  obtain ⟨hreach, hend⟩ := StateTransition.mem_eval.1 hb
  have hconcluded : b.conclusion ≠ none := fun h => turn_ne_none h hend
  cases hresult : (r.startAll (.new c) script.sessions).result with
  | error fault =>
    have hfirst : (r.first c script).conclusion = some ⟨0, .error fault⟩ := by rw [first, hresult]
    -- A replay whose start failed takes no turn, so its first stage is its last.
    rcases Relation.ReflTransGen.cases_head hreach with rfl | ⟨a, hturn, -⟩
    · exact .inl ⟨fault, rfl, hfirst⟩
    · rw [turn_of_concluded (by rw [hfirst]; exact Option.some_ne_none _)] at hturn
      cases hturn
  | ok _ =>
    right
    rcases Relation.ReflTransGen.cases_tail hreach with rfl | ⟨a, hreach, hturn⟩
    · exact absurd (by rw [first, hresult]) hconcluded
    · obtain ⟨ha, hcases⟩ := turn_cases hturn
      refine ⟨rfl, a, underway_of_reaches hreach ha, ha, hreach, ?_⟩
      -- Only two turns conclude: a step that fails, and the last tick.
      obtain ⟨p, ps, hpending, hbefore, rfl⟩ | ⟨-, ⟨hpending, hdeadline, rfl⟩ | ⟨-, rfl⟩⟩ := hcases
      · left
        cases hhandle : (a.service.handle (r.request p)).result with
        | error fault =>
          exact ⟨p, ps, fault, hpending, hbefore, hhandle, by simp only [carryOut, hhandle]⟩
        | ok reply => exact absurd (by simp only [carryOut, hhandle]) hconcluded
      · exact .inr ⟨hpending, hdeadline, rfl⟩
      · exact absurd ha hconcluded

end Replay

end PackageVerification
