import PackageVerification.Proofs.Turns

/-!
# The ticks that are skipped

A replay visits only the ticks at which something can happen. At the others nobody is due and no
event waits, so they leave the service as it is. Main statement: `exists_outcome`, the loop comes to
an end, and a replay comes to the same.
-/

namespace PackageVerification

namespace Replay

variable {c : Configuration} {r : Replay} {ids : List SessionId}

/-! ## 1. The next tick -/

/-- Something happens by a tick: a step comes before it, or a deadline has struck. -/
def StirsBy (r : Replay) (pending : List ScheduledStep) (deadline : Option Timestamp) (n : Nat) :
    Prop :=
  (∃ p ∈ pending.head?, p.step.after.toNat < r.tickOffset n) ∨
    ∃ d ∈ deadline, d.millis.toNat ≤ r.clock.millis.toNat + r.tickOffset n

variable {pending : List ScheduledStep} {deadline : Option Timestamp}

/-- There is no next tick when no step is left and no session waits. -/
theorem nextTick_eq_none_iff :
    r.nextTick pending deadline = none ↔ pending = [] ∧ deadline = none := by
  rw [nextTick]
  cases pending <;> cases deadline <;> simp

/-- The next tick is the first by which something happens. -/
theorem nextTick_eq_some {next : Nat} (h : r.nextTick pending deadline = some next) :
    ∃ n, next = r.tickOffset n ∧ ∀ m, n ≤ m ↔ r.StirsBy pending deadline m := by
  have hstirs : (∃ n, next = r.tickOffset n) ∧
      ∀ m, next ≤ r.tickOffset m ↔ r.StirsBy pending deadline m := by
    revert h
    rw [nextTick]
    simp only [StirsBy]
    -- The next tick is the earlier of one for the first step and one for the deadline, where there
    -- are such.
    cases pending.head? with
    | none =>
      cases deadline with
      | none => rintro ⟨⟩
      | some d =>
        rintro ⟨⟩
        exact ⟨⟨_, rfl⟩, fun m => by simp [tickFor_le_iff]⟩
    | some p =>
      cases deadline with
      | none =>
        rintro ⟨⟩
        exact ⟨⟨_, rfl⟩, fun m => by simp [tickAfter_le_iff]⟩
      | some d =>
        rintro ⟨⟩
        refine ⟨⟨_, Nat.mul_min_mul_right _ _ _⟩, fun m => ?_⟩
        simp [tickFor_le_iff, tickAfter_le_iff]
  obtain ⟨⟨n, rfl⟩, hle⟩ := hstirs
  exact ⟨n, rfl, fun m => tickOffset_le_iff.symm.trans (hle m)⟩

/-! ## 2. Quiet ticks -/

def heard (batches : List Batch) : List Batch := batches.filter (·.events ≠ [])

/-- Two stages between which nothing has happened but ticks. -/
structure Idles (a b : Stage c) : Prop where
  service : b.service = a.service
  pending : b.pending = a.pending
  conclusion : b.conclusion = a.conclusion
  heard : heard b.batches = heard a.batches

theorem Idles.refl (a : Stage c) : Idles a a := ⟨rfl, rfl, rfl, rfl⟩

theorem Idles.trans {a b b' : Stage c} (h : Idles a b) (h' : Idles b b') : Idles a b' :=
  ⟨h'.service.trans h.service, h'.pending.trans h.pending, h'.conclusion.trans h.conclusion,
    h'.heard.trans h.heard⟩

/-- Somebody is due at a tick when the next deadline has struck by it. -/
theorem exists_isDue_iff {s : Service} {n : Nat} :
    (∃ x ∈ s.sessions.toList, x.isDue (r.instant (r.tickOffset n)) = true) ↔
      ∃ d ∈ s.nextDeadline, d.millis.toNat ≤ r.clock.millis.toNat + r.tickOffset n := by
  rw [← SessionTable.exists_nextDeadline_le_iff]
  simp only [le_instant_iff]
  rfl

/-- A tick at which nobody is due and no event waits changes nothing. -/
theorem tick_of_quiet {s : Service} {offset : Nat}
    (hquiet : ∀ x ∈ s.sessions.toList, x.isDue (r.instant offset) = false)
    (hevents : s.events = []) :
    (r.tick s offset).service = s ∧ (r.tick s offset).result.events = [] := by
  have hexpire := Service.service_expire_of_quiet hquiet
  have hdrain : s.drain.service = s := by
    cases s
    simp_all [Service.drain]
  constructor
  · show (s.expire _).service.drain.service = s
    rw [hexpire, hdrain]
  · show (s.expire _).service.events = []
    rw [hexpire, hevents]

/-- A tick by which nothing happens hands over nothing. -/
theorem idles_pass {a : Stage c} (hevents : a.service.events = [])
    (hquiet : ¬r.StirsBy a.pending a.service.nextDeadline a.tick) : Idles a (r.pass a) := by
  have hnobody : ∀ x ∈ a.service.sessions.toList,
      x.isDue (r.instant (r.tickOffset a.tick)) = false := by
    intro x hx
    by_contra hdue
    exact hquiet (.inr (exists_isDue_iff.1 ⟨x, hx, by simpa using hdue⟩))
  obtain ⟨hservice, hbatch⟩ := tick_of_quiet hnobody hevents
  refine ⟨(r.service_pass a).trans hservice, rfl, rfl, ?_⟩
  show heard (a.batches ++ [_]) = _
  rw [heard, List.filter_append, List.filter_singleton, hbatch]
  simp [heard]

/-- The loop passes the ticks up to one before which nothing happens. -/
theorem exists_reaches_of_quiet (ids : List SessionId) {a : Stage c} {n : Nat}
    (ha : a.conclusion = none)
    (hevents : a.service.events = []) (hrest : a.pending ≠ [] ∨ a.service.nextDeadline ≠ none)
    (hn : a.tick ≤ n)
    (hquiet : ∀ m, a.tick ≤ m → m < n → ¬r.StirsBy a.pending a.service.nextDeadline m) :
    ∃ b, StateTransition.Reaches (r.turn ids) a b ∧ b.tick = n ∧ Idles a b := by
  -- Tick by tick: nothing happens by the one that passes, and something is left to wait for.
  induction n, hn using Nat.le_induction with
  | base => exact ⟨a, .refl, rfl, .refl a⟩
  | succ n hn ih =>
    obtain ⟨b, hreach, htick, hidles⟩ := ih fun m hm hlt => hquiet m hm (Nat.lt_succ_of_lt hlt)
    have hnow : ¬r.StirsBy b.pending b.service.nextDeadline b.tick := by
      rw [hidles.pending, hidles.service, htick]
      exact hquiet n hn (Nat.lt_succ_self n)
    have hpass := idles_pass (hidles.service ▸ hevents) hnow
    have hturn : r.turn ids b = some (r.pass b) := by
      rw [turn_of_not_before ids (hidles.conclusion.trans ha), if_neg]
      · rw [hpass.service, hpass.pending, hidles.service, hidles.pending]
        exact not_and_or.2 hrest
      · intro p hp
        by_contra hbefore
        exact hnow (.inl ⟨p, hp, Nat.lt_of_not_le hbefore⟩)
    refine ⟨r.pass b, hreach.tail hturn, ?_, hidles.trans hpass⟩
    exact congrArg (· + 1) htick

/-! ## 3. Steps -/

def isBefore (r : Replay) (n : Nat) (p : ScheduledStep) : Bool :=
  p.step.after.toNat < r.tickOffset n

variable {s : Service} {p : ScheduledStep}

theorem performAll_cons_of_error {fault : Fault} (ps : List ScheduledStep)
    (h : (s.handle (r.request p)).result = .error fault) :
    (r.performAll s (p :: ps)).result = .error fault ∧
      (r.performAll s (p :: ps)).service = (s.handle (r.request p)).service := by
  rw [performAll, perform_eq]
  simp only [Outcome.map, h]
  exact ⟨rfl, rfl⟩

theorem performAll_cons_of_ok {reply : Reply} (ps : List ScheduledStep)
    (h : (s.handle (r.request p)).result = .ok reply) :
    (r.performAll s (p :: ps)).result =
        (r.performAll (s.handle (r.request p)).service ps).result ∧
      (r.performAll s (p :: ps)).service =
        (r.performAll (s.handle (r.request p)).service ps).service := by
  rw [performAll, perform_eq]
  simp only [Outcome.map, h]
  exact ⟨rfl, rfl⟩

/-- The loop carries out the steps before a tick up to the first that fails. -/
theorem exists_reaches_of_performAll (r : Replay) (ids : List SessionId)
    {ps : List ScheduledStep} {a : Stage c} (ha : a.conclusion = none) (hps : a.pending = ps) :
    let performed := r.performAll a.service (ps.takeWhile (r.isBefore a.tick))
    ∃ b, StateTransition.Reaches (r.turn ids) a b ∧ b.service = performed.service ∧
      b.batches = a.batches ∧
      ((∃ fault, performed.result = .error fault ∧
          ∃ offset, b.conclusion = some ⟨offset, .error fault⟩) ∨
        performed.result = .ok () ∧ b.conclusion = none ∧ b.tick = a.tick ∧
          b.pending = ps.dropWhile (r.isBefore a.tick)) := by
  -- On the steps that are left: the first comes before the tick and is carried out, or none does.
  induction ps generalizing a with
  | nil => exact ⟨a, .refl, rfl, rfl, .inr ⟨rfl, ha, rfl, hps⟩⟩
  | cons p ps ih =>
    by_cases hbefore : r.isBefore a.tick p = true
    · have hturn : r.turn ids a = some (r.carryOut a p) :=
        turn_of_before ha hps (of_decide_eq_true hbefore)
      have hservice := r.service_carryOut a p
      rw [List.takeWhile_cons_of_pos hbefore, List.dropWhile_cons_of_pos hbefore]
      cases hresult : (a.service.handle (r.request p)).result with
      | error fault =>
        obtain ⟨herror, hafter⟩ :=
          performAll_cons_of_error (ps.takeWhile (r.isBefore a.tick)) hresult
        refine ⟨r.carryOut a p, .single hturn, hservice.trans hafter.symm, rfl,
          .inl ⟨fault, herror, p.step.after.toNat, ?_⟩⟩
        simp only [carryOut, hresult]
      | ok reply =>
        obtain ⟨hok, hafter⟩ := performAll_cons_of_ok (ps.takeWhile (r.isBefore a.tick)) hresult
        have hconclusion : (r.carryOut a p).conclusion = none := by simp only [carryOut, hresult]
        obtain ⟨b, hreach, hb⟩ := ih hconclusion (congrArg List.tail hps)
        rw [hservice] at hb
        simp only [hok, hafter]
        exact ⟨b, .head hturn hreach, hb⟩
    · rw [List.takeWhile_cons_of_neg hbefore, List.dropWhile_cons_of_neg hbefore]
      exact ⟨a, .refl, rfl, rfl, .inr ⟨rfl, ha, rfl, hps⟩⟩

/-! ## 4. Sessions that wait -/

theorem request_ne_start (r : Replay) (p : ScheduledStep) (id : SessionId) (roster : Roster)
    (now : Timestamp) : r.request p ≠ .start id roster now := by
  rw [request]
  cases p.step.action <;> simp

theorem request_ne_finish (r : Replay) (p : ScheduledStep) (id : SessionId) :
    r.request p ≠ .finish id := by
  rw [request]
  cases p.step.action <;> simp

theorem openCount_performAll_le (r : Replay) (s : Service) (ps : List ScheduledStep) :
    (r.performAll s ps).service.sessions.openCount ≤ s.sessions.openCount := by
  induction ps generalizing s with
  | nil => exact Nat.le_refl _
  | cons p ps ih =>
    have hstep : (r.perform s p).service.sessions.openCount ≤ s.sessions.openCount := by
      rw [perform_eq]
      exact s.openCount_handle_le (r.request_ne_start p) (r.request_ne_finish p)
    rw [performAll]
    cases (r.perform s p).result with
    | error fault => exact hstep
    | ok _ => exact (ih _).trans hstep

theorem openCount_pass_le (r : Replay) (a : Stage c) :
    (r.pass a).service.sessions.openCount ≤ a.service.sessions.openCount := by
  rw [service_pass]
  exact a.service.openCount_handle_le (q := .expire _) (by simp) (by simp)

/-- A tick by which a deadline has struck leaves fewer sessions that wait. -/
theorem openCount_pass_lt {a : Stage c}
    (h : ∃ d ∈ a.service.nextDeadline,
      d.millis.toNat ≤ r.clock.millis.toNat + r.tickOffset a.tick) :
    (r.pass a).service.sessions.openCount < a.service.sessions.openCount := by
  rw [service_pass]
  exact Service.openCount_expire_lt (exists_isDue_iff.2 h)

theorem events_pass (r : Replay) (a : Stage c) : (r.pass a).service.events = [] := by
  rw [service_pass]
  rfl

/-- No deadline has struck after a tick. -/
theorem lt_of_mem_nextDeadline_pass {a : Stage c} {d : Timestamp}
    (hd : d ∈ (r.pass a).service.nextDeadline) :
    r.clock.millis.toNat + r.tickOffset a.tick < d.millis.toNat := by
  by_contra hstruck
  obtain ⟨x, hx, hdue⟩ := exists_isDue_iff.2 ⟨d, hd, Nat.le_of_not_lt hstruck⟩
  rw [service_pass] at hx
  rw [Service.isDue_of_mem_expire hx] at hdue
  cases hdue

/-! ## 5. A replay and its loop -/

structure Follows (a : Stage c) (recording : Recording) (b : Stage c) : Prop where
  ending : ∃ offset, b.conclusion = some ⟨offset, recording.ending⟩
  service : b.service = recording.service
  heard : heard b.batches = heard a.batches ++ heard recording.batches

theorem heard_append (xs ys : List Batch) : heard (xs ++ ys) = heard xs ++ heard ys :=
  List.filter_append _ _

theorem heard_pass (r : Replay) (a : Stage c) :
    heard (r.pass a).batches =
      heard a.batches ++ heard [(r.tick a.service (r.tickOffset a.tick)).result] :=
  heard_append _ _

variable {a : Stage c}

/-- The loop comes from a tick to the next one at which something can happen, unless a step before
it fails. -/
theorem exists_reaches_of_round (ids : List SessionId) {next : Nat} (ha : a.conclusion = none)
    (hlate : ∀ p ∈ a.pending.head?, r.tickOffset a.tick ≤ p.step.after.toNat)
    (hnext : r.nextTick a.pending (r.pass a).service.nextDeadline = some next) :
    ∃ n, next = r.tickOffset n ∧ r.StirsBy a.pending (r.pass a).service.nextDeadline n ∧
      let performed := r.performAll (r.pass a).service (a.pending.takeWhile (r.isBefore n))
      ∃ b, StateTransition.Reaches (r.turn ids) a b ∧ b.service = performed.service ∧
        heard b.batches = heard (r.pass a).batches ∧
        ((∃ fault, performed.result = .error fault ∧
            ∃ offset, b.conclusion = some ⟨offset, .error fault⟩) ∨
          performed.result = .ok () ∧ b.conclusion = none ∧ b.tick = n ∧
            b.pending = a.pending.dropWhile (r.isBefore n)) := by
  obtain ⟨n, rfl, hn⟩ := nextTick_eq_some hnext
  have hrest : (r.pass a).pending ≠ [] ∨ (r.pass a).service.nextDeadline ≠ none := by
    rw [← not_and_or, show (r.pass a).pending = a.pending from rfl, ← nextTick_eq_none_iff, hnext]
    exact Option.some_ne_none _
  have hturn := turn_of_not_before ids ha hlate
  rw [if_neg (not_and_or.2 hrest)] at hturn
  -- The next tick is a later one, since this one has dealt with what came by it.
  have hlt : a.tick < n := by
    by_contra hle
    rcases (hn a.tick).1 (Nat.le_of_not_lt hle) with ⟨p, hp, hbefore⟩ | ⟨d, hd, hstruck⟩
    · exact Nat.not_lt_of_le (hlate p hp) hbefore
    · exact Nat.not_lt_of_le hstruck (lt_of_mem_nextDeadline_pass hd)
  obtain ⟨a', hreach, rfl, hidles⟩ := exists_reaches_of_quiet ids (a := r.pass a) ha
    (r.events_pass a) hrest hlt fun m _ hm hstirs => Nat.not_le_of_lt hm ((hn m).2 hstirs)
  obtain ⟨b, hreach', hservice, hbatches, hcases⟩ :=
    exists_reaches_of_performAll r ids (hidles.conclusion.trans ha) hidles.pending
  rw [hidles.service] at hservice hcases
  have hheard : heard b.batches = heard (r.pass a).batches := by rw [hbatches, hidles.heard]
  exact ⟨a'.tick, rfl, (hn _).1 (Nat.le_refl _), b, (hreach.trans hreach').head hturn, hservice,
    hheard, hcases⟩

/-- From such a tick to the next a step has been carried out or a session times out. -/
theorem measure_lt {n : Nat} {b : Stage c}
    (hstirs : r.StirsBy a.pending (r.pass a).service.nextDeadline n) (htick : b.tick = n)
    (hpending : b.pending = a.pending.dropWhile (r.isBefore n))
    (hservice : b.service =
      (r.performAll (r.pass a).service (a.pending.takeWhile (r.isBefore n))).service) :
    b.pending.length + (r.pass b).service.sessions.openCount <
      a.pending.length + (r.pass a).service.sessions.openCount := by
  have hsteps : (r.pass b).service.sessions.openCount ≤
      (r.pass a).service.sessions.openCount := by
    calc (r.pass b).service.sessions.openCount
        ≤ b.service.sessions.openCount := r.openCount_pass_le b
      _ ≤ (r.pass a).service.sessions.openCount := hservice ▸ r.openCount_performAll_le _ _
  have hlength : (a.pending.takeWhile (r.isBefore n)).length + b.pending.length =
      a.pending.length := by
    rw [hpending, ← List.length_append, List.takeWhile_append_dropWhile]
  by_cases hnone : a.pending.takeWhile (r.isBefore n) = []
  · -- No step comes before the tick, so a deadline has struck there.
    rw [hnone] at hservice
    have hstruck : ∃ d ∈ b.service.nextDeadline,
        d.millis.toNat ≤ r.clock.millis.toNat + r.tickOffset b.tick := by
      rw [hservice, htick]
      rcases hstirs with ⟨p, hp, hbefore⟩ | hstruck
      · obtain ⟨ps, hps⟩ := List.head?_eq_some_iff.1 hp
        have hstep : r.isBefore n p = true := decide_eq_true hbefore
        rw [hps, List.takeWhile_cons_of_pos hstep] at hnone
        cases hnone
      · exact hstruck
    have hfewer := openCount_pass_lt hstruck
    rw [hservice] at hfewer
    rw [hnone, List.length_nil, Nat.zero_add] at hlength
    exact Nat.add_lt_add_of_le_of_lt (Nat.le_of_eq hlength) hfewer
  · have := List.length_pos_iff.2 hnone
    omega

/-- With enough rounds a replay follows its loop from a tick to the end. -/
theorem exists_outcome_of_play (ids : List SessionId) (fuel : Nat) (ha : a.conclusion = none)
    (hlate : ∀ p ∈ a.pending.head?, r.tickOffset a.tick ≤ p.step.after.toNat)
    (hfuel : a.pending.length + (r.pass a).service.sessions.openCount < fuel) :
    ∃ b ∈ StateTransition.eval (r.turn ids) a,
      Follows a (r.play ids fuel a.service a.pending (r.tickOffset a.tick)) b := by
  -- Each round lowers the steps that are left plus the sessions that wait, which the fuel exceeds.
  induction fuel generalizing a with
  | zero => exact absurd hfuel (Nat.not_lt_zero _)
  | succ fuel ih =>
    have hpass := r.service_pass a
    cases hnext : r.nextTick a.pending (r.pass a).service.nextDeadline with
    | none =>
      have hturn := turn_of_not_before ids ha hlate
      rw [if_pos (show (r.pass a).pending = [] ∧ _ from nextTick_eq_none_iff.1 hnext)] at hturn
      refine ⟨_, mem_eval_of_concluded (.single hturn) (Option.some_ne_none _), ?_⟩
      rw [play, ← hpass]
      simp only [hnext]
      exact ⟨⟨_, rfl⟩, service_close _ _ _, r.heard_pass a⟩
    | some next =>
      obtain ⟨n, rfl, hstirs, b, hreach, hservice, hheard, hcases⟩ :=
        exists_reaches_of_round ids ha hlate hnext
      have hbefore : (fun p : ScheduledStep => decide (p.step.after.toNat < r.tickOffset n)) =
          r.isBefore n := rfl
      rw [play, ← hpass]
      simp only [hnext, hbefore]
      rcases hcases with ⟨fault, hresult, offset, hfault⟩ | ⟨hresult, hb, htick, hpending⟩
      · have hconcluded : b.conclusion ≠ none := hfault ▸ Option.some_ne_none _
        refine ⟨b, mem_eval_of_concluded hreach hconcluded, ?_⟩
        simp only [hresult]
        exact ⟨⟨offset, hfault⟩, hservice, hheard.trans (r.heard_pass a)⟩
      -- The steps before the tick have been carried out, so the first one left is not before it.
      · have hlate' : ∀ p ∈ b.pending.head?, r.tickOffset b.tick ≤ p.step.after.toNat := by
          intro p hp
          have hnot := List.head?_dropWhile_not (r.isBefore n) a.pending
          rw [← hpending, hp] at hnot
          rw [htick]
          exact Nat.le_of_not_lt (of_decide_eq_false hnot)
        have hfuel' := Nat.lt_of_lt_of_le (measure_lt hstirs htick hpending hservice)
          (Nat.le_of_lt_succ hfuel)
        obtain ⟨e, he, hfollows⟩ := ih hb hlate' hfuel'
        rw [hservice, hpending, htick] at hfollows
        rw [← StateTransition.reaches_eval hreach] at he
        refine ⟨e, he, ?_⟩
        simp only [hresult]
        refine ⟨hfollows.ending, hfollows.service, ?_⟩
        rw [hfollows.heard, hheard, heard_pass, List.append_assoc, ← heard_append, hpass]
        rfl

/-- The loop of a replay comes to an end, and the replay follows it there. -/
theorem exists_outcome (r : Replay) (c : Configuration) (script : Script) :
    ∃ b ∈ r.outcome c script, Follows (r.first c script) (r.run (.new c) script) b := by
  have hservice := r.service_first c script
  rw [outcome, run]
  cases hresult : (r.startAll (.new c) script.sessions).result with
  | error fault =>
    have hconclusion : (r.first c script).conclusion = some ⟨0, .error fault⟩ := by
      rw [first, hresult]
    have hconcluded : (r.first c script).conclusion ≠ none := hconclusion ▸ Option.some_ne_none _
    exact ⟨_, mem_eval_of_concluded .refl hconcluded, ⟨0, hconclusion⟩, hservice, rfl⟩
  | ok _ =>
    have hconclusion : (r.first c script).conclusion = none := by rw [first, hresult]
    have hlate : ∀ p ∈ (r.first c script).pending.head?,
        r.tickOffset (r.first c script).tick ≤ p.step.after.toNat := fun p _ => by
      rw [show r.tickOffset (r.first c script).tick = 0 from Nat.zero_mul _]
      exact Nat.zero_le _
    -- The replay allows a round for each step and each session, and no more sessions wait than are
    -- followed.
    have hopen : (r.pass (r.first c script)).service.sessions.openCount ≤
        (r.first c script).service.sessions.size :=
      (r.openCount_pass_le _).trans (SessionTable.openCount_le_size _)
    rw [hservice] at hopen
    obtain ⟨b, hb, hfollows⟩ := exists_outcome_of_play (script.sessions.map (·.id)) _
      hconclusion hlate (Nat.lt_succ_of_le (Nat.add_le_add_left hopen _))
    rw [hservice, show r.tickOffset (r.first c script).tick = 0 from Nat.zero_mul _] at hfollows
    exact ⟨b, hb, hfollows.ending, hfollows.service, hfollows.heard⟩

end Replay

end PackageVerification
