import PackageVerification.Proofs.Underway

/-!
# Every replay ends

The loop of a replay comes to its end not long after the last step and the last deadline, and unless
it fails it has decided every session and handed over every event by then. Main statement:
`replay_ends`.
-/

namespace PackageVerification

/-! ## 1. Requests that hand over nothing -/

namespace Service

/-- Events are handed over only when they are drained. -/
theorem flatMap_handedOver_eq_nil {s : Service} {qs : List Request} (h : .drain ∉ qs) :
    (s.replies qs).flatMap handedOver = [] := by
  induction qs generalizing s with
  | nil => rfl
  | cons q qs ih =>
    rw [replies_cons, List.flatMap_cons, s.handedOver_handle (List.ne_of_not_mem_cons h).symm,
      ih (List.not_mem_of_not_mem_cons h)]
    rfl

end Service

namespace Replay

variable {c : Configuration} {r : Replay} {script : Script} {a b : Stage c}

/-! ## 2. What is handed over -/

def Faithful (a : Stage c) : Prop :=
  a.batches.flatMap (·.events) = ((Service.new c).replies a.requests).flatMap Service.handedOver

/-- Requests that drain nothing leave the batches as they are. -/
theorem Faithful.append (h : Faithful a) {qs : List Request} (hqs : .drain ∉ qs)
    (hbatches : b.batches = a.batches) (hrequests : b.requests = a.requests ++ qs) :
    Faithful b := by
  rw [Faithful, hbatches, hrequests, Service.replies_append, List.flatMap_append,
    Service.flatMap_handedOver_eq_nil hqs, List.append_nil]
  exact h

theorem faithful_first (r : Replay) (c : Configuration) (script : Script) :
    Faithful (r.first c script) := by
  refine (Service.flatMap_handedOver_eq_nil fun h => ?_).symm
  obtain ⟨x, -, hx⟩ := List.mem_flatMap.1 (Service.mem_of_mem_untilFault h)
  rw [opening] at hx
  cases x.integrity <;> simp at hx

theorem request_ne_drain (r : Replay) (p : ScheduledStep) : r.request p ≠ .drain := by
  rw [request]
  cases p.step.action <;> simp

theorem Faithful.pass (h : Faithful a) : Faithful (r.pass a) := by
  show (a.batches ++ [_]).flatMap _ = ((Service.new c).replies (a.requests ++ _)).flatMap _
  rw [Service.replies_append, List.flatMap_append, List.flatMap_append, ← h]
  rfl

theorem Faithful.close (h : Faithful a) (ids : List SessionId) (offset : Nat) :
    Faithful (close ids offset a) := by
  refine h.append (fun hdrain => ?_) rfl rfl
  obtain ⟨id, -, hid⟩ := List.mem_map.1 (Service.mem_of_mem_untilFault hdrain)
  cases hid

theorem faithful_of_reaches {ids : List SessionId}
    (hreach : StateTransition.Reaches (r.turn ids) (r.first c script) a) : Faithful a := by
  induction hreach with
  | refl => exact r.faithful_first c script
  | tail _ hturn ih =>
    obtain ⟨-, ⟨p, ps, -, -, rfl⟩ | ⟨-, ⟨-, -, rfl⟩ | ⟨-, rfl⟩⟩⟩ := turn_cases hturn
    · refine ih.append (fun hdrain => ?_) rfl rfl
      exact r.request_ne_drain p (List.mem_singleton.1 hdrain).symm
    · exact ih.pass.close _ _
    · exact ih.pass

/-- When no event waits the batches hold all that have come about. -/
theorem Faithful.emitted (h : Faithful a) (hevents : a.service.events = []) :
    a.batches.flatMap (·.events) = (Service.new c).emittedAll a.requests := by
  have hreported := (Service.new c).reported_eq a.requests
  rw [Service.reported, ← h, show ((Service.new c).after a.requests).events = [] from hevents,
    List.append_nil] at hreported
  exact hreported

theorem flatMap_events_heard (batches : List Batch) :
    (heard batches).flatMap (·.events) = batches.flatMap (·.events) := by
  induction batches with
  | nil => rfl
  | cons x xs ih =>
    rw [heard] at ih ⊢
    by_cases hx : x.events = []
    · rw [List.filter_cons_of_neg (by simpa using hx), List.flatMap_cons, hx, ih]
      rfl
    · rw [List.filter_cons_of_pos (by simpa using hx), List.flatMap_cons, ih, List.flatMap_cons]

/-! ## 3. The end -/

/-- With the last tick every session is decided, and then finished. -/
theorem Underway.finished (h : Underway r script a)
    (hstarted : (r.startAll (.new c) script.sessions).result = .ok ())
    (hdeadline : (r.pass a).service.nextDeadline = none) :
    let ids := script.sessions.map (·.id)
    ∃ summaries, (finishAll (r.pass a).service ids).result = .ok summaries ∧
      summaries.map (·.session) = ids ∧
      (∀ y ∈ summaries, y.verdict = .allowed ∨ y.verdict = .rejected) ∧
      (finishAll (r.pass a).service ids).service.sessions = .empty ∧
      (finishAll (r.pass a).service ids).service.events = [] := by
  intro ids
  have hfollowed : ∀ id ∈ ids, (r.pass a).service.sessions.get? id ≠ none := fun id =>
    (h.followed_pass id).2
  obtain ⟨summaries, hresult, hids, hsummaries, hevents, hsessions⟩ :=
    finishAll_ok (enlists_startAll hstarted).nodup hfollowed
  refine ⟨summaries, hresult, hids, fun y hy => ?_, ?_, hevents.trans (r.events_pass a)⟩
  · obtain ⟨x, hx, rfl⟩ := hsummaries y hy
    have hid := SessionTable.id_of_get? hx
    have hclosed := SessionTable.nextDeadline_eq_none_iff.1 hdeadline x
      (SessionTable.mem_toList_iff.2 (hid.symm ▸ hx))
    -- No session waits after the last tick, and one that does not wait is decided.
    have hdecided : x.verdict ≠ .pending := fun hpending => by
      rw [(Service.sound_of_get? hx).isOpen_iff.2 hpending] at hclosed
      cases hclosed
    show x.verdict = .allowed ∨ x.verdict = .rejected
    cases hverdict : x.verdict with
    | pending => exact absurd hverdict hdecided
    | allowed => exact .inl rfl
    | rejected => exact .inr rfl
  -- Every session that is followed has an id of the script, and all of these are finished.
  · refine SessionTable.ext_get? fun id => ?_
    rw [hsessions]
    split_ifs with hid
    · rfl
    · exact not_not.1 fun hnot => hid ((h.followed_pass id).1 hnot)

/-- A tick comes after every step and, where a replay succeeds, after the final deadlines. -/
def IsOverBy (r : Replay) (script : Script) (ending : Except Fault (List Summary)) (n : Nat) :
    Prop :=
  (∀ x ∈ script.sessions, ∀ step ∈ x.steps, step.after.toNat < r.tickOffset n) ∧
    ∀ summaries, ending = .ok summaries → ∀ y ∈ summaries,
      y.deadline.millis.toNat < r.clock.millis.toNat + r.tickOffset n

/-- The last tick is the first one after the last step and the last deadline, or an earlier one. -/
theorem Underway.tick_le (h : Underway r script a)
    (hstarted : (r.startAll (.new c) script.sessions).result = .ok ()) {n : Nat}
    (hover : r.IsOverBy script
      (finishAll (r.pass a).service (script.sessions.map (·.id))).result n) :
    a.tick ≤ n := by
  by_contra hlt
  -- The tick before the last one was not the last, although it was over by then.
  obtain ⟨m, hm⟩ := Nat.exists_eq_add_one.2 (Nat.zero_lt_of_lt (Nat.lt_of_not_le hlt))
  have hle : r.tickOffset n ≤ r.tickOffset m := tickOffset_le_iff.2 (by omega)
  rcases h.reason m hm with ⟨p, hp, hafter⟩ | ⟨id, x, hx, hafter⟩
  · obtain ⟨y, hy, -, hstep⟩ := mem_schedule_iff.1 hp
    have := hover.1 y hy p.step hstep
    omega
  · have hid := (h.followed id).1 (by rw [hx]; exact Option.some_ne_none x)
    obtain ⟨summaries, hresult, hids, hsummaries, -⟩ :=
      finishAll_ok (enlists_startAll hstarted).nodup fun id => (h.followed_pass id).2
    obtain ⟨y, hy, rfl⟩ := List.mem_map.1 (hids ▸ hid)
    obtain ⟨z, hz, hyz⟩ := hsummaries y hy
    obtain ⟨z', hz', hdeadline⟩ :=
      exists_deadline_le_handle (q := .expire (r.instant (r.tickOffset a.tick))) (by simp) hx
    rw [get?_pass, hz'] at hz
    obtain rfl := Option.some.inj hz
    have := hover.2 summaries hresult y hy
    rw [hyz, show z'.summary.deadline = z'.deadline from rfl] at this
    omega

/-- Whatever is replayed, the loop comes to an end no later than with the first tick after every
step and every final deadline, and the replay comes to the same. Unless it fails there is one
summary for each session in the order of the script, all of them with a final verdict; no session is
followed any more, no event waits, and the batches are all that has come about, in the order in
which it did. -/
theorem replay_ends (r : Replay) (c : Configuration) (script : Script) :
    let recording := r.run (.new c) script
    ∃ b ∈ r.outcome c script, ∃ offset,
      b.conclusion = some ⟨offset, recording.ending⟩ ∧ b.service = recording.service ∧
      heard b.batches = heard recording.batches ∧
      (∀ n, r.IsOverBy script recording.ending n → offset ≤ r.tickOffset n) ∧
      ∀ summaries, recording.ending = .ok summaries →
        summaries.map (·.session) = script.sessions.map (·.id) ∧
        (∀ y ∈ summaries, y.verdict = .allowed ∨ y.verdict = .rejected) ∧
        recording.service.sessions = .empty ∧ recording.service.events = [] ∧
        recording.batches.flatMap (·.events) = (Service.new c).emittedAll b.requests := by
  intro recording
  obtain ⟨b, hb, ⟨offset, hconclusion⟩, hservice, hheard⟩ := r.exists_outcome c script
  replace hheard : heard b.batches = heard recording.batches := hheard
  refine ⟨b, hb, offset, hconclusion, hservice, hheard, ?_⟩
  -- The loop ends before its first turn, by a step that fails, or with its last tick.
  rcases outcome_cases hb with ⟨fault, -, hfault⟩ | ⟨hstarted, a, ha, -, -, hcases⟩
  · obtain ⟨rfl, hending⟩ := Conclusion.mk.inj (Option.some.inj (hconclusion.symm.trans hfault))
    rw [hending]
    exact ⟨fun n _ => Nat.zero_le _, fun _ hok => by cases hok⟩
  · rcases hcases with ⟨p, ps, fault, hpending, -, -, hfault⟩ | ⟨-, hdeadline, rfl⟩
    · obtain ⟨rfl, hending⟩ := Conclusion.mk.inj (Option.some.inj (hconclusion.symm.trans hfault))
      rw [hending]
      refine ⟨fun n hover => ?_, fun _ hok => by cases hok⟩
      obtain ⟨x, hx, -, hstep⟩ := mem_schedule_iff.1 (ha.mem_schedule hpending)
      exact Nat.le_of_lt (hover.1 x hx p.step hstep)
    · obtain ⟨rfl, hending⟩ := Conclusion.mk.inj (Option.some.inj hconclusion.symm)
      obtain ⟨summaries, hresult, hids, hverdicts, hsessions, hevents⟩ :=
        ha.finished hstarted hdeadline
      rw [← service_close _ (r.tickOffset a.tick)] at hsessions hevents
      rw [hending, hresult]
      refine ⟨fun n hover => ?_, fun summaries' hok => ?_⟩
      · rw [← hresult] at hover
        exact tickOffset_le_iff.2 (ha.tick_le hstarted hover)
      · obtain rfl := Except.ok.inj hok
        rw [← hservice, ← flatMap_events_heard, ← hheard, flatMap_events_heard]
        have hfaithful := faithful_of_reaches (StateTransition.mem_eval.1 hb).1
        exact ⟨hids, hverdicts, hsessions, hevents, hfaithful.emitted hevents⟩

/-- Two sessions have twenty-five milliseconds. The first hears its only verifier in time. The
second waits for an optional one until it is rejected at thirty milliseconds, with the last tick. -/
theorem replay_ends_with_silent_verifier :
    let r : Replay := ⟨⟨1000⟩, 10⟩
    let c : Configuration := { Configuration.default with verificationTimeout := 25 }
    let script : Script := ⟨[
      ⟨⟨1⟩, [(⟨5⟩, .required)], none, [⟨⟨5⟩, 10, .respond .allow⟩]⟩,
      ⟨⟨2⟩, [(⟨5⟩, .required), (⟨9⟩, .optional)], none, [⟨⟨5⟩, 12, .respond .allow⟩]⟩]⟩
    let recording := r.run (.new c) script
    recording.ending.map (·.map fun y => (y.session, y.verdict, y.deadline)) =
        .ok [(⟨1⟩, .allowed, ⟨1025⟩), (⟨2⟩, .rejected, ⟨1025⟩)] ∧
      recording.service.sessions = .empty ∧
      ∃ b ∈ r.outcome c script, ∃ offset,
        b.conclusion = some ⟨offset, recording.ending⟩ ∧ offset ≤ 30 ∧
        recording.batches.flatMap (·.events) = (Service.new c).emittedAll b.requests := by
  intro r c script recording
  -- The schedule sorts by a relation that does not reduce, so it is given first.
  have hschedule : schedule script =
      [⟨⟨1⟩, ⟨5⟩, 10, .respond .allow⟩, ⟨⟨2⟩, ⟨5⟩, 12, .respond .allow⟩] :=
    List.mergeSort_of_pairwise (by decide)
  have hsummaries : recording.ending.map (·.map fun y => (y.session, y.verdict, y.deadline)) =
      .ok [(⟨1⟩, .allowed, ⟨1025⟩), (⟨2⟩, .rejected, ⟨1025⟩)] := by
    simp only [recording, run, hschedule]
    decide +kernel
  obtain ⟨b, hb, offset, hconclusion, -, -, hbound, hresult⟩ := replay_ends r c script
  have hover : r.IsOverBy script recording.ending 3 := by
    refine ⟨by decide, fun summaries hok y hy => ?_⟩
    rw [hok] at hsummaries
    have hmem : (y.session, y.verdict, y.deadline) ∈
        [(⟨1⟩, .allowed, ⟨1025⟩), (⟨2⟩, .rejected, ⟨1025⟩)] :=
      Except.ok.inj hsummaries ▸ List.mem_map_of_mem hy
    have hdeadline : y.deadline = ⟨1025⟩ := by
      simp only [List.mem_cons, Prod.mk.injEq, List.not_mem_nil, or_false] at hmem
      exact hmem.elim (·.2.2) (·.2.2)
    rw [hdeadline]
    decide
  cases hending : recording.ending with
  | error fault =>
    rw [hending] at hsummaries
    cases hsummaries
  | ok summaries =>
    obtain ⟨-, -, hsessions, -, hevents⟩ := hresult summaries hending
    rw [← hending]
    exact ⟨hsummaries, hsessions, b, hb, offset, hconclusion, hbound 3 hover, hevents⟩

end Replay

end PackageVerification
