import PackageVerification.Proofs.Chronicle

/-!
# Final verdicts

What a final verdict is worth to those who ask for it: however a run goes on, the session stands as
decided until it is finished, and its summary repeats what was reported. Main statement:
`final_verdict_stays`.
-/

namespace PackageVerification

namespace Service

/-- To finish a session tells how it stands. -/
theorem result_finish (s : Service) {id : SessionId} {x : Session}
    (hx : s.sessions.get? id = some x) :
    (s.handle (.finish id)).result = .ok (.finished x.summary) := by
  show (s.finish id).result.map Reply.finished = _
  rw [finish, hx]
  rfl

/-- A decided session stays decided through a run in which it is not finished. -/
theorem sameDecision_after (s : Service) {id : SessionId} {x : Session}
    (hx : s.sessions.get? id = some x) (hsound : x.Sound) (hfinal : x.verdict.isFinal = true)
    {rs : List Request} (hrs : .finish id ∉ rs) :
    ∃ y, (s.after rs).sessions.get? id = some y ∧ x.SameDecision y := by
  induction rs generalizing s x with
  | nil => exact ⟨x, hx, .refl x⟩
  | cons r rs ih =>
    have hr := (List.ne_of_not_mem_cons hrs).symm
    have hstep := hsound.sameDecision_react hfinal s.configuration r
    have hfinal' : (x.react s.configuration r).1.verdict.isFinal = true := by
      rw [hstep.verdict]
      exact hfinal
    obtain ⟨y, hy, hrest⟩ := ih (s.handle r).service (s.get?_handle hx hr)
      (hsound.react s.configuration r) hfinal' (List.not_mem_of_not_mem_cons hrs)
    exact ⟨y, hy, hstep.trans hrest⟩

end Service

theorem Verdict.isFinal_iff {v : Verdict} : v.isFinal = true ↔ v = .allowed ∨ v = .rejected := by
  cases v <;> simp [isFinal]

/-- A session that is followed has reported its completion when its verdict is final, and has if it
has timed out. A final verdict, the deadline and the three axes stay as they are until the session
is finished, whatever else is requested. When it is finished, its summary has the verdict that was
reported, or is pending if none was. -/
theorem final_verdict_stays (c : Configuration) {rs : List Request} {id : SessionId} {x : Session}
    (hx : ((Service.new c).after rs).sessions.get? id = some x) :
    (x.completionReported = true ↔ x.verdict = .allowed ∨ x.verdict = .rejected) ∧
    (x.timedOut = true → x.completionReported = true) ∧
    (x.verdict = .allowed ∨ x.verdict = .rejected → ∀ qs, .finish id ∉ qs →
      ∃ y, ((Service.new c).after (rs ++ qs)).sessions.get? id = some y ∧ x.SameDecision y) ∧
    (∃! l : Lifetime c id, l.requests = rs) ∧
    ∀ l : Lifetime c id, l.requests = rs → ∃ summary,
      (((Service.new c).after rs).handle (.finish id)).result = .ok (.finished summary) ∧
      (∀ v, .sessionCompleted id v ∈ l.events → summary.verdict = v) ∧
      ((∀ v, .sessionCompleted id v ∉ l.events) → summary.verdict = .pending) := by
  have hunique : ∃! l : Lifetime c id, l.requests = rs :=
    Lifetime.existsUnique_of_followed c (by simp [hx])
  have hlifetime : ∀ l : Lifetime c id, l.requests = rs → l.session = x := by
    rintro l rfl
    exact Lifetime.session_eq_of_get? hx
  have hsound : x.Sound := by
    obtain ⟨l, hl, -⟩ := hunique
    exact hlifetime l hl ▸ l.sound
  refine ⟨hsound.reported.trans Verdict.isFinal_iff, hsound.timedOut, fun hfinal qs hqs => ?_,
    hunique, fun l hl => ⟨x.summary, Service.result_finish _ hx, ?_⟩⟩
  · rw [Service.after_append]
    exact Service.sameDecision_after _ hx hsound (Verdict.isFinal_iff.2 hfinal) hqs
  -- The chronicle counts one completion, of the verdict that stands, or none while it is pending.
  · have hcount := l.chronicle.count_completed
    rw [hlifetime l hl] at hcount
    refine ⟨fun v hv => ?_, fun hnone => ?_⟩
    · by_contra hne
      have hzero := (hcount v).trans (if_neg fun h => hne h.2.symm)
      exact List.count_eq_zero.1 hzero hv
    · have hzero := (hcount x.verdict).symm.trans (List.count_eq_zero.2 (hnone x.verdict))
      have hnot : ¬(x.verdict.isFinal = true ∧ x.verdict = x.verdict) := by
        intro h
        rw [if_pos h] at hzero
        cases hzero
      show x.verdict = .pending
      cases hv : x.verdict with
      | pending => rfl
      | allowed | rejected => exact absurd ⟨by rw [hv]; rfl, rfl⟩ hnot

/-- A session that two of three verifiers have approved: whatever the third one answers, an override
or a time-out, it stays allowed. -/
theorem final_verdict_stays_once_approved :
    let rs : List Request :=
      [.start ⟨1⟩ [(⟨5⟩, .required), (⟨10⟩, .sufficient), (⟨11⟩, .sufficient)] ⟨0⟩,
        .respond ⟨1⟩ ⟨5⟩ .allow, .respond ⟨1⟩ ⟨10⟩ .allow]
    ∃ x, ((Service.new .default).after rs).sessions.get? ⟨1⟩ = some x ∧ x.verdict = .allowed ∧
      ∀ qs, .finish ⟨1⟩ ∉ qs →
        ∃ y, ((Service.new .default).after (rs ++ qs)).sessions.get? ⟨1⟩ = some y ∧
          x.SameDecision y := by
  intro rs
  obtain ⟨x, hx⟩ : ∃ x, ((Service.new .default).after rs).sessions.get? ⟨1⟩ = some x :=
    Option.isSome_iff_exists.1 (by decide +kernel)
  have hverdict : ((Service.new .default).after rs).verdict ⟨1⟩ = .ok .allowed := by decide +kernel
  rw [Service.verdict, Service.view, hx] at hverdict
  have hallowed := Except.ok.inj hverdict
  exact ⟨x, hx, hallowed, (final_verdict_stays .default hx).2.2.1 (.inl hallowed)⟩

end PackageVerification
