import PackageVerification.Proofs.History

/-!
# Who is heard, and how often

What becomes of an answer is fixed by the roster and by the answers that came in time before it: the
verifier is heard in one role, and in that role once. Main statements: `Tracker.Heard.disposes`, of
a tracker that has heard a history; `dispositions_of_history`, of a session of a service.
-/

namespace PackageVerification

/-! ## 1. Dispositions in terms of a history -/

/-- Whoever has answered has a first answer. -/
theorem Answers.mem_ids_firsts {xs : Answers} {v : VerifierId} :
    v ∈ xs.firsts.ids ↔ v ∈ xs.ids := by
  induction xs using List.reverseRecOn with
  | nil => rfl
  | append_singleton xs x ih =>
    rw [firsts_concat]
    split_ifs with hagain
    · simp only [ih, ids_append, ids_cons, ids_nil, List.mem_append, List.mem_singleton]
      refine ⟨.inl, fun h => h.elim id ?_⟩
      rintro rfl
      exact ih.1 hagain
    · simp [ih]

/-- What becomes of an answer that comes in time, after others: its verifier is heard as a required
one before an optional one, and as an optional one before a sufficient one; as a sufficient one only
as long as nobody required has waived the pool. -/
structure Roster.Disposes (roster : Roster) (xs : Answers) (v : VerifierId) (d : Disposition) :
    Prop where
  accepted_required : d = .accepted .required ↔ v ∈ roster.ids .required ∧ v ∉ xs.ids
  duplicate_required : d = .duplicate .required ↔ v ∈ roster.ids .required ∧ v ∈ xs.ids
  accepted_optional : d = .accepted .optional ↔
    v ∉ roster.ids .required ∧ roster.seated = some v ∧ v ∉ xs.ids
  duplicate_optional : d = .duplicate .optional ↔
    v ∉ roster.ids .required ∧ roster.seated = some v ∧ v ∈ xs.ids
  accepted_sufficient : d = .accepted .sufficient ↔
    v ∈ roster.ids .sufficient ∧ v ∉ roster.ids .required ∧ roster.seated ≠ some v ∧
      v ∉ xs.ids ∧ ¬roster.Waived xs.firsts
  duplicate_sufficient : d ≠ .duplicate .sufficient
  unrecognized : d = .unrecognized ↔
    v ∉ roster.ids .required ∧ roster.seated ≠ some v ∧
      ¬(v ∈ roster.ids .sufficient ∧ v ∉ xs.ids ∧ ¬roster.Waived xs.firsts)

/-- Whatever the role, a verifier that is heard has not answered before. -/
theorem Roster.Disposes.not_mem_ids {roster : Roster} {xs : Answers} {v : VerifierId}
    {d : Disposition} (h : roster.Disposes xs v d) (haccepted : d.isAccepted = true) :
    v ∉ xs.ids := by
  cases d with
  | accepted role =>
    cases role with
    | required => exact (h.accepted_required.1 rfl).2
    | optional => exact (h.accepted_optional.1 rfl).2.2
    | sufficient => exact (h.accepted_sufficient.1 rfl).2.2.2.1
  | duplicate | unrecognized => cases haccepted

/-- A tracker that has heard the first answers disposes of the next one by them. -/
theorem Tracker.Heard.disposes {t : Tracker} {roster : Roster} {forced : Prop} {xs : Answers}
    (h : t.Heard roster forced xs.firsts) (v : VerifierId) (a : Answer) :
    roster.Disposes xs v (t.answer v a).1 := by
  have hids : v ∈ xs.firsts.ids ↔ v ∈ xs.ids := Answers.mem_ids_firsts
  -- The cases are the roles in which a verifier may be heard; in each it may have answered before.
  cases hrole : roster.heardAs v with
  | none =>
    obtain ⟨hr, ho, hs⟩ := Roster.heardAs_eq_none_iff.1 hrole
    rw [h.answer_of_stranger (.inl hrole)]
    constructor <;> simp [hr, ho, hs]
  | some role =>
    cases role with
    | required =>
      have hr := Roster.heardAs_eq_required_iff.1 hrole
      by_cases hagain : v ∈ xs.ids
      · rw [h.answer_required_again hrole (hids.2 hagain)]
        constructor <;> simp [hr, hagain]
      · rw [h.answer_of_required hrole (mt hids.1 hagain)]
        constructor <;> simp [hr, hagain]
    | optional =>
      obtain ⟨hr, ho⟩ := Roster.heardAs_eq_optional_iff.1 hrole
      by_cases hagain : v ∈ xs.ids
      · rw [h.answer_optional_again hrole (hids.2 hagain)]
        constructor <;> simp [hr, ho, hagain]
      · rw [h.answer_of_optional hrole (mt hids.1 hagain)]
        constructor <;> simp [hr, ho, hagain]
    | sufficient =>
      obtain ⟨hr, ho, hs⟩ := Roster.heardAs_eq_sufficient_iff.1 hrole
      -- A waiver and an answer of its own both take a verifier out of the pool.
      by_cases hgone : roster.Waived xs.firsts ∨ v ∈ xs.ids
      · rw [h.answer_of_stranger (.inr ⟨hrole, hgone.imp_right hids.2⟩)]
        constructor <;> simp [hr, ho, hs] <;> tauto
      · obtain ⟨hw, hnew⟩ := not_or.1 hgone
        rw [h.answer_of_sufficient hrole (mt hids.1 hnew) hw]
        constructor <;> simp [hr, ho, hs, hw, hnew]

/-! ## 2. Answers in a lifetime -/

def Exchange.recognizes (id : SessionId) (v : VerifierId) : Exchange → Bool
  | (.respond id' v' _, .ok (.answered outcome)) => id' = id && v' = v && outcome.isRecognized
  | _ => false

theorem Session.disposition_respond (x : Session) (v : VerifierId) (a : Answer) :
    (x.respond v a).result.disposition =
      if x.timedOut then none else some (x.tracker.answer v a).1 := by
  rw [respond]
  split_ifs <;> rfl

namespace Lifetime

variable {c : Configuration} {id : SessionId}

/-- An answer to a session that is followed is handled: as late once the session has timed out, and
by the roster and the answers before it until then. -/
theorem exists_respond (l : Lifetime c id) (v : VerifierId) (a : Answer) :
    ∃ outcome, (l.service.respond id v a).result = .ok outcome ∧
      (outcome.disposition = none ↔ l.TimedOut) ∧
      ∀ d, outcome.disposition = some d → l.roster.Disposes l.inTime v d := by
  obtain ⟨htimedOut, ds, hsilent, hheard⟩ := l.account
  refine ⟨(l.session.respond v a).result, l.service.result_change l.get?_service _, ?_⟩
  rw [Session.disposition_respond]
  split_ifs with hlate
  · exact ⟨iff_of_true rfl (htimedOut.1 hlate), fun d hd => nomatch hd⟩
  · have hnot := mt htimedOut.2 hlate
    rw [hsilent.eq_nil hnot, List.append_nil] at hheard
    refine ⟨iff_of_false not_false hnot, fun d hd => ?_⟩
    obtain rfl := Option.some.inj hd
    exact hheard.disposes v a

/-- Whoever has answered in time has done so for good. -/
theorem mem_ids_inTime_goOn (l : Lifetime c id) {r : Request} (hr : r ≠ .finish id)
    {v : VerifierId} (hv : v ∈ l.inTime.ids) : v ∈ (l.goOn r hr).inTime.ids := by
  by_cases htimedOut : l.TimedOut
  · rwa [inTime_goOn_of_timedOut l hr htimedOut]
  · rw [inTime_goOn l hr htimedOut, Answers.ids_append]
    exact List.mem_append_left _ hv

/-- An answer that is counted is the first one of its verifier, and one in time. -/
theorem of_recognizes (l : Lifetime c id) {r : Request} (hr : r ≠ .finish id) {v : VerifierId}
    (h : Exchange.recognizes id v (r, (l.service.handle r).result) = true) :
    v ∉ l.inTime.ids ∧ v ∈ (l.goOn r hr).inTime.ids := by
  unfold Exchange.recognizes at h
  split at h
  · rename_i id' v' a outcome hexchange
    obtain ⟨rfl, hresult⟩ := Prod.mk.inj hexchange
    obtain ⟨⟨rfl, rfl⟩, hrecognized⟩ : (id' = id ∧ v' = v) ∧ outcome.isRecognized = true := by
      simpa using h
    -- The reply of the exchange is the one that the history accounts for.
    obtain ⟨outcome', hresult', hlate, hdisposes⟩ := l.exists_respond v' a
    obtain rfl : outcome' = outcome := by
      rw [Service.handle, Outcome.map, hresult'] at hresult
      exact Reply.answered.inj (Except.ok.inj hresult)
    obtain ⟨d, hd, haccepted⟩ : ∃ d, outcome'.disposition = some d ∧ d.isAccepted = true := by
      rw [ResponseOutcome.isRecognized] at hrecognized
      cases hd : outcome'.disposition with
      | none =>
        rw [hd] at hrecognized
        cases hrecognized
      | some d =>
        rw [hd] at hrecognized
        exact ⟨d, rfl, hrecognized⟩
    have hnot : ¬l.TimedOut := fun htimedOut => by
      rw [hlate.2 htimedOut] at hd
      cases hd
    refine ⟨(hdisposes d hd).not_mem_ids haccepted, ?_⟩
    rw [inTime_goOn l hr hnot, Answers.ids_append]
    refine List.mem_append_right _ ?_
    simp [Exchange.answer?]
  · cases h

theorem countP_recognizes_le (l : Lifetime c id) (v : VerifierId) :
    l.exchanges.countP (Exchange.recognizes id v) ≤ if v ∈ l.inTime.ids then 1 else 0 := by
  induction l using induction with
  | begun l hl =>
    rw [exchanges_begun hl]
    exact Nat.zero_le _
  | goes_on l r hr ih =>
    rw [exchanges_goOn, List.countP_append, List.countP_singleton]
    by_cases hrecognizes : Exchange.recognizes id v (r, (l.service.handle r).result) = true
    · obtain ⟨hnew, hlast⟩ := l.of_recognizes hr hrecognizes
      rw [if_neg hnew] at ih
      rw [if_pos hrecognizes, if_pos hlast]
      omega
    · rw [if_neg hrecognizes, Nat.add_zero]
      refine ih.trans ?_
      split_ifs with hbefore hafter
      · exact Nat.le_refl _
      · exact absurd (l.mem_ids_inTime_goOn hr hbefore) hafter
      · exact Nat.zero_le _
      · exact Nat.le_refl _

end Lifetime

/-- What becomes of an answer to a session that is followed, by the history of that session. It is
late when the session has timed out; until then the roster and the answers that came before
determine whether it is heard, and in which role. No verifier is heard more than once. -/
theorem dispositions_of_history (c : Configuration) {rs : List Request} {id : SessionId}
    {x : Session}
    (hx : ((Service.new c).after rs).sessions.get? id = some x) :
    (∃! l : Lifetime c id, l.requests = rs) ∧
    ∀ l : Lifetime c id, l.requests = rs →
      (∀ v a, ∃ outcome, (((Service.new c).after rs).respond id v a).result = .ok outcome ∧
        (outcome.disposition = none ↔ l.TimedOut) ∧
        ∀ d, outcome.disposition = some d → l.roster.Disposes l.inTime v d) ∧
      ∀ v, l.exchanges.countP (Exchange.recognizes id v) ≤ 1 := by
  refine ⟨Lifetime.existsUnique_of_followed c (by simp [hx]), ?_⟩
  rintro l rfl
  refine ⟨l.exists_respond, fun v => (l.countP_recognizes_le v).trans ?_⟩
  split_ifs <;> decide

/-- The seat of the optional verifier is taken twice, one verifier has two roles, and another one is
listed for the pool alone. Once the pool is waived nobody in it is heard; whoever is required or
optional is heard once. -/
theorem dispositions_of_history_with_waiver :
    let roster : Roster :=
      [(⟨5⟩, .required), (⟨6⟩, .optional), (⟨7⟩, .optional), (⟨5⟩, .sufficient),
        (⟨6⟩, .sufficient), (⟨8⟩, .sufficient)]
    let rs : List Request :=
      [.start ⟨1⟩ roster ⟨0⟩, .respond ⟨1⟩ ⟨6⟩ .allow, .respond ⟨1⟩ ⟨5⟩ .allowWithoutSufficient,
        .respond ⟨1⟩ ⟨5⟩ .reject]
    let answered (v : VerifierId) (a : Answer) :=
      ((((Service.new .default).after rs).respond ⟨1⟩ v a).result.map (·.disposition)).toOption
    answered ⟨5⟩ .allow = some (some (.duplicate .required)) ∧
      answered ⟨6⟩ .allow = some (some .unrecognized) ∧
      answered ⟨7⟩ .allow = some (some (.accepted .optional)) ∧
      answered ⟨8⟩ .allow = some (some .unrecognized) := by
  intro roster rs answered
  obtain ⟨x, hx⟩ : ∃ x, ((Service.new .default).after rs).sessions.get? ⟨1⟩ = some x :=
    Option.isSome_iff_exists.1 (by decide +kernel)
  let l : Lifetime .default ⟨1⟩ :=
    ⟨[], roster, ⟨0⟩, ⟨10000⟩, rs.tail, by decide +kernel, by decide +kernel⟩
  have hnot : ¬l.TimedOut := by
    unfold Lifetime.TimedOut
    decide +kernel
  have hhistory := ((dispositions_of_history .default hx).2 l rfl).1
  -- Whatever disposition the roster and the answers leave is the one that is told.
  have htold : ∀ v a d, (∀ d', l.roster.Disposes l.inTime v d' → d' = d) →
      answered v a = some (some d) := by
    intro v a d hd
    obtain ⟨outcome, hresult, hlate, hdisposes⟩ := hhistory v a
    have hdisposition : outcome.disposition = some d := by
      cases hd' : outcome.disposition with
      | none => exact absurd (hlate.1 hd') hnot
      | some d' => rw [hd d' (hdisposes d' hd')]
    show ((((Service.new .default).after rs).respond ⟨1⟩ v a).result.map _).toOption = _
    rw [hresult]
    exact congrArg some hdisposition
  refine ⟨htold _ _ _ fun d h => ?_, htold _ _ _ fun d h => ?_, htold _ _ _ fun d h => ?_,
    htold _ _ _ fun d h => ?_⟩
  · exact h.duplicate_required.2 (by decide +kernel)
  · exact h.unrecognized.2 (by decide +kernel)
  · exact h.accepted_optional.2 (by decide +kernel)
  · exact h.unrecognized.2 (by decide +kernel)

end PackageVerification
