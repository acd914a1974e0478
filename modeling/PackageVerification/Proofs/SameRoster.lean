import PackageVerification.Proofs.Hearing
import PackageVerification.Proofs.Reported

/-!
# Rosters that ask for the same

A roster is a list, but a session only learns a set from it for each role: who is required, who is
in the pool, and which of the optional verifiers was listed last. Main statements:
`enrolled_eq_of_same`, the trackers of two such rosters are one; `start_of_same_roster`, a service
cannot tell which of them it was told.
-/

namespace PackageVerification

/-! ## 1. The same roster in other words -/

/-- Both rosters ask for the same verifiers in each role, in whatever order and however often. Of
the optional verifiers the last one counts. -/
structure Roster.Same (roster roster' : Roster) : Prop where
  required : ∀ id, id ∈ roster.ids .required ↔ id ∈ roster'.ids .required
  sufficient : ∀ id, id ∈ roster.ids .sufficient ↔ id ∈ roster'.ids .sufficient
  seated : roster.seated = roster'.seated

theorem VerifierSet.ofList_eq_of_mem_iff {ids ids' : List VerifierId}
    (h : ∀ id, id ∈ ids ↔ id ∈ ids') : ofList ids = ofList ids' := by
  apply eq_of_mem_iff
  simpa using h

namespace Tracker

/-- The tracker of a roster depends on the set of verifiers in each role and on the seat alone. -/
theorem enrolled_eq_of_same {roster roster' : Roster} (h : roster.Same roster')
    (session : SessionId) (policy : PendingPolicy) :
    enrolled session policy roster = enrolled session policy roster' := by
  have hrequired := VerifierSet.ofList_eq_of_mem_iff h.required
  have hsufficient := VerifierSet.ofList_eq_of_mem_iff h.sufficient
  -- That the pool has had members is a matter of the set as well.
  have hregistered :
      (roster.ids .sufficient).isEmpty = (roster'.ids .sufficient).isEmpty := by
    rw [← VerifierSet.isEmpty_ofList, hsufficient, VerifierSet.isEmpty_ofList]
  rw [enrolled_eq, enrolled_eq, hrequired, hsufficient, hregistered, h.seated]

/-! ## 2. Before the first answer -/

/-- No answer has been counted: everybody is still waited for, no axis is complete, and the first
answer of each verifier will be counted in the role in which that one is heard. -/
structure Unheard (t : Tracker) (roster : Roster) : Prop where
  required : ∀ id, id ∈ t.required.unanswered ↔ id ∈ roster.ids .required
  sufficient : ∀ id, id ∈ t.sufficient.pool ↔ id ∈ roster.ids .sufficient
  optional : t.optional.verifier = roster.seated
  incomplete :
    t.required.complete = false ∧ t.sufficient.complete = false ∧ t.optional.complete = false
  accepts :
    ∀ id role, roster.heardAs id = some role → ∀ a, (t.answer id a).1 = .accepted role

theorem unheard_enrolled (session : SessionId) (policy : PendingPolicy) (roster : Roster) :
    (enrolled session policy roster).Unheard roster := by
  have heard := Heard.enrolled session policy roster
  refine ⟨fun id => ?_, fun id => ?_, heard.optional.verifier, ?_, fun id role hrole a => ?_⟩
  · rw [enrolled_eq]
    exact VerifierSet.mem_ofList
  · rw [enrolled_eq]
    exact VerifierSet.mem_ofList
  · rw [enrolled_eq]
    exact ⟨rfl, rfl, rfl⟩
  · have hnew : id ∉ Answers.ids [] := List.not_mem_nil
    cases role with
    | required => rw [heard.answer_of_required hrole hnew]
    | optional => rw [heard.answer_of_optional hrole hnew]
    | sufficient => rw [heard.answer_of_sufficient hrole hnew (by simp [Roster.Waived])]

end Tracker

theorem Session.verdict_fresh (c : Configuration) (id : SessionId) {roster : Roster}
    (hroster : roster ≠ []) (now : Timestamp) :
    (fresh c id roster now).verdict = .pending := by
  have hcomplete := Tracker.isComplete_enrolled id c.pendingPolicy roster
  rw [List.isEmpty_eq_false_iff.2 hroster] at hcomplete
  have hpending : (Tracker.enrolled id c.pendingPolicy roster).verdict = .pending := by
    simp [Tracker.verdict, hcomplete]
  simp [verdict, fresh, hpending]

/-! ## 3. The start of a session -/

namespace Service

variable {s : Service} {id : SessionId} {roster roster' : Roster} {now : Timestamp}

/-- Rosters that ask for the same verifiers start the same session. -/
theorem start_eq_of_same (s : Service) (id : SessionId) (now : Timestamp)
    (h : roster.Same roster') :
    (s.start id roster now).result = (s.start id roster' now).result ∧
      (s.start id roster now).service = (s.start id roster' now).service := by
  have henroll : s.enroll id roster = s.enroll id roster' := Tracker.enrolled_eq_of_same h _ _
  simp only [start, henroll]
  split_ifs <;> exact ⟨rfl, rfl⟩

/-- A start is refused for want of verifiers only when the roster is empty. -/
theorem result_start_eq_noVerifiers_iff :
    (∃ i, (s.start id roster now).result = .error (.noVerifiers i)) ↔ roster = [] := by
  simp only [start, enroll_eq, Tracker.hasVerifiers_enrolled, Bool.not_not, List.isEmpty_iff]
  split_ifs with hroster hfollowed
  · exact iff_of_true ⟨id, rfl⟩ hroster
  · exact iff_of_false (by simp) hroster
  · exact iff_of_false (by simp) hroster

/-- A roster is a set: whoever asks for the same verifiers in each role starts the same session,
with the same result and the same event, and no later request can tell the difference. Only the
empty roster is refused for want of verifiers. A session that has been started is pending, and no
answer has been counted. -/
theorem start_of_same_roster (s : Service) (id : SessionId) (now : Timestamp) :
    (∀ roster roster' : Roster, roster.Same roster' →
      (s.start id roster now).result = (s.start id roster' now).result ∧
      (s.start id roster now).service = (s.start id roster' now).service ∧
      s.emitted (.start id roster now) = s.emitted (.start id roster' now) ∧
      ∀ rs, (s.start id roster now).service.handleAll rs =
        (s.start id roster' now).service.handleAll rs) ∧
    ∀ roster : Roster,
      ((∃ i, (s.start id roster now).result = .error (.noVerifiers i)) ↔ roster = []) ∧
      ∀ deadline, (s.start id roster now).result = .ok deadline →
        ∃ x, (s.start id roster now).service.sessions.get? id = some x ∧
          x.verdict = .pending ∧ x.tracker.Unheard roster := by
  constructor
  · intro roster roster' hsame
    obtain ⟨hresult, hservice⟩ := start_eq_of_same s id now hsame
    obtain ⟨-, hcleared⟩ := start_eq_of_same s.cleared id now hsame
    refine ⟨hresult, hservice, congrArg Service.events hcleared, ?_⟩
    intro rs
    rw [hservice]
  · intro roster
    refine ⟨result_start_eq_noVerifiers_iff, fun deadline hok => ?_⟩
    obtain ⟨hroster, hx⟩ := get?_start_of_ok hok
    exact ⟨_, hx, Session.verdict_fresh _ id hroster now, Tracker.unheard_enrolled _ _ roster⟩

/-- The same four verifiers in another order, one of them listed once more and another optional one
listed before the last. -/
theorem start_of_same_roster_reordered :
    let s := Service.new .default
    let roster : Roster :=
      [(⟨5⟩, .required), (⟨7⟩, .sufficient), (⟨4⟩, .required), (⟨8⟩, .optional)]
    let roster' : Roster :=
      [(⟨9⟩, .optional), (⟨4⟩, .required), (⟨8⟩, .optional), (⟨5⟩, .required), (⟨4⟩, .required),
        (⟨7⟩, .sufficient)]
    (roster.Same roster' ∧
        (s.start ⟨1⟩ roster ⟨0⟩).service = (s.start ⟨1⟩ roster' ⟨0⟩).service) ∧
      (s.start ⟨1⟩ roster' ⟨0⟩).result = .ok ⟨10000⟩ ∧
      s.emitted (.start ⟨1⟩ roster ⟨0⟩) = s.emitted (.start ⟨1⟩ roster' ⟨0⟩) ∧
      s.emitted (.start ⟨1⟩ roster' ⟨0⟩) = [.sessionStarted ⟨1⟩ ⟨10000⟩] ∧
      (s.start ⟨1⟩ roster' ⟨0⟩).service.totals.get "sessions_started" = 1 ∧
      ∃ x, (s.start ⟨1⟩ roster' ⟨0⟩).service.sessions.get? ⟨1⟩ = some x ∧ x.verdict = .pending ∧
        x.tracker.Unheard roster' := by
  intro s roster roster'
  obtain ⟨hsame, hstarted⟩ := start_of_same_roster s ⟨1⟩ ⟨0⟩
  have hroster : roster.Same roster' := by
    refine ⟨fun id => ?_, fun id => ?_, by decide⟩
    · simp [roster, roster', Roster.ids]
      tauto
    · simp [roster, roster', Roster.ids]
  have hok : (s.start ⟨1⟩ roster' ⟨0⟩).result = .ok ⟨10000⟩ := by decide
  obtain ⟨-, hservice, hemitted, -⟩ := hsame roster roster' hroster
  exact ⟨⟨hroster, hservice⟩, hok, hemitted, by decide +kernel, by decide +kernel,
    (hstarted roster').2 _ hok⟩

end Service

end PackageVerification
