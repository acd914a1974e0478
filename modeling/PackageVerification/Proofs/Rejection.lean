import PackageVerification.Proofs.Registration
import PackageVerification.Proofs.Snapshot

/-!
# A required rejection stands

When a required verifier has rejected, the required axis has failed, and nobody leaves that axis. So
nothing that is asked or answered later makes the install one that may proceed, nor does a reload;
an override does, which is refused as long as a required verifier is silent. Main statements:
`Rejected.perform`, one operation; `rejection_stands`, a run with reloads.
-/

namespace PackageVerification.Tracker

variable {t u : Tracker}

/-! ## 1. Overrides -/

/-- An override succeeds when no required verifier is silent. Else it changes nothing. -/
theorem forceRequired_done_iff (t : Tracker) :
    ((t.perform .forceRequired).1 = .done ↔ t.required.unanswered.toList = []) ∧
      (t.required.unanswered.toList ≠ [] →
        t.perform .forceRequired = (.refused ⟨t.required.unanswered.toList.length⟩, t)) := by
  have hempty : t.required.unanswered.isEmpty = true ↔ t.required.unanswered.toList = [] :=
    List.isEmpty_iff
  rcases t.forceRequired_cases with ⟨h, hnext⟩ | ⟨h, hnext⟩ <;> rw [hnext]
  · exact ⟨⟨fun _ => hempty.1 h, fun _ => rfl⟩, fun hsilent => absurd (hempty.1 h) hsilent⟩
  · have hsilent : t.required.unanswered.toList ≠ [] := fun hnone =>
      Bool.false_ne_true (h.symm.trans (hempty.2 hnone))
    exact ⟨⟨fun hdone => (nomatch hdone), fun hnone => absurd hnone hsilent⟩, fun _ => rfl⟩

/-! ## 2. Rejected installs -/

/-- Somebody has to answer on the required axis, which has failed. -/
structure Rejected (t : Tracker) : Prop where
  asked : t.required.members.isEmpty = false
  failed : t.required.passed = false

namespace Rejected

theorem isAllowed (h : t.Rejected) : t.isAllowed = false := by
  have hpermits : t.required.permits = false := by
    rw [RequiredAxis.permits, h.asked, h.failed, Bool.and_false, Bool.false_or]
  rw [Tracker.isAllowed, hpermits, Bool.and_false, Bool.false_and, Bool.false_and]

theorem verdict_ne_allowed (h : t.Rejected) : t.verdict ≠ .allowed := by
  rw [verdict, h.isAllowed]
  cases t.isComplete <;> decide

/-- Neither the policy nor another axis has a part in it. -/
theorem of_required_eq (h : t.Rejected) (hrequired : u.required = t.required) : u.Rejected :=
  ⟨hrequired ▸ h.asked, hrequired ▸ h.failed⟩

theorem of_answer {id : VerifierId} {a : Answer}
    (haccepted : (t.answer id a).1 = .accepted .required)
    (hrejects : a ≠ .allow ∧ a ≠ .allowWithoutSufficient) : (t.answer id a).2.Rejected := by
  have hnot : a.isAffirmative = false := by
    cases a with
    | allow => exact absurd rfl hrejects.1
    | allowWithoutSufficient => exact absurd rfl hrejects.2
    | other code => rfl
  rcases t.answer_cases id a with
    ⟨hmember, -, hnext⟩ | ⟨-, -, hnext⟩ | ⟨-, hnext⟩ | ⟨d, hd, hnext⟩ <;>
    rw [hnext] at haccepted ⊢
  · refine ⟨?_, ?_⟩
    · exact VerifierSet.isEmpty_eq_false (s := t.required.members) hmember
    · rw [RequiredAxis.record, hnot, Bool.and_false]
  · cases haccepted
  · cases haccepted
  · exact absurd haccepted (hd _)

/-- Whatever is done, short of an override that succeeds, a rejected install stays rejected. -/
theorem perform (h : t.Rejected) {o : Operation}
    (ho : (o, (t.perform o).1) ≠ (.forceRequired, .done)) : (t.perform o).2.Rejected := by
  rcases t.required_perform_cases o with
    ⟨id, -, hrequired⟩ | ⟨id, a, -, -, -, hrequired⟩ | ⟨rfl, hnone, -⟩ | ⟨-, -, hrequired⟩
  · refine ⟨?_, ?_⟩
    · rw [hrequired]
      exact VerifierSet.isEmpty_eq_false (VerifierSet.mem_insert.2 (.inl rfl))
    · rw [hrequired]
      exact h.failed
  · refine ⟨?_, ?_⟩
    · rw [hrequired]
      exact h.asked
    · rw [hrequired, RequiredAxis.record, h.failed, Bool.false_and]
  · rcases t.forceRequired_cases with ⟨-, hnext⟩ | ⟨hsilent, -⟩
    · rw [hnext] at ho
      exact absurd rfl ho
    · exact absurd (hsilent.symm.trans hnone) Bool.false_ne_true
  · exact h.of_required_eq hrequired

end Rejected

/-! ## 3. Runs -/

theorem exists_play (t : Tracker) (steps : List Step) :
    ∃ results u, t.play steps = some (results, u) := by
  induction steps generalizing t with
  | nil => exact ⟨[], t, rfl⟩
  | cons step steps ih =>
    cases step with
    | operation o =>
      obtain ⟨results, u, hplay⟩ := ih (t.perform o).2
      exact ⟨(t.perform o).1 :: results, u, by rw [play, hplay, Option.map_some]⟩
    | reload =>
      obtain ⟨results, u, hplay⟩ := ih t.reclassified
      exact ⟨results, u, by rw [play, restore?_snapshot_eq, Option.bind_some, hplay]⟩

theorem Rejected.of_play (h : t.Rejected) {steps : List Step} {results : List Result}
    (hplay : t.play steps = some (results, u))
    (hnot : (.forceRequired, .done) ∉ (operations steps).zip results) : u.Rejected := by
  induction steps generalizing t results with
  | nil =>
    obtain ⟨-, rfl⟩ := Prod.mk.inj (Option.some.inj hplay)
    exact h
  | cons step steps ih =>
    cases step with
    | operation o =>
      rw [play, Option.map_eq_some_iff] at hplay
      obtain ⟨⟨rest, v⟩, hrest, hresults⟩ := hplay
      obtain ⟨rfl, rfl⟩ := Prod.mk.inj hresults
      rw [operations, List.zip_cons_cons, List.mem_cons, not_or] at hnot
      exact ih (h.perform (Ne.symm hnot.1)) hrest hnot.2
    | reload =>
      rw [play, restore?_snapshot_eq, Option.bind_some] at hplay
      have hnext : t.reclassified.Rejected := h.of_required_eq rfl
      exact ih hnext hplay hnot

/-- Once the rejection of a required verifier has been counted, the install may not proceed, however
it goes on: whoever is asked or answers, and however often the tracker is put away and read back;
until an override succeeds. Of any tracker: an override succeeds when nobody required is silent; if
not, it tells how many are and changes nothing. -/
theorem rejection_stands (t : Tracker) :
    (∀ id a, (t.answer id a).1 = .accepted .required → a ≠ .allow → a ≠ .allowWithoutSufficient →
      ∀ steps, ∃ results u, (t.answer id a).2.play steps = some (results, u) ∧
        ((.forceRequired, .done) ∉ (operations steps).zip results →
          u.isAllowed = false ∧ u.verdict ≠ .allowed)) ∧
    ((t.perform .forceRequired).1 = .done ↔ t.required.unanswered.toList = []) ∧
    (t.required.unanswered.toList ≠ [] →
      t.perform .forceRequired = (.refused ⟨t.required.unanswered.toList.length⟩, t)) := by
  refine ⟨fun id a haccepted hallow hwaive steps => ?_, t.forceRequired_done_iff⟩
  have hrejected := Rejected.of_answer haccepted ⟨hallow, hwaive⟩
  obtain ⟨results, u, hplay⟩ := (t.answer id a).2.exists_play steps
  refine ⟨results, u, hplay, fun hnot => ?_⟩
  have hstands := hrejected.of_play hplay hnot
  exact ⟨hstands.isAllowed, hstands.verdict_ne_allowed⟩

/-- One of two required verifiers rejects. An override comes too early; then the verifier is asked
again and approves, and so does the other one, which sends the rest home: the decision is complete,
and the install may not proceed. -/
theorem rejection_stands_when_asked_again :
    let t := (new ⟨0⟩ .permissive).after
      [.register ⟨1⟩ .required, .register ⟨2⟩ .required, .register ⟨3⟩ .sufficient]
    let steps : List Step :=
      [.operation .forceRequired, .reload, .operation (.register ⟨1⟩ .required),
        .operation (.answer ⟨1⟩ .allow), .operation (.answer ⟨2⟩ .allowWithoutSufficient), .reload]
    (t.answer ⟨1⟩ .reject).1 = .accepted .required ∧
      ∃ results u, (t.answer ⟨1⟩ .reject).2.play steps = some (results, u) ∧
        results.head? = some (.refused ⟨1⟩) ∧ u.isComplete = true ∧ u.isAllowed = false := by
  intro t steps
  have haccepted : (t.answer ⟨1⟩ .reject).1 = .accepted .required := by decide
  obtain ⟨results, u, hplay, hstands⟩ :=
    (rejection_stands t).1 ⟨1⟩ .reject haccepted (by decide) (by decide) steps
  have hrestorable : (t.answer ⟨1⟩ .reject).2.Restorable := fun a ha => by cases ha
  have hreceived : ∀ o ∈ operations steps, o.Received := by
    have hallow : Answer.Received .allow := .inl ⟨1, by decide⟩
    have hwaive : Answer.Received .allowWithoutSufficient := .inl ⟨2, by decide⟩
    simp [steps, operations, Operation.Received, hallow, hwaive]
  have hsame := Option.some.inj (hplay.symm.trans (hrestorable.play hreceived).1)
  obtain ⟨rfl, rfl⟩ := Prod.mk.inj hsame
  exact ⟨haccepted, _, _, hplay, by decide, by decide, (hstands (by decide)).1⟩

end PackageVerification.Tracker
