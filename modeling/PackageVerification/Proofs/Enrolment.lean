import Mathlib.Data.List.Induction
import Mathlib.Data.List.Sort
import Mathlib.Tactic.SplitIfs
import Mathlib.Tactic.Tauto
import PackageVerification.Service.Basic

/-!
# Enrolment

What a tracker knows once it has been told a roster and has heard nobody. A roster may list a
verifier more than once and in several roles; a verifier with several roles is heard in the first of
them. Main statement: `enrolled_eq`, the tracker of a roster in closed form.
-/

namespace PackageVerification

/-! ## 1. Sets of verifiers -/

namespace VerifierSet

theorem isEmpty_iff {s : VerifierSet} : s.isEmpty = true ↔ ∀ id, id ∉ s := by
  show s.toList.isEmpty = true ↔ ∀ id, id ∉ s.toList
  rw [List.isEmpty_iff, List.eq_nil_iff_forall_not_mem]

theorem isEmpty_eq_false {s : VerifierSet} {id : VerifierId} (h : id ∈ s) : s.isEmpty = false := by
  rw [← Bool.not_eq_true, isEmpty_iff]
  exact fun hnobody => hnobody id h

theorem nodup (s : VerifierSet) : s.toList.Nodup := by
  refine s.ascending.imp fun {a b} hlt => ?_
  rintro rfl
  exact UInt32.lt_irrefl a.uid hlt

/-- A set is determined by its members: there is one order to list them in. -/
theorem eq_of_mem_iff {s t : VerifierSet} (h : ∀ id, id ∈ s ↔ id ∈ t) : s = t := by
  have : Std.Asymm fun a b : VerifierId => a < b :=
    ⟨fun a _ h h' => UInt32.lt_irrefl a.uid (UInt32.lt_trans h h')⟩
  have hlist : s.toList = t.toList := s.ascending.eq_of_mem_iff t.ascending h
  cases s
  cases t
  simpa using hlist

@[simp, grind =]
theorem mem_ofList {ids : List VerifierId} {id : VerifierId} : id ∈ ofList ids ↔ id ∈ ids := by
  have h : ∀ s : VerifierSet, id ∈ ids.foldl insert s ↔ id ∈ s ∨ id ∈ ids := by
    induction ids with
    | nil => simp
    | cons a as ih =>
      intro s
      rw [List.foldl_cons, ih, mem_insert, List.mem_cons]
      tauto
  simp [ofList, h]

@[simp] theorem isEmpty_ofList (ids : List VerifierId) : (ofList ids).isEmpty = ids.isEmpty := by
  rw [Bool.eq_iff_iff, isEmpty_iff, List.isEmpty_iff, List.eq_nil_iff_forall_not_mem]
  simp

end VerifierSet

/-! ## 2. The roles of a roster -/

namespace Roster

def ids (roster : Roster) (role : Role) : List VerifierId :=
  (roster.filter (·.2 = role)).map (·.1)

/-- The optional verifier: the one listed last has the seat. -/
def seated (roster : Roster) : Option VerifierId := (roster.ids .optional).getLast?

/-- The role in which an answer of the verifier is heard. -/
def heardAs (roster : Roster) (id : VerifierId) : Option Role :=
  if id ∈ roster.ids .required then some .required
  else if roster.seated = some id then some .optional
  else if id ∈ roster.ids .sufficient then some .sufficient
  else none

theorem mem_ids {roster : Roster} {role : Role} {id : VerifierId} :
    id ∈ roster.ids role ↔ (id, role) ∈ roster := by
  simp [ids]

theorem ids_concat (roster : Roster) (id : VerifierId) (role role' : Role) :
    Roster.ids (roster ++ [(id, role)]) role' =
      if role = role' then roster.ids role' ++ [id] else roster.ids role' := by
  by_cases h : role = role' <;> simp [ids, List.filter_append, h]

theorem heardAs_eq_required_iff {roster : Roster} {id : VerifierId} :
    roster.heardAs id = some .required ↔ id ∈ roster.ids .required := by
  unfold heardAs
  split_ifs <;> simp_all

/-- Who is required as well is heard as required, so the seat alone is not enough. -/
theorem heardAs_eq_optional_iff {roster : Roster} {id : VerifierId} :
    roster.heardAs id = some .optional ↔
      id ∉ roster.ids .required ∧ roster.seated = some id := by
  unfold heardAs
  split_ifs <;> simp_all

/-- A member of the pool is heard in it unless another role comes first. -/
theorem heardAs_eq_sufficient_iff {roster : Roster} {id : VerifierId} :
    roster.heardAs id = some .sufficient ↔
      id ∉ roster.ids .required ∧ roster.seated ≠ some id ∧ id ∈ roster.ids .sufficient := by
  unfold heardAs
  split_ifs <;> simp_all

theorem heardAs_eq_none_iff {roster : Roster} {id : VerifierId} :
    roster.heardAs id = none ↔
      id ∉ roster.ids .required ∧ roster.seated ≠ some id ∧ id ∉ roster.ids .sufficient := by
  unfold heardAs
  split_ifs <;> simp_all

end Roster

/-! ## 3. The tracker of a roster -/

namespace Tracker

def enrolled (session : SessionId) (policy : PendingPolicy) (roster : Roster) : Tracker :=
  roster.foldl (fun t v => t.register v.1 v.2) (.new session policy)

/-- The tracker of a roster in closed form: the members by role, the optional verifier listed last,
and nobody heard. -/
theorem enrolled_eq (session : SessionId) (policy : PendingPolicy) (roster : Roster) :
    enrolled session policy roster =
      { session, policy
        required :=
          ⟨.ofList (roster.ids .required), .ofList (roster.ids .required), false, true⟩
        sufficient :=
          ⟨.ofList (roster.ids .sufficient), !(roster.ids .sufficient).isEmpty, false, false⟩
        optional := ⟨roster.seated, false, false⟩
        timeoutExtended := false
        integrityResult := none } := by
  induction roster using List.reverseRecOn with
  | nil => rfl
  | append_singleton vs v ih =>
    obtain ⟨id, role⟩ := v
    have h : enrolled session policy (vs ++ [(id, role)]) =
        (enrolled session policy vs).register id role := by
      simp [enrolled]
    rw [h, ih]
    -- Only the axis of the role listed last has changed.
    cases role <;>
      simp [register, RequiredAxis.register, SufficientPool.register, OptionalSeat.register,
        Roster.ids_concat, Roster.seated, VerifierSet.ofList]

@[simp]
theorem hasVerifiers_enrolled (session : SessionId) (policy : PendingPolicy) (roster : Roster) :
    (enrolled session policy roster).hasVerifiers = !roster.isEmpty := by
  rw [enrolled_eq, Bool.eq_iff_iff]
  simp only [hasVerifiers, VerifierSet.isEmpty_ofList, Roster.seated, Bool.or_eq_true,
    Bool.not_eq_true', List.isEmpty_eq_false_iff, List.getLast?_isSome]
  constructor
  · rintro ((h | h) | h) <;> rintro rfl <;> exact h rfl
  · intro h
    obtain ⟨⟨id, role⟩, hv⟩ := List.exists_mem_of_ne_nil roster h
    have hid : roster.ids role ≠ [] := List.ne_nil_of_mem (Roster.mem_ids.2 hv)
    cases role with
    | required => exact .inl (.inl hid)
    | optional => exact .inl (.inr hid)
    | sufficient => exact .inr hid

/-- A tracker that has heard nobody is done only if nobody was asked. -/
theorem isComplete_enrolled (session : SessionId) (policy : PendingPolicy) (roster : Roster) :
    (enrolled session policy roster).isComplete = roster.isEmpty := by
  have h := hasVerifiers_enrolled session policy roster
  rw [← Bool.not_not roster.isEmpty, ← h, enrolled_eq]
  simp [isComplete, hasVerifiers, RequiredAxis.isSettled, OptionalSeat.isSettled,
    SufficientPool.isSettled, VerifierSet.isEmpty_ofList]

end Tracker

theorem Service.enroll_eq (s : Service) (id : SessionId) (roster : Roster) :
    s.enroll id roster = .enrolled id s.configuration.pendingPolicy roster := rfl

end PackageVerification
