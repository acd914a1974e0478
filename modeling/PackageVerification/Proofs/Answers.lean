import Mathlib.Data.List.Nodup
import Mathlib.Data.List.TakeWhile
import PackageVerification.Proofs.Enrolment

/-!
# What answers say about a roster

The answers of verifiers in the order in which they come in, each verifier at most once, and what
they come to for the verifiers of a roster: who has been heard, whether the pool was waived, and
what came before that.
-/

namespace PackageVerification

/-- Where a stretch has ended, nothing more comes to it. -/
theorem takeWhile_append_of_exists {α : Type} {p : α → Bool} {xs : List α}
    (h : ∃ x ∈ xs, ¬p x = true) (ys : List α) : (xs ++ ys).takeWhile p = xs.takeWhile p := by
  obtain ⟨x, hx, hpx⟩ := h
  rw [List.takeWhile_append, if_neg]
  intro hlength
  have hself := (List.takeWhile_prefix p).eq_of_length hlength
  exact hpx (List.takeWhile_eq_self_iff.1 hself x hx)

abbrev Answers := List (VerifierId × Answer)

namespace Answers

def ids (xs : Answers) : List VerifierId := xs.map (·.1)

theorem mem_ids {xs : Answers} {id : VerifierId} : id ∈ xs.ids ↔ ∃ x ∈ xs, x.1 = id := by
  simp [ids]

@[simp] theorem ids_nil : Answers.ids [] = [] := rfl

@[simp] theorem ids_cons (x : VerifierId × Answer) (xs : Answers) :
    Answers.ids (x :: xs) = x.1 :: xs.ids := rfl

@[simp] theorem ids_append (xs ys : Answers) : Answers.ids (xs ++ ys) = xs.ids ++ ys.ids := by
  simp [ids]

/-- Where nobody answers twice, a verifier has one answer. -/
theorem eq_of_ids_eq {xs : Answers} (hnodup : xs.ids.Nodup) {x y : VerifierId × Answer}
    (hx : x ∈ xs) (hy : y ∈ xs) (h : x.1 = y.1) : x = y :=
  List.inj_on_of_nodup_map hnodup hx hy h

end Answers

/-! ## 1. What is said -/

namespace Roster

/-- A waiver: a required verifier allows the install and sends the sufficient verifiers home. -/
def waives (roster : Roster) (x : VerifierId × Answer) : Bool :=
  x.1 ∈ roster.ids .required ∧ x.2 = .allowWithoutSufficient

def beforeWaiver (roster : Roster) (xs : Answers) : Answers := xs.takeWhile (!roster.waives ·)

def Waived (roster : Roster) (xs : Answers) : Prop := ∃ x ∈ xs, roster.waives x = true

/-- A verifier that is heard as a sufficient one has approved before the first waiver. -/
def Approved (roster : Roster) (xs : Answers) : Prop :=
  ∃ x ∈ roster.beforeWaiver xs, roster.heardAs x.1 = some .sufficient ∧ x.2 = .allow

/-- Each member of the pool, which is not empty, has left it by an answer of its own before the
first waiver. -/
def Exhausted (roster : Roster) (xs : Answers) : Prop :=
  roster.ids .sufficient ≠ [] ∧
    ∀ id ∈ roster.ids .sufficient,
      roster.heardAs id = some .sufficient ∧ id ∈ (roster.beforeWaiver xs).ids

def Refused (roster : Roster) (xs : Answers) : Prop :=
  roster.ids .sufficient ≠ [] ∧
    ∀ id ∈ roster.ids .sufficient,
      roster.heardAs id = some .sufficient ∧
        ∃ x ∈ roster.beforeWaiver xs, x.1 = id ∧ x.2 ≠ .allow

def RequiredHeard (roster : Roster) (xs : Answers) : Prop :=
  ∀ id ∈ roster.ids .required, id ∈ xs.ids

def OptionalHeard (roster : Roster) (xs : Answers) : Prop :=
  ∀ id ∈ roster.seated, id ∉ roster.ids .required ∧ id ∈ xs.ids

/-- The pool has nobody to wait for: it has no members, was waived, has an approval, or each member
has answered. -/
def PoolSettled (roster : Roster) (xs : Answers) : Prop :=
  roster.ids .sufficient = [] ∨ roster.Waived xs ∨ roster.Approved xs ∨ roster.Exhausted xs

def RequiredAllow (roster : Roster) (xs : Answers) : Prop :=
  ∀ id ∈ roster.ids .required, ∃ x ∈ xs, x.1 = id ∧ x.2.isAffirmative = true

def OptionalAllows (roster : Roster) (xs : Answers) : Prop :=
  ∀ id ∈ roster.seated, id ∉ roster.ids .required ∧ (id, .allow) ∈ xs

/-- The pool has nobody in it from the beginning, or one of its members has approved, or it was
waived while somebody was left in it. -/
def PoolAllows (roster : Roster) (xs : Answers) : Prop :=
  roster.ids .sufficient = [] ∨ roster.Approved xs ∨ (roster.Waived xs ∧ ¬roster.Exhausted xs)

section Decidable

variable (roster : Roster) (xs : Answers)

instance : Decidable (roster.Waived xs) := inferInstanceAs (Decidable (∃ x ∈ xs, _))

instance : Decidable (roster.Approved xs) := inferInstanceAs (Decidable (∃ x ∈ _, _))

instance : Decidable (roster.Exhausted xs) := inferInstanceAs (Decidable (_ ∧ _))

instance : Decidable (roster.Refused xs) := inferInstanceAs (Decidable (_ ∧ _))

instance : Decidable (roster.RequiredHeard xs) := inferInstanceAs (Decidable (∀ id ∈ _, _))

instance : Decidable (roster.OptionalHeard xs) := inferInstanceAs (Decidable (∀ id ∈ _, _))

instance : Decidable (roster.PoolSettled xs) := inferInstanceAs (Decidable (_ ∨ _))

instance : Decidable (roster.RequiredAllow xs) := inferInstanceAs (Decidable (∀ id ∈ _, _))

instance : Decidable (roster.OptionalAllows xs) := inferInstanceAs (Decidable (∀ id ∈ _, _))

instance : Decidable (roster.PoolAllows xs) := inferInstanceAs (Decidable (_ ∨ _))

end Decidable

theorem waives_iff {roster : Roster} {x : VerifierId × Answer} :
    roster.waives x = true ↔ x.1 ∈ roster.ids .required ∧ x.2 = .allowWithoutSufficient := by
  simp [waives]

theorem waived_append {roster : Roster} {xs ys : Answers} :
    roster.Waived (xs ++ ys) ↔ roster.Waived xs ∨ roster.Waived ys := by
  simp only [Waived, List.mem_append, or_and_right, exists_or]

theorem waived_singleton {roster : Roster} {x : VerifierId × Answer} :
    roster.Waived [x] ↔ roster.waives x = true := by
  simp [Waived]

/-- Nothing that comes after a waiver comes before the first one. -/
theorem beforeWaiver_append_of_waived {roster : Roster} {xs : Answers} (h : roster.Waived xs)
    (ys : Answers) : roster.beforeWaiver (xs ++ ys) = roster.beforeWaiver xs := by
  obtain ⟨x, hx, hw⟩ := h
  exact takeWhile_append_of_exists ⟨x, hx, by simp [hw]⟩ ys

theorem beforeWaiver_append_of_not_waived {roster : Roster} {xs : Answers}
    (h : ¬roster.Waived xs) (ys : Answers) :
    roster.beforeWaiver (xs ++ ys) = xs ++ roster.beforeWaiver ys := by
  have hxs : ∀ x ∈ xs, (!roster.waives x) = true := by
    intro x hx
    rw [Bool.not_eq_true']
    by_contra hw
    exact h ⟨x, hx, by simpa using hw⟩
  exact List.takeWhile_append_of_pos hxs

theorem beforeWaiver_eq_self {roster : Roster} {xs : Answers} (h : ¬roster.Waived xs) :
    roster.beforeWaiver xs = xs := by
  have hxs := beforeWaiver_append_of_not_waived h []
  simpa [beforeWaiver] using hxs

theorem mem_of_mem_beforeWaiver {roster : Roster} {xs : Answers} {x : VerifierId × Answer}
    (h : x ∈ roster.beforeWaiver xs) : x ∈ xs :=
  (List.takeWhile_sublist _).subset h

/-- Only a required verifier waives. -/
theorem heardAs_of_waives {roster : Roster} {x : VerifierId × Answer} (h : roster.waives x = true) :
    roster.heardAs x.1 = some .required :=
  heardAs_eq_required_iff.2 (waives_iff.1 h).1

/-- One more answer approves if a sufficient verifier approves and nobody has waived. -/
theorem approved_concat {roster : Roster} {xs : Answers} {x : VerifierId × Answer} :
    roster.Approved (xs ++ [x]) ↔
      roster.Approved xs ∨
        (¬roster.Waived xs ∧ roster.heardAs x.1 = some .sufficient ∧ x.2 = .allow) := by
  by_cases hw : roster.Waived xs
  · simp only [Approved, beforeWaiver_append_of_waived hw, hw, not_true_eq_false, false_and,
      or_false]
  · simp only [Approved, beforeWaiver_append_of_not_waived hw, beforeWaiver_eq_self hw,
      List.mem_append, or_and_right, exists_or, hw, not_false_eq_true, true_and]
    apply or_congr Iff.rfl
    by_cases hx : roster.waives x = true
    · simp [beforeWaiver, hx, heardAs_of_waives hx]
    · simp [beforeWaiver, hx]

/-- One more answer exhausts the pool if it is that of its last member and nobody has waived. -/
theorem exhausted_concat {roster : Roster} {xs : Answers} {x : VerifierId × Answer} :
    roster.Exhausted (xs ++ [x]) ↔
      roster.ids .sufficient ≠ [] ∧
        ∀ id ∈ roster.ids .sufficient,
          roster.heardAs id = some .sufficient ∧
            (id ∈ (roster.beforeWaiver xs).ids ∨ (¬roster.Waived xs ∧ id = x.1)) := by
  apply and_congr_right'
  apply forall₂_congr
  intro id _
  apply and_congr_right
  intro hid
  by_cases hw : roster.Waived xs
  · simp [beforeWaiver_append_of_waived hw, hw]
  · rw [beforeWaiver_append_of_not_waived hw, beforeWaiver_eq_self hw, Answers.ids_append,
      List.mem_append]
    apply or_congr Iff.rfl
    by_cases hx : roster.waives x = true
    · have hne : id ≠ x.1 := by
        rintro rfl
        simp [heardAs_of_waives hx] at hid
      simp [beforeWaiver, hx, hne]
    · simp [beforeWaiver, hx, hw]

/-- Only an answer of a sufficient verifier approves for the pool or exhausts it. -/
theorem approved_concat_of_ne {roster : Roster} {xs : Answers} {x : VerifierId × Answer}
    (hx : roster.heardAs x.1 ≠ some .sufficient) :
    roster.Approved (xs ++ [x]) ↔ roster.Approved xs := by
  rw [approved_concat, or_iff_left]
  exact fun h => hx h.2.1

theorem exhausted_concat_of_ne {roster : Roster} {xs : Answers} {x : VerifierId × Answer}
    (hx : roster.heardAs x.1 ≠ some .sufficient) :
    roster.Exhausted (xs ++ [x]) ↔ roster.Exhausted xs := by
  rw [exhausted_concat]
  apply and_congr_right'
  apply forall₂_congr
  intro id _
  apply and_congr_right
  intro hid
  have hne : id ≠ x.1 := by
    rintro rfl
    exact hx hid
  rw [or_iff_left (fun h => hne h.2)]

/-- Answers of required verifiers that waive nothing do not matter to the pool. -/
theorem poolAllows_append_of_required {roster : Roster} {xs ys : Answers}
    (hys : ∀ y ∈ ys, y.1 ∈ roster.ids .required ∧ y.2 ≠ .allowWithoutSufficient) :
    roster.PoolAllows (xs ++ ys) ↔ roster.PoolAllows xs := by
  induction ys using List.reverseRecOn with
  | nil => rw [List.append_nil]
  | append_singleton ys y ih =>
    obtain ⟨hr, hne⟩ := hys y (by simp)
    have hrole : roster.heardAs y.1 ≠ some .sufficient := by
      simp [heardAs_eq_required_iff.2 hr]
    have hwaives : ¬roster.waives y = true := fun hw => hne (waives_iff.1 hw).2
    rw [← List.append_assoc, PoolAllows, approved_concat_of_ne hrole, exhausted_concat_of_ne hrole,
      waived_append, waived_singleton, or_iff_left hwaives, ← PoolAllows]
    exact ih fun z hz => hys z (List.mem_append_left _ hz)

/-- The pool has refused when everybody in it has left it and nobody has approved. -/
theorem refused_iff {roster : Roster} {xs : Answers} (hnodup : xs.ids.Nodup) :
    roster.Refused xs ↔ roster.Exhausted xs ∧ ¬roster.Approved xs := by
  constructor
  · rintro ⟨hne, hall⟩
    refine ⟨⟨hne, fun id hid => ?_⟩, ?_⟩
    · obtain ⟨hrole, x, hx, rfl, -⟩ := hall id hid
      exact ⟨hrole, Answers.mem_ids.2 ⟨x, hx, rfl⟩⟩
    · rintro ⟨x, hx, hrole, hallow⟩
      obtain ⟨-, y, hy, hyx, hyne⟩ := hall x.1 (heardAs_eq_sufficient_iff.1 hrole).2.2
      have hxy : y = x := Answers.eq_of_ids_eq hnodup (mem_of_mem_beforeWaiver hy)
        (mem_of_mem_beforeWaiver hx) hyx
      exact hyne (hxy ▸ hallow)
  · rintro ⟨⟨hne, hall⟩, hnot⟩
    refine ⟨hne, fun id hid => ?_⟩
    obtain ⟨hrole, hin⟩ := hall id hid
    obtain ⟨x, hx, rfl⟩ := Answers.mem_ids.1 hin
    exact ⟨hrole, x, hx, rfl, fun hallow => hnot ⟨x, hx, hrole, hallow⟩⟩

end Roster

end PackageVerification
