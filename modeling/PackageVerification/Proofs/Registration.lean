import Mathlib.Data.List.Induction
import Mathlib.Tactic.SplitIfs
import PackageVerification.Proofs.Enrolment
import PackageVerification.Tracker.Operation

/-!
# Verifiers that are registered late

A tracker takes registrations at any time, also when answers have come in. An axis that is complete
stays complete when another verifier is registered on it, and a required verifier that has answered
is asked again when it is registered again. Main statements: `isComplete_but_for_late`, a complete
decision lacks the answers of late verifiers only; `count_votes_le`, a required verifier has no more
votes than registrations.
-/

namespace PackageVerification

theorem VerifierSet.insert_eq_self {s : VerifierSet} {id : VerifierId} (h : id ∈ s) :
    s.insert id = s := by
  refine eq_of_mem_iff fun a => ?_
  grind

namespace Tracker

/-! ## 1. What a run has seen -/

def log (t : Tracker) (os : List Operation) : List (Operation × Result) := os.zip (t.results os)

@[simp] theorem log_cons (t : Tracker) (o : Operation) (os : List Operation) :
    t.log (o :: os) = (o, (t.perform o).1) :: (t.perform o).2.log os := rfl

theorem log_concat (t : Tracker) (os : List Operation) (o : Operation) :
    t.log (os ++ [o]) = t.log os ++ [(o, ((t.after os).perform o).1)] := by
  induction os generalizing t with
  | nil => rfl
  | cons p os ih => simp [ih]

def isMarkedComplete (t : Tracker) : Role → Bool
  | .required => t.required.complete
  | .sufficient => t.sufficient.complete
  | .optional => t.optional.complete

def Counted (t : Tracker) (os : List Operation) (id : VerifierId) (role : Role) : Prop :=
  ∃ answer, (.answer id answer, .handled (.accepted role)) ∈ t.log os

/-- The verifier was registered in the role when the axis of the role was complete already. -/
def Late (t : Tracker) (os : List Operation) (id : VerifierId) (role : Role) : Prop :=
  ∃ before since, os = before ++ .register id role :: since ∧
    (t.after before).isMarkedComplete role = true

variable {t : Tracker} {os : List Operation} {id : VerifierId} {role : Role}

theorem Counted.concat (h : t.Counted os id role) (o : Operation) :
    t.Counted (os ++ [o]) id role := by
  obtain ⟨answer, hanswer⟩ := h
  exact ⟨answer, by rw [log_concat]; exact List.mem_append_left _ hanswer⟩

theorem Late.concat (h : t.Late os id role) (o : Operation) : t.Late (os ++ [o]) id role := by
  obtain ⟨before, since, rfl, hcomplete⟩ := h
  exact ⟨before, since ++ [o], by simp, hcomplete⟩

/-- What a run with one more operation has counted, it had counted before or counts with that one.
-/
theorem counted_concat_iff (o : Operation) :
    t.Counted (os ++ [o]) id role ↔ t.Counted os id role ∨
      ∃ answer, o = .answer id answer ∧ ((t.after os).answer id answer).1 = .accepted role := by
  constructor
  · rintro ⟨answer, hanswer⟩
    rw [log_concat, List.mem_append, List.mem_singleton] at hanswer
    rcases hanswer with hanswer | hanswer
    · exact .inl ⟨answer, hanswer⟩
    · obtain ⟨rfl, hresult⟩ := Prod.mk.inj hanswer
      exact .inr ⟨answer, rfl, (Result.handled.inj hresult).symm⟩
  · rintro (h | ⟨answer, rfl, hresult⟩)
    · exact h.concat o
    · refine ⟨answer, ?_⟩
      rw [log_concat, List.mem_append, List.mem_singleton, perform, hresult]
      exact .inr rfl

/-- One more operation makes a verifier late if it registers it on a complete axis. -/
theorem late_concat_iff (o : Operation) :
    t.Late (os ++ [o]) id role ↔ t.Late os id role ∨
      o = .register id role ∧ (t.after os).isMarkedComplete role = true := by
  constructor
  · rintro ⟨before, since, hos, hcomplete⟩
    rcases List.eq_nil_or_concat since with rfl | ⟨since, p, rfl⟩
    · obtain ⟨rfl, ho⟩ := List.append_inj' hos rfl
      exact .inr ⟨List.singleton_inj.1 ho, hcomplete⟩
    · have hos' : os ++ [o] = (before ++ .register id role :: since) ++ [p] := by simpa using hos
      exact .inl ⟨before, since, (List.append_inj' hos' rfl).1, hcomplete⟩
  · rintro (h | ⟨rfl, hcomplete⟩)
    · exact h.concat o
    · exact ⟨os, [], rfl, hcomplete⟩

/-! ## 2. What an operation does to an axis -/

/-- The required axis is told of a verifier, counts an answer, is forced, or stays as it is. -/
theorem required_perform_cases (t : Tracker) (o : Operation) :
    (∃ id, o = .register id .required ∧ (t.perform o).2.required = t.required.register id) ∨
      (∃ id answer, o = .answer id answer ∧ (t.perform o).1 = .handled (.accepted .required) ∧
        id ∈ t.required.unanswered ∧ (t.perform o).2.required = t.required.record id answer) ∨
      (o = .forceRequired ∧ t.required.unanswered.isEmpty = true ∧
        (t.perform o).2.required = t.required.force) ∨
      ((∀ id, o ≠ .register id .required) ∧ (t.perform o).1 ≠ .handled (.accepted .required) ∧
        (t.perform o).2.required = t.required) := by
  cases o with
  | register id role =>
    cases role with
    | required => exact .inl ⟨id, rfl, rfl⟩
    | sufficient | optional => exact .inr (.inr (.inr ⟨by simp, by simp [perform], rfl⟩))
  | answer id a =>
    -- Only an answer that is counted on this axis touches it.
    rw [perform]
    rcases t.answer_cases id a with
      ⟨-, hu, hnext⟩ | ⟨-, -, hnext⟩ | ⟨-, hnext⟩ | ⟨d, hd, hnext⟩ <;> rw [hnext]
    · exact .inr (.inl ⟨id, a, rfl, rfl, hu, rfl⟩)
    · exact .inr (.inr (.inr ⟨by simp, by simp, rfl⟩))
    · exact .inr (.inr (.inr ⟨by simp, by simp, rfl⟩))
    · exact .inr (.inr (.inr ⟨by simp, by simp [hd], rfl⟩))
  | forceRequired =>
    rcases t.forceRequired_cases with ⟨hnone, hnext⟩ | ⟨-, hnext⟩ <;> rw [hnext]
    · exact .inr (.inr (.inl ⟨rfl, hnone, rfl⟩))
    · exact .inr (.inr (.inr ⟨by simp, by simp, rfl⟩))
  | extendTimeout | recordIntegrity => exact .inr (.inr (.inr ⟨by simp, by simp [perform], rfl⟩))

/-- The optional seat is given to a verifier, counts an answer of the one in it, or stays as it is.
-/
theorem optional_perform_cases (t : Tracker) (o : Operation) :
    (∃ id, o = .register id .optional ∧ (t.perform o).2.optional = t.optional.register id) ∨
      (∃ id answer, o = .answer id answer ∧ (t.perform o).1 = .handled (.accepted .optional) ∧
        t.optional.verifier = some id ∧ (t.perform o).2.optional = t.optional.record answer) ∨
      ((∀ id, o ≠ .register id .optional) ∧ (t.perform o).1 ≠ .handled (.accepted .optional) ∧
        (t.perform o).2.optional = t.optional) := by
  cases o with
  | register id role =>
    cases role with
    | optional => exact .inl ⟨id, rfl, rfl⟩
    | required | sufficient => exact .inr (.inr ⟨by simp, by simp [perform], rfl⟩)
  | answer id a =>
    rw [perform]
    rcases t.answer_cases id a with
      ⟨-, -, hnext⟩ | ⟨ho, -, hnext⟩ | ⟨-, hnext⟩ | ⟨d, hd, hnext⟩ <;> rw [hnext]
    · exact .inr (.inr ⟨by simp, by simp, rfl⟩)
    · exact .inr (.inl ⟨id, a, rfl, rfl, ho, rfl⟩)
    · exact .inr (.inr ⟨by simp, by simp, rfl⟩)
    · exact .inr (.inr ⟨by simp, by simp [hd], rfl⟩)
  | forceRequired =>
    rcases t.forceRequired_cases with ⟨-, hnext⟩ | ⟨-, hnext⟩ <;> rw [hnext] <;>
      exact .inr (.inr ⟨by simp, by simp, rfl⟩)
  | extendTimeout | recordIntegrity => exact .inr (.inr ⟨by simp, by simp [perform], rfl⟩)

/-- The pool takes a member in, counts the answer of one, is waived, or stays as it is. -/
theorem sufficient_perform_cases (t : Tracker) (o : Operation) :
    (∃ id, (t.perform o).2.sufficient = t.sufficient.register id) ∨
      (∃ id answer, id ∈ t.sufficient.pool ∧
        (t.perform o).2.sufficient = t.sufficient.record id answer) ∨
      (t.perform o).2.sufficient = t.sufficient.waive ∨
      (t.perform o).2.sufficient = t.sufficient := by
  cases o with
  | register id role =>
    cases role with
    | sufficient => exact .inl ⟨id, rfl⟩
    | required | optional => exact .inr (.inr (.inr rfl))
  | answer id a =>
    have hpool : poolAfter t.sufficient a = t.sufficient.waive ∨
        poolAfter t.sufficient a = t.sufficient := by
      unfold poolAfter
      split_ifs
      · exact .inl rfl
      · exact .inr rfl
    rw [perform]
    rcases t.answer_cases id a with
      ⟨-, -, hnext⟩ | ⟨-, -, hnext⟩ | ⟨hp, hnext⟩ | ⟨_, -, hnext⟩ <;> rw [hnext]
    · exact .inr (.inr hpool)
    · exact .inr (.inr (.inr rfl))
    · exact .inr (.inl ⟨id, a, hp, rfl⟩)
    · exact .inr (.inr (.inr rfl))
  | forceRequired =>
    rcases t.forceRequired_cases with ⟨-, hnext⟩ | ⟨-, hnext⟩ <;> rw [hnext] <;>
      exact .inr (.inr (.inr rfl))
  | extendTimeout | recordIntegrity => exact .inr (.inr (.inr rfl))

/-! ## 3. Complete axes -/

/-- An axis that is marked complete stays so. -/
theorem isMarkedComplete_perform (h : t.isMarkedComplete role = true) (o : Operation) :
    (t.perform o).2.isMarkedComplete role = true := by
  cases role with
  | required =>
    rcases t.required_perform_cases o with
      ⟨_, -, hnext⟩ | ⟨_, _, -, -, -, hnext⟩ | ⟨-, -, hnext⟩ | ⟨-, -, hnext⟩ <;>
      simp_all [isMarkedComplete, RequiredAxis.register, RequiredAxis.record, RequiredAxis.force]
  | optional =>
    rcases t.optional_perform_cases o with
      ⟨_, -, hnext⟩ | ⟨_, _, -, -, -, hnext⟩ | ⟨-, -, hnext⟩ <;>
      simp_all [isMarkedComplete, OptionalSeat.register, OptionalSeat.record]
  | sufficient =>
    rcases t.sufficient_perform_cases o with
      ⟨_, hnext⟩ | ⟨_, _, -, hnext⟩ | hnext | hnext <;>
      simp_all [isMarkedComplete, SufficientPool.register, SufficientPool.record,
        SufficientPool.waive]

theorem isMarkedComplete_of_late (h : t.Late os id role) :
    (t.after os).isMarkedComplete role = true := by
  induction os using List.reverseRecOn with
  | nil =>
    obtain ⟨before, since, hos, -⟩ := h
    simp at hos
  | append_singleton os o ih =>
    rw [after_concat]
    rcases (late_concat_iff o).1 h with h | ⟨-, hcomplete⟩
    · exact isMarkedComplete_perform (ih h) o
    · exact isMarkedComplete_perform hcomplete o

/-- One counted answer completes the optional axis. -/
theorem isMarkedComplete_of_counted (h : t.Counted os id .optional) :
    (t.after os).isMarkedComplete .optional = true := by
  induction os using List.reverseRecOn with
  | nil =>
    obtain ⟨answer, hanswer⟩ := h
    exact absurd hanswer List.not_mem_nil
  | append_singleton os o ih =>
    rw [after_concat]
    rcases (counted_concat_iff o).1 h with h | ⟨answer, rfl, hresult⟩
    · exact isMarkedComplete_perform (ih h) o
    · rcases (t.after os).optional_perform_cases (.answer id answer) with
        ⟨_, ho, -⟩ | ⟨_, _, -, -, -, hnext⟩ | ⟨-, hnot, -⟩
      · cases ho
      · rw [isMarkedComplete, hnext]
        rfl
      · exact absurd (congrArg Result.handled hresult) hnot

/-- A verifier that is not awaited on a complete axis was registered when the axis was complete. -/
theorem late_of_complete (session : SessionId) (policy : PendingPolicy) (os : List Operation)
    (hid : id ∈ ((new session policy).after os).required.unanswered)
    (hcomplete : ((new session policy).after os).required.complete = true) :
    (new session policy).Late os id .required := by
  -- On the run from its end: the axis was complete before the last operation, or that one completed
  -- it.
  induction os using List.reverseRecOn with
  | nil => cases hcomplete
  | append_singleton os o ih =>
    rw [after_concat] at hid hcomplete
    refine (late_concat_iff o).2 ?_
    rcases ((new session policy).after os).required_perform_cases o with
      ⟨id', rfl, hnext⟩ | ⟨id', answer, rfl, -, -, hnext⟩ | ⟨rfl, hnone, hnext⟩ | ⟨-, -, hnext⟩
    -- An override takes that nobody is awaited.
    · rw [hnext] at hid hcomplete
      rcases VerifierSet.mem_insert.1 hid with rfl | hid
      · exact .inr ⟨rfl, hcomplete⟩
      · exact .inl (ih hid hcomplete)
    · rw [hnext] at hid hcomplete
      -- The verifier is still awaited, so the answer was not the last one.
      have hlast : (((new session policy).after os).required.unanswered.erase id').isEmpty ≠ true :=
        fun hempty => VerifierSet.isEmpty_iff.1 hempty id hid
      have hbefore : ((new session policy).after os).required.complete = true :=
        (Bool.or_eq_true_iff.1 hcomplete).resolve_right hlast
      exact .inl (ih (VerifierSet.mem_erase.1 hid).1 hbefore)
    · rw [hnext] at hid
      exact absurd hid (VerifierSet.isEmpty_iff.1 hnone id)
    · rw [hnext] at hid hcomplete
      exact .inl (ih hid hcomplete)

/-- A complete optional axis has counted the answer of the one who has the seat, unless that one was
seated when the axis was complete. -/
theorem counted_or_late_of_complete (session : SessionId) (policy : PendingPolicy)
    (os : List Operation) (hid : ((new session policy).after os).optional.verifier = some id)
    (hcomplete : ((new session policy).after os).optional.complete = true) :
    (new session policy).Counted os id .optional ∨ (new session policy).Late os id .optional := by
  induction os using List.reverseRecOn with
  | nil => cases hcomplete
  | append_singleton os o ih =>
    rw [after_concat] at hid hcomplete
    rw [counted_concat_iff, late_concat_iff]
    rcases ((new session policy).after os).optional_perform_cases o with
      ⟨id', rfl, hnext⟩ | ⟨id', answer, rfl, hresult, hseat, hnext⟩ | ⟨-, -, hnext⟩
    · rw [hnext] at hid hcomplete
      obtain rfl : id' = id := Option.some.inj hid
      exact .inr (.inr ⟨rfl, hcomplete⟩)
    · rw [hnext] at hid
      obtain rfl : id' = id := Option.some.inj (hseat.symm.trans hid)
      exact .inl (.inr ⟨answer, rfl, Result.handled.inj hresult⟩)
    · rw [hnext] at hid hcomplete
      rcases ih hid hcomplete with h | h
      · exact .inl (.inl h)
      · exact .inr (.inl h)

theorem mem_members_of_unanswered (session : SessionId) (policy : PendingPolicy)
    (os : List Operation) (hid : id ∈ ((new session policy).after os).required.unanswered) :
    id ∈ ((new session policy).after os).required.members := by
  induction os using List.reverseRecOn with
  | nil => exact absurd hid (VerifierSet.not_mem_empty id)
  | append_singleton os o ih =>
    rw [after_concat] at hid ⊢
    rcases ((new session policy).after os).required_perform_cases o with
      ⟨id', rfl, hnext⟩ | ⟨id', answer, rfl, -, -, hnext⟩ | ⟨-, -, hnext⟩ | ⟨-, -, hnext⟩ <;>
      rw [hnext] at hid ⊢
    · exact VerifierSet.mem_insert.2 ((VerifierSet.mem_insert.1 hid).imp_right ih)
    · exact ih (VerifierSet.mem_erase.1 hid).1
    · exact ih hid
    · exact ih hid

/-- An axis that somebody is awaited on is settled only if that one came late. -/
theorem required_isSettled_iff_late (session : SessionId) (policy : PendingPolicy)
    (os : List Operation) (hid : id ∈ ((new session policy).after os).required.unanswered) :
    ((new session policy).after os).required.isSettled = true ↔
      (new session policy).Late os id .required := by
  have hsome : ((new session policy).after os).required.members.isEmpty ≠ true := fun hempty =>
    VerifierSet.isEmpty_iff.1 hempty id (mem_members_of_unanswered session policy os hid)
  rw [RequiredAxis.isSettled, Bool.or_eq_true, or_iff_right hsome]
  exact ⟨late_of_complete session policy os hid, fun h => isMarkedComplete_of_late h⟩

theorem optional_isSettled_iff_counted_or_late (session : SessionId) (policy : PendingPolicy)
    (os : List Operation) (hid : ((new session policy).after os).optional.verifier = some id) :
    ((new session policy).after os).optional.isSettled = true ↔
      (new session policy).Counted os id .optional ∨ (new session policy).Late os id .optional := by
  rw [OptionalSeat.isSettled, hid, Option.isNone_some, Bool.false_or]
  refine ⟨counted_or_late_of_complete session policy os hid, ?_⟩
  rintro (h | h)
  · exact isMarkedComplete_of_counted h
  · exact isMarkedComplete_of_late h

/-- The required axis waits for each verifier that has not answered, unless it was registered when
the axis was complete already. The optional axis waits for the answer of the one who has the seat,
unless that one was seated when the axis was complete already. So a decision that is complete lacks
the answers of late verifiers only. -/
theorem isComplete_but_for_late (session : SessionId) (policy : PendingPolicy)
    (os : List Operation) :
    let s := new session policy
    let t := s.after os
    (∀ id ∈ t.required.unanswered, t.required.isSettled = true ↔ s.Late os id .required) ∧
      (∀ id, t.optional.verifier = some id →
        (t.optional.isSettled = true ↔ s.Counted os id .optional ∨ s.Late os id .optional)) ∧
      (t.verdict ≠ .pending →
        (∀ id ∈ t.required.unanswered, s.Late os id .required) ∧
          ∀ id, t.optional.verifier = some id →
            s.Counted os id .optional ∨ s.Late os id .optional) := by
  intro s t
  have hrequired : ∀ id ∈ t.required.unanswered,
      t.required.isSettled = true ↔ s.Late os id .required :=
    fun id hid => required_isSettled_iff_late session policy os hid
  have hoptional : ∀ id, t.optional.verifier = some id →
      (t.optional.isSettled = true ↔ s.Counted os id .optional ∨ s.Late os id .optional) :=
    fun id hid => optional_isSettled_iff_counted_or_late session policy os hid
  refine ⟨hrequired, hoptional, fun hfinal => ?_⟩
  -- A verdict that is not pending is that of a complete decision, so each axis is settled.
  have hcomplete : t.isComplete = true := by
    by_contra hnot
    exact hfinal (if_pos (by simp [hnot]))
  simp only [isComplete, Bool.and_eq_true] at hcomplete
  exact ⟨fun id hid => (hrequired id hid).1 hcomplete.1.1,
    fun id hid => (hoptional id hid).1 hcomplete.1.2⟩

/-- An install is allowed without the answer of a verifier that is required after the first one has
answered; it came late. -/
theorem isComplete_but_for_late_second :
    let s := new ⟨0⟩ .failClosed
    let os : List Operation :=
      [.register ⟨1⟩ .required, .answer ⟨1⟩ .allow, .register ⟨2⟩ .required]
    let t := s.after os
    t.verdict ≠ .pending ∧ ⟨2⟩ ∈ t.required.unanswered ∧ t.required.isSettled = true ∧
      s.Late os ⟨2⟩ .required := by
  intro s os t
  have hfinal : t.verdict ≠ .pending := by decide
  have hid : ⟨2⟩ ∈ t.required.unanswered := by decide
  obtain ⟨hrequired, -, hlate⟩ := isComplete_but_for_late ⟨0⟩ .failClosed os
  have hsecond : s.Late os ⟨2⟩ .required := (hlate hfinal).1 ⟨2⟩ hid
  exact ⟨hfinal, hid, (hrequired ⟨2⟩ hid).2 hsecond, hsecond⟩

/-- A verifier that is required after all others have answered is not waited for, nor is one that
takes the optional seat of a verifier that has answered. -/
theorem isComplete_with_late_verifiers :
    let t := (new ⟨0⟩ .failClosed).after
      [.register ⟨1⟩ .required, .answer ⟨1⟩ .allow, .register ⟨2⟩ .required]
    let u := (new ⟨0⟩ .failClosed).after
      [.register ⟨7⟩ .optional, .answer ⟨7⟩ .allow, .register ⟨8⟩ .optional]
    (t.isComplete = true ∧ t.verdict = .allowed ∧ t.required.unanswered.toList = [⟨2⟩]) ∧
      u.isComplete = true ∧ u.verdict = .allowed ∧ u.optional.verifier = some ⟨8⟩ ∧
        (u.answer ⟨8⟩ .reject).1 = .duplicate .optional := by
  decide

/-! ## 4. Votes -/

/-- The operation is an answer of the verifier, and was counted on the required axis. -/
def isVote (id : VerifierId) : Operation × Result → Bool
  | (.answer id' _, .handled (.accepted .required)) => id' = id
  | _ => false

/-- How many answers of the verifier the required axis waits for. -/
def owed (t : Tracker) (id : VerifierId) : Nat := if id ∈ t.required.unanswered then 1 else 0

/-- A vote answers what is owed, and only a registration makes a verifier owe an answer. -/
theorem vote_add_owed_le (t : Tracker) (o : Operation) (id : VerifierId) :
    (if isVote id (o, (t.perform o).1) then 1 else 0) + (t.perform o).2.owed id ≤
      (if o = .register id .required then 1 else 0) + t.owed id := by
  -- A registration makes one answer owed, a vote pays it, and nothing else moves either side.
  rcases t.required_perform_cases o with
    ⟨id', rfl, hnext⟩ | ⟨id', answer, rfl, hresult, hid', hnext⟩ | ⟨rfl, hnone, hnext⟩ |
    ⟨-, hnot, hnext⟩
  · have hmem : ∀ i, i ∈ (t.perform (.register id' .required)).2.required.unanswered ↔
        i = id' ∨ i ∈ t.required.unanswered := by
      rw [hnext]
      exact fun i => VerifierSet.mem_insert
    by_cases hid : id' = id
    · subst hid
      simp [isVote, owed, hmem]
    · have hid' : id ≠ id' := fun h => hid h.symm
      simp [isVote, owed, hmem, hid, hid']
  · have hmem : ∀ i, i ∈ (t.perform (.answer id' answer)).2.required.unanswered ↔
        i ∈ t.required.unanswered ∧ i ≠ id' := by
      rw [hnext]
      exact fun i => VerifierSet.mem_erase
    by_cases hid : id' = id
    · subst hid
      simp [isVote, hresult, owed, hmem, hid']
    · have hne : id ≠ id' := fun h => hid h.symm
      simp [isVote, hresult, owed, hmem, hid, hne]
  · have hsame : (t.perform .forceRequired).2.owed id = t.owed id := by
      rw [owed, owed, hnext]
      rfl
    simp [isVote, hsame]
  · have hvote : isVote id (o, (t.perform o).1) = false := by
      unfold isVote
      split
      · rename_i heq
        exact absurd (Prod.mk.inj heq).2 hnot
      · rfl
    rw [hvote, owed, owed, hnext]
    simp

/-- Over a run votes and what is owed are bounded by the registrations. -/
theorem count_votes_add_owed_le (t : Tracker) (os : List Operation) (id : VerifierId) :
    (t.log os).countP (isVote id) + (t.after os).owed id ≤
      os.count (.register id .required) + t.owed id := by
  induction os generalizing t with
  | nil => exact Nat.le_refl _
  | cons o os ih =>
    have hstep := t.vote_add_owed_le o id
    have hrest := ih (t.perform o).2
    rw [log_cons, List.countP_cons, List.count_cons, after_cons]
    simp only [beq_iff_eq]
    omega

/-- To register a member again changes nothing if its answer is awaited anyway. -/
theorem register_eq_self_iff (hmember : id ∈ t.required.members) :
    t.register id .required = t ↔ id ∈ t.required.unanswered := by
  constructor
  · intro h
    have hself : t.required.unanswered.insert id = t.required.unanswered :=
      congrArg (fun u : Tracker => u.required.unanswered) h
    rw [← hself]
    exact VerifierSet.mem_insert.2 (.inl rfl)
  · intro h
    rw [register, RequiredAxis.register, VerifierSet.insert_eq_self hmember,
      VerifierSet.insert_eq_self h]

/-- A required verifier votes no more often than it is registered, and after a vote no more often
than it is registered again. To register it again leaves the tracker as it is just when its answer
is awaited anyway. -/
theorem count_votes_le (session : SessionId) (policy : PendingPolicy) (os : List Operation)
    (id : VerifierId) :
    let s := new session policy
    (s.log os).countP (isVote id) ≤ os.count (.register id .required) ∧
      ∀ n, let t := s.after (os.take n)
        (id ∉ t.required.unanswered →
          (t.log (os.drop n)).countP (isVote id) ≤ (os.drop n).count (.register id .required)) ∧
        (id ∈ t.required.members →
          (t.register id .required = t ↔ id ∈ t.required.unanswered)) := by
  intro s
  have hle : ∀ (t : Tracker) (ps : List Operation), id ∉ t.required.unanswered →
      (t.log ps).countP (isVote id) ≤ ps.count (.register id .required) := by
    intro t ps hid
    have h := t.count_votes_add_owed_le ps id
    rw [show t.owed id = 0 from if_neg hid] at h
    omega
  refine ⟨hle s os (VerifierSet.not_mem_empty id), fun n => ⟨hle _ _, fun hmember => ?_⟩⟩
  exact register_eq_self_iff hmember

/-- A verifier that has answered and is registered again has one more vote at most. -/
theorem count_votes_le_registered_again :
    let s := new ⟨0⟩ .failClosed
    let os : List Operation :=
      [.register ⟨1⟩ .required, .answer ⟨1⟩ .allow, .register ⟨1⟩ .required,
        .answer ⟨1⟩ .reject, .answer ⟨1⟩ .reject]
    let t := s.after (os.take 2)
    ⟨1⟩ ∉ t.required.unanswered ∧ (t.log (os.drop 2)).countP (isVote ⟨1⟩) ≤ 1 ∧
      ⟨1⟩ ∈ t.required.members ∧ t.register ⟨1⟩ .required ≠ t := by
  intro s os t
  have hanswered : ⟨1⟩ ∉ t.required.unanswered := by decide
  have hmember : ⟨1⟩ ∈ t.required.members := by decide
  obtain ⟨hvotes, hsame⟩ := (count_votes_le ⟨0⟩ .failClosed os ⟨1⟩).2 2
  exact ⟨hanswered, hvotes hanswered, hmember, fun h => hanswered ((hsame hmember).1 h)⟩

/-- A required verifier that has answered votes again when it is registered again, and turns an
install that was allowed into one that is rejected. -/
theorem two_votes_of_registered_again :
    let s := new ⟨0⟩ .failClosed
    let os : List Operation :=
      [.register ⟨1⟩ .required, .answer ⟨1⟩ .allow, .register ⟨1⟩ .required, .answer ⟨1⟩ .reject]
    (s.log os).countP (isVote ⟨1⟩) = 2 ∧
      (s.after (os.take 2)).register ⟨1⟩ .required ≠ s.after (os.take 2) ∧
      (s.after (os.take 2)).verdict = .allowed ∧ (s.after os).verdict = .rejected := by
  decide

end Tracker

end PackageVerification
