import PackageVerification.Tracker.Basic

/-!
# Operations on a tracker

What is done to a tracker, each operation with its result, so that a run of a tracker is a list of
operations. Main statement: `performAll_append`, a run in two parts is the two runs in turn.
-/

namespace PackageVerification.Tracker

inductive Operation
  | register (id : VerifierId) (role : Role)
  | answer (id : VerifierId) (answer : Answer)
  | forceRequired
  | extendTimeout
  | recordIntegrity (answer : Answer)
  deriving DecidableEq, Repr

inductive Result
  | done
  | handled (disposition : Disposition)
  /-- The required axis was not forced. -/
  | refused (outstanding : Outstanding)
  deriving DecidableEq, Repr

def perform (t : Tracker) : Operation → Result × Tracker
  | .register id role => (.done, t.register id role)
  | .answer id answer => (.handled (t.answer id answer).1, (t.answer id answer).2)
  | .forceRequired =>
    match t.forceRequired with
    | .ok t' => (.done, t')
    | .error outstanding => (.refused outstanding, t)
  | .extendTimeout => (.done, t.extendTimeout)
  | .recordIntegrity answer => (.done, t.recordIntegrity answer)

/-- An override passes the required axis, or tells how many are silent and changes nothing. -/
theorem forceRequired_cases (t : Tracker) :
    (t.required.unanswered.isEmpty = true ∧
        t.perform .forceRequired = (.done, { t with required := t.required.force })) ∨
      (t.required.unanswered.isEmpty = false ∧
        t.perform .forceRequired = (.refused ⟨t.required.unanswered.size⟩, t)) := by
  rw [perform, forceRequired]
  cases hnone : t.required.unanswered.isEmpty with
  | true => exact .inl ⟨rfl, rfl⟩
  | false => exact .inr ⟨rfl, rfl⟩

def performAll (t : Tracker) : List Operation → List Result × Tracker
  | [] => ([], t)
  | o :: os =>
    let (result, next) := t.perform o
    let (results, after) := next.performAll os
    (result :: results, after)

def results (t : Tracker) (os : List Operation) : List Result := (t.performAll os).1

def after (t : Tracker) (os : List Operation) : Tracker := (t.performAll os).2

theorem performAll_append (t : Tracker) (os ps : List Operation) :
    t.performAll (os ++ ps) = (t.results os ++ (t.after os).results ps, (t.after os).after ps) := by
  induction os generalizing t with
  | nil => rfl
  | cons o os ih => simp [performAll, results, after, ih]

@[simp] theorem after_cons (t : Tracker) (o : Operation) (os : List Operation) :
    t.after (o :: os) = (t.perform o).2.after os := rfl

theorem after_concat (t : Tracker) (os : List Operation) (o : Operation) :
    t.after (os ++ [o]) = ((t.after os).perform o).2 := by
  rw [after, performAll_append]
  rfl

end PackageVerification.Tracker
