import PackageVerification.Tracker.Axis
import PackageVerification.Notice

/-!
# The tracker of a session

A tracker gathers the answers about one pending install and decides. It knows nothing of time; that
a request for more time was granted is only noted.
-/

namespace PackageVerification

structure Tracker where
  session : SessionId
  policy : PendingPolicy
  required : RequiredAxis
  sufficient : SufficientPool
  optional : OptionalSeat
  timeoutExtended : Bool
  /-- Kept for review; it has no part in the decision. -/
  integrityResult : Option Answer
  deriving DecidableEq, Repr

/-- The number of required verifiers that keep the required axis from being forced. -/
structure Outstanding where
  remaining : Nat
  deriving DecidableEq, Repr

def Outstanding.message (o : Outstanding) : String :=
  "required verifiers still outstanding: " ++ Text.ofNat o.remaining

namespace Tracker

def new (session : SessionId) (policy : PendingPolicy) : Tracker :=
  ⟨session, policy, .empty, .empty, .empty, false, none⟩

/-! ## 1. Registration -/

def register (t : Tracker) (id : VerifierId) : Role → Tracker
  | .required => { t with required := t.required.register id }
  | .sufficient => { t with sufficient := t.sufficient.register id }
  | .optional => { t with optional := t.optional.register id }

/-- Whether the verifier holds the role now; a sufficient verifier that answered no longer does. -/
def holds (t : Tracker) (id : VerifierId) : Role → Bool
  | .required => id ∈ t.required.members
  | .sufficient => id ∈ t.sufficient.pool
  | .optional => t.optional.verifier = some id

def isRegistered (t : Tracker) (id : VerifierId) : Bool :=
  t.holds id .required || t.holds id .optional || t.holds id .sufficient

def hasVerifiers (t : Tracker) : Bool :=
  !t.required.members.isEmpty || t.optional.verifier.isSome || t.sufficient.registered

/-! ## 2. Answers -/

def poolAfter (p : SufficientPool) (answer : Answer) : SufficientPool :=
  if answer = .allowWithoutSufficient then p.waive else p

/-- Handles an answer. A verifier with several roles is heard in the first of required, optional and
sufficient. An answer that is not counted changes nothing. -/
def answer (t : Tracker) (id : VerifierId) (answer : Answer) : Disposition × Tracker :=
  if id ∈ t.required.members then
    if id ∈ t.required.unanswered then
      (.accepted .required,
        { t with
          required := t.required.record id answer
          sufficient := poolAfter t.sufficient answer })
    else (.duplicate .required, t)
  else if t.optional.verifier = some id then
    if t.optional.complete then (.duplicate .optional, t)
    else (.accepted .optional, { t with optional := t.optional.record answer })
  else if id ∈ t.sufficient.pool then
    (.accepted .sufficient, { t with sufficient := t.sufficient.record id answer })
  else (.unrecognized, t)

/-- An answer counts on one axis, the first on which the verifier is expected, or it changes
nothing.
-/
theorem answer_cases (t : Tracker) (id : VerifierId) (a : Answer) :
    (id ∈ t.required.members ∧ id ∈ t.required.unanswered ∧ t.answer id a =
      (.accepted .required,
        { t with
          required := t.required.record id a
          sufficient := poolAfter t.sufficient a })) ∨
      (t.optional.verifier = some id ∧ t.optional.complete = false ∧
        t.answer id a = (.accepted .optional, { t with optional := t.optional.record a })) ∨
      (id ∈ t.sufficient.pool ∧
        t.answer id a =
          (.accepted .sufficient, { t with sufficient := t.sufficient.record id a })) ∨
      ∃ d : Disposition, (∀ role, d ≠ .accepted role) ∧ t.answer id a = (d, t) := by
  unfold answer
  by_cases hmember : id ∈ t.required.members
  · by_cases hawaited : id ∈ t.required.unanswered
    · rw [if_pos hmember, if_pos hawaited]
      exact .inl ⟨hmember, hawaited, rfl⟩
    · rw [if_pos hmember, if_neg hawaited]
      exact .inr (.inr (.inr ⟨_, by simp, rfl⟩))
  rw [if_neg hmember]
  by_cases hseated : t.optional.verifier = some id
  · by_cases hcomplete : t.optional.complete = true
    · rw [if_pos hseated, if_pos hcomplete]
      exact .inr (.inr (.inr ⟨_, by simp, rfl⟩))
    · rw [if_pos hseated, if_neg hcomplete]
      exact .inr (.inl ⟨hseated, by simpa using hcomplete, rfl⟩)
  rw [if_neg hseated]
  by_cases hpool : id ∈ t.sufficient.pool
  · rw [if_pos hpool]
    exact .inr (.inr (.inl ⟨hpool, rfl⟩))
  · rw [if_neg hpool]
    exact .inr (.inr (.inr ⟨_, by simp, rfl⟩))

/-! An answer leaves alone what is not about the axes. -/

@[simp] theorem session_answer (t : Tracker) (id : VerifierId) (a : Answer) :
    (t.answer id a).2.session = t.session := by
  rcases t.answer_cases id a with ⟨-, -, h⟩ | ⟨-, -, h⟩ | ⟨-, h⟩ | ⟨_, -, h⟩ <;> rw [h]

@[simp] theorem policy_answer (t : Tracker) (id : VerifierId) (a : Answer) :
    (t.answer id a).2.policy = t.policy := by
  rcases t.answer_cases id a with ⟨-, -, h⟩ | ⟨-, -, h⟩ | ⟨-, h⟩ | ⟨_, -, h⟩ <;> rw [h]

@[simp] theorem timeoutExtended_answer (t : Tracker) (id : VerifierId) (a : Answer) :
    (t.answer id a).2.timeoutExtended = t.timeoutExtended := by
  rcases t.answer_cases id a with ⟨-, -, h⟩ | ⟨-, -, h⟩ | ⟨-, h⟩ | ⟨_, -, h⟩ <;> rw [h]

@[simp] theorem integrityResult_answer (t : Tracker) (id : VerifierId) (a : Answer) :
    (t.answer id a).2.integrityResult = t.integrityResult := by
  rcases t.answer_cases id a with ⟨-, -, h⟩ | ⟨-, -, h⟩ | ⟨-, h⟩ | ⟨_, -, h⟩ <;> rw [h]

def answerNotices (t : Tracker) (id : VerifierId) (answer : Answer) : List Notice :=
  let (disposition, t') := t.answer id answer
  match disposition with
  | .accepted .required =>
    let waived :=
      if answer = .allowWithoutSufficient ∧ !t.sufficient.pool.isEmpty then
        [.sufficientWaived t.session id t.sufficient.pool.size]
      else []
    waived ++
      [.requiredAnswered t.session id answer t'.required.unanswered.size t'.required.passed]
  | .accepted .optional => [.optionalAnswered t.session id answer t'.optional.passed]
  | .accepted .sufficient =>
    [.sufficientAnswered t.session id answer t'.sufficient.pool.size t'.sufficient.complete]
  | .duplicate _ => []
  | .unrecognized => [.strangerAnswered t.session id answer]

/-- Passes the required axis by decree; every required verifier must have answered. -/
def forceRequired (t : Tracker) : Except Outstanding Tracker :=
  if t.required.unanswered.isEmpty then .ok { t with required := t.required.force }
  else .error ⟨t.required.unanswered.size⟩

/-! ## 3. Time and integrity -/

def extendTimeout (t : Tracker) : Tracker := { t with timeoutExtended := true }

def recordIntegrity (t : Tracker) (answer : Answer) : Tracker :=
  { t with integrityResult := some answer }

/-! ## 4. The decision -/

def isComplete (t : Tracker) : Bool :=
  t.required.isSettled && t.optional.isSettled && t.sufficient.isSettled

/-- The install may proceed. Before the decision is complete the policy has a say. -/
def isAllowed (t : Tracker) : Bool :=
  (t.policy = .permissive || t.isComplete) &&
    t.required.permits && t.optional.permits && t.sufficient.permits

def verdict (t : Tracker) : Verdict :=
  if !t.isComplete then .pending
  else if t.isAllowed then .allowed
  else .rejected

def isIntegrityComplete (t : Tracker) : Bool := t.integrityResult.isSome

def isAllComplete (t : Tracker) : Bool := t.isIntegrityComplete && t.isComplete

def axes (t : Tracker) : AxisReport where
  required := t.required.status
  sufficient := t.sufficient.status
  optional := t.optional.status
  integrity := if t.isIntegrityComplete then .complete else .pending

end Tracker

end PackageVerification
