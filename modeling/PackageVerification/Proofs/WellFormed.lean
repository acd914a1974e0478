import PackageVerification.Proofs.Rejection

/-!
# What holds of every tracker

The flags of an axis go with the verifiers of it, and what a tracker has come to it never gives up:
nobody leaves the required axis, and a flag that is set stays set. Both are said of each axis and of
each thing that can happen to it. Main statements: `WellFormed.perform`, `grows_perform`, one
operation; `play_wellFormed`, a run with reloads.
-/

namespace PackageVerification

/-! ## 1. Required verifiers -/

namespace RequiredAxis

/-- Only members are awaited. The axis is complete when somebody was asked and nobody is awaited,
and it fails only when somebody was asked. -/
structure WellFormed (a : RequiredAxis) : Prop where
  members : ∀ id ∈ a.unanswered, id ∈ a.members
  complete : a.members.isEmpty = false → a.unanswered.isEmpty = true → a.complete = true
  failed : a.passed = false → a.members.isEmpty = false

structure Grows (a b : RequiredAxis) : Prop where
  members : ∀ id ∈ a.members, id ∈ b.members
  complete : a.complete = true → b.complete = true

variable {a b c : RequiredAxis}

theorem wellFormed_empty : empty.WellFormed where
  members _ h := h
  complete h := by cases h
  failed h := by cases h

/-- A verifier that is registered is awaited, so the axis has a member that it waits for. -/
theorem WellFormed.register (h : a.WellFormed) (id : VerifierId) : (a.register id).WellFormed where
  members other hother := by
    have hmembers := h.members other
    rw [RequiredAxis.register] at hother ⊢
    grind
  complete _ hnobody := by
    -- The verifier itself is awaited.
    have hawaited : id ∈ (a.register id).unanswered := VerifierSet.mem_insert.2 (.inl rfl)
    exact absurd hnobody (by simp [VerifierSet.isEmpty_eq_false hawaited])
  failed _ := VerifierSet.isEmpty_eq_false (VerifierSet.mem_insert.2 (.inl rfl))

/-- The last answer of those awaited completes the axis. -/
theorem WellFormed.record (h : a.WellFormed) {id : VerifierId} (hid : id ∈ a.unanswered)
    (answer : Answer) : (a.record id answer).WellFormed where
  members other hother := h.members other (VerifierSet.mem_erase.1 hother).1
  complete _ hnobody := by
    rw [RequiredAxis.record] at hnobody ⊢
    rw [hnobody, Bool.or_true]
  failed _ := VerifierSet.isEmpty_eq_false (h.members id hid)

theorem WellFormed.force (h : a.WellFormed) : a.force.WellFormed where
  members := h.members
  complete _ _ := rfl
  failed hfailed := by cases hfailed

theorem Grows.refl (a : RequiredAxis) : a.Grows a where
  members _ h := h
  complete h := h

theorem Grows.trans (h : a.Grows b) (h' : b.Grows c) : a.Grows c where
  members id hid := h'.members id (h.members id hid)
  complete hcomplete := h'.complete (h.complete hcomplete)

/-- To register a verifier takes no verifier off the axis, and no flag back. -/
theorem grows_register (a : RequiredAxis) (id : VerifierId) : a.Grows (a.register id) where
  members _ h := VerifierSet.mem_insert.2 (.inr h)
  complete h := h

theorem grows_record (a : RequiredAxis) (id : VerifierId) (answer : Answer) :
    a.Grows (a.record id answer) where
  members _ h := h
  complete h := by rw [record, h, Bool.true_or]

theorem grows_force (a : RequiredAxis) : a.Grows a.force where
  members _ h := h
  complete _ := rfl

end RequiredAxis

/-! ## 2. The sufficient pool -/

namespace SufficientPool

/-- A pool with members or with a decision has had members, and it has passed only if it has
decided. -/
structure WellFormed (p : SufficientPool) : Prop where
  members : p.pool.isEmpty = false → p.registered = true
  passed : p.passed = true → p.complete = true
  complete : p.complete = true → p.registered = true

structure Grows (p q : SufficientPool) : Prop where
  registered : p.registered = true → q.registered = true
  complete : p.complete = true → q.complete = true
  passed : p.passed = true → q.passed = true

variable {p q r : SufficientPool}

theorem wellFormed_empty : empty.WellFormed where
  members h := by cases h
  passed h := by cases h
  complete h := by cases h

theorem WellFormed.register (h : p.WellFormed) (id : VerifierId) : (p.register id).WellFormed where
  members _ := rfl
  passed := h.passed
  complete _ := rfl

/-- What a member decides is decided for a pool that has had members. -/
theorem WellFormed.record (h : p.WellFormed) {id : VerifierId} (hid : id ∈ p.pool)
    (answer : Answer) : (p.record id answer).WellFormed where
  members _ := h.members (VerifierSet.isEmpty_eq_false hid)
  passed hpassed := by
    rw [SufficientPool.record, Bool.or_eq_true] at hpassed
    rcases hpassed with hpassed | hallow
    · rw [SufficientPool.record, h.passed hpassed, Bool.true_or, Bool.true_or]
    · rw [SufficientPool.record, hallow, Bool.or_true, Bool.true_or]
  complete _ := h.members (VerifierSet.isEmpty_eq_false hid)

theorem WellFormed.waive (h : p.WellFormed) : p.waive.WellFormed where
  members hmembers := by cases hmembers
  passed := h.passed
  complete := h.complete

theorem Grows.refl (p : SufficientPool) : p.Grows p where
  registered h := h
  complete h := h
  passed h := h

theorem Grows.trans (h : p.Grows q) (h' : q.Grows r) : p.Grows r where
  registered hregistered := h'.registered (h.registered hregistered)
  complete hcomplete := h'.complete (h.complete hcomplete)
  passed hpassed := h'.passed (h.passed hpassed)

theorem grows_register (p : SufficientPool) (id : VerifierId) : p.Grows (p.register id) where
  registered _ := rfl
  complete h := h
  passed h := h

theorem grows_record (p : SufficientPool) (id : VerifierId) (answer : Answer) :
    p.Grows (p.record id answer) where
  registered h := h
  complete h := by rw [record, h, Bool.true_or, Bool.true_or]
  passed h := by rw [record, h, Bool.true_or]

/-- To waive the pool sends its members home and takes no flag back. -/
theorem grows_waive (p : SufficientPool) : p.Grows p.waive where
  registered h := h
  complete h := h
  passed h := h

end SufficientPool

/-! ## 3. The optional verifier -/

namespace OptionalSeat

/-- The seat has passed only if its answer is in, and that only if somebody sits in it. -/
structure WellFormed (s : OptionalSeat) : Prop where
  passed : s.passed = true → s.complete = true
  complete : s.complete = true → s.verifier.isSome = true

structure Grows (s u : OptionalSeat) : Prop where
  seated : s.verifier.isSome = true → u.verifier.isSome = true
  complete : s.complete = true → u.complete = true

variable {s u v : OptionalSeat}

theorem wellFormed_empty : empty.WellFormed where
  passed h := by cases h
  complete h := by cases h

theorem WellFormed.register (h : s.WellFormed) (id : VerifierId) : (s.register id).WellFormed where
  passed := h.passed
  complete _ := rfl

theorem wellFormed_record {id : VerifierId} (hid : s.verifier = some id) (answer : Answer) :
    (s.record answer).WellFormed where
  passed _ := rfl
  complete _ := by rw [record, hid, Option.isSome_some]

theorem Grows.refl (s : OptionalSeat) : s.Grows s where
  seated h := h
  complete h := h

theorem Grows.trans (h : s.Grows u) (h' : u.Grows v) : s.Grows v where
  seated hseated := h'.seated (h.seated hseated)
  complete hcomplete := h'.complete (h.complete hcomplete)

theorem grows_register (s : OptionalSeat) (id : VerifierId) : s.Grows (s.register id) where
  seated _ := rfl
  complete h := h

theorem grows_record (s : OptionalSeat) (answer : Answer) : s.Grows (s.record answer) where
  seated h := h
  complete _ := rfl

end OptionalSeat

/-! ## 4. Trackers -/

namespace Tracker

structure WellFormed (t : Tracker) : Prop where
  ascending : ∀ s ∈ [t.required.members, t.required.unanswered, t.sufficient.pool],
    IsAscending s.toData
  required : t.required.WellFormed
  sufficient : t.sufficient.WellFormed
  optional : t.optional.WellFormed

structure Grows (t u : Tracker) : Prop where
  required : t.required.Grows u.required
  sufficient : t.sufficient.Grows u.sufficient
  optional : t.optional.Grows u.optional
  extended : t.timeoutExtended = true → u.timeoutExtended = true
  integrity : t.integrityResult.isSome = true → u.integrityResult.isSome = true

variable {t u v : Tracker}

/-- The order of the members is that of every set, so a tracker is well formed when its axes are. -/
theorem WellFormed.of_axes (hrequired : t.required.WellFormed)
    (hsufficient : t.sufficient.WellFormed) (hoptional : t.optional.WellFormed) : t.WellFormed where
  ascending s _ := isAscending_toData s
  required := hrequired
  sufficient := hsufficient
  optional := hoptional

theorem wellFormed_new (session : SessionId) (policy : PendingPolicy) :
    (new session policy).WellFormed :=
  .of_axes RequiredAxis.wellFormed_empty SufficientPool.wellFormed_empty
    OptionalSeat.wellFormed_empty

/-- An operation keeps a tracker well formed. -/
theorem WellFormed.perform (h : t.WellFormed) (o : Operation) : (t.perform o).2.WellFormed := by
  refine .of_axes ?_ ?_ ?_
  -- Each axis sees a registration, an answer or a forcing of its own, and else stays as it is.
  · rcases t.required_perform_cases o with
      ⟨id, -, hnext⟩ | ⟨id, a, -, -, hid, hnext⟩ | ⟨-, -, hnext⟩ | ⟨-, -, hnext⟩ <;> rw [hnext]
    · exact h.required.register id
    · exact h.required.record hid a
    · exact h.required.force
    · exact h.required
  · rcases t.sufficient_perform_cases o with
      ⟨id, hnext⟩ | ⟨id, a, hid, hnext⟩ | hnext | hnext <;> rw [hnext]
    · exact h.sufficient.register id
    · exact h.sufficient.record hid a
    · exact h.sufficient.waive
    · exact h.sufficient
  · rcases t.optional_perform_cases o with
      ⟨id, -, hnext⟩ | ⟨id, a, -, -, hid, hnext⟩ | ⟨-, -, hnext⟩ <;> rw [hnext]
    · exact h.optional.register id
    · exact OptionalSeat.wellFormed_record hid a
    · exact h.optional

theorem Grows.refl (t : Tracker) : t.Grows t where
  required := .refl _
  sufficient := .refl _
  optional := .refl _
  extended h := h
  integrity h := h

theorem Grows.trans (h : t.Grows u) (h' : u.Grows v) : t.Grows v where
  required := h.required.trans h'.required
  sufficient := h.sufficient.trans h'.sufficient
  optional := h.optional.trans h'.optional
  extended hextended := h'.extended (h.extended hextended)
  integrity hintegrity := h'.integrity (h.integrity hintegrity)

/-- Answers, registrations and overrides touch neither the time nor the integrity check. -/
theorem time_and_integrity_perform (t : Tracker) (o : Operation) :
    (t.timeoutExtended = true → (t.perform o).2.timeoutExtended = true) ∧
      (t.integrityResult.isSome = true → (t.perform o).2.integrityResult.isSome = true) := by
  cases o with
  | register id role => cases role <;> exact ⟨fun h => h, fun h => h⟩
  | answer id a => simp [perform]
  | forceRequired =>
    rcases t.forceRequired_cases with ⟨-, hnext⟩ | ⟨-, hnext⟩ <;> rw [hnext] <;>
      exact ⟨fun h => h, fun h => h⟩
  | extendTimeout => exact ⟨fun _ => rfl, fun h => h⟩
  | recordIntegrity a => exact ⟨fun h => h, fun _ => rfl⟩

/-- No operation takes back what a tracker has come to. -/
theorem grows_perform (t : Tracker) (o : Operation) : t.Grows (t.perform o).2 where
  required := by
    rcases t.required_perform_cases o with
      ⟨id, -, hnext⟩ | ⟨id, a, -, -, -, hnext⟩ | ⟨-, -, hnext⟩ | ⟨-, -, hnext⟩ <;> rw [hnext]
    · exact t.required.grows_register id
    · exact t.required.grows_record id a
    · exact t.required.grows_force
    · exact .refl _
  sufficient := by
    rcases t.sufficient_perform_cases o with
      ⟨id, hnext⟩ | ⟨id, a, -, hnext⟩ | hnext | hnext <;> rw [hnext]
    · exact t.sufficient.grows_register id
    · exact t.sufficient.grows_record id a
    · exact t.sufficient.grows_waive
    · exact .refl _
  optional := by
    rcases t.optional_perform_cases o with
      ⟨id, -, hnext⟩ | ⟨id, a, -, -, -, hnext⟩ | ⟨-, -, hnext⟩ <;> rw [hnext]
    · exact t.optional.grows_register id
    · exact t.optional.grows_record a
    · exact .refl _
  extended := (t.time_and_integrity_perform o).1
  integrity := (t.time_and_integrity_perform o).2

/-! ## 5. Runs with reloads -/

/-- To be put away and taken up again touches no axis. -/
theorem WellFormed.reclassified (h : t.WellFormed) : t.reclassified.WellFormed :=
  .of_axes h.required h.sufficient h.optional

theorem grows_reclassified (t : Tracker) : t.Grows t.reclassified where
  required := .refl _
  sufficient := .refl _
  optional := .refl _
  extended h := h
  integrity h := by rwa [Tracker.reclassified, Option.isSome_map]

/-- What operations keep, a run of them with reloads keeps. -/
theorem wellFormed_of_play (h : t.WellFormed) {steps : List Step} {results : List Result}
    (hplay : t.play steps = some (results, u)) : u.WellFormed ∧ t.Grows u := by
  induction steps generalizing t results with
  | nil =>
    obtain ⟨-, rfl⟩ := Prod.mk.inj (Option.some.inj hplay)
    exact ⟨h, .refl _⟩
  | cons step steps ih =>
    cases step with
    | operation o =>
      rw [play, Option.map_eq_some_iff] at hplay
      obtain ⟨⟨rest, w⟩, hrest, hresults⟩ := hplay
      obtain ⟨-, rfl⟩ := Prod.mk.inj hresults
      obtain ⟨hwell, hgrows⟩ := ih (h.perform o) hrest
      exact ⟨hwell, (t.grows_perform o).trans hgrows⟩
    -- A reload puts the integrity answer in normal form; no invariant reads which answer it is.
    | reload =>
      rw [play, restore?_snapshot_eq, Option.bind_some] at hplay
      obtain ⟨hwell, hgrows⟩ := ih h.reclassified hplay
      exact ⟨hwell, t.grows_reclassified.trans hgrows⟩

/-- Whatever is done to a new tracker, reloads included, it is well formed, and whatever is done
after that, it keeps what it has come to. -/
theorem play_wellFormed (session : SessionId) (policy : PendingPolicy) (steps more : List Step) :
    ∃ results t, (new session policy).play steps = some (results, t) ∧ t.WellFormed ∧
      ∃ moreResults u, t.play more = some (moreResults, u) ∧ u.WellFormed ∧ t.Grows u := by
  obtain ⟨results, t, hplay⟩ := (new session policy).exists_play steps
  obtain ⟨moreResults, u, hmore⟩ := t.exists_play more
  have hwell := (wellFormed_of_play (wellFormed_new session policy) hplay).1
  exact ⟨results, t, hplay, hwell, moreResults, u, hmore, wellFormed_of_play hwell hmore⟩

end Tracker

end PackageVerification
