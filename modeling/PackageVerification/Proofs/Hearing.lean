import PackageVerification.Proofs.Answers

/-!
# Hearing answers

How a tracker stands that was told a roster and has heard answers, said of the answers alone:
`Heard`. Whether the required axis was forced is the only other thing that matters. Main statements:
`Heard.answer`, one more verifier is heard; `Heard.verdict_eq_allowed_iff` and
`Heard.verdict_eq_pending_iff`, the verdict in terms of the answers.
-/

namespace PackageVerification

/-! ## 1. The required axis -/

/-- The required axis once the answers have been heard. After an override (`forced`) it passes
whatever was answered. -/
structure RequiredAxis.Heard (a : RequiredAxis) (roster : Roster) (forced : Prop) (xs : Answers) :
    Prop where
  members : ∀ id, id ∈ a.members ↔ id ∈ roster.ids .required
  unanswered : ∀ id, id ∈ a.unanswered ↔ id ∈ roster.ids .required ∧ id ∉ xs.ids
  answered_of_forced : forced → roster.RequiredHeard xs
  complete : roster.ids .required ≠ [] → (a.complete = true ↔ roster.RequiredHeard xs)
  passed :
    roster.ids .required ≠ [] →
      (a.passed = true ↔
        forced ∨ ∀ x ∈ xs, x.1 ∈ roster.ids .required → x.2.isAffirmative = true)
  untouched : roster.ids .required = [] → ¬forced → a.complete = false ∧ a.passed = true

namespace RequiredAxis.Heard

variable {a : RequiredAxis} {roster : Roster} {forced : Prop} {xs : Answers}

/-- Nobody is awaited on the axis when the required verifiers have all answered. -/
theorem isEmpty_unanswered (h : a.Heard roster forced xs) :
    a.unanswered.isEmpty = true ↔ roster.RequiredHeard xs := by
  rw [VerifierSet.isEmpty_iff]
  simp only [h.unanswered, not_and, not_not, Roster.RequiredHeard]

theorem isEmpty_members (h : a.Heard roster forced xs) :
    a.members.isEmpty = true ↔ roster.ids .required = [] := by
  rw [VerifierSet.isEmpty_iff, List.eq_nil_iff_forall_not_mem]
  simp only [h.members]

/-- A required verifier is heard. After an override there is none left to be heard. -/
theorem record (h : a.Heard roster forced xs) {id : VerifierId}
    (hid : roster.heardAs id = some .required) (hnew : id ∉ xs.ids) (answer : Answer) :
    (a.record id answer).Heard roster forced (xs ++ [(id, answer)]) := by
  have hr := Roster.heardAs_eq_required_iff.1 hid
  -- After an override everybody has answered, so nobody is left to be heard for the first time.
  have hforced : ¬forced := fun hf => hnew (h.answered_of_forced hf id hr)
  have hunanswered : ∀ v, v ∈ (a.unanswered.erase id) ↔
      v ∈ roster.ids .required ∧ v ∉ Answers.ids (xs ++ [(id, answer)]) := by
    intro v
    simp [h.unanswered, and_assoc]
  have hempty : (a.unanswered.erase id).isEmpty = true ↔
      roster.RequiredHeard (xs ++ [(id, answer)]) := by
    rw [VerifierSet.isEmpty_iff]
    simp only [hunanswered, not_and, not_not, Roster.RequiredHeard]
  refine ⟨h.members, hunanswered, fun hf => absurd hf hforced, fun hne => ?_, fun hne => ?_,
    fun hnil => absurd hnil (List.ne_nil_of_mem hr)⟩
  -- Before this answer somebody was awaited, so the flag was not set.
  · have hc : ¬a.complete = true := fun hc => hnew ((h.complete hne).1 hc id hr)
    show (a.complete || (a.unanswered.erase id).isEmpty) = true ↔ _
    rw [Bool.or_eq_true, or_iff_right hc, hempty]
  · simp only [RequiredAxis.record, Bool.and_eq_true, h.passed hne, hforced, false_or]
    constructor
    · rintro ⟨hall, haff⟩ x hx hxr
      rcases List.mem_append.1 hx with hx | hx
      · exact hall x hx hxr
      · rw [List.mem_singleton.1 hx]
        exact haff
    · intro hall
      refine ⟨fun x hx => hall x (List.mem_append_left _ hx), ?_⟩
      exact hall (id, answer) (List.mem_append_right _ List.mem_cons_self) hr

/-- An answer that is heard in another role does not touch the axis. -/
theorem frame (h : a.Heard roster forced xs) {x : VerifierId × Answer}
    (hx : roster.heardAs x.1 ≠ some .required) : a.Heard roster forced (xs ++ [x]) := by
  have hr : x.1 ∉ roster.ids .required := fun hr => hx (Roster.heardAs_eq_required_iff.2 hr)
  have hids : ∀ v ∈ roster.ids .required, v ∈ Answers.ids (xs ++ [x]) ↔ v ∈ xs.ids := by
    intro v hv
    have hne : v ≠ x.1 := fun hv' => hr (hv' ▸ hv)
    simp [hne]
  have hheard : roster.RequiredHeard (xs ++ [x]) ↔ roster.RequiredHeard xs :=
    forall₂_congr hids
  refine ⟨h.members, fun v => ?_, fun hf => hheard.2 (h.answered_of_forced hf), fun hne => ?_,
    fun hne => ?_, h.untouched⟩
  · rw [h.unanswered]
    exact and_congr_right fun hv => not_congr (hids v hv).symm
  · rw [h.complete hne, hheard]
  · rw [h.passed hne]
    simp only [List.mem_append, List.mem_singleton]
    apply or_congr Iff.rfl
    constructor
    · rintro hall y (hy | rfl) hyr
      · exact hall y hy hyr
      · exact absurd hyr hr
    · exact fun hall y hy => hall y (.inl hy)

/-- The axis is forced, which takes that everybody has answered. -/
theorem force (h : a.Heard roster forced xs) (hall : roster.RequiredHeard xs) :
    a.force.Heard roster True xs :=
  ⟨h.members, h.unanswered, fun _ => hall, fun _ => ⟨fun _ => hall, fun _ => rfl⟩,
    fun _ => ⟨fun _ => .inl trivial, fun _ => rfl⟩, fun _ hf => absurd trivial hf⟩

/-- The axis waits for nobody when the required verifiers have all answered. -/
theorem isSettled_iff (h : a.Heard roster forced xs) :
    a.isSettled = true ↔ roster.RequiredHeard xs := by
  rw [RequiredAxis.isSettled, Bool.or_eq_true, h.isEmpty_members]
  by_cases hne : roster.ids .required = []
  · simp [hne, Roster.RequiredHeard]
  · simp [hne, h.complete hne]

/-- A required axis allows the install when nobody is on it, it was forced, or all have allowed. -/
theorem permits_iff (h : a.Heard roster forced xs) (hnodup : xs.ids.Nodup) :
    a.permits = true ↔ roster.ids .required = [] ∨ forced ∨ roster.RequiredAllow xs := by
  rw [RequiredAxis.permits, Bool.or_eq_true, Bool.and_eq_true, h.isEmpty_members]
  by_cases hne : roster.ids .required = []
  · simp only [hne, true_or]
  · rw [or_iff_right hne, or_iff_right hne, h.complete hne, h.passed hne]
    constructor
    · rintro ⟨hheard, hf | haff⟩
      · exact .inl hf
      · refine .inr fun id hid => ?_
        obtain ⟨x, hx, rfl⟩ := Answers.mem_ids.1 (hheard id hid)
        exact ⟨x, hx, rfl, haff x hx hid⟩
    · rintro (hf | hallow)
      · exact ⟨h.answered_of_forced hf, .inl hf⟩
      · refine ⟨fun id hid => ?_, .inr fun x hx hxr => ?_⟩
        · obtain ⟨x, hx, hxid, -⟩ := hallow id hid
          exact Answers.mem_ids.2 ⟨x, hx, hxid⟩
        · obtain ⟨y, hy, hyx, haff⟩ := hallow x.1 hxr
          exact Answers.eq_of_ids_eq hnodup hy hx hyx ▸ haff

end RequiredAxis.Heard

/-! ## 2. The optional seat -/

structure OptionalSeat.Heard (s : OptionalSeat) (roster : Roster) (xs : Answers) : Prop where
  verifier : s.verifier = roster.seated
  complete : s.complete = true ↔ ∃ x ∈ xs, roster.heardAs x.1 = some .optional
  passed : s.passed = true ↔ ∃ x ∈ xs, roster.heardAs x.1 = some .optional ∧ x.2 = .allow

namespace OptionalSeat.Heard

variable {s : OptionalSeat} {roster : Roster} {xs : Answers}

/-- Only the verifier in the seat is heard as the optional one. -/
theorem exists_iff_mem_ids {roster : Roster} {xs : Answers} {id : VerifierId}
    (hid : roster.heardAs id = some .optional) :
    (∃ x ∈ xs, roster.heardAs x.1 = some .optional) ↔ id ∈ xs.ids := by
  have ho := (Roster.heardAs_eq_optional_iff.1 hid).2
  rw [Answers.mem_ids]
  constructor
  · rintro ⟨x, hx, hxo⟩
    exact ⟨x, hx, Option.some.inj ((Roster.heardAs_eq_optional_iff.1 hxo).2.symm.trans ho)⟩
  · rintro ⟨x, hx, rfl⟩
    exact ⟨x, hx, hid⟩

/-- The verifier in the seat is heard: its answer is in, and passes if it approves. -/
theorem record (h : s.Heard roster xs) {id : VerifierId}
    (hid : roster.heardAs id = some .optional) (hnew : id ∉ xs.ids) (answer : Answer) :
    (s.record answer).Heard roster (xs ++ [(id, answer)]) := by
  refine ⟨h.verifier, ?_, ?_⟩
  · refine ⟨fun _ => ⟨(id, answer), by simp, hid⟩, fun _ => rfl⟩
  · have hnone : ∀ x ∈ xs, roster.heardAs x.1 ≠ some .optional := fun x hx hxo =>
      hnew ((exists_iff_mem_ids hid).1 ⟨x, hx, hxo⟩)
    simp only [OptionalSeat.record, decide_eq_true_eq, List.mem_append, List.mem_singleton]
    constructor
    · intro ha
      exact ⟨(id, answer), .inr rfl, hid, ha⟩
    · rintro ⟨x, hx | rfl, hxo, ha⟩
      · exact absurd hxo (hnone x hx)
      · exact ha

/-- An answer that is heard in another role does not touch the seat. -/
theorem frame (h : s.Heard roster xs) {x : VerifierId × Answer}
    (hx : roster.heardAs x.1 ≠ some .optional) : s.Heard roster (xs ++ [x]) := by
  refine ⟨h.verifier, ?_, ?_⟩
  · rw [h.complete]
    simp [or_and_right, exists_or, hx]
  · rw [h.passed]
    simp [or_and_right, exists_or, hx]

theorem isSettled_iff (h : s.Heard roster xs) :
    s.isSettled = true ↔ roster.OptionalHeard xs := by
  rw [OptionalSeat.isSettled, Bool.or_eq_true, h.verifier, h.complete, Option.isNone_iff_eq_none]
  constructor
  · rintro (hnone | ⟨x, hx, hxo⟩) id hid
    · rw [hnone] at hid
      cases hid
    · obtain ⟨hr, ho⟩ := Roster.heardAs_eq_optional_iff.1 hxo
      obtain rfl : x.1 = id := Option.some.inj (ho.symm.trans hid)
      exact ⟨hr, Answers.mem_ids.2 ⟨x, hx, rfl⟩⟩
  · intro hheard
    cases hseat : roster.seated with
    | none => exact .inl rfl
    | some id =>
      obtain ⟨hr, hin⟩ := hheard id hseat
      exact .inr ((exists_iff_mem_ids (Roster.heardAs_eq_optional_iff.2 ⟨hr, hseat⟩)).2 hin)

theorem permits_iff (h : s.Heard roster xs) :
    s.permits = true ↔ roster.OptionalAllows xs := by
  rw [OptionalSeat.permits, Bool.or_eq_true, h.verifier, h.passed, Option.isNone_iff_eq_none]
  constructor
  · rintro (hnone | ⟨x, hx, hxo, ha⟩) id hid
    · rw [hnone] at hid
      cases hid
    · obtain ⟨hr, ho⟩ := Roster.heardAs_eq_optional_iff.1 hxo
      obtain rfl : x.1 = id := Option.some.inj (ho.symm.trans hid)
      exact ⟨hr, ha ▸ hx⟩
  · intro hallows
    cases hseat : roster.seated with
    | none => exact .inl rfl
    | some id =>
      obtain ⟨hr, hin⟩ := hallows id hseat
      exact .inr ⟨(id, .allow), hin, Roster.heardAs_eq_optional_iff.2 ⟨hr, hseat⟩, rfl⟩

end OptionalSeat.Heard

/-! ## 3. The sufficient pool -/

structure SufficientPool.Heard (p : SufficientPool) (roster : Roster) (xs : Answers) : Prop where
  pool :
    ∀ id, id ∈ p.pool ↔
      id ∈ roster.ids .sufficient ∧ ¬roster.Waived xs ∧
        ¬(roster.heardAs id = some .sufficient ∧ id ∈ xs.ids)
  registered : p.registered = true ↔ roster.ids .sufficient ≠ []
  passed : p.passed = true ↔ roster.Approved xs
  complete : p.complete = true ↔ roster.Approved xs ∨ roster.Exhausted xs

namespace SufficientPool.Heard

variable {p : SufficientPool} {roster : Roster} {xs : Answers}

/-- A sufficient verifier is heard before any waiver: it leaves the pool, and decides for it when it
approves or is the last. -/
theorem record (h : p.Heard roster xs) {id : VerifierId}
    (hid : roster.heardAs id = some .sufficient) (hw : ¬roster.Waived xs) (answer : Answer) :
    (p.record id answer).Heard roster (xs ++ [(id, answer)]) := by
  have hs := (Roster.heardAs_eq_sufficient_iff.1 hid).2.2
  have hne : roster.ids .sufficient ≠ [] := List.ne_nil_of_mem hs
  -- The answer is not a waiver itself, as only a required verifier waives.
  have hw' : ¬roster.Waived (xs ++ [(id, answer)]) := by
    rw [Roster.waived_append, Roster.waived_singleton]
    rintro (hw' | hwaives)
    · exact hw hw'
    · simp [Roster.heardAs_of_waives hwaives] at hid
  have hpool : ∀ v, v ∈ p.pool.erase id ↔
      v ∈ roster.ids .sufficient ∧ ¬roster.Waived (xs ++ [(id, answer)]) ∧
        ¬(roster.heardAs v = some .sufficient ∧ v ∈ Answers.ids (xs ++ [(id, answer)])) := by
    intro v
    by_cases hv : v = id
    · subst hv
      simp [h.pool, hid]
    · simp [h.pool, hw, hw', hv]
  have hempty : (p.pool.erase id).isEmpty = true ↔ roster.Exhausted (xs ++ [(id, answer)]) := by
    rw [VerifierSet.isEmpty_iff, Roster.Exhausted, Roster.beforeWaiver_eq_self hw',
      and_iff_right hne]
    apply forall_congr'
    intro v
    rw [hpool]
    tauto
  refine ⟨hpool, h.registered, ?_, ?_⟩
  · show (p.passed || decide (answer = .allow)) = true ↔ _
    rw [Bool.or_eq_true, h.passed, Roster.approved_concat, decide_eq_true_eq]
    simp only [hw, hid, not_false_eq_true, true_and]
  · show (p.complete || decide (answer = .allow) || (p.pool.erase id).isEmpty) = true ↔ _
    rw [Bool.or_eq_true, Bool.or_eq_true, h.complete, hempty, Roster.approved_concat,
      decide_eq_true_eq]
    simp only [hw, hid, not_false_eq_true, true_and]
    -- An exhausted pool stays exhausted, so the flag adds nothing to it.
    have hexh : roster.Exhausted xs → roster.Exhausted (xs ++ [(id, answer)]) := by
      intro hx
      rw [Roster.exhausted_concat]
      exact ⟨hx.1, fun v hv => ⟨(hx.2 v hv).1, .inl (hx.2 v hv).2⟩⟩
    tauto

/-- A waiver empties the pool and decides nothing. -/
theorem waive (h : p.Heard roster xs) {x : VerifierId × Answer} (hx : roster.waives x = true) :
    p.waive.Heard roster (xs ++ [x]) := by
  have hw : roster.Waived (xs ++ [x]) :=
    Roster.waived_append.2 (.inr (Roster.waived_singleton.2 hx))
  have hrole : roster.heardAs x.1 ≠ some .sufficient := by
    rw [Roster.heardAs_of_waives hx]
    simp
  refine ⟨fun v => ?_, h.registered, ?_, ?_⟩
  · simp only [SufficientPool.waive, VerifierSet.not_mem_empty, hw, not_true_eq_false, false_and,
      and_false]
  · show p.passed = true ↔ _
    rw [h.passed, Roster.approved_concat_of_ne hrole]
  · show p.complete = true ↔ _
    rw [h.complete, Roster.approved_concat_of_ne hrole, Roster.exhausted_concat_of_ne hrole]

/-- An answer that is heard in another role and waives nothing does not touch the pool. -/
theorem frame (h : p.Heard roster xs) {x : VerifierId × Answer}
    (hx : roster.heardAs x.1 ≠ some .sufficient) (hwaives : ¬roster.waives x = true) :
    p.Heard roster (xs ++ [x]) := by
  have hw : roster.Waived (xs ++ [x]) ↔ roster.Waived xs := by
    rw [Roster.waived_append, Roster.waived_singleton, or_iff_left hwaives]
  refine ⟨fun v => ?_, h.registered, ?_, ?_⟩
  · rw [h.pool, hw]
    apply and_congr_right'
    apply and_congr_right'
    apply not_congr
    apply and_congr_right
    intro hv
    have hne : v ≠ x.1 := by
      rintro rfl
      exact hx hv
    simp [hne]
  · rw [h.passed, Roster.approved_concat_of_ne hx]
  · rw [h.complete, Roster.approved_concat_of_ne hx, Roster.exhausted_concat_of_ne hx]

/-- Once the pool was waived nobody is heard in it. -/
theorem frame_of_waived (h : p.Heard roster xs) (hw : roster.Waived xs)
    (x : VerifierId × Answer) : p.Heard roster (xs ++ [x]) := by
  have hw' : roster.Waived (xs ++ [x]) := Roster.waived_append.2 (.inl hw)
  have hbefore := Roster.beforeWaiver_append_of_waived hw [x]
  refine ⟨fun v => ?_, h.registered, ?_, ?_⟩
  · rw [h.pool]
    simp only [hw, hw', not_true_eq_false, false_and, and_false]
  · rw [h.passed, Roster.Approved, Roster.Approved, hbefore]
  · rw [h.complete, Roster.Approved, Roster.Approved, Roster.Exhausted, Roster.Exhausted, hbefore]

theorem isSettled_iff (h : p.Heard roster xs) :
    p.isSettled = true ↔ roster.PoolSettled xs := by
  rw [SufficientPool.isSettled, Bool.or_eq_true, h.complete, VerifierSet.isEmpty_iff,
    Roster.PoolSettled]
  constructor
  · rintro (hempty | hdecided)
    · by_cases hne : roster.ids .sufficient = []
      · exact .inl hne
      · by_cases hw : roster.Waived xs
        · exact .inr (.inl hw)
        · -- Nobody sent the pool home, so each member has left it by an answer.
          refine .inr (.inr (.inr ⟨hne, fun id hid => ?_⟩))
          rw [Roster.beforeWaiver_eq_self hw]
          by_contra hout
          exact hempty id ((h.pool id).2 ⟨hid, hw, hout⟩)
    · exact .inr (.inr hdecided)
  · rintro (hnil | hw | hdecided)
    · refine .inl fun id hid => ?_
      rw [h.pool, hnil] at hid
      exact List.not_mem_nil hid.1
    · exact .inl fun id hid => ((h.pool id).1 hid).2.1 hw
    · exact .inr hdecided

/-- A pool that has nobody to wait for allows the install unless each of its members has refused. -/
theorem permits_iff (h : p.Heard roster xs) (hsettled : roster.PoolSettled xs) :
    p.permits = true ↔ roster.PoolAllows xs := by
  rw [SufficientPool.permits, Bool.or_eq_true, Bool.not_eq_true', ← Bool.not_eq_true, h.complete,
    h.passed, Roster.PoolAllows]
  rw [Roster.PoolSettled] at hsettled
  have hnil : roster.ids .sufficient = [] → ¬roster.Exhausted xs := fun hnil hx => hx.1 hnil
  tauto

/-- A pool that allows the install has nobody to wait for. -/
theorem settled_of_allows (hallows : roster.PoolAllows xs) : roster.PoolSettled xs := by
  rw [Roster.PoolAllows] at hallows
  rw [Roster.PoolSettled]
  tauto

end SufficientPool.Heard

/-! ## 4. The tracker -/

/-- A tracker that was told a roster and has heard the answers, each verifier at most once. -/
structure Tracker.Heard (t : Tracker) (roster : Roster) (forced : Prop) (xs : Answers) : Prop where
  distinct : xs.ids.Nodup
  required : t.required.Heard roster forced xs
  optional : t.optional.Heard roster xs
  sufficient : t.sufficient.Heard roster xs

namespace Tracker.Heard

variable {t : Tracker} {roster : Roster} {forced : Prop} {xs : Answers}

/-- A tracker that was just told a roster has heard nobody. -/
theorem enrolled (session : SessionId) (policy : PendingPolicy) (roster : Roster) :
    (Tracker.enrolled session policy roster).Heard roster False [] := by
  rw [Tracker.enrolled_eq]
  refine ⟨.nil, ?_, ?_, ?_⟩ <;> constructor <;>
    simp [Roster.Waived, Roster.Approved, Roster.Exhausted, Roster.beforeWaiver,
      Roster.RequiredHeard, List.eq_nil_iff_forall_not_mem]

/-! An answer is handled by the role in which the verifier is heard. -/

theorem answer_of_required (h : t.Heard roster forced xs) {id : VerifierId}
    (hid : roster.heardAs id = some .required) (hnew : id ∉ xs.ids) (a : Answer) :
    t.answer id a =
      (.accepted .required,
        { t with
          required := t.required.record id a
          sufficient := poolAfter t.sufficient a }) := by
  have hr := Roster.heardAs_eq_required_iff.1 hid
  rw [answer, if_pos ((h.required.members id).2 hr),
    if_pos ((h.required.unanswered id).2 ⟨hr, hnew⟩)]

theorem answer_of_optional (h : t.Heard roster forced xs) {id : VerifierId}
    (hid : roster.heardAs id = some .optional) (hnew : id ∉ xs.ids) (a : Answer) :
    t.answer id a = (.accepted .optional, { t with optional := t.optional.record a }) := by
  obtain ⟨hr, ho⟩ := Roster.heardAs_eq_optional_iff.1 hid
  have hc : ¬t.optional.complete = true := by
    rw [h.optional.complete, OptionalSeat.Heard.exists_iff_mem_ids hid]
    exact hnew
  rw [answer, if_neg (fun hm => hr ((h.required.members id).1 hm)),
    if_pos (h.optional.verifier.trans ho), if_neg hc]

theorem answer_of_sufficient (h : t.Heard roster forced xs) {id : VerifierId}
    (hid : roster.heardAs id = some .sufficient) (hnew : id ∉ xs.ids) (hw : ¬roster.Waived xs)
    (a : Answer) :
    t.answer id a =
      (.accepted .sufficient, { t with sufficient := t.sufficient.record id a }) := by
  obtain ⟨hr, ho, hs⟩ := Roster.heardAs_eq_sufficient_iff.1 hid
  have hp : id ∈ t.sufficient.pool := (h.sufficient.pool id).2 ⟨hs, hw, fun hx => hnew hx.2⟩
  rw [answer, if_neg (fun hm => hr ((h.required.members id).1 hm)),
    if_neg (fun hv => ho (h.optional.verifier.symm.trans hv)), if_pos hp]

/-- A verifier that nobody listed is not heard, nor is one that has left the pool. -/
theorem answer_of_stranger (h : t.Heard roster forced xs) {id : VerifierId}
    (hid : roster.heardAs id = none ∨
      (roster.heardAs id = some .sufficient ∧ (roster.Waived xs ∨ id ∈ xs.ids)))
    (a : Answer) : t.answer id a = (.unrecognized, t) := by
  have hout : id ∉ roster.ids .required ∧ roster.seated ≠ some id ∧ id ∉ t.sufficient.pool := by
    rw [h.sufficient.pool]
    rcases hid with hnone | ⟨hsuff, hgone⟩
    · obtain ⟨hr, ho, hs⟩ := Roster.heardAs_eq_none_iff.1 hnone
      exact ⟨hr, ho, fun hp => hs hp.1⟩
    · obtain ⟨hr, ho, -⟩ := Roster.heardAs_eq_sufficient_iff.1 hsuff
      refine ⟨hr, ho, fun hp => ?_⟩
      rcases hgone with hw | hin
      · exact hp.2.1 hw
      · exact hp.2.2 ⟨hsuff, hin⟩
  obtain ⟨hr, ho, hp⟩ := hout
  rw [answer, if_neg (fun hm => hr ((h.required.members id).1 hm)),
    if_neg (fun hv => ho (h.optional.verifier.symm.trans hv)), if_neg hp]

theorem answer_required_again (h : t.Heard roster forced xs) {id : VerifierId}
    (hid : roster.heardAs id = some .required) (hagain : id ∈ xs.ids) (a : Answer) :
    t.answer id a = (.duplicate .required, t) := by
  have hr := Roster.heardAs_eq_required_iff.1 hid
  have hu : id ∉ t.required.unanswered := fun hu => ((h.required.unanswered id).1 hu).2 hagain
  rw [answer, if_pos ((h.required.members id).2 hr), if_neg hu]

theorem answer_optional_again (h : t.Heard roster forced xs) {id : VerifierId}
    (hid : roster.heardAs id = some .optional) (hagain : id ∈ xs.ids) (a : Answer) :
    t.answer id a = (.duplicate .optional, t) := by
  obtain ⟨hr, ho⟩ := Roster.heardAs_eq_optional_iff.1 hid
  have hc : t.optional.complete = true := by
    rw [h.optional.complete, OptionalSeat.Heard.exists_iff_mem_ids hid]
    exact hagain
  rw [answer, if_neg (fun hm => hr ((h.required.members id).1 hm)),
    if_pos (h.optional.verifier.trans ho), if_pos hc]

/-- A verifier that has answered is not heard again. -/
theorem answer_again (h : t.Heard roster forced xs) {id : VerifierId} (hid : id ∈ xs.ids)
    (a : Answer) : (t.answer id a).2 = t := by
  cases hrole : roster.heardAs id with
  | none => rw [h.answer_of_stranger (.inl hrole)]
  | some role =>
    cases role with
    | required => rw [h.answer_required_again hrole hid]
    | optional => rw [h.answer_optional_again hrole hid]
    | sufficient => rw [h.answer_of_stranger (.inr ⟨hrole, .inr hid⟩)]

/-- One more verifier is heard. -/
theorem answer (h : t.Heard roster forced xs) {id : VerifierId} (hnew : id ∉ xs.ids)
    (a : Answer) : (t.answer id a).2.Heard roster forced (xs ++ [(id, a)]) := by
  have hdistinct : (Answers.ids (xs ++ [(id, a)])).Nodup := by
    rw [Answers.ids_append, List.nodup_append_comm]
    exact List.nodup_cons.2 ⟨hnew, h.distinct⟩
  have hwaives : roster.heardAs id ≠ some .required → ¬roster.waives (id, a) = true :=
    fun hne hw => hne (Roster.heardAs_of_waives hw)
  -- The axis of the role counts the answer; the other two are framed.
  cases hrole : roster.heardAs id with
  | none =>
    rw [h.answer_of_stranger (.inl hrole)]
    exact ⟨hdistinct, h.required.frame (by simp [hrole]), h.optional.frame (by simp [hrole]),
      h.sufficient.frame (by simp [hrole]) (hwaives (by simp [hrole]))⟩
  | some role =>
    cases role with
    | required =>
      rw [h.answer_of_required hrole hnew]
      refine ⟨hdistinct, h.required.record hrole hnew a, h.optional.frame (by simp [hrole]), ?_⟩
      show (poolAfter t.sufficient a).Heard roster (xs ++ [(id, a)])
      have hr := Roster.heardAs_eq_required_iff.1 hrole
      unfold poolAfter
      split
      · exact h.sufficient.waive (Roster.waives_iff.2 ⟨hr, by assumption⟩)
      · rename_i hne
        exact h.sufficient.frame (by simp [hrole]) (fun hw => hne (Roster.waives_iff.1 hw).2)
    | optional =>
      rw [h.answer_of_optional hrole hnew]
      exact ⟨hdistinct, h.required.frame (by simp [hrole]), h.optional.record hrole hnew a,
        h.sufficient.frame (by simp [hrole]) (hwaives (by simp [hrole]))⟩
    | sufficient =>
      have hrequired := h.required.frame (x := (id, a)) (by simp [hrole])
      have hoptional := h.optional.frame (x := (id, a)) (by simp [hrole])
      by_cases hw : roster.Waived xs
      · rw [h.answer_of_stranger (.inr ⟨hrole, .inl hw⟩)]
        exact ⟨hdistinct, hrequired, hoptional, h.sufficient.frame_of_waived hw _⟩
      · rw [h.answer_of_sufficient hrole hnew hw]
        exact ⟨hdistinct, hrequired, hoptional, h.sufficient.record hrole hw a⟩

/-! ## 5. The verdict -/

/-- The decision is complete when no axis has anybody to wait for. -/
theorem isComplete_iff (h : t.Heard roster forced xs) :
    t.isComplete = true ↔
      roster.RequiredHeard xs ∧ roster.OptionalHeard xs ∧ roster.PoolSettled xs := by
  rw [isComplete, Bool.and_eq_true, Bool.and_eq_true, h.required.isSettled_iff,
    h.optional.isSettled_iff, h.sufficient.isSettled_iff, and_assoc]

theorem verdict_eq_pending_iff (h : t.Heard roster forced xs) :
    t.verdict = .pending ↔
      ¬(roster.RequiredHeard xs ∧ roster.OptionalHeard xs ∧ roster.PoolSettled xs) := by
  rw [← h.isComplete_iff, verdict]
  split_ifs <;> simp_all

/-- The install is allowed when each axis has come to allow it; none of them does so while it waits.
-/
theorem verdict_eq_allowed_iff (h : t.Heard roster forced xs) :
    t.verdict = .allowed ↔
      (roster.ids .required = [] ∨ forced ∨ roster.RequiredAllow xs) ∧
        roster.OptionalAllows xs ∧ roster.PoolAllows xs := by
  have hverdict : t.verdict = .allowed ↔ t.isComplete = true ∧
      t.required.permits = true ∧ t.optional.permits = true ∧ t.sufficient.permits = true := by
    rw [verdict, isAllowed]
    cases t.isComplete <;> cases t.required.permits <;> cases t.optional.permits <;>
      cases t.sufficient.permits <;> simp
  rw [hverdict, h.isComplete_iff, h.required.permits_iff h.distinct, h.optional.permits_iff]
  -- Each axis that allows the install is settled, so the three of them make the decision complete.
  constructor
  · rintro ⟨⟨-, -, hsettled⟩, hr, ho, hp⟩
    exact ⟨hr, ho, (h.sufficient.permits_iff hsettled).1 hp⟩
  · rintro ⟨hr, ho, hp⟩
    have hsettled := SufficientPool.Heard.settled_of_allows hp
    refine ⟨⟨?_, fun id hid => ?_, hsettled⟩, hr, ho, (h.sufficient.permits_iff hsettled).2 hp⟩
    · rcases hr with hnil | hf | hallow
      · simp [Roster.RequiredHeard, hnil]
      · exact h.required.answered_of_forced hf
      · intro id hid
        obtain ⟨x, hx, hxid, -⟩ := hallow id hid
        exact Answers.mem_ids.2 ⟨x, hx, hxid⟩
    · obtain ⟨hr', hin⟩ := ho id hid
      exact ⟨hr', Answers.mem_ids.2 ⟨_, hin, rfl⟩⟩

end Tracker.Heard

/-! ## 6. Several answers -/

namespace Tracker

def hear (t : Tracker) : Answers → Tracker
  | [] => t
  | x :: xs => hear (t.answer x.1 x.2).2 xs

theorem hear_frame (t : Tracker) (xs : Answers) :
    (t.hear xs).session = t.session ∧ (t.hear xs).policy = t.policy ∧
      (t.hear xs).timeoutExtended = t.timeoutExtended ∧
      (t.hear xs).integrityResult = t.integrityResult := by
  induction xs generalizing t with
  | nil => exact ⟨rfl, rfl, rfl, rfl⟩
  | cons x xs ih => simp [hear, ih]

/-- A tracker that hears several verifiers, each for the first time. -/
theorem Heard.hear {t : Tracker} {roster : Roster} {forced : Prop} {xs : Answers}
    (h : t.Heard roster forced xs) {ys : Answers} (hnodup : (Answers.ids (xs ++ ys)).Nodup) :
    (t.hear ys).Heard roster forced (xs ++ ys) := by
  induction ys generalizing t xs with
  | nil =>
    rw [List.append_nil]
    exact h
  | cons y ys ih =>
    have happ : xs ++ y :: ys = (xs ++ [y]) ++ ys := by simp
    rw [happ] at hnodup ⊢
    have hnew : y.1 ∉ xs.ids := by
      rw [Answers.ids_append, Answers.ids_append] at hnodup
      have hdisjoint := (List.nodup_append.1 (List.nodup_append.1 hnodup).1).2.2
      exact fun hin => hdisjoint y.1 hin y.1 (by simp) rfl
    exact ih (h.answer hnew y.2) hnodup

/-- A tracker that was told a roster and has heard each verifier at most once. -/
theorem heard_hear_enrolled (session : SessionId) (policy : PendingPolicy) (roster : Roster)
    {xs : Answers} (hnodup : xs.ids.Nodup) :
    ((enrolled session policy roster).hear xs).Heard roster False xs := by
  have hnodup' : (Answers.ids ([] ++ xs)).Nodup := by simpa using hnodup
  have h := (Heard.enrolled session policy roster).hear hnodup'
  simpa using h

end Tracker

/-- One answer for several verifiers is heard of each in turn. -/
theorem Session.answerAll_eq_hear (answer : Answer) (t : Tracker) (ids : List VerifierId) :
    (Session.answerAll answer t ids).1 = t.hear (ids.map (·, answer)) := by
  induction ids generalizing t with
  | nil => rfl
  | cons id ids ih => exact ih _

end PackageVerification
