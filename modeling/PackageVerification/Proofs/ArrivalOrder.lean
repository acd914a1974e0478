import Mathlib.Data.List.Perm.Lattice
import PackageVerification.Proofs.Hearing

/-!
# The order in which answers come in

A tracker hears one answer from each of several verifiers. What it has come to depends on who was
heard before the first waiver, and on the order in nothing else. Main statement: `hear_perm`.
-/

namespace PackageVerification

/-! ## 1. Answers say the same in another order -/

namespace Roster

/-- Each waiver keeps its place relative to each answer of a verifier that is only sufficient. -/
def KeepsWaivers (roster : Roster) (xs ys : Answers) : Prop :=
  ∀ w ∈ xs, ∀ x ∈ xs, roster.waives w = true → roster.heardAs x.1 = some .sufficient →
    ([w, x].Sublist xs ↔ [w, x].Sublist ys)

instance (roster : Roster) (xs ys : Answers) : Decidable (roster.KeepsWaivers xs ys) :=
  inferInstanceAs (Decidable (∀ w ∈ xs, ∀ x ∈ xs, _))

variable {roster : Roster} {xs ys : Answers}

theorem mem_ids_perm (hperm : xs.Perm ys) {id : VerifierId} : id ∈ xs.ids ↔ id ∈ ys.ids :=
  (hperm.map _).mem_iff

theorem waived_perm (hperm : xs.Perm ys) : roster.Waived xs ↔ roster.Waived ys := by
  simp only [Waived, hperm.mem_iff]

theorem requiredHeard_perm (hperm : xs.Perm ys) :
    roster.RequiredHeard xs ↔ roster.RequiredHeard ys := by
  simp only [RequiredHeard, mem_ids_perm hperm]

/-- A sufficient verifier is heard before the first waiver if no waiver comes before its answer. -/
theorem mem_beforeWaiver_iff (hnodup : xs.Nodup) {x : VerifierId × Answer} (hx : x ∈ xs)
    (hrole : roster.heardAs x.1 = some .sufficient) :
    x ∈ roster.beforeWaiver xs ↔ ∀ w ∈ xs, roster.waives w = true → ¬[w, x].Sublist xs := by
  -- On the answers from the front: the first waiver is the head, or it is found in the tail.
  induction xs with
  | nil => simp at hx
  | cons y ys ih =>
    obtain ⟨hy, hys⟩ := List.nodup_cons.1 hnodup
    by_cases hwaives : roster.waives y = true
    -- A waiver comes from a required verifier, and `x` is heard as a sufficient one.
    · have hxy : x ≠ y := by
        rintro rfl
        simp [heardAs_of_waives hwaives] at hrole
      have hxys : x ∈ ys := (List.mem_cons.1 hx).resolve_left hxy
      have hsub : [y, x].Sublist (y :: ys) := (List.singleton_sublist.2 hxys).cons_cons y
      simp only [beforeWaiver, List.takeWhile_cons, hwaives, Bool.not_true, Bool.false_eq_true,
        if_false, List.not_mem_nil, false_iff, not_forall]
      exact ⟨y, List.mem_cons_self, hwaives, not_not.2 hsub⟩
    · have hcons : roster.beforeWaiver (y :: ys) = y :: roster.beforeWaiver ys := by
        simp [beforeWaiver, hwaives]
      -- A waiver is not the head, so what comes after it is in the tail.
      have htail : ∀ w, roster.waives w = true →
          ([w, x].Sublist (y :: ys) ↔ [w, x].Sublist ys) := by
        intro w hw
        rw [List.sublist_cons_iff]
        constructor
        · rintro (hsub | ⟨r, hr, -⟩)
          · exact hsub
          · injection hr with hwy _
            exact absurd (hwy ▸ hw) hwaives
        · exact .inl
      rw [hcons]
      by_cases hxy : x = y
      · refine iff_of_true (hxy ▸ List.mem_cons_self) fun w _ hw hsub => hy ?_
        have hsub' := (htail w hw).1 hsub
        exact hxy ▸ hsub'.subset (by simp)
      · have hxys : x ∈ ys := (List.mem_cons.1 hx).resolve_left hxy
        rw [List.mem_cons, or_iff_right hxy, ih hys hxys]
        constructor
        · intro hall w hw hwaives' hsub
          have hwy : w ≠ y := fun hwy => hwaives (hwy ▸ hwaives')
          exact hall w ((List.mem_cons.1 hw).resolve_left hwy) hwaives' ((htail w hwaives').1 hsub)
        · intro hall w hw hwaives' hsub
          exact hall w (List.mem_cons_of_mem _ hw) hwaives' ((htail w hwaives').2 hsub)

theorem mem_beforeWaiver_of_keepsWaivers (hnodup : xs.Nodup) (hperm : xs.Perm ys)
    (hkeeps : roster.KeepsWaivers xs ys) {x : VerifierId × Answer} (hx : x ∈ xs)
    (hrole : roster.heardAs x.1 = some .sufficient) :
    x ∈ roster.beforeWaiver xs ↔ x ∈ roster.beforeWaiver ys := by
  rw [mem_beforeWaiver_iff hnodup hx hrole,
    mem_beforeWaiver_iff (hperm.nodup_iff.1 hnodup) (hperm.mem_iff.1 hx) hrole]
  constructor
  · intro hall w hw hwaives hsub
    have hw' := hperm.mem_iff.2 hw
    exact hall w hw' hwaives ((hkeeps w hw' x hx hwaives hrole).2 hsub)
  · intro hall w hw hwaives hsub
    exact hall w (hperm.mem_iff.1 hw) hwaives ((hkeeps w hw x hx hwaives hrole).1 hsub)

/-- What the answers say of the pool hangs on the sufficient verifiers that are heard before the
first waiver. -/
theorem approved_iff_of_mem_iff (hperm : xs.Perm ys)
    (hmem : ∀ x ∈ xs, roster.heardAs x.1 = some .sufficient →
      (x ∈ roster.beforeWaiver xs ↔ x ∈ roster.beforeWaiver ys)) :
    roster.Approved xs ↔ roster.Approved ys := by
  constructor
  · rintro ⟨x, hx, hrole, hallow⟩
    exact ⟨x, (hmem x (mem_of_mem_beforeWaiver hx) hrole).1 hx, hrole, hallow⟩
  · rintro ⟨x, hx, hrole, hallow⟩
    have hxs := hperm.mem_iff.2 (mem_of_mem_beforeWaiver hx)
    exact ⟨x, (hmem x hxs hrole).2 hx, hrole, hallow⟩

theorem exhausted_iff_of_mem_iff (hperm : xs.Perm ys)
    (hmem : ∀ x ∈ xs, roster.heardAs x.1 = some .sufficient →
      (x ∈ roster.beforeWaiver xs ↔ x ∈ roster.beforeWaiver ys)) :
    roster.Exhausted xs ↔ roster.Exhausted ys := by
  apply and_congr_right'
  apply forall₂_congr
  intro id _
  apply and_congr_right
  intro hrole
  rw [Answers.mem_ids, Answers.mem_ids]
  constructor
  · rintro ⟨x, hx, rfl⟩
    exact ⟨x, (hmem x (mem_of_mem_beforeWaiver hx) hrole).1 hx, rfl⟩
  · rintro ⟨x, hx, rfl⟩
    have hxs := hperm.mem_iff.2 (mem_of_mem_beforeWaiver hx)
    exact ⟨x, (hmem x hxs hrole).2 hx, rfl⟩

/-- Whether the pool has nobody to wait for does not depend on the order. -/
theorem poolSettled_perm (hperm : xs.Perm ys) : roster.PoolSettled xs ↔ roster.PoolSettled ys := by
  by_cases hw : roster.Waived xs
  · have hw' := (waived_perm hperm).1 hw
    simp only [PoolSettled, hw, hw', true_or, or_true]
  · have hw' : ¬roster.Waived ys := fun h => hw ((waived_perm hperm).2 h)
    have hmem : ∀ x ∈ xs, roster.heardAs x.1 = some .sufficient →
        (x ∈ roster.beforeWaiver xs ↔ x ∈ roster.beforeWaiver ys) := by
      intro x _ _
      rw [beforeWaiver_eq_self hw, beforeWaiver_eq_self hw', hperm.mem_iff]
    simp only [PoolSettled, hw, hw', approved_iff_of_mem_iff hperm hmem,
      exhausted_iff_of_mem_iff hperm hmem]

theorem keepsWaivers_of_no_waiver (h : ∀ x ∈ xs, roster.waives x = false) :
    roster.KeepsWaivers xs ys := by
  intro w hw x _ hwaives
  rw [h w hw] at hwaives
  cases hwaives

end Roster

/-! ## 2. The axes are what the answers say -/

section Axes

variable {roster : Roster} {xs ys : Answers}

theorem RequiredAxis.Heard.eq_of_perm {a b : RequiredAxis} (ha : a.Heard roster False xs)
    (hb : b.Heard roster False ys) (hperm : xs.Perm ys) : a = b := by
  have hmembers : a.members = b.members :=
    VerifierSet.eq_of_mem_iff fun id => (ha.members id).trans (hb.members id).symm
  have hunanswered : a.unanswered = b.unanswered := by
    apply VerifierSet.eq_of_mem_iff
    intro id
    rw [ha.unanswered, hb.unanswered, Roster.mem_ids_perm hperm]
  have hflags : a.complete = b.complete ∧ a.passed = b.passed := by
    -- An axis without members never had its flags touched; `Heard` says nothing else of them then.
    by_cases hne : roster.ids .required = []
    · obtain ⟨hac, hap⟩ := ha.untouched hne not_false
      obtain ⟨hbc, hbp⟩ := hb.untouched hne not_false
      exact ⟨hac.trans hbc.symm, hap.trans hbp.symm⟩
    · refine ⟨Bool.eq_iff_iff.2 ?_, Bool.eq_iff_iff.2 ?_⟩
      · rw [ha.complete hne, hb.complete hne, Roster.requiredHeard_perm hperm]
      · rw [ha.passed hne, hb.passed hne]
        simp only [hperm.mem_iff]
  cases a
  cases b
  simp_all

theorem OptionalSeat.Heard.eq_of_perm {s u : OptionalSeat} (hs : s.Heard roster xs)
    (hu : u.Heard roster ys) (hperm : xs.Perm ys) : s = u := by
  have hverifier : s.verifier = u.verifier := hs.verifier.trans hu.verifier.symm
  have hflags : s.complete = u.complete ∧ s.passed = u.passed := by
    refine ⟨Bool.eq_iff_iff.2 ?_, Bool.eq_iff_iff.2 ?_⟩
    · rw [hs.complete, hu.complete]
      simp only [hperm.mem_iff]
    · rw [hs.passed, hu.passed]
      simp only [hperm.mem_iff]
  cases s
  cases u
  simp_all

theorem SufficientPool.Heard.eq_of_perm {p q : SufficientPool} (hp : p.Heard roster xs)
    (hq : q.Heard roster ys) (hperm : xs.Perm ys)
    (hmem : ∀ x ∈ xs, roster.heardAs x.1 = some .sufficient →
      (x ∈ roster.beforeWaiver xs ↔ x ∈ roster.beforeWaiver ys)) : p = q := by
  have hpool : p.pool = q.pool := by
    apply VerifierSet.eq_of_mem_iff
    intro id
    rw [hp.pool, hq.pool, Roster.mem_ids_perm hperm, Roster.waived_perm hperm]
  have hregistered : p.registered = q.registered := by
    rw [Bool.eq_iff_iff, hp.registered, hq.registered]
  have hpassed : p.passed = q.passed := by
    rw [Bool.eq_iff_iff, hp.passed, hq.passed, Roster.approved_iff_of_mem_iff hperm hmem]
  have hcomplete : p.complete = q.complete := by
    rw [Bool.eq_iff_iff, hp.complete, hq.complete, Roster.approved_iff_of_mem_iff hperm hmem,
      Roster.exhausted_iff_of_mem_iff hperm hmem]
  cases p
  cases q
  simp_all

theorem SufficientPool.Heard.permits_iff_not_refused {p : SufficientPool}
    (hp : p.Heard roster xs) (hnodup : xs.ids.Nodup) :
    p.permits = true ↔ ¬roster.Refused xs := by
  rw [SufficientPool.permits, Bool.or_eq_true, Bool.not_eq_true', ← Bool.not_eq_true, hp.complete,
    hp.passed, Roster.refused_iff hnodup]
  tauto

/-- The status of the pool: a refusal is the only way to fail. -/
theorem SufficientPool.Heard.status_eq {p : SufficientPool} (hp : p.Heard roster xs) :
    p.status =
      if !p.registered then .absent
      else if !p.permits then .failed
      else if p.isSettled then .passed
      else .pending := by
  have hpassed : p.passed = true → p.complete = true := fun h =>
    hp.complete.2 (.inl (hp.passed.1 h))
  obtain ⟨pool, registered, complete, passed⟩ := p
  cases registered <;> cases complete <;> cases passed <;>
    simp_all [SufficientPool.status, SufficientPool.permits, SufficientPool.isSettled,
      AxisStatus.judged]

/-- Pools of the same members that are settled alike differ in a refusal, if at all. -/
theorem SufficientPool.Heard.status_eq_iff {p q : SufficientPool} (hp : p.Heard roster xs)
    (hq : q.Heard roster ys) (hregistered : p.registered = q.registered)
    (hsettled : p.isSettled = q.isSettled) : p.status = q.status ↔ p.permits = q.permits := by
  rw [hp.status_eq, hq.status_eq, ← hregistered, ← hsettled]
  cases hr : p.registered with
  | false =>
    have hnone : roster.ids .sufficient = [] := by
      by_contra hne
      exact Bool.false_ne_true (hr.symm.trans (hp.registered.2 hne))
    rw [(hp.permits_iff (.inl hnone)).2 (.inl hnone), (hq.permits_iff (.inl hnone)).2 (.inl hnone)]
    simp
  | true => cases p.permits <;> cases q.permits <;> cases p.isSettled <;> decide

end Axes

/-! ## 3. The order of the answers -/

namespace Tracker

def dispositions (t : Tracker) : Answers → List Disposition
  | [] => []
  | x :: xs => (t.answer x.1 x.2).1 :: dispositions (t.answer x.1 x.2).2 xs

theorem dispositions_append (t : Tracker) (xs ys : Answers) :
    t.dispositions (xs ++ ys) = t.dispositions xs ++ (t.hear xs).dispositions ys := by
  induction xs generalizing t with
  | nil => rfl
  | cons x xs ih => exact congrArg (_ :: ·) (ih _)

/-- How one of several answers is handled, of which those in `early` come before the first waiver.
-/
def dispositionAmong (roster : Roster) (early : Answers) (x : VerifierId × Answer) : Disposition :=
  match roster.heardAs x.1 with
  | some .sufficient => if x ∈ early then .accepted .sufficient else .unrecognized
  | some role => .accepted role
  | none => .unrecognized

theorem dispositions_enrolled (session : SessionId) (policy : PendingPolicy) (roster : Roster)
    {xs : Answers} (hnodup : xs.ids.Nodup) :
    (enrolled session policy roster).dispositions xs =
      xs.map (dispositionAmong roster (roster.beforeWaiver xs)) := by
  -- From the last answer, since how an answer is handled hangs on those before it.
  induction xs using List.reverseRecOn with
  | nil => rfl
  | append_singleton xs x ih =>
    obtain ⟨hxs, hx⟩ : (Answers.ids xs).Nodup ∧ x.1 ∉ Answers.ids xs := by
      rw [Answers.ids_append, List.nodup_append] at hnodup
      refine ⟨hnodup.1, fun hin => hnodup.2.2 x.1 hin x.1 ?_ rfl⟩
      simp
    have h := heard_hear_enrolled session policy roster hxs
    -- The answers heard before the last one are as early as they were.
    have hearly : ∀ y ∈ xs, (y ∈ roster.beforeWaiver (xs ++ [x]) ↔ y ∈ roster.beforeWaiver xs) := by
      intro y hy
      by_cases hw : roster.Waived xs
      · rw [Roster.beforeWaiver_append_of_waived hw]
      · rw [Roster.beforeWaiver_append_of_not_waived hw, Roster.beforeWaiver_eq_self hw]
        simp [hy]
    have hmap : xs.map (dispositionAmong roster (roster.beforeWaiver (xs ++ [x]))) =
        xs.map (dispositionAmong roster (roster.beforeWaiver xs)) := by
      apply List.map_congr_left
      intro y hy
      simp only [dispositionAmong, hearly y hy]
    -- The last answer is early if nobody has waived by then, itself included.
    have hlast : x ∈ roster.beforeWaiver (xs ++ [x]) ↔
        ¬roster.Waived xs ∧ ¬roster.waives x = true := by
      by_cases hw : roster.Waived xs
      · rw [Roster.beforeWaiver_append_of_waived hw]
        refine iff_of_false (fun hin => hx ?_) (fun h => h.1 hw)
        exact Answers.mem_ids.2 ⟨x, Roster.mem_of_mem_beforeWaiver hin, rfl⟩
      · have hout : x ∉ xs := fun hin => hx (Answers.mem_ids.2 ⟨x, hin, rfl⟩)
        rw [Roster.beforeWaiver_append_of_not_waived hw, List.mem_append, or_iff_right hout]
        by_cases hwaives : roster.waives x = true <;> simp [Roster.beforeWaiver, hwaives, hw]
    rw [dispositions_append, ih hxs, List.map_append, hmap]
    congr 1
    show [(((enrolled session policy roster).hear xs).answer x.1 x.2).1] = [_]
    congr 1
    unfold dispositionAmong
    cases hrole : roster.heardAs x.1 with
    | none => rw [h.answer_of_stranger (.inl hrole)]
    | some role =>
      cases role with
      | required => rw [h.answer_of_required hrole hx]
      | optional => rw [h.answer_of_optional hrole hx]
      | sufficient =>
        have hwaives : ¬roster.waives x = true := fun hw => by
          simp [Roster.heardAs_of_waives hw] at hrole
        by_cases hw : roster.Waived xs
        · rw [h.answer_of_stranger (.inr ⟨hrole, .inl hw⟩)]
          simp [hlast, hw]
        · rw [h.answer_of_sufficient hrole hx hw]
          simp [hlast, hw, hwaives]

/-- Where waivers keep their places, the order does not show at all. -/
theorem hear_eq_of_keepsWaivers (session : SessionId) (policy : PendingPolicy) {roster : Roster}
    {xs ys : Answers} (hnodup : xs.ids.Nodup) (hperm : xs.Perm ys)
    (hkeeps : roster.KeepsWaivers xs ys) :
    (enrolled session policy roster).hear xs = (enrolled session policy roster).hear ys := by
  have hx := heard_hear_enrolled session policy roster hnodup
  have hy := heard_hear_enrolled session policy roster ((hperm.map _).nodup_iff.1 hnodup)
  have hmem := fun x => Roster.mem_beforeWaiver_of_keepsWaivers (x := x)
    (List.Nodup.of_map _ hnodup) hperm hkeeps
  have hrequired := hx.required.eq_of_perm hy.required hperm
  have hoptional := hx.optional.eq_of_perm hy.optional hperm
  have hsufficient := hx.sufficient.eq_of_perm hy.sufficient hperm hmem
  -- The axes are equal; all other fields are left alone by answers.
  obtain ⟨hsession, hpolicy, hextended, hintegrity⟩ :=
    hear_frame (enrolled session policy roster) xs
  obtain ⟨hsession', hpolicy', hextended', hintegrity'⟩ :=
    hear_frame (enrolled session policy roster) ys
  generalize (enrolled session policy roster).hear xs = t at *
  generalize (enrolled session policy roster).hear ys = u at *
  cases t
  cases u
  simp_all

theorem dispositions_perm_of_keepsWaivers (session : SessionId) (policy : PendingPolicy)
    {roster : Roster} {xs ys : Answers} (hnodup : xs.ids.Nodup) (hperm : xs.Perm ys)
    (hkeeps : roster.KeepsWaivers xs ys) :
    (xs.zip ((enrolled session policy roster).dispositions xs)).Perm
      (ys.zip ((enrolled session policy roster).dispositions ys)) := by
  have hmem := fun x => Roster.mem_beforeWaiver_of_keepsWaivers (x := x)
    (List.Nodup.of_map _ hnodup) hperm hkeeps
  have hsame : ∀ x ∈ xs, dispositionAmong roster (roster.beforeWaiver xs) x =
      dispositionAmong roster (roster.beforeWaiver ys) x := by
    intro x hx
    unfold dispositionAmong
    cases hrole : roster.heardAs x.1 with
    | none => rfl
    | some role =>
      cases role with
      | sufficient => simp only [hmem x hx hrole]
      | required | optional => rfl
  -- Either side is a map over its answers, and the two maps agree.
  rw [dispositions_enrolled session policy roster hnodup,
    dispositions_enrolled session policy roster ((hperm.map _).nodup_iff.1 hnodup),
    ← List.map_prod_left_eq_zip, ← List.map_prod_left_eq_zip]
  have hmap : xs.map (fun x => (x, dispositionAmong roster (roster.beforeWaiver xs) x)) =
      xs.map (fun x => (x, dispositionAmong roster (roster.beforeWaiver ys) x)) :=
    List.map_congr_left fun x hx => by rw [hsame x hx]
  rw [hmap]
  exact hperm.map _

/-- What the order of the answers cannot change: it shows in the permission of the pool at most. -/
theorem axes_hear_perm (session : SessionId) (policy : PendingPolicy) {roster : Roster}
    {xs ys : Answers} (hnodup : xs.ids.Nodup) (hperm : xs.Perm ys) :
    let t := (enrolled session policy roster).hear xs
    let u := (enrolled session policy roster).hear ys
    t.required = u.required ∧ t.optional = u.optional ∧
      t.sufficient.isSettled = u.sufficient.isSettled ∧
      (t.sufficient.permits = u.sufficient.permits ↔ (roster.Refused xs ↔ roster.Refused ys)) ∧
      (t.sufficient.status = u.sufficient.status ↔ (roster.Refused xs ↔ roster.Refused ys)) := by
  intro t u
  have hnodup' : ys.ids.Nodup := (hperm.map _).nodup_iff.1 hnodup
  have hx : t.Heard roster False xs := heard_hear_enrolled session policy roster hnodup
  have hy : u.Heard roster False ys := heard_hear_enrolled session policy roster hnodup'
  have hregistered : t.sufficient.registered = u.sufficient.registered := by
    rw [Bool.eq_iff_iff]
    exact hx.sufficient.registered.trans hy.sufficient.registered.symm
  have hsettled : t.sufficient.isSettled = u.sufficient.isSettled := by
    rw [Bool.eq_iff_iff, hx.sufficient.isSettled_iff, hy.sufficient.isSettled_iff,
      Roster.poolSettled_perm hperm]
  have hpermits : t.sufficient.permits = u.sufficient.permits ↔
      (roster.Refused xs ↔ roster.Refused ys) := by
    rw [Bool.eq_iff_iff, hx.sufficient.permits_iff_not_refused hnodup,
      hy.sufficient.permits_iff_not_refused hnodup', not_iff_not]
  -- Settled alike, the pools can differ in their permission only, and that is a refusal.
  have hstatus := hx.sufficient.status_eq_iff hy.sufficient hregistered hsettled
  exact ⟨hx.required.eq_of_perm hy.required hperm, hx.optional.eq_of_perm hy.optional hperm,
    hsettled, hpermits, hstatus.trans hpermits⟩

/-- In any order the axes are the same up to a refusal of the pool. -/
theorem axes_hear_eq_iff (session : SessionId) (policy : PendingPolicy) {roster : Roster}
    {xs ys : Answers} (hnodup : xs.ids.Nodup) (hperm : xs.Perm ys) :
    ((enrolled session policy roster).hear xs).axes =
        ((enrolled session policy roster).hear ys).axes ↔
      (roster.Refused xs ↔ roster.Refused ys) := by
  obtain ⟨hrequired, hoptional, -, -, hstatus⟩ := axes_hear_perm session policy hnodup hperm
  have hintegrity : ((enrolled session policy roster).hear xs).integrityResult =
      ((enrolled session policy roster).hear ys).integrityResult :=
    (hear_frame _ xs).2.2.2.trans (hear_frame _ ys).2.2.2.symm
  rw [← hstatus, axes, axes, isIntegrityComplete, isIntegrityComplete, hrequired, hoptional,
    hintegrity]
  simp

/-- In any order the verdict is the same up to a refusal of the pool. -/
theorem verdict_hear_eq (session : SessionId) (policy : PendingPolicy) {roster : Roster}
    {xs ys : Answers} (hnodup : xs.ids.Nodup) (hperm : xs.Perm ys)
    (hrefused : roster.Refused xs ↔ roster.Refused ys) :
    ((enrolled session policy roster).hear xs).verdict =
      ((enrolled session policy roster).hear ys).verdict := by
  obtain ⟨hrequired, hoptional, hsettled, hpermits, -⟩ :=
    axes_hear_perm session policy hnodup hperm
  have hpolicy : ((enrolled session policy roster).hear xs).policy =
      ((enrolled session policy roster).hear ys).policy :=
    (hear_frame _ xs).2.1.trans (hear_frame _ ys).2.1.symm
  have hcomplete : ((enrolled session policy roster).hear xs).isComplete =
      ((enrolled session policy roster).hear ys).isComplete := by
    rw [isComplete, isComplete, hrequired, hoptional, hsettled]
  rw [verdict, verdict, isAllowed, isAllowed, hcomplete, hpolicy, hrequired, hoptional,
    hpermits.2 hrefused]

/-- Answers of different verifiers in two orders. Where waivers keep their places, which they do
where there are none, everything is the same. In any two orders the verdict and the axes are the
same unless the pool refuses in one order and not in the other; then the axes differ. -/
theorem hear_perm (session : SessionId) (policy : PendingPolicy) (roster : Roster)
    {xs ys : Answers} (hnodup : xs.ids.Nodup) (hperm : xs.Perm ys) :
    let t := enrolled session policy roster
    (roster.KeepsWaivers xs ys ∨ (∀ x ∈ xs, roster.waives x = false) →
      t.hear xs = t.hear ys ∧
        (xs.zip (t.dispositions xs)).Perm (ys.zip (t.dispositions ys))) ∧
    ((roster.Refused xs ↔ roster.Refused ys) →
      (t.hear xs).verdict = (t.hear ys).verdict ∧ (t.hear xs).axes = (t.hear ys).axes) ∧
    (¬(roster.Refused xs ↔ roster.Refused ys) → (t.hear xs).axes ≠ (t.hear ys).axes) := by
  intro t
  have haxes : (t.hear xs).axes = (t.hear ys).axes ↔ (roster.Refused xs ↔ roster.Refused ys) :=
    axes_hear_eq_iff session policy hnodup hperm
  refine ⟨fun h => ?_, fun hrefused => ?_, fun hrefused => mt haxes.1 hrefused⟩
  · have hkeeps : roster.KeepsWaivers xs ys := h.elim id Roster.keepsWaivers_of_no_waiver
    exact ⟨hear_eq_of_keepsWaivers session policy hnodup hperm hkeeps,
      dispositions_perm_of_keepsWaivers session policy hnodup hperm hkeeps⟩
  · exact ⟨verdict_hear_eq session policy hnodup hperm hrefused, haxes.2 hrefused⟩

/-- Two sufficient verifiers refuse and a required one waives them. The axes tell whether the waiver
comes first or last; who of the two answers first does not matter. -/
theorem hear_perm_around_waiver :
    let roster : Roster := [(⟨5⟩, .required), (⟨10⟩, .sufficient), (⟨11⟩, .sufficient)]
    let t := enrolled ⟨1⟩ .failClosed roster
    let last : Answers := [(⟨10⟩, .reject), (⟨11⟩, .reject), (⟨5⟩, .allowWithoutSufficient)]
    let swapped : Answers := [(⟨11⟩, .reject), (⟨10⟩, .reject), (⟨5⟩, .allowWithoutSufficient)]
    let first : Answers := [(⟨5⟩, .allowWithoutSufficient), (⟨10⟩, .reject), (⟨11⟩, .reject)]
    (last.ids.Nodup ∧ last.Perm swapped ∧ last.Perm first) ∧
      t.hear last = t.hear swapped ∧
      (t.hear last).verdict = .rejected ∧ (t.hear first).verdict = .allowed ∧
      (t.hear last).axes ≠ (t.hear first).axes :=
  ⟨by decide,
    ((hear_perm ⟨1⟩ .failClosed _ (by decide) (by decide)).1 (.inl (by decide))).1,
    by decide, by decide,
    (hear_perm ⟨1⟩ .failClosed _ (by decide) (by decide)).2.2 (by decide)⟩

end Tracker

end PackageVerification
