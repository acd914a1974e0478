import PackageVerification.Proofs.Deadline
import PackageVerification.Proofs.History

/-!
# More time

A session is given more time once, at the request of one of its verifiers. Main statements:
`Lifetime.clock`, the deadline in terms of what was granted; `Lifetime.extend_granted_iff`, who is
granted more time; `extensions_and_deadlines`, how a request is answered and what comes of it.
-/

namespace PackageVerification

/-! ## 1. Who may ask for more time -/

/-- The verifier is in the pool: it is listed there, nobody has waived the pool, and it has not been
heard in it. -/
def Roster.InPool (roster : Roster) (xs : Answers) (v : VerifierId) : Prop :=
  v ∈ roster.ids .sufficient ∧ ¬roster.Waived xs ∧
    ¬(roster.heardAs v = some .sufficient ∧ v ∈ xs.ids)

theorem Tracker.Heard.isRegistered_iff {t : Tracker} {roster : Roster} {forced : Prop}
    {xs : Answers} (h : t.Heard roster forced xs) (v : VerifierId) :
    t.isRegistered v = true ↔
      v ∈ roster.ids .required ∨ roster.seated = some v ∨ roster.InPool xs v := by
  simp only [isRegistered, holds, Bool.or_eq_true, decide_eq_true_eq, h.required.members,
    h.optional.verifier, h.sufficient.pool, or_assoc, Roster.InPool]

/-! ## 2. The clock of a lifetime -/

def Exchange.grants (id : SessionId) : Exchange → Bool
  | (.extend id' _ _ _, .ok (.extended true)) => id' = id
  | _ => false

theorem Exchange.grants_iff {id : SessionId} {e : Exchange} :
    e.grants id = true ↔
      ∃ verifier extra now, e = (.extend id verifier extra now, .ok (.extended true)) := by
  constructor
  · intro h
    unfold grants at h
    split at h
    · rw [← of_decide_eq_true h]
      exact ⟨_, _, _, rfl⟩
    · cases h
  · rintro ⟨_, _, _, rfl⟩
    exact decide_eq_true rfl

namespace Service

/-- How a request for more time is answered. -/
theorem result_extend (s : Service) (id : SessionId) (verifier : VerifierId) (extra : UInt64)
    (now : Timestamp) :
    (s.extend id verifier extra now).result =
      if s.configuration.maxExtension < extra then
        .error (.extensionLimit id s.configuration.maxExtension)
      else
        match s.sessions.get? id with
        | none => .error (.unknownSession id)
        | some x => .ok (x.extend verifier extra now).result := by
  rw [extend]
  split_ifs
  · rfl
  · cases hx : s.sessions.get? id with
    | none => rw [change, hx]
    | some x => exact s.result_change hx _

/-- A deadline is not moved to an earlier instant, and not at all once more time was given. -/
theorem deadline_after {s : Service} {id : SessionId} {x : Session}
    (hx : s.sessions.get? id = some x) {rs : List Request} (hrs : .finish id ∉ rs) :
    ∃ y, (s.after rs).sessions.get? id = some y ∧ x.deadline ≤ y.deadline ∧
      (x.tracker.timeoutExtended = true → y.deadline = x.deadline) := by
  induction rs generalizing s x with
  | nil => exact ⟨x, hx, Timestamp.le_refl _, fun _ => rfl⟩
  | cons r rs ih =>
    have hr := (List.ne_of_not_mem_cons hrs).symm
    obtain ⟨y, hy, hle, hsame⟩ := ih (s.get?_handle hx hr) (List.not_mem_of_not_mem_cons hrs)
    have hfirst := x.deadline_le_react s.configuration r
    rw [Timestamp.le_iff] at hle hfirst
    refine ⟨y, hy, Timestamp.le_iff.2 (hfirst.trans hle), fun hextended => ?_⟩
    obtain ⟨hdeadline, hextended'⟩ := Session.deadline_react_of_extended s.configuration r hextended
    exact (hsame hextended').trans hdeadline

end Service

namespace Lifetime

variable {c : Configuration} {id : SessionId} {l : Lifetime c id}

def Extended (l : Lifetime c id) : Prop := ∃ e ∈ l.exchanges, e.grants id = true

def Grants (l : Lifetime c id) (v : VerifierId) : Prop :=
  ¬l.Extended ∧ l.session.verdict = .pending ∧
    (v ∈ l.roster.ids .required ∨ l.roster.seated = some v ∨ l.roster.InPool l.answers v)

theorem result_extend (l : Lifetime c id) (v : VerifierId) (ms : UInt64) (now : Timestamp) :
    (l.service.extend id v ms now).result =
      if c.maxExtension < ms then .error (.extensionLimit id c.maxExtension)
      else .ok (l.session.extend v ms now).result := by
  rw [l.service.result_extend, l.get?_service, l.configuration_service]

/-- One more request prolongs the session by what it is granted, or leaves its clock as it is. -/
theorem clock_goOn_cases (l : Lifetime c id) {r : Request} (hr : r ≠ .finish id) :
    (∃ v ms now, r = .extend id v ms now ∧
        (l.service.handle r).result = .ok (.extended true) ∧ ¬c.maxExtension < ms ∧
        l.session.tracker.timeoutExtended = false ∧
        (l.goOn r hr).session = l.session.prolonged (now.later ms)) ∨
      (Exchange.grants id (r, (l.service.handle r).result) = false ∧
        l.session.SameClock (l.goOn r hr).session) := by
  have hextend : ∀ v ms now, (l.service.handle (.extend id v ms now)).result =
      (if c.maxExtension < ms then .error (.extensionLimit id c.maxExtension)
        else .ok (l.session.extend v ms now).result : Except Fault Bool).map .extended :=
    fun v ms now => congrArg (Except.map Reply.extended) (l.result_extend v ms now)
  rw [session_goOn]
  -- What the session does and what is replied to it agree: granted both, or neither.
  rcases l.session.clock_react_cases c r with ⟨v, ms, now, hq, hmax, hgranted, hsession⟩ | h
  · rw [l.id_session] at hq
    subst hq
    refine .inl ⟨v, ms, now, rfl, ?_, hmax, (Session.extend_granted_iff.1 hgranted).1, hsession⟩
    rw [hextend, if_neg hmax, hgranted]
    rfl
  · obtain ⟨hnot, hsame⟩ := h
    refine .inr ⟨?_, hsame⟩
    rw [← Bool.not_eq_true, Exchange.grants_iff]
    rintro ⟨v, ms, now, hexchange⟩
    obtain ⟨rfl, hresult⟩ := Prod.mk.inj hexchange
    rw [hextend] at hresult
    split_ifs at hresult with hmax
    · cases hresult
    · rw [l.id_session] at hnot
      rw [(hnot v ms now rfl).resolve_left hmax] at hresult
      cases hresult

structure Clock (l : Lifetime c id) : Prop where
  startedAt : l.session.startedAt = l.now
  unextended : l.session.tracker.timeoutExtended = false →
    l.exchanges.countP (·.grants id) = 0 ∧ l.session.deadline = l.first.deadline
  extended : l.session.tracker.timeoutExtended = true →
    l.exchanges.countP (·.grants id) = 1 ∧ ∃ v ms now,
      (.extend id v ms now, .ok (.extended true)) ∈ l.exchanges ∧ ¬c.maxExtension < ms ∧
        l.session.deadline = l.first.deadline.latest (now.later ms)

theorem clock (l : Lifetime c id) : l.Clock := by
  -- Along the lifetime: the first grant moves the deadline from where it began, and there is no
  -- second.
  induction l using induction with
  | begun l hl =>
    have hsession : l.session = l.first := by
      rw [session, hl]
      rfl
    have hextended : l.first.tracker.timeoutExtended = false := by
      rw [first, Session.fresh, Tracker.enrolled_eq]
    refine ⟨?_, fun _ => ?_, fun h => ?_⟩
    · rw [hsession]
      rfl
    · rw [hsession, exchanges_begun hl]
      exact ⟨rfl, rfl⟩
    · rw [hsession, hextended] at h
      cases h
  | goes_on l r hr ih =>
    have hfirst : (l.goOn r hr).first = l.first := rfl
    rcases l.clock_goOn_cases hr with
      ⟨v, ms, now, rfl, hresult, hmax, hnot, hsession⟩ | ⟨hgrants, hsame⟩
    · obtain ⟨hnone, hdeadline⟩ := ih.unextended hnot
      refine ⟨?_, fun h => ?_, fun _ => ⟨?_, v, ms, now, ?_, hmax, ?_⟩⟩
      · rw [hsession]
        exact ih.startedAt
      · rw [hsession] at h
        cases h
      · rw [exchanges_goOn, List.countP_append, hnone, List.countP_singleton, hresult,
          Exchange.grants_iff.2 ⟨v, ms, now, rfl⟩]
        rfl
      · rw [exchanges_goOn, hresult]
        exact List.mem_append_right _ List.mem_cons_self
      · rw [hsession, hfirst, ← hdeadline]
        rfl
    · have hcount : (l.goOn r hr).exchanges.countP (·.grants id) =
          l.exchanges.countP (·.grants id) := by
        rw [exchanges_goOn, List.countP_append, List.countP_singleton, hgrants]
        rfl
      refine ⟨hsame.startedAt.trans ih.startedAt, fun h => ?_, fun h => ?_⟩
      · rw [hcount, hsame.deadline]
        exact ih.unextended (hsame.timeoutExtended.symm.trans h)
      · obtain ⟨hone, v, ms, now, hin, hmax, hdeadline⟩ :=
          ih.extended (hsame.timeoutExtended.symm.trans h)
        refine ⟨hcount.trans hone, v, ms, now, ?_, hmax, hsame.deadline.trans hdeadline⟩
        rw [exchanges_goOn]
        exact List.mem_append_left _ hin

theorem extended_iff : l.Extended ↔ l.session.tracker.timeoutExtended = true := by
  rw [Extended, ← List.countP_pos_iff]
  cases h : l.session.tracker.timeoutExtended with
  | false => simp [(l.clock.unextended h).1]
  | true => simp [(l.clock.extended h).1]

theorem countP_grants_le (l : Lifetime c id) : l.exchanges.countP (·.grants id) ≤ 1 := by
  cases h : l.session.tracker.timeoutExtended with
  | false => exact (l.clock.unextended h).1.trans_le (Nat.zero_le 1)
  | true => exact (l.clock.extended h).1.le

/-- More time is granted once, to a verifier of a session that waits. -/
theorem extend_granted_iff (l : Lifetime c id) (v : VerifierId) (ms : UInt64) (now : Timestamp) :
    (l.session.extend v ms now).result = true ↔ l.Grants v := by
  rw [Session.extend_granted_iff, Grants, extended_iff, Bool.not_eq_true, ← l.sound.isOpen_iff]
  exact and_congr_right fun _ => and_congr_right fun hopen =>
    (l.heard_of_isOpen hopen).isRegistered_iff v

end Lifetime

/-! ## 3. Who is given more time, and what comes of it -/

/-- What moves the deadline of a session, and how far. -/
structure Lifetime.KeepsTime {c : Configuration} {id : SessionId} (l : Lifetime c id) : Prop where
  /-- A request that is granted moves the deadline to the time asked for, and tells so. -/
  granted : ∀ v extra now, (l.service.extend id v extra now).result = .ok true → ∃ y,
    (l.service.extend id v extra now).service.sessions.get? id = some y ∧
    y.deadline.millis.toNat =
      max l.session.deadline.millis.toNat (min (now.millis.toNat + extra.toNat) (UInt64.size - 1)) ∧
    (l.service.extend id v extra now).service.events =
      l.service.events ++ [.timeoutExtended id y.deadline]
  /-- Every other request leaves the deadline as it is. -/
  others : ∀ q, q ≠ .finish id → Exchange.grants id (q, (l.service.handle q).result) = false → ∃ y,
    (l.service.handle q).service.sessions.get? id = some y ∧ y.deadline = l.session.deadline
  once : l.exchanges.countP (·.grants id) ≤ 1
  startedAt : l.session.startedAt = l.now
  least : min (l.session.startedAt.millis.toNat + c.verificationTimeout.toNat) (UInt64.size - 1) ≤
    l.session.deadline.millis.toNat
  unextended : ¬l.Extended → l.session.deadline.millis.toNat =
    min (l.session.startedAt.millis.toNat + c.verificationTimeout.toNat) (UInt64.size - 1)
  due : ¬l.Extended → l.session.verdict = .pending → ∀ now,
    id ∈ (l.service.expire now).result ↔
      l.session.startedAt.hasExpired c.verificationTimeout now = true
  /-- The deadline is never moved back, and not at all once more time was granted. -/
  later : ∀ qs, .finish id ∉ qs → ∃ y, (l.service.after qs).sessions.get? id = some y ∧
    l.session.deadline ≤ y.deadline ∧ (l.Extended → y.deadline = l.session.deadline)
  /-- A deadline that has been moved is the one that was granted. -/
  moved : min (l.session.startedAt.millis.toNat + c.verificationTimeout.toNat) (UInt64.size - 1) <
      l.session.deadline.millis.toNat → ∃ v extra now,
    (.extend id v extra now, .ok (.extended true)) ∈ l.exchanges ∧
    l.session.deadline.millis.toNat = min (now.millis.toNat + extra.toNat) (UInt64.size - 1) ∧
    l.session.deadline.millis.toNat ≤
      min (now.millis.toNat + c.maxExtension.toNat) (UInt64.size - 1)

namespace Lifetime

variable {c : Configuration} {id : SessionId}

theorem toNat_deadline_first (l : Lifetime c id) :
    l.first.deadline.millis.toNat =
      min (l.session.startedAt.millis.toNat + c.verificationTimeout.toNat) (UInt64.size - 1) := by
  rw [l.clock.startedAt]
  exact l.now.toNat_later c.verificationTimeout

theorem keepsTime (l : Lifetime c id) : l.KeepsTime where
  granted v extra now h := by
    have hmax : ¬c.maxExtension < extra := fun hmax => by
      rw [l.result_extend, if_pos hmax] at h
      cases h
    rw [l.result_extend, if_neg hmax] at h
    obtain ⟨hsession, hevents⟩ := Session.extend_of_granted (Except.ok.inj h)
    have hreact : l.session.react c (.extend id v extra now) =
        (l.session.extend v extra now).effect := if_pos ⟨l.id_session.symm, hmax⟩
    refine ⟨l.session.prolonged (now.later extra), ?_, ?_, ?_⟩
    · rw [← hsession]
      have hget := l.service.get?_handle l.get?_service (r := .extend id v extra now) (by simp)
      rw [l.configuration_service, hreact] at hget
      exact hget
    · exact (Timestamp.toNat_latest _ _).trans (congrArg _ (now.toNat_later extra))
    · rw [Service.extend, l.configuration_service, if_neg hmax, Service.change, l.get?_service]
      rw [l.id_session] at hevents
      exact congrArg (l.service.events ++ ·) hevents
  others q hq hgrants := by
    have hget := l.service.get?_handle l.get?_service hq
    rw [l.configuration_service, ← l.session_goOn hq] at hget
    rcases l.clock_goOn_cases hq with ⟨v, ms, now, rfl, hresult, -⟩ | ⟨-, hsame⟩
    · rw [hresult, Exchange.grants_iff.2 ⟨v, ms, now, rfl⟩] at hgrants
      cases hgrants
    · exact ⟨_, hget, hsame.deadline⟩
  once := l.countP_grants_le
  startedAt := l.clock.startedAt
  least := by
    rw [← l.toNat_deadline_first]
    exact Timestamp.le_iff.1 l.deadline_le_session
  unextended h := by
    rw [extended_iff, Bool.not_eq_true] at h
    rw [(l.clock.unextended h).2, l.toNat_deadline_first]
  due h hpending now := by
    rw [extended_iff, Bool.not_eq_true] at h
    rw [l.service.mem_result_expire l.get?_service, Session.isDue, Bool.and_eq_true,
      l.sound.isOpen_iff, and_iff_right hpending, (l.clock.unextended h).2, l.clock.startedAt]
    exact Iff.rfl
  later qs hqs := by
    rw [extended_iff]
    exact Service.deadline_after l.get?_service hqs
  moved h := by
    rw [← l.toNat_deadline_first] at h
    cases hextended : l.session.tracker.timeoutExtended with
    | false =>
      rw [(l.clock.unextended hextended).2] at h
      exact absurd h (Nat.lt_irrefl _)
    | true =>
      -- A deadline beyond the first one was moved by the one grant, which the limit bounds.
      obtain ⟨-, v, extra, now, hin, hmax, hdeadline⟩ := l.clock.extended hextended
      have hlater := now.toNat_later extra
      rw [hdeadline, Timestamp.toNat_latest, hlater] at h ⊢
      have hmax : extra.toNat ≤ c.maxExtension.toNat := Nat.le_of_not_lt hmax
      refine ⟨v, extra, now, hin, ?_, ?_⟩ <;> simp only [UInt64.size] at h ⊢ <;> omega

end Lifetime

/-- Requests for more time, after any run. One that asks for more than the limit fails whatever the
session; else it fails if no session is followed; else it is granted if none was granted before,
the session is undecided, and the verifier is a required one, the optional one, or in the pool. The
deadline of a session is moved by what is granted and by nothing else. -/
theorem extensions_and_deadlines (c : Configuration) (rs : List Request) (id : SessionId) :
    let s := (Service.new c).after rs
    (∀ v extra now,
      ((s.extend id v extra now).result = .error (.extensionLimit id c.maxExtension) ↔
        c.maxExtension < extra) ∧
      ((s.extend id v extra now).result = .error (.unknownSession id) ↔
        ¬c.maxExtension < extra ∧ s.sessions.get? id = none) ∧
      ((s.extend id v extra now).result = .ok true ↔
        ¬c.maxExtension < extra ∧ ∃ l : Lifetime c id, l.requests = rs ∧ l.Grants v) ∧
      ((s.extend id v extra now).result = .ok false ↔
        ¬c.maxExtension < extra ∧ ∃ l : Lifetime c id, l.requests = rs ∧ ¬l.Grants v)) ∧
    ∀ x, s.sessions.get? id = some x →
      ∃ l : Lifetime c id, l.requests = rs ∧ l.session = x ∧ l.KeepsTime := by
  intro s
  have hconfiguration : s.configuration = c := (Service.new c).configuration_after rs
  refine ⟨fun v extra now => ?_, fun x hx => ?_⟩
  · rw [s.result_extend, hconfiguration]
    by_cases hmax : c.maxExtension < extra
    · simp [hmax]
    · simp only [hmax, not_false_eq_true, true_and]
      cases hx : s.sessions.get? id with
      | none =>
        have hnone : ∀ l : Lifetime c id, l.requests ≠ rs := by
          rintro l rfl
          exact absurd (l.get?_service.symm.trans hx) (by simp)
        simp [hnone]
      | some x =>
        obtain ⟨l, rfl, rfl⟩ := Lifetime.exists_of_get? hx
        -- The lifetime is unique, so that it may be named before what is said of it.
        have hunique : ∀ P : Lifetime c id → Prop,
            (∃ l' : Lifetime c id, l'.requests = l.requests ∧ P l') ↔ P l := by
          refine fun P => ⟨?_, fun h => ⟨l, rfl, h⟩⟩
          rintro ⟨l', hrequests, h⟩
          rwa [← Lifetime.eq_of_requests_eq hrequests]
        rw [hunique, hunique, ← l.extend_granted_iff v extra now]
        simp
  · obtain ⟨l, rfl, rfl⟩ := Lifetime.exists_of_get? hx
    exact ⟨l, rfl, rfl, l.keepsTime⟩

/-- One of the pool has refused, and the seat of the optional verifier was taken by another one. Of
those who ask at the last instant the one who is left in the pool is granted more time, and the
deadline is that instant. -/
theorem extensions_and_deadlines_of_pool :
    let c : Configuration := { Configuration.default with maxExtension := 50 }
    let roster : Roster :=
      [(⟨5⟩, .required), (⟨6⟩, .optional), (⟨7⟩, .optional), (⟨10⟩, .sufficient),
        (⟨11⟩, .sufficient)]
    let rs : List Request := [.start ⟨1⟩ roster ⟨0⟩, .respond ⟨1⟩ ⟨10⟩ .reject]
    let s := (Service.new c).after rs
    (∃ l : Lifetime c ⟨1⟩, l.requests = rs ∧ ¬l.Grants ⟨10⟩) ∧
      (∃ l : Lifetime c ⟨1⟩, l.requests = rs ∧ ¬l.Grants ⟨6⟩) ∧
      (∃ l : Lifetime c ⟨1⟩, l.requests = rs ∧ l.Grants ⟨11⟩) ∧
      ∃ y, (s.extend ⟨1⟩ ⟨11⟩ 50 .last).service.sessions.get? ⟨1⟩ = some y ∧
        y.deadline.millis.toNat = UInt64.size - 1 := by
  intro c roster rs s
  obtain ⟨hresult, hkeeps⟩ := extensions_and_deadlines c rs ⟨1⟩
  have hgranted : (s.extend ⟨1⟩ ⟨11⟩ 50 .last).result = .ok true := by decide +kernel
  have hrefused : ∀ v ∈ [⟨10⟩, ⟨6⟩], (s.extend ⟨1⟩ v 50 .last).result = .ok false := by
    decide +kernel
  obtain ⟨x, hx⟩ : ∃ x, s.sessions.get? ⟨1⟩ = some x :=
    Option.isSome_iff_exists.1 (by decide +kernel)
  refine ⟨((hresult ⟨10⟩ 50 .last).2.2.2.1 (hrefused _ (by decide))).2,
    ((hresult ⟨6⟩ 50 .last).2.2.2.1 (hrefused _ (by decide))).2,
    ((hresult ⟨11⟩ 50 .last).2.2.1.1 hgranted).2, ?_⟩
  obtain ⟨l, hl, -, hkeeps⟩ := hkeeps x hx
  have hservice : l.service = s := by rw [Lifetime.service, hl]
  rw [← hservice] at hgranted ⊢
  obtain ⟨y, hy, hdeadline, -⟩ := hkeeps.granted ⟨11⟩ 50 .last hgranted
  have hbefore := Timestamp.le_iff.1 (Timestamp.le_last l.session.deadline)
  have hlast : Timestamp.last.millis.toNat = UInt64.size - 1 := rfl
  refine ⟨y, hy, ?_⟩
  rw [hdeadline, hlast]
  omega

end PackageVerification
