import Mathlib.Data.List.Induction
import PackageVerification.Proofs.Reported

/-!
# The lifetime of a session

From the request that begins a session to the one that finishes it, or to the end of a run. Main
statements: `Lifetime.induction`, what holds when a session begins and is kept by each request holds
throughout; `Lifetime.existsUnique_of_followed`, a session that is followed has one lifetime.
-/

namespace PackageVerification

abbrev Exchange := Request × Except Fault Reply

/-- The requests of a run up to a point at which the session has begun and has not been finished. -/
structure Lifetime (c : Configuration) (id : SessionId) where
  /-- The requests before the session begins. -/
  before : List Request
  roster : Roster
  now : Timestamp
  deadline : Timestamp
  /-- The requests after it has begun. -/
  since : List Request
  begins :
    (((Service.new c).after before).handle (.start id roster now)).result = .ok (.started deadline)
  lasts : .finish id ∉ since

namespace Lifetime

variable {c : Configuration} {id : SessionId}

def opening (l : Lifetime c id) : Request := .start id l.roster l.now

def requests (l : Lifetime c id) : List Request := l.before ++ l.opening :: l.since

def service (l : Lifetime c id) : Service := (Service.new c).after l.requests

def exchanges (l : Lifetime c id) : List Exchange :=
  l.since.zip (((Service.new c).after (l.before ++ [l.opening])).replies l.since)

def first (l : Lifetime c id) : Session := .fresh c id l.roster l.now

def session (l : Lifetime c id) : Session := l.since.foldl (fun x r => (x.react c r).1) l.first

def stretch (l : Lifetime c id) : List Event :=
  ((Service.new c).reported l.requests).drop ((Service.new c).reported l.before).length

def events (l : Lifetime c id) : List Event := l.stretch.filter (·.session = id)

def goOn (l : Lifetime c id) (r : Request) (hr : r ≠ .finish id) : Lifetime c id :=
  { l with
    since := l.since ++ [r]
    lasts := by simpa using ⟨l.lasts, hr.symm⟩ }

/-- What holds of a session that has just begun, and goes on to hold with each request, holds
throughout. -/
theorem induction {P : Lifetime c id → Prop} (begun : ∀ l, l.since = [] → P l)
    (goes_on : ∀ l r (hr : r ≠ .finish id), P l → P (l.goOn r hr)) (l : Lifetime c id) : P l := by
  obtain ⟨before, roster, now, deadline, since, begins, lasts⟩ := l
  induction since using List.reverseRecOn with
  | nil => exact begun _ rfl
  | append_singleton rs r ih =>
    have hrs : .finish id ∉ rs := fun h => lasts (List.mem_append_left _ h)
    have hr : r ≠ .finish id := by
      rintro rfl
      exact lasts (by simp)
    exact goes_on ⟨before, roster, now, deadline, rs, begins, hrs⟩ r hr (ih hrs)

/-! ## 1. The beginning -/

/-- A session begins where none is followed, and only if somebody is asked. -/
theorem begin_cases (l : Lifetime c id) :
    l.roster ≠ [] ∧ ((Service.new c).after l.before).sessions.get? id = none ∧
      l.deadline = l.first.deadline := by
  have hbegins := l.begins
  have hconfiguration := (Service.new c).configuration_after l.before
  generalize (Service.new c).after l.before = s at *
  rcases s.start_cases id l.roster l.now with
    ⟨-, -, fault, hresult⟩ | ⟨hroster, hfree, -, -, -, hresult⟩
  · rw [Service.handle, Outcome.map, hresult] at hbegins
    cases hbegins
  · rw [Service.handle, Outcome.map, hresult, hconfiguration] at hbegins
    exact ⟨hroster, hfree, (Reply.started.inj (Except.ok.inj hbegins)).symm⟩

/-- The request that opens the lifetime begins the session. -/
theorem begun_opening (l : Lifetime c id) : Session.begun c id l.opening = some l.first :=
  if_pos ⟨rfl, l.begin_cases.1⟩

/-! ## 2. One more request -/

@[simp] theorem requests_goOn (l : Lifetime c id) {r : Request} (hr : r ≠ .finish id) :
    (l.goOn r hr).requests = l.requests ++ [r] := by
  simp [requests, goOn, opening]

@[simp] theorem service_goOn (l : Lifetime c id) {r : Request} (hr : r ≠ .finish id) :
    (l.goOn r hr).service = (l.service.handle r).service := by
  rw [service, requests_goOn, Service.after_append]
  rfl

/-- One more request does to the session what it does to it alone. -/
@[simp] theorem session_goOn (l : Lifetime c id) {r : Request} (hr : r ≠ .finish id) :
    (l.goOn r hr).session = (l.session.react c r).1 := by
  show (l.since ++ [r]).foldl _ l.first = _
  rw [List.foldl_append]
  rfl

@[simp] theorem configuration_service (l : Lifetime c id) : l.service.configuration = c :=
  (Service.new c).configuration_after l.requests

/-- The session is followed throughout. -/
@[simp] theorem get?_service (l : Lifetime c id) : l.service.sessions.get? id = some l.session := by
  induction l using induction with
  | begun l hl =>
    have hbefore := (Service.new c).configuration_after l.before
    rw [service, requests, hl, Service.after_append, Service.after_cons]
    show (((Service.new c).after l.before).handle l.opening).service.sessions.get? id = _
    rw [Service.get?_handle_of_untracked _ l.begin_cases.2.1, hbefore, session, hl]
    exact l.begun_opening
  | goes_on l r hr ih =>
    rw [service_goOn, session_goOn, l.service.get?_handle ih hr, configuration_service]

@[simp] theorem id_session (l : Lifetime c id) : l.session.id = id :=
  SessionTable.id_of_get? l.get?_service

theorem exchanges_begun {l : Lifetime c id} (hl : l.since = []) : l.exchanges = [] := by
  rw [exchanges, hl]
  rfl

@[simp] theorem exchanges_goOn (l : Lifetime c id) {r : Request} (hr : r ≠ .finish id) :
    (l.goOn r hr).exchanges = l.exchanges ++ [(r, (l.service.handle r).result)] := by
  have hservice : ((Service.new c).after (l.before ++ [l.opening])).after l.since = l.service := by
    rw [← Service.after_append, service, requests, List.append_assoc]
    rfl
  show (l.since ++ [r]).zip
    (((Service.new c).after (l.before ++ [l.opening])).replies (l.since ++ [r])) = _
  rw [Service.replies_append, List.zip_append (Service.length_replies _ _).symm, hservice]
  rfl

/-! ## 3. What is reported -/

/-- What is reported during a lifetime is what its requests add. -/
theorem stretch_eq (l : Lifetime c id) :
    l.stretch = ((Service.new c).after l.before).emittedAll (l.opening :: l.since) := by
  rw [stretch, requests, Service.reported_append, List.drop_left]

/-- What is reported during a lifetime comes after what is reported before it, and before what is
reported after it. -/
theorem reported_requests_append (l : Lifetime c id) (rs : List Request) :
    (Service.new c).reported (l.requests ++ rs) =
      (Service.new c).reported l.before ++ l.stretch ++ l.service.emittedAll rs := by
  rw [Service.reported_append, stretch_eq, service, requests, Service.reported_append]

/-- To finish the session adds nothing to what is reported. -/
theorem reported_finish (l : Lifetime c id) :
    (Service.new c).reported (l.requests ++ [.finish id]) =
      (Service.new c).reported l.before ++ l.stretch := by
  rw [reported_requests_append, Service.emittedAll, Service.emitted_finish, Service.emittedAll,
    List.append_nil, List.append_nil]

/-- The first event of a session is that it has been started. -/
theorem events_begun {l : Lifetime c id} (hl : l.since = []) :
    l.events = [.sessionStarted id l.deadline] := by
  obtain ⟨-, hfree, hdeadline⟩ := l.begin_cases
  have hbefore := (Service.new c).configuration_after l.before
  rw [events, stretch_eq, hl, Service.emittedAll, Service.emittedAll, List.append_nil,
    Service.emitted_about_untracked _ hfree, hbefore, hdeadline]
  show ((Session.begun c id l.opening).map _).getD [] = _
  rw [l.begun_opening]
  rfl

/-- One more request is told about the session as it would be of it alone. -/
theorem events_goOn (l : Lifetime c id) {r : Request} (hr : r ≠ .finish id) :
    (l.goOn r hr).events = l.events ++ (l.session.react c r).2.events := by
  have hservice : ((Service.new c).after l.before).after (l.opening :: l.since) = l.service := by
    rw [service, requests, Service.after_append]
  have hstretch : (l.goOn r hr).stretch = l.stretch ++ l.service.emitted r := by
    rw [stretch_eq, stretch_eq]
    show ((Service.new c).after l.before).emittedAll ((l.opening :: l.since) ++ [r]) = _
    rw [Service.emittedAll_append, hservice]
    exact congrArg (_ ++ ·) (List.append_nil _)
  rw [events, hstretch, List.filter_append, l.service.emitted_about l.get?_service,
    configuration_service, events]

/-! ## 4. The lifetime of a session that is followed -/

/-- A session that is followed has been begun, and not been finished since. -/
theorem exists_of_followed (c : Configuration) {id : SessionId} {rs : List Request}
    (hx : ((Service.new c).after rs).sessions.get? id ≠ none) :
    ∃ l : Lifetime c id, l.requests = rs := by
  induction rs using List.reverseRecOn with
  | nil => exact absurd rfl hx
  | append_singleton rs r ih =>
    have hafter : (Service.new c).after (rs ++ [r]) =
        (((Service.new c).after rs).handle r).service := by
      rw [Service.after_append]
      rfl
    rw [hafter] at hx
    have hr : r ≠ .finish id := by
      rintro rfl
      exact hx (Service.get?_handle_finish _ id)
    -- The session is there after the last request: it was there before, or that request began it.
    by_cases hbefore : ((Service.new c).after rs).sessions.get? id = none
    · rw [Service.get?_handle_of_untracked _ hbefore] at hx
      cases r with
      | start id' roster now =>
        have hbegun : id' = id ∧ roster ≠ [] := by
          by_contra hnot
          exact hx (if_neg hnot)
        obtain ⟨rfl, hroster⟩ := hbegun
        rcases ((Service.new c).after rs).start_cases id' roster now with
          ⟨hnot, -⟩ | ⟨-, -, -, -, -, hresult⟩
        · exact absurd hnot (not_or.2 ⟨hroster, not_not.2 hbefore⟩)
        · have hbegins := congrArg (Except.map Reply.started) hresult
          exact ⟨⟨rs, roster, now, _, [], hbegins, List.not_mem_nil⟩, rfl⟩
      | _ => exact absurd rfl hx
    · obtain ⟨l, hl⟩ := ih hbefore
      exact ⟨l.goOn r hr, by rw [requests_goOn, hl]⟩

/-- A session is followed throughout its lifetime, so that it does not begin another time. -/
theorem before_eq_of_append {l l' : Lifetime c id} {rs : List Request}
    (hbefore : l'.before = l.before ++ rs)
    (hrest : l.opening :: l.since = rs ++ l'.opening :: l'.since) : l.before = l'.before := by
  cases rs with
  | nil => rw [hbefore, List.append_nil]
  | cons r rs =>
    obtain ⟨rfl, hsince⟩ := List.cons.inj hrest
    have hlasts : .finish id ∉ rs := fun hin =>
      l.lasts (hsince ▸ List.mem_append_left _ hin)
    have hfollowed := get?_service { l with since := rs, lasts := hlasts }
    have hfree := l'.begin_cases.2.1
    rw [hbefore] at hfree
    exact absurd (hfree.symm.trans hfollowed) (by simp)

/-- Two lifetimes of the same requests begin at the same one. -/
theorem eq_of_requests_eq {l l' : Lifetime c id} (h : l.requests = l'.requests) : l = l' := by
  have hbefore : l.before = l'.before := by
    rcases List.append_eq_append_iff.1 h with ⟨rs, hbefore, hrest⟩ | ⟨rs, hbefore, hrest⟩
    · exact before_eq_of_append hbefore hrest
    · exact (before_eq_of_append hbefore hrest).symm
  rw [requests, requests, hbefore] at h
  obtain ⟨hopening, hsince⟩ := List.cons.inj (List.append_cancel_left h)
  obtain ⟨-, hroster, hnow⟩ := Request.start.inj hopening
  have hdeadline : l.deadline = l'.deadline := by
    rw [l.begin_cases.2.2, l'.begin_cases.2.2, first, first, hroster, hnow]
  cases l
  cases l'
  simp_all

/-- A session that is followed has one lifetime. -/
theorem existsUnique_of_followed (c : Configuration) {id : SessionId} {rs : List Request}
    (hx : ((Service.new c).after rs).sessions.get? id ≠ none) :
    ∃! l : Lifetime c id, l.requests = rs := by
  obtain ⟨l, hl⟩ := exists_of_followed c hx
  exact ⟨l, hl, fun l' hl' => eq_of_requests_eq (hl'.trans hl.symm)⟩

theorem session_eq_of_get? {l : Lifetime c id} {x : Session}
    (hx : ((Service.new c).after l.requests).sessions.get? id = some x) : l.session = x :=
  Option.some.inj (l.get?_service.symm.trans hx)

/-- A session that is followed is the one of its lifetime. -/
theorem exists_of_get? {rs : List Request} {x : Session}
    (hx : ((Service.new c).after rs).sessions.get? id = some x) :
    ∃ l : Lifetime c id, l.requests = rs ∧ l.session = x := by
  have hfollowed : ((Service.new c).after rs).sessions.get? id ≠ none := by simp [hx]
  obtain ⟨l, rfl⟩ := exists_of_followed c hfollowed
  exact ⟨l, rfl, session_eq_of_get? hx⟩

end Lifetime

end PackageVerification
