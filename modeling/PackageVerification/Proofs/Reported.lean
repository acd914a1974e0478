import PackageVerification.Proofs.Slot

/-!
# What a run reports

The events of a run are those that it has handed over and those that still wait. Each request adds
its own to them at the end, whenever they are drained. Main statements: `reported_eq`, the events in
terms of the requests; `reported_without_drains`, a run reports the same if nobody drains.
-/

namespace PackageVerification

namespace Service

/-! ## 1. Runs -/

def after (s : Service) (rs : List Request) : Service := (s.handleAll rs).2.1

def replies (s : Service) (rs : List Request) : List (Except Fault Reply) := (s.handleAll rs).1

@[simp] theorem after_nil (s : Service) : s.after [] = s := rfl

@[simp] theorem replies_nil (s : Service) : s.replies [] = [] := rfl

@[simp] theorem after_cons (s : Service) (r : Request) (rs : List Request) :
    s.after (r :: rs) = (s.handle r).service.after rs := rfl

@[simp] theorem replies_cons (s : Service) (r : Request) (rs : List Request) :
    s.replies (r :: rs) = (s.handle r).result :: (s.handle r).service.replies rs := rfl

/-- A run in two parts ends where its second part ends. -/
@[simp] theorem after_append (s : Service) (rs qs : List Request) :
    s.after (rs ++ qs) = (s.after rs).after qs := by
  rw [after, handleAll_append]
  rfl

@[simp] theorem replies_append (s : Service) (rs qs : List Request) :
    s.replies (rs ++ qs) = s.replies rs ++ (s.after rs).replies qs := by
  rw [replies, handleAll_append]
  rfl

@[simp]
theorem length_replies (s : Service) (rs : List Request) : (s.replies rs).length = rs.length := by
  induction rs generalizing s with
  | nil => rfl
  | cons r rs ih => simp [ih]

@[simp] theorem configuration_after (s : Service) (rs : List Request) :
    (s.after rs).configuration = s.configuration := by
  induction rs generalizing s with
  | nil => rfl
  | cons r rs ih => simp [ih]

/-! ## 2. The events of a request -/

def cleared (s : Service) : Service := { s with events := [] }

def emitted (s : Service) (r : Request) : List Event := (s.cleared.handle r).service.events

def handedOver : Except Fault Reply → List Event
  | .ok (.drained events) => events
  | _ => []

/-- Waiting events have no part in what a change does. -/
theorem change_cleared {α : Type} (s : Service) (id : SessionId)
    (operation : Session → Change (Except Fault α)) :
    (s.change id operation).service.events =
        s.events ++ (s.cleared.change id operation).service.events ∧
      (s.change id operation).service.cleared =
        (s.cleared.change id operation).service.cleared := by
  unfold change
  have hsessions : s.cleared.sessions = s.sessions := rfl
  rw [hsessions]
  cases s.sessions.get? id <;> simp [cleared, record]

/-- Waiting events have no part in what a request does. -/
theorem handle_cleared (s : Service) {r : Request} (hr : r ≠ .drain) :
    (s.handle r).service.events = s.events ++ s.emitted r ∧
      (s.handle r).service.cleared = (s.cleared.handle r).service.cleared := by
  have hsessions : s.cleared.sessions = s.sessions := rfl
  have hconfiguration : s.cleared.configuration = s.configuration := rfl
  rw [emitted]
  -- The waiting events are only ever added to, and nothing else looks at them.
  cases r with
  | drain => exact absurd rfl hr
  | start id roster now =>
    simp only [handle, Outcome.map, start, enroll_eq, hsessions, hconfiguration]
    by_cases hasked : roster = []
    · simp [cleared, hasked]
    · by_cases hfollowed : (s.sessions.get? id).isSome = true <;>
        simp [cleared, record, hasked, hfollowed]
  | finish id =>
    simp only [handle, Outcome.map, finish, hsessions]
    cases s.sessions.get? id <;> simp [cleared]
  | respond id v a => exact s.change_cleared id _
  | extend id v ms now =>
    simp only [handle, Outcome.map, extend, hconfiguration]
    split_ifs
    · simp [cleared]
    · exact s.change_cleared id _
  | recordIntegrity id a => exact s.change_cleared id _
  | forceRequired id => exact s.change_cleared id _
  | expire now => exact ⟨by simp [handle, Outcome.map, expire, record, cleared, defaultAnswer], rfl⟩

/-- Events are handed over by a drain only. -/
theorem handedOver_handle (s : Service) {r : Request} (hr : r ≠ .drain) :
    handedOver (s.handle r).result = [] := by
  have hmap : ∀ {α : Type} (f : α → Reply) (e : Except Fault α),
      (∀ a, handedOver (.ok (f a)) = []) → handedOver (e.map f) = [] := by
    intro α f e hf
    cases e with
    | error fault => rfl
    | ok a => exact hf a
  cases r with
  | drain => exact absurd rfl hr
  | expire now => rfl
  | _ => exact hmap _ _ fun _ => rfl

/-! ## 3. The events of a run -/

/-- The events that have been handed over, in the order of the replies, then those that wait. -/
def reported (s : Service) (rs : List Request) : List Event :=
  (s.replies rs).flatMap handedOver ++ (s.after rs).events

def emittedAll (s : Service) : List Request → List Event
  | [] => []
  | r :: rs => s.emitted r ++ (s.handle r).service.emittedAll rs

@[simp] theorem emittedAll_nil (s : Service) : s.emittedAll [] = [] := rfl

@[simp] theorem emittedAll_cons (s : Service) (r : Request) (rs : List Request) :
    s.emittedAll (r :: rs) = s.emitted r ++ (s.handle r).service.emittedAll rs := rfl

@[simp] theorem emittedAll_append (s : Service) (rs qs : List Request) :
    s.emittedAll (rs ++ qs) = s.emittedAll rs ++ (s.after rs).emittedAll qs := by
  induction rs generalizing s with
  | nil => rfl
  | cons r rs ih => simp [ih]

/-- A request adds its events at the end; to drain adds none. -/
theorem reported_eq (s : Service) (rs : List Request) :
    s.reported rs = s.events ++ s.emittedAll rs := by
  induction rs generalizing s with
  | nil => simp [reported]
  | cons r rs ih =>
    have hstep : handedOver (s.handle r).result ++ (s.handle r).service.events =
        s.events ++ s.emitted r := by
      by_cases hr : r = .drain
      · subst hr
        rfl
      · rw [s.handedOver_handle hr, (s.handle_cleared hr).1, List.nil_append]
    have hrest := ih (s.handle r).service
    rw [reported] at hrest ⊢
    rw [replies_cons, after_cons, List.flatMap_cons, List.append_assoc, hrest, emittedAll_cons,
      ← List.append_assoc, hstep, List.append_assoc]

/-- What is reported by a part of a run stays as it is. -/
theorem reported_append (s : Service) (rs qs : List Request) :
    s.reported (rs ++ qs) = s.reported rs ++ (s.after rs).emittedAll qs := by
  rw [reported_eq, emittedAll_append, reported_eq, List.append_assoc]

/-- Waiting events have no part in what a run adds. -/
@[simp] theorem emittedAll_cleared (s : Service) (rs : List Request) :
    s.cleared.emittedAll rs = s.emittedAll rs := by
  induction rs generalizing s with
  | nil => rfl
  | cons r rs ih =>
    have hnext :
        (s.cleared.handle r).service.emittedAll rs = (s.handle r).service.emittedAll rs := by
      by_cases hr : r = .drain
      · subst hr
        rfl
      · rw [← ih (s.handle r).service, (s.handle_cleared hr).2, ih]
    rw [emittedAll, emittedAll, hnext]
    rfl

/-- To drain adds nothing, so a run adds the same without its drains. -/
theorem emittedAll_without_drains (s : Service) (rs : List Request) :
    s.emittedAll (rs.filter (· ≠ .drain)) = s.emittedAll rs := by
  induction rs generalizing s with
  | nil => rfl
  | cons r rs ih =>
    by_cases hr : r = .drain
    · subst hr
      have hnone : s.emitted .drain = [] := rfl
      have hservice : (s.handle .drain).service = s.cleared := rfl
      rw [List.filter_cons_of_neg (by simp), ih, emittedAll, hnone, hservice, emittedAll_cleared,
        List.nil_append]
    · rw [List.filter_cons_of_pos (by simpa using hr), emittedAll, ih, emittedAll]

/-- When the events are drained, and whether at all, does not matter to what is reported. -/
theorem reported_without_drains (s : Service) (rs : List Request) :
    s.reported rs = (s.after (rs.filter (· ≠ .drain))).events := by
  have hwait : ∀ (qs : List Request) (s : Service), .drain ∉ qs →
      (s.after qs).events = s.events ++ s.emittedAll qs := by
    intro qs
    induction qs with
    | nil => intro s _; simp [after, handleAll, emittedAll]
    | cons q qs ih =>
      intro s hqs
      have hq := (List.ne_of_not_mem_cons hqs).symm
      rw [after_cons, ih _ (List.not_mem_of_not_mem_cons hqs), (s.handle_cleared hq).1, emittedAll,
        List.append_assoc]
  rw [reported_eq, hwait _ s (by simp), emittedAll_without_drains]

/-! ## 4. The events about one session -/

/-- To finish a session is the end of it without a word. -/
theorem emitted_finish (s : Service) (id : SessionId) : s.emitted (.finish id) = [] := by
  show (s.cleared.finish id).service.events = []
  rw [(s.cleared.service_finish id).2.1]
  rfl

/-- A request reports about a session that is followed what it does to it. -/
theorem emitted_about (s : Service) {id : SessionId} {x : Session}
    (hx : s.sessions.get? id = some x) (r : Request) :
    (s.emitted r).filter (·.session = id) = (x.react s.configuration r).2.events := by
  cases r with
  | start id' roster now =>
    show (s.cleared.start id' roster now).service.events.filter _ = []
    rcases s.cleared.start_cases id' roster now with
      ⟨-, hservice, -⟩ | ⟨-, hfree, -, hevents, -, -⟩
    · rw [hservice]
      rfl
    -- A session that begins is not the one that is followed already.
    · have hne : id' ≠ id := by
        rintro rfl
        exact absurd (hx.symm.trans hfree) (by simp)
      rw [hevents]
      simp [cleared, Event.session, hne]
  | finish id' =>
    rw [emitted_finish]
    rfl
  | drain => rfl
  | _ =>
    have hsessions : s.cleared.sessions.get? id = some x := hx
    rw [emitted, (s.cleared.acts_handle (by simp) (by simp) (by simp)).about, hsessions]
    rfl

/-- Where no session is followed only the beginning of one is reported. -/
theorem emitted_about_untracked (s : Service) {id : SessionId} (hx : s.sessions.get? id = none)
    (r : Request) :
    (s.emitted r).filter (·.session = id) =
      ((Session.begun s.configuration id r).map
        fun x => [.sessionStarted id x.deadline]).getD [] := by
  cases r with
  | start id' roster now =>
    show (s.cleared.start id' roster now).service.events.filter _ = _
    rw [Session.begun]
    rcases s.cleared.start_cases id' roster now with
      ⟨hnot, hservice, -⟩ | ⟨hroster, -, -, hevents, -, -⟩
    · rw [hservice, if_neg]
      · rfl
      · rintro ⟨rfl, hroster⟩
        exact hnot.elim hroster fun hfollowed => hfollowed hx
    · rw [hevents]
      by_cases hid : id' = id
      · subst hid
        simp [cleared, Event.session, hroster]
      · simp [cleared, Event.session, hid]
  | finish id' =>
    rw [emitted_finish]
    rfl
  | drain => rfl
  | _ =>
    have hsessions : s.cleared.sessions.get? id = none := hx
    rw [emitted, (s.cleared.acts_handle (by simp) (by simp) (by simp)).about, hsessions]
    rfl

end Service

end PackageVerification
