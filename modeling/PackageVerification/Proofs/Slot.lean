import PackageVerification.Proofs.Reaction

/-!
# One session among many

A service follows many sessions. A request does to each of them what it does to that session alone,
so a session can be followed through a run without regard to the others. Main statements:
`get?_handle` for a session that is followed and `get?_handle_of_untracked` where there is none.
-/

namespace PackageVerification

/-! ## 1. Looking up a session -/

namespace SessionTable

variable {t : SessionTable} {id : SessionId} {x : Session}

theorem id_of_get? (h : t.get? id = some x) : x.id = id := by
  have hx := List.find?_some h
  simpa using hx

@[simp]
theorem contains_eq (t : SessionTable) (id : SessionId) : t.contains id = (t.get? id).isSome := by
  rw [contains, get?, Bool.eq_iff_iff, List.find?_isSome, List.any_eq_true]

@[simp] theorem get?_map (t : SessionTable) (f : Session → Session) (id_eq : ∀ s, (f s).id = s.id)
    (id : SessionId) : (t.map f id_eq).get? id = (t.get? id).map f := by
  show (t.toList.map f).find? _ = (t.toList.find? _).map f
  rw [List.find?_map]
  congr 2
  funext s
  show decide ((f s).id = id) = decide (s.id = id)
  rw [id_eq]

@[simp] theorem get?_update (t : SessionTable) (s : Session) (id : SessionId) :
    (t.update s).get? id = (t.get? id).map fun x => if x.id = s.id then s else x :=
  t.get?_map _ _ id

@[simp] theorem get?_insert (t : SessionTable) (s : Session) (id : SessionId) :
    (t.insert s).get? id = if s.id = id then some s else t.get? id := by
  show (Ascending.place (·.id.number) s t.toList).find? _ =
    if s.id = id then some s else t.toList.find? _
  induction t.toList with
  | nil => by_cases h : s.id = id <;> simp [Ascending.place, h]
  | cons a as ih =>
    simp only [Ascending.place, ← SessionId.ext_iff]
    by_cases hlt : s.id.number < a.id.number
    · rw [if_pos hlt, List.find?_cons]
      by_cases h : s.id = id <;> simp [h]
    · by_cases heq : s.id = a.id
      · rw [if_neg hlt, if_pos heq, List.find?_cons, List.find?_cons, ← heq]
        by_cases h : s.id = id <;> simp [h]
      · rw [if_neg hlt, if_neg heq, List.find?_cons, List.find?_cons, ih]
        by_cases ha : a.id = id
        · have h : s.id ≠ id := fun h => heq (h.trans ha.symm)
          simp [ha, h]
        · simp [ha]

@[simp] theorem get?_erase (t : SessionTable) (a id : SessionId) :
    (t.erase a).get? id = if a = id then none else t.get? id := by
  show (t.toList.filter _).find? _ = if a = id then none else t.toList.find? _
  rw [List.find?_filter]
  split_ifs with h
  · rw [List.find?_eq_none]
    simp [h]
  · congr 1
    funext s
    by_cases hs : s.id = id
    · have hne : id ≠ a := fun hne => h hne.symm
      simp [hs, hne]
    · simp [hs]

/-- There is one session with an id, if there is any. -/
theorem filter_id_eq (t : SessionTable) (id : SessionId) :
    t.toList.filter (·.id = id) = (t.get? id).toList := by
  obtain ⟨xs, hasc⟩ := t
  show xs.filter _ = (xs.find? _).toList
  induction xs with
  | nil => rfl
  | cons a as ih =>
    obtain ⟨ha, has⟩ := List.pairwise_cons.1 hasc
    by_cases h : a.id = id
    · have hrest : as.filter (·.id = id) = [] := by
        rw [List.filter_eq_nil_iff]
        intro b hb hbid
        have hlt := ha b hb
        rw [h, of_decide_eq_true hbid] at hlt
        exact UInt64.lt_irrefl id.number hlt
      rw [List.filter_cons_of_pos (by simpa using h), List.find?_cons_of_pos (by simpa using h),
        hrest]
      rfl
    · rw [List.filter_cons_of_neg (by simpa using h), List.find?_cons_of_neg (by simpa using h),
        ih has]

theorem mem_toList_iff : x ∈ t.toList ↔ t.get? x.id = some x := by
  have h : x ∈ t.toList ↔ x ∈ t.toList.filter (·.id = x.id) := by simp
  rw [h, filter_id_eq, Option.mem_toList]

/-- What is gathered about the session with an id is what it gives. -/
theorem flatMap_id {α : Type} (t : SessionTable) (id : SessionId) (f : Session → List α) :
    (t.toList.flatMap fun x => if x.id = id then f x else []) = ((t.get? id).map f).getD [] := by
  have h : ∀ xs : List Session, (xs.flatMap fun x => if x.id = id then f x else []) =
      (xs.filter (·.id = id)).flatMap f := by
    intro xs
    induction xs with
    | nil => rfl
    | cons x xs ih => by_cases hx : x.id = id <;> simp [hx, ih]
  rw [h, filter_id_eq]
  cases t.get? id <;> simp

end SessionTable

/-! ## 2. What a request does to a service -/

/-- The events of several traces in turn. -/
theorem Trace.events_foldr (ts : List Trace) :
    (ts.foldr (· ++ ·) Trace.empty).events = ts.flatMap (·.events) := by
  induction ts with
  | nil => rfl
  | cons t ts ih => simp [ih]

namespace Service

/-- `s'` is `s` after something has happened to each session alone. -/
structure Acts (s s' : Service) (f : Session → Session × Trace) : Prop where
  configuration : s'.configuration = s.configuration
  get? : ∀ id, s'.sessions.get? id = (s.sessions.get? id).map fun x => (f x).1
  about :
    ∀ id, s'.events.filter (·.session = id) =
      s.events.filter (·.session = id) ++ ((s.sessions.get? id).map fun x => (f x).2.events).getD []

theorem acts_idle (s : Service) : s.Acts s fun x => (x, .empty) := by
  refine ⟨rfl, ?_, ?_⟩ <;> intro id <;> cases s.sessions.get? id <;> simp [Trace.empty]

/-- A change of one session acts on it alone. -/
theorem acts_change {α : Type} (s : Service) (id : SessionId)
    (operation : Session → Change (Except Fault α))
    (hkeeps : ∀ x : Session, x.Keeps (operation x).effect) :
    s.Acts (s.change id operation).service
      fun x => if id = x.id then (operation x).effect else (x, .empty) := by
  rw [change]
  cases hx : s.sessions.get? id with
  -- Nobody is followed under the id, so nobody is changed.
  | none =>
    have hne : ∀ i x, s.sessions.get? i = some x → id ≠ x.id := by
      rintro i x hi rfl
      rw [SessionTable.id_of_get? hi] at hx
      simp [hx] at hi
    refine ⟨rfl, ?_, ?_⟩ <;> intro i <;> cases hi : s.sessions.get? i with
    | none => simp
    | some x => simp [hne i x hi, Trace.empty]
  | some x =>
    have hid : x.id = id := SessionTable.id_of_get? hx
    have hopid : (operation x).session.id = id := (hkeeps x).1.trans hid
    refine ⟨rfl, ?_, ?_⟩
    · intro i
      show (s.sessions.update (operation x).session).get? i = _
      rw [SessionTable.get?_update]
      cases hi : s.sessions.get? i with
      | none => rfl
      | some y =>
        by_cases hy : y.id = id
        -- There is one session with the id, so it is the one that was changed.
        · have hxy : x = y := by
            rw [← SessionTable.id_of_get? hi, hy, hx] at hi
            exact Option.some.inj hi
          subst hxy
          simp [hid, hopid, Change.effect]
        · have hy' : id ≠ y.id := fun h => hy h.symm
          simp [hopid, hy, hy']
    · intro i
      show (s.events ++ (operation x).effect.2.events).filter _ = _
      rw [List.filter_append, (hkeeps x).filter_events, hid]
      congr 1
      by_cases hi : id = i
      · subst hi
        simp [hx, hid]
      · cases hy : s.sessions.get? i with
        | none => simp [hi]
        | some y =>
          have hne : id ≠ y.id := by
            rwa [SessionTable.id_of_get? hy]
          simp [hi, hne, Trace.empty]

theorem result_change {α : Type} (s : Service) {id : SessionId} {x : Session}
    (hx : s.sessions.get? id = some x) (operation : Session → Change (Except Fault α)) :
    (s.change id operation).result = (operation x).result := by
  rw [change, hx]

/-- An expiry tells which sessions were due. -/
theorem mem_result_expire (s : Service) {id : SessionId} {x : Session}
    (hx : s.sessions.get? id = some x) (now : Timestamp) :
    id ∈ (s.expire now).result ↔ x.isDue now = true := by
  show id ∈ (s.sessions.toList.filter (·.isDue now)).map (·.id) ↔ _
  rw [List.mem_map]
  constructor
  · rintro ⟨y, hy, hid⟩
    obtain ⟨hmem, hdue⟩ := List.mem_filter.1 hy
    rw [SessionTable.mem_toList_iff, hid, hx] at hmem
    rw [Option.some.inj hmem]
    exact hdue
  · intro hdue
    have hid := SessionTable.id_of_get? hx
    exact ⟨x, List.mem_filter.2 ⟨SessionTable.mem_toList_iff.2 (hid.symm ▸ hx), hdue⟩, hid⟩

/-- An expiry acts on each session as a look at the clock does. -/
theorem acts_expire (s : Service) (now : Timestamp) :
    s.Acts (s.expire now).service fun x => x.strike s.defaultAnswer now := by
  have hkeeps : ∀ x : Session, x.Keeps (x.strike s.defaultAnswer now) := fun x =>
    x.keeps_react s.configuration (.expire now)
  refine ⟨rfl, ?_, ?_⟩
  · intro id
    exact s.sessions.get?_map _ (fun x => x.id_strike s.defaultAnswer now) id
  · intro id
    let traces := s.sessions.toList.map fun x => (x.strike s.defaultAnswer now).2
    show (s.events ++ (traces.foldr (· ++ ·) Trace.empty).events).filter _ = _
    rw [List.filter_append, Trace.events_foldr, List.flatMap_map, List.filter_flatMap]
    simp only [(hkeeps _).filter_events, SessionTable.flatMap_id]

/-- A request acts on each session alone, unless it begins one, ends one or takes the events. -/
theorem acts_handle (s : Service) {r : Request} (hstart : ∀ id roster now, r ≠ .start id roster now)
    (hfinish : ∀ id, r ≠ .finish id) (hdrain : r ≠ .drain) :
    s.Acts (s.handle r).service fun x => x.react s.configuration r := by
  cases r with
  | start id roster now => exact absurd rfl (hstart id roster now)
  | finish id => exact absurd rfl (hfinish id)
  | drain => exact absurd rfl hdrain
  | respond id v a =>
    exact s.acts_change id (fun x => sure (x.respond v a)) fun x => x.keeps_respond v a
  | extend id v ms now =>
    show s.Acts (s.extend id v ms now).service _
    unfold extend
    -- What is beyond the limit fails whatever the session, as if none were named.
    by_cases hms : s.configuration.maxExtension < ms
    · rw [if_pos hms]
      simp only [Session.react, hms, not_true_eq_false, and_false, if_false]
      exact s.acts_idle
    · rw [if_neg hms]
      simp only [Session.react, hms, not_false_eq_true, and_true]
      exact s.acts_change id (fun x => sure (x.extend v ms now)) fun x => x.keeps_extend v ms now
  | recordIntegrity id a =>
    exact s.acts_change id (fun x => sure (x.recordIntegrity a)) fun x => x.keeps_recordIntegrity a
  | forceRequired id => exact s.acts_change id Session.forceRequired fun x => x.keeps_forceRequired
  | expire now => exact s.acts_expire now

/-- A session begins where none is followed, if anybody is asked; else nothing changes. -/
theorem start_cases (s : Service) (id : SessionId) (roster : Roster) (now : Timestamp) :
    ((roster = [] ∨ s.sessions.get? id ≠ none) ∧ (s.start id roster now).service = s ∧
        ∃ fault, (s.start id roster now).result = .error fault) ∨
      (roster ≠ [] ∧ s.sessions.get? id = none ∧
        (s.start id roster now).service.sessions =
          s.sessions.insert (.fresh s.configuration id roster now) ∧
        (s.start id roster now).service.events =
          s.events ++
            [.sessionStarted id (Session.fresh s.configuration id roster now).deadline] ∧
        (s.start id roster now).service.configuration = s.configuration ∧
        (s.start id roster now).result =
          .ok (Session.fresh s.configuration id roster now).deadline) := by
  simp only [start, enroll_eq, Tracker.hasVerifiers_enrolled, Bool.not_not, List.isEmpty_iff,
    SessionTable.contains_eq]
  by_cases hroster : roster = []
  · exact .inl ⟨.inl hroster, by simp [hroster]⟩
  · cases hx : s.sessions.get? id with
    | none => exact .inr ⟨hroster, rfl, by simp [hroster, record, Session.fresh]⟩
    | some x => exact .inl ⟨.inr (by simp), by simp [hroster]⟩

/-- A session that has been started is the one for its roster. -/
theorem get?_start_of_ok {s : Service} {id : SessionId} {roster : Roster} {now deadline : Timestamp}
    (h : (s.start id roster now).result = .ok deadline) :
    roster ≠ [] ∧ (s.start id roster now).service.sessions.get? id =
      some (.fresh s.configuration id roster now) := by
  rcases s.start_cases id roster now with ⟨-, -, fault, hresult⟩ | ⟨hroster, -, hsessions, -⟩
  · rw [hresult] at h
    cases h
  · rw [hsessions, SessionTable.get?_insert, if_pos (Session.id_fresh ..)]
    exact ⟨hroster, rfl⟩

/-- To finish a session takes it out, and reports nothing. -/
theorem service_finish (s : Service) (id : SessionId) :
    (s.finish id).service.configuration = s.configuration ∧
      (s.finish id).service.events = s.events ∧
      ∀ i, (s.finish id).service.sessions.get? i =
        if id = i then none else s.sessions.get? i := by
  rw [finish]
  cases hx : s.sessions.get? id with
  | none =>
    refine ⟨rfl, rfl, fun i => ?_⟩
    split_ifs with hi
    · rw [← hi]
      exact hx
    · rfl
  | some x => exact ⟨rfl, rfl, s.sessions.get?_erase id⟩

/-- A session that is followed goes on as it would alone. -/
theorem get?_handle (s : Service) {id : SessionId} {x : Session} (hx : s.sessions.get? id = some x)
    {r : Request} (hr : r ≠ .finish id) :
    (s.handle r).service.sessions.get? id = some (x.react s.configuration r).1 := by
  cases r with
  | start id' roster now =>
    show (s.start id' roster now).service.sessions.get? id = some x
    rcases s.start_cases id' roster now with ⟨-, hservice, -⟩ | ⟨-, hfree, hsessions, -⟩
    · rw [hservice, hx]
    · have hne : id' ≠ id := by
        rintro rfl
        simp [hx] at hfree
      rw [hsessions, SessionTable.get?_insert, Session.id_fresh, if_neg hne, hx]
  | finish id' =>
    have hne : id' ≠ id := fun h => hr (h ▸ rfl)
    show (s.finish id').service.sessions.get? id = some x
    rw [(s.service_finish id').2.2, if_neg hne, hx]
  | drain => exact hx
  | _ =>
    rw [(s.acts_handle (by simp) (by simp) (by simp)).get?, hx]
    rfl

/-- Where none is followed, a request may begin a session. -/
theorem get?_handle_of_untracked (s : Service) {id : SessionId} (hx : s.sessions.get? id = none)
    (r : Request) :
    (s.handle r).service.sessions.get? id = Session.begun s.configuration id r := by
  cases r with
  | start id' roster now =>
    show (s.start id' roster now).service.sessions.get? id = _
    rw [Session.begun]
    rcases s.start_cases id' roster now with ⟨hnot, hservice, -⟩ | ⟨hroster, -, hsessions, -⟩
    · rw [hservice, hx, if_neg]
      rintro ⟨rfl, hroster⟩
      exact hnot.elim hroster fun hfollowed => hfollowed hx
    · rw [hsessions, SessionTable.get?_insert, Session.id_fresh]
      by_cases hid : id' = id
      · subst hid
        simp [hroster]
      · simp [hid, hx]
  | finish id' =>
    show (s.finish id').service.sessions.get? id = none
    rw [(s.service_finish id').2.2, hx, ite_self]
  | drain => exact hx
  | _ =>
    rw [(s.acts_handle (by simp) (by simp) (by simp)).get?, hx]
    rfl

/-- A session that has been finished is not followed any more. -/
@[simp] theorem get?_handle_finish (s : Service) (id : SessionId) :
    (s.handle (.finish id)).service.sessions.get? id = none :=
  ((s.service_finish id).2.2 id).trans (if_pos rfl)

@[simp] theorem configuration_handle (s : Service) (r : Request) :
    (s.handle r).service.configuration = s.configuration := by
  cases r with
  | start id roster now =>
    show (s.start id roster now).service.configuration = _
    rcases s.start_cases id roster now with ⟨-, hservice, -⟩ | ⟨-, -, -, -, hconfiguration, -⟩
    · rw [hservice]
    · exact hconfiguration
  | finish id => exact (s.service_finish id).1
  | drain => rfl
  | _ => exact (s.acts_handle (by simp) (by simp) (by simp)).configuration

end Service

end PackageVerification
