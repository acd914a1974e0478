import PackageVerification.Proofs.Lifetime

/-!
# Sessions are isolated

What happens to a session hangs on the requests that name it and on the expiries, and on nothing
else that is asked of the service. Main statement: `sessions_isolated`, a session fares the same
when the requests to other sessions are left out of a run or come in at other points of it.
-/

namespace PackageVerification

/-! ## 1. Requests and the sessions they name -/

namespace Request

def session? : Request → Option SessionId
  | .start id _ _ | .respond id _ _ | .extend id _ _ _ | .recordIntegrity id _ | .forceRequired id
  | .finish id => some id
  | .expire _ | .drain => none

/-- The request names no other session. -/
def concerns (r : Request) (id : SessionId) : Bool := r.session?.all (· = id)

/-- The request can do something to the session: it names it, or it is an expiry. -/
def steers (r : Request) (id : SessionId) : Bool := r ≠ .drain && r.concerns id

theorem filter_steers_filter_concerns (rs : List Request) (id : SessionId) :
    (rs.filter (·.concerns id)).filter (·.steers id) = rs.filter (·.steers id) := by
  rw [List.filter_filter]
  congr 1
  funext r
  simp [steers]

end Request

/-- What an exchange tells about a session: the reply to a request that names it, and of an expiry
whether the session timed out. -/
def Exchange.about (id : SessionId) : Exchange → Option Exchange
  | (.expire now, .ok (.expired ids)) => some (.expire now, .ok (.expired (ids.filter (· = id))))
  | (r, reply) => if r.session? = some id then some (r, reply) else none

/-! ## 2. Requests that leave a session alone -/

namespace Session

/-- A request that does not steer a session does nothing to it. -/
theorem react_of_not_steers {x : Session} {r : Request} (c : Configuration)
    (h : r.steers x.id = false) : x.react c r = (x, .empty) := by
  cases r <;> simp_all [Request.steers, Request.concerns, Request.session?, react]

/-- A session is begun by a request that names it. -/
theorem begun_of_not_steers {id : SessionId} {r : Request} (c : Configuration)
    (h : r.steers id = false) : begun c id r = none := by
  cases r <;> simp_all [Request.steers, Request.concerns, Request.session?, begun]

end Session

namespace Service

variable {s s' : Service} {id : SessionId} {r : Request}

structure Agree (id : SessionId) (s s' : Service) : Prop where
  configuration : s'.configuration = s.configuration
  session : s'.sessions.get? id = s.sessions.get? id

theorem Agree.refl (id : SessionId) (s : Service) : s.Agree id s := ⟨rfl, rfl⟩

/-- A request that does not steer a session leaves it as it is, and reports nothing about it. -/
theorem Agree.skip (h : s.Agree id s') (hr : r.steers id = false) :
    (s.handle r).service.Agree id s' := by
  refine ⟨h.configuration.trans (s.configuration_handle r).symm, h.session.trans ?_⟩
  cases hx : s.sessions.get? id with
  | none => rw [s.get?_handle_of_untracked hx, Session.begun_of_not_steers _ hr]
  | some x =>
    have hid := SessionTable.id_of_get? hx
    have hfinish : r ≠ .finish id := by
      rintro rfl
      simp [Request.steers, Request.concerns, Request.session?] at hr
    rw [s.get?_handle hx hfinish, Session.react_of_not_steers _ (hid.symm ▸ hr)]

/-- Nothing is reported about a session that a request does not steer. -/
theorem emitted_of_not_steers (s : Service) (h : r.steers id = false) :
    (s.emitted r).filter (·.session = id) = [] := by
  cases hx : s.sessions.get? id with
  | none => rw [s.emitted_about_untracked hx, Session.begun_of_not_steers _ h]; rfl
  | some x =>
    have hid := SessionTable.id_of_get? hx
    rw [s.emitted_about hx, Session.react_of_not_steers _ (hid.symm ▸ h)]
    rfl

theorem about_of_not_steers (s : Service) (h : r.steers id = false) :
    Exchange.about id (r, (s.handle r).result) = none := by
  cases r <;> simp_all [Request.steers, Request.concerns, Request.session?, Exchange.about]

/-! ## 3. Requests to services in which the session stands alike -/

namespace Agree

/-- Services in which the session stands alike go on to do so under the same request. -/
theorem handle (h : s.Agree id s') (r : Request) :
    (s.handle r).service.Agree id (s'.handle r).service := by
  refine ⟨?_, ?_⟩
  · rw [configuration_handle, configuration_handle, h.configuration]
  · by_cases hr : r = .finish id
    · rw [hr, get?_handle_finish, get?_handle_finish]
    · cases hx : s.sessions.get? id with
      | none =>
        have hx' := h.session.trans hx
        rw [s.get?_handle_of_untracked hx, s'.get?_handle_of_untracked hx', h.configuration]
      | some x =>
        have hx' := h.session.trans hx
        rw [s.get?_handle hx hr, s'.get?_handle hx' hr, h.configuration]

/-- They report the same about it. -/
theorem emitted (h : s.Agree id s') (r : Request) :
    (s'.emitted r).filter (·.session = id) = (s.emitted r).filter (·.session = id) := by
  cases hx : s.sessions.get? id with
  | none =>
    have hx' := h.session.trans hx
    rw [s.emitted_about_untracked hx, s'.emitted_about_untracked hx', h.configuration]
  | some x =>
    have hx' := h.session.trans hx
    rw [s.emitted_about hx, s'.emitted_about hx', h.configuration]

theorem result_change {α : Type} (h : s.Agree id s')
    (operation : Session → Change (Except Fault α)) :
    (s'.change id operation).result = (s.change id operation).result := by
  unfold change
  rw [h.session]
  cases s.sessions.get? id <;> rfl

/-- The reply to a request that names the session hangs on the session and the configuration alone.
-/
theorem result (h : s.Agree id s') (hr : r.session? = some id) :
    (s'.handle r).result = (s.handle r).result := by
  -- Each request that names the session looks it up, and then at nothing but what it has found.
  cases r with
  | expire now => cases hr
  | drain => cases hr
  | start id' roster now =>
    obtain rfl := Option.some.inj hr
    simp only [Service.handle, Outcome.map, start, enroll_eq, SessionTable.contains_eq, h.session,
      h.configuration]
    split_ifs <;> rfl
  | respond id' v a =>
    obtain rfl := Option.some.inj hr
    exact congrArg (Except.map _) (h.result_change _)
  | extend id' v ms now =>
    obtain rfl := Option.some.inj hr
    simp only [Service.handle, Outcome.map, extend, h.configuration]
    split_ifs
    · rfl
    · exact congrArg (Except.map _) (h.result_change _)
  | recordIntegrity id' a =>
    obtain rfl := Option.some.inj hr
    exact congrArg (Except.map _) (h.result_change _)
  | forceRequired id' =>
    obtain rfl := Option.some.inj hr
    exact congrArg (Except.map _) (h.result_change _)
  | finish id' =>
    obtain rfl := Option.some.inj hr
    simp only [Service.handle, Outcome.map, finish, h.session]
    cases s.sessions.get? id' <;> rfl

/-- An expiry lists the session or not, whatever the others are. -/
theorem filter_result_expire (h : s.Agree id s') (now : Timestamp) :
    (s'.expire now).result.filter (· = id) = (s.expire now).result.filter (· = id) := by
  have hlist : ∀ t : Service, (t.expire now).result.filter (· = id) =
      ((t.sessions.get? id).toList.filter (·.isDue now)).map (·.id) := by
    intro t
    rw [← SessionTable.filter_id_eq, List.filter_filter]
    show ((t.sessions.toList.filter (·.isDue now)).map (·.id)).filter (· = id) = _
    rw [List.filter_map, List.filter_filter]
    simp only [Function.comp_def, Bool.and_comm]
  rw [hlist, hlist, h.session]

/-- A request that steers the session is told of it alike. -/
theorem about (h : s.Agree id s') (hr : r.steers id = true) :
    Exchange.about id (r, (s'.handle r).result) = Exchange.about id (r, (s.handle r).result) := by
  cases r with
  | drain => cases hr
  | expire now =>
    show some (Request.expire now, _) = some (Request.expire now, _)
    rw [h.filter_result_expire]
  | _ =>
    have hid := hr
    simp only [Request.steers, Request.concerns, Request.session?, Option.all_some,
      Bool.and_eq_true, decide_eq_true_eq] at hid
    obtain rfl := hid.2
    rw [h.result rfl]

end Agree

/-! ## 4. Runs -/

def told (s : Service) (id : SessionId) (rs : List Request) : List Exchange :=
  (rs.zip (s.replies rs)).filterMap (Exchange.about id)

/-- What a run tells about a session is told request by request. -/
theorem told_cons (s : Service) (id : SessionId) (r : Request) (rs : List Request) :
    s.told id (r :: rs) =
      (Exchange.about id (r, (s.handle r).result)).toList ++ (s.handle r).service.told id rs := by
  rw [told, replies_cons, List.zip_cons_cons, List.filterMap_cons]
  cases Exchange.about id (r, (s.handle r).result) <;> rfl

/-- A run comes to the same for a session as the part of it that steers the session. -/
theorem Agree.steered (h : s.Agree id s') (rs : List Request) :
    (s.after rs).Agree id (s'.after (rs.filter (·.steers id))) ∧
      s'.told id (rs.filter (·.steers id)) = s.told id rs ∧
      (s'.emittedAll (rs.filter (·.steers id))).filter (·.session = id) =
        (s.emittedAll rs).filter (·.session = id) := by
  induction rs generalizing s s' with
  | nil => exact ⟨h, rfl, rfl⟩
  | cons r rs ih =>
    by_cases hr : r.steers id = true
    · obtain ⟨hagree, htold, hemitted⟩ := ih (h.handle r)
      rw [List.filter_cons_of_pos (by simpa using hr)]
      refine ⟨hagree, ?_, ?_⟩
      · rw [told_cons, told_cons, h.about hr, htold]
      · rw [emittedAll, emittedAll, List.filter_append, List.filter_append, h.emitted, hemitted]
    · rw [Bool.not_eq_true] at hr
      obtain ⟨hagree, htold, hemitted⟩ := ih (h.skip hr)
      rw [List.filter_cons_of_neg (by simp [hr])]
      refine ⟨hagree, ?_, ?_⟩
      · rw [told_cons, s.about_of_not_steers hr, htold]
        rfl
      · rw [emittedAll, List.filter_append, s.emitted_of_not_steers hr, hemitted, List.nil_append]

/-- The same session is there after two runs that steer it alike, and the same is told about it. -/
theorem eq_of_filter_steers_eq (s : Service) {rs qs : List Request}
    (h : qs.filter (·.steers id) = rs.filter (·.steers id)) :
    (s.after qs).sessions.get? id = (s.after rs).sessions.get? id ∧
      s.told id qs = s.told id rs ∧
      (s.reported qs).filter (·.session = id) = (s.reported rs).filter (·.session = id) := by
  obtain ⟨hagree, htold, hemitted⟩ := (Agree.refl id s).steered rs
  obtain ⟨hagree', htold', hemitted'⟩ := (Agree.refl id s).steered qs
  rw [h] at hagree' htold' hemitted'
  refine ⟨hagree'.session.symm.trans hagree.session, htold'.symm.trans htold, ?_⟩
  rw [reported_eq, reported_eq, List.filter_append, List.filter_append, ← hemitted, hemitted']

/-- With the same drains in a run the same events about the session wait. -/
theorem Agree.waiting (h : s.Agree id s')
    (hwaiting : s'.events.filter (·.session = id) = s.events.filter (·.session = id))
    (rs : List Request) :
    ((s'.after (rs.filter (·.concerns id))).events.filter (·.session = id)) =
      (s.after rs).events.filter (·.session = id) := by
  induction rs generalizing s s' with
  | nil => exact hwaiting
  | cons r rs ih =>
    -- A drain empties both queues; any other request adds to them at the end.
    by_cases hdrain : r = .drain
    · subst hdrain
      exact ih (h.handle .drain) rfl
    · have hevents : (s.handle r).service.events.filter (·.session = id) =
          s.events.filter (·.session = id) ++ (s.emitted r).filter (·.session = id) := by
        rw [(s.handle_cleared hdrain).1, List.filter_append]
      by_cases hr : r.concerns id = true
      · rw [List.filter_cons_of_pos (by simpa using hr)]
        refine ih (h.handle r) ?_
        rw [(s'.handle_cleared hdrain).1, List.filter_append, hwaiting, h.emitted, hevents]
      · have hnot : r.steers id = false := by
          simp [Request.steers, hr]
        rw [List.filter_cons_of_neg (by simpa using hr)]
        refine ih (h.skip hnot) ?_
        rw [hevents, s.emitted_of_not_steers hnot, List.append_nil, hwaiting]

end Service

/-- Without the requests that name other sessions a run comes to the same for a session: it stands
alike at each point, the same events about it wait there, the requests that name it have the same
replies, each expiry lists it or not as before, and the same is reported about it. So it does in any
two runs in which the requests that name it and the expiries are the same in the same order. -/
theorem sessions_isolated (c : Configuration) (id : SessionId) (rs : List Request) :
    let s := Service.new c
    (∀ n,
      (s.after ((rs.take n).filter (·.concerns id))).sessions.get? id =
          (s.after (rs.take n)).sessions.get? id ∧
        (s.after ((rs.take n).filter (·.concerns id))).events.filter (·.session = id) =
          (s.after (rs.take n)).events.filter (·.session = id)) ∧
    s.told id (rs.filter (·.concerns id)) = s.told id rs ∧
    (s.reported (rs.filter (·.concerns id))).filter (·.session = id) =
      (s.reported rs).filter (·.session = id) ∧
    ∀ qs, qs.filter (·.steers id) = rs.filter (·.steers id) →
      (s.after qs).sessions.get? id = (s.after rs).sessions.get? id ∧
        s.told id qs = s.told id rs ∧
        (s.reported qs).filter (·.session = id) = (s.reported rs).filter (·.session = id) := by
  intro s
  have howned := fun qs : List Request =>
    s.eq_of_filter_steers_eq (Request.filter_steers_filter_concerns qs id)
  refine ⟨fun n => ⟨(howned _).1, ?_⟩, (howned rs).2.1, (howned rs).2.2, fun qs hqs => ?_⟩
  · exact (Service.Agree.refl id s).waiting rfl (rs.take n)
  · exact s.eq_of_filter_steers_eq hqs

/-- Two sessions whose verifiers answer in turn, and time out together or are finished: the first
one fares the same when the second is served before it. -/
theorem sessions_isolated_of_two :
    let s := Service.new .default
    let rs : List Request :=
      [.start ⟨1⟩ [(⟨5⟩, .required)] ⟨0⟩, .start ⟨2⟩ [(⟨5⟩, .required), (⟨6⟩, .optional)] ⟨0⟩,
        .respond ⟨1⟩ ⟨5⟩ .reject, .respond ⟨2⟩ ⟨5⟩ .allow, .drain, .expire ⟨10000⟩, .finish ⟨1⟩]
    let qs : List Request :=
      [.start ⟨2⟩ [(⟨5⟩, .required), (⟨6⟩, .optional)] ⟨0⟩, .respond ⟨2⟩ ⟨5⟩ .allow,
        .start ⟨1⟩ [(⟨5⟩, .required)] ⟨0⟩, .respond ⟨1⟩ ⟨5⟩ .reject, .expire ⟨10000⟩, .finish ⟨1⟩]
    qs.filter (·.steers ⟨1⟩) = rs.filter (·.steers ⟨1⟩) ∧
      (s.after qs).sessions.get? ⟨1⟩ = (s.after rs).sessions.get? ⟨1⟩ ∧
      s.told ⟨1⟩ qs = s.told ⟨1⟩ rs ∧
      (s.reported qs).filter (·.session = ⟨1⟩) = (s.reported rs).filter (·.session = ⟨1⟩) := by
  intro s rs qs
  have hsame : qs.filter (·.steers ⟨1⟩) = rs.filter (·.steers ⟨1⟩) := by decide
  exact ⟨hsame, (sessions_isolated .default ⟨1⟩ rs).2.2.2 qs hsame⟩

end PackageVerification
