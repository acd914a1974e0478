import PackageVerification.Proofs.Deadline

/-!
# What has no part in a decision

The policy says whether an install may proceed before its decision is complete, and a verdict asks
for it only when the decision is. The result of the integrity check is kept for review. So a service
that is looked at through a mask over the two is told of nothing but what the mask covers, whichever
policy it has and whatever the checks say. Main statements: `handle_masked`, a request behind the
mask; `decisions_ignore_policy_and_integrity`, two runs that differ behind it only.
-/

namespace PackageVerification

/-! ## 1. The mask -/

/-- The tracker with its policy covered, and the integrity check too unless it is `shown`. -/
def Tracker.masked (shown : Bool) (t : Tracker) : Tracker :=
  { t with
    policy := .failClosed
    integrityResult := if shown then t.integrityResult else none }

def Session.masked (shown : Bool) (x : Session) : Session :=
  { x with tracker := x.tracker.masked shown }

theorem Session.id_masked (shown : Bool) (x : Session) : (x.masked shown).id = x.id := rfl

def Summary.masked (shown : Bool) (s : Summary) : Summary :=
  { s with
    axes := { s.axes with integrity := if shown then s.axes.integrity else .pending }
    integrityResult := if shown then s.integrityResult else none }

def ResponseOutcome.masked (shown : Bool) (o : ResponseOutcome) : ResponseOutcome :=
  { o with allComplete := shown && o.allComplete }

def Reply.masked (shown : Bool) : Reply → Reply
  | .answered outcome => .answered (outcome.masked shown)
  | .recorded allComplete => .recorded (shown && allComplete)
  | .finished summary => .finished (summary.masked shown)
  | reply => reply

def Configuration.masked (c : Configuration) : Configuration :=
  { c with pendingPolicy := .failClosed, logFormat := .human, logLevel := "" }

def Service.masked (shown : Bool) (s : Service) : Service :=
  { s with
    configuration := s.configuration.masked
    sessions := s.sessions.map (Session.masked shown) (Session.id_masked shown) }

def Change.masked {α : Type} (shown : Bool) (f : α → α) (c : Change α) : Change α :=
  ⟨f c.result, c.session.masked shown, c.trace⟩

def Outcome.masked {α : Type} (shown : Bool) (f : α → α) (o : Outcome α) : Outcome α :=
  ⟨f o.result, o.service.masked shown, o.notices⟩

/-! ## 2. Trackers and sessions behind the mask -/

namespace Tracker

variable (shown : Bool) (t : Tracker)

/-- An answer is handled without regard to what the mask covers. -/
@[simp] theorem answer_masked (id : VerifierId) (a : Answer) :
    (t.masked shown).answer id a = ((t.answer id a).1, (t.answer id a).2.masked shown) := by
  by_cases hr : id ∈ t.required.members
  · by_cases hu : id ∈ t.required.unanswered <;> simp [answer, masked, hr, hu]
  · by_cases ho : t.optional.verifier = some id
    · by_cases hc : t.optional.complete = true <;> simp [answer, masked, hr, ho, hc]
    · by_cases hp : id ∈ t.sufficient.pool <;> simp [answer, masked, hr, ho, hp]

@[simp] theorem answerNotices_masked (id : VerifierId) (a : Answer) :
    (t.masked shown).answerNotices id a = t.answerNotices id a := by
  rw [answerNotices, answer_masked]
  rfl

/-- The policy is asked for an incomplete decision only, of which the verdict is pending anyway. -/
@[simp] theorem verdict_masked : (t.masked shown).verdict = t.verdict := by
  have hcomplete : (t.masked shown).isComplete = t.isComplete := rfl
  rw [verdict, verdict, isAllowed, isAllowed, hcomplete]
  cases t.isComplete with
  | false => rfl
  | true =>
    rw [Bool.or_true, Bool.or_true]
    rfl

/-- Whether everything is complete hangs on the integrity check. -/
@[simp]
theorem isAllComplete_masked : (t.masked shown).isAllComplete = (shown && t.isAllComplete) := by
  cases shown <;> rfl

/-- Whatever policy a tracker was made with, behind the mask it is the same. -/
theorem enrolled_masked (id : SessionId) (policy : PendingPolicy) (roster : Roster) :
    (enrolled id policy roster).masked shown = enrolled id .failClosed roster := by
  rw [enrolled_eq, enrolled_eq]
  cases shown <;> rfl

end Tracker

namespace Session

variable (shown : Bool) (x : Session)

@[simp] theorem verdict_masked : (x.masked shown).verdict = x.verdict := by
  have htracker : (x.masked shown).tracker.verdict = x.tracker.verdict :=
    x.tracker.verdict_masked shown
  rw [verdict, verdict, htracker]
  rfl

theorem summary_masked : (x.masked shown).summary = x.summary.masked shown := by
  rw [summary, verdict_masked]
  cases shown <;> rfl

theorem outcome_masked (disposition : Option Disposition) :
    (x.masked shown).outcome disposition = (x.outcome disposition).masked shown := by
  have hcomplete : (x.masked shown).tracker.isAllComplete = (shown && x.tracker.isAllComplete) :=
    x.tracker.isAllComplete_masked shown
  rw [outcome, verdict_masked, hcomplete]
  rfl

theorem reportCompletion_masked :
    (x.masked shown).reportCompletion =
      (x.reportCompletion.1.masked shown, x.reportCompletion.2) := by
  rw [reportCompletion, reportCompletion, verdict_masked]
  split_ifs with hreported hreported' hreported'
  · rfl
  · exact absurd hreported hreported'
  · exact absurd hreported' hreported
  · rfl

theorem respond_masked (verifier : VerifierId) (a : Answer) :
    (x.masked shown).respond verifier a =
      (x.respond verifier a).masked shown (ResponseOutcome.masked shown) := by
  have htracker : (x.masked shown).tracker = x.tracker.masked shown := rfl
  have hlate : (x.masked shown).timedOut = x.timedOut := rfl
  have hcompletion : (x.answered verifier a |>.masked shown).reportCompletion = _ :=
    reportCompletion_masked shown (x.answered verifier a)
  have houtcome := outcome_masked shown (x.answered verifier a)
  rw [respond, respond, htracker, Tracker.answer_masked, Tracker.answerNotices_masked, hlate]
  split_ifs
  · rw [outcome_masked]
    rfl
  · show Change.mk ((x.answered verifier a).masked shown |>.outcome _)
      ((x.answered verifier a).masked shown).reportCompletion.1
      (_ ++ ((x.answered verifier a).masked shown).reportCompletion.2) = _
    rw [houtcome, hcompletion]
    rfl

theorem extend_masked (verifier : VerifierId) (extra : UInt64) (now : Timestamp) :
    (x.masked shown).extend verifier extra now =
      (x.extend verifier extra now).masked shown fun granted => granted := by
  have hregistered : (x.masked shown).tracker.isRegistered verifier =
      x.tracker.isRegistered verifier := rfl
  have hignored : (!(x.masked shown).isOpen || (x.masked shown).tracker.timeoutExtended) =
      (!x.isOpen || x.tracker.timeoutExtended) := rfl
  rw [extend, extend, hregistered, hignored]
  split_ifs <;> rfl

theorem recordIntegrity_masked (a : Answer) :
    (x.masked true).recordIntegrity a =
      (x.recordIntegrity a).masked true fun allComplete => allComplete := rfl

theorem forceRequired_masked :
    (x.masked shown).forceRequired =
      x.forceRequired.masked shown (Except.map fun verdict => verdict) := by
  have hopen : (x.masked shown).isOpen = x.isOpen := rfl
  have hnone : (x.masked shown).tracker.required.unanswered = x.tracker.required.unanswered := rfl
  have hforced : (x.forced.masked shown).reportCompletion = _ :=
    reportCompletion_masked shown x.forced
  have hverdict := verdict_masked shown x.forced
  rw [forceRequired, forceRequired, Tracker.forceRequired, Tracker.forceRequired, hopen, hnone,
    verdict_masked]
  split_ifs
  · rfl
  · show Change.mk (Except.ok (x.forced.masked shown).verdict)
      (x.forced.masked shown).reportCompletion.1
      (_ ++ .ofNotice (.overridden _ (x.forced.masked shown).verdict) ++
        (x.forced.masked shown).reportCompletion.2) = _
    rw [hforced, hverdict]
    rfl
  · rfl

theorem answerAll_masked (default : Answer) (t : Tracker) (ids : List VerifierId) :
    answerAll default (t.masked shown) ids =
      ((answerAll default t ids).1.masked shown, (answerAll default t ids).2) := by
  induction ids generalizing t with
  | nil => rfl
  | cons id ids ih =>
    rw [answerAll, Tracker.answer_masked, Tracker.answerNotices_masked, ih]
    rfl

theorem timeOut_masked (default : Answer) (now : Timestamp) :
    (x.masked shown).timeOut default now =
      ((x.timeOut default now).1.masked shown, (x.timeOut default now).2) := by
  have hstruck : ((x.struck default).masked shown).reportCompletion = _ :=
    reportCompletion_masked shown (x.struck default)
  have htracker : (x.masked shown).tracker = x.tracker.masked shown := rfl
  have hsilent : (x.masked shown).tracker.required.unanswered = x.tracker.required.unanswered := rfl
  rw [timeOut, hsilent, htracker, answerAll_masked]
  show (((x.struck default).masked shown).reportCompletion.1,
    _ ++ ((x.struck default).masked shown).reportCompletion.2) = _
  rw [hstruck]
  rfl

/-- A look at the clock strikes the same sessions, since neither the policy nor the check has a
deadline. -/
theorem strike_masked (default : Answer) (now : Timestamp) :
    (x.masked shown).strike default now =
      ((x.strike default now).1.masked shown, (x.strike default now).2) := by
  have hdue : (x.masked shown).isDue now = x.isDue now := rfl
  rw [strike, strike, hdue]
  split_ifs
  · exact x.timeOut_masked shown default now
  · rfl

end Session

/-! ## 3. Services behind the mask -/

namespace SessionTable

variable {f : Session → Session} (id_eq : ∀ x, (f x).id = x.id) (t : SessionTable)

theorem insert_map (x : Session) : (t.map f id_eq).insert (f x) = (t.insert x).map f id_eq := by
  refine ext_get? fun id => ?_
  rw [get?_insert, get?_map, get?_map, get?_insert, id_eq]
  split_ifs <;> rfl

theorem update_map (x : Session) : (t.map f id_eq).update (f x) = (t.update x).map f id_eq := by
  refine ext_get? fun id => ?_
  rw [get?_update, get?_map, get?_map, get?_update, Option.map_map, Option.map_map]
  congr 1
  funext y
  show (if (f y).id = (f x).id then f x else f y) = f (if y.id = x.id then x else y)
  rw [id_eq, id_eq, apply_ite f]

theorem erase_map (id : SessionId) : (t.map f id_eq).erase id = (t.erase id).map f id_eq := by
  refine ext_get? fun i => ?_
  rw [get?_erase, get?_map, get?_map, get?_erase]
  split_ifs <;> rfl

/-- A session may take the place of one from which only what the function leaves out tells it apart.
-/
theorem map_update_of_eq {x y : Session} (hx : t.get? x.id = some x) (hy : y.id = x.id)
    (hsame : f y = f x) : (t.update y).map f id_eq = t.map f id_eq := by
  refine ext_get? fun id => ?_
  rw [get?_map, get?_update, get?_map, Option.map_map]
  cases hz : t.get? id with
  | none => rfl
  | some z =>
    show some (f (if z.id = y.id then y else z)) = some (f z)
    split_ifs with hid
    · have hzx : z = x := by
        rw [← hy, ← hid, id_of_get? hz, hz] at hx
        exact Option.some.inj hx
      rw [hsame, hzx]
    · rfl

end SessionTable

namespace Request

def isIntegrity : Request → Bool
  | .recordIntegrity .. => true
  | _ => false

def isShown (shown : Bool) (r : Request) : Bool := shown || !r.isIntegrity

end Request

namespace Service

variable (shown : Bool) (s : Service)

@[simp] theorem get?_masked (id : SessionId) :
    (s.masked shown).sessions.get? id = (s.sessions.get? id).map (Session.masked shown) :=
  s.sessions.get?_map _ (Session.id_masked shown) id

/-- A change of a session that can be seen as a whole is one of the service that can be. -/
theorem change_masked {α : Type} (id : SessionId) {operation : Session → Change (Except Fault α)}
    {f : Except Fault α → Except Fault α} (hfault : ∀ fault, f (.error fault) = .error fault)
    (hoperation : ∀ x : Session, operation (x.masked shown) = (operation x).masked shown f) :
    (s.masked shown).change id operation = (s.change id operation).masked shown f := by
  rw [change, change, get?_masked]
  cases s.sessions.get? id with
  | none => exact congrArg (Outcome.mk · (s.masked shown) []) (hfault _).symm
  | some x =>
    have hupdate : (s.masked shown).sessions.update ((operation x).session.masked shown) =
        (s.sessions.update (operation x).session).map _ (Session.id_masked shown) :=
      s.sessions.update_map (Session.id_masked shown) (operation x).session
    rw [Option.map_some]
    simp only [hoperation, Change.masked, hupdate]
    rfl

theorem change_sure_masked {α : Type} (id : SessionId) {operation : Session → Change α} {f : α → α}
    (hoperation : ∀ x : Session, operation (x.masked shown) = (operation x).masked shown f) :
    (s.masked shown).change id (fun x => sure (operation x)) =
      (s.change id fun x => sure (operation x)).masked shown (Except.map f) := by
  refine s.change_masked shown id (fun _ => rfl) fun x => ?_
  rw [hoperation]
  rfl

theorem enroll_masked (id : SessionId) (roster : Roster) :
    (s.masked shown).enroll id roster = (s.enroll id roster).masked shown := by
  rw [enroll_eq, enroll_eq, Tracker.enrolled_masked]
  rfl

theorem start_masked (id : SessionId) (roster : Roster) (now : Timestamp) :
    (s.masked shown).start id roster now =
      (s.start id roster now).masked shown (Except.map fun deadline => deadline) := by
  have hasked : ((s.enroll id roster).masked shown).hasVerifiers =
      (s.enroll id roster).hasVerifiers := rfl
  have hfollowed : (s.masked shown).sessions.contains id = s.sessions.contains id := by
    rw [SessionTable.contains_eq, SessionTable.contains_eq, get?_masked, Option.isSome_map]
  let session : Session :=
    ⟨s.enroll id roster, now, now.later s.configuration.verificationTimeout, false, false⟩
  have hinsert : (s.masked shown).sessions.insert (session.masked shown) =
      (s.sessions.insert session).map _ (Session.id_masked shown) :=
    s.sessions.insert_map (Session.id_masked shown) session
  rw [start, start, enroll_masked, hasked, hfollowed]
  split_ifs
  · rfl
  · rfl
  · show Outcome.mk _ (Service.record { s.masked shown with
      sessions := (s.masked shown).sessions.insert (session.masked shown) } _) _ = _
    rw [hinsert]
    rfl

theorem finish_masked (id : SessionId) :
    (s.masked shown).finish id =
      (s.finish id).masked shown (Except.map (Summary.masked shown)) := by
  have herase : (s.masked shown).sessions.erase id =
      (s.sessions.erase id).map _ (Session.id_masked shown) :=
    s.sessions.erase_map (Session.id_masked shown) id
  rw [finish, finish, get?_masked]
  cases s.sessions.get? id with
  | none => rfl
  | some x =>
    rw [Option.map_some]
    simp only [Session.summary_masked, Session.verdict_masked, herase]
    rfl

theorem expire_masked (now : Timestamp) :
    (s.masked shown).expire now = (s.expire now).masked shown fun ids => ids := by
  have hdue : ((s.masked shown).sessions.toList.filter (·.isDue now)).map (·.id) =
      (s.sessions.toList.filter (·.isDue now)).map (·.id) := by
    show ((s.sessions.toList.map (Session.masked shown)).filter (·.isDue now)).map (·.id) = _
    rw [List.filter_map, List.map_map]
    rfl
  have htraces :
      ((s.masked shown).sessions.toList.map
          fun x => (x.strike (s.masked shown).defaultAnswer now).2) =
        s.sessions.toList.map fun x => (x.strike s.defaultAnswer now).2 := by
    show (s.sessions.toList.map (Session.masked shown)).map _ = _
    rw [List.map_map]
    refine List.map_congr_left fun x _ => ?_
    show ((x.masked shown).strike s.defaultAnswer now).2 = _
    rw [Session.strike_masked]
  -- Tables are compared session by session, and each is struck alike behind the mask.
  have hsessions :
      (s.masked shown).sessions.map (fun x => (x.strike (s.masked shown).defaultAnswer now).1)
          (fun x => x.id_strike (s.masked shown).defaultAnswer now) =
        (s.sessions.map (fun x => (x.strike s.defaultAnswer now).1)
          fun x => x.id_strike s.defaultAnswer now).map _ (Session.id_masked shown) := by
    refine SessionTable.ext_get? fun id => ?_
    rw [SessionTable.get?_map, get?_masked, SessionTable.get?_map, SessionTable.get?_map,
      Option.map_map, Option.map_map]
    congr 1
    funext x
    show ((x.masked shown).strike s.defaultAnswer now).1 = _
    rw [Session.strike_masked]
    rfl
  rw [expire, expire]
  simp only [hdue, htraces, hsessions]
  rfl

/-! ## 4. Requests -/

theorem map_masked {α : Type} (o : Outcome (Except Fault α)) {f : α → α} {reply : α → Reply}
    (hreply : ∀ a, reply (f a) = (reply a).masked shown) :
    (o.masked shown (Except.map f)).map (Except.map reply) =
      (o.map (Except.map reply)).masked shown (Except.map (Reply.masked shown)) := by
  obtain ⟨result, service, notices⟩ := o
  cases result with
  | error fault => rfl
  | ok a =>
    exact congrArg (Outcome.mk · (service.masked shown) notices) (congrArg Except.ok (hreply a))

/-- What is asked and told can be seen behind the mask, apart from an integrity check that is not
shown. -/
theorem handle_masked {r : Request} (hr : r.isShown shown = true) :
    (s.masked shown).handle r =
      (s.handle r).masked shown (Except.map (Reply.masked shown)) := by
  cases r with
  | start id roster now =>
    rw [handle, start_masked]
    exact map_masked shown _ fun _ => rfl
  | respond id v a =>
    have hchange : (s.masked shown).respond id v a =
        (s.respond id v a).masked shown (Except.map (ResponseOutcome.masked shown)) :=
      s.change_sure_masked shown id fun x => x.respond_masked shown v a
    rw [handle, hchange]
    exact map_masked shown _ fun _ => rfl
  | extend id v ms now =>
    have hchange : (s.masked shown).extend id v ms now =
        (s.extend id v ms now).masked shown (Except.map fun granted => granted) := by
      have hlimit : (s.masked shown).configuration.maxExtension = s.configuration.maxExtension :=
        rfl
      rw [extend, extend, hlimit]
      split_ifs
      · rfl
      · exact s.change_sure_masked shown id fun x => x.extend_masked shown v ms now
    rw [handle, hchange]
    exact map_masked shown _ fun _ => rfl
  | recordIntegrity id a =>
    -- A check that is not shown is not among the requests here.
    obtain rfl : shown = true := by simpa [Request.isShown, Request.isIntegrity] using hr
    have hchange : (s.masked true).recordIntegrity id a =
        (s.recordIntegrity id a).masked true (Except.map fun allComplete => allComplete) :=
      s.change_sure_masked true id fun x => x.recordIntegrity_masked a
    rw [handle, hchange]
    exact map_masked true _ fun _ => rfl
  | forceRequired id =>
    have hchange : (s.masked shown).forceRequired id =
        (s.forceRequired id).masked shown (Except.map fun verdict => verdict) :=
      s.change_masked shown id (fun _ => rfl) (Session.forceRequired_masked shown)
    rw [handle, hchange]
    exact map_masked shown _ fun _ => rfl
  | expire now =>
    rw [handle, expire_masked, handle]
    rfl
  | finish id =>
    rw [handle, finish_masked]
    exact map_masked shown _ fun _ => rfl
  | drain => rfl

/-- An integrity check that is not shown changes nothing that can be seen, nor adds an event. -/
theorem service_recordIntegrity_masked (id : SessionId) (a : Answer) :
    (s.handle (.recordIntegrity id a)).service.masked false = s.masked false := by
  show (s.change id fun x => sure (x.recordIntegrity a)).service.masked false = _
  rw [change]
  cases hx : s.sessions.get? id with
  | none => rfl
  | some x =>
    have hown : s.sessions.get? x.id = some x := by rw [SessionTable.id_of_get? hx, hx]
    have hsessions : (s.sessions.update (x.recordIntegrity a).session).map _
        (Session.id_masked false) = s.sessions.map _ (Session.id_masked false) :=
      SessionTable.map_update_of_eq _ s.sessions hown rfl rfl
    show Service.mk _ ((s.sessions.update (x.recordIntegrity a).session).map _ _)
      (s.events ++ []) _ = _
    rw [hsessions, List.append_nil]
    rfl

/-! ## 5. Runs -/

/-- A request that is not shown changes nothing that can be seen. -/
theorem service_masked_of_not_isShown {r : Request} (hr : r.isShown shown = false) :
    (s.handle r).service.masked shown = s.masked shown := by
  obtain ⟨rfl, hintegrity⟩ : shown = false ∧ r.isIntegrity = true := by
    simpa [Request.isShown] using hr
  cases r with
  | recordIntegrity id a => exact s.service_recordIntegrity_masked id a
  | _ => cases hintegrity

/-- Behind the mask a run comes to the same as the part of it that is shown. -/
theorem after_masked (rs : List Request) :
    (s.after rs).masked shown = (s.masked shown).after (rs.filter (·.isShown shown)) := by
  induction rs generalizing s with
  | nil => rfl
  | cons r rs ih =>
    cases hr : r.isShown shown with
    | true =>
      rw [List.filter_cons_of_pos hr, after_cons, after_cons, handle_masked shown s hr, ih]
      rfl
    | false =>
      rw [List.filter_cons_of_neg (by simp [hr]), after_cons, ih,
        s.service_masked_of_not_isShown shown hr]

/-- The requests of a run that are shown, each with as much of its reply as can be seen. -/
def disclosed (rs : List Request) : List Exchange :=
  ((rs.zip (s.replies rs)).filter (·.1.isShown shown)).map
    fun e => (e.1, e.2.map (Reply.masked shown))

theorem disclosed_cons_of_isShown {r : Request} (hr : r.isShown shown = true)
    (rs : List Request) :
    s.disclosed shown (r :: rs) =
      (r, (s.handle r).result.map (Reply.masked shown)) ::
        (s.handle r).service.disclosed shown rs := by
  rw [disclosed, replies_cons, List.zip_cons_cons, List.filter_cons_of_pos (by exact hr),
    List.map_cons, disclosed]

theorem disclosed_cons_of_not_isShown {r : Request} (hr : r.isShown shown = false)
    (rs : List Request) :
    s.disclosed shown (r :: rs) = (s.handle r).service.disclosed shown rs := by
  rw [disclosed, replies_cons, List.zip_cons_cons, List.filter_cons_of_neg (by simp [hr]),
    disclosed]

theorem disclosed_masked (rs : List Request) :
    s.disclosed shown rs =
      (rs.filter (·.isShown shown)).zip
        ((s.masked shown).replies (rs.filter (·.isShown shown))) := by
  induction rs generalizing s with
  | nil => rfl
  | cons r rs ih =>
    cases hr : r.isShown shown with
    | true =>
      rw [disclosed_cons_of_isShown shown s hr, ih, List.filter_cons_of_pos hr, replies_cons,
        handle_masked shown s hr]
      rfl
    | false =>
      rw [disclosed_cons_of_not_isShown shown s hr, ih, List.filter_cons_of_neg (by simp [hr]),
        s.service_masked_of_not_isShown shown hr]

/-- The replies can be seen in full when the integrity checks are shown. -/
theorem replies_unmasked (rs : List Request) : (s.masked true).replies rs = s.replies rs := by
  induction rs generalizing s with
  | nil => rfl
  | cons r rs ih =>
    have hreply : (s.handle r).result.map (Reply.masked true) = (s.handle r).result := by
      cases (s.handle r).result with
      | error fault => rfl
      | ok reply => cases reply <;> rfl
    rw [replies_cons, replies_cons, handle_masked true s rfl]
    exact congrArg₂ List.cons hreply (ih _)

/-- An integrity check adds no event, so the events of a run can be seen in full. -/
theorem emittedAll_masked (rs : List Request) :
    s.emittedAll rs = (s.masked shown).emittedAll (rs.filter (·.isShown shown)) := by
  induction rs generalizing s with
  | nil => rfl
  | cons r rs ih =>
    have hcleared : s.cleared.masked shown = (s.masked shown).cleared := rfl
    cases hr : r.isShown shown with
    | true =>
      have hemitted : s.emitted r = (s.masked shown).emitted r := by
        rw [emitted, emitted, ← hcleared, handle_masked shown _ hr]
        rfl
      rw [emittedAll, ih, hemitted, List.filter_cons_of_pos hr, emittedAll,
        handle_masked shown s hr]
      rfl
    | false =>
      have hemitted : s.emitted r = [] :=
        congrArg Service.events (s.cleared.service_masked_of_not_isShown shown hr)
      rw [emittedAll, ih, hemitted, List.filter_cons_of_neg (by simp [hr]),
        s.service_masked_of_not_isShown shown hr, List.nil_append]

theorem reported_masked (rs : List Request) :
    s.reported rs = (s.masked shown).reported (rs.filter (·.isShown shown)) := by
  rw [reported_eq, reported_eq, s.emittedAll_masked shown rs]
  rfl

@[simp] theorem nextDeadline_masked : (s.masked shown).nextDeadline = s.nextDeadline := by
  show (s.sessions.toList.map (Session.masked shown)).foldl _ _ = s.sessions.toList.foldl _ _
  rw [List.foldl_map]
  rfl

theorem summaries_masked :
    (s.masked shown).sessions.toList.map Session.summary =
      s.sessions.toList.map fun x => x.summary.masked shown := by
  show (s.sessions.toList.map (Session.masked shown)).map _ = _
  rw [List.map_map]
  exact List.map_congr_left fun x _ => x.summary_masked shown

/-- Whether the result of an integrity check is taken can be seen, if not what it is. -/
theorem recordIntegrity_taken (id : SessionId) (a : Answer) :
    (s.recordIntegrity id a).result.map (fun _ => ()) =
      ((s.masked false).sessions.get? id).elim (.error (.unknownSession id)) fun _ => .ok () := by
  rw [get?_masked, recordIntegrity, change]
  cases s.sessions.get? id <;> rfl

end Service

/-- Two services that differ in the policy and the log settings at most, after two runs that differ
in their integrity checks at most: all else that is asked is answered and reported alike, but for
whether everything is complete and for what the checks came to, and in all else the two stand alike.
This is so at all corresponding points, since such runs stop at any of them. Where the checks are
the same as well nothing differs at all. -/
theorem decisions_ignore_policy_and_integrity (c : Configuration) (policy : PendingPolicy)
    (format : LogFormat) (level : String) {rs rs' : List Request}
    (hrs : rs'.filter (!·.isIntegrity) = rs.filter (!·.isIntegrity)) :
    let s := Service.new c
    let s' :=
      Service.new { c with pendingPolicy := policy, logFormat := format, logLevel := level }
    (s'.disclosed false rs' = s.disclosed false rs ∧
      s'.reported rs' = s.reported rs ∧
      (s'.after rs').events = (s.after rs).events ∧
      (s'.after rs').totals = (s.after rs).totals ∧
      (s'.after rs').nextDeadline = (s.after rs).nextDeadline ∧
      ((s'.after rs').sessions.toList.map fun x => x.summary.masked false) =
        (s.after rs).sessions.toList.map fun x => x.summary.masked false) ∧
    (∀ id a a',
      ((s'.after rs').recordIntegrity id a').result.map (fun _ => ()) =
        ((s.after rs).recordIntegrity id a).result.map fun _ => ()) ∧
    s'.replies rs = s.replies rs ∧
    (s'.after rs).sessions.toList.map Session.summary =
      (s.after rs).sessions.toList.map Session.summary := by
  intro s s'
  -- Behind the mask both services begin as one, and the two runs show the same requests.
  have hnew : ∀ shown, s'.masked shown = s.masked shown := fun _ => rfl
  have hafter : (s'.after rs').masked false = (s.after rs).masked false := by
    rw [Service.after_masked, Service.after_masked, hnew]
    exact congrArg _ hrs
  have hunmasked : ∀ s : Service, (s.masked true).sessions.toList.map Session.summary =
      s.sessions.toList.map Session.summary := fun s => s.summaries_masked true
  refine ⟨⟨?_, ?_, ?_, ?_, ?_, ?_⟩, ?_, ?_, ?_⟩
  · rw [Service.disclosed_masked, Service.disclosed_masked, hnew]
    exact congrArg (fun qs => qs.zip ((s.masked false).replies qs)) hrs
  · rw [s'.reported_masked false, s.reported_masked false, hnew]
    exact congrArg _ hrs
  · show ((s'.after rs').masked false).events = _
    rw [hafter]
    rfl
  · show ((s'.after rs').masked false).totals = _
    rw [hafter]
    rfl
  · rw [← (s'.after rs').nextDeadline_masked false, hafter, Service.nextDeadline_masked]
  · rw [← Service.summaries_masked, hafter, Service.summaries_masked]
  · intro id a a'
    rw [Service.recordIntegrity_taken, Service.recordIntegrity_taken, hafter]
  · rw [← s'.replies_unmasked rs, hnew, Service.replies_unmasked]
  · rw [← hunmasked, Service.after_masked, hnew, ← Service.after_masked, hunmasked]

/-- A session under either policy, with an integrity check in the second run only, which the summary
shows: to the deadline and beyond it the two fare alike. -/
theorem decisions_ignore_policy_and_integrity_of_time_out :
    let s := Service.new .default
    let s' := Service.new { Configuration.default with pendingPolicy := .permissive }
    let rs : List Request :=
      [.start ⟨1⟩ [(⟨5⟩, .required), (⟨6⟩, .optional)] ⟨0⟩, .respond ⟨1⟩ ⟨6⟩ .allow,
        .extend ⟨1⟩ ⟨5⟩ 20000 ⟨0⟩, .expire ⟨20000⟩]
    let rs' : List Request := .recordIntegrity ⟨1⟩ .allow :: rs ++ [.recordIntegrity ⟨1⟩ .reject]
    rs'.filter (!·.isIntegrity) = rs.filter (!·.isIntegrity) ∧
      s'.disclosed false rs' = s.disclosed false rs ∧
      s'.reported rs' = s.reported rs ∧
      (s'.after rs').totals = (s.after rs).totals ∧
      (s'.after rs').sessions.toList.map (·.summary.integrityResult) = [some .reject] ∧
      (s.after rs).sessions.toList.map (·.summary.integrityResult) = [none] := by
  intro s s' rs rs'
  have hsame : rs'.filter (!·.isIntegrity) = rs.filter (!·.isIntegrity) := by decide
  have hindifferent := decisions_ignore_policy_and_integrity .default .permissive
    Configuration.default.logFormat Configuration.default.logLevel hsame
  obtain ⟨⟨hdisclosed, hreported, -, htotals, -, -⟩, -⟩ := hindifferent
  exact ⟨hsame, hdisclosed, hreported, htotals, by decide, by decide⟩

end PackageVerification
