import PackageVerification.Proofs.Decision

/-!
# What a verdict says

The history of a session: who answered what in time, whether the required axis was forced, whether
the session timed out. The verdict is determined by it, and this is how. Main statements:
`Lifetime.account`, a session sums up its history; `verdict_of_history`, the verdict in terms of the
history.
-/

namespace PackageVerification

/-! ## 1. Histories -/

def Answers.firsts (xs : Answers) : Answers :=
  xs.foldl (fun heard x => if x.1 ∈ heard.ids then heard else heard ++ [x]) []

/-- One more answer counts if its verifier has not answered before. -/
theorem Answers.firsts_concat (xs : Answers) (x : VerifierId × Answer) :
    Answers.firsts (xs ++ [x]) =
      if x.1 ∈ xs.firsts.ids then xs.firsts else xs.firsts ++ [x] := by
  rw [firsts, List.foldl_append]
  rfl

namespace Exchange

def strikes (id : SessionId) : Exchange → Bool
  | (.expire _, .ok (.expired ids)) => id ∈ ids
  | _ => false

def forces (id : SessionId) : Exchange → Bool
  | (.forceRequired id', .ok _) => id' = id
  | _ => false

def answer? (id : SessionId) : Exchange → Option (VerifierId × Answer)
  | (.respond id' verifier answer, _) => if id' = id then some (verifier, answer) else none
  | _ => none

end Exchange

namespace Lifetime

variable {c : Configuration} {id : SessionId}

def TimedOut (l : Lifetime c id) : Prop := ∃ e ∈ l.exchanges, e.strikes id = true

def Forced (l : Lifetime c id) : Prop := ∃ e ∈ l.exchanges, e.forces id = true

def inTime (l : Lifetime c id) : Answers :=
  (l.exchanges.takeWhile (!·.strikes id)).filterMap (·.answer? id)

def answers (l : Lifetime c id) : Answers := l.inTime.firsts

theorem timedOut_goOn (l : Lifetime c id) {r : Request} (hr : r ≠ .finish id) :
    (l.goOn r hr).TimedOut ↔
      l.TimedOut ∨ Exchange.strikes id (r, (l.service.handle r).result) = true := by
  simp only [TimedOut, exchanges_goOn, List.mem_append, List.mem_singleton, or_and_right, exists_or,
    exists_eq_left]

theorem forced_goOn (l : Lifetime c id) {r : Request} (hr : r ≠ .finish id) :
    (l.goOn r hr).Forced ↔
      l.Forced ∨ Exchange.forces id (r, (l.service.handle r).result) = true := by
  simp only [Forced, exchanges_goOn, List.mem_append, List.mem_singleton, or_and_right, exists_or,
    exists_eq_left]

theorem inTime_goOn_of_timedOut (l : Lifetime c id) {r : Request} (hr : r ≠ .finish id)
    (h : l.TimedOut) : (l.goOn r hr).inTime = l.inTime := by
  obtain ⟨e, he, hstrikes⟩ := h
  rw [inTime, exchanges_goOn, takeWhile_append_of_exists ⟨e, he, by simp [hstrikes]⟩, inTime]

/-- Until the time-out each answer to the session comes in time. -/
theorem inTime_goOn (l : Lifetime c id) {r : Request} (hr : r ≠ .finish id) (h : ¬l.TimedOut) :
    (l.goOn r hr).inTime =
      l.inTime ++ (Exchange.answer? id (r, (l.service.handle r).result)).toList := by
  have hall : ∀ e ∈ l.exchanges, (!e.strikes id) = true := by
    intro e he
    rw [Bool.not_eq_true', ← Bool.not_eq_true]
    exact fun hstrikes => h ⟨e, he, hstrikes⟩
  rw [inTime, exchanges_goOn, List.takeWhile_append_of_pos hall, inTime,
    List.takeWhile_eq_self_iff.2 hall, List.filterMap_append]
  congr 1
  cases r with
  | expire now =>
    -- An expiry is no answer, whether it ends the stretch or not.
    rw [List.takeWhile_cons]
    split <;> rfl
  | respond id' v a =>
    by_cases hid : id' = id <;> simp [Exchange.strikes, Exchange.answer?, hid]
  | _ => rfl

/-- After the time-out no answer counts. -/
theorem answers_goOn_of_timedOut (l : Lifetime c id) {r : Request} (hr : r ≠ .finish id)
    (h : l.TimedOut) : (l.goOn r hr).answers = l.answers := by
  rw [answers, inTime_goOn_of_timedOut l hr h, answers]

theorem answers_goOn_of_no_answer (l : Lifetime c id) {r : Request} (hr : r ≠ .finish id)
    (h : Exchange.answer? id (r, (l.service.handle r).result) = none) :
    (l.goOn r hr).answers = l.answers := by
  by_cases htimedOut : l.TimedOut
  · exact l.answers_goOn_of_timedOut hr htimedOut
  · rw [answers, inTime_goOn l hr htimedOut, h, Option.toList_none, List.append_nil, answers]

/-! ## 2. What a session sums up -/

/-- The answers that a time-out counts: each required verifier that had not answered is taken to
give the default answer. -/
structure Silent (l : Lifetime c id) (ds : Answers) : Prop where
  default : ∀ d ∈ ds, d.2 = c.silentAnswer
  ids : ∀ v, v ∈ ds.ids ↔ l.TimedOut ∧ v ∈ l.roster.ids .required ∧ v ∉ l.answers.ids

/-- A session sums up its history. -/
structure Account (l : Lifetime c id) : Prop where
  timedOut : l.session.timedOut = true ↔ l.TimedOut
  heard : ∃ ds, l.Silent ds ∧ l.session.tracker.Heard l.roster l.Forced (l.answers ++ ds)

theorem silent_nil {l : Lifetime c id} (h : ¬l.TimedOut) : l.Silent [] := by
  refine ⟨List.forall_mem_nil _, fun v => iff_of_false List.not_mem_nil fun hv => h hv.1⟩

theorem Silent.eq_nil {l : Lifetime c id} {ds : Answers} (h : l.Silent ds) (hnot : ¬l.TimedOut) :
    ds = [] := by
  rw [List.eq_nil_iff_forall_not_mem]
  intro d hd
  exact hnot ((h.ids d.1).1 (Answers.mem_ids.2 ⟨d, hd, rfl⟩)).1

theorem account_begun {l : Lifetime c id} (hl : l.since = []) : l.Account := by
  have htimedOut : ¬l.TimedOut := by simp [TimedOut, exchanges_begun hl]
  have hforced : ¬l.Forced := by simp [Forced, exchanges_begun hl]
  have hanswers : l.answers = [] := by
    rw [answers, inTime, exchanges_begun hl]
    rfl
  have hsession : l.session = l.first := by
    rw [session, hl]
    rfl
  refine ⟨?_, [], silent_nil htimedOut, ?_⟩
  · rw [hsession]
    exact iff_of_false Bool.false_ne_true htimedOut
  · rw [hsession, hanswers, eq_false hforced]
    exact .enrolled id c.pendingPolicy l.roster

/-- A request that leaves alone what the session sums up. -/
theorem Account.goOn_of_same {l : Lifetime c id} (h : l.Account) {r : Request}
    (hr : r ≠ .finish id)
    (hstrikes : Exchange.strikes id (r, (l.service.handle r).result) = false)
    (hforces : Exchange.forces id (r, (l.service.handle r).result) = false)
    (hanswers : (l.goOn r hr).answers = l.answers)
    (htimedOut : (l.session.react c r).1.timedOut = l.session.timedOut)
    (hrequired : (l.session.react c r).1.tracker.required = l.session.tracker.required)
    (hoptional : (l.session.react c r).1.tracker.optional = l.session.tracker.optional)
    (hsufficient : (l.session.react c r).1.tracker.sufficient = l.session.tracker.sufficient) :
    (l.goOn r hr).Account := by
  have htimedOut' : (l.goOn r hr).TimedOut ↔ l.TimedOut := by simp [timedOut_goOn, hstrikes]
  have hforced' : (l.goOn r hr).Forced = l.Forced := by simp [forced_goOn, hforces]
  obtain ⟨ds, hsilent, hheard⟩ := h.heard
  refine ⟨?_, ds, ⟨hsilent.default, ?_⟩, ?_⟩
  · rw [session_goOn, htimedOut, h.timedOut, htimedOut']
  · rw [htimedOut', hanswers]
    exact hsilent.ids
  · rw [session_goOn, hforced', hanswers]
    exact ⟨hheard.distinct, hrequired ▸ hheard.required, hoptional ▸ hheard.optional,
      hsufficient ▸ hheard.sufficient⟩

/-- An answer counts once, and not at all after the time-out. -/
theorem Account.goOn_respond {l : Lifetime c id} (h : l.Account) {verifier : VerifierId}
    {answer : Answer} (hr : Request.respond id verifier answer ≠ .finish id) :
    (l.goOn (.respond id verifier answer) hr).Account := by
  have hreact : l.session.react c (.respond id verifier answer) =
      (l.session.respond verifier answer).effect := if_pos l.id_session.symm
  rcases l.session.respond_cases verifier answer with
    ⟨htimedOut, hsession, -⟩ | ⟨htimedOut, hsession, -⟩
  · refine h.goOn_of_same hr rfl rfl (answers_goOn_of_timedOut l hr (h.timedOut.1 htimedOut))
      ?_ ?_ ?_ ?_ <;> rw [hreact, Change.effect, hsession]
  -- In time nobody is silent yet, so what was heard are the answers alone.
  · have hnot : ¬l.TimedOut := by
      rw [← h.timedOut, htimedOut]
      exact Bool.false_ne_true
    have hnot' : ¬(l.goOn _ hr).TimedOut := by
      rw [timedOut_goOn]
      exact not_or.2 ⟨hnot, Bool.false_ne_true⟩
    have hforced : (l.goOn _ hr).Forced = l.Forced := by
      simp [forced_goOn, Exchange.forces]
    have hanswers : (l.goOn _ hr).answers =
        if verifier ∈ l.answers.ids then l.answers else l.answers ++ [(verifier, answer)] := by
      have hanswer : ∀ reply, Exchange.answer? id (.respond id verifier answer, reply) =
          some (verifier, answer) := fun reply => if_pos rfl
      rw [answers, inTime_goOn l hr hnot, hanswer, Option.toList_some, Answers.firsts_concat,
        ← answers]
    obtain ⟨ds, hsilent, hheard⟩ := h.heard
    rw [hsilent.eq_nil hnot, List.append_nil] at hheard
    refine ⟨?_, [], silent_nil hnot', ?_⟩
    · rw [session_goOn, hreact, Change.effect, hsession, Session.timedOut_reportCompletion]
      exact iff_of_false (fun ht => absurd (htimedOut.symm.trans ht) Bool.false_ne_true) hnot'
    · rw [session_goOn, hreact, Change.effect, hsession, Session.tracker_reportCompletion, hforced,
        List.append_nil, hanswers]
      show (l.session.tracker.answer verifier answer).2.Heard _ _ _
      split_ifs with hin
      · rw [hheard.answer_again hin]
        exact hheard
      · exact hheard.answer hin answer

/-- An override counts if it is granted, which takes that nobody is silent. -/
theorem Account.goOn_forceRequired {l : Lifetime c id} (h : l.Account)
    (hr : Request.forceRequired id ≠ .finish id) : (l.goOn (.forceRequired id) hr).Account := by
  have hreact : l.session.react c (.forceRequired id) = l.session.forceRequired.effect :=
    if_pos l.id_session.symm
  have hresult : (l.service.handle (.forceRequired id)).result =
      l.session.forceRequired.result.map Reply.forced :=
    congrArg (Except.map Reply.forced)
      (l.service.result_change l.get?_service Session.forceRequired)
  have hanswers := answers_goOn_of_no_answer l hr rfl
  rcases l.session.forceRequired_cases with
    ⟨⟨_, hfault⟩, hsession, -⟩ | ⟨⟨_, hok⟩, hopen, hnone, hsession, -⟩
  · refine h.goOn_of_same hr rfl ?_ hanswers ?_ ?_ ?_ ?_
    · rw [hresult, hfault]
      rfl
    all_goals rw [hreact, Change.effect, hsession]
  · have hforced : (l.goOn _ hr).Forced := by
      rw [forced_goOn, hresult, hok]
      exact .inr (decide_eq_true rfl)
    have htimedOut : (l.goOn _ hr).TimedOut ↔ l.TimedOut := by
      rw [timedOut_goOn]
      exact or_iff_left Bool.false_ne_true
    obtain ⟨ds, hsilent, hheard⟩ := h.heard
    have hall := hheard.required.isEmpty_unanswered.1 hnone
    -- The override adds no answer: it passes the axis for those who are in.
    refine ⟨?_, ds, ⟨hsilent.default, ?_⟩, ?_⟩
    · rw [session_goOn, hreact, Change.effect, hsession, Session.timedOut_reportCompletion,
        htimedOut]
      exact h.timedOut
    · rw [htimedOut, hanswers]
      exact hsilent.ids
    · rw [session_goOn, hreact, Change.effect, hsession, Session.tracker_reportCompletion, hanswers,
        eq_true hforced]
      exact ⟨hheard.distinct, hheard.required.force hall, hheard.optional, hheard.sufficient⟩

/-- A time-out counts the default answer for everybody who is silent. -/
theorem Account.goOn_expire {l : Lifetime c id} (h : l.Account) {now : Timestamp}
    (hr : Request.expire now ≠ .finish id) : (l.goOn (.expire now) hr).Account := by
  have hstrikes : Exchange.strikes id (.expire now, (l.service.handle (.expire now)).result) =
      decide (id ∈ (l.service.expire now).result) := rfl
  have hdue := l.service.mem_result_expire l.get?_service now
  have hanswers := answers_goOn_of_no_answer l hr rfl
  by_cases hd : l.session.isDue now = true
  · have htimedOut : (l.goOn _ hr).TimedOut := by
      rw [timedOut_goOn, hstrikes, decide_eq_true (hdue.2 hd)]
      exact .inr rfl
    have hforced : (l.goOn _ hr).Forced = l.Forced := by
      simp [forced_goOn, Exchange.forces]
    have hreact : l.session.react c (.expire now) = l.session.timeOut c.silentAnswer now :=
      if_pos hd
    have hnot : ¬l.TimedOut := by
      rw [Session.isDue, Bool.and_eq_true] at hd
      rw [← h.timedOut, (Session.isOpen_iff.1 hd.1).1]
      exact Bool.false_ne_true
    obtain ⟨ds, hsilent, hheard⟩ := h.heard
    rw [hsilent.eq_nil hnot, List.append_nil] at hheard
    -- Everybody on the required axis who has not answered.
    let silent := l.session.tracker.required.unanswered
    have hmem : ∀ v, v ∈ silent.toList ↔ v ∈ l.roster.ids .required ∧ v ∉ l.answers.ids :=
      hheard.required.unanswered
    have hids : Answers.ids (silent.toList.map (·, c.silentAnswer)) = silent.toList := by
      rw [Answers.ids, List.map_map]
      exact List.map_id _
    -- Who is silent has not answered, so nobody is heard twice.
    have hdistinct : (Answers.ids (l.answers ++ silent.toList.map (·, c.silentAnswer))).Nodup := by
      rw [Answers.ids_append, hids, List.nodup_append]
      refine ⟨hheard.distinct, silent.nodup, fun v hv w hw hvw => ?_⟩
      exact ((hmem w).1 hw).2 (hvw ▸ hv)
    refine ⟨?_, silent.toList.map (·, c.silentAnswer), ⟨?_, fun v => ?_⟩, ?_⟩
    · rw [session_goOn, hreact, (Session.timeOut_eq _ _ _).1, Session.timedOut_reportCompletion]
      exact iff_of_true rfl htimedOut
    · intro d hd
      obtain ⟨v, -, rfl⟩ := List.mem_map.1 hd
      rfl
    · rw [hids, hmem, hanswers]
      exact (and_iff_right htimedOut).symm
    · rw [session_goOn, hreact, (Session.timeOut_eq _ _ _).1, Session.tracker_reportCompletion,
        Session.struck, Session.answerAll_eq_hear, hforced, hanswers]
      exact hheard.hear hdistinct
  · have hreact : l.session.react c (.expire now) = (l.session, .empty) := if_neg hd
    refine h.goOn_of_same hr ?_ rfl hanswers ?_ ?_ ?_ ?_
    · rw [hstrikes]
      exact decide_eq_false (mt hdue.1 hd)
    all_goals rw [hreact]

/-- Throughout its lifetime a session is what its history makes of it. -/
theorem account (l : Lifetime c id) : l.Account := by
  induction l using induction with
  | begun l hl => exact account_begun hl
  | goes_on l r hr ih =>
    -- Where a request is about another session nothing happens to this one.
    have hother : ∀ id', id' ≠ id → id' ≠ l.session.id := fun id' hid h =>
      hid (h.trans l.id_session)
    cases r with
    | start | finish | drain =>
      exact ih.goOn_of_same hr rfl rfl (answers_goOn_of_no_answer l hr rfl) rfl rfl rfl rfl
    | respond id' v a =>
      by_cases hid : id' = id
      · subst hid
        exact ih.goOn_respond hr
      · have hnone := answers_goOn_of_no_answer l hr (if_neg hid)
        refine ih.goOn_of_same hr rfl rfl hnone ?_ ?_ ?_ ?_ <;>
          rw [Session.react, if_neg (hother id' hid)]
    | extend id' v ms now =>
      have hsame := l.session.extend_cases v ms now
      refine ih.goOn_of_same hr rfl rfl (answers_goOn_of_no_answer l hr rfl) ?_ ?_ ?_ ?_ <;>
        rw [Session.react] <;> split_ifs <;> try rfl
      all_goals
        rw [Change.effect]
        rcases hsame with ⟨hsession, -⟩ | ⟨-, -, _, hsession, -⟩ <;> rw [hsession] <;> rfl
    | recordIntegrity id' a =>
      refine ih.goOn_of_same hr rfl rfl (answers_goOn_of_no_answer l hr rfl) ?_ ?_ ?_ ?_ <;>
        rw [Session.react] <;> split_ifs <;> rfl
    | forceRequired id' =>
      by_cases hid : id' = id
      · subst hid
        exact ih.goOn_forceRequired hr
      · refine ih.goOn_of_same hr rfl ?_ (answers_goOn_of_no_answer l hr rfl) ?_ ?_ ?_ ?_
        · cases (l.service.handle (.forceRequired id')).result with
          | error => rfl
          | ok => exact decide_eq_false hid
        all_goals rw [Session.react, if_neg (hother id' hid)]
    | expire now => exact ih.goOn_expire hr

/-- While a session waits it has heard the answers, and nothing else. -/
theorem heard_of_isOpen (l : Lifetime c id) (h : l.session.isOpen = true) :
    l.session.tracker.Heard l.roster l.Forced l.answers := by
  obtain ⟨htimedOut, ds, hsilent, hheard⟩ := l.account
  have hnot : ¬l.TimedOut := by
    rw [← htimedOut, (Session.isOpen_iff.1 h).1]
    exact Bool.false_ne_true
  rwa [hsilent.eq_nil hnot, List.append_nil] at hheard

end Lifetime

/-! ## 3. The verdict -/

/-- A time-out never waives the pool. -/
theorem Configuration.silentAnswer_ne (c : Configuration) :
    c.silentAnswer ≠ .allowWithoutSufficient := by
  rw [silentAnswer, Service.defaultAnswer]
  split
  · simp
  · rename_i hne
    exact hne

theorem Configuration.isAffirmative_silentAnswer (c : Configuration) :
    c.silentAnswer.isAffirmative = true ↔
      c.defaultAnswer = .allow ∨ c.defaultAnswer = .allowWithoutSufficient := by
  have hconfiguration : (Service.new c).configuration = c := rfl
  rw [silentAnswer, Service.defaultAnswer, hconfiguration]
  cases c.defaultAnswer <;> simp [Answer.isAffirmative]

theorem Session.verdict_eq_allowed_iff (x : Session) :
    x.verdict = .allowed ↔ x.tracker.verdict = .allowed := by
  rw [verdict]
  split_ifs with h
  · simp [h.1]
  · rfl

/-- A time-out ends the waiting, whoever is silent. -/
theorem Session.verdict_eq_pending_iff (x : Session) :
    x.verdict = .pending ↔ x.timedOut = false ∧ x.tracker.verdict = .pending := by
  rw [verdict]
  cases x.timedOut <;> cases x.tracker.verdict <;> simp

namespace Lifetime.Silent

variable {c : Configuration} {id : SessionId} {l : Lifetime c id} {ds : Answers}

theorem mem_required (h : l.Silent ds) {d : VerifierId × Answer} (hd : d ∈ ds) :
    d.1 ∈ l.roster.ids .required :=
  ((h.ids d.1).1 (Answers.mem_ids.2 ⟨d, hd, rfl⟩)).2.1

/-- Every required verifier allows the install, by its own answer or by the default one. -/
theorem requiredAllow_iff (h : l.Silent ds) :
    l.roster.RequiredAllow (l.answers ++ ds) ↔
      ∀ v ∈ l.roster.ids .required,
        (∃ a, (v, a) ∈ l.answers ∧ a.isAffirmative = true) ∨
          (v ∉ l.answers.ids ∧ l.TimedOut ∧ c.silentAnswer.isAffirmative = true) := by
  apply forall₂_congr
  intro v hv
  constructor
  · rintro ⟨⟨w, a⟩, hx, rfl, ha⟩
    rcases List.mem_append.1 hx with hx | hx
    · exact .inl ⟨a, hx, ha⟩
    · obtain ⟨htimedOut, -, hsilent⟩ := (h.ids w).1 (Answers.mem_ids.2 ⟨_, hx, rfl⟩)
      exact .inr ⟨hsilent, htimedOut, h.default _ hx ▸ ha⟩
  · rintro (⟨a, hx, ha⟩ | ⟨hsilent, htimedOut, ha⟩)
    · exact ⟨(v, a), List.mem_append_left _ hx, rfl, ha⟩
    · obtain ⟨d, hd, rfl⟩ := Answers.mem_ids.1 ((h.ids v).2 ⟨htimedOut, hv, hsilent⟩)
      exact ⟨d, List.mem_append_right _ hd, rfl, (h.default d hd).symm ▸ ha⟩

/-- The default answers are those of required verifiers, so the seat does not hear them. -/
theorem optionalAllows_iff (h : l.Silent ds) :
    l.roster.OptionalAllows (l.answers ++ ds) ↔ l.roster.OptionalAllows l.answers := by
  apply forall₂_congr
  intro v _
  apply and_congr_right
  intro hv
  rw [List.mem_append, or_iff_left]
  exact fun hd => hv (h.mem_required hd)

/-- Nor does the pool, since a default answer waives nothing. -/
theorem poolAllows_iff (h : l.Silent ds) :
    l.roster.PoolAllows (l.answers ++ ds) ↔ l.roster.PoolAllows l.answers :=
  Roster.poolAllows_append_of_required fun d hd =>
    ⟨h.mem_required hd, h.default d hd ▸ c.silentAnswer_ne⟩

end Lifetime.Silent

/-- The verdict of a session that is followed, in terms of its history. It is allowed when each of
the three axes is: the required one if it is empty, was forced, or was allowed by everybody on it,
where the default answer stands for those silent when the time was up; the optional one if it is
empty or its verifier approved; the pool if it is empty, a member approved before the first waiver,
or it was waived while somebody was left in it. It is pending while the session has not timed out
and somebody is awaited. -/
theorem verdict_of_history (c : Configuration) {rs : List Request} {id : SessionId} {x : Session}
    (hx : ((Service.new c).after rs).sessions.get? id = some x) :
    (∃! l : Lifetime c id, l.requests = rs) ∧
    ∀ l : Lifetime c id, l.requests = rs →
      (x.verdict = .allowed ↔
        (l.roster.ids .required = [] ∨ l.Forced ∨
          ∀ v ∈ l.roster.ids .required,
            (∃ a, (v, a) ∈ l.answers ∧ (a = .allow ∨ a = .allowWithoutSufficient)) ∨
              (v ∉ l.answers.ids ∧ l.TimedOut ∧
                (c.defaultAnswer = .allow ∨ c.defaultAnswer = .allowWithoutSufficient))) ∧
        l.roster.OptionalAllows l.answers ∧ l.roster.PoolAllows l.answers) ∧
      (x.verdict = .pending ↔
        ¬l.TimedOut ∧
          ¬(l.roster.RequiredHeard l.answers ∧ l.roster.OptionalHeard l.answers ∧
            l.roster.PoolSettled l.answers)) := by
  refine ⟨Lifetime.existsUnique_of_followed c (by simp [hx]), ?_⟩
  rintro l rfl
  obtain rfl := Lifetime.session_eq_of_get? hx
  -- The session sums up its answers and the default answers; what these add is said of the silent
  -- ones.
  obtain ⟨htimedOut, ds, hsilent, hheard⟩ := l.account
  have haffirmative : ∀ a : Answer,
      a.isAffirmative = true ↔ a = .allow ∨ a = .allowWithoutSufficient := by
    intro a
    cases a <;> simp [Answer.isAffirmative]
  constructor
  · rw [Session.verdict_eq_allowed_iff, hheard.verdict_eq_allowed_iff, hsilent.requiredAllow_iff,
      hsilent.optionalAllows_iff, hsilent.poolAllows_iff, c.isAffirmative_silentAnswer]
    simp only [haffirmative]
  · rw [Session.verdict_eq_pending_iff, hheard.verdict_eq_pending_iff, ← Bool.not_eq_true,
      htimedOut]
    apply and_congr_right
    intro hnot
    rw [hsilent.eq_nil hnot, List.append_nil]

/-- One required verifier waives the pool when a member of it has refused, the seat of the optional
verifier is taken twice, and the other required verifier is silent until the time is up. -/
theorem verdict_of_history_with_waiver :
    let c : Configuration := { defaultAnswer := .allow }
    let roster : Roster :=
      [(⟨5⟩, .required), (⟨6⟩, .required), (⟨5⟩, .sufficient), (⟨10⟩, .sufficient),
        (⟨11⟩, .optional), (⟨12⟩, .optional)]
    let rs : List Request :=
      [.start ⟨1⟩ roster ⟨0⟩, .respond ⟨1⟩ ⟨10⟩ .reject, .respond ⟨1⟩ ⟨5⟩ .allowWithoutSufficient,
        .respond ⟨1⟩ ⟨5⟩ .reject, .respond ⟨1⟩ ⟨12⟩ .allow, .expire ⟨10000⟩]
    ∃ x, ((Service.new c).after rs).sessions.get? ⟨1⟩ = some x ∧ x.verdict = .allowed := by
  intro c roster rs
  obtain ⟨x, hx⟩ : ∃ x, ((Service.new c).after rs).sessions.get? ⟨1⟩ = some x :=
    Option.isSome_iff_exists.1 (by decide +kernel)
  let l : Lifetime c ⟨1⟩ :=
    ⟨[], roster, ⟨0⟩, ⟨10000⟩, rs.tail, by decide +kernel, by decide +kernel⟩
  -- The history is evaluated; the verdict is read off it.
  have hrequired : l.roster.ids .required = [⟨5⟩, ⟨6⟩] := by decide +kernel
  have hanswers :
      l.answers = [(⟨10⟩, .reject), (⟨5⟩, .allowWithoutSufficient), (⟨12⟩, .allow)] := by
    decide +kernel
  have htimedOut : l.TimedOut := ⟨(.expire ⟨10000⟩, .ok (.expired [⟨1⟩])), by decide +kernel⟩
  refine ⟨x, hx, (((verdict_of_history c hx).2 l rfl).1).2 ⟨.inr (.inr fun v hv => ?_), ?_, ?_⟩⟩
  · rw [hrequired, List.mem_cons, List.mem_singleton] at hv
    rw [hanswers]
    rcases hv with rfl | rfl
    · exact .inl ⟨.allowWithoutSufficient, by decide, .inr rfl⟩
    · exact .inr ⟨by decide, htimedOut, .inl rfl⟩
  · decide +kernel
  · decide +kernel

end PackageVerification
