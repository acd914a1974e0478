import PackageVerification.Proofs.Deadline

/-!
# The books of a service

What a service does is entered in three books: the events for the installer, the totals, and the
replies. A completion is told in no reply, and an answer that is counted is no event; all else is in
each of them. Main statements: `balance_handle`, one request is entered alike in the three;
`books_balance`, so is a run, and the sessions that are followed are those that have been started
and not been finished.
-/

namespace PackageVerification

/-! ## 1. Entries -/

def RejectReason.total : RejectReason → Total
  | .duplicate => .responsesDuplicate
  | .unrecognized => .responsesUnrecognized
  | .timedOut => .responsesLate

def Event.total : Event → Total
  | .sessionStarted .. => .sessionsStarted
  | .responseRejected _ _ reason => reason.total
  | .timeoutExtended .. => .timeoutsExtended
  | .sessionTimedOut _ => .sessionsTimedOut
  | .sessionCompleted .. => .sessionsCompleted

def ResponseOutcome.total (o : ResponseOutcome) : Total :=
  (o.refusal?.map (·.2)).getD .responsesAccepted

/-- The totals that a reply is an entry of. A list of sessions has an entry for each of them. -/
def Reply.totals : Reply → List Total
  | .started _ => [.sessionsStarted]
  | .answered outcome => [outcome.total]
  | .extended granted => if granted then [.timeoutsExtended] else []
  | .expired ids => ids.map fun _ => .sessionsTimedOut
  | .recorded _ | .forced _ | .finished _ | .drained _ => []

def Service.entries : Except Fault Reply → List Total
  | .ok reply => reply.totals
  | .error _ => []

/-- What is counted is in the events and in the replies as well, in the same order, but for answers
that are counted and for completions. -/
structure Balance (events : List Event) (counted replied : List Total) : Prop where
  events : events.map Event.total = counted.filter (· ≠ .responsesAccepted)
  replies : replied = counted.filter (· ≠ .sessionsCompleted)

namespace Balance

theorem nil : Balance [] [] [] := ⟨rfl, rfl⟩

/-- Two stretches with the same entries in the three books have so together. -/
theorem append {events events' : List Event} {counted counted' replied replied' : List Total}
    (h : Balance events counted replied) (h' : Balance events' counted' replied') :
    Balance (events ++ events') (counted ++ counted') (replied ++ replied') := by
  refine ⟨?_, ?_⟩
  · rw [List.map_append, h.events, h'.events, List.filter_append]
  · rw [h.replies, h'.replies, List.filter_append]

variable {events : List Event} {counted replied : List Total} {total : Total}

/-- Each total but that of counted answers is counted as often as an event tells of it. -/
theorem count_events (h : Balance events counted replied) (hne : total ≠ .responsesAccepted) :
    (events.map Event.total).count total = counted.count total := by
  rw [h.events, List.count_filter (by simpa using hne)]

/-- Each total but that of completions is counted as often as a reply tells of it. -/
theorem count_replied (h : Balance events counted replied) (hne : total ≠ .sessionsCompleted) :
    replied.count total = counted.count total := by
  rw [h.replies, List.count_filter (by simpa using hne)]

end Balance

/-! ## 2. The entries of an operation -/

def Trace.Balances (t : Trace) (replied : List Total) : Prop := Balance t.events t.counted replied

theorem Trace.Balances.append {t u : Trace} {ts us : List Total} (ht : t.Balances ts)
    (hu : u.Balances us) : (t ++ u).Balances (ts ++ us) :=
  Balance.append ht hu

/-- Records of the log are no entries. -/
theorem Trace.balances_of_notices (notices : List Notice) : Trace.Balances ⟨[], [], notices⟩ [] :=
  Balance.nil

namespace Session

/-- A completion is counted and told, but no reply is an entry of it. -/
theorem balances_reportCompletion (x : Session) : x.reportCompletion.2.Balances [] := by
  unfold reportCompletion
  split <;> exact ⟨rfl, rfl⟩

/-- An answer is one entry, by how it was handled; a decision that it makes is one more. -/
theorem balances_respond (x : Session) (verifier : VerifierId) (answer : Answer) :
    (x.respond verifier answer).trace.Balances [(x.respond verifier answer).result.total] := by
  have hdisposition : ∀ disposition : Disposition,
      (dispositionTrace x.id verifier answer disposition).Balances
        [((x.answered verifier answer).outcome (some disposition)).total] := by
    intro disposition
    cases disposition <;> exact ⟨rfl, rfl⟩
  rw [respond]
  split_ifs
  · exact ⟨rfl, rfl⟩
  · exact ((Trace.balances_of_notices _).append (hdisposition _)).append
      (balances_reportCompletion (x.answered verifier answer))

theorem balances_extend (x : Session) (verifier : VerifierId) (extra : UInt64) (now : Timestamp) :
    (x.extend verifier extra now).trace.Balances
      (Reply.extended (x.extend verifier extra now).result).totals := by
  rw [extend]
  split_ifs <;> exact ⟨rfl, rfl⟩

theorem balances_forceRequired (x : Session) : x.forceRequired.trace.Balances [] := by
  rw [forceRequired, Tracker.forceRequired]
  split_ifs
  · exact Balance.nil
  · exact (Trace.balances_of_notices _).append (balances_reportCompletion x.forced)
  · exact Balance.nil

/-- A session that is due is one entry, and another is not. -/
theorem balances_strike (x : Session) (default : Answer) (now : Timestamp) :
    (x.strike default now).2.Balances (if x.isDue now then [.sessionsTimedOut] else []) := by
  have hstruck : ∀ notices notices',
      ((⟨[], [], notices⟩ : Trace) ++ ⟨[.sessionTimedOut x.id], [.sessionsTimedOut], notices'⟩ ++
        (x.struck default).reportCompletion.2).Balances [.sessionsTimedOut] := fun _ _ =>
    Trace.Balances.append ⟨rfl, rfl⟩ (balances_reportCompletion _)
  rw [strike]
  split_ifs
  · exact hstruck _ _
  · exact Balance.nil

/-- Each session that is struck is one entry. -/
theorem balances_strikes (xs : List Session) (default : Answer) (now : Timestamp) :
    ((xs.map fun x => (x.strike default now).2).foldr (· ++ ·) Trace.empty).Balances
      (Reply.expired ((xs.filter (·.isDue now)).map (·.id))).totals := by
  induction xs with
  | nil => exact Balance.nil
  | cons x xs ih =>
    have hall := (x.balances_strike default now).append ih
    by_cases hdue : x.isDue now = true
    · rw [if_pos hdue] at hall
      rw [List.filter_cons_of_pos (by exact hdue)]
      exact hall
    · rw [if_neg hdue] at hall
      rw [List.filter_cons_of_neg (by exact hdue)]
      exact hall

end Session

/-! ## 3. The entries of a request -/

namespace Service

def Enters (s : Service) (o : Outcome (Except Fault Reply)) : Prop :=
  ∃ t : Trace, o.service.events = s.events ++ t.events ∧
    o.service.totals = (s.record t).totals ∧ t.Balances (entries o.result)

/-- To fail is to enter nothing. -/
theorem enters_of_error (s : Service) (fault : Fault) (notices : List Notice) :
    s.Enters ⟨.error fault, s, notices⟩ :=
  ⟨.empty, (List.append_nil _).symm, rfl, Balance.nil⟩

/-- A change of one session is entered as its trace is. -/
theorem enters_change {α : Type} (s : Service) (id : SessionId)
    {operation : Session → Change (Except Fault α)} {reply : α → Reply}
    (h : ∀ x, (operation x).trace.Balances (entries ((operation x).result.map reply))) :
    s.Enters ((s.change id operation).map (Except.map reply)) := by
  rw [change]
  cases s.sessions.get? id with
  | none => exact s.enters_of_error _ _
  | some x => exact ⟨(operation x).trace, rfl, rfl, h x⟩

theorem enters_start (s : Service) (id : SessionId) (roster : Roster) (now : Timestamp) :
    s.Enters ((s.start id roster now).map (Except.map .started)) := by
  rw [start]
  split_ifs
  · exact s.enters_of_error _ _
  · exact s.enters_of_error _ _
  · exact ⟨_, rfl, rfl, rfl, rfl⟩

theorem enters_finish (s : Service) (id : SessionId) :
    s.Enters ((s.finish id).map (Except.map .finished)) := by
  rw [finish]
  cases s.sessions.get? id with
  | none => exact s.enters_of_error _ _
  | some x => exact ⟨.empty, (List.append_nil _).symm, rfl, Balance.nil⟩

/-- Every request but a drain is entered alike in the three books. -/
theorem enters_handle (s : Service) {r : Request} (hr : r ≠ .drain) : s.Enters (s.handle r) := by
  cases r with
  | start id roster now => exact s.enters_start id roster now
  | respond id v a => exact s.enters_change id fun x => x.balances_respond v a
  | extend id v ms now =>
    rw [handle, extend]
    split_ifs
    · exact s.enters_of_error _ _
    · exact s.enters_change id fun x => x.balances_extend v ms now
  | recordIntegrity id a => exact s.enters_change id fun _ => Balance.nil
  | forceRequired id =>
    refine s.enters_change id fun x => ?_
    have hnone : entries (x.forceRequired.result.map .forced) = [] := by
      cases x.forceRequired.result <;> rfl
    rw [hnone]
    exact x.balances_forceRequired
  | expire now => exact ⟨_, rfl, rfl, Session.balances_strikes _ _ now⟩
  | finish id => exact s.enters_finish id
  | drain => exact absurd rfl hr

def tallied (totals : Totals) (counted : List Total) : Totals :=
  counted.foldl (fun totals total => totals.increment total.name) totals

/-- A request is entered alike in the three books. -/
theorem balance_handle (s : Service) (r : Request) :
    ∃ counted, (s.handle r).service.totals = tallied s.totals counted ∧
      Balance (s.emitted r) counted (entries (s.handle r).result) := by
  by_cases hr : r = .drain
  · subst hr
    exact ⟨[], rfl, Balance.nil⟩
  · obtain ⟨t, hevents, htotals, hbalances⟩ := s.enters_handle hr
    have hemitted : s.emitted r = t.events :=
      List.append_cancel_left ((s.handle_cleared hr).1.symm.trans hevents)
    exact ⟨t.counted, htotals, hemitted ▸ hbalances⟩

/-! ## 4. The entries of a run -/

/-- The entries of a run are those of its requests in turn. -/
theorem balance_run (s : Service) (rs : List Request) :
    ∃ counted, (s.after rs).totals = tallied s.totals counted ∧
      Balance (s.emittedAll rs) counted ((s.replies rs).flatMap entries) := by
  induction rs generalizing s with
  | nil => exact ⟨[], rfl, Balance.nil⟩
  | cons r rs ih =>
    obtain ⟨counted, htotals, hbalance⟩ := s.balance_handle r
    obtain ⟨rest, htotals', hbalance'⟩ := ih (s.handle r).service
    refine ⟨counted ++ rest, ?_, hbalance.append hbalance'⟩
    rw [after_cons, htotals', htotals, tallied, tallied, tallied, List.foldl_append]

/-- A counter tells how often its total has been counted. -/
theorem get_tallied {s : Service} (h : s.CountsTotals) (counted : List Total) (total : Total) :
    (tallied s.totals counted).get total.name =
      s.totals.get total.name + .ofNat (counted.count total) := by
  induction counted generalizing s with
  | nil => exact (UInt64.add_zero _).symm
  | cons other counted ih =>
    have hnext : CountsTotals { s with totals := s.totals.increment other.name } := fun total =>
      (Totals.counts_add _ _ _ _).trans (h total)
    have hone := get_increment h other total
    have hrest := ih hnext
    rw [tallied] at hrest ⊢
    rw [List.foldl_cons, hrest, hone, List.count_cons, UInt64.add_assoc, Nat.add_comm,
      UInt64.ofNat_add]
    congr 2
    by_cases heq : other = total
    · subst heq
      simp
    · simp [heq, Ne.symm heq]

/-- A run of a service from its beginning has the same entries in the three books. -/
theorem balance_new (c : Configuration) (rs : List Request) :
    ∃ counted,
      (∀ total : Total, ((Service.new c).after rs).totals.get total.name =
        .ofNat (counted.count total)) ∧
      Balance ((Service.new c).reported rs) counted
        (((Service.new c).replies rs).flatMap entries) := by
  obtain ⟨counted, htotals, hbalance⟩ := (Service.new c).balance_run rs
  have hzero : ∀ total : Total, (Service.new c).totals.get total.name = 0 := by
    intro total
    cases total <;> rfl
  refine ⟨counted, fun total => ?_, ?_⟩
  · rw [htotals, get_tallied (countsTotals_new c), hzero, UInt64.zero_add]
  · rw [reported_eq]
    exact hbalance

end Service

/-! ## 5. The sessions that are followed -/

namespace SessionTable

theorem size_insert {t : SessionTable} {x : Session} (hx : t.get? x.id = none) :
    (t.insert x).size = t.size + 1 := by
  refine Ascending.length_place fun a ha hid => ?_
  rw [mem_toList_iff, ← SessionId.ext hid, hx] at ha
  cases ha

theorem size_erase {t : SessionTable} {id : SessionId} {x : Session} (hx : t.get? id = some x) :
    (t.erase id).size + 1 = t.size := by
  have hone : (t.toList.filter (·.id = id)).length = 1 := by rw [filter_id_eq, hx]; rfl
  have hboth := t.toList.length_eq_length_filter_add (·.id = id)
  rw [size, size, hboth, hone, Nat.add_comm, erase]
  simp

end SessionTable

namespace Service

def hasStarted : Except Fault Reply → Bool
  | .ok (.started _) => true
  | _ => false

def hasFinished : Except Fault Reply → Bool
  | .ok (.finished _) => true
  | _ => false

/-- Nobody comes or goes by a request that has another reply. -/
theorem not_hasStarted_map {α : Type} {reply : α → Reply}
    (h : ∀ a, hasStarted (.ok (reply a)) = false ∧ hasFinished (.ok (reply a)) = false)
    (result : Except Fault α) :
    hasStarted (result.map reply) = false ∧ hasFinished (result.map reply) = false := by
  cases result with
  | error fault => exact ⟨rfl, rfl⟩
  | ok a => exact h a

/-- A request follows one session more if it starts one, and one less if it finishes one. -/
theorem size_handle (s : Service) (r : Request) :
    (s.handle r).service.sessions.size + [(s.handle r).result].countP hasFinished =
      s.sessions.size + [(s.handle r).result].countP hasStarted := by
  have hsame : (∀ id roster now, r ≠ .start id roster now) → (∀ id, r ≠ .finish id) →
      (s.handle r).service.sessions.size = s.sessions.size := fun hstart hfinish =>
    (congrArg SessionTable.size (s.sessions_handle hstart hfinish)).trans (List.length_map _)
  have hsteady :
      (hasStarted (s.handle r).result = false ∧ hasFinished (s.handle r).result = false) →
      [(s.handle r).result].countP hasFinished = [(s.handle r).result].countP hasStarted :=
    fun h => by rw [List.countP_singleton, List.countP_singleton, h.1, h.2]
  -- Only to start and to finish changes the table; all other requests act on the sessions in it.
  cases r with
  | start id roster now =>
    rcases s.start_cases id roster now with
      ⟨-, hservice, _, hresult⟩ | ⟨-, hfree, hsessions, -, -, hresult⟩
    · rw [handle, Outcome.map, hservice, hresult]
      rfl
    · rw [handle, Outcome.map, hsessions, hresult, SessionTable.size_insert]
      · rfl
      · rwa [Session.id_fresh]
  | finish id =>
    rw [handle, finish]
    cases hx : s.sessions.get? id with
    | none => rfl
    | some x => exact SessionTable.size_erase hx
  | expire | drain => rw [hsame (by simp) (by simp), hsteady ⟨rfl, rfl⟩]
  | _ =>
    rw [hsame (by simp) (by simp), hsteady]
    exact not_hasStarted_map (fun _ => ⟨rfl, rfl⟩) _

/-- The sessions that are followed are those that have been started and not been finished. -/
theorem size_after (s : Service) (rs : List Request) :
    (s.after rs).sessions.size + (s.replies rs).countP hasFinished =
      s.sessions.size + (s.replies rs).countP hasStarted := by
  induction rs generalizing s with
  | nil => rfl
  | cons r rs ih =>
    have hone := s.size_handle r
    have hrest := ih (s.handle r).service
    rw [after_cons, replies_cons, ← List.singleton_append, List.countP_append, List.countP_append]
    omega

end Service

/-! ## 6. Answers among the entries -/

def Total.isResponse : Total → Bool
  | .responsesAccepted | .responsesDuplicate | .responsesUnrecognized | .responsesLate => true
  | _ => false

theorem Total.countP_isResponse (ts : List Total) :
    ts.countP Total.isResponse =
      ts.count .responsesAccepted + ts.count .responsesDuplicate +
        ts.count .responsesUnrecognized + ts.count .responsesLate := by
  induction ts with
  | nil => rfl
  | cons t ts ih =>
    simp only [List.countP_cons, List.count_cons, ih]
    cases t <;> simp [isResponse] <;> omega

namespace Service

def hasAnswered : Except Fault Reply → Bool
  | .ok (.answered _) => true
  | _ => false

def hasRecognized : Except Fault Reply → Bool
  | .ok (.answered outcome) => outcome.isRecognized
  | _ => false

theorem countP_entries_isResponse (result : Except Fault Reply) :
    (entries result).countP Total.isResponse = [result].countP hasAnswered := by
  rcases result with fault | reply
  · rfl
  · cases reply with
    | answered outcome =>
      obtain ⟨disposition, verdict, allComplete⟩ := outcome
      rcases disposition with _ | _ | _ | _ <;> rfl
    | extended granted => cases granted <;> rfl
    | expired ids => simp [entries, Reply.totals, Total.isResponse, hasAnswered]
    | _ => rfl

theorem count_entries_accepted (result : Except Fault Reply) :
    (entries result).count .responsesAccepted = [result].countP hasRecognized := by
  rcases result with fault | reply
  · rfl
  · cases reply with
    | answered outcome =>
      obtain ⟨disposition, verdict, allComplete⟩ := outcome
      rcases disposition with _ | _ | _ | _ <;> rfl
    | extended granted => cases granted <;> rfl
    | expired ids => simp [entries, Reply.totals, hasRecognized, List.count]
    | _ => rfl

/-- What holds of the entries of each result holds of those of all. -/
theorem countP_flatMap_entries {p : Total → Bool} {q : Except Fault Reply → Bool}
    (h : ∀ result, (entries result).countP p = [result].countP q)
    (results : List (Except Fault Reply)) :
    (results.flatMap entries).countP p = results.countP q := by
  induction results with
  | nil => rfl
  | cons result results ih =>
    rw [List.flatMap_cons, List.countP_append, h, ih, ← List.countP_append, List.singleton_append]

end Service

/-! ## 7. The balance -/

/-- After any run of a service from its beginning, modulo 2^64: each counter is the number of the
events that are entries of its total, and that of the entries of the replies; only answers that are
counted are no events, and completions are in no reply. Each answer that has been handled is counted
by one of four totals. The sessions that are followed are those that have been started and not been
finished. -/
theorem books_balance (c : Configuration) (rs : List Request) :
    let s := (Service.new c).after rs
    let reported := ((Service.new c).reported rs).map Event.total
    let replies := (Service.new c).replies rs
    let replied := replies.flatMap Service.entries
    (∀ total, total ≠ .responsesAccepted →
      s.totals.get total.name = .ofNat (reported.count total)) ∧
    (∀ total, total ≠ .sessionsCompleted →
      s.totals.get total.name = .ofNat (replied.count total)) ∧
    (∀ total, total ≠ .responsesAccepted → total ≠ .sessionsCompleted →
      reported.count total = replied.count total) ∧
    s.totals.get Total.responsesAccepted.name = .ofNat (replies.countP Service.hasRecognized) ∧
    s.totals.get Total.responsesAccepted.name + s.totals.get Total.responsesDuplicate.name +
        s.totals.get Total.responsesUnrecognized.name + s.totals.get Total.responsesLate.name =
      .ofNat (replies.countP Service.hasAnswered) ∧
    s.sessions.size + replies.countP Service.hasFinished = replies.countP Service.hasStarted := by
  intro s reported replies replied
  obtain ⟨counted, hcounter, hbalance⟩ := Service.balance_new c rs
  have hreplied : ∀ total, total ≠ .sessionsCompleted →
      s.totals.get total.name = .ofNat (replied.count total) := fun total hne => by
    rw [hcounter, ← hbalance.count_replied hne]
  have haccepted : replied.count .responsesAccepted = replies.countP Service.hasRecognized :=
    Service.countP_flatMap_entries Service.count_entries_accepted replies
  have hanswered : replied.countP Total.isResponse = replies.countP Service.hasAnswered :=
    Service.countP_flatMap_entries Service.countP_entries_isResponse replies
  -- All the books are compared with the one list of what was counted.
  refine ⟨fun total hne => ?_, hreplied, fun total hne hne' => ?_, ?_, ?_, ?_⟩
  · rw [hcounter, ← hbalance.count_events hne]
  · exact (hbalance.count_events hne).trans (hbalance.count_replied hne').symm
  · rw [hreplied _ (by decide), haccepted]
  -- The four counters wrap around on their own, and so does their sum.
  · rw [← hanswered, Total.countP_isResponse, UInt64.ofNat_add, UInt64.ofNat_add,
      UInt64.ofNat_add, hreplied _ (by decide), hreplied _ (by decide), hreplied _ (by decide),
      hreplied _ (by decide)]
  · exact ((Service.new c).size_after rs).trans (Nat.zero_add _)

/-- Of two required verifiers one answers twice and the other one too late, when the session has
timed out; a stranger answers as well, and more time is granted once. -/
theorem books_balance_of_time_out :
    let rs : List Request :=
      [.start ⟨1⟩ [(⟨5⟩, .required), (⟨6⟩, .required)] ⟨0⟩, .respond ⟨1⟩ ⟨5⟩ .allow,
        .respond ⟨1⟩ ⟨5⟩ .reject, .respond ⟨1⟩ ⟨9⟩ .allow, .drain, .extend ⟨1⟩ ⟨6⟩ 20000 ⟨0⟩,
        .extend ⟨1⟩ ⟨6⟩ 20000 ⟨0⟩, .expire ⟨20000⟩, .respond ⟨1⟩ ⟨6⟩ .allow, .finish ⟨1⟩]
    let s := (Service.new .default).after rs
    Total.sessionsTimedOut ≠ .responsesAccepted ∧ Total.sessionsTimedOut ≠ .sessionsCompleted ∧
      s.totals.get Total.sessionsTimedOut.name = 1 ∧ s.totals.get Total.timeoutsExtended.name = 1 ∧
      s.totals.get Total.responsesAccepted.name + s.totals.get Total.responsesDuplicate.name +
          s.totals.get Total.responsesUnrecognized.name + s.totals.get Total.responsesLate.name =
        4 ∧
      s.sessions.size = 0 := by
  intro rs s
  obtain ⟨hreported, hreplied, -, -, hanswered, hfollowed⟩ := books_balance .default rs
  refine ⟨by decide, by decide, (hreported .sessionsTimedOut (by decide)).trans ?_,
    (hreplied .timeoutsExtended (by decide)).trans ?_, hanswered.trans ?_, ?_⟩
  · decide +kernel
  · decide +kernel
  · decide +kernel
  · have hfinished : ((Service.new .default).replies rs).countP Service.hasFinished = 1 := by
      decide +kernel
    have hstarted : ((Service.new .default).replies rs).countP Service.hasStarted = 1 := by
      decide +kernel
    rw [hfinished, hstarted] at hfollowed
    exact Nat.succ.inj hfollowed

end PackageVerification
