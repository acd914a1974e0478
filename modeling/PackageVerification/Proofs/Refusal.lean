import PackageVerification.Proofs.Decision

/-!
# What is refused changes nothing

A request that fails leaves the service as it is, and so does a request for more time that is not
granted. An answer that is not counted leaves every session as it is, and is reported and counted as
what it is. Main statements: `service_of_error`, `Session.Sound.respond_of_refused` and, of a whole
service, `refusals_change_nothing`.
-/

namespace PackageVerification

/-! ## 1. Changes that leave a session alone -/

def Trace.IsSilent (t : Trace) : Prop := t.events = [] ∧ t.counted = []

/-- To put a session in its own place changes nothing. -/
theorem SessionTable.update_eq_self {t : SessionTable} {x : Session} (hx : t.get? x.id = some x) :
    t.update x = t := by
  have hlist : (t.update x).toList = t.toList := by
    show t.toList.map _ = t.toList
    refine (List.map_congr_left fun y hy => ?_).trans (List.map_id _)
    split_ifs with hid
    · rw [mem_toList_iff, hid, hx] at hy
      exact Option.some.inj hy
    · rfl
  cases t
  cases hu : update _ _
  simp_all

namespace Service

variable {s : Service} {id : SessionId} {x : Session} {fault : Fault} {α : Type}

/-- A trace without events and totals changes no service. -/
theorem record_of_isSilent (s : Service) {t : Trace} (h : t.IsSilent) : s.record t = s := by
  rw [record, h.1, h.2, List.append_nil]
  rfl

theorem service_change_of_same (hx : s.sessions.get? id = some x)
    {operation : Session → Change (Except Fault α)} (hsame : (operation x).session = x) :
    (s.change id operation).service = s.record (operation x).trace := by
  have hupdate : s.sessions.update x = s.sessions :=
    SessionTable.update_eq_self ((SessionTable.id_of_get? hx).symm ▸ hx)
  rw [change, hx]
  show { s with sessions := s.sessions.update (operation x).session }.record _ = _
  rw [hsame, hupdate]

/-- A change fails where no session is followed, or because the operation does. -/
theorem service_change_of_error {operation : Session → Change (Except Fault α)}
    (hoperation : ∀ x fault, (operation x).result = .error fault →
      (operation x).session = x ∧ (operation x).trace.IsSilent)
    (h : (s.change id operation).result = .error fault) : (s.change id operation).service = s := by
  cases hx : s.sessions.get? id with
  | none => rw [change, hx]
  | some x =>
    rw [s.result_change hx] at h
    obtain ⟨hsession, htrace⟩ := hoperation x fault h
    rw [service_change_of_same hx hsession, s.record_of_isSilent htrace]

theorem service_change_sure_of_error {operation : Session → Change α}
    (h : (s.change id fun x => sure (operation x)).result = .error fault) :
    (s.change id fun x => sure (operation x)).service = s :=
  service_change_of_error (fun _ _ hresult => by cases hresult) h

/-! ## 2. Requests that fail -/

theorem error_of_map_eq_error {β : Type} {e : Except Fault α} {f : α → β}
    (h : e.map f = .error fault) : e = .error fault := by
  cases e with
  | error _ => exact congrArg _ (Except.error.inj h)
  | ok a => cases h

end Service

/-- A refused override leaves at most a log record. -/
theorem Session.forceRequired_of_error {x : Session} {fault : Fault}
    (h : x.forceRequired.result = .error fault) :
    x.forceRequired.session = x ∧ x.forceRequired.trace.IsSilent := by
  rw [forceRequired, Tracker.forceRequired] at h ⊢
  split_ifs at h ⊢ <;> exact ⟨rfl, rfl, rfl⟩

/-- A request that fails leaves the service as it is. -/
theorem Service.service_of_error {s : Service} {r : Request} {fault : Fault}
    (h : (s.handle r).result = .error fault) : (s.handle r).service = s := by
  -- An expiry and a drain do not fail; to start and to finish fail before they change anything.
  cases r with
  | start id roster now =>
    rcases s.start_cases id roster now with ⟨-, hservice, -⟩ | ⟨-, -, -, -, -, hresult⟩
    · exact hservice
    · rw [handle, Outcome.map, hresult] at h
      cases h
  | respond id v a => exact service_change_sure_of_error (error_of_map_eq_error h)
  | extend id v ms now =>
    have hresult := error_of_map_eq_error h
    show (s.extend id v ms now).service = s
    rw [extend] at hresult ⊢
    split_ifs at hresult ⊢
    · rfl
    · exact service_change_sure_of_error hresult
  | recordIntegrity id a => exact service_change_sure_of_error (error_of_map_eq_error h)
  | forceRequired id =>
    exact service_change_of_error (fun _ _ => Session.forceRequired_of_error)
      (error_of_map_eq_error h)
  | expire now => cases h
  | finish id =>
    show (s.finish id).service = s
    have hresult := error_of_map_eq_error h
    rw [finish] at hresult ⊢
    cases hx : s.sessions.get? id with
    | none => rfl
    | some x =>
      rw [hx] at hresult
      cases hresult
  | drain => cases h

/-- A request for more time that is not granted leaves at most a log record. -/
theorem Session.extend_of_not_granted {x : Session} {verifier : VerifierId} {extra : UInt64}
    {now : Timestamp} (h : (x.extend verifier extra now).result = false) :
    (x.extend verifier extra now).session = x ∧ (x.extend verifier extra now).trace.IsSilent := by
  rw [extend] at h ⊢
  split_ifs at h ⊢ <;> exact ⟨rfl, rfl, rfl⟩

theorem Service.service_extend_of_not_granted {s : Service} {id : SessionId}
    {verifier : VerifierId} {extra : UInt64} {now : Timestamp}
    (h : (s.extend id verifier extra now).result = .ok false) :
    (s.extend id verifier extra now).service = s := by
  rw [extend] at h ⊢
  split_ifs at h ⊢
  cases hx : s.sessions.get? id with
  | none => rw [change, hx]
  | some x =>
    rw [s.result_change hx] at h
    obtain ⟨hsession, htrace⟩ := Session.extend_of_not_granted (Except.ok.inj h)
    rw [service_change_of_same hx hsession]
    exact s.record_of_isSilent htrace

/-! ## 3. Answers that are not counted -/

/-- Why an answer that was handled in this way is not counted, and the total that it goes to. -/
def ResponseOutcome.refusal? (o : ResponseOutcome) : Option (RejectReason × Total) :=
  match o.disposition with
  | none => some (.timedOut, .responsesLate)
  | some (.duplicate _) => some (.duplicate, .responsesDuplicate)
  | some .unrecognized => some (.unrecognized, .responsesUnrecognized)
  | some (.accepted _) => none

theorem ResponseOutcome.exists_refusal {o : ResponseOutcome} (h : o.isRecognized = false) :
    ∃ reason total, o.refusal? = some (reason, total) := by
  obtain ⟨disposition, verdict, allComplete⟩ := o
  rcases disposition with _ | role | role | _
  · exact ⟨_, _, rfl⟩
  · cases h
  · exact ⟨_, _, rfl⟩
  · exact ⟨_, _, rfl⟩

theorem Tracker.answer_of_not_accepted {t : Tracker} {id : VerifierId} {a : Answer}
    (h : (t.answer id a).1.isAccepted = false) : (t.answer id a).2 = t := by
  rcases t.answer_cases id a with
    ⟨-, -, hnext⟩ | ⟨-, -, hnext⟩ | ⟨-, hnext⟩ | ⟨_, -, hnext⟩ <;> rw [hnext] at h ⊢
  · cases h
  · cases h
  · cases h

/-- What is final has been reported already. -/
theorem Session.Sound.reportCompletion_eq {x : Session} (h : x.Sound) :
    x.reportCompletion = (x, .empty) := by
  by_cases hfinal : x.verdict.isFinal = true
  · exact reportCompletion_of_reported (h.reported.2 hfinal)
  · exact reportCompletion_of_not_final (by simpa using hfinal)

/-- An answer that is not counted leaves the session as it is, and is reported and counted once. -/
theorem Session.Sound.respond_of_refused {x : Session} (h : x.Sound) {verifier : VerifierId}
    {answer : Answer} {reason : RejectReason} {total : Total}
    (hrefused : (x.respond verifier answer).result.refusal? = some (reason, total)) :
    (x.respond verifier answer).session = x ∧
      (x.respond verifier answer).trace.events = [.responseRejected x.id verifier reason] ∧
      (x.respond verifier answer).trace.counted = [total] := by
  by_cases htimedOut : x.timedOut = true
  · rw [respond, if_pos htimedOut] at hrefused ⊢
    obtain ⟨rfl, rfl⟩ := Prod.mk.inj (Option.some.inj hrefused)
    exact ⟨rfl, rfl, rfl⟩
  · rw [respond, if_neg htimedOut] at hrefused ⊢
    have hrefused' : (x.outcome (some (x.tracker.answer verifier answer).1)).refusal? =
        some (reason, total) := hrefused
    cases hdisposition : (x.tracker.answer verifier answer).1 with
    | accepted role =>
      rw [hdisposition] at hrefused'
      cases hrefused'
    | duplicate | unrecognized =>
      rw [hdisposition] at hrefused'
      obtain ⟨rfl, rfl⟩ := Prod.mk.inj (Option.some.inj hrefused')
      have hsame : { x with tracker := (x.tracker.answer verifier answer).2 } = x := by
        rw [Tracker.answer_of_not_accepted (by rw [hdisposition]; rfl)]
      simp only [hsame, h.reportCompletion_eq, hdisposition, true_and]
      exact ⟨rfl, rfl⟩

/-! ## 4. Totals -/

theorem Total.name_injective : Function.Injective Total.name := by
  intro a b h
  cases a <;> cases b <;> first | rfl | exact absurd h (by decide)

namespace Service

def CountsTotals (s : Service) : Prop := ∀ total : Total, s.totals.counts total.name = true

theorem countsTotals_new (c : Configuration) : (Service.new c).CountsTotals := by
  have hall : ∀ total : Total, total ∈ Total.all := by
    intro total
    cases total <;> decide
  exact fun total => Totals.counts_ofNames (List.mem_map_of_mem (hall total))

theorem counts_record (s : Service) (t : Trace) (name : String) :
    (s.record t).totals.counts name = s.totals.counts name := by
  have hall : ∀ (ts : List Total) (totals : Totals),
      (ts.foldl (fun totals total => totals.increment total.name) totals).counts name =
        totals.counts name := by
    intro ts
    induction ts with
    | nil => exact fun _ => rfl
    | cons total ts ih => exact fun totals => (ih _).trans (Totals.counts_add _ _ _ _)
  exact hall t.counted s.totals

theorem counts_change {α : Type} (s : Service) (id : SessionId)
    (operation : Session → Change (Except Fault α)) (name : String) :
    (s.change id operation).service.totals.counts name = s.totals.counts name := by
  rw [change]
  cases s.sessions.get? id with
  | none => rfl
  | some x => exact counts_record _ _ name

/-- No counter comes or goes. -/
theorem counts_handle (s : Service) (r : Request) (name : String) :
    (s.handle r).service.totals.counts name = s.totals.counts name := by
  cases r with
  | start id roster now =>
    show (s.start id roster now).service.totals.counts name = _
    rw [start]
    split_ifs
    · rfl
    · rfl
    · exact counts_record _ _ name
  | extend id v ms now =>
    show (s.extend id v ms now).service.totals.counts name = _
    rw [extend]
    split_ifs
    · rfl
    · exact s.counts_change id _ name
  | respond | recordIntegrity | forceRequired => exact s.counts_change _ _ name
  | expire now => exact counts_record _ _ name
  | finish id =>
    show (s.finish id).service.totals.counts name = _
    rw [finish]
    cases s.sessions.get? id <;> rfl
  | drain => rfl

theorem CountsTotals.after {s : Service} (h : s.CountsTotals) (rs : List Request) :
    (s.after rs).CountsTotals := by
  induction rs generalizing s with
  | nil => exact h
  | cons r rs ih => exact ih fun total => (s.counts_handle r total.name).trans (h total)

/-- One more is counted, and nothing else. -/
theorem get_increment {s : Service} (h : s.CountsTotals) (total other : Total) :
    (s.totals.increment total.name).get other.name =
      s.totals.get other.name + if other = total then 1 else 0 := by
  rw [Totals.increment, Totals.get_add]
  by_cases heq : other = total
  · rw [if_pos ⟨congrArg _ heq, h other⟩, if_pos heq]
  · rw [if_neg fun hname => heq (Total.name_injective hname.1), if_neg heq, UInt64.add_zero]

end Service

/-! ## 5. Refusals -/

/-- Of a service after any run: a request that fails leaves it as it is, and so does a request for
more time that is not granted. An answer that is not counted leaves its sessions as they are; it is
reported as a duplicate, as that of a stranger or as late, which is the one event that comes to the
others, and is counted as such, which is the one total that grows. -/
theorem refusals_change_nothing (c : Configuration) (rs : List Request) :
    let s := (Service.new c).after rs
    (∀ r fault, (s.handle r).result = .error fault → (s.handle r).service = s) ∧
    (∀ id verifier extra now, (s.extend id verifier extra now).result = .ok false →
      (s.extend id verifier extra now).service = s) ∧
    ∀ id verifier answer outcome, (s.respond id verifier answer).result = .ok outcome →
      outcome.isRecognized = false →
      ∃ reason total, outcome.refusal? = some (reason, total) ∧
        (s.respond id verifier answer).service =
          { s with
            events := s.events ++ [.responseRejected id verifier reason]
            totals := s.totals.increment total.name } ∧
        ∀ other : Total, (s.respond id verifier answer).service.totals.get other.name =
          s.totals.get other.name + if other = total then 1 else 0 := by
  intro s
  have hcounts : s.CountsTotals := (Service.countsTotals_new c).after rs
  refine ⟨fun r fault => Service.service_of_error,
    fun id v ms now => Service.service_extend_of_not_granted, fun id v a outcome hresult hnot => ?_⟩
  cases hx : s.sessions.get? id with
  | none =>
    rw [Service.respond, Service.change, hx] at hresult
    cases hresult
  | some x =>
    -- An answer that is not counted was refused for a reason that fixes both the event and the
    -- total.
    obtain ⟨reason, total, hrefusal⟩ := ResponseOutcome.exists_refusal hnot
    have hrespond : (x.respond v a).result = outcome :=
      Except.ok.inj ((s.result_change hx _).symm.trans hresult)
    obtain ⟨hsession, hevents, hcounted⟩ :=
      (Service.sound_of_get? hx).respond_of_refused (hrespond ▸ hrefusal)
    rw [SessionTable.id_of_get? hx] at hevents
    have hservice : (s.respond id v a).service =
        { s with
          events := s.events ++ [.responseRejected id v reason]
          totals := s.totals.increment total.name } := by
      have hchange : (s.respond id v a).service = s.record (x.respond v a).trace :=
        Service.service_change_of_same hx hsession
      rw [hchange, Service.record, hevents, hcounted]
      rfl
    refine ⟨reason, total, hrefusal, hservice, fun other => ?_⟩
    rw [hservice]
    exact Service.get_increment hcounts total other

/-- A session has been approved by its only verifier. An override is refused, more time is not
granted, and when the verifier answers again its session stays as it is. -/
theorem refusals_change_nothing_after_approval :
    let s := (Service.new .default).after
      [.start ⟨1⟩ [(⟨5⟩, .required)] ⟨0⟩, .respond ⟨1⟩ ⟨5⟩ .allow]
    (s.handle (.forceRequired ⟨1⟩)).result = .error (.sessionClosed ⟨1⟩) ∧
      (s.handle (.forceRequired ⟨1⟩)).service = s ∧
      (s.extend ⟨1⟩ ⟨5⟩ 20 ⟨10⟩).result = .ok false ∧
      (s.extend ⟨1⟩ ⟨5⟩ 20 ⟨10⟩).service = s ∧
      ∃ outcome, (s.respond ⟨1⟩ ⟨5⟩ .reject).result = .ok outcome ∧
        outcome.isRecognized = false ∧
        (s.respond ⟨1⟩ ⟨5⟩ .reject).service.sessions = s.sessions := by
  intro s
  obtain ⟨herror, hextend, hrespond⟩ := refusals_change_nothing .default
    [.start ⟨1⟩ [(⟨5⟩, .required)] ⟨0⟩, .respond ⟨1⟩ ⟨5⟩ .allow]
  have hclosed : (s.handle (.forceRequired ⟨1⟩)).result = .error (.sessionClosed ⟨1⟩) := by
    decide +kernel
  have hignored : (s.extend ⟨1⟩ ⟨5⟩ 20 ⟨10⟩).result = .ok false := by decide +kernel
  have hduplicate : (s.respond ⟨1⟩ ⟨5⟩ .reject).result =
      .ok ⟨some (.duplicate .required), .allowed, false⟩ := by decide +kernel
  obtain ⟨_, _, -, hservice, -⟩ := hrespond _ _ _ _ hduplicate rfl
  refine ⟨hclosed, herror _ _ hclosed, hignored, hextend _ _ _ _ hignored, _, hduplicate, rfl, ?_⟩
  rw [hservice]

end PackageVerification
