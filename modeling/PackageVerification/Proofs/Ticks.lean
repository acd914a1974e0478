import Mathlib.Data.List.Perm.Basic
import PackageVerification.Proofs.Balance

/-!
# Looks at the clock

A look at the clock times out the sessions that are due. To look when the next deadline strikes is
enough, and to look more often does no harm: a session times out once, and comes to the same
whenever that is. Main statements: `nextDeadline_wakes`, the next deadline is when to look;
`expire_before_expire`, a look at the clock before another one.
-/

namespace PackageVerification

/-! ## 1. A session under a look at the clock -/

namespace Session

variable {c : Configuration} {x : Session} {now later : Timestamp}

def lapse (c : Configuration) (x : Session) (now : Timestamp) : Session :=
  (x.react c (.expire now)).1

theorem lapse_of_not_due (h : x.isDue now = false) : x.lapse c now = x := by
  rw [lapse, react, strike, h, if_neg Bool.false_ne_true]

theorem lapse_of_closed (h : x.isOpen = false) (now : Timestamp) : x.lapse c now = x :=
  lapse_of_not_due (by rw [isDue, h, Bool.false_and])

/-- When a session times out does not matter to how it stands then. -/
theorem lapse_of_due (h : x.isDue now = true) :
    x.lapse c now = (x.struck c.silentAnswer).reportCompletion.1 := by
  rw [lapse, react, strike, if_pos h, (x.timeOut_eq _ now).1]

theorem isOpen_lapse_of_due (h : x.isDue now = true) : (x.lapse c now).isOpen = false :=
  isOpen_strike_of_isDue c.silentAnswer h

theorem isDue_mono (hle : now ≤ later) (h : x.isDue now = true) : x.isDue later = true := by
  rw [isDue, Bool.and_eq_true, decide_eq_true_eq] at h ⊢
  rw [Timestamp.le_iff] at hle h ⊢
  exact ⟨h.1, h.2.trans hle⟩

theorem lapse_lapse (hle : now ≤ later) : (x.lapse c now).lapse c later = x.lapse c later := by
  by_cases hdue : x.isDue now = true
  · rw [lapse_of_closed (isOpen_lapse_of_due hdue), lapse_of_due hdue,
      lapse_of_due (isDue_mono hle hdue)]
  · have hsame : x.lapse c now = x := lapse_of_not_due (by simpa using hdue)
    rw [hsame]

/-- A session that a look at the clock leaves closed is left the same by every later look. -/
theorem lapse_eq_of_closed (hle : now ≤ later) (h : (x.lapse c now).isOpen = false) :
    x.lapse c now = x.lapse c later := by
  rw [← lapse_lapse hle, lapse_of_closed h]

theorem isOpen_react_of_closed (h : x.isOpen = false) (q : Request) :
    (x.react c q).1.isOpen = false := by
  by_contra hopen
  rw [isOpen_of_isOpen_react (by simpa using hopen)] at h
  cases h

/-- Two looks take whom the later one would take alone, and nobody twice. -/
theorem isDue_lapse (now later : Timestamp) :
    (x.lapse c now).isDue later = (!x.isDue now && x.isDue later) := by
  by_cases hdue : x.isDue now = true
  · rw [isDue, isOpen_lapse_of_due hdue, hdue]
    rfl
  · rw [Bool.not_eq_true] at hdue
    rw [lapse_of_not_due hdue, hdue]
    rfl

def toll (c : Configuration) (x : Session) (now : Timestamp) : List Event × List Total :=
  ((x.react c (.expire now)).2.events, (x.react c (.expire now)).2.counted)

theorem toll_of_not_due (h : x.isDue now = false) : x.toll c now = ([], []) := by
  rw [toll, react, strike, h, if_neg Bool.false_ne_true]
  rfl

/-- The instant at which a session times out is in the log only. -/
theorem toll_of_due (h : x.isDue now = true) :
    x.toll c now =
      (.sessionTimedOut x.id :: (x.struck c.silentAnswer).reportCompletion.2.events,
        .sessionsTimedOut :: (x.struck c.silentAnswer).reportCompletion.2.counted) := by
  rw [toll, react, strike, if_pos h]
  rfl

theorem toll_lapse (hle : now ≤ later) :
    (x.toll c now).1 ++ ((x.lapse c now).toll c later).1 = (x.toll c later).1 ∧
      (x.toll c now).2 ++ ((x.lapse c now).toll c later).2 = (x.toll c later).2 := by
  by_cases hdue : x.isDue now = true
  · have hclosed : (x.lapse c now).isDue later = false := by
      rw [isDue_lapse, hdue]
      rfl
    rw [toll_of_not_due hclosed, toll_of_due hdue, toll_of_due (isDue_mono hle hdue)]
    exact ⟨List.append_nil _, List.append_nil _⟩
  · rw [Bool.not_eq_true] at hdue
    rw [toll_of_not_due hdue, lapse_of_not_due hdue]
    exact ⟨rfl, rfl⟩

/-- A session that is over does not time out any more. -/
theorem timedOut_react_of_closed (h : x.isOpen = false) (q : Request) :
    (x.react c q).1.timedOut = x.timedOut := by
  refine x.react_induction c (P := fun e => e.1.timedOut = x.timedOut) ?idle ?respond ?extend
    ?integrity ?force ?timeOut q
  case idle => rfl
  case respond =>
    intro v a
    rw [Change.effect]
    rcases x.respond_cases v a with ⟨-, hsession, -⟩ | ⟨-, hsession, -⟩
    · rw [hsession]
    · rw [hsession, timedOut_reportCompletion, answered]
  case extend =>
    intro v ms now
    rw [Change.effect]
    rcases x.extend_cases v ms now with ⟨hsession, -⟩ | ⟨-, -, _, hsession, -⟩ <;> rw [hsession]
  case integrity => exact fun a => rfl
  case force =>
    rw [Change.effect]
    rcases x.forceRequired_cases with ⟨-, hsession, -⟩ | ⟨-, -, -, hsession, -⟩
    · rw [hsession]
    · rw [hsession, timedOut_reportCompletion, forced]
  case timeOut => exact fun now hopen => absurd (h.symm.trans hopen) Bool.false_ne_true

end Session

/-! ## 2. A service under a look at the clock -/

namespace Service

variable {s : Service} {now later : Timestamp} {id : SessionId}

theorem get?_expire (s : Service) (now : Timestamp) (id : SessionId) :
    (s.expire now).service.sessions.get? id =
      (s.sessions.get? id).map (·.lapse s.configuration now) :=
  (s.acts_expire now).get? id

theorem mem_result_expire_iff :
    id ∈ (s.expire now).result ↔ ∃ x, s.sessions.get? id = some x ∧ x.isDue now = true := by
  cases hx : s.sessions.get? id with
  | some x => simp [s.mem_result_expire hx]
  | none =>
    refine iff_of_false (fun hid => ?_) (by simp)
    obtain ⟨x, hdue, rfl⟩ := List.mem_map.1 hid
    rw [SessionTable.mem_toList_iff.1 (List.mem_filter.1 hdue).1] at hx
    cases hx

/-- The sessions that time out are told in the order of their ids. -/
theorem ascending_result_expire (s : Service) (now : Timestamp) :
    (s.expire now).result.Pairwise (· < ·) :=
  List.pairwise_map.2 (s.sessions.ascending.filter _)

theorem nodup_result_expire (s : Service) (now : Timestamp) : (s.expire now).result.Nodup := by
  refine (s.ascending_result_expire now).imp fun {a b} hlt => ?_
  rintro rfl
  exact UInt64.lt_irrefl a.number hlt

theorem result_expire_eq_nil_iff :
    (s.expire now).result = [] ↔ ∀ x ∈ s.sessions.toList, x.isDue now = false := by
  show (s.sessions.toList.filter (·.isDue now)).map (·.id) = [] ↔ _
  rw [List.map_eq_nil_iff, List.filter_eq_nil_iff]
  simp only [Bool.not_eq_true]

/-- A look at the clock changes something only if somebody is due. -/
theorem service_expire_eq_self_iff :
    (s.expire now).service = s ↔ ∀ x ∈ s.sessions.toList, x.isDue now = false := by
  refine ⟨fun hsame x hx => ?_, service_expire_of_quiet⟩
  rw [← hsame] at hx
  exact isDue_of_mem_expire hx

theorem events_expire (s : Service) (now : Timestamp) :
    (s.expire now).service.events =
      s.events ++ s.sessions.toList.flatMap fun x => (x.toll s.configuration now).1 := by
  let traces := s.sessions.toList.map fun x => (x.strike s.defaultAnswer now).2
  show s.events ++ (traces.foldr (· ++ ·) Trace.empty).events = _
  rw [Trace.events_foldr, List.flatMap_map]
  rfl

theorem totals_expire (s : Service) (now : Timestamp) :
    (s.expire now).service.totals =
      tallied s.totals (s.sessions.toList.flatMap fun x => (x.toll s.configuration now).2) := by
  have hcounted : ∀ ts : List Trace,
      (ts.foldr (· ++ ·) Trace.empty).counted = ts.flatMap (·.counted) := by
    intro ts
    induction ts with
    | nil => rfl
    | cons t ts ih => simp [ih]
  let traces := s.sessions.toList.map fun x => (x.strike s.defaultAnswer now).2
  show tallied s.totals (traces.foldr (· ++ ·) Trace.empty).counted = _
  rw [hcounted, List.flatMap_map]
  rfl

/-- What is over stays so until it is finished. -/
theorem closed_after {x : Session} (hx : s.sessions.get? id = some x) (h : x.isOpen = false)
    {rs : List Request} (hrs : .finish id ∉ rs) :
    ∃ y, (s.after rs).sessions.get? id = some y ∧ y.isOpen = false ∧ y.timedOut = x.timedOut := by
  induction rs generalizing s x with
  | nil => exact ⟨x, hx, h, rfl⟩
  | cons r rs ih =>
    have hr := (List.ne_of_not_mem_cons hrs).symm
    have hopen := Session.isOpen_react_of_closed (c := s.configuration) h r
    obtain ⟨y, hy, hclosed, htimedOut⟩ :=
      ih (s.get?_handle hx hr) hopen (List.not_mem_of_not_mem_cons hrs)
    exact ⟨y, hy, hclosed, htimedOut.trans (Session.timedOut_react_of_closed h r)⟩

end Service

/-! ## 3. When to look -/

/-- No deadline has struck: there is none, or the next one is after `now`. -/
def Service.IsQuiet (s : Service) (now : Timestamp) : Prop :=
  s.nextDeadline = none ∨ ∃ d ∈ s.nextDeadline, now < d

/-- Whoever waits is due once the next deadline has come. -/
theorem Service.isQuiet_iff {s : Service} {now : Timestamp} :
    s.IsQuiet now ↔ ∀ x ∈ s.sessions.toList, x.isDue now = false := by
  have hstruck : (∃ d ∈ s.nextDeadline, d ≤ now) ↔ ∃ x ∈ s.sessions.toList, x.isDue now = true :=
    SessionTable.exists_nextDeadline_le_iff
  rw [IsQuiet, ← not_iff_not]
  simp only [not_forall, Bool.not_eq_false, exists_prop]
  rw [← hstruck]
  cases s.nextDeadline with
  | none => simp
  | some d => simp [← Timestamp.not_le_iff]

/-- The next deadline of a service, whatever it has been asked. There is none when every session has
a final verdict; else it is the least of the deadlines of those that are undecided. A look at the
clock times nobody out when the deadline is ahead, and only then, and so it is with changing
nothing. When the clock has been looked at the next deadline is ahead. -/
theorem nextDeadline_wakes (c : Configuration) (rs : List Request) :
    let s := (Service.new c).after rs
    (s.nextDeadline = none ↔ ∀ x ∈ s.sessions.toList, x.verdict.isFinal = true) ∧
    (∀ d ∈ s.nextDeadline,
      (∃ x ∈ s.sessions.toList, x.verdict = .pending ∧ x.deadline = d) ∧
      ∀ x ∈ s.sessions.toList, x.verdict = .pending → d ≤ x.deadline) ∧
    ∀ now,
      ((s.expire now).result = [] ↔ s.IsQuiet now) ∧
      ((s.expire now).service = s ↔ s.IsQuiet now) ∧
      (s.expire now).service.IsQuiet now := by
  intro s
  -- A session still open is one whose verdict is pending, for any service that can be reached.
  have hopen : ∀ x ∈ s.sessions.toList, x.isOpen = true ↔ x.verdict = .pending := fun x hx =>
    (Service.sound_of_get? (SessionTable.mem_toList_iff.1 hx)).isOpen_iff
  have hstruck : ∀ now, (∃ d ∈ s.nextDeadline, d ≤ now) ↔
      ∃ x ∈ s.sessions.toList, x.verdict = .pending ∧ x.deadline ≤ now := by
    intro now
    rw [Service.nextDeadline, SessionTable.exists_nextDeadline_le_iff]
    refine exists_congr fun x => and_congr_right fun hx => ?_
    rw [Session.isDue, Bool.and_eq_true, decide_eq_true_eq, hopen x hx]
  refine ⟨?none, fun d hd => ?least, fun now => ⟨?nobody, ?same, ?ahead⟩⟩
  case none =>
    rw [Service.nextDeadline, SessionTable.nextDeadline_eq_none_iff]
    refine forall₂_congr fun x hx => ?_
    rw [← Bool.not_eq_true, hopen x hx]
    cases x.verdict <;> simp [Verdict.isFinal]
  case least =>
    have hleast : ∀ x ∈ s.sessions.toList, x.verdict = .pending → d ≤ x.deadline := by
      intro x hx hpending
      obtain ⟨d', hd', hle⟩ := (hstruck x.deadline).2 ⟨x, hx, hpending, Timestamp.le_refl _⟩
      rwa [Option.mem_unique hd hd']
    obtain ⟨x, hx, hpending, hle⟩ := (hstruck d).1 ⟨d, hd, Timestamp.le_refl d⟩
    exact ⟨⟨x, hx, hpending, Timestamp.le_antisymm hle (hleast x hx hpending)⟩, hleast⟩
  case nobody => exact Service.result_expire_eq_nil_iff.trans Service.isQuiet_iff.symm
  case same => exact Service.service_expire_eq_self_iff.trans Service.isQuiet_iff.symm
  case ahead => exact Service.isQuiet_iff.2 fun x => Service.isDue_of_mem_expire

/-- Three sessions with one deadline. One of them has been decided, one has more time, so that the
third is the next to strike; it strikes when its time has come and not a millisecond before. -/
theorem nextDeadline_wakes_of_tie :
    let s := (Service.new .default).after
      [.start ⟨1⟩ [(⟨5⟩, .required)] ⟨0⟩, .start ⟨2⟩ [(⟨5⟩, .required)] ⟨0⟩,
        .start ⟨3⟩ [(⟨5⟩, .optional)] ⟨0⟩, .respond ⟨1⟩ ⟨5⟩ .allow, .extend ⟨2⟩ ⟨5⟩ 20 ⟨9999⟩]
    s.nextDeadline = some ⟨10000⟩ ∧ (s.expire ⟨9999⟩).service = s ∧
      (s.expire ⟨10000⟩).result ≠ [] ∧
      (s.expire ⟨10000⟩).service.nextDeadline = some ⟨10019⟩ := by
  intro s
  obtain ⟨-, -, hlook⟩ := nextDeadline_wakes .default
    [.start ⟨1⟩ [(⟨5⟩, .required)] ⟨0⟩, .start ⟨2⟩ [(⟨5⟩, .required)] ⟨0⟩,
      .start ⟨3⟩ [(⟨5⟩, .optional)] ⟨0⟩, .respond ⟨1⟩ ⟨5⟩ .allow, .extend ⟨2⟩ ⟨5⟩ 20 ⟨9999⟩]
  have hnext : s.nextDeadline = some ⟨10000⟩ := by decide +kernel
  refine ⟨hnext, (hlook ⟨9999⟩).2.1.2 (.inr ⟨_, hnext, by decide⟩), fun hnobody => ?_,
    by decide +kernel⟩
  rcases (hlook ⟨10000⟩).1.1 hnobody with hnone | ⟨d, hd, hlt⟩
  · exact absurd (hnext.symm.trans hnone) (by simp)
  · rw [Option.mem_unique hd hnext] at hlt
    exact absurd hlt (by decide)

/-! ## 4. To look more often -/

/-- The order of names does not matter to what is counted under them. -/
theorem Totals.add_right_comm (t : Totals) (name other : String) (amount amount' : UInt64) :
    (t.add name amount).add other amount' = (t.add other amount').add name amount := by
  simp only [add, List.map_map]
  congr 2
  funext e
  by_cases hname : e.1 = name <;> by_cases hother : e.1 = other <;> grind

namespace Service

variable {s : Service} {now later : Timestamp}

theorem tallied_perm (totals : Totals) {counted counted' : List Total}
    (h : counted.Perm counted') : tallied totals counted = tallied totals counted' := by
  have : RightCommutative fun (totals : Totals) (total : Total) => totals.increment total.name :=
    ⟨fun totals _ _ => totals.add_right_comm _ _ 1 1⟩
  exact h.foldl_eq totals

theorem sessions_expire_expire (hle : now ≤ later) :
    ((s.expire now).service.expire later).service.sessions = (s.expire later).service.sessions := by
  refine SessionTable.ext_get? fun id => ?_
  rw [get?_expire, get?_expire, get?_expire, Option.map_map]
  congr 1
  funext x
  exact Session.lapse_lapse hle

/-- Of each session, what two looks tell and count together is what the later one would alone. -/
theorem tolls_expire_expire {α : Type} (f : List Event × List Total → List α)
    (h : ∀ x : Session,
      f (x.toll s.configuration now) ++
          f ((x.lapse s.configuration now).toll s.configuration later) =
        f (x.toll s.configuration later)) :
    ((s.sessions.toList.flatMap fun x => f (x.toll s.configuration now)) ++
        (s.expire now).service.sessions.toList.flatMap
          fun x => f (x.toll s.configuration later)).Perm
      (s.sessions.toList.flatMap fun x => f (x.toll s.configuration later)) := by
  have hsessions : (s.expire now).service.sessions.toList =
      s.sessions.toList.map (·.lapse s.configuration now) := rfl
  rw [hsessions, List.flatMap_map]
  refine (List.flatMap_append_perm _ _ _).trans ?_
  simp only [h, List.Perm.refl]

theorem totals_expire_expire (hle : now ≤ later) :
    ((s.expire now).service.expire later).service.totals = (s.expire later).service.totals := by
  rw [totals_expire, totals_expire, totals_expire, tallied, tallied, tallied, ← List.foldl_append]
  exact tallied_perm s.totals (tolls_expire_expire Prod.snd fun _ => (Session.toll_lapse hle).2)

theorem result_expire_expire (hle : now ≤ later) :
    (∀ id ∈ (s.expire now).result, id ∉ ((s.expire now).service.expire later).result) ∧
      ((s.expire now).result ++ ((s.expire now).service.expire later).result).Perm
        (s.expire later).result := by
  -- What is left for the second call: due by then, and not at the first.
  have hsecond : ∀ id, id ∈ ((s.expire now).service.expire later).result ↔
      ∃ x, s.sessions.get? id = some x ∧ x.isDue now = false ∧ x.isDue later = true := by
    intro id
    rw [mem_result_expire_iff, get?_expire]
    simp [Session.isDue_lapse]
  have hdisjoint : ∀ id ∈ (s.expire now).result,
      id ∉ ((s.expire now).service.expire later).result := by
    intro id hid hid'
    obtain ⟨x, hx, hdue⟩ := mem_result_expire_iff.1 hid
    obtain ⟨y, hy, hnot, -⟩ := (hsecond id).1 hid'
    obtain rfl := Option.some.inj (hx.symm.trans hy)
    exact Bool.false_ne_true (hnot.symm.trans hdue)
  -- Neither side names a session twice, so to agree on members is to be a permutation.
  have hnodup := (s.nodup_result_expire now).append (nodup_result_expire _ later) hdisjoint
  refine ⟨hdisjoint, (List.perm_ext_iff_of_nodup hnodup (s.nodup_result_expire later)).2 ?_⟩
  intro id
  rw [List.mem_append, mem_result_expire_iff, hsecond, mem_result_expire_iff, ← exists_or]
  refine exists_congr fun x => ?_
  rw [← and_or_left]
  refine and_congr_right fun _ => ⟨?_, fun hdue => ?_⟩
  · rintro (hdue | ⟨-, hdue⟩)
    · exact Session.isDue_mono hle hdue
    · exact hdue
  · by_cases hnow : x.isDue now = true
    · exact .inl hnow
    · exact .inr ⟨by simpa using hnow, hdue⟩

theorem events_expire_expire (hle : now ≤ later) :
    ∃ told told' all : List Event,
      (s.expire now).service.events = s.events ++ told ∧
      ((s.expire now).service.expire later).service.events = s.events ++ told ++ told' ∧
      (s.expire later).service.events = s.events ++ all ∧ (told ++ told').Perm all ∧
      ∀ id, (told ++ told').filter (·.session = id) = all.filter (·.session = id) := by
  -- The events of one session are those of its own toll, whatever order the table is read in.
  have hfilter : ∀ (t : SessionTable) (now : Timestamp) (id : SessionId),
      (t.toList.flatMap fun x => (x.toll s.configuration now).1).filter (·.session = id) =
        ((t.get? id).map fun x => (x.toll s.configuration now).1).getD [] := by
    intro t now id
    rw [List.filter_flatMap]
    simp only [Session.toll, (Session.keeps_react _ _ _).filter_events, SessionTable.flatMap_id]
  refine ⟨_, _, _, s.events_expire now, ?_, s.events_expire later,
    tolls_expire_expire Prod.fst fun _ => (Session.toll_lapse hle).1, fun id => ?_⟩
  · rw [events_expire, events_expire]
    rfl
  · rw [List.filter_append, hfilter, hfilter, hfilter, get?_expire]
    cases s.sessions.get? id with
    | none => rfl
    | some x => exact (Session.toll_lapse hle).1

end Service

/-- To look at the clock once more, before, does no harm. Two looks leave the sessions and totals
that the later one alone would leave; nobody times out twice, and together they time out whom that
one would; what they tell is what it would tell, in another order at most, and in the same order of
each session. To look again at that time, or as of an earlier one, does nothing. A session that is
over stays over, whatever is requested but to finish it and whatever the clock says after that. -/
theorem expire_before_expire (s : Service) {now later : Timestamp} (hle : now ≤ later) :
    let first := s.expire now
    let second := first.service.expire later
    let once := s.expire later
    (second.service.sessions = once.service.sessions ∧
      second.service.totals = once.service.totals) ∧
    ((∀ id ∈ first.result, id ∉ second.result) ∧
      (first.result ++ second.result).Perm once.result) ∧
    (∃ told told' all : List Event,
      first.service.events = s.events ++ told ∧
      second.service.events = s.events ++ told ++ told' ∧
      once.service.events = s.events ++ all ∧ (told ++ told').Perm all ∧
      ∀ id, (told ++ told').filter (·.session = id) = all.filter (·.session = id)) ∧
    (∀ earlier, earlier ≤ later →
      (once.service.expire earlier).result = [] ∧
        (once.service.expire earlier).service = once.service) ∧
    (∀ id ∈ once.result, ∃ x, once.service.sessions.get? id = some x ∧ x.timedOut = true) ∧
    ∀ id x rs earlier, once.service.sessions.get? id = some x → x.isOpen = false →
      .finish id ∉ rs →
      id ∉ ((once.service.after rs).expire earlier).result ∧
        ∃ y, ((once.service.after rs).expire earlier).service.sessions.get? id = some y ∧
          y.isOpen = false ∧ y.timedOut = x.timedOut := by
  intro first second once
  refine ⟨⟨Service.sessions_expire_expire hle, Service.totals_expire_expire hle⟩,
    Service.result_expire_expire hle, Service.events_expire_expire hle,
    fun earlier hearlier => ?again, fun id hid => ?struck,
    fun id x rs earlier hx hclosed hrs => ?closed⟩
  case again =>
    have hquiet : ∀ x ∈ once.service.sessions.toList, x.isDue earlier = false := by
      intro x hx
      rw [← Bool.not_eq_true]
      intro hdue
      have hdue' := Session.isDue_mono hearlier hdue
      rw [Service.isDue_of_mem_expire hx] at hdue'
      exact Bool.false_ne_true hdue'
    exact ⟨Service.result_expire_eq_nil_iff.2 hquiet, Service.service_expire_of_quiet hquiet⟩
  case struck =>
    obtain ⟨x, hx, hdue⟩ := Service.mem_result_expire_iff.1 hid
    refine ⟨x.lapse s.configuration later, ?_, ?_⟩
    · rw [Service.get?_expire, hx]
      rfl
    · rw [Session.lapse_of_due hdue, Session.timedOut_reportCompletion]
      rfl
  case closed =>
    obtain ⟨y, hy, hclosed', htimedOut⟩ := Service.closed_after hx hclosed hrs
    refine ⟨fun hid => ?_, y, ?_, hclosed', htimedOut⟩
    · rw [Service.mem_result_expire _ hy, Session.isDue, hclosed', Bool.false_and] at hid
      exact Bool.false_ne_true hid
    · rw [Service.get?_expire, hy, Option.map_some, Session.lapse_of_closed hclosed']

/-- Two sessions strike at one time and a third at an earlier one, though its id is the last. With a
look at the clock in between it is told first; the totals are the same. -/
theorem expire_before_expire_of_tie :
    let s := (Service.new .default).after
      [.start ⟨7⟩ [(⟨5⟩, .required)] ⟨0⟩, .start ⟨2⟩ [(⟨5⟩, .required)] ⟨20⟩,
        .start ⟨3⟩ [(⟨5⟩, .optional)] ⟨20⟩]
    let once := s.expire ⟨10020⟩
    let twice := (s.expire ⟨10010⟩).service.expire ⟨10020⟩
    let told : SessionId → List Event :=
      fun id => [.sessionTimedOut id, .sessionCompleted id .rejected]
    (s.expire ⟨10010⟩).result = [⟨7⟩] ∧
      twice.service.sessions = once.service.sessions ∧
      twice.service.totals = once.service.totals ∧
      once.service.totals.get "sessions_timed_out" = 3 ∧
      twice.service.events = s.events ++ told ⟨7⟩ ++ told ⟨2⟩ ++ told ⟨3⟩ ∧
      once.service.events = s.events ++ told ⟨2⟩ ++ told ⟨3⟩ ++ told ⟨7⟩ ∧
      once.result = [⟨2⟩, ⟨3⟩, ⟨7⟩] ∧
      ⟨7⟩ ∉ ((once.service.after [.start ⟨9⟩ [(⟨5⟩, .required)] ⟨0⟩]).expire ⟨10010⟩).result := by
  intro s once twice told
  obtain ⟨⟨hsessions, htotals⟩, -, -, -, htimedOut, hover⟩ :=
    expire_before_expire s (show (⟨10010⟩ : Timestamp) ≤ ⟨10020⟩ by decide)
  have hall : once.result = [⟨2⟩, ⟨3⟩, ⟨7⟩] := by decide +kernel
  -- Session 7 is due ten units before the others, yet comes after them when one call takes all
  -- three.
  obtain ⟨x, hx, hstruck⟩ := htimedOut ⟨7⟩ (by rw [hall]; decide)
  have hclosed : x.isOpen = false := by rw [Session.isOpen, hstruck]; rfl
  exact ⟨by decide +kernel, hsessions, htotals, by decide +kernel, by decide +kernel,
    by decide +kernel, hall, (hover _ x _ _ hx hclosed (by decide)).1⟩

end PackageVerification
