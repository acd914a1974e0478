import Mathlib.Data.List.Sort
import PackageVerification.Proofs.Refusal
import PackageVerification.Replay

/-!
# When deadlines strike

The next deadline of a service is that of the open sessions which strikes first. A look at the clock
before it changes nothing; one that is not before it times somebody out. A deadline is moved by a
request for more time that is granted, and by nothing else. Main statements:
`SessionTable.exists_nextDeadline_le_iff`, `Session.clock_react_cases`,
`Service.service_expire_of_quiet` and `Service.openCount_expire_lt`.
-/

namespace PackageVerification

/-! ## 1. Instants -/

namespace Timestamp

variable {a b t : Timestamp}

theorem le_iff : a ≤ b ↔ a.millis.toNat ≤ b.millis.toNat := UInt64.le_iff_toNat_le

theorem lt_iff : a < b ↔ a.millis.toNat < b.millis.toNat := UInt64.lt_iff_toNat_lt

theorem le_refl (a : Timestamp) : a ≤ a := le_iff.2 (Nat.le_refl _)

theorem le_antisymm (h : a ≤ b) (h' : b ≤ a) : a = b := by
  obtain ⟨a⟩ := a
  obtain ⟨b⟩ := b
  exact congrArg mk (UInt64.le_antisymm h h')

theorem not_le_iff : ¬a ≤ b ↔ b < a := by
  rw [le_iff, lt_iff, Nat.not_le]

theorem earliest_le_iff : a.earliest b ≤ t ↔ a ≤ t ∨ b ≤ t := by
  rw [earliest]
  split_ifs with hlt
  · rw [lt_iff] at hlt
    rw [le_iff, le_iff]
    omega
  · rw [lt_iff] at hlt
    rw [le_iff, le_iff]
    omega

@[simp] theorem toNat_latest (a b : Timestamp) :
    (a.latest b).millis.toNat = max a.millis.toNat b.millis.toNat := by
  rw [latest]
  split_ifs with hlt
  · rw [lt_iff] at hlt
    omega
  · rw [lt_iff] at hlt
    omega

theorem le_latest (a b : Timestamp) : a ≤ a.latest b := by
  rw [le_iff, toNat_latest]
  exact Nat.le_max_left _ _

def last : Timestamp := ⟨UInt64.ofNat (UInt64.size - 1)⟩

/-- No instant comes after the last. -/
theorem le_last (a : Timestamp) : a ≤ last := by
  have h := a.millis.toNat_lt
  have hlast : last.millis.toNat = 2 ^ 64 - 1 := rfl
  rw [le_iff, hlast]
  omega

end Timestamp

namespace Replay

variable {r : Replay} {d : Timestamp}

@[simp] theorem toNat_instant (r : Replay) (offset : Nat) :
    (r.instant offset).millis.toNat =
      min (r.clock.millis.toNat + offset) (UInt64.size - 1) := by
  simp only [instant]
  rw [UInt64.toNat_ofNat_of_lt' (by simp only [UInt64.size]; omega)]

/-- The clock stops at the last instant, but no deadline is after that. -/
theorem le_instant_iff {offset : Nat} :
    d ≤ r.instant offset ↔ d.millis.toNat ≤ r.clock.millis.toNat + offset := by
  have h := d.millis.toNat_lt
  rw [Timestamp.le_iff, toNat_instant, UInt64.size]
  omega

theorem isDue_instant_iff {x : Session} {offset : Nat} :
    x.isDue (r.instant offset) = true ↔
      x.isOpen = true ∧ x.deadline.millis.toNat ≤ r.clock.millis.toNat + offset := by
  rw [Session.isDue, Bool.and_eq_true, decide_eq_true_eq, le_instant_iff]

/-! ## 2. Ticks -/

def tickOffset (r : Replay) (n : Nat) : Nat := n * r.tickLength

theorem tickLength_pos (r : Replay) : 0 < r.tickLength := by
  rw [tickLength]
  omega

theorem tickOffset_le_iff {m n : Nat} : r.tickOffset m ≤ r.tickOffset n ↔ m ≤ n :=
  Nat.mul_le_mul_right_iff r.tickLength_pos

/-- The first tick after an offset has come by a tick that comes after the offset. -/
theorem tickAfter_le_iff {offset n : Nat} :
    r.tickAfter offset ≤ r.tickOffset n ↔ offset < r.tickOffset n := by
  rw [tickAfter, tickOffset, Nat.mul_le_mul_right_iff r.tickLength_pos, Nat.add_one_le_iff,
    Nat.div_lt_iff_lt_mul r.tickLength_pos]

/-- A deadline has struck by a tick when the instant of that tick, on a clock that never stops, is
not before it. -/
theorem tickFor_le_iff {n : Nat} :
    r.tickFor d ≤ r.tickOffset n ↔ d.millis.toNat ≤ r.clock.millis.toNat + r.tickOffset n := by
  have hpos := r.tickLength_pos
  rw [tickFor, tickOffset, Nat.mul_le_mul_right_iff hpos, ← Nat.lt_add_one_iff,
    Nat.div_lt_iff_lt_mul hpos, Nat.add_mul, Nat.one_mul]
  omega

/-- A deadline that strikes by a tick strikes by the tick before the next one, since there is none
between. -/
theorem tickFor_le_of_lt {n : Nat} (h : r.tickFor d < r.tickOffset (n + 1)) :
    r.tickFor d ≤ r.tickOffset n :=
  Nat.mul_le_mul_right _ (Nat.le_of_lt_succ (Nat.lt_of_mul_lt_mul_right h))

end Replay

/-! ## 3. The next deadline -/

namespace SessionTable

/-- Two tables are the same when they have the same session for each id. -/
theorem ext_get? {t t' : SessionTable} (h : ∀ id, t.get? id = t'.get? id) : t = t' := by
  have hmem : ∀ x, x ∈ t.toList ↔ x ∈ t'.toList := fun x => by
    rw [mem_toList_iff, mem_toList_iff, h]
  have : Std.Asymm fun a b : Session => a.id < b.id :=
    ⟨fun a _ h h' => UInt64.lt_irrefl a.id.number (UInt64.lt_trans h h')⟩
  have hlist := t.ascending.eq_of_mem_iff t'.ascending hmem
  cases t
  cases t'
  simp_all

theorem exists_foldl_earliest_le_iff (xs : List Session) (first : Option Timestamp)
    (now : Timestamp) :
    (∃ d ∈ xs.foldl
        (fun earliest s =>
          if s.isOpen then some ((earliest.map (·.earliest s.deadline)).getD s.deadline)
          else earliest)
        first, d ≤ now) ↔
      (∃ d ∈ first, d ≤ now) ∨ ∃ x ∈ xs, x.isDue now = true := by
  induction xs generalizing first with
  | nil => simp
  | cons x xs ih =>
    rw [List.foldl_cons, ih, List.exists_mem_cons_iff, ← or_assoc]
    refine or_congr_left ?_
    rw [Session.isDue, Bool.and_eq_true, decide_eq_true_eq]
    by_cases hopen : x.isOpen = true
    · rw [if_pos hopen, and_iff_right hopen]
      cases first with
      | none => simp
      | some d => simp [Timestamp.earliest_le_iff]
    · simp [hopen]

/-- The next deadline has struck when some session is due. -/
theorem exists_nextDeadline_le_iff {t : SessionTable} {now : Timestamp} :
    (∃ d ∈ t.nextDeadline, d ≤ now) ↔ ∃ x ∈ t.toList, x.isDue now = true := by
  rw [nextDeadline, exists_foldl_earliest_le_iff]
  simp

theorem nextDeadline_eq_none_iff {t : SessionTable} :
    t.nextDeadline = none ↔ ∀ x ∈ t.toList, x.isOpen = false := by
  have hlast : (∃ d ∈ t.nextDeadline, d ≤ Timestamp.last) ↔
      ∃ x ∈ t.toList, x.isDue Timestamp.last = true := exists_nextDeadline_le_iff
  simp only [Session.isDue, Timestamp.le_last, decide_true, Bool.and_true, and_true] at hlast
  rw [← not_iff_not, ← ne_eq, Option.ne_none_iff_exists']
  simpa [Option.mem_def] using hlast

def openCount (t : SessionTable) : Nat := t.toList.countP (·.isOpen)

theorem openCount_le_size (t : SessionTable) : t.openCount ≤ t.size := List.countP_le_length

end SessionTable

/-! ## 4. What moves a deadline -/

namespace Session

variable {x : Session} {verifier : VerifierId} {extra : UInt64} {now : Timestamp}

/-- More time is granted once, to a verifier of an open session. -/
theorem extend_granted_iff :
    (x.extend verifier extra now).result = true ↔
      x.tracker.timeoutExtended = false ∧ x.isOpen = true ∧
        x.tracker.isRegistered verifier = true := by
  rw [extend]
  cases x.tracker.isRegistered verifier <;> cases x.isOpen <;> cases x.tracker.timeoutExtended <;>
    simp

def prolonged (x : Session) (instant : Timestamp) : Session :=
  { x with tracker := x.tracker.extendTimeout, deadline := x.deadline.latest instant }

theorem extend_of_granted (h : (x.extend verifier extra now).result = true) :
    (x.extend verifier extra now).session = x.prolonged (now.later extra) ∧
      (x.extend verifier extra now).trace.events =
        [.timeoutExtended x.id (x.prolonged (now.later extra)).deadline] := by
  rw [extend] at h ⊢
  split_ifs at h ⊢
  exact ⟨rfl, rfl⟩

structure SameClock (x y : Session) : Prop where
  startedAt : y.startedAt = x.startedAt
  deadline : y.deadline = x.deadline
  timeoutExtended : y.tracker.timeoutExtended = x.tracker.timeoutExtended

theorem SameClock.refl (x : Session) : x.SameClock x := ⟨rfl, rfl, rfl⟩

theorem SameClock.trans {x y z : Session} (h : x.SameClock y) (h' : y.SameClock z) :
    x.SameClock z :=
  ⟨h'.startedAt.trans h.startedAt, h'.deadline.trans h.deadline,
    h'.timeoutExtended.trans h.timeoutExtended⟩

theorem sameClock_reportCompletion (x : Session) : x.SameClock x.reportCompletion.1 := by
  unfold reportCompletion
  split <;> exact ⟨rfl, rfl, rfl⟩

/-- The clock is not touched by any request but one for more time. -/
theorem sameClock_react {c : Configuration} {q : Request}
    (hq : ∀ verifier extra now, q ≠ .extend x.id verifier extra now) :
    x.SameClock (x.react c q).1 := by
  -- Of the requests that do anything, each leaves the three fields of the clock to one for more
  -- time.
  cases q with
  | start | finish | drain => exact .refl x
  | respond id v a =>
    rw [react]
    split_ifs
    · rw [Change.effect]
      rcases x.respond_cases v a with ⟨-, hsession, -⟩ | ⟨-, hsession, -⟩
      · rw [hsession]
        exact .refl x
      · rw [hsession]
        have hanswered : x.SameClock (x.answered v a) :=
          ⟨rfl, rfl, x.tracker.timeoutExtended_answer v a⟩
        exact hanswered.trans (sameClock_reportCompletion _)
    · exact .refl x
  | extend id v ms now =>
    rw [react, if_neg]
    · exact .refl x
    · rintro ⟨rfl, -⟩
      exact hq v ms now rfl
  | recordIntegrity id a =>
    rw [react]
    split_ifs <;> exact ⟨rfl, rfl, rfl⟩
  | forceRequired id =>
    rw [react]
    split_ifs
    · rw [Change.effect]
      rcases x.forceRequired_cases with ⟨-, hsession, -⟩ | ⟨-, -, -, hsession, -⟩
      · rw [hsession]
        exact .refl x
      · rw [hsession]
        have hforced : x.SameClock x.forced := ⟨rfl, rfl, rfl⟩
        exact hforced.trans (sameClock_reportCompletion _)
    · exact .refl x
  | expire now =>
    rw [react, strike]
    split_ifs
    · rw [(x.timeOut_eq _ now).1]
      have hstruck : x.SameClock (x.struck c.silentAnswer) := by
        refine ⟨rfl, rfl, ?_⟩
        rw [struck, answerAll_eq_hear]
        exact (x.tracker.hear_frame _).2.2.1
      exact hstruck.trans (sameClock_reportCompletion _)
    · exact .refl x

/-- A request that is granted more time prolongs the session; any other one leaves its clock as it
is. -/
theorem clock_react_cases (c : Configuration) (x : Session) (q : Request) :
    (∃ verifier extra now, q = .extend x.id verifier extra now ∧ ¬c.maxExtension < extra ∧
        (x.extend verifier extra now).result = true ∧
        (x.react c q).1 = x.prolonged (now.later extra)) ∨
      ((∀ verifier extra now, q = .extend x.id verifier extra now →
          c.maxExtension < extra ∨ (x.extend verifier extra now).result = false) ∧
        x.SameClock (x.react c q).1) := by
  by_cases hq : ∃ verifier extra now, q = .extend x.id verifier extra now
  · obtain ⟨v, ms, now, rfl⟩ := hq
    by_cases hgranted : ¬c.maxExtension < ms ∧ (x.extend v ms now).result = true
    -- A request that names the session is granted by the limit first, then by the session.
    · refine .inl ⟨v, ms, now, rfl, hgranted.1, hgranted.2, ?_⟩
      rw [react, if_pos ⟨rfl, hgranted.1⟩]
      exact (extend_of_granted hgranted.2).1
    · rw [not_and_or, not_not, Bool.not_eq_true] at hgranted
      refine .inr ⟨?_, ?_⟩
      · rintro v' ms' now' ⟨⟩
        exact hgranted
      · rw [react]
        split_ifs with hasked
        · rw [Change.effect, (extend_of_not_granted (hgranted.resolve_left hasked.2)).1]
          exact .refl x
        · exact .refl x
  · have hq : ∀ v ms now, q ≠ .extend x.id v ms now := fun v ms now h => hq ⟨v, ms, now, h⟩
    exact .inr ⟨fun v ms now h => absurd h (hq v ms now), sameClock_react hq⟩

/-- A session that has been given more time is given no more. -/
theorem deadline_react_of_extended (c : Configuration) {x : Session} (q : Request)
    (h : x.tracker.timeoutExtended = true) :
    (x.react c q).1.deadline = x.deadline ∧ (x.react c q).1.tracker.timeoutExtended = true := by
  rcases x.clock_react_cases c q with ⟨_, _, _, -, -, hgranted, -⟩ | ⟨-, hsame⟩
  · exact absurd ((extend_granted_iff.1 hgranted).1.symm.trans h) Bool.false_ne_true
  · exact ⟨hsame.deadline, hsame.timeoutExtended.trans h⟩

/-- A deadline is never moved to an earlier instant. -/
theorem deadline_le_react (x : Session) (c : Configuration) (q : Request) :
    x.deadline ≤ (x.react c q).1.deadline := by
  rcases x.clock_react_cases c q with ⟨_, _, _, -, -, -, hsession⟩ | ⟨-, hsame⟩
  · rw [hsession]
    exact x.deadline.le_latest _
  · rw [hsame.deadline]
    exact Timestamp.le_refl _

end Session

/-! ## 5. A request and the sessions that wait -/

namespace Session

/-- A session that is over does not open again. -/
theorem isOpen_of_isOpen_react {x : Session} {c : Configuration} {q : Request}
    (h : (x.react c q).1.isOpen = true) : x.isOpen = true := by
  -- To report a completion closes a session, so what is open after it was open before.
  have hreport : ∀ y : Session, y.reportCompletion.1.isOpen = true → y.isOpen = true := by
    intro y hy
    unfold reportCompletion at hy
    split at hy
    · simp [isOpen] at hy
    · exact hy
  revert h
  refine x.react_induction c (P := fun e => e.1.isOpen = true → x.isOpen = true) ?idle ?respond
    ?extend ?integrity ?force ?timeOut q
  case idle => exact fun h => h
  case respond =>
    intro v a h
    rw [Change.effect] at h
    rcases x.respond_cases v a with ⟨-, hsession, -⟩ | ⟨-, hsession, -⟩
    · rwa [hsession] at h
    · rw [hsession] at h
      exact hreport (x.answered v a) h
  case extend =>
    intro v ms now h
    rw [Change.effect] at h
    rcases x.extend_cases v ms now with ⟨hsession, -⟩ | ⟨hopen, -⟩
    · rwa [hsession] at h
    · exact hopen
  case integrity => exact fun a h => h
  case force =>
    intro h
    rw [Change.effect] at h
    rcases x.forceRequired_cases with ⟨-, hsession, -⟩ | ⟨-, hopen, -⟩
    · rwa [hsession] at h
    · exact hopen
  case timeOut => exact fun now hopen _ => hopen

/-- A session that is due has been closed by a look at the clock. -/
theorem isOpen_strike_of_isDue {x : Session} (default : Answer) {now : Timestamp}
    (h : x.isDue now = true) : (x.strike default now).1.isOpen = false := by
  rw [strike, if_pos h, (x.timeOut_eq default now).1, isOpen, timedOut_reportCompletion]
  rfl

/-- Nobody is due after a look at the clock. -/
theorem isDue_strike (x : Session) (default : Answer) (now : Timestamp) :
    (x.strike default now).1.isDue now = false := by
  by_cases hdue : x.isDue now = true
  · rw [isDue, isOpen_strike_of_isDue default hdue, Bool.false_and]
  · rw [strike, if_neg hdue]
    simpa using hdue

/-- A session waits until it is decided. -/
theorem Sound.isOpen_iff {x : Session} (h : x.Sound) : x.isOpen = true ↔ x.verdict = .pending := by
  have hreported := h.reported
  have htimedOut := h.timedOut
  rw [Session.isOpen_iff]
  constructor
  · rintro ⟨-, hnot⟩
    cases hverdict : x.verdict with
    | pending => rfl
    | allowed | rejected =>
      rw [hreported.2 (by rw [hverdict]; rfl)] at hnot
      cases hnot
  · intro hpending
    have hnot : x.completionReported = false := by
      rw [← Bool.not_eq_true, hreported, hpending]
      exact Bool.false_ne_true
    refine ⟨?_, hnot⟩
    rw [← Bool.not_eq_true]
    exact fun h' => Bool.false_ne_true (hnot.symm.trans (htimedOut h'))

end Session

theorem Trace.isSilent_foldr_empty {α : Type} (as : List α) :
    ((as.map fun _ => Trace.empty).foldr (· ++ ·) Trace.empty).IsSilent := by
  induction as with
  | nil => exact ⟨rfl, rfl⟩
  | cons a as ih => exact ih

namespace Service

variable {s : Service}

/-- A request acts on the table as on each session of it. -/
theorem sessions_handle (s : Service) {q : Request}
    (hstart : ∀ id roster now, q ≠ .start id roster now) (hfinish : ∀ id, q ≠ .finish id) :
    (s.handle q).service.sessions =
      s.sessions.map (fun x => (x.react s.configuration q).1)
        fun x => (x.keeps_react s.configuration q).1 := by
  refine SessionTable.ext_get? fun id => ?_
  rw [SessionTable.get?_map]
  by_cases hdrain : q = .drain
  · subst hdrain
    exact Option.map_id'.symm
  · exact (s.acts_handle hstart hfinish hdrain).get? id

theorem openCount_handle_le (s : Service) {q : Request}
    (hstart : ∀ id roster now, q ≠ .start id roster now) (hfinish : ∀ id, q ≠ .finish id) :
    (s.handle q).service.sessions.openCount ≤ s.sessions.openCount := by
  rw [s.sessions_handle hstart hfinish]
  show (s.sessions.toList.map _).countP _ ≤ s.sessions.toList.countP _
  rw [List.countP_map]
  exact List.countP_mono_left fun x _ hx => Session.isOpen_of_isOpen_react hx

/-- When somebody is due, a look at the clock leaves fewer sessions that wait. -/
theorem openCount_expire_lt {now : Timestamp}
    (h : ∃ x ∈ s.sessions.toList, x.isDue now = true) :
    (s.expire now).service.sessions.openCount < s.sessions.openCount := by
  let after : Session → Bool := fun x => (x.strike s.defaultAnswer now).1.isOpen
  obtain ⟨x, hx, hdue⟩ := h
  have hclosed : after x = false := Session.isOpen_strike_of_isDue _ hdue
  have hopen : x.isOpen = true := ((Bool.and_eq_true _ _).mp hdue).1
  have hfewer : 0 < (s.sessions.toList.filter (!after ·)).countP (·.isOpen) :=
    List.countP_pos_iff.2 ⟨x, List.mem_filter.2 ⟨hx, by rw [hclosed]; rfl⟩, hopen⟩
  have hrest : s.sessions.toList.countP after ≤
      (s.sessions.toList.filter after).countP (·.isOpen) := by
    rw [List.countP_filter]
    refine List.countP_mono_left fun y _ hy => ?_
    rw [Bool.and_eq_true]
    exact ⟨Session.isOpen_of_isOpen_react (q := .expire now) hy, hy⟩
  show (s.sessions.toList.map _).countP _ < s.sessions.toList.countP _
  rw [List.countP_map, List.countP_eq_countP_filter_add s.sessions.toList (·.isOpen) after]
  exact Nat.lt_of_le_of_lt hrest (Nat.lt_add_of_pos_right hfewer)

/-- Nobody is due among those that a look at the clock leaves. -/
theorem isDue_of_mem_expire {now : Timestamp} {x : Session}
    (hx : x ∈ (s.expire now).service.sessions.toList) : x.isDue now = false := by
  obtain ⟨y, -, rfl⟩ := List.mem_map.1 hx
  exact y.isDue_strike s.defaultAnswer now

/-- A look at the clock when nobody is due changes nothing. -/
theorem service_expire_of_quiet {now : Timestamp}
    (h : ∀ x ∈ s.sessions.toList, x.isDue now = false) : (s.expire now).service = s := by
  have hstrike : ∀ x ∈ s.sessions.toList, x.strike s.defaultAnswer now = (x, .empty) := by
    intro x hx
    rw [Session.strike, h x hx, if_neg Bool.false_ne_true]
  have hsessions : (s.expire now).service.sessions = s.sessions := by
    refine SessionTable.ext_get? fun id => ?_
    rw [(s.acts_expire now).get?]
    cases hx : s.sessions.get? id with
    | none => rfl
    | some x =>
      have hmem := SessionTable.mem_toList_iff.2 ((SessionTable.id_of_get? hx).symm ▸ hx)
      rw [Option.map_some, hstrike x hmem]
  -- The traces are all empty, so there is nothing to record either.
  have htraces : (s.sessions.toList.map fun x => (x.strike s.defaultAnswer now).2) =
      s.sessions.toList.map fun _ => .empty :=
    List.map_congr_left fun x hx => congrArg Prod.snd (hstrike x hx)
  have htrace : ((s.sessions.toList.map fun x => (x.strike s.defaultAnswer now).2).foldr (· ++ ·)
      Trace.empty).IsSilent := by
    rw [htraces]
    exact Trace.isSilent_foldr_empty _
  show ({ s with sessions := (s.expire now).service.sessions } : Service).record _ = s
  rw [hsessions]
  exact s.record_of_isSilent htrace

end Service

/-- The deadline that a session begins with is the least that it has. -/
theorem Lifetime.deadline_le_session {c : Configuration} {id : SessionId} (l : Lifetime c id) :
    l.first.deadline ≤ l.session.deadline := by
  induction l using induction with
  | begun l hl =>
    rw [session, hl]
    exact Timestamp.le_refl _
  | goes_on l q hq ih =>
    rw [session_goOn, Timestamp.le_iff]
    exact (Timestamp.le_iff.1 ih).trans (Timestamp.le_iff.1 (l.session.deadline_le_react c q))

end PackageVerification
