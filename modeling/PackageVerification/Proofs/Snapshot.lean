import PackageVerification.Proofs.Enrolment
import PackageVerification.Proofs.JsonText
import PackageVerification.Tracker.Operation
import PackageVerification.Tracker.Snapshot

/-!
# Trackers that are written and read back

A tracker may be put away as text at any time and taken up again later. Nothing of it is lost as
long as the answers it was told came in by one of the ways there are, since an answer under the code
of another would be read back as that other. Main statements: `restore?_snapshot`, a tracker reads
back from its text; `snapshots_transparent`, neither a run nor a document can tell the difference.
-/

namespace PackageVerification

/-! ## 1. Answers as data -/

namespace Answer

def Received (a : Answer) : Prop :=
  (∃ code, ofCode code = a) ∨ (∃ text, read text = .ok a) ∨ ∃ d, ofData? d = some a

theorem canonical_of_ofName? {word : List Char} {a : Answer} (h : ofName? word = some a) :
    a.Canonical := by
  unfold ofName? at h
  split_ifs at h <;> obtain rfl := Option.some.inj h <;> decide

/-- No text is read as an answer under the code of another. -/
theorem canonical_of_ofText? {text : String} {a : Answer} (h : ofText? text = some a) :
    a.Canonical := by
  simp only [ofText?] at h
  split at h
  · rename_i b hb
    exact Option.some.inj h ▸ canonical_of_ofName? hb
  · obtain ⟨code, -, rfl⟩ := Option.map_eq_some_iff.1 h
    exact canonical_ofCode code

theorem canonical_of_ofData? {d : Data} {a : Answer} (h : ofData? d = some a) : a.Canonical := by
  unfold ofData? at h
  split at h
  · obtain ⟨code, -, rfl⟩ := Option.map_eq_some_iff.1 h
    exact canonical_ofCode code
  · exact canonical_of_ofText? h
  · cases h

/-- What comes in by one of the ways there are is the answer of its code. -/
theorem Received.canonical {a : Answer} (h : a.Received) : a.Canonical := by
  rcases h with ⟨code, rfl⟩ | ⟨text, htext⟩ | ⟨d, hd⟩
  · exact canonical_ofCode code
  · unfold read at htext
    split at htext
    · rename_i b hb
      exact Except.ok.inj htext ▸ canonical_of_ofText? hb
    · cases htext
  · exact canonical_of_ofData? hd

inductive Written : Data → Prop
  | word {name : String} (h : name ∈ ["allow", "allow_without_sufficient", "reject"]) :
    Written (.str name)
  | code {code : Int32} (h : code ≠ 1 ∧ code ≠ 2 ∧ code ≠ -1) : Written (.int code.toInt)

/-- An answer that is the one of its code has a name, or a code without one. -/
theorem Canonical.cases {a : Answer} (h : a.Canonical) :
    a = .allow ∨ a = .allowWithoutSufficient ∨ a = reject ∨
      ∃ code, a = .other code ∧ code ≠ 1 ∧ code ≠ 2 ∧ code ≠ -1 := by
  cases a with
  | allow => exact .inl rfl
  | allowWithoutSufficient => exact .inr (.inl rfl)
  | other code =>
    by_cases hreject : code = -1
    · exact .inr (.inr (.inl (congrArg other hreject)))
    · refine .inr (.inr (.inr ⟨code, rfl, ?_, ?_, hreject⟩))
      -- The two codes with a meaning have answers of their own.
      · rintro rfl
        exact absurd h (by decide)
      · rintro rfl
        exact absurd h (by decide)

theorem toData_other {code : Int32} (h : code ≠ -1) : (other code).toData = .int code.toInt := by
  rw [toData, toScalar, if_neg h, Scalar.toData]

/-- A canonical answer is written in its one form. -/
theorem written_toData {a : Answer} (h : a.Canonical) : Written a.toData := by
  rcases h.cases with rfl | rfl | rfl | ⟨code, rfl, hallow, hwaive, hreject⟩
  · exact .word (by decide)
  · exact .word (by decide)
  · exact .word (by decide)
  · rw [toData_other hreject]
    exact .code ⟨hallow, hwaive, hreject⟩

/-- Whatever answer is written, the answer under its code is read. -/
theorem ofData?_toData_eq (a : Answer) : ofData? a.toData = some (ofCode a.code) := by
  cases a with
  | allow | allowWithoutSufficient => decide
  | other code =>
    by_cases hreject : code = -1
    · exact hreject ▸ by decide
    · rw [toData_other hreject, ofData?, Text.int32?_toInt, Option.map_some, Answer.code]

/-- What was written reads back where no two answers share a code. -/
theorem ofData?_toData {a : Answer} (h : a.Canonical) : ofData? a.toData = some a :=
  (ofData?_toData_eq a).trans (congrArg some h)

theorem toData_cases (a : Answer) : (∃ s, a.toData = .str s) ∨ ∃ i, a.toData = .int i := by
  rw [toData]
  cases a.toScalar with
  | str s => exact .inl ⟨s, rfl⟩
  | int i => exact .inr ⟨i, rfl⟩

end Answer

/-! ## 2. Sets as data -/

namespace VerifierSet

/-- A set is the one of its list, whose order is fixed. -/
@[simp]
theorem ofList_toList (s : VerifierSet) : ofList s.toList = s := eq_of_mem_iff fun _ => mem_ofList

theorem ofData?_toData (s : VerifierSet) : ofData? s.toData = some s := by
  have hread : ∀ ids : List VerifierId,
      (ids.map VerifierId.toData).mapM VerifierId.ofData? = some ids := by
    intro ids
    induction ids with
    | nil => rfl
    | cons id ids ih => simp [VerifierId.ofData?_toData, ih]
  rw [ofData?, toData, Data.list?, hread, Option.map_some, ofList_toList]

theorem printable_toData (s : VerifierSet) (n : Nat) : Json.Printable (n + 1) s.toData := by
  refine .arr fun d hd => ?_
  obtain ⟨id, -, rfl⟩ := List.mem_map.1 hd
  exact .int _

end VerifierSet

/-! ## 3. Records -/

namespace Data

/-- A record by name that has the fields and nothing else is read as it stands. -/
theorem fields?_of_entries? (dialect : Dialect) {names : List String} {d : Data}
    {entries : List (String × Data)} (hd : d.entries? = some entries)
    (hnames : entries.map (·.1) = names) (hnodup : names.Nodup) :
    d.fields? dialect names = some ⟨entries, true⟩ := by
  have hall : ∀ e ∈ entries, names.contains e.1 = true := fun e he =>
    List.contains_iff_mem.2 (hnames ▸ List.mem_map_of_mem he)
  unfold fields?
  split
  · cases hd
  · simp only [hd, Option.bind_some, List.filter_eq_self.2 hall]
    rw [hnames, if_pos hnodup]

theorem need_of_get? {α : Type} {f : Fields} {name : String} {d : Data} {a : α}
    {read : Data → Option α} (hget : f.get? name = some d) (hread : read d = some a) :
    f.need name read = some a := by
  rw [Fields.need, hget, Option.bind_some, hread]

theorem nullable?_ofOption {α : Type} {write : α → Data} {read : Data → Option α} {o : Option α}
    (hread : ∀ a, o = some a → read (write a) = some a) (hnull : ∀ a, write a ≠ .null) :
    nullable? read (ofOption write o) = some o := by
  cases o with
  | none => rfl
  | some a =>
    rw [ofOption, nullable?, hread a rfl, Option.map_some]
    exact hnull a

theorem exists_of_optional {α : Type} {f : Fields} {name : String} {read : Data → Option α} {a : α}
    (h : f.optional name read = some (some a)) : ∃ d, read d = some a := by
  unfold Fields.optional at h
  split at h
  · rename_i d hd
    unfold nullable? at h
    split at h
    · cases h
    · obtain ⟨b, hb, hba⟩ := Option.map_eq_some_iff.1 h
      exact ⟨d, Option.some.inj hba ▸ hb⟩
  · split_ifs at h
    cases h

end Data

namespace Tracker

/-! ## 4. Snapshots -/

def entries (t : Tracker) : List (String × Data) := t.toData.entries?.getD []

theorem toData_eq_obj (t : Tracker) : t.toData = .obj t.entries := rfl

theorem names_entries (t : Tracker) : t.entries.map (·.1) = snapshotFields := rfl

theorem fields?_toData (dialect : Dialect) (t : Tracker) :
    t.toData.fields? dialect snapshotFields = some ⟨t.entries, true⟩ :=
  Data.fields?_of_entries? dialect rfl t.names_entries (by decide)

/-- Each axis reads back from the fields that it was written to. -/
theorem requiredOfFields?_entries (t : Tracker) :
    requiredOfFields? ⟨t.entries, true⟩ = some t.required := by
  have hmembers : Data.Fields.need ⟨t.entries, true⟩ "required" VerifierSet.ofData? =
      some t.required.members :=
    Data.need_of_get? rfl (VerifierSet.ofData?_toData _)
  have hunanswered : Data.Fields.need ⟨t.entries, true⟩ "unresponded_required"
      VerifierSet.ofData? = some t.required.unanswered :=
    Data.need_of_get? rfl (VerifierSet.ofData?_toData _)
  rw [requiredOfFields?, hmembers, hunanswered]
  rfl

theorem sufficientOfFields?_entries (t : Tracker) :
    sufficientOfFields? ⟨t.entries, true⟩ = some t.sufficient := by
  have hpool : Data.Fields.need ⟨t.entries, true⟩ "sufficient" VerifierSet.ofData? =
      some t.sufficient.pool :=
    Data.need_of_get? rfl (VerifierSet.ofData?_toData _)
  rw [sufficientOfFields?, hpool]
  rfl

theorem optionalOfFields?_entries (t : Tracker) :
    optionalOfFields? ⟨t.entries, true⟩ = some t.optional := by
  have hverifier : Data.Fields.optional ⟨t.entries, true⟩ "optional" VerifierId.ofData? =
      some t.optional.verifier :=
    Data.nullable?_ofOption (fun id _ => VerifierId.ofData?_toData id) (fun _ => Data.noConfusion)
  rw [optionalOfFields?, hverifier]
  rfl

/-- The tracker holds no answer that could not have come in. -/
def Restorable (t : Tracker) : Prop := ∀ a, t.integrityResult = some a → a.Canonical

/-- The tracker with the answer to the integrity check that goes by the same code. -/
def reclassified (t : Tracker) : Tracker :=
  { t with integrityResult := t.integrityResult.map fun a => .ofCode a.code }

theorem Restorable.reclassified_eq {t : Tracker} (h : t.Restorable) : t.reclassified = t := by
  have hsame : t.integrityResult.map (fun a => .ofCode a.code) = t.integrityResult := by
    cases hresult : t.integrityResult with
    | none => rfl
    | some a => exact congrArg some (h a hresult)
  rw [reclassified, hsame]

theorem integrityResult_entries (t : Tracker) :
    Data.Fields.optional ⟨t.entries, true⟩ "integrity_result" Answer.ofData? =
      some t.reclassified.integrityResult := by
  show Data.nullable? Answer.ofData? (.ofOption Answer.toData t.integrityResult) = _
  rw [reclassified]
  cases t.integrityResult with
  | none => rfl
  | some a =>
    rw [Data.ofOption, Data.nullable?, a.ofData?_toData_eq]
    · rfl
    · rcases a.toData_cases with ⟨s, hs⟩ | ⟨i, hi⟩ <;> simp [*]

/-- All is read as it was written, but for the answer to the integrity check. -/
theorem ofData?_toData_eq (dialect : Dialect) (t : Tracker) :
    ofData? dialect t.toData = some t.reclassified := by
  have hsession : Data.Fields.need ⟨t.entries, true⟩ "session" SessionId.ofData? =
      some t.session := Data.need_of_get? rfl (SessionId.ofData?_toData _)
  have hpolicy : Data.Fields.need ⟨t.entries, true⟩ "policy"
      (Data.enum? dialect PendingPolicy.ofName?) = some t.policy :=
    Data.need_of_get? rfl (PendingPolicy.ofName?_name t.policy)
  have hextended : Data.Fields.need ⟨t.entries, true⟩ "timeout_extended" Data.bool? =
      some t.timeoutExtended := rfl
  rw [ofData?, fields?_toData]
  -- The kernel would compute the whole record if the equations were left to it.
  simp -implicitDefEqProofs only [Option.bind_eq_bind, Option.bind_some, hsession, hpolicy,
    requiredOfFields?_entries, sufficientOfFields?_entries, optionalOfFields?_entries, hextended,
    t.integrityResult_entries, reclassified]

/-- A tracker holds texts, numbers, flags and sets of numbers, so that JSON has a text for it. -/
theorem printable_toData (t : Tracker) (n : Nat) : Json.Printable (n + 2) t.toData := by
  have hset (s : VerifierSet) : Json.Printable (n + 1) s.toData := s.printable_toData n
  have hverifier : Json.Printable (n + 1) (.ofOption VerifierId.toData t.optional.verifier) :=
    Json.printable_ofOption (fun _ => .int _) _
  have hintegrity : Json.Printable (n + 1) (.ofOption Answer.toData t.integrityResult) :=
    Json.printable_ofOption (fun a => by
      rcases a.toData_cases with ⟨s, hs⟩ | ⟨i, hi⟩
      · exact hs ▸ .str s
      · exact hi ▸ .int i) _
  rw [toData]
  refine .obj ?_
  simp only [List.forall_mem_cons]
  exact ⟨.int _, .str _, hset _, hset _, .bool _, .bool _, hset _, .bool _, .bool _, .bool _,
    hverifier, .bool _, .bool _, .bool _, hintegrity, by simp⟩

theorem parse_snapshot (t : Tracker) : Json.parse t.snapshot = some (.obj t.entries) :=
  Json.parse_print (t.printable_toData 125)

/-- Every tracker reads back. -/
theorem restore?_snapshot_eq (t : Tracker) : restore? t.snapshot = some t.reclassified := by
  rw [restore?, parse_snapshot, Option.bind_some, ← toData_eq_obj, ofData?_toData_eq]

/-- A tracker that is written and read back is the same tracker. -/
theorem restore?_snapshot {t : Tracker} (h : t.Restorable) : restore? t.snapshot = some t := by
  rw [restore?_snapshot_eq, h.reclassified_eq]

/-! ## 5. Runs with reloads -/

def Operation.Received : Operation → Prop
  | .answer _ a | .recordIntegrity a => a.Received
  | _ => True

/-- A new tracker holds no answer to an integrity check. -/
theorem restorable_new (session : SessionId) (policy : PendingPolicy) :
    (new session policy).Restorable := by
  intro a ha
  cases ha

/-- Only the integrity check leaves an answer in the tracker. -/
theorem Restorable.perform {t : Tracker} (h : t.Restorable) {o : Operation} (ho : o.Received) :
    (t.perform o).2.Restorable := by
  cases o with
  | register id role => cases role <;> exact h
  | answer id a =>
    intro b hb
    exact h b ((t.integrityResult_answer id a).symm.trans hb)
  | forceRequired =>
    rcases t.forceRequired_cases with ⟨-, hnext⟩ | ⟨-, hnext⟩ <;> rw [hnext] <;> exact h
  | extendTimeout => exact h
  | recordIntegrity a =>
    intro b hb
    exact Option.some.inj hb ▸ Answer.Received.canonical ho

inductive Step
  | operation (o : Operation)
  | reload
  deriving DecidableEq, Repr

def operations : List Step → List Operation
  | [] => []
  | .operation o :: steps => o :: operations steps
  | .reload :: steps => operations steps

/-- Takes steps in turn: the results of the operations, and the tracker after the last step. Fails
when a text cannot be read back. -/
def play (t : Tracker) : List Step → Option (List Result × Tracker)
  | [] => some ([], t)
  | .operation o :: steps =>
    ((t.perform o).2.play steps).map fun (results, after) => ((t.perform o).1 :: results, after)
  | .reload :: steps => (restore? t.snapshot).bind fun next => next.play steps

/-- Where every answer came in, reloads change neither the results nor the tracker. -/
theorem Restorable.play {t : Tracker} (h : t.Restorable) {steps : List Step}
    (hreceived : ∀ o ∈ operations steps, o.Received) :
    t.play steps = some (t.performAll (operations steps)) ∧
      (t.after (operations steps)).Restorable := by
  induction steps generalizing t with
  | nil => exact ⟨rfl, h⟩
  | cons step steps ih =>
    cases step with
    | operation o =>
      obtain ⟨ho, hos⟩ := List.forall_mem_cons.1 hreceived
      obtain ⟨hplay, hafter⟩ := ih (h.perform ho) hos
      refine ⟨?_, hafter⟩
      rw [Tracker.play, hplay]
      rfl
    | reload =>
      rw [Tracker.play, restore?_snapshot h]
      exact ih h hreceived

/-! ## 6. Documents -/

def IsAscending (d : Data) : Prop :=
  ∃ ns : List Nat, d = .arr (ns.map .ofNat) ∧ ns.Pairwise (· < ·)

/-- The one form in which a tracker is written: each field in its place, the verifiers of a set in
ascending order, and the answer to the integrity check in its one form. -/
structure IsNormal (entries : List (String × Data)) : Prop where
  names : entries.map (·.1) = snapshotFields
  ids : ∀ name ∈ ["required", "unresponded_required", "sufficient"],
    ∃ d, entries.lookup name = some d ∧ IsAscending d
  answer : ∃ d, entries.lookup "integrity_result" = some d ∧ (d = .null ∨ Answer.Written d)

theorem isAscending_toData (s : VerifierSet) : IsAscending s.toData := by
  refine ⟨s.toList.map (·.uid.toNat), ?_, ?_⟩
  · rw [VerifierSet.toData, List.map_map]
    rfl
  · exact List.pairwise_map.2 (s.ascending.imp UInt32.lt_iff_toNat_lt.1)

/-- What is written of a tracker is in normal form. -/
theorem isNormal_entries {t : Tracker} (h : t.Restorable) : IsNormal t.entries where
  names := t.names_entries
  ids := by
    simp only [List.forall_mem_cons]
    exact ⟨⟨_, rfl, isAscending_toData _⟩, ⟨_, rfl, isAscending_toData _⟩,
      ⟨_, rfl, isAscending_toData _⟩, by simp⟩
  answer := by
    refine ⟨.ofOption Answer.toData t.integrityResult, rfl, ?_⟩
    cases ha : t.integrityResult with
    | none => exact .inl rfl
    | some a => exact .inr (Answer.written_toData (h a ha))

/-- A tracker that is read from a document holds an answer that came in by it. -/
theorem restorable_of_ofData? {dialect : Dialect} {d : Data} {t : Tracker}
    (h : ofData? dialect d = some t) : t.Restorable := by
  simp only [ofData?, Option.bind_eq_bind, Option.bind_eq_some_iff, Option.some.injEq] at h
  obtain ⟨f, -, session, -, policy, -, required, -, sufficient, -, optional, -, extended, -, result,
    hresult, rfl⟩ := h
  rintro a rfl
  obtain ⟨d, hd⟩ := Data.exists_of_optional hresult
  exact Answer.canonical_of_ofData? hd

/-- Writing a tracker as text and reading it back changes nothing, at whatever points of a run and
after any run. Whatever document reads as a tracker, that tracker is written in normal form and
reads back. -/
theorem snapshots_transparent :
    (∀ session policy steps, (∀ o ∈ operations steps, o.Received) →
      let s := new session policy
      s.play steps = some (s.performAll (operations steps)) ∧
        let t := s.after (operations steps)
        restore? t.snapshot = some t) ∧
      ∀ d t, ofData? Json.dialect d = some t →
        ∃ entries, Json.parse t.snapshot = some (.obj entries) ∧ IsNormal entries ∧
          restore? t.snapshot = some t := by
  constructor
  · intro session policy steps hreceived
    obtain ⟨hplay, hafter⟩ := (restorable_new session policy).play hreceived
    exact ⟨hplay, restore?_snapshot hafter⟩
  · intro d t ht
    have hrestorable : t.Restorable := restorable_of_ofData? ht
    exact ⟨t.entries, t.parse_snapshot, isNormal_entries hrestorable, restore?_snapshot hrestorable⟩

/-- A verifier that answers between two reloads, and a document with unsorted and repeated ids, a
field of another name, a field left out and an answer in capitals. -/
theorem snapshots_transparent_around_answer :
    let s := new ⟨9⟩ .failClosed
    let steps : List Step :=
      [.operation (.register ⟨4⟩ .required), .reload, .operation (.answer ⟨4⟩ (.other 7)), .reload]
    let document : Data :=
      .obj
        [("note", .float "1.5"), ("session", .int 9), ("policy", .str "permissive"),
         ("required", .arr [.int 3, .int 1, .int 3]), ("unresponded_required", .arr [.int 3]),
         ("required_complete", .bool false), ("required_passed", .bool true),
         ("sufficient", .arr []), ("had_sufficient", .bool false),
         ("sufficient_complete", .bool false), ("sufficient_passed", .bool false),
         ("optional_complete", .bool false), ("optional_passed", .bool false),
         ("timeout_extended", .bool true), ("integrity_result", .str " REJECT ")]
    let t : Tracker :=
      ⟨⟨9⟩, .permissive, ⟨.ofList [⟨1⟩, ⟨3⟩], .ofList [⟨3⟩], false, true⟩, .empty, .empty, true,
        some .reject⟩
    ((∀ o ∈ operations steps, o.Received) ∧
      s.play steps = some (s.performAll (operations steps))) ∧
      ofData? Json.dialect document = some t ∧ restore? t.snapshot = some t := by
  intro s steps document t
  have hreceived : ∀ o ∈ operations steps, o.Received := by
    have hanswer : Answer.Received (.other 7) := .inl ⟨7, by decide⟩
    simp [steps, operations, Operation.Received, hanswer]
  have hdocument : ofData? Json.dialect document = some t := by decide
  have hplay := (snapshots_transparent.1 ⟨9⟩ .failClosed steps hreceived).1
  obtain ⟨-, -, -, hrestore⟩ := snapshots_transparent.2 document t hdocument
  exact ⟨⟨hreceived, hplay⟩, hdocument, hrestore⟩

end Tracker

end PackageVerification
