import PackageVerification.Configuration
import PackageVerification.Proofs.Snapshot
import PackageVerification.Proofs.TomlText

/-!
# Configurations that are written and read back

A configuration that passes the check reads back from its TOML text, unless one of its times is
beyond the integers of TOML, and then it has no text. Main statement: `text_round_trip`.
-/

namespace PackageVerification

namespace Data

theorem orDefault_of_get? {α : Type} {f : Fields} {name : String} {default : α} {d : Data} {a : α}
    {read : Data → Option α} (hget : f.get? name = some d) (hread : read d = some a) :
    f.orDefault name default read = some a := by
  simp only [Fields.orDefault, hget, hread]

end Data

namespace Configuration

/-! ## 1. Settings as data -/

theorem uint64?_toData (w : UInt64) : (Scalar.int w.toNat).toData.uint64? = some w := by
  rw [Scalar.toData, Data.uint64?_int, Text.uint64?_toNat]

theorem names_settings (c : Configuration) : c.settings.map (·.1) = settingNames := rfl

theorem names_entries (c : Configuration) : c.entries.map (·.1) = settingNames := rfl

/-- The settings of a configuration read back as that configuration, in any format. -/
theorem ofData?_entries (dialect : Dialect) {c : Configuration} (h : c.defaultAnswer.Canonical) :
    ofData? dialect (.headed c.entries) = some c := by
  have hfields : (Data.headed c.entries).fields? dialect settingNames = some ⟨c.entries, true⟩ :=
    Data.fields?_of_entries? dialect rfl c.names_entries (by decide)
  have htimeout : Data.Fields.orDefault ⟨c.entries, true⟩ "verification_timeout_ms"
      default.verificationTimeout Data.uint64? = some c.verificationTimeout :=
    Data.orDefault_of_get? rfl (uint64?_toData _)
  have hextension : Data.Fields.orDefault ⟨c.entries, true⟩ "max_extension_ms"
      default.maxExtension Data.uint64? = some c.maxExtension :=
    Data.orDefault_of_get? rfl (uint64?_toData _)
  have hanswer : Data.Fields.orDefault ⟨c.entries, true⟩ "default_timeout_response"
      default.defaultAnswer Answer.ofData? = some c.defaultAnswer := by
    exact Data.orDefault_of_get? rfl (Answer.ofData?_toData h)
  have hpolicy : Data.Fields.orDefault ⟨c.entries, true⟩ "pending_sufficient_policy"
      default.pendingPolicy (Data.enum? dialect PendingPolicy.ofName?) = some c.pendingPolicy :=
    Data.orDefault_of_get? rfl (PendingPolicy.ofName?_name c.pendingPolicy)
  have hformat : Data.Fields.orDefault ⟨c.entries, true⟩ "log_format"
      default.logFormat (Data.enum? dialect LogFormat.ofName?) = some c.logFormat :=
    Data.orDefault_of_get? rfl (LogFormat.ofName?_name c.logFormat)
  have hlevel : Data.Fields.orDefault ⟨c.entries, true⟩ "log_level" default.logLevel Data.str? =
      some c.logLevel := rfl
  rw [ofData?, hfields]
  simp -implicitDefEqProofs only [Option.bind_eq_bind, Option.bind_some, htimeout, hextension,
    hanswer, hpolicy, hformat, hlevel]

/-! ## 2. Settings without a text -/

/-- The greatest integer that TOML has a text for, which is `2 ^ 63 - 1`. -/
def greatestWritten : Nat := 9223372036854775807

theorem text?_int_eq_none_iff (w : UInt64) :
    Toml.text? (.int w.toNat) = none ↔ greatestWritten < w.toNat := by
  have hgreatest : Int64.maxValue.toInt = greatestWritten := by decide
  have hleast : Int64.minValue.toInt ≤ 0 := by decide
  rw [Toml.text?]
  split_ifs with h
  · simp only [false_iff]
    omega
  · simp only [true_iff]
    omega

/-- An answer is a name or a code of 32 bits, so it always has a text. -/
theorem text?_toScalar_ne_none (a : Answer) : Toml.text? a.toScalar ≠ none := by
  cases a with
  | allow | allowWithoutSufficient => exact Option.some_ne_none _
  | other code =>
    have hlow := code.minValue_le_toInt
    have hhigh := code.toInt_le
    have hword : Int64.minValue.toInt ≤ code.toInt ∧ code.toInt ≤ Int64.maxValue.toInt :=
      ⟨Int.le_trans (by decide) hlow, Int.le_trans hhigh (by decide)⟩
    rw [Answer.toScalar]
    split_ifs
    · exact Option.some_ne_none _
    · rw [Toml.text?, if_pos hword]
      exact Option.some_ne_none _

/-- Of the settings only the two times can be too great to be written. -/
theorem write_eq_error_iff (c : Configuration) :
    (∃ fault, c.write = .error fault) ↔
      greatestWritten < c.verificationTimeout.toNat ∨ greatestWritten < c.maxExtension.toNat := by
  have hstr (s : String) : Toml.text? (.str s) ≠ none := Option.some_ne_none _
  have hprint : Toml.print? c.settings = none ↔
      greatestWritten < c.verificationTimeout.toNat ∨ greatestWritten < c.maxExtension.toNat := by
    rw [Toml.print?_eq_none_iff]
    simp only [settings, List.exists_mem_cons_iff, text?_int_eq_none_iff,
      text?_toScalar_ne_none, hstr, List.not_mem_nil, false_and, exists_false,
      or_false]
  rw [← hprint, write]
  cases Toml.print? c.settings with
  | none => simp
  | some text => simp

/-! ## 3. Texts -/

theorem isBare_settingNames : ∀ name ∈ settingNames, Toml.IsBare name := by decide

/-- The text of a configuration reads back as its settings in their order. -/
theorem parse_of_write {c : Configuration} {text : String} (h : c.write = .ok text) :
    Toml.parse text = some (.headed c.entries) := by
  have hbare : ∀ e ∈ c.settings, Toml.IsBare e.1 := fun e he =>
    isBare_settingNames e.1 (c.names_settings ▸ List.mem_map_of_mem he)
  have hnodup : (c.settings.map (·.1)).Nodup := by
    rw [names_settings]
    decide
  rw [write] at h
  split at h
  · rename_i printed hprint
    exact Except.ok.inj h ▸ Toml.parse_print? hbare hnodup hprint
  · cases h

/-- A valid configuration reads back from its text. -/
theorem read_of_write {c : Configuration} (hcheck : c.check = .ok ())
    (hanswer : c.defaultAnswer.Canonical) {text : String} (h : c.write = .ok text) :
    read text = .ok c := by
  rw [read, parse_of_write h, Option.bind_some, ofData?_entries Toml.dialect hanswer]
  simp only [hcheck]

/-- A configuration that passes the check, with an answer that came in and whatever log level, has a
text unless one of its times is beyond the signed words of 64 bits, and reads back from that text. A
configuration that is read passes the check. -/
theorem text_round_trip :
    (∀ c : Configuration, c.check = .ok () → c.defaultAnswer.Received →
      ((∃ fault, c.write = .error fault) ↔
        greatestWritten < c.verificationTimeout.toNat ∨ greatestWritten < c.maxExtension.toNat) ∧
      (¬(greatestWritten < c.verificationTimeout.toNat ∨ greatestWritten < c.maxExtension.toNat) →
        ∃ text, c.write = .ok text ∧ read text = .ok c)) ∧
      ∀ text c, read text = .ok c → c.check = .ok () := by
  refine ⟨fun c hcheck hanswer => ⟨c.write_eq_error_iff, fun hfits => ?_⟩, fun _ _ => check_of_read⟩
  cases hwrite : c.write with
  | ok text => exact ⟨text, rfl, read_of_write hcheck hanswer.canonical hwrite⟩
  | error fault => exact absurd (c.write_eq_error_iff.1 ⟨fault, hwrite⟩) hfits

/-- The longest time that has a text, a code and a log level with all kinds of marks in it; and the
same with a longer time. -/
theorem text_round_trip_of_marked_level :
    let c : Configuration :=
      ⟨9223372036854775807, 0, .other (-7), .permissive, .json, "it's \"\\é\" # a = 1"⟩
    let d : Configuration := { c with maxExtension := 9223372036854775808 }
    (c.check = .ok () ∧ c.defaultAnswer.Received) ∧
      (∃ text, c.write = .ok text ∧ read text = .ok c) ∧ ∃ fault, d.write = .error fault := by
  intro c d
  have hanswer : c.defaultAnswer.Received := .inl ⟨-7, by decide⟩
  obtain ⟨text, hwrite, hread⟩ := (text_round_trip.1 c rfl hanswer).2 (by decide)
  have hcheck : c.check = .ok () := text_round_trip.2 text c hread
  exact ⟨⟨hcheck, hanswer⟩, ⟨text, hwrite, hread⟩,
    (text_round_trip.1 d rfl hanswer).1.2 (by decide)⟩

end Configuration

end PackageVerification
