import PackageVerification.CommandLine.Run
import PackageVerification.Proofs.ConfigurationText
import PackageVerification.Proofs.GivenSettings
import PackageVerification.Proofs.TomlKeys

/-!
# Where settings come from

A setting of the effective configuration is the one that was given apart from the file, else the one
in the file, else the default one, and a command sees it only in a configuration that passes the
check. Main statements: `effective_eq_ok_iff`, when there is an effective configuration and which;
`effective_configuration`, with what commands make of it.
-/

namespace PackageVerification

namespace Configuration

/-! ## 1. Layers -/

/-- The layer that a setting is taken from: the override, or else what a document says under the
name of the setting, or else the default. -/
inductive Takes {α : Type} (override : Option α) (entries : List (String × Data)) (name : String)
    (read : Data → Option α) (default : α) : α → Prop
  | override {a : α} (h : override = some a) : Takes override entries name read default a
  | entry {d : Data} {a : α} (hnot : override = none) (hentry : entries.lookup name = some d)
    (hread : read d = some a) : Takes override entries name read default a
  | default (hnot : override = none) (hout : entries.lookup name = none) :
    Takes override entries name read default default

/-- Each setting is taken from its layer. Two of them have no override. -/
structure Layered (o : Overrides) (entries : List (String × Data)) (c : Configuration) : Prop where
  verificationTimeout : Takes o.timeout entries "verification_timeout_ms" Data.uint64?
    default.verificationTimeout c.verificationTimeout
  maxExtension : Takes none entries "max_extension_ms" Data.uint64?
    default.maxExtension c.maxExtension
  defaultAnswer : Takes o.defaultAnswer entries "default_timeout_response" Answer.ofData?
    default.defaultAnswer c.defaultAnswer
  pendingPolicy : Takes none entries "pending_sufficient_policy"
    (Data.enum? Toml.dialect PendingPolicy.ofName?) default.pendingPolicy c.pendingPolicy
  logFormat : Takes o.logFormat entries "log_format"
    (Data.enum? Toml.dialect LogFormat.ofName?) default.logFormat c.logFormat
  logLevel : Takes o.logLevel entries "log_level" Data.str? default.logLevel c.logLevel

section Takes

variable {α : Type} {override : Option α} {entries : List (String × Data)} {name : String}
  {read : Data → Option α} {default a b : α}

theorem Takes.unique (h : Takes override entries name read default a)
    (h' : Takes override entries name read default b) : a = b := by
  cases h <;> cases h' <;> simp_all

theorem Takes.holds {P : α → Prop} (h : Takes override entries name read default a)
    (hoverride : ∀ a ∈ override, P a) (hread : ∀ d a, read d = some a → P a)
    (hdefault : P default) : P a := by
  cases h with
  | override hgiven => exact hoverride a hgiven
  | entry _ _ hentry => exact hread _ a hentry
  | default => exact hdefault

theorem Takes.getD (h : Takes none entries name read default a) (override : Option α) :
    Takes override entries name read default (override.getD a) := by
  cases override with
  | some b => exact .override rfl
  | none => exact h

theorem orDefault_eq_some_iff {f : Data.Fields} (hget : f.get? name = entries.lookup name) :
    f.orDefault name default read = some a ↔ Takes none entries name read default a := by
  rw [Data.Fields.orDefault, hget]
  constructor
  · intro h
    split at h
    · rename_i d hd
      exact .entry rfl hd h
    · rename_i hout
      exact Option.some.inj h ▸ .default rfl hout
  · rintro (h | ⟨-, hentry, hread⟩ | ⟨-, hout⟩)
    · cases h
    · rw [hentry]
      exact hread
    · rw [hout]

end Takes

theorem Layered.unique {o : Overrides} {entries : List (String × Data)} {b c : Configuration}
    (h : Layered o entries b) (h' : Layered o entries c) : b = c := by
  obtain ⟨ht, he, ha, hp, hf, hl⟩ := h
  obtain ⟨ht', he', ha', hp', hf', hl'⟩ := h'
  cases b
  cases c
  simp only [Configuration.mk.injEq]
  exact ⟨ht.unique ht', he.unique he', ha.unique ha', hp.unique hp', hf.unique hf', hl.unique hl'⟩

theorem Layered.apply {entries : List (String × Data)} {b : Configuration}
    (h : Layered {} entries b) (o : Overrides) : Layered o entries (o.apply b) where
  verificationTimeout := h.verificationTimeout.getD o.timeout
  maxExtension := h.maxExtension
  defaultAnswer := h.defaultAnswer.getD o.defaultAnswer
  pendingPolicy := h.pendingPolicy
  logFormat := h.logFormat.getD o.logFormat
  logLevel := h.logLevel.getD o.logLevel

/-! ## 2. Files -/

theorem ofData?_headed_iff {entries : List (String × Data)} (hnodup : (entries.map (·.1)).Nodup)
    {c : Configuration} :
    ofData? Toml.dialect (.headed entries) = some c ↔ Layered {} entries c := by
  obtain ⟨f, hfields, hget⟩ := Data.exists_fields?_headed Toml.dialect settingNames hnodup
  simp only [settingNames, List.forall_mem_cons] at hget
  obtain ⟨htimeout, hextension, hanswer, hpolicy, hformat, hlevel, -⟩ := hget
  rw [ofData?, hfields]
  simp only [Option.bind_eq_bind, Option.bind_some, Option.bind_eq_some_iff,
    orDefault_eq_some_iff htimeout, orDefault_eq_some_iff hextension,
    orDefault_eq_some_iff hanswer, orDefault_eq_some_iff hpolicy, orDefault_eq_some_iff hformat,
    orDefault_eq_some_iff hlevel, Option.some.injEq]
  constructor
  · rintro ⟨_, ht, _, he, _, ha, _, hp, _, hf, _, hl, rfl⟩
    exact ⟨ht, he, ha, hp, hf, hl⟩
  · rintro ⟨ht, he, ha, hp, hf, hl⟩
    exact ⟨_, ht, _, he, _, ha, _, hp, _, hf, _, hl, rfl⟩

inductive Says : Option File → List (String × Data) → Prop
  | nothing : Says none []
  | document {path text : String} {entries : List (String × Data)}
    (h : Toml.parse text = some (.headed entries)) : Says (some ⟨path, some text⟩) entries

/-- A text is read as a configuration when it is a document whose settings fit and pass the check.
-/
theorem read_eq_ok_iff {text : String} {c : Configuration} :
    read text = .ok c ↔
      ∃ entries, Toml.parse text = some (.headed entries) ∧ Layered {} entries c ∧
        c.check = .ok () := by
  constructor
  · intro h
    have hcheck : c.check = .ok () := check_of_read h
    unfold read at h
    split at h
    · cases h
    · rename_i b hb
      obtain ⟨d, hparse, hdata⟩ := Option.bind_eq_some_iff.1 hb
      obtain ⟨entries, rfl, hnodup⟩ := Toml.nodup_of_parse hparse
      split at h
      · cases h
      · obtain rfl := Except.ok.inj h
        exact ⟨entries, hparse, (ofData?_headed_iff hnodup).1 hdata, hcheck⟩
  · rintro ⟨entries, hparse, hlayered, hcheck⟩
    obtain ⟨_, ⟨⟩, hnodup⟩ := Toml.nodup_of_parse hparse
    rw [read, hparse, Option.bind_some, (ofData?_headed_iff hnodup).2 hlayered]
    simp only [hcheck]

theorem layered_default : Layered {} [] default where
  verificationTimeout := .default rfl rfl
  maxExtension := .default rfl rfl
  defaultAnswer := .default rfl rfl
  pendingPolicy := .default rfl rfl
  logFormat := .default rfl rfl
  logLevel := .default rfl rfl

theorem base_eq_ok_iff {file : Option File} {b : Configuration} :
    base file = .ok b ↔ ∃ entries, Says file entries ∧ Layered {} entries b ∧ b.check = .ok () := by
  constructor
  · intro h
    unfold base at h
    split at h
    · obtain rfl := Except.ok.inj h
      exact ⟨[], .nothing, layered_default, rfl⟩
    · rename_i given
      obtain ⟨path, text?⟩ := given
      split at h
      · rename_i c hc
        obtain rfl := Except.ok.inj h
        obtain ⟨text, rfl, hread⟩ := Option.map_eq_some_iff.1 hc
        obtain ⟨entries, hparse, hlayered, hcheck⟩ := read_eq_ok_iff.1 hread
        exact ⟨entries, .document hparse, hlayered, hcheck⟩
      · cases h
  · rintro ⟨entries, hsays, hlayered, hcheck⟩
    cases hsays with
    | nothing => rw [base, hlayered.unique layered_default]
    | document hparse =>
      have hread := read_eq_ok_iff.2 ⟨entries, hparse, hlayered, hcheck⟩
      simp only [base, Option.map_some, hread]

/-- There is an effective configuration when what the file says is a configuration and stays one
under the overrides. -/
theorem effective_eq_ok_iff {file : Option File} {o : Overrides} {c : Configuration} :
    effective file o = .ok c ↔
      ∃ entries, Says file entries ∧ (∃ b, Layered {} entries b ∧ b.check = .ok ()) ∧
        Layered o entries c ∧ c.check = .ok () := by
  constructor
  · intro h
    have hcheck : c.check = .ok () := check_of_effective h
    unfold effective at h
    split at h
    · cases h
    · rename_i b hbase
      obtain ⟨entries, hsays, hlayered, hvalid⟩ := base_eq_ok_iff.1 hbase
      dsimp only at h
      split at h
      · cases h
      · obtain rfl := Except.ok.inj h
        exact ⟨entries, hsays, ⟨b, hlayered, hvalid⟩, hlayered.apply o, hcheck⟩
  · rintro ⟨entries, hsays, ⟨b, hlayered, hvalid⟩, htakes, hcheck⟩
    have hbase : base file = .ok b := base_eq_ok_iff.2 ⟨entries, hsays, hlayered, hvalid⟩
    obtain rfl : c = o.apply b := htakes.unique (hlayered.apply o)
    rw [effective, hbase]
    simp only [hcheck]

/-! ## 3. Configurations that are printed -/

theorem Layered.canonical {o : Overrides} {entries : List (String × Data)} {c : Configuration}
    (h : Layered o entries c) (ho : ∀ a ∈ o.defaultAnswer, a.Received) :
    c.defaultAnswer.Canonical :=
  h.defaultAnswer.holds (fun a ha => (ho a ha).canonical)
    (fun _ _ => Answer.canonical_of_ofData?) (by decide)

/-- The effective configuration reads back from the text that it is printed as. -/
theorem read_of_write_effective {file : Option File} {o : Overrides} {c : Configuration}
    (h : effective file o = .ok c) (ho : ∀ a ∈ o.defaultAnswer, a.Received) {text : String}
    (hwrite : c.write = .ok text) : read text = .ok c := by
  obtain ⟨entries, -, -, hlayered, hcheck⟩ := effective_eq_ok_iff.1 h
  exact read_of_write hcheck (hlayered.canonical ho) hwrite

/-- Without overrides the effective configuration is the one of the file. -/
theorem effective_of_read {text : String} {c : Configuration} (h : read text = .ok c)
    (path : String) : effective (some ⟨path, some text⟩) {} = .ok c := by
  obtain ⟨entries, hparse, hlayered, hcheck⟩ := read_eq_ok_iff.1 h
  exact effective_eq_ok_iff.2
    ⟨entries, .document hparse, ⟨c, hlayered, hcheck⟩, hlayered, hcheck⟩

end Configuration

/-! ## 4. Commands -/

namespace CommandLine

theorem Invocation.response_of_error {i : Invocation} {files : String → Option String}
    {fault : Configuration.LoadFault}
    (h : Configuration.effective (i.file files) i.settings.overrides = .error fault)
    (clock : Timestamp) : i.response files clock = .failure [] fault.message := by
  simp only [Invocation.response, h]

theorem Invocation.response_of_ok {i : Invocation} {files : String → Option String}
    {c : Configuration} (h : Configuration.effective (i.file files) i.settings.overrides = .ok c)
    (clock : Timestamp) :
    i.response files clock = (i.command.response files clock c).behind i.loaded := by
  simp only [Invocation.response, h]

/-- A configuration is printed only if it has a text. -/
theorem Command.exists_write_of_status {files : String → Option String} {clock : Timestamp}
    {c : Configuration} (h : (Command.printConfig.response files clock c).status = 0) :
    ∃ text, c.write = .ok text := by
  cases hwrite : c.write with
  | ok text => exact ⟨text, rfl⟩
  | error fault => simp [Command.response, hwrite, Response.failure] at h

theorem Response.text_behind_success (records : List Record) (text : String) :
    ((Response.success [(0, text)]).behind records).text = text := by
  simp [Response.text, Response.behind, Response.success]

theorem Invocation.response_printConfig_of_write {i : Invocation}
    (hprint : i.command = .printConfig)
    {files : String → Option String} {c : Configuration}
    (h : Configuration.effective (i.file files) i.settings.overrides = .ok c) {text : String}
    (hwrite : c.write = .ok text) (clock : Timestamp) :
    i.response files clock = (Response.success [(0, text)]).behind i.loaded := by
  rw [Invocation.response_of_ok h, hprint]
  simp only [Command.response, hwrite]

/-- What is printed as the effective configuration is a text of it, and nothing but the loading of a
file is logged. -/
theorem exists_of_printed {environment : String → Option String} {args : List String}
    {i : Invocation} (hread : readInvocation environment args = .run i)
    (hprint : i.command = .printConfig) {files : String → Option String} {clock : Timestamp}
    (hstatus : (i.response files clock).status = 0) :
    ∃ c text, Configuration.effective (i.file files) i.settings.overrides = .ok c ∧
      c.write = .ok text ∧ Configuration.read text = .ok c ∧
      i.response files clock = (Response.success [(0, text)]).behind i.loaded := by
  have hreceived : i.settings.Received := received_of_readInvocation hread
  cases heffective : Configuration.effective (i.file files) i.settings.overrides with
  | error fault =>
    rw [Invocation.response_of_error heffective] at hstatus
    cases hstatus
  | ok c =>
    rw [Invocation.response_of_ok heffective, hprint] at hstatus
    obtain ⟨text, hwrite⟩ := Command.exists_write_of_status hstatus
    exact ⟨c, text, rfl, hwrite, Configuration.read_of_write_effective heffective hreceived hwrite,
      Invocation.response_printConfig_of_write hprint heffective hwrite clock⟩

/-- A text that reads as a configuration with that text is printed as it is when it is put into a
file and nothing overrides it. -/
theorem response_of_read {c : Configuration} {text : String}
    (hread : Configuration.read text = .ok c) (hwrite : c.write = .ok text) {j : Invocation}
    {path : String} (hprint : j.command = .printConfig) (hsettings : j.settings = ⟨some path, {}⟩)
    {files : String → Option String} (hpath : files path = some text) (clock : Timestamp) :
    j.response files clock = (Response.success [(0, text)]).behind [.configurationLoaded path] := by
  have hfile : j.file files = some ⟨path, some text⟩ := by
    rw [Invocation.file, hsettings, Option.map_some, hpath]
  have heffective : Configuration.effective (j.file files) j.settings.overrides = .ok c := by
    rw [hfile, hsettings]
    exact Configuration.effective_of_read hread path
  rw [Invocation.response_printConfig_of_write hprint heffective hwrite, Invocation.loaded,
    hsettings]
  rfl

/-- There is an effective configuration when what the file says is a configuration and stays one
under the overrides; each of its settings is from the first of the overrides, the file and the
default one that has it. An invocation fails without one, and otherwise its command is carried out
under it; it passes the check. What is printed as the effective configuration reads as that
configuration, and is printed again when it is put into a file and not overridden. Beside it the
loading of a file is logged and nothing else; the record is not part of what is printed. -/
theorem effective_configuration :
    (∀ (file : Option Configuration.File) (o : Overrides) (c : Configuration),
      Configuration.effective file o = .ok c ↔
        ∃ entries, Configuration.Says file entries ∧
          (∃ b, Configuration.Layered {} entries b ∧ b.check = .ok ()) ∧
          Configuration.Layered o entries c ∧ c.check = .ok ()) ∧
      (∀ (i : Invocation) (files : String → Option String) (clock : Timestamp),
        (∃ fault, Configuration.effective (i.file files) i.settings.overrides = .error fault ∧
          i.response files clock = .failure [] fault.message) ∨
        ∃ c, Configuration.effective (i.file files) i.settings.overrides = .ok c ∧
          c.check = .ok () ∧
          i.response files clock = (i.command.response files clock c).behind i.loaded) ∧
      ∀ (environment : String → Option String) (args : List String) (i : Invocation)
        (files : String → Option String) (clock : Timestamp),
        readInvocation environment args = .run i → i.command = .printConfig →
        (i.response files clock).status = 0 →
        (∃ c, Configuration.effective (i.file files) i.settings.overrides = .ok c ∧
          Configuration.read (i.response files clock).text = .ok c) ∧
        (i.response files clock).records = i.loaded ∧
        ∀ (j : Invocation) (path : String) (others : String → Option String) (now : Timestamp),
          j.command = .printConfig → j.settings = ⟨some path, {}⟩ →
          others path = some (i.response files clock).text →
          (j.response others now).status = 0 ∧
            (j.response others now).text = (i.response files clock).text ∧
            (j.response others now).records = [.configurationLoaded path] := by
  refine ⟨fun file o c => Configuration.effective_eq_ok_iff, fun i files clock => ?_, ?_⟩
  · cases h : Configuration.effective (i.file files) i.settings.overrides with
    | error fault => exact .inl ⟨fault, rfl, Invocation.response_of_error h clock⟩
    | ok c =>
      exact .inr ⟨c, rfl, Configuration.check_of_effective h, Invocation.response_of_ok h clock⟩
  · intro environment args i files clock hread hprint hstatus
    obtain ⟨c, text, heffective, hwrite, htext, hresponse⟩ :=
      exists_of_printed hread hprint hstatus
    have hprinted : (i.response files clock).text = text := by
      rw [hresponse, Response.text_behind_success]
    rw [hprinted]
    -- The printed text is a file like any other, and what it says is the configuration itself.
    refine ⟨⟨c, heffective, htext⟩, ?_, fun j path others now hcommand hsettings hpath => ?_⟩
    · rw [hresponse]
      exact List.append_nil _
    · rw [response_of_read htext hwrite hcommand hsettings hpath now]
      exact ⟨rfl, Response.text_behind_success _ text, rfl⟩

/-- A time from the arguments and from a file, an answer from the arguments, a level from the
environment, and the longest delay from the file. -/
theorem effective_configuration_of_layers :
    let environment : String → Option String := fun name =>
      [("VERIGATE_CONFIG", "base.toml"), ("VERIGATE_LOG_LEVEL", "it's")].lookup name
    let args : List String := ["--timeout-ms=7", "--default-response", "-7", "print-config"]
    let i : Invocation :=
      ⟨⟨some "base.toml", ⟨some 7, some (.other (-7)), none, some "it's"⟩⟩, .printConfig⟩
    let files : String → Option String :=
      fun _ => some "verification_timeout_ms = 9\nmax_extension_ms = 5\n"
    let c : Configuration := ⟨7, 5, .other (-7), .failClosed, .human, "it's"⟩
    let text : String := (i.response files .epoch).text
    let j : Invocation := ⟨⟨some "printed.toml", {}⟩, .printConfig⟩
    (readInvocation environment args = .run i ∧ (i.response files .epoch).status = 0) ∧
      Configuration.effective (i.file files) i.settings.overrides = .ok c ∧
      Configuration.read text = .ok c ∧
      (i.response files .epoch).records = [.configurationLoaded "base.toml"] ∧
      (j.response (fun _ => some text) .epoch).text = text ∧
      (j.response (fun _ => some text) .epoch).records = [.configurationLoaded "printed.toml"] := by
  intro environment args i files c text j
  have hread : readInvocation environment args = .run i := by decide +kernel
  have heffective : Configuration.effective (i.file files) i.settings.overrides = .ok c := by
    let settings : List (String × Scalar) :=
      [("verification_timeout_ms", .int 9), ("max_extension_ms", .int 5)]
    -- The file is what the two settings would be printed as, so it need not be parsed by
    -- evaluation.
    have hparse : Toml.parse "verification_timeout_ms = 9\nmax_extension_ms = 5\n" =
        some (.headed (settings.map fun e => (e.1, e.2.toData))) :=
      Toml.parse_print? (by decide) (by decide) (by decide)
    have hbase : Configuration.Layered {} (settings.map fun e => (e.1, e.2.toData))
        { Configuration.default with verificationTimeout := 9, maxExtension := 5 } :=
      ⟨.entry rfl rfl rfl, .entry rfl rfl rfl, .default rfl rfl, .default rfl rfl,
        .default rfl rfl, .default rfl rfl⟩
    exact (effective_configuration.1 _ _ c).2
      ⟨_, .document hparse, ⟨_, hbase, rfl⟩, hbase.apply i.settings.overrides, rfl⟩
  have hstatus : (i.response files .epoch).status = 0 := by
    cases hwrite : c.write with
    | ok text => rw [Invocation.response_printConfig_of_write rfl heffective hwrite]; rfl
    | error fault => exact absurd (c.write_eq_error_iff.1 ⟨fault, hwrite⟩) (by decide)
  obtain ⟨⟨d, hd, hprinted⟩, hrecords, hagain⟩ :=
    effective_configuration.2.2 environment args i files .epoch hread rfl hstatus
  obtain rfl : c = d := Except.ok.inj (heffective.symm.trans hd)
  obtain ⟨-, htext, hrecordsAgain⟩ :=
    hagain j "printed.toml" (fun _ => some text) .epoch rfl rfl rfl
  exact ⟨⟨hread, hstatus⟩, heffective, hprinted, hrecords, htext, hrecordsAgain⟩

end CommandLine

end PackageVerification
