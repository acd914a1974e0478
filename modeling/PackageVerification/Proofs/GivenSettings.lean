import Mathlib.Tactic.SplitIfs
import PackageVerification.CommandLine.Invocation
import PackageVerification.Proofs.Snapshot

/-!
# Settings that are given

Settings are gathered one by one, from the arguments and then from the environment. What each of
them keeps, the whole of them keeps. Main statements: `readArguments_keeps`, whatever the grammar;
`received_of_readInvocation`, the answer among the settings of an invocation came in as a text.
-/

namespace PackageVerification.CommandLine

/-! ## 1. Arguments -/

section Arguments

variable {σ : Type} {P : σ → Prop} {g : Grammar σ} {settings : Option σ}

def Reading.settings? : Reading σ → Option σ
  | .finished settings | .subcommand _ _ settings => settings
  | .help | .misuse => none

structure Grammar.Keeps (g : Grammar σ) (P : σ → Prop) : Prop where
  options : ∀ option ∈ g.options, ∀ value s, P s → ∀ s' ∈ option.take value s, P s'
  flags : ∀ name set, g.flags.lookup name = some set → ∀ s, P s → ∀ s' ∈ set s, P s'
  operand : ∀ take, g.operand = some take → ∀ value s, P s → ∀ s' ∈ take value s, P s'

theorem readOperands_keeps (hg : g.Keeps P) (h : ∀ s ∈ settings, P s) (args : List String) :
    ∀ s ∈ (readOperands g settings args).settings?, P s := by
  fun_induction readOperands g settings args with
  | case1 => exact h
  | case2 arg rest s take htake ih => exact ih (hg.operand take htake arg s (h s rfl))
  | case3 => rintro s ⟨⟩

/-- Reading arguments keeps what each option, flag and operand keeps. -/
theorem readArguments_keeps (hg : g.Keeps P) (h : ∀ s ∈ settings, P s) (args : List String) :
    ∀ s ∈ (readArguments g settings args).settings?, P s := by
  fun_induction readArguments g settings args with
  | case1 | case2 => exact h
  | case3 => exact readOperands_keeps hg h _
  | case7 arg rest _ _ s name _ set hset s' hs' _ ih =>
    exact ih fun _ hnext => hg.flags name set hset s (h s rfl) _ (hs'.trans hnext)
  | case10 arg _ _ s name _ option hoption _ value rest s' hs' _ ih =>
    have hmem := List.mem_of_find?_eq_some hoption
    exact ih fun _ hnext => hg.options option hmem value s (h s rfl) _ (hs'.trans hnext)
  | case11 arg _ _ s name _ option hoption _ value rest _ _ ih =>
    exact ih (hg.options option (List.mem_of_find?_eq_some hoption) value s (h s rfl))
  | case17 arg rest _ _ s _ take htake _ ih => exact ih (hg.operand take htake arg s (h s rfl))
  | _ => rintro s ⟨⟩

end Arguments

/-! ## 2. The answer for silent verifiers -/

/-- The answer among the overrides, if there is one, came in as a text. -/
def Settings.Received (s : Settings) : Prop := ∀ a ∈ s.overrides.defaultAnswer, a.Received

theorem received_of_ofText? {text : String} {a : Answer} (h : Answer.ofText? text = some a) :
    a.Received :=
  .inr (.inl ⟨text, by rw [Answer.read, h]⟩)

theorem Settings.Received.set {s : Settings} (h : s.Received) {value : String} {setting : Setting} :
    ∀ s' ∈ s.set value setting, s'.Received := by
  intro s' hs'
  cases setting with
  | logLevel => exact Option.some.inj hs' ▸ h
  | configFile | logFormat | timeout =>
    obtain ⟨_, -, rfl⟩ := Option.map_eq_some_iff.1 hs'
    exact h
  | defaultAnswer =>
    obtain ⟨a, ha, rfl⟩ := Option.map_eq_some_iff.1 hs'
    rintro b ⟨⟩
    exact received_of_ofText? ha

theorem keeps_mainGrammar : mainGrammar.Keeps Settings.Received where
  options option hoption value s h s' hs' := by
    obtain ⟨setting, -, rfl⟩ := List.mem_map.1 hoption
    have hset : s' ∈ (if Setting.isGiven s setting then none else s.set value setting) := hs'
    split_ifs at hset
    · cases hset
    · exact h.set s' hset
  flags _ _ hset := by cases hset
  operand _ htake := by cases htake

/-- What the environment adds came in as a text, too. -/
theorem Settings.Received.completed {s : Settings} (h : s.Received)
    {environment : String → Option String} : ∀ s' ∈ s.completed environment, s'.Received := by
  unfold Settings.completed
  induction Setting.all generalizing s with
  | nil =>
    intro s' hs'
    exact Option.some.inj hs' ▸ h
  | cons setting rest ih =>
    intro s' hs'
    rw [List.foldlM_cons, Option.bind_eq_bind, Option.mem_def, Option.bind_eq_some_iff] at hs'
    obtain ⟨next, hnext, hs'⟩ := hs'
    refine ih ?_ s' hs'
    split at hnext
    · split_ifs at hnext
      · exact Option.some.inj hnext ▸ h
      · exact h.set next hnext
    · exact Option.some.inj hnext ▸ h

theorem readHelp_ne_run (names : List String) (i : Invocation) : readHelp names ≠ .run i := by
  unfold readHelp
  split
  · exact Reply.noConfusion
  · split_ifs <;> exact Reply.noConfusion
  · exact Reply.noConfusion

/-- An answer that overrides the configuration came in as a text. -/
theorem received_of_readInvocation {environment : String → Option String} {args : List String}
    {i : Invocation} (h : readInvocation environment args = .run i) : i.settings.Received := by
  have hread : ∀ s ∈ (readArguments mainGrammar (some {}) args).settings?, s.Received := by
    refine readArguments_keeps keeps_mainGrammar (fun s hs => ?_) args
    rintro a ha
    obtain rfl := Option.some.inj hs
    cases ha
  unfold readInvocation at h
  split at h
  · cases h
  · rename_i name rest settings hreading
    rw [hreading] at hread
    split_ifs at h
    · exact absurd h (readHelp_ne_run rest i)
    · split at h
      · cases h
      · split at h
        · rename_i completed hcompleted
          obtain ⟨s, hs, hcompleted⟩ := Option.bind_eq_some_iff.1 hcompleted
          obtain rfl := Reply.run.inj h
          exact (hread s hs).completed completed hcompleted
        · cases h
      · cases h
  · cases h

end PackageVerification.CommandLine
