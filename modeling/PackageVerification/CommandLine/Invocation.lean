import PackageVerification.CommandLine.Arguments
import PackageVerification.Configuration.Effective

/-!
# Invocations

What the program is asked to do, by its arguments and its environment. A setting that is given as an
argument is not looked up in the environment.
-/

namespace PackageVerification.CommandLine

/-! ## 1. Settings -/

structure Settings where
  configFile : Option String := none
  overrides : Overrides := {}
  deriving DecidableEq, Repr

inductive Setting
  | configFile
  | logLevel
  | logFormat
  | timeout
  | defaultAnswer
  deriving DecidableEq, Repr

namespace Setting

def all : List Setting := [.configFile, .logLevel, .logFormat, .timeout, .defaultAnswer]

def optionName : Setting → String
  | .configFile => "config"
  | .logLevel => "log-level"
  | .logFormat => "log-format"
  | .timeout => "timeout-ms"
  | .defaultAnswer => "default-response"

def environmentName : Setting → String
  | .configFile => "VERIGATE_CONFIG"
  | .logLevel => "VERIGATE_LOG_LEVEL"
  | .logFormat => "VERIGATE_LOG_FORMAT"
  | .timeout => "VERIGATE_TIMEOUT_MS"
  | .defaultAnswer => "VERIGATE_DEFAULT_RESPONSE"

def isGiven (s : Settings) : Setting → Bool
  | .configFile => s.configFile.isSome
  | .logLevel => s.overrides.logLevel.isSome
  | .logFormat => s.overrides.logFormat.isSome
  | .timeout => s.overrides.timeout.isSome
  | .defaultAnswer => s.overrides.defaultAnswer.isSome

end Setting

def path? (text : String) : Option String := if text.isEmpty then none else some text

def millis? (text : String) : Option UInt64 :=
  (Text.unsigned? text.toList).bind fun n => Text.uint64? n

def Settings.set (s : Settings) (value : String) : Setting → Option Settings
  | .configFile => (path? value).map fun p => { s with configFile := some p }
  | .logLevel => some { s with overrides := { s.overrides with logLevel := some value } }
  | .logFormat =>
    (LogFormat.read value).toOption.map fun f =>
      { s with overrides := { s.overrides with logFormat := some f } }
  | .timeout =>
    (millis? value).map fun ms => { s with overrides := { s.overrides with timeout := some ms } }
  | .defaultAnswer =>
    (Answer.ofText? value).map fun a =>
      { s with overrides := { s.overrides with defaultAnswer := some a } }

/-- The settings after those of the environment that were not given as arguments. -/
def Settings.completed (s : Settings) (environment : String → Option String) : Option Settings :=
  Setting.all.foldlM
    (fun s setting =>
      match environment setting.environmentName with
      | some value => if Setting.isGiven s setting then some s else s.set value setting
      | none => some s)
    s

/-- An answer may be negative, so its value may begin with a hyphen. -/
def settingOption (setting : Setting) : ValueOption Settings where
  name := setting.optionName
  takesHyphens := setting = .defaultAnswer
  take := fun value s => if Setting.isGiven s setting then none else s.set value setting

/-! ## 2. Commands -/

structure ReplayCommand where
  script : String
  tick : UInt64
  showEvents : Bool
  deriving DecidableEq, Repr

inductive Command
  | replay (command : ReplayCommand)
  | printConfig
  deriving DecidableEq, Repr

structure Invocation where
  settings : Settings
  command : Command
  deriving DecidableEq, Repr

inductive Reply
  | run (invocation : Invocation)
  | help
  | misuse
  deriving DecidableEq, Repr

def commandNames : List String := ["replay", "print-config", "help"]

def mainGrammar : Grammar Settings where
  options := Setting.all.map settingOption
  flags := []
  operand := none
  subcommands := commandNames

structure ReplayArguments where
  script : Option String := none
  tick : Option UInt64 := none
  showEvents : Bool := false

def replayGrammar : Grammar ReplayArguments where
  options :=
    [{ name := "tick-ms"
       takesHyphens := false
       take := fun value a =>
         if a.tick.isSome then none
         else (millis? value).map fun ms => { a with tick := some ms } }]
  flags :=
    [("events", fun a => if a.showEvents then none else some { a with showEvents := true })]
  operand :=
    some fun value a =>
      if a.script.isSome then none
      else (path? value).map fun p => { a with script := some p }
  subcommands := []

def printGrammar : Grammar Unit where
  options := []
  flags := []
  operand := none
  subcommands := []

def defaultTick : UInt64 := 25

def readCommand (name : String) (rest : List String) : Reading Command :=
  if name = "replay" then
    match readArguments replayGrammar (some {}) rest with
    | .finished (some { script := some script, tick, showEvents }) =>
      .finished (some (.replay { script, tick := tick.getD defaultTick, showEvents }))
    | .help => .help
    | _ => .misuse
  else
    match readArguments printGrammar (some ()) rest with
    | .finished (some ()) => .finished (some .printConfig)
    | .help => .help
    | _ => .misuse

def readHelp : List String → Reply
  | [] => .help
  | [name] => if commandNames.contains name then .help else .misuse
  | _ => .misuse

/-- Reads arguments and environment. The arguments of the command are read before a last value in
front of it and before the environment. -/
def readInvocation (environment : String → Option String) (args : List String) : Reply :=
  match readArguments mainGrammar (some {}) args with
  | .help => .help
  | .subcommand name rest settings =>
    if name = "help" then readHelp rest
    else
      match readCommand name rest with
      | .help => .help
      | .finished (some command) =>
        match settings.bind fun s => s.completed environment with
        | some settings => .run { settings, command }
        | none => .misuse
      | _ => .misuse
  | _ => .misuse

end PackageVerification.CommandLine
