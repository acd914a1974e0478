/-!
# Reading arguments

How the arguments of a command are read: options with a value, flags, operands and commands below
it. The first thing that settles the reading wins, be it a mistake or a call for help.

A value that stands apart from its option is only looked at when the next option, flag or operand
begins, or at the end; a value behind an equals sign at once.
-/

namespace PackageVerification.CommandLine

structure ValueOption (σ : Type) where
  name : String
  /-- A value that stands apart may begin with a hyphen. -/
  takesHyphens : Bool
  /-- The settings with the value, unless it is unusable or the option was given before. -/
  take : String → σ → Option σ

structure Grammar (σ : Type) where
  options : List (ValueOption σ)
  flags : List (String × (σ → Option σ))
  /-- The settings with one more operand; a command may take none at all. -/
  operand : Option (String → σ → Option σ)
  subcommands : List String

inductive Reading (σ : Type)
  /-- All arguments were read; none when the last value is unusable. -/
  | finished (settings : Option σ)
  /-- The rest is for another command; none when the last value before it is unusable. -/
  | subcommand (name : String) (rest : List String) (settings : Option σ)
  | help
  | misuse

def longOption? (arg : String) : Option (String × Option String) :=
  match arg.toList with
  | '-' :: '-' :: cs =>
    let name := String.ofList (cs.takeWhile (· != '='))
    match cs.dropWhile (· != '=') with
    | [] => some (name, none)
    | _ :: value => some (name, some (String.ofList value))
  | _ => none

def shortOptions? (arg : String) : Option (List Char) :=
  match arg.toList with
  | '-' :: c :: cs => if c = '-' then none else some (c :: cs)
  | _ => none

/-- A lone hyphen is a value, and so is everything that does not begin with a hyphen. -/
def isValue (arg : String) : Bool := arg = "-" || arg.toList.head? != some '-'

def readOperands {σ : Type} (g : Grammar σ) (settings : Option σ) : List String → Reading σ
  | [] => .finished settings
  | arg :: rest =>
    match settings, g.operand with
    | some s, some take => readOperands g (take arg s) rest
    | _, _ => .misuse

/-- Reads arguments into settings, which are none while a value that stands apart is unusable. -/
def readArguments {σ : Type} (g : Grammar σ) (settings : Option σ) : List String → Reading σ
  | [] => .finished settings
  | arg :: rest =>
    if g.subcommands.contains arg then .subcommand arg rest settings
    else if arg = "--" then readOperands g settings rest
    else
      match settings with
      | none => .misuse
      | some s =>
        match longOption? arg with
        | some ("help", attached) => if attached.isSome then .misuse else .help
        | some (name, attached) =>
          match g.flags.lookup name, g.options.find? (·.name = name) with
          | some set, _ =>
            match attached, set s with
            | none, some s => readArguments g (some s) rest
            | _, _ => .misuse
          | none, some option =>
            match attached, rest with
            | some value, rest =>
              match option.take value s with
              | none => .misuse
              | some s => readArguments g (some s) rest
            | none, value :: rest =>
              if option.takesHyphens || isValue value then
                readArguments g (option.take value s) rest
              else .misuse
            | none, [] => .misuse
          | none, none => .misuse
        | none =>
          match shortOptions? arg, g.operand with
          | some ('h' :: _), _ => .help
          | some _, _ => .misuse
          | none, some take => readArguments g (take arg s) rest
          | none, none => .misuse

end PackageVerification.CommandLine
