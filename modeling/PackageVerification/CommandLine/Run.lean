import PackageVerification.CommandLine.Invocation
import PackageVerification.CommandLine.Record
import PackageVerification.Json.Printer
import PackageVerification.Replay
import PackageVerification.Service.Report

/-!
# Running an invocation

What the program prints and logs for an invocation, given the files that it can read and the time at
its start. Each piece of output has an offset, the milliseconds from the start after which it
appears.

Output is what the program prints by itself. The records come in the order in which they are logged;
those that the subscriber lets through stand on the standard output too, and are not part of the
output here. The subscriber is new with every call, so there is no warning that one is in place
already.
-/

namespace PackageVerification.CommandLine

/-! ## 1. Responses -/

structure Response where
  status : UInt32
  output : List (Nat × String)
  /-- The first line that the program itself writes to the error stream. -/
  error : Option String
  records : List Record
  deriving DecidableEq, Repr

namespace Response

def text (r : Response) : String := String.join (r.output.map (·.2))

def success (output : List (Nat × String)) : Response := ⟨0, output, none, []⟩

def failure (output : List (Nat × String)) (message : String) : Response :=
  ⟨1, output, some ("Error: " ++ message), []⟩

def misuse : Response :=
  ⟨2, [], some "error: the arguments are not understood, try --help", []⟩

def behind (records : List Record) (r : Response) : Response :=
  { r with records := records ++ r.records }

end Response

/-! ## 2. Commands -/

def helpText : String :=
  "Package verification consensus daemon\n\n" ++
  "Usage: [OPTIONS] <COMMAND>\n\n" ++
  "Commands:\n" ++
  "  replay <SCRIPT> [--tick-ms <TICK_MS>] [--events]\n" ++
  "  print-config\n" ++
  "  help [COMMAND]\n\n" ++
  "Options:\n" ++
  String.join
    (Setting.all.map fun s =>
      "  --" ++ s.optionName ++ " <VALUE>  [env: " ++ s.environmentName ++ "]\n") ++
  "  -h, --help\n"

def Invocation.files (i : Invocation) : List String :=
  i.settings.configFile.toList ++
    match i.command with
    | .replay c => [c.script]
    | .printConfig => []

/-- The lines that a replay prints: events as they are handed over if asked for, then summaries. -/
def recordingOutput (showEvents : Bool) (r : Recording) : List (Nat × String) :=
  let line := fun (d : Data) => Json.print d ++ "\n"
  let events :=
    if showEvents then
      r.batches.flatMap fun b => b.events.map fun e => (b.offset, line e.toData)
    else []
  let last := (r.batches.getLast?.map (·.offset)).getD 0
  match r.ending with
  | .ok summaries => events ++ summaries.map fun s => (last, line s.toData)
  | .error _ => events

def runReplay (files : String → Option String) (clock : Timestamp) (c : Configuration)
    (command : ReplayCommand) : Response :=
  match files command.script with
  | none => .failure [] ("failed to read script " ++ command.script)
  | some text =>
    match Script.read text with
    | .error _ => .failure [] ("invalid script " ++ command.script)
    | .ok script =>
      let replay : Replay := { clock, period := command.tick }
      let recording := replay.run (.new c) script
      let output := recordingOutput command.showEvents recording
      let records :=
        .replayBegun script.sessions.length c.verificationTimeout ::
          recording.notices.map Record.session
      match recording.ending with
      | .ok _ =>
        (Response.success output).behind
          (records ++ [.replayFinished recording.service.totals])
      | .error fault => (Response.failure output fault.message).behind records

def Command.response (files : String → Option String) (clock : Timestamp) (c : Configuration) :
    Command → Response
  | .replay command => runReplay files clock c command
  | .printConfig =>
    match c.write with
    | .ok text => .success [(0, text)]
    | .error fault => .failure [] fault.message

def Invocation.file (i : Invocation) (files : String → Option String) :
    Option Configuration.File :=
  i.settings.configFile.map fun path => ⟨path, files path⟩

/-- What is logged once there is an effective configuration: where it was loaded from, if it was. -/
def Invocation.loaded (i : Invocation) : List Record :=
  i.settings.configFile.toList.map .configurationLoaded

def Invocation.response (i : Invocation) (files : String → Option String) (clock : Timestamp) :
    Response :=
  match Configuration.effective (i.file files) i.settings.overrides with
  | .error fault => .failure [] fault.message
  | .ok c => (i.command.response files clock c).behind i.loaded

def Reply.response (r : Reply) (files : String → Option String) (clock : Timestamp) : Response :=
  match r with
  | .run invocation => invocation.response files clock
  | .help => .success [(0, helpText)]
  | .misuse => .misuse

end PackageVerification.CommandLine
