import PackageVerification.Notice
import PackageVerification.Totals

/-!
# Records of a call

A call of the program logs what its sessions log, and records of its own before, between and after.
They are handed to a subscriber, which is set up with the log format and, unless the environment
names another, with the log level of the configuration. What the subscriber lets through it writes
to the standard output, between what the program prints; what it lets through and in which form is
not said in this library.
-/

namespace PackageVerification.CommandLine

inductive Record
  | configurationLoaded (path : String)
  | replayBegun (sessions : Nat) (timeout : UInt64)
  | session (notice : Notice)
  | replayFinished (totals : Totals)
  deriving DecidableEq, Repr

namespace Record

def level : Record → Level
  | .session n => n.level
  | .configurationLoaded _ | .replayBegun .. | .replayFinished _ => .info

def message : Record → String
  | .configurationLoaded path => "Loaded config from " ++ path
  | .replayBegun .. => "replaying verification script"
  | .session n => n.message
  | .replayFinished _ => "replay finished"

/-- Totals are shown in ascending order of their names. -/
def totalsText (t : Totals) : String :=
  let entries := t.entries.map fun e => "\"" ++ e.1 ++ "\": " ++ Text.ofNat e.2.toNat
  "\x7b" ++ ", ".intercalate entries ++ "\x7d"

def fields : Record → List (String × String)
  | .configurationLoaded _ => []
  | .replayBegun n ms => [("sessions", Text.ofNat n), ("timeout_ms", Text.ofNat ms.toNat)]
  | .session n => n.fields
  | .replayFinished t => [("stats", totalsText t)]

def line (r : Record) : String := logLine r.level r.message r.fields

end Record

end PackageVerification.CommandLine
