import PackageVerification.CommandLine.Run
import Std.Time.DateTime.Timestamp

/-!
# The program

Reads the arguments, the environment and the files that they name, and shows the response: each
piece of output at its time. The records of the response are not written.
-/

namespace PackageVerification.CommandLine

def readFile? (path : String) : IO (Option String) := do
  try return some (← IO.FS.readFile path)
  catch _ => return none

def gather (names : List String) (look : String → IO (Option String)) :
    IO (List (String × String)) := do
  let found ← names.mapM fun name => return (name, ← look name)
  return found.filterMap fun (name, text?) => text?.map fun text => (name, text)

/-- Writes pieces of output, each once its offset has passed. -/
def showOutput (begun : Nat) : List (Nat × String) → IO Unit
  | [] => return
  | (offset, text) :: rest => do
    let passed := (← IO.monoMsNow) - begun
    if passed < offset then IO.sleep (UInt32.ofNat (min (offset - passed) (UInt32.size - 1)))
    let out ← IO.getStdout
    out.putStr text
    out.flush
    showOutput begun rest

def answerCall (args : List String) : IO UInt32 := do
  let begun ← IO.monoMsNow
  let now ← Std.Time.Timestamp.now
  let clock := Timestamp.ofMicros (now.toNanosecondsSinceUnixEpoch.toInt / 1000)
  let environment ←
    gather (Setting.all.map Setting.environmentName) (fun name => IO.getEnv name)
  let reply := readInvocation (fun name => environment.lookup name) args
  let paths :=
    match reply with
    | .run invocation => invocation.files
    | _ => []
  let files ← gather paths readFile?
  let response := reply.response (fun path => files.lookup path) clock
  showOutput begun response.output
  match response.error with
  | some line => (← IO.getStderr).putStrLn line
  | none => pure ()
  return response.status

end PackageVerification.CommandLine

def main (args : List String) : IO UInt32 := PackageVerification.CommandLine.answerCall args
