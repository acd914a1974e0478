import PackageVerification.Data.Vocabulary
import PackageVerification.Toml.Parser
import PackageVerification.Toml.Printer

/-!
# Configuration

The settings of a service, their check, and their TOML form. Main statement: a configuration that is
read from TOML text passes the check (`check_of_read`).
-/

namespace PackageVerification

/-! ## 1. Settings -/

inductive LogFormat
  | human
  | json
  deriving DecidableEq, Repr

namespace LogFormat

def name : LogFormat → String
  | .human => "human"
  | .json => "json"

def ofName? : String → Option LogFormat
  | "human" => some .human
  | "json" => some .json
  | _ => none

@[simp] theorem ofName?_name (f : LogFormat) : ofName? f.name = some f := by
  cases f <;> rfl

/-- A format by name, in any case; blanks are not trimmed. -/
def read (text : String) : Except Unreadable LogFormat :=
  match ofName? (String.ofList (Text.lower text.toList)) with
  | some f => .ok f
  | none => .error (.logFormat text)

end LogFormat

structure Configuration where
  /-- How long a session waits for its verifiers, in milliseconds. -/
  verificationTimeout : UInt64 := 10000
  /-- The longest delay that one extension may ask for, in milliseconds. -/
  maxExtension : UInt64 := 3600000
  /-- The answer that is counted for each silent required verifier when the time is up. -/
  defaultAnswer : Answer := .reject
  pendingPolicy : PendingPolicy := .failClosed
  logFormat : LogFormat := .human
  logLevel : String := "info"
  deriving DecidableEq, Repr

namespace Configuration

def default : Configuration := {}

/-! ## 2. The check -/

inductive Fault
  | zeroTimeout
  /-- A waiver for every silent verifier would approve a session that nobody answered. -/
  | waiverByDefault
  /-- An integer that TOML cannot hold. -/
  | integerOutOfRange
  deriving DecidableEq, Repr

def Fault.message : Fault → String
  | .zeroTimeout => "config error: verification_timeout_ms must be greater than zero"
  | .waiverByDefault =>
    "config error: default_timeout_response must be \"allow\" or a rejection code"
  | .integerOutOfRange => "config error: out-of-range value for u64 type"

def check (c : Configuration) : Except Fault Unit :=
  if c.verificationTimeout = 0 then .error .zeroTimeout
  else if c.defaultAnswer = .allowWithoutSufficient then .error .waiverByDefault
  else .ok ()

/-! ## 3. Reading and writing -/

def settingNames : List String :=
  ["verification_timeout_ms", "max_extension_ms", "default_timeout_response",
   "pending_sufficient_policy", "log_format", "log_level"]

/-- The configuration that data describe; what they leave out keeps its default. -/
def ofData? (dialect : Dialect) (d : Data) : Option Configuration := do
  let f ← d.fields? dialect settingNames
  let verificationTimeout ←
    f.orDefault "verification_timeout_ms" default.verificationTimeout Data.uint64?
  let maxExtension ← f.orDefault "max_extension_ms" default.maxExtension Data.uint64?
  let defaultAnswer ←
    f.orDefault "default_timeout_response" default.defaultAnswer Answer.ofData?
  let pendingPolicy ←
    f.orDefault "pending_sufficient_policy" default.pendingPolicy
      (Data.enum? dialect PendingPolicy.ofName?)
  let logFormat ←
    f.orDefault "log_format" default.logFormat (Data.enum? dialect LogFormat.ofName?)
  let logLevel ← f.orDefault "log_level" default.logLevel Data.str?
  some { verificationTimeout, maxExtension, defaultAnswer, pendingPolicy, logFormat, logLevel }

def settings (c : Configuration) : List (String × Scalar) :=
  [("verification_timeout_ms", .int c.verificationTimeout.toNat),
   ("max_extension_ms", .int c.maxExtension.toNat),
   ("default_timeout_response", c.defaultAnswer.toScalar),
   ("pending_sufficient_policy", .str c.pendingPolicy.name),
   ("log_format", .str c.logFormat.name),
   ("log_level", .str c.logLevel)]

def entries (c : Configuration) : List (String × Data) :=
  c.settings.map fun e => (e.1, e.2.toData)

def toData (c : Configuration) : Data := .obj c.entries

inductive ReadFault
  /-- The text is not TOML, or its values do not fit the settings. -/
  | malformed
  | invalid (fault : Fault)
  deriving DecidableEq, Repr

def read (text : String) : Except ReadFault Configuration :=
  match (Toml.parse text).bind (ofData? Toml.dialect) with
  | none => .error .malformed
  | some c =>
    match c.check with
    | .error fault => .error (.invalid fault)
    | .ok () => .ok c

theorem check_of_read {text : String} {c : Configuration} (h : read text = .ok c) :
    c.check = .ok () := by
  unfold read at h
  split at h
  · simp at h
  · split at h
    · simp at h
    · simp_all

def write (c : Configuration) : Except Fault String :=
  match Toml.print? c.settings with
  | some text => .ok text
  | none => .error .integerOutOfRange

end Configuration

end PackageVerification
