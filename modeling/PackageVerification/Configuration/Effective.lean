import PackageVerification.Configuration

/-!
# The effective configuration

A configuration comes from a file, or is the default one, and single settings may be overridden.
Main statement: the effective configuration passes the check (`check_of_effective`).
-/

namespace PackageVerification

structure Overrides where
  timeout : Option UInt64 := none
  defaultAnswer : Option Answer := none
  logFormat : Option LogFormat := none
  logLevel : Option String := none
  deriving DecidableEq, Repr

def Overrides.apply (o : Overrides) (base : Configuration) : Configuration :=
  { base with
    verificationTimeout := o.timeout.getD base.verificationTimeout
    defaultAnswer := o.defaultAnswer.getD base.defaultAnswer
    logFormat := o.logFormat.getD base.logFormat
    logLevel := o.logLevel.getD base.logLevel }

namespace Configuration

structure File where
  path : String
  /-- None when the file cannot be read. -/
  text : Option String

inductive LoadFault
  /-- The file cannot be read, or does not hold a valid configuration. -/
  | unusableFile (path : String)
  /-- The configuration is invalid after the overrides. -/
  | invalid (fault : Fault)
  deriving DecidableEq, Repr

def LoadFault.message : LoadFault → String
  | .unusableFile path => "failed to load config " ++ path
  | .invalid fault => fault.message

/-- The configuration of a file, which has to be valid by itself, or the default one. -/
def base : Option File → Except LoadFault Configuration
  | none => .ok default
  | some file =>
    match file.text.map read with
    | some (.ok c) => .ok c
    | _ => .error (.unusableFile file.path)

def effective (file : Option File) (overrides : Overrides) : Except LoadFault Configuration :=
  match base file with
  | .error fault => .error fault
  | .ok b =>
    let c := overrides.apply b
    match c.check with
    | .error fault => .error (.invalid fault)
    | .ok () => .ok c

theorem check_of_effective {file : Option File} {overrides : Overrides} {c : Configuration}
    (h : effective file overrides = .ok c) : c.check = .ok () := by
  unfold effective at h
  split at h
  · simp at h
  · dsimp only at h
    split at h
    · simp at h
    · simp_all

end Configuration

end PackageVerification
