import PackageVerification.Data.Vocabulary
import PackageVerification.Toml.Parser

/-!
# Scripts

A script lists sessions and what their verifiers do, each step at its time. As written a step may
have no action, or two; a script is read only when each of its steps has exactly one.
-/

namespace PackageVerification

inductive Action
  | respond (answer : Answer)
  | extend (ms : UInt64)
  deriving DecidableEq, Repr

structure Step where
  verifier : VerifierId
  /-- Milliseconds after the start. -/
  after : UInt64
  action : Action
  deriving DecidableEq, Repr

structure ScriptedSession where
  id : SessionId
  verifiers : List (VerifierId × Role)
  /-- The result of the integrity check, known from the start. -/
  integrity : Option Answer
  steps : List Step
  deriving DecidableEq, Repr

structure Script where
  sessions : List ScriptedSession
  deriving DecidableEq, Repr

namespace Script

/-! ## 1. The form of a script -/

/-- A step as it is written, where nothing keeps it from having no action or two. -/
structure StepForm where
  verifier : VerifierId
  after : UInt64
  code : Option Answer
  extend : Option UInt64

structure SessionForm where
  id : SessionId
  verifiers : List (VerifierId × Role)
  integrity : Option Answer
  steps : List StepForm

def StepForm.ofData? (dialect : Dialect) (d : Data) : Option StepForm := do
  let f ← d.fields? dialect ["verifier", "after_ms", "code", "extend_ms"]
  let verifier ← f.need "verifier" VerifierId.ofData?
  let after ← f.orDefault "after_ms" 0 Data.uint64?
  let code ← f.orDefault "code" none (Data.nullable? Answer.ofData?)
  let extend ← f.orDefault "extend_ms" none (Data.nullable? Data.uint64?)
  some { verifier, after, code, extend }

def verifierOfData? (dialect : Dialect) (d : Data) : Option (VerifierId × Role) := do
  let f ← d.fields? dialect ["id", "role"]
  let id ← f.need "id" VerifierId.ofData?
  let role ← f.need "role" (Data.enum? dialect Role.ofName?)
  some (id, role)

def SessionForm.ofData? (dialect : Dialect) (d : Data) : Option SessionForm := do
  let f ← d.fields? dialect ["id", "verifiers", "integrity", "response"]
  let id ← f.need "id" SessionId.ofData?
  let verifiers ← f.need "verifiers" (Data.list? (verifierOfData? dialect))
  let integrity ← f.orDefault "integrity" none (Data.nullable? Answer.ofData?)
  let steps ← f.orDefault "response" [] (Data.list? (StepForm.ofData? dialect))
  some { id, verifiers, integrity, steps }

def formsOfData? (dialect : Dialect) (d : Data) : Option (List SessionForm) := do
  let f ← d.fields? dialect ["session"]
  f.orDefault "session" [] (Data.list? (SessionForm.ofData? dialect))

/-! ## 2. Reading -/

inductive Fault
  /-- The text is not TOML, or its values do not fit a script. -/
  | malformed
  /-- A step of this verifier has no action, or two. -/
  | ambiguousStep (verifier : VerifierId)
  deriving DecidableEq, Repr

def Fault.message : Fault → String
  | .malformed => "malformed script"
  | .ambiguousStep v =>
    "step for " ++ v.text ++ " must set exactly one of \x60code\x60 or \x60extend_ms\x60"

def StepForm.step (f : StepForm) : Except Fault Step :=
  match f.code, f.extend with
  | some answer, none => .ok ⟨f.verifier, f.after, .respond answer⟩
  | none, some ms => .ok ⟨f.verifier, f.after, .extend ms⟩
  | _, _ => .error (.ambiguousStep f.verifier)

def SessionForm.session (f : SessionForm) : Except Fault ScriptedSession := do
  let steps ← f.steps.mapM StepForm.step
  return ⟨f.id, f.verifiers, f.integrity, steps⟩

/-- Reads a script from TOML text. The first step that is no step is the one reported. -/
def read (text : String) : Except Fault Script :=
  match (Toml.parse text).bind (formsOfData? Toml.dialect) with
  | none => .error .malformed
  | some forms => (forms.mapM SessionForm.session).map Script.mk

end Script

end PackageVerification
