import PackageVerification.Text.Blank
import PackageVerification.Text.LowerCase
import PackageVerification.Unreadable

/-!
# Roles

How the answer of a verifier counts toward the decision.
-/

namespace PackageVerification

inductive Role
  /-- Has to answer, and one rejection fails the install. -/
  | required
  /-- One of a pool of which a single approval is enough. -/
  | sufficient
  /-- The only one of its kind; its answer can veto. -/
  | optional
  deriving DecidableEq, Repr

namespace Role

def name : Role → String
  | .required => "required"
  | .sufficient => "sufficient"
  | .optional => "optional"

def ofName? : String → Option Role
  | "required" => some .required
  | "sufficient" => some .sufficient
  | "optional" => some .optional
  | _ => none

@[simp] theorem ofName?_name (r : Role) : ofName? r.name = some r := by
  cases r <;> rfl

/-- A role by name, in any case and between blanks. -/
def read (text : String) : Except Unreadable Role :=
  match ofName? (String.ofList (Text.lower (Text.trim text.toList))) with
  | some r => .ok r
  | none => .error (.role text)

end Role

end PackageVerification
