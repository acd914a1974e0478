/-!
# Data

A tree of self-describing values, the common ground of the text formats that the program reads and
writes. A format that lacks one of the kinds never produces it.
-/

namespace PackageVerification

inductive Data
  | null
  | bool (value : Bool)
  | int (value : Int)
  /-- A number that is not an integer, as it was written. -/
  | float (lexeme : String)
  /-- A date, a time of day or both, as it was written. -/
  | moment (lexeme : String)
  | str (value : String)
  | arr (items : List Data)
  /-- Named values between braces, in the order in which they were written. -/
  | obj (entries : List (String × Data))
  /-- Named values gathered from lines under a heading. -/
  | headed (entries : List (String × Data))

namespace Data

def entries? : Data → Option (List (String × Data))
  | .obj entries | .headed entries => some entries
  | _ => none

def ofOption {α : Type} (write : α → Data) : Option α → Data
  | none => .null
  | some a => write a

def ofNat (n : Nat) : Data := .int n

end Data

inductive Scalar
  | int (value : Int)
  | str (value : String)
  deriving DecidableEq, Repr

def Scalar.toData : Scalar → Data
  | .int i => .int i
  | .str s => .str s

end PackageVerification
