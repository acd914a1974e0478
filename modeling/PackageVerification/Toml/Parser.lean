import PackageVerification.Data.Decode
import PackageVerification.Toml.Scalar
import PackageVerification.Toml.Table

/-!
# Reading TOML

TOML text as data. Arrays and inline tables nest at most 79 deep.
-/

namespace PackageVerification.Toml

/-! ## 1. Values -/

/-- The rest of an array; `fuel` bounds the number of items. A comma may follow the last item. -/
def arrayRest (value : List Char → Option (Data × List Char)) :
    (fuel : Nat) → List Char → Option (List Data × List Char)
  | 0, _ => none
  | fuel + 1, cs => do
    match ← skipLines false cs with
    | ']' :: rest => some ([], rest)
    | cs =>
      let (d, rest) ← value cs
      match ← skipLines false rest with
      | ']' :: rest => some ([d], rest)
      | ',' :: rest =>
        let (ds, rest) ← arrayRest value fuel rest
        some (d :: ds, rest)
      | _ => none

def assignment (value : List Char → Option (Data × List Char)) (cs : List Char) :
    Option ((Key × Data) × List Char) := do
  match ← key cs with
  | (k, '=' :: rest) =>
    let (d, rest) ← value (Text.skip isBlank rest)
    some ((k, d), rest)
  | _ => none

def inlineAssignments (value : List Char → Option (Data × List Char)) :
    (fuel : Nat) → List Char → Option (List (Key × Data) × List Char)
  | 0, _ => none
  | fuel + 1, cs => do
    let (a, rest) ← assignment value cs
    match Text.skip isBlank rest with
    | '}' :: rest => some ([a], rest)
    | ',' :: rest =>
      let (as, rest) ← inlineAssignments value fuel rest
      some (a :: as, rest)
    | _ => none

def inlineTable (value : List Char → Option (Data × List Char)) (fuel : Nat) (cs : List Char) :
    Option (Data × List Char) :=
  match Text.skip isBlank cs with
  | '}' :: rest => some (.obj [], rest)
  | cs => do
    let (as, rest) ← inlineAssignments value fuel cs
    some (← inlineTable? as, rest)

/-- A value in which arrays and inline tables nest at most `depth` deep and hold at most `fuel`
values each, which a text of that length cannot exceed. -/
def value (fuel depth : Nat) (cs : List Char) : Option (Data × List Char) :=
  match depth, cs with
  | depth + 1, '[' :: rest =>
    (arrayRest (value fuel depth) fuel rest).map fun (ds, rest) => (.arr ds, rest)
  | depth + 1, '{' :: rest => inlineTable (value fuel depth) fuel rest
  | _, cs => scalar cs

def maxDepth : Nat := 79

/-! ## 2. Lines -/

def heading : List Char → Option (Line × List Char)
  | '[' :: cs => do
    match ← key cs with
    | (k, ']' :: ']' :: rest) => some (.elementHeading k, rest)
    | _ => none
  | cs => do
    match ← key cs with
    | (k, ']' :: rest) => some (.tableHeading k, rest)
    | _ => none

def lines (size : Nat) : (fuel : Nat) → List Char → Option (List Line)
  | 0, _ => none
  | fuel + 1, cs =>
    match Text.skip isBlank cs with
    | [] => some []
    | '[' :: cs => do
      let (line, rest) ← heading cs
      let rest ← lineEnd rest
      some (line :: (← lines size fuel rest))
    | cs =>
      match lineEnd cs with
      | some rest => lines size fuel rest
      | none => do
        let ((k, d), rest) ← assignment (value size maxDepth) cs
        let rest ← lineEnd rest
        some (.assignment k d :: (← lines size fuel rest))

def withoutMark : List Char → List Char
  | '\ufeff' :: cs => cs
  | cs => cs

def parse (text : String) : Option Data := do
  let cs := withoutMark text.toList
  document? (← lines cs.length (cs.length + 1) cs)

/-- Records by position may hold more than their fields, and an empty array or record may stand
beside the name of an enumeration value. -/
def dialect : Dialect where
  exactPositions := false
  isBlankPayload := fun
    | .arr [] | .obj [] | .headed [] => true
    | _ => false

end PackageVerification.Toml
