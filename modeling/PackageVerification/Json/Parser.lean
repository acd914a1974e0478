import PackageVerification.Data.Decode
import PackageVerification.Text.CodePoint

/-!
# Reading JSON

JSON text as data. An integer stays exact whatever its size; a number with a fraction or an
exponent, and minus zero, is kept as it was written. Arrays and objects may nest 127 deep, and a
surrogate stands only as half of a pair.

Both limits hold for every value of a text. A record passes over the fields that it does not have,
and a reader that skips over those without reading them need check neither limit there. This one
reads the whole text first, so it refuses a document whose only fault of that kind is in a field
that nobody reads.

Readers take what they need from the front of the text and hand over the rest.
-/

namespace PackageVerification.Json

/-! ## 1. Blanks and numbers -/

def isBlank (c : Char) : Bool := c == ' ' || c == '\t' || c == '\n' || c == '\r'

def digits (cs : List Char) : List Char × List Char :=
  (cs.takeWhile Char.isDigit, cs.dropWhile Char.isDigit)

def fraction : List Char → Option (List Char × List Char)
  | '.' :: cs =>
    match digits cs with
    | ([], _) => none
    | (ds, rest) => some ('.' :: ds, rest)
  | cs => some ([], cs)

def exponentDigits (mark : List Char) (cs : List Char) : Option (List Char × List Char) :=
  match digits cs with
  | ([], _) => none
  | (ds, rest) => some (mark ++ ds, rest)

def exponent : List Char → Option (List Char × List Char)
  | e :: cs =>
    if e = 'e' ∨ e = 'E' then
      match cs with
      | '+' :: ds => exponentDigits [e, '+'] ds
      | '-' :: ds => exponentDigits [e, '-'] ds
      | ds => exponentDigits [e] ds
    else some ([], e :: cs)
  | [] => some ([], [])

/-- A number without its sign. No zero stands before another digit. -/
def magnitude (negative : Bool) (cs : List Char) : Option (Data × List Char) := do
  let (whole, rest) := digits cs
  if whole.isEmpty || (whole.head? = some '0' && whole ≠ ['0']) then none
  else
    let (places, rest) ← fraction rest
    let (power, rest) ← exponent rest
    let value := Text.digitsValue whole
    if places.isEmpty && power.isEmpty && !(negative && value = 0) then
      some (.int (if negative then -value else value), rest)
    else
      let sign := if negative then ['-'] else []
      some (.float (String.ofList (sign ++ whole ++ places ++ power)), rest)

def number : List Char → Option (Data × List Char)
  | '-' :: cs => magnitude true cs
  | cs => magnitude false cs

/-! ## 2. Strings -/

def unit? (a b c d : Char) : Option Nat := do
  some (((← Text.hexValue? a) * 16 + (← Text.hexValue? b)) * 256 +
    (← Text.hexValue? c) * 16 + (← Text.hexValue? d))

def pair? (high low : Nat) : Option Char :=
  if 0xd800 ≤ high ∧ high < 0xdc00 ∧ 0xdc00 ≤ low ∧ low < 0xe000 then
    Text.char? (0x10000 + (high - 0xd800) * 0x400 + (low - 0xdc00))
  else none

def escape? : Char → Option Char
  | '"' => some '"'
  | '\\' => some '\\'
  | '/' => some '/'
  | 'b' => some '\x08'
  | 'f' => some '\x0c'
  | 'n' => some '\n'
  | 'r' => some '\r'
  | 't' => some '\t'
  | _ => none

inductive Pending
  | nothing
  | backslash
  /-- Hexadecimal digits of a unit, latest first, after a high surrogate if there was one. -/
  | unit (high : Option Nat) (digits : List Char)
  /-- A high surrogate, which a low one has to follow. -/
  | high (unit : Nat)
  | highBackslash (unit : Nat)

def stringBody : Pending → List Char → Option (List Char × List Char)
  | _, [] => none
  | .nothing, '"' :: cs => some ([], cs)
  | .nothing, '\\' :: cs => stringBody .backslash cs
  | .nothing, c :: cs =>
    if c < ' ' then none else (stringBody .nothing cs).map fun (s, rest) => (c :: s, rest)
  | .backslash, 'u' :: cs => stringBody (.unit none []) cs
  | .backslash, c :: cs => do
    let x ← escape? c
    let (s, rest) ← stringBody .nothing cs
    some (x :: s, rest)
  | .unit none [c, b, a], d :: cs => do
    let n ← unit? a b c d
    if 0xd800 ≤ n ∧ n < 0xdc00 then stringBody (.high n) cs
    else
      let x ← Text.char? n
      let (s, rest) ← stringBody .nothing cs
      some (x :: s, rest)
  | .unit (some high) [c, b, a], d :: cs => do
    let x ← pair? high (← unit? a b c d)
    let (s, rest) ← stringBody .nothing cs
    some (x :: s, rest)
  | .unit high ds, d :: cs => stringBody (.unit high (d :: ds)) cs
  | .high n, c :: cs => if c = '\\' then stringBody (.highBackslash n) cs else none
  | .highBackslash n, c :: cs => if c = 'u' then stringBody (.unit (some n) []) cs else none

def stringRest (cs : List Char) : Option (String × List Char) :=
  (stringBody .nothing cs).map fun (s, rest) => (String.ofList s, rest)

/-! ## 3. Values -/

def itemsRest (value : List Char → Option (Data × List Char)) :
    Nat → List Char → Option (List Data × List Char)
  | 0, _ => none
  | fuel + 1, cs =>
    match Text.skip isBlank cs with
    | ']' :: rest => some ([], rest)
    | ',' :: rest => do
      let (d, rest) ← value (Text.skip isBlank rest)
      let (ds, rest) ← itemsRest value fuel rest
      some (d :: ds, rest)
    | _ => none

def entry (value : List Char → Option (Data × List Char)) :
    List Char → Option ((String × Data) × List Char)
  | '"' :: cs => do
    let (name, rest) ← stringRest cs
    match Text.skip isBlank rest with
    | ':' :: rest =>
      let (d, rest) ← value (Text.skip isBlank rest)
      some ((name, d), rest)
    | _ => none
  | _ => none

def entriesRest (value : List Char → Option (Data × List Char)) :
    Nat → List Char → Option (List (String × Data) × List Char)
  | 0, _ => none
  | fuel + 1, cs =>
    match Text.skip isBlank cs with
    | '}' :: rest => some ([], rest)
    | ',' :: rest => do
      let (e, rest) ← entry value (Text.skip isBlank rest)
      let (es, rest) ← entriesRest value fuel rest
      some (e :: es, rest)
    | _ => none

def items (value : List Char → Option (Data × List Char)) (fuel : Nat) (cs : List Char) :
    Option (List Data × List Char) :=
  match Text.skip isBlank cs with
  | ']' :: rest => some ([], rest)
  | cs => do
    let (d, rest) ← value cs
    let (ds, rest) ← itemsRest value fuel rest
    some (d :: ds, rest)

def entries (value : List Char → Option (Data × List Char)) (fuel : Nat) (cs : List Char) :
    Option (List (String × Data) × List Char) :=
  match Text.skip isBlank cs with
  | '}' :: rest => some ([], rest)
  | cs => do
    let (e, rest) ← entry value cs
    let (es, rest) ← entriesRest value fuel rest
    some (e :: es, rest)

/-- A value in which arrays and objects nest at most `depth` deep and hold at most `fuel` values
each, which a text of that length cannot exceed. -/
def value (fuel depth : Nat) (cs : List Char) : Option (Data × List Char) :=
  match cs with
  | 'n' :: 'u' :: 'l' :: 'l' :: rest => some (.null, rest)
  | 't' :: 'r' :: 'u' :: 'e' :: rest => some (.bool true, rest)
  | 'f' :: 'a' :: 'l' :: 's' :: 'e' :: rest => some (.bool false, rest)
  | '"' :: rest => (stringRest rest).map fun (s, rest) => (.str s, rest)
  | '[' :: rest =>
    match depth with
    | 0 => none
    | depth + 1 => (items (value fuel depth) fuel rest).map fun (ds, rest) => (.arr ds, rest)
  | '{' :: rest =>
    match depth with
    | 0 => none
    | depth + 1 => (entries (value fuel depth) fuel rest).map fun (es, rest) => (.obj es, rest)
  | cs => number cs

def maxDepth : Nat := 127

def parse (text : String) : Option Data := do
  let cs := text.toList
  let (d, rest) ← value cs.length maxDepth (Text.skip isBlank cs)
  if (Text.skip isBlank rest).isEmpty then some d else none

/-- Records by position are exact, and nothing stands beside the name of an enumeration value. -/
def dialect : Dialect where
  exactPositions := true
  isBlankPayload := fun
    | .null => true
    | _ => false

end PackageVerification.Json
