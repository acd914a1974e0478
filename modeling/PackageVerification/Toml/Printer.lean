import PackageVerification.Data.Basic
import PackageVerification.Text.Decimal

/-!
# Writing TOML

Flat documents: one line for each key. A string is written between quotes, and literally where that
spares escapes: when it holds a quote or a backslash and nothing that a literal string cannot hold.
-/

namespace PackageVerification.Toml

/-! ## 1. Strings -/

inductive Delimiter
  | single
  /-- Three quotes on one line. -/
  | triple
  /-- Three quotes, with a line end after the first three. -/
  | lines
  deriving DecidableEq, Repr

/-- A control character other than a tab or a line feed, for which an escape is needed. -/
def needsEscape (c : Char) : Bool := (c < ' ' || c == '\x7f') && c != '\t' && c != '\n'

def hasTripleApostrophe : List Char → Bool
  | '\'' :: '\'' :: '\'' :: _ => true
  | _ :: cs => hasTripleApostrophe cs
  | [] => false

def isLiteral (cs : List Char) : Bool :=
  (cs.contains '"' || cs.contains '\\') && !cs.any needsEscape && !hasTripleApostrophe cs &&
    cs.getLast? != some '\''

def delimiter (cs : List Char) : Delimiter :=
  if cs.contains '\n' then .lines
  else if isLiteral cs && cs.contains '\'' then .triple
  else .single

def codeDigits (c : Char) : List Char :=
  ((Nat.toDigits 16 c.toNat).map Char.toUpper).leftpad 4 '0'

/-- A character of a basic string. Over several lines a line feed stands for itself. -/
def escaped (delimiter : Delimiter) (c : Char) : List Char :=
  if c = '\x08' then ['\\', 'b']
  else if c = '\t' then ['\\', 't']
  else if c = '\n' then (if delimiter = .lines then ['\n'] else ['\\', 'n'])
  else if c = '\x0c' then ['\\', 'f']
  else if c = '\r' then ['\\', 'r']
  else if c = '"' then ['\\', '"']
  else if c = '\\' then ['\\', '\\']
  else if c < ' ' ∨ c = '\x7f' then '\\' :: 'u' :: codeDigits c
  else [c]

def opening (quote : Char) : Delimiter → List Char
  | .single => [quote]
  | .triple => [quote, quote, quote]
  | .lines => [quote, quote, quote, '\n']

def closing (quote : Char) : Delimiter → List Char
  | .single => [quote]
  | .triple | .lines => [quote, quote, quote]

def quoted (cs : List Char) : List Char :=
  let d := delimiter cs
  if isLiteral cs then opening '\'' d ++ cs ++ closing '\'' d
  else opening '"' d ++ cs.flatMap (escaped d) ++ closing '"' d

/-! ## 2. Documents -/

/-- The text of a scalar; there is none for an integer beyond the signed words of 64 bits. -/
def text? : Scalar → Option (List Char)
  | .int i =>
    if Int64.minValue.toInt ≤ i ∧ i ≤ Int64.maxValue.toInt then some (Text.ofInt i).toList else none
  | .str s => some (quoted s.toList)

def line? (key : String) (value : Scalar) : Option (List Char) :=
  (text? value).map fun text => key.toList ++ [' ', '=', ' '] ++ text ++ ['\n']

def print? (entries : List (String × Scalar)) : Option String :=
  (entries.mapM fun e => line? e.1 e.2).map fun lines => String.ofList lines.flatten

end PackageVerification.Toml
