import PackageVerification.Data.Basic
import PackageVerification.Text.Decimal

/-!
# Printing JSON

Data as compact JSON text: no blanks, entries in their order. Text is kept as it is but for quotes,
backslashes and control characters.
-/

namespace PackageVerification.Json

def hexDigit (n : Nat) : Char := Nat.digitChar (n % 16)

def escaped (c : Char) : List Char :=
  if c = '"' then ['\\', '"']
  else if c = '\\' then ['\\', '\\']
  else if c = '\x08' then ['\\', 'b']
  else if c = '\x0c' then ['\\', 'f']
  else if c = '\n' then ['\\', 'n']
  else if c = '\r' then ['\\', 'r']
  else if c = '\t' then ['\\', 't']
  else if c < ' ' then ['\\', 'u', '0', '0', hexDigit (c.toNat / 16), hexDigit c.toNat]
  else [c]

def quoted (s : String) : List Char := '"' :: s.toList.flatMap escaped ++ ['"']

mutual

def printed : Data → List Char
  | .null => ['n', 'u', 'l', 'l']
  | .bool true => ['t', 'r', 'u', 'e']
  | .bool false => ['f', 'a', 'l', 's', 'e']
  | .int i => (Text.ofInt i).toList
  | .float lexeme => lexeme.toList
  | .moment lexeme => quoted lexeme
  | .str s => quoted s
  | .arr [] => ['[', ']']
  | .arr (d :: ds) => '[' :: printed d ++ printedItems ds
  | .obj [] => ['{', '}']
  | .obj ((name, d) :: es) => '{' :: quoted name ++ ':' :: printed d ++ printedEntries es
  | .headed [] => ['{', '}']
  | .headed ((name, d) :: es) => '{' :: quoted name ++ ':' :: printed d ++ printedEntries es

def printedItems : List Data → List Char
  | [] => [']']
  | d :: ds => ',' :: printed d ++ printedItems ds

def printedEntries : List (String × Data) → List Char
  | [] => ['}']
  | (name, d) :: es => ',' :: quoted name ++ ':' :: printed d ++ printedEntries es

end

def print (d : Data) : String := String.ofList (printed d)

end PackageVerification.Json
