import PackageVerification.Text.CodePoint

/-!
# Lexemes of TOML

Blanks, line ends, comments, strings and keys. Readers take what they need from the front of the
text and hand over the rest. A line ends with a line feed, which may follow a carriage return; a
carriage return does not stand elsewhere.
-/

namespace PackageVerification.Toml

/-! ## 1. Blanks, comments and line ends -/

def isBlank (c : Char) : Bool := c == ' ' || c == '\t'

/-- What may stand in comments and strings: a tab and everything but control characters. -/
def isPlain (c : Char) : Bool := c == '\t' || (' ' ≤ c && c != '\x7f')

def newline? : List Char → Option (List Char)
  | '\n' :: cs => some cs
  | '\r' :: '\n' :: cs => some cs
  | _ => none

def lineEnd (cs : List Char) : Option (List Char) :=
  let rest :=
    match Text.skip isBlank cs with
    | '#' :: comment => comment.dropWhile isPlain
    | cs => cs
  if rest.isEmpty then some [] else newline? rest

def skipLines : (inComment : Bool) → List Char → Option (List Char)
  | _, [] => some []
  | _, '\n' :: cs => skipLines false cs
  | _, '\r' :: '\n' :: cs => skipLines false cs
  | true, c :: cs => if isPlain c then skipLines true cs else none
  | false, '#' :: cs => skipLines true cs
  | false, c :: cs => if isBlank c then skipLines false cs else some (c :: cs)

/-! ## 2. Strings -/

def escape? : Char → Option Char
  | 'b' => some '\x08'
  | 't' => some '\t'
  | 'n' => some '\n'
  | 'f' => some '\x0c'
  | 'r' => some '\r'
  | '"' => some '"'
  | '\\' => some '\\'
  | _ => none

inductive Pending
  | nothing
  | backslash
  /-- So many hexadecimal digits of a code point are missing. -/
  | code (missing : Nat) (value : Nat)
  /-- A backslash and blanks: the line has to end here. -/
  | continuation
  /-- The line ended after a backslash: blanks and line ends do not count. -/
  | continued

def adding (c : Char) (body : Option (List Char × List Char)) : Option (List Char × List Char) :=
  body.map fun (s, rest) => (c :: s, rest)

def basicBody : Pending → List Char → Option (List Char × List Char)
  | _, [] => none
  | .nothing, '"' :: cs => some ([], cs)
  | .nothing, '\\' :: cs => basicBody .backslash cs
  | .nothing, c :: cs => if isPlain c then adding c (basicBody .nothing cs) else none
  | .backslash, 'u' :: cs => basicBody (.code 4 0) cs
  | .backslash, 'U' :: cs => basicBody (.code 8 0) cs
  | .backslash, c :: cs => (escape? c).bind fun x => adding x (basicBody .nothing cs)
  | .code missing n, c :: cs =>
    (Text.hexValue? c).bind fun d =>
      if missing ≤ 1 then (Text.char? (n * 16 + d)).bind fun x => adding x (basicBody .nothing cs)
      else basicBody (.code (missing - 1) (n * 16 + d)) cs
  | .continuation, _ => none
  | .continued, _ => none

/-- The text of a basic string over several lines, up to its three closing quotes. Up to two quotes
may stand before these. -/
def basicLines : Pending → List Char → Option (List Char × List Char)
  | _, [] => none
  | .backslash, 'u' :: cs => basicLines (.code 4 0) cs
  | .backslash, 'U' :: cs => basicLines (.code 8 0) cs
  | .backslash, '\n' :: cs => basicLines .continued cs
  | .backslash, '\r' :: '\n' :: cs => basicLines .continued cs
  | .backslash, c :: cs =>
    if isBlank c then basicLines .continuation cs
    else (escape? c).bind fun x => adding x (basicLines .nothing cs)
  | .code missing n, c :: cs =>
    (Text.hexValue? c).bind fun d =>
      if missing ≤ 1 then (Text.char? (n * 16 + d)).bind fun x => adding x (basicLines .nothing cs)
      else basicLines (.code (missing - 1) (n * 16 + d)) cs
  | .continuation, '\n' :: cs => basicLines .continued cs
  | .continuation, '\r' :: '\n' :: cs => basicLines .continued cs
  | .continuation, c :: cs => if isBlank c then basicLines .continuation cs else none
  | .continued, '\n' :: cs => basicLines .continued cs
  | .continued, '\r' :: '\n' :: cs => basicLines .continued cs
  | .continued, ' ' :: cs => basicLines .continued cs
  | .continued, '\t' :: cs => basicLines .continued cs
  | _, '"' :: '"' :: '"' :: '"' :: '"' :: cs => some (['"', '"'], cs)
  | _, '"' :: '"' :: '"' :: '"' :: cs => some (['"'], cs)
  | _, '"' :: '"' :: '"' :: cs => some ([], cs)
  | _, '\\' :: cs => basicLines .backslash cs
  | _, '\n' :: cs => adding '\n' (basicLines .nothing cs)
  | _, '\r' :: '\n' :: cs => adding '\n' (basicLines .nothing cs)
  | _, c :: cs => if isPlain c then adding c (basicLines .nothing cs) else none

def literalBody : List Char → Option (List Char × List Char)
  | [] => none
  | '\'' :: cs => some ([], cs)
  | c :: cs => if isPlain c then adding c (literalBody cs) else none

/-- The text of a literal string over several lines, up to its three closing apostrophes. Up to two
apostrophes may stand before these. -/
def literalLines : List Char → Option (List Char × List Char)
  | [] => none
  | '\'' :: '\'' :: '\'' :: '\'' :: '\'' :: cs => some (['\'', '\''], cs)
  | '\'' :: '\'' :: '\'' :: '\'' :: cs => some (['\''], cs)
  | '\'' :: '\'' :: '\'' :: cs => some ([], cs)
  | '\n' :: cs => adding '\n' (literalLines cs)
  | '\r' :: '\n' :: cs => adding '\n' (literalLines cs)
  | c :: cs => if isPlain c then adding c (literalLines cs) else none

/-- A line end right after the opening quotes is not part of the text. -/
def withoutFirstNewline (cs : List Char) : List Char := (newline? cs).getD cs

def string : List Char → Option (List Char × List Char)
  | '"' :: '"' :: '"' :: cs => basicLines .nothing (withoutFirstNewline cs)
  | '"' :: cs => basicBody .nothing cs
  | '\'' :: '\'' :: '\'' :: cs => literalLines (withoutFirstNewline cs)
  | '\'' :: cs => literalBody cs
  | _ => none

/-! ## 3. Keys -/

def isBareKey (c : Char) : Bool := c.isAlphanum || c == '_' || c == '-'

def keyPart : List Char → Option (List Char × List Char)
  | '"' :: cs => basicBody .nothing cs
  | '\'' :: cs => literalBody cs
  | cs =>
    match cs.takeWhile isBareKey with
    | [] => none
    | part => some (part, cs.dropWhile isBareKey)

structure Key where
  parents : List String
  name : String
  deriving DecidableEq, Repr

/-- The number of parts that a key may not reach. -/
def maxKeyParts : Nat := 80

def keyParts : (fuel : Nat) → List Char → Option (Key × List Char)
  | 0, _ => none
  | fuel + 1, cs => do
    let (part, rest) ← keyPart (Text.skip isBlank cs)
    let name := String.ofList part
    match Text.skip isBlank rest with
    | '.' :: rest =>
      let (key, rest) ← keyParts fuel rest
      some ({ key with parents := name :: key.parents }, rest)
    | rest => some ({ parents := [], name }, rest)

def key (cs : List Char) : Option (Key × List Char) := keyParts (maxKeyParts - 1) cs

end PackageVerification.Toml
