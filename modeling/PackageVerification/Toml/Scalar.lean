import PackageVerification.Data.Basic
import PackageVerification.Text.Decimal
import PackageVerification.Toml.Lexeme

/-!
# Bare scalars of TOML

Booleans, integers, floats, dates and times. A bare scalar is a run of characters that none of the
marks around values belong to, and is read as a whole.
-/

namespace PackageVerification.Toml

/-! ## 1. Digits -/

def grouped? (isDigit : Char → Bool) : List Char → Option (List Char)
  | [] => none
  | [c] => if isDigit c then some [c] else none
  | c :: '_' :: cs => if isDigit c then (grouped? isDigit cs).map (c :: ·) else none
  | c :: cs => if isDigit c then (grouped? isDigit cs).map (c :: ·) else none

def whole? : List Char → Option (List Char)
  | ['0'] => some ['0']
  | '0' :: _ => none
  | cs => grouped? Char.isDigit cs

def signed : List Char → Bool × List Char
  | '-' :: cs => (true, cs)
  | '+' :: cs => (false, cs)
  | cs => (false, cs)

/-! ## 2. Integers -/

def valueIn (base : Nat) (ds : List Char) : Nat :=
  ds.foldl (fun n c => base * n + (Text.hexValue? c).getD 0) 0

/-- The integers that a document can hold: the signed words of 64 bits. -/
def bounded (i : Int) : Option Int :=
  if Int64.minValue.toInt ≤ i ∧ i ≤ Int64.maxValue.toInt then some i else none

def integer? : List Char → Option Int
  | '0' :: 'x' :: cs => do
    bounded (valueIn 16 (← grouped? (fun c => (Text.hexValue? c).isSome) cs))
  | '0' :: 'o' :: cs => do bounded (valueIn 8 (← grouped? (fun c => '0' ≤ c && c ≤ '7') cs))
  | '0' :: 'b' :: cs => do bounded (valueIn 2 (← grouped? (fun c => c == '0' || c == '1') cs))
  | cs => do
    let (negative, ds) := signed cs
    let n : Int := valueIn 10 (← whole? ds)
    bounded (if negative then -n else n)

/-! ## 3. Floats -/

/-- The bound at which a decimal is rounded beyond every binary float of 64 bits. -/
def floatBound : Nat := (1 <<< 1024) - (1 <<< 970)

def isTooLarge (ds : List Char) (power : Int) : Bool :=
  let n := valueIn 10 ds
  if n = 0 then false
  else if (ds.length : Int) + power < 300 then false
  else if 400 < ((ds.dropWhile (· == '0')).length : Int) + power then true
  else if 0 ≤ power then floatBound ≤ n * Nat.pow 10 power.toNat
  else floatBound * Nat.pow 10 (-power).toNat ≤ n

def decimalParts (cs : List Char) : List Char × Option (List Char) × Option (List Char) :=
  let isMark := fun c => c == 'e' || c == 'E'
  let mantissa := cs.takeWhile fun c => !isMark c
  let exponent :=
    match cs.dropWhile fun c => !isMark c with
    | [] => none
    | _ :: power => some power
  match mantissa.dropWhile (· != '.') with
  | [] => (mantissa, none, exponent)
  | _ :: places => (mantissa.takeWhile (· != '.'), some places, exponent)

def partDigits? : Option (List Char) → Option (List Char)
  | none => some []
  | some part => grouped? Char.isDigit part

/-- A decimal with a fraction, an exponent or both. A positive one has to be finite. -/
def isDecimal (cs : List Char) : Bool :=
  let (negative, magnitude) := signed cs
  let (whole, places, exponent) := decimalParts magnitude
  let (negativePower, power) :=
    match exponent with
    | none => (false, none)
    | some power => (signed power).map id some
  match whole? whole, partDigits? places, partDigits? power with
  | some whole, some digits, some power =>
    let shift : Int := valueIn 10 power
    let shift := (if negativePower then -shift else shift) - digits.length
    (places.isSome || exponent.isSome) && (negative || !isTooLarge (whole ++ digits) shift)
  | _, _, _ => false

def isFloat (cs : List Char) : Bool :=
  let special := (signed cs).2
  special = ['i', 'n', 'f'] || special = ['n', 'a', 'n'] || isDecimal cs

/-! ## 4. Dates and times -/

def two? (a b : Char) : Option Nat :=
  if a.isDigit && b.isDigit then some (Text.digitsValue [a, b]) else none

def daysIn (year month : Nat) : Nat :=
  if month = 2 then
    if year % 4 = 0 ∧ (year % 100 ≠ 0 ∨ year % 400 = 0) then 29 else 28
  else if month = 4 ∨ month = 6 ∨ month = 9 ∨ month = 11 then 30
  else 31

def date? : List Char → Option (List Char)
  | y :: y' :: y'' :: y''' :: '-' :: m :: m' :: '-' :: d :: d' :: rest => do
    let year := 100 * (← two? y y') + (← two? y'' y''')
    let month ← two? m m'
    let day ← two? d d'
    if 1 ≤ month ∧ month ≤ 12 ∧ 1 ≤ day ∧ day ≤ daysIn year month then some rest else none
  | _ => none

def subsecond? : List Char → Option (List Char)
  | '.' :: cs =>
    if (cs.head?.map Char.isDigit).getD false then some (cs.dropWhile Char.isDigit) else none
  | cs => some cs

/-- A time of day in front of the text, and the rest. A minute may have a leap second. -/
def time? : List Char → Option (List Char)
  | h :: h' :: ':' :: m :: m' :: ':' :: s :: s' :: rest => do
    let hour ← two? h h'
    let minute ← two? m m'
    let second ← two? s s'
    if hour < 24 ∧ minute < 60 ∧ second ≤ 60 then subsecond? rest else none
  | _ => none

def isOffset : List Char → Bool
  | [] | ['Z'] | ['z'] => true
  | [sign, h, h', ':', m, m'] =>
    (sign == '+' || sign == '-') &&
      (match two? h h', two? m m' with
      | some hour, some minute => hour < 24 && minute < 60
      | _, _ => false)
  | _ => false

def isTimeOfDate (cs : List Char) : Bool := ((time? cs).map isOffset).getD false

def isMoment (cs : List Char) : Bool :=
  time? cs = some [] ||
    match date? cs with
    | some [] => true
    | some (mark :: rest) => (mark == 'T' || mark == 't' || mark == ' ') && isTimeOfDate rest
    | none => false

/-! ## 5. Scalars -/

def isScalarChar (c : Char) : Bool :=
  c.isAlphanum || c == '_' || c == '+' || c == '-' || c == '.' || c == ':'

def bare? (run : List Char) : Option Data :=
  if run = ['t', 'r', 'u', 'e'] then some (.bool true)
  else if run = ['f', 'a', 'l', 's', 'e'] then some (.bool false)
  else
    match integer? run with
    | some i => some (.int i)
    | none =>
      if isFloat run then some (.float (String.ofList run))
      else if isMoment run then some (.moment (String.ofList run))
      else none

/-- The run in front of the text, and the rest. A time may follow its date after a blank. -/
def bareRun (cs : List Char) : List Char × List Char :=
  let run := cs.takeWhile isScalarChar
  match cs.dropWhile isScalarChar with
  | ' ' :: c :: rest =>
    if date? run = some [] ∧ c.isDigit then
      (run ++ ' ' :: (c :: rest).takeWhile isScalarChar, (c :: rest).dropWhile isScalarChar)
    else (run, ' ' :: c :: rest)
  | rest => (run, rest)

def scalar (cs : List Char) : Option (Data × List Char) :=
  match string cs with
  | some (s, rest) => some (.str (String.ofList s), rest)
  | none =>
    let (run, rest) := bareRun cs
    (bare? run).map fun d => (d, rest)

end PackageVerification.Toml
