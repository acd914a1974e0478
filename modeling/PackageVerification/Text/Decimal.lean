/-!
# Decimal integers

Reading integers: ASCII digits with at most one sign in front, leading zeros allowed. The words of
32 and 64 bits take exactly the integers of their range; nothing wraps.
-/

namespace PackageVerification.Text

def digitsValue (cs : List Char) : Nat := cs.foldl (fun n c => 10 * n + (c.toNat - '0'.toNat)) 0

def natural? (cs : List Char) : Option Nat :=
  if !cs.isEmpty && cs.all Char.isDigit then some (digitsValue cs) else none

def unsigned? : List Char → Option Nat
  | '+' :: cs => natural? cs
  | cs => natural? cs

/-- An integer: at most one sign, then digits. -/
def integer? : List Char → Option Int
  | '-' :: cs => (natural? cs).map fun n => -(n : Int)
  | cs => (unsigned? cs).map fun n => (n : Int)

def ofNat (n : Nat) : String := String.ofList (Nat.toDigits 10 n)

def ofInt (i : Int) : String := if i < 0 then "-" ++ ofNat i.natAbs else ofNat i.natAbs

/-! ## Words -/

def int32? (i : Int) : Option Int32 :=
  if Int32.minValue.toInt ≤ i ∧ i ≤ Int32.maxValue.toInt then some (Int32.ofInt i) else none

def uint32? (i : Int) : Option UInt32 :=
  if 0 ≤ i ∧ i < UInt32.size then some (UInt32.ofNat i.toNat) else none

def uint64? (i : Int) : Option UInt64 :=
  if 0 ≤ i ∧ i < UInt64.size then some (UInt64.ofNat i.toNat) else none

@[simp] theorem int32?_toInt (w : Int32) : int32? w.toInt = some w := by
  simp only [int32?]
  rw [if_pos ⟨w.minValue_le_toInt, w.toInt_le⟩, Int32.ofInt_toInt]

@[simp] theorem uint32?_toNat (w : UInt32) : uint32? w.toNat = some w := by
  have h := w.toNat_lt
  simp only [uint32?, UInt32.size]
  rw [if_pos (by omega)]
  simp

@[simp] theorem uint64?_toNat (w : UInt64) : uint64? w.toNat = some w := by
  have h := w.toNat_lt
  simp only [uint64?, UInt64.size]
  rw [if_pos (by omega)]
  simp

end PackageVerification.Text
