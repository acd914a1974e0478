import PackageVerification.Text.Decimal

/-!
# Time

Instants are milliseconds since the epoch. Adding to an instant stops at the last one, so a deadline
is never before the instant it was computed from.
-/

namespace PackageVerification

structure Timestamp where
  millis : UInt64
  deriving DecidableEq, Repr

namespace Timestamp

def epoch : Timestamp := ⟨0⟩

instance : LT Timestamp := ⟨fun a b => a.millis < b.millis⟩

instance : LE Timestamp := ⟨fun a b => a.millis ≤ b.millis⟩

instance (a b : Timestamp) : Decidable (a < b) := inferInstanceAs (Decidable (a.millis < b.millis))

instance (a b : Timestamp) : Decidable (a ≤ b) := inferInstanceAs (Decidable (a.millis ≤ b.millis))

/-- The instant `ms` later, or the last instant. -/
def later (t : Timestamp) (ms : UInt64) : Timestamp :=
  ⟨UInt64.ofNat (min (t.millis.toNat + ms.toNat) (UInt64.size - 1))⟩

@[simp] theorem toNat_later (t : Timestamp) (ms : UInt64) :
    (t.later ms).millis.toNat = min (t.millis.toNat + ms.toNat) (UInt64.size - 1) := by
  simp only [later]
  rw [UInt64.toNat_ofNat_of_lt' (by simp only [UInt64.size]; omega)]

def elapsed (t now : Timestamp) : UInt64 := if t ≤ now then now.millis - t.millis else 0

def hasExpired (t : Timestamp) (ms : UInt64) (now : Timestamp) : Bool := t.later ms ≤ now

def latest (a b : Timestamp) : Timestamp := if a < b then b else a

def earliest (a b : Timestamp) : Timestamp := if b < a then b else a

/-- The instant of a clock that counts microseconds; before the epoch it reads as the epoch. -/
def ofMicros (us : Int) : Timestamp := ⟨UInt64.ofNat (us.toNat / 1000)⟩

def text (t : Timestamp) : String := Text.ofNat t.millis.toNat ++ "ms"

end Timestamp

/-- A length of time to read: milliseconds below a second, then seconds with three places, then the
two largest units. -/
def durationText (ms : UInt64) : String :=
  let millis := ms.toNat
  let seconds := millis / 1000
  if seconds = 0 then Text.ofNat millis ++ "ms"
  else if seconds < 60 then
    let places := (Nat.toDigits 10 (millis % 1000)).leftpad 3 '0'
    Text.ofNat seconds ++ "." ++ String.ofList places ++ "s"
  else if seconds < 3600 then
    Text.ofNat (seconds / 60) ++ "m " ++ Text.ofNat (seconds % 60) ++ "s"
  else Text.ofNat (seconds / 3600) ++ "h " ++ Text.ofNat (seconds % 3600 / 60) ++ "m"

end PackageVerification
