/-!
# Characters and code points

What the text formats share: blanks are passed over, and characters are written by the hexadecimal
digits of their code points. Main statement: `char?_toNat`, a character is the one of its code
point.
-/

namespace PackageVerification.Text

def skip (isBlank : Char → Bool) (cs : List Char) : List Char := cs.dropWhile isBlank

theorem skip_cons {isBlank : Char → Bool} {c : Char} (h : isBlank c = false) (cs : List Char) :
    skip isBlank (c :: cs) = c :: cs :=
  List.dropWhile_cons_of_neg (by simp [h])

def hexValue? (c : Char) : Option Nat :=
  if c.isDigit then some (c.toNat - '0'.toNat)
  else if 'a' ≤ c ∧ c ≤ 'f' then some (c.toNat - 'a'.toNat + 10)
  else if 'A' ≤ c ∧ c ≤ 'F' then some (c.toNat - 'A'.toNat + 10)
  else none

/-- The character of a code point; surrogates have none. -/
def char? (n : Nat) : Option Char := if n.isValidChar then some (Char.ofNat n) else none

theorem char?_toNat (c : Char) : char? c.toNat = some c := by
  have hvalid : c.toNat.isValidChar := c.valid
  rw [char?, if_pos hvalid, Char.ofNat_toNat]

end PackageVerification.Text
