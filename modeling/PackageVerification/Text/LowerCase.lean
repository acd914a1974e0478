/-!
# Lower case

Names are compared without regard to case. Beyond `A` to `Z`, two characters have a lower case that
holds an ASCII letter: the Kelvin sign and the capital I with a dot above. Every other character
outside ASCII lowers to characters outside ASCII, so it can stand as it is: a text equals an ASCII
word after `lower` exactly when it does after Unicode lower-casing.
-/

namespace PackageVerification.Text

/-- The lower case of a character, as far as it can hold an ASCII letter. -/
def lowerChar (c : Char) : List Char :=
  if c = '\u212a' then ['k']
  else if c = '\u0130' then ['i', '\u0307']
  else [c.toLower]

def lower (cs : List Char) : List Char := cs.flatMap lowerChar

end PackageVerification.Text
