import PackageVerification.Text.Blank
import PackageVerification.Text.LowerCase
import PackageVerification.Text.Decimal
import PackageVerification.Unreadable

/-!
# Answers

A verifier answers with a 32-bit code. Two codes carry meaning; every other code is a rejection and
is kept for the record. Main statement: `code_ofCode`, classifying a code
loses nothing of it.
-/

namespace PackageVerification

inductive Answer
  /-- The package may be installed. -/
  | allow
  /-- The package may be installed, and the sufficient verifiers are waived. -/
  | allowWithoutSufficient
  /-- A rejection, under any other code. -/
  | other (code : Int32)
  deriving DecidableEq, Repr

namespace Answer

/-! ## 1. Codes -/

def reject : Answer := .other (-1)

def ofCode (code : Int32) : Answer :=
  if code = 1 then .allow
  else if code = 2 then .allowWithoutSufficient
  else .other code

def code : Answer → Int32
  | .allow => 1
  | .allowWithoutSufficient => 2
  | .other code => code

/-- An answer that code classification can give: the two meaningful codes have answers of their own.
-/
def Canonical (a : Answer) : Prop := ofCode a.code = a

instance (a : Answer) : Decidable a.Canonical := inferInstanceAs (Decidable (ofCode a.code = a))

@[simp] theorem code_ofCode (code : Int32) : (ofCode code).code = code := by
  unfold ofCode
  split
  · simp_all [Answer.code]
  · split <;> simp_all [Answer.code]

theorem canonical_ofCode (code : Int32) : (ofCode code).Canonical := by
  rw [Canonical, code_ofCode]

def isAffirmative : Answer → Bool
  | .allow | .allowWithoutSufficient => true
  | .other _ => false

/-! ## 2. Texts -/

def name : Answer → String
  | .allow => "allow"
  | .allowWithoutSufficient => "allow_without_sufficient"
  | .other code => if code = -1 then "reject" else "other"

/-- The answer as it is shown: a rejection without a name of its own shows its code. -/
def text : Answer → String
  | .other code =>
    if code = -1 then name (.other code) else "other(" ++ Text.ofInt code.toInt ++ ")"
  | a => a.name

def ofName? (word : List Char) : Option Answer :=
  if word = "allow".toList then some .allow
  else if word = "allow_without_sufficient".toList then some .allowWithoutSufficient
  else if word = "reject".toList then some reject
  else none

/-- A name or a code, in any case and between blanks. -/
def ofText? (text : String) : Option Answer :=
  let word := Text.lower (Text.trim text.toList)
  match ofName? word with
  | some a => some a
  | none => ((Text.integer? word).bind Text.int32?).map ofCode

def read (text : String) : Except Unreadable Answer :=
  match ofText? text with
  | some a => .ok a
  | none => .error (.answer text)

end Answer

end PackageVerification
