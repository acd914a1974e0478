import PackageVerification.Text.Decimal
import PackageVerification.Unreadable

/-!
# Identities

Verifiers are known by the uid of their package, sessions by a number that the installer gives.
-/

namespace PackageVerification

@[ext]
structure VerifierId where
  uid : UInt32
  deriving DecidableEq, Repr

namespace VerifierId

instance : LT VerifierId := ⟨fun a b => a.uid < b.uid⟩

instance (a b : VerifierId) : Decidable (a < b) := inferInstanceAs (Decidable (a.uid < b.uid))

def text (id : VerifierId) : String := "uid:" ++ Text.ofNat id.uid.toNat

def withoutTag : List Char → List Char
  | 'u' :: 'i' :: 'd' :: ':' :: cs => cs
  | cs => cs

/-- A uid, with or without the tag; no minus sign and no blanks. -/
def ofText? (text : String) : Option VerifierId :=
  ((Text.unsigned? (withoutTag text.toList)).bind fun n => Text.uint32? n).map VerifierId.mk

def read (text : String) : Except Unreadable VerifierId :=
  match ofText? text with
  | some id => .ok id
  | none => .error (.identifier text)

end VerifierId

@[ext]
structure SessionId where
  number : UInt64
  deriving DecidableEq, Repr

namespace SessionId

instance : LT SessionId := ⟨fun a b => a.number < b.number⟩

instance (a b : SessionId) : Decidable (a < b) := inferInstanceAs (Decidable (a.number < b.number))

def text (id : SessionId) : String := "session#" ++ Text.ofNat id.number.toNat

end SessionId

end PackageVerification
