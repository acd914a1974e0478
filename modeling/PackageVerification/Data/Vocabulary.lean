import PackageVerification.Answer
import PackageVerification.Data.Decode
import PackageVerification.Timestamp
import PackageVerification.VerifierSet
import PackageVerification.Verdict

/-!
# The vocabulary as data

How answers, identities and reports are written as data and read back. What was written reads back;
what is read may be written in more than one way.
-/

namespace PackageVerification

/-! ## 1. Answers -/

namespace Answer

/-- An answer with a name of its own is written by name, any other by code. -/
def toScalar : Answer → Scalar
  | .other code => if code = -1 then .str (name (.other code)) else .int code.toInt
  | a => .str a.name

def toData (a : Answer) : Data := a.toScalar.toData

def ofData? : Data → Option Answer
  | .int i => (Text.int32? i).map ofCode
  | .str text => ofText? text
  | _ => none

end Answer

/-! ## 2. Identities and instants -/

namespace VerifierId

def toData (id : VerifierId) : Data := .ofNat id.uid.toNat

def ofData? (d : Data) : Option VerifierId := d.uint32?.map VerifierId.mk

@[simp] theorem ofData?_toData (id : VerifierId) : ofData? id.toData = some id := by
  rw [ofData?, toData, Data.ofNat, Data.uint32?_int, Text.uint32?_toNat, Option.map_some]

end VerifierId

namespace SessionId

def toData (id : SessionId) : Data := .ofNat id.number.toNat

def ofData? (d : Data) : Option SessionId := d.uint64?.map SessionId.mk

@[simp] theorem ofData?_toData (id : SessionId) : ofData? id.toData = some id := by
  rw [ofData?, toData, Data.ofNat, Data.uint64?_int, Text.uint64?_toNat, Option.map_some]

end SessionId

namespace Timestamp

def toData (t : Timestamp) : Data := .ofNat t.millis.toNat

def ofData? (d : Data) : Option Timestamp := d.uint64?.map Timestamp.mk

@[simp] theorem ofData?_toData (t : Timestamp) : ofData? t.toData = some t := by
  rw [ofData?, toData, Data.ofNat, Data.uint64?_int, Text.uint64?_toNat, Option.map_some]

end Timestamp

namespace VerifierSet

def toData (s : VerifierSet) : Data := .arr (s.toList.map VerifierId.toData)

/-- The members may be written in any order and more than once. -/
def ofData? (d : Data) : Option VerifierSet := (d.list? VerifierId.ofData?).map ofList

end VerifierSet

/-! ## 3. Reports -/

namespace AxisReport

def toData (r : AxisReport) : Data :=
  .obj
    [("required", .str r.required.name), ("sufficient", .str r.sufficient.name),
     ("optional", .str r.optional.name), ("integrity", .str r.integrity.name)]

def ofData? (dialect : Dialect) (d : Data) : Option AxisReport := do
  let f ← d.fields? dialect ["required", "sufficient", "optional", "integrity"]
  let status := Data.enum? dialect AxisStatus.ofName?
  let required ← f.need "required" status
  let sufficient ← f.need "sufficient" status
  let optional ← f.need "optional" status
  let integrity ← f.need "integrity" status
  some { required, sufficient, optional, integrity }

end AxisReport

end PackageVerification
