import PackageVerification.Data.Basic
import PackageVerification.Text.Decimal

/-!
# Reading values out of data

Readers take a value of one shape and nothing else; an integer has to fit its word. A record may be
written by name or by position, an enumeration by name or as a record with that one name. Formats
differ in two details of this, which a `Dialect` settles.
-/

namespace PackageVerification

structure Dialect where
  /-- A record by position holds no value beyond its fields. -/
  exactPositions : Bool
  /-- What may stand beside the name of an enumeration value that is written as a record. -/
  isBlankPayload : Data → Bool

namespace Data

/-! ## 1. Single values -/

def bool? : Data → Option Bool
  | .bool b => some b
  | _ => none

def str? : Data → Option String
  | .str s => some s
  | _ => none

def int? : Data → Option Int
  | .int i => some i
  | _ => none

def int32? (d : Data) : Option Int32 := d.int?.bind Text.int32?

def uint32? (d : Data) : Option UInt32 := d.int?.bind Text.uint32?

def uint64? (d : Data) : Option UInt64 := d.int?.bind Text.uint64?

theorem uint32?_int (i : Int) : (Data.int i).uint32? = Text.uint32? i := rfl

theorem uint64?_int (i : Int) : (Data.int i).uint64? = Text.uint64? i := rfl

def list? {α : Type} (read : Data → Option α) : Data → Option (List α)
  | .arr items => items.mapM read
  | _ => none

def nullable? {α : Type} (read : Data → Option α) : Data → Option (Option α)
  | .null => some none
  | d => (read d).map some

/-! ## 2. Enumerations -/

/-- The name that a value of an enumeration is written by. Of a record under a heading the first
name counts; a record between braces has no other. -/
def choice? (dialect : Dialect) : Data → Option String
  | .str name => some name
  | .obj [(name, payload)] => if dialect.isBlankPayload payload then some name else none
  | .headed ((name, payload) :: _) => if dialect.isBlankPayload payload then some name else none
  | _ => none

def enum? {α : Type} (dialect : Dialect) (ofName? : String → Option α) (d : Data) : Option α :=
  (d.choice? dialect).bind ofName?

/-! ## 3. Records -/

structure Fields where
  entries : List (String × Data)
  /-- The record was written by name, not by position. -/
  named : Bool

/-- The fields of a record. Other names are passed over, but a field is not written twice. -/
def fields? (dialect : Dialect) (names : List String) : Data → Option Fields
  | .arr items =>
    if dialect.exactPositions && names.length < items.length then none
    else some ⟨names.zip items, false⟩
  | d =>
    d.entries?.bind fun entries =>
      let known := entries.filter fun e => names.contains e.1
      if (known.map (·.1)).Nodup then some ⟨known, true⟩ else none

namespace Fields

def get? (f : Fields) (name : String) : Option Data := f.entries.lookup name

def need {α : Type} (f : Fields) (name : String) (read : Data → Option α) : Option α :=
  (f.get? name).bind read

/-- A field that may be null, and in a record by name may be left out. -/
def optional {α : Type} (f : Fields) (name : String) (read : Data → Option α) :
    Option (Option α) :=
  match f.get? name with
  | some d => nullable? read d
  | none => if f.named then some none else none

def orDefault {α : Type} (f : Fields) (name : String) (default : α) (read : Data → Option α) :
    Option α :=
  match f.get? name with
  | some d => read d
  | none => some default

end Fields

end Data

end PackageVerification
