import PackageVerification.Ascending

/-!
# Totals

Named counters, fixed when they are made. They count modulo 2^64, and a name that is not among them
is neither counted nor an error. Main statement: `get_add`.
-/

namespace PackageVerification

/-- The counters by name; `ofNames` puts the names in ascending order, each once. -/
structure Totals where
  entries : List (String × UInt64)
  deriving DecidableEq, Repr

namespace Totals

def ofNames (names : List String) : Totals :=
  ⟨(names.foldr (Ascending.place id) []).map fun n => (n, 0)⟩

def add (t : Totals) (name : String) (amount : UInt64) : Totals :=
  ⟨t.entries.map fun e => if e.1 = name then (e.1, e.2 + amount) else e⟩

def increment (t : Totals) (name : String) : Totals := t.add name 1

/-- The count under a name; zero for a name that is not counted. -/
def get (t : Totals) (name : String) : UInt64 := (t.entries.lookup name).getD 0

def counts (t : Totals) (name : String) : Bool := t.entries.any fun e => e.1 = name

theorem counts_ofNames {names : List String} {name : String} (h : name ∈ names) :
    (ofNames names).counts name = true := by
  have hmem : name ∈ names.foldr (Ascending.place id) [] := by
    induction names with
    | nil => cases h
    | cons n ns ih =>
      exact (Ascending.mem_place_iff fun _ => Eq.symm).2 ((List.mem_cons.1 h).imp_right ih)
  simpa [counts, ofNames] using hmem

@[simp] theorem counts_add (t : Totals) (name : String) (amount : UInt64) (m : String) :
    (t.add name amount).counts m = t.counts m := by
  simp only [counts, add, List.any_map]
  congr 1
  funext e
  simp only [Function.comp]
  split <;> rfl

theorem get_add (t : Totals) (name : String) (amount : UInt64) (m : String) :
    (t.add name amount).get m =
      if m = name ∧ t.counts m then t.get m + amount else t.get m := by
  obtain ⟨es⟩ := t
  simp only [get, add, counts]
  induction es with
  | nil => simp
  | cons e es ih =>
    obtain ⟨n, v⟩ := e
    by_cases hm : m = n <;> by_cases hn : n = name <;> grind

end Totals

end PackageVerification
