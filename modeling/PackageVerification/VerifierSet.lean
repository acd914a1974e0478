import PackageVerification.Ascending
import PackageVerification.Identity

/-!
# Sets of verifiers

A set is the list of its members in strictly ascending order, which is also the order in which it is
written and visited. Main statements: `mem_insert` and `mem_erase`, what is in a set after a change.
-/

namespace PackageVerification

structure VerifierSet where
  toList : List VerifierId
  ascending : toList.Pairwise (· < ·)
  deriving DecidableEq, Repr

namespace VerifierSet

/-! ## 1. Operations -/

def empty : VerifierSet := ⟨[], .nil⟩

def insert (s : VerifierSet) (id : VerifierId) : VerifierSet :=
  ⟨Ascending.place VerifierId.uid id s.toList,
    Ascending.pairwise_place VerifierId.uid id s.ascending⟩

def erase (s : VerifierSet) (id : VerifierId) : VerifierSet :=
  ⟨s.toList.filter (· ≠ id), s.ascending.filter _⟩

def ofList (ids : List VerifierId) : VerifierSet := ids.foldl insert empty

instance : Membership VerifierId VerifierSet := ⟨fun s id => id ∈ s.toList⟩

instance (id : VerifierId) (s : VerifierSet) : Decidable (id ∈ s) :=
  inferInstanceAs (Decidable (id ∈ s.toList))

def isEmpty (s : VerifierSet) : Bool := s.toList.isEmpty

def size (s : VerifierSet) : Nat := s.toList.length

/-! ## 2. Members -/

theorem mem_def {id : VerifierId} {s : VerifierSet} : id ∈ s ↔ id ∈ s.toList := Iff.rfl

@[simp, grind =]
theorem mem_insert {id a : VerifierId} {s : VerifierSet} : id ∈ s.insert a ↔ id = a ∨ id ∈ s :=
  Ascending.mem_place_iff fun _ h => VerifierId.ext h.symm

@[simp, grind =]
theorem mem_erase {id a : VerifierId} {s : VerifierSet} : id ∈ s.erase a ↔ id ∈ s ∧ id ≠ a := by
  simp [mem_def, erase]

@[simp] theorem not_mem_empty (id : VerifierId) : id ∉ empty := by
  simp [mem_def, empty]

end VerifierSet

end PackageVerification
