import PackageVerification.Ascending
import PackageVerification.Service.Session

/-!
# The sessions of a service

Sessions in strictly ascending order of their ids, which is the order in which they are visited.
-/

namespace PackageVerification

structure SessionTable where
  toList : List Session
  ascending : toList.Pairwise fun a b => a.id < b.id
  deriving DecidableEq, Repr

namespace SessionTable

def empty : SessionTable := ⟨[], .nil⟩

def get? (t : SessionTable) (id : SessionId) : Option Session := t.toList.find? (·.id = id)

def contains (t : SessionTable) (id : SessionId) : Bool := t.toList.any (·.id = id)

def insert (t : SessionTable) (s : Session) : SessionTable :=
  ⟨Ascending.place (·.id.number) s t.toList,
    Ascending.pairwise_place (·.id.number) s t.ascending⟩

def map (t : SessionTable) (f : Session → Session) (id_eq : ∀ s, (f s).id = s.id) :
    SessionTable :=
  ⟨t.toList.map f, List.pairwise_map.2 (t.ascending.imp fun h => by rwa [id_eq, id_eq])⟩

def update (t : SessionTable) (s : Session) : SessionTable :=
  t.map (fun a => if a.id = s.id then s else a) fun a => by
    split <;> simp_all

def erase (t : SessionTable) (id : SessionId) : SessionTable :=
  ⟨t.toList.filter (·.id ≠ id), t.ascending.filter _⟩

def size (t : SessionTable) : Nat := t.toList.length

def nextDeadline (t : SessionTable) : Option Timestamp :=
  t.toList.foldl
    (fun earliest s =>
      if s.isOpen then some ((earliest.map (·.earliest s.deadline)).getD s.deadline) else earliest)
    none

end SessionTable

end PackageVerification
