/-!
# Ascending lists

Items in strictly ascending order of their keys. Main statement: `pairwise_place`, an item that is
put in its place keeps them in order.
-/

namespace PackageVerification.Ascending

section

variable {α κ : Type} [LT κ] [DecidableLT κ] [DecidableEq κ] {key : α → κ} {a b : α} {as : List α}

/-- Puts an item in its place among ascending ones, instead of one with the same key. -/
def place (key : α → κ) (a : α) : List α → List α
  | [] => [a]
  | b :: bs =>
    if key a < key b then a :: b :: bs
    else if key a = key b then a :: bs
    else b :: place key a bs

theorem mem_of_mem_place (h : b ∈ place key a as) : b = a ∨ b ∈ as := by
  induction as with
  | nil => simpa [place] using h
  | cons c cs ih =>
    unfold place at h
    split at h
    · simpa using h
    · split at h <;> grind

/-- Nothing else is lost when no two items have the same key. -/
theorem mem_place_iff (hkey : ∀ c, key a = key c → c = a) :
    b ∈ place key a as ↔ b = a ∨ b ∈ as := by
  refine ⟨mem_of_mem_place, fun h => ?_⟩
  induction as with
  | nil => simpa [place] using h
  | cons c cs ih =>
    unfold place
    split
    · simpa using h
    · split
      · rename_i heq
        obtain rfl := hkey c heq
        simpa using h
      · grind

theorem length_place (h : ∀ b ∈ as, key a ≠ key b) : (place key a as).length = as.length + 1 := by
  induction as with
  | nil => rfl
  | cons b bs ih =>
    obtain ⟨hb, hbs⟩ := List.forall_mem_cons.1 h
    rw [place, if_neg hb]
    split
    · rfl
    · rw [List.length_cons, ih hbs, List.length_cons]

variable [Trans (α := κ) (· < ·) (· < ·) (· < ·)] [Std.Trichotomous (α := κ) (· < ·)]

/-- The order is kept: what stands behind the new item has greater keys. -/
theorem pairwise_place (key : α → κ) (a : α) (h : as.Pairwise fun b c => key b < key c) :
    (place key a as).Pairwise fun b c => key b < key c := by
  induction as with
  | nil => simp [place]
  | cons b bs ih =>
    obtain ⟨hb, hbs⟩ := List.pairwise_cons.1 h
    unfold place
    split
    · rename_i hlt
      refine List.pairwise_cons.2 ⟨fun c hc => ?_, h⟩
      rcases List.mem_cons.1 hc with rfl | hc
      · exact hlt
      · exact Std.lt_trans hlt (hb c hc)
    · split
      · rename_i heq
        exact List.pairwise_cons.2 ⟨fun c hc => heq ▸ hb c hc, hbs⟩
      · rename_i hge hne
        refine List.pairwise_cons.2 ⟨fun c hc => ?_, ih hbs⟩
        rcases mem_of_mem_place hc with rfl | hc
        · exact (Std.lt_trichotomy (key c) (key b)).resolve_left hge |>.resolve_left hne
        · exact hb c hc

end

end PackageVerification.Ascending
