import Mathlib.Data.List.DropRight
import PackageVerification.Proofs.Snapshot

/-!
# Texts of answers

Answers come in as texts from the command line, the environment and documents. Which texts are
answers is said here by a grammar: a name or a decimal code, in any case and between blanks. Main
statements: `trim_eq_iff`, `integer?_eq_some_iff`, what blanks and numbers are; `read_grammar`, the
reader takes the texts of the grammar and no others.
-/

namespace PackageVerification

namespace Text

/-! ## 1. Blanks -/

/-- The word stands between the blanks at the two ends of the text. -/
structure Trims (cs word : List Char) : Prop where
  between : ∃ before after, cs = before ++ word ++ after ∧ (∀ c ∈ before, isBlank c = true) ∧
    ∀ c ∈ after, isBlank c = true
  first : ∀ c ∈ word.head?, isBlank c = false
  last : ∀ c ∈ word.getLast?, isBlank c = false

theorem trim_eq_rdropWhile (cs : List Char) :
    trim cs = (cs.dropWhile isBlank).rdropWhile isBlank := rfl

/-- What trimming leaves is the word between the blanks. -/
theorem trims_trim (cs : List Char) : Trims cs (trim cs) where
  between := by
    refine ⟨cs.takeWhile isBlank, (cs.dropWhile isBlank).rtakeWhile isBlank, ?_,
      fun _ => List.mem_takeWhile_imp, fun _ => List.mem_rtakeWhile_imp⟩
    rw [trim_eq_rdropWhile, List.append_assoc, List.rdropWhile_append_rtakeWhile,
      List.takeWhile_append_dropWhile]
  first := by
    obtain ⟨after, hafter⟩ := List.rdropWhile_prefix isBlank (l := cs.dropWhile isBlank)
    intro c hc
    have hhead : (cs.dropWhile isBlank).head? = some c := by
      rw [← hafter, List.head?_append, ← trim_eq_rdropWhile, hc]
      rfl
    simpa [hhead] using List.head?_dropWhile_not isBlank cs
  last := by
    intro c hc
    obtain ⟨hne, rfl⟩ := List.mem_getLast?_eq_getLast hc
    exact Bool.not_eq_true _ ▸ List.rdropWhile_last_not isBlank (cs.dropWhile isBlank) hne

theorem Trims.trim_eq {cs word : List Char} (h : Trims cs word) : trim cs = word := by
  obtain ⟨⟨before, after, rfl, hbefore, hafter⟩, hfirst, hlast⟩ := h
  have hfront : (word ++ after).dropWhile isBlank = if word = [] then [] else word ++ after := by
    cases word with
    | nil => simpa using hafter
    | cons c cs => simp [hfirst c rfl]
  have hback : word.rdropWhile isBlank = word :=
    List.rdropWhile_eq_self_iff.2 fun hne => by simp [hlast _ (List.getLast_mem_getLast? hne)]
  rw [trim, List.append_assoc, List.dropWhile_append_of_pos hbefore, hfront]
  split_ifs with hnil
  · exact hnil.symm
  · rw [List.reverse_append, List.dropWhile_append_of_pos (by simpa using hafter)]
    exact hback

/-- What is left of a text is the one word between its blanks. -/
theorem trim_eq_iff {cs word : List Char} : trim cs = word ↔ Trims cs word :=
  ⟨fun h => h ▸ trims_trim cs, Trims.trim_eq⟩

/-! ## 2. Numbers -/

inductive Numeral : List Char → Nat → Prop
  | digit {d : Nat} (hd : d < 10) : Numeral [Nat.digitChar d] d
  | more {ds : List Char} {n d : Nat} (h : Numeral ds n) (hd : d < 10) :
    Numeral (ds ++ [Nat.digitChar d]) (10 * n + d)

inductive SignedNumeral : List Char → Int → Prop
  | plain {ds : List Char} {n : Nat} (h : Numeral ds n) : SignedNumeral ds n
  | plus {ds : List Char} {n : Nat} (h : Numeral ds n) : SignedNumeral ('+' :: ds) n
  | minus {ds : List Char} {n : Nat} (h : Numeral ds n) : SignedNumeral ('-' :: ds) (-n)

theorem isDigit_digitChar : ∀ d < 10, (Nat.digitChar d).isDigit = true := by decide

theorem toNat_digitChar : ∀ d < 10, (Nat.digitChar d).toNat - '0'.toNat = d := by decide

theorem exists_digitChar_of_isDigit {c : Char} (h : c.isDigit = true) :
    ∃ d < 10, Nat.digitChar d = c := by
  have hall : ∀ n < 58, 48 ≤ n → Nat.digitChar (n - 48) = Char.ofNat n := by decide
  simp only [Char.isDigit, Bool.and_eq_true, decide_eq_true_eq, ge_iff_le, UInt32.le_iff_toNat_le]
    at h
  have hlow : 48 ≤ c.toNat := h.1
  have hhigh : c.toNat ≤ 57 := h.2
  exact ⟨c.toNat - 48, by omega, by rw [hall c.toNat (by omega) hlow, Char.ofNat_toNat]⟩

theorem digitsValue_concat (ds : List Char) (c : Char) :
    digitsValue (ds ++ [c]) = 10 * digitsValue ds + (c.toNat - '0'.toNat) := by
  rw [digitsValue, List.foldl_append]
  rfl

namespace Numeral

theorem digitsValue_eq {ds : List Char} {n : Nat} (h : Numeral ds n) : digitsValue ds = n := by
  induction h with
  | digit hd =>
    refine (digitsValue_concat [] _).trans ?_
    rw [toNat_digitChar _ hd]
    exact Nat.zero_add _
  | more _ hd ih => rw [digitsValue_concat, ih, toNat_digitChar _ hd]

theorem isDigit_of_mem {ds : List Char} {n : Nat} (h : Numeral ds n) :
    ∀ c ∈ ds, c.isDigit = true := by
  induction h with
  | digit hd => exact List.forall_mem_singleton.2 (isDigit_digitChar _ hd)
  | more _ hd ih =>
    exact List.forall_mem_append.2 ⟨ih, List.forall_mem_singleton.2 (isDigit_digitChar _ hd)⟩

theorem ne_nil {ds : List Char} {n : Nat} (h : Numeral ds n) : ds ≠ [] := by
  cases h <;> simp

/-- The value is built from the left, so the last digit is taken off. -/
theorem of_isDigit {ds : List Char} (hne : ds ≠ []) (h : ∀ c ∈ ds, c.isDigit = true) :
    Numeral ds (digitsValue ds) := by
  induction ds using List.reverseRecOn with
  | nil => exact absurd rfl hne
  | append_singleton ds c ih =>
    obtain ⟨hds, hc⟩ := List.forall_mem_append.1 h
    obtain ⟨d, hd, rfl⟩ := exists_digitChar_of_isDigit (hc c List.mem_cons_self)
    rw [digitsValue_concat, toNat_digitChar d hd]
    by_cases hnil : ds = []
    · subst hnil
      simpa [digitsValue] using digit hd
    · exact more (ih hnil hds) hd

end Numeral

/-- A run is read as a natural number when it is a numeral. -/
theorem natural?_eq_some_iff {ds : List Char} {n : Nat} : natural? ds = some n ↔ Numeral ds n := by
  constructor
  · intro h
    rw [natural?] at h
    split_ifs at h with hdigits
    simp only [Bool.and_eq_true, Bool.not_eq_true', List.isEmpty_eq_false_iff, List.all_eq_true]
      at hdigits
    exact Option.some.inj h ▸ .of_isDigit hdigits.1 hdigits.2
  · intro h
    rw [natural?, if_pos (by simpa [h.ne_nil] using h.isDigit_of_mem), h.digitsValue_eq]

theorem integer?_minus (ds : List Char) :
    integer? ('-' :: ds) = (natural? ds).map fun n : Nat => -(n : Int) := by
  rw [integer?]
  cases natural? ds <;> rfl

theorem integer?_plus (ds : List Char) : integer? ('+' :: ds) = (natural? ds).map Int.ofNat := by
  rw [integer?, unsigned?]
  · cases natural? ds <;> rfl
  · simp

/-- Without a sign in front an integer is a natural number. -/
theorem integer?_unsigned {cs : List Char} (hminus : cs.head? ≠ some '-')
    (hplus : cs.head? ≠ some '+') : integer? cs = (natural? cs).map Int.ofNat := by
  rw [integer?, unsigned?]
  · cases natural? cs <;> rfl
  · rintro ds rfl
    exact hplus rfl
  · rintro ds rfl
    exact hminus rfl

/-- A numeral has no sign. -/
theorem Numeral.head?_ne {ds : List Char} {n : Nat} (h : Numeral ds n) {c : Char}
    (hc : c.isDigit = false) : ds.head? ≠ some c := fun hhead =>
  absurd (h.isDigit_of_mem c (List.mem_of_head? hhead)) (by simp [hc])

/-- What is read as an integer is a numeral behind at most one sign. -/
theorem integer?_eq_some_iff {cs : List Char} {i : Int} :
    integer? cs = some i ↔ SignedNumeral cs i := by
  constructor
  · intro h
    by_cases hminus : cs.head? = some '-'
    · obtain ⟨ds, rfl⟩ := List.head?_eq_some_iff.1 hminus
      obtain ⟨n, hn, rfl⟩ := Option.map_eq_some_iff.1 (integer?_minus ds ▸ h)
      exact .minus (natural?_eq_some_iff.1 hn)
    · by_cases hplus : cs.head? = some '+'
      · obtain ⟨ds, rfl⟩ := List.head?_eq_some_iff.1 hplus
        obtain ⟨n, hn, rfl⟩ := Option.map_eq_some_iff.1 (integer?_plus ds ▸ h)
        exact .plus (natural?_eq_some_iff.1 hn)
      · obtain ⟨n, hn, rfl⟩ := Option.map_eq_some_iff.1 (integer?_unsigned hminus hplus ▸ h)
        exact .plain (natural?_eq_some_iff.1 hn)
  · rintro (h | h | h)
    · rw [integer?_unsigned (h.head?_ne rfl) (h.head?_ne rfl), natural?_eq_some_iff.2 h]
      rfl
    · rw [integer?_plus, natural?_eq_some_iff.2 h]
      rfl
    · rw [integer?_minus, natural?_eq_some_iff.2 h]
      rfl

theorem int32?_eq_some_iff {i : Int} {w : Int32} :
    int32? i = some w ↔ (-2147483648 ≤ i ∧ i ≤ 2147483647) ∧ Int32.ofInt i = w := by
  have hleast : Int32.minValue.toInt = -2147483648 := by decide
  have hgreatest : Int32.maxValue.toInt = 2147483647 := by decide
  rw [int32?, hleast, hgreatest]
  split_ifs with h
  · simp only [h, true_and, and_self, Option.some.injEq]
  · simp only [h, false_and]

/-! ## 3. Words that stay as they are -/

def IsPlain (word : List Char) : Prop := ∀ c ∈ word, isBlank c = false ∧ lowerChar c = [c]

theorem Numeral.isPlain {ds : List Char} {n : Nat} (h : Numeral ds n) : IsPlain ds := by
  have hall : ∀ d < 10, isBlank (Nat.digitChar d) = false ∧
      lowerChar (Nat.digitChar d) = [Nat.digitChar d] := by decide
  intro c hc
  obtain ⟨d, hd, rfl⟩ := exists_digitChar_of_isDigit (h.isDigit_of_mem c hc)
  exact hall d hd

/-- A numeral has neither blanks nor letters. -/
theorem SignedNumeral.isPlain {cs : List Char} {i : Int} (h : SignedNumeral cs i) :
    IsPlain cs := by
  cases h with
  | plain h => exact h.isPlain
  | plus h | minus h => exact List.forall_mem_cons.2 ⟨by decide, h.isPlain⟩

end Text

namespace Data

end Data

namespace Answer

/-! ## 4. Answers -/

/-- The words that are answers: three names, and the codes of 32 bits. -/
inductive Spells : List Char → Answer → Prop
  | allow : Spells "allow".toList .allow
  | waiver : Spells "allow_without_sufficient".toList .allowWithoutSufficient
  | reject : Spells "reject".toList .reject
  | code {word : List Char} {v : Int} (h : Text.SignedNumeral word v) (hleast : -2147483648 ≤ v)
    (hgreatest : v ≤ 2147483647) : Spells word (ofCode (Int32.ofInt v))

/-- The text is a word that is an answer, in any case and between blanks. -/
def Denotes (text : String) (a : Answer) : Prop :=
  ∃ word, Text.Trims text.toList word ∧ Spells (Text.lower word) a

theorem spells_of_ofName? {word : List Char} {a : Answer} (h : ofName? word = some a) :
    Spells word a := by
  unfold ofName? at h
  split_ifs at h with hallow hwaiver hreject <;> obtain rfl := Option.some.inj h
  · exact hallow ▸ .allow
  · exact hwaiver ▸ .waiver
  · exact hreject ▸ .reject

/-- A name begins with a letter. -/
theorem ofName?_of_signedNumeral {word : List Char} {v : Int} (h : Text.SignedNumeral word v) :
    ofName? word = none := by
  have hnone : ∀ name ∈ ["allow", "allow_without_sufficient", "reject"],
      Text.integer? name.toList = none := by decide
  have hne : ∀ name ∈ ["allow", "allow_without_sufficient", "reject"], word ≠ name.toList := by
    rintro name hname rfl
    rw [← Text.integer?_eq_some_iff, hnone name hname] at h
    cases h
  simp only [List.forall_mem_cons] at hne
  rw [ofName?, if_neg hne.1, if_neg hne.2.1, if_neg hne.2.2.1]

/-- A text is an answer when the word between its blanks spells one in lower case. -/
theorem ofText?_eq_some_iff {text : String} {a : Answer} :
    ofText? text = some a ↔ Denotes text a := by
  have hword : Denotes text a ↔ Spells (Text.lower (Text.trim text.toList)) a := by
    simp only [Denotes, ← Text.trim_eq_iff, exists_eq_left']
  rw [hword, ofText?]
  constructor
  · intro h
    split at h
    · rename_i b hb
      exact Option.some.inj h ▸ spells_of_ofName? hb
    · simp only [Option.map_eq_some_iff, Option.bind_eq_some_iff, Text.integer?_eq_some_iff,
        Text.int32?_eq_some_iff] at h
      obtain ⟨-, ⟨v, hv, ⟨hleast, hgreatest⟩, rfl⟩, rfl⟩ := h
      exact .code hv hleast hgreatest
  · intro h
    generalize Text.lower (Text.trim text.toList) = word at h
    cases h with
    | allow | waiver | reject => rfl
    | code h hleast hgreatest =>
      have hcode := Text.int32?_eq_some_iff.2 ⟨⟨hleast, hgreatest⟩, rfl⟩
      simp only [ofName?_of_signedNumeral h, Text.integer?_eq_some_iff.2 h, Option.bind_some, hcode,
        Option.map_some]

theorem read_eq_ok_iff {text : String} {a : Answer} : read text = .ok a ↔ Denotes text a := by
  rw [← ofText?_eq_some_iff, read]
  cases ofText? text <;> simp

example : read "\u3000+0002\n" = .ok .allowWithoutSufficient := by decide
example : read "- 7" = .error (.answer "- 7") := by decide
example : read "-2147483649" = .error (.answer "-2147483649") := by decide

end Answer

end PackageVerification
