import Mathlib.Tactic.SplitIfs
import PackageVerification.Json.Parser
import PackageVerification.Json.Printer

/-!
# JSON text reads back

Data that is printed as JSON text and read again is the same data, whatever texts stand in it, as
long as it holds only what JSON has a value for and does not nest too deep. Main statement:
`parse_print`.
-/

namespace PackageVerification

/-! ## 1. Decimal digits -/

namespace Text

theorem toList_ofNat (n : Nat) : (ofNat n).toList = Nat.toDigits 10 n := String.toList_ofList

theorem toList_ofInt (i : Int) :
    (ofInt i).toList =
      if i < 0 then '-' :: Nat.toDigits 10 i.natAbs else Nat.toDigits 10 i.natAbs := by
  rw [ofInt]
  split_ifs
  · rw [String.toList_append, toList_ofNat]
    rfl
  · exact toList_ofNat _

@[simp] theorem digitsValue_toDigits (n : Nat) : digitsValue (Nat.toDigits 10 n) = n := by
  have h : Nat.ofDigitChars 10 (Nat.toDigits 10 n) 0 = n := Nat.ofDigitChars_ten_toDigits
  rw [Nat.ofDigitChars_eq_foldl] at h
  exact h

theorem isDigit_of_mem_toDigits {n : Nat} {c : Char} (hc : c ∈ Nat.toDigits 10 n) :
    c.isDigit = true :=
  Nat.isDigit_of_mem_toDigits (by decide) (by decide) hc

theorem exists_toDigits_eq_cons (n : Nat) :
    ∃ d ds, Nat.toDigits 10 n = d :: ds ∧ d.isDigit = true := by
  obtain ⟨d, ds, hds⟩ := List.exists_cons_of_ne_nil (Nat.toDigits_ne_nil (b := 10) (n := n))
  exact ⟨d, ds, hds, isDigit_of_mem_toDigits (hds ▸ List.mem_cons_self)⟩

/-- Only zero is written with a zero in front. -/
theorem head?_toDigits_ne {n : Nat} (hn : n ≠ 0) : (Nat.toDigits 10 n).head? ≠ some '0' := by
  induction n using Nat.strongRecOn with
  | ind n ih =>
    rw [Nat.toDigits_eq_if (by decide)]
    split_ifs with hlt
    · have hdigit : ∀ m < 10, m ≠ 0 → [Nat.digitChar m].head? ≠ some '0' := by decide
      exact hdigit n hlt hn
    · rw [List.head?_append, Option.or_of_isSome (by simp [Nat.toDigits_ne_nil])]
      exact ih (n / 10) (by omega) (by omega)

end Text

namespace Json

/-! ## 2. Numbers -/

/-- What may follow a value: nothing, or the character after a value in an array or object. -/
def Ends (rest : List Char) : Prop := ∀ c ∈ rest.head?, c = ',' ∨ c = ']' ∨ c = '}'

theorem ends_nil : Ends [] := by simp [Ends]

theorem ends_printedItems (ds : List Data) (rest : List Char) : Ends (printedItems ds ++ rest) := by
  cases ds <;> simp [Ends, printedItems]

theorem ends_printedEntries (es : List (String × Data)) (rest : List Char) :
    Ends (printedEntries es ++ rest) := by
  cases es <;> simp [Ends, printedEntries]

/-- What follows a value is no part of a number. -/
theorem Ends.no_number {rest : List Char} (h : Ends rest) :
    digits rest = ([], rest) ∧ fraction rest = some ([], rest) ∧
      exponent rest = some ([], rest) := by
  cases rest with
  | nil => exact ⟨rfl, rfl, rfl⟩
  | cons c cs =>
    rcases h c rfl with rfl | rfl | rfl
    all_goals exact ⟨rfl, rfl, rfl⟩

/-- The digits of a number are read up to what may follow a value. -/
theorem digits_toDigits_append (n : Nat) {rest : List Char} (hrest : Ends rest) :
    digits (Nat.toDigits 10 n ++ rest) = (Nat.toDigits 10 n, rest) := by
  obtain ⟨htake, hdrop⟩ := Prod.mk.inj hrest.no_number.1
  have hall : ∀ c ∈ Nat.toDigits 10 n, c.isDigit = true := fun c => Text.isDigit_of_mem_toDigits
  rw [digits, List.takeWhile_append_of_pos hall, List.dropWhile_append_of_pos hall, htake, hdrop,
    List.append_nil]

theorem magnitude_toDigits_append {negative : Bool} {n : Nat} (hzero : negative = true → n ≠ 0)
    {rest : List Char} (hrest : Ends rest) :
    magnitude negative (Nat.toDigits 10 n ++ rest) =
      some (.int (if negative then -(n : Int) else n), rest) := by
  obtain ⟨-, hfraction, hexponent⟩ := hrest.no_number
  have hwhole : (Nat.toDigits 10 n).isEmpty = false :=
    List.isEmpty_eq_false_iff.2 Nat.toDigits_ne_nil
  have hhead : ¬((Nat.toDigits 10 n).head? = some '0' ∧ Nat.toDigits 10 n ≠ ['0']) := by
    rintro ⟨hhead, hne⟩
    by_cases hn : n = 0
    · exact hne (hn ▸ Nat.toDigits_zero 10)
    · exact Text.head?_toDigits_ne hn hhead
  have hsign : (negative && decide (n = 0)) = false := by
    cases negative with
    | false => rfl
    | true => simp [hzero rfl]
  rw [magnitude, digits_toDigits_append n hrest]
  simp only [hwhole, Bool.false_or, Bool.and_eq_true, decide_eq_true_eq, if_neg hhead, hfraction,
    Text.digitsValue_toDigits, Option.bind_eq_bind, Option.bind_some, hexponent]
  rw [hsign]
  rfl

/-- An integer reads back whatever its size. -/
theorem number_ofInt_append (i : Int) {rest : List Char} (hrest : Ends rest) :
    number ((Text.ofInt i).toList ++ rest) = some (.int i, rest) := by
  rw [Text.toList_ofInt]
  split_ifs with hneg
  · rw [List.cons_append, number, magnitude_toDigits_append (fun _ => by omega) hrest]
    simp only [if_true]
    congr
    omega
  · have hplain : number (Nat.toDigits 10 i.natAbs ++ rest) =
        magnitude false (Nat.toDigits 10 i.natAbs ++ rest) := by
      unfold number
      split
      · rename_i cs heq
        -- No digit is a minus sign.
        obtain ⟨d, ds, hds, hdigit⟩ := Text.exists_toDigits_eq_cons i.natAbs
        rw [hds, List.cons_append] at heq
        obtain ⟨rfl, -⟩ := List.cons.inj heq
        exact absurd hdigit (by decide)
      · rfl
    rw [hplain, magnitude_toDigits_append (by simp) hrest]
    simp only [Bool.false_eq_true, if_false]
    congr
    omega

/-! ## 3. Strings -/

/-- The code of a control character has two zeros and two digits. -/
theorem unit?_hexDigit {n : Nat} (hn : n < 32) :
    unit? '0' '0' (hexDigit (n / 16)) (hexDigit n) = some n := by
  have hall : ∀ m < 32, unit? '0' '0' (hexDigit (m / 16)) (hexDigit m) = some m := by decide
  exact hall n hn

theorem stringBody_backslash {c x : Char} (hu : c ≠ 'u') (hx : escape? c = some x)
    (cs : List Char) :
    stringBody .nothing ('\\' :: c :: cs) =
      (stringBody .nothing cs).map fun (s, rest) => (x :: s, rest) := by
  rw [stringBody, stringBody, hx]
  · cases stringBody .nothing cs <;> rfl
  · exact hu

theorem stringBody_unit {n : Nat} {c : Char} (hn : n < 32) (hc : Text.char? n = some c)
    (cs : List Char) :
    stringBody .nothing ('\\' :: 'u' :: '0' :: '0' :: hexDigit (n / 16) :: hexDigit n :: cs) =
      (stringBody .nothing cs).map fun (s, rest) => (c :: s, rest) := by
  have hlow : ¬(0xd800 ≤ n ∧ n < 0xdc00) := by omega
  simp only [stringBody, unit?_hexDigit hn, Option.bind_eq_bind, Option.bind_some, if_neg hlow, hc]
  cases stringBody .nothing cs <;> rfl

/-- A character of a string reads back as itself, however it was escaped. -/
theorem stringBody_escaped (c : Char) (cs : List Char) :
    stringBody .nothing (escaped c ++ cs) =
      (stringBody .nothing cs).map fun (s, rest) => (c :: s, rest) := by
  unfold escaped
  -- Seven characters have a mark of their own, control characters a code, and the rest stand as
  -- they are.
  split_ifs with hquote hbackslash hb hf hn hr ht hcontrol
  · subst hquote
    exact stringBody_backslash (by decide) rfl cs
  · subst hbackslash
    exact stringBody_backslash (by decide) rfl cs
  · subst hb
    exact stringBody_backslash (by decide) rfl cs
  · subst hf
    exact stringBody_backslash (by decide) rfl cs
  · subst hn
    exact stringBody_backslash (by decide) rfl cs
  · subst hr
    exact stringBody_backslash (by decide) rfl cs
  · subst ht
    exact stringBody_backslash (by decide) rfl cs
  · exact stringBody_unit hcontrol (Text.char?_toNat c) cs
  · rw [List.cons_append, List.nil_append, stringBody, if_neg hcontrol]
    · exact hquote
    · exact hbackslash

/-- An escaped text reads back up to the closing quote. -/
theorem stringBody_flatMap_escaped (cs rest : List Char) :
    stringBody .nothing (cs.flatMap escaped ++ '"' :: rest) = some (cs, rest) := by
  induction cs with
  | nil => rw [List.flatMap_nil, List.nil_append, stringBody]
  | cons c cs ih => rw [List.flatMap_cons, List.append_assoc, stringBody_escaped, ih]; rfl

theorem stringRest_escaped (s : String) (rest : List Char) :
    stringRest (s.toList.flatMap escaped ++ '"' :: rest) = some (s, rest) := by
  rw [stringRest, stringBody_flatMap_escaped, Option.map_some]
  exact congrArg (fun t => some (t, rest)) String.ofList_toList

theorem quoted_append (s : String) (rest : List Char) :
    quoted s ++ rest = '"' :: (s.toList.flatMap escaped ++ '"' :: rest) := by
  simp [quoted]

/-! ## 4. Values -/

/-- The data that JSON has a value for and in which arrays and objects nest at most so deep. -/
inductive Printable : Nat → Data → Prop
  | null {n : Nat} : Printable n .null
  | bool {n : Nat} (b : Bool) : Printable n (.bool b)
  | int {n : Nat} (i : Int) : Printable n (.int i)
  | str {n : Nat} (s : String) : Printable n (.str s)
  | arr {n : Nat} {ds : List Data} (h : ∀ d ∈ ds, Printable n d) : Printable (n + 1) (.arr ds)
  | obj {n : Nat} {es : List (String × Data)} (h : ∀ e ∈ es, Printable n e.2) :
    Printable (n + 1) (.obj es)

theorem printable_ofOption {α : Type} {write : α → Data} {n : Nat}
    (h : ∀ a, Printable n (write a)) (o : Option α) :
    Printable n (.ofOption write o) := by
  cases o with
  | none => exact .null
  | some a => exact h a

def StartsValue (cs : List Char) : Prop :=
  ∃ c ds, cs = c :: ds ∧ isBlank c = false ∧ c ≠ ']'

theorem StartsValue.skip {cs : List Char} (h : StartsValue cs) : Text.skip isBlank cs = cs := by
  obtain ⟨c, ds, rfl, hblank, -⟩ := h
  exact Text.skip_cons hblank ds

theorem startsValue_quoted_append (s : String) (rest : List Char) :
    StartsValue (quoted s ++ rest) := ⟨'"', _, rfl, by decide, by decide⟩

theorem isBlank_of_isDigit {c : Char} (h : c.isDigit = true) : isBlank c = false := by
  rw [← Bool.not_eq_true]
  intro hblank
  simp only [isBlank, Bool.or_eq_true, beq_iff_eq] at hblank
  rcases hblank with ((rfl | rfl) | rfl) | rfl <;> exact absurd h (by decide)

theorem startsValue_ofInt_append (i : Int) (rest : List Char) :
    StartsValue ((Text.ofInt i).toList ++ rest) := by
  rw [Text.toList_ofInt]
  split_ifs
  · exact ⟨'-', _, rfl, by decide, by decide⟩
  · obtain ⟨d, ds, hds, hdigit⟩ := Text.exists_toDigits_eq_cons i.natAbs
    rw [hds]
    refine ⟨d, _, rfl, isBlank_of_isDigit hdigit, ?_⟩
    rintro rfl
    exact absurd hdigit (by decide)

/-- No printed value is taken for the end of an array. -/
theorem startsValue_printed {n : Nat} {d : Data} (h : Printable n d) (rest : List Char) :
    StartsValue (printed d ++ rest) := by
  cases h with
  | null => exact ⟨'n', _, rfl, by decide, by decide⟩
  | bool b => cases b <;> exact ⟨_, _, rfl, by decide, by decide⟩
  | int i => exact startsValue_ofInt_append i rest
  | str s => exact startsValue_quoted_append s rest
  | @arr _ ds h => cases ds <;> exact ⟨'[', _, rfl, by decide, by decide⟩
  | @obj _ es h => cases es <;> exact ⟨'\x7b', _, rfl, by decide, by decide⟩

theorem value_eq_number {fuel depth : Nat} {c : Char} {cs : List Char}
    (h : c = '-' ∨ c.isDigit = true) : value fuel depth (c :: cs) = number (c :: cs) := by
  have hne : c ≠ 'n' ∧ c ≠ 't' ∧ c ≠ 'f' ∧ c ≠ '"' ∧ c ≠ '[' ∧ c ≠ '\x7b' := by
    refine ⟨?_, ?_, ?_, ?_, ?_, ?_⟩ <;> rintro rfl <;> exact absurd h (by decide)
  unfold value
  split <;> simp_all

theorem value_ofInt_append (fuel depth : Nat) (i : Int) {rest : List Char} (hrest : Ends rest) :
    value fuel depth ((Text.ofInt i).toList ++ rest) = some (.int i, rest) := by
  rw [← number_ofInt_append i hrest, Text.toList_ofInt]
  split_ifs
  · exact value_eq_number (.inl rfl)
  · obtain ⟨d, ds, hds, hdigit⟩ := Text.exists_toDigits_eq_cons i.natAbs
    rw [hds]
    exact value_eq_number (.inr hdigit)

structure Reads (read : List Char → Option (Data × List Char)) (d : Data) : Prop where
  starts : ∀ rest, StartsValue (printed d ++ rest)
  reads : ∀ rest, Ends rest → read (printed d ++ rest) = some (d, rest)

variable {read : List Char → Option (Data × List Char)}

theorem printed_arr_cons_append (d : Data) (ds : List Data) (rest : List Char) :
    printed (.arr (d :: ds)) ++ rest = '[' :: (printed d ++ (printedItems ds ++ rest)) := by
  simp [printed]

theorem printedItems_cons_append (d : Data) (ds : List Data) (rest : List Char) :
    printedItems (d :: ds) ++ rest = ',' :: (printed d ++ (printedItems ds ++ rest)) := by
  simp [printedItems]

/-- Items read back one by one; their number bounds the rounds. -/
theorem itemsRest_printedItems {ds : List Data} (h : ∀ d ∈ ds, Reads read d) {fuel : Nat}
    (hfuel : ds.length < fuel) (rest : List Char) :
    itemsRest read fuel (printedItems ds ++ rest) = some (ds, rest) := by
  induction ds generalizing fuel with
  | nil =>
    obtain ⟨fuel, rfl⟩ := Nat.exists_eq_succ_of_ne_zero (Nat.ne_of_gt hfuel)
    rfl
  | cons d ds ih =>
    obtain ⟨fuel, rfl⟩ := Nat.exists_eq_succ_of_ne_zero (Nat.ne_of_gt (Nat.zero_lt_of_lt hfuel))
    obtain ⟨hd, hds⟩ := List.forall_mem_cons.1 h
    rw [printedItems_cons_append, itemsRest, Text.skip_cons (by decide)]
    simp only [(hd.starts _).skip, hd.reads _ (ends_printedItems ds rest),
      Option.bind_eq_bind, Option.bind_some, ih hds (Nat.lt_of_succ_lt_succ hfuel)]

theorem items_printed {d : Data} {ds : List Data} (h : ∀ d' ∈ d :: ds, Reads read d') {fuel : Nat}
    (hfuel : ds.length < fuel) (rest : List Char) :
    items read fuel (printed d ++ (printedItems ds ++ rest)) = some (d :: ds, rest) := by
  obtain ⟨hd, hds⟩ := List.forall_mem_cons.1 h
  rw [items, (hd.starts _).skip]
  split
  · rename_i cs heq
    obtain ⟨c, ds', hc, -, hne⟩ := hd.starts (printedItems ds ++ rest)
    exact absurd (List.cons.inj (hc.symm.trans heq)).1 hne
  · simp only [hd.reads _ (ends_printedItems ds rest), Option.bind_eq_bind, Option.bind_some,
      itemsRest_printedItems hds hfuel]

theorem printed_obj_cons_append (name : String) (d : Data) (es : List (String × Data))
    (rest : List Char) :
    printed (.obj ((name, d) :: es)) ++ rest =
      '\x7b' :: (quoted name ++ ':' :: (printed d ++ (printedEntries es ++ rest))) := by
  simp [printed]

theorem printedEntries_cons_append (name : String) (d : Data) (es : List (String × Data))
    (rest : List Char) :
    printedEntries ((name, d) :: es) ++ rest =
      ',' :: (quoted name ++ ':' :: (printed d ++ (printedEntries es ++ rest))) := by
  simp [printedEntries]

/-- A name and its value read back, with the colon between them. -/
theorem entry_printed {d : Data} (h : Reads read d) (name : String) {rest : List Char}
    (hrest : Ends rest) :
    entry read (quoted name ++ ':' :: (printed d ++ rest)) = some ((name, d), rest) := by
  rw [quoted_append, entry, stringRest_escaped]
  simp only [Text.skip_cons (show isBlank ':' = false by decide), (h.starts _).skip,
    h.reads _ hrest, Option.bind_eq_bind, Option.bind_some]

/-- Entries read back one by one; their number bounds the rounds. -/
theorem entriesRest_printedEntries {es : List (String × Data)} (h : ∀ e ∈ es, Reads read e.2)
    {fuel : Nat} (hfuel : es.length < fuel) (rest : List Char) :
    entriesRest read fuel (printedEntries es ++ rest) = some (es, rest) := by
  induction es generalizing fuel with
  | nil =>
    obtain ⟨fuel, rfl⟩ := Nat.exists_eq_succ_of_ne_zero (Nat.ne_of_gt hfuel)
    rfl
  | cons e es ih =>
    obtain ⟨name, d⟩ := e
    obtain ⟨fuel, rfl⟩ := Nat.exists_eq_succ_of_ne_zero (Nat.ne_of_gt (Nat.zero_lt_of_lt hfuel))
    obtain ⟨hd, hes⟩ := List.forall_mem_cons.1 h
    rw [printedEntries_cons_append, entriesRest, Text.skip_cons (by decide)]
    simp only [(startsValue_quoted_append _ _).skip,
      entry_printed hd name (ends_printedEntries es rest), Option.bind_eq_bind, Option.bind_some,
      ih hes (Nat.lt_of_succ_lt_succ hfuel)]

theorem entries_printed {name : String} {d : Data} {es : List (String × Data)}
    (h : ∀ e ∈ (name, d) :: es, Reads read e.2) {fuel : Nat} (hfuel : es.length < fuel)
    (rest : List Char) :
    entries read fuel (quoted name ++ ':' :: (printed d ++ (printedEntries es ++ rest))) =
      some ((name, d) :: es, rest) := by
  obtain ⟨hd, hes⟩ := List.forall_mem_cons.1 h
  rw [entries, (startsValue_quoted_append _ _).skip]
  split
  · rename_i cs heq
    rw [quoted_append] at heq
    exact absurd (List.cons.inj heq).1 (by decide)
  · simp only [entry_printed hd name (ends_printedEntries es rest), Option.bind_eq_bind,
      Option.bind_some, entriesRest_printedEntries hes hfuel]

/-! ## 5. Texts -/

/-- The text of an array or object is longer than that of what it holds, and than it has members. -/
theorem length_lt_printedItems (ds : List Data) :
    ds.length < (printedItems ds).length ∧
      ∀ d ∈ ds, (printed d).length < (printedItems ds).length := by
  induction ds with
  | nil => simp [printedItems]
  | cons d ds ih =>
    have hcons : (printedItems (d :: ds)).length =
        (printed d).length + (printedItems ds).length + 1 := by simp [printedItems]
    refine ⟨by rw [hcons, List.length_cons]; omega, List.forall_mem_cons.2 ⟨by omega, ?_⟩⟩
    intro d' hd'
    have := ih.2 d' hd'
    omega

theorem length_lt_printedEntries (es : List (String × Data)) :
    es.length < (printedEntries es).length ∧
      ∀ e ∈ es, (printed e.2).length < (printedEntries es).length := by
  induction es with
  | nil => simp [printedEntries]
  | cons e es ih =>
    have hcons : (printedEntries (e :: es)).length =
        (quoted e.1).length + (printed e.2).length + (printedEntries es).length + 2 := by
      simp [printedEntries]
      omega
    refine ⟨by rw [hcons, List.length_cons]; omega, List.forall_mem_cons.2 ⟨by omega, ?_⟩⟩
    intro e' he'
    have := ih.2 e' he'
    omega

/-- What nests no deeper than the reader goes reads back, and the length of its text is rounds
enough. -/
theorem value_printed {n : Nat} {d : Data} (h : Printable n d) {fuel : Nat}
    (hfuel : (printed d).length ≤ fuel) {rest : List Char} (hrest : Ends rest) :
    value fuel n (printed d ++ rest) = some (d, rest) := by
  induction h generalizing rest with
  | null => simp [printed, value]
  | bool b => cases b <;> simp [printed, value]
  | int i => exact value_ofInt_append fuel _ i hrest
  | str s =>
    rw [printed, quoted_append, value, stringRest_escaped]
    rfl
  -- What an array or object holds is shorter than its text, so the rounds suffice for it too.
  | @arr n ds h ih =>
    cases ds with
    | nil => rfl
    | cons d ds =>
      have hsame : (printed (.arr (d :: ds))).length = (printedItems (d :: ds)).length := by
        simp [printed, printedItems]
      obtain ⟨hcount, hitems⟩ := length_lt_printedItems (d :: ds)
      have hreads : ∀ d' ∈ d :: ds, Reads (value fuel n) d' := fun d' hd' =>
        ⟨startsValue_printed (h d' hd'), fun _ => ih d' hd' (by have := hitems d' hd'; omega)⟩
      rw [List.length_cons] at hcount
      rw [printed_arr_cons_append, value, items_printed hreads (by omega)]
      rfl
  | @obj n es h ih =>
    cases es with
    | nil => rfl
    | cons e es =>
      obtain ⟨name, d⟩ := e
      have hsame : (printed (.obj ((name, d) :: es))).length =
          (printedEntries ((name, d) :: es)).length := by
        simp [printed, printedEntries]
      obtain ⟨hcount, hentries⟩ := length_lt_printedEntries ((name, d) :: es)
      have hreads : ∀ e ∈ (name, d) :: es, Reads (value fuel n) e.2 := fun e he =>
        ⟨startsValue_printed (h e he), fun _ => ih e he (by have := hentries e he; omega)⟩
      rw [List.length_cons] at hcount
      rw [printed_obj_cons_append, value, entries_printed hreads (by omega)]
      rfl

/-- What is printed reads back, whatever texts stand in it. -/
theorem parse_print {d : Data} (h : Printable maxDepth d) : parse (print d) = some d := by
  have hcs : (print d).toList = printed d := String.toList_ofList
  have hblanks : Text.skip isBlank (printed d) = printed d := by
    simpa using (startsValue_printed h []).skip
  have hvalue := value_printed h (Nat.le_refl _) ends_nil
  rw [List.append_nil] at hvalue
  rw [parse, hcs, hblanks, hvalue]
  rfl

end Json

end PackageVerification
