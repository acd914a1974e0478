import Mathlib.Data.List.Basic
import Mathlib.Tactic.SplitIfs
import PackageVerification.Proofs.JsonText
import PackageVerification.Toml.Parser
import PackageVerification.Toml.Printer

/-!
# TOML text reads back

A flat document that is printed as TOML text and read again has the same values under the same keys,
whatever texts stand in it. Main statements: `string_quoted_append`, a string reads back whichever
of the four kinds of string it was written as; `parse_print?`, so does a document.
-/

namespace PackageVerification.Toml

/-! ## 1. Characters -/

theorem isBlank_eq_false {c : Char} (hspace : c ≠ ' ') (htab : c ≠ '\t') : isBlank c = false := by
  simp [isBlank, hspace, htab]

theorem isPlain_ne {c : Char} (h : isPlain c) : c ≠ '\n' ∧ c ≠ '\r' := by
  constructor
  · rintro rfl; cases h
  · rintro rfl; cases h

/-- No line end begins with another character than a line feed or a carriage return. -/
theorem newline?_cons {c : Char} (hn : c ≠ '\n') (hr : c ≠ '\r') (cs : List Char) :
    newline? (c :: cs) = none := by
  unfold newline?
  split <;> simp_all

/-- A run ends at the first character that does not belong to it. -/
theorem takeWhile_append_cons {p : Char → Bool} {run : List Char} (h : ∀ c ∈ run, p c = true)
    {c : Char} (hc : p c = false) (rest : List Char) :
    (run ++ c :: rest).takeWhile p = run ∧ (run ++ c :: rest).dropWhile p = c :: rest := by
  rw [List.takeWhile_append_of_pos h, List.dropWhile_append_of_pos h,
    List.takeWhile_cons_of_neg (by simp [hc]), List.dropWhile_cons_of_neg (by simp [hc]),
    List.append_nil]
  exact ⟨rfl, rfl⟩

/-! ## 2. Escapes -/

/-- The ways in which a character stands in a basic string. -/
inductive Escape (d : Delimiter) (c : Char) : List Char → Prop
  | mark {x : Char} (h : escape? x = some c) : Escape d c ['\\', x]
  | code {x y : Char} {high low : Nat} (hx : Text.hexValue? x = some high)
    (hy : Text.hexValue? y = some low)
    (h : Text.char? (high * 16 + low) = some c) : Escape d c ['\\', 'u', '0', '0', x, y]
  | plain (h : isPlain c) (hquote : c ≠ '"') (hbackslash : c ≠ '\\') : Escape d c [c]
  | lineFeed (hd : d = .lines) (h : c = '\n') : Escape d c [c]

/-- The code of a control character has two zeros and two digits that read back. -/
theorem codeDigits_ofNat {n : Nat} (hn : n < 32 ∨ n = 127) :
    ∃ x y, codeDigits (Char.ofNat n) = ['0', '0', x, y] ∧ Text.hexValue? x = some (n / 16) ∧
      Text.hexValue? y = some (n % 16) := by
  have hall : ∀ n < 128, n < 32 ∨ n = 127 →
      let x := (Nat.digitChar (n / 16)).toUpper
      let y := (Nat.digitChar (n % 16)).toUpper
      codeDigits (Char.ofNat n) = ['0', '0', x, y] ∧ Text.hexValue? x = some (n / 16) ∧
        Text.hexValue? y = some (n % 16) := by decide
  exact ⟨_, _, hall n (by omega) hn⟩

theorem escape_code (d : Delimiter) {c : Char} (hc : c < ' ' ∨ c = '\x7f') :
    Escape d c ('\\' :: 'u' :: codeDigits c) := by
  have hn : c.toNat < 32 ∨ c.toNat = 127 := hc.imp id (congrArg Char.toNat)
  obtain ⟨x, y, hdigits, hx, hy⟩ := codeDigits_ofNat hn
  rw [Char.ofNat_toNat] at hdigits
  rw [hdigits]
  refine .code hx hy ?_
  rw [Nat.div_add_mod', Text.char?_toNat]

/-- Each character is written in one of these ways. -/
theorem escape_escaped (d : Delimiter) (c : Char) : Escape d c (escaped d c) := by
  unfold escaped
  split_ifs with hb ht hn hlines hf hr hquote hbackslash hcontrol
  · exact .mark (hb ▸ rfl)
  · exact .mark (ht ▸ rfl)
  · rw [← hn]
    exact .lineFeed hlines hn
  · exact .mark (hn ▸ rfl)
  · exact .mark (hf ▸ rfl)
  · exact .mark (hr ▸ rfl)
  · subst hquote
    exact .mark rfl
  · subst hbackslash
    exact .mark rfl
  · exact escape_code d hcontrol
  · rw [not_or, Char.not_lt] at hcontrol
    exact .plain (by simp [isPlain, hcontrol]) hquote hbackslash

/-- What a character is written as is not taken for a closing quote. -/
theorem Escape.exists_cons {d : Delimiter} {c : Char} {text : List Char} (h : Escape d c text) :
    ∃ x xs, text = x :: xs ∧ x ≠ '"' := by
  cases h with
  | mark | code => exact ⟨_, _, rfl, by decide⟩
  | plain _ hquote => exact ⟨_, _, rfl, hquote⟩
  | lineFeed _ h => exact ⟨_, _, rfl, h ▸ by decide⟩

/-- What follows a backslash as a mark is none of the characters with a meaning of their own there.
-/
theorem mark_ne {x c : Char} (h : escape? x = some c) :
    x ≠ 'u' ∧ x ≠ 'U' ∧ x ≠ '\n' ∧ x ≠ '\r' ∧ isBlank x = false := by
  refine ⟨?_, ?_, ?_, ?_, isBlank_eq_false ?_ ?_⟩ <;> rintro rfl <;> cases h

/-- On one line the reader takes a character as a whole, whichever way it was written. -/
theorem basicBody_escape {c : Char} {text : List Char} (h : Escape .single c text)
    (cs : List Char) : basicBody .nothing (text ++ cs) = adding c (basicBody .nothing cs) := by
  cases h with
  | mark h =>
    obtain ⟨hu, hU, -⟩ := mark_ne h
    simp only [List.cons_append, List.nil_append]
    rw [basicBody, basicBody, h, Option.bind_some]
    · exact hu
    · exact hU
  | code hx hy h =>
    have hzero : Text.hexValue? '0' = some 0 := by decide
    simp [basicBody, hzero, hx, hy, h]
  | plain h hquote hbackslash =>
    rw [List.cons_append, List.nil_append, basicBody, if_pos h]
    · exact hquote
    · exact hbackslash
  | lineFeed hd => cases hd

theorem basicLines_cons {c : Char} (hquote : c ≠ '"') (hbackslash : c ≠ '\\')
    (hc : isPlain c ∨ c = '\n') (cs : List Char) :
    basicLines .nothing (c :: cs) = adding c (basicLines .nothing cs) := by
  rcases hc with hc | rfl
  · obtain ⟨hn, hr⟩ := isPlain_ne hc
    rw [basicLines, if_pos hc] <;> simp_all
  · rfl

/-- Over several lines it does so too, where a line feed stands for itself. -/
theorem basicLines_escape {c : Char} {text : List Char} (h : Escape .lines c text)
    (cs : List Char) : basicLines .nothing (text ++ cs) = adding c (basicLines .nothing cs) := by
  cases h with
  | mark h =>
    obtain ⟨hu, hU, hn, hr, hblank⟩ := mark_ne h
    simp only [List.cons_append, List.nil_append]
    rw [basicLines, basicLines, hblank, h] <;> simp_all
  | code hx hy h =>
    have hzero : Text.hexValue? '0' = some 0 := by decide
    simp [basicLines, hzero, hx, hy, h]
  | plain h hquote hbackslash => exact basicLines_cons hquote hbackslash (.inl h) cs
  | lineFeed _ h =>
    subst h
    rfl

/-! ## 3. Basic strings -/

/-- A reader that takes what each character was written as takes the whole text. -/
theorem read_flatMap {body : List Char → Option (List Char × List Char)} {write : Char → List Char}
    (hstep : ∀ c cs, body (write c ++ cs) = adding c (body cs)) {tail rest : List Char}
    (htail : body tail = some ([], rest)) (cs : List Char) :
    body (cs.flatMap write ++ tail) = some (cs, rest) := by
  induction cs with
  | nil => exact htail
  | cons c cs ih => rw [List.flatMap_cons, List.append_assoc, hstep, ih]; rfl

/-- What was escaped for one line reads back up to the closing quote. -/
theorem basicBody_escaped (cs rest : List Char) :
    basicBody .nothing (cs.flatMap (escaped .single) ++ '"' :: rest) = some (cs, rest) :=
  read_flatMap (fun c => basicBody_escape (escape_escaped .single c)) rfl cs

/-- What was escaped for several lines reads back up to the three closing quotes. -/
theorem basicLines_escaped (cs rest : List Char) :
    basicLines .nothing (cs.flatMap (escaped .lines) ++ '"' :: '"' :: '"' :: '\n' :: rest) =
      some (cs, '\n' :: rest) :=
  read_flatMap (fun c => basicLines_escape (escape_escaped .lines c)) rfl cs

/-! ## 4. Literal strings -/

/-- A text without apostrophes reads back as it stands. -/
theorem literalBody_append {cs : List Char} (h : ∀ c ∈ cs, isPlain c ∧ c ≠ '\'')
    (rest : List Char) : literalBody (cs ++ '\'' :: rest) = some (cs, rest) := by
  induction cs with
  | nil => rfl
  | cons c cs ih =>
    obtain ⟨⟨hplain, hquote⟩, hcs⟩ := List.forall_mem_cons.1 h
    rw [List.cons_append, literalBody, if_pos hplain, ih hcs]
    · rfl
    · exact hquote

theorem literalLines_cons {c : Char} (hc : isPlain c ∨ c = '\n') {cs : List Char}
    (hopen : ∀ tail, c :: cs ≠ '\'' :: '\'' :: '\'' :: tail) :
    literalLines (c :: cs) = adding c (literalLines cs) := by
  rcases hc with hc | rfl
  · obtain ⟨hn, hr⟩ := isPlain_ne hc
    have hquotes : ∀ tail, c = '\'' → cs ≠ '\'' :: '\'' :: tail := by
      rintro tail hquote rfl
      exact hopen tail (by rw [hquote])
    rw [literalLines, if_pos hc]
    · exact fun _ => hquotes _
    · exact fun _ => hquotes _
    · exact fun _ => hquotes _
    · exact hn
    · exact fun _ h => absurd h hr
  · rfl

structure Literal (cs : List Char) : Prop where
  plain : ∀ c ∈ cs, isPlain c ∨ c = '\n'
  triple : hasTripleApostrophe cs = false
  last : cs.getLast? ≠ some '\''

namespace Literal

theorem of_isLiteral {cs : List Char} (h : isLiteral cs) : Literal cs := by
  simp only [isLiteral, Bool.and_eq_true, Bool.not_eq_true', bne_iff_ne] at h
  obtain ⟨⟨⟨-, hescape⟩, htriple⟩, hlast⟩ := h
  refine ⟨fun c hc => ?_, htriple, hlast⟩
  have hno : needsEscape c = false := by simpa using List.any_eq_false.1 hescape c hc
  simp only [needsEscape] at hno
  simp only [isPlain]
  grind

/-- On one line all is plain. -/
theorem isPlain_of_mem {cs : List Char} (h : Literal cs) (hlines : ¬cs.contains '\n') {c : Char}
    (hc : c ∈ cs) : isPlain c := by
  refine (h.plain c hc).resolve_right ?_
  rintro rfl
  exact hlines (List.contains_iff_mem.2 hc)

theorem tail {c : Char} {cs : List Char} (h : Literal (c :: cs)) : Literal cs := by
  refine ⟨(List.forall_mem_cons.1 h.plain).2, ?_, ?_⟩
  · have htriple := h.triple
    unfold hasTripleApostrophe at htriple
    split at htriple
    · cases htriple
    · rename_i heq
      exact (List.cons.inj heq).2 ▸ htriple
    · rename_i heq
      cases heq
  · cases cs with
    | nil => simp
    | cons d ds => exact h.last

/-- The closing apostrophes do not begin inside the text. -/
theorem not_open {c : Char} {cs : List Char} (h : Literal (c :: cs)) (rest tail : List Char) :
    c :: (cs ++ rest) ≠ '\'' :: '\'' :: '\'' :: tail := by
  intro heq
  rcases cs with _ | ⟨d, _ | ⟨e, ds⟩⟩
  · obtain ⟨rfl, -⟩ := List.cons.inj heq
    exact h.last rfl
  · obtain ⟨-, hd⟩ := List.cons.inj heq
    obtain ⟨rfl, -⟩ := List.cons.inj hd
    exact h.last rfl
  · obtain ⟨rfl, hd⟩ := List.cons.inj heq
    obtain ⟨rfl, he⟩ := List.cons.inj hd
    obtain ⟨rfl, -⟩ := List.cons.inj he
    exact absurd h.triple (by simp [hasTripleApostrophe])

/-- A literal text over several lines reads back up to the three closing apostrophes. -/
theorem literalLines_append {cs : List Char} (h : Literal cs) (rest : List Char) :
    literalLines (cs ++ '\'' :: '\'' :: '\'' :: '\n' :: rest) = some (cs, '\n' :: rest) := by
  induction cs with
  | nil => rfl
  | cons c cs ih =>
    rw [List.cons_append, literalLines_cons (h.plain c List.mem_cons_self) (h.not_open _),
      ih h.tail]
    rfl

end Literal

/-! ## 5. Strings -/

theorem withoutFirstNewline_lineFeed (cs : List Char) : withoutFirstNewline ('\n' :: cs) = cs := rfl

theorem withoutFirstNewline_cons {c : Char} (hn : c ≠ '\n') (hr : c ≠ '\r') (cs : List Char) :
    withoutFirstNewline (c :: cs) = c :: cs := by
  rw [withoutFirstNewline, newline?_cons hn hr, Option.getD_none]

theorem string_apostrophe_cons {c : Char} (hc : c ≠ '\'') (cs : List Char) :
    string ('\'' :: c :: cs) = literalBody (c :: cs) := by
  unfold string
  split <;> simp_all

/-- A text that is written literally reads back, on one line or on several. -/
theorem string_literal_append {cs : List Char} (h : isLiteral cs) (rest : List Char) :
    string (opening '\'' (delimiter cs) ++ cs ++ closing '\'' (delimiter cs) ++ '\n' :: rest) =
      some (cs, '\n' :: rest) := by
  have hliteral : Literal cs := .of_isLiteral h
  obtain ⟨c, ds, rfl⟩ : ∃ c ds, cs = c :: ds := List.exists_cons_of_ne_nil (by rintro rfl; cases h)
  unfold delimiter
  split_ifs with hlines htriple
  · simpa [opening, closing, string, withoutFirstNewline_lineFeed] using
      hliteral.literalLines_append rest
  · obtain ⟨hn, hr⟩ := isPlain_ne (hliteral.isPlain_of_mem hlines List.mem_cons_self)
    simpa [opening, closing, string, withoutFirstNewline_cons hn hr] using
      hliteral.literalLines_append rest
  · have hplain : ∀ x ∈ c :: ds, isPlain x ∧ x ≠ '\'' := by
      refine fun x hx => ⟨hliteral.isPlain_of_mem hlines hx, ?_⟩
      rintro rfl
      exact htriple (by simpa [h] using hx)
    have hc : c ≠ '\'' := (hplain c List.mem_cons_self).2
    simpa [opening, closing, string_apostrophe_cons hc] using
      literalBody_append hplain ('\n' :: rest)

theorem string_quote_cons {c : Char} (hc : c ≠ '"') (cs : List Char) :
    string ('"' :: c :: cs) = basicBody .nothing (c :: cs) := by
  unfold string
  split <;> simp_all

/-- No escaped text makes one quote look like the first of three. -/
theorem string_quote_escaped (cs rest : List Char) :
    string ('"' :: (cs.flatMap (escaped .single) ++ '"' :: '\n' :: rest)) =
      basicBody .nothing (cs.flatMap (escaped .single) ++ '"' :: '\n' :: rest) := by
  cases cs with
  | nil => rfl
  | cons c cs =>
    obtain ⟨x, xs, hescaped, hx⟩ := (escape_escaped .single c).exists_cons
    rw [List.flatMap_cons, hescaped]
    exact string_quote_cons hx _

/-- A text that needs escapes reads back, on one line or on several. -/
theorem string_basic_append {cs : List Char} (h : isLiteral cs = false) (rest : List Char) :
    string (opening '"' (delimiter cs) ++ cs.flatMap (escaped (delimiter cs)) ++
      closing '"' (delimiter cs) ++ '\n' :: rest) = some (cs, '\n' :: rest) := by
  unfold delimiter
  simp only [h, Bool.false_and, Bool.false_eq_true, if_false]
  split_ifs with hlines
  · simpa [opening, closing, string, withoutFirstNewline_lineFeed] using basicLines_escaped cs rest
  · simpa [opening, closing, string_quote_escaped] using basicBody_escaped cs ('\n' :: rest)

/-- A string reads back, whichever kind of string it was written as. -/
theorem string_quoted_append (cs rest : List Char) :
    string (quoted cs ++ '\n' :: rest) = some (cs, '\n' :: rest) := by
  rw [quoted]
  split_ifs with h
  · exact string_literal_append h rest
  · exact string_basic_append (by simpa using h) rest

/-! ## 6. Integers -/

theorem grouped?_digits {ds : List Char} (hne : ds ≠ []) (h : ∀ c ∈ ds, c.isDigit = true) :
    grouped? Char.isDigit ds = some ds := by
  induction ds with
  | nil => exact absurd rfl hne
  | cons c ds ih =>
    obtain ⟨hc, hds⟩ := List.forall_mem_cons.1 h
    cases ds with
    | nil => rw [grouped?, if_pos hc]
    | cons d ds =>
      have hd : d ≠ '_' := by
        rintro rfl
        exact absurd (hds '_' List.mem_cons_self) (by decide)
      rw [grouped?, if_pos hc, ih (by simp) hds]
      · rfl
      · simp
      · rintro _ ⟨rfl, -⟩
        exact hd rfl

/-- A number is written without a superfluous zero in front. -/
theorem whole?_toDigits (n : Nat) : whole? (Nat.toDigits 10 n) = some (Nat.toDigits 10 n) := by
  have hgrouped : grouped? Char.isDigit (Nat.toDigits 10 n) = some (Nat.toDigits 10 n) :=
    grouped?_digits Nat.toDigits_ne_nil fun _ => Text.isDigit_of_mem_toDigits
  by_cases hn : n = 0
  · subst hn
    rfl
  · have hhead := Text.head?_toDigits_ne hn
    unfold whole?
    split
    · simp_all
    · simp_all
    · exact hgrouped

/-- Decimal digits have the same value whichever of the two readers adds them up. -/
theorem valueIn_digits {ds : List Char} (h : ∀ c ∈ ds, c.isDigit = true) :
    valueIn 10 ds = Text.digitsValue ds := by
  refine List.foldl_ext _ _ 0 fun n c hc => ?_
  rw [Text.hexValue?, if_pos (h c hc), Option.getD_some]

theorem valueIn_toDigits (n : Nat) : valueIn 10 (Nat.toDigits 10 n) = n := by
  rw [valueIn_digits fun _ => Text.isDigit_of_mem_toDigits, Text.digitsValue_toDigits]

theorem bounded_eq_some {i : Int} (h : Int64.minValue.toInt ≤ i ∧ i ≤ Int64.maxValue.toInt) :
    bounded i = some i := if_pos h

theorem signed_toDigits (n : Nat) : signed (Nat.toDigits 10 n) = (false, Nat.toDigits 10 n) := by
  obtain ⟨d, ds, hds, hdigit⟩ := Text.exists_toDigits_eq_cons n
  rw [hds]
  unfold signed
  split
  · rename_i heq
    obtain ⟨rfl, -⟩ := List.cons.inj heq
    exact absurd hdigit (by decide)
  · rename_i heq
    obtain ⟨rfl, -⟩ := List.cons.inj heq
    exact absurd hdigit (by decide)
  · rfl

/-- Decimal digits do not begin like those of another base. -/
theorem integer?_of_second {cs : List Char}
    (h : ∀ c ds, cs = '0' :: c :: ds → c.isDigit = true) :
    integer? cs =
      (whole? (signed cs).2).bind fun ds =>
        bounded (if (signed cs).1 then -(valueIn 10 ds : Int) else valueIn 10 ds) := by
  unfold integer?
  split
  · exact absurd (h _ _ rfl) (by decide)
  · exact absurd (h _ _ rfl) (by decide)
  · exact absurd (h _ _ rfl) (by decide)
  · rfl

/-- An integer of 64 bits reads back. -/
theorem integer?_ofInt {i : Int} (h : Int64.minValue.toInt ≤ i ∧ i ≤ Int64.maxValue.toInt) :
    integer? (Text.ofInt i).toList = some i := by
  rw [integer?_of_second, Text.toList_ofInt]
  · by_cases hneg : i < 0
    · simp only [if_pos hneg, signed, whole?_toDigits, Option.bind_some, valueIn_toDigits, if_true]
      rw [show -(i.natAbs : Int) = i by omega, bounded_eq_some h]
    · simp only [if_neg hneg, signed_toDigits, whole?_toDigits, Option.bind_some, valueIn_toDigits,
        Bool.false_eq_true, if_false]
      rw [show (i.natAbs : Int) = i by omega, bounded_eq_some h]
  · intro c ds heq
    rw [Text.toList_ofInt] at heq
    split_ifs at heq
    · cases heq
    · exact Text.isDigit_of_mem_toDigits (n := i.natAbs) (by simp [heq])

theorem isScalarChar_of_mem_ofInt {i : Int} {c : Char} (hc : c ∈ (Text.ofInt i).toList) :
    isScalarChar c = true := by
  have hdigit : ∀ {n : Nat}, c ∈ Nat.toDigits 10 n → isScalarChar c = true := fun hc => by
    simp [isScalarChar, Char.isAlphanum, Text.isDigit_of_mem_toDigits hc]
  rw [Text.toList_ofInt] at hc
  split_ifs at hc
  · rcases List.mem_cons.1 hc with rfl | hc
    · decide
    · exact hdigit hc
  · exact hdigit hc

theorem exists_ofInt_eq_cons (i : Int) :
    ∃ c cs, (Text.ofInt i).toList = c :: cs ∧ (c = '-' ∨ c.isDigit = true) := by
  rw [Text.toList_ofInt]
  split_ifs
  · exact ⟨_, _, rfl, .inl rfl⟩
  · obtain ⟨d, ds, hds, hdigit⟩ := Text.exists_toDigits_eq_cons i.natAbs
    exact ⟨d, ds, hds, .inr hdigit⟩

theorem bareRun_append {run : List Char} (h : ∀ c ∈ run, isScalarChar c = true)
    (rest : List Char) : bareRun (run ++ '\n' :: rest) = (run, '\n' :: rest) := by
  obtain ⟨htake, hdrop⟩ := takeWhile_append_cons (c := '\n') h (by decide) rest
  simp only [bareRun, htake, hdrop]
  rfl

theorem string_cons_eq_none {c : Char} (hquote : c ≠ '"') (happ : c ≠ '\'') (cs : List Char) :
    string (c :: cs) = none := by
  unfold string
  split <;> simp_all

/-- An integer reads back as a value up to the end of its line. -/
theorem scalar_ofInt_append {i : Int} (h : Int64.minValue.toInt ≤ i ∧ i ≤ Int64.maxValue.toInt)
    (rest : List Char) :
    scalar ((Text.ofInt i).toList ++ '\n' :: rest) = some (.int i, '\n' :: rest) := by
  obtain ⟨c, cs, hcs, hc⟩ := exists_ofInt_eq_cons i
  have hne : c ≠ '"' ∧ c ≠ '\'' ∧ c ≠ 't' ∧ c ≠ 'f' := by
    refine ⟨?_, ?_, ?_, ?_⟩ <;> rintro rfl <;> exact absurd hc (by decide)
  have hstring : string ((Text.ofInt i).toList ++ '\n' :: rest) = none := by
    rw [hcs]
    exact string_cons_eq_none hne.1 hne.2.1 _
  have hbare : bare? (Text.ofInt i).toList = some (.int i) := by
    rw [bare?, if_neg (by simp [hcs, hne]), if_neg (by simp [hcs, hne]), integer?_ofInt h]
  rw [scalar, hstring, bareRun_append fun c => isScalarChar_of_mem_ofInt]
  simp only [hbare, Option.map_some]

/-! ## 7. Scalars -/

/-- What a value may start with: not a blank, and not what an array or a table begins with. -/
def StartsScalar (cs : List Char) : Prop :=
  ∃ c ds, cs = c :: ds ∧ isBlank c = false ∧ c ≠ '[' ∧ c ≠ '\x7b'

/-- A value that has a text reads back from it, up to the end of its line. -/
theorem scalar_text_append {s : Scalar} {text : List Char} (h : text? s = some text)
    (rest : List Char) : scalar (text ++ '\n' :: rest) = some (s.toData, '\n' :: rest) := by
  cases s with
  | int i =>
    rw [text?] at h
    split_ifs at h with hi
    obtain rfl := Option.some.inj h
    exact scalar_ofInt_append hi rest
  | str s =>
    obtain rfl := Option.some.inj h
    rw [scalar, string_quoted_append]
    simp only [String.ofList_toList, Scalar.toData]

theorem startsScalar_quoted (cs : List Char) : StartsScalar (quoted cs) := by
  rw [quoted]
  split_ifs
  · cases delimiter cs <;> exact ⟨'\'', _, rfl, by decide⟩
  · cases delimiter cs <;> exact ⟨'"', _, rfl, by decide⟩

theorem startsScalar_ofInt (i : Int) : StartsScalar (Text.ofInt i).toList := by
  obtain ⟨c, cs, hcs, hc⟩ := exists_ofInt_eq_cons i
  refine ⟨c, cs, hcs, isBlank_eq_false ?_ ?_, ?_, ?_⟩ <;> rintro rfl <;> exact absurd hc (by decide)

theorem startsScalar_text {s : Scalar} {text : List Char} (h : text? s = some text) :
    StartsScalar text := by
  cases s with
  | int i =>
    rw [text?] at h
    split_ifs at h
    exact Option.some.inj h ▸ startsScalar_ofInt i
  | str s => exact Option.some.inj h ▸ startsScalar_quoted s.toList

/-- A value that is printed is none of those with parts, so it is read as a scalar. -/
theorem value_text_append (fuel depth : Nat) {s : Scalar} {text : List Char}
    (h : text? s = some text) (rest : List Char) :
    value fuel depth (Text.skip isBlank (text ++ '\n' :: rest)) =
      some (s.toData, '\n' :: rest) := by
  obtain ⟨c, cs, rfl, hblank, harray, htable⟩ := startsScalar_text h
  rw [List.cons_append, Text.skip_cons hblank, ← scalar_text_append h rest, List.cons_append]
  unfold value
  split
  · rename_i heq
    exact absurd (List.cons.inj heq).1 harray
  · rename_i heq
    exact absurd (List.cons.inj heq).1 htable
  · rfl

/-! ## 8. Keys -/

def IsBare (key : String) : Prop := key.toList ≠ [] ∧ key.toList.all isBareKey

instance (key : String) : Decidable (IsBare key) := inferInstanceAs (Decidable (_ ∧ _))

theorem isBareKey_ne {c : Char} (h : isBareKey c = true) :
    isBlank c = false ∧ c ≠ '"' ∧ c ≠ '\'' ∧ c ≠ '[' ∧ c ≠ '#' ∧ c ≠ '\n' ∧ c ≠ '\r' ∧
      c ≠ '\ufeff' := by
  refine ⟨isBlank_eq_false ?_ ?_, ?_, ?_, ?_, ?_, ?_, ?_, ?_⟩ <;> rintro rfl <;>
    exact absurd h (by decide)

theorem IsBare.exists_cons {key : String} (h : IsBare key) :
    ∃ c cs, key.toList = c :: cs ∧ isBareKey c = true := by
  obtain ⟨c, cs, hcs⟩ := List.exists_cons_of_ne_nil h.1
  exact ⟨c, cs, hcs, List.all_eq_true.1 h.2 c (hcs ▸ List.mem_cons_self)⟩

/-- A bare key reads back as one part. -/
theorem keyPart_append {name : String} (h : IsBare name) (rest : List Char) :
    keyPart (name.toList ++ ' ' :: rest) = some (name.toList, ' ' :: rest) := by
  obtain ⟨htake, hdrop⟩ :=
    takeWhile_append_cons (c := ' ') (List.all_eq_true.1 h.2) (by decide) rest
  obtain ⟨c, cs, hcs, hc⟩ := h.exists_cons
  obtain ⟨-, hquote, happ, -⟩ := isBareKey_ne hc
  rw [hcs] at htake hdrop ⊢
  unfold keyPart
  split
  · rename_i heq
    exact absurd (List.cons.inj heq).1 hquote
  · rename_i heq
    exact absurd (List.cons.inj heq).1 happ
  · simp only [htake, hdrop]

theorem IsBare.skip_append {name : String} (h : IsBare name) (rest : List Char) :
    Text.skip isBlank (name.toList ++ rest) = name.toList ++ rest := by
  obtain ⟨c, cs, hcs, hc⟩ := h.exists_cons
  rw [hcs]
  exact Text.skip_cons (isBareKey_ne hc).1 _

theorem key_append {name : String} (h : IsBare name) (rest : List Char) :
    key (name.toList ++ ' ' :: '=' :: rest) = some (⟨[], name⟩, '=' :: rest) := by
  have hblank : Text.skip isBlank (' ' :: '=' :: rest) = '=' :: rest := rfl
  rw [key, maxKeyParts, keyParts, h.skip_append, keyPart_append h]
  simp only [Option.bind_eq_bind, Option.bind_some, hblank, String.ofList_toList]
  rfl

/-! ## 9. Lines -/

def assigned (e : String × Scalar) : Line := .assignment ⟨[], e.1⟩ e.2.toData

/-- The line of a key and a value reads back as their assignment. -/
theorem assignment_line (fuel depth : Nat) {e : String × Scalar} (hbare : IsBare e.1)
    {line : List Char} (h : line? e.1 e.2 = some line) (rest : List Char) :
    assignment (value fuel depth) (line ++ rest) =
      some ((⟨[], e.1⟩, e.2.toData), '\n' :: rest) := by
  obtain ⟨text, htext, rfl⟩ := Option.map_eq_some_iff.1 h
  have hblank : Text.skip isBlank (' ' :: (text ++ '\n' :: rest)) =
      Text.skip isBlank (text ++ '\n' :: rest) := rfl
  simp only [List.append_assoc, List.cons_append, List.nil_append]
  rw [assignment, key_append hbare]
  simp only [Option.bind_eq_bind, Option.bind_some, hblank, value_text_append fuel depth htext]

theorem IsBare.exists_line {e : String × Scalar} (hbare : IsBare e.1) {line : List Char}
    (h : line? e.1 e.2 = some line) : ∃ c cs, line = c :: cs ∧ isBareKey c = true := by
  obtain ⟨text, -, rfl⟩ := Option.map_eq_some_iff.1 h
  obtain ⟨c, cs, hcs, hc⟩ := hbare.exists_cons
  exact ⟨c, _, by rw [hcs]; rfl, hc⟩

theorem lineEnd_cons {c : Char} (h : isBareKey c = true) (cs : List Char) :
    lineEnd (c :: cs) = none := by
  obtain ⟨hblank, -, -, -, hcomment, hn, hr, -⟩ := isBareKey_ne h
  rw [lineEnd, Text.skip_cons hblank]
  simp [hcomment, newline?_cons hn hr]

/-- A line with a key is neither empty nor a heading. -/
theorem lines_line {size fuel : Nat} {e : String × Scalar} (hbare : IsBare e.1) {line : List Char}
    (h : line? e.1 e.2 = some line) (rest : List Char) :
    lines size (fuel + 1) (line ++ rest) = (lines size fuel rest).map (assigned e :: ·) := by
  have hassignment := assignment_line size maxDepth hbare h rest
  obtain ⟨c, cs, rfl, hc⟩ := hbare.exists_line h
  obtain ⟨hblank, -, -, hheading, -⟩ := isBareKey_ne hc
  have hnext : lineEnd ('\n' :: rest) = some rest := rfl
  rw [List.cons_append] at hassignment ⊢
  rw [lines, Text.skip_cons hblank]
  split
  · rename_i heq
    cases heq
  · rename_i heq
    exact absurd (List.cons.inj heq).1 hheading
  · simp only [lineEnd_cons hc, hassignment, hnext, Option.bind_eq_bind, Option.bind_some]
    cases lines size fuel rest <;> rfl

theorem exists_of_lines_cons {e : String × Scalar} {es : List (String × Scalar)}
    {ls : List (List Char)} (h : (e :: es).mapM (fun e => line? e.1 e.2) = some ls) :
    ∃ line ls', line? e.1 e.2 = some line ∧ es.mapM (fun e => line? e.1 e.2) = some ls' ∧
      ls = line :: ls' := by
  simp only [List.mapM_cons, Option.bind_eq_bind, Option.bind_eq_some_iff, Option.pure_def,
    Option.some.injEq] at h
  obtain ⟨line, hline, ls', hls', rfl⟩ := h
  exact ⟨line, ls', hline, hls', rfl⟩

/-- The printed lines read back one by one; their length is rounds enough. -/
theorem lines_flatten {size : Nat} {entries : List (String × Scalar)} {ls : List (List Char)}
    (hbare : ∀ e ∈ entries, IsBare e.1) (h : entries.mapM (fun e => line? e.1 e.2) = some ls)
    {fuel : Nat} (hfuel : ls.flatten.length < fuel) :
    lines size fuel ls.flatten = some (entries.map assigned) := by
  obtain ⟨fuel, rfl⟩ := Nat.exists_eq_succ_of_ne_zero (Nat.ne_of_gt (Nat.zero_lt_of_lt hfuel))
  induction entries generalizing ls fuel with
  | nil =>
    obtain rfl := Option.some.inj h
    rfl
  | cons e es ih =>
    obtain ⟨he, hes⟩ := List.forall_mem_cons.1 hbare
    obtain ⟨line, ls, hline, hls, rfl⟩ := exists_of_lines_cons h
    have hcount : 0 < line.length := by
      obtain ⟨c, cs, rfl, -⟩ := he.exists_line hline
      simp
    rw [List.flatten_cons, List.length_append] at hfuel
    obtain ⟨fuel, rfl⟩ := Nat.exists_eq_succ_of_ne_zero (n := fuel) (by omega)
    rw [List.flatten_cons, lines_line he hline, ih hes hls fuel (by omega)]
    rfl

/-! ## 10. Documents -/

/-- A new name goes to the end. -/
theorem put_of_notMem {name : String} {node : Node} {entries : Entries}
    (h : name ∉ entries.map (·.1)) : put name node entries = entries ++ [(name, node)] := by
  induction entries with
  | nil => rfl
  | cons e es ih =>
    obtain ⟨hne, hes⟩ := not_or.1 (mt List.mem_cons.2 h)
    rw [put, if_neg (Ne.symm hne), ih hes, List.cons_append]

/-- A line with a new key adds its value to the draft. -/
theorem add_assigned {entries : Entries} {e : String × Scalar} (h : e.1 ∉ entries.map (·.1)) :
    Draft.add ⟨entries, []⟩ (assigned e) =
      some ⟨entries ++ [(e.1, .value e.2.toData)], []⟩ := by
  have hnew : entries.lookup e.1 = none := List.lookup_eq_none_iff.2 fun p hp =>
    bne_iff_ne.2 fun heq => h (heq ▸ List.mem_map_of_mem hp)
  simp [Draft.add, assigned, descend, assign, hnew, put_of_notMem h]

theorem foldlM_add (entries : Entries) {es : List (String × Scalar)}
    (hnodup : (entries.map (·.1) ++ es.map (·.1)).Nodup) :
    (es.map assigned).foldlM Draft.add ⟨entries, []⟩ =
      some ⟨entries ++ es.map fun e => (e.1, .value e.2.toData), []⟩ := by
  induction es generalizing entries with
  | nil => simp
  | cons e es ih =>
    have hnew : e.1 ∉ entries.map (·.1) := fun he =>
      (List.nodup_append.1 hnodup).2.2 e.1 he e.1 List.mem_cons_self rfl
    rw [List.map_cons, List.foldlM_cons, add_assigned hnew, Option.bind_eq_bind, Option.bind_some,
      ih]
    · simp
    · simpa using hnodup

theorem entriesData_values (record : List (String × Data) → Data) (es : List (String × Scalar)) :
    entriesData record (es.map fun e => (e.1, .value e.2.toData)) =
      es.map fun e => (e.1, e.2.toData) := by
  induction es with
  | nil => rfl
  | cons e es ih => rw [List.map_cons, List.map_cons, entriesData, ih, Node.toData]

/-- The lines of distinct keys make the record of their values. -/
theorem document?_assigned {es : List (String × Scalar)} (hnodup : (es.map (·.1)).Nodup) :
    document? (es.map assigned) = some (.headed (es.map fun e => (e.1, e.2.toData))) := by
  rw [document?, Draft.empty, foldlM_add [] hnodup, Option.map_some, List.nil_append,
    entriesData_values]

/-- A printed document does not begin with a byte order mark. -/
theorem withoutMark_flatten {entries : List (String × Scalar)} {ls : List (List Char)}
    (hbare : ∀ e ∈ entries, IsBare e.1) (h : entries.mapM (fun e => line? e.1 e.2) = some ls) :
    withoutMark ls.flatten = ls.flatten := by
  cases entries with
  | nil =>
    obtain rfl := Option.some.inj h
    rfl
  | cons e es =>
    obtain ⟨line, ls, hline, -, rfl⟩ := exists_of_lines_cons h
    obtain ⟨c, cs, rfl, hc⟩ := (hbare e List.mem_cons_self).exists_line hline
    rw [List.flatten_cons, List.cons_append]
    unfold withoutMark
    split
    · rename_i heq
      obtain ⟨rfl, -⟩ := List.cons.inj heq
      exact absurd hc (by decide)
    · rfl

/-- Only an integer that has no text keeps a document from being printed. -/
theorem print?_eq_none_iff {entries : List (String × Scalar)} :
    print? entries = none ↔ ∃ e ∈ entries, text? e.2 = none := by
  rw [print?, Option.map_eq_none_iff]
  induction entries with
  | nil => simp
  | cons e es ih =>
    rw [List.exists_mem_cons_iff, ← ih, List.mapM_cons, line?]
    cases text? e.2 with
    | none => simp
    | some text =>
      cases es.mapM fun e => line? e.1 e.2 with
      | none => simp
      | some ls => simp

/-- What is printed reads back, whatever texts stand in it. -/
theorem parse_print? {entries : List (String × Scalar)} (hbare : ∀ e ∈ entries, IsBare e.1)
    (hnodup : (entries.map (·.1)).Nodup) {text : String} (h : print? entries = some text) :
    parse text = some (.headed (entries.map fun e => (e.1, e.2.toData))) := by
  obtain ⟨ls, hls, rfl⟩ := Option.map_eq_some_iff.1 h
  rw [parse, String.toList_ofList, withoutMark_flatten hbare hls]
  simp only [lines_flatten hbare hls (Nat.lt_succ_self _), Option.bind_eq_bind, Option.bind_some,
    document?_assigned hnodup]

end PackageVerification.Toml
