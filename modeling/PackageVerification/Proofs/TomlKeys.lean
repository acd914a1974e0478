import Mathlib.Data.List.Nodup
import Mathlib.Tactic.SplitIfs
import PackageVerification.Toml.Parser

/-!
# Keys of TOML documents

Whatever lines a document is put together from, it says one thing under a key, so that what a record
takes from it is what is looked up in it. Main statements: `nodup_of_parse`, a document has each key
once; `exists_fields?_headed`, a record has under the name of a field what the document has under
it.
-/

namespace PackageVerification

namespace Toml

/-! ## 1. Tables -/

theorem names_put (name : String) (node : Node) (entries : Entries) :
    (put name node entries).map (·.1) =
      if name ∈ entries.map (·.1) then entries.map (·.1) else entries.map (·.1) ++ [name] := by
  induction entries with
  | nil => rfl
  | cons e es ih =>
    by_cases hname : e.1 = name
    · simp [put, hname]
    · rw [put, if_neg hname, List.map_cons, ih, List.map_cons]
      by_cases hmem : name ∈ es.map (·.1)
      · rw [if_pos hmem, if_pos (List.mem_cons_of_mem _ hmem)]
      · rw [if_neg hmem, if_neg (by simpa [Ne.symm hname] using hmem), List.cons_append]

theorem nodup_put {entries : Entries} (h : (entries.map (·.1)).Nodup) (name : String)
    (node : Node) : ((put name node entries).map (·.1)).Nodup := by
  rw [names_put]
  split_ifs with hname
  · exact h
  · exact h.append (List.nodup_singleton name) (by simpa using hname)

/-! ## 2. Lines -/

/-- What the change does to a table is to put one node into it. -/
def Puts (change : Origin → Entries → Option (Origin × Entries)) : Prop :=
  ∀ origin entries table, change origin entries = some table →
    ∃ name node, table.2 = put name node entries

/-- On the way to another table one node of this one is put back. -/
theorem puts_descend {change : Origin → Entries → Option (Origin × Entries)} (h : Puts change)
    (created : Origin) (path : List String) : Puts (descend created change path) := by
  intro origin entries table htable
  cases path with
  | nil => exact h origin entries table htable
  | cons name path =>
    rw [descend] at htable
    simp only [Option.bind_eq_bind] at htable
    repeat' split at htable
    all_goals
      simp only [Option.bind_none, reduceCtorEq, Option.bind_eq_some_iff, Option.some.injEq]
        at htable
    all_goals
      obtain ⟨node, -, rfl⟩ := htable
      exact ⟨name, node, rfl⟩

theorem puts_assign (key : Key) (data : Data) : Puts (assign key data) := by
  refine puts_descend (fun origin entries table h => ?_) .dotted key.parents
  split_ifs at h
  exact ⟨key.name, .value data, (congrArg Prod.snd (Option.some.inj h)).symm⟩

/-- A heading opens a table that is new, or one of its own kind. -/
theorem exists_put_of_heading {key : Key} {entries after : Entries}
    (h : openTable key entries = some after ∨ openElement key entries = some after) :
    ∃ name node, after = put name node entries := by
  rcases h with h | h
  all_goals
    obtain ⟨table, htable, rfl⟩ := Option.map_eq_some_iff.1 h
    refine puts_descend (fun origin entries table h => ?_) .implied key.parents _ _ _ htable
    split at h
    · exact ⟨key.name, _, (congrArg Prod.snd (Option.some.inj h)).symm⟩
    · exact ⟨key.name, _, (congrArg Prod.snd (Option.some.inj h)).symm⟩
    · cases h

/-- A line puts one node into the document. -/
theorem exists_put_of_add {d after : Draft} {line : Line} (h : d.add line = some after) :
    ∃ name node, after.entries = put name node d.entries := by
  cases line with
  | assignment key data =>
    obtain ⟨table, htable, rfl⟩ := Option.map_eq_some_iff.1 h
    exact puts_descend (puts_assign key data) .implied d.openPath _ _ _ htable
  | tableHeading key =>
    obtain ⟨entries, hentries, rfl⟩ := Option.map_eq_some_iff.1 h
    exact exists_put_of_heading (.inl hentries)
  | elementHeading key =>
    obtain ⟨entries, hentries, rfl⟩ := Option.map_eq_some_iff.1 h
    exact exists_put_of_heading (.inr hentries)

/-! ## 3. Documents -/

theorem nodup_foldlM_add {lines : List Line} {d after : Draft}
    (h : lines.foldlM Draft.add d = some after) (hnodup : (d.entries.map (·.1)).Nodup) :
    (after.entries.map (·.1)).Nodup := by
  induction lines generalizing d with
  | nil => exact Option.some.inj h ▸ hnodup
  | cons line lines ih =>
    rw [List.foldlM_cons, Option.bind_eq_bind, Option.bind_eq_some_iff] at h
    obtain ⟨next, hnext, hafter⟩ := h
    obtain ⟨name, node, hput⟩ := exists_put_of_add hnext
    exact ih hafter (hput ▸ nodup_put hnodup name node)

theorem names_entriesData (record : List (String × Data) → Data) (entries : Entries) :
    (entriesData record entries).map (·.1) = entries.map (·.1) := by
  induction entries with
  | nil => rfl
  | cons e es ih => rw [entriesData, List.map_cons, ih, List.map_cons]

/-- A document has each key once. -/
theorem nodup_of_parse {text : String} {d : Data} (h : parse text = some d) :
    ∃ entries, d = .headed entries ∧ (entries.map (·.1)).Nodup := by
  simp only [parse, Option.bind_eq_bind, Option.bind_eq_some_iff, document?,
    Option.map_eq_some_iff] at h
  obtain ⟨lines, -, draft, hdraft, rfl⟩ := h
  refine ⟨_, rfl, ?_⟩
  rw [names_entriesData]
  exact nodup_foldlM_add hdraft List.nodup_nil

end Toml

namespace Data

/-! ## 4. Records -/

theorem lookup_filter {p : String → Bool} {name : String} (hname : p name = true)
    (entries : List (String × Data)) :
    (entries.filter fun e => p e.1).lookup name = entries.lookup name := by
  induction entries with
  | nil => rfl
  | cons e es ih =>
    obtain ⟨key, d⟩ := e
    rw [List.filter_cons, List.lookup_cons, ← ih]
    by_cases hkey : name = key
    · subst hkey
      rw [if_pos hname, List.lookup_cons]
    · have hbeq : (name == key) = false := beq_eq_false_iff_ne.2 hkey
      split_ifs
      · rw [List.lookup_cons]
      · rw [hbeq]

/-- A record is taken from entries that have each name once, and has under the name of a field what
they have under it. -/
theorem exists_fields?_headed (dialect : Dialect) (names : List String)
    {entries : List (String × Data)} (h : (entries.map (·.1)).Nodup) :
    ∃ f, (Data.headed entries).fields? dialect names = some f ∧
      ∀ name ∈ names, f.get? name = entries.lookup name := by
  have hknown : ((entries.filter fun e => names.contains e.1).map (·.1)).Nodup :=
    h.sublist (List.filter_sublist.map _)
  refine ⟨⟨entries.filter fun e => names.contains e.1, true⟩, ?_, fun name hname => ?_⟩
  · simp only [fields?, entries?, Option.bind_some]
    rw [if_pos hknown]
  · exact lookup_filter (List.contains_iff_mem.2 hname) entries

end Data

end PackageVerification
