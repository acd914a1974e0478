import PackageVerification.Data.Basic
import PackageVerification.Toml.Lexeme

/-!
# Tables of TOML

A document is put together line by line: a heading opens a table, and an assignment puts a value
into the table that is open. A table comes to be in one of three ways, and that decides what later
lines may do to it: a table is opened by a heading once, a value is assigned once, and a dotted key
reaches only into tables that no heading has opened.
-/

namespace PackageVerification.Toml

inductive Origin
  /-- By a heading of its own. -/
  | heading
  /-- On the way to another table. -/
  | implied
  /-- By a dotted key. -/
  | dotted
  deriving DecidableEq, Repr

inductive Node
  | value (data : Data)
  | table (origin : Origin) (entries : List (String × Node))
  /-- An array of tables, each opened by a heading. -/
  | tables (elements : List (List (String × Node)))

abbrev Entries := List (String × Node)

def put (name : String) (node : Node) : Entries → Entries
  | [] => [(name, node)]
  | (n, x) :: es => if n = name then (n, node) :: es else (n, x) :: put name node es

/-! ## 1. Reaching a table -/

/-- Changes the table at the end of a path. Tables that are missing on the way come to be as
`created`. The latest of an array of tables stands for the array. -/
def descend (created : Origin) (change : Origin → Entries → Option (Origin × Entries)) :
    List String → Origin → Entries → Option (Origin × Entries)
  | [], origin, entries => change origin entries
  | name :: path, origin, entries => do
    let node ←
      match entries.lookup name with
      | none => (descend created change path created []).map fun (o, es) => Node.table o es
      | some (.table o es) =>
        if created = .dotted ∧ o = .heading then none
        else (descend created change path o es).map fun (o, es) => Node.table o es
      | some (.tables elements) =>
        match elements.getLast? with
        | none => none
        | some last =>
          (descend created change path .heading last).map fun (_, es) =>
            Node.tables (elements.dropLast ++ [es])
      | some (.value _) => none
    some (origin, put name node entries)

/-! ## 2. Lines -/

/-- Puts a value under a key. A dotted key ends in a table that came to be by dotted keys. -/
def assign (key : Key) (data : Data) (origin : Origin) (entries : Entries) :
    Option (Origin × Entries) :=
  descend .dotted
    (fun origin entries =>
      if (!key.parents.isEmpty && origin != .dotted) || (entries.lookup key.name).isSome then none
      else some (origin, put key.name (.value data) entries))
    key.parents origin entries

/-- Opens a table by a heading, which may have been implied before. -/
def openTable (key : Key) (entries : Entries) : Option Entries :=
  (descend .implied
    (fun origin entries =>
      match entries.lookup key.name with
      | none => some (origin, put key.name (.table .heading []) entries)
      | some (.table .implied es) => some (origin, put key.name (.table .heading es) entries)
      | some _ => none)
    key.parents .heading entries).map (·.2)

def openElement (key : Key) (entries : Entries) : Option Entries :=
  (descend .implied
    (fun origin entries =>
      match entries.lookup key.name with
      | none => some (origin, put key.name (.tables [[]]) entries)
      | some (.tables elements) => some (origin, put key.name (.tables (elements ++ [[]])) entries)
      | some _ => none)
    key.parents .heading entries).map (·.2)

inductive Line
  | assignment (key : Key) (data : Data)
  | tableHeading (key : Key)
  | elementHeading (key : Key)

structure Draft where
  entries : Entries
  /-- The path of the table that is open. -/
  openPath : List String

namespace Draft

def empty : Draft := ⟨[], []⟩

def add (d : Draft) : Line → Option Draft
  | .assignment key data =>
    (descend .implied (assign key data) d.openPath .heading d.entries).map fun (_, es) =>
      { d with entries := es }
  | .tableHeading key =>
    (openTable key d.entries).map fun es => ⟨es, key.parents ++ [key.name]⟩
  | .elementHeading key =>
    (openElement key d.entries).map fun es => ⟨es, key.parents ++ [key.name]⟩

end Draft

/-! ## 3. Values of tables -/

mutual

def Node.toData (record : List (String × Data) → Data) : Node → Data
  | .value data => data
  | .table _ entries => record (entriesData record entries)
  | .tables elements => .arr (elementsData record elements)

def entriesData (record : List (String × Data) → Data) : Entries → List (String × Data)
  | [] => []
  | (name, node) :: es => (name, node.toData record) :: entriesData record es

def elementsData (record : List (String × Data) → Data) : List Entries → List Data
  | [] => []
  | es :: rest => record (entriesData record es) :: elementsData record rest

end

def inlineTable? (assignments : List (Key × Data)) : Option Data :=
  let put := fun (table : Origin × Entries) (a : Key × Data) => assign a.1 a.2 table.1 table.2
  (assignments.foldlM put (.heading, [])).map fun (_, es) => .obj (entriesData .obj es)

def document? (lines : List Line) : Option Data :=
  (lines.foldlM Draft.add Draft.empty).map fun d => .headed (entriesData .headed d.entries)

end PackageVerification.Toml
