import SessionKeeper.Datum

/-!
# The tree of a document

A document builds its tables in the order of its lines. A header names a table once; a table that
only lies on the way of a header may be named later, and then moves behind the others; a table that
a dotted key makes belongs to dotted keys. A header between double brackets adds an item to a list
of tables, and paths lead through the last item of such a list. Every name keeps its place in the
text, and so does every header.
-/

namespace SessionKeeper.Toml

/-- A part of a key. -/
structure Name where
  text : String
  /-- The number of characters of the document from it on. -/
  left : Nat
  deriving DecidableEq, Repr

/-- What has made a table. -/
inductive Origin
  /-- A header that names it. -/
  | header
  /-- A header that leads through it. -/
  | passing
  /-- A key with dots. -/
  | dotted
  deriving DecidableEq, Repr

inductive Node
  | value (d : Datum)
  /-- A table, with the number of characters left from its header on. -/
  | table (origin : Origin) (left : Option Nat) (entries : List (Name × Node))
  /-- A list of tables, each with the number of characters left from its header on. -/
  | tables (items : List (Nat × List (Name × Node)))

abbrev Entries := List (Name × Node)

/-- What stands under a name. -/
def find (name : Name) (es : Entries) : Option Node :=
  (es.find? fun e => e.1.text == name.text).map (·.2)

/-- Entries with another node under a name that is among them; the name stays where it was. -/
def replace (name : Name) (n : Node) (es : Entries) : Entries :=
  es.map fun e => if e.1.text == name.text then (e.1, n) else e

/-- Changes the entries of the table that a path leads to. Tables that are missing on the way are
made; a dotted key may not lead through a table that a header names. -/
def within (make : Origin) (f : Origin → Entries → Option Entries) (origin : Origin) :
    List Name → Entries → Option Entries
  | [], es => f origin es
  | name :: path, es =>
    match find name es with
    | none => (within make f make path []).map fun inner => es ++ [(name, .table make none inner)]
    | some (.value _) => none
    | some (.table o left inner) =>
      if make = .dotted ∧ o = .header then none
      else (within make f o path inner).map fun inner => replace name (.table o left inner) es
    | some (.tables items) =>
      match items.getLast? with
      | none => none
      | some (left, last) =>
        (within make f .header path last).map fun last =>
          replace name (.tables (items.dropLast ++ [(left, last)])) es

/-- Adds a value under a key with dots to a table. -/
def put (path : List Name) (name : Name) (d : Datum) (es : Entries) : Option Entries :=
  within .dotted
    (fun o es =>
      if (path ≠ [] ∧ o ≠ .dotted) ∨ (find name es).isSome then none
      else some (es ++ [(name, .value d)]))
    .header path es

/-- Adds a value under a key with dots to the table that the last header named. -/
def putAt (here path : List Name) (name : Name) (d : Datum) (es : Entries) : Option Entries :=
  within .passing (fun _ es => put path name d es) .header here es

/-- Begins the table that a header names. -/
def openTable (path : List Name) (name : Name) (left : Nat) (es : Entries) : Option Entries :=
  within .passing
    (fun _ es =>
      match find name es with
      | none => some (es ++ [(name, .table .header (some left) [])])
      | some (.table .passing _ inner) =>
        some (es.filter (·.1.text != name.text) ++ [(name, .table .header (some left) inner)])
      | some _ => none)
    .header path es

/-- Begins an item of the list of tables that a header names. -/
def openItem (path : List Name) (name : Name) (left : Nat) (es : Entries) : Option Entries :=
  within .passing
    (fun _ es =>
      match find name es with
      | none => some (es ++ [(name, .tables [(left, [])])])
      | some (.tables items) => some (replace name (.tables (items ++ [(left, [])])) es)
      | some _ => none)
    .header path es

mutual

/-- A node as a datum. The list of tables is where its first item is. -/
def Node.datum : Node → Datum
  | .value d => d
  | .table _ (some left) entries => .placed left (.table (datums entries))
  | .table _ none entries => .table (datums entries)
  | .tables [] => .series []
  | .tables ((left, entries) :: items) =>
    .placed left (.series (.placed left (.table (datums entries)) :: datumItems items))

/-- The entries of a table as data. -/
def datums : List (Name × Node) → List (String × Datum)
  | [] => []
  | (name, n) :: r => (name.text, .keyed name.left n.datum) :: datums r

def datumItems : List (Nat × List (Name × Node)) → List Datum
  | [] => []
  | (left, es) :: r => .placed left (.table (datums es)) :: datumItems r

end

end SessionKeeper.Toml
