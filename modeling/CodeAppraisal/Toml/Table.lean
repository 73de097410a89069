/-!
TOML values, and how the statements of a document make up its table. A table is defined once: by its
header, by keys with dots, or by the headers of tables within it, after which one header of its own
may still come.
-/
namespace CodeAppraisal.Toml

inductive Value where
  | string (value : String)
  | integer (value : Int)
  | real (value : Float)
  | boolean (value : Bool)
  | moment (text : String)
  | array (items : List Value)
  | table (entries : List (String × Value))

inductive Origin where
  | header
  | within
  | dottedKey
  deriving DecidableEq, Repr

inductive Node where
  | value (v : Value)
  | table (origin : Origin) (entries : List (String × Node))
  | tables (elements : List (List (String × Node)))

abbrev Entries := List (String × Node)

def setEntry (key : String) (n : Node) : Entries → Entries
  | [] => [(key, n)]
  | (other, old) :: rest =>
    if other = key then (other, n) :: rest else (other, old) :: setEntry key n rest

/--
A change to the table at a path, where tables that are missing are made on the way. Keys with dots
do not reach into a table with a header.
-/
def change (dotted : Bool) (f : Origin → Entries → Option Entries) :
    List String → Origin → Entries → Option Entries
  | [], origin, entries => f origin entries
  | key :: path, _, entries =>
    match entries.lookup key with
    | none => do
      let origin := if dotted then .dottedKey else .within
      return setEntry key (.table origin (← change dotted f path origin [])) entries
    | some (.table origin inner) =>
      if dotted && origin == .header then none
      else do return setEntry key (.table origin (← change dotted f path origin inner)) entries
    | some (.tables (last :: earlier)) => do
      return setEntry key (.tables ((← change dotted f path .header last) :: earlier)) entries
    | some (.tables []) | some (.value _) => none

inductive Statement where
  | header (path : List String)
  | repeatedHeader (path : List String)
  | assignment (path : List String) (value : Value)

def splitPath (path : List String) : List String × String := (path.dropLast, path.getLastD "")

def addHeader (key : String) (entries : Entries) : Option Entries :=
  match entries.lookup key with
  | none => some (setEntry key (.table .header []) entries)
  | some (.table .within inner) => some (setEntry key (.table .header inner) entries)
  | some _ => none

def addRepeated (key : String) (entries : Entries) : Option Entries :=
  match entries.lookup key with
  | none => some (setEntry key (.tables [[]]) entries)
  | some (.tables elements) => some (setEntry key (.tables ([] :: elements)) entries)
  | some _ => none

def assign (path : List String) (v : Value) (entries : Entries) : Option Entries :=
  let (front, key) := splitPath path
  change true (fun origin entries =>
    if (origin == .dottedKey) == front.isEmpty || (entries.lookup key).isSome then none
    else some (setEntry key (.value v) entries)) front .header entries

structure Progress where
  entries : Entries
  current : List String

def Progress.step (p : Progress) : Statement → Option Progress
  | .header path => do
    let (front, key) := splitPath path
    return ⟨← change false (fun _ => addHeader key) front .header p.entries, path⟩
  | .repeatedHeader path => do
    let (front, key) := splitPath path
    return ⟨← change false (fun _ => addRepeated key) front .header p.entries, path⟩
  | .assignment path v => do
    let entries ← change false (fun _ => assign path v) p.current .header p.entries
    return { p with entries }

mutual

def Node.toValue : Node → Value
  | .value v => v
  | .table _ entries => .table (entryValues entries)
  | .tables elements => .array (elementValues elements).reverse

def entryValues : List (String × Node) → List (String × Value)
  | [] => []
  | (key, n) :: rest => (key, n.toValue) :: entryValues rest

def elementValues : List (List (String × Node)) → List Value
  | [] => []
  | entries :: rest => .table (entryValues entries) :: elementValues rest

end

def ofStatements (statements : List Statement) : Option (List (String × Value)) := do
  let p ← statements.foldlM Progress.step ⟨[], []⟩
  return entryValues p.entries

def ofAssignments (pairs : List (List String × Value)) : Option Value := do
  let entries ← pairs.foldlM (fun entries (path, v) => assign path v entries) []
  return .table (entryValues entries)

end CodeAppraisal.Toml
