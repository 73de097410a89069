/-!
The files, variables and input that a run works with. A program is written against the operations,
so that it runs in a real directory and over a value in the same way.
-/
namespace CodeAppraisal

inductive Entry where
  | missing
  | directory
  | file (contents : ByteArray)

namespace Entry

def contents? : Entry → Option ByteArray
  | .file contents => some contents
  | _ => none

def exists? : Entry → Bool
  | .missing => false
  | _ => true

end Entry

structure Surroundings (m : Type → Type) where
  read : String → m Entry
  write : String → String → m Bool
  lookup : String → Option String
  input : m ByteArray

def pathParts (path : String) : List String :=
  (path.splitOn "/").filter fun part => part != "" && part != "."

def fileName? (path : String) : Option String :=
  match (pathParts path).getLast? with
  | some name => if name == ".." then none else some name
  | none => none

def resolvePath (path : String) : Option (List String) :=
  if path.startsWith "/" || path.isEmpty then none
  else (pathParts path).foldlM (fun (done : List String) part =>
    if part == ".." then if done.isEmpty then none else some done.dropLast
    else some (done ++ [part])) []

def namesDirectory (path : String) : Bool := path.endsWith "/" || path.endsWith "/."

structure Workspace where
  files : List (List String × ByteArray)
  input : ByteArray

namespace Workspace

def entry (w : Workspace) (path : String) : Entry :=
  match resolvePath path with
  | none => .missing
  | some parts =>
    match w.files.lookup parts with
    | some contents => if namesDirectory path then .missing else .file contents
    | none =>
      if w.files.any fun (other, _) => parts.isPrefixOf other then .directory else .missing

def write? (w : Workspace) (path contents : String) : Option Workspace :=
  match w.entry path, resolvePath path with
  | .directory, _ | _, none => none
  | _, some parts =>
    some { w with files := (parts, contents.toUTF8) :: w.files.filter (·.1 != parts) }

def surroundings (environment : List (String × String)) : Surroundings (StateM Workspace) where
  read path := return (← get).entry path
  write path contents := do
    match (← get).write? path contents with
    | some w => do
      set w
      return true
    | none => return false
  lookup name := environment.lookup name
  input := return (← get).input

end Workspace

end CodeAppraisal
