/-!
JSON values. Whole numbers and others are told apart.
-/
namespace CodeAppraisal

inductive Json (α : Type) where
  | null
  | bool (value : Bool)
  | whole (value : Int)
  | real (value : α)
  | string (value : String)
  | array (items : List (Json α))
  | object (fields : List (String × Json α))
  deriving Repr

namespace Json

variable {α : Type}

def field? (fields : List (String × Json α)) (name : String) : Option (Json α) :=
  fields.lookup name

def insertField (name : String) (value : Json α) :
    List (String × Json α) → List (String × Json α)
  | [] => [(name, value)]
  | (other, old) :: rest =>
    if name < other then (name, value) :: (other, old) :: rest
    else if name = other then (name, value) :: rest
    else (other, old) :: insertField name value rest

end Json

end CodeAppraisal
