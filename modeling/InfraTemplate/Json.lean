import InfraTemplate.Number

namespace InfraTemplate

/-- A JSON value. The fields of an object have distinct names in increasing order. -/
inductive Json where
  | null
  | bool (b : Bool)
  | number (n : Number)
  | string (s : String)
  | array (items : List Json)
  | object (fields : List (String × Json))
deriving Repr, Inhabited

namespace Json

def insertField (name : String) (value : Json) : List (String × Json) → List (String × Json)
  | [] => [(name, value)]
  | (k, v) :: rest =>
    if name < k then (name, value) :: (k, v) :: rest
    else if name = k then (name, value) :: rest
    else (k, v) :: insertField name value rest

def ofFields (fields : List (String × Json)) : Json :=
  .object (fields.foldl (fun acc (k, v) => insertField k v acc) [])

def field? (name : String) : Json → Option Json
  | .object fields => fields.lookup name
  | _ => none

end Json

end InfraTemplate
