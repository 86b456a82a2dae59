import InfraTemplate.Bookkeeping
import InfraTemplate.Error

namespace InfraTemplate

namespace Param

private def lowerFirst (key : String) : String :=
  match key.toList with
  | c :: cs => String.ofList (c.toLower :: cs)
  | [] => ""

def field? (m : Mapping) (key : String) : Option Node :=
  match Entries.find? key m with
  | some n => some n
  | none => Entries.find? (lowerFirst key) m

def text? (m : Mapping) (key : String) : Except Defect (Option String) :=
  match field? m key with
  | none => .ok none
  | some (.string s) => .ok (some s)
  | some _ => .error (.paramField key)

def ofNode : Node → Except Defect (Param Node)
  | .map m =>
    match field? m "Name" with
    | some (.string name) => do
      let allowedValues? ←
        match field? m "AllowedValues" with
        | none => pure none
        | some (.seq values) => pure (some values)
        | some _ => throw .allowedValues
      let type? ← text? m "Type"
      let allowedPattern? ← text? m "AllowedPattern"
      return ⟨name, field? m "Default", type?, field? m "Schema", allowedValues?, allowedPattern?⟩
    | _ => .error .paramName
  | _ => .error .paramNotMap

def listOfNodes (location : String) (i : Nat) : List Node → Except Error (List (Param Node))
  | [] => .ok []
  | n :: ns =>
    match ofNode n with
    | .ok p => do
      let ps ← listOfNodes location (i + 1) ns
      return p :: ps
    | .error d =>
      .error (.malformed paramsKey (location ++ "." ++ paramsKey ++ "." ++ toString i) d [])

def declarations (declared : Option Node) (location : String) : Except Error (List (Param Node)) :=
  match declared with
  | none | some .null => .ok []
  | some (.seq items) => listOfNodes location 0 items
  | some n => .error (.malformed paramsKey location (.notSequence n.kind) [])

end Param

end InfraTemplate
