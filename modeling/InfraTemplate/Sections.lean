import InfraTemplate.Env
import InfraTemplate.Node.Equality

namespace InfraTemplate

abbrev Sections := Entries Node

def globalMarker : String := "$global"

namespace Sections

def hoisted : List String :=
  ["Parameters", "Metadata", "Mappings", "Conditions", "Transform", "Outputs"]

def transformSection : String := "Transform"

def addMissing (items : List Node) (more : List Node) : List Node :=
  more.foldl (fun acc x => if Node.isIn x acc then acc else acc ++ [x]) items

def takeGlobal (m : Mapping) : Mapping × Bool :=
  (Entries.remove globalMarker m, (Entries.find? globalMarker m).any Node.isTruthy)

def isGlobal : Node → Bool
  | .map m => (takeGlobal m).2
  | _ => false

def unmarked : Node → Node
  | .map m => .map (takeGlobal m).1
  | n => n

def emittedName (naming : NameScope) (name : String) (entry : Node) : String :=
  if isGlobal entry then name else naming.qualify name

def addEntries (naming : NameScope) (target entries : Mapping) : Mapping :=
  entries.foldl (fun acc (name, entry) =>
    Entries.put (emittedName naming name entry) (unmarked entry) acc) target

def transforms : Node → List Node
  | .seq items => items
  | .null => []
  | n => [n]

def fold (s : Sections) (heading : String) (value : Node) (naming : NameScope) :
    Except Defect Sections :=
  if heading = transformSection then
    match (Entries.find? heading s).getD (.seq []) with
    | .seq items => .ok (Entries.put heading (.seq (addMissing items (transforms value))) s)
    | _ => .ok s
  else
    match value with
    | .null => .ok s
    | .map entries =>
      match (Entries.find? heading s).getD (.map []) with
      | .map target => .ok (Entries.put heading (.map (addEntries naming target entries)) s)
      | _ => .ok s
    | n => .error (.sectionNotMap heading n.kind)

end Sections

end InfraTemplate
