import InfraTemplate.Error
import InfraTemplate.Json.Parser
import InfraTemplate.Node.Json
import InfraTemplate.Text.Blank
import InfraTemplate.Yaml.Document

namespace InfraTemplate

abbrev Checked (α : Type) := Except Defect α

namespace Payload

def asMap : Node → Checked Mapping
  | .map entries => .ok entries
  | n => .error (.notMap n.kind)

def asPair : Node → Checked (Node × Node)
  | .seq [x, y] => .ok (x, y)
  | .seq items => .error (.pairLength items.length)
  | n => .error (.notPair n.kind)

def require (key : String) (m : Mapping) : Checked Node :=
  match Entries.find? key m with
  | some n => .ok n
  | none => .error (.missingKey key)

def varName? (m : Mapping) : Checked (Option String) :=
  match Entries.find? "var" m with
  | none => .ok none
  | some (.string s) => .ok (some s)
  | some n => .error (.variableNotString n.kind)

def asExpand (n : Node) : Checked (Tag Node) := do
  let m ← asMap n
  match Entries.find? "template" m, Entries.find? "params" m with
  | some template, some params =>
    if m.length = 2 then .ok (.expand template params) else .error .expandKeys
  | _, _ => .error .expandKeys

def asChoice (n : Node) : Checked (Tag Node) := do
  let m ← asMap n
  let test ← require "test" m
  let consequent ← require "then" m
  return .choose test consequent (Entries.find? "else" m)

def asLet (n : Node) : Checked (Tag Node) := do
  let m ← asMap n
  let body ← require Tag.bodyKey m
  return .letIn (Entries.remove Tag.bodyKey m) body

def asLoop (kind : LoopKind) (n : Node) : Checked (Tag Node) := do
  let m ← asMap n
  let items ← require "items" m
  let template ← require "template" m
  let v ← varName? m
  let filter := Entries.find? "filter" m
  if filter.isSome && kind != .map then .error .filterOutsideMap
  else .ok (.loop kind ⟨items, template, v, filter⟩)

def asGrouping (n : Node) : Checked (Tag Node) := do
  let m ← asMap n
  let items ← require "items" m
  let key ← require "key" m
  let v ← varName? m
  return .groupBy ⟨items, key, v, Entries.find? "template" m⟩

def asLookup : Node → Checked (Tag Node)
  | .string s => .ok (.lookup (Text.trimText s))
  | n => .error (.notLookupPath n.kind)

end Payload

namespace Tag

def ofPayload (name : String) (n : Node) : Checked (Tag Node) :=
  match name with
  | "$" | "$include" => Payload.asLookup n
  | "$expand" => Payload.asExpand n
  | "$escape" => .ok (.apply .escape n)
  | "$string" => .ok (.apply .toString n)
  | "$parseYaml" => .ok (.apply .parseYaml n)
  | "$if" => Payload.asChoice n
  | "$eq" => (Payload.asPair n).map fun (x, y) => .pair .equal x y
  | "$not" => .ok (.apply .not n)
  | "$let" => Payload.asLet n
  | "$map" => Payload.asLoop .map n
  | "$mapValues" => Payload.asLoop .mapValues n
  | "$concatMap" => Payload.asLoop .concatMap n
  | "$mergeMap" => Payload.asLoop .mergeMap n
  | "$mapListToHash" => Payload.asLoop .mapListToHash n
  | "$groupBy" => Payload.asGrouping n
  | "$concat" => .ok (.apply .concat n)
  | "$merge" => .ok (.apply .merge n)
  | "$fromPairs" => .ok (.apply .fromPairs n)
  | "$split" => (Payload.asPair n).map fun (x, y) => .pair .split x y
  | "Ref" => .ok (.apply .ref n)
  | "GetAtt" => .ok (.apply .getAtt n)
  | "Sub" => .ok (.apply .sub n)
  | name =>
    match Intrinsic.ofName? name with
    | some i => .ok (.apply (.intrinsic i) n)
    | none => .error .unknownTag

end Tag

def malformedAt (construct path : String) (defect : Defect) : Error :=
  .malformed construct path defect []

namespace Node

def keyText : Yaml.Value → Option String
  | .string s => some s
  | .number n => some n.text
  | .bool b => some (if b then "true" else "false")
  | .null => some "null"
  | _ => none

mutual

def ofYaml (path : String) : Yaml.Value → Except Error Node
  | .null => .ok .null
  | .bool b => .ok (.bool b)
  | .number n => .ok (.number n)
  | .string s => .ok (.string s)
  | .sequence items => (itemsOfYaml path 0 items).map .seq
  | .mapping entries => (entriesOfYaml path [] entries).map .map
  | .tagged name content => do
    let n ← ofYaml path content
    match Tag.ofPayload name n with
    | .ok t => .ok (.tag t)
    | .error d => .error (malformedAt ("!" ++ name) path d)

def itemsOfYaml (path : String) (i : Nat) : List Yaml.Value → Except Error (List Node)
  | [] => .ok []
  | x :: xs => do
    let y ← ofYaml (path ++ "." ++ toString i) x
    let ys ← itemsOfYaml path (i + 1) xs
    return y :: ys

def entriesOfYaml (path : String) (done : Mapping) :
    List (Yaml.Value × Yaml.Value) → Except Error Mapping
  | [] => .ok done
  | (k, x) :: rest =>
    match keyText k with
    | some key => do
      let y ← ofYaml (path ++ "." ++ key) x
      entriesOfYaml path (Entries.put key y done) rest
    | none => .error (malformedAt "key" path .keyNotScalar)

end

def parse (text location : String) : Except Error Node :=
  match Yaml.parse? text with
  | some v => ofYaml "Root" v
  | none => .error (.unreadable location "not a YAML document")

def parseJson (raw : ByteArray) (location : String) : Except Error Node :=
  match (String.fromUTF8? raw).bind Json.parse? with
  | some j => .ok (ofJson j)
  | none => .error (.unreadable location "not a JSON document")

end Node

end InfraTemplate
