import InfraTemplate.Json.Printer
import InfraTemplate.Node

namespace InfraTemplate

def Json.builder : Builder Json := ⟨.string, .array, Json.ofFields⟩

namespace Node

def jsonNumber (n : Number) : Json :=
  match n.handedOn with
  | .float (.finite s m e) => .number (.float (.finite s m e))
  | .float _ => .null
  | .int i => .number (.int i)

def jsonAlgebra : Algebra Json where
  null := .null
  bool := .bool
  number := jsonNumber
  string := .string
  seq := .array
  map := Json.ofFields
  tag t := .object [("!" ++ t.name, t.payload Json.builder)]

def toJson (n : Node) : Json := n.fold jsonAlgebra

mutual

def ofJson : Json → Node
  | .null => .null
  | .bool b => .bool b
  | .number n => .number n.handedOn
  | .string s => .string s
  | .array items => .seq (itemsOfJson items)
  | .object fields => .map (fieldsOfJson fields)

def itemsOfJson : List Json → List Node
  | [] => []
  | x :: xs => ofJson x :: itemsOfJson xs

def fieldsOfJson : List (String × Json) → Mapping
  | [] => []
  | (k, x) :: rest => (k, ofJson x) :: fieldsOfJson rest

end

def text : Node → String
  | null => "null"
  | bool b => if b then "true" else "false"
  | number n => n.text
  | string s => s
  | n => n.toJson.compact

end Node

end InfraTemplate
