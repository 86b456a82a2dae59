import InfraTemplate.Node.Json
import InfraTemplate.Yaml.Printer

namespace InfraTemplate

def Yaml.Value.ofEntries (entries : Entries Yaml.Value) : Yaml.Value :=
  .mapping (entries.map fun (k, v) => (.string k, v))

def Yaml.Value.builder : Builder Yaml.Value := ⟨.string, .sequence, .ofEntries⟩

inductive Format where
  | yaml
  | json
deriving DecidableEq, Repr

namespace Node

def yamlAlgebra : Algebra Yaml.Value where
  null := .null
  bool := .bool
  number := .number
  string := .string
  seq := .sequence
  map := .ofEntries
  tag t := .tagged t.name (t.payload Yaml.Value.builder)

def toYaml (n : Node) : Yaml.Value := n.fold yamlAlgebra

def render (n : Node) : Format → String
  | .yaml => Yaml.print n.toYaml
  | .json => n.toJson.pretty ++ "\n"

end Node

end InfraTemplate
