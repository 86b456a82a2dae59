import InfraTemplate.Import
import InfraTemplate.Json.Printer
import InfraTemplate.Node.Rendering

namespace InfraTemplate

namespace Record

def fields (r : Record) : Entries String :=
  [("key", r.key), ("from", r.importer), ("imported", r.imported), ("digest", r.digest)]

def toYaml (r : Record) : Yaml.Value := .ofEntries (r.fields.map fun (k, v) => (k, .string v))

def jsonField (field : String × String) : String := Json.quote field.1 ++ ": " ++ Json.quote field.2

def listText (rs : List Record) : Format → String
  | .yaml => Yaml.print (.sequence (rs.map toYaml))
  | .json =>
    Json.block "[" "]" 0 (rs.map fun r => Json.block "\x7b" "\x7d" 1 (r.fields.map jsonField)) ++ "\n"

end Record

end InfraTemplate
