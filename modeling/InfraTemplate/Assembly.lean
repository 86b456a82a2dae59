import InfraTemplate.Evaluation.Resource
import InfraTemplate.Import

namespace InfraTemplate

namespace Assembly

def formatVersion : String := "2010-09-09"

def metadataKey : String := "Metadata"

def renderKey : String := "StencilRender"

def isInfrastructure (body : Mapping) : Bool :=
  Entries.has Evaluator.formatVersionKey body || Entries.has Evaluator.resourcesKey body

def withFormatVersion (body : Mapping) : Mapping :=
  if Entries.has Evaluator.formatVersionKey body then body
  else (Evaluator.formatVersionKey, .string formatVersion) :: body

def joined (existing : Option Node) (added : Node) : Node :=
  match existing, added with
  | some (.map old), .map new => .map (Entries.putAll old new)
  | some (.seq old), .seq new => .seq (Sections.addMissing old new)
  | some (.string s), .seq new =>
    .seq (if Node.isIn (.string s) new then new else .string s :: new)
  | _, added => added

def withSections (body : Mapping) (s : Sections) : Mapping :=
  s.foldl (fun acc (name, n) => Entries.put name (joined (Entries.find? name acc) n) acc) body

def recordNode (r : Record) : Node :=
  .map [("key", .string r.key), ("from", .string r.importer), ("imported", .string r.imported),
    ("sha256", .string r.digest)]

def renderNode (host : String) (records : List Record) : Node :=
  .map [("Host", .string host), ("Imports", .seq (records.map recordNode))]

def withMetadata (body : Mapping) (host : String) (records : List Record) : Mapping :=
  match (Entries.find? metadataKey body).getD (.map []) with
  | .map m => Entries.put metadataKey (.map (Entries.put renderKey (renderNode host records) m)) body
  | _ => body

def finalize (body : Mapping) (infrastructure : Bool) (s : Sections) (host : String)
    (records : List Record) (omitMetadata : Bool) : Node :=
  let full :=
    if infrastructure then
      let sections := withSections (withFormatVersion body) s
      if omitMetadata then sections else withMetadata sections host records
    else body
  (Node.map full).stripBookkeeping

end Assembly

end InfraTemplate
