import InfraTemplate.Entries
import InfraTemplate.FileTree
import InfraTemplate.Json

namespace InfraTemplate

structure GitOutcome where
  status : Nat
  stdout : ByteArray
  stderr : ByteArray

structure ParameterStore where
  values : Entries String
  listings : Entries (List (String × String))

structure Stack where
  outputs : Entries String
  parameters : Entries String
  tags : Entries String
  resources : Entries Json
  raw : Json

structure StackInspector where
  deployed : Entries Stack
  exports : Entries String

/-- Everything that imports can reach. A client that is absent is not configured. -/
structure World where
  files : String → Except PathFault FileTree
  env : Entries String
  /-- What git answers, by its arguments joined by spaces. -/
  git? : Option (Entries GitOutcome)
  /-- Objects by bucket, slash and key. -/
  objects? : Option (Entries ByteArray)
  parameters? : Option ParameterStore
  stacks? : Option StackInspector
  pages? : Option (Entries ByteArray)
  seed : Nat

namespace World

def empty : World := ⟨fun _ => .error .missing, [], none, none, none, none, none, 0⟩

def hostFile : String := "/etc/hostname"

def fileHost? (w : World) : Option String :=
  match w.files hostFile with
  | .ok (.file content) => (String.fromUTF8? content).map Text.trimText
  | _ => none

def host (w : World) : String :=
  let names := [Entries.find? "HOSTNAME" w.env, w.fileHost?].filterMap id
  (names.find? fun name => !name.isEmpty).getD "unknown"

end World

end InfraTemplate
