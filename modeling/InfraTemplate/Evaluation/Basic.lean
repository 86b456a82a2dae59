import InfraTemplate.Interpolation
import InfraTemplate.Sections

namespace InfraTemplate

/-- A computation that may add sections to the document and may fail with an error; `none` is a
computation that needs more steps than it may take. -/
abbrev Eval := ExceptT Error (StateT Sections Option)

namespace Eval

variable {α : Type}

def unfinished : Eval α := ExceptT.mk fun _ => none

def ofExcept (r : Except Error α) : Eval α := ExceptT.mk (pure r)

def outcome (m : Eval α) (s : Sections) : Option (Except Error α × Sections) := m.run s

end Eval

/-- How nodes, references and resources are evaluated inside the constructs that contain them. -/
structure Evaluator where
  node : Node → Path → Env → Eval Node
  reference : String → Path → Env → Eval Node
  resources : Mapping → Path → Env → Eval Mapping

def malformed {α : Type} (construct : String) (path : Path) (env : Env) (d : Defect) : Eval α :=
  throw (.malformed ("!" ++ construct) path d env.stack)

namespace Evaluator

variable (ev : Evaluator)

def items (xs : List Node) (path : Path) (env : Env) : Eval (List Node) :=
  xs.zipIdx.mapM fun (x, i) => ev.node x (path.item i) env

def interpolated (s : String) (path : Path) (env : Env) : Eval String :=
  if Interpolation.hasPlaceholders s then
    Interpolation.interpolate path (fun name => ev.reference name path env) s
  else return s

end Evaluator

end InfraTemplate
