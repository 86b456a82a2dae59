import InfraTemplate.Assembly
import InfraTemplate.Loading

namespace InfraTemplate

structure Options where
  omitMetadata : Bool
  limit : Nat
deriving DecidableEq, Repr

def Options.standard : Options := ⟨false, 50⟩

def Options.make (omitMetadata : Bool) (limit : Nat) : Options := ⟨omitMetadata, max limit 1⟩

structure Transformed where
  document : Node
  records : List Record

structure Setting where
  options : Options
  resolver : Resolver
  host : String
  evaluator : Evaluator

namespace Setting

def loader (c : Setting) : Loader := ⟨c.evaluator, c.resolver, c.options.limit⟩

def transformMap (c : Setting) (m : Mapping) (location : String) : Load Transformed := do
  let d ← c.loader.load m location
  let body ← Load.ofEval
    (c.evaluator.map d.body Path.root (Env.root d.scope d.location c.options.limit))
  let progress ← get
  let document := Assembly.finalize body (Assembly.isInfrastructure d.body) progress.sections
    c.host progress.records c.options.omitMetadata
  return ⟨document, progress.records⟩

def transform (c : Setting) (root : Node) (location : String) : Load Transformed := do
  match root with
  | .map m => c.transformMap m location
  | n =>
    let document ← Load.ofEval
      (c.evaluator.node n Path.root (Env.root .empty location c.options.limit))
    return ⟨document, []⟩

def transformText (c : Setting) (text location : String) : Load Transformed := do
  c.transform (← Load.ofExcept (Node.parse text location)) location

def imports (c : Setting) (text location : String) : Load (List Record) := do
  match ← Load.ofExcept (Node.parse text location) with
  | .map m =>
    let _ ← c.loader.load m location
    return (← get).records
  | _ => return []

end Setting

namespace Load

def outcome {α : Type} (m : Load α) : Option (Except Error α) := (m.run Progress.start).map (·.1)

end Load

end InfraTemplate
