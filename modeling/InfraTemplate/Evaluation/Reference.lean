import InfraTemplate.Evaluation.Basic
import InfraTemplate.LookupPath

namespace InfraTemplate

structure Located where
  node : Node
  env : Env
  evaluated : Bool

namespace Located

def ofBound (env : Env) : Bound → Located
  | .value n => ⟨n, env, true⟩
  | .raw n scope => ⟨n, env.withScope scope, false⟩

def forced (ev : Evaluator) (at_ : Located) (path : Path) : Eval Located := do
  match at_.node, at_.evaluated with
  | .tag _, false => return { at_ with node := ← ev.node at_.node path at_.env, evaluated := true }
  | _, _ => return at_

def entered (at_ : Located) (path : Path) : Eval Located := do
  match at_.node with
  | .document d =>
    let env ← Eval.ofExcept (at_.env.enterDocument d path)
    return { at_ with node := .map d.body, env := env }
  | _ => return at_

def child? (at_ : Located) (key : String) : Option Located :=
  match at_.node with
  | .map entries => (Entries.find? key entries).map fun n => { at_ with node := n }
  | .seq items =>
    ((Text.index? key.toList).bind fun i => items[i]?).map fun n => { at_ with node := n }
  | _ => none

def descend (ev : Evaluator) (at_ : Located) (key : String) (path : Path) :
    Eval (Option Located) := do
  let at_ ← at_.forced ev path
  let at_ ← at_.entered path
  return at_.child? key

end Located

namespace Evaluator

variable (ev : Evaluator)

def segmentKey (path : Path) (env : Env) : Segment → Eval String
  | .name key => return String.ofList key
  | .dynamic inner => return (← ev.reference (String.ofList inner) path env).text

def walk (expr : String) (path : Path) (env : Env) (at_ : Located) : List Segment → Eval Located
  | [] => return at_
  | s :: rest => do
    let key ← ev.segmentKey path env s
    match ← at_.descend ev key path with
    | some next => walk expr path env next rest
    | none => throw (.undefined expr path env.stack)

def locate (expr : String) (path : Path) (env : Env) : Eval Located :=
  match LookupPath.parse? expr with
  | some (.name head :: rest) =>
    match env.scope.find? (String.ofList head) with
    | some b => ev.walk expr path env (.ofBound env b) rest
    | none => throw (.undefined expr path env.stack)
  | _ => malformed "$" path env (.invalidLookup expr)

def lookup (expr : String) (path : Path) (env : Env) : Eval Node := do
  let at_ ← ev.locate expr path env
  if at_.evaluated then return at_.node
  else
    let inner ← Eval.ofExcept (at_.env.enter at_.env.location path at_.env.scope)
    ev.node at_.node path inner

end Evaluator

end InfraTemplate
