import InfraTemplate.Evaluation.Reference
import InfraTemplate.Param.Validation

namespace InfraTemplate

namespace Evaluator

variable (ev : Evaluator)

def templateName (n : Node) (path : Path) (env : Env) : Eval String :=
  match n with
  | .string s => return Text.trimText s
  | .tag (.lookup expr) => return expr
  | .tag t => return (← ev.node (.tag t) path env).text
  | n => malformed "$expand" path env (.templateNotNamed n.kind)

def templateDocument (n : Node) (path : Path) (env : Env) : Eval (String × Document) := do
  let name ← ev.templateName n path env
  match (← ev.locate name path env).node with
  | .document d => return (name, d)
  | n => malformed "$expand" path env (.notTemplate name n.kind)

def paramValue (p : Param Node) (caller : Mapping) (path : Path) (defaults : Env) :
    Eval (Option Node) :=
  match Entries.find? p.name caller, p.default? with
  | some n, _ => return some n
  | none, some d => return some (← ev.node d (path.child p.name) defaults)
  | none, none => return none

def declaredParams (caller : Mapping) (target : String) (path : Path) (env defaults : Env)
    (params : List (Param Node)) : Eval (List (String × Bound)) := do
  let bindings ← params.mapM fun p => do
    let value? ← ev.paramValue p caller path defaults
    match p.validate value? with
    | .ok () => return value?.toList.map fun n => (p.name, Bound.value n)
    | .error v => throw (.invalidParameter p.name target path v env.stack)
  return bindings.flatten

def bindParams (d : Document) (caller : Mapping) (target : String) (naming? : Option NameScope)
    (path : Path) (env : Env) : Eval (List (String × Bound)) := do
  let defaults ← Eval.ofExcept (env.enterDocument d path)
  let declared ← ev.declaredParams caller target path env (defaults.withNaming naming?) d.params
  let extra := caller.filter fun (k, _) => !d.params.any fun p => p.name == k
  return declared ++ extra.map fun (k, n) => (k, Bound.value n)

def enterTemplate (d : Document) (vars : List (String × Bound)) (path : Path) (env : Env) :
    Eval Env :=
  Eval.ofExcept (env.enter d.location path (d.scope.extend 0 vars))

def paramsMap (params : Node) (path : Path) (env : Env) : Eval Mapping := do
  match ← ev.node params (path.child "params") env with
  | .map m => return m
  | .null => return []
  | n => malformed "$expand" path env (.paramsNotMap n.kind)

end Evaluator

end InfraTemplate
