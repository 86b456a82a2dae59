import InfraTemplate.Evaluation.Collection
import InfraTemplate.Evaluation.Name
import InfraTemplate.Evaluation.Resource
import InfraTemplate.Node.Reading

/-!
Evaluation of a node in an environment. The constructs take an evaluator for their parts, and
`Evaluator.upTo n` ties the knot for evaluations that go at most `n` deep.
-/

namespace InfraTemplate

namespace Evaluator

variable (ev : Evaluator)

def negated : Node → Bool
  | .seq [x] => !x.isTruthy
  | n => !n.isTruthy

def operation (op : Operator) (n : Node) (path : Path) (env : Env) : Eval Node := do
  match op with
  | .escape => return n
  | .toString => return .string (← ev.node n path env).text
  | .parseYaml =>
    match ← ev.node n path env with
    | .string s => ev.node (← Eval.ofExcept (Node.parse s env.location)) path env
    | n => malformed op.name path env (.notString n.kind)
  | .not => return .bool (negated (← ev.node n path env))
  | .concat => ev.concat n path env
  | .merge => ev.merge n path env
  | .fromPairs => ev.fromPairs n path env
  | .ref => ev.ref n path env
  | .getAtt => ev.getAtt n path env
  | .sub => ev.sub n path env
  | .intrinsic i => return .map [(i.longName, ← ev.node n path env)]

def letIn (bindings : Mapping) (body : Node) (path : Path) (env : Env) : Eval Node := do
  let vars ← bindings.mapM fun (name, n) =>
    return (name, Bound.value (← ev.node n (path.child name) env))
  ev.node body (path.child Tag.bodyKey) (env.extend vars)

def expand (template params : Node) (path : Path) (env : Env) : Eval Node := do
  let (name, d) ← ev.templateDocument template path env
  let caller ← ev.paramsMap params path env
  let vars ← ev.bindParams d caller name env.naming? path env
  return .map (← ev.map d.body path (← enterTemplate d vars path env))

def tag (t : Tag Node) (path : Path) (env : Env) : Eval Node := do
  match t with
  | .lookup expr => ev.reference expr path env
  | .expand template params => ev.expand template params path env
  | .apply op n => ev.operation op n path env
  | .pair .equal x y =>
    let x ← ev.node x (path.item 0) env
    let y ← ev.node y (path.item 1) env
    return .bool (x.same y)
  | .pair .split delimiter value => ev.split delimiter value path env
  | .choose test consequent alternative? =>
    if (← ev.node test (path.child "test") env).isTruthy then
      ev.node consequent (path.child "then") env
    else
      match alternative? with
      | some n => ev.node n (path.child "else") env
      | none => return .null
  | .letIn bindings body => ev.letIn bindings body path env
  | .loop kind l => ev.loop kind l path env
  | .groupBy g => ev.groupBy g path env

def step (n : Node) (path : Path) (env : Env) : Eval Node := do
  match n with
  | .string s => return .string (← ev.interpolated s path env)
  | .seq xs => return .seq (← ev.items xs path env)
  | .map m => return .map (← ev.map m path env)
  | .tag t => ev.tag t path env
  | .document d =>
    return .map (← ev.map d.body path (← Eval.ofExcept (env.enterDocument d path)))
  | n => return n

/-- Evaluation in at most `n` steps into one another. -/
def upTo : Nat → Evaluator
  | 0 => ⟨fun _ _ _ => Eval.unfinished, fun _ _ _ => Eval.unfinished, fun _ _ _ => Eval.unfinished⟩
  | n + 1 => ⟨fun x path env => (upTo n).step x path env,
      fun expr path env => (upTo n).lookup expr path env,
      fun m path env => (upTo n).resourceSection m path env⟩

end Evaluator

end InfraTemplate
