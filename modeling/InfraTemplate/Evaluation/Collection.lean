import InfraTemplate.Evaluation.Basic
import InfraTemplate.Node.Merge

namespace InfraTemplate

namespace Collection

def loopEnv (env : Env) (name : String) (item : Node) (i : Nat) : Env :=
  env.extend [(name, .value item), (name ++ "Idx", .value (.ofNat i))]

def merged (construct : String) (path : Path) (env : Env) (parts : List Node) : Eval Mapping :=
  parts.zipIdx.foldlM (fun acc (part, i) =>
    match part with
    | .map m => return Node.deepMerge acc m
    | .null => return acc
    | n => malformed construct (path.item i) env (.notMap n.kind)) []

def pair? : Node → Option (Node × Node)
  | .map m =>
    match m.length == 2, Entries.find? "key" m, Entries.find? "value" m with
    | true, some k, some v => some (k, v)
    | _, _, _ => none
  | .seq [k, v] => some (k, v)
  | _ => none

def paired (construct : String) (path : Path) (env : Env) (pairs : List Node) : Eval Mapping :=
  pairs.zipIdx.foldlM (fun acc (p, i) =>
    match pair? p with
    | some (k, v) => return Entries.put k.text v acc
    | none => malformed construct (path.item i) env .notKeyValue) []

def flattened (xs : List Node) : List Node :=
  xs.flatMap fun
    | .seq inner => inner
    | n => [n]

def concatenated (construct : String) (path : Path) (env : Env) (parts : List Node) :
    Eval (List Node) := do
  let lists ← parts.zipIdx.mapM fun (part, i) =>
    match part with
    | .seq items => return items
    | n => malformed construct (path.item i) env (.notSequence n.kind)
  return lists.flatten

def splitText (delimiter text : String) : List String :=
  let pieces := Text.splitOnText delimiter.toList 0 text.toList
  ((pieces.reverse.dropWhile List.isEmpty).reverse).map String.ofList

def addMember (key : String) (n : Node) (groups : Entries (List Node)) : Entries (List Node) :=
  Entries.put key ((Entries.find? key groups).getD [] ++ [n]) groups

end Collection

namespace Evaluator

open Collection

variable (ev : Evaluator)

def run (l : Loop Node) (xs : List Node) (path : Path) (env : Env) : Eval (List Node) := do
  let results ← xs.zipIdx.mapM fun (x, i) => do
    let inner := loopEnv env l.loopVar x i
    let passes ←
      match l.filter? with
      | some filter => Node.isTruthy <$> ev.node filter ((path.item i).child "filter") inner
      | none => pure true
    if passes then return [← ev.node l.template (path.item i) inner] else return []
  return results.flatten

def loopItems (construct : String) (n : Node) (path : Path) (env : Env) : Eval (List Node) := do
  match ← ev.node n (path.child "items") env with
  | .seq xs => return xs
  | .null => return []
  | n => malformed construct path env (.itemsNotSequence n.kind)

def mapValues (l : Loop Node) (path : Path) (env : Env) : Eval Node := do
  let entries ←
    match ← ev.node l.items (path.child "items") env with
    | .map m => pure m
    | .null => pure []
    | n => malformed LoopKind.mapValues.name path env (.itemsNotMap n.kind)
  let results ← ev.run l (entries.map fun (k, v) => .map [("key", .string k), ("value", v)]) path env
  return .map ((Entries.keys entries).zip results)

def loop (kind : LoopKind) (l : Loop Node) (path : Path) (env : Env) : Eval Node := do
  match kind with
  | .mapValues => ev.mapValues l path env
  | kind =>
    let xs ← ev.loopItems kind.name l.items path env
    let results ← ev.run l xs path env
    match kind with
    | .concatMap => return .seq (flattened results)
    | .mergeMap => return .map (← merged kind.name path env results)
    | .mapListToHash => return .map (← paired kind.name path env results)
    | _ => return .seq results

def groupBy (g : Grouping Node) (path : Path) (env : Env) : Eval Node := do
  let xs ← ev.loopItems "$groupBy" g.items path env
  let groups ← xs.zipIdx.foldlM (fun groups (x, i) => do
    let inner := loopEnv env g.loopVar x i
    let key ← ev.node g.key ((path.item i).child "key") inner
    let member ←
      match g.template? with
      | some template => ev.node template (path.item i) inner
      | none => pure x
    return addMember key.text member groups) []
  return .map (groups.map fun (k, members) => (k, .seq members))

def sequence (construct : String) (n : Node) (path : Path) (env : Env) : Eval (List Node) := do
  match ← ev.node n path env with
  | .seq xs => return xs
  | n => malformed construct path env (.notSequence n.kind)

def concat (n : Node) (path : Path) (env : Env) : Eval Node := do
  return .seq (← concatenated "$concat" path env (← ev.sequence "$concat" n path env))

def merge (n : Node) (path : Path) (env : Env) : Eval Node := do
  return .map (← merged "$merge" path env (← ev.sequence "$merge" n path env))

def fromPairs (n : Node) (path : Path) (env : Env) : Eval Node := do
  return .map (← paired "$fromPairs" path env (← ev.sequence "$fromPairs" n path env))

def split (delimiter value : Node) (path : Path) (env : Env) : Eval Node := do
  let delimiter ← ev.node delimiter (path.item 0) env
  let value ← ev.node value (path.item 1) env
  match delimiter, value with
  | .string d, .string s =>
    if d.isEmpty then malformed "$split" path env .emptyDelimiter
    else return .seq ((splitText d s).map .string)
  | _, _ => malformed "$split" path env .splitOperands

end Evaluator

end InfraTemplate
