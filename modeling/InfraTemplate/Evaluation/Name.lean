import InfraTemplate.Evaluation.Basic
import InfraTemplate.SubText

namespace InfraTemplate

namespace Evaluator

variable (ev : Evaluator)

def ref (n : Node) (path : Path) (env : Env) : Eval Node := do
  match ← ev.node n path env with
  | .string name => return .map [("Ref", .string (env.qualify name))]
  | n => return .map [("Ref", n)]

def getAtt (n : Node) (path : Path) (env : Env) : Eval Node := do
  let value ←
    match ← ev.node n path env with
    | .string target =>
      match Text.splitFirst '.' target.toList with
      | some (resource, attr) =>
        pure (.seq [.string (env.qualify (String.ofList resource)), .string (String.ofList attr)])
      | none => malformed "GetAtt" path env (.attributeReference target)
    | .seq (.string resource :: rest) => pure (.seq (.string (env.qualify resource) :: rest))
    | n => pure n
  return .map [("Fn::GetAtt", value)]

def boundNames : Node → List String
  | .map m => Entries.keys m
  | _ => []

def sub (n : Node) (path : Path) (env : Env) : Eval Node := do
  let value : Node :=
    match ← ev.node n path env with
    | .string s => .string (SubPart.qualifyText env.naming? [] s)
    | .seq [.string s, vars] =>
      .seq [.string (SubPart.qualifyText env.naming? (boundNames vars) s), vars]
    | n => n
  return .map [("Fn::Sub", value)]

end Evaluator

end InfraTemplate
