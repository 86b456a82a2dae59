import InfraTemplate.Error
import InfraTemplate.Text.Blank
import InfraTemplate.Text.Piece

namespace InfraTemplate

abbrev Path := String

namespace Path

def root : Path := "Root"

def child (p : Path) (segment : String) : Path := p ++ "." ++ segment

def item (p : Path) (i : Nat) : Path := p.child (toString i)

def hasSegment (p : Path) (segment : String) : Bool :=
  (Text.splitAll (· == '.') p.toList).contains segment.toList

theorem hasSegment_child (p : Path) (key segment : String) :
    (p.child key).hasSegment segment = (p.hasSegment segment || hasSegment key segment) := by
  have hdot : ".".toList = ['.'] := rfl
  simp only [hasSegment, child, String.toList_append, hdot, List.append_assoc,
    List.singleton_append, Text.splitAll_append (p := (· == '.')) (beq_self_eq_true '.')]
  exact List.contains_append

end Path

structure NameScope where
  lead : String
  exempt : List String
deriving DecidableEq, Repr

def isPseudo (name : String) : Bool := Text.hasHead "AWS::".toList name.toList

def NameScope.qualify (s : NameScope) (name : String) : String :=
  if isPseudo name || s.exempt.contains name then name else s.lead ++ name

structure Env where
  scope : Scope
  stack : Trace
  naming? : Option NameScope
  location : String
  depth : Nat
  limit : Nat

namespace Env

def root (scope : Scope) (location : String) (limit : Nat) : Env :=
  ⟨scope, [⟨location, Path.root⟩], none, location, 0, limit⟩

def extend (env : Env) (vars : List (String × Bound)) : Env :=
  { env with scope := env.scope.extend 0 vars }

def withScope (env : Env) (scope : Scope) : Env := { env with scope := scope }

def withNaming (env : Env) (naming? : Option NameScope) : Env := { env with naming? := naming? }

def enter (env : Env) (location : String) (path : Path) (scope : Scope) : Except Error Env :=
  if env.limit < env.depth + 1 then .error (.tooDeep env.limit path env.stack)
  else
    .ok { env with scope := scope, stack := env.stack ++ [⟨location, path⟩], location := location,
                   depth := env.depth + 1 }

def enterDocument (env : Env) (d : Document) (path : Path) : Except Error Env :=
  env.enter d.location path d.scope

def lead (env : Env) : String :=
  match env.naming? with
  | some naming => naming.lead
  | none => ""

def qualify (env : Env) (name : String) : String :=
  match env.naming? with
  | some naming => naming.qualify name
  | none => name

end Env

end InfraTemplate
