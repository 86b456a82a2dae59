import InfraTemplate.Entries

namespace InfraTemplate

inductive Intrinsic where
  | base64
  | cidr
  | findInMap
  | getAZs
  | importValue
  | join
  | select
  | split
  | transform
  | and
  | equals
  | if
  | not
  | or
  | condition
deriving DecidableEq, Repr

namespace Intrinsic

def all : List Intrinsic :=
  [base64, cidr, findInMap, getAZs, importValue, join, select, split, transform, and, equals,
    .if, not, or, condition]

def name : Intrinsic → String
  | base64 => "Base64"
  | cidr => "Cidr"
  | findInMap => "FindInMap"
  | getAZs => "GetAZs"
  | importValue => "ImportValue"
  | join => "Join"
  | select => "Select"
  | split => "Split"
  | transform => "Transform"
  | and => "And"
  | equals => "Equals"
  | .if => "If"
  | not => "Not"
  | or => "Or"
  | condition => "Condition"

def longName : Intrinsic → String
  | condition => "Condition"
  | i => "Fn::" ++ i.name

def ofName? (s : String) : Option Intrinsic := all.find? fun i => i.name == s

end Intrinsic

inductive Operator where
  | escape
  | toString
  | parseYaml
  | not
  | concat
  | merge
  | fromPairs
  | ref
  | getAtt
  | sub
  | intrinsic (i : Intrinsic)
deriving DecidableEq, Repr

def Operator.name : Operator → String
  | escape => "$escape"
  | toString => "$string"
  | parseYaml => "$parseYaml"
  | not => "$not"
  | concat => "$concat"
  | merge => "$merge"
  | fromPairs => "$fromPairs"
  | ref => "Ref"
  | getAtt => "GetAtt"
  | sub => "Sub"
  | intrinsic i => i.name

inductive Pairing where
  | equal
  | split
deriving DecidableEq, Repr

def Pairing.name : Pairing → String
  | equal => "$eq"
  | split => "$split"

inductive LoopKind where
  | map
  | mapValues
  | concatMap
  | mergeMap
  | mapListToHash
deriving DecidableEq, Repr

def LoopKind.name : LoopKind → String
  | map => "$map"
  | mapValues => "$mapValues"
  | concatMap => "$concatMap"
  | mergeMap => "$mergeMap"
  | mapListToHash => "$mapListToHash"

def defaultVariable : String := "item"

structure Loop (α : Type) where
  items : α
  template : α
  varName? : Option String
  filter? : Option α

structure Grouping (α : Type) where
  items : α
  key : α
  varName? : Option String
  template? : Option α

def Loop.loopVar {α : Type} (l : Loop α) : String := l.varName?.getD defaultVariable

def Grouping.loopVar {α : Type} (g : Grouping α) : String := g.varName?.getD defaultVariable

/-- A construct of the template language over subtrees in `α`. -/
inductive Tag (α : Type) where
  | lookup (path : String)
  | expand (template params : α)
  | apply (op : Operator) (operand : α)
  | pair (op : Pairing) (first second : α)
  | choose (test consequent : α) (alternative? : Option α)
  | letIn (bindings : List (String × α)) (body : α)
  | loop (kind : LoopKind) (l : Loop α)
  | groupBy (g : Grouping α)

structure Builder (α : Type) where
  string : String → α
  seq : List α → α
  map : Entries α → α

namespace Tag

variable {α β : Type}

def bodyKey : String := "in"

def name : Tag α → String
  | lookup _ => "$"
  | expand .. => "$expand"
  | apply op _ => op.name
  | pair op .. => op.name
  | choose .. => "$if"
  | letIn .. => "$let"
  | loop kind _ => kind.name
  | groupBy _ => "$groupBy"

def optional (key : String) (a? : Option α) : Entries α :=
  match a? with
  | some a => [(key, a)]
  | none => []

def payload (b : Builder α) : Tag α → α
  | lookup path => b.string path
  | expand template params => b.map [("template", template), ("params", params)]
  | apply _ a => a
  | pair _ x y => b.seq [x, y]
  | choose test consequent alternative? =>
    b.map ([("test", test), ("then", consequent)] ++ optional "else" alternative?)
  | letIn bindings body => b.map (Entries.put bodyKey body bindings)
  | loop _ l =>
    b.map ([("items", l.items), ("template", l.template)] ++
      optional "var" (l.varName?.map b.string) ++ optional "filter" l.filter?)
  | groupBy g =>
    b.map ([("items", g.items), ("key", g.key)] ++ optional "var" (g.varName?.map b.string) ++
      optional "template" g.template?)

end Tag

end InfraTemplate
