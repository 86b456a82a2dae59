import InfraTemplate.Number
import InfraTemplate.Tag

/-!
The tree of a document. Plain values are scalars, sequences and maps; a tag is a construct still to be
evaluated, and a document is a template with the scope that its body is evaluated in.
-/

namespace InfraTemplate

structure Param (α : Type) where
  name : String
  default? : Option α
  type? : Option String
  schema? : Option α
  allowedValues? : Option (List α)
  allowedPattern? : Option String

mutual

inductive Node where
  | null
  | bool (b : Bool)
  | number (n : Number)
  | string (s : String)
  | seq (items : List Node)
  | map (entries : List (String × Node))
  | tag (t : Tag Node)
  | document (d : Document)

structure Document where
  location : String
  body : List (String × Node)
  params : List (Param Node)
  scope : Scope

/-- Names in scope: frames, the innermost outermost in the term. A frame's label is its identity. -/
inductive Scope where
  | empty
  | frame (label : Nat) (vars : List (String × Bound)) (outer : Scope)

/-- What a name is bound to: a value, or a node still to be evaluated in the scope it came from. -/
inductive Bound where
  | value (n : Node)
  | raw (n : Node) (scope : Scope)

end

abbrev Mapping := Entries Node

instance : Inhabited Node := ⟨.null⟩

inductive Kind where
  | null
  | boolean
  | number
  | string
  | sequence
  | map
  | tag
  | document
deriving DecidableEq, Repr

def Kind.name : Kind → String
  | null => "null"
  | boolean => "boolean"
  | number => "number"
  | string => "string"
  | sequence => "sequence"
  | map => "map"
  | tag => "tag"
  | document => "document"

namespace Bound

def node : Bound → Node
  | value n => n
  | raw n _ => n

end Bound

namespace Scope

def extend (s : Scope) (label : Nat) (vars : List (String × Bound)) : Scope :=
  match Entries.ofPairs vars with
  | [] => s
  | vars => .frame label vars s

def find? (name : String) : Scope → Option Bound
  | empty => none
  | frame _ vars outer =>
    match Entries.find? name vars with
    | some b => some b
    | none => find? name outer

def has (name : String) (s : Scope) : Bool := (s.find? name).isSome

def isEmpty : Scope → Bool
  | empty => true
  | frame .. => false

def same : Scope → Scope → Bool
  | empty, empty => true
  | frame a .., frame b .. => a == b
  | _, _ => false

end Scope

namespace Node

def kind : Node → Kind
  | null => .null
  | bool _ => .boolean
  | number _ => .number
  | string _ => .string
  | seq _ => .sequence
  | map _ => .map
  | tag _ => .tag
  | document _ => .document

def isScalar : Node → Bool
  | null | bool _ | number _ | string _ => true
  | _ => false

def isTruthy : Node → Bool
  | null => false
  | bool b => b
  | number n => !n.isZero
  | string s => !s.isEmpty
  | _ => true

def ofNat (n : Nat) : Node := number (.int n)

def builder : Builder Node := ⟨string, seq, map⟩

/-- What becomes of each kind of node when a whole tree is turned into an `α`. A document counts as
the map of its body. -/
structure Algebra (α : Type) where
  null : α
  bool : Bool → α
  number : Number → α
  string : String → α
  seq : List α → α
  map : Entries α → α
  tag : Tag α → α

variable {α : Type}

mutual

def fold (g : Algebra α) : Node → α
  | null => g.null
  | bool b => g.bool b
  | number n => g.number n
  | string s => g.string s
  | seq items => g.seq (foldItems g items)
  | map entries => g.map (foldEntries g entries)
  | tag t => g.tag (foldTag g t)
  | document ⟨_, body, _, _⟩ => g.map (foldEntries g body)

def foldItems (g : Algebra α) : List Node → List α
  | [] => []
  | x :: xs => fold g x :: foldItems g xs

def foldEntries (g : Algebra α) : List (String × Node) → Entries α
  | [] => []
  | (k, x) :: rest => (k, fold g x) :: foldEntries g rest

def foldTag (g : Algebra α) : Tag Node → Tag α
  | .lookup path => .lookup path
  | .expand template params => .expand (fold g template) (fold g params)
  | .apply op x => .apply op (fold g x)
  | .pair op x y => .pair op (fold g x) (fold g y)
  | .choose test consequent alternative? =>
    .choose (fold g test) (fold g consequent) (foldOption g alternative?)
  | .letIn bindings body => .letIn (foldEntries g bindings) (fold g body)
  | .loop kind ⟨items, template, var?, filter?⟩ =>
    .loop kind ⟨fold g items, fold g template, var?, foldOption g filter?⟩
  | .groupBy ⟨items, key, var?, template?⟩ =>
    .groupBy ⟨fold g items, fold g key, var?, foldOption g template?⟩

def foldOption (g : Algebra α) : Option Node → Option α
  | none => none
  | some x => some (fold g x)

end

theorem foldItems_eq_map (g : Algebra α) (xs : List Node) : foldItems g xs = xs.map (fold g) := by
  induction xs with
  | nil => rfl
  | cons x xs ih => rw [foldItems, ih, List.map_cons]

theorem foldEntries_eq_map (g : Algebra α) (es : Mapping) :
    foldEntries g es = es.map fun e => (e.1, fold g e.2) := by
  induction es with
  | nil => rfl
  | cons e es ih => rw [foldEntries, ih, List.map_cons]

end Node

end InfraTemplate
