import InfraTemplate.Node

namespace InfraTemplate.Node

mutual

/-- Equality of nodes. The order of a map does not count, and documents agree in location, body,
parameters and scope. -/
def same : Node → Node → Bool
  | null, null => true
  | bool a, bool b => a == b
  | number a, number b => a.same b
  | string a, string b => a == b
  | seq xs, seq ys => sameItems xs ys
  | map xs, map ys => xs.length == ys.length && sameEntries xs ys
  | tag t, tag u => sameTag t u
  | document ⟨l, xs, ps, s⟩, document ⟨m, ys, qs, r⟩ =>
    l == m && xs.length == ys.length && sameEntries xs ys && sameParams ps qs && s.same r
  | _, _ => false

def sameItems : List Node → List Node → Bool
  | [], [] => true
  | x :: xs, y :: ys => same x y && sameItems xs ys
  | _, _ => false

def sameEntries : List (String × Node) → List (String × Node) → Bool
  | [], _ => true
  | (k, x) :: xs, ys =>
    (match Entries.find? k ys with
      | some y => same x y
      | none => false) && sameEntries xs ys

def sameOption : Option Node → Option Node → Bool
  | none, none => true
  | some x, some y => same x y
  | _, _ => false

def sameItemsOption : Option (List Node) → Option (List Node) → Bool
  | none, none => true
  | some xs, some ys => sameItems xs ys
  | _, _ => false

def sameTag : Tag Node → Tag Node → Bool
  | .lookup p, .lookup q => p == q
  | .expand t p, .expand u q => same t u && same p q
  | .apply o x, .apply p y => o == p && same x y
  | .pair o x y, .pair p z w => o == p && same x z && same y w
  | .choose t c a, .choose u d b => same t u && same c d && sameOption a b
  | .letIn xs b, .letIn ys c => xs.length == ys.length && sameEntries xs ys && same b c
  | .loop k ⟨i, t, v, f⟩, .loop l ⟨j, u, w, h⟩ =>
    k == l && same i j && same t u && v == w && sameOption f h
  | .groupBy ⟨i, k, v, t⟩, .groupBy ⟨j, l, w, u⟩ =>
    same i j && same k l && v == w && sameOption t u
  | _, _ => false

def sameParams : List (Param Node) → List (Param Node) → Bool
  | [], [] => true
  | ⟨n, d, t, s, v, p⟩ :: xs, ⟨m, e, u, r, w, q⟩ :: ys =>
    n == m && sameOption d e && t == u && sameOption s r && sameItemsOption v w && p == q &&
      sameParams xs ys
  | _, _ => false

end

def isIn (x : Node) (xs : List Node) : Bool := xs.any fun y => y.same x

end InfraTemplate.Node
