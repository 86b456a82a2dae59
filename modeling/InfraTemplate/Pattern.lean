import InfraTemplate.Pattern.CharSet

/-!
Regular expressions as sets of positions: a pattern maps the positions where it may begin to those
where it may end.
-/

namespace InfraTemplate

inductive Anchor where
  | textStart
  | textEnd
  | lineStart
  | lineEnd
  | wordBoundary (isIn : Char → Bool)
  | notWordBoundary (isIn : Char → Bool)
  | wordStart (isIn : Char → Bool)
  | wordEnd (isIn : Char → Bool)
  | wordStartHalf (isIn : Char → Bool)
  | wordEndHalf (isIn : Char → Bool)

inductive Pattern where
  | empty
  | one (s : CharSet)
  | anchor (a : Anchor)
  | seq (p q : Pattern)
  | alt (p q : Pattern)
  | iterate (least : Nat) (most? : Option Nat) (p : Pattern)
  | ahead (wanted : Bool) (p : Pattern)
  | behind (wanted : Bool) (p : Pattern)

namespace Anchor

def holds (before after : Option Char) : Anchor → Bool
  | textStart => before.isNone
  | textEnd => after.isNone
  | lineStart => before.all (· == '\n')
  | lineEnd => after.all (· == '\n')
  | wordBoundary isIn => before.any isIn != after.any isIn
  | notWordBoundary isIn => before.any isIn == after.any isIn
  | wordStart isIn => !before.any isIn && after.any isIn
  | wordEnd isIn => before.any isIn && !after.any isIn
  | wordStartHalf isIn => !before.any isIn
  | wordEndHalf isIn => !after.any isIn

end Anchor

namespace Pattern

/-- A set of positions of a text: for each one, whether it is in the set. -/
abbrev Positions := List Bool

def unite (a b : Positions) : Positions := List.zipWith (· || ·) a b

def meet (a b : Positions) : Positions := List.zipWith (· && ·) a b

def advance (s : CharSet) (cs : List Char) (from_ : Positions) : Positions :=
  false :: List.zipWith (fun c reached => reached && s.has c) cs from_

def anchored (a : Anchor) (before : Option Char) : List Char → Positions
  | [] => [a.holds before none]
  | c :: cs => a.holds before (some c) :: anchored a (some c) cs

def closure (step : Positions → Positions) : Nat → Positions → Positions
  | 0, reached => reached
  | n + 1, reached =>
    let more := unite reached (step reached)
    if more = reached then reached else closure step n more

def times (step : Positions → Positions) : Nat → Positions → Positions
  | 0, reached => reached
  | n + 1, reached => if reached.any id then times step n (step reached) else reached

private def onlyAt (i n : Nat) : Positions := (List.range n).map (· == i)

def ends (cs : List Char) : Pattern → Positions → Positions
  | empty, from_ => from_
  | one s, from_ => advance s cs from_
  | anchor a, from_ => meet from_ (anchored a none cs)
  | seq p q, from_ => ends cs q (ends cs p from_)
  | alt p q, from_ => unite (ends cs p from_) (ends cs q from_)
  | iterate least most? p, from_ =>
    let limit :=
      match most? with
      | some most => most - least
      | none => cs.length + 1
    closure (ends cs p) limit (times (ends cs p) least from_)
  | ahead wanted p, from_ =>
    from_.mapIdx fun i reached =>
      reached && (ends cs p (onlyAt i (cs.length + 1))).any id == wanted
  | behind wanted p, from_ =>
    meet from_ ((ends cs p (List.replicate (cs.length + 1) true)).map (· == wanted))

def matchesIn (p : Pattern) (text : String) : Bool :=
  (ends text.toList p (List.replicate (text.length + 1) true)).any id

def weight : Pattern → Nat
  | empty | anchor _ => 0
  | one _ => 1
  | seq p q | alt p q => p.weight + q.weight
  | iterate least most? p => (most?.getD (least + 1)) * p.weight
  | ahead _ p | behind _ p => p.weight

end Pattern

end InfraTemplate
