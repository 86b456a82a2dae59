import InfraTemplate.Number

namespace InfraTemplate.Number

def ratio? : Number → Option (Int × Nat)
  | .int i => some (i, 1)
  | .float x => x.toRatio?

def le (a b : Number) : Bool :=
  match a.ratio?, b.ratio? with
  | some (p, q), some (r, s) => p * s ≤ r * q
  | _, _ => false

def lt (a b : Number) : Bool := le a b && !le b a

def agrees : Number → Number → Bool
  | .int i, .int j => i == j
  | a, b => a.toBinary64.same b.toBinary64

def isWhole (n : Number) : Bool :=
  match n.ratio? with
  | some (p, q) => p % q == 0
  | none => false

def toNat? (n : Number) : Option Nat :=
  match n.ratio? with
  | some (p, q) => if p % q = 0 ∧ 0 ≤ p then some (p / q).toNat else none
  | none => none

/-- A whole divisor divides exactly. For another the quotient, as a double, may have a fraction
below `2 ^ -52`. -/
def isMultipleOf (a b : Number) : Bool :=
  let x := a.toBinary64
  let y := b.toBinary64
  match x.toRatio?, y.toRatio? with
  | some (p, q), some (r, s) =>
    if r = 0 then false
    else if r % s = 0 then p % q == 0 && (p / q) % (r / s) == 0
    else
      match (x.div y).toRatio? with
      | some (n, d) => Int.tmod n d * 0x10000000000000 < d
      | none => (p * s) % (q * r) == 0
  | _, _ => false

end InfraTemplate.Number
