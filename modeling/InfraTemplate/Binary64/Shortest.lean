import InfraTemplate.Binary64

namespace InfraTemplate.Binary64

structure Decimal where
  digits : Nat
  exponent : Int
deriving DecidableEq, Repr

def roundsTo (m : Nat) (e : Int) (d : Nat) (k : Int) : Bool :=
  -- all three points are multiplied by `4 * 2 ^ p * 10 ^ q`
  let unit := Nat.pow 2 e.toNat * Nat.pow 10 (-k).toNat
  let x := 4 * d * Nat.pow 10 k.toNat * Nat.pow 2 (-e).toNat
  let below := if m = 0x10000000000000 && e > minExponent then 1 else 2
  let lo := (4 * m - below) * unit
  let hi := (4 * m + 2) * unit
  if m % 2 = 0 then lo ≤ x && x ≤ hi else lo < x && x < hi

def decimalOrder (m : Nat) (e : Int) : Int :=
  let n := m * Nat.pow 10 400 * Nat.pow 2 e.toNat / Nat.pow 2 (-e).toNat
  decimalDigits n - 401

def neighbours (m : Nat) (e : Int) (n : Nat) : List Decimal :=
  let k := decimalOrder m e - (n - 1 : Int)
  let num := m * Nat.pow 2 e.toNat * Nat.pow 10 (-k).toNat
  let den := Nat.pow 2 (-e).toNat * Nat.pow 10 k.toNat
  let low := num / den
  if roundDiv num den = low then [⟨low, k⟩, ⟨low + 1, k⟩] else [⟨low + 1, k⟩, ⟨low, k⟩]

def shortestFrom (m : Nat) (e : Int) : Nat → Nat → Decimal
  | 0, n => (neighbours m e n).headD ⟨0, 0⟩
  | left + 1, n =>
    match (neighbours m e n).find? fun d => roundsTo m e d.digits d.exponent with
    | some d => d
    | none => shortestFrom m e left (n + 1)

/-- The nearest decimal number among those with the fewest digits that read back. -/
def shortest (m : Nat) (e : Int) : Decimal := shortestFrom m e 16 1

structure Layout where
  exponentPlus : Bool

def zeros (n : Nat) : List Char := List.replicate n '0'

def layoutDigits (l : Layout) (ds : List Char) (k : Int) : List Char :=
  let point : Int := ds.length + k
  if 0 ≤ k && point ≤ 16 then ds ++ zeros k.toNat ++ ['.', '0']
  else if 0 < point && point ≤ 16 then ds.take point.toNat ++ '.' :: ds.drop point.toNat
  else if -5 < point && point ≤ 0 then '0' :: '.' :: zeros (-point).toNat ++ ds
  else
    let exponent := point - 1
    let mark := if exponent ≥ 0 && l.exponentPlus then ['e', '+'] else ['e']
    let head :=
      match ds with
      | [] => []
      | [d] => [d]
      | d :: rest => d :: '.' :: rest
    head ++ mark ++ (toString exponent).toList

def dropZeros (ds : List Char) (k : Int) : List Char × Int :=
  let kept := (ds.reverse.dropWhile (· == '0')).reverse
  (kept, k + (ds.length - kept.length : Nat))

def layout (l : Layout) (negative : Bool) (m : Nat) (e : Int) : String :=
  let sign := if negative then ['-'] else []
  if m = 0 then String.ofList (sign ++ ['0', '.', '0'])
  else
    let d := shortest m e
    let (ds, k) := dropZeros (Nat.toDigits 10 d.digits) d.exponent
    String.ofList (sign ++ layoutDigits l ds k)

end InfraTemplate.Binary64
