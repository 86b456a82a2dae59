import InfraTemplate.Binary64.Decimal
import InfraTemplate.Binary64.Shortest

namespace InfraTemplate

inductive Number where
  | int (i : Int)
  | float (x : Binary64)
deriving DecidableEq, Repr

namespace Number

def minInt : Int := -0x8000000000000000

def maxInt : Int := 0xFFFFFFFFFFFFFFFF

def inRange (i : Int) : Bool := minInt ≤ i && i ≤ maxInt

def maxSigned : Int := 0x7FFFFFFFFFFFFFFF

def signed? : Number → Option Int
  | .int i => if minInt ≤ i && i ≤ maxSigned then some i else none
  | .float _ => none

def unsigned? : Number → Option Int
  | .int i => if 0 ≤ i && i ≤ maxInt then some i else none
  | .float _ => none

def toBinary64 : Number → Binary64
  | .int i => Binary64.ofInt i
  | .float x => x

/-- The number as it is handed on from one format to another: as a signed word if it is one, or else
as an unsigned word, and as a double only where it is neither. -/
def handedOn (n : Number) : Number :=
  match n.signed? with
  | some i => .int i
  | none =>
    match n.unsigned? with
    | some i => .int i
    | none => .float n.toBinary64

def same : Number → Number → Bool
  | .int i, .int j => i == j
  | .float x, .float y => x.same y
  | _, _ => false

theorem same_refl (n : Number) : n.same n = true := by
  cases n <;> simp [same, Binary64.same_refl]

def isZero : Number → Bool
  | .int i => i == 0
  | .float x => x.isZero

def text : Number → String
  | .int i => toString i
  | .float .nan => ".nan"
  | .float (.infinity negative) => if negative then "-.inf" else ".inf"
  | .float (.finite negative m e) => Binary64.layout ⟨false⟩ negative m e

end Number

end InfraTemplate
