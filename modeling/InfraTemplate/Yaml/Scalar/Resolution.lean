import InfraTemplate.Text.Hex
import InfraTemplate.Text.Piece
import InfraTemplate.Yaml.Value

namespace InfraTemplate.Yaml

def isNullText (s : String) : Bool := s == "null" || s == "Null" || s == "NULL" || s == "~"

def bool? (s : String) : Option Bool :=
  if s == "true" || s == "True" || s == "TRUE" then some true
  else if s == "false" || s == "False" || s == "FALSE" then some false
  else none

def digitsIn? (base : Nat) (cs : List Char) : Option Nat :=
  if cs.isEmpty then none
  else
    cs.foldl (fun acc c => do
      let n ← acc
      let d ← Text.hexValue? c
      if d < base then some (n * base + d) else none) (some 0)

def basePrefixed? (cs : List Char) : Option Nat :=
  match cs with
  | '0' :: 'x' :: ds => digitsIn? 16 ds
  | '0' :: 'o' :: ds => digitsIn? 8 ds
  | '0' :: 'b' :: ds => digitsIn? 2 ds
  | _ => none

def zeroPadded (cs : List Char) : Bool :=
  let ds :=
    match cs with
    | '-' :: ds => ds
    | '+' :: ds => ds
    | ds => ds
  match ds with
  | '0' :: d :: ds => (d :: ds).all Text.isDigit
  | _ => false

def wholeNumber? (cs : List Char) : Option Int :=
  match cs with
  | '-' :: ds =>
    match basePrefixed? ds with
    | some n => some (-n)
    | none => if zeroPadded cs then none else (digitsIn? 10 ds).map fun n => -(n : Int)
  | '+' :: ds =>
    match basePrefixed? ds with
    | some n => some n
    | none => if zeroPadded cs then none else (digitsIn? 10 ds).map Int.ofNat
  | ds =>
    match basePrefixed? ds with
    | some n => some n
    | none => if zeroPadded cs then none else (digitsIn? 10 ds).map Int.ofNat

def double? (s : String) : Option Binary64 :=
  if s == ".inf" || s == ".Inf" || s == ".INF" || s == "+.inf" || s == "+.Inf" || s == "+.INF" then
    some (.infinity false)
  else if s == "-.inf" || s == "-.Inf" || s == "-.INF" then some (.infinity true)
  else if s == ".nan" || s == ".NaN" || s == ".NAN" then some .nan
  else
    match Binary64.parse? s.toList with
    | some x => if x.isFinite then some x else none
    | none => none

inductive Resolved where
  | value (v : Value)
  | outOfRange

private def fits128 (i : Int) : Bool :=
  -Int.ofNat (Nat.pow 2 127) ≤ i && i < Int.ofNat (Nat.pow 2 128)

/-- Null, boolean, whole number, double or else string, in this order. A number beyond 128 bits is
a double. -/
def resolve (s : String) : Resolved :=
  let asText : Resolved :=
    match if zeroPadded s.toList then none else double? s with
    | some x => .value (.number (.float x))
    | none => .value (.string s)
  if s.isEmpty || isNullText s then .value .null
  else
    match bool? s with
    | some b => .value (.bool b)
    | none =>
      match wholeNumber? s.toList with
      | some i =>
        if Number.inRange i then .value (.number (.int i))
        else if fits128 i then .outOfRange
        else asText
      | none => asText

def readsAsText (s : String) : Bool :=
  match resolve s with
  | .value (.string _) => true
  | _ => false

end InfraTemplate.Yaml
