import InfraTemplate.Binary64
import InfraTemplate.Text.Piece

namespace InfraTemplate.Binary64

private def parseDigits (cs : List Char) : Option (List Char × List Char × List Char) :=
  let whole := cs.takeWhile Text.isDigit
  let rest := cs.dropWhile Text.isDigit
  let (part, rest) :=
    match rest with
    | '.' :: after => (after.takeWhile Text.isDigit, after.dropWhile Text.isDigit)
    | _ => ([], rest)
  if whole.isEmpty && part.isEmpty then none else some (whole, part, rest)

private def parseExponent : List Char → Option Int
  | [] => some 0
  | c :: cs =>
    if c = 'e' || c = 'E' then
      let (negative, ds) :=
        match cs with
        | '-' :: ds => (true, ds)
        | '+' :: ds => (false, ds)
        | ds => (false, ds)
      if ds.isEmpty || !ds.all Text.isDigit then none
      else some (if negative then -(Text.digitsValue ds : Int) else Text.digitsValue ds)
    else none

private def lower (cs : List Char) : List Char := cs.map Char.toLower

def parse? (s : List Char) : Option Binary64 :=
  let (negative, cs) :=
    match s with
    | '-' :: cs => (true, cs)
    | '+' :: cs => (false, cs)
    | cs => (false, cs)
  if lower cs = "inf".toList || lower cs = "infinity".toList then some (.infinity negative)
  else if lower cs = "nan".toList then some .nan
  else do
    let (whole, part, rest) ← parseDigits cs
    let exponent ← parseExponent rest
    return ofDecimal negative (Text.digitsValue (whole ++ part)) (exponent - part.length)

end InfraTemplate.Binary64
