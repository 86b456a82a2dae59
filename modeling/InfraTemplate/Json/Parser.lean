import InfraTemplate.Json
import InfraTemplate.Text.Hex
import InfraTemplate.Text.Piece

namespace InfraTemplate.Json

private def isSpace (c : Char) : Bool := c == ' ' || c == '\n' || c == '\t' || c == '\r'

private def skipSpace (cs : List Char) : List Char := cs.dropWhile isSpace

private def hex4 : List Char → Option (Nat × List Char)
  | a :: b :: c :: d :: rest => do
    let a ← Text.hexValue? a
    let b ← Text.hexValue? b
    let c ← Text.hexValue? c
    let d ← Text.hexValue? d
    return (((a * 16 + b) * 16 + c) * 16 + d, rest)
  | _ => none

private def unicodeEscape (cs : List Char) : Option (Char × List Char) := do
  let (n, rest) ← hex4 cs
  if n < 0xD800 || 0xDFFF < n then return (Char.ofNat n, rest)
  else if 0xDC00 ≤ n then none
  else
    let rest ← Text.afterHead? ['\\', 'u'] rest
    let (m, rest) ← hex4 rest
    if 0xDC00 ≤ m && m ≤ 0xDFFF then
      return (Char.ofNat (0x10000 + (n - 0xD800) * 0x400 + (m - 0xDC00)), rest)
    else none

private def letterEscape? (c : Char) : Option Char :=
  if c = '"' || c = '\\' || c = '/' then some c
  else if c = 'b' then some (Char.ofNat 8)
  else if c = 'f' then some (Char.ofNat 12)
  else if c = 'n' then some '\n'
  else if c = 'r' then some '\r'
  else if c = 't' then some '\t'
  else none

private def stringBody : Nat → List Char → List Char → Option (List Char × List Char)
  | 0, _, _ => none
  | _ + 1, _, [] => none
  | fuel + 1, acc, c :: cs =>
    if c = '"' then some (acc.reverse, cs)
    else if c = '\\' then
      match cs with
      | [] => none
      | e :: rest =>
        if e = 'u' then do
          let (d, rest) ← unicodeEscape rest
          stringBody fuel (d :: acc) rest
        else do
          let d ← letterEscape? e
          stringBody fuel (d :: acc) rest
    else if c.toNat < 32 then none
    else stringBody fuel (c :: acc) cs

private def maxSignificand : Nat := 0xFFFFFFFFFFFFFFFF

private def significand (n : Nat) : List Char → Nat × Nat
  | [] => (n, 0)
  | d :: ds =>
    let n' := n * 10 + (d.toNat - 48)
    if n' > maxSignificand then (n, ds.length + 1) else significand n' ds

/-- Scales a significand by a power of ten with one rounding at each step: first to a double, then
by the table of powers up to `1e308`. A result that is not finite is refused. -/
private def scale : Nat → Binary64 → Int → Option Binary64
  | 0, _, _ => none
  | fuel + 1, x, e =>
    if e.natAbs ≤ 308 then
      let power := Binary64.ofDecimal false 1 e.natAbs
      if e ≥ 0 then
        match x.mul power with
        | .infinity _ => none
        | y => some y
      else some (x.div power)
    else if x.isZero then some x
    else if e ≥ 0 then none
    else scale fuel (x.div (Binary64.ofDecimal false 1 308)) (e + 308)

private def negate (negative : Bool) : Binary64 → Binary64
  | .finite _ m e => .finite negative m e
  | x => x

private def maxExponent : Nat := 0x7FFFFFFF

private def toDouble (negative : Bool) (n : Nat) (e : Int) : Option Binary64 :=
  (scale 8 (Binary64.ofRatio false n 1) (max e (-2000))).map (negate negative)

private def exponentOf (negative : Bool) (n : Nat) (start : Int) (ds : List Char)
    (down : Bool) : Option Binary64 :=
  let e := Text.digitsValue ds
  if e > maxExponent then
    if n ≠ 0 && !down then none else some (Binary64.zero negative)
  else toDouble negative n (if down then start - e else start + e)

private def exponentPart (negative : Bool) (n : Nat) (start : Int) (cs : List Char) :
    Option (Number × List Char) :=
  match cs with
  | c :: after =>
    if c = 'e' || c = 'E' then
      let (down, rest) :=
        match after with
        | '-' :: rest => (true, rest)
        | '+' :: rest => (false, rest)
        | rest => (false, rest)
      let ds := rest.takeWhile Text.isDigit
      if ds.isEmpty then none
      else
        (exponentOf negative n start ds down).map fun x =>
          (.float x, rest.dropWhile Text.isDigit)
    else (toDouble negative n start).map fun x => (.float x, cs)
  | [] => (toDouble negative n start).map fun x => (.float x, [])

private def wholeNumber (negative : Bool) (n : Nat) : Number :=
  if !negative then .int n
  else if n = 0 || n > 0x8000000000000000 then .float (negate true (Binary64.ofRatio false n 1))
  else .int (-n)

private def signedNumber (negative : Bool) (cs : List Char) : Option (Number × List Char) :=
  let whole := cs.takeWhile Text.isDigit
  let rest := cs.dropWhile Text.isDigit
  if whole.isEmpty || (whole.length > 1 && whole.head? == some '0') then none
  else
    let (n, dropped) := significand 0 whole
    match rest with
    | '.' :: after =>
      let part := after.takeWhile Text.isDigit
      if part.isEmpty then none
      else
        let (m, unused) := significand n part
        exponentPart negative m (dropped - (part.length - unused : Nat))
          (after.dropWhile Text.isDigit)
    | 'e' :: _ => exponentPart negative n dropped rest
    | 'E' :: _ => exponentPart negative n dropped rest
    | _ =>
      if dropped = 0 then some (wholeNumber negative n, rest)
      else exponentPart negative n dropped rest

mutual

private def value : Nat → Nat → List Char → Option (Json × List Char)
  | 0, _, _ => none
  | fuel + 1, depth, cs =>
    match skipSpace cs with
    | [] => none
    | c :: rest =>
      if c = '"' then
        (stringBody (rest.length + 1) [] rest).map fun (s, r) => (.string (String.ofList s), r)
      else if c = '[' then
        if depth = 0 then none
        else
          match skipSpace rest with
          | ']' :: r => some (.array [], r)
          | r => (elements fuel (depth - 1) r).map fun (xs, r) => (.array xs, r)
      else if c = '\x7b' then
        if depth = 0 then none
        else
          match skipSpace rest with
          | '\x7d' :: r => some (.object [], r)
          | r => (members fuel (depth - 1) r).map fun (fs, r) => (ofFields fs, r)
      else if c = '-' then (signedNumber true rest).map fun (n, r) => (.number n, r)
      else if Text.isDigit c then (signedNumber false (c :: rest)).map fun (n, r) => (.number n, r)
      else if c = 'n' then (Text.afterHead? "ull".toList rest).map fun r => (.null, r)
      else if c = 't' then (Text.afterHead? "rue".toList rest).map fun r => (.bool true, r)
      else if c = 'f' then (Text.afterHead? "alse".toList rest).map fun r => (.bool false, r)
      else none

private def elements : Nat → Nat → List Char → Option (List Json × List Char)
  | 0, _, _ => none
  | fuel + 1, depth, cs =>
    match value fuel depth cs with
    | none => none
    | some (x, r) =>
      match skipSpace r with
      | ',' :: r => (elements fuel depth r).map fun (xs, r) => (x :: xs, r)
      | ']' :: r => some ([x], r)
      | _ => none

private def members : Nat → Nat → List Char → Option (List (String × Json) × List Char)
  | 0, _, _ => none
  | fuel + 1, depth, cs =>
    match skipSpace cs with
    | '"' :: r =>
      match stringBody (r.length + 1) [] r with
      | none => none
      | some (k, r) =>
        match skipSpace r with
        | ':' :: r =>
          match value fuel depth r with
          | none => none
          | some (x, r) =>
            match skipSpace r with
            | ',' :: r =>
              (members fuel depth r).map fun (fs, r) => ((String.ofList k, x) :: fs, r)
            | '\x7d' :: r => some ([(String.ofList k, x)], r)
            | _ => none
        | _ => none
    | _ => none

end

def maxNesting : Nat := 127

def parse? (s : String) : Option Json :=
  let cs := s.toList
  match value (2 * cs.length + 2) maxNesting cs with
  | some (j, rest) => if (skipSpace rest).isEmpty then some j else none
  | none => none

end InfraTemplate.Json
