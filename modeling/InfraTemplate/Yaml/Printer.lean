import InfraTemplate.Text.Hex
import InfraTemplate.Yaml.Scalar.Style

namespace InfraTemplate.Yaml

/-- Text written so far, the latest character first. -/
abbrev Output := List Char

namespace Output

def add (out : Output) (s : List Char) : Output := s.reverse ++ out

def spaces (out : Output) (n : Nat) : Output := List.replicate n ' ' ++ out

def newLine (out : Output) (indent : Nat) : Output :=
  match out with
  | [] => spaces [] indent
  | c :: rest => if isRawBreak c then spaces (c :: rest) indent else spaces ('\n' :: c :: rest) indent

end Output

private def upperHex (n : Nat) : Char := if n < 10 then Char.ofNat (48 + n) else Char.ofNat (55 + n)

private def hexCode (width n : Nat) : List Char :=
  (List.range width).map fun i => upperHex (n / Nat.pow 16 (width - 1 - i) % 16)

private def escapeLetter? (c : Char) : Option Char :=
  match c.toNat with
  | 0 => some '0'
  | 7 => some 'a'
  | 8 => some 'b'
  | 9 => some 't'
  | 10 => some 'n'
  | 11 => some 'v'
  | 12 => some 'f'
  | 13 => some 'r'
  | 27 => some 'e'
  | 34 => some '"'
  | 92 => some '\\'
  | 0x85 => some 'N'
  | 0x2028 => some 'L'
  | 0x2029 => some 'P'
  | _ => none

def escapeChar (c : Char) : List Char :=
  if isPrintable c && !isRawBreak c && c != '"' && c != '\\' then [c]
  else
    match escapeLetter? c with
    | some l => ['\\', l]
    | none =>
      let n := c.toNat
      if n ≤ 0xFF then '\\' :: 'x' :: hexCode 2 n
      else if n ≤ 0xFFFF then '\\' :: 'u' :: hexCode 4 n
      else '\\' :: 'U' :: hexCode 8 n

def doubleQuotedText (cs : List Char) : List Char := '"' :: cs.flatMap escapeChar ++ ['"']

private def singleQuotedBody (indent : Nat) (afterBreak : Bool) : Output → List Char → Output
  | out, [] => if afterBreak then out.newLine indent else out
  | out, c :: cs =>
    if isRawBreak c then
      let out := if !afterBreak && c == '\n' then '\n' :: out else out
      singleQuotedBody indent true (c :: out) cs
    else
      let out := if afterBreak && c != ' ' then out.newLine indent else out
      let out := if c == '\'' then '\'' :: out else out
      singleQuotedBody indent (afterBreak && c == ' ') (c :: out) cs

private def literalBody (indent : Nat) (afterBreak : Bool) : Output → List Char → Output
  | out, [] => out
  | out, c :: cs =>
    if isRawBreak c then literalBody indent true (c :: out) cs
    else literalBody indent false (c :: if afterBreak then out.spaces indent else out) cs

private def literalHeader (cs : List Char) : List Char :=
  let hint := if cs.head?.any fun c => c == ' ' || isRawBreak c then ['2'] else []
  let chomping :=
    match cs.reverse with
    | [] => ['-']
    | [c] => if isRawBreak c then ['+'] else ['-']
    | c :: d :: _ => if !isRawBreak c then ['-'] else if isRawBreak d then ['+'] else []
  '|' :: hint ++ chomping

def writeText (style : Style) (indent : Nat) (out : Output) (s : String) : Output :=
  let cs := s.toList
  match style with
  | .plain => out.add cs
  | .singleQuoted => '\'' :: singleQuotedBody indent false ('\'' :: out) cs
  | .doubleQuoted => out.add (doubleQuotedText cs)
  | .literal => literalBody indent true ('\n' :: out.add (literalHeader cs)) cs

structure Position where
  outer : Option Nat
  isMapValue : Bool
  sameLine : Bool
  follows : Bool

def Position.root : Position := ⟨none, false, true, false⟩

namespace Position

def inner (p : Position) : Nat :=
  match p.outer with
  | none => 0
  | some n => n + 2

def sequenceIndent (p : Position) : Nat :=
  match p.outer with
  | none => 0
  | some n => if p.isMapValue && !p.sameLine then n else n + 2

def scalarIndent (p : Position) : Nat :=
  match p.outer with
  | none => 2
  | some n => n + 2

def gap (p : Position) (out : Output) : Output := if p.follows then ' ' :: out else out

def entry (p : Position) (first : Bool) (indent : Nat) (out : Output) : Output :=
  if first && p.sameLine then p.gap out else out.newLine indent

end Position

def Value.scalarText? : Value → Option String
  | .null => some "null"
  | .bool b => some (if b then "true" else "false")
  | .number n => some n.text
  | _ => none

def isSimpleKey : Value → Bool
  | .string s => s.utf8ByteSize ≤ 128 && !s.toList.any isRawBreak
  | .sequence items => items.isEmpty
  | .mapping entries => entries.isEmpty
  | .tagged .. => false
  | _ => true

private def writeSimpleKey (out : Output) : Value → Output
  | .string s => writeText (styleOf true s) 0 out s
  | .sequence _ => out.add ['[', ']']
  | .mapping _ => out.add ['\x7b', '\x7d']
  | k => out.add (k.scalarText?.getD "").toList

mutual

def write (p : Position) (out : Output) : Value → Output
  | .null => (p.gap out).add "null".toList
  | .bool b => (p.gap out).add (if b then "true".toList else "false".toList)
  | .number n => (p.gap out).add n.text.toList
  | .string s => writeText (styleOf false s) p.scalarIndent (p.gap out) s
  | .sequence items =>
    if items.isEmpty then (p.gap out).add ['[', ']'] else writeItems p true p.sequenceIndent out items
  | .mapping entries =>
    if entries.isEmpty then (p.gap out).add ['\x7b', '\x7d']
    else writePairs p true p.inner out entries
  | .tagged name v =>
    write ⟨p.outer, p.isMapValue, false, true⟩ ((p.gap out).add ('!' :: name.toList)) v

def writeItems (p : Position) (first : Bool) (indent : Nat) (out : Output) :
    List Value → Output
  | [] => out
  | x :: xs =>
    let out := write ⟨some indent, false, true, true⟩ ('-' :: p.entry first indent out) x
    writeItems p false indent out xs

def writePairs (p : Position) (first : Bool) (indent : Nat) (out : Output) :
    List (Value × Value) → Output
  | [] => out
  | (k, v) :: rest =>
    let out := p.entry first indent out
    let out :=
      if isSimpleKey k then
        write ⟨some indent, true, false, true⟩ (':' :: writeSimpleKey out k) v
      else
        let out := write ⟨some indent, true, true, true⟩ ('?' :: out) k
        write ⟨some indent, true, true, true⟩ (':' :: out.newLine indent) v
    writePairs p false indent out rest

end

def print (v : Value) : String :=
  String.ofList ((write .root [] v).newLine 0).reverse

end InfraTemplate.Yaml
