import InfraTemplate.Yaml.Glyph
import InfraTemplate.Yaml.Scalar.Resolution

namespace InfraTemplate.Yaml

inductive Style where
  | plain
  | singleQuoted
  | doubleQuoted
  | literal
deriving DecidableEq, Repr

def isPrintable (c : Char) : Bool :=
  let n := c.toNat
  n == 0x0A || (0x20 ≤ n && n ≤ 0x7E) || (0xA0 ≤ n && n ≤ 0xFFFD && n != 0xFEFF) ||
    0x10000 ≤ n

def isRawBreak (c : Char) : Bool := isBreak c || c == '\r' || c == nextLine

structure Traits where
  indicators : Bool
  special : Bool
  breaks : Bool
  leadingSpace : Bool
  trailingSpace : Bool
  leadingBreak : Bool
  trailingBreak : Bool
  spaceAfterBreak : Bool
  breakAfterSpace : Bool

private def isRawSeparation (c : Char) : Bool := isBlank c || isRawBreak c || isEnd c

private def startsLikeIndicator (cs : List Char) : Bool :=
  match cs with
  | [] => false
  | c :: rest =>
    let alone := isRawSeparation (rest.headD nul)
    "#,[]\x7b\x7d&*!|>'\"%@`".toList.contains c || ((c == '?' || c == ':' || c == '-') && alone) ||
      cs.take 3 == ['-', '-', '-'] || cs.take 3 == ['.', '.', '.']

private def holdsIndicator (previous : Char) : List Char → Bool
  | [] => false
  | c :: rest =>
    (c == ':' && isRawSeparation (rest.headD nul)) || (c == '#' && isRawSeparation previous) ||
      holdsIndicator c rest

private def anyAdjacent (p q : Char → Bool) : List Char → Bool
  | a :: b :: rest => (p a && q b) || anyAdjacent p q (b :: rest)
  | _ => false

def traits (cs : List Char) : Traits where
  indicators := startsLikeIndicator cs || (match cs with
    | c :: rest => holdsIndicator c rest
    | [] => false)
  special := cs.any fun c => !isPrintable c
  breaks := cs.any isRawBreak
  leadingSpace := cs.head? == some ' '
  trailingSpace := cs.getLast? == some ' '
  leadingBreak := cs.head?.any isRawBreak
  trailingBreak := cs.getLast?.any isRawBreak
  spaceAfterBreak := anyAdjacent isRawBreak (· == ' ') cs
  breakAfterSpace := anyAdjacent (· == ' ') isRawBreak cs

namespace Traits

def plainAllowed (t : Traits) : Bool :=
  !(t.leadingSpace || t.leadingBreak || t.trailingSpace || t.trailingBreak || t.spaceAfterBreak ||
    t.breakAfterSpace || t.special || t.breaks || t.indicators)

def singleAllowed (t : Traits) : Bool := !(t.spaceAfterBreak || t.breakAfterSpace || t.special)

def literalAllowed (t : Traits) : Bool := !(t.trailingSpace || t.breakAfterSpace || t.special)

end Traits

def wantedStyle (s : String) : Style :=
  if s.toList.contains '\n' then .literal
  else if readsAsText s && !zeroPadded s.toList then .plain
  else .singleQuoted

def styleOf (simpleKey : Bool) (s : String) : Style :=
  let t := traits s.toList
  let quoted := if t.singleAllowed then Style.singleQuoted else .doubleQuoted
  if simpleKey && t.breaks then .doubleQuoted
  else
    match wantedStyle s with
    | .plain => if t.plainAllowed then .plain else quoted
    | .literal => if t.literalAllowed && !simpleKey then .literal else .doubleQuoted
    | _ => quoted

end InfraTemplate.Yaml
