import InfraTemplate.Yaml.Scalar.Block
import InfraTemplate.Yaml.Scalar.Plain
import InfraTemplate.Yaml.Scalar.Quoted
import InfraTemplate.Text.Piece
import InfraTemplate.Text.Utf8

/-!
Tokens of a YAML text. A key is known only at its colon, so the places where one may have begun are
kept until then.
-/

namespace InfraTemplate.Yaml

inductive Token where
  | streamEnd
  | version (major minor : Nat)
  | tagHandle (handle expansion : String)
  | documentStart
  | documentEnd
  | blockSequence
  | blockMapping
  | blockEnd
  | flowSequence
  | flowSequenceEnd
  | flowMapping
  | flowMappingEnd
  | entry
  | comma
  | key
  | value
  | reference (name : String)
  | anchor (name : String)
  | tag (handle rest : String)
  | scalar (text : String) (plain : Bool)
deriving DecidableEq, Repr

def isUriChar (verbatim : Bool) (c : Char) : Bool :=
  isWordChar c || ";/?:@&=+$.%!~*'()".toList.contains c || (verbatim && ",[]".toList.contains c)

private def escapedOctets : Nat → Glyphs → Option (List UInt8 × Glyphs)
  | 0, gs => some ([], gs)
  | n + 1, gs => do
    if gs.char = '%' then
      let a ← Text.hexValue? (gs.charAt 1)
      let b ← Text.hexValue? (gs.charAt 2)
      let (rest, gs) ← escapedOctets n (gs.drop 3)
      return (UInt8.ofNat (a * 16 + b) :: rest, gs)
    else none

private def octetCount (lead : Nat) : Option Nat :=
  if lead < 0x80 then some 1
  else if 0xC0 ≤ lead && lead < 0xE0 then some 2
  else if 0xE0 ≤ lead && lead < 0xF0 then some 3
  else if 0xF0 ≤ lead && lead < 0xF8 then some 4
  else none

private def escapedChar (gs : Glyphs) : Option (Char × Glyphs) := do
  let a ← Text.hexValue? (gs.charAt 1)
  let b ← Text.hexValue? (gs.charAt 2)
  let n ← octetCount (a * 16 + b)
  let (octets, rest) ← escapedOctets n gs
  match Text.decodeLossy octets with
  | [c] => if c = Text.replacement then none else some (c, rest)
  | _ => none

private def uriText (verbatim : Bool) : Nat → List Char → Glyphs → Option (List Char × Glyphs)
  | 0, _, _ => none
  | fuel + 1, acc, gs =>
    if isUriChar verbatim gs.char then
      if gs.char = '%' then
        match escapedChar gs with
        | some (c, rest) => uriText verbatim fuel (c :: acc) rest
        | none => none
      else uriText verbatim fuel (gs.char :: acc) (gs.drop 1)
    else some (acc.reverse, gs)

private def handleText (gs : Glyphs) : List Char × Glyphs :=
  let name := Glyphs.takeChars isWordChar (gs.drop 1)
  let rest := Glyphs.dropChars isWordChar (gs.drop 1)
  if Glyphs.char rest = '!' then ('!' :: name ++ ['!'], rest.drop 1) else ('!' :: name, rest)

def readTag (flow : Bool) (gs : Glyphs) : Option (Token × Glyphs) := do
  let fuel := gs.length + 1
  let (token, rest) ←
    if gs.charAt 1 = '<' then do
      let (uri, rest) ← uriText true fuel [] (gs.drop 2)
      if uri.isEmpty || Glyphs.char rest ≠ '>' then none
      else some (Token.tag "" (String.ofList uri), rest.drop 1)
    else do
      let (handle, rest) := handleText gs
      let (uri, rest) ← uriText false fuel [] rest
      if handle.length > 1 && handle.getLast? == some '!' then
        if uri.isEmpty then none
        else some (Token.tag (String.ofList handle) (String.ofList uri), rest)
      else
        let tail := handle.drop 1 ++ uri
        if tail.isEmpty then some (Token.tag "" "!", rest)
        else some (Token.tag "!" (String.ofList tail), rest)
  if isSeparation (Glyphs.char rest) || (flow && Glyphs.char rest = ',') then
    some (token, rest)
  else none

def readName (gs : Glyphs) : Option (String × Glyphs) :=
  let name := Glyphs.takeChars isWordChar (gs.drop 1)
  let rest := Glyphs.dropChars isWordChar (gs.drop 1)
  let c := Glyphs.char rest
  if name.isEmpty || !(isSeparation c || "?:,]\x7d%@`".toList.contains c) then none
  else some (String.ofList name, rest)

private def versionNumber (gs : Glyphs) : Option (Nat × Glyphs) :=
  let ds := gs.takeChars Text.isDigit
  if ds.isEmpty || ds.length > 9 then none
  else some (Text.digitsValue ds, gs.dropChars Text.isDigit)

private def readVersion (gs : Glyphs) : Option (Token × Glyphs) := do
  let (major, rest) ← versionNumber (gs.dropChars isBlank)
  if Glyphs.char rest ≠ '.' then none
  else
    let (minor, rest) ← versionNumber (rest.drop 1)
    return (.version major minor, rest)

private def readTagHandle (gs : Glyphs) : Option (Token × Glyphs) := do
  let gs : Glyphs := gs.dropChars isBlank
  if gs.char ≠ '!' then none
  else
    let (handle, rest) := handleText gs
    if (handle.length > 1 && handle.getLast? != some '!') || !isBlank (Glyphs.char rest) then none
    else
      let rest := Glyphs.dropChars isBlank rest
      let (uri, rest) ← uriText true (rest.length + 1) [] rest
      if uri.isEmpty || !isSeparation (Glyphs.char rest) then none
      else return (.tagHandle (String.ofList handle) (String.ofList uri), rest)

def readDirective (gs : Glyphs) : Option (Token × Glyphs) := do
  let name := Glyphs.takeChars isWordChar (gs.drop 1)
  let rest := Glyphs.dropChars isWordChar (gs.drop 1)
  if !isSeparation (Glyphs.char rest) then none
  else
    let (token, rest) ←
      if name = "YAML".toList then readVersion rest
      else if name = "TAG".toList then readTagHandle rest
      else none
    let rest ← endOfHeader rest
    return (token, rest)

/-- A place where a key may have begun that only its colon will show to be one, after `position`
tokens. -/
structure PossibleKey where
  required : Bool
  position : Nat
  line : Nat
  column : Nat
  index : Nat

structure Lexer where
  rest : Glyphs
  tokens : List Token
  count : Nat
  indent : Int
  outer : List Int
  keys : List (Option PossibleKey)
  keyAllowed : Bool

namespace Lexer

def ofGlyphs (gs : Glyphs) : Lexer := ⟨gs, [], 0, -1, [], [none], true⟩

def flow (s : Lexer) : Bool := s.keys.length > 1

def emit (s : Lexer) (t : Token) : Lexer := { s with tokens := t :: s.tokens, count := s.count + 1 }

def emitAt (s : Lexer) (position : Nat) (t : Token) : Lexer :=
  let later := s.tokens.take (s.count - position)
  let earlier := s.tokens.drop (s.count - position)
  { s with tokens := later ++ t :: earlier, count := s.count + 1 }

def skip (s : Lexer) (n : Nat) : Lexer := { s with rest := s.rest.drop n }

def dedent (column : Int) : List Int → Lexer → Lexer
  | outer, s =>
    if s.indent > column then
      match outer with
      | i :: outer => dedent column outer { s.emit .blockEnd with indent := i, outer := outer }
      | [] => s
    else s

def closeTo (s : Lexer) (column : Int) : Lexer := if s.flow then s else dedent column s.outer s

def openAt (s : Lexer) (column : Nat) (position : Nat) (t : Token) : Lexer :=
  if s.flow || s.indent ≥ column then s
  else { s.emitAt position t with indent := column, outer := s.indent :: s.outer }

def dropKey (s : Lexer) : Option Lexer :=
  match s.keys with
  | some k :: keys => if k.required then none else some { s with keys := none :: keys }
  | _ => some s

def noteKey (s : Lexer) : Option Lexer :=
  if s.keyAllowed then do
    let g := s.rest
    let required := !s.flow && s.indent == g.column
    let s ← s.dropKey
    return { s with keys := some ⟨required, s.count, g.line, g.column, g.index⟩ :: s.keys.drop 1 }
  else some s

def isStale (gs : Glyphs) (k : PossibleKey) : Bool := k.line < gs.line || k.index + 1024 < gs.index

def dropStale (s : Lexer) : Option Lexer :=
  let stale (k : Option PossibleKey) := k.any (isStale s.rest)
  if s.keys.any fun k => stale k && k.any (·.required) then none
  else some { s with keys := s.keys.map fun k => if stale k then none else k }

def skipGaps : Nat → Lexer → Lexer
  | 0, s => s
  | fuel + 1, s =>
    let gs : Glyphs := s.rest
    let gs : Glyphs := if gs.column = 0 && gs.char = byteOrderMark then gs.drop 1 else gs
    let tabs := s.flow || !s.keyAllowed
    let gs : Glyphs := gs.dropChars fun c => c == ' ' || (tabs && c == '\t')
    let gs : Glyphs := if gs.char = '#' then gs.dropChars fun c => !isBreakOrEnd c else gs
    if isBreak gs.char then
      skipGaps fuel { s with rest := gs.drop 1, keyAllowed := s.keyAllowed || !s.flow }
    else { s with rest := gs }

def setKeyAllowed (s : Lexer) (b : Bool) : Lexer := { s with keyAllowed := b }

def finish (s : Lexer) : Option Lexer := do
  let s ← (s.closeTo (-1)).dropKey
  return (s.setKeyAllowed false).emit .streamEnd

def directive (s : Lexer) : Option Lexer := do
  let s ← (s.closeTo (-1)).dropKey
  let (t, rest) ← readDirective s.rest
  return { s.setKeyAllowed false with rest := rest }.emit t

def documentMark (s : Lexer) (t : Token) : Option Lexer := do
  let s ← (s.closeTo (-1)).dropKey
  return ((s.setKeyAllowed false).skip 3).emit t

def openFlow (s : Lexer) (t : Token) : Option Lexer := do
  let s ← s.noteKey
  return (({ s with keys := none :: s.keys }.setKeyAllowed true).skip 1).emit t

def closeFlow (s : Lexer) (t : Token) : Option Lexer := do
  let s ← s.dropKey
  let s := if s.flow then { s with keys := s.keys.drop 1 } else s
  return ((s.setKeyAllowed false).skip 1).emit t

def comma (s : Lexer) : Option Lexer := do
  let s ← s.dropKey
  return ((s.setKeyAllowed true).skip 1).emit .comma

def entry (s : Lexer) : Option Lexer := do
  if !s.flow && !s.keyAllowed then none
  else
    let s ← (s.openAt s.rest.column s.count .blockSequence).dropKey
    return ((s.setKeyAllowed true).skip 1).emit .entry

def key (s : Lexer) : Option Lexer := do
  if !s.flow && !s.keyAllowed then none
  else
    let s ← (s.openAt s.rest.column s.count .blockMapping).dropKey
    return ((s.setKeyAllowed !s.flow).skip 1).emit .key

def value (s : Lexer) : Option Lexer :=
  match s.keys with
  | some k :: keys =>
    let s := ({ s with keys := none :: keys }.emitAt k.position .key).openAt k.column k.position
      .blockMapping
    some (((s.setKeyAllowed false).skip 1).emit .value)
  | _ =>
    if !s.flow && !s.keyAllowed then none
    else
      let s := s.openAt s.rest.column s.count .blockMapping
      some (((s.setKeyAllowed !s.flow).skip 1).emit .value)

def named (s : Lexer) (token : String → Token) : Option Lexer := do
  let s ← s.noteKey
  let (name, rest) ← readName s.rest
  return { s.setKeyAllowed false with rest := rest }.emit (token name)

def tag (s : Lexer) : Option Lexer := do
  let s ← s.noteKey
  let (t, rest) ← readTag s.flow s.rest
  return { s.setKeyAllowed false with rest := rest }.emit t

def block (s : Lexer) (folded : Bool) : Option Lexer := do
  let s ← s.dropKey
  let (text, rest) ← readBlock folded s.indent (s.rest.drop 1)
  return { s.setKeyAllowed true with rest := rest }.emit (.scalar (String.ofList text) false)

def quoted (s : Lexer) (single : Bool) : Option Lexer := do
  let s ← s.noteKey
  let gs := s.rest.drop 1
  let (text, rest) ←
    if single then readSingleQuoted [] .none gs else readDoubleQuoted (gs.length + 1) [] .none gs
  return { s.setKeyAllowed false with rest := rest }.emit (.scalar (String.ofList text) false)

def plain (s : Lexer) : Option Lexer := do
  let s ← s.noteKey
  let p ← readPlain ⟨s.indent, s.flow⟩ [] .none s.rest
  return { s.setKeyAllowed p.endsLine with rest := p.rest }.emit
    (.scalar (String.ofList p.text) true)

def startsPlain (s : Lexer) : Bool :=
  let gs := s.rest
  let c := gs.char
  !(isSeparation c || "-?:,[]\x7b\x7d#&*!|>'\"%@`".toList.contains c) ||
    (c == '-' && !isBlank (gs.charAt 1)) ||
    (!s.flow && (c == '?' || c == ':') && !isSeparation (gs.charAt 1))

def next (s : Lexer) : Option Lexer := do
  let s ← (skipGaps (s.rest.length + 1) s).dropStale
  let gs := s.rest
  let s := s.closeTo gs.column
  let c := gs.char
  let alone := isSeparation (gs.charAt 1)
  if isEnd c then s.finish
  else if gs.column = 0 && c = '%' then s.directive
  else if gs.atDocumentMark && c = '-' then s.documentMark .documentStart
  else if gs.atDocumentMark then s.documentMark .documentEnd
  else if c = '[' then s.openFlow .flowSequence
  else if c = '\x7b' then s.openFlow .flowMapping
  else if c = ']' then s.closeFlow .flowSequenceEnd
  else if c = '\x7d' then s.closeFlow .flowMappingEnd
  else if c = ',' then s.comma
  else if c = '-' && alone then s.entry
  else if c = '?' && (s.flow || alone) then s.key
  else if c = ':' && (s.flow || alone) then s.value
  else if c = '*' then s.named .reference
  else if c = '&' then s.named .anchor
  else if c = '!' then s.tag
  else if c = '|' && !s.flow then s.block false
  else if c = '>' && !s.flow then s.block true
  else if c = '\'' then s.quoted true
  else if c = '"' then s.quoted false
  else if s.startsPlain then s.plain
  else none

def run : Nat → Lexer → Option (List Token)
  | 0, _ => none
  | fuel + 1, s => do
    let s ← s.next
    if s.tokens.head? = some .streamEnd then return s.tokens.reverse
    else run fuel s

end Lexer

def tokens? (s : String) : Option (List Token) := do
  let gs ← glyphs? s
  Lexer.run (gs.length + 1) (Lexer.ofGlyphs gs)

end InfraTemplate.Yaml
