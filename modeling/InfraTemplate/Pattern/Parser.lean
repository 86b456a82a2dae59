import InfraTemplate.Pattern
import InfraTemplate.Text.Hex

namespace InfraTemplate.Pattern

structure Dialect where
  lookaround : Bool
  asciiClasses : Bool

structure Flags where
  ignoreCase : Bool
  multiLine : Bool
  dotAll : Bool
  swapGreed : Bool
  unicode : Bool
  verbose : Bool
  anyBreak : Bool

def Flags.initial : Flags := ⟨false, false, false, false, true, false, false⟩

def Flags.set (f : Flags) (on : Bool) : Char → Option Flags
  | 'i' => some { f with ignoreCase := on }
  | 'm' => some { f with multiLine := on }
  | 's' => some { f with dotAll := on }
  | 'U' => some { f with swapGreed := on }
  | 'u' => some { f with unicode := on }
  | 'x' => some { f with verbose := on }
  | 'R' => some { f with anyBreak := on }
  | _ => none

structure Reader where
  rest : List Char
  flags : Flags
  names : List String

abbrev Read := StateT Reader Option

namespace Read

def ensure (b : Bool) : Read Unit := if b then pure () else failure

def peek : Read (Option Char) := return (← get).rest.head?

def second : Read (Option Char) := return ((← get).rest.drop 1).head?

def skip (n : Nat) : Read Unit := modify fun r => { r with rest := r.rest.drop n }

def next : Read Char := do
  match (← get).rest with
  | c :: rest =>
    modify fun r => { r with rest := rest }
    return c
  | [] => failure

def flags : Read Flags := return (← get).flags

def take? (text : String) : Read Bool := do
  match Text.afterHead? text.toList (← get).rest with
  | some rest =>
    modify fun r => { r with rest := rest }
    return true
  | none => return false

def takeWhile (p : Char → Bool) : Read (List Char) := do
  let cs := (← get).rest
  modify fun r => { r with rest := cs.dropWhile p }
  return cs.takeWhile p

def blanks (cs : List Char) : Nat → List Char
  | 0 => cs
  | n + 1 =>
    match cs with
    | c :: rest =>
      if Text.isBlank c then blanks rest n
      else if c = '#' then blanks (rest.dropWhile (· != '\n')) n
      else cs
    | [] => []

def space : Read Unit := do
  if (← flags).verbose then modify fun r => { r with rest := blanks r.rest r.rest.length }

end Read

open Read

def charOf? (n : Nat) : Option Char := if n.isValidChar then some (Char.ofNat n) else none

def hexValue (cs : List Char) : Option Nat :=
  if cs.isEmpty then none
  else cs.foldlM (fun n c => (Text.hexValue? c).map (n * 16 + ·)) 0

def hexEscape (digits : Nat) : Read Char := do
  let cs ←
    if ← take? "\x7b" then
      let cs ← takeWhile (· != '\x7d')
      ensure (← take? "\x7d")
      pure cs
    else
      let cs := (← get).rest.take digits
      ensure (cs.length == digits)
      skip digits
      pure cs
  match (hexValue cs).bind charOf? with
  | some c => return c
  | none => failure

def propertyEscape : Read CharSet := do
  ensure (← flags).unicode
  if ← take? "\x7b" then
    let negated ← take? "^"
    let cs ← takeWhile (· != '\x7d')
    ensure (← take? "\x7d")
    let inverted := (Text.splitFirst '!' cs).isSome
    let cs := cs.filter (· != '!')
    let cs :=
      match Text.splitFirst '=' cs, Text.splitFirst ':' cs with
      | some (_, value), _ => value
      | none, some (_, value) => value
      | none, none => cs
    match CharSet.named? (String.ofList cs) with
    | some s => return (if negated != inverted then .complement s else s)
    | none => failure
  else
    let c ← next
    match CharSet.named? (String.ofList [c]) with
    | some s => return s
    | none => failure

inductive Escape where
  | char (c : Char)
  | set (s : CharSet)
  | anchor (a : Anchor)

private def jsonSpace : CharSet :=
  .ofList ['\t', '\n', '\x0b', '\x0c', '\r', ' ', '\u00a0', '\ufeff', '\u2003', '\u2029']

def perlSet (d : Dialect) (f : Flags) (c : Char) : CharSet :=
  let ascii := d.asciiClasses || !f.unicode
  match c with
  | 'd' => if ascii then .asciiDigit else .digit
  | 's' => if d.asciiClasses then jsonSpace else if ascii then .asciiSpace else .space
  | _ => if ascii then .asciiWord else .word

def wordTest (f : Flags) : Char → Bool :=
  if f.unicode then CharSet.isWord else CharSet.asciiWord.has

def escape (d : Dialect) : Read Escape := do
  let f ← flags
  let isIn := wordTest f
  let c ← next
  match c with
  | 'x' => return .char (← hexEscape 2)
  | 'u' => return .char (← hexEscape 4)
  | 'U' => return .char (← hexEscape 8)
  | 'p' => return .set (← propertyEscape)
  | 'P' => return .set (.complement (← propertyEscape))
  | 'd' | 's' | 'w' => return .set (perlSet d f c)
  | 'D' | 'S' | 'W' =>
    ensure f.unicode
    return .set (.complement (perlSet d f c.toLower))
  | 'a' => return .char '\x07'
  | 'f' => return .char '\x0c'
  | 't' => return .char '\t'
  | 'n' => return .char '\n'
  | 'r' => return .char '\r'
  | 'v' => return .char '\x0b'
  | 'A' => return .anchor .textStart
  | 'z' => return .anchor .textEnd
  | 'b' =>
    if ← take? "\x7bstart-half\x7d" then return .anchor (.wordStartHalf isIn)
    else if ← take? "\x7bend-half\x7d" then return .anchor (.wordEndHalf isIn)
    else if ← take? "\x7bstart\x7d" then return .anchor (.wordStart isIn)
    else if ← take? "\x7bend\x7d" then return .anchor (.wordEnd isIn)
    else return .anchor (.wordBoundary isIn)
  | 'B' => return .anchor (.notWordBoundary isIn)
  | '<' => return .anchor (.wordStart isIn)
  | '>' => return .anchor (.wordEnd isIn)
  | c =>
    if c = 'c' && d.asciiClasses then return .char (Char.ofNat ((← next).toNat % 32))
    ensure (c.toNat < 0x80 && !c.isAlphanum)
    return .char c

def foldable (f : Flags) (s : CharSet) : CharSet := if f.ignoreCase then .anyCase s else s

def setItem (d : Dialect) : Read Escape := do
  let c ← next
  if c != '\\' then return .char c
  match ← escape d with
  | .anchor _ => failure
  | e => return e

inductive SetOperation where
  | inter
  | except
  | symmetric

def SetOperation.apply : Option (CharSet × SetOperation) → CharSet → CharSet
  | none, b => b
  | some (a, .inter), b => .inter a b
  | some (a, .except), b => .except a b
  | some (a, .symmetric), b => .union (.except a b) (.except b a)

def asciiClass? : Read (Option CharSet) := do
  let saved ← get
  if ← take? "[:" then
    let negated ← take? "^"
    let name ← takeWhile fun c => 'a' ≤ c && c ≤ 'z'
    if ← take? ":]" then
      match CharSet.ascii? (String.ofList name) with
      | some s => return some (if negated then .complement s else s)
      | none =>
        set saved
        return none
    else
      set saved
      return none
  else return none

def setMember (d : Dialect) : Read CharSet := do
  let f ← flags
  let e ← setItem d
  space
  let rest := (← get).rest
  let after := Read.blanks (rest.drop 1) (if f.verbose then rest.length else 0)
  if (← peek) = some '-' && after.head? != some ']' && after.head? != some '-' then
    skip 1
    space
    match e, ← setItem d with
    | .char a, .char b =>
      ensure (a ≤ b)
      return foldable f (.range a b)
    | _, _ => failure
  else
    match e with
    | .char c => return foldable f (.one c)
    | .set s => return foldable f s
    | .anchor _ => failure

def bracketSet (d : Dialect) : Nat → Read CharSet
  | 0 => failure
  | fuel + 1 => do
    space
    let negated ← take? "^"
    space
    let dashes ← takeWhile (· == '-')
    space
    let start : CharSet := if dashes.isEmpty then .none else .one '-'
    let start ←
      if dashes.isEmpty then
        if ← take? "]" then pure (CharSet.one ']') else pure start
      else pure start
    let rec members (n : Nat) (pending : Option (CharSet × SetOperation)) (s : CharSet) :
        Read CharSet := do
      match n with
      | 0 => failure
      | n + 1 =>
        space
        match ← peek with
        | none => failure
        | some ']' =>
          skip 1
          return SetOperation.apply pending s
        | some '[' =>
          match ← asciiClass? with
          | some named => members n pending (.union s (foldable (← flags) named))
          | none =>
            skip 1
            let inner ← bracketSet d fuel
            members n pending (.union s inner)
        | some c =>
          let doubled := (← second) == some c
          if doubled && c == '&' then
            skip 2
            members n (some (SetOperation.apply pending s, .inter)) .none
          else if doubled && c == '-' then
            skip 2
            members n (some (SetOperation.apply pending s, .except)) .none
          else if doubled && c == '~' then
            skip 2
            members n (some (SetOperation.apply pending s, .symmetric)) .none
          else
            let m ← setMember d
            members n pending (.union s m)
    let s ← members ((← get).rest.length + 1) none start
    if negated then
      ensure (← flags).unicode
      return .complement s
    else return s

def count : Read Nat := do
  let _ ← takeWhile Text.isBlank
  let ds ← takeWhile Text.isDigit
  let _ ← takeWhile Text.isBlank
  ensure (!ds.isEmpty && Text.digitsValue ds < 0x100000000)
  return Text.digitsValue ds

def bounds : Read (Nat × Option Nat) := do
  let least ← count
  if ← take? "\x7d" then return (least, some least)
  ensure (← take? ",")
  if ← take? "\x7d" then return (least, none)
  let most ← count
  ensure (← take? "\x7d")
  ensure (least ≤ most)
  return (least, some most)

def repetitions (p : Pattern) : Nat → Read Pattern
  | 0 => return p
  | fuel + 1 => do
    space
    let range ←
      match ← peek with
      | some '*' => skip 1; pure (some (0, none))
      | some '+' => skip 1; pure (some (1, none))
      | some '?' => skip 1; pure (some (0, some 1))
      | some '\x7b' => skip 1; pure (some (← bounds))
      | _ => pure none
    match range with
    | some (least, most?) =>
      let _ ← take? "?"
      repetitions (.iterate least most? p) fuel
    | none => return p

def lineStart (f : Flags) : Anchor := if f.multiLine then .lineStart else .textStart

def lineEnd (f : Flags) : Anchor := if f.multiLine then .lineEnd else .textEnd

def anyChar (f : Flags) : CharSet :=
  if f.dotAll then .any
  else if f.anyBreak then .complement (.ofList ['\r', '\n'])
  else .complement (.one '\n')

def flagList (on : Bool) (count : Nat) (dangling : Bool) : Nat → Read (Nat × Flags)
  | 0 => failure
  | fuel + 1 => do
    match ← peek with
    | some ':' | some ')' =>
      ensure (!dangling)
      return (count, ← flags)
    | some '-' =>
      ensure on
      skip 1
      flagList false count true fuel
    | some c =>
      match (← flags).set on c with
      | some f =>
        skip 1
        modify fun r => { r with flags := f }
        flagList on (count + 1) false fuel
      | none => failure
    | none => failure

def isNameStart (c : Char) : Bool := c == '_' || CharSet.isAlphabetic c

def isNameChar (c : Char) : Bool :=
  isNameStart c || Text.isDigit c || c == '.' || c == '[' || c == ']'

def groupName : Read Unit := do
  let name ← takeWhile isNameChar
  ensure (← take? ">")
  ensure (name.head?.any isNameStart)
  let name := String.ofList name
  ensure (!(← get).names.contains name)
  modify fun r => { r with names := name :: r.names }

def group (d : Dialect) (inner : Read Pattern) : Read (Option Pattern) := do
  let outer ← flags
  let close (p : Pattern) : Read (Option Pattern) := do
    ensure (← take? ")")
    modify fun r => { r with flags := outer }
    return some p
  space
  if ← take? "?=" then
    ensure d.lookaround
    close (.ahead true (← inner))
  else if ← take? "?!" then
    ensure d.lookaround
    close (.ahead false (← inner))
  else if ← take? "?<=" then
    ensure d.lookaround
    close (.behind true (← inner))
  else if ← take? "?<!" then
    ensure d.lookaround
    close (.behind false (← inner))
  else if ← take? "?P<" then
    groupName
    close (← inner)
  else if ← take? "?<" then
    groupName
    close (← inner)
  else if ← take? "?" then
    let (count, f) ← flagList true 0 false ((← get).rest.length + 1)
    if ← take? ":" then
      modify fun r => { r with flags := f }
      close (← inner)
    else
      ensure (0 < count)
      skip 1
      modify fun r => { r with flags := f }
      return none
  else close (← inner)

def item (d : Dialect) (inner : Read Pattern) : Read (Option Pattern) := do
  let f ← flags
  match ← next with
  | '(' => group d inner
  | '[' => return some (.one (← bracketSet d ((← get).rest.length + 1)))
  | '.' =>
    ensure f.unicode
    return some (.one (anyChar f))
  | '^' => return some (.anchor (lineStart f))
  | '$' => return some (.anchor (lineEnd f))
  | '\\' =>
    match ← escape d with
    | .char c => return some (.one (foldable f (.one c)))
    | .set s => return some (.one (foldable f s))
    | .anchor a => return some (.anchor a)
  | c =>
    ensure (!"*+?\x7b".toList.contains c)
    return some (.one (foldable f (.one c)))

def row (d : Dialect) (inner : Read Pattern) : Nat → Pattern → Read Pattern
  | 0, done => return done
  | fuel + 1, done => do
    space
    match ← peek with
    | none | some '|' | some ')' => return done
    | some _ =>
      match ← item d inner with
      | none => row d inner fuel done
      | some p => row d inner fuel (.seq done (← repetitions p ((← get).rest.length + 1)))

def alternatives (d : Dialect) : Nat → Read Pattern
  | 0 => failure
  | fuel + 1 => do
    let first ← row d (alternatives d fuel) ((← get).rest.length + 1) .empty
    if ← take? "|" then return .alt first (← alternatives d fuel) else return first

def weightLimit : Nat := 400000

def parse? (d : Dialect) (source : String) : Option Pattern := do
  let (p, r) ← (alternatives d (source.length + 2)).run ⟨source.toList, .initial, []⟩
  if r.rest.isEmpty && p.weight ≤ weightLimit then some p else none

def unicode : Dialect := ⟨false, false⟩

def schema : Dialect := ⟨true, true⟩

end InfraTemplate.Pattern
