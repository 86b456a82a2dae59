import InfraTemplate.Yaml.Glyph

namespace InfraTemplate.Yaml

inductive Chomping where
  | strip
  | clip
  | keep

structure BlockHeader where
  chomping : Chomping
  increment : Option Nat

private def chomping? (c : Char) : Option Chomping :=
  if c = '+' then some .keep else if c = '-' then some .strip else none

def readBlockHeader (gs : Glyphs) : Option (BlockHeader × Glyphs) :=
  let digit (c : Char) : Option Nat := if c.isDigit then some (c.toNat - 48) else none
  let accept (h : BlockHeader) (gs : Glyphs) :=
    if h.increment == some 0 then none else some (h, gs)
  match chomping? gs.char, digit gs.char with
  | some ch, _ =>
    match digit (gs.charAt 1) with
    | some n => accept ⟨ch, some n⟩ (gs.drop 2)
    | none => accept ⟨ch, none⟩ (gs.drop 1)
  | none, some n =>
    match chomping? (gs.charAt 1) with
    | some ch => accept ⟨ch, some n⟩ (gs.drop 2)
    | none => accept ⟨.clip, some n⟩ (gs.drop 1)
  | none, none => some (⟨.clip, none⟩, gs)

def endOfHeader (gs : Glyphs) : Option Glyphs :=
  let gs := gs.dropChars isBlank
  let gs := if gs.char = '#' then gs.dropChars fun c => !isBreakOrEnd c else gs
  if isBreak gs.char then some (gs.drop 1)
  else if isEnd gs.char then some gs
  else none

structure Leading where
  breaks : List Char
  widest : Nat
  rest : Glyphs

def readLeading (indent : Option Nat) (breaks : List Char) (widest : Nat) :
    Glyphs → Option Leading
  | [] => none
  | g :: rest =>
    let inside :=
      match indent with
      | none => true
      | some n => g.column < n
    if inside && g.char == ' ' then readLeading indent breaks widest rest
    else
      let widest := max widest g.column
      if inside && g.char == '\t' then none
      else if isBreak g.char then readLeading indent (breaks ++ [g.char]) widest rest
      else some ⟨breaks, widest, g :: rest⟩

structure BlockState where
  text : List Char
  lastBreak : List Char
  emptyLines : List Char
  indented : Bool

def BlockState.join (s : BlockState) (folded : Bool) (blankStart : Bool) : List Char :=
  let first :=
    if folded && s.lastBreak == ['\n'] && !s.indented && !blankStart then
      if s.emptyLines.isEmpty then [' '] else []
    else s.lastBreak
  s.text ++ first ++ s.emptyLines

def readBlockLines (folded : Bool) (indent : Nat) :
    Nat → BlockState → Glyphs → Option (BlockState × Glyphs)
  | 0, _, _ => none
  | fuel + 1, s, gs =>
    if gs.column = indent && !isEnd gs.char then
      let blankStart := isBlank gs.char
      let content := gs.takeChars fun c => !isBreakOrEnd c
      let after := gs.dropChars fun c => !isBreakOrEnd c
      let (lastBreak, after) :=
        if isBreak after.char then ([after.char], after.drop 1) else ([], after)
      match readLeading (some indent) [] 0 after with
      | none => none
      | some l =>
        readBlockLines folded indent fuel
          ⟨s.join folded blankStart ++ content, lastBreak, l.breaks, blankStart⟩ l.rest
    else some (s, gs)

def readBlock (folded : Bool) (parent : Int) (gs : Glyphs) : Option (List Char × Glyphs) := do
  let (header, gs) ← readBlockHeader gs
  let gs ← endOfHeader gs
  let given := header.increment.map fun n => if parent ≥ 0 then parent.toNat + n else n
  let leading ← readLeading given [] 0 gs
  let indent := given.getD (max leading.widest (max (parent + 1).toNat 1))
  let (s, rest) ← readBlockLines folded indent (gs.length + 1) ⟨[], [], leading.breaks, false⟩
    leading.rest
  let tail :=
    match header.chomping with
    | .strip => []
    | .clip => s.lastBreak
    | .keep => s.lastBreak ++ s.emptyLines
  return (s.text ++ tail, rest)

end InfraTemplate.Yaml
