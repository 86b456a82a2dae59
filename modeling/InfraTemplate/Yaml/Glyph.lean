namespace InfraTemplate.Yaml

/-- A character of a text with its place. The text ends in a NUL, which no text contains. -/
structure Glyph where
  char : Char
  line : Nat
  column : Nat
  index : Nat

abbrev Glyphs := List Glyph

def nul : Char := Char.ofNat 0

def lineSeparator : Char := Char.ofNat 0x2028

def paragraphSeparator : Char := Char.ofNat 0x2029

def nextLine : Char := Char.ofNat 0x85

def byteOrderMark : Char := Char.ofNat 0xFEFF

def isBreak (c : Char) : Bool := c == '\n' || c == lineSeparator || c == paragraphSeparator

def isBlank (c : Char) : Bool := c == ' ' || c == '\t'

def isEnd (c : Char) : Bool := c == nul

def isBreakOrEnd (c : Char) : Bool := isBreak c || isEnd c

def isSeparation (c : Char) : Bool := isBlank c || isBreakOrEnd c

def isFlowIndicator (c : Char) : Bool :=
  c == ',' || c == '[' || c == ']' || c == '\x7b' || c == '\x7d'

def isWordChar (c : Char) : Bool := c.isAlphanum || c == '-' || c == '_'

def isAllowed (c : Char) : Bool :=
  let n := c.toNat
  n == 9 || n == 10 || n == 13 || (0x20 ≤ n && n ≤ 0x7E) || n == 0x85 ||
    (0xA0 ≤ n && n ≤ 0xFFFD) || 0x10000 ≤ n

def place (line column index : Nat) : List Char → Glyphs
  | [] => [⟨nul, line, column, index⟩]
  | '\r' :: '\n' :: cs => ⟨'\n', line, column, index⟩ :: place (line + 1) 0 (index + 2) cs
  | c :: cs =>
    let c := if c = '\r' || c = nextLine then '\n' else c
    if isBreak c then ⟨c, line, column, index⟩ :: place (line + 1) 0 (index + 1) cs
    else ⟨c, line, column, index⟩ :: place line (column + 1) (index + 1) cs

def glyphs? (s : String) : Option Glyphs :=
  let cs :=
    match s.toList with
    | c :: cs => if c = byteOrderMark then cs else c :: cs
    | [] => []
  if cs.all isAllowed then some (place 0 0 0 cs) else none

namespace Glyphs

def char (gs : Glyphs) : Char :=
  match gs with
  | g :: _ => g.char
  | [] => nul

def charAt (gs : Glyphs) (n : Nat) : Char := char (gs.drop n)

def column (gs : Glyphs) : Nat :=
  match gs with
  | g :: _ => g.column
  | [] => 0

def line (gs : Glyphs) : Nat :=
  match gs with
  | g :: _ => g.line
  | [] => 0

def index (gs : Glyphs) : Nat :=
  match gs with
  | g :: _ => g.index
  | [] => 0

def dropChars (p : Char → Bool) (gs : Glyphs) : Glyphs := gs.dropWhile fun g => p g.char

def takeChars (p : Char → Bool) (gs : Glyphs) : List Char :=
  (gs.takeWhile fun g => p g.char).map (·.char)

def atDocumentMark (gs : Glyphs) : Bool :=
  let c := gs.char
  gs.column == 0 && (c == '-' || c == '.') && gs.charAt 1 == c && gs.charAt 2 == c &&
    isSeparation (gs.charAt 3)

end Glyphs

inductive Gap where
  | none
  | blanks (reversed : List Char)
  | breaks (first : Option Char) (later : List Char)

namespace Gap

def addBlank (c : Char) : Gap → Gap
  | none => .blanks [c]
  | blanks cs => .blanks (c :: cs)
  | breaks first later => .breaks first later

def addBreak (c : Char) : Gap → Gap
  | breaks first later => .breaks first (later ++ [c])
  | _ => .breaks (some c) []

def hasBreak : Gap → Bool
  | breaks .. => true
  | _ => false

def isNone : Gap → Bool
  | none => true
  | _ => false

def text : Gap → List Char
  | none => []
  | blanks cs => cs.reverse
  | breaks (some '\n') [] => [' ']
  | breaks (some '\n') later => later
  | breaks (some c) later => c :: later
  | breaks .none later => later

end Gap

end InfraTemplate.Yaml
