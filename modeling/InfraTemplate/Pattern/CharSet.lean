import InfraTemplate.Text.Blank
import InfraTemplate.Text.Case
import InfraTemplate.Text.Category
import InfraTemplate.Text.Piece

namespace InfraTemplate

inductive CharSet where
  | none
  | range (first last : Char)
  | property (p : Char → Bool)
  | union (a b : CharSet)
  | inter (a b : CharSet)
  | except (a b : CharSet)
  | complement (a : CharSet)
  | anyCase (a : CharSet)

namespace CharSet

def foldCase (c : Char) : Char :=
  if c.toNat < 0x80 then c.toLower
  else
    let upper := (Text.CaseRun.partner? Text.uppercaseRuns c).getD c
    (Text.CaseRun.partner? Text.lowercaseRuns upper).getD upper

private def sources (runs : List Text.CaseRun) (c : Char) : List Char :=
  runs.filterMap fun r =>
    let n := Int.ofNat c.toNat - r.shift
    if Int.ofNat r.first ≤ n && n ≤ Int.ofNat r.last && (n.toNat - r.first) % r.step == 0 then
      some (Char.ofNat n.toNat)
    else Option.none

def caseVariants (c : Char) : List Char :=
  let base := foldCase c
  let direct := base :: (sources Text.lowercaseRuns base ++ sources Text.uppercaseRuns base)
  let all := direct ++ direct.flatMap fun d => sources Text.uppercaseRuns d
  c :: all.filter fun d => foldCase d == base

def has : CharSet → Char → Bool
  | none, _ => false
  | range first last, c => first ≤ c && c ≤ last
  | property p, c => p c
  | union a b, c => a.has c || b.has c
  | inter a b, c => a.has c && b.has c
  | except a b, c => a.has c && !b.has c
  | complement a, c => !a.has c
  | anyCase a, c => (caseVariants c).any a.has

def one (c : Char) : CharSet := range c c

def any : CharSet := property fun _ => true

def ofList (cs : List Char) : CharSet := cs.foldr (fun c s => union (one c) s) none

def asciiDigit : CharSet := range '0' '9'

def asciiWord : CharSet :=
  union (range 'a' 'z') (union (range 'A' 'Z') (union asciiDigit (one '_')))

def asciiSpace : CharSet := ofList ['\t', '\n', '\x0b', '\x0c', '\r', ' ']

def digit : CharSet := property (Text.Category.has "Nd")

def space : CharSet := property Text.isBlank

def isAlphabetic (c : Char) : Bool :=
  if c.toNat < 0x80 then c.isAlpha
  else
    Text.Category.has "L" c || Text.Category.has "Nl" c ||
      Text.inRanges [(0x24B6, 0x24E9), (0x1F130, 0x1F149), (0x1F150, 0x1F169), (0x1F170, 0x1F189)] c

def isWord (c : Char) : Bool :=
  if c.toNat < 0x80 then c.isAlphanum || c == '_'
  else
    isAlphabetic c || Text.Category.has "M" c || Text.Category.has "Nd" c ||
      Text.Category.has "Pc" c || c.toNat == 0x200C || c.toNat == 0x200D

def word : CharSet := property isWord

def ascii? (name : String) : Option CharSet :=
  let letter := union (range 'a' 'z') (range 'A' 'Z')
  let punct := union (range '!' '/') (union (range ':' '@') (union (range '[' '\x60') (range '\x7b' '~')))
  match name with
  | "alnum" => some (union letter asciiDigit)
  | "alpha" => some letter
  | "ascii" => some (range '\x00' '\x7f')
  | "blank" => some (ofList ['\t', ' '])
  | "cntrl" => some (union (range '\x00' '\x1f') (one '\x7f'))
  | "digit" => some asciiDigit
  | "graph" => some (range '!' '~')
  | "lower" => some (range 'a' 'z')
  | "print" => some (range ' ' '~')
  | "punct" => some punct
  | "space" => some asciiSpace
  | "upper" => some (range 'A' 'Z')
  | "word" => some asciiWord
  | "xdigit" => some (union asciiDigit (union (range 'a' 'f') (range 'A' 'F')))
  | _ => Option.none

private def scripts : List (String × List (Nat × Nat)) :=
  [("latin", [(0x41, 0x5A), (0x61, 0x7A), (0xAA, 0xAA), (0xBA, 0xBA), (0xC0, 0xD6), (0xD8, 0xF6),
      (0xF8, 0x2B8), (0x2E0, 0x2E4), (0x1D00, 0x1D25), (0x1D2C, 0x1D5C), (0x1D62, 0x1D65),
      (0x1D6B, 0x1D77), (0x1D79, 0x1DBE), (0x1E00, 0x1EFF), (0x2071, 0x2071), (0x207F, 0x207F),
      (0x2090, 0x209C), (0x212A, 0x212B), (0x2132, 0x2132), (0x214E, 0x214E), (0x2160, 0x2188),
      (0x2C60, 0x2C7F), (0xA722, 0xA787), (0xA78B, 0xA7CD), (0xA7D0, 0xA7DC), (0xA7F2, 0xA7FF),
      (0xAB30, 0xAB5A), (0xAB5C, 0xAB64), (0xAB66, 0xAB69), (0xFB00, 0xFB06), (0xFF21, 0xFF3A),
      (0xFF41, 0xFF5A)]),
    ("greek", [(0x370, 0x373), (0x375, 0x377), (0x37A, 0x37D), (0x37F, 0x37F), (0x384, 0x384),
      (0x386, 0x386), (0x388, 0x38A), (0x38C, 0x38C), (0x38E, 0x3A1), (0x3A3, 0x3E1),
      (0x3F0, 0x3FF), (0x1D26, 0x1D2A), (0x1D5D, 0x1D61), (0x1D66, 0x1D6A), (0x1DBF, 0x1DBF),
      (0x1F00, 0x1F15), (0x1F18, 0x1F1D), (0x1F20, 0x1F45), (0x1F48, 0x1F4D), (0x1F50, 0x1F57),
      (0x1F59, 0x1F59), (0x1F5B, 0x1F5B), (0x1F5D, 0x1F5D), (0x1F5F, 0x1F7D), (0x1F80, 0x1FB4),
      (0x1FB6, 0x1FC4), (0x1FC6, 0x1FD3), (0x1FD6, 0x1FDB), (0x1FDD, 0x1FEF), (0x1FF2, 0x1FF4),
      (0x1FF6, 0x1FFE), (0x2126, 0x2126), (0xAB65, 0xAB65), (0x10140, 0x1018E), (0x101A0, 0x101A0),
      (0x1D200, 0x1D245)]),
    ("cyrillic", [(0x400, 0x484), (0x487, 0x52F), (0x1C80, 0x1C8A), (0x1D2B, 0x1D2B),
      (0x1D78, 0x1D78), (0x2DE0, 0x2DFF), (0xA640, 0xA69F), (0xFE2E, 0xFE2F)]),
    ("han", [(0x2E80, 0x2E99), (0x2E9B, 0x2EF3), (0x2F00, 0x2FD5), (0x3005, 0x3005),
      (0x3007, 0x3007), (0x3021, 0x3029), (0x3038, 0x303B), (0x3400, 0x4DBF), (0x4E00, 0x9FFF),
      (0xF900, 0xFA6D), (0xFA70, 0xFAD9), (0x16FE2, 0x16FE3), (0x16FF0, 0x16FF1),
      (0x20000, 0x2A6DF), (0x2A700, 0x2B739), (0x2B740, 0x2B81D), (0x2B820, 0x2CEA1),
      (0x2CEB0, 0x2EBE0), (0x2EBF0, 0x2EE5D), (0x2F800, 0x2FA1D), (0x30000, 0x3134A),
      (0x31350, 0x323AF)]),
    ("hiragana", [(0x3041, 0x3096), (0x309D, 0x309F), (0x1B001, 0x1B11F), (0x1F200, 0x1F200)]),
    ("katakana", [(0x30A1, 0x30FA), (0x30FD, 0x30FF), (0x31F0, 0x31FF), (0x32D0, 0x32FE),
      (0x3300, 0x3357), (0xFF66, 0xFF6F), (0xFF71, 0xFF9D)]),
    ("hebrew", [(0x591, 0x5C7), (0x5D0, 0x5EA), (0x5EF, 0x5F4), (0xFB1D, 0xFB36), (0xFB38, 0xFB4F)]),
    ("arabic", [(0x600, 0x604), (0x606, 0x60B), (0x60D, 0x61A), (0x61C, 0x61E), (0x620, 0x63F),
      (0x641, 0x64A), (0x656, 0x66F), (0x671, 0x6DC), (0x6DE, 0x6FF), (0x750, 0x77F),
      (0x870, 0x88E), (0x8A0, 0x8E1), (0x8E3, 0x8FF), (0xFB50, 0xFDFF), (0xFE70, 0xFEFC)])]

private def categoryNames : List (String × String) :=
  [("letter", "L"), ("uppercaseletter", "Lu"), ("lowercaseletter", "Ll"), ("titlecaseletter", "Lt"),
    ("modifierletter", "Lm"), ("otherletter", "Lo"), ("mark", "M"), ("nonspacingmark", "Mn"),
    ("spacingmark", "Mc"), ("enclosingmark", "Me"), ("number", "N"), ("decimalnumber", "Nd"),
    ("digit", "Nd"), ("letternumber", "Nl"), ("othernumber", "No"), ("punctuation", "P"),
    ("punct", "P"), ("connectorpunctuation", "Pc"), ("dashpunctuation", "Pd"),
    ("openpunctuation", "Ps"), ("closepunctuation", "Pe"), ("initialpunctuation", "Pi"),
    ("finalpunctuation", "Pf"), ("otherpunctuation", "Po"), ("symbol", "S"), ("mathsymbol", "Sm"),
    ("currencysymbol", "Sc"), ("modifiersymbol", "Sk"), ("othersymbol", "So"), ("separator", "Z"),
    ("spaceseparator", "Zs"), ("lineseparator", "Zl"), ("paragraphseparator", "Zp"),
    ("control", "Cc"), ("cntrl", "Cc"), ("format", "Cf"), ("privateuse", "Co")]

def named? (name : String) : Option CharSet :=
  let key := String.ofList ((name.toList.filter fun c => c != ' ' && c != '_' && c != '-').map Char.toLower)
  let key := if key == "isl" || !key.startsWith "is" then key else (key.drop 2).toString
  match key with
  | "any" => some any
  | "assigned" => some (property Text.Category.isAssigned)
  | "ascii" => some (range '\x00' '\x7f')
  | "alphabetic" | "alpha" => some (property isAlphabetic)
  | "whitespace" | "wspace" | "space" => some space
  | "lowercase" | "lower" =>
    some (property fun c => Text.Category.has "Ll" c ||
      Text.inRanges [(0xAA, 0xAA), (0xBA, 0xBA), (0x2B0, 0x2B8), (0x2C0, 0x2C1), (0x2E0, 0x2E4),
        (0x2170, 0x217F), (0x24D0, 0x24E9)] c)
  | "uppercase" | "upper" =>
    some (property fun c => Text.Category.has "Lu" c ||
      Text.inRanges [(0x2160, 0x216F), (0x24B6, 0x24CF), (0x1F130, 0x1F149), (0x1F150, 0x1F169),
        (0x1F170, 0x1F189)] c)
  | "c" | "other" =>
    some (property fun c => Text.Category.has "C" c || !Text.Category.isAssigned c)
  | "cn" | "unassigned" => some (complement (property Text.Category.isAssigned))
  | "lc" | "casedletter" =>
    some (property fun c =>
      Text.Category.has "Lu" c || Text.Category.has "Ll" c || Text.Category.has "Lt" c)
  | key =>
    let short (s : String) : Option String :=
      match s.toList with
      | [a] => some (String.ofList [a.toUpper])
      | [a, b] => some (String.ofList [a.toUpper, b])
      | _ => Option.none
    let category? : Option String :=
      match categoryNames.lookup key with
      | some c => some c
      | Option.none =>
        (short key).filter fun s => Text.Category.table.any fun (t, _) => s.toList.isPrefixOf t.toList
    match category?, scripts.lookup key with
    | some c, _ => some (property (Text.Category.has c))
    | Option.none, some ranges => some (property (Text.inRanges ranges))
    | Option.none, Option.none => Option.none

end CharSet

end InfraTemplate
