import InfraTemplate.Text.Hex
import InfraTemplate.Yaml.Glyph

namespace InfraTemplate.Yaml

def readSingleQuoted (acc : List Char) (gap : Gap) : Glyphs → Option (List Char × Glyphs)
  | [] => none
  | g :: rest =>
    if isEnd g.char || Glyphs.atDocumentMark (g :: rest) then none
    else if isBlank g.char then readSingleQuoted acc (gap.addBlank g.char) rest
    else if isBreak g.char then readSingleQuoted acc (gap.addBreak g.char) rest
    else
      let acc := gap.text.reverse ++ acc
      if g.char = '\'' then
        match rest with
        | [] => none
        | h :: rest =>
          if h.char = '\'' then readSingleQuoted ('\'' :: acc) .none rest
          else some (acc.reverse, h :: rest)
      else readSingleQuoted (g.char :: acc) .none rest

def escaped? (c : Char) : Option Char :=
  match c with
  | '0' => some nul
  | 'a' => some (Char.ofNat 7)
  | 'b' => some (Char.ofNat 8)
  | 't' => some '\t'
  | '\t' => some '\t'
  | 'n' => some '\n'
  | 'v' => some (Char.ofNat 11)
  | 'f' => some (Char.ofNat 12)
  | 'r' => some '\r'
  | 'e' => some (Char.ofNat 27)
  | ' ' => some ' '
  | '"' => some '"'
  | '/' => some '/'
  | '\\' => some '\\'
  | 'N' => some nextLine
  | '_' => some (Char.ofNat 0xA0)
  | 'L' => some lineSeparator
  | 'P' => some paragraphSeparator
  | _ => none

def escapeDigits? (c : Char) : Option Nat :=
  match c with
  | 'x' => some 2
  | 'u' => some 4
  | 'U' => some 8
  | _ => none

def hexChar? (n : Nat) (gs : Glyphs) : Option Char := do
  let ds ← ((gs.take n).map (·.char)).mapM Text.hexValue?
  let code := ds.foldl (fun acc d => acc * 16 + d) 0
  if ds.length = n && (code < 0xD800 || (0xDFFF < code && code ≤ 0x10FFFF)) then
    return Char.ofNat code
  else none

def readDoubleQuoted : Nat → List Char → Gap → Glyphs → Option (List Char × Glyphs)
  | 0, _, _, _ => none
  | _ + 1, _, _, [] => none
  | fuel + 1, acc, gap, g :: rest =>
    if isEnd g.char || Glyphs.atDocumentMark (g :: rest) then none
    else if isBlank g.char then readDoubleQuoted fuel acc (gap.addBlank g.char) rest
    else if isBreak g.char then readDoubleQuoted fuel acc (gap.addBreak g.char) rest
    else
      let acc := gap.text.reverse ++ acc
      if g.char = '"' then some (acc.reverse, rest)
      else if g.char = '\\' then
        match rest with
        | [] => none
        | e :: rest =>
          if isBreak e.char then readDoubleQuoted fuel acc (.breaks none []) rest
          else
            match escapeDigits? e.char with
            | some n => do
              let c ← hexChar? n rest
              readDoubleQuoted fuel (c :: acc) .none (rest.drop n)
            | none => do
              let c ← escaped? e.char
              readDoubleQuoted fuel (c :: acc) .none rest
      else readDoubleQuoted fuel (g.char :: acc) .none rest

end InfraTemplate.Yaml
