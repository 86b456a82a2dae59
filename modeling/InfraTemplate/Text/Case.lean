import InfraTemplate.Text.CaseTable

namespace InfraTemplate.Text

def inRanges (ranges : List (Nat × Nat)) (c : Char) : Bool :=
  ranges.any fun (first, last) => first ≤ c.toNat && c.toNat ≤ last

def CaseRun.partner? (runs : List CaseRun) (c : Char) : Option Char :=
  (runs.find? fun r =>
    r.first ≤ c.toNat && c.toNat ≤ r.last && (c.toNat - r.first) % r.step == 0).map fun r =>
      Char.ofNat (Int.ofNat c.toNat + r.shift).toNat

def upperChar (c : Char) : List Char :=
  if c.toNat < 0x80 then [c.toUpper]
  else
    match uppercaseExpansions.lookup c.toNat with
    | some letters => letters.map Char.ofNat
    | none => [(CaseRun.partner? uppercaseRuns c).getD c]

def lowerChar (c : Char) : List Char :=
  if c.toNat < 0x80 then [c.toLower]
  else if c == 'İ' then ['i', '\u0307']
  else [(CaseRun.partner? lowercaseRuns c).getD c]

def facesCased (cs : List Char) : Bool :=
  ((cs.dropWhile (inRanges caseIgnorableRanges)).head?).any (inRanges casedRanges)

def lowerAfter (before : List Char) : List Char → List Char
  | [] => []
  | c :: cs =>
    (if c == 'Σ' then [if facesCased before && !facesCased cs then 'ς' else 'σ'] else lowerChar c) ++
      lowerAfter (c :: before) cs

def lowercase (s : String) : String := String.ofList (lowerAfter [] s.toList)

def uppercase (s : String) : String := String.ofList (s.toList.flatMap upperChar)

end InfraTemplate.Text
