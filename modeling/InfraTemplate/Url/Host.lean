import InfraTemplate.Text.Blank
import InfraTemplate.Text.Case
import InfraTemplate.Text.Hex
import InfraTemplate.Text.Piece
import InfraTemplate.Url.Percent
import InfraTemplate.Url.Punycode

namespace InfraTemplate.Url

inductive Flaw where
  | noBase
  | baseWithoutHierarchy
  | emptyHost
  | portNumber
  | addressOfFour
  | addressOfSix
  | hostCharacter
  | domain
deriving DecidableEq, Repr

def Flaw.message : Flaw → String
  | noBase => "relative URL without a base"
  | baseWithoutHierarchy => "relative URL with a cannot-be-a-base base"
  | emptyHost => "empty host"
  | portNumber => "invalid port number"
  | addressOfFour => "invalid IPv4 address"
  | addressOfSix => "invalid IPv6 address"
  | hostCharacter => "invalid domain character"
  | domain => "invalid international domain name"

section Address

private def valueIn (base : Nat) (cs : List Char) : Option Nat :=
  cs.foldl (fun acc c =>
    match acc, Text.hexValue? c with
    | some n, some d => if d < base then some (n * base + d) else none
    | _, _ => none) (some 0)

def addressPart? : List Char → Option Nat
  | [] => none
  | '0' :: x :: rest =>
    if x = 'x' || x = 'X' then valueIn 16 rest else valueIn 8 (x :: rest)
  | cs => valueIn 10 cs

private def labels (cs : List Char) : List (List Char) :=
  let ls := Text.splitAll (· == '.') cs
  if ls.length > 1 && ls.getLast? == some [] then ls.dropLast else ls

def endsInNumber (cs : List Char) : Bool :=
  match (labels cs).getLast? with
  | some l => !l.isEmpty && (l.all Text.isDigit || (addressPart? l).isSome)
  | none => false

def dotted (n : Nat) : String :=
  ".".intercalate ([n / 0x1000000, n / 0x10000, n / 0x100, n].map fun part => toString (part % 256))

def addressOfFour? (cs : List Char) : Option Nat := do
  let parts ← (labels cs).mapM addressPart?
  let last ← parts.getLast?
  let front := parts.dropLast
  if parts.length ≤ 4 && front.all (· < 256) && last < Nat.pow 256 (5 - parts.length) then
    return (front.zipIdx.foldl (fun n (part, i) => n + part * Nat.pow 256 (3 - i)) last)
  else none

private def piece? (cs : List Char) : Option Nat :=
  if cs.isEmpty || 4 < cs.length then none else valueIn 16 cs

private def byte? (cs : List Char) : Option Nat :=
  if cs.isEmpty || 3 < cs.length || (cs.head? == some '0' && cs.length > 1) then none
  else (valueIn 10 cs).filter (· < 256)

private def pieces? (tail : Bool) (cs : List Char) : Option (List Nat) :=
  if cs.isEmpty then some []
  else
    let parts := Text.splitAll (· == ':') cs
    match parts.getLast? with
    | some last =>
      if tail && last.contains '.' then do
        let front ← parts.dropLast.mapM piece?
        match ← (Text.splitAll (· == '.') last).mapM byte? with
        | [a, b, c, d] => some (front ++ [a * 256 + b, c * 256 + d])
        | _ => none
      else parts.mapM piece?
    | none => none

private def splitAtDoubleColon : List Char → Option (List Char × List Char)
  | ':' :: ':' :: rest => some ([], rest)
  | c :: rest => (splitAtDoubleColon rest).map fun (a, b) => (c :: a, b)
  | [] => none

def addressOfSix? (cs : List Char) : Option (List Nat) :=
  match splitAtDoubleColon cs with
  | none => (pieces? true cs).filter fun ps => ps.length == 8
  | some (a, b) => do
    let front ← pieces? false a
    let back ← pieces? true b
    if front.length + back.length < 8 then
      some (front ++ List.replicate (8 - front.length - back.length) 0 ++ back)
    else none

private def zerosAt (ps : List Nat) : Nat := (ps.takeWhile (· == 0)).length

private def hexNumber (n : Nat) : String :=
  String.ofList (Nat.toDigits 16 n)

def colonText (ps : List Nat) : String :=
  let runs := (List.range ps.length).map fun i => (zerosAt (ps.drop i), i)
  let best := runs.foldl (fun b r => if b.1 < r.1 then r else b) (1, 0)
  let text (qs : List Nat) := ":".intercalate (qs.map hexNumber)
  if best.1 < 2 then text ps
  else text (ps.take best.2) ++ "::" ++ text (ps.drop (best.2 + best.1))

end Address

private def bracketed? (cs : List Char) : Option (Except Flaw String) :=
  match cs with
  | '[' :: rest => some (
    if rest.getLast? == some ']' then
      match addressOfSix? rest.dropLast with
      | some ps => .ok ("[" ++ colonText ps ++ "]")
      | none => .error .addressOfSix
    else .error .addressOfSix)
  | _ => none

def plainHost (cs : List Char) : Except Flaw String :=
  match bracketed? cs with
  | some r => r
  | none =>
    if cs.any fun c => "\x00\t\n\r #/:<>?@[\\]^|".toList.contains c then .error .hostCharacter
    else .ok (String.ofList (percentEncode [] cs))

theorem trimEnd_plainHost {cs : List Char} {host : String} (h : plainHost cs = .ok host) :
    Text.trimEnd host.toList = host.toList := by
  unfold plainHost at h
  split at h
  · rename_i r hr
    unfold bracketed? at hr
    split at hr
    · obtain rfl := Option.some.inj hr
      split at h
      · split at h
        · cases h
          rw [String.toList_append]
          exact Text.trimEnd_append (fun he => absurd he (by decide)) (by decide)
        · cases h
      · cases h
    · cases hr
  · split at h
    · cases h
    · rename_i hplain
      cases h
      rw [String.toList_ofList]
      refine Text.trimEnd_of_none fun c hc => isBlank_of_mem_percentEncode (fun hspace => ?_) hc
      exact absurd (List.any_eq_true.mpr ⟨' ', hspace, by decide⟩) hplain

def IsHostChar (c : Char) : Prop :=
  0x20 < c.toNat ∧ c.toNat < 0x7F ∧ c ∉ "\x00\t\n\r #/:<>?@[\\]^|".toList

instance : DecidablePred IsHostChar := fun c =>
  inferInstanceAs (Decidable (0x20 < c.toNat ∧ c.toNat < 0x7F ∧ c ∉ "\x00\t\n\r #/:<>?@[\\]^|".toList))

theorem plainHost_of_visible {cs : List Char} (h : ∀ c ∈ cs, IsHostChar c) :
    plainHost cs = .ok (String.ofList cs) := by
  have hbracket : bracketed? cs = none := by
    unfold bracketed?
    split
    · exact absurd (h _ (List.mem_cons_self ..)).2.2 (by decide)
    · rfl
  have hany : (cs.any fun c => "\x00\t\n\r #/:<>?@[\\]^|".toList.contains c) = false := by
    rw [List.any_eq_false]
    exact fun c hc => by simpa using (h c hc).2.2
  have hkept : percentEncode [] cs = cs :=
    percentEncode_eq_self fun c hc => ⟨by have := (h c hc).1; omega, by have := (h c hc).2.1; omega, nofun⟩
  rw [plainHost, hbracket, hany, hkept]
  rfl

private def asciiLabel (cs : List Char) : List Char :=
  if cs.all fun c => c.toNat < 128 then cs else "xn--".toList ++ Punycode.encode cs

/-- The host of a web URL: a domain in lowercase ASCII, or an address. An international domain is only
lowercased and written in Punycode: characters are not mapped as UTS 46 maps them, and no label is
checked for what it allows. -/
def domainHost (cs : List Char) : Except Flaw String :=
  match bracketed? cs with
  | some r => r
  | none =>
    match String.fromUTF8? ⟨(percentDecode cs).toArray⟩ with
    | none => .error .domain
    | some decoded =>
      let ls := Text.splitAll (· == '.') (Text.lowercase decoded).toList
      let host := ['.'].intercalate (ls.map asciiLabel)
      if host.any fun c => c.toNat ≤ 0x20 || c.toNat == 0x7F || "%#/:<>?@[\\]^|".toList.contains c
      then .error .domain
      else if host.isEmpty then .error .emptyHost
      else if endsInNumber host then
        match addressOfFour? host with
        | some n => .ok (dotted n)
        | none => .error .addressOfFour
      else .ok (String.ofList host)

end InfraTemplate.Url
