import InfraTemplate.Error
import InfraTemplate.Node.Rendering
import InfraTemplate.Text.Base64
import InfraTemplate.Text.Blank
import InfraTemplate.Text.Case
import InfraTemplate.Text.Piece

namespace InfraTemplate

inductive Helper where
  | toJson
  | toYaml
  | base64
  | toLowerCase
  | toUpperCase
  | trim
deriving DecidableEq, Repr

namespace Helper

def all : List Helper := [toJson, toYaml, base64, toLowerCase, toUpperCase, trim]

def name : Helper → String
  | toJson => "toJson"
  | toYaml => "toYaml"
  | base64 => "base64"
  | toLowerCase => "toLowerCase"
  | toUpperCase => "toUpperCase"
  | trim => "trim"

def ofName? (s : String) : Option Helper := all.find? fun h => h.name == s

theorem ofName?_name (h : Helper) : ofName? h.name = some h := by cases h <;> decide

def apply (h : Helper) (n : Node) : String :=
  match h with
  | toJson => n.toJson.compact
  | toYaml => String.ofList (Text.trimEnd (n.render .yaml).toList)
  | base64 => Text.base64Text n.text.toUTF8
  | toLowerCase => Text.lowercase n.text
  | toUpperCase => Text.uppercase n.text
  | trim => Text.trimText n.text

end Helper

inductive Span where
  | char (c : Char)
  | placeholder (inner : List Char)
deriving DecidableEq, Repr

namespace Span

def closing? : List Char → Option (List Char × List Char)
  | [] => none
  | c :: cs =>
    if c = '\x7d' then
      match cs with
      | d :: rest => if d = '\x7d' then some ([], rest) else none
      | [] => none
    else if c = '\x7b' then none
    else (closing? cs).map fun (inner, rest) => (c :: inner, rest)

theorem closing?_eq_some {cs inner rest : List Char} (h : closing? cs = some (inner, rest)) :
    cs = inner ++ '\x7d' :: '\x7d' :: rest := by
  induction cs generalizing inner with
  | nil => simp [closing?] at h
  | cons c cs ih =>
    by_cases hc : c = '\x7d'
    · cases cs with
      | nil => simp [closing?, hc] at h
      | cons d ds =>
        by_cases hd : d = '\x7d'
        · simp [closing?, hc, hd] at h
          simp [h, hc, hd]
        · simp [closing?, hc, hd] at h
    · by_cases ho : c = '\x7b'
      · simp [closing?, ho] at h
      · simp only [closing?, hc, ho, ↓reduceIte, Option.map_eq_some_iff, Prod.exists] at h
        obtain ⟨a, b, h', he⟩ := h
        cases he
        rw [ih h', List.cons_append]

def opening? : List Char → Option (List Char × List Char)
  | c :: d :: cs => if c = '\x7b' ∧ d = '\x7b' then closing? cs else none
  | _ => none

/-- Cuts a text at its placeholders, from the left; `skip` counts the characters of a placeholder
still to be passed. -/
def scanFrom : Nat → List Char → List Span
  | _, [] => []
  | skip + 1, _ :: cs => scanFrom skip cs
  | 0, c :: cs =>
    match opening? (c :: cs) with
    | some (inner, _) => placeholder inner :: scanFrom (inner.length + 3) cs
    | none => char c :: scanFrom 0 cs

def scan (cs : List Char) : List Span := scanFrom 0 cs

def source : Span → List Char
  | char c => [c]
  | placeholder inner => ['\x7b', '\x7b'] ++ inner ++ ['\x7d', '\x7d']

theorem opening?_eq_some {cs inner rest : List Char} (h : opening? cs = some (inner, rest)) :
    cs = source (placeholder inner) ++ rest := by
  match cs with
  | [] | [_] => simp [opening?] at h
  | c :: d :: cs =>
    simp only [opening?, Option.ite_none_right_eq_some] at h
    obtain ⟨⟨rfl, rfl⟩, hc⟩ := h
    rw [closing?_eq_some hc]
    simp [source]

theorem scanFrom_eq (skip : Nat) (cs : List Char) : scanFrom skip cs = scan (cs.drop skip) := by
  induction cs generalizing skip with
  | nil =>
    rw [List.drop_nil]
    cases skip <;> rfl
  | cons c cs ih =>
    cases skip with
    | zero => rfl
    | succ skip => exact ih skip

theorem scan_of_opening {cs inner rest : List Char} (h : opening? cs = some (inner, rest)) :
    scan cs = placeholder inner :: scan rest := by
  cases cs with
  | nil => cases h
  | cons c cs =>
    have hd : cs.drop (inner.length + 3) = rest := by
      have he := congrArg (List.drop (inner.length + 4)) (opening?_eq_some h)
      rw [List.drop_succ_cons] at he
      rw [he]
      exact List.drop_left' (by simp [source])
    rw [scan, scanFrom, h]
    simp only [scanFrom_eq, hd]

theorem scan_cons_of_none {c : Char} {cs : List Char} (h : opening? (c :: cs) = none) :
    scan (c :: cs) = char c :: scan cs := by
  rw [scan, scanFrom, h]
  rfl

def ofText (s : String) : List Span := scan s.toList

def isDynamic (inner : List Char) : Bool := Text.hasHead "resolve:".toList (Text.trim inner)

def words (inner : List Char) : List String := (Text.words inner).map String.ofList

def reference? : Span → Option String
  | char _ => none
  | placeholder inner => if isDynamic inner then none else (words inner).getLast?

def isPlaceholder : Span → Bool
  | char _ => false
  | placeholder _ => true

section Rendering

variable {m : Type → Type} [Monad m] [MonadExcept Error m]

def render (path : String) (lookup : String → m Node) : Span → m String
  | char c => pure (String.singleton c)
  | placeholder inner =>
    let written := String.ofList (source (placeholder inner))
    if isDynamic inner then pure written
    else
      match words inner with
      | [name] => return (← lookup name).text
      | [helper, name] =>
        match Helper.ofName? helper with
        | some h => return h.apply (← lookup name)
        | none => throw (.malformed "\x7b\x7b\x7d\x7d" path (.unknownHelper helper) [])
      | _ => throw (.malformed "\x7b\x7b\x7d\x7d" path (.placeholder written) [])

end Rendering

end Span

namespace Interpolation

def hasPlaceholders (s : String) : Bool := (Span.ofText s).any Span.isPlaceholder

def referencedNames (s : String) : List String := (Span.ofText s).filterMap Span.reference?

section

variable {m : Type → Type} [Monad m] [MonadExcept Error m]

def interpolate (path : String) (lookup : String → m Node) (s : String) : m String :=
  return String.join (← (Span.ofText s).mapM (Span.render path lookup))

end

end Interpolation

end InfraTemplate
