import InfraTemplate.Env

namespace InfraTemplate

inductive SubPart where
  | char (c : Char)
  | reference (inner : List Char)
deriving DecidableEq, Repr

namespace SubPart

def opening? : List Char → Option (List Char × List Char)
  | '$' :: '\x7b' :: c :: cs =>
    if c = '\x7d' || c = '!' then none
    else (Text.splitFirst '\x7d' cs).map fun (inner, rest) => (c :: inner, rest)
  | _ => none

def text : SubPart → List Char
  | char c => [c]
  | reference inner => '$' :: '\x7b' :: inner ++ ['\x7d']

theorem opening?_eq_some {cs inner rest : List Char} :
    opening? cs = some (inner, rest) ↔
      cs = text (reference inner) ++ rest ∧
        inner ≠ [] ∧ inner.head? ≠ some '!' ∧ '\x7d' ∉ inner := by
  constructor
  · intro h
    unfold opening? at h
    split at h
    · split at h
      · cases h
      · rename_i c tail hc
        obtain ⟨⟨a, b⟩, hs, he⟩ := Option.map_eq_some_iff.mp h
        cases he
        obtain ⟨rfl, hn⟩ := Text.splitFirst_eq_some hs
        rw [Bool.not_eq_true, Bool.or_eq_false_iff, decide_eq_false_iff_not,
          decide_eq_false_iff_not] at hc
        refine ⟨by simp [text], by simp, by simp [hc.2], ?_⟩
        rw [List.mem_cons, not_or]
        exact ⟨Ne.symm hc.1, hn⟩
    · cases h
  · rintro ⟨rfl, hn, hb, hc⟩
    cases inner with
    | nil => exact absurd rfl hn
    | cons c inner =>
      rw [List.mem_cons, not_or] at hc
      have hb' : c ≠ '!' := fun he => hb (by rw [he]; rfl)
      simp [text, opening?, Ne.symm hc.1, hb', Text.splitFirst_of_not_mem hc.2]

def scanFrom : Nat → List Char → List SubPart
  | _, [] => []
  | skip + 1, _ :: cs => scanFrom skip cs
  | 0, c :: cs =>
    match opening? (c :: cs) with
    | some (inner, _) => reference inner :: scanFrom (inner.length + 2) cs
    | none => char c :: scanFrom 0 cs

def scan (cs : List Char) : List SubPart := scanFrom 0 cs

@[simp] theorem scan_nil : scan [] = [] := rfl

theorem scanFrom_eq (skip : Nat) (cs : List Char) : scanFrom skip cs = scan (cs.drop skip) := by
  induction cs generalizing skip with
  | nil =>
    rw [List.drop_nil]
    cases skip <;> rfl
  | cons c cs ih =>
    cases skip with
    | zero => rfl
    | succ skip => exact ih skip

theorem scan_of_opening {cs inner rest : List Char} (h : opening? cs = some (inner, rest)) :
    scan cs = reference inner :: scan rest := by
  cases cs with
  | nil => cases h
  | cons c cs =>
    have hd : cs.drop (inner.length + 2) = rest := by
      have he := congrArg (List.drop (inner.length + 3)) (opening?_eq_some.mp h).1
      rw [List.drop_succ_cons] at he
      rw [he]
      exact List.drop_left' (by simp [text])
    rw [scan, scanFrom, h]
    simp only [scanFrom_eq, hd]

theorem scan_cons_of_none {c : Char} {cs : List Char} (h : opening? (c :: cs) = none) :
    scan (c :: cs) = char c :: scan cs := by
  rw [scan, scanFrom, h]
  rfl

def nameOf (inner : List Char) : List Char := inner.takeWhile (· != '.')

def qualify (naming : NameScope) (bound : List String) : SubPart → SubPart
  | char c => char c
  | reference inner =>
    let name := String.ofList (nameOf inner)
    if bound.contains name then reference inner
    else reference ((naming.qualify name).toList ++ inner.dropWhile (· != '.'))

def qualifyText (naming? : Option NameScope) (bound : List String) (s : String) : String :=
  match naming? with
  | none => s
  | some naming =>
    String.ofList ((scan s.toList).flatMap fun part => (part.qualify naming bound).text)

end SubPart

end InfraTemplate
