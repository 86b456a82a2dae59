namespace InfraTemplate.Text

def afterHead? : List Char → List Char → Option (List Char)
  | [], cs => some cs
  | _ :: _, [] => none
  | a :: head, c :: cs => if a = c then afterHead? head cs else none

theorem afterHead?_eq_some {head cs rest : List Char} :
    afterHead? head cs = some rest ↔ cs = head ++ rest := by
  induction head generalizing cs with
  | nil => simp [afterHead?, eq_comm]
  | cons a head ih =>
    cases cs with
    | nil => simp [afterHead?]
    | cons c cs =>
      by_cases h : a = c
      · simp [afterHead?, h, ih]
      · simp [afterHead?, h, Ne.symm h]

def hasHead (head cs : List Char) : Bool := (afterHead? head cs).isSome

theorem hasHead_iff {head cs : List Char} : hasHead head cs = true ↔ head <+: cs := by
  rw [hasHead, Option.isSome_iff_exists]
  exact exists_congr fun rest => afterHead?_eq_some.trans eq_comm

def beforeTail? (tail cs : List Char) : Option (List Char) :=
  (afterHead? tail.reverse cs.reverse).map List.reverse

def splitFirst (c : Char) : List Char → Option (List Char × List Char)
  | [] => none
  | d :: cs =>
    if d = c then some ([], cs)
    else (splitFirst c cs).map fun (a, b) => (d :: a, b)

theorem splitFirst_eq_some {c : Char} {cs a b : List Char} (h : splitFirst c cs = some (a, b)) :
    cs = a ++ c :: b ∧ c ∉ a := by
  induction cs generalizing a with
  | nil => simp [splitFirst] at h
  | cons d cs ih =>
    by_cases hd : d = c
    · simp [splitFirst, hd] at h
      simp [hd, h]
    · simp only [splitFirst, hd, ↓reduceIte, Option.map_eq_some_iff, Prod.exists] at h
      obtain ⟨a', b', h', he⟩ := h
      cases he
      obtain ⟨rfl, hn⟩ := ih h'
      simp [hn, Ne.symm hd]

theorem splitFirst_eq_none {c : Char} {cs : List Char} (h : c ∉ cs) : splitFirst c cs = none := by
  cases hs : splitFirst c cs with
  | none => rfl
  | some p =>
    refine absurd ?_ h
    rw [(splitFirst_eq_some (a := p.1) (b := p.2) hs).1]
    exact List.mem_append_right _ (List.mem_cons_self ..)

theorem splitFirst_of_not_mem {c : Char} {a : List Char} (h : c ∉ a) (b : List Char) :
    splitFirst c (a ++ c :: b) = some (a, b) := by
  induction a with
  | nil => simp [splitFirst]
  | cons d a ih =>
    rw [List.mem_cons, not_or] at h
    simp [splitFirst, Ne.symm h.1, ih h.2]

def splitOnText (d : List Char) : Nat → List Char → List (List Char)
  | _, [] => [[]]
  | skip + 1, _ :: cs => splitOnText d skip cs
  | 0, c :: cs =>
    if hasHead d (c :: cs) then [] :: splitOnText d (d.length - 1) cs
    else
      match splitOnText d 0 cs with
      | [] => [[c]]
      | w :: ws => (c :: w) :: ws

def dropBytes? : Nat → List Char → Option (List Char)
  | 0, cs => some cs
  | _ + 1, [] => none
  | n + 1, c :: cs => if c.utf8Size ≤ n + 1 then dropBytes? (n + 1 - c.utf8Size) cs else none

def isDigit (c : Char) : Bool := '0' ≤ c && c ≤ '9'

def digitsValue (cs : List Char) : Nat := cs.foldl (fun n c => n * 10 + (c.toNat - 48)) 0

def index? (cs : List Char) : Option Nat :=
  let ds := (afterHead? ['+'] cs).getD cs
  if ds.isEmpty || !ds.all isDigit then none
  else if digitsValue ds < 0x10000000000000000 then some (digitsValue ds) else none

end InfraTemplate.Text
