import InfraTemplate.Text.Blank

namespace InfraTemplate

inductive Segment where
  | name (key : List Char)
  | dynamic (inner : List Char)
deriving DecidableEq, Repr

namespace LookupPath

def closing? : Nat → List Char → Option (List Char × List Char)
  | _, [] => none
  | depth, c :: cs =>
    if c = ']' then
      if depth ≤ 1 then some ([], cs)
      else (closing? (depth - 1) cs).map fun (inner, rest) => (c :: inner, rest)
    else
      (closing? (if c = '[' then depth + 1 else depth) cs).map fun (inner, rest) =>
        (c :: inner, rest)

theorem length_of_closing? {depth : Nat} {cs inner rest : List Char}
    (h : closing? depth cs = some (inner, rest)) : rest.length < cs.length := by
  induction cs generalizing depth inner with
  | nil => simp [closing?] at h
  | cons c cs ih =>
    simp only [closing?] at h
    split at h
    · split at h
      · cases h
        simp
      · simp only [Option.map_eq_some_iff, Prod.exists] at h
        obtain ⟨_, _, h', he⟩ := h
        cases he
        exact Nat.lt_succ_of_lt (ih h')
    · simp only [Option.map_eq_some_iff, Prod.exists] at h
      obtain ⟨_, _, h', he⟩ := h
      cases he
      exact Nat.lt_succ_of_lt (ih h')

def endsName (c : Char) : Bool := c == '.' || c == '['

def first? : List Char → Option (Segment × List Char)
  | [] => none
  | c :: cs =>
    if c = '[' then
      match closing? 1 cs with
      | some (inner, rest) =>
        if (Text.trim inner).isEmpty then none else some (.dynamic (Text.trim inner), rest)
      | none => none
    else if endsName c then none
    else some (.name (c :: cs.takeWhile fun d => !endsName d), cs.dropWhile fun d => !endsName d)

theorem length_of_first? {cs rest : List Char} {s : Segment} (h : first? cs = some (s, rest)) :
    rest.length < cs.length := by
  match cs with
  | [] => simp [first?] at h
  | c :: cs =>
    simp only [first?] at h
    split at h
    · split at h
      · rename_i heq
        split at h
        · cases h
        · cases h
          exact Nat.lt_succ_of_lt (length_of_closing? heq)
      · cases h
    · split at h
      · cases h
      · cases h
        simp only [List.length_cons]
        exact Nat.lt_succ_of_le (List.dropWhile_sublist _).length_le

def afterDot? : List Char → Option (List Char)
  | [] => some []
  | c :: cs => if c = '.' then if cs.isEmpty then none else some cs else some (c :: cs)

theorem length_of_afterDot? {cs rest : List Char} (h : afterDot? cs = some rest) :
    rest.length ≤ cs.length := by
  match cs with
  | [] =>
    cases h
    simp
  | c :: cs =>
    simp only [afterDot?] at h
    split at h
    · split at h
      · cases h
      · cases h
        simp
    · cases h
      simp

def segments? (cs : List Char) : Option (List Segment) :=
  if cs.isEmpty then some []
  else
    match _h : first? cs with
    | none => none
    | some (s, rest) =>
      match _g : afterDot? rest with
      | none => none
      | some more => (segments? more).map (s :: ·)
termination_by cs.length
decreasing_by
  have := length_of_first? _h
  have := length_of_afterDot? _g
  omega

def parse? (expr : String) : Option (List Segment) := segments? (Text.trim expr.toList)

def text : List Segment → List Char
  | [] => []
  | s :: rest =>
    (match s with
      | .name key => key
      | .dynamic inner => '[' :: inner ++ [']']) ++
    (match rest with
      | .name _ :: _ => ['.']
      | _ => []) ++ text rest

end LookupPath

end InfraTemplate
