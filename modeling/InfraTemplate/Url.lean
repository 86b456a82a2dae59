import InfraTemplate.Url.Host

namespace InfraTemplate

namespace Url

inductive Manner where
  | file
  | web
  | other
deriving DecidableEq, Repr

inductive Path where
  | segments (parts : List (List Char))
  | text (cs : List Char)
deriving DecidableEq, Repr

end Url

structure Url where
  scheme : List Char
  userinfo : List Char
  host? : Option String
  portNumber? : Option Nat
  path : Url.Path
  query? : Option (List Char)
  fragment? : Option (List Char)

namespace Url

def defaultPort? (scheme : List Char) : Option Nat :=
  [("http", 80), ("https", 443), ("ws", 80), ("wss", 443), ("ftp", 21)].lookup
    (String.ofList scheme)

def mannerOf (scheme : List Char) : Manner :=
  if scheme = "file".toList then .file
  else if (defaultPort? scheme).isSome then .web
  else .other

def isSlash (m : Manner) (c : Char) : Bool := c == '/' || (c == '\\' && m != .other)

def pathText (u : Url) : List Char :=
  match u.path with
  | .segments parts => parts.flatMap fun p => '/' :: p
  | .text cs => cs

def authorityText (u : Url) : List Char :=
  match u.host? with
  | some h =>
    "//".toList ++ u.userinfo ++ h.toList ++
      (match u.portNumber? with
        | some p => ':' :: (toString p).toList
        | none => [])
  | none =>
    match u.path with
    | .segments ([] :: _ :: _) => "/.".toList
    | _ => []

def text (u : Url) : String :=
  String.ofList (u.scheme ++ ':' :: u.authorityText ++ u.pathText ++
    (match u.query? with
      | some q => '?' :: q
      | none => []) ++
    (match u.fragment? with
      | some f => '#' :: f
      | none => []))

private def isLetter (c : Char) : Bool := ('a' ≤ c && c ≤ 'z') || ('A' ≤ c && c ≤ 'Z')

def scheme? (cs : List Char) : Option (List Char × List Char) :=
  match Text.splitFirst ':' cs with
  | some (c :: head, rest) =>
    if isLetter c && head.all fun d => isLetter d || Text.isDigit d || d == '+' || d == '-' || d == '.'
    then some ((c :: head).map Char.toLower, rest)
    else none
  | _ => none

private theorem visible_toLower {d : Char}
    (h : (isLetter d || Text.isDigit d || d == '+' || d == '-' || d == '.') = true) :
    Text.isBlank d.toLower = false ∧ d.toLower ≠ ':' := by
  have hascii : d.toNat < 128 := by
    simp only [isLetter, Text.isDigit, Bool.or_eq_true, Bool.and_eq_true, decide_eq_true_eq,
      beq_iff_eq] at h
    rcases h with ((((⟨-, h⟩ | ⟨-, h⟩) | ⟨-, h⟩) | rfl) | rfl) | rfl
    · exact Nat.lt_of_le_of_lt (Char.le_def.mp h) (by decide)
    · exact Nat.lt_of_le_of_lt (Char.le_def.mp h) (by decide)
    · exact Nat.lt_of_le_of_lt (Char.le_def.mp h) (by decide)
    all_goals decide
  have hall : ∀ c : Char, c.toNat < 128 →
      (isLetter c || Text.isDigit c || c == '+' || c == '-' || c == '.') = true →
        Text.isBlank c.toLower = false ∧ c.toLower ≠ ':' :=
    Text.forall_ascii (by decide +kernel)
  exact hall d hascii h

theorem scheme?_eq_some {cs scheme rest : List Char} (h : scheme? cs = some (scheme, rest)) :
    (∃ head, cs = head ++ ':' :: rest ∧ scheme = head.map Char.toLower) ∧
      ∀ c ∈ scheme, Text.isBlank c = false ∧ c ≠ ':' := by
  unfold scheme? at h
  split at h
  · rename_i c head rest' hs
    split at h
    · rename_i hlooks
      cases h
      rw [Bool.and_eq_true, List.all_eq_true] at hlooks
      refine ⟨⟨c :: head, (Text.splitFirst_eq_some hs).1, rfl⟩, fun e he => ?_⟩
      obtain ⟨d, hd, rfl⟩ := List.mem_map.mp he
      rcases List.mem_cons.mp hd with rfl | hd
      · exact visible_toLower (by simp [hlooks.1])
      · exact visible_toLower (hlooks.2 d hd)
    · cases h
  · cases h

def clean (cs : List Char) : List Char :=
  let outer (c : Char) := c.toNat ≤ 0x20
  ((cs.dropWhile outer).reverse.dropWhile outer).reverse.filter fun c =>
    c != '\t' && c != '\n' && c != '\r'

private def isUp (cs : List Char) : Bool :=
  ["..", ".%2e", "%2e.", "%2e%2e"].contains (String.ofList (cs.map Char.toLower))

private def isHere (cs : List Char) : Bool :=
  [".", "%2e"].contains (String.ofList (cs.map Char.toLower))

def isDots (cs : List Char) : Bool :=
  ["..", ".%2e", "%2e.", "%2e%2e", ".", "%2e"].contains (String.ofList (cs.map Char.toLower))

private theorem isDots_eq (cs : List Char) : isDots cs = (isUp cs || isHere cs) := by
  simp only [isDots, isUp, isHere, List.contains_cons, List.contains_nil, Bool.or_false, Bool.or_assoc]

theorem ne_nil_of_isDots {cs : List Char} (h : isDots cs = true) : cs ≠ [] := by
  rintro rfl
  exact absurd h (by decide)

def isDrive : List Char → Bool
  | [c, d] => isLetter c && (d == ':' || d == '|')
  | _ => false

theorem isBlank_of_isDrive {cs : List Char} (h : isDrive cs = true) {c : Char} (hc : c ∈ cs) :
    Text.isBlank c = false := by
  unfold isDrive at h
  split at h
  · rename_i a b
    simp only [isLetter, Bool.and_eq_true, Bool.or_eq_true, decide_eq_true_eq, beq_iff_eq] at h
    simp only [List.mem_cons, List.not_mem_nil, or_false] at hc
    rcases hc with rfl | rfl
    · rcases h.1 with ⟨hlow, hhigh⟩ | ⟨hlow, hhigh⟩
      · exact Text.isBlank_eq_false (Nat.lt_of_lt_of_le (by decide) (Char.le_def.mp hlow))
          (Nat.lt_of_le_of_lt (Char.le_def.mp hhigh) (by decide))
      · exact Text.isBlank_eq_false (Nat.lt_of_lt_of_le (by decide) (Char.le_def.mp hlow))
          (Nat.lt_of_le_of_lt (Char.le_def.mp hhigh) (by decide))
    · rcases h.2 with rfl | rfl <;> decide
  · cases h

def shorten (m : Manner) (parts : List (List Char)) : List (List Char) :=
  match m, parts with
  | .file, [p] => if isDrive p then [p] else []
  | _, parts => parts.dropLast

def walk (m : Manner) (parts : List (List Char)) : List (List Char) → List (List Char)
  | [] => parts
  | s :: rest =>
    let kept :=
      if isUp s then if rest.isEmpty then shorten m parts ++ [[]] else shorten m parts
      else if isHere s then if rest.isEmpty then parts ++ [[]] else parts
      else if m = .file && parts.isEmpty && isDrive s then [s.take 1 ++ [':']]
      else if m = .file && parts.isEmpty && s.isEmpty && !rest.isEmpty then []
      else parts ++ [percentEncode pathSet s]
    walk m kept rest

theorem walk_other_of_not_isDots {parts : List (List Char)} {s : List Char} (h : isDots s = false)
    (rest : List (List Char)) :
    walk .other parts (s :: rest) = walk .other (parts ++ [percentEncode pathSet s]) rest := by
  rw [isDots_eq, Bool.or_eq_false_iff] at h
  simp [walk, h.1, h.2]

theorem walk_other_of_isDots {parts : List (List Char)} {s : List Char} (h : isDots s = true)
    (rest : List (List Char)) : ∃ front tail, walk .other parts (s :: rest) = walk .other (front ++ tail) rest ∧
      front <+: parts ∧ (tail = [] ∨ tail = [[]]) := by
  rw [isDots_eq] at h
  have hup : shorten .other parts <+: parts := List.dropLast_prefix parts
  rw [walk]
  by_cases hu : isUp s = true
  · rw [if_pos hu]
    split
    · exact ⟨_, [[]], rfl, hup, .inr rfl⟩
    · exact ⟨_, [], by rw [List.append_nil], hup, .inl rfl⟩
  · have hh : isHere s = true := by simpa [hu] using h
    rw [if_neg hu, if_pos hh]
    split
    · exact ⟨_, [[]], rfl, List.prefix_refl parts, .inr rfl⟩
    · exact ⟨_, [], by rw [List.append_nil], List.prefix_refl parts, .inl rfl⟩

def walkText (m : Manner) (parts : List (List Char)) (cs : List Char) : List (List Char) :=
  walk m parts (Text.splitAll (isSlash m) cs)

def cutQuery (m : Manner) (cs : List Char) :
    List Char × Option (List Char) × Option (List Char) :=
  let (front, fragment?) :=
    match Text.splitFirst '#' cs with
    | some (a, b) => (a, some (percentEncode fragmentSet b))
    | none => (cs, none)
  match Text.splitFirst '?' front with
  | some (a, b) =>
    (a, some (percentEncode (if m = .other then querySet else specialQuerySet) b), fragment?)
  | none => (front, none, fragment?)

def rootedPath (m : Manner) (cs : List Char) : Path :=
  match cs with
  | [] => .segments (if m = .other then [] else [[]])
  | c :: rest => .segments (walkText m [] (if isSlash m c then rest else c :: rest))

private def cutLast (c : Char) (cs : List Char) : Option (List Char × List Char) :=
  (Text.splitFirst c cs.reverse).map fun (a, b) => (b.reverse, a.reverse)

def userinfoText (cs : List Char) : List Char :=
  let (user, password) := (Text.splitFirst ':' cs).getD (cs, [])
  let shown := percentEncode userinfoSet user ++
    (if password.isEmpty then [] else ':' :: percentEncode userinfoSet password)
  if shown.isEmpty then [] else shown ++ ['@']

def cutPortNumber (inside : Bool) : List Char → List Char × Option (List Char)
  | [] => ([], none)
  | c :: cs =>
    if c = ':' && !inside then ([], some cs)
    else
      let (host, portNumber?) := cutPortNumber (if c = '[' then true else if c = ']' then false else inside) cs
      (c :: host, portNumber?)

theorem cutPortNumber_of_not_mem {inside : Bool} {cs : List Char} (h : ':' ∉ cs) :
    cutPortNumber inside cs = (cs, none) := by
  induction cs generalizing inside with
  | nil => rfl
  | cons c cs ih =>
    obtain ⟨hc, hcs⟩ := not_or.mp (mt List.mem_cons.mpr h)
    simp [cutPortNumber, Ne.symm hc, ih hcs]

def readPortNumber (scheme : List Char) (cs : List Char) : Except Flaw (Option Nat) :=
  if !cs.all Text.isDigit || 65535 < Text.digitsValue cs then .error .portNumber
  else if cs.isEmpty || some (Text.digitsValue cs) = defaultPort? scheme then .ok none
  else .ok (some (Text.digitsValue cs))

def afterSlashes (scheme : List Char) (cs : List Char) : Except Flaw Url := do
  let m := mannerOf scheme
  let (front, query?, fragment?) := cutQuery m cs
  let authority := front.takeWhile fun c => !isSlash m c
  let rest := front.dropWhile fun c => !isSlash m c
  let (user, hostAndPort) := (cutLast '@' authority).getD ([], authority)
  if authority = ['@'] && authority.length < cs.length then throw .emptyHost
  let userinfo := userinfoText user
  let (hostText, portNumber?) := cutPortNumber false hostAndPort
  if m = .web && hostText.isEmpty then throw .emptyHost
  let host ← if m = .web then domainHost hostText else plainHost hostText
  if host.isEmpty && portNumber?.isSome then throw .emptyHost
  let portNumber? ← match portNumber? with
    | some digits => readPortNumber scheme digits
    | none => pure none
  if host.isEmpty && !userinfo.isEmpty then throw .emptyHost
  return ⟨scheme, userinfo, some host, portNumber?, rootedPath m rest, query?, fragment?⟩

theorem afterSlashes_of_host {scheme host rest : List Char} (hm : mannerOf scheme = .other)
    (hhost : ∀ c ∈ host, IsHostChar c) (hrest : '?' ∉ rest ∧ '#' ∉ rest) :
    afterSlashes scheme (host ++ '/' :: rest) =
      .ok ⟨scheme, [], some (String.ofList host), none, .segments (walkText .other [] rest), none, none⟩ := by
  have hnot {c : Char} (hc : ¬IsHostChar c) : c ∉ host := fun hmem => hc (hhost c hmem)
  have hcut : cutQuery .other (host ++ '/' :: rest) = (host ++ '/' :: rest, none, none) := by
    have hq : '?' ∉ host ++ '/' :: rest := by
      simp [hnot (c := '?') (by decide), hrest.1]
    have hf : '#' ∉ host ++ '/' :: rest := by
      simp [hnot (c := '#') (by decide), hrest.2]
    rw [cutQuery, Text.splitFirst_eq_none hf]
    dsimp only
    rw [Text.splitFirst_eq_none hq]
  have hslash : ∀ c ∈ host, (!isSlash .other c) = true := by
    intro c hc
    have hne : c ≠ '/' := fun he => hnot (c := '/') (by decide) (he ▸ hc)
    simp [isSlash, hne]
  have htake : (host ++ '/' :: rest).takeWhile (fun c => !isSlash .other c) = host := by
    rw [List.takeWhile_append_of_pos hslash]
    simp [isSlash]
  have hdrop : (host ++ '/' :: rest).dropWhile (fun c => !isSlash .other c) = '/' :: rest := by
    rw [List.dropWhile_append_of_pos hslash]
    simp [isSlash]
  have hat : cutLast '@' host = none := by
    rw [cutLast, Text.splitFirst_eq_none (by simpa using hnot (c := '@') (by decide))]
    rfl
  have huser : userinfoText [] = [] := rfl
  have hauthority : host ≠ ['@'] := by
    rintro rfl
    exact hnot (c := '@') (by decide) (List.mem_singleton_self '@')
  have hport : cutPortNumber false host = (host, none) :=
    cutPortNumber_of_not_mem (hnot (by decide))
  simp only [afterSlashes, hm, hcut, htake, hdrop, hat, Option.getD_none, hauthority, decide_false,
    Bool.false_and, Bool.false_eq_true, ↓reduceIte, huser, hport, reduceCtorEq,
    plainHost_of_visible hhost, List.isEmpty_nil, Bool.not_true, Bool.and_false, Option.isSome_none]
  rfl

def ofFileText (cs : List Char) : Except Flaw Url := do
  let (front, query?, fragment?) := cutQuery .file cs
  let make (host : String) (rest : List Char) : Url :=
    ⟨"file".toList, [], some host, none, .segments (walkText .file [] rest), query?, fragment?⟩
  match front with
  | a :: b :: rest =>
    if isSlash .file a && isSlash .file b then
      let hostText := rest.takeWhile fun c => !isSlash .file c
      if isDrive hostText then return make "" rest
      else if hostText.isEmpty then return make "" (rest.drop 1)
      else
        let host ← domainHost hostText
        return make (if host == "localhost" then "" else host) ((rest.drop hostText.length).drop 1)
    else return make "" (if isSlash .file a then b :: rest else front)
  | [a] => return make "" (if isSlash .file a then [] else [a])
  | [] => return make "" []

def relative (base : Url) (cs : List Char) : Except Flaw Url :=
  let m := mannerOf base.scheme
  let (front, query?, fragment?) := cutQuery m cs
  let parts :=
    match base.path with
    | .segments parts => parts
    | .text _ => []
  let either (c : Char) := c == '/' || c == '\\'
  match front with
  | [] =>
    .ok { base with query? := if query?.isSome then query? else base.query?, fragment? := fragment? }
  | c :: rest =>
    if either c then
      match rest with
      | d :: more =>
        if either d then
          if c = '/' && d = '/' then afterSlashes base.scheme (cs.drop 2)
          else afterSlashes base.scheme (cs.dropWhile either)
        else
          .ok { base with path := .segments (walkText m [] (d :: more)), query? := query?,
                          fragment? := fragment? }
      | [] =>
        .ok { base with path := .segments (walkText m [] []), query? := query?, fragment? := fragment? }
    else
      .ok { base with path := .segments (walkText m (shorten m parts) front), query? := query?,
                      fragment? := fragment? }

def ofScheme (base? : Option Url) (scheme rest : List Char) : Except Flaw Url :=
  match mannerOf scheme with
  | .file => ofFileText rest
  | .web =>
    let slashes := rest.takeWhile (isSlash .web)
    let absolute := afterSlashes scheme (rest.dropWhile (isSlash .web))
    match base? with
    | some base =>
      if slashes.length < 2 && base.scheme = scheme then relative base rest else absolute
    | none => absolute
  | .other =>
    match Text.afterHead? "//".toList rest with
    | some authority => afterSlashes scheme authority
    | none =>
      let (front, query?, fragment?) := cutQuery .other rest
      let path : Path :=
        match front with
        | '/' :: segments => .segments (walkText .other [] segments)
        | _ => .text (percentEncode [] front)
      .ok ⟨scheme, [], none, none, path, query?, fragment?⟩

def parse (s : String) : Except Flaw Url :=
  match scheme? (clean s.toList) with
  | some (scheme, rest) => ofScheme none scheme rest
  | none => .error .noBase

def join (base : Url) (s : String) : Except Flaw Url :=
  let cs := clean s.toList
  match scheme? cs with
  | some (scheme, rest) => ofScheme (some base) scheme rest
  | none =>
    match base.path, cs with
    | .text _, '#' :: fragment =>
      .ok { base with fragment? := some (percentEncode fragmentSet fragment) }
    | .text _, _ => .error .baseWithoutHierarchy
    | .segments _, _ => relative base cs

end Url

end InfraTemplate
