import InfraTemplate.Loading
import InfraTemplate.Proofs.Plainness
import InfraTemplate.Proofs.Reading
import Mathlib.Data.List.Forall2
import Mathlib.Data.List.TakeWhile

namespace InfraTemplate

def Scope.Settled (scope : Scope) : Prop :=
  ∀ name b, scope.find? name = some b → ∃ n, b = .value n ∧ n.isPlain = true

namespace Node

theorem isPlain_of_child? {n x : Node} {key : String} (h : n.isPlain = true)
    (hx : n.child? key = some x) : x.isPlain = true := by
  cases n with
  | map m => exact (isPlainBut_map.mp h _ (Entries.mem_of_find? hx)).2
  | seq xs =>
    obtain ⟨i, -, hi⟩ := Option.bind_eq_some_iff.mp hx
    exact isPlainBut_seq.mp h x (List.mem_of_getElem? hi)
  | null | bool _ | number _ | string _ | tag _ | document _ => cases hx

theorem isPlain_of_follow? {n x : Node} {keys : List String} (h : n.isPlain = true)
    (hx : n.follow? keys = some x) : x.isPlain = true := by
  induction keys generalizing n with
  | nil =>
    cases hx
    exact h
  | cons key rest ih =>
    obtain ⟨y, hy, hr⟩ := follow?_cons_eq_some.mp hx
    exact ih (isPlain_of_child? h hy) hr

end Node

section Values

variable {scope : Scope} {expr place : String} {n v : Node}

theorem Loading.plainWalk?_of_isPlain (h : n.isPlain = true) (keys : List (List Char)) :
    plainWalk? n keys = n.follow? (keys.map String.ofList) := by
  induction keys generalizing n with
  | nil => rfl
  | cons key rest ih =>
    have hchild : plainChild? n key = n.child? (String.ofList key) := by
      cases n with
      | document d => cases h
      | seq xs => rw [plainChild?, Node.child?, String.toList_ofList]
      | null | bool _ | number _ | string _ | map _ | tag _ => rfl
    rw [plainWalk?, hchild, List.map_cons, Node.follow?]
    cases hx : n.child? (String.ofList key) with
    | none => rfl
    | some x => exact ih (Node.isPlain_of_child? h hx)

theorem Loading.plainLookup_eq_ok (hs : scope.Settled) :
    plainLookup scope place expr = .ok v ↔
      ∃ head rest n, Text.splitAll (· == '.') expr.toList = head :: rest ∧
        scope.find? (String.ofList head) = some (.value n) ∧
        n.follow? (rest.map String.ofList) = some v := by
  unfold plainLookup
  cases hp : Text.splitAll (· == '.') expr.toList with
  | nil => exact absurd hp (Text.splitAll_ne_nil _ _)
  | cons head rest =>
    cases hb : scope.find? (String.ofList head) with
    | none => simp [hb]
    | some b =>
      obtain ⟨n, rfl, hn⟩ := hs _ b hb
      simp only [hb, Option.bind_some, Bound.node, plainWalk?_of_isPlain hn]
      cases hf : n.follow? (rest.map String.ofList) with
      | none => simp [hf, hb]
      | some w =>
        have hw := Node.isPlain_of_follow? hn hf
        cases w with
        | tag _ | document _ => cases hw
        | null | bool _ | number _ | string _ | seq _ | map _ => simp [hf, hb]

namespace Evaluator

variable {ev : Evaluator} {path : Path} {env outer : Env} {s t : Sections}
  {segments : List Segment} {at_ : Located}

theorem descend_of_isPlain (h : n.isPlain = true) (key : String) :
    Located.descend ev ⟨n, env, true⟩ key path =
      pure ((n.child? key).map fun x => ⟨x, env, true⟩) := by
  cases n with
  | tag _ | document _ => cases h
  | null | bool _ | number _ | string _ | seq _ | map _ =>
    rw [← child?_located]
    rfl

def Spells (ev : Evaluator) (path : Path) (env : Env) (segment : Segment) (key : String) : Prop :=
  ∃ s t, Returns (ev.segmentKey path env segment) s key t

theorem spells_name {w : List Char} {key : String} (h : ev.Spells path env (.name w) key) :
    key = String.ofList w := by
  obtain ⟨s, t, hr⟩ := h
  exact (returns_pure.mp hr).1

theorem keys_of_names {names : List (List Char)} {keys : List String}
    (h : List.Forall₂ (ev.Spells path env) (names.map .name) keys) :
    keys = names.map String.ofList := by
  induction names generalizing keys with
  | nil => exact List.forall₂_nil_left_iff.mp h
  | cons w names ih =>
    obtain ⟨key, keys', hkey, hkeys, rfl⟩ := List.forall₂_cons_left_iff.mp h
    rw [List.map_cons, spells_name hkey, ih hkeys]

theorem returns_walk (h : n.isPlain = true)
    (hr : Returns (ev.walk expr path outer ⟨n, env, true⟩ segments) s at_ t) :
    ∃ keys, List.Forall₂ (ev.Spells path outer) segments keys ∧ n.follow? keys = some at_.node ∧
      at_.evaluated = true := by
  induction segments generalizing n s with
  | nil =>
    obtain ⟨rfl, -⟩ := returns_pure.mp hr
    exact ⟨[], .nil, rfl, rfl⟩
  | cons segment rest ih =>
    simp only [walk, returns_bind, descend_of_isPlain h, returns_pure] at hr
    obtain ⟨key, _, hkey, _, _, ⟨rfl, rfl⟩, hr⟩ := hr
    cases hx : n.child? key with
    | none =>
      rw [hx] at hr
      exact absurd hr returns_throw
    | some x =>
      rw [hx] at hr
      obtain ⟨keys, hkeys, hf, he⟩ := ih (Node.isPlain_of_child? h hx) hr
      exact ⟨key :: keys, .cons ⟨s, _, hkey⟩ hkeys, Node.follow?_cons_eq_some.mpr ⟨x, hx, hf⟩, he⟩

theorem lookup_eq_settle :
    ev.lookup expr path env = ev.locate expr path env >>= fun at_ => ev.settle at_ path := rfl

theorem returns_lookup (hs : env.scope.Settled) (hr : Returns (ev.lookup expr path env) s v t) :
    ∃ head segments n keys, LookupPath.parse? expr = some (.name head :: segments) ∧
      env.scope.find? (String.ofList head) = some (.value n) ∧
      List.Forall₂ (ev.Spells path env) segments keys ∧ n.follow? keys = some v := by
  rw [lookup_eq_settle, returns_bind] at hr
  obtain ⟨at_, u, hat, hr⟩ := hr
  unfold locate at hat
  split at hat
  · rename_i head segments hparse
    split at hat
    · rename_i b hb
      obtain ⟨n, rfl, hn⟩ := hs _ b hb
      obtain ⟨keys, hkeys, hf, he⟩ := returns_walk hn hat
      rw [settle, he] at hr
      obtain ⟨rfl, -⟩ := returns_pure.mp hr
      exact ⟨head, segments, n, keys, hparse, hb, hkeys, hf⟩
    · exact absurd hat returns_throw
  · exact absurd hat Eval.returns_malformed

theorem returns_lookup_of_names {head : List Char} {names : List (List Char)}
    (hparse : LookupPath.parse? expr = some (.name head :: names.map .name))
    (hb : env.scope.find? (String.ofList head) = some (.value n))
    (hf : n.follow? (names.map String.ofList) = some v) :
    Returns (ev.lookup expr path env) s v s := by
  have hnames : (names.map String.ofList).map (fun key => Segment.name key.toList) =
      names.map .name := by
    simp only [List.map_map, Function.comp_def, String.toList_ofList]
  have hl : ev.lookup expr path env =
      ev.read expr path env ⟨n, env, true⟩ (names.map String.ofList) := by
    rw [lookup_eq_settle, Discipline.locate_eq ev hparse, Located.find, hb, pure_bind, read, hnames]
    rfl
  rw [hl]
  exact returns_read_value hf

end Evaluator

end Values

namespace LookupPath

def IsDotted (expr : String) : Prop :=
  ∀ w ∈ Text.splitAll (· == '.') expr.toList, w ≠ [] ∧ '[' ∉ w

instance (expr : String) : Decidable (IsDotted expr) :=
  inferInstanceAs (Decidable (∀ w ∈ Text.splitAll (· == '.') expr.toList, w ≠ [] ∧ '[' ∉ w))

section Parsing

variable {cs w rest : List Char}

theorem endsName_eq_false {c : Char} : endsName c = false ↔ (c == '.') = false ∧ c ≠ '[' := by
  simp [endsName]

theorem first?_eq_name : first? cs = some (.name w, rest) ↔
    cs = w ++ rest ∧ w ≠ [] ∧ (∀ c ∈ w, endsName c = false) ∧
      ∀ c ∈ rest.head?, endsName c = true := by
  constructor
  · intro h
    cases cs with
    | nil => cases h
    | cons c cs =>
      rw [first?] at h
      split at h
      · split at h
        · split at h <;> cases h
        · cases h
      · split at h
        · cases h
        · rename_i hc
          cases h
          refine ⟨?_, List.cons_ne_nil _ _, ?_, ?_⟩
          · rw [List.cons_append, List.takeWhile_append_dropWhile]
          · intro d hd
            rcases List.mem_cons.mp hd with rfl | hd
            · exact Bool.eq_false_iff.mpr hc
            · simpa using List.mem_takeWhile_imp hd
          · intro d hd
            have hhead := List.head?_dropWhile_not (fun d => !endsName d) cs
            rw [Option.mem_def.mp hd] at hhead
            simpa using hhead
  · rintro ⟨rfl, hne, hw, hrest⟩
    cases w with
    | nil => exact absurd rfl hne
    | cons c w =>
      have hc := hw c (List.mem_cons_self ..)
      have htail : ∀ d ∈ w, (!endsName d) = true := fun d hd => by
        rw [hw d (List.mem_cons_of_mem _ hd)]
        rfl
      have hstop : rest.takeWhile (fun d => !endsName d) = [] ∧
          rest.dropWhile (fun d => !endsName d) = rest := by
        cases rest with
        | nil => exact ⟨rfl, rfl⟩
        | cons d rest =>
          have hd : ¬(!endsName d) = true := by
            rw [hrest d rfl]
            decide
          exact ⟨List.takeWhile_cons_of_neg hd, List.dropWhile_cons_of_neg hd⟩
      rw [List.cons_append, first?, if_neg (endsName_eq_false.mp hc).2, hc,
        List.takeWhile_append_of_pos htail, List.dropWhile_append_of_pos htail, hstop.1, hstop.2,
        List.append_nil]
      rfl

theorem first?_eq_dynamic {inner : List Char} (h : first? cs = some (.dynamic inner, rest)) :
    ∃ more, cs = '[' :: more := by
  cases cs with
  | nil => cases h
  | cons c cs =>
    rw [first?] at h
    split at h
    · rename_i hc
      exact ⟨cs, by rw [hc]⟩
    · split at h <;> cases h

theorem segments?_eq_some {segments : List Segment} (hne : cs ≠ []) :
    segments? cs = some segments ↔ ∃ s rest more tail, first? cs = some (s, rest) ∧
      afterDot? rest = some more ∧ segments? more = some tail ∧ segments = s :: tail := by
  rw [segments?, if_neg (mt List.isEmpty_iff.mp hne)]
  constructor
  · intro h
    split at h
    · cases h
    · rename_i s rest hfirst
      split at h
      · cases h
      · rename_i more hmore
        obtain ⟨tail, htail, rfl⟩ := Option.map_eq_some_iff.mp h
        exact ⟨s, rest, more, tail, hfirst, hmore, htail, rfl⟩
  · rintro ⟨s, rest, more, tail, hfirst, hmore, htail, rfl⟩
    split
    · rename_i h
      rw [hfirst] at h
      cases h
    · rename_i h
      rw [hfirst] at h
      cases h
      split
      · rename_i h
        rw [hmore] at h
        cases h
      · rename_i h
        rw [hmore] at h
        cases h
        rw [htail, Option.map_some]

theorem segments?_nil : segments? [] = some [] := by
  rw [segments?]
  rfl

theorem segments?_of_names {ws : List (List Char)} (hne : ws ≠ [])
    (h : ∀ w ∈ ws, w ≠ [] ∧ ∀ c ∈ w, endsName c = false) :
    segments? (['.'].intercalate ws) = some (ws.map .name) := by
  induction ws with
  | nil => exact absurd rfl hne
  | cons w ws ih =>
    obtain ⟨hw, hname⟩ := h w (List.mem_cons_self ..)
    cases ws with
    | nil =>
      have hfirst : first? w = some (.name w, []) :=
        first?_eq_name.mpr ⟨(List.append_nil w).symm, hw, hname, nofun⟩
      rw [List.intercalate_singleton]
      exact (segments?_eq_some hw).mpr ⟨_, _, _, _, hfirst, rfl, segments?_nil, rfl⟩
    | cons w' ws =>
      have htail := ih (List.cons_ne_nil _ _) fun v hv => h v (List.mem_cons_of_mem _ hv)
      have hw' := (h w' (List.mem_cons_of_mem _ (List.mem_cons_self ..))).1
      rw [List.intercalate_cons_cons, List.append_assoc, List.singleton_append]
      generalize hmore : ['.'].intercalate (w' :: ws) = more at htail
      have hfirst : first? (w ++ '.' :: more) = some (.name w, '.' :: more) := by
        refine first?_eq_name.mpr ⟨rfl, hw, hname, ?_⟩
        rintro _ ⟨⟩
        rfl
      have hdot : afterDot? ('.' :: more) = some more := by
        have hne' : more ≠ [] := by
          rintro rfl
          rw [segments?_nil] at htail
          cases htail
        rw [afterDot?, if_pos rfl, if_neg (mt List.isEmpty_iff.mp hne')]
      refine (segments?_eq_some ?_).mpr ⟨_, _, _, _, hfirst, hdot, htail, rfl⟩
      exact List.append_ne_nil_of_left_ne_nil hw _

theorem parse?_of_dotted {expr : String} (hb : ∀ c ∈ expr.toList, Text.isBlank c = false)
    (hd : IsDotted expr) :
    parse? expr = some ((Text.splitAll (· == '.') expr.toList).map .name) := by
  have hnames : ∀ w ∈ Text.splitAll (· == '.') expr.toList,
      w ≠ [] ∧ ∀ c ∈ w, endsName c = false := by
    intro w hw
    refine ⟨(hd w hw).1, fun c hc => endsName_eq_false.mpr ⟨Text.of_mem_splitAll hw hc, ?_⟩⟩
    rintro rfl
    exact (hd w hw).2 hc
  rw [parse?, Text.trim_of_none hb]
  nth_rewrite 1 [← Text.intercalate_splitAll '.' expr.toList]
  exact segments?_of_names (Text.splitAll_ne_nil _ _) hnames

def Unbracketed : Segment → List Char → Prop
  | .name w, key => key = w
  | .dynamic _, key => key.head? ≠ some '['

theorem dotted_of_unbracketed {segments : List Segment} {keys : List (List Char)} (hne : cs ≠ [])
    (h : segments? cs = some segments) (hk : List.Forall₂ Unbracketed segments keys)
    (hp : keys <+: Text.splitAll (· == '.') cs) :
    ∀ w ∈ Text.splitAll (· == '.') cs, w ≠ [] ∧ '[' ∉ w := by
  induction hn : cs.length using Nat.strongRecOn generalizing cs segments keys with
  | ind n ih =>
    subst hn
    obtain ⟨s, rest, more, tail, hfirst, hmore, htail, rfl⟩ := (segments?_eq_some hne).mp h
    obtain ⟨key, keys', hkey, hk', rfl⟩ := List.forall₂_cons_left_iff.mp hk
    cases s with
    | dynamic inner =>
      obtain ⟨cs', rfl⟩ := first?_eq_dynamic hfirst
      have hopen : ∀ c ∈ ['['], (c == '.') = false := fun c hc => by
        rw [List.mem_singleton.mp hc]
        rfl
      obtain ⟨v, vs, -, hsplit⟩ := Text.splitAll_append_of_none hopen cs'
      rw [List.singleton_append] at hsplit
      rw [hsplit] at hp
      obtain ⟨rfl, -⟩ := List.cons_prefix_cons.mp hp
      exact absurd rfl hkey
    | name w =>
      obtain rfl : key = w := hkey
      obtain ⟨rfl, hw, hname, hstop⟩ := first?_eq_name.mp hfirst
      have hdots : ∀ c ∈ key, (c == '.') = false := fun c hc =>
        (endsName_eq_false.mp (hname c hc)).1
      have hplain : '[' ∉ key := fun hc => (endsName_eq_false.mp (hname _ hc)).2 rfl
      cases rest with
      | nil =>
        rw [List.append_nil, Text.splitAll_of_none hdots]
        intro v hv
        rw [List.mem_singleton.mp hv]
        exact ⟨hw, hplain⟩
      | cons d rest =>
        have hd := hstop d rfl
        by_cases hdot : d = '.'
        · subst hdot
          have hsplit := Text.splitAll_append (p := (· == '.')) (beq_self_eq_true '.') key rest
          rw [Text.splitAll_of_none hdots] at hsplit
          rw [hsplit] at hp ⊢
          obtain ⟨-, hp'⟩ := List.cons_prefix_cons.mp hp
          rw [afterDot?, if_pos rfl] at hmore
          split at hmore
          · cases hmore
          · rename_i hrest
            rw [← Option.some.inj hmore] at htail
            intro v hv
            rcases List.mem_cons.mp hv with rfl | hv
            · exact ⟨hw, hplain⟩
            · have hlt : rest.length < (key ++ '.' :: rest).length := by simp; omega
              exact ih _ hlt (mt List.isEmpty_iff.mpr hrest) htail hk' hp' rfl v hv
        · -- The name stops at a bracket, so it is not all that stands before the dot.
          have hdots' : ∀ c ∈ key ++ [d], (c == '.') = false := by
            intro c hc
            rcases List.mem_append.mp hc with hc | hc
            · exact hdots c hc
            · rw [List.mem_singleton.mp hc]
              exact beq_eq_false_iff_ne.mpr hdot
          obtain ⟨v, vs, -, hsplit⟩ := Text.splitAll_append_of_none hdots' rest
          rw [List.append_assoc, List.singleton_append] at hsplit
          rw [hsplit] at hp
          have hlength := congrArg List.length (List.cons_prefix_cons.mp hp).1
          simp only [List.length_append, List.length_singleton] at hlength
          omega

end Parsing

end LookupPath

def Node.nest : List (List Char) → Node
  | [] => .null
  | w :: ws => .map [(String.ofList w, nest ws)]

def Scope.along : List (List Char) → Scope
  | [] => .empty
  | head :: rest => .frame 1 [(String.ofList head, .value (.nest rest))] .empty

namespace Node

theorem isPlain_nest (ws : List (List Char)) : (nest ws).isPlain = true := by
  induction ws with
  | nil => rfl
  | cons w ws ih =>
    refine isPlainBut_map.mpr fun e he => ?_
    rw [List.mem_singleton.mp he]
    exact ⟨rfl, ih⟩

theorem follow?_nest (ws : List (List Char)) :
    (nest ws).follow? (ws.map String.ofList) = some .null := by
  induction ws with
  | nil => rfl
  | cons w ws ih =>
    refine follow?_cons_eq_some.mpr ⟨nest ws, ?_, ih⟩
    rw [nest, child?, Entries.find?_cons, if_pos rfl]

theorem follow?_nest_eq_some {ws : List (List Char)} {keys : List String} {v : Node}
    (h : (nest ws).follow? keys = some v) :
    ∃ front back, ws = front ++ back ∧ keys = front.map String.ofList ∧ v = nest back := by
  induction keys generalizing ws with
  | nil =>
    cases h
    exact ⟨[], ws, rfl, rfl, rfl⟩
  | cons key rest ih =>
    obtain ⟨x, hx, hr⟩ := follow?_cons_eq_some.mp h
    cases ws with
    | nil => cases hx
    | cons w ws =>
      rw [nest, child?, Entries.find?_cons] at hx
      split at hx
      · rename_i hkey
        cases hx
        obtain ⟨front, back, rfl, rfl, rfl⟩ := ih hr
        exact ⟨w :: front, back, rfl, by rw [List.map_cons, hkey], rfl⟩
      · cases hx

theorem head?_text_nest (ws : List (List Char)) : (nest ws).text.toList.head? ≠ some '[' := by
  cases ws with
  | nil => decide
  | cons w ws =>
    have htext : ∃ fields, (nest (w :: ws)).text = Json.compact (.object fields) := ⟨_, rfl⟩
    obtain ⟨fields, htext⟩ := htext
    have hopen : "\x7b".toList = ['\x7b'] := rfl
    rw [htext, Json.compact, String.toList_append, String.toList_append, hopen]
    simp

end Node

namespace Scope

theorem find?_along {head : List Char} {rest : List (List Char)} {name : String} {b : Bound} :
    (along (head :: rest)).find? name = some b ↔
      name = String.ofList head ∧ b = .value (.nest rest) := by
  rw [along, find?, Entries.find?_cons]
  by_cases hname : name = String.ofList head
  · simp [hname, eq_comm]
  · simp [hname, find?]

theorem settled_along (ws : List (List Char)) : (along ws).Settled := by
  intro name b h
  cases ws with
  | nil => cases h
  | cons head rest =>
    obtain ⟨-, rfl⟩ := find?_along.mp h
    exact ⟨_, rfl, Node.isPlain_nest rest⟩

end Scope

section Apart

open Evaluator LookupPath

variable {head : List Char} {rest : List (List Char)} {path : Path} {env : Env} {s t : Sections}
  {v : Node}

theorem lookup_along {ev : Evaluator} {expr : String} (henv : env.scope = .along (head :: rest))
    (hr : Returns (ev.lookup expr path env) s v t) :
    ∃ segments front back, parse? expr = some (.name head :: segments) ∧ rest = front ++ back ∧
      List.Forall₂ (ev.Spells path env) segments (front.map String.ofList) ∧ v = .nest back := by
  obtain ⟨name, segments, n, keys, hparse, hb, hkeys, hf⟩ :=
    returns_lookup (henv ▸ Scope.settled_along _) hr
  rw [henv] at hb
  obtain ⟨hname, hn⟩ := Scope.find?_along.mp hb
  cases hn
  obtain ⟨front, back, rfl, rfl, rfl⟩ := Node.follow?_nest_eq_some hf
  obtain rfl := String.ofList_inj.mp hname
  exact ⟨segments, front, back, hparse, rfl, hkeys, rfl⟩

theorem unbracketed_of_spells {k : Nat} (henv : env.scope = .along (head :: rest))
    {segment : Segment} {w : List Char}
    (h : (upTo k).Spells path env segment (String.ofList w)) : Unbracketed segment w := by
  obtain ⟨s, t, hr⟩ := h
  cases segment with
  | name key => exact String.ofList_inj.mp (spells_name ⟨s, t, hr⟩)
  | dynamic inner =>
    obtain ⟨x, u, hx, hr⟩ := returns_bind.mp hr
    obtain ⟨he, -⟩ := returns_pure.mp hr
    cases k with
    | zero => exact absurd hx Eval.returns_unfinished
    | succ k =>
      obtain ⟨-, -, back, -, -, -, rfl⟩ := lookup_along henv hx
      have hhead := Node.head?_text_nest back
      rw [← he, String.toList_ofList] at hhead
      exact hhead

theorem not_returns_along {expr : String} {k : Nat}
    (hb : ∀ c ∈ expr.toList, Text.isBlank c = false) (hd : ¬IsDotted expr)
    (hsplit : Text.splitAll (· == '.') expr.toList = head :: rest)
    (henv : env.scope = .along (head :: rest)) :
    ¬Returns ((upTo k).lookup expr path env) s v t := by
  intro hr
  obtain ⟨segments, front, back, hparse, rfl, hkeys, -⟩ := lookup_along henv hr
  rw [parse?, Text.trim_of_none hb] at hparse
  have hne : expr.toList ≠ [] := by
    intro he
    rw [he, segments?_nil] at hparse
    cases hparse
  have hkeys' : List.Forall₂ Unbracketed segments front :=
    (List.forall₂_map_right_iff.mp hkeys).imp fun _ _ h => unbracketed_of_spells henv h
  have hhead : Unbracketed (.name head) head := rfl
  refine hd (dotted_of_unbracketed hne hparse (.cons hhead hkeys') ?_)
  rw [hsplit]
  exact List.cons_prefix_cons.mpr ⟨rfl, List.prefix_append _ _⟩

end Apart

def Follows (scope : Scope) (expr : String) : Prop :=
  ∀ (place : String) (path : Path) (env : Env), env.scope = scope → ∀ (s : Sections) (v : Node),
    Loading.plainLookup scope place expr = .ok v ↔
      ∃ k t, Returns ((Evaluator.upTo k).lookup expr path env) s v t

theorem follows_of_dotted {scope : Scope} {expr : String} (hs : scope.Settled)
    (hb : ∀ c ∈ expr.toList, Text.isBlank c = false) (hd : LookupPath.IsDotted expr) :
    Follows scope expr := by
  rintro place path env rfl s v
  have hparse := LookupPath.parse?_of_dotted hb hd
  rw [Loading.plainLookup_eq_ok hs]
  constructor
  · rintro ⟨head, rest, n, hsplit, hname, hf⟩
    rw [hsplit, List.map_cons] at hparse
    exact ⟨0, s, Evaluator.returns_lookup_of_names hparse hname hf⟩
  · rintro ⟨k, t, hr⟩
    obtain ⟨head, segments, n, keys, hparse', hname, hkeys, hf⟩ := Evaluator.returns_lookup hs hr
    rw [hparse] at hparse'
    cases hsplit : Text.splitAll (· == '.') expr.toList with
    | nil => exact absurd hsplit (Text.splitAll_ne_nil _ _)
    | cons head' rest =>
      rw [hsplit, List.map_cons] at hparse'
      cases hparse'
      rw [Evaluator.keys_of_names hkeys] at hf
      exact ⟨head, rest, n, rfl, hname, hf⟩

def Strays (expr : String) : Prop :=
  ∃ (scope : Scope) (v : Node), scope.Settled ∧
    ∀ (place : String) (path : Path) (env : Env), env.scope = scope →
      Loading.plainLookup scope place expr = .ok v ∧
        ∀ k s w t, ¬Returns ((Evaluator.upTo k).lookup expr path env) s w t

theorem strays_of_not_dotted {expr : String} (hb : ∀ c ∈ expr.toList, Text.isBlank c = false)
    (hd : ¬LookupPath.IsDotted expr) : Strays expr := by
  cases hsplit : Text.splitAll (· == '.') expr.toList with
  | nil => exact absurd hsplit (Text.splitAll_ne_nil _ _)
  | cons head rest =>
    refine ⟨.along (head :: rest), .null, Scope.settled_along _, fun place path env henv => ?_⟩
    constructor
    · refine (Loading.plainLookup_eq_ok (Scope.settled_along _)).mpr
        ⟨head, rest, .nest rest, hsplit, ?_, Node.follow?_nest rest⟩
      exact Scope.find?_along.mpr ⟨rfl, rfl⟩
    · intro k s w t
      exact not_returns_along hb hd hsplit henv

theorem Strays.not_follows {expr : String} (h : Strays expr) :
    ∃ scope : Scope, scope.Settled ∧ ¬Follows scope expr := by
  obtain ⟨scope, v, hs, hv⟩ := h
  refine ⟨scope, hs, fun hf => ?_⟩
  obtain ⟨hplain, hnone⟩ := hv "" Path.root (Env.root scope "" 0) rfl
  obtain ⟨k, t, hr⟩ := (hf "" Path.root (Env.root scope "" 0) rfl [] v).mp hplain
  exact hnone k [] v t hr

/-- The paths that come to the same in import locations and in evaluation, whatever the values in
scope are, are those without brackets or empty names. -/
theorem follows_iff_dotted {expr : String} (hb : expr.toList.any Text.isBlank = false) :
    ((∀ scope : Scope, scope.Settled → Follows scope expr) ↔ LookupPath.IsDotted expr) ∧
      (¬LookupPath.IsDotted expr → Strays expr) := by
  have hword : ∀ c ∈ expr.toList, Text.isBlank c = false := by simpa using hb
  refine ⟨⟨fun h => ?_, fun hd scope hs => follows_of_dotted hs hword hd⟩,
    strays_of_not_dotted hword⟩
  by_contra hd
  obtain ⟨scope, hs, hf⟩ := (strays_of_not_dotted hword hd).not_follows
  exact hf (h scope hs)

def zonesScope : Scope :=
  .frame 1 [("env", .value (.string "prod")), ("zones", .value (.map [("prod", .string "eu")]))]
    .empty

theorem settled_zones : zonesScope.Settled := by
  intro name b h
  rw [zonesScope, Scope.find?, Entries.find?_cons, Entries.find?_cons] at h
  by_cases henv : name = "env"
  · rw [if_pos henv] at h
    cases h
    exact ⟨_, rfl, rfl⟩
  · by_cases hzones : name = "zones"
    · rw [if_neg henv, if_pos hzones] at h
      cases h
      exact ⟨_, rfl, rfl⟩
    · rw [if_neg henv, if_neg hzones] at h
      cases h

theorem follows_iff_dotted_zones :
    Follows zonesScope "zones.prod" ∧ Strays "zones..prod" := by
  have hdotted : LookupPath.IsDotted "zones.prod" := by decide +kernel
  have hempty : ¬LookupPath.IsDotted "zones..prod" := by decide +kernel
  exact ⟨(follows_iff_dotted (by decide +kernel)).1.mpr hdotted zonesScope settled_zones,
    (follows_iff_dotted (by decide +kernel)).2 hempty⟩

theorem bracketed_key_lost :
    zonesScope.Settled ∧ "zones[env]".toList.any Text.isBlank = false ∧
      Returns ((Evaluator.upTo 1).lookup "zones[env]" Path.root
        (Env.root zonesScope "t.yaml" 50)) [] (.string "eu") [] ∧
      (∀ place v, Loading.plainLookup zonesScope place "zones[env]" ≠ .ok v) ∧
      ¬Follows zonesScope "zones[env]" := by
  have hlookup : Returns ((Evaluator.upTo 1).lookup "zones[env]" Path.root
      (Env.root zonesScope "t.yaml" 50)) [] (.string "eu") [] := by
    with_unfolding_all exact rfl
  have hplain : ∀ place v, Loading.plainLookup zonesScope place "zones[env]" ≠ .ok v := by
    intro place v h
    obtain ⟨head, rest, n, hsplit, hname, -⟩ := (Loading.plainLookup_eq_ok settled_zones).mp h
    have hwhole : Text.splitAll (· == '.') "zones[env]".toList = ["zones[env]".toList] := by
      decide +kernel
    rw [hwhole] at hsplit
    cases hsplit
    rw [String.ofList_toList] at hname
    simp [zonesScope, Scope.find?, Entries.find?_cons] at hname
  refine ⟨settled_zones, by decide +kernel, hlookup, hplain, fun h => ?_⟩
  exact hplain "t.yaml" _ ((h "t.yaml" Path.root _ rfl [] (.string "eu")).mpr ⟨1, [], hlookup⟩)

end InfraTemplate
