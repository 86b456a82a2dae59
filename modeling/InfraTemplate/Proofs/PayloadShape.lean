import InfraTemplate.Proofs.Written
import Mathlib.Data.List.Nodup
import Mathlib.Data.List.Perm.Basic

namespace InfraTemplate

namespace Entries

variable {α : Type} {es es' : Entries α} {ks : List String} {name : String}

def only (ks : List String) (es : Entries α) : Entries α := es.filter fun e => e.1 ∈ ks

def select (ks : List String) (es : Entries α) : Entries α :=
  ks.flatMap fun k => Tag.optional k (find? k es)

theorem select_cons (k : String) (ks : List String) (es : Entries α) :
    select (k :: ks) es = Tag.optional k (find? k es) ++ select ks es := List.flatMap_cons

@[simp] theorem select_nil (es : Entries α) : select [] es = [] := rfl

theorem exists_find?_iff : (∃ a, find? name es = some a) ↔ name ∈ keys es := by
  rw [← Option.isSome_iff_exists, ← has_iff, has]

theorem perm_of_find? (h : (keys es).Nodup) (h' : (keys es').Nodup)
    (hfind : ∀ name, find? name es = find? name es') : es.Perm es' := by
  refine (List.perm_ext_iff_of_nodup h.of_map h'.of_map).mpr fun e => ?_
  rw [← find?_eq_some_iff_mem h, ← find?_eq_some_iff_mem h', hfind]

theorem find?_only : find? name (only ks es) = if name ∈ ks then find? name es else none := by
  by_cases hname : name ∈ ks
  · rw [if_pos hname]
    exact find?_filter (p := fun k => k ∈ ks) (decide_eq_true hname) es
  · rw [if_neg hname, find?_eq_none_iff]
    intro h
    obtain ⟨e, he, rfl⟩ := List.mem_map.mp h
    exact hname (of_decide_eq_true (List.mem_filter.mp he).2)

theorem find?_optional (k : String) (a? : Option α) :
    find? name (Tag.optional k a?) = if name = k then a? else none := by
  cases a? with
  | none => simp [Tag.optional]
  | some a => rw [Tag.optional, find?_cons, find?_nil]

theorem find?_select : find? name (select ks es) = if name ∈ ks then find? name es else none := by
  induction ks with
  | nil => rfl
  | cons k ks ih =>
    have happend : find? name (select (k :: ks) es) =
        (find? name (Tag.optional k (find? k es))).or (find? name (select ks es)) :=
      List.lookup_append
    rw [happend, find?_optional, ih]
    by_cases hname : name = k
    · subst hname
      cases find? name es <;> simp
    · simp [hname]

theorem keys_nodup_only (h : (keys es).Nodup) : (keys (only ks es)).Nodup :=
  h.sublist (List.filter_sublist.map _)

theorem keys_select_sublist : (keys (select ks es)).Sublist ks := by
  induction ks with
  | nil => exact .slnil
  | cons k ks ih =>
    rw [select_cons, keys, List.map_append]
    cases find? k es with
    | none => exact ih.cons k
    | some a => exact ih.cons_cons k

theorem select_perm_only (hks : ks.Nodup) (h : (keys es).Nodup) :
    (select ks es).Perm (only ks es) := by
  refine perm_of_find? (hks.sublist keys_select_sublist) (keys_nodup_only h) fun name => ?_
  rw [find?_select, find?_only]

theorem only_eq_self : only ks es = es ↔ ∀ k ∈ keys es, k ∈ ks := by
  rw [only, List.filter_eq_self, keys, List.forall_mem_map]
  simp only [decide_eq_true_eq]

theorem mem_keys_only {k : String} : k ∈ keys (only ks es) ↔ k ∈ ks ∧ k ∈ keys es := by
  rw [← not_iff_not, ← find?_eq_none_iff, find?_only]
  by_cases hk : k ∈ ks <;> simp [hk, find?_eq_none_iff]

end Entries

namespace Payload

inductive Shape where
  | path
  | any
  | pair
  | bindings
  | keyed (required optional : List String)

def NamesVariable (m : Mapping) : Prop :=
  ∀ n, Entries.find? "var" m = some n → ∃ s, n = .string s

def Shape.Admits : Shape → Node → Prop
  | path, n => ∃ s, n = .string s
  | any, _ => True
  | pair, n => ∃ x y, n = .seq [x, y]
  | bindings, n => ∃ m, n = .map m ∧ Tag.bodyKey ∈ Entries.keys m
  | keyed required optional, n => ∃ m, n = .map m ∧ (∀ k ∈ required, k ∈ Entries.keys m) ∧
      (∀ k ∈ Entries.keys m, k ∈ required ++ optional) ∧ NamesVariable m

namespace Family

def shape : Family → Shape
  | lookup => .path
  | expand => .keyed ["template", "params"] []
  | operand _ => .any
  | pair _ => .pair
  | choice => .keyed ["test", "then"] ["else"]
  | letIn => .bindings
  | loop kind => .keyed ["items", "template"] (if kind = .map then ["var", "filter"] else ["var"])
  | grouping => .keyed ["items", "key"] ["var", "template"]

def asked? : Family → Option (List String)
  | choice => some ["test", "then", "else"]
  | loop _ => some ["items", "template", "var", "filter"]
  | grouping => some ["items", "key", "var", "template"]
  | _ => none

def seen (f : Family) : Node → Node
  | .map m =>
    match f.asked? with
    | some ks => .map (Entries.only ks m)
    | none => .map m
  | n => n

variable {f : Family} {ks : List String} {n : Node} {m : Mapping}

theorem seen_map (h : f.asked? = some ks) (m : Mapping) :
    f.seen (.map m) = .map (Entries.only ks m) := by
  rw [seen]
  split
  · rename_i ks' h'
    rw [h] at h'
    cases h'
    rfl
  · rename_i h'
    rw [h] at h'
    cases h'

theorem seen_of_asked_eq_none (h : f.asked? = none) (n : Node) : f.seen n = n := by
  cases n with
  | map m =>
    rw [seen]
    split
    · rename_i ks h'
      rw [h] at h'
      cases h'
    · rfl
  | null | bool _ | number _ | string _ | seq _ | tag _ | document _ => rfl

theorem eq_map_of_seen (h : f.seen n = .map m) : ∃ m', n = .map m' := by
  cases n with
  | map m' => exact ⟨m', rfl⟩
  | null | bool _ | number _ | string _ | seq _ | tag _ | document _ => cases h

end Family

end Payload

/-- What of a payload is kept in the construct: all of it, with a path trimmed and a map in the order
in which it is written again. -/
inductive Tag.Keeps : Tag Node → Node → Prop where
  | path (s : String) : Keeps (.lookup (Text.trimText s)) (.string s)
  | whole (t : Tag Node) : Keeps t (t.payload Node.builder)
  | reordered {t : Tag Node} {m m' : Mapping} (written : t.payload Node.builder = .map m)
    (entries : m.Perm m') : Keeps t (.map m')

namespace Payload

variable {n : Node} {m : Mapping} {t : Tag Node} {key : String}

theorem namesVariable_iff : NamesVariable m ↔ ∃ o, varName? m = .ok o := by
  simp only [varName?_eq_ok, NamesVariable]
  cases h : Entries.find? "var" m with
  | none => exact ⟨fun _ => ⟨none, rfl⟩, fun _ _ h => nomatch h⟩
  | some x =>
    constructor
    · intro hx
      obtain ⟨s, rfl⟩ := hx x rfl
      exact ⟨some s, rfl⟩
    · rintro ⟨o, ho⟩ _ ⟨⟩
      cases o with
      | none => cases ho
      | some s => exact ⟨s, Option.some.inj ho⟩

theorem namesVariable_only {ks : List String} (h : "var" ∈ ks) :
    NamesVariable (Entries.only ks m) ↔ NamesVariable m := by
  rw [NamesVariable, NamesVariable, Entries.find?_only, if_pos h]

theorem namesVariable_of_not_mem (h : "var" ∉ Entries.keys m) : NamesVariable m := by
  intro n hn
  rw [Entries.find?_eq_none_iff.mpr h] at hn
  cases hn

structure Accounts (f : Family) (n : Node) : Prop where
  accepted : (∃ t, f.read n = .ok t) ↔ f.shape.Admits (f.seen n)
  kept : ∀ t, f.read n = .ok t → t.Keeps (f.seen n)

theorem accounts_of_keyed {f : Family} {ks required optional : List String}
    (hshape : f.shape = .keyed required optional) (hasked : f.asked? = some ks) (hks : ks.Nodup)
    (hrequired : ∀ k ∈ required, k ∈ ks) (hmap : ∀ t, f.read n = .ok t → ∃ m, n = .map m)
    (hpayload : ∀ m t, f.read (.map m) = .ok t →
      t.payload Node.builder = .map (Entries.select ks m))
    (hok : ∀ m, (∃ t, f.read (.map m) = .ok t) ↔ (∀ k ∈ required, k ∈ Entries.keys m) ∧
      (∀ k ∈ ks, k ∈ Entries.keys m → k ∈ required ++ optional) ∧
        NamesVariable (Entries.only ks m))
    (hn : ∀ m, n = .map m → (Entries.keys m).Nodup) : Accounts f n := by
  have hadmits (m : Mapping) : (∃ t, f.read (.map m) = .ok t) ↔
      (∀ k ∈ required, k ∈ Entries.keys (Entries.only ks m)) ∧
        (∀ k ∈ Entries.keys (Entries.only ks m), k ∈ required ++ optional) ∧
          NamesVariable (Entries.only ks m) := by
    simp only [Entries.mem_keys_only, and_imp]
    rw [hok]
    refine and_congr_left' (forall₂_congr fun k hk => ?_)
    exact (and_iff_right (hrequired k hk)).symm
  refine ⟨?_, ?_⟩
  · rw [hshape]
    constructor
    · rintro ⟨t, ht⟩
      obtain ⟨m, rfl⟩ := hmap t ht
      exact ⟨_, Family.seen_map hasked m, (hadmits m).mp ⟨t, ht⟩⟩
    · rintro ⟨m', hm', h⟩
      obtain ⟨m, rfl⟩ := Family.eq_map_of_seen hm'
      rw [Family.seen_map hasked] at hm'
      cases hm'
      exact (hadmits m).mpr h
  · intro t ht
    obtain ⟨m, rfl⟩ := hmap t ht
    rw [Family.seen_map hasked]
    exact .reordered (hpayload m t ht) (Entries.select_perm_only hks (hn m rfl))

theorem accounts_choice (hn : ∀ m, n = .map m → (Entries.keys m).Nodup) : Accounts .choice n := by
  refine accounts_of_keyed rfl rfl (by decide) (by decide) ?_ ?_ ?_ hn
  · intro t h
    obtain ⟨m, -, -, hm, -⟩ := asChoice_eq_ok.mp h
    exact ⟨m, hm⟩
  · intro m t h
    obtain ⟨_, test, consequent, ⟨⟩, ht, hc, rfl⟩ := asChoice_eq_ok.mp h
    simp only [Entries.select_cons, Entries.select_nil, ht, hc, List.append_nil]
    rfl
  · intro m
    rw [List.forall_mem_cons, List.forall_mem_singleton, ← Entries.exists_find?_iff,
      ← Entries.exists_find?_iff]
    constructor
    · rintro ⟨t, h⟩
      obtain ⟨_, test, consequent, ⟨⟩, ht, hc, rfl⟩ := asChoice_eq_ok.mp h
      refine ⟨⟨⟨test, ht⟩, consequent, hc⟩, fun k hk _ => hk, namesVariable_of_not_mem fun hv => ?_⟩
      exact absurd (Entries.mem_keys_only.mp hv).1 (by decide)
    · rintro ⟨⟨⟨test, ht⟩, consequent, hc⟩, -⟩
      exact ⟨_, asChoice_eq_ok.mpr ⟨m, test, consequent, rfl, ht, hc, rfl⟩⟩

theorem accounts_loop (kind : LoopKind) (hn : ∀ m, n = .map m → (Entries.keys m).Nodup) :
    Accounts (.loop kind) n := by
  refine accounts_of_keyed rfl rfl (by decide) (by decide) ?_ ?_ ?_ hn
  · intro t h
    obtain ⟨m, -, -, -, hm, -⟩ := asLoop_eq_ok.mp h
    exact ⟨m, hm⟩
  · intro m t h
    obtain ⟨_, items, template, v, ⟨⟩, hi, ht, hv, -, rfl⟩ := asLoop_eq_ok.mp h
    simp only [Entries.select_cons, Entries.select_nil, hi, ht, hv, List.append_nil]
    rfl
  · intro m
    -- Of the keys that are asked for only the filter may be out of place.
    have hfilter : (∀ k ∈ ["items", "template", "var", "filter"], k ∈ Entries.keys m →
          k ∈ ["items", "template"] ++ if kind = .map then ["var", "filter"] else ["var"]) ↔
        ((Entries.find? "filter" m).isSome = true → kind = .map) := by
      change _ ↔ (Entries.has "filter" m = true → kind = .map)
      rw [Entries.has_iff]
      by_cases hk : kind = .map <;> simp [hk]
    rw [hfilter, namesVariable_only (by decide), namesVariable_iff, List.forall_mem_cons,
      List.forall_mem_singleton, ← Entries.exists_find?_iff, ← Entries.exists_find?_iff]
    constructor
    · rintro ⟨t, h⟩
      obtain ⟨_, items, template, v, ⟨⟩, hi, ht, hv, hf, rfl⟩ := asLoop_eq_ok.mp h
      exact ⟨⟨⟨items, hi⟩, template, ht⟩, hf, v, varName?_eq_ok.mpr hv⟩
    · rintro ⟨⟨⟨items, hi⟩, template, ht⟩, hf, v, hv⟩
      exact ⟨_, asLoop_eq_ok.mpr
        ⟨m, items, template, v, rfl, hi, ht, varName?_eq_ok.mp hv, hf, rfl⟩⟩

theorem accounts_grouping (hn : ∀ m, n = .map m → (Entries.keys m).Nodup) :
    Accounts .grouping n := by
  refine accounts_of_keyed rfl rfl (by decide) (by decide) ?_ ?_ ?_ hn
  · intro t h
    obtain ⟨m, -, -, -, hm, -⟩ := asGrouping_eq_ok.mp h
    exact ⟨m, hm⟩
  · intro m t h
    obtain ⟨_, items, key, v, ⟨⟩, hi, hk, hv, rfl⟩ := asGrouping_eq_ok.mp h
    simp only [Entries.select_cons, Entries.select_nil, hi, hk, hv, List.append_nil]
    rfl
  · intro m
    rw [namesVariable_only (by decide), namesVariable_iff, List.forall_mem_cons,
      List.forall_mem_singleton, ← Entries.exists_find?_iff, ← Entries.exists_find?_iff]
    constructor
    · rintro ⟨t, h⟩
      obtain ⟨_, items, key, v, ⟨⟩, hi, hk, hv, rfl⟩ := asGrouping_eq_ok.mp h
      exact ⟨⟨⟨items, hi⟩, key, hk⟩, fun k hk _ => hk, v, varName?_eq_ok.mpr hv⟩
    · rintro ⟨⟨⟨items, hi⟩, key, hk⟩, -, v, hv⟩
      exact ⟨_, asGrouping_eq_ok.mpr ⟨m, items, key, v, rfl, hi, hk, varName?_eq_ok.mp hv, rfl⟩⟩

theorem accounts_letIn (hn : ∀ m, n = .map m → (Entries.keys m).Nodup) : Accounts .letIn n := by
  refine ⟨?_, ?_⟩
  · rw [Family.seen_of_asked_eq_none rfl]
    constructor
    · rintro ⟨t, h⟩
      obtain ⟨m, body, hm, hb, -⟩ := asLet_eq_ok.mp h
      exact ⟨m, hm, Entries.exists_find?_iff.mp ⟨body, hb⟩⟩
    · rintro ⟨m, hm, h⟩
      obtain ⟨body, hb⟩ := Entries.exists_find?_iff.mpr h
      exact ⟨_, asLet_eq_ok.mpr ⟨m, body, hm, hb, rfl⟩⟩
  · intro t h
    obtain ⟨m, body, rfl, hb, rfl⟩ := asLet_eq_ok.mp h
    rw [Family.seen_of_asked_eq_none rfl]
    refine .reordered rfl (Entries.perm_of_find? (Entries.keys_put_nodup ?_) (hn m rfl) fun name => ?_)
    · exact (hn m rfl).sublist (List.filter_sublist.map _)
    · by_cases hname : name = Tag.bodyKey
      · rw [hname, Entries.find?_put_self, hb]
      · rw [Entries.find?_put_of_ne hname, Entries.find?_remove_of_ne hname]

section Expand

variable {template params : Node}

theorem perm_only_of_found (hn : (Entries.keys m).Nodup)
    (ht : Entries.find? "template" m = some template) (hp : Entries.find? "params" m = some params) :
    [("template", template), ("params", params)].Perm (Entries.only ["template", "params"] m) := by
  have hperm : (Entries.select ["template", "params"] m).Perm
      (Entries.only ["template", "params"] m) := Entries.select_perm_only (by decide) hn
  rwa [Entries.select_cons, Entries.select_cons, Entries.select_nil, ht, hp] at hperm

theorem length_eq_two_iff (hn : (Entries.keys m).Nodup)
    (ht : Entries.find? "template" m = some template) (hp : Entries.find? "params" m = some params) :
    m.length = 2 ↔ Entries.only ["template", "params"] m = m := by
  have hlength : 2 = (Entries.only ["template", "params"] m).length :=
    (perm_only_of_found hn ht hp).length_eq
  constructor
  · intro h
    exact List.filter_sublist.eq_of_length_le (Nat.le_of_eq (h.trans hlength))
  · intro h
    rw [h] at hlength
    exact hlength.symm

theorem accounts_expand (hn : ∀ m, n = .map m → (Entries.keys m).Nodup) : Accounts .expand n := by
  refine ⟨?_, ?_⟩
  · rw [Family.seen_of_asked_eq_none rfl]
    constructor
    · rintro ⟨t, h⟩
      obtain ⟨m, template, params, hm, ht, hp, hlength, -⟩ := asExpand_eq_ok.mp h
      have hkeys := Entries.only_eq_self.mp ((length_eq_two_iff (hn m hm) ht hp).mp hlength)
      refine ⟨m, hm, ?_, hkeys, namesVariable_of_not_mem fun hv => ?_⟩
      · rw [List.forall_mem_cons, List.forall_mem_singleton, ← Entries.exists_find?_iff,
          ← Entries.exists_find?_iff]
        exact ⟨⟨template, ht⟩, params, hp⟩
      · exact absurd (hkeys _ hv) (by decide)
    · rintro ⟨m, hm, hrequired, hkeys, -⟩
      rw [List.forall_mem_cons, List.forall_mem_singleton, ← Entries.exists_find?_iff,
        ← Entries.exists_find?_iff] at hrequired
      obtain ⟨⟨template, ht⟩, params, hp⟩ := hrequired
      have hlength := (length_eq_two_iff (hn m hm) ht hp).mpr (Entries.only_eq_self.mpr hkeys)
      exact ⟨_, asExpand_eq_ok.mpr ⟨m, template, params, hm, ht, hp, hlength, rfl⟩⟩
  · intro t h
    obtain ⟨m, template, params, rfl, ht, hp, hlength, rfl⟩ := asExpand_eq_ok.mp h
    have hperm := perm_only_of_found (hn m rfl) ht hp
    rw [(length_eq_two_iff (hn m rfl) ht hp).mp hlength] at hperm
    exact .reordered rfl hperm

end Expand

theorem accounts_lookup : Accounts .lookup n := by
  cases n with
  | string s =>
    refine ⟨⟨fun _ => ⟨s, rfl⟩, fun _ => ⟨_, rfl⟩⟩, ?_⟩
    rintro t ⟨⟩
    exact .path s
  | null | bool _ | number _ | seq _ | map _ | tag _ | document _ =>
    exact ⟨⟨nofun, nofun⟩, nofun⟩

theorem accounts_pair (op : Pairing) : Accounts (.pair op) n := by
  refine ⟨?_, ?_⟩
  · rw [Family.seen_of_asked_eq_none rfl]
    constructor
    · rintro ⟨t, h⟩
      obtain ⟨⟨x, y⟩, hp, -⟩ := map_eq_ok.mp h
      exact ⟨x, y, asPair_eq_ok.mp hp⟩
    · rintro ⟨x, y, hn⟩
      exact ⟨_, map_eq_ok.mpr ⟨(x, y), asPair_eq_ok.mpr hn, rfl⟩⟩
  · intro t h
    obtain ⟨⟨x, y⟩, hp, rfl⟩ := map_eq_ok.mp h
    obtain rfl := asPair_eq_ok.mp hp
    exact .whole _

theorem accounts_operand (op : Operator) : Accounts (.operand op) n := by
  refine ⟨⟨fun _ => trivial, fun _ => ⟨_, rfl⟩⟩, ?_⟩
  rintro t ⟨⟩
  rw [Family.seen_of_asked_eq_none rfl]
  exact .whole _

theorem accounts (f : Family) (hn : ∀ m, n = .map m → (Entries.keys m).Nodup) : Accounts f n := by
  cases f with
  | lookup => exact accounts_lookup
  | expand => exact accounts_expand hn
  | operand op => exact accounts_operand op
  | pair op => exact accounts_pair op
  | choice => exact accounts_choice hn
  | letIn => exact accounts_letIn hn
  | loop kind => exact accounts_loop kind hn
  | grouping => exact accounts_grouping hn

def Documented (name : String) (n : Node) : Prop :=
  ∃ f, Family.ofName? name = some f ∧ f.shape.Admits n

def seenBy (name : String) (n : Node) : Node :=
  match Family.ofName? name with
  | some f => f.seen n
  | none => n

theorem seen_of_admits {f : Family} (h : f.shape.Admits n) : f.seen n = n := by
  have hkeyed {ks required optional : List String} (hshape : f.shape = .keyed required optional)
      (hasked : f.asked? = some ks) (hks : ∀ k ∈ required ++ optional, k ∈ ks) : f.seen n = n := by
    rw [hshape] at h
    obtain ⟨m, rfl, -, hkeys, -⟩ := h
    rw [Family.seen_map hasked, Entries.only_eq_self.mpr fun k hk => hks k (hkeys k hk)]
  cases f with
  | lookup | expand | operand _ | pair _ | letIn => exact Family.seen_of_asked_eq_none rfl n
  | choice | grouping => exact hkeyed rfl rfl (by decide)
  | loop kind => exact hkeyed rfl rfl (by cases kind <;> decide)

theorem exists_perm_of_keeps (h : t.Keeps (.map m)) :
    ∃ es, t.payload Node.builder = .map es ∧ es.Perm m := by
  generalize hn : Node.map m = n at h
  cases h with
  | path s => cases hn
  | whole => exact ⟨m, hn.symm, .refl m⟩
  | reordered written entries =>
    cases hn
    exact ⟨_, written, entries⟩

theorem seen_of_keeps {f : Family} (hseen : t.Keeps (f.seen n)) (h : t.Keeps n) : f.seen n = n := by
  cases hasked : f.asked? with
  | none => exact Family.seen_of_asked_eq_none hasked n
  | some ks =>
    cases n with
    | map m =>
      rw [Family.seen_map hasked] at hseen ⊢
      obtain ⟨es, hes, hperm⟩ := exists_perm_of_keeps hseen
      obtain ⟨es', hes', hperm'⟩ := exists_perm_of_keeps h
      cases hes.symm.trans hes'
      have hlength := hperm'.length_eq.symm.trans hperm.length_eq
      exact congrArg Node.map (List.filter_sublist.eq_of_length_le (Nat.le_of_eq hlength))
    | null | bool _ | number _ | string _ | seq _ | tag _ | document _ => rfl

section Reading

variable {name : String}

theorem seenBy_of_documented (h : Documented name n) : seenBy name n = n := by
  obtain ⟨f, hf, hadmits⟩ := h
  rw [seenBy, hf]
  exact seen_of_admits hadmits

theorem ofPayload_accounts (name : String) (hn : ∀ m, n = .map m → (Entries.keys m).Nodup) :
    ((∃ t, Tag.ofPayload name n = .ok t) ↔ Documented name (seenBy name n)) ∧
      ∀ t, Tag.ofPayload name n = .ok t →
        t.Keeps (seenBy name n) ∧ (t.Keeps n ↔ Documented name n) := by
  rw [Tag.ofPayload_eq]
  cases hf : Family.ofName? name with
  | none =>
    have hnone (n : Node) : ¬Documented name n := by
      rintro ⟨f, hf', -⟩
      cases hf.symm.trans hf'
    exact ⟨⟨nofun, fun h => absurd h (hnone _)⟩, nofun⟩
  | some f =>
    have hdocumented (n : Node) : Documented name n ↔ f.shape.Admits n := by
      constructor
      · rintro ⟨f', hf', h⟩
        cases hf.symm.trans hf'
        exact h
      · exact fun h => ⟨f, hf, h⟩
    have haccounts := accounts f hn
    simp only [hdocumented, seenBy, hf]
    refine ⟨haccounts.accepted, fun t ht => ?_⟩
    have hkept := haccounts.kept t ht
    refine ⟨hkept, fun h => ?_, fun h => ?_⟩
    · rw [← seen_of_keeps hkept h]
      exact haccounts.accepted.mp ⟨t, ht⟩
    · rwa [seen_of_admits h] at hkept

end Reading

end Payload

namespace Node

open Payload (Documented seenBy)

variable {path : String} {content : Yaml.Value} {n : Node}

theorem nodup_of_ofYaml (h : ofYaml path content = .ok n) {m : Mapping} (hm : n = map m) :
    (Entries.keys m).Nodup := by
  have hread : ReadFromYaml fun n => ∀ m, n = map m → (Entries.keys m).Nodup := by
    refine ⟨?_, fun _ => nofun, ?_, fun _ _ _ _ _ => nofun⟩
    · rintro _ hs m rfl
      cases hs
    · rintro _ hm m ⟨⟩
      exact hm
  exact (throughout_ofYaml (β := fun _ => True) hread content h).here m hm

/-- A construct is read if its payload, as far as it is looked at, has the documented shape, and is
malformed if not. What is looked at is kept; the payload itself is kept if it has the documented shape,
which has no key that is not looked at. -/
theorem ofYaml_tagged (name : String) (h : ofYaml path content = .ok n) :
    ((∃ t, ofYaml path (.tagged name content) = .ok (.tag t)) ↔ Documented name (seenBy name n)) ∧
    ((∃ d, ofYaml path (.tagged name content) = .error (malformedAt ("!" ++ name) path d)) ↔
      ¬Documented name (seenBy name n)) ∧
    (∀ t, ofYaml path (.tagged name content) = .ok (.tag t) →
      t.Keeps (seenBy name n) ∧ (t.Keeps n ↔ Documented name n)) ∧
    (Documented name n → seenBy name n = n) := by
  obtain ⟨haccepted, hkept⟩ :=
    Payload.ofPayload_accounts name fun m hm => nodup_of_ofYaml h hm
  cases hof : Tag.ofPayload name n with
  | ok t =>
    have hdocumented := haccepted.mp ⟨t, hof⟩
    rw [ofYaml_tagged_of_ok h hof]
    refine ⟨⟨fun _ => hdocumented, fun _ => ⟨t, rfl⟩⟩, ⟨nofun, fun h => absurd hdocumented h⟩, ?_,
      Payload.seenBy_of_documented⟩
    rintro _ ⟨⟩
    exact hkept t hof
  | error d =>
    have hundocumented : ¬Documented name (seenBy name n) := by
      intro hd
      obtain ⟨t, ht⟩ := haccepted.mpr hd
      cases hof.symm.trans ht
    rw [ofYaml_tagged_of_error h hof]
    exact ⟨⟨nofun, fun h => absurd h hundocumented⟩, ⟨fun _ => hundocumented, fun _ => ⟨d, rfl⟩⟩,
      nofun, Payload.seenBy_of_documented⟩

theorem ofYaml_tagged_filtered :
    let content := Yaml.Value.mapping [(.string "template", .null), (.string "var", .string "x"),
      (.string "filter", .bool true), (.string "items", .sequence [])]
    let payload := map [("template", null), ("var", string "x"), ("filter", bool true),
      ("items", seq [])]
    ofYaml "Root.a" content = .ok payload ∧ Documented "$map" payload ∧
      ∃ t, ofYaml "Root.a" (.tagged "$map" content) = .ok (.tag t) ∧ t.Keeps payload := by
  intro content payload
  have hread : ofYaml "Root.a" content = .ok payload := by
    with_unfolding_all rfl
  have hvariable : Payload.NamesVariable
      [("template", null), ("var", string "x"), ("filter", bool true), ("items", seq [])] := by
    rintro n ⟨⟩
    exact ⟨"x", rfl⟩
  have hdocumented : Documented "$map" payload :=
    ⟨.loop .map, rfl, _, rfl, by decide, by decide, hvariable⟩
  obtain ⟨haccepted, -, hkept, hseen⟩ := ofYaml_tagged "$map" hread
  rw [hseen hdocumented] at haccepted
  obtain ⟨t, ht⟩ := haccepted.mpr hdocumented
  exact ⟨hread, hdocumented, t, ht, (hkept t ht).2.mpr hdocumented⟩

theorem ofYaml_tagged_misspelt :
    let content := Yaml.Value.mapping [(.string "test", .bool false), (.string "then", .null),
      (.string "esle", .bool true)]
    let payload := map [("test", bool false), ("then", null), ("esle", bool true)]
    let t := Tag.choose (bool false) null none
    ofYaml "Root.a" content = .ok payload ∧
      ofYaml "Root.a" (.tagged "$if" content) = .ok (.tag t) ∧
        ¬Documented "$if" payload ∧ ¬t.Keeps payload := by
  intro content payload t
  refine ⟨by with_unfolding_all rfl, by with_unfolding_all rfl, ?_, ?_⟩
  · rintro ⟨f, hf, hadmits⟩
    cases hf
    obtain ⟨m, hm, -, hkeys, -⟩ := hadmits
    cases map.inj hm
    exact absurd (hkeys "esle" (by decide)) (by decide)
  · intro h
    obtain ⟨es, hes, hperm⟩ := Payload.exists_perm_of_keeps h
    cases map.inj hes
    exact absurd hperm.length_eq (by decide)

end Node

end InfraTemplate
