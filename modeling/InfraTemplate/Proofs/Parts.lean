import InfraTemplate.Bookkeeping
import InfraTemplate.Node.Merge
import InfraTemplate.Proofs.Contributions
import Mathlib.Data.List.Basic

namespace InfraTemplate

def Tag.parts {α : Type} : Tag α → List α
  | .lookup _ => []
  | .expand template params => [template, params]
  | .apply _ x => [x]
  | .pair _ x y => [x, y]
  | .choose test consequent alternative? => test :: consequent :: alternative?.toList
  | .letIn bindings body => body :: bindings.map (·.2)
  | .loop _ l => l.items :: l.template :: l.filter?.toList
  | .groupBy g => g.items :: g.key :: g.template?.toList

namespace Node

def parts : Node → List Node
  | seq xs => xs
  | map m => m.map (·.2)
  | tag t => t.parts
  | document d => d.body.map (·.2) ++ d.params.filterMap Param.default?
  | _ => []

theorem mem_parts_map {m : Mapping} {e : String × Node} (h : e ∈ m) : e.2 ∈ (map m).parts :=
  List.mem_map_of_mem h

theorem mem_parts_body {d : Document} {e : String × Node} (h : e ∈ d.body) :
    e.2 ∈ (document d).parts :=
  List.mem_append_left _ (List.mem_map_of_mem h)

theorem mem_parts_default {d : Document} {p : Param Node} {n : Node} (hp : p ∈ d.params)
    (hn : p.default? = some n) : n ∈ (document d).parts :=
  List.mem_append_right _ (List.mem_filterMap.mpr ⟨p, hp, hn⟩)

theorem sizeOf_entry {m : Mapping} {e : String × Node} (h : e ∈ m) : sizeOf e.2 < sizeOf m := by
  have hm := List.sizeOf_lt_of_mem h
  have he : sizeOf e = 1 + sizeOf e.1 + sizeOf e.2 := by
    obtain ⟨k, n⟩ := e
    simp only [Prod.mk.sizeOf_spec]
  omega

theorem sizeOf_option {n : Node} {o : Option Node} (h : n ∈ o.toList) : sizeOf n < sizeOf o := by
  cases o with
  | none => cases h
  | some m =>
    cases Option.mem_toList.mp h
    simp

theorem sizeOf_part_of_tag {t : Tag Node} {n : Node} (h : n ∈ t.parts) : sizeOf n < sizeOf t := by
  cases t with
  | lookup expr => cases h
  | expand template params =>
    rcases List.mem_pair.mp h with rfl | rfl <;> simp only [Tag.expand.sizeOf_spec] <;> omega
  | apply op x =>
    obtain rfl := List.mem_singleton.mp h
    simp only [Tag.apply.sizeOf_spec]
    omega
  | pair op x y =>
    rcases List.mem_pair.mp h with rfl | rfl <;> simp only [Tag.pair.sizeOf_spec] <;> omega
  | choose test consequent alternative? =>
    simp only [Tag.parts, List.mem_cons] at h
    simp only [Tag.choose.sizeOf_spec]
    rcases h with rfl | rfl | h
    · omega
    · omega
    · have := sizeOf_option h
      omega
  | letIn bindings body =>
    simp only [Tag.parts, List.mem_cons, List.mem_map] at h
    simp only [Tag.letIn.sizeOf_spec]
    rcases h with rfl | ⟨e, he, rfl⟩
    · omega
    · have := sizeOf_entry he
      omega
  | loop kind l =>
    obtain ⟨items, template, varName?, filter?⟩ := l
    simp only [Tag.parts, List.mem_cons] at h
    simp only [Tag.loop.sizeOf_spec, Loop.mk.sizeOf_spec]
    rcases h with rfl | rfl | h
    · omega
    · omega
    · have := sizeOf_option h
      omega
  | groupBy g =>
    obtain ⟨items, key, varName?, template?⟩ := g
    simp only [Tag.parts, List.mem_cons] at h
    simp only [Tag.groupBy.sizeOf_spec, Grouping.mk.sizeOf_spec]
    rcases h with rfl | rfl | h
    · omega
    · omega
    · have := sizeOf_option h
      omega

theorem sizeOf_part {n m : Node} (h : m ∈ n.parts) : sizeOf m < sizeOf n := by
  cases n with
  | null | bool b | number x | string s => cases h
  | seq xs =>
    have : sizeOf m < sizeOf xs := List.sizeOf_lt_of_mem h
    simp only [seq.sizeOf_spec]
    omega
  | map entries =>
    obtain ⟨e, he, rfl⟩ := List.mem_map.mp h
    have := sizeOf_entry he
    simp only [map.sizeOf_spec]
    omega
  | tag t =>
    have := sizeOf_part_of_tag h
    simp only [tag.sizeOf_spec]
    omega
  | document d =>
    obtain ⟨location, body, params, scope⟩ := d
    simp only [document.sizeOf_spec, Document.mk.sizeOf_spec]
    rcases List.mem_append.mp h with h | h
    · obtain ⟨e, he, rfl⟩ := List.mem_map.mp h
      have := sizeOf_entry he
      simp only at this
      omega
    · obtain ⟨p, hp, hd⟩ := List.mem_filterMap.mp h
      have := List.sizeOf_lt_of_mem hp
      obtain ⟨name, default?, type?, schema?, allowedValues?, allowedPattern?⟩ := p
      cases hd
      simp only [Param.mk.sizeOf_spec, Option.some.sizeOf_spec] at this
      omega

@[elab_as_elim]
theorem of_parts {P : Node → Prop} (step : ∀ n, (∀ m ∈ n.parts, P m) → P n) (n : Node) : P n := by
  induction hn : sizeOf n using Nat.strongRecOn generalizing n with
  | ind k ih =>
    subst hn
    exact step n fun m hm => ih _ (sizeOf_part hm) m rfl

end Node

namespace Entries

variable {α : Type} {P : String × α → Prop} {es more : Entries α}

theorem forall_put {name : String} {a : α} (h : ∀ e ∈ es, P e) (ha : P (name, a)) :
    ∀ e ∈ put name a es, P e := by
  rintro ⟨k, b⟩ he
  rcases mem_put he with he | ⟨rfl, rfl⟩
  · exact h _ he
  · exact ha

theorem forall_putAll (h : ∀ e ∈ es, P e) (hm : ∀ e ∈ more, P e) :
    ∀ e ∈ putAll es more, P e := by
  rintro ⟨k, b⟩ he
  rcases mem_putAll he with he | he
  · exact h _ he
  · exact hm _ he

theorem of_find? {name : String} {a : α} (h : ∀ e ∈ es, P e) (ha : find? name es = some a) :
    P (name, a) :=
  h _ (mem_of_find? ha)

end Entries

namespace Node

section Merging

variable {K : String → Prop} {V : Node → Prop}

mutual

theorem forall_deepMerge (hV : ∀ m, V (.map m) ↔ ∀ e ∈ m, K e.1 ∧ V e.2) {base : Mapping}
    (hb : ∀ e ∈ base, K e.1 ∧ V e.2) :
    (changes : List (String × Node)) → (∀ e ∈ changes, K e.1 ∧ V e.2) →
      ∀ e ∈ deepMerge base changes, K e.1 ∧ V e.2
  | [], _ => by
    rw [deepMerge]
    exact hb
  | (k, x) :: changes, hc => by
    obtain ⟨hk, hx⟩ : K k ∧ V x := hc _ (List.mem_cons_self ..)
    have hm : V (mergeValue (Entries.find? k base) x) :=
      mergeValue_of hV (fun y hy => (Entries.of_find? hb hy).2) x hx
    rw [deepMerge]
    exact forall_deepMerge hV (Entries.forall_put hb ⟨hk, hm⟩) changes fun e he =>
      hc e (List.mem_cons_of_mem _ he)

theorem mergeValue_of (hV : ∀ m, V (.map m) ↔ ∀ e ∈ m, K e.1 ∧ V e.2) {old : Option Node}
    (ho : ∀ y, old = some y → V y) : (x : Node) → V x → V (mergeValue old x)
  | map changes, hx => by
    match old with
    | some (map base) =>
      rw [mergeValue, hV]
      exact forall_deepMerge hV ((hV _).mp (ho _ rfl)) changes ((hV _).mp hx)
    | none | some .null | some (bool _) | some (number _) | some (string _) | some (seq _)
    | some (tag _) | some (document _) => simpa only [mergeValue] using hx
  | null, hx | bool _, hx | number _, hx | string _, hx | seq _, hx | tag _, hx | document _, hx => by
    simpa only [mergeValue] using hx

end

end Merging

end Node

namespace Scope

theorem find?_extend (s : Scope) (label : Nat) (vars : List (String × Bound)) (name : String) :
    (s.extend label vars).find? name =
      match Entries.find? name (Entries.ofPairs vars) with
      | some b => some b
      | none => s.find? name := by
  rw [extend]
  cases Entries.ofPairs vars <;> rfl

theorem of_find?_extend {P : Bound → Prop} {s : Scope} {label : Nat} {vars : List (String × Bound)}
    (hv : ∀ e ∈ vars, P e.2) (hs : ∀ name b, s.find? name = some b → P b) {name : String} {b : Bound}
    (h : (s.extend label vars).find? name = some b) : P b := by
  rw [find?_extend] at h
  split at h
  · rename_i c hc
    cases h
    have he : ∀ e ∈ Entries.ofPairs vars, P e.2 :=
      Entries.forall_putAll (fun _ he => absurd he List.not_mem_nil) hv
    exact Entries.of_find? he hc
  · exact hs _ _ h

end Scope

section Throughout

variable (φ : Node → Prop) (β : Bound → Prop)

mutual

/-- What is found in a node, by way of its parts and of the names its documents capture. -/
inductive Node.Throughout : Node → Prop where
  | intro {n : Node} (here : φ n) (parts : ∀ m ∈ n.parts, Node.Throughout m)
      (captured : ∀ d, n = .document d → Scope.Throughout d.scope) : Node.Throughout n

inductive Scope.Throughout : Scope → Prop where
  | intro {s : Scope} (found : ∀ name b, s.find? name = some b → Bound.Throughout b) :
      Scope.Throughout s

inductive Bound.Throughout : Bound → Prop where
  | value {n : Node} (here : β (.value n)) (node : Node.Throughout n) : Bound.Throughout (.value n)
  | raw {n : Node} {s : Scope} (here : β (.raw n s)) (node : Node.Throughout n)
      (captured : Scope.Throughout s) : Bound.Throughout (.raw n s)

end

variable {φ β} {n m : Node} {s : Scope}

theorem Node.Throughout.here (h : n.Throughout φ β) : φ n := by
  cases h with
  | intro here _ _ => exact here

theorem Node.Throughout.part (h : n.Throughout φ β) (hm : m ∈ n.parts) : m.Throughout φ β := by
  cases h with
  | intro _ parts _ => exact parts m hm

theorem Node.Throughout.captured {d : Document} (h : (Node.document d).Throughout φ β) :
    d.scope.Throughout φ β := by
  cases h with
  | intro _ _ captured => exact captured d rfl

theorem Node.throughout_iff (hk : n.kind ≠ .document) :
    n.Throughout φ β ↔ φ n ∧ ∀ m ∈ n.parts, m.Throughout φ β := by
  constructor
  · intro h
    exact ⟨h.here, fun m hm => h.part hm⟩
  · rintro ⟨hn, h⟩
    refine .intro hn h ?_
    rintro d rfl
    exact absurd rfl hk

theorem Node.throughout_of_scalar (h : n.isScalar = true) (hn : φ n) : n.Throughout φ β := by
  cases n with
  | null | bool _ | number _ | string _ =>
    rw [throughout_iff (by simp [kind])]
    exact ⟨hn, fun _ hm => absurd hm List.not_mem_nil⟩
  | seq _ | map _ | tag _ | document _ => cases h

theorem Node.throughout_seq {xs : List Node} :
    (seq xs).Throughout φ β ↔ φ (seq xs) ∧ ∀ x ∈ xs, x.Throughout φ β :=
  throughout_iff (by simp [kind])

theorem Node.throughout_map {entries : Mapping} :
    (map entries).Throughout φ β ↔ φ (map entries) ∧ ∀ e ∈ entries, e.2.Throughout φ β := by
  rw [throughout_iff (by simp [kind])]
  simp only [parts, List.forall_mem_map]

theorem Node.throughout_tag {t : Tag Node} :
    (tag t).Throughout φ β ↔ φ (tag t) ∧ ∀ m ∈ t.parts, m.Throughout φ β :=
  throughout_iff (by simp [kind])

theorem Scope.Throughout.found {name : String} {b : Bound} (h : s.Throughout φ β)
    (hb : s.find? name = some b) : b.Throughout φ β := by
  cases h with
  | intro found => exact found name b hb

theorem Scope.Throughout.empty : Scope.empty.Throughout φ β := by
  refine .intro ?_
  intro name b h
  cases h

theorem Scope.Throughout.extend {label : Nat} {vars : List (String × Bound)}
    (h : s.Throughout φ β) (hv : ∀ e ∈ vars, e.2.Throughout φ β) :
    (s.extend label vars).Throughout φ β :=
  .intro fun _ _ hb => Scope.of_find?_extend hv (fun _ _ => h.found) hb

end Throughout

end InfraTemplate
