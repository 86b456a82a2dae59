import InfraTemplate.Proofs.Contributions

/-!
Keys and indices followed through a value. What a path leads to in a map stays what it was under
entries that come later, unless they bring something at the path.
-/

namespace InfraTemplate

namespace Node

def child? (n : Node) (key : String) : Option Node :=
  match n with
  | .map entries => Entries.find? key entries
  | .seq items => (Text.index? key.toList).bind fun i => items[i]?
  | _ => none

def follow? : Node → List String → Option Node
  | n, [] => some n
  | n, key :: rest => (n.child? key).bind fun x => follow? x rest

theorem follow?_cons_eq_some {n w : Node} {key : String} {rest : List String} :
    n.follow? (key :: rest) = some w ↔ ∃ x, n.child? key = some x ∧ x.follow? rest = some w :=
  Option.bind_eq_some_iff

theorem follow?_congr {n n' : Node} {key : String} (h : n.child? key = n'.child? key)
    (rest : List String) : n.follow? (key :: rest) = n'.follow? (key :: rest) := by
  rw [follow?, follow?, h]

def Overlays : Mapping → List String → Prop
  | _, [] => True
  | changes, key :: rest => ∃ x, (key, x) ∈ changes ∧ ∀ m, x = .map m → Overlays m rest

theorem overlays_of_follow? {m : Mapping} {keys : List String} {w : Node}
    (h : (Node.map m).follow? keys = some w) : Overlays m keys := by
  induction keys generalizing m with
  | nil => trivial
  | cons key rest ih =>
    obtain ⟨x, hx, hr⟩ := follow?_cons_eq_some.mp h
    refine ⟨x, Entries.mem_of_find? hx, ?_⟩
    rintro m' rfl
    exact ih hr

theorem follow?_of_deepMerge {base changes : Mapping} {keys : List String} {w : Node}
    (hn : ¬Overlays changes keys) (h : (Node.map (deepMerge base changes)).follow? keys = some w) :
    (Node.map base).follow? keys = some w := by
  induction keys generalizing base changes with
  | nil => exact absurd trivial hn
  | cons key rest ihKeys =>
    induction changes generalizing base with
    | nil =>
      rw [deepMerge] at h
      exact h
    | cons e changes ih =>
      obtain ⟨k, x⟩ := e
      rw [deepMerge] at h
      have hrest : ¬Overlays changes (key :: rest) := by
        rintro ⟨y, hy, hm⟩
        exact hn ⟨y, List.mem_cons_of_mem _ hy, hm⟩
      obtain ⟨y, hy, hr⟩ := follow?_cons_eq_some.mp (ih hrest h)
      by_cases hk : key = k
      · subst hk
        rw [child?, Entries.find?_put_self, Option.some.injEq] at hy
        have hx : ¬∀ m, x = .map m → Overlays m rest := fun hm =>
          hn ⟨x, List.mem_cons_self .., hm⟩
        obtain ⟨m, hx⟩ := Classical.not_forall.mp hx
        obtain ⟨rfl, hm⟩ := Classical.not_imp.mp hx
        unfold mergeValue at hy
        split at hy
        · -- Two maps go together, and the one merged in does not reach what is left of the path.
          rename_i old hold
          subst hy
          exact follow?_cons_eq_some.mpr ⟨_, hold, ihKeys hm hr⟩
        · subst hy
          exact absurd (overlays_of_follow? hr) hm
      · rw [child?, Entries.find?_put_of_ne hk] at hy
        exact follow?_cons_eq_some.mpr ⟨y, hy, hr⟩

end Node

namespace Contribution

def Brings (key : String) (rest : List String) : Contribution → Prop
  | nothing => False
  | merged m => Node.Overlays m (key :: rest)
  | entry name _ => name = key
  | entries m => key ∈ Entries.keys m

section Following

variable {key : String} {rest : List String} {out : Mapping} {w : Node}

theorem follow?_of_addTo {c : Contribution} (hc : ¬c.Brings key rest)
    (h : (Node.map (c.addTo out)).follow? (key :: rest) = some w) :
    (Node.map out).follow? (key :: rest) = some w := by
  cases c with
  | nothing => exact h
  | merged m => exact Node.follow?_of_deepMerge hc h
  | entry name x =>
    have hne : key ≠ name := Ne.symm hc
    have hchild : (Node.map (Entries.put name x out)).child? key = (Node.map out).child? key :=
      Entries.find?_put_of_ne hne x out
    rwa [addTo, Node.follow?_congr hchild] at h
  | entries m =>
    have hchild : (Node.map (Entries.putAll out m)).child? key = (Node.map out).child? key :=
      Entries.find?_putAll_of_not_mem hc
    rwa [addTo, Node.follow?_congr hchild] at h

theorem follow?_of_foldl {cs : List Contribution} (hcs : ∀ c ∈ cs, ¬c.Brings key rest)
    (h : (Node.map (cs.foldl addTo out)).follow? (key :: rest) = some w) :
    (Node.map out).follow? (key :: rest) = some w := by
  induction cs generalizing out with
  | nil => exact h
  | cons c cs ih =>
    have hadd := ih (fun c' hc' => hcs c' (List.mem_cons_of_mem _ hc')) h
    exact follow?_of_addTo (hcs c (List.mem_cons_self ..)) hadd

theorem follow?_of_assemble {front back : List Contribution} {x : Node}
    (hback : ∀ c ∈ back, ¬c.Brings key rest)
    (h : (Node.map (assemble (front ++ .entry key x :: back))).follow? (key :: rest) = some w) :
    x.follow? rest = some w := by
  rw [assemble, List.foldl_append, List.foldl_cons] at h
  obtain ⟨y, hy, hr⟩ := Node.follow?_cons_eq_some.mp (follow?_of_foldl hback h)
  rw [Node.child?, addTo, Entries.find?_put_self] at hy
  cases hy
  exact hr

end Following

end Contribution

def Stands (adds : String → Node → Contribution → Prop) (m : Mapping) (key : String)
    (rest : List String) (n : Node) : Prop :=
  ∃ before after, m = before ++ (key, n) :: after ∧ key ∉ Entries.keys before ∧
    (∀ c, adds key n c → ∃ x, c = .entry key x) ∧
    ∀ e ∈ after, ∀ c, adds e.1 e.2 c → ¬c.Brings key rest

namespace Stands

variable {adds : String → Node → Contribution → Prop} {m : Mapping} {key : String}
  {rest : List String} {n : Node}

theorem find? (h : Stands adds m key rest n) : Entries.find? key m = some n := by
  obtain ⟨before, after, rfl, hb, -, -⟩ := h
  have hnone : before.lookup key = none := Entries.find?_eq_none_iff.mpr hb
  rw [Entries.find?, List.lookup_append, hnone, Option.none_or]
  exact List.lookup_cons_self

theorem returns {f : String × Node → Eval Contribution} (h : Stands adds m key rest n)
    (hadds : ∀ e s c t, Returns (f e) s c t → adds e.1 e.2 c) {s t : Sections}
    {cs : List Contribution} {w : Node} (hr : Returns (m.mapM f) s cs t)
    (hw : (Node.map (Contribution.assemble cs)).follow? (key :: rest) = some w) :
    ∃ x u v, Returns (f (key, n)) u (.entry key x) v ∧ x.follow? rest = some w := by
  obtain ⟨before, after, rfl, -, hown, hafter⟩ := h
  obtain ⟨front, u, _, -, hrest, rfl⟩ := returns_mapM_append.mp hr
  obtain ⟨c, v, back, hc, hback, rfl⟩ := returns_mapM_cons.mp hrest
  obtain ⟨x, rfl⟩ := hown c (hadds _ _ _ _ hc)
  refine ⟨x, u, v, hc, Contribution.follow?_of_assemble ?_ hw⟩
  intro c' hc'
  obtain ⟨e, u', v', hreach, he⟩ := (mem_iff_reaches hback c').mp hc'
  exact hafter e hreach.mem c' (hadds _ _ _ _ he)

end Stands

end InfraTemplate
