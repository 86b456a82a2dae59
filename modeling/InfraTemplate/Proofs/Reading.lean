import InfraTemplate.Proofs.Following
import InfraTemplate.Proofs.ScopeMonotonicity

/-!
A lookup on its way into an import, beside the evaluation of all of the import: what it comes to
from each kind of node, and the environments of the two.
-/

namespace InfraTemplate

theorem Path.hasSegment_item (p : Path) (i : Nat) :
    (p.item i).hasSegment Evaluator.overridesKey = p.hasSegment Evaluator.overridesKey := by
  have hitem : Path.hasSegment (toString i) Evaluator.overridesKey = false := by
    rw [Path.hasSegment, Bool.eq_false_iff, ne_eq, List.contains_iff_mem]
    intro hmem
    have hc : 'O' ∈ (toString i).toList :=
      Text.mem_of_mem_splitAll hmem (c := 'O') (by decide)
    have hdigits : 'O' ∈ Nat.toDigits 10 i := by simpa using hc
    have hd := Nat.isDigit_of_mem_toDigits (by decide) (by decide) hdigits
    exact absurd hd (by decide)
  rw [Path.item, Path.hasSegment_child, hitem, Bool.or_false]

structure Env.Trails (env inside : Env) : Prop where
  scope : env.scope = inside.scope
  naming : env.naming? = inside.naming?
  depth : env.depth + 1 = inside.depth
  limit : env.limit = inside.limit
  room : inside.depth ≤ inside.limit

namespace Env.Trails

variable {env inside : Env}

theorem eases (h : env.Trails inside) : env.Eases inside := by
  refine ⟨fun name b hb => ?_, h.naming, ?_, Nat.le_of_eq h.limit.symm⟩
  · rw [h.scope]
    exact hb
  · have := h.depth
    omega

theorem enter (h : env.Trails inside) (location : String) (path : Path) :
    ∃ inner, env.enter location path env.scope = .ok inner ∧ inner.Eases inside := by
  have hd : env.depth < env.limit := by
    have := h.depth
    have := h.room
    rw [h.limit]
    omega
  refine ⟨_, Env.enter_eq_ok.mpr ⟨hd, rfl⟩, fun name b hb => ?_, h.naming, Nat.le_of_eq h.depth,
    Nat.le_of_eq h.limit.symm⟩
  rw [h.scope]
  exact hb

theorem enterDocument (h : env.Trails inside) {d : Document} {place : Path} {inner : Env}
    (hi : inside.enterDocument d place = .ok inner) (path : Path) :
    ∃ env', env.enterDocument d path = .ok env' ∧ env'.Trails inner := by
  obtain ⟨hd, rfl⟩ := Env.enter_eq_ok.mp hi
  have hd' : env.depth < env.limit := by
    have := h.depth
    rw [h.limit]
    omega
  exact ⟨_, Env.enter_eq_ok.mpr ⟨hd', rfl⟩, rfl, h.naming, congrArg (· + 1) h.depth, h.limit, hd⟩

end Env.Trails

theorem Env.trails_of_enter {env inner : Env} {location : String} {path : Path} {scope : Scope}
    (h : env.enter location path scope = .ok inner) : (env.withScope scope).Trails inner := by
  obtain ⟨hd, rfl⟩ := Env.enter_eq_ok.mp h
  exact ⟨rfl, rfl, rfl, rfl, hd⟩

namespace Evaluator

def read (ev : Evaluator) (expr : String) (path : Path) (env : Env) (at_ : Located)
    (keys : List String) : Eval Node := do
  ev.settle (← ev.walk expr path env at_ (keys.map fun key => .name key.toList)) path

section Reading

variable {ev : Evaluator} {expr : String} {path : Path} {outer env : Env} {keys rest : List String}
  {key : String} {n : Node} {s t : Sections} {v w : Node}

theorem read_nil (at_ : Located) : ev.read expr path outer at_ [] = ev.settle at_ path := by
  simp only [read, List.map_nil, walk, pure_bind]

theorem read_cons (at_ : Located) :
    ev.read expr path outer at_ (key :: rest) = at_.descend ev key path >>= fun next? =>
      match next? with
      | some next => ev.read expr path outer next rest
      | none => throw (.undefined expr path outer.stack) := by
  simp only [read, List.map_cons, walk, segmentKey, String.ofList_toList, pure_bind, bind_assoc]
  congr 1
  funext next?
  cases next? with
  | some next => rfl
  | none => rfl

theorem child?_located (n : Node) (env : Env) (evaluated : Bool) (key : String) :
    Located.child? ⟨n, env, evaluated⟩ key =
      (n.child? key).map fun x => ⟨x, env, evaluated⟩ := by
  cases n <;> rfl

theorem descend_of_child? {x : Node} (h : n.child? key = some x) (evaluated : Bool) :
    Located.descend ev ⟨n, env, evaluated⟩ key path = pure (some ⟨x, env, evaluated⟩) := by
  have hc : Located.child? ⟨n, env, evaluated⟩ key = some ⟨x, env, evaluated⟩ := by
    rw [child?_located, h, Option.map_some]
  cases n with
  | map _ | seq _ =>
    rw [← hc]
    rfl
  | null | bool _ | number _ | string _ | tag _ | document _ => cases h

theorem read_of_child? {x : Node} (h : n.child? key = some x) (evaluated : Bool) :
    ev.read expr path outer ⟨n, env, evaluated⟩ (key :: rest) =
      ev.read expr path outer ⟨x, env, evaluated⟩ rest := by
  rw [read_cons, descend_of_child? h, pure_bind]

theorem returns_read_value (h : v.follow? keys = some w) :
    Returns (ev.read expr path outer ⟨v, env, true⟩ keys) s w s := by
  induction keys generalizing v with
  | nil =>
    cases h
    rw [read_nil]
    exact returns_pure.mpr ⟨rfl, rfl⟩
  | cons key rest ih =>
    obtain ⟨x, hx, hr⟩ := Node.follow?_cons_eq_some.mp h
    rw [read_of_child? hx]
    exact ih hr

theorem read_construct {tag : Tag Node} :
    ev.read expr path outer ⟨.tag tag, env, false⟩ (key :: rest) =
      ev.node (.tag tag) path env >>= fun v =>
        ev.read expr path outer ⟨v, env, true⟩ (key :: rest) := by
  have forced (v : Node) : Located.forced ev ⟨v, env, true⟩ path = pure ⟨v, env, true⟩ := by
    cases v <;> rfl
  simp only [read_cons, Located.descend, forced, pure_bind, bind_assoc]
  simp only [Located.forced, bind_assoc, pure_bind]

theorem read_document {d : Document} :
    ev.read expr path outer ⟨.document d, env, false⟩ (key :: rest) =
      Eval.ofExcept (env.enterDocument d path) >>= fun inner =>
        ev.read expr path outer ⟨.map d.body, inner, false⟩ (key :: rest) := by
  simp only [read_cons, Located.descend, Located.forced, Located.entered, pure_bind, bind_assoc]

theorem lookup_eq_read {head : List Char} {scope : Scope}
    (hparse : LookupPath.parse? expr = some (.name head :: keys.map fun key => .name key.toList))
    (hfind : env.scope.find? (String.ofList head) = some (.raw n scope)) :
    ev.lookup expr path env = ev.read expr path env ⟨n, env.withScope scope, false⟩ keys := by
  have hl : ev.lookup expr path env = ev.locate expr path env >>= fun at_ => ev.settle at_ path :=
    rfl
  rw [hl, Discipline.locate_eq ev hparse, Located.find, hfind, pure_bind]
  rfl

theorem read_here {k l : Nat} {place : Path} {inside : Env} (hk : k ≤ l) (h : env.Trails inside)
    (hp : place.hasSegment overridesKey = path.hasSegment overridesKey)
    (hr : Returns ((upTo k).node n place inside) s v t) (s' : Sections) :
    ∃ t', Returns ((upTo l).read expr path outer ⟨n, env, false⟩ []) s' v t' := by
  obtain ⟨inner, hi, he⟩ := h.enter env.location path
  obtain ⟨t', hr'⟩ := returns_of_eases hk he hp hr s'
  rw [read_nil]
  exact ⟨t', returns_bind.mpr ⟨inner, s', Eval.returns_ofExcept.mpr ⟨hi, rfl⟩, hr'⟩⟩

end Reading

end Evaluator

end InfraTemplate
