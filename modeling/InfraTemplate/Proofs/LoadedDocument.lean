import InfraTemplate.Proofs.ImportGraph
import Mathlib.Data.List.Nodup

namespace InfraTemplate

namespace Scope

def bindings : Scope → List (String × Bound)
  | empty => []
  | frame _ vars outer => outer.bindings ++ vars

theorem has_iff_mem_bindings {name : String} :
    {s : Scope} → (s.has name = true ↔ name ∈ Entries.keys s.bindings)
  | empty => by simp [has, find?, bindings, Entries.keys]
  | frame _ vars outer => by
    have ih := @has_iff_mem_bindings name outer
    have hvars : (Entries.find? name vars).isSome = true ↔ name ∈ Entries.keys vars :=
      Entries.has_iff
    simp only [has] at ih
    rw [bindings, Entries.keys, List.map_append, List.mem_append, ← Entries.keys, ← Entries.keys,
      ← ih, ← hvars, has, find?]
    cases Entries.find? name vars <;> simp

theorem find?_eq_some_iff_mem_bindings {name : String} {b : Bound} : {s : Scope} →
    (Entries.keys s.bindings).Nodup → (s.find? name = some b ↔ (name, b) ∈ s.bindings)
  | empty, _ => by simp [find?, bindings]
  | frame _ vars outer, h => by
    rw [bindings, Entries.keys, List.map_append, List.nodup_append] at h
    obtain ⟨houter, hvars, hapart⟩ := h
    have ih := @find?_eq_some_iff_mem_bindings name b outer houter
    rw [bindings, List.mem_append, ← ih, find?]
    cases hf : Entries.find? name vars with
    | none =>
      have hmem : (name, b) ∉ vars := fun hm =>
        Entries.find?_eq_none_iff.mp hf (List.mem_map.mpr ⟨_, hm, rfl⟩)
      simp [hmem]
    | some b' =>
      have hmem : (name, b') ∈ vars := (Entries.find?_eq_some_iff_mem hvars).mp hf
      have hnone : outer.find? name ≠ some b := by
        intro ho
        have hm := has_iff_mem_bindings.mp (show outer.has name = true by rw [has, ho]; rfl)
        exact hapart name hm name (List.mem_map.mpr ⟨_, hmem, rfl⟩) rfl
      rw [← Entries.find?_eq_some_iff_mem hvars, hf]
      simp [hnone]

end Scope

namespace Loading

structure Declares (m : Mapping) (location : String) (defs imports : Mapping)
    (params : List (Param Node)) : Prop where
  definitions : declared m defsKey location = .ok defs
  importing : declared m importsKey location = .ok imports
  parameters : Param.declarations (Entries.find? paramsKey m) location = .ok params

structure NamesApart (defs imports : Mapping) (names : List String) : Prop where
  sections : ∀ name ∈ Entries.keys imports, name ∉ Entries.keys defs
  once : names.Nodup
  unbound : ∀ name ∈ names, name ∉ Entries.keys defs ∧ name ∉ Entries.keys imports

section Names

variable {defs imports : Mapping} {params : List (Param Node)} {location : String}
  {earlier names : List String} {e : Error}

theorem paramClash?_eq_none_iff {name : String} : paramClash? defs imports earlier name = none ↔
    name ∉ Entries.keys defs ∧ name ∉ Entries.keys imports ∧ name ∉ earlier := by
  unfold paramClash?
  by_cases hd : name ∈ Entries.keys defs
  · simp [Entries.has_iff.mpr hd, hd]
  · by_cases hi : name ∈ Entries.keys imports
    · simp [Entries.has_iff, hd, hi]
    · simp [Entries.has_iff, hd, hi]

theorem checkParams_eq_ok_iff : checkParams defs imports location earlier names = .ok () ↔
    (∀ name ∈ names, name ∉ Entries.keys defs ∧ name ∉ Entries.keys imports ∧ name ∉ earlier) ∧
      names.Nodup := by
  induction names generalizing earlier with
  | nil => simp [checkParams]
  | cons name rest ih =>
    rw [checkParams, List.forall_mem_cons, List.nodup_cons, ← paramClash?_eq_none_iff]
    cases hc : paramClash? defs imports earlier name with
    | some clash => simp
    | none =>
      rw [ih]
      constructor
      · rintro ⟨hall, hn⟩
        refine ⟨⟨rfl, fun other ho => ?_⟩, fun hm => ?_, hn⟩
        · obtain ⟨hd, hi, he⟩ := hall other ho
          exact ⟨hd, hi, fun hmem => he (List.mem_append_left _ hmem)⟩
        · exact (hall name hm).2.2 (by simp)
      · rintro ⟨⟨-, hall⟩, hm, hn⟩
        refine ⟨fun other ho => ?_, hn⟩
        obtain ⟨hd, hi, he⟩ := hall other ho
        refine ⟨hd, hi, fun hmem => ?_⟩
        rcases List.mem_append.mp hmem with hmem | hmem
        · exact he hmem
        · exact hm (List.mem_singleton.mp hmem ▸ ho)

theorem checkNames_eq_ok_iff : checkNames defs imports params location = .ok () ↔
    NamesApart defs imports (params.map Param.name) := by
  have hsections : (Entries.keys imports).find? (fun k => Entries.has k defs) = none ↔
      ∀ name ∈ Entries.keys imports, name ∉ Entries.keys defs := by
    simp only [List.find?_eq_none, Entries.has_iff]
  unfold checkNames
  constructor
  · intro h
    split at h
    · cases h
    · rename_i hf
      obtain ⟨hall, hn⟩ := checkParams_eq_ok_iff.mp h
      exact ⟨hsections.mp hf, hn, fun name hm => ⟨(hall name hm).1, (hall name hm).2.1⟩⟩
  · intro h
    rw [hsections.mpr h.sections]
    refine checkParams_eq_ok_iff.mpr ⟨fun name hm => ?_, h.once⟩
    exact ⟨(h.unbound name hm).1, (h.unbound name hm).2, List.not_mem_nil⟩

theorem checkParams_eq_error (h : checkParams defs imports location earlier names = .error e) :
    ∃ name clash, e = .collision name location clash := by
  induction names generalizing earlier with
  | nil => cases h
  | cons name rest ih =>
    rw [checkParams] at h
    split at h
    · cases h
      exact ⟨_, _, rfl⟩
    · exact ih h

theorem checkNames_eq_error (h : checkNames defs imports params location = .error e) :
    ∃ name clash, e = .collision name location clash := by
  unfold checkNames at h
  split at h
  · cases h
    exact ⟨_, _, rfl⟩
  · exact checkParams_eq_error h

end Names

section Refusal

variable {m : Mapping} {location : String}

def header (m : Mapping) (location : String) : Except Error Unit := do
  let defs ← declared m defsKey location
  let imports ← declared m importsKey location
  let params ← Param.declarations (Entries.find? paramsKey m) location
  checkNames defs imports params location

theorem fails_document {c : Loader} {nested : Mapping → String → Load Document} {p : Progress}
    {e : Error} (h : header m (declaredLocation m location) = .error e) :
    Fails (document c nested m location) p e p := by
  unfold header at h
  simp only [document, fails_bind, Load.fails_ofExcept, Load.returns_ofExcept]
  cases hd : declared m defsKey (declaredLocation m location) with
  | error e' =>
    rw [hd] at h
    cases h
    exact .inl ⟨rfl, trivial⟩
  | ok defs =>
    refine .inr ⟨defs, p, ⟨rfl, rfl⟩, ?_⟩
    rw [hd] at h
    cases hi : declared m importsKey (declaredLocation m location) with
    | error e' =>
      rw [hi] at h
      cases h
      exact .inl ⟨rfl, rfl⟩
    | ok imports =>
      refine .inr ⟨imports, p, ⟨rfl, rfl⟩, ?_⟩
      rw [hi] at h
      cases hp : Param.declarations (Entries.find? paramsKey m) (declaredLocation m location) with
      | error e' =>
        rw [hp] at h
        cases h
        exact .inl ⟨rfl, rfl⟩
      | ok params =>
        refine .inr ⟨params, p, ⟨rfl, rfl⟩, .inl ⟨?_, rfl⟩⟩
        rw [hp] at h
        exact h

theorem header_of_declares {defs imports : Mapping} {params : List (Param Node)}
    (h : Declares m location defs imports params) :
    header m location = checkNames defs imports params location := by
  rw [header, h.definitions, h.importing, h.parameters]
  rfl

theorem header_eq_ok (h : header m location = .ok ()) : ∃ defs imports params,
    Declares m location defs imports params ∧
      NamesApart defs imports (params.map Param.name) := by
  unfold header at h
  cases hd : declared m defsKey location with
  | error e =>
    rw [hd] at h
    cases h
  | ok defs =>
    cases hi : declared m importsKey location with
    | error e =>
      rw [hd, hi] at h
      cases h
    | ok imports =>
      cases hp : Param.declarations (Entries.find? paramsKey m) location with
      | error e =>
        rw [hd, hi, hp] at h
        cases h
      | ok params =>
        rw [hd, hi, hp] at h
        have hc : checkNames defs imports params location = .ok () := h
        exact ⟨defs, imports, params, ⟨hd, hi, hp⟩, checkNames_eq_ok_iff.mp hc⟩

end Refusal

section Chain

variable {c : Loader} {nested : Mapping → String → Progress → ImportGraph → Progress → Prop}
  {base : String} {scope final : Scope} {edges : List ImportEdge} {p q : Progress}

theorem Defines.bindings {defs : Mapping} (h : Defines c nested base defs scope p edges final q) :
    ∃ values : Mapping, Entries.keys values = Entries.keys defs ∧
      final.bindings = scope.bindings ++ values.map fun (name, v) => (name, Bound.value v) := by
  induction h with
  | nil => exact ⟨[], rfl, (List.append_nil _).symm⟩
  | @document name _ _ _ g _ _ _ _ _ _ _ _ _ ih =>
    obtain ⟨values, hkeys, hb⟩ := ih
    exact ⟨(name, .document g.loaded) :: values, congrArg (List.cons name) hkeys,
      hb.trans (List.append_assoc ..)⟩
  | @value name _ v _ _ _ _ _ _ _ _ _ _ ih =>
    obtain ⟨values, hkeys, hb⟩ := ih
    exact ⟨(name, v) :: values, congrArg (List.cons name) hkeys, hb.trans (List.append_assoc ..)⟩

inductive Chained : List (String × Bound) → List (String × Bound) → Prop
  | nil {before : List (String × Bound)} : Chained before []
  | cons {before rest : List (String × Bound)} {name : String} {n : Node} {scope : Scope}
      (captured : scope.bindings = before)
      (more : Chained (before ++ [(name, .raw n scope)]) rest) :
      Chained before ((name, .raw n scope) :: rest)

theorem Imports.bindings {imports : Mapping}
    (h : Imports c nested base imports scope p edges final q) :
    ∃ added, Entries.keys added = Entries.keys imports ∧ Chained scope.bindings added ∧
      final.bindings = scope.bindings ++ added := by
  induction h with
  | nil => exact ⟨[], rfl, .nil, (List.append_nil _).symm⟩
  | leaf _ _ _ _ ih =>
    obtain ⟨added, hkeys, hc, hb⟩ := ih
    exact ⟨_ :: added, congrArg _ hkeys, .cons rfl hc, hb.trans (List.append_assoc ..)⟩
  | node _ _ _ _ _ ih =>
    obtain ⟨added, hkeys, hc, hb⟩ := ih
    exact ⟨_ :: added, congrArg _ hkeys, .cons rfl hc, hb.trans (List.append_assoc ..)⟩

theorem Chained.captured {before added : List (String × Bound)} (h : Chained before added) {i : ℕ}
    {name : String} {b : Bound} (hb : added[i]? = some (name, b)) :
    ∃ n captured, b = .raw n captured ∧ captured.bindings = before ++ added.take i := by
  induction h generalizing i with
  | nil => simp at hb
  | @cons before rest other n scope hs _ ih =>
    cases i with
    | zero =>
      simp only [List.getElem?_cons_zero, Option.some.injEq, Prod.mk.injEq] at hb
      refine ⟨n, scope, hb.2.symm, ?_⟩
      rw [hs, List.take_zero, List.append_nil]
    | succ i =>
      obtain ⟨n', captured, hraw, hc⟩ := ih hb
      refine ⟨n', captured, hraw, ?_⟩
      rw [hc, List.take_succ_cons, List.append_assoc, List.singleton_append]

end Chain

end Loading

structure Document.Represents (d : Document) (m defs imports : Mapping) : Prop where
  declares : Loading.Declares m d.location defs imports d.params
  apart : Loading.NamesApart defs imports (d.params.map Param.name)
  names : Entries.keys d.scope.bindings = Entries.keys defs ++ Entries.keys imports
  unbound : ∀ p ∈ d.params, d.scope.find? p.name = none
  definitions : ∀ i < defs.length, ∃ name v, d.scope.bindings[i]? = some (name, .value v)
  imports : ∀ i < imports.length, ∃ name n captured,
    d.scope.bindings[defs.length + i]? = some (name, .raw n captured) ∧
      captured.bindings = d.scope.bindings.take (defs.length + i)
  body : ∀ k ∈ Entries.keys d.body, isBookkeeping k = false

namespace Document.Represents

variable {d : Document} {m defs imports : Mapping}

theorem length_bindings (h : d.Represents m defs imports) :
    d.scope.bindings.length = defs.length + imports.length := by
  have hl := congrArg List.length h.names
  rwa [List.length_append, Entries.keys, Entries.keys, Entries.keys, List.length_map,
    List.length_map, List.length_map] at hl

theorem nodup_bindings (h : d.Represents m defs imports) (hd : (Entries.keys defs).Nodup)
    (hi : (Entries.keys imports).Nodup) : (Entries.keys d.scope.bindings).Nodup := by
  rw [h.names, List.nodup_append]
  exact ⟨hd, hi, fun a ha b hb hab => h.apart.sections b hb (hab ▸ ha)⟩

theorem find?_eq_none_of_le (h : d.Represents m defs imports)
    (hn : (Entries.keys d.scope.bindings).Nodup) {i j : ℕ} (hij : i ≤ j) {captured : Scope}
    (hc : captured.bindings = d.scope.bindings.take (defs.length + i)) {name : String}
    (hname : (Entries.keys imports)[j]? = some name) : captured.find? name = none := by
  have hsplit : Entries.keys d.scope.bindings = Entries.keys captured.bindings ++
      (Entries.keys d.scope.bindings).drop (defs.length + i) := by
    rw [hc, Entries.keys, Entries.keys, List.map_take, List.take_append_drop]
  have hdrop : (Entries.keys d.scope.bindings).drop (defs.length + i) =
      (Entries.keys imports).drop i := by
    rw [h.names, ← List.length_map Prod.fst, ← Entries.keys, List.drop_append]
    simp
  have hlater : name ∈ (Entries.keys imports).drop i := by
    rw [List.mem_iff_getElem?]
    exact ⟨j - i, by rw [List.getElem?_drop, Nat.add_sub_cancel' hij, hname]⟩
  rw [hsplit, hdrop, List.nodup_append] at hn
  have hmem : name ∉ Entries.keys captured.bindings := fun hm => hn.2.2 name hm name hlater rfl
  rwa [← Scope.has_iff_mem_bindings, Scope.has, Option.not_isSome_iff_eq_none] at hmem

end Document.Represents

structure Document.BindsOnce (d : Document) (defs imports : Mapping) : Prop where
  once : (Entries.keys d.scope.bindings).Nodup
  found : ∀ name b, d.scope.find? name = some b ↔ (name, b) ∈ d.scope.bindings
  blind : ∀ i name n captured, d.scope.bindings[defs.length + i]? = some (name, .raw n captured) →
    ∀ j other, i ≤ j → (Entries.keys imports)[j]? = some other → captured.find? other = none

theorem Document.Represents.bindsOnce {d : Document} {m defs imports : Mapping}
    (h : d.Represents m defs imports) (hd : (Entries.keys defs).Nodup)
    (hi : (Entries.keys imports).Nodup) : d.BindsOnce defs imports := by
  have hn := h.nodup_bindings hd hi
  refine ⟨hn, fun _ _ => Scope.find?_eq_some_iff_mem_bindings hn, ?_⟩
  intro i name n captured hb j other hij hother
  have hlt : i < imports.length := by
    have hl := (List.getElem?_eq_some_iff.mp hb).1
    rw [h.length_bindings] at hl
    omega
  obtain ⟨_, _, _, hb', hc⟩ := h.imports i hlt
  rw [hb] at hb'
  cases hb'
  exact h.find?_eq_none_of_le hn hij hc hother

namespace Loading

variable {c : Loader} {nested : Mapping → String → Progress → ImportGraph → Progress → Prop}
  {m : Mapping} {location : String} {g : ImportGraph} {p q r : Progress}

theorem Imports.layout {base : String} {defs imports : Mapping} {inner outer : List ImportEdge}
    {defined final : Scope} (hdefines : Defines c nested base defs .empty p inner defined q)
    (himports : Imports c nested base imports defined q outer final r) :
    Entries.keys final.bindings = Entries.keys defs ++ Entries.keys imports ∧
      (∀ i < defs.length, ∃ name v, final.bindings[i]? = some (name, .value v)) ∧
      ∀ i < imports.length, ∃ name n captured,
        final.bindings[defs.length + i]? = some (name, .raw n captured) ∧
          captured.bindings = final.bindings.take (defs.length + i) := by
  obtain ⟨values, hvalues, hdefined⟩ := hdefines.bindings
  obtain ⟨added, hadded, hchain, hfinal⟩ := himports.bindings
  rw [Scope.bindings, List.nil_append] at hdefined
  have hkeys : Entries.keys defined.bindings = Entries.keys defs := by
    rw [hdefined, ← hvalues]
    simp [Entries.keys, Function.comp_def]
  have hlength : defined.bindings.length = defs.length := by
    simpa [Entries.keys] using congrArg List.length hkeys
  have hlength' : added.length = imports.length := by
    simpa [Entries.keys] using congrArg List.length hadded
  rw [hfinal]
  refine ⟨?_, fun i hi => ?_, fun i hi => ?_⟩
  · rw [← hkeys, ← hadded, Entries.keys, Entries.keys, Entries.keys, List.map_append]
  · rw [← hlength] at hi
    rw [List.getElem?_append_left hi]
    rw [hdefined, List.length_map] at hi
    refine ⟨values[i].1, values[i].2, ?_⟩
    rw [hdefined, List.getElem?_map, List.getElem?_eq_getElem hi]
    rfl
  · have hb := List.getElem?_eq_getElem (hlength'.symm ▸ hi)
    obtain ⟨n, captured, hraw, hcaptured⟩ := hchain.captured (b := added[i].2) hb
    refine ⟨added[i].1, n, captured, ?_, ?_⟩
    · rw [← hlength, List.getElem?_append_right (Nat.le_add_right ..), Nat.add_sub_cancel_left, hb,
        ← hraw]
    · rw [hcaptured, ← hlength, List.take_length_add_append]

theorem OfDocument.represents (h : OfDocument c nested m location p g q) :
    ∃ defs imports, g.loaded.Represents m defs imports := by
  cases h with
  | @intro defs imports params defined final _ _ _ _ hd hi hp hc hdefines himports =>
    obtain ⟨hkeys, hdefinitions, himports⟩ := himports.layout hdefines
    have hapart := checkNames_eq_ok_iff.mp hc
    refine ⟨defs, imports, ⟨hd, hi, hp⟩, hapart, hkeys, ?_, hdefinitions, himports, ?_⟩
    · intro p hp
      obtain ⟨hnd, hni⟩ := hapart.unbound p.name (List.mem_map_of_mem hp)
      have hn : p.name ∉ Entries.keys final.bindings := by
        rw [hkeys, List.mem_append]
        exact not_or.mpr ⟨hnd, hni⟩
      rwa [← Scope.has_iff_mem_bindings, Scope.has, Option.not_isSome_iff_eq_none] at hn
    · intro k hk
      obtain ⟨⟨k', n⟩, hm, rfl⟩ := List.mem_map.mp hk
      simpa using (List.mem_filter.mp hm).2

end Loading

theorem Loader.Loads.represents {c : Loader} {k : ℕ} {m : Mapping} {location : String}
    {p q : Progress} {g : ImportGraph} (h : c.Loads k m location p g q) :
    ∃ defs imports, g.loaded.Represents m defs imports := by
  cases k with
  | zero => exact h.elim
  | succ k => exact Loading.OfDocument.represents h

/-- Every document that is loaded binds its definitions and then its imports, the parameters apart.
A map whose names clash is refused whatever there would be to import: nothing has been fetched for
it by then. -/
theorem loaded_documents (c : Loader) (k : ℕ) (m : Mapping) (location : String) (p : Progress) :
    (∀ d q, Returns (c.loadWithin k m location) p d q →
      ∃ g, c.Loads k m location p g q ∧ g.loaded = d ∧
        ∀ h, g.Contains h → ∃ defs imports, h.loaded.Represents h.source defs imports ∧
          ((Entries.keys defs).Nodup → (Entries.keys imports).Nodup →
            h.loaded.BindsOnce defs imports)) ∧
    ((¬∃ defs imports params, Loading.Declares m (Loading.declaredLocation m location) defs imports
          params ∧ Loading.NamesApart defs imports (params.map Param.name)) →
      ∃ e, (∀ c' : Loader, c'.limit = c.limit → Fails (c'.loadWithin k m location) p e p) ∧
        (0 < k → (∃ defs imports params,
            Loading.Declares m (Loading.declaredLocation m location) defs imports params) →
          ∃ name clash, e = .collision name (Loading.declaredLocation m location) clash)) := by
  constructor
  · intro d q h
    obtain ⟨g, hg, hd⟩ := Loader.returns_loadWithin.mp h
    refine ⟨g, hg, hd, fun h hc => ?_⟩
    obtain ⟨j, location', p', q', hj⟩ := hg.within hc
    obtain ⟨defs, imports, hr⟩ := hj.represents
    exact ⟨defs, imports, hr, hr.bindsOnce⟩
  · intro hbad
    cases k with
    | zero =>
      refine ⟨.tooDeep c.limit location [], fun c' hl => ?_, fun hk => absurd hk (Nat.lt_irrefl 0)⟩
      rw [Loader.loadWithin, hl]
      exact fails_throw.mpr ⟨rfl, rfl⟩
    | succ k =>
      cases hh : Loading.header m (Loading.declaredLocation m location) with
      | ok _ => exact absurd (Loading.header_eq_ok hh) hbad
      | error e =>
        refine ⟨e, fun c' _ => Loading.fails_document hh, ?_⟩
        rintro - ⟨defs, imports, params, hdeclares⟩
        rw [Loading.header_of_declares hdeclares] at hh
        exact Loading.checkNames_eq_error hh

section Example

def portsMap : Mapping := [(defsKey, .map [("http", .number (.int 80))])]

def serviceMap : Mapping :=
  [(defsKey, .map [("t", .map [(paramsKey, .seq [])])]),
    (importsKey, .map [("ports", .string "ports.yaml")])]

def clashingMap : Mapping :=
  [(defsKey, .map [("ports", .null)]), (importsKey, .map [("ports", .string "ports.yaml")])]

abbrev portsLoader : Loader := ⟨.upTo 2, fun _ t _ => .ok ⟨t, .empty, .map portsMap⟩, 2⟩

def portsDocument : Document :=
  ⟨"ports.yaml", [], [], .frame 2 [("http", .value (.number (.int 80)))] .empty⟩

def serviceScope : Scope :=
  .frame 1 [("t", .value (.document ⟨"a.yaml", [], [], .empty⟩))] .empty

def serviceDocument : Document :=
  ⟨"a.yaml", [], [], .frame 3 [("ports", .raw (.document portsDocument) serviceScope)] serviceScope⟩

theorem returns_importPorts :
    Returns (Loading.addImport portsLoader (portsLoader.loadWithin 2) "a.yaml" serviceScope "ports"
        (.string "ports.yaml")) ⟨[], [], 2⟩ serviceDocument.scope
      ⟨[], [⟨"ports", "a.yaml", "ports.yaml", digestText .empty⟩], 4⟩ := by
  have ht : Loading.target "a.yaml" serviceScope "ports" (.string "ports.yaml") =
      .ok "ports.yaml" := by
    with_unfolding_all exact rfl
  rw [Loading.addImport, returns_bind]
  refine ⟨_, ⟨[], [], 2⟩, Load.returns_ofExcept.mpr ⟨ht, rfl⟩, ?_⟩
  rw [returns_bind]
  refine ⟨⟨"ports.yaml", .empty, .map portsMap⟩, _, Loading.returns_fetch.mpr ⟨rfl, rfl⟩, ?_⟩
  generalize digestText .empty = digest
  with_unfolding_all exact rfl

theorem loaded_documents_service :
    (∃ defs imports,
      Returns (portsLoader.loadWithin 3 serviceMap "a.yaml") .start serviceDocument
        ⟨[], [⟨"ports", "a.yaml", "ports.yaml", digestText .empty⟩], 4⟩ ∧
      serviceDocument.Represents serviceMap defs imports ∧
        serviceDocument.BindsOnce defs imports) ∧
    ∃ e, Fails (portsLoader.loadWithin 3 clashingMap "a.yaml") .start e .start := by
  constructor
  · have h : Returns (portsLoader.loadWithin 3 serviceMap "a.yaml") .start serviceDocument
        ⟨[], [⟨"ports", "a.yaml", "ports.yaml", digestText .empty⟩], 4⟩ := by
      rw [Loader.loadWithin, Loading.document]
      simp only [returns_bind, Load.returns_ofExcept, returns_pure]
      refine ⟨_, _, ⟨rfl, rfl⟩, _, _, ⟨rfl, rfl⟩, [], _, ⟨rfl, rfl⟩, (), _, ⟨rfl, rfl⟩,
        serviceScope, ⟨[], [], 2⟩, by with_unfolding_all exact rfl, _, _, ?_, rfl, rfl⟩
      rw [List.foldlM_cons, returns_bind]
      exact ⟨_, _, returns_importPorts, returns_pure.mpr ⟨rfl, rfl⟩⟩
    obtain ⟨g, hg, hd, hall⟩ :=
      (loaded_documents portsLoader 3 serviceMap "a.yaml" .start).1 _ _ h
    obtain ⟨defs, imports, hr, honce⟩ := hall g .self
    rw [hg.source_eq, hd] at hr
    rw [hd] at honce
    obtain ⟨hd, hi, -⟩ := id hr.declares
    have hd' : (Entries.keys defs).Nodup := by
      rw [← Except.ok.inj hd]
      decide
    have hi' : (Entries.keys imports).Nodup := by
      rw [← Except.ok.inj hi]
      decide
    exact ⟨defs, imports, h, hr, honce hd' hi'⟩
  · have hclash : ¬∃ defs imports params,
        Loading.Declares clashingMap (Loading.declaredLocation clashingMap "a.yaml") defs imports
          params ∧ Loading.NamesApart defs imports (params.map Param.name) := by
      rintro ⟨defs, imports, params, ⟨hd, hi, -⟩, hapart⟩
      cases Except.ok.inj hd
      cases Except.ok.inj hi
      exact hapart.sections "ports" (by decide) (by decide)
    obtain ⟨e, he, -⟩ :=
      (loaded_documents portsLoader 3 clashingMap "a.yaml" .start).2 hclash
    exact ⟨e, he portsLoader rfl⟩

end Example

end InfraTemplate
