import InfraTemplate.Proofs.LoadRun

/-!
What a load goes through, as a graph: a document, the documents in its definitions, and its imports
with what they have brought, each in the order of declaration.
-/

namespace InfraTemplate

mutual

inductive ImportGraph where
  | document (source : Mapping) (loaded : Document) (edges : List ImportEdge)

inductive ImportEdge where
  | definition (g : ImportGraph)
  | leaf (name : String) (fetched : Fetched)
  | node (name : String) (fetched : Fetched) (g : ImportGraph)

end

namespace ImportGraph

def source : ImportGraph → Mapping
  | document m _ _ => m

def loaded : ImportGraph → Document
  | document _ d _ => d

def edges : ImportGraph → List ImportEdge
  | document _ _ es => es

end ImportGraph

def ImportEdge.end? : ImportEdge → Option ImportGraph
  | definition g => some g
  | leaf _ _ => none
  | node _ _ g => some g

def ImportEdge.origin (importer : String) : ImportEdge → String
  | definition _ => importer
  | leaf _ fetched => fetched.resolved
  | node _ fetched _ => fetched.resolved

def IsLocation (m : Mapping) (origin location : String) : Prop :=
  Entries.find? "$location" m = some (.string location) ∨
    (∀ s, Entries.find? "$location" m ≠ some (.string s)) ∧ location = origin

def Fetched.record (fetched : Fetched) (name importer : String) : Record where
  key := name
  importer := importer
  imported := fetched.resolved
  digest := Text.hexText (Sha256.digest fetched.raw.toList)

mutual

/-- The records of a graph in preorder: that of an import comes before those of what it brings. -/
def ImportGraph.records : ImportGraph → List Record
  | .document _ d edges => ImportEdge.recordsOf d.location edges

def ImportEdge.recordsOf (importer : String) : List ImportEdge → List Record
  | [] => []
  | e :: es => ImportEdge.records importer e ++ ImportEdge.recordsOf importer es

def ImportEdge.records (importer : String) : ImportEdge → List Record
  | .definition g => g.records
  | .leaf name fetched => [fetched.record name importer]
  | .node name fetched g => fetched.record name importer :: g.records

end

theorem ImportEdge.recordsOf_append (importer : String) (es es' : List ImportEdge) :
    recordsOf importer (es ++ es') = recordsOf importer es ++ recordsOf importer es' := by
  induction es with
  | nil => rfl
  | cons e es ih => rw [List.cons_append, recordsOf, recordsOf, ih, List.append_assoc]

inductive ImportGraph.Contains : ImportGraph → ImportGraph → Prop
  | self {g : ImportGraph} : Contains g g
  | step {g h h' : ImportGraph} {e : ImportEdge} (mem : e ∈ g.edges) (ends : e.end? = some h)
      (more : Contains h h') : Contains g h'

structure ImportGraph.Located (g : ImportGraph) (origin : String) : Prop where
  root : IsLocation g.source origin g.loaded.location
  inside : ∀ h, g.Contains h → ∀ e ∈ h.edges, ∀ h', e.end? = some h' →
    IsLocation h'.source (e.origin h.loaded.location) h'.loaded.location

def Progress.fetched (p : Progress) (r : Record) : Progress := { p with records := p.records ++ [r] }

def Progress.bound (p : Progress) : Progress := { p with label := p.label + 1 }

namespace Loading

section Relations

variable (c : Loader) (nested : Mapping → String → Progress → ImportGraph → Progress → Prop)
  (base : String)

inductive Defines : Mapping → Scope → Progress → List ImportEdge → Scope → Progress → Prop
  | nil {scope : Scope} {p : Progress} : Defines [] scope p [] scope p
  | document {name : String} {n : Node} {m rest : Mapping} {g : ImportGraph} {scope final : Scope}
      {edges : List ImportEdge} {p q r : Progress} (extended : extended? n = some m)
      (loaded : nested m base p g q)
      (more : Defines rest (.frame q.label [(name, .value (.document g.loaded))] scope) q.bound edges
        final r) :
      Defines ((name, n) :: rest) scope p (.definition g :: edges) final r
  | value {name : String} {n v : Node} {rest : Mapping} {scope final : Scope}
      {edges : List ImportEdge} {p r : Progress} {s : Sections} (plain : extended? n = none)
      (evaluated : Returns (c.evaluator.node n ((Path.root.child defsKey).child name)
        (Env.root scope base c.limit)) p.sections v s)
      (more : Defines rest (.frame p.label [(name, .value v)] scope)
        { p with sections := s }.bound edges final r) :
      Defines ((name, n) :: rest) scope p edges final r

inductive Imports : Mapping → Scope → Progress → List ImportEdge → Scope → Progress → Prop
  | nil {scope : Scope} {p : Progress} : Imports [] scope p [] scope p
  | leaf {name t : String} {n : Node} {rest : Mapping} {fetched : Fetched} {scope final : Scope}
      {edges : List ImportEdge} {p r : Progress} (located : target base scope name n = .ok t)
      (resolved : c.resolver p.records.length t base = .ok fetched)
      (plain : extended? fetched.parsed = none)
      (more : Imports rest (.frame p.label [(name, .raw fetched.parsed scope)] scope)
        (p.fetched (fetched.record name base)).bound edges final r) :
      Imports ((name, n) :: rest) scope p (.leaf name fetched :: edges) final r
  | node {name t : String} {n : Node} {m rest : Mapping} {fetched : Fetched} {g : ImportGraph}
      {scope final : Scope} {edges : List ImportEdge} {p q r : Progress}
      (located : target base scope name n = .ok t)
      (resolved : c.resolver p.records.length t base = .ok fetched)
      (extended : extended? fetched.parsed = some m)
      (loaded : nested m fetched.resolved (p.fetched (fetched.record name base)) g q)
      (more : Imports rest (.frame q.label [(name, .raw (.document g.loaded) scope)] scope) q.bound
        edges final r) :
      Imports ((name, n) :: rest) scope p (.node name fetched g :: edges) final r

inductive OfDocument (m : Mapping) (location : String) (p : Progress) : ImportGraph → Progress → Prop
  | intro {defs imports : Mapping} {params : List (Param Node)} {defined final : Scope}
      {inner outer : List ImportEdge} {q r : Progress}
      (definitions : declared m defsKey (declaredLocation m location) = .ok defs)
      (importing : declared m importsKey (declaredLocation m location) = .ok imports)
      (parameters :
        Param.declarations (Entries.find? paramsKey m) (declaredLocation m location) = .ok params)
      (checked : checkNames defs imports params (declaredLocation m location) = .ok ())
      (defines : Defines c nested (declaredLocation m location) defs .empty p inner defined q)
      (binds : Imports c nested (declaredLocation m location) imports defined q outer final r) :
      OfDocument m location p (.document m ⟨declaredLocation m location,
        m.filter fun (k, _) => !isBookkeeping k, params, final⟩ (inner ++ outer)) r

end Relations

end Loading

/-- The load of a map, with documents nested less than `k` deep, goes through the graph. -/
def Loader.Loads (c : Loader) : Nat → Mapping → String → Progress → ImportGraph → Progress → Prop
  | 0, _, _, _, _, _ => False
  | k + 1, m, location, p, g, q => Loading.OfDocument c (c.Loads k) m location p g q

namespace Loading

variable {c : Loader} {nested : Mapping → String → Load Document}
  {graphs : Mapping → String → Progress → ImportGraph → Progress → Prop} {base : String}
  {p q r : Progress} {scope final : Scope} {edges : List ImportEdge}

section Runs

variable (hn : ∀ m location p d q,
  Returns (nested m location) p d q ↔ ∃ g, graphs m location p g q ∧ g.loaded = d)

include hn

theorem returns_define {name : String} {n : Node} {scope' : Scope} :
    Returns (define c nested base scope name n) p scope' q ↔
      (∃ m g u, extended? n = some m ∧ graphs m base p g u ∧
        scope' = .frame u.label [(name, .value (.document g.loaded))] scope ∧ q = u.bound) ∨
      (∃ v s, extended? n = none ∧ Returns (c.evaluator.node n ((Path.root.child defsKey).child name)
          (Env.root scope base c.limit)) p.sections v s ∧
        scope' = .frame p.label [(name, .value v)] scope ∧ q = { p with sections := s }.bound) := by
  simp only [define, definition, returns_bind, Load.returns_bind1]
  cases extended? n with
  | some m =>
    simp only [returns_bind, returns_pure, hn]
    constructor
    · rintro ⟨_, _, ⟨_, u, ⟨g, hg, rfl⟩, rfl, rfl⟩, hs, hq⟩
      exact .inl ⟨m, g, _, rfl, hg, hs, hq⟩
    · rintro (⟨_, g, u, ⟨⟩, hg, hs, hq⟩ | ⟨_, _, hx, -⟩)
      · exact ⟨_, u, ⟨_, u, ⟨g, hg, rfl⟩, rfl, rfl⟩, hs, hq⟩
      · cases hx
  | none =>
    simp only [Load.returns_ofEval]
    constructor
    · rintro ⟨v, _, ⟨s, hv, rfl⟩, hs, hq⟩
      exact .inr ⟨v, s, trivial, hv, hs, hq⟩
    · rintro (⟨_, _, _, hx, -⟩ | ⟨v, s, -, hv, hs, hq⟩)
      · cases hx
      · exact ⟨v, _, ⟨s, hv, rfl⟩, hs, hq⟩

theorem returns_defineAll {defs : Mapping} :
    Returns (defs.foldlM (fun scope (name, n) => define c nested base scope name n) scope) p final q ↔
      ∃ edges, Defines c graphs base defs scope p edges final q := by
  induction defs generalizing scope p with
  | nil =>
    rw [List.foldlM_nil, returns_pure]
    constructor
    · rintro ⟨rfl, rfl⟩
      exact ⟨[], .nil⟩
    · rintro ⟨_, ⟨⟩⟩
      exact ⟨rfl, rfl⟩
  | cons e rest ih =>
    obtain ⟨name, n⟩ := e
    simp only [List.foldlM_cons, returns_bind, returns_define hn, ih]
    constructor
    · rintro ⟨_, _, ⟨m, g, u, hx, hg, rfl, rfl⟩ | ⟨v, s, hx, hv, rfl, rfl⟩, edges, hrest⟩
      · exact ⟨_, .document hx hg hrest⟩
      · exact ⟨_, .value hx hv hrest⟩
    · rintro ⟨_, hd⟩
      cases hd with
      | document hx hg hrest => exact ⟨_, _, .inl ⟨_, _, _, hx, hg, rfl, rfl⟩, _, hrest⟩
      | value hx hv hrest => exact ⟨_, _, .inr ⟨_, _, hx, hv, rfl, rfl⟩, _, hrest⟩

theorem returns_addImport {name : String} {n : Node} {scope' : Scope} :
    Returns (addImport c nested base scope name n) p scope' q ↔
      ∃ t fetched, target base scope name n = .ok t ∧
        c.resolver p.records.length t base = .ok fetched ∧
        ((∃ m g u, extended? fetched.parsed = some m ∧
            graphs m fetched.resolved (p.fetched (fetched.record name base)) g u ∧
            scope' = .frame u.label [(name, .raw (.document g.loaded) scope)] scope ∧ q = u.bound) ∨
          (extended? fetched.parsed = none ∧
            scope' = .frame p.label [(name, .raw fetched.parsed scope)] scope ∧
            q = (p.fetched (fetched.record name base)).bound)) := by
  simp only [addImport, returns_bind, Load.returns_ofExcept, returns_fetch]
  constructor
  · rintro ⟨t, _, ⟨ht, rfl⟩, fetched, _, ⟨hf, rfl⟩, hv⟩
    refine ⟨t, fetched, ht, hf, ?_⟩
    cases hx : extended? fetched.parsed with
    | some m =>
      simp only [hx, returns_bind, returns_map, hn, Load.returns_bind1] at hv
      obtain ⟨_, u, ⟨_, ⟨g, hg, rfl⟩, rfl⟩, hs, hq⟩ := hv
      exact .inl ⟨m, g, u, rfl, hg, hs, hq⟩
    | none =>
      simp only [hx, pure_bind, Load.returns_bind1] at hv
      exact .inr ⟨rfl, hv⟩
  · rintro ⟨t, fetched, ht, hf, hv⟩
    refine ⟨t, p, ⟨ht, rfl⟩, fetched, p.fetched (fetched.record name base), ⟨hf, rfl⟩, ?_⟩
    rcases hv with ⟨m, g, u, hx, hg, hs, hq⟩ | ⟨hx, hv⟩
    · simp only [hx, returns_bind, returns_map, hn, Load.returns_bind1]
      exact ⟨_, u, ⟨_, ⟨g, hg, rfl⟩, rfl⟩, hs, hq⟩
    · simp only [hx, pure_bind, Load.returns_bind1]
      exact hv

theorem returns_importAll {imports : Mapping} :
    Returns (imports.foldlM (fun scope (name, n) => addImport c nested base scope name n) scope)
        p final q ↔
      ∃ edges, Imports c graphs base imports scope p edges final q := by
  induction imports generalizing scope p with
  | nil =>
    rw [List.foldlM_nil, returns_pure]
    constructor
    · rintro ⟨rfl, rfl⟩
      exact ⟨[], .nil⟩
    · rintro ⟨_, ⟨⟩⟩
      exact ⟨rfl, rfl⟩
  | cons e rest ih =>
    obtain ⟨name, n⟩ := e
    simp only [List.foldlM_cons, returns_bind, returns_addImport hn, ih]
    constructor
    · rintro ⟨_, _, ⟨t, fetched, ht, hf, ⟨m, g, u, hx, hg, rfl, rfl⟩ | ⟨hx, rfl, rfl⟩⟩, edges, hrest⟩
      · exact ⟨_, .node ht hf hx hg hrest⟩
      · exact ⟨_, .leaf ht hf hx hrest⟩
    · rintro ⟨_, hi⟩
      cases hi with
      | leaf ht hf hx hrest => exact ⟨_, _, ⟨_, _, ht, hf, .inr ⟨hx, rfl, rfl⟩⟩, _, hrest⟩
      | node ht hf hx hg hrest =>
        exact ⟨_, _, ⟨_, _, ht, hf, .inl ⟨_, _, _, hx, hg, rfl, rfl⟩⟩, _, hrest⟩

theorem returns_document {m : Mapping} {location : String} {d : Document} :
    Returns (document c nested m location) p d q ↔
      ∃ g, OfDocument c graphs m location p g q ∧ g.loaded = d := by
  simp only [document, returns_bind, Load.returns_ofExcept, returns_pure, returns_defineAll hn,
    returns_importAll hn]
  constructor
  · rintro ⟨defs, _, ⟨hd, rfl⟩, imports, _, ⟨hi, rfl⟩, params, _, ⟨hp, rfl⟩, _, _, ⟨hc, rfl⟩,
      defined, u, ⟨inner, hinner⟩, final, v, ⟨outer, houter⟩, rfl, rfl⟩
    exact ⟨_, .intro hd hi hp hc hinner houter, rfl⟩
  · rintro ⟨_, ⟨hd, hi, hp, hc, hinner, houter⟩, rfl⟩
    exact ⟨_, _, ⟨hd, rfl⟩, _, _, ⟨hi, rfl⟩, _, _, ⟨hp, rfl⟩, _, _, ⟨hc, rfl⟩, _, _, ⟨_, hinner⟩,
      _, _, ⟨_, houter⟩, rfl, rfl⟩

end Runs

section Records

variable (hn : ∀ m location p g q, graphs m location p g q → q.records = p.records ++ g.records)

include hn

theorem Defines.records {defs : Mapping} (h : Defines c graphs base defs scope p edges final q) :
    q.records = p.records ++ ImportEdge.recordsOf base edges := by
  induction h with
  | nil => exact (List.append_nil _).symm
  | document _ hg _ ih =>
    rw [ih, ImportEdge.recordsOf, ImportEdge.records, ← List.append_assoc, ← hn _ _ _ _ _ hg]
    rfl
  | value _ _ _ ih => exact ih

theorem Imports.records {imports : Mapping}
    (h : Imports c graphs base imports scope p edges final q) :
    q.records = p.records ++ ImportEdge.recordsOf base edges := by
  induction h with
  | nil => exact (List.append_nil _).symm
  | leaf _ _ _ _ ih =>
    rw [ih, ImportEdge.recordsOf, ImportEdge.records, ← List.append_assoc]
    rfl
  | @node name _ _ _ _ fetched g _ _ _ p q _ _ _ _ hg _ ih =>
    have hq : q.records = p.records ++ fetched.record name base :: g.records := by
      rw [hn _ _ _ _ _ hg, Progress.fetched, List.append_assoc, List.singleton_append]
    rw [ih, ImportEdge.recordsOf, ImportEdge.records, ← List.append_assoc, ← hq]
    rfl

theorem OfDocument.records {m : Mapping} {location : String} {g : ImportGraph}
    (h : OfDocument c graphs m location p g q) : q.records = p.records ++ g.records := by
  cases h with
  | intro _ _ _ _ hdefines hbinds =>
    rw [hbinds.records hn, hdefines.records hn, ImportGraph.records, ImportEdge.recordsOf_append,
      List.append_assoc]

end Records

theorem isLocation_declaredLocation (m : Mapping) (origin : String) :
    IsLocation m origin (declaredLocation m origin) := by
  unfold declaredLocation
  split
  · rename_i hs
    exact .inl hs
  · rename_i hno
    exact .inr ⟨hno, rfl⟩

section Edges

variable {e : ImportEdge} {g h : ImportGraph}

theorem Defines.nested_of_edge {defs : Mapping}
    (hd : Defines c graphs base defs scope p edges final q) (he : e ∈ edges)
    (hh : e.end? = some h) : ∃ m p q, graphs m (e.origin base) p h q := by
  induction hd with
  | nil => cases he
  | document _ hg _ ih =>
    rcases List.mem_cons.mp he with rfl | he
    · cases hh
      exact ⟨_, _, _, hg⟩
    · exact ih he
  | value _ _ _ ih => exact ih he

theorem Imports.nested_of_edge {imports : Mapping}
    (hi : Imports c graphs base imports scope p edges final q) (he : e ∈ edges)
    (hh : e.end? = some h) : ∃ m p q, graphs m (e.origin base) p h q := by
  induction hi with
  | nil => cases he
  | leaf _ _ _ _ ih =>
    rcases List.mem_cons.mp he with rfl | he
    · cases hh
    · exact ih he
  | node _ _ _ hg _ ih =>
    rcases List.mem_cons.mp he with rfl | he
    · cases hh
      exact ⟨_, _, _, hg⟩
    · exact ih he

theorem OfDocument.nested_of_edge {m : Mapping} {location : String}
    (hg : OfDocument c graphs m location p g q) (he : e ∈ g.edges) (hh : e.end? = some h) :
    ∃ m p q, graphs m (e.origin g.loaded.location) p h q := by
  cases hg with
  | intro _ _ _ _ hdefines hbinds =>
    rcases List.mem_append.mp he with he | he
    · exact hdefines.nested_of_edge he hh
    · exact hbinds.nested_of_edge he hh

end Edges

end Loading

namespace Loader

variable {c : Loader} {k : Nat} {m : Mapping} {location : String} {p q : Progress}
  {g h : ImportGraph}

theorem returns_loadWithin {d : Document} :
    Returns (c.loadWithin k m location) p d q ↔ ∃ g, c.Loads k m location p g q ∧ g.loaded = d := by
  induction k generalizing m location p d q with
  | zero =>
    constructor
    · exact fun h => absurd h returns_throw
    · rintro ⟨_, hg, -⟩
      exact hg.elim
  | succ k ih => exact Loading.returns_document fun _ _ _ _ _ => ih

theorem Loads.records (hg : c.Loads k m location p g q) : q.records = p.records ++ g.records := by
  induction k generalizing m location p g q with
  | zero => exact hg.elim
  | succ k ih => exact Loading.OfDocument.records (fun _ _ _ _ _ => ih) hg

theorem Loads.source_eq (hg : c.Loads k m location p g q) : g.source = m := by
  cases k with
  | zero => exact hg.elim
  | succ k =>
    cases hg
    rfl

theorem Loads.body_eq (hg : c.Loads k m location p g q) :
    g.loaded.body = m.filter fun e => !isBookkeeping e.1 := by
  cases k with
  | zero => exact hg.elim
  | succ k =>
    cases hg
    rfl

theorem Loads.within (hg : c.Loads k m location p g q) (hc : g.Contains h) :
    ∃ j location' p' q', c.Loads j h.source location' p' h q' := by
  induction hc generalizing k m location p q with
  | self => exact ⟨k, location, p, q, hg.source_eq ▸ hg⟩
  | step mem ends _ ih =>
    cases k with
    | zero => exact hg.elim
    | succ k =>
      obtain ⟨_, _, _, hnested⟩ := Loading.OfDocument.nested_of_edge hg mem ends
      exact ih hnested

theorem Loads.isLocation (hg : c.Loads k m location p g q) :
    IsLocation m location g.loaded.location := by
  cases k with
  | zero => exact hg.elim
  | succ k =>
    cases hg
    exact Loading.isLocation_declaredLocation m location

theorem Loads.located (hg : c.Loads k m location p g q) : g.Located location where
  root := hg.source_eq ▸ hg.isLocation
  inside h hc e he h' hh := by
    obtain ⟨j, _, _, _, hj⟩ := hg.within hc
    cases j with
    | zero => exact hj.elim
    | succ j =>
      obtain ⟨m', p', q', hnested⟩ := Loading.OfDocument.nested_of_edge hj he hh
      have hnested : c.Loads j m' (e.origin h.loaded.location) p' h' q' := hnested
      exact hnested.source_eq ▸ hnested.isLocation

end Loader

end InfraTemplate
