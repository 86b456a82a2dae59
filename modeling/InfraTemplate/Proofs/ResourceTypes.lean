import InfraTemplate.Proofs.HoistedSections
import InfraTemplate.Proofs.ImportGraph
import InfraTemplate.Proofs.ScopeMonotonicity

namespace InfraTemplate

open Evaluator

namespace Node

variable {P Q : Node → Prop} {key : String}

def Under (key : String) (P : Node → Prop) (n : Node) : Prop :=
  ∃ m x, n = .map m ∧ (key, x) ∈ m ∧ P x

theorem Inherited.under (hP : Inherited P) (key : String) : Inherited (Under key P) := by
  intro old x h
  unfold mergeValue at h
  split at h
  · rename_i changes
    split at h
    · rename_i base
      obtain ⟨m, y, hm, hy, hPy⟩ := h
      cases hm
      obtain ⟨y', hy' | hy', hy''⟩ := mem_deepMerge hP hy
      · exact .inr ⟨_, rfl, base, y', rfl, hy', hy'' hPy⟩
      · exact .inl ⟨changes, y', rfl, hy', hy'' hPy⟩
    · exact .inl h
  · exact .inl h

theorem inherited_string (text : String) : Inherited (· = .string text) := by
  intro old x h
  cases x with
  | map changes =>
    unfold mergeValue at h
    split at h <;> cases h
  | _ => exact .inl h

def Typed (type : String) : Node → Prop := Under "Type" (· = .string type)

theorem inherited_typed (type : String) : Inherited (Typed type) :=
  (inherited_string type).under "Type"

theorem mem_stripEntries {m : Mapping} {y : Node} (h : (key, y) ∈ stripEntries m) :
    ∃ x, (key, x) ∈ m ∧ y = x.stripBookkeeping := by
  induction m with
  | nil => cases h
  | cons e m ih =>
    obtain ⟨k, x⟩ := e
    rw [stripEntries] at h
    split at h
    · obtain ⟨x', hx', hy⟩ := ih h
      exact ⟨x', List.mem_cons_of_mem _ hx', hy⟩
    · rcases List.mem_cons.mp h with h | h
      · cases h
        exact ⟨x, List.mem_cons_self .., rfl⟩
      · obtain ⟨x', hx', hy⟩ := ih h
        exact ⟨x', List.mem_cons_of_mem _ hx', hy⟩

theorem Under.of_strip (hPQ : ∀ x : Node, P x.stripBookkeeping → Q x) {n : Node}
    (h : Under key P n.stripBookkeeping) : Under key Q n := by
  obtain ⟨m, y, hm, hy, hPy⟩ := h
  cases n with
  | map m' =>
    cases hm
    obtain ⟨x, hx, rfl⟩ := mem_stripEntries hy
    exact ⟨m', x, rfl, hx, hPQ x hPy⟩
  | _ => cases hm

theorem eq_string_of_strip {n : Node} {text : String} (h : n.stripBookkeeping = .string text) :
    n = .string text := by
  cases n with
  | string s => exact h
  | _ => cases h

theorem Typed.of_strip {n : Node} {type : String} (h : n.stripBookkeeping.Typed type) :
    n.Typed type :=
  Under.of_strip (fun _ => eq_string_of_strip) h

end Node

namespace Evaluator

variable {ev : Evaluator} {k : Nat} {name type : String} {m : Mapping} {n : Node} {path : Path}
  {env : Env} {s t u v : Sections}

theorem level_type (path : Path) :
    (path.child "Type").hasSegment overridesKey = path.hasSegment overridesKey := by
  have hkey : Path.hasSegment "Type" overridesKey = false := by decide
  rw [Path.hasSegment_child, hkey, Bool.or_false]

theorem returns_resourceType (hn : ∀ expr, n ≠ .tag (.lookup expr))
    (hv : Returns ((upTo k).node n (path.child "Type") env) s (.string type) t) :
    Returns ((upTo k).resourceType n path env) s type t := by
  unfold resourceType
  split
  · rename_i text
    -- The text is read in the place of the resource, and evaluated in that of its type.
    obtain ⟨ts, he, rfl, hnode⟩ := returns_eased carriesSections_same (Nat.le_succ k)
      (Env.Widens.refl env).eases (level_type path) (fun _ => s) rfl hv
    rw [← he] at hnode
    obtain ⟨text', u, htext, h⟩ := returns_bind.mp hnode
    obtain ⟨hs, hu⟩ := returns_pure.mp h
    cases hs
    rwa [hu]
  · rename_i expr
    exact absurd rfl (hn expr)
  · exact returns_bind.mpr ⟨_, t, hv, returns_pure.mpr ⟨rfl, rfl⟩⟩

theorem resourceType_eq {written : String} (hn : ∀ expr, n ≠ .tag (.lookup expr))
    (h : Returns ((upTo k).resourceType n path env) s type t)
    (hv : Returns ((upTo k).node n (path.child "Type") env) u (.string written) v) :
    written = type := by
  obtain ⟨w, hw⟩ := returns_of_eases (Nat.le_refl k) (Env.Widens.refl env).eases rfl hv s
  exact ((returns_resourceType hn hw).unique h).1

def kindOfType (ev : Evaluator) (name type : String) (path : Path) (env : Env) : Eval ResourceKind :=
  if Resource.isLiteralType type then return .literal
  else reporting (.invalidResource name type path env.stack) (ev.locate type path env) >>=
    Resource.kindOf name type path env

theorem classify_of_type (name : String) (hf : Entries.find? "Type" m = some n) (path : Path)
    (env : Env) : ev.classify name m path env =
      ev.resourceType n path env >>= fun type => ev.kindOfType name type path env := by
  rw [classify_eq, hf]
  rfl

theorem kindOfType_of_literal (hl : Resource.isLiteralType type = true) :
    ev.kindOfType name type path env = pure .literal := by
  rw [kindOfType, if_pos hl]

theorem literal_of_kindOfType (h : Returns (ev.kindOfType name type path env) s .literal t) :
    Resource.isLiteralType type = true ∧ t = s := by
  unfold kindOfType at h
  split at h
  · rename_i hl
    exact ⟨hl, (returns_pure.mp h).2⟩
  · obtain ⟨at_, w, -, h⟩ := returns_bind.mp h
    unfold Resource.kindOf at h
    split at h
    · obtain ⟨hk, -⟩ := returns_pure.mp h
      cases hk
    · exact absurd h returns_throw

theorem resourceType_of_literal (h : Returns (ev.classify name m path env) s .literal t)
    (hf : Entries.find? "Type" m = some n) :
    ∃ type, Returns (ev.resourceType n path env) s type t ∧ Resource.isLiteralType type = true := by
  rw [classify_of_type name hf] at h
  obtain ⟨type, u, htype, h⟩ := returns_bind.mp h
  obtain ⟨hl, rfl⟩ := literal_of_kindOfType h
  exact ⟨type, htype, hl⟩

def LeadsAstray (ev : Evaluator) (type : String) (path : Path) (env : Env) (s t : Sections) : Prop :=
  (∃ at_, Returns (ev.locate type path env) s at_ t ∧ ∀ d, at_.node ≠ .document d) ∨
    ∃ expr p trace, Fails (ev.locate type path env) s (.undefined expr p trace) t

theorem fails_kindOfType (name : String) (hl : Resource.isLiteralType type = false)
    (ha : ev.LeadsAstray type path env t u) :
    Fails (ev.kindOfType name type path env) t (.invalidResource name type path env.stack) u := by
  rw [kindOfType, hl, if_neg Bool.false_ne_true, fails_bind]
  rcases ha with ⟨at_, hat, hno⟩ | ⟨expr, p, trace, hfail⟩
  · refine .inr ⟨at_, u, returns_reporting.mpr hat, ?_⟩
    obtain ⟨x, inner, evaluated⟩ := at_
    cases x with
    | document d => exact absurd rfl (hno d)
    | _ => exact fails_throw.mpr ⟨rfl, rfl⟩
  · exact .inl (fails_reporting_iff.mpr ⟨_, hfail, rfl⟩)

theorem fails_classify (name : String) (hf : Entries.find? "Type" m = some n)
    (ht : Returns (ev.resourceType n path env) s type t) (hl : Resource.isLiteralType type = false)
    (ha : ev.LeadsAstray type path env t u) :
    Fails (ev.classify name m path env) s (.invalidResource name type path env.stack) u := by
  rw [classify_of_type name hf]
  exact fails_bind.mpr (.inr ⟨type, t, ht, fails_kindOfType name hl ha⟩)

theorem fails_instantiate {i : Instance} {template : String} {d : Document} {e : Error}
    (hi : Returns (ev.instanceOf name m d path env) s i t)
    (h : Fails (ev.instanceResources template i.body path env i.env) t e u) :
    Fails (ev.instantiate name m template d path env) s e u :=
  fails_bind.mpr (.inr ⟨i, t, hi, fails_bind.mpr (.inl h)⟩)

theorem fails_resourceEntry {e : Error} (hb : isBookkeeping name = false)
    (hg : isMergeKey name = false)
    (h : Fails (ev.classify name m (path.child name) env) s e u ∨
      ∃ template d t, Returns (ev.classify name m (path.child name) env) s (.template template d) t ∧
        Fails (ev.instantiate name m template d (path.child name) env) t e u) :
    Fails (ev.resourceEntry path env name (.map m)) s e u := by
  simp only [resourceEntry, hb, hg, Bool.false_eq_true, ↓reduceIte, fails_bind]
  rcases h with h | ⟨template, d, t, hc, hi⟩
  · exact .inl h
  · exact .inr ⟨_, t, hc, fails_bind.mpr (.inl hi)⟩

end Evaluator

namespace Emission

def IsClassified (e : Emission) : Prop :=
  e.IsPlain ∧ ∀ m, e.written? = some (.map m) →
    (Entries.keys m).Nodup ∧ ∀ expr, Entries.find? "Type" m ≠ some (.tag (.lookup expr))

end Emission

theorem mem_of_mem_qualifyNamed {env : Env} {body : Mapping} {key : String} {x : Node}
    (hk : Resource.nameKeys.contains key = false) (h : (key, x) ∈ Resource.qualifyNamed env body) :
    (key, x) ∈ body := by
  unfold Resource.qualifyNamed at h
  split at h
  · exact h
  · obtain ⟨⟨k, y⟩, hy, he⟩ := List.mem_map.mp h
    cases he
    rw [hk, if_neg Bool.false_ne_true]
    exact hy

theorem literal_of_classified {k : Nat} {path : Path} {env : Env} {name emitted type : String}
    {m : Mapping} {resource : Node} {s t u v : Sections}
    (hn : (Entries.keys m).Nodup)
    (hplain : ∀ key ∈ Entries.keys m,
      isMergeKey key = false ∧ Interpolation.hasPlaceholders key = false)
    (hlookup : ∀ expr, Entries.find? "Type" m ≠ some (.tag (.lookup expr)))
    (hc : Returns ((upTo k).classify name m path env) s .literal t)
    (hl : Returns ((upTo k).literal name m path env) u (emitted, resource) v)
    (ht : resource.Typed type) : Resource.isLiteralType type = true := by
  obtain ⟨body, hbody, -, rfl⟩ := literal_spec hl
  obtain ⟨_, _, he, hmem, rfl⟩ := ht
  cases he
  have hin := mem_of_mem_qualifyNamed (by decide) hmem
  obtain ⟨cs, hcs, rfl⟩ := returns_map.mp hbody
  obtain ⟨c, hcm, x, hx, hstring⟩ := Contribution.mem_assemble (Node.inherited_string type) hin
  obtain rfl := hstring rfl
  obtain ⟨⟨key, n⟩, w, z, hreach, hentry⟩ := (mem_iff_reaches hcs c).mp hcm
  have hkey : (key, n) ∈ m := List.mem_of_mem_filter hreach.mem
  obtain ⟨hg, hp⟩ := hplain key (List.mem_map_of_mem hkey)
  obtain ⟨rfl, hvalue⟩ := given_mapEntry hentry hg hp hx
  have hf : Entries.find? "Type" m = some n := (Entries.find?_eq_some_iff_mem hn).mpr hkey
  obtain ⟨type', htype, hliteral⟩ := resourceType_of_literal hc hf
  have hnode : Returns ((upTo k).node n (path.child "Type") env) w (.string type) z := by
    simpa [mapValue, resourcesKey, formatVersionKey] using hvalue
  rw [resourceType_eq (fun expr he => hlookup expr (by rw [hf, he])) htype hnode]
  exact hliteral

theorem Emits.literal_of_classified {k : Nat} {i : Instance} {path : Path} {s : Sections}
    {e : Emission} (h : Emits k i path s e) (hc : e.IsClassified) {type : String}
    (ht : e.node.Typed type) : Resource.isLiteralType type = true := by
  induction h with
  | merged =>
    obtain ⟨⟨m, hm, -⟩, -⟩ := hc
    cases hm
  | nested _ _ _ _ _ _ ih => exact ih hc ht
  | entry _ hcon =>
    obtain ⟨⟨m, hm, hplain⟩, hall⟩ := hc
    cases hm
    obtain ⟨hn, hlookup⟩ := hall m rfl
    cases hcon with
    | evaluated _ _ hne => exact absurd rfl (hne m)
    | literal _ _ hkind hl =>
      exact InfraTemplate.literal_of_classified hn hplain hlookup hkind hl ht

inductive Misnames : Nat → Instance → Path → Sections → String → String → Prop
  | entry {k : Nat} {i : Instance} {path : Path} {s t u v : Sections} {name type : String}
      {m : Mapping} {n : Node} (reached : i.ReachesEntry k path s name (.map m) t)
      (counts : isBookkeeping name = false) (stays : isMergeKey name = false)
      (typed : Entries.find? "Type" m = some n)
      (read : Returns ((upTo k).resourceType n (path.child name) i.env) t type u)
      (unknown : Resource.isLiteralType type = false)
      (astray : (upTo k).LeadsAstray type (path.child name) i.env u v) :
      Misnames (k + 1) i path s name type
  | nested {k : Nat} {i j : Instance} {path : Path} {s t u v : Sections}
      {entry template name type : String} {m : Mapping} {d : Document}
      (reached : i.ReachesEntry k path s entry (.map m) t)
      (counts : isBookkeeping entry = false) (stays : isMergeKey entry = false)
      (kind : Returns ((upTo k).classify entry m (path.child entry) i.env) t (.template template d) u)
      (made : Returns ((upTo k).instanceOf entry m d (path.child entry) i.env) u j v)
      (inside : Misnames k j ((path.child entry).child resourcesKey) v name type) :
      Misnames (k + 1) i path s name type

theorem Misnames.fails {k : Nat} {i : Instance} {path : Path} {s : Sections} {name type : String}
    (h : Misnames k i path s name type) :
    ∃ l e p trace t, k = l + 1 ∧ e ∈ i.resources ∧
      Fails ((upTo l).resourceSection i.resources path i.env) s
        (.invalidResource name type p trace) t := by
  induction h with
  | @entry k i path s t u v name type m n reached counts stays typed read unknown astray =>
    have hclassify := fails_classify name typed read unknown astray
    have hentry := fails_resourceEntry counts stays (.inl hclassify)
    exact ⟨_, _, _, _, _, rfl, reached.mem, fails_map.mpr (reached.fails hentry)⟩
  | @nested k i j path s t u v entry template name type m d reached counts stays kind made _ ih =>
    obtain ⟨l, e, p, trace, w, rfl, he, hfail⟩ := ih
    have hinside : Fails ((upTo (l + 1)).instanceResources template j.body (path.child entry) i.env
        j.env) v (.invalidResource name type p trace) w := by
      rw [instanceResources, Instance.find?_resources he]
      exact hfail
    have hentry := fails_resourceEntry counts stays
      (.inr ⟨template, d, u, kind, fails_instantiate made hinside⟩)
    exact ⟨_, _, p, trace, w, rfl, reached.mem, fails_map.mpr (reached.fails hentry)⟩

def Instance.ofSection (resources : Mapping) (env : Env) : Instance :=
  ⟨[(resourcesKey, .map resources)], ⟨"", []⟩, env⟩

section Root

variable {k : Nat} {body : Mapping} {env : Env} {s t : Sections}

abbrev ReachesField (k : Nat) (body : Mapping) (env : Env) (s : Sections) (name : String) (n : Node)
    (t : Sections) : Prop :=
  Reaches (fun e => (upTo k).mapEntry Path.root env e.1 e.2) body s (name, n) t

/-- How a resource may come to be in the section under a key without its type being looked at: with a
section that is not written out, or as a resource that is not. -/
inductive Unclassified (k : Nat) (body : Mapping) (env : Env) (s : Sections) (key type : String) :
    Prop
  | brought {name : String} {n x : Node} {u v : Sections} {c : Contribution}
      (reached : ReachesField k body env s name n u)
      (returned : Returns ((upTo k).mapEntry Path.root env name n) u c v)
      (unwritten : name = resourcesKey → ∀ m, n ≠ .map m)
      (given : (resourcesKey, x) ∈ c.given) (typed : x.Under key (Node.Typed type))
  | emitted {resources : Mapping} {u : Sections} {e : Emission}
      (reached : ReachesField k body env s resourcesKey (.map resources) u)
      (emits : Emits k (.ofSection resources env) (Path.root.child resourcesKey) u e)
      (named : e.key = key) (typed : e.node.Typed type) (unclassified : ¬e.IsClassified)

theorem literal_or_unclassified {out : Mapping} {x : Node} {key type : String}
    (h : Returns ((upTo k).map body Path.root env) s out t) (hx : (resourcesKey, x) ∈ out)
    (ht : x.Under key (Node.Typed type)) :
    Resource.isLiteralType type = true ∨ Unclassified k body env s key type := by
  obtain ⟨cs, hcs, rfl⟩ := returns_map.mp h
  have hinherited := (Node.inherited_typed type).under key
  obtain ⟨c, hc, x', hx', htyped⟩ := Contribution.mem_assemble hinherited hx
  have hunder := htyped ht
  obtain ⟨⟨name, n⟩, u, v, hreach, hentry⟩ := (mem_iff_reaches hcs c).mp hc
  by_cases hwritten : name = resourcesKey → ∀ m, n ≠ .map m
  · exact .inr (.brought hreach hentry hwritten hx' hunder)
  · simp only [not_forall, not_not] at hwritten
    obtain ⟨rfl, resources, rfl⟩ := hwritten
    obtain ⟨-, hvalue⟩ := given_mapEntry hentry (by decide) (by decide +kernel) hx'
    have hroot : Path.hasSegment Path.root overridesKey = false := by decide
    simp only [mapValue, hroot, Bool.not_false, decide_true, Bool.and_self, ↓reduceIte, returns_bind,
      returns_pure] at hvalue
    obtain ⟨emitted, w, hsection, rfl, rfl⟩ := hvalue
    obtain ⟨_, node, he, hmem, hnode⟩ := hunder
    cases he
    have hinstance : Returns ((upTo k).instanceResources "" (Instance.ofSection resources env).body
        Path.root env (Instance.ofSection resources env).env) u emitted v := hsection
    obtain ⟨e, hemits, hkey, hetyped⟩ :=
      Emits.sound_of_inherited (Node.inherited_typed type) hinstance hmem
    by_cases hclassified : e.IsClassified
    · exact .inl (hemits.literal_of_classified hclassified (hetyped hnode))
    · exact .inr (.emitted hreach hemits hkey (hetyped hnode) hclassified)

theorem fails_map_of_misnames {resources : Mapping} {name type : String} {u : Sections}
    (hr : ReachesField k body env s resourcesKey (.map resources) u)
    (h : Misnames k (.ofSection resources env) (Path.root.child resourcesKey) u name type) :
    ∃ p trace t, Fails ((upTo k).map body Path.root env) s (.invalidResource name type p trace) t := by
  obtain ⟨l, _, p, trace, t, rfl, -, hfail⟩ := h.fails
  have hvalue : Fails ((upTo (l + 1)).mapValue resourcesKey (.map resources) Path.root env) u
      (.invalidResource name type p trace) t := by
    have hroot : Path.hasSegment Path.root overridesKey = false := by decide
    simp only [mapValue, hroot, Bool.not_false, decide_true, Bool.and_self, ↓reduceIte, fails_bind]
    exact .inl hfail
  have hentry : Fails ((upTo (l + 1)).mapEntry Path.root env resourcesKey (.map resources)) u
      (.invalidResource name type p trace) t := by
    have hb : isBookkeeping resourcesKey = false := by decide
    have hg : isMergeKey resourcesKey = false := by decide
    simp only [mapEntry, hb, hg, Bool.false_eq_true, ↓reduceIte, fails_bind]
    exact .inl hvalue
  exact ⟨p, trace, t, fails_map.mpr (hr.fails hentry)⟩

end Root

namespace Sections

def Headed (s : Sections) : Prop := ∀ heading ∈ Entries.keys s, heading ∈ hoisted

theorem headed_fold (heading : String) (hh : heading ∈ hoisted) (s : Sections) (value : Node)
    (naming : NameScope) (t : Sections) (hs : s.Headed)
    (h : fold s heading value naming = .ok t) : t.Headed := by
  rcases fold_eq_ok h with rfl | ⟨n, rfl⟩
  · exact hs
  · intro name hname
    rcases Entries.mem_keys_put.mp hname with hname | rfl
    · exact hs name hname
    · exact hh

end Sections

namespace Loading

variable {k limit : Nat} {resolver : Resolver}
  {graphs : Mapping → String → Progress → ImportGraph → Progress → Prop} {base : String}
  {p q : Progress} {scope final : Scope} {edges : List ImportEdge}
  (hn : ∀ m location p g q, graphs m location p g q → p.sections.Headed → q.sections.Headed)

include hn

theorem Defines.headed {defs : Mapping}
    (h : Defines ⟨.upTo k, resolver, limit⟩ graphs base defs scope p edges final q)
    (hp : p.sections.Headed) : q.sections.Headed := by
  induction h with
  | nil => exact hp
  | document _ loaded _ ih =>
    have hq := hn _ _ _ _ _ loaded hp
    exact ih hq
  | value _ evaluated _ ih => exact ih (keeps_node Sections.headed_fold hp evaluated)

theorem Imports.headed {c : Loader} {imports : Mapping}
    (h : Imports c graphs base imports scope p edges final q) (hp : p.sections.Headed) :
    q.sections.Headed := by
  induction h with
  | nil => exact hp
  | leaf _ _ _ _ ih => exact ih hp
  | node _ _ _ loaded _ ih =>
    have hq := hn _ _ _ _ _ loaded hp
    exact ih hq

end Loading

theorem Loader.Loads.headed {k limit depth : Nat} {resolver : Resolver} {m : Mapping}
    {location : String} {p q : Progress} {g : ImportGraph}
    (h : Loader.Loads ⟨.upTo k, resolver, limit⟩ depth m location p g q)
    (hp : p.sections.Headed) : q.sections.Headed := by
  induction depth generalizing m location p g q with
  | zero => exact h.elim
  | succ depth ih =>
    have hn : ∀ m location p g q, Loader.Loads ⟨.upTo k, resolver, limit⟩ depth m location p g q →
        p.sections.Headed → q.sections.Headed := fun _ _ _ _ _ => ih
    cases h with
    | intro _ _ _ _ defines binds => exact binds.headed hn (defines.headed hn hp)

theorem Assembly.find?_finalize (body : Mapping) (infrastructure : Bool) {s : Sections}
    (host : String) (records : List Record) (omitMetadata : Bool) {heading : String}
    (hb : isBookkeeping heading = false) (hs : heading ∉ Entries.keys s)
    (hv : heading ≠ formatVersionKey) (hm : heading ≠ metadataKey) :
    ∃ out, finalize body infrastructure s host records omitMetadata = .map out ∧
      Entries.find? heading out = (Entries.find? heading body).map Node.stripBookkeeping := by
  have hversion : Entries.find? heading (withFormatVersion body) = Entries.find? heading body := by
    unfold withFormatVersion
    split
    · rfl
    · rw [Entries.find?_cons, if_neg hv]
  have hsections : Entries.find? heading (withSections (withFormatVersion body) s) =
      Entries.find? heading body := (find?_withSections_of_not_mem hs).trans hversion
  have hmetadata (m : Mapping) : Entries.find? heading (withMetadata m host records) =
      Entries.find? heading m := by
    unfold withMetadata
    split
    · exact Entries.find?_put_of_ne hm ..
    · rfl
  refine ⟨_, rfl, ?_⟩
  rw [Node.find?_stripEntries hb]
  congr 1
  split
  · split
    · exact hsections
    · rw [hmetadata, hsections]
  · rfl

/-- Every resource in the output has a literal type if its type has been looked at. A resource that is
written out with a type that leads nowhere is in no output. -/
theorem resource_types_literal (k : Nat) (options : Options) (resolver : Resolver)
    (host location : String) (m : Mapping) :
    (∀ t p, Returns (Setting.transform ⟨options, resolver, host, .upTo k⟩ (.map m) location) .start
        t p →
      ∃ d q out, Returns (Loader.load ⟨.upTo k, resolver, options.limit⟩ m location) .start d q ∧
        t.document = .map out ∧ ∀ resources key n type,
          Entries.find? "Resources" out = some (.map resources) → (key, .map n) ∈ resources →
            Entries.find? "Type" n = some (.string type) → Resource.isLiteralType type = true ∨
              Unclassified k d.body (Env.root d.scope d.location options.limit) q.sections key type) ∧
    ∀ d q, Returns (Loader.load ⟨.upTo k, resolver, options.limit⟩ m location) .start d q →
      ∀ resources u name type,
        ReachesField k d.body (Env.root d.scope d.location options.limit) q.sections "Resources"
          (.map resources) u →
        Misnames k (.ofSection resources (Env.root d.scope d.location options.limit))
          (Path.root.child "Resources") u name type →
        ∃ path trace p, Fails (Setting.transform ⟨options, resolver, host, .upTo k⟩ (.map m) location)
          .start (.invalidResource name type path trace) p := by
  constructor
  · intro t p h
    simp only [Setting.transform, Setting.transformMap, returns_bind, Load.returns_ofEval, returns_get,
      returns_pure] at h
    obtain ⟨d, q, hd, body, _, ⟨s, hbody, rfl⟩, _, _, ⟨rfl, rfl⟩, rfl, rfl⟩ := h
    obtain ⟨g, hg, -⟩ := Loader.returns_loadWithin.mp hd
    have hloaded : q.sections.Headed := hg.headed fun _ hh => absurd hh List.not_mem_nil
    have hheaded : s.Headed := keeps_node Sections.headed_fold hloaded (returns_map_iff.mpr hbody)
    have hnot : "Resources" ∉ Entries.keys s := by
      intro hmem
      have hhoisted := hheaded _ hmem
      revert hhoisted
      decide
    obtain ⟨out, hout, hfind⟩ := Assembly.find?_finalize body (Assembly.isInfrastructure d.body) host
      q.records options.omitMetadata (by decide) hnot (by decide) (by decide)
    refine ⟨d, q, out, hd, hout, fun resources key n type hresources hn htype => ?_⟩
    rw [hfind] at hresources
    obtain ⟨x, hx, hstrip⟩ := Option.map_eq_some_iff.mp hresources
    have htyped : Node.Under key (Node.Typed type) x := by
      refine Node.Under.of_strip (P := Node.Typed type) (fun _ => Node.Typed.of_strip) ?_
      rw [hstrip]
      exact ⟨resources, .map n, rfl, hn, n, _, rfl, Entries.mem_of_find? htype, rfl⟩
    exact literal_or_unclassified hbody (Entries.mem_of_find? hx) htyped
  · intro d q hd resources u name type hr hmis
    obtain ⟨path, trace, t, hfail⟩ := fails_map_of_misnames hr hmis
    refine ⟨path, trace, { q with sections := t }, ?_⟩
    refine fails_bind.mpr (.inr ⟨d, q, hd, fails_bind.mpr (.inl ?_)⟩)
    exact Load.fails_ofEval.mpr ⟨t, hfail, rfl⟩

section Example

def ofNothing : Mapping := [("Type", .string "nothing")]

def resourceX (n : Node) : Mapping := [("Resources", .map [("X", n)])]

def nothingX : Node :=
  .map [(formatVersionKey, .string Assembly.formatVersion), ("Resources", .map [("X", .map ofNothing)])]

theorem resource_types_literal_logs :
    (∃ (d : Document) (q : Progress) (resources n : Mapping),
      Returns (quietly.transform (.map [stagedT, stagedLogs]) "a.yaml") .start
        ⟨.map [(formatVersionKey, .string Assembly.formatVersion), ("Resources", .map resources),
          stageLogs], []⟩ ⟨[stageLogs], [], 2⟩ ∧
      ("LogsBucket", .map n) ∈ resources ∧
      Entries.find? "Type" n = some (.string "AWS::S3::Bucket") ∧
      (Resource.isLiteralType "AWS::S3::Bucket" = true ∨ Unclassified 8 d.body
        (Env.root d.scope d.location 50) q.sections "LogsBucket" "AWS::S3::Bucket")) ∧
    ∃ path trace p, Fails (quietly.transform (.map (resourceX (.map ofNothing))) "a.yaml") .start
      (.invalidResource "X" "nothing" path trace) p := by
  constructor
  · have h : Returns (quietly.transform (.map [stagedT, stagedLogs]) "a.yaml") .start
        ⟨.map [(formatVersionKey, .string Assembly.formatVersion), bucketLogs, stageLogs], []⟩
        ⟨[stageLogs], [], 2⟩ := by
      with_unfolding_all exact rfl
    obtain ⟨d, q, out, -, hout, hall⟩ := (resource_types_literal 8 _ _ "" "a.yaml" _).1 _ _ h
    cases hout
    have hn := List.mem_singleton.mpr (rfl : ("LogsBucket", Node.map bucketMap) = _)
    exact ⟨d, q, _, bucketMap, h, hn, rfl, hall _ _ _ _ rfl hn rfl⟩
  · have hd : Returns (Loader.load ⟨.upTo 8, World.empty.resolver, quietly.options.limit⟩
        (resourceX (.map ofNothing)) "a.yaml") .start
        ⟨"a.yaml", resourceX (.map ofNothing), [], .empty⟩ .start := by
      with_unfolding_all exact rfl
    have hastray : (upTo 7).LeadsAstray "nothing" "Root.Resources.X" (Env.root .empty "a.yaml" 50) []
        [] := by
      refine .inr ⟨"nothing", "Root.Resources.X", [⟨"a.yaml", "Root"⟩], ?_⟩
      with_unfolding_all exact rfl
    have hmisnames : Misnames 8 (.ofSection [("X", .map ofNothing)] (Env.root .empty "a.yaml" 50))
        (Path.root.child "Resources") [] "X" "nothing" :=
      .entry ⟨[], [], [], rfl, rfl⟩ (by decide) (by decide) rfl rfl (by decide) hastray
    exact (resource_types_literal 8 _ _ "" "a.yaml" _).2 _ _ hd _ [] _ _ ⟨[], [], [], rfl, rfl⟩
      hmisnames

theorem resource_types_unresolved :
    Resource.isLiteralType "nothing" = false ∧
    (∃ p, Returns (quietly.transform (.map (resourceX (.tag (.apply .merge (.seq [.map ofNothing])))))
      "a.yaml") .start ⟨nothingX, []⟩ p) ∧
    (∃ p, Returns (quietly.transform (.map [("Resources", .map [("$mergeX", .map [("X",
      .map ofNothing)])])]) "a.yaml") .start ⟨nothingX, []⟩ p) ∧
    ∃ p, Returns (quietly.transform (.map ((defsKey, .map [("a::b::c", .string "nothing")]) ::
      resourceX (.map [("Type", .tag (.lookup "a::b::c"))]))) "a.yaml") .start ⟨nothingX, []⟩ p := by
  refine ⟨by decide, ⟨.start, ?_⟩, ⟨.start, ?_⟩, ⟨⟨[], [], 2⟩, ?_⟩⟩
  · with_unfolding_all exact rfl
  · with_unfolding_all exact rfl
  · with_unfolding_all exact rfl

end Example

end InfraTemplate
