import InfraTemplate.Proofs.Accumulation
import InfraTemplate.Proofs.Emission
import InfraTemplate.Proofs.PlainLoading
import InfraTemplate.Proofs.ScopeMonotonicity

namespace InfraTemplate

namespace Load

variable {α : Type}

def place (p : Progress) (s : Sections) : Progress := { p with sections := s }

abbrev Accumulating (m : Load α) (P : α → Prop) : Prop :=
  (Judgement.accumulating place).Gives (fun _ => m) P

theorem accumulating_ofExcept (r : Except Error α) : Accumulating (ofExcept r) fun _ => True :=
  gives_accumulating <| accumulates_of_run id (fun _ => r) (fun _ _ _ => trivial)
    fun _ _ => rfl

theorem accumulating_ofEval {m : Eval α} (h : Accumulates Eval.place m fun _ => True) :
    Accumulating (ofEval m) fun _ => True := by
  refine gives_accumulating fun p => ?_
  rcases h [] with hnone | ⟨r, q, cs, -, hrun⟩
  · left
    intro s
    change (m.run s).bind _ = none
    have hs : m.run s = none := hnone s
    rw [hs]
    rfl
  · refine .inr ⟨r, p, cs, fun _ _ => trivial, fun s => ?_⟩
    obtain ⟨t, ht, hs⟩ := hrun s
    refine ⟨t, ht, ?_⟩
    change (m.run s).bind _ = _
    have hs : m.run s = some (r, t) := hs
    rw [hs]
    rfl

theorem accumulating_bind1 (scope : Scope) (name : String) (b : Bound) :
    Accumulating (bind1 scope name b) fun _ => True :=
  gives_accumulating <| accumulates_of_run (fun p => { p with label := p.label + 1 })
    (fun p => .ok (scope.extend p.label [(name, b)])) (fun _ _ _ => trivial) fun _ _ => rfl

end Load

namespace Loading

open Load Judgement

variable {c : Loader} {location name : String} {scope : Scope} {n : Node}

theorem accumulating_fetch (target : String) :
    Accumulating (fetch c location name target) fun _ => True := by
  refine gives_accumulating fun p => .inr ?_
  cases hf : c.resolver p.records.length target location with
  | error e =>
    refine ⟨.error (.failedImport target location e), p, [], fun _ _ => trivial, fun s => ⟨s, rfl, ?_⟩⟩
    change Fails (fetch c location name target) (place p s) _ (place p s)
    simp only [fetch, fails_bind, fails_get, returns_get, false_or, fails_ofExcept]
    refine ⟨_, _, ⟨rfl, rfl⟩, .inl ⟨?_, rfl⟩⟩
    change (c.resolver p.records.length target location).mapError _ = _
    rw [hf]
    rfl
  | ok fetched =>
    let record : Record := ⟨name, location, fetched.resolved, digestText fetched.raw⟩
    refine ⟨.ok fetched, { p with records := p.records ++ [record] }, [], fun _ _ => trivial,
      fun s => ⟨s, rfl, ?_⟩⟩
    change Returns (fetch c location name target) (place p s) _ _
    simp only [fetch, returns_bind, returns_get, Load.returns_ofExcept, returns_set, returns_pure]
    refine ⟨_, _, ⟨rfl, rfl⟩, fetched, _, ⟨?_, rfl⟩, (), _, rfl, rfl, rfl⟩
    change (c.resolver p.records.length target location).mapError _ = _
    rw [hf]
    rfl

variable {nested : Mapping → String → Load Document} {Q : Document → Prop}

section

variable (hev : ∀ n path env, Accumulates Eval.place (c.evaluator.node n path env) fun _ => True)
  (hnested : ∀ m location, Accumulating (nested m location) fun _ => True)

include hnested

include hev in
theorem accumulating_define :
    Accumulating (define c nested location scope name n) fun _ => True := by
  refine Gives.bind (P := fun _ => True) ?_ fun value _ => accumulating_bind1 _ _ _
  unfold definition
  cases extended? n with
  | some m => exact (hnested m location).bind fun d _ => Gives.pure trivial
  | none => exact accumulating_ofEval (hev _ _ _)

theorem accumulating_addImport :
    Accumulating (addImport c nested location scope name n) fun _ => True := by
  unfold addImport
  refine (accumulating_ofExcept _).bind fun target _ => ?_
  refine (accumulating_fetch target).bind fun fetched _ => ?_
  cases extended? fetched.parsed with
  | some m =>
    simp only [map_eq_pure_bind, bind_assoc, pure_bind]
    exact (hnested m _).bind fun d _ => accumulating_bind1 _ _ _
  | none =>
    simp only [pure_bind]
    exact accumulating_bind1 _ _ _

include hev in
theorem accumulating_document (m : Mapping) :
    Accumulating (Loading.document c nested m location) fun d =>
      d.body = m.filter fun e => !isBookkeeping e.1 := by
  unfold Loading.document
  refine (accumulating_ofExcept _).bind fun defs _ => ?_
  refine (accumulating_ofExcept _).bind fun imports _ => ?_
  refine (accumulating_ofExcept _).bind fun params _ => ?_
  refine (accumulating_ofExcept _).bind fun _ _ => ?_
  refine (Gives.foldlM (I := fun _ => True) trivial fun _ _ _ _ =>
    accumulating_define hev hnested).bind fun defined _ => ?_
  refine (Gives.foldlM (I := fun _ => True) trivial fun _ _ _ _ =>
    accumulating_addImport hnested).bind fun scope _ => ?_
  exact Gives.pure rfl

end

end Loading

theorem Loader.accumulating_loadWithin {c : Loader}
    (hev : ∀ n path env, Accumulates Eval.place (c.evaluator.node n path env) fun _ => True) (k : Nat)
    (m : Mapping) (location : String) : Load.Accumulating (c.loadWithin k m location) fun d =>
      d.body = m.filter fun e => !isBookkeeping e.1 := by
  -- By induction on how deep documents may still be nested.
  induction k generalizing m location with
  | zero => exact (Judgement.accumulating Load.place).fail trivial
  | succ k ih =>
    refine Loading.accumulating_document hev (fun m location => ?_) m
    exact (ih m location).mono fun _ _ => trivial

namespace Entries

variable {α : Type} {name : String} {es more : Entries α} {a : α}

theorem find?_putAll_of_find? (hn : (keys more).Nodup) (h : find? name more = some a) :
    find? name (putAll es more) = some a := by
  rw [← ofPairs_of_nodup hn] at h
  exact find?_putAll_eq_some.mpr (.inl (find?_ofPairs_eq_some.mp h))

end Entries

theorem Node.find?_stripEntries {name : String} (h : isBookkeeping name = false) (m : Mapping) :
    Entries.find? name (stripEntries m) = (Entries.find? name m).map stripBookkeeping := by
  induction m with
  | nil => rfl
  | cons e m ih =>
    obtain ⟨k, n⟩ := e
    by_cases hk : name = k
    · subst hk
      simp [stripEntries, h, Entries.find?_cons]
    · rw [stripEntries, Entries.find?_cons, if_neg hk, ← ih]
      split
      · rfl
      · rw [Entries.find?_cons, if_neg hk]

namespace Sections

variable {heading name : String} {s t : Sections} {c : Addition} {cs : List Addition}
  {target section_ : Mapping}

/-- What an entry comes to in the output: its name is bare if the entry is marked as global and
qualified if not, and the marker is gone. -/
def emitted (naming : NameScope) : String × Node → String × Node
  | (name, .map entry) =>
    (if (Entries.find? "$global" entry).any Node.isTruthy then name else naming.qualify name,
      .map (entry.filter fun e => e.1 != "$global"))
  | (name, n) => (naming.qualify name, n)

theorem emitted_eq (naming : NameScope) (e : String × Node) :
    emitted naming e = (emittedName naming e.1 e.2, unmarked e.2) := by
  obtain ⟨name, n⟩ := e
  cases n <;> rfl

def Addition.given (heading : String) (c : Addition) : List (String × Node) :=
  match c.value with
  | .map entries => if c.heading = heading then entries.map (emitted c.naming) else []
  | _ => []

def given (heading : String) (cs : List Addition) : List (String × Node) :=
  cs.flatMap (Addition.given heading)

theorem addEntries_eq (naming : NameScope) (target entries : Mapping) :
    addEntries naming target entries = Entries.putAll target (entries.map (emitted naming)) := by
  simp only [addEntries, Entries.putAll, List.foldl_map, emitted_eq]

theorem addAll_cons : addAll s (c :: cs) = .ok t ↔
    ∃ u, fold s c.heading c.value c.naming = .ok u ∧ addAll u cs = .ok t := by
  rw [addAll, List.foldlM_cons, bind_eq_ok]
  rfl

theorem fold_eq_ok {value : Node} {naming : NameScope} (h : fold s heading value naming = .ok t) :
    t = s ∨ ∃ n, t = Entries.put heading n s := by
  unfold fold at h
  repeat' split at h
  all_goals first
    | cases h; exact .inl rfl
    | cases h; exact .inr ⟨_, rfl⟩
    | cases h

theorem nodup_fold {value : Node} {naming : NameScope} (hs : (Entries.keys s).Nodup)
    (h : fold s heading value naming = .ok t) : (Entries.keys t).Nodup := by
  rcases fold_eq_ok h with rfl | ⟨n, rfl⟩
  · exact hs
  · exact Entries.keys_put_nodup hs

theorem section_fold (hh : heading ≠ transformSection)
    (hs : (Entries.find? heading s).getD (.map []) = .map target)
    (h : fold s c.heading c.value c.naming = .ok t) :
    (Entries.find? heading t).getD (.map []) =
      .map (Entries.putAll target (c.given heading)) := by
  by_cases hc : c.heading = heading
  · unfold fold at h
    rw [hc, if_neg hh] at h
    cases hv : c.value with
    | null =>
      rw [hv] at h
      cases h
      simpa [Addition.given, hv, Entries.putAll] using hs
    | map entries =>
      simp only [hv, hs] at h
      cases h
      rw [Entries.find?_put_self, Option.getD_some, addEntries_eq, Addition.given, hv]
      simp only [hc, ↓reduceIte]
    | bool _ | number _ | string _ | seq _ | tag _ | document _ =>
      rw [hv] at h
      cases h
  · have hgiven : c.given heading = [] := by
      unfold Addition.given
      split
      · rw [if_neg hc]
      · rfl
    have hfind : Entries.find? heading t = Entries.find? heading s := by
      rcases fold_eq_ok h with rfl | ⟨n, rfl⟩
      · rfl
      · exact Entries.find?_put_of_ne (Ne.symm hc) ..
    rw [hfind, hgiven]
    exact hs

theorem section_addAll (hh : heading ≠ transformSection)
    (hs : (Entries.find? heading s).getD (.map []) = .map target) (h : addAll s cs = .ok t) :
    (Entries.find? heading t).getD (.map []) = .map (Entries.putAll target (given heading cs)) := by
  induction cs generalizing s target with
  | nil =>
    cases h
    exact hs
  | cons c cs ih =>
    obtain ⟨u, hu, ht⟩ := addAll_cons.mp h
    have hrest := ih (section_fold hh hs hu) ht
    have hgiven : given heading (c :: cs) = c.given heading ++ given heading cs := rfl
    rw [hrest, hgiven]
    simp only [Entries.putAll, List.foldl_append]

theorem nodup_addAll (hs : (Entries.keys s).Nodup) (h : addAll s cs = .ok t) :
    (Entries.keys t).Nodup := by
  induction cs generalizing s with
  | nil =>
    cases h
    exact hs
  | cons c cs ih =>
    obtain ⟨u, hu, ht⟩ := addAll_cons.mp h
    exact ih (nodup_fold hs hu) ht

theorem find?_addAll (hh : heading ≠ transformSection) (h : addAll [] cs = .ok t) {n : Node} :
    (∃ added, Entries.find? heading t = some (.map added) ∧ (Entries.keys added).Nodup ∧
      Entries.find? name added = some n) ↔
    ∃ before after, given heading cs = before ++ (name, n) :: after ∧ name ∉ Entries.keys after := by
  have hnil : (Entries.find? heading ([] : Sections)).getD (.map []) = .map [] := rfl
  have hsection := section_addAll hh hnil h
  rw [← Entries.find?_ofPairs_eq_some]
  constructor
  · rintro ⟨added, ht, -, hn⟩
    rw [ht] at hsection
    cases hsection
    exact hn
  · intro hn
    cases ht : Entries.find? heading t with
    | none =>
      -- Then nothing has been given to the section.
      rw [ht] at hsection
      simp only [Option.getD_none, Node.map.injEq] at hsection
      rw [Entries.ofPairs, ← hsection] at hn
      cases hn
    | some x =>
      rw [ht] at hsection
      cases hsection
      refine ⟨_, rfl, ?_, hn⟩
      have hempty : (Entries.keys ([] : Mapping)).Nodup := .nil
      exact Entries.keys_putAll_nodup hempty

end Sections

namespace Assembly

variable {body added : Mapping} {s : Sections} {heading name : String} {n : Node} {host : String}
  {records : List Record}

theorem find?_withSections_of_not_mem (h : heading ∉ Entries.keys s) :
    Entries.find? heading (withSections body s) = Entries.find? heading body := by
  induction s generalizing body with
  | nil => rfl
  | cons e s ih =>
    obtain ⟨k, x⟩ := e
    have hne : heading ≠ k ∧ heading ∉ Entries.keys s := by simpa [Entries.keys] using h
    change Entries.find? heading (withSections (Entries.put k _ body) s) = _
    rw [ih hne.2, Entries.find?_put_of_ne hne.1]

theorem find?_withSections (hs : (Entries.keys s).Nodup) (h : Entries.find? heading s = some n) :
    Entries.find? heading (withSections body s) =
      some (joined (Entries.find? heading body) n) := by
  induction s generalizing body with
  | nil => cases h
  | cons e s ih =>
    obtain ⟨k, x⟩ := e
    obtain ⟨hk, hrest⟩ := List.nodup_cons.mp hs
    change Entries.find? heading
      (withSections (Entries.put k (joined (Entries.find? k body) x) body) s) = _
    rw [Entries.find?_cons] at h
    split at h
    · rename_i he
      subst he
      cases h
      rw [find?_withSections_of_not_mem hk, Entries.find?_put_self]
    · rename_i hne
      rw [ih hrest h, Entries.find?_put_of_ne hne]

theorem find?_joined (hn : (Entries.keys added).Nodup) (h : Entries.find? name added = some n)
    (existing : Option Node) :
    ∃ m, joined existing (.map added) = .map m ∧ Entries.find? name m = some n := by
  unfold joined
  split
  · rename_i old new he
    cases he
    exact ⟨_, rfl, Entries.find?_putAll_of_find? hn h⟩
  · rename_i he
    cases he
  · rename_i he
    cases he
  · exact ⟨added, rfl, h⟩

theorem mem_keys_withSections {key : String} (h : key ∈ Entries.keys body) :
    key ∈ Entries.keys (withSections body s) := by
  induction s generalizing body with
  | nil => exact h
  | cons e s ih => exact ih (Entries.mem_keys_put.mpr (.inl h))

theorem mem_keys_withMetadata {key : String} (h : key ∈ Entries.keys body) :
    key ∈ Entries.keys (withMetadata body host records) := by
  unfold withMetadata
  split
  · exact Entries.mem_keys_put.mpr (.inl h)
  · exact h

theorem find?_withMetadata {m : Mapping} (h : Entries.find? heading body = some (.map m))
    (hn : Entries.find? name m = some n) (hne : heading = metadataKey → name ≠ renderKey) :
    ∃ m', Entries.find? heading (withMetadata body host records) = some (.map m') ∧
      Entries.find? name m' = some n := by
  unfold withMetadata
  by_cases hh : heading = metadataKey
  · subst hh
    rw [h]
    exact ⟨_, Entries.find?_put_self .., (Entries.find?_put_of_ne (hne rfl) ..).trans hn⟩
  · refine ⟨m, ?_, hn⟩
    split
    · rw [Entries.find?_put_of_ne hh, h]
    · exact h

theorem mem_keys_withFormatVersion (body : Mapping) :
    Evaluator.formatVersionKey ∈ Entries.keys (withFormatVersion body) := by
  unfold withFormatVersion
  split
  · rename_i h
    exact Entries.has_iff.mp h
  · exact List.mem_cons_self ..

theorem finalize_keeps (body : Mapping) (hs : (Entries.keys s).Nodup) (host : String)
    (records : List Record) (omitMetadata : Bool) :
    ∃ out, finalize body true s host records omitMetadata = .map out ∧
      Entries.has Evaluator.formatVersionKey out = true ∧
      ∀ heading added name n, Entries.find? heading s = some (.map added) →
        (Entries.keys added).Nodup → Entries.find? name added = some n →
        isBookkeeping heading = false → isBookkeeping name = false →
        (heading = metadataKey → name = renderKey → omitMetadata = true) →
        ∃ m, Entries.find? heading out = some (.map m) ∧
          Entries.find? name m = some n.stripBookkeeping := by
  have hfull : ∃ full, finalize body true s host records omitMetadata =
        (Node.map full).stripBookkeeping ∧ Evaluator.formatVersionKey ∈ Entries.keys full ∧
      ∀ heading added name n, Entries.find? heading s = some (.map added) →
        (Entries.keys added).Nodup → Entries.find? name added = some n →
        (heading = metadataKey → name = renderKey → omitMetadata = true) →
        ∃ m, Entries.find? heading full = some (.map m) ∧ Entries.find? name m = some n := by
    have hversion := mem_keys_withSections (s := s) (mem_keys_withFormatVersion body)
    have hjoined {heading name : String} {added : Mapping} {n : Node}
        (h : Entries.find? heading s = some (.map added)) (hn : (Entries.keys added).Nodup)
        (hf : Entries.find? name added = some n) : ∃ m,
          Entries.find? heading (withSections (withFormatVersion body) s) = some (.map m) ∧
            Entries.find? name m = some n := by
      obtain ⟨m, hm, hf⟩ := find?_joined hn hf (Entries.find? heading (withFormatVersion body))
      exact ⟨m, by rw [find?_withSections hs h, hm], hf⟩
    cases omitMetadata with
    | true => exact ⟨_, rfl, hversion, fun _ _ _ _ h hn hf _ => hjoined h hn hf⟩
    | false =>
      refine ⟨_, rfl, mem_keys_withMetadata hversion, fun heading added name n h hn hf hne => ?_⟩
      obtain ⟨m, hm, hf⟩ := hjoined h hn hf
      exact find?_withMetadata hm hf fun he hr => Bool.noConfusion (hne he hr)
  obtain ⟨full, hdocument, hversion, hentries⟩ := hfull
  refine ⟨Node.stripEntries full, hdocument, ?_, ?_⟩
  · rw [Entries.has, Node.find?_stripEntries (by decide), Option.isSome_map]
    exact Entries.has_iff.mpr hversion
  · intro heading added name n h hn hf hbh hbn hne
    obtain ⟨m, hm, hf⟩ := hentries heading added name n h hn hf hne
    refine ⟨Node.stripEntries m, ?_, ?_⟩
    · rw [Node.find?_stripEntries hbh, hm]
      rfl
    · rw [Node.find?_stripEntries hbn, hf]
      rfl

end Assembly

namespace Setting

def evaluated (c : Setting) (m : Mapping) (location : String) : Load (Document × Mapping) := do
  let d ← c.loader.load m location
  let body ← Load.ofEval
    (c.evaluator.map d.body Path.root (Env.root d.scope d.location c.options.limit))
  return (d, body)

def Adds (c : Setting) (m : Mapping) (location : String) (cs : List Sections.Addition) : Prop :=
  ∃ a p, ∀ s, ∃ t, Sections.addAll s cs = .ok t ∧
    Returns (c.evaluated m location) (Load.place .start s) a (Load.place p t)

variable {c : Setting} {m : Mapping} {location : String} {t : Transformed} {p : Progress}

theorem returns_transformMap (h : Returns (c.transformMap m location) .start t p) :
    ∃ d body, Returns (c.evaluated m location) .start (d, body) p ∧
      t = ⟨Assembly.finalize body (Assembly.isInfrastructure d.body) p.sections c.host p.records
        c.options.omitMetadata, p.records⟩ := by
  simp only [transformMap, returns_bind, returns_get, returns_pure] at h
  obtain ⟨d, q, hd, body, _, hb, _, _, ⟨rfl, rfl⟩, rfl, rfl⟩ := h
  refine ⟨d, body, ?_, rfl⟩
  simp only [evaluated, returns_bind, returns_pure]
  exact ⟨d, q, hd, body, _, hb, rfl, rfl⟩

theorem accumulating_evaluated (k : Nat) (options : Options) (resolver : Resolver) (host : String)
    (m : Mapping) (location : String) :
    Load.Accumulating (evaluated ⟨options, resolver, host, .upTo k⟩ m location) fun r =>
      r.1.body = m.filter fun e => !isBookkeeping e.1 := by
  unfold evaluated
  refine (Loader.accumulating_loadWithin (Evaluator.accumulates_node k) _ m location).bind
    fun d hd => ?_
  refine (Load.accumulating_ofEval (Evaluator.accumulates_map k _ _ _)).bind fun body _ => ?_
  exact Judgement.Gives.pure hd

end Setting

theorem Assembly.isInfrastructure_iff {m : Mapping} : isInfrastructure m = true ↔
    "AWSTemplateFormatVersion" ∈ Entries.keys m ∨ "Resources" ∈ Entries.keys m := by
  rw [isInfrastructure, Bool.or_eq_true, Entries.has_iff, Entries.has_iff]
  rfl

theorem Assembly.isInfrastructure_filter (m : Mapping) :
    isInfrastructure (m.filter fun e => !isBookkeeping e.1) = isInfrastructure m := by
  have hhas (key : String) (hk : isBookkeeping key = false) :
      Entries.has key (m.filter fun e => !isBookkeeping e.1) = Entries.has key m := by
    rw [Bool.eq_iff_iff, Entries.has_iff, Entries.has_iff]
    simp only [Entries.keys, List.mem_map, List.mem_filter]
    constructor
    · rintro ⟨e, ⟨he, -⟩, rfl⟩
      exact ⟨e, he, rfl⟩
    · rintro ⟨e, he, rfl⟩
      exact ⟨e, ⟨he, by rw [hk]; rfl⟩, rfl⟩
  rw [isInfrastructure, isInfrastructure, hhas _ (by decide), hhas _ (by decide)]

/-- The output of a document that is written as a template of the deployment service has a format
version, and the last entry that instances give to a section under a name. -/
theorem hoisted_sections_kept {k : Nat} {options : Options} {resolver : Resolver}
    {host location : String} {m : Mapping} {t : Transformed} {p : Progress}
    (h : Returns (Setting.transform ⟨options, resolver, host, .upTo k⟩ (.map m) location)
      .start t p)
    (hm : "AWSTemplateFormatVersion" ∈ Entries.keys m ∨ "Resources" ∈ Entries.keys m) :
    (∃ cs, Setting.Adds ⟨options, resolver, host, .upTo k⟩ m location cs) ∧
      ∃ out, t.document = .map out ∧ "AWSTemplateFormatVersion" ∈ Entries.keys out ∧
        ∀ cs, Setting.Adds ⟨options, resolver, host, .upTo k⟩ m location cs →
          ∀ heading ∈ ["Parameters", "Metadata", "Mappings", "Conditions", "Outputs"],
            ∀ before name n after, Sections.given heading cs = before ++ (name, n) :: after →
              name ∉ Entries.keys after → isBookkeeping name = false →
              (heading = "Metadata" → name = "StencilRender" → options.omitMetadata = true) →
              ∃ section_, Entries.find? heading out = some (.map section_) ∧
                Entries.find? name section_ = some n.stripBookkeeping := by
  obtain ⟨d, body, hrun, rfl⟩ := Setting.returns_transformMap h
  have hacc := accumulates_of_gives
    (Setting.accumulating_evaluated k options resolver host m location)
  rcases hacc .start with hnone | ⟨r, q, cs, hr, hall⟩
  · have hno : (Setting.evaluated ⟨options, resolver, host, .upTo k⟩ m location).run .start = none :=
      hnone []
    rw [Returns, hno] at hrun
    cases hrun
  · obtain ⟨s, hs, hstart⟩ := hall []
    have he : (Setting.evaluated ⟨options, resolver, host, .upTo k⟩ m location).run .start =
        some (r, Load.place q s) := hstart
    have hp := hrun.symm.trans he
    simp only [Option.some.injEq, Prod.mk.injEq] at hp
    obtain ⟨rfl, rfl⟩ := hp
    refine ⟨⟨cs, (d, body), q, hall⟩, ?_⟩
    have hbody : Assembly.isInfrastructure d.body = true := by
      rw [hr (d, body) rfl, Assembly.isInfrastructure_filter]
      exact Assembly.isInfrastructure_iff.mpr hm
    have hnodup : (Entries.keys (Load.place q s).sections).Nodup :=
      Sections.nodup_addAll (s := []) .nil hs
    rw [hbody]
    obtain ⟨out, hdocument, hversion, hkept⟩ := Assembly.finalize_keeps body hnodup host
      (Load.place q s).records options.omitMetadata
    refine ⟨out, hdocument, Entries.has_iff.mp hversion, ?_⟩
    rintro cs' ⟨a, q', hadds⟩ heading hheading before name n after hgiven hlast hb hmeta
    have hall : ∀ heading ∈ ["Parameters", "Metadata", "Mappings", "Conditions", "Outputs"],
        heading ≠ Sections.transformSection ∧ isBookkeeping heading = false := by decide
    obtain ⟨hne, hbh⟩ := hall heading hheading
    obtain ⟨s', hs', hrun'⟩ := hadds []
    obtain ⟨-, hq⟩ := Returns.unique hrun hrun'
    obtain ⟨added, hadded, hn, hf⟩ :=
      (Sections.find?_addAll hne hs').mpr ⟨before, after, hgiven, hlast⟩
    have hfound : Entries.find? heading (Load.place q s).sections = some (.map added) := by
      rw [hq]
      exact hadded
    exact hkept heading added name n hfound hn hf hbh hb hmeta

section Example

def definesT (sections : Mapping) : String × Node :=
  (defsKey, .map [("t", .map ((paramsKey, .seq []) :: sections))])

def stageMap : Mapping := [("Type", .string "String")]

def stagedT : String × Node :=
  definesT [("Parameters", .map [("Stage", .map stageMap)]),
    ("Resources", .map [("Bucket", .map bucketMap)])]

def stagedLogs : String × Node := ("Resources", .map [("Logs", .map typeT)])

def bucketLogs : String × Node := ("Resources", .map [("LogsBucket", .map bucketMap)])

def stageLogs : String × Node := ("Parameters", .map [("LogsStage", .map stageMap)])

abbrev quietly : Setting := ⟨⟨true, 50⟩, World.empty.resolver, "", .upTo 8⟩

theorem hoisted_sections_kept_stage :
    ∃ cs out section_, quietly.Adds [stagedT, stagedLogs] "a.yaml" cs ∧
      Returns (quietly.transform (.map [stagedT, stagedLogs]) "a.yaml") .start ⟨.map out, []⟩
        ⟨[stageLogs], [], 2⟩ ∧
      Entries.find? "Parameters" out = some (.map section_) ∧
        Entries.find? "LogsStage" section_ = some (.map stageMap) := by
  have h : Returns (quietly.transform (.map [stagedT, stagedLogs]) "a.yaml") .start
      ⟨.map [(Evaluator.formatVersionKey, .string Assembly.formatVersion), bucketLogs, stageLogs], []⟩
      ⟨[stageLogs], [], 2⟩ := by
    with_unfolding_all exact rfl
  obtain ⟨⟨cs, hcs⟩, out, hout, -, hkept⟩ := hoisted_sections_kept h (.inr (by decide))
  obtain ⟨d, body, hrun, -⟩ := Setting.returns_transformMap h
  obtain ⟨a, p, hall⟩ := id hcs
  obtain ⟨t, ht, hrun'⟩ := hall []
  obtain ⟨-, hp⟩ := Returns.unique hrun hrun'
  have hsections : t = [stageLogs] := (congrArg Progress.sections hp).symm
  subst hsections
  have hadded : ∃ added, Entries.find? "Parameters" [stageLogs] = some (.map added) ∧
      (Entries.keys added).Nodup ∧ Entries.find? "LogsStage" added = some (.map stageMap) :=
    ⟨[("LogsStage", .map stageMap)], rfl, by decide, rfl⟩
  obtain ⟨before, after, hgiven, hlast⟩ := (Sections.find?_addAll (by decide) ht).mp hadded
  obtain ⟨section_, hfound, hstage⟩ := hkept cs hcs "Parameters" (by decide) before _ _
    after hgiven hlast (by decide) (by decide)
  exact ⟨cs, out, section_, hcs, hout ▸ h, hfound, hstage⟩

/-- The output has neither a format version nor the parameter if a block brings the resources of the
document. What is written down about the rendering takes the place of an entry of the same name, and
bookkeeping keys do not come out. -/
theorem hoisted_sections_lost :
    Returns (quietly.transform (.map [stagedT, ("$mergeBase", .map [stagedLogs])]) "a.yaml") .start
        ⟨.map [bucketLogs], []⟩ ⟨[stageLogs], [], 2⟩ ∧
      Returns (Setting.transform { quietly with options := .standard }
          (.map [definesT [("Metadata", .map [("Render", .null)])],
            ("Resources", .map [("Stencil", .map typeT)])]) "a.yaml") .start
        ⟨.map [(Evaluator.formatVersionKey, .string Assembly.formatVersion), ("Resources", .map []),
          ("Metadata", .map [("StencilRender", Assembly.renderNode "" [])])], []⟩
        ⟨[("Metadata", .map [("StencilRender", .null)])], [], 2⟩ ∧
      Returns (quietly.transform (.map [definesT [("Outputs", .map [("defs", .null),
            ("Url", .tag (.apply .escape (.map [(importsKey, .null)])))])],
          ("Resources", .map [("$", .map typeT)])]) "a.yaml") .start
        ⟨.map [(Evaluator.formatVersionKey, .string Assembly.formatVersion), ("Resources", .map []),
          ("Outputs", .map [("$Url", .map [])])], []⟩
        ⟨[("Outputs", .map [(defsKey, .null), ("$Url", .map [(importsKey, .null)])])], [], 2⟩ := by
  refine ⟨?_, ?_, ?_⟩ <;> with_unfolding_all exact rfl

end Example

end InfraTemplate
