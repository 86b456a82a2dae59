import InfraTemplate.Proofs.LoadRun
import InfraTemplate.Proofs.Plainness
import InfraTemplate.Proofs.Written
import InfraTemplate.Transform

/-!
Loading, and the whole transformation, where evaluation is watched: what is bound is plain or a
document, and the output is plain. An unwatched run comes to the same.
-/

namespace InfraTemplate

def guards (spared : Node → Bool) (n : Node) (env : Env) : Bool :=
  match n with
  | .tag (.lookup expr) => !env.shares expr
  | .tag (.apply .escape payload) => payload.isPlainBut spared fun _ => true
  | _ => true

abbrev Evaluator.guarded (spared : Node → Bool) (k : Nat) : Evaluator := watched (guards spared) k

def Resolver.Plain (resolver : Resolver) : Prop :=
  ∀ turn target base fetched, resolver turn target base = .ok fetched → fetched.parsed.Written

theorem World.plain_resolver (w : World) : Resolver.Plain w.resolver :=
  fun _ _ _ _ => written_resolver

theorem Param.field?_mem {m : Mapping} {key : String} {n : Node} (h : field? m key = some n) :
    n ∈ (Node.map m).parts := by
  unfold field? at h
  split at h
  · rename_i x hx
    cases h
    exact Node.mem_parts_map (Entries.mem_of_find? hx)
  · exact Node.mem_parts_map (Entries.mem_of_find? h)

theorem Param.default_ofNode {n d : Node} {p : Param Node} (h : ofNode n = .ok p)
    (hd : p.default? = some d) : d ∈ n.parts := by
  unfold ofNode at h
  split at h
  · rename_i m
    split at h
    · rename_i name _
      have finish {allowedValues? : Option (List Node)}
          (h : (do
            let type? ← text? m "Type"
            let allowedPattern? ← text? m "AllowedPattern"
            return (⟨name, field? m "Default", type?, field? m "Schema", allowedValues?,
              allowedPattern?⟩ : Param Node)) = Except.ok (ε := Defect) p) : d ∈ (Node.map m).parts := by
        obtain ⟨_, -, h⟩ := bind_eq_ok.mp h
        obtain ⟨_, -, h⟩ := bind_eq_ok.mp h
        cases h
        exact field?_mem hd
      dsimp only at h
      split at h
      · exact finish h
      · exact finish h
      · cases h
    · cases h
  · cases h

theorem Param.default_listOfNodes {location : String} {i : Nat} {ns : List Node}
    {ps : List (Param Node)} (h : listOfNodes location i ns = .ok ps) :
    ∀ p ∈ ps, ∀ d, p.default? = some d → ∃ n ∈ ns, d ∈ n.parts := by
  induction ns generalizing i ps with
  | nil =>
    cases h
    exact fun _ hp => absurd hp List.not_mem_nil
  | cons n ns ih =>
    unfold listOfNodes at h
    split at h
    · rename_i p hp
      obtain ⟨rest, hrest, h⟩ := bind_eq_ok.mp h
      cases h
      intro q hq d hd
      rcases List.mem_cons.mp hq with rfl | hq
      · exact ⟨n, List.mem_cons_self .., default_ofNode hp hd⟩
      · obtain ⟨m, hm, hdm⟩ := ih hrest q hq d hd
        exact ⟨m, List.mem_cons_of_mem _ hm, hdm⟩
    · cases h

namespace Purity

def sparing (spared : Node → Bool) (h : ∀ d, spared (.document d) = false) : Purity where
  spared := spared
  key _ := true
  here _ := True
  spared_document := h
  key_plain _ _ := rfl
  here_scalar _ := trivial
  here_seq _ := trivial
  here_map _ := trivial
  key_computed _ _ _ := rfl
  key_of_document _ _ := rfl
  parsed _ _ _ _ hm _ := (Node.written_parse hm).undocumented fun _ hd => ⟨trivial, hd⟩

def loading (P : Purity) : Judgement Bool Progress :=
  .led false (fun ps => ∃ p : Progress, P.Sound p.sections ∧ ps = fun _ => p) False (fun _ => True)
    fun _ _ _ _ => trivial

abbrev Loads (P : Purity) {α : Type} (m : Bool → Load α) (Q : α → Prop) : Prop :=
  P.loading.Gives m Q

namespace Loads

variable {P : Purity} {α : Type} {Q : α → Prop}

theorem const {m : Load α} (h : ∀ p a q, P.Sound p.sections → Returns m p a q →
    Q a ∧ P.Sound q.sections) : P.Loads (fun _ => m) Q :=
  led_const (I := fun p : Progress => P.Sound p.sections) False.elim (fun hf => hf.elim) h

theorem ofExcept {r : Except Error α} (h : ∀ a, r = .ok a → Q a) :
    P.Loads (fun _ => Load.ofExcept r) Q := by
  refine const fun p a q hp hr => ?_
  obtain ⟨ha, rfl⟩ := Load.returns_ofExcept.mp hr
  exact ⟨h a ha, hp⟩

theorem ofEval {m : Bool → Eval α} (h : P.regime.Gives m Q) :
    P.Loads (fun b => Load.ofEval (m b)) Q := by
  rintro _ ⟨p, hp, rfl⟩
  refine ⟨fun a q hr => ?_, False.elim⟩
  obtain ⟨s, hs, rfl⟩ := Load.returns_ofEval.mp hr
  obtain ⟨_, _, ⟨b, hb, rfl⟩, ⟨t, ht, rfl⟩, hall⟩ := (h _ ⟨_, hp, rfl⟩).1 a s hs
  obtain ⟨rfl, rfl⟩ := hs.unique (hall false)
  exact ⟨_, _, ⟨a, hb, rfl⟩, ⟨{ p with sections := s }, ht, rfl⟩,
    fun i => Load.returns_ofEval.mpr ⟨s, hall i, rfl⟩⟩

end Loads

section Loading

open Loading Judgement

variable {P : Purity} (any : ∀ n, P.here n) {ev : Bool → Evaluator} {resolver : Resolver}
  {limit : Nat} {location name : String} {m : Mapping} {n : Node} {scope : Scope}

include any

theorem source_of_written (h : n.Written) : P.Source n := h.undocumented fun n hd => ⟨any n, hd⟩

theorem source_entries : P.Source (.map m) ↔ ∀ e ∈ m, P.Source e.2 := by
  rw [source_map]
  exact and_iff_right (any _)

theorem source_declared {key : String} {entries : Mapping} (hm : P.Source (.map m))
    (h : declared m key location = .ok entries) : ∀ e ∈ entries, P.Source e.2 := by
  unfold declared at h
  split at h
  · cases h
    exact fun _ he => absurd he List.not_mem_nil
  · cases h
    exact fun _ he => absurd he List.not_mem_nil
  · rename_i hf
    cases h
    exact (source_entries any).mp (hm.part (Node.mem_parts_map (Entries.mem_of_find? hf)))
  · cases h

omit any in
theorem source_defaults {ps : List (Param Node)} (hm : P.Source (.map m))
    (h : Param.declarations (Entries.find? paramsKey m) location = .ok ps) :
    ∀ p ∈ ps, ∀ d, p.default? = some d → P.Source d := by
  unfold Param.declarations at h
  split at h
  · cases h
    exact fun _ hp => absurd hp List.not_mem_nil
  · cases h
    exact fun _ hp => absurd hp List.not_mem_nil
  · rename_i items hf
    intro p hp d hd
    obtain ⟨n, hn, hdn⟩ := Param.default_listOfNodes h p hp d hd
    have hseq : P.Source (.seq items) := hm.part (Node.mem_parts_map (Entries.mem_of_find? hf))
    exact (hseq.part hn).part hdn
  · cases h

theorem source_document {ps : List (Param Node)} (hm : P.Source (.map m))
    (hp : ∀ p ∈ ps, ∀ d, p.default? = some d → P.Source d)
    (hs : scope.Throughout P.here P.Binding) :
    P.Source (.document ⟨location, m.filter fun (k, _) => !isBookkeeping k, ps, scope⟩) := by
  refine .intro (any _) (fun x hx => ?_) fun d hd => ?_
  · rcases List.mem_append.mp hx with hx | hx
    · obtain ⟨e, he, rfl⟩ := List.mem_map.mp hx
      exact (source_entries any).mp hm e (List.mem_of_mem_filter he)
    · obtain ⟨p, hmem, hd⟩ := List.mem_filterMap.mp hx
      exact hp p hmem x hd
  · cases hd
    exact hs

omit any in
theorem within_root (hs : scope.Throughout P.here P.Binding) :
    P.Within (Env.root scope location limit) :=
  ⟨hs, .inl rfl⟩

omit any in
theorem loads_bind1 {b : Bound} (hs : scope.Throughout P.here P.Binding)
    (hb : b.Throughout P.here P.Binding) :
    P.Loads (fun _ => Load.bind1 scope name b) fun s => s.Throughout P.here P.Binding := by
  refine Loads.const fun p s q hp hr => ?_
  obtain ⟨rfl, rfl⟩ := Load.returns_bind1.mp hr
  refine ⟨hs.extend fun e he => ?_, hp⟩
  cases List.mem_singleton.mp he
  exact hb

variable (hev : P.regime.Obeys ev) {nested : Bool → Mapping → String → Load Document}
  (hnested : ∀ m location, P.Source (.map m) →
    P.Loads (fun b => nested b m location) fun d => P.Source (.document d))

include hev hnested

omit any in
theorem loads_definition (hs : scope.Throughout P.here P.Binding) (hn : P.Source n) :
    P.Loads (fun b => definition ⟨ev b, resolver, limit⟩ (nested b) location scope name n)
      fun x => (Bound.value x).Throughout P.here P.Binding := by
  unfold definition
  cases hx : extended? n with
  | some m =>
    obtain rfl := eq_map_of_extended? hx
    refine (hnested m location hn).bind fun d hd => ?_
    exact Gives.pure (.value trivial hd)
  | none =>
    refine Loads.ofEval ((hev.node ⟨_, ⟨within_root hs, hn⟩, rfl⟩ ⟨_, rfl⟩).mono fun x hx => ?_)
    exact .value (binding_of_pure hx.1) hx.2

omit any in
theorem loads_define (hs : scope.Throughout P.here P.Binding) (hn : P.Source n) :
    P.Loads (fun b => define ⟨ev b, resolver, limit⟩ (nested b) location scope name n)
      fun s => s.Throughout P.here P.Binding :=
  (loads_definition hev hnested hs hn).bind fun _ hx => loads_bind1 hs hx

variable (hresolver : resolver.Plain)

include hresolver

omit hev hnested in
theorem loads_fetch {target : String} :
    P.Loads (fun b => fetch ⟨ev b, resolver, limit⟩ location name target)
      fun fetched => P.Source fetched.parsed := by
  refine Loads.const (m := fetch ⟨ev false, resolver, limit⟩ location name target) fun p a q hp h => ?_
  simp only [fetch, returns_bind, returns_get, Load.returns_ofExcept, returns_set, returns_pure] at h
  obtain ⟨_, _, ⟨rfl, rfl⟩, fetched, _, ⟨hf, rfl⟩, _, _, rfl, rfl, rfl⟩ := h
  exact ⟨source_of_written any (hresolver _ _ _ _ (mapError_eq_ok.mp hf)), hp⟩

omit hev in
theorem loads_addImport (hs : scope.Throughout P.here P.Binding) :
    P.Loads (fun b => addImport ⟨ev b, resolver, limit⟩ (nested b) location scope name n)
      fun s => s.Throughout P.here P.Binding := by
  unfold addImport
  refine (Loads.ofExcept (Q := fun _ => True) fun _ _ => trivial).bind fun target _ => ?_
  refine (loads_fetch any hresolver).bind fun fetched hf => ?_
  have bound {x : Node} (hx : P.Source x) :
      P.Loads (fun _ => Load.bind1 scope name (.raw x scope)) fun s => s.Throughout P.here P.Binding :=
    loads_bind1 hs (.raw trivial hx hs)
  cases hx : extended? fetched.parsed with
  | some m =>
    rw [eq_map_of_extended? hx] at hf
    simp only [map_eq_pure_bind, bind_assoc, pure_bind]
    exact (hnested m _ hf).bind fun d hd => bound hd
  | none =>
    simp only [pure_bind]
    exact bound hf

theorem loads_document (hm : P.Source (.map m)) :
    P.Loads (fun b => Loading.document ⟨ev b, resolver, limit⟩ (nested b) m location)
      fun d => P.Source (.document d) := by
  unfold Loading.document
  refine (Loads.ofExcept fun _ => source_declared any hm).bind fun defs hdefs => ?_
  refine (Loads.ofExcept (Q := fun _ => True) fun _ _ => trivial).bind fun imports _ => ?_
  refine (Loads.ofExcept fun _ => source_defaults hm).bind fun params hparams => ?_
  refine (Loads.ofExcept (Q := fun _ => True) fun _ _ => trivial).bind fun _ _ => ?_
  refine (Gives.foldlM .empty fun scope e he hs =>
    loads_define hev hnested hs (hdefs e he)).bind fun defined hd => ?_
  refine (Gives.foldlM hd fun scope e _ hs =>
    loads_addImport any hnested hresolver hs).bind fun scope hs => ?_
  exact Gives.pure (source_document any hm hparams hs)

omit hnested in
theorem loads_loadWithin (k : Nat) (hm : P.Source (.map m)) :
    P.Loads (fun b => Loader.loadWithin ⟨ev b, resolver, limit⟩ k m location)
      fun d => P.Source (.document d) := by
  -- By induction on how deep documents may still be nested.
  induction k generalizing m location with
  | zero => exact P.loading.fail trivial
  | succ k ih =>
    unfold Loader.loadWithin
    exact loads_document any hev (fun m location hm => ih hm) hresolver hm

end Loading

end Purity

namespace Assembly

section

variable (spared : Node → Bool)

def Loose (n : Node) : Prop := n.isPlainBut spared (fun _ => true) = true

variable {spared} {body : Mapping} {s : Sections} {key : String → Bool} {n : Node}

theorem loose_map {m : Mapping} : Loose spared (.map m) ↔ ∀ e ∈ m, Loose spared e.2 := by
  rw [Loose, Node.isPlainBut_map]
  exact forall₂_congr fun _ _ => and_iff_right rfl

theorem loose_put {name : String} (hb : Loose spared (.map body)) (hn : Loose spared n) :
    Loose spared (.map (Entries.put name n body)) :=
  loose_map.mpr (Entries.forall_put (P := fun e => Loose spared e.2) (loose_map.mp hb) hn)

theorem loose_withFormatVersion (hb : Loose spared (.map body)) :
    Loose spared (.map (withFormatVersion body)) := by
  unfold withFormatVersion
  split
  · exact hb
  · refine loose_map.mpr fun e he => ?_
    rcases List.mem_cons.mp he with rfl | he
    · exact Node.isPlainBut_scalar rfl
    · exact loose_map.mp hb e he

theorem loose_joined {existing : Option Node} (he : ∀ old, existing = some old → Loose spared old)
    (hn : Loose spared n) : Loose spared (joined existing n) := by
  unfold joined
  split
  · rename_i old new
    exact loose_map.mpr (Entries.forall_putAll (P := fun e => Loose spared e.2)
      (loose_map.mp (he _ rfl)) (loose_map.mp hn))
  · rename_i old new
    refine Node.isPlainBut_seq.mpr fun x hx => ?_
    rcases Purity.mem_addMissing hx with hx | hx
    · exact Node.isPlainBut_seq.mp (he _ rfl) x hx
    · exact Node.isPlainBut_seq.mp hn x hx
  · rename_i text new
    refine Node.isPlainBut_seq.mpr fun x hx => ?_
    split at hx
    · exact Node.isPlainBut_seq.mp hn x hx
    · rcases List.mem_cons.mp hx with rfl | hx
      · exact Node.isPlainBut_scalar rfl
      · exact Node.isPlainBut_seq.mp hn x hx
  · exact hn

theorem loose_withSections (hb : Loose spared (.map body)) (hs : ∀ e ∈ s, Loose spared e.2) :
    Loose spared (.map (withSections body s)) := by
  unfold withSections
  induction s generalizing body with
  | nil => exact hb
  | cons e s ih =>
    obtain ⟨name, n⟩ := e
    have hn : Loose spared n := hs _ (List.mem_cons_self ..)
    refine ih (loose_put hb (loose_joined (fun old ho => ?_) hn)) fun e he =>
      hs e (List.mem_cons_of_mem _ he)
    exact Entries.of_find? (P := fun e => Loose spared e.2) (loose_map.mp hb) ho

theorem loose_renderNode (host : String) (records : List Record) :
    Loose spared (renderNode host records) := by
  have record (r : Record) : Loose spared (recordNode r) := rfl
  have imports : Loose spared (.seq (records.map recordNode)) := by
    refine Node.isPlainBut_seq.mpr fun x hx => ?_
    obtain ⟨r, -, rfl⟩ := List.mem_map.mp hx
    exact record r
  refine loose_map.mpr fun e he => ?_
  rcases List.mem_pair.mp he with rfl | rfl
  · exact Node.isPlainBut_scalar rfl
  · exact imports

theorem loose_withMetadata {host : String} {records : List Record}
    (hb : Loose spared (.map body)) : Loose spared (.map (withMetadata body host records)) := by
  unfold withMetadata
  split
  · rename_i m hm
    refine loose_put hb (loose_put ?_ (loose_renderNode host records))
    cases hf : Entries.find? metadataKey body with
    | none =>
      rw [hf] at hm
      cases hm
      rfl
    | some n =>
      rw [hf] at hm
      cases hm
      exact Entries.of_find? (P := fun e => Loose spared e.2) (loose_map.mp hb) hf
  · exact hb

theorem isPlainBut_finalize (hk : ∀ k, isBookkeeping k = false → key k = true)
    (hb : Loose spared (.map body)) (hs : ∀ e ∈ s, Loose spared e.2) (infrastructure : Bool)
    (host : String) (records : List Record) (omitMetadata : Bool) :
    (finalize body infrastructure s host records omitMetadata).isPlainBut spared key = true := by
  refine Node.isPlainBut_strip hk _ ?_
  split
  · have hsections := loose_withSections (loose_withFormatVersion hb) hs
    split
    · exact hsections
    · exact loose_withMetadata hsections
  · exact hb

end

end Assembly

namespace Purity

variable {spared : Node → Bool} {h : ∀ d, spared (.document d) = false}

theorem permits_of_guards {n : Node} {e : Env} (hn : (sparing spared h).Source n)
    (hg : guards spared n e = true) : (sparing spared h).regime.Permits n fun _ => e where
  lookup expr he := by
    subst he
    simp only [guards, Bool.not_eq_true'] at hg
    exact Bool.eq_false_iff.mp hg
  escape payload he := by
    subst he
    exact ⟨hg, hn.part (List.mem_singleton_self _)⟩

def guarding (spared : Node → Bool) (k : Nat) (b : Bool) : Evaluator :=
  .watched (bif b then fun _ _ => true else guards spared) k

theorem obeys_guarding (k : Nat) : (sparing spared h).regime.Obeys (guarding spared k) :=
  (sparing spared h).obeys (guards spared) (fun _ hn hg => permits_of_guards hn hg) k

theorem sound_start : (sparing spared h).Sound Progress.start.sections :=
  fun _ _ he => absurd he List.not_mem_nil

theorem Loads.unguarded {α : Type} {f : Evaluator → Load α} {Q : α → Prop} {k : Nat} {a : α}
    {p : Progress} (hf : (sparing spared h).Loads (fun b => f (guarding spared k b)) Q)
    (ha : Returns (f (.guarded spared k)) .start a p) : Returns (f (.upTo k)) .start a p ∧ Q a := by
  obtain ⟨_, _, ⟨b, hb, rfl⟩, ⟨q, -, rfl⟩, hall⟩ := (hf _ ⟨_, sound_start, rfl⟩).1 a p ha
  obtain ⟨rfl, rfl⟩ := ha.unique (hall false)
  refine ⟨?_, hb⟩
  rw [← Evaluator.watched_true]
  exact hall true

variable {options : Options} {resolver : Resolver} (hresolver : resolver.Plain)
  {host location : String} {k : Nat}

include hresolver

theorem loads_transformMap {key : String → Bool} (hk : ∀ k, isBookkeeping k = false → key k = true)
    {m : Mapping} (hm : (Node.map m).Written) :
    (sparing spared h).Loads
      (fun b => Setting.transformMap ⟨options, resolver, host, guarding spared k b⟩ m location)
      fun t => t.document.isPlainBut spared key = true := by
  have any (n : Node) : (sparing spared h).here n := trivial
  have hload : (sparing spared h).Loads
      (fun b => (Setting.loader ⟨options, resolver, host, guarding spared k b⟩).load m location)
      fun d => (sparing spared h).Source (.document d) :=
    loads_loadWithin any (obeys_guarding k) hresolver _ (source_of_written any hm)
  unfold Setting.transformMap
  refine hload.bind fun d hd => ?_
  have hopen : (sparing spared h).regime.Open fun _ => Env.root d.scope d.location options.limit :=
    open_of_within (within_root hd.captured)
  have hready := Discipline.ready_of_open (D := (sparing spared h).discipline) hopen
    (Discipline.source_body _ hd)
  refine (Loads.ofEval (Discipline.map (D := (sparing spared h).discipline) (obeys_guarding k)
    (Discipline.readyEntries hready) ⟨_, rfl⟩)).bind fun body hbody => ?_
  refine Loads.const fun p t q hp hr => ?_
  simp only [returns_bind, returns_get, returns_pure] at hr
  obtain ⟨_, _, ⟨rfl, rfl⟩, rfl, rfl⟩ := hr
  exact ⟨Assembly.isPlainBut_finalize hk hbody.1 (fun e he => (hp (fun _ => rfl) e he).1) .., hp⟩

theorem loads_transform {root : Node} (hr : root.Written) :
    (sparing spared h).Loads
      (fun b => Setting.transform ⟨options, resolver, host, guarding spared k b⟩ root location)
      fun t => Assembly.Loose spared t.document := by
  unfold Setting.transform
  split
  · exact loads_transformMap hresolver (fun _ _ => rfl) hr
  · have hcall : (sparing spared h).regime.Call root fun _ =>
        Env.root .empty location options.limit :=
      ⟨_, ⟨within_root .empty, source_of_written (fun _ => trivial) hr⟩, rfl⟩
    refine (Loads.ofEval ((obeys_guarding k).node hcall ⟨_, rfl⟩)).bind fun n hn => ?_
    exact Judgement.Gives.pure hn.1

end Purity

end InfraTemplate
