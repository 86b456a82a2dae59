import InfraTemplate.Proofs.Discipline.Template

namespace InfraTemplate

theorem Env.lead_congr {e e' : Env} (h : e.naming? = e'.naming?) : e.lead = e'.lead := by
  rw [lead, lead, h]

mutual

theorem Resource.qualifyNames_congr {e e' : Env} (h : e.naming? = e'.naming?) :
    (n : Node) → Resource.qualifyNames e n = Resource.qualifyNames e' n
  | .string name => by rw [qualifyNames, qualifyNames, Env.qualify_congr h]
  | .seq items => by rw [qualifyNames, qualifyNames, qualifyNamesIn_congr h]
  | .null | .bool _ | .number _ | .map _ | .tag _ | .document _ => rfl

theorem Resource.qualifyNamesIn_congr {e e' : Env} (h : e.naming? = e'.naming?) :
    (xs : List Node) → Resource.qualifyNamesIn e xs = Resource.qualifyNamesIn e' xs
  | [] => rfl
  | x :: xs => by rw [qualifyNamesIn, qualifyNamesIn, qualifyNames_congr h, qualifyNamesIn_congr h]

end

theorem Resource.qualifyNamed_congr {e e' : Env} (h : e.naming? = e'.naming?) (m : Mapping) :
    Resource.qualifyNamed e m = Resource.qualifyNamed e' m := by
  simp only [qualifyNamed, h, qualifyNames_congr h]

def Resource.kindOf (name type : String) (path : Path) (env : Env) (at_ : Located) :
    Eval ResourceKind :=
  match at_.node with
  | .document d => return .template type d
  | _ => throw (.invalidResource name type path env.stack)

theorem Eval.bind_reporting {α β : Type} (m : Eval α) (e : Error) (f : α → Eval β) :
    (do
      let found ← tryCatch (some <$> m) fun
        | .undefined .. => return none
        | e => throw e
      match found with
      | some a => f a
      | none => throw e) = reporting e m >>= f := by
  funext s
  change ((((m.run s).bind _).bind _).bind _) = (reporting e m >>= f).run s
  rw [run_bind, run_reporting]
  cases m.run s with
  | none => rfl
  | some p =>
    obtain ⟨r, t⟩ := p
    cases r with
    | ok a => rfl
    | error e' => cases e' <;> rfl

theorem Evaluator.classify_eq (ev : Evaluator) (name : String) (m : Mapping) (path : Path)
    (env : Env) :
    ev.classify name m path env =
      (match Entries.find? "Type" m with
      | none => return .literal
      | some type => do
        let type ← ev.resourceType type path env
        if Resource.isLiteralType type then return .literal
        else
          reporting (.invalidResource name type path env.stack) (ev.locate type path env) >>=
            Resource.kindOf name type path env) := by
  unfold classify
  cases Entries.find? "Type" m with
  | none => rfl
  | some type =>
    refine bind_congr fun type => ?_
    split
    · rfl
    -- An undefined template is caught and thrown again only after the lookup has come back.
    · rw [← Eval.bind_reporting]
      refine bind_congr fun found => ?_
      cases found with
      | none => rfl
      | some at_ =>
        obtain ⟨n, inner, evaluated⟩ := at_
        cases n <;> rfl

namespace Discipline

open Judgement

variable {ι : Type} {D : Discipline ι} {ev : ι → Evaluator} {env : ι → Env} {path : ι → Path}
  {m : Mapping} {n : Node} {name key : String}

theorem mergeBlock (hev : D.Obeys ev) (hw : D.Within env) (hp : D.Along path) (hn : D.Call n env) :
    D.Gives (fun i => (ev i).mergeBlock key n (path i) (env i)) fun out => D.Value (.map out) := by
  refine (hev.node hn hp).bind fun out ho => ?_
  cases out with
  | map m => exact Gives.pure ho
  | null => exact Gives.pure D.value_empty
  | bool _ | number _ | string _ | seq _ | tag _ | document _ => exact D.malformed hw hp _ _ _

theorem value_calendarDate (h : D.Value n) : D.Value (Evaluator.calendarDate n) := by
  cases n with
  | string s =>
    simp only [Evaluator.calendarDate]
    split
    · split
      · exact D.value_string _
      · exact h
    · exact h
  | null | bool _ | number _ | seq _ | map _ | tag _ | document _ => exact h

theorem mapValue (hev : D.Obeys ev) (hp : D.Along path) (hn : D.Call n env) :
    D.Gives (fun i => (ev i).mapValue key n (path i) (env i)) D.Value := by
  obtain ⟨inOverrides, hover⟩ := D.along_overrides hp
  have hc := D.along_child hp key
  simp only [Evaluator.mapValue, hover]
  split
  · cases n with
    | map resources =>
      refine (hev.resources hn hc).bind fun out ho => ?_
      exact Gives.pure ho
    | null | bool _ | number _ | string _ | seq _ | tag _ | document _ => exact hev.node hn hc
  · split
    · refine (hev.node hn hc).bind fun out ho => ?_
      exact Gives.pure (value_calendarDate ho)
    · exact hev.node hn hc

theorem key_entry (h : D.ReadyEntries m env) {e : String × Node} (he : e ∈ m)
    (hb : ¬isBookkeeping e.1 = true) : D.Key e.1 := by
  cases hp : Interpolation.hasPlaceholders e.1 with
  | true => exact h.key e he hp _
  | false => exact D.key (Bool.eq_false_iff.mpr hb) hp

theorem mapEntry (hev : D.Obeys ev) (h : D.ReadyEntries m env) (hp : D.Along path)
    {e : String × Node} (he : e ∈ m) :
    D.Gives (fun i => (ev i).mapEntry (path i) (env i) e.1 e.2) D.Adds := by
  have hc := D.along_child hp e.1
  unfold Evaluator.mapEntry
  split
  · exact Gives.pure trivial
  · rename_i hb
    split
    · refine (mergeBlock hev h.within hc (h.call e he)).bind fun out ho => ?_
      exact Gives.pure ho
    · refine (mapValue hev hp (h.call e he)).bind fun value hv => ?_
      refine (interpolated hev h.within hc h.ask e.1).bind fun key hk => Gives.pure ⟨?_, hv⟩
      cases hph : Interpolation.hasPlaceholders e.1 with
      | true => exact h.key e he hph key
      | false =>
        rw [hk hph]
        exact key_entry h he hb

theorem value_addTo {out : Mapping} {c : Contribution} (ho : D.Value (.map out)) (hc : D.Adds c) :
    D.Value (.map (c.addTo out)) := by
  cases c with
  | nothing => exact ho
  | merged m => exact D.value_deepMerge ho hc
  | entry key n => exact D.value_put ho hc.1 hc.2
  | entries m =>
    exact D.value_map.mpr (Entries.forall_putAll (D.value_map.mp ho) (D.value_map.mp hc))

theorem value_assemble {cs : List Contribution} (h : ∀ c ∈ cs, D.Adds c) :
    D.Value (.map (Contribution.assemble cs)) := by
  have folded (out : Mapping) (ho : D.Value (.map out)) :
      D.Value (.map (cs.foldl Contribution.addTo out)) := by
    induction cs generalizing out with
    | nil => exact ho
    | cons c cs ih =>
      exact ih (fun c' hc' => h c' (List.mem_cons_of_mem _ hc')) _
        (value_addTo ho (h c (List.mem_cons_self ..)))
  exact folded [] D.value_empty

theorem map (hev : D.Obeys ev) (h : D.ReadyEntries m env) (hp : D.Along path) :
    D.Gives (fun i => (ev i).map m (path i) (env i)) fun out => D.Value (.map out) := by
  refine Gives.map _ (Gives.mapM (Q := D.Adds) ?_) fun cs hcs => value_assemble hcs
  intro e he
  exact mapEntry hev h hp he

theorem resourceType (hev : D.Obeys ev) (hw : D.Within env) (hp : D.Along path)
    (ha : ∀ expr, D.Ask expr env) (hn : D.Call n env) :
    D.Gives (fun i => (ev i).resourceType n (path i) (env i)) fun _ => True := by
  have hc := D.along_child hp "Type"
  cases n with
  | string s => exact (interpolated hev hw hp ha s).mono fun _ _ => trivial
  | tag t =>
    cases t with
    | lookup expr => exact Gives.pure trivial
    | expand _ _ | apply _ _ | pair _ _ _ | choose _ _ _ | letIn _ _ | loop _ _ | groupBy _ =>
      refine (hev.node hn hc).bind fun _ _ => ?_
      exact Gives.pure trivial
  | null | bool _ | number _ | seq _ | map _ | document _ =>
    refine (hev.node hn hc).bind fun _ _ => ?_
    exact Gives.pure trivial

theorem classify (hev : D.Obeys ev) (h : D.ReadyEntries m env) (hp : D.Along path) :
    D.Gives (fun i => (ev i).classify name m (path i) (env i)) fun kind =>
      ∀ type d, kind = .template type d → D.Source (.document d) := by
  simp only [Evaluator.classify_eq]
  cases hf : Entries.find? "Type" m with
  | none => exact Gives.pure nofun
  | some type =>
    have hc := h.call _ (Entries.mem_of_find? hf)
    refine (resourceType hev h.within hp h.ask hc).bind fun type _ => ?_
    have invalid := D.fault h.within hp (fun p e => .invalidResource name type p e.stack)
      ⟨fun _ _ _ _ => rfl, fun _ _ => nofun, fun _ _ => .inl rfl⟩
    split
    · exact Gives.pure nofun
    · refine D.bind (D.report (locate_of_obeys hev h.within hp h.ask) invalid) fun at_ hat => ?_
      obtain ⟨n, hn, he⟩ := leads_node hat
      simp only [Resource.kindOf, he]
      cases n with
      | document d =>
        refine Gives.pure ?_
        rintro _ _ ⟨⟩
        exact hn
      | null | bool _ | number _ | string _ | seq _ | map _ | tag _ => exact D.fail invalid

mutual

theorem value_qualifyNames (e : Env) : (n : Node) → D.Value n → D.Value (Resource.qualifyNames e n)
  | .string name, _ => by
    rw [Resource.qualifyNames]
    exact D.value_string _
  | .seq xs, h => by
    rw [Resource.qualifyNames, D.value_seq]
    exact value_qualifyNamesIn e xs (D.value_seq.mp h)
  | .null, h | .bool _, h | .number _, h | .map _, h | .tag _, h | .document _, h => by
    simpa only [Resource.qualifyNames] using h

theorem value_qualifyNamesIn (e : Env) : (xs : List Node) → (∀ x ∈ xs, D.Value x) →
    ∀ x ∈ Resource.qualifyNamesIn e xs, D.Value x
  | [], h => h
  | x :: xs, h => by
    rw [Resource.qualifyNamesIn]
    intro y hy
    rcases List.mem_cons.mp hy with rfl | hy
    · exact value_qualifyNames e x (h x (List.mem_cons_self ..))
    · exact value_qualifyNamesIn e xs (fun z hz => h z (List.mem_cons_of_mem _ hz)) y hy

end

theorem value_qualifyNamed (e : Env) (h : D.Value (.map m)) :
    D.Value (.map (Resource.qualifyNamed e m)) := by
  unfold Resource.qualifyNamed
  split
  · exact h
  · rw [D.value_map]
    intro x hx
    obtain ⟨y, hy, rfl⟩ := List.mem_map.mp hx
    obtain ⟨hk, hv⟩ := D.value_map.mp h y hy
    refine ⟨hk, ?_⟩
    dsimp only
    split
    · exact value_qualifyNames e _ hv
    · exact hv

theorem literal (hev : D.Obeys ev) (h : D.ReadyEntries m env) (hp : D.Along path)
    (hk : D.Key name) :
    D.Gives (fun i => (ev i).literal name m (path i) (env i)) fun p => D.Key p.1 ∧ D.Value p.2 := by
  have h' : D.ReadyEntries (Sections.takeGlobal m).1 env :=
    ⟨h.within, fun e he => h.call e (List.mem_of_mem_filter he),
      fun e he => h.key e (List.mem_of_mem_filter he), h.ask⟩
  obtain ⟨e, he, hq⟩ := D.naming h.within
  simp only [Evaluator.literal, Resource.qualifyNamed_congr (he _), Env.qualify_congr (he _)]
  refine (map hev h' hp).bind fun body hb => Gives.pure ⟨?_, value_qualifyNamed e hb⟩
  dsimp only
  split
  · exact hk
  · exact hq _ hk

theorem instanceMap (hev : D.Obeys ev) (h : D.ReadyEntries m env) (hp : D.Along path) :
    D.Gives (fun i => (ev i).instanceMap key m (path i) (env i)) fun out => D.Value (.map out) := by
  unfold Evaluator.instanceMap
  cases hf : Entries.find? key m with
  | none => exact Gives.pure D.value_empty
  | some n =>
    refine (hev.node (h.call _ (Entries.mem_of_find? hf)) (D.along_child hp key)).bind
      fun out ho => ?_
    cases out with
    | map m => exact Gives.pure ho
    | null => exact Gives.pure D.value_empty
    | bool _ | number _ | string _ | seq _ | tag _ | document _ =>
      exact D.malformed h.within hp _ _ _

theorem ownLead (hev : D.Obeys ev) (h : D.ReadyEntries m env) (hp : D.Along path) :
    D.Gives (fun i => (ev i).ownLead name m (path i) (env i)) fun _ => True := by
  unfold Evaluator.ownLead
  cases hf : Entries.find? "NamePrefix" m with
  | none => exact Gives.pure trivial
  | some n =>
    refine (hev.node (h.call _ (Entries.mem_of_find? hf)) (D.along_child hp _)).bind fun _ _ => ?_
    exact Gives.pure trivial

section Instances

variable {d : Document} {body : Mapping} {inner : ι → Env}

def Inhabits (D : Discipline ι) (instances : ι → Instance) : Prop :=
  ∃ (body : Mapping) (naming : NameScope) (inner : ι → Env), D.Source (.map body) ∧ D.Open inner ∧
    instances = fun i => ⟨body, naming, inner i⟩

section Hosting

variable {names templates : ι → String} (entries : ι → Mapping)

theorem instanceOf (hev : D.Obeys ev) (h : D.Hosts d names templates path env)
    (hd : D.Source (.document d))
    (hl : D.Gives (fun i => (ev i).ownLead (names i) (entries i) (path i) (env i)) fun _ => True)
    (ho : D.Gives (fun i => (ev i).instanceMap Evaluator.overridesKey (entries i) (path i) (env i))
      fun out => D.Value (.map out))
    (hps : D.Gives (fun i => (ev i).instanceMap "Properties" (entries i) (path i) (env i))
      fun out => D.Value (.map out)) :
    D.Holds (fun i => (ev i).instanceOf (names i) (entries i) d (path i) (env i)) D.Inhabits := by
  obtain ⟨e, he⟩ := h.naming
  simp only [Evaluator.instanceOf, Env.lead_congr (he _)]
  refine hl.bind fun own _ => ho.bind fun overrides ho => hps.bind fun properties hps => ?_
  refine (bindParams hev h hd hps _ ⟨_, fun _ => rfl⟩).bind
    fun values hv => ?_
  refine D.bind (h.enters _ ?_) fun inner hi => D.ret ?_
  · intro b hb
    rcases List.mem_cons.mp hb with rfl | hb
    · exact ⟨_, D.value_string _, rfl⟩
    · exact hv b hb
  · exact ⟨_, _, _, D.source_merge hd ho, hi.2 _, rfl⟩

theorem hoist (hev : D.Obeys ev) (h : D.Hosts d names templates path env)
    (hb : D.Source (.map body)) (hi : D.Open inner) (naming : NameScope) {heading : String}
    (hh : heading ∈ Sections.hoisted) :
    D.Gives (fun i => (ev i).hoist body (path i) (env i) (inner i) naming heading)
      fun _ => True := by
  unfold Evaluator.hoist
  cases hf : Entries.find? heading body with
  | none => exact Gives.pure trivial
  | some n =>
    have hn := D.source_part hb (Node.mem_parts_map (Entries.mem_of_find? hf))
    refine (hev.node (hi.call n hn) (D.along_child h.along _)).bind fun value hv => ?_
    exact h.addSection hv heading hh naming

theorem instanceResources (hev : D.Obeys ev) (h : D.Hosts d names templates path env)
    (hb : D.Source (.map body)) (hi : D.Open inner) :
    D.Gives (fun i => (ev i).instanceResources (templates i) body (path i) (env i) (inner i))
      fun out => D.Value (.map out) := by
  unfold Evaluator.instanceResources
  cases hf : Entries.find? Evaluator.resourcesKey body with
  | none => exact Gives.pure D.value_empty
  | some n =>
    have hn := D.source_part hb (Node.mem_parts_map (Entries.mem_of_find? hf))
    cases n with
    | map resources => exact hev.resources (hi.call _ hn) (D.along_child h.along _)
    | null | bool _ | number _ | string _ | seq _ | tag _ | document _ =>
      exact D.fail (h.resources _)

theorem instantiate (hev : D.Obeys ev) (h : D.Hosts d names templates path env)
    (hd : D.Source (.document d))
    (hl : D.Gives (fun i => (ev i).ownLead (names i) (entries i) (path i) (env i)) fun _ => True)
    (ho : D.Gives (fun i => (ev i).instanceMap Evaluator.overridesKey (entries i) (path i) (env i))
      fun out => D.Value (.map out))
    (hps : D.Gives (fun i => (ev i).instanceMap "Properties" (entries i) (path i) (env i))
      fun out => D.Value (.map out)) :
    D.Gives (fun i => (ev i).instantiate (names i) (entries i) (templates i) d (path i) (env i))
      fun out => D.Value (.map out) := by
  refine D.bind (instanceOf entries hev h hd hl ho hps) ?_
  rintro _ ⟨body, naming, inner, hb, hi, rfl⟩
  refine (instanceResources hev h hb hi).bind fun resources hr => ?_
  refine (Gives.forM fun _ hh => hoist hev h hb hi naming hh).bind fun _ _ => ?_
  exact Gives.pure hr

end Hosting

end Instances

theorem resourceEntry (hev : D.Obeys ev) (h : D.ReadyEntries m env) (hp : D.Along path)
    {e : String × Node} (he : e ∈ m) :
    D.Gives (fun i => (ev i).resourceEntry (path i) (env i) e.1 e.2) D.Adds := by
  obtain ⟨fixed, hfixed, hq⟩ := D.naming h.within
  have hc := D.along_child hp e.1
  unfold Evaluator.resourceEntry
  dsimp only
  split
  · exact Gives.pure trivial
  · rename_i hb
    have hk := key_entry h he hb
    split
    · refine (mergeBlock hev h.within hc (h.call e he)).bind fun out ho => ?_
      exact Gives.pure ho
    · obtain ⟨name, n⟩ := e
      cases n with
      | map entry =>
        have hr := readyEntries (ready_of_call (h.call _ he) h.within h.ask)
        refine (classify hev hr hc).bind fun kind hkind => ?_
        cases kind with
        | literal =>
          refine (literal hev hr hc hk).bind fun p hp => ?_
          exact Gives.pure hp
        | template type d =>
          have hd := hkind type d rfl
          have hh := hosts h.within hc hd name type
          refine (instantiate (fun _ => entry) hev hh hd (ownLead hev hr hc)
            (instanceMap hev hr hc) (instanceMap hev hr hc)).bind fun out ho => ?_
          exact Gives.pure ho
      | null | bool _ | number _ | string _ | seq _ | tag _ | document _ =>
        simp only [Env.qualify_congr (hfixed _)]
        refine (hev.node (h.call _ he) hc).bind fun value hv => ?_
        exact Gives.pure ⟨hq _ hk, hv⟩

theorem resourceSection (hev : D.Obeys ev) (h : D.ReadyEntries m env) (hp : D.Along path) :
    D.Gives (fun i => (ev i).resourceSection m (path i) (env i)) fun out => D.Value (.map out) := by
  refine Gives.map _ (Gives.mapM (Q := D.Adds) ?_) fun cs hcs => value_assemble hcs
  intro e he
  exact resourceEntry hev h hp he

end Discipline

end InfraTemplate
