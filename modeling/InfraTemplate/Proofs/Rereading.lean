import InfraTemplate.Node.Rendering
import InfraTemplate.Proofs.ScopeMonotonicity
import InfraTemplate.Proofs.Written
import Mathlib.Data.List.DropRight

namespace InfraTemplate

namespace Text

theorem trimStart_trim (cs : List Char) : trimStart (trim cs) = trim cs := by
  have hprefix : trim cs <+: trimStart cs := List.rdropWhile_prefix _ _
  cases ht : trim cs with
  | nil => rfl
  | cons c rest =>
    have hhead : (trimStart cs).head? = some c := by
      obtain ⟨tail, htail⟩ := ht ▸ hprefix
      rw [← htail]
      rfl
    have hc : isBlank c = false := by
      have := List.head?_dropWhile_not isBlank cs
      rw [show List.dropWhile isBlank cs = trimStart cs from rfl, hhead] at this
      exact this
    rw [trimStart, List.dropWhile_cons_of_neg (by simp [hc])]

theorem trim_trim (cs : List Char) : trim (trim cs) = trim cs := by
  rw [trim, trimStart_trim]
  exact List.rdropWhile_idempotent _ _

theorem trimText_trimText (s : String) : trimText (trimText s) = trimText s := by
  simp only [trimText, String.toList_ofList, trim_trim]

end Text

theorem Entries.remove_put {α : Type} {name : String} {es : Entries α} (h : name ∉ keys es) (a : α) :
    remove name (put name a es) = es := by
  have hne : ∀ e ∈ es, (e.1 != name) = true := by
    intro e he
    simp only [bne_iff_ne]
    rintro rfl
    exact h (List.mem_map_of_mem he)
  rw [put_of_not_mem h, remove, List.filter_append, List.filter_eq_self.mpr hne]
  simp

namespace Tag

def bindings : Tag Node → Mapping
  | letIn bindings _ => bindings
  | _ => []

def Settled : Tag Node → Prop
  | lookup path => Text.trimText path = path
  | letIn bindings _ => bodyKey ∉ Entries.keys bindings
  | loop kind l => l.filter?.isSome = true → kind = .map
  | _ => True

end Tag

def Node.Tidy : Node → Prop
  | map m => (Entries.keys m).Nodup
  | tag t => t.Settled ∧ (Entries.keys t.bindings).Nodup
  | document _ => False
  | _ => True

def Tag.SettledFrom (n : Node) (t : Tag Node) : Prop :=
  t.Settled ∧ (n.Tidy → (Entries.keys t.bindings).Nodup)

theorem Payload.settled_read {n : Node} {t : Tag Node} (f : Family) (h : f.read n = .ok t) :
    t.SettledFrom n := by
  cases f with
  | lookup =>
    obtain ⟨s, -, rfl⟩ := asLookup_eq_ok.mp h
    exact ⟨Text.trimText_trimText _, fun _ => .nil⟩
  | expand =>
    obtain ⟨_, template, params, -, -, -, -, rfl⟩ := asExpand_eq_ok.mp h
    exact ⟨trivial, fun _ => .nil⟩
  | operand op =>
    cases h
    exact ⟨trivial, fun _ => .nil⟩
  | pair op =>
    obtain ⟨p, -, rfl⟩ := map_eq_ok.mp h
    exact ⟨trivial, fun _ => .nil⟩
  | choice =>
    obtain ⟨_, test, consequent, -, -, -, rfl⟩ := asChoice_eq_ok.mp h
    exact ⟨trivial, fun _ => .nil⟩
  | letIn =>
    obtain ⟨entries, body, rfl, -, rfl⟩ := asLet_eq_ok.mp h
    have hbody : Tag.bodyKey ∉ Entries.keys (Entries.remove Tag.bodyKey entries) :=
      Entries.find?_eq_none_iff.mp (Entries.find?_remove_self ..)
    exact ⟨hbody, fun hn => List.Nodup.sublist (List.Sublist.map _ List.filter_sublist) hn⟩
  | loop kind =>
    obtain ⟨_, items, template, v, -, -, -, -, hfilter, rfl⟩ := asLoop_eq_ok.mp h
    exact ⟨hfilter, fun _ => .nil⟩
  | grouping =>
    obtain ⟨_, items, key, v, -, -, -, -, rfl⟩ := asGrouping_eq_ok.mp h
    exact ⟨trivial, fun _ => .nil⟩

namespace Tag

theorem settled_ofPayload {name : String} {n : Node} {t : Tag Node}
    (h : ofPayload name n = .ok t) : t.SettledFrom n := by
  obtain ⟨f, -, hread⟩ := ofPayload_eq_ok.mp h
  exact Payload.settled_read f hread

theorem ofPayload_apply (op : Operator) (n : Node) : ofPayload op.name n = .ok (.apply op n) := by
  cases op with
  | intrinsic i => cases i <;> rfl
  | _ => rfl

theorem ofPayload_letIn {bindings : Mapping} (hb : bodyKey ∉ Entries.keys bindings) (body : Node) :
    ofPayload "$let" (.map (Entries.put bodyKey body bindings)) = .ok (.letIn bindings body) := by
  have hbody : Entries.find? bodyKey (Entries.put bodyKey body bindings) = some body :=
    Entries.find?_put_self ..
  have hrest : Entries.remove bodyKey (Entries.put bodyKey body bindings) = bindings :=
    Entries.remove_put hb body
  change Payload.require bodyKey (Entries.put bodyKey body bindings) >>= (fun b =>
    Except.ok (letIn (Entries.remove bodyKey (Entries.put bodyKey body bindings)) b)) = _
  rw [hrest, Payload.require, hbody]
  rfl

theorem ofPayload_loop (kind : LoopKind) {l : Loop Node}
    (hl : l.filter?.isSome = true → kind = .map) :
    ofPayload kind.name ((loop kind l).payload Node.builder) = .ok (.loop kind l) := by
  obtain ⟨items, template, varName?, filter?⟩ := l
  have hloop : ofPayload kind.name = Payload.asLoop kind := by cases kind <;> rfl
  rw [hloop]
  cases varName? <;> cases filter? with
  | none => rfl
  | some filter =>
    obtain rfl := hl rfl
    rfl

theorem ofPayload_payload {t : Tag Node} (h : t.Settled) :
    ofPayload t.name (t.payload Node.builder) = .ok t := by
  cases t with
  | lookup path =>
    change Except.ok (Tag.lookup (Text.trimText path)) = _
    rw [h]
  | expand template params => rfl
  | apply op operand => exact ofPayload_apply op operand
  | pair op first second => cases op <;> rfl
  | choose test consequent alternative? => cases alternative? <;> rfl
  | letIn bindings body => exact ofPayload_letIn h body
  | loop kind l => exact ofPayload_loop kind h
  | groupBy g =>
    obtain ⟨items, key, varName?, template?⟩ := g
    cases varName? <;> cases template? <;> rfl

end Tag

namespace Node

theorem toYaml_seq (xs : List Node) : (seq xs).toYaml = .sequence (xs.map toYaml) :=
  congrArg Yaml.Value.sequence (foldItems_eq_map yamlAlgebra xs)

theorem toYaml_map (m : Mapping) :
    (map m).toYaml = .mapping (m.map fun e => (.string e.1, e.2.toYaml)) := by
  change Yaml.Value.ofEntries (foldEntries yamlAlgebra m) = _
  rw [foldEntries_eq_map, Yaml.Value.ofEntries, List.map_map]
  rfl

theorem foldEntries_put (g : Algebra Yaml.Value) (name : String) (n : Node) (m : Mapping) :
    foldEntries g (Entries.put name n m) = Entries.put name (n.fold g) (foldEntries g m) := by
  induction m with
  | nil => rfl
  | cons e m ih =>
    obtain ⟨k, x⟩ := e
    by_cases h : k = name
    · simp [Entries.put, foldEntries, h]
    · simp [Entries.put, foldEntries, h, ih]

theorem toYaml_tag (t : Tag Node) :
    (tag t).toYaml = .tagged t.name (t.payload builder).toYaml := by
  cases t with
  | lookup path => rfl
  | expand template params => rfl
  | apply op operand => rfl
  | pair op first second => rfl
  | choose test consequent alternative? => cases alternative? <;> rfl
  | letIn bindings body =>
    exact congrArg (fun m => Yaml.Value.tagged "$let" (.ofEntries m))
      (foldEntries_put yamlAlgebra Tag.bodyKey body bindings).symm
  | loop kind l =>
    obtain ⟨items, template, varName?, filter?⟩ := l
    cases varName? <;> cases filter? <;> rfl
  | groupBy g =>
    obtain ⟨items, key, varName?, template?⟩ := g
    cases varName? <;> cases template? <;> rfl

def ReadsBack (n : Node) : Prop := ∀ path, ofYaml path n.toYaml = .ok n

theorem itemsOfYaml_map {xs : List Node} (h : ∀ x ∈ xs, x.ReadsBack) (path : String) (i : Nat) :
    itemsOfYaml path i (xs.map toYaml) = .ok xs := by
  induction xs generalizing i with
  | nil => rfl
  | cons x xs ih =>
    obtain ⟨hx, hxs⟩ := List.forall_mem_cons.mp h
    rw [List.map_cons, itemsOfYaml, hx, ih hxs]
    rfl

theorem entriesOfYaml_map {done m : Mapping} (hn : (Entries.keys (done ++ m)).Nodup)
    (h : ∀ e ∈ m, e.2.ReadsBack) (path : String) :
    entriesOfYaml path done (m.map fun e => (.string e.1, e.2.toYaml)) = .ok (done ++ m) := by
  induction m generalizing done with
  | nil =>
    rw [List.append_nil]
    rfl
  | cons e m ih =>
    obtain ⟨hx, hm⟩ := List.forall_mem_cons.mp h
    have hnew : e.1 ∉ Entries.keys done := by
      rw [Entries.keys, List.map_append, List.map_cons, List.nodup_append] at hn
      exact fun hmem => hn.2.2 _ hmem _ (List.mem_cons_self ..) rfl
    have happend : done ++ e :: m = Entries.put e.1 e.2 done ++ m := by
      rw [Entries.put_of_not_mem hnew, List.append_assoc]
      rfl
    rw [happend] at hn ⊢
    rw [List.map_cons, entriesOfYaml]
    change (ofYaml _ e.2.toYaml >>= _) = _
    rw [hx]
    exact ih hn hm

theorem readsBack_scalar {n : Node} (h : n.isScalar = true) : n.ReadsBack := by
  intro path
  cases n with
  | null | bool _ | number _ | string _ => rfl
  | seq _ | map _ | tag _ | document _ => cases h

theorem readsBack_seq {xs : List Node} (h : ∀ x ∈ xs, x.ReadsBack) : (seq xs).ReadsBack := by
  intro path
  rw [toYaml_seq, ofYaml, itemsOfYaml_map h]
  rfl

theorem readsBack_map {m : Mapping} (hn : (Entries.keys m).Nodup) (h : ∀ e ∈ m, e.2.ReadsBack) :
    (map m).ReadsBack := by
  intro path
  rw [toYaml_map, ofYaml, entriesOfYaml_map (by exact hn) h]
  rfl

theorem readsBack_tag {t : Tag Node} (ht : t.Settled) (h : (t.payload builder).ReadsBack) :
    (tag t).ReadsBack := by
  intro path
  rw [toYaml_tag]
  exact ofYaml_tagged_of_ok (h path) (Tag.ofPayload_payload ht)

theorem readsBack_payload {t : Tag Node} (hn : (Entries.keys t.bindings).Nodup)
    (h : ∀ m ∈ t.parts, m.ReadsBack) : (t.payload builder).ReadsBack := by
  cases t with
  | lookup path => exact readsBack_scalar rfl
  | expand template params =>
    refine readsBack_map (by simp [Entries.keys]) ?_
    simpa [Tag.parts] using h
  | apply op operand => exact h _ (List.mem_singleton_self _)
  | pair op first second => exact readsBack_seq h
  | choose test consequent alternative? =>
    refine readsBack_map ?_ ?_
    · cases alternative? <;> simp [Tag.optional, Entries.keys]
    · cases alternative? <;> simpa [Tag.optional, Tag.parts] using h
  | letIn bindings body =>
    obtain ⟨hbody, hbindings⟩ := List.forall_mem_cons.mp h
    refine readsBack_map (Entries.keys_put_nodup hn) (Entries.forall_put ?_ hbody)
    exact fun e he => hbindings _ (List.mem_map_of_mem he)
  | loop kind l =>
    obtain ⟨items, template, varName?, filter?⟩ := l
    have hvar : ∀ s, (string s).ReadsBack := fun s => readsBack_scalar rfl
    refine readsBack_map ?_ ?_
    · cases varName? <;> cases filter? <;> simp [Tag.optional, Entries.keys]
    · cases varName? <;> cases filter? <;>
        simpa [Tag.optional, Tag.parts, builder, hvar] using h
  | groupBy g =>
    obtain ⟨items, key, varName?, template?⟩ := g
    have hvar : ∀ s, (string s).ReadsBack := fun s => readsBack_scalar rfl
    refine readsBack_map ?_ ?_
    · cases varName? <;> cases template? <;> simp [Tag.optional, Entries.keys]
    · cases varName? <;> cases template? <;>
        simpa [Tag.optional, Tag.parts, builder, hvar] using h

theorem readFromYaml_tidy : ReadFromYaml Tidy where
  scalar n h := by
    cases n with
    | null | bool _ | number _ | string _ => trivial
    | seq _ | map _ | tag _ | document _ => cases h
  seq _ := trivial
  map _ h := h
  tag _ _ _ h hn := ⟨(Tag.settled_ofPayload h).1, (Tag.settled_ofPayload h).2 hn⟩

theorem readsBack_of_tidy {n : Node} (h : n.Throughout Tidy fun _ => True) : n.ReadsBack := by
  induction n using of_parts with
  | step n ih =>
    have hparts : ∀ m ∈ n.parts, m.ReadsBack := fun m hm => ih m hm (h.part hm)
    have hhere := h.here
    cases n with
    | null | bool _ | number _ | string _ => exact readsBack_scalar rfl
    | seq xs => exact readsBack_seq hparts
    | map m => exact readsBack_map hhere fun e he => hparts _ (mem_parts_map he)
    | tag t => exact readsBack_tag hhere.1 (readsBack_payload hhere.2 hparts)
    | document d => exact hhere.elim

end Node

/-- Whatever was read from YAML is read again from what it is written as; above all a construct from
its name and payload. -/
theorem Node.ofYaml_toYaml :
    (∀ path v n, Node.ofYaml path v = .ok n → ∀ path', Node.ofYaml path' n.toYaml = .ok n) ∧
      ∀ name payload t, Tag.ofPayload name payload = .ok t →
        Tag.ofPayload t.name (t.payload Node.builder) = .ok t :=
  ⟨fun _ v _ h => Node.readsBack_of_tidy (Node.throughout_ofYaml Node.readFromYaml_tidy v h),
    fun _ _ _ h => Tag.ofPayload_payload (Tag.settled_ofPayload h).1⟩

section Example

def greetings : Yaml.Value :=
  .tagged "$map" (.mapping [
    (.string "template", .tagged "$escape" (.tagged "$let" (.mapping [
      (.string "in", .tagged "$" (.string " who ")),
      (.string "who", .tagged "$include" (.string "name"))]))),
    (.string "items", .sequence [.string "ann"]),
    (.string "var", .string "name")])

def greetingLoop : Tag Node :=
  .loop .map ⟨.seq [.string "ann"],
    .tag (.apply .escape (.tag (.letIn [("who", .tag (.lookup "name"))] (.tag (.lookup "who"))))),
    some "name", none⟩

theorem ofYaml_toYaml_greetings :
    Node.ofYaml "Root" greetings = .ok (.tag greetingLoop) ∧
      Node.ofYaml "Again" (Node.tag greetingLoop).toYaml = .ok (.tag greetingLoop) ∧
      Tag.ofPayload "$include" (.string " who ") = .ok (.lookup "who") ∧
      Tag.ofPayload "$" (.string "who") = .ok (.lookup "who") := by
  have hread : Node.ofYaml "Root" greetings = .ok (.tag greetingLoop) := by
    with_unfolding_all exact rfl
  have hlookup : Tag.ofPayload "$include" (.string " who ") = .ok (.lookup "who") := by
    with_unfolding_all exact rfl
  exact ⟨hread, Node.ofYaml_toYaml.1 _ _ _ hread "Again", hlookup, Node.ofYaml_toYaml.2 _ _ _ hlookup⟩

end Example

end InfraTemplate
