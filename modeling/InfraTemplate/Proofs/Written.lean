import InfraTemplate.Importing
import InfraTemplate.Proofs.Parts
import InfraTemplate.Proofs.PayloadReading

/-!
What is read from a text or fetched by an import has no documents in it: these come only of loading.
-/

namespace InfraTemplate

theorem Node.Throughout.undocumented {φ ψ : Node → Prop} {β β' : Bound → Prop}
    (hφ : ∀ n, φ n → ψ n ∧ n.kind ≠ .document) {n : Node} (h : n.Throughout φ β) :
    n.Throughout ψ β' := by
  induction n using Node.of_parts with
  | step n ih =>
    obtain ⟨hhere, hk⟩ := hφ n h.here
    exact (Node.throughout_iff hk).mpr ⟨hhere, fun m hm => ih m hm (h.part hm)⟩

abbrev Node.Written (n : Node) : Prop := n.Throughout (fun n => n.kind ≠ .document) fun _ => True

theorem Node.kind_of_scalar {n : Node} (h : n.isScalar = true) : n.kind ≠ .document := by
  cases n with
  | null | bool _ | number _ | string _ => simp [kind]
  | seq _ | map _ | tag _ | document _ => cases h

theorem Node.written_scalar {n : Node} (h : n.isScalar = true) : n.Written :=
  throughout_of_scalar h (kind_of_scalar h)

theorem Node.written_map {m : Mapping} : (Node.map m).Written ↔ ∀ e ∈ m, e.2.Written :=
  throughout_map.trans (and_iff_right (by simp [kind]))

theorem Node.written_seq {xs : List Node} : (Node.seq xs).Written ↔ ∀ x ∈ xs, x.Written :=
  throughout_seq.trans (and_iff_right (by simp [kind]))

theorem Node.written_tag {t : Tag Node} : (Node.tag t).Written ↔ ∀ m ∈ t.parts, m.Written :=
  throughout_tag.trans (and_iff_right (by simp [kind]))

namespace Payload

variable {n m : Node} {t : Tag Node} {key : String} {entries : Mapping}

theorem mem_parts_of_find? (h : Entries.find? key entries = some m) : m ∈ (Node.map entries).parts :=
  Node.mem_parts_map (Entries.mem_of_find? h)

theorem mem_parts_find? (h : m ∈ (Entries.find? key entries).toList) :
    m ∈ (Node.map entries).parts :=
  mem_parts_of_find? (Option.mem_toList.mp h)

theorem parts_read (f : Family) (h : f.read n = .ok t) : ∀ m ∈ t.parts, m = n ∨ m ∈ n.parts := by
  intro m hm
  cases f with
  | lookup =>
    obtain ⟨s, -, rfl⟩ := asLookup_eq_ok.mp h
    cases hm
  | expand =>
    obtain ⟨entries, template, params, rfl, ht, hp, -, rfl⟩ := asExpand_eq_ok.mp h
    rcases List.mem_pair.mp hm with rfl | rfl
    · exact .inr (mem_parts_of_find? ht)
    · exact .inr (mem_parts_of_find? hp)
  | operand op =>
    cases h
    exact .inl (List.mem_singleton.mp hm)
  | pair op =>
    obtain ⟨⟨x, y⟩, hp, rfl⟩ := map_eq_ok.mp h
    obtain rfl := asPair_eq_ok.mp hp
    exact .inr hm
  | choice =>
    obtain ⟨entries, test, consequent, rfl, ht, hc, rfl⟩ := asChoice_eq_ok.mp h
    simp only [Tag.parts, List.mem_cons] at hm
    rcases hm with rfl | rfl | hm
    · exact .inr (mem_parts_of_find? ht)
    · exact .inr (mem_parts_of_find? hc)
    · exact .inr (mem_parts_find? hm)
  | letIn =>
    obtain ⟨entries, body, rfl, hb, rfl⟩ := asLet_eq_ok.mp h
    rcases List.mem_cons.mp hm with rfl | hm
    · exact .inr (mem_parts_of_find? hb)
    · obtain ⟨e, hmem, rfl⟩ := List.mem_map.mp hm
      exact .inr (Node.mem_parts_map (List.mem_of_mem_filter hmem))
  | loop kind =>
    obtain ⟨entries, items, template, v, rfl, hi, ht, -, -, rfl⟩ := asLoop_eq_ok.mp h
    simp only [Tag.parts, List.mem_cons] at hm
    rcases hm with rfl | rfl | hm
    · exact .inr (mem_parts_of_find? hi)
    · exact .inr (mem_parts_of_find? ht)
    · exact .inr (mem_parts_find? hm)
  | grouping =>
    obtain ⟨entries, items, key, v, rfl, hi, hk, -, rfl⟩ := asGrouping_eq_ok.mp h
    simp only [Tag.parts, List.mem_cons] at hm
    rcases hm with rfl | rfl | hm
    · exact .inr (mem_parts_of_find? hi)
    · exact .inr (mem_parts_of_find? hk)
    · exact .inr (mem_parts_find? hm)

end Payload

theorem Tag.parts_ofPayload {name : String} {n : Node} {t : Tag Node}
    (h : ofPayload name n = .ok t) : ∀ m ∈ t.parts, m = n ∨ m ∈ n.parts := by
  obtain ⟨f, -, hread⟩ := ofPayload_eq_ok.mp h
  exact Payload.parts_read f hread

theorem foldlM_ok {ε α β : Type} {f : β → α → Except ε β} {P : β → Prop}
    (hf : ∀ b a c, P b → f b a = .ok c → P c) {as : List α} {b c : β} (hb : P b)
    (h : as.foldlM f b = .ok c) : P c := by
  induction as generalizing b with
  | nil =>
    cases h
    exact hb
  | cons a as ih =>
    rw [List.foldlM_cons] at h
    obtain ⟨b', hb', h⟩ := bind_eq_ok.mp h
    exact ih (hf b a b' hb hb') h

namespace Node

section Tagged

variable {path name : String} {content : Yaml.Value} {n : Node}

theorem ofYaml_tagged_of_ok {t : Tag Node} (h : ofYaml path content = .ok n)
    (ht : Tag.ofPayload name n = .ok t) : ofYaml path (.tagged name content) = .ok (.tag t) := by
  rw [ofYaml, h]
  dsimp only [bind, Except.bind]
  rw [ht]

theorem ofYaml_tagged_of_error {d : Defect} (h : ofYaml path content = .ok n)
    (hd : Tag.ofPayload name n = .error d) :
    ofYaml path (.tagged name content) = .error (malformedAt ("!" ++ name) path d) := by
  rw [ofYaml, h]
  dsimp only [bind, Except.bind]
  rw [hd]

end Tagged

section FromYaml

variable {φ : Node → Prop} {β : Bound → Prop}

structure ReadFromYaml (φ : Node → Prop) : Prop where
  scalar : ∀ n, n.isScalar = true → φ n
  seq : ∀ xs, φ (.seq xs)
  map : ∀ m, (Entries.keys m).Nodup → φ (.map m)
  tag : ∀ name n t, Tag.ofPayload name n = .ok t → φ n → φ (.tag t)

mutual

theorem throughout_ofYaml (hφ : ReadFromYaml φ) {path : String} :
    (v : Yaml.Value) → {n : Node} → ofYaml path v = .ok n → n.Throughout φ β
  | .null, _, h | .bool _, _, h | .number _, _, h | .string _, _, h => by
    rw [ofYaml] at h
    cases h
    exact throughout_of_scalar rfl (hφ.scalar _ rfl)
  | .sequence items, _, h => by
    rw [ofYaml] at h
    obtain ⟨xs, hxs, rfl⟩ := map_eq_ok.mp h
    exact throughout_seq.mpr ⟨hφ.seq xs, throughout_itemsOfYaml hφ items hxs⟩
  | .mapping entries, _, h => by
    rw [ofYaml] at h
    obtain ⟨m, hentries, rfl⟩ := map_eq_ok.mp h
    have hempty : (Entries.keys ([] : Mapping)).Nodup := .nil
    obtain ⟨hn, hall⟩ := throughout_entriesOfYaml hφ entries hempty
      (fun _ he => absurd he List.not_mem_nil) hentries
    exact throughout_map.mpr ⟨hφ.map m hn, hall⟩
  | .tagged name content, _, h => by
    rw [ofYaml] at h
    obtain ⟨n, hn, h⟩ := bind_eq_ok.mp h
    have hpayload := throughout_ofYaml hφ content hn
    split at h
    · rename_i t hof
      cases h
      refine throughout_tag.mpr ⟨hφ.tag name n t hof hpayload.here, fun m hpart => ?_⟩
      rcases Tag.parts_ofPayload hof m hpart with rfl | hpart
      · exact hpayload
      · exact hpayload.part hpart
    · cases h

theorem throughout_itemsOfYaml (hφ : ReadFromYaml φ) {path : String} {i : Nat} :
    (items : List Yaml.Value) → {xs : List Node} → itemsOfYaml path i items = .ok xs →
      ∀ x ∈ xs, x.Throughout φ β
  | [], _, h => by
    rw [itemsOfYaml] at h
    cases h
    exact fun _ hx => absurd hx List.not_mem_nil
  | v :: items, _, h => by
    rw [itemsOfYaml] at h
    obtain ⟨y, hy, h⟩ := bind_eq_ok.mp h
    obtain ⟨ys, hys, h⟩ := bind_eq_ok.mp h
    cases h
    intro x hx
    rcases List.mem_cons.mp hx with rfl | hx
    · exact throughout_ofYaml hφ v hy
    · exact throughout_itemsOfYaml hφ items hys x hx

theorem throughout_entriesOfYaml (hφ : ReadFromYaml φ) {path : String} {done : Mapping} :
    (entries : List (Yaml.Value × Yaml.Value)) → {m : Mapping} → (Entries.keys done).Nodup →
      (∀ e ∈ done, e.2.Throughout φ β) → entriesOfYaml path done entries = .ok m →
        (Entries.keys m).Nodup ∧ ∀ e ∈ m, e.2.Throughout φ β
  | [], _, hn, hd, h => by
    rw [entriesOfYaml] at h
    cases h
    exact ⟨hn, hd⟩
  | (k, v) :: rest, _, hn, hd, h => by
    rw [entriesOfYaml] at h
    split at h
    · obtain ⟨y, hy, h⟩ := bind_eq_ok.mp h
      exact throughout_entriesOfYaml hφ rest (Entries.keys_put_nodup hn)
        (Entries.forall_put (P := fun e : String × Node => e.2.Throughout φ β) hd
          (throughout_ofYaml hφ v hy)) h
    · cases h

end

end FromYaml

theorem written_ofYaml {path : String} {v : Yaml.Value} {n : Node} (h : ofYaml path v = .ok n) :
    n.Written :=
  throughout_ofYaml
    ⟨fun _ => kind_of_scalar, fun _ => nofun, fun _ _ => nofun, fun _ _ _ _ _ => nofun⟩ v h

theorem written_parse {text location : String} {n : Node} (h : parse text location = .ok n) :
    n.Written := by
  unfold parse at h
  split at h
  · exact written_ofYaml h
  · cases h

mutual

theorem written_ofJson : (j : Json) → (ofJson j).Written
  | .null | .bool _ | .number _ | .string _ => by
    rw [ofJson]
    exact written_scalar rfl
  | .array items => by
    rw [ofJson]
    exact written_seq.mpr (written_itemsOfJson items)
  | .object fields => by
    rw [ofJson]
    exact written_map.mpr (written_fieldsOfJson fields)

theorem written_itemsOfJson : (items : List Json) → ∀ x ∈ itemsOfJson items, x.Written
  | [] => fun _ hx => absurd hx List.not_mem_nil
  | j :: items => by
    rw [itemsOfJson]
    intro x hx
    rcases List.mem_cons.mp hx with rfl | hx
    · exact written_ofJson j
    · exact written_itemsOfJson items x hx

theorem written_fieldsOfJson :
    (fields : List (String × Json)) → ∀ e ∈ fieldsOfJson fields, e.2.Written
  | [] => fun _ he => absurd he List.not_mem_nil
  | (k, j) :: fields => by
    rw [fieldsOfJson]
    intro e he
    rcases List.mem_cons.mp he with rfl | he
    · exact written_ofJson j
    · exact written_fieldsOfJson fields e he

end

theorem written_parseJson {raw : ByteArray} {location : String} {n : Node}
    (h : parseJson raw location = .ok n) : n.Written := by
  unfold parseJson at h
  split at h
  · cases h
    exact written_ofJson _
  · cases h

end Node

namespace Importing

theorem decoded_eq_ok {α : Type} {r : Except Error α} {a : α} : decoded r = .ok a ↔ r = .ok a :=
  mapError_eq_ok

theorem written_sniff {location : String} {raw : ByteArray} {n : Node}
    (h : sniff location raw = .ok n) : n.Written := by
  unfold sniff at h
  split at h
  · split at h
    · exact Node.written_parse (decoded_eq_ok.mp h)
    · cases h
  · split at h
    · exact Node.written_parse (decoded_eq_ok.mp h)
    · cases h
  · exact Node.written_parseJson (decoded_eq_ok.mp h)
  · cases h
    exact Node.written_scalar rfl

theorem written_decode {f : ValueFormat} {value location : String} {n : Node}
    (h : f.decode value location = .ok n) : n.Written := by
  cases f with
  | text =>
    cases h
    exact Node.written_scalar rfl
  | json => exact Node.written_parseJson (decoded_eq_ok.mp h)
  | yaml => exact Node.written_parse (decoded_eq_ok.mp h)

theorem written_listingMap {lead : List Char} {format : ValueFormat}
    {listing : List (String × String)} {m : Mapping}
    (h : listingMap lead format listing = .ok m) : ∀ e ∈ m, e.2.Written := by
  have entry {acc next : Mapping} {p : String × String} (ha : ∀ e ∈ acc, e.2.Written)
      (h : (format.decode p.2 p.1 >>= fun n =>
        pure (Entries.put (shortName lead p.1) n acc)) = .ok next) : ∀ e ∈ next, e.2.Written := by
    obtain ⟨n, hn, h⟩ := bind_eq_ok.mp h
    cases h
    exact Entries.forall_put (P := fun e : String × Node => e.2.Written) ha (written_decode hn)
  exact foldlM_ok (fun _ _ _ => entry) (fun _ he => absurd he List.not_mem_nil) h

def Content.Undocumented (c : Content) : Prop := ∀ n, c.parsed? = some n → n.Written

theorem Content.undocumented_bytes (resolved : String) (raw : ByteArray) :
    (bytes resolved raw).Undocumented :=
  fun _ => nofun

theorem Content.undocumented_text (resolved s : String) : (text resolved s).Undocumented := by
  rintro _ ⟨⟩
  exact Node.written_scalar rfl

theorem Content.undocumented_json (resolved : String) (j : Json) :
    (json resolved j).Undocumented := by
  rintro _ ⟨⟩
  exact Node.written_ofJson j

variable {w : World} {l : Location} {c : Content}

theorem undocumented_fileHash (h : fileHash w l = .ok c) : c.Undocumented := by
  unfold fileHash at h
  dsimp only at h
  split at h
  · cases h
    exact Content.undocumented_text _ _
  · split at h
    · cases h
      exact Content.undocumented_text _ _
    · cases h
  · cases h

theorem undocumented_env (h : env w l = .ok c) : c.Undocumented := by
  unfold env at h
  dsimp only at h
  split at h
  · cases h
    exact Content.undocumented_text _ _
  · cases h
    exact Content.undocumented_text _ _
  · cases h

theorem undocumented_git (h : git w l = .ok c) : c.Undocumented := by
  unfold git at h
  split at h
  · cases h
  · split at h
    · cases h
    · split at h
      · cases h
      · split at h
        · cases h
          exact Content.undocumented_text _ _
        · cases h

theorem undocumented_random {turn : Nat} (h : random w turn l = .ok c) : c.Undocumented := by
  unfold random at h
  split at h
  · cases h
    exact Content.undocumented_text _ _
  · cases h

theorem undocumented_object (h : object w l = .ok c) : c.Undocumented := by
  unfold object at h
  split at h
  · cases h
  · obtain ⟨⟨bucket, key⟩, -, h⟩ := bind_eq_ok.mp h
    dsimp only at h
    split at h
    · cases h
      exact Content.undocumented_bytes _ _
    · cases h

theorem undocumented_page (h : page w l = .ok c) : c.Undocumented := by
  unfold page at h
  split at h
  · cases h
  · split at h
    · cases h
      exact Content.undocumented_bytes _ _
    · cases h

theorem undocumented_parameter (h : parameter w l = .ok c) : c.Undocumented := by
  unfold parameter at h
  split at h
  · cases h
  · dsimp only at h
    split at h
    · obtain ⟨n, hn, h⟩ := bind_eq_ok.mp h
      cases h
      rintro _ ⟨⟩
      exact written_decode hn
    · cases h

theorem undocumented_parameterPath (h : parameterPath w l = .ok c) : c.Undocumented := by
  unfold parameterPath at h
  split at h
  · cases h
  · dsimp only at h
    split at h
    · obtain ⟨m, hm, h⟩ := bind_eq_ok.mp h
      cases h
      rintro _ ⟨⟩
      exact Node.written_map.mpr (written_listingMap hm)
    · cases h

theorem undocumented_stackEntry {i : StackInspector} {resolved kind stack key : String}
    (h : stackEntry i resolved kind stack key = .ok c) : c.Undocumented := by
  obtain ⟨s, -, h⟩ := bind_eq_ok.mp h
  dsimp only at h
  split at h
  all_goals first | (split at h) | skip
  all_goals cases h
  all_goals first | exact Content.undocumented_text _ _ | exact Content.undocumented_json _ _

theorem undocumented_stack (h : stack w l = .ok c) : c.Undocumented := by
  unfold stack at h
  split at h
  · cases h
  · split at h
    · cases h
    · split at h
      · split at h
        · cases h
          exact Content.undocumented_text _ _
        · cases h
      · obtain ⟨s, -, rfl⟩ := map_eq_ok.mp h
        exact Content.undocumented_json _ _
      · split at h
        · cases h
        · exact undocumented_stackEntry h

theorem undocumented_content {turn : Nat} (h : content w turn l = .ok c) : c.Undocumented := by
  unfold content at h
  cases hs : l.scheme <;> rw [hs] at h <;> dsimp only at h
  case file =>
    obtain ⟨raw, -, rfl⟩ := map_eq_ok.mp h
    exact Content.undocumented_bytes _ _
  case fileHash | fileHashBase64 => exact undocumented_fileHash h
  case env => exact undocumented_env h
  case git => exact undocumented_git h
  case random => exact undocumented_random h
  case s3 => exact undocumented_object h
  case http | https => exact undocumented_page h
  case ssm => exact undocumented_parameter h
  case ssmPath => exact undocumented_parameterPath h
  case cfn => exact undocumented_stack h

end Importing

theorem World.written_resolver {w : World} {turn : Nat} {target base : String} {f : Fetched}
    (h : w.resolver turn target base = .ok f) : f.parsed.Written := by
  obtain ⟨l, -, h⟩ := bind_eq_ok.mp h
  obtain ⟨c, hc, h⟩ := bind_eq_ok.mp h
  split at h
  · rename_i n hn
    cases h
    exact Importing.undocumented_content hc n hn
  · obtain ⟨n, hn, h⟩ := bind_eq_ok.mp h
    cases h
    exact Importing.written_sniff hn

end InfraTemplate
