import InfraTemplate.Proofs.Written
import Mathlib.Data.List.Nodup

namespace InfraTemplate

namespace Yaml.Value

def parts : Value → List Value
  | sequence items => items
  | mapping entries => entries.map (·.2)
  | tagged _ content => [content]
  | _ => []

inductive Throughout (φ : Value → Prop) : Value → Prop where
  | intro {v : Value} (here : φ v) (parts : ∀ w ∈ v.parts, Throughout φ w) : Throughout φ v

def isTagged : Value → Bool
  | tagged _ _ => true
  | _ => false

def keyTexts : Value → List (Option String)
  | mapping entries => entries.map fun e => Node.keyText e.1
  | _ => []

abbrev Untagged (v : Value) : Prop := v.Throughout fun w => w.isTagged = false

abbrev ScalarKeys (v : Value) : Prop := v.Throughout fun w => none ∉ w.keyTexts

abbrev KeysApart (v : Value) : Prop := v.Throughout fun w => w.keyTexts.Nodup

variable {φ : Value → Prop} {v : Value}

theorem throughout_iff : v.Throughout φ ↔ φ v ∧ ∀ w ∈ v.parts, w.Throughout φ := by
  constructor
  · rintro ⟨here, parts⟩
    exact ⟨here, parts⟩
  · rintro ⟨here, parts⟩
    exact .intro here parts

theorem throughout_of_no_parts (h : v.parts = []) : v.Throughout φ ↔ φ v := by
  rw [throughout_iff, h]
  exact and_iff_left fun _ hw => absurd hw List.not_mem_nil

theorem throughout_sequence {items : List Value} : (sequence items).Throughout φ ↔
    φ (sequence items) ∧ ∀ v ∈ items, v.Throughout φ :=
  throughout_iff

theorem throughout_mapping {entries : List (Value × Value)} : (mapping entries).Throughout φ ↔
    φ (mapping entries) ∧ ∀ e ∈ entries, e.2.Throughout φ := by
  rw [throughout_iff, parts, List.forall_mem_map]

theorem throughout_tagged {name : String} {content : Value} :
    (tagged name content).Throughout φ ↔ φ (tagged name content) ∧ content.Throughout φ := by
  rw [throughout_iff, parts, List.forall_mem_singleton]

section Decision

variable [DecidablePred φ]

mutual

def decideThroughout : (v : Value) → Decidable (v.Throughout φ)
  | null | bool _ | number _ | string _ =>
    decidable_of_iff (φ _) (throughout_of_no_parts rfl).symm
  | sequence items =>
    have := decideItems items
    decidable_of_iff (φ (sequence items) ∧ ∀ v ∈ items, v.Throughout φ) throughout_sequence.symm
  | mapping entries =>
    have := decideEntries entries
    decidable_of_iff (φ (mapping entries) ∧ ∀ e ∈ entries, e.2.Throughout φ)
      throughout_mapping.symm
  | tagged name content =>
    have := decideThroughout content
    decidable_of_iff (φ (tagged name content) ∧ content.Throughout φ) throughout_tagged.symm

def decideItems : (items : List Value) → Decidable (∀ v ∈ items, v.Throughout φ)
  | [] => .isTrue fun _ hv => absurd hv List.not_mem_nil
  | v :: items =>
    have := decideThroughout v
    have := decideItems items
    decidable_of_iff (v.Throughout φ ∧ ∀ v ∈ items, v.Throughout φ) List.forall_mem_cons.symm

def decideEntries : (entries : List (Value × Value)) → Decidable (∀ e ∈ entries, e.2.Throughout φ)
  | [] => .isTrue fun _ he => absurd he List.not_mem_nil
  | (k, v) :: entries =>
    have := decideThroughout v
    have := decideEntries entries
    have hcons : (∀ e ∈ (k, v) :: entries, e.2.Throughout φ) ↔
        v.Throughout φ ∧ ∀ e ∈ entries, e.2.Throughout φ := List.forall_mem_cons
    decidable_of_iff _ hcons.symm

end

instance : DecidablePred (Throughout φ) := decideThroughout

end Decision

end Yaml.Value

namespace Node

open Yaml (Value)

/-- The node has the shape of the value: item by item, and entry by entry under the texts of the
keys. -/
inductive Mirrors : Value → Node → Prop where
  | null : Mirrors .null null
  | bool (b : Bool) : Mirrors (.bool b) (bool b)
  | number (n : Number) : Mirrors (.number n) (number n)
  | string (s : String) : Mirrors (.string s) (string s)
  | seq {items : List Value} {xs : List Node} (h : List.Forall₂ Mirrors items xs) :
    Mirrors (.sequence items) (seq xs)
  | map {entries : List (Value × Value)} {m : Mapping}
    (keys : (entries.map fun e => keyText e.1) = m.map fun e => some e.1)
    (values : List.Forall₂ Mirrors (entries.map (·.2)) (m.map (·.2))) :
    Mirrors (.mapping entries) (map m)

variable {path : String} {i : Nat} {items : List Value} {entries : List (Value × Value)}
  {xs : List Node} {done m : Mapping}

theorem mirrors_seq :
    Mirrors (.sequence items) (seq xs) ↔ List.Forall₂ Mirrors items xs := by
  constructor
  · rintro ⟨⟩
    assumption
  · exact .seq

theorem mirrors_map : Mirrors (.mapping entries) (map m) ↔
    (entries.map fun e => keyText e.1) = (m.map fun e => some e.1) ∧
      List.Forall₂ Mirrors (entries.map (·.2)) (m.map (·.2)) := by
  constructor
  · rintro ⟨⟩
    exact ⟨‹_›, ‹_›⟩
  · exact fun h => .map h.1 h.2

theorem ok_itemsOfYaml_iff (path : String) (i : Nat)
    (hitems : ∀ v ∈ items, ∀ p, (∃ n, ofYaml p v = .ok n) ↔ v.ScalarKeys) :
    (∃ xs, itemsOfYaml path i items = .ok xs) ↔ ∀ v ∈ items, v.ScalarKeys := by
  induction items generalizing i with
  | nil =>
    rw [itemsOfYaml]
    exact ⟨fun _ _ hv => absurd hv List.not_mem_nil, fun _ => ⟨[], rfl⟩⟩
  | cons v items ih =>
    obtain ⟨hv, hitems⟩ := List.forall_mem_cons.mp hitems
    rw [List.forall_mem_cons, ← hv (path ++ "." ++ toString i), ← ih (i + 1) hitems,
      itemsOfYaml]
    constructor
    · rintro ⟨_, h⟩
      obtain ⟨y, hy, h⟩ := bind_eq_ok.mp h
      obtain ⟨ys, hys, -⟩ := bind_eq_ok.mp h
      exact ⟨⟨y, hy⟩, ys, hys⟩
    · rintro ⟨⟨y, hy⟩, ys, hys⟩
      exact ⟨y :: ys, bind_eq_ok.mpr ⟨y, hy, bind_eq_ok.mpr ⟨ys, hys, rfl⟩⟩⟩

theorem ok_entriesOfYaml_iff (path : String) (done : Mapping)
    (hentries : ∀ e ∈ entries, ∀ p, (∃ n, ofYaml p e.2 = .ok n) ↔ e.2.ScalarKeys) :
    (∃ m, entriesOfYaml path done entries = .ok m) ↔
      (∀ e ∈ entries, keyText e.1 ≠ none) ∧ ∀ e ∈ entries, e.2.ScalarKeys := by
  induction entries generalizing done with
  | nil =>
    rw [entriesOfYaml]
    exact ⟨fun _ => ⟨fun _ he => absurd he List.not_mem_nil, fun _ he => absurd he List.not_mem_nil⟩,
      fun _ => ⟨done, rfl⟩⟩
  | cons e entries ih =>
    obtain ⟨k, v⟩ := e
    obtain ⟨hv, hentries⟩ := List.forall_mem_cons.mp hentries
    rw [List.forall_mem_cons, List.forall_mem_cons, entriesOfYaml]
    cases hk : keyText k with
    | none =>
      constructor
      · rintro ⟨m, h⟩
        cases h
      · rintro ⟨⟨hnone, -⟩, -⟩
        exact absurd rfl hnone
    | some key =>
      constructor
      · rintro ⟨m, h⟩
        obtain ⟨y, hy, h⟩ := bind_eq_ok.mp h
        obtain ⟨hkeys, hvalues⟩ := (ih _ hentries).mp ⟨m, h⟩
        exact ⟨⟨nofun, hkeys⟩, (hv _).mp ⟨y, hy⟩, hvalues⟩
      · rintro ⟨⟨-, hkeys⟩, hscalar, hvalues⟩
        obtain ⟨y, hy⟩ := (hv (path ++ "." ++ key)).mpr hscalar
        obtain ⟨m, h⟩ : ∃ m, entriesOfYaml path (Entries.put key y done) entries = .ok m :=
          (ih _ hentries).mpr ⟨hkeys, hvalues⟩
        exact ⟨m, bind_eq_ok.mpr ⟨y, hy, h⟩⟩

theorem ok_ofYaml_iff {v : Value} (hv : v.Untagged) (path : String) :
    (∃ n, ofYaml path v = .ok n) ↔ v.ScalarKeys := by
  induction hv generalizing path with
  | @intro v here _ ih =>
    rw [Value.ScalarKeys]
    cases v with
    | null | bool _ | number _ | string _ =>
      rw [ofYaml, Value.throughout_of_no_parts rfl]
      exact ⟨fun _ => List.not_mem_nil, fun _ => ⟨_, rfl⟩⟩
    | sequence items =>
      have hitems := ok_itemsOfYaml_iff path 0 ih
      rw [ofYaml, Value.throughout_sequence]
      constructor
      · rintro ⟨_, h⟩
        obtain ⟨xs, hxs, -⟩ := map_eq_ok.mp h
        exact ⟨List.not_mem_nil, hitems.mp ⟨xs, hxs⟩⟩
      · rintro ⟨-, h⟩
        obtain ⟨xs, hxs⟩ := hitems.mpr h
        exact ⟨seq xs, map_eq_ok.mpr ⟨xs, hxs, rfl⟩⟩
    | mapping entries =>
      have hentries := ok_entriesOfYaml_iff path []
        fun e he => ih e.2 (List.mem_map_of_mem he)
      have hkeys : none ∉ (Value.mapping entries).keyTexts ↔ ∀ e ∈ entries, keyText e.1 ≠ none := by
        rw [Value.keyTexts, List.mem_map, not_exists]
        exact forall_congr' fun e => not_and
      rw [Value.throughout_mapping, hkeys, ← hentries, ofYaml]
      constructor
      · rintro ⟨_, h⟩
        obtain ⟨m, hm, -⟩ := map_eq_ok.mp h
        exact ⟨m, hm⟩
      · rintro ⟨m, hm⟩
        exact ⟨map m, map_eq_ok.mpr ⟨m, hm, rfl⟩⟩
    | tagged _ _ => cases here

def ReadFrom (v : Value) (x : Node) : Prop := ∃ p, ofYaml p v = .ok x

theorem forall₂_itemsOfYaml (h : itemsOfYaml path i items = .ok xs) :
    List.Forall₂ ReadFrom items xs := by
  induction items generalizing i xs with
  | nil =>
    rw [itemsOfYaml] at h
    cases h
    exact .nil
  | cons v items ih =>
    rw [itemsOfYaml] at h
    obtain ⟨y, hy, h⟩ := bind_eq_ok.mp h
    obtain ⟨ys, hys, h⟩ := bind_eq_ok.mp h
    cases h
    exact .cons ⟨_, hy⟩ (ih hys)

theorem entriesOfYaml_eq_ok (h : entriesOfYaml path done entries = .ok m) :
    ∃ read : Mapping, (entries.map fun e => keyText e.1) = (read.map fun e => some e.1) ∧
      List.Forall₂ ReadFrom (entries.map (·.2)) (read.map (·.2)) ∧ m = Entries.putAll done read := by
  induction entries generalizing done with
  | nil =>
    rw [entriesOfYaml] at h
    cases h
    exact ⟨[], rfl, .nil, rfl⟩
  | cons e entries ih =>
    obtain ⟨k, v⟩ := e
    rw [entriesOfYaml] at h
    split at h
    · rename_i key hk
      obtain ⟨y, hy, h⟩ := bind_eq_ok.mp h
      obtain ⟨read, hkeys, hvalues, rfl⟩ := ih h
      exact ⟨(key, y) :: read, congrArg₂ List.cons hk hkeys, .cons ⟨_, hy⟩ hvalues, rfl⟩
    · cases h

theorem forall₂_mirrors_iff {R : Value → Node → Prop} {P : Value → Prop}
    (h : List.Forall₂ R items xs)
    (hR : ∀ v ∈ items, ∀ x, R v x → (Mirrors v x ↔ P v)) :
    List.Forall₂ Mirrors items xs ↔ ∀ v ∈ items, P v := by
  induction h with
  | nil => exact ⟨fun _ _ hv => absurd hv List.not_mem_nil, fun _ => .nil⟩
  | cons hx _ ih =>
    obtain ⟨hv, hitems⟩ := List.forall_mem_cons.mp hR
    rw [List.forall₂_cons, List.forall_mem_cons, hv _ hx, ih hitems]

theorem nodup_texts : (m.map fun e => some e.1).Nodup ↔ (Entries.keys m).Nodup := by
  have hmap : (m.map fun e => some e.1) = (Entries.keys m).map some := (List.map_map ..).symm
  rw [hmap]
  exact ⟨List.Nodup.of_map some, List.Nodup.map fun _ _ => Option.some.inj⟩

theorem mirrors_iff {v : Value} (hv : v.Untagged) {n : Node} (h : ReadFrom v n) :
    Mirrors v n ↔ v.KeysApart := by
  induction hv generalizing n with
  | @intro v here _ ih =>
    obtain ⟨path, h⟩ := h
    rw [Value.KeysApart]
    cases v with
    | null | bool _ | number _ | string _ =>
      rw [ofYaml] at h
      cases h
      rw [Value.throughout_of_no_parts rfl]
      refine ⟨fun _ => .nil, fun _ => ?_⟩
      constructor
    | sequence items =>
      rw [ofYaml] at h
      obtain ⟨xs, hxs, rfl⟩ := map_eq_ok.mp h
      have hall := forall₂_mirrors_iff (forall₂_itemsOfYaml hxs) fun v hv x => ih v hv
      rw [mirrors_seq, hall, Value.throughout_sequence]
      exact (and_iff_right .nil).symm
    | mapping entries =>
      rw [ofYaml] at h
      obtain ⟨m, hm, rfl⟩ := map_eq_ok.mp h
      obtain ⟨read, hkeys, hvalues, rfl⟩ := entriesOfYaml_eq_ok hm
      have hall := forall₂_mirrors_iff hvalues fun v hv x => ih v hv
      rw [mirrors_map, Value.throughout_iff, Value.keyTexts]
      constructor
      · rintro ⟨hmirrored, hmirrors⟩
        have hread : (Entries.keys read).Nodup := by
          rw [← nodup_texts, ← hkeys, hmirrored, nodup_texts]
          exact Entries.keys_putAll_nodup .nil
        have hkept : Entries.putAll [] read = read := Entries.ofPairs_of_nodup hread
        rw [hkept] at hmirrors
        exact ⟨by rwa [hkeys, nodup_texts], hall.mp hmirrors⟩
      · rintro ⟨hdistinct, hparts⟩
        have hread : (Entries.keys read).Nodup := by rwa [← nodup_texts, ← hkeys]
        have hkept : Entries.putAll [] read = read := Entries.ofPairs_of_nodup hread
        rw [hkept]
        exact ⟨hkeys, hall.mpr hparts⟩
    | tagged _ _ => cases here

/-- A value is read if its keys are scalars. The node has its shape if moreover their texts are
distinct in each mapping. -/
theorem shape_kept_iff {v : Value} (hv : v.Untagged) (path : String) :
    ((∃ n, ofYaml path v = .ok n) ↔ v.ScalarKeys) ∧
      ∀ n, ofYaml path v = .ok n → (Mirrors v n ↔ v.KeysApart) :=
  ⟨ok_ofYaml_iff hv path, fun _ h => mirrors_iff hv ⟨path, h⟩⟩

theorem shape_kept_iff_of_four_kinds :
    let inner := Value.mapping [(.bool true, .string "a"), (.string "false", .null)]
    let v := Value.mapping [(.null, .sequence [.bool false, inner]), (.number (.int 1), inner)]
    let innerNode := map [("true", string "a"), ("false", null)]
    let n := map [("null", seq [bool false, innerNode]), ("1", innerNode)]
    v.Untagged ∧ ofYaml "Root" v = .ok n ∧ Mirrors v n := by
  intro inner v innerNode n
  have hread : ofYaml "Root" v = .ok n := by
    with_unfolding_all rfl
  have huntagged : v.Untagged := by
    decide
  have hapart : v.KeysApart := by
    decide
  exact ⟨huntagged, hread, ((shape_kept_iff huntagged "Root").2 n hread).mpr hapart⟩

theorem shape_lost_to_equal_texts :
    let v := Value.mapping [(.number (.int 1), .string "a"), (.string "1", .string "b")]
    v.Untagged ∧ ofYaml "Root" v = .ok (map [("1", string "b")]) ∧
      ¬Mirrors v (map [("1", string "b")]) := by
  intro v
  refine ⟨?_, ?_, ?_⟩
  · decide
  · with_unfolding_all rfl
  · intro h
    obtain ⟨hkeys, -⟩ := mirrors_map.mp h
    cases hkeys

end Node

end InfraTemplate
