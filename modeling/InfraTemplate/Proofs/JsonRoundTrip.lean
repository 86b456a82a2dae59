import InfraTemplate.Node.Json
import InfraTemplate.Proofs.NodeEquality
import Mathlib.Data.List.Sort
import Mathlib.Data.String.Basic

namespace InfraTemplate

namespace Number

def InJson : Number → Prop
  | int i => inRange i = true
  | float x => x.isFinite = true

instance : DecidablePred InJson
  | int i => inferInstanceAs (Decidable (inRange i = true))
  | float x => inferInstanceAs (Decidable (x.isFinite = true))

theorem handedOn_int {i : Int} (h : inRange i = true) : (int i).handedOn = int i := by
  simp only [inRange, Bool.and_eq_true, decide_eq_true_eq] at h
  obtain ⟨hmin, hmax⟩ := h
  by_cases hs : i ≤ maxSigned
  · simp only [handedOn, signed?, hmin, hs, decide_true, Bool.and_self, ↓reduceIte]
  · have hu : 0 ≤ i := by
      simp only [maxSigned] at hs
      omega
    simp only [handedOn, signed?, unsigned?, hmin, hmax, hs, hu, decide_true, decide_false,
      Bool.and_false, Bool.and_self, Bool.false_eq_true, ↓reduceIte]

theorem handedOn_of_inJson {n : Number} (h : n.InJson) : n.handedOn = n := by
  cases n with
  | int i => exact handedOn_int h
  | float x => rfl

end Number

namespace Entries

variable {α β : Type} {es : Entries α}

def sorted (es : Entries α) : Entries α := es.mergeSort fun a b => a.1 ≤ b.1

def Increasing (es : Entries α) : Prop := es.Pairwise fun a b => a.1 < b.1

theorem sorted_perm (es : Entries α) : (sorted es).Perm es := List.mergeSort_perm es _

theorem pairwise_sorted (es : Entries α) : (sorted es).Pairwise fun a b => a.1 ≤ b.1 := by
  have h : (sorted es).Pairwise fun a b => decide (a.1 ≤ b.1) = true := by
    refine List.pairwise_mergeSort (fun a b c hab hbc => ?_) (fun a b => ?_) es
    · rw [decide_eq_true_eq] at hab hbc ⊢
      exact hab.trans hbc
    · rw [Bool.or_eq_true, decide_eq_true_eq, decide_eq_true_eq]
      exact le_total a.1 b.1
  exact h.imp fun hab => of_decide_eq_true hab

theorem sorted_map (f : α → β) (es : Entries α) :
    sorted (es.map fun e => (e.1, f e.2)) = (sorted es).map fun e => (e.1, f e.2) := by
  have h := List.map_mergeSort (r := fun a b : String × α => decide (a.1 ≤ b.1))
    (s := fun a b : String × β => decide (a.1 ≤ b.1)) (f := fun e => (e.1, f e.2)) (l := es)
    fun _ _ _ _ => rfl
  exact h.symm

theorem keys_map_values (f : α → β) (es : Entries α) :
    keys (es.map fun e => (e.1, f e.2)) = keys es := by
  rw [keys, List.map_map]
  rfl

theorem Increasing.nodup (h : Increasing es) : (keys es).Nodup := by
  rw [keys, List.nodup_iff_pairwise_ne, List.pairwise_map]
  exact h.imp fun hlt => hlt.ne

theorem Increasing.map (h : Increasing es) (f : α → β) :
    Increasing (es.map fun e => (e.1, f e.2)) := List.pairwise_map.mpr h

theorem increasing_sorted (h : (keys es).Nodup) : Increasing (sorted es) := by
  have hn : (keys (sorted es)).Nodup := ((sorted_perm es).map _).symm.nodup h
  rw [keys, List.nodup_iff_pairwise_ne, List.pairwise_map] at hn
  exact ((pairwise_sorted es).and hn).imp fun hab => lt_of_le_of_ne hab.1 hab.2

theorem Increasing.eq_sorted {ordered : Entries α} (h : Increasing ordered)
    (hp : ordered.Perm es) : ordered = sorted es := by
  have hn : (keys es).Nodup := (hp.map _).nodup h.nodup
  refine List.Perm.eq_of_pairwise ?_ (h.imp le_of_lt) (pairwise_sorted es)
    (hp.trans (sorted_perm es).symm)
  intro a b ha hb hab hba
  have hname : a.1 = b.1 := hab.antisymm hba
  have hfa := (find?_eq_some_iff_mem hn).mpr (hp.mem_iff.mp ha)
  have hfb := (find?_eq_some_iff_mem hn).mpr ((sorted_perm es).mem_iff.mp hb)
  rw [hname, hfb, Option.some.injEq] at hfa
  exact Prod.ext hname hfa.symm

end Entries

namespace Json

variable {name : String} {value : Json} {fields acc : List (String × Json)}

theorem insertField_perm (h : name ∉ Entries.keys fields) :
    (insertField name value fields).Perm ((name, value) :: fields) := by
  induction fields with
  | nil => exact .refl _
  | cons field fields ih =>
    obtain ⟨k, v⟩ := field
    obtain ⟨hk, hrest⟩ := not_or.mp (mt List.mem_cons.mpr h)
    rw [insertField]
    split
    · exact .refl _
    · exact ((ih hrest).cons _).trans (.swap ..)

theorem increasing_insertField (h : Entries.Increasing fields) (hn : name ∉ Entries.keys fields) :
    Entries.Increasing (insertField name value fields) := by
  induction fields with
  | nil => exact List.pairwise_singleton ..
  | cons field fields ih =>
    obtain ⟨k, v⟩ := field
    obtain ⟨hk, hrest⟩ := not_or.mp (mt List.mem_cons.mpr hn)
    obtain ⟨habove, hfields⟩ := List.pairwise_cons.mp h
    rw [insertField]
    split
    · rename_i hlt
      refine List.pairwise_cons.mpr ⟨?_, h⟩
      exact List.forall_mem_cons.mpr ⟨hlt, fun f hf => hlt.trans (habove f hf)⟩
    · rename_i hge
      refine List.pairwise_cons.mpr ⟨fun f hf => ?_, ih hfields hrest⟩
      rcases List.mem_cons.mp ((insertField_perm hrest).mem_iff.mp hf) with rfl | hf
      · exact lt_of_le_of_ne (not_lt.mp hge) (Ne.symm hk)
      · exact habove f hf

theorem foldl_insertField (hacc : Entries.Increasing acc)
    (h : (Entries.keys (acc ++ fields)).Nodup) :
    Entries.Increasing (fields.foldl (fun acc (k, v) => insertField k v acc) acc) ∧
      (fields.foldl (fun acc (k, v) => insertField k v acc) acc).Perm (acc ++ fields) := by
  induction fields generalizing acc with
  | nil =>
    rw [List.append_nil]
    exact ⟨hacc, .refl _⟩
  | cons field fields ih =>
    obtain ⟨k, v⟩ := field
    have hmiddle : (acc ++ (k, v) :: fields).Perm (((k, v) :: acc) ++ fields) :=
      List.perm_middle
    have hnodup : (Entries.keys ((k, v) :: acc ++ fields)).Nodup := (hmiddle.map _).nodup h
    have hk : k ∉ Entries.keys acc := by
      intro hk
      refine (List.nodup_cons.mp hnodup).1 ?_
      exact ((List.sublist_append_left acc fields).map _).subset hk
    have hinsert : (insertField k v acc ++ fields).Perm ((k, v) :: acc ++ fields) :=
      (insertField_perm hk).append_right fields
    obtain ⟨hincreasing, hperm⟩ :=
      ih (increasing_insertField hacc hk) ((hinsert.map _).symm.nodup hnodup)
    exact ⟨hincreasing, hperm.trans (hinsert.trans hmiddle.symm)⟩

theorem ofFields_eq (h : (Entries.keys fields).Nodup) :
    ofFields fields = .object (Entries.sorted fields) := by
  obtain ⟨hincreasing, hperm⟩ := foldl_insertField .nil h
  rw [ofFields]
  exact congrArg object (hincreasing.eq_sorted hperm)

theorem ofFields_of_increasing (h : Entries.Increasing fields) : ofFields fields = .object fields :=
  (ofFields_eq h.nodup).trans (congrArg object (h.eq_sorted (.refl _)).symm)

inductive Canonical : Json → Prop where
  | null : Canonical null
  | bool (b : Bool) : Canonical (bool b)
  | number {n : Number} (h : n.InJson) : Canonical (number n)
  | string (s : String) : Canonical (string s)
  | array {items : List Json} (h : ∀ j ∈ items, Canonical j) : Canonical (array items)
  | object {fields : List (String × Json)} (ordered : Entries.Increasing fields)
    (h : ∀ f ∈ fields, Canonical f.2) : Canonical (object fields)

end Json

namespace Node

def sortedAlgebra : Algebra Node where
  null := null
  bool := bool
  number := number
  string := string
  seq := seq
  map es := map (Entries.sorted es)
  tag := tag

def sorted (n : Node) : Node := n.fold sortedAlgebra

/-- What JSON can hold of a node by itself: neither a tag nor a document, a number that there is in
JSON, a map of distinct keys. -/
def FitsJson : Node → Prop
  | number n => n.InJson
  | map m => (Entries.keys m).Nodup
  | tag _ | document _ => False
  | _ => True

instance : DecidablePred FitsJson
  | number n => inferInstanceAs (Decidable n.InJson)
  | map m => inferInstanceAs (Decidable (Entries.keys m).Nodup)
  | tag _ | document _ => inferInstanceAs (Decidable False)
  | null | bool _ | string _ | seq _ => inferInstanceAs (Decidable True)

abbrev Portable (n : Node) : Prop := n.Throughout FitsJson fun _ => True

variable {items : List Node} {m : Mapping} {xs : List Json} {fields : List (String × Json)}

theorem toJson_seq (items : List Node) : (seq items).toJson = .array (items.map toJson) :=
  congrArg Json.array (foldItems_eq_map ..)

theorem toJson_map (m : Mapping) :
    (map m).toJson = Json.ofFields (m.map fun e => (e.1, e.2.toJson)) :=
  congrArg Json.ofFields (foldEntries_eq_map ..)

theorem sorted_seq (items : List Node) : (seq items).sorted = seq (items.map sorted) :=
  congrArg seq (foldItems_eq_map ..)

theorem map_sorted (m : Mapping) :
    (map m).sorted = map (Entries.sorted (m.map fun e => (e.1, e.2.sorted))) :=
  congrArg (fun es => map (Entries.sorted es)) (foldEntries_eq_map ..)

theorem itemsOfJson_eq_map (xs : List Json) : itemsOfJson xs = xs.map ofJson := by
  induction xs with
  | nil => rfl
  | cons x xs ih => rw [itemsOfJson, ih, List.map_cons]

theorem fieldsOfJson_eq_map (fields : List (String × Json)) :
    fieldsOfJson fields = fields.map fun f => (f.1, ofJson f.2) := by
  induction fields with
  | nil => rfl
  | cons f fields ih => rw [fieldsOfJson, ih, List.map_cons]

theorem ofJson_array (xs : List Json) : ofJson (.array xs) = seq (xs.map ofJson) := by
  rw [ofJson, itemsOfJson_eq_map]

theorem ofJson_object (fields : List (String × Json)) :
    ofJson (.object fields) = map (fields.map fun f => (f.1, ofJson f.2)) := by
  rw [ofJson, fieldsOfJson_eq_map]

theorem toJson_number {x : Number} (h : x.InJson) : (number x).toJson = .number x := by
  change jsonNumber x = .number x
  rw [jsonNumber, Number.handedOn_of_inJson h]
  cases x with
  | int i => rfl
  | float y =>
    cases y with
    | finite s a b => rfl
    | nan | infinity s => cases h

theorem canonical_toJson {n : Node} (h : n.Portable) : n.toJson.Canonical := by
  induction n using of_parts with
  | step n ih =>
    have hhere := h.here
    cases n with
    | null => exact .null
    | bool b => exact .bool b
    | string s => exact .string s
    | number x =>
      rw [toJson_number hhere]
      exact .number hhere
    | seq items =>
      rw [toJson_seq]
      exact .array (List.forall_mem_map.mpr fun x hx => ih x hx (h.part hx))
    | map m =>
      have hkeys : (Entries.keys (m.map fun e => (e.1, e.2.toJson))).Nodup := by
        rw [Entries.keys_map_values toJson m]
        exact hhere
      rw [toJson_map, Json.ofFields_eq hkeys]
      refine .object (Entries.increasing_sorted hkeys) fun f hf => ?_
      obtain ⟨e, he, rfl⟩ := List.mem_map.mp ((Entries.sorted_perm _).mem_iff.mp hf)
      exact ih e.2 (mem_parts_map he) (h.part (mem_parts_map he))
    | tag _ | document _ => exact hhere.elim

theorem ofJson_toJson {n : Node} (h : n.Portable) : ofJson n.toJson = n.sorted := by
  induction n using of_parts with
  | step n ih =>
    have hhere := h.here
    cases n with
    | null | bool _ | string _ => rfl
    | number x =>
      rw [toJson_number hhere]
      exact congrArg number (Number.handedOn_of_inJson hhere)
    | seq items =>
      rw [toJson_seq, ofJson_array, sorted_seq, List.map_map]
      exact congrArg seq (List.map_congr_left fun x hx => ih x hx (h.part hx))
    | map m =>
      have hkeys : (Entries.keys (m.map fun e => (e.1, e.2.toJson))).Nodup := by
        rw [Entries.keys_map_values toJson m]
        exact hhere
      rw [toJson_map, Json.ofFields_eq hkeys, ofJson_object, map_sorted, ← Entries.sorted_map,
        List.map_map]
      refine congrArg (fun es => map (Entries.sorted es)) (List.map_congr_left fun e he => ?_)
      exact congrArg (Prod.mk e.1) (ih e.2 (mem_parts_map he) (h.part (mem_parts_map he)))
    | tag _ | document _ => exact hhere.elim

theorem same_scalar {n : Node} (h : n.isScalar = true) : n.same n = true := by
  cases n with
  | null => rw [same]
  | bool b => rw [same, beq_self_eq_true]
  | number x => rw [same, Number.same_refl]
  | string s => rw [same, beq_self_eq_true]
  | seq _ | map _ | tag _ | document _ => cases h

theorem sameItems_map {f : Node → Node} (h : ∀ x ∈ items, (f x).same x = true) :
    sameItems (items.map f) items = true := by
  induction items with
  | nil => rw [List.map_nil, sameItems]
  | cons x items ih =>
    obtain ⟨hx, hitems⟩ := List.forall_mem_cons.mp h
    rw [List.map_cons, sameItems, hx, ih hitems, Bool.and_self]

theorem same_sorted {n : Node} (h : n.Portable) : n.sorted.same n = true := by
  induction n using of_parts with
  | step n ih =>
    have hhere := h.here
    cases n with
    | null | bool _ | number _ | string _ => exact same_scalar rfl
    | seq items =>
      rw [sorted_seq, same]
      exact sameItems_map fun x hx => ih x hx (h.part hx)
    | map m =>
      have hp := Entries.sorted_perm (m.map fun e => (e.1, e.2.sorted))
      rw [map_sorted, same, Bool.and_eq_true, beq_iff_eq, sameEntries_iff]
      refine ⟨hp.length_eq.trans (List.length_map _), fun f hf => ?_⟩
      obtain ⟨e, he, rfl⟩ := List.mem_map.mp (hp.mem_iff.mp hf)
      exact ⟨e.2, (Entries.find?_eq_some_iff_mem hhere).mpr he,
        ih e.2 (mem_parts_map he) (h.part (mem_parts_map he))⟩
    | tag _ | document _ => exact hhere.elim

theorem portable_ofJson {j : Json} (h : j.Canonical) : (ofJson j).Portable := by
  induction h with
  | null | bool _ | string _ => exact throughout_of_scalar rfl trivial
  | number h =>
    rw [ofJson, Number.handedOn_of_inJson h]
    exact throughout_of_scalar rfl h
  | array _ ih =>
    rw [ofJson_array]
    exact throughout_seq.mpr ⟨trivial, List.forall_mem_map.mpr ih⟩
  | object ordered _ ih =>
    rw [ofJson_object]
    exact throughout_map.mpr ⟨(ordered.map ofJson).nodup, List.forall_mem_map.mpr ih⟩

theorem toJson_ofJson {j : Json} (h : j.Canonical) : (ofJson j).toJson = j := by
  induction h with
  | null | bool _ | string _ => rfl
  | number h => rw [ofJson, Number.handedOn_of_inJson h, toJson_number h]
  | array _ ih =>
    rw [ofJson_array, toJson_seq, List.map_map]
    exact congrArg Json.array ((List.map_congr_left ih).trans (List.map_id _))
  | @object fields ordered _ ih =>
    have hfields : (fields.map fun f => (f.1, (ofJson f.2).toJson)) = fields :=
      (List.map_congr_left fun f hf => congrArg (Prod.mk f.1) (ih f hf)).trans (List.map_id _)
    rw [ofJson_object, toJson_map, List.map_map]
    exact (congrArg Json.ofFields hfields).trans (Json.ofFields_of_increasing ordered)

/-- Only the order of maps is lost on the way to JSON and back, and on the way from JSON and back
nothing is. -/
theorem json_round_trip :
    (∀ n : Node, n.Portable →
      n.toJson.Canonical ∧ ofJson n.toJson = n.sorted ∧ (ofJson n.toJson).same n = true) ∧
    ∀ j : Json, j.Canonical → (ofJson j).Portable ∧ (ofJson j).toJson = j := by
  refine ⟨fun n hn => ?_, fun j hj => ⟨portable_ofJson hj, toJson_ofJson hj⟩⟩
  have hback : ofJson n.toJson = n.sorted := ofJson_toJson hn
  refine ⟨canonical_toJson hn, hback, ?_⟩
  rw [hback]
  exact same_sorted hn

theorem json_round_trip_of_words :
    let words := seq [number (.int Number.minInt), number (.int Number.maxSigned),
      number (.int (Number.maxSigned + 1)), number (.int Number.maxInt),
      number (.float (.finite false 3 (-1)))]
    let unordered := map [("b", words), ("a", map [("d", null), ("c", string "x")])]
    let ordered := map [("a", map [("c", string "x"), ("d", null)]), ("b", words)]
    (ofJson unordered.toJson = ordered ∧ (ofJson unordered.toJson).same unordered = true) ∧
      (ofJson ordered.toJson).toJson = ordered.toJson := by
  intro words unordered ordered
  have hwords : words.Portable := by
    refine throughout_seq.mpr ⟨trivial, ?_⟩
    simp only [List.forall_mem_cons, List.not_mem_nil, false_imp_iff, implies_true, and_true]
    refine ⟨?_, ?_, ?_, ?_, ?_⟩ <;> exact throughout_of_scalar rfl (by decide)
  have hunordered : unordered.Portable := by
    refine throughout_map.mpr ⟨by decide, ?_⟩
    simp only [List.forall_mem_cons, List.not_mem_nil, false_imp_iff, implies_true, and_true]
    refine ⟨hwords, throughout_map.mpr ⟨by decide, ?_⟩⟩
    simp only [List.forall_mem_cons, List.not_mem_nil, false_imp_iff, implies_true, and_true]
    exact ⟨throughout_of_scalar rfl trivial, throughout_of_scalar rfl trivial⟩
  have hordered : ofJson unordered.toJson = ordered := by
    with_unfolding_all rfl
  obtain ⟨hcanonical, -, hsame⟩ := json_round_trip.1 unordered hunordered
  refine ⟨⟨hordered, hsame⟩, ?_⟩
  have hportable := (json_round_trip.2 unordered.toJson hcanonical).1
  rw [hordered] at hportable
  exact (json_round_trip.2 ordered.toJson (json_round_trip.1 ordered hportable).1).2

end Node

end InfraTemplate
