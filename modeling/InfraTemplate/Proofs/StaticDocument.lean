import InfraTemplate.Proofs.HoistedSections
import InfraTemplate.Proofs.KeyLeakage
import InfraTemplate.Proofs.VerbatimText
import Mathlib.Data.String.Basic

namespace InfraTemplate

theorem Evaluator.interpolated_verbatim {ev : Evaluator} {s : String} {path : Path} {env : Env}
    (h : Interpolation.isVerbatim s = true) : ev.interpolated s path env = pure s := by
  unfold interpolated
  split
  · exact Interpolation.interpolate_verbatim path _ h
  · rfl

namespace Text

theorem utf8Len_of_dropBytes? {n : Nat} {cs rest : List Char} (h : dropBytes? n cs = some rest) :
    n + String.utf8Len rest = String.utf8Len cs := by
  induction cs generalizing n with
  | nil =>
    cases n with
    | zero =>
      cases h
      rfl
    | succ n => cases h
  | cons c cs ih =>
    cases n with
    | zero =>
      cases h
      omega
    | succ n =>
      rw [dropBytes?] at h
      split at h
      · rename_i hc
        have hrest := ih h
        rw [String.utf8Len_cons]
        omega
      · cases h

end Text

namespace Evaluator

theorem calendarDate_of_short {s : String} (h : s.utf8ByteSize ≤ 10) :
    calendarDate (.string s) = .string s := by
  have hlen : s.utf8ByteSize = String.utf8Len s.toList := by
    rw [← String.utf8ByteSize_ofList, String.ofList_toList]
  simp only [calendarDate]
  split
  · rename_i rest hrest
    have hsum := Text.utf8Len_of_dropBytes? hrest
    cases rest with
    | nil => rfl
    | cons c rest =>
      have hc : 0 < c.utf8Size := Char.utf8Size_pos c
      rw [String.utf8Len_cons] at hsum
      omega
  · rfl

end Evaluator

namespace Node

def isOwnResource : Node → Bool
  | map m =>
    !Entries.has globalMarker m &&
      match Entries.find? "Type" m with
      | none => true
      | some (string type) => Resource.isLiteralType type
      | some _ => false
  | _ => true

def fits (key : String) (n : Node) : Bool :=
  if key = "Resources" then
    match n with
    | map resources => resources.all fun e => e.2.isOwnResource
    | _ => true
  else if key = "AWSTemplateFormatVersion" then
    match n with
    | string s => s.utf8ByteSize ≤ 10
    | tag _ => false
    | _ => true
  else true

def isStaticKey (key : String) : Bool :=
  !isBookkeeping key && !isMergeKey key && Interpolation.isVerbatim key

def isClean (n : Node) : Bool := n.isPlainBut (fun _ => true) isOutward

theorem isClean_seq {xs : List Node} : (seq xs).isClean = true ↔ ∀ x ∈ xs, x.isClean = true :=
  isPlainBut_seq

theorem isClean_map {m : Mapping} :
    (map m).isClean = true ↔ ∀ e ∈ m, isOutward e.1 = true ∧ e.2.isClean = true :=
  isPlainBut_map

mutual

def isStatic : Node → Bool
  | string s => Interpolation.isVerbatim s
  | seq xs => areStatic xs
  | map m => decide (Entries.keys m).Nodup && entriesAreStatic m
  | tag (.apply .escape payload) => payload.isClean
  | tag _ => false
  | document _ => false
  | _ => true

def areStatic : List Node → Bool
  | [] => true
  | x :: xs => isStatic x && areStatic xs

def entriesAreStatic : List (String × Node) → Bool
  | [] => true
  | (k, x) :: rest => isStaticKey k && fits k x && isStatic x && entriesAreStatic rest

end

mutual

def unescaped : Node → Node
  | seq xs => seq (unescapedItems xs)
  | map m => map (unescapedEntries m)
  | tag (.apply .escape payload) => payload
  | n => n

def unescapedItems : List Node → List Node
  | [] => []
  | x :: xs => unescaped x :: unescapedItems xs

def unescapedEntries : List (String × Node) → Mapping
  | [] => []
  | (k, x) :: rest => (k, unescaped x) :: unescapedEntries rest

end

theorem unescapedItems_eq_map (xs : List Node) : unescapedItems xs = xs.map unescaped := by
  induction xs with
  | nil => rfl
  | cons x xs ih => rw [unescapedItems, ih, List.map_cons]

theorem unescapedEntries_eq_map (m : Mapping) :
    unescapedEntries m = m.map fun e => (e.1, e.2.unescaped) := by
  induction m with
  | nil => rfl
  | cons e m ih => rw [unescapedEntries, ih, List.map_cons]

theorem keys_unescapedEntries (m : Mapping) :
    Entries.keys (unescapedEntries m) = Entries.keys m := by
  rw [unescapedEntries_eq_map, Entries.keys, List.map_map]
  rfl

theorem isStatic_seq {xs : List Node} : (seq xs).isStatic = true ↔ ∀ x ∈ xs, x.isStatic = true := by
  rw [isStatic]
  induction xs with
  | nil => simp [areStatic]
  | cons x xs ih => simp [areStatic, ih]

structure StaticEntry (key : String) (n : Node) : Prop where
  isKey : isStaticKey key = true
  isFit : n.fits key = true
  value : n.isStatic = true

theorem isStatic_map {m : Mapping} : (map m).isStatic = true ↔
    (Entries.keys m).Nodup ∧ ∀ e ∈ m, StaticEntry e.1 e.2 := by
  have hentries : entriesAreStatic m = true ↔ ∀ e ∈ m, StaticEntry e.1 e.2 := by
    induction m with
    | nil => simp [entriesAreStatic]
    | cons e m ih =>
      obtain ⟨k, x⟩ := e
      rw [entriesAreStatic, Bool.and_eq_true, ih]
      simp only [Bool.and_eq_true, List.forall_mem_cons]
      refine and_congr_left fun _ => ?_
      exact ⟨fun ⟨⟨hk, hf⟩, hx⟩ => ⟨hk, hf, hx⟩, fun h => ⟨⟨h.isKey, h.isFit⟩, h.value⟩⟩
  rw [isStatic, Bool.and_eq_true, decide_eq_true_eq, hentries]

theorem StaticEntry.not_bookkeeping {key : String} {n : Node} (h : StaticEntry key n) :
    isBookkeeping key = false := by
  have hk := h.isKey
  simp only [isStaticKey, Bool.and_eq_true, Bool.not_eq_true'] at hk
  exact hk.1.1

theorem StaticEntry.not_merge {key : String} {n : Node} (h : StaticEntry key n) :
    isMergeKey key = false := by
  have hk := h.isKey
  simp only [isStaticKey, Bool.and_eq_true, Bool.not_eq_true'] at hk
  exact hk.1.2

theorem StaticEntry.verbatim {key : String} {n : Node} (h : StaticEntry key n) :
    Interpolation.isVerbatim key = true := by
  have hk := h.isKey
  simp only [isStaticKey, Bool.and_eq_true] at hk
  exact hk.2

end Node

theorem Contribution.assemble_unescaped {m : Mapping} {f : String × Node → Eval Contribution}
    (hn : (Entries.keys m).Nodup) (h : ∀ e ∈ m, f e = pure (.entry e.1 e.2.unescaped)) :
    assemble <$> m.mapM f = pure (Node.unescapedEntries m) := by
  have hentries (es : Mapping) (hes : (Entries.keys es).Nodup) :
      assemble (es.map fun e => .entry e.1 e.2) = es := by
    rw [assemble, List.foldl_map]
    exact Entries.ofPairs_of_nodup hes
  have hmap : (m.map fun e => Contribution.entry e.1 e.2.unescaped) =
      (Node.unescapedEntries m).map fun e => .entry e.1 e.2 := by
    rw [Node.unescapedEntries_eq_map, List.map_map]
    rfl
  rw [mapM_eq_pure h, map_pure, hmap, hentries]
  rw [Node.keys_unescapedEntries]
  exact hn

namespace Evaluator

open Node

variable {ev : Evaluator} {env : Env} {path : Path} {key : String} {n : Node} {m : Mapping}

theorem calendarDate_unescaped (hf : n.fits formatVersionKey = true) :
    calendarDate n.unescaped = n.unescaped := by
  cases n with
  | string s =>
    have hs : s.utf8ByteSize ≤ 10 := by simpa [fits, formatVersionKey, resourcesKey] using hf
    exact calendarDate_of_short hs
  | tag t => simp [fits, formatVersionKey] at hf
  | null | bool _ | number _ | seq _ | map _ | document _ => rfl

theorem mapValue_static (hf : n.fits key = true)
    (hn : ∀ path, ev.node n path env = pure n.unescaped)
    (hr : ∀ rs, n = .map rs → key = resourcesKey →
      ∀ path, ev.resources rs path env = pure (unescapedEntries rs)) :
    ev.mapValue key n path env = pure n.unescaped := by
  unfold mapValue
  split
  · rename_i hk
    have hk : key = resourcesKey := by
      simp only [Bool.and_eq_true, decide_eq_true_eq] at hk
      exact hk.1
    split
    · rename_i rs
      simp only [hr rs rfl hk, pure_bind, unescaped]
    · exact hn _
  · split
    · rename_i hk
      simp only [hn, pure_bind, calendarDate_unescaped (hk ▸ hf)]
    · exact hn _

theorem map_static (hm : (Node.map m).isStatic = true)
    (hn : ∀ e ∈ m, ∀ path, ev.node e.2 path env = pure e.2.unescaped)
    (hr : ∀ e ∈ m, ∀ rs, e.2 = .map rs → e.1 = resourcesKey →
      ∀ path, ev.resources rs path env = pure (unescapedEntries rs)) :
    ev.map m path env = pure (unescapedEntries m) := by
  obtain ⟨hnodup, hentry⟩ := isStatic_map.mp hm
  refine Contribution.assemble_unescaped hnodup fun e he => ?_
  have hs := hentry e he
  have hvalue : ev.mapValue e.1 e.2 path env = pure e.2.unescaped :=
    mapValue_static hs.isFit (hn e he) (hr e he)
  simp only [mapEntry, hs.not_bookkeeping, hs.not_merge, Bool.false_eq_true, ↓reduceIte]
  rw [hvalue, pure_bind, interpolated_verbatim hs.verbatim, pure_bind]

theorem takeGlobal_of_not_has (h : Entries.has globalMarker m = false) :
    Sections.takeGlobal m = (m, false) := by
  have hmem : globalMarker ∉ Entries.keys m := fun hk => by
    rw [Entries.has_iff.mpr hk] at h
    cases h
  have hremove : Entries.remove globalMarker m = m := by
    refine List.filter_eq_self.mpr fun e he => ?_
    simp only [bne_iff_ne, ne_eq]
    intro hk
    exact hmem (hk ▸ List.mem_map_of_mem he)
  rw [Sections.takeGlobal, hremove, Entries.find?_eq_none_iff.mpr hmem]
  rfl

theorem literal_static (henv : env.naming? = none) (hg : Entries.has globalMarker m = false)
    {body : Mapping} (hm : ev.map m path env = pure body) {name : String} :
    ev.literal name m path env = pure (name, .map body) := by
  rw [literal, takeGlobal_of_not_has hg]
  simp only [hm, pure_bind, Bool.false_eq_true, ↓reduceIte, Env.qualify, Resource.qualifyNamed, henv]

theorem classify_static (hm : (Node.map m).isStatic = true)
    (ho : (Node.map m).isOwnResource = true) {name : String} :
    ev.classify name m path env = pure .literal := by
  rw [isOwnResource, Bool.and_eq_true] at ho
  have htype := ho.2
  unfold classify
  cases hf : Entries.find? "Type" m with
  | none => rfl
  | some type =>
    rw [hf] at htype
    cases type with
    | string s =>
      have hs := ((isStatic_map.mp hm).2 _ (Entries.mem_of_find? hf)).value
      rw [isStatic] at hs
      simp only [resourceType, interpolated_verbatim hs, pure_bind]
      rw [if_pos htype]
    | null | bool _ | number _ | seq _ | map _ | tag _ | document _ => cases htype

theorem resourceSection_static (henv : env.naming? = none) (hm : (Node.map m).isStatic = true)
    (ho : ∀ e ∈ m, e.2.isOwnResource = true)
    (hn : ∀ e ∈ m, ∀ path, ev.node e.2 path env = pure e.2.unescaped)
    (hd : ∀ e ∈ m, ∀ d, e.2 = .map d → ∀ path, ev.map d path env = pure (unescapedEntries d)) :
    ev.resourceSection m path env = pure (unescapedEntries m) := by
  obtain ⟨hnodup, hentry⟩ := isStatic_map.mp hm
  refine Contribution.assemble_unescaped hnodup ?_
  rintro ⟨name, n⟩ he
  have hs := hentry _ he
  simp only [resourceEntry, hs.not_bookkeeping, hs.not_merge, Bool.false_eq_true, ↓reduceIte]
  cases n with
  | map d =>
    have hown := ho _ he
    have hg : Entries.has globalMarker d = false := by
      rw [isOwnResource, Bool.and_eq_true, Bool.not_eq_true'] at hown
      exact hown.1
    simp only [classify_static hs.value hown, literal_static henv hg (hd _ he d rfl _), pure_bind,
      unescaped]
  | null | bool _ | number _ | string _ | seq _ | tag _ | document _ =>
    simp only [hn _ he, pure_bind, Env.qualify, henv]

structure Keeps (ev : Evaluator) (env : Env) (k : Nat) : Prop where
  node : ∀ n : Node, sizeOf n ≤ k → n.isStatic = true →
    ∀ path, ev.node n path env = pure n.unescaped
  resources : ∀ m : Mapping, sizeOf (Node.map m) ≤ k → (Node.map m).isStatic = true →
    (∀ e ∈ m, e.2.isOwnResource = true) →
    ∀ path, ev.resources m path env = pure (unescapedEntries m)

namespace Keeps

variable {k : Nat}

theorem value (h : ev.Keeps env k) (hsize : sizeOf (Node.map m) ≤ k + 1)
    (hm : (Node.map m).isStatic = true) :
    ∀ e ∈ m, ∀ path, ev.node e.2 path env = pure e.2.unescaped := by
  intro e he
  have hlt := Node.sizeOf_part (Node.mem_parts_map he)
  exact h.node e.2 (by omega) ((isStatic_map.mp hm).2 e he).value

theorem map (h : ev.Keeps env k) (hsize : sizeOf (Node.map m) ≤ k + 1)
    (hm : (Node.map m).isStatic = true) (path : Path) :
    ev.map m path env = pure (unescapedEntries m) := by
  refine map_static hm (h.value hsize hm) ?_
  rintro ⟨key, n⟩ he rs rfl rfl
  have hlt : sizeOf (Node.map rs) < sizeOf (Node.map m) :=
    Node.sizeOf_part (Node.mem_parts_map he)
  have hs := (isStatic_map.mp hm).2 _ he
  have hown : ∀ e ∈ rs, e.2.isOwnResource = true := by
    have hf : (rs.all fun e => e.2.isOwnResource) = true := hs.isFit
    exact List.all_eq_true.mp hf
  exact h.resources rs (by omega) hs.value hown

theorem resourceSection (h : ev.Keeps env k) (henv : env.naming? = none)
    (hsize : sizeOf (Node.map m) ≤ k + 1) (hm : (Node.map m).isStatic = true)
    (ho : ∀ e ∈ m, e.2.isOwnResource = true) (path : Path) :
    ev.resourceSection m path env = pure (unescapedEntries m) := by
  refine resourceSection_static henv hm ho (h.value hsize hm) ?_
  rintro ⟨name, n⟩ he d rfl path
  have hlt : sizeOf (Node.map d) < sizeOf (Node.map m) := Node.sizeOf_part (Node.mem_parts_map he)
  exact h.map (by omega) ((isStatic_map.mp hm).2 _ he).value path

theorem step (h : ev.Keeps env k) (hsize : sizeOf n ≤ k + 1) (hn : n.isStatic = true)
    (path : Path) : ev.step n path env = pure n.unescaped := by
  cases n with
  | null | bool _ | number _ => rfl
  | string s =>
    rw [isStatic] at hn
    rw [Evaluator.step, interpolated_verbatim hn, pure_bind]
    rfl
  | seq xs =>
    have hitems : ∀ x ∈ xs.zipIdx, ev.node x.1 (path.item x.2) env = pure x.1.unescaped := by
      intro x hx
      have hmem : x.1 ∈ xs := List.fst_mem_of_mem_zipIdx hx
      have hlt : sizeOf x.1 < sizeOf (Node.seq xs) := Node.sizeOf_part hmem
      exact h.node x.1 (by omega) (isStatic_seq.mp hn x.1 hmem) _
    have hfst : xs.zipIdx.map (unescaped ∘ Prod.fst) = xs.map unescaped := by
      rw [← List.map_map, List.zipIdx_map_fst]
    rw [Evaluator.step, items, mapM_eq_pure (g := unescaped ∘ Prod.fst) hitems, hfst, pure_bind,
      unescaped, unescapedItems_eq_map]
  | map m => rw [Evaluator.step, h.map hsize hn, pure_bind, unescaped]
  | tag t =>
    cases t with
    | apply op payload =>
      cases op <;> first | rfl | cases hn
    | _ => cases hn
  | document d => cases hn

end Keeps

theorem keeps_upTo (k : Nat) (henv : env.naming? = none) : (upTo k).Keeps env k := by
  induction k with
  | zero =>
    constructor
    · -- There is no tree without a part.
      intro n hn
      cases n <;> simp at hn
    · intro m hm
      simp at hm
  | succ k ih =>
    constructor
    · intro n hsize hn path
      exact ih.step hsize hn path
    · intro m hsize hm ho path
      exact ih.resourceSection henv hsize hm ho path

end Evaluator

namespace Node

mutual

theorem strip_of_clean : (n : Node) → n.isClean = true → n.stripBookkeeping = n
  | seq xs, h => by rw [stripBookkeeping, stripItems_of_clean xs (isClean_seq.mp h)]
  | map m, h => by rw [stripBookkeeping, stripEntries_of_clean m (isClean_map.mp h)]
  | null, _ | bool _, _ | number _, _ | string _, _ | tag _, _ | document _, _ => rfl

theorem stripItems_of_clean :
    (xs : List Node) → (∀ x ∈ xs, x.isClean = true) → stripItems xs = xs
  | [], _ => rfl
  | x :: xs, h => by
    have hx := strip_of_clean x (h x (List.mem_cons_self ..))
    have hxs := stripItems_of_clean xs fun y hy => h y (List.mem_cons_of_mem _ hy)
    rw [stripItems, hx, hxs]

theorem stripEntries_of_clean : (m : List (String × Node)) →
    (∀ e ∈ m, isOutward e.1 = true ∧ e.2.isClean = true) → stripEntries m = m
  | [], _ => rfl
  | (k, x) :: rest, h => by
    obtain ⟨hk, hx⟩ := h (k, x) (List.mem_cons_self ..)
    have hkey : isBookkeeping k = false := by rwa [isOutward, Bool.not_eq_true'] at hk
    have hrest := stripEntries_of_clean rest fun e he => h e (List.mem_cons_of_mem _ he)
    rw [stripEntries, hkey, strip_of_clean x hx, hrest]
    rfl

end

mutual

theorem clean_unescaped : (n : Node) → n.isStatic = true → n.unescaped.isClean = true
  | seq xs, h => by
    rw [unescaped, isClean_seq]
    exact clean_unescapedItems xs (isStatic_seq.mp h)
  | map m, h => by
    rw [unescaped, isClean_map]
    exact clean_unescapedEntries m (isStatic_map.mp h).2
  | null, _ | bool _, _ | number _, _ | string _, _ => rfl
  | tag t, h => by
    cases t with
    | apply op payload =>
      cases op with
      | escape => exact h
      | _ => cases h
    | _ => cases h
  | document _, h => by cases h

theorem clean_unescapedItems : (xs : List Node) → (∀ x ∈ xs, x.isStatic = true) →
    ∀ y ∈ unescapedItems xs, y.isClean = true
  | [], _ => fun _ hy => absurd hy List.not_mem_nil
  | x :: xs, h => by
    rw [unescapedItems, List.forall_mem_cons]
    constructor
    · exact clean_unescaped x (h x (List.mem_cons_self ..))
    · exact clean_unescapedItems xs fun y hy => h y (List.mem_cons_of_mem _ hy)

theorem clean_unescapedEntries : (m : List (String × Node)) →
    (∀ e ∈ m, StaticEntry e.1 e.2) →
      ∀ e ∈ unescapedEntries m, isOutward e.1 = true ∧ e.2.isClean = true
  | [], _ => fun _ he => absurd he List.not_mem_nil
  | (k, x) :: rest, h => by
    have hx := h (k, x) (List.mem_cons_self ..)
    rw [unescapedEntries, List.forall_mem_cons]
    constructor
    · exact ⟨outward_of_not_bookkeeping _ hx.not_bookkeeping, clean_unescaped x hx.value⟩
    · exact clean_unescapedEntries rest fun e he => h e (List.mem_cons_of_mem _ he)

end

end Node

namespace Loader

theorem load_static {m : Mapping} (h : (Node.map m).isStatic = true) (c : Loader)
    (location : String) : c.load m location = pure ⟨location, m, [], .empty⟩ := by
  have hkey : ∀ e ∈ m, isBookkeeping e.1 = false := fun e he =>
    ((Node.isStatic_map.mp h).2 e he).not_bookkeeping
  have hnone {key : String} (hb : isBookkeeping key = true) : Entries.find? key m = none := by
    rw [Entries.find?_eq_none_iff]
    intro hmem
    obtain ⟨e, he, rfl⟩ := List.mem_map.mp hmem
    rw [hkey e he] at hb
    cases hb
  have hlocation : Loading.declaredLocation m location = location := by
    rw [Loading.declaredLocation, hnone (by decide)]
  have hdeclared {key : String} (hb : isBookkeeping key = true) :
      Loading.declared m key location = .ok [] := by
    rw [Loading.declared, hnone hb]
  have hparams : Param.declarations (Entries.find? paramsKey m) location = .ok [] := by
    rw [hnone (by decide)]
    rfl
  have hdefs : Loading.declared m defsKey location = .ok [] := hdeclared (by decide)
  have himports : Loading.declared m importsKey location = .ok [] := hdeclared (by decide)
  rw [load, loadWithin, Loading.document]
  simp only [hlocation, hparams, hdefs, himports]
  rw [List.filter_eq_self.mpr]
  · rfl
  · intro e he
    simp [hkey e he]

end Loader

theorem Entries.put_of_find? {α : Type} {name : String} {a b : α} {es : Entries α}
    (hn : (keys es).Nodup) (h : find? name es = some b) :
    put name a es = es.map fun e => (e.1, if e.1 = name then a else e.2) := by
  induction es with
  | nil => cases h
  | cons e es ih =>
    obtain ⟨k, c⟩ := e
    obtain ⟨hk, hrest⟩ := List.nodup_cons.mp hn
    rw [find?_cons] at h
    rw [put, List.map_cons]
    by_cases he : k = name
    · subst he
      have hother : es.map (fun e => (e.1, if e.1 = k then a else e.2)) = es := by
        conv_rhs => rw [← List.map_id es]
        refine List.map_congr_left fun e he => ?_
        have hmem : e.1 ∈ keys es := List.mem_map_of_mem he
        have hne : e.1 ≠ k := fun heq => hk (heq ▸ hmem)
        rw [if_neg hne]
        rfl
      rw [if_pos rfl, if_pos rfl, hother]
    · rw [if_neg (Ne.symm he)] at h
      rw [if_neg he, if_neg he, ih hrest h]

namespace Assembly

def described (render : Node) (m : Mapping) : Mapping :=
  match Entries.find? "Metadata" m with
  | none => m ++ [("Metadata", .map [("StencilRender", render)])]
  | some (.map old) =>
    m.map fun e =>
      (e.1, if e.1 = "Metadata" then .map (Entries.put "StencilRender" render old) else e.2)
  | some _ => m

def versioned (m : Mapping) : Mapping :=
  if "AWSTemplateFormatVersion" ∈ Entries.keys m then m
  else ("AWSTemplateFormatVersion", .string "2010-09-09") :: m

def framed (omitMetadata : Bool) (render : Node) (m : Mapping) : Mapping :=
  if "AWSTemplateFormatVersion" ∈ Entries.keys m ∨ "Resources" ∈ Entries.keys m then
    if omitMetadata then versioned m else described render (versioned m)
  else m

variable {m : Mapping} {render : Node}

theorem withFormatVersion_eq_versioned (m : Mapping) : withFormatVersion m = versioned m := by
  simp only [withFormatVersion, versioned, Entries.has_iff]
  rfl

theorem withMetadata_eq_described (hn : (Entries.keys m).Nodup) (host : String)
    (records : List Record) : withMetadata m host records = described (renderNode host records) m := by
  unfold withMetadata described metadataKey renderKey
  cases hf : Entries.find? "Metadata" m with
  | none => exact Entries.put_of_not_mem (Entries.find?_eq_none_iff.mp hf) _
  | some n =>
    cases n with
    | map old => exact Entries.put_of_find? hn hf
    | null | bool _ | number _ | string _ | seq _ | tag _ | document _ => rfl

theorem nodup_versioned (hn : (Entries.keys m).Nodup) : (Entries.keys (versioned m)).Nodup := by
  unfold versioned
  split
  · exact hn
  · rename_i h
    exact List.nodup_cons.mpr ⟨h, hn⟩

theorem isInfrastructure_unescaped (m : Mapping) :
    isInfrastructure (Node.unescapedEntries m) = isInfrastructure m := by
  rw [Bool.eq_iff_iff, isInfrastructure_iff, isInfrastructure_iff, Node.keys_unescapedEntries]

theorem clean_versioned (h : (Node.map m).isClean = true) :
    (Node.map (versioned m)).isClean = true := by
  unfold versioned
  split
  · exact h
  · rw [Node.isClean_map, List.forall_mem_cons]
    exact ⟨⟨by decide, rfl⟩, Node.isClean_map.mp h⟩

theorem clean_described (h : (Node.map m).isClean = true) (hr : render.isClean = true) :
    (Node.map (described render m)).isClean = true := by
  have hold := Node.isClean_map.mp h
  have hmetadata : isOutward "Metadata" = true := by decide
  have hrender : isOutward "StencilRender" = true ∧ render.isClean = true := ⟨by decide, hr⟩
  unfold described
  split
  · rw [Node.isClean_map, List.forall_mem_append, List.forall_mem_singleton]
    refine ⟨hold, hmetadata, ?_⟩
    rw [Node.isClean_map, List.forall_mem_singleton]
    exact hrender
  · rename_i old hf
    have hinner := Node.isClean_map.mp (hold _ (Entries.mem_of_find? hf)).2
    rw [Node.isClean_map, List.forall_mem_map]
    intro e he
    refine ⟨(hold e he).1, ?_⟩
    dsimp only
    split
    · exact Node.isClean_map.mpr (Entries.forall_put
        (P := fun e : String × Node => isOutward e.1 = true ∧ e.2.isClean = true) hinner hrender)
    · exact (hold e he).2
  · exact h

theorem clean_framed (h : (Node.map m).isClean = true) (hr : render.isClean = true)
    (omitMetadata : Bool) : (Node.map (framed omitMetadata render m)).isClean = true := by
  have hversioned := clean_versioned h
  unfold framed
  split
  · split
    · exact hversioned
    · exact clean_described hversioned hr
  · exact h

theorem finalize_static (h : (Node.map m).isClean = true) (hn : (Entries.keys m).Nodup)
    (host : String) (omitMetadata : Bool) :
    finalize m (isInfrastructure m) [] host [] omitMetadata =
      .map (framed omitMetadata (renderNode host []) m) := by
  have hrender : (renderNode host []).isClean = true := rfl
  have hframed := clean_framed h hrender omitMetadata
  have hversioned : withSections (withFormatVersion m) [] = versioned m :=
    withFormatVersion_eq_versioned m
  rw [← Node.strip_of_clean _ hframed]
  simp only [finalize, framed, hversioned, withMetadata_eq_described (nodup_versioned hn),
    isInfrastructure_iff]

end Assembly

/-- A document with no construct but escapes comes out as it is written, with what is escaped in the
place of the escapes, whatever is set and wherever it is from. At the root of a template of the
deployment service the format version and the metadata are added. -/
theorem static_document_unchanged {m : Mapping} (h : (Node.map m).isStatic = true) :
    ∃ k, ∀ j, k ≤ j → ∀ (options : Options) (resolver : Resolver) (host location : String),
      Returns (Setting.transform ⟨options, resolver, host, .upTo j⟩ (.map m) location) .start
        ⟨.map (Assembly.framed options.omitMetadata (Assembly.renderNode host [])
          (Node.unescapedEntries m)), []⟩ .start := by
  refine ⟨sizeOf (Node.map m), fun j hj options resolver host location => ?_⟩
  have hbody (env : Env) (henv : env.naming? = none) : (Evaluator.upTo j).map m Path.root env =
      pure (Node.unescapedEntries m) :=
    (Evaluator.keeps_upTo j henv).map (by omega) h Path.root
  have hnodup : (Entries.keys (Node.unescapedEntries m)).Nodup := by
    rw [Node.keys_unescapedEntries]
    exact (Node.isStatic_map.mp h).1
  have hfinal := Assembly.finalize_static (Node.clean_unescaped _ h) hnodup host options.omitMetadata
  rw [Assembly.isInfrastructure_unescaped] at hfinal
  change Returns (Setting.transformMap _ m location) _ _ _
  rw [Setting.transformMap, Setting.loader, Loader.load_static h, pure_bind]
  refine returns_bind.mpr ⟨Node.unescapedEntries m, .start, ?_, ?_⟩
  · refine Load.returns_ofEval.mpr ⟨[], ?_, rfl⟩
    rw [hbody _ rfl]
    exact returns_pure.mpr ⟨rfl, rfl⟩
  · refine returns_bind.mpr ⟨.start, .start, returns_get.mpr ⟨rfl, rfl⟩, ?_⟩
    exact returns_pure.mpr ⟨congrArg (Transformed.mk · []) hfinal.symm, rfl⟩

section Example

def resolvedLater : Node := .string "\x7b\x7b resolve:ssm:/a \x7d\x7d \x7d\x7d"

def quotedLookup : Node := .map [("\x7b\x7b x \x7d\x7d", .tag (.lookup "x"))]

def nestedResources (n : Node) : String × Node :=
  ("Resources", .map [("Topic", .null), ("Bucket", .map [("Type", .string "AWS::S3::Bucket"),
    ("Properties", .map [("Resources", .map [("x", .map [("y", n)])])])])])

theorem static_document_unchanged_nested : ∃ k, ∀ j, k ≤ j → ∀ resolver,
    Returns (Setting.transform ⟨.standard, resolver, "host", .upTo j⟩
        (.map [("Metadata", .map [("Overrides", .null), ("a.b", resolvedLater)]),
          nestedResources (.tag (.apply .escape quotedLookup))]) "a.yaml") .start
      ⟨.map [("AWSTemplateFormatVersion", .string "2010-09-09"),
        ("Metadata", .map [("Overrides", .null), ("a.b", resolvedLater),
          ("StencilRender", .map [("Host", .string "host"), ("Imports", .seq [])])]),
        nestedResources quotedLookup], []⟩ .start := by
  have h : (Node.map [("Metadata", .map [("Overrides", .null), ("a.b", resolvedLater)]),
      nestedResources (.tag (.apply .escape quotedLookup))]).isStatic = true := by
    with_unfolding_all rfl
  obtain ⟨k, hk⟩ := static_document_unchanged h
  exact ⟨k, fun j hj resolver => hk j hj .standard resolver "host" "a.yaml"⟩

end Example

end InfraTemplate
