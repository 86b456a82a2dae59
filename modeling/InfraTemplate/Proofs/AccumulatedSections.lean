import InfraTemplate.Proofs.AssembledDocument
import Mathlib.Data.List.Induction

namespace InfraTemplate

namespace Sections

variable {x : Node} {items more : List Node} {heading name : String} {s t : Sections}
  {c : Addition} {cs : List Addition}

section Transforms

theorem isIn_addMissing (x : Node) (items more : List Node) :
    Node.isIn x (addMissing items more) = (Node.isIn x items || Node.isIn x more) := by
  induction more generalizing items with
  | nil => simp [addMissing, Node.isIn]
  | cons y more ih =>
    have hcons : Node.isIn x (y :: more) = (y.same x || Node.isIn x more) := List.any_cons
    rw [addMissing_cons, ih, hcons, ← Bool.or_assoc]
    cases hy : Node.isIn y items with
    | false => rw [if_neg Bool.false_ne_true, Node.isIn_concat]
    | true =>
      -- What is equal to `y` is equal to the item that kept `y` out.
      have habsorb : (Node.isIn x items || y.same x) = Node.isIn x items := by
        rw [Bool.or_eq_left_iff_imp]
        exact Node.isIn_of_same hy
      rw [if_pos rfl, habsorb]

def firsts (xs : List Node) : List Node :=
  (xs.zipIdx.filter fun e => !Node.isIn e.1 (xs.take e.2)).map (·.1)

theorem firsts_concat (xs : List Node) (x : Node) :
    firsts (xs ++ [x]) = firsts xs ++ if Node.isIn x xs then [] else [x] := by
  have hbefore : xs.zipIdx.filter (fun e => !Node.isIn e.1 ((xs ++ [x]).take e.2)) =
      xs.zipIdx.filter fun e => !Node.isIn e.1 (xs.take e.2) := by
    refine List.filter_congr fun e he => ?_
    have hlt := List.snd_lt_of_mem_zipIdx he
    rw [List.take_append_of_le_length (by omega)]
  rw [firsts, firsts, List.zipIdx_append, List.filter_append, List.map_append, hbefore]
  congr 1
  cases h : Node.isIn x xs <;> simp [h]

theorem addMissing_eq_firsts (xs : List Node) : addMissing [] xs = firsts xs := by
  induction xs using List.reverseRecOn with
  | nil => rfl
  | append_singleton xs x ih =>
    have hin : Node.isIn x (addMissing [] xs) = Node.isIn x xs := isIn_addMissing x [] xs
    rw [addMissing_append, addMissing_cons, hin, firsts_concat, ← ih]
    cases Node.isIn x xs with
    | true => exact (List.append_nil _).symm
    | false => rfl

theorem FreshFrom.pairwise (h : FreshFrom 0 items) :
    items.Pairwise fun x y => x.same y = false := by
  induction items using List.reverseRecOn with
  | nil => exact .nil
  | append_singleton items x ih =>
    have hfront : FreshFrom 0 items := fun before y after he hn =>
      h before y (after ++ [x]) (by simp [he]) hn
    have hx : Node.isIn x items = false := h items x [] rfl (Nat.zero_le _)
    refine List.pairwise_append.mpr ⟨ih hfront, List.pairwise_singleton .., fun y hy z hz => ?_⟩
    rw [List.mem_singleton.mp hz]
    exact Bool.eq_false_iff.mpr (List.any_eq_false.mp hx y hy)

end Transforms

theorem fold_eq_error {value : Node} {naming : NameScope} {d : Defect} :
    fold s heading value naming = .error d ↔ heading ≠ transformSection ∧ value.kind ≠ .map ∧
      value.kind ≠ .null ∧ d = .sectionNotMap heading value.kind := by
  unfold fold
  by_cases hh : heading = transformSection
  · rw [if_pos hh]
    split <;> simp [hh]
  · rw [if_neg hh]
    cases value with
    | null => simp [Node.kind]
    | map entries =>
      dsimp only
      split <;> simp [Node.kind]
    | bool _ | number _ | string _ | seq _ | tag _ | document _ => simp [Node.kind, hh, eq_comm]

theorem given_of_error {d : Defect} (h : fold s c.heading c.value c.naming = .error d) :
    (∀ heading, c.given heading = []) ∧ c.transforms = [] := by
  obtain ⟨hheading, hmap, -, -⟩ := fold_eq_error.mp h
  refine ⟨fun heading => ?_, if_neg hheading⟩
  unfold Addition.given
  cases hv : c.value with
  | map entries =>
    rw [hv] at hmap
    exact absurd rfl hmap
  | null | bool _ | number _ | string _ | seq _ | tag _ | document _ => rfl

def after (path : Path) (env : Env) (s : Sections) (c : Addition) : Option Sections :=
  ((Eval.addSection c.heading c.value c.naming path env).run s).map (·.2)

theorem after_of_ok (path : Path) (env : Env) (h : fold s c.heading c.value c.naming = .ok t) :
    after path env s c = some t := by
  have hr : Returns (Eval.addSection c.heading c.value c.naming path env) s () t :=
    Eval.returns_addSection.mpr h
  exact congrArg (Option.map Prod.snd) hr

theorem after_of_error {d : Defect} (path : Path) (env : Env)
    (h : fold s c.heading c.value c.naming = .error d) : after path env s c = some s := by
  have hf : Fails (Eval.addSection c.heading c.value c.naming path env) s
      (.malformed ("!" ++ c.heading) path d env.stack) s :=
    Eval.fails_addSection.mpr ⟨rfl, d, h, rfl⟩
  exact congrArg (Option.map Prod.snd) hf

def afterAll (path : Path) (env : Env) (s : Sections) (cs : List Addition) : Option Sections :=
  cs.foldlM (after path env) s

theorem exists_addAll_of_afterAll (path : Path) (env : Env) (s : Sections) (cs : List Addition) :
    ∃ kept t, afterAll path env s cs = some t ∧ addAll s kept = .ok t ∧
      (∀ heading, given heading kept = given heading cs) ∧ contributed kept = contributed cs := by
  induction cs generalizing s with
  | nil => exact ⟨[], s, rfl, rfl, fun _ => rfl, rfl⟩
  | cons c cs ih =>
    rw [afterAll, List.foldlM_cons]
    cases hc : fold s c.heading c.value c.naming with
    | ok u =>
      obtain ⟨kept, t, hrun, hkept, hgiven, htransforms⟩ := ih u
      refine ⟨c :: kept, t, ?_, addAll_cons.mpr ⟨u, hc, hkept⟩, fun heading => ?_, ?_⟩
      · rw [after_of_ok path env hc]
        exact hrun
      · exact congrArg (c.given heading ++ ·) (hgiven heading)
      · exact congrArg (c.transforms ++ ·) htransforms
    | error d =>
      obtain ⟨kept, t, hrun, hkept, hgiven, htransforms⟩ := ih s
      obtain ⟨hnone, hnothing⟩ := given_of_error hc
      refine ⟨kept, t, ?_, hkept, fun heading => ?_, ?_⟩
      · rw [after_of_error path env hc]
        exact hrun
      · rw [hgiven heading, given, given, List.flatMap_cons, hnone heading, List.nil_append]
      · rw [htransforms, contributed, contributed, List.flatMap_cons, hnothing, List.nil_append]

structure Holds (entries : List (String × Node)) (m : Mapping) : Prop where
  nodup : (Entries.keys m).Nodup
  last : ∀ name n, Entries.find? name m = some n ↔
    ∃ before after, entries = before ++ (name, n) :: after ∧ name ∉ Entries.keys after
  unmarked : ∀ name entry, (name, .map entry) ∈ m → globalMarker ∉ Entries.keys entry

structure Accumulated (cs : List Addition) (s : Sections) : Prop where
  kinds : ∀ heading n, Entries.find? heading s = some n →
    n.kind = if heading = transformSection then .sequence else .map
  others : ∀ heading, heading ≠ transformSection →
    ∃ m, (Entries.find? heading s).getD (.map []) = .map m ∧ Holds (given heading cs) m
  transforms : (Entries.find? transformSection s).getD (.seq []) = .seq (firsts (contributed cs))
  distinct : (firsts (contributed cs)).Pairwise fun x y => x.same y = false
  listed : ∀ x ∈ contributed cs, Lists (firsts (contributed cs)) x

theorem marker_not_mem_of_unmarked {n : Node} {entry : Mapping} (h : unmarked n = .map entry) :
    globalMarker ∉ Entries.keys entry := by
  cases n with
  | map m =>
    cases h
    exact Entries.find?_eq_none_iff.mp (Entries.find?_remove_self ..)
  | null | bool _ | number _ | string _ | seq _ | tag _ | document _ => cases h

theorem exists_unmarked_of_mem_given {e : String × Node} (h : e ∈ given heading cs) :
    ∃ n, e.2 = unmarked n := by
  obtain ⟨c, -, hc⟩ := List.mem_flatMap.mp h
  unfold Addition.given at hc
  split at hc
  · split at hc
    · obtain ⟨e, -, rfl⟩ := List.mem_map.mp hc
      exact ⟨e.2, congrArg Prod.snd (emitted_eq c.naming e)⟩
    · cases hc
  · cases hc

theorem holds_ofPairs (heading : String) (cs : List Addition) :
    Holds (given heading cs) (Entries.ofPairs (given heading cs)) where
  nodup := Entries.keys_putAll_nodup List.nodup_nil
  last _ _ := Entries.find?_ofPairs_eq_some
  unmarked name entry h := by
    have hall : ∀ e ∈ Entries.ofPairs (given heading cs), ∃ n, e.2 = unmarked n :=
      Entries.forall_putAll (fun _ he => absurd he List.not_mem_nil) fun _ =>
        exists_unmarked_of_mem_given
    obtain ⟨n, hn⟩ := hall _ h
    exact marker_not_mem_of_unmarked hn.symm

theorem accumulated_of_addAll (h : addAll [] cs = .ok s) : Accumulated cs s := by
  have hmap (heading : String) (hh : heading ≠ transformSection) :
      (Entries.find? heading s).getD (.map []) = .map (Entries.ofPairs (given heading cs)) :=
    section_addAll hh rfl h
  have hseq : (Entries.find? transformSection s).getD (.seq []) =
      .seq (addMissing [] (contributed cs)) := transforms_addAll h rfl
  rw [addMissing_eq_firsts] at hseq
  refine ⟨fun heading n hn => ?_, fun heading hh => ⟨_, hmap heading hh, holds_ofPairs heading cs⟩,
    hseq, ?_, fun x hx => ?_⟩
  · split
    · rename_i hh
      rw [← hh, hn] at hseq
      cases hseq
      rfl
    · rename_i hh
      have hsection := hmap heading hh
      rw [hn] at hsection
      cases hsection
      rfl
  · rw [← addMissing_eq_firsts]
    exact (freshFrom_addMissing (freshFrom_length [])).pairwise
  · rw [← addMissing_eq_firsts]
    exact lists_addMissing hx

/-- However the sections are added to, calls that fail included, they have all that was added. -/
theorem calls_accumulated (path : Path) (env : Env) (cs : List Addition) :
    (∃ s, afterAll path env [] cs = some s ∧ Accumulated cs s) ∧
      ∀ (c : Addition) (s t : Sections) (e : Error),
        Fails (Eval.addSection c.heading c.value c.naming path env) s e t ↔
          t = s ∧ c.heading ≠ transformSection ∧ c.value.kind ≠ .map ∧ c.value.kind ≠ .null ∧
            e = .malformed ("!" ++ c.heading) path (.sectionNotMap c.heading c.value.kind)
              env.stack := by
  constructor
  · obtain ⟨kept, s, hrun, hkept, hgiven, htransforms⟩ := exists_addAll_of_afterAll path env [] cs
    have h := accumulated_of_addAll hkept
    exact ⟨s, hrun, h.kinds, fun heading => hgiven heading ▸ h.others heading,
      htransforms ▸ h.transforms, htransforms ▸ h.distinct, htransforms ▸ h.listed⟩
  · intro c s t e
    rw [Eval.fails_addSection]
    constructor
    · rintro ⟨rfl, d, hd, rfl⟩
      obtain ⟨hheading, hmap, hnull, rfl⟩ := fold_eq_error.mp hd
      exact ⟨rfl, hheading, hmap, hnull, rfl⟩
    · rintro ⟨rfl, hheading, hmap, hnull, rfl⟩
      exact ⟨rfl, _, fold_eq_error.mpr ⟨hheading, hmap, hnull, rfl⟩, rfl⟩

-- The outputs are no map. The second transform is there already.
example : afterAll Path.root (Env.root .empty "t.yaml" 1) [] [⟨"Transform", .string "A", ⟨"Web", []⟩⟩,
    ⟨"Outputs", .string "Url", ⟨"Web", []⟩⟩,
    ⟨"Parameters", .map [("Size", .map [("$global", .bool false)]),
      ("Zone", .map [("$global", .bool true)])], ⟨"Web", []⟩⟩,
    ⟨"Transform", .seq [.string "A"], ⟨"Db", []⟩⟩] =
    some [("Transform", .seq [.string "A"]),
      ("Parameters", .map [("WebSize", .map []), ("Zone", .map [])])] := by
  with_unfolding_all rfl

end Sections

end InfraTemplate
