import InfraTemplate.Proofs.Outcome
import InfraTemplate.Evaluation
import Mathlib.Data.List.DropRight

namespace InfraTemplate

namespace Text

variable {d w cs : List Char} {pieces : List (List Char)}

theorem splitOnText_ne_nil (d : List Char) (skip : Nat) (cs : List Char) :
    splitOnText d skip cs ≠ [] := by
  induction cs generalizing skip with
  | nil => cases skip <;> simp [splitOnText]
  | cons c cs ih =>
    cases skip with
    | succ skip => exact ih skip
    | zero =>
      rw [splitOnText]
      split
      · exact List.cons_ne_nil _ _
      · split <;> exact List.cons_ne_nil _ _

theorem splitOnText_of_hasHead {c : Char} (h : hasHead d (c :: cs) = true) :
    splitOnText d 0 (c :: cs) = [] :: splitOnText d (d.length - 1) cs := by
  rw [splitOnText, if_pos h]

theorem splitOnText_cons {c : Char} (h : hasHead d (c :: cs) = false) :
    ∃ w ws, splitOnText d 0 cs = w :: ws ∧ splitOnText d 0 (c :: cs) = (c :: w) :: ws := by
  obtain ⟨w, ws, hw⟩ := List.exists_cons_of_ne_nil (splitOnText_ne_nil d 0 cs)
  refine ⟨w, ws, hw, ?_⟩
  rw [splitOnText, h, hw]
  rfl

theorem prefix_intercalate (d w : List Char) (ws : List (List Char)) :
    w <+: d.intercalate (w :: ws) := by
  cases ws with
  | nil =>
    have hone : d.intercalate [w] = w := List.intercalate_singleton
    exact ⟨[], by rw [hone, List.append_nil]⟩
  | cons w' ws =>
    rw [List.intercalate_cons_cons, List.append_assoc]
    exact List.prefix_append ..

theorem intercalate_splitOnText (hd : d ≠ []) (skip : Nat) (cs : List Char) :
    d.intercalate (splitOnText d skip cs) = cs.drop skip := by
  induction cs generalizing skip with
  | nil => cases skip <;> rfl
  | cons c cs ih =>
    cases skip with
    | succ skip => exact ih skip
    | zero =>
      cases h : hasHead d (c :: cs) with
      | true =>
        obtain ⟨rest, hrest⟩ := hasHead_iff.mp h
        have hafter : cs.drop (d.length - 1) = rest := by
          obtain ⟨a, d', rfl⟩ := List.exists_cons_of_ne_nil hd
          obtain ⟨-, rfl⟩ := List.cons.inj hrest
          exact List.drop_left
        rw [splitOnText_of_hasHead h, ← List.singleton_append,
          intercalate_append (List.cons_ne_nil _ _) (splitOnText_ne_nil _ _ _), ih, hafter]
        exact hrest
      | false =>
        obtain ⟨w, ws, hw, hcons⟩ := splitOnText_cons h
        have hrest : d.intercalate (w :: ws) = cs := hw ▸ ih 0
        rw [hcons, ← hrest]
        cases ws with
        | nil => rfl
        | cons w' ws =>
          rw [List.intercalate_cons_cons, List.intercalate_cons_cons]
          rfl

theorem not_infix_of_mem_splitOnText (hd : d ≠ []) {skip : Nat} (hw : w ∈ splitOnText d skip cs) :
    ¬d <:+: w := by
  induction cs generalizing skip w with
  | nil =>
    have hnil : w = [] := by
      cases skip <;> exact List.mem_singleton.mp hw
    rw [hnil, List.infix_nil]
    exact hd
  | cons c cs ih =>
    cases skip with
    | succ skip => exact ih hw
    | zero =>
      cases h : hasHead d (c :: cs) with
      | true =>
        rw [splitOnText_of_hasHead h] at hw
        rcases List.mem_cons.mp hw with rfl | hw
        · rw [List.infix_nil]
          exact hd
        · exact ih hw
      | false =>
        obtain ⟨v, vs, hv, hcons⟩ := splitOnText_cons h
        rw [hcons] at hw
        rcases List.mem_cons.mp hw with rfl | hw
        · -- A delimiter at the front of the piece would be one at the front of the text.
          have hjoin : d.intercalate (v :: vs) = cs := hv ▸ intercalate_splitOnText hd 0 cs
          have hprefix : v <+: cs := hjoin ▸ prefix_intercalate d v vs
          rw [List.infix_cons_iff, not_or]
          refine ⟨fun hp => ?_, ih (hv ▸ List.mem_cons_self ..)⟩
          have := hasHead_iff.mpr (hp.trans (List.cons_prefix_cons.mpr ⟨rfl, hprefix⟩))
          rw [h] at this
          cases this
        · exact ih (hv ▸ List.mem_cons_of_mem _ hw)

theorem intercalate_replicate (d : List Char) (k : Nat) :
    d.intercalate (List.replicate (k + 1) []) = (List.replicate k d).flatten := by
  induction k with
  | zero => rfl
  | succ k ih =>
    rw [List.replicate_succ, List.replicate_succ, List.intercalate_cons_cons, ← List.replicate_succ,
      ih, List.nil_append, List.replicate_succ, List.flatten_cons]

theorem intercalate_append_replicate (d : List Char) (parts : List (List Char)) (k : Nat) :
    ∃ l, d.intercalate (parts ++ List.replicate k []) =
      d.intercalate parts ++ (List.replicate l d).flatten := by
  cases k with
  | zero => exact ⟨0, by simp⟩
  | succ k =>
    by_cases hparts : parts = []
    · refine ⟨k, ?_⟩
      rw [hparts, List.nil_append, intercalate_replicate]
      rfl
    · refine ⟨k + 1, ?_⟩
      rw [intercalate_append hparts (by simp), intercalate_replicate, List.replicate_succ,
        List.flatten_cons]

theorem exists_replicate_of_rdropWhile {α : Type} {p : α → Bool} {a : α}
    (h : ∀ x, p x = true → x = a) (xs : List α) :
    ∃ k, xs = xs.rdropWhile p ++ List.replicate k a := by
  refine ⟨(xs.rtakeWhile p).length, ?_⟩
  have hall : ∀ x ∈ xs.rtakeWhile p, x = a := fun x hx => h x (List.mem_rtakeWhile_imp hx)
  rw [← List.eq_replicate_of_mem hall, List.rdropWhile_append_rtakeWhile]

end Text

namespace Collection

theorem toList_splitText (d s : String) : (splitText d s).map String.toList =
    (Text.splitOnText d.toList 0 s.toList).rdropWhile List.isEmpty := by
  simp only [splitText, List.map_map]
  exact List.map_id'' (fun _ => String.toList_ofList) _

structure SplitsInto (d s : String) (parts : List String) : Prop where
  free : ∀ part ∈ parts, ¬d.toList <:+: part.toList
  last : ∀ part ∈ parts.getLast?, part ≠ ""
  joined : ∃ k, s = d.intercalate parts ++ String.join (List.replicate k d)

theorem splitsInto_splitText {d s : String} (hd : d ≠ "") : SplitsInto d s (splitText d s) := by
  have hd' : d.toList ≠ [] := fun h => hd (String.toList_eq_nil_iff.mp h)
  have hparts := toList_splitText d s
  constructor
  · intro part hpart
    have hmem : part.toList ∈ (Text.splitOnText d.toList 0 s.toList).rdropWhile List.isEmpty :=
      hparts ▸ List.mem_map_of_mem hpart
    exact Text.not_infix_of_mem_splitOnText hd' ((List.rdropWhile_prefix _ _).subset hmem)
  · rintro part hpart rfl
    obtain ⟨front, hfront⟩ := List.getLast?_eq_some_iff.mp hpart
    rw [hfront, List.map_append] at hparts
    have hne : (Text.splitOnText d.toList 0 s.toList).rdropWhile List.isEmpty ≠ [] := by
      rw [← hparts]
      exact List.append_ne_nil_of_right_ne_nil _ (List.cons_ne_nil _ _)
    have hlast := List.rdropWhile_last_not _ _ hne
    simp [← hparts] at hlast
  · obtain ⟨k, hk⟩ := Text.exists_replicate_of_rdropWhile (fun _ => List.isEmpty_iff.mp)
      (Text.splitOnText d.toList 0 s.toList)
    obtain ⟨l, hl⟩ := Text.intercalate_append_replicate d.toList ((splitText d s).map String.toList) k
    refine ⟨l, String.toList_inj.mp ?_⟩
    rw [hparts, ← hk, Text.intercalate_splitOnText hd', ← hparts] at hl
    simpa [List.flatMap_def] using hl

end Collection

namespace Evaluator

open Collection

variable {d s : String} {x y : Node} {path : Path} {env : Env} {before between after : Sections}

/-- A text is split at a delimiter that is not empty, and joining the parts undoes it up to delimiters
at the end. -/
theorem split_rejoined {k : Nat} (hd : d ≠ "")
    (hx : Returns ((upTo k).node x (path.item 0) env) before (.string d) between)
    (hy : Returns ((upTo k).node y (path.item 1) env) between (.string s) after) :
    ∃ parts, Returns ((upTo (k + 1)).node (.tag (.pair .split x y)) path env) before
      (.seq (parts.map .string)) after ∧ SplitsInto d s parts := by
  refine ⟨splitText d s, ?_, splitsInto_splitText hd⟩
  change Returns ((upTo k).split x y path env) _ _ _
  refine returns_bind.mpr ⟨_, _, hx, returns_bind.mpr ⟨_, _, hy, ?_⟩⟩
  have hempty : d.isEmpty = false := Bool.eq_false_iff.mpr fun h => hd (String.isEmpty_iff.mp h)
  simp only [hempty]
  exact returns_pure.mpr ⟨rfl, rfl⟩

-- Three colons hold the delimiter twice, and the first is taken; of the four at the end none is left.
theorem split_rejoined_colons : ∃ parts,
    Returns ((upTo 2).node (.tag (.pair .split (.string "::") (.string ":::a::::"))) Path.root
      (Env.root .empty "t.yaml" 1)) [] (.seq (parts.map .string)) [] ∧
    parts = ["", ":a"] ∧ SplitsInto "::" ":::a::::" parts := by
  have hd : Returns ((upTo 1).node (.string "::") (Path.root.item 0) (Env.root .empty "t.yaml" 1)) []
      (.string "::") [] := by
    with_unfolding_all rfl
  have hs : Returns ((upTo 1).node (.string ":::a::::") (Path.root.item 1)
      (Env.root .empty "t.yaml" 1)) [] (.string ":::a::::") [] := by
    with_unfolding_all rfl
  have hsplit : Returns ((upTo 2).node (.tag (.pair .split (.string "::") (.string ":::a::::")))
      Path.root (Env.root .empty "t.yaml" 1)) [] (.seq (["", ":a"].map .string)) [] := by
    with_unfolding_all rfl
  obtain ⟨parts, hparts, hsplits⟩ := split_rejoined (by decide) hd hs
  have heq := Node.seq.inj (hsplit.unique hparts).1
  have hinj := List.map_injective_iff.mpr (fun _ _ => Node.string.inj) heq
  exact ⟨parts, hparts, hinj.symm, hsplits⟩

end Evaluator

end InfraTemplate
