import InfraTemplate.FileTree
import InfraTemplate.Proofs.Contributions
import Mathlib.Data.List.Lex
import Mathlib.Data.List.Sort
import Mathlib.Data.String.Basic

namespace InfraTemplate

namespace FileTree

variable {t : FileTree} {es es' : List (String × FileTree)} {path : FilePath} {content : ByteArray}

inductive Distinct : FileTree → Prop where
  | file (content : ByteArray) : Distinct (file content)
  | directory {es : List (String × FileTree)} (names : (Entries.keys es).Nodup)
    (inside : ∀ e ∈ es, Distinct e.2) : Distinct (directory es)

inductive Reordered : List (String × FileTree) → List (String × FileTree) → Prop where
  | nil : Reordered [] []
  | file {es es' : List (String × FileTree)} (name : String) (content : ByteArray)
    (h : Reordered es es') : Reordered ((name, file content) :: es) ((name, file content) :: es')
  | directory {inside inside' es es' : List (String × FileTree)} (name : String)
    (hi : Reordered inside inside') (h : Reordered es es') :
      Reordered ((name, directory inside) :: es) ((name, directory inside') :: es')
  | swap {es es' : List (String × FileTree)} (a b : String × FileTree) (h : Reordered es es') :
      Reordered (a :: b :: es) (b :: a :: es')
  | trans {es mid es' : List (String × FileTree)} (h : Reordered es mid) (h' : Reordered mid es') :
      Reordered es es'

theorem Reordered.refl : ∀ es : List (String × FileTree), Reordered es es
  | [] => .nil
  | (name, FileTree.file content) :: es => .file name content (refl es)
  | (name, FileTree.directory inside) :: es => .directory name (refl inside) (refl es)

theorem Reordered.of_perm (h : es.Perm es') : Reordered es es' := by
  induction h with
  | nil => exact .nil
  | cons e h ih =>
    obtain ⟨name, t⟩ := e
    cases t with
    | file content => exact .file name content ih
    | directory inside => exact .directory name (.refl inside) ih
  | swap a b es => exact .swap b a (.refl es)
  | trans h h' ih ih' => exact .trans ih ih'

section Paths

abbrev Precedes (a b : FilePath) : Prop := List.Lex (· < ·) a b

theorem pathLe_iff {a b : FilePath} : pathLe a b = true ↔ ¬Precedes b a := by
  induction a generalizing b with
  | nil => simp [pathLe]
  | cons x a ih =>
    cases b with
    | nil => simp [pathLe]
    | cons y b =>
      rw [pathLe]
      by_cases hxy : x = y
      · rw [if_pos hxy, hxy, ih, Precedes, Precedes, List.lex_cons_iff]
      · have hlex : Precedes (y :: b) (x :: a) ↔ y < x := by
          constructor
          · intro h
            cases h with
            | cons h => exact absurd rfl hxy
            | rel h => exact h
          · exact List.Lex.rel
        rw [if_neg hxy, decide_eq_true_eq, hlex, not_lt, le_iff_lt_or_eq, or_iff_left hxy]

theorem pathLe_iff_le {a b : FilePath} : pathLe a b = true ↔ a ≤ b := by
  rw [pathLe_iff, ← not_lt]
  rfl

end Paths

section Files

def filesUnder (e : String × FileTree) : List (FilePath × ByteArray) :=
  e.2.files.map fun f => (e.1 :: f.1, f.2)

theorem files_directory (es : List (String × FileTree)) :
    (directory es).files = es.flatMap filesUnder := by
  rw [files]
  induction es with
  | nil => rfl
  | cons e es ih => rw [filesOf, ih, List.flatMap_cons, filesUnder]

theorem files_perm (h : Reordered es es') : (directory es).files.Perm (directory es').files := by
  induction h with
  | nil => exact .refl _
  | file name content h ih =>
    rw [files_directory, files_directory] at ih ⊢
    exact ih.append_left _
  | @directory inside inside' es es' name hi h ihi ih =>
    rw [files_directory es, files_directory es'] at ih
    rw [files_directory, files_directory, List.flatMap_cons, List.flatMap_cons]
    exact (ihi.map _).append ih
  | swap a b h ih =>
    rw [files_directory, files_directory] at ih ⊢
    simp only [List.flatMap_cons, ← List.append_assoc]
    exact List.perm_append_comm.append ih
  | trans h h' ih ih' => exact ih.trans ih'

theorem mem_filesUnder {e : String × FileTree} : (path, content) ∈ filesUnder e ↔
    ∃ rest, path = e.1 :: rest ∧ (rest, content) ∈ e.2.files := by
  simp only [filesUnder, List.mem_map, Prod.exists, Prod.mk.injEq]
  constructor
  · rintro ⟨rest, _, hf, rfl, rfl⟩
    exact ⟨rest, rfl, hf⟩
  · rintro ⟨rest, rfl, hf⟩
    exact ⟨rest, content, hf, rfl, rfl⟩

theorem mem_files (h : Distinct t) :
    (path, content) ∈ t.files ↔ t.at? path = some (file content) := by
  induction path generalizing t with
  | nil =>
    cases t with
    | file c => simp [files, at?, eq_comm]
    | directory es =>
      have hnone : ∀ e ∈ es, ([], content) ∉ filesUnder e := fun e _ he => by
        obtain ⟨rest, hp, -⟩ := mem_filesUnder.mp he
        cases hp
      rw [files_directory, List.mem_flatMap]
      simpa [at?] using hnone
  | cons name path ih =>
    cases h with
    | file c => simp [files, at?]
    | @directory es names inside =>
      have hfind (t : FileTree) : es.lookup name = some t ↔ (name, t) ∈ es :=
        Entries.find?_eq_some_iff_mem names
      rw [files_directory, List.mem_flatMap, at?, Option.bind_eq_some_iff]
      constructor
      · rintro ⟨e, he, hf⟩
        obtain ⟨rest, hp, hf⟩ := mem_filesUnder.mp hf
        cases hp
        exact ⟨e.2, (hfind e.2).mpr he, (ih (inside e he)).mp hf⟩
      · rintro ⟨t, ht, hat⟩
        have he := (hfind t).mp ht
        exact ⟨(name, t), he, mem_filesUnder.mpr ⟨path, rfl, (ih (inside _ he)).mpr hat⟩⟩

theorem nodup_paths (h : Distinct t) : (t.files.map Prod.fst).Nodup := by
  induction h with
  | file content => exact List.nodup_singleton _
  | @directory es names inside ih =>
    rw [files_directory, List.map_flatMap, List.nodup_flatMap]
    constructor
    · intro e he
      rw [filesUnder, List.map_map]
      have hinj : Function.Injective (List.cons e.1) := List.cons_injective
      have hcons := (ih e he).map hinj
      rwa [List.map_map] at hcons
    · -- Two entries differ in the first name of every path below them.
      rw [Entries.keys, List.nodup_iff_pairwise_ne, List.pairwise_map] at names
      refine names.imp fun {a b} hab => ?_
      intro p ha hb
      obtain ⟨f, hf, rfl⟩ := List.mem_map.mp ha
      obtain ⟨g, hg, hfg⟩ := List.mem_map.mp hb
      obtain ⟨q, hq, -⟩ := mem_filesUnder.mp (show (f.1, f.2) ∈ filesUnder a from hf)
      obtain ⟨r, hr, -⟩ := mem_filesUnder.mp (show (g.1, g.2) ∈ filesUnder b from hg)
      rw [hq, hr] at hfg
      exact hab (List.cons.inj hfg).1.symm

end Files

section Sorting

theorem sortedFiles_perm (t : FileTree) : t.sortedFiles.Perm t.files := List.mergeSort_perm _ _

theorem pairwise_sortedFiles (t : FileTree) :
    t.sortedFiles.Pairwise fun a b => a.1 ≤ b.1 := by
  have htrans : ∀ a b c : FilePath × ByteArray, pathLe a.1 b.1 = true → pathLe b.1 c.1 = true →
      pathLe a.1 c.1 = true := by
    intro a b c hab hbc
    rw [pathLe_iff_le] at hab hbc ⊢
    exact hab.trans hbc
  have htotal : ∀ a b : FilePath × ByteArray, (pathLe a.1 b.1 || pathLe b.1 a.1) = true := by
    intro a b
    rw [Bool.or_eq_true, pathLe_iff_le, pathLe_iff_le]
    exact le_total a.1 b.1
  have h := List.pairwise_mergeSort htrans htotal t.files
  exact h.imp pathLe_iff_le.mp

theorem increasing_sortedFiles (h : Distinct t) :
    (t.sortedFiles.map Prod.fst).Pairwise Precedes := by
  have hnodup := ((sortedFiles_perm t).map Prod.fst).symm.nodup (nodup_paths h)
  rw [List.nodup_iff_pairwise_ne] at hnodup
  have hle : (t.sortedFiles.map Prod.fst).Pairwise (· ≤ ·) :=
    List.pairwise_map.mpr (pairwise_sortedFiles t)
  exact (hle.and hnodup).imp fun hab => lt_of_le_of_ne hab.1 hab.2

theorem sortedFiles_eq (hd : Distinct t) {t' : FileTree} (hp : t.files.Perm t'.files) :
    t'.sortedFiles = t.sortedFiles := by
  have hsorted : t'.sortedFiles.Perm t.sortedFiles :=
    (sortedFiles_perm t').trans (hp.symm.trans (sortedFiles_perm t).symm)
  refine List.Perm.eq_of_pairwise ?_ (pairwise_sortedFiles t') (pairwise_sortedFiles t) hsorted
  rintro ⟨p, c⟩ ⟨q, d⟩ hc hd' hpq hqp
  obtain rfl : p = q := hpq.antisymm hqp
  have hfile := (mem_files hd).mp ((sortedFiles_perm t).mem_iff.mp (hsorted.mem_iff.mp hc))
  have hfile' := (mem_files hd).mp ((sortedFiles_perm t).mem_iff.mp hd')
  rw [hfile] at hfile'
  cases hfile'
  rfl

end Sorting

/-- The digest of a directory is that of the digests of its files, each once and in the order of
their paths name by name. The order in which they are enumerated does not matter. -/
theorem contentHash_of_reordered (h : Reordered es es') (hd : Distinct (directory es)) :
    contentHash (directory es') = contentHash (directory es) ∧
      ∃ ordered : List (FilePath × ByteArray), (ordered.map Prod.fst).Pairwise Precedes ∧
        (∀ path content, (path, content) ∈ ordered ↔
          (directory es).at? path = some (file content)) ∧
        contentHash (directory es) = Sha256.digest (ordered.flatMap fun f =>
          (Text.hexText (Sha256.digest f.2.toList)).toUTF8.toList) := by
  have hsorted := sortedFiles_eq hd (files_perm h)
  refine ⟨?_, _, increasing_sortedFiles hd, fun path content => ?_, rfl⟩
  · rw [contentHash, contentHash, hsorted]
  · rw [(sortedFiles_perm _).mem_iff, mem_files hd]

-- A directory comes before a file whose name only goes on from its own, as `a/x` before `a.b`.
theorem contentHash_of_reordered_sub :
    let a := [("a.b", file "1".toUTF8), ("a", directory [("y", file "2".toUTF8), ("x", file "3".toUTF8)])]
    let b := [("a", directory [("x", file "3".toUTF8), ("y", file "2".toUTF8)]), ("a.b", file "1".toUTF8)]
    Reordered a b ∧ Distinct (directory a) ∧ contentHash (directory b) = contentHash (directory a) := by
  intro a b
  have hr : Reordered a b :=
    .trans (.of_perm (.swap ..)) (.directory "a" (.of_perm (.swap ..)) (.refl _))
  have hd : Distinct (directory a) := by
    refine .directory (by decide) ?_
    simp only [a, List.forall_mem_cons]
    refine ⟨.file _, .directory (by decide) ?_, nofun⟩
    simp only [List.forall_mem_cons]
    exact ⟨.file _, .file _, nofun⟩
  exact ⟨hr, hd, (contentHash_of_reordered hr hd).1⟩

example : Text.hexText (contentHash (directory [("a.b", file "1".toUTF8),
      ("a", directory [("y", file "2".toUTF8), ("x", file "3".toUTF8)])])) =
    "4c3e5d277567cc723b5c5fe6f4ce1460140b1547b1145e4f5cec6235ebb274ee" := by
  have hsorted : sortedFiles (directory [("a.b", file "1".toUTF8),
      ("a", directory [("y", file "2".toUTF8), ("x", file "3".toUTF8)])]) =
      [(["a", "x"], "3".toUTF8), (["a", "y"], "2".toUTF8), (["a.b"], "1".toUTF8)] := by cbv
  rw [contentHash, hsorted]
  decide +kernel

end FileTree

end InfraTemplate
