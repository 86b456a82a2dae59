import InfraTemplate.Proofs.ImportPlaceholders
import InfraTemplate.Proofs.Rereading

namespace InfraTemplate

namespace Text

variable {cs : List Char}

theorem trimStart_of_trim (h : trim cs = cs) : trimStart cs = cs := by
  have hs := trimStart_trim cs
  rwa [h] at hs

theorem trimEnd_of_trim (h : trim cs = cs) : trimEnd cs = cs := by
  rwa [trim, trimStart_of_trim h] at h

theorem isBlank_head_of_trim {c : Char} (h : trim (c :: cs) = c :: cs) : isBlank c = false := by
  have hc := List.head?_dropWhile_not isBlank (c :: cs)
  rw [show (c :: cs).dropWhile isBlank = c :: cs from trimStart_of_trim h] at hc
  exact hc

end Text

namespace LookupPath

inductive Balanced : List Char → Prop where
  | nil : Balanced []
  | char {c : Char} {cs : List Char} (ho : c ≠ '[') (hc : c ≠ ']') (h : Balanced cs) :
      Balanced (c :: cs)
  | brackets {inner rest : List Char} (hi : Balanced inner) (hr : Balanced rest) :
      Balanced ('[' :: (inner ++ ']' :: rest))

def Writable : Segment → Prop
  | .name key => key ≠ [] ∧ '.' ∉ key ∧ '[' ∉ key ∧ Text.trim key = key
  | .dynamic inner => inner ≠ [] ∧ Text.trim inner = inner ∧ Balanced inner

variable {s : Segment} {inner key rest : List Char} {segments : List Segment}

section Brackets

-- The scanner is inside at least one bracket, so that what is balanced never closes it.
theorem closing?_append (h : Balanced inner) (depth : Nat) (rest : List Char) :
    closing? (depth + 1) (inner ++ rest) =
      (closing? (depth + 1) rest).map fun p => (inner ++ p.1, p.2) := by
  induction h generalizing depth rest with
  | nil => simp
  | @char c cs ho hc h ih =>
    rw [List.cons_append, closing?, if_neg hc, if_neg ho, ih]
    simp [Function.comp_def]
  | @brackets inner more hi hr ihi ihr =>
    have hclose : ¬depth + 2 ≤ 1 := by omega
    have hopen : '[' ≠ ']' := by decide
    rw [List.cons_append, List.append_assoc, List.cons_append, closing?, if_neg hopen, if_pos rfl,
      ihi, closing?, if_pos rfl, if_neg hclose, show depth + 1 + 1 - 1 = depth + 1 from rfl, ihr]
    simp [Function.comp_def]

theorem closing?_of_balanced (h : Balanced inner) (rest : List Char) :
    closing? 1 (inner ++ ']' :: rest) = some (inner, rest) := by
  rw [closing?_append h 0, closing?, if_pos rfl, if_pos (Nat.le_refl 1)]
  simp

end Brackets

section Writing

def written : Segment → List Char
  | .name key => key
  | .dynamic inner => '[' :: inner ++ [']']

def joint : List Segment → List Char
  | .name _ :: _ => ['.']
  | _ => []

theorem text_cons (s : Segment) (segments : List Segment) :
    text (s :: segments) = written s ++ (joint segments ++ text segments) := by
  rw [text.eq_def]
  dsimp only
  rw [List.append_assoc]
  rfl

theorem text_ne_nil (hne : segments ≠ []) (h : ∀ s ∈ segments, Writable s) : text segments ≠ [] := by
  cases segments with
  | nil => exact absurd rfl hne
  | cons s segments =>
    rw [text_cons]
    cases s with
    | name key => exact List.append_ne_nil_of_left_ne_nil (h _ (List.mem_cons_self ..)).1 _
    | dynamic inner => exact List.cons_ne_nil _ _

theorem endsName_of_mem_head? (segments : List Segment) :
    ∀ c ∈ (joint segments ++ text segments).head?, endsName c = true := by
  intro c hc
  match segments with
  | [] => cases hc
  | .name key :: segments =>
    cases hc
    rfl
  | .dynamic inner :: segments =>
    cases hc
    rfl

theorem first?_written (h : Writable s) (hrest : ∀ c ∈ rest.head?, endsName c = true) :
    first? (written s ++ rest) = some (s, rest) := by
  cases s with
  | name key =>
    obtain ⟨hne, hdot, hopen, -⟩ := h
    refine first?_eq_name.mpr ⟨rfl, hne, fun c hc => endsName_eq_false.mpr ⟨?_, ?_⟩, hrest⟩
    · rw [beq_eq_false_iff_ne]
      rintro rfl
      exact hdot hc
    · rintro rfl
      exact hopen hc
  | dynamic inner =>
    obtain ⟨hne, htrim, hb⟩ := h
    have hshape : written (.dynamic inner) ++ rest = '[' :: (inner ++ ']' :: rest) := by
      simp [written]
    rw [hshape, first?, if_pos rfl, closing?_of_balanced hb]
    simp [htrim, hne]

theorem afterDot?_joint (h : ∀ s ∈ segments, Writable s) :
    afterDot? (joint segments ++ text segments) = some (text segments) := by
  match segments with
  | [] => rfl
  | .name key :: segments =>
    have hne : text (.name key :: segments) ≠ [] := text_ne_nil (List.cons_ne_nil _ _) h
    rw [joint, List.singleton_append, afterDot?, if_pos rfl, if_neg (mt List.isEmpty_iff.mp hne)]
  | .dynamic inner :: segments => rfl

theorem segments?_text (h : ∀ s ∈ segments, Writable s) :
    segments? (text segments) = some segments := by
  induction segments with
  | nil => exact segments?_nil
  | cons s segments ih =>
    have hs := h s (List.mem_cons_self ..)
    have hrest : ∀ s ∈ segments, Writable s := fun s hs => h s (List.mem_cons_of_mem _ hs)
    have hne : text (s :: segments) ≠ [] := text_ne_nil (List.cons_ne_nil _ _) h
    have hfirst := first?_written hs (endsName_of_mem_head? segments)
    rw [← text_cons] at hfirst
    exact (segments?_eq_some hne).mpr
      ⟨s, _, _, segments, hfirst, afterDot?_joint hrest, ih hrest, rfl⟩

end Writing

section Blanks

theorem trimStart_written (h : Writable s) (rest : List Char) :
    Text.trimStart (written s ++ rest) = written s ++ rest := by
  cases s with
  | name key =>
    obtain ⟨hne, -, -, htrim⟩ := h
    obtain ⟨c, cs, rfl⟩ := List.exists_cons_of_ne_nil hne
    exact Text.trimStart_cons (Text.isBlank_head_of_trim htrim) _
  | dynamic inner => exact Text.trimStart_cons (by decide) _

theorem trimEnd_written (h : Writable s) : Text.trimEnd (written s) = written s := by
  cases s with
  | name key => exact Text.trimEnd_of_trim h.2.2.2
  | dynamic inner => exact Text.trimEnd_append nofun rfl

theorem trimEnd_text (h : ∀ s ∈ segments, Writable s) :
    Text.trimEnd (text segments) = text segments := by
  induction segments with
  | nil => rfl
  | cons s segments ih =>
    have htail := ih fun s hs => h s (List.mem_cons_of_mem _ hs)
    have hjoint : Text.trimEnd (joint segments) = joint segments := by
      unfold joint
      split <;> rfl
    rw [text_cons]
    refine Text.trimEnd_append (fun _ => trimEnd_written (h s (List.mem_cons_self ..))) ?_
    exact Text.trimEnd_append (fun _ => hjoint) htail

theorem trim_text (h : ∀ s ∈ segments, Writable s) : Text.trim (text segments) = text segments := by
  cases segments with
  | nil => rfl
  | cons s segments =>
    have hstart : Text.trimStart (text (s :: segments)) = text (s :: segments) := by
      rw [text_cons]
      exact trimStart_written (h s (List.mem_cons_self ..)) _
    rw [Text.trim, hstart, trimEnd_text h]

end Blanks

/-- A path is read as the segments that it was written from. -/
theorem path_round_trip (h : ∀ s ∈ segments, Writable s) :
    parse? (String.ofList (text segments)) = some segments := by
  rw [parse?, String.toList_ofList, trim_text h, segments?_text h]

-- Brackets next to each other and in each other, and a name with one that closes nothing.
theorem path_round_trip_zones :
    (∀ s ∈ [.name "zones".toList, .dynamic "a[b].c".toList, .dynamic "d".toList,
      .name "k]".toList], Writable s) ∧
      parse? "zones[a[b].c][d].k]" =
        some [.name "zones".toList, .dynamic "a[b].c".toList, .dynamic "d".toList,
          .name "k]".toList] := by
  have hnested : Balanced "a[b].c".toList :=
    .char (by decide) (by decide) <| .brackets (.char (by decide) (by decide) .nil) <|
      .char (by decide) (by decide) <| .char (by decide) (by decide) .nil
  have hd : Balanced "d".toList := .char (by decide) (by decide) .nil
  have hsegments : ∀ s ∈ [.name "zones".toList, .dynamic "a[b].c".toList, .dynamic "d".toList,
      .name "k]".toList], Writable s := by
    simp only [List.forall_mem_cons, Writable]
    exact ⟨by decide, ⟨by decide, by decide, hnested⟩, ⟨by decide, by decide, hd⟩, by decide, nofun⟩
  have htext : text [.name "zones".toList, .dynamic "a[b].c".toList, .dynamic "d".toList,
      .name "k]".toList] = "zones[a[b].c][d].k]".toList := by decide +kernel
  have hparse := path_round_trip hsegments
  rw [htext, String.ofList_toList] at hparse
  exact ⟨hsegments, hparse⟩

end LookupPath

end InfraTemplate
