namespace InfraTemplate.Text

/-- The characters with the Unicode property White_Space. -/
def isBlank (c : Char) : Bool :=
  let n := c.toNat
  (9 ≤ n && n ≤ 13) || n == 0x20 || n == 0x85 || n == 0xA0 || n == 0x1680 ||
    (0x2000 ≤ n && n ≤ 0x200A) || n == 0x2028 || n == 0x2029 || n == 0x202F || n == 0x205F ||
    n == 0x3000

theorem isBlank_eq_false {c : Char} (h : 0x20 < c.toNat) (h' : c.toNat < 0x7F) :
    isBlank c = false := by
  simp only [isBlank, Bool.or_eq_false_iff, Bool.and_eq_false_iff, decide_eq_false_iff_not,
    beq_eq_false_iff_ne]
  omega

theorem forall_ascii {p : Char → Prop} (h : ∀ n < 128, p (Char.ofNat n)) :
    ∀ c : Char, c.toNat < 128 → p c := by
  intro c hc
  have hchar := h c.toNat hc
  rwa [Char.ofNat_toNat] at hchar

def trimStart (cs : List Char) : List Char := cs.dropWhile isBlank

def trimEnd (cs : List Char) : List Char := (cs.reverse.dropWhile isBlank).reverse

def trim (cs : List Char) : List Char := trimEnd (trimStart cs)

def splitAll (p : Char → Bool) : List Char → List (List Char)
  | [] => [[]]
  | c :: cs =>
    if p c then [] :: splitAll p cs
    else
      match splitAll p cs with
      | [] => [[c]]
      | w :: ws => (c :: w) :: ws

theorem splitAll_ne_nil (p : Char → Bool) (cs : List Char) : splitAll p cs ≠ [] := by
  cases cs with
  | nil => simp [splitAll]
  | cons c cs =>
    rw [splitAll]
    split
    · simp
    · split <;> simp

theorem splitAll_of_none {p : Char → Bool} {cs : List Char} (h : ∀ c ∈ cs, p c = false) :
    splitAll p cs = [cs] := by
  induction cs with
  | nil => rfl
  | cons c cs ih =>
    have hc : p c = false := h c (List.mem_cons_self ..)
    rw [splitAll, hc, ih fun d hd => h d (List.mem_cons_of_mem _ hd)]
    rfl

theorem of_mem_splitAll {p : Char → Bool} {cs w : List Char} (hw : w ∈ splitAll p cs) {c : Char}
    (hc : c ∈ w) : p c = false := by
  induction cs generalizing w with
  | nil =>
    rw [splitAll, List.mem_singleton] at hw
    rw [hw] at hc
    cases hc
  | cons d cs ih =>
    rw [splitAll] at hw
    split at hw
    · rcases List.mem_cons.mp hw with rfl | hw
      · cases hc
      · exact ih hw hc
    · rename_i hd
      cases hs : splitAll p cs with
      | nil => exact absurd hs (splitAll_ne_nil p cs)
      | cons v vs =>
        rw [hs] at hw
        rcases List.mem_cons.mp hw with rfl | hw
        · rcases List.mem_cons.mp hc with rfl | hc
          · exact Bool.eq_false_iff.mpr hd
          · exact ih (hs ▸ List.mem_cons_self ..) hc
        · exact ih (hs ▸ List.mem_cons_of_mem _ hw) hc

theorem mem_of_mem_splitAll {p : Char → Bool} {cs w : List Char} (hw : w ∈ splitAll p cs)
    {c : Char} (hc : c ∈ w) : c ∈ cs := by
  induction cs generalizing w with
  | nil =>
    rw [splitAll, List.mem_singleton] at hw
    exact hw ▸ hc
  | cons d cs ih =>
    rw [splitAll] at hw
    split at hw
    · rcases List.mem_cons.mp hw with rfl | hw
      · cases hc
      · exact List.mem_cons_of_mem _ (ih hw hc)
    · split at hw
      · rename_i hs
        exact absurd hs (splitAll_ne_nil p cs)
      · rename_i v vs hs
        rcases List.mem_cons.mp hw with rfl | hw
        · rcases List.mem_cons.mp hc with rfl | hc
          · exact List.mem_cons_self ..
          · exact List.mem_cons_of_mem _ (ih (hs ▸ List.mem_cons_self ..) hc)
        · exact List.mem_cons_of_mem _ (ih (hs ▸ List.mem_cons_of_mem _ hw) hc)

theorem splitAll_append_of_none {p : Char → Bool} {a : List Char} (h : ∀ c ∈ a, p c = false)
    (b : List Char) :
    ∃ w ws, splitAll p b = w :: ws ∧ splitAll p (a ++ b) = (a ++ w) :: ws := by
  induction a with
  | nil =>
    cases hb : splitAll p b with
    | nil => exact absurd hb (splitAll_ne_nil p b)
    | cons w ws => exact ⟨w, ws, rfl, hb⟩
  | cons c a ih =>
    obtain ⟨w, ws, hb, hab⟩ := ih fun d hd => h d (List.mem_cons_of_mem _ hd)
    have hc : p c = false := h c (List.mem_cons_self ..)
    refine ⟨w, ws, hb, ?_⟩
    rw [List.cons_append, splitAll, hab, hc]
    rfl

theorem splitAll_append {p : Char → Bool} {c : Char} (hc : p c = true) (a b : List Char) :
    splitAll p (a ++ c :: b) = splitAll p a ++ splitAll p b := by
  induction a with
  | nil => simp [splitAll, hc]
  | cons d a ih =>
    rw [List.cons_append, splitAll, splitAll, ih]
    split
    · rfl
    · cases hw : splitAll p a with
      | nil => exact absurd hw (splitAll_ne_nil p a)
      | cons w ws => rfl

theorem intercalate_splitAll (d : Char) (cs : List Char) :
    [d].intercalate (splitAll (· == d) cs) = cs := by
  induction cs with
  | nil => rfl
  | cons c cs ih =>
    rw [splitAll]
    cases hw : splitAll (· == d) cs with
    | nil => exact absurd hw (splitAll_ne_nil _ cs)
    | cons w ws =>
      rw [hw] at ih
      split
      · rename_i hc
        rw [List.intercalate_cons_cons, ih, beq_iff_eq.mp hc]
        rfl
      · rw [← ih]
        cases ws with
        | nil => rfl
        | cons w' ws =>
          rw [List.intercalate_cons_cons, List.intercalate_cons_cons]
          rfl

theorem intercalate_append {d : List Char} {vs ws : List (List Char)} (hv : vs ≠ []) (hw : ws ≠ []) :
    d.intercalate (vs ++ ws) = d.intercalate vs ++ (d ++ d.intercalate ws) := by
  induction vs with
  | nil => exact absurd rfl hv
  | cons v vs ih =>
    cases vs with
    | nil =>
      cases ws with
      | nil => exact absurd rfl hw
      | cons w ws =>
        rw [List.singleton_append, List.intercalate_cons_cons, List.intercalate_singleton,
          List.append_assoc]
    | cons v' vs =>
      rw [List.cons_append, List.cons_append, List.intercalate_cons_cons, ← List.cons_append,
        ih (List.cons_ne_nil _ _), List.intercalate_cons_cons, List.append_assoc,
        List.append_assoc, List.append_assoc]

theorem splitAll_intercalate {d : Char} {ws : List (List Char)} (hne : ws ≠ [])
    (h : ∀ w ∈ ws, d ∉ w) : splitAll (· == d) ([d].intercalate ws) = ws := by
  induction ws with
  | nil => exact absurd rfl hne
  | cons w ws ih =>
    have hw : ∀ c ∈ w, (c == d) = false := by
      intro c hc
      rw [beq_eq_false_iff_ne]
      rintro rfl
      exact h w (List.mem_cons_self ..) hc
    cases ws with
    | nil => rw [List.intercalate_singleton, splitAll_of_none hw]
    | cons w' ws =>
      rw [List.intercalate_cons_cons, List.append_assoc, List.singleton_append,
        splitAll_append (p := (· == d)) (beq_self_eq_true d), splitAll_of_none hw,
        ih (List.cons_ne_nil _ _) fun v hv => h v (List.mem_cons_of_mem _ hv)]
      rfl

def words (cs : List Char) : List (List Char) :=
  (splitAll isBlank cs).filter fun w => !w.isEmpty

section Blanks

variable {before after : List Char}

theorem trimStart_append_of_blank (h : ∀ c ∈ before, isBlank c = true) (cs : List Char) :
    trimStart (before ++ cs) = trimStart cs := List.dropWhile_append_of_pos h

theorem trimEnd_append_of_blank (h : ∀ c ∈ after, isBlank c = true) (cs : List Char) :
    trimEnd (cs ++ after) = trimEnd cs := by
  have hr : ∀ c ∈ after.reverse, isBlank c = true := fun c hc => h c (List.mem_reverse.mp hc)
  rw [trimEnd, List.reverse_append, List.dropWhile_append_of_pos hr]
  rfl

theorem dropWhile_of_head? {α : Type} {p : α → Bool} {xs : List α}
    (h : ∀ x ∈ xs.head?, p x = false) : xs.dropWhile p = xs := by
  cases xs with
  | nil => rfl
  | cons x xs => exact List.dropWhile_cons_of_neg (Bool.eq_false_iff.mp (h x rfl))

theorem trimEnd_of_none {cs : List Char} (h : ∀ c ∈ cs, isBlank c = false) : trimEnd cs = cs := by
  have hr : cs.reverse.dropWhile isBlank = cs.reverse :=
    dropWhile_of_head? fun c hc => h c (List.mem_reverse.mp (List.mem_of_mem_head? hc))
  rw [trimEnd, hr, List.reverse_reverse]

theorem trimEnd_append {a b : List Char} (ha : b = [] → trimEnd a = a) (hb : trimEnd b = b) :
    trimEnd (a ++ b) = a ++ b := by
  rw [trimEnd, List.reverse_append, List.dropWhile_append]
  have hr : b.reverse.dropWhile isBlank = b.reverse := by
    rw [← List.reverse_inj, List.reverse_reverse]
    exact hb
  rw [hr]
  split
  · rename_i he
    have hnil : b = [] := by simpa using he
    rw [hnil, List.append_nil]
    exact ha hnil
  · simp

theorem isPrefix_trimEnd (cs : List Char) : trimEnd cs <+: cs := by
  have h : cs.reverse.dropWhile isBlank <:+ cs.reverse := List.dropWhile_suffix _
  rw [trimEnd, ← List.reverse_suffix, List.reverse_reverse]
  exact h

theorem trimStart_cons {c : Char} (h : isBlank c = false) (cs : List Char) :
    trimStart (c :: cs) = c :: cs := List.dropWhile_cons_of_neg (by rw [h]; decide)

theorem trimEnd_append_cons {c : Char} (h : isBlank c = false) (a b : List Char) :
    trimEnd (a ++ c :: b) = a ++ c :: trimEnd b := by
  have hc : ¬isBlank c = true := Bool.eq_false_iff.mp h
  rw [trimEnd, trimEnd, List.reverse_append, List.reverse_cons, List.append_assoc,
    List.singleton_append, List.dropWhile_append]
  split
  · rename_i he
    rw [List.dropWhile_cons_of_neg hc, List.isEmpty_iff.mp he, List.reverse_cons,
      List.reverse_reverse]
    simp
  · simp

theorem trim_of_none {cs : List Char} (h : ∀ c ∈ cs, isBlank c = false) : trim cs = cs := by
  have hstart : trimStart cs = cs := dropWhile_of_head? fun c hc => h c (List.mem_of_mem_head? hc)
  rw [trim, hstart, trimEnd_of_none h]

theorem words_append {c : Char} (h : isBlank c = true) (a b : List Char) :
    words (a ++ c :: b) = words a ++ words b := by
  rw [words, splitAll_append h, List.filter_append]
  rfl

theorem words_blank_append (h : ∀ c ∈ before, isBlank c = true) (cs : List Char) :
    words (before ++ cs) = words cs := by
  induction before with
  | nil => rfl
  | cons c before ih =>
    have hc : words (c :: (before ++ cs)) = words [] ++ words (before ++ cs) :=
      words_append (h c (List.mem_cons_self ..)) [] _
    rw [List.cons_append, hc, ih fun d hd => h d (List.mem_cons_of_mem _ hd)]
    rfl

theorem words_append_blank (h : ∀ c ∈ after, isBlank c = true) (cs : List Char) :
    words (cs ++ after) = words cs := by
  cases after with
  | nil => rw [List.append_nil]
  | cons c after =>
    have hafter : words (after ++ []) = [] :=
      words_blank_append (fun d hd => h d (List.mem_cons_of_mem _ hd)) []
    rw [List.append_nil] at hafter
    rw [words_append (h c (List.mem_cons_self ..)), hafter, List.append_nil]

theorem words_of_word {w : List Char} (hne : w ≠ []) (h : ∀ c ∈ w, isBlank c = false) :
    words w = [w] := by
  cases w with
  | nil => exact absurd rfl hne
  | cons c w =>
    rw [words, splitAll_of_none h]
    rfl

end Blanks

def trimText (s : String) : String := String.ofList (trim s.toList)

end InfraTemplate.Text
