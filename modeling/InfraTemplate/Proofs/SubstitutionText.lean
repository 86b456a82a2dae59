import InfraTemplate.SubText

namespace InfraTemplate

namespace Text

end Text

namespace SubPart

open Text

def Settled (cs : List Char) : Prop :=
  ∀ a b, cs = a ++ '$' :: '\x7b' :: b → b.head? = some '!' ∨ '\x7d' ∈ b

theorem opening?_eq_none {c : Char} {cs : List Char} (h : c = '$' → cs.head? ≠ some '\x7b') :
    opening? (c :: cs) = none := by
  unfold opening?
  split
  · rename_i heq
    cases heq
    exact absurd rfl (h rfl)
  · rfl

theorem scan_unopened {cs rest : List Char} (h : ¬['$', '\x7b'] <:+: cs)
    (hlast : cs.getLast? = some '$' → rest.head? ≠ some '\x7b') :
    scan (cs ++ rest) = cs.map char ++ scan rest := by
  induction cs with
  | nil => rfl
  | cons c cs ih =>
    cases cs with
    | nil =>
      have hnone : opening? (c :: rest) = none := opening?_eq_none fun hc => hlast (hc ▸ rfl)
      exact scan_cons_of_none hnone
    | cons d cs =>
      have hnone : opening? (c :: d :: (cs ++ rest)) = none := by
        refine opening?_eq_none ?_
        rintro rfl hd
        cases hd
        exact h ⟨[], cs, rfl⟩
      have htail : ¬['$', '\x7b'] <:+: d :: cs :=
        fun hi => h (hi.trans (List.suffix_cons c (d :: cs)).isInfix)
      have hrest := ih htail fun hl => hlast (by rw [List.getLast?_cons_cons, hl])
      rw [List.cons_append, List.cons_append, scan_cons_of_none hnone, ← List.cons_append, hrest]
      rfl

def qualified (naming : NameScope) (bound : List String) (cs : List Char) : List Char :=
  (scan cs).flatMap fun part => (part.qualify naming bound).text

def IsAttribute (tail : List Char) : Prop :=
  tail = [] ∨ ∃ attr, tail = '.' :: attr ∧ '\x7d' ∉ attr

instance : (tail : List Char) → Decidable (IsAttribute tail)
  | [] => .isTrue (.inl rfl)
  | c :: attr =>
    decidable_of_iff (c = '.' ∧ '\x7d' ∉ attr)
      ⟨fun h => .inr ⟨attr, by rw [h.1], h.2⟩, fun h => by
        rcases h with h | ⟨_, h, hn⟩
        · cases h
        · cases h
          exact ⟨rfl, hn⟩⟩

theorem IsAttribute.not_mem {tail : List Char} (h : IsAttribute tail) : '\x7d' ∉ tail := by
  rcases h with rfl | ⟨attr, rfl, hn⟩
  · simp
  · simp [hn]

theorem nameOf_append {name tail : List Char} (hn : '.' ∉ name) (ht : IsAttribute tail) :
    nameOf (name ++ tail) = name ∧ (name ++ tail).dropWhile (· != '.') = tail := by
  have hall : ∀ c ∈ name, (c != '.') = true := by
    intro c hc
    rw [bne_iff_ne]
    rintro rfl
    exact hn hc
  have hhead : tail.takeWhile (· != '.') = [] ∧ tail.dropWhile (· != '.') = tail := by
    rcases ht with rfl | ⟨attr, rfl, _⟩ <;> simp
  rw [nameOf, List.takeWhile_append_of_pos hall, List.dropWhile_append_of_pos hall, hhead.1,
    hhead.2, List.append_nil]
  exact ⟨rfl, rfl⟩

theorem scan_reference {name tail : List Char} (hne : name ≠ []) (hb : name.head? ≠ some '!')
    (hc : '\x7d' ∉ name) (ht : IsAttribute tail) (after : List Char) :
    scan (text (.reference (name ++ tail)) ++ after) = .reference (name ++ tail) :: scan after := by
  have hne' : name ++ tail ≠ [] := by simp [hne]
  have hb' : (name ++ tail).head? ≠ some '!' := by
    cases name with
    | nil => exact absurd rfl hne
    | cons c name => exact hb
  have hc' : '\x7d' ∉ name ++ tail := by
    rw [List.mem_append, not_or]
    exact ⟨hc, ht.not_mem⟩
  exact scan_of_opening (opening?_eq_some.mpr ⟨rfl, hne', hb', hc'⟩)

theorem qualify_reference (naming : NameScope) (bound : List String) {name tail : List Char}
    (hd : '.' ∉ name) (ht : IsAttribute tail) :
    (SubPart.reference (name ++ tail)).qualify naming bound =
      if String.ofList name ∈ bound then .reference (name ++ tail)
      else .reference ((naming.qualify (String.ofList name)).toList ++ tail) := by
  obtain ⟨hname, hrest⟩ := nameOf_append hd ht
  simp only [qualify, hname, hrest, List.contains_eq_mem, decide_eq_true_eq]

end SubPart

end InfraTemplate
