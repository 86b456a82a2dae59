import InfraTemplate.Node.Equality
import InfraTemplate.Proofs.Parts

namespace InfraTemplate

theorem Binary64.same_trans {x y z : Binary64} (h : x.same y = true) (h' : y.same z = true) :
    x.same z = true := by
  simp only [same, Bool.or_eq_true, Bool.and_eq_true, beq_iff_eq] at h h' ⊢
  rcases h with rfl | ⟨hx, hy⟩
  · exact h'
  · rcases h' with rfl | ⟨-, hz⟩
    · exact .inr ⟨hx, hy⟩
    · exact .inr ⟨hx, hz⟩

theorem Number.same_trans {x y z : Number} (h : x.same y = true) (h' : y.same z = true) :
    x.same z = true := by
  cases x <;> cases y <;> cases z <;> simp only [same, beq_iff_eq, Bool.false_eq_true] at h h' ⊢
  · exact h.trans h'
  · exact Binary64.same_trans h h'

theorem Scope.same_trans {s t u : Scope} (h : s.same t = true) (h' : t.same u = true) :
    s.same u = true := by
  cases s <;> cases t <;> cases u <;> simp only [same, beq_iff_eq, Bool.false_eq_true] at h h' ⊢
  exact h.trans h'

namespace Node

theorem eq_of_string_same {a : String} {x : Node} (h : (string a).same x = true) :
    x = .string a := by
  cases x with
  | string b =>
    simp only [same, beq_iff_eq] at h
    rw [h]
  | null | bool _ | number _ | seq _ | map _ | tag _ | document _ => simp [same] at h

theorem sameEntries_iff {xs ys : Mapping} : sameEntries xs ys = true ↔
    ∀ e ∈ xs, ∃ y, Entries.find? e.1 ys = some y ∧ e.2.same y = true := by
  induction xs with
  | nil => simp [sameEntries]
  | cons e xs ih =>
    rw [sameEntries, Bool.and_eq_true, ih, List.forall_mem_cons]
    refine and_congr ?_ Iff.rfl
    cases Entries.find? e.1 ys <;> simp

mutual

theorem same_trans : (x : Node) → {y z : Node} → x.same y = true → y.same z = true →
    x.same z = true
  | null, y, z, h, h' => by
    cases y <;> simp only [same, Bool.false_eq_true] at h
    exact h'
  | bool a, y, z, h, h' => by
    cases y <;> simp only [same, beq_iff_eq, Bool.false_eq_true] at h
    cases z <;> simp only [same, beq_iff_eq, Bool.false_eq_true] at h' ⊢
    exact h.trans h'
  | number a, y, z, h, h' => by
    cases y <;> simp only [same, Bool.false_eq_true] at h
    cases z <;> simp only [same, Bool.false_eq_true] at h' ⊢
    exact Number.same_trans h h'
  | string a, y, z, h, h' => by
    rw [eq_of_string_same h] at h'
    exact h'
  | seq xs, y, z, h, h' => by
    cases y <;> simp only [same, Bool.false_eq_true] at h
    cases z <;> simp only [same, Bool.false_eq_true] at h' ⊢
    exact sameItems_trans xs h h'
  | map xs, y, z, h, h' => by
    cases y <;> simp only [same, Bool.and_eq_true, beq_iff_eq, Bool.false_eq_true] at h
    cases z <;> simp only [same, Bool.and_eq_true, beq_iff_eq, Bool.false_eq_true] at h' ⊢
    exact ⟨h.1.trans h'.1, sameEntries_trans xs h.2 h'.2⟩
  | tag t, y, z, h, h' => by
    cases y <;> simp only [same, Bool.false_eq_true] at h
    cases z <;> simp only [same, Bool.false_eq_true] at h' ⊢
    exact sameTag_trans t h h'
  | document ⟨l, xs, ps, s⟩, y, z, h, h' => by
    rcases y with _ | _ | _ | _ | _ | _ | _ | ⟨⟨⟩⟩ <;>
      simp only [same, Bool.and_eq_true, beq_iff_eq, Bool.false_eq_true] at h
    rcases z with _ | _ | _ | _ | _ | _ | _ | ⟨⟨⟩⟩ <;>
      simp only [same, Bool.and_eq_true, beq_iff_eq, Bool.false_eq_true] at h' ⊢
    obtain ⟨⟨⟨⟨hl, hlen⟩, he⟩, hp⟩, hs⟩ := h
    obtain ⟨⟨⟨⟨hl', hlen'⟩, he'⟩, hp'⟩, hs'⟩ := h'
    exact ⟨⟨⟨⟨hl.trans hl', hlen.trans hlen'⟩, sameEntries_trans xs he he'⟩,
      sameParams_trans ps hp hp'⟩, Scope.same_trans hs hs'⟩

theorem sameItems_trans : (xs : List Node) → {ys zs : List Node} → sameItems xs ys = true →
    sameItems ys zs = true → sameItems xs zs = true
  | [], ys, zs, h, h' => by
    cases ys <;> simp only [sameItems, Bool.false_eq_true] at h
    exact h'
  | x :: xs, ys, zs, h, h' => by
    cases ys <;> simp only [sameItems, Bool.and_eq_true, Bool.false_eq_true] at h
    cases zs <;> simp only [sameItems, Bool.and_eq_true, Bool.false_eq_true] at h' ⊢
    exact ⟨same_trans x h.1 h'.1, sameItems_trans xs h.2 h'.2⟩

theorem sameEntries_trans : (xs : List (String × Node)) → {ys zs : Mapping} →
    sameEntries xs ys = true → sameEntries ys zs = true → sameEntries xs zs = true
  | [], _, _, _, _ => sameEntries_iff.mpr fun _ he => absurd he List.not_mem_nil
  | (k, x) :: xs, ys, zs, h, h' => by
    obtain ⟨⟨y, hy, hxy⟩, hxs⟩ := List.forall_mem_cons.mp (sameEntries_iff.mp h)
    obtain ⟨z, hz, hyz⟩ := sameEntries_iff.mp h' _ (Entries.mem_of_find? hy)
    have hrest := sameEntries_trans xs (sameEntries_iff.mpr hxs) h'
    refine sameEntries_iff.mpr (List.forall_mem_cons.mpr ⟨⟨z, hz, same_trans x hxy hyz⟩, ?_⟩)
    exact sameEntries_iff.mp hrest

theorem sameOption_trans : (x : Option Node) → {y z : Option Node} → sameOption x y = true →
    sameOption y z = true → sameOption x z = true
  | none, y, z, h, h' => by
    cases y <;> simp only [sameOption, Bool.false_eq_true] at h
    exact h'
  | some x, y, z, h, h' => by
    cases y <;> simp only [sameOption, Bool.false_eq_true] at h
    cases z <;> simp only [sameOption, Bool.false_eq_true] at h' ⊢
    exact same_trans x h h'

theorem sameItemsOption_trans : (xs : Option (List Node)) → {ys zs : Option (List Node)} →
    sameItemsOption xs ys = true → sameItemsOption ys zs = true → sameItemsOption xs zs = true
  | none, ys, zs, h, h' => by
    cases ys <;> simp only [sameItemsOption, Bool.false_eq_true] at h
    exact h'
  | some xs, ys, zs, h, h' => by
    cases ys <;> simp only [sameItemsOption, Bool.false_eq_true] at h
    cases zs <;> simp only [sameItemsOption, Bool.false_eq_true] at h' ⊢
    exact sameItems_trans xs h h'

theorem sameTag_trans : (t : Tag Node) → {u v : Tag Node} → sameTag t u = true →
    sameTag u v = true → sameTag t v = true
  | .lookup p, u, v, h, h' => by
    cases u <;> simp only [sameTag, beq_iff_eq, Bool.false_eq_true] at h
    cases v <;> simp only [sameTag, beq_iff_eq, Bool.false_eq_true] at h' ⊢
    exact h.trans h'
  | .expand t p, u, v, h, h' => by
    cases u <;> simp only [sameTag, Bool.and_eq_true, Bool.false_eq_true] at h
    cases v <;> simp only [sameTag, Bool.and_eq_true, Bool.false_eq_true] at h' ⊢
    exact ⟨same_trans t h.1 h'.1, same_trans p h.2 h'.2⟩
  | .apply o x, u, v, h, h' => by
    cases u <;> simp only [sameTag, Bool.and_eq_true, beq_iff_eq, Bool.false_eq_true] at h
    cases v <;> simp only [sameTag, Bool.and_eq_true, beq_iff_eq, Bool.false_eq_true] at h' ⊢
    exact ⟨h.1.trans h'.1, same_trans x h.2 h'.2⟩
  | .pair o x y, u, v, h, h' => by
    cases u <;> simp only [sameTag, Bool.and_eq_true, beq_iff_eq, Bool.false_eq_true] at h
    cases v <;> simp only [sameTag, Bool.and_eq_true, beq_iff_eq, Bool.false_eq_true] at h' ⊢
    exact ⟨⟨h.1.1.trans h'.1.1, same_trans x h.1.2 h'.1.2⟩, same_trans y h.2 h'.2⟩
  | .choose t c a, u, v, h, h' => by
    cases u <;> simp only [sameTag, Bool.and_eq_true, Bool.false_eq_true] at h
    cases v <;> simp only [sameTag, Bool.and_eq_true, Bool.false_eq_true] at h' ⊢
    exact ⟨⟨same_trans t h.1.1 h'.1.1, same_trans c h.1.2 h'.1.2⟩, sameOption_trans a h.2 h'.2⟩
  | .letIn xs b, u, v, h, h' => by
    cases u <;> simp only [sameTag, Bool.and_eq_true, beq_iff_eq, Bool.false_eq_true] at h
    cases v <;> simp only [sameTag, Bool.and_eq_true, beq_iff_eq, Bool.false_eq_true] at h' ⊢
    exact ⟨⟨h.1.1.trans h'.1.1, sameEntries_trans xs h.1.2 h'.1.2⟩, same_trans b h.2 h'.2⟩
  | .loop k ⟨i, t, v, f⟩, u, w, h, h' => by
    rcases u with _ | _ | _ | _ | _ | _ | ⟨_, ⟨⟩⟩ | _ <;>
      simp only [sameTag, Bool.and_eq_true, beq_iff_eq, Bool.false_eq_true] at h
    rcases w with _ | _ | _ | _ | _ | _ | ⟨_, ⟨⟩⟩ | _ <;>
      simp only [sameTag, Bool.and_eq_true, beq_iff_eq, Bool.false_eq_true] at h' ⊢
    obtain ⟨⟨⟨⟨hk, hi⟩, ht⟩, hv⟩, hf⟩ := h
    obtain ⟨⟨⟨⟨hk', hi'⟩, ht'⟩, hv'⟩, hf'⟩ := h'
    exact ⟨⟨⟨⟨hk.trans hk', same_trans i hi hi'⟩, same_trans t ht ht'⟩, hv.trans hv'⟩,
      sameOption_trans f hf hf'⟩
  | .groupBy ⟨i, k, v, t⟩, u, w, h, h' => by
    rcases u with _ | _ | _ | _ | _ | _ | _ | ⟨⟨⟩⟩ <;>
      simp only [sameTag, Bool.and_eq_true, beq_iff_eq, Bool.false_eq_true] at h
    rcases w with _ | _ | _ | _ | _ | _ | _ | ⟨⟨⟩⟩ <;>
      simp only [sameTag, Bool.and_eq_true, beq_iff_eq, Bool.false_eq_true] at h' ⊢
    obtain ⟨⟨⟨hi, hk⟩, hv⟩, ht⟩ := h
    obtain ⟨⟨⟨hi', hk'⟩, hv'⟩, ht'⟩ := h'
    exact ⟨⟨⟨same_trans i hi hi', same_trans k hk hk'⟩, hv.trans hv'⟩, sameOption_trans t ht ht'⟩

theorem sameParams_trans : (ps : List (Param Node)) → {qs rs : List (Param Node)} →
    sameParams ps qs = true → sameParams qs rs = true → sameParams ps rs = true
  | [], qs, rs, h, h' => by
    cases qs <;> simp only [sameParams, Bool.false_eq_true] at h
    exact h'
  | ⟨n, d, t, s, v, p⟩ :: ps, qs, rs, h, h' => by
    rcases qs with _ | ⟨⟨⟩, _⟩ <;>
      simp only [sameParams, Bool.and_eq_true, beq_iff_eq, Bool.false_eq_true] at h
    rcases rs with _ | ⟨⟨⟩, _⟩ <;>
      simp only [sameParams, Bool.and_eq_true, beq_iff_eq, Bool.false_eq_true] at h' ⊢
    obtain ⟨⟨⟨⟨⟨⟨hn, hd⟩, ht⟩, hs⟩, hv⟩, hp⟩, hrest⟩ := h
    obtain ⟨⟨⟨⟨⟨⟨hn', hd'⟩, ht'⟩, hs'⟩, hv'⟩, hp'⟩, hrest'⟩ := h'
    exact ⟨⟨⟨⟨⟨⟨hn.trans hn', sameOption_trans d hd hd'⟩, ht.trans ht'⟩,
      sameOption_trans s hs hs'⟩, sameItemsOption_trans v hv hv'⟩, hp.trans hp'⟩,
      sameParams_trans ps hrest hrest'⟩

end

section Membership

variable {x y : Node} {items : List Node}

theorem isIn_string {a : String} {xs : List Node} (h : .string a ∈ xs) :
    isIn (.string a) xs = true :=
  List.any_eq_true.mpr ⟨.string a, h, by simp [same]⟩

theorem isIn_concat : isIn x (items ++ [y]) = (isIn x items || y.same x) := by
  simp [isIn]

theorem isIn_of_same (hy : isIn y items = true) (h : y.same x = true) :
    isIn x items = true := by
  obtain ⟨z, hz, hzy⟩ := List.any_eq_true.mp hy
  exact List.any_eq_true.mpr ⟨z, hz, same_trans z hzy h⟩

end Membership

end Node

end InfraTemplate
