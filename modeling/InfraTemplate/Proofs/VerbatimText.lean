import InfraTemplate.Proofs.Outcome

namespace InfraTemplate

namespace Span

def isVerbatim : Span → Bool
  | char _ => true
  | placeholder inner => isDynamic inner

theorem flatMap_source_scan (cs : List Char) : (scan cs).flatMap source = cs := by
  -- By induction on the length, as a placeholder takes several characters at once.
  induction hn : cs.length using Nat.strongRecOn generalizing cs with
  | ind n ih =>
    cases cs with
    | nil => rfl
    | cons c cs =>
      cases ho : opening? (c :: cs) with
      | none =>
        have hlt : cs.length < n := by
          rw [← hn, List.length_cons]
          omega
        rw [scan_cons_of_none ho, List.flatMap_cons, ih _ hlt cs rfl]
        rfl
      | some p =>
        obtain ⟨inner, rest⟩ := p
        have he := opening?_eq_some ho
        have hlt : rest.length < n := by
          rw [← hn, he, List.length_append]
          simp only [source, List.length_append, List.length_cons]
          omega
        rw [scan_of_opening ho, List.flatMap_cons, ih _ hlt rest rfl, ← he]

theorem render_verbatim {σ : Type} {path : String} {lookup : String → Stateful σ Node} {span : Span}
    (h : span.isVerbatim = true) :
    render path lookup span = (pure (String.ofList span.source) : Stateful σ String) := by
  cases span with
  | char c =>
    rw [render, String.singleton_eq_ofList]
    rfl
  | placeholder inner =>
    have hd : isDynamic inner = true := h
    rw [render, if_pos hd]

end Span

namespace Interpolation

def isVerbatim (s : String) : Bool := (Span.ofText s).all Span.isVerbatim

theorem interpolate_verbatim {σ : Type} (path : String) (lookup : String → Stateful σ Node)
    {s : String} (h : isVerbatim s = true) : interpolate path lookup s = pure s := by
  have hspans : ∀ span ∈ Span.ofText s,
      Span.render path lookup span = (pure (String.ofList span.source) : Stateful σ String) :=
    fun span hspan => Span.render_verbatim (List.all_eq_true.mp h span hspan)
  have hjoin (spans : List Span) : String.join (spans.map fun span => String.ofList span.source) =
      String.ofList (spans.flatMap Span.source) := by
    induction spans with
    | nil => rfl
    | cons span spans ih =>
      rw [List.map_cons, String.join_cons, ih, List.flatMap_cons, String.ofList_append]
  rw [interpolate, mapM_eq_pure hspans, pure_bind, hjoin, Span.ofText, Span.flatMap_source_scan,
    String.ofList_toList]

theorem isVerbatim_of_unmarked {s : String} (h : hasPlaceholders s = false) :
    isVerbatim s = true := by
  refine List.all_eq_true.mpr fun span hspan => ?_
  have hs := List.any_eq_false.mp h span hspan
  cases span with
  | char c => rfl
  | placeholder inner => exact absurd rfl hs

end Interpolation

end InfraTemplate
