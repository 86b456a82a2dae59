import InfraTemplate.Proofs.Discipline

/-!
Evaluation under a watch, which gives up where it would go on to what is not allowed. What comes of
it comes of unwatched evaluation too, so a watch says what a run has never done.
-/

namespace InfraTemplate

def Evaluator.watched (allows : Node → Env → Bool) : Nat → Evaluator
  | 0 => ⟨fun _ _ _ => Eval.unfinished, fun _ _ _ => Eval.unfinished, fun _ _ _ => Eval.unfinished⟩
  | n + 1 => ⟨fun x path env =>
        if allows x env then (watched allows n).step x path env else Eval.unfinished,
      fun expr path env => (watched allows n).lookup expr path env,
      fun m path env => (watched allows n).resourceSection m path env⟩

theorem Evaluator.watched_true (k : Nat) : watched (fun _ _ => true) k = upTo k := by
  induction k with
  | zero => rfl
  | succ k ih => rw [watched, ih, upTo]; rfl

namespace Discipline

open Judgement

variable {ι : Type} {D : Discipline ι}

section Knot

variable (hready : ∀ {n : Node} {env : ι → Env}, D.Call n env → D.Ready n env)
  (hask : ∀ {expr : String} {env : ι → Env}, D.Ask expr env → D.Within env ∧ ∀ expr, D.Ask expr env)

include hready hask

theorem obeys_next {ev : ι → Evaluator} {node : ι → Node → Path → Env → Eval Node}
    (hev : D.Obeys ev)
    (hnode : ∀ {n : Node} {env : ι → Env} {path : ι → Path}, D.Call n env → D.Along path →
      D.Gives (fun i => node i n (path i) (env i)) D.Value) :
    D.Obeys fun i => ⟨node i, (ev i).lookup, (ev i).resourceSection⟩ where
  node := hnode
  reference ha hp := by
    obtain ⟨hw, hasks⟩ := hask ha
    exact lookup hev.node hw hp fun _ _ _ _ =>
      (hev.reference (hasks _) hp).mono fun _ _ => trivial
  resources hm hp := resourceSection hev (readyEntries (hready hm)) hp

theorem obeys_watched (lead : ι) (allows : ι → Node → Env → Bool)
    (hgiven : ∀ {α : Type} {m : ι → Eval α} {Q : (ι → α) → Prop},
      m lead = Eval.unfinished → D.Holds m Q)
    (hallows : ∀ {n : Node} {env : ι → Env}, D.Call n env → allows lead n (env lead) = true →
      D.Permits n env ∧ ∀ i, allows i n (env i) = true)
    (fuel : ι → Nat) (hfuel : ∀ i, fuel lead ≤ fuel i) :
    D.Obeys fun i => Evaluator.watched (allows i) (fuel i) := by
  -- Where the leading run has no steps left nothing is to be shown, and else no run is without one.
  induction hk : fuel lead generalizing fuel with
  | zero =>
    constructor <;> intros <;> apply hgiven <;> rw [hk, Evaluator.watched]
  | succ k ih =>
    obtain ⟨rest, rfl⟩ : ∃ rest : ι → Nat, fuel = fun i => rest i + 1 := by
      refine ⟨fun i => fuel i - 1, funext fun i => ?_⟩
      have := hfuel i
      dsimp only
      omega
    have inner : D.Obeys fun i => Evaluator.watched (allows i) (rest i) :=
      ih rest (fun i => Nat.le_of_succ_le_succ (hfuel i)) (Nat.succ.inj hk)
    refine obeys_next hready hask inner ?_
    intro n env path hn hp
    cases hl : allows lead n (env lead) with
    | false =>
      refine hgiven ?_
      simp only [hl, Bool.false_eq_true, ↓reduceIte]
    | true =>
      obtain ⟨hpermits, hall⟩ := hallows hn hl
      simp only [hall, ↓reduceIte]
      exact step inner hp (hready hn) hpermits

end Knot

end Discipline

end InfraTemplate
