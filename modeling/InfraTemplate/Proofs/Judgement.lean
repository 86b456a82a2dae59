import InfraTemplate.Proofs.Outcome
import Mathlib.Data.List.Basic

/-!
Rules for computations that run side by side, one for each index. They say alike what one run keeps,
what a run has in common with another one, and that runs end when they may take enough steps.
-/

namespace InfraTemplate

inductive ErrorKind where
  | failedImport
  | undefined
  | collision
  | malformed
  | invalidParameter
  | invalidResource
  | tooDeep
  | unreadable
deriving DecidableEq, Repr

def Error.kind : Error → ErrorKind
  | failedImport .. => .failedImport
  | undefined .. => .undefined
  | collision .. => .collision
  | malformed .. => .malformed
  | invalidParameter .. => .invalidParameter
  | invalidResource .. => .invalidResource
  | tooDeep .. => .tooDeep
  | unreadable .. => .unreadable

def Error.trace? : Error → Option Trace
  | undefined _ _ trace => some trace
  | malformed _ _ _ trace => some trace
  | invalidParameter _ _ _ _ trace => some trace
  | invalidResource _ _ _ trace => some trace
  | tooDeep _ _ trace => some trace
  | failedImport .. | collision .. | unreadable .. => none

section Reporting

variable {σ α : Type}

def reporting (e : Error) (m : Stateful σ α) : Stateful σ α :=
  tryCatch m fun
    | .undefined .. => throw e
    | e' => throw e'

def reported (e : Error) : Error → Error
  | .undefined .. => e
  | e' => e'

theorem reported_cases (e e' : Error) : reported e e' = e ∨ reported e e' = e' := by
  cases e' with
  | undefined _ _ _ => exact .inl rfl
  | failedImport _ _ _ | collision _ _ _ | malformed _ _ _ _ | invalidParameter _ _ _ _ _
  | invalidResource _ _ _ _ | tooDeep _ _ _ | unreadable _ _ => exact .inr rfl

theorem run_reporting (e : Error) (m : Stateful σ α) (s : σ) :
    (reporting e m).run s = (m.run s).map fun p =>
      match p.1 with
      | .ok a => (.ok a, p.2)
      | .error e' => (.error (reported e e'), p.2) := by
  change (m.run s).bind _ = _
  cases m.run s with
  | none => rfl
  | some p =>
    obtain ⟨r, t⟩ := p
    cases r with
    | ok a => rfl
    | error e' => cases e' <;> rfl

theorem returns_reporting {e : Error} {m : Stateful σ α} {s t : σ} {a : α} :
    Returns (reporting e m) s a t ↔ Returns m s a t := by
  rw [Returns, Returns, run_reporting]
  rcases m.run s with _ | ⟨_ | b, u⟩ <;> simp

theorem fails_reporting_iff {e e' : Error} {m : Stateful σ α} {s t : σ} :
    Fails (reporting e m) s e' t ↔ ∃ e'', Fails m s e'' t ∧ reported e e'' = e' := by
  rw [Fails, run_reporting]
  simp only [Fails]
  rcases m.run s with _ | ⟨_ | b, u⟩ <;> simp [and_comm]

end Reporting

/-- A way to reason about computations that run side by side. `Holds` is about what they return, and
they may fail together with a `Fault`. -/
structure Judgement (ι σ : Type) where
  Holds : ∀ {α : Type}, (ι → Stateful σ α) → ((ι → α) → Prop) → Prop
  Fault : (ι → Error) → Prop
  ret : ∀ {α : Type} {a : ι → α} {Q : (ι → α) → Prop}, Q a → Holds (fun i => pure (a i)) Q
  bind : ∀ {α β : Type} {m : ι → Stateful σ α} {f : ι → α → Stateful σ β}
    {P : (ι → α) → Prop} {Q : (ι → β) → Prop}, Holds m P → (∀ a, P a → Holds (fun i => f i (a i)) Q) →
      Holds (fun i => m i >>= f i) Q
  fail : ∀ {α : Type} {e : ι → Error} {Q : (ι → α) → Prop}, Fault e →
    Holds (fun i => throw (e i)) Q
  report : ∀ {α : Type} {m : ι → Stateful σ α} {e : ι → Error} {P : (ι → α) → Prop}, Holds m P →
    Fault e → Holds (fun i => reporting (e i) (m i)) P

namespace Judgement

variable {ι σ α β : Type} (J : Judgement ι σ)

def Gives (m : ι → Stateful σ α) (P : α → Prop) : Prop := J.Holds m fun a => ∃ x, P x ∧ a = fun _ => x

variable {J} {m : ι → Stateful σ α} {P Q : α → Prop}

theorem Gives.pure {x : α} (h : P x) : J.Gives (fun _ => Pure.pure x) P :=
  J.ret ⟨x, h, rfl⟩

theorem Gives.bind {f : ι → α → Stateful σ β} {Q : (ι → β) → Prop} (h : J.Gives m P)
    (hf : ∀ x, P x → J.Holds (fun i => f i x) Q) : J.Holds (fun i => m i >>= f i) Q := by
  refine J.bind h ?_
  rintro _ ⟨x, hx, rfl⟩
  exact hf x hx

theorem Gives.map {Q : β → Prop} (g : α → β) (h : J.Gives m P) (hg : ∀ x, P x → Q (g x)) :
    J.Gives (fun i => g <$> m i) Q := by
  simp only [map_eq_pure_bind]
  exact h.bind fun x hx => Gives.pure (hg x hx)

theorem holds_mono {P Q : (ι → α) → Prop} (h : J.Holds m P) (hPQ : ∀ a, P a → Q a) :
    J.Holds m Q := by
  have hb := J.bind (f := fun _ => Pure.pure) h fun a ha => J.ret (hPQ a ha)
  simpa only [bind_pure] using hb

theorem Gives.mono (h : J.Gives m P) (hPQ : ∀ x, P x → Q x) : J.Gives m Q := by
  refine holds_mono h ?_
  rintro _ ⟨x, hx, rfl⟩
  exact ⟨x, hPQ x hx, rfl⟩

theorem Gives.mapM {f : ι → α → Stateful σ β} {Q : β → Prop} {xs : List α}
    (h : ∀ x ∈ xs, J.Gives (fun i => f i x) Q) :
    J.Gives (fun i => xs.mapM (f i)) fun ys => ∀ y ∈ ys, Q y := by
  induction xs with
  | nil =>
    simp only [List.mapM_nil]
    refine Gives.pure ?_
    intro y hy
    cases hy
  | cons x xs ih =>
    simp only [List.mapM_cons]
    refine (h x (List.mem_cons_self ..)).bind fun y hy => ?_
    refine (ih fun x' hx' => h x' (List.mem_cons_of_mem _ hx')).bind fun ys hys => ?_
    refine Gives.pure ?_
    intro z hz
    rcases List.mem_cons.mp hz with rfl | hz
    · exact hy
    · exact hys z hz

theorem Gives.foldlM {f : ι → β → α → Stateful σ β} {I : β → Prop} {xs : List α} {b : β} (hb : I b)
    (h : ∀ b x, x ∈ xs → I b → J.Gives (fun i => f i b x) I) :
    J.Gives (fun i => xs.foldlM (f i) b) I := by
  induction xs generalizing b with
  | nil =>
    simp only [List.foldlM_nil]
    exact Gives.pure hb
  | cons x xs ih =>
    simp only [List.foldlM_cons]
    refine (h b x (List.mem_cons_self ..) hb).bind fun c hc => ?_
    exact ih hc fun b' x' hx' => h b' x' (List.mem_cons_of_mem _ hx')

theorem Gives.forM {f : ι → α → Stateful σ Unit} {xs : List α}
    (h : ∀ x ∈ xs, J.Gives (fun i => f i x) fun _ => True) :
    J.Gives (fun i => xs.forM (f i)) fun _ => True := by
  induction xs with
  | nil => exact Gives.pure trivial
  | cons x xs ih =>
    simp only [List.forM_eq_forM, List.forM_cons] at ih ⊢
    refine (h x (List.mem_cons_self ..)).bind fun _ _ => ?_
    exact ih fun x' hx' => h x' (List.mem_cons_of_mem _ hx')

end Judgement

section Leading

variable {σ ι α β : Type}

def Led (lead : ι) (S : (ι → σ) → Prop) (failing : Prop) (F : (ι → Error) → Prop)
    (m : ι → Stateful σ α) (Q : (ι → α) → Prop) : Prop :=
  ∀ s, S s →
    (∀ a t, Returns (m lead) (s lead) a t →
      ∃ as ts, Q as ∧ S ts ∧ ∀ i, Returns (m i) (s i) (as i) (ts i)) ∧
    (failing → ∀ e t, Fails (m lead) (s lead) e t →
      ∃ es ts, F es ∧ S ts ∧ ∀ i, Fails (m i) (s i) (es i) (ts i))

variable {lead : ι} {S : (ι → σ) → Prop} {failing : Prop} {F : (ι → Error) → Prop}

theorem led_pure {a : ι → α} {Q : (ι → α) → Prop} (h : Q a) :
    Led lead S failing F (fun i => pure (a i)) Q := by
  intro s hs
  constructor
  · intro b t _
    exact ⟨a, s, h, hs, fun _ => returns_pure.mpr ⟨rfl, rfl⟩⟩
  · intro _ e t h
    exact absurd h fails_pure

theorem led_throw {e : ι → Error} {Q : (ι → α) → Prop} (h : F e) :
    Led lead S failing F (fun i => throw (e i)) Q := by
  intro s hs
  constructor
  · intro b t h
    exact absurd h returns_throw
  · intro _ e' t _
    exact ⟨e, s, h, hs, fun _ => fails_throw.mpr ⟨rfl, rfl⟩⟩

theorem led_bind {m : ι → Stateful σ α} {f : ι → α → Stateful σ β} {P : (ι → α) → Prop}
    {Q : (ι → β) → Prop} (hm : Led lead S failing F m P)
    (hf : ∀ as, P as → Led lead S failing F (fun i => f i (as i)) Q) :
    Led lead S failing F (fun i => m i >>= f i) Q := by
  intro s hs
  obtain ⟨hr, he⟩ := hm s hs
  constructor
  · intro b u h
    obtain ⟨a, t, ha, hb⟩ := returns_bind.mp h
    obtain ⟨as, ts, hP, hts, hall⟩ := hr a t ha
    obtain ⟨rfl, rfl⟩ := ha.unique (hall lead)
    obtain ⟨bs, us, hQ, hus, hall'⟩ := (hf as hP ts hts).1 b u hb
    exact ⟨bs, us, hQ, hus, fun i => returns_bind.mpr ⟨_, _, hall i, hall' i⟩⟩
  · intro hfail e u h
    rcases fails_bind.mp h with h | ⟨a, t, ha, hb⟩
    · obtain ⟨es, ts, hF, hts, hall⟩ := he hfail e u h
      exact ⟨es, ts, hF, hts, fun i => fails_bind.mpr (.inl (hall i))⟩
    · obtain ⟨as, ts, hP, hts, hall⟩ := hr a t ha
      obtain ⟨rfl, rfl⟩ := ha.unique (hall lead)
      obtain ⟨es, us, hF, hus, hall'⟩ := (hf as hP ts hts).2 hfail e u hb
      exact ⟨es, us, hF, hus, fun i => fails_bind.mpr (.inr ⟨_, _, hall i, hall' i⟩)⟩

theorem led_of_unfinished {m : ι → Stateful σ α} {Q : (ι → α) → Prop}
    (h : ∀ s, (m lead).run s = none) : Led lead S failing F m Q := by
  intro s _
  constructor
  · intro a t ha
    rw [Returns, h] at ha
    cases ha
  · intro _ e t he
    rw [Fails, h] at he
    cases he

theorem led_const {m : Stateful σ α} {I : σ → Prop} {P : α → Prop}
    (hF : failing → ∀ e, F fun _ => e) (hfails : failing → ∀ s e t, I s → Fails m s e t → I t)
    (h : ∀ s a t, I s → Returns m s a t → P a ∧ I t) :
    Led lead (fun ss => ∃ s, I s ∧ ss = fun _ => s) failing F (fun _ => m)
      fun as => ∃ a, P a ∧ as = fun _ => a := by
  rintro _ ⟨s, hs, rfl⟩
  constructor
  · intro a t ha
    obtain ⟨hP, hI⟩ := h s a t hs ha
    exact ⟨_, _, ⟨a, hP, rfl⟩, ⟨t, hI, rfl⟩, fun _ => ha⟩
  · intro hf e t he
    exact ⟨_, _, hF hf e, ⟨t, hfails hf s e t hs he, rfl⟩, fun _ => he⟩

theorem led_report {m : ι → Stateful σ α} {e : ι → Error} {P : (ι → α) → Prop}
    (hF : ∀ es, F es → F fun i => reported (e i) (es i)) (hm : Led lead S failing F m P) :
    Led lead S failing F (fun i => reporting (e i) (m i)) P := by
  intro s hs
  obtain ⟨hr, he⟩ := hm s hs
  constructor
  · intro a t h
    obtain ⟨as, ts, hP, hts, hall⟩ := hr a t (returns_reporting.mp h)
    exact ⟨as, ts, hP, hts, fun i => returns_reporting.mpr (hall i)⟩
  · intro hfail e' t h
    obtain ⟨e'', h, -⟩ := fails_reporting_iff.mp h
    obtain ⟨es, ts, hes, hts, hall⟩ := he hfail e'' t h
    exact ⟨_, ts, hF es hes, hts, fun i => fails_reporting_iff.mpr ⟨_, hall i, rfl⟩⟩

end Leading

section Eventual

variable {σ α β : Type}

def Eventual (m : Nat → Stateful σ α) (Q : (Nat → α) → Prop) : Prop :=
  ∀ s : Nat → σ,
    (∃ (k : Nat) (as : Nat → α) (ts : Nat → σ),
        Q as ∧ ∀ i, k ≤ i → Returns (m i) (s i) (as i) (ts i)) ∨
      ∃ (k : Nat) (es : Nat → Error) (ts : Nat → σ),
        ∀ i, k ≤ i → Fails (m i) (s i) (es i) (ts i)

theorem eventual_bind {m : Nat → Stateful σ α} {f : Nat → α → Stateful σ β} {P : (Nat → α) → Prop}
    {Q : (Nat → β) → Prop} (hm : Eventual m P)
    (hf : ∀ as, P as → Eventual (fun i => f i (as i)) Q) : Eventual (fun i => m i >>= f i) Q := by
  intro s
  rcases hm s with ⟨k, as, ts, hP, hm⟩ | ⟨k, es, ts, hm⟩
  · rcases hf as hP ts with ⟨l, bs, us, hQ, hf⟩ | ⟨l, es, us, hf⟩
    · refine .inl ⟨max k l, bs, us, hQ, fun i hi => returns_bind.mpr ⟨_, _, hm i ?_, hf i ?_⟩⟩
      · exact Nat.le_trans (Nat.le_max_left ..) hi
      · exact Nat.le_trans (Nat.le_max_right ..) hi
    · refine .inr ⟨max k l, es, us, fun i hi => fails_bind.mpr (.inr ⟨_, _, hm i ?_, hf i ?_⟩)⟩
      · exact Nat.le_trans (Nat.le_max_left ..) hi
      · exact Nat.le_trans (Nat.le_max_right ..) hi
  · exact .inr ⟨k, es, ts, fun i hi => fails_bind.mpr (.inl (hm i hi))⟩

theorem eventual_report {m : Nat → Stateful σ α} {e : Nat → Error} {P : (Nat → α) → Prop}
    (hm : Eventual m P) : Eventual (fun i => reporting (e i) (m i)) P := by
  intro s
  rcases hm s with ⟨k, as, ts, hP, hm⟩ | ⟨k, es, ts, hm⟩
  · exact .inl ⟨k, as, ts, hP, fun i hi => returns_reporting.mpr (hm i hi)⟩
  · exact .inr ⟨k, _, ts, fun i hi => fails_reporting_iff.mpr ⟨_, hm i hi, rfl⟩⟩

end Eventual

namespace Judgement

def led {ι σ : Type} (lead : ι) (S : (ι → σ) → Prop) (failing : Prop)
    (F : (ι → Error) → Prop)
    (hF : ∀ e es, F e → F es → F fun i => reported (e i) (es i)) : Judgement ι σ where
  Holds := Led lead S failing F
  Fault := F
  ret := led_pure
  bind := led_bind
  fail := led_throw
  report hm he := led_report (fun _ hes => hF _ _ he hes) hm

def eventual {σ : Type} : Judgement Nat σ where
  Holds := Eventual
  Fault _ := True
  ret {_ a _} hQ s := .inl ⟨0, a, s, hQ, fun _ _ => returns_pure.mpr ⟨rfl, rfl⟩⟩
  bind := eventual_bind
  fail {_ e _} _ s := .inr ⟨0, e, s, fun _ _ => fails_throw.mpr ⟨rfl, rfl⟩⟩
  report hm _ := eventual_report hm

end Judgement

end InfraTemplate
