import InfraTemplate.Loading

/-!
Outcomes of computations that change a state and may fail. A computation that returns or fails is
taken apart into the outcomes of its steps.
-/

namespace InfraTemplate

abbrev Stateful (σ : Type) := ExceptT Error (StateT σ Option)

variable {σ α β : Type} {s t u : σ}

def Returns (m : Stateful σ α) (s : σ) (a : α) (t : σ) : Prop := m.run s = some (.ok a, t)

def Fails (m : Stateful σ α) (s : σ) (e : Error) (t : σ) : Prop := m.run s = some (.error e, t)

theorem run_bind (m : Stateful σ α) (f : α → Stateful σ β) (s : σ) :
    (m >>= f).run s = (m.run s).bind fun p =>
      match p.1 with
      | .ok a => (f a).run p.2
      | .error e => some (.error e, p.2) := by
  change (m.run s).bind _ = _
  congr 1
  funext p
  obtain ⟨r, t⟩ := p
  cases r <;> rfl

theorem Returns.unique {m : Stateful σ α} {a b : α} (h : Returns m s a t) (k : Returns m s b u) :
    a = b ∧ t = u := by
  have he := h.symm.trans k
  simp only [Option.some.injEq, Prod.mk.injEq, Except.ok.injEq] at he
  exact he

theorem Fails.unique {m : Stateful σ α} {e e' : Error} (h : Fails m s e t) (k : Fails m s e' u) :
    e = e' ∧ t = u := by
  have he := h.symm.trans k
  simp only [Option.some.injEq, Prod.mk.injEq, Except.error.injEq] at he
  exact he

@[simp] theorem returns_pure {a b : α} :
    Returns (pure a : Stateful σ α) s b t ↔ b = a ∧ t = s := by
  change some (Except.ok a, s) = some (Except.ok b, t) ↔ _
  simp only [Option.some.injEq, Prod.mk.injEq, Except.ok.injEq]
  exact and_congr eq_comm eq_comm

@[simp] theorem fails_pure {a : α} {e : Error} : ¬Fails (pure a : Stateful σ α) s e t := by
  change ¬some (Except.ok a, s) = some (Except.error e, t)
  simp

@[simp] theorem returns_throw {e : Error} {a : α} :
    ¬Returns (throw e : Stateful σ α) s a t := by
  change ¬some (Except.error e, s) = some (Except.ok a, t)
  simp

@[simp] theorem fails_throw {e e' : Error} :
    Fails (throw e : Stateful σ α) s e' t ↔ e' = e ∧ t = s := by
  change some (Except.error e, s) = some (Except.error e', t) ↔ _
  simp only [Option.some.injEq, Prod.mk.injEq, Except.error.injEq]
  exact and_congr eq_comm eq_comm

@[simp] theorem returns_bind {m : Stateful σ α} {f : α → Stateful σ β} {b : β} :
    Returns (m >>= f) s b u ↔ ∃ a t, Returns m s a t ∧ Returns (f a) t b u := by
  rw [Returns, run_bind]
  constructor
  · intro h
    obtain ⟨⟨r, t⟩, hm, hf⟩ := Option.bind_eq_some_iff.mp h
    cases r with
    | ok a => exact ⟨a, t, hm, hf⟩
    | error e => simp at hf
  · rintro ⟨a, t, hm, hf⟩
    rw [show m.run s = some (.ok a, t) from hm]
    exact hf

@[simp] theorem fails_bind {m : Stateful σ α} {f : α → Stateful σ β} {e : Error} :
    Fails (m >>= f) s e u ↔ Fails m s e u ∨ ∃ a t, Returns m s a t ∧ Fails (f a) t e u := by
  rw [Fails, run_bind]
  constructor
  · intro h
    obtain ⟨⟨r, t⟩, hm, hf⟩ := Option.bind_eq_some_iff.mp h
    cases r with
    | ok a => exact .inr ⟨a, t, hm, hf⟩
    | error e' =>
      simp only [Option.some.injEq, Prod.mk.injEq, Except.error.injEq] at hf
      obtain ⟨rfl, rfl⟩ := hf
      exact .inl hm
  · rintro (hm | ⟨a, t, hm, hf⟩)
    · rw [show m.run s = some (.error e, u) from hm]
      rfl
    · rw [show m.run s = some (.ok a, t) from hm]
      exact hf

@[simp] theorem returns_map {m : Stateful σ α} {f : α → β} {b : β} :
    Returns (f <$> m) s b t ↔ ∃ a, Returns m s a t ∧ f a = b := by
  rw [map_eq_pure_bind, returns_bind]
  constructor
  · rintro ⟨a, u, hm, hp⟩
    obtain ⟨rfl, rfl⟩ := returns_pure.mp hp
    exact ⟨a, hm, rfl⟩
  · rintro ⟨a, hm, rfl⟩
    exact ⟨a, t, hm, returns_pure.mpr ⟨rfl, rfl⟩⟩

@[simp] theorem fails_map {m : Stateful σ α} {f : α → β} {e : Error} :
    Fails (f <$> m) s e t ↔ Fails m s e t := by
  rw [map_eq_pure_bind, fails_bind]
  constructor
  · rintro (h | ⟨a, u, -, h⟩)
    · exact h
    · exact absurd h fails_pure
  · exact .inl

@[simp] theorem returns_get {a : σ} : Returns (get : Stateful σ σ) s a t ↔ a = s ∧ t = s := by
  change some (Except.ok s, s) = some (Except.ok a, t) ↔ _
  simp only [Option.some.injEq, Prod.mk.injEq, Except.ok.injEq]
  exact and_congr eq_comm eq_comm

@[simp] theorem returns_set {a : PUnit} : Returns (set u : Stateful σ PUnit) s a t ↔ t = u := by
  change some (Except.ok PUnit.unit, u) = some (Except.ok a, t) ↔ _
  simp only [Option.some.injEq, Prod.mk.injEq, true_and]
  exact eq_comm

@[simp] theorem fails_get {e : Error} : ¬Fails (get : Stateful σ σ) s e t := by
  change ¬some (Except.ok s, s) = some (Except.error e, t)
  simp

@[simp] theorem fails_set {e : Error} : ¬Fails (set u : Stateful σ PUnit) s e t := by
  change ¬some (Except.ok PUnit.unit, u) = some (Except.error e, t)
  simp

section Lists

@[simp] theorem returns_mapM_nil {f : α → Stateful σ β} {bs : List β} :
    Returns ([].mapM f) s bs t ↔ bs = [] ∧ t = s := by
  rw [List.mapM_nil, returns_pure]

theorem returns_mapM_cons {f : α → Stateful σ β} {x : α} {xs : List α} {bs : List β} :
    Returns ((x :: xs).mapM f) s bs u ↔
      ∃ b t rest, Returns (f x) s b t ∧ Returns (xs.mapM f) t rest u ∧ bs = b :: rest := by
  rw [List.mapM_cons]
  simp only [returns_bind, returns_pure]
  constructor
  · rintro ⟨b, t, hb, rest, _, hr, rfl, rfl⟩
    exact ⟨b, t, rest, hb, hr, rfl⟩
  · rintro ⟨b, t, rest, hb, hr, rfl⟩
    exact ⟨b, t, hb, rest, u, hr, rfl, rfl⟩

theorem returns_mapM_append {f : α → Stateful σ β} {xs ys : List α} {bs : List β} :
    Returns ((xs ++ ys).mapM f) s bs u ↔
      ∃ front t back, Returns (xs.mapM f) s front t ∧ Returns (ys.mapM f) t back u ∧
        bs = front ++ back := by
  induction xs generalizing s bs with
  | nil =>
    rw [List.nil_append]
    constructor
    · intro h
      exact ⟨[], s, bs, returns_mapM_nil.mpr ⟨rfl, rfl⟩, h, rfl⟩
    · rintro ⟨front, t, back, hf, hb, rfl⟩
      obtain ⟨rfl, rfl⟩ := returns_mapM_nil.mp hf
      exact hb
  | cons x xs ih =>
    simp only [List.cons_append, returns_mapM_cons, ih]
    constructor
    · rintro ⟨b, t, _, hb, ⟨front, t', back, hf, hk, rfl⟩, rfl⟩
      exact ⟨b :: front, t', back, ⟨b, t, front, hb, hf, rfl⟩, hk, rfl⟩
    · rintro ⟨_, t', back, ⟨b, t, front, hb, hf, rfl⟩, hk, rfl⟩
      exact ⟨b, t, front ++ back, hb, ⟨front, t', back, hf, hk, rfl⟩, rfl⟩

theorem mapM_eq_pure {f : α → Stateful σ β} {g : α → β} {xs : List α}
    (h : ∀ x ∈ xs, f x = pure (g x)) : xs.mapM f = pure (xs.map g) := by
  induction xs with
  | nil => rfl
  | cons x xs ih =>
    have hx := h x (List.mem_cons_self ..)
    have hxs := ih fun y hy => h y (List.mem_cons_of_mem _ hy)
    rw [List.mapM_cons, hx, hxs]
    simp only [pure_bind, List.map_cons]

def Reaches (f : α → Stateful σ β) (xs : List α) (s : σ) (x : α) (t : σ) : Prop :=
  ∃ before after front, xs = before ++ x :: after ∧ Returns (before.mapM f) s front t

theorem Reaches.mem {f : α → Stateful σ β} {xs : List α} {x : α} (h : Reaches f xs s x t) :
    x ∈ xs := by
  obtain ⟨before, after, front, rfl, -⟩ := h
  exact List.mem_append_right _ (List.mem_cons_self ..)

theorem reaches_of_mem {f : α → Stateful σ β} {xs : List α} {bs : List β}
    (h : Returns (xs.mapM f) s bs u) {x : α} (hx : x ∈ xs) :
    ∃ t b v, Reaches f xs s x t ∧ Returns (f x) t b v ∧ b ∈ bs := by
  obtain ⟨before, after, rfl⟩ := List.append_of_mem hx
  obtain ⟨front, t, back, hf, hb, rfl⟩ := returns_mapM_append.mp h
  obtain ⟨b, v, rest, hx', -, rfl⟩ := returns_mapM_cons.mp hb
  exact ⟨t, b, v, ⟨before, after, front, rfl, hf⟩, hx', by simp⟩

theorem Reaches.returns {f : α → Stateful σ β} {xs : List α} {bs : List β} {x : α}
    (hx : Reaches f xs s x t) (h : Returns (xs.mapM f) s bs u) :
    ∃ b v, Returns (f x) t b v ∧ b ∈ bs := by
  obtain ⟨before, after, front, rfl, hf⟩ := hx
  obtain ⟨front', t', back, hf', hb, rfl⟩ := returns_mapM_append.mp h
  obtain ⟨rfl, rfl⟩ := hf.unique hf'
  obtain ⟨b, v, rest, hx, -, rfl⟩ := returns_mapM_cons.mp hb
  exact ⟨b, v, hx, by simp⟩

theorem mem_iff_reaches {f : α → Stateful σ β} {xs : List α} {bs : List β}
    (h : Returns (xs.mapM f) s bs u) (b : β) :
    b ∈ bs ↔ ∃ x t v, Reaches f xs s x t ∧ Returns (f x) t b v := by
  constructor
  · intro hb
    induction xs generalizing s bs with
    | nil =>
      obtain ⟨rfl, -⟩ := returns_mapM_nil.mp h
      cases hb
    | cons x xs ih =>
      obtain ⟨c, t, rest, hc, hr, rfl⟩ := returns_mapM_cons.mp h
      rcases List.mem_cons.mp hb with rfl | hb
      · exact ⟨x, s, t, ⟨[], xs, [], rfl, returns_mapM_nil.mpr ⟨rfl, rfl⟩⟩, hc⟩
      · obtain ⟨y, w, v, ⟨before, after, front, rfl, hf⟩, hy⟩ := ih hr hb
        exact ⟨y, w, v, ⟨x :: before, after, c :: front, rfl,
          returns_mapM_cons.mpr ⟨c, t, front, hc, hf, rfl⟩⟩, hy⟩
  · rintro ⟨x, t, v, hreach, hx⟩
    obtain ⟨c, w, hc, hmem⟩ := hreach.returns h
    obtain ⟨rfl, -⟩ := hx.unique hc
    exact hmem

theorem returns_mapM_getElem {f : α → Stateful σ β} {xs : List α} {bs : List β} {i : Nat} {b : β}
    (h : Returns (xs.mapM f) s bs u) (hb : bs[i]? = some b) :
    ∃ x t v, xs[i]? = some x ∧ Returns (f x) t b v := by
  induction xs generalizing s bs i with
  | nil =>
    obtain ⟨rfl, -⟩ := returns_mapM_nil.mp h
    cases hb
  | cons x xs ih =>
    obtain ⟨c, t, rest, hc, hr, rfl⟩ := returns_mapM_cons.mp h
    cases i with
    | zero =>
      cases hb
      exact ⟨x, s, t, rfl, hc⟩
    | succ i => exact ih hr hb

theorem fails_mapM_append {f : α → Stateful σ β} {xs : List α} {e : Error} (ys : List α) :
    Fails ((xs ++ ys).mapM f) s e u ↔ Fails (xs.mapM f) s e u ∨
      ∃ bs t, Returns (xs.mapM f) s bs t ∧ Fails (ys.mapM f) t e u := by
  rw [List.mapM_append, fails_bind]
  simp only [fails_bind, fails_pure, and_false, exists_false, or_false]

theorem Reaches.fails {f : α → Stateful σ β} {xs : List α} {x : α} {e : Error}
    (hx : Reaches f xs s x t) (h : Fails (f x) t e u) : Fails (xs.mapM f) s e u := by
  obtain ⟨before, after, front, rfl, hf⟩ := hx
  refine (fails_mapM_append _).mpr (.inr ⟨front, t, hf, ?_⟩)
  rw [List.mapM_cons, fails_bind]
  exact .inl h

theorem fails_foldlM_of_reached {f : β → α → Stateful σ β} {before after : List α} {x : α}
    {b c : β} {e : Error} (hb : Returns (before.foldlM f b) s c t) (hx : Fails (f c x) t e u) :
    Fails ((before ++ x :: after).foldlM f b) s e u := by
  rw [List.foldlM_append, fails_bind]
  refine .inr ⟨c, t, hb, ?_⟩
  rw [List.foldlM_cons, fails_bind]
  exact .inl hx

end Lists

namespace Eval

@[simp] theorem returns_ofExcept {r : Except Error α} {a : α} {s t : Sections} :
    Returns (ofExcept r) s a t ↔ r = .ok a ∧ t = s := by
  change some (r, s) = some (Except.ok a, t) ↔ _
  simp only [Option.some.injEq, Prod.mk.injEq]
  exact and_congr Iff.rfl eq_comm

@[simp] theorem fails_ofExcept {r : Except Error α} {e : Error} {s t : Sections} :
    Fails (ofExcept r) s e t ↔ r = .error e ∧ t = s := by
  change some (r, s) = some (Except.error e, t) ↔ _
  simp only [Option.some.injEq, Prod.mk.injEq]
  exact and_congr Iff.rfl eq_comm

@[simp] theorem returns_unfinished {a : α} {s t : Sections} : ¬Returns unfinished s a t := by
  change ¬(none : Option (Except Error α × Sections)) = some (Except.ok a, t)
  simp

@[simp] theorem returns_malformed {construct : String} {path : Path} {env : Env} {d : Defect}
    {a : α} {s t : Sections} : ¬Returns (malformed construct path env d : Eval α) s a t :=
  returns_throw

end Eval

end InfraTemplate
