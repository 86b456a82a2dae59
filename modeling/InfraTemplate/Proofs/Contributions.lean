import InfraTemplate.Proofs.Instance

/-!
What the entries of a map add to its value, and under which keys.
-/

namespace InfraTemplate

namespace Entries

variable {α β : Type} {key name : String} {es es' more : Entries α}

theorem mem_keys_put {a : α} : key ∈ keys (put name a es) ↔ key ∈ keys es ∨ key = name := by
  rw [keys_put]
  split
  · rename_i h
    constructor
    · exact .inl
    · rintro (h' | rfl)
      · exact h'
      · exact h
  · rw [List.mem_append, List.mem_singleton]

theorem mem_keys_putAll : key ∈ keys (putAll es more) ↔ key ∈ keys es ∨ key ∈ keys more := by
  induction more generalizing es with
  | nil => simp [putAll, keys]
  | cons e more ih =>
    obtain ⟨k, a⟩ := e
    change key ∈ keys (putAll (put k a es) more) ↔ _
    rw [ih, mem_keys_put, or_assoc]
    simp [keys]

theorem mem_put {a b : α} (h : (key, b) ∈ put name a es) :
    (key, b) ∈ es ∨ key = name ∧ b = a := by
  induction es with
  | nil => simpa [put] using h
  | cons e es ih =>
    obtain ⟨k, c⟩ := e
    by_cases hk : k = name
    · subst hk
      rw [put, if_pos rfl, List.mem_cons] at h
      rcases h with h | h
      · cases h
        exact .inr ⟨rfl, rfl⟩
      · exact .inl (List.mem_cons_of_mem _ h)
    · rw [put, if_neg hk, List.mem_cons] at h
      rcases h with h | h
      · exact .inl (h ▸ List.mem_cons_self ..)
      · exact (ih h).imp (List.mem_cons_of_mem _) id

theorem mem_putAll {b : α} (h : (key, b) ∈ putAll es more) :
    (key, b) ∈ es ∨ (key, b) ∈ more := by
  induction more generalizing es with
  | nil => exact .inl h
  | cons e more ih =>
    obtain ⟨k, a⟩ := e
    have h' : (key, b) ∈ putAll (put k a es) more := h
    rcases ih h' with h | h
    · rcases mem_put h with h | ⟨rfl, rfl⟩
      · exact .inl h
      · exact .inr (List.mem_cons_self ..)
    · exact .inr (List.mem_cons_of_mem _ h)

theorem mem_of_find? {a : α} (h : find? key es = some a) : (key, a) ∈ es := by
  induction es with
  | nil => cases h
  | cons e es ih =>
    obtain ⟨k, b⟩ := e
    rw [find?_cons] at h
    split at h
    · rename_i hk
      cases h
      exact hk ▸ List.mem_cons_self ..
    · exact List.mem_cons_of_mem _ (ih h)

theorem find?_perm (hp : es.Perm es') (h : (keys es).Nodup) (name : String) :
    find? name es = find? name es' := by
  have h' : (keys es').Nodup := (hp.map _).nodup h
  refine Option.ext fun a => ?_
  rw [find?_eq_some_iff_mem h, find?_eq_some_iff_mem h', hp.mem_iff]

theorem put_of_not_mem {name : String} (h : name ∉ keys es) (a : α) :
    put name a es = es ++ [(name, a)] := by
  induction es with
  | nil => rfl
  | cons e es ih =>
    obtain ⟨k, b⟩ := e
    obtain ⟨hk, hn⟩ := not_or.mp (mt List.mem_cons.mpr h)
    rw [put, if_neg (Ne.symm hk), ih hn, List.cons_append]

theorem putAll_of_nodup (h : (keys (es ++ more)).Nodup) : putAll es more = es ++ more := by
  induction more generalizing es with
  | nil => exact (List.append_nil es).symm
  | cons e more ih =>
    obtain ⟨k, a⟩ := e
    have hk : k ∉ keys es := by
      rw [keys, List.map_append, List.nodup_append] at h
      exact fun hk => h.2.2 k hk k (by simp) rfl
    have happ : es ++ (k, a) :: more = es ++ [(k, a)] ++ more := by simp
    change putAll (put k a es) more = _
    rw [put_of_not_mem hk, happ]
    exact ih (happ ▸ h)

theorem ofPairs_of_nodup (h : (keys es).Nodup) : ofPairs es = es := putAll_of_nodup h

theorem mem_keys_remove : key ∈ keys (remove name es) ↔ key ∈ keys es ∧ key ≠ name := by
  simp only [keys, remove, List.mem_map, List.mem_filter, bne_iff_ne]
  constructor
  · rintro ⟨e, ⟨he, hn⟩, rfl⟩
    exact ⟨⟨e, he, rfl⟩, hn⟩
  · rintro ⟨⟨e, he, rfl⟩, hn⟩
    exact ⟨e, ⟨he, hn⟩, rfl⟩

theorem find?_map (f : α → β) (name : String) (es : Entries α) :
    find? name (es.map fun e => (e.1, f e.2)) = (find? name es).map f := by
  induction es with
  | nil => rfl
  | cons e es ih =>
    rw [List.map_cons, find?_cons, find?_cons, ih]
    split <;> rfl

theorem find?_filter {p : String → Bool} (hp : p name = true) (es : Entries α) :
    find? name (es.filter fun e => p e.1) = find? name es := by
  induction es with
  | nil => rfl
  | cons e es ih =>
    obtain ⟨k, a⟩ := e
    rw [List.filter_cons, find?_cons]
    by_cases hk : name = k
    · rw [← hk, hp, if_pos rfl, find?_cons, if_pos rfl, if_pos rfl]
    · rw [if_neg hk, ← ih]
      split
      · rw [find?_cons, if_neg hk]
      · rfl

theorem find?_putAll_of_not_mem (h : key ∉ keys more) :
    find? key (putAll es more) = find? key es := by
  induction more generalizing es with
  | nil => rfl
  | cons e more ih =>
    obtain ⟨k, a⟩ := e
    simp only [keys, List.map_cons, List.mem_cons, not_or] at h
    change find? key (putAll (put k a es) more) = _
    rw [ih h.2, find?_put_of_ne h.1]

theorem find?_putAll_eq_some {a : α} : find? name (putAll es more) = some a ↔
    (∃ before after, more = before ++ (name, a) :: after ∧ name ∉ keys after) ∨
      name ∉ keys more ∧ find? name es = some a := by
  induction more generalizing es with
  | nil => simp [putAll, keys]
  | cons e more ih =>
    obtain ⟨k, b⟩ := e
    change find? name (putAll (put k b es) more) = some a ↔ _
    rw [ih]
    constructor
    · rintro (⟨before, after, rfl, ha⟩ | ⟨hn, hf⟩)
      · exact .inl ⟨(k, b) :: before, after, rfl, ha⟩
      · by_cases hk : name = k
        · subst hk
          rw [find?_put_self] at hf
          cases hf
          exact .inl ⟨[], more, rfl, hn⟩
        · rw [find?_put_of_ne hk] at hf
          exact .inr ⟨by simpa [keys, hk] using hn, hf⟩
    · rintro (⟨before, after, he, ha⟩ | ⟨hn, hf⟩)
      · cases before with
        | nil =>
          cases he
          exact .inr ⟨ha, find?_put_self ..⟩
        | cons _ before =>
          cases he
          exact .inl ⟨before, after, rfl, ha⟩
      · have hne : name ≠ k ∧ name ∉ keys more := by simpa [keys] using hn
        exact .inr ⟨hne.2, (find?_put_of_ne hne.1 ..).trans hf⟩

theorem find?_ofPairs_eq_some {a : α} : find? name (ofPairs more) = some a ↔
    ∃ before after, more = before ++ (name, a) :: after ∧ name ∉ keys after := by
  rw [ofPairs, find?_putAll_eq_some]
  simp

end Entries

namespace Node

def Carries (field : String) (n : Node) : Prop := ∃ m, n = .map m ∧ field ∈ Entries.keys m

theorem mem_keys_deepMerge {key : String} {base changes : Mapping} :
    key ∈ Entries.keys (deepMerge base changes) ↔
      key ∈ Entries.keys base ∨ key ∈ Entries.keys changes := by
  induction changes generalizing base with
  | nil => simp [deepMerge, Entries.keys]
  | cons e changes ih =>
    obtain ⟨k, x⟩ := e
    rw [deepMerge, ih, Entries.mem_keys_put, or_assoc]
    simp [Entries.keys]

def Inherited (P : Node → Prop) : Prop :=
  ∀ old x, P (mergeValue old x) → P x ∨ ∃ n, old = some n ∧ P n

theorem inherited_carries (field : String) : Inherited (Carries field) := by
  intro old x h
  unfold mergeValue at h
  split at h
  · rename_i changes
    split at h
    · rename_i base
      obtain ⟨m, hm, hf⟩ := h
      cases hm
      rcases mem_keys_deepMerge.mp hf with hf | hf
      · exact .inr ⟨_, rfl, base, rfl, hf⟩
      · exact .inl ⟨changes, rfl, hf⟩
    · exact .inl h
  · exact .inl h

theorem mem_deepMerge {P : Node → Prop} (hP : Inherited P) {key : String} {n : Node}
    {base changes : Mapping} (h : (key, n) ∈ deepMerge base changes) :
    ∃ n', ((key, n') ∈ base ∨ (key, n') ∈ changes) ∧ (P n → P n') := by
  induction changes generalizing base with
  | nil =>
    rw [deepMerge] at h
    exact ⟨n, .inl h, id⟩
  | cons e changes ih =>
    obtain ⟨k, x⟩ := e
    rw [deepMerge] at h
    obtain ⟨n', hn' | hn', hc⟩ := ih h
    · rcases Entries.mem_put hn' with hb | ⟨rfl, rfl⟩
      · exact ⟨n', .inl hb, hc⟩
      · -- Both may have a map under the key, and then either may have brought the property.
        by_cases hv : P (mergeValue (Entries.find? key base) x)
        · rcases hP _ _ hv with hx | ⟨old, ho, hold⟩
          · exact ⟨x, .inr (List.mem_cons_self ..), fun _ => hx⟩
          · exact ⟨old, .inl (Entries.mem_of_find? ho), fun _ => hold⟩
        · exact ⟨x, .inr (List.mem_cons_self ..), fun hn => absurd (hc hn) hv⟩
    · exact ⟨n', .inr (List.mem_cons_of_mem _ hn'), hc⟩

end Node

namespace Contribution

def given : Contribution → Mapping
  | nothing => []
  | merged m => m
  | entry key n => [(key, n)]
  | entries m => m

theorem mem_keys_addTo {key : String} {out : Mapping} (c : Contribution) :
    key ∈ Entries.keys (c.addTo out) ↔ key ∈ Entries.keys out ∨ key ∈ Entries.keys c.given := by
  cases c with
  | nothing => simp [addTo, given, Entries.keys]
  | merged m => exact Node.mem_keys_deepMerge
  | entry name n =>
    rw [addTo, Entries.mem_keys_put]
    simp [given, Entries.keys]
  | entries m => exact Entries.mem_keys_putAll

theorem mem_keys_foldl {key : String} {out : Mapping} (cs : List Contribution) :
    key ∈ Entries.keys (cs.foldl addTo out) ↔
      key ∈ Entries.keys out ∨ ∃ c ∈ cs, key ∈ Entries.keys c.given := by
  induction cs generalizing out with
  | nil => simp
  | cons c cs ih =>
    rw [List.foldl_cons, ih, mem_keys_addTo, or_assoc]
    simp only [List.mem_cons, exists_eq_or_imp]

theorem mem_keys_assemble {key : String} {cs : List Contribution} :
    key ∈ Entries.keys (assemble cs) ↔ ∃ c ∈ cs, key ∈ Entries.keys c.given := by
  rw [assemble, mem_keys_foldl]
  simp [Entries.keys]

section Inherited

variable {P : Node → Prop} {key : String} {n : Node} {out : Mapping} {cs : List Contribution}
  (hP : Node.Inherited P)

include hP

theorem mem_addTo {c : Contribution} (h : (key, n) ∈ c.addTo out) :
    ∃ n', ((key, n') ∈ out ∨ (key, n') ∈ c.given) ∧ (P n → P n') := by
  cases c with
  | nothing => exact ⟨n, .inl h, id⟩
  | merged m => exact Node.mem_deepMerge hP h
  | entry name x =>
    rcases Entries.mem_put h with ho | ⟨rfl, rfl⟩
    · exact ⟨n, .inl ho, id⟩
    · exact ⟨n, .inr (List.mem_cons_self ..), id⟩
  | entries m => exact ⟨n, Entries.mem_putAll h, id⟩

theorem mem_foldl (h : (key, n) ∈ cs.foldl addTo out) :
    ∃ n', ((key, n') ∈ out ∨ ∃ c ∈ cs, (key, n') ∈ c.given) ∧ (P n → P n') := by
  induction cs generalizing out with
  | nil => exact ⟨n, .inl h, id⟩
  | cons c cs ih =>
    obtain ⟨n', hn' | ⟨c', hc', hg⟩, hf⟩ := ih h
    · obtain ⟨x, hx | hx, hf'⟩ := mem_addTo hP hn'
      · exact ⟨x, .inl hx, hf' ∘ hf⟩
      · exact ⟨x, .inr ⟨c, List.mem_cons_self .., hx⟩, hf' ∘ hf⟩
    · exact ⟨n', .inr ⟨c', List.mem_cons_of_mem _ hc', hg⟩, hf⟩

theorem mem_assemble (h : (key, n) ∈ assemble cs) :
    ∃ c ∈ cs, ∃ n', (key, n') ∈ c.given ∧ (P n → P n') := by
  obtain ⟨n', hn' | ⟨c, hc, hg⟩, hf⟩ := mem_foldl hP h
  · cases hn'
  · exact ⟨c, hc, n', hg, hf⟩

end Inherited

end Contribution

namespace Evaluator

inductive Contributes (ev : Evaluator) (path : Path) (env : Env) (name : String) :
    Node → Sections → Contribution → Sections → Prop
  | bookkeeping {n : Node} {s : Sections} :
      isBookkeeping name = true → Contributes ev path env name n s .nothing s
  | merged {n : Node} {m : Mapping} {s t : Sections} :
      isBookkeeping name = false → isMergeKey name = true →
      Returns (ev.mergeBlock name n (path.child name) env) s m t →
      Contributes ev path env name n s (.merged m) t
  | literal {m : Mapping} {emitted : String} {body : Node} {s t u : Sections} :
      isBookkeeping name = false → isMergeKey name = false →
      Returns (ev.classify name m (path.child name) env) s .literal t →
      Returns (ev.literal name m (path.child name) env) t (emitted, body) u →
      Contributes ev path env name (.map m) s (.entry emitted body) u
  | template {m out : Mapping} {template : String} {d : Document} {s t u : Sections} :
      isBookkeeping name = false → isMergeKey name = false →
      Returns (ev.classify name m (path.child name) env) s (.template template d) t →
      Returns (ev.instantiate name m template d (path.child name) env) t out u →
      Contributes ev path env name (.map m) s (.entries out) u
  | evaluated {n v : Node} {s t : Sections} :
      isBookkeeping name = false → isMergeKey name = false → (∀ m, n ≠ .map m) →
      Returns (ev.node n (path.child name) env) s v t →
      Contributes ev path env name n s (.entry (env.qualify name) v) t

theorem returns_resourceEntry {ev : Evaluator} {path : Path} {env : Env} {name : String} {n : Node}
    {s t : Sections} {c : Contribution} :
    Returns (ev.resourceEntry path env name n) s c t ↔
      Contributes ev path env name n s c t := by
  constructor
  · intro h
    unfold resourceEntry at h
    by_cases hk : isBookkeeping name = true
    · simp only [hk, ↓reduceIte, returns_pure] at h
      obtain ⟨rfl, rfl⟩ := h
      exact .bookkeeping hk
    · rw [Bool.not_eq_true] at hk
      by_cases hg : isMergeKey name = true
      · simp only [hk, hg, Bool.false_eq_true, ↓reduceIte, returns_bind, returns_pure] at h
        obtain ⟨m, u, hm, rfl, rfl⟩ := h
        exact .merged hk hg hm
      · rw [Bool.not_eq_true] at hg
        simp only [hk, hg, Bool.false_eq_true, ↓reduceIte] at h
        split at h
        · obtain ⟨kind, u, hc, h⟩ := returns_bind.mp h
          cases kind with
          | literal =>
            obtain ⟨⟨emitted, body⟩, v, hl, h⟩ := returns_bind.mp h
            obtain ⟨rfl, rfl⟩ := returns_pure.mp h
            exact .literal hk hg hc hl
          | template template d =>
            obtain ⟨out, v, hi, h⟩ := returns_bind.mp h
            obtain ⟨rfl, rfl⟩ := returns_pure.mp h
            exact .template hk hg hc hi
        · rename_i hn
          obtain ⟨v, u, hv, h⟩ := returns_bind.mp h
          obtain ⟨rfl, rfl⟩ := returns_pure.mp h
          exact .evaluated hk hg hn hv
  · intro h
    cases h with
    | bookkeeping hk => simp [resourceEntry, hk]
    | merged hk hg hm =>
      simp only [resourceEntry, hk, hg, Bool.false_eq_true, ↓reduceIte, returns_bind, returns_pure]
      exact ⟨_, _, hm, rfl, rfl⟩
    | literal hk hg hc hl =>
      simp only [resourceEntry, hk, hg, Bool.false_eq_true, ↓reduceIte, returns_bind]
      exact ⟨_, _, hc, returns_bind.mpr ⟨_, _, hl, returns_pure.mpr ⟨rfl, rfl⟩⟩⟩
    | template hk hg hc hi =>
      simp only [resourceEntry, hk, hg, Bool.false_eq_true, ↓reduceIte, returns_bind]
      exact ⟨_, _, hc, returns_bind.mpr ⟨_, _, hi, returns_pure.mpr ⟨rfl, rfl⟩⟩⟩
    | evaluated hk hg hn hv =>
      simp only [resourceEntry, hk, hg, Bool.false_eq_true, ↓reduceIte]
      exact returns_bind.mpr ⟨_, _, hv, returns_pure.mpr ⟨rfl, rfl⟩⟩

theorem returns_resourceSection {ev : Evaluator} {resources out : Mapping} {path : Path} {env : Env}
    {s t : Sections} :
    Returns (ev.resourceSection resources path env) s out t ↔
      ∃ cs, Returns (ev.resourceEntries resources path env) s cs t ∧
        Contribution.assemble cs = out := returns_map

end Evaluator

end InfraTemplate
