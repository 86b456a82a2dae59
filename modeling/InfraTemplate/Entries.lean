namespace InfraTemplate

/-- Values under names, in the order in which the names were first put. -/
abbrev Entries (α : Type) := List (String × α)

namespace Entries

variable {α : Type}

def find? (name : String) (es : Entries α) : Option α := es.lookup name

def has (name : String) (es : Entries α) : Bool := (find? name es).isSome

def keys (es : Entries α) : List String := es.map (·.1)

def put (name : String) (a : α) : Entries α → Entries α
  | [] => [(name, a)]
  | (k, b) :: rest => if k = name then (k, a) :: rest else (k, b) :: put name a rest

def remove (name : String) (es : Entries α) : Entries α := es.filter fun e => e.1 != name

def putAll (es more : Entries α) : Entries α := more.foldl (fun acc (k, a) => put k a acc) es

def ofPairs (pairs : List (String × α)) : Entries α := putAll [] pairs

@[simp] theorem find?_nil (name : String) : find? name ([] : Entries α) = none := rfl

theorem find?_cons (name k : String) (a : α) (es : Entries α) :
    find? name ((k, a) :: es) = if name = k then some a else find? name es := by
  by_cases h : name = k
  · simp [find?, h]
  · simp [find?, List.lookup_cons, h, beq_eq_false_iff_ne.mpr h]

@[simp] theorem find?_put_self (name : String) (a : α) (es : Entries α) :
    find? name (put name a es) = some a := by
  induction es with
  | nil => simp [put, find?_cons]
  | cons e es ih =>
    obtain ⟨k, b⟩ := e
    by_cases h : k = name
    · simp [put, h, find?_cons]
    · simp [put, h, find?_cons, Ne.symm h, ih]

theorem find?_put_of_ne {name other : String} (h : other ≠ name) (a : α) (es : Entries α) :
    find? other (put name a es) = find? other es := by
  induction es with
  | nil => simp [put, find?_cons, h]
  | cons e es ih =>
    obtain ⟨k, b⟩ := e
    by_cases hk : k = name
    · simp [put, hk, find?_cons, h]
    · simp [put, hk, find?_cons, ih]

theorem find?_eq_none_iff {name : String} {es : Entries α} :
    find? name es = none ↔ name ∉ keys es := by
  induction es with
  | nil => simp [keys]
  | cons e es ih =>
    obtain ⟨k, a⟩ := e
    by_cases h : name = k <;> simp_all [find?_cons, keys]

theorem has_iff {name : String} {es : Entries α} : has name es = true ↔ name ∈ keys es := by
  rw [has, Option.isSome_iff_ne_none, ne_eq, find?_eq_none_iff, Classical.not_not]

theorem find?_eq_some_iff_mem (h : (keys es).Nodup) {name : String} {a : α} :
    find? name es = some a ↔ (name, a) ∈ es := by
  induction es with
  | nil => simp
  | cons e es ih =>
    obtain ⟨k, b⟩ := e
    obtain ⟨hk, hn⟩ := List.nodup_cons.mp h
    rw [find?_cons, List.mem_cons]
    by_cases he : name = k
    · subst he
      have hmem : (name, a) ∉ es := fun hm => hk (List.mem_map.mpr ⟨_, hm, rfl⟩)
      simp [hmem, eq_comm]
    · simp [he, ih hn]

theorem keys_put (name : String) (a : α) (es : Entries α) :
    keys (put name a es) = if name ∈ keys es then keys es else keys es ++ [name] := by
  induction es with
  | nil => simp [put, keys]
  | cons e es ih =>
    obtain ⟨k, b⟩ := e
    by_cases h : k = name
    · simp [put, h, keys]
    · simp only [put, h, ↓reduceIte, keys, List.map_cons, List.mem_cons, Ne.symm h, false_or] at ih ⊢
      rw [ih]
      split <;> simp_all

theorem keys_put_nodup {name : String} {a : α} {es : Entries α} (h : (keys es).Nodup) :
    (keys (put name a es)).Nodup := by
  rw [keys_put]
  split
  · exact h
  · rename_i hn
    rw [List.nodup_append]
    refine ⟨h, by simp, ?_⟩
    intro k hk l hl
    rw [List.mem_singleton.mp hl]
    rintro rfl
    exact hn hk

theorem keys_putAll_nodup {es more : Entries α} (h : (keys es).Nodup) :
    (keys (putAll es more)).Nodup := by
  induction more generalizing es with
  | nil => exact h
  | cons e more ih => exact ih (keys_put_nodup h)

theorem find?_remove_of_ne {name other : String} (h : other ≠ name) (es : Entries α) :
    find? other (remove name es) = find? other es := by
  induction es with
  | nil => rfl
  | cons e es ih =>
    obtain ⟨k, a⟩ := e
    simp only [remove] at ih
    by_cases hk : k = name
    · subst hk
      simp [remove, find?_cons, h, ih]
    · simp [remove, hk, find?_cons, ih]

@[simp] theorem find?_remove_self (name : String) (es : Entries α) :
    find? name (remove name es) = none := by
  rw [find?_eq_none_iff]
  simp [keys, remove]

end Entries

end InfraTemplate
