import InfraTemplate.Proofs.Emission

namespace InfraTemplate

open Evaluator

theorem append_eq_append_iff {p q a b : String} :
    p ++ a = q ++ b ↔ (∃ w, q = p ++ w ∧ a = w ++ b) ∨ ∃ w, p = q ++ w ∧ b = w ++ a := by
  constructor
  · intro h
    have hl : p.toList ++ a.toList = q.toList ++ b.toList := by
      rw [← String.toList_append, h, String.toList_append]
    rcases List.append_eq_append_iff.mp hl with ⟨w, hq, ha⟩ | ⟨w, hp, hb⟩
    · refine .inl ⟨String.ofList w, ?_, ?_⟩
      · simp [← String.toList_inj, hq]
      · simp [← String.toList_inj, ha]
    · refine .inr ⟨String.ofList w, ?_, ?_⟩
      · simp [← String.toList_inj, hp]
      · simp [← String.toList_inj, hb]
  · rintro (⟨w, rfl, rfl⟩ | ⟨w, rfl, rfl⟩)
    · exact (String.append_assoc ..).symm
    · exact String.append_assoc ..

def Emission.IsBare (e : Emission) : Prop := e.written? = none ∨ isPseudo e.name

structure Placed where
  inst : Instance
  depth : Nat
  path : Path
  state : Sections

namespace Placed

def lead (p : Placed) : String := p.inst.naming.lead

def Gives (p : Placed) (e : Emission) : Prop :=
  Emits p.depth p.inst (p.path.child resourcesKey) p.state e

def Owns (p : Placed) (e : Emission) : Prop := p.Gives e ∧ ¬e.IsExempt

def OwnName (p : Placed) (key : String) : Prop := ∃ e, p.Owns e ∧ e.key = key

def RelativeName (p : Placed) (name : String) : Prop :=
  ∃ e own, p.Owns e ∧ ¬e.IsBare ∧ e.naming.lead = p.lead ++ own ∧ name = own ++ e.name

def BareName (p : Placed) (name : String) : Prop := ∃ e, p.Owns e ∧ e.IsBare ∧ e.name = name

section

variable {p : Placed} (hp : p.inst.env.naming? = some p.inst.naming) {e : Emission}
include hp

theorem key_of_bare (he : p.Owns e) (hb : e.IsBare) : e.key = e.name := by
  obtain ⟨he, hx⟩ := he
  cases hw : e.written? with
  | none => exact he.key_of_merged hw
  | some n =>
    rcases he.key_of_written hp hw with ⟨-, hk⟩ | ⟨hn, -⟩
    · exact hk
    · rcases hb with hb | hb
      · rw [hw] at hb
        cases hb
      · exact absurd ((Emission.keepsName_iff_isPseudo hx).mpr hb) hn

theorem key_of_not_bare (he : p.Owns e) (hb : ¬e.IsBare) : e.key = e.naming.lead ++ e.name := by
  obtain ⟨he, hx⟩ := he
  rw [Emission.IsBare, not_or] at hb
  obtain ⟨n, hw⟩ := Option.ne_none_iff_exists'.mp hb.1
  rcases he.key_of_written hp hw with ⟨hk, -⟩ | ⟨-, hk⟩
  · exact absurd ((Emission.keepsName_iff_isPseudo hx).mp hk) hb.2
  · exact hk

theorem ownName_iff {key : String} :
    p.OwnName key ↔ (∃ name, p.RelativeName name ∧ key = p.lead ++ name) ∨ p.BareName key := by
  constructor
  · rintro ⟨e, he, rfl⟩
    by_cases hb : e.IsBare
    · exact .inr ⟨e, he, hb, (key_of_bare hp he hb).symm⟩
    · obtain ⟨owns, ho⟩ := he.1.lead_eq hp
      refine .inl ⟨String.join owns ++ e.name, ⟨e, _, he, hb, ho, rfl⟩, ?_⟩
      rw [key_of_not_bare hp he hb, ho, String.append_assoc]
      rfl
  · rintro (⟨name, ⟨e, own, he, hb, ho, rfl⟩, rfl⟩ | ⟨e, he, hb, rfl⟩)
    · exact ⟨e, he, by rw [key_of_not_bare hp he hb, ho, String.append_assoc]⟩
    · exact ⟨e, he, key_of_bare hp he hb⟩

end

/-- No difference in the leads is made up for by names, and no bare name is in both instances. -/
structure Apart (p q : Placed) : Prop where
  left (w name : String) : q.lead = p.lead ++ w → q.RelativeName name → ¬p.RelativeName (w ++ name)
  right (w name : String) : p.lead = q.lead ++ w → p.RelativeName name → ¬q.RelativeName (w ++ name)
  bare (key : String) : p.BareName key → ¬q.BareName key
  bareLeft (name : String) : q.RelativeName name → ¬p.BareName (q.lead ++ name)
  bareRight (name : String) : p.RelativeName name → ¬q.BareName (p.lead ++ name)

def Disjoint (p q : Placed) : Prop := ∀ key, p.OwnName key → ¬q.OwnName key

theorem disjoint_iff_apart {p q : Placed} (hp : p.inst.env.naming? = some p.inst.naming)
    (hq : q.inst.env.naming? = some q.inst.naming) : p.Disjoint q ↔ p.Apart q := by
  constructor
  · intro h
    constructor
    · intro w name hl hn hr
      have hpk := (ownName_iff hp).mpr (.inl ⟨w ++ name, hr, rfl⟩)
      refine h _ hpk ((ownName_iff hq).mpr (.inl ⟨name, hn, ?_⟩))
      rw [hl, String.append_assoc]
    · intro w name hl hn hr
      have hpk := (ownName_iff hp).mpr (.inl ⟨name, hn, rfl⟩)
      refine h _ hpk ((ownName_iff hq).mpr (.inl ⟨w ++ name, hr, ?_⟩))
      rw [hl, String.append_assoc]
    · intro key hb hb'
      exact h key ((ownName_iff hp).mpr (.inr hb)) ((ownName_iff hq).mpr (.inr hb'))
    · intro name hn hb
      exact h _ ((ownName_iff hp).mpr (.inr hb)) ((ownName_iff hq).mpr (.inl ⟨name, hn, rfl⟩))
    · intro name hn hb
      exact h _ ((ownName_iff hp).mpr (.inl ⟨name, hn, rfl⟩)) ((ownName_iff hq).mpr (.inr hb))
  · intro h key hk hk'
    rcases (ownName_iff hp).mp hk with ⟨a, ha, rfl⟩ | hb
    · rcases (ownName_iff hq).mp hk' with ⟨b, hb, he⟩ | hb
      · rcases append_eq_append_iff.mp he with ⟨w, hw, rfl⟩ | ⟨w, hw, rfl⟩
        · exact h.left w b hw hb ha
        · exact h.right w a hw ha hb
      · exact h.bareRight a ha hb
    · rcases (ownName_iff hq).mp hk' with ⟨b, hb', rfl⟩ | hb'
      · exact h.bareLeft b hb' hb
      · exact h.bare key hb hb'

theorem apart_of_leads {p q : Placed} (hl : ∀ w, q.lead ≠ p.lead ++ w)
    (hr : ∀ w, p.lead ≠ q.lead ++ w) (hp : ∀ key, ¬p.BareName key) (hq : ∀ key, ¬q.BareName key) :
    p.Apart q := by
  constructor
  · intro w name hw
    exact absurd hw (hl w)
  · intro w name hw
    exact absurd hw (hr w)
  · intro key hb
    exact absurd hb (hp key)
  · intro name _
    exact hp _
  · intro name _
    exact hq _

end Placed

/-- Two instances of a template beside one another have no own name in common exactly if they are
apart, as they are under leads that differ before either ends, if no name is bare. What the second
adds to a section of resources then leaves those of the first as they are, unless it emits an exempt
resource under the name. -/
theorem disjoint_instances_iff {k : Nat} {path : Path} {env : Env} {d : Document}
    {name₁ template₁ name₂ template₂ : String} {m₁ out₁ m₂ out₂ : Mapping}
    {s₁ t₁ s₂ t₂ : Sections}
    (h₁ : Returns ((upTo k).instantiate name₁ m₁ template₁ d (path.child name₁) env) s₁ out₁ t₁)
    (h₂ : Returns ((upTo k).instantiate name₂ m₂ template₂ d (path.child name₂) env) s₂ out₂ t₂) :
    ∃ p q : Placed, p.depth = k ∧ p.path = path.child name₁ ∧
      Returns ((upTo k).instanceOf name₁ m₁ d (path.child name₁) env) s₁ p.inst p.state ∧
      q.depth = k ∧ q.path = path.child name₂ ∧
      Returns ((upTo k).instanceOf name₂ m₂ d (path.child name₂) env) s₂ q.inst q.state ∧
      (∀ key, key ∈ Entries.keys out₁ ↔ ∃ e, p.Gives e ∧ e.key = key) ∧
      (∀ key, key ∈ Entries.keys out₂ ↔ ∃ e, q.Gives e ∧ e.key = key) ∧
      (p.Disjoint q ↔ p.Apart q) ∧
      ((∀ w, q.lead ≠ p.lead ++ w) → (∀ w, p.lead ≠ q.lead ++ w) → (∀ key, ¬p.BareName key) →
        (∀ key, ¬q.BareName key) → p.Disjoint q) ∧
      (p.Disjoint q → ∀ key, p.OwnName key → (∀ e, q.Gives e → e.IsExempt → e.key ≠ key) →
        ∀ resources, Entries.find? key ((Contribution.entries out₂).addTo resources) =
          Entries.find? key resources) := by
  obtain ⟨i, u, _, hi, hr₁, -⟩ := returns_instantiate h₁
  obtain ⟨j, v, _, hj, hr₂, -⟩ := returns_instantiate h₂
  obtain ⟨_, _, -, -, hi'⟩ := instanceOf_spec hi
  obtain ⟨_, _, -, -, hj'⟩ := instanceOf_spec hj
  let p : Placed := ⟨i, k, path.child name₁, u⟩
  let q : Placed := ⟨j, k, path.child name₂, v⟩
  have hiff : p.Disjoint q ↔ p.Apart q := Placed.disjoint_iff_apart hi' hj'
  refine ⟨p, q, rfl, rfl, hi, rfl, rfl, hj, fun key => Emits.mem_keys_iff hr₁,
    fun key => Emits.mem_keys_iff hr₂, hiff, ?_, ?_⟩
  · intro hl hr hp hq
    exact hiff.mpr (Placed.apart_of_leads hl hr hp hq)
  · intro hd key hk hx resources
    apply Entries.find?_putAll_of_not_mem
    intro hmem
    obtain ⟨e, he, hek⟩ := (Emits.mem_keys_iff hr₂).mp hmem
    by_cases hxe : e.IsExempt
    · exact hx e he hxe hek
    · exact hd _ hk ⟨e, ⟨he, hxe⟩, hek⟩

section Example

def topicMap : Mapping := [("Type", .string "AWS::SNS::Topic")]

def abxDocument : Document :=
  ⟨"t.yaml", [("Resources", .map [("BX", .map bucketMap), ("X", .map topicMap)])], [], .empty⟩

def abxInstance (lead : String) : Instance where
  body := abxDocument.body
  naming := ⟨lead, []⟩
  env := ⟨.frame 0 [("Prefix", .value (.string lead))] .empty,
    [⟨"root.yaml", "Root"⟩, ⟨"t.yaml", "Root.Resources." ++ lead⟩], some ⟨lead, []⟩, "t.yaml", 1, 50⟩

theorem disjoint_instances_iff_leads :
    Returns ((upTo 3).instantiate "Logs" typeT "t" abxDocument "Root.Resources.Logs" siteEnv) []
        [("LogsBX", .map bucketMap), ("LogsX", .map topicMap)] [] ∧
      Returns ((upTo 3).instantiate "Site" typeT "t" abxDocument "Root.Resources.Site" siteEnv) []
        [("SiteBX", .map bucketMap), ("SiteX", .map topicMap)] [] ∧
      ∃ p q : Placed, Returns ((upTo 3).instanceOf "Logs" typeT abxDocument "Root.Resources.Logs"
          siteEnv) [] p.inst p.state ∧
        Returns ((upTo 3).instanceOf "Site" typeT abxDocument "Root.Resources.Site" siteEnv) []
          q.inst q.state ∧ (p.Disjoint q ↔ p.Apart q) := by
  have h₁ : Returns ((upTo 3).instantiate "Logs" typeT "t" abxDocument
      (Path.child "Root.Resources" "Logs") siteEnv) []
      [("LogsBX", .map bucketMap), ("LogsX", .map topicMap)] [] := rfl
  have h₂ : Returns ((upTo 3).instantiate "Site" typeT "t" abxDocument
      (Path.child "Root.Resources" "Site") siteEnv) []
      [("SiteBX", .map bucketMap), ("SiteX", .map topicMap)] [] := rfl
  obtain ⟨p, q, -, -, hp, -, -, hq, -, -, hiff, -, -⟩ := disjoint_instances_iff h₁ h₂
  exact ⟨h₁, h₂, p, q, hp, hq, hiff⟩

theorem instances_collide_abx :
    Returns ((upTo 3).instanceOf "A" typeT abxDocument "Root.Resources.A" siteEnv) []
        (abxInstance "A") [] ∧
      Returns ((upTo 3).instanceOf "AB" typeT abxDocument "Root.Resources.AB" siteEnv) []
        (abxInstance "AB") [] ∧
      Returns ((upTo 3).instantiate "A" typeT "t" abxDocument "Root.Resources.A" siteEnv) []
        [("ABX", .map bucketMap), ("AX", .map topicMap)] [] ∧
      Returns ((upTo 3).instantiate "AB" typeT "t" abxDocument "Root.Resources.AB" siteEnv) []
        [("ABBX", .map bucketMap), ("ABX", .map topicMap)] [] ∧
      ¬(Placed.mk (abxInstance "A") 3 "Root.Resources.A" []).Disjoint
        ⟨abxInstance "AB", 3, "Root.Resources.AB", []⟩ ∧
      Contribution.assemble
          [.entries [("ABX", .map bucketMap), ("AX", .map topicMap)],
            .entries [("ABBX", .map bucketMap), ("ABX", .map topicMap)]] =
        [("ABX", .map topicMap), ("AX", .map topicMap), ("ABBX", .map bucketMap)] := by
  have reach (lead name : String) (n : Node) (before after : Mapping) (front : List Contribution)
      (he : (abxInstance lead).resources = before ++ (name, n) :: after)
      (hf : Returns (before.mapM fun e => (upTo 2).resourceEntry
        ("Root.Resources." ++ lead ++ ".Resources") (abxInstance lead).env e.1 e.2) [] front []) :
      (abxInstance lead).ReachesEntry 2 ("Root.Resources." ++ lead ++ ".Resources") [] name n [] :=
    ⟨before, after, front, he, hf⟩
  have first : (Placed.mk (abxInstance "A") 3 "Root.Resources.A" []).OwnName "ABX" := by
    have hr := reach "A" "BX" (.map bucketMap) [] [("X", .map topicMap)] [] rfl rfl
    have hc : Contributes (upTo 2) "Root.Resources.A.Resources" (abxInstance "A").env "BX"
        (.map bucketMap) [] (.entry "ABX" (.map bucketMap)) [] :=
      .literal (by decide) (by decide) rfl rfl
    refine ⟨_, ⟨.entry hr hc, ?_⟩, rfl⟩
    rintro ((⟨n, hn, hg⟩ | hg) | hx)
    · cases hn
      cases hg
    · cases hg
    · cases hx
  have second : (Placed.mk (abxInstance "AB") 3 "Root.Resources.AB" []).OwnName "ABX" := by
    have hr := reach "AB" "X" (.map topicMap) [("BX", .map bucketMap)] []
      [.entry "ABBX" (.map bucketMap)] rfl rfl
    have hc : Contributes (upTo 2) "Root.Resources.AB.Resources" (abxInstance "AB").env "X"
        (.map topicMap) [] (.entry "ABX" (.map topicMap)) [] :=
      .literal (by decide) (by decide) rfl rfl
    refine ⟨_, ⟨.entry hr hc, ?_⟩, rfl⟩
    rintro ((⟨n, hn, hg⟩ | hg) | hx)
    · cases hn
      cases hg
    · cases hg
    · cases hx
  exact ⟨rfl, rfl, rfl, rfl, fun hd => hd "ABX" first second, rfl⟩

end Example

end InfraTemplate
