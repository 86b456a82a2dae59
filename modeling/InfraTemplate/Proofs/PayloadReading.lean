import InfraTemplate.Node.Reading

/-!
The payloads of constructs taken apart: what a payload has in it if a construct is made of it, for each
family of constructs whose payloads are read alike.
-/

namespace InfraTemplate

theorem bind_eq_ok {ε α β : Type} {m : Except ε α} {f : α → Except ε β} {b : β} :
    m >>= f = .ok b ↔ ∃ a, m = .ok a ∧ f a = .ok b := by
  cases m with
  | error e => exact ⟨nofun, nofun⟩
  | ok a => exact ⟨fun h => ⟨a, rfl, h⟩, by rintro ⟨_, ⟨⟩, h⟩; exact h⟩

theorem map_eq_ok {ε α β : Type} {m : Except ε α} {f : α → β} {b : β} :
    m.map f = .ok b ↔ ∃ a, m = .ok a ∧ f a = b := by
  cases m with
  | error e => exact ⟨nofun, nofun⟩
  | ok a => exact ⟨fun h => ⟨a, rfl, Except.ok.inj h⟩, by rintro ⟨_, ⟨⟩, rfl⟩; rfl⟩

@[simp] theorem mapError_ok {ε ε' α : Type} (f : ε → ε') (a : α) :
    (Except.ok a).mapError f = .ok a := rfl

@[simp] theorem mapError_error {ε ε' α : Type} (f : ε → ε') (e : ε) :
    (Except.error e : Except ε α).mapError f = .error (f e) := rfl

theorem mapError_eq_ok {ε ε' α : Type} {m : Except ε α} {f : ε → ε'} {a : α} :
    m.mapError f = .ok a ↔ m = .ok a := by
  cases m with
  | error e => exact ⟨nofun, nofun⟩
  | ok b => simp

namespace Payload

variable {n : Node} {m : Mapping} {t : Tag Node} {key : String}

theorem asMap_eq_ok : asMap n = .ok m ↔ n = .map m := by
  constructor
  · intro h
    cases n <;> cases h
    rfl
  · rintro rfl
    rfl

theorem require_eq_ok {x : Node} : require key m = .ok x ↔ Entries.find? key m = some x := by
  unfold require
  cases Entries.find? key m <;> simp

theorem varName?_eq_ok {o : Option String} :
    varName? m = .ok o ↔ Entries.find? "var" m = o.map .string := by
  unfold varName?
  split
  · rename_i h
    rw [h]
    cases o <;> simp
  · rename_i s h
    rw [h]
    cases o <;> simp
  · rename_i x hx h
    rw [h]
    cases o with
    | none => simp
    | some s =>
      simp only [reduceCtorEq, Option.map_some, Option.some.injEq, false_iff]
      exact hx s

theorem asPair_eq_ok {x y : Node} : asPair n = .ok (x, y) ↔ n = .seq [x, y] := by
  constructor
  · intro h
    unfold asPair at h
    split at h <;> cases h
    rfl
  · rintro rfl
    rfl

theorem asLookup_eq_ok :
    asLookup n = .ok t ↔ ∃ s, n = .string s ∧ t = .lookup (Text.trimText s) := by
  constructor
  · intro h
    cases n <;> cases h
    exact ⟨_, rfl, rfl⟩
  · rintro ⟨s, rfl, rfl⟩
    rfl

theorem asChoice_eq_ok : asChoice n = .ok t ↔ ∃ m test consequent, n = .map m ∧
    Entries.find? "test" m = some test ∧ Entries.find? "then" m = some consequent ∧
      t = .choose test consequent (Entries.find? "else" m) := by
  rw [asChoice, bind_eq_ok]
  simp only [asMap_eq_ok, bind_eq_ok, require_eq_ok]
  constructor
  · rintro ⟨m, hm, test, ht, consequent, hc, h⟩
    exact ⟨m, test, consequent, hm, ht, hc, (Except.ok.inj h).symm⟩
  · rintro ⟨m, test, consequent, hm, ht, hc, rfl⟩
    exact ⟨m, hm, test, ht, consequent, hc, rfl⟩

theorem asLet_eq_ok : asLet n = .ok t ↔ ∃ m body, n = .map m ∧
    Entries.find? Tag.bodyKey m = some body ∧ t = .letIn (Entries.remove Tag.bodyKey m) body := by
  rw [asLet, bind_eq_ok]
  simp only [asMap_eq_ok, bind_eq_ok, require_eq_ok]
  constructor
  · rintro ⟨m, hm, body, hb, h⟩
    exact ⟨m, body, hm, hb, (Except.ok.inj h).symm⟩
  · rintro ⟨m, body, hm, hb, rfl⟩
    exact ⟨m, hm, body, hb, rfl⟩

theorem asLoop_eq_ok {kind : LoopKind} :
    asLoop kind n = .ok t ↔ ∃ m items template v, n = .map m ∧
      Entries.find? "items" m = some items ∧ Entries.find? "template" m = some template ∧
        Entries.find? "var" m = v.map .string ∧
          ((Entries.find? "filter" m).isSome = true → kind = .map) ∧
            t = .loop kind ⟨items, template, v, Entries.find? "filter" m⟩ := by
  rw [asLoop, bind_eq_ok]
  simp only [asMap_eq_ok, bind_eq_ok, require_eq_ok, varName?_eq_ok]
  constructor
  · rintro ⟨m, hm, items, hi, template, ht, v, hv, h⟩
    split at h
    · cases h
    · rename_i hfilter
      refine ⟨m, items, template, v, hm, hi, ht, hv, fun hf => ?_, (Except.ok.inj h).symm⟩
      simpa [hf] using hfilter
  · rintro ⟨m, items, template, v, hm, hi, ht, hv, hf, rfl⟩
    refine ⟨m, hm, items, hi, template, ht, v, hv, if_neg ?_⟩
    simpa using hf

theorem asGrouping_eq_ok : asGrouping n = .ok t ↔ ∃ m items key v, n = .map m ∧
    Entries.find? "items" m = some items ∧ Entries.find? "key" m = some key ∧
      Entries.find? "var" m = v.map .string ∧
        t = .groupBy ⟨items, key, v, Entries.find? "template" m⟩ := by
  rw [asGrouping, bind_eq_ok]
  simp only [asMap_eq_ok, bind_eq_ok, require_eq_ok, varName?_eq_ok]
  constructor
  · rintro ⟨m, hm, items, hi, key, hk, v, hv, h⟩
    exact ⟨m, items, key, v, hm, hi, hk, hv, (Except.ok.inj h).symm⟩
  · rintro ⟨m, items, key, v, hm, hi, hk, hv, rfl⟩
    exact ⟨m, hm, items, hi, key, hk, v, hv, rfl⟩

theorem asExpand_eq_ok : asExpand n = .ok t ↔ ∃ m template params, n = .map m ∧
    Entries.find? "template" m = some template ∧ Entries.find? "params" m = some params ∧
      m.length = 2 ∧ t = .expand template params := by
  rw [asExpand, bind_eq_ok]
  simp only [asMap_eq_ok]
  constructor
  · rintro ⟨m, hm, h⟩
    split at h
    · rename_i template params ht hp
      split at h
      · rename_i hlength
        exact ⟨m, template, params, hm, ht, hp, hlength, (Except.ok.inj h).symm⟩
      · cases h
    · cases h
  · rintro ⟨m, template, params, hm, ht, hp, hlength, rfl⟩
    refine ⟨m, hm, ?_⟩
    rw [ht, hp]
    exact if_pos hlength

inductive Family where
  | lookup
  | expand
  | operand (op : Operator)
  | pair (op : Pairing)
  | choice
  | letIn
  | loop (kind : LoopKind)
  | grouping

namespace Family

def ofName? : String → Option Family
  | "$" | "$include" => some lookup
  | "$expand" => some expand
  | "$escape" => some (operand .escape)
  | "$string" => some (operand .toString)
  | "$parseYaml" => some (operand .parseYaml)
  | "$if" => some choice
  | "$eq" => some (pair .equal)
  | "$not" => some (operand .not)
  | "$let" => some letIn
  | "$map" => some (loop .map)
  | "$mapValues" => some (loop .mapValues)
  | "$concatMap" => some (loop .concatMap)
  | "$mergeMap" => some (loop .mergeMap)
  | "$mapListToHash" => some (loop .mapListToHash)
  | "$groupBy" => some grouping
  | "$concat" => some (operand .concat)
  | "$merge" => some (operand .merge)
  | "$fromPairs" => some (operand .fromPairs)
  | "$split" => some (pair .split)
  | "Ref" => some (operand .ref)
  | "GetAtt" => some (operand .getAtt)
  | "Sub" => some (operand .sub)
  | name => (Intrinsic.ofName? name).map fun i => operand (.intrinsic i)

def read : Family → Node → Checked (Tag Node)
  | lookup => asLookup
  | expand => asExpand
  | operand op => fun n => .ok (.apply op n)
  | pair op => fun n => (asPair n).map fun p => .pair op p.1 p.2
  | choice => asChoice
  | letIn => asLet
  | loop kind => asLoop kind
  | grouping => asGrouping

end Family

end Payload

theorem Tag.ofPayload_eq (name : String) (n : Node) : ofPayload name n =
    match Payload.Family.ofName? name with
    | some f => f.read n
    | none => .error .unknownTag := by
  unfold ofPayload
  split <;> first | rfl | skip
  have hother : Payload.Family.ofName? name =
      (Intrinsic.ofName? name).map fun i => .operand (.intrinsic i) := by
    unfold Payload.Family.ofName?
    split <;> first | contradiction | rfl
  rw [hother]
  cases Intrinsic.ofName? name <;> rfl

theorem Tag.ofPayload_eq_ok {name : String} {n : Node} {t : Tag Node} :
    ofPayload name n = .ok t ↔
      ∃ f, Payload.Family.ofName? name = some f ∧ f.read n = .ok t := by
  rw [ofPayload_eq]
  cases Payload.Family.ofName? name with
  | none => exact ⟨nofun, nofun⟩
  | some f =>
    constructor
    · exact fun h => ⟨f, rfl, h⟩
    · rintro ⟨_, ⟨⟩, h⟩
      exact h

end InfraTemplate
