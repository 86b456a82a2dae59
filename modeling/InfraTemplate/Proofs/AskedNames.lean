import InfraTemplate.Proofs.VerbatimText

namespace InfraTemplate

variable {σ α β : Type}

def logged (lookup : String → Stateful σ Node) (name : String) : Stateful (σ × List String) Node :=
  ExceptT.mk fun (s, asked) => ((lookup name).run s).map fun (r, t) => (r, t, asked ++ [name])

def Asks (names : List String) (m : Stateful σ α) (m' : Stateful (σ × List String) α) : Prop :=
  ∀ s asked, (m.run s = none ∧ m'.run (s, asked) = none) ∨
    ∃ r t more, m.run s = some (r, t) ∧ m'.run (s, asked) = some (r, t, asked ++ more) ∧
      more <+: names ∧ ∀ a, r = .ok a → more = names

namespace Asks

variable {names more : List String} {m : Stateful σ α} {m' : Stateful (σ × List String) α}

theorem pure (a : α) : Asks [] (Pure.pure a : Stateful σ α) (Pure.pure a) := by
  intro s asked
  refine .inr ⟨.ok a, s, [], rfl, ?_, List.nil_prefix, fun _ _ => rfl⟩
  rw [List.append_nil]
  rfl

theorem throw (names : List String) (e : Error) :
    Asks names (MonadExcept.throw e : Stateful σ α) (MonadExcept.throw e) := by
  intro s asked
  refine .inr ⟨.error e, s, [], rfl, ?_, List.nil_prefix, fun _ h => by cases h⟩
  rw [List.append_nil]
  rfl

theorem lookup (lookup : String → Stateful σ Node) (name : String) :
    Asks [name] (lookup name) (logged lookup name) := by
  intro s asked
  have hrun : (logged lookup name).run (s, asked) =
      ((lookup name).run s).map fun (r, t) => (r, t, asked ++ [name]) := rfl
  cases h : (lookup name).run s with
  | none => exact .inl ⟨rfl, by rw [hrun, h]; rfl⟩
  | some p =>
    obtain ⟨r, t⟩ := p
    exact .inr ⟨r, t, [name], rfl, by rw [hrun, h]; rfl, List.prefix_rfl, fun _ _ => rfl⟩

theorem bind {f : α → Stateful σ β} {f' : α → Stateful (σ × List String) β}
    (hm : Asks names m m') (hf : ∀ a, Asks more (f a) (f' a)) :
    Asks (names ++ more) (m >>= f) (m' >>= f') := by
  intro s asked
  rw [run_bind, run_bind]
  rcases hm s asked with ⟨h, h'⟩ | ⟨r, t, front, h, h', hp, hall⟩
  · rw [h, h']
    exact .inl ⟨rfl, rfl⟩
  · rw [h, h']
    cases r with
    | error e =>
      exact .inr ⟨.error e, t, front, rfl, rfl, hp.trans (List.prefix_append ..),
        fun _ h => by cases h⟩
    | ok a =>
      obtain rfl := hall a rfl
      rcases hf a t (asked ++ front) with ⟨k, k'⟩ | ⟨r, u, back, k, k', kp, kall⟩
      · exact .inl ⟨k, k'⟩
      · refine .inr ⟨r, u, front ++ back, k, ?_, (List.prefix_append_right_inj _).mpr kp, ?_⟩
        · rw [← List.append_assoc]
          exact k'
        · intro b hb
          rw [kall b hb]

theorem mapM {names : α → List String} {f : α → Stateful σ β}
    {f' : α → Stateful (σ × List String) β} (h : ∀ x, Asks (names x) (f x) (f' x)) (xs : List α) :
    Asks (xs.flatMap names) (xs.mapM f) (xs.mapM f') := by
  induction xs with
  | nil =>
    rw [List.mapM_nil, List.mapM_nil]
    exact pure []
  | cons x xs ih =>
    have hrest : ∀ b, Asks (xs.flatMap names) (xs.mapM f >>= fun bs => Pure.pure (b :: bs))
        (xs.mapM f' >>= fun bs => Pure.pure (b :: bs)) := by
      intro b
      simpa using ih.bind fun bs => pure (b :: bs)
    rw [List.mapM_cons, List.mapM_cons, List.flatMap_cons]
    exact (h x).bind hrest

end Asks

namespace Span

theorem asks_render (path : String) (lookup : String → Stateful σ Node) (span : Span) :
    Asks span.reference?.toList (span.render path lookup) (span.render path (logged lookup)) := by
  cases span with
  | char c => exact .pure _
  | placeholder inner =>
    cases hd : isDynamic inner with
    | true =>
      simp only [render, reference?, hd, ↓reduceIte]
      exact .pure _
    | false =>
      simp only [render, reference?, hd, Bool.false_eq_true, ↓reduceIte]
      rcases words inner with _ | ⟨first, _ | ⟨second, _ | ⟨third, more⟩⟩⟩
      · exact .throw _ _
      · exact (Asks.lookup lookup first).bind fun n => .pure n.text
      · simp only
        cases Helper.ofName? first with
        | none => exact .throw _ _
        | some h => exact (Asks.lookup lookup second).bind fun n => .pure (h.apply n)
      · exact .throw _ _

end Span

namespace Interpolation

open InfraTemplate.Span

theorem asks_interpolate (path : String) (lookup : String → Stateful σ Node) (s : String) :
    Asks (referencedNames s) (interpolate path lookup s) (interpolate path (logged lookup) s) := by
  have hnames (spans : List Span) :
      spans.flatMap (fun span => span.reference?.toList) = spans.filterMap reference? := by
    induction spans with
    | nil => rfl
    | cons span spans ih =>
      rw [List.flatMap_cons, List.filterMap_cons, ih]
      cases span.reference? <;> rfl
  have h := (Asks.mapM (asks_render path lookup) (ofText s)).bind fun texts =>
    .pure (String.join texts)
  rwa [hnames, List.append_nil] at h

/-- An interpolation asks for the names that its text refers to, from the left, and for each of them
if it succeeds. Without placeholders there is nothing to ask for. -/
theorem names_asked (path : String) (lookup : String → Stateful σ Node) (s : String) (u : σ) :
    (interpolate path lookup s).run u =
        ((interpolate path (logged lookup) s).run (u, [])).map (fun (r, t, _) => (r, t)) ∧
      (hasPlaceholders s = false →
        Returns (interpolate path (logged lookup) s) (u, []) s (u, [])) ∧
      (∀ out t asked, Returns (interpolate path (logged lookup) s) (u, []) out (t, asked) →
        asked = referencedNames s) ∧
      ∀ e t asked, Fails (interpolate path (logged lookup) s) (u, []) e (t, asked) →
        asked <+: referencedNames s := by
  have hasks := asks_interpolate path lookup s u []
  refine ⟨?_, ?_, ?_, ?_⟩
  · rcases hasks with ⟨h, h'⟩ | ⟨r, t, more, h, h', -⟩
    · rw [h, h', Option.map_none]
    · rw [h, h', Option.map_some]
  · intro h
    rw [interpolate_verbatim path _ (isVerbatim_of_unmarked h)]
    exact returns_pure.mpr ⟨rfl, rfl⟩
  · intro out t asked h
    rcases hasks with ⟨-, h'⟩ | ⟨r, t', more, -, h', -, hall⟩
    · cases h'.symm.trans h
    · cases h'.symm.trans h
      exact hall out rfl
  · intro e t asked h
    rcases hasks with ⟨-, h'⟩ | ⟨r, t', more, -, h', hp, -⟩
    · cases h'.symm.trans h
    · cases h'.symm.trans h
      exact hp

section Example

def itself (name : String) : Stateful Unit Node := pure (.string name)

def zonePlaceholder : String := "\x7b\x7bzone\x7d\x7d"

def unknownHelper : String := zonePlaceholder ++ "\x7b\x7b shout host \x7d\x7d"

theorem names_asked_unknownHelper :
    (hasPlaceholders "\x7bzone\x7d\x7d" = false ∧
      Returns (interpolate Path.root (logged itself) "\x7bzone\x7d\x7d") ((), [])
        "\x7bzone\x7d\x7d" ((), [])) ∧
    (Returns (interpolate Path.root (logged itself) zonePlaceholder) ((), []) "zone"
        ((), ["zone"]) ∧
      ["zone"] = referencedNames zonePlaceholder) ∧
    Fails (interpolate Path.root (logged itself) unknownHelper) ((), [])
        (.malformed "\x7b\x7b\x7d\x7d" Path.root (.unknownHelper "shout") []) ((), ["zone"]) ∧
      ["zone"] <+: referencedNames unknownHelper := by
  have hplain : hasPlaceholders "\x7bzone\x7d\x7d" = false := by decide +kernel
  have hspan : ofText zonePlaceholder = [.placeholder "zone".toList] := by decide +kernel
  have hspans : ofText unknownHelper =
      [.placeholder "zone".toList, .placeholder " shout host ".toList] := by decide +kernel
  have hd : isDynamic "zone".toList = false := by decide +kernel
  have hw : words "zone".toList = ["zone"] := by decide +kernel
  have hd' : isDynamic " shout host ".toList = false := by decide +kernel
  have hw' : words " shout host ".toList = ["shout", "host"] := by decide +kernel
  have hh : Helper.ofName? "shout" = none := by decide +kernel
  have hzone : Returns (logged itself "zone") ((), []) (.string "zone") ((), ["zone"]) := rfl
  have hrender : Returns (render Path.root (logged itself) (.placeholder "zone".toList)) ((), [])
      "zone" ((), ["zone"]) := by
    simp only [render, hd, hw]
    exact returns_bind.mpr ⟨_, _, hzone, returns_pure.mpr ⟨rfl, rfl⟩⟩
  have hfirst : Returns ([.placeholder "zone".toList].mapM (render Path.root (logged itself)))
      ((), []) ["zone"] ((), ["zone"]) :=
    returns_mapM_cons.mpr ⟨_, _, [], hrender, returns_mapM_nil.mpr ⟨rfl, rfl⟩, rfl⟩
  have hreturns : Returns (interpolate Path.root (logged itself) zonePlaceholder) ((), []) "zone"
      ((), ["zone"]) := by
    rw [interpolate, hspan]
    exact returns_bind.mpr ⟨_, _, hfirst, returns_pure.mpr ⟨rfl, rfl⟩⟩
  have hshout : Fails (render Path.root (logged itself) (.placeholder " shout host ".toList))
      ((), ["zone"]) (.malformed "\x7b\x7b\x7d\x7d" Path.root (.unknownHelper "shout") [])
      ((), ["zone"]) := by
    simp only [render, hd', hw', hh]
    exact fails_throw.mpr ⟨rfl, rfl⟩
  have hfails : Fails (interpolate Path.root (logged itself) unknownHelper) ((), [])
      (.malformed "\x7b\x7b\x7d\x7d" Path.root (.unknownHelper "shout") []) ((), ["zone"]) := by
    rw [interpolate, hspans]
    exact fails_bind.mpr (.inl (Reaches.fails ⟨[_], [], _, rfl, hfirst⟩ hshout))
  exact ⟨⟨hplain, (names_asked Path.root itself _ ()).2.1 hplain⟩,
    ⟨hreturns, (names_asked Path.root itself _ ()).2.2.1 _ _ _ hreturns⟩,
    hfails, (names_asked Path.root itself _ ()).2.2.2 _ _ _ hfails⟩

end Example

end Interpolation

end InfraTemplate
