import InfraTemplate.Proofs.AskedNames
import Mathlib.Data.List.Infix

namespace InfraTemplate

variable {σ : Type}

inductive Expression where
  | name (name : List Char)
  | helped (h : Helper) (gap name : List Char)
  | dynamic (reference : List Char)

namespace Expression

def text : Expression → List Char
  | name n => n
  | helped h gap n => h.name.toList ++ (gap ++ n)
  | dynamic r => "resolve:".toList ++ r

def isBrace (c : Char) : Bool := c == '\x7b' || c == '\x7d'

def IsBlank (cs : List Char) : Prop := ∀ c ∈ cs, Text.isBlank c = true

def IsUnbraced (cs : List Char) : Prop := ∀ c ∈ cs, isBrace c = false

def IsName (cs : List Char) : Prop :=
  cs ≠ [] ∧ ∀ c ∈ cs, Text.isBlank c = false ∧ isBrace c = false

def Fits : Expression → Prop
  | name n => IsName n ∧ ¬"resolve:".toList <+: n
  | helped _ gap n => gap ≠ [] ∧ IsBlank gap ∧ IsName n
  | dynamic r => IsUnbraced r

instance (cs : List Char) : Decidable (IsBlank cs) :=
  List.decidableBAll (fun c => Text.isBlank c = true) cs

instance (cs : List Char) : Decidable (IsUnbraced cs) :=
  List.decidableBAll (fun c => isBrace c = false) cs

instance (cs : List Char) : Decidable (IsName cs) :=
  have : Decidable (∀ c ∈ cs, Text.isBlank c = false ∧ isBrace c = false) :=
    List.decidableBAll _ cs
  inferInstanceAs (Decidable (cs ≠ [] ∧ ∀ c ∈ cs, Text.isBlank c = false ∧ isBrace c = false))

instance : (e : Expression) → Decidable e.Fits
  | name n => inferInstanceAs (Decidable (IsName n ∧ ¬"resolve:".toList <+: n))
  | helped _ gap n => inferInstanceAs (Decidable (gap ≠ [] ∧ IsBlank gap ∧ IsName n))
  | dynamic r => inferInstanceAs (Decidable (IsUnbraced r))

def names : Expression → List String
  | name n => [String.ofList n]
  | helped _ _ n => [String.ofList n]
  | dynamic _ => []

end Expression

inductive Piece where
  | literal (cs : List Char)
  | placeholder (before : List Char) (e : Expression) (after : List Char)

namespace Piece

open Expression

def inner (before : List Char) (e : Expression) (after : List Char) : List Char :=
  before ++ (e.text ++ after)

def text : Piece → List Char
  | literal cs => cs
  | placeholder before e after => ['\x7b', '\x7b'] ++ inner before e after ++ ['\x7d', '\x7d']

def Fits : Piece → Prop
  | literal cs => ¬['\x7b', '\x7b'] <:+: cs
  | placeholder before e after => IsBlank before ∧ IsBlank after ∧ e.Fits

instance : (p : Piece) → Decidable p.Fits
  | literal cs => inferInstanceAs (Decidable (¬['\x7b', '\x7b'] <:+: cs))
  | placeholder before e after =>
    inferInstanceAs (Decidable (IsBlank before ∧ IsBlank after ∧ e.Fits))

def names : Piece → List String
  | literal _ => []
  | placeholder _ e _ => e.names

def apart : List Piece → Bool
  | literal _ :: literal _ :: _ => false
  | _ :: ps => apart ps
  | [] => true

structure Fit (ps : List Piece) : Prop where
  each : ∀ p ∈ ps, p.Fits
  apart : apart ps = true

instance (ps : List Piece) : Decidable (Fit ps) :=
  decidable_of_iff ((∀ p ∈ ps, p.Fits) ∧ apart ps = true) ⟨fun h => ⟨h.1, h.2⟩, fun h => ⟨h.1, h.2⟩⟩

def filled : List Piece → List Node → String
  | [], _ => ""
  | literal cs :: ps, vs => String.ofList cs ++ filled ps vs
  | placeholder before (.dynamic r) after :: ps, vs =>
    String.ofList (text (placeholder before (.dynamic r) after)) ++ filled ps vs
  | placeholder _ (.name _) _ :: ps, v :: vs => v.text ++ filled ps vs
  | placeholder _ (.helped h _ _) _ :: ps, v :: vs => h.apply v ++ filled ps vs
  | placeholder _ _ _ :: ps, [] => filled ps []

end Piece

namespace Expression

open Text

variable {before after : List Char} {e : Expression}

theorem isBrace_of_blank {c : Char} (h : isBlank c = true) : isBrace c = false := by
  have ho : c ≠ '\x7b' := by
    rintro rfl
    exact absurd h (by decide)
  have hc : c ≠ '\x7d' := by
    rintro rfl
    exact absurd h (by decide)
  rw [isBrace, beq_eq_false_iff_ne.mpr ho, beq_eq_false_iff_ne.mpr hc]
  rfl

theorem isName_helper (h : Helper) : IsName h.name.toList := by
  cases h <;> decide

theorem head_helper (h : Helper) : h.name.toList.head? ≠ some 'r' := by cases h <;> decide

theorem isBrace_text (he : e.Fits) : ∀ c ∈ e.text, isBrace c = false := by
  intro c hc
  cases e with
  | name n => exact (he.1.2 c hc).2
  | helped h gap n =>
    obtain ⟨-, hgap, hn⟩ := he
    rcases List.mem_append.mp hc with hc | hc
    · exact ((isName_helper h).2 c hc).2
    · rcases List.mem_append.mp hc with hc | hc
      · exact isBrace_of_blank (hgap c hc)
      · exact (hn.2 c hc).2
  | dynamic r =>
    have hresolve : IsUnbraced "resolve:".toList := by decide
    rcases List.mem_append.mp hc with hc | hc
    · exact hresolve c hc
    · exact he c hc

theorem isBrace_inner (hb : IsBlank before) (ha : IsBlank after) (he : e.Fits) :
    ∀ c ∈ Piece.inner before e after, isBrace c = false := by
  intro c hc
  rcases List.mem_append.mp hc with hc | hc
  · exact isBrace_of_blank (hb c hc)
  · rcases List.mem_append.mp hc with hc | hc
    · exact isBrace_text he c hc
    · exact isBrace_of_blank (ha c hc)

theorem isDynamic_inner (hb : IsBlank before) (ha : IsBlank after) {c : Char} {cs : List Char}
    (ht : e.text = c :: cs) (hc : isBlank c = false) :
    Span.isDynamic (Piece.inner before e after) = hasHead "resolve:".toList (trimEnd e.text) := by
  rw [Span.isDynamic, Piece.inner, trim, trimStart_append_of_blank hb, ht, List.cons_append,
    trimStart_cons hc, ← List.cons_append, trimEnd_append_of_blank ha]

theorem words_inner (hb : IsBlank before) (ha : IsBlank after) :
    Text.words (Piece.inner before e after) = Text.words e.text := by
  rw [Piece.inner, words_blank_append hb, words_append_blank ha]

theorem words_name {n : List Char} (h : IsName n) : Text.words n = [n] :=
  words_of_word h.1 fun c hc => (h.2 c hc).1

theorem words_helped {h : Helper} {gap n : List Char} (he : (helped h gap n).Fits) :
    Text.words (helped h gap n).text = [h.name.toList, n] := by
  have hne : gap ≠ [] := he.1
  have hgap : IsBlank gap := he.2.1
  have hn : IsName n := he.2.2
  obtain ⟨c, gap, rfl⟩ := List.exists_cons_of_ne_nil hne
  have hrest : IsBlank gap := fun d hd => hgap d (List.mem_cons_of_mem _ hd)
  have htext : (helped h (c :: gap) n).text = h.name.toList ++ c :: (gap ++ n) := rfl
  rw [htext, words_append (hgap c (List.mem_cons_self ..)), words_name (isName_helper h),
    words_blank_append hrest, words_name hn]
  rfl

theorem words_inner_name {n : List Char} (hb : IsBlank before) (ha : IsBlank after)
    (hn : IsName n) : Text.words (Piece.inner before (name n) after) = [n] :=
  (words_inner hb ha).trans (words_name hn)

theorem words_inner_helped {h : Helper} {gap n : List Char} (hb : IsBlank before)
    (ha : IsBlank after) (he : (helped h gap n).Fits) :
    Text.words (Piece.inner before (helped h gap n) after) = [h.name.toList, n] :=
  (words_inner hb ha).trans (words_helped he)

theorem isDynamic_name {n : List Char} (hb : IsBlank before) (ha : IsBlank after)
    (hn : (name n).Fits) : Span.isDynamic (Piece.inner before (name n) after) = false := by
  obtain ⟨c, cs, rfl⟩ := List.exists_cons_of_ne_nil hn.1.1
  rw [isDynamic_inner hb ha rfl (hn.1.2 c (List.mem_cons_self ..)).1, Bool.eq_false_iff, ne_eq,
    hasHead_iff]
  exact fun hp => hn.2 (hp.trans (isPrefix_trimEnd _))

theorem isDynamic_helped {h : Helper} {gap n : List Char} (hb : IsBlank before)
    (ha : IsBlank after) : Span.isDynamic (Piece.inner before (helped h gap n) after) = false := by
  obtain ⟨c, cs, hh⟩ := List.exists_cons_of_ne_nil (isName_helper h).1
  have hc : isBlank c = false := ((isName_helper h).2 c (hh ▸ List.mem_cons_self ..)).1
  have htext : (helped h gap n).text = c :: (cs ++ (gap ++ n)) :=
    congrArg (· ++ (gap ++ n)) hh
  rw [isDynamic_inner hb ha htext hc, Bool.eq_false_iff, ne_eq, hasHead_iff]
  intro hp
  have hr : 'r' = c := (List.cons_prefix_cons.mp (htext ▸ hp.trans (isPrefix_trimEnd _))).1
  apply head_helper h
  rw [hh, ← hr, List.head?_cons]

theorem isDynamic_dynamic {r : List Char} (hb : IsBlank before) (ha : IsBlank after) :
    Span.isDynamic (Piece.inner before (dynamic r) after) = true := by
  have hr : isBlank 'r' = false := by decide
  have hcolon : isBlank ':' = false := by decide
  have htext : (dynamic r).text = "resolve".toList ++ ':' :: r := rfl
  rw [isDynamic_inner hb ha (c := 'r') rfl hr, htext, trimEnd_append_cons hcolon, hasHead_iff]
  exact ⟨trimEnd r, rfl⟩

end Expression

namespace Span

theorem closing?_append {inner : List Char} (h : ∀ c ∈ inner, Expression.isBrace c = false)
    (rest : List Char) : closing? (inner ++ '\x7d' :: '\x7d' :: rest) = some (inner, rest) := by
  induction inner with
  | nil => rfl
  | cons c inner ih =>
    have hc := h c (List.mem_cons_self ..)
    rw [Expression.isBrace, Bool.or_eq_false_iff, beq_eq_false_iff_ne, beq_eq_false_iff_ne] at hc
    have hrest := ih fun d hd => h d (List.mem_cons_of_mem _ hd)
    simp [closing?, hc, hrest]

theorem scan_placeholder {inner : List Char} (h : ∀ c ∈ inner, Expression.isBrace c = false)
    (rest : List Char) :
    scan (source (placeholder inner) ++ rest) = placeholder inner :: scan rest := by
  have hsource : source (placeholder inner) ++ rest =
      '\x7b' :: '\x7b' :: (inner ++ '\x7d' :: '\x7d' :: rest) := by simp [source]
  refine scan_of_opening ?_
  rw [hsource, opening?, if_pos ⟨rfl, rfl⟩, closing?_append h]

theorem scan_literal {cs rest : List Char} (h : ¬['\x7b', '\x7b'] <:+: cs)
    (hrest : rest = [] ∨ ∃ more, rest = '\x7b' :: '\x7b' :: more) :
    scan (cs ++ rest) = cs.map char ++ scan rest := by
  induction cs with
  | nil => rfl
  | cons c cs ih =>
    have htail : ¬['\x7b', '\x7b'] <:+: cs := fun hi => h (hi.trans (List.suffix_cons c cs).isInfix)
    have hnone : opening? (c :: (cs ++ rest)) = none := by
      cases cs with
      | nil =>
        rcases hrest with rfl | ⟨more, rfl⟩
        · rfl
        · rw [List.nil_append, opening?]
          split <;> rfl
      | cons d cs =>
        rw [List.cons_append, opening?, if_neg]
        rintro ⟨rfl, rfl⟩
        exact h ⟨[], cs, rfl⟩
    rw [List.cons_append, scan_cons_of_none hnone, ih htail]
    rfl

theorem render_name {path : String} {lookup : String → Stateful σ Node} {inner n : List Char}
    (hd : isDynamic inner = false) (hw : Text.words inner = [n]) :
    render path lookup (placeholder inner) = lookup (String.ofList n) >>= fun v => pure v.text := by
  simp [render, hd, words, hw]

theorem render_helped {path : String} {lookup : String → Stateful σ Node} {h : Helper}
    {inner n : List Char} (hd : isDynamic inner = false)
    (hw : Text.words inner = [h.name.toList, n]) :
    render path lookup (placeholder inner) =
      lookup (String.ofList n) >>= fun v => pure (h.apply v) := by
  simp [render, hd, words, hw, Helper.ofName?_name]

end Span

namespace Piece

open Expression InfraTemplate.Span

def spans : Piece → List Span
  | literal cs => cs.map .char
  | placeholder before e after => [.placeholder (inner before e after)]

theorem Fit.tail {p : Piece} {ps : List Piece} (h : Fit (p :: ps)) : Fit ps := by
  refine ⟨fun q hq => h.each q (List.mem_cons_of_mem _ hq), ?_⟩
  have ha := h.apart
  cases p with
  | placeholder before e after => exact ha
  | literal cs =>
    cases ps with
    | nil => rfl
    | cons q ps =>
      cases q with
      | literal ds => cases ha
      | placeholder before e after => exact ha

theorem scan_pieces {ps : List Piece} (h : Fit ps) :
    scan (ps.flatMap text) = ps.flatMap spans := by
  induction ps with
  | nil => rfl
  | cons p ps ih =>
    rw [List.flatMap_cons, List.flatMap_cons, ← ih h.tail]
    have hp := h.each p (List.mem_cons_self ..)
    cases p with
    | placeholder before e after => exact scan_placeholder (isBrace_inner hp.1 hp.2.1 hp.2.2) _
    | literal cs =>
      refine scan_literal hp ?_
      cases ps with
      | nil => exact .inl rfl
      | cons q ps =>
        cases q with
        | literal ds => cases h.apart
        | placeholder before e after => exact .inr ⟨_, rfl⟩

theorem reference_spans {p : Piece} (hp : p.Fits) : p.spans.filterMap reference? = p.names := by
  cases p with
  | literal cs =>
    rw [spans, List.filterMap_map]
    exact List.filterMap_eq_nil_iff.mpr fun c _ => rfl
  | placeholder before e after =>
    obtain ⟨hb, ha, he⟩ := hp
    cases e with
    | name n =>
      have hw := words_inner_name hb ha he.1
      simp [spans, names, reference?, Expression.names, isDynamic_name hb ha he, words, hw]
    | helped h gap n =>
      have hw := words_inner_helped hb ha he
      simp [spans, names, reference?, Expression.names, isDynamic_helped hb ha, words, hw]
    | dynamic r => simp [spans, names, reference?, Expression.names, isDynamic_dynamic hb ha]

theorem referencedNames_pieces {ps : List Piece} (h : Fit ps) :
    Interpolation.referencedNames (String.ofList (ps.flatMap text)) = ps.flatMap names := by
  rw [Interpolation.referencedNames, ofText, String.toList_ofList, scan_pieces h]
  induction ps with
  | nil => rfl
  | cons p ps ih =>
    rw [List.flatMap_cons, List.filterMap_append, ih h.tail,
      reference_spans (h.each p (List.mem_cons_self ..)), List.flatMap_cons]

section Rendering

theorem returns_literal (path : String) (lookup : String → Stateful σ Node) (s : σ)
    (cs : List Char) : ∃ texts, Returns ((cs.map char).mapM (render path lookup)) s texts s ∧
      String.join texts = String.ofList cs := by
  refine ⟨cs.map String.singleton, ?_, ?_⟩
  · have hpure : ∀ span ∈ cs.map char,
        render path lookup span = (pure (String.ofList span.source) : Stateful σ String) := by
      intro span hspan
      obtain ⟨c, -, rfl⟩ := List.mem_map.mp hspan
      exact render_verbatim rfl
    rw [mapM_eq_pure hpure, List.map_map]
    exact returns_pure.mpr ⟨rfl, rfl⟩
  · induction cs with
    | nil => rfl
    | cons c cs ih => rw [List.map_cons, String.join_cons, ih, String.ofList_cons]

variable {path : String} {lookup : String → Stateful σ Node} {s t : σ} {vs : List Node}

theorem returns_asking {name : String} {inner : List Char} {shown : Node → String}
    {names : List String} {spans : List Span} {rest : List Node → String}
    (hshown : render path lookup (.placeholder inner) = lookup name >>= fun v => pure (shown v))
    (hrest : ∀ {u vs}, Returns (names.mapM lookup) u vs t →
      ∃ texts, Returns (spans.mapM (render path lookup)) u texts t ∧ String.join texts = rest vs)
    (h : Returns ((name :: names).mapM lookup) s vs t) :
    ∃ v more texts, vs = v :: more ∧
      Returns ((Span.placeholder inner :: spans).mapM (render path lookup)) s texts t ∧
        String.join texts = shown v ++ rest more := by
  obtain ⟨v, u, more, hv, hmore, rfl⟩ := returns_mapM_cons.mp h
  obtain ⟨texts, htexts, hjoin⟩ := hrest hmore
  have hfirst : Returns (render path lookup (.placeholder inner)) s (shown v) u := by
    rw [hshown]
    exact returns_bind.mpr ⟨v, u, hv, returns_pure.mpr ⟨rfl, rfl⟩⟩
  exact ⟨v, more, shown v :: texts, rfl, returns_mapM_cons.mpr ⟨_, u, texts, hfirst, htexts, rfl⟩,
    by rw [String.join_cons, hjoin]⟩

theorem returns_render {ps : List Piece} (hps : Fit ps) (path : String)
    (h : Returns ((ps.flatMap names).mapM lookup) s vs t) :
    ∃ texts, Returns ((ps.flatMap spans).mapM (render path lookup)) s texts t ∧
      String.join texts = filled ps vs := by
  induction ps generalizing s vs with
  | nil =>
    obtain ⟨rfl, rfl⟩ := returns_mapM_nil.mp h
    exact ⟨[], returns_mapM_nil.mpr ⟨rfl, rfl⟩, rfl⟩
  | cons p ps ih =>
    have hp := hps.each p (List.mem_cons_self ..)
    cases p with
    | literal cs =>
      obtain ⟨front, hfront, hcs⟩ := returns_literal path lookup s cs
      obtain ⟨back, hback, hjoin⟩ := ih hps.tail h
      refine ⟨front ++ back, returns_mapM_append.mpr ⟨front, s, back, hfront, hback, rfl⟩, ?_⟩
      rw [String.join_append, hcs, hjoin, filled]
    | placeholder before e after =>
      obtain ⟨hb, ha, he⟩ := hp
      cases e with
      | name n =>
        have hw := words_inner_name hb ha he.1
        obtain ⟨v, more, texts, rfl, htexts, hjoin⟩ :=
          returns_asking (render_name (isDynamic_name hb ha he) hw) (ih hps.tail) h
        exact ⟨texts, htexts, hjoin⟩
      | helped helper gap n =>
        have hw := words_inner_helped hb ha he
        obtain ⟨v, more, texts, rfl, htexts, hjoin⟩ :=
          returns_asking (render_helped (isDynamic_helped hb ha) hw) (ih hps.tail) h
        exact ⟨texts, htexts, hjoin⟩
      | dynamic r =>
        obtain ⟨texts, htexts, hjoin⟩ := ih hps.tail h
        have hfirst :
            Returns (render path lookup (.placeholder (inner before (.dynamic r) after))) s
              (String.ofList (text (placeholder before (.dynamic r) after))) s := by
          have hverbatim :
              Span.isVerbatim (.placeholder (inner before (.dynamic r) after)) = true :=
            isDynamic_dynamic hb ha
          rw [render_verbatim hverbatim]
          exact returns_pure.mpr ⟨rfl, rfl⟩
        refine ⟨_, returns_mapM_cons.mpr ⟨_, s, texts, hfirst, htexts, rfl⟩, ?_⟩
        rw [String.join_cons, hjoin, filled]

end Rendering

end Piece

open Piece Interpolation

/-- The interpolation of a text made of pieces is the pieces with the values of the names in their
places. It asks for each name once, from the left. -/
theorem interpolate_pieces {ps : List Piece} (hps : Fit ps) (path : String)
    (lookup : String → Stateful σ Node) {s t : σ} {vs : List Node}
    (h : Returns ((ps.flatMap names).mapM lookup) s vs t) :
    Returns (interpolate path lookup (String.ofList (ps.flatMap text))) s (filled ps vs) t ∧
      Returns (interpolate path (logged lookup) (String.ofList (ps.flatMap text))) (s, [])
        (filled ps vs) (t, ps.flatMap names) := by
  have hplain : Returns (interpolate path lookup (String.ofList (ps.flatMap text))) s
      (filled ps vs) t := by
    obtain ⟨texts, htexts, hjoin⟩ := returns_render hps path h
    rw [interpolate, Span.ofText, String.toList_ofList, scan_pieces hps]
    exact returns_bind.mpr ⟨texts, t, htexts, returns_pure.mpr ⟨hjoin.symm, rfl⟩⟩
  refine ⟨hplain, ?_⟩
  rcases asks_interpolate path lookup (String.ofList (ps.flatMap text)) s [] with
    ⟨hnone, -⟩ | ⟨r, u, asked, hrun, hlogged, -, hall⟩
  · cases hnone.symm.trans hplain
  · cases hrun.symm.trans hplain
    rw [hall _ rfl, referencedNames_pieces hps] at hlogged
    exact hlogged

section Example

def hostValue (name : String) : Stateful Unit Node :=
  pure (.string (if name = "zone" then "\x7b\x7bhost\x7d\x7d" else " web "))

def hostPieces : List Piece :=
  [.literal ['\x7b'], .placeholder [] (.name "zone".toList) ['\x09'],
    .placeholder [' '] (.helped .trim [' '] "host".toList) [], .literal "-\x7d".toList,
    .placeholder [' '] (.dynamic "ssm:key".toList) []]

theorem interpolate_pieces_host :
    Fit hostPieces ∧
    Returns ((hostPieces.flatMap names).mapM hostValue) ()
      [.string "\x7b\x7bhost\x7d\x7d", .string " web "] () ∧
    Returns (interpolate Path.root (logged hostValue)
        ("\x7b\x7b\x7bzone\x09\x7d\x7d\x7b\x7b trim host\x7d\x7d" ++
          "-\x7d\x7b\x7b resolve:ssm:key\x7d\x7d"))
      ((), []) "\x7b\x7b\x7bhost\x7d\x7dweb-\x7d\x7b\x7b resolve:ssm:key\x7d\x7d"
      ((), ["zone", "host"]) := by
  have hfit : Fit hostPieces := by decide +kernel
  have hvalues : Returns ((hostPieces.flatMap names).mapM hostValue) ()
      [.string "\x7b\x7bhost\x7d\x7d", .string " web "] () := rfl
  have htext : String.ofList (hostPieces.flatMap text) =
      "\x7b\x7b\x7bzone\x09\x7d\x7d\x7b\x7b trim host\x7d\x7d" ++
        "-\x7d\x7b\x7b resolve:ssm:key\x7d\x7d" := by
    decide +kernel
  have hfilled : filled hostPieces [.string "\x7b\x7bhost\x7d\x7d", .string " web "] =
      "\x7b\x7b\x7bhost\x7d\x7dweb-\x7d\x7b\x7b resolve:ssm:key\x7d\x7d" := by decide +kernel
  have hnames : hostPieces.flatMap names = ["zone", "host"] := by decide +kernel
  have h := (interpolate_pieces hfit Path.root hostValue hvalues).2
  rw [htext, hfilled, hnames] at h
  exact ⟨hfit, hvalues, h⟩

end Example

end InfraTemplate
