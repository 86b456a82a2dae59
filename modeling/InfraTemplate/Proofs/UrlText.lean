import InfraTemplate.Proofs.Rereading
import InfraTemplate.Url
import Mathlib.Data.List.Infix

/-!
The text of a URL. It begins with the scheme of the URL, and nothing is trimmed off it: what could
be blank in it is written in hexadecimal, the spaces within an opaque path apart.
-/

namespace InfraTemplate

def Text.Solid (cs : List Char) : Prop := ∀ c ∈ cs, isBlank c = false

namespace Url

open Text

variable {base u : Url} {m : Manner} {scheme cs front rest : List Char} {parts : List (List Char)}
  {query? fragment? : Option (List Char)}

section Encoding

theorem solid_append {a b : List Char} (ha : Solid a) (hb : Solid b) : Solid (a ++ b) := by
  intro c hc
  exact (List.mem_append.mp hc).elim (ha c) (hb c)

theorem solid_cons {c : Char} (hc : isBlank c = false) (hcs : Solid cs) : Solid (c :: cs) :=
  List.forall_mem_cons.mpr ⟨hc, hcs⟩

theorem solid_percentEncode {set : List Char} (h : ' ' ∈ set) : Solid (percentEncode set cs) :=
  fun _ => isBlank_of_mem_percentEncode fun _ => h

theorem solid_userinfoText (cs : List Char) : Solid (userinfoText cs) := by
  have hset : ' ' ∈ userinfoSet := by decide
  unfold userinfoText
  split
  extract_lets shown
  have hshown : Solid shown := by
    refine solid_append (solid_percentEncode hset) ?_
    split
    · exact fun _ => nofun
    · exact solid_cons (by decide) (solid_percentEncode hset)
  split
  · exact fun _ => nofun
  · exact solid_append hshown (solid_cons (by decide) fun _ => nofun)

theorem solid_port (n : Nat) : Solid (toString n).toList := by
  intro c hc
  have hdigits : c ∈ Nat.toDigits 10 n := by simpa using hc
  have hd := Nat.isDigit_of_mem_toDigits (by decide) (by decide) hdigits
  simp only [Char.isDigit, Bool.and_eq_true, decide_eq_true_eq] at hd
  exact isBlank_eq_false (Nat.lt_of_lt_of_le (by decide) hd.1) (Nat.lt_of_le_of_lt hd.2 (by decide))

theorem solid_cutQuery (h : cutQuery m cs = (front, query?, fragment?)) :
    (∀ q ∈ query?, Solid q) ∧ (∀ f ∈ fragment?, Solid f) ∧
      (query? = none → fragment? = none → front = cs) := by
  have hquery : ' ' ∈ (if m = .other then querySet else specialQuerySet) := by
    split <;> decide
  have hfragment : ' ' ∈ fragmentSet := by decide
  unfold cutQuery at h
  split at h
  rename_i before tail? htail
  have htail' : (∀ f ∈ tail?, Solid f) ∧ (tail? = none → before = cs) := by
    split at htail <;> cases htail
    · exact ⟨by rintro _ ⟨⟩; exact solid_percentEncode hfragment, nofun⟩
    · exact ⟨nofun, fun _ => rfl⟩
  split at h <;> cases h
  · exact ⟨by rintro _ ⟨⟩; exact solid_percentEncode hquery, htail'.1, nofun⟩
  · exact ⟨nofun, htail'.1, fun _ => htail'.2⟩

theorem percentEncode_ne_nil {set : List Char} (h : cs ≠ []) : percentEncode set cs ≠ [] := by
  obtain ⟨c, rest, rfl⟩ := List.exists_cons_of_ne_nil h
  rw [percentEncode, List.flatMap_cons]
  split
  · obtain ⟨b, bs, hb⟩ := List.exists_cons_of_ne_nil (String.utf8EncodeChar_ne_nil (c := c))
    rw [hb]
    simp [percentByte]
  · simp

theorem trimEnd_percentEncode (h : ∀ c ∈ cs.getLast?, 0x20 < c.toNat) :
    trimEnd (percentEncode [] cs) = percentEncode [] cs := by
  rcases List.eq_nil_or_concat' cs with rfl | ⟨before, c, rfl⟩
  · rfl
  have hc : 0x20 < c.toNat := h c (by simp)
  have hsolid : Solid (percentEncode [] [c]) := fun _ => isBlank_of_mem_percentEncode fun hspace => by
    rw [← List.mem_singleton.mp hspace] at hc
    exact absurd hc (by decide)
  have hsplit : percentEncode [] (before ++ [c]) = percentEncode [] before ++ percentEncode [] [c] :=
    List.flatMap_append
  rw [hsplit]
  exact trimEnd_append (fun he => absurd he (percentEncode_ne_nil (List.cons_ne_nil c [])))
    (trimEnd_of_none hsolid)

theorem kept_of_visible {c : Char} (h : 0x20 < c.toNat) :
    (c != '\t' && c != '\n' && c != '\r') = true := by
  simp only [Bool.and_eq_true, bne_iff_ne]
  refine ⟨⟨?_, ?_⟩, ?_⟩ <;> rintro rfl <;> exact absurd h (by decide)

theorem getLast?_clean {c : Char} (h : c ∈ (clean cs).getLast?) : 0x20 < c.toNat := by
  unfold clean at h
  extract_lets outer at h
  rw [List.filter_reverse, List.getLast?_reverse] at h
  have hhead := List.head?_dropWhile_not (fun c => decide (outer c)) (cs.dropWhile outer).reverse
  cases hd : (cs.dropWhile outer).reverse.dropWhile outer with
  | nil =>
    rw [hd] at h
    cases h
  | cons d rest =>
    rw [hd] at h hhead
    have hd : 0x20 < d.toNat := by simpa [outer] using hhead
    rw [List.filter_cons, if_pos (kept_of_visible hd)] at h
    cases h
    exact hd

end Encoding

section Walking

theorem mem_shorten {p : List Char} (h : p ∈ shorten m parts) : p ∈ parts := by
  unfold shorten at h
  split at h
  · split at h
    · exact h
    · cases h
  · exact List.mem_of_mem_dropLast h

theorem walk_cons (m : Manner) (parts : List (List Char)) (s : List Char)
    (segments : List (List Char)) : ∃ kept, walk m parts (s :: segments) = walk m kept segments ∧
      (∀ p ∈ kept, p ∈ parts ∨ Solid p) ∧ (segments = [] → kept ≠ []) := by
  have hempty : ∀ p ∈ [([] : List Char)], Solid p := by simp [Solid]
  refine ⟨_, rfl, ?_, ?_⟩
  · intro p hp
    split at hp
    · split at hp
      · exact (List.mem_append.mp hp).imp mem_shorten (hempty p)
      · exact .inl (mem_shorten hp)
    · split at hp
      · split at hp
        · exact (List.mem_append.mp hp).imp_right (hempty p)
        · exact .inl hp
      · split at hp
        · rename_i hdrive
          rw [List.mem_singleton.mp hp]
          simp only [Bool.and_eq_true] at hdrive
          refine .inr (solid_append (fun c hc => ?_) (solid_cons (by decide) fun _ => nofun))
          exact isBlank_of_isDrive hdrive.2 (List.mem_of_mem_take hc)
        · split at hp
          · cases hp
          · refine (List.mem_append.mp hp).imp_right fun hs => ?_
            rw [List.mem_singleton.mp hs]
            exact solid_percentEncode (by decide)
  · rintro rfl
    repeat' split
    all_goals simp_all

theorem solid_walk {segments : List (List Char)} (h : ∀ p ∈ parts, Solid p) :
    ∀ p ∈ walk m parts segments, Solid p := by
  induction segments generalizing parts with
  | nil => exact h
  | cons s segments ih =>
    obtain ⟨kept, hwalk, hkept, -⟩ := walk_cons m parts s segments
    rw [hwalk]
    exact ih fun p hp => (hkept p hp).elim (h p) id

theorem walk_ne_nil {segments : List (List Char)} (h : segments ≠ []) :
    walk m parts segments ≠ [] := by
  induction segments generalizing parts with
  | nil => exact absurd rfl h
  | cons s segments ih =>
    obtain ⟨kept, hwalk, -, hkept⟩ := walk_cons m parts s segments
    rw [hwalk]
    cases segments with
    | nil => exact hkept rfl
    | cons s' segments => exact ih (List.cons_ne_nil s' segments)

theorem walkText_ne_nil (m : Manner) (parts : List (List Char)) (cs : List Char) :
    walkText m parts cs ≠ [] := walk_ne_nil (splitAll_ne_nil _ cs)

theorem rootedPath_eq (m : Manner) (cs : List Char) : ∃ parts, rootedPath m cs = .segments parts ∧
    (∀ p ∈ parts, Solid p) ∧ (parts = [] → m = .other) := by
  cases cs with
  | nil =>
    refine ⟨_, rfl, ?_, ?_⟩
    · split <;> simp [Solid]
    · split
      · exact fun _ => ‹_›
      · exact nofun
  | cons c rest =>
    exact ⟨_, rfl, solid_walk (fun _ => nofun), fun he => absurd he (walkText_ne_nil m [] _)⟩

end Walking

structure Neat (u : Url) : Prop where
  scheme : Solid u.scheme
  rooted : mannerOf u.scheme = .web → ∃ parts, u.path = .segments parts
  segments : ∀ parts, u.path = .segments parts → ∀ p ∈ parts, Solid p
  opaquePath : ∀ cs, u.path = .text cs → u.query? = none → u.fragment? = none → trimEnd cs = cs
  authority : u.pathText = [] → trimEnd u.authorityText = u.authorityText
  query : ∀ q ∈ u.query?, Solid q
  fragment : ∀ f ∈ u.fragment?, Solid f

theorem Neat.trimEnd_pathText (h : u.Neat) (hq : u.query? = none) (hf : u.fragment? = none) :
    trimEnd u.pathText = u.pathText := by
  unfold pathText
  cases hp : u.path with
  | segments parts =>
    refine trimEnd_of_none fun c hc => ?_
    obtain ⟨p, hmem, hc⟩ := List.mem_flatMap.mp hc
    exact solid_cons (by decide) (h.segments parts hp p hmem) c hc
  | text cs => exact h.opaquePath cs hp hq hf

theorem toList_text (u : Url) : ∃ rest, u.text.toList = u.scheme ++ ':' :: rest := by
  constructor
  rw [text, String.toList_ofList, List.append_assoc, List.append_assoc, List.append_assoc]
  rfl

theorem Neat.trimEnd_text (h : u.Neat) : trimEnd u.text.toList = u.text.toList := by
  rw [text, String.toList_ofList]
  cases hf : u.fragment? with
  | some f => exact trimEnd_append nofun (trimEnd_of_none (solid_cons (by decide) (h.fragment f hf)))
  | none =>
    rw [List.append_nil]
    cases hq : u.query? with
    | some q => exact trimEnd_append nofun (trimEnd_of_none (solid_cons (by decide) (h.query q hq)))
    | none =>
      rw [List.append_nil]
      refine trimEnd_append (fun hp => ?_) (h.trimEnd_pathText hq hf)
      have hauthority : trimEnd (':' :: u.authorityText) = ':' :: u.authorityText :=
        trimEnd_append (a := [':']) (fun _ => rfl) (h.authority hp)
      exact trimEnd_append nofun hauthority

theorem Neat.trimText_text (h : u.Neat) : trimText u.text = u.text := by
  obtain ⟨rest, htext⟩ := u.toList_text
  have hstart : trimStart u.text.toList = u.text.toList := by
    rw [htext]
    cases hs : u.scheme with
    | nil => exact trimStart_cons (by decide) rest
    | cons c cs => exact trimStart_cons (h.scheme c (hs ▸ List.mem_cons_self ..)) _
  rw [trimText, trim, hstart, h.trimEnd_text, String.ofList_toList]

section Reading

theorem neat_of_segments (hs : Solid u.scheme) (hp : u.path = .segments parts) (hne : parts ≠ [])
    (hparts : ∀ p ∈ parts, Solid p) (hq : ∀ q ∈ u.query?, Solid q) (hf : ∀ f ∈ u.fragment?, Solid f) :
    u.Neat where
  scheme := hs
  rooted _ := ⟨parts, hp⟩
  segments parts' hp' := by
    cases hp.symm.trans hp'
    exact hparts
  opaquePath cs hcs := by
    rw [hp] at hcs
    cases hcs
  authority he := by
    obtain ⟨p, rest, rfl⟩ := List.exists_cons_of_ne_nil hne
    rw [pathText, hp] at he
    cases he
  query := hq
  fragment := hf

theorem neat_walked (hb : base.Neat) (hp : ∀ p ∈ parts, Solid p) (cs : List Char)
    (hq : ∀ q ∈ query?, Solid q) (hf : ∀ f ∈ fragment?, Solid f) :
    Neat { base with path := .segments (walkText m parts cs), query? := query?,
                     fragment? := fragment? } :=
  neat_of_segments hb.scheme rfl (walkText_ne_nil m parts cs) (solid_walk hp) hq hf

theorem of_guard_eq_ok {ε β : Type} {c : Prop} [Decidable c] {e : ε} {f : PUnit → Except ε β} {b : β}
    (h : (if c then throw e >>= f else f ⟨⟩) = .ok b) : f ⟨⟩ = .ok b := by
  split at h
  · cases h
  · exact h

structure HasAuthority (named cs : List Char) (u : Url) : Prop where
  scheme : u.scheme = named
  userinfo : ∃ user, u.userinfo = userinfoText user
  host : ∃ host, u.host? = some host ∧ (mannerOf named ≠ .web → ∃ cs, plainHost cs = .ok host)
  path : ∃ rest, u.path = rootedPath (mannerOf named) rest
  tail : ∃ front, cutQuery (mannerOf named) cs = (front, u.query?, u.fragment?)

theorem hasAuthority_of_afterSlashes (h : afterSlashes scheme cs = .ok u) :
    HasAuthority scheme cs u := by
  unfold afterSlashes at h
  extract_lets m at h
  split at h
  rename_i front query? fragment? hcut
  extract_lets authority rest at h
  split at h
  rename_i user hostAndPort _
  replace h := of_guard_eq_ok h
  extract_lets userinfo at h
  split at h
  rename_i hostText digits? _
  replace h := of_guard_eq_ok h
  beta_reduce at h
  have made (host : String) (hhost : m ≠ .web → ∃ cs, plainHost cs = .ok host) (p? : Option Nat) :
      HasAuthority scheme cs
        ⟨scheme, userinfo, some host, p?, rootedPath m rest, query?, fragment?⟩ :=
    ⟨rfl, ⟨user, rfl⟩, ⟨host, rfl, hhost⟩, ⟨rest, rfl⟩, ⟨front, hcut⟩⟩
  extract_lets close at h
  have closed (host : String) (hhost : m ≠ .web → ∃ cs, plainHost cs = .ok host)
      (hc : close host = .ok u) : HasAuthority scheme cs u := by
    dsimp only [close] at hc
    replace hc := of_guard_eq_ok hc
    split at hc
    · obtain ⟨p?, -, hc⟩ := bind_eq_ok.mp hc
      cases of_guard_eq_ok hc
      exact made host hhost p?
    · obtain ⟨p?, -, hc⟩ := bind_eq_ok.mp hc
      cases of_guard_eq_ok hc
      exact made host hhost p?
  split at h
  · rename_i hweb
    obtain ⟨host, -, h⟩ := bind_eq_ok.mp h
    exact closed host (fun hn => absurd hweb hn) h
  · obtain ⟨host, hhost, h⟩ := bind_eq_ok.mp h
    exact closed host (fun _ => ⟨_, hhost⟩) h

theorem HasAuthority.trimEnd_authorityText (h : HasAuthority scheme cs u)
    (hweb : mannerOf scheme ≠ .web) : trimEnd u.authorityText = u.authorityText := by
  obtain ⟨user, huser⟩ := h.userinfo
  obtain ⟨host, hhost, hplain⟩ := h.host
  obtain ⟨text, htext⟩ := hplain hweb
  have hslashes : Solid ("//".toList ++ u.userinfo) := by
    rw [huser]
    exact solid_append (by simp [Solid, isBlank]) (solid_userinfoText user)
  unfold authorityText
  rw [hhost]
  refine trimEnd_append (fun _ => ?_) ?_
  · exact trimEnd_append (fun _ => trimEnd_of_none hslashes) (trimEnd_plainHost htext)
  · split
    · exact trimEnd_of_none (solid_cons (by decide) (solid_port _))
    · rfl

theorem HasAuthority.neat (h : HasAuthority scheme cs u) (hs : Solid scheme) : u.Neat := by
  obtain ⟨rest, hpath⟩ := h.path
  obtain ⟨parts, hparts, hsolid, hnil⟩ := rootedPath_eq (mannerOf scheme) rest
  obtain ⟨front, hcut⟩ := h.tail
  obtain ⟨hq, hf, -⟩ := solid_cutQuery hcut
  rw [hparts] at hpath
  rw [← h.scheme] at hs
  by_cases hne : parts = []
  · have hweb : mannerOf scheme ≠ .web := by
      rw [hnil hne]
      nofun
    subst hne
    exact {
      scheme := hs
      rooted := fun _ => ⟨[], hpath⟩
      segments := by
        intro parts' hp'
        cases hpath.symm.trans hp'
        nofun
      opaquePath := by
        intro cs hcs
        rw [hpath] at hcs
        cases hcs
      authority := fun _ => h.trimEnd_authorityText hweb
      query := hq
      fragment := hf }
  · exact neat_of_segments hs hpath hne hsolid hq hf

theorem neat_afterSlashes (hs : Solid scheme) (h : afterSlashes scheme cs = .ok u) :
    u.scheme = scheme ∧ u.Neat :=
  have ha := hasAuthority_of_afterSlashes h
  ⟨ha.scheme, ha.neat hs⟩

theorem neat_relative (hb : base.Neat) (hp : base.path = .segments parts)
    (h : relative base cs = .ok u) : u.scheme = base.scheme ∧ u.Neat := by
  have hparts := hb.segments parts hp
  have hempty : ∀ p ∈ ([] : List (List Char)), Solid p := nofun
  unfold relative at h
  extract_lets m at h
  split at h
  rename_i parts' either _ front query? fragment? hcut
  obtain ⟨hq, hf, -⟩ := solid_cutQuery hcut
  have hparts' : ∀ p ∈ parts', Solid p := by
    simp only [parts', hp]
    exact hparts
  split at h
  · cases h
    refine ⟨rfl, hb.scheme, hb.rooted, hb.segments, ?_, hb.authority, ?_, hf⟩
    · intro cs hcs
      rw [show base.path = .text cs from hcs] at hp
      cases hp
    · intro q hmem
      dsimp only at hmem
      split at hmem
      · exact hq q hmem
      · exact hb.query q hmem
  · split at h
    · split at h
      · split at h
        · split at h
          · exact neat_afterSlashes hb.scheme h
          · exact neat_afterSlashes hb.scheme h
        · cases h
          exact ⟨rfl, neat_walked hb hempty _ hq hf⟩
      · cases h
        exact ⟨rfl, neat_walked hb hempty _ hq hf⟩
    · cases h
      exact ⟨rfl, neat_walked hb (fun p hp => hparts' p (mem_shorten hp)) _ hq hf⟩

theorem neat_ofFileText (h : ofFileText cs = .ok u) : u.scheme = "file".toList ∧ u.Neat := by
  unfold ofFileText at h
  split at h
  rename_i front query? fragment? hcut
  obtain ⟨hq, hf, -⟩ := solid_cutQuery hcut
  extract_lets make at h
  have made (host : String) (rest : List Char) :
      (make host rest).scheme = "file".toList ∧ (make host rest).Neat :=
    ⟨rfl, neat_of_segments (by simp [make, Solid, isBlank]) rfl (walkText_ne_nil .file [] rest)
      (solid_walk nofun) hq hf⟩
  split at h
  · split at h
    · extract_lets hostText at h
      split at h
      · cases h
        exact made _ _
      · split at h
        · cases h
          exact made _ _
        · obtain ⟨host, -, h⟩ := bind_eq_ok.mp h
          cases h
          exact made _ _
    · cases h
      exact made _ _
  · cases h
    exact made _ _
  · cases h
    exact made _ _

theorem neat_ofScheme {base? : Option Url} (hb : ∀ b ∈ base?, b.Neat) (hs : Solid scheme)
    (hrest : ∀ c ∈ rest.getLast?, 0x20 < c.toNat) (h : ofScheme base? scheme rest = .ok u) :
    u.scheme = scheme ∧ u.Neat := by
  unfold ofScheme at h
  split at h
  · rename_i hfile
    obtain ⟨hscheme, hneat⟩ := neat_ofFileText h
    refine ⟨?_, hneat⟩
    rw [hscheme]
    unfold mannerOf at hfile
    split at hfile
    · exact Eq.symm ‹_›
    · split at hfile <;> cases hfile
  · rename_i hweb
    extract_lets slashes absolute at h
    split at h
    · rename_i _ base
      split at h
      · rename_i hsame
        simp only [Bool.and_eq_true, decide_eq_true_eq] at hsame
        have hbase := hb base rfl
        obtain ⟨parts, hp⟩ := hbase.rooted (hsame.2 ▸ hweb)
        rw [← hsame.2]
        exact neat_relative hbase hp h
      · exact neat_afterSlashes hs h
    · exact neat_afterSlashes hs h
  · rename_i hother
    split at h
    · exact neat_afterSlashes hs h
    · split at h
      rename_i front query? fragment? hcut
      obtain ⟨hq, hf, hwhole⟩ := solid_cutQuery hcut
      split at h
      · cases h
        exact ⟨rfl, neat_of_segments hs rfl (walkText_ne_nil _ [] _) (solid_walk nofun) hq hf⟩
      · cases h
        refine ⟨rfl, hs, ?_, nofun, ?_, fun _ => rfl, hq, hf⟩
        · rintro hweb
          exact absurd (hweb.symm.trans hother) nofun
        · rintro _ ⟨⟩ hq hf
          rw [hwhole hq hf]
          exact trimEnd_percentEncode hrest

theorem getLast?_rest {c : Char} (h : scheme? (clean cs) = some (scheme, rest))
    (hc : c ∈ rest.getLast?) : 0x20 < c.toNat := by
  obtain ⟨⟨head, hcs, -⟩, -⟩ := scheme?_eq_some h
  obtain ⟨before, rfl⟩ := List.getLast?_eq_some_iff.mp hc
  have hclean : c ∈ (clean cs).getLast? := by
    rw [hcs, List.getLast?_append_of_ne_nil _ (List.cons_ne_nil _ _), ← List.cons_append,
      List.getLast?_concat]
    rfl
  exact getLast?_clean hclean

theorem solid_scheme (h : scheme? cs = some (scheme, rest)) : Solid scheme := fun c hc =>
  ((scheme?_eq_some h).2 c hc).1

theorem parse_eq_ok {s : String} (h : parse s = .ok u) :
    (∃ rest, scheme? (clean s.toList) = some (u.scheme, rest)) ∧ u.Neat := by
  unfold parse at h
  split at h
  · rename_i scheme rest hs
    obtain ⟨rfl, hneat⟩ := neat_ofScheme (by rintro _ ⟨⟩) (solid_scheme hs) (fun c => getLast?_rest hs) h
    exact ⟨⟨rest, hs⟩, hneat⟩
  · cases h

theorem join_eq_ok {s : String} (hb : base.Neat) (h : base.join s = .ok u) :
    u.scheme = ((scheme? (clean s.toList)).map (·.1)).getD base.scheme ∧ u.Neat := by
  unfold join at h
  extract_lets cs at h
  split at h
  · rename_i scheme rest hs
    rw [hs]
    exact neat_ofScheme (by rintro _ ⟨⟩; exact hb) (solid_scheme hs) (fun c => getLast?_rest hs) h
  · rename_i hs
    rw [hs]
    split at h
    · rename_i fragment hp _
      cases h
      refine ⟨rfl, hb.scheme, hb.rooted, hb.segments, nofun, hb.authority, hb.query, ?_⟩
      rintro _ ⟨⟩
      exact solid_percentEncode (by decide)
    · cases h
    · exact neat_relative hb ‹base.path = _› h

end Reading

end Url

end InfraTemplate
