import InfraTemplate.Proofs.SchemeSelection
import InfraTemplate.Proofs.UrlText

namespace InfraTemplate

namespace Url

open Text

theorem clean_eq_self {cs : List Char} (h : ∀ c ∈ cs, 0x20 < c.toNat) : clean cs = cs := by
  have hinner (ds : List Char) (hds : ∀ c ∈ ds, 0x20 < c.toNat) :
      ds.dropWhile (fun c => c.toNat ≤ 0x20) = ds :=
    dropWhile_of_head? fun c hc =>
      decide_eq_false (Nat.not_le.mpr (hds c (List.mem_of_mem_head? hc)))
  have hreverse := hinner cs.reverse fun c hc => h c (List.mem_reverse.mp hc)
  rw [clean]
  dsimp only
  rw [hinner cs h, hreverse, List.reverse_reverse]
  exact List.filter_eq_self.mpr fun c hc => kept_of_visible (h c hc)

theorem clean_append {head : List Char} (hne : head ≠ []) (h : ∀ c ∈ head, 0x20 < c.toNat)
    (rest : List Char) : ∃ rest', clean (head ++ rest) = head ++ rest' := by
  unfold clean
  extract_lets outer
  have hvisible : ∀ c ∈ head, decide (outer c) = false :=
    fun c hc => decide_eq_false (Nat.not_le.mpr (h c hc))
  have hstart : (head ++ rest).dropWhile outer = head ++ rest := by
    obtain ⟨c, head, rfl⟩ := List.exists_cons_of_ne_nil hne
    refine dropWhile_of_head? fun d hd => hvisible d ?_
    exact Option.some.inj hd ▸ List.mem_cons_self ..
  have hend : (head ++ rest).reverse.dropWhile outer = rest.reverse.dropWhile outer ++ head.reverse := by
    have hlast : head.reverse.dropWhile outer = head.reverse :=
      dropWhile_of_head? fun c hc => hvisible c (List.mem_reverse.mp (List.mem_of_mem_head? hc))
    rw [List.reverse_append, List.dropWhile_append]
    split
    · rename_i he
      rw [List.isEmpty_iff.mp he, hlast, List.nil_append]
    · rfl
  rw [hstart, hend, List.reverse_append, List.reverse_reverse, List.filter_append,
    List.filter_eq_self.mpr fun c hc => kept_of_visible (h c hc)]
  exact ⟨_, rfl⟩

theorem clean_of_visible {head : List Char} (h : ∀ c ∈ head, 0x20 < c.toNat) (rest : List Char) :
    ∃ rest', clean (head ++ ':' :: rest) = head ++ ':' :: rest' := by
  have hcolon : ∀ c ∈ head ++ [':'], 0x20 < c.toNat := by
    intro c hc
    rcases List.mem_append.mp hc with hc | hc
    · exact h c hc
    · rw [List.mem_singleton.mp hc]
      decide
  have hclean := clean_append (List.append_ne_nil_of_right_ne_nil _ (List.cons_ne_nil ':' [])) hcolon rest
  simpa using hclean

end Url

namespace Location

open Text

variable {target base : String} {s : Scheme} {l remote : Location}

/-- The target has no scheme by its prefix but one as a URL, which is not that of the remote document
it is in. -/
def Departs (target base : String) : Prop :=
  IsBare (trimText target) ∧ ∃ s, RemoteAt base s ∧ ∃ named rest,
    Url.scheme? (Url.clean (trimText target).toList) = some (named, rest) ∧ named ≠ s.name.toList

theorem prefixed_name (s : Scheme) (rest : String) : Prefixed (s.name ++ ":" ++ rest) s.name rest := by
  have hchars : s.name.toList.all isSchemeChar = true := by cases s <;> rfl
  refine ⟨by cases s <;> decide, fun c hc => ?_, rfl⟩
  exact isSchemeChar_iff.mp (List.all_eq_true.mp hchars c hc)

structure Legible (l : Location) : Prop where
  named : ∃ rest, Prefixed l.text l.scheme.name rest ∧ (l.scheme.isRemote = false → rest = l.path)
  trimmed : trimText l.text = l.text

theorem Legible.resolve_text (h : Legible l) : resolve l.text "-" = .ok ⟨l.scheme, l.path, none⟩ := by
  obtain ⟨rest, hp, hrest⟩ := h.named
  have hs : splitScheme (trimText l.text) = .ok (some (l.scheme, rest)) := by
    rw [h.trimmed]
    exact splitScheme_of_known hp
  have hbase : remoteBase? "-" = none := rfl
  have hdir : (ofDocument? "-").bind directoryOf = none := rfl
  rw [resolve_of_explicit hs, hbase, hdir, h.trimmed]
  cases hr : l.scheme.isRemote with
  | true =>
    have hpath : l.text = l.path := if_pos hr
    simp [hpath]
  | false =>
    have hjoin : LocalPath.join none l.path = l.path := rfl
    simp [hrest hr, hjoin]

theorem legible_of_local (hr : l.scheme.isRemote = false)
    (ht : trimEnd l.path.toList = l.path.toList) : Legible l := by
  have htext : l.text = l.scheme.name ++ ":" ++ l.path := if_neg (by rw [hr]; decide)
  refine ⟨⟨l.path, htext ▸ prefixed_name .., fun _ => rfl⟩, ?_⟩
  have hend : trimEnd l.text.toList = l.text.toList := by
    rw [htext, String.toList_append]
    refine trimEnd_append (fun _ => ?_) ht
    rw [String.toList_append]
    exact trimEnd_append nofun rfl
  have hstart : trimStart l.text.toList = l.text.toList := by
    rw [htext, String.toList_append, String.toList_append, List.append_assoc]
    cases l.scheme <;> exact trimStart_cons (by decide) _
  rw [trimText, trim, hstart, hend, String.ofList_toList]

theorem legible_of_remote (hr : l.scheme.isRemote = true) {rest : String}
    (hp : Prefixed l.path l.scheme.name rest) (ht : trimText l.path = l.path) : Legible l := by
  have htext : l.text = l.path := if_pos hr
  refine ⟨⟨rest, htext ▸ hp, fun hn => ?_⟩, htext ▸ ht⟩
  rw [hr] at hn
  cases hn

theorem trimEnd_trimText (text : String) :
    trimEnd (trimText text).toList = (trimText text).toList := by
  rw [trimText, String.toList_ofList]
  exact List.rdropWhile_idempotent _ _

theorem trimEnd_of_prefixed {text head rest : String} (h : Prefixed (trimText text) head rest) :
    trimEnd rest.toList = rest.toList := by
  have htext := trimEnd_trimText text
  have hcolon : isBlank ':' = false := by decide
  have hrest : ":".toList ++ rest.toList = ':' :: rest.toList := rfl
  rw [h.2.2, String.toList_append, String.toList_append, List.append_assoc, hrest,
    trimEnd_append_cons hcolon] at htext
  exact (List.cons_inj_right ':').mp (List.append_cancel_left htext)

theorem trimEnd_join (dir? : Option String) {path : String}
    (h : trimEnd path.toList = path.toList) :
    trimEnd (LocalPath.join dir? path).toList = (LocalPath.join dir? path).toList := by
  cases dir? with
  | none => exact h
  | some dir =>
    cases habs : LocalPath.isAbsolute path with
    | true => rwa [LocalPath.join_of_absolute habs]
    | false =>
      rw [LocalPath.join_of_relative habs, String.toList_append]
      refine trimEnd_append (fun _ => ?_) h
      rw [String.toList_append]
      split
      · rename_i hslash
        obtain ⟨before, hdir⟩ := List.getLast?_eq_some_iff.mp hslash
        rw [hdir, String.toList_empty, List.append_nil]
        exact trimEnd_append nofun rfl
      · exact trimEnd_append nofun rfl

section Remote

theorem remoteBase?_eq_some (h : remoteBase? base = some remote) :
    RemoteAt base remote.scheme ∧ remote.path = base := by
  obtain ⟨s, hs⟩ := isRemoteBase_iff.mp ((isSome_remoteBase? base).mp (by rw [h]; rfl))
  obtain ⟨rest, hp⟩ := hs.2
  obtain ⟨hdoc, -⟩ := Option.filter_eq_some_iff.mp h
  rw [ofDocument?_of_known hp] at hdoc
  cases hdoc
  exact ⟨hs, if_pos (isRemote_iff.mpr hs.1)⟩

theorem RemoteAt.unique {r : Scheme} (hs : RemoteAt base s) (hr : RemoteAt base r) : s = r := by
  obtain ⟨-, rest, hp⟩ := hs
  obtain ⟨-, rest', hp'⟩ := hr
  have he := (splitScheme_of_known hp).symm.trans (splitScheme_of_known hp')
  cases he
  rfl

theorem RemoteAt.scheme? (h : RemoteAt base s) :
    ∃ rest, Url.scheme? (Url.clean base.toList) = some (s.name.toList, rest) := by
  obtain ⟨hr, rest, hp⟩ := h
  have hvisible : s.name.toList.all (fun c => 0x20 < c.toNat) = true := by cases s <;> rfl
  obtain ⟨rest', hclean⟩ := Url.clean_of_visible (by simpa using hvisible) rest.toList
  refine ⟨rest', ?_⟩
  rw [hp.2.2, String.toList_append, String.toList_append, List.append_assoc]
  rw [show ":".toList ++ rest.toList = ':' :: rest.toList from rfl, hclean]
  rcases hr with rfl | rfl | rfl <;> rfl

theorem scheme_of_joined {url joined : Url} (hb : RemoteAt base s) (hurl : Url.parse base = .ok url)
    (hj : url.join target = .ok joined) : joined.Neat ∧ ':' ∉ joined.scheme ∧
      (joined.scheme = s.name.toList ↔ ∀ named rest,
        Url.scheme? (Url.clean target.toList) = some (named, rest) → named = s.name.toList) := by
  obtain ⟨⟨rest, hscheme⟩, hneat⟩ := Url.parse_eq_ok hurl
  obtain ⟨rest', hbase⟩ := hb.scheme?
  have hname : url.scheme = s.name.toList :=
    (Prod.mk.inj (Option.some.inj (hscheme.symm.trans hbase))).1
  obtain ⟨hjoined, hneat'⟩ := Url.join_eq_ok hneat hj
  refine ⟨hneat', ?_, ?_⟩
  · cases hs : Url.scheme? (Url.clean target.toList) with
    | none =>
      rw [hjoined, hs, Option.map_none, Option.getD_none]
      exact fun hc => ((Url.scheme?_eq_some hscheme).2 _ hc).2 rfl
    | some p =>
      rw [hjoined, hs, Option.map_some, Option.getD_some]
      exact fun hc => ((Url.scheme?_eq_some hs).2 _ hc).2 rfl
  · rw [hjoined, hname]
    cases Url.scheme? (Url.clean target.toList) with
    | none => simp
    | some p => simp [Prod.ext_iff]

end Remote

theorem resolve_cases (h : resolve target base = .ok l) :
    (∃ rest, Prefixed (trimText target) l.scheme.name rest ∧ l.path =
      if l.scheme.isRemote then trimText target
      else if l.scheme = .file then LocalPath.join ((ofDocument? base).bind directoryOf) rest
      else rest) ∨
    (IsBare (trimText target) ∧ remoteBase? base = none ∧ l.scheme = .file ∧
      l.path = LocalPath.join ((ofDocument? base).bind directoryOf) (trimText target)) ∨
    ∃ url joined, IsBare (trimText target) ∧ RemoteAt base l.scheme ∧ Url.parse base = .ok url ∧
      url.join (trimText target) = .ok joined ∧ l.path = joined.text := by
  cases hs : splitScheme (trimText target) with
  | error e =>
    rw [resolve_of_error hs] at h
    cases h
  | ok found =>
    cases found with
    | some p =>
      obtain ⟨scheme, rest⟩ := p
      rw [resolve_of_explicit hs] at h
      split at h
      · cases h
      · cases h
        exact .inl ⟨rest, splitScheme_eq_some.mp hs, rfl⟩
    | none =>
      have hbare : IsBare (trimText target) := splitScheme_eq_none.mp hs
      cases hb : remoteBase? base with
      | none =>
        rw [resolve_relative_of_local hs hb] at h
        cases h
        exact .inr (.inl ⟨hbare, rfl, rfl, rfl⟩)
      | some remote =>
        obtain ⟨hat, hpath⟩ := remoteBase?_eq_some hb
        rw [remoteBase?] at hb
        unfold resolve at h
        simp only [hs, hb] at h
        obtain ⟨found, hfound, h⟩ := bind_eq_ok.mp h
        cases hfound
        obtain ⟨url, hurl, h⟩ := bind_eq_ok.mp h
        obtain ⟨joined, hjoined, h⟩ := bind_eq_ok.mp h
        cases h
        exact .inr (.inr ⟨url, joined, hbare, hat, hpath ▸ mapError_eq_ok.mp hurl,
          mapError_eq_ok.mp hjoined, rfl⟩)

theorem legible_of_explicit {rest : String} (hp : Prefixed (trimText target) l.scheme.name rest)
    (hpath : l.path = if l.scheme.isRemote then trimText target
      else if l.scheme = .file then LocalPath.join ((ofDocument? base).bind directoryOf) rest
      else rest) : Legible l := by
  have hrest := trimEnd_of_prefixed hp
  cases hr : l.scheme.isRemote with
  | true =>
    rw [if_pos hr] at hpath
    exact legible_of_remote hr (hpath ▸ hp) (hpath ▸ trimText_trimText target)
  | false =>
    rw [if_neg (by rw [hr]; decide)] at hpath
    refine legible_of_local hr ?_
    rw [hpath]
    split
    · exact trimEnd_join _ hrest
    · exact hrest

theorem legible_of_bare (hfile : l.scheme = .file)
    (hpath : l.path = LocalPath.join ((ofDocument? base).bind directoryOf) (trimText target)) :
    Legible l := by
  refine legible_of_local (by rw [hfile]; rfl) ?_
  rw [hpath]
  exact trimEnd_join _ (trimEnd_trimText target)

theorem prefixed_text_iff {u : Url} (hcolon : ':' ∉ u.scheme) :
    (∃ rest, Prefixed u.text s.name rest) ↔ u.scheme = s.name.toList := by
  obtain ⟨rest, htext⟩ := u.toList_text
  constructor
  · rintro ⟨rest', hp⟩
    have hsplit := hp.splitFirst
    rw [htext, splitFirst_of_not_mem hcolon] at hsplit
    exact (Prod.mk.inj (Option.some.inj hsplit)).1
  · intro hs
    refine ⟨String.ofList rest, ?_⟩
    have he : u.text = s.name ++ ":" ++ String.ofList rest := by
      rw [← String.toList_inj, htext, hs]
      simp
    exact he ▸ prefixed_name ..

/-- A location that is shown is read as the same scheme and path again, exactly if its target does
not depart from the document it is in. -/
theorem resolve_text_iff (h : resolve target base = .ok l) :
    (∃ l', resolve l.text "-" = .ok l' ∧ l'.scheme = l.scheme ∧ l'.path = l.path) ↔
      ¬Departs target base := by
  have legible (hl : Legible l) :
      ∃ l', resolve l.text "-" = .ok l' ∧ l'.scheme = l.scheme ∧ l'.path = l.path :=
    ⟨_, hl.resolve_text, rfl, rfl⟩
  rcases resolve_cases h with ⟨rest, hp, hpath⟩ | ⟨-, hlocal, hfile, hpath⟩ |
    ⟨url, joined, hbare, hat, hurl, hjoined, hpath⟩
  · exact iff_of_true (legible (legible_of_explicit hp hpath)) fun hd => hd.1 _ _ hp
  · refine iff_of_true (legible (legible_of_bare hfile hpath)) ?_
    rintro ⟨-, s, hs, -⟩
    obtain ⟨remote, hremote, -⟩ := remoteBase?_of_remoteAt hs
    rw [hlocal] at hremote
    cases hremote
  · obtain ⟨hneat, hcolon, hkept⟩ := scheme_of_joined hat hurl hjoined
    have hr := isRemote_iff.mpr hat.1
    by_cases hs : joined.scheme = l.scheme.name.toList
    · obtain ⟨rest, hp⟩ := (prefixed_text_iff hcolon).mpr hs
      have hl : Legible l := legible_of_remote hr (hpath ▸ hp) (hpath ▸ hneat.trimText_text)
      refine iff_of_true (legible hl) ?_
      rintro ⟨-, s, hs', named, rest', hnamed, hne⟩
      obtain rfl := hat.unique hs'
      exact hne (hkept.mp hs named rest' hnamed)
    · refine iff_of_false ?_ ?_
      · rintro ⟨l', hl', hscheme, -⟩
        have htext : trimText l.text = joined.text := by
          rw [show l.text = l.path from if_pos hr, hpath, hneat.trimText_text]
        rcases resolve_cases hl' with ⟨rest, hp, -⟩ | ⟨-, -, hfile, -⟩ | ⟨-, -, -, hat', -⟩
        · rw [htext, hscheme] at hp
          exact hs ((prefixed_text_iff hcolon).mp ⟨rest, hp⟩)
        · rw [← hscheme, hfile] at hr
          cases hr
        · obtain ⟨remote, hremote, -⟩ := remoteBase?_of_remoteAt hat'
          cases hremote
      · intro hd
        refine hs (hkept.mpr fun named rest hnamed => ?_)
        by_contra hne
        exact hd ⟨hbare, _, hat, named, rest, hnamed, hne⟩

theorem ok_of_toOption {ε α : Type} {m : Except ε α} {a : α} (h : m.toOption = some a) :
    m = .ok a := by
  cases m <;> cases h
  rfl

-- A relative target that is written in another way once it is joined.
theorem resolve_text_iff_page :
    ∃ l, resolve "../ b.yaml?v=1" "https://e/a/b/c.yaml" = .ok l ∧
      l.text = "https://e/a/%20b.yaml?v=1" ∧ ¬Departs "../ b.yaml?v=1" "https://e/a/b/c.yaml" ∧
      ∃ l', resolve l.text "-" = .ok l' ∧ l'.scheme = l.scheme ∧ l'.path = l.path := by
  have hl : resolve "../ b.yaml?v=1" "https://e/a/b/c.yaml" =
      .ok ⟨.https, "https://e/a/%20b.yaml?v=1", none⟩ := ok_of_toOption (by decide +kernel)
  have hd : ¬Departs "../ b.yaml?v=1" "https://e/a/b/c.yaml" := by
    rintro ⟨-, -, -, named, rest, hnamed, -⟩
    have hnone : Url.scheme? (Url.clean (trimText "../ b.yaml?v=1").toList) = none := by
      decide +kernel
    rw [hnone] at hnamed
    cases hnamed
  exact ⟨_, hl, rfl, hd, (resolve_text_iff hl).mpr hd⟩

theorem shown_location_departs :
    ∃ l l', resolve "HTTPS://e/u.yaml" "s3://b/t.yaml" = .ok l ∧ resolve l.text "-" = .ok l' ∧
      l'.path = l.path ∧ l.scheme = .s3 ∧ l'.scheme = .https :=
  ⟨⟨.s3, "https://e/u.yaml", none⟩, ⟨.https, "https://e/u.yaml", none⟩,
    ok_of_toOption (by decide +kernel), ok_of_toOption (by decide +kernel), rfl, rfl, rfl⟩

end Location

end InfraTemplate
