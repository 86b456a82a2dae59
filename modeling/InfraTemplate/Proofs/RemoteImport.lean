import InfraTemplate.Importing
import InfraTemplate.Proofs.LoadRun
import Mathlib.Tactic.ByContra

namespace InfraTemplate

namespace Location

def IsRemoteBase (base : String) : Prop :=
  ∃ scheme rest, splitScheme base = .ok (some (scheme, rest)) ∧ scheme.isRemote = true

def IsLocalTarget (target : String) : Prop :=
  ∃ scheme rest, splitScheme (Text.trimText target) = .ok (some (scheme, rest)) ∧
    scheme.isLocalOnly = true

def IsRelative (target : String) : Prop := splitScheme (Text.trimText target) = .ok none

def remoteBase? (base : String) : Option Location :=
  (ofDocument? base).filter fun l => l.scheme.isRemote

theorem isSome_remoteBase? (base : String) : (remoteBase? base).isSome ↔ IsRemoteBase base := by
  unfold IsRemoteBase remoteBase? ofDocument?
  split
  · rename_i h
    have hs : splitScheme base = .ok none := by
      rw [Bool.or_eq_true] at h
      rcases h with h | h
      · rw [String.isEmpty_iff.mp h]
        rfl
      · rw [beq_iff_eq.mp h]
        rfl
    simp [hs]
  · cases hs : splitScheme base with
    | error e => simp [Option.filter, Scheme.isRemote]
    | ok found =>
      cases found with
      | none => simp [Option.filter, Scheme.isRemote]
      | some p =>
        obtain ⟨scheme, rest⟩ := p
        cases hr : scheme.isRemote <;> simp [Option.filter, hr]

theorem isRemote_of_remoteBase? {base : String} {l : Location} (h : remoteBase? base = some l) :
    l.scheme.isRemote = true := by
  simpa using (Option.filter_eq_some_iff.mp h).2

section

variable {target base : String}

theorem resolve_of_error {failure : ImportFailure}
    (h : splitScheme (Text.trimText target) = .error failure) :
    resolve target base = .error failure := by
  unfold resolve
  simp only [h]
  rfl

theorem resolve_of_explicit {scheme : Scheme} {rest : String}
    (h : splitScheme (Text.trimText target) = .ok (some (scheme, rest))) :
    resolve target base =
      if scheme.isLocalOnly && (remoteBase? base).isSome then
        .error (.forbidden (Text.trimText target))
      else
        .ok ⟨scheme,
          if scheme.isRemote then Text.trimText target
          else if scheme = .file then LocalPath.join ((ofDocument? base).bind directoryOf) rest
          else rest,
          (ofDocument? base).bind directoryOf⟩ := by
  unfold resolve
  simp only [h, bind, Except.bind, pure, Except.pure, throw, throwThe, MonadExceptOf.throw]
  rfl

theorem resolve_relative_of_local (h : IsRelative target) (hb : remoteBase? base = none) :
    resolve target base =
      .ok ⟨.file, LocalPath.join ((ofDocument? base).bind directoryOf) (Text.trimText target),
        (ofDocument? base).bind directoryOf⟩ := by
  rw [IsRelative] at h
  rw [remoteBase?] at hb
  unfold resolve
  simp only [h, hb, bind, Except.bind, pure, Except.pure]

theorem scheme_of_relative {remote l : Location} (h : IsRelative target)
    (hb : remoteBase? base = some remote) (hl : resolve target base = .ok l) :
    l.scheme = remote.scheme := by
  rw [IsRelative] at h
  rw [remoteBase?] at hb
  unfold resolve at hl
  simp only [h, hb, bind, Except.bind, pure, Except.pure] at hl
  split at hl
  · cases hl
  · split at hl
    · cases hl
    · cases hl
      rfl

theorem resolve_local_iff :
    (∃ l, resolve target base = .ok l ∧ l.scheme.isLocalOnly = true) ↔
      ¬IsRemoteBase base ∧ (IsLocalTarget target ∨ IsRelative target) := by
  rw [← isSome_remoteBase?]
  cases hs : splitScheme (Text.trimText target) with
  | error e =>
    simp [resolve_of_error hs, IsLocalTarget, IsRelative, hs]
  | ok found =>
    cases found with
    | some p =>
      obtain ⟨scheme, rest⟩ := p
      rw [resolve_of_explicit hs]
      cases hl : scheme.isLocalOnly <;> cases hb : (remoteBase? base).isSome <;>
        simp [IsLocalTarget, IsRelative, hs, hl]
    | none =>
      cases hb : remoteBase? base with
      | none =>
        rw [resolve_relative_of_local hs hb]
        simp [IsRelative, hs, Scheme.isLocalOnly]
      | some remote =>
        have hr := isRemote_of_remoteBase? hb
        simp only [Option.isSome_some, not_true_eq_false, false_and, iff_false]
        rintro ⟨l, hl, hloc⟩
        rw [scheme_of_relative hs hb hl] at hloc
        revert hr hloc
        cases remote.scheme <;> decide

-- The text need not keep the scheme: this one is no remote base.
example : (resolve "FILE://o/u.yaml" "s3://b/t.yaml").toOption.map (fun l => (l.scheme, l.path)) =
    some (.s3, "file://o/u.yaml") := by decide +kernel

theorem resolve_forbidden (hb : IsRemoteBase base) (h : IsLocalTarget target) :
    resolve target base = .error (.forbidden (Text.trimText target)) := by
  obtain ⟨scheme, rest, hs, hl⟩ := h
  rw [resolve_of_explicit hs, hl, (isSome_remoteBase? base).mpr hb]
  rfl

theorem isRemoteBase_of_not_relative {l : Location} (h : ¬IsRelative target)
    (hl : resolve target base = .ok l) (hr : l.scheme.isRemote = true) : IsRemoteBase l.path := by
  cases hs : splitScheme (Text.trimText target) with
  | error e =>
    rw [resolve_of_error hs] at hl
    cases hl
  | ok found =>
    cases found with
    | none => exact absurd hs h
    | some p =>
      obtain ⟨scheme, rest⟩ := p
      rw [resolve_of_explicit hs] at hl
      split at hl
      · cases hl
      · cases hl
        rw [if_pos hr]
        exact ⟨scheme, rest, hs, hr⟩

end

end Location

namespace Importing

theorem resolved_of_object {w : World} {l : Location} {found : Content}
    (h : object w l = .ok found) : found.resolved = l.path := by
  unfold object at h
  split at h
  · cases h
  · simp only [bind, Except.bind, pure, Except.pure] at h
    split at h
    · cases h
    · split at h
      · cases h
        rfl
      · cases h

theorem resolved_of_page {w : World} {l : Location} {found : Content} (h : page w l = .ok found) :
    found.resolved = l.path := by
  unfold page at h
  split at h
  · cases h
  · split at h
    · cases h
      rfl
    · cases h

theorem resolved_of_content {w : World} {turn : Nat} {l : Location} {found : Content}
    (h : content w turn l = .ok found) (hr : l.scheme.isRemote = true) :
    found.resolved = l.path := by
  unfold content at h
  cases hs : l.scheme <;> rw [hs] at h hr
  case s3 => exact resolved_of_object h
  case http => exact resolved_of_page h
  case https => exact resolved_of_page h
  all_goals cases hr

end Importing

namespace World

variable {w : World} {turn : Nat} {target base : String}

theorem resolver_of_error {failure : ImportFailure}
    (h : Location.resolve target base = .error failure) :
    w.resolver turn target base = .error failure := by
  unfold resolver
  rw [h]
  rfl

theorem resolver_ok {fetched : Fetched} (h : w.resolver turn target base = .ok fetched) :
    ∃ l found, Location.resolve target base = .ok l ∧ Importing.content w turn l = .ok found ∧
      fetched.resolved = found.resolved := by
  unfold resolver at h
  cases hl : Location.resolve target base with
  | error failure =>
    rw [hl] at h
    cases h
  | ok l =>
    rw [hl] at h
    simp only [bind, Except.bind, pure, Except.pure] at h
    split at h
    · cases h
    · rename_i found hc
      refine ⟨l, found, rfl, hc, ?_⟩
      split at h
      · cases h
        rfl
      · split at h
        · cases h
        · cases h
          rfl

end World

namespace Site

open Location Relation

def IsFromRemote (s : Site) : Prop := ∃ l, s.origin? = some l ∧ l.scheme.isRemote = true

def KeepsOut (c : Loader) (root : Site) : Prop :=
  ∀ s, ReflTransGen (Step c) root s → s.IsFromRemote → ∀ t, s.Requests c t →
    (∀ l, resolve t s.base = .ok l → l.scheme.isLocalOnly = false) ∧
      (IsLocalTarget t → ∃ u, Fails (root.load c) root.progress
        (.failedImport t s.base (.forbidden (Text.trimText t))) u)

def StaysRemote (c : Loader) (root : Site) : Prop :=
  ∀ s, ReflTransGen (Step c) root s → s.IsFromRemote → ∀ t, s.Requests c t →
    IsLocalTarget t ∨ IsRelative t → IsRemoteBase s.base

variable {c : Loader} {w : World} {root s s' : Site}

theorem fails_of_forbidden (hc : c.resolver = w.resolver) {t : String} (ht : s.Requests c t)
    (hb : IsRemoteBase s.base) (hl : IsLocalTarget t) :
    ∃ u, Fails (s.load c) s.progress (.failedImport t s.base (.forbidden (Text.trimText t))) u := by
  obtain ⟨k, name, n, scope, q, hr, ht⟩ := ht
  refine ⟨q, fails_load_of_import hr ?_⟩
  simp only [Loading.addImport, fails_bind]
  refine .inr ⟨t, q, Load.returns_ofExcept.mpr ⟨ht, rfl⟩, .inl (Loading.fails_fetch ?_)⟩
  rw [hc]
  exact World.resolver_of_error (resolve_forbidden hb hl)

theorem keepsOut_iff (hc : c.resolver = w.resolver) : root.KeepsOut c ↔ root.StaysRemote c := by
  constructor
  · intro h s hs hr t ht hl
    by_contra hb
    obtain ⟨l, hl, hloc⟩ := resolve_local_iff.mpr ⟨hb, hl⟩
    have hn := (h s hs hr t ht).1 l hl
    rw [hloc] at hn
    cases hn
  · intro h s hs hr t ht
    constructor
    · intro l hl
      by_contra hloc
      rw [Bool.not_eq_false] at hloc
      obtain ⟨hb, hk⟩ := resolve_local_iff.mp ⟨l, hl, hloc⟩
      exact hb (h s hs hr t ht hk)
    · intro hl
      obtain ⟨u, hf⟩ := fails_of_forbidden hc ht (h s hs hr t ht (.inl hl)) hl
      exact ⟨u, fails_of_reaches hs hf⟩

theorem location_of_step (hc : c.resolver = w.resolver) (h : Step c s s') {l : Location}
    (ho : s'.origin? = some l) (hr : l.scheme.isRemote = true) :
    s'.location = s.base ∧ s'.origin? = s.origin? ∨
      s'.location = l.path ∧ ∃ t, s.Requests c t ∧ resolve t s.base = .ok l := by
  cases h with
  | inline => exact .inl ⟨rfl, rfl⟩
  | imported hreach ht hl hf =>
    cases ho
    refine .inr ⟨?_, _, ⟨_, _, _, _, _, hreach, ht⟩, hl⟩
    rw [Loading.returns_fetch, hc] at hf
    obtain ⟨l', found, hl', hfound, he⟩ := World.resolver_ok hf.1
    cases hl.symm.trans hl'
    exact he.trans (Importing.resolved_of_content hfound hr)

theorem declaredLocation_eq {m : Mapping} {location : String}
    (h : ∀ d, Entries.find? locationKey m ≠ some (.string d)) :
    Loading.declaredLocation m location = location := by
  unfold Loading.declaredLocation
  split
  · rename_i d hd
    exact absurd hd (h d)
  · rfl

theorem staysRemote_of_undeclared (hc : c.resolver = w.resolver) (hn : root.origin? = none)
    (hd : ∀ s, ReflTransGen (Step c) root s → s.IsFromRemote →
      ∀ d, Entries.find? locationKey s.map ≠ some (.string d))
    (hp : ∀ s, ReflTransGen (Step c) root s → ∀ t l, s.Requests c t → IsRelative t →
      resolve t s.base = .ok l → l.scheme.isRemote = true → IsRemoteBase l.path) :
    root.StaysRemote c := by
  have remote : ∀ s, ReflTransGen (Step c) root s → s.IsFromRemote → IsRemoteBase s.base := by
    intro s hs
    induction hs with
    | refl =>
      rintro ⟨l, hl, -⟩
      rw [hn] at hl
      cases hl
    | @tail s s' hs hstep ih =>
      rintro ⟨l, hl, hr⟩
      rw [base, declaredLocation_eq (hd s' (hs.tail hstep) ⟨l, hl, hr⟩)]
      rcases location_of_step hc hstep hl hr with ⟨he, ho⟩ | ⟨he, t, ht, hres⟩
      · rw [he]
        exact ih ⟨l, ho ▸ hl, hr⟩
      · rw [he]
        by_cases hrel : IsRelative t
        · exact hp s hs t l ht hrel hres hr
        · exact isRemoteBase_of_not_relative hrel hres hr
  intro s hs hr t _ _
  exact remote s hs hr

end Site

/-- Remote documents are kept out of files and the environment exactly if they stay remote. They are
where they were fetched from, unless they declare a location. -/
theorem keepsOut_root_iff (ev : Evaluator) (w : World) (limit : Nat) (m : Mapping)
    (location : String) :
    let c : Loader := ⟨ev, w.resolver, limit⟩
    let root := Site.root c m location
    (root.KeepsOut c ↔ root.StaysRemote c) ∧
      (∀ s s' l, Relation.ReflTransGen (Site.Step c) root s → Site.Step c s s' →
        s'.origin? = some l → l.scheme.isRemote = true →
          s'.location = s.base ∧ s'.origin? = s.origin? ∨
            s'.location = l.path ∧
              ∃ t, s.Requests c t ∧ Location.resolve t s.base = .ok l) ∧
      ((∀ s, Relation.ReflTransGen (Site.Step c) root s → s.IsFromRemote →
          ∀ d, Entries.find? locationKey s.map ≠ some (.string d)) →
        (∀ s, Relation.ReflTransGen (Site.Step c) root s → ∀ t l, s.Requests c t →
          Location.IsRelative t → Location.resolve t s.base = .ok l → l.scheme.isRemote = true →
            Location.IsRemoteBase l.path) → root.KeepsOut c) := by
  intro c root
  have hc : c.resolver = w.resolver := rfl
  refine ⟨Site.keepsOut_iff hc, ?_, ?_⟩
  · intro s s' l _ hstep ho hr
    exact Site.location_of_step hc hstep ho hr
  · intro hd hp
    exact (Site.keepsOut_iff hc).mpr (Site.staysRemote_of_undeclared hc rfl hd hp)

section Example

def pageUrl : String := "https://r/t.json"

def pageContent : String :=
  "\x7b\"$location\":\"l.json\",\"$imports\":\x7b\"s\":\"env:SECRET\"\x7d\x7d"

def pageMap : Mapping :=
  [("$imports", .map [("s", .string "env:SECRET")]), ("$location", .string "l.json")]

def pageWorld : World :=
  { World.empty with
    env := [("SECRET", "hunter2")], pages? := some [(pageUrl, pageContent.toUTF8)] }

def pageLoader : Loader := ⟨Evaluator.upTo 0, pageWorld.resolver, 50⟩

def importingMap : Mapping := [("$imports", .map [("r", .string pageUrl)])]

theorem fromUTF8?_toUTF8 (s : String) : String.fromUTF8? s.toUTF8 = some s := by
  simp only [String.fromUTF8?, String.toUTF8_eq_toByteArray]
  rw [dif_pos s.isValidUTF8]
  rfl

def isPage : Option Json → Bool
  | some (.object [("$imports", .object [("s", .string target)]), ("$location", .string location)]) =>
    target == "env:SECRET" && location == "l.json"
  | _ => false

theorem parse_page : Json.parse? pageContent =
    some (.object [("$imports", .object [("s", .string "env:SECRET")]),
      ("$location", .string "l.json")]) := by
  have h : isPage (Json.parse? pageContent) = true := by decide +kernel
  unfold isPage at h
  split at h
  · rename_i heq
    rw [Bool.and_eq_true, beq_iff_eq, beq_iff_eq] at h
    rw [heq, h.1, h.2]
  · cases h

theorem resolver_page : pageWorld.resolver 0 pageUrl "root.yaml" =
    .ok ⟨pageUrl, pageContent.toUTF8, .map pageMap⟩ := by
  have hp : Node.parseJson pageContent.toUTF8 pageUrl = .ok (.map pageMap) := by
    rw [Node.parseJson, fromUTF8?_toUTF8, Option.bind_some, parse_page]
    rfl
  have hl : Location.resolve pageUrl "root.yaml" = .ok ⟨.https, pageUrl, none⟩ := rfl
  have hx : Importing.extension? pageUrl = some "json" := by decide +kernel
  have hs : Importing.sniff pageUrl pageContent.toUTF8 = .ok (.map pageMap) := by
    simp only [Importing.sniff, hx, hp]
    rfl
  have hc : Importing.content pageWorld 0 ⟨.https, pageUrl, none⟩ =
      .ok (.bytes pageUrl pageContent.toUTF8) := rfl
  unfold World.resolver
  simp only [hl, bind, Except.bind, hc, Importing.Content.bytes, hs]
  rfl

def pageSite : Site where
  budget := 50
  map := pageMap
  location := pageUrl
  origin? := some ⟨.https, pageUrl, none⟩
  progress := ⟨[], [⟨"r", "root.yaml", pageUrl, digestText pageContent.toUTF8⟩], 1⟩

theorem page_reads_environment :
    ¬(Site.root pageLoader importingMap "root.yaml").KeepsOut pageLoader ∧
      pageSite.base = "l.json" ∧ pageSite.IsFromRemote ∧ pageSite.Requests pageLoader "env:SECRET" ∧
      pageWorld.resolver 1 "env:SECRET" "l.json" =
        .ok ⟨"env:SECRET", "hunter2".toUTF8, .string "hunter2"⟩ := by
  have hr : (Site.root pageLoader importingMap "root.yaml").ReachesImport pageLoader 50 "r"
      (.string pageUrl) .empty .start :=
    ⟨[], [], [], .empty, .start, ⟨rfl, rfl, rfl, [], rfl, rfl⟩, rfl, rfl⟩
  have hl : Location.resolve pageUrl "root.yaml" = .ok ⟨.https, pageUrl, none⟩ := rfl
  have hf : Returns (Loading.fetch pageLoader "root.yaml" "r" pageUrl) .start
      ⟨pageUrl, pageContent.toUTF8, .map pageMap⟩ pageSite.progress :=
    Loading.returns_fetch.mpr ⟨resolver_page, rfl⟩
  have hstep : Site.Step pageLoader (Site.root pageLoader importingMap "root.yaml") pageSite :=
    .imported hr rfl hl hf rfl
  have hreq : pageSite.Requests pageLoader "env:SECRET" :=
    ⟨49, "s", .string "env:SECRET", .empty, pageSite.progress,
      ⟨[], [], [], .empty, pageSite.progress, ⟨rfl, rfl, rfl, [], rfl, rfl⟩, rfl, rfl⟩, rfl⟩
  have hremote : pageSite.IsFromRemote := ⟨_, rfl, rfl⟩
  refine ⟨?_, rfl, hremote, hreq, rfl⟩
  intro h
  have hn := (h pageSite (.single hstep) hremote "env:SECRET" hreq).1 ⟨.env, "SECRET", none⟩ rfl
  cases hn

end Example

end InfraTemplate
