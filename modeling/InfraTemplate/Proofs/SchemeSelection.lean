import InfraTemplate.Proofs.PayloadReading
import InfraTemplate.Proofs.RemoteImport

/-!
How the scheme of an import is chosen. Targets and documents are read by the same rule for a prefix
but differ in what they fall back to, so the rule is stated once, on any text.
-/

namespace InfraTemplate

namespace Location

def Prefixed (text head rest : String) : Prop :=
  head ≠ "" ∧ (∀ c ∈ head.toList, c.isLower = true ∨ c.isDigit = true ∨ c = '-') ∧
    text = head ++ ":" ++ rest

def IsBare (text : String) : Prop := ∀ head rest, ¬Prefixed text head rest

def RemoteAt (base : String) (s : Scheme) : Prop :=
  (s = .s3 ∨ s = .http ∨ s = .https) ∧ ∃ rest, Prefixed base s.name rest

def FileAt (base path : String) : Prop :=
  Prefixed base "file" path ∨
    base ≠ "" ∧ base ≠ "-" ∧ (∀ (s : Scheme) rest, ¬Prefixed base s.name rest) ∧ path = base

section Prefixes

variable {text head rest : String} {s : Scheme}

theorem exists_prefixed (h : ¬IsBare text) : ∃ head rest, Prefixed text head rest := by
  simpa only [IsBare, not_forall, not_not] using h

theorem isSchemeChar_iff {c : Char} :
    isSchemeChar c = true ↔ c.isLower = true ∨ c.isDigit = true ∨ c = '-' := by
  have hlower : c.isLower = ('a' ≤ c && c ≤ 'z') := rfl
  have hdigit : c.isDigit = Text.isDigit c := rfl
  rw [isSchemeChar, hlower, hdigit, Bool.or_eq_true, Bool.or_eq_true, beq_iff_eq, or_assoc]

theorem Prefixed.all_isSchemeChar (h : Prefixed text head rest) :
    head.toList.all isSchemeChar = true :=
  List.all_eq_true.mpr fun c hc => isSchemeChar_iff.mpr (h.2.1 c hc)

theorem Prefixed.splitFirst (h : Prefixed text head rest) :
    Text.splitFirst ':' text.toList = some (head.toList, rest.toList) := by
  have hcolon : ':' ∉ head.toList := fun hc =>
    absurd (List.all_eq_true.mp h.all_isSchemeChar _ hc) (by decide)
  rw [h.2.2, String.toList_append, String.toList_append, List.append_assoc]
  exact Text.splitFirst_of_not_mem hcolon rest.toList

theorem splitScheme_of_prefixed (h : Prefixed text head rest) :
    splitScheme text =
      (Scheme.ofName? head).elim (.error (.unknownScheme head)) fun s => .ok (some (s, rest)) := by
  have hne : head.toList.isEmpty = false := by
    rw [List.isEmpty_eq_false_iff]
    exact fun he => h.1 (String.toList_eq_nil_iff.mp he)
  rw [splitScheme, h.splitFirst]
  cases hs : Scheme.ofName? head <;>
    simp only [hne, h.all_isSchemeChar, Bool.not_true, Bool.or_self, Bool.false_eq_true, ↓reduceIte,
      String.ofList_toList, hs, Option.elim_none, Option.elim_some]

theorem splitScheme_of_known (h : Prefixed text s.name rest) :
    splitScheme text = .ok (some (s, rest)) := by
  rw [splitScheme_of_prefixed h, Scheme.ofName?_name, Option.elim_some]

theorem splitScheme_of_unknown (h : Prefixed text head rest) (hs : ∀ s : Scheme, s.name ≠ head) :
    splitScheme text = .error (.unknownScheme head) := by
  have hnone : Scheme.ofName? head = none := by
    cases hf : Scheme.ofName? head with
    | none => rfl
    | some s => exact absurd (Scheme.name_of_ofName? hf) (hs s)
  rw [splitScheme_of_prefixed h, hnone, Option.elim_none]

theorem splitScheme_of_bare (h : IsBare text) : splitScheme text = .ok none := by
  unfold splitScheme
  split
  · rfl
  · rename_i head rest hsplit
    split
    · rfl
    · rename_i hlooks
      rw [Bool.or_eq_true, not_or] at hlooks
      refine absurd ⟨fun he => ?_, fun c hc => ?_, ?_⟩ (h (String.ofList head) (String.ofList rest))
      · rw [← String.toList_inj, String.toList_ofList] at he
        exact hlooks.1 (by rw [he]; rfl)
      · rw [String.toList_ofList] at hc
        have hall : head.all isSchemeChar = true := by simpa using hlooks.2
        exact isSchemeChar_iff.mp (List.all_eq_true.mp hall c hc)
      · rw [← String.toList_inj, (Text.splitFirst_eq_some hsplit).1]
        simp

theorem splitScheme_eq_some :
    splitScheme text = .ok (some (s, rest)) ↔ Prefixed text s.name rest := by
  refine ⟨fun h => ?_, splitScheme_of_known⟩
  by_cases hb : IsBare text
  · rw [splitScheme_of_bare hb] at h
    cases h
  · obtain ⟨head, rest', hp⟩ := exists_prefixed hb
    rw [splitScheme_of_prefixed hp] at h
    cases hs : Scheme.ofName? head with
    | none =>
      rw [hs] at h
      cases h
    | some s' =>
      rw [hs] at h
      cases h
      rwa [Scheme.name_of_ofName? hs]

theorem splitScheme_eq_none : splitScheme text = .ok none ↔ IsBare text := by
  refine ⟨fun h head rest hp => ?_, splitScheme_of_bare⟩
  rw [splitScheme_of_prefixed hp] at h
  cases hs : Scheme.ofName? head <;> rw [hs] at h <;> cases h

end Prefixes

section Documents

variable {base : String}

theorem isRemote_iff {s : Scheme} : s.isRemote = true ↔ s = .s3 ∨ s = .http ∨ s = .https := by
  cases s <;> decide

theorem isLocalOnly_iff {s : Scheme} : s.isLocalOnly = true ↔ s = .file ∨ s = .env := by
  cases s <;> decide

theorem isRemoteBase_iff : IsRemoteBase base ↔ ∃ s, RemoteAt base s := by
  constructor
  · rintro ⟨s, rest, hs, hr⟩
    exact ⟨s, isRemote_iff.mp hr, rest, splitScheme_eq_some.mp hs⟩
  · rintro ⟨s, hr, rest, hp⟩
    exact ⟨s, rest, splitScheme_of_known hp, isRemote_iff.mpr hr⟩

theorem ofDocument?_of_known {s : Scheme} {rest : String} (h : Prefixed base s.name rest) :
    ofDocument? base = some ⟨s, if s.isRemote then base else rest, none⟩ := by
  have hs := splitScheme_of_known h
  unfold ofDocument?
  rw [if_neg, hs]
  rw [Bool.or_eq_true, String.isEmpty_iff, beq_iff_eq]
  rintro (rfl | rfl) <;> cases hs

theorem ofDocument?_of_path (hne : base ≠ "") (hin : base ≠ "-")
    (h : ∀ (s : Scheme) rest, ¬Prefixed base s.name rest) :
    ofDocument? base = some ⟨.file, base, none⟩ := by
  unfold ofDocument?
  rw [if_neg]
  · split
    · rename_i s rest hs
      exact absurd (splitScheme_eq_some.mp hs) (h s rest)
    · rfl
  · rw [Bool.or_eq_true, String.isEmpty_iff, beq_iff_eq]
    exact not_or.mpr ⟨hne, hin⟩

theorem remoteBase?_of_remoteAt {s : Scheme} (h : RemoteAt base s) :
    ∃ remote, remoteBase? base = some remote ∧ remote.scheme = s := by
  obtain ⟨hr, rest, hp⟩ := h
  refine ⟨_, Option.filter_eq_some_iff.mpr ⟨ofDocument?_of_known hp, ?_⟩, rfl⟩
  exact isRemote_iff.mpr hr

theorem remoteBase?_eq_none (h : ∀ s, ¬RemoteAt base s) : remoteBase? base = none := by
  rw [← Option.not_isSome_iff_eq_none, isSome_remoteBase?, isRemoteBase_iff]
  exact fun ⟨s, hs⟩ => h s hs

theorem fileAt_iff {path : String} :
    FileAt base path ↔ ∃ l, ofDocument? base = some l ∧ l.scheme = .file ∧ l.path = path := by
  constructor
  · rintro (hp | ⟨hne, hin, hnone, rfl⟩)
    · exact ⟨_, ofDocument?_of_known (s := .file) hp, rfl, rfl⟩
    · exact ⟨_, ofDocument?_of_path hne hin hnone, rfl, rfl⟩
  · rintro ⟨l, hl, hfile, rfl⟩
    unfold ofDocument? at hl
    split at hl
    · cases hl
    rename_i hnamed
    rw [Bool.or_eq_true, String.isEmpty_iff, beq_iff_eq, not_or] at hnamed
    split at hl
    · rename_i s rest hs
      cases hl
      obtain rfl : s = .file := hfile
      exact .inl (splitScheme_eq_some.mp hs)
    · rename_i hs
      cases hl
      exact .inr ⟨hnamed.1, hnamed.2, fun s rest hp => hs s rest (splitScheme_of_known hp), rfl⟩

theorem directoryOf_eq_some {l : Location} {dir : String} :
    directoryOf l = some dir ↔ l.scheme = .file ∧ LocalPath.directory? l.path = some dir := by
  rw [directoryOf]
  split <;> simp_all

theorem directoryOf_document {dir : String} :
    (ofDocument? base).bind directoryOf = some dir ↔
      ∃ path, FileAt base path ∧ LocalPath.directory? path = some dir := by
  simp only [Option.bind_eq_some_iff, directoryOf_eq_some, fileAt_iff]
  constructor
  · rintro ⟨l, hl, hfile, hdir⟩
    exact ⟨l.path, ⟨l, hl, hfile, rfl⟩, hdir⟩
  · rintro ⟨_, ⟨l, hl, hfile, rfl⟩, hdir⟩
    exact ⟨l, hl, hfile, hdir⟩

end Documents

structure IsSeenFrom (base given path : String) : Prop where
  relative : ∀ document dir, FileAt base document → LocalPath.directory? document = some dir →
    LocalPath.isAbsolute given = false → LocalPath.IsParent dir document ∧
      path = dir ++ (if dir.toList.getLast? = some '/' then "" else "/") ++ given
  absolute : LocalPath.isAbsolute given = true → path = given
  nowhere : (∀ document, FileAt base document → LocalPath.directory? document = none) → path = given

/-- What an import comes to, by the text of its target and that of the document's location. -/
structure Selects (text base : String) (result : Except ImportFailure Location) : Prop where
  unknown : ∀ head rest, Prefixed text head rest → (∀ s : Scheme, s.name ≠ head) →
    result = .error (.unknownScheme head)
  forbidden : ∀ (s : Scheme) rest, Prefixed text s.name rest → s = .file ∨ s = .env →
    (∃ r, RemoteAt base r) → result = .error (.forbidden text)
  explicit : ∀ (s : Scheme) rest, Prefixed text s.name rest →
    ¬((s = .file ∨ s = .env) ∧ ∃ r, RemoteAt base r) → ∃ l, result = .ok l ∧ l.scheme = s
  inherited : IsBare text → ∀ r, RemoteAt base r →
    (∃ l, result = .ok l ∧ l.scheme = r) ∨ ∃ why, result = .error (.invalidLocation why)
  bare : IsBare text → (∀ r, ¬RemoteAt base r) → ∃ l, result = .ok l ∧ l.scheme = .file
  barrier : (∃ r, RemoteAt base r) → ∀ l, result = .ok l → l.scheme ≠ .file ∧ l.scheme ≠ .env
  path : ∀ l, result = .ok l → l.scheme = .file → ∃ given,
    (Prefixed text "file" given ∨ IsBare text ∧ given = text) ∧ IsSeenFrom base given l.path

section Resolving

variable {target base : String}

theorem isSeenFrom_join (base given : String) :
    IsSeenFrom base given (LocalPath.join ((ofDocument? base).bind directoryOf) given) where
  relative document dir hfile hdir hrel := by
    rw [directoryOf_document.mpr ⟨document, hfile, hdir⟩, LocalPath.join_of_relative hrel]
    exact ⟨LocalPath.isParent_of_directory? hdir, rfl⟩
  absolute habs := LocalPath.join_of_absolute habs _
  nowhere hno := by
    have hnone : (ofDocument? base).bind directoryOf = none := by
      cases hd : (ofDocument? base).bind directoryOf with
      | none => rfl
      | some dir =>
        obtain ⟨document, hfile, hdir⟩ := directoryOf_document.mp hd
        rw [hno document hfile] at hdir
        cases hdir
    rw [hnone]
    rfl

theorem resolve_bare_of_remote (h : IsRelative target) {remote : Location}
    (hb : remoteBase? base = some remote) :
    (∃ l, resolve target base = .ok l) ∨
      ∃ why, resolve target base = .error (.invalidLocation why) := by
  rw [IsRelative] at h
  rw [remoteBase?] at hb
  unfold resolve
  simp only [h, hb, bind, Except.bind, pure, Except.pure]
  cases Url.parse remote.path with
  | error failure => exact .inr ⟨_, rfl⟩
  | ok url =>
    cases hj : url.join (Text.trimText target) with
    | error failure => simp [hj]
    | ok joined => simp [hj]

theorem path_of_resolve {l : Location} (h : resolve target base = .ok l) (hf : l.scheme = .file) :
    ∃ given, (Prefixed (Text.trimText target) "file" given ∨
        IsBare (Text.trimText target) ∧ given = Text.trimText target) ∧
      l.path = LocalPath.join ((ofDocument? base).bind directoryOf) given := by
  by_cases hbare : IsBare (Text.trimText target)
  · refine ⟨_, .inr ⟨hbare, rfl⟩, ?_⟩
    cases hb : remoteBase? base with
    | none =>
      rw [resolve_relative_of_local (splitScheme_of_bare hbare) hb] at h
      cases h
      rfl
    | some remote =>
      have hr := isRemote_of_remoteBase? hb
      rw [← scheme_of_relative (splitScheme_of_bare hbare) hb h, hf] at hr
      cases hr
  · obtain ⟨head, rest, hp⟩ := exists_prefixed hbare
    by_cases hknown : ∃ s : Scheme, s.name = head
    · obtain ⟨s, rfl⟩ := hknown
      rw [resolve_of_explicit (splitScheme_of_known hp)] at h
      split at h
      · cases h
      · cases h
        obtain rfl : s = .file := hf
        exact ⟨rest, .inl hp, rfl⟩
    · rw [resolve_of_error (splitScheme_of_unknown hp (not_exists.mp hknown))] at h
      cases h

theorem resolve_selects (target base : String) :
    Selects (Text.trimText target) base (resolve target base) where
  unknown head rest hp hs := resolve_of_error (splitScheme_of_unknown hp hs)
  forbidden s rest hp hs hb := resolve_forbidden (isRemoteBase_iff.mpr hb)
    ⟨s, rest, splitScheme_of_known hp, isLocalOnly_iff.mpr hs⟩
  explicit s rest hp hn := by
    have hif : ¬(s.isLocalOnly && (remoteBase? base).isSome) = true := by
      rwa [Bool.and_eq_true, isLocalOnly_iff, isSome_remoteBase?, isRemoteBase_iff]
    rw [resolve_of_explicit (splitScheme_of_known hp), if_neg hif]
    exact ⟨_, rfl, rfl⟩
  inherited hbare r hr := by
    obtain ⟨remote, hb, rfl⟩ := remoteBase?_of_remoteAt hr
    have hrel : IsRelative target := splitScheme_of_bare hbare
    rcases resolve_bare_of_remote hrel hb with ⟨l, hl⟩ | hwhy
    · exact .inl ⟨l, hl, scheme_of_relative hrel hb hl⟩
    · exact .inr hwhy
  bare hbare hn := by
    rw [resolve_relative_of_local (splitScheme_of_bare hbare) (remoteBase?_eq_none hn)]
    exact ⟨_, rfl, rfl⟩
  barrier hb l hl := by
    rw [← not_or]
    intro hs
    exact (resolve_local_iff.mp ⟨l, hl, isLocalOnly_iff.mpr hs⟩).1 (isRemoteBase_iff.mpr hb)
  path l hl hf := by
    obtain ⟨given, hgiven, hpath⟩ := path_of_resolve hl hf
    exact ⟨given, hgiven, hpath ▸ isSeenFrom_join base given⟩

-- A secret beside a remote document, and a file beside a local one.
theorem resolve_selects_relative :
    resolve " file:secret.yaml" "s3://b/t.yaml" = .error (.forbidden "file:secret.yaml") ∧
      ∃ l, resolve "part.yaml" "lib/main.yaml" = .ok l ∧ l.scheme = .file ∧
        l.path = "lib/part.yaml" := by
  have htext : Text.trimText " file:secret.yaml" = "file:secret.yaml" := by decide +kernel
  have hpart : Text.trimText "part.yaml" = "part.yaml" := by decide +kernel
  have hremote : RemoteAt "s3://b/t.yaml" .s3 :=
    ⟨.inl rfl, "//b/t.yaml", splitScheme_eq_some.mp rfl⟩
  have hbare : IsBare "part.yaml" := splitScheme_eq_none.mp rfl
  have hbase : IsBare "lib/main.yaml" := splitScheme_eq_none.mp rfl
  have hfile : FileAt "lib/main.yaml" "lib/main.yaml" :=
    .inr ⟨by decide, by decide, fun s => hbase s.name, rfl⟩
  have hdir : LocalPath.directory? "lib/main.yaml" = some "lib" := by decide +kernel
  constructor
  · have hs := resolve_selects " file:secret.yaml" "s3://b/t.yaml"
    rw [htext] at hs
    exact hs.forbidden .file "secret.yaml" (splitScheme_eq_some.mp rfl) (.inl rfl) ⟨_, hremote⟩
  · have hs := resolve_selects "part.yaml" "lib/main.yaml"
    rw [hpart] at hs
    obtain ⟨l, hl, hscheme⟩ := hs.bare hbare fun r hr => by
      obtain ⟨-, rest, hp⟩ := hr
      exact hbase r.name rest hp
    obtain ⟨given, hp | ⟨-, rfl⟩, hseen⟩ := hs.path l hl hscheme
    · exact absurd hp (hbare _ _)
    · exact ⟨l, hl, hscheme, (hseen.relative _ _ hfile hdir (by decide)).2⟩

end Resolving

end Location

end InfraTemplate
