import InfraTemplate.Importing
import InfraTemplate.Proofs.ShownLocation
import Mathlib.Algebra.Ring.Nat
import Mathlib.Data.Bool.AllAny

namespace InfraTemplate

namespace Url

open Text

variable {cs : List Char} {segments parts : List (List Char)}

section Walking

def size (parts : List (List Char)) : Nat := (parts.map fun p => p.length + 1).sum

theorem length_flatMap_slash (parts : List (List Char)) :
    (parts.flatMap fun p => '/' :: p).length = size parts := by
  simp [size, List.length_flatMap]

theorem size_append (a b : List (List Char)) : size (a ++ b) = size a + size b := by
  simp [size]

theorem size_le_of_prefix {front : List (List Char)} (h : front <+: parts) :
    size front ≤ size parts := by
  obtain ⟨back, rfl⟩ := h
  rw [size_append]
  exact Nat.le_add_right ..

theorem flatMap_slash_splitAll (cs : List Char) :
    ((splitAll (· == '/') cs).flatMap fun p => '/' :: p) = '/' :: cs := by
  have hjoin (w : List Char) (ws : List (List Char)) :
      ((w :: ws).flatMap fun p => '/' :: p) = '/' :: ['/'].intercalate (w :: ws) := by
    induction ws generalizing w with
    | nil => simp
    | cons v ws ih => simp [List.flatMap_cons, ih, List.intercalate_cons_cons]
  obtain ⟨w, ws, hw⟩ := List.exists_cons_of_ne_nil (splitAll_ne_nil (· == '/') cs)
  rw [hw, hjoin, ← hw, intercalate_splitAll]

-- The slash that every path begins with is dropped.
theorem length_dropWhile_slash (hne : parts ≠ []) :
    ((parts.flatMap fun p => '/' :: p).dropWhile (· == '/')).length < size parts := by
  obtain ⟨p, ps, rfl⟩ := List.exists_cons_of_ne_nil hne
  rw [← length_flatMap_slash, List.flatMap_cons, List.cons_append, List.dropWhile_cons_of_pos rfl,
    List.length_cons]
  exact Nat.lt_succ_of_le (List.dropWhile_sublist _).length_le

theorem kept_walk (h : ∀ p ∈ parts, ∀ c ∈ p, IsKept pathSet c) :
    ∀ p ∈ walk .other parts segments, ∀ c ∈ p, IsKept pathSet c := by
  induction segments generalizing parts with
  | nil => exact h
  | cons s segments ih =>
    cases hs : isDots s with
    | false =>
      rw [walk_other_of_not_isDots hs]
      refine ih fun p hp => ?_
      rcases List.mem_append.mp hp with hp | hp
      · exact h p hp
      · rw [List.mem_singleton.mp hp]
        exact fun c => isKept_of_mem_percentEncode
    | true =>
      obtain ⟨front, tail, hwalk, hfront, htail⟩ := walk_other_of_isDots hs segments
      rw [hwalk]
      refine ih fun p hp => ?_
      rcases List.mem_append.mp hp with hp | hp
      · exact h p (hfront.subset hp)
      · rcases htail with rfl | rfl
        · cases hp
        · rw [List.mem_singleton.mp hp]
          nofun

theorem walk_of_steady (hc : ∀ s ∈ segments, ∀ c ∈ s, IsKept pathSet c)
    (hs : ∀ s ∈ segments, isDots s = false) : walk .other parts segments = parts ++ segments := by
  induction segments generalizing parts with
  | nil => exact (List.append_nil parts).symm
  | cons s segments ih =>
    rw [walk_other_of_not_isDots (hs s (List.mem_cons_self ..)),
      percentEncode_eq_self (hc s (List.mem_cons_self ..)),
      ih (fun t ht => hc t (List.mem_cons_of_mem _ ht)) fun t ht => hs t (List.mem_cons_of_mem _ ht),
      List.append_assoc, List.singleton_append]

-- Each segment of dots makes the path shorter than it is written, and no other makes it longer.
theorem size_walk (hc : ∀ s ∈ segments, ∀ c ∈ s, IsKept pathSet c) :
    size (walk .other parts segments) + segments.countP isDots ≤ size parts + size segments := by
  induction segments generalizing parts with
  | nil => simp [walk, size]
  | cons s segments ih =>
    have htail := fun t ht => hc t (List.mem_cons_of_mem s ht)
    have hsegments : size (s :: segments) = s.length + 1 + size segments := by simp [size]
    cases hs : isDots s with
    | false =>
      have hrest : size (walk .other (parts ++ [s]) segments) + segments.countP isDots ≤
          size (parts ++ [s]) + size segments := ih htail
      have hs' : size [s] = s.length + 1 := by simp [size]
      rw [size_append, hs'] at hrest
      rw [walk_other_of_not_isDots hs, percentEncode_eq_self (hc s (List.mem_cons_self ..)),
        List.countP_cons_of_neg (by simp [hs]), hsegments]
      omega
    | true =>
      obtain ⟨front, tail, hwalk, hfront, hempty⟩ := walk_other_of_isDots hs segments
      have hrest : size (walk .other (front ++ tail) segments) + segments.countP isDots ≤
          size (front ++ tail) + size segments := ih htail
      have hlength : 1 ≤ s.length := List.length_pos_of_ne_nil (ne_nil_of_isDots hs)
      have hfront := size_le_of_prefix hfront
      have htail : size tail ≤ 1 := by
        rcases hempty with rfl | rfl <;> decide
      rw [size_append] at hrest
      rw [hwalk, List.countP_cons_of_pos hs, hsegments]
      omega

end Walking

section Reading

variable {host rest : List Char} {u : Url}

theorem kept_rootedPath (cs : List Char) : ∃ parts, rootedPath .other cs = .segments parts ∧
    ∀ p ∈ parts, ∀ c ∈ p, IsKept pathSet c := by
  cases cs with
  | nil => exact ⟨[], rfl, nofun⟩
  | cons c cs => exact ⟨_, rfl, kept_walk nofun⟩

theorem visible_of_isKept {c : Char} (h : IsKept pathSet c) : 0x20 < c.toNat := by
  refine Nat.lt_of_le_of_ne h.1 fun he => h.2.2 ?_
  obtain rfl : c = ' ' := Char.toNat_inj.mp he.symm
  decide

theorem visible_s3 : ∀ c ∈ "s3://".toList, 0x20 < c.toNat := by
  have hall : ("s3://".toList.all fun c => 0x20 < c.toNat) = true := rfl
  exact fun c hc => of_decide_eq_true (List.all_eq_true.mp hall c hc)

theorem parse_s3 {cs cs' : List Char} (h : clean ("s3://".toList ++ cs) = "s3://".toList ++ cs') :
    parse (String.ofList ("s3://".toList ++ cs)) = afterSlashes "s3".toList cs' := by
  have hscheme : scheme? ("s3://".toList ++ cs') = some ("s3".toList, "//".toList ++ cs') := rfl
  rw [parse, String.toList_ofList, h, hscheme]
  rfl

theorem parse_of_visible (hhost : ∀ c ∈ host, IsHostChar c) (hrest : ∀ c ∈ rest, IsKept pathSet c) :
    parse (String.ofList ("s3://".toList ++ (host ++ '/' :: rest))) = .ok
      ⟨"s3".toList, [], some (String.ofList host), none, .segments (walkText .other [] rest), none,
        none⟩ := by
  have hvisible : ∀ c ∈ "s3://".toList ++ (host ++ '/' :: rest), 0x20 < c.toNat := by
    simp only [List.forall_mem_append, List.forall_mem_cons]
    exact ⟨visible_s3, fun c hc => (hhost c hc).1, by decide, fun c hc => visible_of_isKept (hrest c hc)⟩
  have hnot {c : Char} (hc : ¬IsKept pathSet c) : c ∉ rest := fun hmem => hc (hrest c hmem)
  rw [parse_s3 (clean_eq_self hvisible)]
  exact afterSlashes_of_host rfl hhost ⟨hnot (by decide), hnot (by decide)⟩

theorem kept_of_parse (h : parse (String.ofList ("s3://".toList ++ cs)) = .ok u) :
    ∀ c ∈ u.pathText, IsKept pathSet c := by
  obtain ⟨cs', hclean⟩ := clean_append (by decide) visible_s3 cs
  rw [parse_s3 hclean] at h
  obtain ⟨rest, hpath⟩ := (hasAuthority_of_afterSlashes h).path
  obtain ⟨parts, hparts, hkept⟩ := kept_rootedPath rest
  have hother : mannerOf "s3".toList = .other := rfl
  rw [hother, hparts] at hpath
  intro c hc
  rw [pathText, hpath] at hc
  obtain ⟨p, hp, hc⟩ := List.mem_flatMap.mp hc
  rcases List.mem_cons.mp hc with rfl | hc
  · decide
  · exact hkept p hp c hc

theorem walkText_eq_iff (hc : ∀ c ∈ cs, IsKept pathSet c) (hslash : cs.head? ≠ some '/') :
    (((walkText .other [] cs).flatMap fun p => '/' :: p).dropWhile (· == '/')) = cs ↔
      ∀ s ∈ splitAll (· == '/') cs, isDots s = false := by
  have hsplit : splitAll (isSlash .other) cs = splitAll (· == '/') cs := by
    congr 1
    funext c
    simp [isSlash]
  have hsegments : ∀ s ∈ splitAll (· == '/') cs, ∀ c ∈ s, IsKept pathSet c :=
    fun s hs c hmem => hc c (mem_of_mem_splitAll hs hmem)
  rw [walkText, hsplit]
  constructor
  · intro h
    have hwalk : walk .other [] (splitAll (· == '/') cs) ≠ [] := walk_ne_nil (splitAll_ne_nil _ cs)
    have hlong := length_dropWhile_slash hwalk
    rw [h] at hlong
    have hsize : size (walk .other [] (splitAll (· == '/') cs)) +
        (splitAll (· == '/') cs).countP isDots ≤ size [] + size (splitAll (· == '/') cs) :=
      size_walk hsegments
    have hcs := congrArg List.length (flatMap_slash_splitAll cs)
    rw [length_flatMap_slash, List.length_cons] at hcs
    have hcount : (splitAll (· == '/') cs).countP isDots = 0 := by
      have hnil : size [] = 0 := rfl
      omega
    exact fun s hs => Bool.eq_false_iff.mpr (List.countP_eq_zero.mp hcount s hs)
  · intro hs
    rw [walk_of_steady hsegments hs, List.nil_append, flatMap_slash_splitAll,
      List.dropWhile_cons_of_pos rfl]
    refine dropWhile_of_head? fun c hc => ?_
    rw [beq_eq_false_iff_ne]
    rintro rfl
    exact hslash hc

end Reading

end Url

namespace Importing

structure IsBucketName (b : String) : Prop where
  chars : ∀ c ∈ b.toList, c.isLower ∨ c.isDigit ∨ c = '.' ∨ c = '-'
  first : ∃ c, b.toList.head? = some c ∧ (c.isLower ∨ c.isDigit)
  last : ∃ c, b.toList.getLast? = some c ∧ (c.isLower ∨ c.isDigit)

structure IsObjectKey (k : String) : Prop where
  nonempty : k ≠ ""
  whole : '?' ∉ k.toList ∧ '#' ∉ k.toList
  slash : k.toList.head? ≠ some '/'
  blanks : Text.trimText k = k

structure IsPathText (k : String) : Prop where
  kept : ∀ c ∈ k.toList, Url.IsKept Url.pathSet c
  steady : ∀ s ∈ Text.splitAll (· == '/') k.toList, Url.isDots s = false

def AsksStore (target base bucket key : String) : Prop :=
  ∃ l, Location.resolve target base = .ok l ∧ l.scheme = .s3 ∧ objectAddress l.path = .ok (bucket, key)

variable {b k base target bucket key : String}

theorem isHostChar_of_isBucketName (hb : IsBucketName b) : ∀ c ∈ b.toList, Url.IsHostChar c := by
  have hall : ∀ c : Char, c.toNat < 128 → c.isLower ∨ c.isDigit ∨ c = '.' ∨ c = '-' →
      Url.IsHostChar c := Text.forall_ascii (by decide +kernel)
  intro c hc
  have hchars := hb.chars c hc
  have hascii : c.toNat < 128 := by
    rcases hchars with h | h | rfl | rfl
    · change (decide ('a'.val ≤ c.val) && decide (c.val ≤ 'z'.val)) = true at h
      simp only [Bool.and_eq_true, decide_eq_true_eq] at h
      exact Nat.lt_of_le_of_lt (UInt32.le_iff_toNat_le.mp h.2) (by decide)
    · simp only [Char.isDigit, Bool.and_eq_true, decide_eq_true_eq] at h
      exact Nat.lt_of_le_of_lt (UInt32.le_iff_toNat_le.mp h.2) (by decide)
    · decide
    · decide
  exact hall c hascii hchars

theorem objectAddress_eq_ok : objectAddress target = .ok (bucket, key) ↔
    ∃ url, Url.parse target = .ok url ∧ bucket = url.host?.getD "" ∧
      key = String.ofList (url.pathText.dropWhile (· == '/')) ∧ bucket ≠ "" ∧ key ≠ "" := by
  rw [objectAddress]
  cases Url.parse target with
  | error f => simp
  | ok url =>
    simp only [Except.ok.injEq, exists_eq_left', String.isEmpty_iff]
    split
    · rename_i hbucket
      simp +contextual [hbucket]
    · split
      · rename_i hkey
        simp +contextual [hkey]
      · rename_i hbucket hkey
        constructor
        · rintro h
          cases h
          exact ⟨rfl, rfl, hbucket, hkey⟩
        · rintro ⟨rfl, rfl, -, -⟩
          rfl

theorem AsksStore.unique {bucket' key' : String} (h : AsksStore target base bucket key)
    (h' : AsksStore target base bucket' key') : bucket = bucket' ∧ key = key' := by
  obtain ⟨l, hl, -, haddress⟩ := h
  obtain ⟨l', hl', -, haddress'⟩ := h'
  obtain rfl := Except.ok.inj (hl.symm.trans hl')
  exact Prod.mk.inj (Except.ok.inj (haddress.symm.trans haddress'))

theorem AsksStore.resolver {w : World} {objects : Entries ByteArray} (h : AsksStore target base bucket key)
    (hw : w.objects? = some objects) (turn : Nat) : ∃ resolved, w.resolver turn target base =
      match Entries.find? (bucket ++ "/" ++ key) objects with
      | some raw => (sniff resolved raw).map (⟨resolved, raw, ·⟩)
      | none => .error (.notFound ("s3://" ++ bucket ++ "/" ++ key)) := by
  obtain ⟨l, hl, hscheme, haddress⟩ := h
  refine ⟨l.path, ?_⟩
  have hobject : content w turn l = match Entries.find? (bucket ++ "/" ++ key) objects with
      | some raw => .ok (.bytes l.path raw)
      | none => .error (.notFound ("s3://" ++ bucket ++ "/" ++ key)) := by
    simp only [content, hscheme, object, hw, haddress]
    rfl
  rw [World.resolver, hl]
  change (content w turn l >>= _) = _
  rw [hobject]
  cases Entries.find? (bucket ++ "/" ++ key) objects with
  | none => rfl
  | some raw =>
    change (sniff l.path raw >>= _) = (sniff l.path raw).map _
    cases sniff l.path raw <;> rfl

theorem trimText_s3 (rest : String) :
    Text.trimText ("s3://" ++ rest) = String.ofList ("s3://".toList ++ Text.trimEnd rest.toList) := by
  have hstart : Text.trimStart ("s3://".toList ++ rest.toList) = "s3://".toList ++ rest.toList :=
    Text.trimStart_cons (by decide) _
  have hend : Text.trimEnd ("s3://".toList ++ rest.toList) = "s3://".toList ++ Text.trimEnd rest.toList :=
    Text.trimEnd_append_cons (c := '/') (by decide) "s3:/".toList rest.toList
  rw [Text.trimText, Text.trim, String.toList_append, hstart, hend]

theorem asksStore_s3_iff {rest : String} : AsksStore ("s3://" ++ rest) base bucket key ↔
    objectAddress (String.ofList ("s3://".toList ++ Text.trimEnd rest.toList)) = .ok (bucket, key) := by
  have hname : Text.trimText ("s3://" ++ rest) =
      Scheme.s3.name ++ ":" ++ String.ofList ("//".toList ++ Text.trimEnd rest.toList) := by
    rw [trimText_s3, ← String.toList_inj]
    simp [Scheme.name]
  have hsplit := Location.splitScheme_of_known (hname ▸ Location.prefixed_name .s3 _)
  rw [AsksStore, Location.resolve_of_explicit hsplit, trimText_s3]
  simp [Scheme.isLocalOnly, Scheme.isRemote]

theorem AsksStore.kept {rest : String} (h : AsksStore ("s3://" ++ rest) base bucket key) :
    ∀ c ∈ key.toList, Url.IsKept Url.pathSet c := by
  obtain ⟨url, hurl, -, rfl, -⟩ := objectAddress_eq_ok.mp (asksStore_s3_iff.mp h)
  rw [String.toList_ofList]
  exact fun c hc => Url.kept_of_parse hurl c ((List.dropWhile_sublist _).mem hc)

theorem trimEnd_location (hk : IsObjectKey k) (b : String) :
    Text.trimEnd (b ++ "/" ++ k).toList = b.toList ++ '/' :: k.toList := by
  have hslash : Text.isBlank '/' = false := by decide
  have hend : Text.trimEnd k.toList = k.toList := by
    have htrim := Location.trimEnd_trimText k
    rwa [hk.blanks] at htrim
  have hchars : (b ++ "/" ++ k).toList = b.toList ++ '/' :: k.toList := by simp
  rw [hchars, Text.trimEnd_append_cons hslash, hend]

/-- An import asks for the bucket and the key that are written in it exactly if the key is written
as the path of a URL. -/
theorem object_asked_iff (hb : IsBucketName b) (hk : IsObjectKey k) (base : String) :
    AsksStore ("s3://" ++ b ++ "/" ++ k) base b k ↔ IsPathText k := by
  have hhost := isHostChar_of_isBucketName hb
  have hbucket : b ≠ "" := by
    rintro rfl
    obtain ⟨c, hc, -⟩ := hb.first
    cases hc
  have htarget : "s3://" ++ b ++ "/" ++ k = "s3://" ++ (b ++ "/" ++ k) := by
    simp only [String.append_assoc]
  rw [htarget]
  constructor
  · intro h
    have hchars := h.kept
    obtain ⟨url, hurl, -, hkey, -⟩ := objectAddress_eq_ok.mp (asksStore_s3_iff.mp h)
    rw [trimEnd_location hk, Url.parse_of_visible hhost hchars] at hurl
    cases hurl
    refine ⟨hchars, (Url.walkText_eq_iff hchars hk.slash).mp ?_⟩
    rw [← String.toList_inj, String.toList_ofList] at hkey
    exact hkey.symm
  · intro hpath
    have hwhole := (Url.walkText_eq_iff hpath.kept hk.slash).mpr hpath.steady
    rw [asksStore_s3_iff, trimEnd_location hk, objectAddress_eq_ok]
    refine ⟨_, Url.parse_of_visible hhost hpath.kept, (String.ofList_toList).symm, ?_, hbucket,
      hk.nonempty⟩
    rw [Url.pathText, hwhole, String.ofList_toList]

-- What looks encoded is asked for as it is written, in a document from elsewhere too.
theorem object_asked_iff_app : IsBucketName "my.configs-1" ∧ IsObjectKey "stacks//app%20~.yaml" ∧
    AsksStore "s3://my.configs-1/stacks//app%20~.yaml" "https://e/a.yaml" "my.configs-1"
      "stacks//app%20~.yaml" := by
  have hb : IsBucketName "my.configs-1" :=
    ⟨List.all_iff_forall_prop.mp rfl, ⟨'m', rfl, .inl rfl⟩, ⟨'1', rfl, .inr rfl⟩⟩
  have hk : IsObjectKey "stacks//app%20~.yaml" :=
    ⟨by decide, by decide +kernel, by decide +kernel, by decide +kernel⟩
  have hpath : IsPathText "stacks//app%20~.yaml" :=
    ⟨List.all_iff_forall_prop.mp rfl, List.all_iff_forall_prop.mp (by decide +kernel)⟩
  exact ⟨hb, hk, (object_asked_iff hb hk "https://e/a.yaml").mpr hpath⟩

theorem other_object_asked : IsBucketName "b" ∧
    (IsObjectKey "a b.txt" ∧ AsksStore "s3://b/a b.txt" "root.yaml" "b" "a%20b.txt" ∧
      ¬AsksStore "s3://b/a b.txt" "root.yaml" "b" "a b.txt") ∧
    IsObjectKey "a/../b.txt" ∧ AsksStore "s3://b/a/../b.txt" "root.yaml" "b" "b.txt" ∧
      ¬AsksStore "s3://b/a/../b.txt" "root.yaml" "b" "a/../b.txt" := by
  have hspace : AsksStore "s3://b/a b.txt" "root.yaml" "b" "a%20b.txt" :=
    ⟨⟨.s3, "s3://b/a b.txt", none⟩, Location.ok_of_toOption (by decide +kernel), rfl,
      Location.ok_of_toOption (by decide +kernel)⟩
  have hdots : AsksStore "s3://b/a/../b.txt" "root.yaml" "b" "b.txt" :=
    ⟨⟨.s3, "s3://b/a/../b.txt", none⟩, Location.ok_of_toOption (by decide +kernel), rfl,
      Location.ok_of_toOption (by decide +kernel)⟩
  have hb : IsBucketName "b" :=
    ⟨List.all_iff_forall_prop.mp rfl, ⟨'b', rfl, .inl rfl⟩, ⟨'b', rfl, .inl rfl⟩⟩
  refine ⟨hb, ⟨?_, hspace, fun h => ?_⟩, ?_, hdots, fun h => ?_⟩
  · exact ⟨by decide, by decide +kernel, by decide +kernel, by decide +kernel⟩
  · exact absurd (hspace.unique h).2 (by decide)
  · exact ⟨by decide, by decide +kernel, by decide +kernel, by decide +kernel⟩
  · exact absurd (hdots.unique h).2 (by decide)

end Importing

end InfraTemplate
