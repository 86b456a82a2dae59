import InfraTemplate.Proofs.HoistedSections
import InfraTemplate.Proofs.NodeEquality
import InfraTemplate.Proofs.StaticDocument

/-!
Nothing is lost when the document is put together: what the root has and what instances have added
are in it. A root that declares its transform in some other way than as a text or a list loses it.
-/

namespace InfraTemplate

namespace Entries

variable {α : Type}

theorem prefix_put (name : String) (a : α) (es : Entries α) : keys es <+: keys (put name a es) := by
  rw [keys_put]
  split
  · exact List.prefix_rfl
  · exact List.prefix_append ..

theorem prefix_putAll (es more : Entries α) : keys es <+: keys (putAll es more) := by
  induction more generalizing es with
  | nil => exact List.prefix_rfl
  | cons e more ih => exact (prefix_put e.1 e.2 es).trans (ih _)

end Entries

namespace Sections

variable {n : Nat} {x : Node} {items more : List Node} {s t : Sections} {cs : List Addition}

def asList : Node → List Node
  | .seq items => items
  | .null => []
  | n => [n]

theorem transforms_eq (n : Node) : transforms n = asList n := by
  cases n <;> rfl

def declared (m : Mapping) : List Node :=
  ((Entries.find? transformSection m).map asList).getD []

def Lists (items : List Node) (x : Node) : Prop := x ∈ items ∨ Node.isIn x items = true

def FreshFrom (n : Nat) (items : List Node) : Prop :=
  ∀ before x after, items = before ++ x :: after → n ≤ before.length → Node.isIn x before = false

theorem freshFrom_length (items : List Node) : FreshFrom items.length items := by
  intro before x after h hn
  have := congrArg List.length h
  simp only [List.length_append, List.length_cons] at this
  omega

theorem FreshFrom.concat (h : FreshFrom n items) (hx : Node.isIn x items = false) :
    FreshFrom n (items ++ [x]) := by
  intro before y after he hn
  rcases List.eq_nil_or_concat after with rfl | ⟨after, z, rfl⟩
  · obtain ⟨rfl, hxy⟩ := List.append_inj' he rfl
    cases hxy
    exact hx
  · have he' : items ++ [x] = (before ++ y :: after) ++ [z] := by simpa using he
    exact h before y after (List.append_inj' he' rfl).1 hn

theorem addMissing_cons : addMissing items (x :: more) =
    addMissing (if Node.isIn x items then items else items ++ [x]) more := rfl

theorem freshFrom_addMissing (h : FreshFrom n items) : FreshFrom n (addMissing items more) := by
  induction more generalizing items with
  | nil => exact h
  | cons x more ih =>
    rw [addMissing_cons]
    cases hx : Node.isIn x items with
    | true => exact ih h
    | false => exact ih (h.concat hx)

theorem prefix_addMissing (items more : List Node) : items <+: addMissing items more := by
  induction more generalizing items with
  | nil => exact List.prefix_rfl
  | cons x more ih =>
    rw [addMissing_cons]
    split
    · exact ih items
    · exact (List.prefix_append items [x]).trans (ih _)

theorem Lists.mono (h : Lists items x) (hp : items <+: more) : Lists more x := by
  rcases h with h | h
  · exact .inl (hp.subset h)
  · obtain ⟨y, hy, hs⟩ := List.any_eq_true.mp h
    exact .inr (List.any_eq_true.mpr ⟨y, hp.subset hy, hs⟩)

theorem lists_addMissing (hx : x ∈ more) : Lists (addMissing items more) x := by
  induction more generalizing items with
  | nil => cases hx
  | cons y more ih =>
    rw [addMissing_cons]
    rcases List.mem_cons.mp hx with rfl | hx
    · have hstep : Lists (if Node.isIn x items then items else items ++ [x]) x := by
        split
        · rename_i hin
          exact .inr hin
        · exact .inl (List.mem_append_right _ (List.mem_singleton_self _))
      exact hstep.mono (prefix_addMissing _ _)
    · exact ih hx

theorem addMissing_append (items more rest : List Node) :
    addMissing items (more ++ rest) = addMissing (addMissing items more) rest :=
  List.foldl_append

def Addition.transforms (c : Addition) : List Node :=
  if c.heading = transformSection then asList c.value else []

def contributed (cs : List Addition) : List Node := cs.flatMap Addition.transforms

theorem transforms_fold {c : Addition} (h : fold s c.heading c.value c.naming = .ok t)
    (hs : (Entries.find? transformSection s).getD (.seq []) = .seq items) :
    (Entries.find? transformSection t).getD (.seq []) = .seq (addMissing items c.transforms) := by
  by_cases hc : c.heading = transformSection
  · unfold fold at h
    rw [if_pos hc, hc, hs] at h
    cases h
    rw [Entries.find?_put_self, Addition.transforms, if_pos hc, transforms_eq]
    rfl
  · have hfind : Entries.find? transformSection t = Entries.find? transformSection s := by
      rcases fold_eq_ok h with rfl | ⟨n, rfl⟩
      · rfl
      · exact Entries.find?_put_of_ne (Ne.symm hc) ..
    rw [hfind, Addition.transforms, if_neg hc]
    exact hs

theorem transforms_addAll (h : addAll s cs = .ok t)
    (hs : (Entries.find? transformSection s).getD (.seq []) = .seq items) :
    (Entries.find? transformSection t).getD (.seq []) =
      .seq (addMissing items (contributed cs)) := by
  induction cs generalizing s items with
  | nil =>
    cases h
    exact hs
  | cons c cs ih =>
    obtain ⟨u, hu, ht⟩ := addAll_cons.mp h
    rw [contributed, List.flatMap_cons, addMissing_append]
    exact ih ht (transforms_fold hu hs)

theorem FreshFrom.mono {m : Nat} (h : FreshFrom n items) (hm : n ≤ m) : FreshFrom m items :=
  fun before x after he hb => h before x after he (hm.trans hb)

theorem freshFrom_string {a : String} (h : FreshFrom 0 items)
    (ha : Node.isIn (.string a) items = false) : FreshFrom 1 (.string a :: items) := by
  intro before x after he hn
  cases before with
  | nil => exact absurd hn (by simp)
  | cons y before =>
    obtain ⟨rfl, rfl⟩ := List.cons.inj he
    have hrest : Node.isIn x before = false := h before x after rfl (Nat.zero_le _)
    have hne : (Node.string a).same x = false := by
      by_contra hsame
      obtain rfl := Node.eq_of_string_same (Bool.not_eq_false _ ▸ hsame)
      have hmem : .string a ∈ before ++ .string a :: after :=
        List.mem_append_right _ (List.mem_cons_self ..)
      exact Bool.noConfusion ((Node.isIn_string hmem).symm.trans ha)
    rw [Node.isIn, List.any_cons, hne]
    exact hrest

end Sections

namespace Assembly

open Sections

theorem transforms_joined (existing : Option Node) {new : List Node} (hn : FreshFrom 0 new) :
    (∀ x ∈ new, Lists (asList (joined existing (.seq new))) x) ∧
      FreshFrom ((existing.map asList).getD []).length (asList (joined existing (.seq new))) ∧
      ((∀ x ∈ (existing.map asList).getD [], Lists (asList (joined existing (.seq new))) x) ↔
        ∀ n, existing = some n → n.kind = .sequence ∨ n.kind = .string ∨ n.kind = .null ∨
          Lists new n) := by
  have hself : ∀ x ∈ new, Lists new x := fun _ hx => .inl hx
  cases existing with
  | none => exact ⟨hself, hn.mono (Nat.zero_le _), by simp⟩
  | some n =>
    cases n with
    | seq old =>
      refine ⟨fun x hx => lists_addMissing hx, freshFrom_addMissing (freshFrom_length old), ?_⟩
      refine iff_of_true (fun x hx => .inl ((prefix_addMissing old new).subset hx)) ?_
      rintro _ ⟨⟩
      exact .inl rfl
    | string a =>
      have hjoined : joined (some (.string a)) (.seq new) =
          .seq (if Node.isIn (.string a) new then new else .string a :: new) := rfl
      have hkind : ∀ n, some (Node.string a) = some n → n.kind = .sequence ∨ n.kind = .string ∨
          n.kind = .null ∨ Lists new n := by
        rintro _ ⟨⟩
        exact .inr (.inl rfl)
      rw [hjoined]
      cases ha : Node.isIn (.string a) new with
      | true =>
        refine ⟨hself, hn.mono (Nat.zero_le _), iff_of_true ?_ hkind⟩
        exact List.forall_mem_singleton.mpr (.inr ha)
      | false =>
        refine ⟨fun x hx => .inl (List.mem_cons_of_mem _ hx), freshFrom_string hn ha,
          iff_of_true ?_ hkind⟩
        exact List.forall_mem_singleton.mpr (.inl (List.mem_cons_self ..))
    | null => exact ⟨hself, hn.mono (Nat.zero_le _), by simp [asList, Node.kind]⟩
    | bool _ | number _ | map _ | tag _ | document _ =>
      exact ⟨hself, hn.mono (Nat.zero_le _), by simp [asList, Node.kind, joined]⟩

def whole (body : Mapping) (s : Sections) (host : String) (records : List Record)
    (omitMetadata : Bool) : Mapping :=
  if omitMetadata then withSections (withFormatVersion body) s
  else withMetadata (withSections (withFormatVersion body) s) host records

theorem finalize_eq (body : Mapping) (s : Sections) (host : String) (records : List Record)
    (omitMetadata : Bool) : finalize body true s host records omitMetadata =
      (Node.map (whole body s host records omitMetadata)).stripBookkeeping := rfl

variable {body : Mapping} {s : Sections} {key heading : String} {n : Node} {host : String}
  {records : List Record} {omitMetadata : Bool}

theorem find?_withFormatVersion_of_ne (h : key ≠ Evaluator.formatVersionKey) :
    Entries.find? key (withFormatVersion body) = Entries.find? key body := by
  unfold withFormatVersion
  split
  · rfl
  · rw [Entries.find?_cons, if_neg h]

theorem find?_withFormatVersion (h : Entries.find? key body = some n) :
    Entries.find? key (withFormatVersion body) = some n := by
  by_cases hk : key = Evaluator.formatVersionKey
  · subst hk
    rw [withFormatVersion, if_pos (by rw [Entries.has, h]; rfl), h]
  · rw [find?_withFormatVersion_of_ne hk, h]

theorem keys_withFormatVersion (body : Mapping) : Entries.keys (withFormatVersion body) =
    if "AWSTemplateFormatVersion" ∈ Entries.keys body then Entries.keys body
    else "AWSTemplateFormatVersion" :: Entries.keys body := by
  rw [withFormatVersion_eq_versioned, versioned]
  split <;> rfl

theorem find?_withMetadata_of_ne (h : key ≠ metadataKey) :
    Entries.find? key (withMetadata body host records) = Entries.find? key body := by
  unfold withMetadata
  split
  · exact Entries.find?_put_of_ne h ..
  · rfl

theorem prefix_withSections (body : Mapping) (s : Sections) :
    Entries.keys body <+: Entries.keys (withSections body s) := by
  induction s generalizing body with
  | nil => exact List.prefix_rfl
  | cons e s ih => exact (Entries.prefix_put ..).trans (ih _)

theorem prefix_withMetadata (body : Mapping) (host : String) (records : List Record) :
    Entries.keys body <+: Entries.keys (withMetadata body host records) := by
  unfold withMetadata
  split
  · exact Entries.prefix_put ..
  · exact List.prefix_rfl

theorem prefix_whole (body : Mapping) (s : Sections) (host : String) (records : List Record)
    (omitMetadata : Bool) : Entries.keys (withFormatVersion body) <+:
      Entries.keys (whole body s host records omitMetadata) := by
  have hsections := prefix_withSections (withFormatVersion body) s
  cases omitMetadata with
  | true => exact hsections
  | false => exact hsections.trans (prefix_withMetadata _ host records)

theorem find?_whole_of_ne (h : key ≠ metadataKey) :
    Entries.find? key (whole body s host records omitMetadata) =
      Entries.find? key (withSections (withFormatVersion body) s) := by
  cases omitMetadata with
  | true => rfl
  | false => exact find?_withMetadata_of_ne h

theorem find?_whole_of_not_mem (hk : key ∉ Entries.keys s) (h : Entries.find? key body = some n)
    (hm : key = metadataKey → n.kind = .map → omitMetadata = true) :
    Entries.find? key (whole body s host records omitMetadata) = some n := by
  have hsections : Entries.find? key (withSections (withFormatVersion body) s) = some n := by
    rw [find?_withSections_of_not_mem hk, find?_withFormatVersion h]
  by_cases hkey : key = metadataKey
  · subst hkey
    cases omitMetadata with
    | true => exact hsections
    | false =>
      change Entries.find? metadataKey (withMetadata _ host records) = some n
      unfold withMetadata
      rw [hsections]
      cases n with
      | map _ => exact absurd (hm rfl rfl) (by simp)
      | null | bool _ | number _ | string _ | seq _ | tag _ | document _ => exact hsections
  · rw [find?_whole_of_ne hkey, hsections]

section Joining

variable {old added : Mapping} (hs : (Entries.keys s).Nodup) (hn : (Entries.keys added).Nodup)
  (hold : (Entries.find? heading body).getD (.map []) = .map old)
  (hadded : (Entries.find? heading s).getD (.map []) = .map added)
  (hh : heading ∈ Entries.keys body ∨ heading ∈ Entries.keys s)

include hs hn hold hadded hh

theorem section_withSections : Entries.find? heading (withSections (withFormatVersion body) s) =
    some (.map (Entries.putAll old added)) := by
  cases hfound : Entries.find? heading s with
  | none =>
    have hmem := hh.resolve_right (Entries.find?_eq_none_iff.mp hfound)
    obtain ⟨n, hbody⟩ := Option.isSome_iff_exists.mp (Entries.has_iff.mpr hmem)
    rw [hfound] at hadded
    rw [hbody] at hold
    cases hadded
    cases hold
    rw [find?_withSections_of_not_mem (Entries.find?_eq_none_iff.mp hfound),
      find?_withFormatVersion hbody]
    rfl
  | some x =>
    rw [hfound] at hadded
    cases hadded
    rw [find?_withSections hs hfound]
    cases hbody : Entries.find? heading body with
    | some n =>
      rw [hbody] at hold
      cases hold
      rw [find?_withFormatVersion hbody]
      rfl
    | none =>
      rw [hbody] at hold
      cases hold
      -- The format version, where it is added, is no map.
      have hjoined : joined (Entries.find? heading (withFormatVersion body)) (.map added) =
          .map added := by
        unfold withFormatVersion
        split
        · rw [hbody]
          rfl
        · rw [Entries.find?_cons, hbody]
          split <;> rfl
      rw [hjoined]
      exact congrArg (fun m => some (Node.map m)) (Entries.ofPairs_of_nodup hn).symm

variable (host records omitMetadata) in
theorem section_whole : ∃ m, Entries.find? heading (whole body s host records omitMetadata) =
      some (.map m) ∧ Entries.keys old <+: Entries.keys m ∧
    ∀ name n, (heading = metadataKey → name = renderKey → omitMetadata = true) →
      Entries.find? name added = some n ∨
        name ∉ Entries.keys added ∧ Entries.find? name old = some n →
      Entries.find? name m = some n := by
  have hsections := section_withSections hs hn hold hadded hh
  have hprefix := Entries.prefix_putAll old added
  have hkept {name : String} {n : Node} (h : Entries.find? name added = some n ∨
      name ∉ Entries.keys added ∧ Entries.find? name old = some n) :
      Entries.find? name (Entries.putAll old added) = some n := by
    rcases h with h | ⟨hname, h⟩
    · exact Entries.find?_putAll_of_find? hn h
    · rw [Entries.find?_putAll_of_not_mem hname, h]
  by_cases hmeta : heading = metadataKey ∧ omitMetadata = false
  · obtain ⟨rfl, rfl⟩ := hmeta
    refine ⟨Entries.put renderKey (renderNode host records) (Entries.putAll old added), ?_,
      hprefix.trans (Entries.prefix_put ..), fun name n hname h => ?_⟩
    · change Entries.find? metadataKey (withMetadata _ host records) = _
      unfold withMetadata
      rw [hsections]
      exact Entries.find?_put_self ..
    · have hne : name ≠ renderKey := fun he => Bool.noConfusion (hname rfl he)
      rw [Entries.find?_put_of_ne hne, hkept h]
  · refine ⟨Entries.putAll old added, ?_, hprefix, fun _ _ _ => hkept⟩
    cases omitMetadata with
    | true => exact hsections
    | false => rw [find?_whole_of_ne (fun he => hmeta ⟨he, rfl⟩), hsections]

end Joining

/-- Nothing that the root has and nothing that was added to its sections is missing in the whole
document, in which the root comes first. -/
structure Complete (body : Mapping) (s : Sections) (omitMetadata : Bool) (full : Mapping) :
    Prop where
  order : (if Evaluator.formatVersionKey ∈ Entries.keys body then Entries.keys body
    else Evaluator.formatVersionKey :: Entries.keys body) <+: Entries.keys full
  others : ∀ key n, key ∉ Entries.keys s → Entries.find? key body = some n →
    (key = metadataKey → n.kind = .map → omitMetadata = true) → Entries.find? key full = some n
  sections : ∀ heading old, heading ≠ transformSection →
    heading ∈ Entries.keys body ∨ heading ∈ Entries.keys s →
    (Entries.find? heading body).getD (.map []) = .map old →
    ∃ added m, (Entries.find? heading s).getD (.map []) = .map added ∧
      Entries.find? heading full = some (.map m) ∧ Entries.keys old <+: Entries.keys m ∧
      ∀ name n, (heading = metadataKey → name = renderKey → omitMetadata = true) →
        Entries.find? name added = some n ∨
          name ∉ Entries.keys added ∧ Entries.find? name old = some n →
        Entries.find? name m = some n
  transforms : ∀ x ∈ declared s, Lists (declared full) x
  once : FreshFrom (declared body).length (declared full)
  own : (∀ x ∈ declared body, Lists (declared full) x) ↔
    ∀ n, Entries.find? transformSection body = some n → transformSection ∈ Entries.keys s →
      n.kind = .sequence ∨ n.kind = .string ∨ n.kind = .null ∨ Lists (declared s) n

variable (body host records omitMetadata) in
theorem transforms_whole {new : List Node} (hs : (Entries.keys s).Nodup)
    (hnew : (Entries.find? transformSection s).getD (.seq []) = .seq new) (hn : FreshFrom 0 new) :
    (∀ x ∈ declared s, Lists (declared (whole body s host records omitMetadata)) x) ∧
      FreshFrom (declared body).length (declared (whole body s host records omitMetadata)) ∧
      ((∀ x ∈ declared body, Lists (declared (whole body s host records omitMetadata)) x) ↔
        ∀ n, Entries.find? transformSection body = some n →
          transformSection ∈ Entries.keys s → n.kind = .sequence ∨ n.kind = .string ∨
            n.kind = .null ∨ Lists (declared s) n) := by
  have hwhole : Entries.find? transformSection (whole body s host records omitMetadata) =
      Entries.find? transformSection (withSections (withFormatVersion body) s) :=
    find?_whole_of_ne (by decide)
  have hbody : Entries.find? transformSection (withFormatVersion body) =
      Entries.find? transformSection body := find?_withFormatVersion_of_ne (by decide)
  cases hfound : Entries.find? transformSection s with
  | none =>
    have hmem := Entries.find?_eq_none_iff.mp hfound
    have hfull : declared (whole body s host records omitMetadata) = declared body := by
      rw [declared, hwhole, find?_withSections_of_not_mem hmem, hbody, declared]
    have hnone : declared s = [] := by rw [declared, hfound]; rfl
    rw [hfull, hnone]
    refine ⟨fun _ hx => absurd hx List.not_mem_nil, freshFrom_length _, ?_⟩
    exact iff_of_true (fun _ hx => .inl hx) fun _ _ hk => absurd hk hmem
  | some x =>
    rw [hfound] at hnew
    cases hnew
    have hfull : declared (whole body s host records omitMetadata) =
        asList (joined (Entries.find? transformSection body) (.seq new)) := by
      rw [declared, hwhole, find?_withSections hs hfound, hbody]
      rfl
    have hsome : declared s = new := by rw [declared, hfound]; rfl
    have hmem : transformSection ∈ Entries.keys s :=
      Entries.has_iff.mp (by rw [Entries.has, hfound]; rfl)
    obtain ⟨hadded, honce, hown⟩ := transforms_joined (Entries.find? transformSection body) hn
    rw [hfull, hsome]
    exact ⟨hadded, honce, hown.trans (by simp only [hmem, true_imp_iff])⟩

theorem finalize_complete {cs : List Addition} (h : addAll [] cs = .ok s) (body : Mapping)
    (host : String) (records : List Record) (omitMetadata : Bool) :
    ∃ full, finalize body true s host records omitMetadata = (Node.map full).stripBookkeeping ∧
      Complete body s omitMetadata full := by
  have hs : (Entries.keys s).Nodup := nodup_addAll (s := []) .nil h
  have hempty : (Entries.find? transformSection ([] : Sections)).getD (.seq []) = .seq [] := rfl
  have hnew := transforms_addAll h hempty
  have hfresh : FreshFrom 0 (addMissing [] (contributed cs)) :=
    freshFrom_addMissing (freshFrom_length [])
  obtain ⟨hadded, honce, hown⟩ :=
    transforms_whole body host records omitMetadata hs hnew hfresh
  refine ⟨whole body s host records omitMetadata, finalize_eq .., ?_⟩
  refine ⟨?_, fun key n hk hn hm => find?_whole_of_not_mem hk hn hm, ?_, hadded, honce, hown⟩
  · have horder := prefix_whole body s host records omitMetadata
    rwa [keys_withFormatVersion] at horder
  · intro heading old hheading hh hold
    have hnil : (Entries.find? heading ([] : Sections)).getD (.map []) = .map [] := rfl
    have hsection := section_addAll hheading hnil h
    have hempty : (Entries.keys ([] : Mapping)).Nodup := .nil
    obtain ⟨m, hm⟩ := section_whole host records omitMetadata hs
      (Entries.keys_putAll_nodup hempty) hold hsection hh
    exact ⟨_, m, hsection, hm⟩

section Example

def serverless : Node := .string "AWS::Serverless-2016-10-31"

def includeTransform : Node := .map [("Name", .string "AWS::Include")]

def serverlessTransform : String × Node := ("Transform", .seq [serverless])

theorem finalize_complete_include :
    ∃ full, finalize [("Transform", .string "AWS::Include"), ("Outputs", .map [("Own", .null)])]
        true [serverlessTransform, ("Outputs", .map [("LogsUrl", .null)])] "" [] true =
          (Node.map full).stripBookkeeping ∧
      Lists (declared full) (.string "AWS::Include") ∧ Lists (declared full) serverless ∧
      ∃ m, Entries.find? "Outputs" full = some (.map m) ∧ Entries.find? "Own" m = some .null ∧
        Entries.find? "LogsUrl" m = some .null := by
  have h : addAll [] [⟨"Transform", serverless, ⟨"Logs", []⟩⟩,
      ⟨"Outputs", .map [("Url", .null)], ⟨"Logs", []⟩⟩] =
        .ok [serverlessTransform, ("Outputs", .map [("LogsUrl", .null)])] := by
    with_unfolding_all exact rfl
  obtain ⟨full, hfull, hall⟩ := finalize_complete h
    [("Transform", .string "AWS::Include"), ("Outputs", .map [("Own", .null)])] "" [] true
  obtain ⟨added, m, hadded, hm, -, hentries⟩ := hall.sections "Outputs" [("Own", .null)]
    (by decide) (.inl (by decide)) rfl
  cases hadded
  refine ⟨full, hfull, hall.own.mpr ?_ _ (List.mem_singleton_self _),
    hall.transforms _ (List.mem_singleton_self _), m, hm, hentries "Own" .null nofun ?_,
    hentries "LogsUrl" .null nofun (.inl rfl)⟩
  · rintro _ ⟨⟩ -
    exact .inr (.inl rfl)
  · exact .inr ⟨by decide, rfl⟩

end Example

end Assembly

section Example

open Assembly

theorem declared_transform_lost :
    Returns (quietly.transform (.map [definesT [("Transform", serverless),
          ("Resources", .map [("Bucket", .map bucketMap)])],
        ("Transform", includeTransform), stagedLogs]) "a.yaml") .start
      ⟨.map [(Evaluator.formatVersionKey, .string formatVersion), serverlessTransform, bucketLogs], []⟩
      ⟨[serverlessTransform], [], 2⟩ ∧
    Sections.addAll [] [⟨"Transform", serverless, ⟨"Logs", []⟩⟩] = .ok [serverlessTransform] ∧
    finalize [("Transform", includeTransform), bucketLogs] true [serverlessTransform] "" [] true =
      .map [(Evaluator.formatVersionKey, .string formatVersion), serverlessTransform, bucketLogs] ∧
    ¬ Sections.Lists [serverless] includeTransform := by
  refine ⟨?_, ?_, ?_, ?_⟩
  · with_unfolding_all exact rfl
  · with_unfolding_all exact rfl
  · with_unfolding_all exact rfl
  · rintro (h | h)
    · cases List.mem_singleton.mp h
    · simp [Node.isIn, serverless, includeTransform, Node.same] at h

end Example

end InfraTemplate
