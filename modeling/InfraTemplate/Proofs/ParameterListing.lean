import InfraTemplate.Proofs.Contributions
import InfraTemplate.Proofs.Grouping
import InfraTemplate.Proofs.JsonRoundTrip
import InfraTemplate.Proofs.PayloadReading
import InfraTemplate.Proofs.SplitText
import InfraTemplate.Importing
import Mathlib.Data.List.DropRight
import Mathlib.Data.List.Perm.Basic

namespace InfraTemplate

theorem mapM_eq_ok {ε α β : Type} {f : α → Except ε β} {xs : List α} {ys : List β} :
    xs.mapM f = .ok ys ↔ List.Forall₂ (fun x y => f x = .ok y) xs ys := by
  induction xs generalizing ys with
  | nil =>
    rw [List.mapM_nil, List.forall₂_nil_left_iff]
    exact ⟨fun h => (Except.ok.inj h).symm, fun h => congrArg Except.ok h.symm⟩
  | cons x xs ih =>
    rw [List.mapM_cons, List.forall₂_cons_left_iff]
    constructor
    · intro h
      obtain ⟨y, hy, h⟩ := bind_eq_ok.mp h
      obtain ⟨ys', hys, h⟩ := bind_eq_ok.mp h
      cases h
      exact ⟨y, ys', hy, ih.mp hys, rfl⟩
    · rintro ⟨y, ys', hy, hys, rfl⟩
      exact bind_eq_ok.mpr ⟨y, hy, bind_eq_ok.mpr ⟨ys', ih.mpr hys, rfl⟩⟩

theorem Entries.sorted_eq_of_perm {α : Type} {es es' : Entries α} (hp : es.Perm es')
    (h : (keys es).Nodup) : sorted es = sorted es' :=
  (increasing_sorted h).eq_sorted ((sorted_perm es).trans hp)

theorem Text.beforeTail?_eq_some {tail cs front : List Char} :
    beforeTail? tail cs = some front ↔ cs = front ++ tail := by
  rw [beforeTail?, Option.map_eq_some_iff]
  constructor
  · rintro ⟨rest, hrest, rfl⟩
    rw [← List.reverse_inj, List.reverse_append, List.reverse_reverse]
    exact afterHead?_eq_some.mp hrest
  · rintro rfl
    exact ⟨front.reverse, afterHead?_eq_some.mpr (List.reverse_append ..), front.reverse_reverse⟩

namespace Importing

namespace ValueFormat

def suffix : ValueFormat → String
  | text => ""
  | json => ":json"
  | yaml => ":yaml"

/-- What a value says in the format. `source` is only named where the value cannot be read. -/
def Reads (format : ValueFormat) (value source : String) (n : Node) : Prop :=
  match format with
  | text => n = .string value
  | json => Node.parseJson value.toUTF8 source = .ok n
  | yaml => Node.parse value source = .ok n

theorem decode_eq_ok {format : ValueFormat} {value source : String} {n : Node} :
    format.decode value source = .ok n ↔ format.Reads value source n := by
  cases format with
  | text => exact (Except.ok.injEq ..).to_iff.trans eq_comm
  | json => exact mapError_eq_ok
  | yaml => exact mapError_eq_ok

end ValueFormat

structure Asks (path name lead : String) (format : ValueFormat) : Prop where
  suffix : path = name ++ format.suffix
  unmarked : format = .text → ∀ front, path ≠ front ++ ":json" ∧ path ≠ front ++ ":yaml"
  slashes : ∃ n, name = lead ++ String.ofList (List.replicate n '/')
  bare : lead.toList.getLast? ≠ some '/'

def Lists (w : World) (name : String) (listing : List (String × String)) : Prop :=
  ∃ store, w.parameters? = some store ∧ Entries.find? name store.listings = some listing

def fullName (lead r : String) : String := lead ++ "/" ++ r

def listed (lead : String) (entries : Entries String) : List (String × String) :=
  entries.map fun e => (fullName lead e.1, e.2)

variable {path name lead : String} {format : ValueFormat} {entries : Entries String}

section Suffixes

theorem split_suffix (path : String) :
    path = (ValueFormat.split path).1 ++ (ValueFormat.split path).2.suffix := by
  rw [← String.toList_inj, String.toList_append]
  unfold ValueFormat.split
  split
  · rename_i front hfront
    simpa [ValueFormat.suffix] using Text.beforeTail?_eq_some.mp hfront
  · rename_i front _ hfront
    simpa [ValueFormat.suffix] using Text.beforeTail?_eq_some.mp hfront
  · simp [ValueFormat.suffix]

theorem split_unmarked (h : (ValueFormat.split path).2 = .text) (front : String) :
    path ≠ front ++ ":json" ∧ path ≠ front ++ ":yaml" := by
  unfold ValueFormat.split at h
  split at h
  · cases h
  · cases h
  · rename_i hjson hyaml
    constructor
    · rintro rfl
      rw [String.toList_append, Text.beforeTail?_eq_some.mpr rfl] at hjson
      cases hjson
    · rintro rfl
      rw [String.toList_append, Text.beforeTail?_eq_some.mpr rfl] at hyaml
      cases hyaml

theorem split_of_suffix (hp : path = name ++ format.suffix)
    (hu : format = .text → ∀ front, path ≠ front ++ ":json" ∧ path ≠ front ++ ":yaml") :
    ValueFormat.split path = (name, format) := by
  have htail (tail : String) : Text.beforeTail? tail.toList path.toList = none ∨
      ∃ front : String, path = front ++ tail := by
    cases hf : Text.beforeTail? tail.toList path.toList with
    | none => exact .inl rfl
    | some front =>
      refine .inr ⟨String.ofList front, String.toList_inj.mp ?_⟩
      rw [String.toList_append, String.toList_ofList]
      exact Text.beforeTail?_eq_some.mp hf
  have hfound (tail : String) (he : path = name ++ tail) :
      Text.beforeTail? tail.toList path.toList = some name.toList :=
    Text.beforeTail?_eq_some.mpr (by rw [he, String.toList_append])
  unfold ValueFormat.split
  cases format with
  | json =>
    rw [hfound ":json" hp]
    simp
  | yaml =>
    rcases htail ":json" with hnone | ⟨front, he⟩
    · rw [hnone, hfound ":yaml" hp]
      simp
    · have hends := congrArg String.toList (he.symm.trans hp)
      rw [String.toList_append, String.toList_append] at hends
      have hlength : ":json".toList.length = ":yaml".toList.length := by simp
      exact absurd (String.toList_inj.mp (List.append_inj_right' hends hlength)) (by decide)
  | text =>
    have hjson := (htail ":json").resolve_right fun ⟨front, he⟩ => (hu rfl front).1 he
    have hyaml := (htail ":yaml").resolve_right fun ⟨front, he⟩ => (hu rfl front).2 he
    rw [hjson, hyaml, hp]
    simp [ValueFormat.suffix]

theorem rdropWhile_of_slashes {n : Nat} {cs : List Char} (h : cs.getLast? ≠ some '/') :
    (cs ++ List.replicate n '/').rdropWhile (· == '/') = cs := by
  induction n with
  | zero =>
    rw [List.replicate_zero, List.append_nil, List.rdropWhile_eq_self_iff]
    intro hne hlast
    rw [List.getLast?_eq_some_getLast hne] at h
    exact h (congrArg some (beq_iff_eq.mp hlast))
  | succ n ih =>
    rw [List.replicate_succ', ← List.append_assoc, List.rdropWhile_concat_pos _ _ _ rfl, ih]

theorem Asks.split (h : Asks path name lead format) : ValueFormat.split path = (name, format) :=
  split_of_suffix h.suffix h.unmarked

theorem Asks.rdropWhile (h : Asks path name lead format) :
    name.toList.rdropWhile (· == '/') = lead.toList := by
  obtain ⟨n, rfl⟩ := h.slashes
  rw [String.toList_append, String.toList_ofList]
  exact rdropWhile_of_slashes h.bare

theorem exists_asks (path : String) : ∃ name lead format, Asks path name lead format := by
  have hslash (c : Char) (hc : (c == '/') = true) : c = '/' := beq_iff_eq.mp hc
  obtain ⟨n, hn⟩ := Text.exists_replicate_of_rdropWhile hslash (ValueFormat.split path).1.toList
  refine ⟨_, String.ofList ((ValueFormat.split path).1.toList.rdropWhile (· == '/')), _,
    split_suffix path, split_unmarked, ⟨n, ?_⟩, ?_⟩
  · rw [← String.toList_inj, String.toList_append, String.toList_ofList, String.toList_ofList]
    exact hn
  · rw [String.toList_ofList]
    intro hlast
    obtain ⟨front, hfront⟩ := List.getLast?_eq_some_iff.mp hlast
    have hne : (ValueFormat.split path).1.toList.rdropWhile (· == '/') ≠ [] := by
      rw [hfront]
      exact List.append_ne_nil_of_right_ne_nil _ (List.cons_ne_nil _ _)
    have hend := List.rdropWhile_last_not _ _ hne
    simp [hfront] at hend

end Suffixes

section Listing

theorem shortName_fullName {r : String} (h : r.toList.head? ≠ some '/') :
    shortName lead.toList (fullName lead r) = r := by
  have hafter : Text.afterHead? lead.toList (fullName lead r).toList = some ('/' :: r.toList) := by
    rw [Text.afterHead?_eq_some, fullName, String.toList_append, String.toList_append,
      List.append_assoc]
    rfl
  rw [← String.toList_inj, shortName, hafter, Option.getD_some, String.toList_ofList,
    List.dropWhile_cons_of_pos rfl]
  refine Text.dropWhile_of_head? fun c hc => ?_
  rw [beq_eq_false_iff_ne]
  rintro rfl
  exact h hc

theorem keys_listed (lead : String) (entries : Entries String) :
    Entries.keys (listed lead entries) = (Entries.keys entries).map (fullName lead) := by
  simp [Entries.keys, listed]

theorem nodup_listed (h : (Entries.keys entries).Nodup) :
    (Entries.keys (listed lead entries)).Nodup := by
  rw [keys_listed]
  refine h.map fun r s hrs => ?_
  have hchars := congrArg String.toList hrs
  simp only [fullName, String.toList_append] at hchars
  exact String.toList_inj.mp (List.append_cancel_left hchars)

def Decodes (lead : String) (format : ValueFormat) (entries : Entries String) (m : Mapping) : Prop :=
  List.Forall₂ (fun e x => x.1 = e.1 ∧ format.Reads e.2 (fullName lead e.1) x.2) entries m

theorem Decodes.keys {m : Mapping} (h : Decodes lead format entries m) :
    Entries.keys m = Entries.keys entries := by
  induction h with
  | nil => rfl
  | @cons e x entries m hx h ih => exact congrArg₂ List.cons hx.1 ih

theorem Decodes.of_perm {entries' : Entries String} {m : Mapping} (h : Decodes lead format entries m)
    (hp : entries'.Perm entries) : ∃ m', Decodes lead format entries' m' := by
  obtain ⟨m', hm', -⟩ := List.perm_comp_forall₂ hp h
  exact ⟨m', hm'⟩

theorem listingMap_eq (lead : List Char) (format : ValueFormat) (listing : List (String × String)) :
    listingMap lead format listing = Entries.ofPairs <$>
      listing.mapM fun e => (shortName lead e.1, ·) <$> format.decode e.2 e.1 := by
  -- Each value is decoded for itself, and then they are put in turn.
  have hfold := foldlM_eq_mapM (m := Fetch)
    (fun e : String × String => (shortName lead e.1, ·) <$> format.decode e.2 e.1)
    (fun acc e => Entries.put e.1 e.2 acc) listing []
  refine Eq.trans (congrArg (fun f => listing.foldlM f []) ?_) hfold
  funext acc e
  simp

theorem listingMap_eq_ok {m : Mapping} (hn : (Entries.keys entries).Nodup)
    (h : ∀ e ∈ entries, e.1.toList.head? ≠ some '/') :
    listingMap lead.toList format (listed lead entries) = .ok m ↔ Decodes lead format entries m := by
  have hentry (e : String × String) (he : e.1.toList.head? ≠ some '/') (x : String × Node) :
      (shortName lead.toList (fullName lead e.1), ·) <$> format.decode e.2 (fullName lead e.1) = .ok x ↔
        x.1 = e.1 ∧ format.Reads e.2 (fullName lead e.1) x.2 := by
    rw [shortName_fullName he, ← ValueFormat.decode_eq_ok]
    refine map_eq_ok.trans ⟨?_, fun ⟨hname, hx⟩ => ⟨x.2, hx, Prod.ext hname.symm rfl⟩⟩
    rintro ⟨n, hn, rfl⟩
    exact ⟨rfl, hn⟩
  have hall (ys : Mapping) :
      (listed lead entries).mapM (fun e => (shortName lead.toList e.1, ·) <$> format.decode e.2 e.1) =
        .ok ys ↔ Decodes lead format entries ys := by
    rw [mapM_eq_ok, listed, List.forall₂_map_left_iff]
    constructor
    · intro hys
      exact ((List.forall₂_and_left _ _).mpr ⟨h, hys⟩).imp fun e x hx => (hentry e hx.1 x).mp hx.2
    · intro hys
      exact ((List.forall₂_and_left _ _).mpr ⟨h, hys⟩).imp fun e x hx => (hentry e hx.1 x).mpr hx.2
  have hput {ys : Mapping} (hys : Decodes lead format entries ys) : Entries.ofPairs ys = ys :=
    Entries.ofPairs_of_nodup (hys.keys ▸ hn)
  rw [listingMap_eq]
  refine map_eq_ok.trans ⟨?_, fun hm => ⟨m, (hall m).mpr hm, hput hm⟩⟩
  rintro ⟨ys, hys, rfl⟩
  have hd := (hall ys).mp hys
  rwa [hput hd]

theorem listingBytes_of_perm {listing listing' : List (String × String)} (hp : listing'.Perm listing)
    (hn : (Entries.keys listing').Nodup) : listingBytes listing' = listingBytes listing := by
  have hkeys (es : List (String × String)) :
      Entries.keys (es.map fun e => (e.1, Json.string e.2)) = Entries.keys es :=
    Entries.keys_map_values Json.string es
  have hfields := hp.map fun e : String × String => (e.1, Json.string e.2)
  have hn' : (Entries.keys listing).Nodup := (hp.map _).nodup hn
  rw [listingBytes, listingBytes, Json.ofFields_eq ((hkeys listing').symm ▸ hn),
    Json.ofFields_eq ((hkeys listing).symm ▸ hn'),
    Entries.sorted_eq_of_perm hfields ((hkeys listing').symm ▸ hn)]

end Listing

section Fetching

variable {w : World} {l : Location} {turn : Nat} {c : Content} {listing : List (String × String)}

theorem content_of_lists (hs : l.scheme = .ssmPath) (ha : Asks l.path name lead format)
    (hl : Lists w name listing) : content w turn l = .ok c ↔
      ∃ m, listingMap lead.toList format listing = .ok m ∧
        c = ⟨l.text, listingBytes listing, some (.map m)⟩ := by
  obtain ⟨store, hstore, hfind⟩ := hl
  rw [content, hs, ← ha.rdropWhile]
  change parameterPath w l = .ok c ↔ _
  unfold parameterPath
  rw [hstore, ha.split]
  dsimp only
  rw [hfind]
  refine bind_eq_ok.trans (exists_congr fun m => and_congr_right fun _ => ?_)
  exact ⟨fun h => (Except.ok.inj h).symm, fun h => congrArg Except.ok h.symm⟩

/-- A listing is imported parameter by parameter, in its order, and in any order as the same bytes. -/
theorem parameters_listed (hs : l.scheme = .ssmPath) :
    (∃ name lead format, Asks l.path name lead format) ∧
      ∀ {name lead : String} {format : ValueFormat} {entries : Entries String},
        Asks l.path name lead format → (Entries.keys entries).Nodup →
        (∀ e ∈ entries, e.1.toList.head? ≠ some '/') → Lists w name (listed lead entries) →
        content w turn l = .ok c →
          (∃ m, c.parsed? = some (.map m) ∧ Decodes lead format entries m) ∧
          ∀ {w' : World} {turn' : Nat} {entries' : Entries String}, entries'.Perm entries →
            Lists w' name (listed lead entries') →
            ∃ c', content w' turn' l = .ok c' ∧ c'.raw = c.raw := by
  refine ⟨exists_asks l.path, fun {name lead format entries} ha hn hbare hl hc => ?_⟩
  obtain ⟨m, hm, rfl⟩ := (content_of_lists hs ha hl).mp hc
  have hdecodes := (listingMap_eq_ok hn hbare).mp hm
  refine ⟨⟨m, rfl, hdecodes⟩, fun {w' turn' entries'} hp hl' => ?_⟩
  have hn' : (Entries.keys entries').Nodup := (hp.map _).symm.nodup hn
  have hbare' : ∀ e ∈ entries', e.1.toList.head? ≠ some '/' := fun e he =>
    hbare e (hp.mem_iff.mp he)
  obtain ⟨m', hm'⟩ := hdecodes.of_perm hp
  have hlisted : (listed lead entries').Perm (listed lead entries) := hp.map _
  have hbytes := listingBytes_of_perm hlisted (nodup_listed hn')
  exact ⟨_, (content_of_lists hs ha hl').mpr ⟨m', (listingMap_eq_ok hn' hbare').mpr hm', rfl⟩, hbytes⟩

def storing (name : String) (listing : List (String × String)) : World :=
  { World.empty with parameters? := some ⟨[], [(name, listing)]⟩ }

theorem lists_storing (name : String) (listing : List (String × String)) :
    Lists (storing name listing) name listing :=
  ⟨_, rfl, by rw [Entries.find?_cons, if_pos rfl]⟩

-- A parameter of a path below the path, in both orders.
theorem parameters_listed_db :
    ∃ (l : Location) (entries : Entries String) (c : Content), l.path = "/app/db//" ∧
      entries = [("pool/size", "10"), ("host", "db")] ∧
      content (storing "/app/db//" (listed "/app/db" entries)) 0 l = .ok c ∧
      (∃ m, c.parsed? = some (.map m) ∧ Decodes "/app/db" .text entries m) ∧
      ∃ c', content (storing "/app/db//" (listed "/app/db" entries.reverse)) 0 l = .ok c' ∧
        c'.raw = c.raw := by
  let l : Location := ⟨.ssmPath, "/app/db//", none⟩
  let entries : Entries String := [("pool/size", "10"), ("host", "db")]
  have ha : Asks l.path "/app/db//" "/app/db" .text := by
    refine ⟨by decide, fun _ front => ⟨fun he => ?_, fun he => ?_⟩, ⟨2, by decide⟩, by decide⟩
    · have hlast := congrArg (fun s => s.toList.getLast?) he
      simp [l] at hlast
    · have hlast := congrArg (fun s => s.toList.getLast?) he
      simp [l] at hlast
  have hbare : ∀ e ∈ entries, e.1.toList.head? ≠ some '/' := by decide
  have hl := lists_storing "/app/db//" (listed "/app/db" entries)
  have hdecodes : Decodes "/app/db" .text entries [("pool/size", .string "10"), ("host", .string "db")] :=
    .cons ⟨rfl, rfl⟩ (.cons ⟨rfl, rfl⟩ .nil)
  have hm := (listingMap_eq_ok (by decide) hbare).mpr hdecodes
  obtain ⟨c, hc⟩ : ∃ c, content (storing "/app/db//" (listed "/app/db" entries)) 0 l = .ok c :=
    ⟨_, (content_of_lists rfl ha hl).mpr ⟨_, hm, rfl⟩⟩
  obtain ⟨hparsed, hperm⟩ := (parameters_listed rfl).2 ha (by decide) hbare hl hc
  exact ⟨l, entries, c, rfl, rfl, hc, hparsed,
    hperm (List.reverse_perm entries) (lists_storing _ _)⟩

end Fetching

end Importing

end InfraTemplate
