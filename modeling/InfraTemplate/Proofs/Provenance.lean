import InfraTemplate.Proofs.HoistedSections
import InfraTemplate.Proofs.ImportGraph

namespace InfraTemplate

namespace Assembly

variable {body : Mapping} {host : String} {records : List Record}

theorem stripBookkeeping_renderNode :
    (renderNode host records).stripBookkeeping = renderNode host records := by
  have hitems : Node.stripItems (records.map recordNode) = records.map recordNode := by
    induction records with
    | nil => rfl
    | cons r rest ih => rw [List.map_cons, Node.stripItems, ih, recordNode]; rfl
  have hnode : (renderNode host records).stripBookkeeping =
      .map [("Host", .string host), ("Imports", .seq (Node.stripItems (records.map recordNode)))] :=
    rfl
  rw [hnode, hitems, renderNode]

theorem stripBookkeeping_eq_map {n : Node} {m : Mapping} (h : n.stripBookkeeping = .map m) :
    ∃ m', n = .map m' ∧ m = Node.stripEntries m' := by
  cases n with
  | map m' =>
    cases h
    exact ⟨m', rfl, rfl⟩
  | _ => cases h

theorem find?_metadata_withMetadata (body : Mapping) (host : String) (records : List Record) :
    ∃ n, Entries.find? metadataKey (withMetadata body host records) = some n ∧
      ∀ m, n = .map m → Entries.find? renderKey m = some (renderNode host records) := by
  unfold withMetadata
  split
  · refine ⟨_, Entries.find?_put_self .., ?_⟩
    rintro _ ⟨⟩
    exact Entries.find?_put_self ..
  · rename_i hn
    cases hb : Entries.find? metadataKey body with
    | none => exact absurd (by rw [hb]; rfl) (hn [])
    | some n =>
      refine ⟨n, rfl, ?_⟩
      rintro m rfl
      exact absurd (by rw [hb]; rfl) (hn m)

theorem finalize_describes (body : Mapping) (s : Sections) (host : String) (records : List Record) :
    ∃ out n, finalize body true s host records false = .map out ∧
      Entries.find? metadataKey out = some n ∧
      ∀ m, n = .map m → Entries.find? renderKey m = some (renderNode host records) := by
  obtain ⟨n, hn, hrender⟩ :=
    find?_metadata_withMetadata (withSections (withFormatVersion body) s) host records
  refine ⟨_, n.stripBookkeeping, rfl, ?_, ?_⟩
  · have hf := congrArg (Option.map Node.stripBookkeeping) hn
    rwa [← Node.find?_stripEntries (by decide)] at hf
  · intro m hm
    obtain ⟨m', rfl, rfl⟩ := stripBookkeeping_eq_map hm
    rw [Node.find?_stripEntries (by decide), hrender m' rfl, Option.map_some,
      stripBookkeeping_renderNode]

end Assembly

namespace Setting

variable {c : Setting} {m : Mapping} {location : String} {t : Transformed} {p : Progress}

theorem returns_load_of_transformMap (h : Returns (c.transformMap m location) .start t p) :
    ∃ d q, Returns (c.loader.load m location) .start d q ∧ t.records = q.records ∧
      ∃ body s, t.document = Assembly.finalize body (Assembly.isInfrastructure d.body) s c.host
        t.records c.options.omitMetadata := by
  simp only [transformMap, returns_bind, Load.returns_ofEval, returns_get, returns_pure] at h
  obtain ⟨d, q, hd, body, _, ⟨s, -, rfl⟩, _, _, ⟨rfl, rfl⟩, rfl, rfl⟩ := h
  exact ⟨d, q, hd, rfl, body, s, rfl⟩

end Setting

/-- A document is written down with the imports in its graph, each before what it brings. -/
theorem records_in_preorder {c : Setting} {text location : String} {t : Transformed} {p : Progress}
    (h : Returns (c.transformText text location) .start t p) :
    ∃ root, Node.parse text location = .ok root ∧
      (∃ q, Returns (c.imports text location) .start t.records q) ∧
      ((∀ m, root ≠ .map m) → t.records = []) ∧
      ∀ m, root = .map m →
        (∃ g q, c.loader.Loads (c.options.limit + 1) m location .start g q) ∧
        ∀ g q, c.loader.Loads (c.options.limit + 1) m location .start g q →
          g.Located location ∧ t.records = g.records ∧
          (c.options.omitMetadata = false →
            "AWSTemplateFormatVersion" ∈ Entries.keys m ∨ "Resources" ∈ Entries.keys m →
            ∃ out metadata, t.document = .map out ∧ Entries.find? "Metadata" out = some metadata ∧
              ∀ entries, metadata = .map entries →
                Entries.find? "StencilRender" entries = some (.map [("Host", .string c.host),
                  ("Imports", .seq (g.records.map fun r => .map [("key", .string r.key),
                    ("from", .string r.importer), ("imported", .string r.imported),
                    ("sha256", .string r.digest)]))])) := by
  simp only [Setting.transformText, returns_bind, Load.returns_ofExcept] at h
  obtain ⟨root, _, ⟨hroot, rfl⟩, h⟩ := h
  refine ⟨root, hroot, ?_⟩
  simp only [Setting.imports, returns_bind, Load.returns_ofExcept, hroot]
  cases root with
  | map m =>
    obtain ⟨d, q, hd, hrecords, body, s, hdocument⟩ := Setting.returns_load_of_transformMap h
    refine ⟨⟨q, _, _, ⟨rfl, rfl⟩, ?_⟩, fun hno => absurd rfl (hno m), ?_⟩
    · simp only [returns_bind, returns_get, returns_pure]
      exact ⟨d, q, hd, q, q, ⟨rfl, rfl⟩, hrecords, rfl⟩
    · rintro _ ⟨⟩
      obtain ⟨g, hg, -⟩ := Loader.returns_loadWithin.mp hd
      refine ⟨⟨g, q, hg⟩, fun g' q' hg' => ?_⟩
      obtain ⟨rfl, rfl⟩ := hd.unique (Loader.returns_loadWithin.mpr ⟨g', hg', rfl⟩)
      have hall : t.records = g'.records := hrecords.trans hg'.records
      refine ⟨hg'.located, hall, fun homit hm => ?_⟩
      have hinfra : Assembly.isInfrastructure m = true := Assembly.isInfrastructure_iff.mpr hm
      rw [hg'.body_eq, Assembly.isInfrastructure_filter, hinfra, homit, hall] at hdocument
      obtain ⟨out, n, hout, hn, hrender⟩ := Assembly.finalize_describes body s c.host g'.records
      exact ⟨out, n, hdocument.trans hout, hn, hrender⟩
  | _ =>
    simp only [Setting.transform, returns_bind, returns_pure] at h
    obtain ⟨_, _, -, rfl, rfl⟩ := h
    refine ⟨⟨_, _, _, ⟨rfl, rfl⟩, returns_pure.mpr ⟨rfl, rfl⟩⟩, fun _ => rfl, ?_⟩
    rintro _ ⟨⟩

section Example

def stackText : String :=
  "$location: site.yaml\n$defs:\n  vpc:\n    $imports:\n      cidr: cidr.txt\n" ++
    "$imports:\n  net: net.yaml\n  zone: zone.txt\nResources: {}\n"

def netText : String := "$imports:\n  cidr: cidr.txt\n"

def netMap : Mapping := [(importsKey, .map [("cidr", .string "cidr.txt")])]

def stackMap : Mapping :=
  [(locationKey, .string "site.yaml"), (defsKey, .map [("vpc", .map netMap)]),
    (importsKey, .map [("net", .string "net.yaml"), ("zone", .string "zone.txt")]),
    ("Resources", .map [])]

def stackFile (t : String) : Fetched :=
  if t = "net.yaml" then ⟨t, netText.toUTF8, .map netMap⟩
  else if t = "cidr.txt" then ⟨t, "10.0.0.0/8".toUTF8, .string "10.0.0.0/8"⟩
  else ⟨t, "eu-1".toUTF8, .string "eu-1"⟩

abbrev stackSetting : Setting := ⟨⟨false, 2⟩, fun _ t _ => .ok (stackFile t), "host", .upTo 2⟩

def netDigest : String := "452797f5f427a95f06482e9596607160e1afb5a934b228be38e238282a1ca21a"

def cidrDigest : String := "93997fe8a8121085052fd8c9a6515591714f1b745733ac379f691a9074d518a5"

def zoneDigest : String := "a8ddeaba6ab6b4b31286462dacb0abc602a22c9cfdd604ff1814d706194e0ea1"

def stackRecords : List Record :=
  [⟨"cidr", "site.yaml", "cidr.txt", cidrDigest⟩, ⟨"net", "site.yaml", "net.yaml", netDigest⟩,
    ⟨"cidr", "net.yaml", "cidr.txt", cidrDigest⟩, ⟨"zone", "site.yaml", "zone.txt", zoneDigest⟩]

def stackImports : List Node :=
  [.map [("key", .string "cidr"), ("from", .string "site.yaml"), ("imported", .string "cidr.txt"),
      ("sha256", .string cidrDigest)],
    .map [("key", .string "net"), ("from", .string "site.yaml"), ("imported", .string "net.yaml"),
      ("sha256", .string netDigest)],
    .map [("key", .string "cidr"), ("from", .string "net.yaml"), ("imported", .string "cidr.txt"),
      ("sha256", .string cidrDigest)],
    .map [("key", .string "zone"), ("from", .string "site.yaml"), ("imported", .string "zone.txt"),
      ("sha256", .string zoneDigest)]]

def stackOutput : Node :=
  .map [("AWSTemplateFormatVersion", .string "2010-09-09"), ("Resources", .map []),
    ("Metadata", .map [("StencilRender",
      .map [("Host", .string "host"), ("Imports", .seq stackImports)])])]

def isStack : Except Error Node → Bool
  | .ok (.map [("$location", .string site),
      ("$defs", .map [("vpc", .map [("$imports", .map [("cidr", .string cidr)])])]),
      ("$imports", .map [("net", .string net), ("zone", .string zone)]), ("Resources", .map [])]) =>
    site == "site.yaml" && cidr == "cidr.txt" && net == "net.yaml" && zone == "zone.txt"
  | _ => false

set_option maxRecDepth 20000 in
theorem parse_stackText : Node.parse stackText "a.yaml" = .ok (.map stackMap) := by
  have h : isStack (Node.parse stackText "a.yaml") = true := by decide +kernel
  unfold isStack at h
  split at h
  · rename_i heq
    simp only [Bool.and_eq_true, beq_iff_eq] at h
    obtain ⟨⟨⟨rfl, rfl⟩, rfl⟩, rfl⟩ := h
    exact heq
  · cases h

theorem record_stackFile :
    [(stackFile "cidr.txt").record "cidr" "site.yaml", (stackFile "net.yaml").record "net" "site.yaml",
      (stackFile "cidr.txt").record "cidr" "net.yaml",
      (stackFile "zone.txt").record "zone" "site.yaml"] = stackRecords := by decide +kernel

theorem loads_stackMap :
    ∃ g q, stackSetting.loader.Loads 3 stackMap "a.yaml" .start g q ∧ q.sections = [] ∧
      g.records = stackRecords := by
  have hcidr (base : String) (hbase : base = "site.yaml" ∨ base = "net.yaml") :
      Loading.target base .empty "cidr" (.string "cidr.txt") = .ok "cidr.txt" := by
    rcases hbase with rfl | rfl <;> with_unfolding_all exact rfl
  have hnet (scope : Scope) :
      Loading.target "site.yaml" scope "net" (.string "net.yaml") = .ok "net.yaml" := by
    with_unfolding_all exact rfl
  have hzone (scope : Scope) :
      Loading.target "site.yaml" scope "zone" (.string "zone.txt") = .ok "zone.txt" := by
    with_unfolding_all exact rfl
  exact ⟨_, _, .intro rfl rfl rfl rfl
    (.document rfl (.intro rfl rfl rfl rfl .nil (.leaf (hcidr _ (.inl rfl)) rfl rfl .nil)) .nil)
    (.node (hnet _) rfl rfl
      (.intro rfl rfl rfl rfl .nil (.leaf (hcidr _ (.inr rfl)) rfl rfl .nil))
      (.leaf (hzone _) rfl rfl .nil)), rfl, record_stackFile⟩

theorem records_in_preorder_stack :
    ∃ p g q, Returns (stackSetting.transformText stackText "a.yaml") .start
        ⟨stackOutput, stackRecords⟩ p ∧
      stackSetting.loader.Loads 3 stackMap "a.yaml" .start g q ∧ g.Located "a.yaml" ∧
      g.records = stackRecords ∧
      ∃ q, Returns (stackSetting.imports stackText "a.yaml") .start stackRecords q := by
  obtain ⟨g, q, hg, hs, hrecorded⟩ := loads_stackMap
  have hq : q.records = stackRecords := hg.records.trans hrecorded
  have hd : Returns (stackSetting.loader.load stackMap "a.yaml") .start g.loaded q :=
    Loader.returns_loadWithin.mpr ⟨g, hg, rfl⟩
  have hbody (env : Env) : Returns (stackSetting.evaluator.map g.loaded.body Path.root env) []
      [("Resources", .map [])] [] := by
    rw [hg.body_eq]
    with_unfolding_all exact rfl
  have h : Returns (stackSetting.transformMap stackMap "a.yaml") .start
      ⟨stackOutput, stackRecords⟩ q := by
    simp only [Setting.transformMap, returns_bind, Load.returns_ofEval, returns_get, returns_pure]
    refine ⟨_, _, hd, _, q, ⟨[], by rw [hs]; exact hbody _, ?_⟩, _, _, ⟨rfl, rfl⟩, ?_, rfl⟩
    · rw [← hs]
    · rw [hq, hs, hg.body_eq]
      with_unfolding_all exact rfl
  have htext : Returns (stackSetting.transformText stackText "a.yaml") .start
      ⟨stackOutput, stackRecords⟩ q :=
    returns_bind.mpr ⟨_, _, Load.returns_ofExcept.mpr ⟨parse_stackText, rfl⟩, h⟩
  obtain ⟨root, hroot, himports, -, hall⟩ := records_in_preorder htext
  rw [parse_stackText] at hroot
  cases hroot
  obtain ⟨hlocated, hrecords, -⟩ := (hall _ rfl).2 g q hg
  exact ⟨q, g, q, htext, hg, hlocated, hrecords.symm, himports⟩

end Example

end InfraTemplate
