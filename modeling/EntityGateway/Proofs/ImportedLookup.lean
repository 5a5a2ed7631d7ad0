import EntityGateway.Proofs.JsonRoundTrip
import EntityGateway.Proofs.RepeatedImport
import EntityGateway.Proofs.LocalNetwork
import EntityGateway.Session

/-!
# Looking up what an import stored

A fixture without a configuration of its own registers the stock configuration of its data
sources, which reads back from its stored text as itself (`storedForm_defaultConfig`), so the
engine of a fresh session on the fixture knows exactly the fixture's data sources
(`mem_dataSources_created`), and finds each record under its coordinates with the entity of
its last occurrence (`resolveRecord_created`).

A record identifier in JSON names its data source trimmed and upper-cased
(`ofJson_record`): a record resolves through its identifier when its data source is written
so already (`resolve_imported_record`). A fixture that writes one data source in lower and
in upper case has the identifier of the lower-case record resolve to the upper-case one
(`casedSources_resolve_upper`).

An entity's data, with its related entities, needs records for each of them
(`entityData_ok_iff`): an import stores relationships to entities without records, whose
lookup then fails.
-/

namespace EntityGateway

/-! ## The stock configuration -/

theorem plain_defaultConfig (dataSources : List String) : Json.Plain 3 (defaultConfig dataSources) := by
  -- texts, arrays of texts and arrays of objects of texts: three levels
  have hpairs : ∀ (a b : String) (pairs : List (String × String)),
      ∀ x ∈ pairs.map (fun (p : String × String) => Json.obj [(a, .string p.1), (b, .string p.2)]),
        Json.Plain 1 x := by
    intro a b pairs x hx
    obtain ⟨p, -, rfl⟩ := List.mem_map.1 hx
    refine Json.Plain.obj fun m hm => ?_
    simp only [List.mem_cons, List.not_mem_nil, or_false] at hm
    rcases hm with rfl | rfl <;> exact .string _
  refine Json.Plain.obj fun m hm => ?_
  simp only [List.mem_cons, List.not_mem_nil, or_false] at hm
  rcases hm with rfl | rfl | rfl
  · refine .array fun x hx => ?_
    obtain ⟨s, -, rfl⟩ := List.mem_map.1 hx
    exact .string s
  · exact .array (hpairs "FTYPE_CODE" "ATTR_CLASS" stockFeatureTypes)
  · exact .array (hpairs "ATTR_CODE" "FTYPE_CODE" stockAttributes)

/-- The stock configuration is stored as it is. -/
theorem storedForm_defaultConfig (dataSources : List String) :
    Repository.storedForm (defaultConfig dataSources) = defaultConfig dataSources := by
  rw [Repository.storedForm, Json.parse_compact (plain_defaultConfig dataSources) (by decide)]

theorem get?_defaultConfig (dataSources : List String) :
    (defaultConfig dataSources).get? "DATA_SOURCES" = some (Json.strings dataSources) := by
  simp +decide [defaultConfig, Json.obj, Json.insertMember, Json.get?, List.lookup_cons]

theorem mem_insertAscending_iff {α : Type} [Ord α] [Std.LawfulEqOrd α] {x y : α} {l : List α} :
    x ∈ insertAscending y l ↔ x = y ∨ x ∈ l := by
  induction l with
  | nil => simp [insertAscending]
  | cons z rest ih =>
    simp only [insertAscending]
    cases hc : compare y z
    · simp
    · obtain rfl := Std.LawfulEqOrd.eq_of_compare hc
      simp
    · simp only [List.mem_cons, ih]
      tauto

theorem mem_foldl_insertAscending {α : Type} [Ord α] [Std.LawfulEqOrd α] {x : α} (l acc : List α) :
    x ∈ l.foldl (fun acc y => insertAscending y acc) acc ↔ x ∈ acc ∨ x ∈ l := by
  induction l generalizing acc with
  | nil => simp
  | cons y l ih =>
    rw [List.foldl_cons, ih, mem_insertAscending_iff, List.mem_cons]
    tauto

/-- An engine on the stock configuration knows exactly its data sources. -/
theorem mem_dataSources_defaultConfig {dataSources : List String} {s : String} :
    s ∈ (EngineSettings.ofDocument (defaultConfig dataSources)).dataSources ↔ s ∈ dataSources := by
  simp only [EngineSettings.ofDocument, EngineSettings.entries, get?_defaultConfig, Json.strings,
    List.foldl_map]
  rw [mem_foldl_insertAscending]
  simp

namespace RepositoryFixture

/-- The configuration an import of a fixture registers: its own, or the stock configuration of
its data sources. -/
def configDocument (f : RepositoryFixture) : Json := f.config.getD (defaultConfig f.dataSources)

theorem mem_dataSources {f : RepositoryFixture} {s : String} :
    s ∈ f.dataSources ↔ ∃ r ∈ f.storedRecords, r.document.dataSource = s := by
  have hfold : f.dataSources =
      (f.storedRecords.map (·.document.dataSource)).foldl (fun acc s => insertAscending s acc) [] := by
    simp [dataSources, storedRecords, List.foldl_flatMap, List.foldl_map]
  rw [hfold, mem_foldl_insertAscending]
  simp [eq_comm]

end RepositoryFixture

/-! ## A fresh session on a fixture -/

namespace Repository

/-- A fresh import registers the fixture's configuration as the only one, and the default. -/
theorem configs_importFixture_empty (f : RepositoryFixture) :
    (({} : Repository).importFixture f).1.configs =
      [⟨configIdOf f.configDocument, storedForm f.configDocument, true⟩] := by
  rw [configs_importFixture, registerConfig_eq]
  simp [insertConfig, RepositoryFixture.configDocument]

end Repository

namespace Session

/-- The engine of a fresh session on a fixture runs on the configuration the import registered,
as it was stored. -/
theorem engine_create (f : RepositoryFixture) :
    (create (some f)).1.engine =
      ⟨(({} : Repository).importFixture f).1, configIdOf f.configDocument,
        EngineSettings.ofDocument (Repository.storedForm f.configDocument)⟩ := by
  have hconfigs := Repository.configs_importFixture_empty f
  simp [create, ofRepository, LocalEngine.start, engine, Repository.defaultConfigId, Repository.config,
    hconfigs]

/-- The engine of a fresh session on a fixture without a configuration knows exactly the data
sources of the fixture's records. -/
theorem mem_dataSources_created {f : RepositoryFixture} (hconfig : f.config = none) {s : String} :
    s ∈ (create (some f)).1.engine.settings.dataSources ↔ ∃ r ∈ f.storedRecords, r.document.dataSource = s := by
  rw [engine_create, RepositoryFixture.configDocument, hconfig, Option.getD_none, storedForm_defaultConfig]
  exact mem_dataSources_defaultConfig.trans RepositoryFixture.mem_dataSources

/-- The engine of a fresh session on a fixture without a configuration finds a record under its
coordinates, with the entity of its last occurrence. -/
theorem resolveRecord_created {f : RepositoryFixture} (hconfig : f.config = none) {ds rid : String}
    {r : StoredRecord} (hlast : f.lastRecord ds rid = some r) :
    (create (some f)).1.engine.resolveRecord ds rid = .ok r.entityId := by
  have hmem : r ∈ f.storedRecords := List.mem_reverse.1 (List.mem_of_find?_eq_some hlast)
  have hds : r.document.dataSource = ds := by
    have hsat := List.find?_some hlast
    simp only [decide_eq_true_eq] at hsat
    exact hsat.1
  have hknown : ds ∈ (create (some f)).1.engine.settings.dataSources :=
    (mem_dataSources_created hconfig).2 ⟨r, hmem, hds⟩
  have hfound : (create (some f)).1.engine.repo.findRecord ds rid = some r := by
    rw [engine_create, Repository.findRecord_eq, Repository.records_importFixture Repository.ordered_empty,
      entryAt_foldl_upsertByKey, ← Repository.lastRecord_eq, hlast, Option.some_or]
  simp [LocalEngine.resolveRecord, LocalEngine.storedRecord, LocalEngine.requireDataSource, hknown, hfound,
    Except.map, bind, Except.bind]

end Session

/-! ## Resolving a record identifier -/

namespace EntityIdentifier

/-- A record identifier in JSON names its data source trimmed and upper-cased. -/
theorem ofJson_record {ds rid : String} (hds : ds.trimBlank ≠ "") (hrid : rid ≠ "") :
    ofJson (Json.obj [("src", .string ds), ("id", .string rid)]) = .ok (.record ds.trimBlank.upper rid) := by
  have hlt : ("id" : String) < "src" := by decide
  have hobj : Json.obj [("src", .string ds), ("id", .string rid)] =
      .object [("id", .string rid), ("src", .string ds)] := by
    simp only [Json.obj, List.foldl_cons, List.foldl_nil, Json.insertMember, if_pos hlt]
  have hsrc : ((Json.object [("id", .string rid), ("src", .string ds)]).get? "src") = some (.string ds) := by
    simp +decide [Json.get?, List.lookup_cons]
  have hid : ((Json.object [("id", .string rid), ("src", .string ds)]).get? "id") = some (.string rid) := by
    simp +decide [Json.get?]
  simp only [Json.get?] at hsrc hid
  rw [hobj]
  simp [ofJson, ofMembers, firstMember?, List.findSome?, hsrc, hid, memberText?, hds, hrid, ofRecord]

end EntityIdentifier

namespace Session

/-- Resolving a record identifier given in JSON looks the record up under its normalized data
source. -/
theorem runService_resolve_record (s : Session) {ds rid : String} (hds : ds.trimBlank ≠ "") (hrid : rid ≠ "") :
    (s.runService (Service.lift (EntityIdentifier.ofJson (Json.obj [("src", .string ds), ("id", .string rid)])) >>=
        Service.resolve localEngine)).1 =
      (s.engine.resolveRecord ds.trimBlank.upper rid).mapError GatewayError.ofFailure := by
  have hrun : (Service.lift (EntityIdentifier.ofJson (Json.obj [("src", .string ds), ("id", .string rid)])) >>=
      Service.resolve localEngine).exec s.engine =
      ((s.engine.resolveRecord ds.trimBlank.upper rid).mapError GatewayError.ofFailure, s.engine) := by
    rw [Service.exec_bind, Service.exec_lift, EntityIdentifier.ofJson_record hds hrid]
    exact LocalEngine.exec_call_answer (·.resolveRecord ds.trimBlank.upper rid) s.engine
  simp only [Service.exec] at hrun
  simp only [runService, hrun]

/-- **Resolving imported records.** In a fresh session on a fixture without a configuration,
every record whose data source is written trimmed and in upper case resolves, through its
identifier in JSON, to the entity of the last occurrence of its coordinates. -/
theorem resolve_imported_record {f : RepositoryFixture} (hconfig : f.config = none) {ds rid : String}
    {r : StoredRecord} (hlast : f.lastRecord ds rid = some r) (hds : ds.trimBlank.upper = ds)
    (hne : ds ≠ "") (hrid : rid ≠ "") :
    ((create (some f)).1.runService
      (Service.lift (EntityIdentifier.ofJson (Json.obj [("src", .string ds), ("id", .string rid)])) >>=
        Service.resolve localEngine)).1 = .ok r.entityId := by
  have htrim : ds.trimBlank ≠ "" := by
    intro h
    apply hne
    rw [← hds, h]
    decide +kernel
  rw [runService_resolve_record _ htrim hrid, hds, resolveRecord_created hconfig hlast]
  rfl

/-- One record id under a data source written in lower case and in upper case. -/
def casedSources : RepositoryFixture where
  entities := [⟨1, [⟨"customers", "1001", none, [], RecordDocument.noFeatures_ascending, [], []⟩]⟩,
    ⟨2, [⟨"CUSTOMERS", "1001", none, [], RecordDocument.noFeatures_ascending, [], []⟩]⟩]

theorem casedSources_resolve_last :
    ((create (some casedSources)).1.runService
      (Service.lift (EntityIdentifier.ofJson (Json.obj [("src", .string "CUSTOMERS"), ("id", .string "1001")])) >>=
        Service.resolve localEngine)).1 = .ok 2 :=
  resolve_imported_record (r := ⟨2, ⟨"CUSTOMERS", "1001", none, [], RecordDocument.noFeatures_ascending, [], []⟩⟩)
    rfl (by decide +kernel) (by decide +kernel) (by decide) (by decide)

/-- The identifier of the lower-case record resolves to the upper-case one, while the last
occurrence of its coordinates belongs to entity 1. -/
theorem casedSources_resolve_upper :
    casedSources.lastRecord "customers" "1001" =
      some ⟨1, ⟨"customers", "1001", none, [], RecordDocument.noFeatures_ascending, [], []⟩⟩ ∧
    ((create (some casedSources)).1.runService
      (Service.lift (EntityIdentifier.ofJson (Json.obj [("src", .string "customers"), ("id", .string "1001")])) >>=
        Service.resolve localEngine)).1 = .ok 2 := by
  refine ⟨by decide +kernel, ?_⟩
  have hupper : "customers".trimBlank.upper = "CUSTOMERS" := by decide +kernel
  rw [runService_resolve_record _ (by decide +kernel) (by decide), hupper,
    resolveRecord_created (r := ⟨2, ⟨"CUSTOMERS", "1001", none, [], RecordDocument.noFeatures_ascending, [], []⟩⟩)
      rfl (by decide +kernel)]
  rfl

end Session

/-! ## Entities and their related entities -/

namespace LocalEngine

theorem entityRecords_ok_iff (e : LocalEngine) (entityId : Int) :
    (∃ rs, e.entityRecords entityId = .ok rs) ↔ e.repo.recordsOf entityId ≠ [] := by
  unfold entityRecords
  split <;> simp_all

theorem relatedEntity_ok_iff (e : LocalEngine) (flags : EngineFlags) (counts : Option FeatureCounts)
    (rel : StoredRelationship) :
    (∃ r, e.relatedEntity flags counts rel = .ok r) ↔ e.repo.recordsOf rel.relatedId ≠ [] := by
  rw [← entityRecords_ok_iff]
  unfold relatedEntity
  cases e.entityRecords rel.relatedId <;> simp [bind, Except.bind, pure, Except.pure]

/-- **Entity data.** The data of an entity is found exactly when the entity has records and,
when related entities are asked for, each entity it has a stored relationship to has records
too: a relationship to an entity without records fails the lookup of the entity it is
stored for. -/
theorem entityData_ok_iff (e : LocalEngine) (entityId : Int) (flags : EngineFlags) :
    (∃ d, e.entityData entityId flags = .ok d) ↔ e.repo.recordsOf entityId ≠ [] ∧
      (flags.related = true → ∀ rel ∈ e.repo.relationshipsOf entityId, e.repo.recordsOf rel.relatedId ≠ []) := by
  rw [← entityRecords_ok_iff]
  unfold entityData
  cases hrs : e.entityRecords entityId with
  | error f => simp [bind, Except.bind]
  | ok rs =>
    -- the related entities are the only other step that can fail
    have hrelated : ∀ counts, (∃ related, ((e.repo.relationshipsOf entityId).mapM
        (e.relatedEntity flags counts)) = .ok related) ↔
        ∀ rel ∈ e.repo.relationshipsOf entityId, e.repo.recordsOf rel.relatedId ≠ [] := by
      intro counts
      rw [exists_mapM_eq_ok_iff]
      exact forall₂_congr fun rel _ => relatedEntity_ok_iff e flags counts rel
    cases hflag : flags.related
    · simp [bind, Except.bind, pure, Except.pure]
    · simp only [bind, Except.bind, pure, Except.pure, ↓reduceIte]
      rw [← hrelated (if flags.featureStats = true then some (featureCounts e.repo) else none)]
      constructor
      · rintro ⟨d, hd⟩
        split at hd
        · cases hd
        · next related hrel => exact ⟨⟨rs, rfl⟩, fun _ => ⟨related, hrel⟩⟩
      · rintro ⟨-, hrel⟩
        obtain ⟨related, hr⟩ := hrel trivial
        exact ⟨_, by rw [hr]⟩

end LocalEngine

end EntityGateway
