import EntityGateway.Proofs.KeyedRows
import EntityGateway.Proofs.MirroredWhy
import Mathlib.Data.Prod.Lex

/-!
# Importing a fixture twice

An import stores each record of a fixture under its coordinates (data source and record id),
counting it as unchanged when the stored record already belongs to the same entity with the same
document, and as inserted otherwise; it stores each relationship both ways, names each entity,
and registers the fixture's configuration as the default. Importing the same fixture again right
after:

* leaves every table as the first import left it (`importFixture_again_tables`): each table
  keeps its rows in key order, so a run of upserts repeated is the run once
  (`foldl_upsertByKey_twice`), and the configuration is registered already;
* counts every record of the fixture once, as inserted or unchanged, as every import does
  (`importFixture_counts`);
* inserts nothing exactly when every record of the fixture is the last record of the fixture
  with its coordinates (`importFixture_again_inserts_none_iff`). A fixture that lists one record
  twice, under two entities or with two documents, has the first import end with the last of
  them, and the second import store each of them again.
-/

namespace EntityGateway

/-- The coordinates of a stored record, in the order of the records table: data source, then
record id. -/
def StoredRecord.coordinates (r : StoredRecord) : String ×ₗ String :=
  toLex (r.document.dataSource, r.document.recordId)

/-- The two entities of a relationship row, in the order of the relationships table. -/
def StoredRelationship.between (r : StoredRelationship) : Int ×ₗ Int := toLex (r.entityId, r.relatedId)

namespace RepositoryFixture

/-- The records of a fixture as an import stores them, each with its entity, in fixture order. -/
def storedRecords (f : RepositoryFixture) : List StoredRecord :=
  f.entities.flatMap fun e => e.records.map (⟨e.entityId, ·⟩)

/-- The relationship rows of a fixture as an import stores them: each relationship, then its
reverse. -/
def storedRelationships (f : RepositoryFixture) : List StoredRelationship :=
  f.relationships.flatMap fun r => [r, r.reversed]

/-- The last record of a fixture with the given coordinates, with its entity. -/
def lastRecord (f : RepositoryFixture) (dataSource recordId : String) : Option StoredRecord :=
  f.storedRecords.reverse.find? fun r => r.document.dataSource = dataSource ∧ r.document.recordId = recordId

end RepositoryFixture

namespace Repository

attribute [ext] Repository

/-! ## The tables as keyed rows -/

theorem upsertRecord_eq (r : StoredRecord) (rows : List StoredRecord) :
    upsertRecord r rows = upsertByKey StoredRecord.coordinates r rows := by
  induction rows with
  | nil => rfl
  | cons s rest ih =>
    simp only [upsertRecord, upsertByKey, ih]
    rfl

theorem upsertRelationship_eq (r : StoredRelationship) (rows : List StoredRelationship) :
    upsertRelationship r rows = upsertByKey StoredRelationship.between r rows := by
  induction rows with
  | nil => rfl
  | cons s rest ih =>
    simp only [upsertRelationship, upsertByKey, ih]
    rfl

theorem insertAscending_eq (x : Int) (ids : List Int) : insertAscending x ids = upsertByKey id x ids := by
  induction ids with
  | nil => rfl
  | cons y rest ih =>
    simp only [insertAscending, upsertByKey, id, ih]
    cases hc : compare x y
    · rfl
    · rw [compare_eq_iff_eq.1 hc]
    · rfl

theorem findRecord_eq (repo : Repository) (dataSource recordId : String) :
    repo.findRecord dataSource recordId =
      entryAt StoredRecord.coordinates repo.records (toLex (dataSource, recordId)) := by
  simp [findRecord, entryAt, StoredRecord.coordinates]

/-! ## What an import does to each table -/

/-- What importing one record does to the records table and the counts: a record stored as it
is already counts as unchanged; any other is stored over the record with its coordinates and
counts as inserted. -/
def recordStep (acc : List StoredRecord × ImportStats) (r : StoredRecord) :
    List StoredRecord × ImportStats :=
  if entryAt StoredRecord.coordinates acc.1 r.coordinates = some r then
    (acc.1, { acc.2 with unchanged := acc.2.unchanged + 1 })
  else (upsertByKey StoredRecord.coordinates r acc.1, { acc.2 with inserted := acc.2.inserted + 1 })

theorem importRecord_eq (entityId : Int) (acc : Repository × ImportStats) (doc : RecordDocument) :
    importRecord entityId acc doc =
      ({ acc.1 with records := (recordStep (acc.1.records, acc.2) ⟨entityId, doc⟩).1 },
        (recordStep (acc.1.records, acc.2) ⟨entityId, doc⟩).2) := by
  obtain ⟨repo, stats⟩ := acc
  simp only [importRecord, recordStep, findRecord_eq, upsertRecord_eq, StoredRecord.coordinates]
  split
  · -- the stored record is the one imported exactly when its entity and document are
    rename_i r hr
    obtain ⟨e', d'⟩ := r
    simp only [hr, Option.some.injEq, StoredRecord.mk.injEq]
    split_ifs <;> rfl
  · rename_i hnone
    simp [hnone]

theorem foldl_importRecord (entityId : Int) (docs : List RecordDocument) (acc : Repository × ImportStats) :
    docs.foldl (importRecord entityId) acc =
      ({ acc.1 with records := ((docs.map (⟨entityId, ·⟩)).foldl recordStep (acc.1.records, acc.2)).1 },
        ((docs.map (⟨entityId, ·⟩)).foldl recordStep (acc.1.records, acc.2)).2) := by
  induction docs generalizing acc with
  | nil => rfl
  | cons doc docs ih =>
    rw [List.foldl_cons, ih, importRecord_eq]
    rfl

/-- Importing the entities of a fixture names their ids in the entities table and runs
`recordStep` over their records in order, leaving the other tables. -/
theorem foldl_importEntity (es : List FixtureEntity) (acc : Repository × ImportStats) :
    es.foldl importEntity acc =
      ({ acc.1 with
          entities := (es.map (·.entityId)).foldl (fun ids i => insertAscending i ids) acc.1.entities,
          records := ((es.flatMap fun e => e.records.map (⟨e.entityId, ·⟩)).foldl recordStep
            (acc.1.records, acc.2)).1 },
        ((es.flatMap fun e => e.records.map (⟨e.entityId, ·⟩)).foldl recordStep
          (acc.1.records, acc.2)).2) := by
  induction es generalizing acc with
  | nil => rfl
  | cons e es ih =>
    rw [List.foldl_cons, ih]
    simp only [importEntity, foldl_importRecord, List.map_cons, List.foldl_cons, List.flatMap_cons,
      List.foldl_append]

/-- Importing the relationships of a fixture stores each both ways and counts it. -/
theorem foldl_importRelationship (rels : List StoredRelationship) (acc : Repository × ImportStats) :
    rels.foldl importRelationship acc =
      ({ acc.1 with relationships := ((rels.flatMap fun r => [r, r.reversed]).foldl
          (fun rows x => upsertByKey StoredRelationship.between x rows) acc.1.relationships) },
        { acc.2 with relationships := acc.2.relationships + rels.length }) := by
  induction rels generalizing acc with
  | nil => rfl
  | cons rel rels ih =>
    rw [List.foldl_cons, ih]
    simp only [importRelationship, upsertRelationship_eq, List.flatMap_cons, List.foldl_append,
      List.foldl_cons, List.foldl_nil, List.length_cons]
    congr 2
    omega

/-! ## Registering a configuration -/

theorem insertConfig_ne_nil (c : StoredConfig) (configs : List StoredConfig) : insertConfig c configs ≠ [] := by
  cases configs with
  | nil => simp [insertConfig]
  | cons s rest =>
    unfold insertConfig
    split_ifs <;> simp

/-- Registering a configuration adds it unless its id is registered, and making it the default
marks it and unmarks every other. -/
theorem registerConfig_eq (repo : Repository) (document : Json) (makeDefault : Bool) :
    repo.registerConfig document makeDefault =
      ({ repo with configs :=
          (if makeDefault then
            List.map (fun c => { c with isDefault := decide (c.id = configIdOf document) })
              (insertConfig ⟨configIdOf document, storedForm document, false⟩ repo.configs)
          else insertConfig ⟨configIdOf document, storedForm document, false⟩ repo.configs) },
        configIdOf document) := by
  cases makeDefault with
  | false => rfl
  | true =>
    have hne := insertConfig_ne_nil ⟨configIdOf document, storedForm document, false⟩ repo.configs
    simp [registerConfig, setDefaultConfig, List.isEmpty_iff, hne]

theorem insertConfig_insertConfig (c : StoredConfig) (configs : List StoredConfig) :
    insertConfig c (insertConfig c configs) = insertConfig c configs := by
  induction configs with
  | nil => simp [insertConfig]
  | cons s rest ih =>
    unfold insertConfig
    by_cases hlt : c.id < s.id
    · simp [insertConfig, hlt]
    · by_cases heq : c.id = s.id
      · simp [insertConfig, heq]
      · simp [insertConfig, hlt, heq, ih]

/-- Adding a configuration looks only at ids, so it commutes with a change that keeps them. -/
theorem map_insertConfig {d : StoredConfig → StoredConfig} (hd : ∀ c, (d c).id = c.id)
    (c : StoredConfig) (configs : List StoredConfig) :
    (insertConfig c configs).map d = insertConfig (d c) (configs.map d) := by
  induction configs with
  | nil => simp [insertConfig]
  | cons s rest ih =>
    unfold insertConfig
    by_cases hlt : c.id < s.id
    · simp [hlt, hd]
    · by_cases heq : c.id = s.id
      · simp [heq, hd]
      · simp [hlt, heq, hd, ih]

/-! ## An import as runs of upserts -/

/-- An import registers the fixture's configuration as the default, upserts the ids of its
entities, runs `recordStep` over its records, and upserts its relationships both ways. -/
theorem importFixture_eq (repo : Repository) (f : RepositoryFixture) :
    repo.importFixture f =
      let registered := repo.registerConfig (f.config.getD (defaultConfig f.dataSources)) true
      let recorded := f.storedRecords.foldl recordStep (repo.records, { configId := registered.2 })
      ({ entities := (f.entities.map (·.entityId)).foldl (fun ids i => upsertByKey id i ids) repo.entities
         records := recorded.1
         relationships := f.storedRelationships.foldl
          (fun rows x => upsertByKey StoredRelationship.between x rows) repo.relationships
         configs := registered.1.configs },
        { recorded.2 with relationships := recorded.2.relationships + f.relationships.length }) := by
  unfold importFixture
  simp only [registerConfig_eq, if_true]
  rw [foldl_importRelationship, foldl_importEntity]
  simp only [insertAscending_eq, RepositoryFixture.storedRecords, RepositoryFixture.storedRelationships]

/-! ## Tables kept in key order -/

/-- The tables of a repository keep their keys strictly ascending: entity ids, record
coordinates, and the pairs of entities of relationship rows. -/
structure Ordered (repo : Repository) : Prop where
  entities : KeysStrict id repo.entities
  records : KeysStrict StoredRecord.coordinates repo.records
  relationships : KeysStrict StoredRelationship.between repo.relationships

theorem ordered_empty : Ordered {} := ⟨List.Pairwise.nil, List.Pairwise.nil, List.Pairwise.nil⟩

/-- On a table in key order, a record step stores its record: skipping a record the table holds
already is storing it over itself. -/
theorem recordStep_fst {acc : List StoredRecord × ImportStats} (h : KeysStrict StoredRecord.coordinates acc.1)
    (r : StoredRecord) : (recordStep acc r).1 = upsertByKey StoredRecord.coordinates r acc.1 := by
  unfold recordStep
  split_ifs with hr
  · exact (upsertByKey_of_entryAt h hr).symm
  · rfl

theorem foldl_recordStep_fst (items : List StoredRecord) {acc : List StoredRecord × ImportStats}
    (h : KeysStrict StoredRecord.coordinates acc.1) :
    (items.foldl recordStep acc).1 =
      items.foldl (fun rows x => upsertByKey StoredRecord.coordinates x rows) acc.1 := by
  induction items generalizing acc with
  | nil => rfl
  | cons r items ih =>
    have hstep := recordStep_fst h r
    rw [List.foldl_cons, List.foldl_cons, ih (hstep ▸ keysStrict_upsertByKey r h), hstep]

theorem Ordered.importFixture {repo : Repository} (h : repo.Ordered) (f : RepositoryFixture) :
    (repo.importFixture f).1.Ordered := by
  rw [importFixture_eq]
  dsimp only
  refine ⟨keysStrict_foldl_upsertByKey _ h.entities, ?_, keysStrict_foldl_upsertByKey _ h.relationships⟩
  rw [foldl_recordStep_fst _ h.records]
  exact keysStrict_foldl_upsertByKey _ h.records

theorem Ordered.registerConfig {repo : Repository} (h : repo.Ordered) (document : Json) (makeDefault : Bool) :
    (repo.registerConfig document makeDefault).1.Ordered := by
  rw [registerConfig_eq]
  exact ⟨h.entities, h.records, h.relationships⟩

theorem Ordered.setDefaultConfig {repo repo' : Repository} (h : repo.Ordered) {id : Int}
    (hset : repo.setDefaultConfig id = .ok repo') : repo'.Ordered := by
  unfold Repository.setDefaultConfig at hset
  split at hset
  · cases hset
  · cases hset
    exact ⟨h.entities, h.records, h.relationships⟩

/-- Every repository that imports and configuration changes reach keeps its tables in key
order. -/
theorem Reachable.ordered {repo : Repository} (h : repo.Reachable) : repo.Ordered := by
  induction h with
  | empty => exact ordered_empty
  | imported f _ ih => exact ih.importFixture f
  | registered document makeDefault _ ih => exact ih.registerConfig document makeDefault
  | defaultSet id _ hset ih => exact ih.setDefaultConfig hset

/-! ## What an import leaves in each table -/

theorem entities_importFixture (repo : Repository) (f : RepositoryFixture) :
    (repo.importFixture f).1.entities =
      (f.entities.map (·.entityId)).foldl (fun ids i => upsertByKey id i ids) repo.entities := by
  rw [importFixture_eq]

theorem records_importFixture {repo : Repository} (h : repo.Ordered) (f : RepositoryFixture) :
    (repo.importFixture f).1.records =
      f.storedRecords.foldl (fun rows x => upsertByKey StoredRecord.coordinates x rows) repo.records := by
  rw [importFixture_eq]
  exact foldl_recordStep_fst _ h.records

theorem relationships_importFixture (repo : Repository) (f : RepositoryFixture) :
    (repo.importFixture f).1.relationships =
      f.storedRelationships.foldl (fun rows x => upsertByKey StoredRelationship.between x rows)
        repo.relationships := by
  rw [importFixture_eq]

theorem configs_importFixture (repo : Repository) (f : RepositoryFixture) :
    (repo.importFixture f).1.configs =
      (repo.registerConfig (f.config.getD (defaultConfig f.dataSources)) true).1.configs := by
  rw [importFixture_eq]

/-- Registering a configuration as the default where the configurations are those that
registering it as the default left changes nothing. -/
theorem configs_registerConfig_again {repo repo' : Repository} {document : Json}
    (h : repo'.configs = (repo.registerConfig document true).1.configs) :
    (repo'.registerConfig document true).1.configs = repo'.configs := by
  let c : StoredConfig := ⟨configIdOf document, storedForm document, false⟩
  let d : StoredConfig → StoredConfig := fun s => { s with isDefault := decide (s.id = configIdOf document) }
  have hd : ∀ s, (d s).id = s.id := fun _ => rfl
  have hdd : ∀ configs : List StoredConfig, (configs.map d).map d = configs.map d := by
    intro configs
    simp [List.map_map, Function.comp_def, d]
  simp only [registerConfig_eq, if_true] at h ⊢
  rw [h]
  calc (insertConfig c ((insertConfig c repo.configs).map d)).map d
      = insertConfig (d c) (((insertConfig c repo.configs).map d).map d) := map_insertConfig hd _ _
    _ = insertConfig (d c) ((insertConfig c repo.configs).map d) := by rw [hdd]
    _ = (insertConfig c (insertConfig c repo.configs)).map d := (map_insertConfig hd _ _).symm
    _ = (insertConfig c repo.configs).map d := by rw [insertConfig_insertConfig]

/-! ## Counting records -/

theorem recordStep_counts (acc : List StoredRecord × ImportStats) (r : StoredRecord) :
    (recordStep acc r).2.inserted + (recordStep acc r).2.unchanged =
      acc.2.inserted + acc.2.unchanged + 1 := by
  unfold recordStep
  split_ifs <;> dsimp only <;> omega

theorem foldl_recordStep_counts (items : List StoredRecord) (acc : List StoredRecord × ImportStats) :
    (items.foldl recordStep acc).2.inserted + (items.foldl recordStep acc).2.unchanged =
      acc.2.inserted + acc.2.unchanged + items.length := by
  induction items generalizing acc with
  | nil => rfl
  | cons r items ih =>
    rw [List.foldl_cons, ih, recordStep_counts, List.length_cons]
    omega

theorem inserted_le_foldl_recordStep (items : List StoredRecord) (acc : List StoredRecord × ImportStats) :
    acc.2.inserted ≤ (items.foldl recordStep acc).2.inserted := by
  induction items generalizing acc with
  | nil => exact le_rfl
  | cons r items ih =>
    refine le_trans ?_ (ih (recordStep acc r))
    unfold recordStep
    split_ifs <;> dsimp only <;> omega

/-- A run of record steps inserts nothing exactly when the table holds each of its records
already. -/
theorem foldl_recordStep_inserted_eq_iff (items : List StoredRecord) (acc : List StoredRecord × ImportStats) :
    (items.foldl recordStep acc).2.inserted = acc.2.inserted ↔
      ∀ r ∈ items, entryAt StoredRecord.coordinates acc.1 r.coordinates = some r := by
  induction items generalizing acc with
  | nil => simp
  | cons r items ih =>
    rw [List.foldl_cons, List.forall_mem_cons]
    by_cases hr : entryAt StoredRecord.coordinates acc.1 r.coordinates = some r
    · -- a record held already leaves the table and the inserted count as they are
      have hstep : recordStep acc r = (acc.1, { acc.2 with unchanged := acc.2.unchanged + 1 }) := by
        simp [recordStep, hr]
      rw [hstep, ih]
      simp [hr]
    · -- any other counts as inserted, and the count never goes back
      have hstep : recordStep acc r =
          (upsertByKey StoredRecord.coordinates r acc.1, { acc.2 with inserted := acc.2.inserted + 1 }) := by
        simp [recordStep, hr]
      have hmore := inserted_le_foldl_recordStep items (recordStep acc r)
      rw [hstep] at hmore ⊢
      simp only [hr, false_and, iff_false]
      dsimp only at hmore
      omega

/-- Every import counts each record of its fixture once, as inserted or as unchanged. -/
theorem importFixture_counts (repo : Repository) (f : RepositoryFixture) :
    (repo.importFixture f).2.inserted + (repo.importFixture f).2.unchanged = f.storedRecords.length := by
  rw [importFixture_eq]
  dsimp only
  rw [foldl_recordStep_counts]
  dsimp only
  omega

/-- An import inserts nothing exactly when the repository holds each record of the fixture
already, with its entity. -/
theorem importFixture_inserted_eq_zero_iff (repo : Repository) (f : RepositoryFixture) :
    (repo.importFixture f).2.inserted = 0 ↔
      ∀ r ∈ f.storedRecords, entryAt StoredRecord.coordinates repo.records r.coordinates = some r := by
  rw [importFixture_eq]
  exact foldl_recordStep_inserted_eq_iff _ _

theorem lastRecord_eq (f : RepositoryFixture) (dataSource recordId : String) :
    f.lastRecord dataSource recordId =
      entryAt StoredRecord.coordinates f.storedRecords.reverse (toLex (dataSource, recordId)) := by
  simp [RepositoryFixture.lastRecord, entryAt, StoredRecord.coordinates]

/-! ## Importing a fixture again -/

/-- Importing a fixture right after importing it leaves every table as the first import left
it. -/
theorem importFixture_again_tables {repo : Repository} (h : repo.Ordered) (f : RepositoryFixture) :
    ((repo.importFixture f).1.importFixture f).1 = (repo.importFixture f).1 := by
  apply Repository.ext
  · rw [entities_importFixture, entities_importFixture, foldl_upsertByKey_twice _ h.entities]
  · rw [records_importFixture (h.importFixture f), records_importFixture h,
      foldl_upsertByKey_twice _ h.records]
  · rw [relationships_importFixture, relationships_importFixture,
      foldl_upsertByKey_twice _ h.relationships]
  · rw [configs_importFixture (repo.importFixture f).1 f]
    exact configs_registerConfig_again (configs_importFixture repo f)

/-- Importing a fixture right after importing it inserts nothing exactly when each record of the
fixture is the last one of the fixture with its coordinates: the first import left each
coordinates with the last record that has them. -/
theorem importFixture_again_inserts_none_iff {repo : Repository} (h : repo.Ordered) (f : RepositoryFixture) :
    ((repo.importFixture f).1.importFixture f).2.inserted = 0 ↔
      ∀ r ∈ f.storedRecords, f.lastRecord r.document.dataSource r.document.recordId = some r := by
  rw [importFixture_inserted_eq_zero_iff, records_importFixture h]
  refine forall₂_congr fun r hr => ?_
  have hlast : entryAt StoredRecord.coordinates f.storedRecords.reverse r.coordinates ≠ none :=
    entryAt_ne_none (List.mem_reverse.2 hr)
  obtain ⟨y, hy⟩ := Option.ne_none_iff_exists'.1 hlast
  rw [entryAt_foldl_upsertByKey, hy, Option.some_or, lastRecord_eq, ← hy]
  exact Iff.rfl

/-- **Importing a fixture twice.** In every repository that imports and configuration changes
reach, importing a fixture twice in a row leaves every table as the first import left it; the
second import counts each record of the fixture once, and inserts none of them exactly when
each is the last record of the fixture with its data source and record id. -/
theorem importFixture_twice {repo : Repository} (h : repo.Reachable) (f : RepositoryFixture) :
    let first := repo.importFixture f
    let second := first.1.importFixture f
    second.1 = first.1 ∧ second.2.inserted + second.2.unchanged = f.storedRecords.length ∧
      (second.2.inserted = 0 ↔
        ∀ r ∈ f.storedRecords, f.lastRecord r.document.dataSource r.document.recordId = some r) :=
  ⟨importFixture_again_tables h.ordered f, importFixture_counts _ f,
    importFixture_again_inserts_none_iff h.ordered f⟩

/-- One record listed under two entities. -/
def sharedRecord : RepositoryFixture where
  entities := [⟨1, [⟨"A", "1", none, [], RecordDocument.noFeatures_ascending, [], []⟩]⟩,
    ⟨2, [⟨"A", "1", none, [], RecordDocument.noFeatures_ascending, [], []⟩]⟩]

theorem sharedRecord_imported_twice :
    let first := ({} : Repository).importFixture sharedRecord
    let second := first.1.importFixture sharedRecord
    second.1 = first.1 ∧ second.2.inserted + second.2.unchanged = sharedRecord.storedRecords.length ∧
      (second.2.inserted = 0 ↔ ∀ r ∈ sharedRecord.storedRecords,
        sharedRecord.lastRecord r.document.dataSource r.document.recordId = some r) :=
  importFixture_twice .empty sharedRecord

/-- The second import of a record listed under two entities stores it again, under each. -/
theorem sharedRecord_inserted_again :
    ((({} : Repository).importFixture sharedRecord).1.importFixture sharedRecord).2.inserted ≠ 0 := by
  rw [Ne, importFixture_again_inserts_none_iff ordered_empty]
  decide

end Repository

end EntityGateway
