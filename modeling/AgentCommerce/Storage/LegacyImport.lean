import AgentCommerce.Acp.IdempotencyStore
import AgentCommerce.Authorization.ReplayStore

/-!
# The import of deprecated stores

The AP2 replay file and the ACP idempotency file of earlier versions are imported into the receipt
database once. An imported mandate replaces a hold of the same reference only if that hold is
released: a hold that the receipt database still has reserved stays reserved, also when the file
has the mandate as spent.

## Main definitions

* `LegacyFile`, `LegacyEnv`: a deprecated file, and what the file system makes of its path;
* `importHold`, `importSource`, `importLegacyStores`: the import.

## Main results

* `selectHold_importHolds`: the hold of a reference after the import of a file;
* `import_blocks_iff`: when a mandate that either side has spent can never be reserved again.
-/

namespace AgentCommerce

open Relational

/-! ## Sources -/

/-- `LegacySource`. -/
inductive LegacySource
  | ap2Replay | acpIdempotency
deriving DecidableEq

namespace LegacySource

/-- `name`. -/
def text : LegacySource → String
  | ap2Replay => "ap2-replay"
  | acpIdempotency => "acp-idempotency"

/-- `key`. -/
def key : LegacySource → String
  | ap2Replay => "authorization.ap2.replay.path"
  | acpIdempotency => "protocols.acp.idempotency.path"

/-- `feature.toUpperCase()`. -/
def feature : LegacySource → String
  | ap2Replay => "AP2"
  | acpIdempotency => "ACP"

end LegacySource

/-- `LegacyStoreOptions`. -/
structure LegacyStoreOptions where
  ap2Replay : Option String
  acpIdempotency : Option String
  enabledAp2 : Bool
  enabledAcp : Bool

/-- `options[source.option]`. -/
def LegacyStoreOptions.given (options : LegacyStoreOptions) : LegacySource → Option String
  | .ap2Replay => options.ap2Replay
  | .acpIdempotency => options.acpIdempotency

/-- `options.enabled?.[source.feature] === true`. -/
def LegacyStoreOptions.enabled (options : LegacyStoreOptions) : LegacySource → Bool
  | .ap2Replay => options.enabledAp2
  | .acpIdempotency => options.enabledAcp

/-- A deprecated database file: `ap2_authorizations`, if the table exists, and the idempotency
claims. -/
structure LegacyFile where
  ap2Authorizations : Option Ap2ReplayDb
  acpIdempotency : AcpFile

/-- What opening and locking a path leads to. -/
inductive LegacyOpen
  /-- The file does not exist. -/
  | missing
  /-- `SQLITE_CANTOPEN`. -/
  | cantOpen
  /-- Another error of the lock. -/
  | unlockable (message : String)
  /-- The file is locked, but its rows cannot be read. -/
  | unreadable (message : String)
  | readable (file : LegacyFile)

/-- The file system: `resolve`, and the files. -/
structure LegacyEnv where
  resolve : String → String
  openFile : LegacySource → String → LegacyOpen

/-- A row of `legacy_imports`. -/
structure LegacyImportRow where
  source : LegacySource
  /-- None for a check that found no file. -/
  path : Option String
  rows : ℕ
  importedAt : IsoTimestamp

/-- The receipt database, with the tables that an import reads and writes. -/
structure GatewayDb where
  receipts : ReceiptDb
  idempotencyKeys : IdempotencyTable
  legacyImports : KeyedTable LegacyImportRow LegacySource LegacyImportRow.source
  /-- An event of the ACP adapter is recorded. -/
  acpEvents : Bool

/-- `usedBefore`. -/
def usedBefore (db : GatewayDb) : LegacySource → Bool
  | .ap2Replay => db.receipts.receipts.rows.any (·.authorization.isSome) ||
      db.receipts.transactions.rows.any (·.authorization.isSome)
  | .acpIdempotency => db.acpEvents

/-! ## The mandates of a file -/

/-- `metadata_json` of an imported hold. -/
def importedMetadata (row : Ap2Row) : Option Members :=
  some [("mandateIssuer", .str row.mandateIssuer), ("checkoutIssuer", .str row.checkoutIssuer)]

/-- The hold that `INSERT` makes of a row. -/
def importedHold (row : Ap2Row) : HoldRow where
  reference := row.reference
  method := .ap2
  bindingReference := row.checkoutJti
  resourceId := row.resourceId
  requestId := row.requestId
  state := row.state
  metadata := importedMetadata row
  createdAt := row.createdAt
  updatedAt := row.updatedAt

/-- The hold that `DO UPDATE` makes of another. -/
def mergedHold (row : Ap2Row) (hold : HoldRow) : HoldRow :=
  { hold with
    bindingReference := row.checkoutJti
    resourceId := row.resourceId
    requestId := row.requestId
    state := row.state
    metadata := importedMetadata row
    updatedAt := row.updatedAt }

theorem mergedHold_keepsKeys (row : Ap2Row) : Table.KeepsKeys holdKeys (mergedHold row) := by
  simp [Table.KeepsKeys, holdKeys, mergedHold]

/-- `WHERE authorization_holds.state = 'released'`, for the reference in conflict. -/
def mergeable (row : Ap2Row) (hold : HoldRow) : Bool :=
  hold.reference = row.reference && hold.state = .released

/-- `insert.run(row)`. -/
def importHold (row : Ap2Row) : Sql ReceiptDb Unit :=
  Sql.write fun db =>
    if (selectHold db row.reference).isSome then
      .ok ((), { db with
        authorizationHolds := db.authorizationHolds.modify (mergeable row) (mergedHold row)
          (mergedHold_keepsKeys row) })
    else do
      let authorizationHolds ← db.authorizationHolds.insert (importedHold row)
      pure ((), { db with authorizationHolds })

/-- `for (const row of rows) insert.run(row)`. -/
def importHolds : List Ap2Row → Sql ReceiptDb Unit
  | [] => pure ()
  | row :: rows => do
    importHold row
    importHolds rows

/-! ## The claims of a file -/

/-- `INSERT … ON CONFLICT DO NOTHING`. -/
def importClaim (row : IdempotencyRow) : Sql IdempotencyTable Unit :=
  Sql.write fun table =>
    if (table.find? row.scope).isSome then .ok ((), table)
    else do
      let table' ← table.insert idempotencyKeyColumn row
      pure ((), table')

/-- `for (const row of rows) insert.run(row)`. -/
def importClaims : List IdempotencyRow → Sql IdempotencyTable Unit
  | [] => pure ()
  | row :: rows => do
    importClaim row
    importClaims rows

/-! ## One source -/

namespace Imported

/-- A statement on the receipt tables. -/
def onReceipts (body : Sql ReceiptDb Unit) : Sql GatewayDb Unit := fun db =>
  let (result, receipts) := body db.receipts
  (result, { db with receipts })

/-- A statement on the idempotency claims. -/
def onClaims (body : Sql IdempotencyTable Unit) : Sql GatewayDb Unit := fun db =>
  let (result, idempotencyKeys) := body db.idempotencyKeys
  (result, { db with idempotencyKeys })

end Imported

/-- `source.read(file)`: the number of rows, and their writer. -/
def readSource (file : LegacyFile) : LegacySource → ℕ × Sql GatewayDb Unit
  | .ap2Replay =>
    match file.ap2Authorizations with
    | none => (0, pure ())
    | some table => (table.rows.length, Imported.onReceipts (importHolds table.rows))
  | .acpIdempotency =>
    match file.acpIdempotency with
    | .v2 table => (table.rows.length, Imported.onClaims (importClaims table.rows))
    -- the claims of schema v1 are keyed by a digest and are not imported
    | _ => (0, pure ())

/-- `recordMarker`. -/
def recordMarker (source : LegacySource) (path : Option String) (rows : ℕ) (now : IsoTimestamp) :
    Sql GatewayDb Unit :=
  Sql.write fun db =>
    if (db.legacyImports.find? source).isSome then
      .ok ((), { db with
        legacyImports := db.legacyImports.update (fun row => row.source = source)
          (fun row => { row with path, rows, importedAt := now }) fun _ => rfl })
    else do
      let legacyImports ←
        db.legacyImports.insert "legacy_imports.source" ⟨source, path, rows, now⟩
      pure ((), { db with legacyImports })

/-- `storageError`, with the key and the path in question. -/
def importError (message : String) (key : String) (path : Option String)
    (more : Members := []) : Thrown :=
  .commerce (commerceError .storageError message none none
    (some (("key", .str key) :: optionalString "path" path ++ more)))

/-- `forgottenKey`. -/
def forgottenKey (source : LegacySource) (path : Option String) : Thrown :=
  importError
    (source.feature ++ " ran on this receipt database before, but " ++ source.key ++ " " ++
      (match path with
        | none => "is not set"
        | some path => "names a missing file \"" ++ path ++ "\"") ++
      ", so its records would be lost. Set " ++ source.key ++
      " to the file the previous version used to import them, or to an empty file to accept " ++
      "the loss.") source.key path

/-- `toCommerceError(err, 'STORAGE_ERROR', …)` for an error of the database. -/
def importFailed : Thrown := storageError "Failed to import deprecated store files"

/-- Run statements, whose error ends the import. -/
def orFail {σ α : Type} (statements : Sql σ α) (db : σ) : Except Thrown α × σ :=
  match statements db with
  | (.ok a, db') => (.ok a, db')
  | (.error _, db') => (.error importFailed, db')

/-- The path that a source is configured with: `:memory:` names none. -/
def configuredPath (env : LegacyEnv) (options : LegacyStoreOptions) (source : LegacySource) :
    Option String :=
  ((options.given source).filter (· ≠ ":memory:")).map env.resolve

/-- The path that was imported from a source already: `marker?.path`. -/
def importedPath (db : GatewayDb) (source : LegacySource) : Option String :=
  (db.legacyImports.find? source).bind (·.path)

/-- A source without a file: the missing history is checked, and the check recorded. -/
def importNothing (options : LegacyStoreOptions) (source : LegacySource) (path : Option String)
    (now : IsoTimestamp) (db : GatewayDb) : Except Thrown Unit × GatewayDb :=
  if (db.legacyImports.find? source).isNone && options.enabled source then
    if options.given source ≠ some ":memory:" && usedBefore db source then
      (.error (forgottenKey source path), db)
    else orFail (recordMarker source none 0 now) db
  else (.ok (), db)

/-- `db.transaction(() => { imported.write(db); recordMarker.run(…); })()`. -/
def importFile (source : LegacySource) (path : String) (file : LegacyFile) (now : IsoTimestamp)
    (db : GatewayDb) : Except Thrown Unit × GatewayDb :=
  orFail (Sql.transaction do
    (readSource file source).2
    recordMarker source (some path) (readSource file source).1 now) db

/-- One round of the loop over the sources. -/
def importSource (env : LegacyEnv) (receiptsPath : String) (options : LegacyStoreOptions)
    (now : IsoTimestamp) (source : LegacySource) (db : GatewayDb) :
    Except Thrown Unit × GatewayDb :=
  match configuredPath env options source with
  | none => importNothing options source none now db
  | some path =>
    -- locking the receipt database itself would block every write to it
    if receiptsPath ≠ ":memory:" && path = env.resolve receiptsPath then
      (.error (importError (source.key ++ " names the receipt database \"" ++ path ++ "\"")
        source.key (some path)), db)
    else if (importedPath db source).any (· ≠ path) then
      (.error (importError (source.key ++ " names \"" ++ path ++ "\", but \"" ++
          (importedPath db source).getD "" ++ "\" was imported from it already. Point " ++
          source.key ++ " back at the imported file, or remove the key.")
        source.key (some path) (optionalString "importedPath" (importedPath db source))), db)
    else
      match env.openFile source path with
      | .missing => importNothing options source (some path) now db
      | .cantOpen =>
        -- the rows are imported already, and only the lock is missing
        if (importedPath db source).isSome then (.ok (), db)
        else
          (.error (importError (source.key ++ " \"" ++ path ++
              "\" cannot be opened to import it, as on a read-only mount. Make its directory " ++
              "writable for the first start of this version, or copy the file somewhere " ++
              "writable and point the key at the copy.") source.key (some path)), db)
      | .unlockable message =>
        (.error (importError (source.key ++ " \"" ++ path ++
          "\" cannot be locked for import: " ++ message) source.key (some path)), db)
      | .unreadable message =>
        if (importedPath db source).isSome then (.ok (), db)
        else
          (.error (importError (source.key ++ " \"" ++ path ++
            "\" cannot be read for import: " ++ message) source.key (some path)), db)
      | .readable file =>
        if (importedPath db source).isSome then (.ok (), db)
        else importFile source path file now db

/-- `importLegacyStores`. An error leaves what the sources before it have written. -/
def importLegacyStores (env : LegacyEnv) (receiptsPath : String) (options : LegacyStoreOptions)
    (now : LegacySource → IsoTimestamp) (db : GatewayDb) : Except Thrown Unit × GatewayDb :=
  match importSource env receiptsPath options (now .ap2Replay) .ap2Replay db with
  | (.error error, db') => (.error error, db')
  | (.ok _, db') =>
    importSource env receiptsPath options (now .acpIdempotency) .acpIdempotency db'

/-! ## The hold of a reference -/

/-- The hold of a reference after an update that keeps references. -/
theorem selectHold_modify (db : ReceiptDb) (p : HoldRow → Bool) (f : HoldRow → HoldRow)
    (hf : Table.KeepsKeys holdKeys f) (reference : String) :
    selectHold { db with authorizationHolds := db.authorizationHolds.modify p f hf } reference =
      (selectHold db reference).map fun hold => if p hold then f hold else hold := by
  have href : ∀ hold, (f hold).reference = hold.reference :=
    hf ⟨"authorization_holds.reference", (·.reference)⟩ (by simp [holdKeys])
  simp only [selectHold, Table.find?, Table.modify_rows, List.find?_map]
  congr 2
  funext hold
  by_cases hp : p hold <;> simp [hp, href]

/-- The hold of a reference after an insertion. -/
theorem selectHold_insert {db : ReceiptDb} {row : HoldRow} {holds : Table HoldRow holdKeys}
    (h : db.authorizationHolds.insert row = .ok holds) (hnew : selectHold db row.reference = none)
    (reference : String) :
    selectHold { db with authorizationHolds := holds } reference =
      if reference = row.reference then some row else selectHold db reference := by
  simp only [selectHold, Table.find?, (Table.insert_eq_ok.mp h).2, List.find?_append]
  split_ifs with hsame
  · subst hsame
    rw [show db.authorizationHolds.rows.find? _ = none from hnew]
    simp
  · rw [List.find?_singleton, if_neg (by simpa using Ne.symm hsame), Option.or_none]

/-- What the import of a row makes of the hold of its reference. -/
def merged (row : Ap2Row) : Option HoldRow → HoldRow
  | none => importedHold row
  | some hold => if hold.state = .released then mergedHold row hold else hold

/-- The import of a row replaces the hold of its reference only if it is released. -/
theorem selectHold_importHold {row : Ap2Row} {db db' : ReceiptDb}
    (h : importHold row db = (.ok (), db')) (reference : String) :
    selectHold db' reference =
      if reference = row.reference then some (merged row (selectHold db reference))
      else selectHold db reference := by
  rw [importHold, Sql.write_eq_ok] at h
  split_ifs at h with hexists
  · obtain ⟨-, rfl⟩ : () = () ∧ _ = db' := by simpa using h
    rw [selectHold_modify]
    rcases hselect : selectHold db reference with _ | hold
    · have hother : reference ≠ row.reference := by
        rintro rfl
        simp [hselect] at hexists
      simp [hother]
    · have href : hold.reference = reference :=
        of_decide_eq_true (Table.mem_of_find? hselect).2
      by_cases hsame : reference = row.reference
      · by_cases hreleased : hold.state = .released <;>
          simp [mergeable, merged, href, hsame, hreleased]
      · simp [mergeable, href, hsame]
  · rcases hinsert : db.authorizationHolds.insert (importedHold row) with e | holds
    · simp [hinsert, bind, Except.bind] at h
    · obtain rfl : _ = db' := by simpa [hinsert, bind, Except.bind, pure, Except.pure] using h
      have hnew : selectHold db row.reference = none := by simpa using hexists
      rw [selectHold_insert hinsert hnew]
      show (if reference = row.reference then _ else _) = _
      split_ifs with hsame
      · rw [hsame, hnew]
        rfl
      · rfl

/-- The import of rows with distinct references replaces the holds of these references that are
released. -/
theorem selectHold_importHolds {rows : List Ap2Row} {db db' : ReceiptDb}
    (hdistinct : (rows.map (·.reference)).Nodup) (h : importHolds rows db = (.ok (), db'))
    (reference : String) :
    selectHold db' reference =
      match rows.find? fun row => row.reference = reference with
      | some row => some (merged row (selectHold db reference))
      | none => selectHold db reference := by
  induction rows generalizing db with
  | nil =>
    obtain rfl : db = db' := by simpa [importHolds] using h
    rfl
  | cons row rows ih =>
    rw [List.map_cons, List.nodup_cons] at hdistinct
    obtain ⟨⟨⟩, db₁, hrow, hrows⟩ := Sql.bind_eq_ok.mp h
    rw [ih hdistinct.2 hrows, selectHold_importHold hrow, List.find?_cons]
    by_cases hsame : row.reference = reference
    · -- no later row has the reference
      have hnone : rows.find? (fun row => decide (row.reference = reference)) = none := by
        refine List.find?_eq_none.mpr fun later hlater heq => hdistinct.1 ?_
        rw [hsame, ← of_decide_eq_true heq]
        exact List.mem_map_of_mem hlater
      simp [hnone, hsame]
    · simp [hsame, Ne.symm hsame]

/-! ## The import -/

/-- The import reads a file: none was imported before, and the configured one is readable. -/
def ImportsFile (env : LegacyEnv) (options : LegacyStoreOptions) (db : GatewayDb)
    (file : LegacyFile) : Prop :=
  importedPath db .ap2Replay = none ∧ ∃ path, configuredPath env options .ap2Replay = some path ∧
    env.openFile .ap2Replay path = .readable file

/-- Statements that leave the receipt tables alone. -/
def KeepsReceipts {α : Type} (body : Sql GatewayDb α) : Prop :=
  ∀ db, (body db).2.receipts = db.receipts

theorem keepsReceipts_recordMarker (source : LegacySource) (path : Option String) (rows : ℕ)
    (now : IsoTimestamp) : KeepsReceipts (recordMarker source path rows now) := by
  intro db
  rw [recordMarker, Sql.write]
  split
  · rename_i heq
    split_ifs at heq with hexists
    · obtain ⟨-, rfl⟩ := Prod.mk.inj (Except.ok.inj heq)
      rfl
    · rcases hinsert : db.legacyImports.insert "legacy_imports.source" ⟨source, path, rows, now⟩
        with e | imports
      · simp [hinsert, bind, Except.bind] at heq
      · simp only [hinsert, bind, Except.bind, pure, Except.pure, Except.ok.injEq,
          Prod.mk.injEq] at heq
        rw [← heq.2]
  · rfl

theorem orFail_snd {σ α : Type} (statements : Sql σ α) (db : σ) :
    (orFail statements db).2 = (statements db).2 := by
  rw [orFail]
  rcases statements db with ⟨e | a, db'⟩ <;> rfl

theorem orFail_eq_ok {σ : Type} {statements : Sql σ Unit} {db db' : σ}
    (h : orFail statements db = (.ok (), db')) : statements db = (.ok (), db') := by
  rw [orFail] at h
  rcases hrun : statements db with ⟨e | ⟨⟩, db₁⟩ <;> simp_all

/-- A source without a file leaves the receipt tables alone. -/
theorem importNothing_receipts (options : LegacyStoreOptions) (source : LegacySource)
    (path : Option String) (now : IsoTimestamp) (db : GatewayDb) :
    (importNothing options source path now db).2.receipts = db.receipts := by
  rw [importNothing]
  split_ifs
  · rfl
  · rw [orFail_snd]
    exact keepsReceipts_recordMarker source none 0 now db
  · rfl

/-- What the import of a file has made of the receipt tables. -/
theorem importFile_eq_ok {source : LegacySource} {path : String} {file : LegacyFile}
    {now : IsoTimestamp} {db db' : GatewayDb}
    (h : importFile source path file now db = (.ok (), db')) :
    ∃ db₁, (readSource file source).2 db = (.ok (), db₁) ∧ db'.receipts = db₁.receipts := by
  obtain ⟨⟨⟩, db₁, hwrite, hmarker⟩ :=
    Sql.bind_eq_ok.mp (Sql.transaction_eq_ok.mp (orFail_eq_ok h))
  refine ⟨db₁, hwrite, ?_⟩
  have hkeeps := keepsReceipts_recordMarker source (some path) (readSource file source).1 now db₁
  rwa [hmarker] at hkeeps

/-- The idempotency claims of a file leave the receipt tables alone. -/
theorem readSource_acpIdempotency (file : LegacyFile) {db db' : GatewayDb}
    (h : (readSource file .acpIdempotency).2 db = (.ok (), db')) : db'.receipts = db.receipts := by
  rw [readSource] at h
  rcases hfile : file.acpIdempotency with _ | unresolved | table
  all_goals simp only [hfile] at h
  · exact congrArg (·.2.receipts) h.symm
  · exact congrArg (·.2.receipts) h.symm
  · exact congrArg (·.2.receipts) h.symm

/-- The mandates of a file are imported as holds. -/
theorem readSource_ap2Replay (file : LegacyFile) {db db' : GatewayDb}
    (h : (readSource file .ap2Replay).2 db = (.ok (), db')) :
    (file.ap2Authorizations = none ∧ db'.receipts = db.receipts) ∨
      ∃ table, file.ap2Authorizations = some table ∧
        importHolds table.rows db.receipts = (.ok (), db'.receipts) := by
  rw [readSource] at h
  rcases hfile : file.ap2Authorizations with _ | table
  all_goals simp only [hfile] at h
  · exact .inl ⟨rfl, congrArg (·.2.receipts) h.symm⟩
  · refine .inr ⟨table, rfl, ?_⟩
    have hreceipts := congrArg (·.2.receipts) h
    have hresult := congrArg (·.1) h
    exact Prod.ext hresult hreceipts

/-- A source that is not imported leaves the receipt tables alone. -/
theorem importSource_cases {env : LegacyEnv} {receiptsPath : String} {options : LegacyStoreOptions}
    {now : IsoTimestamp} {source : LegacySource} {db db' : GatewayDb}
    (h : importSource env receiptsPath options now source db = (.ok (), db')) :
    (db'.receipts = db.receipts ∧
        (importedPath db source = none → ∀ path, configuredPath env options source = some path →
          ∀ file, env.openFile source path ≠ .readable file)) ∨
      ∃ path file, importedPath db source = none ∧
        configuredPath env options source = some path ∧
        env.openFile source path = .readable file ∧
        importFile source path file now db = (.ok (), db') := by
  rw [importSource] at h
  rcases hpath : configuredPath env options source with _ | path
  · simp only [hpath] at h
    refine .inl ⟨?_, by simp⟩
    rw [← importNothing_receipts options source none now db, h]
  · simp only [hpath] at h
    by_cases hself : (decide (receiptsPath ≠ ":memory:") &&
        decide (path = env.resolve receiptsPath)) = true
    · rw [if_pos hself] at h
      simp at h
    rw [if_neg hself] at h
    by_cases hchanged : ((importedPath db source).any fun imported =>
        decide (imported ≠ path)) = true
    · rw [if_pos hchanged] at h
      simp at h
    rw [if_neg hchanged] at h
    rcases hopen : env.openFile source path with _ | _ | message | message | file
    all_goals simp only [hopen] at h
    · refine .inl ⟨?_, by simp [hopen]⟩
      rw [← importNothing_receipts options source (some path) now db, h]
    · split_ifs at h with hdone
      · exact .inl ⟨congrArg (·.2.receipts) h.symm, by simp [hopen]⟩
      · simp at h
    · simp at h
    · split_ifs at h with hdone
      · exact .inl ⟨congrArg (·.2.receipts) h.symm, by simp [hopen]⟩
      · simp at h
    · split_ifs at h with hdone
      · refine .inl ⟨congrArg (·.2.receipts) h.symm, fun hnone => ?_⟩
        simp [hnone] at hdone
      · exact .inr ⟨path, file, by simpa using hdone, rfl, hopen, h⟩

/-- What an import that returns has made of the receipt tables. -/
theorem importLegacyStores_receipts {env : LegacyEnv} {receiptsPath : String}
    {options : LegacyStoreOptions} {now : LegacySource → IsoTimestamp} {db db' : GatewayDb}
    (h : importLegacyStores env receiptsPath options now db = (.ok (), db')) :
    (db'.receipts = db.receipts ∧ ∀ file, ImportsFile env options db file →
        file.ap2Authorizations = none) ∨
      ∃ file table, ImportsFile env options db file ∧ file.ap2Authorizations = some table ∧
        importHolds table.rows db.receipts = (.ok (), db'.receipts) := by
  rw [importLegacyStores] at h
  rcases hfirst : importSource env receiptsPath options (now .ap2Replay) .ap2Replay db with
    ⟨error | ⟨⟩, db₁⟩
  · simp [hfirst] at h
  · simp only [hfirst] at h
    -- the claims of the other file leave the receipt tables alone
    have hsecond : db'.receipts = db₁.receipts := by
      rcases importSource_cases h with ⟨hsame, -⟩ | ⟨path, file, -, -, -, hfile⟩
      · exact hsame
      · obtain ⟨db₂, hread, hreceipts⟩ := importFile_eq_ok hfile
        rw [hreceipts, readSource_acpIdempotency file hread]
    rw [hsecond]
    rcases importSource_cases hfirst with ⟨hsame, hnone⟩ | ⟨path, file, hnew, hpath, hopen, hfile⟩
    · refine .inl ⟨hsame, ?_⟩
      rintro file ⟨hnew, path, hpath, hopen⟩
      exact absurd hopen (hnone hnew path hpath file)
    · obtain ⟨db₂, hread, hreceipts⟩ := importFile_eq_ok hfile
      rw [hreceipts]
      have himports : ImportsFile env options db file := ⟨hnew, path, hpath, hopen⟩
      rcases readSource_ap2Replay file hread with ⟨hempty, hsame⟩ | ⟨table, htable, himport⟩
      · refine .inl ⟨hsame, ?_⟩
        rintro file' ⟨-, path', hpath', hopen'⟩
        obtain rfl : path = path' := Option.some.inj (hpath.symm.trans hpath')
        obtain rfl : file = file' := by simpa using hopen.symm.trans hopen'
        exact hempty
      · exact .inr ⟨file, table, himports, htable, himport⟩

/-! ## Mandates that can never be reserved again -/

/-- No sequence of operations on the holds ever reserves the reference. -/
def Blocked (reference : String) (db : ReceiptDb) : Prop :=
  ∀ (ops : List HoldOp) (reservation : AuthorizationHoldReservation) (now : IsoTimestamp),
    reservation.reference = reference →
      (reserveAuthorizationHold reservation now (runHolds ops db)).1 ≠ .ok .reserved

/-- A reservation of a reference whose hold is released, for a binding that nothing holds. -/
theorem reserveAuthorizationHold_of_released {db : ReceiptDb} {hold : HoldRow}
    {reservation : AuthorizationHoldReservation} {now : IsoTimestamp}
    (hselect : selectHold db reservation.reference = some hold) (hreleased : hold.state = .released)
    (hfree : selectLiveBinding db reservation.bindingReference reservation.reference = none) :
    (reserveAuthorizationHold reservation now db).1 = .ok .reserved := by
  simp [reserveAuthorizationHold, reserveHold_apply, hselect, hfree, Option.filter, hreleased,
    writeReservedHold, Sql.write]

/-- The release of a hold that is not consumed leaves it released. -/
theorem selectHold_release {db : ReceiptDb} {hold : HoldRow} {reference : String}
    (hselect : selectHold db reference = some hold) (hstate : hold.state ≠ .consumed)
    (now : IsoTimestamp) :
    ∃ released, selectHold (runHolds [.transition reference .released none now] db) reference =
      some released ∧ released.state = .released := by
  have hrun : runHolds [.transition reference .released none now] db =
      (transition reference .released none now db).2 := rfl
  have href : hold.reference = reference := of_decide_eq_true (Table.mem_of_find? hselect).2
  rw [hrun, transition_snd, selectHold_modify, hselect]
  refine ⟨_, rfl, ?_⟩
  rcases hcases : hold.state with _ | _ | _ | _
  · simp [transitionable, transitionedHold, href, hcases]
  · exact absurd hcases hstate
  · simp [transitionable, hcases]
  · simp [transitionable, transitionedHold, href, hcases]

/-- A reference with a hold is blocked exactly when the hold is consumed. -/
theorem blocked_iff {db : ReceiptDb} {hold : HoldRow} {reference : String}
    (hselect : selectHold db reference = some hold) :
    Blocked reference db ↔ hold.state = .consumed := by
  obtain ⟨hmem, href⟩ := Table.mem_of_find? hselect
  replace href : hold.reference = reference := of_decide_eq_true href
  constructor
  · intro hblocked
    by_contra hstate
    -- release the hold, and reserve it for a binding that nothing holds
    obtain ⟨released, hreleased, hstate'⟩ := selectHold_release hselect hstate ⟨some 0⟩
    obtain ⟨binding, hfresh⟩ := Infinite.exists_notMem_finset
      ((runHolds [.transition reference .released none ⟨some 0⟩] db).authorizationHolds.rows.map
        (·.bindingReference)).toFinset
    refine hblocked [.transition reference .released none ⟨some 0⟩]
      (sampleReservation reference binding "req") ⟨some 1⟩ rfl ?_
    refine reserveAuthorizationHold_of_released hreleased hstate' ?_
    refine List.find?_eq_none.mpr fun other hother => ?_
    have hne : other.bindingReference ≠ binding := by
      intro heq
      exact hfresh (List.mem_toFinset.mpr (List.mem_map.mpr ⟨other, hother, heq⟩))
    simp [sampleReservation, hne]
  · intro hstate ops reservation now hsame hreserved
    have hkept := consumed_runHolds ops hmem hstate
    rcases reserveAuthorizationHold_cases reservation now (runHolds ops db) with
      ⟨answer, hrefused, heq⟩ | ⟨db', -, hfree, -⟩
    · rw [heq] at hreserved
      exact hrefused hreserved
    · exact (hfree hold hkept (by simp [hstate])).1 (href.trans hsame.symm)

/-- The reference is spent in a file. -/
def SpentInFile (reference : String) (file : LegacyFile) : Prop :=
  ∃ table, file.ap2Authorizations = some table ∧
    ∃ row ∈ table.rows, row.reference = reference ∧ row.state = .consumed

/-- The reference is spent in a receipt store. -/
def SpentInStore (reference : String) (db : ReceiptDb) : Prop :=
  ∃ hold ∈ db.authorizationHolds.rows, hold.reference = reference ∧ hold.state = .consumed

/-- The receipt store has no open reservation of the reference: it does not hold the reference as
reserved or uncertain. -/
def NoOpenHold (reference : String) (db : ReceiptDb) : Prop :=
  ∀ hold ∈ db.authorizationHolds.rows, hold.reference = reference →
    hold.state ≠ .reserved ∧ hold.state ≠ .uncertain

/-- A reference that is spent in the file after the import has its row of the file, unless the
store has another one that is not released. -/
theorem selectHold_of_spent {reference : String} {file : LegacyFile} {table : Ap2ReplayDb}
    {db db' : ReceiptDb} (htable : file.ap2Authorizations = some table)
    (himport : importHolds table.rows db = (.ok (), db')) (hspent : SpentInFile reference file) :
    ∃ row, row.reference = reference ∧ row.state = .consumed ∧
      selectHold db' reference = some (merged row (selectHold db reference)) := by
  obtain ⟨table', htable', row, hmem, href, hstate⟩ := hspent
  obtain rfl : table = table' := Option.some.inj (htable.symm.trans htable')
  have hdistinct : (table.rows.map (·.reference)).Nodup :=
    table.distinct ⟨"ap2_authorizations.reference", (·.reference)⟩ (by simp [ap2Keys])
  have hfind : table.rows.find? (fun row => decide (row.reference = reference)) = some row :=
    selectByReference_eq_some hmem href
  refine ⟨row, href, hstate, ?_⟩
  rw [selectHold_importHolds hdistinct himport, hfind]

/-- A mandate that the receipt store or the imported file has spent can never be reserved again
after the import, exactly when the receipt store has no open reservation of it. -/
theorem import_blocks_iff {env : LegacyEnv} {receiptsPath : String} {options : LegacyStoreOptions}
    {now : LegacySource → IsoTimestamp} {db db' : GatewayDb} {reference : String}
    (hreturns : importLegacyStores env receiptsPath options now db = (.ok (), db'))
    (hspent : SpentInStore reference db.receipts ∨
      ∃ file, ImportsFile env options db file ∧ SpentInFile reference file) :
    Blocked reference db'.receipts ↔ NoOpenHold reference db.receipts := by
  have hcases := importLegacyStores_receipts hreturns
  by_cases hstore : SpentInStore reference db.receipts
  · -- the receipt store keeps the spent hold
    obtain ⟨hold, hmem, href, hstate⟩ := hstore
    have hselect := selectHold_eq_some hmem href
    have hkept : ∃ hold', selectHold db'.receipts reference = some hold' ∧
        hold'.state = .consumed := by
      rcases hcases with ⟨hsame, -⟩ | ⟨file, table, -, -, himport⟩
      · exact ⟨hold, hsame ▸ hselect, hstate⟩
      · have hdistinct : (table.rows.map (·.reference)).Nodup :=
          table.distinct ⟨"ap2_authorizations.reference", (·.reference)⟩ (by simp [ap2Keys])
        rw [selectHold_importHolds hdistinct himport, hselect]
        rcases table.rows.find? _ with _ | row
        · exact ⟨hold, rfl, hstate⟩
        · exact ⟨hold, by simp [merged, hstate], hstate⟩
    obtain ⟨hold', hselect', hstate'⟩ := hkept
    refine iff_of_true ((blocked_iff hselect').mpr hstate') fun other hmem' href' => ?_
    rw [db.receipts.hold_eq_of_reference hmem' hmem (href'.trans href.symm), hstate]
    exact ⟨by decide, by decide⟩
  · obtain ⟨file, himports, hfile⟩ := hspent.resolve_left hstore
    obtain ⟨table, htable, himport⟩ : ∃ table, file.ap2Authorizations = some table ∧
        importHolds table.rows db.receipts = (.ok (), db'.receipts) := by
      rcases hcases with ⟨-, hnone⟩ | ⟨file', table, himports', htable, himport⟩
      · obtain ⟨table, htable, -⟩ := hfile
        simp [hnone file himports] at htable
      · obtain ⟨-, path, hpath, hopen⟩ := himports
        obtain ⟨-, path', hpath', hopen'⟩ := himports'
        obtain rfl : path = path' := Option.some.inj (hpath.symm.trans hpath')
        obtain rfl : file = file' := by simpa using hopen.symm.trans hopen'
        exact ⟨table, htable, himport⟩
    obtain ⟨row, -, hspentRow, hselect'⟩ := selectHold_of_spent htable himport hfile
    rw [blocked_iff hselect']
    rcases hselect : selectHold db.receipts reference with _ | hold
    · -- the store does not know the reference
      refine iff_of_true hspentRow fun hold hmem href => ?_
      rw [selectHold_eq_some hmem href] at hselect
      simp at hselect
    · obtain ⟨hmem, href⟩ := Table.mem_of_find? hselect
      replace href : hold.reference = reference := of_decide_eq_true href
      have hnotSpent : hold.state ≠ .consumed := fun hstate => hstore ⟨hold, hmem, href, hstate⟩
      by_cases hreleased : hold.state = .released
      · -- the store has released the reference, and takes the state of the file
        refine iff_of_true (by simp [merged, hreleased, mergedHold, hspentRow]) ?_
        intro other hmem' href'
        rw [db.receipts.hold_eq_of_reference hmem' hmem (href'.trans href.symm), hreleased]
        exact ⟨by decide, by decide⟩
      · -- the store keeps its open reservation
        refine iff_of_false (by simp [merged, hreleased, hnotSpent]) fun hopen => ?_
        obtain ⟨hreserved, huncertain⟩ := hopen hold hmem href
        rcases hstate : hold.state with _ | _ | _ | _ <;> simp_all

/-- A replay file in which a mandate is spent. -/
def sampleReplayFile : LegacyFile where
  ap2Authorizations := some (runFile
    [.reserve (sampleMandate "sha256:AAAA" "checkout_01" "req-0") ⟨some 0⟩,
      .transition .consume "sha256:AAAA" (some "req-0") ⟨some 1⟩])
  acpIdempotency := .new

/-- A gateway that is configured with the replay file. -/
def sampleLegacyOptions : LegacyStoreOptions :=
  ⟨some "/var/ap2.sqlite", none, true, false⟩

/-- A file system with the replay file. -/
def sampleLegacyEnv : LegacyEnv where
  resolve path := path
  openFile _ _ := .readable sampleReplayFile

/-- A receipt database without imports, after some operations on its holds. -/
def sampleGatewayDb (ops : List HoldOp) : GatewayDb where
  receipts := runHolds ops .empty
  idempotencyKeys := .empty
  legacyImports := .empty
  acpEvents := false

/-- The database after the import of the replay file. -/
def importedDb (ops : List HoldOp) : GatewayDb :=
  (importLegacyStores sampleLegacyEnv "/var/receipts.sqlite" sampleLegacyOptions
    (fun _ => ⟨some 10⟩) (sampleGatewayDb ops)).2

/-- A reservation of the mandate that is released before the import. -/
def releasedReservation : List HoldOp :=
  [.reserve (sampleReservation "sha256:AAAA" "checkout_01" "req-1") ⟨some 2⟩,
    .transition "sha256:AAAA" .released (some "req-1") ⟨some 3⟩]

/-- A mandate that the file has spent cannot be reserved after its import into a receipt database
that has released it. -/
theorem import_blocks_released :
    Blocked "sha256:AAAA" (importedDb releasedReservation).receipts := by
  have hreturns : importLegacyStores sampleLegacyEnv "/var/receipts.sqlite" sampleLegacyOptions
      (fun _ => ⟨some 10⟩) (sampleGatewayDb releasedReservation) =
        (.ok (), importedDb releasedReservation) := by rfl
  have himports : ImportsFile sampleLegacyEnv sampleLegacyOptions
      (sampleGatewayDb releasedReservation) sampleReplayFile :=
    ⟨rfl, "/var/ap2.sqlite", by decide, rfl⟩
  have hspent : SpentInFile "sha256:AAAA" sampleReplayFile := ⟨_, rfl, by decide⟩
  refine (import_blocks_iff hreturns (.inr ⟨sampleReplayFile, himports, hspent⟩)).mpr ?_
  show ∀ hold ∈ (runHolds releasedReservation .empty).authorizationHolds.rows, _
  decide

/-- A reservation of the mandate that is open during the import. -/
def openReservation : List HoldOp :=
  [.reserve (sampleReservation "sha256:AAAA" "checkout_01" "req-1") ⟨some 2⟩]

/-- The release of the open reservation, after the import. -/
def lateRelease : List HoldOp := [.transition "sha256:AAAA" .released (some "req-1") ⟨some 11⟩]

/-- A mandate that the file has spent is reserved again after its import into a receipt database
with an open reservation of it, once that is released. -/
theorem import_respends :
    SpentInFile "sha256:AAAA" sampleReplayFile ∧
      ImportsFile sampleLegacyEnv sampleLegacyOptions (sampleGatewayDb openReservation)
        sampleReplayFile ∧
      importLegacyStores sampleLegacyEnv "/var/receipts.sqlite" sampleLegacyOptions
        (fun _ => ⟨some 10⟩) (sampleGatewayDb openReservation) =
          (.ok (), importedDb openReservation) ∧
      (reserveAuthorizationHold (sampleReservation "sha256:AAAA" "checkout_02" "req-2")
        ⟨some 12⟩ (runHolds lateRelease (importedDb openReservation).receipts)).1 =
          .ok .reserved ∧
      ¬ Blocked "sha256:AAAA" (importedDb openReservation).receipts := by
  have hreserved : (reserveAuthorizationHold (sampleReservation "sha256:AAAA" "checkout_02"
      "req-2") ⟨some 12⟩ (runHolds lateRelease (importedDb openReservation).receipts)).1 =
        .ok .reserved := by rfl
  refine ⟨⟨_, rfl, by decide⟩, ⟨rfl, "/var/ap2.sqlite", by decide, rfl⟩, rfl, hreserved, ?_⟩
  intro hblocked
  exact hblocked lateRelease _ _ rfl hreserved

end AgentCommerce
