import ApiManger.Apifox.Import
import ApiManger.Signatures.Template

/-!
# Records and rows

An endpoint of a project has one row, however often and in whatever order documents are imported,
as long as each import finds the row of its own record: the first row with its endpoint id is one
of its project, or the row with the id of its signature decides rightly.
-/

namespace ApiManger.Apifox
open Python Account Collection Imperative Signatures

variable {o : ApifoxOutside} {rows : List RawRow} {row : RawRow} {record : Record} {rawId : String} {s s' : RawStore}

/-! ## Rows of records -/

/-- The row is that of an endpoint in a project. -/
structure RawRow.IsOf (row : RawRow) (record : Record) : Prop where
  apifox : row.isApifox record.sourceId = true
  project : metaProject row.sourceMeta = record.projectId

/-- The endpoint id and the project are given. -/
structure Record.Named (record : Record) : Prop where
  projectId : record.projectId ≠ ""
  sourceId : record.sourceId ≠ ""

theorem isApifox_iff {sourceId : String} : row.isApifox sourceId = true ↔ row.source = "apifox" ∧ row.sourceId = sourceId := by
  simp [RawRow.isApifox]

theorem RawRow.IsOf.unique {record' : Record} (first : row.IsOf record) (second : row.IsOf record') : record = record' := by
  obtain ⟨project, source⟩ := record
  obtain ⟨project', source'⟩ := record'
  have ids := (isApifox_iff.mp first.apifox).2.symm.trans (isApifox_iff.mp second.apifox).2
  have projects := first.project.symm.trans second.project
  simp only at ids projects
  rw [ids, projects]

/-- Rows of Apifox have a project, and no record has two of them. -/
structure OneEach (rows : List RawRow) : Prop where
  projects : ∀ row ∈ rows, row.source = "apifox" → metaProject row.sourceMeta ≠ ""
  once : ∀ record : Record, ∀ row ∈ rows, ∀ row' ∈ rows, row.IsOf record → row'.IsOf record → row = row'

/-- The row of a signature decides rightly: it is that of the record, or the record has none and it is not of this
endpoint id. -/
def SignatureTells (rows : List RawRow) (record : Record) (rawId : String) : Prop :=
  (∃ row ∈ rows, row.id = rawId ∧ row.IsOf record) ∨
    (∀ row ∈ rows, ¬row.IsOf record) ∧ ∀ row ∈ rows, row.id = rawId → row.isApifox record.sourceId = false

/-- The first row with the endpoint id is of the project, or the row of the signature decides rightly. -/
def Told (rows : List RawRow) (record : Record) (rawId : String) : Prop :=
  ∀ first, firstRow rows record.sourceId = some first → metaProject first.sourceMeta ≠ record.projectId →
    SignatureTells rows record rawId

def Target.Right (rows : List RawRow) (record : Record) : Target → Prop
  | .update row => row ∈ rows ∧ row.IsOf record
  | .create id => (∀ row ∈ rows, row.id ≠ id) ∧ ∀ row ∈ rows, ¬row.IsOf record

theorem firstRow_named (named : record.Named) : firstRow rows record.sourceId = rows.find? (·.isApifox record.sourceId) :=
  if_neg fun empty => named.sourceId (beq_iff_eq.mp empty)

/-- The first row is taken just where it is of the project. -/
theorem ownFirstRow_cases (inv : OneEach rows) (named : record.Named) :
    (∃ first, ownFirstRow rows record = some first ∧ first ∈ rows ∧ first.IsOf record) ∨
      ownFirstRow rows record = none ∧ ((∀ row ∈ rows, row.isApifox record.sourceId = false) ∨
        ∃ first, firstRow rows record.sourceId = some first ∧ metaProject first.sourceMeta ≠ record.projectId) := by
  unfold ownFirstRow
  cases found : firstRow rows record.sourceId with
  | none =>
    rw [firstRow_named named] at found
    exact .inr ⟨rfl, .inl fun row mem => Bool.not_eq_true _ ▸ List.find?_eq_none.mp found row mem⟩
  | some first =>
    have here := found
    rw [firstRow_named named] at here
    have apifox := List.find?_some here
    have mem := List.mem_of_find?_eq_some here
    have project := inv.projects first mem (isApifox_iff.mp apifox).1
    dsimp only
    rw [bne_iff_ne.mpr project, bne_iff_ne.mpr named.projectId, Bool.true_and, Bool.true_and]
    by_cases same : metaProject first.sourceMeta = record.projectId
    · rw [if_neg (by simp [same])]
      exact .inl ⟨first, rfl, mem, apifox, same⟩
    · rw [if_pos (bne_iff_ne.mpr same)]
      exact .inr ⟨rfl, .inr ⟨first, rfl, same⟩⟩

/-- Where no own row comes first, the row of the signature is the target just where it is of the endpoint id. -/
theorem targetOf_signature (named : record.Named) (absent : ownFirstRow rows record = none) :
    (∃ row ∈ rows, row.id = rawId ∧ row.isApifox record.sourceId = true ∧ targetOf o rows record rawId = .update row) ∨
      ∃ id, targetOf o rows record rawId = .create id ∧ (∀ row ∈ rows, row.id ≠ id) ∧
        (id = rawId ∨ ∃ row ∈ rows, row.id = rawId ∧ row.isApifox record.sourceId = false) := by
  unfold targetOf
  rw [absent]
  dsimp only
  cases found : lookup RawRow.id rows rawId with
  | none => exact .inr ⟨rawId, rfl, lookup_eq_none.mp found, .inl rfl⟩
  | some row =>
    have mem := lookup_mem found
    have key : row.id = rawId := lookup_key found
    have unnamed : (record.sourceId == "") = false := beq_eq_false_iff_ne.mpr named.sourceId
    dsimp only
    rw [unnamed, Bool.and_false, if_neg Bool.false_ne_true]
    cases apifox : row.isApifox record.sourceId with
    | true => exact .inl ⟨row, mem, key, apifox, if_pos rfl⟩
    | false =>
      have new := o.fresh (rows.map (·.id))
      exact .inr ⟨_, if_neg Bool.false_ne_true, fun other listed same => new (List.mem_map.mpr ⟨other, listed, same⟩),
        .inr ⟨row, mem, key, apifox⟩⟩

/-- An import that is told its row writes the row of its record, or makes one where there is none. -/
theorem targetOf_right (inv : OneEach rows) (named : record.Named) (ids : Distinct RawRow.id rows)
    (told : Told rows record rawId) : (targetOf o rows record rawId).Right rows record := by
  rcases ownFirstRow_cases inv named with ⟨first, taken, mem, own⟩ | ⟨absent, first⟩
  · rw [targetOf, taken]
    exact ⟨mem, own⟩
  · have tells : SignatureTells rows record rawId := by
      rcases first with none_ | ⟨first, found, other⟩
      · refine .inr ⟨fun row mem own => ?_, fun row mem _ => none_ row mem⟩
        exact nomatch own.apifox.symm.trans (none_ row mem)
      · exact told first found other
    rcases targetOf_signature (o := o) named absent with ⟨row, mem, key, apifox, target⟩ | ⟨id, target, unused, why⟩
    · rw [target]
      rcases tells with ⟨own, memOwn, same, isOf⟩ | ⟨-, others⟩
      · exact ⟨mem, ids.eq_of_key memOwn mem (same.trans key.symm) ▸ isOf⟩
      · exact nomatch apifox.symm.trans (others row mem key)
    · rw [target]
      refine ⟨unused, ?_⟩
      rcases tells with ⟨own, memOwn, same, isOf⟩ | ⟨none_, -⟩
      · rcases why with rfl | ⟨row, mem, key, other⟩
        · exact absurd same (unused own memOwn)
        · rw [← ids.eq_of_key memOwn mem (same.trans key.symm), isOf.apifox] at other
          cases other
      · exact none_

/-! ## What an import changes -/

/-- The import of a record leaves every other row as it is, and one row of the record, with the id and the `ptah_id`
of the one that was there. -/
structure Changes (record : Record) (s s' : RawStore) : Prop where
  others : ∀ row : RawRow, ¬row.IsOf record → (row ∈ s'.rows ↔ row ∈ s.rows)
  own : ∃ row ∈ s'.rows, row.IsOf record ∧ ∀ old ∈ s.rows, old.IsOf record → row.id = old.id ∧ row.ptahId = old.ptahId

/-- A row of the record is saved in the place of its row, or under a new id where it has none. -/
theorem save_changes (inv : OneEach s.rows) (named : record.Named) (isOf : row.IsOf record)
    (place : ∀ old ∈ s.rows, old.id = row.id ∨ old.IsOf record →
      old.id = row.id ∧ old.IsOf record ∧ row.ptahId = old.ptahId) :
    OneEach (s.save row).rows ∧ Changes record s (s.save row) := by
  have saved : ∀ {other : RawRow}, other ∈ (s.save row).rows ↔ other = row ∨ (other ∈ s.rows ∧ other.id ≠ row.id) :=
    mem_save
  have kept : ∀ old ∈ s.rows, old.id ≠ row.id → ¬old.IsOf record := fun old mem other own =>
    other (place old mem (.inr own)).1
  refine ⟨⟨fun other mem apifox => ?_, fun record' first mem second mem' own own' => ?_⟩,
    fun other apart => ?_, row, saved.mpr (.inl rfl), isOf, fun old mem own => ?_⟩
  · rcases saved.mp mem with rfl | ⟨old, -⟩
    · exact isOf.project ▸ named.projectId
    · exact inv.projects other old apifox
  · rcases saved.mp mem with rfl | ⟨old, apart⟩ <;> rcases saved.mp mem' with rfl | ⟨old', apart'⟩
    · rfl
    · exact absurd (own.unique isOf ▸ own') (kept second old' apart')
    · exact absurd (own'.unique isOf ▸ own) (kept first old apart)
    · exact inv.once record' first old second old' own own'
  · rw [saved]
    constructor
    · rintro (rfl | ⟨old, -⟩)
      · exact absurd isOf apart
      · exact old
    · exact fun old => .inr ⟨old, fun same => apart (place other old (.inl same)).2.1⟩
  · obtain ⟨same, -, number⟩ := place old mem (.inr own)
    exact ⟨same.symm, number⟩

section
variable {endpoint : Dict} {context : Mapping Json} {baseUrl : String}

theorem prepare_eq {p : Prepared} (prepared : prepare o endpoint baseUrl context = .ok p) :
    p.endpoint = endpoint ∧ p.context = context := by
  unfold prepare at prepared
  obtain ⟨-, prepared⟩ := raised_or prepared
  obtain ⟨domain, -, prepared⟩ := bind_eq_ok.mp prepared
  split at prepared
  · cases Except.ok.inj prepared
    exact ⟨rfl, rfl⟩
  · nomatch prepared

theorem updated_isOf {p : Prepared} (named : (recordOf p.endpoint).Named) (own : row.IsOf (recordOf p.endpoint))
    (project : metaProject (endpointSourceMeta p.endpoint p.context) = (recordOf p.endpoint).projectId) (codes : List Int) :
    (p.updated codes row).IsOf (recordOf p.endpoint) := by
  obtain ⟨source, sourceId⟩ := isApifox_iff.mp own.apifox
  have present : row.source ≠ "" := by
    rw [source]
    decide
  have source' : (p.updated codes row).source = row.source := orText_named present _
  have sourceId' : (p.updated codes row).sourceId = row.sourceId := orText_named (sourceId ▸ named.sourceId) _
  exact ⟨isApifox_iff.mpr ⟨source'.trans source, sourceId'.trans sourceId⟩, project⟩

theorem saveRaw_run (s : RawStore) (row : RawRow) :
    (∃ e, saveRaw o row s = (.error e, s)) ∨ saveRaw o row s = (.ok row, s.save row) := by
  unfold saveRaw
  by_cases refused : o.refuses row = true
  · rw [if_pos refused]
    exact .inl ⟨_, rfl⟩
  · rw [if_neg refused]
    exact .inr rfl

/-- What `_upsert_raw` leaves: the rows as they were, where it raises, or those of the record. -/
def Upserted (record : Record) (s : RawStore) (run : Except PyError RawRow × RawStore) : Prop :=
  match run.1 with
  | .error _ => run.2.rows = s.rows
  | .ok _ => OneEach run.2.rows ∧ Changes record s run.2

theorem saveRaw_upserted (same : s'.rows = s.rows) (inv : OneEach s.rows) (named : record.Named) (isOf : row.IsOf record)
    (place : ∀ old ∈ s.rows, old.id = row.id ∨ old.IsOf record →
      old.id = row.id ∧ old.IsOf record ∧ row.ptahId = old.ptahId) :
    Upserted record s (saveRaw o row s') := by
  rcases saveRaw_run (o := o) s' row with ⟨e, run⟩ | run
  · rw [run]
    exact same
  · rw [run]
    have changes := save_changes (s := s') (same ▸ inv) named isOf (same ▸ place)
    exact ⟨changes.1, ⟨fun other apart => same ▸ changes.2.others other apart, same ▸ changes.2.own⟩⟩

/-- An endpoint whose row can be told is written to its own row, and to no other one. -/
theorem upsertRaw_upserted (inv : OneEach s.rows) (named : (recordOf endpoint).Named)
    (project : metaProject (endpointSourceMeta endpoint context) = (recordOf endpoint).projectId)
    (told : ∀ p, prepare o endpoint baseUrl context = .ok p → Told s.rows (recordOf endpoint) p.rawId) :
    Upserted (recordOf endpoint) s (upsertRaw o endpoint baseUrl context s) := by
  unfold upsertRaw
  rw [Routine.bind_eq]
  cases prepared : prepare o endpoint baseUrl context with
  | error e =>
    rw [Routine.bind_ofExcept_error]
    rfl
  | ok p =>
    obtain ⟨rfl, rfl⟩ := prepare_eq prepared
    have right := targetOf_right (o := o) inv named s.distinct (told p prepared)
    rw [Routine.bind_ofExcept_ok, Routine.bind_eq, Routine.bind_get, Routine.bind_eq]
    cases responseStatusCodes p.endpoint with
    | error e =>
      rw [Routine.bind_ofExcept_error]
      rfl
    | ok codes =>
      rw [Routine.bind_ofExcept_ok]
      cases target : targetOf o s.rows (recordOf p.endpoint) p.rawId with
      | update row =>
        rw [target] at right
        obtain ⟨mem, own⟩ := right
        refine saveRaw_upserted rfl inv named (updated_isOf named own project codes) fun old memOld either => ?_
        have eq : old = row := either.elim (fun same => s.distinct.eq_of_key memOld mem same)
          fun own' => inv.once _ old memOld row mem own' own
        rw [eq]
        exact ⟨rfl, own, rfl⟩
      | create id =>
        rw [target] at right
        obtain ⟨unused, none_⟩ := right
        refine saveRaw_upserted rfl inv named ⟨isApifox_iff.mpr ⟨rfl, rfl⟩, project⟩ fun old memOld either => ?_
        exact either.elim (fun same => absurd same (unused old memOld)) fun own => absurd own (none_ old memOld)

/-- The project of a row that is written is that of its endpoint, where the context names no other one. -/
theorem metaProject_endpoint (same : ∀ value, context.get? "apifox_project_id" = some value →
    value.strOrEmpty = (recordOf endpoint).projectId) :
    metaProject (endpointSourceMeta endpoint context) = (recordOf endpoint).projectId := by
  unfold metaProject endpointSourceMeta
  dsimp only
  rw [Mapping.get?_update]
  cases found : context.get? "apifox_project_id" with
  | some value => exact same value found
  | none =>
    rw [Option.none_or, Mapping.ofItems, Mapping.get?_foldl_set _ (by simp [Distinct])]
    rfl

end

/-! ## One import -/

variable {call : ImportCall} {calls : List ImportCall} {start : RawStore}

/-- The call is told its row by the stored rows, and its context names no other project. -/
structure Distinguished (o : ApifoxOutside) (s : RawStore) (call : ImportCall) : Prop where
  project : ∀ endpoint, endpointOf call = .ok endpoint → ∀ value, call.sourceContext.get? "apifox_project_id" = some value →
    value.strOrEmpty = (recordOf endpoint).projectId
  told : ∀ endpoint, endpointOf call = .ok endpoint → ∀ path, endpointPath endpoint = .str path →
    Told s.rows (recordOf endpoint) (apiSignatureObjectId o (endpointMethod endpoint) path)

theorem importContext_project {endpoint : Dict} {context : Mapping Json} (made : importContext o call endpoint = .ok context) :
    context.get? "apifox_project_id" = call.sourceContext.get? "apifox_project_id" := by
  obtain ⟨host, -, made⟩ := bind_eq_ok.mp made
  cases Except.ok.inj made
  rw [Mapping.get?_update, Mapping.ofItems, Mapping.get?_foldl_set _ (by simp [Distinct])]
  exact Option.or_none

theorem prepare_rawId {endpoint : Dict} {context : Mapping Json} {baseUrl : String} {p : Prepared}
    (prepared : prepare o endpoint baseUrl context = .ok p) :
    ∃ path, endpointPath endpoint = .str path ∧ p.rawId = apiSignatureObjectId o (endpointMethod endpoint) path := by
  unfold prepare at prepared
  obtain ⟨-, prepared⟩ := raised_or prepared
  obtain ⟨domain, -, prepared⟩ := bind_eq_ok.mp prepared
  split at prepared
  · next path same =>
    cases Except.ok.inj prepared
    exact ⟨path, same, rfl⟩
  · nomatch prepared

/-- What an import leaves: the rows as they were, or those of its record; and where it returns that it was imported,
those of its record. -/
structure Imports (s : RawStore) (call : ImportCall) (run : Except PyError ImportResult × RawStore) : Prop where
  inv : OneEach run.2.rows
  rows : run.2.rows = s.rows ∨ ∃ endpoint, endpointOf call = .ok endpoint ∧ Changes (recordOf endpoint) s run.2
  imported : ∀ id pathid method path req res, run.1 = .ok (.imported id pathid method path req res) →
    ∃ endpoint, endpointOf call = .ok endpoint ∧ Changes (recordOf endpoint) s run.2

/-- A call that does not reach the rows. -/
theorem Imports.unchanged (inv : OneEach s.rows) {result : Except PyError ImportResult}
    (other : ∀ id pathid method path req res, result ≠ .ok (.imported id pathid method path req res)) :
    Imports s call (result, s) :=
  ⟨inv, .inl rfl, fun id pathid method path req res same => absurd same (other id pathid method path req res)⟩

/-- An import that is told its row writes the row of its record, and no other one. -/
theorem importApifoxDetailFile_imports (inv : OneEach s.rows)
    (named : ∀ endpoint, endpointOf call = .ok endpoint → (recordOf endpoint).Named) (distinguished : Distinguished o s call) :
    Imports s call (importApifoxDetailFile o call s) := by
  unfold importApifoxDetailFile
  rw [Routine.bind_eq]
  cases read : endpointOf call with
  | error e =>
    rw [Routine.bind_ofExcept_error]
    exact .unchanged inv nofun
  | ok endpoint =>
    rw [Routine.bind_ofExcept_ok]
    by_cases other : isOtherType endpoint = true
    · rw [if_pos other]
      exact .unchanged inv nofun
    rw [if_neg other]
    by_cases unsupported : (!httpMethods.contains (endpointMethod endpoint)) = true
    · rw [if_pos unsupported]
      exact .unchanged inv nofun
    rw [if_neg unsupported, Routine.bind_eq]
    cases made : importContext o call endpoint with
    | error e =>
      rw [Routine.bind_ofExcept_error]
      exact .unchanged inv nofun
    | ok context =>
      rw [Routine.bind_ofExcept_ok, Routine.bind_eq]
      have project := metaProject_endpoint fun value found =>
        distinguished.project endpoint read value (importContext_project made ▸ found)
      have upserted : Upserted (recordOf endpoint) s (upsertRaw o endpoint call.baseUrl context s) := by
        refine upsertRaw_upserted inv (named endpoint read) project fun p prepared => ?_
        obtain ⟨path, same, id⟩ := prepare_rawId prepared
        exact id ▸ distinguished.told endpoint read path same
      rcases run : upsertRaw o endpoint call.baseUrl context s with ⟨e | data, s'⟩
      · rw [run] at upserted
        have same : s'.rows = s.rows := upserted
        rw [Routine.bind_error run]
        exact ⟨same ▸ inv, .inl same, fun _ _ _ _ _ _ result => nomatch result⟩
      · rw [run] at upserted
        obtain ⟨inv', changes⟩ : OneEach s'.rows ∧ Changes (recordOf endpoint) s s' := upserted
        have done : ∃ endpoint', endpointOf call = .ok endpoint' ∧ Changes (recordOf endpoint') s s' :=
          ⟨endpoint, read, changes⟩
        rw [Routine.bind_ok run, Routine.bind_eq]
        cases o.parameters endpoint with
        | error e =>
          rw [Routine.bind_ofExcept_error]
          exact ⟨inv', .inr done, fun _ _ _ _ _ _ result => nomatch result⟩
        | ok counts =>
          rw [Routine.bind_ofExcept_ok]
          exact ⟨inv', .inr done, fun _ _ _ _ _ _ _ => done⟩

/-! ## Runs of imports -/

/-- The record of a call that returned that it was imported. -/
def importedRecord (call : ImportCall) (result : Except PyError ImportResult) : Option Record :=
  match result, endpointOf call with
  | .ok (.imported ..), .ok endpoint => some (recordOf endpoint)
  | _, _ => none

/-- The records that were imported in a run. -/
def importedRecords (o : ApifoxOutside) : List ImportCall → RawStore → List Record
  | [], _ => []
  | call :: rest, s =>
    (importedRecord call (importApifoxDetailFile o call s).1).toList ++
      importedRecords o rest (importApifoxDetailFile o call s).2

def HasRow (rows : List RawRow) (record : Record) : Prop := ∃ row ∈ rows, row.IsOf record

theorem Changes.hasRow {record' : Record} (changes : Changes record s s') (there : HasRow s.rows record') :
    HasRow s'.rows record' := by
  obtain ⟨row, mem, own⟩ := there
  by_cases same : row.IsOf record
  · obtain ⟨row', mem', own', -⟩ := changes.own
    exact ⟨row', mem', own.unique same ▸ own'⟩
  · exact ⟨row, (changes.others row same).mpr mem, own⟩

section
variable {run : Except PyError ImportResult × RawStore}

theorem Imports.hasRow (imports : Imports s call run) (there : HasRow s.rows record) : HasRow run.2.rows record := by
  rcases imports.rows with same | ⟨endpoint, -, changes⟩
  · exact same ▸ there
  · exact changes.hasRow there

theorem Imports.imported_hasRow (imports : Imports s call run) (imported : importedRecord call run.1 = some record) :
    HasRow run.2.rows record := by
  unfold importedRecord at imported
  split at imported
  · next result endpoint id pathid method path req res returned read =>
    obtain ⟨endpoint', read', changes⟩ := imports.imported _ _ _ _ _ _ returned
    cases read.symm.trans read'
    cases imported
    obtain ⟨row, mem, own, -⟩ := changes.own
    exact ⟨row, mem, own⟩
  · cases imported

end

/-- What holds of every call of a run, and of the rows before it. -/
def Along (o : ApifoxOutside) (P : RawStore → ImportCall → Prop) (calls : List ImportCall) (s : RawStore) : Prop :=
  ∀ before call after, calls = before ++ call :: after → P (importAll o before s) call

theorem Along.tail {P : RawStore → ImportCall → Prop} (along : Along o P (call :: calls) s) :
    Along o P calls (importApifoxDetailFile o call s).2 :=
  fun before next after split => along (call :: before) next after (by rw [split]; rfl)

/-- A run that is always told its rows has one row for each record that it imported. -/
theorem importAll_oneEach (inv : OneEach s.rows)
    (named : ∀ call ∈ calls, ∀ endpoint, endpointOf call = .ok endpoint → (recordOf endpoint).Named)
    (distinguished : Along o (Distinguished o) calls s) :
    OneEach (importAll o calls s).rows ∧
      ∀ record, HasRow s.rows record ∨ record ∈ importedRecords o calls s → HasRow (importAll o calls s).rows record := by
  induction calls generalizing s with
  | nil => exact ⟨inv, fun record either => either.elim id fun mem => nomatch mem⟩
  | cons call rest ih =>
    have imports := importApifoxDetailFile_imports inv (named call (.head _)) (distinguished [] call rest rfl)
    obtain ⟨inv', rows⟩ := ih imports.inv (fun c mem => named c (.tail _ mem)) distinguished.tail
    refine ⟨inv', fun record either => rows record ?_⟩
    rcases either with there | listed
    · exact .inl (imports.hasRow there)
    · rcases List.mem_append.mp listed with now | later
      · exact .inl (imports.imported_hasRow (Option.mem_toList.mp now))
      · exact .inr later

/-- **Records and rows.** In every run whose imports are all told their rows, each record that was imported has exactly
one row, and an import changes no row but that of its record, which keeps its id and its `ptah_id`. -/
theorem importAll_corresponds (others : ∀ row ∈ start.rows, row.source ≠ "apifox")
    (named : ∀ call ∈ calls, ∀ endpoint, endpointOf call = .ok endpoint → (recordOf endpoint).Named)
    (distinguished : Along o (Distinguished o) calls start) :
    (∀ before after, calls = before ++ after → ∀ record ∈ importedRecords o before start,
      ∃! row, row ∈ (importAll o before start).rows ∧ row.IsOf record) ∧
    Along o (fun s call => Imports s call (importApifoxDetailFile o call s)) calls start := by
  have empty : OneEach start.rows :=
    ⟨fun row mem apifox => absurd apifox (others row mem), fun record row mem _ _ own _ =>
      absurd (isApifox_iff.mp own.apifox).1 (others row mem)⟩
  have reached : ∀ before after, calls = before ++ after → OneEach (importAll o before start).rows ∧
      ∀ record, HasRow start.rows record ∨ record ∈ importedRecords o before start →
        HasRow (importAll o before start).rows record := by
    rintro before after rfl
    refine importAll_oneEach empty (fun call mem => named call (List.mem_append_left _ mem)) ?_
    intro earlier call later split
    exact distinguished earlier call (later ++ after) (by rw [split, List.append_assoc]; rfl)
  refine ⟨fun before after split record listed => ?_, fun before call after split => ?_⟩
  · obtain ⟨inv, rows⟩ := reached before after split
    obtain ⟨row, mem, own⟩ := rows record (.inr listed)
    exact ⟨row, ⟨mem, own⟩, fun other ⟨mem', own'⟩ => inv.once record other mem' row mem own' own⟩
  · exact importApifoxDetailFile_imports (reached before (call :: after) split).1
      (named call (split ▸ List.mem_append_right _ (.head _))) (distinguished before call after split)

/-! ## One endpoint id in two projects -/

def longerThanAll (texts : List String) : String := String.ofList (List.replicate ((texts.map String.length).sum + 1) 'f')

theorem longerThanAll_fresh (texts : List String) : longerThanAll texts ∉ texts := by
  intro mem
  have short : (longerThanAll texts).length ≤ (texts.map String.length).sum :=
    List.le_sum_of_mem (List.mem_map_of_mem mem)
  simp [longerThanAll] at short

/-- The digest is that of the signature of `GET /orders`. -/
def ordersOutside : ApifoxOutside where
  decimals := asciiDecimals
  md5 _ := "959a651fbf4e8fabf86cc9f561d11dab"
  newObjectId := longerThanAll
  fresh := longerThanAll_fresh
  refusesNetloc _ := false
  refuses _ := false
  projectServers := .empty
  parameters _ := .ok (0, 0)

def ordersEndpoint (projectId : Int) : Dict :=
  [("id", .int 7), ("projectId", .int projectId), ("type", .str "http"), ("method", .str "get"), ("path", .str "/orders")]

def ordersCall (projectId : Int) : ImportCall where
  file := "7.json"
  loaded := .ok (.obj [("data", .obj (ordersEndpoint projectId))])
  baseUrl := "https://api.example.com"

def noRawRows : RawStore := ⟨[], .nil, 0⟩

theorem ordersCall_endpoint (projectId : Int) : endpointOf (ordersCall projectId) = .ok (ordersEndpoint projectId) := rfl

/-- The row of the first project becomes that of the second one. -/
theorem importAll_collapses : ¬∀ (o : ApifoxOutside) (calls : List ImportCall) (start : RawStore),
    (∀ row ∈ start.rows, row.source ≠ "apifox") →
    (∀ call ∈ calls, ∀ endpoint, endpointOf call = .ok endpoint → (recordOf endpoint).Named) →
    ∀ record ∈ importedRecords o calls start, ∃! row, row ∈ (importAll o calls start).rows ∧ row.IsOf record := by
  intro claim
  have imported : importedRecords ordersOutside [ordersCall 101, ordersCall 202] noRawRows = [⟨"101", "7"⟩, ⟨"202", "7"⟩] := by
    decide +kernel
  have projects : ((importAll ordersOutside [ordersCall 101, ordersCall 202] noRawRows).rows.map
      fun row => metaProject row.sourceMeta) = ["202"] := by decide +kernel
  obtain ⟨row, ⟨mem, own⟩, -⟩ := claim ordersOutside [ordersCall 101, ordersCall 202] noRawRows
    (fun _ mem => nomatch mem) (fun call mem endpoint read => by
      rcases List.mem_cons.mp mem with rfl | mem
      · cases read.symm.trans (ordersCall_endpoint 101)
        exact ⟨by decide, by decide⟩
      · rw [List.mem_singleton.mp mem] at read
        cases read.symm.trans (ordersCall_endpoint 202)
        exact ⟨by decide, by decide⟩) ⟨"101", "7"⟩ (imported ▸ .head _)
  have project : metaProject row.sourceMeta ∈ ["202"] := projects ▸ List.mem_map_of_mem mem
  rw [own.project, List.mem_singleton] at project
  exact absurd project (by decide)

/-- A document that is imported twice keeps one row. -/
theorem importAll_twice : ∃! row, row ∈ (importAll ordersOutside [ordersCall 101, ordersCall 101] noRawRows).rows ∧
    row.IsOf ⟨"101", "7"⟩ := by
  have each : ∀ call ∈ [ordersCall 101, ordersCall 101], call = ordersCall 101 := by simp
  have imported : importedRecords ordersOutside [ordersCall 101, ordersCall 101] noRawRows = [⟨"101", "7"⟩, ⟨"101", "7"⟩] := by
    decide +kernel
  have others : ∀ row ∈ noRawRows.rows, row.source ≠ "apifox" := fun _ mem => nomatch mem
  have projects : ∀ before ∈ [[], [ordersCall 101]], ((importAll ordersOutside before noRawRows).rows.all
      fun row => metaProject row.sourceMeta == "101") = true := List.forall_mem_cons.mpr
    ⟨by decide +kernel, List.forall_mem_singleton.mpr (by decide +kernel)⟩
  have named : ∀ call ∈ [ordersCall 101, ordersCall 101], ∀ endpoint, endpointOf call = .ok endpoint →
      (recordOf endpoint).Named := by
    intro call mem endpoint read
    rw [each call mem] at read
    cases read.symm.trans (ordersCall_endpoint 101)
    exact ⟨by decide, by decide⟩
  have distinguished : Along ordersOutside (Distinguished ordersOutside) [ordersCall 101, ordersCall 101] noRawRows := by
    intro before call after split
    have front : before ∈ [[], [ordersCall 101]] := by
      rcases before with _ | ⟨first, _ | ⟨second, more⟩⟩
      · exact .head _
      · rw [← (List.cons.inj split).1]
        exact .tail _ (.head _)
      · simp at split
    rw [each call (split ▸ List.mem_append_right _ (.head _))]
    refine ⟨fun endpoint _ value found => (nomatch found), fun endpoint read path _ first found other => ?_⟩
    cases read.symm.trans (ordersCall_endpoint 101)
    have mem : first ∈ (importAll ordersOutside before noRawRows).rows := List.mem_of_find?_eq_some found
    exact absurd (beq_iff_eq.mp (List.all_eq_true.mp (projects before front) first mem)) other
  exact (importAll_corresponds others named distinguished).1 [ordersCall 101, ordersCall 101] [] rfl ⟨"101", "7"⟩
    (imported ▸ .head _)

end ApiManger.Apifox
