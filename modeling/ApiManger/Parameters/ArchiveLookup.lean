import ApiManger.Collection.Greatest
import ApiManger.Experiments.Compose
import ApiManger.Parameters.Archive
import Mathlib.Data.Prod.Lex

/-!
# Looking up in the archive

The archive step of `resolve_parameter_value` ranks the rows of the account and then those of no
account. `_lookup_archive_value`, which is asked last, takes the first row of the account as it is
stored, and the first value of a row.
-/

namespace ApiManger.Parameters
open Python Collection

/-! ## The archive step -/

/-- For whom a value is looked up; a text is empty where nothing is given. -/
structure LookupScope where
  accountId : String
  projectId : String
  envId : String

variable (scope : LookupScope)

/-- The rows of the project and the environment. -/
def LookupScope.within (row : ArchiveRow) : Bool :=
  (scope.projectId == "" || row.projectId == scope.projectId) && (scope.envId == "" || row.envId == scope.envId)

/-- `value not in (None, "", [], {})` -/
def isUsable (value : Json) : Bool := !(([.null, .str "", .arr [], .obj []] : List Json).contains value)

/-- `select_value` -/
def selectUsable (values : List Json) : Json := (values.find? isUsable).getD .null

/-- `score_rows`: what a row brings, where it is looked at. -/
def scored (pathid : Int) (exactPath : Bool) (row : ArchiveRow) : Option (Json × ArchiveRow) :=
  if exactPath && !(row.reqPathid.contains (.int pathid)) && !(row.resPathid.contains (.int pathid)) then none
  else if isUsable (selectUsable (row.reqValue ++ row.resValue)) then
    some (selectUsable (row.reqValue ++ row.resValue), row)
  else none

/-- `(score, item.id)` -/
def rank (accountId : String) (pathid : Int) (row : ArchiveRow) : ℕ ×ₗ ℕ :=
  toLex ((if accountId != "" && row.accountId == accountId then 3 else 0) +
    (if row.reqPathid.contains (.int pathid) then 2 else 0) +
    (if row.resPathid.contains (.int pathid) then 1 else 0), row.id)

def scoreRows (accountId : String) (pathid : Int) (exactPath : Bool) (rows : List ArchiveRow) :
    Option (Json × ArchiveRow) :=
  (rows.filterMap (scored pathid exactPath)).argmax fun found => rank accountId pathid found.2

def archiveValue (names : List String) (pathid : Int) (exactPath : Bool)
    (rows : List ArchiveRow) : Option (Json × ArchiveRow) :=
  let base := rows.filter fun row => names.contains row.parameter && scope.within row
  if scope.accountId == "" then scoreRows scope.accountId pathid exactPath base
  else (scoreRows scope.accountId pathid exactPath (base.filter (·.accountId == scope.accountId))).or
    (scoreRows scope.accountId pathid exactPath (base.filter (·.accountId == "")))

def archiveProvenance (row : ArchiveRow) (byAlias : Bool) : String × String :=
  if row.accountId != "" then (if byAlias then "parameter_dependency_alias" else "parameter_archive", "account")
  else ("parameter_archive_project_scoped", "project")

def valueQuality (row : ArchiveRow) (value : Json) : String :=
  let target := stripped value.pyStr
  if target == "" then "unknown"
  else if row.resValue.any fun candidate => stripped candidate.pyStr == target then "observed"
  else if row.reqValue.any fun candidate => stripped candidate.pyStr == target then "sampled"
  else "unknown"

/-- What `resolve_parameter_value` returns of an archive row. -/
structure ArchiveAnswer where
  value : Json
  source : String
  confidence : Rat
  parameter : String
  accountId : String
  accountScope : String
  valueQuality : String

def answerOf (byAlias : Bool) (confidence : Rat) (found : Json × ArchiveRow) : ArchiveAnswer where
  value := found.1
  source := (archiveProvenance found.2 byAlias).1
  confidence := confidence
  parameter := found.2.parameter
  accountId := found.2.accountId
  accountScope := (archiveProvenance found.2 byAlias).2
  valueQuality := Parameters.valueQuality found.2 found.1

def doNotAlias : List String :=
  ["id", "blacklist_user_id", "blacklist_client_id", "account", "mobile", "email", "password", "code", "seccode",
    "captcha", "sign", "signature"]

/-- The archive rows of the name itself. -/
def exactStep (parameter : String) (pathid : Int) (rows : List ArchiveRow) : Option ArchiveAnswer :=
  (archiveValue scope [parameter, leaf parameter] pathid (leaf parameter == "id") rows).map (answerOf false (95/100))

def aliasStep (parameter : String) (pathid : Int) (rows : List ArchiveRow) : Option ArchiveAnswer :=
  if !(doNotAlias.contains (leaf parameter)) && canonicalName parameter != leaf parameter then
    let aliases := (canonicalAliases.lookup (canonicalName parameter)).getD [canonicalName parameter]
    (archiveValue scope aliases pathid false rows).map (answerOf true (82/100))
  else none

/-- What `resolve_parameter_value` has of the archive. -/
def archiveStep (parameter : String) (pathid : Int) (rows : List ArchiveRow) : Option ArchiveAnswer :=
  (exactStep scope parameter pathid rows).or (aliasStep scope parameter pathid rows)

/-! ## The last resort -/

/-- What `_lookup_archive_value` takes of a row. -/
def sampledOf (source : String) (row : ArchiveRow) : Json × Json × Json :=
  (Experiments.selectValue row.reqValue, .str source, .str "sampled")

/-- `_lookup_archive_value`: value, source and quality. -/
def lookupArchiveValue (parameter : String) (pathid : Int) (rows : List ArchiveRow) :
    Json × Json × Json :=
  let base := rows.filter fun row =>
    row.parameter == parameter && row.reqPathid.contains (.int pathid) && scope.within row
  let own := if scope.accountId == "" then base else base.filter (·.accountId == scope.accountId)
  match own.head?.filter fun entry => !entry.reqValue.isEmpty with
  | some entry => sampledOf "parameter_archive" entry
  | none =>
    if scope.accountId == "" then (.null, .null, .str "unknown")
    else match base.find? fun row => row.accountId == "" && !row.reqValue.isEmpty with
      | some row => sampledOf "parameter_archive_project_scoped" row
      | none => (.null, .null, .str "unknown")

/-! ## What a lookup promises -/

/-- Whose value is looked up: an account, a project and an environment are given. -/
structure ArchiveQuery extends LookupScope where
  parameter : String
  pathid : Int
  named : parameter ≠ ""
  ofAccount : accountId ≠ ""
  ofProject : projectId ≠ ""
  ofEnv : envId ≠ ""

/-- A row of the project and the environment that is the account's own, or nobody's. -/
structure ArchiveQuery.InScope (q : ArchiveQuery) (row : ArchiveRow) : Prop where
  project : row.projectId = q.projectId
  env : row.envId = q.envId
  account : row.accountId = q.accountId ∨ row.accountId = ""

/-- A row in scope that has a usable request value of the parameter for the path. -/
structure ArchiveQuery.Serves (q : ArchiveQuery) (row : ArchiveRow) : Prop where
  inScope : q.InScope row
  parameter : row.parameter = q.parameter
  path : row.reqPathid.contains (.int q.pathid) = true
  usable : ∃ value ∈ row.reqValue, isUsable value = true

def isAccountScoped (source : String) : Bool := ["parameter_archive", "parameter_dependency_alias"].contains source

/-- A value, with its source, that a lookup may give. -/
structure KeepsScope (q : ArchiveQuery) (rows : List ArchiveRow) (answer : Option (Json × String)) : Prop where
  ofRow : ∀ value source, answer = some (value, source) → ∃ row ∈ rows, q.InScope row ∧
    value ∈ row.reqValue ++ row.resValue ∧ (isAccountScoped source = true ↔ row.accountId = q.accountId)
  preferred : (∃ row ∈ rows, q.Serves row ∧ row.accountId = q.accountId) →
    ∃ value source, answer = some (value, source) ∧ isAccountScoped source = true
  found : (∃ row ∈ rows, q.Serves row) → ∃ value source, answer = some (value, source) ∧ isUsable value = true

def stepAnswer (q : ArchiveQuery) (rows : List ArchiveRow) : Option (Json × String) :=
  (archiveStep q.toLookupScope q.parameter q.pathid rows).map fun answer => (answer.value, answer.source)

/-- What the last resort answers; there is no source where it found nothing. -/
def lastResort (q : ArchiveQuery) (rows : List ArchiveRow) : Option (Json × String) :=
  match lookupArchiveValue q.toLookupScope q.parameter q.pathid rows with
  | (value, .str source, _) => some (value, source)
  | _ => none

/-- Both lookups keep the scope, whatever the order of the rows. -/
structure LookupsAgree (q : ArchiveQuery) (rows : List ArchiveRow) : Prop where
  step : KeepsScope q rows (stepAnswer q rows)
  last : KeepsScope q rows (lastResort q rows)
  ordered : ∀ rows', rows'.Perm rows →
    archiveStep q.toLookupScope q.parameter q.pathid rows' = archiveStep q.toLookupScope q.parameter q.pathid rows ∧
      lookupArchiveValue q.toLookupScope q.parameter q.pathid rows' =
        lookupArchiveValue q.toLookupScope q.parameter q.pathid rows

/-! ## The archive step keeps the scope -/

section
variable {q : ArchiveQuery} {rows : List ArchiveRow}

theorem LookupScope.within_iff (q : ArchiveQuery) (row : ArchiveRow) :
    q.within row = true ↔ row.projectId = q.projectId ∧ row.envId = q.envId := by
  simp [LookupScope.within, q.ofProject, q.ofEnv]

/-- A value is selected where there is a usable one, and it is one of them. -/
theorem selectUsable_spec {values : List Json} (some : ∃ value ∈ values, isUsable value = true) :
    selectUsable values ∈ values ∧ isUsable (selectUsable values) = true := by
  unfold selectUsable
  cases found : values.find? isUsable with
  | none =>
    obtain ⟨value, mem, usable⟩ := some
    exact absurd usable (List.find?_eq_none.mp found value mem)
  | some value => exact ⟨List.mem_of_find?_eq_some found, List.find?_some found⟩

theorem isUsable_null : isUsable .null = false := by decide

theorem selectUsable_mem {values : List Json} (usable : isUsable (selectUsable values) = true) :
    selectUsable values ∈ values := by
  unfold selectUsable at usable ⊢
  cases found : values.find? isUsable with
  | none =>
    rw [found, Option.getD_none, isUsable_null] at usable
    cases usable
  | some value => exact List.mem_of_find?_eq_some found

variable {row : ArchiveRow} {found : Json × ArchiveRow} {rows' : List ArchiveRow}

theorem scored_some {pathid : Int} {exactPath : Bool}
    (brings : scored pathid exactPath row = some found) :
    found = (selectUsable (row.reqValue ++ row.resValue), row) ∧ isUsable found.1 = true := by
  unfold scored at brings
  split at brings
  · cases brings
  split at brings
  · next usable =>
    cases brings
    exact ⟨rfl, usable⟩
  · cases brings

/-- The answer is the best row of the list. -/
theorem scoreRows_some {accountId : String} {pathid : Int} {exactPath : Bool}
    (best : scoreRows accountId pathid exactPath rows = some found) :
    found.2 ∈ rows ∧ found.1 ∈ found.2.reqValue ++ found.2.resValue ∧ isUsable found.1 = true := by
  obtain ⟨row, mem, brings⟩ := List.mem_filterMap.mp (List.argmax_mem best)
  obtain ⟨rfl, usable⟩ := scored_some brings
  exact ⟨mem, selectUsable_mem usable, usable⟩

/-- A row with a usable value that is looked at gives an answer. -/
theorem scoreRows_isSome (accountId : String) {pathid : Int} {exactPath : Bool} (mem : row ∈ rows)
    (path : row.reqPathid.contains (.int pathid) = true) (usable : ∃ value ∈ row.reqValue, isUsable value = true) :
    ∃ found, scoreRows accountId pathid exactPath rows = some found := by
  obtain ⟨value, inside, good⟩ := usable
  have selected := (selectUsable_spec ⟨value, List.mem_append_left row.resValue inside, good⟩).2
  have brings : scored pathid exactPath row = some (selectUsable (row.reqValue ++ row.resValue), row) := by
    rw [scored, path, if_neg (by simp), if_pos selected]
  exact exists_argmax (List.mem_filterMap.mpr ⟨row, mem, brings⟩)

/-- The order of the rows does not matter, since their ids differ. -/
theorem scoreRows_perm (accountId : String) (pathid : Int) (exactPath : Bool)
    (distinct : Distinct ArchiveRow.id rows) (perm : rows'.Perm rows) :
    scoreRows accountId pathid exactPath rows' = scoreRows accountId pathid exactPath rows := by
  refine (argmax_eq_of_mem_iff ?_ fun found => ?_).symm
  · intro a mem b mem' same
    obtain ⟨row, inside, brings⟩ := List.mem_filterMap.mp mem
    obtain ⟨row', inside', brings'⟩ := List.mem_filterMap.mp mem'
    obtain ⟨rfl, -⟩ := scored_some brings
    obtain ⟨rfl, -⟩ := scored_some brings'
    obtain rfl : row = row' := distinct.eq_of_key inside inside' (congrArg (fun r => (ofLex r).2) same)
    rfl
  · simp only [List.mem_filterMap, perm.mem_iff]

theorem archiveValue_perm (scope : LookupScope) (names : List String) (pathid : Int)
    (exactPath : Bool) (distinct : Distinct ArchiveRow.id rows) (perm : rows'.Perm rows) :
    archiveValue scope names pathid exactPath rows' = archiveValue scope names pathid exactPath rows := by
  have sub : ∀ (p : ArchiveRow → Bool) {l : List ArchiveRow}, Distinct ArchiveRow.id l → Distinct ArchiveRow.id (l.filter p) :=
    fun p l once => List.Nodup.sublist (List.filter_sublist.map _) once
  unfold archiveValue
  dsimp only
  rw [scoreRows_perm _ _ _ (sub _ distinct) (perm.filter _),
    scoreRows_perm _ _ _ (sub _ (sub _ distinct)) ((perm.filter _).filter _),
    scoreRows_perm _ _ _ (sub _ (sub _ distinct)) ((perm.filter _).filter _)]

theorem archiveStep_perm (scope : LookupScope) (parameter : String) (pathid : Int)
    (distinct : Distinct ArchiveRow.id rows) (perm : rows'.Perm rows) :
    archiveStep scope parameter pathid rows' = archiveStep scope parameter pathid rows := by
  unfold archiveStep exactStep aliasStep
  simp only [archiveValue_perm _ _ _ _ distinct perm]

theorem mem_tier {names : List String} {account : String} :
    row ∈ (rows.filter fun row => names.contains row.parameter && q.within row).filter (·.accountId == account) ↔
      row ∈ rows ∧ names.contains row.parameter = true ∧ row.projectId = q.projectId ∧ row.envId = q.envId ∧
        row.accountId = account := by
  rw [List.mem_filter, List.mem_filter, Bool.and_eq_true, LookupScope.within_iff, beq_iff_eq]
  tauto

/-- An answer is of a row in scope, of the account's own where the first tier has one. -/
theorem archiveValue_some {names : List String} {pathid : Int} {exactPath : Bool}
    (answer : archiveValue q.toLookupScope names pathid exactPath rows = some found) :
    found.2 ∈ rows ∧ q.InScope found.2 ∧ found.1 ∈ found.2.reqValue ++ found.2.resValue ∧ isUsable found.1 = true := by
  unfold archiveValue at answer
  dsimp only at answer
  rw [if_neg (by simpa using q.ofAccount)] at answer
  rcases Option.or_eq_some_iff.mp answer with best | ⟨-, best⟩
  · obtain ⟨mem, inside, usable⟩ := scoreRows_some best
    obtain ⟨stored, -, project, env, account⟩ := mem_tier.mp mem
    exact ⟨stored, ⟨project, env, .inl account⟩, inside, usable⟩
  · obtain ⟨mem, inside, usable⟩ := scoreRows_some best
    obtain ⟨stored, -, project, env, account⟩ := mem_tier.mp mem
    exact ⟨stored, ⟨project, env, .inr account⟩, inside, usable⟩

/-- A row that serves is found, and a row of the account is preferred. -/
theorem archiveValue_serves (names : List String) (exactPath : Bool) (mem : row ∈ rows)
    (serves : q.Serves row) (listed : names.contains q.parameter = true) :
    ∃ found, archiveValue q.toLookupScope names q.pathid exactPath rows = some found ∧
      (row.accountId = q.accountId → found.2.accountId = q.accountId) := by
  have inTier : row ∈ (rows.filter fun row => names.contains row.parameter && q.within row).filter
      (·.accountId == row.accountId) :=
    mem_tier.mpr ⟨mem, serves.parameter ▸ listed, serves.inScope.project, serves.inScope.env, rfl⟩
  obtain ⟨best, found⟩ := scoreRows_isSome q.accountId inTier serves.path serves.usable
  unfold archiveValue
  dsimp only
  rw [if_neg (by simpa using q.ofAccount)]
  rcases serves.inScope.account with own | free
  · rw [own] at found
    rw [found]
    refine ⟨best, rfl, fun _ => ?_⟩
    exact (mem_tier.mp (scoreRows_some found).1).2.2.2.2
  · rw [free] at found ⊢
    rw [found]
    have other : "" = q.accountId → False := fun same => q.ofAccount same.symm
    cases scoreRows q.accountId q.pathid exactPath ((rows.filter fun row =>
        names.contains row.parameter && q.within row).filter (·.accountId == q.accountId)) with
    | none => exact ⟨best, rfl, fun same => (other same).elim⟩
    | some first => exact ⟨first, rfl, fun same => (other same).elim⟩

theorem answer_accountScoped (byAlias : Bool) (confidence : Rat)
    (inScope : q.InScope found.2) :
    isAccountScoped (answerOf byAlias confidence found).source = true ↔ found.2.accountId = q.accountId := by
  unfold answerOf archiveProvenance
  dsimp only
  rcases inScope.account with own | free
  · rw [own, if_pos (by simpa using q.ofAccount)]
    cases byAlias <;> simp [isAccountScoped]
  · rw [free, if_neg (by simp)]
    simp [isAccountScoped, q.ofAccount.symm]

/-- What the archive step answers is an answer of one of its two searches. -/
theorem archiveStep_some {answer : ArchiveAnswer}
    (answered : archiveStep q.toLookupScope q.parameter q.pathid rows = some answer) :
    ∃ names exactPath byAlias confidence found,
      archiveValue q.toLookupScope names q.pathid exactPath rows = some found ∧
        answer = answerOf byAlias confidence found := by
  unfold archiveStep at answered
  rcases Option.or_eq_some_iff.mp answered with exact | ⟨-, byAlias⟩
  · obtain ⟨found, searched, rfl⟩ := Option.map_eq_some_iff.mp exact
    exact ⟨_, _, _, _, found, searched, rfl⟩
  · unfold aliasStep at byAlias
    split at byAlias
    · obtain ⟨found, searched, rfl⟩ := Option.map_eq_some_iff.mp byAlias
      exact ⟨_, _, _, _, found, searched, rfl⟩
    · cases byAlias

/-- The archive step keeps the scope of every query. -/
theorem stepAnswer_keepsScope (q : ArchiveQuery) (rows : List ArchiveRow) : KeepsScope q rows (stepAnswer q rows) := by
  have exact : ∀ {row}, row ∈ rows → q.Serves row → ∃ found, q.InScope found.2 ∧ isUsable found.1 = true ∧
      (row.accountId = q.accountId → found.2.accountId = q.accountId) ∧
        stepAnswer q rows = some (found.1, (answerOf false (95/100) found).source) := by
    intro row mem serves
    obtain ⟨found, searched, prefers⟩ := archiveValue_serves [q.parameter, leaf q.parameter]
      (leaf q.parameter == "id") mem serves (by simp)
    obtain ⟨-, inScope, -, usable⟩ := archiveValue_some searched
    refine ⟨found, inScope, usable, prefers, ?_⟩
    rw [stepAnswer, archiveStep, exactStep, searched]
    rfl
  constructor
  · intro value source answered
    obtain ⟨answer, step, same⟩ := Option.map_eq_some_iff.mp answered
    obtain ⟨rfl, rfl⟩ := Prod.mk.inj same
    obtain ⟨names, exactPath, byAlias, confidence, found, searched, rfl⟩ := archiveStep_some step
    obtain ⟨mem, inScope, inside, -⟩ := archiveValue_some searched
    exact ⟨found.2, mem, inScope, inside, answer_accountScoped byAlias confidence inScope⟩
  · rintro ⟨row, mem, serves, own⟩
    obtain ⟨found, inScope, -, prefers, answered⟩ := exact mem serves
    exact ⟨_, _, answered, (answer_accountScoped _ _ inScope).mpr (prefers own)⟩
  · rintro ⟨row, mem, serves⟩
    obtain ⟨found, -, usable, -, answered⟩ := exact mem serves
    exact ⟨_, _, answered, usable⟩

end

end ApiManger.Parameters
