import ApiManger.Parameters.ArchiveLookup

/-!
# The last resort

`_lookup_archive_value` looks at the first row of the account only, and takes the first value of the
row it ends with. Which row is first depends on how they are stored, so it keeps what the archive
step keeps only where the rows it asks begin with one value.
-/

namespace ApiManger.Parameters
open Python Collection

/-- The rows of an account that are asked for the parameter of a path. -/
def ArchiveQuery.asked (q : ArchiveQuery) (rows : List ArchiveRow) (account : String) : List ArchiveRow :=
  rows.filter fun row =>
    row.parameter == q.parameter && row.reqPathid.contains (.int q.pathid) && q.within row && row.accountId == account

/-- The last resort has one answer for all orders of the rows, and it is no empty one where a row serves: the
account's rows all begin with one value, or none of them has values and those of no account begin with one. -/
def OneFirstValue (q : ArchiveQuery) (rows : List ArchiveRow) : Prop := ∃ value,
  ((q.asked rows q.accountId ≠ [] ∧ ∀ row ∈ q.asked rows q.accountId, row.reqValue.head? = some value) ∨
    ((∀ row ∈ q.asked rows q.accountId, row.reqValue = []) ∧
      ∀ row ∈ q.asked rows "", row.reqValue ≠ [] → row.reqValue.head? = some value)) ∧
  (isUsable value = true ∨ ∀ row ∈ rows, ¬ q.Serves row)

section
variable {q : ArchiveQuery} {rows : List ArchiveRow}

variable {row : ArchiveRow} {value : Json} {rest : List ArchiveRow}

theorem mem_asked {account : String} : row ∈ q.asked rows account ↔ row ∈ rows ∧
    row.parameter = q.parameter ∧ row.reqPathid.contains (.int q.pathid) = true ∧
      row.projectId = q.projectId ∧ row.envId = q.envId ∧ row.accountId = account := by
  rw [ArchiveQuery.asked, List.mem_filter]
  simp only [Bool.and_eq_true, LookupScope.within_iff, beq_iff_eq]
  tauto

/-- A row that serves is asked, and has values. -/
theorem ArchiveQuery.Serves.asked (serves : q.Serves row) (mem : row ∈ rows) :
    row ∈ q.asked rows row.accountId ∧ row.reqValue ≠ [] := by
  obtain ⟨value, inside, -⟩ := serves.usable
  exact ⟨mem_asked.mpr ⟨mem, serves.parameter, serves.path, serves.inScope.project, serves.inScope.env, rfl⟩,
    List.ne_nil_of_mem inside⟩

/-- The first row of the account, where it has values; then the first row of no account that has. -/
theorem lookup_eq (q : ArchiveQuery) (rows : List ArchiveRow) :
    lookupArchiveValue q.toLookupScope q.parameter q.pathid rows =
      match (q.asked rows q.accountId).head?.filter fun entry => !entry.reqValue.isEmpty with
      | some entry => sampledOf "parameter_archive" entry
      | none => match (q.asked rows "").find? fun row => !row.reqValue.isEmpty with
        | some row => sampledOf "parameter_archive_project_scoped" row
        | none => (.null, .null, .str "unknown") := by
  have given : (q.accountId == "") = false := by simpa using q.ofAccount
  have own : (rows.filter fun row => row.parameter == q.parameter && row.reqPathid.contains (.int q.pathid) &&
      q.within row).filter (·.accountId == q.accountId) = q.asked rows q.accountId := by
    rw [List.filter_filter, ArchiveQuery.asked]
    congr 1
    funext row
    rw [Bool.and_comm]
  have free : ((rows.filter fun row => row.parameter == q.parameter && row.reqPathid.contains (.int q.pathid) &&
      q.within row).find? fun row => row.accountId == "" && !row.reqValue.isEmpty) =
        (q.asked rows "").find? fun row => !row.reqValue.isEmpty := by
    rw [List.find?_filter, ArchiveQuery.asked, List.find?_filter]
    congr 1
    funext row
    simp [and_assoc]
  unfold lookupArchiveValue
  dsimp only
  rw [given, if_neg Bool.false_ne_true, if_neg Bool.false_ne_true, own, free]
  all_goals rfl

theorem head?_of_ne_nil {values : List Json} (nonempty : values ≠ []) :
    values.head? = some (Experiments.selectValue values) := by
  cases values with
  | nil => exact (nonempty rfl).elim
  | cons value values => rfl

theorem selectValue_of_head? {values : List Json} (first : values.head? = some value) :
    Experiments.selectValue values = value := by
  cases values with
  | nil => cases first
  | cons => exact Option.some.inj first

/-- The account's rows all begin with one value. -/
theorem lookup_own (nonempty : q.asked rows q.accountId ≠ [])
    (first : ∀ row ∈ q.asked rows q.accountId, row.reqValue.head? = some value) :
    lookupArchiveValue q.toLookupScope q.parameter q.pathid rows = (value, .str "parameter_archive", .str "sampled") := by
  rw [lookup_eq]
  cases own : q.asked rows q.accountId with
  | nil => exact (nonempty own).elim
  | cons entry rest =>
    have here := first entry (own ▸ .head _)
    have filled : (!entry.reqValue.isEmpty) = true := by
      cases values : entry.reqValue with
      | nil =>
        rw [values] at here
        cases here
      | cons => rfl
    rw [List.head?_cons, Option.filter_some, if_pos filled]
    dsimp only
    rw [sampledOf, selectValue_of_head? here]

/-- The account's rows have no values, where the first has none. -/
theorem lookup_free (none_ : ∀ row ∈ q.asked rows q.accountId, row.reqValue = []) :
    lookupArchiveValue q.toLookupScope q.parameter q.pathid rows =
      match (q.asked rows "").find? fun row => !row.reqValue.isEmpty with
      | some row => sampledOf "parameter_archive_project_scoped" row
      | none => (.null, .null, .str "unknown") := by
  rw [lookup_eq]
  cases own : q.asked rows q.accountId with
  | nil => rfl
  | cons entry rest =>
    have empty : entry.reqValue = [] := none_ entry (own ▸ .head _)
    rw [List.head?_cons, Option.filter_some, empty, if_neg (by simp)]

theorem asked_cons {account : String}
    (mem : row ∈ q.asked (row :: rest) account) : q.asked (row :: rest) account = row :: q.asked rest account := by
  unfold ArchiveQuery.asked
  exact List.filter_cons_of_pos (List.mem_filter.mp mem).2

/-- A row of the account without values that comes first hides the others. -/
theorem lookup_hidden (own : row ∈ q.asked (row :: rest) q.accountId)
    (empty : row.reqValue = []) :
    (lookupArchiveValue q.toLookupScope q.parameter q.pathid (row :: rest)).2.1 ≠ .str "parameter_archive" := by
  rw [lookup_eq, asked_cons own, List.head?_cons, Option.filter_some, empty, if_neg (by simp)]
  dsimp only
  split
  · simp [sampledOf]
  · simp

/-- A row of the account with values that comes first is taken. -/
theorem lookup_first (own : row ∈ q.asked (row :: rest) q.accountId)
    (filled : row.reqValue ≠ []) :
    lookupArchiveValue q.toLookupScope q.parameter q.pathid (row :: rest) = sampledOf "parameter_archive" row := by
  rw [lookup_eq, asked_cons own, List.head?_cons, Option.filter_some, if_pos (by simpa using filled)]

/-- A row of no account with values that comes first is taken, where the account's rows have none. -/
theorem lookup_free_first (free : row ∈ q.asked (row :: rest) "")
    (none_ : ∀ row' ∈ q.asked (row :: rest) q.accountId, row'.reqValue = []) (filled : row.reqValue ≠ []) :
    lookupArchiveValue q.toLookupScope q.parameter q.pathid (row :: rest) =
      sampledOf "parameter_archive_project_scoped" row := by
  rw [lookup_free none_, asked_cons free, List.find?_cons_of_pos (by simpa using filled)]

theorem asked_perm {rows' : List ArchiveRow} (perm : rows'.Perm rows) {account : String} :
    row ∈ q.asked rows' account ↔ row ∈ q.asked rows account := by
  rw [mem_asked, mem_asked, perm.mem_iff]

/-- The answer where the account's rows have no values: it is of the first row of no account that has. -/
theorem lookup_free_cases (none_ : ∀ row ∈ q.asked rows q.accountId, row.reqValue = [])
    (first : ∀ row ∈ q.asked rows "", row.reqValue ≠ [] → row.reqValue.head? = some value) :
    (∃ row ∈ q.asked rows "", row.reqValue ≠ [] ∧ lookupArchiveValue q.toLookupScope q.parameter q.pathid rows =
      (value, .str "parameter_archive_project_scoped", .str "sampled")) ∨
    ((∀ row ∈ q.asked rows "", row.reqValue = []) ∧
      lookupArchiveValue q.toLookupScope q.parameter q.pathid rows = (.null, .null, .str "unknown")) := by
  rw [lookup_free none_]
  cases found : (q.asked rows "").find? fun row => !row.reqValue.isEmpty with
  | none =>
    refine .inr ⟨fun row mem => ?_, rfl⟩
    simpa using List.find?_eq_none.mp found row mem
  | some row =>
    have mem := List.mem_of_find?_eq_some found
    have filled : row.reqValue ≠ [] := by simpa using List.find?_some found
    refine .inl ⟨row, mem, filled, ?_⟩
    dsimp only
    rw [sampledOf, selectValue_of_head? (first row mem filled)]

/-- Rows that begin with one value have one answer, whatever their order. -/
theorem lookup_perm {rows' : List ArchiveRow} (perm : rows'.Perm rows)
    (first : (q.asked rows q.accountId ≠ [] ∧ ∀ row ∈ q.asked rows q.accountId, row.reqValue.head? = some value) ∨
      ((∀ row ∈ q.asked rows q.accountId, row.reqValue = []) ∧
        ∀ row ∈ q.asked rows "", row.reqValue ≠ [] → row.reqValue.head? = some value)) :
    lookupArchiveValue q.toLookupScope q.parameter q.pathid rows' =
      lookupArchiveValue q.toLookupScope q.parameter q.pathid rows := by
  rcases first with ⟨nonempty, own⟩ | ⟨none_, free⟩
  · obtain ⟨row, mem⟩ := List.exists_mem_of_ne_nil _ nonempty
    have nonempty' : q.asked rows' q.accountId ≠ [] := List.ne_nil_of_mem ((asked_perm perm).mpr mem)
    rw [lookup_own nonempty own, lookup_own nonempty' fun row mem => own row ((asked_perm perm).mp mem)]
  · have none' : ∀ row ∈ q.asked rows' q.accountId, row.reqValue = [] :=
      fun row mem => none_ row ((asked_perm perm).mp mem)
    have free' : ∀ row ∈ q.asked rows' "", row.reqValue ≠ [] → row.reqValue.head? = some value :=
      fun row mem => free row ((asked_perm perm).mp mem)
    rcases lookup_free_cases none_ free with ⟨row, mem, filled, answer⟩ | ⟨empty, answer⟩ <;>
      rcases lookup_free_cases none' free' with ⟨row', mem', filled', answer'⟩ | ⟨empty', answer'⟩
    · rw [answer, answer']
    · exact (filled (empty' row ((asked_perm perm).mpr mem))).elim
    · exact (filled' (empty row' ((asked_perm perm).mp mem'))).elim
    · rw [answer, answer']

theorem isAccountScoped_own : isAccountScoped "parameter_archive" = true := by decide

theorem isAccountScoped_free : isAccountScoped "parameter_archive_project_scoped" = false := by decide

theorem lastResort_of {source : String} {quality : Json}
    (answer : lookupArchiveValue q.toLookupScope q.parameter q.pathid rows = (value, .str source, quality)) :
    lastResort q rows = some (value, source) := by
  rw [lastResort, answer]

/-- The last resort keeps the scope where the rows begin with one value. -/
theorem lastResort_keepsScope (one : OneFirstValue q rows) : KeepsScope q rows (lastResort q rows) := by
  obtain ⟨value, ⟨nonempty, own⟩ | ⟨none_, free⟩, usable⟩ := one
  · have answer := lastResort_of (lookup_own nonempty own)
    constructor
    · intro value' source answered
      obtain ⟨rfl, rfl⟩ := Prod.mk.inj (Option.some.inj (answer.symm.trans answered))
      obtain ⟨row, mem⟩ := List.exists_mem_of_ne_nil _ nonempty
      obtain ⟨stored, -, -, project, env, account⟩ := mem_asked.mp mem
      refine ⟨row, stored, ⟨project, env, .inl account⟩, ?_, ?_⟩
      · exact List.mem_append_left _ (List.mem_of_head? (own row mem))
      · exact iff_of_true isAccountScoped_own account
    · exact fun _ => ⟨_, _, answer, isAccountScoped_own⟩
    · rintro ⟨row, mem, serves⟩
      exact ⟨_, _, answer, usable.resolve_right fun none' => none' row mem serves⟩
  · have serving : ∀ row ∈ rows, q.Serves row → row.accountId = "" := by
      intro row mem serves
      obtain ⟨asked, filled⟩ := serves.asked mem
      refine serves.inScope.account.resolve_left fun account => filled ?_
      exact none_ row (account ▸ asked)
    have other : ∀ row ∈ rows, q.Serves row → row.accountId ≠ q.accountId :=
      fun row mem serves same => q.ofAccount (same.symm.trans (serving row mem serves))
    rcases lookup_free_cases none_ free with ⟨row, mem, filled, found⟩ | ⟨empty, found⟩
    · have answer := lastResort_of found
      constructor
      · intro value' source answered
        obtain ⟨rfl, rfl⟩ := Prod.mk.inj (Option.some.inj (answer.symm.trans answered))
        obtain ⟨stored, -, -, project, env, account⟩ := mem_asked.mp mem
        refine ⟨row, stored, ⟨project, env, .inr account⟩, ?_, ?_⟩
        · exact List.mem_append_left _ (List.mem_of_head? (free row mem filled))
        · refine iff_of_false (by rw [isAccountScoped_free]; exact Bool.false_ne_true) ?_
          rw [account]
          exact q.ofAccount.symm
      · rintro ⟨row, mem, serves, same⟩
        exact (other row mem serves same).elim
      · rintro ⟨row, mem, serves⟩
        exact ⟨_, _, answer, usable.resolve_right fun none' => none' row mem serves⟩
    · have answer : lastResort q rows = none := by rw [lastResort, found]
      constructor
      · intro value' source answered
        rw [answer] at answered
        cases answered
      · rintro ⟨row, mem, serves, same⟩
        exact (other row mem serves same).elim
      · rintro ⟨row, mem, serves⟩
        obtain ⟨asked, filled⟩ := serves.asked mem
        exact (filled (empty row (serving row mem serves ▸ asked))).elim

/-- One answer for all orders comes of rows that begin with one value. -/
theorem oneFirstValue_of_agree (agree : LookupsAgree q rows) : OneFirstValue q rows := by
  have moved : ∀ {row}, row ∈ rows → lookupArchiveValue q.toLookupScope q.parameter q.pathid (row :: rows.erase row) =
      lookupArchiveValue q.toLookupScope q.parameter q.pathid rows :=
    fun mem => (agree.ordered _ (List.perm_cons_erase mem).symm).2
  have asked_moved : ∀ {row row' account}, row ∈ rows → (row' ∈ q.asked (row :: rows.erase row) account ↔
      row' ∈ q.asked rows account) := fun mem => asked_perm (List.perm_cons_erase mem).symm
  have good : ∀ {value source quality}, lookupArchiveValue q.toLookupScope q.parameter q.pathid rows =
      (value, .str source, quality) → isUsable value = true ∨ ∀ row ∈ rows, ¬ q.Serves row := by
    intro value source quality answer
    by_cases serving : ∃ row ∈ rows, q.Serves row
    · obtain ⟨value', source', answered, usable⟩ := agree.last.found serving
      obtain ⟨rfl, rfl⟩ := Prod.mk.inj (Option.some.inj ((lastResort_of answer).symm.trans answered))
      exact .inl usable
    · exact .inr fun row mem serves => serving ⟨row, mem, serves⟩
  by_cases filled : ∃ row ∈ q.asked rows q.accountId, row.reqValue ≠ []
  · obtain ⟨row, own, filled⟩ := filled
    have mem := (mem_asked.mp own).1
    have answer := (lookup_first ((asked_moved mem).mpr own) filled).symm.trans (moved mem)
    refine ⟨Experiments.selectValue row.reqValue, .inl ⟨List.ne_nil_of_mem own, fun row' own' => ?_⟩, good answer.symm⟩
    have mem' := (mem_asked.mp own').1
    have filled' : row'.reqValue ≠ [] := by
      intro empty
      refine lookup_hidden ((asked_moved mem').mpr own') empty ?_
      rw [moved mem', ← answer]
      rfl
    have answer' := (lookup_first ((asked_moved mem').mpr own') filled').symm.trans (moved mem')
    rw [head?_of_ne_nil filled']
    exact congrArg some (congrArg Prod.fst (answer'.trans answer.symm))
  · have none_ : ∀ row ∈ q.asked rows q.accountId, row.reqValue = [] := by
      intro row own
      by_contra nonempty
      exact filled ⟨row, own, nonempty⟩
    have taken : ∀ row ∈ q.asked rows "", row.reqValue ≠ [] → sampledOf "parameter_archive_project_scoped" row =
        lookupArchiveValue q.toLookupScope q.parameter q.pathid rows := by
      intro row free nonempty
      have mem := (mem_asked.mp free).1
      refine (lookup_free_first ((asked_moved mem).mpr free) (fun row' own => ?_) nonempty).symm.trans (moved mem)
      exact none_ row' ((asked_moved mem).mp own)
    by_cases some_ : ∃ row ∈ q.asked rows "", row.reqValue ≠ []
    · obtain ⟨row, free, nonempty⟩ := some_
      have answer := taken row free nonempty
      refine ⟨Experiments.selectValue row.reqValue, .inr ⟨none_, fun row' free' nonempty' => ?_⟩, good answer.symm⟩
      rw [head?_of_ne_nil nonempty']
      exact congrArg some (congrArg Prod.fst ((taken row' free' nonempty').trans answer.symm))
    · refine ⟨.null, .inr ⟨none_, fun row free nonempty => (some_ ⟨row, free, nonempty⟩).elim⟩, .inr fun row mem serves => ?_⟩
      obtain ⟨asked, nonempty⟩ := serves.asked mem
      rcases serves.inScope.account with own | free
      · exact nonempty (none_ row (own ▸ asked))
      · exact some_ ⟨row, free ▸ asked, nonempty⟩

end

/-- **Lookups in the archive.** Both keep the account, the project and the environment, and answer
alike for every order of the rows, exactly when the rows the last resort asks begin with one value. -/
theorem lookups_agree_iff (store : ArchiveStore) (q : ArchiveQuery) :
    LookupsAgree q store.rows ↔ OneFirstValue q store.rows := by
  refine ⟨oneFirstValue_of_agree, fun one => ⟨stepAnswer_keepsScope q store.rows, lastResort_keepsScope one, ?_⟩⟩
  intro rows' perm
  obtain ⟨value, first, -⟩ := one
  exact ⟨archiveStep_perm _ _ _ store.distinct perm, lookup_perm perm first⟩

/-- A row of the account `a` for the order of a path. -/
def orderRow (id : ℕ) (reqValue : List Json) : ArchiveRow where
  id := id
  parameter := "orderId"
  reqPathid := [.int 7]
  reqValue := reqValue
  projectId := "p"
  envId := "t"
  accountId := "a"

/-- The row that is stored first has no request value. -/
def orderArchive : ArchiveStore where
  rows := [orderRow 1 [], orderRow 2 [.str "42"]]
  nextId := 3
  below := by simp [Below, orderRow]
  distinct := by simp [Distinct, orderRow]

def orderQuery : ArchiveQuery where
  accountId := "a"
  projectId := "p"
  envId := "t"
  parameter := "orderId"
  pathid := 7
  named := by decide
  ofAccount := by decide
  ofProject := by decide
  ofEnv := by decide

/-- The account's second row has the value, and the last resort finds nothing. -/
theorem first_row_hides : ¬ LookupsAgree orderQuery orderArchive.rows := by
  intro agree
  have serves : orderQuery.Serves (orderRow 2 [.str "42"]) :=
    ⟨⟨rfl, rfl, .inl rfl⟩, rfl, by decide, ⟨.str "42", .head _, by decide⟩⟩
  obtain ⟨value, source, answered, -⟩ := agree.last.found ⟨_, .tail _ (.head _), serves⟩
  have nothing : lastResort orderQuery orderArchive.rows = none := by decide +kernel
  rw [nothing] at answered
  cases answered

end ApiManger.Parameters
