import ApiManger.Parameters.Archive

/-!
# All of an archive plan, or nothing

The operations of a plan are checked and saved one after the other. A plan is applied
completely or not at all just where its first operation is refused, or where every operation
passes against the rows that were there and the rows made before it, and the rows that the plan
leaves alone are still in their planned states.
-/

namespace ApiManger.Parameters
open Python Collection Imperative

variable {δ : Type} {digests : ArchiveDigests δ} {ctx : ArchiveContext} {op op' : ArchiveOperation δ}
  {s s' : ArchiveStore}

/-! ## States of planned rows -/

/-- The lists of an operation are as `_archive_state` reads them back. -/
structure ArchiveOperation.Canonical (op : ArchiveOperation δ) : Prop where
  parameterids : sorted op.parameterids = op.parameterids
  reqPathids : sortedSet op.reqPathids = op.reqPathids
  resPathids : sortedSet op.resPathids = op.resPathids
  properties : sorted (op.properties.filter (· != "")) = op.properties

theorem pathidsOf_int (l : List Int) : Json.pathidsOf (l.map .int) = l := by
  induction l with
  | nil => rfl
  | cons n l ih =>
    rw [List.map_cons, Json.pathidsOf, ih]
    rfl

theorem mapM_toInt (l : List Int) : (l.map Json.int).mapM Json.toInt = .ok l := by
  induction l with
  | nil => rfl
  | cons n l ih =>
    rw [List.map_cons, List.mapM_cons, ih]
    rfl

/-- A row that was written is in the planned state. -/
theorem archiveState_plannedRow (canonical : op.Canonical) (id : ℕ) :
    archiveState (plannedRow ctx op id) = .ok (operationState ctx op) := by
  have ids : (plannedRow ctx op id).parameterid.mapM Json.toInt = .ok op.parameterids := mapM_toInt _
  unfold archiveState
  rw [ids, ok_bind, canonical.parameterids]
  simp only [normalizedPathids, plannedRow, pathidsOf_int, canonical.reqPathids, canonical.resPathids,
    canonical.properties]
  rfl

/-- Whether a state is one of the selection. -/
def ArchiveContext.selectsState (ctx : ArchiveContext) (state : ArchiveState) : Bool :=
  state.projectId == ctx.projectId && state.envId == ctx.envId && state.accountId == ctx.accountKey &&
    state.profileRevisionId == ctx.profileRevisionId && state.sourceKind == sourceKind

variable {row : ArchiveRow} {l : List (ArchiveOperation δ)} {existing : List ArchiveRow}
  {plan : ProfileArchivePlan δ}

/-- The state of a row tells its name and whether it is selected. -/
theorem archiveState_row {state : ArchiveState} (read : archiveState row = .ok state) :
    state.parameter = row.parameter ∧ ctx.selectsState state = ctx.selects row := by
  obtain ⟨ids, -, made⟩ := bind_eq_ok.mp read
  cases Except.ok.inj made
  exact ⟨rfl, rfl⟩

theorem selects_plannedRow (id : ℕ) : ctx.selects (plannedRow ctx op id) = true := by
  simp [ArchiveContext.selects, plannedRow]

/-! ## The check of one operation -/

/-- The names of the selected rows. -/
def ArchiveStore.names (s : ArchiveStore) (ctx : ArchiveContext) : List String :=
  (s.rows.filter ctx.selects).map (·.parameter)

/-- What the check of an operation asks for, with the names of rows made since. -/
def ArchiveOperation.Fits (digests : ArchiveDigests δ) (ctx : ArchiveContext) (s : ArchiveStore) (made : List String)
    (op : ArchiveOperation δ) : Prop :=
  match op.action with
  | .create => (s.names ctx ++ made).length ≤ ctx.maxExistingArchives ∧
      ∀ name ∈ s.names ctx ++ made, parameterIdentity name ≠ op.identity
  | _ => ∃ row ∈ s.rows, op.existingId = some row.id ∧
      ∃ state, archiveState row = .ok state ∧ digests.state (some state) = op.beforeSha256

/-- The check passes, and the row can be stored. -/
def ArchiveOperation.Passes (digests : ArchiveDigests δ) (ctx : ArchiveContext) (s : ArchiveStore) (made : List String)
    (op : ArchiveOperation δ) : Prop :=
  op.storable = true ∧ op.Fits digests ctx s made

def ArchiveStore.saved (ctx : ArchiveContext) (op : ArchiveOperation δ) (s : ArchiveStore) : ArchiveStore :=
  match op.existingId with
  | none => s.insert ctx op
  | some id => s.write ctx op id

/-- The row of an operation that is applied to a store. -/
def ArchiveOperation.rowIn (op : ArchiveOperation δ) (s : ArchiveStore) : ℕ := op.existingId.getD s.nextId

/-- The row that an operation finds, where it passes. -/
theorem lookup_row (mem : row ∈ s.rows) : s.row? row.id = some row := s.distinct.lookup_of_mem mem

/-- The check of an operation that makes a row. -/
theorem targetOf_create [DecidableEq δ] (create : op.action = .create) {target : Option ℕ} :
    targetOf digests ctx op s = .ok target ↔ target = none ∧ op.Fits digests ctx s [] := by
  have rows : (s.names ctx).length = (s.rows.filter ctx.selects).length := List.length_map _
  have free : ((s.rows.filter ctx.selects).any fun row => parameterIdentity row.parameter == op.identity) = false ↔
      ∀ name ∈ s.names ctx, parameterIdentity name ≠ op.identity := by
    simp only [ArchiveStore.names, List.any_eq_false, List.forall_mem_map, beq_iff_eq, ne_eq]
  simp only [ArchiveOperation.Fits, create, List.append_nil]
  rw [rows, ← free]
  simp only [targetOf, create, boundedRows]
  by_cases full : ctx.maxExistingArchives < (s.rows.filter ctx.selects).length
  · rw [if_pos full]
    exact iff_of_false nofun fun ⟨_, fits, _⟩ => absurd full (by omega)
  · rw [if_neg full, ok_bind]
    cases ((s.rows.filter ctx.selects).any fun row => parameterIdentity row.parameter == op.identity) with
    | true => exact iff_of_false nofun fun ⟨_, _, clear⟩ => nomatch clear
    | false =>
      exact ⟨fun same => ⟨(Except.ok.inj same).symm, by omega, rfl⟩, fun ⟨same, _⟩ => congrArg Except.ok same.symm⟩

/-- The check of an operation on a row that is there. -/
theorem targetOf_update [DecidableEq δ] (update : op.action = .update) {target : Option ℕ} :
    targetOf digests ctx op s = .ok target ↔ target = op.existingId ∧ op.Fits digests ctx s [] := by
  simp only [ArchiveOperation.Fits, targetOf, update]
  constructor
  · intro passed
    cases found : op.existingId.bind s.row? with
    | none =>
      rw [found] at passed
      nomatch passed
    | some row =>
      rw [found] at passed
      obtain ⟨existing, named, here⟩ := Option.bind_eq_some_iff.mp found
      obtain ⟨state, read, passed⟩ := bind_eq_ok.mp passed
      obtain ⟨same, passed⟩ := raised_or passed
      have key : op.existingId = some row.id := (lookup_key here : row.id = existing) ▸ named
      exact ⟨(Except.ok.inj passed).symm.trans key.symm, row, lookup_mem here, key, state, mapError_ok read,
        not_not.mp same⟩
  · rintro ⟨rfl, row, mem, existing, state, read, same⟩
    rw [existing, Option.bind_some, lookup_row mem]
    dsimp only
    rw [read]
    exact if_neg (not_not.mpr same)

/-- What a plan says of its operations, whose existing rows have ids below `n`. -/
structure Prepared (digests : ArchiveDigests δ) (ctx : ArchiveContext) (n : ℕ) (l : List (ArchiveOperation δ)) : Prop where
  canonical : ∀ op ∈ l, op.Canonical
  creates : ∀ op ∈ l, op.action = .create → op.existingId = none
  existing : ∀ op ∈ l, op.action ≠ .create → ∃ id, op.existingId = some id ∧ id < n
  distinct : l.Pairwise fun op op' => op ≠ op' ∧ ∀ id, op.existingId = some id → op'.existingId ≠ some id
  updates : ∀ op ∈ l, op.action = .update → ∃ state, op.beforeSha256 = digests.state (some state) ∧
    state ≠ operationState ctx op ∧ ctx.selectsState state = true ∧ state.parameter = op.parameter

namespace Prepared
variable {n m : ℕ} {l l' : List (ArchiveOperation δ)}

theorem tail (h : Prepared digests ctx n (op :: l)) : Prepared digests ctx n l where
  canonical o mem := h.canonical o (.tail _ mem)
  creates o mem := h.creates o (.tail _ mem)
  existing o mem := h.existing o (.tail _ mem)
  distinct := (List.pairwise_cons.mp h.distinct).2
  updates o mem := h.updates o (.tail _ mem)

theorem sublist (h : Prepared digests ctx n l) (sub : l'.Sublist l) : Prepared digests ctx n l' where
  canonical o mem := h.canonical o (sub.subset mem)
  creates o mem := h.creates o (sub.subset mem)
  existing o mem := h.existing o (sub.subset mem)
  distinct := h.distinct.sublist sub
  updates o mem := h.updates o (sub.subset mem)

theorem mono (h : Prepared digests ctx n l) (le : n ≤ m) : Prepared digests ctx m l :=
  { h with existing := fun o mem changes =>
      let ⟨id, named, below⟩ := h.existing o mem changes
      ⟨id, named, below.trans_le le⟩ }

end Prepared

/-- The check of an operation that is not passed over. -/
theorem targetOf_iff [DecidableEq δ] {n : ℕ} (prepared : Prepared digests ctx n l)
    (mem : op ∈ l)
    (active : op.action ≠ .unchanged) {target : Option ℕ} :
    targetOf digests ctx op s = .ok target ↔ target = op.existingId ∧ op.Fits digests ctx s [] := by
  cases action : op.action with
  | create => rw [targetOf_create action, prepared.creates op mem action]
  | update => exact targetOf_update action
  | unchanged => exact absurd action active

/-- An operation that passes saves its row. -/
theorem applyOperation_saved [DecidableEq δ] {n : ℕ} (prepared : Prepared digests ctx n l)
    (mem : op ∈ l)
    (active : op.action ≠ .unchanged) (passes : op.Passes digests ctx s []) :
    applyOperation digests ctx op s = (.ok (), s.saved ctx op) := by
  have target := (targetOf_iff prepared mem active).mpr ⟨rfl, passes.2⟩
  rw [applyOperation, if_neg active, Routine.bind_eq, Routine.bind_get, Routine.bind_eq, target,
    Routine.bind_ofExcept_ok, saveRow, if_pos passes.1, Routine.modify_run]
  rfl

/-- An operation that does not pass raises before it writes. -/
theorem applyOperation_refused [DecidableEq δ] {n : ℕ} (prepared : Prepared digests ctx n l)
    (mem : op ∈ l)
    (active : op.action ≠ .unchanged) (refused : ¬op.Passes digests ctx s []) :
    ∃ e, applyOperation digests ctx op s = (.error e, s) := by
  rw [applyOperation, if_neg active, Routine.bind_eq, Routine.bind_get, Routine.bind_eq]
  cases target : targetOf digests ctx op s with
  | error e => exact ⟨e, rfl⟩
  | ok target =>
    have fits := ((targetOf_iff prepared mem active).mp ‹_›).2
    have full : ¬op.storable = true := fun storable => refused ⟨storable, fits⟩
    exact ⟨_, by rw [Routine.bind_ofExcept_ok, saveRow, if_neg full, Routine.raise_run]⟩

/-! ## The store after an operation -/

def createdNames (l : List (ArchiveOperation δ)) : List String :=
  (l.filter (·.action = .create)).map (·.parameter)

theorem createdNames_cons (op : ArchiveOperation δ) (l : List (ArchiveOperation δ)) :
    createdNames (op :: l) = createdNames [op] ++ createdNames l := by
  by_cases create : op.action = .create <;> simp [createdNames, create]

section
variable {n : ℕ} {l : List (ArchiveOperation δ)}

/-- A row that the operation does not write is stored as before. -/
theorem mem_saved {row : ArchiveRow} (other : row.id ≠ op.rowIn s) : row ∈ (s.saved ctx op).rows ↔ row ∈ s.rows := by
  unfold ArchiveOperation.rowIn at other
  unfold ArchiveStore.saved
  cases existing : op.existingId with
  | none =>
    rw [existing] at other
    refine ⟨fun mem => (List.mem_append.mp mem).resolve_right fun new => other ?_, List.mem_append_left _⟩
    rw [List.mem_singleton.mp new]
    rfl
  | some id =>
    rw [existing] at other
    constructor
    · intro mem
      obtain ⟨old, memOld, made⟩ := List.mem_map.mp mem
      split at made
      · next same => exact absurd (made ▸ beq_iff_eq.mp same : row.id = id) other
      · exact made ▸ memOld
    · intro mem
      refine List.mem_map.mpr ⟨row, mem, ?_⟩
      exact if_neg fun same => other (beq_iff_eq.mp same)

theorem saved_nextId : s.nextId ≤ (s.saved ctx op).nextId := by
  unfold ArchiveStore.saved
  cases op.existingId with
  | none => exact Nat.le_succ _
  | some id => exact Nat.le_refl _

/-- The row that an operation finds in the store is in the state that was planned on. -/
theorem Prepared.found (prepared : Prepared digests ctx n l) (mem : op ∈ l) (update : op.action = .update)
    {made : List String} (fits : op.Fits digests ctx s made) : ∃ row ∈ s.rows, op.existingId = some row.id ∧
      ∃ state, archiveState row = .ok state ∧ state ≠ operationState ctx op ∧ ctx.selects row = true ∧
        row.parameter = op.parameter := by
  simp only [ArchiveOperation.Fits, update] at fits
  obtain ⟨row, memRow, existing, state, read, same⟩ := fits
  obtain ⟨before, digest, changes, selected, named⟩ := prepared.updates op mem update
  have eq : state = before := Option.some.inj (digests.collisionFree (same.trans digest))
  subst eq
  obtain ⟨parameter, selects⟩ := archiveState_row read
  exact ⟨row, memRow, existing, state, read, changes, selects ▸ selected, parameter.symm.trans named⟩

/-- An operation that passes leaves its planned row. -/
theorem planned_saved (prepared : Prepared digests ctx n l) (mem : op ∈ l) (active : op.action ≠ .unchanged)
    (fits : op.Fits digests ctx s []) : plannedRow ctx op (op.rowIn s) ∈ (s.saved ctx op).rows := by
  unfold ArchiveOperation.rowIn ArchiveStore.saved
  cases action : op.action with
  | unchanged => exact absurd action active
  | create =>
    rw [prepared.creates op mem action]
    exact List.mem_append_right _ (.head _)
  | update =>
    obtain ⟨row, memRow, existing, -⟩ := prepared.found mem action fits
    rw [existing]
    exact List.mem_map.mpr ⟨row, memRow, if_pos (beq_self_eq_true _)⟩

/-- The names of the selected rows after an operation. -/
theorem names_saved (prepared : Prepared digests ctx n l) (mem : op ∈ l) (active : op.action ≠ .unchanged)
    (fits : op.Fits digests ctx s []) : (s.saved ctx op).names ctx = s.names ctx ++ createdNames [op] := by
  unfold ArchiveStore.saved
  cases action : op.action with
  | unchanged => exact absurd action active
  | create =>
    rw [prepared.creates op mem action]
    have kept : [plannedRow ctx op s.nextId].filter ctx.selects = [plannedRow ctx op s.nextId] :=
      List.filter_cons_of_pos (selects_plannedRow _)
    have new : createdNames [op] = [op.parameter] := by simp [createdNames, action]
    dsimp only [ArchiveStore.names, ArchiveStore.insert]
    rw [List.filter_append, List.map_append, kept, new]
    rfl
  | update =>
    obtain ⟨row, memRow, existing, state, -, -, selected, named⟩ := prepared.found mem action fits
    have none_ : createdNames [op] = [] := by simp [createdNames, action]
    rw [existing, none_, List.append_nil]
    refine map_filter_map fun other memOther => ?_
    by_cases same : other.id = row.id
    · have eq : other = row := s.distinct.eq_of_key memOther memRow same
      rw [eq, if_pos (beq_self_eq_true _), selects_plannedRow, selected]
      exact ⟨rfl, named.symm⟩
    · rw [if_neg fun hit => same (beq_iff_eq.mp hit)]
      exact ⟨rfl, rfl⟩

end

/-! ## Applying operations in a row -/

/-- Each operation passes against the store and the rows made before it. -/
def AllPass (digests : ArchiveDigests δ) (ctx : ArchiveContext) (s : ArchiveStore) :
    List String → List (ArchiveOperation δ) → Prop
  | _, [] => True
  | made, op :: rest => op.Passes digests ctx s made ∧ AllPass digests ctx s (made ++ createdNames [op]) rest

/-- The operations are applied: each has its own row, a new one where it makes it, in the planned state, and the other
rows are as they were. -/
structure Applied (ctx : ArchiveContext) (l : List (ArchiveOperation δ)) (rowOf : ArchiveOperation δ → ℕ)
    (s s' : ArchiveStore) : Prop where
  existing : ∀ op ∈ l, op.action ≠ .create → op.existingId = some (rowOf op)
  created : ∀ op ∈ l, op.action = .create → s.nextId ≤ rowOf op
  once : ∀ op ∈ l, ∀ op' ∈ l, rowOf op = rowOf op' → op = op'
  planned : ∀ op ∈ l, ∃ row ∈ s'.rows, row.id = rowOf op ∧ archiveState row = .ok (operationState ctx op)
  others : ∀ row, (∀ op ∈ l, row.id ≠ rowOf op) → (row ∈ s'.rows ↔ row ∈ s.rows)

theorem Applied.nil (rowOf : ArchiveOperation δ → ℕ) (s : ArchiveStore) : Applied ctx [] rowOf s s where
  existing _ mem := nomatch mem
  created _ mem := nomatch mem
  once _ mem := nomatch mem
  planned _ mem := nomatch mem
  others _ _ := Iff.rfl

section
variable {n : ℕ} {l : List (ArchiveOperation δ)}

/-- The row of an operation is not that of a later one. -/
theorem Prepared.rowIn_ne (prepared : Prepared digests ctx s.nextId (op :: l)) (mem : op' ∈ l) {id : ℕ}
    (named : op'.existingId = some id) : id ≠ op.rowIn s := by
  unfold ArchiveOperation.rowIn
  cases existing : op.existingId with
  | none =>
    have changes : op'.action ≠ .create := fun create =>
      nomatch (prepared.creates op' (.tail _ mem) create).symm.trans named
    obtain ⟨id', named', below⟩ := prepared.existing op' (.tail _ mem) changes
    have same : id = id' := Option.some.inj (named.symm.trans named')
    exact same ▸ below.ne
  | some first =>
    have apart := ((List.pairwise_cons.mp prepared.distinct).1 op' mem).2 first existing
    exact fun same => apart ((congrArg some (same : id = first)).symm ▸ named)

/-- The check of a later operation sees the rows made before it. -/
theorem passes_saved (prepared : Prepared digests ctx s.nextId (op :: l)) (active : op.action ≠ .unchanged)
    (passes : op.Passes digests ctx s []) (mem : op' ∈ l) (made : List String) :
    op'.Passes digests ctx (s.saved ctx op) made ↔ op'.Passes digests ctx s (createdNames [op] ++ made) := by
  have names := names_saved prepared (.head _) active passes.2
  have rows : ∀ row : ArchiveRow, op'.existingId = some row.id → (row ∈ (s.saved ctx op).rows ↔ row ∈ s.rows) :=
    fun row named => mem_saved (prepared.rowIn_ne mem named)
  unfold ArchiveOperation.Passes ArchiveOperation.Fits
  rw [names, List.append_assoc]
  refine and_congr_right fun _ => ?_
  cases op'.action with
  | create => exact Iff.rfl
  | update | unchanged =>
    constructor
    · rintro ⟨row, stored, named, rest⟩
      exact ⟨row, (rows row named).mp stored, named, rest⟩
    · rintro ⟨row, stored, named, rest⟩
      exact ⟨row, (rows row named).mpr stored, named, rest⟩

theorem allPass_saved (prepared : Prepared digests ctx s.nextId (op :: l)) (active : op.action ≠ .unchanged)
    (passes : op.Passes digests ctx s []) {l' : List (ArchiveOperation δ)} (sub : ∀ o ∈ l', o ∈ l) (made : List String) :
    AllPass digests ctx (s.saved ctx op) made l' ↔ AllPass digests ctx s (createdNames [op] ++ made) l' := by
  induction l' generalizing made with
  | nil => exact Iff.rfl
  | cons o rest ih =>
    have later := ih (fun o' mem => sub o' (.tail _ mem)) (made ++ createdNames [o])
    rw [AllPass, AllPass, passes_saved prepared active passes (sub o (.head _)), later, List.append_assoc]

/-- One operation in front of others. -/
theorem Applied.cons [DecidableEq δ] (prepared : Prepared digests ctx s.nextId (op :: l)) (active : op.action ≠ .unchanged)
    (passes : op.Passes digests ctx s []) {rowOf : ArchiveOperation δ → ℕ} (rest : Applied ctx l rowOf (s.saved ctx op) s') :
    Applied ctx (op :: l) (Function.update rowOf op (op.rowIn s)) s s' := by
  have apart := (List.pairwise_cons.mp prepared.distinct).1
  have later : ∀ o ∈ l, Function.update rowOf op (op.rowIn s) o = rowOf o :=
    fun o mem => Function.update_of_ne (apart o mem).1.symm ..
  have here : Function.update rowOf op (op.rowIn s) op = op.rowIn s := Function.update_self ..
  have row := planned_saved prepared (.head _) active passes.2
  -- the row of this operation is not one of the rest
  have ne : ∀ o ∈ l, op.rowIn s ≠ rowOf o := by
    intro o mem same
    by_cases create : o.action = .create
    · exact (((s.saved ctx op).below _ row).trans_le (rest.created o mem create)).ne same
    · exact prepared.rowIn_ne mem (rest.existing o mem create) same.symm
  refine ⟨fun o mem changes => ?_, fun o mem create => ?_, fun o mem o' mem' same => ?_, fun o mem => ?_,
    fun r others => ?_⟩
  · rcases List.mem_cons.mp mem with rfl | mem
    · obtain ⟨id, named, -⟩ := prepared.existing o (.head _) changes
      rw [here, ArchiveOperation.rowIn, named]
      rfl
    · rw [later o mem]
      exact rest.existing o mem changes
  · rcases List.mem_cons.mp mem with rfl | mem
    · rw [here, ArchiveOperation.rowIn, prepared.creates o (.head _) create]
      exact Nat.le_refl _
    · rw [later o mem]
      exact saved_nextId.trans (rest.created o mem create)
  · rcases List.mem_cons.mp mem with first | later₁ <;> rcases List.mem_cons.mp mem' with first' | later₂
    · exact first.trans first'.symm
    · rw [first, here, later o' later₂] at same
      exact absurd same (ne o' later₂)
    · rw [first', here, later o later₁] at same
      exact absurd same.symm (ne o later₁)
    · rw [later o later₁, later o' later₂] at same
      exact rest.once o later₁ o' later₂ same
  · rcases List.mem_cons.mp mem with rfl | mem
    · rw [here]
      exact ⟨_, (rest.others _ ne).mpr row, rfl, archiveState_plannedRow (prepared.canonical o (.head _)) _⟩
    · rw [later o mem]
      exact rest.planned o mem
  · have first : r.id ≠ op.rowIn s := here ▸ others op (.head _)
    rw [rest.others r fun o mem => later o mem ▸ others o (.tail _ mem), mem_saved first]

/-- How a run of operations ends: all pass and are applied, or the first that does not pass raises and those
before it are applied. -/
theorem forEach_ends [DecidableEq δ] (prepared : Prepared digests ctx s.nextId l) (active : ∀ op ∈ l, op.action ≠ .unchanged) :
    (AllPass digests ctx s [] l ∧ ∃ s' rowOf,
      Routine.forEach (applyOperation digests ctx) l s = (.ok (), s') ∧ Applied ctx l rowOf s s') ∨
    (¬AllPass digests ctx s [] l ∧ ∃ before op after s' e rowOf, l = before ++ op :: after ∧
      Routine.forEach (applyOperation digests ctx) l s = (.error e, s') ∧ Applied ctx before rowOf s s' ∧
      (before = [] → s' = s) ∧ ∀ first ∈ l.head?, first.Passes digests ctx s [] ↔ before ≠ []) := by
  induction l generalizing s with
  | nil => exact .inl ⟨trivial, s, fun _ => 0, rfl, Applied.nil _ s⟩
  | cons op l ih =>
    have here := active op (.head _)
    by_cases passes : op.Passes digests ctx s []
    · have saved := applyOperation_saved prepared (.head _) here passes
      have rest : Prepared digests ctx (s.saved ctx op).nextId l := prepared.tail.mono saved_nextId
      have same := allPass_saved prepared here passes (fun _ mem => mem) []
      rw [List.append_nil] at same
      rcases ih rest fun o mem => active o (.tail _ mem) with ⟨pass, s', rowOf, run, applied⟩ | ⟨fails, stops⟩
      · refine .inl ⟨⟨passes, same.mp pass⟩, s', _, ?_, applied.cons prepared here passes⟩
        rw [Routine.forEach, Routine.bind_ok saved, run]
      · obtain ⟨before, o, after, s', e, rowOf, split, run, applied, -, -⟩ := stops
        have sub : Prepared digests ctx s.nextId (op :: before) :=
          prepared.sublist ((split ▸ List.sublist_append_left before _).cons_cons op)
        refine .inr ⟨fun pass => fails (same.mpr pass.2), op :: before, o, after, s', e, _, by rw [split]; rfl, ?_,
          applied.cons sub here passes, fun none => (by cases none), fun first mem => ?_⟩
        · rw [Routine.forEach, Routine.bind_ok saved, run]
        · cases mem
          exact iff_of_true passes (List.cons_ne_nil _ _)
    · obtain ⟨e, refused⟩ := applyOperation_refused prepared (.head _) here passes
      refine .inr ⟨fun pass => passes pass.1, [], op, l, s, e, fun _ => 0, rfl, ?_, Applied.nil _ s, fun _ => rfl,
        fun first mem => ?_⟩
      · rw [Routine.forEach, Routine.bind_error refused]
      · cases mem
        exact iff_of_false passes fun some_ => some_ rfl

end

/-! ## What a plan was built of -/

/-- What an operation says of the rows that were selected. -/
structure Planned (digests : ArchiveDigests δ) (ctx : ArchiveContext) (existing : List ArchiveRow) (op : ArchiveOperation δ) :
    Prop where
  canonical : op.Canonical
  creates : op.action = .create → op.existingId = none
  changes : op.action ≠ .create → ∃ row ∈ existing, parameterIdentity row.parameter = op.identity ∧
    op.existingId = some row.id ∧ ∃ state, archiveState row = .ok state ∧ op.beforeSha256 = digests.state (some state) ∧
      op.parameter = row.parameter ∧ (op.action = .update → state ≠ operationState ctx op)

theorem sorted_properties {l : List String} (named : "" ∉ l) : sorted ((sortedSet l).filter (· != "")) = sortedSet l := by
  have all : (sortedSet l).filter (· != "") = sortedSet l := by
    refine List.filter_eq_self.mpr fun p mem => bne_iff_ne.mpr fun empty => ?_
    exact named (empty ▸ mem_sortedSet.mp mem)
  rw [all, sorted_sortedSet]

/-- A row that is there is not made. -/
theorem action_ne_create (p : Prop) [Decidable p] : (if p then ArchiveAction.unchanged else .update) ≠ .create := by
  split <;> nofun

theorem action_update {p : Prop} [Decidable p] (update : (if p then ArchiveAction.unchanged else .update) = .update) :
    ¬p := by
  intro holds
  rw [if_pos holds] at update
  cases update

theorem createOperation_planned (existing : List ArchiveRow) (g : ArchiveGroup) :
    Planned digests ctx existing (createOperation digests ctx g) where
  canonical := by
    have property : sorted ([sourceKind].filter (· != "")) = [sourceKind] := by decide
    exact ⟨sorted_sortedSet _, sortedSet_sortedSet _, sortedSet_sortedSet _, property⟩
  creates _ := rfl
  changes other := absurd rfl other

theorem updateOperation_planned {g : ArchiveGroup} (mem : row ∈ existing)
    (same : parameterIdentity row.parameter = g.identity) (identified : g.identity ≠ "")
    (made : updateOperation digests ctx g row = .ok op) : op.identity = g.identity ∧ Planned digests ctx existing op := by
  obtain ⟨ids, -, made⟩ := bind_eq_ok.mp made
  obtain ⟨before, read, made⟩ := bind_eq_ok.mp made
  have named : row.parameter ≠ "" := by
    intro empty
    rw [empty, parameterIdentity_empty] at same
    exact identified same.symm
  have properties : "" ∉ row.properties.filter (· != "") ++ [sourceKind] := by
    rw [List.mem_append, List.mem_filter, List.mem_singleton]
    rintro (⟨-, empty⟩ | empty)
    · exact absurd rfl (bne_iff_ne.mp empty)
    · exact absurd empty (by decide)
  cases Except.ok.inj made
  refine ⟨rfl, ⟨sorted_sortedSet _, sortedSet_sortedSet _, sortedSet_sortedSet _, sorted_properties properties⟩,
    fun create => absurd create (action_ne_create _), fun _ => ⟨row, mem, same, rfl, before, read, rfl, ?_, action_update⟩⟩
  exact if_pos (bne_iff_ne.mpr named)

theorem operationOf_planned {g : ArchiveGroup} (identified : g.identity ≠ "")
    (made : operationOf digests ctx existing g = .ok op) : op.identity = g.identity ∧ Planned digests ctx existing op := by
  unfold operationOf at made
  split at made
  · cases Except.ok.inj made
    exact ⟨rfl, createOperation_planned existing g⟩
  · next row found =>
    have same := List.find?_some found
    exact updateOperation_planned (List.mem_of_find?_eq_some found) (beq_iff_eq.mp same) identified made

theorem operations_planned {groups : List ArchiveGroup} {operations : List (ArchiveOperation δ)}
    (ordered : groups.Pairwise (·.identity < ·.identity)) (identified : ∀ g ∈ groups, g.identity ≠ "")
    (each : List.Forall₂ (fun g op => operationOf digests ctx existing g = .ok op) groups operations) :
    operations.Pairwise (·.identity < ·.identity) ∧ ∀ op ∈ operations, Planned digests ctx existing op ∧
      ∃ g ∈ groups, op.identity = g.identity := by
  induction each with
  | nil => exact ⟨.nil, fun _ mem => nomatch mem⟩
  | @cons g op groups operations made each ih =>
    obtain ⟨first, ordered⟩ := List.pairwise_cons.mp ordered
    obtain ⟨sorted, rest⟩ := ih ordered fun g' mem => identified g' (.tail _ mem)
    obtain ⟨same, planned⟩ := operationOf_planned (identified g (.head _)) made
    refine ⟨List.pairwise_cons.mpr ⟨fun op' mem => ?_, sorted⟩, fun op' mem => ?_⟩
    · obtain ⟨-, g', memG, same'⟩ := rest op' mem
      rw [same, same']
      exact first g' memG
    · rcases List.mem_cons.mp mem with rfl | mem
      · exact ⟨planned, g, .head _, same⟩
      · obtain ⟨planned', g', memG, same'⟩ := rest op' mem
        exact ⟨planned', g', .tail _ memG, same'⟩

/-- The operations of a plan that was built. -/
theorem build_prepared {eligible : ℕ} {shown : ArchiveGroups} {rows : ArchiveStore}
    (built : buildProfileArchivePlan digests ctx eligible shown rows = .ok plan) :
    plan.context = ctx ∧ Prepared digests ctx rows.nextId plan.operations := by
  obtain ⟨existing, bounded, built⟩ := bind_eq_ok.mp built
  obtain ⟨-, selected⟩ := raised_or bounded
  cases Except.ok.inj selected
  obtain ⟨-, built⟩ := raised_or built
  obtain ⟨operations, made, built⟩ := bind_eq_ok.mp built
  cases Except.ok.inj built
  obtain ⟨sorted, planned⟩ := operations_planned shown.ordered shown.identified (mapM_ok (mapError_ok made))
  refine ⟨rfl, fun op mem => (planned op mem).1.canonical, fun op mem => (planned op mem).1.creates,
    fun op mem changes => ?_, sorted.imp_of_mem fun {op op'} mem mem' less => ⟨?_, ?_⟩, fun op mem update => ?_⟩
  · obtain ⟨row, memRow, -, named, -⟩ := (planned op mem).1.changes changes
    exact ⟨row.id, named, rows.below row (List.mem_of_mem_filter memRow)⟩
  · rintro rfl
    exact absurd less (lt_irrefl _)
  · intro id first second
    have changes : op.action ≠ .create := fun create => nomatch ((planned op mem).1.creates create).symm.trans first
    have changes' : op'.action ≠ .create := fun create => nomatch ((planned op' mem').1.creates create).symm.trans second
    obtain ⟨row, memRow, identity, named, -⟩ := (planned op mem).1.changes changes
    obtain ⟨row', memRow', identity', named', -⟩ := (planned op' mem').1.changes changes'
    have ids : row.id = row'.id := Option.some.inj ((named.symm.trans first).trans (named'.symm.trans second).symm)
    have eq := rows.distinct.eq_of_key (List.mem_of_mem_filter memRow) (List.mem_of_mem_filter memRow') ids
    rw [← identity, ← identity', eq] at less
    exact absurd less (lt_irrefl _)
  · have changes : op.action ≠ .create := fun create => nomatch create.symm.trans update
    obtain ⟨row, memRow, -, -, state, read, digest, named, differs⟩ := (planned op mem).1.changes changes
    obtain ⟨parameter, selects⟩ := archiveState_row read
    exact ⟨state, digest, differs update, selects.trans (List.mem_filter.mp memRow).2, parameter.trans named.symm⟩

/-! ## The whole plan -/

/-- The operations that a plan does not pass over. -/
def ProfileArchivePlan.effective (plan : ProfileArchivePlan δ) : List (ArchiveOperation δ) :=
  plan.operations.filter fun op => ¬op.action = .unchanged

/-- A call raises and leaves the rows as they were, or returns with all operations applied. -/
structure AppliedOrNot (plan : ProfileArchivePlan δ) (s : ArchiveStore) (run : Except ArchiveError ℕ × ArchiveStore) :
    Prop where
  raised : ∀ e, run.1 = .error e → run.2.rows = s.rows
  returned : ∀ writes, run.1 = .ok writes → ∃ rowOf, Applied plan.context plan.operations rowOf s run.2

theorem appliedOrNot_error {e : ArchiveError} :
    AppliedOrNot plan s (.error e, s') ↔ s'.rows = s.rows :=
  ⟨fun h => h.raised e rfl, fun same => ⟨fun _ _ => same, fun _ h => nomatch h⟩⟩

theorem appliedOrNot_ok {writes : ℕ} :
    AppliedOrNot plan s (.ok writes, s') ↔ ∃ rowOf, Applied plan.context plan.operations rowOf s s' :=
  ⟨fun h => h.returned writes rfl, fun applied => ⟨fun _ h => (nomatch h), fun _ _ => applied⟩⟩

/-- Every operation passes, and the rows that the plan leaves alone are in their planned states. -/
structure GoesThrough (digests : ArchiveDigests δ) (plan : ProfileArchivePlan δ) (s : ArchiveStore) : Prop where
  pass : AllPass digests plan.context s [] plan.effective
  unchanged : ∀ op ∈ plan.operations, op.action = .unchanged → ∃ row ∈ s.rows, op.existingId = some row.id ∧
    archiveState row = .ok (operationState plan.context op)

/-- Two operations on one row are one. -/
theorem Prepared.eq_of_existing {n : ℕ} (prepared : Prepared digests ctx n l)
    (mem : op ∈ l) (mem' : op' ∈ l) {id : ℕ} (named : op.existingId = some id) (named' : op'.existingId = some id) :
    op = op' := by
  let One (a b : ArchiveOperation δ) : Prop := ∀ id, a.existingId = some id → b.existingId = some id → a = b
  have ordered : l.Pairwise One :=
    prepared.distinct.imp fun h id first second => absurd second (h.2 id first)
  have flipped : l.Pairwise (flip One) :=
    prepared.distinct.imp fun h id second first => absurd second (h.2 id first)
  exact ordered.forall_of_forall_of_flip (fun _ _ _ _ _ => rfl) flipped mem mem' id named named'

/-- The rows that an applied plan passed over are applied too, just where they are in their planned states. -/
theorem applied_all {n : ℕ} (prepared : Prepared digests plan.context n plan.operations)
    (below : n ≤ s.nextId) {rowOf : ArchiveOperation δ → ℕ} (applied : Applied plan.context plan.effective rowOf s s') :
    (∃ rowOf, Applied plan.context plan.operations rowOf s s') ↔
      ∀ op ∈ plan.operations, op.action = .unchanged → ∃ row ∈ s.rows, op.existingId = some row.id ∧
        archiveState row = .ok (operationState plan.context op) := by
  have effective : ∀ {op}, op ∈ plan.effective ↔ op ∈ plan.operations ∧ op.action ≠ .unchanged := by
    simp [ProfileArchivePlan.effective]
  have existing : ∀ op ∈ plan.operations, op.action = .unchanged → ∃ id, op.existingId = some id ∧ id < n :=
    fun op mem unchanged => prepared.existing op mem fun create => nomatch unchanged.symm.trans create
  -- the row of an operation that is passed over belongs to no other one
  have apart : ∀ op ∈ plan.operations, op.action = .unchanged → ∀ id, op.existingId = some id →
      ∀ o ∈ plan.effective, id ≠ rowOf o := by
    intro op mem unchanged id named o memO same
    obtain ⟨memO', active⟩ := effective.mp memO
    by_cases create : o.action = .create
    · obtain ⟨id', named', less⟩ := existing op mem unchanged
      have new := applied.created o memO create
      rw [Option.some.inj (named'.symm.trans named)] at less
      omega
    · have eq := prepared.eq_of_existing mem memO' named ((applied.existing o memO create).trans (congrArg some same.symm))
      exact active (eq ▸ unchanged)
  constructor
  · rintro ⟨rowOf', all⟩ op mem unchanged
    have named := all.existing op mem fun create => nomatch unchanged.symm.trans create
    obtain ⟨row, stored, same, read⟩ := all.planned op mem
    refine ⟨row, (applied.others row fun o memO => ?_).mp stored, same ▸ named, read⟩
    exact apart op mem unchanged row.id (same ▸ named) o memO
  · intro there
    let rowOf' (op : ArchiveOperation δ) : ℕ := if op.action = .unchanged then op.existingId.getD 0 else rowOf op
    have passed : ∀ {op}, op.action = .unchanged → rowOf' op = op.existingId.getD 0 := fun unchanged => if_pos unchanged
    have active : ∀ {op}, op.action ≠ .unchanged → rowOf' op = rowOf op := fun changes => if_neg changes
    refine ⟨rowOf', fun op mem changes => ?_, fun op mem create => ?_, fun op mem op' mem' same => ?_, fun op mem => ?_,
      fun row others => applied.others row fun o memO => ?_⟩
    · by_cases unchanged : op.action = .unchanged
      · obtain ⟨id, named, -⟩ := existing op mem unchanged
        rw [passed unchanged, named]
        rfl
      · rw [active unchanged]
        exact applied.existing op (effective.mpr ⟨mem, unchanged⟩) changes
    · have changes : op.action ≠ .unchanged := fun unchanged => nomatch unchanged.symm.trans create
      rw [active changes]
      exact applied.created op (effective.mpr ⟨mem, changes⟩) create
    · by_cases first : op.action = .unchanged <;> by_cases second : op'.action = .unchanged
      · obtain ⟨id, named, -⟩ := existing op mem first
        obtain ⟨id', named', -⟩ := existing op' mem' second
        rw [passed first, passed second, named, named'] at same
        exact prepared.eq_of_existing mem mem' named ((congrArg some same).trans rfl ▸ named')
      · obtain ⟨id, named, -⟩ := existing op mem first
        rw [passed first, active second, named] at same
        exact absurd same (apart op mem first id named op' (effective.mpr ⟨mem', second⟩))
      · obtain ⟨id, named, -⟩ := existing op' mem' second
        rw [passed second, active first, named] at same
        exact absurd same.symm (apart op' mem' second id named op (effective.mpr ⟨mem, first⟩))
      · rw [active first, active second] at same
        exact applied.once op (effective.mpr ⟨mem, first⟩) op' (effective.mpr ⟨mem', second⟩) same
    · by_cases unchanged : op.action = .unchanged
      · obtain ⟨row, stored, named, read⟩ := there op mem unchanged
        rw [passed unchanged, named]
        exact ⟨row, (applied.others row (apart op mem unchanged row.id named)).mpr stored, rfl, read⟩
      · rw [active unchanged]
        exact applied.planned op (effective.mpr ⟨mem, unchanged⟩)
    · have here := effective.mp memO
      exact active here.2 ▸ others o here.1

/-- A plan that has written a row has not left the rows as they were. -/
theorem Applied.changed {n : ℕ} (prepared : Prepared digests ctx n (op :: l))
    (active : op.action ≠ .unchanged) (passes : op.Passes digests ctx s []) {rowOf : ArchiveOperation δ → ℕ}
    {done : List (ArchiveOperation δ)} (applied : Applied ctx done rowOf s s') (mem : op ∈ done) : s'.rows ≠ s.rows := by
  intro same
  obtain ⟨row, stored, key, read⟩ := applied.planned op mem
  rw [same] at stored
  cases action : op.action with
  | unchanged => exact active action
  | create => exact absurd (s.below row stored) (by rw [key]; exact (applied.created op mem action).not_gt)
  | update =>
    obtain ⟨row', stored', named, state, read', differs, -⟩ := prepared.found (.head _) action passes.2
    have named' := applied.existing op mem fun create => nomatch create.symm.trans action
    have ids : row.id = row'.id := key.trans (Option.some.inj (named'.symm.trans named))
    rw [s.distinct.eq_of_key stored stored' ids, read'] at read
    exact differs (Except.ok.inj read)

/-- The loop over the operations is that over those that write. -/
theorem forEach_effective [DecidableEq δ] (plan : ProfileArchivePlan δ) :
    Routine.forEach (applyOperation digests plan.context) plan.operations =
      Routine.forEach (applyOperation digests plan.context) plan.effective := by
  rw [ProfileArchivePlan.effective, ← Routine.forEach_filter]
  congr 1
  funext op
  split
  · next unchanged => exact if_pos unchanged
  · rfl

/-- **All of an archive plan, or nothing.** A plan that was built is applied completely or not at all just where it is
blocked, its hash is not the expected one, its first operation is refused, or everything goes through. -/
theorem applyProfileArchivePlan_iff [DecidableEq δ] {eligible : ℕ} {shown : ArchiveGroups} {rows : ArchiveStore}
    {plan : ProfileArchivePlan δ} (built : buildProfileArchivePlan digests ctx eligible shown rows = .ok plan)
    (later : rows.nextId ≤ s.nextId) (expected : String) :
    AppliedOrNot plan s (applyProfileArchivePlan digests plan expected s) ↔
      plan.blockers ≠ [] ∨ stripped expected ≠ plan.planSha256 ∨
      (∃ first rest, plan.effective = first :: rest ∧ ¬first.Passes digests plan.context s []) ∨
      GoesThrough digests plan s := by
  obtain ⟨rfl, prepared⟩ := build_prepared built
  have effective : Prepared digests plan.context s.nextId plan.effective :=
    (prepared.sublist List.filter_sublist).mono later
  have active : ∀ op ∈ plan.effective, op.action ≠ .unchanged := by
    simp [ProfileArchivePlan.effective]
  unfold applyProfileArchivePlan
  by_cases blocked : plan.blockers ≠ []
  · rw [if_pos blocked, Routine.raise_run, appliedOrNot_error]
    exact iff_of_true rfl (.inl blocked)
  rw [if_neg blocked]
  by_cases mismatch : stripped expected ≠ plan.planSha256
  · rw [if_pos mismatch, Routine.raise_run, appliedOrNot_error]
    exact iff_of_true rfl (.inr (.inl mismatch))
  rw [if_neg mismatch, Routine.bind_eq, forEach_effective, or_iff_right blocked, or_iff_right mismatch]
  rcases forEach_ends effective active with ⟨pass, s', rowOf, run, applied⟩ | ⟨fails, before, op, after, s', e, rowOf, split,
    run, applied, kept, head⟩
  · rw [Routine.bind_ok run, Routine.pure_eq, Routine.ret_run, appliedOrNot_ok]
    have refused : ¬∃ first rest, plan.effective = first :: rest ∧ ¬first.Passes digests plan.context s [] := by
      rintro ⟨first, rest, split, refused⟩
      rw [split] at pass
      exact refused pass.1
    rw [or_iff_right refused]
    have rows := applied_all prepared later applied
    exact ⟨fun all => ⟨pass, rows.mp all⟩, fun goes => rows.mpr goes.unchanged⟩
  · rw [Routine.bind_error run, appliedOrNot_error, or_iff_left fun goes : GoesThrough digests plan s => fails goes.pass]
    cases before with
    | nil =>
      refine iff_of_true (congrArg ArchiveStore.rows (kept rfl)) ⟨op, after, split, fun passes => ?_⟩
      exact (head op (by rw [split]; rfl)).mp passes rfl
    | cons first before =>
      have passes := (head first (by rw [split]; rfl)).mpr (List.cons_ne_nil _ _)
      rw [split] at effective
      refine iff_of_false (applied.changed effective (active first (by rw [split]; exact .head _)) passes (.head _)) ?_
      rintro ⟨first', rest, split', refused⟩
      cases split.symm.trans split'
      exact refused passes

/-! ## A row made in between -/

def shopContext : ArchiveContext where
  projectId := "shop"
  envId := "test"
  profileRevisionId := "revision-1"
  accountKey := "alice"
  inputWatermark := "watermark"
  maxExistingArchives := 10
  maxValuesPerArchive := 5

def plainDigests : ArchiveDigests (Option ArchiveState) where
  state state := state
  plan _ _ _ := "plan"
  valueKey := Json.pyRepr
  collisionFree := Function.injective_id

/-- A parameter that a request showed one value of. -/
def shownGroup (identity value : String) : ArchiveGroup where
  identity := identity
  aliases := [(identity, 1)]
  parameterids := []
  reqPathids := [7]
  resPathids := []
  reqValues := [.str value]
  resValues := []

def shownGroups : ArchiveGroups where
  groups := [shownGroup "order_no" "A1", shownGroup "sku" "B2"]
  ordered := by decide
  identified := by decide

def noRows : ArchiveStore := ⟨[], 0, fun _ mem => (nomatch mem), .nil⟩

/-- Another process has made a row for the second parameter. -/
def skuRow : ArchiveStore := noRows.insert shopContext (createOperation plainDigests shopContext (shownGroup "sku" "C3"))

def shownPlan : ProfileArchivePlan (Option ArchiveState) where
  context := shopContext
  operations := shownGroups.groups.map (createOperation plainDigests shopContext)
  blockers := []
  planSha256 := "plan"

theorem shownPlan_built : buildProfileArchivePlan plainDigests shopContext 1 shownGroups noRows = .ok shownPlan := rfl

/-- The first row is made before the second one is refused. -/
theorem applyProfileArchivePlan_half : ¬∀ (rows s : ArchiveStore) (shown : ArchiveGroups) (ctx : ArchiveContext)
    (plan : ProfileArchivePlan (Option ArchiveState)) (eligible : ℕ) (expected : String),
    buildProfileArchivePlan plainDigests ctx eligible shown rows = .ok plan → rows.nextId ≤ s.nextId →
      AppliedOrNot plan s (applyProfileArchivePlan plainDigests plan expected s) := by
  intro claim
  have kept := claim noRows skuRow shownGroups shopContext shownPlan 1 "plan" shownPlan_built (Nat.zero_le _)
  have raised : (applyProfileArchivePlan plainDigests shownPlan "plan" skuRow).1 =
      .error (.rejected "profile archive changed after planning") := by decide +kernel
  have grown : (applyProfileArchivePlan plainDigests shownPlan "plan" skuRow).2.rows.length = 2 := by decide +kernel
  rw [kept.raised _ raised] at grown
  cases grown

/-- Both rows are made where there were none. -/
theorem applyProfileArchivePlan_both :
    AppliedOrNot shownPlan noRows (applyProfileArchivePlan plainDigests shownPlan "plan" noRows) := by
  refine (applyProfileArchivePlan_iff shownPlan_built (Nat.le_refl _) "plan").mpr (.inr (.inr (.inr ⟨?_, ?_⟩)))
  · refine ⟨⟨by decide, by decide, by decide⟩, ⟨by decide, by decide, ?_⟩, trivial⟩
    decide +kernel
  · decide

end ApiManger.Parameters
