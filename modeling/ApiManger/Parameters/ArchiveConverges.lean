import ApiManger.Parameters.ArchiveApplied
import ApiManger.Parameters.Occurrences

/-!
# A plan on an applied plan

`build_profile_archive_plan` after `apply_profile_archive_plan`, from the same samples and
documents. What a row was merged with is in it: merged with it again, the row stays as it is. The
second plan finds the rows of the first one by their names, so each name that was made must have
the identity that it was made for.
-/

namespace ApiManger.Parameters
open Python Collection Imperative

variable {δ : Type} {digests : ArchiveDigests δ} {ctx : ArchiveContext} {op op' : ArchiveOperation δ}
  {s s' : ArchiveStore} {g : ArchiveGroup}

/-! ## Merging again -/

section
variable (key : Json → String) (limit : ℕ)

theorem mergeValues_seen {seen : List String} {values : List Json} (known : ∀ v ∈ values, key v ∈ seen) :
    mergeValues key limit seen values = [] := by
  induction values with
  | nil => rfl
  | cons value rest ih =>
    rw [mergeValues, if_pos (List.contains_iff_mem.mpr (known value (.head _)))]
    exact ih fun v mem => known v (.tail _ mem)

/-- Values that were merged, merged with some of them, are the same. -/
theorem mergeValues_again {seen : List String} {values more : List Json}
    (known : ∀ v ∈ more, key v ∈ seen ∨ key v ∈ values.map key) :
    mergeValues key limit seen (mergeValues key limit seen values ++ more) = mergeValues key limit seen values := by
  induction values generalizing seen with
  | nil => exact mergeValues_seen key limit fun v mem => (known v mem).resolve_right (List.not_mem_nil)
  | cons value rest ih =>
    rw [mergeValues]
    by_cases listed : seen.contains (key value) = true
    · rw [if_pos listed]
      refine ih fun v mem => (known v mem).elim .inl fun later => ?_
      rcases List.mem_cons.mp later with same | later
      · exact .inl (same ▸ List.contains_iff_mem.mp listed)
      · exact .inr later
    · rw [if_neg listed]
      by_cases full : limit ≤ seen.length + 1
      · rw [if_pos full, List.singleton_append, mergeValues, if_neg listed, if_pos full]
      · rw [if_neg full, List.cons_append, mergeValues, if_neg listed, if_neg full]
        refine congrArg (value :: ·) (ih fun v mem => ?_)
        rcases known v mem with before | later
        · exact .inl (List.mem_append_left _ before)
        · rcases List.mem_cons.mp later with same | later
          · exact .inl (List.mem_append_right _ (List.mem_singleton.mpr same))
          · exact .inr later

end

/-! ## An operation and the one after it -/

/-- The later operation leaves the row of the first one as it is. -/
structure Settles (op op' : ArchiveOperation δ) : Prop where
  unchanged : op'.action = .unchanged
  identity : op'.identity = op.identity
  parameterids : op'.parameterids = op.parameterids
  reqPathids : op'.reqPathids = op.reqPathids
  resPathids : op'.resPathids = op.resPathids
  reqValues : op'.reqValues = op.reqValues
  resValues : op'.resValues = op.resValues

/-- An operation was merged with what is shown of a group. -/
structure Absorbs (digests : ArchiveDigests δ) (ctx : ArchiveContext) (op : ArchiveOperation δ) (g : ArchiveGroup) :
    Prop where
  identity : op.identity = g.identity
  named : op.parameter ≠ ""
  parameterids : ∃ l, op.parameterids = sortedSet (g.parameterids ++ l)
  reqPathids : ∃ l, op.reqPathids = sortedSet (l ++ g.reqPathids)
  resPathids : ∃ l, op.resPathids = sortedSet (l ++ g.resPathids)
  reqValues : ∃ l, op.reqValues = mergeValues digests.valueKey ctx.maxValuesPerArchive [] (l ++ g.reqValues)
  resValues : ∃ l, op.resValues = mergeValues digests.valueKey ctx.maxValuesPerArchive [] (l ++ g.resValues)
  properties : ∃ l, op.properties = sortedSet (l ++ [sourceKind])

theorem createOperation_absorbs (named : preferredParameterName g.identity g.aliases ≠ "") :
    Absorbs digests ctx (createOperation digests ctx g) g where
  identity := rfl
  named := named
  parameterids := ⟨[], by rw [List.append_nil]; rfl⟩
  reqPathids := ⟨[], rfl⟩
  resPathids := ⟨[], rfl⟩
  reqValues := ⟨[], rfl⟩
  resValues := ⟨[], rfl⟩
  properties := ⟨[], rfl⟩

variable {row : ArchiveRow} {l : List (ArchiveOperation δ)}

theorem updateOperation_absorbs (named : row.parameter ≠ "")
    (made : updateOperation digests ctx g row = .ok op) : Absorbs digests ctx op g := by
  obtain ⟨ids, -, made⟩ := bind_eq_ok.mp made
  obtain ⟨before, -, made⟩ := bind_eq_ok.mp made
  cases Except.ok.inj made
  have kept : (if (row.parameter != "") = true then row.parameter else preferredParameterName g.identity g.aliases) =
      row.parameter := if_pos (bne_iff_ne.mpr named)
  exact ⟨rfl, kept.symm ▸ named, ⟨_, rfl⟩, ⟨_, rfl⟩, ⟨_, rfl⟩, ⟨_, rfl⟩, ⟨_, rfl⟩, ⟨_, rfl⟩⟩

/-- A set that was made with some elements, with them again. -/
theorem sortedSet_absorbed {α : Type} [LinearOrder α] {set shown l again : List α} (made : set = sortedSet l)
    (has : ∀ a ∈ shown, a ∈ l) (same : ∀ a, a ∈ again ↔ a ∈ set ∨ a ∈ shown) : sortedSet again = set := by
  rw [made]
  refine sortedSet_congr fun a => ?_
  rw [same, made, mem_sortedSet]
  exact ⟨fun either => either.elim id (has a), .inl⟩

/-- A row in the state of an operation that was merged with a group stays so. -/
theorem updateOperation_settles (absorbs : Absorbs digests ctx op g)
    (read : archiveState row = .ok (operationState ctx op)) :
    ∃ op', updateOperation digests ctx g row = .ok op' ∧ Settles op op' := by
  obtain ⟨ids, listed, made⟩ := bind_eq_ok.mp read
  have state := Except.ok.inj made
  have parameter : row.parameter = op.parameter := congrArg ArchiveState.parameter state
  have sortedIds : sorted ids = op.parameterids := congrArg ArchiveState.parameterids state
  have reqPathids : normalizedPathids row.reqPathid = op.reqPathids := congrArg ArchiveState.reqPathids state
  have resPathids : normalizedPathids row.resPathid = op.resPathids := congrArg ArchiveState.resPathids state
  have reqValues : row.reqValue = op.reqValues := congrArg ArchiveState.reqValues state
  have resValues : row.resValue = op.resValues := congrArg ArchiveState.resValues state
  have properties : sorted (row.properties.filter (· != "")) = op.properties := congrArg ArchiveState.properties state
  obtain ⟨ids₀, ids₀Eq⟩ := absorbs.parameterids
  obtain ⟨req₀, req₀Eq⟩ := absorbs.reqPathids
  obtain ⟨res₀, res₀Eq⟩ := absorbs.resPathids
  obtain ⟨reqV₀, reqV₀Eq⟩ := absorbs.reqValues
  obtain ⟨resV₀, resV₀Eq⟩ := absorbs.resValues
  obtain ⟨props₀, props₀Eq⟩ := absorbs.properties
  -- each list of the row, merged with the group, is the list of the operation
  have ids' : sortedSet (g.parameterids ++ ids) = op.parameterids :=
    sortedSet_absorbed ids₀Eq (fun a mem => List.mem_append_left _ mem) fun a => by
      rw [← sortedIds, mem_sorted, List.mem_append, or_comm]
  have req' : sortedSet (normalizedPathids row.reqPathid ++ g.reqPathids) = op.reqPathids :=
    sortedSet_absorbed req₀Eq (fun a mem => List.mem_append_right _ mem) fun a => by
      rw [reqPathids, List.mem_append]
  have res' : sortedSet (normalizedPathids row.resPathid ++ g.resPathids) = op.resPathids :=
    sortedSet_absorbed res₀Eq (fun a mem => List.mem_append_right _ mem) fun a => by
      rw [resPathids, List.mem_append]
  have properties' : sortedSet (row.properties.filter (· != "") ++ [sourceKind]) = op.properties :=
    sortedSet_absorbed props₀Eq (fun a mem => List.mem_append_right _ mem) fun a => by
      rw [← properties, mem_sorted, List.mem_append]
  have known : ∀ (l shown : List Json), ∀ v ∈ shown,
      digests.valueKey v ∈ ([] : List String) ∨ digests.valueKey v ∈ (l ++ shown).map digests.valueKey :=
    fun l shown v mem => .inr (List.mem_map_of_mem (List.mem_append_right _ mem))
  have reqV' : mergeValues digests.valueKey ctx.maxValuesPerArchive [] (row.reqValue ++ g.reqValues) = op.reqValues := by
    rw [reqValues, reqV₀Eq]
    exact mergeValues_again _ _ (known _ _)
  have resV' : mergeValues digests.valueKey ctx.maxValuesPerArchive [] (row.resValue ++ g.resValues) = op.resValues := by
    rw [resValues, resV₀Eq]
    exact mergeValues_again _ _ (known _ _)
  have named : (if (row.parameter != "") = true then row.parameter else preferredParameterName g.identity g.aliases) =
      op.parameter := by
    rw [parameter, if_pos (bne_iff_ne.mpr absorbs.named)]
  unfold updateOperation
  rw [listed, ok_bind, read, ok_bind, ids', req', res', properties', reqV', resV', named]
  exact ⟨_, rfl, if_pos rfl, absorbs.identity.symm, rfl, rfl, rfl, rfl, rfl⟩

/-- An operation that leaves its row as it is found it in its planned state. -/
theorem updateOperation_unchanged (made : updateOperation digests ctx g row = .ok op)
    (unchanged : op.action = .unchanged) :
    op.existingId = some row.id ∧ archiveState row = .ok (operationState ctx op) := by
  obtain ⟨ids, -, made⟩ := bind_eq_ok.mp made
  obtain ⟨before, read, made⟩ := bind_eq_ok.mp made
  cases Except.ok.inj made
  refine ⟨rfl, read.trans (congrArg Except.ok ?_)⟩
  by_contra differs
  exact nomatch unchanged.symm.trans (if_neg differs)

/-! ## Rows by their identities -/

/-- The identities of the selected rows, of those that have one. -/
def ArchiveStore.identities (s : ArchiveStore) (ctx : ArchiveContext) : List String :=
  ((s.names ctx).map fun name => parameterIdentity name).filter (· != "")

theorem identities_rows : s.identities ctx =
    ((s.rows.filter ctx.selects).map fun row => parameterIdentity row.parameter).filter (· != "") := by
  simp only [ArchiveStore.identities, ArchiveStore.names, List.map_map, Function.comp_def]

/-- The groups that have no row. -/
def ArchiveStore.newGroups (s : ArchiveStore) (ctx : ArchiveContext) (groups : List ArchiveGroup) : List ArchiveGroup :=
  groups.filter fun g => (s.names ctx).all fun name => parameterIdentity name != g.identity

theorem mem_newGroups {groups : List ArchiveGroup} :
    g ∈ s.newGroups ctx groups ↔ g ∈ groups ∧ ∀ name ∈ s.names ctx, parameterIdentity name ≠ g.identity := by
  simp only [ArchiveStore.newGroups, List.mem_filter, List.all_eq_true, bne_iff_ne]

/-- Where no two rows have one identity, the row of an identity is found. -/
theorem find_identity {rows : List ArchiveRow} {identity : String}
    (once : ((rows.map fun r => parameterIdentity r.parameter).filter (· != "")).Nodup) (mem : row ∈ rows)
    (same : parameterIdentity row.parameter = identity) (identified : identity ≠ "") :
    rows.find? (fun r => parameterIdentity r.parameter == identity) = some row := by
  induction rows with
  | nil => cases mem
  | cons r rest ih =>
    rw [List.map_cons] at once
    rcases List.mem_cons.mp mem with here | later
    · rw [← here]
      exact List.find?_cons_of_pos (beq_iff_eq.mpr same)
    · have listed : identity ∈ (rest.map fun r => parameterIdentity r.parameter).filter (· != "") :=
        List.mem_filter.mpr ⟨List.mem_map.mpr ⟨row, later, same⟩, bne_iff_ne.mpr identified⟩
      by_cases hit : parameterIdentity r.parameter = identity
      · rw [List.filter_cons, hit, if_pos (bne_iff_ne.mpr identified)] at once
        exact absurd listed (List.nodup_cons.mp once).1
      · rw [List.find?_cons_of_neg (by rwa [beq_iff_eq])]
        refine ih (once.sublist ?_) later
        exact (List.sublist_cons_self _ _).filter _

/-- A plan that was built saw each identity at most once, in no more rows than are allowed. -/
theorem build_inv {eligible : ℕ} {shown : ArchiveGroups} {plan : ProfileArchivePlan δ}
    (built : buildProfileArchivePlan digests ctx eligible shown s = .ok plan) :
    (s.names ctx).length ≤ ctx.maxExistingArchives ∧ (s.identities ctx).Nodup ∧
      List.Forall₂ (fun g op => operationOf digests ctx (s.rows.filter ctx.selects) g = .ok op) shown.groups
        plan.operations := by
  obtain ⟨existing, bounded, built⟩ := bind_eq_ok.mp built
  obtain ⟨room, selected⟩ := raised_or bounded
  cases Except.ok.inj selected
  obtain ⟨once, built⟩ := raised_or built
  obtain ⟨operations, made, built⟩ := bind_eq_ok.mp built
  cases Except.ok.inj built
  refine ⟨?_, ?_, mapM_ok (mapError_ok made)⟩
  · rw [ArchiveStore.names, List.length_map]
    omega
  · rw [identities_rows]
    exact not_not.mp once

theorem mapM_of_forall₂ {ε α β : Type} {f : α → Except ε β} {xs : List α} {ys : List β}
    (each : List.Forall₂ (fun x y => f x = .ok y) xs ys) : xs.mapM f = .ok ys := by
  induction each with
  | nil => rfl
  | cons head _ ih =>
    rw [List.mapM_cons, head, ok_bind, ih]
    rfl

/-- A plan is built where the rows are not too many, no two of one identity, and each group has its operation. -/
theorem build_ok {eligible : ℕ} {shown : ArchiveGroups} {operations : List (ArchiveOperation δ)}
    (room : (s.names ctx).length ≤ ctx.maxExistingArchives) (once : (s.identities ctx).Nodup)
    (each : List.Forall₂ (fun g op => operationOf digests ctx (s.rows.filter ctx.selects) g = .ok op) shown.groups
      operations) :
    ∃ plan, buildProfileArchivePlan digests ctx eligible shown s = .ok plan ∧ plan.operations = operations := by
  rw [ArchiveStore.names, List.length_map] at room
  rw [identities_rows] at once
  unfold buildProfileArchivePlan boundedRows
  rw [if_neg (by omega), ok_bind]
  dsimp only
  rw [if_neg (not_not.mpr once), mapM_of_forall₂ each]
  exact ⟨_, rfl, rfl⟩

/-! ## The rows that a plan makes -/

/-- An operation makes a row just where none has the identity of its group. -/
theorem operationOf_cases (made : operationOf digests ctx (s.rows.filter ctx.selects) g = .ok op) :
    (op = createOperation digests ctx g ∧ ∀ name ∈ s.names ctx, parameterIdentity name ≠ g.identity) ∨
      ∃ row ∈ s.rows, ctx.selects row = true ∧ parameterIdentity row.parameter = g.identity ∧
        updateOperation digests ctx g row = .ok op := by
  unfold operationOf at made
  split at made
  · next absent =>
    refine .inl ⟨(Except.ok.inj made).symm, fun name listed => ?_⟩
    obtain ⟨row, mem, rfl⟩ := List.mem_map.mp listed
    have missed := List.find?_eq_none.mp absent row mem
    rwa [beq_iff_eq] at missed
  · next row found =>
    obtain ⟨stored, selected⟩ := List.mem_filter.mp (List.mem_of_find?_eq_some found)
    have hit := List.find?_some found
    exact .inr ⟨row, stored, selected, beq_iff_eq.mp hit, made⟩

theorem updateOperation_action (made : updateOperation digests ctx g row = .ok op) :
    op.action ≠ .create := by
  obtain ⟨ids, -, made⟩ := bind_eq_ok.mp made
  obtain ⟨before, -, made⟩ := bind_eq_ok.mp made
  cases Except.ok.inj made
  exact action_ne_create _

/-- The names that are made are those of the groups without rows. -/
theorem createdNames_newGroups {groups : List ArchiveGroup} {operations : List (ArchiveOperation δ)}
    (each : List.Forall₂ (fun g op => operationOf digests ctx (s.rows.filter ctx.selects) g = .ok op) groups operations) :
    createdNames operations = (s.newGroups ctx groups).map fun g => preferredParameterName g.identity g.aliases := by
  induction each with
  | nil => rfl
  | @cons g op groups operations made _ ih =>
    have first : s.newGroups ctx (g :: groups) = if (s.names ctx).all fun name => parameterIdentity name != g.identity
        then g :: s.newGroups ctx groups else s.newGroups ctx groups := List.filter_cons
    rw [createdNames_cons, ih, first]
    rcases operationOf_cases made with ⟨rfl, absent⟩ | ⟨row, stored, selected, same, made⟩
    · rw [if_pos (List.all_eq_true.mpr fun name mem => bne_iff_ne.mpr (absent name mem))]
      rfl
    · have no : createdNames [op] = [] := by simp [createdNames, updateOperation_action made]
      have listed : row.parameter ∈ s.names ctx := List.mem_map_of_mem (List.mem_filter.mpr ⟨stored, selected⟩)
      have taken : ¬((s.names ctx).all fun name => parameterIdentity name != g.identity) = true := by
        rw [List.all_eq_true]
        exact fun all => bne_iff_ne.mp (all _ listed) same
      rw [no, if_neg taken]
      rfl

theorem createdNames_effective (plan : ProfileArchivePlan δ) : createdNames plan.effective = createdNames plan.operations := by
  rw [createdNames, ProfileArchivePlan.effective, List.filter_filter, createdNames]
  congr 2
  funext op
  cases op.action <;> decide

/-- The names of the selected rows after a run of operations. -/
theorem names_run [DecidableEq δ] (prepared : Prepared digests ctx s.nextId l)
    (active : ∀ op ∈ l, op.action ≠ .unchanged)
    (run : Routine.forEach (applyOperation digests ctx) l s = (.ok (), s')) :
    s'.names ctx = s.names ctx ++ createdNames l := by
  induction l generalizing s with
  | nil =>
    cases run
    exact (List.append_nil _).symm
  | cons op l ih =>
    have here := active op (.head _)
    by_cases passes : op.Passes digests ctx s []
    · have saved := applyOperation_saved prepared (.head _) here passes
      rw [Routine.forEach, Routine.bind_ok saved] at run
      rw [ih (prepared.tail.mono saved_nextId) (fun o mem => active o (.tail _ mem)) run,
        names_saved prepared (.head _) here passes.2, List.append_assoc, ← createdNames_cons]
    · obtain ⟨e, refused⟩ := applyOperation_refused prepared (.head _) here passes
      rw [Routine.forEach, Routine.bind_error refused] at run
      cases run

theorem AllPass.storable {made : List String} (pass : AllPass digests ctx s made l) :
    ∀ op ∈ l, op.storable = true := by
  induction l generalizing made with
  | nil => exact fun _ mem => nomatch mem
  | cons op l ih =>
    intro o mem
    rcases List.mem_cons.mp mem with rfl | mem
    · exact pass.1.1
    · exact ih pass.2 o mem

/-- Operations with rows of their own pass, where there is room for those that are made. -/
theorem allPass_of {made : List String} (storable : ∀ op ∈ l, op.storable = true)
    (stored : ∀ op ∈ l, op.action ≠ .create → op.Fits digests ctx s made)
    (fresh : ∀ op ∈ l, op.action = .create → ∀ name ∈ s.names ctx ++ made, parameterIdentity name ≠ op.identity)
    (own : ∀ op ∈ l, op.action = .create → parameterIdentity op.parameter = op.identity)
    (apart : l.Pairwise (·.identity ≠ ·.identity))
    (room : (s.names ctx ++ made).length + (createdNames l).length ≤ ctx.maxExistingArchives) :
    AllPass digests ctx s made l := by
  induction l generalizing made with
  | nil => trivial
  | cons op l ih =>
    rw [createdNames_cons] at room
    simp only [List.length_append] at room
    obtain ⟨first, apart⟩ := List.pairwise_cons.mp apart
    refine ⟨⟨storable op (.head _), ?_⟩, ih (fun o mem => storable o (.tail _ mem)) (fun o mem changes => ?_)
      (fun o mem create name listed => ?_) (fun o mem => own o (.tail _ mem)) apart ?_⟩
    · by_cases create : op.action = .create
      · simp only [ArchiveOperation.Fits, create]
        exact ⟨by rw [List.length_append]; omega, fresh op (.head _) create⟩
      · exact stored op (.head _) create
    · have there := stored o (.tail _ mem) changes
      unfold ArchiveOperation.Fits at there ⊢
      cases action : o.action with
      | create => exact absurd action changes
      | update | unchanged => rwa [action] at there
    · rw [← List.append_assoc] at listed
      rcases List.mem_append.mp listed with before | new
      · exact fresh o (.tail _ mem) create name before
      · obtain ⟨op', memOp, rfl⟩ := List.mem_map.mp new
        obtain ⟨one, makes⟩ := List.mem_filter.mp memOp
        rw [List.mem_singleton.mp one, own op (.head _) (List.mem_singleton.mp one ▸ of_decide_eq_true makes)]
        exact first o mem
    · simp only [List.length_append]
      omega

/-! ## The second plan -/

/-- The plan is applied, and the plan after it leaves every row as it is. -/
def Converges [DecidableEq δ] (digests : ArchiveDigests δ) (ctx : ArchiveContext) (eligible : ℕ) (shown : ArchiveGroups)
    (plan : ProfileArchivePlan δ) (expected : String) (s : ArchiveStore) : Prop :=
  ∃ writes s', applyProfileArchivePlan digests plan expected s = (.ok writes, s') ∧
    ∃ plan', buildProfileArchivePlan digests ctx eligible shown s' = .ok plan' ∧
      List.Forall₂ Settles plan.operations plan'.operations

/-- What the operations of a plan ask of its groups, and of the rows that are there. -/
structure Settleable (ctx : ArchiveContext) (shown : ArchiveGroups) (plan : ProfileArchivePlan δ) (s : ArchiveStore) :
    Prop where
  storable : ∀ op ∈ plan.effective, op.storable = true
  room : (s.names ctx).length + (s.newGroups ctx shown.groups).length ≤ ctx.maxExistingArchives
  named : ∀ g ∈ s.newGroups ctx shown.groups, parameterIdentity (preferredParameterName g.identity g.aliases) = g.identity

/-- Results of related items that can be computed one by one. -/
theorem forall₂_next {α β γ : Type} {R : α → β → Prop} {S : α → γ → Prop} {T : β → γ → Prop} {as : List α} {bs : List β}
    (related : List.Forall₂ R as bs) (next : ∀ a ∈ as, ∀ b ∈ bs, R a b → ∃ c, S a c ∧ T b c) :
    ∃ cs, List.Forall₂ S as cs ∧ List.Forall₂ T bs cs := by
  induction related with
  | nil => exact ⟨[], .nil, .nil⟩
  | cons one _ ih =>
    obtain ⟨c, first, second⟩ := next _ (.head _) _ (.head _) one
    obtain ⟨cs, firsts, seconds⟩ := ih fun a mem b mem' => next a (.tail _ mem) b (.tail _ mem')
    exact ⟨c :: cs, .cons first firsts, .cons second seconds⟩

section
-- names are compared through their laws
attribute [local irreducible] parameterIdentity preferredParameterName
variable {shown : ArchiveGroups} {plan : ProfileArchivePlan δ}

/-- The identities of the selected rows after a plan that made a row for each group that had none. -/
theorem identities_once (ordered : shown.groups.Pairwise (·.identity < ·.identity)) (once : (s.identities ctx).Nodup)
    (named : ∀ g ∈ s.newGroups ctx shown.groups, parameterIdentity (preferredParameterName g.identity g.aliases) = g.identity)
    (names : s'.names ctx = s.names ctx ++
      (s.newGroups ctx shown.groups).map fun g => preferredParameterName g.identity g.aliases) :
    (s'.identities ctx).Nodup := by
  have made : ((s.newGroups ctx shown.groups).map fun g => preferredParameterName g.identity g.aliases).map
      (fun name => parameterIdentity name) = (s.newGroups ctx shown.groups).map (·.identity) := by
    rw [List.map_map]
    exact List.map_congr_left named
  rw [ArchiveStore.identities, names, List.map_append, made, List.filter_append]
  refine List.nodup_append'.mpr ⟨once, ?_, fun identity old new => ?_⟩
  · refine List.Nodup.filter _ (List.pairwise_map.mpr ?_)
    exact (ordered.sublist List.filter_sublist).imp ne_of_lt
  · obtain ⟨g, mem, rfl⟩ := List.mem_map.mp (List.mem_of_mem_filter new)
    obtain ⟨name, listed, same⟩ := List.mem_map.mp (List.mem_of_mem_filter old)
    exact (mem_newGroups.mp mem).2 name listed same

/-- The second plan finds the row of each group, and leaves it as it is. -/
theorem operationOf_settles {row : ArchiveRow} (once : (s'.identities ctx).Nodup) (absorbs : Absorbs digests ctx op g)
    (stored : row ∈ s'.rows) (read : archiveState row = .ok (operationState ctx op))
    (same : parameterIdentity op.parameter = g.identity) (identified : g.identity ≠ "") :
    ∃ op', operationOf digests ctx (s'.rows.filter ctx.selects) g = .ok op' ∧ Settles op op' := by
  obtain ⟨parameter, selects⟩ :
      (operationState ctx op).parameter = row.parameter ∧ ctx.selectsState (operationState ctx op) = ctx.selects row :=
    archiveState_row read
  have state : ctx.selectsState (operationState ctx op) = true := by simp [ArchiveContext.selectsState, operationState]
  have selected : row ∈ s'.rows.filter ctx.selects := List.mem_filter.mpr ⟨stored, selects ▸ state⟩
  rw [identities_rows] at once
  have named : parameterIdentity row.parameter = g.identity := parameter ▸ same
  rw [operationOf, find_identity once selected named identified]
  exact updateOperation_settles absorbs read

/-- The name of a row that a plan writes has the identity of its group, where that of a row it makes has. -/
theorem operationOf_named (made : operationOf digests ctx (s.rows.filter ctx.selects) g = .ok op) (mem : g ∈ shown.groups)
    (named : ∀ g ∈ s.newGroups ctx shown.groups, parameterIdentity (preferredParameterName g.identity g.aliases) = g.identity) :
    parameterIdentity op.parameter = g.identity := by
  rcases operationOf_cases made with ⟨rfl, absent⟩ | ⟨row, stored, selected, same, updated⟩
  · exact named g (mem_newGroups.mpr ⟨mem, absent⟩)
  · have identified := shown.identified g mem
    have planned := updateOperation_planned (List.mem_filter.mpr ⟨stored, selected⟩) same identified updated
    obtain ⟨row', -, identity, -, state, -, -, parameter, -⟩ := planned.2.changes (updateOperation_action updated)
    rw [parameter, identity, planned.1]

/-- How a plan that was built ends on the rows that it was built of. -/
theorem applyProfileArchivePlan_ends [DecidableEq δ] {eligible : ℕ} {expected : String}
    (built : buildProfileArchivePlan digests ctx eligible shown s = .ok plan) (unblocked : plan.blockers = [])
    (confirmed : stripped expected = plan.planSha256) :
    (AllPass digests ctx s [] plan.effective ∧ ∃ writes s' rowOf,
      applyProfileArchivePlan digests plan expected s = (.ok writes, s') ∧ Applied ctx plan.effective rowOf s s' ∧
      s'.names ctx = s.names ctx ++
        (s.newGroups ctx shown.groups).map fun g => preferredParameterName g.identity g.aliases) ∨
    (¬AllPass digests ctx s [] plan.effective ∧ ∃ e s', applyProfileArchivePlan digests plan expected s = (.error e, s')) := by
  obtain ⟨rfl, prepared⟩ := build_prepared built
  obtain ⟨-, -, each⟩ := build_inv built
  have effective : Prepared digests plan.context s.nextId plan.effective := prepared.sublist List.filter_sublist
  have active : ∀ op ∈ plan.effective, op.action ≠ .unchanged := by
    simp [ProfileArchivePlan.effective]
  unfold applyProfileArchivePlan
  rw [if_neg (not_not.mpr unblocked), if_neg (not_not.mpr confirmed), Routine.bind_eq, forEach_effective]
  rcases forEach_ends effective active with ⟨pass, s', rowOf, run, applied⟩ | ⟨fails, -, -, -, s', e, -, -, run, -⟩
  · have names := names_run effective active run
    rw [createdNames_effective, createdNames_newGroups each] at names
    rw [Routine.bind_ok run, Routine.pure_eq, Routine.ret_run]
    exact .inl ⟨pass, _, s', rowOf, rfl, applied, names⟩
  · exact .inr ⟨fails, e, s', Routine.bind_error run⟩

/-- A plan whose groups can be settled is applied, and the plan after it leaves every row as it is. -/
theorem Settleable.converges [DecidableEq δ] {eligible : ℕ} {expected : String} (settleable : Settleable ctx shown plan s)
    (built : buildProfileArchivePlan digests ctx eligible shown s = .ok plan) (unblocked : plan.blockers = [])
    (confirmed : stripped expected = plan.planSha256)
    (present : ∀ g ∈ shown.groups, preferredParameterName g.identity g.aliases ≠ "") :
    Converges digests ctx eligible shown plan expected s := by
  obtain ⟨-, once, each⟩ := build_inv built
  obtain ⟨same_context, prepared⟩ := build_prepared built
  obtain ⟨sorted, planned⟩ := operations_planned shown.ordered shown.identified each
  have effective : ∀ {op}, op ∈ plan.effective → op ∈ plan.operations ∧ op.action ≠ .unchanged := by
    simp [ProfileArchivePlan.effective]
  have created := createdNames_newGroups each
  -- every operation passes
  have pass : AllPass digests ctx s [] plan.effective := by
    refine allPass_of settleable.storable (fun op mem changes => ?_) (fun op mem create => ?_) (fun op mem create => ?_)
      ((sorted.sublist List.filter_sublist).imp ne_of_lt) ?_
    · obtain ⟨row, memRow, -, named, state, read, digest, -⟩ := (planned op (effective mem).1).1.changes changes
      have fits : ∃ row ∈ s.rows, op.existingId = some row.id ∧
          ∃ state, archiveState row = .ok state ∧ digests.state (some state) = op.beforeSha256 :=
        ⟨row, List.mem_of_mem_filter memRow, named, state, read, digest.symm⟩
      unfold ArchiveOperation.Fits
      cases action : op.action with
      | create => exact absurd action changes
      | update | unchanged => exact fits
    · obtain ⟨g, memG, made⟩ := forall₂_right each op (effective mem).1
      rw [List.append_nil]
      rcases operationOf_cases made with ⟨rfl, absent⟩ | ⟨row, -, -, -, updated⟩
      · exact absent
      · exact absurd create (updateOperation_action updated)
    · obtain ⟨g, memG, made⟩ := forall₂_right each op (effective mem).1
      rw [operationOf_named made memG settleable.named]
      rcases operationOf_cases made with ⟨rfl, -⟩ | ⟨row, -, -, -, updated⟩
      · rfl
      · exact absurd create (updateOperation_action updated)
    · rw [List.append_nil, createdNames_effective, created, List.length_map]
      exact settleable.room
  obtain ⟨-, writes, s', rowOf, run, applied, names⟩ | ⟨fails, -⟩ := applyProfileArchivePlan_ends built unblocked confirmed
  · -- each row is in its planned state
    have unchanged : ∀ op ∈ plan.operations, op.action = .unchanged → ∃ row ∈ s.rows, op.existingId = some row.id ∧
        archiveState row = .ok (operationState plan.context op) := by
      intro op mem kept
      obtain ⟨g, memG, made⟩ := forall₂_right each op mem
      rcases operationOf_cases made with ⟨rfl, -⟩ | ⟨row, stored, -, -, updated⟩
      · cases kept
      · obtain ⟨named, read⟩ := updateOperation_unchanged updated kept
        exact ⟨row, stored, named, same_context ▸ read⟩
    obtain ⟨rowOf', all⟩ := (applied_all (same_context ▸ prepared) (Nat.le_refl _) (same_context ▸ applied)).mpr unchanged
    have later := identities_once shown.ordered once settleable.named names
    obtain ⟨operations, next, settles⟩ := forall₂_next each fun g memG op memOp made => by
      obtain ⟨row, stored, -, read⟩ := all.planned op memOp
      have absorbs : Absorbs digests ctx op g := by
        rcases operationOf_cases made with ⟨rfl, -⟩ | ⟨row, -, -, same, updated⟩
        · exact createOperation_absorbs (present g memG)
        · refine updateOperation_absorbs (fun empty => ?_) updated
          rw [empty, parameterIdentity_empty] at same
          exact shown.identified g memG same.symm
      exact operationOf_settles later absorbs stored (same_context ▸ read) (operationOf_named made memG settleable.named)
        (shown.identified g memG)
    have room : (s'.names ctx).length ≤ ctx.maxExistingArchives := by
      rw [names, List.length_append, List.length_map]
      exact settleable.room
    obtain ⟨plan', built', same⟩ := build_ok room later next
    exact ⟨writes, s', run, plan', built', same ▸ settles⟩
  · exact absurd pass fails

end

/-- **Archive planning converges.** A plan that is applied is followed by one that leaves every row as it is, just where
its rows can be stored, the rows that it makes are not too many, and their names have the identities they are made for. -/
theorem buildProfileArchivePlan_converges_iff [DecidableEq δ] {eligible : ℕ} {excluded : String → Bool}
    {read : List Occurrence} {metadata : List ParameterMetadata} {plan : ProfileArchivePlan δ} {expected : String}
    (built : buildProfileArchivePlan digests ctx eligible (archiveGroups excluded read metadata) s = .ok plan)
    (unblocked : plan.blockers = []) (confirmed : stripped expected = plan.planSha256) :
    Converges digests ctx eligible (archiveGroups excluded read metadata) plan expected s ↔
      Settleable ctx (archiveGroups excluded read metadata) plan s := by
  constructor
  · rintro ⟨writes, s', run, plan', built', settles⟩
    obtain ⟨pass, writes₁, s₁, rowOf, run₁, applied, names⟩ | ⟨-, e, s₁, run₁⟩ :=
      applyProfileArchivePlan_ends built unblocked confirmed
    · obtain ⟨-, rfl⟩ := Prod.mk.inj (run.symm.trans run₁)
      obtain ⟨room, -, each⟩ := build_inv built'
      refine ⟨pass.storable, ?_, fun g new => ?_⟩
      · rwa [names, List.length_append, List.length_map] at room
      · -- the second plan finds a row of the identity, which is of a name that was made
        obtain ⟨memG, absent⟩ := mem_newGroups.mp new
        obtain ⟨op', memOp, made⟩ := forall₂_right (List.Forall₂.flip each) g memG
        obtain ⟨op, -, settled⟩ := forall₂_right settles op' memOp
        rcases operationOf_cases made with ⟨rfl, -⟩ | ⟨row, stored, selected, same, -⟩
        · nomatch settled.unchanged
        · have listed : row.parameter ∈ s'.names ctx := List.mem_map_of_mem (List.mem_filter.mpr ⟨stored, selected⟩)
          rw [names] at listed
          rcases List.mem_append.mp listed with before | made
          · exact absurd same (absent _ before)
          · obtain ⟨other, new', chosen⟩ := List.mem_map.mp made
            have name := preferredParameterName_nameOf memG
            have name' := preferredParameterName_nameOf (mem_newGroups.mp new').1
            rw [← chosen, ← name.canonical] at same
            exact (identity_of_crossing name.chars name'.chars same).trans name.canonical
    · nomatch run.symm.trans run₁
  · intro settleable
    refine settleable.converges built unblocked confirmed fun g mem empty => ?_
    have name := preferredParameterName_nameOf mem
    rw [empty] at name
    exact (archiveGroups excluded read metadata).identified g mem (name.canonical.symm.trans canonicalName_empty)

/-! ## A name of another identity -/

/-- What a request shows of a document with one value. -/
def shownOnly (parameter value : String) : ArchiveGroups :=
  archiveGroups (fun _ => false) [⟨.request, parameter, "", 7, [.str value]⟩] []

/-- The plan of one occurrence, where there are no rows. -/
def onlyPlan (parameter value : String) : Option (ProfileArchivePlan (Option ArchiveState)) :=
  (buildProfileArchivePlan plainDigests shopContext 1 (shownOnly parameter value) noRows).toOption

/-- The row `_sku` was made for the identity `_sku`, and its name has the identity `sku`: it is made again. -/
theorem buildProfileArchivePlan_again : ¬∀ (ctx : ArchiveContext) (eligible : ℕ) (read : List Occurrence)
    (metadata : List ParameterMetadata) (s : ArchiveStore) (plan : ProfileArchivePlan (Option ArchiveState))
    (expected : String),
    buildProfileArchivePlan plainDigests ctx eligible (archiveGroups (fun _ => false) read metadata) s = .ok plan →
      plan.blockers = [] → stripped expected = plan.planSha256 →
      Converges plainDigests ctx eligible (archiveGroups (fun _ => false) read metadata) plan expected s := by
  intro claim
  have again : ((onlyPlan "@_sku" "A1").any fun plan => plan.blockers.isEmpty && plan.planSha256 == "plan" &&
      (buildProfileArchivePlan plainDigests shopContext 1 (shownOnly "@_sku" "A1")
        (applyProfileArchivePlan plainDigests plan "plan" noRows).2).toOption.any fun plan' =>
          plan'.operations.any (·.action == .create)) = true := by decide +kernel
  obtain ⟨plan, built, holds⟩ := (Option.any_eq_true ..).mp again
  simp only [Bool.and_eq_true, List.isEmpty_iff, beq_iff_eq] at holds
  obtain ⟨⟨unblocked, digest⟩, later⟩ := holds
  have confirmed : stripped "plan" = plan.planSha256 := (by decide : stripped "plan" = "plan").trans digest.symm
  obtain ⟨writes, s', run, plan', built', settles⟩ :=
    claim shopContext 1 _ [] noRows plan "plan" (toOption_eq_some.mp built) unblocked confirmed
  obtain ⟨plan'', built'', made⟩ := (Option.any_eq_true ..).mp later
  rw [run] at built''
  cases built'.symm.trans (toOption_eq_some.mp built'')
  obtain ⟨op', mem, create⟩ := List.any_eq_true.mp made
  obtain ⟨op, -, settled⟩ := forall₂_right settles op' mem
  nomatch (beq_iff_eq.mp create).symm.trans settled.unchanged

/-- The row `sku` is found again. -/
theorem buildProfileArchivePlan_sku : ∃ plan, onlyPlan "sku" "B2" = some plan ∧
    Converges plainDigests shopContext 1 (shownOnly "sku" "B2") plan "plan" noRows := by
  have made : ((onlyPlan "sku" "B2").any fun plan => plan.blockers.isEmpty && plan.planSha256 == "plan" &&
      plan.effective.all (·.storable)) = true := by decide +kernel
  have named : ((noRows.newGroups shopContext (shownOnly "sku" "B2").groups).all fun g =>
      parameterIdentity (preferredParameterName g.identity g.aliases) == g.identity) = true := by decide +kernel
  obtain ⟨plan, built, holds⟩ := (Option.any_eq_true ..).mp made
  simp only [Bool.and_eq_true, List.isEmpty_iff, beq_iff_eq] at holds
  obtain ⟨⟨unblocked, digest⟩, storable⟩ := holds
  refine ⟨plan, built, (buildProfileArchivePlan_converges_iff (toOption_eq_some.mp built) unblocked
    ((by decide : stripped "plan" = "plan").trans digest.symm)).mpr ⟨List.all_eq_true.mp storable, by decide +kernel, fun g mem => ?_⟩⟩
  exact beq_iff_eq.mp (List.all_eq_true.mp named g mem)

end ApiManger.Parameters
