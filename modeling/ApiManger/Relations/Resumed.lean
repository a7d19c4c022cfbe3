import Mathlib.Algebra.BigOperators.Group.List.Basic
import ApiManger.Relations.RuleOutputs

/-!
# Going on with the outputs of rules

A call of `persist_typed_outputs` that goes on behind a key does what was left when the key
was reported, just where no output that was left has this key. The keys of two roles agree
where they differ in the direction or in the place in the schema.
-/

namespace ApiManger.Relations
open Python Store Collection Imperative

/-! ## Counts -/

/-- All counts but the one of findings. -/
def countNames : List Count :=
  [.classificationMissing, .classificationManualPreserved, .classificationUpserted, .roleMissing, .roleCreated,
    .roleUpdated, .priorityUpserted, .relationFactMissing, .relationProtected, .relationExistingCreateOnly,
    .relationCreated]

def Counts.total (counts : Counts) : ℕ := (countNames.map counts).sum

theorem Counts.total_add (counts : Counts) {n : Count} (counted : n ≠ .findingWrites) :
    (counts.add n).total = counts.total + 1 := by
  cases n <;> simp [Counts.total, Counts.add, countNames] at counted ⊢ <;> omega

theorem Counts.total_findingWrites (counts : Counts) (n : ℕ) :
    Counts.total (Function.update counts .findingWrites n) = counts.total := by
  simp [Counts.total, countNames]

section
variable (rounding : FloatRounding) (result : UnifiedAnalysisResult)

variable (m : RuleMatch)

/-- How much an output adds to the counts. -/
def added : ℕ :=
  match m.output with
  | .classification _ => 1
  | .role o => if (result.parameterDocuments o.occurrenceRef).isSome && (result.endpointDocuments o.pathid).isSome then 2 else 1
  | .relation _ => 1
  | .other => 0

/-- From a total of `n`, a routine ends with a total of `n + k`. -/
abbrev Adds (x : PersistCode Unit) (n k : ℕ) : Prop :=
  x.Meets (fun s => s.counts.total = n) (fun _ s => s.counts.total = n + k) fun _ _ => True

theorem count_adds {n : ℕ} {c : Count} (counted : c ≠ .findingWrites) : Adds (count c) n 1 := by
  apply Routine.Meets.modify
  rintro s rfl
  exact s.counts.total_add counted

theorem Adds.bind {x : PersistCode Unit} {f : Unit → PersistCode Unit} {n k l : ℕ} (first : Adds x n k)
    (rest : Adds (f ()) (n + k) l) : Adds (Routine.bind x f) n (k + l) := by
  have sum : n + (k + l) = n + k + l := (Nat.add_assoc n k l).symm
  rw [Adds, sum]
  exact Routine.Meets.bind first fun _ => rest

/-- Writing to the documents adds nothing. -/
theorem Adds.write {f : RuleStore → RuleStore} {x : Unit → PersistCode Unit} {n k : ℕ} (rest : Adds (x ()) n k) :
    Adds (Routine.bind (Relations.write f) x) n k :=
  Routine.Meets.bind (Q := fun _ s => s.counts.total = n) (Routine.Meets.modify fun _ pre => pre) fun _ => rest

/-- A routine that reads the state first. -/
theorem Adds.get {f : PersistState → PersistCode Unit} {n k : ℕ} (rest : ∀ s, Adds (f s) n k) :
    Adds (Routine.bind Routine.get f) n k :=
  Routine.Meets.bind Routine.Meets.get fun s => (rest s).weaken (fun _ pre => pre.2) (fun _ _ post => post) fun _ _ post => post

/-- A routine that computes a value first, which may raise. -/
theorem Adds.ofExcept {α : Type} {x : Except PyError α} {f : α → PersistCode Unit} {n k : ℕ}
    (rest : ∀ a, Adds (f a) n k) : Adds (Routine.bind (Routine.ofExcept x) f) n k :=
  Routine.Meets.bind (Q := fun _ s => s.counts.total = n)
    (Routine.Meets.ofExcept (fun _ _ _ pre => pre) fun _ _ _ _ => trivial) rest

theorem applyClassification_adds (o : EndpointClassificationCandidate) (n : ℕ) :
    Adds (applyClassification rounding result m o) n 1 := by
  simp only [applyClassification, Routine.bind_eq]
  refine Adds.ofExcept fun pathid => ?_
  cases result.endpointDocuments pathid with
  | none => exact count_adds (n := n) (c := .classificationMissing) (by decide)
  | some endpoint =>
    refine Adds.ofExcept fun source => Routine.Meets.ite (fun _ => ?_) fun _ => Adds.write ?_
    · exact count_adds (by decide)
    · exact count_adds (by decide)

theorem applyRole_adds (o : ParameterRoleCandidate) (n : ℕ) :
    Adds (applyRole result m o) n
      (if (result.parameterDocuments o.occurrenceRef).isSome && (result.endpointDocuments o.pathid).isSome then 2 else 1) := by
  unfold applyRole
  rcases result.parameterDocuments o.occurrenceRef with _ | document
  · exact count_adds (by decide)
  · rcases result.endpointDocuments o.pathid with _ | endpoint
    · exact count_adds (by decide)
    · have role : ∀ found : Bool, (if found then Count.roleUpdated else .roleCreated) ≠ .findingWrites := by decide
      have priority : Count.priorityUpserted ≠ .findingWrites := by decide
      exact Adds.get fun s => Adds.bind (k := 1) (l := 1) (count_adds (role _)) (Adds.write (count_adds priority))

theorem applyRelation_adds (o : ParameterRelationCandidate) (n : ℕ) :
    Adds (applyRelation rounding result m o) n 1 := by
  unfold applyRelation
  rcases result.relationFacts o.producerRef with _ | source
  · exact count_adds (by decide)
  · rcases result.relationFacts o.consumerRef with _ | target
    · exact count_adds (by decide)
    · have kept : ∀ found : Bool,
          (if found then Count.relationProtected else .relationExistingCreateOnly) ≠ .findingWrites := by decide
      have created : Count.relationCreated ≠ .findingWrites := by decide
      refine Adds.get fun s => ?_
      cases s.store.relations.find? (isRelationOf result source target) with
      | none => exact Adds.write (count_adds created)
      | some existing => exact count_adds (kept _)

theorem applyOutput_adds (n : ℕ) : Adds (applyOutput rounding result m) n (added result m) := by
  unfold applyOutput added
  cases m.output with
  | classification o => exact applyClassification_adds rounding result m o n
  | role o => exact applyRole_adds result m o n
  | relation o => exact applyRelation_adds rounding result m o n
  | other => exact Routine.Meets.ret fun _ pre => pre

/-- **Counting.** What some rows add to the counts does not depend on the documents. -/
theorem applyRows_adds (rows : List (String × RuleMatch)) (n : ℕ) :
    Adds (applyRows rounding result rows) n (rows.map fun row => added result row.2).sum := by
  induction rows generalizing n with
  | nil => exact Routine.Meets.ret fun _ pre => pre
  | cons row rows ih =>
    rw [List.map_cons, List.sum_cons]
    exact Adds.bind (applyOutput_adds rounding result row.2 n) (ih (n + added result row.2))

end

/-! ## Rows -/

section
variable {result : UnifiedAnalysisResult} {rows : List (String × RuleMatch)}

/-- The rows are in the order of their keys. -/
theorem operationRows_sorted (computed : operationRows result = .ok rows) : rows.Pairwise (·.1 ≤ ·.1) := by
  obtain ⟨keys, -, sorted⟩ := bind_eq_ok.mp computed
  cases Except.ok.inj sorted
  have : Std.Total fun a b : String × RuleMatch => a.1 ≤ b.1 := ⟨fun a b => le_total a.1 b.1⟩
  have : IsTrans (String × RuleMatch) fun a b => a.1 ≤ b.1 := ⟨fun a b c => le_trans⟩
  exact List.pairwise_insertionSort _ _

/-- The keys of the rows are the ones of their outputs. -/
theorem operationRows_keys (computed : operationRows result = .ok rows) :
    ∀ row ∈ rows, operationKey row.2.output = .ok (some row.1) := by
  obtain ⟨keys, found, sorted⟩ := bind_eq_ok.mp computed
  cases Except.ok.inj sorted
  intro row mem
  obtain ⟨⟨named, m⟩, there, same⟩ := List.mem_filterMap.mp ((List.mem_insertionSort _).mp mem)
  obtain ⟨key, rfl, rfl⟩ := Option.map_eq_some_iff.mp same
  exact List.forall₂_zip (mapM_ok found).flip there

/-- The key of a relation, which is not one of insufficient evidence. -/
theorem operationKey_relation {o : ParameterRelationCandidate} {key : String}
    (found : operationKey (.relation o) = .ok (some key)) : key = "relation:" ++ o.producerRef ++ ":" ++ o.consumerRef := by
  unfold operationKey at found
  simp only at found
  split at found
  · exact (Option.some.inj (Except.ok.inj found)).symm
  · nomatch found

/-- The key of an output is not empty, and the output adds to the counts. -/
theorem operationKey_some {m : RuleMatch} {key : String} (found : operationKey m.output = .ok (some key)) :
    key ≠ "" ∧ 0 < added result m := by
  unfold added
  cases output : m.output with
  | classification o =>
    rw [output] at found
    obtain ⟨pathid, -, named⟩ := bind_eq_ok.mp found
    rw [← Option.some.inj (Except.ok.inj named)]
    exact ⟨by simp, Nat.one_pos⟩
  | role o =>
    rw [output] at found
    rw [← Option.some.inj (Except.ok.inj found)]
    refine ⟨by simp, ?_⟩
    dsimp only
    split <;> omega
  | relation o =>
    rw [output] at found
    rw [operationKey_relation found]
    exact ⟨by simp, Nat.one_pos⟩
  | other =>
    rw [output] at found
    nomatch found

theorem rowsAfter_start (rows : List (String × RuleMatch)) : rowsAfter "" rows = rows := by
  simp [rowsAfter]

theorem rowsAfter_key {key : String} (nonempty : key ≠ "") (rows : List (String × RuleMatch)) :
    rowsAfter key rows = behind (·.1) key rows := by
  refine List.filter_congr fun row _ => ?_
  have named : (key != "") = true := bne_iff_ne.mpr nonempty
  rw [named, Bool.true_and, ← decide_not]
  exact decide_eq_decide.mpr not_le

end

/-! ## The call that goes on -/

section
variable {rounding : FloatRounding} {result : UnifiedAnalysisResult} {store final : RuleStore}
  {rows : List (String × RuleMatch)} {i : ℕ} {p : Progress} {counts : Counts}

theorem applyRows_append (front back : List (String × RuleMatch)) {s t : PersistState}
    (first : applyRows rounding result front s = (.ok (), t)) :
    applyRows rounding result (front ++ back) s = applyRows rounding result back t := by
  rw [applyRows, Routine.forEach_append]
  exact Routine.bind_ok first

/-- The rows before a progress, its row and the rows that are left. -/
theorem progressAt_split (reported : progressAt rounding result store rows i = some p) :
    ∃ front row back, rows = front ++ row :: back ∧ rows.take (i + 1) = front ++ [row] ∧ rows.drop (i + 1) = back ∧
      row.1 = p.key ∧ applyRows rounding result (front ++ [row]) ⟨store, fun _ => 0⟩ = (.ok (), ⟨p.store, p.counts⟩) := by
  unfold progressAt at reported
  split at reported
  · next row s here run =>
    cases reported
    obtain ⟨inside, rfl⟩ := List.getElem?_eq_some_iff.mp here
    have taken : rows.take (i + 1) = rows.take i ++ [rows[i]] := (List.take_append_getElem inside).symm
    refine ⟨rows.take i, rows[i], rows.drop (i + 1), ?_, taken, rfl, rfl, ?_⟩
    · rw [← List.drop_eq_getElem_cons inside, List.take_append_drop]
    · rw [← taken, run]
  · nomatch reported

/-- A call that goes on applies the rows behind the key of the progress. -/
theorem persistTypedOutputs_resumed (computed : operationRows result = .ok rows)
    (reported : progressAt rounding result store rows i = some p) :
    persistTypedOutputs rounding result p.key p.counts p.store =
      match applyRows rounding result (behind (·.1) p.key (rows.drop (i + 1))) ⟨p.store, p.counts⟩ with
      | (.ok _, s) => (.ok (Function.update s.counts .findingWrites 0), s.store)
      | (.error e, s) => (.error e, s.store) := by
  obtain ⟨front, row, back, split, -, rest, key, -⟩ := progressAt_split reported
  have mem : row ∈ rows := split ▸ List.mem_append_right front (.head _)
  have keyed : operationKey row.2.output = .ok (some row.1) := operationRows_keys computed row mem
  have named : row.1 ≠ "" ∧ 0 < added result row.2 := operationKey_some keyed
  have nonempty : p.key ≠ "" := key ▸ named.1
  have sorted := operationRows_sorted computed
  rw [split] at sorted
  have left : rowsAfter p.key rows = behind (·.1) p.key (rows.drop (i + 1)) := by
    rw [rowsAfter_key nonempty, rest, split, ← key]
    exact behind_sorted sorted
  unfold persistTypedOutputs
  simp only [computed, left] <;> rfl

/-- A call that is not interrupted applies the rows that are left to what the progress found. -/
theorem persistTypedOutputs_through (computed : operationRows result = .ok rows)
    (reported : progressAt rounding result store rows i = some p) :
    persistTypedOutputs rounding result "" (fun _ => 0) store =
      match applyRows rounding result (rows.drop (i + 1)) ⟨p.store, p.counts⟩ with
      | (.ok _, s) => (.ok (Function.update s.counts .findingWrites 0), s.store)
      | (.error e, s) => (.error e, s.store) := by
  obtain ⟨front, row, back, split, -, rest, -, before⟩ := progressAt_split reported
  have through : applyRows rounding result rows ⟨store, fun _ => 0⟩ =
      applyRows rounding result (rows.drop (i + 1)) ⟨p.store, p.counts⟩ := by
    rw [rest, split, List.append_cons]
    exact applyRows_append (front ++ [row]) back before
  unfold persistTypedOutputs
  simp only [computed, rowsAfter_start, through] <;> rfl

/-- A call that goes on behind a progress returns the counts and leaves the documents of a call that was
not interrupted, and each output was applied before the progress or after it. -/
def GoesOn (rounding : FloatRounding) (result : UnifiedAnalysisResult) (rows : List (String × RuleMatch)) (i : ℕ)
    (p : Progress) (counts : Counts) (final : RuleStore) : Prop :=
  persistTypedOutputs rounding result p.key p.counts p.store = (.ok counts, final) ∧
    ∀ row ∈ rows, row ∈ rows.take (i + 1) ∨ row ∈ rowsAfter p.key rows

/-- The counts of a call that returns are the ones it began with and what its rows add. -/
theorem total_of_returned {left : List (String × RuleMatch)} {s : PersistState}
    (returned : (match applyRows rounding result left s with
      | (.ok _, t) => (Except.ok (Function.update t.counts .findingWrites 0), t.store)
      | (.error e, t) => (.error e, t.store)) = (.ok counts, final)) :
    counts.total = s.counts.total + (left.map fun row => added result row.2).sum := by
  rcases run : applyRows rounding result left s with ⟨e | ⟨⟩, t⟩
  · rw [run] at returned
    nomatch returned
  · rw [run] at returned
    have same := Except.ok.inj (Prod.ext_iff.mp returned).1
    rw [← same, Counts.total_findingWrites]
    exact (applyRows_adds rounding result left s.counts.total s rfl).1 () t run

/-- **Going on.** Where a call that is not interrupted returns, a call that goes on behind a progress does
the same, just where no output that was left has the key of the progress. -/
theorem goesOn_iff (computed : operationRows result = .ok rows)
    (reported : progressAt rounding result store rows i = some p)
    (uninterrupted : persistTypedOutputs rounding result "" (fun _ => 0) store = (.ok counts, final)) :
    GoesOn rounding result rows i p counts final ↔ ∀ row ∈ rows.drop (i + 1), row.1 ≠ p.key := by
  have through := persistTypedOutputs_through computed reported
  have resumed := persistTypedOutputs_resumed computed reported
  obtain ⟨front, row, back, split, taken, rest, key, -⟩ := progressAt_split reported
  have mem : row ∈ rows := split ▸ List.mem_append_right front (.head _)
  have keyed : operationKey row.2.output = .ok (some row.1) := operationRows_keys computed row mem
  have named : row.1 ≠ "" ∧ 0 < added result row.2 := operationKey_some keyed
  have nonempty : p.key ≠ "" := key ▸ named.1
  have sorted := operationRows_sorted computed
  rw [split] at sorted
  have left : behind (·.1) p.key rows = rows.drop (i + 1) ↔ ∀ row ∈ rows.drop (i + 1), row.1 ≠ p.key := by
    rw [rest, split, ← key]
    exact behind_sorted_iff sorted
  constructor
  · rintro ⟨same, -⟩
    -- both calls return the same counts, and each output adds to them
    have all := total_of_returned (through.symm.trans uninterrupted)
    have some := total_of_returned (resumed.symm.trans same)
    have positive : ∀ row ∈ rows.drop (i + 1), 0 < added result row.2 := fun row mem =>
      (operationKey_some (operationRows_keys computed row (List.mem_of_mem_drop mem))).2
    have later := behind_weights positive (Nat.add_left_cancel (some.symm.trans all))
    exact fun row mem => ne_of_gt (later row mem)
  · intro apart
    have same := left.mpr apart
    have again : behind (·.1) p.key (rows.drop (i + 1)) = rows.drop (i + 1) := by
      rw [← same, behind_behind]
    rw [again] at resumed
    refine ⟨resumed.trans (through.symm.trans uninterrupted), fun row mem => ?_⟩
    rw [rowsAfter_key nonempty, same, ← List.mem_append, List.take_append_drop]
    exact mem

end

/-! ## One name in a request and in its response -/

def wholeRounding : FloatRounding := ⟨fun x => (x * 100).floor, fun x => x * 100⟩

/-- The role of the parameter `id` in a body. -/
def roleOfId (occurrenceRef : String) : RuleMatch where
  ruleId := "object_id"
  ruleVersion := 1
  ruleSha256 := "digest"
  output := .role
    { occurrenceRef := occurrenceRef, pathid := 7, canonicalName := "id", position := "body", role := "object_id"
      confidence := 1 }

/-- An endpoint whose request and whose response have a parameter `id` in the body. -/
def idBothWays (ruleMatches : List RuleMatch) : UnifiedAnalysisResult where
  projectId := "shop"
  envId := "test"
  inputWatermarkSha256 := "watermark"
  endpointDocuments := fun pathid => if pathid = 7 then some { pk := 1, ptahId := 7, method := "POST", path := "/orders" } else none
  parameterDocuments := fun ref =>
    if ref = "document-parameter:request:1" then some { direction := "request", schemaPath := "id", type := "string" }
    else if ref = "document-parameter:response:1" then some { direction := "response", schemaPath := "id", type := "string" }
    else none
  relationFacts := fun _ => none
  ruleMatches := ruleMatches

def idRows : List (String × RuleMatch) :=
  [("role:000000000007:body:id", roleOfId "document-parameter:request:1"),
    ("role:000000000007:body:id", roleOfId "document-parameter:response:1")]

/-- The role of the response is lost where the call goes on behind the role of the request. -/
theorem response_role_lost : ∃ p counts final,
    operationRows (idBothWays (idRows.map (·.2))) = .ok idRows ∧
    progressAt wholeRounding (idBothWays (idRows.map (·.2))) {} idRows 0 = some p ∧
    persistTypedOutputs wholeRounding (idBothWays (idRows.map (·.2))) "" (fun _ => 0) {} = (.ok counts, final) ∧
    final.roles.map (·.direction) = ["request", "response"] ∧
    (persistTypedOutputs wholeRounding (idBothWays (idRows.map (·.2))) p.key p.counts p.store).2.roles.map (·.direction) =
      ["request"] ∧
    ¬GoesOn wholeRounding (idBothWays (idRows.map (·.2))) idRows 0 p counts final := by
  have lost : ∀ {p : Progress} {counts : Counts} {final : RuleStore}, final.roles.map (·.direction) = ["request", "response"] →
      (persistTypedOutputs wholeRounding (idBothWays (idRows.map (·.2))) p.key p.counts p.store).2.roles.map (·.direction) =
        ["request"] → ¬GoesOn wholeRounding (idBothWays (idRows.map (·.2))) idRows 0 p counts final := by
    rintro p counts final both one ⟨same, -⟩
    rw [same, both] at one
    exact absurd one (by decide)
  refine ⟨_, _, _, rfl, rfl, rfl, ?_, ?_, lost ?_ ?_⟩ <;> decide +kernel

theorem goesOn_id : ∃ p counts final, progressAt wholeRounding (idBothWays [roleOfId "document-parameter:request:1"]) {}
      [("role:000000000007:body:id", roleOfId "document-parameter:request:1")] 0 = some p ∧
    GoesOn wholeRounding (idBothWays [roleOfId "document-parameter:request:1"])
      [("role:000000000007:body:id", roleOfId "document-parameter:request:1")] 0 p counts final :=
  ⟨_, _, _, rfl, (@goesOn_iff _ _ {} _ _ _ _ _ rfl rfl rfl).mpr (by simp)⟩

end ApiManger.Relations
