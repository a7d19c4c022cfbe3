import Mathlib
import ApiManger.Authorization.Matrix
import ApiManger.Collection.Keyed
import ApiManger.Review.Queue

/-!
# Matrix cases in the review queue

The identity of a result carries the accounts of the parameter adapters, not the
resource owner and the subject of a matrix case: two cases of one endpoint and one
resource family share it. An open case is in the queue exactly as long as no newer
result is of its endpoint and family.
-/

namespace ApiManger.Review
open Python Store Execution Scheduler Authorization
open Collection

/-! ## The identity of a matrix result -/

/-- The account fields no matrix result has. -/
def otherAccountKeys : List String :=
  ["baseline_account_id", "source_account_id", "target_account_id", "actor_role"]

theorem get?_updateDict {base extra : Dict} {key : String} (none_ : Dict.get? extra key = none) :
    Dict.get? (updateDict base extra) key = Dict.get? base key := by
  unfold updateDict
  induction extra generalizing base with
  | nil => rfl
  | cons e extra ih =>
    rw [Dict.get?_cons] at none_
    split at none_
    · cases none_
    · rename_i other
      rw [List.foldl_cons, ih none_]
      exact Dict.get?_set_ne _ _ fun same => other (by simp [same])

theorem matrixResultTarget_other {snapshot : RequestSnapshot} {evidence target : Dict}
    (h : matrixResultTarget snapshot evidence = .ok target) :
    ∀ key ∈ otherAccountKeys, Dict.get? target key = none := by
  simp only [matrixResultTarget, bind_eq_ok] at h
  obtain ⟨plan, _, case, _, version, _, relations, _, h⟩ := h
  cases h
  simp [otherAccountKeys, Dict.get?]

/-- The result target of a matrix execution has none of the other account fields. -/
theorem matrixExecution_target_other (e : MatrixExecution) :
    ∀ key ∈ otherAccountKeys, Dict.get? (resultTarget e.evidence) key = none := by
  have kept : ∀ (d : Dict) (q : ParameterQuality),
      Dict.get (withParameterQuality d q) "result_target" = Dict.get d "result_target" := by
    intro d q
    unfold withParameterQuality Dict.get
    split
    · rw [Dict.get?_set_ne _ _ (by decide)]
    · rfl
  intro key mem
  unfold resultTarget MatrixExecution.evidence
  rw [kept]
  cases replayed : e.requests.bind (matrixEvidence e.snapshot) with
  | error err => simp [Dict.get, Dict.get?, raisedEvidence]
  | ok evidence =>
    obtain ⟨raw, _, made⟩ := bind_eq_ok.mp replayed
    simp only [matrixEvidence, bind_eq_ok] at made
    obtain ⟨observed, _, target, isTarget, made⟩ := made
    cases made
    simp only [Dict.get, Dict.get?_set_self, Option.getD_some]
    exact matrixResultTarget_other isTarget key mem

def resourceFamily (r : SecurityTestResult) : String := (Dict.get r.target "resource_family").strOrEmpty

/-- What the identity of a matrix result is made of. -/
structure MatrixIdentity (r : SecurityTestResult) : Prop where
  checkType : r.checkType = "authorization_matrix"
  authMode : r.authMode = "matrix"
  accountId : r.accountId = ""
  pathid : r.relatedPathid.isSome = true
  scope : (reviewResultIdentity r).accountScope = ["", "", "", "", resourceFamily r]

theorem matrixResult_identity {r : SecurityTestResult} (h : MatrixResult r) : MatrixIdentity r := by
  obtain ⟨e, id, now, stored, finding, made, rfl⟩ := h
  simp only [MatrixExecution.result, bind_eq_ok] at made
  obtain ⟨summary, _, judgement, _, _, _, made⟩ := made
  cases made
  obtain ⟨checkType, authMode, accountId⟩ := e.run
  refine ⟨checkType, authMode, accountId, rfl, ?_⟩
  have absent : ∀ key ∈ otherAccountKeys, (Dict.get (resultDocument e.job.claimed.run e.snapshot
      (resultInput e.job e.checkpoint e.snapshot e.evidence summary judgement) id now).target
      key).strOrEmpty = "" := by
    intro key mem
    have none_ := matrixExecution_target_other e key mem
    have target : Dict.get? (resultDocument e.job.claimed.run e.snapshot
        (resultInput e.job e.checkpoint e.snapshot e.evidence summary judgement) id now).target key =
          none := by
      refine (get?_updateDict none_).trans ?_
      revert key
      simp [otherAccountKeys, Dict.get?]
    rw [Dict.get, target]
    rfl
  simp only [reviewResultIdentity, accountScopeKeys, List.map_cons, List.map_nil, resourceFamily,
    absent "baseline_account_id" (by simp [otherAccountKeys]),
    absent "source_account_id" (by simp [otherAccountKeys]),
    absent "target_account_id" (by simp [otherAccountKeys]),
    absent "actor_role" (by simp [otherAccountKeys])]

/-- Two results of one consumer endpoint: project, environment, path and resource family. -/
structure SameEndpoint (q r : SecurityTestResult) : Prop where
  project : q.projectId = r.projectId
  env : q.envId = r.envId
  path : q.relatedPathid = r.relatedPathid
  family : resourceFamily q = resourceFamily r

/-- Matrix results share their identity exactly where they share their endpoint, whoever owns the
resource and whoever asks for it. -/
theorem identity_eq_iff {q r : SecurityTestResult} (hq : MatrixResult q) (hr : MatrixResult r) :
    reviewResultIdentity q = reviewResultIdentity r ↔ SameEndpoint q r := by
  have iq := matrixResult_identity hq
  have ir := matrixResult_identity hr
  obtain ⟨a, pathA⟩ := Option.isSome_iff_exists.mp iq.pathid
  obtain ⟨b, pathB⟩ := Option.isSome_iff_exists.mp ir.pathid
  have endpoints : reviewEndpoint q = reviewEndpoint r ↔ q.relatedPathid = r.relatedPathid := by
    simp only [reviewEndpoint, pathA, pathB, Option.some.injEq, String.append_right_inj]
    exact Int.repr_inj
  have scopes : (reviewResultIdentity q).accountScope = (reviewResultIdentity r).accountScope ↔
      resourceFamily q = resourceFamily r := by simp [iq.scope, ir.scope]
  constructor
  · intro same
    exact ⟨congrArg (·.projectId) same, congrArg (·.envId) same,
      endpoints.mp (congrArg (·.endpoint) same), scopes.mp (congrArg (·.accountScope) same)⟩
  · rintro ⟨project, env, path, family⟩
    have scope := scopes.mpr family
    have endpoint := endpoints.mpr path
    simp only [reviewResultIdentity, ReviewIdentity.mk.injEq] at scope ⊢
    exact ⟨project, env, iq.checkType.trans ir.checkType.symm, endpoint,
      iq.authMode.trans ir.authMode.symm, iq.accountId.trans ir.accountId.symm, scope⟩

/-! ## Which case is in the queue -/

/-- Results of matrix runs, with the events of their review. -/
structure ReviewState where
  results : List SecurityTestResult
  events : List ResultReviewEvent
  matrix : ∀ r ∈ results, MatrixResult r
  distinct : Distinct (·.id) results

/-- The newest result of its case, selected by the query, that nobody has decided on. -/
structure OpenCase (s : ReviewState) (q : ReviewQuery) (r : SecurityTestResult) : Prop where
  stored : r ∈ s.results
  selected : q.accepts r = true
  verdict : r.verdict = "potential_vuln" ∨ r.verdict = "need_review"
  newest : ∀ n ∈ s.results, caseKey n = caseKey r → n ≠ r → n.ctime < r.ctime
  unsettled : ¬Settled s.events r
  unlinked : r.relatedVulnId = none

theorem ReviewPage.nodup {s : ReviewState} {q : ReviewQuery} (page : ReviewPage s.results q) :
    page.rows.Nodup :=
  page.answers.nodup_iff.mpr ((List.Nodup.of_map (fun r : SecurityTestResult => r.id) s.distinct).filter _)

/-- **Matrix cases.** An open case is in the queue exactly where no result of another case that is
newer on the page shares its endpoint and resource family. -/
theorem matrix_case_in_queue_iff (s : ReviewState) (q : ReviewQuery) (page : ReviewPage s.results q)
    (r : SecurityTestResult) (case : OpenCase s q r) (newer older : List SecurityTestResult)
    (split : page.rows = newer ++ r :: older) :
    r ∈ getReviewQueue page.rows s.events none ↔
      ∀ n ∈ newer, caseKey n ≠ caseKey r → ¬SameEndpoint n r := by
  have nodup := page.nodup
  have sorted := page.sorted
  have stored : ∀ n ∈ newer, n ∈ s.results := fun n mem =>
    (List.mem_filter.mp (page.answers.mem_iff.mp (split ▸ List.mem_append_left _ mem))).1
  rw [split] at nodup sorted ⊢
  -- a newer result of the same case would contradict `newest`
  have others : ∀ n ∈ newer, caseKey n ≠ caseKey r := by
    intro n mem same
    have ne : n ≠ r := fun e => (List.nodup_append.mp nodup).2.2 n mem r (by simp) e
    have older' := case.newest n (stored n mem) same ne
    exact absurd ((List.pairwise_append.mp sorted).2.2 n mem r (by simp)) (not_le.mpr older')
  have reviewable : r.verdict ∈ reviewableVerdicts := by
    rcases case.verdict with h | h <;> simp [h, reviewableVerdicts]
  rw [mem_getReviewQueue nodup reviewable case.unsettled case.unlinked]
  refine forall₂_congr fun n mem => ?_
  rw [ne_eq, identity_eq_iff (s.matrix n (stored n mem)) (s.matrix r case.stored)]
  exact ⟨fun h _ => h, fun h => h (others n mem)⟩

/-! ## Two cases of one endpoint -/

/-- A run of the authorization matrix that a worker has claimed. -/
def matrixJob : Job where
  claimed := ⟨{
    preparingRun (matrixRequest "p" "e" "plan" "" (.explicit "matrix") [1, 2]) [1, 2]
      (.explicit "matrix") 0 with status := .running, leaseToken := some 0 }, 0, rfl⟩
  adapter := authorizationMatrixAdapter
  policy := matrixPolicy 2
  leaseSeconds := 60

/-- The case of an owner and a subject, replayed with both requests answered. -/
def matrixCase (snapshot : ObjectId) (key owner subject decision : String) : MatrixExecution where
  job := matrixJob
  adapter := rfl
  run := ⟨rfl, rfl, rfl⟩
  checkpoint := { id := snapshot, runId := 0, snapshotId := snapshot, host := "api" }
  snapshot := { id := snapshot, pathid := 5, projectId := "p", path := "/orders/1", metadata := [
    ("validation_plan", .obj [("authorization_case", .obj [
      ("case_key", .str key), ("resource_family", .str "orders"), ("action", .str "read"),
      ("resource_owner_principal_id", .str owner), ("subject_principal_id", .str subject),
      ("expected_decision", .str decision)])])] }
  requests := .ok [
    ("status_code", .int 200), ("source_status_code", .int 200), ("consumer_status_code", .int 200),
    ("authorization_expected_decision", .str decision),
    ("authorization_resource_match_count", .int 1), ("authorization_resource_field_count", .int 1)]

/-- The results of two cases of one endpoint: another subject reads the owner's resource, and then
the owner does. -/
def crossCase : Option SecurityTestResult :=
  ((matrixCase 1 "authorization-case:cross" "owner" "other" "deny").result 10 100).toOption

def selfCase : Option SecurityTestResult :=
  ((matrixCase 2 "authorization-case:self" "owner" "owner" "allow").result 11 200).toOption

/-- Every open matrix case is in the queue. -/
def OpenCasesQueued : Prop :=
  ∀ (s : ReviewState) (q : ReviewQuery) (page : ReviewPage s.results q) (r : SecurityTestResult),
    OpenCase s q r → r ∈ getReviewQueue page.rows s.events none

/-- What the two stored results have in common and where they differ. -/
structure TwoCases (cross own : SecurityTestResult) : Prop where
  matrixCross : MatrixResult cross
  matrixOwn : MatrixResult own
  verdict : cross.verdict = "potential_vuln"
  unlinked : cross.relatedVulnId = none
  keys : caseKey own ≠ caseKey cross
  ids : own.id ≠ cross.id
  newer : cross.ctime ≤ own.ctime
  endpoint : SameEndpoint own cross

theorem two_cases : ∃ cross own, TwoCases cross own := by
  have computed : crossCase.any (fun cross => selfCase.any fun own =>
      cross.verdict == "potential_vuln" && cross.relatedVulnId == none &&
        caseKey own != caseKey cross && own.id != cross.id && decide (cross.ctime ≤ own.ctime) &&
        own.projectId == cross.projectId && own.envId == cross.envId &&
        own.relatedPathid == cross.relatedPathid && resourceFamily own == resourceFamily cross) =
      true := by decide +kernel
  simp only [Option.any_eq_true, Bool.and_eq_true, beq_iff_eq, bne_iff_ne, decide_eq_true_eq] at computed
  obtain ⟨cross, madeCross, own, madeSelf, facts⟩ := computed
  obtain ⟨⟨⟨⟨⟨⟨⟨⟨verdict, unlinked⟩, keys⟩, ids⟩, newer⟩, project⟩, env⟩, path⟩, family⟩ := facts
  exact ⟨cross, own, ⟨_, _, _, cross, cross.relatedVulnId, toOption_eq_some.mp madeCross, rfl⟩,
    ⟨_, _, _, own, own.relatedVulnId, toOption_eq_some.mp madeSelf, rfl⟩, verdict, unlinked, keys, ids,
    newer, project, env, path, family⟩

/-- The later pass of the owner's own case hides the finding on the other subject. -/
theorem open_case_hidden : ¬OpenCasesQueued := by
  intro queued
  obtain ⟨cross, own, h⟩ := two_cases
  let s : ReviewState := {
    results := [own, cross], events := []
    matrix := by simp [h.matrixCross, h.matrixOwn]
    distinct := by simp [Distinct, h.ids] }
  have open_ : OpenCase s {} cross := {
    stored := by simp [s]
    selected := rfl
    verdict := .inl h.verdict
    newest := fun n mem same ne => by
      rcases List.mem_cons.mp mem with rfl | mem
      · exact absurd same h.keys
      · exact absurd (List.mem_singleton.mp mem) ne
    unsettled := by simp [Settled, s]
    unlinked := h.unlinked }
  have here := queued s {} ⟨[own, cross], .refl _, by simp [h.newer]⟩ cross open_
  have nodup : ([own] ++ cross :: []).Nodup := by simpa using fun e => h.ids (congrArg _ e)
  have apart := (mem_getReviewQueue nodup (by simp [h.verdict, reviewableVerdicts]) open_.unsettled
    h.unlinked).mp here own (by simp)
  exact apart ((identity_eq_iff h.matrixOwn h.matrixCross).mpr h.endpoint)

/-- Alone, the finding is in the queue. -/
theorem matrix_case_in_queue_alone : ∃ (s : ReviewState) (page : ReviewPage s.results {})
    (r : SecurityTestResult), OpenCase s {} r ∧ r ∈ getReviewQueue page.rows s.events none := by
  obtain ⟨cross, own, h⟩ := two_cases
  let s : ReviewState := {
    results := [cross], events := []
    matrix := by simp [h.matrixCross]
    distinct := by simp [Distinct] }
  have open_ : OpenCase s {} cross := {
    stored := by simp [s]
    selected := rfl
    verdict := .inl h.verdict
    newest := fun n mem _ ne => absurd (List.mem_singleton.mp mem) ne
    unsettled := by simp [Settled, s]
    unlinked := h.unlinked }
  let page : ReviewPage s.results {} := ⟨[cross], .refl _, by simp⟩
  exact ⟨s, page, cross, open_,
    (matrix_case_in_queue_iff s {} page cross open_ [] [] rfl).mpr (by simp)⟩

end ApiManger.Review
