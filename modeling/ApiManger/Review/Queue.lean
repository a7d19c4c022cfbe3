import ApiManger.Collection.FirstMatch
import ApiManger.Python.Url
import ApiManger.Store.Documents

/-!
# The review queue

`apiAnalysis/tool/result_review.py`: the identity under which a newer result hides
an older one, and the queue of the results that still need a decision. The queue
reads a query answer, newest first; Mongo does not say how results of one time are
ordered, so it reads any such order.
-/

namespace ApiManger.Review
open Python Store Collection

/-- The actions of a `result_review_event`. -/
inductive ReviewAction where
  | confirm | reject | needMoreEvidence | duplicate | escalate | comment
  deriving DecidableEq

/-- `result_review_event`, as far as the queue reads it. -/
structure ResultReviewEvent where
  resultId : ObjectId
  action : ReviewAction

def reviewableVerdicts : List String :=
  ["potential_vuln", "need_review", "review", "PARTIAL_IDOR_PARAM", "UNAUTH_EXPOSURE"]

def terminalReviewActions : List ReviewAction := [.confirm, .reject, .duplicate]

/-! ## Identity -/

/-- `value.strip("/").split("/")` without the empty parts. -/
def pathParts (path : List Char) : List (List Char) :=
  (path.splitOn '/').filter (!·.isEmpty)

/-- A trailing part that names one resource: digits, or a template variable. -/
def isResourcePart (part : List Char) : Bool :=
  part.all Char.isDigit || (part.head? == some '{' && part.getLast? == some '}')

/-- The first of these target fields that is set. -/
def targetPath (target : Dict) : List Char :=
  match ["path", "cleanup_path", "endpoint_name", "url"].find? (Dict.truthy target) with
  | some key => strip (Dict.get target key).pyStr
  | none => []

def normalizedTargetPath (target : Dict) : String :=
  let value := targetPath target
  if value.isEmpty then ""
  else
    let value := if (value.tails.any ("://".toList.isPrefixOf ·)) then (urlsplit value).path else value
    let parts := ((pathParts value).reverse.dropWhile isResourcePart).reverse
    if parts.isEmpty then String.ofList value
    else String.ofList (parts.flatMap fun part => '/' :: part)

/-- The tuple `review_result_identity` returns. -/
structure ReviewIdentity where
  projectId : String
  envId : String
  checkType : String
  endpoint : String
  authMode : String
  accountId : String
  accountScope : List String
  deriving DecidableEq

/-- The target fields that separate accounts. -/
def accountScopeKeys : List String :=
  ["baseline_account_id", "source_account_id", "target_account_id", "actor_role", "resource_family"]

/-- The endpoint part of the identity. -/
def reviewEndpoint (r : SecurityTestResult) : String :=
  match r.relatedPathid with
  | some pathid => "pathid:" ++ toString pathid
  | none =>
    let path := normalizedTargetPath r.target
    if path != "" then path
    else match r.snapshotId with
      | some snapshot => "snapshot:" ++ toString snapshot
      | none => "case:" ++ r.caseName

def reviewResultIdentity (r : SecurityTestResult) : ReviewIdentity where
  projectId := r.projectId
  envId := r.envId
  checkType := r.checkType
  endpoint := reviewEndpoint r
  authMode := r.authMode
  accountId := r.accountId
  accountScope := accountScopeKeys.map fun key => (Dict.get r.target key).strOrEmpty

/-! ## Queue -/

/-- The loop of `latest_review_candidates`, with the identities seen so far. -/
def latestFrom (seen : List ReviewIdentity) : List SecurityTestResult → List SecurityTestResult
  | [] => []
  | r :: rest =>
    if seen.contains (reviewResultIdentity r) then latestFrom seen rest
    else if reviewableVerdicts.contains r.verdict then
      r :: latestFrom (reviewResultIdentity r :: seen) rest
    else latestFrom (reviewResultIdentity r :: seen) rest

def latestReviewCandidates (results : List SecurityTestResult) : List SecurityTestResult :=
  latestFrom [] results

/-- The results of these candidates that a terminal event has settled. -/
def terminalIds (events : List ResultReviewEvent) (candidates : List SecurityTestResult) :
    List ObjectId :=
  (events.filter fun e => (candidates.map (·.id)).contains e.resultId &&
    terminalReviewActions.contains e.action).map (·.resultId)

def unresolvedReviewCandidates (candidates : List SecurityTestResult) (terminal : List ObjectId) :
    List SecurityTestResult :=
  candidates.filter fun r => !terminal.contains r.id && r.relatedVulnId.isNone

/-- `get_review_queue`, over the answer of its query. -/
def getReviewQueue (page : List SecurityTestResult) (events : List ResultReviewEvent)
    (limit : Option Int) : List SecurityTestResult :=
  let candidates := latestReviewCandidates page
  let queue := unresolvedReviewCandidates candidates (terminalIds events candidates)
  match limit with
  | none => queue
  | some n => queue.take n.toNat

/-- The filters of `get_review_queue`; an empty one is left out. -/
structure ReviewQuery where
  projectId : String := ""
  runId : Option ObjectId := none

def ReviewQuery.accepts (q : ReviewQuery) (r : SecurityTestResult) : Bool :=
  (q.projectId == "" || r.projectId == q.projectId) && q.runId.all (· == r.runId)

/-- An answer of the query: the results it accepts, newest first. -/
structure ReviewPage (results : List SecurityTestResult) (q : ReviewQuery) where
  rows : List SecurityTestResult
  answers : rows.Perm (results.filter q.accepts)
  sorted : rows.Pairwise fun a b => b.ctime ≤ a.ctime

/-! ## Who is in the queue -/

theorem latestFrom_eq (seen : List ReviewIdentity) (results : List SecurityTestResult) :
    latestFrom seen results = (firstOfEach reviewResultIdentity seen results).filter
      fun r => reviewableVerdicts.contains r.verdict := by
  induction results generalizing seen with
  | nil => rfl
  | cons r rest ih =>
    simp only [latestFrom, firstOfEach]
    split
    · exact ih seen
    · rw [List.filter_cons, ih]

/-- A result with a terminal review event. -/
def Settled (events : List ResultReviewEvent) (r : SecurityTestResult) : Prop :=
  ∃ e ∈ events, e.resultId = r.id ∧ e.action ∈ terminalReviewActions

/-- **Queue membership.** A reviewable result that is open is in the queue exactly where no result
before it on the page has its identity. -/
theorem mem_getReviewQueue {newer older : List SecurityTestResult} {r : SecurityTestResult}
    {events : List ResultReviewEvent} (nodup : (newer ++ r :: older).Nodup)
    (reviewable : r.verdict ∈ reviewableVerdicts) (unsettled : ¬Settled events r)
    (unlinked : r.relatedVulnId = none) :
    r ∈ getReviewQueue (newer ++ r :: older) events none ↔
      ∀ n ∈ newer, reviewResultIdentity n ≠ reviewResultIdentity r := by
  have candidate : r ∈ latestReviewCandidates (newer ++ r :: older) ↔
      ∀ n ∈ newer, reviewResultIdentity n ≠ reviewResultIdentity r := by
    rw [latestReviewCandidates, latestFrom_eq, List.mem_filter, mem_firstOfEach nodup]
    simp [reviewable]
  have open_ : ∀ candidates, (terminalIds events candidates).contains r.id = false := by
    intro candidates
    rw [List.contains_eq_mem, decide_eq_false_iff_not]
    intro mem
    obtain ⟨e, here, same⟩ := List.mem_map.mp mem
    have terminal := (List.mem_filter.mp here).2
    simp only [Bool.and_eq_true, List.contains_eq_mem, decide_eq_true_eq] at terminal
    exact unsettled ⟨e, (List.mem_filter.mp here).1, same, terminal.2⟩
  simp only [getReviewQueue, unresolvedReviewCandidates, List.mem_filter, open_, unlinked,
    Option.isNone_none, Bool.not_false, Bool.and_self, and_true]
  exact candidate

end ApiManger.Review
