import Mathlib.Algebra.Order.Ring.Rat
import Mathlib.Data.List.Sort
import ApiManger.Account.RequestKwargs

/-!
# SQL injection screening

`apiAnalysis/tool/sqli_screen.py`: the parameters of a snapshot are replayed one by one
with every payload, the probes of a parameter are folded into a row, and the judge folds
the rows into a verdict. Whether payloads may be sent at all depends on the class of the
snapshot.
-/

namespace ApiManger.Screening
open Python Account

/-! ## Classes -/

inductive ScreeningClass where
  | readOnly | additive | idempotentConfig | stateful | destructive | unknown
  deriving DecidableEq

structure ScreeningRule where
  sqlScreening : Bool
  baselineOnly : Bool
  requireReadback : Bool

/-- `SCREENING_CLASS_RULES`. -/
def screeningRule : ScreeningClass → ScreeningRule
  | .readOnly => ⟨true, false, false⟩
  | .additive => ⟨true, false, true⟩
  | .idempotentConfig => ⟨true, false, true⟩
  | .stateful => ⟨false, true, true⟩
  | .destructive => ⟨false, true, false⟩
  | .unknown => ⟨false, true, false⟩

def namedClass : String → Option ScreeningClass
  | "read_only" => some .readOnly
  | "additive" => some .additive
  | "idempotent_config" => some .idempotentConfig
  | "stateful" => some .stateful
  | "destructive" => some .destructive
  | "unknown" => some .unknown
  | _ => none

/-- `DEFAULT_SCREENING_CLASS_BY_METHOD`. -/
def classOfMethod : String → ScreeningClass
  | "GET" | "HEAD" | "OPTIONS" => .readOnly
  | "POST" | "DELETE" => .destructive
  | "PUT" | "PATCH" => .stateful
  | _ => .unknown

@[irreducible] def sqliPayloads : List (String × String) := [
  ("orig_true", "0)or len(user)>1-- A"), ("orig_false", "0)or len(user)>100-- A"), ("quote", "1'"),
  ("paren_close", "1)"), ("or_true", "1) or 1=1-- A"), ("noparen_or", "1 or 1=1-- A"),
  ("union_null", "1 UNION SELECT NULL-- A"), ("waitfor", "1; WAITFOR DELAY '0:0:3'-- A"),
  ("subquery", "1 and (select 1)=1-- A"), ("comment_or", "1/**/or/**/1=1-- A"), ("dquote", "1\""),
  ("backslash", "1\\"), ("sleep_mysql", "1 OR SLEEP(3)-- A"), ("sleep_pg", "1; SELECT pg_sleep(3)-- A"),
  ("benchmark", "1 OR BENCHMARK(20000000,SHA1(1))-- A")]

def timingPayloads : List String := ["waitfor", "sleep_mysql", "sleep_pg", "benchmark"]

def skipNames : List String := [
  "token", "access_token", "authorization", "auth", "sign", "signature", "timestamp", "ts", "nonce", "sessionid",
  "session_id", "cookie", "apifox_uid", "_token", "traceid", "requestid", "pageId", "lang"]

/-! ## Snapshots and requests -/

/-- The fields of a snapshot that screening reads; `spec` and `screeningClass` are those of its metadata. -/
structure ScreenSnapshot where
  method : String := "GET"
  url : String
  query : Dict := []
  body : Body := .json .null
  spec : List Dict := []
  screeningClass : Json := .null
  parameterSources : Mapping Json := .empty

/-- `_screening_class`. -/
def ScreenSnapshot.class_ (s : ScreenSnapshot) : ScreeningClass :=
  match namedClass (lower (stripped s.screeningClass.strOrEmpty)) with
  | some named => named
  | none => classOfMethod (upper (orText s.method "GET"))

/-- `_screening_policy`. -/
def ScreenSnapshot.policy (s : ScreenSnapshot) : ScreeningRule := screeningRule s.class_

/-- Whether the body is a dictionary. -/
def ScreenSnapshot.hasObject (s : ScreenSnapshot) : Bool :=
  match s.body with
  | .json (.obj _) => true
  | _ => false

structure TargetConfig where
  position : String
  base : String

structure Target where
  name : String
  position : String
  base : String

/-- The name and the position of a row of the spec. -/
def rowName (row : Dict) : String := (Dict.get row "name").strOrEmpty

def rowPosition (row : Dict) : String := orText (Dict.get row "position").strOrEmpty "query"

/-- The parameters of the spec, by name: a later row takes the place of an earlier one. -/
def ScreenSnapshot.explicit (s : ScreenSnapshot) : Mapping TargetConfig :=
  s.spec.foldl (fun explicit row =>
    if rowName row == "" then explicit
    else explicit.set (rowName row) ⟨rowPosition row, orText (Dict.get row "base").strOrEmpty "1"⟩) .empty

/-- The target that a parameter source makes. -/
def derivedTarget : Json → Option TargetConfig
  | .obj entry =>
    let position := (Dict.get entry "position").strOrEmpty
    if position != "query" && position != "body" then none
    else if (Dict.get entry "source").strOrEmpty == "omitted_empty_optional" then none
    else some ⟨position, ""⟩
  | _ => none

def ScreenSnapshot.derived (s : ScreenSnapshot) : Mapping TargetConfig := s.parameterSources.filterMapValues derivedTarget

/-- The parameters by name: those of the spec come first. -/
def ScreenSnapshot.merged (s : ScreenSnapshot) : Mapping TargetConfig :=
  s.explicit.update (s.derived.filterKeys fun name => (s.explicit.get? name).isNone)

/-- Whether a parameter is screened. -/
def ScreenSnapshot.screens (s : ScreenSnapshot) (name position : String) : Bool :=
  name != "" && !skipNames.contains name && (position != "body" || s.hasObject)

def targets (s : ScreenSnapshot) : List Target :=
  ((s.merged.items.insertionSort fun a b => a.1 ≤ b.1).filter fun e => s.screens e.1 e.2.position).map fun e =>
    ⟨e.1, e.2.position, orText e.2.base "1"⟩

/-- A url with its query as pairs. -/
structure VariantUrl where
  scheme : List Char
  netloc : List Char
  path : List Char
  query : List (String × String)
  fragment : List Char

/-- Keep the first pair of a name, with the value, and drop the others. -/
def replacePairs (name value : String) : Bool → List (String × String) → List (String × String) × Bool
  | replaced, [] => ([], replaced)
  | replaced, (key, old) :: rest =>
    if key == name then
      let (kept, done) := replacePairs name value true rest
      (if replaced then kept else (name, value) :: kept, done)
    else
      let (kept, done) := replacePairs name value replaced rest
      ((key, old) :: kept, done)

/-- `_set_query_value`, with `urlencode` left open. -/
def setQueryValue (url name value : String) : VariantUrl :=
  let split := urlsplit url.toList
  let (kept, replaced) := replacePairs name value false (parseQsl (queryOf url.toList))
  { scheme := split.scheme, netloc := split.netloc, path := split.path, fragment := fragmentOf url.toList
    query := if replaced then kept else kept ++ [(name, value)] }

def setBodyValue (body : Body) (name value : String) : Body :=
  match body with
  | .json (.obj fields) => .json (.obj (Dict.set fields name (.str value)))
  | body => body

/-- What a payload changes in the snapshot. -/
inductive Variant where
  | query (url : VariantUrl) (query : Dict)
  | body (body : Body)

def variantOf (s : ScreenSnapshot) (t : Target) (payload : String) : Variant :=
  if t.position == "query" then .query (setQueryValue s.url t.name payload) (Dict.set s.query t.name (.str payload))
  else .body (setBodyValue s.body t.name payload)

/-- A request of a screening. -/
inductive Request where
  | baseline
  | probe (name payload : String) (variant : Variant)

/-! ## Answers -/

/-- The evidence of a replay; `captured` is the text of its JSON, empty where there is none. -/
structure ReplayEvidence where
  statusCode : Option Int := none
  ok : Bool := false
  elapsedMs : ℚ := 0
  responseLen : ℕ := 0
  responseSha256 : String := ""
  textSample : String := ""
  captured : String := ""
  errorType : String := ""
  error : String := ""

/-- What comes of a request: its evidence, another exception, or a block of the executor. -/
inductive Answer where
  | evidence (e : ReplayEvidence)
  | raised (cls : String)
  | blocked (reason : String)

/-- The server and the executor, where a screening makes each request at most once. -/
abbrev Server := Request → Answer

/-- `_MARKER_PATTERN`: its alternatives in order, each with its group. -/
def markerPatterns : List (String × String) := [
  ("fatal error", "fatal"), ("warning:", "warning"), ("sql syntax", "sql_syntax"), ("syntax error", "sql_syntax"),
  ("pdoexception", "pdo"), ("yaf_exception", "yaf"), ("exception", "generic_exception"), ("odbc", "odbc"),
  ("mssql", "mssql"), ("mysql", "mysql"), ("mysql_", "mysql"), ("postgresql", "pg"), ("pg_sleep", "pg"),
  ("pg_query", "pg"), ("near \"\"", "near"), ("dbqccom", "dbqccom"), ("peanut", "peanut"), ("uncaught", "uncaught"),
  ("traceback", "traceback"), ("sql/com_init_db_failed", "boom"), ("sqlsrv", "boom")]

/-- The matches of the pattern in a text of lower case, after a match that still covers some characters. -/
def markersFrom : ℕ → List Char → List String → List String
  | _, [], names => names
  | skip + 1, _ :: rest, names => markersFrom skip rest names
  | 0, c :: rest, names => match markerPatterns.find? fun p => p.1.toList.isPrefixOf (c :: rest) with
    | some (text, group) =>
      markersFrom (text.length - 1) rest (if names.contains group then names else names ++ [group])
    | none => markersFrom 0 rest names

/-- `_response_markers`. -/
def ReplayEvidence.markers (e : ReplayEvidence) : List String :=
  markersFrom 0 (lower (e.textSample ++ "\n" ++ firstChars e.captured 2000)).toList []

inductive Flag where
  | transportError | authDenied | rateLimited | statusDiff | newErrorMarker | timeAnomaly | blockedByScreeningClass
  deriving DecidableEq

/-- `_request_problem`. -/
def ReplayEvidence.problem (e : ReplayEvidence) : Option Flag :=
  if e.errorType != "" || e.error != "" then some .transportError
  else match e.statusCode with
    | none => some .transportError
    | some status =>
      if status = 401 ∨ status = 403 then some .authDenied
      else if status = 429 then some .rateLimited else none

/-- The text of a problem. -/
def Flag.text : Flag → String
  | .transportError => "transport_error"
  | .authDenied => "auth_denied"
  | .rateLimited => "rate_limited"
  | .statusDiff => "status_diff"
  | .newErrorMarker => "new_error_marker"
  | .timeAnomaly => "time_anomaly"
  | .blockedByScreeningClass => "blocked_by_screening_class"

def ReplayEvidence.baselineProblem (e : ReplayEvidence) : String :=
  match e.problem, e.statusCode with
  | some problem, _ => "baseline_" ++ problem.text
  | none, some status =>
    if status = 404 then "baseline_not_found"
    else if 300 ≤ status ∧ status < 400 then "baseline_redirected"
    else if 500 ≤ status then "baseline_server_error"
    else if e.ok = false then "baseline_unexpected_status" else ""
  | none, none => if e.ok = false then "baseline_unexpected_status" else ""

/-- A flag that leaves a probe unusable. -/
def Flag.isProblem : Flag → Bool
  | .transportError | .authDenied | .rateLimited => true
  | .statusDiff | .newErrorMarker | .timeAnomaly | .blockedByScreeningClass => false

structure Probe where
  payload : String
  status : Option Int := none
  len : ℕ := 0
  sha12 : String := ""
  flags : List Flag := []
  markers : List String := []

def Probe.usable (p : Probe) : Bool := p.status.isSome && !p.flags.any (·.isProblem)

/-- `round`, of what is not negative: the nearest integer, of two the even one. -/
def roundEven (q : ℚ) : ℤ :=
  let down := q.floor
  if q - down < 1 / 2 then down else if 1 / 2 < q - down then down + 1
  else if down % 2 = 0 then down else down + 1

/-- `_probe_matches_baseline`. -/
def Probe.matchesBaseline (p : Probe) (baseline : ReplayEvidence) : Bool :=
  let hash := firstChars baseline.responseSha256 12
  if p.status ≠ baseline.statusCode then false
  else if p.sha12 != "" && hash != "" && p.sha12 == hash then true
  else if baseline.responseLen = 0 then false
  else decide (|(p.len : ℤ) - baseline.responseLen| ≤ max 8 (roundEven (baseline.responseLen / 20)))

def meaningfulBodyDifference (true_ false_ : Probe) (baseline : ReplayEvidence) : Bool :=
  let difference := (max true_.len false_.len) - (min true_.len false_.len)
  true_.status == false_.status && true_.status.any (fun s => decide (200 ≤ s ∧ s < 300)) &&
    true_.sha12 != "" && false_.sha12 != "" && true_.sha12 != false_.sha12 && decide (32 ≤ difference) &&
    decide ((1 : ℚ) / 10 ≤ difference / (max (max true_.len false_.len) 1 : ℕ)) &&
    (true_.matchesBaseline baseline != false_.matchesBaseline baseline)

def timingAnomaly (e baseline : ReplayEvidence) : Bool :=
  decide (0 < baseline.elapsedMs ∧ 3 * baseline.elapsedMs ≤ e.elapsedMs ∧ 2500 ≤ e.elapsedMs - baseline.elapsedMs)

/-! ## One parameter -/

def answeredProbe (baseline : ReplayEvidence) (payload : String) (e : ReplayEvidence) : Probe :=
  let markers := e.markers.filter fun m => !baseline.markers.contains m
  { payload := payload, status := e.statusCode, len := e.responseLen, sha12 := firstChars e.responseSha256 12
    markers := markers
    flags := match e.problem with
      | some problem => [problem]
      | none => (if e.statusCode ≠ baseline.statusCode then [.statusDiff] else []) ++
          (if markers.isEmpty then [] else [.newErrorMarker]) ++
          if timingPayloads.contains payload && timingAnomaly e baseline then [.timeAnomaly] else [] }

/-- The loop over the payloads: the requests it sent, and its probes. -/
def probePayloads (s : ScreenSnapshot) (t : Target) (baseline : ReplayEvidence) (server : Server) :
    List (String × String) → List Request × Except PyError (List Probe)
  | [] => ([], .ok [])
  | (name, payload) :: rest =>
    if s.policy.sqlScreening then
      let request := Request.probe t.name name (variantOf s t payload)
      match server request with
      | .blocked reason => ([], .error (.requestBlocked reason))
      | .raised _ =>
        let (sent, probes) := probePayloads s t baseline server rest
        (request :: sent, probes.map ({ payload := name, flags := [.transportError] } :: ·))
      | .evidence e =>
        let (sent, probes) := probePayloads s t baseline server rest
        (request :: sent, probes.map (answeredProbe baseline name e :: ·))
    else
      let (sent, probes) := probePayloads s t baseline server rest
      (sent, probes.map ({ payload := name, flags := [.blockedByScreeningClass] } :: ·))

inductive RowVerdict where
  | interest | notEvaluable | blocked | clean
  deriving DecidableEq

inductive Signal where
  | booleanStatusDivergence | booleanBodyDivergence | newErrorMarker | waitforTimeAnomaly | serverErrorDivergence

/-- The row of a parameter. -/
structure ScreenRow where
  name : String
  position : String
  baseUsed : String
  baseStatus : Option Int
  verdict : RowVerdict
  probes : List Probe
  signals : List Signal
  reasonCodes : List String
  strongSignature : Bool
  complete : Bool

/-- The problems of some probes, sorted by their texts. -/
def problemsOf (probes : List Probe) : List Flag :=
  [Flag.authDenied, .rateLimited, .transportError].filter fun flag => probes.any (·.flags.contains flag)

/-- What the answers to the true and the false condition say. -/
def booleanSignals (baseline : ReplayEvidence) (probes : List Probe) : List Signal × Bool :=
  match probes.find? (·.payload == "orig_true"), probes.find? (·.payload == "orig_false") with
  | some true_, some false_ =>
    if !true_.usable || !false_.usable then ([], false)
    else if true_.status ≠ false_.status ∧ (true_.status = baseline.statusCode ∨ false_.status = baseline.statusCode) then
      ([.booleanStatusDivergence], decide (true_.status = some 500 ∧ false_.status = baseline.statusCode))
    else if meaningfulBodyDifference true_ false_ baseline then ([.booleanBodyDivergence], false) else ([], false)
  | _, _ => ([], false)

def isServerError (status : Option Int) : Bool := status.any fun s => decide (500 ≤ s ∧ s < 600)

/-- The signals of some probes. -/
def signalsOf (baseline : ReplayEvidence) (probes : List Probe) : List Signal :=
  (booleanSignals baseline probes).1 ++
    (if probes.any (·.flags.contains .newErrorMarker) then [.newErrorMarker] else []) ++
    (if probes.any (·.flags.contains .timeAnomaly) then [.waitforTimeAnomaly] else []) ++
    if probes.any fun p => p.usable && isServerError p.status && !isServerError baseline.statusCode then
      [.serverErrorDivergence] else []

/-- Whether every payload was rejected, and the baseline was not. -/
def uniformlyRejected (baseline : ReplayEvidence) (probes : List Probe) : Bool :=
  !probes.isEmpty && probes.all fun p => p.status.any (fun s => decide (400 ≤ s ∧ s < 500)) &&
    decide (p.status ≠ baseline.statusCode)

def rowOf (t : Target) (baseline : ReplayEvidence) (probes : List Probe) : ScreenRow :=
  let problems := problemsOf probes
  let signals := signalsOf baseline probes
  { name := t.name, position := t.position, baseUsed := t.base, baseStatus := baseline.statusCode
    verdict := if !signals.isEmpty then .interest else if !problems.isEmpty then .notEvaluable
      else if uniformlyRejected baseline probes then .blocked else .clean
    probes := probes, signals := signals, reasonCodes := problems.map (·.text)
    strongSignature := (booleanSignals baseline probes).2, complete := problems.isEmpty }

def screenOneParam (s : ScreenSnapshot) (t : Target) (baseline : ReplayEvidence) (server : Server) :
    List Request × Except PyError ScreenRow :=
  let (sent, probes) := probePayloads s t baseline server sqliPayloads
  (sent, probes.map (rowOf t baseline))

/-! ## The snapshot -/

/-- The evidence of a screening, as the judge reads it. -/
structure ScreenEvidence where
  errorType : String := ""
  error : String := ""
  screeningClass : ScreeningClass
  baselineReason : String := ""
  blockReason : String := ""
  params : List ScreenRow := []
  notEvaluable : List String := []

/-- The loop over the targets. -/
def screenTargets (s : ScreenSnapshot) (baseline : ReplayEvidence) (server : Server) :
    List Target → List Request × Except PyError (List ScreenRow)
  | [] => ([], .ok [])
  | t :: rest => match screenOneParam s t baseline server with
    | (sent, .error e) => (sent, .error e)
    | (sent, .ok row) =>
      let (later, rows) := screenTargets s baseline server rest
      (sent ++ later, rows.map (row :: ·))

/-- `_screen_replay`: the requests it sent, and its evidence. -/
def screenReplay (s : ScreenSnapshot) (readbackRegistered : Bool) (server : Server) :
    List Request × Except PyError ScreenEvidence :=
  let evidence : ScreenEvidence := { screeningClass := s.class_ }
  let failed := { evidence with
    blockReason := if s.policy.baselineOnly then "baseline_only" else "", notEvaluable := (targets s).map fun t : Target => t.name }
  if s.policy.requireReadback && !readbackRegistered then ([], .error (.requestBlocked "mutation_requires_readback"))
  else if s.policy.baselineOnly && (targets s).isEmpty then
    ([], .ok { evidence with baselineReason := "no_targets", blockReason := "baseline_only_no_targets" })
  else match server .baseline with
    | .blocked reason => ([], .error (.requestBlocked reason))
    | .raised cls => ([.baseline], .ok { failed with
        errorType := cls, error := cls, baselineReason := "baseline_transport_error" })
    | .evidence baseline =>
      if baseline.baselineProblem != "" then ([.baseline], .ok { failed with
        errorType := baseline.errorType, error := firstChars baseline.error 160
        baselineReason := baseline.baselineProblem })
      else
        let (sent, rows) := screenTargets s baseline server (targets s)
        (.baseline :: sent, rows.map fun rows => { evidence with
          params := rows
          blockReason := if s.policy.baselineOnly && rows.isEmpty then "baseline_only_no_payloads" else "" })

/-! ## The judge -/

inductive Verdict where
  | error | notEvaluable | needReview | noVuln

/-- The classes that the judge names. -/
def forbidsPayloads (c : ScreeningClass) : Bool := c == .destructive || c == .stateful || c == .unknown

/-- `screening_class` as a reason. -/
def ScreeningClass.text : ScreeningClass → String
  | .readOnly => "read_only"
  | .additive => "additive"
  | .idempotentConfig => "idempotent_config"
  | .stateful => "stateful"
  | .destructive => "destructive"
  | .unknown => "unknown"

/-- `_screen_judge`: the verdict, its reasons and its confidence. -/
def screenJudge (e : ScreenEvidence) : Verdict × List String × ℚ :=
  let interest := e.params.filter (·.verdict == .interest)
  let notEvaluable := e.params.filter (·.verdict == .notEvaluable)
  if e.errorType != "" || e.error != "" then (.error, [orText e.baselineReason "transport_error"], 9 / 10)
  else if e.baselineReason != "" then (.notEvaluable, [e.baselineReason], 9 / 10)
  else if !interest.isEmpty then
    let strong := interest.any (·.strongSignature)
    (.needReview, (if strong then "sqli_report_signature" else "sqli_observable_signal") ::
      (if e.params.any (!·.complete) then ["partial_probe_coverage"] else []), if strong then 8 / 10 else 6 / 10)
  else if !notEvaluable.isEmpty then
    (.notEvaluable, [if notEvaluable.length = e.params.length then "probe_not_evaluable"
      else "partial_probe_not_evaluable"], 3 / 4)
  else if e.params.any (·.verdict == .blocked) then (.notEvaluable, ["payload_screen_blocked"], 3 / 4)
  else if e.params.isEmpty then
    if forbidsPayloads e.screeningClass || e.blockReason != "" then
      (.notEvaluable, [orText e.blockReason ("screening_class_" ++ e.screeningClass.text)], 7 / 10)
    else (.notEvaluable, ["no_parameters_screened"], 4 / 5)
  else (.noVuln, ["no_sqli_signal_in_payload_screen"], 7 / 10)

end ApiManger.Screening
