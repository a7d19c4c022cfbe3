import Mathlib.Algebra.Order.Ring.Rat
import ApiManger.Python.Pattern
import ApiManger.Python.Text
import ApiManger.Python.Replace

/-!
# White-hat screening

`tools/whitehat_sqli_screen.py`: a parameter is asked with a benign value and with every payload, `evaluate_param`
turns the answers into signals, and the row of the parameter keeps what the verdict is to be recomputed from.
-/

namespace ApiManger.Whitehat
open Python

/-- What the interpreter computes: the rounding of a float operation, `:.1f`, the tables of `re`, `lower` and `strip`. -/
structure Interpreter where
  round : ℚ → ℚ
  fixed : ℚ → String
  classes : CharClasses
  lower : List Char → List Char
  strip : List Char → List Char

/-! ## Payloads and patterns -/

def payloads : List (String × String) := [
  ("quote_break", "'"), ("bool_true", "' OR '1'='1"), ("bool_false", "' OR '1'='2"),
  ("paren_bool_true", "') OR ('1'='1"), ("union_probe", "' UNION SELECT NULL-- -"),
  ("mysql_extractvalue", "' AND extractvalue(1,concat(0x7e,version()))-- -")]

def timeBasedPayloads : List (String × String) := [
  ("time_sleep", "' AND SLEEP(2)-- -"), ("time_benchmark", "' AND BENCHMARK(2000000,MD5('x'))-- -")]

def errorRe (classes : CharClasses) : List (List Piece) :=
  let space := someSpace classes
  [ literal "SQLSTATE",
    literal "SQL syntax",
    .boundary :: literal "mysql" ++ [.optional (ignoringCase 'i')] ++ literal "_",
    .boundary :: literal "mysql.",
    literal "PostgreSQL" ++ [anythingLazy] ++ literal "ERROR",
    literal "unclosed quotation mark",
    literal "unterminated quoted string",
    literal "quoted string not properly terminated",
    literal "ORA-" ++ List.replicate 5 (.one classes.isDigit),
    literal "Microsoft" ++ space ++ literal "OLE" ++ space ++ literal "DB",
    literal "ODBC" ++ space ++ literal "SQL" ++ space ++ literal "Server" ++ space ++ literal "Driver",
    literal "Incorrect syntax near",
    literal "You have an error in your SQL syntax",
    literal "valid MySQL result",
    literal "MySqlClient.",
    literal "PG::SyntaxError",
    literal "pg_query()",
    literal "pg_exec()",
    literal "SQLite/JDBCDriver",
    literal "SQLite.Exception",
    literal "System.Data.SqlClient.",
    literal "each UNION query must have the same number of columns",
    literal "different number of columns",
    literal "supplied argument is not a valid MySQL",
    literal "Warning" ++ [anythingLazy, .boundary] ++ literal "mysql_",
    literal "[SQLServer]",
    literal "[Microsoft][ODBC",
    literal "com.mysql.jdbc",
    literal "java.sql.SQLException",
    literal "hibernate.persister",
    literal "Hibernate" ++ space ++ literal "Exception",
    literal "syntax error at or near" ]

/-- `EMPTY_RESULT_RE`, with its inner choice spread over the alternatives. -/
def emptyResultRe (classes : CharClasses) : List (List Piece) :=
  let spaces : Piece := .many classes.isSpace
  let name : Piece := .many fun c => let d := foldCase c; ('a' ≤ d && d ≤ 'z') || c == '_'
  let quote : List Piece := [.one (· == '"')]
  [ literal "[]" ++ [.ending],
    literal "\x7b" ++ [spaces] ++ quote ++ [name] ++ literal "list" ++ quote ++ [spaces] ++ literal ":" ++ [spaces] ++
      literal "[]",
    literal "\x7b" ++ [spaces] ++ quote ++ literal "total" ++ [.many classes.isWord] ++ quote ++ [spaces] ++ literal ":" ++
      [spaces, .optional (· == '"')] ++ literal "0" ++ [.optional (· == '"')] ]

/-! ## Responses -/

/-- What `send_get` returns; a request that failed has an error in place of a status and a body. -/
structure Response where
  statusCode : Option Int
  elapsedMs : ℚ
  responseLength : ℕ
  bodySample : List Char
  error : String

/-- The status is there, and true as a value. -/
def Response.answered (r : Response) : Bool := r.statusCode.any (· != 0)

/-- A payload, its value and the response to it. -/
abbrev Result := String × String × Response

variable (i : Interpreter) (baseline : Response) (results : List Result)

def payloadResp (name : String) : Option Response := (results.find? (·.1 == name)).map (·.2.2)

def diffPct (a b : ℕ) : ℚ :=
  let base := max a b
  if base = 0 then 0 else i.round (i.round ((max a b - min a b : ℕ) / base) * 100)

/-! ## The evaluation of a parameter -/

structure ErrorHit where
  payload : String
  value : String
  matched : List Char
  statusCode : Option Int
  evidence : List Char

structure CodeAnomaly where
  payload : String
  status : Option Int
  baseline : Option Int

/-- What `evaluate_param` returns. -/
structure Evaluation where
  verdict : String
  signals : List String
  notes : List String
  errorHits : List ErrorHit
  codeAnomalies : List CodeAnomaly

/-- The pattern of errors in one response. -/
def errorHit (result : Result) : Option ErrorHit :=
  (search i.classes (errorRe i.classes) result.2.2.bodySample).map fun matched =>
    ⟨result.1, result.2.1, matched, result.2.2.statusCode, result.2.2.bodySample.take 200⟩

/-- The differences of a control that is true: to the one that is false, and to the baseline. -/
def controlPair (name : String) : Option (ℚ × ℚ) :=
  match payloadResp results name, payloadResp results "bool_false" with
  | some true_, some false_ =>
    if true_.answered && false_.answered then
      some (diffPct i true_.responseLength false_.responseLength, diffPct i true_.responseLength baseline.responseLength)
    else none
  | _, _ => none

/-- Both differences reach `BOOLEAN_DIFF_THRESHOLD_PCT`. -/
def differs (pair : ℚ × ℚ) : Bool := decide (5 ≤ pair.1) && decide (5 ≤ pair.2)

/-- The texts of an error about the number of columns. -/
def unionTexts : List String := ["different number of columns", "each union query must have the same number"]

def columnsError (body : List Char) : Bool :=
  unionTexts.any fun text => decide (text.toList <:+: i.lower body)

def unionColumnCount : Bool :=
  (payloadResp results "union_probe").any fun r => columnsError i r.bodySample

/-- How much longer than the baseline a timing payload took, in seconds. -/
def extraSeconds (name : String) : Option ℚ :=
  match payloadResp results name with
  | some r => if r.answered then some (i.round (i.round (r.elapsedMs - baseline.elapsedMs) / 1000)) else none
  | none => none

def timingNames : List String := ["time_sleep", "time_benchmark"]

/-- `extra_s >= TIME_BASED_THRESHOLD_S` -/
def isSlow (seconds : ℚ) : Bool := decide (3 / 2 ≤ seconds)

def signalsOf : List String :=
  (if (results.filterMap (errorHit i)).isEmpty then [] else ["error_based"]) ++
    (if (controlPair i baseline results "bool_true").any differs then ["boolean_based"] else []) ++
    (if (controlPair i baseline results "paren_bool_true").any differs then ["paren_boolean_based"] else []) ++
    (if unionColumnCount i results then ["union_column_count"] else []) ++
    timingNames.filterMap fun name => if (extraSeconds i baseline results name).any isSlow then some "time_based" else none

def anomaliesOf : List CodeAnomaly :=
  results.filterMap fun result =>
    if result.2.2.statusCode ≠ baseline.statusCode ∧
        result.2.2.statusCode ∈ [some 400, some 500, some 502, some 503, some 504] then
      some ⟨result.1, result.2.2.statusCode, baseline.statusCode⟩
    else none

def notesOf : List String :=
  let hits := results.filterMap (errorHit i)
  let anomalies := anomaliesOf baseline results
  (if hits.isEmpty then [] else [s!"SQL error pattern matched on {hits.length} payload(s)"]) ++
    (match controlPair i baseline results "bool_true" with
    | some pair =>
      s!"bool_true_vs_false: {i.fixed pair.1}% length diff; bool_true_vs_baseline: {i.fixed pair.2}%" ::
        if differs pair then ["BOOLEAN signal: true/false differ >=5% AND true differs from baseline >=5%"] else []
    | none => []) ++
    (match controlPair i baseline results "paren_bool_true" with
    | some pair => [s!"paren_true_vs_false: {i.fixed pair.1}%; paren_true_vs_baseline: {i.fixed pair.2}%"]
    | none => []) ++
    (timingNames.filterMap fun name => (extraSeconds i baseline results name).map fun seconds =>
      s!"{name}: +{i.fixed seconds}s vs baseline") ++
    (if baseline.statusCode = some 200 ∧ isMatch i.classes (emptyResultRe i.classes) (i.strip baseline.bodySample) then
      ["observability: baseline is an empty result set - boolean differential is " ++
        "unobservable; no_signal here is a weak negative, not evidence of parameterization"] else []) ++
    if anomalies.isEmpty then []
    else ["status anomalies (4xx/5xx) on: " ++ (Json.arr (anomalies.map fun a => .str a.payload)).pyStr]

def evaluateParam : Evaluation where
  verdict := if (signalsOf i baseline results).isEmpty then "no_signal" else "signal"
  signals := signalsOf i baseline results
  notes := notesOf i baseline results
  errorHits := results.filterMap (errorHit i)
  codeAnomalies := anomaliesOf baseline results

/-! ## Rows -/

structure PayloadRow where
  name : String
  value : String
  statusCode : Option Int
  elapsedMs : ℚ
  responseLength : ℕ
  bodyPreview : List Char

structure BaselineRow where
  statusCode : Option Int
  elapsedMs : ℚ
  responseLength : ℕ
  error : String := ""

/-- A row of the evidence. -/
structure ResultRow where
  url : String
  param : String
  note : Json
  baseline : BaselineRow
  verdict : Json
  reason : String := ""
  signals : List String := []
  notes : List String := []
  errorHits : List ErrorHit := []
  codeAnomalies : List CodeAnomaly := []
  payloads : List PayloadRow := []

structure Target where
  url : String
  param : String
  note : Json

/-- `(r.get("bodySample") or "")[:2048]` -/
def Response.preview (r : Response) : List Char := r.bodySample.take 2048

/-- The payloads of a run. -/
def payloadsOf (includeTimeBased : Bool) : List (String × String) :=
  payloads ++ if includeTimeBased then timeBasedPayloads else []

/-- The results of a parameter, where each payload has its response. -/
def resultsOf (includeTimeBased : Bool) (respond : String → Response) : List Result :=
  (payloadsOf includeTimeBased).map fun p => (p.1, p.2, respond p.1)

/-- The row that `main` writes for a target. -/
def resultRow (t : Target) (baseline : Response) (results : List Result) : ResultRow :=
  if baseline.statusCode ≠ some 200 then
    { url := t.url, param := t.param, note := t.note
      baseline := ⟨baseline.statusCode, baseline.elapsedMs, baseline.responseLength, baseline.error⟩
      verdict := .str "error"
      reason := "baseline non-200 (" ++ (baseline.statusCode.elim "None" toString) ++ ")" }
  else
    let ev := evaluateParam i baseline results
    { url := t.url, param := t.param, note := t.note
      baseline := { statusCode := baseline.statusCode, elapsedMs := baseline.elapsedMs, responseLength := baseline.responseLength }
      verdict := .str ev.verdict
      signals := ev.signals
      notes := ev.notes
      errorHits := ev.errorHits
      codeAnomalies := ev.codeAnomalies
      payloads := results.map fun result =>
        ⟨result.1, result.2.1, result.2.2.statusCode, result.2.2.elapsedMs, result.2.2.responseLength, result.2.2.preview⟩ }

end ApiManger.Whitehat
