import ApiManger.Whitehat.Screen
import ApiManger.Collection.SortedSet
import ApiManger.Collection.Keyed
import Mathlib.Data.Finset.Insert
import Mathlib.Data.String.Basic

/-!
# Verified screenings

`verify_sqli_screen` of `tools/audit/evidence_verify.py` evaluates a row of the evidence once more, from the payloads
that are recorded in it, and compares. A row keeps the first 2048 characters of each body where the evaluation read all
of them, and a row with the verdict `error` is not evaluated.
-/

namespace ApiManger.Whitehat
open Collection Python

/-! ## The verifier -/

def payloadResult (row : ResultRow) (name : String) : Response :=
  match row.payloads.find? (·.name == name) with
  | some p => ⟨p.statusCode, p.elapsedMs, p.responseLength, p.bodyPreview, ""⟩
  | none => ⟨none, 0, 0, [], ""⟩

/-- What is said about a row. -/
structure Check where
  url : String
  param : String
  stored : Json
  recomputed : String
  storedSignals : List String
  recomputedSignals : List String
  ok : Bool

def recordedResults (row : ResultRow) : List Result :=
  ((payloads ++ timeBasedPayloads).filter fun p => (row.payloads.map (·.name)).contains p.1).map fun p =>
    (p.1, p.2, payloadResult row p.1)

def recordedBaseline (row : ResultRow) : Response :=
  ⟨row.baseline.statusCode, row.baseline.elapsedMs, row.baseline.responseLength, [], row.baseline.error⟩

/-- One round of the loop over the rows. -/
def checkRow (i : Interpreter) (row : ResultRow) : Check :=
  if row.verdict = .str "error" then ⟨row.url, row.param, .str "error", "error", [], [], true⟩
  else
    let recomputed := evaluateParam i (recordedBaseline row) (recordedResults row)
    let ok := decide (row.verdict = .str recomputed.verdict)
    let signalsOk := decide (row.signals.toFinset = recomputed.signals.toFinset)
    ⟨row.url, row.param, row.verdict, recomputed.verdict, sortedSet row.signals,
      sortedSet recomputed.signals, ok && signalsOk⟩

structure Report where
  rowsChecked : ℕ
  mismatches : ℕ
  checks : List Check
  verdict : String

def verifySqliScreen (i : Interpreter) (rows : List ResultRow) : Report :=
  let checks := rows.map (checkRow i)
  let mismatches := checks.countP (!·.ok)
  ⟨checks.length, mismatches, checks, if mismatches = 0 then "pass" else "fail"⟩

/-! ## The property -/

/-- A row is accepted, in whatever evidence it stands. -/
def Accepted (i : Interpreter) (row : ResultRow) : Prop :=
  ∀ front back, (verifySqliScreen i (front ++ row :: back)).mismatches = (verifySqliScreen i (front ++ back)).mismatches

/-- A row is a mismatch, in whatever evidence it stands. -/
def Reported (i : Interpreter) (row : ResultRow) : Prop :=
  ∀ front back,
    (verifySqliScreen i (front ++ row :: back)).mismatches = (verifySqliScreen i (front ++ back)).mismatches + 1

/-- What is to hold of a row that was written, and of a verdict and signals that are put in its place: the row is
accepted, and it is reported with another verdict or with another set of signals. -/
structure TamperEvident (i : Interpreter) (row : ResultRow) (verdict : Json) (signals : List String) : Prop where
  accepted : Accepted i row
  verdict : verdict ≠ row.verdict → Reported i { row with verdict := verdict }
  signals : signals.toFinset ≠ row.signals.toFinset → Reported i { row with signals := signals }

/-- The first 2048 characters of the bodies show what the bodies show. -/
structure PreviewsShow (i : Interpreter) (results : List Result) : Prop where
  errors : (∃ r ∈ results, (search i.classes (errorRe i.classes) r.2.2.bodySample).isSome) ↔
    ∃ r ∈ results, (search i.classes (errorRe i.classes) r.2.2.preview).isSome
  columns : ∀ r ∈ results, r.1 = "union_probe" → columnsError i r.2.2.bodySample = columnsError i r.2.2.preview

/-! ## Rows in their evidence -/

variable {i : Interpreter} {row : ResultRow}

/-- A row adds a mismatch where its check fails, and else none. -/
theorem mismatches_insert (i : Interpreter) (row : ResultRow) (front back : List ResultRow) :
    (verifySqliScreen i (front ++ row :: back)).mismatches =
      (verifySqliScreen i (front ++ back)).mismatches + if (checkRow i row).ok then 0 else 1 := by
  unfold verifySqliScreen
  dsimp only
  rw [List.map_append, List.map_append, List.map_cons, List.countP_append, List.countP_append, List.countP_cons]
  cases (checkRow i row).ok
  · simp only [Bool.not_false, if_true, Bool.false_eq_true, if_false]
    omega
  · simp

theorem accepted_iff : Accepted i row ↔ (checkRow i row).ok = true := by
  constructor
  · intro accepted
    have alone := accepted [] []
    rw [mismatches_insert] at alone
    by_contra failed
    rw [if_neg failed] at alone
    omega
  · intro ok front back
    rw [mismatches_insert, if_pos ok, Nat.add_zero]

theorem reported_iff : Reported i row ↔ (checkRow i row).ok = false := by
  constructor
  · intro reported
    have alone := reported [] []
    rw [mismatches_insert] at alone
    by_contra passed
    rw [if_pos (Bool.of_not_eq_false passed)] at alone
    omega
  · intro failed front back
    rw [mismatches_insert, if_neg (Bool.eq_false_iff.mp failed)]

/-! ## What a row records -/

def Response.recorded (r : Response) : Response := { r with bodySample := r.preview, error := "" }

def recordResults (results : List Result) : List Result := results.map fun result => (result.1, result.2.1, result.2.2.recorded)

theorem payloadsOf_distinct (includeTimeBased : Bool) : Distinct Prod.fst (payloadsOf includeTimeBased) := by
  cases includeTimeBased <;> decide

/-- The payloads of a run are those the verifier knows and finds in the row. -/
theorem filter_payloadsOf (includeTimeBased : Bool) :
    ((payloads ++ timeBasedPayloads).filter fun p => ((payloadsOf includeTimeBased).map Prod.fst).contains p.1) =
      payloadsOf includeTimeBased := by
  cases includeTimeBased <;> decide

variable {baseline baseline' : Response} {results : List Result}

/-- The results that a row records are those it was written from, with previews for bodies. -/
theorem recordedResults_resultRow (i : Interpreter) (t : Target)
    (reached : baseline.statusCode = some 200) (includeTimeBased : Bool) (respond : String → Response) :
    recordedResults (resultRow i t baseline (resultsOf includeTimeBased respond)) =
      recordResults (resultsOf includeTimeBased respond) := by
  let toRow : String × String → PayloadRow := fun p =>
    ⟨p.1, p.2, (respond p.1).statusCode, (respond p.1).elapsedMs, (respond p.1).responseLength, (respond p.1).preview⟩
  have written : (resultRow i t baseline (resultsOf includeTimeBased respond)).payloads =
      (payloadsOf includeTimeBased).map toRow := by
    rw [resultRow, if_neg (not_not.mpr reached), resultsOf]
    exact List.map_map
  have names : ((payloadsOf includeTimeBased).map toRow).map (·.name) = (payloadsOf includeTimeBased).map Prod.fst :=
    List.map_map
  unfold recordedResults recordResults
  rw [written, names, filter_payloadsOf, resultsOf, List.map_map]
  refine List.map_congr_left fun p mem => ?_
  have found : (payloadsOf includeTimeBased).find? (·.1 == p.1) = some p :=
    (payloadsOf_distinct includeTimeBased).lookup_of_mem mem
  have recorded : payloadResult (resultRow i t baseline (resultsOf includeTimeBased respond)) p.1 =
      (respond p.1).recorded := by
    unfold payloadResult
    rw [written, List.find?_map, show ((fun q : PayloadRow => q.name == p.1) ∘ toRow) = (·.1 == p.1) from rfl, found]
    rfl
  exact congrArg (fun r => (p.1, p.2, r)) recorded

theorem payloadResp_recordResults (results : List Result) (name : String) :
    payloadResp (recordResults results) name = (payloadResp results name).map Response.recorded := by
  unfold payloadResp recordResults
  rw [List.find?_map, Option.map_map, Option.map_map]
  rfl

theorem controlPair_recordResults (i : Interpreter)
    (length : baseline'.responseLength = baseline.responseLength) (results : List Result) (name : String) :
    controlPair i baseline' (recordResults results) name = controlPair i baseline results name := by
  unfold controlPair
  rw [payloadResp_recordResults, payloadResp_recordResults, length]
  cases payloadResp results name <;> cases payloadResp results "bool_false" <;> rfl

theorem extraSeconds_recordResults (i : Interpreter)
    (elapsed : baseline'.elapsedMs = baseline.elapsedMs) (results : List Result) (name : String) :
    extraSeconds i baseline' (recordResults results) name = extraSeconds i baseline results name := by
  unfold extraSeconds
  rw [payloadResp_recordResults, elapsed]
  cases payloadResp results name <;> rfl

/-! ## Signals -/

theorem errorHits_ne_nil :
    (results.filterMap (errorHit i)).isEmpty = false ↔
      ∃ r ∈ results, (search i.classes (errorRe i.classes) r.2.2.bodySample).isSome := by
  have hit (r : Result) : errorHit i r = none ↔ (search i.classes (errorRe i.classes) r.2.2.bodySample).isSome = false := by
    unfold errorHit
    cases search i.classes (errorRe i.classes) r.2.2.bodySample <;> simp
  rw [List.isEmpty_eq_false_iff, Ne, List.filterMap_eq_nil_iff]
  simp only [hit, not_forall, Bool.not_eq_false, exists_prop]

/-- The signal of errors is there where the pattern is found in a body. -/
theorem error_based_mem : "error_based" ∈ signalsOf i baseline results ↔
    ∃ r ∈ results, (search i.classes (errorRe i.classes) r.2.2.bodySample).isSome := by
  rw [← errorHits_ne_nil]
  unfold signalsOf
  cases (results.filterMap (errorHit i)).isEmpty <;> simp

theorem union_column_count_mem :
    "union_column_count" ∈ signalsOf i baseline results ↔ unionColumnCount i results = true := by
  unfold signalsOf
  cases unionColumnCount i results <;> simp

/-- The other signals do not read bodies. -/
theorem signalsOf_recordResults
    (length : baseline'.responseLength = baseline.responseLength) (elapsed : baseline'.elapsedMs = baseline.elapsedMs)
    (errors : ((recordResults results).filterMap (errorHit i)).isEmpty = (results.filterMap (errorHit i)).isEmpty)
    (columns : unionColumnCount i (recordResults results) = unionColumnCount i results) :
    signalsOf i baseline' (recordResults results) = signalsOf i baseline results := by
  unfold signalsOf
  rw [errors, columns, controlPair_recordResults i length, controlPair_recordResults i length]
  simp only [extraSeconds_recordResults i elapsed]

theorem unionColumnCount_recordResults (results : List Result) : unionColumnCount i (recordResults results) =
    (payloadResp results "union_probe").any fun r => columnsError i r.preview := by
  unfold unionColumnCount
  rw [payloadResp_recordResults, Option.any_map]
  rfl

/-- A run has one response to the union probe. -/
theorem unionColumnCount_eq_iff (i : Interpreter) (includeTimeBased : Bool) (respond : String → Response) :
    unionColumnCount i (recordResults (resultsOf includeTimeBased respond)) =
        unionColumnCount i (resultsOf includeTimeBased respond) ↔
      columnsError i (respond "union_probe").bodySample = columnsError i (respond "union_probe").preview := by
  have found : payloadResp (resultsOf includeTimeBased respond) "union_probe" = some (respond "union_probe") := by
    cases includeTimeBased <;> rfl
  rw [unionColumnCount_recordResults, unionColumnCount, found, Option.any_some, Option.any_some]
  exact eq_comm

theorem mem_resultsOf {includeTimeBased : Bool} {respond : String → Response} {r : Result}
    (mem : r ∈ resultsOf includeTimeBased respond) : r.2.2 = respond r.1 := by
  obtain ⟨p, -, rfl⟩ := List.mem_map.mp mem
  rfl

theorem union_probe_mem (includeTimeBased : Bool) (respond : String → Response) :
    ("union_probe", "' UNION SELECT NULL-- -", respond "union_probe") ∈ resultsOf includeTimeBased respond :=
  List.mem_map.mpr ⟨("union_probe", "' UNION SELECT NULL-- -"), List.mem_append_left _ (by decide), rfl⟩

theorem recorded_errors :
    (∃ r ∈ recordResults results, (search i.classes (errorRe i.classes) r.2.2.bodySample).isSome) ↔
      ∃ r ∈ results, (search i.classes (errorRe i.classes) r.2.2.preview).isSome := by
  constructor
  · rintro ⟨_, mem, hit⟩
    obtain ⟨r, listed, rfl⟩ := List.mem_map.mp mem
    exact ⟨r, listed, hit⟩
  · rintro ⟨r, listed, hit⟩
    exact ⟨_, List.mem_map_of_mem listed, hit⟩

/-- What is evaluated from a row has the signals of the row just where the previews show what the bodies show. -/
theorem signals_iff (i : Interpreter) (includeTimeBased : Bool) (respond : String → Response)
    (length : baseline'.responseLength = baseline.responseLength) (elapsed : baseline'.elapsedMs = baseline.elapsedMs) :
    (signalsOf i baseline (resultsOf includeTimeBased respond)).toFinset =
        (signalsOf i baseline' (recordResults (resultsOf includeTimeBased respond))).toFinset ↔
      PreviewsShow i (resultsOf includeTimeBased respond) := by
  constructor
  · intro same
    have member (signal : String) : signal ∈ signalsOf i baseline (resultsOf includeTimeBased respond) ↔
        signal ∈ signalsOf i baseline' (recordResults (resultsOf includeTimeBased respond)) := by
      rw [← List.mem_toFinset, same, List.mem_toFinset]
    refine ⟨?_, fun r mem union => ?_⟩
    · have errors := member "error_based"
      rw [error_based_mem, error_based_mem, recorded_errors] at errors
      exact errors
    · have columns := (member "union_column_count").symm
      rw [union_column_count_mem, union_column_count_mem, ← Bool.eq_iff_iff, unionColumnCount_eq_iff] at columns
      rw [mem_resultsOf mem, union]
      exact columns
  · intro show_
    have errors : ((recordResults (resultsOf includeTimeBased respond)).filterMap (errorHit i)).isEmpty =
        ((resultsOf includeTimeBased respond).filterMap (errorHit i)).isEmpty := by
      rw [← Bool.not_inj_iff, Bool.eq_iff_iff, Bool.not_eq_true', Bool.not_eq_true', errorHits_ne_nil, errorHits_ne_nil,
        recorded_errors, show_.errors]
    have columns := (unionColumnCount_eq_iff i includeTimeBased respond).mpr
      (show_.columns _ (union_probe_mem includeTimeBased respond) rfl)
    rw [signalsOf_recordResults length elapsed errors columns]

/-! ## The rows of the tool -/

theorem signals_empty_iff {l l' : List String} (same : l.toFinset = l'.toFinset) : l.isEmpty = l'.isEmpty := by
  rw [Bool.eq_iff_iff, List.isEmpty_iff, List.isEmpty_iff, ← List.toFinset_eq_empty_iff, same, List.toFinset_eq_empty_iff]

/-- Bodies that fit into the preview are shown whole. -/
theorem previewsShow_of_short (short : ∀ r ∈ results, r.2.2.bodySample.length ≤ 2048) :
    PreviewsShow i results := by
  have whole : ∀ r ∈ results, r.2.2.preview = r.2.2.bodySample := fun r mem => List.take_of_length_le (short r mem)
  refine ⟨?_, fun r mem _ => by rw [whole r mem]⟩
  constructor
  · rintro ⟨r, mem, hit⟩
    exact ⟨r, mem, by rwa [whole r mem]⟩
  · rintro ⟨r, mem, hit⟩
    exact ⟨r, mem, by rwa [← whole r mem]⟩

theorem checkRow_ok {row : ResultRow} (evaluated : row.verdict ≠ .str "error") : (checkRow i row).ok = true ↔
    row.verdict = .str (evaluateParam i (recordedBaseline row) (recordedResults row)).verdict ∧
      row.signals.toFinset = (signalsOf i (recordedBaseline row) (recordedResults row)).toFinset := by
  unfold checkRow
  rw [if_neg evaluated]
  dsimp only
  rw [Bool.and_eq_true, decide_eq_true_eq, decide_eq_true_eq]
  rfl

theorem checkRow_error {row : ResultRow} (short : row.verdict = .str "error") : (checkRow i row).ok = true := by
  unfold checkRow
  rw [if_pos short]

section
variable (i : Interpreter) (t : Target) {baseline : Response} (includeTimeBased : Bool) (respond : String → Response)

theorem resultRow_verdict (reached : baseline.statusCode = some 200) (results : List Result) :
    (resultRow i t baseline results).verdict = .str (evaluateParam i baseline results).verdict := by
  rw [resultRow, if_neg (not_not.mpr reached)]

theorem resultRow_signals (reached : baseline.statusCode = some 200) (results : List Result) :
    (resultRow i t baseline results).signals = signalsOf i baseline results := by
  rw [resultRow, if_neg (not_not.mpr reached)]
  rfl

theorem resultRow_baseline (reached : baseline.statusCode = some 200) (results : List Result) :
    (recordedBaseline (resultRow i t baseline results)).responseLength = baseline.responseLength ∧
      (recordedBaseline (resultRow i t baseline results)).elapsedMs = baseline.elapsedMs := by
  rw [resultRow, if_neg (not_not.mpr reached)]
  exact ⟨rfl, rfl⟩

theorem verdict_ne_error (results : List Result) : Json.str (evaluateParam i baseline results).verdict ≠ .str "error" := by
  intro same
  have text : (evaluateParam i baseline results).verdict = "error" := Json.str.inj same
  unfold evaluateParam at text
  dsimp only at text
  split at text
  · exact absurd text (by decide)
  · exact absurd text (by decide)

/-- A row that was written is accepted just where the previews show what the bodies show. -/
theorem resultRow_accepted (reached : baseline.statusCode = some 200) :
    Accepted i (resultRow i t baseline (resultsOf includeTimeBased respond)) ↔
      PreviewsShow i (resultsOf includeTimeBased respond) := by
  have lengths := resultRow_baseline i t reached (resultsOf includeTimeBased respond)
  have verdict := resultRow_verdict i t reached (resultsOf includeTimeBased respond)
  have evaluated : (resultRow i t baseline (resultsOf includeTimeBased respond)).verdict ≠ .str "error" :=
    verdict ▸ verdict_ne_error i _
  rw [accepted_iff, checkRow_ok evaluated, recordedResults_resultRow i t reached, resultRow_signals i t reached,
    signals_iff i includeTimeBased respond lengths.1 lengths.2, and_iff_right_iff_imp]
  intro show_
  have same := (signals_iff i includeTimeBased respond lengths.1 lengths.2).mpr show_
  rw [verdict]
  unfold evaluateParam
  dsimp only
  rw [signals_empty_iff same]

/-- **A screening is tamper-evident just where the previews show what the bodies show and the verdict that is put in is
not the one that ends the check.** -/
theorem tamperEvident_iff (reached : baseline.statusCode = some 200) (verdict : Json) (signals : List String) :
    TamperEvident i (resultRow i t baseline (resultsOf includeTimeBased respond)) verdict signals ↔
      PreviewsShow i (resultsOf includeTimeBased respond) ∧ verdict ≠ .str "error" := by
  have accepted := resultRow_accepted i t includeTimeBased respond reached
  have written := resultRow_verdict i t reached (resultsOf includeTimeBased respond)
  constructor
  · intro evident
    refine ⟨accepted.mp evident.accepted, fun short => ?_⟩
    have other : verdict ≠ (resultRow i t baseline (resultsOf includeTimeBased respond)).verdict := by
      rw [short, written]
      exact (verdict_ne_error i _).symm
    have failed := reported_iff.mp (evident.verdict other)
    rw [checkRow_error short] at failed
    cases failed
  · rintro ⟨show_, evaluated⟩
    have row_ok := accepted_iff.mp (accepted.mpr show_)
    have notError : (resultRow i t baseline (resultsOf includeTimeBased respond)).verdict ≠ .str "error" :=
      written ▸ verdict_ne_error i _
    obtain ⟨verdictSame, signalsSame⟩ := (checkRow_ok notError).mp row_ok
    refine ⟨accepted.mpr show_, fun other => ?_, fun other => ?_⟩
    · refine reported_iff.mpr (Bool.eq_false_iff.mpr fun passed => other ?_)
      exact ((checkRow_ok evaluated).mp passed).1.trans verdictSame.symm
    · have still : ({ resultRow i t baseline (resultsOf includeTimeBased respond) with signals := signals } :
          ResultRow).verdict ≠ .str "error" := notError
      refine reported_iff.mpr (Bool.eq_false_iff.mpr fun passed => other ?_)
      exact ((checkRow_ok still).mp passed).2.trans signalsSame.symm

end

/-! ## A late error -/

def plainInterpreter : Interpreter where
  round q := q
  fixed _ := ""
  classes := ⟨fun c => c.isAlphanum || c == '_', fun c => c == ' ' || c == '\n', Char.isDigit⟩
  lower text := text.map Char.toLower
  strip text := text

def plainTarget : Target := ⟨"https://api.test/users?id=1", "id", .null⟩

def plainResponse : Response := ⟨some 200, 12, 100, "[1]".toList, ""⟩

/-- An error that stands behind 2048 other characters. -/
def lateError : String → Response
  | "quote_break" => { plainResponse with bodySample := List.replicate 2048 ' ' ++ "SQLSTATE".toList }
  | _ => plainResponse

/-- A row with short bodies is accepted, and reported with other signals. -/
theorem plainRow_evident : TamperEvident plainInterpreter
    (resultRow plainInterpreter plainTarget plainResponse (resultsOf false fun _ => plainResponse)) (.str "signal") [] := by
  refine (tamperEvident_iff plainInterpreter plainTarget false (fun _ => plainResponse) rfl (.str "signal") []).mpr
    ⟨previewsShow_of_short fun r mem => ?_, by decide⟩
  rw [mem_resultsOf mem]
  decide

/-- No error text begins with a space. -/
theorem space_starts_no_error : (errorRe plainInterpreter.classes).all (cannotStart ' ') = true := by
  decide +kernel

theorem search_spaces (n : ℕ) (text : List Char) :
    search plainInterpreter.classes (errorRe plainInterpreter.classes) (List.replicate n ' ' ++ text) =
      searchFrom plainInterpreter.classes (errorRe plainInterpreter.classes) (lastOf none (List.replicate n ' ')) text :=
  searchFrom_replicate _ space_starts_no_error n none text

/-- The tool's own row of a late error is a mismatch. -/
theorem lateError_rejected : ¬ ∀ verdict signals, TamperEvident plainInterpreter
    (resultRow plainInterpreter plainTarget plainResponse (resultsOf false lateError)) verdict signals := by
  intro evident
  have accepted := (evident .null []).accepted
  have shown := (resultRow_accepted plainInterpreter plainTarget false lateError rfl).mp accepted
  have last : lastOf none (List.replicate 2048 ' ') = some ' ' := by
    rw [lastOf, List.getLast?_replicate]
    simp
  have hit : (search plainInterpreter.classes (errorRe plainInterpreter.classes) (lateError "quote_break").bodySample).isSome := by
    rw [lateError, search_spaces, last]
    decide +kernel
  have inside : ("quote_break", "'", lateError "quote_break") ∈ resultsOf false lateError :=
    List.mem_map.mpr ⟨("quote_break", "'"), List.mem_append_left _ (by decide), rfl⟩
  obtain ⟨r, mem, found⟩ := shown.errors.mp ⟨_, inside, hit⟩
  rw [mem_resultsOf mem] at found
  -- the preview of a late error ends before the error begins
  by_cases late : r.1 = "quote_break"
  · have preview : (lateError r.1).preview = List.replicate 2048 ' ' ++ [] := by
      rw [late, Response.preview, lateError, List.take_left' List.length_replicate, List.append_nil]
    rw [preview, search_spaces, last] at found
    exact absurd found (by decide +kernel)
  · have plain : (lateError r.1).preview = "[1]".toList := by
      unfold lateError
      split
      · next same => exact absurd same late
      · decide
    rw [plain] at found
    exact absurd found (by decide +kernel)

end ApiManger.Whitehat
