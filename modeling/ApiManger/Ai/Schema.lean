import ApiManger.Python.Text
import Mathlib.Data.Rat.Defs
import Mathlib.Algebra.Order.Field.Rat
import Mathlib.Data.String.Basic

/-!
# AI judgements

`AiJudgeResult.from_payload`: what a model answered, with the verdict that is kept of it. From the
second version of the schema on a verdict needs a justification.
-/

namespace ApiManger.Ai
open Python

def verdictMap : List (String × String) :=
  [("potential_vuln", "potential_vuln"), ("vuln", "potential_vuln"), ("high_risk", "potential_vuln"),
    ("no_vuln", "no_vuln"), ("safe", "no_vuln"), ("need_review", "need_review"), ("review", "need_review")]

def justificationRequiredFrom : String := "v2"

def reasonIncompleteJustification : Json := .str "AI_JUSTIFICATION_INCOMPLETE"

/-- `str(value or "").strip().lower()` -/
def word (value : Json) : String := lower (stripped value.strOrEmpty)

@[irreducible] def normalizeVerdict (value : Json) : String := (verdictMap.lookup (word value)).getD "need_review"

def normalizeRiskLevel (value : Json) : String :=
  if ["high", "medium", "low"].contains (word value) then word value else "medium"

/-- `_normalize_confidence`; `float` gives the number of a value, where it has one. -/
def normalizeConfidence (float : Json → Option ℚ) (value : Json) : ℚ :=
  match float value with
  | none => 1 / 2
  | some num => max 0 (min 1 (if 1 < num then num / 100 else num))

/-- `value in (None, "", [], {})` -/
def isBlank (value : Json) : Bool := [.null, .str "", .arr [], .obj []].contains value

def firstText (payload : Dict) : List String → String
  | [] => ""
  | key :: keys => match Dict.get payload key with
    | .str text => if stripped text ≠ "" then stripped text
      else if text ≠ "" then stripped text else firstText payload keys
    | value => if isBlank value then firstText payload keys else stripped value.pyStr

/-- The parts of a text with commas. -/
def listed (text : String) : List String := ((split text ',').map stripped).filter (· ≠ "")

def normalizeRuleList : Json → List String
  | .str text => listed text
  | .arr items => (items.map fun item => stripped item.pyStr).filter (· ≠ "")
  | _ => []

@[irreducible] def schemaAtLeast (promptVer floor : String) : Bool := decide (floor ≤ lower (stripped promptVer))

/-- `a or b` -/
def orElse (a b : Json) : Json := if a.truthy then a else b

def givenVerdict (payload : Dict) : Json :=
  orElse (Dict.get payload "result") (orElse (Dict.get payload "verdict") (Dict.get payload "AI研判结论"))

def observedAction (payload : Dict) : String := firstText payload ["observed_action", "actual_action", "实际操作"]

def consequence (payload : Dict) : String := firstText payload ["consequence", "effect", "成功后的后果", "实际后果"]

def matchedRules (payload : Dict) : List String :=
  normalizeRuleList (orElse (Dict.get payload "matched_rules") (orElse (Dict.get payload "rules") (Dict.get payload "命中规则")))

/-- All three parts of the justification are there. -/
@[irreducible] def justified (payload : Dict) : Bool :=
  observedAction payload ≠ "" && consequence payload ≠ "" && !(matchedRules payload).isEmpty

/-- `list(value)` -/
def toList : Json → Except PyError (List Json)
  | .arr items => .ok items
  | .obj fields => .ok (fields.map fun e => .str e.1)
  | .str text => .ok (text.toList.map fun c => .str (String.ofList [c]))
  | _ => .error (.typeError "object is not iterable")

/-- The reason codes that the payload gives, ten at most. -/
@[irreducible] def givenCodes (payload : Dict) : Except PyError (List Json) :=
  let codes := orElse (Dict.get payload "reason_codes") (orElse (Dict.get payload "codes") (.arr []))
  (toList (match codes with
    | .str text => .arr ((listed text).map .str)
    | codes => codes)).map (·.take 10)

structure AiJudgeResult where
  verdict : String
  riskLevel : String
  confidence : ℚ
  reason : String
  reasonCodes : List Json
  evidence : Dict
  nextAction : String
  modelVer : String
  promptVer : String
  rawText : String
  observedAction : String
  consequence : String
  matchedRules : List String
  justificationComplete : Bool
  binding : String := "associated"
  callId : String := ""
  unassociatedReason : String := ""
  inputSha256 : String
  backgroundTruncated : Bool

/-- The verdict and the reason codes after the check of the justification. -/
@[irreducible] def decided (payload : Dict) (promptVer : String) (codes : List Json) : String × List Json :=
  if schemaAtLeast promptVer justificationRequiredFrom && !justified payload then
    ("need_review", if codes.contains reasonIncompleteJustification then codes
      else (codes ++ [reasonIncompleteJustification]).take 10)
  else (normalizeVerdict (givenVerdict payload), codes)

def fromPayload (float : Json → Option ℚ) (payload : Dict) (promptVer rawText inputSha256 : String)
    (backgroundTruncated : Bool) : Except PyError AiJudgeResult := do
  let codes ← givenCodes payload
  return {
    verdict := (decided payload promptVer codes).1
    riskLevel := normalizeRiskLevel (orElse (Dict.get payload "risk_level") (orElse (Dict.get payload "risk") (.str "medium")))
    confidence := normalizeConfidence float ((Dict.get? payload "confidence").getD (.float "0.5"))
    reason := firstChars (orElse (Dict.get payload "reason") (orElse (Dict.get payload "AI研判原因") (.str ""))).pyStr 1000
    reasonCodes := (decided payload promptVer codes).2
    evidence := match Dict.get payload "evidence" with
      | .obj fields => fields
      | _ => []
    nextAction := firstChars (orElse (Dict.get payload "next_action") (.str "manual_review")).pyStr 100
    modelVer := firstChars (orElse (Dict.get payload "model_ver") (orElse (Dict.get payload "model") (.str ""))).pyStr 100
    promptVer
    rawText := firstChars rawText 4000
    observedAction := firstChars (observedAction payload) 1000
    consequence := firstChars (consequence payload) 1000
    matchedRules := (matchedRules payload).take 10
    justificationComplete := justified payload
    inputSha256
    backgroundTruncated }

/-! ## Versions -/

/-- The first digit of a number. -/
def leadingDigit (n : ℕ) : Char := (Nat.toDigits 10 n).headD '0'

/-- The name of a version. -/
def version (n : ℕ) : String := "v" ++ toString n

theorem version_chars (n : ℕ) : (version n).toList = 'v' :: Nat.toDigits 10 n := by
  rw [version, Nat.toString_eq_ofList_toDigits, String.toList_append, String.toList_ofList, String.toList_ofList]
  rfl

/-- The name of a version is in lower case and has no blanks. -/
theorem lower_stripped_version (n : ℕ) : lower (stripped (version n)) = version n := by
  have digits : ∀ c ∈ Nat.toDigits 10 n, c.isDigit = true :=
    fun c mem => Nat.isDigit_of_mem_toDigits (by decide) (by decide) mem
  have bounds : ∀ c : Char, c.isDigit = true → 48 ≤ c.toNat ∧ c.toNat ≤ 57 := by
    intro c digit
    simp only [Char.isDigit, Bool.and_eq_true, decide_eq_true_eq] at digit
    exact ⟨UInt32.le_iff_toNat_le.mp digit.1, UInt32.le_iff_toNat_le.mp digit.2⟩
  have solid : ∀ c ∈ (version n).toList, isSpace c = false := by
    intro c mem
    rw [version_chars] at mem
    rcases List.mem_cons.mp mem with rfl | mem
    · rfl
    · have := bounds c (digits c mem)
      unfold isSpace
      simp only [Bool.or_eq_false_iff, Bool.and_eq_false_iff, decide_eq_false_iff_not, beq_eq_false_iff_ne]
      omega
  have lowers : (version n).toList.map Char.toLower = (version n).toList := by
    have each : ∀ c ∈ (version n).toList, c.toLower = c := by
      intro c mem
      rw [version_chars] at mem
      rcases List.mem_cons.mp mem with rfl | mem
      · rfl
      · have small := bounds c (digits c mem)
        unfold Char.toLower
        rw [dif_neg]
        rintro ⟨above, -⟩
        have above := UInt32.le_iff_toNat_le.mp above
        have capital : 'A'.val.toNat = 65 := rfl
        change 'A'.val.toNat ≤ c.toNat at above
        omega
    rw [List.map_congr_left each, List.map_id']
  rw [stripped_eq_self solid, lower, lowers, String.ofList_toList]

/-- From a leading two on, a version compares as at least the second one. -/
theorem schemaAtLeast_version (n : ℕ) : schemaAtLeast (version n) justificationRequiredFrom = true ↔ '2' ≤ leadingDigit n := by
  unfold schemaAtLeast
  rw [lower_stripped_version, decide_eq_true_iff, ← not_lt, String.lt_iff, version_chars]
  have second : justificationRequiredFrom.toList = ['v', '2'] := rfl
  rw [second, leadingDigit]
  cases digits : Nat.toDigits 10 n with
  | nil => exact absurd digits Nat.toDigits_ne_nil
  | cons d rest =>
    rw [List.headD_cons, List.cons_lt_cons_iff, List.cons_lt_cons_iff]
    have none_ : ¬rest < [] := List.not_lt_nil rest
    constructor
    · intro later
      by_contra small
      exact later (.inr ⟨rfl, .inl (not_le.mp small)⟩)
    · rintro large (before | ⟨-, before | ⟨-, before⟩⟩)
      · exact lt_irrefl _ before
      · exact absurd before (not_lt.mpr large)
      · exact none_ before

/-! ## Justification -/

section
variable {float : Json → Option ℚ} {payload : Dict} {promptVer rawText inputSha256 : String} {backgroundTruncated : Bool}

/-- What is returned has the verdict and the codes that were decided. -/
theorem fromPayload_ok {result : AiJudgeResult}
    (returned : fromPayload float payload promptVer rawText inputSha256 backgroundTruncated = .ok result) :
    ∃ codes, givenCodes payload = .ok codes ∧ result.verdict = (decided payload promptVer codes).1 ∧
      result.reasonCodes = (decided payload promptVer codes).2 := by
  obtain ⟨codes, given, rest⟩ := bind_eq_ok.mp returned
  obtain rfl := Except.ok.inj rest
  exact ⟨codes, given, rfl, rfl⟩

theorem fromPayload_of_codes (float : Json → Option ℚ) (rawText inputSha256 : String) (backgroundTruncated : Bool)
    {codes : List Json} (given : givenCodes payload = .ok codes) (promptVer : String) :
    ∃ result, fromPayload float payload promptVer rawText inputSha256 backgroundTruncated = .ok result ∧
      result.verdict = (decided payload promptVer codes).1 ∧ result.reasonCodes = (decided payload promptVer codes).2 := by
  refine ⟨_, bind_eq_ok.mpr ⟨codes, given, rfl⟩, rfl, rfl⟩

theorem givenCodes_length {codes : List Json} (given : givenCodes payload = .ok codes) : codes.length ≤ 10 := by
  unfold givenCodes at given
  obtain ⟨all, _, rfl⟩ := map_eq_ok.mp given
  rw [List.length_take]
  omega

/-- Only recognised words give a verdict of their own. -/
theorem recognised_of_ne {value : Json} (other : normalizeVerdict value ≠ "need_review") :
    word value ∈ verdictMap.map (·.1) := by
  unfold normalizeVerdict at other
  cases found : verdictMap.lookup (word value) with
  | none =>
    rw [found] at other
    exact (other rfl).elim
  | some verdict =>
    obtain ⟨before, after, here, _⟩ := List.lookup_eq_some_iff.mp found
    rw [here, List.map_append, List.map_cons]
    exact List.mem_append_right _ (.head _)

theorem decided_recognised {codes : List Json} (other : (decided payload promptVer codes).1 ≠ "need_review") :
    word (givenVerdict payload) ∈ verdictMap.map (·.1) := by
  unfold decided at other
  split at other
  · exact (other rfl).elim
  · exact recognised_of_ne other

end

/-- A verdict without justification is kept for review and says so, and other verdicts come from recognised words. -/
structure ReviewsUnjustified (float : Json → Option ℚ) (payload : Dict) (n : ℕ) (rawText inputSha256 : String)
    (backgroundTruncated : Bool) : Prop where
  lacking : 2 ≤ n → justified payload = false →
    ∃ result, fromPayload float payload (version n) rawText inputSha256 backgroundTruncated = .ok result ∧
      result.verdict = "need_review" ∧ reasonIncompleteJustification ∈ result.reasonCodes
  recognised : ∀ promptVer result, fromPayload float payload promptVer rawText inputSha256 backgroundTruncated = .ok result →
    result.verdict ≠ "need_review" → word (givenVerdict payload) ∈ verdictMap.map (·.1)

/-- The codes are a list, and the reason is one of the first ten or there is room for it; where the number of the
version starts with a one, the verdict is for review and the reason is among the codes already. -/
def ReasonFits (payload : Dict) (n : ℕ) : Prop :=
  ∃ codes, givenCodes payload = .ok codes ∧
    (('2' ≤ leadingDigit n ∧ (reasonIncompleteJustification ∈ codes ∨ codes.length < 10)) ∨
      normalizeVerdict (givenVerdict payload) = "need_review" ∧ reasonIncompleteJustification ∈ codes)

/-- The decision on a payload without justification. -/
theorem decided_iff {payload : Dict} {codes : List Json} (n : ℕ) (bounded : codes.length ≤ 10)
    (lacks : justified payload = false) :
    ((decided payload (version n) codes).1 = "need_review" ∧
        reasonIncompleteJustification ∈ (decided payload (version n) codes).2) ↔
      (('2' ≤ leadingDigit n ∧ (reasonIncompleteJustification ∈ codes ∨ codes.length < 10)) ∨
        normalizeVerdict (givenVerdict payload) = "need_review" ∧ reasonIncompleteJustification ∈ codes) := by
  unfold decided
  rw [lacks, Bool.not_false, Bool.and_true]
  by_cases later : schemaAtLeast (version n) justificationRequiredFrom = true
  · rw [if_pos later]
    have two := (schemaAtLeast_version n).mp later
    dsimp only
    by_cases there : reasonIncompleteJustification ∈ codes
    · rw [if_pos (List.contains_iff_mem.mpr there)]
      exact ⟨fun _ => .inl ⟨two, .inl there⟩, fun _ => ⟨rfl, there⟩⟩
    · rw [if_neg fun found => there (List.contains_iff_mem.mp found)]
      constructor
      · rintro ⟨-, mem⟩
        refine .inl ⟨two, .inr ?_⟩
        by_contra full
        have all : codes.length = 10 := by omega
        rw [List.take_append_of_le_length (by omega)] at mem
        exact there (List.mem_of_mem_take mem)
      · rintro (⟨-, found | room⟩ | ⟨-, found⟩)
        · exact absurd found there
        · refine ⟨rfl, ?_⟩
          rw [List.take_of_length_le (by rw [List.length_append, List.length_singleton]; omega)]
          exact List.mem_append_right _ (.head _)
        · exact absurd found there
  · rw [if_neg later]
    constructor
    · exact fun found => .inr found
    · rintro (⟨two, -⟩ | found)
      · exact absurd ((schemaAtLeast_version n).mpr two) later
      · exact found

end ApiManger.Ai
