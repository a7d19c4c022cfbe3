import Mathlib.Algebra.Order.Field.Rat
import Mathlib.Tactic.NormNum
import ApiManger.Python.JsonText

/-!
# Rule specifications

`RuleSpec` of `apiAnalysis/rule/framework.py`: how a mapping is read (`from_mapping`) and how a specification
is printed (`to_mapping`). The arguments of a predicate, a feature or an adapter are what `dict(...)` makes
of a mapping or of a list of pairs, so a key need not be a text.
-/

namespace ApiManger.Rules
open Python

/-- What the framework raises. `raised` is an exception that it does not raise itself. -/
inductive RuleError where
  | protocol (message : String)
  | budget
  | unknownPredicate (name : String)
  | unknownOutputAdapter (name : String)
  | raised (cls : String)

/-! ## Numbers -/

def digitsValue (cs : List Char) : ℕ := cs.foldl (fun n c => 10 * n + (c.toNat - 48)) 0

/-- The number a decimal text writes: an optional sign, digits, a fraction, an exponent. -/
def decimal? (text : String) : Option ℚ :=
  let signed := readSign text.toList
  (readWhole signed.2).bind fun whole =>
    let fraction := readFraction whole.2
    let exponent := readExponent fraction.2
    if exponent.2 = [] then
      let digits : ℚ := digitsValue (whole.1 ++ fraction.1.drop 1)
      let scaled := digits / 10 ^ (fraction.1.length - 1)
      let power := 10 ^ digitsValue ((exponent.1.drop 1).filter Char.isDigit)
      let value := if '-' ∈ exponent.1 then scaled / power else scaled * power
      some (if signed.1 = [] then value else -value)
    else none

/-- A float by the text `json.dumps` writes for it, with the number that text writes. -/
structure FloatText where
  text : String
  value : ℚ
  reads : decimal? text = some value
  deriving DecidableEq

/-- The float of a text; none for `NaN` and the infinities. -/
def FloatText.ofText? (text : String) : Option FloatText :=
  match h : decimal? text with
  | some value => some ⟨text, value, h⟩
  | none => none

theorem FloatText.ofText?_text (x : FloatText) : ofText? x.text = some x := by
  unfold ofText?
  split
  · rename_i value h
    have same : value = x.value := Option.some.inj (h.symm.trans x.reads)
    subst same
    rfl
  · rename_i h
    rw [x.reads] at h
    cases h

theorem FloatText.text_of {text : String} {x : FloatText} (h : ofText? text = some x) : x.text = text := by
  unfold ofText? at h
  split at h
  · cases h
    rfl
  · cases h

@[ext] theorem FloatText.ext {x y : FloatText} (h : x.text = y.text) : x = y :=
  Option.some.inj ((ofText?_text x).symm.trans ((congrArg ofText? h).trans (ofText?_text y)))

/-! ## Data -/

/-- `dict(...)` of a document: its entries. -/
abbrev Arguments := List (Json × Json)

structure PredicateCall where
  name : String
  args : Arguments
  deriving DecidableEq

structure ScoreFeature where
  predicate : PredicateCall
  weight : FloatText
  deriving DecidableEq

structure RuleScope where
  sameProject : Bool := false
  sameEnvironment : Bool := false
  principalRelation : String := "any"
  deriving DecidableEq

structure RuleSafety where
  network : String
  mutation : String
  maxMatches : ℤ
  deriving DecidableEq

structure EmitSpec where
  adapter : String
  args : Arguments
  deriving DecidableEq

structure RuleSpec where
  schemaVersion : String
  ruleId : String
  version : ℤ
  kind : String
  enabled : Bool
  scope : RuleScope
  inputs : List String
  predicates : List PredicateCall
  scoreBase : FloatText
  scoreFeatures : List ScoreFeature
  emit : EmitSpec
  safety : RuleSafety
  deriving DecidableEq

/-! ## Names that are missing -/

/-- `sorted(set(a) - set(b))`. -/
def sortedMissing (a b : List String) : List String :=
  (a.dedup.filter fun x => !b.contains x).insertionSort (· ≤ ·)

theorem sortedMissing_isEmpty {a b : List String} : (sortedMissing a b).isEmpty = true ↔ ∀ x ∈ a, x ∈ b := by
  rw [List.isEmpty_iff_length_eq_zero, sortedMissing, List.length_insertionSort, List.length_eq_zero_iff,
    List.filter_eq_nil_iff]
  simp

end ApiManger.Rules
