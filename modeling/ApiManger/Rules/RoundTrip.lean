import ApiManger.Rules.Printed

/-!
# Specifications and their digests

A specification that was accepted is printed, read back from its mapping and from its canonical JSON, and keeps its
digest; two specifications have one canonical JSON just where they are equal but for the order of the entries of
their arguments.
-/

namespace ApiManger.Rules
open Python

/-! ## The floats of integers -/

theorem digitsValue_toDigits (n : ℕ) : digitsValue (Nat.toDigits 10 n) = n :=
  Nat.ofDigitChars_ten_toDigits

/-- The digits of a number before a point. -/
theorem readWhole_point (n : ℕ) (rest : List Char) :
    readWhole (Nat.toDigits 10 n ++ '.' :: rest) = some (Nat.toDigits 10 n, '.' :: rest) := by
  have whole := readWhole_toDigits n
  have digits := digits_isDigit n
  cases here : Nat.toDigits 10 n with
  | nil => exact absurd here Nat.toDigits_ne_nil
  | cons c cs =>
    rw [here] at whole digits
    rw [List.cons_append, readWhole]
    split
    · next zero =>
      rw [beq_iff_eq.mp zero] at here ⊢
      rw [toDigits_head n cs here]
      rfl
    · have tail : ∀ d ∈ cs, d.isDigit = true := fun d inside => digits d (.tail _ inside)
      have stop : ∀ d, ('.' :: rest).head? = some d → d.isDigit = false := by
        intro d first
        rw [← Option.some.inj first]
        decide
      rw [if_pos (digits c (.head _)), takeWhile_append_stop tail stop, dropWhile_append_stop tail stop]

theorem readSign_toDigits (n : ℕ) (rest : List Char) :
    readSign (Nat.toDigits 10 n ++ rest) = ([], Nat.toDigits 10 n ++ rest) := by
  have digits := digits_isDigit n
  cases here : Nat.toDigits 10 n with
  | nil => exact absurd here Nat.toDigits_ne_nil
  | cons c cs =>
    have unsigned : c ≠ '-' := by
      rintro rfl
      exact absurd (digits '-' (here ▸ List.mem_cons_self)) (by decide)
    rw [List.cons_append, readSign, if_neg (by simpa using unsigned)]

/-- The sign and the digits of the float of an integer. -/
theorem toList_floatText (n : ℤ) : ∃ sign : List Char, (toString n ++ ".0").toList = sign ++ (Nat.toDigits 10 n.natAbs ++ ['.', '0']) ∧
    readSign (sign ++ (Nat.toDigits 10 n.natAbs ++ ['.', '0'])) = (sign, Nat.toDigits 10 n.natAbs ++ ['.', '0']) ∧
    (if sign = [] then (n.natAbs : ℚ) else -n.natAbs) = n := by
  rw [String.toList_append]
  rcases toString_int n with ⟨text, value⟩ | ⟨text, value⟩
  · refine ⟨[], ?_, readSign_toDigits _ _, ?_⟩
    · rw [text]
      rfl
    · rw [if_pos rfl]
      conv_rhs => rw [value]
      exact (Int.cast_natCast n.natAbs).symm
  · refine ⟨['-'], ?_, rfl, ?_⟩
    · rw [text]
      rfl
    · rw [if_neg (List.cons_ne_nil _ _)]
      exact_mod_cast value.symm

theorem splitNumber_floatText (n : ℤ) :
    ∃ whole, splitNumber (toString n ++ ".0").toList = some (whole, ['.', '0'], []) := by
  obtain ⟨sign, text, signed, -⟩ := toList_floatText n
  refine ⟨sign ++ Nat.toDigits 10 n.natAbs, ?_⟩
  rw [text, splitNumber, signed]
  dsimp only
  rw [readWhole_point]
  rfl

/-- The float of an integer has its value. -/
theorem decimal?_floatText (n : ℤ) : decimal? (toString n ++ ".0") = some (n : ℚ) := by
  obtain ⟨sign, text, signed, value⟩ := toList_floatText n
  have digits : digitsValue (Nat.toDigits 10 n.natAbs ++ ['0']) = 10 * n.natAbs := by
    have tail : digitsValue (Nat.toDigits 10 n.natAbs ++ ['0']) = 10 * digitsValue (Nat.toDigits 10 n.natAbs) := by
      rw [digitsValue, List.foldl_append]
      rfl
    rw [tail, digitsValue_toDigits]
  rw [decimal?, text, signed]
  dsimp only
  rw [readWhole_point, Option.bind_some]
  have fraction : readFraction ['.', '0'] = (['.', '0'], []) := rfl
  have exponent : readExponent [] = ([], []) := rfl
  dsimp only
  rw [fraction, exponent, if_pos rfl, List.drop_one, List.tail_cons, digits, ← value]
  have ten : ((10 * n.natAbs : ℕ) : ℚ) / 10 ^ (['.', '0'].length - 1) = n.natAbs := by
    push_cast
    norm_num
  simp only [List.not_mem_nil, if_false, List.drop_nil, List.filter_nil]
  rw [ten]
  simp [digitsValue]

/-! ## What was accepted -/

variable {message : String} {value : Json}

theorem check_eq_ok {passes : Bool} {u : Unit} : check passes message = .ok u ↔ passes = true := by
  unfold check
  split_ifs with holds <;> simp [holds]

theorem requireExactKeys_obj {allowed required : List String} {label : String} {fields : Dict}
    (passed : requireExactKeys value allowed required label = .ok fields) : value = .obj fields := by
  cases value with
  | obj entries =>
    simp only [requireExactKeys, bind_eq_ok] at passed
    obtain ⟨_, _, _, _, same⟩ := passed
    rw [Except.ok.inj same]
  | _ => cases passed

theorem parseName_eq {accepts : String → Bool} {s : String}
    (parsed : parseName accepts message value = .ok s) : accepts s = true := by
  unfold parseName at parsed
  split_ifs at parsed with fits
  cases parsed
  exact fits

theorem parseInt_eq {within : ℤ → Bool} {n : ℤ}
    (parsed : parseInt within message value = .ok n) : within n = true := by
  cases value with
  | int m =>
    simp only [parseInt] at parsed
    split_ifs at parsed with fits
    cases parsed
    exact fits
  | _ => cases parsed

/-- A number that was accepted is within its bounds, and is a document's float or that of an integer. -/
theorem parseNumber_eq {low high : ℚ} {x : FloatText}
    (parsed : parseNumber low high message value = .ok x) : (low ≤ x.value ∧ x.value ≤ high) ∧
      (value = .float x.text ∨ ∃ n : ℤ, x.text = toString n ++ ".0" ∧ x.value = n) := by
  unfold parseNumber at parsed
  dsimp only at parsed
  split at parsed
  · next y number =>
    split_ifs at parsed with bounds
    cases parsed
    refine ⟨bounds, ?_⟩
    cases value with
    | int n =>
      have text := FloatText.text_of number
      refine .inr ⟨n, text, ?_⟩
      exact Option.some.inj (x.reads.symm.trans (text ▸ decimal?_floatText n))
    | float t => exact .inl (congrArg Json.float (FloatText.text_of number).symm)
    | _ => cases number
  · cases parsed

theorem parseList_eq {items : List Json}
    (parsed : parseList message value = .ok items) : value = .arr items := by
  cases value with
  | arr given =>
    cases parsed
    rfl
  | _ => cases parsed

/-! ## Arguments that are documents -/

section
variable {float : String → String}

/-- The values of the arguments are documents, and no two of their keys are equal. -/
structure Arguments.AreDocuments (float : String → String) (args : Arguments) : Prop where
  values : ∀ e ∈ args, e.2.isDocument float = true
  keys : (args.map (·.1)).Pairwise fun a b => a.pyEq b = false

variable {args : Arguments} {value : Json} {r : RuleSpec}

theorem Arguments.AreDocuments.obj (documents : args.AreDocuments float) {d : Dict}
    (texts : args.fields? = some d) : (Json.obj d).isDocument float = true := by
  obtain rfl := eq_entriesOf texts
  obtain ⟨values, keys⟩ := documents
  refine isDocument_obj.mpr ⟨?_, fun e listed => values (.str e.1, e.2) (List.mem_map.mpr ⟨e, listed, rfl⟩)⟩
  rw [entriesOf, List.map_map, List.pairwise_map] at keys
  rw [List.Nodup, List.pairwise_map]
  refine keys.imp fun {a b} apart same => ?_
  simp only [Function.comp_apply, Json.pyEq, same, beq_self_eq_true, Bool.true_eq_false] at apart

theorem areDocuments_entriesOf {d : Dict} (document : (Json.obj d).isDocument float = true) :
    (entriesOf d).AreDocuments float := by
  obtain ⟨distinct, values⟩ := isDocument_obj.mp document
  constructor
  · intro e listed
    obtain ⟨e, inside, rfl⟩ := List.mem_map.mp listed
    exact values e inside
  · rw [entriesOf, List.map_map, List.pairwise_map]
    rw [List.Nodup, List.pairwise_map] at distinct
    refine distinct.imp fun {a b} apart => ?_
    simpa [Json.pyEq] using apart

theorem Arguments.AreDocuments.set (documents : args.AreDocuments float) {pair : Json × Json}
    (document : pair.2.isDocument float = true) : (args.set pair).AreDocuments float := by
  obtain ⟨values, keys⟩ := documents
  unfold Arguments.set
  split_ifs with there
  · constructor
    · intro e listed
      obtain ⟨old, inside, rfl⟩ := List.mem_map.mp listed
      split_ifs
      · exact document
      · exact values old inside
    · rw [List.map_map]
      refine (List.map_congr_left fun e _ => ?_) ▸ keys
      rw [Function.comp_apply]
      split_ifs <;> rfl
  · constructor
    · intro e listed
      rcases List.mem_append.mp listed with inside | last
      · exact values e inside
      · rw [List.mem_singleton.mp last]
        exact document
    · rw [List.map_append, List.map_singleton, List.pairwise_append]
      refine ⟨keys, List.pairwise_singleton _ _, fun a listed b last => ?_⟩
      obtain ⟨e, inside, rfl⟩ := List.mem_map.mp listed
      rw [List.mem_singleton.mp last]
      rw [Bool.not_eq_true, List.any_eq_false] at there
      exact Bool.eq_false_iff.mpr (there e inside)

theorem pairOf_document {item : Json} {pair : Json × Json} (document : item.isDocument float = true)
    (paired : pairOf item = .ok pair) : pair.2.isDocument float = true := by
  unfold pairOf at paired
  split at paired
  · next key value =>
    split_ifs at paired
    cases paired
    exact isDocument_arr.mp document value (by simp)
  · cases paired
  · split at paired
    · cases paired
      rfl
    · cases paired
  · cases paired
    rfl
  · cases paired
  · cases paired

theorem areDocuments_nil : Arguments.AreDocuments float [] where
  values _ listed := nomatch listed
  keys := .nil

theorem foldlM_areDocuments {items : List Json} (elements : ∀ item ∈ items, item.isDocument float = true)
    {front : Arguments} (start : front.AreDocuments float)
    (read : items.foldlM (fun d item => (pairOf item).map (Arguments.set d)) front = .ok args) :
    args.AreDocuments float := by
  induction items generalizing front with
  | nil =>
    cases read
    exact start
  | cons item rest ih =>
    rw [List.foldlM_cons] at read
    obtain ⟨next, turn, read⟩ := bind_eq_ok.mp read
    obtain ⟨pair, paired, rfl⟩ := map_eq_ok.mp turn
    have here := pairOf_document (elements item List.mem_cons_self) paired
    exact ih (fun value listed => elements value (List.mem_cons_of_mem item listed)) (start.set here) read

theorem dictOf_areDocuments (document : value.isDocument float = true)
    (read : dictOf value = .ok args) : args.AreDocuments float := by
  unfold dictOf at read
  split_ifs at read with empty
  · cases read
    exact areDocuments_nil
  · cases value with
    | obj fields =>
      cases read
      exact areDocuments_entriesOf document
    | arr items => exact foldlM_areDocuments (isDocument_arr.mp document) areDocuments_nil read
    | _ => cases read

/-! ## Specifications that are documents -/

theorem get_document {fields : Dict} (document : (Json.obj fields).isDocument float = true) (key : String) :
    (Dict.get fields key).isDocument float = true := by
  unfold Dict.get Dict.get?
  cases found : fields.find? (·.1 == key) with
  | none => rfl
  | some e => exact (isDocument_obj.mp document).2 e (List.mem_of_find?_eq_some found)

/-- The arguments and the numbers of a specification are documents. -/
structure RuleSpec.IsDocument (float : String → String) (r : RuleSpec) : Prop where
  predicates : ∀ c ∈ r.predicates, c.args.AreDocuments float
  base : isFloat float r.scoreBase.text = true
  features : ∀ f ∈ r.scoreFeatures, f.predicate.args.AreDocuments float ∧ isFloat float f.weight.text = true
  emit : r.emit.args.AreDocuments float

/-- The reader of floats reads those of -1, 0 and 1 as they are written. -/
def ReadsUnits (float : String → String) : Prop :=
  ∀ n : ℤ, -1 ≤ n → n ≤ 1 → float (toString n ++ ".0") = toString n ++ ".0"

theorem isFloat_floatText {n : ℤ} (same : float (toString n ++ ".0") = toString n ++ ".0") :
    isFloat float (toString n ++ ".0") = true := by
  obtain ⟨whole, parts⟩ := splitNumber_floatText n
  simp only [isFloat, parts, same, beq_self_eq_true]
  simp

theorem parseNumber_isFloat (units : ReadsUnits float) {low high : ℚ} {message : String} {x : FloatText}
    (document : value.isDocument float = true) (parsed : parseNumber low high message value = .ok x) (above : -1 ≤ low)
    (below : high ≤ 1) : isFloat float x.text = true := by
  obtain ⟨⟨aboveLow, belowHigh⟩, rfl | ⟨n, text, same⟩⟩ := parseNumber_eq parsed
  · exact document
  · rw [same] at aboveLow belowHigh
    rw [text]
    refine isFloat_floatText (units n ?_ ?_)
    · exact_mod_cast above.trans aboveLow
    · exact_mod_cast belowHigh.trans below

/-- What a mapped computation gives comes from the items. -/
theorem mapM_ok_mem {α : Type} {parse : Json → Except RuleError α} {items : List Json} {xs : List α}
    (parsed : items.mapM parse = .ok xs) : ∀ x ∈ xs, ∃ item ∈ items, parse item = .ok x :=
  forall₂_right (mapM_ok parsed)

theorem parsePredicate_eq (float : String → String) {c : PredicateCall} (parsed : parsePredicate value = .ok c) :
    isVersionedName c.name = true ∧ (value.isDocument float = true → c.args.AreDocuments float) := by
  simp only [parsePredicate, bind_eq_ok] at parsed
  obtain ⟨fields, object, name, named, parsed⟩ := parsed
  obtain rfl := requireExactKeys_obj object
  have versioned := parseName_eq named
  split at parsed
  · cases parsed
    exact ⟨versioned, fun _ => areDocuments_nil⟩
  · next entries _ here =>
    cases parsed
    exact ⟨versioned, fun document => areDocuments_entriesOf (here ▸ get_document document "args")⟩
  · cases parsed

theorem parseFeature_eq (float : String → String) {f : ScoreFeature} (parsed : parseFeature value = .ok f) :
    (isVersionedName f.predicate.name = true ∧ -1 ≤ f.weight.value ∧ f.weight.value ≤ 1) ∧
      (ReadsUnits float → value.isDocument float = true →
        f.predicate.args.AreDocuments float ∧ isFloat float f.weight.text = true) := by
  simp only [parseFeature, bind_eq_ok] at parsed
  obtain ⟨fields, object, weight, weighed, name, named, args, read, parsed⟩ := parsed
  obtain rfl := requireExactKeys_obj object
  cases parsed
  refine ⟨⟨parseName_eq named, (parseNumber_eq weighed).1⟩, fun units document => ?_⟩
  exact ⟨dictOf_areDocuments (get_document document "args") read,
    parseNumber_isFloat units (get_document document "weight") weighed le_rfl le_rfl⟩

theorem parseScope_eq {scope : RuleScope} (parsed : parseScope value = .ok scope) :
    principalRelations.contains scope.principalRelation = true := by
  simp only [parseScope, bind_eq_ok, check_eq_ok] at parsed
  obtain ⟨fields, _, project, _, environment, _, _, supported, parsed⟩ := parsed
  cases parsed
  exact supported

theorem parseInputs_eq {inputs : List String} (parsed : parseInputs value = .ok inputs) :
    inputs ≠ [] ∧ ∀ name ∈ inputs, isInputName name = true := by
  cases value with
  | arr items =>
    simp only [parseInputs, bind_eq_ok, check_eq_ok, guard_eq_ok] at parsed
    obtain ⟨_, nonempty, _, _, _, _, names, parsed⟩ := parsed
    cases parsed
    refine ⟨fun empty => ?_, fun name listed => ?_⟩
    · rw [List.map_eq_nil_iff.mp empty] at nonempty
      cases nonempty
    · obtain ⟨item, inside, rfl⟩ := List.mem_map.mp listed
      have accepted := List.all_eq_true.mp names item inside
      unfold textOrEmpty at accepted
      split at accepted
      · exact accepted
      · cases accepted
  | _ => cases parsed

theorem parseScore_eq (float : String → String) {score : FloatText × List ScoreFeature} (parsed : parseScore value = .ok score) :
    (0 ≤ score.1.value ∧ score.1.value ≤ 1) ∧
      (∀ f ∈ score.2, isVersionedName f.predicate.name = true ∧ -1 ≤ f.weight.value ∧ f.weight.value ≤ 1) ∧
      (ReadsUnits float → value.isDocument float = true → isFloat float score.1.text = true ∧
        ∀ f ∈ score.2, f.predicate.args.AreDocuments float ∧ isFloat float f.weight.text = true) := by
  simp only [parseScore, bind_eq_ok] at parsed
  obtain ⟨fields, object, base, based, items, listed, features, read, parsed⟩ := parsed
  obtain rfl := requireExactKeys_obj object
  cases parsed
  have fromItems := mapM_ok_mem read
  refine ⟨(parseNumber_eq based).1, fun f inside => ?_, fun units document => ⟨?_, fun f inside => ?_⟩⟩
  · obtain ⟨item, _, parsed⟩ := fromItems f inside
    exact (parseFeature_eq id parsed).1
  · exact parseNumber_isFloat units (get_document document "base") based (by norm_num) le_rfl
  · obtain ⟨item, there, parsed⟩ := fromItems f inside
    have list := get_document document "features"
    rw [parseList_eq listed] at list
    exact (parseFeature_eq float parsed).2 units (isDocument_arr.mp list item there)

theorem parseEmit_eq (float : String → String) {emit : String × Json} (parsed : parseEmit value = .ok emit) :
    isVersionedName emit.1 = true ∧ (value.isDocument float = true → emit.2.isDocument float = true) := by
  simp only [parseEmit, bind_eq_ok] at parsed
  obtain ⟨fields, object, adapter, named, parsed⟩ := parsed
  obtain rfl := requireExactKeys_obj object
  cases parsed
  exact ⟨parseName_eq named, fun document => get_document document "args"⟩

theorem parseSafety_eq {safety : RuleSafety} (parsed : parseSafety value = .ok safety) :
    safety.network = "forbidden" ∧ safety.mutation = "forbidden" ∧ 1 ≤ safety.maxMatches ∧
      safety.maxMatches ≤ 100000 := by
  simp only [parseSafety, bind_eq_ok, check_eq_ok] at parsed
  obtain ⟨fields, _, _, _, n, counted, parsed⟩ := parsed
  cases parsed
  have bounds := parseInt_eq counted
  simp only [Bool.and_eq_true, decide_eq_true_eq] at bounds
  exact ⟨rfl, rfl, bounds.1, bounds.2⟩

/-- What `from_mapping` accepts passes its checks, and is a document when the mapping is one. -/
theorem fromMapping_eq (float : String → String) (parsed : RuleSpec.fromMapping value = .ok r) :
    r.Accepted ∧ (ReadsUnits float → value.isDocument float = true → r.IsDocument float) := by
  simp only [RuleSpec.fromMapping, bind_eq_ok, check_eq_ok] at parsed
  obtain ⟨fields, object, _, schema, ruleId, named, version, versioned, _, kind, enabled, _, scope, scopeRead, inputs,
    inputsRead, calls, listed, predicates, callsRead, score, scoreRead, emit, emitRead, safety, safetyRead, args, read,
    parsed⟩ := parsed
  obtain rfl := requireExactKeys_obj object
  cases parsed
  have fromCalls := mapM_ok_mem callsRead
  obtain ⟨inputsNe, inputNames⟩ := parseInputs_eq inputsRead
  obtain ⟨base, features, scoreDocument⟩ := parseScore_eq float scoreRead
  obtain ⟨adapter, emitDocument⟩ := parseEmit_eq float emitRead
  obtain ⟨network, mutation, low, high⟩ := parseSafety_eq safetyRead
  constructor
  · refine {
      schema := rfl, ruleId := parseName_eq named, version := ?_, kind := rfl, relation := parseScope_eq scopeRead
      inputs_ne := inputsNe, inputs := inputNames, predicates := ?_, base, features, adapter, network, mutation
      max_low := low, max_high := high }
    · exact of_decide_eq_true (parseInt_eq versioned)
    · intro c inside
      obtain ⟨item, _, parsed⟩ := fromCalls c inside
      exact (parsePredicate_eq id parsed).1
  · intro units document
    obtain ⟨baseFloat, featureDocuments⟩ := scoreDocument units (get_document document "score")
    refine { predicates := ?_, base := baseFloat, features := featureDocuments, emit := ?_ }
    · intro c inside
      obtain ⟨item, there, parsed⟩ := fromCalls c inside
      have list := get_document document "predicates"
      rw [parseList_eq listed] at list
      exact (parsePredicate_eq float parsed).2 (isDocument_arr.mp list item there)
    · exact dictOf_areDocuments (emitDocument (get_document document "emit")) read

/-! ## Round trips -/

/-- Every key of every argument is a text. -/
structure RuleSpec.TextKeys (r : RuleSpec) : Prop where
  predicates : ∀ c ∈ r.predicates, c.args.fields?.isSome
  features : ∀ f ∈ r.scoreFeatures, f.predicate.args.fields?.isSome
  emit : r.emit.args.fields?.isSome

theorem mapM_documents {α : Type} {print : α → Option Json} {xs : List α}
    (each : ∀ x ∈ xs, ∃ doc, print x = some doc ∧ doc.isDocument float = true) :
    ∃ docs, xs.mapM print = some docs ∧ ∀ doc ∈ docs, doc.isDocument float = true := by
  induction xs with
  | nil => exact ⟨[], rfl, List.forall_mem_nil _⟩
  | cons x rest ih =>
    obtain ⟨doc, printed, document⟩ := each x List.mem_cons_self
    obtain ⟨docs, all, documents⟩ := ih fun y listed => each y (List.mem_cons_of_mem _ listed)
    refine ⟨doc :: docs, ?_, List.forall_mem_cons.mpr ⟨document, documents⟩⟩
    rw [List.mapM_cons, printed, all]
    rfl

theorem withArgs_document {front d : Dict} (distinct : (front.map (·.1)).Nodup) (apart : "args" ∉ front.map (·.1))
    (documents : ∀ e ∈ front, e.2.isDocument float = true) (args : (Json.obj d).isDocument float = true) :
    (Json.obj (withArgs front d)).isDocument float = true := by
  rw [isDocument_obj, withArgs]
  split_ifs
  · rw [List.append_nil]
    exact ⟨distinct, documents⟩
  · constructor
    · rw [List.map_append, List.map_singleton, ← List.concat_eq_append]
      exact List.Nodup.concat apart distinct
    · intro e listed
      rcases List.mem_append.mp listed with inside | last
      · exact documents e inside
      · rw [List.mem_singleton.mp last]
        exact args

theorem RuleSpec.toMapping_document (document : r.IsDocument float) (texts : r.TextKeys) :
    ∃ doc, r.toMapping = some doc ∧ doc.isDocument float = true := by
  have predicates : ∀ c ∈ r.predicates, ∃ doc, c.toMapping = some doc ∧ doc.isDocument float = true := by
    intro c listed
    obtain ⟨d, fields⟩ := Option.isSome_iff_exists.mp (texts.predicates c listed)
    refine ⟨_, Option.map_eq_some_iff.mpr ⟨d, fields, rfl⟩, ?_⟩
    exact withArgs_document (by simp) (by simp) (by simp [Json.isDocument]) ((document.predicates c listed).obj fields)
  have features : ∀ f ∈ r.scoreFeatures, ∃ doc, f.toMapping = some doc ∧ doc.isDocument float = true := by
    intro f listed
    obtain ⟨d, fields⟩ := Option.isSome_iff_exists.mp (texts.features f listed)
    obtain ⟨args, weight⟩ := document.features f listed
    refine ⟨_, Option.map_eq_some_iff.mpr ⟨d, fields, rfl⟩, ?_⟩
    exact withArgs_document (by simp) (by simp) (by simp [Json.isDocument, weight]) (args.obj fields)
  obtain ⟨calls, callsPrinted, callsDocuments⟩ := mapM_documents predicates
  obtain ⟨scored, featuresPrinted, featuresDocuments⟩ := mapM_documents features
  obtain ⟨d, fields⟩ := Option.isSome_iff_exists.mp texts.emit
  have emitDocument : (Json.obj (withArgs [("adapter", .str r.emit.adapter)] d)).isDocument float = true :=
    withArgs_document (by simp) (by simp) (by simp [Json.isDocument]) (document.emit.obj fields)
  refine ⟨_, RuleSpec.toMapping_eq callsPrinted featuresPrinted (Option.map_eq_some_iff.mpr ⟨d, fields, rfl⟩), ?_⟩
  have inputs : (Json.arr (r.inputs.map .str)).isDocument float = true := by
    rw [isDocument_arr, List.forall_mem_map]
    exact fun _ _ => rfl
  have score : (Json.obj [("base", .float r.scoreBase.text), ("features", .arr scored)]).isDocument float = true := by
    rw [isDocument_obj]
    refine ⟨by simp, ?_⟩
    simp only [List.forall_mem_cons, isDocument_arr]
    exact ⟨document.base, featuresDocuments, List.forall_mem_nil _⟩
  rw [RuleSpec.document, isDocument_obj]
  refine ⟨by simp, ?_⟩
  simp only [List.forall_mem_cons]
  exact ⟨rfl, rfl, rfl, rfl, rfl, by simp [RuleScope.toMapping, Json.isDocument, Json.haveDocuments], inputs,
    isDocument_arr.mpr callsDocuments, score, emitDocument,
    by simp [RuleSafety.toMapping, Json.isDocument, Json.haveDocuments], List.forall_mem_nil _⟩

theorem Arguments.canonical_canonical (args : Arguments) : args.canonical.canonical = args.canonical := by
  cases texts : args.fields? with
  | none => simp only [Arguments.canonical, texts]
  | some d =>
    have again := Json.obj.inj (Json.canonical_canonical (.obj d))
    rw [eq_entriesOf texts, canonical_entriesOf, canonical_entriesOf, again]

theorem RuleSpec.canonical_canonical (r : RuleSpec) : r.canonical.canonical = r.canonical := by
  have call (c : PredicateCall) : c.canonical.canonical = c.canonical := by
    rw [PredicateCall.canonical, PredicateCall.canonical, Arguments.canonical_canonical]
  have feature (f : ScoreFeature) : f.canonical.canonical = f.canonical := by
    simp only [ScoreFeature.canonical, call]
  simp only [RuleSpec.canonical, List.map_map, Function.comp_def, call, feature, Arguments.canonical_canonical]

/-- The canonical JSON of a printed specification is read as the specification with its arguments in order. -/
theorem RuleSpec.fromJson_canonicalJson {doc : Json} (accepted : r.Accepted) (distinct : r.inputs.Nodup)
    (printed : r.toMapping = some doc) (document : doc.isDocument float = true) :
    fromJson float doc.dumpsCompact = .ok r.canonical := by
  rw [fromJson, loads_dumpsCompact document]
  exact (RuleSpec.readsAs accepted distinct printed).2

/-- Specifications that are the same have the same canonical JSON, and so do no others. -/
theorem RuleSpec.canonicalJson_eq_iff {s : RuleSpec} {doc other : Json} (acceptedR : r.Accepted)
    (acceptedS : s.Accepted) (distinctR : r.inputs.Nodup) (distinctS : s.inputs.Nodup)
    (printedR : r.toMapping = some doc) (printedS : s.toMapping = some other)
    (documentR : doc.isDocument float = true) (documentS : other.isDocument float = true) :
    s.canonicalJson = r.canonicalJson ↔ s.Same r := by
  have texts : s.canonicalJson = r.canonicalJson ↔ other.Same doc := by
    rw [canonicalJson, canonicalJson, printedR, printedS, Option.map_some, Option.map_some, Option.some.injEq]
    exact dumpsCompact_inj documentS documentR
  rw [texts]
  constructor
  · intro same
    have readR := (RuleSpec.readsAs acceptedR distinctR printedR).2
    have readS := (RuleSpec.readsAs acceptedS distinctS printedS).2
    rw [show other.canonical = doc.canonical from same, readR] at readS
    exact (Except.ok.inj readS).symm
  · intro same
    obtain ⟨docR, canonicalR, sameR⟩ := RuleSpec.toMapping_canonical printedR
    obtain ⟨docS, canonicalS, sameS⟩ := RuleSpec.toMapping_canonical printedS
    rw [show s.canonical = r.canonical from same, canonicalR] at canonicalS
    obtain rfl := Option.some.inj canonicalS
    exact sameS.symm.trans sameR

/-- **Round trips of rules.** A specification made of a document, whose arguments have texts for keys and whose inputs
are distinct, is read back from its mapping as itself and from its canonical JSON as itself but for the order of
entries; the digest is kept; and no other specification has its canonical JSON. -/
theorem RuleSpec.round_trip (units : ReadsUnits float) {value : Json} {r : RuleSpec}
    (document : value.isDocument float = true) (accepted : RuleSpec.fromMapping value = .ok r) (texts : r.TextKeys)
    (distinct : r.inputs.Nodup) :
    ∃ mapping text, r.toMapping = some mapping ∧ r.canonicalJson = some text ∧ RuleSpec.fromMapping mapping = .ok r ∧
      (∃ back, RuleSpec.fromJson float text = .ok back ∧ back.Same r ∧
        ∀ sha256, back.canonicalSha256 sha256 = r.canonicalSha256 sha256) ∧
      ∀ other s, other.isDocument float = true → RuleSpec.fromMapping other = .ok s → s.TextKeys → s.inputs.Nodup →
        (s.canonicalJson = r.canonicalJson ↔ s.Same r) := by
  obtain ⟨fits, isDocument⟩ := fromMapping_eq float accepted
  obtain ⟨doc, printed, docDocument⟩ := RuleSpec.toMapping_document (isDocument units document) texts
  have back := RuleSpec.fromJson_canonicalJson fits distinct printed docDocument
  obtain ⟨docBack, printedBack, sameBack⟩ := RuleSpec.toMapping_canonical printed
  have text : r.canonicalJson = some doc.dumpsCompact := by
    rw [canonicalJson, printed]
    rfl
  have backText : r.canonical.canonicalJson = r.canonicalJson := by
    rw [canonicalJson, canonicalJson, printed, printedBack, Option.map_some, Option.map_some]
    simp only [Json.dumpsCompact, show docBack.canonical = doc.canonical from sameBack]
  refine ⟨doc, _, printed, text, (RuleSpec.readsAs fits distinct printed).1, ⟨r.canonical, back, ?_, ?_⟩, ?_⟩
  · exact RuleSpec.canonical_canonical r
  · intro sha256
    rw [canonicalSha256, canonicalSha256, backText]
  · intro other s otherDocument otherAccepted otherTexts otherDistinct
    obtain ⟨fitsS, isDocumentS⟩ := fromMapping_eq float otherAccepted
    obtain ⟨docS, printedS, docDocumentS⟩ := RuleSpec.toMapping_document (isDocumentS units otherDocument) otherTexts
    exact RuleSpec.canonicalJson_eq_iff fits fitsS distinct otherDistinct printed printedS docDocument docDocumentS

end

/-! ## Equality in Python -/

/-- `==` of dictionaries. -/
def Arguments.pyEq (a b : Arguments) : Bool :=
  a.length == b.length && a.all fun e => b.any fun f => e.1.pyEq f.1 && e.2.pyEq f.2

def PredicateCall.pyEq (c d : PredicateCall) : Bool := c.name == d.name && c.args.pyEq d.args

def ScoreFeature.pyEq (f g : ScoreFeature) : Bool :=
  f.predicate.pyEq g.predicate && f.weight.value == g.weight.value

/-- `==` of two specifications. -/
def RuleSpec.pyEq (r s : RuleSpec) : Bool :=
  r.schemaVersion == s.schemaVersion && r.ruleId == s.ruleId && r.version == s.version && r.kind == s.kind &&
    r.enabled == s.enabled && r.scope == s.scope && r.inputs == s.inputs &&
    r.predicates.length == s.predicates.length && (r.predicates.zip s.predicates).all (fun p => p.1.pyEq p.2) &&
    r.scoreBase.value == s.scoreBase.value && r.scoreFeatures.length == s.scoreFeatures.length &&
    (r.scoreFeatures.zip s.scoreFeatures).all (fun p => p.1.pyEq p.2) && r.emit.adapter == s.emit.adapter &&
    r.emit.args.pyEq s.emit.args && r.safety == s.safety

/-- A rule with one predicate, whose argument is `limit`. -/
def limitRule (limit : Json) : Json :=
  .obj [("schema_version", .str "rule.v1"), ("rule_id", .str "limit"), ("version", .int 1),
    ("kind", .str "offline_inference"), ("enabled", .bool true), ("scope", .obj []), ("inputs", .arr [.str "endpoint"]),
    ("predicates", .arr [.obj [("name", .str "limit.v1"), ("args", .obj [("limit", limit)])]]),
    ("score", .obj [("base", .int 0), ("features", .arr [])]), ("emit", .obj [("adapter", .str "none.v1")]),
    ("safety", .obj [("network", .str "forbidden"), ("mutation", .str "forbidden"), ("max_matches", .int 10)])]

/-- The specification of that rule. -/
def limitSpec (limit : Json) : RuleSpec where
  schemaVersion := "rule.v1"
  ruleId := "limit"
  version := 1
  kind := "offline_inference"
  enabled := true
  scope := {}
  inputs := ["endpoint"]
  predicates := [⟨"limit.v1", [(.str "limit", limit)]⟩]
  scoreBase := ⟨"0.0", 0, by decide +kernel⟩
  scoreFeatures := []
  emit := ⟨"none.v1", []⟩
  safety := ⟨"forbidden", "forbidden", 10⟩

theorem toOption_limitRule : ∀ limit ∈ [Json.int 1, .bool true],
    (RuleSpec.fromMapping (limitRule limit)).toOption = some (limitSpec limit) := by
  decide +kernel

theorem fromMapping_limitRule {limit : Json} (listed : limit ∈ [Json.int 1, .bool true]) :
    RuleSpec.fromMapping (limitRule limit) = .ok (limitSpec limit) :=
  toOption_eq_some.mp (toOption_limitRule limit listed)

/-- Equal specifications with two canonical JSON texts. -/
theorem canonicalJson_of_equal : RuleSpec.fromMapping (limitRule (.int 1)) = .ok (limitSpec (.int 1)) ∧
    RuleSpec.fromMapping (limitRule (.bool true)) = .ok (limitSpec (.bool true)) ∧
    (limitSpec (.int 1)).pyEq (limitSpec (.bool true)) = true ∧
    (limitSpec (.int 1)).canonicalJson ≠ (limitSpec (.bool true)).canonicalJson := by
  refine ⟨fromMapping_limitRule (by simp), fromMapping_limitRule (by simp), by decide +kernel, fun same => ?_⟩
  have documents : ∀ limit ∈ [Json.int 1, .bool true], (limitSpec limit).toMapping.any (·.isDocument id) = true := by
    decide +kernel
  obtain ⟨doc, printed, document⟩ := (Option.any_eq_true _ _).mp (documents (.int 1) (by simp))
  obtain ⟨doc', printed', document'⟩ := (Option.any_eq_true _ _).mp (documents (.bool true) (by simp))
  have apart : (limitSpec (.int 1)).toMapping.map Json.canonical ≠ (limitSpec (.bool true)).toMapping.map Json.canonical := by
    decide +kernel
  rw [RuleSpec.canonicalJson, RuleSpec.canonicalJson, printed, printed', Option.map_some, Option.map_some,
    Option.some.injEq] at same
  rw [printed, printed', Option.map_some, Option.map_some] at apart
  exact apart (congrArg some ((dumpsCompact_inj document document').mp same))

/-- The rule makes its round trip. -/
theorem limitRule_round_trip : ∃ mapping, (limitSpec (.int 1)).toMapping = some mapping ∧
    RuleSpec.fromMapping mapping = .ok (limitSpec (.int 1)) := by
  have units : ReadsUnits id := fun _ _ _ => rfl
  have document : (limitRule (.int 1)).isDocument id = true := by decide +kernel
  have texts : (limitSpec (.int 1)).TextKeys := by
    constructor
    · intro c listed
      obtain rfl := List.mem_singleton.mp listed
      rfl
    · intro f listed
      cases listed
    · rfl
  obtain ⟨mapping, _, printed, _, read, _⟩ :=
    RuleSpec.round_trip units document (fromMapping_limitRule (by simp)) texts (by decide)
  exact ⟨mapping, printed, read⟩

end ApiManger.Rules
