import ApiManger.Rules.Mapping

/-!
# What is printed is read back

`to_mapping` omits empty arguments and `from_mapping` fills them in. A printed specification is read as itself;
with the entries of every object in the order of their keys it is read as itself with the arguments in order.
-/

namespace ApiManger.Rules
open Python

/-! ## Arguments -/

variable (d : Dict)

theorem fields?_entriesOf : (entriesOf d).fields? = some d := by
  induction d with
  | nil => rfl
  | cons e rest ih =>
    have tail : List.mapM _ (entriesOf rest) = some rest := ih
    rw [entriesOf, List.map_cons, Arguments.fields?, List.mapM_cons]
    change (some (e.1, e.2) >>= fun first => List.mapM _ (entriesOf rest) >>= fun more => some (first :: more)) = _
    rw [tail]
    rfl

theorem eq_entriesOf {args : Arguments} {d : Dict} (texts : args.fields? = some d) : args = entriesOf d := by
  induction args generalizing d with
  | nil =>
    obtain rfl : [] = d := Option.some.inj texts
    rfl
  | cons e rest ih =>
    rw [Arguments.fields?, List.mapM_cons, Option.bind_eq_bind, Option.bind_eq_some_iff] at texts
    obtain ⟨first, here, texts⟩ := texts
    obtain ⟨more, there, same⟩ := Option.bind_eq_some_iff.mp texts
    obtain rfl : first :: more = d := Option.some.inj same
    rw [ih there]
    split at here
    · next key text =>
      obtain rfl : (key, e.2) = first := Option.some.inj here
      rw [entriesOf, entriesOf, List.map_cons, ← text]
    · cases here

/-- The arguments with all entries in order. -/
def Arguments.canonical (args : Arguments) : Arguments :=
  match args.fields? with
  | some d => entriesOf (sortFields (Json.canonicalFields d))
  | none => args

theorem canonical_entriesOf :
    (entriesOf d).canonical = entriesOf (sortFields (Json.canonicalFields d)) := by
  rw [Arguments.canonical, fields?_entriesOf]

/-- The call with its arguments in order. -/
def PredicateCall.canonical (c : PredicateCall) : PredicateCall := { c with args := c.args.canonical }

def ScoreFeature.canonical (f : ScoreFeature) : ScoreFeature := { f with predicate := f.predicate.canonical }

/-- A specification with the entries of all its arguments in order. -/
def RuleSpec.canonical (r : RuleSpec) : RuleSpec :=
  { r with
    predicates := r.predicates.map PredicateCall.canonical
    scoreFeatures := r.scoreFeatures.map ScoreFeature.canonical
    emit := { r.emit with args := r.emit.args.canonical } }

/-- The specifications are equal but for the order of the entries of their arguments. -/
def RuleSpec.Same (r s : RuleSpec) : Prop := r.canonical = s.canonical

/-- What `args` of a printed object is. -/
def argsDoc : Json := if d.isEmpty then .null else .obj d

theorem argsDoc_canonical : (argsDoc d).canonical = argsDoc (sortFields (Json.canonicalFields d)) := by
  unfold argsDoc
  cases d with
  | nil => rfl
  | cons e rest =>
    have filled : sortFields (Json.canonicalFields (e :: rest)) ≠ [] := fun h =>
      List.cons_ne_nil e rest (Json.canonical_obj_eq_nil.mp h)
    rw [if_neg (by simp), if_neg (by simpa using filled), Json.canonical]

theorem dictOf_argsDoc : dictOf (argsDoc d) = .ok (entriesOf d) := by
  cases d with
  | nil => rfl
  | cons e rest => rfl

/-! ## Objects in order -/

theorem get_canonical (fields : Dict) (key : String) :
    Dict.get (sortFields (Json.canonicalFields fields)) key = (Dict.get fields key).canonical := by
  rw [Dict.get, Json.get?_canonicalFields, Dict.get]
  cases Dict.get? fields key <;> rfl

variable {fields : Dict} {allowed required : List String} {doc : Json} {docs : List Json} {r : RuleSpec}

theorem mem_keys_canonical {key : String} :
    key ∈ (sortFields (Json.canonicalFields fields)).map (·.1) ↔ key ∈ fields.map (·.1) := by
  rw [sortFields, ((List.perm_insertionSort _ _).map _).mem_iff, Json.canonicalFields_eq, List.map_map]
  rfl

theorem check_ok {passes : Bool} (holds : passes = true) (message : String) : check passes message = .ok () := by
  rw [check, if_pos holds]

/-- An object whose keys are allowed and has the required ones. -/
theorem requireExactKeys_ok
    (known : ∀ key ∈ fields.map (·.1), key ∈ allowed) (there : ∀ key ∈ required, key ∈ fields.map (·.1)) (label : String) :
    requireExactKeys (.obj fields) allowed required label = .ok fields := by
  have none_unknown : (sortedMissing (fields.map (·.1)) allowed).isEmpty = true := sortedMissing_isEmpty.mpr known
  have none_missing : (sortedMissing required (fields.map (·.1))).isEmpty = true := sortedMissing_isEmpty.mpr there
  simp only [requireExactKeys, check_ok none_unknown, check_ok none_missing]
  rfl

/-- The object with its entries in order passes as well. -/
theorem requireExactKeys_canonical
    (known : ∀ key ∈ fields.map (·.1), key ∈ allowed) (there : ∀ key ∈ required, key ∈ fields.map (·.1)) (label : String) :
    requireExactKeys (Json.obj fields).canonical allowed required label =
      .ok (sortFields (Json.canonicalFields fields)) :=
  requireExactKeys_ok (fun key listed => known key (mem_keys_canonical.mp listed))
    (fun key listed => mem_keys_canonical.mpr (there key listed)) label

/-- An object with just the allowed keys passes in either order of its entries. -/
theorem requireExactKeys_listed (fields : Dict) (label : String)
    (listed : fields.map (·.1) = allowed) (there : ∀ key ∈ required, key ∈ allowed) :
    requireExactKeys (.obj fields) allowed required label = .ok fields ∧
      requireExactKeys (Json.obj fields).canonical allowed required label =
        .ok (sortFields (Json.canonicalFields fields)) := by
  subst listed
  exact ⟨requireExactKeys_ok (fun _ here => here) there label, requireExactKeys_canonical (fun _ here => here) there label⟩

/-! ## Names and numbers -/

theorem textOrEmpty_str (s : String) : textOrEmpty (.str s) = s := by
  unfold textOrEmpty
  split
  · rfl
  · next empty =>
    have same : s = "" := by simpa [Json.truthy] using empty
    exact same.symm

theorem parseName_str {accepts : String → Bool} {s : String} (fits : accepts s = true) (message : String) :
    parseName accepts message (.str s) = .ok s := by
  rw [parseName, textOrEmpty_str, if_pos fits]

theorem parseNumber_text {low high : ℚ} {x : FloatText} (above : low ≤ x.value) (below : x.value ≤ high)
    (message : String) : parseNumber low high message (.float x.text) = .ok x := by
  simp only [parseNumber, FloatText.ofText?_text]
  rw [if_pos ⟨above, below⟩]

/-! ## The parts of a specification -/

/-- A document is read as `x`, and with its entries in order as `x'`. -/
def ReadsAs {α : Type} (parse : Json → Except RuleError α) (doc : Json) (x x' : α) : Prop :=
  parse doc = .ok x ∧ parse doc.canonical = .ok x'

theorem parsePredicate_fields {name : String} {d : Dict}
    (keys : requireExactKeys (.obj fields) ["name", "args"] ["name"] "predicate" = .ok fields)
    (named : Dict.get fields "name" = .str name) (args : Dict.get fields "args" = argsDoc d)
    (versioned : isVersionedName name = true) : parsePredicate (.obj fields) = .ok ⟨name, entriesOf d⟩ := by
  simp only [parsePredicate, keys, ok_bind, named, parseName_str versioned, args]
  cases d <;> rfl

theorem parseFeature_fields {name : String} {weight : FloatText} {d : Dict}
    (keys : requireExactKeys (.obj fields) ["predicate", "args", "weight"] ["predicate", "weight"] "score feature" =
      .ok fields)
    (named : Dict.get fields "predicate" = .str name) (weighted : Dict.get fields "weight" = .float weight.text)
    (args : Dict.get fields "args" = argsDoc d) (versioned : isVersionedName name = true)
    (above : -1 ≤ weight.value) (below : weight.value ≤ 1) :
    parseFeature (.obj fields) = .ok ⟨⟨name, entriesOf d⟩, weight⟩ := by
  simp only [parseFeature, keys, ok_bind, named, parseName_str versioned, weighted, parseNumber_text above below, args,
    dictOf_argsDoc]
  rfl

theorem parseEmit_fields {adapter : String} {d : Dict}
    (keys : requireExactKeys (.obj fields) ["adapter", "args"] ["adapter"] "emit" = .ok fields)
    (named : Dict.get fields "adapter" = .str adapter) (args : Dict.get fields "args" = argsDoc d)
    (versioned : isVersionedName adapter = true) : parseEmit (.obj fields) = .ok (adapter, argsDoc d) := by
  simp only [parseEmit, keys, ok_bind, named, parseName_str versioned, args]
  rfl

/-- The keys of an object with or without `args` are checked in either order of the entries. -/
theorem requireExactKeys_withArgs (front d : Dict) (allowed required : List String) (label : String)
    (known : ∀ key ∈ front.map (·.1), key ∈ allowed) (args : "args" ∈ allowed)
    (there : ∀ key ∈ required, key ∈ front.map (·.1)) :
    requireExactKeys (.obj (withArgs front d)) allowed required label = .ok (withArgs front d) ∧
      requireExactKeys (Json.obj (withArgs front d)).canonical allowed required label =
        .ok (sortFields (Json.canonicalFields (withArgs front d))) := by
  have allKnown : ∀ key ∈ (withArgs front d).map (·.1), key ∈ allowed := by
    intro key listed
    rw [withArgs, List.map_append, List.mem_append] at listed
    rcases listed with inFront | last
    · exact known key inFront
    · split at last
      · cases last
      · rw [List.map_singleton, List.mem_singleton] at last
        rw [last]
        exact args
  have allThere : ∀ key ∈ required, key ∈ (withArgs front d).map (·.1) := by
    intro key needed
    rw [withArgs, List.map_append]
    exact List.mem_append_left _ (there key needed)
  exact ⟨requireExactKeys_ok allKnown allThere label, requireExactKeys_canonical allKnown allThere label⟩

theorem get_withArgs {front : Dict} (none_yet : Dict.get? front "args" = none) :
    Dict.get (withArgs front d) "args" = argsDoc d := by
  rw [Dict.get, withArgs, Dict.get?_append, none_yet, Option.none_or]
  cases d <;> rfl

theorem get_withArgs_front {front : Dict} {key : String} {value : Json}
    (there : Dict.get? front key = some value) : Dict.get (withArgs front d) key = value := by
  rw [Dict.get, withArgs, Dict.get?_append, there]
  rfl

theorem PredicateCall.readsAs {c : PredicateCall} (printed : c.toMapping = some doc)
    (versioned : isVersionedName c.name = true) : ReadsAs parsePredicate doc c c.canonical := by
  obtain ⟨d, texts, rfl⟩ := Option.map_eq_some_iff.mp printed
  obtain ⟨name, args⟩ := c
  obtain rfl : args = entriesOf d := eq_entriesOf texts
  have named : Dict.get (withArgs [("name", .str name)] d) "name" = .str name := get_withArgs_front d rfl
  have args : Dict.get (withArgs [("name", .str name)] d) "args" = argsDoc d := get_withArgs d rfl
  obtain ⟨keys, keys'⟩ := requireExactKeys_withArgs [("name", .str name)] d ["name", "args"] ["name"] "predicate"
    (by simp) (by simp) (by simp)
  refine ⟨parsePredicate_fields keys named args versioned, ?_⟩
  rw [PredicateCall.canonical, canonical_entriesOf]
  refine parsePredicate_fields keys' ?_ ?_ versioned
  · rw [get_canonical, named]
    rfl
  · rw [get_canonical, args, argsDoc_canonical]

theorem ScoreFeature.readsAs {f : ScoreFeature} (printed : f.toMapping = some doc)
    (versioned : isVersionedName f.predicate.name = true) (above : -1 ≤ f.weight.value) (below : f.weight.value ≤ 1) :
    ReadsAs parseFeature doc f f.canonical := by
  obtain ⟨d, texts, rfl⟩ := Option.map_eq_some_iff.mp printed
  obtain ⟨⟨name, args⟩, weight⟩ := f
  obtain rfl : args = entriesOf d := eq_entriesOf texts
  have named : Dict.get (withArgs [("predicate", .str name), ("weight", .float weight.text)] d) "predicate" = .str name :=
    get_withArgs_front d rfl
  have weighted : Dict.get (withArgs [("predicate", .str name), ("weight", .float weight.text)] d) "weight" =
      .float weight.text := get_withArgs_front d rfl
  have args : Dict.get (withArgs [("predicate", .str name), ("weight", .float weight.text)] d) "args" = argsDoc d :=
    get_withArgs d rfl
  obtain ⟨keys, keys'⟩ := requireExactKeys_withArgs [("predicate", .str name), ("weight", .float weight.text)] d
    ["predicate", "args", "weight"] ["predicate", "weight"] "score feature" (by simp) (by simp) (by simp)
  refine ⟨parseFeature_fields keys named weighted args versioned above below, ?_⟩
  rw [ScoreFeature.canonical, PredicateCall.canonical, canonical_entriesOf]
  refine parseFeature_fields keys' ?_ ?_ ?_ versioned above below
  · rw [get_canonical, named]
    rfl
  · rw [get_canonical, weighted]
    rfl
  · rw [get_canonical, args, argsDoc_canonical]

/-- The adapter is read with what its arguments were printed as. -/
theorem EmitSpec.readsAs {emit : EmitSpec} (printed : emit.toMapping = some doc)
    (versioned : isVersionedName emit.adapter = true) :
    ∃ given given', ReadsAs parseEmit doc (emit.adapter, given) (emit.adapter, given') ∧ dictOf given = .ok emit.args ∧
      dictOf given' = .ok emit.args.canonical := by
  obtain ⟨d, texts, rfl⟩ := Option.map_eq_some_iff.mp printed
  obtain ⟨adapter, args⟩ := emit
  obtain rfl : args = entriesOf d := eq_entriesOf texts
  have named : Dict.get (withArgs [("adapter", .str adapter)] d) "adapter" = .str adapter := get_withArgs_front d rfl
  have args : Dict.get (withArgs [("adapter", .str adapter)] d) "args" = argsDoc d := get_withArgs d rfl
  obtain ⟨keys, keys'⟩ := requireExactKeys_withArgs [("adapter", .str adapter)] d ["adapter", "args"] ["adapter"] "emit"
    (by simp) (by simp) (by simp)
  refine ⟨argsDoc d, argsDoc (sortFields (Json.canonicalFields d)),
    ⟨parseEmit_fields keys named args versioned, parseEmit_fields keys' ?_ ?_ versioned⟩, dictOf_argsDoc d, ?_⟩
  · rw [get_canonical, named]
    rfl
  · rw [get_canonical, args, argsDoc_canonical]
  · rw [dictOf_argsDoc, canonical_entriesOf]

theorem parseScope_fields {scope : RuleScope}
    (keys : requireExactKeys (.obj fields) ["same_project", "same_environment", "principal_relation"] [] "scope" =
      .ok fields)
    (project : Dict.get? fields "same_project" = some (.bool scope.sameProject))
    (environment : Dict.get? fields "same_environment" = some (.bool scope.sameEnvironment))
    (relation : Dict.get fields "principal_relation" = .str scope.principalRelation)
    (supported : principalRelations.contains scope.principalRelation = true) : parseScope (.obj fields) = .ok scope := by
  have filled : (Json.str scope.principalRelation).truthy = true := by
    rw [Json.truthy, bne_iff_ne]
    intro empty
    rw [empty] at supported
    cases supported
  simp only [parseScope, keys, ok_bind, project, environment, relation, Option.getD_some, parseFlag, filled, if_true]
  rw [show textOf (.str scope.principalRelation) = scope.principalRelation from rfl, check_ok supported]
  rfl

theorem RuleScope.readsAs {scope : RuleScope} (supported : principalRelations.contains scope.principalRelation = true) :
    ReadsAs parseScope scope.toMapping scope scope := by
  obtain ⟨keys, keys'⟩ := requireExactKeys_listed [("same_project", .bool scope.sameProject),
    ("same_environment", .bool scope.sameEnvironment), ("principal_relation", .str scope.principalRelation)]
    "scope" rfl (fun key (none_needed : key ∈ []) => nomatch none_needed)
  constructor
  · exact parseScope_fields keys rfl rfl rfl supported
  · refine parseScope_fields keys' ?_ ?_ ?_ supported
    · rw [Json.get?_canonicalFields]
      rfl
    · rw [Json.get?_canonicalFields]
      rfl
    · rw [get_canonical]
      rfl

theorem parseSafety_fields {n : ℤ}
    (keys : requireExactKeys (.obj fields) ["network", "mutation", "max_matches"] ["network", "mutation", "max_matches"]
      "safety" = .ok fields)
    (network : Dict.get fields "network" = .str "forbidden") (mutation : Dict.get fields "mutation" = .str "forbidden")
    (counted : Dict.get fields "max_matches" = .int n) (low : 1 ≤ n) (high : n ≤ 100000) :
    parseSafety (.obj fields) = .ok ⟨"forbidden", "forbidden", n⟩ := by
  have bounds : (decide (1 ≤ n) && decide (n ≤ 100000)) = true := by simp [low, high]
  simp only [parseSafety, keys, ok_bind, network, mutation, counted, parseInt, bounds, if_true]
  rfl

theorem RuleSafety.readsAs {safety : RuleSafety} (network : safety.network = "forbidden")
    (mutation : safety.mutation = "forbidden") (low : 1 ≤ safety.maxMatches) (high : safety.maxMatches ≤ 100000) :
    ReadsAs parseSafety safety.toMapping safety safety := by
  obtain ⟨_, _, n⟩ := safety
  obtain rfl := network
  obtain rfl := mutation
  obtain ⟨keys, keys'⟩ := requireExactKeys_listed [("network", .str "forbidden"), ("mutation", .str "forbidden"),
    ("max_matches", .int n)] "safety" rfl (fun _ listed => listed)
  constructor
  · exact parseSafety_fields keys rfl rfl rfl low high
  · refine parseSafety_fields keys' ?_ ?_ ?_ low high
    · rw [get_canonical]
      rfl
    · rw [get_canonical]
      rfl
    · rw [get_canonical]
      rfl

theorem allDistinct_str (names : List String) : allDistinct (names.map .str) = true ↔ names.Nodup := by
  induction names with
  | nil => simp [allDistinct]
  | cons name rest ih =>
    rw [List.map_cons, allDistinct, Bool.and_eq_true, ih, List.nodup_cons]
    refine and_congr_left fun _ => ?_
    rw [Bool.not_eq_true', List.any_eq_false, List.forall_mem_map]
    simp only [Json.pyEq, beq_iff_eq]
    exact ⟨fun apart listed => apart name listed rfl, fun absent x listed same => absent (same ▸ listed)⟩

theorem parseInputs_ok {inputs : List String} (nonempty : inputs ≠ []) (named : ∀ name ∈ inputs, isInputName name = true)
    (distinct : inputs.Nodup) : parseInputs (.arr (inputs.map .str)) = .ok inputs := by
  have some_input : (!(inputs.map Json.str).isEmpty) = true := by simpa using nonempty
  have hashable : (inputs.map Json.str).all isHashable = true := by simp [isHashable]
  have names : ((inputs.map Json.str).all fun item => isInputName (textOrEmpty item)) = true := by
    rw [List.all_map, List.all_eq_true]
    intro name listed
    rw [Function.comp_apply, textOrEmpty_str]
    exact named name listed
  have texts : (inputs.map Json.str).map textOf = inputs := by
    rw [List.map_map]
    exact List.map_id inputs
  simp only [parseInputs, check_ok some_input, hashable, check_ok ((allDistinct_str inputs).mpr distinct), check_ok names,
    ok_bind, texts]
  rfl

theorem mapM_readsAs {α : Type} {print : α → Option Json} {parse : Json → Except RuleError α} {canonical : α → α}
    {xs : List α} (printed : xs.mapM print = some docs)
    (reads : ∀ x ∈ xs, ∀ doc, print x = some doc → ReadsAs parse doc x (canonical x)) :
    docs.mapM parse = .ok xs ∧ (docs.map Json.canonical).mapM parse = .ok (xs.map canonical) := by
  induction xs generalizing docs with
  | nil =>
    obtain rfl : [] = docs := Option.some.inj printed
    exact ⟨rfl, rfl⟩
  | cons x rest ih =>
    rw [List.mapM_cons, Option.bind_eq_bind, Option.bind_eq_some_iff] at printed
    obtain ⟨doc, here, printed⟩ := printed
    obtain ⟨more, there, same⟩ := Option.bind_eq_some_iff.mp printed
    obtain rfl : doc :: more = docs := Option.some.inj same
    obtain ⟨plain, sorted⟩ := reads x List.mem_cons_self doc here
    obtain ⟨all, allSorted⟩ := ih there fun y listed => reads y (List.mem_cons_of_mem _ listed)
    constructor
    · rw [List.mapM_cons, plain, ok_bind, all]
      rfl
    · rw [List.map_cons, List.mapM_cons, sorted, ok_bind, allSorted]
      rfl

/-! ## Specifications -/

/-- What `from_mapping` checks of a specification. -/
structure RuleSpec.Accepted (r : RuleSpec) : Prop where
  schema : r.schemaVersion = "rule.v1"
  ruleId : isRuleId r.ruleId = true
  version : 1 ≤ r.version
  kind : r.kind = "offline_inference"
  relation : principalRelations.contains r.scope.principalRelation = true
  inputs_ne : r.inputs ≠ []
  inputs : ∀ name ∈ r.inputs, isInputName name = true
  predicates : ∀ c ∈ r.predicates, isVersionedName c.name = true
  base : 0 ≤ r.scoreBase.value ∧ r.scoreBase.value ≤ 1
  features : ∀ f ∈ r.scoreFeatures, isVersionedName f.predicate.name = true ∧ -1 ≤ f.weight.value ∧ f.weight.value ≤ 1
  adapter : isVersionedName r.emit.adapter = true
  network : r.safety.network = "forbidden"
  mutation : r.safety.mutation = "forbidden"
  max_low : 1 ≤ r.safety.maxMatches
  max_high : r.safety.maxMatches ≤ 100000

theorem parseScore_fields {base : FloatText} {features : List ScoreFeature}
    (keys : requireExactKeys (.obj fields) ["base", "features"] ["base", "features"] "score" = .ok fields)
    (based : Dict.get fields "base" = .float base.text) (listed : Dict.get fields "features" = .arr docs)
    (above : 0 ≤ base.value) (below : base.value ≤ 1) (read : docs.mapM parseFeature = .ok features) :
    parseScore (.obj fields) = .ok (base, features) := by
  simp only [parseScore, keys, ok_bind, based, parseNumber_text above below, listed, parseList, read]
  rfl

/-- The parts of a specification make it up. -/
theorem fromMapping_fields {given : Json}
    (keys : requireExactKeys (.obj fields) specKeys specKeys "RuleSpec" = .ok fields) (accepted : r.Accepted)
    (schema : Dict.get fields "schema_version" = .str "rule.v1") (named : Dict.get fields "rule_id" = .str r.ruleId)
    (version : Dict.get fields "version" = .int r.version) (kind : Dict.get fields "kind" = .str "offline_inference")
    (enabled : Dict.get fields "enabled" = .bool r.enabled)
    (scope : parseScope (Dict.get fields "scope") = .ok r.scope)
    (inputs : parseInputs (Dict.get fields "inputs") = .ok r.inputs)
    (calls : Dict.get fields "predicates" = .arr docs) (predicates : docs.mapM parsePredicate = .ok r.predicates)
    (score : parseScore (Dict.get fields "score") = .ok (r.scoreBase, r.scoreFeatures))
    (emit : parseEmit (Dict.get fields "emit") = .ok (r.emit.adapter, given)) (args : dictOf given = .ok r.emit.args)
    (safety : parseSafety (Dict.get fields "safety") = .ok r.safety) : RuleSpec.fromMapping (.obj fields) = .ok r := by
  have positive : decide (1 ≤ r.version) = true := decide_eq_true accepted.version
  simp only [RuleSpec.fromMapping, keys, ok_bind, schema, named, parseName_str accepted.ruleId, version, parseInt, positive,
    if_true, kind, enabled, parseFlag, scope, inputs, calls, parseList, predicates, score, emit, args, safety, check,
    beq_self_eq_true]
  obtain ⟨_, _, _, _, _, _, _, _, _, _, _, _⟩ := r
  obtain rfl := accepted.schema
  obtain rfl := accepted.kind
  rfl

theorem RuleSpec.Accepted.canonical (accepted : r.Accepted) : r.canonical.Accepted := by
  refine { accepted with predicates := ?_, features := ?_ }
  · intro c listed
    obtain ⟨c, inside, rfl⟩ := List.mem_map.mp listed
    exact accepted.predicates c inside
  · intro f listed
    obtain ⟨f, inside, rfl⟩ := List.mem_map.mp listed
    exact accepted.features f inside

/-- **Printed and read.** A printed specification is read as itself, and with the entries of its objects in order
as itself with its arguments in order. -/
theorem RuleSpec.readsAs (accepted : r.Accepted) (distinct : r.inputs.Nodup)
    (printed : r.toMapping = some doc) : ReadsAs fromMapping doc r r.canonical := by
  obtain ⟨calls, callsPrinted, printed⟩ := Option.bind_eq_some_iff.mp printed
  obtain ⟨features, featuresPrinted, printed⟩ := Option.bind_eq_some_iff.mp printed
  obtain ⟨emit, emitPrinted, printed⟩ := Option.bind_eq_some_iff.mp printed
  obtain rfl := Option.some.inj printed
  have inputs := parseInputs_ok accepted.inputs_ne accepted.inputs distinct
  obtain ⟨scope, scope'⟩ := RuleScope.readsAs accepted.relation
  obtain ⟨safety, safety'⟩ := RuleSafety.readsAs accepted.network accepted.mutation accepted.max_low accepted.max_high
  obtain ⟨given, given', ⟨emitted, emitted'⟩, args, args'⟩ := EmitSpec.readsAs emitPrinted accepted.adapter
  obtain ⟨predicates, predicates'⟩ := mapM_readsAs callsPrinted
    fun c listed doc here => PredicateCall.readsAs here (accepted.predicates c listed)
  obtain ⟨weighed, weighed'⟩ := mapM_readsAs featuresPrinted fun f listed doc here =>
    have fits := accepted.features f listed
    ScoreFeature.readsAs here fits.1 fits.2.1 fits.2.2
  have score : parseScore (.obj [("base", .float r.scoreBase.text), ("features", .arr features)]) =
      .ok (r.scoreBase, r.scoreFeatures) :=
    parseScore_fields (requireExactKeys_listed _ "score" rfl fun _ here => here).1 rfl rfl accepted.base.1
      accepted.base.2 weighed
  have score' : parseScore (Json.obj [("base", .float r.scoreBase.text), ("features", .arr features)]).canonical =
      .ok (r.scoreBase, r.scoreFeatures.map ScoreFeature.canonical) := by
    refine parseScore_fields (requireExactKeys_listed _ "score" rfl fun _ here => here).2 ?_ ?_ accepted.base.1
      accepted.base.2 weighed'
    · rw [get_canonical]
      rfl
    · rw [get_canonical, ← Json.canonicalItems_eq]
      rfl
  constructor
  · refine fromMapping_fields (requireExactKeys_listed _ "RuleSpec" rfl fun _ here => here).1 accepted ?_ rfl rfl ?_ rfl
      scope inputs rfl predicates score emitted args safety
    · exact congrArg Json.str accepted.schema
    · exact congrArg Json.str accepted.kind
  · refine fromMapping_fields (requireExactKeys_listed _ "RuleSpec" rfl fun _ here => here).2 accepted.canonical
      ?_ ?_ ?_ ?_ ?_ ?_ ?_ ?_ predicates' ?_ ?_ args' ?_
    all_goals rw [get_canonical]
    · exact congrArg Json.str accepted.schema
    · rfl
    · rfl
    · exact congrArg Json.str accepted.kind
    · rfl
    · exact scope'
    · have names : (Json.arr (r.inputs.map .str)).canonical = .arr (r.inputs.map .str) := by
        rw [Json.canonical, Json.canonicalItems_eq, List.map_map]
        rfl
      exact (congrArg parseInputs names).trans inputs
    · rw [← Json.canonicalItems_eq]
      rfl
    · exact score'
    · exact emitted'
    · exact safety'

/-! ## Specifications that are the same -/

theorem same_of_fields {others : Dict}
    (same : List.Forall₂ (fun e f : String × Json => e.1 = f.1 ∧ e.2.Same f.2) fields others) :
    (Json.obj fields).Same (.obj others) := by
  have entries : Json.canonicalFields fields = Json.canonicalFields others := by
    induction same with
    | nil => rfl
    | @cons e f _ _ here _ ih =>
      obtain ⟨key, value⟩ := e
      obtain ⟨key', value'⟩ := f
      obtain ⟨rfl, here⟩ := here
      rw [Json.canonicalFields, Json.canonicalFields, ih, show value.canonical = value'.canonical from here]
  rw [Json.Same, Json.canonical, Json.canonical, entries]

theorem withArgs_same (front d : Dict) :
    (Json.obj (withArgs front (sortFields (Json.canonicalFields d)))).Same (.obj (withArgs front d)) := by
  refine same_of_fields (List.rel_append (List.forall₂_same.mpr fun e _ => ⟨rfl, Json.Same.refl _⟩) ?_)
  cases d with
  | nil => exact .nil
  | cons e rest =>
    have filled : sortFields (Json.canonicalFields (e :: rest)) ≠ [] := fun h =>
      List.cons_ne_nil e rest (Json.canonical_obj_eq_nil.mp h)
    rw [if_neg (by simpa using filled), if_neg (by simp)]
    exact .cons ⟨rfl, Json.canonical_canonical (.obj (e :: rest))⟩ .nil

/-- The printed items with their arguments in order. -/
theorem mapM_canonical {α : Type} {print : α → Option Json} {canonical : α → α} {xs : List α}
    (printed : xs.mapM print = some docs)
    (same : ∀ x ∈ xs, ∀ doc, print x = some doc → ∃ doc', print (canonical x) = some doc' ∧ doc'.Same doc) :
    ∃ docs', (xs.map canonical).mapM print = some docs' ∧ List.Forall₂ Json.Same docs' docs := by
  induction xs generalizing docs with
  | nil =>
    obtain rfl : [] = docs := Option.some.inj printed
    exact ⟨[], rfl, .nil⟩
  | cons x rest ih =>
    rw [List.mapM_cons, Option.bind_eq_bind, Option.bind_eq_some_iff] at printed
    obtain ⟨doc, here, printed⟩ := printed
    obtain ⟨more, there, equal⟩ := Option.bind_eq_some_iff.mp printed
    obtain rfl : doc :: more = docs := Option.some.inj equal
    obtain ⟨doc', here', sameDoc⟩ := same x List.mem_cons_self doc here
    obtain ⟨more', there', sameMore⟩ := ih there fun y listed => same y (List.mem_cons_of_mem _ listed)
    refine ⟨doc' :: more', ?_, .cons sameDoc sameMore⟩
    rw [List.map_cons, List.mapM_cons, here', there']
    rfl

theorem PredicateCall.toMapping_canonical {c : PredicateCall} (printed : c.toMapping = some doc) :
    ∃ doc', c.canonical.toMapping = some doc' ∧ doc'.Same doc := by
  obtain ⟨d, texts, rfl⟩ := Option.map_eq_some_iff.mp printed
  refine ⟨_, ?_, withArgs_same _ d⟩
  rw [PredicateCall.toMapping, PredicateCall.canonical, eq_entriesOf texts, canonical_entriesOf, fields?_entriesOf]
  rfl

theorem ScoreFeature.toMapping_canonical {f : ScoreFeature} (printed : f.toMapping = some doc) :
    ∃ doc', f.canonical.toMapping = some doc' ∧ doc'.Same doc := by
  obtain ⟨d, texts, rfl⟩ := Option.map_eq_some_iff.mp printed
  refine ⟨_, ?_, withArgs_same _ d⟩
  rw [ScoreFeature.toMapping, ScoreFeature.canonical, PredicateCall.canonical, eq_entriesOf texts, canonical_entriesOf,
    fields?_entriesOf]
  rfl

theorem EmitSpec.toMapping_canonical {emit : EmitSpec} (printed : emit.toMapping = some doc) :
    ∃ doc', EmitSpec.toMapping { emit with args := emit.args.canonical } = some doc' ∧ doc'.Same doc := by
  obtain ⟨d, texts, rfl⟩ := Option.map_eq_some_iff.mp printed
  refine ⟨_, ?_, withArgs_same _ d⟩
  rw [EmitSpec.toMapping, eq_entriesOf texts, canonical_entriesOf, fields?_entriesOf]
  rfl

theorem RuleSpec.toMapping_eq {calls features : List Json} {emit : Json}
    (callsPrinted : r.predicates.mapM PredicateCall.toMapping = some calls)
    (featuresPrinted : r.scoreFeatures.mapM ScoreFeature.toMapping = some features)
    (emitPrinted : r.emit.toMapping = some emit) : r.toMapping = some (r.document calls features emit) := by
  rw [RuleSpec.toMapping, callsPrinted, featuresPrinted, emitPrinted]
  rfl

theorem RuleSpec.document_same (r : RuleSpec) {calls calls' features features' : List Json} {emit emit' : Json}
    (sameCalls : List.Forall₂ Json.Same calls' calls) (sameFeatures : List.Forall₂ Json.Same features' features)
    (sameEmit : emit'.Same emit) : (r.document calls' features' emit').Same (r.document calls features emit) := by
  have kept (e : String × Json) : e.1 = e.1 ∧ e.2.Same e.2 := ⟨rfl, Json.Same.refl _⟩
  have score : (Json.obj [("base", .float r.scoreBase.text), ("features", .arr features')]).Same
      (.obj [("base", .float r.scoreBase.text), ("features", .arr features)]) :=
    same_of_fields (.cons (kept _) (.cons ⟨rfl, Json.same_of_items sameFeatures⟩ .nil))
  have front : List.Forall₂ (fun e f : String × Json => e.1 = f.1 ∧ e.2.Same f.2)
      [("schema_version", .str r.schemaVersion), ("rule_id", .str r.ruleId), ("version", .int r.version),
        ("kind", .str r.kind), ("enabled", .bool r.enabled), ("scope", r.scope.toMapping),
        ("inputs", .arr (r.inputs.map .str))] _ := List.forall₂_same.mpr fun e _ => kept e
  exact same_of_fields (List.rel_append front (.cons ⟨rfl, Json.same_of_items sameCalls⟩ (.cons ⟨rfl, score⟩
    (.cons ⟨rfl, sameEmit⟩ (.cons (kept ("safety", r.safety.toMapping)) .nil)))))

/-- The document of a specification with its arguments in order is the same. -/
theorem RuleSpec.toMapping_canonical (printed : r.toMapping = some doc) :
    ∃ doc', r.canonical.toMapping = some doc' ∧ doc'.Same doc := by
  obtain ⟨calls, callsPrinted, printed⟩ := Option.bind_eq_some_iff.mp printed
  obtain ⟨features, featuresPrinted, printed⟩ := Option.bind_eq_some_iff.mp printed
  obtain ⟨emit, emitPrinted, printed⟩ := Option.bind_eq_some_iff.mp printed
  obtain rfl := Option.some.inj printed
  obtain ⟨calls', callsPrinted', sameCalls⟩ := mapM_canonical callsPrinted fun c _ _ => PredicateCall.toMapping_canonical
  obtain ⟨features', featuresPrinted', sameFeatures⟩ :=
    mapM_canonical featuresPrinted fun f _ _ => ScoreFeature.toMapping_canonical
  obtain ⟨emit', emitPrinted', sameEmit⟩ := EmitSpec.toMapping_canonical emitPrinted
  exact ⟨_, RuleSpec.toMapping_eq callsPrinted' featuresPrinted' emitPrinted',
    r.document_same sameCalls sameFeatures sameEmit⟩

end ApiManger.Rules
