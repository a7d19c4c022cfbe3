import ApiManger.Chain.Canonical
import ApiManger.Python.JsonText

/-!
# Chain definitions as text

`serialize_chain_definition` writes what `normalize_chain_definition` returns, and
`deserialize_chain_definition` reads it back as a definition that is the same. The placeholders of
a path are looked up by name alone when `required` is checked, so another parameter of the name
may answer for the one in the path.
-/

namespace ApiManger.Chain
open Python Recipe

def serializeChainDefinition (search : String → String → Bool) (raw : Json) : Except ChainError String :=
  (normalizeDocument search raw).map fun d => (Json.obj d.toDict).dumps ++ "\n"

/-- `deserialize_chain_definition`; `complaint` is what `json.loads` says about a text. -/
def deserializeChainDefinition (float complaint : String → String) (search : String → String → Bool) (text : String) :
    Except ChainError ChainDoc :=
  match Json.loads float text with
  | some raw => normalizeDocument search raw
  | none => .error (.definition ("chain definition is not valid JSON: " ++ complaint text))

/-! ## The entries of a raw definition -/

/-- `(item or {}) for item in raw.get(key) or []` -/
def rawItems (raw : Dict) (key : String) : List Dict :=
  match itemsOr (Dict.get raw key) with
  | .ok items => items.filterMap fun item => (fieldsOr item).toOption
  | .error _ => []

theorem rawItems_eq {raw : Dict} {key : String} {items : List Json} (here : itemsOr (Dict.get raw key) = .ok items) :
    rawItems raw key = items.filterMap fun item => (fieldsOr item).toOption := by
  rw [rawItems, here]

/-- What is read from a parameter where the checks of placeholders look. -/
structure ReadFrom (fields : Dict) (p : ParameterDoc) : Prop where
  name : p.name = textOf fields "name"
  path : (p.position == .path) = (lower (textOf fields "position") == "path")
  required : p.required = (Dict.get fields "required").truthy
  constant : ∀ value, p.source = .constant value → Dict.get? fields "value" = some value

theorem positionOf_some {text : String} {place : Position} (known : positionOf text = some place) : place.text = text := by
  unfold positionOf at known
  have same := List.find?_some known
  exact beq_iff_eq.mp same

theorem readParameter_from {stepId : String} {fields : Dict} {p : ParameterDoc} (read : readParameter stepId fields = .ok p) :
    ReadFrom fields p := by
  unfold readParameter at read
  dsimp only at read
  obtain ⟨-, read⟩ := raised_or read
  split at read
  · nomatch read
  next place known =>
  have path : (place == .path) = (lower (textOf fields "position") == "path") := by
    rw [← positionOf_some known]
    cases place <;> decide
  obtain ⟨-, read⟩ := raised_or read
  obtain ⟨-, read⟩ := raised_or read
  split at read
  · obtain ⟨-, read⟩ := raised_or read
    obtain ⟨parsed, -, read⟩ := bind_eq_ok.mp read
    cases Except.ok.inj read
    exact ⟨rfl, path, rfl, fun value source => (nomatch source)⟩
  · split at read
    · nomatch read
    · next value here =>
      cases Except.ok.inj read
      refine ⟨rfl, path, rfl, fun other source => ?_⟩
      rw [here, ParameterSource.constant.inj source]

/-- What is read from a step where the checks of placeholders look. -/
structure StepFrom (fields : Dict) (s : StepDoc) : Prop where
  pathTemplate : s.pathTemplate = textOf fields "path_template"
  parameters : List.Forall₂ ReadFrom (rawItems fields "parameters") s.parameters

theorem forall₂_filterMap {α : Type} {R : Dict → α → Prop} {items : List Json} {docs : List α}
    (reads : List.Forall₂ (fun item doc => ∃ fields, fieldsOr item = .ok fields ∧ R fields doc) items docs) :
    List.Forall₂ R (items.filterMap fun item => (fieldsOr item).toOption) docs := by
  induction reads with
  | nil => exact .nil
  | cons head _ ih =>
    obtain ⟨fields, here, related⟩ := head
    rw [List.filterMap_cons, here]
    exact .cons related ih

theorem readStep_from {index : ℕ} {fields : Dict} {s : StepDoc} (read : readStep index fields = .ok s) :
    StepFrom fields s := by
  unfold readStep at read
  dsimp only at read
  obtain ⟨-, read⟩ := raised_or read
  obtain ⟨-, read⟩ := raised_or read
  obtain ⟨-, read⟩ := raised_or read
  obtain ⟨-, read⟩ := raised_or read
  obtain ⟨pathid, -, read⟩ := bind_eq_ok.mp read
  obtain ⟨items, listed, read⟩ := bind_eq_ok.mp read
  obtain ⟨parameters, results, read⟩ := bind_eq_ok.mp read
  obtain ⟨dependsOn, -, read⟩ := bind_eq_ok.mp read
  cases Except.ok.inj read
  refine ⟨rfl, ?_⟩
  rw [rawItems_eq listed]
  refine forall₂_filterMap ((mapM_ok results).imp fun item p reads => ?_)
  obtain ⟨fields, here, reads⟩ := bind_eq_ok.mp reads
  exact ⟨fields, here, readParameter_from reads⟩

theorem readSteps_from {items : List Json} {index : ℕ} {steps : List StepDoc} (read : readSteps index items = .ok steps) :
    List.Forall₂ (fun item s => ∃ fields, fieldsOr item = .ok fields ∧ StepFrom fields s) items steps := by
  induction items generalizing index steps with
  | nil =>
    cases Except.ok.inj read
    exact .nil
  | cons item rest ih =>
    rw [readSteps] at read
    obtain ⟨fields, here, read⟩ := bind_eq_ok.mp read
    obtain ⟨step, first, read⟩ := bind_eq_ok.mp read
    obtain ⟨others, later, read⟩ := bind_eq_ok.mp read
    cases Except.ok.inj read
    exact .cons ⟨fields, here, readStep_from first⟩ (ih later)

theorem stepFrom_checked {raws : List Dict} {steps docs : List StepDoc} (from_raw : List.Forall₂ StepFrom raws steps)
    (same : List.Forall₂ (fun step doc : StepDoc => ∃ names, doc = { step with dependsOn := names }) steps docs) :
    List.Forall₂ StepFrom raws docs := by
  induction from_raw generalizing docs with
  | nil =>
    cases same
    exact .nil
  | cons head _ ih =>
    cases same with
    | cons first rest =>
      obtain ⟨names, rfl⟩ := first
      exact .cons ⟨head.pathTemplate, head.parameters⟩ (ih rest)

/-- The steps of an accepted document are read from the steps of the raw one. -/
theorem normalizeDocument_from {search : String → String → Bool} {raw : Dict} {d : ChainDoc}
    (accepted : normalizeDocument search (.obj raw) = .ok d) : List.Forall₂ StepFrom (rawItems raw "steps") d.steps := by
  unfold normalizeDocument at accepted
  dsimp only at accepted
  obtain ⟨-, accepted⟩ := raised_or accepted
  obtain ⟨-, accepted⟩ := raised_or accepted
  obtain ⟨items, listed, accepted⟩ := bind_eq_ok.mp accepted
  obtain ⟨steps, read, accepted⟩ := bind_eq_ok.mp accepted
  obtain ⟨-, accepted⟩ := raised_or accepted
  obtain ⟨refs, -, accepted⟩ := bind_eq_ok.mp accepted
  obtain ⟨profile_items, -, accepted⟩ := bind_eq_ok.mp accepted
  obtain ⟨profiles, -, accepted⟩ := bind_eq_ok.mp accepted
  obtain ⟨-, accepted⟩ := raised_or accepted
  obtain ⟨-, accepted⟩ := raised_or accepted
  obtain ⟨docs, checks, accepted⟩ := bind_eq_ok.mp accepted
  obtain ⟨⟨⟩, -, accepted⟩ := bind_eq_ok.mp accepted
  cases Except.ok.inj accepted
  rw [rawItems_eq listed]
  exact stepFrom_checked (forall₂_filterMap (readSteps_from read)) (checkDocs_ok checks).2

/-! ## Documents of text -/

section
variable {float : String → String}

theorem isDocument_get? {raw : Dict} (document : (Json.obj raw).isDocument float = true) {key : String} {value : Json}
    (here : Dict.get? raw key = some value) : value.isDocument float = true := by
  obtain ⟨e, found, rfl⟩ := Option.map_eq_some_iff.mp here
  exact (isDocument_obj.mp document).2 e (List.mem_of_find?_eq_some found)

theorem isDocument_get {raw : Dict} (document : (Json.obj raw).isDocument float = true) (key : String) :
    (Dict.get raw key).isDocument float = true := by
  unfold Dict.get
  cases here : Dict.get? raw key with
  | none => rfl
  | some value => exact isDocument_get? document here

theorem isDocument_itemsOr {value : Json} (document : value.isDocument float = true) {items : List Json}
    (listed : itemsOr value = .ok items) : ∀ item ∈ items, item.isDocument float = true := by
  unfold itemsOr at listed
  split at listed
  · have listed := mapError_ok listed
    cases value with
    | null | bool | int | float => nomatch listed
    | arr values =>
      cases Except.ok.inj listed
      exact isDocument_arr.mp document
    | str s =>
      cases Except.ok.inj listed
      intro item mem
      obtain ⟨c, -, rfl⟩ := List.mem_map.mp mem
      rfl
    | obj fields =>
      cases Except.ok.inj listed
      intro item mem
      obtain ⟨e, -, rfl⟩ := List.mem_map.mp mem
      rfl
  · cases Except.ok.inj listed
    exact fun _ mem => absurd mem List.not_mem_nil

theorem isDocument_fieldsOr {item : Json} (document : item.isDocument float = true) {fields : Dict}
    (here : fieldsOr item = .ok fields) : (Json.obj fields).isDocument float = true := by
  have here := mapError_ok here
  unfold mappingOr at here
  split at here
  · split at here
    · cases Except.ok.inj here
      exact document
    · cases here
  · cases Except.ok.inj here
    rfl

theorem isDocument_rawItems {raw : Dict} (document : (Json.obj raw).isDocument float = true) (key : String) :
    ∀ fields ∈ rawItems raw key, (Json.obj fields).isDocument float = true := by
  intro fields mem
  unfold rawItems at mem
  split at mem
  · next items listed =>
    obtain ⟨item, there, here⟩ := List.mem_filterMap.mp mem
    have documents := isDocument_itemsOr (isDocument_get document key) listed item there
    cases read : fieldsOr item with
    | error e => rw [read] at here; nomatch here
    | ok read_fields =>
      rw [read] at here
      cases Option.some.inj here
      exact isDocument_fieldsOr documents read
  · exact absurd mem List.not_mem_nil

theorem haveDocuments_append {fields fields' : Dict} (first : ∀ e ∈ fields, e.2.isDocument float = true)
    (second : ∀ e ∈ fields', e.2.isDocument float = true) : ∀ e ∈ fields ++ fields', e.2.isDocument float = true := by
  intro e mem
  rcases List.mem_append.mp mem with mem | mem
  · exact first e mem
  · exact second e mem

theorem isDocument_optionalText (key text : String) : ∀ e ∈ optionalText key text, e.2.isDocument float = true := by
  intro e mem
  unfold optionalText at mem
  split at mem
  · exact absurd mem List.not_mem_nil
  · rw [List.mem_singleton.mp mem]
    rfl

theorem keys_optionalText (key text : String) : ((optionalText key text).map (·.1)).Sublist [key] := by
  unfold optionalText
  split
  · exact List.nil_sublist [key]
  · exact List.Sublist.refl [key]

theorem ParameterDoc.isDocument {p : ParameterDoc}
    (constant : ∀ value, p.source = .constant value → value.isDocument float = true) :
    (Json.obj p.toDict).isDocument float = true := by
  obtain ⟨⟨name, place, type, required, source, sourceResponseRef⟩, description⟩ := p
  have described : ∀ e ∈ optionalText "description" description, e.2.isDocument float = true := isDocument_optionalText _ _
  have keys := keys_optionalText "description" description
  rw [isDocument_obj]
  unfold ParameterDoc.toDict
  dsimp only
  cases source with
  | constant value =>
    constructor
    · rw [List.map_append, List.map_append]
      refine List.Nodup.sublist ((List.Sublist.refl _).append keys |>.append (List.Sublist.refl _)) ?_
      change List.Nodup ["name", "position", "type", "required", "source", "description", "value"]
      decide
    · refine haveDocuments_append (haveDocuments_append ?_ described) ?_
      · simp [Json.isDocument]
      · intro e mem
        rw [List.mem_singleton.mp mem]
        exact constant value rfl
  | upstreamRef ref requiredNonEmpty =>
    have responses : ∀ e ∈ optionalText "source_response_ref" sourceResponseRef, e.2.isDocument float = true := isDocument_optionalText _ _
    have response_keys := keys_optionalText "source_response_ref" sourceResponseRef
    constructor
    · rw [List.map_append, List.map_append, List.map_append]
      refine List.Nodup.sublist (((List.Sublist.refl _).append keys).append ((List.Sublist.refl _).append response_keys)) ?_
      change List.Nodup ["name", "position", "type", "required", "source", "description", "ref", "required_non_empty",
        "source_response_ref"]
      decide
    · refine haveDocuments_append (haveDocuments_append ?_ described) (haveDocuments_append ?_ responses)
      · simp [Json.isDocument]
      · simp [Json.isDocument]

theorem isDocument_texts (names : List String) : (Json.arr (names.map .str)).isDocument float = true := by
  rw [isDocument_arr]
  intro value mem
  obtain ⟨name, -, rfl⟩ := List.mem_map.mp mem
  rfl

theorem isDocument_docs {α : Type} {write : α → Dict} {docs : List α}
    (documents : ∀ doc ∈ docs, (Json.obj (write doc)).isDocument float = true) :
    (Json.arr (docs.map fun doc => .obj (write doc))).isDocument float = true := by
  rw [isDocument_arr]
  intro value mem
  obtain ⟨doc, there, rfl⟩ := List.mem_map.mp mem
  exact documents doc there

theorem StepDoc.isDocument {s : StepDoc}
    (constants : ∀ p ∈ s.parameters, ∀ value, p.source = .constant value → value.isDocument float = true) :
    (Json.obj s.toDict).isDocument float = true := by
  have parameters := isDocument_docs fun p mem => ParameterDoc.isDocument (constants p mem)
  have described : ∀ e ∈ optionalText "description" s.description, e.2.isDocument float = true := isDocument_optionalText _ _
  have keys := keys_optionalText "description" s.description
  rw [isDocument_obj]
  unfold StepDoc.toDict
  constructor
  · rw [List.map_append, List.map_append]
    refine List.Nodup.sublist (((List.Sublist.refl _).append keys).append (List.Sublist.refl _)) ?_
    change List.Nodup ["step_id", "response_ref", "pathid", "method", "path_template", "placeholder_style",
      "account_profile", "parameters", "description", "depends_on"]
    decide
  · refine haveDocuments_append (haveDocuments_append ?_ described) ?_
    · rw [Json.isDocument] at parameters
      simp [Json.isDocument, parameters]
    · intro e mem
      rw [List.mem_singleton.mp mem]
      exact isDocument_texts s.dependsOn

theorem ProfileDoc.isDocument (p : ProfileDoc) : (Json.obj p.toDict).isDocument float = true := by
  have described : ∀ e ∈ optionalText "description" p.description, e.2.isDocument float = true := isDocument_optionalText _ _
  have keys := keys_optionalText "description" p.description
  rw [isDocument_obj]
  unfold ProfileDoc.toDict
  constructor
  · rw [List.map_append]
    refine List.Nodup.sublist ((List.Sublist.refl _).append keys) ?_
    change List.Nodup ["alias", "auth_mode", "profile_ref", "account_ref", "provider_ref", "context_ref", "role",
      "description"]
    decide
  · refine haveDocuments_append ?_ described
    simp [Json.isDocument]

theorem ChainDoc.isDocument {d : ChainDoc}
    (constants : ∀ s ∈ d.steps, ∀ p ∈ s.parameters, ∀ value, p.source = .constant value → value.isDocument float = true) :
    (Json.obj d.toDict).isDocument float = true := by
  have steps := isDocument_docs fun s mem => StepDoc.isDocument (constants s mem)
  have profiles : (Json.arr (d.accountProfiles.map fun p => .obj p.toDict)).isDocument float = true :=
    isDocument_docs fun p _ => p.isDocument
  have refs : (Json.arr (d.sourceResponseRefs.map .str)).isDocument float = true := isDocument_texts d.sourceResponseRefs
  have described : ∀ e ∈ optionalText "description" d.description, e.2.isDocument float = true := isDocument_optionalText _ _
  have keys := keys_optionalText "description" d.description
  rw [isDocument_obj]
  unfold ChainDoc.toDict
  constructor
  · rw [List.map_append]
    refine List.Nodup.sublist ((List.Sublist.refl _).append keys) ?_
    change List.Nodup ["schema_version", "name", "title", "project_id", "env_id", "source_ref", "source_kind",
      "source_response_refs", "account_profiles", "steps", "description"]
    decide
  · refine haveDocuments_append ?_ described
    rw [Json.isDocument] at steps profiles refs
    simp [Json.isDocument, steps, profiles, refs]

/-- What is accepted of a document is a document. -/
theorem normalizeDocument_isDocument {search : String → String → Bool} {raw : Dict} {d : ChainDoc}
    (document : (Json.obj raw).isDocument float = true) (accepted : normalizeDocument search (.obj raw) = .ok d) :
    (Json.obj d.toDict).isDocument float = true := by
  refine ChainDoc.isDocument fun s s_mem p p_mem value source => ?_
  obtain ⟨step, step_mem, step_from⟩ := forall₂_right (normalizeDocument_from accepted) s s_mem
  obtain ⟨fields, fields_mem, fields_from⟩ := forall₂_right step_from.parameters p p_mem
  have step_document := isDocument_rawItems document "steps" step step_mem
  have fields_document := isDocument_rawItems step_document "parameters" fields fields_mem
  exact isDocument_get? fields_document (fields_from.constant value source)

end

end ApiManger.Chain
