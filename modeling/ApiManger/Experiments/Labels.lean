import ApiManger.Experiments.Compose
import ApiManger.Locators.Paths
import ApiManger.Python.Mapping
import ApiManger.Execution.Evidence

/-!
# The labels of a request

`build_request_payload` labels the value of each parameter it sends, and the summary that the gate
of the scheduler reads is made of the labels. They are kept by name: a name that occurs at two
positions has the label of its last row only.
-/

namespace ApiManger.Experiments
open Python Execution

/-! ## What a request carries -/

/-- `entry.position or "body"` -/
def Entry.positionOrBody (e : Entry) : String := if e.position == "" then "body" else e.position

/-- A parameter that has a name and a value is sent. -/
def Entry.Sent (e : Entry) : Prop := e.parameter ≠ "" ∧ e.resolve.value ≠ .null

instance (e : Entry) : Decidable e.Sent := inferInstanceAs (Decidable (_ ∧ _))

/-- The locator a parameter of the body is set at. -/
def Composer.locatorOf (composer : Composer) (e : Entry) : Dict :=
  if e.locator.isEmpty then composer.parameterLocator e e.positionOrBody else e.locator

/-- The step one token of a locator takes; a wildcard is the first item. -/
def stepOfToken : Json → Option Evidence.Step
  | .obj token =>
    if Dict.get token "kind" = .str "property" then some (.key (Dict.get token "value").strOrEmpty)
    else if Dict.get token "kind" = .str "array" then
      if Dict.truthy token "wildcard" then some (.index 0)
      else match Dict.get token "index" with
        | .null => some (.index 0)
        | .int index => if 0 ≤ index then some (.index index.toNat) else none
        | _ => none
    else none
  | _ => none

/-- The steps of a locator; none where its tokens cannot be read. -/
def stepsOfLocator (locator : Dict) : List Evidence.Step :=
  match Dict.get locator "tokens" with
  | .arr tokens => (tokens.mapM stepOfToken).getD []
  | _ => []

/-- Two paths that part inside one container, so that what is written along the one leaves the
other. -/
def parts : List Evidence.Step → List Evidence.Step → Bool
  | .key a :: steps, .key b :: steps' => a != b || parts steps steps'
  | .index i :: steps, .index j :: steps' => i != j || parts steps steps'
  | _, _ => false

/-- Where a parameter is written: under its name, or along a path of the body. -/
inductive Place where
  | named (position name : String)
  | body (steps : List Evidence.Step)

def Composer.placeOf (composer : Composer) (e : Entry) : Place :=
  if ["query", "header", "path", "cookie"].contains e.positionOrBody then .named e.positionOrBody e.parameter
  else .body (stepsOfLocator (composer.locatorOf e))

/-- What is written at the one place leaves the other. -/
def Place.apart : Place → Place → Bool
  | .named position name, .named position' name' => position != position' || name != name'
  | .body steps, .body steps' => parts steps steps'
  | _, _ => true

/-- The parameter is sent, and no later one takes its place. -/
def Carried (composer : Composer) (entries : List Entry) (e : Entry) : Prop :=
  e.Sent ∧ ∃ earlier later, entries = earlier ++ e :: later ∧
    ∀ e' ∈ later, e'.Sent → (composer.placeOf e').apart (composer.placeOf e) = true

/-- A required parameter with a synthetic default, or with a placeholder the target never returned. -/
def Entry.Unestablished (e : Entry) : Prop :=
  e.required = true ∧ (e.resolve.source = .str "empty_default" ∨
    (isPlaceholderValue e.resolve.value = true ∧ e.resolve.valueQuality ≠ .str "observed"))

/-- The request carries a required value nobody established. -/
def CarriesUnestablished (composer : Composer) (entries : List Entry) : Prop :=
  ∃ e, e.Unestablished ∧ Carried composer entries e

/-! ## The labels of a stored request -/

/-- The record of a parameter in `parameter_sources`. -/
def Composer.recordOf (composer : Composer) (e : Entry) : Json :=
  if e.resolve.value = .null then omittedSource e e.positionOrBody e.resolve
  else sentSource e e.positionOrBody e.resolve (composer.locatorOf e)

/-- The records with the one of another parameter. -/
def Composer.keepRecord (composer : Composer) (records : Mapping Json) (e : Entry) : Mapping Json :=
  if e.parameter == "" then records else records.set e.parameter (composer.recordOf e)

/-- The row whose record stands under a name: the last one of the name. -/
def lastNamed (entries : List Entry) (name : String) : Option Entry :=
  entries.reverse.find? fun e => e.parameter != "" && e.parameter == name

def RecordBlocks : Json → Prop
  | .obj info => Dict.truthy info "required" = true ∧
    (strOr info "source" "" ∈ Execution.requiredPathBlockingSources ∨ strOr info "value_quality" "" = "placeholder")
  | _ => False

/-- A required parameter that is sent under a label which blocks a pass. -/
def Entry.Blocking (e : Entry) : Prop :=
  e.required = true ∧ e.resolve.value ≠ .null ∧
    (e.resolve.source.strOrEmpty ∈ Execution.requiredPathBlockingSources ∨ e.resolve.label.strOrEmpty = "placeholder")

/-- Some name has a last row that blocks a pass. -/
def BlocksPass (entries : List Entry) : Prop := ∃ e, lastNamed entries e.parameter = some e ∧ e.Blocking

section
variable {composer : Composer} {context : ComposeContext} {data : Endpoint} {payload : Payload}

theorem addEntry_records {draft draft' : Draft} {records : Mapping Json} {e : Entry}
    (before : draft.parameterSources = records.items) (added : addEntry composer draft e = .ok draft') :
    draft'.parameterSources = (composer.keepRecord records e).items := by
  unfold addEntry at added
  unfold Composer.keepRecord
  split at added
  · next unnamed =>
    cases added
    rw [if_pos unnamed, before]
  · next named =>
    rw [if_neg named]
    have kept : ∀ record : Json, record = composer.recordOf e →
        Dict.set draft.parameterSources e.parameter record = (records.set e.parameter (composer.recordOf e)).items := by
      rintro _ rfl
      rw [before]
      rfl
    have position : (if e.position == "" then "body" else e.position) = e.positionOrBody := rfl
    have locator : (if e.locator.isEmpty then composer.parameterLocator e e.positionOrBody else e.locator) =
        composer.locatorOf e := rfl
    simp only [position, locator] at added
    split at added
    · next omitted =>
      cases added
      exact kept _ (if_pos omitted).symm
    · next sent =>
      have record := kept _ (if_neg sent).symm
      split at added
      · cases added; exact record
      split at added
      · cases added; exact record
      split at added
      · cases added; exact record
      split at added
      · cases added; exact record
      obtain ⟨body, -, done⟩ := bind_eq_ok.mp added
      cases done
      exact record

theorem composed_records (built : buildRequestPayload composer context data = .ok payload) :
    payload.parameterSources = (data.entries.foldl composer.keepRecord .empty).items := by
  have loop : ∀ (entries : List Entry) (draft draft' : Draft) (records : Mapping Json),
      draft.parameterSources = records.items → entries.foldlM (addEntry composer) draft = .ok draft' →
        draft'.parameterSources = (entries.foldl composer.keepRecord records).items := by
    intro entries
    induction entries with
    | nil =>
      intro draft draft' records before done
      cases done
      exact before
    | cons e entries ih =>
      intro draft draft' records before done
      obtain ⟨next, added, rest⟩ := bind_eq_ok.mp done
      exact ih next draft' _ (addEntry_records before added) rest
  obtain ⟨draft, composed, done⟩ := bind_eq_ok.mp built
  cases done
  exact loop data.entries _ draft .empty rfl composed

theorem get?_records (composer : Composer) (entries : List Entry) (name : String) :
    (entries.foldl composer.keepRecord .empty).get? name = (lastNamed entries name).map composer.recordOf := by
  induction entries using List.reverseRecOn with
  | nil => rfl
  | append_singleton entries e ih =>
    rw [List.foldl_append, List.foldl_cons, List.foldl_nil, Composer.keepRecord, lastNamed, List.reverse_append,
      List.reverse_singleton, List.singleton_append, List.find?_cons]
    by_cases unnamed : e.parameter = ""
    · simp only [unnamed, beq_self_eq_true, if_true, bne_self_eq_false, Bool.false_and]
      exact ih
    · rw [if_neg (by simpa using unnamed), Mapping.get?_set]
      by_cases here : e.parameter = name
      · subst here
        have named : (e.parameter != "") = true := bne_iff_ne.mpr unnamed
        simp [named]
      · simp only [here, if_false, beq_eq_false_iff_ne.mpr here, Bool.and_false]
        exact ih

/-- A list of names is bounded to none only where there is none. -/
theorem bounded_isEmpty (names : List String) : (bounded names).isEmpty = names.isEmpty := by
  have long : (bounded names).length = min 20 names.length := by
    rw [bounded, List.length_take, List.length_insertionSort]
  cases names with
  | nil => rfl
  | cons name names =>
    have some : 0 < (bounded (name :: names)).length := by
      rw [long, List.length_cons]
      omega
    cases found : bounded (name :: names) with
    | nil =>
      rw [found] at some
      cases some
    | cons _ _ => rfl

theorem mem_requiredParameters {sources : Dict} {p : String × String × String} :
    p ∈ requiredParameters sources ↔ ∃ info, (p.1, .obj info) ∈ sources ∧ Dict.truthy info "required" = true ∧
      strOr info "source" "" = p.2.1 ∧ strOr info "value_quality" "" = p.2.2 := by
  rw [requiredParameters, List.mem_filterMap]
  constructor
  · rintro ⟨⟨name, record⟩, mem, found⟩
    cases record with
    | obj info =>
      dsimp only at found
      split at found
      · next required =>
        cases found
        exact ⟨info, mem, required, rfl, rfl⟩
      · cases found
    | _ => cases found
  · rintro ⟨info, mem, required, source, quality⟩
    refine ⟨(p.1, .obj info), mem, ?_⟩
    dsimp only
    rw [if_pos required, source, quality]

/-- The summary blocks a pass where a record does. -/
theorem summary_blocks (sources : Dict) :
    (requiredParameterQualitySummary sources).blocksPass = true ↔ ∃ e ∈ sources, RecordBlocks e.2 := by
  have some : ∀ listed : List (String × String × String), (!(bounded (listed.map (·.1))).isEmpty) = true ↔
      ∃ p, p ∈ listed := by
    intro listed
    rw [bounded_isEmpty]
    cases listed <;> simp
  simp only [requiredParameterQualitySummary, Bool.or_eq_true, some]
  constructor
  · rintro (⟨p, mem⟩ | ⟨p, mem⟩)
    · obtain ⟨mem, synthetic⟩ := List.mem_filter.mp mem
      obtain ⟨info, stored, required, source, -⟩ := mem_requiredParameters.mp mem
      exact ⟨(p.1, .obj info), stored, required, .inl (source ▸ List.contains_iff_mem.mp synthetic)⟩
    · obtain ⟨mem, placeholder⟩ := List.mem_filter.mp mem
      obtain ⟨info, stored, required, -, quality⟩ := mem_requiredParameters.mp (List.mem_of_mem_filter mem)
      exact ⟨(p.1, .obj info), stored, required, .inr (quality ▸ beq_iff_eq.mp placeholder)⟩
  · rintro ⟨⟨name, record⟩, mem, blocks⟩
    cases record with
    | obj info =>
      obtain ⟨required, reason⟩ := blocks
      have listed := mem_requiredParameters (p := (name, strOr info "source" "", strOr info "value_quality" "")).mpr
        ⟨info, mem, required, rfl, rfl⟩
      by_cases synthetic : strOr info "source" "" ∈ Execution.requiredPathBlockingSources
      · exact .inl ⟨_, List.mem_filter.mpr ⟨listed, List.contains_iff_mem.mpr synthetic⟩⟩
      · refine .inr ⟨_, List.mem_filter.mpr ⟨List.mem_filter.mpr ⟨listed, ?_⟩, ?_⟩⟩
        · simpa using synthetic
        · exact beq_iff_eq.mpr (reason.resolve_left synthetic)
    | _ => exact blocks.elim

theorem recordOf_blocks (composer : Composer) (e : Entry) : RecordBlocks (composer.recordOf e) ↔ e.Blocking := by
  unfold Composer.recordOf Entry.Blocking
  split
  · next omitted =>
    have unknown : ¬ RecordBlocks (omittedSource e e.positionOrBody e.resolve) := by
      rintro ⟨-, reason⟩
      simp [strOr, Dict.truthy, Dict.get, Dict.get?, Json.truthy, Json.pyStr, Execution.requiredPathBlockingSources] at reason
    simp [unknown, omitted]
  · next sent =>
    have read : RecordBlocks (sentSource e e.positionOrBody e.resolve (composer.locatorOf e)) ↔
        (Json.bool e.required).truthy = true ∧ (e.resolve.source.strOrEmpty ∈ Execution.requiredPathBlockingSources ∨
          e.resolve.label.strOrEmpty = "placeholder") := Iff.rfl
    rw [read]
    simp [Json.truthy, sent]

/-- The summary of a composed request blocks a pass where the last row of some name does. -/
theorem composed_blocks (built : buildRequestPayload composer context data = .ok payload) :
    (requiredParameterQualitySummary payload.parameterSources).blocksPass = true ↔ BlocksPass data.entries := by
  rw [summary_blocks, composed_records built]
  constructor
  · rintro ⟨⟨name, record⟩, mem, blocks⟩
    have found := Mapping.mem_iff.mp mem
    rw [get?_records] at found
    obtain ⟨e, last, rfl⟩ := Option.map_eq_some_iff.mp found
    have found := List.find?_some (show List.find? _ _ = some e from last)
    obtain rfl : e.parameter = name := beq_iff_eq.mp (Bool.and_eq_true_iff.mp found).2
    exact ⟨e, last, (recordOf_blocks composer e).mp blocks⟩
  · rintro ⟨e, last, blocks⟩
    refine ⟨(e.parameter, composer.recordOf e), Mapping.mem_iff.mpr ?_, (recordOf_blocks composer e).mpr blocks⟩
    rw [get?_records, last]
    rfl

end

end ApiManger.Experiments
