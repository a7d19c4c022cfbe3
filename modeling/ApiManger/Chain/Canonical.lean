import ApiManger.Chain.Raw
import ApiManger.Python.Canonical

/-!
# Canonical chain definitions

What `normalize_chain_definition` returns is read as itself, also after a trip through text, which
sorts the keys of every object. Both are instances of reading a view of a document: a function on
documents that keeps scalars and the values of keys.
-/

namespace ApiManger.Chain
open Python Recipe

/-! ## Views -/

/-- The values of the keys of a dictionary, each seen through `c`. -/
def SeenThrough (c : Json → Json) (fields fields' : Dict) : Prop :=
  ∀ key, Dict.get? fields' key = (Dict.get? fields key).map c

/-- A way to see documents that keeps scalars, the order of lists and the keys of objects. -/
structure View (c : Json → Json) : Prop where
  str : ∀ s, c (.str s) = .str s
  bool : ∀ b, c (.bool b) = .bool b
  int : ∀ n, c (.int n) = .int n
  arr : ∀ items, c (.arr items) = .arr (items.map c)
  obj : ∀ fields, ∃ fields', c (.obj fields) = .obj fields' ∧ SeenThrough c fields fields'
  empty : ∀ value, (c value).truthy = value.truthy

theorem View.self : View id where
  str _ := rfl
  bool _ := rfl
  int _ := rfl
  arr items := by rw [List.map_id]; rfl
  obj fields := ⟨fields, rfl, fun key => by rw [Option.map_id]; rfl⟩
  empty _ := rfl

/-- The keys in order. -/
theorem View.canonical : View Json.canonical where
  str _ := rfl
  bool _ := rfl
  int _ := rfl
  arr items := by rw [Json.canonical, Json.canonicalItems_eq]
  obj fields := ⟨_, rfl, fun key => Json.get?_canonicalFields key fields⟩
  empty value := Json.Same.truthy (Json.canonical_canonical value)

/-- A text that is read as itself. -/
def Plain (text : String) : Prop := stripped text = text

instance (text : String) : Decidable (Plain text) := inferInstanceAs (Decidable (stripped text = text))

/-! ## Entries that may be left out -/

theorem get?_optionalText_self (key text : String) {rest : Dict} (absent : Dict.get? rest key = none) :
    Dict.get? (optionalText key text ++ rest) key = if text == "" then none else some (.str text) := by
  unfold optionalText
  split
  · exact absent
  · rw [List.cons_append, Dict.get?_cons, if_pos (beq_self_eq_true key)]

theorem get?_optionalText_ne {key other : String} (text : String) (rest : Dict) (ne : key ≠ other) :
    Dict.get? (optionalText key text ++ rest) other = Dict.get? rest other := by
  unfold optionalText
  split
  · rfl
  · rw [List.cons_append, Dict.get?_cons, if_neg (by simpa using ne)]
    rfl

section
variable {c : Json → Json} (view : View c) {fields fields' : Dict} (seen : SeenThrough c fields fields')
include view seen

theorem View.text {key s : String} (plain : Plain s) (here : Dict.get? fields key = some (.str s)) :
    textOf fields' key = s := by
  unfold textOf Dict.get
  rw [seen key, here, Option.map_some, view.str]
  exact plain

/-- A text that is left out where it is empty. -/
theorem View.optional {key s : String} (plain : Plain s)
    (here : Dict.get? fields key = if s == "" then none else some (.str s)) : textOf fields' key = s := by
  by_cases empty : s = ""
  · subst empty
    unfold textOf Dict.get
    rw [seen key, here]
    rfl
  · refine view.text seen plain ?_
    rw [here, if_neg (by simpa using empty)]

end

/-! ## What was read is plain -/

theorem pyText_plain (value : Json) : Plain (pyText value) := by
  cases value with
  | null => rfl
  | bool | int | float | str | arr | obj => exact stripped_stripped _

theorem textOf_plain (raw : Dict) (key : String) : Plain (textOf raw key) := pyText_plain _

/-- A parameter that `_normalize_parameter` has read. -/
structure ParameterDoc.Normal (p : ParameterDoc) : Prop where
  name : Plain p.name
  named : p.name ≠ ""
  type : Plain p.type
  typed : p.type ≠ ""
  harmless : isSensitiveName p.name = false
  description : Plain p.description
  constant : ∀ value, p.source = .constant value → p.sourceResponseRef = ""
  upstream : ∀ ref requiredNonEmpty, p.source = .upstreamRef ref requiredNonEmpty →
    Plain ref ∧ ref ≠ "" ∧ (∃ parsed, parseUpstreamRef ref = .ok parsed) ∧ Plain p.sourceResponseRef

theorem positionOf_text (place : Position) : positionOf place.text = some place := by
  cases place <;> decide

theorem readParameter_normal {stepId : String} {raw : Dict} {p : ParameterDoc} (read : readParameter stepId raw = .ok p) :
    p.Normal := by
  unfold readParameter at read
  dsimp only at read
  obtain ⟨named, read⟩ := raised_or read
  split at read
  · nomatch read
  next place _ =>
  obtain ⟨sourced, read⟩ := raised_or read
  obtain ⟨harmless, read⟩ := raised_or read
  have typed : ∀ text, Plain text → Plain (if text == "" then "string" else text) ∧
      (if text == "" then "string" else text) ≠ "" := by
    intro text plain
    split
    · exact ⟨by decide, by decide⟩
    · next present => exact ⟨plain, by simpa using present⟩
  obtain ⟨type, some_type⟩ := typed (textOf raw "type") (textOf_plain raw "type")
  have name := textOf_plain raw "name"
  have some_name : textOf raw "name" ≠ "" := by simpa using named
  have safe : isSensitiveName (textOf raw "name") = false := by simpa using harmless
  have description := textOf_plain raw "description"
  split at read
  · obtain ⟨addressed, read⟩ := raised_or read
    obtain ⟨parsed, parses, read⟩ := bind_eq_ok.mp read
    cases Except.ok.inj read
    refine ⟨name, some_name, type, some_type, safe, description, ?_, ?_⟩
    · intro value source
      nomatch source
    · intro ref requiredNonEmpty source
      obtain ⟨rfl, -⟩ := ParameterSource.upstreamRef.inj source
      exact ⟨textOf_plain raw "ref", by simpa using addressed, ⟨parsed, parses⟩, textOf_plain raw "source_response_ref"⟩
  · split at read
    · nomatch read
    · cases Except.ok.inj read
      refine ⟨name, some_name, type, some_type, safe, description, fun _ _ => rfl, ?_⟩
      intro ref requiredNonEmpty source
      nomatch source

/-- A parameter with its value seen through `c`. -/
def ParameterDoc.view (c : Json → Json) (p : ParameterDoc) : ParameterDoc :=
  { p with source := match p.source with
    | .constant value => .constant (c value)
    | .upstreamRef ref requiredNonEmpty => .upstreamRef ref requiredNonEmpty }

variable {c : Json → Json} {steps docs : List StepDoc} {profiles : List ChainAccountProfile}
  {search : String → String → Bool} {d : ChainDoc}

theorem readParameter_view (view : View c) {p : ParameterDoc} (normal : p.Normal) {fields : Dict}
    (seen : SeenThrough c p.toDict fields) (stepId : String) : readParameter stepId fields = .ok (p.view c) := by
  obtain ⟨⟨name, place, type, required, source, sourceResponseRef⟩, description⟩ := p
  obtain ⟨name_plain, named, type_plain, typed, harmless, described, constant, upstream⟩ := normal
  dsimp only at name_plain named type_plain typed harmless described constant upstream
  have name_read : textOf fields "name" = name := view.text seen name_plain rfl
  have place_read : textOf fields "position" = place.text := by
    refine view.text seen ?_ rfl
    cases place <;> decide
  have lower_place : lower place.text = place.text := by cases place <;> decide
  have type_read : textOf fields "type" = type := view.text seen type_plain rfl
  have required_read : (Dict.get fields "required").truthy = required := by
    unfold Dict.get
    rw [seen "required"]
    change (c (.bool required)).truthy = required
    rw [view.bool]
    rfl
  have no_name : ¬ (name == "") = true := by simpa using named
  have no_type : ¬ (type == "") = true := by simpa using typed
  have safe : ¬ isSensitiveName name = true := by rw [harmless]; decide
  unfold readParameter
  dsimp only
  rw [name_read, if_neg no_name, place_read, lower_place, positionOf_text]
  dsimp only
  cases source with
  | constant value =>
    have source_read : textOf fields "source" = "constant" := view.text seen (by decide) rfl
    have no_description : Dict.get? [("value", value)] "description" = none := rfl
    have description_read : textOf fields "description" = description :=
      view.optional seen described (get?_optionalText_self "description" description no_description)
    have value_read : Dict.get? fields "value" = some (c value) := by
      rw [seen "value"]
      have here := get?_optionalText_ne description [("value", value)] (by decide : "description" ≠ "value")
      exact congrArg (Option.map c) here
    rw [source_read, if_neg (by decide), if_neg safe, type_read, if_neg no_type, required_read, description_read,
      if_neg (by decide), value_read]
    have unset := constant value rfl
    subst unset
    rfl
  | upstreamRef ref requiredNonEmpty =>
    obtain ⟨ref_plain, addressed, ⟨parsed, parses⟩, response_plain⟩ := upstream ref requiredNonEmpty rfl
    have source_read : textOf fields "source" = "upstream_ref" := view.text seen (by decide) rfl
    let response := optionalText "source_response_ref" sourceResponseRef
    let rest : Dict := ("ref", .str ref) :: ("required_non_empty", .bool requiredNonEmpty) :: response
    have no_description : Dict.get? rest "description" = none := by
      have skipped := get?_optionalText_ne sourceResponseRef [] (by decide : "source_response_ref" ≠ "description")
      rw [List.append_nil] at skipped
      exact skipped
    have description_read : textOf fields "description" = description :=
      view.optional seen described (get?_optionalText_self "description" description no_description)
    have skip : ∀ key, "description" ≠ key → Dict.get? (optionalText "description" description ++ rest) key = Dict.get? rest key :=
      fun key ne => get?_optionalText_ne description rest ne
    have ref_read : textOf fields "ref" = ref := view.text seen ref_plain (skip "ref" (by decide))
    have required_non_empty : Dict.get? fields "required_non_empty" = some (.bool requiredNonEmpty) := by
      rw [seen "required_non_empty"]
      have here := congrArg (Option.map c) (skip "required_non_empty" (by decide))
      refine here.trans ?_
      change some (c (.bool requiredNonEmpty)) = _
      rw [view.bool]
    have response_read : textOf fields "source_response_ref" = sourceResponseRef := by
      refine view.optional seen response_plain ?_
      have last := get?_optionalText_self "source_response_ref" sourceResponseRef (rfl : Dict.get? [] _ = none)
      rw [List.append_nil] at last
      exact (skip "source_response_ref" (by decide)).trans last
    have no_ref : ¬ (ref == "") = true := by simpa using addressed
    rw [source_read, if_neg (by decide), if_neg safe, type_read, if_neg no_type, required_read, description_read,
      if_pos (by decide), ref_read, if_neg no_ref, parses, required_non_empty, response_read]
    rfl

/-! ## Lists -/

theorem View.items {c : Json → Json} (view : View c) {fields fields' : Dict} (seen : SeenThrough c fields fields')
    {key : String} {items : List Json} (here : Dict.get? fields key = some (.arr items)) :
    itemsOr (Dict.get fields' key) = .ok (items.map c) := by
  unfold itemsOr Dict.get
  rw [seen key, here, Option.map_some, view.arr, Option.getD_some]
  cases items with
  | nil => rfl
  | cons first rest => rfl

theorem View.texts (view : View c) {fields fields' : Dict} (seen : SeenThrough c fields fields')
    {key : String} {names : List String} (plain : ∀ name ∈ names, Plain name ∧ name ≠ "")
    (here : Dict.get? fields key = some (.arr (names.map .str))) : textsOr (Dict.get fields' key) = .ok names := by
  have kept : ((names.map Json.str).map c).map pyText = names.map stripped := by
    rw [List.map_map, List.map_map]
    refine List.map_congr_left fun name _ => ?_
    rw [Function.comp_apply, Function.comp_apply, view.str]
    rfl
  unfold textsOr
  rw [view.items seen here]
  dsimp only [bind, Except.bind, pure, Except.pure]
  rw [kept, names_read plain]

theorem textsOr_plain {value : Json} {names : List String} (read : textsOr value = .ok names) :
    ∀ name ∈ names, Plain name ∧ name ≠ "" := by
  unfold textsOr at read
  obtain ⟨items, -, read⟩ := bind_eq_ok.mp read
  cases Except.ok.inj read
  intro name mem
  obtain ⟨mem, present⟩ := List.mem_filter.mp mem
  obtain ⟨item, -, rfl⟩ := List.mem_map.mp mem
  exact ⟨pyText_plain item, by simpa using present⟩

theorem fieldsOr_obj (fields : Dict) : fieldsOr (.obj fields) = .ok fields := by
  cases fields <;> rfl

/-- A document in a view has a view of its fields. -/
theorem View.fields {c : Json → Json} (view : View c) (fields : Dict) :
    ∃ fields', fieldsOr (c (.obj fields)) = .ok fields' ∧ SeenThrough c fields fields' := by
  obtain ⟨fields', same, seen⟩ := view.obj fields
  exact ⟨fields', by rw [same, fieldsOr_obj], seen⟩

/-- The views of documents are read as views of them. -/
theorem View.mapM {α : Type} (view : View c) {docs : List α} {write : α → Dict} {see : α → α}
    {f : Dict → Except ChainError α}
    (reads : ∀ doc ∈ docs, ∀ fields, SeenThrough c (write doc) fields → f fields = .ok (see doc)) :
    ((docs.map fun doc => Json.obj (write doc)).map c).mapM (fun item => do f (← fieldsOr item)) = .ok (docs.map see) := by
  induction docs with
  | nil => rfl
  | cons doc rest ih =>
    obtain ⟨fields, same, seen⟩ := view.fields (write doc)
    rw [List.map_cons, List.map_cons, List.mapM_cons, same, ok_bind, reads doc List.mem_cons_self fields seen, ok_bind,
      ih fun doc mem => reads doc (List.mem_cons_of_mem _ mem)]
    rfl

/-! ## Steps -/

structure StepDoc.Normal (s : StepDoc) : Prop where
  stepId : Plain s.stepId ∧ s.stepId ≠ ""
  pathTemplate : Plain s.pathTemplate ∧ s.pathTemplate ≠ ""
  method : readMethods.contains s.method = true
  responseRef : Plain s.responseRef ∧ s.responseRef ≠ ""
  accountProfile : Plain s.accountProfile
  description : Plain s.description
  parameters : ∀ p ∈ s.parameters, p.Normal
  dependsOn : ∀ name ∈ s.dependsOn, Plain name ∧ name ≠ ""

def StepDoc.view (c : Json → Json) (s : StepDoc) : StepDoc := { s with parameters := s.parameters.map (·.view c) }

theorem readStep_normal {index : ℕ} {raw : Dict} {s : StepDoc} (read : readStep index raw = .ok s) : s.Normal := by
  unfold readStep at read
  dsimp only at read
  obtain ⟨named, read⟩ := raised_or read
  obtain ⟨templated, read⟩ := raised_or read
  obtain ⟨readable, read⟩ := raised_or read
  obtain ⟨referred, read⟩ := raised_or read
  obtain ⟨pathid, -, read⟩ := bind_eq_ok.mp read
  obtain ⟨items, -, read⟩ := bind_eq_ok.mp read
  obtain ⟨parameters, results, read⟩ := bind_eq_ok.mp read
  obtain ⟨dependsOn, texts, read⟩ := bind_eq_ok.mp read
  cases Except.ok.inj read
  refine ⟨⟨textOf_plain raw _, by simpa using named⟩, ⟨textOf_plain raw _, by simpa using templated⟩, by simpa using readable,
    ⟨textOf_plain raw _, by simpa using referred⟩, textOf_plain raw _, textOf_plain raw _, ?_, textsOr_plain texts⟩
  intro p mem
  obtain ⟨item, -, reads⟩ := forall₂_right (mapM_ok results) p mem
  obtain ⟨fields, -, reads⟩ := bind_eq_ok.mp reads
  exact readParameter_normal reads

theorem readStep_view (view : View c) {s : StepDoc} (normal : s.Normal) {fields : Dict}
    (seen : SeenThrough c s.toDict fields) (index : ℕ) : readStep index fields = .ok (s.view c) := by
  obtain ⟨stepId, responseRef, pathid, method, template, profile, parameters, description, dependsOn⟩ := s
  obtain ⟨⟨id_plain, named⟩, ⟨template_plain, templated⟩, readable, ⟨ref_plain, referred⟩, profile_plain, described, each,
    dependencies⟩ := normal
  dsimp only at id_plain named template_plain templated readable ref_plain referred profile_plain described each dependencies
  have id_read : textOf fields "step_id" = stepId := view.text seen id_plain rfl
  have template_read : textOf fields "path_template" = template := view.text seen template_plain rfl
  have method_read : upper (textOf fields "method") = method := by
    have again := readMethod_again readable
    unfold textOf Dict.get
    rw [seen "method"]
    change upper (pyText (c (.str method))) = method
    rw [view.str]
    exact again
  have ref_read : textOf fields "response_ref" = responseRef := view.text seen ref_plain rfl
  have profile_read : textOf fields "account_profile" = profile := view.text seen profile_plain rfl
  have pathid_read : Dict.get fields "pathid" = .int pathid := by
    unfold Dict.get
    rw [seen "pathid"]
    exact view.int pathid
  have pathid_int : asIntField (.int pathid) (stepId ++ ":pathid") = .ok pathid := rfl
  have parameters_read : itemsOr (Dict.get fields "parameters") =
      .ok ((parameters.map fun p => Json.obj p.toDict).map c) := view.items seen rfl
  have each_read : ((parameters.map fun p => Json.obj p.toDict).map c).mapM
      (fun item => do readParameter stepId (← fieldsOr item)) = .ok (parameters.map (·.view c)) :=
    view.mapM fun p mem fields seen => readParameter_view view (each p mem) seen stepId
  let last : Dict := [("depends_on", .arr (dependsOn.map .str))]
  have no_description : Dict.get? last "description" = none := rfl
  have description_read : textOf fields "description" = description :=
    view.optional seen described (get?_optionalText_self "description" description no_description)
  have dependencies_read : textsOr (Dict.get fields "depends_on") = .ok dependsOn :=
    view.texts seen dependencies (get?_optionalText_ne description last (by decide : "description" ≠ "depends_on"))
  have no_id : ¬ (stepId == "") = true := by simpa using named
  have no_template : ¬ (template == "") = true := by simpa using templated
  have no_ref : ¬ (responseRef == "") = true := by simpa using referred
  have reads : ¬ (!readMethods.contains method) = true := by rw [readable]; decide
  unfold readStep
  dsimp only
  rw [id_read, template_read, method_read, ref_read, if_neg no_id, if_neg no_template, if_neg reads, if_neg no_ref, pathid_read,
    pathid_int, ok_bind, parameters_read, ok_bind, each_read, ok_bind, dependencies_read, ok_bind, description_read,
    profile_read]
  rfl

theorem readSteps_normal {items : List Json} {index : ℕ} (read : readSteps index items = .ok steps) :
    ∀ s ∈ steps, s.Normal := by
  induction items generalizing index steps with
  | nil =>
    cases Except.ok.inj read
    exact fun _ mem => absurd mem List.not_mem_nil
  | cons item rest ih =>
    rw [readSteps] at read
    obtain ⟨fields, -, read⟩ := bind_eq_ok.mp read
    obtain ⟨step, first, read⟩ := bind_eq_ok.mp read
    obtain ⟨others, later, read⟩ := bind_eq_ok.mp read
    cases Except.ok.inj read
    intro s mem
    rcases List.mem_cons.mp mem with rfl | mem
    · exact readStep_normal first
    · exact ih later s mem

theorem readSteps_view (view : View c) (normal : ∀ s ∈ steps, s.Normal) (index : ℕ) :
    readSteps index ((steps.map fun s => Json.obj s.toDict).map c) = .ok (steps.map (·.view c)) := by
  induction steps generalizing index with
  | nil => rfl
  | cons step rest ih =>
    obtain ⟨fields, same, seen⟩ := view.fields step.toDict
    rw [List.map_cons, List.map_cons, readSteps, same, ok_bind,
      readStep_view view (normal step List.mem_cons_self) seen index, ok_bind,
      ih fun s mem => normal s (List.mem_cons_of_mem _ mem)]
    rfl

/-! ## Account profiles -/

structure ProfileDoc.Normal (p : ProfileDoc) : Prop where
  profileAlias : Plain p.profileAlias ∧ p.profileAlias ≠ ""
  authMode : Plain p.authMode ∧ p.authMode ≠ ""
  supported : accountAuthModes.contains p.authMode = true
  profileRef : Plain p.profileRef
  accountRef : Plain p.accountRef
  providerRef : Plain p.providerRef
  contextRef : Plain p.contextRef
  role : Plain p.role
  description : Plain p.description

/-- Profiles read after those of some names. -/
structure ProfilesNormal (seen : List String) (profiles : List ProfileDoc) : Prop where
  each : ∀ p ∈ profiles, p.Normal
  fresh : ∀ p ∈ profiles, p.profileAlias ∉ seen
  distinct : (profiles.map (·.profileAlias)).Nodup

theorem readProfiles_normal {items : List Json} {seen : List String} {profiles : List ProfileDoc}
    (read : readProfiles seen items = .ok profiles) : ProfilesNormal seen profiles := by
  induction items generalizing seen profiles with
  | nil =>
    cases Except.ok.inj read
    exact ⟨fun _ mem => absurd mem List.not_mem_nil, fun _ mem => absurd mem List.not_mem_nil, .nil⟩
  | cons item rest ih =>
    rw [readProfiles] at read
    obtain ⟨raw, -, read⟩ := bind_eq_ok.mp read
    dsimp only at read
    obtain ⟨named, read⟩ := raised_or read
    obtain ⟨unseen, read⟩ := raised_or read
    obtain ⟨supported, read⟩ := raised_or read
    obtain ⟨others, later, read⟩ := bind_eq_ok.mp read
    cases Except.ok.inj read
    obtain ⟨each, fresh, distinct⟩ := ih later
    have mode : Plain (if textOf raw "auth_mode" == "" then "account" else textOf raw "auth_mode") ∧
        (if textOf raw "auth_mode" == "" then "account" else textOf raw "auth_mode") ≠ "" := by
      split
      · exact ⟨by decide, by decide⟩
      · next present => exact ⟨textOf_plain raw _, by simpa using present⟩
    refine ⟨fun p mem => ?_, fun p mem => ?_, ?_⟩
    · rcases List.mem_cons.mp mem with rfl | mem
      · exact ⟨⟨textOf_plain raw _, by simpa using named⟩, mode, by simpa using supported, textOf_plain raw _,
          textOf_plain raw _, textOf_plain raw _, textOf_plain raw _, textOf_plain raw _, textOf_plain raw _⟩
      · exact each p mem
    · rcases List.mem_cons.mp mem with rfl | mem
      · simpa using unseen
      · exact fun there => fresh p mem (List.mem_cons_of_mem _ there)
    · rw [List.map_cons, List.nodup_cons]
      refine ⟨fun there => ?_, distinct⟩
      obtain ⟨p, mem, same⟩ := List.mem_map.mp there
      exact fresh p mem (same ▸ List.mem_cons_self)

theorem readProfiles_view (view : View c) {profiles : List ProfileDoc} {seen : List String}
    (normal : ProfilesNormal seen profiles) :
    readProfiles seen ((profiles.map fun p => Json.obj p.toDict).map c) = .ok profiles := by
  induction profiles generalizing seen with
  | nil => rfl
  | cons p rest ih =>
    obtain ⟨each, fresh, distinct⟩ := normal
    obtain ⟨fields, same, shown⟩ := view.fields p.toDict
    have unseen := fresh p List.mem_cons_self
    have rest_normal : ProfilesNormal (p.profileAlias :: seen) rest := by
      rw [List.map_cons, List.nodup_cons] at distinct
      refine ⟨fun q mem => each q (List.mem_cons_of_mem _ mem), fun q mem there => ?_, distinct.2⟩
      rcases List.mem_cons.mp there with same | there
      · exact distinct.1 (List.mem_map.mpr ⟨q, mem, same⟩)
      · exact fresh q (List.mem_cons_of_mem _ mem) there
    obtain ⟨⟨alias_plain, named⟩, ⟨mode_plain, moded⟩, supported, profile_ref, account_ref, provider_ref, context_ref, role,
      described⟩ := each p List.mem_cons_self
    obtain ⟨⟨name, mode, profileRef, accountRef, providerRef, contextRef, roleText⟩, description⟩ := p
    dsimp only at *
    have no_name : ¬ (name == "") = true := by simpa using named
    have no_mode : ¬ (mode == "") = true := by simpa using moded
    have first : ¬ seen.contains name = true := by simpa using unseen
    have allowed : ¬ (!accountAuthModes.contains mode) = true := by rw [supported]; decide
    have last := get?_optionalText_self "description" description (rfl : Dict.get? [] "description" = none)
    rw [List.append_nil] at last
    have name_read : textOf fields "alias" = name := view.text shown alias_plain rfl
    have mode_read : textOf fields "auth_mode" = mode := view.text shown mode_plain rfl
    have profile_read : textOf fields "profile_ref" = profileRef := view.text shown profile_ref rfl
    have account_read : textOf fields "account_ref" = accountRef := view.text shown account_ref rfl
    have provider_read : textOf fields "provider_ref" = providerRef := view.text shown provider_ref rfl
    have context_read : textOf fields "context_ref" = contextRef := view.text shown context_ref rfl
    have role_read : textOf fields "role" = roleText := view.text shown role rfl
    have description_read : textOf fields "description" = description := view.optional shown described last
    rw [List.map_cons, List.map_cons, readProfiles, same, ok_bind]
    dsimp only
    rw [name_read, mode_read, profile_read, account_read, provider_read, context_read, role_read, description_read,
      if_neg no_name, if_neg first, if_neg no_mode, if_neg allowed, ih rest_normal]
    rfl

/-! ## Checks -/

def ChainParameter.view (c : Json → Json) (p : ChainParameter) : ChainParameter :=
  { p with source := match p.source with
    | .constant value => .constant (c value)
    | .upstreamRef ref requiredNonEmpty => .upstreamRef ref requiredNonEmpty }

def ChainStep.view (c : Json → Json) (s : ChainStep) : ChainStep := { s with parameters := s.parameters.map (·.view c) }

theorem StepDoc.base_view (c : Json → Json) (s : StepDoc) : (s.view c).base = s.base.view c := by
  unfold StepDoc.base StepDoc.view ChainStep.view
  dsimp only
  rw [List.map_map, List.map_map]
  rfl

theorem ChainParameter.ref?_view (c : Json → Json) (p : ChainParameter) : (p.view c).ref? = p.ref? := by
  unfold ChainParameter.ref? ChainParameter.view
  cases p.source <;> rfl

section
variable (c : Json → Json) (profiles : List ChainAccountProfile) (earlier : List ChainStep) (step : ChainStep)

theorem addDependency_view (stepId : String) (derived : List String) (p : ChainParameter) :
    addDependency (earlier.map (·.view c)) stepId derived (p.view c) = addDependency earlier stepId derived p := by
  unfold addDependency
  rw [ChainParameter.ref?_view]
  cases p.ref? with
  | none => rfl
  | some ref =>
    have same : upstreamStep (earlier.map (·.view c)) stepId (p.view c) ref = upstreamStep earlier stepId p ref := by
      unfold upstreamStep
      cases parseUpstreamRef ref with
      | error e => rfl
      | ok parsed =>
        obtain ⟨response, segments⟩ := parsed
        have found : (earlier.map (·.view c)).find? (fun s => s.responseRef == response) =
            (earlier.find? fun s => s.responseRef == response).map (·.view c) := List.find?_map
        rw [ok_bind, ok_bind]
        dsimp only
        rw [found]
        cases earlier.find? fun s => s.responseRef == response <;> rfl
    dsimp only
    rw [same]

theorem derivedDependencies_view :
    derivedDependencies (earlier.map (·.view c)) (step.view c) = derivedDependencies earlier step := by
  unfold derivedDependencies ChainStep.view
  dsimp only
  rw [List.foldlM_map]
  congr 1
  funext derived p
  exact addDependency_view c earlier step.stepId derived p

theorem checkPlaceholders_view : checkPlaceholders (step.view c) = checkPlaceholders step := by
  unfold checkPlaceholders ChainStep.view
  dsimp only
  have any_view : ∀ name, ((step.parameters.map (·.view c)).any fun p => p.position == .path && p.name == name) =
      step.parameters.any fun p => p.position == .path && p.name == name := by
    intro name
    rw [List.any_map]
    rfl
  have find_view : ∀ name, ((step.parameters.map (·.view c)).find? fun p => p.name == name) =
      (step.parameters.find? fun p => p.name == name).map (·.view c) := by
    intro name
    rw [List.find?_map]
    rfl
  simp only [any_view, find_view]
  split
  · rfl
  · congr 1
    funext name
    cases step.parameters.find? fun p => p.name == name <;> rfl

theorem checkStep_view : checkStep profiles (earlier.map (·.view c)) (step.view c) =
    (checkStep profiles earlier step).map (·.view c) := by
  have derives := derivedDependencies_view c earlier step
  have places := checkPlaceholders_view c step
  have any_view : ∀ name, ((earlier.map (·.view c)).any fun s => s.stepId == name) =
      earlier.any fun s => s.stepId == name := by
    intro name
    rw [List.any_map]
    rfl
  unfold checkStep
  rw [derives, places]
  simp only [any_view]
  have same : ((step.view c).accountProfile != "" &&
      !profiles.any fun p => p.profileAlias == (step.view c).accountProfile) =
      (step.accountProfile != "" && !profiles.any fun p => p.profileAlias == step.accountProfile) := rfl
  by_cases known : (step.accountProfile != "" && !profiles.any fun p => p.profileAlias == step.accountProfile) = true
  · rw [if_pos (same.trans known), if_pos known]
    rfl
  rw [if_neg (same ▸ known), if_neg known]
  cases derivedDependencies earlier step with
  | error e => rfl
  | ok derived =>
    have depends : (step.view c).dependsOn = step.dependsOn := rfl
    rw [ok_bind, ok_bind, depends]
    cases step.dependsOn.find? fun dependency => !earlier.any fun s => s.stepId == dependency with
    | some dependency => rfl
    | none =>
      dsimp only
      cases derived.find? fun dependency => !step.dependsOn.isEmpty && !step.dependsOn.contains dependency with
      | some dependency => rfl
      | none =>
        dsimp only
        cases checkPlaceholders step <;> rfl

end

/-- The steps with their dependencies are what the checks of the bare steps return. -/
theorem checkDocs_ok {earlier : List ChainStep}
    (ok : checkDocs profiles earlier steps = .ok docs) :
    checkSteps profiles earlier (steps.map (·.base)) = .ok (docs.map (·.base)) ∧
      List.Forall₂ (fun step doc => ∃ names, doc = { step with dependsOn := names }) steps docs := by
  induction steps generalizing earlier docs with
  | nil =>
    cases Except.ok.inj ok
    exact ⟨rfl, .nil⟩
  | cons step rest ih =>
    rw [checkDocs] at ok
    obtain ⟨checked, turn, ok⟩ := bind_eq_ok.mp ok
    obtain ⟨others, later, ok⟩ := bind_eq_ok.mp ok
    cases Except.ok.inj ok
    obtain ⟨⟨names, same⟩, -, -⟩ := checkStep_ok turn
    have first : ({ step with dependsOn := checked.dependsOn } : StepDoc).base = checked := by
      rw [same]
      rfl
    obtain ⟨rest_ok, rest_same⟩ := ih later
    refine ⟨?_, .cons ⟨_, rfl⟩ rest_same⟩
    rw [List.map_cons, List.map_cons, checkSteps, turn, ok_bind, rest_ok, first]
    rfl

/-- The checks of checked steps, seen through `c`, change nothing. -/
theorem checkDocs_view (c : Json → Json) {earlier : List ChainStep}
    (ok : checkSteps profiles earlier (docs.map (·.base)) = .ok (docs.map (·.base))) :
    checkDocs profiles (earlier.map (·.view c)) (docs.map (·.view c)) = .ok (docs.map (·.view c)) := by
  induction docs generalizing earlier with
  | nil => rfl
  | cons doc rest ih =>
    rw [List.map_cons, checkSteps] at ok
    obtain ⟨checked, turn, ok⟩ := bind_eq_ok.mp ok
    obtain ⟨others, later, ok⟩ := bind_eq_ok.mp ok
    obtain ⟨rfl, rfl⟩ := List.cons.inj (Except.ok.inj ok)
    have turn_view : checkStep profiles (earlier.map (·.view c)) (doc.view c).base = .ok (doc.base.view c) := by
      rw [StepDoc.base_view, checkStep_view, turn]
      rfl
    have later_view := ih later
    rw [List.map_append, List.map_singleton] at later_view
    rw [List.map_cons, checkDocs, turn_view, ok_bind, later_view]
    rfl

/-! ## Secrets -/

theorem scanFields_eq_nil {fields : Dict} {pointer : String} {strict : Bool} :
    scanFields search fields pointer strict = [] ↔ ∀ e ∈ fields, forbiddenKeys.contains (lower (stripped e.1)) = false ∧
      scanValue search e.2 (pointer ++ "." ++ stripped e.1)
        (strict || stripped e.1 == "value" || stripped e.1 == "path_template") = [] := by
  induction fields with
  | nil => exact ⟨fun _ _ mem => absurd mem List.not_mem_nil, fun _ => rfl⟩
  | cons e rest ih =>
    rw [scanFields, List.append_eq_nil_iff, List.append_eq_nil_iff, ih, List.forall_mem_cons]
    refine and_congr_left fun _ => and_congr_left fun _ => ?_
    cases forbiddenKeys.contains (lower (stripped e.1)) <;> simp

mutual

/-- Whether something is found depends neither on the order of entries nor on where a document stands. -/
theorem scanValue_canonical (search : String → String → Bool) : (value : Json) → ∀ pointer pointer' strict,
    scanValue search value.canonical pointer strict = [] ↔ scanValue search value pointer' strict = []
  | .null, _, _, _ | .bool _, _, _, _ | .float _, _, _, _ => Iff.rfl
  | .int n, pointer, pointer', strict => by
    change scanValue search (.int n) pointer strict = [] ↔ _
    rw [scanValue, scanValue]
    split <;> simp
  | .str text, pointer, pointer', strict => by
    change scanValue search (.str text) pointer strict = [] ↔ _
    rw [scanValue, scanValue]
    split <;> simp
  | .arr items, pointer, pointer', strict => by
    rw [Json.canonical, scanValue, scanValue]
    exact scanItems_canonical search items 0 0 pointer pointer' strict
  | .obj fields, pointer, pointer', strict => by
    rw [Json.canonical, scanValue, scanValue, scanFields_eq_nil]
    rw [← scanFields_canonical search fields pointer pointer' strict, scanFields_eq_nil]
    simp only [sortFields, List.mem_insertionSort]

theorem scanItems_canonical (search : String → String → Bool) : (items : List Json) → ∀ index index' pointer pointer' strict,
    scanItems search (Json.canonicalItems items) index pointer strict = [] ↔
      scanItems search items index' pointer' strict = []
  | [], _, _, _, _, _ => Iff.rfl
  | value :: rest, index, index', pointer, pointer', strict => by
    rw [Json.canonicalItems, scanItems, scanItems, List.append_eq_nil_iff, List.append_eq_nil_iff]
    exact and_congr (scanValue_canonical search value _ _ strict)
      (scanItems_canonical search rest _ _ pointer pointer' strict)

theorem scanFields_canonical (search : String → String → Bool) : (fields : List (String × Json)) →
    ∀ pointer pointer' strict, scanFields search (Json.canonicalFields fields) pointer strict = [] ↔
      scanFields search fields pointer' strict = []
  | [], _, _, _ => Iff.rfl
  | (key, value) :: rest, pointer, pointer', strict => by
    rw [Json.canonicalFields, scanFields, scanFields, List.append_eq_nil_iff, List.append_eq_nil_iff,
      List.append_eq_nil_iff, List.append_eq_nil_iff]
    refine and_congr (and_congr ?_ (scanValue_canonical search value _ _ _)) (scanFields_canonical search rest _ _ strict)
    split <;> simp

end

/-- Documents that are the same are both free of secrets. -/
theorem assertNoSecrets_same {a b : Json} (same : a.Same b)
    (ok : assertNoSecrets search a = .ok ()) : assertNoSecrets search b = .ok () := by
  have none_iff : ∀ value : Json, assertNoSecrets search value = .ok () ↔ scanValue search value "$" false = [] := by
    intro value
    unfold assertNoSecrets
    cases scanValue search value "$" false with
    | nil => exact ⟨fun _ => rfl, fun _ => rfl⟩
    | cons finding rest => exact ⟨fun ok => (nomatch ok), fun none_ => (nomatch none_)⟩
  rw [none_iff, ← scanValue_canonical search a "$" "$" false] at ok
  rw [none_iff, ← scanValue_canonical search b "$" "$" false, ← show a.canonical = b.canonical from same]
  exact ok

/-! ## Documents -/

def ChainDoc.view (c : Json → Json) (d : ChainDoc) : ChainDoc := { d with steps := d.steps.map (·.view c) }

theorem canonicalFields_append (fields fields' : Dict) :
    Json.canonicalFields (fields ++ fields') = Json.canonicalFields fields ++ Json.canonicalFields fields' := by
  rw [Json.canonicalFields_eq, List.map_append, Json.canonicalFields_eq, Json.canonicalFields_eq]

/-- Values in canonical form leave a parameter the same. -/
theorem ParameterDoc.toDict_canonical (p : ParameterDoc) :
    (Json.obj (p.view Json.canonical).toDict).Same (.obj p.toDict) := by
  have fields : Json.canonicalFields (p.view Json.canonical).toDict = Json.canonicalFields p.toDict := by
    obtain ⟨⟨name, place, type, required, source, sourceResponseRef⟩, description⟩ := p
    cases source with
    | upstreamRef ref requiredNonEmpty => rfl
    | constant value =>
      unfold ParameterDoc.toDict ParameterDoc.view
      dsimp only
      rw [canonicalFields_append, canonicalFields_append _ [("value", value)]]
      congr 1
      rw [Json.canonicalFields, Json.canonicalFields, Json.canonical_canonical]
      rfl
  exact congrArg (fun fields => Json.obj (sortFields fields)) fields

/-- Lists of documents in a field, each the same as another. -/
theorem canonical_docs {α : Type} {write : α → Dict} {see : α → α}
    (same : ∀ doc, (Json.obj (write (see doc))).Same (.obj (write doc))) (docs : List α) :
    (Json.arr ((docs.map see).map fun doc => .obj (write doc))).canonical =
      (Json.arr (docs.map fun doc => .obj (write doc))).canonical := by
  rw [Json.canonical, Json.canonical, Json.canonicalItems_eq, Json.canonicalItems_eq, List.map_map, List.map_map,
    List.map_map]
  congr 1
  exact List.map_congr_left fun doc _ => same doc

theorem StepDoc.toDict_canonical (s : StepDoc) : (Json.obj (s.view Json.canonical).toDict).Same (.obj s.toDict) := by
  have parameters := canonical_docs ParameterDoc.toDict_canonical s.parameters
  have fields : Json.canonicalFields (s.view Json.canonical).toDict = Json.canonicalFields s.toDict := by
    unfold StepDoc.toDict StepDoc.view
    dsimp only
    rw [canonicalFields_append, canonicalFields_append, canonicalFields_append _ [_], canonicalFields_append _ (optionalText _ _)]
    simp only [Json.canonicalFields, parameters]
  exact congrArg (fun fields => Json.obj (sortFields fields)) fields

theorem ChainDoc.toDict_canonical (d : ChainDoc) : (Json.obj (d.view Json.canonical).toDict).Same (.obj d.toDict) := by
  have steps := canonical_docs StepDoc.toDict_canonical d.steps
  have fields : Json.canonicalFields (d.view Json.canonical).toDict = Json.canonicalFields d.toDict := by
    unfold ChainDoc.toDict ChainDoc.view
    dsimp only
    rw [canonicalFields_append, canonicalFields_append _ (optionalText _ _)]
    simp only [Json.canonicalFields, steps]
  exact congrArg (fun fields => Json.obj (sortFields fields)) fields

/-! ## Definitions -/

/-- What a document that was accepted has. -/
structure ChainDoc.Normal (search : String → String → Bool) (d : ChainDoc) : Prop where
  name : Plain d.name
  named : isChainName d.name = true
  texts : Plain d.title ∧ Plain d.projectId ∧ Plain d.envId ∧ Plain d.sourceRef ∧ Plain d.sourceKind ∧ Plain d.description
  refs : ∀ ref ∈ d.sourceResponseRefs, Plain ref ∧ ref ≠ ""
  profiles : ProfilesNormal [] d.accountProfiles
  steps : ∀ s ∈ d.steps, s.Normal
  some : d.steps ≠ []
  stepIds : (d.steps.map (·.stepId)).Nodup
  responseRefs : (d.steps.map (·.responseRef)).Nodup
  checked : checkSteps (d.accountProfiles.map (·.toChainAccountProfile)) [] (d.steps.map (·.base)) =
    .ok (d.steps.map (·.base))
  harmless : assertNoSecrets search (.obj d.toDict) = .ok ()

theorem forall₂_same {α : Type} {f : StepDoc → α}
    (keeps : ∀ step names, f { step with dependsOn := names } = f step)
    (same : List.Forall₂ (fun step doc : StepDoc => ∃ names, doc = { step with dependsOn := names }) steps docs) :
    docs.map f = steps.map f := by
  induction same with
  | nil => rfl
  | cons head _ ih =>
    obtain ⟨names, rfl⟩ := head
    rw [List.map_cons, List.map_cons, keeps, ih]

/-- The names that the checks leave in a step are those of steps before it. -/
theorem dependsOn_plain (normal : ∀ s ∈ steps, s.Normal)
    (ok : checkSteps profiles [] (docs.map (·.base)) = .ok (docs.map (·.base)))
    (same : List.Forall₂ (fun step doc : StepDoc => ∃ names, doc = { step with dependsOn := names }) steps docs) :
    ∀ s ∈ docs, s.Normal := by
  have ids : docs.map (·.stepId) = steps.map (·.stepId) := forall₂_same (fun _ _ => rfl) same
  intro s mem
  obtain ⟨step, there, names, rfl⟩ := forall₂_right same s mem
  obtain ⟨before, after, here⟩ := List.append_of_mem mem
  have dependencies : ∀ name ∈ names, Plain name ∧ name ≠ "" := by
    intro name listed
    have split : docs.map (·.base) = before.map (·.base) ++
        ({ step with dependsOn := names } : StepDoc).base :: after.map (·.base) := by
      rw [here, List.map_append, List.map_cons]
    obtain ⟨t, earlier, rfl⟩ := checkSteps_ordered ok split name listed
    rw [List.nil_append] at earlier
    obtain ⟨doc, doc_mem, rfl⟩ := List.mem_map.mp earlier
    have id_mem : doc.stepId ∈ steps.map (·.stepId) := by
      rw [← ids, here]
      exact List.mem_map_of_mem (List.mem_append_left _ doc_mem)
    obtain ⟨origin, origin_mem, same_id⟩ := List.mem_map.mp id_mem
    change Plain doc.stepId ∧ doc.stepId ≠ ""
    rw [← same_id]
    exact (normal origin origin_mem).stepId
  obtain ⟨stepId, template, method, response, profile, description, parameters, -⟩ := normal step there
  exact ⟨stepId, template, method, response, profile, description, parameters, dependencies⟩

theorem normalizeDocument_normal {raw : Json}
    (accepted : normalizeDocument search raw = .ok d) : d.Normal search := by
  unfold normalizeDocument at accepted
  split at accepted
  swap
  · cases accepted
  next fields =>
  dsimp only at accepted
  obtain ⟨-, accepted⟩ := raised_or accepted
  obtain ⟨named, accepted⟩ := raised_or accepted
  obtain ⟨items, -, accepted⟩ := bind_eq_ok.mp accepted
  obtain ⟨steps, read, accepted⟩ := bind_eq_ok.mp accepted
  obtain ⟨some_step, accepted⟩ := raised_or accepted
  obtain ⟨refs, texts, accepted⟩ := bind_eq_ok.mp accepted
  obtain ⟨profile_items, -, accepted⟩ := bind_eq_ok.mp accepted
  obtain ⟨profiles, profiled, accepted⟩ := bind_eq_ok.mp accepted
  obtain ⟨stepIds, accepted⟩ := raised_or accepted
  obtain ⟨responseRefs, accepted⟩ := raised_or accepted
  obtain ⟨docs, checks, accepted⟩ := bind_eq_ok.mp accepted
  obtain ⟨⟨⟩, harmless, accepted⟩ := bind_eq_ok.mp accepted
  cases Except.ok.inj accepted
  obtain ⟨bases, same⟩ := checkDocs_ok checks
  obtain ⟨again, -⟩ := checkSteps_ok bases
  have ids : docs.map (·.stepId) = steps.map (·.stepId) := forall₂_same (fun _ _ => rfl) same
  have responses : docs.map (·.responseRef) = steps.map (·.responseRef) := forall₂_same (fun _ _ => rfl) same
  refine ⟨textOf_plain _ _, by simpa using named, ⟨textOf_plain _ _, textOf_plain _ _, textOf_plain _ _, textOf_plain _ _,
    textOf_plain _ _, textOf_plain _ _⟩, textsOr_plain texts, readProfiles_normal profiled,
    dependsOn_plain (readSteps_normal read) again same, ?_, ids ▸ not_not.mp stepIds, responses ▸ not_not.mp responseRefs,
    again, harmless⟩
  rintro rfl
  exact some_step (List.isEmpty_iff.mpr (List.map_eq_nil_iff.mp ids.symm))

/-- **Views of accepted documents.** They are read as views of them. -/
theorem normalizeDocument_view (view : View c)
    (normal : d.Normal search) (harmless : assertNoSecrets search (.obj (d.view c).toDict) = .ok ()) :
    normalizeDocument search (c (.obj d.toDict)) = .ok (d.view c) := by
  obtain ⟨fields, same, seen⟩ := view.obj d.toDict
  obtain ⟨name_plain, named, ⟨title, project, env, source, kind, described⟩, refs, profiles, steps, some_step, stepIds,
    responseRefs, checked, -⟩ := normal
  have viewed_ids : (d.steps.map (·.view c)).map (·.stepId) = d.steps.map (·.stepId) := by
    rw [List.map_map]
    rfl
  have viewed_refs : (d.steps.map (·.view c)).map (·.responseRef) = d.steps.map (·.responseRef) := by
    rw [List.map_map]
    rfl
  have some_view : ¬ (d.steps.map (·.view c)).isEmpty = true := by
    intro empty
    exact some_step (List.map_eq_nil_iff.mp (List.isEmpty_iff.mp empty))
  have checks := checkDocs_view c checked
  have last := get?_optionalText_self "description" d.description (rfl : Dict.get? [] "description" = none)
  rw [List.append_nil] at last
  have version_read : textOf fields "schema_version" = chainSchemaVersion := view.text seen (by decide) rfl
  have name_read : textOf fields "name" = d.name := view.text seen name_plain rfl
  have title_read : textOf fields "title" = d.title := view.text seen title rfl
  have project_read : textOf fields "project_id" = d.projectId := view.text seen project rfl
  have env_read : textOf fields "env_id" = d.envId := view.text seen env rfl
  have source_read : textOf fields "source_ref" = d.sourceRef := view.text seen source rfl
  have kind_read : textOf fields "source_kind" = d.sourceKind := view.text seen kind rfl
  have description_read : textOf fields "description" = d.description := view.optional seen described last
  have refs_read : textsOr (Dict.get fields "source_response_refs") = .ok d.sourceResponseRefs := view.texts seen refs rfl
  have profiles_items : itemsOr (Dict.get fields "account_profiles") =
      .ok ((d.accountProfiles.map fun p => Json.obj p.toDict).map c) := view.items seen rfl
  have profiles_read := readProfiles_view view profiles
  have steps_items : itemsOr (Dict.get fields "steps") = .ok ((d.steps.map fun s => Json.obj s.toDict).map c) :=
    view.items seen rfl
  have steps_read := readSteps_view view steps 0
  have version_known : ¬ ((if chainSchemaVersion == "" then chainSchemaVersion else chainSchemaVersion) !=
      chainSchemaVersion) = true := by decide
  have name_known : ¬ (!isChainName d.name) = true := by rw [named]; decide
  rw [same]
  unfold normalizeDocument
  dsimp only
  rw [version_read, name_read, title_read, project_read, env_read, source_read, kind_read, description_read, if_neg version_known,
    if_neg name_known, steps_items, ok_bind, steps_read, ok_bind, if_neg some_view, refs_read, ok_bind, profiles_items, ok_bind,
    profiles_read, ok_bind, viewed_ids, viewed_refs, if_neg (not_not.mpr stepIds), if_neg (not_not.mpr responseRefs)]
  rw [List.map_nil] at checks
  rw [checks, ok_bind]
  change (assertNoSecrets search (.obj (d.view c).toDict) >>= fun _ => Except.ok (d.view c)) = _
  rw [harmless]
  rfl

/-! ## Text -/

theorem ParameterDoc.view_id (p : ParameterDoc) : p.view id = p := by
  obtain ⟨⟨name, place, type, required, source, sourceResponseRef⟩, description⟩ := p
  cases source <;> rfl

theorem ChainDoc.view_id (d : ChainDoc) : d.view id = d := by
  have parameters : ∀ s : StepDoc, s.view id = s := by
    intro s
    unfold StepDoc.view
    rw [Collection.map_eq_self fun p _ => p.view_id]
  unfold ChainDoc.view
  rw [Collection.map_eq_self fun s _ => parameters s]

/-- Normalising again changes nothing. -/
theorem normalizeDocument_again {raw : Json}
    (accepted : normalizeDocument search raw = .ok d) : normalizeDocument search (.obj d.toDict) = .ok d := by
  have normal := normalizeDocument_normal accepted
  have again := normalizeDocument_view View.self normal (by rw [d.view_id]; exact normal.harmless)
  rw [d.view_id] at again
  exact again

/-- The canonical form of an accepted document is accepted, as a document that is the same. -/
theorem normalizeDocument_canonical {raw : Json}
    (accepted : normalizeDocument search raw = .ok d) :
    normalizeDocument search (Json.obj d.toDict).canonical = .ok (d.view Json.canonical) := by
  have normal := normalizeDocument_normal accepted
  exact normalizeDocument_view View.canonical normal
    (assertNoSecrets_same (Json.Same.symm d.toDict_canonical) normal.harmless)

end ApiManger.Chain
