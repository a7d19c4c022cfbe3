import ApiManger.Chain.RoundTrip

/-!
# Accepted definitions are well formed

What `normalize_chain_definition` accepts is a fixed point of it, as a value and as text, its
references and dependencies go to earlier steps, and the placeholders of its paths are declared.
That they are declared by required parameters of the path is so where the first parameter of such
a name is one of the path, or where a parameter of the path is required anyway.
-/

namespace ApiManger.Chain
open Python Recipe

/-! ## Checked steps -/

/-- Each reference was found among the earlier responses, and what it goes to was noted. -/
theorem foldlM_addDependency {earlier : List ChainStep} {stepId : String} {parameters : List ChainParameter}
    {before after : List String} (ok : parameters.foldlM (addDependency earlier stepId) before = .ok after) :
    (∀ name ∈ before, name ∈ after) ∧ ∀ p ∈ parameters, ∀ ref, p.ref? = some ref →
      ∃ upstream, upstreamStep earlier stepId p ref = .ok upstream ∧ upstream ∈ after := by
  induction parameters generalizing before with
  | nil =>
    cases Except.ok.inj ok
    exact ⟨fun _ mem => mem, fun _ mem => absurd mem List.not_mem_nil⟩
  | cons p rest ih =>
    rw [List.foldlM_cons] at ok
    obtain ⟨middle, turn, ok⟩ := bind_eq_ok.mp ok
    obtain ⟨kept, others⟩ := ih ok
    have noted : (∀ name ∈ before, name ∈ middle) ∧ ∀ ref, p.ref? = some ref →
        ∃ upstream, upstreamStep earlier stepId p ref = .ok upstream ∧ upstream ∈ middle := by
      unfold addDependency at turn
      split at turn
      · next none_ =>
        cases Except.ok.inj turn
        exact ⟨fun _ mem => mem, fun ref some_ => absurd (none_.symm.trans some_) (by simp)⟩
      · next ref here =>
        obtain ⟨upstream, found, turn⟩ := bind_eq_ok.mp turn
        cases Except.ok.inj turn
        refine ⟨fun name mem => ?_, fun other some_ => ⟨upstream, ?_, ?_⟩⟩
        · split
          · exact mem
          · exact List.mem_append_left _ mem
        · rw [← Option.some.inj (here.symm.trans some_)]
          exact found
        · split
          · next there => exact List.contains_iff_mem.mp there
          · exact List.mem_append_right _ (List.mem_singleton.mpr rfl)
    refine ⟨fun name mem => kept name (noted.1 name mem), fun q mem ref some_ => ?_⟩
    rcases List.mem_cons.mp mem with rfl | mem
    · obtain ⟨upstream, found, there⟩ := noted.2 ref some_
      exact ⟨upstream, found, kept upstream there⟩
    · exact others q mem ref some_

/-- What a step that was checked refers to. -/
structure Refers (earlier : List ChainStep) (step : ChainStep) : Prop where
  targets : ∀ p ∈ step.parameters, ∀ ref, p.ref? = some ref → ∃ response segments,
    parseUpstreamRef ref = .ok (response, segments) ∧ ∃ s ∈ earlier, s.responseRef = response ∧ s.stepId ∈ step.dependsOn
  placeholders : ∀ name ∈ placeholderNames step.pathTemplate, (∃ p ∈ step.parameters, p.position = .path ∧ p.name = name) ∧
    ∀ p, step.parameters.find? (·.name == name) = some p → p.required = true

theorem forM_ok {ε α : Type} {f : α → Except ε Unit} {xs : List α} (ok : xs.forM f = .ok ()) : ∀ x ∈ xs, f x = .ok () := by
  induction xs with
  | nil => exact fun _ mem => absurd mem List.not_mem_nil
  | cons x rest ih =>
    obtain ⟨⟨⟩, first, later⟩ := bind_eq_ok.mp (show (f x >>= fun _ => rest.forM f) = .ok () from ok)
    rw [List.forall_mem_cons]
    exact ⟨first, ih later⟩

theorem checkPlaceholders_ok {step : ChainStep} (ok : checkPlaceholders step = .ok ()) :
    ∀ name ∈ placeholderNames step.pathTemplate, (∃ p ∈ step.parameters, p.position = .path ∧ p.name = name) ∧
      ∀ p, step.parameters.find? (·.name == name) = some p → p.required = true := by
  unfold checkPlaceholders at ok
  dsimp only at ok
  obtain ⟨declared, each⟩ := raised_or ok
  intro name mem
  constructor
  · have none_ : (placeholderNames step.pathTemplate).filter (fun name =>
        !step.parameters.any fun p => p.position == .path && p.name == name) = [] := by simpa using declared
    have any_ := List.filter_eq_nil_iff.mp none_ name mem
    have found : (step.parameters.any fun p => p.position == .path && p.name == name) = true := by simpa using any_
    obtain ⟨p, there, same⟩ := List.any_eq_true.mp found
    obtain ⟨place, named⟩ := Bool.and_eq_true_iff.mp same
    exact ⟨p, there, beq_iff_eq.mp place, beq_iff_eq.mp named⟩
  · intro p first
    have required := forM_ok each name mem
    rw [first] at required
    dsimp only at required
    split at required
    · next holds => exact holds
    · nomatch required

theorem checkStep_refers {profiles : List ChainAccountProfile} {earlier : List ChainStep} {step : ChainStep}
    (ok : checkStep profiles earlier step = .ok step) : Refers earlier step := by
  unfold checkStep at ok
  obtain ⟨-, ok⟩ := raised_or ok
  obtain ⟨derived, derives, ok⟩ := bind_eq_ok.mp ok
  split at ok
  · cases ok
  split at ok
  · cases ok
  next complete =>
  obtain ⟨⟨⟩, placed, ok⟩ := bind_eq_ok.mp ok
  have same : (if step.dependsOn.isEmpty then derived else step.dependsOn) = step.dependsOn :=
    congrArg ChainStep.dependsOn (Except.ok.inj ok)
  refine ⟨fun p mem ref some_ => ?_, checkPlaceholders_ok placed⟩
  obtain ⟨upstream, found, noted⟩ := (foldlM_addDependency derives).2 p mem ref some_
  have depends : upstream ∈ step.dependsOn := by
    by_cases empty : step.dependsOn.isEmpty = true
    · rw [if_pos empty] at same
      exact same ▸ noted
    · have passes := List.find?_eq_none.mp complete upstream noted
      by_contra absent
      exact passes (by simp [empty, absent])
  unfold upstreamStep at found
  obtain ⟨⟨response, segments⟩, parses, found⟩ := bind_eq_ok.mp found
  dsimp only at found
  split at found
  · next s here =>
    refine ⟨response, segments, parses, s, List.mem_of_find?_eq_some here, ?_, ?_⟩
    · have responds := List.find?_some here
      exact beq_iff_eq.mp responds
    · rw [Except.ok.inj found]
      exact depends
  · cases found

/-- Steps that the checks leave as they are were each checked after those before. -/
theorem checkSteps_each {profiles : List ChainAccountProfile} {earlier steps : List ChainStep}
    (ok : checkSteps profiles earlier steps = .ok steps) {before after : List ChainStep} {step : ChainStep}
    (here : steps = before ++ step :: after) : checkStep profiles (earlier ++ before) step = .ok step := by
  induction before generalizing earlier steps with
  | nil =>
    subst here
    rw [List.nil_append, checkSteps] at ok
    obtain ⟨checked, turn, ok⟩ := bind_eq_ok.mp ok
    obtain ⟨others, -, ok⟩ := bind_eq_ok.mp ok
    obtain ⟨rfl, -⟩ := List.cons.inj (Except.ok.inj ok)
    rw [List.append_nil]
    exact turn
  | cons first before ih =>
    subst here
    rw [List.cons_append, checkSteps] at ok
    obtain ⟨checked, turn, ok⟩ := bind_eq_ok.mp ok
    obtain ⟨others, later, ok⟩ := bind_eq_ok.mp ok
    obtain ⟨rfl, rfl⟩ := List.cons.inj (Except.ok.inj ok)
    rw [List.append_cons]
    exact ih later rfl

/-! ## Accepted definitions -/

/-- What the claim about accepted definitions asks for. -/
structure Canonical (float complaint : String → String) (search : String → String → Bool) (raw : Json) (d : ChainDoc) :
    Prop where
  again : normalizeDocument search (.obj d.toDict) = .ok d
  roundTrip : ∃ text d', serializeChainDefinition search raw = .ok text ∧
    deserializeChainDefinition float complaint search text = .ok d' ∧ (Json.obj d'.toDict).Same (.obj d.toDict) ∧
    serializeChainDefinition search (.obj d'.toDict) = .ok text
  targets : ∀ before step after, d.steps = before ++ step :: after → ∀ p ∈ step.parameters, ∀ ref,
    p.ref? = some ref → ∃ response segments, parseUpstreamRef ref = .ok (response, segments) ∧
      ∃ s ∈ before, s.responseRef = response ∧ s.stepId ∈ step.dependsOn
  dependencies : ∀ before step after, d.steps = before ++ step :: after → ∀ name ∈ step.dependsOn,
    ∃ s ∈ before, s.stepId = name
  declared : ∀ step ∈ d.steps, ∀ name ∈ placeholderNames step.pathTemplate,
    ∃ p ∈ step.parameters, p.position = .path ∧ p.name = name ∧ p.required = true

def isPathEntry (fields : Dict) : Bool := lower (textOf fields "position") == "path"

/-- Of the entries of a placeholder's name, the first is one of the path or a required one is. -/
def PathEntriesChecked (raw : Dict) : Prop :=
  ∀ step ∈ rawItems raw "steps", ∀ name ∈ placeholderNames (textOf step "path_template"),
    ((rawItems step "parameters").find? (textOf · "name" == name)).all isPathEntry = true ∨
      ∃ entry ∈ rawItems step "parameters",
        textOf entry "name" = name ∧ isPathEntry entry = true ∧ (Dict.get entry "required").truthy = true

section
variable {float : String → String} {search : String → String → Bool} {raw : Dict} {d : ChainDoc}

/-- The round trip through text. -/
theorem deserialize_serialize (complaint : String → String) (document : (Json.obj raw).isDocument float = true)
    (accepted : normalizeDocument search (.obj raw) = .ok d) :
    ∃ text d', serializeChainDefinition search (.obj raw) = .ok text ∧
      deserializeChainDefinition float complaint search text = .ok d' ∧ (Json.obj d'.toDict).Same (.obj d.toDict) ∧
      serializeChainDefinition search (.obj d'.toDict) = .ok text := by
  have loaded := loads_dumps (normalizeDocument_isDocument document accepted)
  have read := normalizeDocument_canonical accepted
  refine ⟨(Json.obj d.toDict).dumps ++ "\n", d.view Json.canonical, ?_, ?_, d.toDict_canonical, ?_⟩
  · rw [serializeChainDefinition, accepted]
    rfl
  · rw [deserializeChainDefinition, loaded]
    exact read
  · rw [serializeChainDefinition, normalizeDocument_again read, ← dumps_same d.toDict_canonical]
    rfl

theorem bases_split {before after : List StepDoc} {step : StepDoc} (here : d.steps = before ++ step :: after) :
    d.steps.map (·.base) = before.map (·.base) ++ step.base :: after.map (·.base) := by
  rw [here, List.map_append, List.map_cons]

/-- The steps of an accepted document refer to steps before them. -/
theorem ChainDoc.Normal.refers (normal : d.Normal search) {before after : List StepDoc} {step : StepDoc}
    (here : d.steps = before ++ step :: after) : Refers (before.map (·.base)) step.base := by
  have checked := checkSteps_each normal.checked (bases_split here)
  rw [List.nil_append] at checked
  exact checkStep_refers checked

theorem find?_from {entries : List Dict} {parameters : List ParameterDoc} (related : List.Forall₂ ReadFrom entries parameters)
    (name : String) : Option.Rel ReadFrom (entries.find? (textOf · "name" == name)) (parameters.find? (·.name == name)) := by
  induction related with
  | nil => exact .none
  | cons head _ ih =>
    rw [List.find?_cons, List.find?_cons, head.name]
    split
    · exact .some head
    · exact ih

/-- **Accepted definitions are well formed.** All of it holds exactly where the entries of the
placeholders are checked. -/
theorem canonical_iff (complaint : String → String) (document : (Json.obj raw).isDocument float = true)
    (accepted : normalizeDocument search (.obj raw) = .ok d) :
    Canonical float complaint search (.obj raw) d ↔ PathEntriesChecked raw := by
  have normal := normalizeDocument_normal accepted
  have from_raw := normalizeDocument_from accepted
  constructor
  · intro canonical step step_mem name name_mem
    obtain ⟨doc, doc_mem, step_from⟩ := forall₂_right from_raw.flip step step_mem
    rw [← step_from.pathTemplate] at name_mem
    obtain ⟨p, p_mem, place, named, required⟩ := canonical.declared doc doc_mem name name_mem
    obtain ⟨entry, entry_mem, entry_from⟩ := forall₂_right step_from.parameters p p_mem
    refine .inr ⟨entry, entry_mem, entry_from.name ▸ named, ?_, entry_from.required ▸ required⟩
    rw [isPathEntry, ← entry_from.path, place]
    rfl
  · intro checked
    refine ⟨normalizeDocument_again accepted, deserialize_serialize complaint document accepted, ?_, ?_, ?_⟩
    · intro before step after here p mem ref some_
      obtain ⟨response, segments, parses, s, earlier, responds, depends⟩ :=
        (normal.refers here).targets p.toChainParameter (List.mem_map_of_mem mem) ref some_
      obtain ⟨doc, doc_mem, rfl⟩ := List.mem_map.mp earlier
      exact ⟨response, segments, parses, doc, doc_mem, responds, depends⟩
    · intro before step after here name mem
      obtain ⟨s, earlier, same⟩ := checkSteps_ordered normal.checked (bases_split here) name mem
      rw [List.nil_append] at earlier
      obtain ⟨doc, doc_mem, rfl⟩ := List.mem_map.mp earlier
      exact ⟨doc, doc_mem, same⟩
    · intro step mem name name_mem
      obtain ⟨before, after, here⟩ := List.append_of_mem mem
      obtain ⟨⟨p, p_mem, place, named⟩, first⟩ := (normal.refers here).placeholders name name_mem
      obtain ⟨fields, fields_mem, step_from⟩ := forall₂_right from_raw step mem
      rw [step_from.pathTemplate] at name_mem
      rcases checked fields fields_mem name name_mem with front | ⟨entry, entry_mem, entry_named, entry_path, required⟩
      · -- the parameter that was looked up is one of the path
        have related := find?_from step_from.parameters name
        have bases : step.base.parameters.find? (·.name == name) =
            (step.parameters.find? (·.name == name)).map (·.toChainParameter) := List.find?_map
        cases found : step.parameters.find? (·.name == name) with
        | none =>
          rw [found] at bases
          exact absurd (beq_iff_eq.mpr named) (List.find?_eq_none.mp bases p p_mem)
        | some q =>
          rw [found] at bases related
          generalize (rawItems fields "parameters").find? (textOf · "name" == name) = entry at front related
          cases related with
          | some q_from =>
            have path := q_from.path
            have entry_path : isPathEntry _ = true := front
            rw [isPathEntry] at entry_path
            rw [entry_path] at path
            have q_named := List.find?_some found
            exact ⟨q, List.mem_of_find?_eq_some found, beq_iff_eq.mp path, beq_iff_eq.mp q_named, first _ bases⟩
      · obtain ⟨q, q_mem, q_from⟩ := forall₂_right step_from.parameters.flip entry entry_mem
        refine ⟨q, q_mem, ?_, q_from.name.trans entry_named, q_from.required.trans required⟩
        have path := q_from.path
        rw [isPathEntry] at entry_path
        rw [entry_path] at path
        exact beq_iff_eq.mp path

end

/-- An optional parameter of the path, behind a required one of the query with its name. -/
def shadowedDefinition : Dict := [("name", .str "abc"), ("steps", .arr [.obj [
  ("step_id", .str "a"), ("path_template", .str "/x/\x7bid\x7d"), ("method", .str "get"), ("response_ref", .str "r"),
  ("pathid", .int 1), ("parameters", .arr [
    .obj [("name", .str "id"), ("position", .str "query"), ("source", .str "constant"), ("value", .int 1),
      ("required", .bool true)],
    .obj [("name", .str "id"), ("position", .str "path"), ("source", .str "constant"), ("value", .int 1)]])]])]

/-- The definition is accepted, with a placeholder that no required parameter of the path has. -/
theorem shadowed_accepted : ∃ d, normalizeDocument (fun _ _ => false) (.obj shadowedDefinition) = .ok d ∧
    ∃ step ∈ d.steps, ∃ name ∈ placeholderNames step.pathTemplate,
      (step.parameters.any fun p => p.position == .path && p.name == name && p.required) = false := by
  have accepted : (normalizeDocument (fun _ _ => false) (.obj shadowedDefinition)).toOption.any (fun d =>
      d.steps.any fun step => (placeholderNames step.pathTemplate).any fun name =>
        !step.parameters.any fun p => p.position == .path && p.name == name && p.required) = true := by
    decide +kernel
  obtain ⟨d, here, undeclared⟩ := (Option.any_eq_true _ _).mp accepted
  obtain ⟨step, step_mem, undeclared⟩ := List.any_eq_true.mp undeclared
  obtain ⟨name, name_mem, undeclared⟩ := List.any_eq_true.mp undeclared
  rw [Bool.not_eq_true'] at undeclared
  exact ⟨d, toOption_eq_some.mp here, step, step_mem, name, name_mem, undeclared⟩

theorem shadowed_canonical_iff : ∃ d, normalizeDocument (fun _ _ => false) (.obj shadowedDefinition) = .ok d ∧
    (Canonical id id (fun _ _ => false) (.obj shadowedDefinition) d ↔ PathEntriesChecked shadowedDefinition) := by
  obtain ⟨d, here, -⟩ := shadowed_accepted
  exact ⟨d, here, canonical_iff id (by decide +kernel) here⟩

/-- The required parameter of the query answers for the optional one of the path. -/
theorem shadowed_placeholder : ∃ d, normalizeDocument (fun _ _ => false) (.obj shadowedDefinition) = .ok d ∧
    ¬ Canonical id id (fun _ _ => false) (.obj shadowedDefinition) d := by
  obtain ⟨d, here, step, step_mem, name, name_mem, undeclared⟩ := shadowed_accepted
  refine ⟨d, here, fun canonical => ?_⟩
  obtain ⟨p, p_mem, place, named, required⟩ := canonical.declared step step_mem name name_mem
  have found : (step.parameters.any fun p => p.position == .path && p.name == name && p.required) = true := by
    rw [List.any_eq_true]
    exact ⟨p, p_mem, by simp [place, named, required]⟩
  rw [undeclared] at found
  cases found

end ApiManger.Chain
