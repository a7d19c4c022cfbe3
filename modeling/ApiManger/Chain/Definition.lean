import ApiManger.Chain.Template

/-!
# Chain definitions

An `interface-chain.v1` definition lists read steps. `normalize_chain_definition`
accepts it where the names of its steps and responses are distinct, every reference
goes to the response of an earlier step that the step depends on, and every
placeholder of a path is declared by a required path parameter.
-/

namespace ApiManger.Chain
open Python

def readMethods : List String := ["GET", "HEAD", "OPTIONS"]
def accountAuthModes : List String := ["account", "anonymous", "inherit"]

/-- `PARAMETER_POSITIONS`. -/
inductive Position where
  | path | query | header | body | cookie
  deriving DecidableEq

/-- `PARAMETER_SOURCES`, with what each of them carries. -/
inductive ParameterSource where
  | constant (value : Json)
  | upstreamRef (ref : String) (requiredNonEmpty : Bool)
  deriving DecidableEq

structure ChainParameter where
  name : String
  position : Position
  type : String := "string"
  required : Bool := false
  source : ParameterSource
  sourceResponseRef : String := ""
  deriving DecidableEq

/-- The reference of a parameter. -/
def ChainParameter.ref? (p : ChainParameter) : Option String :=
  match p.source with
  | .constant _ => none
  | .upstreamRef ref _ => some ref

structure ChainStep where
  stepId : String
  responseRef : String
  pathid : Int
  method : String
  pathTemplate : String
  accountProfile : String := ""
  parameters : List ChainParameter := []
  dependsOn : List String := []
  deriving DecidableEq

structure ChainAccountProfile where
  profileAlias : String
  authMode : String := "account"
  profileRef : String := ""
  accountRef : String := ""
  providerRef : String := ""
  contextRef : String := ""
  role : String := ""
  deriving DecidableEq

structure ChainDefinition where
  name : String
  title : String := ""
  projectId : String := ""
  envId : String := ""
  accountProfiles : List ChainAccountProfile := []
  steps : List ChainStep
  deriving DecidableEq

/-! ## Acceptance -/

/-- `_NAME_RE`. -/
def isChainName (name : String) : Bool :=
  let plain (c : Char) : Bool := c.isDigit || ('a' ≤ c && c ≤ 'z')
  match name.toList with
  | first :: rest => plain first && 2 ≤ rest.length && rest.length ≤ 80 &&
      rest.all fun c => plain c || c == '.' || c == '_' || c == '-'
  | [] => false

/-- The earlier step whose response the reference of a parameter is to. -/
def upstreamStep (earlier : List ChainStep) (stepId : String) (p : ChainParameter) (ref : String) :
    Except ChainError String := do
  let (response, _) ← parseUpstreamRef ref
  match earlier.find? fun s => s.responseRef == response with
  | some upstream => return upstream.stepId
  | none => .error (.definition (stepId ++ ":" ++ p.name ++ ": upstream ref '" ++ ref ++ "' must target an earlier step"))

/-- The step that the reference of a parameter goes to, after those of the parameters before. -/
def addDependency (earlier : List ChainStep) (stepId : String) (derived : List String) (p : ChainParameter) :
    Except ChainError (List String) :=
  match p.ref? with
  | none => .ok derived
  | some ref => do
    let upstream ← upstreamStep earlier stepId p ref
    return if derived.contains upstream then derived else derived ++ [upstream]

/-- The steps that the references of a step go to, each once. -/
def derivedDependencies (earlier : List ChainStep) (step : ChainStep) : Except ChainError (List String) :=
  step.parameters.foldlM (addDependency earlier step.stepId) []

def checkPlaceholders (step : ChainStep) : Except ChainError Unit :=
  let placeholders := placeholderNames step.pathTemplate
  let undeclared := placeholders.filter fun name =>
    !step.parameters.any fun p => p.position == .path && p.name == name
  if !undeclared.isEmpty then
    .error (.definition (step.stepId ++ ": path placeholders lack a path parameter: " ++ ", ".intercalate undeclared))
  else placeholders.forM fun name => match step.parameters.find? fun p => p.name == name with
    | some p => if p.required then .ok ()
      else .error (.definition (step.stepId ++ ": path parameter '" ++ name ++ "' must be required"))
    | none => .ok ()

/-- One turn of the loop over the steps: the step with the steps it depends on. -/
def checkStep (profiles : List ChainAccountProfile) (earlier : List ChainStep) (step : ChainStep) :
    Except ChainError ChainStep := do
  if step.accountProfile != "" && !profiles.any (·.profileAlias == step.accountProfile) then
    .error (.definition (step.stepId ++ ": unknown account profile '" ++ step.accountProfile ++ "'"))
  else
    let derived ← derivedDependencies earlier step
    match step.dependsOn.find? fun dependency => !earlier.any (·.stepId == dependency) with
    | some dependency =>
      .error (.definition (step.stepId ++ ": depends_on '" ++ dependency ++ "' must reference an earlier step"))
    | none => match derived.find? fun dependency => !step.dependsOn.isEmpty && !step.dependsOn.contains dependency with
      | some dependency =>
        .error (.definition (step.stepId ++ ": depends_on omits resolved upstream step '" ++ dependency ++ "'"))
      | none => do
        checkPlaceholders step
        return { step with dependsOn := if step.dependsOn.isEmpty then derived else step.dependsOn }

/-- The loop over the steps, after those before. -/
def checkSteps (profiles : List ChainAccountProfile) : List ChainStep → List ChainStep → Except ChainError (List ChainStep)
  | _, [] => .ok []
  | earlier, step :: rest => do
    let checked ← checkStep profiles earlier step
    return checked :: (← checkSteps profiles (earlier ++ [checked]) rest)

/-- `_SENSITIVE_KEY_HINT_RE`. -/
def isSensitiveName (name : String) : Bool :=
  ["authorization", "cookie", "token", "secret", "passw", "credential", "apikey", "api_key", "api-key", "privatekey",
    "private_key", "private-key", "session"].any (containsText (lower name) ·)

def normalizeParameter (stepId : String) (p : ChainParameter) : Except ChainError ChainParameter := do
  let name := stripped p.name
  if name == "" then .error (.definition (stepId ++ ": parameter name is required"))
  else if isSensitiveName name then .error (.definition
    (stepId ++ ":" ++ name ++ ": credentials must come from an account profile, never a parameter"))
  else
    let read : ChainParameter := { p with
      name := name
      type := if stripped p.type == "" then "string" else stripped p.type
      sourceResponseRef := stripped p.sourceResponseRef }
    match p.source with
    | .constant _ => return read
    | .upstreamRef ref requiredNonEmpty =>
      if stripped ref == "" then .error (.definition (stepId ++ ":" ++ name ++ ": upstream_ref requires ref"))
      else do
        let _ ← parseUpstreamRef (stripped ref)
        return { read with source := .upstreamRef (stripped ref) requiredNonEmpty }

def normalizeStep (step : ChainStep) : Except ChainError ChainStep := do
  let stepId := stripped step.stepId
  let pathTemplate := stripped step.pathTemplate
  let method := upper (stripped step.method)
  let responseRef := stripped step.responseRef
  if stepId == "" then .error (.definition "step_id is required")
  else if pathTemplate == "" then .error (.definition (stepId ++ ": path_template is required"))
  else if !readMethods.contains method then .error (.definition
    (stepId ++ ": read chains only support GET/HEAD/OPTIONS, got '" ++ (if method == "" then "<empty>" else method) ++ "'"))
  else if responseRef == "" then .error (.definition (stepId ++ ": response_ref is required"))
  else do
    let parameters ← step.parameters.mapM (normalizeParameter stepId)
    return { step with
      stepId := stepId, pathTemplate := pathTemplate, method := method, responseRef := responseRef
      accountProfile := stripped step.accountProfile, parameters := parameters
      dependsOn := (step.dependsOn.map stripped).filter (· != "") }

/-- `_normalize_account_profiles`, one profile after the other. -/
def normalizeProfile (profile : ChainAccountProfile) : Except ChainError ChainAccountProfile :=
  let name := stripped profile.profileAlias
  let authMode := if stripped profile.authMode == "" then "account" else stripped profile.authMode
  if name == "" then .error (.definition "account profile alias is required")
  else if !accountAuthModes.contains authMode then .error (.definition
    ("account profile " ++ name ++ ": unsupported auth_mode '" ++ authMode ++ "'"))
  else .ok {
    profileAlias := name, authMode := authMode, profileRef := stripped profile.profileRef
    accountRef := stripped profile.accountRef, providerRef := stripped profile.providerRef
    contextRef := stripped profile.contextRef, role := stripped profile.role }

/-- `normalize_chain_definition`, on a definition whose fields are there. -/
def normalizeChainDefinition (raw : ChainDefinition) : Except ChainError ChainDefinition := do
  let name := stripped raw.name
  if !isChainName name then
    .error (.definition ("chain name must match ^[a-z0-9][a-z0-9._-]\x7b2,80\x7d$ (got '" ++ name ++ "')"))
  else do
    let steps ← raw.steps.mapM normalizeStep
    if steps.isEmpty then .error (.definition "chain definition requires at least one step")
    else do
      let profiles ← raw.accountProfiles.mapM normalizeProfile
      if ¬ (profiles.map (·.profileAlias)).Nodup then .error (.definition "duplicate account profile alias")
      else if ¬ (steps.map (·.stepId)).Nodup then .error (.definition "step_id values must be unique")
      else if ¬ (steps.map (·.responseRef)).Nodup then .error (.definition "response_ref values must be unique")
      else do
        let steps ← checkSteps profiles [] steps
        return {
          name := name, title := stripped raw.title, projectId := stripped raw.projectId, envId := stripped raw.envId
          accountProfiles := profiles, steps := steps }

/-! ## Normalising again -/

variable {earlier steps checked : List ChainStep} {p : ChainParameter} {step : ChainStep}

theorem upstreamStep_earlier {stepId ref upstream : String}
    (found : upstreamStep earlier stepId p ref = .ok upstream) : ∃ s ∈ earlier, s.stepId = upstream := by
  unfold upstreamStep at found
  obtain ⟨⟨response, segments⟩, -, found⟩ := bind_eq_ok.mp found
  dsimp only at found
  split at found
  · next s here => exact ⟨s, List.mem_of_find?_eq_some here, Except.ok.inj found⟩
  · nomatch found

theorem addDependency_earlier {stepId : String} {before after : List String} (known : ∀ dependency ∈ before, ∃ s ∈ earlier, s.stepId = dependency)
    (turn : addDependency earlier stepId before p = .ok after) :
    ∀ dependency ∈ after, ∃ s ∈ earlier, s.stepId = dependency := by
  unfold addDependency at turn
  split at turn
  · cases Except.ok.inj turn
    exact known
  · obtain ⟨upstream, found, turn⟩ := bind_eq_ok.mp turn
    cases Except.ok.inj turn
    split
    · exact known
    · intro dependency mem
      rcases List.mem_append.mp mem with mem | mem
      · exact known dependency mem
      · rw [List.mem_singleton.mp mem]
        exact upstreamStep_earlier found

/-- The references of a step go to earlier steps. -/
theorem derivedDependencies_earlier {derived : List String}
    (checked : derivedDependencies earlier step = .ok derived) :
    ∀ dependency ∈ derived, ∃ s ∈ earlier, s.stepId = dependency :=
  foldlM_keeps (P := fun names => ∀ dependency ∈ names, ∃ s ∈ earlier, s.stepId = dependency)
    (fun _ _ _ => addDependency_earlier) (fun _ mem => absurd mem List.not_mem_nil) checked

/-- What a step that was checked has gone through; checking it again changes nothing. -/
theorem checkStep_ok {profiles : List ChainAccountProfile} {checked : ChainStep}
    (ok : checkStep profiles earlier step = .ok checked) :
    (∃ dependsOn, checked = { step with dependsOn := dependsOn }) ∧
      (∀ dependency ∈ checked.dependsOn, ∃ s ∈ earlier, s.stepId = dependency) ∧
      checkStep profiles earlier checked = .ok checked := by
  unfold checkStep at ok
  split at ok
  · nomatch ok
  next known =>
  obtain ⟨derived, derives, ok⟩ := bind_eq_ok.mp ok
  split at ok
  · nomatch ok
  next declared =>
  split at ok
  · nomatch ok
  next complete =>
  obtain ⟨⟨⟩, placed, ok⟩ := bind_eq_ok.mp ok
  cases Except.ok.inj ok
  have before := derivedDependencies_earlier derives
  have earlier_all : ∀ dependency ∈ (if step.dependsOn.isEmpty then derived else step.dependsOn),
      ∃ s ∈ earlier, s.stepId = dependency := by
    split
    · exact before
    · intro dependency mem
      have passes := List.find?_eq_none.mp declared dependency mem
      simpa using passes
  refine ⟨⟨_, rfl⟩, earlier_all, ?_⟩
  have again : ∀ names, (∀ dependency ∈ names, ∃ s ∈ earlier, s.stepId = dependency) →
      (∀ dependency ∈ derived, names.isEmpty = false → dependency ∈ names) → (names.isEmpty = true → derived = names) →
      checkStep profiles earlier { step with dependsOn := names } = .ok { step with dependsOn := names } := by
    intro names listed omitted empty
    have first : names.find? (fun dependency => !earlier.any (·.stepId == dependency)) = none := by
      rw [List.find?_eq_none]
      intro dependency mem
      simpa using listed dependency mem
    have second : derived.find? (fun dependency => !names.isEmpty && !names.contains dependency) = none := by
      rw [List.find?_eq_none]
      intro dependency mem fails
      obtain ⟨some_name, absent⟩ := Bool.and_eq_true_iff.mp fails
      rw [Bool.not_eq_true'] at some_name
      rw [List.contains_iff_mem.mpr (omitted dependency mem some_name)] at absent
      nomatch absent
    have same : derivedDependencies earlier { step with dependsOn := names } = .ok derived := derives
    have places : checkPlaceholders { step with dependsOn := names } = .ok () := placed
    unfold checkStep
    rw [if_neg known, same]
    dsimp only [bind, Except.bind]
    rw [first]
    dsimp only
    rw [second]
    dsimp only
    rw [places]
    dsimp only
    cases is_empty : names.isEmpty with
    | true => rw [if_pos rfl, empty is_empty]; rfl
    | false => rfl
  refine again _ earlier_all ?_ ?_
  · intro dependency mem some_name
    split at some_name
    · next none_ => rw [if_pos none_]; exact mem
    · next some_ =>
      rw [if_neg some_]
      have passes := List.find?_eq_none.mp complete dependency mem
      by_contra absent
      exact passes (by simp [some_, absent])
  · intro empty
    split at empty
    · next none_ => rw [if_pos none_]
    · next some_ => exact absurd empty some_

theorem checkSteps_ok {profiles : List ChainAccountProfile}
    (ok : checkSteps profiles earlier steps = .ok checked) :
    checkSteps profiles earlier checked = .ok checked ∧
      List.Forall₂ (fun step checked => ∃ dependsOn, checked = { step with dependsOn := dependsOn }) steps checked := by
  induction steps generalizing earlier checked with
  | nil =>
    cases Except.ok.inj ok
    exact ⟨rfl, .nil⟩
  | cons step rest ih =>
    rw [checkSteps] at ok
    obtain ⟨first, turn, ok⟩ := bind_eq_ok.mp ok
    obtain ⟨others, after, ok⟩ := bind_eq_ok.mp ok
    cases Except.ok.inj ok
    obtain ⟨same, -, again⟩ := checkStep_ok turn
    obtain ⟨rest_again, rest_same⟩ := ih after
    refine ⟨?_, .cons same rest_same⟩
    rw [checkSteps, again]
    dsimp only [bind, Except.bind]
    rw [rest_again]
    rfl

/-- A checked step depends on steps before it. -/
theorem checkSteps_ordered {profiles : List ChainAccountProfile}
    (ok : checkSteps profiles earlier steps = .ok checked) {before after : List ChainStep}
    (here : checked = before ++ step :: after) :
    ∀ dependency ∈ step.dependsOn, ∃ s ∈ earlier ++ before, s.stepId = dependency := by
  induction steps generalizing earlier checked before with
  | nil =>
    cases Except.ok.inj ok
    exact absurd here (by simp)
  | cons first_step rest ih =>
    rw [checkSteps] at ok
    obtain ⟨first, turn, ok⟩ := bind_eq_ok.mp ok
    obtain ⟨others, later, ok⟩ := bind_eq_ok.mp ok
    cases Except.ok.inj ok
    cases before with
    | nil =>
      obtain ⟨rfl, -⟩ := List.cons.inj here
      rw [List.append_nil]
      exact (checkStep_ok turn).2.1
    | cons b before =>
      obtain ⟨rfl, same⟩ := List.cons.inj here
      rw [List.append_cons]
      exact ih later same

theorem map_same {α : Type} {f : ChainStep → α}
    (keeps : ∀ step dependsOn, f { step with dependsOn := dependsOn } = f step)
    (same : List.Forall₂ (fun step checked : ChainStep => ∃ dependsOn, checked = { step with dependsOn := dependsOn })
      steps checked) : checked.map f = steps.map f := by
  induction same with
  | nil => rfl
  | cons head _ ih =>
    obtain ⟨dependsOn, rfl⟩ := head
    rw [List.map_cons, List.map_cons, keeps, ih]

/-! ### Fields -/

theorem mapM_self {α : Type} {f : α → Except ChainError α} {xs : List α} (normal : ∀ x ∈ xs, f x = .ok x) :
    xs.mapM f = .ok xs := by
  induction xs with
  | nil => rfl
  | cons x rest ih =>
    rw [List.mapM_cons, normal x List.mem_cons_self]
    dsimp only [bind, Except.bind]
    rw [ih fun y mem => normal y (List.mem_cons_of_mem x mem)]
    rfl

theorem mapM_results {α : Type} {f : α → Except ChainError α} {xs ys : List α} (again : ∀ x y, f x = .ok y → f y = .ok y)
    (results : xs.mapM f = .ok ys) : ∀ y ∈ ys, f y = .ok y := by
  have each := mapM_ok results
  clear results
  induction each with
  | nil => exact fun _ mem => absurd mem List.not_mem_nil
  | cons head _ ih =>
    intro y mem
    rcases List.mem_cons.mp mem with rfl | mem
    · exact again _ _ head
    · exact ih y mem

theorem mapM_again {α : Type} {f : α → Except ChainError α} {xs ys : List α} (again : ∀ x y, f x = .ok y → f y = .ok y)
    (results : xs.mapM f = .ok ys) : ys.mapM f = .ok ys := mapM_self (mapM_results again results)

theorem default_again {default : String} (plain : stripped default = default) (text : String) :
    (if stripped (if stripped text == "" then default else stripped text) == "" then default
      else stripped (if stripped text == "" then default else stripped text)) =
      if stripped text == "" then default else stripped text := by
  by_cases empty : (stripped text == "") = true
  · rw [if_pos empty, plain]
    split <;> rfl
  · rw [if_neg empty, stripped_stripped, if_neg empty]

theorem normalizeParameter_again {stepId : String} {read : ChainParameter}
    (ok : normalizeParameter stepId p = .ok read) : normalizeParameter stepId read = .ok read := by
  unfold normalizeParameter at ok
  dsimp only at ok
  split at ok
  · nomatch ok
  next named =>
  split at ok
  · nomatch ok
  next harmless =>
  have plain : stripped "string" = "string" := by decide
  have string := default_again plain p.type
  split at ok
  · next source =>
    cases Except.ok.inj ok
    unfold normalizeParameter
    dsimp only
    rw [stripped_stripped, if_neg named, if_neg harmless, source, string, stripped_stripped]
    rfl
  · next ref requiredNonEmpty source =>
    split at ok
    · nomatch ok
    next addressed =>
    obtain ⟨parsed, parses, ok⟩ := bind_eq_ok.mp ok
    cases Except.ok.inj ok
    unfold normalizeParameter
    dsimp only
    rw [stripped_stripped, if_neg named, if_neg harmless, string, stripped_stripped, stripped_stripped, if_neg addressed,
      parses]
    rfl

theorem readMethod_again {method : String} (readable : readMethods.contains method = true) :
    upper (stripped method) = method := by
  have listed := List.contains_iff_mem.mp readable
  simp only [readMethods, List.mem_cons, List.not_mem_nil, or_false] at listed
  rcases listed with rfl | rfl | rfl <;> decide

theorem names_again (names : List String) :
    (((names.map stripped).filter (· != "")).map stripped).filter (· != "") = (names.map stripped).filter (· != "") := by
  have same : ((names.map stripped).filter (· != "")).map stripped = (names.map stripped).filter (· != "") := by
    refine Collection.map_eq_self fun name mem => ?_
    obtain ⟨text, -, rfl⟩ := List.mem_map.mp (List.mem_of_mem_filter mem)
    exact stripped_stripped text
  rw [same, List.filter_filter]
  simp only [Bool.and_self]

theorem normalizeStep_again {read : ChainStep} (ok : normalizeStep step = .ok read) :
    normalizeStep read = .ok read := by
  unfold normalizeStep at ok
  dsimp only at ok
  split at ok
  · nomatch ok
  next named =>
  split at ok
  · nomatch ok
  next templated =>
  split at ok
  · nomatch ok
  next readable =>
  split at ok
  · nomatch ok
  next referred =>
  obtain ⟨parameters, results, ok⟩ := bind_eq_ok.mp ok
  cases Except.ok.inj ok
  have method : upper (stripped (upper (stripped step.method))) = upper (stripped step.method) := by
    refine readMethod_again ?_
    simpa using readable
  unfold normalizeStep
  dsimp only
  rw [stripped_stripped, stripped_stripped, stripped_stripped, stripped_stripped, method, if_neg named, if_neg templated,
    if_neg readable, if_neg referred, mapM_again (fun _ _ => normalizeParameter_again) results, names_again]
  rfl

theorem normalizeProfile_again {profile read : ChainAccountProfile} (ok : normalizeProfile profile = .ok read) :
    normalizeProfile read = .ok read := by
  unfold normalizeProfile at ok
  dsimp only at ok
  obtain ⟨named, ok⟩ := raised_or ok
  obtain ⟨authorized, ok⟩ := raised_or ok
  cases Except.ok.inj ok
  unfold normalizeProfile
  dsimp only
  rw [default_again (by decide) profile.authMode, stripped_stripped, if_neg named, if_neg authorized]
  simp only [stripped_stripped]

/-- The texts of a step that was normalised are read. -/
theorem normalizeStep_read {read : ChainStep} (ok : normalizeStep step = .ok read) :
    stripped read.stepId = read.stepId ∧ read.stepId ≠ "" := by
  unfold normalizeStep at ok
  dsimp only at ok
  obtain ⟨named, ok⟩ := raised_or ok
  obtain ⟨-, ok⟩ := raised_or ok
  obtain ⟨-, ok⟩ := raised_or ok
  obtain ⟨-, ok⟩ := raised_or ok
  obtain ⟨parameters, -, ok⟩ := bind_eq_ok.mp ok
  cases Except.ok.inj ok
  exact ⟨stripped_stripped _, by simpa using named⟩

theorem names_read {names : List String} (read : ∀ name ∈ names, stripped name = name ∧ name ≠ "") :
    (names.map stripped).filter (· != "") = names := by
  rw [Collection.map_eq_self fun name mem => (read name mem).1, List.filter_eq_self]
  intro name mem
  exact bne_iff_ne.mpr (read name mem).2

/-- A normalised step stays one with other dependencies. -/
theorem normalizeStep_dependsOn (ok : normalizeStep step = .ok step) {names : List String}
    (read : ∀ name ∈ names, stripped name = name ∧ name ≠ "") :
    normalizeStep { step with dependsOn := names } = .ok { step with dependsOn := names } := by
  obtain ⟨stepId, responseRef, pathid, method, template, profile, parameters, dependsOn⟩ := step
  unfold normalizeStep at ok ⊢
  dsimp only at ok ⊢
  obtain ⟨named, ok⟩ := raised_or ok
  obtain ⟨templated, ok⟩ := raised_or ok
  obtain ⟨readable, ok⟩ := raised_or ok
  obtain ⟨referred, ok⟩ := raised_or ok
  obtain ⟨read_parameters, results, ok⟩ := bind_eq_ok.mp ok
  obtain ⟨id, ref, -, reads, path, account, same, -⟩ := ChainStep.mk.inj (Except.ok.inj ok)
  rw [if_neg named, if_neg templated, if_neg readable, if_neg referred, results, names_read read]
  dsimp only [bind, Except.bind, pure, Except.pure]
  rw [id, ref, reads, path, account, same]

/-- The checks keep the steps normalised. -/
theorem checkSteps_read {profiles : List ChainAccountProfile}
    (before : ∀ s ∈ earlier, stripped s.stepId = s.stepId ∧ s.stepId ≠ "")
    (normal : ∀ s ∈ steps, normalizeStep s = .ok s) (ok : checkSteps profiles earlier steps = .ok checked) :
    ∀ s ∈ checked, normalizeStep s = .ok s := by
  induction steps generalizing earlier checked with
  | nil =>
    cases Except.ok.inj ok
    exact fun _ mem => absurd mem List.not_mem_nil
  | cons step rest ih =>
    rw [checkSteps] at ok
    obtain ⟨first, turn, ok⟩ := bind_eq_ok.mp ok
    obtain ⟨others, after, ok⟩ := bind_eq_ok.mp ok
    cases Except.ok.inj ok
    obtain ⟨⟨names, same⟩, listed, -⟩ := checkStep_ok turn
    have first_normal : normalizeStep first = .ok first := by
      rw [same]
      refine normalizeStep_dependsOn (normal step List.mem_cons_self) fun name mem => ?_
      have dependency : name ∈ first.dependsOn := by rw [same]; exact mem
      obtain ⟨s, earlier_s, rfl⟩ := listed name dependency
      exact before s earlier_s
    intro s mem
    rcases List.mem_cons.mp mem with rfl | mem
    · exact first_normal
    · refine ih (fun s mem => ?_) (fun s mem => normal s (List.mem_cons_of_mem _ mem)) after s mem
      rcases List.mem_append.mp mem with mem | mem
      · exact before s mem
      · rw [List.mem_singleton.mp mem]
        exact normalizeStep_read first_normal

/-! ### Definitions -/

/-- What an accepted definition has. -/
structure Accepted (d : ChainDefinition) : Prop where
  again : normalizeChainDefinition d = .ok d
  stepIds : (d.steps.map (·.stepId)).Nodup
  responseRefs : (d.steps.map (·.responseRef)).Nodup
  steps : d.steps ≠ []
  read : ∀ step ∈ d.steps, stripped step.stepId = step.stepId ∧ step.stepId ≠ ""
  ordered : ∀ before step after, d.steps = before ++ step :: after →
    ∀ dependency ∈ step.dependsOn, ∃ s ∈ before, s.stepId = dependency

/-- A definition that was normalised is accepted as it is. -/
theorem normalizeChainDefinition_accepted {raw d : ChainDefinition} (normalized : normalizeChainDefinition raw = .ok d) :
    Accepted d := by
  unfold normalizeChainDefinition at normalized
  dsimp only at normalized
  obtain ⟨named, normalized⟩ := raised_or normalized
  obtain ⟨steps, read, normalized⟩ := bind_eq_ok.mp normalized
  obtain ⟨some_step, normalized⟩ := raised_or normalized
  obtain ⟨profiles, profiled, normalized⟩ := bind_eq_ok.mp normalized
  obtain ⟨aliases, normalized⟩ := raised_or normalized
  obtain ⟨stepIds, normalized⟩ := raised_or normalized
  obtain ⟨responseRefs, normalized⟩ := raised_or normalized
  obtain ⟨checked, checks, normalized⟩ := bind_eq_ok.mp normalized
  cases Except.ok.inj normalized
  obtain ⟨again, same⟩ := checkSteps_ok checks
  have normal := checkSteps_read (fun _ mem => absurd mem List.not_mem_nil)
    (mapM_results (fun _ _ => normalizeStep_again) read) checks
  have ids : checked.map (·.stepId) = steps.map (·.stepId) := map_same (fun _ _ => rfl) same
  have refs : checked.map (·.responseRef) = steps.map (·.responseRef) := map_same (fun _ _ => rfl) same
  have nonempty : checked ≠ [] := by
    rintro rfl
    exact some_step (List.isEmpty_iff.mpr (List.map_eq_nil_iff.mp ids.symm))
  refine ⟨?_, ids ▸ not_not.mp stepIds, refs ▸ not_not.mp responseRefs, nonempty,
    fun step mem => normalizeStep_read (normal step mem), fun before step after here => ?_⟩
  swap
  · have listed := checkSteps_ordered checks here
    rwa [List.nil_append] at listed
  unfold normalizeChainDefinition
  dsimp only
  rw [stripped_stripped, if_neg named, mapM_self normal]
  dsimp only [bind, Except.bind]
  rw [if_neg fun empty => nonempty (List.isEmpty_iff.mp empty), mapM_again (fun _ _ => normalizeProfile_again) profiled]
  dsimp only
  rw [if_neg aliases, ids, if_neg stepIds, refs, if_neg responseRefs, again]
  simp only [stripped_stripped]
  rfl

end ApiManger.Chain
