import ApiManger.AiCli.Gate

/-!
# What the approval gate approves

An approval needs an answer for the tool of that name, in this session or in an earlier one,
as far as the gate asks for the tool at all: it does not look at a fragment that denies a
tool, does not ask for an unknown capability and, where it asks always, not for a risk.
-/

namespace ApiManger.AiCli
open Python Transition Collection

/-! ## Fragments -/

theorem mem_fragments {directory : Directory} {e : String × Bool} :
    e ∈ fragments directory ↔ ∃ file ∈ directory.items, endsWith file.1 ".json" = true ∧ fragmentOf file.2 = some e := by
  simp only [fragments, List.mem_filterMap, List.mem_map, List.mem_insertionSort, List.mem_filter]
  constructor
  · rintro ⟨content, ⟨file, ⟨mem, named⟩, rfl⟩, found⟩
    exact ⟨file, mem, named, found⟩
  · rintro ⟨file, mem, named, found⟩
    exact ⟨file.2, ⟨file, ⟨mem, named⟩, rfl⟩, found⟩

/-- A fragment after one was saved is an old one, or the one of that tool. -/
theorem mem_fragments_saveFragment {directory : Directory} {toolName : String} {e : String × Bool}
    (mem : e ∈ fragments (saveFragment toolName true directory)) :
    e ∈ fragments directory ∨ e = (stripped toolName, true) := by
  obtain ⟨file, mem, named, found⟩ := mem_fragments.mp mem
  rcases Mapping.mem_set mem with old | rfl
  · exact .inl (mem_fragments.mpr ⟨file, old, named, found⟩)
  · right
    have text : (Json.str toolName).strOrEmpty = toolName := by
      cases empty : decide (toolName = "") with
      | true => rw [of_decide_eq_true empty]; rfl
      | false => simp [Json.strOrEmpty, Json.truthy, Json.pyStr, of_decide_eq_false empty]
    simp only [fragmentOf, Dict.get, Dict.get?] at found
    change (if stripped (Json.str toolName).strOrEmpty = "" then none else
      some (stripped (Json.str toolName).strOrEmpty, true)) = some e at found
    rw [text] at found
    split at found
    · cases found
    · exact (Option.some.inj found).symm

theorem foldl_set_mem {items : List (String × Bool)} {tools : Mapping Bool} {name : String} {allow : Bool}
    (found : (items.foldl (fun tools e => tools.set e.1 e.2) tools).get? name = some allow) :
    (name, allow) ∈ items ∨ tools.get? name = some allow := by
  induction items generalizing tools with
  | nil => exact .inr found
  | cons e items ih =>
    rcases ih found with mem | found
    · exact .inl (.tail _ mem)
    · rw [Mapping.get?_set] at found
      split at found
      · next same =>
        left
        rw [← same, ← Option.some.inj found]
        exact .head _
      · exact .inr found

/-! ## What has to be answered -/

/-- Risky, mutating, running a shell or of an unknown capability. -/
def needsAnswer (policy : AiPolicy) (spec : ToolSpec) : Bool :=
  spec.risk == .high || spec.risk == .critical || spec.mutation || spec.shell ||
    policy.capabilityStatus spec.capability == .unknown

/-- A person answered for the tool of that name: once now, in this session with 2 or 3, or in an earlier one with
3 (or a fragment of then was there at first). -/
def Answered (first : Folders) (s : Sessions) (gate : ApprovalGate) (spec : ToolSpec) (answer : Option Int) : Prop :=
  (gate.unasked spec = none ∧ (answer = some 1 ∨ answer = some 2 ∨ answer = some 3)) ∨
    (∃ a ∈ s.answers, a.tool = spec.name ∧ a.session = s.session ∧ (a.choice = 2 ∨ a.choice = 3)) ∨
    (∃ a ∈ s.answers, a.tool = spec.name ∧ a.session < s.session ∧ a.choice = 3 ∧ a.folder = gate.policy.fragmentDir) ∨
    (spec.name, true) ∈ fragments (first gate.policy.fragmentDir)

/-- An approved call is one of a tool that nothing denies and that needed no answer or was answered for. -/
structure Sound (first : Folders) (s : Sessions) (gate : ApprovalGate) (spec : ToolSpec) (answer : Option Int) : Prop where
  capability : gate.policy.capabilityStatus spec.capability ≠ .denied
  fragment : gate.policy.allowTools.get? spec.name ≠ some false
  answered : needsAnswer gate.policy spec = true → Answered first s gate spec answer

/-- The calls that the gate handles as its policy says: a tool with a denying fragment gets no approval, a tool
that needs an answer is asked for, and only tools whose name has no white space around it are always allowed. -/
def callOk (gate : ApprovalGate) (spec : ToolSpec) (answer : Option Int) : Bool :=
  let asks := needsPrompt gate.policy.approval spec
  (gate.policy.allowTools.get? spec.name != some false || gate.policy.capabilityStatus spec.capability == .denied ||
    (!gate.sessionAllow.contains spec.name && asks &&
      (!gate.interactive || !(answer == some 1 || answer == some 2 || answer == some 3)))) &&
  (!needsAnswer gate.policy spec || gate.policy.capabilityStatus spec.capability == .denied || asks ||
    gate.policy.allowTools.get? spec.name == some true || gate.sessionAllow.contains spec.name) &&
  (answer != some 3 || stripped spec.name == spec.name)

/-- Sessions without the flag `yes`, with another approval than `never`, whose calls are handled as the policy says. -/
def admitted : Admits Sessions Event := fun s e =>
  match e with
  | .start policy _ _ => policy.approval != .never && policy.allowTools.items.isEmpty
  | .call spec answer => match s.gate with
    | none => true
    | some gate => callOk gate spec answer

variable {gate : ApprovalGate} {answer : Option Int}

theorem callOk_named {spec : ToolSpec} (ok : callOk gate spec answer = true)
    (chosen : answer.getD 4 = 3) : stripped spec.name = spec.name := by
  obtain ⟨-, named⟩ := (Bool.and_eq_true _ _).mp ok
  cases answer with
  | none => exact absurd chosen (by decide)
  | some choice =>
    have three : choice = 3 := chosen
    subst three
    exact beq_iff_eq.mp named

/-! ## The invariant -/

/-- What a gate knows of the answers. -/
structure GateKnown (first : Folders) (session : ℕ) (answers : List Answer) (gate : ApprovalGate) : Prop where
  yes : gate.yes = false
  approval : gate.policy.approval ≠ .never
  allowed : ∀ name ∈ gate.sessionAllow, ∃ a ∈ answers, a.tool = name ∧ a.session = session ∧ a.choice = 2
  rules : ∀ name, gate.policy.allowTools.get? name = some true →
    (∃ a ∈ answers, a.tool = name ∧ a.session < session ∧ a.choice = 3 ∧ a.folder = gate.policy.fragmentDir) ∨
      (name, true) ∈ fragments (first gate.policy.fragmentDir)

/-- A further answer takes nothing from what a gate knows. -/
theorem GateKnown.more {first : Folders} {session : ℕ} {answers answers' : List Answer} {gate : ApprovalGate}
    (known : GateKnown first session answers gate) (more : ∀ a ∈ answers, a ∈ answers') :
    GateKnown first session answers' gate := by
  refine ⟨known.yes, known.approval, fun name mem => ?_, fun name found => ?_⟩
  · obtain ⟨a, mem, holds⟩ := known.allowed name mem
    exact ⟨a, more a mem, holds⟩
  · rcases known.rules name found with ⟨a, mem, holds⟩ | there
    · exact .inl ⟨a, more a mem, holds⟩
    · exact .inr there

/-- What the sessions know of the answers. -/
structure Known (first : Folders) (s : Sessions) : Prop where
  sessions : ∀ a ∈ s.answers, a.session ≤ s.session
  folders : ∀ path name, (name, true) ∈ fragments (s.folders path) →
    (name, true) ∈ fragments (first path) ∨ ∃ a ∈ s.answers, a.tool = name ∧ a.choice = 3 ∧ a.folder = path
  gate : ∀ gate, s.gate = some gate → GateKnown first s.session s.answers gate

theorem Known.start (first : Folders) : Known first { folders := first } where
  sessions := fun _ mem => nomatch mem
  folders := fun _ _ mem => .inl mem
  gate := fun _ none => nomatch none

/-- A session that begins knows the fragments of its directory. -/
theorem Known.begin {first : Folders} {s : Sessions} (known : Known first s) {policy : AiPolicy} (path : String)
    (interactive : Bool) (asks : policy.approval ≠ .never) (fresh : policy.allowTools.items = []) :
    Known first { s with
      gate := some { policy := mergeFragments policy path (s.folders path), interactive := interactive }
      session := s.session + 1 } := by
  refine ⟨fun a mem => Nat.le_succ_of_le (known.sessions a mem), known.folders, fun gate same => ?_⟩
  cases same
  refine ⟨rfl, asks, fun name mem => (by cases mem), fun name found => ?_⟩
  rcases foldl_set_mem found with mem | found
  · rcases known.folders path name mem with mem | ⟨a, mem, tool, choice, folder⟩
    · exact .inr mem
    · exact .inl ⟨a, mem, tool, Nat.lt_succ_of_le (known.sessions a mem), choice, folder⟩
  · rw [Mapping.get?, fresh] at found
    cases found

/-- A call that is handled as the policy says keeps what is known. -/
theorem Known.call {first : Folders} {s : Sessions} (known : Known first s)
    (current : s.gate = some gate) {spec : ToolSpec} (ok : callOk gate spec answer = true) :
    Known first { s with
      folders := (gate.decide s.folders spec answer).2.2
      gate := some (gate.decide s.folders spec answer).2.1
      answers := answersAfter s gate spec answer } := by
  have gateKnown := known.gate gate current
  unfold ApprovalGate.decide answersAfter
  cases silent : gate.unasked spec with
  | some decision => exact ⟨known.sessions, known.folders, fun _ same => Option.some.inj same ▸ gateKnown⟩
  | none =>
    have asked : (none : Option ApprovalDecision).isNone = true := rfl
    simp only [asked, if_true]
    have more : ∀ a ∈ s.answers,
        a ∈ (⟨s.session, gate.policy.fragmentDir, spec.name, answer.getD 4⟩ : Answer) :: s.answers := fun a mem => .tail _ mem
    have sessions : ∀ a ∈ (⟨s.session, gate.policy.fragmentDir, spec.name, answer.getD 4⟩ : Answer) :: s.answers,
        a.session ≤ s.session := by
      intro a mem
      rcases List.mem_cons.mp mem with rfl | mem
      · exact le_rfl
      · exact known.sessions a mem
    have folders : ∀ path name, (name, true) ∈ fragments (s.folders path) →
        (name, true) ∈ fragments (first path) ∨
          ∃ a ∈ (⟨s.session, gate.policy.fragmentDir, spec.name, answer.getD 4⟩ : Answer) :: s.answers,
            a.tool = name ∧ a.choice = 3 ∧ a.folder = path := by
      intro path name mem
      rcases known.folders path name mem with mem | ⟨a, mem, holds⟩
      · exact .inl mem
      · exact .inr ⟨a, more a mem, holds⟩
    unfold ApprovalGate.answered
    split
    · exact ⟨sessions, folders, fun _ same => Option.some.inj same ▸ gateKnown.more more⟩
    split
    · next chosen =>
      refine ⟨sessions, folders, fun _ same => ?_⟩
      cases same
      obtain ⟨yes, approval, allowed, rules⟩ := gateKnown.more more
      refine ⟨yes, approval, fun name mem => ?_, rules⟩
      rcases List.mem_cons.mp mem with rfl | mem
      · exact ⟨_, .head _, rfl, rfl, chosen⟩
      · exact allowed name mem
    split
    · next chosen =>
      refine ⟨sessions, fun path name mem => ?_, fun _ same => Option.some.inj same ▸ gateKnown.more more⟩
      dsimp only at mem
      by_cases same : path = gate.policy.fragmentDir
      · subst same
        rw [Function.update_self] at mem
        rcases mem_fragments_saveFragment mem with mem | saved
        · exact folders _ name mem
        · have named := callOk_named ok chosen
          cases saved
          exact .inr ⟨_, .head _, named.symm, chosen, rfl⟩
      · rw [Function.update_of_ne same] at mem
        exact folders path name mem
    · exact ⟨sessions, folders, fun _ same => Option.some.inj same ▸ gateKnown.more more⟩

/-! ## Approvals -/

/-- Admitted sessions keep what is known. -/
theorem Known.run {first : Folders} {s : Sessions} {events : List Event}
    (run : sessionSystem.run admitted { folders := first } events = some s) : Known first s := by
  refine System.invariant (Known.start first) (fun s e s' known ok step => ?_) run
  cases e with
  | start policy path interactive =>
    cases step
    obtain ⟨asks, fresh⟩ := (Bool.and_eq_true _ _).mp ok
    exact known.begin path interactive (bne_iff_ne.mp asks) (List.isEmpty_iff.mp fresh)
  | call spec answer =>
    obtain ⟨gate, current, rfl⟩ := Option.map_eq_some_iff.mp step
    rw [admitted, current] at ok
    exact known.call current ok

/-- How a gate comes to approve a call. -/
theorem decide_approved {folders : Folders} {spec : ToolSpec}
    (yes : gate.yes = false) (approval : gate.policy.approval ≠ .never)
    (approved : (gate.decide folders spec answer).1.action = .approved) :
    gate.policy.capabilityStatus spec.capability ≠ .denied ∧
      (gate.policy.allowTools.get? spec.name = some true ∨ gate.sessionAllow.contains spec.name = true ∨
        needsPrompt gate.policy.approval spec = false ∨
        (gate.unasked spec = none ∧ gate.interactive = true ∧
          (answer = some 1 ∨ answer = some 2 ∨ answer = some 3))) := by
  cases silent : gate.unasked spec with
  | some decision =>
    have same : decision.action = .approved := by
      rw [ApprovalGate.decide, silent] at approved
      exact approved
    unfold ApprovalGate.unasked at silent
    rw [yes] at silent
    split at silent
    · cases silent
      nomatch same
    next capability =>
    refine ⟨capability, ?_⟩
    split at silent
    · next impossible => nomatch impossible
    split at silent
    · next rule => exact .inl rule
    split at silent
    · next session => exact .inr (.inl session)
    split at silent
    · next quiet => exact .inr (.inr (.inl (Bool.not_eq_true' _ |>.mp quiet)))
    split at silent
    · cases silent
      nomatch same
    · nomatch silent
  | none =>
    rw [ApprovalGate.decide, silent] at approved
    have chosen : answer = some 1 ∨ answer = some 2 ∨ answer = some 3 := by
      cases answer with
      | none => nomatch approved
      | some choice =>
        unfold ApprovalGate.answered at approved
        simp only [Option.getD_some, Option.some.injEq] at approved ⊢
        split at approved
        · next one => exact .inl one
        split at approved
        · next two => exact .inr (.inl two)
        split at approved
        · next three => exact .inr (.inr three)
        · nomatch approved
    have asked := silent
    unfold ApprovalGate.unasked at asked
    split at asked
    · nomatch asked
    next capability =>
    refine ⟨capability, .inr (.inr (.inr ⟨rfl, ?_, chosen⟩))⟩
    cases here : gate.interactive with
    | true => rfl
    | false =>
      -- without a person there is an answer in each case
      rw [yes, here] at asked
      split at asked
      · nomatch asked
      split at asked
      · nomatch asked
      split at asked
      · nomatch asked
      split at asked
      · nomatch asked
      · nomatch asked

/-- **Approvals.** In sessions whose calls are handled as the policy says, each approval is sound. -/
theorem approvals_sound {first : Folders} {s : Sessions} {events : List Event}
    (run : sessionSystem.run admitted { folders := first } events = some s) {gate : ApprovalGate}
    (current : s.gate = some gate) {spec : ToolSpec} {answer : Option Int} (ok : callOk gate spec answer = true)
    (approved : (gate.decide s.folders spec answer).1.action = .approved) : Sound first s gate spec answer := by
  have known := (Known.run run).gate gate current
  obtain ⟨capability, how⟩ := decide_approved known.yes known.approval approved
  have notDenied : (gate.policy.capabilityStatus spec.capability == .denied) = false := beq_eq_false_iff_ne.mpr capability
  simp only [callOk, notDenied, Bool.and_eq_true, Bool.or_eq_true, Bool.or_false] at ok
  obtain ⟨⟨fragment, asked⟩, -⟩ := ok
  -- an answer of an earlier session or of this one
  have byRule (rule : gate.policy.allowTools.get? spec.name = some true) : Answered first s gate spec answer := by
    rcases known.rules spec.name rule with earlier | there
    · exact .inr (.inr (.inl earlier))
    · exact .inr (.inr (.inr there))
  have bySession (allowed : gate.sessionAllow.contains spec.name = true) : Answered first s gate spec answer := by
    obtain ⟨a, mem, tool, session, choice⟩ := known.allowed spec.name (List.contains_iff_mem.mp allowed)
    exact .inr (.inl ⟨a, mem, tool, session, .inl choice⟩)
  refine ⟨capability, fun denied => ?_, fun needs => ?_⟩
  · rw [denied] at fragment how
    rcases fragment with other | ⟨⟨session, asks⟩, unanswered⟩
    · exact absurd rfl (bne_iff_ne.mp other)
    · rcases how with rule | allowed | quiet | ⟨-, interactive, choice⟩
      · nomatch rule
      · rw [allowed] at session
        nomatch session
      · rw [quiet] at asks
        nomatch asks
      · rw [interactive] at unanswered
        rcases choice with rfl | rfl | rfl <;> simp at unanswered
  · rcases asked with ((free | asks) | rule) | allowed
    · rw [needs] at free
      nomatch free
    · rcases how with rule | allowed | quiet | ⟨silent, -, choice⟩
      · exact byRule rule
      · exact bySession allowed
      · rw [quiet] at asks
        nomatch asks
      · exact .inl ⟨silent, choice⟩
    · exact byRule (beq_iff_eq.mp rule)
    · exact bySession allowed

/-! ## A tool that is denied, and one that is asked for -/

/-- A directory with a fragment that denies `fake.echo`. -/
def denyingFolders : Folders := fun _ =>
  .ofItems [("fake.echo.json", some (.obj [("tool", .str "fake.echo"), ("allow", .bool false)]))]

def fullPolicy : AiPolicy := { access := .fullAccess, capabilities := presetCapabilities .fullAccess }

/-- The sessions after one began there. -/
def denyingSession : Sessions where
  folders := denyingFolders
  gate := some { policy := mergeFragments fullPolicy "policies" (denyingFolders "policies"), interactive := true }
  session := 1

/-- The tool is approved though its fragment denies it. -/
theorem denied_tool_approved : ∃ gate,
    sessionSystem.run admitted { folders := denyingFolders } [.start fullPolicy "policies" true] = some denyingSession ∧
    denyingSession.gate = some gate ∧
    (gate.decide denyingSession.folders { name := "fake.echo" } none).1.action = .approved ∧
    ¬Sound denyingFolders denyingSession gate { name := "fake.echo" } none :=
  ⟨_, rfl, rfl, rfl, fun sound => sound.fragment rfl⟩

/-- A shell is approved with an answer. -/
theorem approvals_sound_shell : ∃ gate, denyingSession.gate = some gate ∧
    Sound denyingFolders denyingSession gate
      { name := "fake.shell", capability := "command.shell", shell := true, risk := .high } (some 1) := by
  have run : sessionSystem.run admitted { folders := denyingFolders } [.start fullPolicy "policies" true] =
      some denyingSession := rfl
  exact ⟨_, rfl, approvals_sound run rfl rfl rfl⟩

end ApiManger.AiCli
