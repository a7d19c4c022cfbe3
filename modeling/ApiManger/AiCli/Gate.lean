import ApiManger.AiCli.Policy
import ApiManger.Transition.System

/-!
# The approval gate

`ApprovalGate` of `apiAnalysis/ai_cli/session.py`, and the sessions a person has with it one
after another: each begins with the fragments of a directory, asks before some of the calls,
and writes a fragment where the answer is to always allow a tool.
-/

namespace ApiManger.AiCli
open Python Transition

/-- The risks `ToolRegistry.register` admits. -/
inductive Risk where
  | low | medium | high | critical
  deriving DecidableEq

/-- `ToolSpec`, as far as the gate reads it. -/
structure ToolSpec where
  name : String
  capability : String := "project.read"
  writes : Bool := false
  network : Bool := false
  mutation : Bool := false
  shell : Bool := false
  risk : Risk := .low

inductive Action where
  | approved | denied | approvalRequired

structure ApprovalDecision where
  action : Action
  reason : String := ""

structure ApprovalGate where
  policy : AiPolicy
  yes : Bool := false
  interactive : Bool
  sessionAllow : List String := []

def needsPrompt (approval : Approval) (spec : ToolSpec) : Bool :=
  if approval = .always then spec.writes || spec.network || spec.shell || spec.mutation
  else spec.risk == .high || spec.risk == .critical || spec.mutation || spec.shell

/-- What the gate says without asking; none where it asks. -/
def ApprovalGate.unasked (gate : ApprovalGate) (spec : ToolSpec) : Option ApprovalDecision :=
  if gate.policy.capabilityStatus spec.capability = .denied then some ⟨.denied, "policy_denied:" ++ spec.capability⟩
  else if gate.yes then some ⟨.approved, "yes_flag"⟩
  else if gate.policy.allowTools.get? spec.name = some true then some ⟨.approved, "always_allowed_rule"⟩
  else if gate.sessionAllow.contains spec.name then some ⟨.approved, "session_allow"⟩
  else if gate.policy.approval = .never then some ⟨.approved, "approval_never"⟩
  else if !needsPrompt gate.policy.approval spec then some ⟨.approved, "auto_not_risky"⟩
  else if !gate.interactive then some ⟨.approvalRequired, "non_interactive"⟩
  else none

/-- The directories with fragments, by their paths. -/
abbrev Folders := String → Directory

/-- What the gate does with the number a person answered. -/
def ApprovalGate.answered (gate : ApprovalGate) (folders : Folders) (spec : ToolSpec) (choice : Int) :
    ApprovalDecision × ApprovalGate × Folders :=
  if choice = 1 then (⟨.approved, "once"⟩, gate, folders)
  else if choice = 2 then
    (⟨.approved, "session"⟩, { gate with sessionAllow := spec.name :: gate.sessionAllow }, folders)
  else if choice = 3 then
    (⟨.approved, "always_rule"⟩, gate,
      Function.update folders gate.policy.fragmentDir (saveFragment spec.name true (folders gate.policy.fragmentDir)))
  else (⟨.denied, "user_denied"⟩, gate, folders)

/-- `ApprovalGate.decide`; the answer is the number of the line that was read, none where it is no number. -/
def ApprovalGate.decide (gate : ApprovalGate) (folders : Folders) (spec : ToolSpec) (answer : Option Int) :
    ApprovalDecision × ApprovalGate × Folders :=
  match gate.unasked spec with
  | some decision => (decision, gate, folders)
  | none => gate.answered folders spec (answer.getD 4)

/-! ## Sessions -/

/-- An answer a person gave. -/
structure Answer where
  session : ℕ
  folder : String
  tool : String
  choice : Int

/-- The sessions so far: the directories, the gate of the last session and all answers. -/
structure Sessions where
  folders : Folders
  gate : Option ApprovalGate := none
  session : ℕ := 0
  answers : List Answer := []

inductive Event where
  /-- A session begins with a policy and the fragments of a directory. -/
  | start (policy : AiPolicy) (path : String) (interactive : Bool)
  | call (spec : ToolSpec) (answer : Option Int)

/-- The answers after a call: a new one where the gate asked. -/
def answersAfter (s : Sessions) (gate : ApprovalGate) (spec : ToolSpec) (answer : Option Int) : List Answer :=
  if (gate.unasked spec).isNone then
    ⟨s.session, gate.policy.fragmentDir, spec.name, answer.getD 4⟩ :: s.answers
  else s.answers

def sessionSystem : System Sessions Event where
  step s
    | .start policy path interactive => some { s with
        gate := some { policy := mergeFragments policy path (s.folders path), interactive := interactive }
        session := s.session + 1 }
    | .call spec answer => s.gate.map fun gate =>
        let (_, gate', folders') := gate.decide s.folders spec answer
        { s with folders := folders', gate := some gate', answers := answersAfter s gate spec answer }

end ApiManger.AiCli
