import ApiManger.AiCli.Policy

/-!
# The access of the command line and the one of a file

A capability that a policy file lists has the value of the file. For one that it does not
list, the access of the command line decides, except where the access named in the file has
another answer: its preset was written into the capabilities before.
-/

namespace ApiManger.AiCli
open Python

def listedValue (payload : Dict) (capability : String) : Option Bool :=
  (dictOf (Dict.get payload "capabilities") >>= booleans).toOption.bind (·.get? capability)

def accessStatus (access : Access) (capability : String) : Status := statusOf ((presetCapabilities access).get? capability)

/-- The status that a file and the access of the command line ask for. -/
def requestedStatus (payload : Dict) (access : Access) (capability : String) : Status :=
  match listedValue payload capability with
  | some allowed => statusOf (some allowed)
  | none => accessStatus access capability

section
variable {payload : Dict} {loaded policy : AiPolicy} {access approval path : String} {directory : Directory}

theorem policyFromFile_spec (read : policyFromFile (.json (.obj payload)) = .ok loaded) :
    validateAccess (textOr payload "access" "custom") = .ok loaded.access ∧
      ∀ capability, loaded.capabilities.get? capability =
        (listedValue payload capability).or ((presetCapabilities loaded.access).get? capability) := by
  simp only [policyFromFile, bind_eq_ok] at read
  obtain ⟨fileAccess, named, _, _, listed, dict, _, _, capabilities, checked, read⟩ := read
  cases Except.ok.inj read
  refine ⟨named, fun capability => ?_⟩
  have value : listedValue payload capability = capabilities.get? capability := by
    rw [listedValue, dict, ok_bind, checked]
    rfl
  rw [Mapping.get?_update, value]

@[simp] theorem capabilityStatus_mergeFragments (policy : AiPolicy) (path : String) (directory : Directory) :
    (mergeFragments policy path directory).capabilityStatus = policy.capabilityStatus := rfl

theorem capabilityStatus_of {policy : AiPolicy} {capability : String} :
    policy.capabilityStatus capability =
      statusOf ((policy.capabilities.get? capability).or ((presetCapabilities policy.access).get? capability)) := by
  unfold AiPolicy.capabilityStatus
  cases policy.capabilities.get? capability <;> rfl

/-- The status of a capability in a policy whose access the command line sets. -/
theorem capabilityStatus_overridden (requested : Access) (preference : Approval) (capability : String) :
    (overridden requested preference loaded).capabilityStatus capability =
      statusOf ((loaded.capabilities.get? capability).or ((presetCapabilities requested).get? capability)) := by
  rw [capabilityStatus_of]
  unfold overridden
  split
  · rfl
  · rw [Mapping.get?_update]
    cases loaded.capabilities.get? capability <;> cases (presetCapabilities requested).get? capability <;> rfl

/-- All presets answer for the same capabilities. -/
theorem preset_none {fileAccess requested : Access} {capability : String} (preset : fileAccess ≠ .custom)
    (unknown : (presetCapabilities fileAccess).get? capability = none) :
    (presetCapabilities requested).get? capability = none := by
  have absent {access : Access} : (presetCapabilities access).get? capability = none ↔
      capability ∉ (presetCapabilities access).keys := by
    rw [Mapping.get?, Option.map_eq_none_iff, Collection.lookup_eq_none, Mapping.keys, List.mem_map]
    constructor
    · rintro none ⟨e, mem, same⟩
      exact none e mem same
    · exact fun none e mem same => none ⟨e, mem, same⟩
  have names : ∀ access : Access, (presetCapabilities access).keys = (presetItems false false).map (·.1) ∨
      (presetCapabilities access).keys = [] := by
    intro access
    cases access <;> decide
  have filled : (presetCapabilities fileAccess).keys = (presetItems false false).map (·.1) := by
    cases fileAccess with
    | custom => exact absurd rfl preset
    | _ => decide
  rw [absent, filled] at unknown
  rw [absent]
  rcases names requested with same | empty
  · rw [same]
    exact unknown
  · rw [empty]
    exact List.not_mem_nil

/-- A composed policy comes from a file that was read. -/
theorem composePolicy_spec (other : access ≠ "read-only" ∨ approval ≠ "on-risk")
    (composed : composePolicy access approval (some (.json (.obj payload))) path directory = .ok policy) :
    ∃ requested preference loaded, validateAccess access = .ok requested ∧
      policyFromFile (.json (.obj payload)) = .ok loaded ∧
      policy.capabilityStatus = (overridden requested preference loaded).capabilityStatus := by
  simp only [composePolicy, bind_eq_ok] at composed
  obtain ⟨requested, valid, preference, -, loaded, read, composed⟩ := composed
  have explicit : (access != "read-only" || approval != "on-risk") = true := by
    rw [Bool.or_eq_true, bne_iff_ne, bne_iff_ne]
    exact other
  cases Except.ok.inj composed
  refine ⟨requested, preference, loaded, valid, read, ?_⟩
  rw [capabilityStatus_mergeFragments, if_pos explicit]

/-- **Access.** In a policy composed with an access or an approval of the command line, each capability has the
value of the file or else the one of that access, just where the access of the file is `custom` or answers, for
all that the file does not list, as the access of the command line does. -/
theorem composePolicy_status_iff (other : access ≠ "read-only" ∨ approval ≠ "on-risk")
    (composed : composePolicy access approval (some (.json (.obj payload))) path directory = .ok policy) :
    ∃ requested fileAccess, validateAccess access = .ok requested ∧
      validateAccess (textOr payload "access" "custom") = .ok fileAccess ∧
      ((∀ capability, policy.capabilityStatus capability = requestedStatus payload requested capability) ↔
        fileAccess = .custom ∨ ∀ capability, listedValue payload capability = none →
          accessStatus fileAccess capability = accessStatus requested capability) := by
  obtain ⟨requested, preference, loaded, valid, read, same⟩ := composePolicy_spec other composed
  obtain ⟨named, capabilities⟩ := policyFromFile_spec read
  refine ⟨requested, loaded.access, valid, named, ?_⟩
  have status (capability : String) : policy.capabilityStatus capability =
      statusOf (((listedValue payload capability).or ((presetCapabilities loaded.access).get? capability)).or
        ((presetCapabilities requested).get? capability)) := by
    rw [same, capabilityStatus_overridden, capabilities]
  constructor
  · intro asked
    refine or_iff_not_imp_left.mpr fun preset capability unlisted => ?_
    have answer := asked capability
    rw [status, requestedStatus, unlisted, Option.none_or] at answer
    unfold accessStatus at answer ⊢
    cases granted : (presetCapabilities loaded.access).get? capability with
    | none => rw [preset_none preset granted]
    | some allowed =>
      rw [granted] at answer
      exact answer
  · intro agree capability
    rw [status, requestedStatus]
    cases unlisted : listedValue payload capability with
    | some allowed => rfl
    | none =>
      unfold accessStatus at agree ⊢
      rw [Option.none_or]
      rcases agree with custom | agree
      · rw [custom]
        rfl
      · have answer := agree capability unlisted
        cases granted : (presetCapabilities loaded.access).get? capability with
        | none => rfl
        | some allowed =>
          rw [granted] at answer
          exact answer

end

/-- A file of full access, under read-only access on the command line. -/
theorem fullAccess_kept :
    (composePolicy "read-only" "always" (some (.json (.obj [("access", .str "full-access")]))) "policies" .empty).toOption.map
        (·.capabilityStatus "command.shell") = some .allowed ∧
      requestedStatus [("access", .str "full-access")] .readOnly "command.shell" = .denied := by
  decide +kernel

def pluginFile : Dict := [("capabilities", .obj [("plugin", .bool true)])]

/-- The policy of that file under read-only access. -/
def pluginPolicy : AiPolicy :=
  mergeFragments (overridden .readOnly .always { access := .custom, capabilities := .ofItems [("plugin", true)] })
    "policies" .empty

theorem composePolicy_status_plugin : ∃ requested fileAccess, validateAccess "read-only" = .ok requested ∧
    validateAccess (textOr pluginFile "access" "custom") = .ok fileAccess ∧
    ((∀ capability, pluginPolicy.capabilityStatus capability = requestedStatus pluginFile requested capability) ↔
      fileAccess = .custom ∨ ∀ capability, listedValue pluginFile capability = none →
        accessStatus fileAccess capability = accessStatus requested capability) := by
  have composed : composePolicy "read-only" "always" (some (.json (.obj pluginFile))) "policies" .empty =
      .ok pluginPolicy := rfl
  exact composePolicy_status_iff (.inr (by decide)) composed

end ApiManger.AiCli
