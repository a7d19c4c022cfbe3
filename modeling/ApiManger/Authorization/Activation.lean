import ApiManger.Authorization.Policy
import ApiManger.Interleaving.RelyGuarantee

/-!
# Activating policy versions

`activate_authorization_policy` and `add_authorization_policy_rule` of
`apiAnalysis/tool/authorization_policy.py` as programs over atomic reads and writes
of the stored versions and rules. Principals, parameter relations and profiles
belong to other components: what a read of them answers is a matter of the step.
-/

namespace ApiManger.Authorization
open Python Collection Interleaving

/-- `parameter_relation`, as far as an activation reads it. -/
structure PolicyRelation where
  id : String
  projectId : String := ""
  envId : String := ""
  resPathid : Int := 0
  reqPathid : Int := 0
  parameter : String := ""
  sourceParameter : String := ""
  targetParameter : String := ""
  sourceLocator : Dict := []
  targetLocator : Dict := []
  targetPosition : String := ""
  schemaFingerprint : String := ""
  verified : Bool := false
  manualDecision : String := ""

/-- `ProjectAuthProfile`, as far as an activation reads it. -/
structure PrincipalProfile where
  accountKey : String
  currentRevisionId : String := ""

/-! ## The checks -/

/-- What `ObjectId(text)` accepts. -/
def isObjectId (text : String) : Bool :=
  text.length == 24 && text.toList.all fun c =>
    c.isDigit || ('a' ≤ c && c ≤ 'f') || ('A' ≤ c && c ≤ 'F')

def namesMissing (names : List String) : String := ", ".intercalate names

variable (version : String) (policy : AuthorizationPolicy)

/-- The principals a policy names are among those found. -/
def checkPrincipals (principals : List AuthorizationPrincipal) :
    Except PyError Unit :=
  let missing := policy.principalIds.filter fun id => !principals.any (·.principalId == id)
  if missing.isEmpty then .ok ()
  else .error (.valueError ("authorization policy has unavailable principals: " ++ namesMissing missing))

def checkRelationIds : Except PyError Unit :=
  if policy.relationIds.all isObjectId then .ok ()
  else .error (.valueError "authorization policy contains an invalid relation id")

def checkRelation (relation : PolicyRelation) : Except PyError Unit :=
  if relation.projectId ≠ policy.projectId then
    .error (.valueError "authorization policy relation belongs to another project")
  else if relation.envId ≠ "" ∧ relation.envId ≠ policy.envId then
    .error (.valueError "authorization policy relation belongs to another environment")
  else if relation.sourceLocator.isEmpty || relation.targetLocator.isEmpty then
    .error (.valueError "authorization policy requires located parameter relations")
  else if !relation.verified && relation.manualDecision != "trusted" then
    .error (.valueError "authorization policy requires verified or explicitly trusted relations")
  else .ok ()

/-- The checks of the relations, in the order of the code. -/
def checkRelations (relations : List PolicyRelation) : Except PyError Unit :=
  let missing := policy.relationIds.filter fun id => !relations.any (·.id == id)
  if missing.isEmpty then relations.forM (checkRelation policy)
  else .error (.valueError ("authorization policy has unavailable relations: " ++ namesMissing missing))

/-- `authorization_relation_descriptor`, without its digest. -/
def authorizationRelationDescriptor (r : PolicyRelation) : Dict := [
  ("relation_id", .str r.id), ("project_id", .str r.projectId), ("env_id", .str r.envId),
  ("source_pathid", .int r.resPathid), ("consumer_pathid", .int r.reqPathid),
  ("canonical_name", .str r.parameter), ("source_parameter", .str r.sourceParameter),
  ("target_parameter", .str r.targetParameter), ("source_locator", .obj r.sourceLocator),
  ("target_locator", .obj r.targetLocator), ("target_position", .str r.targetPosition),
  ("schema_fingerprint", .str r.schemaFingerprint)]

/-- One entry of `principal_snapshots`. -/
def principalSnapshot (principal : AuthorizationPrincipal) (profile : PrincipalProfile) : Dict := [
  ("principal_id", .str principal.principalId), ("profile_id", .str principal.profileId),
  ("account_key", .str principal.accountKey), ("name", .str principal.name),
  ("role_key", .str principal.roleKey), ("privilege_rank", .int principal.privilegeRank),
  ("scope_key", .str principal.scopeKey),
  ("labels", .arr ((principal.labels.insertionSort (· ≤ ·)).map .str)),
  ("attributes", .obj principal.attributes),
  ("auth_profile_revision_id", .str profile.currentRevisionId)]

/-! ## The store -/

/-- An update of the policies that keeps their versions. -/
def PolicyStore.update (s : PolicyStore) (f : AuthorizationPolicy → AuthorizationPolicy)
    (keeps : ∀ p, (f p).policyVersionId = p.policyVersionId) : PolicyStore :=
  { s with
    policies := s.policies.map f
    uniqueVersions := s.uniqueVersions.map keeps
    owned := fun r mem => (s.owned r mem).imp' f fun p h =>
      ⟨List.mem_map_of_mem h.1, (keeps p).trans h.2⟩ }

/-- The update that archives the other active versions of a key. -/
def archiveOther (key version : String) (p : AuthorizationPolicy) : AuthorizationPolicy :=
  if p.policyKey == key && p.lifecycle == .active && p.policyVersionId != version then
    { p with lifecycle := .archived }
  else p

/-- The update that promotes a draft. -/
def promoteDraft (principals relations : List Dict) (now : Int)
    (p : AuthorizationPolicy) : AuthorizationPolicy :=
  if p.policyVersionId == version && p.lifecycle == .draft then
    { p with lifecycle := .active, principalSnapshots := principals, relationSnapshots := relations,
             activatedAt := some now }
  else p

/-- The index on the key of the active versions refuses the promotion. -/
def blocked (s : PolicyStore) (version : String) : Bool :=
  s.policies.any fun p => p.policyVersionId == version && p.lifecycle == .draft &&
    s.policies.any fun q => q.policyKey == p.policyKey && q.lifecycle == .active

@[simp] theorem archiveOther_version (key version : String) (p : AuthorizationPolicy) :
    (archiveOther key version p).policyVersionId = p.policyVersionId := by
  unfold archiveOther
  split <;> rfl

@[simp] theorem archiveOther_key (key version : String) (p : AuthorizationPolicy) :
    (archiveOther key version p).policyKey = p.policyKey := by
  unfold archiveOther
  split <;> rfl

@[simp] theorem promoteDraft_version (ps rs : List Dict) (now : Int)
    (p : AuthorizationPolicy) : (promoteDraft version ps rs now p).policyVersionId = p.policyVersionId := by
  unfold promoteDraft
  split <;> rfl

@[simp] theorem promoteDraft_key (ps rs : List Dict) (now : Int)
    (p : AuthorizationPolicy) : (promoteDraft version ps rs now p).policyKey = p.policyKey := by
  unfold promoteDraft
  split <;> rfl

/-! ## The programs -/

inductive PolicyOp where
  | findPolicy (version : String)
  | availablePrincipals (ids : List String) (projectId envId : String)
  | relations (ids : List String)
  | profile (principal : AuthorizationPrincipal) (projectId envId : String)
  | archiveOthers (key version : String)
  | promote (version : String) (principals relations : List Dict)
  | saveRule (version : String) (draft : RuleDraft) (subject owner : Dict)

def PolicyOp.Ret : PolicyOp → Type
  | .findPolicy _ => Option AuthorizationPolicy
  | .availablePrincipals .. => List AuthorizationPrincipal
  | .relations _ => List PolicyRelation
  | .profile .. => Option PrincipalProfile
  | .archiveOthers .. | .promote .. | .saveRule .. => Unit

def policySignature : Signature where
  Op := PolicyOp
  Ret := PolicyOp.Ret
  Err := PyError

/-- One read or write. -/
def atomic (o : PolicyOp) : Prog policySignature o.Ret := Prog.perform (S := policySignature) o

/-- The loop that pins the profile of every principal. -/
def principalSnapshots (policy : AuthorizationPolicy) :
    List AuthorizationPrincipal → Prog policySignature (List Dict)
  | [] => .ret []
  | principal :: rest => do
    let profile ← atomic (.profile principal policy.projectId policy.envId)
    match profile with
    | some profile =>
      if profile.accountKey ≠ principal.accountKey then
        .raise (.valueError ("authorization principal " ++ principal.principalId ++
          " has no matching active authentication profile"))
      else do
        let others ← principalSnapshots policy rest
        .ret (principalSnapshot principal profile :: others)
    | none => .raise (.valueError ("authorization principal " ++ principal.principalId ++
        " has no matching active authentication profile"))

/-- The checks of an activation, and the two snapshots it writes. -/
def activationSnapshots : Prog policySignature (List Dict × List Dict) := do
  let principals ← atomic
    (.availablePrincipals policy.principalIds policy.projectId policy.envId)
  Prog.ofExcept (checkPrincipals policy principals)
  Prog.ofExcept (checkRelationIds policy)
  let relations ← atomic (.relations policy.relationIds)
  Prog.ofExcept (checkRelations policy relations)
  let snapshots ← principalSnapshots policy
    (principals.insertionSort fun a b => a.principalId ≤ b.principalId)
  .ret (snapshots, (relations.insertionSort fun a b => a.id ≤ b.id).map authorizationRelationDescriptor)

def activateAuthorizationPolicy : Prog policySignature Unit := do
  let found ← atomic (.findPolicy version)
  match found with
  | none => .raise (.valueError "authorization policy not found")
  | some policy =>
    if policy.lifecycle = .archived then
      .raise (.valueError "archived authorization policy cannot be activated")
    else do
      let (principals, relations) ← activationSnapshots policy
      atomic (.archiveOthers policy.policyKey policy.policyVersionId)
      atomic (.promote policy.policyVersionId principals relations)
      let _ ← atomic (.findPolicy policy.policyVersionId)
      .ret ()

/-- `add_authorization_policy_rule`, one read and one insertion. -/
def addPolicyRule (draft : RuleDraft) : Prog policySignature Unit := do
  let found ← atomic (.findPolicy version)
  match found with
  | none => .raise (.valueError "authorization policy not found")
  | some policy =>
    if policy.lifecycle ≠ .draft then
      .raise (.valueError "active authorization policy versions are immutable")
    else do
      let subject ← Prog.ofExcept (validateSelector draft.subjectSelector)
      let owner ← Prog.ofExcept (validateSelector draft.ownerSelector)
      atomic (.saveRule policy.policyVersionId draft subject owner)

/-! ## The machine -/

inductive PolicyCall where
  | activate (version : String)
  | addRule (version : String) (draft : RuleDraft)

def PolicyCall.code : PolicyCall → Prog policySignature Unit
  | .activate version => activateAuthorizationPolicy version
  | .addRule version draft => addPolicyRule version draft

/-- What a step brings with it: the call that starts, the answers of the other collections, the
clock and a drawn name. -/
structure PolicyInput where
  call : PolicyCall := .activate ""
  principals : List AuthorizationPrincipal := []
  relations : List PolicyRelation := []
  profile : Option PrincipalProfile := none
  now : Int := 0
  name : String := ""

/-- The store, with two histories: the call each thread makes, and the version it has archived the
others for and has not tried to promote yet. -/
structure PolicyState where
  store : PolicyStore
  calls : Nat → Option PolicyCall
  promoting : Nat → Option String

/-- One atomic operation; a rule is saved under a name of its own. -/
def execPolicy (t : Nat) : (o : PolicyOp) → PolicyInput → PolicyState →
    Option (Except PyError o.Ret × PolicyState)
  | .findPolicy version, _, s => some (.ok (s.store.policy? version), s)
  | .availablePrincipals .., i, s => some (.ok i.principals, s)
  | .relations _, i, s => some (.ok i.relations, s)
  | .profile .., i, s => some (.ok i.profile, s)
  | .archiveOthers key version, _, s => some (.ok (), { s with
      store := s.store.update (archiveOther key version) (archiveOther_version key version)
      promoting := Function.update s.promoting t (some version) })
  | .promote version principals relations, i, s =>
    let promoting := Function.update s.promoting t none
    if blocked s.store version then some (.error (.other "NotUniqueError"), { s with promoting := promoting })
    else some (.ok (), { s with
      store := s.store.update (promoteDraft version principals relations i.now)
        (promoteDraft_version version principals relations i.now)
      promoting := promoting })
  | .saveRule version draft subject owner, i, s =>
    if of : ∃ p ∈ s.store.policies, p.policyVersionId = version then
      match s.store.saveRule (draftedRule ("rule-" ++ i.name) version draft subject owner) of with
      | .ok store => some (.ok (), { s with store := store })
      | .error e => some (.error e, s)
    else none

/-- Any number of operators, each making one call. -/
def policyDesk : Machine policySignature where
  State := PolicyState
  Tid := Nat
  Input := PolicyInput
  exec := execPolicy
  start t i s := some (i.call.code, { s with calls := Function.update s.calls t (some i.call) })
  environment _ _ := none

instance : DecidableEq policyDesk.Tid := inferInstanceAs (DecidableEq Nat)

def startDesk (store : PolicyStore) : Config policyDesk :=
  Config.initial (M := policyDesk) ⟨store, fun _ => none, fun _ => none⟩

end ApiManger.Authorization
