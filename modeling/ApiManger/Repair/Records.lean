import ApiManger.Store.Documents

/-!
# Authentication repair: the documents

`AuthRepairCandidate`, `ProjectAuthProfile` and the chain from a profile revision to its
realm and its adapter, with the fields that `apiAnalysis/tool/project_auth.py` reads and
writes while a candidate is verified, activated and bound to a paused run.
-/

namespace ApiManger.Repair
open Python Store

/-- `AuthRepairCandidate.status`. -/
inductive CandidateStatus where
  | draft | validating | failed | activated | stale
  deriving DecidableEq

/-- `AuthRepairCandidate`. -/
structure RepairCandidate where
  candidateId : String
  profileId : String
  projectId : String := ""
  envId : String := ""
  previousProfileRevisionId : String
  candidateProfileRevisionId : String
  status : CandidateStatus := .draft
  verificationAttemptId : String := ""
  failureCode : String := ""
  resumeRunId : Option ObjectId := none
  rebindStatus : String := ""
  activationSummary : Dict := []

/-- The `lifecycle` of a realm revision or an adapter version; `other` is any further text. -/
inductive Lifecycle where
  | draft | validated | active | other
  deriving DecidableEq

/-- `ProjectAuthProfileRevision`. -/
structure ProfileRevision where
  profileRevisionId : String
  profileId : String
  realmRevisionId : String
  projectAccountKey : String := ""
  authKind : String := "mixed"
  refreshStrategy : String := "login"

/-- `AuthRealmRevision`. -/
structure RealmRevision where
  realmRevisionId : String
  realmId : String := ""
  adapterVersionId : String
  lifecycle : Lifecycle := .draft

/-- `AuthAdapterVersion`. -/
structure AdapterVersion where
  adapterVersionId : String
  adapterId : String := ""
  lifecycle : Lifecycle := .draft

/-- `ProjectAuthProfile`. -/
structure AuthProfile where
  profileId : String
  projectId : String := ""
  envId : String := ""
  providerId : String := "auth_recipe"
  currentRevisionId : String := ""
  contextRef : String := ""
  accountKey : String := ""
  authKind : String := "mixed"
  refreshStrategy : String := "login"
  lastErrorType : String := ""
  active : Bool := true

def authRecipeProviderId : String := "auth_recipe"

/-- The three collections a revision chain is loaded from. -/
structure Chains where
  revisions : List ProfileRevision := []
  realms : List RealmRevision := []
  adapters : List AdapterVersion := []

/-- A revision with its realm and its adapter. -/
structure RevisionChain where
  revision : ProfileRevision
  realm : RealmRevision
  adapter : AdapterVersion

/-- The lifecycles a chain may be in. -/
def acceptedLifecycles (allowDraft : Bool) : List Lifecycle :=
  if allowDraft then [.draft, .validated, .active] else [.validated, .active]

def Chains.loadRevisionChain (c : Chains) (profile : AuthProfile) (profileRevisionId : String) (allowDraft : Bool) :
    Except PyError RevisionChain :=
  let revisionId := if profileRevisionId = "" then profile.currentRevisionId else profileRevisionId
  match c.revisions.find? fun r => r.profileRevisionId == revisionId && r.profileId == profile.profileId with
  | none => .error (.accountContextError "AccountContextInvalid")
  | some revision =>
    match c.realms.find? (·.realmRevisionId == revision.realmRevisionId) with
    | none => .error (.accountContextError "AccountContextInvalid")
    | some realm =>
      if !(acceptedLifecycles allowDraft).contains realm.lifecycle then
        .error (.accountContextError "AccountContextInvalid")
      else
        match c.adapters.find? (·.adapterVersionId == realm.adapterVersionId) with
        | none => .error (.accountContextError "AccountContextInvalid")
        | some adapter =>
          if !(acceptedLifecycles allowDraft).contains adapter.lifecycle then
            .error (.accountContextError "AccountContextInvalid")
          else .ok ⟨revision, realm, adapter⟩

end ApiManger.Repair
