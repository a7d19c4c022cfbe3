import ApiManger.Repair.Records
import ApiManger.Interleaving.RelyGuarantee

/-!
# Verifying and activating repair candidates

`verify_project_auth_profile`, `activate_auth_repair_candidate` and
`verify_and_activate_auth_repair_candidate` of `apiAnalysis/tool/project_auth.py` as
programs over atomic reads and writes. A document is saved from the copy in memory: the
fields that were assigned a different value are written, the others are not. What the
network answers is a matter of the step. Health records are left out.
-/

namespace ApiManger.Repair
open Python Interleaving

/-! ## The store -/

/-- `AuthVerificationAttempt.status`. -/
inductive AttemptStatus where
  | running | failed | succeeded
  deriving DecidableEq

/-- `AuthVerificationAttempt`; `call` is the call that made it, which the code does not store. -/
structure VerificationAttempt where
  attemptId : Nat
  call : Nat := 0
  profileId : String
  profileRevisionId : String
  repairCandidateId : String := ""
  status : AttemptStatus := .running
  requestCount : Int := 0
  errorCode : String := ""

/-- A move of the current revision of a profile; kept for the statements, not stored by the code. -/
structure Move where
  profileId : String
  candidateId : String
  fromRevision : String
  toRevision : String

structure RepairState where
  candidates : List RepairCandidate := []
  profiles : List AuthProfile := []
  chains : Chains := {}
  attempts : List VerificationAttempt := []
  nextAttempt : Nat := 0
  moves : List Move := []

/-- `candidate.save()`: the fields of the copy that differ from what was loaded. -/
def RepairCandidate.saveChanges (loaded changed stored : RepairCandidate) : RepairCandidate :=
  { stored with
    status := if changed.status ≠ loaded.status then changed.status else stored.status
    verificationAttemptId := if changed.verificationAttemptId ≠ loaded.verificationAttemptId then
      changed.verificationAttemptId else stored.verificationAttemptId
    failureCode := if changed.failureCode ≠ loaded.failureCode then changed.failureCode else stored.failureCode
    activationSummary := if changed.activationSummary ≠ loaded.activationSummary then changed.activationSummary
      else stored.activationSummary }

def AuthProfile.switchTo (chain : RevisionChain) (p : AuthProfile) : AuthProfile :=
  { p with
    currentRevisionId := chain.revision.profileRevisionId
    contextRef := chain.revision.profileRevisionId
    accountKey := chain.revision.projectAccountKey
    providerId := authRecipeProviderId
    authKind := chain.revision.authKind
    refreshStrategy := chain.revision.refreshStrategy
    lastErrorType := "" }

/-- The filter of the compare-and-set. -/
def AuthProfile.switchable (profileId previousRevisionId : String) (p : AuthProfile) : Bool :=
  p.profileId == profileId && p.currentRevisionId == previousRevisionId && p.active

/-! ## The operations -/

/-- What `resolve` makes of the login requests. -/
inductive Verdict where
  | authenticated (requestCount : Int)
  | recipeFailure (code : String) (requestCount : Int)
  | accountContextError (cls : String)
  | otherError (cls : String)

inductive RepairOp where
  /-- The candidate in one of the statuses. -/
  | findCandidate (candidateId : String) (statuses : List CandidateStatus)
  | reloadCandidate (candidateId : String)
  | saveCandidate (loaded changed : RepairCandidate)
  /-- The active profile. -/
  | findProfile (profileId : String)
  | reloadProfile (profileId : String)
  | findRevision (profileId revisionId : String)
  | findRealm (realmRevisionId : String)
  | findAdapter (adapterVersionId : String)
  | insertAttempt (attempt : VerificationAttempt)
  | authenticate
  | saveAttempt (attempt : VerificationAttempt)
  | findAttempt (attemptId : Nat) (candidate : RepairCandidate)
  | switchProfile (candidate : RepairCandidate) (profileId : String) (chain : RevisionChain)
  | activateAdapter (adapterVersionId : String)
  | activateRealm (realmRevisionId : String)

def RepairOp.Ret : RepairOp → Type
  | .findCandidate .. => Option RepairCandidate
  | .reloadCandidate _ => RepairCandidate
  | .findProfile _ => Option AuthProfile
  | .reloadProfile _ => Option AuthProfile
  | .findRevision .. => Option ProfileRevision
  | .findRealm _ => Option RealmRevision
  | .findAdapter _ => Option AdapterVersion
  | .insertAttempt _ => Nat
  | .authenticate => Verdict
  | .findAttempt .. => Option VerificationAttempt
  | .switchProfile .. => Bool
  | .saveCandidate .. | .saveAttempt _ | .activateAdapter _ | .activateRealm _ => Unit

def repairSignature : Signature where
  Op := RepairOp
  Ret := RepairOp.Ret
  Err := PyError

/-- One read or write. -/
def atomically (o : RepairOp) : Prog repairSignature o.Ret := Prog.perform (S := repairSignature) o

/-! ## The programs -/

def loadRevisionChain (profile : AuthProfile) (profileRevisionId : String) (allowDraft : Bool) :
    Prog repairSignature RevisionChain := do
  let revisionId := if profileRevisionId = "" then profile.currentRevisionId else profileRevisionId
  let revision ← atomically (.findRevision profile.profileId revisionId)
  match revision with
  | none => .raise (.accountContextError "AccountContextInvalid")
  | some revision => do
    let realm ← atomically (.findRealm revision.realmRevisionId)
    match realm with
    | none => .raise (.accountContextError "AccountContextInvalid")
    | some realm =>
      if !(acceptedLifecycles allowDraft).contains realm.lifecycle then
        .raise (.accountContextError "AccountContextInvalid")
      else do
        let adapter ← atomically (.findAdapter realm.adapterVersionId)
        match adapter with
        | none => .raise (.accountContextError "AccountContextInvalid")
        | some adapter =>
          if !(acceptedLifecycles allowDraft).contains adapter.lifecycle then
            .raise (.accountContextError "AccountContextInvalid")
          else return ⟨revision, realm, adapter⟩

/-- `_current_profile_chain` with the checks after it, for a provider that is no recipe. -/
def currentProfileChain (profile : AuthProfile) : Prog repairSignature RevisionChain := do
  let revision ← atomically (.findRevision profile.profileId profile.currentRevisionId)
  match revision with
  | none => .raise (.valueError "认证方案版本链不完整")
  | some revision => do
    let realm ← atomically (.findRealm revision.realmRevisionId)
    match realm with
    | none => .raise (.valueError "认证方案版本链不完整")
    | some realm => do
      let adapter ← atomically (.findAdapter realm.adapterVersionId)
      match adapter with
      | none => .raise (.valueError "认证方案版本链不完整")
      | some adapter =>
        if !(acceptedLifecycles false).contains realm.lifecycle then .raise (.valueError "认证 Realm 版本尚未激活")
        else if !(acceptedLifecycles false).contains adapter.lifecycle then
          .raise (.valueError "认证 Adapter 版本尚未激活")
        else return ⟨revision, realm, adapter⟩

def failAttempt (attempt : VerificationAttempt) (code : String) (requestCount : Int) :
    Prog repairSignature VerificationAttempt := do
  let attempt := { attempt with status := .failed, errorCode := code, requestCount := requestCount }
  atomically (.saveAttempt attempt)
  return attempt

/-- From the stored attempt on. -/
def runAttempt (attempt : VerificationAttempt) : Prog repairSignature VerificationAttempt := do
  let id ← atomically (.insertAttempt attempt)
  let attempt := { attempt with attemptId := id }
  let verdict ← atomically .authenticate
  match verdict with
  | .recipeFailure code requestCount => failAttempt attempt code requestCount
  | .accountContextError _ => failAttempt attempt "CONFIG_INVALID" attempt.requestCount
  | .otherError cls => .raise (.other cls)
  | .authenticated requestCount => do
    let attempt := { attempt with status := .succeeded, errorCode := "", requestCount := requestCount }
    atomically (.saveAttempt attempt)
    return attempt

/-- The chain to verify and the attempt on it. -/
def verifyRevision (profile : AuthProfile) (revisionId : String) (candidate : Option RepairCandidate) :
    Prog repairSignature VerificationAttempt := do
  let chain ← if profile.providerId = authRecipeProviderId then
      loadRevisionChain profile revisionId candidate.isSome
    else currentProfileChain profile
  runAttempt { attemptId := 0, profileId := profile.profileId
               profileRevisionId := chain.revision.profileRevisionId
               repairCandidateId := (candidate.map (·.candidateId)).getD "" }

def verifyProjectAuthProfile (profileId profileRevisionId repairCandidateId : String) :
    Prog repairSignature VerificationAttempt := do
  let profile ← atomically (.findProfile profileId)
  match profile with
  | none => .raise (.valueError "认证方案尚未迁移到可验证版本")
  | some profile =>
    if profile.currentRevisionId = "" then .raise (.valueError "认证方案尚未迁移到可验证版本") else
    let selected := if profileRevisionId = "" then profile.currentRevisionId else profileRevisionId
    if selected = profile.currentRevisionId then verifyRevision profile selected none
    else if profile.providerId ≠ authRecipeProviderId then
      .raise (.valueError "快捷 Provider 不支持候选 Revision 验证")
    else do
      let candidate ← atomically (.findCandidate repairCandidateId [.draft, .validating, .failed])
      match candidate with
      | none => .raise (.valueError "认证候选不存在、已过期或不属于当前方案")
      | some candidate =>
        if candidate.profileId ≠ profile.profileId ∨ candidate.candidateProfileRevisionId ≠ selected then
          .raise (.valueError "认证候选不存在、已过期或不属于当前方案")
        else if candidate.previousProfileRevisionId ≠ profile.currentRevisionId then do
          atomically (.saveCandidate candidate
            { candidate with status := .stale, failureCode := "PROFILE_REVISION_CHANGED" })
          .raise (.valueError "当前认证方案已变化，请基于新版本重新创建修复候选")
        else verifyRevision profile selected (some candidate)

/-- The end of an activation, once the profile is on the revision of the candidate. -/
def markActivated (candidate : RepairCandidate) (attempt : VerificationAttempt) (chain : RevisionChain) :
    Prog repairSignature Unit := do
  atomically (.activateAdapter chain.adapter.adapterVersionId)
  atomically (.activateRealm chain.realm.realmRevisionId)
  atomically (.saveCandidate candidate { candidate with
    status := .activated
    verificationAttemptId := toString attempt.attemptId
    failureCode := ""
    activationSummary := [("profile_revision_id", .str chain.revision.profileRevisionId),
      ("realm_revision_id", .str chain.realm.realmRevisionId),
      ("adapter_version_id", .str chain.adapter.adapterVersionId),
      ("verification_request_count", .int attempt.requestCount)] })

/-- From the candidate that was found on. -/
def activateCandidate (candidate : RepairCandidate) (verificationAttemptId : Nat) : Prog repairSignature Unit := do
  let attempt ← atomically (.findAttempt verificationAttemptId candidate)
  match attempt with
  | none => .raise (.valueError "authentication repair candidate has not passed verification")
  | some attempt => do
    let profile ← atomically (.findProfile candidate.profileId)
    match profile with
    | none => .raise (.valueError "authentication profile is unavailable")
    | some profile =>
      if profile.projectId ≠ candidate.projectId ∨ profile.envId ≠ candidate.envId then
        .raise (.valueError "authentication profile is unavailable")
      else do
        let chain ← loadRevisionChain profile candidate.candidateProfileRevisionId true
        let switched : Bool ← atomically (.switchProfile candidate profile.profileId chain)
        if switched = true then markActivated candidate attempt chain
        else do
          let current ← atomically (.reloadProfile profile.profileId)
          match current with
          | none => .raise (.other "DoesNotExist")
          | some current =>
            if current.currentRevisionId ≠ chain.revision.profileRevisionId then do
              atomically (.saveCandidate candidate
                { candidate with status := .stale, failureCode := "PROFILE_REVISION_CHANGED" })
              .raise (.valueError "authentication profile changed while the candidate was verifying")
            else markActivated candidate attempt chain

def activateAuthRepairCandidate (candidateId : String) (verificationAttemptId : Nat) :
    Prog repairSignature Unit := do
  let candidate ← atomically (.findCandidate candidateId [.validating, .failed])
  match candidate with
  | some candidate => activateCandidate candidate verificationAttemptId
  | none => do
    let candidate ← atomically (.findCandidate candidateId [.activated])
    match candidate with
    | none => .raise (.valueError "authentication repair candidate is unavailable")
    | some candidate => do
      let profile ← atomically (.reloadProfile candidate.profileId)
      match profile with
      | none => .raise (.valueError "authentication repair candidate is unavailable")
      | some profile =>
        if profile.currentRevisionId = candidate.candidateProfileRevisionId then return ()
        else .raise (.valueError "authentication repair candidate is unavailable")

def verifyAndActivateAuthRepairCandidate (candidateId : String) : Prog repairSignature Unit := do
  let candidate ← atomically (.findCandidate candidateId [.draft, .failed, .validating])
  match candidate with
  | none => .raise (.valueError "authentication repair candidate is unavailable")
  | some candidate => do
    atomically (.saveCandidate candidate { candidate with status := .validating, failureCode := "" })
    let attempt ← verifyProjectAuthProfile candidate.profileId candidate.candidateProfileRevisionId candidate.candidateId
    let candidate ← atomically (.reloadCandidate candidate.candidateId)
    let verified := { candidate with verificationAttemptId := toString attempt.attemptId }
    if attempt.status ≠ .succeeded then
      atomically (.saveCandidate candidate { verified with
        status := .failed
        failureCode := if attempt.errorCode = "" then "ADAPTER_RUNTIME_ERROR" else attempt.errorCode })
    else do
      atomically (.saveCandidate candidate verified)
      activateAuthRepairCandidate candidate.candidateId attempt.attemptId
      let _ ← atomically (.reloadCandidate candidate.candidateId)
      return ()

/-! ## The machine -/

/-- A call of one of the two functions. -/
inductive RepairCall where
  | verifyAndActivate (candidateId : String)
  | activate (candidateId : String) (verificationAttemptId : Nat)

def RepairCall.code : RepairCall → Prog repairSignature Unit
  | .verifyAndActivate candidateId => verifyAndActivateAuthRepairCandidate candidateId
  | .activate candidateId attemptId => activateAuthRepairCandidate candidateId attemptId

/-- What a step is given: the call it starts, or what the network answers. -/
structure RepairInput where
  call : RepairCall := .verifyAndActivate ""
  verdict : Verdict := .authenticated 0

/-- One operation of the call `t`. -/
def execRepair (t : Nat) (o : RepairOp) (i : RepairInput) (s : RepairState) : Except PyError o.Ret × RepairState :=
  match o with
  | .findCandidate candidateId statuses =>
    (.ok (s.candidates.find? fun c => c.candidateId == candidateId && statuses.contains c.status), s)
  | .reloadCandidate candidateId =>
    match s.candidates.find? (·.candidateId == candidateId) with
    | some candidate => (.ok candidate, s)
    | none => (.error (.other "DoesNotExist"), s)
  | .saveCandidate loaded changed => (.ok (), { s with
      candidates := s.candidates.map fun c =>
        if c.candidateId == loaded.candidateId then loaded.saveChanges changed c else c })
  | .findProfile profileId => (.ok (s.profiles.find? fun p => p.profileId == profileId && p.active), s)
  | .reloadProfile profileId => (.ok (s.profiles.find? (·.profileId == profileId)), s)
  | .findRevision profileId revisionId =>
    (.ok (s.chains.revisions.find? fun r => r.profileRevisionId == revisionId && r.profileId == profileId), s)
  | .findRealm realmRevisionId => (.ok (s.chains.realms.find? (·.realmRevisionId == realmRevisionId)), s)
  | .findAdapter adapterVersionId => (.ok (s.chains.adapters.find? (·.adapterVersionId == adapterVersionId)), s)
  | .insertAttempt attempt => (.ok s.nextAttempt, { s with
      attempts := s.attempts ++ [{ attempt with attemptId := s.nextAttempt, call := t }]
      nextAttempt := s.nextAttempt + 1 })
  | .authenticate => (.ok i.verdict, s)
  | .saveAttempt attempt => (.ok (), { s with
      attempts := s.attempts.map fun a =>
        if a.attemptId == attempt.attemptId then
          { a with status := attempt.status, errorCode := attempt.errorCode, requestCount := attempt.requestCount }
        else a })
  | .findAttempt attemptId candidate =>
    (.ok (s.attempts.find? fun a => a.attemptId == attemptId && a.repairCandidateId == candidate.candidateId &&
      a.profileRevisionId == candidate.candidateProfileRevisionId && a.status == .succeeded), s)
  | .switchProfile candidate profileId chain =>
    if s.profiles.any (AuthProfile.switchable profileId candidate.previousProfileRevisionId) then
      (.ok true, { s with
        profiles := s.profiles.map fun p =>
          if p.switchable profileId candidate.previousProfileRevisionId then p.switchTo chain else p
        moves := s.moves ++ [⟨profileId, candidate.candidateId, candidate.previousProfileRevisionId,
          chain.revision.profileRevisionId⟩] })
    else (.ok false, s)
  | .activateAdapter adapterVersionId => (.ok (), { s with chains := { s.chains with
      adapters := s.chains.adapters.map fun a =>
        if a.adapterVersionId == adapterVersionId then { a with lifecycle := .active } else a } })
  | .activateRealm realmRevisionId => (.ok (), { s with chains := { s.chains with
      realms := s.chains.realms.map fun r =>
        if r.realmRevisionId == realmRevisionId then { r with lifecycle := .active } else r } })

/-- Any number of concurrent calls. -/
def repairDesk : Machine repairSignature where
  State := RepairState
  Tid := Nat
  Input := RepairInput
  exec t o i s := some (execRepair t o i s)
  start _ i s := some (i.call.code, s)
  environment _ _ := none

instance : DecidableEq repairDesk.Tid := inferInstanceAs (DecidableEq Nat)

end ApiManger.Repair
