import ApiManger.Repair.Verification
import ApiManger.Collection.Keyed

/-!
# One activated candidate for a base revision

What concurrent verifications and activations keep when a candidate that is activated is
not saved as anything else, the current revision never returns to one it has had, and a
call whose own compare-and-set failed activates its candidate only where that candidate
moved the profile. The moves of a profile then start at revisions all different, so of
the candidates with one base revision at most one moves it.
-/

namespace ApiManger.Repair
open Python Collection Interleaving

/-- The revisions a profile has had, its current one last. -/
def RepairState.trail (s : RepairState) (p : AuthProfile) : List String :=
  ((s.moves.filter (·.profileId == p.profileId)).map (·.fromRevision)) ++ [p.currentRevisionId]

/-- The same candidate, whatever became of it. -/
structure SameCandidate (c c' : RepairCandidate) : Prop where
  candidateId : c'.candidateId = c.candidateId
  profileId : c'.profileId = c.profileId
  previous : c'.previousProfileRevisionId = c.previousProfileRevisionId
  revision : c'.candidateProfileRevisionId = c.candidateProfileRevisionId

theorem SameCandidate.refl (c : RepairCandidate) : SameCandidate c c := ⟨rfl, rfl, rfl, rfl⟩

theorem SameCandidate.trans {a b c : RepairCandidate} (h : SameCandidate a b) (h' : SameCandidate b c) :
    SameCandidate a c :=
  ⟨h'.1.trans h.1, h'.2.trans h.2, h'.3.trans h.3, h'.4.trans h.4⟩

/-- What every state keeps. -/
structure Repairs (s : RepairState) : Prop where
  candidates : Distinct (·.candidateId) s.candidates
  profiles : Distinct (·.profileId) s.profiles
  named : ∀ c ∈ s.candidates, c.candidateProfileRevisionId ≠ ""
  attempts : Distinct (·.attemptId) s.attempts
  below : Below (·.attemptId) s.nextAttempt s.attempts
  trail : ∀ p ∈ s.profiles, (s.trail p).Nodup
  justified : ∀ m ∈ s.moves, ∃ c ∈ s.candidates, c.candidateId = m.candidateId ∧ c.profileId = m.profileId ∧
    c.previousProfileRevisionId = m.fromRevision ∧ c.candidateProfileRevisionId = m.toRevision
  located : ∀ m ∈ s.moves, ∃ p ∈ s.profiles, p.profileId = m.profileId
  activated : ∀ c ∈ s.candidates, c.status = .activated → ∃ m ∈ s.moves, m.candidateId = c.candidateId

/-- A verification of the candidate succeeded. -/
def Passed (c : RepairCandidate) (s : RepairState) : Prop :=
  ∃ a ∈ s.attempts, a.repairCandidateId = c.candidateId ∧ a.status = .succeeded

/-- Where the current revision of a profile changes, it goes from the base of a candidate to its
revision, and a verification of that candidate succeeded. -/
def MovesJustified (s s' : RepairState) : Prop :=
  ∀ p ∈ s.profiles, ∀ p' ∈ s'.profiles, p'.profileId = p.profileId → p'.currentRevisionId ≠ p.currentRevisionId →
    ∃ c ∈ s.candidates, c.profileId = p.profileId ∧ c.previousProfileRevisionId = p.currentRevisionId ∧
      c.candidateProfileRevisionId = p'.currentRevisionId ∧ Passed c s

/-- What a step of the call `u` does to the others. -/
structure RepairStep (u : Option Nat) (s s' : RepairState) : Prop where
  moves : MovesJustified s s'
  candidates : ∀ c ∈ s.candidates, ∃ c' ∈ s'.candidates, SameCandidate c c' ∧
    (c.status = .activated → c'.status = .activated)
  attempts : ∀ a ∈ s.attempts, (u ≠ some a.call ∨ a.status = .succeeded) → a ∈ s'.attempts

/-! ## The operations -/

/-- The steps that keep one candidate for a base revision. -/
def orderlyRepairs : Guard repairDesk where
  start _ _ _ := true
  op _ o _ s := match o with
    | RepairOp.saveCandidate loaded changed =>
      changed.status == loaded.status ||
        if changed.status == .activated then s.moves.any (·.candidateId == loaded.candidateId)
        else s.candidates.all fun c => c.candidateId != loaded.candidateId || c.status != .activated
    | RepairOp.switchProfile candidate profileId chain =>
      s.profiles.all fun p => !p.switchable profileId candidate.previousProfileRevisionId ||
        !(s.trail p).contains chain.revision.profileRevisionId
    | _ => true

section
variable {s : RepairState} {t : Nat}

theorem RepairStep.refl (u : Option Nat) (repairs : Repairs s) : RepairStep u s s := by
  refine ⟨fun p mem p' mem' same moved => ?_, fun c mem => ⟨c, mem, .refl c, id⟩, fun a mem _ => mem⟩
  rw [repairs.profiles.eq_of_key mem' mem same] at moved
  exact absurd rfl moved

theorem saveChanges_same (loaded changed c : RepairCandidate) : SameCandidate c (loaded.saveChanges changed c) :=
  ⟨rfl, rfl, rfl, rfl⟩

theorem Repairs.save (repairs : Repairs s) (u : Option Nat) {loaded changed : RepairCandidate}
    (allowed : changed.status ≠ loaded.status → if changed.status = .activated then
        ∃ m ∈ s.moves, m.candidateId = loaded.candidateId
      else ∀ c ∈ s.candidates, c.candidateId = loaded.candidateId → c.status ≠ .activated) :
    let s' := { s with candidates := s.candidates.map fun c =>
      if c.candidateId == loaded.candidateId then loaded.saveChanges changed c else c }
    Repairs s' ∧ RepairStep u s s' := by
  intro s'
  have same (c : RepairCandidate) :
      SameCandidate c (if c.candidateId == loaded.candidateId then loaded.saveChanges changed c else c) := by
    split
    · exact saveChanges_same loaded changed c
    · exact .refl c
  refine ⟨⟨?_, repairs.profiles, ?_, repairs.attempts, repairs.below, repairs.trail, ?_, repairs.located, ?_⟩, ?_, ?_, fun a mem _ => mem⟩
  · exact repairs.candidates.map fun c => (same c).candidateId
  · intro c' mem
    obtain ⟨c, here, rfl⟩ := List.mem_map.mp mem
    rw [(same c).revision]
    exact repairs.named c here
  · intro m mem
    obtain ⟨c, here, id_, profile, previous, revision⟩ := repairs.justified m mem
    exact ⟨_, List.mem_map_of_mem here, (same c).candidateId.trans id_, (same c).profileId.trans profile,
      (same c).previous.trans previous, (same c).revision.trans revision⟩
  · intro c' mem active
    obtain ⟨c, here, rfl⟩ := List.mem_map.mp mem
    rw [(same c).candidateId]
    split at active
    · next own =>
      by_cases written : changed.status ≠ loaded.status
      · have allowed := allowed written
        simp only [RepairCandidate.saveChanges, if_pos written] at active
        rw [if_pos active] at allowed
        obtain ⟨m, moved, is⟩ := allowed
        exact ⟨m, moved, is.trans (beq_iff_eq.mp own).symm⟩
      · simp only [RepairCandidate.saveChanges, if_neg written] at active
        exact repairs.activated c here active
    · exact repairs.activated c here active
  · exact (RepairStep.refl u repairs).moves
  · intro c mem
    refine ⟨_, List.mem_map_of_mem mem, same c, fun active => ?_⟩
    split
    · next own =>
      by_cases written : changed.status ≠ loaded.status
      · have allowed := allowed written
        simp only [RepairCandidate.saveChanges, if_pos written]
        split at allowed
        · next is => exact is
        · exact absurd active (allowed c mem (beq_iff_eq.mp own))
      · simp only [RepairCandidate.saveChanges, if_neg written]
        exact active
    · exact active

/-- The fields that an activation of a chain changes are read by nobody here. -/
theorem Repairs.chains (repairs : Repairs s) (chains : Chains) : Repairs { s with chains := chains } :=
  ⟨repairs.candidates, repairs.profiles, repairs.named, repairs.attempts, repairs.below, repairs.trail,
    repairs.justified, repairs.located, repairs.activated⟩

theorem RepairStep.chains (u : Option Nat) (repairs : Repairs s) (chains : Chains) :
    RepairStep u s { s with chains := chains } :=
  have kept := RepairStep.refl u repairs
  ⟨kept.moves, kept.candidates, kept.attempts⟩

theorem Repairs.insertAttempt (repairs : Repairs s) (attempt : VerificationAttempt) (new : attempt.attemptId = s.nextAttempt)
    (u : Option Nat) :
    let s' := { s with attempts := s.attempts ++ [attempt], nextAttempt := s.nextAttempt + 1 }
    Repairs s' ∧ RepairStep u s s' := by
  intro s'
  have kept := RepairStep.refl u repairs
  refine ⟨⟨repairs.candidates, repairs.profiles, repairs.named, ?_, repairs.below.append new, repairs.trail,
    repairs.justified, repairs.located, repairs.activated⟩, kept.moves, kept.candidates,
    fun a mem _ => List.mem_append_left _ mem⟩
  exact repairs.below.distinct_append repairs.attempts new

/-- A call ends its own attempt, which is still running. -/
theorem Repairs.saveAttempt (repairs : Repairs s) {a attempt : VerificationAttempt} (mem : a ∈ s.attempts)
    (own : a.attemptId = attempt.attemptId) (call : a.call = t) (running : a.status = .running) :
    let s' := { s with attempts := s.attempts.map fun b =>
      if b.attemptId == attempt.attemptId then
        { b with status := attempt.status, errorCode := attempt.errorCode, requestCount := attempt.requestCount }
      else b }
    Repairs s' ∧ RepairStep (some t) s s' := by
  intro s'
  have kept := RepairStep.refl (some t) repairs
  refine ⟨⟨repairs.candidates, repairs.profiles, repairs.named, ?_, ?_, repairs.trail, repairs.justified,
    repairs.located, repairs.activated⟩, kept.moves, kept.candidates, fun b memB other => List.mem_map.mpr ⟨b, memB, ?_⟩⟩
  · refine repairs.attempts.map fun b => ?_
    split <;> rfl
  · refine repairs.below.map fun b => ?_
    split <;> rfl
  · refine if_neg fun same => ?_
    obtain rfl := repairs.attempts.eq_of_key memB mem ((beq_iff_eq.mp same).trans own.symm)
    rcases other with elsewhere | done
    · exact elsewhere (congrArg some call.symm)
    · rw [running] at done
      cases done

/-- A move of the profile for a candidate that passed. -/
theorem Repairs.switch (repairs : Repairs s) (u : Option Nat) {candidate c : RepairCandidate} {profileId : String}
    {chain : RevisionChain} (mem : c ∈ s.candidates) (same : SameCandidate candidate c)
    (profile : c.profileId = profileId) (revision : chain.revision.profileRevisionId = c.candidateProfileRevisionId)
    (passed : Passed c s)
    (new : ∀ p ∈ s.profiles, p.switchable profileId candidate.previousProfileRevisionId = true →
      chain.revision.profileRevisionId ∉ s.trail p)
    (here : ∃ p ∈ s.profiles, p.switchable profileId candidate.previousProfileRevisionId = true) :
    let s' := { s with
      profiles := s.profiles.map fun p =>
        if p.switchable profileId candidate.previousProfileRevisionId then p.switchTo chain else p
      moves := s.moves ++ [⟨profileId, candidate.candidateId, candidate.previousProfileRevisionId,
        chain.revision.profileRevisionId⟩] }
    Repairs s' ∧ RepairStep u s s' := by
  intro s'
  have key (p : AuthProfile) :
      (if p.switchable profileId candidate.previousProfileRevisionId then p.switchTo chain else p).profileId = p.profileId := by
    split <;> rfl
  refine ⟨⟨repairs.candidates, repairs.profiles.map key, repairs.named, repairs.attempts, repairs.below, ?_, ?_, ?_, ?_⟩,
    fun p memP p' memP' sameP moved => ?_, fun d memD => ⟨d, memD, .refl d, id⟩, fun a memA _ => memA⟩
  · intro p' memP'
    obtain ⟨p, memP, rfl⟩ := List.mem_map.mp memP'
    have before := repairs.trail p memP
    unfold RepairState.trail at before ⊢
    rw [key, List.filter_append, List.map_append]
    split
    · next switchable =>
      have fresh := new p memP switchable
      simp only [AuthProfile.switchable, Bool.and_eq_true, beq_iff_eq] at switchable
      obtain ⟨⟨own, base⟩, _⟩ := switchable
      have grown : ((s.moves.filter (·.profileId == p.profileId)).map (·.fromRevision) ++ [p.currentRevisionId] ++
          [chain.revision.profileRevisionId]).Nodup := by
        refine List.nodup_append.mpr ⟨before, List.nodup_singleton _, fun r memR r' memR' is => ?_⟩
        rw [List.mem_singleton.mp memR'] at is
        exact fresh (is ▸ memR)
      simpa [own, base, AuthProfile.switchTo] using grown
    · next still =>
      by_cases own : p.profileId = profileId
      · -- the profile that moves is another one of this id
        obtain ⟨q, memQ, switchable⟩ := here
        have sameQ : q = p := by
          simp only [AuthProfile.switchable, Bool.and_eq_true, beq_iff_eq] at switchable
          exact repairs.profiles.eq_of_key memQ memP (switchable.1.1.trans own.symm)
        rw [sameQ] at switchable
        exact absurd switchable still
      · simpa [Ne.symm own] using before
  · intro m memM
    rcases List.mem_append.mp memM with early | late
    · exact repairs.justified m early
    · rw [List.mem_singleton.mp late]
      exact ⟨c, mem, same.candidateId, profile, same.previous, revision.symm⟩
  · intro m memM
    rcases List.mem_append.mp memM with early | late
    · obtain ⟨p, memP, is⟩ := repairs.located m early
      exact ⟨_, List.mem_map_of_mem memP, (key p).trans is⟩
    · obtain ⟨p, memP, switchable⟩ := here
      simp only [AuthProfile.switchable, Bool.and_eq_true, beq_iff_eq] at switchable
      rw [List.mem_singleton.mp late]
      exact ⟨_, List.mem_map_of_mem memP, (key p).trans switchable.1.1⟩
  · intro d memD active
    obtain ⟨m, moved, is⟩ := repairs.activated d memD active
    exact ⟨m, List.mem_append_left _ moved, is⟩
  · obtain ⟨q, memQ, rfl⟩ := List.mem_map.mp memP'
    rw [key] at sameP
    obtain rfl := repairs.profiles.eq_of_key memQ memP sameP
    split at moved
    · next switchable =>
      simp only [if_pos switchable]
      simp only [AuthProfile.switchable, Bool.and_eq_true, beq_iff_eq] at switchable
      obtain ⟨⟨own, base⟩, _⟩ := switchable
      exact ⟨c, mem, profile.trans own.symm, same.previous.trans base.symm, revision.symm, passed⟩
    · exact absurd rfl moved

end

/-! ## The contract of a call -/

def repairs : Contract repairDesk where
  guard := orderlyRepairs
  known _ := True
  inv := Repairs
  guar := RepairStep

def Stored (candidate : RepairCandidate) (s : RepairState) : Prop :=
  ∃ c ∈ s.candidates, SameCandidate candidate c

/-- The call `t` is verifying under this attempt. -/
def Verifying (t id : Nat) (s : RepairState) : Prop :=
  ∃ a ∈ s.attempts, a.attemptId = id ∧ a.call = t ∧ a.status = .running

variable (t : Nat)

theorem stored_stable (candidate : RepairCandidate) : repairs.Stable t (Stored candidate) := by
  intro u _ s s' _ _ _ _ guar ⟨c, mem, same⟩
  obtain ⟨c', mem', same', _⟩ := guar.candidates c mem
  exact ⟨c', mem', same.trans same'⟩

theorem passed_stable (candidate : RepairCandidate) : repairs.Stable t (Passed candidate) := by
  intro u _ s s' _ _ _ _ guar ⟨a, mem, own, succeeded⟩
  exact ⟨a, guar.attempts a mem (.inr succeeded), own, succeeded⟩

theorem verifying_stable (id : Nat) : repairs.Stable t (Verifying t id) := by
  intro u other s s' _ _ _ _ guar ⟨a, mem, own, call, running⟩
  exact ⟨a, guar.attempts a mem (.inl (by rw [call]; exact other)), own, call, running⟩

theorem true_stable : repairs.Stable t fun _ => True := fun _ _ _ _ _ _ _ _ _ _ => trivial

/-- The operations that keep every assertion. -/
def RepairOp.isRead : RepairOp → Bool
  | .saveCandidate .. | .insertAttempt _ | .saveAttempt _ | .switchProfile .. | .activateAdapter _
  | .activateRealm _ => false
  | _ => true

variable {o : RepairOp} {φ : RepairState → Prop} {s : RepairState}

theorem execRepair_read (read : o.isRead = true) (i : RepairInput) (s : RepairState) :
    (execRepair t o i s).2 = s := by
  cases o with
  | saveCandidate | insertAttempt | saveAttempt | switchProfile | activateAdapter | activateRealm => cases read
  | reloadCandidate =>
    unfold execRepair
    dsimp only
    split <;> rfl
  | _ => rfl

/-- The operations that keep the invariant whatever is known. -/
def RepairOp.isPlain : RepairOp → Bool
  | .saveAttempt _ | .switchProfile .. => false
  | _ => true

theorem plain_keeps (plain : o.isPlain = true) : repairs.Keeps t (fun _ => True) o fun _ _ => True := by
  intro s i r s' _ inv _ admitted exec _
  obtain ⟨_, rfl⟩ := Prod.mk.inj (Option.some.inj exec)
  suffices kept : Repairs (execRepair t o i s).2 ∧ RepairStep (some t) s (execRepair t o i s).2 from
    ⟨kept.1, kept.2, trivial⟩
  cases o with
  | saveAttempt | switchProfile => cases plain
  | saveCandidate loaded changed =>
    refine inv.save (some t) fun written => ?_
    simp only [repairs, orderlyRepairs, Bool.or_eq_true, beq_iff_eq, written, false_or] at admitted
    split at admitted
    · next activated =>
      rw [if_pos activated]
      simpa using admitted
    · next other =>
      rw [if_neg other]
      intro c mem own active
      have spared := List.all_eq_true.mp admitted c mem
      simp [own, active] at spared
  | insertAttempt attempt => exact inv.insertAttempt _ rfl _
  | activateAdapter | activateRealm => exact ⟨inv.chains _, .chains _ inv _⟩
  | findCandidate | reloadCandidate | findProfile | reloadProfile | findRevision | findRealm | findAdapter
    | authenticate | findAttempt =>
    rw [execRepair_read t rfl i s]
    exact ⟨inv, .refl _ inv⟩

/-! ## The programs -/

/-- A read answers from the state, which it leaves as it is. -/
theorem read_safe (read : o.isRead = true) {Q : o.Ret → RepairState → Prop}
    (stable : ∀ r, repairs.Stable t (Q r))
    (answers : ∀ i s r, Repairs s → φ s → (execRepair t o i s).1 = .ok r → Q r s) :
    repairs.Safe t φ (atomically o) Q fun _ _ => True := by
  refine Contract.Safe.perform stable (fun _ => true_stable t) ?_
  intro s i r s' known inv now admitted exec known'
  have same : s' = s := (congrArg Prod.snd (Option.some.inj exec)).symm.trans (execRepair_read t read i s)
  have answer : (execRepair t o i s).1 = r := congrArg Prod.fst (Option.some.inj exec)
  rw [same]
  refine ⟨inv, .refl _ inv, ?_⟩
  cases r with
  | ok r => exact answers i s r inv now answer
  | error e => trivial

/-- A read of which only an assertion that holds before is used. -/
theorem read_frame (read : o.isRead = true) (stable : repairs.Stable t φ) :
    repairs.Safe t φ (atomically o) (fun _ => φ) fun _ _ => True :=
  read_safe t read (fun _ => stable) fun _ _ _ _ now _ => now

theorem plain_safe {p : Prog repairSignature Unit} (uses : p.Uses fun o => RepairOp.isPlain o = true) :
    repairs.Safe t (fun _ => True) p (fun _ _ => True) fun _ _ => True :=
  Contract.Safe.of_uses uses (true_stable t) fun _ plain => plain_keeps t plain

theorem findCandidate_safe (candidateId : String) (statuses : List CandidateStatus) :
    repairs.Safe t (fun _ => True) (atomically (.findCandidate candidateId statuses))
      (fun found s => ∀ c, found = some c → Stored c s) fun _ _ => True := by
  refine read_safe t rfl (fun found => Contract.Stable.all fun c => (stored_stable t c).imp) ?_
  intro i s r _ _ answer c is
  obtain rfl := Except.ok.inj answer
  exact ⟨c, List.mem_of_find?_eq_some is, .refl c⟩

/-- The chain that is loaded is the one of the revision asked for. -/
theorem loadRevisionChain_safe (stable : repairs.Stable t φ) (profile : AuthProfile)
    (id : String) (allowDraft : Bool) :
    repairs.Safe t φ (loadRevisionChain profile id allowDraft)
      (fun chain s => (id ≠ "" → chain.revision.profileRevisionId = id) ∧ φ s) fun _ _ => True := by
  refine Contract.Safe.bind (Q := fun found s => (∀ r, found = some r → id ≠ "" → r.profileRevisionId = id) ∧ φ s)
    (read_safe t rfl (fun _ => Contract.Stable.const.and stable) ?_) fun found => ?_
  · intro i s r _ now answer
    obtain rfl := Except.ok.inj answer
    refine ⟨fun revision is named => ?_, now⟩
    have here := List.find?_some is
    simp only [if_neg named, Bool.and_eq_true, beq_iff_eq] at here
    exact here.1
  · cases found with
    | none => exact Contract.Safe.raise fun _ _ _ _ => trivial
    | some revision =>
      refine Contract.Safe.bind (read_frame t rfl (Contract.Stable.const.and stable)) fun realm => ?_
      cases realm with
      | none => exact Contract.Safe.raise fun _ _ _ _ => trivial
      | some realm =>
        refine Contract.Safe.ite (fun _ => Contract.Safe.raise fun _ _ _ _ => trivial) fun _ => ?_
        refine Contract.Safe.bind (read_frame t rfl (Contract.Stable.const.and stable)) fun adapter => ?_
        cases adapter with
        | none => exact Contract.Safe.raise fun _ _ _ _ => trivial
        | some adapter =>
          refine Contract.Safe.ite (fun _ => Contract.Safe.raise fun _ _ _ _ => trivial) fun _ => ?_
          exact Contract.Safe.ret fun s _ _ now => ⟨now.1 revision rfl, now.2⟩

theorem markActivated_uses (candidate : RepairCandidate) (attempt : VerificationAttempt) (chain : RevisionChain) :
    (markActivated candidate attempt chain).Uses fun o => RepairOp.isPlain o = true := by
  refine Prog.Uses.bind (Prog.Uses.perform rfl) fun _ => ?_
  exact Prog.Uses.bind (Prog.Uses.perform rfl) fun _ => Prog.Uses.perform rfl

/-- What a call knows before its compare-and-set. -/
def Ready (candidate : RepairCandidate) (profileId : String) (s : RepairState) : Prop :=
  profileId = candidate.profileId ∧ Stored candidate s ∧ Passed candidate s

theorem ready_stable (candidate : RepairCandidate) (profileId : String) : repairs.Stable t (Ready candidate profileId) :=
  Contract.Stable.const.and ((stored_stable t candidate).and (passed_stable t candidate))

/-- **The compare-and-set** moves the profile for a candidate that passed. -/
theorem switchProfile_safe (candidate : RepairCandidate) (profileId : String) (chain : RevisionChain) :
    repairs.Safe t (fun s => (candidate.candidateProfileRevisionId ≠ "" →
        chain.revision.profileRevisionId = candidate.candidateProfileRevisionId) ∧ Ready candidate profileId s)
      (atomically (.switchProfile candidate profileId chain)) (fun _ _ => True) fun _ _ => True := by
  refine Contract.Safe.perform (fun _ => true_stable t) (fun _ => true_stable t) ?_
  rintro s i r s' _ inv ⟨named, rfl, ⟨c, mem, same⟩, a, memA, own, succeeded⟩ admitted exec _
  obtain ⟨_, rfl⟩ := Prod.mk.inj (Option.some.inj exec)
  suffices kept : Repairs (execRepair t (.switchProfile candidate candidate.profileId chain) i s).2 ∧
      RepairStep (some t) s (execRepair t (.switchProfile candidate candidate.profileId chain) i s).2 from
    ⟨kept.1, kept.2, by cases r <;> trivial⟩
  have revision : chain.revision.profileRevisionId = c.candidateProfileRevisionId := by
    rw [named (same.revision ▸ inv.named c mem), same.revision]
  have new : ∀ p ∈ s.profiles, p.switchable candidate.profileId candidate.previousProfileRevisionId = true →
      chain.revision.profileRevisionId ∉ s.trail p := by
    intro p memP switchable
    have admitted := List.all_eq_true.mp admitted p memP
    simpa [switchable] using admitted
  unfold execRepair
  dsimp only
  split
  · next matched =>
    exact inv.switch (some t) mem same same.profileId revision ⟨a, memA, own.trans same.candidateId.symm, succeeded⟩
      new (List.any_eq_true.mp matched)
  · exact ⟨inv, .refl _ inv⟩

theorem activateCandidate_safe (candidate : RepairCandidate) (attemptId : Nat) :
    repairs.Safe t (Stored candidate) (activateCandidate candidate attemptId) (fun _ _ => True) fun _ _ => True := by
  refine Contract.Safe.bind (Q := fun found s => (found ≠ none → Passed candidate s) ∧ Stored candidate s)
    (read_safe t rfl (fun _ => (passed_stable t candidate).imp.and (stored_stable t candidate)) ?_) fun found => ?_
  · intro i s r _ now answer
    obtain rfl := Except.ok.inj answer
    refine ⟨fun found => ?_, now⟩
    obtain ⟨a, is⟩ := Option.ne_none_iff_exists'.mp found
    have here := List.find?_some is
    simp only [Bool.and_eq_true, beq_iff_eq] at here
    exact ⟨a, List.mem_of_find?_eq_some is, here.1.1.2, here.2⟩
  cases found with
  | none => exact Contract.Safe.raise fun _ _ _ _ => trivial
  | some attempt =>
    refine Contract.Safe.bind (Q := fun found s => ∀ p, found = some p → Ready candidate p.profileId s)
      (read_safe t rfl (fun _ => Contract.Stable.all fun p => (ready_stable t candidate p.profileId).imp) ?_)
      fun found => ?_
    · intro i s r _ now answer p is
      obtain rfl := Except.ok.inj answer
      have here := List.find?_some is
      simp only [Bool.and_eq_true, beq_iff_eq] at here
      exact ⟨here.1, now.2, now.1 (by simp)⟩
    cases found with
    | none => exact Contract.Safe.raise fun _ _ _ _ => trivial
    | some profile =>
      refine Contract.Safe.ite (fun _ => Contract.Safe.raise fun _ _ _ _ => trivial) fun _ => ?_
      refine Contract.Safe.bind ((loadRevisionChain_safe t (ready_stable t candidate profile.profileId) profile
        candidate.candidateProfileRevisionId true).pre fun s _ _ now => now profile rfl) fun chain => ?_
      refine Contract.Safe.bind (switchProfile_safe t candidate profile.profileId chain) fun switched => ?_
      refine plain_safe t (Prog.Uses.ite (markActivated_uses candidate attempt chain) ?_)
      refine Prog.Uses.bind (Prog.Uses.perform rfl) fun current => ?_
      cases current with
      | none => exact Prog.Uses.raise
      | some current =>
        refine Prog.Uses.ite ?_ (markActivated_uses candidate attempt chain)
        exact Prog.Uses.bind (Prog.Uses.perform rfl) fun _ => Prog.Uses.raise

theorem activate_safe (candidateId : String) (attemptId : Nat) :
    repairs.Safe t (fun _ => True) (activateAuthRepairCandidate candidateId attemptId) (fun _ _ => True)
      fun _ _ => True := by
  refine Contract.Safe.bind (findCandidate_safe t candidateId [.validating, .failed]) fun found => ?_
  cases found with
  | some candidate => exact (activateCandidate_safe t candidate attemptId).pre fun s _ _ now => now candidate rfl
  | none =>
    refine (plain_safe t ?_).pre fun _ _ _ _ => trivial
    refine Prog.Uses.bind (Prog.Uses.perform rfl) fun found => ?_
    cases found with
    | none => exact Prog.Uses.raise
    | some candidate =>
      refine Prog.Uses.bind (Prog.Uses.perform rfl) fun profile => ?_
      cases profile with
      | none => exact Prog.Uses.raise
      | some profile => exact Prog.Uses.ite Prog.Uses.ret Prog.Uses.raise

/-- A call that is verifying ends its attempt. -/
theorem saveAttempt_safe (attempt : VerificationAttempt) :
    repairs.Safe t (Verifying t attempt.attemptId) (atomically (.saveAttempt attempt)) (fun _ _ => True)
      fun _ _ => True := by
  refine Contract.Safe.perform (fun _ => true_stable t) (fun _ => true_stable t) ?_
  intro s i r s' _ inv ⟨a, mem, own, call, running⟩ _ exec _
  obtain ⟨_, rfl⟩ := Prod.mk.inj (Option.some.inj exec)
  obtain ⟨kept, step⟩ := inv.saveAttempt mem own call running
  exact ⟨kept, step, by cases r <;> trivial⟩

theorem insertAttempt_safe (attempt : VerificationAttempt) (running : attempt.status = .running) :
    repairs.Safe t (fun _ => True) (atomically (.insertAttempt attempt)) (fun id => Verifying t id) fun _ _ => True := by
  refine Contract.Safe.perform (verifying_stable t) (fun _ => true_stable t) ?_
  intro s i r s' known inv now admitted exec known'
  obtain ⟨inv', guar, _⟩ := plain_keeps t (o := .insertAttempt attempt) rfl s i r s' known inv trivial admitted exec known'
  obtain ⟨rfl, rfl⟩ := Prod.mk.inj (Option.some.inj exec)
  exact ⟨inv', guar, _, List.mem_append_right _ (List.mem_singleton_self _), rfl, rfl, running⟩

theorem runAttempt_safe (attempt : VerificationAttempt) (running : attempt.status = .running) :
    repairs.Safe t (fun _ => True) (runAttempt attempt) (fun _ _ => True) fun _ _ => True := by
  refine Contract.Safe.bind (insertAttempt_safe t attempt running) fun id => ?_
  refine Contract.Safe.bind (read_frame t (o := .authenticate) rfl (verifying_stable t id)) fun verdict => ?_
  have failed (code : String) (requestCount : Int) : repairs.Safe t (Verifying t id)
      (failAttempt { attempt with attemptId := id } code requestCount) (fun _ _ => True) fun _ _ => True := by
    refine Contract.Safe.bind (saveAttempt_safe t { attempt with
      attemptId := id, status := .failed, errorCode := code, requestCount := requestCount }) fun _ => ?_
    exact Contract.Safe.ret fun _ _ _ _ => trivial
  cases verdict with
  | recipeFailure code requestCount => exact failed code requestCount
  | accountContextError cls => exact failed "CONFIG_INVALID" attempt.requestCount
  | otherError cls => exact Contract.Safe.raise fun _ _ _ _ => trivial
  | authenticated requestCount =>
    refine Contract.Safe.bind (saveAttempt_safe t { attempt with
      attemptId := id, status := .succeeded, errorCode := "", requestCount := requestCount }) fun _ => ?_
    exact Contract.Safe.ret fun _ _ _ _ => trivial

/-- A program of reads and other plain operations that answers. -/
theorem plain_answers {α : Type} {p : Prog repairSignature α} (uses : p.Uses fun o => RepairOp.isPlain o = true) :
    repairs.Safe t (fun _ => True) p (fun _ _ => True) fun _ _ => True :=
  Contract.Safe.of_uses uses (true_stable t) fun _ plain => plain_keeps t plain

theorem loadRevisionChain_uses (profile : AuthProfile) (id : String) (allowDraft : Bool) :
    (loadRevisionChain profile id allowDraft).Uses fun o => RepairOp.isPlain o = true := by
  refine Prog.Uses.bind (Prog.Uses.perform rfl) fun revision => ?_
  cases revision with
  | none => exact Prog.Uses.raise
  | some revision =>
    refine Prog.Uses.bind (Prog.Uses.perform rfl) fun realm => ?_
    cases realm with
    | none => exact Prog.Uses.raise
    | some realm =>
      refine Prog.Uses.ite Prog.Uses.raise (Prog.Uses.bind (Prog.Uses.perform rfl) fun adapter => ?_)
      cases adapter with
      | none => exact Prog.Uses.raise
      | some adapter => exact Prog.Uses.ite Prog.Uses.raise Prog.Uses.ret

theorem currentProfileChain_uses (profile : AuthProfile) :
    (currentProfileChain profile).Uses fun o => RepairOp.isPlain o = true := by
  refine Prog.Uses.bind (Prog.Uses.perform rfl) fun revision => ?_
  cases revision with
  | none => exact Prog.Uses.raise
  | some revision =>
    refine Prog.Uses.bind (Prog.Uses.perform rfl) fun realm => ?_
    cases realm with
    | none => exact Prog.Uses.raise
    | some realm =>
      refine Prog.Uses.bind (Prog.Uses.perform rfl) fun adapter => ?_
      cases adapter with
      | none => exact Prog.Uses.raise
      | some adapter => exact Prog.Uses.ite Prog.Uses.raise (Prog.Uses.ite Prog.Uses.raise Prog.Uses.ret)

theorem verifyRevision_safe (profile : AuthProfile) (revisionId : String) (candidate : Option RepairCandidate) :
    repairs.Safe t (fun _ => True) (verifyRevision profile revisionId candidate) (fun _ _ => True) fun _ _ => True := by
  have loaded (chain : RevisionChain) := runAttempt_safe t
    { attemptId := 0, profileId := profile.profileId, profileRevisionId := chain.revision.profileRevisionId
      repairCandidateId := (candidate.map (·.candidateId)).getD "" } rfl
  refine Contract.Safe.ite (fun _ => ?_) fun _ => ?_
  · exact Contract.Safe.bind (plain_answers t (loadRevisionChain_uses ..)) fun chain => loaded chain
  · exact Contract.Safe.bind (plain_answers t (currentProfileChain_uses profile)) fun chain => loaded chain

theorem verify_safe (profileId revisionId candidateId : String) :
    repairs.Safe t (fun _ => True) (verifyProjectAuthProfile profileId revisionId candidateId) (fun _ _ => True)
      fun _ _ => True := by
  have raises {α : Type} {e : PyError} :
      repairs.Safe t (fun _ => True) (.raise e : Prog repairSignature α) (fun _ _ => True) fun _ _ => True :=
    Contract.Safe.raise fun _ _ _ _ => trivial
  refine Contract.Safe.bind (read_frame t rfl (true_stable t)) fun profile => ?_
  cases profile with
  | none => exact raises
  | some profile =>
    refine Contract.Safe.ite (fun _ => raises) fun _ => Contract.Safe.ite (fun _ => ?_) fun _ => ?_
    · exact verifyRevision_safe t profile _ none
    · refine Contract.Safe.ite (fun _ => raises) fun _ => ?_
      refine Contract.Safe.bind (read_frame t rfl (true_stable t)) fun candidate => ?_
      cases candidate with
      | none => exact raises
      | some candidate =>
        refine Contract.Safe.ite (fun _ => raises) fun _ => Contract.Safe.ite (fun _ => ?_) fun _ => ?_
        · exact plain_answers t (Prog.Uses.bind (Prog.Uses.perform rfl) fun _ => Prog.Uses.raise)
        · exact verifyRevision_safe t profile _ (some candidate)

theorem verifyAndActivate_safe (candidateId : String) :
    repairs.Safe t (fun _ => True) (verifyAndActivateAuthRepairCandidate candidateId) (fun _ _ => True)
      fun _ _ => True := by
  refine Contract.Safe.bind (read_frame t rfl (true_stable t)) fun candidate => ?_
  cases candidate with
  | none => exact Contract.Safe.raise fun _ _ _ _ => trivial
  | some candidate =>
    refine Contract.Safe.bind (plain_safe t (Prog.Uses.perform rfl)) fun _ => ?_
    refine Contract.Safe.bind (verify_safe t ..) fun attempt => ?_
    refine Contract.Safe.bind (read_frame t rfl (true_stable t)) fun candidate => ?_
    refine Contract.Safe.ite (fun _ => plain_safe t (Prog.Uses.perform rfl)) fun _ => ?_
    refine Contract.Safe.bind (plain_safe t (Prog.Uses.perform rfl)) fun _ => ?_
    refine Contract.Safe.bind (activate_safe t ..) fun _ => ?_
    exact plain_safe t (Prog.Uses.bind (Prog.Uses.perform rfl) fun _ => Prog.Uses.ret)

theorem call_safe (call : RepairCall) : repairs.Safe₀ t (fun _ => True) call.code := by
  cases call with
  | verifyAndActivate candidateId => exact verifyAndActivate_safe t candidateId
  | activate candidateId attemptId => exact activate_safe t candidateId attemptId

theorem repairs_holds : repairs.Holds := by
  refine ⟨fun t => true_stable t, ?_, fun i s s' _ _ change => by cases change⟩
  intro t i s p s' _ inv _ _ code _
  obtain ⟨rfl, rfl⟩ := Prod.mk.inj (Option.some.inj code)
  exact ⟨inv, .refl _ inv, _, true_stable t, trivial, call_safe t i.call⟩

/-! ## Over every run -/

/-- Before any of the calls: the indexes hold, every candidate names a revision and none is
activated. -/
structure Untried (s : RepairState) : Prop where
  candidates : Distinct (·.candidateId) s.candidates
  profiles : Distinct (·.profileId) s.profiles
  attempts : Distinct (·.attemptId) s.attempts
  below : Below (·.attemptId) s.nextAttempt s.attempts
  named : ∀ c ∈ s.candidates, c.candidateProfileRevisionId ≠ ""
  inactive : ∀ c ∈ s.candidates, c.status ≠ .activated
  moves : s.moves = []

theorem Untried.repairs (untried : Untried s) : Repairs s := by
  refine ⟨untried.candidates, untried.profiles, untried.named, untried.attempts, untried.below, fun p _ => ?_,
    fun m mem => ?_, fun m mem => ?_, fun c mem active => absurd active (untried.inactive c mem)⟩
  · simp [RepairState.trail, untried.moves]
  · rw [untried.moves] at mem
    cases mem
  · rw [untried.moves] at mem
    cases mem

theorem Untried.sound (untried : Untried s) {d : Config repairDesk}
    (run : Run orderlyRepairs (Config.initial s) d) : ApiManger.Repair.repairs.Sound d :=
  Contract.sound repairs_holds (fun _ _ => trivial)
    (Contract.Sound.initial (C := ApiManger.Repair.repairs) untried.repairs fun _ => trivial) run

/-- Along a run a candidate stays the same, and stays activated. -/
theorem candidate_kept {d e : Config repairDesk} (sound : repairs.Sound d) (run : Run orderlyRepairs d e) :
    repairs.Sound e ∧ ∀ c ∈ d.state.candidates, ∃ c' ∈ e.state.candidates, SameCandidate c c' ∧
      (c.status = .activated → c'.status = .activated) := by
  induction run with
  | refl => exact ⟨sound, fun c mem => ⟨c, mem, .refl c, id⟩⟩
  | tail _ admitted taken ih =>
    obtain ⟨reached, kept⟩ := ih
    obtain ⟨u, step⟩ := reached.guarantee repairs_holds trivial trivial admitted (Config.next_cases taken)
    refine ⟨reached.step repairs_holds trivial trivial admitted (Config.next_cases taken), fun c mem => ?_⟩
    obtain ⟨c', mem', same, active⟩ := kept c mem
    obtain ⟨c'', mem'', same', active'⟩ := step.candidates c' mem'
    exact ⟨c'', mem'', same.trans same', fun is => active' (active is)⟩

/-- Two activated candidates of one profile with one base are the same. -/
theorem Repairs.one (repairs : Repairs s) {c c' : RepairCandidate} (mem : c ∈ s.candidates)
    (mem' : c' ∈ s.candidates) (active : c.status = .activated) (active' : c'.status = .activated)
    (profile : c.profileId = c'.profileId) (base : c.previousProfileRevisionId = c'.previousProfileRevisionId) :
    c.candidateId = c'.candidateId := by
  -- each of them moved the profile from its base
  have moved {c : RepairCandidate} (mem : c ∈ s.candidates) (active : c.status = .activated) :
      ∃ m ∈ s.moves, m.candidateId = c.candidateId ∧ m.profileId = c.profileId ∧
        m.fromRevision = c.previousProfileRevisionId := by
    obtain ⟨m, memM, is⟩ := repairs.activated c mem active
    obtain ⟨b, memB, id_, profile, previous, _⟩ := repairs.justified m memM
    obtain rfl := repairs.candidates.eq_of_key memB mem (id_.trans is)
    exact ⟨m, memM, is, profile.symm, previous.symm⟩
  obtain ⟨m, memM, is, own, from_⟩ := moved mem active
  obtain ⟨m', memM', is', own', from'⟩ := moved mem' active'
  obtain ⟨p, memP, key⟩ := repairs.located m memM
  have nodup := (List.nodup_append.mp (repairs.trail p memP)).1
  have listed : m ∈ s.moves.filter (·.profileId == p.profileId) := by simp [memM, key]
  have listed' : m' ∈ s.moves.filter (·.profileId == p.profileId) := by simp [memM', key, own, own', profile]
  have same : m = m' := List.inj_on_of_nodup_map nodup listed listed' (from_.trans (base.trans from'.symm))
  rw [← is, ← is', same]

/-- What is owed of the candidates in a state `d` and in a later state `e`. -/
structure CandidatesKept (g : Guard repairDesk) (d e : Config repairDesk) : Prop where
  moves : ∀ l f, g.admits d l = true → d.next l = some f → MovesJustified d.state f.state
  one : ∀ c ∈ d.state.candidates, ∀ c' ∈ e.state.candidates, c.status = .activated → c'.status = .activated →
    c.profileId = c'.profileId → c.previousProfileRevisionId = c'.previousProfileRevisionId →
    c.candidateId = c'.candidateId
  stays : ∀ c ∈ d.state.candidates, c.status = .activated → ∀ c' ∈ e.state.candidates,
    c'.candidateId = c.candidateId → c'.status = .activated

/-- **The candidates over every orderly run.** -/
theorem repair_candidates_kept (s : RepairState) (untried : Untried s) (d e : Config repairDesk)
    (before : Run orderlyRepairs (Config.initial s) d) (later : Run orderlyRepairs d e) :
    CandidatesKept orderlyRepairs d e := by
  have sound := untried.sound before
  obtain ⟨sound', kept⟩ := candidate_kept sound later
  refine ⟨fun l f admitted taken => ?_, fun c mem c' mem' active active' profile base => ?_,
    fun c mem active c' mem' same => ?_⟩
  · obtain ⟨u, step⟩ := sound.guarantee repairs_holds trivial trivial admitted (Config.next_cases taken)
    exact step.moves
  · obtain ⟨c'', mem'', same, stays⟩ := kept c mem
    have is := sound'.inv.one mem'' mem' (stays active) active' (same.profileId.trans profile)
      (same.previous.trans base)
    exact same.candidateId.symm.trans is
  · obtain ⟨c'', mem'', still, stays⟩ := kept c mem
    obtain rfl := sound'.inv.candidates.eq_of_key mem'' mem' (still.candidateId.trans same.symm)
    exact stays active

/-! ## Two verifications of one candidate -/

/-- A profile on `rev1` and one candidate for `rev2`. -/
def repairSample : RepairState where
  candidates := [{ candidateId := "c", profileId := "f", previousProfileRevisionId := "rev1"
                   candidateProfileRevisionId := "rev2" }]
  profiles := [{ profileId := "f", currentRevisionId := "rev1" }]
  chains := { revisions := [{ profileRevisionId := "rev2", profileId := "f", realmRevisionId := "realm2" }]
              realms := [{ realmRevisionId := "realm2", adapterVersionId := "adapter2" }]
              adapters := [{ adapterVersionId := "adapter2" }] }

theorem repairSample_untried : Untried repairSample := by
  refine ⟨by decide, by decide, by decide, ?_, by decide, by decide, rfl⟩
  intro a mem
  cases mem

/-- The call `t` verifies the candidate and takes `n` steps. -/
def verifies (t n : Nat) : List (Label repairDesk) :=
  .start t { call := .verifyAndActivate "c" } :: List.replicate n (.step t {})

def firstGoesOn : List (Label repairDesk) := [.step (0 : Nat) {}]

def isActivated (d : Config repairDesk) : Bool := d.state.candidates.any fun c => c.candidateId == "c" && c.status == .activated

/-- The candidate is stored with another status. -/
def isReverted (d : Config repairDesk) : Bool := d.state.candidates.any fun c => c.candidateId == "c" && c.status != .activated

/-- The first call has read the candidate when the second activates it, and then saves it. -/
theorem repair_candidates_not_kept : ¬ ∀ (s : RepairState), Untried s → ∀ d e : Config repairDesk,
    Run (Guard.free repairDesk) (Config.initial s) d → Run (Guard.free repairDesk) d e →
    CandidatesKept (Guard.free repairDesk) d e := by
  intro all
  obtain ⟨d, before, here⟩ := Run.exists_of_follow (P := fun d => isActivated d &&
    (d.follow (Guard.free repairDesk) firstGoesOn).any isReverted)
    (show ((Config.initial repairSample).follow (Guard.free repairDesk) (verifies 0 1 ++ verifies 1 23)).any _ = true by
      decide +kernel)
  rw [Bool.and_eq_true] at here
  obtain ⟨e, later, reverted⟩ := Run.exists_of_follow here.2
  obtain ⟨c, mem, is⟩ := List.any_eq_true.mp here.1
  obtain ⟨c', mem', is'⟩ := List.any_eq_true.mp reverted
  simp only [Bool.and_eq_true, beq_iff_eq, bne_iff_ne, ne_eq] at is is'
  have kept := all repairSample repairSample_untried d e before later
  exact is'.2 (kept.stays c mem is.2 c' mem' (is'.1.trans is.1.symm))

/-- One call alone activates the candidate. -/
theorem repair_candidates_kept_once : ∃ d e : Config repairDesk,
    Run orderlyRepairs (Config.initial repairSample) d ∧ Run orderlyRepairs d e ∧ isActivated d = true ∧
    CandidatesKept orderlyRepairs d e := by
  obtain ⟨d, before, activated⟩ := Run.exists_of_follow (P := isActivated)
    (show ((Config.initial repairSample).follow orderlyRepairs (verifies 0 22)).any _ = true by decide +kernel)
  exact ⟨d, d, before, .refl, activated, repair_candidates_kept repairSample repairSample_untried d d before .refl⟩

end ApiManger.Repair
