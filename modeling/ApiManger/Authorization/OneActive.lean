import ApiManger.Authorization.Activation

/-!
# One active version

What any number of concurrent activations and rule additions keep: at most one active
version of a key always, exactly one once the calls are over, and the rules of a
version that was activated. Two updates stand against it: an activation archives the
other versions after its own has been archived, and a rule is inserted after its
version has left the draft.
-/

namespace ApiManger.Authorization
open Python Collection Interleaving

/-- No two active versions share a key. -/
def OneActive (s : PolicyStore) : Prop :=
  ∀ p ∈ s.policies, ∀ q ∈ s.policies, p.lifecycle = .active → q.lifecycle = .active →
    p.policyKey = q.policyKey → p = q

def IsActive (s : PolicyStore) (key : String) : Prop :=
  ∃ p ∈ s.policies, p.policyKey = key ∧ p.lifecycle = .active

/-- Some version of the key has left the draft. -/
def Opened (s : PolicyStore) (key : String) : Prop :=
  ∃ p ∈ s.policies, p.policyKey = key ∧ p.lifecycle ≠ .draft

/-- A call has archived the other versions of the key and is about to promote a draft of it. -/
def Promised (s : PolicyState) (key : String) : Prop :=
  ∃ t version, s.promoting t = some version ∧
    ∃ p ∈ s.store.policies, p.policyVersionId = version ∧ p.policyKey = key ∧ p.lifecycle = .draft

def Named (version key : String) (s : PolicyState) : Prop :=
  ∃ p ∈ s.store.policies, p.policyVersionId = version ∧ p.policyKey = key

/-- An opened key has an active version, or is about to get one; promises are made by activations. -/
structure Attended (s : PolicyState) : Prop where
  one : OneActive s.store
  kept : ∀ key, Opened s.store key → IsActive s.store key ∨ Promised s key
  callers : ∀ t, s.promoting t ≠ none → ∃ version, s.calls t = some (.activate version)

/-! ## The updates -/

section
variable {s : PolicyState} {t : Nat} {key version : String}

variable {p : AuthorizationPolicy}

theorem archiveOther_draft :
    (archiveOther key version p).lifecycle = .draft ↔ p.lifecycle = .draft := by
  unfold archiveOther
  split
  · rename_i other
    simp only [Bool.and_eq_true, beq_iff_eq] at other
    simp [other.1.2]
  · rfl

theorem archiveOther_active (h : (archiveOther key version p).lifecycle = .active) :
    archiveOther key version p = p := by
  unfold archiveOther at h ⊢
  split
  · rename_i other
    rw [if_pos other] at h
    cases h
  · rfl

theorem archiveOther_self (h : p.lifecycle = .draft ∨ p.policyVersionId = version ∨
    p.policyKey ≠ key) : archiveOther key version p = p := by
  unfold archiveOther
  split
  · rename_i other
    simp only [Bool.and_eq_true, beq_iff_eq, bne_iff_ne, ne_eq] at other
    obtain ⟨⟨sameKey, active⟩, other⟩ := other
    rcases h with draft | own | another
    · rw [active] at draft
      cases draft
    · exact absurd own other
    · exact absurd sameKey another
  · rfl

/-- Archiving the other versions, for a version that is not archived itself. -/
theorem Attended.archive (h : Attended s) (named : Named version key s) (idle : s.promoting t = none)
    (call : ∃ v, s.calls t = some (.activate v))
    (live : ∀ p ∈ s.store.policies, p.policyVersionId = version → p.lifecycle ≠ .archived) :
    Attended { s with
      store := s.store.update (archiveOther key version) (archiveOther_version key version)
      promoting := Function.update s.promoting t (some version) } := by
  refine ⟨?_, ?_, fun u promised => ?_⟩
  rotate_right
  · by_cases same : u = t
    · exact same ▸ call
    · exact h.callers u (by simpa [Function.update_of_ne same] using promised)
  · intro p' memP' q' memQ' activeP activeQ same
    obtain ⟨p, memP, rfl⟩ := List.mem_map.mp memP'
    obtain ⟨q, memQ, rfl⟩ := List.mem_map.mp memQ'
    have keptP := archiveOther_active activeP
    have keptQ := archiveOther_active activeQ
    rw [keptP] at activeP same ⊢
    rw [keptQ] at activeQ same ⊢
    exact h.one p memP q memQ activeP activeQ same
  · rintro k ⟨p', memP', keyP, opened⟩
    obtain ⟨p, memP, rfl⟩ := List.mem_map.mp memP'
    have wasOpened : Opened s.store k :=
      ⟨p, memP, (archiveOther_key _ _ _).symm.trans keyP, fun draft => opened (archiveOther_draft.mpr draft)⟩
    by_cases here : k = key
    · subst here
      -- the own version stays as it is: a draft to be promoted, or the active one
      obtain ⟨own, memOwn, ownVersion, ownKey⟩ := named
      have stays : archiveOther k version own = own := archiveOther_self (.inr (.inl ownVersion))
      have memOwn' : own ∈ s.store.policies.map (archiveOther k version) := List.mem_map.mpr ⟨own, memOwn, stays⟩
      cases state : own.lifecycle with
      | draft => exact .inr ⟨t, version, Function.update_self .., own, memOwn', ownVersion, ownKey, state⟩
      | active => exact .inl ⟨own, memOwn', ownKey, state⟩
      | archived => exact absurd state (live own memOwn ownVersion)
    · rcases h.kept k wasOpened with ⟨q, memQ, keyQ, active⟩ | ⟨u, v, promoting, q, memQ, versionQ, keyQ, draft⟩
      · have stays : archiveOther key version q = q := archiveOther_self (.inr (.inr (by rw [keyQ]; exact here)))
        exact .inl ⟨q, List.mem_map.mpr ⟨q, memQ, stays⟩, keyQ, active⟩
      · have other : u ≠ t := by
          intro same
          rw [same, idle] at promoting
          cases promoting
        have stays : archiveOther key version q = q := archiveOther_self (.inl draft)
        exact .inr ⟨u, v, by rw [← promoting]; exact Function.update_of_ne other .., q,
          List.mem_map.mpr ⟨q, memQ, stays⟩, versionQ, keyQ, draft⟩

/-- A promise is kept by another thread, or is about the version this thread promotes. -/
theorem Attended.promise (h : Attended s) (promoting : s.promoting t = some version) {k : String}
    (opened : Opened s.store k) : IsActive s.store k ∨
      (∃ u v, u ≠ t ∧ s.promoting u = some v ∧ ∃ p ∈ s.store.policies, p.policyVersionId = v ∧ p.policyKey = k ∧
        p.lifecycle = .draft) ∨
      ∃ p ∈ s.store.policies, p.policyVersionId = version ∧ p.policyKey = k ∧ p.lifecycle = .draft := by
  rcases h.kept k opened with active | ⟨u, v, promised, p, mem, versionP, keyP, draft⟩
  · exact .inl active
  · by_cases same : u = t
    · rw [same, promoting] at promised
      obtain rfl := Option.some.inj promised
      exact .inr (.inr ⟨p, mem, versionP, keyP, draft⟩)
    · exact .inr (.inl ⟨u, v, same, promised, p, mem, versionP, keyP, draft⟩)

theorem Attended.fewer_callers (h : Attended s) (u : Nat) (promised : Function.update s.promoting t none u ≠ none) :
    ∃ version, s.calls u = some (.activate version) := by
  by_cases same : u = t
  · subst same
    simp at promised
  · exact h.callers u (by simpa [Function.update_of_ne same] using promised)

/-- The index refuses the promotion: another version of the key is active. -/
theorem Attended.refused (h : Attended s) (promoting : s.promoting t = some version)
    (refused : blocked s.store version = true) :
    Attended { s with promoting := Function.update s.promoting t none } := by
  refine ⟨h.one, fun k opened => ?_, h.fewer_callers⟩
  rcases h.promise promoting opened with active | ⟨u, v, other, promised, p, mem, rest⟩ | ⟨p, mem, versionP, keyP, _⟩
  · exact .inl active
  · exact .inr ⟨u, v, by rw [← promised]; exact Function.update_of_ne other .., p, mem, rest⟩
  · obtain ⟨q, memQ, rest⟩ := List.any_eq_true.mp refused
    simp only [Bool.and_eq_true, beq_iff_eq, List.any_eq_true] at rest
    obtain ⟨⟨versionQ, _⟩, active, memActive, keyActive, isActive⟩ := rest
    have same : q = p := s.store.uniqueVersions.eq_of_key memQ mem (versionQ.trans versionP.symm)
    exact .inl ⟨active, memActive, keyActive.trans (same ▸ keyP), isActive⟩

theorem promoteDraft_cases (version : String) (ps rs : List Dict) (now : Int) (p : AuthorizationPolicy) :
    (p.policyVersionId = version ∧ p.lifecycle = .draft ∧
      (promoteDraft version ps rs now p).lifecycle = .active) ∨
    ((p.policyVersionId ≠ version ∨ p.lifecycle ≠ .draft) ∧ promoteDraft version ps rs now p = p) := by
  unfold promoteDraft
  split
  · rename_i target
    simp only [Bool.and_eq_true, beq_iff_eq] at target
    exact .inl ⟨target.1, target.2, rfl⟩
  · rename_i other
    simp only [Bool.and_eq_true, beq_iff_eq, not_and_or] at other
    exact .inr ⟨other, rfl⟩

/-- The promotion of a draft, where the index allows it. -/
theorem Attended.promote (h : Attended s) (promoting : s.promoting t = some version)
    (free : blocked s.store version = false) (ps rs : List Dict) (now : Int) :
    Attended { s with
      store := s.store.update (promoteDraft version ps rs now) (promoteDraft_version version ps rs now)
      promoting := Function.update s.promoting t none } := by
  have noneActive (p : AuthorizationPolicy) (mem : p ∈ s.store.policies) (own : p.policyVersionId = version)
      (draft : p.lifecycle = .draft) (q : AuthorizationPolicy) (memQ : q ∈ s.store.policies)
      (same : q.policyKey = p.policyKey) : q.lifecycle ≠ .active := by
    intro active
    have unblocked := List.any_eq_false.mp free p mem
    simp only [own, draft, BEq.rfl, Bool.true_and, Bool.not_eq_true, List.any_eq_false] at unblocked
    have unmatched := unblocked q memQ
    simp [same, active] at unmatched
  refine ⟨?_, ?_, h.fewer_callers⟩
  · intro p' memP' q' memQ' activeP activeQ same
    obtain ⟨p, memP, rfl⟩ := List.mem_map.mp memP'
    obtain ⟨q, memQ, rfl⟩ := List.mem_map.mp memQ'
    simp only [promoteDraft_key] at same
    rcases promoteDraft_cases version ps rs now p with ⟨ownP, draftP, _⟩ | ⟨_, keptP⟩
    · rcases promoteDraft_cases version ps rs now q with ⟨ownQ, _, _⟩ | ⟨_, keptQ⟩
      · rw [s.store.uniqueVersions.eq_of_key memP memQ (ownP.trans ownQ.symm)]
      · rw [keptQ] at activeQ
        exact absurd activeQ (noneActive p memP ownP draftP q memQ same.symm)
    · rw [keptP] at activeP
      rcases promoteDraft_cases version ps rs now q with ⟨ownQ, draftQ, _⟩ | ⟨_, keptQ⟩
      · exact absurd activeP (noneActive q memQ ownQ draftQ p memP same)
      · rw [keptQ] at activeQ
        rw [keptP, keptQ]
        exact h.one p memP q memQ activeP activeQ same
  · rintro k ⟨p', memP', keyP, opened⟩
    obtain ⟨p, memP, rfl⟩ := List.mem_map.mp memP'
    rw [promoteDraft_key] at keyP
    -- a promoted draft is the active version of its key
    have promoted (q : AuthorizationPolicy) (memQ : q ∈ s.store.policies) (own : q.policyVersionId = version)
        (draft : q.lifecycle = .draft) (keyQ : q.policyKey = k) :
        IsActive (s.store.update (promoteDraft version ps rs now) (promoteDraft_version version ps rs now)) k := by
      rcases promoteDraft_cases version ps rs now q with ⟨_, _, active⟩ | ⟨other, _⟩
      · exact ⟨_, List.mem_map.mpr ⟨q, memQ, rfl⟩, (promoteDraft_key ..).trans keyQ, active⟩
      · exact (other.elim (fun ne => ne own) fun ne => ne draft).elim
    rcases promoteDraft_cases version ps rs now p with ⟨ownP, draftP, _⟩ | ⟨_, keptP⟩
    · exact .inl (promoted p memP ownP draftP keyP)
    · have wasOpened : Opened s.store k := ⟨p, memP, keyP, keptP ▸ opened⟩
      rcases h.promise promoting wasOpened with ⟨q, memQ, keyQ, active⟩ |
        ⟨u, v, other, promised, q, memQ, versionQ, keyQ, draft⟩ | ⟨q, memQ, versionQ, keyQ, draft⟩
      · rcases promoteDraft_cases version ps rs now q with ⟨_, draft, _⟩ | ⟨_, kept⟩
        · rw [active] at draft
          cases draft
        · exact .inl ⟨q, List.mem_map.mpr ⟨q, memQ, kept⟩, keyQ, active⟩
      · rcases promoteDraft_cases version ps rs now q with ⟨own, _, _⟩ | ⟨_, kept⟩
        · exact .inl (promoted q memQ own draft keyQ)
        · exact .inr ⟨u, v, by rw [← promised]; exact Function.update_of_ne other .., q,
            List.mem_map.mpr ⟨q, memQ, kept⟩, versionQ, keyQ, draft⟩
      · exact .inl (promoted q memQ versionQ draft keyQ)

end

variable {version : String} {i : PolicyInput} {s s' : PolicyState}

/-- A rule is inserted for its version, or nothing changes. -/
theorem saveRule_cases {t : Nat} {draft : RuleDraft} {subject owner : Dict} {r : Except PyError Unit}
    (exec : execPolicy t (.saveRule version draft subject owner) i s = some (r, s')) :
    s'.store.policies = s.store.policies ∧ (s'.promoting = s.promoting ∧ s'.calls = s.calls) ∧
      (s'.store.rules = s.store.rules ∨
        ∃ rule, rule.policyVersionId = version ∧ s'.store.rules = s.store.rules ++ [rule]) := by
  simp only [execPolicy] at exec
  split at exec
  · rename_i of
    unfold PolicyStore.saveRule at exec
    split at exec
    · rename_i store saved
      cases exec
      split at saved
      · cases saved
        exact ⟨rfl, ⟨rfl, rfl⟩, .inr ⟨_, rfl, rfl⟩⟩
      · cases saved
    · cases exec
      exact ⟨rfl, ⟨rfl, rfl⟩, .inl rfl⟩
  · cases exec

/-- Only the versions and the promises matter. -/
theorem Attended.congr (h : Attended s) (policies : s'.store.policies = s.store.policies)
    (promoting : s'.promoting = s.promoting) (calls : s'.calls = s.calls) : Attended s' := by
  refine ⟨?_, ?_, fun t promised => ?_⟩
  · intro p memP q memQ
    rw [policies] at memP memQ
    exact h.one p memP q memQ
  · rintro k ⟨p, mem, opened⟩
    rw [policies] at mem
    rcases h.kept k ⟨p, mem, opened⟩ with ⟨q, memQ, active⟩ | ⟨u, v, promised, q, memQ, draft⟩
    · exact .inl ⟨q, policies ▸ memQ, active⟩
    · exact .inr ⟨u, v, by rw [promoting, promised], q, policies ▸ memQ, draft⟩
  · rw [promoting] at promised
    rw [calls]
    exact h.callers t promised

/-! ## The contract of a call -/

/-- A version that archives the others is not archived itself, and one that gets a rule is a draft. -/
def orderly : Guard policyDesk where
  start _ _ _ := true
  op _ o _ s := match o with
    | PolicyOp.archiveOthers _ version =>
      s.store.policies.all fun p => p.policyVersionId != version || p.lifecycle != .archived
    | PolicyOp.saveRule version .. =>
      s.store.policies.all fun p => p.policyVersionId != version || p.lifecycle == .draft
    | _ => true

/-- A call leaves the promises of the others alone, keeps every version with its key, and makes no
promise that outlives it. -/
def attendance : Contract policyDesk where
  guard := orderly
  known _ := True
  inv := Attended
  guar u s s' := (∀ w, u ≠ some w → s'.promoting w = s.promoting w ∧ s'.calls w = s.calls w) ∧
    ∀ version key, Named version key s → Named version key s'
  before t s := s.promoting t = none
  left t s := s.promoting t = none

/-- The operations that change nothing. -/
def PolicyOp.isRead : PolicyOp → Bool
  | .findPolicy _ | .availablePrincipals .. | .relations _ | .profile .. => true
  | .archiveOthers .. | .promote .. | .saveRule .. => false

theorem execPolicy_read {t : Nat} {o : PolicyOp} (read : o.isRead = true)
    {r : Except PyError o.Ret} (exec : execPolicy t o i s = some (r, s')) : s' = s := by
  cases o with
  | findPolicy | availablePrincipals | relations | profile => cases exec; rfl
  | archiveOthers | promote | saveRule => cases read

variable (t : Nat)

/-- Thread `t` has promised nothing. -/
def Idle (s : PolicyState) : Prop := s.promoting t = none

theorem idle_stable : attendance.Stable t (Idle t) := by
  intro u other s s' _ _ _ _ guar idle
  exact (guar.1 t other).1.trans idle

/-- Thread `t` is an activation. -/
def Activating (s : PolicyState) : Prop := ∃ version, s.calls t = some (.activate version)

theorem activating_stable : attendance.Stable t (Activating t) := by
  intro u other s s' _ _ _ _ guar ⟨version, call⟩
  exact ⟨version, (guar.1 t other).2.trans call⟩

theorem anything_stable : attendance.Stable t fun _ => True :=
  fun _ _ _ _ _ _ _ _ _ _ => trivial

theorem named_stable (version key : String) : attendance.Stable t (Named version key) := by
  intro u _ s s' _ _ _ _ guar named
  exact guar.2 version key named

theorem promoting_stable (version : String) : attendance.Stable t fun s => s.promoting t = some version := by
  intro u other s s' _ _ _ _ guar promoting
  exact (guar.1 t other).1.trans promoting

theorem read_keeps {o : PolicyOp} (read : o.isRead = true) (φ : PolicyState → Prop) :
    attendance.Keeps t φ o fun _ => φ := by
  intro s i r s' _ inv now _ exec _
  have same : s' = s := execPolicy_read read exec
  rw [same]
  exact ⟨inv, ⟨fun _ _ => ⟨rfl, rfl⟩, fun _ _ named => named⟩, now⟩

theorem find_safe {φ : PolicyState → Prop} (stable : attendance.Stable t φ) (version : String) :
    attendance.Safe t (fun s => Idle t s ∧ φ s) (atomic (.findPolicy version))
      (fun found s => (Idle t s ∧ φ s) ∧ ∀ p, found = some p → Named p.policyVersionId p.policyKey s)
      (fun _ => Idle t) := by
  refine Contract.Safe.perform (fun found => ?_) (fun _ => idle_stable t) ?_
  · exact ((idle_stable t).and stable).and (Contract.Stable.all fun p => Contract.Stable.imp (named_stable t _ _))
  · intro s i r s' known inv now admitted exec known'
    obtain ⟨inv', guar, now'⟩ := read_keeps t (o := .findPolicy version) rfl (fun s => Idle t s ∧ φ s) s i
      r s' known inv now admitted exec known'
    refine ⟨inv', guar, ?_⟩
    cases exec
    exact ⟨now', fun p found => ⟨p, lookup_mem found, rfl, rfl⟩⟩

theorem principalSnapshots_uses (policy : AuthorizationPolicy) (principals : List AuthorizationPrincipal) :
    (principalSnapshots policy principals).Uses fun o => PolicyOp.isRead o = true := by
  induction principals with
  | nil => exact Prog.Uses.ret
  | cons principal rest ih =>
    refine Prog.Uses.bind (Prog.Uses.perform rfl) fun profile => ?_
    cases profile with
    | none => exact Prog.Uses.raise
    | some profile =>
      dsimp only
      split
      · exact Prog.Uses.raise
      · exact Prog.Uses.bind ih fun _ => Prog.Uses.ret

theorem activationSnapshots_uses (policy : AuthorizationPolicy) :
    (activationSnapshots policy).Uses fun o => PolicyOp.isRead o = true := by
  refine Prog.Uses.bind (Prog.Uses.perform rfl) fun principals => ?_
  refine Prog.Uses.ofExcept_bind fun _ _ => Prog.Uses.ofExcept_bind fun _ _ => ?_
  refine Prog.Uses.bind (Prog.Uses.perform rfl) fun relations => ?_
  refine Prog.Uses.ofExcept_bind fun _ _ => ?_
  exact Prog.Uses.bind (principalSnapshots_uses policy _) fun _ => Prog.Uses.ret

/-- The archiving update makes the promise. -/
theorem archive_safe (key version : String) :
    attendance.Safe t (fun s => Idle t s ∧ Activating t s ∧ Named version key s) (atomic (.archiveOthers key version))
      (fun _ s => s.promoting t = some version) (fun _ => Idle t) := by
  refine Contract.Safe.perform (fun _ => promoting_stable t version) (fun _ => idle_stable t) ?_
  intro s i r s' _ inv now admitted exec _
  obtain ⟨idle, call, named⟩ := now
  cases exec
  have live : ∀ p ∈ s.store.policies, p.policyVersionId = version → p.lifecycle ≠ .archived := by
    intro p mem own archived
    have spared := List.all_eq_true.mp admitted p mem
    simp [own, archived] at spared
  refine ⟨inv.archive named idle call live, ⟨fun w other => ⟨?_, rfl⟩, fun v k named' => ?_⟩, Function.update_self ..⟩
  · exact Function.update_of_ne (fun same => other (congrArg some same.symm)) ..
  · obtain ⟨p, mem, own, its⟩ := named'
    exact ⟨_, List.mem_map_of_mem mem, (archiveOther_version ..).trans own, (archiveOther_key ..).trans its⟩

/-- The promotion ends the promise, whether or not the index refuses it. -/
theorem promote_safe (version : String) (ps rs : List Dict) :
    attendance.Safe t (fun s => s.promoting t = some version) (atomic (.promote version ps rs))
      (fun _ => Idle t) (fun _ => Idle t) := by
  refine Contract.Safe.perform (fun _ => idle_stable t) (fun _ => idle_stable t) ?_
  intro s i r s' _ inv promoting _ exec _
  have others : ∀ w, some t ≠ some w →
      Function.update s.promoting t none w = s.promoting w ∧ s.calls w = s.calls w :=
    fun w other => ⟨Function.update_of_ne (fun same => other (congrArg some same.symm)) .., rfl⟩
  simp only [policyDesk, execPolicy] at exec
  split at exec
  · rename_i refused
    cases exec
    exact ⟨inv.refused promoting refused, ⟨others, fun _ _ named => named⟩, Function.update_self ..⟩
  · rename_i free
    cases exec
    refine ⟨inv.promote promoting (by simpa using free) ps rs i.now, ⟨others, fun v k named => ?_⟩,
      Function.update_self ..⟩
    obtain ⟨p, mem, own, its⟩ := named
    exact ⟨_, List.mem_map_of_mem mem, (promoteDraft_version ..).trans own, (promoteDraft_key ..).trans its⟩

theorem activate_safe (version : String) :
    attendance.Safe t (fun s => Idle t s ∧ Activating t s) (activateAuthorizationPolicy version) (fun _ => Idle t)
      (fun _ => Idle t) := by
  refine Contract.Safe.bind (find_safe t (activating_stable t) version) fun found => ?_
  cases found with
  | none => exact Contract.Safe.raise fun _ _ _ now => now.1.1
  | some policy =>
    dsimp only
    split
    · exact Contract.Safe.raise fun _ _ _ now => now.1.1
    · have checks := Contract.Safe.of_uses (activationSnapshots_uses policy)
        ((idle_stable t).and ((activating_stable t).and
          (named_stable t policy.policyVersionId policy.policyKey)))
        (fun o read => read_keeps t read _)
      refine Contract.Safe.bind (checks.weaken (fun s _ _ now => ⟨now.1.1, now.1.2, now.2 policy rfl⟩)
        (fun _ _ _ _ now => now) (fun _ _ _ _ now => now.1)) fun snapshots => ?_
      refine Contract.Safe.bind (archive_safe t _ _) fun _ => ?_
      refine Contract.Safe.bind (promote_safe t _ _ _) fun _ => ?_
      refine Contract.Safe.bind ((find_safe t (anything_stable t) _).pre fun _ _ _ idle => ⟨idle, trivial⟩)
        fun _ => ?_
      exact Contract.Safe.ret fun _ _ _ now => now.1.1

/-- Adding a rule leaves the versions alone. -/
theorem addRule_safe (version : String) (draft : RuleDraft) :
    attendance.Safe t (Idle t) (addPolicyRule version draft) (fun _ => Idle t) (fun _ => Idle t) := by
  refine Contract.Safe.bind ((find_safe t (anything_stable t) version).pre fun _ _ _ idle => ⟨idle, trivial⟩)
    fun found => ?_
  cases found with
  | none => exact Contract.Safe.raise fun _ _ _ now => now.1.1
  | some policy =>
    dsimp only
    split
    · exact Contract.Safe.raise fun _ _ _ now => now.1.1
    · refine Contract.Safe.bind (Q := fun _ => Idle t) (Contract.Safe.ofExcept (fun _ _ _ _ _ now => now.1.1)
        fun _ _ _ _ _ now => now.1.1) fun subject => ?_
      refine Contract.Safe.bind (Q := fun _ => Idle t) (Contract.Safe.ofExcept (fun _ _ _ _ _ now => now)
        fun _ _ _ _ _ now => now) fun owner => ?_
      refine Contract.Safe.perform (fun _ => idle_stable t) (fun _ => idle_stable t) ?_
      intro s i r s' _ inv idle _ exec _
      obtain ⟨policies, ⟨promoting, calls⟩, _⟩ := saveRule_cases (t := t) exec
      refine ⟨inv.congr policies promoting calls,
        ⟨fun w _ => ⟨congrFun promoting w, congrFun calls w⟩, fun v k named => ?_⟩, ?_⟩
      · obtain ⟨p, mem, its⟩ := named
        exact ⟨p, policies ▸ mem, its⟩
      · cases r <;> exact (congrFun promoting t).trans idle

/-- **The contract holds** of every call. -/
theorem attendance_holds : attendance.Holds where
  waits := idle_stable
  start t i s p s' _ inv idle _ code _ := by
    cases code
    have inv' : Attended { s with calls := Function.update s.calls t (some i.call) } := by
      refine ⟨inv.one, inv.kept, fun u promised => ?_⟩
      have other : u ≠ t := fun same => promised (same ▸ idle)
      simpa [Function.update_of_ne other] using inv.callers u promised
    refine ⟨inv', ⟨fun w other => ⟨rfl, ?_⟩, fun _ _ named => named⟩, ?_⟩
    · exact Function.update_of_ne (fun same => other (congrArg some same.symm)) ..
    · cases call : i.call with
      | activate version =>
        exact ⟨_, (idle_stable t).and (activating_stable t),
          ⟨idle, version, call ▸ Function.update_self ..⟩, activate_safe t version⟩
      | addRule version draft => exact ⟨_, idle_stable t, idle, addRule_safe t version draft⟩
  environment _ _ _ _ _ change := nomatch change

/-! ## The protocol -/

/-- Every key with a version that has left the draft has one active version. -/
structure Settled (store : PolicyStore) : Prop where
  one : OneActive store
  kept : ∀ key, Opened store key → IsActive store key

theorem attended_of_run {store : PolicyStore} (settled : Settled store) {c : Config policyDesk}
    (run : Run orderly (startDesk store) c) : attendance.Sound c := by
  refine Contract.sound attendance_holds (fun _ _ => trivial) ?_ run
  exact Contract.Sound.initial ⟨settled.one, fun key opened => .inl (settled.kept key opened),
    fun _ promised => absurd rfl promised⟩ fun _ => rfl

/-- A version that was active stays so or is archived, and keeps its key. -/
theorem promoteDraft_left {ps rs : List Dict} {now : Int} {p : AuthorizationPolicy}
    (left : p.lifecycle ≠ .draft) : promoteDraft version ps rs now p = p := by
  rcases promoteDraft_cases version ps rs now p with ⟨_, draft, _⟩ | ⟨_, kept⟩
  · exact absurd draft left
  · exact kept

/-- A version that has left the draft, and its rules. -/
structure Sealed (version key : String) (rules : List AuthorizationPolicyRule) (s : PolicyState) : Prop where
  left : ∃ p ∈ s.store.policies, p.policyVersionId = version ∧ p.policyKey = key ∧ p.lifecycle ≠ .draft
  rules : s.store.rulesOf version = rules

theorem sealed_step {t : Nat} {o : PolicyOp}
    {r : Except PyError o.Ret} (admitted : orderly.op t o i s = true) (exec : execPolicy t o i s = some (r, s'))
    {key : String} {rules : List AuthorizationPolicyRule} (h : Sealed version key rules s) :
    Sealed version key rules s' := by
  obtain ⟨⟨p, mem, own, its, left⟩, same⟩ := h
  cases o with
  | findPolicy | availablePrincipals | relations | profile =>
    cases exec
    exact ⟨⟨p, mem, own, its, left⟩, same⟩
  | archiveOthers k v =>
    cases exec
    refine ⟨⟨_, List.mem_map_of_mem mem, (archiveOther_version ..).trans own, (archiveOther_key ..).trans its, ?_⟩,
      same⟩
    exact fun draft => left (archiveOther_draft.mp draft)
  | promote v ps rs =>
    simp only [execPolicy] at exec
    split at exec
    · cases exec
      exact ⟨⟨p, mem, own, its, left⟩, same⟩
    · cases exec
      exact ⟨⟨p, List.mem_map.mpr ⟨p, mem, promoteDraft_left left⟩, own, its, left⟩, same⟩
  | saveRule v draft subject owner =>
    obtain ⟨policies, _, kept | ⟨rule, of, added⟩⟩ := saveRule_cases exec
    · exact ⟨⟨p, policies ▸ mem, own, its, left⟩, by rw [← same, PolicyStore.rulesOf, kept]; rfl⟩
    · -- the guard inserts rules of drafts only, so the rule is of another version
      have other : v ≠ version := by
        intro here
        have drafts := List.all_eq_true.mp admitted p mem
        simp [own, here, left] at drafts
      refine ⟨⟨p, policies ▸ mem, own, its, left⟩, ?_⟩
      rw [← same, PolicyStore.rulesOf, added, List.filter_append]
      simp [PolicyStore.rulesOf, of, other]

theorem sealed_of_run {c d : Config policyDesk} (run : Run orderly c d) {key : String}
    {rules : List AuthorizationPolicyRule} (h : Sealed version key rules c.state) :
    Sealed version key rules d.state := by
  induction run with
  | refl => exact h
  | tail _ admitted taken ih =>
    cases Config.next_cases taken with
    | start _ code =>
      cases code
      exact ⟨ih.left, ih.rules⟩
    | step code exec => exact sealed_step (by simpa [Guard.admits, code] using admitted) exec ih
    | environment change => cases change

/-- No activation is in flight. -/
def NoActivation (d : Config policyDesk) : Prop :=
  ∀ t version, d.state.calls t = some (.activate version) → ∀ p, d.threads t = some p → p.ended = true

/-- What holds between two states of a run: at most one active version of a key; while no activation
is in flight, exactly one of a key that had one; and the rules an active version had. -/
structure ActivationProtocol (c d : Config policyDesk) : Prop where
  one : OneActive d.state.store
  kept : NoActivation d → ∀ key, IsActive c.state.store key →
    ∃! p, p ∈ d.state.store.policies ∧ p.policyKey = key ∧ p.lifecycle = .active
  rules : ∀ p ∈ c.state.store.policies, p.lifecycle = .active →
    d.state.store.rulesOf p.policyVersionId = c.state.store.rulesOf p.policyVersionId

/-- **Policy activation.** The protocol holds in every run in which a version archives the others only
while it is not archived itself, and rules are inserted only while their version is a draft. -/
theorem activation_protocol (store : PolicyStore) (settled : Settled store) (c d : Config policyDesk)
    (reached : Run orderly (startDesk store) c) (run : Run orderly c d) : ActivationProtocol c d := by
  have sound := attended_of_run settled (reached.trans run)
  refine ⟨sound.inv.one, fun quiet key ⟨p, mem, keyP, active⟩ => ?_, fun p mem active => ?_⟩
  · have left : p.lifecycle ≠ .draft := by rw [active]; decide
    have sealed_ : Sealed p.policyVersionId key (c.state.store.rulesOf p.policyVersionId) d.state :=
      sealed_of_run run ⟨⟨p, mem, rfl, keyP, left⟩, rfl⟩
    obtain ⟨q, memQ, _, keyQ, leftQ⟩ := sealed_.left
    have nobody : ∀ t, d.state.promoting t = none := by
      intro t
      by_contra promised
      obtain ⟨version, call⟩ := sound.inv.callers t promised
      cases code : d.threads t with
      | none => exact promised (sound.waiting t code)
      | some rest => exact promised (sound.left trivial code (quiet t version call rest code))
    rcases sound.inv.kept key ⟨q, memQ, keyQ, leftQ⟩ with ⟨a, memA, keyA, isActive⟩ | ⟨t, v, promised, _⟩
    · refine ⟨a, ⟨memA, keyA, isActive⟩, fun b ⟨memB, keyB, isActiveB⟩ => ?_⟩
      exact sound.inv.one b memB a memA isActiveB isActive (keyB.trans keyA.symm)
    · rw [nobody t] at promised
      cases promised
  · have left : p.lifecycle ≠ .draft := by rw [active]; decide
    exact (sealed_of_run run ⟨⟨p, mem, rfl, rfl, left⟩, rfl⟩).rules

/-! ## Two activations at once -/

def alice : AuthorizationPrincipal := { principalId := "alice", profileId := "login", accountKey := "alice-key" }

def ordersOfUser : PolicyRelation where
  id := "0123456789abcdef01234567"
  projectId := "shop"
  sourceLocator := [("path", .str "$.id")]
  targetLocator := [("path", .str "userId")]
  verified := true

def ordersVersion (version : Nat) (lifecycle : Lifecycle) : AuthorizationPolicy where
  policyKey := "orders"
  policyVersionId := "orders-" ++ toString version
  projectId := "shop"
  envId := ""
  name := "Orders"
  version := version
  lifecycle := lifecycle
  principalIds := ["alice"]
  relationIds := ["0123456789abcdef01234567"]

/-- The first version is active, the second is drafted. -/
def ordersStore : PolicyStore where
  policies := [ordersVersion 1 .active, ordersVersion 2 .draft]
  rules := []
  uniqueVersions := by decide +kernel
  uniqueRules := by decide
  owned := by simp

theorem ordersStore_settled : Settled ordersStore := by
  have one : ∀ p ∈ ordersStore.policies, p.lifecycle = .active → p = ordersVersion 1 .active := by
    intro p mem active
    simp only [ordersStore, List.mem_cons, List.not_mem_nil, or_false] at mem
    rcases mem with rfl | rfl
    · rfl
    · cases active
  refine ⟨fun p memP q memQ activeP activeQ _ => (one p memP activeP).trans (one q memQ activeQ).symm, ?_⟩
  rintro key ⟨p, mem, keyP, _⟩
  refine ⟨ordersVersion 1 .active, List.mem_cons_self, ?_, rfl⟩
  simp only [ordersStore, List.mem_cons, List.not_mem_nil, or_false] at mem
  rcases mem with rfl | rfl <;> exact keyP

/-- The answers an activation of one of them reads. -/
def answers (call : PolicyCall) : PolicyInput where
  call := call
  principals := [alice]
  relations := [ordersOfUser]
  profile := some { accountKey := "alice-key", currentRevisionId := "rev-1" }

/-- Steps of one activation. -/
def activation (t version n : Nat) : List (Label policyDesk) :=
  List.replicate n (.step t (answers (.activate ("orders-" ++ toString version))))

def beginActivation (t version : Nat) : Label policyDesk :=
  .start t (answers (.activate ("orders-" ++ toString version)))

/-- The active version is activated again; between its checks and its archiving update the second
version is activated. -/
def overtaken : List (Label policyDesk) :=
  beginActivation 0 1 :: activation 0 1 4 ++ beginActivation 1 2 :: activation 1 2 7 ++ activation 0 1 3

def noneActive (c : Config policyDesk) : Bool := c.state.store.policies.all (·.lifecycle != .active)

/-- Both versions end archived. -/
theorem activation_protocol_fails : ¬ ∀ store, Settled store → ∀ c d : Config policyDesk,
    Run (Guard.free policyDesk) (startDesk store) c → Run (Guard.free policyDesk) c d →
    ActivationProtocol c d := by
  intro protocol
  let P (d : Config policyDesk) : Bool :=
    noneActive d && (overtaken.filterMap Label.starts).all fun t => (d.threads t).all Prog.ended
  have follows : ((startDesk ordersStore).follow (Guard.free policyDesk) overtaken).any P = true := by
    decide +kernel
  obtain ⟨d, found, holds⟩ := Option.any_eq_true _ _ |>.mp follows
  simp only [P, Bool.and_eq_true] at holds
  obtain ⟨nobody, ended⟩ := holds
  have quiet := Config.quiet_of_follow found ended
  obtain ⟨p, ⟨mem, _, active⟩, _⟩ := (protocol ordersStore ordersStore_settled _ d .refl (.of_follow found)).kept
    (fun t _ _ p code => quiet t p code) "orders" ⟨_, List.mem_cons_self, rfl, rfl⟩
  have inactive := List.all_eq_true.mp nobody p mem
  simp [active] at inactive

/-- Activating the second version in the place of the first. -/
theorem activation_protocol_replaces : ∃ d : Config policyDesk,
    d.state.store.policies.map (·.lifecycle) = [.archived, .active] ∧ ActivationProtocol (startDesk ordersStore) d := by
  let P (d : Config policyDesk) : Bool := d.state.store.policies.map (·.lifecycle) = [.archived, .active]
  obtain ⟨d, run, shown⟩ := Run.exists_of_follow (P := P)
    (show ((startDesk ordersStore).follow orderly (beginActivation 0 2 :: activation 0 2 7)).any P = true by
      decide +kernel)
  exact ⟨d, by simpa [P] using shown, activation_protocol ordersStore ordersStore_settled _ d .refl run⟩

end ApiManger.Authorization
