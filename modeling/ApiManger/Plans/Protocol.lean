import ApiManger.Interleaving.RelyGuarantee
import ApiManger.Plans.TestPlans

/-!
# The protocol of test plans

What any number of concurrent calls keep: at most one active plan of a project, an
environment and a name; no activation archives an active plan of another environment; an
archived plan stays archived; and no content changes. Against the first three stand updates
made late: an activation saves its plan as it was read.
-/

namespace ApiManger.Plans
open Python Collection Interleaving

/-- No two active plans share a project, an environment and a name. -/
def OneActivePlan (s : PlanStore) : Prop :=
  ∀ p ∈ s.plans, ∀ q ∈ s.plans, p.status = .active → q.status = .active → p.slot = q.slot → p = q

/-- A plan that is active in a slot is the one a thread is about to save, unless another overtook it. -/
structure Calm (s : PlanState) : Prop where
  one : OneActivePlan s.store
  pending : ∀ t plan, s.pending t = some plan → s.overtaken t = false →
    ∀ p ∈ s.store.plans, p.status = .active → p.slot = plan.slot → p.id = plan.id
  crossed : s.crossed = false

def Stored (plan : TestPlan) (s : PlanState) : Prop := ∃ p ∈ s.store.plans, p.id = plan.id ∧ p.content = plan.content

/-! ## The updates -/

theorem mem_setStatus {s : PlanStore} {m : TestPlan → Bool} {status : PlanStatus} {p : TestPlan} :
    p ∈ (s.setStatus m status).plans ↔
      (∃ q ∈ s.plans, m q = true ∧ p = { q with status := status }) ∨ (p ∈ s.plans ∧ m p = false) := by
  constructor
  · intro mem
    obtain ⟨q, old, rfl⟩ := List.mem_map.mp mem
    cases hit : m q with
    | true => exact .inl ⟨q, old, hit, by simp⟩
    | false => exact .inr ⟨by simpa [hit] using old, by simp [hit]⟩
  · rintro (⟨q, old, hit, rfl⟩ | ⟨old, miss⟩)
    · exact List.mem_map.mpr ⟨q, old, by simp [hit]⟩
    · exact List.mem_map.mpr ⟨p, old, by simp [miss]⟩

section
variable {s : PlanState} {t : ℕ} {plan : TestPlan}

/-- Fewer active plans are as calm. -/
theorem Calm.setArchived (h : Calm s) (m : TestPlan → Bool) :
    Calm { s with store := s.store.setStatus m .archived } := by
  have old : ∀ p ∈ (s.store.setStatus m .archived).plans, p.status = .active → p ∈ s.store.plans := by
    intro p mem active
    rcases mem_setStatus.mp mem with ⟨q, _, _, rfl⟩ | ⟨old, _⟩
    · cases active
    · exact old
  refine ⟨fun p memP q memQ activeP activeQ => ?_, fun u q pending free p mem active => ?_, h.crossed⟩
  · exact h.one p (old p memP activeP) q (old q memQ activeQ) activeP activeQ
  · exact h.pending u q pending free p (old p mem active) active

/-- After the archiving update of a plan no plan of its slot is active. -/
theorem Calm.archive (h : Calm s) (own : s.store.plans.any (crosses plan) = false) :
    Calm { s with
      store := s.store.setStatus (archives plan) .archived
      pending := Function.update s.pending t (some plan)
      overtaken := Function.update s.overtaken t false
      crossed := s.crossed || s.store.plans.any (crosses plan) } := by
  have fewer := h.setArchived (archives plan)
  refine ⟨fewer.one, fun u q pending free p mem active same => ?_, ?_⟩
  · dsimp only at pending free
    by_cases here : u = t
    · subst here
      rw [Function.update_self] at pending
      cases pending
      rcases mem_setStatus.mp mem with ⟨_, _, _, rfl⟩ | ⟨_, miss⟩
      · cases active
      · have project : p.content.projectId = plan.content.projectId := congrArg Prod.fst same
        have name : p.content.name = plan.content.name := congrArg (fun slot => slot.2.2) same
        simp [archives, project, name, active] at miss
    · rw [Function.update_of_ne here] at pending free
      exact fewer.pending u q pending free p mem active same
  · dsimp only
    rw [h.crossed, own]
    rfl

/-- Saving a plan that no other plan of its slot has overtaken. -/
theorem Calm.activate (h : Calm s) (pending : s.pending t = some plan) (free : s.overtaken t = false)
    (stored : Stored plan s) :
    Calm { s with
      store := s.store.setStatus (·.id == plan.id) .active
      pending := Function.update s.pending t none
      overtaken := overtakenBy s plan } := by
  obtain ⟨own, memOwn, idOwn, contentOwn⟩ := stored
  -- an active plan is the saved one, in its slot, or was active before
  have cases_ : ∀ p ∈ (s.store.setStatus (·.id == plan.id) .active).plans, p.status = .active →
      (p.id = plan.id ∧ p.slot = plan.slot) ∨ (p ∈ s.store.plans ∧ p.id ≠ plan.id) := by
    intro p mem active
    rcases mem_setStatus.mp mem with ⟨q, old, hit, rfl⟩ | ⟨old, miss⟩
    · have same : q = own := s.store.distinct.eq_of_key old memOwn ((beq_iff_eq.mp hit).trans idOwn.symm)
      refine .inl ⟨beq_iff_eq.mp hit, ?_⟩
      rw [TestPlan.slot, TestPlan.slot, same, contentOwn]
    · exact .inr ⟨old, by simpa using miss⟩
  have distinct := (s.store.setStatus (·.id == plan.id) .active).distinct
  refine ⟨fun p memP q memQ activeP activeQ same => ?_, fun u q waiting calm p mem active same => ?_, h.crossed⟩
  · rcases cases_ p memP activeP with ⟨idP, slotP⟩ | ⟨oldP, otherP⟩
    · rcases cases_ q memQ activeQ with ⟨idQ, _⟩ | ⟨oldQ, otherQ⟩
      · exact distinct.eq_of_key memP memQ (idP.trans idQ.symm)
      · exact absurd (h.pending t plan pending free q oldQ activeQ (same.symm.trans slotP)) otherQ
    · rcases cases_ q memQ activeQ with ⟨_, slotQ⟩ | ⟨oldQ, _⟩
      · exact absurd (h.pending t plan pending free p oldP activeP (same.trans slotQ)) otherP
      · exact h.one p oldP q oldQ activeP activeQ same
  · dsimp only at waiting
    have here : u ≠ t := by
      rintro rfl
      rw [Function.update_self] at waiting
      cases waiting
    rw [Function.update_of_ne here] at waiting
    obtain ⟨calm, mine⟩ := Bool.or_eq_false_iff.mp calm
    rcases cases_ p mem active with ⟨idP, slotP⟩ | ⟨oldP, _⟩
    · rw [waiting] at mine
      have slotQ : q.slot = plan.slot := same.symm.trans slotP
      simp only [Option.any_some, slotQ, beq_self_eq_true, Bool.true_and, bne_eq_false_iff_eq] at mine
      exact idP.trans mine.symm
    · exact h.pending u q waiting calm p oldP active same

/-- A new plan is a draft, or the only active one of its slot. -/
theorem Calm.insert (h : Calm s) {content : PlanContent} {status : PlanStatus}
    (alone : status = .active → ∀ p ∈ s.store.plans, p.slot = TestPlan.slot ⟨s.store.nextId, content, status⟩ →
      p.status ≠ .active) :
    Calm { s with
      store := s.store.insert content status
      overtaken := if status = .active then overtakenBy s ⟨s.store.nextId, content, status⟩ else s.overtaken } := by
  have cases_ : ∀ p ∈ (s.store.insert content status).plans,
      p ∈ s.store.plans ∨ p = ⟨s.store.nextId, content, status⟩ := fun p mem =>
    (List.mem_append.mp mem).imp_right List.mem_singleton.mp
  refine ⟨fun p memP q memQ activeP activeQ same => ?_, fun u q waiting calm p mem active same => ?_, h.crossed⟩
  · rcases cases_ p memP with oldP | rfl
    · rcases cases_ q memQ with oldQ | rfl
      · exact h.one p oldP q oldQ activeP activeQ same
      · exact absurd activeP (alone activeQ p oldP same)
    · rcases cases_ q memQ with oldQ | rfl
      · exact absurd activeQ (alone activeP q oldQ same.symm)
      · rfl
  · rcases cases_ p mem with oldP | rfl
    · refine h.pending u q waiting ?_ p oldP active same
      dsimp only at calm
      split at calm
      · exact (Bool.or_eq_false_iff.mp calm).1
      · exact calm
    · dsimp only at active calm
      rw [if_pos active] at calm
      have mine := (Bool.or_eq_false_iff.mp calm).2
      rw [waiting] at mine
      simp only [Option.any_some, same, beq_self_eq_true, Bool.true_and, bne_eq_false_iff_eq] at mine
      exact mine.symm

end

/-! ## The contract of a call -/

/-- An archiving update finds no active plan of another environment; a plan is saved as active while it is
not archived and nothing of its slot has become active since its archiving update; and a new version is
inserted as active only where none of its slot is. -/
def orderly : Guard planDesk where
  start _ _ _ := true
  op t o _ s := match o with
    | PlanOp.archiveActive plan => !s.store.plans.any (crosses plan)
    | PlanOp.saveActive plan =>
      !s.overtaken t && s.store.plans.all fun p => p.id != plan.id || p.status != .archived
    | PlanOp.insert content status =>
      status != .active || s.store.plans.all fun p =>
        p.slot != TestPlan.slot ⟨s.store.nextId, content, status⟩ || p.status != .active
    | _ => true

/-- A call leaves what the others have pending alone, and keeps every plan with its content. -/
def deskContract : Contract planDesk where
  guard := orderly
  known _ := True
  inv := Calm
  guar u s s' := (∀ w, u ≠ some w → s'.pending w = s.pending w) ∧ ∀ plan, Stored plan s → Stored plan s'

theorem stored_setStatus {s s' : PlanState} {m : TestPlan → Bool} {status : PlanStatus}
    (set : s'.store = s.store.setStatus m status) {plan : TestPlan} (stored : Stored plan s) : Stored plan s' := by
  obtain ⟨p, mem, id, content⟩ := stored
  rw [Stored, set]
  cases hit : m p with
  | true => exact ⟨{ p with status := status }, mem_setStatus.mpr (.inl ⟨p, mem, hit, rfl⟩), id, content⟩
  | false => exact ⟨p, mem_setStatus.mpr (.inr ⟨mem, hit⟩), id, content⟩

variable (t : ℕ)

theorem anything_stable : deskContract.Stable t fun _ => True := fun _ _ _ _ _ _ _ _ _ _ => trivial

theorem stored_stable (plan : TestPlan) : deskContract.Stable t (Stored plan) :=
  fun _ _ _ _ _ _ _ _ guar stored => guar.2 plan stored

theorem pending_stable (plan : TestPlan) : deskContract.Stable t fun s => s.pending t = some plan :=
  fun _ other _ _ _ _ _ _ guar pending => (guar.1 t other).trans pending

/-- A plan that was found is stored. -/
theorem find_safe (id : ℕ) : deskContract.Safe t (fun _ => True) (perform (.find id))
    (fun found s => ∀ plan, found = some plan → Stored plan s) (fun _ _ => True) := by
  refine Contract.Safe.perform_ok (fun found => Contract.Stable.all fun plan =>
    Contract.Stable.imp (stored_stable t plan)) ?_
  intro s i r s' _ inv _ _ exec _
  cases exec
  refine ⟨inv, ⟨fun _ _ => rfl, fun _ stored => stored⟩, fun found same plan here => ?_⟩
  rw [← Except.ok.inj same] at here
  exact ⟨plan, lookup_mem here, rfl, rfl⟩

theorem latest_safe (projectId name : String) : deskContract.Safe t (fun _ => True) (perform (.latest projectId name))
    (fun _ _ => True) (fun _ _ => True) := by
  refine Contract.Safe.perform_ok (fun _ => anything_stable t) ?_
  intro s i r s' _ inv _ _ exec _
  cases exec
  exact ⟨inv, ⟨fun _ _ => rfl, fun _ stored => stored⟩, fun _ _ => trivial⟩

theorem insert_safe (content : PlanContent) (status : PlanStatus) :
    deskContract.Safe t (fun _ => True) (perform (.insert content status)) (fun _ _ => True) (fun _ _ => True) := by
  refine Contract.Safe.perform_ok (fun _ => anything_stable t) ?_
  intro s i r s' _ inv _ admitted exec _
  simp only [planDesk, execPlan] at exec
  split at exec
  · cases exec
    exact ⟨inv, ⟨fun _ _ => rfl, fun _ stored => stored⟩, fun _ _ => trivial⟩
  · cases exec
    refine ⟨inv.insert fun active p mem slot busy => ?_, ⟨fun _ _ => rfl, ?_⟩, fun _ _ => trivial⟩
    · rcases Bool.or_eq_true_iff.mp admitted with inactive | alone
      · exact absurd active (bne_iff_ne.mp inactive)
      · rcases Bool.or_eq_true_iff.mp (List.all_eq_true.mp alone p mem) with other | rest
        · exact absurd slot (bne_iff_ne.mp other)
        · exact absurd busy (bne_iff_ne.mp rest)
    · rintro plan ⟨p, mem, its⟩
      exact ⟨p, List.mem_append_left _ mem, its⟩

theorem archiveActive_safe (plan : TestPlan) :
    deskContract.Safe t (Stored plan) (perform (.archiveActive plan))
      (fun _ s => s.pending t = some plan ∧ Stored plan s) (fun _ _ => True) := by
  refine Contract.Safe.perform_ok (fun _ => (pending_stable t plan).and (stored_stable t plan)) ?_
  intro s i r s' _ inv stored admitted exec _
  cases exec
  have own : s.store.plans.any (crosses plan) = false := Bool.not_eq_true' _ |>.mp admitted
  refine ⟨inv.archive own, ⟨fun w other => ?_, fun _ => stored_setStatus rfl⟩, fun _ _ => ⟨?_, stored_setStatus rfl stored⟩⟩
  · exact Function.update_of_ne (fun same => other (congrArg some same.symm)) ..
  · exact Function.update_self ..

theorem saveActive_safe (plan : TestPlan) :
    deskContract.Safe t (fun s => s.pending t = some plan ∧ Stored plan s) (perform (.saveActive plan))
      (fun _ _ => True) (fun _ _ => True) := by
  refine Contract.Safe.perform_ok (fun _ => anything_stable t) ?_
  rintro s i r s' - inv ⟨pending, stored⟩ admitted exec -
  cases exec
  have free : s.overtaken t = false := Bool.not_eq_true' _ |>.mp (Bool.and_eq_true_iff.mp admitted).1
  refine ⟨inv.activate pending free stored, ⟨fun w other => ?_, fun _ => stored_setStatus rfl⟩, fun _ _ => trivial⟩
  exact Function.update_of_ne (fun same => other (congrArg some same.symm)) ..

theorem saveArchived_safe (plan : TestPlan) :
    deskContract.Safe t (fun _ => True) (perform (.saveArchived plan)) (fun _ _ => True) (fun _ _ => True) := by
  refine Contract.Safe.perform_ok (fun _ => anything_stable t) ?_
  intro s i r s' _ inv _ _ exec _
  cases exec
  exact ⟨inv.setArchived _, ⟨fun _ _ => rfl, fun _ => stored_setStatus rfl⟩, fun _ _ => trivial⟩

theorem activatePlan_safe (id : ℕ) :
    deskContract.Safe t (fun _ => True) (activatePlan id) (fun _ _ => True) (fun _ _ => True) := by
  refine Contract.Safe.bind (find_safe t id) fun found => ?_
  cases found with
  | none => exact Contract.Safe.raise fun _ _ _ _ => trivial
  | some plan =>
    have code : deskContract.Safe t (fun s => ∀ p, some plan = some p → Stored p s)
        (if plan.status ≠ .draft then
          .raise (.valueError ("plan " ++ toString id ++ " is " ++ statusText plan.status ++
            ", only draft can be activated"))
        else do
          perform (.archiveActive plan)
          perform (.saveActive plan)) (fun _ _ => True) (fun _ _ => True) := by
      by_cases other : plan.status ≠ .draft
      · rw [if_pos other]
        exact Contract.Safe.raise fun _ _ _ _ => trivial
      · rw [if_neg other]
        exact Contract.Safe.bind ((archiveActive_safe t plan).pre fun _ _ _ now => now plan rfl) fun _ =>
          saveActive_safe t plan
    exact code

theorem archivePlan_safe (id : ℕ) :
    deskContract.Safe t (fun _ => True) (archivePlan id) (fun _ _ => True) (fun _ _ => True) := by
  refine Contract.Safe.bind (find_safe t id) fun found => ?_
  cases found with
  | none => exact Contract.Safe.raise fun _ _ _ _ => trivial
  | some plan => exact (saveArchived_safe t plan).pre fun _ _ _ _ => trivial

theorem createNextVersion_safe (id : ℕ) (createdBy : Option String) (overrides : PlanOverrides) :
    deskContract.Safe t (fun _ => True) (createNextVersion id createdBy overrides) (fun _ _ => True) (fun _ _ => True) := by
  refine Contract.Safe.bind (find_safe t id) fun found => ?_
  cases found with
  | none => exact Contract.Safe.raise fun _ _ _ _ => trivial
  | some plan =>
    refine Contract.Safe.bind ((latest_safe t _ _).pre fun _ _ _ _ => trivial) fun latest => ?_
    exact insert_safe t _ _

/-- **The contract holds** of every call. -/
theorem deskContract_holds : deskContract.Holds where
  waits := anything_stable
  start t call s p s' _ inv _ _ code _ := by
    cases code
    refine ⟨inv, ⟨fun _ _ => rfl, fun _ stored => stored⟩, _, anything_stable t, trivial, ?_⟩
    cases call with
    | create content => exact insert_safe t _ _
    | next id createdBy overrides => exact createNextVersion_safe t id createdBy overrides
    | activate id => exact activatePlan_safe t id
    | archive id => exact archivePlan_safe t id
  environment _ _ _ _ _ change := nomatch change

/-! ## The protocol -/

/-- A stored plan has this id and this content, and is archived where this one is. -/
def Follows (p : TestPlan) (s : PlanState) : Prop :=
  ∃ q ∈ s.store.plans, q.id = p.id ∧ q.content = p.content ∧ (p.status = .archived → q.status = .archived)

theorem follows_step {t : ℕ} {o : PlanOp} {call : PlanCall} {s s' : PlanState} {r : Except PyError o.Ret}
    {p : TestPlan} (admitted : orderly.op t o call s = true) (exec : planDesk.exec t o call s = some (r, s'))
    (h : Follows p s) : Follows p s' := by
  obtain ⟨q, mem, id, content, archived⟩ := h
  cases o with
  | find | latest =>
    cases exec
    exact ⟨q, mem, id, content, archived⟩
  | insert c status =>
    simp only [planDesk, execPlan] at exec
    split at exec
    · cases exec
      exact ⟨q, mem, id, content, archived⟩
    · cases exec
      exact ⟨q, List.mem_append_left _ mem, id, content, archived⟩
  | archiveActive plan =>
    cases exec
    cases hit : archives plan q with
    | true => exact ⟨_, mem_setStatus.mpr (.inl ⟨q, mem, hit, rfl⟩), id, content, fun _ => rfl⟩
    | false => exact ⟨q, mem_setStatus.mpr (.inr ⟨mem, hit⟩), id, content, archived⟩
  | saveActive plan =>
    cases exec
    cases hit : q.id == plan.id with
    | true =>
      refine ⟨_, mem_setStatus.mpr (.inl ⟨q, mem, hit, rfl⟩), id, content, fun wasArchived => ?_⟩
      -- the guard saves no plan that is archived
      rcases Bool.or_eq_true_iff.mp (List.all_eq_true.mp (Bool.and_eq_true_iff.mp admitted).2 q mem) with other | live
      · exact absurd (beq_iff_eq.mp hit) (bne_iff_ne.mp other)
      · exact absurd (archived wasArchived) (bne_iff_ne.mp live)
    | false => exact ⟨q, mem_setStatus.mpr (.inr ⟨mem, hit⟩), id, content, archived⟩
  | saveArchived plan =>
    cases exec
    cases hit : q.id == plan.id with
    | true => exact ⟨_, mem_setStatus.mpr (.inl ⟨q, mem, hit, rfl⟩), id, content, fun _ => rfl⟩
    | false => exact ⟨q, mem_setStatus.mpr (.inr ⟨mem, hit⟩), id, content, archived⟩

theorem follows_of_run {c d : Config planDesk} (run : Run orderly c d) {p : TestPlan} (h : Follows p c.state) :
    Follows p d.state := by
  induction run with
  | refl => exact h
  | tail _ admitted taken ih =>
    cases Config.next_cases taken with
    | start _ code =>
      cases code
      exact ih
    | step code exec => exact follows_step (by simpa [Guard.admits, code] using admitted) exec ih
    | environment change => cases change

/-- What holds between two states of a run: at most one active plan of a slot, no activation that archived an
active plan of another environment, archived plans that stay archived, and the same contents. -/
structure PlanProtocol (c d : Config planDesk) : Prop where
  one : OneActivePlan d.state.store
  environments : d.state.crossed = false
  archived : ∀ p ∈ c.state.store.plans, p.status = .archived → ∀ q ∈ d.state.store.plans, q.id = p.id →
    q.status = .archived
  contents : ∀ p ∈ c.state.store.plans, ∃ q ∈ d.state.store.plans, q.id = p.id ∧ planPayload q.content = planPayload p.content

/-- **Test plans.** The protocol holds in every orderly run. -/
theorem plan_protocol (store : PlanStore) (one : OneActivePlan store) (c d : Config planDesk)
    (reached : Run orderly (startPlans store) c) (run : Run orderly c d) : PlanProtocol c d := by
  have start : deskContract.Sound (startPlans store) :=
    Contract.Sound.initial ⟨one, fun _ _ waiting => (nomatch waiting), rfl⟩ fun _ => trivial
  have sound := Contract.sound deskContract_holds (fun _ _ => trivial) start (reached.trans run)
  refine ⟨sound.inv.one, sound.inv.crossed, fun p mem archived q memQ same => ?_, fun p mem => ?_⟩
  · obtain ⟨q', memQ', id, -, stays⟩ := follows_of_run run ⟨p, mem, rfl, rfl, fun h => h⟩
    have eq : q = q' := d.state.store.distinct.eq_of_key memQ memQ' (same.trans id.symm)
    rw [eq]
    exact stays archived
  · obtain ⟨q, memQ, id, content, -⟩ := follows_of_run run ⟨p, mem, rfl, rfl, fun h => h⟩
    exact ⟨q, memQ, id, congrArg planPayload content⟩

/-! ## Two activations at once -/

def smokePlan (version : ℕ) : TestPlan where
  id := version
  content := { name := "Smoke", projectId := "shop", checkType := "snapshot_batch", envId := some "test", version := version }

/-- Two drafts of one name. -/
def smokePlans : PlanStore where
  plans := [smokePlan 0, smokePlan 1]
  nextId := 2
  below := by
    intro p mem
    rcases List.mem_pair.mp mem with rfl | rfl <;> decide
  distinct := by decide

theorem smokePlans_one : OneActivePlan smokePlans := by
  intro p mem q _ active
  have drafts : ∀ p ∈ smokePlans.plans, p.status = .draft := by decide
  rw [drafts p mem] at active
  cases active

def beginActivation (t id : ℕ) : Label planDesk := .start t (.activate id)

/-- Steps of an activation. -/
def activating (t n : ℕ) : List (Label planDesk) := List.replicate n (.step t (.activate t))

/-- The second draft is activated between the archiving update of the first one and its save. -/
def together : List (Label planDesk) :=
  beginActivation 0 0 :: activating 0 2 ++ beginActivation 1 1 :: activating 1 3 ++ activating 0 1

/-- Both drafts end active. -/
theorem plan_protocol_fails : ¬∀ store, OneActivePlan store → ∀ c d : Config planDesk,
    Run (Guard.free planDesk) (startPlans store) c → Run (Guard.free planDesk) c d → PlanProtocol c d := by
  intro protocol
  let P (d : Config planDesk) : Bool :=
    d.state.store.plans == [{ smokePlan 0 with status := .active }, { smokePlan 1 with status := .active }]
  have follows : ((startPlans smokePlans).follow (Guard.free planDesk) together).any P = true := by
    decide +kernel
  obtain ⟨d, found, both⟩ := Option.any_eq_true _ _ |>.mp follows
  have plans := beq_iff_eq.mp both
  have one := (protocol smokePlans smokePlans_one _ d .refl (.of_follow found)).one
  rw [OneActivePlan, plans] at one
  exact absurd (one _ (.head _) _ (.tail _ (.head _)) rfl rfl rfl) (by decide)

/-- Activating one draft after the other. -/
theorem plan_protocol_replaces : ∃ d : Config planDesk,
    d.state.store.plans.map (·.status) = [.archived, .active] ∧ PlanProtocol (startPlans smokePlans) d := by
  let P (d : Config planDesk) : Bool := d.state.store.plans.map (·.status) = [.archived, .active]
  obtain ⟨d, run, shown⟩ := Run.exists_of_follow (P := P)
    (show ((startPlans smokePlans).follow orderly
      (beginActivation 0 0 :: activating 0 3 ++ beginActivation 1 1 :: activating 1 3)).any P = true by
      decide +kernel)
  exact ⟨d, by simpa [P] using shown, plan_protocol smokePlans smokePlans_one _ d .refl run⟩

end ApiManger.Plans
