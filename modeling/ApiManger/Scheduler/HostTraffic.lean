import ApiManger.Scheduler.HostPermits
import ApiManger.Scheduler.HostRuns

/-!
# Permits and stops over whole runs

What holds of the permits and of the stop state of a host however the critical sections
of its threads come after each other: the slots of a semaphore are accounted for by those
who hold one, every call gives back what it took, and a host that was stopped stays so.
-/

namespace ApiManger.Scheduler
open Python Store Execution Collection

variable {policy : ExecutionPolicy} {c c' : Coordinator} {call call' : Acquire} {host : String}

/-! ## Coordinators -/

namespace Coordinator

/-- The free slots of a semaphore; all of them before it is made. -/
def free (policy : ExecutionPolicy) (c : Coordinator) (host : String) : Nat :=
  (c.semaphores host).getD policy.perHostWorkers.toNat

/-- What `_state` says of every host. -/
def state (c : Coordinator) (host : String) : HostState := hostStateOf c.hosts host

theorem stoppedReason_eq (c : Coordinator) (host : String) : c.stoppedReason host = (c.state host).stoppedReason :=
  rfl

@[simp] theorem enter_state (c : Coordinator) (host k : String) : (c.enter host).state k = c.state k :=
  hostStateOf_entered c.hosts host k

@[simp] theorem setSemaphore_state (c : Coordinator) (host k : String) (n : Nat) :
    (c.setSemaphore host n).state k = c.state k := rfl

@[simp] theorem withSemaphore_state (c : Coordinator) (host k : String) :
    (c.withSemaphore policy host).state k = c.state k := rfl

theorem setSemaphore_free (c : Coordinator) (host k : String) (n : Nat) :
    (c.setSemaphore host n).free policy k = if k = host then n else c.free policy k := by
  simp only [free, setSemaphore, Function.update_apply]
  split <;> rfl

/-- A semaphore that is made has the slots it was said to have. -/
@[simp] theorem withSemaphore_free (c : Coordinator) (host k : String) :
    (c.withSemaphore policy host).free policy k = c.free policy k := by
  simp only [free, withSemaphore, Function.update_apply]
  split
  · next same => rw [same, Option.getD_some]
  · rfl

/-- A slot is given back, or all were free. -/
theorem releaseSemaphore_cases (policy : ExecutionPolicy) (c : Coordinator) (host : String) :
    (c.free policy host < policy.perHostWorkers.toNat ∧
        c.releaseSemaphore policy host = .ok (c.setSemaphore host (c.free policy host + 1))) ∨
      (policy.perHostWorkers.toNat ≤ c.free policy host ∧ ∃ e, c.releaseSemaphore policy host = .error e) := by
  by_cases slot : c.free policy host < policy.perHostWorkers.toNat
  · exact .inl ⟨slot, if_pos slot⟩
  · exact .inr ⟨Nat.le_of_not_lt slot, _, if_neg slot⟩

theorem recordOutcome_state (c : Coordinator) (host : String) (evidence : Dict) (k : String) :
    (c.recordOutcome policy host evidence).state k =
      if hostKey host = k then recordEach policy (c.state k) evidence else c.state k := by
  have hosts : (c.recordOutcome policy host evidence).hosts =
      putHostState c.hosts (recordEach policy (hostStateOf c.hosts (hostKey host)) evidence) := by
    rw [← recordHostOutcome_hosts]
    unfold recordOutcome enter
    cases recordHostOutcome policy c.hosts host evidence <;> rfl
  unfold state
  rw [hosts, hostStateOf_put, recordEach_host, hostStateOf_host]
  split
  · next same => rw [same]
  · rfl

theorem recordOutcome_free (c : Coordinator) (host : String) (evidence : Dict) (k : String) :
    (c.recordOutcome policy host evidence).free policy k = c.free policy k := by
  unfold recordOutcome
  cases recordHostOutcome policy c.hosts host evidence <;> rfl

theorem named_enter (named : Named c.hosts) (keyed : hostKey host = host) : Named (c.enter host).hosts := by
  refine named.put ?_
  rw [hostStateOf_host]
  exact keyed

theorem named_recordOutcome (named : Named c.hosts) (host : String) (evidence : Dict) :
    Named (c.recordOutcome policy host evidence).hosts := by
  unfold recordOutcome recordHostOutcome
  cases count : countOutcome policy (hostStateOf c.hosts (hostKey host)) evidence with
  | ok h =>
    refine named.put ?_
    rw [countOutcome_host count, hostStateOf_host, hostKey_hostKey]
  | error e => exact named_enter named (hostKey_hostKey host)

/-- A restored coordinator has the stop states of the one the snapshot is of. -/
theorem restore_state (named : Named c.hosts) (k : String) : (restore c.snapshot).state k = c.state k :=
  hostStateOf_restore named (sortedBy_perm _ _) k

end Coordinator

/-! ## Moves of a call -/

/-- Whether a call is between taking its slot and its return. -/
def Stage.inside : Stage → Bool
  | .held | .pacing _ | .paced | .checked _ => true
  | _ => false

/-- Whether a slot is taken on behalf of a call. -/
def Stage.holds : Stage → Bool
  | .done .granted => true
  | stage => stage.inside

/-- What one move of a call can do. -/
inductive Moves (policy : ExecutionPolicy) (c : Coordinator) (call : Acquire) : Coordinator → Acquire → Prop where
  | stays : Moves policy c call c call
  | stops (at_ : call.stage = .waiting) :
      Moves policy c call c { call with stage := .done (.refused "execution_stopping") }
  | takes (n : Nat) (at_ : call.stage = .waiting) (slot : c.free policy call.host = n + 1) :
      Moves policy c call (c.setSemaphore call.host n) { call with stage := .held, taken := call.taken + 1 }
  | starts (next : String → ℚ) (startAt : ℚ) (at_ : call.stage = .held) (goesOn : c.stoppedReason call.host = "") :
      Moves policy c call { c.enter call.host with nextAllowed := next } { call with stage := .pacing startAt }
  | proceeds (startAt : ℚ) (at_ : call.stage = .pacing startAt) :
      Moves policy c call c { call with stage := .paced }
  | checks (at_ : call.stage = .paced) :
      Moves policy c call (c.enter call.host) { call with stage := .checked (c.stoppedReason call.host) }
  | grants (at_ : call.stage = .checked "") : Moves policy c call c { call with stage := .done .granted }
  | returns (entered : Coordinator) (reason : String) (at_ : call.stage.inside = true)
      (same : entered = c ∨ entered = c.enter call.host) :
      Moves policy c call (entered.setSemaphore call.host (c.free policy call.host + 1))
        { call with stage := .done (.refused reason), released := call.released + 1 }
  | raises (entered : Coordinator) (e : PyError) (at_ : call.stage.inside = true)
      (same : entered = c ∨ entered = c.enter call.host)
      (full : policy.perHostWorkers.toNat ≤ c.free policy call.host) :
      Moves policy c call entered { call with stage := .done (.raised e) }

/-- A call gives up with its slot given back, or raises where all slots are free. -/
theorem giveUp_moves {entered : Coordinator} {reason : String} (inside : call.stage.inside = true)
    (same : entered = c ∨ entered = c.enter call.host)
    (gaveUp : call.giveUp policy entered reason = (c', call')) : Moves policy c call c' call' := by
  have slots : entered.free policy call.host = c.free policy call.host := by
    rcases same with rfl | rfl <;> rfl
  unfold Acquire.giveUp at gaveUp
  rcases Coordinator.releaseSemaphore_cases policy entered call.host with ⟨-, released⟩ | ⟨full, e, raised⟩
  · rw [released, slots] at gaveUp
    obtain ⟨rfl, rfl⟩ := Prod.mk.inj gaveUp
    exact .returns entered reason inside same
  · rw [raised] at gaveUp
    obtain ⟨rfl, rfl⟩ := Prod.mk.inj gaveUp
    exact .raises entered e inside same (slots ▸ full)

theorem move_moves {m : Move} (moved : call.move policy c m = some (c', call')) :
    Moves policy c call c' call' := by
  have stopped (host : String) : (c.enter host).stoppedReason host = c.stoppedReason host := by
    rw [Coordinator.stoppedReason_eq, Coordinator.enter_state, Coordinator.stoppedReason_eq]
  unfold Acquire.move at moved
  split at moved
  · next abort at_ =>
    split at moved
    · obtain ⟨rfl, rfl⟩ := Prod.mk.inj (Option.some.inj moved)
      exact .stops at_
    · split at moved
      · next n slot =>
        obtain ⟨rfl, rfl⟩ := Prod.mk.inj (Option.some.inj moved)
        exact .takes n at_ (by rw [Coordinator.free, slot, Option.getD_some])
      · obtain ⟨rfl, rfl⟩ := Prod.mk.inj (Option.some.inj moved)
        exact .stays
  · next now at_ =>
    dsimp only at moved
    split at moved
    · exact giveUp_moves (by rw [at_]; rfl) (.inr rfl) (Option.some.inj moved)
    · next goesOn =>
      obtain ⟨rfl, rfl⟩ := Prod.mk.inj (Option.some.inj moved)
      exact .starts _ _ at_ (by simpa [stopped] using goesOn)
  · next now abort startAt at_ =>
    split at moved
    · split at moved
      · exact giveUp_moves (by rw [at_]; rfl) (.inl rfl) (Option.some.inj moved)
      · obtain ⟨rfl, rfl⟩ := Prod.mk.inj (Option.some.inj moved)
        exact .stays
    · obtain ⟨rfl, rfl⟩ := Prod.mk.inj (Option.some.inj moved)
      exact .proceeds startAt at_
  · next at_ =>
    dsimp only at moved
    rw [stopped] at moved
    obtain ⟨rfl, rfl⟩ := Prod.mk.inj (Option.some.inj moved)
    exact .checks at_
  · next abort reason at_ =>
    split at moved
    · exact giveUp_moves (by rw [at_]; rfl) (.inl rfl) (Option.some.inj moved)
    · next granted =>
      obtain ⟨rfl, rfl⟩ := Prod.mk.inj (Option.some.inj moved)
      have none_ : reason = "" := by
        by_contra is
        simp [is] at granted
      exact .grants (none_ ▸ at_)
  · cases moved

namespace Moves

variable (moves : Moves policy c call c' call')
include moves

theorem place : call'.coordinator = call.coordinator ∧ call'.host = call.host := by
  cases moves <;> exact ⟨rfl, rfl⟩

/-- A finished call makes no more moves. -/
theorem finished {answer : Answer} (at_ : call.stage = .done answer) : call' = call := by
  cases moves with
  | stays => rfl
  | returns _ _ inside | raises _ _ inside =>
    rw [at_] at inside
    cases answer <;> cases inside
  | _ => simp_all

/-- A move changes no stop state. -/
theorem state (k : String) : c'.state k = c.state k := by
  cases moves with
  | starts next startAt at_ goesOn => exact Coordinator.enter_state c call.host k
  | checks at_ => exact Coordinator.enter_state c call.host k
  | returns entered reason at_ same =>
    rw [Coordinator.setSemaphore_state]
    rcases same with rfl | rfl
    · rfl
    · exact Coordinator.enter_state c call.host k
  | raises entered e at_ same full =>
    rcases same with rfl | rfl
    · rfl
    · exact Coordinator.enter_state c call.host k
  | _ => rfl

theorem named (named : Named c.hosts) (keyed : hostKey call.host = call.host) : Named c'.hosts := by
  have entered := Coordinator.named_enter named keyed
  cases moves with
  | starts next startAt at_ goesOn => exact entered
  | checks at_ => exact entered
  | returns c₁ reason at_ same => rcases same with rfl | rfl <;> assumption
  | raises c₁ e at_ same full => rcases same with rfl | rfl <;> assumption
  | _ => exact named

/-- The slots of the other hosts stay as they are. -/
theorem free_ne {k : String} (other : k ≠ call.host) : c'.free policy k = c.free policy k := by
  cases moves with
  | takes n at_ slot => rw [Coordinator.setSemaphore_free, if_neg other]
  | returns entered reason at_ same =>
    rw [Coordinator.setSemaphore_free, if_neg other]
    rcases same with rfl | rfl <;> rfl
  | raises entered e at_ same full => rcases same with rfl | rfl <;> rfl
  | _ => rfl

/-- What a call holds more, the semaphore has less. -/
theorem free_le : c'.free policy call.host + call'.stage.holds.toNat ≤
    c.free policy call.host + call.stage.holds.toNat := by
  have holds (inside : call.stage.inside = true) : call.stage.holds.toNat = 1 := by
    cases at_ : call.stage with
    | done answer => cases answer <;> rw [at_] at inside <;> cases inside
    | waiting => rw [at_] at inside; cases inside
    | _ => rfl
  cases moves with
  | stays => exact Nat.le_refl _
  | stops at_ => exact Nat.le_add_right _ _
  | takes n at_ slot =>
    rw [Coordinator.setSemaphore_free, if_pos rfl, slot]
    exact Nat.le_add_right _ _
  | starts next startAt at_ goesOn => rw [holds (by rw [at_]; rfl)]; exact Nat.le_refl _
  | proceeds startAt at_ => rw [holds (by rw [at_]; rfl)]; exact Nat.le_refl _
  | checks at_ => rw [holds (by rw [at_]; rfl)]; exact Nat.le_refl _
  | grants at_ => rw [holds (by rw [at_]; rfl)]; exact Nat.le_refl _
  | returns entered reason at_ same =>
    rw [Coordinator.setSemaphore_free, if_pos rfl, holds at_]
    exact Nat.le_refl _
  | raises entered e at_ same full => rcases same with rfl | rfl <;> exact Nat.le_add_right _ _

end Moves

/-- Whether a call has no permit and no place in the pacing of its host. -/
def Stage.barred : Stage → Bool
  | .waiting | .held | .done (.refused _) | .done (.raised _) => true
  | _ => false

/-- Where the host is stopped, a call gets no further than to its slot. -/
theorem Moves.barred (moves : Moves policy c call c' call') (stopped : c.stoppedReason call.host ≠ "")
    (before : call.stage.barred = true) : call'.stage.barred = true := by
  cases moves with
  | stays => exact before
  | starts next startAt at_ goesOn => exact absurd goesOn stopped
  | proceeds startAt at_ => rw [at_] at before; cases before
  | checks at_ => rw [at_] at before; cases before
  | grants at_ => rw [at_] at before; cases before
  | _ => rfl

/-! ## Calls -/

/-- How often a call took and released its semaphore, by where it stands. -/
structure Acquire.Settled (call : Acquire) : Prop where
  keyed : hostKey call.host = call.host
  waiting : call.stage = .waiting → call.taken = 0 ∧ call.released = 0
  holding : call.stage.holds = true → call.taken = 1 ∧ call.released = 0
  refused : ∀ reason, call.stage = .done (.refused reason) → call.released = call.taken

theorem Moves.settled (moves : Moves policy c call c' call') (settled : call.Settled) : call'.Settled := by
  have ⟨keyed, waiting, holding, refused⟩ := settled
  have held (inside : call.stage.inside = true) : call.taken = 1 ∧ call.released = 0 := by
    refine holding ?_
    unfold Stage.holds
    split <;> trivial
  cases moves with
  | stays => exact settled
  | stops at_ =>
    have ⟨taken, released⟩ := waiting at_
    exact ⟨keyed, nofun, nofun, fun _ _ => released.trans taken.symm⟩
  | takes n at_ slot =>
    have ⟨taken, released⟩ := waiting at_
    exact ⟨keyed, nofun, fun _ => ⟨congrArg (· + 1) taken, released⟩, nofun⟩
  | starts next startAt at_ goesOn => exact ⟨keyed, nofun, fun _ => held (by rw [at_]; rfl), nofun⟩
  | proceeds startAt at_ => exact ⟨keyed, nofun, fun _ => held (by rw [at_]; rfl), nofun⟩
  | checks at_ => exact ⟨keyed, nofun, fun _ => held (by rw [at_]; rfl), nofun⟩
  | grants at_ => exact ⟨keyed, nofun, fun _ => held (by rw [at_]; rfl), nofun⟩
  | returns entered reason at_ same =>
    have ⟨taken, released⟩ := held at_
    exact ⟨keyed, nofun, nofun, fun _ _ => by simp only [taken, released]⟩
  | raises entered e at_ same full => exact ⟨keyed, nofun, nofun, nofun⟩

/-! ## Runs -/

namespace Traffic

/-- Whether a slot of the host is taken on behalf of a call. -/
def isHolding (k : Nat) (host : String) (call : Acquire) : Bool :=
  call.coordinator == k && call.host == host && call.stage.holds

/-- How many slots of a host are taken on behalf of calls. -/
def holding (w : Traffic) (k : Nat) (host : String) : Nat := w.calls.countP (isHolding k host)

def free (policy : ExecutionPolicy) (w : Traffic) (k : Nat) (host : String) : Nat :=
  (w.coordinators k).free policy host

variable {call : Acquire} {c : Coordinator}

theorem isHolding_of_isGranted {k : Nat} {host : String} (granted : isGranted k host call = true) :
    isHolding k host call = true := by
  simp only [isGranted, isHolding, Bool.and_eq_true, beq_iff_eq] at granted ⊢
  exact ⟨granted.1, by rw [granted.2]; rfl⟩

theorem granted_le_holding (w : Traffic) (k : Nat) (host : String) : w.granted k host ≤ w.holding k host :=
  List.countP_mono_left fun _ _ => isHolding_of_isGranted

/-- What is kept by every step, whoever makes it. -/
structure Kept (policy : ExecutionPolicy) (w : Traffic) : Prop where
  named : ∀ k, Named (w.coordinators k).hosts
  calls : ∀ call ∈ w.calls, call.Settled ∧ call.coordinator ≤ w.current
  slots : ∀ k host, w.free policy k host + w.holding k host ≤ policy.perHostWorkers.toNat + w.returned k host
  excess : ∀ k host, w.returned k host ≤ w.granted k host + w.excess k host
  raised : ∀ call ∈ w.calls, ∀ e, call.stage = .done (.raised e) → 0 < w.excess call.coordinator call.host
  states : ∀ host, w.now.state host = foldOutcomes policy host (w.recorded host)

theorem Kept.initial (policy : ExecutionPolicy) : Kept policy {} where
  named _ := .nil
  calls := nofun
  slots _ _ := Nat.le_refl _
  excess _ _ := Nat.le_refl _
  raised := nofun
  states _ := rfl

variable {w w' : Traffic} {i : Nat} {k : Nat}

@[simp] theorem setCoordinator_same (w : Traffic) (k : Nat) (c : Coordinator) :
    (w.setCoordinator k c).coordinators k = c := Function.update_self ..

theorem setCoordinator_other (w : Traffic) {k j : Nat} (c : Coordinator) (other : j ≠ k) :
    (w.setCoordinator k c).coordinators j = w.coordinators j := Function.update_of_ne other ..

/-- What holds of all coordinators still does after one of them was changed into one it holds of. -/
theorem setCoordinator_all {P : Nat → Coordinator → Prop} {w : Traffic}
    (all : ∀ j, P j (w.coordinators j)) (is : P k c) (j : Nat) : P j ((w.setCoordinator k c).coordinators j) := by
  by_cases same : j = k
  · rw [same, setCoordinator_same]
    exact is
  · rw [setCoordinator_other w c same]
    exact all j

/-- The current coordinator after a change that keeps the stop states. -/
theorem setCoordinator_state {w : Traffic} {k : Nat}
    (same : ∀ host, c.state host = (w.coordinators k).state host) (j : Nat) (host : String) :
    ((w.setCoordinator k c).coordinators j).state host = (w.coordinators j).state host := by
  by_cases here : j = k
  · rw [here, setCoordinator_same, same]
  · rw [setCoordinator_other w c here]

theorem setCoordinator_free {w : Traffic} {k : Nat}
    (same : ∀ host, c.free policy host = (w.coordinators k).free policy host) (j : Nat) (host : String) :
    ((w.setCoordinator k c).coordinators j).free policy host = w.free policy j host := by
  by_cases here : j = k
  · rw [here, setCoordinator_same, same]
    rfl
  · rw [setCoordinator_other w c here]
    rfl

/-- A begun call holds no slot and changes none. -/
theorem Kept.acquire (valid : validatePolicy policy = .ok ()) (kept : w.Kept policy) (host : String) :
    (w.acquire policy host).Kept policy := by
  have workers : ¬ policy.perHostWorkers < 0 := by
    have checks := requireAll_ok.mp valid
    simp only [List.forall_mem_cons, between, Bool.and_eq_true, decide_eq_true_eq] at checks
    omega
  rw [Traffic.acquire, if_neg workers]
  refine ⟨?_, ?_, fun k k' => ?_, fun k k' => ?_, ?_, fun k => ?_⟩
  · exact setCoordinator_all (P := fun _ c => Named c.hosts) kept.named (kept.named w.current)
  · intro call mem
    rcases List.mem_append.mp mem with old | new
    · exact kept.calls call old
    · rw [List.mem_singleton.mp new]
      refine ⟨⟨hostKey_hostKey host, fun _ => ⟨rfl, rfl⟩, fun never => ?_, fun _ _ => rfl⟩, Nat.le_refl _⟩
      cases never
  · have held : (w.calls ++ [({ coordinator := w.current, host := hostKey host } : Acquire)]).countP
        (isHolding k k') = w.holding k k' := by
      simp [holding, List.countP_append, isHolding, Stage.holds, Stage.inside]
    have slots := kept.slots k k'
    rw [← setCoordinator_free (fun _ => Coordinator.withSemaphore_free _ _ _) k k', ← held] at slots
    exact slots
  · simpa [granted, List.countP_append, isGranted, setCoordinator] using kept.excess k k'
  · intro call mem e raised
    rcases List.mem_append.mp mem with old | new
    · exact kept.raised call old e raised
    · rw [List.mem_singleton.mp new] at raised
      cases raised
  · exact (setCoordinator_state (fun _ => Coordinator.withSemaphore_state _ _ _) w.current k).trans (kept.states k)

/-- A change of one call changes what is counted of its host at its coordinator. -/
theorem countP_set_call {calls : List Acquire} (call' : Acquire) (at_ : calls[i]? = some call)
    (p : Acquire → Bool) : (calls.set i call').countP p + (p call).toNat = calls.countP p + (p call').toNat := by
  obtain ⟨bound, is⟩ := List.getElem?_eq_some_iff.mp at_
  have counted : (p call).toNat ≤ calls.countP p := by
    cases holds : p call with
    | false => exact Nat.zero_le _
    | true => exact List.countP_pos_iff.mpr ⟨call, List.mem_of_getElem? at_, holds⟩
  rw [List.countP_set bound, is]
  cases before : p call <;> cases after : p call' <;>
    simp only [before, Bool.toNat_true, Bool.toNat_false, if_true, Bool.false_eq_true, if_false] at counted ⊢ <;>
    omega

/-- A call that is inside holds a slot it has no permit for. -/
theorem granted_lt_holding (mem : call ∈ w.calls) (inside : call.stage.inside = true) :
    w.granted call.coordinator call.host < w.holding call.coordinator call.host := by
  obtain ⟨before, after, split⟩ := List.append_of_mem mem
  have holds : isHolding call.coordinator call.host call = true := by
    unfold isHolding Stage.holds
    rw [beq_self_eq_true, beq_self_eq_true]
    split <;> trivial
  have notGranted : isGranted call.coordinator call.host call = false := by
    cases at_ : call.stage with
    | done answer => rw [at_] at inside; cases answer <;> cases inside
    | _ => simp [isGranted, at_]
  have le (calls : List Acquire) : calls.countP (isGranted call.coordinator call.host) ≤
      calls.countP (isHolding call.coordinator call.host) :=
    List.countP_mono_left fun _ _ => isHolding_of_isGranted
  have := le before
  have := le after
  unfold granted holding
  rw [split, List.countP_append, List.countP_append, List.countP_cons_of_pos holds,
    List.countP_cons_of_neg (by rw [notGranted]; exact Bool.false_ne_true)]
  omega

/-- A move of a call leaves the slots in balance. -/
theorem Kept.slots_move (kept : w.Kept policy) {c' : Coordinator} {call' : Acquire}
    (at_ : w.calls[i]? = some call) (moves : Moves policy (w.coordinators call.coordinator) call c' call')
    (k : Nat) (host : String) : ((w.setCoordinator call.coordinator c').coordinators k).free policy host +
      (w.calls.set i call').countP (isHolding k host) ≤ policy.perHostWorkers.toNat + w.returned k host := by
  have before := kept.slots k host
  have counted := countP_set_call call' at_ (isHolding k host)
  have ⟨sameC, sameH⟩ := moves.place
  unfold free holding at before
  by_cases here : call.coordinator = k ∧ call.host = host
  · obtain ⟨rfl, rfl⟩ := here
    have slots := moves.free_le
    simp only [isHolding, sameC, sameH, beq_self_eq_true, Bool.true_and] at counted
    rw [setCoordinator_same]
    omega
  · have free : ((w.setCoordinator call.coordinator c').coordinators k).free policy host =
        (w.coordinators k).free policy host := by
      by_cases coordinator : k = call.coordinator
      · rw [coordinator, setCoordinator_same]
        exact moves.free_ne fun same => here ⟨coordinator.symm, same.symm⟩
      · rw [setCoordinator_other w c' coordinator]
    have elsewhere (other : Acquire) (sameC : other.coordinator = call.coordinator) (sameH : other.host = call.host) :
        isHolding k host other = false := by
      by_contra holds
      simp only [isHolding, sameC, sameH, Bool.not_eq_false, Bool.and_eq_true, beq_iff_eq] at holds
      exact here holds.1
    rw [elsewhere call rfl rfl, elsewhere call' sameC sameH] at counted
    omega

theorem Kept.move (kept : w.Kept policy) {c' : Coordinator} {call' : Acquire} (at_ : w.calls[i]? = some call)
    (moves : Moves policy (w.coordinators call.coordinator) call c' call') :
    Kept policy { w.setCoordinator call.coordinator c' with calls := w.calls.set i call' } := by
  have mem := List.mem_of_getElem? at_
  have ⟨settled, bound⟩ := kept.calls call mem
  have ⟨sameC, sameH⟩ := moves.place
  refine ⟨?_, ?_, kept.slots_move at_ moves, fun k host => ?_, ?_, fun host => ?_⟩
  · exact setCoordinator_all (P := fun _ c => Named c.hosts) kept.named (moves.named (kept.named _) settled.keyed)
  · intro other memOther
    rcases List.mem_or_eq_of_mem_set memOther with old | rfl
    · exact kept.calls other old
    · exact ⟨moves.settled settled, sameC ▸ bound⟩
  · have before := kept.excess k host
    have counted := countP_set_call call' at_ (isGranted k host)
    have stays : (isGranted k host call).toNat ≤ (isGranted k host call').toNat := by
      cases granted : isGranted k host call with
      | false => exact Nat.zero_le _
      | true =>
        simp only [isGranted, Bool.and_eq_true, beq_iff_eq] at granted
        rw [moves.finished granted.2]
        simp [isGranted, granted]
    show w.returned k host ≤ (w.calls.set i call').countP (isGranted k host) + w.excess k host
    unfold Traffic.granted at before
    omega
  · intro other memOther e raised
    rcases List.mem_or_eq_of_mem_set memOther with old | rfl
    · exact kept.raised other old e raised
    · cases moves with
      | stays => exact kept.raised call mem e raised
      | raises entered e inside same full =>
        have slots := kept.slots call.coordinator call.host
        have excess := kept.excess call.coordinator call.host
        have less := granted_lt_holding mem inside
        show 0 < w.excess call.coordinator call.host
        unfold free at slots
        omega
      | _ => cases raised
  · exact (setCoordinator_state moves.state w.current host).trans (kept.states host)

/-- A permit that is released frees a slot. -/
theorem Kept.release (kept : w.Kept policy) (call : Acquire) : (w.release policy call).Kept policy := by
  unfold Traffic.release
  rcases Coordinator.releaseSemaphore_cases policy (w.coordinators call.coordinator) call.host with
    ⟨slot, released⟩ | ⟨-, e, raised⟩
  · rw [released]
    refine ⟨?_, kept.calls, fun k host => ?_, fun k host => ?_, fun other mem e raised => ?_, fun host => ?_⟩
    · exact setCoordinator_all (P := fun _ c => Named c.hosts) kept.named (kept.named call.coordinator)
    · have before := kept.slots k host
      show ((w.setCoordinator _ _).coordinators k).free policy host + w.holding k host ≤ _
      dsimp only [more]
      by_cases here : k = call.coordinator
      · rw [here, setCoordinator_same, Coordinator.setSemaphore_free]
        subst here
        by_cases same : host = call.host
        · rw [if_pos same, if_pos ⟨rfl, same⟩]
          subst same
          unfold free at before
          omega
        · rw [if_neg same, if_neg fun both => same both.2]
          exact before
      · rw [setCoordinator_other w _ here, if_neg fun both => here both.1]
        exact before
    · have before := kept.excess k host
      show _ ≤ w.granted k host + _
      dsimp only [more]
      by_cases here : k = call.coordinator ∧ host = call.host
      · obtain ⟨rfl, rfl⟩ := here
        rw [if_pos ⟨rfl, rfl⟩, if_pos ⟨rfl, rfl⟩]
        split <;> omega
      · rw [if_neg here, if_neg here]
        exact before
    · have before := kept.raised other mem e raised
      dsimp only [more]
      split
      · exact Nat.add_pos_left before _
      · exact before
    · have same (k : String) := Coordinator.setSemaphore_state (w.coordinators call.coordinator) call.host k
        ((w.coordinators call.coordinator).free policy call.host + 1)
      exact (setCoordinator_state same w.current host).trans (kept.states host)
  · rw [raised]
    exact kept

/-- An outcome is added to those of its host. -/
theorem Kept.record (kept : w.Kept policy) (host : String) (evidence : Dict) :
    Kept policy { w.setCoordinator w.current (w.now.recordOutcome policy host evidence) with
      outcomes := w.outcomes ++ [(hostKey host, evidence)] } := by
  refine ⟨?_, kept.calls, fun k host => ?_, kept.excess, kept.raised, fun k => ?_⟩
  · exact setCoordinator_all (P := fun _ c => Named c.hosts) kept.named
      (Coordinator.named_recordOutcome (kept.named w.current) host evidence)
  · have before := kept.slots k host
    rw [← setCoordinator_free (fun _ => Coordinator.recordOutcome_free _ _ _ _) k host] at before
    exact before
  · have recorded : ({ w with outcomes := w.outcomes ++ [(hostKey host, evidence)] } : Traffic).recorded k =
        w.recorded k ++ if hostKey host = k then [evidence] else [] := by
      unfold Traffic.recorded
      rw [List.filter_append, List.map_append]
      by_cases here : hostKey host = k <;> simp [here]
    refine Eq.trans ?_ (congrArg (foldOutcomes policy k) recorded.symm)
    show ((w.setCoordinator w.current (w.now.recordOutcome policy host evidence)).coordinators w.current).state k = _
    rw [setCoordinator_same, Coordinator.recordOutcome_state, kept.states k]
    split
    · rw [foldOutcomes_append]
    · rw [List.append_nil]

/-- A restored coordinator has granted no permits and has the stop states of the one before. -/
theorem Kept.split (kept : w.Kept policy) : Kept policy
    { w.setCoordinator (w.current + 1) (.restore w.now.snapshot) with current := w.current + 1 } := by
  refine ⟨?_, fun call mem => ?_, fun k host => ?_, kept.excess, kept.raised, fun host => ?_⟩
  · exact setCoordinator_all (P := fun _ c => Named c.hosts) kept.named (named_restoreHosts _)
  · exact (kept.calls call mem).imp_right Nat.le_succ_of_le
  · have before := kept.slots k host
    simp only [free, setCoordinator, Function.update_apply] at before ⊢
    split
    · next here =>
      have none_ : w.holding k host = 0 := by
        refine List.countP_eq_zero.mpr fun call mem holds => ?_
        have le := (kept.calls call mem).2
        simp only [isHolding, Bool.and_eq_true, beq_iff_eq] at holds
        omega
      show policy.perHostWorkers.toNat + w.holding k host ≤ _
      rw [none_]
      exact Nat.le_add_right _ _
    · exact before
  · show ((w.setCoordinator (w.current + 1) (.restore w.now.snapshot)).coordinators (w.current + 1)).state host = _
    have named : Named w.now.hosts := kept.named w.current
    rw [setCoordinator_same, Coordinator.restore_state named]
    exact kept.states host

/-- **Step.** What is kept stays so at every step of any thread. -/
theorem Kept.step (valid : validatePolicy policy = .ok ()) (kept : w.Kept policy) {a : Act}
    (step : w.step policy a = some w') : w'.Kept policy := by
  cases a with
  | acquire host =>
    obtain rfl := Option.some.inj step
    exact kept.acquire valid host
  | move i m =>
    simp only [Traffic.step] at step
    cases at_ : w.calls[i]? with
    | none => rw [at_] at step; cases step
    | some call =>
      rw [at_] at step
      obtain ⟨⟨c', call'⟩, moved, rfl⟩ := Option.map_eq_some_iff.mp step
      exact kept.move at_ (move_moves moved)
  | release i =>
    simp only [Traffic.step] at step
    cases at_ : w.calls[i]? with
    | none => rw [at_] at step; cases step
    | some call =>
      rw [at_] at step
      dsimp only at step
      split at step
      · obtain rfl := Option.some.inj step
        exact kept.release call
      · cases step
  | record host evidence =>
    obtain rfl := Option.some.inj step
    exact kept.record host evidence
  | split =>
    obtain rfl := Option.some.inj step
    exact kept.split

/-- What one step of any thread keeps holds after every run. -/
theorem run_induct {P : Traffic → Prop} (keeps : ∀ w w' a, P w → w.step policy a = some w' → P w')
    {acts : List Act} (start : P w) (run : w.run policy acts = some w') : P w' := by
  induction acts generalizing w with
  | nil =>
    obtain rfl := Option.some.inj run
    exact start
  | cons a acts ih =>
    obtain ⟨w₁, step, rest⟩ := Option.bind_eq_some_iff.mp run
    exact ih (keeps w w₁ a start step) rest

theorem Kept.run (valid : validatePolicy policy = .ok ()) (kept : w.Kept policy) {acts : List Act}
    (run : w.run policy acts = some w') : w'.Kept policy :=
  run_induct (fun _ _ _ kept step => kept.step valid step) kept run

/-! ## Stopped hosts -/

/-- Since a moment with `n` calls at the `first` coordinator a host is stopped for a reason, and no call
that was begun since has come to its pacing. -/
structure Barred (host reason : String) (first n : Nat) (w : Traffic) : Prop where
  since : first ≤ w.current
  stopped : ∀ k, first ≤ k → k ≤ w.current → (w.coordinators k).stoppedReason host = reason
  barred : ∀ i call, n ≤ i → w.calls[i]? = some call → call.host = host →
    first ≤ call.coordinator ∧ call.stage.barred = true

variable {reason : String} {first n : Nat}

/-- A change of a coordinator that keeps the reason. -/
theorem Barred.stopped_set (barred : w.Barred host reason first n)
    (same : c.stoppedReason host = (w.coordinators k).stoppedReason host) (j : Nat) (since : first ≤ j)
    (until_ : j ≤ w.current) : ((w.setCoordinator k c).coordinators j).stoppedReason host = reason := by
  by_cases here : j = k
  · rw [here, setCoordinator_same, same, ← here]
    exact barred.stopped j since until_
  · rw [setCoordinator_other w c here]
    exact barred.stopped j since until_

/-- **Step.** A host that is stopped stays so, and who comes later gets no permit of it. -/
theorem Barred.step (kept : w.Kept policy) (barred : w.Barred host reason first n) (is : reason ≠ "") {a : Act}
    (step : w.step policy a = some w') : w'.Barred host reason first n := by
  have keep {c : Coordinator} {k : Nat} (same : ∀ host, c.state host = (w.coordinators k).state host) :
      ∀ j, first ≤ j → j ≤ w.current → ((w.setCoordinator k c).coordinators j).stoppedReason host = reason :=
    barred.stopped_set (congrArg HostState.stoppedReason (same host))
  cases a with
  | acquire called =>
    obtain rfl := Option.some.inj step
    unfold Traffic.acquire
    have entered (begun : Acquire) (coordinator : begun.coordinator = w.current) (at_ : begun.stage.barred = true) :
        ∀ i call, n ≤ i → (w.calls ++ [begun])[i]? = some call → call.host = host →
          first ≤ call.coordinator ∧ call.stage.barred = true := by
      intro i call later found isHost
      by_cases old : i < w.calls.length
      · rw [List.getElem?_append_left old] at found
        exact barred.barred i call later found isHost
      · rw [List.getElem?_append_right (Nat.le_of_not_lt old)] at found
        have new : call ∈ [begun] := List.mem_of_getElem? found
        rw [List.mem_singleton.mp new, coordinator]
        exact ⟨barred.since, at_⟩
    split
    · exact ⟨barred.since, barred.stopped, entered _ rfl rfl⟩
    · exact ⟨barred.since, keep fun _ => Coordinator.withSemaphore_state _ _ _, entered _ rfl rfl⟩
  | move i m =>
    simp only [Traffic.step] at step
    cases at_ : w.calls[i]? with
    | none => rw [at_] at step; cases step
    | some call =>
      rw [at_] at step
      obtain ⟨⟨c', call'⟩, moved, rfl⟩ := Option.map_eq_some_iff.mp step
      have moves := move_moves moved
      refine ⟨barred.since, keep moves.state, fun j other later found isHost => ?_⟩
      have ⟨sameC, sameH⟩ := moves.place
      by_cases here : i = j
      · subst here
        rw [List.getElem?_set_self (List.getElem?_eq_some_iff.mp at_).1] at found
        obtain rfl := Option.some.inj found
        have ⟨since, before⟩ := barred.barred i call later at_ (sameH.symm.trans isHost)
        have until_ := (kept.calls call (List.mem_of_getElem? at_)).2
        have stopped := barred.stopped call.coordinator since until_
        rw [← isHost, sameH] at stopped
        exact ⟨sameC ▸ since, moves.barred (by rw [stopped]; exact is) before⟩
      · rw [List.getElem?_set_ne here] at found
        exact barred.barred j other later found isHost
  | release i =>
    simp only [Traffic.step] at step
    cases at_ : w.calls[i]? with
    | none => rw [at_] at step; cases step
    | some call =>
      rw [at_] at step
      dsimp only at step
      split at step
      · obtain rfl := Option.some.inj step
        unfold Traffic.release
        split
        · next c released =>
          have same : ∀ k, c.state k = (w.coordinators call.coordinator).state k := by
            rcases Coordinator.releaseSemaphore_cases policy (w.coordinators call.coordinator) call.host with
              ⟨-, ok⟩ | ⟨-, e, raised⟩
            · rw [ok] at released
              obtain rfl := Except.ok.inj released
              exact fun k => Coordinator.setSemaphore_state _ _ _ _
            · rw [raised] at released
              cases released
          exact ⟨barred.since, keep same, barred.barred⟩
        · exact barred
      · cases step
  | record recorded evidence =>
    obtain rfl := Option.some.inj step
    refine ⟨barred.since, barred.stopped_set ?_, barred.barred⟩
    have stopped := barred.stopped w.current barred.since (Nat.le_refl _)
    rw [Coordinator.stoppedReason_eq, Coordinator.recordOutcome_state]
    split
    · have stays : recordEach policy (w.now.state host) evidence = w.now.state host :=
        recordEach_stopped (by rw [← Coordinator.stoppedReason_eq]; exact stopped ▸ is) evidence
      rw [stays]
      rfl
    · rfl
  | split =>
    obtain rfl := Option.some.inj step
    refine ⟨Nat.le_succ_of_le barred.since, fun k since until_ => ?_, barred.barred⟩
    by_cases here : k = w.current + 1
    · rw [here]
      show ((w.setCoordinator (w.current + 1) (.restore w.now.snapshot)).coordinators _).stoppedReason host = reason
      have named : Named w.now.hosts := kept.named w.current
      rw [setCoordinator_same, Coordinator.stoppedReason_eq, Coordinator.restore_state named]
      exact barred.stopped w.current barred.since (Nat.le_refl _)
    · show ((w.setCoordinator (w.current + 1) (.restore w.now.snapshot)).coordinators k).stoppedReason host = reason
      rw [setCoordinator_other w _ here]
      exact barred.stopped k since (by have : k ≤ w.current + 1 := until_; omega)

theorem Barred.initial (w : Traffic) (host : String) :
    w.Barred host (w.now.stoppedReason host) w.current w.calls.length := by
  refine ⟨Nat.le_refl _, fun k since until_ => ?_, fun i call later found _ => ?_⟩
  · rw [Nat.le_antisymm until_ since]
    rfl
  · rw [List.getElem?_eq_none later] at found
    cases found

/-- **Runs.** A host that is stopped stays stopped for its reason, and no call of `acquire` that is begun
afterwards is granted a permit of it. -/
theorem Kept.stays_stopped (valid : validatePolicy policy = .ok ()) (kept : w.Kept policy) (host : String)
    (stopped : w.now.stoppedReason host ≠ "") {acts : List Act} (run : w.run policy acts = some w') :
    w'.now.stoppedReason host = w.now.stoppedReason host ∧
      ∀ i call, w.calls.length ≤ i → w'.calls[i]? = some call → call.host = host →
        call.stage ≠ .done .granted := by
  have both : w'.Kept policy ∧ w'.Barred host (w.now.stoppedReason host) w.current w.calls.length := by
    refine run_induct (P := fun v => v.Kept policy ∧
      v.Barred host (w.now.stoppedReason host) w.current w.calls.length) ?_ ⟨kept, .initial w host⟩ run
    exact fun _ _ _ both step => ⟨both.1.step valid step, both.2.step both.1 stopped step⟩
  obtain ⟨-, barred⟩ := both
  refine ⟨barred.stopped w'.current barred.since (Nat.le_refl _), fun i call later found isHost granted => ?_⟩
  have before := (barred.barred i call later found isHost).2
  rw [granted] at before
  cases before

/-- The permits that are outstanding take slots of the semaphore. -/
theorem Kept.outstanding_le (valid : validatePolicy policy = .ok ()) (kept : w.Kept policy) (k : Nat)
    (host : String) : w.outstanding k host ≤ policy.perHostWorkers := by
  have checks := requireAll_ok.mp valid
  simp only [List.forall_mem_cons, between, Bool.and_eq_true, decide_eq_true_eq] at checks
  have slots := kept.slots k host
  have le := w.granted_le_holding k host
  unfold outstanding
  omega

end Traffic

/-- **Permits and stops.** Over every run of every threads' calls, with snapshots and restores in between: a
coordinator has no more permits of a host outstanding than `per_host_workers`; a call that returns without a
permit has released what it took, and one raises only where permits were released in excess; the stop state of a
host is the fold of its outcomes, and it is stopped with the reason of the first run that was completed; it stays
so, and no call that is begun afterwards is granted a permit. -/
theorem hostPolicy_coordinates (policy : ExecutionPolicy) (valid : validatePolicy policy = .ok ())
    (acts : List Act) (w : Traffic) (run : Traffic.run policy {} acts = some w) :
    (∀ k host, w.outstanding k host ≤ policy.perHostWorkers) ∧
    (∀ call ∈ w.calls, (∀ reason, call.stage = .done (.refused reason) → call.released = call.taken) ∧
      ∀ e, call.stage = .done (.raised e) → 0 < w.excess call.coordinator call.host) ∧
    (∀ host, hostStateOf w.now.hosts host = foldOutcomes policy host (w.recorded host) ∧
      (w.now.stoppedReason host = "" ↔ NotYet (CompletesSomeRun policy) (kindsOf (w.recorded host))) ∧
      ∀ reason, reason ≠ "" →
        (w.now.stoppedReason host = reason ↔ StopsWith policy (kindsOf (w.recorded host)) reason)) ∧
    ∀ host later w', w.now.stoppedReason host ≠ "" → w.run policy later = some w' →
      w'.now.stoppedReason host = w.now.stoppedReason host ∧
        ∀ i call, w.calls.length ≤ i → w'.calls[i]? = some call → call.host = host →
          call.stage ≠ .done .granted := by
  have kept := (Traffic.Kept.initial policy).run valid run
  refine ⟨kept.outstanding_le valid, fun call mem => ?_, fun host => ?_, fun host later w' stopped run => ?_⟩
  · exact ⟨(kept.calls call mem).1.refused, kept.raised call mem⟩
  · have folded : hostStateOf w.now.hosts host = foldOutcomes policy host (w.recorded host) := kept.states host
    have state := foldOutcomes_stopState valid host (w.recorded host)
    rw [← folded] at state
    exact ⟨folded, state.continues_iff, state.stoppedReason_iff⟩
  · exact kept.stays_stopped valid host stopped run

/-- The steps of a call that is granted its permit at once. -/
def passes (i : Nat) (host : String) : List Act :=
  [.acquire host, .move i (.poll false), .move i (.enter 0), .move i (.pace 0 false), .move i .check,
    .move i (.answer false)]

/-- A host with one worker: its one permit, and the request that stops it. -/
def stoppedPolicy : ExecutionPolicy := { perHostWorkers := 1, transportErrorStop := 1 }

def stoppedRun : List Act := passes 0 "h" ++ [.record "h" [("error", .str "timeout")], .release 0]

theorem hostPolicy_stops : ∃ w, Traffic.run stoppedPolicy {} stoppedRun = some w ∧ w.outstanding 0 "h" ≤ 1 ∧
    (w.now.stoppedReason "h" = "transport_error_threshold" ↔
      StopsWith stoppedPolicy (kindsOf (w.recorded "h")) "transport_error_threshold") := by
  have ends : (Traffic.run stoppedPolicy {} stoppedRun).isSome = true := by decide +kernel
  have all := hostPolicy_coordinates stoppedPolicy (by decide) stoppedRun _ (Option.some_get ends).symm
  exact ⟨_, (Option.some_get ends).symm, all.1 0 "h", (all.2.2.1 "h").2.2 "transport_error_threshold" (by decide)⟩

/-- A coordinator that is restored from a snapshot knows of no permits: it grants one beside the one that is
outstanding, where a host has one worker. -/
theorem hostPolicy_restored : (Traffic.run stoppedPolicy {} (passes 0 "h" ++ .split :: passes 1 "h")).map
    (fun w => w.outstanding 0 "h" + w.outstanding 1 "h") = some (stoppedPolicy.perHostWorkers + 1) := by
  decide +kernel

end ApiManger.Scheduler
