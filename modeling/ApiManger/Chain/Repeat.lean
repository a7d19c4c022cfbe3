import ApiManger.Chain.Replay

/-!
# Replays of one chain after another

The snapshot of a step is saved under a key that is made of the definition and the
step alone, and a unique index holds these keys. A replay therefore goes through
exactly where none of its keys was saved before. The run of a replay is created as
running, and no exit of the replay closes it.
-/

namespace ApiManger.Chain
open Python Store

variable {call : ChainCall} {d : ChainDefinition} {key : String → String} {taken : List String}

/-! ## Keys -/

theorem replaySnapshot_keys (s : ReplayState) (step : ChainStep) (prepared : PreparedStep) :
    (replaySnapshot call s step prepared).1.keys = s.keys := by
  unfold replaySnapshot
  split <;> rfl

theorem recordStep_keys (step : ChainStep) (replayed : ReplayState × Reply) :
    (recordStep step replayed).1.keys = replayed.1.keys := by
  unfold recordStep ReplayState.close
  split
  · rfl
  · dsimp only
    split <;> rfl

/-- A turn that gets as far as the save asks for its key; another is the same whatever is taken. -/
theorem replayStep_cases (call : ChainCall) (d : ChainDefinition) (key : String → String) (s : ReplayState)
    (step : ChainStep) :
    (∃ turn, turn.1.keys = s.keys ∧ ∀ taken, replayStep call d key taken s step = turn) ∨
    (∃ turn, turn.1.keys = s.keys ++ [key step.stepId] ∧ ∀ taken, replayStep call d key taken s step =
      if key step.stepId ∈ taken ∨ key step.stepId ∈ s.keys then (s, some notUnique) else turn) := by
  unfold replayStep
  cases planned : planStep call d s step with
  | error e => exact .inl ⟨(s, some e), rfl, fun _ => rfl⟩
  | ok plan =>
    by_cases ready : plan.status = .ready
    · cases prepares : prepareStep call step plan with
      | error e => exact .inl ⟨(s, some e), rfl, fun _ => by dsimp only; rw [if_neg (not_not.mpr ready), prepares]⟩
      | ok prepared =>
        refine .inr ⟨recordStep step (replaySnapshot call (s.save (key step.stepId)) step prepared), ?_, fun _ => ?_⟩
        · rw [recordStep_keys, replaySnapshot_keys]
          rfl
        · dsimp only
          rw [if_neg (not_not.mpr ready), prepares]
    · exact .inl ⟨(s.block step plan, none), rfl, fun _ => by dsimp only; rw [if_pos ready]⟩

theorem replayStep_keys (s : ReplayState) (step : ChainStep) :
    s.keys <+: (replayStep call d key taken s step).1.keys := by
  rcases replayStep_cases call d key s step with ⟨turn, same, turns⟩ | ⟨turn, saved, turns⟩
  · rw [turns, same]
  · rw [turns]
    split
    · exact List.prefix_refl _
    · rw [saved]
      exact List.prefix_append _ _

/-- The loop keeps the keys it saved. -/
theorem replaySteps_keys (s : ReplayState) (steps : List ChainStep) :
    s.keys <+: (replaySteps call d key taken s steps).1.keys := by
  induction steps generalizing s with
  | nil => rw [replaySteps_nil]
  | cons step rest ih =>
    have first : s.keys <+: (replayStep call d key taken s step).1.keys := replayStep_keys s step
    rw [replaySteps_cons]
    cases (replayStep call d key taken s step).2 with
    | none =>
      dsimp only
      exact first.trans (ih (replayStep call d key taken s step).1)
    | some e =>
      dsimp only
      exact first

/-- The loop is the one on a fresh index where none of that one's keys is taken, and else saves fewer keys. -/
theorem replaySteps_own (s : ReplayState) (steps : List ChainStep) (free : s.keys.Disjoint taken) :
    ((replaySteps call d key [] s steps).1.keys.Disjoint taken →
      replaySteps call d key taken s steps = replaySteps call d key [] s steps) ∧
    (¬ (replaySteps call d key [] s steps).1.keys.Disjoint taken →
      (replaySteps call d key taken s steps).1.keys ≠ (replaySteps call d key [] s steps).1.keys) := by
  induction steps generalizing s with
  | nil =>
    rw [replaySteps_nil, replaySteps_nil]
    exact ⟨fun _ => rfl, fun meets => absurd free meets⟩
  | cons step rest ih =>
    have same_turn : replayStep call d key taken s step = replayStep call d key [] s step →
        (replayStep call d key [] s step).1.keys.Disjoint taken →
        ((replaySteps call d key [] s (step :: rest)).1.keys.Disjoint taken →
          replaySteps call d key taken s (step :: rest) = replaySteps call d key [] s (step :: rest)) ∧
        (¬ (replaySteps call d key [] s (step :: rest)).1.keys.Disjoint taken →
          (replaySteps call d key taken s (step :: rest)).1.keys ≠
            (replaySteps call d key [] s (step :: rest)).1.keys) := by
      intro same apart
      rw [replaySteps_cons, replaySteps_cons, same]
      cases raised : (replayStep call d key [] s step).2 with
      | none =>
        dsimp only
        exact ih (replayStep call d key [] s step).1 apart
      | some e =>
        dsimp only
        exact ⟨fun _ => rfl, fun meets => absurd apart meets⟩
    rcases replayStep_cases call d key s step with ⟨turn, same, turns⟩ | ⟨turn, saved, turns⟩
    · refine same_turn (by rw [turns, turns]) ?_
      rw [turns, same]
      exact free
    · by_cases again : key step.stepId ∈ s.keys
      · refine same_turn (by rw [turns, turns, if_pos (.inr again), if_pos (.inr again)]) ?_
        rw [turns, if_pos (.inr again)]
        exact free
      have fresh : replayStep call d key [] s step = turn := by
        rw [turns, if_neg (by simpa using again)]
      by_cases used : key step.stepId ∈ taken
      · -- the index raises, and the loop on a fresh index has one key more
        have longer : s.keys ++ [key step.stepId] <+: (replaySteps call d key [] s (step :: rest)).1.keys := by
          rw [replaySteps_cons, fresh, ← saved]
          cases turn.2 with
          | none => exact replaySteps_keys turn.1 rest
          | some e => exact List.prefix_refl turn.1.keys
        have stops : replaySteps call d key taken s (step :: rest) = (s, some notUnique) := by
          rw [replaySteps_cons, turns, if_pos (.inl used)]
        constructor
        · intro apart
          have inside := longer.subset (List.mem_append_right s.keys (List.mem_singleton_self (key step.stepId)))
          exact absurd used (apart inside)
        · intro _ same
          have length := longer.length_le
          rw [← same, stops, List.length_append, List.length_singleton] at length
          dsimp only at length
          omega
      · refine same_turn (by rw [turns, if_neg (by simp [used, again]), fresh]) ?_
        rw [fresh, saved]
        refine List.disjoint_append_left.mpr ⟨free, ?_⟩
        exact List.singleton_disjoint.mpr used

/-! ## Calls one after another -/

section
variable (sha256 : ChainDefinition → String)

/-- The database after some calls. -/
def storeAfter (store : ChainStore) (calls : List ChainCall) : ChainStore :=
  calls.foldl (fun store call => (replayChainLive sha256 call store).1) store

/-- The keys a call saves on a fresh index. -/
def savedKeys (call : ChainCall) : List String := (replayChainLive sha256 call {}).2.saved

/-- A call replays its steps as on a fresh index: it saves, sends and reports the same. -/
structure OwnReplay (call : ChainCall) (store : ChainStore) : Prop where
  saved : (replayChainLive sha256 call store).2.saved = savedKeys sha256 call
  sent : (replayChainLive sha256 call store).2.sent = (replayChainLive sha256 call {}).2.sent
  outcome : (replayChainLive sha256 call store).2.outcome = (replayChainLive sha256 call {}).2.outcome

/-- The run that a call created has a terminal status when it returns or raises. -/
def ClosesRun (call : ChainCall) (store : ChainStore) : Prop :=
  ∀ id, (replayChainLive sha256 call store).2.run = some id →
    ∀ run ∈ (replayChainLive sha256 call store).1.runs, run.id = id → run.status.isFinal = true

/-- Each of some calls replays its own steps. -/
def Repeatable (store : ChainStore) (calls : List ChainCall) : Prop :=
  ∀ before call after, calls = before ++ call :: after → OwnReplay sha256 call (storeAfter sha256 store before)

def RunsClosed (store : ChainStore) (calls : List ChainCall) : Prop :=
  ∀ before call after, calls = before ++ call :: after → ClosesRun sha256 call (storeAfter sha256 store before)

/-- A call that does not get past the checks before its run. -/
def Refused (call : ChainCall) : Prop := ∃ e, checkCall call = .error e

end

variable {sha256 : ChainDefinition → String} {store : ChainStore}

theorem replayChainLive_refused {e : ChainError} (refused : checkCall call = .error e) (store : ChainStore) :
    replayChainLive sha256 call store = (store, ⟨none, [], [], .error e⟩) := by
  rw [replayChainLive, refused]

/-- A call closes its run just where it created none. -/
theorem closesRun_iff : ClosesRun sha256 call store ↔ Refused call := by
  constructor
  · intro closes
    cases checked : checkCall call with
    | error e => exact ⟨e, checked⟩
    | ok d =>
      have created := closes store.nextId (by rw [replayChainLive, checked])
      have mem : createExecutionRun sha256 call d store.nextId ∈ (replayChainLive sha256 call store).1.runs := by
        rw [replayChainLive, checked]
        exact List.mem_append_right _ (List.mem_singleton_self _)
      exact absurd (created _ mem rfl) (by simp [createExecutionRun])
  · rintro ⟨e, refused⟩ id created
    rw [replayChainLive_refused refused] at created
    nomatch created

/-- A call replays its own steps just where none of their keys is taken. -/
theorem ownReplay_iff : OwnReplay sha256 call store ↔ (savedKeys sha256 call).Disjoint store.templateKeys := by
  cases checked : checkCall call with
  | error e =>
    have none_saved : savedKeys sha256 call = [] := by rw [savedKeys, replayChainLive_refused checked]
    have same : (replayChainLive sha256 call store).2 = (replayChainLive sha256 call {}).2 := by
      rw [replayChainLive_refused checked, replayChainLive_refused checked]
    refine iff_of_true ⟨?_, by rw [same], by rw [same]⟩ (none_saved ▸ List.disjoint_nil_left _)
    rw [savedKeys, same]
  | ok d =>
    have unsaved : ({ captured := call.sources } : ReplayState).keys.Disjoint store.templateKeys :=
      List.disjoint_nil_left _
    obtain ⟨own, fewer⟩ := @replaySteps_own call d (chainTemplateKey sha256 d) store.templateKeys
      { captured := call.sources } (stepsOf call d) unsaved
    have saved (other : ChainStore) : (replayChainLive sha256 call other).2.saved =
        (replayLoop sha256 call d other.templateKeys).1.keys := by rw [replayChainLive, checked]
    constructor
    · intro replay
      by_contra meets
      rw [savedKeys, saved] at meets
      refine fewer meets ?_
      have same := replay.saved
      rw [savedKeys, saved, saved] at same
      exact same
    · intro apart
      rw [savedKeys, saved] at apart
      have same : replayLoop sha256 call d store.templateKeys = replayLoop sha256 call d [] := own apart
      refine ⟨?_, ?_, ?_⟩
      · rw [savedKeys, saved, saved, same]
      · rw [replayChainLive, replayChainLive, checked]
        dsimp only
        rw [same]
      · rw [replayChainLive, replayChainLive, checked]
        dsimp only
        rw [same]

theorem templateKeys_after (call : ChainCall) (store : ChainStore) :
    (replayChainLive sha256 call store).1.templateKeys =
      store.templateKeys ++ (replayChainLive sha256 call store).2.saved := by
  unfold replayChainLive
  split
  · exact (List.append_nil _).symm
  · rfl

theorem split_cons {P : ChainStore → ChainCall → Prop} {call : ChainCall} {rest : List ChainCall} :
    (∀ before c after, call :: rest = before ++ c :: after → P (storeAfter sha256 store before) c) ↔
      P store call ∧ ∀ before c after, rest = before ++ c :: after →
        P (storeAfter sha256 (replayChainLive sha256 call store).1 before) c := by
  constructor
  · intro all
    refine ⟨all [] call rest rfl, fun before c after same => ?_⟩
    exact all (call :: before) c after (by rw [same]; rfl)
  · rintro ⟨first, others⟩ before c after same
    cases before with
    | nil =>
      obtain ⟨rfl, -⟩ := List.cons.inj same
      exact first
    | cons b before =>
      obtain ⟨rfl, rest_same⟩ := List.cons.inj same
      exact others before c after rest_same

/-- **Repeatability.** Some calls each replay their own steps just where no two of them save one key, and none a
key that was taken before. -/
theorem repeatable_iff (calls : List ChainCall) : Repeatable sha256 store calls ↔
    (store.templateKeys :: calls.map (savedKeys sha256)).Pairwise List.Disjoint := by
  induction calls generalizing store with
  | nil =>
    refine iff_of_true (fun before call after same => ?_) (List.pairwise_singleton _ _)
    exact absurd same (by simp)
  | cons call rest ih =>
    have split : Repeatable sha256 store (call :: rest) ↔
        OwnReplay sha256 call store ∧ Repeatable sha256 (replayChainLive sha256 call store).1 rest :=
      split_cons (P := fun store call => OwnReplay sha256 call store)
    rw [split, ih]
    have joined (own : OwnReplay sha256 call store) : (replayChainLive sha256 call store).1.templateKeys =
        store.templateKeys ++ savedKeys sha256 call := by rw [templateKeys_after, own.saved]
    simp only [List.map_cons, List.pairwise_cons, List.mem_cons, forall_eq_or_imp]
    constructor
    · rintro ⟨own, first, others⟩
      rw [joined own] at first
      refine ⟨⟨(ownReplay_iff.mp own).symm, fun keys mem => ?_⟩, fun keys mem => ?_, others⟩
      · exact (List.disjoint_append_left.mp (first keys mem)).1
      · exact (List.disjoint_append_left.mp (first keys mem)).2
    · rintro ⟨⟨apart, taken⟩, first, others⟩
      have own := ownReplay_iff.mpr apart.symm
      refine ⟨own, fun keys mem => ?_, others⟩
      rw [joined own]
      exact List.disjoint_append_left.mpr ⟨taken keys mem, first keys mem⟩

theorem runsClosed_iff (calls : List ChainCall) : RunsClosed sha256 store calls ↔ ∀ call ∈ calls, Refused call := by
  unfold RunsClosed
  constructor
  · intro closed call mem
    obtain ⟨before, after, same⟩ := List.append_of_mem mem
    exact closesRun_iff.mp (closed before call after same)
  · rintro refused before call after rfl
    exact closesRun_iff.mpr (refused call (List.mem_append_right _ List.mem_cons_self))

/-- A call on an accepted definition whose sources bind. -/
def Bound (call : ChainCall) : Prop :=
  ∃ d, normalizeChainDefinition call.definition = .ok d ∧ unboundStepIds d call.outside.endpoint = []

/-- **Repeated replays.** Of any calls, all replay their own steps and close their runs just where every one of them
is refused before its run; and all replay their own steps just where they save distinct keys. -/
theorem replays_repeatable_and_closed_iff (sha256 : ChainDefinition → String) (store : ChainStore)
    (calls : List ChainCall) :
    (Repeatable sha256 store calls ∧ RunsClosed sha256 store calls ↔ ∀ call ∈ calls, Refused call) ∧
      (Repeatable sha256 store calls ↔ (store.templateKeys :: calls.map (savedKeys sha256)).Pairwise List.Disjoint) := by
  refine ⟨⟨fun both => (runsClosed_iff calls).mp both.2, fun refused => ⟨?_, (runsClosed_iff calls).mpr refused⟩⟩,
    repeatable_iff calls⟩
  rintro before call after rfl
  obtain ⟨e, raises⟩ := refused call (List.mem_append_right _ List.mem_cons_self)
  refine ownReplay_iff.mpr ?_
  rw [savedKeys, replayChainLive_refused raises]
  exact List.disjoint_nil_left _

/-- A chain of one step without parameters. -/
def healthDefinition : ChainDefinition where
  name := "health"
  steps := [{ stepId := "s_health", responseRef := "r_health", pathid := 7, method := "GET", pathTemplate := "/health" }]

/-- A confirmed call on it, without an account. -/
def healthCall : ChainCall where
  definition := healthDefinition
  context := { projectId := "p1", authMode := "anonymous" }
  allowLiveRequests := true
  outside := {
    endpoint := fun _ => some { method := "GET", path := "/health", url := "https://api.test/health" }
    compose := fun _ => .ok (some ⟨"GET", { url := "https://api.test/health" }⟩)
    reply := fun _ => ⟨true, .obj [("status", .str "up")]⟩ }

/-- The second replay of a chain fails over the key of the first, and no replay closes its run. -/
theorem health_replayed_twice : Bound healthCall ∧
    ¬ Repeatable ChainDefinition.name {} [healthCall, healthCall] ∧
    ¬ RunsClosed ChainDefinition.name {} [healthCall, healthCall] := by
  have accepted : normalizeChainDefinition healthDefinition = .ok healthDefinition := by decide +kernel
  have passes : checkCall healthCall = .ok healthDefinition := by decide +kernel
  have saves : "interface_chain:health:s_health" ∈ savedKeys ChainDefinition.name healthCall := by decide +kernel
  refine ⟨⟨healthDefinition, accepted, by decide +kernel⟩, fun repeats => ?_, fun closed => ?_⟩
  · have apart := (repeatable_iff _).mp repeats
    simp only [List.map_cons, List.map_nil, List.pairwise_cons, List.mem_cons, forall_eq_or_imp] at apart
    exact apart.2.1.1 saves saves
  · obtain ⟨e, refused⟩ := (runsClosed_iff _).mp closed healthCall List.mem_cons_self
    rw [passes] at refused
    cases refused

end ApiManger.Chain
