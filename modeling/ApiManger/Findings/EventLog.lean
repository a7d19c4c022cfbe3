import ApiManger.Findings.Desk

/-!
# The event log explains the status

The rows of the event log that carry a status, put in the order of the updates they
record, are a chain of valid transitions from `open` to the stored status. It takes
one thing of a run: a transition is written while the finding still has the status it
was validated against, since the update itself is by `_id` alone.
-/

namespace ApiManger.Findings
open Python Store Interleaving

/-- One change of status, and who made it. -/
structure Move where
  caller : Option Nat
  source : Option FindingStatus
  target : FindingStatus
  deriving DecidableEq

/-- The rows of the log that carry a status, oldest first. -/
def rows (s : FindingStore) : List Move :=
  s.events.filterMap fun e => e.toStatus.map fun target => ⟨e.caller, e.fromStatus, target⟩

/-- The changes of status, in the order they were made. -/
def moves (s : FindingStore) : List Move :=
  s.history.filterMap fun
    | .moved caller source target _ => some ⟨caller, source, target⟩
    | .scheduled _ _ => none

/-- A chain of valid transitions; before it is opened a finding has no status. -/
inductive Chain : Option FindingStatus → List Move → Option FindingStatus → Prop
  | nil {a : Option FindingStatus} : Chain a [] a
  | opened {c : Option Nat} {rest : List Move} {b : Option FindingStatus} (h : Chain (some .opened) rest b) :
      Chain none (⟨c, none, .opened⟩ :: rest) b
  | step {c : Option Nat} {source target : FindingStatus} {rest : List Move} {b : Option FindingStatus}
      (valid : target ∈ source.validTransitions) (h : Chain (some target) rest b) :
      Chain (some source) (⟨c, some source, target⟩ :: rest) b

variable {a b : Option FindingStatus} {l : List Move} {source target : FindingStatus} {s s' : FindingStore}
  {o : FindingOp} {i : FindingInput}

/-- One more valid transition at the end. -/
theorem Chain.snoc {c : Option Nat}
    (h : Chain a l (some source)) (valid : target ∈ source.validTransitions) :
    Chain a (l ++ [⟨c, some source, target⟩]) (some target) := by
  generalize ended : some source = b at h
  induction h with
  | nil => subst ended; exact .step valid .nil
  | opened _ ih => exact .opened (ih ended)
  | step own _ ih => exact .step own (ih ended)

theorem Chain.split {m : List Move} (h : Chain a (l ++ m) b) :
    ∃ x, Chain a l x ∧ Chain x m b := by
  induction l generalizing a with
  | nil => exact ⟨a, .nil, h⟩
  | cons e l ih =>
    cases h with
    | opened h =>
      obtain ⟨x, first, rest⟩ := ih h
      exact ⟨x, .opened first, rest⟩
    | step valid h =>
      obtain ⟨x, first, rest⟩ := ih h
      exact ⟨x, .step valid first, rest⟩

theorem Chain.end_unique {x y : Option FindingStatus} (h : Chain a l x) (h' : Chain a l y) :
    x = y := by
  induction h with
  | nil => cases h'; rfl
  | opened _ ih =>
    cases h' with
    | opened rest => exact ih rest
  | step _ _ ih =>
    cases h' with
    | step _ rest => exact ih rest

/-- Nothing follows a closed status. -/
theorem Chain.closed {s : FindingStatus} {m : List Move} {b : Option FindingStatus} (closed : s.isClosed = true)
    (h : Chain (some s) m b) : b = some s := by
  cases h with
  | nil => rfl
  | step valid _ =>
    rw [FindingStatus.validTransitions_closed closed] at valid
    cases valid

/-- The moves out of `open`. -/
def fromOpen (l : List Move) : List Move := l.filter (·.source == some .opened)

/-- Nothing leads back to `open`. -/
theorem Chain.never_opened {s : FindingStatus}
    (h : Chain (some s) l b) (ne : s ≠ .opened) : fromOpen l = [] := by
  generalize start : some s = a at h
  induction h generalizing s with
  | nil => rfl
  | opened _ _ => cases start
  | @step c source target rest b valid _ ih =>
    obtain rfl := Option.some.inj start
    have onward : target ≠ .opened := by
      intro back
      subst back
      cases s <;> simp [FindingStatus.validTransitions] at valid
    have rest' := ih onward rfl
    simpa [fromOpen, ne] using rest'

/-- A chain leaves `open` at most once. -/
theorem Chain.leaves_open_once (h : Chain none l b) :
    (fromOpen l).length ≤ 1 := by
  cases h with
  | nil => decide
  | opened h =>
    cases h with
    | nil => simp [fromOpen]
    | @step c source target rest _ valid rest_ =>
      have onward : target ≠ .opened := by
        intro back
        subst back
        simp [FindingStatus.validTransitions] at valid
      have none_ := rest_.never_opened onward
      simp only [fromOpen, List.filter_cons] at none_ ⊢
      simp [none_]

/-- The moves of one caller, in order. -/
def byCaller (c : Option Nat) (l : List Move) : List Move := l.filter (·.caller == c)

/-- The rows can be put in an order, each caller's own kept, in which they are a chain of valid
transitions that ends in the stored status. -/
def Explained (s : FindingStore) : Prop :=
  ∃ order : List Move, order.Perm (rows s) ∧ (∀ c, byCaller c order = byCaller c (rows s)) ∧
    Chain none order (some s.finding.status)

/-- Two lists with the same moves of every caller are permutations of each other. -/
theorem perm_of_byCaller {l' : List Move} (h : ∀ c, byCaller c l = byCaller c l') : l.Perm l' := by
  refine List.perm_iff_count.mpr fun m => ?_
  have own (l : List Move) : l.count m = (byCaller m.caller l).count m :=
    (List.count_filter (by simp)).symm
  rw [own l, own l', h]

/-! ## The contract of a caller -/

/-- A transition is written while the finding has the status it was validated against. -/
def current : Guard findingDesk where
  start _ _ _ := true
  op _ o _ s := match o with
    | FindingOp.setStatus _ validated _ _ => s.finding.status == validated
    | _ => true

/-- What every step keeps: the moves are a chain, and nobody's rows are there from the start. -/
structure Ordered (s : FindingStore) : Prop where
  chain : Chain none (moves s) (some s.finding.status)
  nobody : byCaller none (moves s) = byCaller none (rows s)

/-- A caller adds moves and rows of its own. -/
def ledger : Contract findingDesk where
  guard := current
  known _ := True
  inv := Ordered
  guar u s s' := s'.finding.id = s.finding.id ∧ ∀ w, u ≠ some w →
    byCaller (some w) (moves s') = byCaller (some w) (moves s) ∧
    byCaller (some w) (rows s') = byCaller (some w) (rows s)
  before t s := byCaller (some t) (moves s) = byCaller (some t) (rows s)
  left t s := byCaller (some t) (moves s) = byCaller (some t) (rows s)

/-- Every move of the caller has its row. -/
def Balanced (t : Nat) (s : FindingStore) : Prop :=
  byCaller (some t) (moves s) = byCaller (some t) (rows s)

/-- The caller has made a move whose row is not there yet. -/
def Owes (t : Nat) (source target : FindingStatus) (s : FindingStore) : Prop :=
  byCaller (some t) (moves s) = byCaller (some t) (rows s) ++ [⟨some t, some source, target⟩]

variable (t : Nat)

theorem balanced_stable : ledger.Stable t (Balanced t) := by
  intro u other s s' _ _ _ _ guar balanced
  obtain ⟨sameMoves, sameRows⟩ := guar.2 t other
  exact sameMoves.trans (balanced.trans sameRows.symm)

theorem owes_stable (source target : FindingStatus) : ledger.Stable t (Owes t source target) := by
  intro u other s s' _ _ _ _ guar owes
  obtain ⟨sameMoves, sameRows⟩ := guar.2 t other
  have owes : byCaller (some t) (moves s) = _ := owes
  show byCaller (some t) (moves s') = byCaller (some t) (rows s') ++ _
  rw [sameMoves, sameRows, owes]

variable (id : ObjectId)

theorem id_stable : ledger.Stable t fun s => s.finding.id = id := by
  intro u _ s s' _ _ _ _ guar here
  exact guar.1.trans here

/-- The operations that change neither the status nor a row that carries one. -/
def FindingOp.Neutral : FindingOp → Prop
  | .setStatus .. => False
  | .saveEvent event => event.toStatus = none
  | _ => True

theorem updateFinding_neutral {id : ObjectId}
    {f : VulnerabilityFinding → VulnerabilityFinding} (keepsId : ∀ x, (f x).id = x.id)
    (keeps : ∀ x, (f x).status = x.status) :
    moves (s.updateFinding id f) = moves s ∧ rows (s.updateFinding id f) = rows s ∧
      (s.updateFinding id f).finding.status = s.finding.status ∧
      (s.updateFinding id f).finding.id = s.finding.id := by
  unfold FindingStore.updateFinding
  split
  · exact ⟨rfl, rfl, keeps _, keepsId _⟩
  · exact ⟨rfl, rfl, rfl, rfl⟩

theorem enqueue_neutral (s : FindingStore) (identity : RetestIdentity) (project : String)
    (snapshots : List ObjectId) :
    moves (s.enqueue identity project snapshots).2 = moves s ∧
      rows (s.enqueue identity project snapshots).2 = rows s ∧
      (s.enqueue identity project snapshots).2.finding = s.finding := by
  unfold FindingStore.enqueue
  split
  · exact ⟨rfl, rfl, rfl⟩
  · refine ⟨?_, rfl, rfl⟩
    simp only [moves, List.filterMap_append]
    exact List.append_nil _

/-- A neutral operation keeps the moves, the rows and the status. -/
theorem execFinding_neutral
    {r : Except PyError o.Ret} (exec : execFinding t o i s = some (r, s')) (neutral : o.Neutral) :
    moves s' = moves s ∧ rows s' = rows s ∧ s'.finding.status = s.finding.status ∧
      s'.finding.id = s.finding.id := by
  cases o with
  | setStatus => cases neutral
  | saveEvent event =>
    cases exec
    refine ⟨rfl, ?_, rfl, rfl⟩
    have none_ : event.toStatus = none := neutral
    simp [rows, List.filterMap_append, none_]
  | pushRunId id run =>
    cases exec
    exact updateFinding_neutral (fun _ => rfl) (fun _ => rfl)
  | linkResult id result run =>
    cases exec
    exact updateFinding_neutral (fun _ => rfl) (fun _ => rfl)
  | enqueueSnapshotBatch identity project snapshots =>
    simp only [execFinding] at exec
    split at exec
    · cases exec
      exact ⟨rfl, rfl, rfl, rfl⟩
    · cases exec
      obtain ⟨sameMoves, sameRows, same⟩ := enqueue_neutral s identity project snapshots
      exact ⟨sameMoves, sameRows, by rw [same], by rw [same]⟩
  | find | activeRetest | baselineResults | sourceRuns | latestTerminal | retestRun | runResults | verifyEvent
  | completedRetests | pendingFinding | evaluationMarker =>
    cases exec
    exact ⟨rfl, rfl, rfl, rfl⟩

theorem Ordered.congr (h : Ordered s) (sameMoves : moves s' = moves s)
    (sameRows : rows s' = rows s) (sameStatus : s'.finding.status = s.finding.status) : Ordered s' :=
  ⟨by rw [sameMoves, sameStatus]; exact h.chain, by rw [sameMoves, sameRows]; exact h.nobody⟩

theorem neutral_keeps (neutral : o.Neutral) : ledger.Keeps t (Balanced t) o fun _ => Balanced t := by
  intro s i r s' _ inv balanced _ exec _
  obtain ⟨sameMoves, sameRows, sameStatus, sameId⟩ := execFinding_neutral t exec neutral
  refine ⟨inv.congr sameMoves sameRows sameStatus, ⟨sameId, fun w _ => ?_⟩, ?_⟩
  · exact ⟨by rw [sameMoves], by rw [sameRows]⟩
  · show byCaller (some t) (moves s') = byCaller (some t) (rows s')
    rw [sameMoves, sameRows]
    exact balanced

/-- Code of neutral operations. -/
theorem neutral_safe {α : Type} {p : Prog findingSignature α} (uses : p.Uses FindingOp.Neutral) :
    ledger.Safe t (Balanced t) p (fun _ => Balanced t) (fun _ => Balanced t) :=
  Contract.Safe.of_uses uses (balanced_stable t) fun _ neutral => neutral_keeps t neutral

/-! ## The calls -/

theorem find_safe :
    ledger.Safe t (Balanced t) (atomic (.find id))
      (fun found s => Balanced t s ∧ ∀ f, found = some f → s.finding.id = id) (fun _ => Balanced t) := by
  refine Contract.Safe.perform (fun found => ?_) (fun _ => balanced_stable t) ?_
  · exact (balanced_stable t).and (Contract.Stable.all fun f => Contract.Stable.imp (id_stable t id))
  · intro s i r s' known inv balanced admitted exec known'
    have neutral : FindingOp.Neutral (.find id) := trivial
    obtain ⟨inv', guar, balanced'⟩ := neutral_keeps t neutral s i r s' known inv balanced admitted exec known'
    refine ⟨inv', guar, ?_⟩
    cases exec
    refine ⟨balanced', fun f found => ?_⟩
    unfold FindingStore.find? at found
    split at found
    · assumption
    · cases found

/-- What the update of a transition does. -/
theorem setStatus_moves {id : ObjectId} {run : Option ObjectId} {r : Except PyError Unit} (here : s.finding.id = id)
    (exec : execFinding t (.setStatus id source target run) i s = some (r, s')) :
    r = .ok () ∧ moves s' = moves s ++ [⟨some t, some source, target⟩] ∧ rows s' = rows s ∧
      s'.finding.status = target ∧ s'.finding.id = s.finding.id := by
  simp only [execFinding, here, if_true] at exec
  cases exec
  refine ⟨rfl, ?_, rfl, rfl, here.symm⟩
  simp [moves, List.filterMap_append]

theorem byCaller_append_other {w : Nat} {source : Option FindingStatus}
    (other : some t ≠ some w) : byCaller (some w) (l ++ [⟨some t, source, target⟩]) = byCaller (some w) l := by
  have ne : ¬ (some t = some w) := other
  rw [byCaller, List.filter_append]
  simp only [List.filter_cons, beq_iff_eq, ne, if_false, List.filter_nil, List.append_nil]
  rfl

theorem byCaller_append_own {source : Option FindingStatus} :
    byCaller (some t) (l ++ [⟨some t, source, target⟩]) = byCaller (some t) l ++ [⟨some t, source, target⟩] := by
  simp [byCaller, List.filter_append]

theorem byCaller_append_none {source : Option FindingStatus} :
    byCaller none (l ++ [⟨some t, source, target⟩]) = byCaller none l := by
  simp [byCaller, List.filter_append]

/-- The update of a transition makes a move. -/
theorem setStatus_safe (valid : target ∈ source.validTransitions)
    (run : Option ObjectId) :
    ledger.Safe t (fun s => Balanced t s ∧ s.finding.id = id) (atomic (.setStatus id source target run))
      (fun _ => Owes t source target) (fun _ => Balanced t) := by
  refine Contract.Safe.perform (fun _ => owes_stable t source target) (fun _ => balanced_stable t) ?_
  intro s i r s' _ inv now admitted exec _
  obtain ⟨balanced, here⟩ := now
  have status : s.finding.status = source := by simpa [ledger, current] using admitted
  obtain ⟨rfl, moved, sameRows, target_, sameId⟩ := setStatus_moves (i := i) t here exec
  refine ⟨⟨?_, ?_⟩, ⟨sameId, fun w other => ⟨?_, by rw [sameRows]⟩⟩, ?_⟩
  · rw [moved, target_]
    exact (status ▸ inv.chain).snoc valid
  · rw [moved, sameRows, byCaller_append_none]
    exact inv.nobody
  · rw [moved, byCaller_append_other t other]
  · show byCaller (some t) (moves s') = byCaller (some t) (rows s') ++ _
    rw [moved, sameRows, byCaller_append_own, ← balanced]

/-- The event pays the move off. -/
theorem saveTransition_safe (source target : FindingStatus) (note : TransitionNote) :
    ledger.Safe t (Owes t source target) (atomic (.saveEvent (transitionEvent t source target note)))
      (fun _ => Balanced t) (fun _ => Balanced t) := by
  refine Contract.Safe.perform (fun _ => balanced_stable t) (fun _ => balanced_stable t) ?_
  intro s i r s' _ inv owes _ exec _
  have saved : rows s' = rows s ++ [⟨some t, some source, target⟩] ∧ moves s' = moves s ∧
      s'.finding = s.finding := by
    cases exec
    refine ⟨?_, rfl, rfl⟩
    simp [rows, List.filterMap_append, transitionEvent]
  obtain ⟨saved, sameMoves, same⟩ := saved
  have paid : Balanced t s' := by
    show byCaller (some t) (moves s') = byCaller (some t) (rows s')
    rw [saved, sameMoves, byCaller_append_own]
    exact owes
  refine ⟨⟨?_, ?_⟩, ⟨by rw [same], fun w other => ⟨by rw [sameMoves], ?_⟩⟩, ?_⟩
  · rw [sameMoves, same]
    exact inv.chain
  · rw [saved, sameMoves, byCaller_append_none]
    exact inv.nobody
  · rw [saved, byCaller_append_other t other]
  · cases r <;> exact paid

theorem transition_safe (target : FindingStatus) (note : TransitionNote) (evidence : Bool) :
    ledger.Safe t (Balanced t) (transitionFinding t id target note evidence)
      (fun _ => Balanced t) (fun _ => Balanced t) := by
  refine Contract.Safe.bind (find_safe t id) fun found => ?_
  cases found with
  | none => exact Contract.Safe.raise fun _ _ _ now => now.1
  | some finding =>
    refine Contract.Safe.ofExcept_bind (fun _ checked => ?_) fun _ _ _ _ _ now => now.1
    have valid : target ∈ finding.status.validTransitions := by
      unfold validateTransition at checked
      split at checked
      · assumption
      · cases checked
    refine Contract.Safe.ite (fun _ => ?_) fun _ => ?_
    · exact Contract.Safe.raise fun _ _ _ now => now.1
    · have update := (setStatus_safe t id valid note.relatedRunId).pre
        fun s _ _ (now : Balanced t s ∧ ∀ f, some finding = some f → s.finding.id = id) =>
          ⟨now.1, now.2 finding rfl⟩
      exact Contract.Safe.bind update fun _ => saveTransition_safe t _ _ _

theorem neutral_atomic (neutral : o.Neutral) :
    ledger.Safe t (Balanced t) (atomic o) (fun _ => Balanced t) (fun _ => Balanced t) :=
  neutral_safe t (Prog.Uses.perform neutral)

theorem link_safe (actor : String) (run : ObjectId) (results : List ObjectId) :
    ledger.Safe t (Balanced t) (linkFixVerification t id actor run results)
      (fun _ => Balanced t) (fun _ => Balanced t) := by
  refine Contract.Safe.bind (neutral_atomic t (o := .find id) trivial) fun found => ?_
  cases found with
  | none => exact Contract.Safe.raise fun _ _ _ now => now
  | some finding =>
    refine Contract.Safe.bind (C := ledger) (Q := fun _ => Balanced t) ?_ fun _ => ?_
    · exact Contract.Safe.ite (fun _ => transition_safe t _ _ _ _) fun _ => neutral_atomic t rfl
    · refine Contract.Safe.bind (neutral_safe t (Prog.Uses.when (Prog.Uses.perform trivial))) fun _ => ?_
      refine Contract.Safe.bind (neutral_atomic t (o := .find id) trivial) fun _ => ?_
      exact Contract.Safe.ret fun _ _ _ now => now

theorem schedule_safe (actor : String) :
    ledger.Safe t (Balanced t) (scheduleFindingRetest t id actor) (fun _ => Balanced t) (fun _ => Balanced t) := by
  refine Contract.Safe.bind (neutral_atomic t (o := .find id) trivial) fun found => ?_
  cases found with
  | none => exact Contract.Safe.raise fun _ _ _ now => now
  | some finding =>
    dsimp only
    split
    · exact Contract.Safe.raise fun _ _ _ now => now
    refine Contract.Safe.bind (neutral_atomic t (o := .activeRetest _ _) trivial) fun active => ?_
    cases active with
    | some run => exact Contract.Safe.ret fun _ _ _ now => now
    | none =>
      refine Contract.Safe.bind (neutral_atomic t (o := .baselineResults _) trivial) fun baseline => ?_
      split
      · exact Contract.Safe.raise fun _ _ _ now => now
      refine Contract.Safe.bind (neutral_atomic t (o := .sourceRuns _) trivial) fun sources => ?_
      cases sources with
      | nil => exact Contract.Safe.raise fun _ _ _ now => now
      | cons source rest =>
        dsimp only
        split
        · exact Contract.Safe.raise fun _ _ _ now => now
        refine Contract.Safe.bind (neutral_atomic t (o := .latestTerminal _ _) trivial) fun latest => ?_
        refine Contract.Safe.bind (neutral_atomic t (o := .enqueueSnapshotBatch _ _ _) trivial) fun run => ?_
        obtain ⟨run, created⟩ := run
        exact Contract.Safe.ite (fun _ => link_safe t _ _ _ _) fun _ => Contract.Safe.ret fun _ _ _ now => now

theorem evaluate_safe (id run : ObjectId) (actor : String) :
    ledger.Safe t (Balanced t) (evaluateFindingRetest t id run actor) (fun _ => Balanced t) (fun _ => Balanced t) := by
  refine Contract.Safe.bind (neutral_atomic t (o := .find id) trivial) fun found => ?_
  cases found with
  | none => exact Contract.Safe.raise fun _ _ _ now => now
  | some finding =>
    refine Contract.Safe.bind (neutral_atomic t (o := .retestRun _ _ _) trivial) fun retest => ?_
    cases retest with
    | none => exact Contract.Safe.raise fun _ _ _ now => now
    | some retest =>
      dsimp only
      split
      · exact Contract.Safe.raise fun _ _ _ now => now
      refine Contract.Safe.bind (neutral_atomic t (o := .runResults _) trivial) fun results => ?_
      have links : (linkResults finding.id retest.id results).Uses FindingOp.Neutral :=
        Prog.Uses.forEach fun _ => Prog.Uses.perform trivial
      refine Contract.Safe.bind (neutral_safe t links) fun _ => ?_
      split
      · split
        · exact transition_safe t _ _ _ _
        · exact transition_safe t _ _ _ _
        · refine Contract.Safe.bind (neutral_atomic t (o := .verifyEvent _ _ _) trivial) fun existing => ?_
          exact neutral_safe t (Prog.Uses.when (Prog.Uses.perform rfl))
      · exact Contract.Safe.ret fun _ _ _ now => now

theorem evaluateCompleted_safe (actor : String) (run : RetestRun) :
    ledger.Safe t (Balanced t) (evaluateCompleted t actor run) (fun _ => Balanced t) (fun _ => Balanced t) := by
  unfold evaluateCompleted
  split
  · exact Contract.Safe.ret fun _ _ _ now => now
  · refine Contract.Safe.bind (neutral_atomic t (o := .pendingFinding _) trivial) fun finding => ?_
    cases finding with
    | none => exact Contract.Safe.ret fun _ _ _ now => now
    | some finding =>
      refine Contract.Safe.bind (neutral_atomic t (o := .evaluationMarker _ _) trivial) fun marker => ?_
      cases marker with
      | true => exact Contract.Safe.ret fun _ _ _ now => now
      | false => exact evaluate_safe t _ _ _

theorem call_safe (call : FindingCall) :
    ledger.Safe t (Balanced t) (call.code t) (fun _ => Balanced t) (fun _ => Balanced t) := by
  cases call with
  | transition id target note evidence => exact transition_safe t id target note evidence
  | link id actor run results => exact link_safe t id actor run results
  | schedule id actor => exact schedule_safe t id actor
  | evaluate id run actor => exact evaluate_safe t id run actor
  | evaluateCompleted limit actor =>
    refine Contract.Safe.bind (neutral_atomic t (o := .completedRetests _) trivial) fun runs => ?_
    exact Contract.Safe.forEach (C := ledger) (φ := fun _ => Balanced t)
      (fun run _ => evaluateCompleted_safe t actor run) runs

theorem caller_safe (calls : List FindingCall) :
    ledger.Safe t (Balanced t) (callerCode t calls) (fun _ => Balanced t) (fun _ => Balanced t) := by
  refine Contract.Safe.forEach (C := ledger) (φ := fun _ => Balanced t) (fun call _ => ?_) calls
  exact Contract.Safe.handle (call_safe t call) fun _ => Contract.Safe.ret fun _ _ _ now => now

/-- The scheduler leaves the finding and its log alone. -/
theorem scheduleStep_keeps (change : scheduleStep i s = some s') :
    s'.finding = s.finding ∧ s'.events = s.events ∧ s'.history = s.history := by
  simp only [scheduleStep] at change
  split at change
  · split at change
    · cases change
    · cases change
      exact ⟨rfl, rfl, rfl⟩
  · split at change
    · cases change
    · split at change
      · cases change
        exact ⟨rfl, rfl, rfl⟩
      · cases change

/-- **The contract holds** of every caller, beside the scheduler. -/
theorem ledger_holds : ledger.Holds where
  waits := balanced_stable
  start t i s p s' _ inv balanced _ code _ := by
    cases code
    exact ⟨inv, ⟨rfl, fun _ _ => ⟨rfl, rfl⟩⟩, Balanced t, balanced_stable t, balanced, caller_safe t i.calls⟩
  environment i s s' _ inv change _ := by
    obtain ⟨finding, events, history⟩ := scheduleStep_keeps change
    have sameMoves : moves s' = moves s := by simp only [moves, history]
    have sameRows : rows s' = rows s := by simp only [rows, events]
    refine ⟨Ordered.congr inv sameMoves sameRows (by rw [finding]), by rw [finding], fun w _ => ?_⟩
    exact ⟨by rw [sameMoves], by rw [sameRows]⟩

/-! ## The log -/

/-- The log tells the history so far. -/
structure Logged (s : FindingStore) : Prop where
  rows : moves s = rows s
  chain : Chain none (moves s) (some s.finding.status)

theorem ordered_of_run (logged : Logged s) {c : Config findingDesk}
    (run : Run current (openDesk s) c) : ledger.Sound c := by
  refine Contract.sound ledger_holds (fun _ _ => trivial) ?_ run
  exact Contract.Sound.initial ⟨logged.chain, by rw [logged.rows]⟩
    fun t => show byCaller _ _ = byCaller _ _ by rw [logged.rows]

/-- History is only added to. -/
theorem execFinding_history {t : Nat}
    {r : Except PyError o.Ret} (exec : execFinding t o i s = some (r, s')) :
    ∃ more, moves s' = moves s ++ more := by
  cases o with
  | setStatus id validated target run =>
    by_cases here : s.finding.id = id
    · exact ⟨_, (setStatus_moves (i := i) t here exec).2.1⟩
    · simp only [execFinding, here, if_false] at exec
      cases exec
      exact ⟨[], (List.append_nil _).symm⟩
  | saveEvent event =>
    cases exec
    exact ⟨[], (List.append_nil _).symm⟩
  | find | pushRunId | linkResult | activeRetest | baselineResults | sourceRuns | latestTerminal
  | enqueueSnapshotBatch | retestRun | runResults | verifyEvent | completedRetests | pendingFinding
  | evaluationMarker =>
    have same := (execFinding_neutral t exec trivial).1
    exact ⟨[], same.trans (List.append_nil _).symm⟩

theorem moves_of_run {g : Guard findingDesk} {c d : Config findingDesk} (run : Run g c d) :
    ∃ more, moves d.state = moves c.state ++ more := by
  induction run with
  | refl => exact ⟨[], (List.append_nil _).symm⟩
  | tail _ _ taken ih =>
    obtain ⟨more, soFar⟩ := ih
    cases Config.next_cases taken with
    | start _ code =>
      cases code
      exact ⟨more, soFar⟩
    | step _ exec =>
      obtain ⟨further, then_⟩ := execFinding_history exec
      exact ⟨more ++ further, by rw [then_, soFar, List.append_assoc]⟩
    | environment change =>
      have same := (scheduleStep_keeps change).2.2
      exact ⟨more, by simpa only [moves, same] using soFar⟩

/-- What the log says of a finding between two states of a run: once nobody is at work it explains
the status, and a closed status is never left. -/
structure LogExplainsStatus (c d : Config findingDesk) : Prop where
  explained : d.Quiet → Explained d.state
  closed : c.state.finding.status.isClosed = true → d.state.finding.status = c.state.finding.status

/-- **Event log.** It explains the status in every run in which a transition is written while the
finding still has the status the transition was validated against. -/
theorem log_explains_status (s : FindingStore) (logged : Logged s) (c d : Config findingDesk)
    (reached : Run current (openDesk s) c) (run : Run current c d) : LogExplainsStatus c d := by
  have before := ordered_of_run logged reached
  have after := ordered_of_run logged (reached.trans run)
  refine ⟨fun quiet => ?_, fun closed => ?_⟩
  · have balanced : ∀ caller, byCaller caller (moves d.state) = byCaller caller (rows d.state) := by
      intro caller
      cases caller with
      | none => exact after.inv.nobody
      | some t =>
        cases code : d.threads t with
        | none => exact after.waiting t code
        | some rest => exact after.left trivial code (quiet t rest code)
    exact ⟨moves d.state, perm_of_byCaller balanced, balanced, after.inv.chain⟩
  · obtain ⟨more, grown⟩ := moves_of_run run
    have chain := after.inv.chain
    rw [grown] at chain
    obtain ⟨middle, first, rest⟩ := chain.split
    obtain rfl := first.end_unique before.inv.chain
    exact Option.some.inj (rest.closed closed)

/-! ## Two reviewers at once -/

/-- A finding that was just confirmed. -/
def newFinding : FindingStore where
  finding := { id := 1 }
  events := [{ caller := none, eventType := .created, toStatus := some .opened }]
  runs := []
  results := []
  nextId := 10
  history := [.moved none none .opened none]

theorem newFinding_logged : Logged newFinding := ⟨rfl, .opened .nil⟩

/-- A reviewer who begins to make one transition. -/
def review (t : Nat) (target : FindingStatus) : Label findingDesk :=
  .start t { calls := [.transition 1 target {} false] }

def turns (t n : Nat) : List (Label findingDesk) := List.replicate n (.step t {})

/-- Both read the finding as open; one closes it as a false positive, then the other moves it on. -/
def twoReviewers : List (Label findingDesk) :=
  [review 0 .falsePositive, review 1 .fixing] ++ turns 0 1 ++ turns 1 1 ++ turns 0 2 ++ turns 1 2

theorem log_does_not_explain : ¬ ∀ s, Logged s → ∀ c d : Config findingDesk,
    Run (Guard.free findingDesk) (openDesk s) c → Run (Guard.free findingDesk) c d → LogExplainsStatus c d := by
  intro explains
  let P (d : Config findingDesk) : Bool := decide ((fromOpen (rows d.state)).length = 2) &&
    (twoReviewers.filterMap Label.starts).all fun t => (d.threads t).all Prog.ended
  have follows : ((openDesk newFinding).follow (Guard.free findingDesk) twoReviewers).any P = true := by
    decide +kernel
  obtain ⟨d, found, holds⟩ := Option.any_eq_true _ _ |>.mp follows
  simp only [P, Bool.and_eq_true, decide_eq_true_eq] at holds
  obtain ⟨twice, ended⟩ := holds
  obtain ⟨order, perm, _, chain⟩ := (explains newFinding newFinding_logged _ d .refl (.of_follow found)).explained
    (Config.quiet_of_follow found ended)
  have once := chain.leaves_open_once
  have same : (fromOpen order).length = (fromOpen (rows d.state)).length := (perm.filter _).length_eq
  omega

/-- One reviewer after the other. -/
theorem log_explains_two_reviews : ∃ d : Config findingDesk,
    d.state.finding.status = .acceptedRisk ∧ LogExplainsStatus (openDesk newFinding) d := by
  let P (d : Config findingDesk) : Bool := d.state.finding.status == .acceptedRisk
  obtain ⟨d, run, shown⟩ := Run.exists_of_follow (P := P)
    (show ((openDesk newFinding).follow current
      ([review 0 .fixing] ++ turns 0 3 ++ [review 1 .acceptedRisk] ++ turns 1 3)).any P = true by decide +kernel)
  exact ⟨d, by simpa [P] using shown, log_explains_status newFinding newFinding_logged _ d .refl run⟩

end ApiManger.Findings
