import ApiManger.Mfa.PushBroker

/-!
# Codes of the in-memory broker

The lock decides at once whether a transaction is still in the inbox and whether it
has a code, so a code that was accepted is the one its wait call returns at its next
turn, however late that turn comes.
-/

namespace ApiManger.Mfa
open Python Transition

/-! ## What a step does -/

/-- The codes a transaction may have while its wait call is in the phase. -/
def WaitPhase.Fits : WaitPhase → Option String → Prop
  | .created, code | .entering _, code | .ended (.error _), code => code = none
  | .waiting _, _ => True
  | .ended (.ok c), code => code = some c

/-- What one action does to a broker. -/
inductive BrokerStep (s : Broker) : BrokerAction → Broker → Prop
  | quiet {a : BrokerAction} (clock : ℕ) (pending : List String) (sub : ∀ t ∈ pending, t ∈ s.pending)
      (nobody : ∀ t, a.turnOf t = false) : BrokerStep s a { s with clock := clock, pending := pending }
  | created {token receiver correlation : String} {timeoutSeconds : Int} (t : String) (item : PendingTransaction)
      (timeout : ℕ) (new : s.waits.get? t = none) (blank : item.code = none) :
      BrokerStep s (.wait token receiver correlation timeoutSeconds)
        { s with transactions := s.transactions.set t item, waits := s.waits.set t ⟨timeout, .created⟩ }
  | moved (t : String) (call : WaitCall) (item : PendingTransaction) (phase : WaitPhase) (pending : List String)
      (found : s.waits.get? t = some call) (here : s.transactions.get? t = some item)
      (running : ∀ o, call.phase ≠ .ended o) (sub : ∀ u ∈ pending, u ∈ s.pending ∨ u = t)
      (stays : t ∈ pending → (∃ d, phase = .waiting d) ∨ (t ∈ s.pending ∧ ∀ d, call.phase ≠ .waiting d))
      (blank : item.code = none → phase.Fits none)
      (reads : ∀ c d, item.code = some c → call.phase = .waiting d → phase = .ended (validateMfaCode (.str c))) :
      BrokerStep s (.advance t) ({ s with pending := pending }.moveTo t call phase)
  | accepted {id : String} {value : Json} (t c : String) (item : PendingTransaction) (pending : List String)
      (sub : ∀ u ∈ pending, u ∈ s.pending) (inbox : t ∈ s.pending) (here : s.transactions.get? t = some item)
      (open_ : item.code = none) (valid : validateMfaCode value = .ok c) :
      BrokerStep s (.deliver id value) { s with
        pending := pending
        transactions := s.transactions.set t { item with code := some c }
        accepted := s.accepted ++ [(t, c)] }

variable {s : Broker}

theorem mem_cleanup {now : ℕ} {t : String} (h : t ∈ (s.cleanup now).pending) : t ∈ s.pending :=
  (List.mem_filter.mp h).1

/-- One turn of the loop reads the code, gives up or goes on waiting. -/
theorem loop_cases (s : Broker) (t : String) (call : WaitCall) (item : PendingTransaction) (deadline : ℕ) :
    (∃ c, item.code = some c ∧
      s.loop t call item deadline = (s.pop t).moveTo t call (.ended (validateMfaCode (.str c)))) ∨
    (item.code = none ∧ s.loop t call item deadline = (s.pop t).moveTo t call (.ended (.error receiverTimedOut))) ∨
    (item.code = none ∧ s.loop t call item deadline = s.moveTo t call (.waiting deadline)) := by
  unfold Broker.loop
  split
  · next c code => exact .inl ⟨c, code, rfl⟩
  · next code =>
    split
    · exact .inr (.inl ⟨code, rfl⟩)
    · exact .inr (.inr ⟨code, rfl⟩)

/-- The inversion of a turn of a wait call. -/
theorem advance_step {s' : Broker} {t : String} (h : s.advance t = some s') : BrokerStep s (.advance t) s' := by
  unfold Broker.advance at h
  split at h
  · next call item found here =>
    have popped : ∀ {pending : List String}, t ∉ pending.filter (· != t) := by simp
    split at h
    · next phase =>
      cases h
      refine .moved t call item _ s.pending found here ?_ (fun _ => .inl) ?_ (fun _ => rfl) ?_
      · simp [phase]
      · exact fun mem => .inr ⟨mem, by simp [phase]⟩
      · simp [phase]
    · next deadline phase =>
      have running : ∀ o, call.phase ≠ .ended o := by simp [phase]
      have reads : ∀ {next : WaitPhase} (c : String) (d : ℕ), item.code = some c → call.phase = .waiting d →
          next = .ended (validateMfaCode (.str c)) := by simp [phase]
      simp only at h
      split at h
      · cases h
        refine .moved t call item _ _ found here running (fun u mem => .inl (mem_cleanup mem)) ?_ (fun _ => rfl) reads
        exact fun mem => .inr ⟨mem_cleanup mem, by simp [phase]⟩
      · cases h
        have front : ∀ u ∈ (s.cleanup item.createdAt).pending ++ [t], u ∈ s.pending ∨ u = t := by
          intro u mem
          rcases List.mem_append.mp mem with old | new
          · exact .inl (mem_cleanup old)
          · exact .inr (List.mem_singleton.mp new)
        rcases loop_cases { s.cleanup item.createdAt with pending := (s.cleanup item.createdAt).pending ++ [t] } t
            call item deadline with ⟨c, code, eq⟩ | ⟨code, eq⟩ | ⟨code, eq⟩
        · rw [eq]
          refine .moved t call item _ _ found here running (fun u mem => front u (List.mem_filter.mp mem).1)
            (fun mem => absurd mem popped) (fun none_ => ?_) reads
          rw [code] at none_
          cases none_
        · rw [eq]
          exact .moved t call item _ _ found here running (fun u mem => front u (List.mem_filter.mp mem).1)
            (fun mem => absurd mem popped) (fun _ => rfl) reads
        · rw [eq]
          exact .moved t call item _ _ found here running front (fun _ => .inl ⟨deadline, rfl⟩) (fun _ => trivial) reads
    · next deadline phase =>
      cases h
      have running : ∀ o, call.phase ≠ .ended o := by simp [phase]
      rcases loop_cases s t call item deadline with ⟨c, code, eq⟩ | ⟨code, eq⟩ | ⟨code, eq⟩
      · rw [eq]
        refine .moved t call item _ _ found here running (fun u mem => .inl (List.mem_filter.mp mem).1)
          (fun mem => absurd mem popped) (fun none_ => ?_) ?_
        · rw [code] at none_
          cases none_
        · intro c' d code' _
          rw [code] at code'
          cases code'
          rfl
      · rw [eq]
        refine .moved t call item _ _ found here running (fun u mem => .inl (List.mem_filter.mp mem).1)
          (fun mem => absurd mem popped) (fun _ => rfl) ?_
        simp [code]
      · rw [eq]
        refine .moved t call item _ s.pending found here running (fun _ => .inl) (fun _ => .inl ⟨deadline, rfl⟩)
          (fun _ => trivial) ?_
        simp [code]
    · cases h
  · cases h

/-- The inversion of a delivery that answers. -/
theorem deliver_step {s' : Broker} {id : String} {value : Json} {accepted : Bool}
    (h : s.deliver id value = .ok (accepted, s')) : BrokerStep s (.deliver id value) s' := by
  unfold Broker.deliver at h
  obtain ⟨c, valid, h⟩ := bind_eq_ok.mp h
  have refused : BrokerStep s (.deliver id value) (s.cleanup s.clock) :=
    .quiet s.clock _ (fun _ => mem_cleanup) fun _ => rfl
  simp only at h
  split at h
  · next listed =>
    have inbox : stripped id ∈ s.pending := mem_cleanup (List.contains_iff_mem.mp listed)
    split at h
    · next item here =>
      split at h
      · cases h
        exact refused
      · next open_ =>
        cases h
        exact .accepted (stripped id) c item _ (fun _ => mem_cleanup) inbox here open_ valid
    · cases h
      exact refused
  · cases h
    exact refused

/-- The inversion of one action. -/
theorem broker_step {s' : Broker} {a : BrokerAction} (h : brokerSystem.step s a = some s') :
    BrokerStep s a s' := by
  have same : ∀ {a : BrokerAction}, (∀ t, a.turnOf t = false) → BrokerStep s a s :=
    fun nobody => .quiet s.clock s.pending (fun _ => id) nobody
  cases a with
  | wait token receiver correlation timeoutSeconds =>
    simp only [brokerSystem, Broker.wait] at h
    split at h
    · cases h
      exact same fun _ => rfl
    · split at h
      · cases h
      · next new =>
        cases h
        exact .created _ _ _ (Option.not_isSome_iff_eq_none.mp new) rfl
  | advance t => exact advance_step h
  | deliver id value =>
    simp only [brokerSystem] at h
    split at h
    · next answered =>
      cases h
      exact deliver_step answered
    · cases h
      exact same fun _ => rfl
  | pending receiver =>
    simp only [brokerSystem] at h
    split at h
    · next answered =>
      cases h
      unfold Broker.pendingRows at answered
      obtain ⟨_, _, answered⟩ := bind_eq_ok.mp answered
      cases answered
      exact .quiet s.clock _ (fun _ => mem_cleanup) fun _ => rfl
    · cases h
      exact same fun _ => rfl
  | pass millis =>
    cases h
    exact .quiet _ s.pending (fun _ => id) fun _ => rfl

/-! ## The invariant -/

/-- What holds of a broker between any two steps. -/
structure Broker.Kept (s : Broker) : Prop where
  owned : ∀ t item, s.transactions.get? t = some item → ∃ call, s.waits.get? t = some call
  fits : ∀ t call, s.waits.get? t = some call →
    ∃ item, s.transactions.get? t = some item ∧ call.phase.Fits item.code
  inbox : ∀ t ∈ s.pending, ∃ call d, s.waits.get? t = some call ∧ call.phase = .waiting d
  once : (s.accepted.map Prod.fst).Nodup
  coded : ∀ t c, (t, c) ∈ s.accepted ↔ ∃ item, s.transactions.get? t = some item ∧ item.code = some c
  valid : ∀ t item c, s.transactions.get? t = some item → item.code = some c →
    validateMfaCode (.str c) = .ok c

theorem Broker.Kept.new (maxPending : Int) (clock : ℕ) : (Broker.new maxPending clock).Kept where
  owned _ _ h := nomatch h
  fits _ _ h := nomatch h
  inbox _ h := nomatch h
  once := List.nodup_nil
  coded t c := by simp [Broker.new]
  valid _ _ _ h := nomatch h

namespace BrokerStep

variable {s s' : Broker} {a : BrokerAction}

variable {pending : List String} {t : String} {item : PendingTransaction}

/-- The inbox loses transactions. -/
theorem quiet_kept (inv : s.Kept) {clock : ℕ} (sub : ∀ t ∈ pending, t ∈ s.pending) :
    Broker.Kept { s with clock := clock, pending := pending } :=
  ⟨inv.owned, inv.fits, fun t mem => inv.inbox t (sub t mem), inv.once, inv.coded, inv.valid⟩

/-- A wait call makes its transaction. -/
theorem created_kept (inv : s.Kept) {timeout : ℕ}
    (new : s.waits.get? t = none) (blank : item.code = none) :
    Broker.Kept { s with
      transactions := s.transactions.set t item, waits := s.waits.set t ⟨timeout, .created⟩ } := by
  have unused : s.transactions.get? t = none := by
    cases here : s.transactions.get? t with
    | none => rfl
    | some item =>
      obtain ⟨call, found⟩ := inv.owned t item here
      rw [new] at found
      cases found
  constructor
  · intro u found here
    simp only [Mapping.get?_set] at here ⊢
    by_cases same : t = u
    · rw [if_pos same]
      exact ⟨_, rfl⟩
    · rw [if_neg same] at here ⊢
      exact inv.owned u found here
  · intro u call found
    simp only [Mapping.get?_set] at found ⊢
    by_cases same : t = u
    · rw [if_pos same] at found ⊢
      cases found
      exact ⟨item, rfl, blank⟩
    · rw [if_neg same] at found ⊢
      exact inv.fits u call found
  · intro u mem
    obtain ⟨call, d, found, phase⟩ := inv.inbox u mem
    have other : t ≠ u := by
      rintro rfl
      rw [new] at found
      cases found
    exact ⟨call, d, by rw [Mapping.get?_set, if_neg other, found], phase⟩
  · exact inv.once
  · intro u c
    rw [inv.coded u c]
    simp only [Mapping.get?_set]
    by_cases same : t = u
    · subst same
      simp [unused, blank]
    · simp [same]
  · intro u found c here code
    simp only [Mapping.get?_set] at here
    by_cases same : t = u
    · rw [if_pos same] at here
      cases here
      rw [blank] at code
      cases code
    · rw [if_neg same] at here
      exact inv.valid u found c here code

/-- A wait call goes on, with its transaction in the inbox only while it waits. -/
theorem moved_kept (inv : s.Kept) {call : WaitCall} {phase : WaitPhase} (found : s.waits.get? t = some call) (here : s.transactions.get? t = some item)
    (sub : ∀ u ∈ pending, u ∈ s.pending ∨ u = t)
    (stays : t ∈ pending → (∃ d, phase = .waiting d) ∨ (t ∈ s.pending ∧ ∀ d, call.phase ≠ .waiting d))
    (fits : phase.Fits item.code) : ({ s with pending := pending }.moveTo t call phase).Kept := by
  constructor
  · intro u found here
    simp only [Broker.moveTo, Mapping.get?_set]
    by_cases same : t = u
    · rw [if_pos same]
      exact ⟨_, rfl⟩
    · rw [if_neg same]
      exact inv.owned u found here
  · intro u other there
    simp only [Broker.moveTo, Mapping.get?_set] at there ⊢
    by_cases same : t = u
    · rw [if_pos same] at there
      subst same
      cases there
      exact ⟨item, here, fits⟩
    · rw [if_neg same] at there
      exact inv.fits u other there
  · intro u mem
    simp only [Broker.moveTo, Mapping.get?_set]
    by_cases same : t = u
    · subst same
      rw [if_pos rfl]
      rcases stays mem with ⟨d, rfl⟩ | ⟨old, elsewhere⟩
      · exact ⟨_, d, rfl, rfl⟩
      · obtain ⟨waiting, d, found', phase'⟩ := inv.inbox t old
        rw [found] at found'
        cases found'
        exact absurd phase' (elsewhere d)
    · rw [if_neg same]
      rcases sub u mem with old | new
      · exact inv.inbox u old
      · exact absurd new.symm same
  · exact inv.once
  · exact inv.coded
  · exact inv.valid

/-- A code goes into a transaction of the inbox that has none. -/
theorem accepted_kept (inv : s.Kept) {c : String}
    {value : Json} (sub : ∀ u ∈ pending, u ∈ s.pending) (inbox : t ∈ s.pending)
    (here : s.transactions.get? t = some item) (open_ : item.code = none)
    (valid : validateMfaCode value = .ok c) : Broker.Kept { s with
      pending := pending, transactions := s.transactions.set t { item with code := some c }
      accepted := s.accepted ++ [(t, c)] } := by
  have none_ : ∀ c, (t, c) ∉ s.accepted := by
    intro c mem
    obtain ⟨found, there, code⟩ := (inv.coded t c).mp mem
    rw [here] at there
    cases there
    rw [open_] at code
    cases code
  obtain ⟨call, d, found, phase⟩ := inv.inbox t inbox
  constructor
  · intro u other there
    simp only [Mapping.get?_set] at there
    by_cases same : t = u
    · exact same ▸ ⟨call, found⟩
    · rw [if_neg same] at there
      exact inv.owned u other there
  · intro u other there
    simp only [Mapping.get?_set]
    by_cases same : t = u
    · subst same
      rw [if_pos rfl]
      rw [found] at there
      cases there
      exact ⟨_, rfl, by rw [phase]; trivial⟩
    · rw [if_neg same]
      exact inv.fits u other there
  · exact fun u mem => inv.inbox u (sub u mem)
  · rw [List.map_append, List.nodup_append]
    refine ⟨inv.once, List.nodup_singleton _, ?_⟩
    intro u mem v single same
    obtain rfl := List.mem_singleton.mp single
    obtain ⟨⟨_, c⟩, listed, rfl⟩ := List.mem_map.mp mem
    exact none_ c (same ▸ listed)
  · intro u c'
    simp only [Mapping.get?_set, List.mem_append, List.mem_singleton, Prod.mk.injEq]
    by_cases same : t = u
    · subst same
      constructor
      · rintro (old | ⟨_, rfl⟩)
        · exact absurd old (none_ c')
        · exact ⟨_, if_pos rfl, rfl⟩
      · rintro ⟨_, there, code⟩
        rw [if_pos rfl] at there
        cases there
        cases code
        exact .inr ⟨rfl, rfl⟩
    · rw [if_neg same, ← inv.coded u c']
      simp [Ne.symm same]
  · intro u other c' there code
    simp only [Mapping.get?_set] at there
    by_cases same : t = u
    · rw [if_pos same] at there
      cases there
      cases code
      exact validateMfaCode_again valid
    · rw [if_neg same] at there
      exact inv.valid u other c' there code

/-- Every step keeps the invariant. -/
theorem kept (inv : s.Kept) (h : BrokerStep s a s') : s'.Kept := by
  cases h with
  | quiet clock pending sub nobody => exact quiet_kept inv sub
  | created t item timeout new blank => exact created_kept inv new blank
  | moved t call item phase pending found here running sub stays blank reads =>
    refine moved_kept inv found here sub stays ?_
    obtain ⟨item', here', fits⟩ := inv.fits t call found
    rw [here] at here'
    cases here'
    cases code : item.code with
    | none => exact blank code
    | some c =>
      rw [code] at fits
      cases at_ : call.phase with
      | waiting d =>
        rw [reads c d code at_, inv.valid t item c here code]
        rfl
      | created => simp [at_, WaitPhase.Fits] at fits
      | entering d => simp [at_, WaitPhase.Fits] at fits
      | ended o => exact absurd at_ (running o)
  | accepted t c item pending sub inbox here open_ valid => exact accepted_kept inv sub inbox here open_ valid

/-- Another's turn leaves a wait call where it is, and no step takes an accepted delivery back. -/
theorem frame (h : BrokerStep s a s') {call : WaitCall} (found : s.waits.get? t = some call)
    (other : a.turnOf t = false) : s'.waits.get? t = some call := by
  cases h with
  | quiet => exact found
  | created u item timeout new blank =>
    have apart : u ≠ t := by
      rintro rfl
      rw [new] at found
      cases found
    rw [Mapping.get?_set, if_neg apart, found]
  | moved u =>
    have apart : u ≠ t := by simpa [BrokerAction.turnOf] using other
    rw [Broker.moveTo, Mapping.get?_set, if_neg apart, found]
  | accepted => exact found

theorem accepted_stays (h : BrokerStep s a s') {e : String × String} (mem : e ∈ s.accepted) : e ∈ s'.accepted := by
  cases h with
  | quiet | created | moved => exact mem
  | accepted => exact List.mem_append_left _ mem

end BrokerStep

/-! ## Every run -/

section
variable {s s' : Broker} {as : List BrokerAction} {t c : String}

theorem Broker.outcome_eq {o : Outcome} :
    s.outcome t = some o ↔ ∃ call, s.waits.get? t = some call ∧ call.phase = .ended o := by
  unfold Broker.outcome
  split
  · next found => simp [found]
  · next other =>
    constructor
    · nofun
    · rintro ⟨⟨timeout, phase⟩, found, rfl⟩
      exact absurd found (other timeout o)

theorem kept_run (inv : s.Kept) (run : brokerSystem.run (free _ _) s as = some s') : s'.Kept :=
  System.invariant inv (fun _ _ _ inv _ step => (broker_step step).kept inv) run

/-- The codes that were accepted and the ones that were returned are the same. -/
theorem Broker.Kept.consumedOnce (inv : s.Kept) : ConsumedOnce s.accepted s.outcome where
  once := inv.once
  delivered t c mem o ended := by
    obtain ⟨call, found, phase⟩ := Broker.outcome_eq.mp ended
    obtain ⟨item, here, code⟩ := (inv.coded t c).mp mem
    obtain ⟨item', here', fits⟩ := inv.fits t call found
    rw [here] at here'
    cases here'
    rw [phase, code] at fits
    cases o with
    | ok d => exact congrArg Except.ok (Option.some.inj fits).symm
    | error e => cases fits
  own t c ended := by
    obtain ⟨call, found, phase⟩ := Broker.outcome_eq.mp ended
    obtain ⟨item, here, fits⟩ := inv.fits t call found
    rw [phase] at fits
    exact (inv.coded t c).mpr ⟨item, here, fits⟩

/-- The wait call of an accepted code, as long as it is not over, is about to return it. -/
theorem Broker.Kept.waiting (inv : s.Kept) (mem : (t, c) ∈ s.accepted) :
    s.outcome t = some (.ok c) ∨ ∃ call d, s.waits.get? t = some call ∧ call.phase = .waiting d := by
  obtain ⟨item, here, code⟩ := (inv.coded t c).mp mem
  obtain ⟨call, found⟩ := inv.owned t item here
  obtain ⟨item', here', fits⟩ := inv.fits t call found
  rw [here] at here'
  cases here'
  rw [code] at fits
  cases at_ : call.phase with
  | waiting d => exact .inr ⟨call, d, found, at_⟩
  | created => simp [at_, WaitPhase.Fits] at fits
  | entering d => simp [at_, WaitPhase.Fits] at fits
  | ended o =>
    have ended := Broker.outcome_eq.mpr ⟨call, found, at_⟩
    exact .inl (ended.trans (congrArg some (inv.consumedOnce.delivered t c mem o ended)))

/-- A wait call that is over stays over. -/
theorem outcome_stays {a : BrokerAction} {o : Outcome} (ended : s.outcome t = some o)
    (step : brokerSystem.step s a = some s') : s'.outcome t = some o := by
  obtain ⟨call, found, phase⟩ := Broker.outcome_eq.mp ended
  by_cases own : a.turnOf t = true
  · cases broker_step step with
    | quiet clock pending sub nobody => simp [nobody t] at own
    | created => cases own
    | moved u call' item phase' pending found' here running =>
      obtain rfl : u = t := by simpa [BrokerAction.turnOf] using own
      rw [found] at found'
      cases found'
      exact absurd phase (running o)
    | accepted => cases own
  · exact Broker.outcome_eq.mpr ⟨call, (broker_step step).frame found (Bool.eq_false_iff.mpr own), phase⟩

/-- At its next turn, the wait call of an accepted code returns it. -/
theorem broker_returns (inv : s.Kept) (mem : (t, c) ∈ s.accepted)
    (run : brokerSystem.run (free _ _) s as = some s') (turn : 1 ≤ as.countP (BrokerAction.turnOf t)) :
    s'.outcome t = some (.ok c) := by
  have done : s'.outcome t = some (.ok c) ∨ s.outcome t = none := by
    rcases inv.waiting mem with ended | ⟨call, d, found, phase⟩
    · exact .inl (System.invariant (I := fun s => s.outcome t = some (.ok c)) ended
        (fun _ _ _ ended _ step => outcome_stays ended step) run)
    · right
      obtain ⟨timeout, _⟩ := call
      cases phase
      simp only [Broker.outcome, found]
  rcases done with ended | open_
  · exact ended
  refine System.ranked (fun s => (s.Kept ∧ (t, c) ∈ s.accepted) ∧ s.outcome t = none)
    (fun s => s.outcome t = some (.ok c)) (fun _ => 1) (BrokerAction.turnOf t)
    (fun _ _ _ ended _ step => outcome_stays ended step) ?_ (fun _ _ => Nat.one_pos) ⟨⟨inv, mem⟩, open_⟩ run turn
  intro s a s' ⟨⟨inv, mem⟩, open_⟩ _ step
  have inv' := (broker_step step).kept inv
  have mem' := (broker_step step).accepted_stays mem
  rcases inv'.waiting mem' with ended | ⟨call', d', found', phase'⟩
  · exact .inl ended
  have still : s'.outcome t = none := by
    obtain ⟨timeout, _⟩ := call'
    cases phase'
    simp only [Broker.outcome, found']
  rcases inv.waiting mem with ended | ⟨call, d, found, phase⟩
  · rw [open_] at ended
    cases ended
  by_cases own : a.turnOf t = true
  · -- the turn of the wait call itself: it finds the code
    cases broker_step step with
    | quiet clock pending sub nobody => simp [nobody t] at own
    | created => cases own
    | moved u call₁ item phase₁ pending found₁ here running sub stays blank reads =>
      obtain rfl : u = t := by simpa [BrokerAction.turnOf] using own
      rw [found] at found₁
      cases found₁
      obtain ⟨item', here', code⟩ := (inv.coded u c).mp mem
      rw [here] at here'
      cases here'
      simp [Broker.moveTo, Mapping.get?_set, reads c d code phase] at found'
      subst found'
      cases phase'
    | accepted => cases own
  · exact .inr ⟨⟨⟨inv', mem'⟩, still⟩, by simp [own]⟩

end

end ApiManger.Mfa
