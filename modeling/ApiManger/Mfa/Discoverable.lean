import ApiManger.Mfa.RedisOnce

/-!
# Pending transactions

All transactions of a receiver are members of one sorted set, and every wait call
that publishes a transaction sets the time to live of that set anew, by its own
timeout. As long as the set is not dropped while a wait call needs it, `pending`
lists what can be delivered to, and nothing else.
-/

namespace ApiManger.Mfa
open Python Transition

/-! ## The condition -/

/-- The transaction is published and not yet withdrawn. -/
def PollPhase.listed : PollPhase → Bool
  | .published | .checking _ | .polling _ | .asleep _ _ | .leaving _ => true
  | .starting | .ended _ => false

namespace RedisState

/-- A delivery to the transaction was accepted. -/
def delivered (s : RedisState) (t : String) : Bool := s.accepted.any (·.1 == t)

/-- At the time `now`, the wait call of the receiver still polls for a code, and none was delivered. -/
def awaits (s : RedisState) (now : ℕ) (receiverId : String) (t : String) (call : PollCall) : Bool :=
  call.receiverId == receiverId && call.phase.reading && decide (now < call.expiresAt) && !s.delivered t

/-- The transactions of the receiver that are published and have not expired. -/
def openOn (s : RedisState) (receiverId : String) : List (String × PollCall) :=
  s.waits.items.filter fun e => e.2.receiverId == receiverId && e.2.phase.listed && decide (s.clock < e.2.expiresAt)

end RedisState

/-- The sorted set of a receiver is not dropped while one of its transactions awaits a code. -/
def keysLast : Admits RedisState RedisAction
  | s, .pass millis => s.pendingSets.items.all fun e => decide (s.clock + millis < e.2.expireAt) ||
      !(s.waits.items.any fun w => s.awaits (s.clock + millis) e.1 w.1 w.2)
  | _, _ => true

/-! ## The invariant -/

/-- What is known of the transaction of a wait call. -/
structure Known (s : RedisState) (t : String) (call : PollCall) : Prop where
  created : call.createdAt ≤ s.clock
  hash : ∀ hash, s.transactions.get? t = some hash →
    call.phase.listed = true ∧ hash.expiresAt = call.expiresAt ∧ hash.code.any (· != "") = s.delivered t
  fresh : call.phase = .starting → s.delivered t = false
  alive : call.phase.listed = true → s.clock < call.expiresAt →
    ∃ hash, s.transactions.get? t = some hash ∧ call.expiresAt ≤ hash.expireAt
  member : ∀ receiverId score, (s.membersOf receiverId).get? t = some score →
    call.receiverId = receiverId ∧ call.phase.listed = true ∧ score = call.expiresAt
  found : call.phase.reading = true → s.clock < call.expiresAt → s.delivered t = false →
    (s.membersOf call.receiverId).get? t = some call.expiresAt

/-- Nothing is known of a transaction that no wait call has made. -/
structure Unknown (s : RedisState) (t : String) : Prop where
  hash : s.transactions.get? t = none
  delivered : s.delivered t = false
  member : ∀ receiverId, (s.membersOf receiverId).get? t = none

/-- What holds between any two steps. -/
structure RedisState.Listed (s : RedisState) : Prop where
  known : ∀ t call, s.waits.get? t = some call → Known s t call
  unknown : ∀ t, s.waits.get? t = none → Unknown s t
  started : ∀ caller call now, s.listings.get? caller = some call → call.phase = .started now → now ≤ s.clock

theorem RedisState.Listed.new (clock : ℕ) : RedisState.Listed { clock := clock } where
  known _ _ h := nomatch h
  unknown _ _ := ⟨rfl, rfl, fun _ => rfl⟩
  started _ _ _ h := nomatch h

section
variable {cipher : Cipher} {s s' : RedisState} {t : String}

/-! ## The sorted sets -/

theorem get?_of_items_empty {ν : Type} {d : Mapping ν} (empty : d.items.isEmpty = true) (key : String) :
    d.get? key = none := by
  cases found : d.get? key with
  | none => rfl
  | some value =>
    have mem := Mapping.mem_iff.mpr found
    rw [List.isEmpty_iff.mp empty] at mem
    cases mem

/-- What is left of the members of a sorted set. -/
theorem keepMembers_members (s : RedisState) (r : String) (keep : String × ℕ → Bool) (receiverId u : String) :
    ((s.keepMembers r keep).membersOf receiverId).get? u =
      if r = receiverId then ((s.membersOf r).get? u).filter (fun score => keep (u, score))
      else (s.membersOf receiverId).get? u := by
  unfold RedisState.keepMembers
  split
  · next absent =>
    split
    · next same =>
      subst same
      simp [RedisState.membersOf, absent]
    · rfl
  · next set present =>
    have kept : (s.membersOf r).get? u = set.members.get? u := by simp [RedisState.membersOf, present]
    split
    · next same =>
      subst same
      rw [kept, ← Mapping.get?_filterItems]
      cases empty : (set.members.filterItems keep).items.isEmpty with
      | true =>
        rw [get?_of_items_empty empty]
        simp only [RedisState.membersOf, empty, if_true, Mapping.get?_erase]
        rfl
      | false =>
        simp only [RedisState.membersOf, empty, Bool.false_eq_true, if_false, Mapping.get?_set, if_true]
        rfl
    · next other =>
      cases empty : (set.members.filterItems keep).items.isEmpty with
      | true => simp only [RedisState.membersOf, empty, if_true, Mapping.get?_erase, if_neg (Ne.symm other)]
      | false =>
        simp only [RedisState.membersOf, empty, Bool.false_eq_true, if_false, Mapping.get?_set, if_neg other]

theorem publish_members (s : RedisState) (t : String) (call : PollCall) (receiverId u : String) :
    ((s.publish t call).membersOf receiverId).get? u =
      if call.receiverId = receiverId ∧ t = u then some call.expiresAt else (s.membersOf receiverId).get? u := by
  simp only [RedisState.publish, RedisState.membersOf, Mapping.get?_set]
  by_cases here : call.receiverId = receiverId
  · subst here
    simp only [if_true, Option.map_some, Option.getD_some, Mapping.get?_set, true_and]
  · simp only [here, false_and, if_false]

/-! ## Steps -/

/-- A step that touches one transaction only. -/
theorem RedisState.Listed.at_one (inv : s.Listed) (call : PollCall) (clock : s'.clock = s.clock)
    (listings : s'.listings = s.listings)
    (waits : ∀ u, s'.waits.get? u = if t = u then some call else s.waits.get? u)
    (hash : ∀ u, u ≠ t → s'.transactions.get? u = s.transactions.get? u)
    (delivered : ∀ u, u ≠ t → s'.delivered u = s.delivered u)
    (members : ∀ r u, u ≠ t → (s'.membersOf r).get? u = (s.membersOf r).get? u)
    (own : Known s' t call) : s'.Listed where
  known u other found := by
    rw [waits] at found
    split at found
    · next same =>
      subst same
      cases found
      exact own
    · next apart =>
      have apart := Ne.symm apart
      obtain ⟨created, hash', fresh, alive, member, found'⟩ := inv.known u other found
      constructor
      · rw [clock]
        exact created
      · rw [hash u apart, delivered u apart]
        exact hash'
      · rw [delivered u apart]
        exact fresh
      · rw [clock, hash u apart]
        exact alive
      · intro r score
        rw [members r u apart]
        exact member r score
      · rw [clock, delivered u apart, members _ u apart]
        exact found'
  unknown u none_ := by
    rw [waits] at none_
    split at none_
    · cases none_
    · next apart =>
      have apart := Ne.symm apart
      obtain ⟨hash', delivered', member⟩ := inv.unknown u none_
      refine ⟨(hash u apart).trans hash', (delivered u apart).trans delivered', fun r => ?_⟩
      rw [members r u apart]
      exact member r
  started caller call now found phase := by
    rw [clock]
    rw [listings] at found
    exact inv.started caller call now found phase

variable {call : PollCall}

theorem RedisState.Listed.publish (inv : s.Listed) (found : s.waits.get? t = some call)
    (phase : call.phase = .starting) : ((s.publish t call).moveTo t call .published).Listed := by
  have known := inv.known t call found
  refine inv.at_one (t := t) { call with phase := .published } rfl rfl (fun u => Mapping.get?_set _ _ _ _)
    (fun u other => ?_) (fun _ _ => rfl) (fun r u other => ?_) ?_
  · exact (Mapping.get?_set _ _ _ _).trans (if_neg (Ne.symm other))
  · refine (publish_members s t call r u).trans (if_neg ?_)
    exact fun both => other both.2.symm
  · have undelivered : s.delivered t = false := known.fresh phase
    constructor
    · exact known.created
    · intro hash here
      rw [show ((s.publish t call).moveTo t call .published).transactions.get? t = _ from
        (Mapping.get?_set _ _ _ _).trans (if_pos rfl)] at here
      cases here
      exact ⟨rfl, rfl, undelivered.symm⟩
    · nofun
    · intro _ _
      refine ⟨_, (Mapping.get?_set _ _ _ _).trans (if_pos rfl), ?_⟩
      have created := known.created
      simp only [PollCall.expiresAt]
      omega
    · intro r score
      rw [show (((s.publish t call).moveTo t call .published).membersOf r).get? t = _ from
        publish_members s t call r t]
      split
      · next here =>
        rintro ⟨⟩
        exact ⟨here.1, rfl, rfl⟩
      · intro old
        have listed := (known.member r score old).2.1
        rw [phase] at listed
        cases listed
    · intro _ _ _
      exact (publish_members s t call _ t).trans (if_pos ⟨rfl, rfl⟩)

/-- Between its pipelines, a wait call goes from where it reads to where it is listed. -/
theorem PollMove.phases {before after : PollPhase} (move : PollMove cipher s t call before after) :
    before.reading = true ∧ after.listed = true := by
  cases move <;> exact ⟨rfl, rfl⟩

theorem listed_of_reading {phase : PollPhase} (reading : phase.reading = true) : phase.listed = true := by
  cases phase <;> first | rfl | cases reading

theorem RedisState.Listed.move (inv : s.Listed) {call : PollCall} {phase : PollPhase}
    (found : s.waits.get? t = some call) (move : PollMove cipher s t call call.phase phase) :
    (s.moveTo t call phase).Listed := by
  have known := inv.known t call found
  obtain ⟨reading, listed⟩ := move.phases
  have wasListed := listed_of_reading reading
  refine inv.at_one (t := t) { call with phase := phase } rfl rfl (fun u => Mapping.get?_set _ _ _ _)
    (fun _ _ => rfl) (fun _ _ => rfl) (fun _ _ _ => rfl) ?_
  constructor
  · exact known.created
  · exact fun hash here => ⟨listed, (known.hash hash here).2⟩
  · rintro rfl
    cases listed
  · exact fun _ early => known.alive wasListed early
  · exact fun r score mem => ⟨(known.member r score mem).1, listed, (known.member r score mem).2.2⟩
  · exact fun _ early none_ => known.found reading early none_

/-- A wait call withdraws its transaction. -/
theorem RedisState.Listed.withdraw (inv : s.Listed) (o : Outcome)
    (found : s.waits.get? t = some call) : ((s.withdraw t call).moveTo t call (.ended o)).Listed := by
  have known := inv.known t call found
  let rest : RedisState := { s with transactions := s.transactions.erase t }
  obtain ⟨transactions, waits, accepted⟩ := keepMembers_rest rest call.receiverId fun e => e.1 != t
  have clock : (rest.keepMembers call.receiverId fun e => e.1 != t).clock = s.clock ∧
      (rest.keepMembers call.receiverId fun e => e.1 != t).listings = s.listings := by
    unfold RedisState.keepMembers
    split <;> exact ⟨rfl, rfl⟩
  have hash : ∀ u, ((s.withdraw t call).moveTo t call (.ended o)).transactions.get? u =
      if u = t then none else s.transactions.get? u := by
    intro u
    change (rest.keepMembers call.receiverId fun e => e.1 != t).transactions.get? u = _
    rw [transactions]
    exact Mapping.get?_erase _ _ _
  have members : ∀ r u, (((s.withdraw t call).moveTo t call (.ended o)).membersOf r).get? u =
      if call.receiverId = r then ((s.membersOf call.receiverId).get? u).filter (fun _ => u != t)
      else (s.membersOf r).get? u :=
    fun r u => keepMembers_members rest call.receiverId (fun e => e.1 != t) r u
  have gone : ∀ r, (((s.withdraw t call).moveTo t call (.ended o)).membersOf r).get? t = none := by
    intro r
    rw [members]
    split
    · simp
    · next other =>
      cases old : (s.membersOf r).get? t with
      | none => rfl
      | some score => exact absurd (known.member r score old).1 other
  have delivered : ∀ u, ((s.withdraw t call).moveTo t call (.ended o)).delivered u = s.delivered u :=
    fun u => congrArg (fun l : List (String × String) => l.any (·.1 == u)) accepted
  refine inv.at_one (t := t) { call with phase := .ended o } clock.1 clock.2 (fun u => ?_) (fun u other => ?_)
    (fun u _ => delivered u) (fun r u other => ?_) ?_
  · change ((rest.keepMembers call.receiverId fun e => e.1 != t).waits.set t _).get? u = _
    rw [Mapping.get?_set, waits]
  · rw [hash, if_neg other]
  · rw [members]
    split
    · next same =>
      subst same
      rw [bne_iff_ne.mpr other]
      cases (s.membersOf call.receiverId).get? u <;> rfl
    · rfl
  · constructor
    · exact known.created.trans (le_of_eq clock.1.symm)
    · intro hash' here
      rw [hash, if_pos rfl] at here
      cases here
    · nofun
    · nofun
    · intro r score mem
      rw [gone] at mem
      cases mem
    · nofun

theorem RedisState.Listed.began (inv : s.Listed) (new : s.waits.get? t = none)
    (phase : call.phase = .starting) (created : call.createdAt = s.clock) :
    RedisState.Listed { s with waits := s.waits.set t call } := by
  have unknown := inv.unknown t new
  refine inv.at_one (t := t) call rfl rfl (fun u => Mapping.get?_set _ _ _ _) (fun _ _ => rfl) (fun _ _ => rfl)
    (fun _ _ _ => rfl) ?_
  constructor
  · exact created.le
  · intro hash here
    cases (unknown.hash.symm.trans here)
  · exact fun _ => unknown.delivered
  · rw [phase]
    nofun
  · intro r score mem
    cases ((unknown.member r).symm.trans mem)
  · rw [phase]
    nofun

/-- A code is put into a hash. -/
theorem RedisState.Listed.accept (inv : s.Listed) {c payload : String} {hash : TransactionHash}
    (here : s.transactions.get? t = some hash) (nonempty : payload ≠ "") :
    RedisState.Listed { s with
      transactions := s.transactions.set t { hash with code := some payload }
      accepted := s.accepted ++ [(t, c)] } := by
  obtain ⟨call, found⟩ : ∃ call, s.waits.get? t = some call := by
    cases found : s.waits.get? t with
    | some call => exact ⟨call, rfl⟩
    | none =>
      rw [(inv.unknown t found).hash] at here
      cases here
  have known := inv.known t call found
  obtain ⟨listed, expires, _⟩ := known.hash hash here
  have now : RedisState.delivered { s with accepted := s.accepted ++ [(t, c)] } t = true := by
    simp [RedisState.delivered]
  refine inv.at_one (t := t) call rfl rfl (fun u => ?_) (fun u other => ?_) (fun u other => ?_)
    (fun _ _ _ => rfl) ?_
  · split
    · next same => exact same ▸ found
    · rfl
  · rw [Mapping.get?_set, if_neg (Ne.symm other)]
  · simp [RedisState.delivered, Ne.symm other]
  · constructor
    · exact known.created
    · intro hash' here'
      rw [Mapping.get?_set, if_pos rfl] at here'
      cases here'
      exact ⟨listed, expires, (bne_iff_ne.mpr nonempty).trans now.symm⟩
    · intro phase
      rw [phase] at listed
      cases listed
    · intro _ early
      obtain ⟨hash', here', lasts⟩ := known.alive listed early
      rw [here] at here'
      cases here'
      exact ⟨{ hash with code := some payload }, by rw [Mapping.get?_set, if_pos rfl], lasts⟩
    · exact known.member
    · intro _ _ none_
      cases now.symm.trans none_

/-- `pending` drops what has expired. -/
theorem RedisState.Listed.trim (inv : s.Listed) {caller : String} {call : ListingCall} {now : ℕ}
    (found : s.listings.get? caller = some call) (phase : call.phase = .started now) :
    RedisState.Listed { s.trim call.receiverId now with
      listings := (s.trim call.receiverId now).listings.set caller { call with phase := .trimmed now } } := by
  have past := inv.started caller call now found phase
  obtain ⟨transactions, waits, accepted⟩ := keepMembers_rest s call.receiverId fun e => decide (now < e.2)
  have rest : (s.trim call.receiverId now).clock = s.clock ∧ (s.trim call.receiverId now).listings = s.listings := by
    unfold RedisState.trim RedisState.keepMembers
    split <;> exact ⟨rfl, rfl⟩
  have members : ∀ r u, ((s.trim call.receiverId now).membersOf r).get? u =
      if call.receiverId = r then ((s.membersOf call.receiverId).get? u).filter (fun score => decide (now < score))
      else (s.membersOf r).get? u :=
    fun r u => keepMembers_members s call.receiverId (fun e => decide (now < e.2)) r u
  have fewer : ∀ {r u : String} {score : ℕ}, ((s.trim call.receiverId now).membersOf r).get? u = some score →
      (s.membersOf r).get? u = some score := by
    intro r u score mem
    rw [members] at mem
    split at mem
    · next same => exact same ▸ (Option.filter_eq_some_iff.mp mem).1
    · exact mem
  have delivered : ∀ u, (s.trim call.receiverId now).delivered u = s.delivered u :=
    fun u => congrArg (fun l : List (String × String) => l.any (·.1 == u)) accepted
  constructor
  · intro t waiting there
    obtain ⟨created, hash, fresh, alive, member, listed⟩ :=
      inv.known t waiting ((congrArg (fun d : Mapping PollCall => d.get? t) waits).symm.trans there)
    have same : (s.trim call.receiverId now).transactions.get? t = s.transactions.get? t :=
      congrArg (fun d : Mapping TransactionHash => d.get? t) transactions
    constructor
    · exact created.trans (le_of_eq rest.1.symm)
    · intro hash' here
      obtain ⟨at_, expires, code⟩ := hash hash' (same.symm.trans here)
      exact ⟨at_, expires, code.trans (delivered t).symm⟩
    · exact fun starting => (delivered t).trans (fresh starting)
    · intro at_ early
      obtain ⟨hash', here, lasts⟩ := alive at_ (lt_of_eq_of_lt rest.1.symm early)
      exact ⟨hash', same.trans here, lasts⟩
    · exact fun r score mem => member r score (fewer mem)
    · intro reading early none_
      have early : s.clock < waiting.expiresAt := lt_of_eq_of_lt rest.1.symm early
      have mem := listed reading early ((delivered t).symm.trans none_)
      refine (members _ t).trans ?_
      split
      · next same =>
        rw [same, mem, Option.filter_some, if_pos (decide_eq_true (Nat.lt_of_le_of_lt past early))]
      · exact mem
  · intro t none_
    obtain ⟨hash, undelivered, member⟩ :=
      inv.unknown t ((congrArg (fun d : Mapping PollCall => d.get? t) waits).symm.trans none_)
    refine ⟨(congrArg (fun d : Mapping TransactionHash => d.get? t) transactions).trans hash,
      (delivered t).trans undelivered, fun r => ?_⟩
    cases mem : ((s.trim call.receiverId now).membersOf r).get? t with
    | none => exact mem
    | some score => cases (member r).symm.trans (fewer mem)
  · intro other there now' found' phase'
    refine le_of_le_of_eq ?_ rest.1.symm
    have found' : (s.listings.set caller { call with phase := .trimmed now }).get? other = some there := by
      rw [← rest.2]
      exact found'
    rw [Mapping.get?_set] at found'
    split at found'
    · cases found'
      cases phase'
    · exact inv.started other there now' found' phase'

/-- Time passes, and no set is dropped that a transaction still needs. -/
theorem RedisState.Listed.pass (inv : s.Listed) {millis : ℕ} (admitted : keysLast s (.pass millis) = true) :
    (s.pass millis).Listed := by
  have fewer : ∀ {r u : String} {score : ℕ}, ((s.pass millis).membersOf r).get? u = some score →
      (s.membersOf r).get? u = some score := by
    intro r u score mem
    simp only [RedisState.membersOf, RedisState.pass, Mapping.get?_filterItems] at mem ⊢
    cases present : s.pendingSets.get? r with
    | none =>
      rw [present] at mem
      exact mem
    | some set =>
      rw [present, Option.filter_some] at mem
      split at mem
      · exact mem
      · cases mem
  constructor
  · intro t call found
    have found : s.waits.get? t = some call := found
    obtain ⟨created, hash, fresh, alive, member, listed⟩ := inv.known t call found
    have sooner : ∀ {n : ℕ}, (s.pass millis).clock < n → s.clock < n := by
      intro n early
      have later : s.clock + millis < n := early
      omega
    constructor
    · exact Nat.le_add_right_of_le created
    · exact fun hash' here => hash hash' (pass_hash here)
    · exact fresh
    · intro at_ early
      obtain ⟨hash', here, lasts⟩ := alive at_ (sooner early)
      refine ⟨hash', ?_, lasts⟩
      simp only [RedisState.pass, Mapping.get?_filterItems, here, Option.filter_some]
      exact if_pos (decide_eq_true (Nat.lt_of_lt_of_le early lasts))
    · exact fun r score mem => member r score (fewer mem)
    · intro reading early none_
      have mem := listed reading (sooner early) none_
      cases present : s.pendingSets.get? call.receiverId with
      | none => simp [RedisState.membersOf, present] at mem
      | some set =>
        have lasts := List.all_eq_true.mp admitted (call.receiverId, set) (Mapping.mem_iff.mpr present)
        have needed : (s.waits.items.any fun w => s.awaits (s.clock + millis) call.receiverId w.1 w.2) = true := by
          refine List.any_eq_true.mpr ⟨(t, call), Mapping.mem_iff.mpr found, ?_⟩
          have early : s.clock + millis < call.expiresAt := early
          have none_ : s.delivered t = false := none_
          simp [RedisState.awaits, reading, early, none_]
        simp only [needed, Bool.not_true, Bool.or_false, decide_eq_true_eq] at lasts
        have kept : (s.pass millis).pendingSets.get? call.receiverId = some set := by
          simp only [RedisState.pass, Mapping.get?_filterItems, present, Option.filter_some]
          exact if_pos (decide_eq_true lasts)
        have same : (s.pass millis).membersOf call.receiverId = s.membersOf call.receiverId := by
          simp only [RedisState.membersOf, kept, present]
        rw [same]
        exact mem
  · intro t none_
    obtain ⟨hash, undelivered, member⟩ := inv.unknown t none_
    refine ⟨pass_none hash, undelivered, fun r => ?_⟩
    cases mem : ((s.pass millis).membersOf r).get? t with
    | none => rfl
    | some score => cases (member r).symm.trans (fewer mem)
  · intro caller call now found phase
    exact Nat.le_add_right_of_le (inv.started caller call now found phase)

/-- Every admitted step keeps the invariant. -/
theorem RedisStep.keepsListed {a : RedisAction} (inv : s.Listed) (admitted : keysLast s a = true)
    (h : RedisStep cipher s a s') : s'.Listed := by
  cases h with
  | nothing nobody => exact inv
  | listed caller call moment nobody =>
    refine ⟨fun t waiting found => ?_, fun t none_ => ?_, fun other there now found phase => ?_⟩
    · obtain ⟨created, hash, fresh, alive, member, listed⟩ := inv.known t waiting found
      exact ⟨created, hash, fresh, alive, member, listed⟩
    · obtain ⟨hash, undelivered, member⟩ := inv.unknown t none_
      exact ⟨hash, undelivered, member⟩
    · simp only [Mapping.get?_set] at found
      split at found
      · cases found
        exact (moment now phase).le
      · exact inv.started other there now found phase
  | trimmed caller call now found phase => exact inv.trim found phase
  | passed millis => exact inv.pass admitted
  | began t call new phase created => exact inv.began new phase created
  | published t call found phase => exact inv.publish found phase
  | moved t call phase found move => exact inv.move found move
  | withdrawn t call outcome found phase => exact inv.withdraw outcome found
  | accepted c payload hash here open_ valid sealed_ => exact inv.accept here (encryptCode_ok valid sealed_).1

/-! ## What `pending` lists -/

/-- `pending` lists the transactions whose wait call awaits a code, and none that has expired or has one. -/
structure Discoverable (s : RedisState) (receiverId : String) : Prop where
  live : ∀ t call, s.waits.get? t = some call → s.awaits s.clock receiverId t call = true →
    ∃ row ∈ s.pendingRows receiverId, row.transactionId = t ∧ row.expiresAt = call.expiresAt
  rest : ∀ row ∈ s.pendingRows receiverId, s.clock < row.expiresAt ∧ s.delivered row.transactionId = false

/-- The members that are left when `pending` has dropped the expired ones. -/
theorem trim_members (s : RedisState) (r u : String) : ((s.trim r s.clock).membersOf r).get? u =
    ((s.membersOf r).get? u).filter fun score => decide (s.clock < score) :=
  (keepMembers_members s r (fun e => decide (s.clock < e.2)) r u).trans (if_pos rfl)

/-- What `pending` reads of a transaction. -/
theorem mem_rowsOf {r : String} {ids : List String} {row : PendingTransaction} :
    row ∈ s.rowsOf r ids ↔ ∃ t ∈ ids, ∃ hash, s.transactions.get? t = some hash ∧
      hash.code.any (· != "") = false ∧ row = {
        transactionId := t, receiverId := r, correlation := String.ofList (hash.correlation.toList.take 256)
        createdAt := hash.createdAt, expiresAt := hash.expiresAt } := by
  unfold RedisState.rowsOf
  rw [List.mem_filterMap]
  constructor
  · rintro ⟨t, mem, made⟩
    split at made
    · cases made
    · next hash here =>
      split at made
      · cases made
      · next uncoded => exact ⟨t, mem, hash, here, Bool.eq_false_iff.mpr uncoded, (Option.some.inj made).symm⟩
  · rintro ⟨t, mem, hash, here, uncoded, rfl⟩
    exact ⟨t, mem, by simp only [here, uncoded, Bool.false_eq_true, if_false]⟩

/-- The members that are left belong to transactions that are still open. -/
theorem RedisState.Listed.members_open (inv : s.Listed) (r : String) :
    ((s.trim r s.clock).membersOf r).items.length ≤ (s.openOn r).length := by
  let left := ((s.trim r s.clock).membersOf r).items
  have inside : left.map Prod.fst ⊆ (s.openOn r).map Prod.fst := by
    intro t mem
    obtain ⟨⟨_, score⟩, listed, rfl⟩ := List.mem_map.mp mem
    have member := Mapping.mem_iff.mp listed
    rw [trim_members, Option.filter_eq_some_iff] at member
    obtain ⟨member, early⟩ := member
    cases found : s.waits.get? _ with
    | none => cases ((inv.unknown _ found).member r).symm.trans member
    | some call =>
      obtain ⟨receiver, at_, rfl⟩ := (inv.known _ call found).member r score member
      refine List.mem_map.mpr ⟨(_, call), List.mem_filter.mpr ⟨Mapping.mem_iff.mpr found, ?_⟩, rfl⟩
      simp only [receiver, at_, beq_self_eq_true, Bool.and_self, Bool.true_and]
      exact early
  have few := (List.subperm_of_subset ((s.trim r s.clock).membersOf r).distinct inside).length_le
  simpa only [List.length_map] using few

/-- Where no more than a hundred transactions of the receiver are open, its rows are the ones that await a
code. -/
theorem RedisState.Listed.discoverable (inv : s.Listed) {r : String}
    (few : (s.openOn r).length ≤ maxPendingTransactions) : Discoverable s r := by
  obtain ⟨transactions, _, _⟩ := keepMembers_rest s r fun e => decide (s.clock < e.2)
  have hashes : ∀ t, (s.trim r s.clock).transactions.get? t = s.transactions.get? t :=
    fun t => congrArg (fun d : Mapping TransactionHash => d.get? t) transactions
  let left := ((s.trim r s.clock).membersOf r).items
  have ids : ∀ t, t ∈ (s.trim r s.clock).selectIds r s.clock ↔ ∃ score, (t, score) ∈ left ∧ s.clock ≤ score := by
    intro t
    have short : ((left.filter fun e => decide (s.clock ≤ e.2)).mergeSort RedisState.ranksBefore).length ≤
        maxPendingTransactions := by
      rw [List.length_mergeSort]
      exact (List.length_filter_le _ _).trans ((inv.members_open r).trans few)
    unfold RedisState.selectIds
    rw [List.take_of_length_le short]
    simp only [List.mem_map, List.mem_mergeSort, List.mem_filter, decide_eq_true_eq, Prod.exists, exists_and_right,
      exists_eq_right]
  constructor
  · intro t call found awaits
    simp only [RedisState.awaits, Bool.and_eq_true, beq_iff_eq, decide_eq_true_eq, Bool.not_eq_true'] at awaits
    obtain ⟨⟨⟨rfl, reading⟩, early⟩, undelivered⟩ := awaits
    have known := inv.known t call found
    obtain ⟨hash, here, _⟩ := known.alive (listed_of_reading reading) early
    obtain ⟨_, expires, code⟩ := known.hash hash here
    have member : (t, call.expiresAt) ∈ left := by
      refine Mapping.mem_iff.mpr ?_
      rw [trim_members, known.found reading early undelivered, Option.filter_some, if_pos (decide_eq_true early)]
    refine ⟨_, mem_rowsOf.mpr ⟨t, (ids t).mpr ⟨_, member, early.le⟩, hash, (hashes t).trans here, ?_, rfl⟩, rfl,
      expires⟩
    rw [code, undelivered]
  · intro row mem
    obtain ⟨t, selected, hash, here, uncoded, rfl⟩ := mem_rowsOf.mp mem
    obtain ⟨score, member, _⟩ := (ids t).mp selected
    have member := Mapping.mem_iff.mp member
    rw [trim_members, Option.filter_eq_some_iff, decide_eq_true_eq] at member
    rw [hashes] at here
    cases found : s.waits.get? t with
    | none => cases (inv.unknown t found).hash.symm.trans here
    | some call =>
      have known := inv.known t call found
      obtain ⟨_, expires, code⟩ := known.hash hash here
      obtain ⟨_, _, rfl⟩ := known.member r score member.1
      exact ⟨member.2.trans_le expires.ge, code.symm.trans uncoded⟩

end

/-- **Live transactions are discoverable.** Where the sorted set of a receiver is not dropped too soon,
`pending` lists what can be delivered to, and nothing else. -/
theorem pending_lists_live (cipher : Cipher) (clock : ℕ) (as : List RedisAction) (s : RedisState)
    (receiverId : String) (run : (redisSystem cipher).run keysLast { clock := clock } as = some s)
    (few : (s.openOn receiverId).length ≤ maxPendingTransactions) : Discoverable s receiverId :=
  (System.invariant (RedisState.Listed.new clock)
    (fun _ _ _ inv admitted step => (redis_step step).keepsListed inv admitted) run).discoverable few

/-- Two wait calls whose transactions are published, and some seconds. -/
def twoWaits (first second : Int) (millis : ℕ) : List RedisAction := [.wait "a" "otp" "" first, .advance "mfa-a",
  .wait "b" "otp" "" second, .advance "mfa-b", .pass millis]

/-- A shorter wait call that is there with a longer one leaves it in the list for ten seconds. -/
theorem pending_lists_live_first : ∃ s, (redisSystem plainCipher).run keysLast { clock := 0 } (twoWaits 300 1 5000) =
    some s ∧ s.clock = 5000 ∧ Discoverable s "otp" := by
  have computed : ((redisSystem plainCipher).run keysLast { clock := 0 } (twoWaits 300 1 5000)).any (fun s =>
      decide (s.clock = 5000) && decide ((s.openOn "otp").length ≤ 100)) = true := by decide +kernel
  obtain ⟨s, run, at_⟩ := System.exists_of_run computed
  obtain ⟨clock, few⟩ := Bool.and_eq_true_iff.mp at_
  exact ⟨s, run, of_decide_eq_true clock, pending_lists_live plainCipher 0 _ s "otp" run (of_decide_eq_true few)⟩

/-- After eleven seconds the set of the receiver is gone, with most of five minutes to wait. -/
theorem pending_misses_live : ¬ ∀ (cipher : Cipher) (clock : ℕ) (as : List RedisAction) (s : RedisState)
    (receiverId : String), (redisSystem cipher).run (free _ _) { clock := clock } as = some s →
    (s.openOn receiverId).length ≤ maxPendingTransactions → Discoverable s receiverId := by
  intro lists
  have computed : ((redisSystem plainCipher).run (free _ _) { clock := 0 } (twoWaits 300 1 11000)).any (fun s =>
      decide ((s.openOn "otp").length ≤ 100) && (s.pendingRows "otp").isEmpty &&
        (s.waits.get? "mfa-a").any (s.awaits s.clock "otp" "mfa-a")) = true := by decide +kernel
  obtain ⟨s, run, at_⟩ := System.exists_of_run computed
  obtain ⟨at_, waits⟩ := Bool.and_eq_true_iff.mp at_
  obtain ⟨few, none_⟩ := Bool.and_eq_true_iff.mp at_
  cases found : s.waits.get? "mfa-a" with
  | none => simp [found] at waits
  | some call =>
    rw [found] at waits
    obtain ⟨row, mem, _⟩ := (lists plainCipher 0 _ s "otp" run (of_decide_eq_true few)).live "mfa-a" call found waits
    rw [List.isEmpty_iff.mp none_] at mem
    cases mem

end ApiManger.Mfa
