import ApiManger.Mfa.PushOnce
import ApiManger.Mfa.RedisBroker

/-!
# Codes of the Redis broker

Redis accepts a code as long as the hash of the transaction is there and has none,
also after the wait call has looked for the last time. Where that does not happen, a
code that was accepted stays in its hash until its wait call reads it.
-/

namespace ApiManger.Mfa
open Python Transition

/-! ## What a step does -/

/-- How a wait call goes on between its two pipelines. -/
inductive PollMove (cipher : Cipher) (s : RedisState) (t : String) (call : PollCall) : PollPhase → PollPhase → Prop
  | look : PollMove cipher s t call .published (.checking (s.clock + call.timeout))
  | poll {deadline : ℕ} (early : s.clock < deadline) : PollMove cipher s t call (.checking deadline) (.polling deadline)
  | giveUp {deadline : ℕ} (late : deadline ≤ s.clock) :
      PollMove cipher s t call (.checking deadline) (.leaving (.error receiverTimedOut))
  | read {deadline : ℕ} {payload : String} (found : s.payload t = some payload) :
      PollMove cipher s t call (.polling deadline) (.leaving (decryptCode cipher t payload))
  | sleep {deadline : ℕ} (missing : s.payload t = none) :
      PollMove cipher s t call (.polling deadline) (.asleep deadline (s.clock + 200))
  | wake {deadline wake : ℕ} (slept : wake ≤ s.clock) :
      PollMove cipher s t call (.asleep deadline wake) (.checking deadline)

/-- What one action does. -/
inductive RedisStep (cipher : Cipher) (s : RedisState) : RedisAction → RedisState → Prop
  | nothing {a : RedisAction} (nobody : ∀ t, a.turnOf t = false) : RedisStep cipher s a s
  | listed {a : RedisAction} (caller : String) (call : ListingCall)
      (moment : ∀ now, call.phase = .started now → now = s.clock) (nobody : ∀ t, a.turnOf t = false) : RedisStep cipher s a { s with listings := s.listings.set caller call }
  | trimmed (caller : String) (call : ListingCall) (now : ℕ) (found : s.listings.get? caller = some call)
      (phase : call.phase = .started now) : RedisStep cipher s (.advanceListing caller)
        { s.trim call.receiverId now with
          listings := (s.trim call.receiverId now).listings.set caller { call with phase := .trimmed now } }
  | passed (millis : ℕ) : RedisStep cipher s (.pass millis) (s.pass millis)
  | began {token receiver correlation : String} {timeoutSeconds : Int} (t : String) (call : PollCall)
      (new : s.waits.get? t = none) (phase : call.phase = .starting) (created : call.createdAt = s.clock) :
      RedisStep cipher s (.wait token receiver correlation timeoutSeconds) { s with waits := s.waits.set t call }
  | published (t : String) (call : PollCall) (found : s.waits.get? t = some call)
      (phase : call.phase = .starting) :
      RedisStep cipher s (.advance t) ((s.publish t call).moveTo t call .published)
  | moved (t : String) (call : PollCall) (phase : PollPhase) (found : s.waits.get? t = some call)
      (move : PollMove cipher s t call call.phase phase) : RedisStep cipher s (.advance t) (s.moveTo t call phase)
  | withdrawn (t : String) (call : PollCall) (outcome : Outcome) (found : s.waits.get? t = some call)
      (phase : call.phase = .leaving outcome) :
      RedisStep cipher s (.advance t) ((s.withdraw t call).moveTo t call (.ended outcome))
  | accepted {id : String} {value : Json} {nonce : ℕ} (c payload : String) (hash : TransactionHash)
      (here : s.transactions.get? (stripped id) = some hash) (open_ : hash.code = none)
      (valid : validateMfaCode value = .ok c) (sealed : encryptCode cipher nonce (stripped id) c = .ok payload) :
      RedisStep cipher s (.deliver id value nonce) { s with
        transactions := s.transactions.set (stripped id) { hash with code := some payload }
        accepted := s.accepted ++ [(stripped id, c)] }

variable {cipher : Cipher} {s s' : RedisState}

/-- The inversion of a turn of a wait call. -/
theorem redis_advance_step {t : String} (h : s.advance cipher t = some s') :
    RedisStep cipher s (.advance t) s' := by
  unfold RedisState.advance at h
  split at h
  · cases h
  · next call found =>
    have moved : ∀ {phase phase' : PollPhase}, call.phase = phase → PollMove cipher s t call phase phase' →
        RedisStep cipher s (.advance t) (s.moveTo t call phase') := by
      rintro phase phase' rfl move
      exact .moved t call phase' found move
    split at h
    · next phase =>
      cases h
      exact .published t call found phase
    · next phase =>
      cases h
      exact moved phase .look
    · next deadline phase =>
      split at h
      · next early =>
        cases h
        exact moved phase (.poll early)
      · next late =>
        cases h
        exact moved phase (.giveUp (Nat.le_of_not_lt late))
    · next deadline phase =>
      split at h
      · next payload read =>
        cases h
        exact moved phase (.read read)
      · next missing =>
        cases h
        exact moved phase (.sleep missing)
    · next deadline wake phase =>
      split at h
      · next slept =>
        cases h
        exact moved phase (.wake slept)
      · cases h
    · next outcome phase =>
      cases h
      exact .withdrawn t call outcome found phase
    · cases h

/-- The inversion of a delivery that answers. -/
theorem redis_deliver_step {id : String} {value : Json} {nonce : ℕ}
    {accepted : Bool} (h : s.deliver cipher id value nonce = .ok (accepted, s')) :
    RedisStep cipher s (.deliver id value nonce) s' := by
  have refused : RedisStep cipher s (.deliver id value nonce) s := .nothing fun _ => rfl
  unfold RedisState.deliver at h
  simp only at h
  split at h
  · cases h
    exact refused
  · obtain ⟨c, valid, h⟩ := bind_eq_ok.mp h
    obtain ⟨payload, sealed, h⟩ := bind_eq_ok.mp h
    unfold RedisState.putCode at h
    split at h
    · cases h
      exact refused
    · next hash here =>
      split at h
      · cases h
        exact refused
      · next open_ =>
        cases h
        exact .accepted c payload hash here open_ valid sealed

/-- The inversion of a command of `pending`. -/
theorem redis_listing_step {caller : String}
    (h : s.advanceListing caller = some s') : RedisStep cipher s (.advanceListing caller) s' := by
  unfold RedisState.advanceListing at h
  split at h
  · cases h
  · next call found =>
    simp only at h
    split at h
    · next now phase =>
      cases h
      exact .trimmed caller call now found phase
    · cases h
      exact .listed caller _ (by simp) fun _ => rfl
    · cases h
      exact .listed caller _ (by simp) fun _ => rfl
    · cases h

/-- The inversion of one action. -/
theorem redis_step {a : RedisAction}
    (h : (redisSystem cipher).step s a = some s') : RedisStep cipher s a s' := by
  cases a with
  | wait token receiver correlation timeoutSeconds =>
    simp only [redisSystem, RedisState.wait] at h
    split at h
    · cases h
      exact .nothing fun _ => rfl
    · split at h
      · cases h
      · next new =>
        cases h
        exact .began _ _ (Option.not_isSome_iff_eq_none.mp new) rfl rfl
  | advance t => exact redis_advance_step h
  | deliver id value nonce =>
    simp only [redisSystem] at h
    split at h
    · next answered =>
      cases h
      exact redis_deliver_step answered
    · cases h
      exact .nothing fun _ => rfl
  | list caller receiver =>
    simp only [redisSystem, RedisState.list] at h
    split at h
    · cases h
    · split at h
      · cases h
        exact .nothing fun _ => rfl
      · cases h
        refine .listed caller _ (fun now started => ?_) fun _ => rfl
        dsimp only at started
        split at started <;> simp_all
  | advanceListing caller => exact redis_listing_step h
  | pass millis =>
    cases h
    exact .passed millis

/-! ## The condition -/

/-- The wait call may still read a code. -/
def PollPhase.reading : PollPhase → Bool
  | .published | .checking _ | .polling _ | .asleep _ _ => true
  | .starting | .leaving _ | .ended _ => false

/-- The wait call has given up. -/
def PollPhase.gaveUp : PollPhase → Bool
  | .leaving (.error _) => true
  | _ => false

/-- The phase of the wait call of a transaction passes a test. -/
def RedisState.phaseIs (s : RedisState) (t : String) (test : PollPhase → Bool) : Bool :=
  (s.waits.get? t).any fun call => test call.phase

/-- No wait call finds its deadline passed while a code lies in its hash, no code is put into the hash of a
wait call that has given up, and no hash is dropped with a code that its wait call may still read. -/
def codesRead : Admits RedisState RedisAction
  | s, .advance t => !(s.phaseIs t fun
      | .checking deadline => decide (deadline ≤ s.clock)
      | _ => false) || (s.payload t).isNone
  | s, .deliver id code _ => !(s.phaseIs (stripped id) PollPhase.gaveUp) ||
      (s.transactions.get? (stripped id)).all (fun hash => hash.code.isSome) || !codeAllowed (codeText code)
  | s, .pass millis => s.transactions.items.all fun e =>
      e.2.code.isNone || !(s.phaseIs e.1 PollPhase.reading) || decide (s.clock + millis < e.2.expireAt)
  | _, _ => true

/-! ## The invariant -/

/-- The transaction has no code and never had one. -/
def Blank (s : RedisState) (t : String) : Prop :=
  (∀ hash, s.transactions.get? t = some hash → hash.code = none) ∧ ∀ c, (t, c) ∉ s.accepted

/-- The code lies in the hash of the transaction. -/
def Carries (cipher : Cipher) (s : RedisState) (t c : String) : Prop :=
  (t, c) ∈ s.accepted ∧ ∃ hash payload, s.transactions.get? t = some hash ∧ hash.code = some payload ∧
    payload ≠ "" ∧ decryptCode cipher t payload = .ok c

/-- What is known of the transaction of a wait call in the phase. -/
def Tracks (cipher : Cipher) (s : RedisState) (t : String) : PollPhase → Prop
  | .starting => s.transactions.get? t = none ∧ Blank s t
  | .published | .checking _ | .polling _ | .asleep _ _ => Blank s t ∨ ∃ c, Carries cipher s t c
  | .leaving (.error _) => Blank s t
  | .leaving (.ok c) => (t, c) ∈ s.accepted ∧ ∀ hash, s.transactions.get? t = some hash → hash.code ≠ none
  | .ended (.error _) => s.transactions.get? t = none ∧ Blank s t
  | .ended (.ok c) => s.transactions.get? t = none ∧ (t, c) ∈ s.accepted

/-- What holds between any two steps. -/
structure RedisState.Kept (cipher : Cipher) (s : RedisState) : Prop where
  once : (s.accepted.map Prod.fst).Nodup
  unowned : ∀ t, s.waits.get? t = none → s.transactions.get? t = none ∧ Blank s t
  tracks : ∀ t call, s.waits.get? t = some call → Tracks cipher s t call.phase

theorem RedisState.Kept.new (cipher : Cipher) (clock : ℕ) : RedisState.Kept cipher { clock := clock } where
  once := List.nodup_nil
  unowned _ _ := ⟨rfl, (fun _ h => nomatch h), fun _ mem => nomatch mem⟩
  tracks _ _ h := nomatch h

section
variable {cipher : Cipher} {s s' : RedisState} {t : String}

theorem tracks_reading {phase : PollPhase} (reading : phase.reading = true) :
    Tracks cipher s t phase ↔ Blank s t ∨ ∃ c, Carries cipher s t c := by
  cases phase with
  | published | checking | polling | asleep => exact Iff.rfl
  | starting | leaving | ended => cases reading

theorem payload_of_blank (blank : Blank s t) : s.payload t = none := by
  unfold RedisState.payload
  cases here : s.transactions.get? t with
  | none => rfl
  | some hash => simp [blank.1 hash here]

variable {c : String} {a : RedisAction}

theorem payload_of_carries (carries : Carries cipher s t c) :
    ∃ payload, s.payload t = some payload ∧ decryptCode cipher t payload = .ok c := by
  obtain ⟨_, hash, payload, here, code, nonempty, reads⟩ := carries
  refine ⟨payload, ?_, reads⟩
  simp [RedisState.payload, here, code, nonempty]

/-- What is known of a transaction depends on its hash and its deliveries. -/
theorem Tracks.congr (hash : s'.transactions.get? t = s.transactions.get? t)
    (accepted : ∀ c, (t, c) ∈ s'.accepted ↔ (t, c) ∈ s.accepted) {phase : PollPhase} :
    Tracks cipher s' t phase ↔ Tracks cipher s t phase := by
  have blank : Blank s' t ↔ Blank s t := by simp only [Blank, hash, accepted]
  have carries : ∀ c, Carries cipher s' t c ↔ Carries cipher s t c := by
    intro c
    simp only [Carries, hash, accepted]
  cases phase with
  | starting => simp only [Tracks, hash, blank]
  | published | checking | polling | asleep => simp only [Tracks, blank, carries]
  | leaving o => cases o <;> simp only [Tracks, hash, blank, accepted]
  | ended o => cases o <;> simp only [Tracks, hash, blank, accepted]

/-- A step that touches the hash and the deliveries of one transaction only keeps the invariant when it
keeps what is known of that one. -/
theorem RedisState.Kept.at_one (inv : s.Kept cipher) (call : PollCall)
    (once : (s'.accepted.map Prod.fst).Nodup)
    (hash : ∀ u, u ≠ t → s'.transactions.get? u = s.transactions.get? u)
    (accepted : ∀ u, u ≠ t → ∀ c, (u, c) ∈ s'.accepted ↔ (u, c) ∈ s.accepted)
    (waits : ∀ u, s'.waits.get? u = if t = u then some call else s.waits.get? u)
    (own : Tracks cipher s' t call.phase) : s'.Kept cipher where
  once := once
  unowned u none_ := by
    rw [waits] at none_
    split at none_
    · cases none_
    · next apart =>
      obtain ⟨absent, blank⟩ := inv.unowned u none_
      refine ⟨by rw [hash u (Ne.symm apart), absent], ?_, ?_⟩
      · intro h here
        rw [hash u (Ne.symm apart), absent] at here
        cases here
      · intro c mem
        exact blank.2 c ((accepted u (Ne.symm apart) c).mp mem)
  tracks u other found := by
    rw [waits] at found
    split at found
    · next same =>
      subst same
      cases found
      exact own
    · next apart =>
      exact (Tracks.congr (hash u (Ne.symm apart)) (accepted u (Ne.symm apart))).mpr (inv.tracks u other found)

/-- What a wait call knows after a step between its pipelines. -/
theorem PollMove.tracks {call : PollCall} {phase : PollPhase} (move : PollMove cipher s t call call.phase phase)
    (found : s.waits.get? t = some call) (admitted : codesRead s (.advance t) = true)
    (known : Tracks cipher s t call.phase) : Tracks cipher s t phase := by
  generalize at_ : call.phase = before at move known
  cases move with
  | look => exact known
  | poll => exact known
  | giveUp late =>
    rcases known with blank | ⟨c, carries⟩
    · exact blank
    · obtain ⟨payload, there, _⟩ := payload_of_carries carries
      simp [codesRead, RedisState.phaseIs, found, at_, late, there] at admitted
  | read payload =>
    rcases known with blank | ⟨c, carries⟩
    · rw [payload_of_blank blank] at payload
      cases payload
    · obtain ⟨payload', there, reads⟩ := payload_of_carries carries
      rw [payload] at there
      cases there
      rw [reads]
      obtain ⟨mem, hash, sealed, here, code, _⟩ := carries
      refine ⟨mem, fun hash' here' => ?_⟩
      rw [here] at here'
      cases here'
      simp [code]
  | sleep => exact known
  | wake => exact known

/-- The sorted sets are apart from the hashes and the calls. -/
theorem keepMembers_rest (s : RedisState) (receiverId : String) (keep : String × ℕ → Bool) :
    (s.keepMembers receiverId keep).transactions = s.transactions ∧
      (s.keepMembers receiverId keep).waits = s.waits ∧ (s.keepMembers receiverId keep).accepted = s.accepted := by
  unfold RedisState.keepMembers
  split <;> exact ⟨rfl, rfl, rfl⟩

/-- A step that leaves the hashes, the calls of `wait` and the deliveries alone. -/
theorem RedisState.Kept.same (inv : s.Kept cipher) (transactions : s'.transactions = s.transactions)
    (waits : s'.waits = s.waits) (accepted : s'.accepted = s.accepted) : s'.Kept cipher := by
  obtain ⟨once, unowned, tracks⟩ := inv
  have known : ∀ {t : String} {phase : PollPhase}, Tracks cipher s' t phase ↔ Tracks cipher s t phase := by
    intro t phase
    exact Tracks.congr (by rw [transactions]) (by rw [accepted]; exact fun _ => Iff.rfl)
  refine ⟨by rw [accepted]; exact once, fun t none_ => ?_, fun t call found => ?_⟩
  · rw [waits] at none_
    obtain ⟨absent, blank⟩ := unowned t none_
    refine ⟨by rw [transactions]; exact absent, ?_⟩
    simpa only [Blank, transactions, accepted] using blank
  · rw [waits] at found
    exact known.mpr (tracks t call found)

theorem pass_hash {millis : ℕ} {hash : TransactionHash} (here : (s.pass millis).transactions.get? t = some hash) :
    s.transactions.get? t = some hash := by
  simp only [RedisState.pass, Mapping.get?_filterItems, Option.filter_eq_some_iff] at here
  exact here.1

theorem pass_none {millis : ℕ} (absent : s.transactions.get? t = none) :
    (s.pass millis).transactions.get? t = none := by
  cases here : (s.pass millis).transactions.get? t with
  | none => rfl
  | some hash =>
    rw [pass_hash here] at absent
    cases absent

/-- A hash with a code that may still be read is not dropped. -/
theorem RedisState.Kept.pass (inv : s.Kept cipher) {millis : ℕ} (admitted : codesRead s (.pass millis) = true) :
    (s.pass millis).Kept cipher := by
  have blank : ∀ {t}, Blank s t → Blank (s.pass millis) t :=
    fun blank => ⟨fun hash here => blank.1 hash (pass_hash here), blank.2⟩
  refine ⟨inv.once, fun t none_ => ?_, fun t call found => ?_⟩
  · obtain ⟨absent, unused⟩ := inv.unowned t none_
    exact ⟨pass_none absent, blank unused⟩
  · have found : s.waits.get? t = some call := found
    have known := inv.tracks t call found
    by_cases reading : call.phase.reading = true
    · rw [tracks_reading reading] at known ⊢
      refine known.imp blank fun ⟨c, mem, hash, payload, here, code, rest⟩ => ?_
      refine ⟨c, mem, hash, payload, ?_, code, rest⟩
      have lasts := List.all_eq_true.mp admitted (t, hash) (Mapping.mem_iff.mpr here)
      have reads : s.phaseIs t PollPhase.reading = true := by
        rw [RedisState.phaseIs, found]
        exact reading
      simp only [code, reads, Option.isNone_some, Bool.not_true, Bool.or_false, Bool.false_or,
        decide_eq_true_eq] at lasts
      simp only [RedisState.pass, Mapping.get?_filterItems, Option.filter_eq_some_iff, decide_eq_true_eq]
      exact ⟨here, lasts⟩
    · cases phase : call.phase with
      | published | checking | polling | asleep =>
        rw [phase] at reading
        exact absurd rfl reading
      | starting =>
        rw [phase] at known
        exact ⟨pass_none known.1, blank known.2⟩
      | leaving o =>
        rw [phase] at known
        cases o with
        | error e => exact blank known
        | ok c => exact ⟨known.1, fun hash here => known.2 hash (pass_hash here)⟩
      | ended o =>
        rw [phase] at known
        cases o with
        | error e => exact ⟨pass_none known.1, blank known.2⟩
        | ok c => exact ⟨pass_none known.1, known.2⟩

/-- What is known once the hash of a transaction is gone. -/
theorem Tracks.withdrawn {o : Outcome} (known : Tracks cipher s t (.leaving o))
    (gone : s'.transactions.get? t = none) (accepted : s'.accepted = s.accepted) :
    Tracks cipher s' t (.ended o) := by
  cases o with
  | error e =>
    refine ⟨gone, fun hash here => ?_, fun c => ?_⟩
    · rw [gone] at here
      cases here
    · rw [accepted]
      exact known.2 c
  | ok c => exact ⟨gone, by rw [accepted]; exact known.1⟩

/-- A code goes into a hash that has none, while its wait call may still read it. -/
theorem RedisState.Kept.accept (inv : s.Kept cipher) {id : String} {value : Json} {nonce : ℕ} {payload : String}
    {hash : TransactionHash} (admitted : codesRead s (.deliver id value nonce) = true)
    (here : s.transactions.get? (stripped id) = some hash) (open_ : hash.code = none)
    (valid : validateMfaCode value = .ok c) (sealed_ : encryptCode cipher nonce (stripped id) c = .ok payload) :
    RedisState.Kept cipher { s with
      transactions := s.transactions.set (stripped id) { hash with code := some payload }
      accepted := s.accepted ++ [(stripped id, c)] } := by
  obtain ⟨call, found⟩ : ∃ call, s.waits.get? (stripped id) = some call := by
    cases found : s.waits.get? (stripped id) with
    | some call => exact ⟨call, rfl⟩
    | none =>
      rw [(inv.unowned _ found).1] at here
      cases here
  have allowed : codeAllowed (codeText value) = true := by
    unfold validateMfaCode at valid
    split at valid
    · assumption
    · cases valid
  have known := inv.tracks _ call found
  -- only a wait call that may still read the code has a hash without one
  obtain ⟨reading, blank⟩ : call.phase.reading = true ∧ Blank s (stripped id) := by
    cases phase : call.phase with
    | published | checking | polling | asleep =>
      rw [phase] at known
      refine ⟨rfl, known.elim (fun blank => blank) ?_⟩
      rintro ⟨c, _, hash', payload', here', code, _⟩
      rw [here] at here'
      cases here'
      rw [open_] at code
      cases code
    | starting =>
      rw [phase] at known
      rw [known.1] at here
      cases here
    | leaving o =>
      cases o with
      | error e =>
        simp [codesRead, RedisState.phaseIs, found, phase, PollPhase.gaveUp, here, open_, allowed] at admitted
      | ok d =>
        rw [phase] at known
        exact absurd open_ (known.2 hash here)
    | ended o =>
      rw [phase] at known
      cases o with
      | error e =>
        rw [known.1] at here
        cases here
      | ok d =>
        rw [known.1] at here
        cases here
  obtain ⟨nonempty, reads⟩ := encryptCode_ok valid sealed_
  refine inv.at_one (t := stripped id) call ?_ ?_ ?_ ?_ ?_
  · rw [List.map_append, List.nodup_append]
    refine ⟨inv.once, List.nodup_singleton _, ?_⟩
    intro u mem v single same
    obtain rfl := List.mem_singleton.mp single
    obtain ⟨⟨_, d⟩, listed, rfl⟩ := List.mem_map.mp mem
    dsimp only at same
    exact blank.2 d (same ▸ listed)
  · intro u other
    simp only [Mapping.get?_set, if_neg (Ne.symm other)]
  · intro u other d
    simp [other]
  · intro u
    split
    · next same => exact same ▸ found
    · rfl
  · refine (tracks_reading reading).mpr (.inr ⟨c, by simp, { hash with code := some payload }, payload,
      ?_, rfl, nonempty, reads⟩)
    rw [Mapping.get?_set, if_pos rfl]

/-- Every admitted step keeps the invariant. -/
theorem RedisStep.kept (inv : s.Kept cipher) (admitted : codesRead s a = true)
    (h : RedisStep cipher s a s') : s'.Kept cipher := by
  cases h with
  | nothing nobody => exact inv
  | listed caller call moment nobody => exact inv.same rfl rfl rfl
  | trimmed caller call now found phase =>
    obtain ⟨transactions, waits, accepted⟩ := keepMembers_rest s call.receiverId fun e => decide (now < e.2)
    exact inv.same transactions waits accepted
  | passed millis => exact inv.pass admitted
  | began t call new phase created =>
    refine inv.at_one (t := t) call inv.once (fun _ _ => rfl) (fun _ _ _ => Iff.rfl) (fun u => ?_) ?_
    · exact Mapping.get?_set _ _ _ _
    · rw [phase]
      exact inv.unowned t new
  | published t call found phase =>
    have known := inv.tracks t call found
    rw [phase] at known
    refine inv.at_one (t := t) { call with phase := .published } inv.once (fun u other => ?_) (fun _ _ _ => Iff.rfl)
      (fun u => Mapping.get?_set _ _ _ _) (.inl ⟨fun hash here => ?_, known.2.2⟩)
    · simp only [RedisState.moveTo, RedisState.publish, Mapping.get?_set, if_neg (Ne.symm other)]
    · simp only [RedisState.moveTo, RedisState.publish, Mapping.get?_set, if_pos] at here
      cases here
      rfl
  | moved t call phase found move =>
    exact inv.at_one (t := t) { call with phase := phase } inv.once (fun _ _ => rfl) (fun _ _ _ => Iff.rfl)
      (fun u => Mapping.get?_set _ _ _ _) (move.tracks found admitted (inv.tracks t call found))
  | withdrawn t call outcome found phase =>
    have known := inv.tracks t call found
    rw [phase] at known
    obtain ⟨transactions, waits, accepted⟩ :=
      keepMembers_rest { s with transactions := s.transactions.erase t } call.receiverId fun e => e.1 != t
    have hash : ∀ u, ((s.withdraw t call).moveTo t call (.ended outcome)).transactions.get? u =
        if u = t then none else s.transactions.get? u := by
      intro u
      change (s.withdraw t call).transactions.get? u = _
      rw [RedisState.withdraw, transactions, Mapping.get?_erase]
    refine inv.at_one (t := t) { call with phase := .ended outcome } ?_ (fun u other => ?_) (fun u _ d => ?_)
      (fun u => ?_) (known.withdrawn ?_ accepted)
    · exact (congrArg (fun l => (l.map Prod.fst).Nodup) accepted).mpr inv.once
    · rw [hash, if_neg other]
    · exact iff_of_eq (congrArg (fun l => (u, d) ∈ l) accepted)
    · change ((s.withdraw t call).waits.set t _).get? u = _
      rw [Mapping.get?_set]
      exact congrArg (fun d : Mapping PollCall => if t = u then _ else d.get? u) waits
    · rw [hash, if_pos rfl]
  | accepted c payload hash here open_ valid sealed_ => exact inv.accept admitted here open_ valid sealed_

/-- Another's turn leaves a wait call where it is. -/
theorem RedisStep.frame (h : RedisStep cipher s a s') {call : PollCall}
    (found : s.waits.get? t = some call) (other : a.turnOf t = false) : s'.waits.get? t = some call := by
  have apart : ∀ {u : String}, (RedisAction.advance u).turnOf t = false → u ≠ t := by
    rintro u turn rfl
    simp [RedisAction.turnOf] at turn
  cases h with
  | nothing | listed | passed | accepted => exact found
  | trimmed caller call now =>
    obtain ⟨_, waits, _⟩ := keepMembers_rest s call.receiverId fun e => decide (now < e.2)
    exact (congrArg (fun d : Mapping PollCall => d.get? t) waits).trans found
  | began u call new =>
    have apart : u ≠ t := by
      rintro rfl
      rw [new] at found
      cases found
    rw [Mapping.get?_set, if_neg apart, found]
  | published u => exact (Mapping.get?_set _ _ _ _).trans ((if_neg (apart other)).trans found)
  | moved u => exact (Mapping.get?_set _ _ _ _).trans ((if_neg (apart other)).trans found)
  | withdrawn u call =>
    obtain ⟨_, waits, _⟩ :=
      keepMembers_rest { s with transactions := s.transactions.erase u } call.receiverId fun e => e.1 != u
    refine (Mapping.get?_set _ _ _ _).trans ((if_neg (apart other)).trans ?_)
    exact (congrArg (fun d : Mapping PollCall => d.get? t) waits).trans found

/-- No step takes an accepted delivery back. -/
theorem RedisStep.accepted_stays (h : RedisStep cipher s a s') {e : String × String}
    (mem : e ∈ s.accepted) : e ∈ s'.accepted := by
  cases h with
  | nothing | listed | passed | began | published | moved => exact mem
  | trimmed caller call now =>
    obtain ⟨_, _, accepted⟩ := keepMembers_rest s call.receiverId fun e => decide (now < e.2)
    exact (congrArg (fun l => e ∈ l) accepted).mpr mem
  | withdrawn u call =>
    obtain ⟨_, _, accepted⟩ :=
      keepMembers_rest { s with transactions := s.transactions.erase u } call.receiverId fun e => e.1 != u
    exact (congrArg (fun l => e ∈ l) accepted).mpr mem
  | accepted => exact List.mem_append_left _ mem

/-! ## Every run -/

theorem RedisState.outcome_eq {o : Outcome} :
    s.outcome t = some o ↔ ∃ call, s.waits.get? t = some call ∧ call.phase = .ended o := by
  unfold RedisState.outcome
  split
  · next found => simp [found]
  · next other =>
    constructor
    · nofun
    · rintro ⟨⟨receiverId, correlation, timeout, createdAt, phase⟩, found, rfl⟩
      exact absurd found (other receiverId correlation timeout createdAt o)

/-- The codes that were accepted and the ones that were returned are the same. -/
theorem RedisState.Kept.consumedOnce (inv : s.Kept cipher) : ConsumedOnce s.accepted s.outcome where
  once := inv.once
  delivered t c mem o ended := by
    obtain ⟨call, found, phase⟩ := RedisState.outcome_eq.mp ended
    have known := inv.tracks t call found
    rw [phase] at known
    cases o with
    | error e => exact absurd mem (known.2.2 c)
    | ok d =>
      have same := Collection.Distinct.eq_of_key inv.once known.2 mem rfl
      cases same
      rfl
  own t c ended := by
    obtain ⟨call, found, phase⟩ := RedisState.outcome_eq.mp ended
    have known := inv.tracks t call found
    rw [phase] at known
    exact known.2

/-- A wait call that is over stays over. -/
theorem redis_outcome_stays {o : Outcome} (ended : s.outcome t = some o)
    (step : (redisSystem cipher).step s a = some s') : s'.outcome t = some o := by
  obtain ⟨call, found, phase⟩ := RedisState.outcome_eq.mp ended
  by_cases own : a.turnOf t = true
  · cases a with
    | advance u =>
      obtain rfl : u = t := by simpa [RedisAction.turnOf] using own
      simp [redisSystem, RedisState.advance, found, phase] at step
    | wait | deliver | list | advanceListing | pass => cases own
  · exact RedisState.outcome_eq.mpr ⟨call, (redis_step step).frame found (Bool.eq_false_iff.mpr own), phase⟩

/-- How many turns a wait call still needs when its code is there. -/
def PollPhase.turnsLeft : PollPhase → ℕ
  | .starting => 5
  | .published | .asleep _ _ => 4
  | .checking _ => 3
  | .polling _ => 2
  | .leaving _ => 1
  | .ended _ => 0

/-- The turns the wait call of a transaction still needs. -/
def RedisState.turnsLeft (s : RedisState) (t : String) : ℕ := (s.waits.get? t).elim 0 fun call => call.phase.turnsLeft

/-- A wait call whose code was accepted is over, or has a call that is not. -/
theorem RedisState.Kept.unfinished (inv : s.Kept cipher) (mem : (t, c) ∈ s.accepted)
    (open_ : s.outcome t = none) :
    ∃ call, s.waits.get? t = some call ∧ 0 < call.phase.turnsLeft ∧ call.phase.turnsLeft ≤ 4 := by
  cases found : s.waits.get? t with
  | none => exact absurd mem ((inv.unowned t found).2.2 c)
  | some call =>
    refine ⟨call, rfl, ?_⟩
    have known := inv.tracks t call found
    cases phase : call.phase with
    | published | checking | polling | asleep | leaving => exact ⟨by simp [PollPhase.turnsLeft], by simp [PollPhase.turnsLeft]⟩
    | starting =>
      rw [phase] at known
      exact absurd mem (known.2.2 c)
    | ended o =>
      rw [RedisState.outcome_eq.mpr ⟨call, found, phase⟩] at open_
      cases open_

/-- A turn of the wait call of an accepted code brings it nearer to its end, or ends it with the code. -/
theorem own_turn (inv : s.Kept cipher) (mem : (t, c) ∈ s.accepted)
    (admitted : codesRead s (.advance t) = true) (step : RedisStep cipher s (.advance t) s') :
    s'.outcome t = some (.ok c) ∨ s'.turnsLeft t + 1 ≤ s.turnsLeft t := by
  cases step with
  | nothing nobody => simpa [RedisAction.turnOf] using nobody t
  | listed caller call moment nobody => simpa [RedisAction.turnOf] using nobody t
  | published t call found phase =>
    have known := inv.tracks t call found
    rw [phase] at known
    exact absurd mem (known.2.2 c)
  | moved t call phase found move =>
    right
    have known := inv.tracks t call found
    have carries : call.phase.reading = true → ∃ payload, s.payload t = some payload := by
      intro reading
      rcases (tracks_reading reading).mp known with blank | ⟨d, carried⟩
      · exact absurd mem (blank.2 c)
      · obtain ⟨payload, there, _⟩ := payload_of_carries carried
        exact ⟨payload, there⟩
    have before : s.turnsLeft t = call.phase.turnsLeft := by simp [RedisState.turnsLeft, found]
    have after : (s.moveTo t call phase).turnsLeft t = phase.turnsLeft := by
      simp [RedisState.turnsLeft, RedisState.moveTo, Mapping.get?_set]
    rw [before, after]
    generalize at_ : call.phase = old at move carries
    cases move with
    | giveUp late =>
      obtain ⟨payload, there⟩ := carries rfl
      simp [codesRead, RedisState.phaseIs, found, at_, late, there] at admitted
    | sleep missing =>
      obtain ⟨payload, there⟩ := carries rfl
      rw [missing] at there
      cases there
    | look | poll | read | wake => simp [PollPhase.turnsLeft]
  | withdrawn t call o found phase =>
    left
    have known := inv.tracks t call found
    rw [phase] at known
    refine RedisState.outcome_eq.mpr ⟨{ call with phase := .ended o }, ?_, ?_⟩
    · exact (Mapping.get?_set _ _ _ _).trans (if_pos rfl)
    · cases o with
      | error e => exact absurd mem (known.2 c)
      | ok d =>
        have same := Collection.Distinct.eq_of_key inv.once known.1 mem rfl
        cases same
        rfl

/-- Within four turns, the wait call of an accepted code returns it. -/
theorem redis_returns {as : List RedisAction} (inv : s.Kept cipher) (mem : (t, c) ∈ s.accepted)
    (run : (redisSystem cipher).run codesRead s as = some s') (turns : 4 ≤ as.countP (RedisAction.turnOf t)) :
    s'.outcome t = some (.ok c) := by
  cases ended : s.outcome t with
  | some o =>
    obtain rfl := inv.consumedOnce.delivered t c mem o ended
    exact System.invariant (I := fun s => s.outcome t = some (.ok c)) ended
      (fun _ _ _ ended _ step => redis_outcome_stays ended step) run
  | none =>
    obtain ⟨call, found, _, few⟩ := inv.unfinished mem ended
    refine System.ranked (fun s => s.Kept cipher ∧ (t, c) ∈ s.accepted ∧ s.outcome t = none)
      (fun s => s.outcome t = some (.ok c)) (fun s => s.turnsLeft t) (RedisAction.turnOf t)
      (fun _ _ _ ended _ step => redis_outcome_stays ended step) ?_ ?_ ⟨inv, mem, ended⟩ run ?_
    · intro s a s' ⟨inv, mem, open_⟩ admitted step
      have inv' := (redis_step step).kept inv admitted
      have mem' := (redis_step step).accepted_stays mem
      have still : s'.outcome t = some (.ok c) ∨ s'.outcome t = none := by
        cases ended' : s'.outcome t with
        | none => exact .inr rfl
        | some o => exact .inl (congrArg some (inv'.consumedOnce.delivered t c mem' o ended'))
      rcases still with ended' | still
      · exact .inl ended'
      by_cases own : a.turnOf t = true
      · cases a with
        | advance u =>
          obtain rfl : u = t := by simpa [RedisAction.turnOf] using own
          refine (own_turn inv mem admitted (redis_step step)).imp id fun lower => ⟨⟨inv', mem', still⟩, ?_⟩
          simpa [own] using lower
        | wait | deliver | list | advanceListing | pass => cases own
      · obtain ⟨call, found, _⟩ := inv.unfinished mem open_
        have found' := (redis_step step).frame found (Bool.eq_false_iff.mpr own)
        refine .inr ⟨⟨inv', mem', still⟩, ?_⟩
        simp [RedisState.turnsLeft, found, found', own]
    · intro s ⟨inv, mem, open_⟩
      obtain ⟨call, found, some_, _⟩ := inv.unfinished mem open_
      simpa [RedisState.turnsLeft, found] using some_
    · simp only [RedisState.turnsLeft, found, Option.elim_some]
      omega

theorem redis_kept_run {as : List RedisAction} {clock : ℕ}
    (run : (redisSystem cipher).run codesRead { clock := clock } as = some s) : s.Kept cipher :=
  System.invariant (RedisState.Kept.new cipher clock)
    (fun _ _ _ inv admitted step => (redis_step step).kept inv admitted) run

end

/-! ## Exactly once

Both brokers return an accepted code to the wait call that owns its transaction, and
to nobody else: the one in memory along every run, the one in Redis along the runs in
which no code comes too late to be read.
-/

/-- Along every admitted run from the start, an accepted code is consumed once, and its wait call returns it
within a number of its own turns. -/
def ExactlyOnce {σ α : Type} (M : System σ α) (g : Admits σ α) (start : σ)
    (accepted : σ → List (String × String)) (outcome : σ → String → Option Outcome)
    (turnOf : String → α → Bool) : Prop :=
  ∃ n, ∀ as s, M.run g start as = some s → ConsumedOnce (accepted s) (outcome s) ∧
    ∀ t c, (t, c) ∈ accepted s → ∀ bs s', M.run g s bs = some s' → n ≤ bs.countP (turnOf t) →
      outcome s' t = some (.ok c)

/-- What is asked of the broker in memory. -/
def BrokerOnce (g : Admits Broker BrokerAction) (maxPending : Int) (clock : ℕ) : Prop :=
  ExactlyOnce brokerSystem g (.new maxPending clock) Broker.accepted Broker.outcome BrokerAction.turnOf

/-- What is asked of the broker in Redis. -/
def RedisOnce (g : Admits RedisState RedisAction) (cipher : Cipher) (clock : ℕ) : Prop :=
  ExactlyOnce (redisSystem cipher) g { clock := clock } RedisState.accepted RedisState.outcome RedisAction.turnOf

theorem broker_once (maxPending : Int) (clock : ℕ) : BrokerOnce (free _ _) maxPending clock := by
  refine ⟨1, fun as s run => ?_⟩
  have inv := kept_run (Broker.Kept.new maxPending clock) run
  exact ⟨inv.consumedOnce, fun t c mem bs s' run' turns => broker_returns inv mem run' turns⟩

theorem redis_once (cipher : Cipher) (clock : ℕ) : RedisOnce codesRead cipher clock := by
  refine ⟨4, fun as s run => ?_⟩
  have inv := redis_kept_run run
  exact ⟨inv.consumedOnce, fun t c mem bs s' run' turns => redis_returns inv mem run' turns⟩

/-- **Exactly once.** Accepted codes are consumed exactly once: in memory always, in Redis when every code is
there before its wait call looks for the last time, and stays until it does. -/
theorem codes_consumed_once (maxPending : Int) (cipher : Cipher) (clock : ℕ) :
    BrokerOnce (free _ _) maxPending clock ∧ RedisOnce codesRead cipher clock :=
  ⟨broker_once maxPending clock, redis_once cipher clock⟩

/-- A cipher that hides nothing. -/
def plainCipher : Cipher where
  encrypt _ _ code := String.ofList ("plain:".toList ++ code.toList)
  decrypt _ payload := some (String.ofList (payload.toList.drop 6))
  roundTrip _ _ code := by
    rw [String.toList_ofList, List.drop_left' (by rfl), String.ofList_toList]
  nonempty _ _ code empty := by
    have letters := congrArg String.toList empty
    rw [String.toList_ofList] at letters
    cases letters

/-- A wait call for one second that has just looked for a code, at the end of its time. -/
def lastPoll : List RedisAction := [.wait "a" "otp" "" 1, .advance "mfa-a", .advance "mfa-a", .pass 900,
  .advance "mfa-a", .advance "mfa-a", .pass 100]

/-- A code that is delivered while the wait call sleeps through its deadline is accepted and lost. -/
theorem code_lost : ¬ ∀ (maxPending : Int) (cipher : Cipher) (clock : ℕ),
    BrokerOnce (free _ _) maxPending clock ∧ RedisOnce (free _ _) cipher clock := by
  intro both
  obtain ⟨_, once⟩ := (both 100 plainCipher 0).2
  let late := lastPoll ++ [.deliver "mfa-a" (.str "123456") 0, .pass 100, .advance "mfa-a", .advance "mfa-a",
    .advance "mfa-a"]
  have computed : ((redisSystem plainCipher).run (free _ _) { clock := 0 } late).any (fun s =>
      s.accepted == [("mfa-a", "123456")] && s.outcome "mfa-a" == some (.error receiverTimedOut)) = true := by
    decide +kernel
  obtain ⟨s, run, ended⟩ := System.exists_of_run computed
  obtain ⟨accepted, timedOut⟩ := Bool.and_eq_true_iff.mp ended
  have returned := (once late s run).1.delivered "mfa-a" "123456" (by rw [beq_iff_eq.mp accepted]; simp) _
    (beq_iff_eq.mp timedOut)
  cases returned

end ApiManger.Mfa
