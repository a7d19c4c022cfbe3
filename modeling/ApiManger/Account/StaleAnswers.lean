import ApiManger.Account.Resolver

/-!
# No stale contexts

A context that is written back only when no invalidation of its key came since its
provider was asked never reaches a call that starts after that invalidation: every
entry of the cache was asked for after the invalidations that cover it, or does not
last beyond them.
-/

namespace ApiManger.Account
open Python Store Collection Interleaving

/-! ## The invariant -/

/-- The entry was asked for after the invalidation, or does not last beyond it. -/
def Outlives (e : CacheEntry) (v : Invalidation) : Prop :=
  v.coverage.covers e.key = true → v.moment < e.began ∨ e.until_ ≤ v.time

/-- What holds of the cache and the history between any two steps. -/
structure Tidy (s : ResolverState) : Prop where
  past : ∀ v ∈ s.invalidated, v.moment < s.moment ∧ v.time ≤ s.clock
  entries : ∀ e ∈ s.cache, e.began < s.moment ∧ ∀ v ∈ s.invalidated, Outlives e v
  answers : ∀ a ∈ s.answered, a.asked < s.moment
  fresh : NoStaleAnswer s

/-- What a step may do to the history. -/
structure Later (s s' : ResolverState) : Prop where
  moment : s.moment ≤ s'.moment
  invalidated : ∀ v ∈ s'.invalidated, v ∈ s.invalidated ∨ s.moment ≤ v.moment

theorem Later.refl (s : ResolverState) : Later s s := ⟨le_refl _, fun _ mem => .inl mem⟩

variable {s : ResolverState}

/-- A step that keeps clock and history, and adds nothing to the cache but entries that fit. -/
theorem Tidy.cached (inv : Tidy s) {cache : List CacheEntry}
    (fits : ∀ e ∈ cache, e ∈ s.cache ∨ (e.began < s.moment ∧ ∀ v ∈ s.invalidated, Outlives e v)) :
    Tidy { s with cache := cache } where
  past := inv.past
  entries e mem := (fits e mem).elim (inv.entries e) id
  answers := inv.answers
  fresh := inv.fresh

/-- A moment passes. -/
theorem Tidy.tick (inv : Tidy s) : Tidy { s with moment := s.moment + 1 } where
  past v mem := ⟨Nat.lt_succ_of_lt (inv.past v mem).1, (inv.past v mem).2⟩
  entries e mem := ⟨Nat.lt_succ_of_lt (inv.entries e mem).1, (inv.entries e mem).2⟩
  answers a mem := Nat.lt_succ_of_lt (inv.answers a mem)
  fresh := inv.fresh

theorem Later.tick (s : ResolverState) : Later s { s with moment := s.moment + 1 } :=
  ⟨Nat.le_succ _, fun _ mem => .inl mem⟩

/-- Time passes. -/
theorem Tidy.pass (inv : Tidy s) (seconds : ℕ) :
    Tidy { s with clock := s.clock + seconds } where
  past v mem := by
    obtain ⟨before, time⟩ := inv.past v mem
    exact ⟨before, time.trans (le_add_of_nonneg_right (Int.natCast_nonneg seconds))⟩
  entries := inv.entries
  answers := inv.answers
  fresh := inv.fresh

/-- An invalidation leaves what it does not cover. -/
theorem Tidy.invalidate (inv : Tidy s) (coverage : Coverage) :
    Tidy (s.invalidate coverage) where
  past v mem := by
    rcases List.mem_cons.mp mem with rfl | old
    · exact ⟨Nat.lt_succ_self _, le_refl _⟩
    · exact ⟨Nat.lt_succ_of_lt (inv.past v old).1, (inv.past v old).2⟩
  entries e mem := by
    obtain ⟨inside, kept⟩ := List.mem_filter.mp mem
    refine ⟨Nat.lt_succ_of_lt (inv.entries e inside).1, fun v listed covered => ?_⟩
    rcases List.mem_cons.mp listed with rfl | old
    · simp [covered] at kept
    · exact (inv.entries e inside).2 v old covered
  answers a mem := Nat.lt_succ_of_lt (inv.answers a mem)
  fresh a mem v listed covered before := by
    rcases List.mem_cons.mp listed with rfl | old
    · have asked := inv.answers a mem
      have late : s.moment < a.asked := before
      omega
    · exact inv.fresh a mem v old covered before

theorem Later.invalidate (s : ResolverState) (coverage : Coverage) : Later s (s.invalidate coverage) := by
  refine ⟨Nat.le_succ _, fun v mem => ?_⟩
  rcases List.mem_cons.mp mem with rfl | old
  · exact .inr (le_refl _)
  · exact .inl old

/-- A provider that is registered is one more invalidation. -/
theorem Tidy.register (inv : Tidy s) (p : Provider) : Tidy (s.register p) := by
  obtain ⟨past, entries, answers, fresh⟩ := inv.invalidate (.provider p.providerId)
  exact ⟨past, entries, answers, fresh⟩

/-- A call returns a context that no earlier invalidation was meant to remove. -/
theorem Tidy.answer (inv : Tidy s) {a : Answer} (asked : a.asked < s.moment)
    (fresh : ∀ v ∈ s.invalidated, v.coverage.covers a.key = true → v.moment < a.asked → v.moment < a.began) :
    Tidy { s with answered := a :: s.answered } where
  past := inv.past
  entries := inv.entries
  answers b mem := by
    rcases List.mem_cons.mp mem with rfl | old
    · exact asked
    · exact inv.answers b old
  fresh b mem := by
    rcases List.mem_cons.mp mem with rfl | old
    · exact fresh
    · exact inv.fresh b old

/-! ## What a call knows -/

abbrev resolverContract : Contract resolverMachine where
  guard := freshWrites
  known _ := True
  inv := Tidy
  guar _ := Later

/-- The call has started. -/
def Asked (asked : ℕ) (s : ResolverState) : Prop := asked < s.moment

/-- The call read the clock after the invalidations that were there when it started. -/
def ReadAfter (asked : ℕ) (now : Timestamp) (s : ResolverState) : Prop :=
  ∀ v ∈ s.invalidated, v.moment < asked → v.time ≤ now

/-- The provider was asked after the invalidations that were there when the call started. -/
def FreshFor (asked : ℕ) (key : CacheKey) (began : ℕ) (s : ResolverState) : Prop :=
  ∀ v ∈ s.invalidated, v.coverage.covers key = true → v.moment < asked → v.moment < began

section
variable {asked began : ℕ} {key : CacheKey} {now : Timestamp} {t : ℕ}

theorem stable_true : resolverContract.Stable t fun _ => True := fun _ _ _ _ _ _ _ _ _ _ => trivial

theorem Asked.persistent : resolverContract.Persistent (Asked asked) :=
  fun _ _ _ _ _ _ _ step h => Nat.lt_of_lt_of_le h step.moment

theorem ReadAfter.persistent :
    resolverContract.Persistent fun s => Asked asked s ∧ ReadAfter asked now s := by
  intro u s s' _ _ _ _ step ⟨started, read⟩
  refine ⟨Nat.lt_of_lt_of_le started step.moment, fun v mem before => ?_⟩
  rcases step.invalidated v mem with old | new
  · exact read v old before
  · exact absurd (Nat.lt_trans before started) (not_lt.mpr new)

theorem FreshFor.persistent :
    resolverContract.Persistent fun s => Asked asked s ∧ FreshFor asked key began s := by
  intro u s s' _ _ _ _ step ⟨started, fresh⟩
  refine ⟨Nat.lt_of_lt_of_le started step.moment, fun v mem covered before => ?_⟩
  rcases step.invalidated v mem with old | new
  · exact fresh v old covered before
  · exact absurd (Nat.lt_trans before started) (not_lt.mpr new)

/-! ## The steps of a call -/

/-- What a call knows after it looked into the cache. -/
def Found (asked : ℕ) (key : CacheKey) : Looked → ResolverState → Prop
  | .hit _ began => fun s => Asked asked s ∧ FreshFor asked key began s
  | .miss _ => Asked asked

theorem Found.stable (looked : Looked) : resolverContract.Stable t (Found asked key looked) := by
  cases looked with
  | hit context began => exact FreshFor.persistent.stable t
  | miss provider => exact Asked.persistent.stable t

theorem utcnow_keeps : resolverContract.Keeps t (Asked asked) .utcnow fun r s =>
    ∀ now, r = .ok now → Asked asked s ∧ ReadAfter asked now s := by
  intro s i r s' _ inv started _ exec _
  cases exec
  refine ⟨inv, .refl s, fun now answered => ?_⟩
  cases answered
  exact ⟨started, fun v mem _ => (inv.past v mem).2⟩

variable {ref : AccountContextRef}

/-- An entry that is found was asked for after the invalidations before the call. -/
theorem lookUp_keeps {host : String} {min : Int} :
    resolverContract.Keeps t (fun s => Asked asked s ∧ ReadAfter asked now s) (.lookUp ref host min now)
      fun r s => ∀ looked, r = .ok looked → Found asked ref.key looked s := by
  intro s i r s' _ inv ⟨started, read⟩ _ exec _
  have looked : lookUp s ref host min now = (r, s') := Option.some.inj exec
  have popped : Tidy (s.pop ref.key) := inv.cached fun e mem => .inl (List.mem_filter.mp mem).1
  have missed : ∀ {p} {s' : ResolverState}, s.moment ≤ s'.moment → ∀ looked,
      (.ok (.miss p) : Except PyError Looked) = .ok looked → Found asked ref.key looked s' := by
    rintro p s' later _ ⟨⟩
    exact Nat.lt_of_lt_of_le started later
  unfold lookUp at looked
  split at looked
  · cases looked
    exact ⟨inv, .refl s, missed (le_refl _)⟩
  · next e found =>
    split at looked
    · next lasts =>
      split at looked
      · cases looked
        refine ⟨inv, .refl s, ?_⟩
        rintro _ ⟨⟩
        refine ⟨started, fun v mem covered before => ?_⟩
        rw [← lookup_key found] at covered
        rcases (inv.entries e (lookup_mem found)).2 v mem covered with after | expired
        · exact after
        · exact absurd (expired.trans (read v mem before)) (not_le.mpr lasts)
      · split at looked
        · cases looked
          exact ⟨popped, ⟨le_refl _, fun _ mem => .inl mem⟩, missed (le_refl _)⟩
        · cases looked
          exact ⟨inv, .refl s, nofun⟩
    · cases looked
      exact ⟨inv, .refl s, missed (le_refl _)⟩

theorem callProvider_keeps {provider : Provider} :
    resolverContract.Keeps t (Asked asked) (.callProvider provider ref) fun r s =>
      ∀ found, r = .ok found → asked ≤ found.2 ∧ Asked found.2 s := by
  intro s i r s' _ inv started _ exec _
  cases i with
  | outcome x =>
    cases exec
    refine ⟨inv.tick, .tick s, fun found answered => ?_⟩
    obtain ⟨c, _, rfl⟩ := map_eq_ok.mp answered
    exact ⟨Nat.le_of_lt started, Nat.lt_succ_self _⟩
  | call c => cases exec
  | pass seconds => cases exec

theorem writeBack_keeps {context : AccountContext} :
    resolverContract.Keeps t (Asked began) (.writeBack key now context began)
      fun r s => ∀ done, r = .ok done → Asked began s := by
  intro s i r s' _ inv called admitted exec _
  cases exec
  refine ⟨inv.cached fun e mem => ?_, ⟨le_refl _, fun _ mem => .inl mem⟩, fun _ _ => called⟩
  rcases List.mem_cons.mp mem with rfl | old
  · refine .inr ⟨called, fun v listed covered => ?_⟩
    have allowed := List.all_eq_true.mp admitted v listed
    have covered : v.coverage.covers key = true := covered
    simpa only [covered, Bool.not_true, Bool.false_or, Bool.or_eq_true, decide_eq_true_eq] using allowed
  · exact .inl (List.mem_filter.mp old).1

theorem answer_keeps {context : AccountContext} :
    resolverContract.Keeps t (fun s => Asked asked s ∧ FreshFor asked key began s)
      (.answer ⟨key, asked, began, context⟩) fun _ _ => True := by
  intro s i r s' _ inv ⟨started, fresh⟩ _ exec _
  cases exec
  exact ⟨inv.answer started fresh, ⟨le_refl _, fun _ mem => .inl mem⟩, trivial⟩

theorem invalidate_keeps {coverage : Coverage} :
    resolverContract.Keeps t (Asked asked) (.invalidate coverage) fun _ _ => True := by
  intro s i r s' _ inv _ _ exec _
  cases exec
  exact ⟨inv.invalidate coverage, .invalidate s coverage, trivial⟩

theorem register_keeps {p : Provider} :
    resolverContract.Keeps t (Asked asked) (.register p) fun _ _ => True := by
  intro s i r s' _ inv _ _ exec _
  cases exec
  obtain ⟨moment, invalidated⟩ := Later.invalidate s (.provider p.providerId)
  exact ⟨inv.register p, ⟨moment, invalidated⟩, trivial⟩

/-! ## The calls -/

/-- The last step of a call. -/
theorem last_safe {φ : ResolverState → Prop} {o : ResolverOp}
    (keeps : resolverContract.Keeps t φ o fun _ _ => True) :
    resolverContract.Safe t φ (Prog.perform (S := resolverSignature) o) (fun _ _ => True) (fun _ _ => True) := by
  refine Contract.Safe.perform_ok (fun _ => stable_true) fun s i r s' known inv now admitted exec known' => ?_
  obtain ⟨inv', step, _⟩ := keeps s i r s' known inv now admitted exec known'
  exact ⟨inv', step, fun _ _ => trivial⟩

theorem resolveContext_safe {host : String} {min : Int} :
    resolverContract.Safe t (Asked asked) (resolveContext asked ref host min)
      (fun _ _ => True) (fun _ _ => True) := by
  unfold resolveContext
  refine Contract.Safe.ofExcept_bind (fun key valid => ?_) (fun _ _ _ _ _ _ => trivial)
  obtain ⟨_, _, rfl⟩ := map_eq_ok.mp valid
  refine .bind (Contract.Safe.perform_ok (fun now => ReadAfter.persistent.stable t) utcnow_keeps) fun now => ?_
  refine .bind (Contract.Safe.perform_ok Found.stable lookUp_keeps) fun looked => ?_
  cases looked with
  | hit context began => exact last_safe answer_keeps
  | miss provider =>
    cases provider with
    | none => exact Contract.Safe.raise fun _ _ _ _ => trivial
    | some p =>
      refine .bind (Contract.Safe.perform_ok
        (fun found => (Contract.Persistent.const.and Asked.persistent).stable t) callProvider_keeps) fun found => ?_
      refine Contract.Safe.assume fun after => ?_
      refine Contract.Safe.ofExcept_bind (fun context _ => ?_) (fun _ _ _ _ _ _ => trivial)
      refine .bind (Contract.Safe.perform_ok (fun _ => Asked.persistent.stable t) writeBack_keeps) fun _ => ?_
      refine (last_safe answer_keeps).pre fun s _ _ called => ?_
      exact ⟨Nat.lt_of_le_of_lt after called, fun v _ _ before => Nat.lt_of_lt_of_le before after⟩

theorem code_safe (c : ResolverCall) :
    resolverContract.Safe t (Asked asked) (c.code asked) (fun _ _ => True) (fun _ _ => True) := by
  cases c with
  | resolve ref host min => exact resolveContext_safe
  | register p =>
    refine Contract.Safe.ite (fun _ => ?_) fun _ => last_safe register_keeps
    exact Contract.Safe.raise fun _ _ _ _ => trivial
  | invalidate reference providerId contextRef =>
    cases reference with
    | some ref =>
      refine Contract.Safe.ofExcept_bind (fun key _ => ?_) (fun _ _ _ _ _ _ => trivial)
      exact .bind (last_safe invalidate_keeps) fun _ => Contract.Safe.ret fun _ _ _ _ => trivial
    | none => exact .bind (last_safe invalidate_keeps) fun _ => Contract.Safe.ret fun _ _ _ _ => trivial

end

/-! ## Every run -/

theorem resolverContract_holds : resolverContract.Holds where
  waits t := stable_true
  start t i s p s' _ inv _ _ code _ := by
    cases i with
    | call c =>
      cases code
      exact ⟨inv.tick, .tick s, Asked s.moment, Asked.persistent.stable t, Nat.lt_succ_self _, code_safe c⟩
    | outcome x => cases code
    | pass seconds => cases code
  environment i s s' _ inv change _ := by
    cases i with
    | pass seconds =>
      cases change
      exact ⟨inv.pass seconds, le_refl _, fun _ mem => .inl mem⟩
    | call c => cases change
    | outcome x => cases change

/-- A resolver that was just built has nothing to tidy up. -/
theorem Tidy.new (providers : Mapping Provider) (cacheSeconds : Int) (clock : Timestamp) :
    Tidy (.new providers cacheSeconds clock) where
  past _ mem := nomatch mem
  entries _ mem := nomatch mem
  answers _ mem := nomatch mem
  fresh _ mem := nomatch mem

/-- **No stale credentials.** When no context is written back past an invalidation, no call that starts
after the invalidation returns one from before it. -/
theorem no_stale_answer (providers : Mapping Provider) (cacheSeconds : Int) (clock : Timestamp)
    {c : Config resolverMachine} (run : Run freshWrites (.initial (.new providers cacheSeconds clock)) c) :
    NoStaleAnswer c.state :=
  (Contract.sound resolverContract_holds (fun _ _ => trivial)
    (.initial (Tidy.new providers cacheSeconds clock) fun _ => trivial) run).inv.fresh

def tenantReference : AccountContextRef :=
  { projectId := "p", envId := "formal", accountId := "owner", providerId := "local" }

/-- A resolver with one provider. -/
def tenantResolver : ResolverState := .new (.ofItems [("local", ⟨"local", 0⟩)]) 15 0

/-- A thread starts a call, and performs so many operations of it. -/
def calls (t : ℕ) (c : ResolverCall) (steps : ℕ) : List (Label resolverMachine) :=
  .start t (.call c) :: List.replicate steps (.step t (.outcome (.ok tenantContext)))

/-- Two calls with an invalidation between them: the second one asks the provider again. -/
theorem no_stale_answer_refreshed : ∃ c, Run freshWrites (.initial tenantResolver) c ∧
    c.state.answered.map (fun a => (a.asked, a.began)) = [(4, 5), (0, 1)] ∧ NoStaleAnswer c.state := by
  let run := calls 0 (.resolve tenantReference "" 30) 5 ++
    calls 1 (.invalidate (some tenantReference) "" "") 1 ++ calls 2 (.resolve tenantReference "" 30) 5
  have followed : ((Config.initial (M := resolverMachine) tenantResolver).follow freshWrites run).any (fun c =>
      c.state.answered.map (fun a => (a.asked, a.began)) == [(4, 5), (0, 1)]) = true := by decide +kernel
  obtain ⟨c, reached, twice⟩ := Run.exists_of_follow followed
  exact ⟨c, reached, beq_iff_eq.mp twice, no_stale_answer _ 15 0 reached⟩

/-- An invalidation between the provider's answer and its write-back: the next call returns the old context. -/
theorem stale_answer : ¬ ∀ (providers : Mapping Provider) (cacheSeconds : Int) (clock : Timestamp)
    (c : Config resolverMachine),
    Run (Guard.free resolverMachine) (.initial (.new providers cacheSeconds clock)) c → NoStaleAnswer c.state := by
  intro never
  let run := calls 0 (.resolve tenantReference "" 30) 3 ++
    calls 1 (.invalidate (some tenantReference) "" "") 1 ++
    List.replicate 2 (.step 0 (.outcome (.ok tenantContext))) ++ calls 2 (.resolve tenantReference "" 30) 3
  have followed : ((Config.initial (M := resolverMachine) tenantResolver).follow (Guard.free _) run).any (fun c =>
      c.state.answered.any fun a => c.state.invalidated.any fun v =>
        v.coverage.covers a.key && decide (v.moment < a.asked) && !decide (v.moment < a.began)) = true := by
    decide +kernel
  obtain ⟨c, reached, stale⟩ := Run.exists_of_follow followed
  obtain ⟨a, returned, stale⟩ := List.any_eq_true.mp stale
  obtain ⟨v, listed, stale⟩ := List.any_eq_true.mp stale
  simp only [Bool.and_eq_true, decide_eq_true_eq, Bool.not_eq_true', decide_eq_false_iff_not] at stale
  exact stale.2 (never _ 15 0 c reached a returned v listed stale.1.1 stale.1.2)

end ApiManger.Account
