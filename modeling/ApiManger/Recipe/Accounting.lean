import ApiManger.Recipe.Execute

/-!
# Confinement and accounting

Every request of an execution goes to an allowed origin, and no more are sent than the
executor may send. The count that an execution reports is that of its requests, except
where an exception leaves a poll for a code: the poll counts in a copy of its own.
-/

namespace ApiManger.Recipe
open Python Account Mfa Store Imperative

/-! ## The property -/

/-- An execution sends at most `most` requests, each to an origin of the realm and of the adapter, and reports as many
as it sent. -/
structure Accounted (o : Outside) (call : LoginCall) (most : Int)
    (outcome : Except RecipeError RecipeExecutionResult × RecipeState) : Prop where
  bounded : (outcome.2.sent.length : Int) ≤ most
  confined : ∀ r ∈ outcome.2.sent, ∃ origin, normalizeOrigin o r.url = .ok origin ∧
    (∃ item ∈ call.realmAuthOrigins, normalizeOrigin o item = .ok origin) ∧
    ∃ item ∈ call.adapterAuthOrigins, normalizeOrigin o item = .ok origin
  result : ∀ r, outcome.1 = .ok r → r.requestCount = outcome.2.sent.length
  failure : ∀ f, outcome.1 = .error (.failure f) → f.requestCount = outcome.2.sent.length

/-! ## The condition -/

/-- A poll was answered: nothing is raised once a request of it is on its way, and a refused status is not mapped to a
list or an object. -/
def Poll.Answered (o : Outside) (x : Executor) (p : Poll) (payload : Except PyError Payload) :
    ℕ → ℕ → RecipeState → Prop
  | 0, _, _ => True
  | left + 1, count, s => x.maxRequests ≤ count ∨ match payload with
    | .error _ => True
    | .ok payload' => match o.reply s.moment (p.request payload') with
      | .raised _ => False
      | .response r =>
        let row := pollRow p.stage p.method p.origin p.url r.statusCode (p.maxAttempts - left) p.tlsVerify
        let s' := { s with sent := s.sent ++ [p.request payload'], diagnostics := s.diagnostics ++ [row] }
        match p.turn r (o.jar s'.moment) with
        | .again => Poll.Answered o x p payload left (count + 1) s'
        | .refused => ∀ message, statusFailureCode r.statusCode p.step ≠ .error (.typeError message)
        | .code _ | .raised _ => True

/-- A step that waits for a code is answered, where it polls and its url is allowed. -/
def PollAnswered (o : Outside) (x : Executor) (call : LoginCall) (allowed : List String) (step context : Dict)
    (s : RecipeState) : Prop :=
  isPush step = false → ∀ url origin poll, renderUrl context step = .ok url → normalizeOrigin o url = .ok origin →
    origin ≠ "" → origin ∈ allowed →
    preparePoll x call (firstChars (strOr (Dict.get step "id") "mfa_receive") 80) step context url origin = .ok poll →
    poll.Answered o x (renderPayload context step) poll.maxAttempts s.requestCount s

/-- A step of type `mfa_receive`, in the state it is reached in, is answered. -/
def StepFrame.Answered (f : StepFrame) (s : RecipeState) : Prop :=
  f.isSet = false → f.isMfa = true → PollAnswered f.o f.x f.call f.allowed f.step (f.call.context s.vars) s

/-- Every step that is reached is answered. -/
def StepsAnswered (o : Outside) (x : Executor) (call : LoginCall) (allowed : List String) :
    List (Dict × ℕ) → RecipeState → Prop
  | [], _ => True
  | p :: rest, s => (frameOf o x call allowed p).Answered s ∧
    ∀ s', (frameOf o x call allowed p).run s = (.ok (), s') → StepsAnswered o x call allowed rest s'

/-- The condition: every poll that an execution comes to is answered. -/
def PollsAnswered (o : Outside) (x : Executor) (call : LoginCall) : Prop :=
  ∀ allowed, checkLogin o call = .ok allowed →
    StepsAnswered o x call allowed (recipeSteps (fieldsOf call.recipe)).zipIdx {}

/-! ## Invariants -/

/-- No more requests than allowed, and each to an allowed origin. -/
structure Confined (o : Outside) (x : Executor) (allowed : List String) (s : RecipeState) : Prop where
  bounded : s.sent.length ≤ x.maxRequests
  inside : ∀ r ∈ s.sent, ∃ origin ∈ allowed, normalizeOrigin o r.url = .ok origin

/-- The requests are confined and counted. -/
structure Sound (o : Outside) (x : Executor) (allowed : List String) (s : RecipeState) : Prop extends
    Confined o x allowed s where
  counted : s.requestCount = s.sent.length

/-- An exception reports the requests: a failure does so itself, for another one the handlers read the counter. -/
def Reports (e : RecipeError) (s : RecipeState) : Prop :=
  match e with
  | .failure f => f.requestCount = s.sent.length
  | e => e.handled ≠ none → s.requestCount = s.sent.length

variable {o : Outside} {x : Executor} {allowed : List String}

variable {s s' : RecipeState} {α β : Type} {rest : α → Code β} {P : RecipeState → Prop} {y : Except PyError α}
  {Q : α → RecipeState → Prop}

theorem Confined.of_sent (confined : Confined o x allowed s) (same : s'.sent = s.sent) :
    Confined o x allowed s' :=
  ⟨same ▸ confined.bounded, same ▸ confined.inside⟩

theorem Sound.of_sent (sound : Sound o x allowed s) (same : s'.sent = s.sent)
    (count : s'.requestCount = s.requestCount) : Sound o x allowed s' :=
  ⟨sound.toConfined.of_sent same, by rw [count, same, sound.counted]⟩

/-- A further request to an allowed origin. -/
theorem Confined.sends (confined : Confined o x allowed s) {r : Request}
    (sent : s'.sent = s.sent ++ [r]) (left : s.sent.length < x.maxRequests) {origin : String}
    (origin_eq : normalizeOrigin o r.url = .ok origin) (inside : origin ∈ allowed) : Confined o x allowed s' := by
  refine ⟨?_, fun r' mem => ?_⟩
  · rw [sent, List.length_append, List.length_singleton]
    omega
  · rw [sent] at mem
    rcases List.mem_append.mp mem with old | new
    · exact confined.inside r' old
    · rw [List.mem_singleton.mp new]
      exact ⟨origin, inside, origin_eq⟩

/-- What code keeps that counts where it sends. -/
abbrev Keeps (o : Outside) (x : Executor) (allowed : List String) {α : Type} (code : Code α) : Prop :=
  Routine.Meets (Sound o x allowed) code (fun _ => Sound o x allowed) fun e s => Confined o x allowed s ∧ Reports e s

theorem keeps_ret (a : α) : Keeps o x allowed (.ret a) := .ret fun _ sound => sound

theorem keeps_raise (e : PyError) : Keeps o x allowed (.raise (.python e) : Code α) :=
  .raise fun _ sound => ⟨sound.toConfined, fun _ => sound.counted⟩

theorem keeps_bind {first : Code α} (keeps : Keeps o x allowed first)
    (later : ∀ a, Keeps o x allowed (rest a)) : Keeps o x allowed (first >>= rest) :=
  .bind keeps later

/-- Code that goes on with a value that was read. -/
theorem read_meets {Q : β → RecipeState → Prop} (sound : ∀ s, P s → Sound o x allowed s)
    (later : ∀ a, y = .ok a → Routine.Meets P (rest a) Q fun e s => Confined o x allowed s ∧ Reports e s) :
    Routine.Meets P (python y >>= rest) Q fun e s => Confined o x allowed s ∧ Reports e s := by
  cases y with
  | ok a => exact later a rfl
  | error e => exact .raise fun s pre => ⟨(sound s pre).toConfined, fun _ => (sound s pre).counted⟩

theorem keeps_read
    (later : ∀ a, y = .ok a → Keeps o x allowed (rest a)) : Keeps o x allowed (python y >>= rest) :=
  read_meets (fun _ sound => sound) later

theorem keeps_get {rest : RecipeState → Code α}
    (later : ∀ s, Routine.Meets (fun s' => s' = s ∧ Sound o x allowed s') (rest s) (fun _ => Sound o x allowed)
      fun e s => Confined o x allowed s ∧ Reports e s) : Keeps o x allowed (Routine.get >>= rest) :=
  .bind .get fun s => (later s).weaken (fun _ now => ⟨now.1.symm, now.2⟩) (fun _ _ post => post) fun _ _ error => error

/-- Code that keeps the invariants does so from a state that is known. -/
theorem Keeps.at {code : Code α} (keeps : Keeps o x allowed code) (s : RecipeState) :
    Routine.Meets (fun s' => s' = s ∧ Sound o x allowed s') code (fun _ => Sound o x allowed)
      fun e s => Confined o x allowed s ∧ Reports e s :=
  keeps.weaken (fun _ now => now.2) (fun _ _ post => post) fun _ _ error => error

@[simp] theorem python_ok (a : α) (rest : α → Code β) : Routine.bind (python (.ok a)) rest = rest a := rfl

/-- A failure reports the count it is raised with. -/
theorem failWith_meets {code stage : String} {count : ℕ}
    {further : List Dict} (confined : ∀ s, P s → Confined o x allowed s) (count_eq : ∀ s, P s → count = s.sent.length) :
    Routine.Meets P (failWith code stage count further) Q fun e s => Confined o x allowed s ∧ Reports e s := by
  refine fun s pre => ⟨fun a s' run => (nomatch run), fun e s' run => ?_⟩
  cases run
  exact ⟨confined s pre, count_eq s pre⟩

theorem addDiagnostic_keeps (row : Dict) : Keeps o x allowed (addDiagnostic row) :=
  .modify fun _ sound => sound.of_sent rfl rfl

theorem setVariable_keeps (name : String) (value : Json) : Keeps o x allowed (setVariable name value) :=
  .modify fun _ sound => sound.of_sent rfl rfl

/-- A request that is answered. -/
theorem send_response {r : Request} {response : Response}
    (answer : o.reply s.moment r = .response response) :
    send o r s = (.ok response, { s with sent := s.sent ++ [r] }) := by
  unfold send
  simp only [Routine.bind_eq, Routine.bind_get, Routine.bind_modify, answer]
  rfl

theorem send_raised {r : Request} {e : SendError} (answer : o.reply s.moment r = .raised e) :
    send o r s = (.error (.send e), { s with sent := s.sent ++ [r] }) := by
  unfold send
  simp only [Routine.bind_eq, Routine.bind_get, Routine.bind_modify, answer]
  rfl

/-! ## Http steps -/

namespace StepFrame
variable (f : StepFrame)

/-- Code of a step that counts where it sends. -/
abbrev Keeps {α : Type} (code : Code α) : Prop := Recipe.Keeps f.o f.x f.allowed code

theorem fail_keeps {α : Type} (code : String) : f.Keeps (f.fail code : Code α) :=
  keeps_get fun s => failWith_meets (fun _ now => now.2.toConfined) fun s' now => by rw [← now.2.counted, now.1]

theorem sendCounted_keeps {r : Request} {kind origin : String} (origin_eq : normalizeOrigin f.o r.url = .ok origin)
    (inside : origin ∈ f.allowed) : f.Keeps (f.sendCounted r kind origin) := by
  intro s sound
  have counted := sound.counted
  unfold sendCounted
  simp only [Routine.bind_eq, Routine.bind_modify, Routine.bind_get]
  split
  · refine ⟨fun a s' run => (nomatch run), fun e s' run => ?_⟩
    cases run
    exact ⟨sound.toConfined.of_sent rfl, by simpa [Reports, AuthRecipeFailure.make] using counted⟩
  · next left =>
    have kept : Sound f.o f.x f.allowed { s with requestCount := s.requestCount + 1, sent := s.sent ++ [r] } := by
      refine ⟨sound.toConfined.sends rfl (by omega) origin_eq inside, ?_⟩
      simp [counted]
    cases answer : f.o.reply s.moment r with
    | raised e =>
      have raises : send f.o r { s with requestCount := s.requestCount + 1 } = _ := send_raised answer
      rw [Routine.bind_error raises]
      refine ⟨fun a s' run => (nomatch run), fun e s' run => ?_⟩
      cases run
      exact ⟨kept.toConfined, fun _ => kept.counted⟩
    | response response =>
      have returns : send f.o r { s with requestCount := s.requestCount + 1 } = _ := send_response answer
      rw [Routine.bind_ok returns]
      refine ⟨fun a s' run => ?_, fun e s' run => nomatch run⟩
      cases run
      exact kept.of_sent rfl rfl

theorem followRedirects_keeps (url : String) (headers : Mapping String) (timeout : Int) (left : ℕ) (response : Response) :
    f.Keeps (f.followRedirects url headers timeout left response) := by
  induction left generalizing response with
  | zero =>
    unfold followRedirects
    exact .ite (fun _ => f.fail_keeps _) fun _ => keeps_ret _
  | succ left ih =>
    unfold followRedirects
    refine .ite (fun _ => ?_) fun _ => keeps_ret _
    refine keeps_read fun target _ => keeps_read fun origin origin_eq => .ite (fun _ => f.fail_keeps _) fun listed => ?_
    have inside : origin ∈ f.allowed := by simpa using listed
    exact keeps_bind (f.sendCounted_keeps origin_eq inside) fun next => ih next

theorem request_keeps {url origin : String} (origin_eq : normalizeOrigin f.o url = .ok origin)
    (inside : origin ∈ f.allowed) (headers : Mapping String) (timeout : Int) (payload : Payload) :
    f.Keeps (f.request url origin headers timeout payload) := by
  unfold request
  refine keeps_bind (f.sendCounted_keeps origin_eq inside) fun response => .ite (fun _ => ?_) fun _ => keeps_ret _
  exact keeps_read fun most _ => f.followRedirects_keeps url headers timeout most response

theorem checkResponse_keeps (r : Response) : f.Keeps (f.checkResponse r) := by
  unfold checkResponse
  refine keeps_read fun code _ => .ite (fun _ => f.fail_keeps _) fun _ => keeps_read fun accepted _ => ?_
  exact .ite (fun _ => keeps_ret _) fun _ => keeps_read fun code _ => f.fail_keeps _

theorem extractOne_keeps (r : Response) (url : String) (e : String × Json) : f.Keeps (f.extractOne r url e) := by
  refine keeps_get fun s => ?_
  dsimp only
  split
  · exact (setVariable_keeps _ _).at s
  · refine .ite (fun _ => (keeps_raise _).at s) fun _ => .ite (fun _ => (f.fail_keeps _).at s) fun _ => (keeps_ret _).at s

theorem runHttp_keeps : f.Keeps f.runHttp := by
  have known (s s' : RecipeState) (now : s' = s ∧ Sound f.o f.x f.allowed s') : Sound f.o f.x f.allowed s' := now.2
  refine keeps_get fun s => read_meets (known s) fun url _ => read_meets (known s) fun origin origin_eq => ?_
  refine .ite (fun _ => ?_) fun listed => ?_
  · exact failWith_meets (fun _ now => now.2.toConfined) fun s' now => by rw [← now.2.counted, now.1]
  · have inside : origin ∈ f.allowed := by
      rw [Bool.or_eq_true, not_or] at listed
      simpa using listed.2
    refine Keeps.at (keeps_read fun headers _ => keeps_read fun timeout _ => keeps_read fun payload _ => ?_) s
    refine keeps_bind (f.request_keeps origin_eq inside headers timeout payload) fun response => ?_
    refine keeps_bind (f.checkResponse_keeps response) fun _ => keeps_read fun rules _ => ?_
    exact .forEach fun e _ => f.extractOne_keeps response url e

theorem runSet_keeps : f.Keeps f.runSet := by
  refine keeps_get fun s => Keeps.at (keeps_read fun value _ => ?_) s
  exact keeps_bind (setVariable_keeps _ _) fun _ => addDiagnostic_keeps _

end StepFrame

/-! ## Polls -/

/-- An outcome that is as it should be just where `quiet` holds. -/
def Settles {α : Type} (o : Outside) (x : Executor) (allowed : List String) (quiet : Prop)
    (Q : α → RecipeState → Prop) (outcome : Except RecipeError α × RecipeState) : Prop :=
  (∀ a s', outcome = (.ok a, s') → Q a s' ∧ quiet) ∧
    ∀ e s', outcome = (.error e, s') → Confined o x allowed s' ∧ (quiet ↔ Reports e s')

theorem settles_ok {quiet : Prop} {a : α} (post : Q a s)
    (answered : quiet) : Settles o x allowed quiet Q ((.ok a, s) : Except RecipeError α × RecipeState) := by
  refine ⟨fun b s' same => ?_, fun e s' same => nomatch same⟩
  cases same
  exact ⟨post, answered⟩

theorem settles_error {quiet : Prop} {e : RecipeError}
    (confined : Confined o x allowed s) (iff : quiet ↔ Reports e s) :
    Settles o x allowed quiet Q ((.error e, s) : Except RecipeError α × RecipeState) := by
  refine ⟨fun b s' same => (nomatch same), fun e' s' same => ?_⟩
  cases same
  exact ⟨confined, iff⟩

/-- Code that keeps the invariants settles where nothing is asked of it. -/
theorem settles_of_meets {code : Code α} {quiet : Prop} (meets : Routine.Meets P code Q fun e s => Confined o x allowed s ∧ Reports e s) (pre : P s)
    (answered : quiet) : Settles o x allowed quiet Q (code s) := by
  refine ⟨fun a s' run => ⟨(meets s pre).1 a s' run, answered⟩, fun e s' run => ?_⟩
  obtain ⟨confined, reports⟩ := (meets s pre).2 e s' run
  exact ⟨confined, iff_of_true answered reports⟩

theorem SendError.handled_ne (e : SendError) : (RecipeError.send e).handled ≠ none := by
  cases e <;> exact nofun

theorem handled_of_not_lookup {e : PyError} (other : isLookupError e = false) : (RecipeError.python e).handled = none := by
  cases e with
  | keyError | typeError | valueError => nomatch other
  | executionAdapterError | requestBlocked | accountContextError | other => rfl

theorem statusFailureCode_error {status : Int} {step : Dict} {e : PyError} (raised : statusFailureCode status step = .error e) :
    e = attributeError ∨ ∃ message, e = .typeError message := by
  unfold statusFailureCode at raised
  cases mapping : mappingOr (Dict.get step "error_status_map") with
  | error e' =>
    rw [mapping] at raised
    cases raised
    unfold mappingOr at mapping
    split at mapping
    · split at mapping
      · cases mapping
      · exact .inl (Except.error.inj mapping).symm
    · cases mapping
  | ok fields =>
    rw [mapping] at raised
    simp only [bind, Except.bind] at raised
    cases explicit : Dict.get fields (toString status) with
    | arr | obj =>
      rw [explicit] at raised
      exact .inr ⟨_, (Except.error.inj raised).symm⟩
    | null | bool | int | float =>
      rw [explicit] at raised
      cases raised
    | str code =>
      rw [explicit] at raised
      simp only [isFailureCode] at raised
      split at raised
      · cases raised
      · cases raised

/-- A turn that raises is none that a handler takes. -/
theorem Poll.turn_raised {p : Poll} {r : Response} {jar : List Cookie} {e : PyError} (turn : p.turn r jar = .raised e) :
    isLookupError e = false := by
  unfold Poll.turn at turn
  split at turn
  · nomatch turn
  · split at turn
    · split at turn
      · nomatch turn
      · split at turn
        · nomatch turn
        · next other =>
          cases turn
          simpa using other
    · nomatch turn

/-- The attempts that are left of a poll report their requests just where they are answered. -/
theorem Poll.run_settles {p : Poll} {payload : Except PyError Payload} {origin : String}
    (origin_eq : normalizeOrigin o p.url = .ok origin) (inside : origin ∈ allowed) (left count : ℕ) (s : RecipeState)
    (confined : Confined o x allowed s) (counted : count = s.sent.length) (below : s.requestCount ≤ count)
    (first : ∀ e, payload = .error e → s.requestCount = count) :
    Settles o x allowed (p.Answered o x payload left count s)
      (fun r s' => Confined o x allowed s' ∧ r.2 = s'.sent.length) (p.run o x payload left count s) := by
  induction left generalizing count s with
  | zero => exact settles_error confined (iff_of_true trivial counted)
  | succ left ih =>
    unfold Poll.run Poll.Answered
    by_cases full : x.maxRequests ≤ count
    · rw [if_pos full]
      exact settles_error confined (iff_of_true (.inl full) counted)
    rw [if_neg full]
    simp only [full, false_or]
    cases payload with
    | error e => exact settles_error confined (iff_of_true trivial fun _ => (first e rfl).trans counted)
    | ok payload' =>
      have sends : Confined o x allowed { s with sent := s.sent ++ [p.request payload'] } :=
        confined.sends rfl (by omega) origin_eq inside
      have length : (s.sent ++ [p.request payload']).length = count + 1 := by
        rw [List.length_append, List.length_singleton, counted]
      simp only [Routine.bind_eq, python_ok]
      cases answer : o.reply s.moment (p.request payload') with
      | raised e =>
        rw [Routine.bind_error (send_raised answer)]
        refine settles_error sends (iff_of_false id fun reports => ?_)
        have same : s.requestCount = (s.sent ++ [p.request payload']).length := reports e.handled_ne
        omega
      | response r =>
        rw [Routine.bind_ok (send_response answer)]
        simp only [addDiagnostic, Routine.bind_modify, Routine.bind_get]
        let row := pollRow p.stage p.method p.origin p.url r.statusCode (p.maxAttempts - left) p.tlsVerify
        let after : RecipeState :=
          { s with sent := s.sent ++ [p.request payload'], diagnostics := s.diagnostics ++ [row] }
        have confined' : Confined o x allowed after := sends.of_sent rfl
        cases turn : p.turn r (o.jar after.moment) with
        | code c => exact settles_ok ⟨confined', length.symm⟩ trivial
        | again => exact ih (count + 1) after confined' length.symm (Nat.le_succ_of_le below) nofun
        | refused =>
          cases code : statusFailureCode r.statusCode p.step with
          | ok code => exact settles_error confined' (iff_of_true nofun length.symm)
          | error e =>
            refine settles_error confined' ?_
            rcases statusFailureCode_error code with rfl | ⟨message, rfl⟩
            · exact iff_of_true nofun fun handled => absurd rfl handled
            · refine iff_of_false (fun fine => fine message rfl) fun reports => ?_
              have same : s.requestCount = (s.sent ++ [p.request payload']).length := reports nofun
              omega
        | raised e =>
          refine settles_error confined' (iff_of_true trivial fun handled => ?_)
          exact absurd (handled_of_not_lookup (Poll.turn_raised turn)) handled

/-! ## Steps -/

theorem settles_read {quiet : Prop} {Q : β → RecipeState → Prop} (sound : Sound o x allowed s) (unread : ∀ e, y = .error e → quiet)
    (later : ∀ a, y = .ok a → Settles o x allowed quiet Q (rest a s)) :
    Settles o x allowed quiet Q ((python y >>= rest) s) := by
  cases y with
  | ok a => exact later a rfl
  | error e => exact settles_error sound.toConfined (iff_of_true (unread e rfl) fun _ => sound.counted)

theorem receivePushed_meets (stage : String) (step context : Dict) (s : RecipeState) :
    Routine.Meets (fun s' => s' = s ∧ Sound o x allowed s') (receivePushed o stage step context s.requestCount)
      (fun r s' => Confined o x allowed s' ∧ r.2 = s'.sent.length)
      fun e s => Confined o x allowed s ∧ Reports e s := by
  have known (s' : RecipeState) (now : s' = s ∧ Sound o x allowed s') : Sound o x allowed s' := now.2
  refine read_meets known fun receiverId _ => read_meets known fun correlation _ => read_meets known fun timeout _ => ?_
  rintro s' ⟨rfl, sound⟩
  simp only [Routine.bind_eq, Routine.bind_get]
  cases o.waitForCode s'.moment receiverId (firstChars correlation.pyStr 256) timeout with
  | ok code =>
    refine ⟨fun a t run => ?_, fun e t run => nomatch run⟩
    cases run
    exact ⟨sound.toConfined.of_sent rfl, sound.counted⟩
  | error e =>
    cases e with
    | timedOut | receiverError | valueError =>
      refine ⟨fun a t run => (nomatch run), fun e t run => ?_⟩
      cases run
      first
        | exact ⟨sound.toConfined, sound.counted⟩
        | exact ⟨sound.toConfined, fun _ => sound.counted⟩

theorem preparePoll_url {call : LoginCall} {stage url origin : String} {step context : Dict} {poll : Poll}
    (prepared : preparePoll x call stage step context url origin = .ok poll) : poll.url = url := by
  unfold preparePoll at prepared
  simp only [bind_eq_ok] at prepared
  obtain ⟨headers, -, timeout, -, attempts, -, _, -, accepted, -, notReady, -, prepared⟩ := prepared
  split at prepared
  · cases Except.ok.inj prepared
    rfl
  · cases prepared

theorem receiveMfa_settles (call : LoginCall) (step context : Dict) (s : RecipeState) (sound : Sound o x allowed s) :
    Settles o x allowed (PollAnswered o x call allowed step context s)
      (fun r s' => Confined o x allowed s' ∧ r.2 = s'.sent.length)
      (receiveMfa o x call allowed step context s.requestCount s) := by
  unfold receiveMfa
  by_cases push : isPush step = true
  · rw [if_pos push]
    refine settles_of_meets (receivePushed_meets _ step context s) ⟨rfl, sound⟩ fun pull => ?_
    rw [push] at pull
    nomatch pull
  rw [if_neg push]
  refine settles_read sound (fun e raised _ url _ _ rendered => ?_) fun url rendered => ?_
  · rw [raised] at rendered
    nomatch rendered
  refine settles_read sound (fun e raised _ url' origin poll rendered' normal => ?_) fun origin normal => ?_
  · cases rendered.symm.trans rendered'
    rw [raised] at normal
    nomatch normal
  by_cases outside : (origin == "" || !allowed.contains origin) = true
  · rw [if_pos outside]
    refine settles_error sound.toConfined (iff_of_true (fun _ url' origin' poll rendered' normal' named inside => ?_) sound.counted)
    cases rendered.symm.trans rendered'
    cases normal.symm.trans normal'
    simp [named, inside] at outside
  rw [if_neg outside]
  have inside : origin ≠ "" ∧ origin ∈ allowed := by simpa using outside
  have same (url' origin' : String) (rendered' : renderUrl context step = .ok url')
      (normal' : normalizeOrigin o url' = .ok origin') : url' = url ∧ origin' = origin := by
    cases rendered.symm.trans rendered'
    exact ⟨rfl, (Except.ok.inj (normal.symm.trans normal')).symm⟩
  refine settles_read sound (fun e raised _ url' origin' poll rendered' normal' _ _ prepared => ?_) fun poll prepared => ?_
  · obtain ⟨rfl, rfl⟩ := same url' origin' rendered' normal'
    rw [raised] at prepared
    nomatch prepared
  have normal_poll : normalizeOrigin o poll.url = .ok origin := by rw [preparePoll_url prepared, normal]
  have settles : Settles o x allowed
      (poll.Answered o x (renderPayload context step) poll.maxAttempts s.requestCount s) _ _ :=
    Poll.run_settles normal_poll inside.2 poll.maxAttempts s.requestCount s sound.toConfined sound.counted
      (le_refl _) fun _ _ => rfl
  have iff : PollAnswered o x call allowed step context s ↔
      poll.Answered o x (renderPayload context step) poll.maxAttempts s.requestCount s := by
    constructor
    · intro answered
      exact answered (Bool.eq_false_iff.mpr push) url origin poll rendered normal inside.1 inside.2 prepared
    · intro answered _ url' origin' poll' rendered' normal' _ _ prepared'
      obtain ⟨rfl, rfl⟩ := same url' origin' rendered' normal'
      cases prepared.symm.trans prepared'
      exact answered
  unfold Settles
  rw [iff]
  exact settles

namespace StepFrame
variable (f : StepFrame)

theorem runMfa_settles (s : RecipeState) (sound : Sound f.o f.x f.allowed s) :
    Settles f.o f.x f.allowed (PollAnswered f.o f.x f.call f.allowed f.step (f.call.context s.vars) s)
      (fun _ => Sound f.o f.x f.allowed) (f.runMfa s) := by
  have received := receiveMfa_settles f.call f.step (f.call.context s.vars) s sound
  unfold runMfa
  simp only [Routine.bind_eq, Routine.bind_get]
  rcases run : receiveMfa f.o f.x f.call f.allowed f.step (f.call.context s.vars) s.requestCount s with ⟨e | r, s'⟩
  · rw [Routine.bind_error run]
    obtain ⟨confined, iff⟩ := received.2 e s' run
    exact settles_error confined iff
  · rw [Routine.bind_ok run]
    obtain ⟨⟨confined, count⟩, answered⟩ := received.1 r s' run
    exact settles_ok ⟨confined.of_sent rfl, count⟩ answered

theorem runBody_settles (s : RecipeState) (sound : Sound f.o f.x f.allowed s) :
    Settles f.o f.x f.allowed (f.Answered s) (fun _ => Sound f.o f.x f.allowed) (f.runBody s) := by
  unfold runBody
  cases set : f.isSet with
  | true =>
    refine settles_of_meets f.runSet_keeps sound fun other => ?_
    rw [set] at other
    nomatch other
  | false =>
    cases mfa : f.isMfa with
    | true =>
      have iff : f.Answered s ↔ PollAnswered f.o f.x f.call f.allowed f.step (f.call.context s.vars) s :=
        ⟨fun answered => answered set mfa, fun answered _ _ => answered⟩
      have settles := f.runMfa_settles s sound
      unfold Settles at settles ⊢
      rw [iff]
      exact settles
    | false =>
      refine settles_of_meets f.runHttp_keeps sound fun _ other => ?_
      rw [mfa] at other
      nomatch other

/-- What the handlers leave: a step that ends well, or raises what reports the requests where the step is answered. -/
theorem run_settles (s : RecipeState) (sound : Sound f.o f.x f.allowed s) :
    (∀ s', f.run s = (.ok (), s') → Sound f.o f.x f.allowed s' ∧ f.Answered s) ∧
      ∀ e s', f.run s = (.error e, s') → Confined f.o f.x f.allowed s' ∧
        (f.Answered s ↔ ∀ failure, e = .failure failure → failure.requestCount = s'.sent.length) := by
  obtain ⟨ok, error⟩ := f.runBody_settles s sound
  unfold run Routine.handle
  rcases body : f.runBody s with ⟨e | a, s₁⟩
  · obtain ⟨confined, iff⟩ := error e s₁ body
    dsimp only
    unfold onError
    cases handled : e.handled with
    | some code =>
      refine ⟨fun s' run => (nomatch run), fun e' s' run => ?_⟩
      cases run
      refine ⟨confined, iff.trans ⟨fun reports failure is => ?_, fun reports => ?_⟩⟩
      · cases is
        cases e with
        | failure => nomatch handled
        | send | python => exact reports (by rw [handled]; nofun)
      · cases e with
        | failure => nomatch handled
        | send | python => exact fun _ => reports _ rfl
    | none =>
      refine ⟨fun s' run => (nomatch run), fun e' s' run => ?_⟩
      cases run
      refine ⟨confined, iff.trans ⟨fun reports failure is => ?_, fun reports => ?_⟩⟩
      · cases is
        exact reports
      · cases e with
        | failure failure => exact reports failure rfl
        | send | python => exact fun some_ => absurd handled some_
  · refine ⟨fun s' run => ?_, fun e s' run => nomatch run⟩
    cases run
    exact ok a s₁ body

end StepFrame

theorem runSteps_settles (call : LoginCall) (steps : List (Dict × ℕ)) (s : RecipeState) (sound : Sound o x allowed s) :
    (∀ s', runSteps o x call allowed steps s = (.ok (), s') → Sound o x allowed s' ∧
        StepsAnswered o x call allowed steps s) ∧
      ∀ e s', runSteps o x call allowed steps s = (.error e, s') → Confined o x allowed s' ∧
        (StepsAnswered o x call allowed steps s ↔
          ∀ failure, e = .failure failure → failure.requestCount = s'.sent.length) := by
  induction steps generalizing s with
  | nil =>
    refine ⟨fun s' run => ?_, fun e s' run => by cases run⟩
    cases run
    exact ⟨sound, trivial⟩
  | cons p rest ih =>
    obtain ⟨ok, error⟩ := (frameOf o x call allowed p).run_settles s sound
    unfold runSteps Routine.forEach StepsAnswered
    rcases step : (frameOf o x call allowed p).run s with ⟨e | _, s₁⟩
    · rw [Routine.bind_error step]
      obtain ⟨confined, iff⟩ := error e s₁ step
      refine ⟨fun s' run => (by cases run), fun e' s' run => ?_⟩
      cases run
      refine ⟨confined, Iff.trans ⟨And.left, fun answered => ⟨answered, fun _ raised => ?_⟩⟩ iff⟩
      cases raised
    · rw [Routine.bind_ok step]
      obtain ⟨sound₁, answered⟩ := ok s₁ step
      have same : ((frameOf o x call allowed p).Answered s ∧ ∀ s', ((.ok (), s₁) : Except RecipeError Unit × RecipeState) =
          (.ok (), s') → StepsAnswered o x call allowed rest s') ↔ StepsAnswered o x call allowed rest s₁ := by
        refine ⟨fun both => both.2 s₁ rfl, fun later => ⟨answered, fun s' is => ?_⟩⟩
        cases is
        exact later
      rw [same]
      exact ih s₁ sound₁

/-! ## Executions -/

/-- What is allowed is an origin of the realm and of the adapter. -/
theorem checkLogin_ok {call : LoginCall} (checked : checkLogin o call = .ok allowed) : ∀ origin ∈ allowed,
    (∃ item ∈ call.realmAuthOrigins, normalizeOrigin o item = .ok origin) ∧
      ∃ item ∈ call.adapterAuthOrigins, normalizeOrigin o item = .ok origin := by
  have listed {items found : List String} (read : originsOf o items = .ok found) {origin : String} (mem : origin ∈ found) :
      ∃ item ∈ items, normalizeOrigin o item = .ok origin := by
    obtain ⟨origins, each, rfl⟩ := map_eq_ok.mp read
    have inside := List.mem_of_mem_filter mem
    obtain ⟨i, here, is⟩ := List.mem_iff_getElem.mp inside
    have pairs := mapM_ok each
    have short : i < items.length := by rw [pairs.length_eq]; exact here
    have pair : normalizeOrigin o items[i] = .ok origins[i] := pairs.get short here
    exact ⟨items[i], List.getElem_mem short, is ▸ pair⟩
  unfold checkLogin at checked
  split at checked
  · nomatch checked
  · nomatch checked
  · nomatch checked
  · split at checked
    · nomatch checked
    · nomatch checked
    · next realm adapter of_realm of_adapter =>
      dsimp only at checked
      split at checked
      · nomatch checked
      · cases Except.ok.inj checked
        intro origin mem
        obtain ⟨in_realm, in_adapter⟩ := List.mem_filter.mp mem
        exact ⟨listed of_realm in_realm, listed of_adapter (List.contains_iff_mem.mp in_adapter)⟩

/-- The checks in front of the steps fail with no request. -/
theorem checkLogin_error {call : LoginCall} {e : RecipeError} (refused : checkLogin o call = .error e) :
    ∀ failure, e = .failure failure → failure.requestCount = 0 := by
  rintro failure rfl
  unfold checkLogin at refused
  split at refused
  · cases refused
    rfl
  · cases refused
    rfl
  · nomatch refused
  · split at refused
    · nomatch refused
    · nomatch refused
    · dsimp only at refused
      split at refused
      · cases refused
        rfl
      · nomatch refused

/-- The end of an execution reports what was counted. -/
theorem finish_counted (call : LoginCall) (s : RecipeState) : (finish o call s).2 = s ∧
    (∀ r, (finish o call s).1 = .ok r → r.requestCount = s.requestCount) ∧
    ∀ failure, (finish o call s).1 = .error (.failure failure) → failure.requestCount = s.requestCount := by
  unfold finish
  simp only [Routine.bind_eq, Routine.bind_get]
  cases buildOutput (fieldsOf (valueOr (Dict.get (fieldsOf call.recipe) "output") (.obj []))) (call.context s.vars)
      (o.jar s.moment) (o.utcnow s.moment) with
  | ok built =>
    refine ⟨rfl, fun r is => ?_, fun failure is => nomatch is⟩
    cases is
    rfl
  | error e =>
    cases e with
    | keyError | typeError | valueError =>
      refine ⟨rfl, fun r is => (nomatch is), fun failure is => ?_⟩
      cases is
      rfl
    | executionAdapterError | requestBlocked | accountContextError | other =>
      exact ⟨rfl, fun r is => (nomatch is), fun failure is => nomatch is⟩

/-- Where the requests of an execution are, and what it reports: as many as were sent, just where its polls were
answered. -/
theorem execute_settles (call : LoginCall) : ∃ allowed, (∀ origin ∈ allowed,
      (∃ item ∈ call.realmAuthOrigins, normalizeOrigin o item = .ok origin) ∧
        ∃ item ∈ call.adapterAuthOrigins, normalizeOrigin o item = .ok origin) ∧
    Confined o x allowed (execute o x call {}).2 ∧
    (PollsAnswered o x call ↔
      (∀ r, (execute o x call {}).1 = .ok r → r.requestCount = (execute o x call {}).2.sent.length) ∧
      ∀ failure, (execute o x call {}).1 = .error (.failure failure) →
        failure.requestCount = (execute o x call {}).2.sent.length) := by
  unfold execute PollsAnswered
  cases checked : checkLogin o call with
  | error e =>
    refine ⟨[], fun _ mem => absurd mem List.not_mem_nil, ⟨Nat.zero_le _, fun _ mem => absurd mem List.not_mem_nil⟩, ?_⟩
    refine iff_of_true nofun ⟨fun r is => (nomatch is), fun failure is => ?_⟩
    cases is
    exact checkLogin_error checked failure rfl
  | ok allowed =>
    refine ⟨allowed, checkLogin_ok checked, ?_⟩
    have start : Sound o x allowed {} := ⟨⟨Nat.zero_le _, fun _ mem => absurd mem List.not_mem_nil⟩, rfl⟩
    obtain ⟨ok, error⟩ := runSteps_settles call (recipeSteps (fieldsOf call.recipe)).zipIdx {} start
    simp only [Routine.bind_eq, Routine.bind_ofExcept_ok]
    rcases run : runSteps o x call allowed (recipeSteps (fieldsOf call.recipe)).zipIdx {} with ⟨e | _, s⟩
    · rw [Routine.bind_error run]
      obtain ⟨confined, iff⟩ := error e s run
      refine ⟨confined, Iff.trans ⟨fun all => all allowed rfl, fun one allowed' is => Except.ok.inj is ▸ one⟩ (iff.trans ?_)⟩
      refine ⟨fun reports => ⟨fun r is => (nomatch is), fun failure is => reports failure (Except.error.inj is)⟩, ?_⟩
      exact fun reports failure is => reports.2 failure (congrArg Except.error is)
    · rw [Routine.bind_ok run]
      obtain ⟨sound, answered⟩ := ok s run
      obtain ⟨same, result, failure⟩ := finish_counted (o := o) call s
      rw [same]
      refine ⟨sound.toConfined, iff_of_true (fun allowed' is => Except.ok.inj is ▸ answered) ?_⟩
      exact ⟨fun r is => (result r is).trans sound.counted, fun f is => (failure f is).trans sound.counted⟩

/-- A server that answers every request with a token. -/
def tokenServer : Outside where
  urljoin _ target := some target
  md5 := id
  sha256 := id
  base64 := id
  loadKey _ _ := .invalid
  encrypt _ _ _ _ := none
  unixMillis _ := 0
  uuid4 _ := ""
  utcnow _ := 0
  reply _ _ := .response { statusCode := 200, json := some (.obj [("token", .str "t1")]) }
  jar _ := []
  waitForCode _ _ _ _ := .error receiverTimedOut

/-- The same server, which cannot be reached. -/
def deadServer : Outside := { tokenServer with reply := fun _ _ => .raised .connection }

def loginWith (step output : Dict) : LoginCall where
  recipe := .obj [("schema_version", .int 1), ("steps", .arr [.obj step]), ("output", .obj output)]
  realmAuthOrigins := ["https://sso.test"]
  adapterAuthOrigins := ["https://sso.test"]

/-- A request for a token. -/
def tokenStep : Dict :=
  [("type", .str "http"), ("url", .str "https://sso.test/login"), ("extract", .obj [("token", .str "token")])]

def tokenOutput : Dict := [("headers", .obj [("Authorization", .str "Bearer \x7b\x7bvars.token\x7d\x7d")])]

def pollStep : Dict := [("type", .str "mfa_receive"), ("url", .str "https://sso.test/code")]

/-- A failure reports no request where one was sent. -/
def omitsOne : Except RecipeError RecipeExecutionResult × RecipeState → Bool
  | (.error (.failure f), s) => f.requestCount == 0 && s.sent.length == 1
  | _ => false

end ApiManger.Recipe
