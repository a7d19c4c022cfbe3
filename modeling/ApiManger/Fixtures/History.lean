import ApiManger.Fixtures.Store

/-!
# The history of a fixture

After every sequence of calls the fixture holds the payload of its current revision, no revision ever changed and no
two have one digest, an archived fixture stays as it is, and the events tell the lifecycle and the current revision.
-/

namespace ApiManger.Fixtures
open Collection Python

variable {o : FixtureOutside} {id : String} {float : String → String} {P : Payload → Prop} {s : FixtureStore}

/-! ## Payloads -/

/-- Two payloads are equal, up to the order of keys. -/
structure Payload.Same (p q : Payload) : Prop where
  query : (Json.obj p.query).Same (.obj q.query)
  headers : (Json.obj p.headers).Same (.obj q.headers)
  pathParams : (Json.obj p.pathParams).Same (.obj q.pathParams)
  body : p.body.Same q.body
  note : p.note = q.note

def Payload.isDocument (float : String → String) (p : Payload) : Bool := p.document.isDocument float

/-- What is digested alike is equal. -/
theorem Payload.same_of_document {p q : Payload} (documentP : p.isDocument float = true)
    (documentQ : q.isDocument float = true) (texts : p.document.dumpsAscii = q.document.dumpsAscii) : p.Same q := by
  have same : p.document.Same q.document := (dumpsAscii_inj documentP documentQ).mp texts
  exact ⟨same.get "query", same.get "headers", same.get "path_params", same.get "body", Json.Same.str (same.get "note")⟩

/-! ## What the events tell -/

def Fixture.standing (f : Fixture) : Lifecycle × String := (f.lifecycle, f.currentRevisionId)

def replay (events : List Event) : Option (Lifecycle × String) :=
  events.foldl (fun _ e => some (e.toLifecycle, e.fixtureRevisionId)) none

theorem replay_append (events : List Event) (e : Event) :
    replay (events ++ [e]) = some (e.toLifecycle, e.fixtureRevisionId) := by
  rw [replay, List.foldl_append, List.foldl_cons, List.foldl_nil]

/-- An event tells the standing of the fixture it is appended for. -/
theorem replay_appendFixtureEvent {fixture : Fixture} {revisionId : String}
    (named : revisionId = "" ∨ revisionId = fixture.currentRevisionId) (eventType : EventType) (actor reason : String)
    (fromLifecycle : Option Lifecycle) :
    replay (appendFixtureEvent s fixture eventType actor reason fromLifecycle revisionId).events =
      some fixture.standing := by
  rw [appendFixtureEvent, replay_append]
  rcases named with rfl | rfl
  · rfl
  · split_ifs with empty
    · rfl
    · rfl

/-! ## The invariant -/

/-- What holds of the revisions: their numbers and digests are distinct, and each is named by its number and has the
digest of its payload, which is one that was to be saved. -/
structure SoundRevisions (o : FixtureOutside) (id : String) (P : Payload → Prop) (revisions : List Revision) : Prop where
  numbers : (revisions.map (·.revisionNo)).Nodup
  digests : (revisions.map (·.payloadSha256)).Nodup
  named : ∀ r ∈ revisions,
    r.fixtureRevisionId = id ++ "-r" ++ toString r.revisionNo ++ "-" ++ firstChars r.payloadSha256 12
  digested : ∀ r ∈ revisions, r.payloadSha256 = fixturePayloadSha256 o r.payload ∧ P r.payload

/-- What holds of the fixture: it has the digest of its current revision. -/
structure SoundFixture (o : FixtureOutside) (P : Payload → Prop) (revisions : List Revision) (f : Fixture) : Prop where
  current : ∃ r ∈ revisions, r.fixtureRevisionId = f.currentRevisionId ∧ r.payloadSha256 = fixturePayloadSha256 o f.payload
  saved : P f.payload
  active : f.active = true ↔ f.lifecycle = .active

structure Sound (o : FixtureOutside) (id : String) (P : Payload → Prop) (s : FixtureStore) : Prop where
  revisions : SoundRevisions o id P s.revisions
  fixture : ∀ f, s.fixture = some f → SoundFixture o P s.revisions f
  replayed : replay s.events = s.fixture.map Fixture.standing

theorem sound_empty : Sound o id P .empty where
  revisions := ⟨List.nodup_nil, List.nodup_nil, fun _ listed => (nomatch listed), fun _ listed => (nomatch listed)⟩
  fixture _ none_there := nomatch none_there
  replayed := rfl

/-! ## Revisions -/

/-- The number of a revision can be read off its id. -/
theorem revisionNo_of_id {n m : ℕ} {a b : String}
    (same : id ++ "-r" ++ toString n ++ "-" ++ a = id ++ "-r" ++ toString m ++ "-" ++ b) : n = m := by
  have chars := congrArg String.toList same
  simp only [String.toList_append, List.append_assoc, List.append_cancel_left_eq] at chars
  have digits (k : ℕ) : '-' ∉ (toString k).toList := fun inside => by
    have digit := digits_isDigit k '-' (by simpa using inside)
    cases digit
  obtain ⟨numbers, -⟩ := append_cons_inj (digits n) (digits m) chars
  have reads := congrArg (readDigits 0) numbers
  simpa [readDigits_toDigits] using reads

namespace SoundRevisions

variable {revisions : List Revision}

theorem eq_of_id (sound : SoundRevisions o id P revisions) {r q : Revision} (hr : r ∈ revisions) (hq : q ∈ revisions)
    (same : r.fixtureRevisionId = q.fixtureRevisionId) : r = q := by
  rw [sound.named r hr, sound.named q hq] at same
  exact List.inj_on_of_nodup_map sound.numbers hr hq (revisionNo_of_id same)

theorem foldl_max_le {numbers : List ℕ} (start : ℕ) {n : ℕ} (listed : n ∈ numbers ∨ n ≤ start) :
    n ≤ numbers.foldl max start := by
  induction numbers generalizing start with
  | nil => simpa using listed
  | cons first rest ih =>
    refine ih _ ?_
    rcases listed with inside | small
    · rcases List.mem_cons.mp inside with rfl | later
      · exact .inr (le_max_right _ _)
      · exact .inl later
    · exact .inr (small.trans (le_max_left _ _))

end SoundRevisions

def revisionsWith (o : FixtureOutside) (id : String) (s : FixtureStore) (p : Payload) (operator : String) :
    List Revision :=
  if (revisionOf o id s p operator).2 then s.revisions ++ [(revisionOf o id s p operator).1] else s.revisions

/-- A payload has a revision, which is added where none has its digest. -/
theorem revisionOf_spec (sound : SoundRevisions o id P s.revisions) {p : Payload} (saved : P p) (operator : String) :
    (revisionOf o id s p operator).1 ∈ revisionsWith o id s p operator ∧
    (revisionOf o id s p operator).1.payloadSha256 = fixturePayloadSha256 o p ∧
    SoundRevisions o id P (revisionsWith o id s p operator) ∧ s.revisions <+: revisionsWith o id s p operator := by
  unfold revisionsWith revisionOf
  cases found : s.revisions.find? (·.payloadSha256 == fixturePayloadSha256 o p) with
  | some r =>
    have digest : r.payloadSha256 = fixturePayloadSha256 o p := by simpa using List.find?_some found
    simp only [found, if_false, Bool.false_eq_true]
    exact ⟨List.mem_of_find?_eq_some found, digest, sound, List.prefix_refl _⟩
  | none =>
    have fresh : ∀ r ∈ s.revisions, r.payloadSha256 ≠ fixturePayloadSha256 o p := by
      simpa using List.find?_eq_none.mp found
    simp only [found, if_true]
    refine ⟨List.mem_append_right _ List.mem_cons_self, trivial, ?_, List.prefix_append _ _⟩
    constructor
    · rw [List.map_append, List.map_singleton, List.nodup_append_comm, List.singleton_append, List.nodup_cons]
      refine ⟨fun listed => ?_, sound.numbers⟩
      have small := SoundRevisions.foldl_max_le 0 (.inl listed)
      simp only at small
      omega
    · rw [List.map_append, List.map_singleton, List.nodup_append_comm, List.singleton_append, List.nodup_cons]
      refine ⟨fun listed => ?_, sound.digests⟩
      obtain ⟨r, inside, same⟩ := List.mem_map.mp listed
      exact fresh r inside same
    · exact List.forall_mem_append.mpr ⟨sound.named, List.forall_mem_singleton.mpr rfl⟩
    · exact List.forall_mem_append.mpr ⟨sound.digested, List.forall_mem_singleton.mpr ⟨rfl, saved⟩⟩

/-! ## Steps -/

def savedFixture (o : FixtureOutside) (p : Payload) (r : Revision) (operator : String) : Fixture where
  payload := p
  active := true
  lifecycle := .active
  currentRevisionId := r.fixtureRevisionId
  currentRevisionNo := r.revisionNo
  payloadSha256 := fixturePayloadSha256 o p
  modificator := clipped operator 120

def IsArchived (s : FixtureStore) : Prop := ∃ f, s.fixture = some f ∧ f.lifecycle = .archived

variable {s' : FixtureStore}

theorem saveRequestFixture_eq {c : SaveCall} (result : saveRequestFixture o id c s = .ok s') :
    ∃ p, c.payload o = .ok p ∧ ¬ IsArchived s ∧
      s'.fixture = some (savedFixture o p (revisionOf o id s p c.operator).1 c.operator) ∧
      s'.revisions = revisionsWith o id s p c.operator ∧
      (replay s'.events = s'.fixture.map Fixture.standing ∨
        s'.events = s.events ∧ s.fixture.map Fixture.standing = s'.fixture.map Fixture.standing) := by
  unfold saveRequestFixture at result
  cases payload : c.payload o with
  | error e => rw [payload] at result; cases result
  | ok p =>
    rw [payload] at result
    simp only [bind, Except.bind, pure, Except.pure, throw, throwThe, MonadExceptOf.throw] at result
    by_cases absent : (!c.endpoint) = true
    · rw [if_pos absent] at result
      cases result
    rw [if_neg absent] at result
    by_cases archived : s.fixture.any (·.lifecycle == .archived) = true
    · rw [if_pos archived] at result
      cases result
    rw [if_neg archived] at result
    have open_ : ¬ IsArchived s := by
      rintro ⟨f, there, isArchived⟩
      exact archived (by rw [there, Option.any_some, isArchived]; rfl)
    refine ⟨p, rfl, open_, ?_⟩
    cases there : s.fixture with
    | none =>
      rw [there] at result
      cases result
      exact ⟨rfl, rfl, .inl (replay_appendFixtureEvent (.inr rfl) ..)⟩
    | some previous =>
      rw [there] at result
      dsimp only at result
      by_cases reopened : (previous.lifecycle != .active) = true
      · rw [if_pos reopened] at result
        cases result
        exact ⟨rfl, rfl, .inl (replay_appendFixtureEvent (.inr rfl) ..)⟩
      rw [if_neg reopened] at result
      by_cases revised : (previous.currentRevisionId != (revisionOf o id s p c.operator).1.fixtureRevisionId) = true
      · rw [if_pos revised] at result
        cases result
        exact ⟨rfl, rfl, .inl (replay_appendFixtureEvent (.inr rfl) ..)⟩
      · rw [if_neg revised] at result
        cases result
        have lifecycle : previous.lifecycle = .active := by simpa using reopened
        have current : previous.currentRevisionId = (revisionOf o id s p c.operator).1.fixtureRevisionId := by
          simpa using revised
        refine ⟨rfl, rfl, .inr ⟨rfl, ?_⟩⟩
        show some (previous.lifecycle, previous.currentRevisionId) = some _
        rw [lifecycle, current]
        rfl

theorem activateFixtureRevision_eq {fixtureRevisionId operator reason : String}
    (result : activateFixtureRevision fixtureRevisionId operator reason s = .ok s') :
    s' = s ∨ ¬ IsArchived s ∧ ∃ r ∈ s.revisions, ∃ f, s'.fixture = some f ∧ f.payload = r.payload ∧
      f.currentRevisionId = r.fixtureRevisionId ∧ f.active = true ∧ f.lifecycle = .active ∧
      s'.revisions = s.revisions ∧ replay s'.events = some f.standing := by
  unfold activateFixtureRevision at result
  cases there : s.fixture with
  | none =>
    rw [there] at result
    cases result
  | some fixture =>
    cases found : s.revisions.find? (·.fixtureRevisionId == stripped fixtureRevisionId) with
    | none =>
      rw [there, found] at result
      cases result
    | some r =>
      rw [there, found] at result
      dsimp only at result
      split_ifs at result with archived current
      · exact .inl (Except.ok.inj result).symm
      · have open_ : ¬ IsArchived s := by
          rintro ⟨f, same, isArchived⟩
          obtain rfl := Option.some.inj (there.symm.trans same)
          exact archived (by rw [isArchived]; rfl)
        cases result
        exact .inr ⟨open_, r, List.mem_of_find?_eq_some found, _, rfl, rfl, rfl, rfl, rfl, rfl,
          replay_appendFixtureEvent (.inr rfl) ..⟩

/-- What closes a fixture: its lifecycle changes, and it is no longer active. -/
structure Closes (s s' : FixtureStore) : Prop where
  open_ : ¬ IsArchived s
  fixture : ∃ f f', s.fixture = some f ∧ s'.fixture = some f' ∧ f'.payload = f.payload ∧
    f'.currentRevisionId = f.currentRevisionId ∧ f'.active = false ∧ f'.lifecycle ≠ .active ∧
    replay s'.events = some f'.standing
  revisions : s'.revisions = s.revisions

theorem deactivateRequestFixture_eq {operator reason : String}
    (result : deactivateRequestFixture operator reason s = .ok s') : s' = s ∨ Closes s s' := by
  unfold deactivateRequestFixture at result
  cases there : s.fixture with
  | none =>
    rw [there] at result
    cases result
  | some fixture =>
    rw [there] at result
    dsimp only at result
    split_ifs at result with archived inactive
    · exact .inl (Except.ok.inj result).symm
    · cases result
      refine .inr ⟨?_, ⟨fixture, _, there, rfl, rfl, rfl, rfl, nofun, ?_⟩, rfl⟩
      · rintro ⟨f, same, isArchived⟩
        obtain rfl := Option.some.inj (there.symm.trans same)
        exact archived (by rw [isArchived]; rfl)
      · exact replay_appendFixtureEvent (.inl rfl) ..

theorem archiveRequestFixture_eq {operator reason : String}
    (result : archiveRequestFixture operator reason s = .ok s') : s' = s ∨ Closes s s' := by
  unfold archiveRequestFixture at result
  cases there : s.fixture with
  | none =>
    rw [there] at result
    cases result
  | some fixture =>
    rw [there] at result
    dsimp only at result
    split_ifs at result with archived
    · exact .inl (Except.ok.inj result).symm
    · cases result
      refine .inr ⟨?_, ⟨fixture, _, there, rfl, rfl, rfl, rfl, nofun, ?_⟩, rfl⟩
      · rintro ⟨f, same, isArchived⟩
        obtain rfl := Option.some.inj (there.symm.trans same)
        exact archived (by rw [isArchived]; rfl)
      · exact replay_appendFixtureEvent (.inl rfl) ..

/-! ## Runs -/

def SavedBy (o : FixtureOutside) (calls : List FixtureCall) (p : Payload) : Prop :=
  ∃ c, FixtureCall.save c ∈ calls ∧ c.payload o = .ok p

/-- What a call keeps. -/
structure Kept (s s' : FixtureStore) : Prop where
  revisions : s.revisions <+: s'.revisions
  archived : IsArchived s → s' = s

theorem Kept.refl (s : FixtureStore) : Kept s s := ⟨List.prefix_refl _, fun _ => rfl⟩

theorem Kept.trans {s t u : FixtureStore} (first : Kept s t) (second : Kept t u) : Kept s u := by
  refine ⟨first.revisions.trans second.revisions, fun archived => ?_⟩
  obtain rfl := first.archived archived
  exact second.archived archived

theorem Closes.sound {s' : FixtureStore} (closes : Closes s s') (sound : Sound o id P s) :
    Sound o id P s' ∧ Kept s s' := by
  obtain ⟨f, f', there, there', payload, current, inactive, closed, replayed⟩ := closes.fixture
  have old := sound.fixture f there
  refine ⟨⟨closes.revisions ▸ sound.revisions, fun g same => ?_, by rw [there', replayed, Option.map_some]⟩,
    ⟨by rw [closes.revisions], fun archived => absurd archived closes.open_⟩⟩
  obtain rfl := Option.some.inj (there'.symm.trans same)
  refine ⟨?_, payload ▸ old.saved, iff_of_false (by rw [inactive]; exact Bool.false_ne_true) closed⟩
  rw [closes.revisions, current, payload]
  exact old.current

/-- A call keeps the invariant. -/
theorem perform_sound {call : FixtureCall} (sound : Sound o id P s) (saves : ∀ p, SavedBy o [call] p → P p) :
    Sound o id P (perform o id s call) ∧ Kept s (perform o id s call) := by
  unfold perform
  cases result : call.result o id s with
  | error e => exact ⟨sound, .refl s⟩
  | ok s' =>
    cases call with
    | save c =>
      obtain ⟨p, payload, open_, fixture, revisions, replayed⟩ := saveRequestFixture_eq result
      have saved : P p := saves p ⟨c, List.mem_cons_self, payload⟩
      obtain ⟨listed, digest, soundRevisions, front⟩ := revisionOf_spec sound.revisions saved c.operator
      rw [← revisions] at listed soundRevisions front
      refine ⟨⟨soundRevisions, fun f same => ?_, ?_⟩, front, fun archived => absurd archived open_⟩
      · obtain rfl := Option.some.inj (fixture.symm.trans same)
        exact ⟨⟨_, listed, rfl, digest⟩, saved, iff_of_true rfl rfl⟩
      · rcases replayed with told | ⟨events, standing⟩
        · exact told
        · rw [events, sound.replayed, standing]
    | activate fixtureRevisionId operator reason =>
      rcases activateFixtureRevision_eq result with rfl | ⟨open_, r, listed, f, there, payload, current, active,
        lifecycle, revisions, replayed⟩
      · exact ⟨sound, .refl _⟩
      · obtain ⟨digest, saved⟩ := sound.revisions.digested r listed
        refine ⟨⟨revisions ▸ sound.revisions, fun g same => ?_, by rw [there, replayed, Option.map_some]⟩,
          by rw [revisions], fun archived => absurd archived open_⟩
        obtain rfl := Option.some.inj (there.symm.trans same)
        exact ⟨⟨r, revisions ▸ listed, current.symm, payload ▸ digest⟩, payload ▸ saved, iff_of_true active lifecycle⟩
    | deactivate operator reason =>
      rcases deactivateRequestFixture_eq result with rfl | closes
      · exact ⟨sound, .refl _⟩
      · exact closes.sound sound
    | archive operator reason =>
      rcases archiveRequestFixture_eq result with rfl | closes
      · exact ⟨sound, .refl _⟩
      · exact closes.sound sound

def performAll (o : FixtureOutside) (id : String) (s : FixtureStore) (calls : List FixtureCall) : FixtureStore :=
  calls.foldl (perform o id) s

/-- Calls keep the invariant. -/
theorem performAll_sound {calls : List FixtureCall} (sound : Sound o id P s) (saves : ∀ p, SavedBy o calls p → P p) :
    Sound o id P (performAll o id s calls) ∧ Kept s (performAll o id s calls) := by
  induction calls generalizing s with
  | nil => exact ⟨sound, .refl s⟩
  | cons call rest ih =>
    have one := perform_sound sound fun p ⟨c, listed, payload⟩ =>
      saves p ⟨c, List.mem_cons.mpr (.inl (List.mem_singleton.mp listed)), payload⟩
    have later := ih one.1 fun p ⟨c, listed, payload⟩ => saves p ⟨c, List.mem_cons_of_mem call listed, payload⟩
    exact ⟨later.1, one.2.trans later.2⟩

/-! ## The history -/

/-- The arguments are JSON documents. -/
def SaveCall.isDocument (float : String → String) (c : SaveCall) : Bool :=
  c.query.isDocument float && c.headers.isDocument float && c.pathParams.isDocument float && c.body.isDocument float

theorem isDocument_mapping {value : Json} {field : String} {d : Dict} (document : value.isDocument float = true)
    (mapped : mapping value field = .ok d) : (Json.obj d).isDocument float = true := by
  unfold mapping at mapped
  split at mapped
  · cases mapped
    rfl
  · cases mapped
    rfl
  · cases mapped
    exact document
  · cases mapped

theorem SaveCall.isDocument_payload {c : SaveCall} (document : c.isDocument float = true) {p : Payload}
    (saved : c.payload o = .ok p) : p.isDocument float = true := by
  simp only [SaveCall.isDocument, Bool.and_eq_true] at document
  obtain ⟨⟨⟨query, headers⟩, pathParams⟩, body⟩ := document
  unfold SaveCall.payload at saved
  simp only [bind, Except.bind, pure, Except.pure] at saved
  split at saved
  · cases saved
  next d mapped =>
  split at saved
  · cases saved
  next h mapped' =>
  split at saved
  · cases saved
  next pp mapped'' =>
  split at saved
  · cases saved
  split at saved
  · cases saved
  split at saved
  · cases saved
  split at saved
  · cases saved
  cases saved
  have parts := isDocument_mapping query mapped
  have parts' := isDocument_mapping headers mapped'
  have parts'' := isDocument_mapping pathParams mapped''
  have keys : decide ((["query", "headers", "path_params", "body", "note"] : List String).Nodup) = true := by decide
  have values : Json.haveDocuments float [("query", .obj d), ("headers", .obj h), ("path_params", .obj pp),
      ("body", c.body), ("note", .str (clipped c.note 500))] = true := by
    simp only [Json.haveDocuments, parts, parts', parts'', body, Bool.true_and]
    rfl
  rw [Payload.isDocument, Payload.document, Json.isDocument, values, Bool.and_true]
  exact keys

/-- The store is one a fixture of this history has: it holds the payload of the one revision that its current revision
id names, digests are distinct, it is active just when its lifecycle is, and the events tell its standing. -/
structure Faithful (s : FixtureStore) : Prop where
  current : ∀ f, s.fixture = some f → ∃ r ∈ s.revisions, r.fixtureRevisionId = f.currentRevisionId ∧
    f.payload.Same r.payload ∧ ∀ q ∈ s.revisions, q.fixtureRevisionId = f.currentRevisionId → q = r
  digests : (s.revisions.map (·.payloadSha256)).Nodup
  active : ∀ f, s.fixture = some f → (f.active = true ↔ f.lifecycle = .active)
  replayed : replay s.events = s.fixture.map Fixture.standing

/-- The digests of the saved payloads differ where their texts do. -/
def NoCollision (o : FixtureOutside) (calls : List FixtureCall) : Prop :=
  ∀ p q, SavedBy o calls p → SavedBy o calls q → fixturePayloadSha256 o p = fixturePayloadSha256 o q →
    p.document.dumpsAscii = q.document.dumpsAscii

/-- **History.** After every sequence of calls the store is faithful, and further calls change no revision and no
archived fixture. -/
theorem performAll_faithful (o : FixtureOutside) (id : String) (float : String → String) (calls more : List FixtureCall)
    (documents : ∀ c, FixtureCall.save c ∈ calls → c.isDocument float = true) (noCollision : NoCollision o calls) :
    Faithful (performAll o id .empty calls) ∧
      Kept (performAll o id .empty calls) (performAll o id (performAll o id .empty calls) more) := by
  obtain ⟨sound, -⟩ : Sound o id (SavedBy o calls) (performAll o id .empty calls) ∧ _ :=
    performAll_sound sound_empty fun p saved => saved
  obtain ⟨-, kept⟩ : Sound o id (SavedBy o (calls ++ more)) _ ∧
      Kept (performAll o id .empty calls) (performAll o id (performAll o id .empty calls) more) := by
    refine performAll_sound (performAll_sound sound_empty ?_).1 ?_
    · exact fun p ⟨c, listed, payload⟩ => ⟨c, List.mem_append_left more listed, payload⟩
    · exact fun p ⟨c, listed, payload⟩ => ⟨c, List.mem_append_right calls listed, payload⟩
  refine ⟨⟨fun f there => ?_, sound.revisions.digests, fun f there => (sound.fixture f there).active, sound.replayed⟩,
    kept⟩
  have soundFixture := sound.fixture f there
  obtain ⟨r, listed, named, digest⟩ := soundFixture.current
  obtain ⟨own, saved⟩ := sound.revisions.digested r listed
  refine ⟨r, listed, named, ?_, fun q inside same => sound.revisions.eq_of_id inside listed (same.trans named.symm)⟩
  have document {p : Payload} (saved : SavedBy o calls p) : p.isDocument float = true := by
    obtain ⟨c, inside, payload⟩ := saved
    exact c.isDocument_payload (documents c inside) payload
  exact Payload.same_of_document (document soundFixture.saved) (document saved)
    (noCollision _ _ soundFixture.saved saved (digest.symm.trans own))

/-- Two payloads, the first of them activated again, and the fixture archived. -/
def archivedCalls : List FixtureCall :=
  [.save ⟨.null, .null, .null, .obj [("name", .str "a")], "first", "op", true⟩,
    .save ⟨.obj [("page", .int 1)], .null, .null, .obj [("name", .str "b")], "second", "op", true⟩,
    .activate "fixture-r1-\x7b\"body\":\x7b\"na" "op" "again", .deactivate "op" "", .archive "op" ""]

theorem archivedCalls_faithful :
    Faithful (performAll ⟨fun text => text, lower⟩ "fixture" .empty archivedCalls) ∧
      Kept (performAll ⟨fun text => text, lower⟩ "fixture" .empty archivedCalls)
        (performAll ⟨fun text => text, lower⟩ "fixture"
          (performAll ⟨fun text => text, lower⟩ "fixture" .empty archivedCalls) archivedCalls) := by
  refine performAll_faithful _ _ (fun text => text) archivedCalls archivedCalls (fun c listed => ?_)
    fun _ _ _ _ same => same
  simp only [archivedCalls, List.mem_cons, FixtureCall.save.injEq, List.not_mem_nil, or_false, reduceCtorEq] at listed
  rcases listed with rfl | rfl <;> decide

end ApiManger.Fixtures
