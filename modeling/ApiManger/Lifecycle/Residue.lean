import ApiManger.Lifecycle.Update

/-!
# Residue of an update

When the resource a mutation overwrote is not what it was, the verdict says so: the
exact condition on the server, with a server that answers 500 after it applied the
update as the failing case.
-/

namespace ApiManger.Lifecycle
open Python Store Execution

/-! ## The evidence along the replay -/

theorem copyKey_get? (primary evidence : Dict) {key other : String} (ne : other ≠ key) :
    Dict.get? (copyKey primary evidence key) other = Dict.get? evidence other := by
  unfold copyKey
  split
  · exact Dict.get?_set_ne _ _ ne
  · rfl

theorem foldl_copyKey_get? (primary : Dict) (key : String) (keys : List String) (new : key ∉ keys)
    (evidence : Dict) :
    Dict.get? (keys.foldl (copyKey primary) evidence) key = Dict.get? evidence key := by
  induction keys generalizing evidence with
  | nil => rfl
  | cons k keys ih =>
    rw [List.foldl_cons, ih fun later => new (List.mem_cons_of_mem _ later),
      copyKey_get? _ _ fun e => new (by simp [e])]

/-- `_copy_primary` leaves the other keys as they are. -/
theorem copyPrimary_get {key : String} (new : key ∉ primaryKeys) (evidence primary : Dict) :
    Dict.get (copyPrimary evidence primary) key = Dict.get evidence key := by
  simp only [Dict.get, copyPrimary, foldl_copyKey_get? primary key primaryKeys new]

/-- The error type is the copied one, where the evidence had none. -/
theorem copyPrimary_error {evidence : Dict} (clean : Dict.get? evidence "error_type" = none)
    (primary : Dict) :
    Dict.get (copyPrimary evidence primary) "error_type" = Dict.get primary "error_type" := by
  have parts : primaryKeys = primaryKeys.take 7 ++ "error_type" :: primaryKeys.drop 8 := by decide
  have before := foldl_copyKey_get? primary "error_type" (primaryKeys.take 7) (by decide) evidence
  have after := foldl_copyKey_get? primary "error_type" (primaryKeys.drop 8) (by decide)
  rw [copyPrimary, parts, List.foldl_append, List.foldl_cons, Dict.get, after, Dict.get]
  generalize (primaryKeys.take 7).foldl (copyKey primary) evidence = copied at before ⊢
  unfold copyKey
  cases own : Dict.get? primary "error_type" with
  | none => simp [before, clean]
  | some value => simp

theorem counted_get {key statusKey : String} (ne : key ≠ statusKey) (ne' : key ≠ "lifecycle_request_count")
    (evidence : Dict) (reply : Reply) :
    Dict.get (counted evidence statusKey reply) key = Dict.get evidence key := by
  rw [counted, Dict.get_set_ne _ _ ne, Dict.get_set_ne _ _ ne']

/-! ## The verdict of an exit -/

/-- The gaps the judge answers before it looks at the cleanup. -/
def earlyGaps : List String := ["before_readback_unavailable", "unique_restore_payload_unavailable",
  "preflight_complete_mutation_not_sent", "mutation_not_accepted"]

theorem judge_error {evidence : Dict} (error : Dict.truthy evidence "error_type" = true) :
    (judgeMutationLifecycle evidence).verdict = "error" := by
  simp [judgeMutationLifecycle, error]

theorem judge_early (gap : String) {evidence : Dict} (noError : Dict.truthy evidence "error_type" = false)
    (early : gap ∈ earlyGaps) (here : Dict.get evidence "lifecycle_gap" = .str gap) :
    (judgeMutationLifecycle evidence).verdict = "not_evaluable" := by
  simp only [earlyGaps, List.mem_cons, List.not_mem_nil, or_false] at early
  rcases early with rfl | rfl | rfl | rfl <;>
    simp [judgeMutationLifecycle, noError, here, Json.strOrEmpty, Json.truthy, Json.pyStr]

/-- After a cleanup the verdict rests on whether it is verified. -/
theorem judge_cleanup (gap : String) {evidence : Dict} (noError : Dict.truthy evidence "error_type" = false)
    (late : gap ∉ earlyGaps) (here : Dict.get evidence "lifecycle_gap" = .str gap)
    (attempted : Dict.truthy evidence "cleanup_attempted" = true) :
    (judgeMutationLifecycle evidence).verdict =
      if Dict.truthy evidence "cleanup_verified" then "not_evaluable" else "need_review" := by
  have text : (Json.str gap).strOrEmpty = gap := by
    by_cases empty : gap = "" <;> simp [Json.strOrEmpty, Json.truthy, Json.pyStr, empty]
  simp only [earlyGaps, List.mem_cons, List.not_mem_nil, or_false, not_or] at late
  simp only [judgeMutationLifecycle, noError, here, text, late, attempted, Bool.true_or, if_true, if_false,
    Bool.false_eq_true]
  split <;> rfl

/-- No error so far, and no cleanup verified. -/
structure Unverified (evidence : Dict) : Prop where
  error : Dict.truthy evidence "error_type" = false
  verified : Dict.truthy evidence "cleanup_verified" = false

section
variable {server : Server}

/-! ## From the restore on -/

/-- The restore is accepted, and the readback after it shows what was restored. -/
def restores (server : Server) (template : Dict) (body : Json) (s : server.State) : Bool :=
  let cleanup := server.send (.restore body) s
  httpOk cleanup.1.evidence && showsRestored template body (server.send .readback cleanup.2).1

/-- The verdict after a restore request. -/
theorem replayRestore_verdict (template : Dict) (body : Json) {evidence : Dict} (clean : Unverified evidence)
    (s : server.State) :
    let o := replayRestore server template body evidence s
    Dict.truthy o.evidence "cleanup_verified" = restores server template body s ∧
      (judgeMutationLifecycle o.evidence).verdict =
        if restores server template body s then "not_evaluable" else "need_review" := by
  have error := clean.error
  have verified := clean.verified
  simp only [Dict.truthy] at error verified
  suffices verified : Dict.truthy (replayRestore server template body evidence s).evidence "cleanup_verified" =
      restores server template body s by
    refine ⟨verified, ?_⟩
    rw [← verified]
    unfold replayRestore
    dsimp only
    split
    · exact judge_cleanup "restore_request_failed" (by simpa [withGap, Dict.truthy, counted_get] using error)
        (by decide) (by simp [withGap]) (by simp [withGap, Dict.truthy, counted_get, Json.truthy])
    · generalize showsRestored template body _ = shown
      refine judge_cleanup (if shown then "" else "restore_readback_mismatch")
        (by simpa [withGap, Dict.truthy, counted_get] using error) ?_
        (by simp [withGap]) (by simp [withGap, Dict.truthy, counted_get, Json.truthy])
      cases shown <;> decide
  unfold replayRestore restores
  dsimp only
  split
  · rename_i refused
    simp only [Bool.not_eq_true'] at refused
    simpa [refused, withGap, Dict.truthy, counted_get] using verified
  · rename_i accepted
    simp only [Bool.not_eq_true', Bool.not_eq_false] at accepted
    simp [accepted, withGap, Dict.truthy, Json.truthy]

theorem replayRestore_state (template : Dict) (body : Json) (evidence : Dict) (s : server.State) :
    let o := replayRestore server template body evidence s
    o.sent = true ∧ server.resource o.state = server.resource (server.send (.restore body) s).2 := by
  unfold replayRestore
  dsimp only
  split
  · exact ⟨rfl, rfl⟩
  · exact ⟨rfl, server.reads _⟩

/-! ## From the mutation on -/

/-- Nothing of a reply is copied yet, and no cleanup is verified. -/
structure Fresh (evidence : Dict) : Prop where
  error : Dict.get? evidence "error_type" = none
  verified : Dict.truthy evidence "cleanup_verified" = false

theorem Fresh.base (snapshot : RequestSnapshot) (strategy : String) : Fresh (baseEvidence snapshot strategy) :=
  ⟨rfl, rfl⟩

theorem Fresh.set {evidence : Dict} (fresh : Fresh evidence) {key : String} (value : Json)
    (ne : key ≠ "error_type") (ne' : key ≠ "cleanup_verified") : Fresh (Dict.set evidence key value) :=
  ⟨by rw [Dict.get?_set_ne _ _ ne.symm, fresh.error],
   by rw [Dict.truthy, Dict.get_set_ne _ _ ne'.symm]; exact fresh.verified⟩

theorem Fresh.counted {evidence : Dict} (fresh : Fresh evidence) {key : String} (reply : Reply)
    (ne : key ≠ "error_type") (ne' : key ≠ "cleanup_verified") : Fresh (counted evidence key reply) :=
  (fresh.set _ (by decide) (by decide)).set _ ne ne'

/-- The copied evidence has the error of the reply. -/
theorem Fresh.copied {evidence : Dict} (fresh : Fresh evidence) (primary : Dict) :
    Dict.truthy (copyPrimary evidence primary) "error_type" = Dict.truthy primary "error_type" ∧
      Dict.truthy (copyPrimary evidence primary) "cleanup_verified" = false := by
  refine ⟨?_, ?_⟩
  · rw [Dict.truthy, copyPrimary_error fresh.error, Dict.truthy]
  · rw [Dict.truthy, copyPrimary_get (by decide)]
    exact fresh.verified

theorem httpOk_error {evidence : Dict} (h : httpOk evidence = true) :
    Dict.truthy evidence "error_type" = false := by
  unfold httpOk at h
  split at h
  · simp only [Bool.and_eq_true, Bool.not_eq_true'] at h
    exact h.2
  · cases h

/-- A mutation that is not accepted ends the replay. -/
theorem replayMutation_refused (template : Dict) (body : Json) {evidence : Dict} (fresh : Fresh evidence)
    {s : server.State} (refused : httpOk (server.send .mutation s).1.evidence = false) :
    let o := replayMutation server template body evidence s
    o.sent = true ∧ o.state = (server.send .mutation s).2 ∧ Dict.truthy o.evidence "cleanup_verified" = false ∧
      (judgeMutationLifecycle o.evidence).verdict =
        if Dict.truthy (server.send .mutation s).1.evidence "error_type" then "error" else "not_evaluable" := by
  obtain ⟨error, verified⟩ := (fresh.counted (server.send .mutation s).1 (by decide : "mutation_status_code" ≠ _)
    (by decide)).copied (server.send .mutation s).1.evidence
  have ends : replayMutation server template body evidence s = ⟨withGap (copyPrimary
      (counted evidence "mutation_status_code" (server.send .mutation s).1) (server.send .mutation s).1.evidence)
      "mutation_not_accepted", true, (server.send .mutation s).2⟩ := by
    simp only [replayMutation, refused, Bool.not_false, if_true]
  rw [ends]
  have error' := (congrArg Json.truthy (Dict.get_set_ne _ (.str "mutation_not_accepted")
    (by decide : "error_type" ≠ "lifecycle_gap"))).trans error
  refine ⟨rfl, rfl, ?_, ?_⟩
  · simpa [withGap, Dict.truthy] using verified
  · split
    · rename_i failed
      exact judge_error (error'.trans failed)
    · rename_i answered
      exact judge_early "mutation_not_accepted" (error'.trans (by simpa using answered)) (by decide)
        (by simp [withGap])

/-- After an accepted mutation the replay reads and restores. -/
theorem replayMutation_accepted (template : Dict) (body : Json) {evidence : Dict} (fresh : Fresh evidence)
    {s : server.State} (accepted : httpOk (server.send .mutation s).1.evidence = true) :
    ∃ evidence', Unverified evidence' ∧ replayMutation server template body evidence s =
      replayRestore server template body evidence' (server.send .readback (server.send .mutation s).2).2 := by
  obtain ⟨error, verified⟩ := (fresh.counted (server.send .mutation s).1 (by decide : "mutation_status_code" ≠ _)
    (by decide)).copied (server.send .mutation s).1.evidence
  rw [httpOk_error accepted] at error
  simp only [Dict.truthy] at error verified
  unfold replayMutation
  simp only [accepted, Bool.not_true, Bool.false_eq_true, if_false]
  refine ⟨_, ?_, rfl⟩
  split <;>
    exact ⟨by simpa [Dict.truthy, counted_get] using error, by simpa [Dict.truthy, counted_get] using verified⟩

/-! ## Reports -/

/-- The fields the template names have the values they had. -/
def SameFields (template before after : Dict) : Prop :=
  ∀ e ∈ template, (Dict.get? before e.1).map digest = (Dict.get? after e.1).map digest

/-- Changed fields are reported, and a verified cleanup has restored them. -/
structure Reports (template before : Dict) (o : Outcome server) : Prop where
  residue : o.sent = true → ¬ SameFields template before (server.resource o.state) →
    (judgeMutationLifecycle o.evidence).verdict ∈ ["need_review", "error"]
  cleaned : Dict.truthy o.evidence "cleanup_verified" = true → SameFields template before (server.resource o.state)

/-- What the mutation needs of the server, for its residue to be reported. -/
structure Reportable (server : Server) (template before : Dict) (body : Json) (s : server.State) : Prop where
  refused : httpOk (server.send .mutation s).1.evidence = false →
    Dict.truthy (server.send .mutation s).1.evidence "error_type" = false →
    SameFields template before (server.resource (server.send .mutation s).2)
  restored : httpOk (server.send .mutation s).1.evidence = true →
    let read := (server.send .readback (server.send .mutation s).2).2
    restores server template body read = true →
    SameFields template before (server.resource (server.send (.restore body) read).2)

theorem replayMutation_reports (template before : Dict) (body : Json) {evidence : Dict} (fresh : Fresh evidence)
    (s : server.State) :
    Reports template before (replayMutation server template body evidence s) ↔
      Reportable server template before body s := by
  by_cases accepted : httpOk (server.send .mutation s).1.evidence = true
  · obtain ⟨evidence', clean, goes_on⟩ := replayMutation_accepted template body fresh accepted
    obtain ⟨verified, verdict⟩ := @replayRestore_verdict server template body _ clean
      (server.send .readback (server.send .mutation s).2).2
    obtain ⟨sent, state⟩ := @replayRestore_state server template body evidence'
      (server.send .readback (server.send .mutation s).2).2
    rw [goes_on]
    constructor
    · intro reports
      refine ⟨fun refused => absurd accepted (by simp [refused]), fun _ shown => ?_⟩
      rw [← state]
      exact reports.cleaned (verified.trans shown)
    · intro reportable
      refine ⟨fun _ changed => ?_, fun shown => ?_⟩
      · rw [verdict, if_neg fun shown => changed (state ▸ reportable.restored accepted shown)]
        exact List.mem_cons_self
      · rw [state]
        exact reportable.restored accepted (verified.symm.trans shown)
  · simp only [Bool.not_eq_true] at accepted
    obtain ⟨sent, state, verified, verdict⟩ := replayMutation_refused template body fresh accepted
    constructor
    · intro reports
      refine ⟨fun _ answered => ?_, fun ok => absurd ok (by simp [accepted])⟩
      by_contra changed
      have reported := reports.residue sent (state ▸ changed)
      rw [verdict, if_neg (by simp [answered])] at reported
      exact absurd reported (by decide)
    · intro reportable
      refine ⟨fun _ changed => ?_, fun shown => absurd shown (by simp [verified])⟩
      rw [state] at changed
      rw [verdict]
      split
      · decide
      · rename_i answered
        exact absurd (reportable.refused accepted (by simpa using answered)) changed

theorem reports_unsent {template before : Dict} {o : Outcome server} (unsent : o.sent = false)
    (verified : Dict.truthy o.evidence "cleanup_verified" = false) : Reports template before o :=
  ⟨fun sent => absurd sent (by simp [unsent]), fun shown => absurd shown (by simp [verified])⟩

/-! ## The whole replay -/

/-- The mutation is sent, with a body kept to restore. -/
structure Sends (server : Server) (snapshot : RequestSnapshot) (plan : UpdatePlan) (s : server.State)
    (body : Json) : Prop where
  provided : syntheticRequiredParameters (runtimePayload snapshot) = .ok []
  aligned : updateResourceIdentityAligned (runtimePayload snapshot) plan.readbackPayload = .ok true
  wet : plan.preflightOnly = false
  read : httpOk (server.send .readback s).1.evidence = true
  answered : (server.send .readback s).1.json ≠ .null
  kept : restoreBody snapshot.body (server.page s) = some body

/-- The replay sends the mutation, or leaves without a verified cleanup. -/
theorem replayUpdate_cases (template : Dict) (preflightOnly : Bool) {evidence : Dict} (fresh : Fresh evidence)
    (s : server.State) :
    let o := replayUpdate server template preflightOnly evidence s
    let before := (server.send .readback s).1
    (preflightOnly = false ∧ httpOk before.evidence = true ∧ before.json ≠ .null ∧
      ∃ body evidence', Fresh evidence' ∧ restoreBody template (server.page s) = some body ∧
        o = replayMutation server template body evidence' (server.send .readback s).2) ∨
    (o.sent = false ∧ Dict.truthy o.evidence "cleanup_verified" = false ∧
      (preflightOnly = true ∨ httpOk before.evidence = false ∨ before.json = .null ∨
        restoreBody template (server.page s) = none)) := by
  have read := (fresh.set (.bool true) (by decide : "before_readback_attempted" ≠ _) (by decide)).counted
    (server.send .readback s).1 (by decide : "before_status_code" ≠ _) (by decide)
  have left (evidence : Dict) (fresh : Fresh evidence) (gap : String) : Dict.truthy
      (copyPrimary (withGap evidence gap) (server.send .readback s).1.evidence) "cleanup_verified" = false :=
    ((fresh.set _ (by decide) (by decide)).copied _).2
  dsimp only
  unfold replayUpdate
  dsimp only
  split
  · rename_i unread
    simp only [Bool.or_eq_true, Bool.not_eq_true', decide_eq_true_eq] at unread
    exact .inr ⟨rfl, left _ read _, unread.elim (fun e => .inr (.inl e)) fun e => .inr (.inr (.inl e))⟩
  · rename_i answered
    simp only [Bool.or_eq_true, Bool.not_eq_true', decide_eq_true_eq, not_or, Bool.not_eq_false] at answered
    have page := server.honest s answered.1 answered.2
    rw [page]
    have ready := read.set (.bool (restoreBody template (server.page s)).isSome)
      (by decide : "restore_payload_ready" ≠ _) (by decide)
    cases found : restoreBody template (server.page s) with
    | none => exact .inr ⟨rfl, left _ (found ▸ ready) _, .inr (.inr (.inr rfl))⟩
    | some body =>
      cases preflightOnly with
      | true => exact .inr ⟨rfl, left _ (found ▸ ready) _, .inl rfl⟩
      | false => exact .inl ⟨rfl, answered.1, by simpa [page] using answered.2, body, _, found ▸ ready, rfl, rfl⟩

/-- Whatever the replay returns reports its residue. -/
def LeavesNoResidue (server : Server) (snapshot : RequestSnapshot) (plan : UpdatePlan) (s : server.State) : Prop :=
  ∀ o, replayMutationLifecycle server snapshot plan s = .ok o →
    Reports snapshot.body (server.resource s) o

/-- The restore keeps the same of the two pages, though a field the template names has changed. -/
def Overlooks (server : Server) (template : Dict) (s s' : server.State) : Prop :=
  (∃ body body', restoreBody template (server.page s) = some body ∧
    restoreBody template (server.page s') = some body' ∧ digest body' = digest body) ∧
  ¬ SameFields template (server.resource s) (server.resource s')

/-- A refused update is not applied, and no change is overlooked after the restore. -/
structure Restorable (server : Server) (snapshot : RequestSnapshot) (plan : UpdatePlan) (s : server.State) :
    Prop where
  refused : ∀ body, Sends server snapshot plan s body →
    let mutation := server.send .mutation (server.send .readback s).2
    httpOk mutation.1.evidence = false → Dict.truthy mutation.1.evidence "error_type" = false →
    SameFields snapshot.body (server.resource s) (server.resource mutation.2)
  seen : ∀ body, Sends server snapshot plan s body →
    let mutation := server.send .mutation (server.send .readback s).2
    let cleanup := server.send (.restore body) (server.send .readback mutation.2).2
    let final := server.send .readback cleanup.2
    httpOk mutation.1.evidence = true → httpOk cleanup.1.evidence = true → httpOk final.1.evidence = true →
    final.1.json ≠ .null → ¬ Overlooks server snapshot.body s cleanup.2

/-- Nothing is overlooked of a flat template whose fields the resource holds. -/
theorem not_overlooks_flat {template : Dict} {s s' : server.State} (flat : IsFlat template)
    {projected projected' : List (String × Json)}
    (held : projectFields template (server.resource s) = some projected)
    (held' : projectFields template (server.resource s') = some projected') :
    ¬ Overlooks server template s s' := by
  rintro ⟨⟨body, body', found, found', same⟩, changed⟩
  have candidate {s : server.State} {projected : List (String × Json)}
      (held : projectFields template (server.resource s) = some projected) :
      .obj projected ∈ restoreCandidates template (server.page s) :=
    List.mem_filterMap.mpr ⟨_, server.shown s, by simp [projectRestore, held]⟩
  have digests : digest (.obj projected) = digest (.obj projected') :=
    (restoreBody_candidate found (candidate held)).symm.trans
      (same.symm.trans (restoreBody_candidate found' (candidate held')))
  refine changed fun e mem => ?_
  obtain ⟨x, there⟩ := (projectFields_flat flat held).1 e mem
  obtain ⟨y, there', equal⟩ := mem_of_digest_eq digests there
  rw [(projectFields_flat flat held).2 _ there, (projectFields_flat flat held').2 _ there', Option.map_some,
    Option.map_some, equal]

theorem showsRestored_iff {template : Dict} {body : Json} {s : server.State} :
    showsRestored template body (server.send .readback s).1 = true ↔
      httpOk (server.send .readback s).1.evidence = true ∧ (server.send .readback s).1.json ≠ .null ∧
        ∃ final, restoreBody template (server.page s) = some final ∧ digest final = digest body := by
  have honest := server.honest s
  simp only [showsRestored, Bool.and_eq_true, Option.any_eq_true, sameDigest, beq_iff_eq]
  constructor
  · rintro ⟨ok, final, found, same⟩
    have answered : (server.send .readback s).1.json ≠ .null := by
      intro none_
      rw [none_] at found
      cases found
    exact ⟨ok, answered, final, honest ok answered ▸ found, same⟩
  · rintro ⟨ok, answered, final, found, same⟩
    exact ⟨ok, final, (honest ok answered).symm ▸ found, same⟩

theorem restorable_iff {snapshot : RequestSnapshot} {plan : UpdatePlan} {s : server.State} :
    Restorable server snapshot plan s ↔ ∀ body, Sends server snapshot plan s body →
      Reportable server snapshot.body (server.resource s) body (server.send .readback s).2 := by
  constructor
  · intro restorable body sends
    refine ⟨restorable.refused body sends, fun accepted => ?_⟩
    intro read shown
    simp only [restores, Bool.and_eq_true, showsRestored_iff] at shown
    obtain ⟨cleanup, ok, answered, final, found, same⟩ := shown
    by_contra changed
    exact restorable.seen body sends accepted cleanup ok answered ⟨⟨body, final, sends.kept, found, same⟩, changed⟩
  · intro reportable
    refine ⟨fun body sends => (reportable body sends).refused, fun body sends => ?_⟩
    rintro mutation cleanup final accepted restored ok answered ⟨⟨kept, shown, found, found', same⟩, changed⟩
    obtain rfl : body = kept := Option.some.inj (sends.kept.symm.trans found)
    refine changed ((reportable body sends).restored accepted ?_)
    simp only [restores, Bool.and_eq_true, showsRestored_iff]
    exact ⟨restored, ok, answered, shown, found', same⟩

/-- The checks before the first request. -/
theorem lifecycle_cases {snapshot : RequestSnapshot} {plan : UpdatePlan} {s : server.State} {o : Outcome server}
    (h : replayMutationLifecycle server snapshot plan s = .ok o) :
    (syntheticRequiredParameters (runtimePayload snapshot) = .ok [] ∧
      updateResourceIdentityAligned (runtimePayload snapshot) plan.readbackPayload = .ok true ∧
      o = replayUpdate server snapshot.body plan.preflightOnly (baseEvidence snapshot "update_restore") s) ∨
    (o.sent = false ∧ Dict.truthy o.evidence "cleanup_verified" = false) := by
  have left (gap : String) :
      Dict.truthy (withGap (baseEvidence snapshot "update_restore") gap) "cleanup_verified" = false :=
    ((Fresh.base snapshot _).set _ (by decide) (by decide)).verified
  unfold replayMutationLifecycle at h
  obtain ⟨names, provided, h⟩ := bind_eq_ok.mp h
  by_cases none_ : names = []
  · rw [if_neg (by simp [none_])] at h
    obtain ⟨aligned, here, h⟩ := bind_eq_ok.mp h
    cases aligned with
    | true => exact .inl ⟨none_ ▸ provided, here, (Except.ok.inj h).symm⟩
    | false =>
      cases h
      exact .inr ⟨rfl, left _⟩
  · rw [if_pos none_] at h
    cases h
    exact .inr ⟨rfl, left _⟩

theorem lifecycle_sends {snapshot : RequestSnapshot} {plan : UpdatePlan}
    (provided : syntheticRequiredParameters (runtimePayload snapshot) = .ok [])
    (aligned : updateResourceIdentityAligned (runtimePayload snapshot) plan.readbackPayload = .ok true)
    (s : server.State) : replayMutationLifecycle server snapshot plan s =
      .ok (replayUpdate server snapshot.body plan.preflightOnly (baseEvidence snapshot "update_restore") s) := by
  simp only [replayMutationLifecycle, provided, aligned]
  rfl

end

/-! ## A refused update that is applied -/

def accepted (json : Json) : Reply := ⟨[("status_code", .int 200), ("ok", .bool true), ("error_type", .str "")], json⟩

def serverError : Reply := ⟨[("status_code", .int 500), ("ok", .bool false), ("error_type", .str "")], .null⟩

def userPage (name : String) : Json := .obj [("name", .str name)]

/-- A user record. The update is applied, and answered with `answer`. -/
def userServer (answer : Reply) : Server where
  State := String
  resource name := [("name", .str name)]
  page := userPage
  send
    | .readback, name => (accepted (userPage name), name)
    | .mutation, _ => (answer, "updated")
    | .restore _, _ => (accepted .null, "original")
  shown _ := List.mem_cons_self
  reads _ := rfl
  honest _ _ _ := rfl

theorem not_overlooks_user : ¬ Overlooks (userServer serverError) [("name", .str "n")] "original" "updated" := by
  have held (name : String) :
      projectFields [("name", .str "n")] [("name", .str name)] = some [("name", .str name)] := rfl
  exact not_overlooks_flat (by simp [IsFlat]) (held "original") (held "updated")

def userUpdate : RequestSnapshot :=
  { id := 1, method := "PUT", url := "https://api.test/users/7", pathParams := [("id", .int 7)],
    body := [("name", .str "updated")] }

def userPlan : UpdatePlan :=
  { readbackPayload := [("rendered_url", .str "https://api.test/users/7"), ("path_params", .obj [("id", .int 7)])] }

end ApiManger.Lifecycle
