import ApiManger.Samples.Store
import ApiManger.Transition.System

/-!
# Samples and accounts

A sample keeps the request of its first capture and takes the account label of the last
call that gave one. The request that is found for an account is therefore one that the
account captured, as long as a label is only ever written over a request that the same
account has captured.
-/

namespace ApiManger.Samples
open Python Store Account Collection Transition

/-! ## Runs -/

inductive SampleCall where
  | save (call : SaveCall)
  | observe (call : ObserveCall)

/-- What a capture says: the account it was made for, and the request. -/
def SaveCall.capture (call : SaveCall) : String × Captured := (call.labels.accountId, call.captured)

def SampleCall.capture? : SampleCall → Option (String × Captured)
  | .save call => some call.capture
  | .observe _ => none

/-- The samples of an asset, with the captures that were made of it. -/
structure Ledger where
  samples : List RequestSample := []
  captures : List (String × Captured) := []

/-- Calls on one asset; `best_request_sample` only reads. -/
def sampling (g : Digests) : System Ledger SampleCall where
  step
    | l, .save call => some ⟨saveRequestSample g call l.samples, l.captures ++ [call.capture]⟩
    | l, .observe call => some ⟨saveObservation call l.samples, l.captures⟩

/-- The account that a call leaves as the label of a sample, where it writes one. -/
def relabels (g : Digests) : SampleCall → Option (String × (RequestSample → String))
  | .save call => some (sampleSignature g call, fun sample => orText call.labels.accountId sample.labels.accountId)
  | .observe call =>
    if call.selectedProjectId == "" || !call.hasAsset then none
    else some (call.signature, fun sample =>
      writtenLabel call.loaded.accountId sample.labels.accountId call.accountId)

/-- An account label is written only over a request that the account has captured, in this call or before. -/
def labelsOwn (g : Digests) : Admits Ledger SampleCall := fun l call =>
  (relabels g call).all fun (signature, label) => (l.samples.find? (·.signature == signature)).all fun sample =>
    label sample == "" || label sample == sample.labels.accountId ||
      (l.captures ++ call.capture?.toList).contains (label sample, sample.captured)

/-- The request of every labelled sample was captured for the account of its label. -/
def Owned (l : Ledger) : Prop :=
  ∀ sample ∈ l.samples, sample.labels.accountId ≠ "" → (sample.labels.accountId, sample.captured) ∈ l.captures

/-! ## Steps -/

/-- A document after an update is one from before, or the first that matched, changed. -/
theorem mem_updateOne {α : Type} {p : α → Bool} {f : α → α} {l l' : List α} (changed : updateOne p f l = some l') {b : α}
    (mem : b ∈ l') : b ∈ l ∨ ∃ a, l.find? p = some a ∧ b = f a := by
  obtain ⟨front, a, back, rfl, here, before, rfl⟩ := updateOne_split changed
  rcases List.mem_append.mp mem with mem | mem
  · exact .inl (List.mem_append_left _ mem)
  · rcases List.mem_cons.mp mem with rfl | mem
    · refine .inr ⟨a, ?_, rfl⟩
      rw [List.find?_append, List.find?_eq_none.mpr fun b mem => by simp [before b mem], Option.none_or,
        List.find?_cons_of_pos here]
    · exact .inl (List.mem_append_right _ (List.mem_cons_of_mem _ mem))

/-- What a call leaves: samples that were there, one that it relabelled, or the one it captured. -/
theorem sampling_step {g : Digests} {l l' : Ledger} {call : SampleCall} (step : (sampling g).step l call = some l') :
    l'.captures = l.captures ++ call.capture?.toList ∧ ∀ sample ∈ l'.samples, sample ∈ l.samples ∨
      (∃ signature label old, relabels g call = some (signature, label) ∧
        l.samples.find? (·.signature == signature) = some old ∧ sample.captured = old.captured ∧
        sample.labels.accountId = label old) ∨
      call.capture? = some (sample.labels.accountId, sample.captured) := by
  cases call with
  | save call =>
    obtain rfl := Option.some.inj step
    refine ⟨rfl, fun sample mem => ?_⟩
    dsimp only [saveRequestSample] at mem
    split at mem
    · next changed =>
      rcases mem_updateOne changed mem with mem | ⟨old, found, rfl⟩
      · exact .inl mem
      · exact .inr (.inl ⟨_, _, old, rfl, found, rfl, rfl⟩)
    · split at mem
      · exact .inl mem
      · rcases List.mem_append.mp mem with mem | mem
        · exact .inl mem
        · rw [List.mem_singleton.mp mem]
          exact .inr (.inr rfl)
  | observe call =>
    obtain rfl := Option.some.inj step
    refine ⟨(List.append_nil _).symm, fun sample mem => ?_⟩
    dsimp only [saveObservation] at mem
    split at mem
    · exact .inl mem
    · next relabelled =>
      unfold updateIfAny at mem
      cases changed : updateOne (fun sample => sample.signature == call.signature)
          (fun sample => { sample with labels := call.write sample.labels }) l.samples with
      | none =>
        rw [changed] at mem
        exact .inl mem
      | some samples =>
        rw [changed] at mem
        rcases mem_updateOne changed mem with mem | ⟨old, found, rfl⟩
        · exact .inl mem
        · exact .inr (.inl ⟨_, _, old, by rw [relabels, if_neg relabelled], found, rfl, rfl⟩)

theorem sampling_owned {g : Digests} {l l' : Ledger} {call : SampleCall} (owned : Owned l)
    (admitted : labelsOwn g l call = true) (step : (sampling g).step l call = some l') : Owned l' := by
  obtain ⟨captures, samples⟩ := sampling_step step
  have kept : ∀ c ∈ l.captures, c ∈ l'.captures := by
    rw [captures]
    exact fun c mem => List.mem_append_left _ mem
  intro sample mem labelled
  rcases samples sample mem with old | ⟨signature, label, old, writes, found, same, is⟩ | capture
  · exact kept _ (owned sample old labelled)
  · rw [is] at labelled ⊢
    rw [same]
    simp only [labelsOwn, writes, found, Option.all_some, Bool.or_eq_true, beq_iff_eq, List.contains_iff_mem] at admitted
    rcases admitted with (empty | unchanged) | own
    · exact absurd empty labelled
    · rw [unchanged] at labelled ⊢
      exact kept _ (owned old (List.mem_of_find?_eq_some found) labelled)
    · rw [captures]
      exact own
  · rw [captures, capture]
    exact List.mem_append_right _ (List.mem_singleton_self _)

/-- The captures of a run are those of its calls. -/
theorem sampling_captures {g : Digests} {guard : Admits Ledger SampleCall} {calls : List SampleCall} {l l' : Ledger}
    (run : (sampling g).run guard l calls = some l') : l'.captures = l.captures ++ calls.filterMap (·.capture?) := by
  induction calls generalizing l with
  | nil =>
    cases run
    exact (List.append_nil _).symm
  | cons call rest ih =>
    obtain ⟨-, next, step, later⟩ := System.run_cons.mp run
    rw [ih later, (sampling_step step).1, List.append_assoc]
    congr 1
    cases call <;> rfl

/-! ## The best sample -/

theorem newest_mem {samples : List RequestSample} {sample : RequestSample} (best : newest samples = some sample) :
    sample ∈ samples := by
  have one {step : Option RequestSample → RequestSample → Option RequestSample}
      (chooses : ∀ best sample, step best sample = best ∨ step best sample = some sample)
      (start : Option RequestSample) (rest : List RequestSample) {found : RequestSample}
      (folded : rest.foldl step start = some found) : start = some found ∨ found ∈ rest := by
    induction rest generalizing start with
    | nil => exact .inl folded
    | cons head rest ih =>
      rcases ih _ folded with here | later
      · rcases chooses start head with kept | taken
        · exact .inl (kept.symm.trans here)
        · exact .inr (Option.some.inj (taken.symm.trans here) ▸ List.mem_cons_self)
      · exact .inr (List.mem_cons_of_mem _ later)
  refine (one (fun best sample => ?_) none samples best).resolve_left (Option.some_ne_none sample).symm
  split
  · split
    · exact .inr rfl
    · exact .inl rfl
  · exact .inr rfl

theorem bestRequestSample_mem {samples : List RequestSample} {sample : RequestSample}
    {projectId envId accountId : String} (named : accountId ≠ "")
    (best : bestRequestSample samples projectId envId accountId = some sample) :
    sample ∈ samples ∧ sample.labels.accountId = accountId := by
  obtain ⟨mem, passes⟩ := List.mem_filter.mp (newest_mem best)
  simp only [Bool.and_eq_true, Bool.or_eq_true, beq_iff_eq] at passes
  exact ⟨mem, passes.2.resolve_left named⟩

/-- **Samples of an account.** After any sequence of calls that write an account label only over a request that the
account has captured, the sample found for an account holds a request that was captured for it. -/
theorem best_sample_captured {g : Digests} {calls : List SampleCall} {l : Ledger} {sample : RequestSample}
    {projectId envId accountId : String} (run : (sampling g).run (labelsOwn g) {} calls = some l)
    (named : accountId ≠ "") (best : bestRequestSample l.samples projectId envId accountId = some sample) :
    ∃ call, SampleCall.save call ∈ calls ∧ call.labels.accountId = accountId ∧ call.captured = sample.captured := by
  have owned : Owned l := System.invariant (I := Owned) (fun _ mem => absurd mem List.not_mem_nil)
    (fun _ _ _ owned admitted step => sampling_owned owned admitted step) run
  obtain ⟨mem, label⟩ := bestRequestSample_mem named best
  have captured := owned sample mem (label ▸ named)
  rw [sampling_captures run, List.nil_append] at captured
  obtain ⟨call, inside, captures⟩ := List.mem_filterMap.mp captured
  cases call with
  | save call =>
    obtain ⟨account, request⟩ := Prod.mk.inj (Option.some.inj captures)
    exact ⟨call, inside, account.trans label, request⟩
  | observe call => nomatch captures

/-! ## Two accounts -/

/-- Digests that keep what they are made of apart. -/
def plainDigests : Digests where
  bodyShape body := match body with
    | .json (.obj fields) => { contentType := "application/json", keys := fields.map (·.1) }
    | _ => {}
  shape shape := shape.method ++ " " ++ shape.path ++ " " ++ ",".intercalate shape.bodyShape.keys
  response := id

def readOrder (accountId : String) (order : Int) (now : Timestamp) : SaveCall where
  path := "/order"
  captured := { url := "https://shop.test/order", body := .json (.obj [("id", .int order)]) }
  labels := { accountId := accountId }
  now := now

/-- One account's request is found for it. -/
theorem best_sample_captured_alone : ∃ call, SampleCall.save call ∈ [SampleCall.save (readOrder "alice" 1 0)] ∧
    call.labels.accountId = "alice" ∧ call.captured = (readOrder "alice" 1 0).captured := by
  obtain ⟨l, run, found⟩ := System.exists_of_run (M := sampling plainDigests) (g := labelsOwn plainDigests) (s := {})
    (l := [.save (readOrder "alice" 1 0)]) (P := fun l => decide ((bestRequestSample l.samples "" "" "alice").map
      (·.captured) = some (readOrder "alice" 1 0).captured)) (by decide +kernel)
  obtain ⟨sample, best, same⟩ := Option.map_eq_some_iff.mp (of_decide_eq_true found)
  rw [← same]
  exact best_sample_captured run (by decide) best

/-- After another account captured the same shape, the first one's request is found for it. -/
theorem best_sample_crosses : ¬ ∀ (g : Digests) (calls : List SampleCall) (l : Ledger) (sample : RequestSample)
    (accountId : String), (sampling g).run (free Ledger SampleCall) {} calls = some l → accountId ≠ "" →
    bestRequestSample l.samples "" "" accountId = some sample →
    ∃ call, SampleCall.save call ∈ calls ∧ call.labels.accountId = accountId ∧ call.captured = sample.captured := by
  intro owned
  obtain ⟨l, run, found⟩ := System.exists_of_run (M := sampling plainDigests) (g := free Ledger SampleCall) (s := {})
    (l := [.save (readOrder "alice" 1 0), .save (readOrder "bob" 2 1)])
    (P := fun l => decide ((bestRequestSample l.samples "" "" "bob").map (·.captured) =
      some (readOrder "alice" 1 0).captured)) (by decide +kernel)
  obtain ⟨sample, best, same⟩ := Option.map_eq_some_iff.mp (of_decide_eq_true found)
  obtain ⟨call, mem, account, captured⟩ := owned _ _ _ _ "bob" run (by decide) best
  simp only [List.mem_cons, List.not_mem_nil, or_false, SampleCall.save.injEq] at mem
  rw [same] at captured
  rcases mem with rfl | rfl
  · exact absurd account (by decide)
  · exact absurd captured (by decide)

end ApiManger.Samples
