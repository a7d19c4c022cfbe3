import ApiManger.Repair.Rebind

/-!
# A rebind is all or nothing

When a remap fails, the compensation takes the remaps back and deletes the clones, but
puts back only some of the fields that the switch of the run wrote. So a rebind that
raises leaves everything as it was exactly when no remap can fail or the fields it does
not put back had the new values already, and no snapshot raises after a clone was made.
-/

namespace ApiManger.Repair
open Python Store Collection

/-! ## What a clone may change -/

/-- Two validation plans that differ in the authentication of their roles only. -/
def SamePlan (a b : Option Json) : Prop :=
  b = a ∨ ∃ plan plan', a = some (.obj plan) ∧ b = some (.obj plan') ∧
    ∀ key, key ≠ "source_auth" → key ≠ "consumer_auth" → Dict.get? plan' key = Dict.get? plan key

/-- A clone differs in its authentication references, its creation time, its template key and the
note of the rebind only. -/
structure SameButAuth (a b : RebindSnapshot) : Prop where
  fields : b = { a with
    id := b.id, accountId := b.accountId, authMode := b.authMode, authProviderId := b.authProviderId
    authContextRef := b.authContextRef, authProfileRevisionId := b.authProfileRevisionId
    authRealmRevisionId := b.authRealmRevisionId, authAdapterVersionId := b.authAdapterVersionId
    metadata := b.metadata, templateKey := b.templateKey, ctime := b.ctime }
  metadata : ∀ key, key ≠ "auth_repair_rebind" → key ≠ "validation_plan" →
    Dict.get? b.metadata key = Dict.get? a.metadata key
  plan : SamePlan (Dict.get? a.metadata "validation_plan") (Dict.get? b.metadata "validation_plan")

section
variable {p : RebindPlan} {now : Timestamp} {x : RebindSnapshot}

theorem RebindPlan.rebindRole_spec {plan plan' : Dict} {role : String} {changed : Bool}
    (done : p.rebindRole plan role = .ok (plan', changed)) :
    ∀ key, key ≠ role ++ "_auth" → Dict.get? plan' key = Dict.get? plan key := by
  intro key other
  unfold rebindRole at done
  obtain ⟨used, _, done⟩ := bind_eq_ok.mp done
  cases used with
  | true =>
    cases done
    exact Dict.get?_set_ne plan _ other
  | false =>
    cases done
    rfl

/-- The metadata of a clone, before the note. -/
theorem RebindPlan.rebindMetadata_spec {metadata : Dict} {changed : Bool}
    (done : p.rebindMetadata x = .ok (metadata, changed)) :
    (∀ key, key ≠ "validation_plan" → Dict.get? metadata key = Dict.get? x.metadata key) ∧
      SamePlan (Dict.get? x.metadata "validation_plan") (Dict.get? metadata "validation_plan") := by
  unfold rebindMetadata at done
  dsimp only at done
  split at done
  · next plan stored =>
    obtain ⟨⟨plan₁, source⟩, first, done⟩ := bind_eq_ok.mp done
    obtain ⟨⟨plan₂, consumer⟩, second, done⟩ := bind_eq_ok.mp done
    cases done
    have old : Dict.get? x.metadata "validation_plan" = some (.obj plan) := by
      cases found : Dict.get? x.metadata "validation_plan" with
      | none => simp [Dict.get, found] at stored
      | some value =>
        simp only [Dict.get, found, Option.getD_some] at stored
        rw [stored]
    refine ⟨fun key other => Dict.get?_set_ne _ _ other, .inr ⟨plan, plan₂, old, Dict.get?_set_self _ _ _, ?_⟩⟩
    intro key noSource noConsumer
    rw [rebindRole_spec second key noConsumer, rebindRole_spec first key noSource]
  · cases done
    exact ⟨fun _ _ => rfl, .inl rfl⟩

/-- **A clone** differs from its snapshot where it may. -/
theorem RebindPlan.cloneOf_same {metadata : Dict} {changed : Bool} (done : p.rebindMetadata x = .ok (metadata, changed))
    (id : ObjectId) : SameButAuth x (p.cloneOf now x metadata id) := by
  obtain ⟨kept, plan⟩ := rebindMetadata_spec done
  refine ⟨rfl, fun key noNote noPlan => ?_, ?_⟩
  · rw [← kept key noPlan]
    exact Dict.get?_set_ne metadata _ noNote
  · have same : Dict.get? (p.cloneOf now x metadata id).metadata "validation_plan" =
        Dict.get? metadata "validation_plan" := Dict.get?_set_ne metadata _ (by decide)
    rw [same]
    exact plan

/-- The snapshot can be read: every role's authentication in its plan is a dictionary. -/
def RebindPlan.readable (p : RebindPlan) (x : RebindSnapshot) : Bool := (p.references x).toBool

/-- The snapshot references the repaired profile. -/
def RebindPlan.touches (p : RebindPlan) (x : RebindSnapshot) : Bool :=
  match p.references x with
  | .ok changed => changed
  | .error _ => false

/-- What is made of one snapshot. -/
theorem cloneSnapshot_spec (stored : List RebindSnapshot) :
    match cloneSnapshotForAuthRevision p now x stored with
    | .error _ => p.readable x = false
    | .ok none => p.readable x = true ∧ p.touches x = false
    | .ok (some clone) => p.readable x = true ∧ p.touches x = true ∧ clone.id = freshId stored ∧
        SameButAuth x clone := by
  unfold cloneSnapshotForAuthRevision RebindPlan.readable RebindPlan.touches RebindPlan.references
  cases done : p.rebindMetadata x with
  | error e => simp [bind, Except.bind, Except.map, Except.toBool]
  | ok read =>
    obtain ⟨metadata, changed⟩ := read
    cases changed with
    | false => simp [bind, Except.bind, Except.map, Except.toBool, pure, Except.pure]
    | true =>
      have same : SameButAuth x (p.cloneOf now x metadata (freshId stored)) :=
        RebindPlan.cloneOf_same done (freshId stored)
      simpa [bind, Except.bind, Except.map, Except.toBool, pure, Except.pure, RebindPlan.cloneOf] using same

end

variable {stored : List RebindSnapshot} {pairs : List Remap}

theorem lt_freshId {x : RebindSnapshot} (mem : x ∈ stored) :
    x.id < freshId stored := by
  have upTo : ∀ (ids : List ℕ) (n : ℕ), n ∈ ids → n ≤ ids.foldr max 0 := by
    intro ids
    induction ids with
    | nil =>
      intro n mem
      cases mem
    | cons m ids ih =>
      intro n mem
      rcases List.mem_cons.mp mem with rfl | later
      · exact le_max_left _ _
      · exact (ih n later).trans (le_max_right _ _)
  exact Nat.lt_succ_of_le (upTo _ _ (List.mem_map_of_mem mem))

/-! ## The loop that clones -/

/-- Where a snapshot id goes under the changed pairs. -/
def renamed (pairs : List Remap) (id : ObjectId) : ObjectId :=
  ((pairs.find? (·.oldId == id)).map (·.newId)).getD id

theorem renamed_self {id : ObjectId} (absent : ∀ r ∈ pairs, r.oldId ≠ id) :
    renamed pairs id = id := by
  have none_ : pairs.find? (·.oldId == id) = none := List.find?_eq_none.mpr fun r mem => by simp [absent r mem]
  simp [renamed, none_]

theorem renamed_cons_ne {r : Remap} {id : ObjectId} (ne : r.oldId ≠ id) :
    renamed (r :: pairs) id = renamed pairs id := by
  simp [renamed, ne]

theorem renamed_cons_self (r : Remap) (pairs : List Remap) : renamed (r :: pairs) r.oldId = r.newId := by
  simp [renamed]

/-- The clones are new. -/
structure NewIds (stored clones : List RebindSnapshot) : Prop where
  above : ∀ c ∈ clones, ∀ x ∈ stored, x.id < c.id
  nodup : (clones.map (·.id)).Nodup

theorem NewIds.none : NewIds stored [] := by
  refine ⟨?_, List.nodup_nil⟩
  intro c mem
  cases mem

theorem NewIds.delete {clones : List RebindSnapshot} (new : NewIds stored clones) :
    deleteSnapshots (clones.map (·.id)) (stored ++ clones) = stored := by
  unfold deleteSnapshots
  rw [List.filter_append]
  have old : stored.filter (fun x => !(clones.map (·.id)).contains x.id) = stored := by
    refine List.filter_eq_self.mpr fun x mem => ?_
    simp only [Bool.not_eq_true', List.contains_eq_mem, List.mem_map, decide_eq_false_iff_not, not_exists, not_and]
    exact fun c here => (new.above c here x mem).ne'
  have gone : clones.filter (fun x => !(clones.map (·.id)).contains x.id) = [] := by
    refine List.filter_eq_nil_iff.mpr fun c mem => ?_
    simp only [Bool.not_eq_true', List.contains_eq_mem, decide_eq_false_iff_not, not_not]
    exact List.mem_map_of_mem mem
  rw [old, gone, List.append_nil]

theorem NewIds.cons {clones : List RebindSnapshot} {clone : RebindSnapshot} (fresh : clone.id = freshId stored)
    (new : NewIds (stored ++ [clone]) clones) : NewIds stored (clone :: clones) := by
  refine ⟨fun c mem x here => ?_, ?_⟩
  · rcases List.mem_cons.mp mem with rfl | later
    · rw [fresh]
      exact lt_freshId here
    · exact new.above c later x (List.mem_append_left _ here)
  · rw [List.map_cons, List.nodup_cons]
    refine ⟨fun mem => ?_, new.nodup⟩
    obtain ⟨c, here, same⟩ := List.mem_map.mp mem
    have lt := new.above c here clone (by simp)
    rw [same] at lt
    exact absurd lt (lt_irrefl _)

/-- The positions of the snapshots that reference the profile. -/
def touchedAt (p : RebindPlan) (k : Nat) (xs : List RebindSnapshot) : List (ObjectId × Nat) :=
  ((xs.zipIdx k).filter fun e => p.touches e.1).map fun e => (e.1.id, e.2)

theorem touchedAt_cons (p : RebindPlan) (k : Nat) (x : RebindSnapshot) (xs : List RebindSnapshot) :
    touchedAt p k (x :: xs) = (if p.touches x then [(x.id, k)] else []) ++ touchedAt p (k + 1) xs := by
  unfold touchedAt
  rw [List.zipIdx_cons, List.filter_cons]
  split <;> rfl

theorem touchedAt_mem {p : RebindPlan} {k : Nat} {xs : List RebindSnapshot} {e : ObjectId × Nat}
    (mem : e ∈ touchedAt p k xs) : ∃ x ∈ xs, p.touches x = true ∧ x.id = e.1 := by
  obtain ⟨⟨x, i⟩, here, rfl⟩ := List.mem_map.mp mem
  obtain ⟨listed, touched⟩ := List.mem_filter.mp here
  exact ⟨x, List.fst_mem_of_mem_zipIdx listed, touched, rfl⟩

/-- What the loop leaves when every snapshot can be read. -/
structure Cloned (p : RebindPlan) (k : Nat) (xs clones : List RebindSnapshot) (ids : List ObjectId)
    (pairs : List Remap) : Prop where
  readable : ∀ x ∈ xs, p.readable x = true
  same : List.Forall₂ (fun x id => id = x.id ∨ ∃ c ∈ clones, c.id = id ∧ SameButAuth x c) xs ids
  newIds : pairs.map (·.newId) = clones.map (·.id)
  touched : pairs.map (fun r => (r.oldId, r.ordinal)) = touchedAt p k xs

/-- What it leaves when a snapshot cannot be read. -/
structure Unreadable (p : RebindPlan) (xs clones : List RebindSnapshot) : Prop where
  stopped : xs.all p.readable = false
  none_ : clones = [] ↔ ∀ x ∈ xs.takeWhile p.readable, p.touches x = false

/-- **The loop that clones.** -/
theorem cloneAll_spec (p : RebindPlan) (now : Timestamp) (k : Nat) (xs stored : List RebindSnapshot) :
    ∃ clones, (cloneAll p now k xs stored).2 = stored ++ clones ∧ NewIds stored clones ∧
      match (cloneAll p now k xs stored).1 with
      | .error _ => Unreadable p xs clones
      | .ok (ids, pairs) => Cloned p k xs clones ids pairs := by
  induction xs generalizing k stored with
  | nil =>
    refine ⟨[], by simp [cloneAll], .none, ⟨?_, List.Forall₂.nil, rfl, rfl⟩⟩
    intro x mem
    cases mem
  | cons x rest ih =>
    have made := @cloneSnapshot_spec p now x stored
    unfold cloneAll
    cases first : cloneSnapshotForAuthRevision p now x stored with
    | error e =>
      rw [first] at made
      refine ⟨[], (List.append_nil _).symm, .none, ⟨?_, ?_⟩⟩
      · simp [show p.readable x = false from made]
      · simp [show p.readable x = false from made]
    | ok kept =>
    cases kept with
    | none =>
      rw [first] at made
      obtain ⟨read, untouched⟩ := made
      obtain ⟨clones, store, new, found⟩ := ih (k + 1) stored
      cases tail : cloneAll p now (k + 1) rest stored with
      | mk answer stored' =>
        rw [tail] at store found
        cases answer with
        | error e =>
          refine ⟨clones, store, new, ⟨?_, ?_⟩⟩
          · rw [List.all_cons, found.stopped, Bool.and_false]
          · rw [found.none_, List.takeWhile_cons, if_pos read, List.forall_mem_cons]
            simp [untouched]
        | ok made =>
          refine ⟨clones, store, new, ⟨?_, ?_, found.newIds, ?_⟩⟩
          · exact List.forall_mem_cons.mpr ⟨read, found.readable⟩
          · exact .cons (.inl rfl) found.same
          · rw [touchedAt_cons, untouched]
            exact found.touched
    | some clone =>
      rw [first] at made
      obtain ⟨read, touched, fresh, same⟩ := made
      obtain ⟨clones, store, new, found⟩ := ih (k + 1) (stored ++ [clone])
      have grown : (cloneAll p now (k + 1) rest (stored ++ [clone])).2 = stored ++ clone :: clones := by
        rw [store, List.append_assoc, List.singleton_append]
      dsimp only
      cases tail : cloneAll p now (k + 1) rest (stored ++ [clone]) with
      | mk answer stored' =>
        rw [tail] at grown found
        cases answer with
        | error e =>
          refine ⟨clone :: clones, grown, new.cons fresh, ⟨?_, ?_⟩⟩
          · rw [List.all_cons, found.stopped, Bool.and_false]
          · rw [List.takeWhile_cons, if_pos read, List.forall_mem_cons]
            simp [touched]
        | ok made =>
          refine ⟨clone :: clones, grown, new.cons fresh, ⟨?_, ?_, ?_, ?_⟩⟩
          · exact List.forall_mem_cons.mpr ⟨read, found.readable⟩
          · refine .cons (.inr ⟨clone, List.mem_cons_self .., rfl, same⟩) (found.same.imp fun y id is => ?_)
            exact is.imp_right fun ⟨c, mem, rest⟩ => ⟨c, List.mem_cons_of_mem _ mem, rest⟩
          · rw [List.map_cons, List.map_cons, found.newIds]
          · rw [touchedAt_cons, touched, List.map_cons, found.touched]
            rfl

/-- The new snapshot ids are the old ones, renamed. -/
theorem cloneAll_ids {p : RebindPlan} {now : Timestamp} {k : Nat} {xs : List RebindSnapshot}
    {ids : List ObjectId} (distinct : (xs.map (·.id)).Nodup)
    (done : (cloneAll p now k xs stored).1 = .ok (ids, pairs)) : ids = xs.map fun x => renamed pairs x.id := by
  induction xs generalizing k stored ids pairs with
  | nil =>
    cases done
    rfl
  | cons x rest ih =>
    have apart : ∀ y ∈ rest, y.id ≠ x.id := by
      intro y mem same
      exact (List.nodup_cons.mp distinct).1 (List.mem_map.mpr ⟨y, mem, same⟩)
    have distinct := (List.nodup_cons.mp distinct).2
    obtain ⟨_, _, _, found⟩ := cloneAll_spec p now (k + 1) rest stored
    unfold cloneAll at done
    split at done
    · cases done
    · split at done
      · next ids' pairs' stored' tail =>
        cases done
        rw [tail] at found
        have first : renamed pairs x.id = x.id := by
          refine renamed_self fun r mem same => ?_
          have listed : (r.oldId, r.ordinal) ∈ touchedAt p (k + 1) rest :=
            found.touched ▸ List.mem_map_of_mem mem
          obtain ⟨y, here, _, is⟩ := touchedAt_mem listed
          exact apart y here (is.trans same)
        rw [List.map_cons, first, ← ih distinct (by rw [tail])]
      · cases done
    · next clone _ =>
      split at done
      · next ids' pairs' stored' tail =>
        cases done
        have later : rest.map (fun y => renamed (⟨x.id, clone.id, k⟩ :: pairs') y.id) =
            rest.map fun y => renamed pairs' y.id :=
          List.map_congr_left fun y mem => renamed_cons_ne (apart y mem).symm
        rw [List.map_cons, later, ← ih distinct (by rw [tail])]
        exact congrArg (· :: ids') (renamed_cons_self ⟨x.id, clone.id, k⟩ pairs').symm
      · cases done

/-! ## The loop that remaps -/

section
variable {runId : ObjectId}

/-- The pairs do not collide, and their new ids are not among the checkpoints of the run. -/
structure Separate (runId : ObjectId) (pairs : List Remap) (cps : List RebindCheckpoint) : Prop where
  olds : (pairs.map (·.oldId)).Nodup
  news : (pairs.map (·.newId)).Nodup
  apart : ∀ r ∈ pairs, ∀ r' ∈ pairs, r.newId ≠ r'.oldId
  fresh : ∀ c ∈ cps, c.runId = runId → ∀ r ∈ pairs, c.snapshotId ≠ r.newId

def Remap.write (r : Remap) (c : RebindCheckpoint) : RebindCheckpoint := { c with snapshotId := r.newId }

variable {cps cps' : List RebindCheckpoint} {pairs done : List Remap}

theorem Separate.step {r : Remap} {rest : List Remap}
    (separate : Separate runId (r :: rest) cps) (changed : updateOne (r.matches runId) r.write cps = some cps') :
    Separate runId rest cps' := by
  obtain ⟨front, a, back, rfl, _, _, rfl⟩ := updateOne_split changed
  refine ⟨(List.nodup_cons.mp separate.olds).2, (List.nodup_cons.mp separate.news).2, ?_, ?_⟩
  · intro q mem q' mem'
    exact separate.apart q (List.mem_cons_of_mem _ mem) q' (List.mem_cons_of_mem _ mem')
  · intro c mem own q later
    rcases List.mem_append.mp mem with early | late
    · exact separate.fresh c (List.mem_append_left _ early) own q (List.mem_cons_of_mem _ later)
    · rcases List.mem_cons.mp late with rfl | after
      · intro same
        exact (List.nodup_cons.mp separate.news).1 (List.mem_map.mpr ⟨q, later, same.symm⟩)
      · have listed : c ∈ front ++ a :: back := by simp [after]
        exact separate.fresh c listed own q (List.mem_cons_of_mem _ later)

/-- **Taking a failed loop back.** -/
theorem unmapAll_remapAll {remapped : List Remap}
    (separate : Separate runId pairs cps) (failed : remapAll runId pairs done cps = (.error remapped, cps')) :
    unmapAll runId remapped cps' = unmapAll runId done cps := by
  induction pairs generalizing done cps with
  | nil => cases failed
  | cons r rest ih =>
    unfold remapAll at failed
    split at failed
    · cases failed
      rfl
    · next cps₁ changed =>
      have later := ih (separate.step changed) failed
      have back : updateIfAny (r.wrote runId) (fun c => { c with snapshotId := r.oldId }) cps₁ = cps := by
        refine updateOne_undo changed (fun c mem => ?_) (fun c here => ?_) fun c here => ?_
        · have other := separate.fresh c mem
          by_cases own : c.runId = runId
          · simp [Remap.wrote, other own r (List.mem_cons_self ..)]
          · simp [Remap.wrote, own]
        · simp only [Remap.matches, Bool.and_eq_true, beq_iff_eq] at here
          simp [Remap.wrote, here]
        · simp only [Remap.matches, Bool.and_eq_true, beq_iff_eq] at here
          simp [← here.2]
      rw [later, unmapAll, back]

/-- **When the loop succeeds.** -/
theorem remapAll_ok_iff (separate : Separate runId pairs cps) :
    (remapAll runId pairs done cps).1 = .ok () ↔ ∀ r ∈ pairs, ∃ c ∈ cps, r.matches runId c = true := by
  induction pairs generalizing done cps with
  | nil => simp [remapAll]
  | cons r rest ih =>
    unfold remapAll
    split
    · next stuck =>
      have never := updateOne_eq_none.mp stuck
      refine iff_of_false (by simp) fun all => ?_
      obtain ⟨c, mem, here⟩ := all r (List.mem_cons_self ..)
      rw [never c mem] at here
      cases here
    · next cps' changed =>
      have first : ∃ c ∈ cps, r.matches runId c = true := updateOne_isSome.mp (by rw [changed]; rfl)
      obtain ⟨front, a, back, rfl, here, _, rfl⟩ := updateOne_split changed
      rw [ih (separate.step changed), List.forall_mem_cons]
      -- the other pairs match no checkpoint that was or is now the one of this pair
      have unmoved : ∀ q ∈ rest, q.matches runId a = false ∧ q.matches runId { a with snapshotId := r.newId } = false := by
        intro q mem
        have old : q.oldId ≠ r.oldId := fun same =>
          (List.nodup_cons.mp separate.olds).1 (List.mem_map.mpr ⟨q, mem, same⟩)
        have new : r.newId ≠ q.oldId := separate.apart r (List.mem_cons_self ..) q (List.mem_cons_of_mem _ mem)
        simp only [Remap.matches, Bool.and_eq_true, beq_iff_eq] at here
        simp [Remap.matches, here.2, old.symm, new]
      have same : (∀ q ∈ rest, ∃ c ∈ front ++ { a with snapshotId := r.newId } :: back, q.matches runId c = true) ↔
          ∀ q ∈ rest, ∃ c ∈ front ++ a :: back, q.matches runId c = true := by
        refine forall₂_congr fun q mem => ?_
        simp only [List.mem_append, List.mem_cons, or_and_right, exists_or, exists_eq_left, unmoved q mem]
      exact ⟨fun all => ⟨first, same.mp all⟩, fun all => same.mpr all.2⟩

def OnePerSnapshot (runId : ObjectId) (cps : List RebindCheckpoint) : Prop :=
  cps.Pairwise fun a b => ¬(a.runId = runId ∧ b.runId = runId ∧ a.snapshotId = b.snapshotId)

def Remap.move (r : Remap) (runId : ObjectId) (c : RebindCheckpoint) : RebindCheckpoint :=
  if c.runId = runId ∧ c.snapshotId = r.oldId then r.write c else c

theorem Remap.write_map {r : Remap} {rest : List Remap}
    (separate : Separate runId (r :: rest) cps) (unique : OnePerSnapshot runId cps)
    (changed : updateOne (r.matches runId) r.write cps = some cps') :
    cps' = cps.map (r.move runId) ∧ OnePerSnapshot runId cps' := by
  have mapped : cps' = cps.map (r.move runId) := by
    obtain ⟨front, a, back, rfl, here, _, rfl⟩ := updateOne_split changed
    simp only [Remap.matches, Bool.and_eq_true, beq_iff_eq] at here
    obtain ⟨⟨⟨⟨own, _⟩, _⟩, _⟩, old⟩ := here
    obtain ⟨_, tail, across⟩ := List.pairwise_append.mp unique
    have before : front.map (r.move runId) = front := by
      refine map_eq_self fun b mem => if_neg fun same => ?_
      exact across b mem a (List.mem_cons_self ..) ⟨same.1, own, same.2.trans old.symm⟩
    have after : back.map (r.move runId) = back := by
      refine map_eq_self fun b mem => if_neg fun same => ?_
      exact (List.pairwise_cons.mp tail).1 b mem ⟨own, same.1, old.trans same.2.symm⟩
    rw [List.map_append, List.map_cons, before, after, Remap.move, if_pos ⟨own, old⟩]
  refine ⟨mapped, ?_⟩
  rw [mapped]
  refine List.pairwise_map.mpr (unique.imp_of_mem fun {x y} memX memY apart both => ?_)
  have new := fun c mem own => separate.fresh c mem own r (List.mem_cons_self ..)
  unfold Remap.move at both
  split at both <;> split at both
  · next isX isY => exact apart ⟨isX.1, isY.1, isX.2.trans isY.2.symm⟩
  · exact new y memY both.2.1 both.2.2.symm
  · exact new x memX both.1 both.2.2
  · exact apart both

/-- The checkpoints once every remap is done. -/
theorem remapAll_map (separate : Separate runId pairs cps)
    (unique : OnePerSnapshot runId cps) (succeeded : remapAll runId pairs done cps = (.ok (), cps')) :
    cps' = cps.map fun c => if c.runId = runId then { c with snapshotId := renamed pairs c.snapshotId } else c := by
  induction pairs generalizing done cps with
  | nil =>
    cases succeeded
    refine (map_eq_self fun c _ => ?_).symm
    simp [renamed]
  | cons r rest ih =>
    unfold remapAll at succeeded
    split at succeeded
    · cases succeeded
    · next cps₁ changed =>
      obtain ⟨mapped, unique₁⟩ := r.write_map separate unique changed
      rw [ih (separate.step changed) unique₁ succeeded, mapped, List.map_map]
      refine List.map_congr_left fun c _ => ?_
      simp only [Function.comp_apply, Remap.move]
      by_cases own : c.runId = runId
      · by_cases old : c.snapshotId = r.oldId
        · have still : renamed rest r.newId = r.newId := by
            refine renamed_self fun q mem => ?_
            exact (separate.apart r (List.mem_cons_self ..) q (List.mem_cons_of_mem _ mem)).symm
          simp [own, old, Remap.write, still, renamed_cons_self]
        · simp [own, old, renamed_cons_ne (Ne.symm old)]
      · simp [own]

end

end ApiManger.Repair
