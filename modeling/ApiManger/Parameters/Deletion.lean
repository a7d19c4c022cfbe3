import ApiManger.Parameters.ReplayLaws

/-!
# Observed deletions

After a `DELETE` the source is read again, and the digest of the value that was sent is looked for
among the digests of at most twenty values. This shows that the value is gone where it was found
in the source before, is one value, and is not behind the first twenty.
-/

namespace ApiManger.Parameters
open Python Collection

/-! ## Values at a locator -/

/-- All values at a locator. -/
def located : List LocatorToken → Json → List Json
  | [], node => [node]
  | .property value dynamic :: rest, node => match node with
    | .obj fields =>
      if dynamic then fields.flatMap fun field => located rest field.2
      else match Dict.get? fields value with
        | some child => located rest child
        | none => []
    | _ => []
  | .array index wildcard :: rest, node => match node with
    | .arr items =>
      if wildcard then items.flatMap (located rest)
      else if 0 ≤ index then match items[index.toNat]? with
        | some child => located rest child
        | none => []
      else []
    | _ => []

/-- The document has the value somewhere. -/
inductive Occurs (value : Json) : Json → Prop
  | here {node : Json} (same : value.Same node) : Occurs value node
  | item {items : List Json} {child : Json} (mem : child ∈ items) (inside : Occurs value child) :
      Occurs value (.arr items)
  | field {fields : List (String × Json)} {e : String × Json} (mem : e ∈ fields) (inside : Occurs value e.2) :
      Occurs value (.obj fields)

theorem take_take_append {α : Type} (n : ℕ) (xs ys : List α) : (xs.take n ++ ys).take n = (xs ++ ys).take n := by
  have rest : n - min n xs.length = n - xs.length := by omega
  rw [List.take_append, List.take_append, List.take_take, Nat.min_self, List.length_take, rest]

/-- A loop that takes the next results until there are enough takes the first ones of all. -/
theorem foldl_take {α β : Type} {n : ℕ} {step : List β → α → List β} {all : α → List β}
    (one : ∀ results a, results.length ≤ n → step results a = (results ++ all a).take n) (as : List α)
    {results : List β} (within : results.length ≤ n) :
    as.foldl (fun results a => if n ≤ results.length then results else step results a) results =
      (results ++ as.flatMap all).take n := by
  induction as generalizing results with
  | nil => rw [List.foldl_nil, List.flatMap_nil, List.append_nil, List.take_of_length_le within]
  | cons a rest ih =>
    rw [List.foldl_cons, List.flatMap_cons]
    split
    · next full =>
      rw [ih within, List.take_append_of_le_length full, List.take_append_of_le_length full]
    · have next := one results a within
      rw [next, ih (List.length_take_le _ _), take_take_append, List.append_assoc]

/-- The walk takes the first values at the locator. -/
theorem walkLocator_eq (tokens : List LocatorToken) (node : Json) {results : List Json}
    (within : results.length ≤ valueLimit) :
    walkLocator tokens node results = (results ++ located tokens node).take valueLimit := by
  induction tokens generalizing node results with
  | nil =>
    rw [walkLocator]
    split
    · next full => rw [List.take_append_of_le_length full, List.take_of_length_le within]
    · next space =>
      rw [located, List.take_of_length_le]
      rw [List.length_append, List.length_singleton]
      omega
  | cons token rest ih =>
    have nothing : results = (results ++ []).take valueLimit := by
      rw [List.append_nil, List.take_of_length_le within]
    cases token with
    | property value dynamic =>
      cases node with
      | obj fields =>
        rw [walkLocator]
        split
        · next full => rw [List.take_append_of_le_length full, List.take_of_length_le within]
        · dsimp only [located]
          split
          · exact foldl_take (fun results field within => ih field.2 within) fields within
          · cases Dict.get? fields value with
            | some child => exact ih child within
            | none => exact nothing
      | null | bool | int | float | str | arr =>
        rw [walkLocator]
        · split <;> exact nothing
        · exact fun fields same => by cases same
    | array index wildcard =>
      cases node with
      | arr items =>
        rw [walkLocator]
        split
        · next full => rw [List.take_append_of_le_length full, List.take_of_length_le within]
        · dsimp only [located]
          split
          · exact foldl_take (fun results child within => ih child within) items within
          · split
            · cases items[index.toNat]? with
              | some child => exact ih child within
              | none => exact nothing
            · exact nothing
      | null | bool | int | float | str | obj =>
        rw [walkLocator]
        · split <;> exact nothing
        · exact fun items same => by cases same

/-- At most twenty of the values at a locator are extracted. -/
theorem extractValuesAtLocator_eq (value : Json) (tokens : List LocatorToken) :
    extractValuesAtLocator value tokens = (located tokens value).take valueLimit := by
  have empty : ([] : List Json).length ≤ valueLimit := Nat.zero_le _
  rw [extractValuesAtLocator, walkLocator_eq tokens value empty, List.nil_append, List.take_take, Nat.min_self]

/-! ## Extracted values occur -/

theorem mem_of_get? {fields : Dict} {key : String} {child : Json} (found : Dict.get? fields key = some child) :
    ∃ e ∈ fields, e.2 = child := by
  obtain ⟨e, first, rfl⟩ := Option.map_eq_some_iff.mp found
  exact ⟨e, List.mem_of_find?_eq_some first, rfl⟩

/-- A value at a locator occurs in the document. -/
theorem located_occurs {tokens : List LocatorToken} {node value : Json} (mem : value ∈ located tokens node) :
    Occurs value node := by
  induction tokens generalizing node with
  | nil =>
    rw [List.mem_singleton.mp mem]
    exact .here (Json.Same.refl node)
  | cons token rest ih =>
    cases token with
    | property name dynamic =>
      cases node with
      | obj fields =>
        dsimp only [located] at mem
        split at mem
        · obtain ⟨field, among, inside⟩ := List.mem_flatMap.mp mem
          exact .field among (ih inside)
        · split at mem
          · next child found =>
            obtain ⟨e, among, rfl⟩ := mem_of_get? found
            exact .field among (ih mem)
          · cases mem
      | null | bool | int | float | str | arr => cases mem
    | array index wildcard =>
      cases node with
      | arr items =>
        dsimp only [located] at mem
        split at mem
        · obtain ⟨child, among, inside⟩ := List.mem_flatMap.mp mem
          exact .item among (ih inside)
        · split at mem
          · split at mem
            · next child found => exact .item (List.mem_of_getElem? found) (ih mem)
            · cases mem
          · cases mem
      | null | bool | int | float | str | obj => cases mem

mutual

/-- A value found by its name occurs in the document. -/
theorem walkByName_occurs (target : String) : (node : Json) → (results : List Json) →
    ∀ value ∈ walkByName target node results, value ∈ results ∨ Occurs value node
  | .obj fields, results, value, mem => by
    rw [walkByName] at mem
    split at mem
    · exact .inl mem
    · rcases walkFields_occurs target fields results value mem with before | ⟨e, among, inside⟩
      · exact .inl before
      · exact .inr (.field among inside)
  | .arr items, results, value, mem => by
    rw [walkByName] at mem
    split at mem
    · exact .inl mem
    · rcases walkItems_occurs target items results value mem with before | ⟨child, among, inside⟩
      · exact .inl before
      · exact .inr (.item among inside)
  | .null, _, _, mem | .bool _, _, _, mem | .int _, _, _, mem | .float _, _, _, mem | .str _, _, _, mem => .inl mem

theorem walkFields_occurs (target : String) : (fields : List (String × Json)) → (results : List Json) →
    ∀ value ∈ walkFields target fields results, value ∈ results ∨ ∃ e ∈ fields, Occurs value e.2
  | [], _, _, mem => .inl mem
  | (key, child) :: rest, results, value, mem => by
    rw [walkFields] at mem
    rcases walkFields_occurs target rest _ value mem with before | ⟨e, among, inside⟩
    · rcases walkByName_occurs target child _ value before with earlier | inside
      · split at earlier
        · rcases List.mem_append.mp earlier with earlier | here
          · exact .inl earlier
          · rw [List.mem_singleton.mp here]
            exact .inr ⟨(key, child), .head _, .here (Json.Same.refl child)⟩
        · exact .inl earlier
      · exact .inr ⟨(key, child), .head _, inside⟩
    · exact .inr ⟨e, .tail _ among, inside⟩

theorem walkItems_occurs (target : String) : (items : List Json) → (results : List Json) →
    ∀ value ∈ walkItems target items results, value ∈ results ∨ ∃ child ∈ items, Occurs value child
  | [], _, _, mem => .inl mem
  | child :: rest, results, value, mem => by
    rw [walkItems] at mem
    rcases walkItems_occurs target rest _ value mem with before | ⟨other, among, inside⟩
    · rcases walkByName_occurs target child _ value before with earlier | inside
      · exact .inl earlier
      · exact .inr ⟨child, .head _, inside⟩
    · exact .inr ⟨other, .tail _ among, inside⟩

end

theorem fallbackValues_occurs {document value : Json} {name : String} (mem : value ∈ fallbackValues document name) :
    Occurs value document := by
  rcases walkByName_occurs _ document [] value (List.mem_of_mem_take mem) with before | inside
  · cases before
  · exact inside

/-! ## Reported deletions -/

/-- The elements of the value of a relation: a list of ids has its items. -/
def Injected.elements (record : Injected) : List Json :=
  if endsWith record.mapping.canonicalName "_ids" then match record.value with
    | .arr items => items
    | value => [value]
  else [record.value]

/-- The source's document before the requests to the consumer. -/
def documentBefore (p : ReplayPlan) (answer : ℕ → Attempt) : Option Json :=
  let evidence := sourceEvidence (sourcePhase p.effective answer)
  if evidence.ok then some evidence.document else none

/-- The source's document after the requests to the consumer, where it is read again. -/
def documentAfter (p : ReplayPlan) (answer : ℕ → Attempt) : Option Json :=
  let source := sourcePhase p.effective answer
  let consumer := consumerPhase p.effective answer source.sent
  if !p.found || source.raised || (injected p.effective source).items.isEmpty || consumer.raised ||
      !shouldReadAfter p.effective consumer then none
  else match answer consumer.sent with
    | .ok r => if r.ok then some r.document else none
    | .error _ => none

/-- The value of the relation occurred before, and no element of it is at its locator afterwards. -/
structure Gone (record : Injected) (before : Option Json) (after : Json) : Prop where
  known : ∃ document, before = some document ∧ ∀ value ∈ record.elements, Occurs value document
  absent : ∀ value ∈ record.elements, ∀ other ∈ located record.mapping.sourceLocator after, ¬value.Same other

/-- Every relation reported as deleted is gone. -/
def DeletionsObserved (sha256 : Json → String) (p : ReplayPlan) (answer : ℕ → Attempt) : Prop :=
  ∀ result rows, replayParameterValidation sha256 p answer = some result → result.rows = some rows →
    ∀ row ∈ rows, row.effect = some .deleteObserved →
      ∀ record, (row.relationId, record) ∈ (injected p.effective (sourcePhase p.effective answer)).items →
        ∃ after, documentAfter p answer = some after ∧ Gone record (documentBefore p answer) after

/-- What the check rests on: a value that was given occurred before or is still shown; where an element is
still at the locator, the digest of the value is that of one of the first twenty values there. -/
structure Checkable (sha256 : Json → String) (record : Injected) (before : Option Json) (after : Json) : Prop where
  known : record.manual = true → shownAfter sha256 record after = true ∨
    ∃ document, before = some document ∧ ∀ value ∈ record.elements, Occurs value document
  seen : (∃ value ∈ record.elements, ∃ other ∈ located record.mapping.sourceLocator after, value.Same other) →
    ∃ other ∈ (located record.mapping.sourceLocator after).take valueLimit,
      stableHash sha256 other = stableHash sha256 record.value

section
variable {sha256 : Json → String} {p : ReplayPlan} {answer : ℕ → Attempt} {record : Injected} {source : Progress}

theorem extracted_occurs {m : RelationMapping} {document value : Json} (found : extractedValue m document = some value)
    {manual : Bool} : ∀ element ∈ (⟨m, value, manual⟩ : Injected).elements, Occurs element document := by
  have occurs : ∀ other ∈ (if (extractValuesAtLocator document m.sourceLocator).isEmpty then
      fallbackValues document m.canonicalName else extractValuesAtLocator document m.sourceLocator),
      Occurs other document := by
    intro other mem
    split at mem
    · exact fallbackValues_occurs mem
    · rw [extractValuesAtLocator_eq] at mem
      exact located_occurs (List.mem_of_mem_take mem)
  unfold extractedValue at found
  dsimp only at found
  generalize (if (extractValuesAtLocator document m.sourceLocator).isEmpty then
    fallbackValues document m.canonicalName else extractValuesAtLocator document m.sourceLocator) = values at found occurs
  intro element mem
  unfold Injected.elements at mem
  split at found
  · cases found
  · split at found
    · next ids =>
      cases found
      rw [if_pos ids] at mem
      exact occurs element mem
    · next single =>
      rw [if_neg single, List.mem_singleton] at mem
      rw [mem]
      exact occurs value (List.mem_of_head? found)

/-- A value that was not given by the operator was found in the source's answer. -/
theorem injected_extracted {key : String} (mem : (key, record) ∈ (injected p.effective source).items)
    (extracted : ¬record.manual = true) : (sourceEvidence source).ok = true ∧
      ∀ value ∈ record.elements, Occurs value (sourceEvidence source).document := by
  have among := Mapping.mem_ofItems mem
  rcases List.mem_append.mp among with given | found
  · obtain ⟨m, -, some_⟩ := List.mem_filterMap.mp given
    obtain ⟨value, -, same⟩ := Option.map_eq_some_iff.mp some_
    cases same
    exact absurd rfl extracted
  · split at found
    · next ok =>
      obtain ⟨m, -, some_⟩ := List.mem_filterMap.mp found
      obtain ⟨value, here, same⟩ := Option.map_eq_some_iff.mp some_
      cases same
      exact ⟨ok, extracted_occurs here⟩
    · cases found

/-- Where an element is at the locator afterwards, the digests are those of the first values there. -/
theorem shownAfter_iff {after : Json} (some_ : located record.mapping.sourceLocator after ≠ []) :
    shownAfter sha256 record after = true ↔ ∃ other ∈ (located record.mapping.sourceLocator after).take valueLimit,
      stableHash sha256 other = stableHash sha256 record.value := by
  have present : ((located record.mapping.sourceLocator after).take valueLimit).isEmpty = false := by
    rw [Bool.eq_false_iff, Ne, List.isEmpty_iff, List.take_eq_nil_iff]
    rintro (zero | empty)
    · cases zero
    · exact some_ empty
  rw [shownAfter, valuesAfter, extractValuesAtLocator_eq, present, if_neg Bool.false_ne_true, List.contains_iff_mem,
    List.mem_map]

/-- A relation is gone, unless its value is still shown, just where it is checkable. -/
theorem checkable_iff {key : String} {after : Json}
    (mem : (key, record) ∈ (injected p.effective (sourcePhase p.effective answer)).items) :
    Checkable sha256 record (documentBefore p answer) after ↔
      (¬shownAfter sha256 record after = true → Gone record (documentBefore p answer) after) := by
  constructor
  · intro checkable hidden
    refine ⟨?_, ?_⟩
    · by_cases manual : record.manual = true
      · exact (checkable.known manual).resolve_left hidden
      · obtain ⟨ok, occurs⟩ := injected_extracted mem manual
        exact ⟨_, if_pos ok, occurs⟩
    · intro value element other there same
      apply hidden
      rw [shownAfter_iff (List.ne_nil_of_mem there)]
      exact checkable.seen ⟨value, element, other, there, same⟩
  · intro gone
    refine ⟨?_, ?_⟩
    · intro _
      by_cases shown : shownAfter sha256 record after = true
      · exact .inl shown
      · exact .inr (gone shown).known
    · rintro ⟨value, element, other, there, same⟩
      by_cases shown : shownAfter sha256 record after = true
      · exact (shownAfter_iff (List.ne_nil_of_mem there)).mp shown
      · exact absurd same ((gone shown).absent value element other there)

/-! ## Runs -/

/-- Where the source is read again, the result is that after the consumer. -/
theorem replay_of_documentAfter {after : Json} (read : documentAfter p answer = some after) :
    ∃ consumer reply r, r.ok = true ∧ r.document = after ∧ replayParameterValidation sha256 p answer =
      some (afterConsumer sha256 p (sourcePhase p.effective answer) consumer reply (some r)) := by
  unfold documentAfter at read
  dsimp only at read
  split at read
  · cases read
  · next ran =>
    simp only [Bool.or_eq_true, not_or, Bool.not_eq_true, Bool.not_eq_false'] at ran
    obtain ⟨⟨⟨⟨found, source⟩, present⟩, consumer⟩, reads⟩ := ran
    split at read
    · next r answered =>
      split at read
      · next ok =>
        cases read
        obtain ⟨reply, last⟩ : ∃ reply, (consumerPhase p.effective answer
            (sourcePhase p.effective answer).sent).last = some reply := by
          cases last : (consumerPhase p.effective answer (sourcePhase p.effective answer).sent).last with
          | none =>
            rw [shouldReadAfter, last, Option.any_none, Bool.and_false] at reads
            cases reads
          | some reply => exact ⟨reply, rfl⟩
        refine ⟨consumerPhase p.effective answer (sourcePhase p.effective answer).sent, reply, r, ok, rfl, ?_⟩
        unfold replayParameterValidation
        dsimp only
        rw [found, source, present, consumer, last, reads, answered]
        rfl
      · cases read
    · cases read

theorem rowList_effect {items : List (String × RelationRow)} {row : RelationRow} (mem : row ∈ rowList items) :
    ∃ e ∈ items, e.2 = row := by
  obtain ⟨e, among, rfl⟩ := List.mem_map.mp mem
  exact ⟨e, Mapping.mem_ofItems among, rfl⟩

theorem missingRow_effect {status : ValidationStatus} {ms : List RelationMapping} :
    ∀ e ∈ ms.map (missingRow status), e.2.effect = none := by
  intro e mem
  obtain ⟨m, -, rfl⟩ := List.mem_map.mp mem
  rfl

/-- The rows from the requests to the source have no effect. -/
theorem sourceRows_effect : ∀ e ∈ sourceRows p source, e.2.effect = none := by
  intro e mem
  unfold sourceRows at mem
  split at mem
  · cases mem
  · split at mem <;> exact missingRow_effect e mem

/-- A deletion is reported only where the source was read again, well. -/
theorem relationEffect_observed {after : Option Reply} (observed : relationEffect sha256 p after record = .deleteObserved) :
    ∃ r, after = some r ∧ r.ok = true ∧ ¬shownAfter sha256 record r.document = true := by
  unfold relationEffect at observed
  split at observed
  · cases observed
  · next r =>
    split at observed
    · next ok =>
      split at observed
      · cases observed
      · next hidden => exact ⟨r, rfl, (Bool.and_eq_true _ _ ▸ ok).2, hidden⟩
    · split at observed <;> cases observed

/-- Where a row reports a deletion, the source was read again. -/
theorem documentAfter_of_observed {result : ReplayResult} {rows : List RelationRow} {row : RelationRow}
    (returned : replayParameterValidation sha256 p answer = some result) (shown : result.rows = some rows)
    (mem : row ∈ rows) (observed : row.effect = some .deleteObserved) : ∃ after, documentAfter p answer = some after := by
  have quiet : ∀ {items : List (String × RelationRow)}, row ∈ rowList items → (∀ e ∈ items, e.2.effect = none) →
      False := by
    intro items mem none_
    obtain ⟨e, among, rfl⟩ := rowList_effect mem
    rw [none_ e among] at observed
    cases observed
  unfold replayParameterValidation at returned
  unfold documentAfter
  split at returned
  · cases returned
    cases shown
  · next found =>
    dsimp only at returned ⊢
    split at returned
    · cases returned
    · next ran =>
      split at returned
      · cases returned
        cases shown
        split at mem
        · exact (quiet mem missingRow_effect).elim
        · exact (quiet mem sourceRows_effect).elim
      · next present =>
        split at returned
        · cases returned
        · next ran' =>
          split at returned
          · cases returned
            cases shown
            refine (quiet mem ?_).elim
            intro e among
            rcases List.mem_append.mp among with early | late
            · exact sourceRows_effect e early
            · obtain ⟨record, -, rfl⟩ := List.mem_map.mp late
              rfl
          · have sent : ∀ {after : Option Reply} {c : ConsumerEnd},
                row ∈ rowList (sourceRows p (sourcePhase p.effective answer) ++
                  (injected p.effective (sourcePhase p.effective answer)).items.map (sentRow sha256 p c after)) →
                ∃ r, after = some r ∧ r.ok = true := by
              intro after c mem
              obtain ⟨e, among, rfl⟩ := rowList_effect mem
              rcases List.mem_append.mp among with early | late
              · rw [sourceRows_effect e early] at observed
                cases observed
              · obtain ⟨record, -, rfl⟩ := List.mem_map.mp late
                obtain ⟨r, there, ok, -⟩ := relationEffect_observed (Option.some.inj observed)
                exact ⟨r, there, ok⟩
            split at returned
            · next reads =>
              split at returned
              · cases returned
              · next r answered =>
                cases returned
                cases shown
                obtain ⟨_, same, ok⟩ := sent mem
                cases same
                rw [if_neg (by simp [found, ran, present, ran', reads]), answered]
                exact ⟨r.document, if_pos ok⟩
            · cases returned
              cases shown
              obtain ⟨_, same, -⟩ := sent mem
              cases same

/-- Of the rows that are recorded, the later ones are kept. -/
theorem mem_rowList_append {early late : List (String × RelationRow)} (distinct : Distinct Prod.fst late)
    {e : String × RelationRow} (mem : e ∈ late) : e.2 ∈ rowList (early ++ late) := by
  have kept : (Mapping.ofItems (early ++ late)).get? e.1 = some e.2 := by
    rw [Mapping.ofItems, List.foldl_append, Mapping.get?_foldl_set late distinct, distinct.lookup_of_mem mem]
    rfl
  exact List.mem_map.mpr ⟨(e.1, e.2), Mapping.mem_iff.mpr kept, rfl⟩

theorem sentRow_distinct (c : ConsumerEnd) (after : Option Reply) :
    Distinct Prod.fst ((injected p.effective source).items.map (sentRow sha256 p c after)) := by
  have keys : ((injected p.effective source).items.map (sentRow sha256 p c after)).map Prod.fst =
      (injected p.effective source).items.map Prod.fst := by
    rw [List.map_map]
    rfl
  rw [Distinct, keys]
  exact (injected p.effective source).distinct

/-- Where deletions that are reported were observed, a value that is not shown again is gone. -/
theorem DeletionsObserved.gone (observed : DeletionsObserved sha256 p answer) (consumer : deletes p = true)
    {after : Json} (read : documentAfter p answer = some after) {key : String}
    (mem : (key, record) ∈ (injected p.effective (sourcePhase p.effective answer)).items)
    (hidden : ¬shownAfter sha256 record after = true) : Gone record (documentBefore p answer) after := by
  obtain ⟨progress, reply, r, ok, document, returned⟩ := @replay_of_documentAfter sha256 p answer after read
  have effect : relationEffect sha256 p (some r) record = .deleteObserved := by
    rw [relationEffect, consumer, ok, document, if_neg hidden]
    rfl
  have late : sentRow sha256 p (consumerEnd p (sourcePhase p.effective answer) progress reply) (some r) (key, record) ∈
      (injected p.effective (sourcePhase p.effective answer)).items.map (sentRow sha256 p
        (consumerEnd p (sourcePhase p.effective answer) progress reply) (some r)) := List.mem_map_of_mem mem
  have row := @mem_rowList_append (sourceRows p (sourcePhase p.effective answer)) _ (sentRow_distinct _ _) _ late
  obtain ⟨after', read', gone⟩ := observed _ _ returned rfl _ row (congrArg some effect) record mem
  rw [read] at read'
  cases read'
  exact gone

end

/-- **Observed deletions.** For a consumer that deletes, the deletions that are reported were observed just
where, for every relation with a value: a value given by an operator occurred in the source before or is
still shown; and where an element of the value is still at the locator, the digest of the value is that of
one of the first twenty values there. -/
theorem deletionsObserved_iff (sha256 : Json → String) (p : ReplayPlan) (consumer : deletes p = true)
    (answer : ℕ → Attempt) :
    DeletionsObserved sha256 p answer ↔ ∀ after, documentAfter p answer = some after → ∀ key record,
      (key, record) ∈ (injected p.effective (sourcePhase p.effective answer)).items →
        Checkable sha256 record (documentBefore p answer) after := by
  constructor
  · intro observed after read key record mem
    exact (checkable_iff mem).mpr fun hidden => observed.gone consumer read mem hidden
  · intro checkable result rows returned shown row mem effect record among
    obtain ⟨after, read⟩ := documentAfter_of_observed returned shown mem effect
    refine ⟨after, read, (checkable_iff among).mp (checkable after read _ record among) ?_⟩
    obtain ⟨progress, reply, r, ok, document, returned'⟩ := @replay_of_documentAfter sha256 p answer after read
    rw [returned] at returned'
    cases returned'
    cases shown
    obtain ⟨e, there, rfl⟩ := rowList_effect mem
    rcases List.mem_append.mp there with early | late
    · rw [sourceRows_effect e early] at effect
      cases effect
    · obtain ⟨e', inside, rfl⟩ := List.mem_map.mp late
      have same : e' = (e'.1, record) := Mapping.eq_of_key inside among rfl
      rw [same] at effect
      obtain ⟨r', here, -, hidden⟩ := relationEffect_observed (Option.some.inj effect)
      cases here
      rw [document] at hidden
      exact hidden

/-- A plan that deletes the orders the source lists. -/
def deleteOrders : ReplayPlan where
  plan := ⟨[⟨"r1", "order_ids", [.property "order_ids" false, .array 0 true], none⟩], [], [],
    ⟨"a.test", "https://a.test"⟩, ⟨"a.test", "https://a.test"⟩, "DELETE", true, 3, 3, 20, false⟩
  own := ⟨"", "", [], none⟩
  found := true
  availableSourceHostCount := 1
  availableConsumerHostCount := 1

/-- Every request succeeds, and the orders are listed each time. -/
def ordersStay (_ : ℕ) : Attempt := .ok ⟨true, some 200, "", false, .obj [("order_ids", .arr [.int 1, .int 2])]⟩

theorem deletionsObserved_iff_deleteOrders :
    DeletionsObserved Json.pyRepr deleteOrders ordersStay ↔ ∀ after, documentAfter deleteOrders ordersStay = some after →
      ∀ key record, (key, record) ∈ (injected deleteOrders.effective
        (sourcePhase deleteOrders.effective ordersStay)).items →
        Checkable Json.pyRepr record (documentBefore deleteOrders ordersStay) after :=
  deletionsObserved_iff Json.pyRepr deleteOrders (by decide) ordersStay

/-- The digest of a list is not among those of its items, so orders that are still listed are reported as deleted. -/
theorem deletionsObserved_fails : ¬∀ (sha256 : Json → String) (p : ReplayPlan) (answer : ℕ → Attempt),
    deletes p = true → DeletionsObserved sha256 p answer := by
  intro all
  have observed := all Json.pyRepr deleteOrders ordersStay (by decide)
  have read : documentAfter deleteOrders ordersStay = some (.obj [("order_ids", .arr [.int 1, .int 2])]) := by decide
  let record : Injected :=
    ⟨⟨"r1", "order_ids", [.property "order_ids" false, .array 0 true], none⟩, .arr [.int 1, .int 2], false⟩
  have mem : ("r1", record) ∈ (injected deleteOrders.effective (sourcePhase deleteOrders.effective ordersStay)).items :=
    .head _
  have gone := observed.gone (by decide) read mem (by decide)
  have element : Json.int 1 ∈ record.elements := by decide
  exact gone.absent (.int 1) element (.int 1) (.head _) (Json.Same.refl _)

end ApiManger.Parameters
