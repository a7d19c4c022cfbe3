import ApiManger.Authorization.Policy

/-!
# Validated selectors

`validate_selector` is stable: what it returns passes again, and asks the same of
every principal. A rule that was stored with validated selectors therefore matches
as its draft does.
-/

namespace ApiManger.Authorization
open Python

/-! ## One field after another -/

theorem Dict.keys_set {d : Dict} {key : String} {value : Json} {e : String × Json}
    (h : e ∈ Dict.set d key value) : e.1 ∈ d.map (·.1) ∨ e.1 = key := by
  unfold Dict.set at h
  split at h
  · obtain ⟨old, mem, rfl⟩ := List.mem_map.mp h
    split <;> exact .inl (List.mem_map_of_mem (f := (·.1)) mem)
  · rcases List.mem_append.mp h with old | new
    · exact .inl (List.mem_map_of_mem old)
    · exact .inr (by rw [List.mem_singleton.mp new])

/-- A field is left alone, or has its value normalised. -/
inductive FieldNormalized (f : Json → Except PyError Json) (d d' : Dict) (key : String) : Prop
  | absent (before : Dict.get? d key = none) (after : Dict.get? d' key = none)
  | changed (x y : Json) (before : Dict.get? d key = some x) (value : f x = .ok y)
      (after : Dict.get? d' key = some y)

/-- One pass over a list of fields. -/
structure PassNormalized (f : Json → Except PyError Json) (keys : List String) (d d' : Dict) : Prop where
  fields : ∀ key ∈ keys, FieldNormalized f d d' key
  others : ∀ key, key ∉ keys → Dict.get? d' key = Dict.get? d key
  keys : ∀ e ∈ d', e.1 ∈ d.map (·.1)

theorem normalizeField_spec {f : Json → Except PyError Json} {d d' : Dict} {key : String}
    (h : normalizeField f d key = .ok d') : PassNormalized f [key] d d' := by
  unfold normalizeField at h
  split at h
  · rename_i before
    cases h
    exact ⟨by simpa using .absent before before, fun _ _ => rfl, fun e mem => List.mem_map_of_mem mem⟩
  · rename_i x before
    cases value : f x with
    | error e => simp [value, Except.map] at h
    | ok y =>
      simp only [value, Except.map, Except.ok.injEq] at h
      subst h
      refine ⟨by simpa using .changed x y before value (Dict.get?_set_self ..), ?_, ?_⟩
      · exact fun other ne => Dict.get?_set_ne _ _ (by simpa using ne)
      · intro e mem
        rcases Dict.keys_set mem with old | rfl
        · exact old
        · obtain ⟨found, mem, eq⟩ := Option.map_eq_some_iff.mp before
          have here := List.find?_some mem
          exact List.mem_map.mpr ⟨found, List.mem_of_find?_eq_some mem, by simpa using here⟩

theorem foldlM_normalizeField_spec {f : Json → Except PyError Json} {keys : List String} {d d' : Dict}
    (nodup : keys.Nodup) (h : keys.foldlM (normalizeField f) d = .ok d') :
    PassNormalized f keys d d' := by
  induction keys generalizing d with
  | nil =>
    cases h
    exact ⟨by simp, fun _ _ => rfl, fun e mem => List.mem_map_of_mem mem⟩
  | cons key keys ih =>
    obtain ⟨absent, nodup⟩ := List.nodup_cons.mp nodup
    rw [List.foldlM_cons] at h
    cases first : normalizeField f d key with
    | error e => rw [first] at h; cases h
    | ok middle =>
      rw [first] at h
      have head := normalizeField_spec first
      have tail := ih nodup h
      refine ⟨fun other mem => ?_, fun other away => ?_, fun e mem => ?_⟩
      · rcases List.mem_cons.mp mem with rfl | later
        · cases head.fields other (by simp) with
          | absent before after => exact .absent before (tail.others other absent ▸ after)
          | changed x y before value after =>
            exact .changed x y before value (tail.others other absent ▸ after)
        · have same := head.others other fun e => absent (List.mem_singleton.mp e ▸ later)
          cases tail.fields other later with
          | absent before after => exact .absent (same ▸ before) after
          | changed x y before value after => exact .changed x y (same ▸ before) value after
      · simp only [List.mem_cons, not_or] at away
        rw [tail.others other away.2, head.others other (by simpa using away.1)]
      · obtain ⟨old, mem, eq⟩ := List.mem_map.mp (tail.keys e mem)
        exact eq ▸ head.keys old mem

/-- Where every value is normalised already, a pass changes nothing that can be read. -/
theorem foldlM_normalizeField_settled {f : Json → Except PyError Json} {keys : List String} {d : Dict}
    (settled : ∀ key ∈ keys, ∀ x, Dict.get? d key = some x → f x = .ok x) :
    ∃ d', keys.foldlM (normalizeField f) d = .ok d' ∧ (∀ key, Dict.get? d' key = Dict.get? d key) ∧
      ∀ e ∈ d', e.1 ∈ d.map (·.1) := by
  induction keys generalizing d with
  | nil => exact ⟨d, rfl, fun _ => rfl, fun e mem => List.mem_map_of_mem mem⟩
  | cons key keys ih =>
    have step : ∃ middle, normalizeField f d key = .ok middle ∧
        ∀ other, Dict.get? middle other = Dict.get? d other := by
      cases before : Dict.get? d key with
      | none => exact ⟨d, by simp [normalizeField, before], fun _ => rfl⟩
      | some x =>
        refine ⟨Dict.set d key x, ?_, fun other => ?_⟩
        · simp [normalizeField, before, settled key (by simp) x before, Except.map]
        · by_cases same : other = key
          · rw [same, Dict.get?_set_self, before]
          · exact Dict.get?_set_ne d x same
    obtain ⟨middle, first, same⟩ := step
    obtain ⟨d', rest, same', keys'⟩ := ih (d := middle) fun other mem x h =>
      settled other (List.mem_cons_of_mem _ mem) x (same other ▸ h)
    refine ⟨d', by rw [List.foldlM_cons, first]; exact rest, fun other => (same' other).trans (same other), ?_⟩
    intro e mem
    obtain ⟨old, mem, eq⟩ := List.mem_map.mp (keys' e mem)
    exact eq ▸ (normalizeField_spec first).keys old mem

theorem normalizeNames_settled {x y : Json} (h : normalizeNames x = .ok y) :
    normalizeNames y = .ok y := by
  unfold normalizeNames at h ⊢
  cases found : strings x with
  | error e => simp [found, Except.map] at h
  | ok names =>
    simp only [found, Except.map, Except.ok.injEq] at h
    subst h
    have nonempty : ∀ name ∈ names, name ≠ "" := by
      intro name mem
      cases x <;> simp only [strings, Except.ok.injEq, reduceCtorEq] at found <;> subst found
      case null => cases mem
      all_goals simpa using (List.mem_filter.mp mem).2
    have texts : ((names.map Json.str).map Json.pyStr).filter (· != "") = names := by
      rw [List.map_map, show Json.pyStr ∘ Json.str = id from rfl, List.map_id]
      exact List.filter_eq_self.mpr fun name mem => by simpa using nonempty name mem
    simp only [strings, texts, Except.map]

theorem normalizeRank_settled {x y : Json} (h : normalizeRank x = .ok y) : normalizeRank y = .ok y := by
  unfold normalizeRank at h ⊢
  cases found : x.toInt with
  | error e => simp [found, Except.map] at h
  | ok n =>
    simp only [found, Except.map, Except.ok.injEq] at h
    subst h
    rfl

/-! ## The whole selector -/

theorem selectorAttributes_ok {d : Dict} {fields : Dict}
    (h : Dict.get? d "attributes" = some (.obj fields)) : selectorAttributes d = .ok fields := by
  simp [selectorAttributes, Dict.get, h]

theorem validatePublicAttributes_eq {d d' : Dict} {path : String}
    (h : validatePublicAttributes d path = .ok d') : d' = d := by
  simp only [validatePublicAttributes, bind_eq_ok] at h
  obtain ⟨_, _, _, _, h⟩ := h
  exact (Except.ok.inj h).symm

/-- What `validate_selector` checks of a selector, field by field. -/
structure ValidSelector (d v : Dict) (byName byRank fields : Dict) : Prop where
  known : ∀ e ∈ d, e.1 ∈ selectorFields
  attributes : selectorAttributes d = .ok fields
  names : nameFields.foldlM (normalizeField normalizeNames) d = .ok byName
  ranks : rankFields.foldlM (normalizeField normalizeRank) byName = .ok byRank
  range : rankRangeInvalid byRank = false
  safe : validatePublicAttributes fields "selector.attributes" = .ok fields
  result : v = Dict.set byRank "attributes" (.obj fields)

theorem validateSelector_iff {d v : Dict} :
    validateSelector d = .ok v ↔ ∃ byName byRank fields, ValidSelector d v byName byRank fields := by
  have unknown : (!((d.map (·.1)).filter fun key => !selectorFields.contains key).isEmpty) = false ↔
      ∀ e ∈ d, e.1 ∈ selectorFields := by
    simp [List.filter_eq_nil_iff]
  unfold validateSelector
  simp only [guard_eq_ok, bind_eq_ok, Bool.not_eq_true, unknown]
  constructor
  · rintro ⟨known, fields, attributes, byName, names, byRank, ranks, range, safe, public_, result⟩
    cases validatePublicAttributes_eq public_
    exact ⟨byName, byRank, _, known, attributes, names, ranks, range, public_, (Except.ok.inj result).symm⟩
  · rintro ⟨byName, byRank, fields, valid⟩
    exact ⟨valid.known, fields, valid.attributes, byName, valid.names, byRank, valid.ranks, valid.range,
      fields, valid.safe, congrArg _ valid.result.symm⟩

theorem rankRangeInvalid_congr {d d' : Dict} (same : ∀ key ∈ rankFields, Dict.get? d' key = Dict.get? d key) :
    rankRangeInvalid d' = rankRangeInvalid d := by
  simp only [rankRangeInvalid, selectorRank, same "min_privilege_rank" (by simp [rankFields]),
    same "max_privilege_rank" (by simp [rankFields])]

theorem nameFields_apart : ∀ key ∈ nameFields, key ∉ rankFields ∧ key ≠ "attributes" := by decide

theorem rankFields_apart : ∀ key ∈ rankFields, key ≠ "attributes" := by decide

/-- **Stability.** A validated selector passes again and reads the same. -/
theorem validateSelector_stable {d v : Dict} (h : validateSelector d = .ok v) :
    ∃ v', validateSelector v = .ok v' ∧ ∀ key, Dict.get? v' key = Dict.get? v key := by
  obtain ⟨byName, byRank, fields, valid⟩ := validateSelector_iff.mp h
  have names := foldlM_normalizeField_spec (by decide) valid.names
  have ranks := foldlM_normalizeField_spec (by decide) valid.ranks
  have attributes : Dict.get? v "attributes" = some (.obj fields) := by
    rw [valid.result, Dict.get?_set_self]
  have reads : ∀ key, key ≠ "attributes" → Dict.get? v key = Dict.get? byRank key := by
    intro key ne
    rw [valid.result, Dict.get?_set_ne _ _ ne]
  obtain ⟨byName', names', sameNames, keysNames⟩ :=
    @foldlM_normalizeField_settled normalizeNames nameFields v (by
      intro key mem x found
      obtain ⟨notRank, ne⟩ := nameFields_apart key mem
      rw [reads key ne, ranks.others key notRank] at found
      cases names.fields key mem with
      | absent _ after => rw [after] at found; cases found
      | changed _ y _ value after =>
        rw [after] at found
        exact Option.some.inj found ▸ normalizeNames_settled value)
  obtain ⟨byRank', ranks', sameRanks, keysRanks⟩ :=
    @foldlM_normalizeField_settled normalizeRank rankFields byName' (by
      intro key mem x found
      rw [sameNames, reads key (rankFields_apart key mem)] at found
      cases ranks.fields key mem with
      | absent _ after => rw [after] at found; cases found
      | changed _ y _ value after =>
        rw [after] at found
        exact Option.some.inj found ▸ normalizeRank_settled value)
  refine ⟨Dict.set byRank' "attributes" (.obj fields), validateSelector_iff.mpr
    ⟨byName', byRank', fields, ?_, selectorAttributes_ok attributes, names', ranks', ?_, valid.safe, rfl⟩, ?_⟩
  · intro e mem
    rw [valid.result] at mem
    rcases Dict.keys_set mem with old | new
    · obtain ⟨e', mem', eq⟩ := List.mem_map.mp old
      obtain ⟨e'', mem'', eq'⟩ := List.mem_map.mp (ranks.keys e' mem')
      obtain ⟨e₀, mem₀, eq₀⟩ := List.mem_map.mp (names.keys e'' mem'')
      exact eq ▸ eq' ▸ eq₀ ▸ valid.known e₀ mem₀
    · rw [new]
      decide
  · rw [← valid.range]
    refine rankRangeInvalid_congr fun key mem => ?_
    rw [sameRanks, sameNames, reads key (rankFields_apart key mem)]
  · intro key
    by_cases same : key = "attributes"
    · rw [same, Dict.get?_set_self, attributes]
    · rw [Dict.get?_set_ne _ _ same, sameRanks, sameNames]

theorem selectorAdmits_congr {v v' : Dict} (same : ∀ key, Dict.get? v' key = Dict.get? v key)
    (p : AuthorizationPrincipal) : selectorAdmits v' p = selectorAdmits v p := by
  simp only [selectorAdmits, selectorNames, selectorRank, same]

theorem selectorMatches_validated {d v : Dict} (h : validateSelector d = .ok v)
    (p : AuthorizationPrincipal) : selectorMatches v p = selectorMatches d p := by
  obtain ⟨v', again, same⟩ := validateSelector_stable h
  simp only [selectorMatches, h, again, Except.map, selectorAdmits_congr same p]

end ApiManger.Authorization
