import ApiManger.Collection.FirstMatch
import ApiManger.OpenApi.Schema

/-!
# Parameters of an operation

`_openapi_parameters` keeps the first entry of each name and place, and goes through those of
the path item first: where the operation declares a parameter of the path item again, the
entry of the path item is kept.
-/

namespace ApiManger.OpenApi
open Python Collection

/-- The entries that a path item or an operation declares: objects with a name and a place, where they
are given at all. -/
structure Declares (item : Json) (entries : List Dict) : Prop where
  listed : ∃ fields, item = .obj fields ∧
    (Dict.get? fields "parameters" = some (.arr (entries.map .obj)) ∨
      (Dict.get? fields "parameters" = none ∧ entries = []))
  named : ∀ entry ∈ entries, ∀ member ∈ ["name", "in"], Dict.get entry member = .null ∨
    ∃ text, Dict.get entry member = .str text

/-- The list has one entry for each name and place that is declared, and it is one of the operation's where
the operation declares it. -/
structure OneEach (pathEntries operationEntries unique : List Dict) : Prop where
  declared : ∀ entry ∈ unique, entry ∈ pathEntries ++ operationEntries
  once : (unique.map parameterKey).Nodup
  each : ∀ entry ∈ pathEntries ++ operationEntries, parameterKey entry ∈ unique.map parameterKey
  operations : ∀ entry ∈ unique, parameterKey entry ∈ operationEntries.map parameterKey → entry ∈ operationEntries

/-- The first entry of a path item for a name and place that the operation declares as well is one that the
operation has, too. -/
def NotOverridden (pathEntries operationEntries : List Dict) : Prop :=
  ∀ before entry after, pathEntries = before ++ entry :: after →
    (∀ earlier ∈ before, parameterKey earlier ≠ parameterKey entry) →
      parameterKey entry ∈ operationEntries.map parameterKey → entry ∈ operationEntries

variable {entries pathEntries operationEntries : List Dict} {seen : List (Json × Json)} {entry : Dict}

/-- A name and a place that can be compared. -/
def IsKey (key : Json × Json) : Prop :=
  (key.1 = .null ∨ ∃ text, key.1 = .str text) ∧ (key.2 = .null ∨ ∃ text, key.2 = .str text)

theorem pyEq_iff {a b : Json} (ofA : a = .null ∨ ∃ text, a = .str text) (ofB : b = .null ∨ ∃ text, b = .str text) :
    a.pyEq b = true ↔ a = b := by
  rcases ofA with rfl | ⟨text, rfl⟩ <;> rcases ofB with rfl | ⟨other, rfl⟩ <;> simp [Json.pyEq, Json.numeral?]

theorem isSeen_eq {key : Json × Json} (isKey : IsKey key) (areKeys : ∀ k ∈ seen, IsKey k) :
    isSeen seen key = .ok (decide (key ∈ seen)) := by
  have found : (seen.any fun k => k.1.pyEq key.1 && k.2.pyEq key.2) = decide (key ∈ seen) := by
    rw [Bool.eq_iff_iff, List.any_eq_true, decide_eq_true_eq]
    constructor
    · rintro ⟨k, mem, same⟩
      rw [Bool.and_eq_true, pyEq_iff (areKeys k mem).1 isKey.1, pyEq_iff (areKeys k mem).2 isKey.2] at same
      exact (Prod.ext same.1 same.2 : k = key) ▸ mem
    · intro mem
      refine ⟨key, mem, ?_⟩
      rw [Bool.and_eq_true, pyEq_iff isKey.1 isKey.1, pyEq_iff isKey.2 isKey.2]
      exact ⟨rfl, rfl⟩
  obtain ⟨name, place⟩ := key
  obtain ⟨rfl | ⟨text, rfl⟩, rfl | ⟨text', rfl⟩⟩ := isKey <;> exact congrArg Except.ok found

theorem Declares.isKey {item : Json} (declares : Declares item entries) :
    ∀ entry ∈ entries, IsKey (parameterKey entry) := by
  intro entry mem
  have named := declares.named entry mem
  exact ⟨named "name" (by simp), named "in" (by simp)⟩

theorem Declares.parametersOf {item : Json} (declares : Declares item entries) :
    parametersOf item = .ok (entries.map .obj) := by
  obtain ⟨fields, rfl, are | ⟨absent, rfl⟩⟩ := declares.listed
  · simp only [OpenApi.parametersOf, fieldsOf, ok_bind, are, Option.getD_some, Recipe.iterate]
  · simp only [OpenApi.parametersOf, fieldsOf, ok_bind, absent, Option.getD_none, Recipe.iterate, List.map_nil]

theorem uniqueParameters_eq (areKeys : ∀ entry ∈ entries, IsKey (parameterKey entry)) (seenKeys : ∀ k ∈ seen, IsKey k) :
    uniqueParameters seen (entries.map .obj) = .ok (firstOfEach parameterKey seen entries) := by
  induction entries generalizing seen with
  | nil => rfl
  | cons entry entries ih =>
    have isKey := areKeys entry List.mem_cons_self
    have rest := fun other mem => areKeys other (List.mem_cons_of_mem entry mem)
    rw [List.map_cons, uniqueParameters, fieldsOf, ok_bind]
    dsimp only
    rw [isSeen_eq isKey seenKeys, ok_bind, firstOfEach_cons]
    by_cases old : parameterKey entry ∈ seen
    · rw [if_pos (decide_eq_true old), if_pos old]
      exact ih rest seenKeys
    · rw [if_neg (by simpa using old), if_neg old,
        ih rest (List.forall_mem_cons.mpr ⟨isKey, seenKeys⟩), ok_bind]
      rfl

/-- **Parameters.** The list keeps the first entry of each name and place. -/
theorem openapiParameters_eq {pathItem operation : Json} (ofPath : Declares pathItem pathEntries)
    (ofOperation : Declares operation operationEntries) : openapiParameters pathItem operation =
      .ok (firstOfEach parameterKey [] (pathEntries ++ operationEntries)) := by
  have areKeys : ∀ entry ∈ pathEntries ++ operationEntries, IsKey (parameterKey entry) := by
    intro entry mem
    rcases List.mem_append.mp mem with mem | mem
    · exact ofPath.isKey entry mem
    · exact ofOperation.isKey entry mem
  rw [openapiParameters, ofPath.parametersOf, ok_bind, ofOperation.parametersOf, ok_bind, ← List.map_append,
    uniqueParameters_eq areKeys (List.forall_mem_nil _)]

/-- **Overrides.** There is one entry for each name and place, from the operation where it declares it, just
where no other entry of the path item comes first. -/
theorem oneEach_iff : OneEach pathEntries operationEntries
    (firstOfEach parameterKey [] (pathEntries ++ operationEntries)) ↔
      NotOverridden pathEntries operationEntries := by
  constructor
  · intro oneEach before entry after split first listed
    refine oneEach.operations entry (mem_firstOfEach_iff.mpr ⟨List.not_mem_nil, before, after ++ operationEntries, ?_, first⟩) listed
    rw [split, List.append_assoc, List.cons_append]
  · intro notOverridden
    refine ⟨fun entry mem => (mem_of_firstOfEach mem).1, nodup_firstOfEach _ _, fun entry mem => ?_,
      fun entry mem listed => ?_⟩
    · exact key_mem_firstOfEach.mpr ⟨List.not_mem_nil, List.mem_map_of_mem mem⟩
    · obtain ⟨-, before, after, split, first⟩ := mem_firstOfEach_iff.mp mem
      rcases List.append_eq_append_iff.mp split with ⟨middle, rfl, rest⟩ | ⟨middle, rfl, rest⟩
      · rw [rest]
        exact List.mem_append_right middle List.mem_cons_self
      · cases middle with
        | nil =>
          rw [← List.nil_append operationEntries, ← rest]
          exact List.mem_cons_self
        | cons e middle =>
          obtain ⟨rfl, -⟩ := List.cons.inj rest
          exact notOverridden before entry middle rfl first listed

end ApiManger.OpenApi
