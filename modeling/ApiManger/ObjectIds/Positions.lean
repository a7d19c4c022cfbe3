import ApiManger.Locators.Laws
import ApiManger.ObjectIds.Swap

/-!
# Positions in a body

The values under the keys of a body, in the order of the document, and what indexing, collecting and swapping do at
each of them.
-/

namespace ApiManger.ObjectIds
open Python Evidence Locators

/-! ## Entries -/

mutual

/-- The values under keys that are no containers, with their paths. -/
def entries : Json → List (List Step × Json)
  | .obj fields => fieldEntries fields
  | .arr items => itemEntries 0 items
  | _ => []

def fieldEntries : List (String × Json) → List (List Step × Json)
  | [] => []
  | (key, value) :: rest =>
    (if isContainer value then below (.key key) (entries value) else [([.key key], value)]) ++ fieldEntries rest

def itemEntries (i : ℕ) : List Json → List (List Step × Json)
  | [] => []
  | item :: rest => below (.index i) (entries item) ++ itemEntries (i + 1) rest

end

def lastKey (path : List Step) : Option String :=
  match path.getLast? with
  | some (.key name) => some name
  | _ => none

variable {path : List Step} {list : List (List Step × Json)} {value : Json}

variable (index : Mapping Json) (front : String) (s : Step)

theorem lastKey_cons (more : path ≠ []) : lastKey (s :: path) = lastKey path := by
  unfold lastKey
  rw [List.getLast?_cons, List.getLast?_eq_some_getLast more, Option.getD_some]

/-- An entry has a key at its end and is no container. -/
def IsEntry (e : List Step × Json) : Prop := (lastKey e.1).isSome ∧ isContainer e.2 = false

theorem ne_nil_of_lastKey (named : (lastKey path).isSome) : path ≠ [] := by
  rintro rfl
  cases named

theorem IsEntry.below {s : Step} (all : ∀ e ∈ list, IsEntry e) :
    ∀ e ∈ Locators.below s list, IsEntry e := by
  intro e listed
  obtain ⟨old, inside, rfl⟩ := List.mem_map.mp listed
  obtain ⟨named, scalar⟩ := all old inside
  exact ⟨by rwa [lastKey_cons s (ne_nil_of_lastKey named)], scalar⟩

mutual

theorem isEntry_entries : (value : Json) → ∀ e ∈ entries value, IsEntry e
  | .null, _, listed | .bool _, _, listed | .int _, _, listed | .float _, _, listed | .str _, _, listed => nomatch listed
  | .obj fields, e, listed => isEntry_fieldEntries fields e listed
  | .arr items, e, listed => isEntry_itemEntries 0 items e listed

theorem isEntry_fieldEntries : (fields : List (String × Json)) → ∀ e ∈ fieldEntries fields, IsEntry e
  | [], _, listed => nomatch listed
  | (key, value) :: rest, e, listed => by
    rw [fieldEntries, List.mem_append] at listed
    rcases listed with here | later
    · split at here
      · exact IsEntry.below (isEntry_entries value) e here
      · next scalar =>
        rw [List.mem_singleton.mp here]
        exact ⟨rfl, Bool.eq_false_iff.mpr scalar⟩
    · exact isEntry_fieldEntries rest e later

theorem isEntry_itemEntries : (i : ℕ) → (items : List Json) → ∀ e ∈ itemEntries i items, IsEntry e
  | _, [], _, listed => nomatch listed
  | i, item :: rest, e, listed => by
    rw [itemEntries, List.mem_append] at listed
    rcases listed with here | later
    · exact IsEntry.below (isEntry_entries item) e here
    · exact isEntry_itemEntries (i + 1) rest e later

end

/-! ## The first of a name -/

def firstOf (list : List (List Step × Json)) (name : String) : Option Json :=
  (list.find? fun e => lastKey e.1 == some name).map Prod.snd

def firstNamed (body : Json) (name : String) : Option Json := firstOf (entries body) name

theorem firstOf_append (front back : List (List Step × Json)) (name : String) :
    firstOf (front ++ back) name = (firstOf front name).or (firstOf back name) := by
  rw [firstOf, List.find?_append, Option.map_or]
  rfl

theorem firstOf_below (all : ∀ e ∈ list, IsEntry e) (name : String) :
    firstOf (below s list) name = firstOf list name := by
  induction list with
  | nil => rfl
  | cons e rest ih =>
    have here := lastKey_cons s (ne_nil_of_lastKey (all e List.mem_cons_self).1)
    have later := ih fun f listed => all f (List.mem_cons_of_mem e listed)
    unfold firstOf at later ⊢
    rw [below, List.map_cons, List.find?_cons, List.find?_cons, here]
    cases lastKey e.1 == some name with
    | true => rfl
    | false => exact later

mutual

/-- The index holds the first entry of each name. -/
theorem get?_indexLeafValues : (value : Json) → ∀ (index : Mapping Json) (name : String),
    (indexLeafValues index value).get? name = (index.get? name).or (firstNamed value name)
  | .null, _, _ | .bool _, _, _ | .int _, _, _ | .float _, _, _ | .str _, _, _ => (Option.or_none ..).symm
  | .obj fields, index, name => get?_indexFields fields index name
  | .arr items, index, name => get?_indexItems items 0 index name

theorem get?_indexFields : (fields : List (String × Json)) → ∀ (index : Mapping Json) (name : String),
    (indexFields index fields).get? name = (index.get? name).or (firstOf (fieldEntries fields) name)
  | [], _, _ => (Option.or_none ..).symm
  | (key, value) :: rest, index, name => by
    rw [indexFields, get?_indexFields rest, fieldEntries, firstOf_append, ← Option.or_assoc]
    congr 1
    split
    · rw [get?_indexLeafValues value, firstOf_below _ (isEntry_entries value)]
      rfl
    · rw [Mapping.get?_setdefault]
      by_cases same : key = name
      · simp [same, firstOf, lastKey]
      · simp [same, firstOf, lastKey]

theorem get?_indexItems : (items : List Json) → ∀ (i : ℕ) (index : Mapping Json) (name : String),
    (indexItems index items).get? name = (index.get? name).or (firstOf (itemEntries i items) name)
  | [], _, _, _ => (Option.or_none ..).symm
  | item :: rest, i, index, name => by
    rw [indexItems, get?_indexItems rest (i + 1), get?_indexLeafValues item, itemEntries, firstOf_append,
      firstOf_below _ (isEntry_entries item), Option.or_assoc]
    rfl

end

theorem isContainer_of_firstNamed {body : Json} {name : String} (first : firstNamed body name = some value) :
    isContainer value = false := by
  obtain ⟨e, found, rfl⟩ := Option.map_eq_some_iff.mp first
  exact (isEntry_entries body e (List.mem_of_find?_eq_some found)).2

/-! ## Names of positions -/

/-- The text of a path. -/
def bodyParam (path : List Step) : String :=
  path.foldl (fun front s => match s with
    | .key name => dotted front name
    | .index i => front ++ "[" ++ toString i ++ "]") front

/-- The names of a path, without the indexes. -/
def names (path : List Step) : List Step := path.filter fun s => match s with
  | .key _ => true
  | .index _ => false

def ObjectId.ofEntry (e : List Step × Json) : Option ObjectId :=
  (lastKey e.1).bind fun name => if isObjectIdParam name then some ⟨"body", bodyParam front e.1, e.2⟩ else none

def Swap.ofEntry (e : List Step × Json) : Option Swap :=
  (lastKey e.1).bind fun name => (replacement (index.get? name) name e.2).map fun found =>
    ⟨"body", bodyParam front (names e.1), e.2, found⟩

theorem filterMap_below {β : Type} {s : Step} (all : ∀ e ∈ list, IsEntry e)
    {f g : List Step × Json → Option β} (same : ∀ path value, path ≠ [] → f (s :: path, value) = g (path, value)) :
    (below s list).filterMap f = list.filterMap g := by
  rw [below, List.filterMap_map]
  exact List.filterMap_congr fun e listed => same e.1 e.2 (ne_nil_of_lastKey (all e listed).1)

theorem ObjectId.ofEntry_cons (path : List Step) (value : Json) (more : path ≠ []) :
    ObjectId.ofEntry front (s :: path, value) = ObjectId.ofEntry (bodyParam front [s]) (path, value) := by
  unfold ObjectId.ofEntry
  rw [lastKey_cons s more]
  rfl

theorem Swap.ofEntry_key (front name : String) (path : List Step) (value : Json) (more : path ≠ []) :
    Swap.ofEntry index front (.key name :: path, value) = Swap.ofEntry index (dotted front name) (path, value) := by
  unfold Swap.ofEntry
  rw [lastKey_cons _ more]
  rfl

theorem Swap.ofEntry_index (i : ℕ) (path : List Step) (value : Json)
    (more : path ≠ []) : Swap.ofEntry index front (.index i :: path, value) = Swap.ofEntry index front (path, value) := by
  unfold Swap.ofEntry
  rw [lastKey_cons _ more]
  rfl

mutual

/-- What is collected, entry by entry. -/
theorem collectFromBody_eq : (value : Json) → ∀ front : String,
    collectFromBody front value = (entries value).filterMap (ObjectId.ofEntry front)
  | .null, _ | .bool _, _ | .int _, _ | .float _, _ | .str _, _ => rfl
  | .obj fields, front => collectFromFields_eq fields front
  | .arr items, front => collectFromItems_eq items 0 front

theorem collectFromFields_eq : (fields : List (String × Json)) → ∀ front : String,
    collectFromFields front fields = (fieldEntries fields).filterMap (ObjectId.ofEntry front)
  | [], _ => rfl
  | (key, value) :: rest, front => by
    rw [collectFromFields, fieldEntries, List.filterMap_append, collectFromFields_eq rest front]
    congr 1
    split
    · rw [collectFromBody_eq value,
        filterMap_below (isEntry_entries value) (ObjectId.ofEntry_cons front (.key key))]
      rfl
    · by_cases named : isObjectIdParam key = true
      · simp [named, ObjectId.ofEntry, lastKey, bodyParam]
      · simp [named, ObjectId.ofEntry, lastKey]

theorem collectFromItems_eq : (items : List Json) → ∀ (i : ℕ) (front : String),
    collectFromItems front i items = (itemEntries i items).filterMap (ObjectId.ofEntry front)
  | [], _, _ => rfl
  | item :: rest, i, front => by
    rw [collectFromItems, itemEntries, List.filterMap_append, collectFromItems_eq rest (i + 1) front,
      collectFromBody_eq item, filterMap_below (isEntry_entries item) (ObjectId.ofEntry_cons front (.index i))]
    rfl

end

mutual

/-- What is swapped, entry by entry. -/
theorem swaps_eq (index : Mapping Json) : (value : Json) → ∀ front : String,
    (swapBody index front value).2 = (entries value).filterMap (Swap.ofEntry index front)
  | .null, _ | .bool _, _ | .int _, _ | .float _, _ | .str _, _ => rfl
  | .obj fields, front => swaps_fields_eq index fields front
  | .arr items, front => swaps_items_eq index items 0 front

theorem swaps_fields_eq (index : Mapping Json) : (fields : List (String × Json)) → ∀ front : String,
    (swapFields index front fields).2 = (fieldEntries fields).filterMap (Swap.ofEntry index front)
  | [], _ => rfl
  | (key, value) :: rest, front => by
    rw [swapFields, fieldEntries, List.filterMap_append, ← swaps_fields_eq index rest front]
    dsimp only
    congr 1
    by_cases container : isContainer value = true
    · rw [if_pos container, if_pos container, swaps_eq index value,
        filterMap_below (isEntry_entries value) (Swap.ofEntry_key index front key)]
    · rw [if_neg container, if_neg container]
      cases found : replacement (index.get? key) key value with
      | none => simp [Swap.ofEntry, lastKey, found]
      | some w => simp [Swap.ofEntry, lastKey, found, names, bodyParam]

theorem swaps_items_eq (index : Mapping Json) : (items : List Json) → ∀ (i : ℕ) (front : String),
    (swapItems index front items).2 = (itemEntries i items).filterMap (Swap.ofEntry index front)
  | [], _, _ => rfl
  | item :: rest, i, front => by
    rw [swapItems, itemEntries, List.filterMap_append, ← swaps_items_eq index rest (i + 1) front]
    dsimp only
    rw [swaps_eq index item, filterMap_below (isEntry_entries item) (Swap.ofEntry_index index front i)]

end

/-! ## Scalars of a body -/

def scalarAt (path : List Step) (value : Json) : Option Json := (find path value).filter fun found => !isContainer found

theorem scalarAt_key (name : String) (rest : List Step) (fields : Dict) :
    scalarAt (.key name :: rest) (.obj fields) = (Dict.get? fields name).bind (scalarAt rest) := by
  rw [scalarAt, find]
  cases Dict.get? fields name <;> rfl

theorem scalarAt_index (i : ℕ) (rest : List Step) (items : List Json) :
    scalarAt (.index i :: rest) (.arr items) = items[i]?.bind (scalarAt rest) := by
  rw [scalarAt, find]
  cases items[i]? <;> rfl

theorem scalarAt_scalar (scalar : isContainer value = false) (path : List Step) :
    scalarAt path value = if path = [] then some value else none := by
  cases path with
  | nil => rw [scalarAt, find, Option.filter_some, scalar]; rfl
  | cons s rest =>
    cases value with
    | obj fields => cases scalar
    | arr items => cases scalar
    | null | bool | int | float | str => cases s <;> rfl

/-- The value that a position of a body has after swapping. -/
def positionValue (path : List Step) (value : Json) : Json :=
  match lastKey path with
  | some name => (replacement (index.get? name) name value).getD value
  | none => value

theorem positionValue_cons (more : path ≠ []) (value : Json) :
    positionValue index (s :: path) value = positionValue index path value := by
  unfold positionValue
  rw [lastKey_cons s more]

theorem get?_swapFields (front name : String) (fields : Dict) :
    Dict.get? (swapFields index front fields).1 name = (Dict.get? fields name).map fun value =>
      if isContainer value then (swapBody index (dotted front name) value).1
      else (replacement (index.get? name) name value).getD value := by
  induction fields with
  | nil => rfl
  | cons e rest ih =>
    obtain ⟨key, value⟩ := e
    unfold Dict.get? at ih ⊢
    rw [swapFields]
    dsimp only
    rw [List.find?_cons, List.find?_cons]
    by_cases same : key = name
    · subst same
      rw [beq_self_eq_true]
      dsimp only [Option.map_some]
      congr 1
      split
      · rfl
      · cases replacement (index.get? key) key value <;> rfl
    · rw [beq_eq_false_iff_ne.mpr same]
      exact ih

theorem getElem?_swapItems (i : ℕ) (items : List Json) :
    (swapItems index front items).1[i]? = items[i]?.map fun item => (swapBody index front item).1 := by
  induction items generalizing i with
  | nil => rfl
  | cons item rest ih =>
    rw [swapItems]
    cases i with
    | zero => rfl
    | succ i => exact ih i

theorem isContainer_swapBody (value : Json) :
    isContainer (swapBody index front value).1 = isContainer value := by
  cases value <;> rfl

def HoldsScalars : Prop :=
  ∀ name found, index.get? name = some found → isContainer found = false

theorem isContainer_replacement {index : Mapping Json} (scalars : HoldsScalars index) {name : String}
    {found : Json} (replaced : replacement (index.get? name) name value = some found) :
    isContainer found = false := by
  unfold replacement at replaced
  split at replaced
  · exact scalars name found (Option.filter_eq_some_iff.mp (Option.filter_eq_some_iff.mp replaced).1).1
  · cases replaced

/-- What stands at a position after swapping. -/
theorem scalarAt_swapBody {index : Mapping Json} (scalars : HoldsScalars index)
    (path : List Step) (value : Json) (front : String) :
    scalarAt path (swapBody index front value).1 = (scalarAt path value).map (positionValue index path) := by
  induction path generalizing value front with
  | nil =>
    cases container : isContainer value with
    | true =>
      have container' := (isContainer_swapBody index front value).trans container
      rw [scalarAt, find, Option.filter_some, container', scalarAt, find, Option.filter_some, container]
      rfl
    | false =>
      have kept : (swapBody index front value).1 = value := by
        cases value <;> first | rfl | cases container
      rw [kept, scalarAt_scalar container]
      rfl
  | cons s rest ih =>
    cases value with
    | null | bool | int | float | str => cases s <;> rfl
    | obj fields =>
      cases s with
      | index i => rfl
      | key name =>
        show scalarAt (.key name :: rest) (.obj (swapFields index front fields).1) = _
        rw [scalarAt_key, scalarAt_key, get?_swapFields]
        cases there : Dict.get? fields name with
        | none => rfl
        | some child =>
          rw [Option.map_some, Option.bind_some, Option.bind_some]
          by_cases more : rest = []
          · subst more
            cases container : isContainer child with
            | true =>
              rw [if_pos rfl, ih, scalarAt, find, Option.filter_some, container]
              rfl
            | false =>
              rw [if_neg Bool.false_ne_true, scalarAt_scalar container]
              have scalar : isContainer ((replacement (index.get? name) name child).getD child) = false := by
                cases found : replacement (index.get? name) name child with
                | none => exact container
                | some w => exact isContainer_replacement scalars found
              rw [scalarAt_scalar scalar]
              rfl
          · have same : positionValue index (.key name :: rest) = positionValue index rest :=
              funext fun w => positionValue_cons index _ more w
            rw [same]
            cases container : isContainer child with
            | true => rw [if_pos rfl, ih]
            | false =>
              rw [if_neg Bool.false_ne_true, scalarAt_scalar container, if_neg more]
              cases found : replacement (index.get? name) name child with
              | none =>
                rw [Option.getD_none, scalarAt_scalar container, if_neg more]
                rfl
              | some w =>
                have scalar := isContainer_replacement scalars found
                rw [Option.getD_some, scalarAt_scalar scalar, if_neg more]
                rfl
    | arr items =>
      cases s with
      | key name => rfl
      | index i =>
        show scalarAt (.index i :: rest) (.arr (swapItems index front items).1) = _
        rw [scalarAt_index, scalarAt_index, getElem?_swapItems]
        cases there : items[i]? with
        | none => rfl
        | some child =>
          rw [Option.map_some, Option.bind_some, Option.bind_some, ih]
          by_cases more : rest = []
          · subst more
            rfl
          · have same : positionValue index (.index i :: rest) = positionValue index rest :=
              funext fun w => positionValue_cons index _ more w
            rw [same]

/-! ## Entries are the scalars under keys -/

theorem mem_below {s : Step} {w : Json} :
    (path, w) ∈ below s list ↔ ∃ more, path = s :: more ∧ (more, w) ∈ list := by
  constructor
  · intro listed
    obtain ⟨e, inside, same⟩ := List.mem_map.mp listed
    obtain ⟨rfl, rfl⟩ := Prod.mk.inj same
    exact ⟨e.1, rfl, inside⟩
  · rintro ⟨more, rfl, inside⟩
    exact List.mem_map.mpr ⟨_, inside, rfl⟩

def entriesUnder (value : Json) : List (List Step × Json) := if isContainer value then entries value else [([], value)]

theorem fieldEntries_cons (key : String) (value : Json) (rest : List (String × Json)) :
    fieldEntries ((key, value) :: rest) = below (.key key) (entriesUnder value) ++ fieldEntries rest := by
  rw [fieldEntries, entriesUnder]
  split <;> rfl

theorem mem_fieldEntries {fields : List (String × Json)} {w : Json} :
    (path, w) ∈ fieldEntries fields ↔
      ∃ e ∈ fields, ∃ more, path = .key e.1 :: more ∧ (more, w) ∈ entriesUnder e.2 := by
  induction fields with
  | nil => simp [fieldEntries]
  | cons e rest ih => rw [fieldEntries_cons, List.mem_append, ih, mem_below, List.exists_mem_cons_iff]

theorem mem_itemEntries {items : List Json} {i : ℕ} {w : Json} :
    (path, w) ∈ itemEntries i items ↔
      ∃ j item more, items[j]? = some item ∧ path = .index (i + j) :: more ∧ (more, w) ∈ entries item := by
  induction items generalizing i with
  | nil => simp [itemEntries]
  | cons first rest ih =>
    rw [itemEntries, List.mem_append, ih, mem_below]
    constructor
    · rintro (⟨more, rfl, inside⟩ | ⟨j, item, more, there, rfl, inside⟩)
      · exact ⟨0, first, more, rfl, rfl, inside⟩
      · exact ⟨j + 1, item, more, there, by rw [Nat.add_assoc, Nat.add_comm 1 j], inside⟩
    · rintro ⟨j, item, more, there, rfl, inside⟩
      cases j with
      | zero =>
        obtain rfl := Option.some.inj there
        exact .inl ⟨more, rfl, inside⟩
      | succ j => exact .inr ⟨j, item, more, there, by rw [Nat.add_assoc, Nat.add_comm 1 j], inside⟩

/-- The entries of a value are its scalars under keys. -/
def EntriesAre (value : Json) : Prop :=
  ∀ path w, (path, w) ∈ entries value ↔ scalarAt path value = some w ∧ (lastKey path).isSome

/-- Under a key a scalar is an entry too. -/
theorem mem_entriesUnder (are : EntriesAre value) (name : String) {more : List Step} {w : Json} :
    (more, w) ∈ entriesUnder value ↔ scalarAt more value = some w ∧ (lastKey (.key name :: more)).isSome := by
  unfold entriesUnder
  cases container : isContainer value with
  | true =>
    rw [if_pos rfl, are]
    by_cases empty : more = []
    · subst empty
      rw [scalarAt, find, Option.filter_some, container]
      exact iff_of_false (fun both => by cases both.1) (fun both => by cases both.1)
    · rw [lastKey_cons _ empty]
  | false =>
    rw [if_neg Bool.false_ne_true, scalarAt_scalar container, List.mem_singleton]
    by_cases empty : more = []
    · subst empty
      rw [if_pos rfl, Prod.mk.injEq, Option.some.injEq]
      exact ⟨fun same => ⟨same.2.symm, rfl⟩, fun same => ⟨rfl, same.1.symm⟩⟩
    · rw [if_neg empty, Prod.mk.injEq]
      exact iff_of_false (fun same => empty same.1) (fun both => by cases both.1)

mutual

theorem entriesAre : (value : Json) → KeysOnce value → EntriesAre value
  | .null, _, path, w | .bool _, _, path, w | .int _, _, path, w | .float _, _, path, w | .str _, _, path, w => by
    refine iff_of_false (fun listed => nomatch listed) ?_
    rintro ⟨there, named⟩
    rw [scalarAt_scalar rfl, if_neg (ne_nil_of_lastKey named)] at there
    cases there
  | .obj fields, once, path, w => by
    have children := entriesAre_fields fields once.2
    show (path, w) ∈ fieldEntries fields ↔ _
    rw [mem_fieldEntries]
    constructor
    · rintro ⟨e, listed, more, rfl, inside⟩
      have here := (Dict.get?_eq_some_iff once.1).mpr listed
      rw [scalarAt_key, here, Option.bind_some]
      exact (mem_entriesUnder (children e listed) e.1).mp inside
    · rintro ⟨there, named⟩
      cases path with
      | nil => cases named
      | cons s more =>
        cases s with
        | index i => cases there
        | key name =>
          rw [scalarAt_key] at there
          obtain ⟨child, here, below⟩ := Option.bind_eq_some_iff.mp there
          have listed := (Dict.get?_eq_some_iff once.1).mp here
          exact ⟨_, listed, more, rfl, (mem_entriesUnder (children _ listed) name).mpr ⟨below, named⟩⟩
  | .arr items, once, path, w => by
    have children := entriesAre_items items once
    show (path, w) ∈ itemEntries 0 items ↔ _
    rw [mem_itemEntries]
    constructor
    · rintro ⟨j, item, more, here, rfl, inside⟩
      obtain ⟨below, named⟩ := (children item (List.mem_of_getElem? here) more w).mp inside
      rw [Nat.zero_add, scalarAt_index, here, Option.bind_some, lastKey_cons _ (ne_nil_of_lastKey named)]
      exact ⟨below, named⟩
    · rintro ⟨there, named⟩
      cases path with
      | nil => cases named
      | cons s more =>
        cases s with
        | key name => cases there
        | index i =>
          rw [scalarAt_index] at there
          obtain ⟨child, here, below⟩ := Option.bind_eq_some_iff.mp there
          by_cases empty : more = []
          · subst empty
            cases named
          · rw [lastKey_cons _ empty] at named
            exact ⟨i, child, more, here, by rw [Nat.zero_add],
              (children child (List.mem_of_getElem? here) more w).mpr ⟨below, named⟩⟩

theorem entriesAre_fields : (fields : List (String × Json)) → FieldsOnce fields → ∀ e ∈ fields, EntriesAre e.2
  | [], _, _, listed => nomatch listed
  | (key, value) :: rest, once, e, listed => by
    rcases List.mem_cons.mp listed with same | later
    · rw [same]
      exact entriesAre value once.1
    · exact entriesAre_fields rest once.2 e later

theorem entriesAre_items : (items : List Json) → ItemsOnce items → ∀ item ∈ items, EntriesAre item
  | [], _, _, listed => nomatch listed
  | first :: rest, once, item, listed => by
    rcases List.mem_cons.mp listed with same | later
    · rw [same]
      exact entriesAre first once.1
    · exact entriesAre_items rest once.2 item later

end

/-! ## Each position once -/

theorem nodup_below (nodup : (list.map Prod.fst).Nodup) :
    ((below s list).map Prod.fst).Nodup := by
  have paths : (below s list).map Prod.fst = (list.map Prod.fst).map (s :: ·) := by
    rw [below, List.map_map, List.map_map]
    rfl
  rw [paths]
  exact nodup.map fun _ _ same => (List.cons.inj same).2

theorem nodup_append_paths {a b : List (List Step × Json)} (first : (a.map Prod.fst).Nodup)
    (second : (b.map Prod.fst).Nodup) (apart : ∀ path v w, (path, v) ∈ a → (path, w) ∈ b → False) :
    ((a ++ b).map Prod.fst).Nodup := by
  rw [List.map_append, List.nodup_append]
  refine ⟨first, second, fun path inA other inB same => ?_⟩
  obtain ⟨e, listed, rfl⟩ := List.mem_map.mp inA
  obtain ⟨f, listed', rfl⟩ := List.mem_map.mp inB
  exact apart e.1 e.2 f.2 listed (by rw [same]; exact listed')

mutual

theorem nodup_entries : (value : Json) → KeysOnce value → ((entries value).map Prod.fst).Nodup
  | .null, _ | .bool _, _ | .int _, _ | .float _, _ | .str _, _ => List.nodup_nil
  | .obj fields, once => nodup_fieldEntries fields once.1 once.2
  | .arr items, once => nodup_itemEntries items 0 once

theorem nodup_fieldEntries : (fields : List (String × Json)) → (fields.map Prod.fst).Nodup → FieldsOnce fields →
    ((fieldEntries fields).map Prod.fst).Nodup
  | [], _, _ => List.nodup_nil
  | (key, value) :: rest, distinct, once => by
    rw [List.map_cons, List.nodup_cons] at distinct
    rw [fieldEntries_cons]
    have under : ((entriesUnder value).map Prod.fst).Nodup := by
      unfold entriesUnder
      split
      · exact nodup_entries value once.1
      · exact List.nodup_singleton []
    refine nodup_append_paths (nodup_below _ under) (nodup_fieldEntries rest distinct.2 once.2) ?_
    intro path v w inFirst later
    obtain ⟨more, rfl, -⟩ := mem_below.mp inFirst
    obtain ⟨e, listed, more', same, -⟩ := mem_fieldEntries.mp later
    have name : key = e.1 := Step.key.inj (List.cons.inj same).1
    refine distinct.1 ?_
    rw [name]
    exact List.mem_map.mpr ⟨e, listed, rfl⟩

theorem nodup_itemEntries : (items : List Json) → (i : ℕ) → ItemsOnce items →
    ((itemEntries i items).map Prod.fst).Nodup
  | [], _, _ => List.nodup_nil
  | item :: rest, i, once => by
    rw [itemEntries]
    refine nodup_append_paths (nodup_below _ (nodup_entries item once.1)) (nodup_itemEntries rest (i + 1) once.2) ?_
    intro path v w inFirst later
    obtain ⟨more, rfl, -⟩ := mem_below.mp inFirst
    obtain ⟨j, other, more', -, same, -⟩ := mem_itemEntries.mp later
    have indexes := Step.index.inj (List.cons.inj same).1
    omega

end

/-! ## The shape of a body -/

mutual

/-- A body without its scalars. -/
def shape : Json → Json
  | .obj fields => .obj (fieldShapes fields)
  | .arr items => .arr (itemShapes items)
  | _ => .null

def fieldShapes : List (String × Json) → List (String × Json)
  | [] => []
  | (key, value) :: rest => (key, shape value) :: fieldShapes rest

def itemShapes : List Json → List Json
  | [] => []
  | item :: rest => shape item :: itemShapes rest

end

theorem shape_scalar (scalar : isContainer value = false) : shape value = .null := by
  cases value <;> first | rfl | cases scalar

mutual

/-- Swapping keeps the shape. -/
theorem shape_swapBody {index : Mapping Json} (scalars : HoldsScalars index) :
    (value : Json) → ∀ front : String, shape (swapBody index front value).1 = shape value
  | .null, _ | .bool _, _ | .int _, _ | .float _, _ | .str _, _ => rfl
  | .obj fields, front => congrArg Json.obj (shape_swapFields scalars fields front)
  | .arr items, front => congrArg Json.arr (shape_swapItems scalars items front)

theorem shape_swapFields {index : Mapping Json} (scalars : HoldsScalars index) :
    (fields : List (String × Json)) → ∀ front : String,
    fieldShapes (swapFields index front fields).1 = fieldShapes fields
  | [], _ => rfl
  | (key, value) :: rest, front => by
    rw [swapFields]
    dsimp only
    rw [fieldShapes, fieldShapes, shape_swapFields scalars rest front]
    congr 2
    cases container : isContainer value with
    | true => exact shape_swapBody scalars value (dotted front key)
    | false =>
      rw [if_neg Bool.false_ne_true]
      cases found : replacement (index.get? key) key value with
      | none => rfl
      | some w => exact (shape_scalar (isContainer_replacement scalars found)).trans (shape_scalar container).symm

theorem shape_swapItems {index : Mapping Json} (scalars : HoldsScalars index) :
    (items : List Json) → ∀ front : String,
    itemShapes (swapItems index front items).1 = itemShapes items
  | [], _ => rfl
  | item :: rest, front => by
    rw [swapItems]
    dsimp only
    rw [itemShapes, itemShapes, shape_swapItems scalars rest front, shape_swapBody scalars item front]

end

end ApiManger.ObjectIds
