import ApiManger.Locators.Laws
import ApiManger.Python.Canonical

/-!
# Leaves in any order

What a key or an index of a document becomes under a list of writes depends on the writes below it alone. So the
leaves of a document give the document in whatever order they are written, up to the order of keys, and no list of
writes gives it that leaves a leaf out.
-/

namespace ApiManger.Locators
open Python Evidence

/-! ## The writes below a step -/

def under (s : Step) (leaves : List (List Step × Json)) : List (List Step × Json) :=
  leaves.filterMap fun e => match e.1 with
    | [] => none
    | first :: rest => if first = s then some (rest, e.2) else none

/-- What stands below a step after the writes there. -/
def settle (leaves : List (List Step × Json)) (child : Option Json) : Option Json :=
  if leaves = [] then child else some (writeAll leaves (child.getD .null))

variable {s first : Step} {rest : List Step} {value : Json} {leaves others : List (List Step × Json)}

theorem under_append (s : Step) (leaves others : List (List Step × Json)) :
    under s (leaves ++ others) = under s leaves ++ under s others := List.filterMap_append

theorem under_cons_self (s : Step) (rest : List Step) (value : Json) (leaves : List (List Step × Json)) :
    under s ((s :: rest, value) :: leaves) = (rest, value) :: under s leaves := by
  rw [under, List.filterMap_cons]
  dsimp only
  rw [if_pos rfl]
  rfl

theorem under_cons_ne (ne : first ≠ s) (rest : List Step) (value : Json) (leaves : List (List Step × Json)) :
    under s ((first :: rest, value) :: leaves) = under s leaves := by
  rw [under, List.filterMap_cons]
  dsimp only
  rw [if_neg ne]
  rfl

theorem mem_under {e : List Step × Json} : e ∈ under s leaves ↔ (s :: e.1, e.2) ∈ leaves := by
  rw [under, List.mem_filterMap]
  constructor
  · rintro ⟨⟨path, value⟩, listed, found⟩
    cases path with
    | nil => cases found
    | cons first rest =>
      dsimp only at found
      split at found
      · next same =>
        cases found
        exact same ▸ listed
      · cases found
  · exact fun listed => ⟨_, listed, if_pos rfl⟩

theorem under_below_self (s : Step) (leaves : List (List Step × Json)) : under s (below s leaves) = leaves := by
  induction leaves with
  | nil => rfl
  | cons e leaves ih =>
    rw [below, List.map_cons, under_cons_self]
    exact congrArg (e :: ·) ih

theorem under_below_ne (ne : first ≠ s) (leaves : List (List Step × Json)) : under s (below first leaves) = [] := by
  induction leaves with
  | nil => rfl
  | cons e leaves ih =>
    rw [below, List.map_cons, under_cons_ne ne]
    exact ih

/-- One more write before the others. -/
theorem settle_cons (e : List Step × Json) (leaves : List (List Step × Json)) (child : Option Json) :
    settle (e :: leaves) child = settle leaves (some (write e.2 e.1 (child.getD .null))) := by
  rw [settle, if_neg (List.cons_ne_nil e leaves), settle]
  split
  · next none_ => rw [none_]; rfl
  · rfl

/-- Writes below keys change an object key by key. -/
theorem writeAll_keys (starts : ∀ e ∈ leaves, ∃ name rest, e.1 = .key name :: rest) {init : Dict}
    (distinct : (init.map Prod.fst).Nodup) :
    ∃ fields, writeAll leaves (.obj init) = .obj fields ∧ (fields.map Prod.fst).Nodup ∧
      ∀ name, Dict.get? fields name = settle (under (.key name) leaves) (Dict.get? init name) := by
  induction leaves generalizing init with
  | nil => exact ⟨init, rfl, distinct, fun name => rfl⟩
  | cons e leaves ih =>
    obtain ⟨path, value⟩ := e
    obtain ⟨written, rest, rfl⟩ := starts _ (.head _)
    let child := write value rest ((Dict.get? init written).getD .null)
    obtain ⟨fields, built, once, values⟩ := ih (fun e mem => starts e (.tail _ mem)) (Dict.nodup_set distinct written child)
    refine ⟨fields, built, once, fun name => ?_⟩
    rw [values name]
    by_cases here : written = name
    · subst here
      rw [under_cons_self, settle_cons, Dict.get?_set_self]
    · rw [under_cons_ne (fun same => here (Step.key.inj same)), Dict.get?_set_ne _ _ (Ne.symm here)]

/-- Writes below indices change a list item by item, and make it as long as the last index needs. -/
theorem writeAll_indices (starts : ∀ e ∈ leaves, ∃ i rest, e.1 = .index i :: rest) (init : List Json) :
    ∃ items, writeAll leaves (.arr init) = .arr items ∧
      (∀ i, items[i]?.getD .null = (settle (under (.index i) leaves) init[i]?).getD .null) ∧
      ∀ n, n ≤ items.length ↔ n ≤ init.length ∨ ∃ e ∈ leaves, ∃ i rest, e.1 = .index i :: rest ∧ n ≤ i + 1 := by
  induction leaves generalizing init with
  | nil => exact ⟨init, rfl, fun i => rfl, fun n => by simp⟩
  | cons e leaves ih =>
    obtain ⟨path, value⟩ := e
    obtain ⟨written, rest, rfl⟩ := starts _ (.head _)
    let long := padded init written
    let next := long.set written (write value rest (long[written]?.getD .null))
    have shown (i : ℕ) : long[i]?.getD .null = init[i]?.getD .null := by
      rcases Nat.lt_or_ge i init.length with inside | beyond
      · rw [padded_of_some (List.getElem?_eq_getElem inside), List.getElem?_eq_getElem inside]
      · rw [List.getElem?_eq_none beyond, show long = init ++ _ from rfl, List.getElem?_append_right beyond,
          List.getElem?_replicate]
        split <;> rfl
    have size : next.length = max init.length (written + 1) := by
      rw [List.length_set, show long = init ++ _ from rfl, List.length_append, List.length_replicate]
      omega
    obtain ⟨items, built, values, lengths⟩ := ih (fun e mem => starts e (.tail _ mem)) next
    refine ⟨items, built, fun i => ?_, fun n => ?_⟩
    · rw [values i]
      by_cases here : written = i
      · subst here
        rw [under_cons_self, settle_cons, List.getElem?_set_self (padded_get? init written)]
        dsimp only
        rw [shown]
      · rw [under_cons_ne (fun same => here (Step.index.inj same)), List.getElem?_set_ne here]
        unfold settle
        split
        · exact shown i
        · rw [shown i]
    · rw [lengths n, size, List.exists_mem_cons_iff]
      constructor
      · rintro (short | later)
        · rcases le_max_iff.mp short with old | new
          · exact .inl old
          · exact .inr (.inl ⟨written, rest, rfl, new⟩)
        · exact .inr (.inr later)
      · rintro (old | ⟨i, rest', path, short⟩ | later)
        · exact .inl (le_max_of_le_left old)
        · cases path
          exact .inl (le_max_of_le_right short)
        · exact .inr later

/-! ## The leaves of a document -/

theorem absent_of_get? {fields : Dict} (distinct : (fields.map Prod.fst).Nodup) {key : String}
    (none_ : Dict.get? fields key = none) : key ∉ fields.map Prod.fst := by
  intro listed
  obtain ⟨⟨name, child⟩, mem, rfl⟩ := List.mem_map.mp listed
  rw [(Dict.get?_eq_some_iff distinct).mpr mem] at none_
  cases none_

theorem under_fields_none {fields : Dict} {key : String} (absent : key ∉ fields.map Prod.fst) :
    under (.key key) (fieldOccurrences fields []) = [] := by
  induction fields with
  | nil => rfl
  | cons field fields ih =>
    obtain ⟨name, value⟩ := field
    rw [List.map_cons, List.mem_cons, not_or] at absent
    rw [fieldOccurrences, List.nil_append, leafOccurrences_below, under_append,
      under_below_ne fun same => absent.1 (Step.key.inj same).symm, List.nil_append, ih absent.2]

variable {value : Json}

/-- The leaves of an object below a key are those of its value. -/
theorem under_fields {fields : Dict} (distinct : (fields.map Prod.fst).Nodup) {key : String}
    (listed : (key, value) ∈ fields) : under (.key key) (fieldOccurrences fields []) = leafOccurrences value [] := by
  induction fields with
  | nil => cases listed
  | cons field fields ih =>
    obtain ⟨name, first⟩ := field
    obtain ⟨fresh, distinct'⟩ := List.nodup_cons.mp distinct
    rw [fieldOccurrences, List.nil_append, leafOccurrences_below, under_append]
    rcases List.mem_cons.mp listed with here | later
    · cases here
      rw [under_below_self, under_fields_none fresh, List.append_nil]
    · have ne : name ≠ key := fun same => fresh (List.mem_map.mpr ⟨_, later, same.symm⟩)
      rw [under_below_ne fun same => ne (Step.key.inj same), List.nil_append, ih distinct' later]

theorem under_items_before {i j : ℕ} (before : j < i) (items : List Json) :
    under (.index j) (itemOccurrences items i []) = [] := by
  induction items generalizing i with
  | nil => rfl
  | cons item items ih =>
    have ne : Step.index i ≠ .index j := fun same => absurd (Step.index.inj same) (Nat.ne_of_gt before)
    rw [itemOccurrences, List.nil_append, leafOccurrences_below, under_append, under_below_ne ne, List.nil_append,
      ih (Nat.lt_succ_of_lt before)]

/-- The leaves of a list below an index are those of the item there. -/
theorem under_items (items : List Json) (i j : ℕ) :
    under (.index (i + j)) (itemOccurrences items i []) = items[j]?.elim [] fun item => leafOccurrences item [] := by
  induction items generalizing i j with
  | nil => rfl
  | cons head items ih =>
    rw [itemOccurrences, List.nil_append, leafOccurrences_below, under_append]
    cases j with
    | zero =>
      rw [Nat.add_zero, under_below_self, under_items_before (Nat.lt_succ_self i), List.append_nil]
      rfl
    | succ j =>
      have ne : Step.index i ≠ .index (i + (j + 1)) := fun same => by
        have := Step.index.inj same
        omega
      rw [under_below_ne ne, List.nil_append, show i + (j + 1) = i + 1 + j by omega, ih, List.getElem?_cons_succ]

/-- The leaves of a list below an index. -/
theorem under_item (items : List Json) (j : ℕ) :
    under (.index j) (itemOccurrences items 0 []) = items[j]?.elim [] fun item => leafOccurrences item [] := by
  have shown := under_items items 0 j
  rwa [Nat.zero_add] at shown

theorem paths_below (s : Step) (leaves : List (List Step × Json)) :
    (below s leaves).map Prod.fst = (leaves.map Prod.fst).map (s :: ·) := by
  rw [below, List.map_map, List.map_map]
  rfl

/-- Paths below a step and paths that do not begin with it. -/
theorem paths_nodup_append (distinct : (leaves.map Prod.fst).Nodup) (distinct' : (others.map Prod.fst).Nodup)
    (apart : under s others = []) : ((below s leaves ++ others).map Prod.fst).Nodup := by
  rw [List.map_append, paths_below, List.nodup_append]
  refine ⟨distinct.map (List.cons_injective), distinct', fun p first p' second same => ?_⟩
  obtain ⟨rest, -, rfl⟩ := List.mem_map.mp first
  obtain ⟨e, listed, path⟩ := List.mem_map.mp second
  have inside : (rest, e.2) ∈ under s others := mem_under.mpr ((same.trans path.symm) ▸ listed)
  rw [apart] at inside
  cases inside

mutual

/-- The leaves of a document are at different places. -/
theorem paths_nodup (value : Json) (once : KeysOnce value) : ((leafOccurrences value []).map Prod.fst).Nodup := by
  match value with
  | .obj (field :: fields) => exact fieldPaths_nodup (field :: fields) once.2 once.1
  | .arr (item :: items) => exact itemPaths_nodup (item :: items) once 0
  | .obj [] => exact List.nodup_singleton []
  | .arr [] => exact List.nodup_singleton []
  | .null => exact List.nodup_singleton []
  | .bool _ => exact List.nodup_singleton []
  | .int _ => exact List.nodup_singleton []
  | .float _ => exact List.nodup_singleton []
  | .str _ => exact List.nodup_singleton []

theorem fieldPaths_nodup (fields : List (String × Json)) (once : FieldsOnce fields)
    (distinct : (fields.map Prod.fst).Nodup) : ((fieldOccurrences fields []).map Prod.fst).Nodup := by
  match fields with
  | [] => exact List.nodup_nil
  | (key, value) :: rest =>
    obtain ⟨fresh, distinct'⟩ := List.nodup_cons.mp distinct
    rw [fieldOccurrences, List.nil_append, leafOccurrences_below]
    exact paths_nodup_append (paths_nodup value once.1) (fieldPaths_nodup rest once.2 distinct') (under_fields_none fresh)

theorem itemPaths_nodup (items : List Json) (once : ItemsOnce items) (i : ℕ) :
    ((itemOccurrences items i []).map Prod.fst).Nodup := by
  match items with
  | [] => exact List.nodup_nil
  | value :: rest =>
    rw [itemOccurrences, List.nil_append, leafOccurrences_below]
    exact paths_nodup_append (paths_nodup value once.1) (itemPaths_nodup rest once.2 (i + 1))
      (under_items_before (Nat.lt_succ_self i) rest)

end

/-- Writes below keys make an object from nothing. -/
theorem writeAll_object (starts : ∀ e ∈ leaves, ∃ name rest, e.1 = .key name :: rest) (nonempty : leaves ≠ []) :
    ∃ fields, writeAll leaves .null = .obj fields ∧ (fields.map Prod.fst).Nodup ∧
      ∀ name, Dict.get? fields name = settle (under (.key name) leaves) none := by
  have deep : ∀ e ∈ leaves, e.1 ≠ [] := fun e mem => by
    obtain ⟨name, rest, path⟩ := starts e mem
    rw [path]
    exact List.cons_ne_nil _ _
  have none_ : (([] : Dict).map Prod.fst).Nodup := List.nodup_nil
  obtain ⟨fields, built, once, values⟩ := writeAll_keys starts none_
  have start : writeAll leaves .null = writeAll leaves (.obj []) := writeAll_start deep nonempty rfl rfl
  exact ⟨fields, start.trans built, once, values⟩

/-- Writes below indices make a list from nothing. -/
theorem writeAll_list (starts : ∀ e ∈ leaves, ∃ i rest, e.1 = .index i :: rest) (nonempty : leaves ≠ []) :
    ∃ items, writeAll leaves .null = .arr items ∧
      (∀ i, items[i]?.getD .null = (settle (under (.index i) leaves) none).getD .null) ∧
      ∀ n, n ≤ items.length ↔ n = 0 ∨ ∃ e ∈ leaves, ∃ i rest, e.1 = .index i :: rest ∧ n ≤ i + 1 := by
  have deep : ∀ e ∈ leaves, e.1 ≠ [] := fun e mem => by
    obtain ⟨i, rest, path⟩ := starts e mem
    rw [path]
    exact List.cons_ne_nil _ _
  obtain ⟨items, built, values, lengths⟩ := writeAll_indices starts []
  have start : writeAll leaves .null = writeAll leaves (.arr []) := writeAll_start deep nonempty rfl rfl
  exact ⟨items, start.trans built, values, fun n => by simpa using lengths n⟩

theorem settle_none (nonempty : leaves ≠ []) : settle leaves none = some (writeAll leaves .null) := if_neg nonempty

/-- One leaf is all there is of what is no container, and of an empty one. -/
theorem writeAll_single (single : leafOccurrences value [] = [([], value)])
    (perm : leaves.Perm (leafOccurrences value [])) : (writeAll leaves .null).Same value := by
  rw [single] at perm
  rw [List.perm_singleton.mp perm]
  exact Json.Same.refl value

mutual

/-- The leaves of a document give it in any order. -/
theorem writeAll_perm (value : Json) (once : KeysOnce value) {leaves : List (List Step × Json)}
    (perm : leaves.Perm (leafOccurrences value [])) : (writeAll leaves .null).Same value := by
  match value with
  | .obj (field :: fields) =>
    have nonempty : leaves ≠ [] := fun none_ =>
      fieldOccurrences_ne_nil field fields [] (List.nil_perm.mp (none_ ▸ perm))
    obtain ⟨built, made, distinct, values⟩ := writeAll_object
      (fun e mem => fieldOccurrences_starts (field :: fields) e (perm.mem_iff.mp mem)) nonempty
    rw [made]
    refine Json.same_of_get? distinct once.1 fun key => ?_
    rw [values key]
    have kept : (under (.key key) leaves).Perm (under (.key key) (fieldOccurrences (field :: fields) [])) :=
      perm.filterMap _
    cases here : Dict.get? (field :: fields) key with
    | none =>
      rw [under_fields_none (absent_of_get? once.1 here)] at kept
      rw [List.perm_nil.mp kept]
      rfl
    | some child =>
      have listed := (Dict.get?_eq_some_iff once.1).mp here
      rw [under_fields once.1 listed] at kept
      have some_ : under (.key key) leaves ≠ [] := fun none_ =>
        leafOccurrences_ne_nil child [] (List.nil_perm.mp (none_ ▸ kept))
      rw [settle_none some_]
      exact congrArg some (fields_perm (field :: fields) once.2 _ listed kept)
  | .arr (item :: items) =>
    have nonempty : leaves ≠ [] := fun none_ =>
      itemOccurrences_ne_nil item items 0 [] (List.nil_perm.mp (none_ ▸ perm))
    obtain ⟨built, made, values, lengths⟩ := writeAll_list
      (fun e mem => itemOccurrences_starts (item :: items) 0 e (perm.mem_iff.mp mem)) nonempty
    have kept (j : ℕ) : (under (.index j) leaves).Perm ((item :: items)[j]?.elim [] fun item => leafOccurrences item []) :=
      under_item (item :: items) j ▸ perm.filterMap _
    have length : built.length = (item :: items).length := by
      refine le_antisymm ?_ ?_
      · rcases (lengths built.length).mp le_rfl with empty | ⟨e, mem, j, rest, path, short⟩
        · exact empty ▸ Nat.zero_le _
        · have inside : (rest, e.2) ∈ under (.index j) leaves := mem_under.mpr (path ▸ mem)
          have there := (kept j).mem_iff.mp inside
          cases found : (item :: items)[j]? with
          | none => rw [found] at there; cases there
          | some _ => exact short.trans (List.getElem?_eq_some_iff.mp found).1
      · have last : (item :: items)[items.length]? = some ((item :: items)[items.length]) :=
          List.getElem?_eq_getElem (Nat.lt_succ_self _)
        obtain ⟨e, leaf⟩ := List.exists_mem_of_ne_nil _ (leafOccurrences_ne_nil ((item :: items)[items.length]) [])
        have there := kept items.length
        rw [last] at there
        exact (lengths _).mpr (.inr ⟨_, mem_under.mp (there.mem_iff.mpr leaf), _, _, rfl, le_rfl⟩)
    rw [made]
    refine Json.same_of_items (List.forall₂_of_length_eq_of_get length fun j inBuilt inside => ?_)
    have found : (item :: items)[j]? = some ((item :: items)[j]) := List.getElem?_eq_getElem inside
    have there := kept j
    rw [found] at there
    have some_ : under (.index j) leaves ≠ [] := fun none_ =>
      leafOccurrences_ne_nil _ [] (List.nil_perm.mp (none_ ▸ there))
    have value := values j
    rw [settle_none some_, List.getElem?_eq_getElem inBuilt, Option.getD_some, Option.getD_some] at value
    rw [List.get_eq_getElem, List.get_eq_getElem, value]
    exact items_perm (item :: items) once _ (List.getElem_mem inside) there
  | .obj [] => exact writeAll_single rfl perm
  | .arr [] => exact writeAll_single rfl perm
  | .null => exact writeAll_single rfl perm
  | .bool _ => exact writeAll_single rfl perm
  | .int _ => exact writeAll_single rfl perm
  | .float _ => exact writeAll_single rfl perm
  | .str _ => exact writeAll_single rfl perm

theorem fields_perm (fields : List (String × Json)) (once : FieldsOnce fields) :
    ∀ e ∈ fields, ∀ {leaves : List (List Step × Json)}, leaves.Perm (leafOccurrences e.2 []) →
      (writeAll leaves .null).Same e.2 := by
  match fields with
  | [] => exact nofun
  | (key, value) :: rest =>
    intro e mem leaves perm
    rcases List.mem_cons.mp mem with here | later
    · cases here
      exact writeAll_perm value once.1 perm
    · exact fields_perm rest once.2 e later perm

theorem items_perm (items : List Json) (once : ItemsOnce items) :
    ∀ item ∈ items, ∀ {leaves : List (List Step × Json)}, leaves.Perm (leafOccurrences item []) →
      (writeAll leaves .null).Same item := by
  match items with
  | [] => exact nofun
  | value :: rest =>
    intro item mem leaves perm
    rcases List.mem_cons.mp mem with here | later
    · cases here
      exact writeAll_perm value once.1 perm
    · exact items_perm rest once.2 item later perm

end

/-! ## A leaf that is left out -/

/-- The paths of the writes are paths of leaves, and the one of some leaf is not among them. -/
structure LeavesOut (leaves : List (List Step × Json)) (value : Json) : Prop where
  inside : ∀ e ∈ leaves, ∃ leaf, (e.1, leaf) ∈ leafOccurrences value []
  missed : ∃ e ∈ leafOccurrences value [], ∀ e' ∈ leaves, e'.1 ≠ e.1

def NoNull (value : Json) : Prop := ∀ e ∈ leafOccurrences value [], e.2 ≠ .null

theorem null_same (same : Json.null.Same value) : value = .null := by
  cases value with
  | null => rfl
  | _ => cases same

theorem NoNull.ne (filled : NoNull value) : value ≠ .null := by
  rintro rfl
  exact filled ([], .null) (List.mem_singleton.mpr rfl) rfl

theorem LeavesOut.single {value : Json} (single : leafOccurrences value [] = [([], value)]) (filled : NoNull value)
    (out : LeavesOut leaves value) : ¬ (writeAll leaves .null).Same value := by
  obtain ⟨inside, missed⟩ := out
  rw [single] at inside missed
  obtain ⟨e, here, apart⟩ := missed
  cases List.mem_singleton.mp here
  cases leaves with
  | nil => exact fun same => filled.ne (null_same same)
  | cons e' leaves =>
    obtain ⟨leaf, there⟩ := inside e' (.head _)
    exact absurd (congrArg Prod.fst (List.mem_singleton.mp there)) (apart e' (.head _))

/-- What is left out of a document is left out of what stands below a step. -/
theorem LeavesOut.under {child : Json} (out : LeavesOut leaves value) {missed : List Step}
    (below : Locators.under s (leafOccurrences value []) = leafOccurrences child [])
    (there : ∃ leaf, (s :: missed, leaf) ∈ leafOccurrences value []) (apart : ∀ e ∈ leaves, e.1 ≠ s :: missed) :
    LeavesOut (Locators.under s leaves) child where
  inside e mem := by
    obtain ⟨leaf, listed⟩ := out.inside _ (mem_under.mp mem)
    exact ⟨leaf, below ▸ mem_under.mpr listed⟩
  missed := by
    obtain ⟨leaf, listed⟩ := there
    exact ⟨(missed, leaf), below ▸ mem_under.mpr listed,
      fun e mem same => apart _ (mem_under.mp mem) (congrArg (s :: ·) same)⟩

theorem NoNull.under {child : Json} (filled : NoNull value)
    (below : Locators.under s (leafOccurrences value []) = leafOccurrences child []) : NoNull child :=
  fun e mem => filled (s :: e.1, e.2) (mem_under.mp (below ▸ mem))

mutual

/-- Writes that leave a leaf of a document out do not give it. -/
theorem LeavesOut.not_same (value : Json) (once : KeysOnce value) (filled : NoNull value)
    {leaves : List (List Step × Json)} (out : LeavesOut leaves value) : ¬ (writeAll leaves .null).Same value := by
  match value with
  | .obj (field :: fields) =>
    intro same
    have nonempty : leaves ≠ [] := by
      rintro rfl
      exact filled.ne (null_same same)
    obtain ⟨built, made, -, values⟩ := writeAll_object (fun e mem => by
      obtain ⟨leaf, listed⟩ := out.inside e mem
      exact fieldOccurrences_starts (field :: fields) (e.1, leaf) listed) nonempty
    obtain ⟨⟨path, leaf⟩, listed, apart⟩ := out.missed
    obtain ⟨name, rest, rfl⟩ := fieldOccurrences_starts (field :: fields) (path, leaf) listed
    have inUnder : (rest, leaf) ∈ Locators.under (.key name) (leafOccurrences (.obj (field :: fields)) []) :=
      mem_under.mpr listed
    cases here : Dict.get? (field :: fields) name with
    | none =>
      rw [leafOccurrences, if_neg (by simp), under_fields_none (absent_of_get? once.1 here)] at inUnder
      cases inUnder
    | some child =>
      have mem := (Dict.get?_eq_some_iff once.1).mp here
      have below : Locators.under (.key name) (leafOccurrences (.obj (field :: fields)) []) = leafOccurrences child [] :=
        under_fields once.1 mem
      rw [made] at same
      have value := same.get? name
      rw [values name, here] at value
      by_cases none_ : Locators.under (.key name) leaves = []
      · rw [none_] at value
        cases value
      · rw [settle_none none_] at value
        exact fields_out (field :: fields) once.2 _ mem (filled.under below) (out.under below ⟨leaf, listed⟩ apart)
          (Option.some.inj value)
  | .arr (item :: items) =>
    intro same
    have nonempty : leaves ≠ [] := by
      rintro rfl
      exact filled.ne (null_same same)
    obtain ⟨built, made, values, -⟩ := writeAll_list (fun e mem => by
      obtain ⟨leaf, listed⟩ := out.inside e mem
      exact itemOccurrences_starts (item :: items) 0 (e.1, leaf) listed) nonempty
    obtain ⟨⟨path, leaf⟩, listed, apart⟩ := out.missed
    obtain ⟨j, rest, rfl⟩ := itemOccurrences_starts (item :: items) 0 (path, leaf) listed
    have inUnder : (rest, leaf) ∈ Locators.under (.index j) (leafOccurrences (.arr (item :: items)) []) :=
      mem_under.mpr listed
    have below : Locators.under (.index j) (leafOccurrences (.arr (item :: items)) []) =
        (item :: items)[j]?.elim [] fun item => leafOccurrences item [] := under_item (item :: items) j
    rw [below] at inUnder
    cases here : (item :: items)[j]? with
    | none =>
      rw [here] at inUnder
      cases inUnder
    | some child =>
      rw [here] at below
      obtain ⟨inside, found⟩ := List.getElem?_eq_some_iff.mp here
      rw [made] at same
      have pairs := same.items
      have inBuilt : j < built.length := pairs.length_eq ▸ inside
      have pair := pairs.get inBuilt inside
      have value := values j
      rw [List.getElem?_eq_getElem inBuilt, Option.getD_some] at value
      rw [List.get_eq_getElem, List.get_eq_getElem, found, value] at pair
      have filled' := filled.under below
      by_cases none_ : Locators.under (.index j) leaves = []
      · rw [none_] at pair
        exact filled'.ne (null_same pair)
      · rw [settle_none none_] at pair
        exact items_out (item :: items) once _ (found ▸ List.getElem_mem inside) filled'
          (out.under below ⟨leaf, listed⟩ apart) pair
  | .obj [] => exact out.single rfl filled
  | .arr [] => exact out.single rfl filled
  | .null => exact out.single rfl filled
  | .bool _ => exact out.single rfl filled
  | .int _ => exact out.single rfl filled
  | .float _ => exact out.single rfl filled
  | .str _ => exact out.single rfl filled

theorem fields_out (fields : List (String × Json)) (once : FieldsOnce fields) :
    ∀ e ∈ fields, NoNull e.2 → ∀ {leaves : List (List Step × Json)}, LeavesOut leaves e.2 →
      ¬ (writeAll leaves .null).Same e.2 := by
  match fields with
  | [] => exact nofun
  | (key, value) :: rest =>
    intro e mem filled leaves out
    rcases List.mem_cons.mp mem with here | later
    · cases here
      exact LeavesOut.not_same value once.1 filled out
    · exact fields_out rest once.2 e later filled out

theorem items_out (items : List Json) (once : ItemsOnce items) :
    ∀ item ∈ items, NoNull item → ∀ {leaves : List (List Step × Json)}, LeavesOut leaves item →
      ¬ (writeAll leaves .null).Same item := by
  match items with
  | [] => exact nofun
  | value :: rest =>
    intro item mem filled leaves out
    rcases List.mem_cons.mp mem with here | later
    · cases here
      exact LeavesOut.not_same value once.1 filled out
    · exact items_out rest once.2 item later filled out

end

end ApiManger.Locators
