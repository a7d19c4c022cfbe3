import ApiManger.Collection.Keyed
import Mathlib.Data.List.Induction

/-!
# Python dictionaries

A `Mapping` is a `dict` with string keys: its items in insertion order, each key
once. `set` keeps the place of a key it finds; `update` sets the items of another
dictionary one by one. Two dictionaries are equal when they answer alike.
-/

namespace ApiManger.Python
open Collection

structure Mapping (ν : Type) where
  items : List (String × ν)
  distinct : Distinct Prod.fst items

namespace Mapping

variable {ν : Type}

def empty : Mapping ν := ⟨[], List.nodup_nil⟩

/-- `d.get(key)`. -/
def get? (d : Mapping ν) (key : String) : Option ν := (lookup Prod.fst d.items key).map Prod.snd

def keys (d : Mapping ν) : List String := d.items.map Prod.fst

/-- `d[key] = value`, on the items. -/
def setItems (items : List (String × ν)) (key : String) (value : ν) : List (String × ν) :=
  if items.any (·.1 == key) then items.map fun e => if e.1 == key then (e.1, value) else e
  else items ++ [(key, value)]

variable {items : List (String × ν)} {d : Mapping ν} {e : String × ν}

theorem setItems_distinct (distinct : Distinct Prod.fst items) (key : String)
    (value : ν) : Distinct Prod.fst (setItems items key value) := by
  unfold setItems
  split
  · refine distinct.map fun e => ?_
    split <;> rfl
  · next absent =>
    refine distinct.append fun e mem same => absent ?_
    exact List.any_eq_true.mpr ⟨e, mem, beq_iff_eq.mpr same⟩

/-- `d[key] = value`. -/
def set (d : Mapping ν) (key : String) (value : ν) : Mapping ν :=
  ⟨setItems d.items key value, setItems_distinct d.distinct key value⟩

/-- `d.setdefault(key, value)`. -/
def setdefault (d : Mapping ν) (key : String) (value : ν) : Mapping ν :=
  if (d.get? key).isSome then d else d.set key value

/-- `d.update(other)`. -/
def update (d other : Mapping ν) : Mapping ν := other.items.foldl (fun d e => d.set e.1 e.2) d

/-- The dictionary of a list of items: a later item replaces an earlier one of its key. -/
def ofItems (items : List (String × ν)) : Mapping ν := items.foldl (fun d e => d.set e.1 e.2) empty

/-- The items whose key is kept. -/
def filterKeys (d : Mapping ν) (keep : String → Bool) : Mapping ν :=
  ⟨d.items.filter (keep ·.1), List.Nodup.sublist (List.filter_sublist.map _) d.distinct⟩

/-- The same keys, each value changed. -/
def mapValues {μ : Type} (d : Mapping ν) (f : ν → μ) : Mapping μ :=
  ⟨d.items.map fun e => (e.1, f e.2), by
    have keys : (d.items.map fun e => (e.1, f e.2)).map Prod.fst = d.items.map Prod.fst := by
      simp [Function.comp_def]
    rw [Distinct, keys]
    exact d.distinct⟩

/-- `d == other`. -/
def Same (d other : Mapping ν) : Prop := ∀ key, d.get? key = other.get? key

theorem mem_iff {key : String} {value : ν} :
    (key, value) ∈ d.items ↔ d.get? key = some value := by
  constructor
  · intro mem
    rw [get?, d.distinct.lookup_of_mem mem]
    rfl
  · intro found
    obtain ⟨⟨k, v⟩, here, rfl⟩ := Option.map_eq_some_iff.mp found
    obtain rfl : k = key := lookup_key here
    exact lookup_mem here

@[simp] theorem get?_empty (key : String) : (empty : Mapping ν).get? key = none := rfl

theorem get?_set (d : Mapping ν) (key other : String) (value : ν) :
    (d.set key value).get? other = if key = other then some value else d.get? other := by
  simp only [get?, set, setItems]
  split
  · next present =>
    rw [lookup_map (by intro e; split <;> rfl)]
    cases found : lookup Prod.fst d.items other with
    | none =>
      obtain ⟨e, mem, same⟩ := List.any_eq_true.mp present
      have absent := lookup_eq_none.mp found e mem
      rw [beq_iff_eq.mp same] at absent
      rw [if_neg absent]
      rfl
    | some e =>
      obtain rfl : e.1 = other := lookup_key found
      by_cases here : e.1 = key
      · simp [here]
      · simp [here, Ne.symm here]
  · next absent =>
    rw [lookup_append]
    by_cases here : key = other
    · subst here
      have none_ : lookup Prod.fst d.items key = none :=
        lookup_eq_none.mpr fun e mem same => absent (List.any_eq_true.mpr ⟨e, mem, beq_iff_eq.mpr same⟩)
      simp [none_]
    · simp [here]

theorem get?_setdefault (d : Mapping ν) (key other : String) (value : ν) :
    (d.setdefault key value).get? other = (d.get? other).or (if key = other then some value else none) := by
  unfold setdefault
  cases here : d.get? key with
  | none =>
    rw [Option.isSome_none, if_neg Bool.false_ne_true, get?_set]
    split_ifs with same
    · rw [← same, here, Option.none_or]
    · rw [Option.or_none]
  | some old =>
    rw [Option.isSome_some, if_pos rfl]
    split_ifs with same
    · rw [← same, here, Option.some_or]
    · rw [Option.or_none]

theorem mem_set {key : String} {value : ν}
    (mem : e ∈ (d.set key value).items) : e ∈ d.items ∨ e = (key, value) := by
  simp only [set, setItems] at mem
  split at mem
  · obtain ⟨old, inside, rfl⟩ := List.mem_map.mp mem
    split
    · next here => exact .inr (by rw [beq_iff_eq.mp here])
    · exact .inl inside
  · rcases List.mem_append.mp mem with inside | new
    · exact .inl inside
    · exact .inr (List.mem_singleton.mp new)

/-- A new key comes last. -/
theorem set_new {key : String} {value : ν} (new : ∀ e ∈ d.items, e.1 ≠ key) :
    (d.set key value).items = d.items ++ [(key, value)] := by
  simp only [set, setItems]
  rw [if_neg]
  intro present
  obtain ⟨e, mem, same⟩ := List.any_eq_true.mp present
  exact new e mem (beq_iff_eq.mp same)

theorem mem_ofItems (mem : e ∈ (ofItems items).items) :
    e ∈ items := by
  induction items using List.reverseRecOn with
  | nil => cases mem
  | append_singleton items last ih =>
    rw [ofItems, List.foldl_append] at mem
    rcases mem_set mem with old | new
    · exact List.mem_append_left _ (ih old)
    · exact List.mem_append_right _ (List.mem_singleton.mpr new)

/-- Items with distinct keys stay as they are. -/
theorem ofItems_items (distinct : Distinct Prod.fst items) :
    (ofItems items).items = items := by
  induction items using List.reverseRecOn with
  | nil => rfl
  | append_singleton items last ih =>
    obtain ⟨front, _, apart⟩ := List.nodup_append.mp (by simpa [Distinct] using distinct)
    have ih := ih front
    have new : ∀ e ∈ (ofItems items).items, e.1 ≠ last.1 := by
      intro e mem
      rw [ih] at mem
      exact apart e.1 (List.mem_map.mpr ⟨e, mem, rfl⟩) last.1 (by simp)
    rw [ofItems, List.foldl_append]
    exact (set_new new).trans (by rw [ih])

theorem get?_foldl_set (items : List (String × ν)) (distinct : Distinct Prod.fst items) (d : Mapping ν)
    (key : String) : (items.foldl (fun d e => d.set e.1 e.2) d).get? key =
      ((lookup Prod.fst items key).map Prod.snd).or (d.get? key) := by
  induction items generalizing d with
  | nil => rfl
  | cons e rest ih =>
    obtain ⟨new, distinct⟩ := List.nodup_cons.mp distinct
    have head : lookup Prod.fst (e :: rest) key = if e.1 = key then some e else lookup Prod.fst rest key := by
      by_cases here : e.1 = key <;> simp [lookup, here]
    rw [List.foldl_cons, ih distinct, get?_set, head]
    by_cases here : e.1 = key
    · have absent : lookup Prod.fst rest key = none :=
        lookup_eq_none.mpr fun b mem same => new (List.mem_map.mpr ⟨b, mem, same.trans here.symm⟩)
      rw [absent, if_pos here, if_pos here]
      rfl
    · rw [if_neg here, if_neg here]

/-- An update answers with the other dictionary where that has the key. -/
theorem get?_update (d other : Mapping ν) (key : String) :
    (d.update other).get? key = (other.get? key).or (d.get? key) :=
  get?_foldl_set other.items other.distinct d key

theorem get?_filterKeys (d : Mapping ν) (keep : String → Bool) (key : String) :
    (d.filterKeys keep).get? key = if keep key then d.get? key else none := by
  cases found : (d.filterKeys keep).get? key with
  | some value =>
    have mem := mem_iff.mpr found
    obtain ⟨inside, kept⟩ := List.mem_filter.mp mem
    rw [if_pos kept, mem_iff.mp inside]
  | none =>
    split
    · next kept =>
      cases old : d.get? key with
      | none => rfl
      | some value =>
        have mem : (key, value) ∈ (d.filterKeys keep).items := List.mem_filter.mpr ⟨mem_iff.mpr old, kept⟩
        rw [mem_iff.mp mem] at found
        cases found
    · rfl

theorem mem_mapValues {μ : Type} {f : ν → μ} {e : String × μ} :
    e ∈ (d.mapValues f).items ↔ ∃ value, (e.1, value) ∈ d.items ∧ f value = e.2 := by
  obtain ⟨key, w⟩ := e
  simp [mapValues]

theorem mem_filterKeys {keep : String → Bool} :
    e ∈ (d.filterKeys keep).items ↔ e ∈ d.items ∧ keep e.1 = true := List.mem_filter

/-- The items of an update are those of the other dictionary and what they do not replace. -/
theorem mem_update {other : Mapping ν} :
    e ∈ (d.update other).items ↔ e ∈ other.items ∨ (e ∈ d.items ∧ ∀ f ∈ other.items, f.1 ≠ e.1) := by
  obtain ⟨key, value⟩ := e
  rw [mem_iff, get?_update, mem_iff, mem_iff]
  cases found : other.get? key with
  | some w =>
    have mem := mem_iff.mpr found
    constructor
    · intro same
      exact .inl same
    · rintro (same | ⟨_, kept⟩)
      · exact same
      · exact absurd rfl (kept (key, w) mem)
  | none =>
    have absent : ∀ f ∈ other.items, f.1 ≠ key := by
      rintro ⟨k, w⟩ mem rfl
      rw [mem_iff.mp mem] at found
      cases found
    simp only [Option.none_or, reduceCtorEq, false_or]
    exact ⟨fun old => ⟨old, absent⟩, fun old => old.1⟩

/-- No two items of a dictionary have one key. -/
theorem eq_of_key {f : String × ν} (he : e ∈ d.items) (hf : f ∈ d.items)
    (same : e.1 = f.1) : e = f := d.distinct.eq_of_key he hf same

/-- The items that pass a test are just one when it is the only one that does. -/
theorem filter_eq_singleton {p : String × ν → Bool} (mem : e ∈ d.items)
    (passes : p e = true) (only : ∀ f ∈ d.items, p f = true → f.1 = e.1) : d.items.filter p = [e] := by
  have nodup : (d.items.filter p).Nodup := (List.Nodup.of_map _ d.distinct).filter _
  have same : (d.items.filter p).Perm [e] := by
    refine (List.perm_ext_iff_of_nodup nodup (List.nodup_singleton e)).mpr fun f => ?_
    rw [List.mem_filter, List.mem_singleton]
    constructor
    · rintro ⟨inside, ok⟩
      exact eq_of_key inside mem (only f inside ok)
    · rintro rfl
      exact ⟨mem, passes⟩
  exact List.perm_singleton.mp same

/-- The items that pass a test. -/
def filterItems (d : Mapping ν) (keep : String × ν → Bool) : Mapping ν :=
  ⟨d.items.filter keep, List.Nodup.sublist (List.filter_sublist.map _) d.distinct⟩

theorem get?_filterItems (d : Mapping ν) (keep : String × ν → Bool) (key : String) :
    (d.filterItems keep).get? key = (d.get? key).filter fun value => keep (key, value) := by
  apply Option.ext
  intro value
  rw [← mem_iff, Option.filter_eq_some_iff, ← mem_iff]
  exact List.mem_filter

/-- The values that `f` keeps, each under its key. -/
def filterMapValues {μ : Type} (d : Mapping ν) (f : ν → Option μ) : Mapping μ :=
  ⟨d.items.filterMap fun e => (f e.2).map (e.1, ·), by
    have keys : ((d.items.filterMap fun e => (f e.2).map (e.1, ·)).map Prod.fst).Sublist (d.items.map Prod.fst) := by
      generalize d.items = items
      induction items with
      | nil => exact .slnil
      | cons e rest ih =>
        cases kept : f e.2 with
        | none => simpa [kept] using ih.cons _
        | some w => simpa [kept] using ih
    exact d.distinct.sublist keys⟩

theorem get?_filterMapValues {μ : Type} (d : Mapping ν) (f : ν → Option μ) (key : String) :
    (d.filterMapValues f).get? key = (d.get? key).bind f := by
  apply Option.ext
  intro w
  rw [← mem_iff, Option.bind_eq_some_iff]
  constructor
  · intro mem
    obtain ⟨⟨k, v⟩, inside, kept⟩ := List.mem_filterMap.mp mem
    obtain ⟨w', found, same⟩ := Option.map_eq_some_iff.mp kept
    cases same
    exact ⟨v, mem_iff.mp inside, found⟩
  · rintro ⟨v, inside, found⟩
    exact List.mem_filterMap.mpr ⟨(key, v), mem_iff.mpr inside, by rw [found]; rfl⟩

/-- `d.pop(key, None)`. -/
def erase (d : Mapping ν) (key : String) : Mapping ν := d.filterKeys (· != key)

theorem get?_erase (d : Mapping ν) (key other : String) :
    (d.erase key).get? other = if other = key then none else d.get? other := by
  rw [erase, get?_filterKeys]
  by_cases same : other = key <;> simp [same]

theorem Same.update {d' other : Mapping ν} (same : d.Same d') : (d.update other).Same (d'.update other) := by
  intro key
  rw [get?_update, get?_update, same key]

end Mapping

end ApiManger.Python
