import Mathlib.Data.List.Sort
import Mathlib.Data.String.Basic
import ApiManger.Python.Value

/-!
# Documents up to the order of their keys

`json.dumps(value, sort_keys=True)` writes the entries of a dictionary in the order of their
keys, so it tells two documents apart just where their canonical forms differ. Canonical forms
agree on the values of all keys, and on what is empty.
-/

namespace ApiManger.Python

/-- The entries in the order of their keys. -/
def sortFields (fields : Dict) : Dict := fields.insertionSort fun e e' => e.1 ≤ e'.1

mutual

/-- A document with all its entries in order. -/
def Json.canonical : Json → Json
  | .arr items => .arr (Json.canonicalItems items)
  | .obj fields => .obj (sortFields (Json.canonicalFields fields))
  | value => value

def Json.canonicalItems : List Json → List Json
  | [] => []
  | value :: rest => value.canonical :: Json.canonicalItems rest

def Json.canonicalFields : List (String × Json) → List (String × Json)
  | [] => []
  | (key, value) :: rest => (key, value.canonical) :: Json.canonicalFields rest

end

/-- The documents are equal but for the order of entries. -/
def Json.Same (a b : Json) : Prop := a.canonical = b.canonical

instance (a b : Json) : Decidable (a.Same b) := inferInstanceAs (Decidable (a.canonical = b.canonical))

namespace Json
variable {a b c : Json}

theorem canonicalItems_eq (items : List Json) : canonicalItems items = items.map canonical := by
  induction items with
  | nil => rfl
  | cons value rest ih => rw [canonicalItems, ih, List.map_cons]

theorem canonicalFields_eq (fields : Dict) : canonicalFields fields = fields.map fun e => (e.1, e.2.canonical) := by
  induction fields with
  | nil => rfl
  | cons e rest ih => rw [canonicalFields, ih, List.map_cons]

theorem Same.refl (a : Json) : a.Same a := rfl

theorem Same.symm (h : a.Same b) : b.Same a := Eq.symm h

theorem Same.trans (h : a.Same b) (h' : b.Same c) : a.Same c := Eq.trans h h'

/-! ## Values of keys -/

theorem find?_orderedInsert (key : String) (e : String × Json) (fields : Dict) :
    (fields.orderedInsert (fun e e' => e.1 ≤ e'.1) e).find? (·.1 == key) = (e :: fields).find? (·.1 == key) := by
  induction fields with
  | nil => rfl
  | cons first rest ih =>
    rw [List.orderedInsert_cons]
    split
    · rfl
    · next after =>
      rw [List.find?_cons, ih, List.find?_cons, List.find?_cons, List.find?_cons]
      cases here : e.1 == key <;> cases there : first.1 == key <;> try rfl
      -- entries of one key stay in their order
      have same : e.1 = first.1 := (beq_iff_eq.mp here).trans (beq_iff_eq.mp there).symm
      exact absurd same.le after

theorem find?_sortFields (key : String) (fields : Dict) :
    (sortFields fields).find? (·.1 == key) = fields.find? (·.1 == key) := by
  induction fields with
  | nil => rfl
  | cons e rest ih =>
    rw [sortFields, List.insertionSort_cons, find?_orderedInsert, List.find?_cons, List.find?_cons]
    rw [sortFields] at ih
    rw [ih]

theorem get?_canonicalFields (key : String) (fields : Dict) :
    Dict.get? (sortFields (canonicalFields fields)) key = (Dict.get? fields key).map canonical := by
  rw [Dict.get?, find?_sortFields, canonicalFields_eq, List.find?_map, Option.map_map, Dict.get?, Option.map_map]
  rfl

/-- Dictionaries that are the same have the same values. -/
theorem Same.get? {d d' : Dict} (h : (Json.obj d).Same (.obj d')) (key : String) :
    (Dict.get? d key).map canonical = (Dict.get? d' key).map canonical := by
  have fields := Json.obj.inj (show Json.obj _ = Json.obj _ from h)
  rw [← get?_canonicalFields, ← get?_canonicalFields, fields]

theorem Same.get {d d' : Dict} (h : (Json.obj d).Same (.obj d')) (key : String) :
    (Dict.get d key).Same (Dict.get d' key) := by
  have values := h.get? key
  unfold Dict.get
  cases here : Dict.get? d key <;> cases there : Dict.get? d' key <;> rw [here, there] at values
  · exact Same.refl _
  · cases values
  · cases values
  · exact Option.some.inj values

/-- Lists that are the same have the same elements. -/
theorem Same.items {items items' : List Json} (h : (Json.arr items).Same (.arr items')) :
    List.Forall₂ Same items items' := by
  have lists := Json.arr.inj (show Json.arr _ = Json.arr _ from h)
  rw [canonicalItems_eq, canonicalItems_eq] at lists
  have pairs : List.Forall₂ (· = ·) (items.map canonical) (items'.map canonical) := by
    rw [lists]
    exact List.forall₂_refl _
  have left := List.forall₂_map_left_iff.mp pairs
  have right : List.Forall₂ (fun c d => c.canonical = d.canonical) items items' :=
    List.forall₂_map_right_iff.mp left
  exact right

/-- Sorting by key goes before a change of the values. -/
theorem sortFields_map (value : String × Json → Json) (fields : Dict) :
    sortFields (fields.map fun e => (e.1, value e)) = (sortFields fields).map fun e => (e.1, value e) :=
  (List.map_insertionSort (fun e e' : String × Json => e.1 ≤ e'.1) (fun e e' : String × Json => e.1 ≤ e'.1)
    (fun e => (e.1, value e)) fields fun _ _ _ _ => Iff.rfl).symm

/-- Dictionaries with the same keys in the same places are the same where their values are. -/
theorem same_fields {fields : Dict} {f g : String × Json → Json} :
    (Json.obj (fields.map fun e => (e.1, f e))).Same (.obj (fields.map fun e => (e.1, g e))) ↔
      ∀ e ∈ fields, (f e).Same (g e) := by
  have values : ∀ h : String × Json → Json, (Json.obj (fields.map fun e => (e.1, h e))).canonical =
      .obj ((sortFields fields).map fun e => (e.1, (h e).canonical)) := by
    intro h
    rw [canonical, canonicalFields_eq, List.map_map, ← sortFields_map fun e => (h e).canonical]
    rfl
  rw [Same, values f, values g, Json.obj.injEq, List.map_inj_left]
  refine forall_congr' fun e => ?_
  rw [sortFields, List.mem_insertionSort, Prod.mk.injEq]
  exact imp_congr_right fun _ => ⟨fun both => both.2, fun same => ⟨rfl, same⟩⟩

/-- So are lists. -/
theorem same_items {items : List Json} {f g : Json → Json} :
    (Json.arr (items.map f)).Same (.arr (items.map g)) ↔ ∀ v ∈ items, (f v).Same (g v) := by
  rw [Same, canonical, canonical, Json.arr.injEq, canonicalItems_eq, canonicalItems_eq, List.map_map, List.map_map,
    List.map_inj_left]
  rfl

theorem same_of_items {items others : List Json} (same : List.Forall₂ Same items others) :
    (Json.arr items).Same (.arr others) := by
  have all : canonicalItems items = canonicalItems others := by
    induction same with
    | nil => rfl
    | cons here _ ih => rw [canonicalItems, canonicalItems, ih, here]
  rw [Same, canonical, canonical, all]

/-- Dictionaries in which every key stands once are the same where their values are. -/
theorem same_of_get? {fields others : Dict} (distinct : (fields.map Prod.fst).Nodup)
    (distinct' : (others.map Prod.fst).Nodup)
    (same : ∀ key, (Dict.get? fields key).map canonical = (Dict.get? others key).map canonical) :
    (Json.obj fields).Same (.obj others) := by
  have keys (d : Dict) : (canonicalFields d).map Prod.fst = d.map Prod.fst := by
    rw [canonicalFields_eq, List.map_map]
    rfl
  have once : ((canonicalFields fields).map Prod.fst).Nodup := (keys fields).symm ▸ distinct
  have once' : ((canonicalFields others).map Prod.fst).Nodup := (keys others).symm ▸ distinct'
  have listed (d : Dict) (inOrder : ((canonicalFields d).map Prod.fst).Nodup) (e : String × Json) :
      e ∈ canonicalFields d ↔ (Dict.get? d e.1).map canonical = some e.2 := by
    rw [← get?_canonicalFields, Dict.get?, find?_sortFields]
    exact (Dict.get?_eq_some_iff inOrder).symm
  have perm : (canonicalFields fields).Perm (canonicalFields others) := by
    refine (List.perm_ext_iff_of_nodup once.of_map once'.of_map).mpr fun e => ?_
    rw [listed fields once, listed others once', same]
  rw [Same, canonical, canonical, Json.obj.injEq]
  refine ((List.perm_insertionSort _ _).trans (perm.trans (List.perm_insertionSort _ _).symm)).eq_of_pairwise ?_
    (List.pairwise_insertionSort _ _) (List.pairwise_insertionSort _ _)
  intro a b inList inOther le ge
  exact List.inj_on_of_nodup_map once ((List.mem_insertionSort _).mp inList)
    (perm.mem_iff.mpr ((List.mem_insertionSort _).mp inOther)) (le_antisymm le ge)

/-! ## Leaves -/

theorem Same.str {s s' : String} (h : (Json.str s).Same (.str s')) : s = s' := Json.str.inj h

theorem Same.int {n n' : Int} (h : (Json.int n).Same (.int n')) : n = n' := Json.int.inj h

theorem canonical_obj_eq_nil {fields : Dict} : sortFields (canonicalFields fields) = [] ↔ fields = [] := by
  rw [← List.length_eq_zero_iff, sortFields, List.length_insertionSort, canonicalFields_eq, List.length_map,
    List.length_eq_zero_iff]

/-- What is the same is empty alike. -/
theorem Same.truthy (h : a.Same b) : a.truthy = b.truthy := by
  have kept : ∀ v : Json, v.canonical.truthy = v.truthy := by
    intro v
    cases v with
    | null | bool | int | float | str => rfl
    | arr items =>
      rw [canonical, canonicalItems_eq]
      cases items <;> rfl
    | obj fields =>
      rw [canonical, Json.truthy, Json.truthy]
      congr 1
      rw [Bool.eq_iff_iff, List.isEmpty_iff, List.isEmpty_iff]
      exact canonical_obj_eq_nil
  rw [← kept a, ← kept b, h]

/-! ## Canonical documents -/

theorem sortFields_sortFields (fields : Dict) : sortFields (sortFields fields) = sortFields fields := by
  have sorted := List.pairwise_insertionSort (fun e e' : String × Json => e.1 ≤ e'.1) fields
  exact sorted.insertionSort_eq

theorem canonicalFields_eq_self {fields : Dict} (kept : ∀ e ∈ fields, e.2.canonical = e.2) :
    canonicalFields fields = fields := by
  have each : ∀ e ∈ fields, (e.1, e.2.canonical) = id e := by
    intro e mem
    rw [kept e mem]
    rfl
  rw [canonicalFields_eq, List.map_congr_left each, List.map_id]

mutual

/-- A canonical document is its own canonical form. -/
theorem canonical_canonical : (value : Json) → value.canonical.canonical = value.canonical
  | .null | .bool _ | .int _ | .float _ | .str _ => rfl
  | .arr items => by
    rw [canonical, canonical, canonicalItems_eq (canonicalItems items)]
    rw [List.map_congr_left (canonicalItems_canonical items), List.map_id']
  | .obj fields => by
    have kept : ∀ e ∈ sortFields (canonicalFields fields), e.2.canonical = e.2 := fun e mem =>
      canonicalFields_canonical fields e ((List.mem_insertionSort _).mp mem)
    rw [canonical, canonical, canonicalFields_eq_self kept, sortFields_sortFields]

theorem canonicalItems_canonical : (items : List Json) → ∀ value ∈ canonicalItems items, value.canonical = value
  | [], _, mem => nomatch mem
  | first :: rest, value, mem => by
    rcases List.mem_cons.mp mem with here | later
    · rw [here, canonical_canonical first]
    · exact canonicalItems_canonical rest value later

theorem canonicalFields_canonical : (fields : List (String × Json)) →
    ∀ e ∈ canonicalFields fields, e.2.canonical = e.2
  | [], _, mem => nomatch mem
  | (key, first) :: rest, e, mem => by
    rcases List.mem_cons.mp mem with here | later
    · rw [here, canonical_canonical first]
    · exact canonicalFields_canonical rest e later

end

end Json
end ApiManger.Python
