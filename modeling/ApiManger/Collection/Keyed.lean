import Mathlib.Data.List.Basic
import Mathlib.Data.List.Nodup

/-!
# Keyed collections

A collection is a list of documents with distinct keys, read by key or by a filter
and changed by an update of the documents it matches or by an insertion at the end.
The lemmas follow one document, looked up by its key, through such a change.
-/

namespace Collection

variable {α κ : Type*} [DecidableEq κ] {key : α → κ}

/-- The document with key `k`. -/
def lookup (key : α → κ) (l : List α) (k : κ) : Option α := l.find? fun a => key a == k

/-- No two documents share a key. -/
def Distinct (key : α → κ) (l : List α) : Prop := (l.map key).Nodup

instance (l : List α) : Decidable (Distinct key l) := inferInstanceAs (Decidable (l.map key).Nodup)

@[simp] theorem lookup_nil (k : κ) : lookup key [] k = none := rfl

variable {l : List α}

theorem lookup_key {k : κ} {a : α} (h : lookup key l k = some a) : key a = k := by
  simpa using List.find?_some h

theorem lookup_mem {k : κ} {a : α} (h : lookup key l k = some a) : a ∈ l :=
  List.mem_of_find?_eq_some h

theorem lookup_eq_none {k : κ} : lookup key l k = none ↔ ∀ a ∈ l, key a ≠ k := by
  simp [lookup]

theorem Distinct.lookup_of_mem (h : Distinct key l) {a : α} (mem : a ∈ l) :
    lookup key l (key a) = some a := by
  induction l with
  | nil => cases mem
  | cons b l ih =>
    simp only [Distinct, List.map_cons, List.nodup_cons, List.mem_map, not_exists, not_and] at h
    rcases List.mem_cons.mp mem with rfl | later
    · simp [lookup]
    · have ne : key b ≠ key a := fun same => h.1 a later same.symm
      simpa [lookup, List.find?_cons, ne] using ih h.2 later

theorem Distinct.eq_of_key (h : Distinct key l) {a b : α} (ha : a ∈ l) (hb : b ∈ l)
    (same : key a = key b) : a = b := by
  have found := h.lookup_of_mem ha
  rw [same, h.lookup_of_mem hb] at found
  exact (Option.some.inj found).symm

/-- An update that keeps the keys acts on the document that is looked up. -/
theorem lookup_map {f : α → α} (keeps : ∀ a, key (f a) = key a) (l : List α) (k : κ) :
    lookup key (l.map f) k = (lookup key l k).map f := by
  simp [lookup, List.find?_map, Function.comp_def, keeps]

omit [DecidableEq κ] in
theorem Distinct.map {f : α → α} (keeps : ∀ a, key (f a) = key a) {l : List α}
    (h : Distinct key l) : Distinct key (l.map f) := by
  simpa [Distinct, Function.comp_def, keeps] using h

theorem lookup_append (l : List α) (a : α) (k : κ) :
    lookup key (l ++ [a]) k = (lookup key l k).or (if key a = k then some a else none) := by
  by_cases same : key a = k <;> simp [lookup, List.find?_append, same]

omit [DecidableEq κ] in
theorem Distinct.append {l : List α} {a : α} (h : Distinct key l) (new : ∀ b ∈ l, key b ≠ key a) :
    Distinct key (l ++ [a]) := by
  simp only [Distinct, List.map_append, List.map_cons, List.map_nil]
  refine List.nodup_append.mpr ⟨h, by simp, fun x hx y hy => ?_⟩
  obtain ⟨b, mem, rfl⟩ := List.mem_map.mp hx
  rw [List.mem_singleton.mp hy]
  exact new b mem

/-- All keys are below `n`: where the next key comes from. -/
def Below (key : α → ℕ) (n : ℕ) (l : List α) : Prop := ∀ a ∈ l, key a < n

section
variable {number : α → ℕ} {n : ℕ} {l : List α}

theorem Below.succ (h : Below number n l) : Below number (n + 1) l :=
  fun a mem => Nat.lt_succ_of_lt (h a mem)

theorem Below.append {a : α} (h : Below number n l) (new : number a = n) :
    Below number (n + 1) (l ++ [a]) := by
  intro b mem
  rcases List.mem_append.mp mem with old | added
  · exact h.succ b old
  · rw [List.mem_singleton.mp added, new]
    exact Nat.lt_succ_self n

theorem Below.map {f : α → α} (keeps : ∀ a, number (f a) = number a) (h : Below number n l) :
    Below number n (l.map f) := by
  intro b mem
  obtain ⟨a, old, rfl⟩ := List.mem_map.mp mem
  exact keeps a ▸ h a old

/-- The next key is new. -/
theorem Below.distinct_append {a : α} (h : Below number n l) (distinct : Distinct number l)
    (new : number a = n) : Distinct number (l ++ [a]) :=
  distinct.append fun b mem same => Nat.ne_of_lt (h b mem) (same.trans new)

end

/-- An update of the documents of a kind that none of them belongs to changes nothing. -/
theorem map_eq_self {f : α → α} (h : ∀ a ∈ l, f a = a) : l.map f = l := by
  conv_rhs => rw [← List.map_id l]
  exact List.map_congr_left h

/-- What a filter keeps of an update, seen through `g`, where the update changes neither. -/
theorem map_filter_map {β : Type*} {f : α → α} {p : α → Bool} {g : α → β}
    (same : ∀ a ∈ l, p (f a) = p a ∧ g (f a) = g a) : ((l.map f).filter p).map g = (l.filter p).map g := by
  induction l with
  | nil => rfl
  | cons a l ih =>
    obtain ⟨kept, shown⟩ := same a (.head _)
    have rest := ih fun b mem => same b (.tail _ mem)
    by_cases here : p a = true
    · simp [kept, here, shown, rest]
    · simp [kept, here, rest]

/-! ## Saving by key

A document that is saved replaces the one that has its key, and is added where there is none.
-/

/-- The documents after one was saved. -/
def save (key : α → κ) (a : α) (l : List α) : List α :=
  if l.any (key · == key a) then l.map fun b => if key b == key a then a else b else l ++ [a]

theorem Distinct.save {l : List α} (distinct : Distinct key l) (a : α) : Distinct key (save key a l) := by
  unfold Collection.save
  split
  · refine distinct.map fun b => ?_
    split
    · next same => exact (beq_iff_eq.mp same).symm
    · rfl
  · next absent =>
    refine distinct.append fun b mem same => absent ?_
    exact List.any_eq_true.mpr ⟨b, mem, beq_iff_eq.mpr same⟩

/-- The documents are the one that was saved, and those of other keys. -/
theorem mem_save {a b : α} : b ∈ save key a l ↔ b = a ∨ (b ∈ l ∧ key b ≠ key a) := by
  unfold save
  split
  · next present =>
    obtain ⟨c, memC, same⟩ := List.any_eq_true.mp present
    constructor
    · intro mem
      obtain ⟨d, memD, rfl⟩ := List.mem_map.mp mem
      split
      · exact .inl rfl
      · next other => exact .inr ⟨memD, fun eq => other (beq_iff_eq.mpr eq)⟩
    · rintro (rfl | ⟨mem, other⟩)
      · exact List.mem_map.mpr ⟨c, memC, if_pos same⟩
      · exact List.mem_map.mpr ⟨b, mem, if_neg fun eq => other (beq_iff_eq.mp eq)⟩
  · next absent =>
    have others : ∀ c ∈ l, key c ≠ key a := fun c mem same =>
      absent (List.any_eq_true.mpr ⟨c, mem, beq_iff_eq.mpr same⟩)
    rw [List.mem_append, List.mem_singleton, or_comm]
    exact or_congr_right ⟨fun mem => ⟨mem, others b mem⟩, And.left⟩

end Collection
