import Mathlib.Data.List.Sort
import Mathlib.Data.List.Nodup

/-!
# First matches

Two readings of a list from the front: the first element with a property in a
sorted list, which is a least one, and the first element of each key, which hides
the later elements of that key.
-/

namespace Collection

variable {α κ : Type*}

section Sorted
variable (le : α → α → Prop) [DecidableRel le]

/-- `a` is a least element of `l` with the property `p`. -/
structure First (p : α → Prop) (l : List α) (a : α) : Prop where
  mem : a ∈ l
  holds : p a
  least : ∀ b ∈ l, p b → le a b

/-- The first match of a sorted list is a least match. -/
theorem find?_insertionSort [Std.Total le] [IsTrans α le] {p : α → Bool} {l : List α} {a : α}
    (found : (l.insertionSort le).find? p = some a) : First le (fun x => p x = true) l a := by
  obtain ⟨holds, before, after, split, misses⟩ := List.find?_eq_some_iff_append.mp found
  have mem : ∀ b, b ∈ l ↔ b ∈ l.insertionSort le := fun b => (List.mem_insertionSort le).symm
  refine ⟨(mem a).mpr (List.mem_of_find?_eq_some found), holds, fun b here matches_ => ?_⟩
  have sorted := List.pairwise_insertionSort le l
  have here := (mem b).mp here
  rw [split] at here sorted
  rcases List.mem_append.mp here with early | late
  · have miss := misses b early
    rw [matches_] at miss
    cases miss
  · rcases List.mem_cons.mp late with rfl | later
    · exact or_self_iff.mp (Std.Total.total (r := le) b b)
    · exact (List.pairwise_cons.mp (List.pairwise_append.mp sorted).2.1).1 b later

/-- There is a first match of a sorted list exactly where there is a match. -/
theorem find?_insertionSort_eq_none {p : α → Bool} {l : List α} :
    (l.insertionSort le).find? p = none ↔ ∀ a ∈ l, p a = false := by
  simp [List.find?_eq_none, List.mem_insertionSort]

/-- A first match that no other match can stand for is the one that is found. -/
theorem First.find? [Std.Total le] [IsTrans α le] {p : α → Bool} {l : List α} {a : α}
    (first : First le (fun x => p x = true) l a)
    (only : ∀ b ∈ l, p b = true → le b a → b = a) : (l.insertionSort le).find? p = some a := by
  cases found : (l.insertionSort le).find? p with
  | none =>
    have miss := find?_insertionSort_eq_none le |>.mp found a first.mem
    rw [first.holds] at miss
    cases miss
  | some b =>
    have other := find?_insertionSort le found
    rw [only b other.mem other.holds (other.least a first.mem first.holds)]

end Sorted

section Keyed
variable [DecidableEq κ] (key : α → κ)

/-- The first element of each key that was not seen before. -/
def firstOfEach : List κ → List α → List α
  | _, [] => []
  | seen, a :: rest =>
    if seen.contains (key a) then firstOfEach seen rest else a :: firstOfEach (key a :: seen) rest

variable {key}

theorem firstOfEach_cons (seen : List κ) (a : α) (rest : List α) : firstOfEach key seen (a :: rest) =
    if key a ∈ seen then firstOfEach key seen rest else a :: firstOfEach key (key a :: seen) rest := by
  simp only [firstOfEach, List.contains_eq_mem, decide_eq_true_eq]

variable {seen : List κ}

theorem mem_of_firstOfEach {l : List α} {a : α}
    (h : a ∈ firstOfEach key seen l) : a ∈ l ∧ key a ∉ seen := by
  induction l generalizing seen with
  | nil => cases h
  | cons b rest ih =>
    simp only [firstOfEach, List.contains_eq_mem, decide_eq_true_eq] at h
    split at h
    · obtain ⟨mem, new⟩ := ih h
      exact ⟨List.mem_cons_of_mem b mem, new⟩
    · rename_i new
      rcases List.mem_cons.mp h with rfl | later
      · exact ⟨List.mem_cons_self, new⟩
      · obtain ⟨mem, newer⟩ := ih later
        exact ⟨List.mem_cons_of_mem b mem, fun old => newer (List.mem_cons_of_mem _ old)⟩

/-- An element is kept exactly where no element before it, and nothing seen, has its key. -/
theorem mem_firstOfEach {before after : List α} {a : α}
    (nodup : (before ++ a :: after).Nodup) :
    a ∈ firstOfEach key seen (before ++ a :: after) ↔
      key a ∉ seen ∧ ∀ b ∈ before, key b ≠ key a := by
  induction before generalizing seen with
  | nil =>
    simp only [List.nil_append, firstOfEach, List.contains_eq_mem, decide_eq_true_eq]
    split
    · rename_i old
      refine ⟨fun h => absurd (mem_of_firstOfEach h).1 (List.nodup_cons.mp nodup).1, fun h => ?_⟩
      exact absurd old h.1
    · rename_i new
      simpa using new
  | cons b rest ih =>
    obtain ⟨absent, nodup⟩ := List.nodup_cons.mp nodup
    simp only [List.cons_append, firstOfEach, List.contains_eq_mem, decide_eq_true_eq]
    split
    · rename_i old
      rw [ih nodup]
      refine and_congr_right fun new => ?_
      have other : key b ≠ key a := fun same => new (same ▸ old)
      simp [other]
    · have ne : a ≠ b := fun same => absent (same ▸ List.mem_append_right rest List.mem_cons_self)
      simp only [List.mem_cons, ne, false_or, ih nodup, not_or, forall_eq_or_imp]
      exact ⟨fun ⟨⟨other, new⟩, others⟩ => ⟨new, fun e => other e.symm, others⟩,
        fun ⟨new, other, others⟩ => ⟨⟨fun e => other e.symm, new⟩, others⟩⟩

/-- An element is kept where it is the first one of its key. -/
theorem mem_firstOfEach_iff {l : List α} {a : α} : a ∈ firstOfEach key seen l ↔
    key a ∉ seen ∧ ∃ before after, l = before ++ a :: after ∧ ∀ b ∈ before, key b ≠ key a := by
  induction l generalizing seen with
  | nil => simp [firstOfEach]
  | cons b rest ih =>
    have later {before after : List α} (split : b :: rest = before ++ a :: after)
        (first : ∀ c ∈ before, key c ≠ key a) : (before = [] ∧ a = b) ∨
          ∃ before', rest = before' ++ a :: after ∧ key b ≠ key a ∧ ∀ c ∈ before', key c ≠ key a := by
      cases before with
      | nil => exact .inl ⟨rfl, (List.cons.inj split).1.symm⟩
      | cons c before =>
        obtain ⟨rfl, split'⟩ := List.cons.inj split
        exact .inr ⟨before, split', first b List.mem_cons_self, fun d mem => first d (List.mem_cons_of_mem b mem)⟩
    simp only [firstOfEach, List.contains_eq_mem, decide_eq_true_eq]
    split
    · next old =>
      rw [ih]
      refine and_congr_right fun new => ⟨?_, ?_⟩
      · rintro ⟨before, after, rfl, first⟩
        have other : key b ≠ key a := fun same => new (same ▸ old)
        exact ⟨b :: before, after, rfl, List.forall_mem_cons.mpr ⟨other, first⟩⟩
      · rintro ⟨before, after, split, first⟩
        rcases later split first with ⟨rfl, rfl⟩ | ⟨before', split', -, first'⟩
        · exact absurd old new
        · exact ⟨before', after, split', first'⟩
    · next new =>
      rw [List.mem_cons, ih, List.mem_cons, not_or]
      constructor
      · rintro (rfl | ⟨⟨differs, new⟩, before, after, rfl, first⟩)
        · exact ⟨new, [], rest, rfl, nofun⟩
        · exact ⟨new, b :: before, after, rfl, List.forall_mem_cons.mpr ⟨Ne.symm differs, first⟩⟩
      · rintro ⟨notSeen, before, after, split, first⟩
        rcases later split first with ⟨-, same⟩ | ⟨before', split', differs, first'⟩
        · exact .inl same
        · exact .inr ⟨⟨Ne.symm differs, notSeen⟩, before', after, split', first'⟩

/-- Every key that was not seen is kept. -/
theorem key_mem_firstOfEach {l : List α} {k : κ} :
    k ∈ (firstOfEach key seen l).map key ↔ k ∉ seen ∧ k ∈ l.map key := by
  induction l generalizing seen with
  | nil => simp [firstOfEach]
  | cons b rest ih =>
    simp only [firstOfEach, List.contains_eq_mem, decide_eq_true_eq]
    split
    · next old =>
      rw [ih, List.map_cons, List.mem_cons]
      refine and_congr_right fun new => ⟨.inr, fun listed => listed.resolve_left fun same => new (same ▸ old)⟩
    · next new =>
      rw [List.map_cons, List.map_cons, List.mem_cons, List.mem_cons, ih, List.mem_cons, not_or]
      constructor
      · rintro (rfl | ⟨⟨-, notSeen⟩, listed⟩)
        · exact ⟨new, .inl rfl⟩
        · exact ⟨notSeen, .inr listed⟩
      · rintro ⟨notSeen, same | listed⟩
        · exact .inl same
        · by_cases same : k = key b
          · exact .inl same
          · exact .inr ⟨⟨same, notSeen⟩, listed⟩

/-- Every key is kept once. -/
theorem nodup_firstOfEach (l : List α) (seen : List κ) : ((firstOfEach key seen l).map key).Nodup := by
  induction l generalizing seen with
  | nil => exact List.nodup_nil
  | cons b rest ih =>
    simp only [firstOfEach, List.contains_eq_mem, decide_eq_true_eq]
    split
    · exact ih seen
    · rw [List.map_cons, List.nodup_cons]
      exact ⟨fun listed => (key_mem_firstOfEach.mp listed).1 List.mem_cons_self, ih _⟩

end Keyed
end Collection
