import Mathlib.Data.List.Infix

/-!
# Replacing text

`text.replace(old, new)` scans from left to right and goes on after each occurrence. A
character that is not in `old` cuts the text in two that are replaced one by one, and the
length of the result counts the occurrences.
-/

namespace ApiManger.Python

/-- The scan of `replace`, with so many characters of an occurrence still to leave out. -/
def replaceFrom (old new : List Char) : ℕ → List Char → List Char
  | _, [] => []
  | skip + 1, _ :: cs => replaceFrom old new skip cs
  | 0, c :: cs =>
    if old.isPrefixOf (c :: cs) then new ++ replaceFrom old new (old.length - 1) cs
    else c :: replaceFrom old new 0 cs

/-- `text.replace(old, new)`, where `old` is not empty. -/
def replaceAll (old new text : List Char) : List Char := replaceFrom old new 0 text

/-- The number of occurrences that the scan finds. -/
def occurrencesFrom (old : List Char) : ℕ → List Char → ℕ
  | _, [] => 0
  | skip + 1, _ :: cs => occurrencesFrom old skip cs
  | 0, c :: cs =>
    if old.isPrefixOf (c :: cs) then occurrencesFrom old (old.length - 1) cs + 1 else occurrencesFrom old 0 cs

def occurrences (old text : List Char) : ℕ := occurrencesFrom old 0 text

example : String.ofList (replaceAll ":id".toList "7".toList "/a/:id/:idx/:id".toList) = "/a/7/7x/7" := by decide +kernel

theorem replaceFrom_drop (old new : List Char) (skip : ℕ) (cs : List Char) :
    replaceFrom old new skip cs = replaceAll old new (cs.drop skip) := by
  induction skip generalizing cs with
  | zero => rfl
  | succ skip ih =>
    cases cs with
    | nil => rfl
    | cons c cs => exact ih cs

theorem occurrencesFrom_drop (old : List Char) (skip : ℕ) (cs : List Char) :
    occurrencesFrom old skip cs = occurrences old (cs.drop skip) := by
  induction skip generalizing cs with
  | zero => rfl
  | succ skip ih =>
    cases cs with
    | nil => rfl
    | cons c cs => exact ih cs

section
variable {old : List Char} (new : List Char)

/-! ## The turns of the scan -/

theorem replaceAll_found (nonempty : old ≠ []) (rest : List Char) :
    replaceAll old new (old ++ rest) = new ++ replaceAll old new rest := by
  cases old with
  | nil => exact (nonempty rfl).elim
  | cons c old =>
    have front : (c :: old).isPrefixOf (c :: (old ++ rest)) = true :=
      List.isPrefixOf_iff_prefix.mpr (List.prefix_append (c :: old) rest)
    rw [List.cons_append, replaceAll, replaceFrom, if_pos front, replaceFrom_drop, List.length_cons, Nat.add_sub_cancel,
      List.drop_left]

theorem occurrences_found (nonempty : old ≠ []) (rest : List Char) :
    occurrences old (old ++ rest) = occurrences old rest + 1 := by
  cases old with
  | nil => exact (nonempty rfl).elim
  | cons c old =>
    have front : (c :: old).isPrefixOf (c :: (old ++ rest)) = true :=
      List.isPrefixOf_iff_prefix.mpr (List.prefix_append (c :: old) rest)
    rw [List.cons_append, occurrences, occurrencesFrom, if_pos front, occurrencesFrom_drop, List.length_cons,
      Nat.add_sub_cancel, List.drop_left]

theorem replaceAll_other {c : Char} {cs : List Char} (other : ¬ old <+: c :: cs) :
    replaceAll old new (c :: cs) = c :: replaceAll old new cs := by
  rw [replaceAll, replaceFrom, if_neg (mt List.isPrefixOf_iff_prefix.mp other)]
  rfl

theorem occurrences_other {c : Char} {cs : List Char} (other : ¬ old <+: c :: cs) :
    occurrences old (c :: cs) = occurrences old cs := by
  rw [occurrences, occurrencesFrom, if_neg (mt List.isPrefixOf_iff_prefix.mp other)]
  rfl

/-- A text is read as the scan reads it: an occurrence, or one character. -/
theorem scan_induction (nonempty : old ≠ []) {P : List Char → Prop} (done : P [])
    (other : ∀ c cs, ¬ old <+: c :: cs → P cs → P (c :: cs)) (found : ∀ rest, P rest → P (old ++ rest))
    (text : List Char) : P text := by
  induction long : text.length using Nat.strong_induction_on generalizing text with
  | _ n ih =>
    cases text with
    | nil => exact done
    | cons c cs =>
      by_cases front : old <+: c :: cs
      · obtain ⟨rest, whole⟩ := front
        have shorter : rest.length < n := by
          rw [← long, ← whole, List.length_append]
          have := List.length_pos_of_ne_nil nonempty
          omega
        rw [← whole]
        exact found rest (ih rest.length shorter rest rfl)
      · exact other c cs front (ih cs.length (by rw [← long, List.length_cons]; omega) cs rfl)

/-! ## What replacing does -/

variable {text : List Char}

/-- Where the text does not occur nothing is replaced. -/
theorem replaceAll_absent (absent : ¬ old <:+: text) : replaceAll old new text = text := by
  induction text with
  | nil => rfl
  | cons c cs ih =>
    rw [replaceAll_other new fun front => absent front.isInfix,
      ih fun inside => absent (inside.trans (List.suffix_cons c cs).isInfix)]

theorem replaceAll_same (nonempty : old ≠ []) (text : List Char) : replaceAll old old text = text := by
  induction text using scan_induction nonempty with
  | done => rfl
  | other c cs front ih => rw [replaceAll_other old front, ih]
  | found rest ih => rw [replaceAll_found old nonempty, ih]

/-- The scan finds nothing exactly when the text does not occur. -/
theorem occurrences_eq_zero_iff (nonempty : old ≠ []) : occurrences old text = 0 ↔ ¬ old <:+: text := by
  induction text using scan_induction nonempty with
  | done => exact ⟨fun _ inside => nonempty (List.infix_nil.mp inside), fun _ => rfl⟩
  | other c cs front ih =>
    rw [occurrences_other front, ih, List.infix_cons_iff, not_or]
    exact ⟨fun absent => ⟨front, absent⟩, And.right⟩
  | found rest ih =>
    rw [occurrences_found nonempty]
    exact ⟨fun zero => (Nat.succ_ne_zero _ zero).elim, fun absent => (absent (List.prefix_append old rest).isInfix).elim⟩

theorem replaceAll_length (nonempty : old ≠ []) (text : List Char) :
    (replaceAll old new text).length + occurrences old text * old.length =
      text.length + occurrences old text * new.length := by
  induction text using scan_induction nonempty with
  | done =>
    rw [show occurrences old [] = 0 from rfl, Nat.zero_mul, Nat.zero_mul]
    rfl
  | other c cs front ih =>
    rw [replaceAll_other new front, occurrences_other front, List.length_cons, List.length_cons]
    omega
  | found rest ih =>
    rw [replaceAll_found new nonempty, occurrences_found nonempty, List.length_append, List.length_append, Nat.succ_mul,
      Nat.succ_mul]
    omega

/-- The characters of the result are of the text or of the new text. -/
theorem mem_replaceAll (nonempty : old ≠ []) {d : Char} (inside : d ∈ replaceAll old new text) :
    d ∈ text ∨ d ∈ new := by
  induction text using scan_induction nonempty with
  | done => cases inside
  | other c cs front ih =>
    rw [replaceAll_other new front] at inside
    rcases List.mem_cons.mp inside with rfl | later
    · exact .inl List.mem_cons_self
    · exact (ih later).imp_left (List.mem_cons_of_mem c)
  | found rest ih =>
    rw [replaceAll_found new nonempty] at inside
    rcases List.mem_append.mp inside with fresh | later
    · exact .inr fresh
    · exact (ih later).imp_left (List.mem_append_right old)

/-- The text is as before, or has the new text in it. -/
theorem replaceAll_eq_or (nonempty : old ≠ []) (text : List Char) :
    replaceAll old new text = text ∨ new <:+: replaceAll old new text := by
  induction text using scan_induction nonempty with
  | done => exact .inl rfl
  | other c cs front ih =>
    rw [replaceAll_other new front]
    rcases ih with same | inside
    · exact .inl (by rw [same])
    · exact .inr (inside.trans (List.suffix_cons c _).isInfix)
  | found rest ih =>
    rw [replaceAll_found new nonempty]
    exact .inr (List.prefix_append new _).isInfix

/-- A replacement of the same length that changes nothing is the text itself. -/
theorem eq_of_replaceAll_eq (nonempty : old ≠ []) (long : new.length = old.length)
    (same : replaceAll old new text = text) (inside : old <:+: text) : new = old := by
  induction text using scan_induction nonempty with
  | done => exact (nonempty (List.infix_nil.mp inside)).elim
  | other c cs front ih =>
    rw [replaceAll_other new front] at same
    exact ih (List.cons.inj same).2 ((List.infix_cons_iff.mp inside).resolve_left front)
  | found rest ih =>
    rw [replaceAll_found new nonempty] at same
    exact (List.append_inj same long).1

/-- A text stands in front of a character that is not in it. -/
theorem prefix_of_append_cons {c : Char} (cut : c ∉ old) {front rest : List Char} (starts : old <+: front ++ c :: rest) :
    old <+: front := by
  rcases List.prefix_or_prefix_of_prefix starts (List.prefix_append front (c :: rest)) with short | ⟨tail, longer⟩
  · exact short
  · cases tail with
    | nil => rw [List.append_nil] at longer; exact longer ▸ List.prefix_rfl
    | cons d tail =>
      rw [← longer, List.prefix_append_right_inj] at starts
      obtain ⟨_, same⟩ := starts
      obtain ⟨rfl, -⟩ := List.cons.inj same
      exact (cut (longer ▸ List.mem_append_right _ (.head _))).elim

/-- A character that is not in the text cuts what is replaced in two. -/
theorem replaceAll_append_cons (nonempty : old ≠ []) {c : Char} (cut : c ∉ old) (front rest : List Char) :
    replaceAll old new (front ++ c :: rest) = replaceAll old new front ++ c :: replaceAll old new rest := by
  induction front using scan_induction nonempty with
  | done =>
    refine replaceAll_other new ?_
    rintro ⟨tail, whole⟩
    cases old with
    | nil => exact nonempty rfl
    | cons d old => exact cut ((List.cons.inj whole).1 ▸ .head _)
  | other d ds none ih =>
    have still : ¬ old <+: d :: (ds ++ c :: rest) := by
      intro front
      exact none (prefix_of_append_cons cut (show old <+: (d :: ds) ++ c :: rest from front))
    rw [List.cons_append, replaceAll_other new still, ih, replaceAll_other new none]
    rfl
  | found tail ih => rw [List.append_assoc, replaceAll_found new nonempty, ih, replaceAll_found new nonempty, List.append_assoc]

end

end ApiManger.Python
