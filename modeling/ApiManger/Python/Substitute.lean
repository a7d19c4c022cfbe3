import Mathlib.Data.List.Infix

/-!
# `re.sub`

A pattern is given by the length of its match at the front of a text, zero where it does not match there: `re.sub`
scans from left to right and goes on after each match.
-/

namespace ApiManger.Python

/-- The scan of `re.sub`, with so many characters of a match still to leave out. -/
def reSubFrom (find : List Char → ℕ) (new : List Char) : ℕ → List Char → List Char
  | _, [] => []
  | skip + 1, _ :: cs => reSubFrom find new skip cs
  | 0, c :: cs =>
    match find (c :: cs) with
    | 0 => c :: reSubFrom find new 0 cs
    | n + 1 => new ++ reSubFrom find new n cs

/-- `re.sub(pattern, new, text)`, where matches are not empty. -/
def reSub (find : List Char → ℕ) (new text : List Char) : List Char := reSubFrom find new 0 text

section
variable {find : List Char → ℕ} (new : List Char)

theorem reSubFrom_drop (skip : ℕ) (cs : List Char) : reSubFrom find new skip cs = reSub find new (cs.drop skip) := by
  induction skip generalizing cs with
  | zero => rfl
  | succ skip ih =>
    cases cs with
    | nil => rfl
    | cons c cs => exact ih cs

theorem reSub_other {c : Char} {cs : List Char} (other : find (c :: cs) = 0) :
    reSub find new (c :: cs) = c :: reSub find new cs := by
  rw [reSub, reSubFrom, other]
  rfl

theorem reSub_found {c : Char} {cs : List Char} {n : ℕ} (found : find (c :: cs) = n + 1) :
    reSub find new (c :: cs) = new ++ reSub find new (cs.drop n) := by
  rw [reSub, reSubFrom, found, ← reSubFrom_drop]

/-- Where the pattern does not match at any place nothing is replaced. -/
theorem reSub_absent {text rest : List Char} (absent : ∀ s t, text = s ++ t → t ≠ [] → find (t ++ rest) = 0) :
    reSub find new (text ++ rest) = text ++ reSub find new rest := by
  induction text with
  | nil => rfl
  | cons c cs ih =>
    have here : find (c :: (cs ++ rest)) = 0 := absent [] (c :: cs) rfl (List.cons_ne_nil c cs)
    have later := ih fun s t same => absent (c :: s) t (by rw [same, List.cons_append])
    rw [List.cons_append, reSub_other new here, later]
    rfl

/-- The text is as before, or has the new text in it. -/
theorem reSub_eq_or (text : List Char) : reSub find new text = text ∨ new <:+: reSub find new text := by
  induction text with
  | nil => exact .inl rfl
  | cons c cs ih =>
    cases found : find (c :: cs) with
    | zero =>
      rw [reSub_other new found]
      rcases ih with same | inside
      · exact .inl (by rw [same])
      · exact .inr (inside.trans (List.suffix_cons c _).isInfix)
    | succ n =>
      rw [reSub_found new found]
      exact .inr (List.prefix_append new _).isInfix

/-- The characters of the result are of the text or of the new text. -/
theorem mem_reSub {text : List Char} {d : Char} (inside : d ∈ reSub find new text) : d ∈ text ∨ d ∈ new := by
  induction long : text.length using Nat.strong_induction_on generalizing text with
  | _ n ih =>
    cases text with
    | nil => cases inside
    | cons c cs =>
      rw [List.length_cons] at long
      cases found : find (c :: cs) with
      | zero =>
        rw [reSub_other new found] at inside
        rcases List.mem_cons.mp inside with rfl | later
        · exact .inl List.mem_cons_self
        · exact (ih cs.length (by omega) later rfl).imp_left (List.mem_cons_of_mem c)
      | succ k =>
        rw [reSub_found new found] at inside
        rcases List.mem_append.mp inside with fresh | later
        · exact .inr fresh
        · have shorter : (cs.drop k).length < n := by
            rw [List.length_drop]
            omega
          exact (ih _ shorter later rfl).imp_left fun old => List.mem_cons_of_mem c (List.mem_of_mem_drop old)

/-- A character that no match reaches cuts the text in two. -/
theorem reSub_cut {cut : Char} (never : ∀ rest, find (cut :: rest) = 0)
    (apart : ∀ s rest, s ≠ [] → cut ∉ s → find (s ++ cut :: rest) = find s) (short : ∀ s, find s ≤ s.length)
    {front : List Char} (clear : cut ∉ front) (rest : List Char) :
    reSub find new (front ++ cut :: rest) = reSub find new front ++ cut :: reSub find new rest := by
  induction long : front.length using Nat.strong_induction_on generalizing front with
  | _ n ih =>
    cases front with
    | nil => exact reSub_other new (never rest)
    | cons c cs =>
      rw [List.length_cons] at long
      have same := apart (c :: cs) rest (List.cons_ne_nil c cs) clear
      have tail : cut ∉ cs := fun inside => clear (List.mem_cons_of_mem c inside)
      rw [List.cons_append] at same ⊢
      cases found : find (c :: cs) with
      | zero =>
        rw [reSub_other new (same.trans found), reSub_other new found, ih cs.length (by omega) tail rfl]
        rfl
      | succ k =>
        have within : k ≤ cs.length := by
          have := short (c :: cs)
          rw [found, List.length_cons] at this
          omega
        have shorter : (cs.drop k).length < n := by
          rw [List.length_drop]
          omega
        have dropped : (cs ++ cut :: rest).drop k = cs.drop k ++ cut :: rest := List.drop_append_of_le_length within
        rw [reSub_found new (same.trans found), reSub_found new found, dropped,
          ih _ shorter (fun inside => tail (List.mem_of_mem_drop inside)) rfl, List.append_assoc]

end

end ApiManger.Python
