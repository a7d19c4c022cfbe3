import ApiManger.Python.Scan
import ApiManger.Chain.Template

/-!
# Names at the front of a text

`takeName` takes the longest name. A name is there exactly when a name stands in front of
something that does not go on with it.
-/

namespace ApiManger.Chain
open Python

/-- A whole name. -/
structure IsName (name : List Char) : Prop where
  start : name.head?.any isNameStart = true
  rest : ∀ c ∈ name, isNameChar c = true

/-- A text that goes on no name. -/
def EndsName (rest : List Char) : Prop := ∀ c, rest.head? = some c → isNameChar c = false

theorem isNameChar_of_start {c : Char} (start : isNameStart c = true) : isNameChar c = true := by
  unfold isNameStart at start
  unfold isNameChar Char.isAlphanum
  rcases Bool.or_eq_true_iff.mp start with letter | underscore
  · rw [letter]
    rfl
  · rw [underscore, Bool.or_true]

/-- A name is taken where it stands. -/
theorem takeName_append {name rest : List Char} (isName : IsName name) (ends : EndsName rest) :
    takeName (name ++ rest) = some (name, rest) := by
  obtain ⟨start, all⟩ := isName
  cases name with
  | nil => cases start
  | cons c name =>
    have tail : ∀ d ∈ name, isNameChar d = true := fun d mem => all d (.tail _ mem)
    have first : isNameStart c = true := start
    rw [List.cons_append, takeName, if_pos first, takeWhile_append_stop tail ends, dropWhile_append_stop tail ends]

/-- What is taken is a name, and what is left does not go on with it. -/
theorem takeName_some {cs name rest : List Char} (taken : takeName cs = some (name, rest)) :
    cs = name ++ rest ∧ IsName name ∧ EndsName rest := by
  cases cs with
  | nil => cases taken
  | cons c cs =>
    rw [takeName] at taken
    split at taken
    · next start =>
      obtain ⟨rfl, rfl⟩ := Prod.mk.inj (Option.some.inj taken)
      refine ⟨by rw [List.cons_append, List.takeWhile_append_dropWhile], ⟨start, fun d mem => ?_⟩, fun d first => ?_⟩
      · rcases List.mem_cons.mp mem with rfl | mem
        · exact isNameChar_of_start start
        · exact List.mem_takeWhile_imp mem
      · exact dropWhile_head isNameChar cs d first
    · cases taken

theorem afterText_append (text rest : List Char) : afterText text (text ++ rest) = some rest := by
  rw [afterText, if_pos (List.isPrefixOf_iff_prefix.mpr (List.prefix_append text rest)), List.drop_left]

theorem afterText_some {text cs rest : List Char} (found : afterText text cs = some rest) : cs = text ++ rest := by
  unfold afterText at found
  split at found
  · next front =>
    obtain ⟨tail, rfl⟩ := List.isPrefixOf_iff_prefix.mp front
    rw [List.drop_left] at found
    rw [Option.some.inj found]
  · cases found

/-! ## Where the characters of names and numbers lie -/

theorem isNameStart_range {c : Char} (start : isNameStart c = true) : 65 ≤ c.toNat ∧ c.toNat ≤ 122 := by
  rcases Bool.or_eq_true_iff.mp start with letter | underscore
  · exact isAlpha_range letter
  · cases beq_iff_eq.mp underscore
    decide

theorem isNameChar_range {c : Char} (inside : isNameChar c = true) : 48 ≤ c.toNat ∧ c.toNat ≤ 122 := by
  rcases Bool.or_eq_true_iff.mp inside with word | underscore
  · rcases Bool.or_eq_true_iff.mp word with letter | digit
    · have range := isAlpha_range letter
      omega
    · have range := isDigit_range digit
      omega
  · cases beq_iff_eq.mp underscore
    decide

theorem IsName.solid {name : List Char} (isName : IsName name) : ∀ c ∈ name, isSpace c = false := by
  intro c mem
  obtain ⟨low, high⟩ := isNameChar_range (isName.rest c mem)
  exact not_isSpace low high

end ApiManger.Chain
