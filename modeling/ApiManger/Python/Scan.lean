import Mathlib.Data.List.TakeWhile
import Mathlib.Data.Nat.Digits.Lemmas
import ApiManger.Python.Text

/-!
# Scanning

What stands at the front of a text, up to the first character that does not go on with it, and
the digits of numbers.
-/

namespace ApiManger.Python

theorem takeWhile_append_stop {p : Char → Bool} {front rest : List Char} (all : ∀ c ∈ front, p c = true)
    (stops : ∀ c, rest.head? = some c → p c = false) : (front ++ rest).takeWhile p = front := by
  rw [List.takeWhile_append_of_pos all]
  cases rest with
  | nil => rw [List.takeWhile_nil, List.append_nil]
  | cons c rest => rw [List.takeWhile_cons_of_neg (Bool.eq_false_iff.mp (stops c rfl)), List.append_nil]

theorem dropWhile_append_stop {p : Char → Bool} {front rest : List Char} (all : ∀ c ∈ front, p c = true)
    (stops : ∀ c, rest.head? = some c → p c = false) : (front ++ rest).dropWhile p = rest := by
  rw [List.dropWhile_append_of_pos all]
  cases rest with
  | nil => rfl
  | cons c rest => rw [List.dropWhile_cons_of_neg (Bool.eq_false_iff.mp (stops c rfl))]

/-! ## Where letters and digits lie -/

theorem isDigit_range {c : Char} (digit : c.isDigit = true) : 48 ≤ c.toNat ∧ c.toNat ≤ 57 := by
  unfold Char.isDigit at digit
  simp only [Bool.and_eq_true, decide_eq_true_eq, ge_iff_le, UInt32.le_iff_toNat_le] at digit
  exact digit

theorem isAlpha_range {c : Char} (letter : c.isAlpha = true) : 65 ≤ c.toNat ∧ c.toNat ≤ 122 := by
  unfold Char.isAlpha Char.isUpper Char.isLower at letter
  simp only [Bool.or_eq_true, Bool.and_eq_true, decide_eq_true_eq, ge_iff_le, UInt32.le_iff_toNat_le] at letter
  rcases letter with ⟨low, high⟩ | ⟨low, high⟩
  · exact ⟨low, high.trans (by decide)⟩
  · exact ⟨le_trans (by decide) low, high⟩

theorem not_isSpace {c : Char} (low : 48 ≤ c.toNat) (high : c.toNat ≤ 122) : isSpace c = false := by
  unfold isSpace
  simp only [Bool.or_eq_false_iff, Bool.and_eq_false_iff, decide_eq_false_iff_not, beq_eq_false_iff_ne]
  omega

theorem digit_solid {c : Char} (digit : c.isDigit = true) : isSpace c = false := by
  obtain ⟨low, high⟩ := isDigit_range digit
  exact not_isSpace low (by omega)

/-! ## Digits -/

/-- Digits alone are read as the number they write. -/
theorem readDigits_digits {digits : List Char} (all : ∀ c ∈ digits, c.isDigit = true) (n : ℕ) :
    readDigits n digits = some (Nat.ofDigitChars 10 digits n) := by
  induction digits generalizing n with
  | nil => rfl
  | cons d rest ih =>
    have digit : d.isDigit = true := all d (.head _)
    have other : d ≠ '_' := by
      rintro rfl
      cases digit
    have later := ih (fun c mem => all c (.tail _ mem)) (10 * n + (d.toNat - 48))
    rw [Nat.ofDigitChars_cons, ← show d.toNat - 48 = d.toNat - '0'.toNat from rfl, ← later]
    rw [readDigits]
    · rw [if_pos digit]
    · rintro _ _ rfl
      exact (other rfl).elim

theorem digits_isDigit (n : ℕ) : ∀ c ∈ Nat.toDigits 10 n, c.isDigit = true :=
  fun _ mem => Nat.isDigit_of_mem_toDigits (by decide) (by decide) mem

theorem readDigits_toDigits (n : ℕ) : readDigits 0 (Nat.toDigits 10 n) = some n := by
  rw [readDigits_digits (digits_isDigit n), Nat.ofDigitChars_ten_toDigits]

/-- What stands before the first of a character, and behind it. -/
theorem append_cons_inj {c : Char} {front other rest rest' : List Char} (clear : c ∉ front) (clear' : c ∉ other)
    (same : front ++ c :: rest = other ++ c :: rest') : front = other ∧ rest = rest' := by
  induction front generalizing other with
  | nil =>
    cases other with
    | nil => exact ⟨rfl, (List.cons.inj same).2⟩
    | cons d ds => exact absurd ((List.cons.inj same).1 ▸ List.mem_cons_self) clear'
  | cons d ds ih =>
    cases other with
    | nil => exact absurd ((List.cons.inj same).1 ▸ List.mem_cons_self) clear
    | cons e es =>
      obtain ⟨rfl, later⟩ := List.cons.inj same
      obtain ⟨rfl, rfl⟩ := ih (fun inside => clear (List.mem_cons_of_mem d inside))
        (fun inside => clear' (List.mem_cons_of_mem d inside)) later
      exact ⟨rfl, rfl⟩

end ApiManger.Python
