import ApiManger.Python.Value

/-!
# Python texts

The `str` methods the code uses, on the characters of a text.
-/

namespace ApiManger.Python

variable (text : String)

/-- `text.strip()`. -/
def stripped : String := String.ofList (strip text)

/-- `text.lower()`, for letters of the ASCII alphabet. -/
def lower : String := String.ofList (text.toList.map Char.toLower)

/-- `text.upper()`, for letters of the ASCII alphabet. -/
def upper : String := String.ofList (text.toList.map Char.toUpper)

/-- `text[:n]`. -/
def firstChars (n : ℕ) : String := String.ofList (text.toList.take n)

/-- `text.startswith(start)`. -/
def startsWith (text start : String) : Bool := start.toList.isPrefixOf text.toList

/-- `text.endswith(end)`. -/
def endsWith (text ending : String) : Bool := ending.toList.isSuffixOf text.toList

/-- `part in text`. -/
def containsText (text part : String) : Bool := text.toList.tails.any (part.toList.isPrefixOf ·)

/-- `text.replace(old, new)`, for single characters. -/
def replaceChar (old new : Char) : String :=
  String.ofList (text.toList.map fun c => if c == old then new else c)

/-- `text.rstrip(c)`. -/
def rstripChar (c : Char) : String :=
  String.ofList (text.toList.reverse.dropWhile (· == c)).reverse

/-- The parts of a text between the separators. -/
def splitChars (separator : Char) : List Char → List (List Char)
  | [] => [[]]
  | c :: rest =>
    if c == separator then [] :: splitChars separator rest
    else match splitChars separator rest with
      | [] => [[c]]
      | part :: parts => (c :: part) :: parts

/-- `text.split(separator)`. -/
def split (separator : Char) : List String :=
  (splitChars separator text.toList).map String.ofList

/-! ## Capitals -/

theorem toUpper_kept {c : Char} (large : ¬('a'.val ≤ c.val ∧ c.val ≤ 'z'.val)) : c.toUpper = c := by
  unfold Char.toUpper
  rw [dif_neg large]

theorem toUpper_toUpper (c : Char) : c.toUpper.toUpper = c.toUpper := by
  by_cases small : 'a'.val ≤ c.val ∧ c.val ≤ 'z'.val
  · have capital : c.toUpper.val = c.val + ('A'.val - 'a'.val) := by
      unfold Char.toUpper
      rw [dif_pos small]
    apply toUpper_kept
    rw [capital]
    rintro ⟨above, -⟩
    have low := UInt32.le_iff_toNat_le.mp small.1
    have high := UInt32.le_iff_toNat_le.mp small.2
    have above := UInt32.le_iff_toNat_le.mp above
    rw [UInt32.toNat_add] at above
    have a : 'a'.val.toNat = 97 := rfl
    have z : 'z'.val.toNat = 122 := rfl
    have distance : ('A'.val - 'a'.val).toNat = 4294967264 := rfl
    omega
  · rw [toUpper_kept small, toUpper_kept small]

theorem upper_upper : upper (upper text) = upper text := by
  have twice : ∀ c : Char, (Char.toUpper ∘ Char.toUpper) c = c.toUpper := toUpper_toUpper
  rw [upper, upper, String.toList_ofList, List.map_map, List.map_congr_left fun c _ => twice c]

theorem upper_ne_empty {text : String} (present : text ≠ "") : upper text ≠ "" := by
  intro empty
  apply present
  have chars := congrArg String.toList empty
  rw [upper, String.toList_ofList] at chars
  exact String.toList_inj.mp (List.map_eq_nil_iff.mp chars)

theorem dropWhile_eq_self {α : Type} {p : α → Bool} {l : List α} (none_ : ∀ a ∈ l, p a = false) :
    l.dropWhile p = l := by
  cases l with
  | nil => rfl
  | cons a rest => rw [List.dropWhile_cons_of_neg (by simp [none_ a (.head _)])]

/-- A text without white space is stripped. -/
theorem stripped_eq_self {text : String} (solid : ∀ c ∈ text.toList, isSpace c = false) :
    stripped text = text := by
  unfold stripped strip
  rw [dropWhile_eq_self solid, dropWhile_eq_self fun c mem => solid c (List.mem_reverse.mp mem),
    List.reverse_reverse, String.ofList_toList]

/-- What is left of a list has no white space in front. -/
theorem dropWhile_head {α : Type} (p : α → Bool) (l : List α) : ∀ a, (l.dropWhile p).head? = some a → p a = false := by
  intro a first
  induction l with
  | nil => cases first
  | cons b rest ih =>
    rw [List.dropWhile_cons] at first
    split at first
    · exact ih first
    · next stops =>
      cases first
      exact Bool.eq_false_iff.mpr stops

theorem dropWhile_of_head {α : Type} {p : α → Bool} {l : List α} (first : ∀ a, l.head? = some a → p a = false) :
    l.dropWhile p = l := by
  cases l with
  | nil => rfl
  | cons a rest => exact List.dropWhile_cons_of_neg (Bool.eq_false_iff.mp (first a rfl))

/-- A stripped text stays as it is when it is stripped again. -/
theorem stripped_stripped : stripped (stripped text) = stripped text := by
  let front := text.toList.dropWhile isSpace
  let back := front.reverse.dropWhile isSpace
  have inner : (back.reverse).dropWhile isSpace = back.reverse := by
    refine dropWhile_of_head fun a first => dropWhile_head isSpace text.toList a ?_
    obtain ⟨tail, split⟩ : back <:+ front.reverse := List.dropWhile_suffix _
    have whole : front = back.reverse ++ tail.reverse := by
      rw [← List.reverse_append, split, List.reverse_reverse]
    change front.head? = some a
    rw [whole, List.head?_append, first]
    rfl
  have outer : back.dropWhile isSpace = back := dropWhile_of_head (dropWhile_head isSpace front.reverse)
  change String.ofList (strip (String.ofList back.reverse)) = String.ofList back.reverse
  unfold strip
  rw [String.toList_ofList, inner, List.reverse_reverse, outer]

end ApiManger.Python
