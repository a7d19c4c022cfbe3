import ApiManger.Python.Url

/-!
# Text and its bytes

Decoding the bytes of a text gives the text, and unquoting undoes percent escapes.
-/

namespace ApiManger.Python

/-- `text.encode("utf-8")`, as numbers. -/
def utf8Bytes (text : List Char) : List ℕ := text.flatMap fun c => (String.utf8EncodeChar c).map UInt8.toNat

/-- A character in its number. -/
theorem scalar_range (c : Char) : c.toNat < 0xd800 ∨ 0xdfff < c.toNat ∧ c.toNat < 0x110000 := c.valid

theorem decodeUtf8_one {a : ℕ} (low : a < 0x80) (rest : List ℕ) :
    decodeUtf8 (a :: rest) = Char.ofNat a :: decodeUtf8 rest := by
  rw [decodeUtf8.eq_def]
  exact if_pos low

theorem decodeUtf8_two {a b : ℕ} (low : 0xc2 ≤ a) (high : a < 0xe0) (second : isContinuation b = true)
    (rest : List ℕ) : decodeUtf8 (a :: b :: rest) = Char.ofNat ((a - 0xc0) * 64 + (b - 0x80)) :: decodeUtf8 rest := by
  rw [decodeUtf8.eq_def]
  dsimp only
  rw [if_neg (by omega), if_pos ⟨low, high⟩, if_pos second]

theorem decodeUtf8_three {a b c : ℕ} (low : 0xe0 ≤ a) (high : a < 0xf0) (second : isSecondOfThree a b = true)
    (third : isContinuation c = true) (rest : List ℕ) : decodeUtf8 (a :: b :: c :: rest) =
      Char.ofNat (((a - 0xe0) * 64 + (b - 0x80)) * 64 + (c - 0x80)) :: decodeUtf8 rest := by
  rw [decodeUtf8.eq_def]
  dsimp only
  rw [if_neg (by omega), if_neg (by omega), if_pos ⟨low, high⟩, second, third]
  rfl

theorem decodeUtf8_four {a b c d : ℕ} (low : 0xf0 ≤ a) (high : a < 0xf5) (second : isSecondOfFour a b = true)
    (third : isContinuation c = true) (fourth : isContinuation d = true) (rest : List ℕ) :
    decodeUtf8 (a :: b :: c :: d :: rest) =
      Char.ofNat ((((a - 0xf0) * 64 + (b - 0x80)) * 64 + (c - 0x80)) * 64 + (d - 0x80)) :: decodeUtf8 rest := by
  rw [decodeUtf8.eq_def]
  dsimp only
  rw [if_neg (by omega), if_neg (by omega), if_neg (by omega), if_pos ⟨low, high⟩, second, third, fourth]
  rfl

theorem isContinuation_low (n : ℕ) : isContinuation (n % 64 + 0x80) = true := by
  simp only [isContinuation, Bool.and_eq_true, decide_eq_true_eq]
  omega

/-- The bytes of a character are decoded to it. -/
theorem decodeUtf8_char (c : Char) (rest : List ℕ) :
    decodeUtf8 ((String.utf8EncodeChar c).map UInt8.toNat ++ rest) = c :: decodeUtf8 rest := by
  have range := scalar_range c
  have same : Char.ofNat c.toNat = c := Char.ofNat_toNat c
  unfold String.utf8EncodeChar
  rw [show c.val.toNat = c.toNat from rfl]
  generalize c.toNat = v at range same
  dsimp only
  split
  · next low =>
    simp only [List.map_cons, List.map_nil, List.cons_append, List.nil_append, UInt8.toNat_ofNat']
    rw [decodeUtf8_one (by omega), Nat.mod_eq_of_lt (by omega), same]
  · split
    · next low high =>
      simp only [List.map_cons, List.map_nil, List.cons_append, List.nil_append, UInt8.toNat_ofNat']
      rw [show (v / 64 % 32 + 192) % 2 ^ 8 = v / 64 + 192 by omega, show (v % 64 + 128) % 2 ^ 8 = v % 64 + 128 by omega,
        decodeUtf8_two (by omega) (by omega) (isContinuation_low v)]
      rw [show (v / 64 + 192 - 192) * 64 + (v % 64 + 128 - 128) = v by omega, same]
    · split
      · next low high =>
        have second : isSecondOfThree (v / 4096 + 224) (v / 64 % 64 + 128) = true := by
          simp only [isSecondOfThree, isContinuation, Bool.and_eq_true, Bool.or_eq_true, decide_eq_true_eq, bne_iff_ne]
          omega
        simp only [List.map_cons, List.map_nil, List.cons_append, List.nil_append, UInt8.toNat_ofNat']
        rw [show (v / 4096 % 16 + 224) % 2 ^ 8 = v / 4096 + 224 by omega,
          show (v / 64 % 64 + 128) % 2 ^ 8 = v / 64 % 64 + 128 by omega, show (v % 64 + 128) % 2 ^ 8 = v % 64 + 128 by omega,
          decodeUtf8_three (by omega) (by omega) second (isContinuation_low v)]
        rw [show ((v / 4096 + 224 - 224) * 64 + (v / 64 % 64 + 128 - 128)) * 64 + (v % 64 + 128 - 128) = v by omega, same]
      · next low =>
        have second : isSecondOfFour (v / 262144 + 240) (v / 4096 % 64 + 128) = true := by
          simp only [isSecondOfFour, isContinuation, Bool.and_eq_true, Bool.or_eq_true, decide_eq_true_eq, bne_iff_ne]
          omega
        simp only [List.map_cons, List.map_nil, List.cons_append, List.nil_append, UInt8.toNat_ofNat']
        rw [show (v / 262144 % 8 + 240) % 2 ^ 8 = v / 262144 + 240 by omega,
          show (v / 4096 % 64 + 128) % 2 ^ 8 = v / 4096 % 64 + 128 by omega,
          show (v / 64 % 64 + 128) % 2 ^ 8 = v / 64 % 64 + 128 by omega, show (v % 64 + 128) % 2 ^ 8 = v % 64 + 128 by omega,
          decodeUtf8_four (by omega) (by omega) second (isContinuation_low (v / 64)) (isContinuation_low v)]
        rw [show (((v / 262144 + 240 - 240) * 64 + (v / 4096 % 64 + 128 - 128)) * 64 + (v / 64 % 64 + 128 - 128)) * 64 +
          (v % 64 + 128 - 128) = v by omega, same]

theorem decodeUtf8_bytes (text : List Char) : decodeUtf8 (utf8Bytes text) = text := by
  induction text with
  | nil => rw [utf8Bytes, List.flatMap_nil, decodeUtf8]
  | cons c text ih =>
    rw [utf8Bytes, List.flatMap_cons, decodeUtf8_char]
    exact congrArg (c :: ·) ih

/-! ## Unquoting -/

/-- `unquote(text)` -/
def unquote (text : List Char) : String := String.ofList (unquoteFrom [] text)

/-- A character of the alphabet that starts no escape stands for itself. -/
theorem unquoteFrom_plain (bytes : List ℕ) {c : Char} (low : c.toNat < 128) (plain : c ≠ '%') (cs : List Char) :
    unquoteFrom bytes (c :: cs) = unquoteFrom (bytes ++ [c.toNat]) cs := by
  rw [unquoteFrom]
  · exact if_neg (by omega)
  · intro x y rest same
    exact (plain same).elim

theorem unquoteFrom_escape (bytes : List ℕ) {x y : Char} {high low : ℕ} (first : hexValue x = some high)
    (second : hexValue y = some low) (cs : List Char) :
    unquoteFrom bytes ('%' :: x :: y :: cs) = unquoteFrom (bytes ++ [16 * high + low]) cs := by
  rw [unquoteFrom, first, second]
  rfl

end ApiManger.Python
