import ApiManger.Python.Canonical
import ApiManger.Python.Scan
import ApiManger.Python.Url

/-!
# JSON text

`json.dumps(value, ensure_ascii=False, sort_keys=True, indent=2, separators=(",", ": "))` and
`json.loads`. What was written is read back, with its entries in order. The text that stands for
a float is a parameter of the reader, since floats are kept as the text that is written for them.
-/

namespace ApiManger.Python

/-! ## Writing -/

variable (n : ℕ)

def hexChar : Char := if n < 10 then Char.ofNat (48 + n) else Char.ofNat (87 + n)

/-- `ESCAPE_DCT` -/
def escapeChar (c : Char) : List Char :=
  if c == '"' then ['\\', '"']
  else if c == '\\' then ['\\', '\\']
  else if c == '\n' then ['\\', 'n']
  else if c == '\r' then ['\\', 'r']
  else if c == '\t' then ['\\', 't']
  else if c == '\x08' then ['\\', 'b']
  else if c == '\x0c' then ['\\', 'f']
  else if c.toNat < 32 then ['\\', 'u', '0', '0', hexChar (c.toNat / 16), hexChar (c.toNat % 16)]
  else [c]

def writeText (text : String) : List Char := '"' :: (text.toList.flatMap escapeChar ++ ['"'])

def newline (level : ℕ) : List Char := '\n' :: List.replicate (2 * level) ' '

mutual

/-- A document at a level of indentation. -/
def Json.write : ℕ → Json → List Char
  | _, .null => "null".toList
  | _, .bool b => (if b then "true" else "false").toList
  | _, .int n => (toString n).toList
  | _, .float t => t.toList
  | _, .str s => writeText s
  | level, .arr items =>
    '[' :: (Json.writeItems (level + 1) [] items ++ ((if items.isEmpty then [] else newline level) ++ [']']))
  | level, .obj fields =>
    '\x7b' :: (Json.writeFields (level + 1) [] fields ++ ((if fields.isEmpty then [] else newline level) ++ ['\x7d']))

/-- Items on lines of their own, the first of them after `front`. -/
def Json.writeItems : ℕ → List Char → List Json → List Char
  | _, _, [] => []
  | level, front, value :: rest => front ++ (newline level ++ (value.write level ++ Json.writeItems level [','] rest))

def Json.writeFields : ℕ → List Char → List (String × Json) → List Char
  | _, _, [] => []
  | level, front, (key, value) :: rest =>
    front ++ (newline level ++ (writeText key ++ (':' :: ' ' :: (value.write level ++ Json.writeFields level [','] rest))))

end

/-- `json.dumps(value, ensure_ascii=False, sort_keys=True, indent=2, separators=(",", ": "))` -/
def Json.dumps (value : Json) : String := String.ofList (value.canonical.write 0)

/-! ## Reading -/

def isJsonSpace (c : Char) : Bool := c == ' ' || c == '\t' || c == '\n' || c == '\r'

def skipSpace (cs : List Char) : List Char := cs.dropWhile isJsonSpace

/-- `_decode_uXXXX` -/
def hexCode (a b c d : Char) : Option ℕ := do
  return (((← hexValue a) * 16 + (← hexValue b)) * 16 + (← hexValue c)) * 16 + (← hexValue d)

/-- `BACKSLASH` -/
def unescaped : Char → Option Char
  | '"' => some '"'
  | '\\' => some '\\'
  | '/' => some '/'
  | 'b' => some '\x08'
  | 'f' => some '\x0c'
  | 'n' => some '\n'
  | 'r' => some '\r'
  | 't' => some '\t'
  | _ => none

/-- `scanstring`, after the opening quote. Half a surrogate pair is no character. -/
def readString : List Char → Option (List Char × List Char)
  | '"' :: rest => some ([], rest)
  | '\\' :: 'u' :: a :: b :: c :: d :: rest => do
    let code ← hexCode a b c d
    if 0xd800 ≤ code && code < 0xdc00 then
      match rest with
      | '\\' :: 'u' :: e :: f :: g :: h :: rest => do
        let low ← hexCode e f g h
        if 0xdc00 ≤ low && low < 0xe000 then
          (readString rest).map fun r => (Char.ofNat (0x10000 + (code - 0xd800) * 0x400 + (low - 0xdc00)) :: r.1, r.2)
        else none
      | _ => none
    else if 0xdc00 ≤ code && code < 0xe000 then none
    else (readString rest).map fun r => (Char.ofNat code :: r.1, r.2)
  | '\\' :: c :: rest => do
    let plain ← unescaped c
    (readString rest).map fun r => (plain :: r.1, r.2)
  | c :: rest => if c.toNat < 32 then none else (readString rest).map fun r => (c :: r.1, r.2)
  | [] => none

/-! `NUMBER_RE` -/

def readSign : List Char → List Char × List Char
  | c :: cs => if c == '-' then ([c], cs) else ([], c :: cs)
  | [] => ([], [])

def readWhole : List Char → Option (List Char × List Char)
  | c :: cs =>
    if c == '0' then some ([c], cs)
    else if c.isDigit then some (c :: cs.takeWhile Char.isDigit, cs.dropWhile Char.isDigit)
    else none
  | [] => none

def readFraction : List Char → List Char × List Char
  | c :: cs =>
    if c == '.' && !(cs.takeWhile Char.isDigit).isEmpty then (c :: cs.takeWhile Char.isDigit, cs.dropWhile Char.isDigit)
    else ([], c :: cs)
  | [] => ([], [])

def readExponentSign : List Char → List Char × List Char
  | c :: cs => if c == '-' || c == '+' then ([c], cs) else ([], c :: cs)
  | [] => ([], [])

def readExponent : List Char → List Char × List Char
  | e :: cs =>
    let signed := readExponentSign cs
    if (e == 'e' || e == 'E') && !(signed.2.takeWhile Char.isDigit).isEmpty then
      (e :: (signed.1 ++ signed.2.takeWhile Char.isDigit), signed.2.dropWhile Char.isDigit)
    else ([], e :: cs)
  | [] => ([], [])

/-- The parts of a number: what an integer has, what only a float has, and the rest. -/
def splitNumber (cs : List Char) : Option (List Char × List Char × List Char) :=
  let signed := readSign cs
  (readWhole signed.2).map fun whole =>
    let fraction := readFraction whole.2
    let exponent := readExponent fraction.2
    (signed.1 ++ whole.1, fraction.1 ++ exponent.1, exponent.2)

/-- `_match_number`; `float` has the text that is written for the float of a text. -/
def readNumber (float : String → String) (cs : List Char) : Option (Json × List Char) :=
  match splitNumber cs with
  | none => none
  | some (whole, [], rest) => (readInt whole).map fun n => (.int n, rest)
  | some (whole, part, rest) => some (.float (float (String.ofList (whole ++ part))), rest)

def jsonLiterals : List (String × Json) :=
  [("null", .null), ("true", .bool true), ("false", .bool false), ("NaN", .float "NaN"), ("Infinity", .float "Infinity"),
    ("-Infinity", .float "-Infinity")]

/-- `_scan_once`, where no text, list or object begins. -/
def readLiteral (float : String → String) (cs : List Char) : Option (Json × List Char) :=
  match jsonLiterals.find? fun e => e.1.toList.isPrefixOf cs with
  | some (text, value) => some (value, cs.drop text.toList.length)
  | none => readNumber float cs

/-- `dict(pairs)` -/
def dictFrom (pairs : List (String × Json)) : Dict := pairs.foldl (fun d e => Dict.set d e.1 e.2) []

mutual

/-- `_scan_once` -/
def Json.read (float : String → String) : ℕ → List Char → Option (Json × List Char)
  | 0, _ => none
  | _ + 1, '"' :: rest => (readString rest).map fun r => (.str (String.ofList r.1), r.2)
  | fuel + 1, '[' :: rest => match skipSpace rest with
    | ']' :: rest => some (.arr [], rest)
    | cs => (Json.readItems float fuel cs).map fun r => (.arr r.1, r.2)
  | fuel + 1, '\x7b' :: rest => match skipSpace rest with
    | '\x7d' :: rest => some (.obj [], rest)
    | cs => (Json.readFields float fuel cs).map fun r => (.obj (dictFrom r.1), r.2)
  | _ + 1, cs => readLiteral float cs

/-- `JSONArray`, after the opening bracket. -/
def Json.readItems (float : String → String) : ℕ → List Char → Option (List Json × List Char)
  | 0, _ => none
  | fuel + 1, cs => do
    let (value, rest) ← Json.read float fuel cs
    match skipSpace rest with
    | ']' :: rest => some ([value], rest)
    | ',' :: rest => (Json.readItems float fuel (skipSpace rest)).map fun r => (value :: r.1, r.2)
    | _ => none

/-- `JSONObject`, after the opening brace. -/
def Json.readFields (float : String → String) : ℕ → List Char → Option (List (String × Json) × List Char)
  | fuel + 1, '"' :: rest => do
    let (key, rest) ← readString rest
    match skipSpace rest with
    | ':' :: rest => do
      let (value, rest) ← Json.read float fuel (skipSpace rest)
      match skipSpace rest with
      | '\x7d' :: rest => some ([(String.ofList key, value)], rest)
      | ',' :: rest =>
        (Json.readFields float fuel (skipSpace rest)).map fun r => ((String.ofList key, value) :: r.1, r.2)
      | _ => none
    | _ => none
  | _, _ => none

end

/-- `json.loads(text)` -/
def Json.loads (float : String → String) (text : String) : Option Json :=
  match Json.read float (text.toList.length + 1) (skipSpace text.toList) with
  | some (value, rest) => if (skipSpace rest).isEmpty then some value else none
  | none => none

/-! ## Texts -/

theorem hexValue_hexChar : ∀ n < 16, hexValue (hexChar n) = some n := by decide

/-- What was written for a character is read as it. -/
theorem readString_escapeChar (c : Char) (rest : List Char) :
    readString (escapeChar c ++ rest) = (readString rest).map fun r => (c :: r.1, r.2) := by
  unfold escapeChar
  split
  · next same => rw [beq_iff_eq.mp same]; rfl
  next noQuote =>
  split
  · next same => rw [beq_iff_eq.mp same]; rfl
  next noSlash =>
  split
  · next same => rw [beq_iff_eq.mp same]; rfl
  split
  · next same => rw [beq_iff_eq.mp same]; rfl
  split
  · next same => rw [beq_iff_eq.mp same]; rfl
  split
  · next same => rw [beq_iff_eq.mp same]; rfl
  split
  · next same => rw [beq_iff_eq.mp same]; rfl
  split
  · next low =>
    have code : hexCode '0' '0' (hexChar (c.toNat / 16)) (hexChar (c.toNat % 16)) = some c.toNat := by
      unfold hexCode
      rw [hexValue_hexChar _ (by omega), hexValue_hexChar _ (by omega), show hexValue '0' = some 0 from by decide]
      change some (((0 * 16 + 0) * 16 + c.toNat / 16) * 16 + c.toNat % 16) = _
      congr 1
      omega
    change readString ('\\' :: 'u' :: '0' :: '0' :: hexChar (c.toNat / 16) :: hexChar (c.toNat % 16) :: rest) = _
    rw [readString, code, Option.bind_eq_bind, Option.bind_some]
    have scalar : (decide (0xd800 ≤ c.toNat) && decide (c.toNat < 0xdc00)) = false := by
      simp only [Bool.and_eq_false_iff, decide_eq_false_iff_not]
      omega
    have low_scalar : (decide (0xdc00 ≤ c.toNat) && decide (c.toNat < 0xe000)) = false := by
      simp only [Bool.and_eq_false_iff, decide_eq_false_iff_not]
      omega
    rw [scalar, low_scalar, if_neg (by decide), if_neg (by decide), Char.ofNat_toNat]
  · next high =>
    change readString (c :: rest) = _
    rw [readString.eq_def]
    split
    · next same => cases (List.cons.inj same).1; exact absurd rfl noQuote
    · next same => cases (List.cons.inj same).1; exact absurd rfl noSlash
    · next same => cases (List.cons.inj same).1; exact absurd rfl noSlash
    · next same =>
      obtain ⟨rfl, rfl⟩ := List.cons.inj same
      rw [if_neg high]
    · next same => nomatch same

/-- What was written for a character is read as it. -/
def ReadsBack (escape : Char → List Char) : Prop :=
  ∀ (c : Char) (rest : List Char), readString (escape c ++ rest) = (readString rest).map fun r => (c :: r.1, r.2)

theorem readString_flatMap {escape : Char → List Char} (readsBack : ReadsBack escape) (cs rest : List Char) :
    readString (cs.flatMap escape ++ '"' :: rest) = some (cs, rest) := by
  induction cs with
  | nil => rfl
  | cons c cs ih => rw [List.flatMap_cons, List.append_assoc, readsBack, ih, Option.map_some]

/-! ## Space -/

theorem skipSpace_space {space : List Char} (isSpace : ∀ c ∈ space, isJsonSpace c = true) (rest : List Char) :
    skipSpace (space ++ rest) = skipSpace rest := by
  induction space with
  | nil => rfl
  | cons c space ih =>
    rw [List.cons_append, skipSpace, List.dropWhile_cons_of_pos (isSpace c List.mem_cons_self)]
    exact ih fun d mem => isSpace d (List.mem_cons_of_mem c mem)

theorem skipSpace_solid {c : Char} (solid : isJsonSpace c = false) (rest : List Char) : skipSpace (c :: rest) = c :: rest :=
  List.dropWhile_cons_of_neg (Bool.eq_false_iff.mp solid)

/-! ## Numbers -/

/-- What may stand behind a number. -/
def EndsNumber (rest : List Char) : Prop :=
  ∀ c, rest.head? = some c → c.isDigit = false ∧ c ≠ '.' ∧ c ≠ 'e' ∧ c ≠ 'E' ∧ c ≠ '+' ∧ c ≠ '-'

theorem EndsNumber.digit {rest : List Char} (ends : EndsNumber rest) :
    rest.takeWhile Char.isDigit = [] ∧ rest.dropWhile Char.isDigit = rest := by
  cases rest with
  | nil => exact ⟨rfl, rfl⟩
  | cons c rest =>
    have other : ¬ c.isDigit = true := Bool.eq_false_iff.mp (ends c rfl).1
    exact ⟨List.takeWhile_cons_of_neg other, List.dropWhile_cons_of_neg other⟩

section
variable (cs : List Char) {rest : List Char} (ends : EndsNumber rest)
include ends

/-- The digits in front of more that ends a number. -/
theorem takeDigits_append : (cs ++ rest).takeWhile Char.isDigit = cs.takeWhile Char.isDigit := by
  induction cs with
  | nil => exact ends.digit.1
  | cons c cs ih => rw [List.cons_append, List.takeWhile_cons, List.takeWhile_cons, ih]

theorem dropDigits_append : (cs ++ rest).dropWhile Char.isDigit = cs.dropWhile Char.isDigit ++ rest := by
  induction cs with
  | nil => exact ends.digit.2
  | cons c cs ih =>
    rw [List.cons_append, List.dropWhile_cons, List.dropWhile_cons, ih]
    split <;> rfl

theorem readSign_append : readSign (cs ++ rest) = ((readSign cs).1, (readSign cs).2 ++ rest) := by
  cases cs with
  | nil =>
    cases rest with
    | nil => rfl
    | cons c rest => exact if_neg (by simpa using (ends c rfl).2.2.2.2.2)
  | cons c cs =>
    rw [List.cons_append, readSign, readSign]
    split <;> rfl

theorem readWhole_append : readWhole (cs ++ rest) = (readWhole cs).map fun r => (r.1, r.2 ++ rest) := by
  cases cs with
  | nil =>
    cases rest with
    | nil => rfl
    | cons c rest =>
      have other := (ends c rfl).1
      have zero : c ≠ '0' := by
        rintro rfl
        cases other
      rw [List.nil_append, readWhole, if_neg (by simpa using zero), if_neg (Bool.eq_false_iff.mp other)]
      rfl
  | cons c cs =>
    rw [List.cons_append, readWhole, readWhole, takeDigits_append cs ends, dropDigits_append cs ends]
    split
    · rfl
    · split <;> rfl

theorem readFraction_append : readFraction (cs ++ rest) = ((readFraction cs).1, (readFraction cs).2 ++ rest) := by
  cases cs with
  | nil =>
    cases rest with
    | nil => rfl
    | cons c rest => exact if_neg (by simp [(ends c rfl).2.1])
  | cons c cs =>
    rw [List.cons_append, readFraction, readFraction, takeDigits_append cs ends, dropDigits_append cs ends]
    split <;> rfl

theorem readExponentSign_append :
    readExponentSign (cs ++ rest) = ((readExponentSign cs).1, (readExponentSign cs).2 ++ rest) := by
  cases cs with
  | nil =>
    cases rest with
    | nil => rfl
    | cons c rest => exact if_neg (by simp [(ends c rfl).2.2.2.2])
  | cons c cs =>
    rw [List.cons_append, readExponentSign, readExponentSign]
    split <;> rfl

theorem readExponent_append : readExponent (cs ++ rest) = ((readExponent cs).1, (readExponent cs).2 ++ rest) := by
  cases cs with
  | nil =>
    cases rest with
    | nil => rfl
    | cons c rest => exact if_neg (by simp [(ends c rfl).2.2.1, (ends c rfl).2.2.2.1])
  | cons c cs =>
    rw [List.cons_append, readExponent, readExponent, readExponentSign_append cs ends]
    dsimp only
    rw [takeDigits_append _ ends, dropDigits_append _ ends]
    split <;> rfl

/-- A number is split before what ends it. -/
theorem splitNumber_append : splitNumber (cs ++ rest) = (splitNumber cs).map fun r => (r.1, r.2.1, r.2.2 ++ rest) := by
  unfold splitNumber
  dsimp only
  rw [readSign_append cs ends]
  dsimp only
  rw [readWhole_append _ ends, Option.map_map, Option.map_map]
  congr 1
  funext whole
  rw [Function.comp_apply, Function.comp_apply]
  dsimp only
  rw [readFraction_append _ ends]
  dsimp only
  rw [readExponent_append _ ends]

end

variable {cs : List Char}

/-- The parts of a number make it up. -/
theorem splitNumber_parts {whole part rest : List Char} (split_ : splitNumber cs = some (whole, part, rest)) :
    cs = whole ++ part ++ rest := by
  have sign : ∀ cs, (readSign cs).1 ++ (readSign cs).2 = cs := by
    intro cs
    cases cs with
    | nil => rfl
    | cons c cs => rw [readSign]; split <;> rfl
  have digits : ∀ cs r, readWhole cs = some r → r.1 ++ r.2 = cs := by
    intro cs r reads
    cases cs with
    | nil => nomatch reads
    | cons c cs =>
      rw [readWhole] at reads
      split at reads
      · rw [← Option.some.inj reads]
        rfl
      · split at reads
        · rw [← Option.some.inj reads]
          exact congrArg (c :: ·) List.takeWhile_append_dropWhile
        · nomatch reads
  have fraction : ∀ cs, (readFraction cs).1 ++ (readFraction cs).2 = cs := by
    intro cs
    cases cs with
    | nil => rfl
    | cons c cs =>
      rw [readFraction]
      split
      · exact congrArg (c :: ·) List.takeWhile_append_dropWhile
      · rfl
  have exponentSign : ∀ cs, (readExponentSign cs).1 ++ (readExponentSign cs).2 = cs := by
    intro cs
    cases cs with
    | nil => rfl
    | cons c cs => rw [readExponentSign]; split <;> rfl
  have exponent : ∀ cs, (readExponent cs).1 ++ (readExponent cs).2 = cs := by
    intro cs
    cases cs with
    | nil => rfl
    | cons c cs =>
      rw [readExponent]
      split
      · rw [List.cons_append, List.append_assoc, List.takeWhile_append_dropWhile, exponentSign]
      · rfl
  unfold splitNumber at split_
  obtain ⟨r, reads, same⟩ := Option.map_eq_some_iff.mp split_
  obtain ⟨whole_same, same⟩ := Prod.mk.inj same
  obtain ⟨part_same, rest_same⟩ := Prod.mk.inj same
  have back := digits _ _ reads
  rw [← whole_same, ← part_same, ← rest_same, List.append_assoc, List.append_assoc, List.append_assoc, exponent, fraction, back, sign]

/-- No number but zero is written with a zero in front. -/
theorem toDigits_head : ∀ cs, Nat.toDigits 10 n = '0' :: cs → cs = [] := by
  induction n using Nat.strongRecOn with
  | ind n ih =>
    intro cs here
    by_cases small : n < 10
    · rw [Nat.toDigits_of_lt_base small] at here
      exact (List.cons.inj here).2.symm
    · rw [Nat.toDigits_of_base_le (by decide) (by omega)] at here
      cases front : Nat.toDigits 10 (n / 10) with
      | nil => exact absurd front Nat.toDigits_ne_nil
      | cons c more =>
        rw [front] at here
        obtain ⟨rfl, -⟩ := List.cons.inj here
        have alone := ih (n / 10) (by omega) more front
        -- a number below ten that is written as a zero is zero
        have zero : Nat.ofDigitChars 10 (Nat.toDigits 10 (n / 10)) 0 = 0 := by
          rw [front, alone]
          rfl
        rw [Nat.ofDigitChars_ten_toDigits] at zero
        omega

/-- The digits of a number are a whole number. -/
theorem readWhole_toDigits : readWhole (Nat.toDigits 10 n) = some (Nat.toDigits 10 n, []) := by
  have digits := digits_isDigit n
  cases here : Nat.toDigits 10 n with
  | nil => exact absurd here Nat.toDigits_ne_nil
  | cons c cs =>
    rw [here] at digits
    rw [readWhole]
    split
    · next zero =>
      rw [beq_iff_eq.mp zero] at here ⊢
      rw [toDigits_head n cs here]
    · have tail : ∀ d ∈ cs, d.isDigit = true := fun d mem => digits d (.tail _ mem)
      have stop : ∀ d, ([] : List Char).head? = some d → d.isDigit = false := fun _ none_ => nomatch none_
      have all := takeWhile_append_stop tail stop
      have left := dropWhile_append_stop tail stop
      rw [List.append_nil] at all left
      rw [if_pos (digits c (.head _)), all, left]

/-- The digits of a number behind a sign. -/
theorem splitNumber_digits : splitNumber (Nat.toDigits 10 n) = some (Nat.toDigits 10 n, [], []) ∧
    splitNumber ('-' :: Nat.toDigits 10 n) = some ('-' :: Nat.toDigits 10 n, [], []) := by
  have digits := digits_isDigit n
  have whole := readWhole_toDigits n
  constructor
  · cases here : Nat.toDigits 10 n with
    | nil => exact absurd here Nat.toDigits_ne_nil
    | cons c cs =>
      have unsigned : c ≠ '-' := by
        rintro rfl
        exact absurd (digits '-' (here ▸ List.mem_cons_self)) (by decide)
      rw [here] at whole
      unfold splitNumber
      dsimp only
      rw [readSign, if_neg (by simpa using unsigned), whole]
      rfl
  · unfold splitNumber
    dsimp only
    rw [readSign, if_pos (by decide), whole]
    rfl

theorem readInt_digits : readInt (Nat.toDigits 10 n) = some (n : Int) ∧
    readInt ('-' :: Nat.toDigits 10 n) = some (-(n : Int)) := by
  have digits := digits_isDigit n
  have read := readDigits_toDigits n
  cases here : Nat.toDigits 10 n with
  | nil => exact absurd here Nat.toDigits_ne_nil
  | cons c cs =>
    rw [here] at read digits
    have digit := digits c List.mem_cons_self
    constructor
    · rw [readInt.eq_def]
      split
      · next same => cases (List.cons.inj same).1; cases digit
      · next same => cases (List.cons.inj same).1; cases digit
      · next same =>
        obtain ⟨rfl, rfl⟩ := List.cons.inj same
        rw [if_pos digit, read]
        rfl
      · next same => nomatch same
    · rw [readInt, if_pos digit, read]
      rfl

theorem toString_int (n : Int) : (toString n).toList = Nat.toDigits 10 n.natAbs ∧ n = n.natAbs ∨
    (toString n).toList = '-' :: Nat.toDigits 10 n.natAbs ∧ n = -n.natAbs := by
  cases n with
  | ofNat m => exact .inl ⟨Nat.toList_repr, rfl⟩
  | negSucc m =>
    refine .inr ⟨?_, rfl⟩
    change ("-" ++ Nat.repr (m + 1)).toList = _
    rw [String.toList_append, Nat.toList_repr]
    rfl

/-! ## Documents -/

/-- The text of a float, which is read as it is. -/
def isFloat (float : String → String) (t : String) : Bool :=
  t == "Infinity" || t == "-Infinity" ||
    (match splitNumber t.toList with
      | some (_, part, rest) => !part.isEmpty && rest.isEmpty
      | none => false) && float t == t

mutual

/-- The document is one that JSON text has: every object has each of its keys once, and floats are numbers. -/
def Json.isDocument (float : String → String) : Json → Bool
  | .float t => isFloat float t
  | .arr items => Json.areDocuments float items
  | .obj fields => decide (fields.map (·.1)).Nodup && Json.haveDocuments float fields
  | _ => true

def Json.areDocuments (float : String → String) : List Json → Bool
  | [] => true
  | value :: rest => value.isDocument float && Json.areDocuments float rest

def Json.haveDocuments (float : String → String) : List (String × Json) → Bool
  | [] => true
  | (_, value) :: rest => value.isDocument float && Json.haveDocuments float rest

end

/-- Keys that are there once make the dictionary of their entries. -/
theorem dictFrom_nodup {pairs : Dict} (distinct : (pairs.map (·.1)).Nodup) : dictFrom pairs = pairs := by
  have from_front : ∀ (front back : Dict), ((front ++ back).map (·.1)).Nodup →
      back.foldl (fun d e => Dict.set d e.1 e.2) front = front ++ back := by
    intro front back
    induction back generalizing front with
    | nil => exact fun _ => (List.append_nil front).symm
    | cons e rest ih =>
      intro distinct
      have absent : front.any (·.1 == e.1) = false := by
        rw [List.map_append, List.map_cons] at distinct
        rw [List.any_eq_false]
        intro other mem same
        have apart := (List.nodup_append.mp distinct).2.2 other.1 (List.mem_map_of_mem mem) e.1 List.mem_cons_self
        exact apart (beq_iff_eq.mp same)
      rw [List.foldl_cons, Dict.set, if_neg (Bool.eq_false_iff.mp absent), ih, List.append_assoc]
      · rfl
      · rw [List.append_assoc]
        exact distinct
  exact from_front [] pairs distinct

/-- A number begins with a digit or a sign before one. -/
def StartsNumber (cs : List Char) : Prop :=
  ∃ c tail, cs = c :: tail ∧ (c.isDigit = true ∨ c = '-' ∧ ∃ d more, tail = d :: more ∧ d.isDigit = true)

theorem startsNumber_of_split {parts : List Char × List Char × List Char}
    (number : splitNumber cs = some parts) : StartsNumber cs := by
  have digit_of : ∀ c tail r, readWhole (c :: tail) = some r → c.isDigit = true := by
    intro c tail r whole
    rw [readWhole] at whole
    split at whole
    · next zero => rw [beq_iff_eq.mp zero]; decide
    · split at whole
      · next digit => exact digit
      · nomatch whole
  unfold splitNumber at number
  obtain ⟨whole, reads, -⟩ := Option.map_eq_some_iff.mp number
  cases cs with
  | nil => nomatch reads
  | cons c tail =>
    rw [readSign] at reads
    split at reads
    · next minus =>
      dsimp only at reads
      cases tail with
      | nil => nomatch reads
      | cons d more => exact ⟨c, d :: more, rfl, .inr ⟨beq_iff_eq.mp minus, d, more, rfl, digit_of d more whole reads⟩⟩
    · exact ⟨c, tail, rfl, .inl (digit_of c tail whole reads)⟩

theorem readLiteral_number (float : String → String) (starts : StartsNumber cs) :
    readLiteral float cs = readNumber float cs := by
  have none_ : (jsonLiterals.find? fun e => e.1.toList.isPrefixOf cs) = none := by
    rw [List.find?_eq_none]
    intro e mem front
    obtain ⟨more, same⟩ := List.isPrefixOf_iff_prefix.mp front
    obtain ⟨c, tail, rfl, starts⟩ := starts
    have clash : ∀ (d : Char) (more : List Char), d.isDigit = false → d ≠ '-' → d :: more = c :: tail → False := by
      intro d more digit sign same
      obtain ⟨rfl, -⟩ := List.cons.inj same
      rcases starts with starts | ⟨starts, -⟩
      · rw [starts] at digit
        cases digit
      · exact sign starts
    simp only [jsonLiterals, List.mem_cons, List.not_mem_nil, or_false] at mem
    rcases mem with rfl | rfl | rfl | rfl | rfl | rfl
    · exact clash 'n' _ (by decide) (by decide) same
    · exact clash 't' _ (by decide) (by decide) same
    · exact clash 'f' _ (by decide) (by decide) same
    · exact clash 'N' _ (by decide) (by decide) same
    · exact clash 'I' _ (by decide) (by decide) same
    · obtain ⟨rfl, rfl⟩ := List.cons.inj same
      rcases starts with digit | ⟨-, d, more, same, digit⟩
      · cases digit
      · obtain ⟨rfl, -⟩ := List.cons.inj same
        cases digit
  unfold readLiteral
  rw [none_]

theorem read_number (float : String → String) (fuel : ℕ) (starts : StartsNumber cs) :
    Json.read float (fuel + 1) cs = readNumber float cs := by
  rw [← readLiteral_number float starts]
  obtain ⟨c, tail, rfl, starts⟩ := starts
  have other : c ≠ '"' ∧ c ≠ '[' ∧ c ≠ '{' := by
    rcases starts with digit | ⟨rfl, -⟩
    · refine ⟨?_, ?_, ?_⟩ <;> rintro rfl <;> cases digit
    · decide
  rw [Json.read.eq_def]
  split
  · next none_ => exact absurd none_ (Nat.succ_ne_zero fuel)
  · next same => exact absurd (List.cons.inj same).1 other.1
  · next same => exact absurd (List.cons.inj same).1 other.2.1
  · next same => exact absurd (List.cons.inj same).1 other.2.2
  · rfl

/-- What a document is written as begins with a character that is no space and closes no list. -/
def Opens (cs : List Char) : Prop := ∃ c more, cs = c :: more ∧ isJsonSpace c = false ∧ c ≠ ']'

theorem StartsNumber.opens (starts : StartsNumber cs) : Opens cs := by
  obtain ⟨c, tail, rfl, starts⟩ := starts
  refine ⟨c, tail, rfl, ?_⟩
  rcases starts with digit | ⟨rfl, -⟩
  · obtain ⟨low, high⟩ := isDigit_range digit
    constructor
    · unfold isJsonSpace
      simp only [Bool.or_eq_false_iff, beq_eq_false_iff_ne]
      refine ⟨⟨⟨?_, ?_⟩, ?_⟩, ?_⟩ <;> rintro rfl <;> cases digit
    · rintro rfl
      cases digit
  · decide

theorem startsNumber_int (n : Int) : StartsNumber (toString n).toList := by
  obtain ⟨number, signed⟩ := splitNumber_digits n.natAbs
  rcases toString_int n with ⟨same, -⟩ | ⟨same, -⟩
  · rw [same]
    exact startsNumber_of_split number
  · rw [same]
    exact startsNumber_of_split signed

theorem isFloat_cases {float : String → String} {t : String} (number : isFloat float t = true) :
    t = "Infinity" ∨ t = "-Infinity" ∨
      (∃ whole c part, splitNumber t.toList = some (whole, c :: part, [])) ∧ float t = t := by
  unfold isFloat at number
  rcases Bool.or_eq_true_iff.mp number with infinite | finite
  · rcases Bool.or_eq_true_iff.mp infinite with same | same
    · exact .inl (beq_iff_eq.mp same)
    · exact .inr (.inl (beq_iff_eq.mp same))
  · obtain ⟨split_, same⟩ := Bool.and_eq_true_iff.mp finite
    refine .inr (.inr ⟨?_, beq_iff_eq.mp same⟩)
    split at split_
    · next whole part rest here =>
      obtain ⟨some_part, no_rest⟩ := Bool.and_eq_true_iff.mp split_
      rw [List.isEmpty_iff.mp no_rest] at here
      cases part with
      | nil => cases some_part
      | cons c part => exact ⟨whole, c, part, here⟩
    · cases split_

/-! ## Reading what was written -/

section
variable {float : String → String}

variable (fuel : ℕ)

theorem read_literal (rest : List Char) :
    ∀ e ∈ jsonLiterals, Json.read float (fuel + 1) (e.1.toList ++ rest) = some (e.2, rest) := by
  intro e mem
  simp only [jsonLiterals, List.mem_cons, List.not_mem_nil, or_false] at mem
  rcases mem with rfl | rfl | rfl | rfl | rfl | rfl <;> rfl

theorem read_int (n : Int) {rest : List Char} (ends : EndsNumber rest) :
    Json.read float (fuel + 1) ((toString n).toList ++ rest) = some (.int n, rest) := by
  obtain ⟨number, signed⟩ := splitNumber_digits n.natAbs
  obtain ⟨digits, negative⟩ := readInt_digits n.natAbs
  have read : ∀ cs, splitNumber cs = some (cs, [], []) → readInt cs = some n →
      Json.read float (fuel + 1) (cs ++ rest) = some (.int n, rest) := by
    intro cs split_ value
    have whole : splitNumber (cs ++ rest) = some (cs, [], rest) := by
      rw [splitNumber_append cs ends, split_]
      rfl
    rw [read_number float fuel (startsNumber_of_split whole), readNumber, whole]
    dsimp only
    rw [value]
    rfl
  rcases toString_int n with ⟨same, value⟩ | ⟨same, value⟩
  · rw [same]
    exact read _ number (by rw [digits, ← value])
  · rw [same]
    exact read _ signed (by rw [negative, ← value])

theorem read_float {t : String} (number : isFloat float t = true) {rest : List Char} (ends : EndsNumber rest) :
    Json.read float (fuel + 1) (t.toList ++ rest) = some (.float t, rest) := by
  rcases isFloat_cases number with rfl | rfl | ⟨⟨whole, c, part, split_⟩, same⟩
  · exact read_literal fuel rest ("Infinity", .float "Infinity") (by decide)
  · exact read_literal fuel rest ("-Infinity", .float "-Infinity") (by decide)
  · have parts : splitNumber (t.toList ++ rest) = some (whole, c :: part, rest) := by
      rw [splitNumber_append _ ends, split_]
      rfl
    rw [read_number float fuel (startsNumber_of_split parts), readNumber, parts]
    dsimp only
    have whole_text := splitNumber_parts split_
    rw [List.append_nil] at whole_text
    rw [← whole_text, String.ofList_toList, same]

theorem read_array {body : List Char} (opens : Opens (skipSpace body)) :
    Json.read float (fuel + 1) ('[' :: body) = (Json.readItems float fuel (skipSpace body)).map fun r => (.arr r.1, r.2) := by
  obtain ⟨c, more, here, -, open_⟩ := opens
  rw [Json.read, here]
  split
  · next same => exact absurd (List.cons.inj same).1 open_
  · rfl

theorem read_object {body : List Char} (quoted : ∃ more, skipSpace body = '"' :: more) :
    Json.read float (fuel + 1) ('\x7b' :: body) =
      (Json.readFields float fuel (skipSpace body)).map fun r => (.obj (dictFrom r.1), r.2) := by
  obtain ⟨more, here⟩ := quoted
  rw [Json.read, here]
  rfl

theorem Opens.skipSpace {cs : List Char} (opens : Opens cs) (rest : List Char) :
    skipSpace (cs ++ rest) = cs ++ rest := by
  obtain ⟨c, more, rfl, solid, -⟩ := opens
  exact skipSpace_solid solid (more ++ rest)

theorem endsNumber_comma (rest : List Char) : EndsNumber (',' :: rest) := by
  intro c first
  rw [← Option.some.inj first]
  decide

/-- Neither space nor what closes a list or an object goes on a number. -/
theorem endsNumber_space {space : List Char} (isSpace : ∀ c ∈ space, isJsonSpace c = true) {c : Char}
    (closes : c = ']' ∨ c = '\x7d') (rest : List Char) : EndsNumber (space ++ c :: rest) := by
  intro d first
  cases space with
  | nil =>
    rw [← Option.some.inj first]
    rcases closes with rfl | rfl <;> decide
  | cons e space =>
    rw [← Option.some.inj first]
    have is := isSpace e List.mem_cons_self
    simp only [isJsonSpace, Bool.or_eq_true, beq_iff_eq] at is
    rcases is with ((rfl | rfl) | rfl) | rfl <;> decide

/-- An entry of an object, before what comes after its value. -/
theorem readFields_entry {cs key more rest : List Char} {value : Json}
    (text : readString cs = some (key, ':' :: more)) (reads : Json.read float fuel (skipSpace more) = some (value, rest)) :
    Json.readFields float (fuel + 1) ('"' :: cs) = match skipSpace rest with
      | '\x7d' :: rest => some ([(String.ofList key, value)], rest)
      | ',' :: rest =>
        (Json.readFields float fuel (skipSpace rest)).map fun r => ((String.ofList key, value) :: r.1, r.2)
      | _ => none := by
  have colon : skipSpace (':' :: more) = ':' :: more := skipSpace_solid (by decide) more
  rw [Json.readFields, text, Option.bind_eq_bind, Option.bind_some]
  dsimp only
  rw [colon]
  change (Json.read float fuel (skipSpace more)).bind _ = _
  rw [reads]
  rfl

end

/-! ## Layouts -/

/-- A text, with its characters escaped. -/
def quoted (escape : Char → List Char) (text : String) : List Char := '"' :: (text.toList.flatMap escape ++ ['"'])

/-- How a document is laid out: the escapes of a text, and the space before an item and behind a colon. -/
structure Layout where
  escape : Char → List Char
  line : ℕ → List Char
  colon : List Char

mutual

def Json.layout (l : Layout) : ℕ → Json → List Char
  | _, .null => "null".toList
  | _, .bool b => (if b then "true" else "false").toList
  | _, .int n => (toString n).toList
  | _, .float t => t.toList
  | _, .str s => quoted l.escape s
  | level, .arr items =>
    '[' :: (Json.layoutItems l (level + 1) [] items ++ ((if items.isEmpty then [] else l.line level) ++ [']']))
  | level, .obj fields => '\x7b' ::
    (Json.layoutFields l (level + 1) [] fields ++ ((if fields.isEmpty then [] else l.line level) ++ ['\x7d']))

/-- Items, the first of them after `front`. -/
def Json.layoutItems (l : Layout) : ℕ → List Char → List Json → List Char
  | _, _, [] => []
  | level, front, value :: rest =>
    front ++ (l.line level ++ (value.layout l level ++ Json.layoutItems l level [','] rest))

def Json.layoutFields (l : Layout) : ℕ → List Char → List (String × Json) → List Char
  | _, _, [] => []
  | level, front, (key, value) :: rest => front ++ (l.line level ++ (quoted l.escape key ++
    (':' :: (l.colon ++ (value.layout l level ++ Json.layoutFields l level [','] rest)))))

end

/-- The escapes are read back, and the rest is space. -/
structure Layout.Readable (l : Layout) : Prop where
  escape : ReadsBack l.escape
  line : ∀ level, ∀ c ∈ l.line level, isJsonSpace c = true
  colon : ∀ c ∈ l.colon, isJsonSpace c = true

section
variable {float : String → String} {l : Layout}

theorem layout_opens (l : Layout) (level : ℕ) (value : Json) (document : value.isDocument float = true) :
    Opens (value.layout l level) := by
  cases value with
  | null => exact ⟨'n', _, rfl, by decide, by decide⟩
  | bool b => cases b <;> exact ⟨_, _, rfl, by decide, by decide⟩
  | int n => exact (startsNumber_int n).opens
  | float t =>
    rcases isFloat_cases document with rfl | rfl | ⟨⟨whole, c, part, number⟩, -⟩
    · exact ⟨'I', _, rfl, by decide, by decide⟩
    · exact ⟨'-', _, rfl, by decide, by decide⟩
    · exact (startsNumber_of_split number).opens
  | str s => exact ⟨'"', _, rfl, by decide, by decide⟩
  | arr items => exact ⟨'[', _, rfl, by decide, by decide⟩
  | obj fields => exact ⟨'\x7b', _, rfl, by decide, by decide⟩

variable (readable : l.Readable)
include readable

mutual

/-- **Round trip.** What was written at any level is read back. -/
theorem read_layout : (value : Json) → value.isDocument float = true → ∀ (level fuel : ℕ) (rest : List Char),
    (value.layout l level).length ≤ fuel → EndsNumber rest →
      Json.read float (fuel + 1) (value.layout l level ++ rest) = some (value, rest)
  | .null, _, _, fuel, rest, _, _ => read_literal fuel rest ("null", .null) (by decide)
  | .bool true, _, _, fuel, rest, _, _ => read_literal fuel rest ("true", .bool true) (by decide)
  | .bool false, _, _, fuel, rest, _, _ => read_literal fuel rest ("false", .bool false) (by decide)
  | .int n, _, _, fuel, rest, _, ends => read_int fuel n ends
  | .float _, document, _, fuel, rest, _, ends => read_float fuel document ends
  | .str s, _, level, fuel, rest, _, _ => by
    rw [Json.layout, quoted, List.cons_append, List.append_assoc, Json.read]
    change ((readString (s.toList.flatMap l.escape ++ '"' :: rest)).map fun r => (Json.str (String.ofList r.1), r.2)) = _
    rw [readString_flatMap readable.escape, Option.map_some, String.ofList_toList]
  | .arr [], _, _, _, _, _, _ => rfl
  | .arr (value :: more), document, level, fuel, rest, enough, _ => by
    have opens := layout_opens l (level + 1) value (Bool.and_eq_true_iff.mp document).1
    have filled : ¬ (value :: more).isEmpty = true := Bool.false_ne_true
    rw [Json.layout, if_neg filled, List.length_cons, List.length_append, List.length_append, List.length_singleton] at enough
    have items := readItems_layout (value :: more) (List.cons_ne_nil value more) document (level + 1) level fuel rest (by omega)
    rw [Json.layout, if_neg filled, List.cons_append, List.append_assoc, List.append_assoc, read_array]
    · rw [List.singleton_append, items]
      rfl
    · rw [Json.layoutItems, List.nil_append, List.append_assoc, List.append_assoc, skipSpace_space (readable.line _),
        opens.skipSpace]
      obtain ⟨c, tail, same, solid⟩ := opens
      exact ⟨c, _, by rw [same, List.cons_append], solid⟩
  | .obj [], _, _, _, _, _, _ => rfl
  | .obj ((key, value) :: more), document, level, fuel, rest, enough, _ => by
    obtain ⟨distinct, documents⟩ := Bool.and_eq_true_iff.mp document
    have filled : ¬ ((key, value) :: more).isEmpty = true := Bool.false_ne_true
    rw [Json.layout, if_neg filled, List.length_cons, List.length_append, List.length_append, List.length_singleton] at enough
    have fields := readFields_layout ((key, value) :: more) (List.cons_ne_nil _ more) documents (level + 1) level fuel rest
      (by omega)
    rw [Json.layout, if_neg filled, List.cons_append, List.append_assoc, List.append_assoc, read_object]
    · rw [List.singleton_append, fields, Option.map_some, dictFrom_nodup (of_decide_eq_true distinct)]
    · rw [Json.layoutFields, List.nil_append, List.append_assoc, List.append_assoc, skipSpace_space (readable.line _),
        quoted, List.cons_append]
      exact ⟨_, skipSpace_solid (by decide) _⟩

theorem readItems_layout : (items : List Json) → items ≠ [] → Json.areDocuments float items = true →
    ∀ (level outer fuel : ℕ) (tail : List Char), (Json.layoutItems l level [] items).length + 1 < fuel →
      Json.readItems float fuel (skipSpace (Json.layoutItems l level [] items ++ (l.line outer ++ ']' :: tail))) =
        some (items, tail)
  | [], some_, _, _, _, _, _, _ => absurd rfl some_
  | value :: rest, _, documents, level, outer, fuel, tail, enough => by
    obtain ⟨document, later⟩ := Bool.and_eq_true_iff.mp documents
    rw [Json.layoutItems, List.nil_append, List.length_append, List.length_append] at enough
    obtain ⟨k, rfl⟩ : ∃ k, fuel = k + 2 := ⟨fuel - 2, by omega⟩
    rw [Json.layoutItems, List.nil_append, List.append_assoc, List.append_assoc, skipSpace_space (readable.line _),
      (layout_opens l level value document).skipSpace, Json.readItems]
    cases rest with
    | nil =>
      rw [Json.layoutItems, List.nil_append, read_layout value document level k _ (by omega)
        (endsNumber_space (readable.line outer) (.inl rfl) _), Option.bind_eq_bind, Option.bind_some]
      dsimp only
      rw [skipSpace_space (readable.line outer), skipSpace_solid (by decide)]
      rfl
    | cons next rest =>
      have apart : Json.layoutItems l level [','] (next :: rest) = ',' :: Json.layoutItems l level [] (next :: rest) := rfl
      rw [apart, List.length_cons] at enough
      have more := readItems_layout (next :: rest) (List.cons_ne_nil next rest) later level outer (k + 1) tail (by omega)
      rw [apart, List.cons_append, read_layout value document level k _ (by omega) (endsNumber_comma _),
        Option.bind_eq_bind, Option.bind_some]
      dsimp only
      rw [skipSpace_solid (by decide)]
      change (Json.readItems float (k + 1) (skipSpace (Json.layoutItems l level [] (next :: rest) ++
        (l.line outer ++ ']' :: tail)))).map (fun r => (value :: r.1, r.2)) = _
      rw [more]
      rfl

theorem readFields_layout : (fields : List (String × Json)) → fields ≠ [] → Json.haveDocuments float fields = true →
    ∀ (level outer fuel : ℕ) (tail : List Char), (Json.layoutFields l level [] fields).length + 1 < fuel →
      Json.readFields float fuel (skipSpace (Json.layoutFields l level [] fields ++ (l.line outer ++ '\x7d' :: tail))) =
        some (fields, tail)
  | [], some_, _, _, _, _, _, _ => absurd rfl some_
  | (key, value) :: rest, _, documents, level, outer, fuel, tail, enough => by
    obtain ⟨document, later⟩ := Bool.and_eq_true_iff.mp documents
    have value_front : ∀ more, skipSpace (l.colon ++ (value.layout l level ++ more)) = value.layout l level ++ more := by
      intro more
      rw [skipSpace_space readable.colon, (layout_opens l level value document).skipSpace]
    rw [Json.layoutFields, List.nil_append, List.length_append, List.length_append, List.length_cons,
      List.length_append, List.length_append] at enough
    obtain ⟨k, rfl⟩ : ∃ k, fuel = k + 2 := ⟨fuel - 2, by omega⟩
    rw [Json.layoutFields, List.nil_append, List.append_assoc, skipSpace_space (readable.line _), List.append_assoc, List.cons_append,
      List.append_assoc, List.append_assoc, quoted, List.cons_append, List.append_assoc, List.singleton_append,
      skipSpace_solid (by decide)]
    cases rest with
    | nil =>
      have reads := read_layout value document level k _ (by omega)
        (endsNumber_space (readable.line outer) (.inr rfl) tail)
      rw [← value_front] at reads
      rw [Json.layoutFields, List.nil_append, readFields_entry (k + 1) (readString_flatMap readable.escape key.toList _) reads,
        skipSpace_space (readable.line outer), skipSpace_solid (by decide), String.ofList_toList]
      rfl
    | cons next rest =>
      have apart : Json.layoutFields l level [','] (next :: rest) = ',' :: Json.layoutFields l level [] (next :: rest) := rfl
      rw [apart, List.length_cons] at enough
      have more := readFields_layout (next :: rest) (List.cons_ne_nil next rest) later level outer (k + 1) tail (by omega)
      have reads := read_layout value document level k _ (by omega)
        (endsNumber_comma (Json.layoutFields l level [] (next :: rest) ++ (l.line outer ++ '\x7d' :: tail)))
      rw [← value_front] at reads
      rw [apart, List.cons_append, readFields_entry (k + 1) (readString_flatMap readable.escape key.toList _) reads,
        skipSpace_solid (by decide), String.ofList_toList]
      change (Json.readFields float (k + 1) (skipSpace (Json.layoutFields l level [] (next :: rest) ++
        (l.line outer ++ '\x7d' :: tail)))).map (fun r => ((key, value) :: r.1, r.2)) = _
      rw [more]
      rfl

end

end

/-- `indent=2, separators=(",", ": ")` -/
def indented : Layout := ⟨escapeChar, newline, [' ']⟩

mutual

theorem layout_indented (level : ℕ) : (value : Json) → value.layout indented level = value.write level
  | .null | .bool _ | .int _ | .float _ | .str _ => rfl
  | .arr items => by rw [Json.layout, Json.write, layoutItems_indented]; rfl
  | .obj fields => by rw [Json.layout, Json.write, layoutFields_indented]; rfl

theorem layoutItems_indented (level : ℕ) (front : List Char) : (items : List Json) →
    Json.layoutItems indented level front items = Json.writeItems level front items
  | [] => rfl
  | value :: rest => by rw [Json.layoutItems, Json.writeItems, layout_indented, layoutItems_indented]; rfl

theorem layoutFields_indented (level : ℕ) (front : List Char) : (fields : List (String × Json)) →
    Json.layoutFields indented level front fields = Json.writeFields level front fields
  | [] => rfl
  | (key, value) :: rest => by rw [Json.layoutFields, Json.writeFields, layout_indented, layoutFields_indented]; rfl

end

theorem readable_indented : indented.Readable where
  escape := readString_escapeChar
  line level c mem := by
    rcases List.mem_cons.mp mem with rfl | mem
    · decide
    · rw [List.eq_of_mem_replicate mem]
      decide
  colon c mem := by
    rw [List.mem_singleton.mp mem]
    decide

/-! ## Canonical documents -/

section
variable {float : String → String}

theorem areDocuments_iff {items : List Json} : Json.areDocuments float items = true ↔
    ∀ value ∈ items, value.isDocument float = true := by
  induction items with
  | nil => exact ⟨fun _ _ mem => absurd mem List.not_mem_nil, fun _ => rfl⟩
  | cons value rest ih => rw [Json.areDocuments, Bool.and_eq_true_iff, ih, List.forall_mem_cons]

theorem haveDocuments_iff {fields : Dict} : Json.haveDocuments float fields = true ↔
    ∀ e ∈ fields, e.2.isDocument float = true := by
  induction fields with
  | nil => exact ⟨fun _ _ mem => absurd mem List.not_mem_nil, fun _ => rfl⟩
  | cons e rest ih => rw [Json.haveDocuments, Bool.and_eq_true_iff, ih, List.forall_mem_cons]

theorem isDocument_arr {items : List Json} : (Json.arr items).isDocument float = true ↔
    ∀ value ∈ items, value.isDocument float = true := areDocuments_iff

theorem isDocument_obj {fields : Dict} : (Json.obj fields).isDocument float = true ↔
    (fields.map (·.1)).Nodup ∧ ∀ e ∈ fields, e.2.isDocument float = true := by
  rw [Json.isDocument, Bool.and_eq_true_iff, decide_eq_true_iff, haveDocuments_iff]

mutual

theorem isDocument_canonical : (value : Json) → value.isDocument float = true → value.canonical.isDocument float = true
  | .null, _ | .bool _, _ | .int _, _ | .str _, _ => rfl
  | .float _, document => document
  | .arr items, document => by
    rw [Json.canonical, isDocument_arr]
    exact areDocuments_canonical items (isDocument_arr.mp document)
  | .obj fields, document => by
    obtain ⟨distinct, documents⟩ := isDocument_obj.mp document
    rw [Json.canonical, isDocument_obj]
    have keys : (Json.canonicalFields fields).map (·.1) = fields.map (·.1) := by
      rw [Json.canonicalFields_eq, List.map_map]
      rfl
    constructor
    · rw [sortFields, ((List.perm_insertionSort _ (Json.canonicalFields fields)).map _).nodup_iff, keys]
      exact distinct
    · intro e mem
      exact haveDocuments_canonical fields documents e ((List.mem_insertionSort _).mp mem)

theorem areDocuments_canonical : (items : List Json) → (∀ value ∈ items, value.isDocument float = true) →
    ∀ value ∈ Json.canonicalItems items, value.isDocument float = true
  | [], _, _, mem => nomatch mem
  | first :: rest, documents, value, mem => by
    rcases List.mem_cons.mp mem with rfl | mem
    · exact isDocument_canonical first (documents first List.mem_cons_self)
    · exact areDocuments_canonical rest (fun value mem => documents value (List.mem_cons_of_mem _ mem)) value mem

theorem haveDocuments_canonical : (fields : List (String × Json)) → (∀ e ∈ fields, e.2.isDocument float = true) →
    ∀ e ∈ Json.canonicalFields fields, e.2.isDocument float = true
  | [], _, _, mem => nomatch mem
  | (key, first) :: rest, documents, e, mem => by
    rcases List.mem_cons.mp mem with rfl | mem
    · exact isDocument_canonical first (documents (key, first) List.mem_cons_self)
    · exact haveDocuments_canonical rest (fun e mem => documents e (List.mem_cons_of_mem _ mem)) e mem

end

/-- **Text round trip.** The text of a document, with an end of line, is read as its canonical form. -/
theorem loads_dumps {value : Json} (document : value.isDocument float = true) :
    Json.loads float (value.dumps ++ "\n") = some value.canonical := by
  have canonical := isDocument_canonical value document
  have ends : EndsNumber ['\n'] := by
    intro c first
    rw [← Option.some.inj first]
    decide
  have text : (value.dumps ++ "\n").toList = value.canonical.write 0 ++ ['\n'] := by
    rw [String.toList_append, Json.dumps, String.toList_ofList]
    rfl
  have opens := layout_opens indented 0 value.canonical canonical
  have reads := read_layout readable_indented value.canonical canonical 0 (value.canonical.write 0 ++ ['\n']).length ['\n']
  rw [layout_indented] at opens reads
  unfold Json.loads
  rw [text, opens.skipSpace, reads _ ends]
  · rfl
  · rw [List.length_append]
    exact Nat.le_add_right _ _

/-- Documents that are the same have one text. -/
theorem dumps_same {a b : Json} (same : a.Same b) : a.dumps = b.dumps := by
  unfold Json.dumps
  rw [show a.canonical = b.canonical from same]

end

end ApiManger.Python
