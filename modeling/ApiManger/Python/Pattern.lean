import Mathlib.Data.Nat.Notation

/-!
# Regular expressions without groups

`re.compile(…, re.I).search(text)`, for alternatives that are sequences of pieces. The first place counts, there the
first alternative that matches, and a piece takes as much as it can, or as little where it is lazy.
-/

namespace ApiManger.Python

/-- The tables of `re` for texts: `\w`, `\s` and `\d`. -/
structure CharClasses where
  isWord : Char → Bool
  isSpace : Char → Bool
  isDigit : Char → Bool

/-- A piece of a regular expression. -/
inductive Piece where
  | one (p : Char → Bool)
  | optional (p : Char → Bool)
  | many (p : Char → Bool)
  | lazyMany (p : Char → Bool)
  /-- `\b` -/
  | boundary
  /-- `$` -/
  | ending

/-- The character before what is left of a text when some more of it is read. -/
def lastOf (before : Option Char) (read : List Char) : Option Char := read.getLast?.or before

/-- How much of a text a sequence of pieces matches, after the character before it. -/
def matchHere (classes : CharClasses) : List Piece → Option Char → List Char → Option ℕ
  | [], _, _ => some 0
  | .one p :: rest, _, text => match text with
    | c :: more => if p c then (matchHere classes rest (some c) more).map (· + 1) else none
    | [] => none
  | .optional p :: rest, before, text => match text with
    | c :: more =>
      if p c then ((matchHere classes rest (some c) more).map (· + 1)).or (matchHere classes rest before text)
      else matchHere classes rest before text
    | [] => matchHere classes rest before []
  | .many p :: rest, before, text =>
    (List.range ((text.takeWhile p).length + 1)).reverse.findSome? fun n =>
      (matchHere classes rest (lastOf before (text.take n)) (text.drop n)).map (· + n)
  | .lazyMany p :: rest, before, text =>
    (List.range ((text.takeWhile p).length + 1)).findSome? fun n =>
      (matchHere classes rest (lastOf before (text.take n)) (text.drop n)).map (· + n)
  | .boundary :: rest, before, text =>
    if (before.any classes.isWord) != (text.head?.any classes.isWord) then matchHere classes rest before text else none
  | .ending :: rest, before, text =>
    if text == [] || text == ['\n'] then matchHere classes rest before text else none

/-- `pattern.search(text).group(0)`, after the character before the text. -/
def searchFrom (classes : CharClasses) (alternatives : List (List Piece)) (before : Option Char) :
    List Char → Option (List Char)
  | [] => (alternatives.findSome? fun pieces => matchHere classes pieces before []).map fun _ => []
  | c :: text => match alternatives.findSome? fun pieces => matchHere classes pieces before (c :: text) with
    | some n => some ((c :: text).take n)
    | none => searchFrom classes alternatives (some c) text

/-- `pattern.search(text).group(0)` -/
def search (classes : CharClasses) (alternatives : List (List Piece)) (text : List Char) : Option (List Char) :=
  searchFrom classes alternatives none text

/-- `pattern.match(text)` -/
def isMatch (classes : CharClasses) (alternatives : List (List Piece)) (text : List Char) : Bool :=
  alternatives.any fun pieces => (matchHere classes pieces none text).isSome

/-- A character as `re.I` compares it. -/
def foldCase (c : Char) : Char :=
  if c.toNat == 0x130 || c.toNat == 0x131 then 'i' else if c.toNat == 0x17f then 's'
  else if c.toNat == 0x212a then 'k' else c.toLower

/-- The characters that `re.I` takes for one of a pattern. -/
def ignoringCase (c : Char) : Char → Bool := fun d => foldCase d == c.toLower

/-- A text that stands for itself. -/
def literal (text : String) : List Piece := text.toList.map fun c => .one (ignoringCase c)

/-- `.*?` -/
def anythingLazy : Piece := .lazyMany (· != '\n')

/-- `\s+` -/
def someSpace (classes : CharClasses) : List Piece := [.one classes.isSpace, .many classes.isSpace]

/-! ## Characters that begin no match -/

/-- A piece of the sequence cannot match at this character, whatever stands around it. -/
def cannotStart (c : Char) : List Piece → Bool
  | .one p :: _ => !p c
  | .boundary :: rest => cannotStart c rest
  | _ => false

theorem matchHere_cannotStart (classes : CharClasses) {c : Char} (before : Option Char) (text : List Char) :
    ∀ {pieces : List Piece}, cannotStart c pieces = true → matchHere classes pieces before (c :: text) = none
  | .one p :: rest, cannot => by
    have differs : p c = false := by simpa [cannotStart] using cannot
    simp [matchHere, differs]
  | .boundary :: rest, cannot => by
    rw [matchHere, matchHere_cannotStart classes before text (show cannotStart c rest = true from cannot), ite_self]

/-- A search goes over the characters that begin no match. -/
theorem searchFrom_replicate (classes : CharClasses) {alternatives : List (List Piece)} {c : Char}
    (cannot : alternatives.all (cannotStart c) = true) (n : ℕ) (before : Option Char) (text : List Char) :
    searchFrom classes alternatives before (List.replicate n c ++ text) =
      searchFrom classes alternatives (lastOf before (List.replicate n c)) text := by
  induction n generalizing before with
  | zero => rfl
  | succ n ih =>
    have nothing : (alternatives.findSome? fun pieces =>
        matchHere classes pieces before (c :: (List.replicate n c ++ text))) = none :=
      List.findSome?_eq_none_iff.mpr fun pieces mem =>
        matchHere_cannotStart classes before _ (List.all_eq_true.mp cannot pieces mem)
    rw [List.replicate_succ, List.cons_append, searchFrom, nothing]
    show searchFrom classes alternatives (some c) (List.replicate n c ++ text) = _
    rw [ih]
    rw [lastOf, lastOf, List.getLast?_cons, List.getLast?_replicate]
    cases n <;> simp

end ApiManger.Python
