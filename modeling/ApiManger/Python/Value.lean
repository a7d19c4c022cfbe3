import Mathlib.Algebra.GroupWithZero.Nat
import Mathlib.Data.List.Nodup
import Mathlib.Data.List.Basic
import Mathlib.Data.List.Forall2

/-!
# Python values and exceptions

`Json` is a decoded JSON document: what `response.json()` returns, what a Mongo
`DictField` stores, and what evidence dictionaries carry. A `Dict` is a mapping in
insertion order; lookups take the first entry of a key, so a duplicate never
matters. Floats are kept as the text `json.dumps` writes for them, since the code
only compares them.
-/

namespace ApiManger.Python

inductive Json where
  | null
  | bool (b : Bool)
  | int (n : Int)
  | float (text : String)
  | str (s : String)
  | arr (items : List Json)
  | obj (fields : List (String × Json))

abbrev Dict := List (String × Json)

mutual

def Json.decEq : (a b : Json) → Decidable (a = b)
  | .null, .null => isTrue rfl
  | .bool a, .bool b => decidable_of_iff (a = b) (by simp)
  | .int a, .int b => decidable_of_iff (a = b) (by simp)
  | .float a, .float b => decidable_of_iff (a = b) (by simp)
  | .str a, .str b => decidable_of_iff (a = b) (by simp)
  | .arr a, .arr b => match Json.decEqItems a b with
    | isTrue h => isTrue (h ▸ rfl)
    | isFalse h => isFalse fun e => h (Json.arr.inj e)
  | .obj a, .obj b => match Json.decEqFields a b with
    | isTrue h => isTrue (h ▸ rfl)
    | isFalse h => isFalse fun e => h (Json.obj.inj e)
  | .null, .bool _ | .null, .int _ | .null, .float _ | .null, .str _ | .null, .arr _
  | .null, .obj _ | .bool _, .null | .bool _, .int _ | .bool _, .float _ | .bool _, .str _
  | .bool _, .arr _ | .bool _, .obj _ | .int _, .null | .int _, .bool _ | .int _, .float _
  | .int _, .str _ | .int _, .arr _ | .int _, .obj _ | .float _, .null | .float _, .bool _
  | .float _, .int _ | .float _, .str _ | .float _, .arr _ | .float _, .obj _ | .str _, .null
  | .str _, .bool _ | .str _, .int _ | .str _, .float _ | .str _, .arr _ | .str _, .obj _
  | .arr _, .null | .arr _, .bool _ | .arr _, .int _ | .arr _, .float _ | .arr _, .str _
  | .arr _, .obj _ | .obj _, .null | .obj _, .bool _ | .obj _, .int _ | .obj _, .float _
  | .obj _, .str _ | .obj _, .arr _ => isFalse nofun

def Json.decEqItems : (a b : List Json) → Decidable (a = b)
  | [], [] => isTrue rfl
  | [], _ :: _ | _ :: _, [] => isFalse nofun
  | a :: as, b :: bs => match Json.decEq a b, Json.decEqItems as bs with
    | isTrue h, isTrue hs => isTrue (h ▸ hs ▸ rfl)
    | isFalse h, _ => isFalse fun e => h (List.cons.inj e).1
    | _, isFalse hs => isFalse fun e => hs (List.cons.inj e).2

def Json.decEqFields : (a b : List (String × Json)) → Decidable (a = b)
  | [], [] => isTrue rfl
  | [], _ :: _ | _ :: _, [] => isFalse nofun
  | (k, a) :: as, (l, b) :: bs => match (inferInstance : Decidable (k = l)), Json.decEq a b, Json.decEqFields as bs with
    | isTrue h, isTrue h', isTrue hs => isTrue (h ▸ h' ▸ hs ▸ rfl)
    | isFalse h, _, _ => isFalse fun e => h (Prod.mk.inj (List.cons.inj e).1).1
    | _, isFalse h', _ => isFalse fun e => h' (Prod.mk.inj (List.cons.inj e).1).2
    | _, _, isFalse hs => isFalse fun e => hs (List.cons.inj e).2

end

instance : DecidableEq Json := Json.decEq

/-- `bool(value)`. -/
def Json.truthy : Json → Bool
  | .null => false
  | .bool b => b
  | .int n => n != 0
  | .float t => t != "0.0" && t != "-0.0"
  | .str s => s != ""
  | .arr items => !items.isEmpty
  | .obj fields => !fields.isEmpty

namespace Dict

variable (d : Dict) (key : String) (value : Json)

/-- `d.get(key)`, `none` when the key is absent. -/
def get? : Option Json := (d.find? (·.1 == key)).map (·.2)

/-- `d.get(key)`: the value, or `None`. -/
def get (d : Dict) (key : String) : Json := (get? d key).getD .null

/-- `d[key] = value`: an existing entry keeps its place. -/
def set : Dict :=
  if d.any (·.1 == key) then d.map fun e => if e.1 == key then (e.1, value) else e
  else d ++ [(key, value)]

/-- `bool(d.get(key))`. -/
def truthy : Bool := (get d key).truthy

theorem get?_cons (e : String × Json) (d : Dict) (key : String) :
    get? (e :: d) key = if e.1 == key then some e.2 else get? d key := by
  cases here : e.1 == key <;> simp [get?, here]

theorem get?_append (d d' : Dict) (key : String) : get? (d ++ d') key = (get? d key).or (get? d' key) := by
  simp only [get?, List.find?_append]
  cases d.find? (·.1 == key) <;> rfl

@[simp] theorem get?_set_self :
    get? (set d key value) key = some value := by
  induction d with
  | nil => simp [set, get?]
  | cons e d ih =>
    unfold set at ih ⊢
    by_cases here : e.1 = key
    · simp [here, get?_cons]
    · by_cases later : d.any (·.1 == key)
      · rw [if_pos later] at ih
        rw [if_pos (by simp [later]), List.map_cons, get?_cons]
        simpa [here] using ih
      · rw [if_neg later] at ih
        rw [if_neg (by simpa [here] using later), List.cons_append, get?_cons]
        simpa [here] using ih

@[simp] theorem get?_set_ne {key other : String} (ne : other ≠ key) :
    get? (set d key value) other = get? d other := by
  have mapped : get? (d.map fun e => if e.1 == key then (e.1, value) else e) other = get? d other := by
    induction d with
    | nil => rfl
    | cons e d ih =>
      rw [List.map_cons, get?_cons, get?_cons, ih]
      by_cases here : e.1 = key
      · simp [here, Ne.symm ne]
      · simp [here]
  unfold set
  split
  · exact mapped
  · rw [get?_append]
    have new : get? [(key, value)] other = none := by simp [Ne.symm ne, get?]
    rw [new, Option.or_none]

@[simp] theorem get_set_self : get (set d key value) key = value := by
  simp [get]

@[simp] theorem get_set_ne {key other : String} (ne : other ≠ key) :
    get (set d key value) other = get d other := by
  simp [get, get?_set_ne d value ne]

/-- A key that is there once has its value. -/
theorem get?_eq_some_iff {d : Dict} (distinct : (d.map Prod.fst).Nodup) {key : String} {value : Json} :
    get? d key = some value ↔ (key, value) ∈ d := by
  constructor
  · intro found
    obtain ⟨e, first, rfl⟩ := Option.map_eq_some_iff.mp found
    have same : e.1 = key := by simpa using List.find?_some first
    rw [← same]
    exact List.mem_of_find?_eq_some first
  · intro listed
    cases found : d.find? (·.1 == key) with
    | none => exact absurd (beq_self_eq_true key) (List.find?_eq_none.mp found _ listed)
    | some e =>
      have same : e.1 = key := by simpa using List.find?_some found
      have entry := List.inj_on_of_nodup_map distinct (List.mem_of_find?_eq_some found) listed same
      rw [get?, found, entry]
      rfl

/-- Setting a key keeps every key there once. -/
theorem nodup_set {d : Dict} (distinct : (d.map Prod.fst).Nodup) (key : String) (value : Json) :
    ((set d key value).map Prod.fst).Nodup := by
  unfold set
  split
  · have kept : ((d.map fun e => if e.1 == key then (e.1, value) else e).map Prod.fst) = d.map Prod.fst := by
      rw [List.map_map]
      refine List.map_congr_left fun e _ => ?_
      dsimp only [Function.comp_apply]
      split <;> rfl
    rwa [kept]
  · next absent =>
    have fresh : key ∉ d.map Prod.fst := fun listed => by
      obtain ⟨e, mem, same⟩ := List.mem_map.mp listed
      exact absent (List.any_eq_true.mpr ⟨e, mem, beq_iff_eq.mpr same⟩)
    rw [List.map_append, List.map_singleton, List.nodup_append]
    refine ⟨distinct, List.nodup_singleton key, fun a old b new same => ?_⟩
    obtain rfl := List.mem_singleton.mp new
    exact fresh (same ▸ old)

end Dict

mutual

/-- `repr(value)`, for text without quotes or escapes. -/
def Json.pyRepr : Json → String
  | .null => "None"
  | .bool true => "True"
  | .bool false => "False"
  | .int n => toString n
  | .float t => t
  | .str s => "'" ++ s ++ "'"
  | .arr items => "[" ++ ", ".intercalate (Json.reprItems items) ++ "]"
  | .obj fields => "\x7b" ++ ", ".intercalate (Json.reprFields fields) ++ "\x7d"

def Json.reprItems : List Json → List String
  | [] => []
  | x :: xs => x.pyRepr :: Json.reprItems xs

def Json.reprFields : List (String × Json) → List String
  | [] => []
  | (k, x) :: xs => ("'" ++ k ++ "': " ++ x.pyRepr) :: Json.reprFields xs

end

/-- `str(value)`: a string is itself. -/
def Json.pyStr : Json → String
  | .str s => s
  | x => x.pyRepr

/-- `str(value or "")`. -/
def Json.strOrEmpty (x : Json) : String := if x.truthy then x.pyStr else ""

/-- The text of a number or a truth value as the `float` it equals. -/
def Json.numeral? : Json → Option String
  | .bool b => some (if b then "1.0" else "0.0")
  | .int n => some (toString n ++ ".0")
  | .float t => some t
  | _ => none

mutual

/-- `a == b`: numbers by value, dictionaries whatever the order of their entries. -/
def Json.pyEq : Json → Json → Bool
  | .null, .null => true
  | .str s, .str t => s == t
  | .arr items, .arr others => Json.pyEqItems items others
  | .obj fields, .obj others => fields.length == others.length && Json.pyEqFields fields others
  | a, b => match a.numeral?, b.numeral? with
    | some x, some y => x == y
    | _, _ => false

def Json.pyEqItems : List Json → List Json → Bool
  | [], [] => true
  | x :: xs, y :: ys => Json.pyEq x y && Json.pyEqItems xs ys
  | _, _ => false

def Json.pyEqFields : List (String × Json) → Dict → Bool
  | [], _ => true
  | (k, x) :: rest, others => (match Dict.get? others k with
      | some y => Json.pyEq x y
      | none => false) && Json.pyEqFields rest others

end

/-- The bytes `json.dumps` writes for a character. -/
def charLength (c : Char) : Nat :=
  if c ∈ ['"', '\\', '\n', '\r', '\t', '\x08', '\x0c'] then 2
  else if 32 ≤ c.toNat && c.toNat < 127 then 1 else if c.toNat < 0x10000 then 6 else 12

def textLength (s : String) : Nat := 2 + (s.toList.map charLength).sum

mutual

/-- `len(json.dumps(value, ensure_ascii=True).encode("utf-8"))`. -/
def Json.dumpsLength : Json → Nat
  | .null => 4
  | .bool b => if b then 4 else 5
  | .int n => (toString n).length
  | .float t => t.length
  | .str s => textLength s
  | .arr items => 2 + Json.itemsLength items
  | .obj fields => 2 + Json.fieldsLength fields

def Json.itemsLength : List Json → Nat
  | [] => 0
  | [x] => x.dumpsLength
  | x :: xs => x.dumpsLength + 2 + Json.itemsLength xs

def Json.fieldsLength : List (String × Json) → Nat
  | [] => 0
  | [(k, x)] => textLength k + 2 + x.dumpsLength
  | (k, x) :: xs => textLength k + 2 + x.dumpsLength + 2 + Json.fieldsLength xs

end

/-- The exceptions the modelled code tells apart, by class; `other` is any further class. -/
inductive PyError where
  | valueError (message : String)
  | typeError (message : String)
  | keyError (message : String)
  /-- `ExecutionAdapterError` and its subclasses, by class name. -/
  | executionAdapterError (cls : String)
  /-- `ExecutionRequestBlocked`, itself an `ExecutionAdapterError`. -/
  | requestBlocked (reason : String)
  /-- `AccountContextError` and its subclasses, by class name. -/
  | accountContextError (cls : String)
  | other (cls : String)
  deriving DecidableEq

/-! ## Computations that may raise -/

section
variable {ε α β : Type}

variable {x : Except ε α} {f : α → Except ε β}

@[simp] theorem bind_eq_ok {b : β} :
    (x >>= f) = .ok b ↔ ∃ a, x = .ok a ∧ f a = .ok b := by
  cases x <;> simp [bind, Except.bind]

@[simp] theorem throw_ne_ok {e : ε} {a : α} : (throw e : Except ε α) ≠ .ok a := by
  simp [throw, throwThe, MonadExceptOf.throw]

@[simp] theorem map_eq_ok {f : α → β} {b : β} :
    x.map f = .ok b ↔ ∃ a, x = .ok a ∧ f a = b := by
  cases x <;> simp [Except.map]

theorem toOption_eq_some {a : α} : x.toOption = some a ↔ x = .ok a := by
  cases x <;> simp [Except.toOption]

/-- A check that raises, and the code after it. -/
theorem guard_eq_ok {c : Prop} [Decidable c] {e : ε} {x : Except ε β} {b : β} :
    (if c then throw e >>= f else x) = .ok b ↔ ¬c ∧ x = .ok b := by
  split
  · rename_i holds
    simp [holds, throw, throwThe, MonadExceptOf.throw, bind, Except.bind]
  · rename_i fails
    simp [fails]

/-- A branch that raises is not the one taken. -/
theorem raised_or {c : Prop} [Decidable c] {e : ε} {a : α}
    (result : (if c then .error e else x) = .ok a) : ¬c ∧ x = .ok a := by
  split at result
  · nomatch result
  · next fails => exact ⟨fails, result⟩

theorem mapError_ok {ε' : Type} {f : ε → ε'} {a : α}
    (result : x.mapError f = .ok a) : x = .ok a := by
  cases x with
  | error e => nomatch result
  | ok value => rw [Except.ok.injEq]; exact Except.ok.inj result

/-- The results of a computation for each of the items. -/
theorem mapM_ok {xs : List α} {ys : List β} (results : xs.mapM f = .ok ys) :
    List.Forall₂ (fun x y => f x = .ok y) xs ys := by
  induction xs generalizing ys with
  | nil =>
    rw [List.mapM_nil] at results
    cases Except.ok.inj results
    exact .nil
  | cons x rest ih =>
    rw [List.mapM_cons] at results
    obtain ⟨y, head, results⟩ := bind_eq_ok.1 results
    obtain ⟨tail, ofRest, results⟩ := bind_eq_ok.1 results
    cases Except.ok.inj results
    exact .cons head (ih ofRest)

/-- Each result comes from one of the items. -/
theorem forall₂_right {R : α → β → Prop} {as : List α} {bs : List β} (related : List.Forall₂ R as bs) :
    ∀ b ∈ bs, ∃ a ∈ as, R a b := by
  induction related with
  | nil => exact fun _ mem => nomatch mem
  | cons one _ ih =>
    intro b mem
    rcases List.mem_cons.mp mem with rfl | mem
    · exact ⟨_, .head _, one⟩
    · obtain ⟨a, there, holds⟩ := ih b mem
      exact ⟨a, .tail _ there, holds⟩

theorem ok_bind (a : α) (f : α → Except ε β) : (Except.ok a >>= f) = f a := rfl

/-- The items in another order have the same results in another order. -/
theorem mapM_perm {xs xs' : List α} {ys : List β} (perm : xs.Perm xs')
    (results : xs.mapM f = .ok ys) : ∃ ys', xs'.mapM f = .ok ys' ∧ ys.Perm ys' := by
  induction perm generalizing ys with
  | nil => exact ⟨ys, results, .refl ys⟩
  | cons x _ ih =>
    rw [List.mapM_cons] at results
    obtain ⟨y, head, results⟩ := bind_eq_ok.1 results
    obtain ⟨tail, ofRest, results⟩ := bind_eq_ok.1 results
    cases Except.ok.inj results
    obtain ⟨tail', ofRest', same⟩ := ih ofRest
    refine ⟨y :: tail', ?_, same.cons y⟩
    rw [List.mapM_cons, head, ok_bind, ofRest', ok_bind]
    rfl
  | swap x x' rest =>
    simp only [List.mapM_cons] at results
    obtain ⟨y', head', results⟩ := bind_eq_ok.1 results
    obtain ⟨tail, ofTail, results⟩ := bind_eq_ok.1 results
    obtain ⟨y, head, ofTail⟩ := bind_eq_ok.1 ofTail
    obtain ⟨last, ofRest, ofTail⟩ := bind_eq_ok.1 ofTail
    cases Except.ok.inj ofTail
    cases Except.ok.inj results
    refine ⟨y :: y' :: last, ?_, .swap y y' last⟩
    simp only [List.mapM_cons, head, head', ofRest, ok_bind]
    rfl
  | trans _ _ first second =>
    obtain ⟨ys', results', same⟩ := first results
    obtain ⟨ys'', results'', same'⟩ := second results'
    exact ⟨ys'', results'', same.trans same'⟩

/-- What holds at first and is kept by every turn holds after the fold. -/
theorem foldlM_keeps {P : β → Prop} {f : β → α → Except ε β}
    (keeps : ∀ b a b', P b → f b a = .ok b' → P b') {as : List α} {b b' : β} (start : P b)
    (folded : as.foldlM f b = .ok b') : P b' := by
  induction as generalizing b with
  | nil =>
    cases Except.ok.inj folded
    exact start
  | cons a rest ih =>
    rw [List.foldlM_cons] at folded
    obtain ⟨next, turn, folded⟩ := bind_eq_ok.mp folded
    exact ih (keeps b a next start turn) folded

end

/-- `exc.__class__.__name__`. -/
def PyError.className : PyError → String
  | .valueError _ => "ValueError"
  | .typeError _ => "TypeError"
  | .keyError _ => "KeyError"
  | .executionAdapterError cls => cls
  | .requestBlocked _ => "ExecutionRequestBlocked"
  | .accountContextError cls => cls
  | .other cls => cls

/-- `str.isspace` of one character. -/
def isSpace (c : Char) : Bool :=
  let n := c.toNat
  9 ≤ n && n ≤ 13 || 28 ≤ n && n ≤ 32 || n == 0x85 || n == 0xa0 || n == 0x1680 ||
    0x2000 ≤ n && n ≤ 0x200a || n == 0x2028 || n == 0x2029 || n == 0x202f || n == 0x205f || n == 0x3000

/-- `str.strip()`, as characters. -/
def strip (text : String) : List Char :=
  ((text.toList.dropWhile isSpace).reverse.dropWhile isSpace).reverse

/-- Decimal digits, where a single underscore may stand between two. -/
def readDigits : Nat → List Char → Option Nat
  | n, [] => some n
  | n, '_' :: d :: rest => if d.isDigit then readDigits (10 * n + (d.toNat - 48)) rest else none
  | n, d :: rest => if d.isDigit then readDigits (10 * n + (d.toNat - 48)) rest else none

/-- A decimal numeral with an optional sign. -/
def readInt : List Char → Option Int
  | '-' :: d :: rest => if d.isDigit then (readDigits 0 (d :: rest)).map fun n => -(n : Int) else none
  | '+' :: d :: rest => if d.isDigit then (readDigits 0 (d :: rest)).map fun n => (n : Int) else none
  | d :: rest => if d.isDigit then (readDigits 0 (d :: rest)).map fun n => (n : Int) else none
  | [] => none

/-- `int(value)`: numbers, booleans and decimal strings; anything else raises. A float is read in
positional notation. -/
def Json.toInt : Json → Except PyError Int
  | .int n => .ok n
  | .bool b => .ok (if b then 1 else 0)
  | .float t => match readInt (t.toList.takeWhile (· != '.')) with
    | some n => .ok n
    | none => .error (.valueError "cannot convert float to integer")
  | .str s => match readInt (strip s) with
    | some n => .ok n
    | none => .error (.valueError "invalid literal for int()")
  | .null | .arr _ | .obj _ => .error (.typeError "int() argument must be a string or a number")

/-- `dict(value or {})`. -/
def asDict : Json → Except PyError Dict
  | .obj fields => .ok fields
  | x => if x.truthy then .error (.typeError "cannot convert to a dictionary") else .ok []

end ApiManger.Python
