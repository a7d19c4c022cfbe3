import ApiManger.Locators.Locator

/-!
# Paths

A locator without wildcards is a path of steps. Along such a path writing is `write`, which never
fails: it reads a document that is no container of the kind a step needs as an empty one. What is
written is found again, and what lies aside is kept.
-/

namespace ApiManger.Locators
open Python Evidence

/-! ## Paths -/

def stepOf : Token → Option Step
  | .property name _ => some (.key name)
  | .array index false => if 0 ≤ index then some (.index index.toNat) else none
  | _ => none

/-- A token that addresses one place: a property that is not dynamic, or an item of a list by its index. -/
def Token.Plain : Token → Prop
  | .property _ dynamic => dynamic = false
  | .array index wildcard => 0 ≤ index ∧ wildcard = false
  | .other => False

/-- Tokens and the steps they stand for. -/
def Follows : List Token → List Step → Prop := List.Forall₂ fun token step => stepOf token = some step

/-- `token.get("kind")` -/
def Token.kind : Token → String
  | .property _ _ => "property"
  | .array _ _ => "array"
  | .other => ""

theorem Token.Plain.step {t : Token} (plain : t.Plain) : ∃ s, stepOf t = some s := by
  cases t with
  | property name dynamic => exact ⟨_, rfl⟩
  | array index wildcard =>
    obtain ⟨nonneg, rfl⟩ := plain
    exact ⟨_, if_pos nonneg⟩
  | other => exact plain.elim

variable {tokens : List Token} {s : Step} {steps : List Step}

theorem follows_of_plain (plain : ∀ t ∈ tokens, t.Plain) : ∃ steps, Follows tokens steps := by
  induction tokens with
  | nil => exact ⟨[], .nil⟩
  | cons t tokens ih =>
    obtain ⟨s, here⟩ := (plain t (.head _)).step
    obtain ⟨steps, later⟩ := ih fun t' mem => plain t' (.tail _ mem)
    exact ⟨s :: steps, .cons here later⟩

theorem stepOf_tokenOf (s : Step) : stepOf (tokenOf s) = some s := by
  cases s with
  | key name => rfl
  | index i => rfl

theorem stepOf_cases {t : Token} (here : stepOf t = some s) :
    (∃ name dynamic, t = .property name dynamic ∧ s = .key name) ∨ ∃ i : ℕ, t = .array i false ∧ s = .index i := by
  cases t with
  | property name dynamic => exact .inl ⟨name, dynamic, rfl, (Option.some.inj here).symm⟩
  | array index wildcard =>
    cases wildcard with
    | true => cases here
    | false =>
      by_cases nonneg : 0 ≤ index
      · rw [stepOf, if_pos nonneg] at here
        exact .inr ⟨index.toNat, by rw [Int.toNat_of_nonneg nonneg], (Option.some.inj here).symm⟩
      · rw [stepOf, if_neg nonneg] at here
        cases here
  | other => cases here

theorem follows_tokenOf (steps : List Step) : Follows (steps.map tokenOf) steps := by
  induction steps with
  | nil => exact .nil
  | cons s steps ih => exact .cons (stepOf_tokenOf s) ih

def fieldsOf : Json → Dict
  | .obj fields => fields
  | _ => []

def itemsOf : Json → List Json
  | .arr items => items
  | _ => []

def write (value : Json) : List Step → Json → Json
  | [], _ => value
  | .key name :: rest, current =>
    .obj (Dict.set (fieldsOf current) name (write value rest ((Dict.get? (fieldsOf current) name).getD .null)))
  | .index i :: rest, current =>
    let items := padded (itemsOf current) i
    .arr (items.set i (write value rest (items[i]?.getD .null)))

/-- Find what a path addresses. -/
def find : List Step → Json → Option Json
  | [], node => some node
  | .key name :: rest, .obj fields => (Dict.get? fields name).bind (find rest)
  | .index i :: rest, .arr items => items[i]?.bind (find rest)
  | _ :: _, _ => none

/-- A container of the kind that a step needs. -/
def Suits : Step → Json → Prop
  | .key _, .obj _ => True
  | .index _, .arr _ => True
  | _, _ => False

/-! ## Writing -/

variable (value : Json)

/-- Writing reads no more of a document than its fields and its items. -/
theorem write_congr (nonempty : steps ≠ []) {a b : Json}
    (fields : fieldsOf a = fieldsOf b) (items : itemsOf a = itemsOf b) : write value steps a = write value steps b := by
  cases steps with
  | nil => exact (nonempty rfl).elim
  | cons s steps => cases s <;> simp only [write, fields, items]

/-- The container below is of the kind that the next token needs. -/
theorem childFor_suits {next : Token} (here : stepOf next = some s) (child : Option Json) :
    Suits s (childFor next child) := by
  rcases stepOf_cases here with ⟨name, dynamic, rfl, rfl⟩ | ⟨i, rfl, rfl⟩
  · cases child with
    | none => exact trivial
    | some value => cases value <;> exact trivial
  · cases child with
    | none => exact trivial
    | some value => cases value <;> exact trivial

/-- Writing into the container below is writing into what stands there. -/
theorem write_childFor {next : Token} (here : stepOf next = some s) (steps : List Step)
    (child : Option Json) : write value (s :: steps) (childFor next child) = write value (s :: steps) (child.getD .null) := by
  rcases stepOf_cases here with ⟨name, dynamic, rfl, rfl⟩ | ⟨i, rfl, rfl⟩
  · have fields : fieldsOf (childFor (.property name dynamic) child) = fieldsOf (child.getD .null) := by
      cases child with
      | none => rfl
      | some value => cases value <;> rfl
    simp only [write, fields]
  · have items : itemsOf (childFor (.array i false) child) = itemsOf (child.getD .null) := by
      cases child with
      | none => rfl
      | some value => cases value <;> rfl
    simp only [write, items]

/-- The loop writes along the path. -/
theorem place_write (wildcardIndex : Int) (value : Json)
    (follows : Follows tokens (s :: steps)) {current : Json} (suits : Suits s current) :
    place wildcardIndex value tokens current = (write value (s :: steps) current, none) := by
  induction steps generalizing tokens s current with
  | nil =>
    obtain ⟨t, rest, here, later, rfl⟩ := List.forall₂_cons_right_iff.mp follows
    cases List.forall₂_nil_right_iff.mp later
    rcases stepOf_cases here with ⟨name, dynamic, rfl, rfl⟩ | ⟨i, rfl, rfl⟩
    · cases current <;> first | exact suits.elim | rfl
    · cases current <;> first | exact suits.elim | rfl
  | cons s' steps ih =>
    obtain ⟨t, rest, here, later, rfl⟩ := List.forall₂_cons_right_iff.mp follows
    obtain ⟨next, rest, below, _, rfl⟩ := List.forall₂_cons_right_iff.mp later
    have deeper : ∀ child, place wildcardIndex value (next :: rest) (childFor next child) =
        (write value (s' :: steps) (child.getD .null), none) := by
      intro child
      rw [ih later (childFor_suits below child), write_childFor value below]
    rcases stepOf_cases here with ⟨name, dynamic, rfl, rfl⟩ | ⟨i, rfl, rfl⟩
    · cases current <;> try exact suits.elim
      rw [place, deeper]
      rfl
    · cases current <;> try exact suits.elim
      have spot : ∀ items, placeOf items (i : Int) = some i := fun items => if_pos (Int.natCast_nonneg i)
      rw [place]
      dsimp only
      rw [if_neg Bool.false_ne_true, spot]
      dsimp only
      rw [deeper]
      rfl

/-- What `set_value_at_locator` does along a path: it fails at once where the document is a container of the other
kind, and else it writes. -/
theorem setValueAtLocator_eq (wildcardIndex : Int)
    (follows : Follows tokens (s :: steps)) (root : Json) :
    (isContainer root = true ∧ ¬ Suits s root ∧ ∃ e, setValueAtLocator root tokens value wildcardIndex = (root, .error e)) ∨
      (setValueAtLocator root tokens value wildcardIndex).2 = .ok (write value (s :: steps) root) := by
  obtain ⟨t, rest, here, later, rfl⟩ := List.forall₂_cons_right_iff.mp follows
  by_cases container : isContainer root = true
  · by_cases suits : Suits s root
    · right
      rw [setValueAtLocator, if_pos container, place_write wildcardIndex value follows suits]
    · left
      refine ⟨container, suits, ?_⟩
      rcases stepOf_cases here with ⟨name, dynamic, rfl, rfl⟩ | ⟨i, rfl, rfl⟩
      · cases root <;> try exact absurd container Bool.false_ne_true
        · exact ⟨_, rfl⟩
        · exact (suits trivial).elim
      · cases root <;> try exact absurd container Bool.false_ne_true
        · exact (suits trivial).elim
        · exact ⟨_, rfl⟩
  · right
    have made : containerFor t = childFor t none := rfl
    rw [setValueAtLocator, if_neg container, made, place_write wildcardIndex value follows (childFor_suits here none)]
    dsimp only
    rw [write_childFor value here]
    refine congrArg Except.ok (write_congr value (List.cons_ne_nil _ _) ?_ ?_)
    · cases root <;> first | rfl | exact (container rfl).elim
    · cases root <;> first | rfl | exact (container rfl).elim

/-! ## Finding what was written -/

theorem padded_get? (items : List Json) (i : ℕ) : i < (padded items i).length := by
  rw [padded, List.length_append, List.length_replicate]
  omega

theorem find_write (steps : List Step) (current : Json) : find steps (write value steps current) = some value := by
  induction steps generalizing current with
  | nil => rfl
  | cons s steps ih =>
    cases s with
    | key name => rw [write, find, Dict.get?_set_self, Option.bind_some, ih]
    | index i => rw [write, find, List.getElem?_set_self (padded_get? _ i), Option.bind_some, ih]

/-- Two steps into containers of one kind. -/
def SameKind : Step → Step → Prop
  | .key _, .key _ => True
  | .index _, .index _ => True
  | _, _ => False

theorem find_key {name : String} {rest : List Step} {node found : Json} (read : find (.key name :: rest) node = some found) :
    ∃ fields child, node = .obj fields ∧ Dict.get? fields name = some child ∧ find rest child = some found := by
  cases node with
  | obj fields =>
    obtain ⟨child, here, below⟩ := Option.bind_eq_some_iff.mp (show (Dict.get? fields name).bind (find rest) = _ from read)
    exact ⟨fields, child, rfl, here, below⟩
  | _ => cases read

theorem find_index {i : ℕ} {rest : List Step} {node found : Json} (read : find (.index i :: rest) node = some found) :
    ∃ items child, node = .arr items ∧ items[i]? = some child ∧ find rest child = some found := by
  cases node with
  | arr items =>
    obtain ⟨child, here, below⟩ := Option.bind_eq_some_iff.mp (show items[i]?.bind (find rest) = _ from read)
    exact ⟨items, child, rfl, here, below⟩
  | _ => cases read

theorem padded_of_some {items : List Json} {j : ℕ} {child : Json} (here : items[j]? = some child) (i : Int) :
    (padded items i)[j]? = some child := by
  rw [padded, List.getElem?_append_left (List.getElem?_eq_some_iff.mp here).1, here]

/-- What lies aside of the path is kept. -/
theorem find_write_aside {shared : List Step} {a b : Step} (kind : SameKind a b) (different : a ≠ b)
    {rest aside : List Step} {current found : Json} (before : find (shared ++ b :: aside) current = some found) :
    find (shared ++ b :: aside) (write value (shared ++ a :: rest) current) = some found := by
  induction shared generalizing current with
  | nil =>
    rw [List.nil_append] at before ⊢
    cases a with
    | key name =>
      cases b with
      | index j => exact kind.elim
      | key name' =>
        obtain ⟨fields, child, rfl, here, below⟩ := find_key before
        have aside' : name' ≠ name := fun same => different (same ▸ rfl)
        rw [List.nil_append, write, find, fieldsOf, Dict.get?_set_ne _ _ aside', here, Option.bind_some, below]
    | index i =>
      cases b with
      | key name => exact kind.elim
      | index j =>
        obtain ⟨items, child, rfl, here, below⟩ := find_index before
        have aside' : i ≠ j := fun same => different (same ▸ rfl)
        rw [List.nil_append, write, find, itemsOf, List.getElem?_set_ne aside', padded_of_some here, Option.bind_some, below]
  | cons s shared ih =>
    rw [List.cons_append] at before ⊢
    cases s with
    | key name =>
      obtain ⟨fields, child, rfl, here, below⟩ := find_key before
      rw [List.cons_append, write, find, fieldsOf, Dict.get?_set_self, here, Option.bind_some]
      exact ih below
    | index i =>
      obtain ⟨items, child, rfl, here, below⟩ := find_index before
      rw [List.cons_append, write, find, itemsOf, List.getElem?_set_self (padded_get? items i), padded_of_some here,
        Option.bind_some]
      exact ih below

/-- Along a path without wildcards extraction finds at most one value. -/
theorem extract_find (follows : Follows tokens steps)
    (plain : ∀ t ∈ tokens, t.Plain) (node : Json) :
    extractValuesAtLocator node tokens = (find steps node).toList := by
  have walked : extractFrom 20 tokens node [] = (find steps node).toList := by
    induction follows generalizing node with
    | nil => rfl
    | @cons t s tokens steps here later ih =>
      have below := ih fun t' mem => plain t' (.tail _ mem)
      have flat := plain t (.head _)
      rcases stepOf_cases here with ⟨name, dynamic, rfl, rfl⟩ | ⟨i, rfl, rfl⟩
      · obtain rfl : dynamic = false := flat
        cases node with
        | obj fields =>
          rw [extractFrom, if_neg (by decide), find]
          dsimp only
          rw [if_neg Bool.false_ne_true]
          cases Dict.get? fields name with
          | none => rfl
          | some child => exact below child
        | _ => rfl
      · cases node with
        | arr items =>
          rw [extractFrom, if_neg (by decide), find]
          dsimp only
          rw [if_neg Bool.false_ne_true, if_pos (Int.natCast_nonneg i), Int.toNat_natCast]
          cases items[i]? with
          | none => rfl
          | some child => exact below child
        | _ => rfl
  rw [extractValuesAtLocator, walked]
  cases find steps node <;> rfl

end ApiManger.Locators
