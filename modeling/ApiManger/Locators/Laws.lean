import ApiManger.Locators.Paths

/-!
# What locators keep

Writing the leaves of a document one by one gives the document, since every container is filled
in its own order: a key or an index that is new adds one field or one item.
-/

namespace ApiManger.Locators
open Python Evidence

/-! ## Leaf by leaf -/

mutual

/-- Every key of a document stands in its container once. -/
def KeysOnce : Json → Prop
  | .obj fields => (fields.map Prod.fst).Nodup ∧ FieldsOnce fields
  | .arr items => ItemsOnce items
  | _ => True

def FieldsOnce : List (String × Json) → Prop
  | [] => True
  | (_, value) :: rest => KeysOnce value ∧ FieldsOnce rest

def ItemsOnce : List Json → Prop
  | [] => True
  | value :: rest => KeysOnce value ∧ ItemsOnce rest

end

/-- Write one leaf after the other. -/
def writeAll (leaves : List (List Step × Json)) (root : Json) : Json :=
  leaves.foldl (fun root e => write e.2 e.1 root) root

/-- The same leaves one step further down. -/
def below (s : Step) (leaves : List (List Step × Json)) : List (List Step × Json) :=
  leaves.map fun e => (s :: e.1, e.2)

mutual

theorem leafOccurrences_below (value : Json) (s : Step) (steps : List Step) :
    leafOccurrences value (s :: steps) = below s (leafOccurrences value steps) := by
  cases value with
  | obj fields =>
    rw [leafOccurrences, leafOccurrences]
    split
    · rfl
    · exact fieldOccurrences_below fields s steps
  | arr items =>
    rw [leafOccurrences, leafOccurrences]
    split
    · rfl
    · exact itemOccurrences_below items 0 s steps
  | _ => rfl

theorem fieldOccurrences_below (fields : List (String × Json)) (s : Step) (steps : List Step) :
    fieldOccurrences fields (s :: steps) = below s (fieldOccurrences fields steps) := by
  match fields with
  | [] => rfl
  | (key, value) :: rest =>
    rw [fieldOccurrences, fieldOccurrences, List.cons_append, leafOccurrences_below value, fieldOccurrences_below rest, below,
      below, below, List.map_append]

theorem itemOccurrences_below (items : List Json) (i : ℕ) (s : Step) (steps : List Step) :
    itemOccurrences items i (s :: steps) = below s (itemOccurrences items i steps) := by
  match items with
  | [] => rfl
  | value :: rest =>
    rw [itemOccurrences, itemOccurrences, List.cons_append, leafOccurrences_below value, itemOccurrences_below rest, below,
      below, below, List.map_append]

end

mutual

/-- A document has a leaf. -/
theorem leafOccurrences_ne_nil (value : Json) (steps : List Step) : leafOccurrences value steps ≠ [] := by
  match value with
  | .obj [] => exact List.cons_ne_nil _ _
  | .obj (field :: fields) => exact fieldOccurrences_ne_nil field fields steps
  | .arr [] => exact List.cons_ne_nil _ _
  | .arr (item :: items) => exact itemOccurrences_ne_nil item items 0 steps
  | .null => exact List.cons_ne_nil _ _
  | .bool _ => exact List.cons_ne_nil _ _
  | .int _ => exact List.cons_ne_nil _ _
  | .float _ => exact List.cons_ne_nil _ _
  | .str _ => exact List.cons_ne_nil _ _

theorem fieldOccurrences_ne_nil (field : String × Json) (fields : List (String × Json)) (steps : List Step) :
    fieldOccurrences (field :: fields) steps ≠ [] := by
  match field with
  | (key, value) => exact List.append_ne_nil_of_left_ne_nil (leafOccurrences_ne_nil value _) _

theorem itemOccurrences_ne_nil (item : Json) (items : List Json) (i : ℕ) (steps : List Step) :
    itemOccurrences (item :: items) i steps ≠ [] :=
  List.append_ne_nil_of_left_ne_nil (leafOccurrences_ne_nil item _) _

end

theorem writeAll_append (front rest : List (List Step × Json)) (root : Json) :
    writeAll (front ++ rest) root = writeAll rest (writeAll front root) := List.foldl_append

/-- A key that no field has. -/
def Fresh (name : String) (fields : Dict) : Prop := ∀ e ∈ fields, e.1 ≠ name

variable {name : String} {leaves : List (List Step × Json)}

theorem set_fresh {fields : Dict} (fresh : Fresh name fields) (value : Json) :
    Dict.set fields name value = fields ++ [(name, value)] := by
  refine if_neg fun found => ?_
  obtain ⟨e, mem, same⟩ := List.any_eq_true.mp found
  exact fresh e mem (beq_iff_eq.mp same)

theorem get?_fresh {fields : Dict} (fresh : Fresh name fields) : Dict.get? fields name = none := by
  rw [Dict.get?, List.find?_eq_none.mpr fun e mem => mt beq_iff_eq.mp (fresh e mem)]
  rfl

theorem set_last {fields : Dict} (fresh : Fresh name fields) (old value : Json) :
    Dict.set (fields ++ [(name, old)]) name value = fields ++ [(name, value)] := by
  have kept : fields.map (fun e => if e.1 == name then (e.1, value) else e) = fields := by
    refine (List.map_congr_left fun e mem => ?_).trans (List.map_id fields)
    exact if_neg (mt beq_iff_eq.mp (fresh e mem))
  have found : (fields ++ [(name, old)]).any (·.1 == name) = true :=
    List.any_eq_true.mpr ⟨(name, old), List.mem_append_right _ (.head _), beq_self_eq_true name⟩
  rw [Dict.set, if_pos found, List.map_append, kept, List.map_singleton, if_pos (beq_self_eq_true name)]

/-- Writing below a key that is new adds one field. -/
theorem writeAll_new_key {fields : Dict} (fresh : Fresh name fields) (nonempty : leaves ≠ []) :
    writeAll (below (.key name) leaves) (.obj fields) = .obj (fields ++ [(name, writeAll leaves .null)]) := by
  have more : ∀ (leaves : List (List Step × Json)) (old : Json),
      writeAll (below (.key name) leaves) (.obj (fields ++ [(name, old)])) = .obj (fields ++ [(name, writeAll leaves old)]) := by
    intro leaves
    induction leaves with
    | nil => exact fun _ => rfl
    | cons e leaves ih =>
      intro old
      have first : write e.2 (.key name :: e.1) (.obj (fields ++ [(name, old)])) =
          .obj (fields ++ [(name, write e.2 e.1 old)]) := by
        rw [write, fieldsOf, Dict.get?_append, get?_fresh fresh, Option.none_or, set_last fresh]
        simp [Dict.get?]
      calc writeAll (below (.key name) (e :: leaves)) (.obj (fields ++ [(name, old)]))
          = writeAll (below (.key name) leaves) (write e.2 (.key name :: e.1) (.obj (fields ++ [(name, old)]))) := rfl
        _ = .obj (fields ++ [(name, writeAll (e :: leaves) old)]) := by rw [first, ih]; rfl
  cases leaves with
  | nil => exact (nonempty rfl).elim
  | cons e leaves =>
    have first : write e.2 (.key name :: e.1) (.obj fields) = .obj (fields ++ [(name, write e.2 e.1 .null)]) := by
      rw [write, fieldsOf, get?_fresh fresh, set_fresh fresh]
      rfl
    calc writeAll (below (.key name) (e :: leaves)) (.obj fields)
        = writeAll (below (.key name) leaves) (write e.2 (.key name :: e.1) (.obj fields)) := rfl
      _ = .obj (fields ++ [(name, writeAll (e :: leaves) .null)]) := by rw [first, more]; rfl

/-- Writing below the index after the last adds one item. -/
theorem writeAll_new_index (items : List Json) (nonempty : leaves ≠ []) :
    writeAll (below (.index items.length) leaves) (.arr items) = .arr (items ++ [writeAll leaves .null]) := by
  have more : ∀ (leaves : List (List Step × Json)) (old : Json),
      writeAll (below (.index items.length) leaves) (.arr (items ++ [old])) = .arr (items ++ [writeAll leaves old]) := by
    intro leaves
    induction leaves with
    | nil => exact fun _ => rfl
    | cons e leaves ih =>
      intro old
      have full : padded (items ++ [old]) items.length = items ++ [old] := by
        rw [padded, List.length_append, List.length_singleton, show ((items.length : Int) + 1).toNat - (items.length + 1) = 0 by
          omega, List.replicate_zero, List.append_nil]
      have first : write e.2 (.index items.length :: e.1) (.arr (items ++ [old])) = .arr (items ++ [write e.2 e.1 old]) := by
        rw [write, itemsOf, full, List.getElem?_concat_length, Option.getD_some, List.set_append_right _ _ le_rfl,
          Nat.sub_self]
        rfl
      calc writeAll (below (.index items.length) (e :: leaves)) (.arr (items ++ [old]))
          = writeAll (below (.index items.length) leaves) (write e.2 (.index items.length :: e.1) (.arr (items ++ [old]))) := rfl
        _ = .arr (items ++ [writeAll (e :: leaves) old]) := by rw [first, ih]; rfl
  cases leaves with
  | nil => exact (nonempty rfl).elim
  | cons e leaves =>
    have full : padded items items.length = items ++ [.null] := by
      rw [padded, show ((items.length : Int) + 1).toNat - items.length = 1 by omega]
      rfl
    have first : write e.2 (.index items.length :: e.1) (.arr items) = .arr (items ++ [write e.2 e.1 .null]) := by
      rw [write, itemsOf, full, List.getElem?_concat_length, Option.getD_some, List.set_append_right _ _ le_rfl, Nat.sub_self]
      rfl
    calc writeAll (below (.index items.length) (e :: leaves)) (.arr items)
        = writeAll (below (.index items.length) leaves) (write e.2 (.index items.length :: e.1) (.arr items)) := rfl
      _ = .arr (items ++ [writeAll (e :: leaves) .null]) := by rw [first, more]; rfl

/-- The first write decides nothing about a document without fields and items. -/
theorem writeAll_start (deep : ∀ e ∈ leaves, e.1 ≠ []) (nonempty : leaves ≠ []) {a b : Json}
    (fields : fieldsOf a = fieldsOf b) (items : itemsOf a = itemsOf b) : writeAll leaves a = writeAll leaves b := by
  cases leaves with
  | nil => exact (nonempty rfl).elim
  | cons e leaves => exact congrArg (writeAll leaves) (write_congr e.2 (deep e (.head _)) fields items)

/-- A leaf below a property has a path that begins with a property. -/
theorem fieldOccurrences_starts (fields : List (String × Json)) :
    ∀ e ∈ fieldOccurrences fields [], ∃ name rest, e.1 = .key name :: rest := by
  induction fields with
  | nil => exact fun _ mem => by cases mem
  | cons field fields ih =>
    obtain ⟨key, value⟩ := field
    intro e mem
    rw [fieldOccurrences, List.nil_append, leafOccurrences_below] at mem
    rcases List.mem_append.mp mem with mem | mem
    · obtain ⟨f, -, rfl⟩ := List.mem_map.mp mem
      exact ⟨key, f.1, rfl⟩
    · exact ih e mem

theorem itemOccurrences_starts (items : List Json) (i : ℕ) :
    ∀ e ∈ itemOccurrences items i [], ∃ j rest, e.1 = .index j :: rest := by
  induction items generalizing i with
  | nil => exact fun _ mem => by cases mem
  | cons item items ih =>
    intro e mem
    rw [itemOccurrences, List.nil_append, leafOccurrences_below] at mem
    rcases List.mem_append.mp mem with mem | mem
    · obtain ⟨f, -, rfl⟩ := List.mem_map.mp mem
      exact ⟨i, f.1, rfl⟩
    · exact ih (i + 1) e mem

theorem fieldOccurrences_deep (fields : List (String × Json)) : ∀ e ∈ fieldOccurrences fields [], e.1 ≠ [] := by
  intro e mem
  obtain ⟨name, rest, path⟩ := fieldOccurrences_starts fields e mem
  rw [path]
  exact List.cons_ne_nil _ _

theorem itemOccurrences_deep (items : List Json) (i : ℕ) : ∀ e ∈ itemOccurrences items i [], e.1 ≠ [] := by
  intro e mem
  obtain ⟨j, rest, path⟩ := itemOccurrences_starts items i e mem
  rw [path]
  exact List.cons_ne_nil _ _

mutual

/-- The leaves of a document written one by one give the document. -/
theorem writeAll_leaves (value : Json) (once : KeysOnce value) : writeAll (leafOccurrences value []) .null = value := by
  match value with
  | .obj [] => rfl
  | .obj (field :: fields) =>
    obtain ⟨distinct, inner⟩ := once
    have built := writeAll_fields (field :: fields) inner distinct [] nofun
    rw [List.nil_append] at built
    exact (writeAll_start (a := .null) (b := .obj []) (fieldOccurrences_deep _) (fieldOccurrences_ne_nil field fields [])
      rfl rfl).trans built
  | .arr [] => rfl
  | .arr (item :: items) =>
    have built := writeAll_items (item :: items) once []
    rw [List.nil_append] at built
    exact (writeAll_start (a := .null) (b := .arr []) (itemOccurrences_deep _ 0) (itemOccurrences_ne_nil item items 0 [])
      rfl rfl).trans built
  | .null => rfl
  | .bool _ => rfl
  | .int _ => rfl
  | .float _ => rfl
  | .str _ => rfl

theorem writeAll_fields (fields : List (String × Json)) (once : FieldsOnce fields) (distinct : (fields.map Prod.fst).Nodup)
    (init : Dict) (fresh : ∀ e ∈ fields, Fresh e.1 init) :
    writeAll (fieldOccurrences fields []) (.obj init) = .obj (init ++ fields) := by
  match fields with
  | [] => rw [List.append_nil]; rfl
  | (key, value) :: rest =>
    obtain ⟨here, later⟩ := once
    obtain ⟨other, distinct'⟩ := List.nodup_cons.mp distinct
    have built := writeAll_leaves value here
    rw [fieldOccurrences, List.nil_append, leafOccurrences_below value (.key key) [], writeAll_append,
      writeAll_new_key (fresh _ (.head _)) (leafOccurrences_ne_nil value []), built,
      writeAll_fields rest later distinct' (init ++ [(key, value)]) ?_, List.append_assoc]
    · rfl
    · intro e mem f inside same
      rcases List.mem_append.mp inside with inside | last
      · exact fresh e (.tail _ mem) f inside same
      · cases List.mem_singleton.mp last
        exact other (same ▸ List.mem_map_of_mem mem)

theorem writeAll_items (items : List Json) (once : ItemsOnce items) (init : List Json) :
    writeAll (itemOccurrences items init.length []) (.arr init) = .arr (init ++ items) := by
  match items with
  | [] => rw [List.append_nil]; rfl
  | value :: rest =>
    obtain ⟨here, later⟩ := once
    have built := writeAll_leaves value here
    have long : init.length + 1 = (init ++ [value]).length := by
      rw [List.length_append, List.length_singleton]
    rw [itemOccurrences, List.nil_append, leafOccurrences_below value (.index init.length) [], writeAll_append,
      writeAll_new_index init (leafOccurrences_ne_nil value []), built, long, writeAll_items rest later (init ++ [value]),
      List.append_assoc]
    rfl

end

/-! ## Nothing is lost -/

/-- A document as it can be read from a file: every key stands in its container once. -/
structure Document where
  value : Json
  once : KeysOnce value

/-- The leaves of a document set one after the other, from nothing. -/
def rebuild (d : Json) : Except PyError Json :=
  (iterJsonLeafOccurrences d).foldlM (fun root e => (setValueAtLocator root e.1 e.2).2) .null

/-- What is to hold of locators. A document is rebuilt from its leaves. Where setting a value does not raise, the value
is what is extracted at its locator, and what another locator addressed is kept if the two part at tokens of one kind.
Where it raises, the document is as before. -/
structure LosesNothing : Prop where
  rebuilt : ∀ d : Document, rebuild d.value = .ok d.value
  read : ∀ root tokens value wildcardIndex set, (∀ t ∈ tokens, t.Plain) →
    (setValueAtLocator root tokens value wildcardIndex).2 = .ok set → extractValuesAtLocator set tokens = [value]
  kept : ∀ root value wildcardIndex set shared a b rest aside, (∀ t ∈ shared ++ a :: rest, t.Plain) →
    (∀ t ∈ shared ++ b :: aside, t.Plain) → a ≠ b → a.kind = b.kind →
    (setValueAtLocator root (shared ++ a :: rest) value wildcardIndex).2 = .ok set →
    extractValuesAtLocator root (shared ++ b :: aside) ≠ [] →
    extractValuesAtLocator set (shared ++ b :: aside) = extractValuesAtLocator root (shared ++ b :: aside)
  unchanged : ∀ root tokens value wildcardIndex e, (∀ t ∈ tokens, t.Plain) →
    (setValueAtLocator root tokens value wildcardIndex).2 = .error e →
    (setValueAtLocator root tokens value wildcardIndex).1 = root

theorem SameKind.suits {s s' : Step} (kind : SameKind s s') {root : Json} : Suits s root ↔ Suits s' root := by
  cases s <;> cases s' <;> first | exact kind.elim | exact Iff.rfl | skip
  · cases root <;> exact Iff.rfl
  · cases root <;> exact Iff.rfl

theorem suits_write (value : Json) (s : Step) (steps : List Step) (root : Json) : Suits s (write value (s :: steps) root) := by
  cases s <;> exact trivial

/-- Setting leaves whose paths begin alike writes them all. -/
theorem foldlM_writeAll {s : Step}
    (starts : ∀ e ∈ leaves, ∃ s' rest, e.1 = s' :: rest ∧ SameKind s s') {root : Json}
    (fits : isContainer root = false ∨ Suits s root) :
    (leaves.map fun (steps, leaf) => (steps.map tokenOf, leaf)).foldlM
      (fun root e => (setValueAtLocator root e.1 e.2).2) root = .ok (writeAll leaves root) := by
  induction leaves generalizing root with
  | nil => rfl
  | cons e leaves ih =>
    obtain ⟨steps, leaf⟩ := e
    obtain ⟨s', rest, rfl, kind⟩ := starts _ (.head _)
    have follows := follows_tokenOf (s' :: rest)
    have done : (setValueAtLocator root ((s' :: rest).map tokenOf) leaf).2 = .ok (write leaf (s' :: rest) root) := by
      rcases setValueAtLocator_eq leaf 0 follows root with ⟨container, unsuited, -⟩ | done
      · rcases fits with bare | suits
        · rw [bare] at container
          cases container
        · exact (unsuited (kind.suits.mp suits)).elim
      · exact done
    have later := ih (fun f mem => starts f (.tail _ mem)) (.inr (kind.suits.mpr (suits_write leaf s' rest root)))
    rw [List.map_cons, List.foldlM_cons, done]
    exact later

/-- Tokens that part at tokens of one kind follow steps that do. -/
theorem stepOf_sameKind {a b : Token} {s s' : Step} (first : stepOf a = some s) (second : stepOf b = some s')
    (kind : a.kind = b.kind) : SameKind s s' := by
  rcases stepOf_cases first with ⟨name, dynamic, rfl, rfl⟩ | ⟨i, rfl, rfl⟩
  · rcases stepOf_cases second with ⟨name', dynamic', rfl, rfl⟩ | ⟨j, rfl, rfl⟩
    · exact trivial
    · exact absurd (show "property" = "array" from kind) (by decide)
  · rcases stepOf_cases second with ⟨name', dynamic', rfl, rfl⟩ | ⟨j, rfl, rfl⟩
    · exact absurd (show "array" = "property" from kind) (by decide)
    · exact trivial

theorem stepOf_inj {a b : Token} (plain : a.Plain) (plain' : b.Plain) {s : Step} (first : stepOf a = some s)
    (second : stepOf b = some s) : a = b := by
  rcases stepOf_cases first with ⟨name, dynamic, rfl, rfl⟩ | ⟨i, rfl, rfl⟩
  · rcases stepOf_cases second with ⟨name', dynamic', rfl, same⟩ | ⟨j, rfl, same⟩
    · cases same
      obtain rfl : dynamic = false := plain
      obtain rfl : dynamic' = false := plain'
      rfl
    · cases same
  · rcases stepOf_cases second with ⟨name', dynamic', rfl, same⟩ | ⟨j, rfl, same⟩
    · cases same
    · cases same
      rfl

/-- What was set is found. -/
theorem written_of_set {root value set : Json} {wildcardIndex : Int} {tokens : List Token} {steps : List Step}
    (follows : Follows tokens steps) (done : (setValueAtLocator root tokens value wildcardIndex).2 = .ok set) :
    set = write value steps root := by
  cases steps with
  | nil =>
    cases List.forall₂_nil_right_iff.mp follows
    exact (Except.ok.inj done).symm
  | cons s steps =>
    rcases setValueAtLocator_eq value wildcardIndex follows root with ⟨-, -, e, failed⟩ | written
    · rw [failed] at done
      cases done
    · rw [written] at done
      exact (Except.ok.inj done).symm

/-- **Locators lose nothing.** -/
theorem locators_lose_nothing : LosesNothing := by
  refine ⟨fun d => ?_, fun root tokens value wildcardIndex set plain done => ?_,
    fun root value wildcardIndex set shared a b rest aside plain plain' different kind done before => ?_,
    fun root tokens value wildcardIndex e plain raised => ?_⟩
  · obtain ⟨value, once⟩ := d
    have built := writeAll_leaves value once
    unfold rebuild iterJsonLeafOccurrences
    dsimp only
    cases value with
    | obj fields =>
      cases fields with
      | nil => rfl
      | cons field fields =>
        have starts : ∀ e ∈ leafOccurrences (.obj (field :: fields)) [], ∃ s' rest, e.1 = s' :: rest ∧ SameKind (.key "") s' := by
          intro e mem
          obtain ⟨name, rest, path⟩ := fieldOccurrences_starts (field :: fields) e mem
          exact ⟨_, rest, path, trivial⟩
        rw [foldlM_writeAll starts (.inl rfl), built]
    | arr items =>
      cases items with
      | nil => rfl
      | cons item items =>
        have starts : ∀ e ∈ leafOccurrences (.arr (item :: items)) [], ∃ s' rest, e.1 = s' :: rest ∧ SameKind (.index 0) s' := by
          intro e mem
          obtain ⟨i, rest, path⟩ := itemOccurrences_starts (item :: items) 0 e mem
          exact ⟨_, rest, path, trivial⟩
        rw [foldlM_writeAll starts (.inl rfl), built]
    | _ => rfl
  · obtain ⟨steps, follows⟩ := follows_of_plain plain
    rw [extract_find follows plain, written_of_set follows done, find_write]
    rfl
  · obtain ⟨front, alike⟩ := follows_of_plain fun t mem => plain t (List.mem_append_left _ mem)
    have inside : a ∈ shared ++ a :: rest := List.mem_append_right _ (.head _)
    have inside' : b ∈ shared ++ b :: aside := List.mem_append_right _ (.head _)
    obtain ⟨s, here⟩ := (plain a inside).step
    obtain ⟨s', here'⟩ := (plain' b inside').step
    obtain ⟨steps, later⟩ := follows_of_plain fun t mem => plain t (List.mem_append_right _ (.tail _ mem))
    obtain ⟨steps', later'⟩ := follows_of_plain fun t mem => plain' t (List.mem_append_right _ (.tail _ mem))
    have follows : Follows (shared ++ a :: rest) (front ++ s :: steps) := List.rel_append alike (.cons here later)
    have follows' : Follows (shared ++ b :: aside) (front ++ s' :: steps') := List.rel_append alike (.cons here' later')
    have parted : s ≠ s' := fun same => different (stepOf_inj (plain a inside) (plain' b inside') here (same ▸ here'))
    rw [extract_find follows' plain', extract_find follows' plain', written_of_set follows done]
    rw [extract_find follows' plain'] at before
    cases found : find (front ++ s' :: steps') root with
    | none =>
      rw [found] at before
      exact (before rfl).elim
    | some x => rw [find_write_aside value (stepOf_sameKind here here' kind) parted found]
  · obtain ⟨steps, follows⟩ := follows_of_plain plain
    cases steps with
    | nil =>
      cases List.forall₂_nil_right_iff.mp follows
      cases raised
    | cons s steps =>
      rcases setValueAtLocator_eq value wildcardIndex follows root with ⟨-, -, e', failed⟩ | done
      · rw [failed]
      · rw [done] at raised
        cases raised

end ApiManger.Locators
