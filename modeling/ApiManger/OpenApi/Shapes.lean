import ApiManger.OpenApi.Fields

/-!
# The shape of a schema

What can be said of the fields of a schema by its form alone: that it has none, that its only
field is the name it stands under, and which ones it has.
-/

namespace ApiManger.OpenApi
open Python

variable {components schema : Json} {form : Form} {parentKey : String}

/-! ## Names -/

theorem newKey_eq_empty {key : String} : newKey parentKey key = "" ↔ parentKey = "" ∧ key = "" := by
  unfold newKey
  split
  · next top => simp [beq_iff_eq.mp top]
  · next named => simp_all

theorem newKey_length {key : String} (named : parentKey ≠ "") : parentKey.length < (newKey parentKey key).length := by
  unfold newKey
  rw [if_neg (by simpa using named), String.length_append, String.length_append]
  have dot : ".".length = 1 := rfl
  omega

theorem items_length : parentKey.length < (parentKey ++ "[]").length := by
  have brackets : "[]".length = 2 := rfl
  rw [String.length_append]
  omega

/-- A schema in another one stands under a longer name. -/
theorem children_length {c : String × Json} (mem : c ∈ form.children parentKey) :
    parentKey.length ≤ c.1.length := by
  cases form with
  | combined items =>
    obtain ⟨item, _, rfl⟩ := List.mem_map.mp mem
    exact Nat.le_refl _
  | record properties =>
    obtain ⟨e, _, rfl⟩ := List.mem_map.mp mem
    by_cases named : parentKey = ""
    · rw [named]
      exact Nat.zero_le _
    · exact Nat.le_of_lt (newKey_length named)
  | list items =>
    rw [List.mem_singleton.mp mem]
    exact Nat.le_of_lt items_length
  | nothing | leaf => cases mem

/-- The names of the fields begin with the name the schema stands under. -/
theorem IsSchema.length_le (is : IsSchema components schema) (parentKey : String) :
    ∀ name ∈ fields components parentKey schema, parentKey.length ≤ name.length := by
  induction is generalizing parentKey with
  | intro schema form has inner named ih _ =>
    have isSchema := IsSchema.intro schema form has inner named
    have nested : ∀ name ∈ (form.children parentKey).flatMap fun c => fields components c.1 c.2,
        parentKey.length ≤ name.length := by
      intro name mem
      obtain ⟨c, listed, mem⟩ := List.mem_flatMap.mp mem
      exact Nat.le_trans (children_length listed) (ih c.2 (Form.mem_schemas listed) c.1 name mem)
    intro name mem
    rw [isSchema.fields_eq has] at mem
    cases form with
    | nothing => cases mem
    | combined items => exact nested name mem
    | record properties =>
      simp only [Form.close] at mem
      split at mem
      · rcases List.mem_append.mp mem with old | new
        · exact nested name old
        · rw [List.mem_singleton.mp new]
      · exact nested name mem
    | list items =>
      simp only [Form.close] at mem
      split at mem
      · exact nested name mem
      · split at mem
        · rw [List.mem_singleton.mp mem]
          exact Nat.le_of_lt items_length
        · cases mem
    | leaf =>
      simp only [Form.close] at mem
      split at mem
      · rw [List.mem_singleton.mp mem]
      · cases mem

/-! ## Schemas without fields -/

/-- A schema has no fields; whether it is at the top, where the schema itself has no name, matters. -/
inductive Fieldless (components : Json) : Bool → Json → Prop where
  | nothing (top : Bool) (schema : Json) (is : formOf components schema = some .nothing) :
      Fieldless components top schema
  | combined (top : Bool) (schema : Json) (items : List Json) (is : formOf components schema = some (.combined items))
      (all : ∀ s ∈ items, Fieldless components top s) : Fieldless components top schema
  | record (top : Bool) (schema : Json) (properties : Dict)
      (is : formOf components schema = some (.record properties)) (some_ : top = true ∨ properties ≠ [])
      (all : ∀ e ∈ properties, Fieldless components (top && e.1 == "") e.2) : Fieldless components top schema
  | list (schema items : Json) (is : formOf components schema = some (.list items))
      (none_ : Fieldless components false items) : Fieldless components true schema
  | leaf (schema : Json) (is : formOf components schema = some .leaf) : Fieldless components true schema

/-- The only field of a schema is the name it stands under. -/
inductive Single (components : Json) : Json → Prop where
  | combined (schema : Json) (before : List Json) (s : Json) (after : List Json)
      (is : formOf components schema = some (.combined (before ++ s :: after))) (one : Single components s)
      (others : ∀ t ∈ before ++ after, Fieldless components false t) : Single components schema
  | record (schema : Json) (is : formOf components schema = some (.record [])) : Single components schema
  | leaf (schema : Json) (is : formOf components schema = some .leaf) : Single components schema

theorem top_newKey (parentKey key : String) : (newKey parentKey key == "") = (parentKey == "" && key == "") := by
  rw [Bool.eq_iff_iff]
  simp only [beq_iff_eq, Bool.and_eq_true]
  exact newKey_eq_empty

theorem not_top_items (parentKey : String) : (parentKey ++ "[]" == "") = false := by
  rw [beq_eq_false_iff_ne]
  intro empty
  have longer : parentKey.length < (parentKey ++ "[]").length := items_length
  rw [empty] at longer
  exact Nat.not_lt_zero _ longer

/-- What it says of a form that its schema has no fields. -/
def Form.IsFieldless (components : Json) (top : Bool) : Form → Prop
  | .nothing => True
  | .combined items => ∀ s ∈ items, Fieldless components top s
  | .record properties =>
    (top = true ∨ properties ≠ []) ∧ ∀ e ∈ properties, Fieldless components (top && e.1 == "") e.2
  | .list items => top = true ∧ Fieldless components false items
  | .leaf => top = true

theorem fieldless_iff (is : formOf components schema = some form) (top : Bool) :
    Fieldless components top schema ↔ form.IsFieldless components top := by
  have same {form' : Form} (is' : formOf components schema = some form') : form = form' :=
    Option.some.inj (is.symm.trans is')
  constructor
  · intro fieldless
    cases fieldless with
    | nothing _ _ is' => cases same is'; trivial
    | combined _ _ items is' all => cases same is'; exact all
    | record _ _ properties is' some_ all => cases same is'; exact ⟨some_, all⟩
    | list _ items is' none_ => cases same is'; exact ⟨rfl, none_⟩
    | leaf _ is' => cases same is'; rfl
  · intro fieldless
    cases form with
    | nothing => exact .nothing top schema is
    | combined items => exact .combined top schema items is fieldless
    | record properties => exact .record top schema properties is fieldless.1 fieldless.2
    | list items =>
      obtain ⟨rfl, none_⟩ := fieldless
      exact .list schema items is none_
    | leaf =>
      obtain rfl : top = true := fieldless
      exact .leaf schema is

/-- What it says of a form that the name its schema stands under is the only field. -/
def Form.IsSingle (components : Json) : Form → Prop
  | .combined items => ∃ before s after, items = before ++ s :: after ∧ Single components s ∧
      ∀ t ∈ before ++ after, Fieldless components false t
  | .record properties => properties = []
  | .leaf => True
  | .nothing | .list _ => False

theorem single_iff (is : formOf components schema = some form) :
    Single components schema ↔ form.IsSingle components := by
  have same {form' : Form} (is' : formOf components schema = some form') : form = form' :=
    Option.some.inj (is.symm.trans is')
  constructor
  · intro single
    cases single with
    | combined _ before s after is' one others => cases same is'; exact ⟨before, s, after, rfl, one, others⟩
    | record _ is' => cases same is'; rfl
    | leaf _ is' => cases same is'; trivial
  · intro single
    cases form with
    | combined items =>
      obtain ⟨before, s, after, rfl, one, others⟩ := single
      exact .combined schema before s after is one others
    | record properties =>
      obtain rfl : properties = [] := single
      exact .record schema is
    | leaf => exact .leaf schema is
    | nothing | list _ => cases single

/-- **No fields.** The list of a schema is empty where the schema has no fields. -/
theorem IsSchema.fields_eq_nil (is : IsSchema components schema) (parentKey : String) :
    fields components parentKey schema = [] ↔ Fieldless components (parentKey == "") schema := by
  induction is generalizing parentKey with
  | intro schema form has inner named ih _ =>
    have isSchema := IsSchema.intro schema form has inner named
    rw [isSchema.fields_eq has, fieldless_iff has]
    cases form with
    | nothing => exact iff_of_true rfl trivial
    | combined items =>
      simp only [Form.close, Form.children, List.flatMap_map, List.flatMap_eq_nil_iff, Form.IsFieldless]
      exact forall₂_congr fun s mem => ih s mem parentKey
    | record properties =>
      simp only [Form.close, Form.children, List.flatMap_map, Form.IsFieldless]
      have nested : (properties.flatMap fun e => fields components (newKey parentKey e.1) e.2) = [] ↔
          ∀ e ∈ properties, Fieldless components (parentKey == "" && e.1 == "") e.2 := by
        rw [List.flatMap_eq_nil_iff]
        refine forall₂_congr fun e mem => ?_
        rw [ih e.2 (List.mem_map_of_mem mem), top_newKey]
      rw [← nested]
      cases properties with
      | nil => by_cases top : parentKey = "" <;> simp [top]
      | cons e properties => simp
    | list items =>
      simp only [Form.close, Form.children, List.flatMap_cons, List.flatMap_nil, List.append_nil, Form.IsFieldless]
      rw [← not_top_items parentKey, ← ih items (List.mem_singleton_self items)]
      cases fields components (parentKey ++ "[]") items with
      | nil => by_cases top : parentKey = "" <;> simp [top]
      | cons name names => simp
    | leaf =>
      simp only [Form.close, Form.IsFieldless]
      by_cases top : parentKey = "" <;> simp [top]

theorem flatMap_eq_singleton_iff {α β : Type} {f : α → List β} {items : List α} {b : β} :
    items.flatMap f = [b] ↔ ∃ before a after, items = before ++ a :: after ∧ f a = [b] ∧
      ∀ x ∈ before ++ after, f x = [] := by
  rw [List.flatMap, List.flatten_eq_singleton_iff]
  constructor
  · rintro ⟨before, after, split, nilB, nilA⟩
    obtain ⟨before', rest, rfl, rfl, mapped⟩ := List.map_eq_append_iff.mp split
    obtain ⟨a, after', rfl, one, rfl⟩ := List.map_eq_cons_iff.mp mapped
    refine ⟨before', a, after', rfl, one, fun x mem => ?_⟩
    rcases List.mem_append.mp mem with mem | mem
    · exact nilB (f x) (List.mem_map_of_mem mem)
    · exact nilA (f x) (List.mem_map_of_mem mem)
  · rintro ⟨before, a, after, rfl, one, others⟩
    refine ⟨before.map f, after.map f, by rw [List.map_append, List.map_cons, one], ?_, ?_⟩
    · intro l mem
      obtain ⟨x, listed, rfl⟩ := List.mem_map.mp mem
      exact others x (List.mem_append_left after listed)
    · intro l mem
      obtain ⟨x, listed, rfl⟩ := List.mem_map.mp mem
      exact others x (List.mem_append_right before listed)

/-- **One field.** The list of a schema is the name it stands under where that is its only field. -/
theorem IsSchema.fields_eq_single (is : IsSchema components schema) (named : parentKey ≠ "") :
    fields components parentKey schema = [parentKey] ↔ Single components schema := by
  have notTop : (parentKey == "") = false := beq_eq_false_iff_ne.mpr named
  have notSingle {l : List String} (longer : ∀ name ∈ l, parentKey.length < name.length) : l ≠ [parentKey] := by
    rintro rfl
    exact Nat.lt_irrefl _ (longer parentKey List.mem_cons_self)
  induction is with
  | intro schema form has inner named' ih _ =>
    have isSchema := IsSchema.intro schema form has inner named'
    rw [isSchema.fields_eq has, single_iff has]
    cases form with
    | nothing => exact iff_of_false (List.cons_ne_nil parentKey []).symm id
    | combined items =>
      simp only [Form.close, Form.children, List.flatMap_map, flatMap_eq_singleton_iff, Form.IsSingle]
      refine exists_congr fun before => exists_congr fun s => exists_congr fun after =>
        and_congr_right fun split => ?_
      subst split
      refine and_congr (ih s (List.mem_append_right before List.mem_cons_self)) (forall₂_congr fun t mem => ?_)
      have listed : t ∈ before ++ s :: after := by
        rcases List.mem_append.mp mem with mem | mem
        · exact List.mem_append_left _ mem
        · exact List.mem_append_right before (List.mem_cons_of_mem s mem)
      rw [(inner t listed).fields_eq_nil, notTop]
    | record properties =>
      cases properties with
      | nil => simp [Form.close, Form.children, Form.IsSingle, named]
      | cons e properties =>
        refine iff_of_false (notSingle ?_) (List.cons_ne_nil e properties)
        intro name mem
        obtain ⟨c, listed, mem⟩ := List.mem_flatMap.mp (show name ∈ List.flatMap _ _ from mem)
        have longer := (inner c.2 (Form.mem_schemas listed)).length_le c.1 name mem
        obtain ⟨e', -, rfl⟩ := List.mem_map.mp listed
        exact Nat.lt_of_lt_of_le (newKey_length named) longer
    | list items =>
      refine iff_of_false (notSingle ?_) id
      intro name mem
      simp only [Form.close, Form.children, List.flatMap_cons, List.flatMap_nil, List.append_nil] at mem
      split at mem
      · exact Nat.lt_of_lt_of_le items_length
          ((inner items (List.mem_singleton_self items)).length_le (parentKey ++ "[]") name mem)
      · rw [if_pos (by simpa using named)] at mem
        rw [List.mem_singleton.mp mem]
        exact items_length
    | leaf => simp [Form.close, Form.IsSingle, named]

/-! ## The fields -/

/-- A schema that stands under a name has a field. -/
inductive HasField (components : Json) : String → Json → String → Prop where
  | combined (parentKey : String) (schema : Json) (items : List Json) (s : Json) (name : String)
      (is : formOf components schema = some (.combined items)) (mem : s ∈ items)
      (inner : HasField components parentKey s name) : HasField components parentKey schema name
  | property (parentKey : String) (schema : Json) (properties : Dict) (e : String × Json) (name : String)
      (is : formOf components schema = some (.record properties)) (mem : e ∈ properties)
      (inner : HasField components (newKey parentKey e.1) e.2 name) : HasField components parentKey schema name
  | object (parentKey : String) (schema : Json) (is : formOf components schema = some (.record []))
      (named : parentKey ≠ "") : HasField components parentKey schema parentKey
  | item (parentKey : String) (schema items : Json) (name : String)
      (is : formOf components schema = some (.list items))
      (inner : HasField components (parentKey ++ "[]") items name) : HasField components parentKey schema name
  | array (parentKey : String) (schema items : Json) (is : formOf components schema = some (.list items))
      (none_ : Fieldless components false items) (named : parentKey ≠ "") :
      HasField components parentKey schema (parentKey ++ "[]")
  | leaf (parentKey : String) (schema : Json) (is : formOf components schema = some .leaf)
      (named : parentKey ≠ "") : HasField components parentKey schema parentKey

/-- **All fields.** The list of a schema has the fields of the schema, and no others. -/
theorem IsSchema.mem_fields (is : IsSchema components schema) (parentKey name : String) :
    name ∈ fields components parentKey schema ↔ HasField components parentKey schema name := by
  induction is generalizing parentKey with
  | intro schema form has inner named ih _ =>
    have isSchema := IsSchema.intro schema form has inner named
    have same {form' : Form} (is' : formOf components schema = some form') : form = form' :=
      Option.some.inj (has.symm.trans is')
    rw [isSchema.fields_eq has]
    constructor
    · intro mem
      cases form with
      | nothing => cases mem
      | combined items =>
        obtain ⟨c, listed, mem⟩ := List.mem_flatMap.mp (show name ∈ List.flatMap _ _ from mem)
        obtain ⟨s, inItems, rfl⟩ := List.mem_map.mp listed
        exact .combined parentKey schema items s name has inItems ((ih s inItems parentKey).mp mem)
      | record properties =>
        have nested (mem : name ∈ ((Form.record properties).children parentKey).flatMap
            fun c => fields components c.1 c.2) : HasField components parentKey schema name := by
          obtain ⟨c, listed, mem⟩ := List.mem_flatMap.mp mem
          have inSchemas := Form.mem_schemas listed
          obtain ⟨e, inProperties, rfl⟩ := List.mem_map.mp listed
          exact .property parentKey schema properties e name has inProperties ((ih e.2 inSchemas _).mp mem)
        simp only [Form.close] at mem
        split at mem
        · next empty =>
          rw [Bool.and_eq_true, List.isEmpty_iff, bne_iff_ne] at empty
          rcases List.mem_append.mp mem with old | new
          · exact nested old
          · rw [List.mem_singleton.mp new]
            exact .object parentKey schema (empty.1 ▸ has) empty.2
        · exact nested mem
      | list items =>
        have listed : items ∈ (Form.list items).schemas := List.mem_singleton_self items
        simp only [Form.close, Form.children, List.flatMap_cons, List.flatMap_nil, List.append_nil] at mem
        split at mem
        · exact .item parentKey schema items name has ((ih items listed _).mp mem)
        · next empty =>
          split at mem
          · next top =>
            rw [List.mem_singleton.mp mem]
            have none_ : fields components (parentKey ++ "[]") items = [] := by simpa using empty
            rw [(inner items listed).fields_eq_nil, not_top_items] at none_
            exact .array parentKey schema items has none_ (by simpa using top)
          · cases mem
      | leaf =>
        simp only [Form.close] at mem
        split at mem
        · next top =>
          rw [List.mem_singleton.mp mem]
          exact .leaf parentKey schema has (by simpa using top)
        · cases mem
    · intro field
      cases field with
      | combined _ _ items s _ is' mem field =>
        cases same is'
        exact List.mem_flatMap.mpr ⟨(parentKey, s), List.mem_map_of_mem mem, (ih s mem parentKey).mpr field⟩
      | property _ _ properties e _ is' mem field =>
        cases same is'
        have listed : (newKey parentKey e.1, e.2) ∈ (Form.record properties).children parentKey :=
          List.mem_map.mpr ⟨e, mem, rfl⟩
        have nested : name ∈ ((Form.record properties).children parentKey).flatMap
            fun c => fields components c.1 c.2 :=
          List.mem_flatMap.mpr ⟨_, listed, (ih e.2 (List.mem_map_of_mem mem) _).mpr field⟩
        simp only [Form.close]
        split
        · exact List.mem_append_left _ nested
        · exact nested
      | object _ _ is' named =>
        cases same is'
        simp [Form.close, named]
      | item _ _ items _ is' field =>
        cases same is'
        have mem := (ih items (List.mem_singleton_self items) _).mpr field
        simp only [Form.close, Form.children, List.flatMap_cons, List.flatMap_nil, List.append_nil]
        rw [if_pos (by simpa using List.ne_nil_of_mem mem)]
        exact mem
      | array _ _ items is' none_ named =>
        cases same is'
        have empty : fields components (parentKey ++ "[]") items = [] := by
          rw [(inner items (List.mem_singleton_self items)).fields_eq_nil, not_top_items]
          exact none_
        simp [Form.close, Form.children, empty, named]
      | leaf _ _ is' named =>
        cases same is'
        simp [Form.close, named]

end ApiManger.OpenApi
