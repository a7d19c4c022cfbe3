import Mathlib.Data.List.Forall2
import ApiManger.OpenApi.Schema

/-!
# The fields of a schema

How a schema of a document is read, and what `_flatten_schema` makes of it: every form of a
schema has its own fields, those of the schemas in it among them. A schema without a
reference cycle has one list of fields, whatever depth of recursion is allowed beyond a first.
-/

namespace ApiManger.OpenApi
open Python
open Recipe (iterate)

/-- How a schema is read. -/
inductive Form where
  /-- An empty schema. -/
  | nothing
  /-- The schemas of an `allOf`, a `oneOf` or an `anyOf`. -/
  | combined (items : List Json)
  | record (properties : Dict)
  | list (items : Json)
  /-- A schema without fields of its own: a single value, or a reference that is not followed. -/
  | leaf
  deriving DecidableEq

def combinators : List String := ["allOf", "oneOf", "anyOf"]

/-- The form of a dictionary without a reference; `none` where it is no schema of a document. -/
def formOfPlain (member : String → Option Json) : Option Form :=
  match (member "allOf").or ((member "oneOf").or (member "anyOf")) with
  | some (.arr items) => some (.combined items)
  | some _ => none
  | none =>
    match (member "properties").getD (.obj []) with
    | .obj properties =>
      if member "type" = some (.str "object") ∨ properties ≠ [] then some (.record properties)
      else if member "type" = some (.str "array") then some (.list ((member "items").getD (.obj [])))
      else some .leaf
    | _ => none

def formOfMembers (components : Json) (member : String → Option Json) : Option Form :=
  match member "$ref" with
  | some (.str ref) =>
    match resolveRef (.str ref) components with
    | .ok resolved => if resolved.truthy then none else some .leaf
    | .error _ => none
  | some _ => none
  | none => formOfPlain member

/-- The form of a schema; `none` where it is no schema of a document. -/
def formOf (components : Json) : Json → Option Form
  | .obj [] => some .nothing
  | .obj fields => formOfMembers components (Dict.get? fields)
  | schema => if schema.truthy then none else some .nothing

namespace Form

def schemas : Form → List Json
  | .combined items => items
  | .record properties => properties.map (·.2)
  | .list items => [items]
  | .nothing | .leaf => []

/-- The schemas in a form, with the names they stand under. -/
def children (parentKey : String) : Form → List (String × Json)
  | .combined items => items.map (parentKey, ·)
  | .record properties => properties.map fun e => (newKey parentKey e.1, e.2)
  | .list items => [(parentKey ++ "[]", items)]
  | .nothing | .leaf => []

/-- The fields of a form, from those of the schemas in it. -/
def close (parentKey : String) (nested : List String) : Form → List String
  | .nothing => []
  | .combined _ => nested
  | .record properties => if properties.isEmpty && parentKey != "" then nested ++ [parentKey] else nested
  | .list _ => if !nested.isEmpty then nested else if parentKey != "" then [parentKey ++ "[]"] else []
  | .leaf => if parentKey != "" then [parentKey] else []

theorem mem_schemas {form : Form} {parentKey : String} {c : String × Json} (mem : c ∈ form.children parentKey) :
    c.2 ∈ form.schemas := by
  cases form with
  | combined items =>
    obtain ⟨item, listed, rfl⟩ := List.mem_map.mp mem
    exact listed
  | record properties =>
    obtain ⟨e, listed, rfl⟩ := List.mem_map.mp mem
    exact List.mem_map.mpr ⟨e, listed, rfl⟩
  | list items =>
    rw [List.mem_singleton.mp mem]
    exact List.mem_singleton_self items
  | nothing | leaf => cases mem

end Form

variable {components schema : Json} {form : Form}

theorem extendEach_map {α β : Type} (names : β → Except PyError (List String)) (f : α → β) (items : List α) :
    extendEach names (items.map f) = extendEach (fun a => names (f a)) items := by
  unfold extendEach
  congr 1
  induction items with
  | nil => rfl
  | cons a items ih => rw [List.map_cons, List.mapM_cons, List.mapM_cons, ih]

/-- What the members of a dictionary are read as. -/
theorem formOf_obj {fields : Dict} (some_ : fields ≠ []) :
    formOf components (.obj fields) = formOfMembers components (Dict.get? fields) := by
  cases fields with
  | nil => exact absurd rfl some_
  | cons e fields => rfl

theorem extendEach_singleton {α : Type} (names : α → Except PyError (List String)) (a : α) :
    extendEach names [a] = names a := by
  unfold extendEach
  rw [List.mapM_cons]
  cases names a with
  | error e => rfl
  | ok l => exact congrArg Except.ok (List.append_nil l)

/-- A dictionary without a reference. -/
theorem flattenNode_form {fields : Dict} (is : formOfPlain (Dict.get? fields) = some form)
    (flatten : Json → String → Except PyError (List String)) (parentKey : String) :
    flattenNode flatten (.obj fields) parentKey =
      (extendEach (fun c => flatten c.2 c.1) (form.children parentKey)).map (form.close parentKey) := by
  have combined (items : List Json) : extendEach (flatten · parentKey) items =
      (extendEach (fun c => flatten c.2 c.1) ((Form.combined items).children parentKey)).map
        ((Form.combined items).close parentKey) := by
    rw [Form.children, extendEach_map]
    cases extendEach (flatten · parentKey) items <;> rfl
  unfold formOfPlain at is
  unfold flattenNode
  simp only [hasKey, fieldsOf, bind, Except.bind, pure, Except.pure, Dict.get]
  cases allOf : Dict.get? fields "allOf" with
  | some value =>
    rw [allOf, Option.some_or] at is
    cases value with
    | arr items =>
      obtain rfl := Option.some.inj is
      rw [← combined]
      simp [iterate]
    | _ => cases is
  | none =>
    rw [allOf, Option.none_or] at is
    cases oneOf : Dict.get? fields "oneOf" with
    | some value =>
      rw [oneOf, Option.some_or] at is
      cases value with
      | arr items =>
        obtain rfl := Option.some.inj is
        rw [← combined]
        simp [iterate]
      | _ => cases is
    | none =>
      rw [oneOf, Option.none_or] at is
      cases anyOf : Dict.get? fields "anyOf" with
      | some value =>
        rw [anyOf] at is
        cases value with
        | arr items =>
          obtain rfl := Option.some.inj is
          rw [← combined]
          simp [iterate]
        | _ => cases is
      | none =>
        rw [anyOf] at is
        have ofType (name : String) :
            ((Dict.get? fields "type").getD .null == .str name) = decide (Dict.get? fields "type" = some (.str name)) := by
          cases Dict.get? fields "type" with
          | none => rfl
          | some value => exact decide_eq_decide.mpr ⟨congrArg some, Option.some.inj⟩
        cases properties : (Dict.get? fields "properties").getD (.obj []) with
        | obj props =>
          simp only [properties] at is
          simp only [Option.isSome_none, Bool.false_eq_true, if_false, ofType]
          have truthy : (Json.obj props).truthy = decide (props ≠ []) := by cases props <;> rfl
          split at is
          · next isRecord =>
            obtain rfl := Option.some.inj is
            rw [if_pos (by rw [truthy]; simpa using isRecord), Form.children, extendEach_map]
            cases extendEach (fun e => flatten e.2 (newKey parentKey e.1)) props with
            | error e => rfl
            | ok names => cases props <;> rfl
          · next notRecord =>
            rw [if_neg (by rw [truthy]; simpa using notRecord)]
            split at is
            · next isList =>
              obtain rfl := Option.some.inj is
              rw [if_pos (decide_eq_true isList), Form.children, extendEach_singleton]
              cases flatten ((Dict.get? fields "items").getD (.obj [])) (parentKey ++ "[]") <;> rfl
            · next notList =>
              obtain rfl := Option.some.inj is
              rw [if_neg (by simpa using notList)]
              rfl
        | _ => simp [properties] at is

/-- **Forms.** `_flatten_schema` goes by the form of a schema. -/
theorem flattenSchema_form (is : formOf components schema = some form) (depth : Nat) (parentKey : String) :
    flattenSchema components (depth + 1) schema parentKey =
      (extendEach (fun c => flattenSchema components depth c.2 c.1) (form.children parentKey)).map
        (form.close parentKey) := by
  have nothing (empty : schema.truthy = false) : flattenSchema components (depth + 1) schema parentKey =
      (extendEach (fun c => flattenSchema components depth c.2 c.1) (Form.nothing.children parentKey)).map
        (Form.nothing.close parentKey) := by
    rw [flattenSchema, empty]
    rfl
  by_cases empty : schema.truthy = false
  · have isNothing : formOf components schema = some .nothing := by
      cases schema with
      | obj fields =>
        cases fields with
        | nil => rfl
        | cons e fields => cases empty
      | _ => simp only [formOf, empty]; rfl
    obtain rfl := Option.some.inj (isNothing.symm.trans is)
    exact nothing empty
  · rw [Bool.not_eq_false] at empty
    cases schema with
    | obj fields =>
      have some_ : fields ≠ [] := by
        rintro rfl
        cases empty
      rw [formOf_obj some_, formOfMembers] at is
      rw [flattenSchema, empty]
      simp only [follow, hasKey, fieldsOf, Dict.get, bind, Except.bind, pure, Except.pure]
      cases ref : Dict.get? fields "$ref" with
      | none =>
        rw [ref] at is
        exact flattenNode_form is _ parentKey
      | some value =>
        rw [ref] at is
        cases value with
        | str text =>
          dsimp only at is
          simp only [Option.getD_some]
          cases resolved : resolveRef (.str text) components with
          | error e => rw [resolved] at is; cases is
          | ok node =>
            rw [resolved] at is
            dsimp only at is
            split at is
            · cases is
            · next unresolved =>
              obtain rfl := Option.some.inj is
              simp only [Option.isSome_some, unresolved]
              exact flattenNode_form rfl _ parentKey
        | _ => cases is
    | _ => simp only [formOf, empty] at is; cases is

/-! ## The list of fields -/

/-- `_flatten_schema` returns this list, at every depth that is deep enough for it to return. -/
structure Yields (components : Json) (parentKey : String) (schema : Json) (names : List String) : Prop where
  settles : ∃ enough, ∀ depth, enough ≤ depth → flattenSchema components depth schema parentKey = .ok names
  only : ∀ depth others, flattenSchema components depth schema parentKey = .ok others → others = names

theorem extendEach_ok {α : Type} {names : α → Except PyError (List String)} {f : α → List String} {items : List α}
    (each : ∀ a ∈ items, names a = .ok (f a)) : extendEach names items = .ok (items.flatMap f) := by
  induction items with
  | nil => rfl
  | cons a items ih =>
    have rest := ih fun b mem => each b (List.mem_cons_of_mem a mem)
    obtain ⟨lists, results, flat⟩ := map_eq_ok.mp rest
    rw [extendEach, List.mapM_cons, each a List.mem_cons_self, ok_bind, results, ok_bind, List.flatMap_cons, ← flat]
    rfl

theorem extendEach_only {α : Type} {names : α → Except PyError (List String)} {f : α → List String} {items : List α}
    (each : ∀ a ∈ items, ∀ l, names a = .ok l → l = f a) {all : List String} (result : extendEach names items = .ok all) :
    all = items.flatMap f := by
  induction items generalizing all with
  | nil => exact (Except.ok.inj result).symm
  | cons a items ih =>
    rw [extendEach, List.mapM_cons] at result
    obtain ⟨lists, results, rfl⟩ := map_eq_ok.mp result
    obtain ⟨first, head, results⟩ := bind_eq_ok.mp results
    obtain ⟨rest, tail, results⟩ := bind_eq_ok.mp results
    obtain rfl := Except.ok.inj results
    have ofRest := ih (fun b mem => each b (List.mem_cons_of_mem a mem)) (map_eq_ok.mpr ⟨rest, tail, rfl⟩)
    rw [List.flatten_cons, List.flatMap_cons, ofRest, each a List.mem_cons_self first head]

/-- One depth is enough for all of finitely many schemas. -/
theorem enough_for_all {α : Type} {P : α → Nat → Prop} {items : List α}
    (each : ∀ a ∈ items, ∃ enough, ∀ depth, enough ≤ depth → P a depth) :
    ∃ enough, ∀ a ∈ items, ∀ depth, enough ≤ depth → P a depth := by
  induction items with
  | nil => exact ⟨0, nofun⟩
  | cons a items ih =>
    obtain ⟨first, ofFirst⟩ := each a List.mem_cons_self
    obtain ⟨rest, ofRest⟩ := ih fun b mem => each b (List.mem_cons_of_mem a mem)
    refine ⟨max first rest, fun b mem depth deep => ?_⟩
    rcases List.mem_cons.mp mem with rfl | mem
    · exact ofFirst depth (by omega)
    · exact ofRest b mem depth (by omega)

/-- The list of a form comes from the lists of the schemas in it. -/
theorem Yields.of_form (is : formOf components schema = some form) (parentKey : String)
    {f : String × Json → List String}
    (children : ∀ c ∈ form.children parentKey, Yields components c.1 c.2 (f c)) :
    Yields components parentKey schema (form.close parentKey ((form.children parentKey).flatMap f)) := by
  constructor
  · obtain ⟨enough, all⟩ := enough_for_all fun c mem => (children c mem).settles
    refine ⟨enough + 1, fun depth deep => ?_⟩
    obtain ⟨depth, rfl⟩ := Nat.exists_eq_add_of_le' (Nat.le_of_add_left_le deep)
    rw [flattenSchema_form is, extendEach_ok fun c mem => all c mem depth (by omega)]
    rfl
  · intro depth others result
    cases depth with
    | zero => cases result
    | succ depth =>
      rw [flattenSchema_form is] at result
      obtain ⟨nested, each, rfl⟩ := map_eq_ok.mp result
      rw [extendEach_only (fun c mem l found => (children c mem).only depth l found) each]

theorem Yields.unique {parentKey : String} {names others : List String}
    (yields : Yields components parentKey schema names) (yields' : Yields components parentKey schema others) :
    names = others := by
  obtain ⟨enough, settles⟩ := yields.settles
  exact yields'.only enough names (settles enough (Nat.le_refl enough))

/-- A schema of a document: it is well formed, and neither what stands in it nor what it refers to leads
back to it. -/
inductive IsSchema (components : Json) : Json → Prop where
  | intro (schema : Json) (form : Form) (is : formOf components schema = some form)
      (inner : ∀ s ∈ form.schemas, IsSchema components s)
      (named : ∀ definition, namedBy components schema = some definition → IsSchema components definition) :
      IsSchema components schema

/-- The list of fields of a schema, where there is one. -/
noncomputable def fields (components : Json) (parentKey : String) (schema : Json) : List String :=
  open Classical in
  if yields : ∃ names, Yields components parentKey schema names then yields.choose else []

/-- **Lists.** Every schema of a document has its list of fields. -/
theorem IsSchema.yields (is : IsSchema components schema) (parentKey : String) :
    Yields components parentKey schema (fields components parentKey schema) := by
  induction is generalizing parentKey with
  | intro schema form is _ _ ih _ =>
    have yields := Yields.of_form is parentKey fun c mem => ih c.2 (Form.mem_schemas mem) c.1
    have some_ : ∃ names, Yields components parentKey schema names := ⟨_, yields⟩
    rw [fields, dif_pos some_]
    exact some_.choose_spec

theorem IsSchema.has_form (is : IsSchema components schema) : ∃ form, formOf components schema = some form ∧
    ∀ s ∈ form.schemas, IsSchema components s := by
  cases is with
  | intro _ form is inner _ => exact ⟨form, is, inner⟩

theorem IsSchema.inner (is : IsSchema components schema) (has : formOf components schema = some form) :
    ∀ s ∈ form.schemas, IsSchema components s := by
  obtain ⟨form', is', inner⟩ := is.has_form
  obtain rfl := Option.some.inj (is'.symm.trans has)
  exact inner

theorem IsSchema.fields_eq (is : IsSchema components schema) (has : formOf components schema = some form)
    (parentKey : String) : fields components parentKey schema =
      form.close parentKey ((form.children parentKey).flatMap fun c => fields components c.1 c.2) :=
  (is.yields parentKey).unique
    (.of_form has parentKey fun c mem => (is.inner has c.2 (Form.mem_schemas mem)).yields c.1)

end ApiManger.OpenApi
