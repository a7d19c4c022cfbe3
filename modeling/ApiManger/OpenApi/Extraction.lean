import ApiManger.OpenApi.Parameters
import ApiManger.OpenApi.References

/-!
# Field extraction

What is read of an OpenAPI document should not depend on how it is written: a reference or its
definition, a property in a schema of a combinator or beside the combinator, a parameter declared
for a path or overridden by an operation. When it does not.
-/

namespace ApiManger.OpenApi
open Python Collection

/-- The list of fields that `_flatten_schema` returns for a schema under a name. -/
def FieldList (components : Json) (parentKey : String) (schema : Json) (names : List String) : Prop :=
  ∃ depth, flattenSchema components depth schema parentKey = .ok names

/-- The properties that are declared beside a combinator of the same schema. -/
def Beside (schema : Json) (properties : Dict) : Prop :=
  ∃ fields key, schema = .obj fields ∧ key ∈ combinators ∧ Dict.get? fields key ≠ none ∧
    Dict.get? fields "properties" = some (.obj properties)

/-- What is read does not depend on how the document is written. -/
structure Independent (components schema pathItem operation : Json) (pathEntries operationEntries : List Dict) :
    Prop where
  references : ∀ schema', Unfolds components schema schema' →
    ∀ names, FieldList components "" schema names ↔ FieldList components "" schema' names
  properties : ∀ properties, Beside schema properties → ∀ e ∈ properties, ∀ names nested,
    FieldList components "" schema names → FieldList components e.1 e.2 nested → ∀ name ∈ nested, name ∈ names
  parameters : ∃ unique, openapiParameters pathItem operation = .ok unique ∧
    OneEach pathEntries operationEntries unique

/-- The schema has no reference to a definition with fields, no fields beside a combinator that are not in
its schemas, and the operation overrides no parameter. -/
structure Plain (components schema : Json) (pathEntries operationEntries : List Dict) : Prop where
  fits : ∀ key excused definition, Reads components "" False schema key excused definition →
    Fits components key excused definition
  beside : ∀ properties, Beside schema properties → ∀ e ∈ properties, ∀ name, HasField components e.1 e.2 name →
    ∃ items, formOf components schema = some (.combined items) ∧ ∃ s ∈ items, HasField components "" s name
  overrides : NotOverridden pathEntries operationEntries

variable {components schema pathItem operation : Json} {pathEntries operationEntries : List Dict}

theorem IsSchema.fieldList_iff (is : IsSchema components schema) {parentKey : String} {names : List String} :
    FieldList components parentKey schema names ↔ names = fields components parentKey schema := by
  have yields := is.yields parentKey
  constructor
  · rintro ⟨depth, result⟩
    exact yields.only depth names result
  · rintro rfl
    obtain ⟨enough, settles⟩ := yields.settles
    exact ⟨enough, settles enough (Nat.le_refl enough)⟩

theorem references_iff (is : IsSchema components schema) :
    (∀ schema', Unfolds components schema schema' →
        ∀ names, FieldList components "" schema names ↔ FieldList components "" schema' names) ↔
      ∀ key excused definition, Reads components "" False schema key excused definition →
        Fits components key excused definition := by
  rw [← fields_unfold_iff is]
  refine forall₂_congr fun schema' unfolds => ?_
  simp only [is.fieldList_iff, (is.unfolds unfolds).fieldList_iff]
  constructor
  · intro same
    exact (same (fields components "" schema)).mp rfl
  · intro same names
    rw [same]

/-- A schema with a combinator is read by its combinator, or is a reference. -/
theorem Beside.form {properties : Dict} (beside : Beside schema properties) {form : Form}
    (is : formOf components schema = some form) : form = .leaf ∨ ∃ items, form = .combined items := by
  obtain ⟨fields, key, rfl, isOne, there, -⟩ := beside
  have some_ : fields ≠ [] := by
    rintro rfl
    exact there rfl
  rw [formOf_obj some_, formOfMembers] at is
  split at is
  · split at is
    · split at is
      · cases is
      · exact .inl (Option.some.inj is).symm
    · cases is
  · cases is
  · unfold formOfPlain at is
    split at is
    · next items _ => exact .inr ⟨items, (Option.some.inj is).symm⟩
    · cases is
    · next noCombinator =>
      simp only [Option.or_eq_none_iff] at noCombinator
      obtain ⟨allOf, oneOf, anyOf⟩ := noCombinator
      simp only [combinators, List.mem_cons, List.not_mem_nil, or_false] at isOne
      rcases isOne with rfl | rfl | rfl
      · exact absurd allOf there
      · exact absurd oneOf there
      · exact absurd anyOf there

/-- The fields of a schema with a combinator are those of the schemas of the combinator. -/
theorem Beside.hasField_iff {properties : Dict} (beside : Beside schema properties) (is : IsSchema components schema)
    (name : String) : HasField components "" schema name ↔
      ∃ items, formOf components schema = some (.combined items) ∧ ∃ s ∈ items, HasField components "" s name := by
  constructor
  · obtain ⟨form, has, -⟩ := is.has_form
    intro field
    rcases beside.form has with rfl | ⟨items, rfl⟩
    · have same {form : Form} (is : formOf components schema = some form) : Form.leaf = form :=
        Option.some.inj (has.symm.trans is)
      cases field with
      | leaf _ _ is named => exact absurd rfl named
      | combined _ _ _ _ _ is | property _ _ _ _ _ is | object _ _ is | item _ _ _ _ is | array _ _ _ is =>
        cases same is
    · have same {form : Form} (is : formOf components schema = some form) : Form.combined items = form :=
        Option.some.inj (has.symm.trans is)
      cases field with
      | combined _ _ items' s _ is mem field =>
        cases same is
        exact ⟨items, has, s, mem, field⟩
      | property _ _ _ _ _ is | object _ _ is | item _ _ _ _ is | array _ _ _ is | leaf _ _ is => cases same is
  · rintro ⟨items, has, s, mem, field⟩
    exact .combined "" schema items s name has mem field

def sampleText : Json := .obj [("type", .str "string")]

def sampleUser : Json := .obj [("type", .str "object"), ("properties", .obj [("id", sampleText)])]

/-- A document that defines a text and an object with one property. -/
def sampleComponents : Json := .obj [("schemas", .obj [("Id", sampleText), ("User", sampleUser)])]

def toDefinition (name : String) : Json := .obj [("$ref", .str ("#/components/schemas/" ++ name))]

/-- An object whose property is a text of the document. -/
def sampleSchema : Json := .obj [("properties", .obj [("id", toDefinition "Id")])]

/-- How the schemas of the document are read. -/
theorem samples_read : formOf sampleComponents sampleText = some .leaf ∧
    formOf sampleComponents sampleUser = some (.record [("id", sampleText)]) ∧
    formOf sampleComponents sampleSchema = some (.record [("id", toDefinition "Id")]) ∧
    formOf sampleComponents (toDefinition "Id") = some .leaf ∧
    namedBy sampleComponents (toDefinition "Id") = some sampleText := by decide +kernel

theorem isSchema_text : IsSchema sampleComponents sampleText :=
  .intro _ .leaf samples_read.1 (List.forall_mem_nil _) fun _ named => by cases named

theorem isSchema_user : IsSchema sampleComponents sampleUser :=
  .intro _ (.record [("id", sampleText)]) samples_read.2.1 (List.forall_mem_singleton.mpr isSchema_text)
    fun _ named => by cases named

theorem isSchema_reference {name : String} {definition : Json}
    (is : formOf sampleComponents (toDefinition name) = some .leaf)
    (names : namedBy sampleComponents (toDefinition name) = some definition)
    (isSchema : IsSchema sampleComponents definition) : IsSchema sampleComponents (toDefinition name) := by
  refine .intro _ .leaf is (List.forall_mem_nil _) fun definition' named => ?_
  obtain rfl := Option.some.inj (names.symm.trans named)
  exact isSchema

theorem isSchema_sample : IsSchema sampleComponents sampleSchema := by
  obtain ⟨-, -, form_sample, form_toId, named_toId⟩ := samples_read
  refine .intro _ _ form_sample (List.forall_mem_singleton.mpr ?_) fun _ named => by cases named
  exact isSchema_reference form_toId named_toId isSchema_text

theorem declares_none : Declares (.obj []) [] := ⟨⟨[], rfl, .inr ⟨rfl, rfl⟩⟩, List.forall_mem_nil _⟩

theorem no_combinator (properties : Dict) : ¬ Beside sampleSchema properties := by
  rintro ⟨fields, key, same, isOne, there, -⟩
  obtain rfl := Json.obj.inj same
  simp only [combinators, List.mem_cons, List.not_mem_nil, or_false] at isOne
  rcases isOne with rfl | rfl | rfl <;> exact there (by decide)

theorem plain_sample : Plain sampleComponents sampleSchema [] [] := by
  refine ⟨fun key excused definition reads => ?_, fun properties beside => absurd beside (no_combinator properties),
    fun before entry after split => absurd split (by simp)⟩
  obtain ⟨text, -, form_sample, form_toId, named_toId⟩ := samples_read
  cases reads with
  | here _ _ _ _ named => cases named
  | combined _ _ _ _ _ _ _ _ _ is | list _ _ _ _ _ _ _ is => rw [form_sample] at is; cases is
  | record _ _ _ before name s after _ _ _ is inner =>
    rw [form_sample] at is
    have split := Form.record.inj (Option.some.inj is)
    cases before with
    | cons e before => simp at split
    | nil =>
      obtain ⟨pair, rfl⟩ := List.cons.inj split
      obtain ⟨rfl, rfl⟩ := Prod.mk.inj pair
      cases inner with
      | here _ _ _ _ named =>
        obtain rfl := Option.some.inj (named_toId.symm.trans named)
        exact (if_neg (by decide)).mpr (.inl (.leaf _ text))
      | combined _ _ _ _ _ _ _ _ _ is | list _ _ _ _ _ _ _ is | record _ _ _ _ _ _ _ _ _ _ is =>
        rw [form_toId] at is
        cases is

end ApiManger.OpenApi
