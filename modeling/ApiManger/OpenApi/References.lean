import ApiManger.OpenApi.Shapes

/-!
# References in schemas

A reference may be written out: the schema that has the definition in its place says the same.
`_flatten_schema` does not follow the references `#/components/…`, and lists a field, or none, where
the definition may have others. Where in a schema it comes upon a reference, and what the definition
has to be like there for the list to stay the same.
-/

namespace ApiManger.OpenApi
open Python

variable {components schema schema' : Json} {form : Form} {parentKey : String}

def readMembers : List String := "$ref" :: "type" :: "properties" :: "items" :: combinators

/-- A local reference in a schema is replaced by the definition it names. -/
inductive Unfolds (components : Json) : Json → Json → Prop where
  | here (schema definition : Json) (named : namedBy components schema = some definition) :
      Unfolds components schema definition
  | combinator (fields : Dict) (key : String) (before : List Json) (s s' : Json) (after : List Json)
      (isOne : key ∈ combinators) (at_ : Dict.get? fields key = some (.arr (before ++ s :: after)))
      (inner : Unfolds components s s') :
      Unfolds components (.obj fields) (.obj (Dict.set fields key (.arr (before ++ s' :: after))))
  | property (fields before : Dict) (key : String) (s s' : Json) (after : Dict)
      (at_ : Dict.get? fields "properties" = some (.obj (before ++ (key, s) :: after)))
      (inner : Unfolds components s s') :
      Unfolds components (.obj fields) (.obj (Dict.set fields "properties" (.obj (before ++ (key, s') :: after))))
  | items (fields : Dict) (s s' : Json) (at_ : Dict.get? fields "items" = some s)
      (inner : Unfolds components s s') : Unfolds components (.obj fields) (.obj (Dict.set fields "items" s'))
  /-- In a member that is not read, such as `not`, whatever becomes of it. -/
  | unread (fields : Dict) (key : String) (value : Json) (other : key ∉ readMembers)
      (there : Dict.get? fields key ≠ none) :
      Unfolds components (.obj fields) (.obj (Dict.set fields key value))

/-! ## The form of what was written out -/

theorem get?_set (d : Dict) (key other : String) (value : Json) :
    Dict.get? (Dict.set d key value) other = if other = key then some value else Dict.get? d other := by
  split
  · next same => rw [same, Dict.get?_set_self]
  · next ne => rw [Dict.get?_set_ne d value ne]

theorem set_ne_nil (d : Dict) (key : String) (value : Json) : Dict.set d key value ≠ [] := by
  intro empty
  have found := Dict.get?_set_self d key value
  rw [empty] at found
  cases found

/-- The form of a dictionary goes by the members that are read. -/
theorem formOfMembers_congr {member member' : String → Option Json}
    (agree : ∀ key ∈ readMembers, member' key = member key) :
    formOfMembers components member' = formOfMembers components member := by
  simp only [readMembers, combinators, List.forall_mem_cons, List.not_mem_nil, IsEmpty.forall_iff, implies_true,
    and_true] at agree
  obtain ⟨ref, type, properties, items, allOf, oneOf, anyOf⟩ := agree
  simp only [formOfMembers, formOfPlain, ref, type, properties, items, allOf, oneOf, anyOf]

/-- What becomes of the form of a schema in which a reference is written out. -/
inductive FormUnfolds (components schema' : Json) (named : Option Json) : Form → Prop where
  | here (is : named = some schema') : FormUnfolds components schema' named .leaf
  | same (form : Form) (is : formOf components schema' = some form)
      (named' : namedBy components schema' = named) : FormUnfolds components schema' named form
  | combined (before : List Json) (s s' : Json) (after : List Json)
      (is : formOf components schema' = some (.combined (before ++ s' :: after)))
      (plain : namedBy components schema' = none) (inner : Unfolds components s s') :
      FormUnfolds components schema' named (.combined (before ++ s :: after))
  | record (before : Dict) (key : String) (s s' : Json) (after : Dict)
      (is : formOf components schema' = some (.record (before ++ (key, s') :: after)))
      (plain : namedBy components schema' = none) (inner : Unfolds components s s') :
      FormUnfolds components schema' named (.record (before ++ (key, s) :: after))
  | list (s s' : Json) (is : formOf components schema' = some (.list s'))
      (plain : namedBy components schema' = none) (inner : Unfolds components s s') :
      FormUnfolds components schema' named (.list s)

/-- A member beside the reference of a schema is not read; without a reference the form is that of the members. -/
theorem formOf_set (components : Json) {fields : Dict} {key : String} (some_ : fields ≠ []) (notRef : key ≠ "$ref")
    (value : Json) :
    (formOf components (.obj (Dict.set fields key value)) = formOf components (.obj fields) ∧
        namedBy components (.obj (Dict.set fields key value)) = namedBy components (.obj fields)) ∨
      (formOf components (.obj fields) = formOfPlain (Dict.get? fields) ∧ namedBy components (.obj fields) = none ∧
        formOf components (.obj (Dict.set fields key value)) =
          formOfPlain (fun other => if other = key then some value else Dict.get? fields other) ∧
        namedBy components (.obj (Dict.set fields key value)) = none) := by
  have unread : Dict.get? (Dict.set fields key value) "$ref" = Dict.get? fields "$ref" :=
    Dict.get?_set_ne fields value notRef.symm
  have members : Dict.get? (Dict.set fields key value) =
      fun other => if other = key then some value else Dict.get? fields other :=
    funext fun other => get?_set fields key other value
  rw [formOf_obj some_, formOf_obj (set_ne_nil fields key value), formOfMembers, formOfMembers, namedBy, namedBy,
    unread]
  cases Dict.get? fields "$ref" with
  | some ref => cases ref <;> exact .inl ⟨rfl, rfl⟩
  | none => exact .inr ⟨rfl, rfl, congrArg formOfPlain members, rfl⟩

/-- A schema that names a definition is read as a single value. -/
theorem form_of_named {definition : Json} (named : namedBy components schema = some definition)
    (is : formOf components schema = some form) : form = .leaf := by
  cases schema with
  | obj fields =>
    have some_ : fields ≠ [] := by
      rintro rfl
      cases named
    rw [formOf_obj some_, formOfMembers] at is
    rw [namedBy] at named
    cases ref : Dict.get? fields "$ref" with
    | none => rw [ref] at named; cases named
    | some value =>
      rw [ref] at named is
      cases value with
      | str text =>
        dsimp only at is
        split at is
        · split at is
          · cases is
          · exact (Option.some.inj is).symm
        · cases is
      | _ => cases named
  | _ => cases named

/-- The schemas of the combinator that is read, after those of some combinator were changed. -/
theorem first_set {fields : Dict} {key : String} {items : List Json} (items' : List Json) (isOne : key ∈ combinators)
    (at_ : Dict.get? fields key = some (.arr items)) {first first' : Option Json}
    (is : first = (Dict.get? fields "allOf").or ((Dict.get? fields "oneOf").or (Dict.get? fields "anyOf")))
    (is' : first' = (if "allOf" = key then some (.arr items') else Dict.get? fields "allOf").or
      ((if "oneOf" = key then some (.arr items') else Dict.get? fields "oneOf").or
        (if "anyOf" = key then some (.arr items') else Dict.get? fields "anyOf"))) :
    (first ≠ none ∧ first' = first) ∨ (first = some (.arr items) ∧ first' = some (.arr items')) := by
  simp only [combinators, List.mem_cons, List.not_mem_nil, or_false] at isOne
  rcases isOne with rfl | rfl | rfl
  · rw [at_] at is
    exact .inr ⟨is, is'⟩
  · simp only [String.reduceEq, if_false, if_true] at is'
    rw [at_] at is
    cases all : Dict.get? fields "allOf" with
    | some value =>
      rw [all, Option.some_or] at is is'
      exact .inl ⟨by rw [is]; exact Option.some_ne_none value, is'.trans is.symm⟩
    | none =>
      rw [all, Option.none_or, Option.some_or] at is is'
      exact .inr ⟨is, is'⟩
  · simp only [String.reduceEq, if_false, if_true] at is'
    rw [at_] at is
    cases before : (Dict.get? fields "allOf").or (Dict.get? fields "oneOf") with
    | some value =>
      rw [← Option.or_assoc, before, Option.some_or] at is is'
      exact .inl ⟨by rw [is]; exact Option.some_ne_none value, is'.trans is.symm⟩
    | none =>
      rw [← Option.or_assoc, before, Option.none_or] at is is'
      exact .inr ⟨is, is'⟩

/-- **Forms.** What writing out a reference does to the form of a schema. -/
theorem Unfolds.reads (unfolds : Unfolds components schema schema') (is : formOf components schema = some form) :
    FormUnfolds components schema' (namedBy components schema) form := by
  cases unfolds with
  | here _ _ named =>
    obtain rfl := form_of_named named is
    exact .here named
  | combinator fields key before s s' after isOne at_ inner =>
    have some_ : fields ≠ [] := by
      rintro rfl
      cases at_
    have notRead : key ≠ "$ref" ∧ key ≠ "properties" ∧ key ≠ "type" ∧ key ≠ "items" := by
      simp only [combinators, List.mem_cons, List.not_mem_nil, or_false] at isOne
      rcases isOne with rfl | rfl | rfl <;> decide
    obtain ⟨notRef, notProperties, notType, notItems⟩ := notRead
    rcases formOf_set components some_ notRef (.arr (before ++ s' :: after)) with
      ⟨same, named'⟩ | ⟨plain, named, is', named'⟩
    · exact .same form (same.trans is) named'
    · rw [plain, formOfPlain] at is
      rw [formOfPlain, if_neg notProperties.symm, if_neg notType.symm, if_neg notItems.symm] at is'
      rcases first_set (before ++ s' :: after) isOne at_ rfl rfl with ⟨-, same⟩ | ⟨first, first'⟩
      · rw [same] at is'
        exact .same form (is'.trans is) (named'.trans named.symm)
      · rw [first] at is
        rw [first'] at is'
        obtain rfl := Option.some.inj is
        exact .combined before s s' after is' named' inner
  | property fields before key s s' after at_ inner =>
    have some_ : fields ≠ [] := by
      rintro rfl
      cases at_
    rcases formOf_set components some_ (show "properties" ≠ "$ref" by decide)
      (.obj (before ++ (key, s') :: after)) with ⟨same, named'⟩ | ⟨plain, named, is', named'⟩
    · exact .same form (same.trans is) named'
    · rw [plain, formOfPlain] at is
      simp only [formOfPlain, String.reduceEq, if_false, if_true, Option.getD_some] at is'
      cases first : (Dict.get? fields "allOf").or ((Dict.get? fields "oneOf").or (Dict.get? fields "anyOf")) with
      | some value =>
        rw [first] at is is'
        cases value with
        | arr items => exact .same form (is'.trans is) (named'.trans named.symm)
        | _ => cases is
      | none =>
        rw [first, at_] at is
        rw [first] at is'
        simp only [Option.getD_some, ne_eq, List.append_eq_nil_iff, reduceCtorEq, and_false, not_false_eq_true, or_true,
          if_true] at is is'
        obtain rfl := Option.some.inj is
        exact .record before key s s' after is' named' inner
  | items fields s s' at_ inner =>
    have some_ : fields ≠ [] := by
      rintro rfl
      cases at_
    rcases formOf_set components some_ (show "items" ≠ "$ref" by decide) s' with
      ⟨same, named'⟩ | ⟨plain, named, is', named'⟩
    · exact .same form (same.trans is) named'
    · rw [plain, formOfPlain] at is
      simp only [formOfPlain, String.reduceEq, if_false, if_true, Option.getD_some] at is'
      cases first : (Dict.get? fields "allOf").or ((Dict.get? fields "oneOf").or (Dict.get? fields "anyOf")) with
      | some value =>
        rw [first] at is is'
        cases value with
        | arr items => exact .same form (is'.trans is) (named'.trans named.symm)
        | _ => cases is
      | none =>
        rw [first] at is is'
        cases properties : (Dict.get? fields "properties").getD (.obj []) with
        | obj props =>
          simp only [properties, at_, Option.getD_some] at is is'
          split at is
          · next isRecord =>
            rw [if_pos isRecord] at is'
            exact .same form (is'.trans is) (named'.trans named.symm)
          · next notRecord =>
            rw [if_neg notRecord] at is'
            split at is
            · next isList =>
              rw [if_pos isList] at is'
              obtain rfl := Option.some.inj is
              exact .list s s' is' named' inner
            · next notList =>
              rw [if_neg notList] at is'
              exact .same form (is'.trans is) (named'.trans named.symm)
        | _ => simp only [properties] at is; cases is
  | unread fields key value other there =>
    have some_ : fields ≠ [] := by
      rintro rfl
      exact there rfl
    have agree : ∀ k ∈ readMembers, Dict.get? (Dict.set fields key value) k = Dict.get? fields k :=
      fun k read => Dict.get?_set_ne fields value fun same => other (same ▸ read)
    refine .same form ?_ ?_
    · rw [formOf_obj (set_ne_nil fields key value), formOfMembers_congr agree, ← formOf_obj some_]
      exact is
    · rw [namedBy, namedBy, agree "$ref" List.mem_cons_self]

/-- A schema in which a reference is written out is a schema of the document. -/
theorem IsSchema.unfolds (is : IsSchema components schema) (unfolds : Unfolds components schema schema') :
    IsSchema components schema' := by
  induction is generalizing schema' with
  | intro schema form has inner named ih _ =>
    have noName {s : Json} (plain : namedBy components s = none) :
        ∀ definition, namedBy components s = some definition → IsSchema components definition := by
      intro definition is
      rw [plain] at is
      cases is
    cases unfolds.reads has with
    | here is => exact named schema' is
    | same _ is named' => exact .intro schema' form is inner (named' ▸ named)
    | combined before s s' after is plain unfolded =>
      refine .intro schema' _ is (fun t mem => ?_) (noName plain)
      have old (u : Json) (mem : u ∈ before ++ s :: after) : IsSchema components u := inner u mem
      rcases List.mem_append.mp mem with mem | mem
      · exact old t (List.mem_append_left _ mem)
      · rcases List.mem_cons.mp mem with rfl | mem
        · exact ih s (List.mem_append_right before List.mem_cons_self) unfolded
        · exact old t (List.mem_append_right before (List.mem_cons_of_mem s mem))
    | record before key s s' after is plain unfolded =>
      refine .intro schema' _ is (fun t mem => ?_) (noName plain)
      have old (e : String × Json) (mem : e ∈ before ++ (key, s) :: after) : IsSchema components e.2 :=
        inner e.2 (List.mem_map_of_mem mem)
      obtain ⟨e, listed, rfl⟩ := List.mem_map.mp mem
      rcases List.mem_append.mp listed with listed | listed
      · exact old e (List.mem_append_left _ listed)
      · rcases List.mem_cons.mp listed with rfl | listed
        · exact ih s (List.mem_map.mpr ⟨(key, s), List.mem_append_right before List.mem_cons_self, rfl⟩) unfolded
        · exact old e (List.mem_append_right before (List.mem_cons_of_mem _ listed))
    | list s s' is plain unfolded =>
      refine .intro schema' _ is (fun t mem => ?_) (noName plain)
      rw [List.mem_singleton.mp mem]
      exact ih s (List.mem_singleton_self s) unfolded

/-! ## Where a reference is read -/

/-- In a schema under the first name a reference is read under the second one. In the items of an array
with a name it is excused where it is all there is to them, for an array without fields has its own name
for one; the propositions say whether it is. -/
inductive Reads (components : Json) : String → Prop → Json → String → Prop → Json → Prop where
  | here (parentKey : String) (excused : Prop) (schema definition : Json)
      (named : namedBy components schema = some definition) :
      Reads components parentKey excused schema parentKey excused definition
  | combined (parentKey : String) (excused : Prop) (schema : Json) (before : List Json) (s : Json)
      (after : List Json) (key : String) (excused' : Prop) (definition : Json)
      (is : formOf components schema = some (.combined (before ++ s :: after)))
      (inner : Reads components parentKey
        (excused ∧ ∀ t ∈ before ++ after, Fieldless components (parentKey == "") t) s key excused' definition) :
      Reads components parentKey excused schema key excused' definition
  | record (parentKey : String) (excused : Prop) (schema : Json) (before : Dict) (name : String) (s : Json)
      (after : Dict) (key : String) (excused' : Prop) (definition : Json)
      (is : formOf components schema = some (.record (before ++ (name, s) :: after)))
      (inner : Reads components (newKey parentKey name) False s key excused' definition) :
      Reads components parentKey excused schema key excused' definition
  | list (parentKey : String) (excused : Prop) (schema s : Json) (key : String) (excused' : Prop)
      (definition : Json) (is : formOf components schema = some (.list s))
      (inner : Reads components (parentKey ++ "[]") (parentKey ≠ "") s key excused' definition) :
      Reads components parentKey excused schema key excused' definition

/-- The definition has the fields that the reference to it is taken to have: its own name, if there is one. -/
def Fits (components : Json) (key : String) (excused : Prop) (definition : Json) : Prop :=
  if key = "" then Fieldless components true definition
  else Single components definition ∨ (excused ∧ Fieldless components false definition)

/-- The lists are the same, as far as it matters to what is around them. -/
def Alike (key : String) (excused : Prop) (names names' : List String) : Prop :=
  names = names' ∨ (excused ∧ key ≠ "" ∧ (names = [] ∨ names = [key]) ∧ (names' = [] ∨ names' = [key]))

variable {excused : Prop} {names names' before after : List String} {key : String}

theorem alike_here (is : IsSchema components schema) :
    Alike key excused (Form.leaf.close key []) (fields components key schema) ↔
      Fits components key excused schema := by
  unfold Alike Fits
  by_cases top : key = ""
  · subst top
    have single : Form.leaf.close "" [] = [] := rfl
    rw [if_pos rfl, single, eq_comm, is.fields_eq_nil]
    exact ⟨fun alike => alike.resolve_right fun other => other.2.1 rfl, .inl⟩
  · have single : Form.leaf.close key [] = [key] := by simp [Form.close, top]
    have notTop : (key == "") = false := beq_eq_false_iff_ne.mpr top
    rw [if_neg top, single, eq_comm, is.fields_eq_single top, is.fields_eq_nil, notTop]
    constructor
    · rintro (one | ⟨is, -, -, none_ | one⟩)
      · exact .inl one
      · exact .inr ⟨is, none_⟩
      · exact .inl one
    · rintro (one | ⟨is, none_⟩)
      · exact .inl one
      · exact .inr ⟨is, top, .inr rfl, .inl none_⟩

theorem alike_combined : Alike key excused (before ++ (names ++ after)) (before ++ (names' ++ after)) ↔
    Alike key (excused ∧ before = [] ∧ after = []) names names' := by
  unfold Alike
  rw [List.append_cancel_left_eq, List.append_cancel_right_eq]
  constructor
  · rintro (same | ⟨is, named, all, all'⟩)
    · exact .inl same
    · have empty {l : List String} (none_ : before ++ (l ++ after) = []) : before = [] ∧ l = [] ∧ after = [] := by
        simpa [and_assoc] using none_
      have equal (same : before ++ (names ++ after) = before ++ (names' ++ after)) : names = names' := by
        simpa using same
      rcases all with none_ | one <;> rcases all' with none' | one'
      · exact .inl (equal (none_.trans none'.symm))
      · obtain ⟨rfl, rfl, rfl⟩ := empty none_
        exact .inr ⟨⟨is, rfl, rfl⟩, named, .inl rfl, .inr (by simpa using one')⟩
      · obtain ⟨rfl, rfl, rfl⟩ := empty none'
        exact .inr ⟨⟨is, rfl, rfl⟩, named, .inr (by simpa using one), .inl rfl⟩
      · exact .inl (equal (one.trans one'.symm))
  · rintro (same | ⟨⟨is, rfl, rfl⟩, named, all, all'⟩)
    · exact .inl same
    · refine .inr ⟨is, named, ?_, ?_⟩
      · simpa using all
      · simpa using all'

theorem eq_nil_of_longer {l : List String} (longer : ∀ name ∈ names, key.length < name.length)
    (part : ∀ name ∈ names, name ∈ l) (all : l = [] ∨ l = [key]) : names = [] := by
  refine List.eq_nil_iff_forall_not_mem.mpr fun name mem => ?_
  have long := longer name mem
  have listed := part name mem
  rcases all with rfl | rfl
  · cases listed
  · rw [List.mem_singleton.mp listed] at long
    exact Nat.lt_irrefl _ long

theorem alike_record {inner : String} (longer : key ≠ "" → ∀ name ∈ names, key.length < name.length)
    (longer' : key ≠ "" → ∀ name ∈ names', key.length < name.length) :
    Alike key excused (before ++ (names ++ after)) (before ++ (names' ++ after)) ↔
      Alike inner False names names' := by
  unfold Alike
  rw [List.append_cancel_left_eq, List.append_cancel_right_eq]
  constructor
  · rintro (same | ⟨-, named, all, all'⟩)
    · exact .inl same
    · have none_ := eq_nil_of_longer (longer named) (fun name mem => by simp [mem]) all
      have none' := eq_nil_of_longer (longer' named) (fun name mem => by simp [mem]) all'
      exact .inl (none_.trans none'.symm)
  · rintro (same | ⟨never, -⟩)
    · exact .inl same
    · exact never.elim

theorem alike_list {items items' : Json} (longer : ∀ name ∈ names, (key ++ "[]").length ≤ name.length)
    (longer' : ∀ name ∈ names', (key ++ "[]").length ≤ name.length) :
    Alike key excused ((Form.list items).close key names) ((Form.list items').close key names') ↔
      Alike (key ++ "[]") (key ≠ "") names names' := by
  have notTop : key ++ "[]" ≠ "" := beq_eq_false_iff_ne.mp (not_top_items key)
  have never {l : List String} {items : Json} (named : key ≠ "")
      (long : ∀ name ∈ l, (key ++ "[]").length ≤ name.length)
      (all : (Form.list items).close key l = [] ∨ (Form.list items).close key l = [key]) : False := by
    have longer : ∀ name ∈ (Form.list items).close key l, key.length < name.length := by
      intro name mem
      simp only [Form.close] at mem
      split at mem
      · exact Nat.lt_of_lt_of_le items_length (long name mem)
      · rw [if_pos (by simpa using named)] at mem
        rw [List.mem_singleton.mp mem]
        exact items_length
    have none_ := eq_nil_of_longer longer (fun _ mem => mem) all
    simp only [Form.close] at none_
    split at none_
    · next some_ => simp [none_] at some_
    · rw [if_pos (by simpa using named)] at none_
      cases none_
  have closed (items : Json) : (Form.list items).close key [] = if key = "" then [] else [key ++ "[]"] := by
    by_cases top : key = "" <;> simp [Form.close, top]
  have kept (items : Json) (name : String) (l : List String) : (Form.list items).close key (name :: l) = name :: l :=
    rfl
  unfold Alike
  constructor
  · rintro (same | ⟨-, named, all, -⟩)
    · cases names with
      | nil =>
        cases names' with
        | nil => exact .inl rfl
        | cons name names' =>
          rw [closed, kept] at same
          split at same
          · cases same
          · next named => exact .inr ⟨named, notTop, .inl rfl, .inr same.symm⟩
      | cons name names =>
        cases names' with
        | nil =>
          rw [closed, kept] at same
          split at same
          · cases same
          · next named => exact .inr ⟨named, notTop, .inr same, .inl rfl⟩
        | cons name' names' => exact .inl same
    · exact (never named longer all).elim
  · rintro (rfl | ⟨named, -, all, all'⟩)
    · cases names with
      | nil => exact .inl ((closed items).trans (closed items').symm)
      | cons name names => exact .inl rfl
    · have one {l : List String} (items : Json) (all : l = [] ∨ l = [key ++ "[]"]) :
          (Form.list items).close key l = [key ++ "[]"] := by
        rcases all with rfl | rfl
        · rw [closed, if_neg named]
        · rfl
      exact .inl ((one items all).trans (one items' all').symm)

/-! ## Writing out a reference -/

/-- The fields of a schema around one of the schemas in it. -/
theorem fields_combined {before : List Json} {s : Json} {after : List Json} (is : IsSchema components schema)
    (has : formOf components schema = some (.combined (before ++ s :: after))) (parentKey : String) :
    fields components parentKey schema = before.flatMap (fields components parentKey) ++
      (fields components parentKey s ++ after.flatMap (fields components parentKey)) := by
  rw [is.fields_eq has]
  simp [Form.close, Form.children, List.flatMap_map]

theorem fields_record {before : Dict} {name : String} {s : Json} {after : Dict} (is : IsSchema components schema)
    (has : formOf components schema = some (.record (before ++ (name, s) :: after))) (parentKey : String) :
    fields components parentKey schema =
      (before.flatMap fun e => fields components (newKey parentKey e.1) e.2) ++
        (fields components (newKey parentKey name) s ++
          after.flatMap fun e => fields components (newKey parentKey e.1) e.2) := by
  rw [is.fields_eq has]
  simp [Form.close, Form.children, List.flatMap_map]

theorem fields_list {s : Json} (is : IsSchema components schema) (has : formOf components schema = some (.list s))
    (parentKey : String) : fields components parentKey schema =
      (Form.list s).close parentKey (fields components (parentKey ++ "[]") s) := by
  rw [is.fields_eq has]
  simp [Form.children]

theorem fields_leaf (is : IsSchema components schema) (has : formOf components schema = some .leaf)
    (parentKey : String) : fields components parentKey schema = Form.leaf.close parentKey [] := by
  rw [is.fields_eq has]
  rfl

/-- Other schemas of a combinator have no fields. -/
theorem siblings_fieldless {before : List Json} {s : Json} {after : List Json} (is : IsSchema components schema)
    (has : formOf components schema = some (.combined (before ++ s :: after))) (parentKey : String) :
    (before.flatMap (fields components parentKey) = [] ∧ after.flatMap (fields components parentKey) = []) ↔
      ∀ t ∈ before ++ after, Fieldless components (parentKey == "") t := by
  rw [List.flatMap_eq_nil_iff, List.flatMap_eq_nil_iff, ← List.forall_mem_append]
  refine forall₂_congr fun t mem => ?_
  have listed : t ∈ before ++ s :: after := by
    rcases List.mem_append.mp mem with mem | mem
    · exact List.mem_append_left _ mem
    · exact List.mem_append_right before (List.mem_cons_of_mem s mem)
  exact (is.inner has t listed).fields_eq_nil parentKey

section
variable {s s' : Json} (is : IsSchema components schema) (is' : IsSchema components schema')
include is is'

/-- A combinator passes on what is read in one of its schemas. -/
theorem frame_combined {before after : List Json}
    (has : formOf components schema = some (.combined (before ++ s :: after)))
    (has' : formOf components schema' = some (.combined (before ++ s' :: after))) :
    Alike parentKey excused (fields components parentKey schema) (fields components parentKey schema') ↔
      Alike parentKey (excused ∧ ∀ t ∈ before ++ after, Fieldless components (parentKey == "") t)
        (fields components parentKey s) (fields components parentKey s') := by
  rw [fields_combined is has, fields_combined is' has', alike_combined, siblings_fieldless is has]

/-- The name of a property is longer than that of its schema. -/
theorem frame_record {before after : Dict} {name : String}
    (has : formOf components schema = some (.record (before ++ (name, s) :: after)))
    (has' : formOf components schema' = some (.record (before ++ (name, s') :: after))) :
    Alike parentKey excused (fields components parentKey schema) (fields components parentKey schema') ↔
      Alike (newKey parentKey name) False (fields components (newKey parentKey name) s)
        (fields components (newKey parentKey name) s') := by
  have longer {schema s : Json} (is : IsSchema components schema)
      (has : formOf components schema = some (.record (before ++ (name, s) :: after))) (named : parentKey ≠ "") :
      ∀ field ∈ fields components (newKey parentKey name) s, parentKey.length < field.length := by
    intro field mem
    have listed : s ∈ (Form.record (before ++ (name, s) :: after)).schemas :=
      List.mem_map.mpr ⟨(name, s), List.mem_append_right before List.mem_cons_self, rfl⟩
    exact Nat.lt_of_lt_of_le (newKey_length named) ((is.inner has s listed).length_le _ field mem)
  rw [fields_record is has, fields_record is' has', alike_record (longer is has) (longer is' has')]

/-- An array without fields has its own name for one. -/
theorem frame_list (has : formOf components schema = some (.list s))
    (has' : formOf components schema' = some (.list s')) :
    Alike parentKey excused (fields components parentKey schema) (fields components parentKey schema') ↔
      Alike (parentKey ++ "[]") (parentKey ≠ "") (fields components (parentKey ++ "[]") s)
        (fields components (parentKey ++ "[]") s') := by
  have inner := is.inner has s (List.mem_singleton_self s)
  have inner' := is'.inner has' s' (List.mem_singleton_self s')
  rw [fields_list is has, fields_list is' has', alike_list (inner.length_le _) (inner'.length_le _)]

end

/-- Where all definitions fit, the list stays the same whatever reference is written out. -/
theorem alike_of_fits (is : IsSchema components schema) (unfolds : Unfolds components schema schema')
    (parentKey : String) (excused : Prop)
    (fit : ∀ key excused' definition, Reads components parentKey excused schema key excused' definition →
      Fits components key excused' definition) :
    Alike parentKey excused (fields components parentKey schema) (fields components parentKey schema') := by
  induction is generalizing schema' parentKey excused with
  | intro schema form has inner named ih _ =>
    have isSchema := IsSchema.intro schema form has inner named
    have isSchema' := isSchema.unfolds unfolds
    cases unfolds.reads has with
    | here is =>
      rw [fields_leaf isSchema has, alike_here isSchema']
      exact fit _ _ _ (.here parentKey excused schema schema' is)
    | same _ is named' =>
      refine .inl ?_
      rw [isSchema.fields_eq has, isSchema'.fields_eq is]
    | combined before s s' after is plain unfolded =>
      rw [frame_combined isSchema isSchema' has is]
      refine ih s (List.mem_append_right before List.mem_cons_self) unfolded _ _ fun key excused' definition reads => ?_
      exact fit key excused' definition (.combined _ _ _ before s after _ _ _ has reads)
    | record before key s s' after is plain unfolded =>
      rw [frame_record isSchema isSchema' has is]
      have listed : s ∈ (Form.record (before ++ (key, s) :: after)).schemas :=
        List.mem_map.mpr ⟨(key, s), List.mem_append_right before List.mem_cons_self, rfl⟩
      refine ih s listed unfolded _ _ fun name excused' definition reads => ?_
      exact fit name excused' definition (.record _ _ _ before key s after _ _ _ has reads)
    | list s s' is plain unfolded =>
      rw [frame_list isSchema isSchema' has is]
      refine ih s (List.mem_singleton_self s) unfolded _ _ fun key excused' definition reads => ?_
      exact fit key excused' definition (.list _ _ _ s _ _ _ has reads)

/-! ## What is read can be written out -/

/-- A schema with schemas in it is a dictionary without a reference. -/
theorem plain_of_form (is : formOf components schema = some form) (some_ : form.schemas ≠ []) :
    ∃ fields, schema = .obj fields ∧ Dict.get? fields "$ref" = none ∧ formOfPlain (Dict.get? fields) = some form := by
  have notLeaf : form ≠ .leaf := by rintro rfl; exact some_ rfl
  have notNothing : form ≠ .nothing := by rintro rfl; exact some_ rfl
  cases schema with
  | obj fields =>
    cases fields with
    | nil => exact absurd (Option.some.inj is).symm notNothing
    | cons e fields =>
      refine ⟨e :: fields, rfl, ?_⟩
      rw [formOf_obj (List.cons_ne_nil e fields), formOfMembers] at is
      split at is
      · split at is
        · split at is
          · cases is
          · exact absurd (Option.some.inj is).symm notLeaf
        · cases is
      · cases is
      · next plain => exact ⟨plain, is⟩
  | _ =>
    simp only [formOf] at is
    split at is
    · cases is
    · exact absurd (Option.some.inj is).symm notNothing

theorem formOf_set_plain {fields : Dict} (plain : Dict.get? fields "$ref" = none) {key : String}
    (notRef : key ≠ "$ref") (value : Json) : formOf components (.obj (Dict.set fields key value)) =
      formOfPlain fun other => if other = key then some value else Dict.get? fields other := by
  have members : Dict.get? (Dict.set fields key value) =
      fun other => if other = key then some value else Dict.get? fields other :=
    funext fun other => get?_set fields key other value
  rw [formOf_obj (set_ne_nil fields key value), formOfMembers, Dict.get?_set_ne fields value notRef.symm, plain,
    ← members]

theorem unfold_combined {before after : List Json} {s s' : Json}
    (is : formOf components schema = some (.combined (before ++ s :: after))) (inner : Unfolds components s s') :
    ∃ schema', Unfolds components schema schema' ∧
      formOf components schema' = some (.combined (before ++ s' :: after)) := by
  obtain ⟨fields, rfl, plain, has⟩ := plain_of_form is (by simp [Form.schemas])
  have combined {member : String → Option Json} {items : List Json}
      (has : formOfPlain member = some (.combined items)) :
      (member "allOf").or ((member "oneOf").or (member "anyOf")) = some (.arr items) := by
    unfold formOfPlain at has
    split at has
    · next first =>
      rw [first, Form.combined.inj (Option.some.inj has)]
    · cases has
    · split at has
      · split at has
        · cases has
        · split at has <;> cases has
      · cases has
  have of_key {key : String} (isOne : key ∈ combinators) (notRef : key ≠ "$ref")
      (at_ : Dict.get? fields key = some (.arr (before ++ s :: after)))
      (first : formOfPlain (fun other => if other = key then some (.arr (before ++ s' :: after))
        else Dict.get? fields other) = some (.combined (before ++ s' :: after))) :
      ∃ schema', Unfolds components (.obj fields) schema' ∧
        formOf components schema' = some (.combined (before ++ s' :: after)) :=
    ⟨_, .combinator fields key before s s' after isOne at_ inner, (formOf_set_plain plain notRef _).trans first⟩
  have first := combined has
  cases allOf : Dict.get? fields "allOf" with
  | some value =>
    rw [allOf, Option.some_or] at first
    exact of_key (by decide : "allOf" ∈ combinators) (by decide) (allOf.trans first) rfl
  | none =>
    rw [allOf, Option.none_or] at first
    cases oneOf : Dict.get? fields "oneOf" with
    | some value =>
      rw [oneOf, Option.some_or] at first
      refine of_key (by decide : "oneOf" ∈ combinators) (by decide) (oneOf.trans first) ?_
      simp [formOfPlain, allOf]
    | none =>
      rw [oneOf, Option.none_or] at first
      refine of_key (by decide : "anyOf" ∈ combinators) (by decide) first ?_
      simp [formOfPlain, allOf, oneOf]

theorem unfold_record {before after : Dict} {name : String} {s s' : Json}
    (is : formOf components schema = some (.record (before ++ (name, s) :: after))) (inner : Unfolds components s s') :
    ∃ schema', Unfolds components schema schema' ∧
      formOf components schema' = some (.record (before ++ (name, s') :: after)) := by
  obtain ⟨fields, rfl, plain, has⟩ := plain_of_form is (by simp [Form.schemas])
  unfold formOfPlain at has
  split at has
  · cases has
  · cases has
  · next noCombinator =>
    split at has
    · next properties are =>
      split at has
      · obtain rfl := Form.record.inj (Option.some.inj has)
        have at_ : Dict.get? fields "properties" = some (.obj (before ++ (name, s) :: after)) := by
          cases found : Dict.get? fields "properties" with
          | none =>
            rw [found] at are
            have empty := Json.obj.inj are
            simp at empty
          | some value =>
            rw [found] at are
            exact congrArg some are
        refine ⟨_, .property fields before name s s' after at_ inner, ?_⟩
        rw [formOf_set_plain plain (by decide)]
        simp [formOfPlain, noCombinator]
      · split at has <;> cases has
    · cases has

theorem unfold_list {s s' : Json} (is : formOf components schema = some (.list s)) (inner : Unfolds components s s') :
    ∃ schema', Unfolds components schema schema' ∧ formOf components schema' = some (.list s') := by
  obtain ⟨fields, rfl, plain, has⟩ := plain_of_form is (by simp [Form.schemas])
  unfold formOfPlain at has
  split at has
  · cases has
  · cases has
  · next noCombinator =>
    split at has
    · next properties are =>
      split at has
      · cases has
      · next notRecord =>
        split at has
        · next isList =>
          obtain rfl := Form.list.inj (Option.some.inj has)
          have at_ : Dict.get? fields "items" = some ((Dict.get? fields "items").getD (.obj [])) := by
            cases found : Dict.get? fields "items" with
            | none =>
              rw [found] at inner
              cases inner with
              | here _ _ named => cases named
              | combinator _ _ _ _ _ _ _ at_ | property _ _ _ _ _ _ at_ | items _ _ _ at_ => cases at_
              | unread _ _ _ _ there => exact absurd rfl there
            | some value => rfl
          refine ⟨_, .items fields _ s' at_ inner, ?_⟩
          rw [formOf_set_plain plain (by decide)]
          simp only [formOfPlain, String.reduceEq, if_false, if_true, noCombinator, are, Option.getD_some]
          rw [if_neg notRecord, if_pos isList]
        · cases has
    · cases has

/-- Every reference that is read can be written out, and where the list stays the same its definition fits. -/
theorem Reads.unfolding (is : IsSchema components schema) {excused' : Prop} {definition : Json}
    (reads : Reads components parentKey excused schema key excused' definition) :
    ∃ schema', Unfolds components schema schema' ∧
      (Alike parentKey excused (fields components parentKey schema) (fields components parentKey schema') →
        Fits components key excused' definition) := by
  induction reads with
  | here parentKey excused schema definition named =>
    have unfolds := Unfolds.here schema definition named
    obtain ⟨form, has, -⟩ := is.has_form
    obtain rfl := form_of_named named has
    refine ⟨definition, unfolds, ?_⟩
    rw [fields_leaf is has, alike_here (is.unfolds unfolds)]
    exact id
  | combined parentKey excused schema before s after key excused' definition has reads ih =>
    obtain ⟨s', unfolded, fit⟩ := ih (is.inner has s (List.mem_append_right before List.mem_cons_self))
    obtain ⟨schema', unfolds, has'⟩ := unfold_combined has unfolded
    refine ⟨schema', unfolds, ?_⟩
    rw [frame_combined is (is.unfolds unfolds) has has']
    exact fit
  | record parentKey excused schema before name s after key excused' definition has reads ih =>
    have listed : s ∈ (Form.record (before ++ (name, s) :: after)).schemas :=
      List.mem_map.mpr ⟨(name, s), List.mem_append_right before List.mem_cons_self, rfl⟩
    obtain ⟨s', unfolded, fit⟩ := ih (is.inner has s listed)
    obtain ⟨schema', unfolds, has'⟩ := unfold_record has unfolded
    refine ⟨schema', unfolds, ?_⟩
    rw [frame_record is (is.unfolds unfolds) has has']
    exact fit
  | list parentKey excused schema s key excused' definition has reads ih =>
    obtain ⟨s', unfolded, fit⟩ := ih (is.inner has s (List.mem_singleton_self s))
    obtain ⟨schema', unfolds, has'⟩ := unfold_list has unfolded
    refine ⟨schema', unfolds, ?_⟩
    rw [frame_list is (is.unfolds unfolds) has has']
    exact fit

/-- **References.** The list of a schema stays the same whatever reference is written out, just where the
definition of every reference that is read fits its place. -/
theorem fields_unfold_iff (is : IsSchema components schema) :
    (∀ schema', Unfolds components schema schema' →
        fields components "" schema = fields components "" schema') ↔
      ∀ key excused definition, Reads components "" False schema key excused definition →
        Fits components key excused definition := by
  have alike {names names' : List String} : Alike "" False names names' ↔ names = names' :=
    ⟨fun alike => alike.resolve_right fun never => never.1, .inl⟩
  constructor
  · intro same key excused definition reads
    obtain ⟨schema', unfolds, fit⟩ := reads.unfolding is
    exact fit (alike.mpr (same schema' unfolds))
  · intro fit schema' unfolds
    exact alike.mp (alike_of_fits is unfolds "" False fit)

end ApiManger.OpenApi
