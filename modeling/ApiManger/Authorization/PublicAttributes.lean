import ApiManger.Authorization.Selectors

/-!
# Credentials in public attributes

What `_validate_public_attributes` lets through: no part of the attributes at any depth names or
holds a credential, as long as the parts that it does not look at hold none.
-/

namespace ApiManger.Authorization
open Python

/-- `part` stands somewhere in `whole`. -/
inductive Within (part : Json) : Json → Prop
  | here : Within part part
  | field {key : String} {value : Json} {fields : List (String × Json)} (mem : (key, value) ∈ fields)
      (inside : Within part value) : Within part (.obj fields)
  | item {value : Json} {items : List Json} (mem : value ∈ items) (inside : Within part value) : Within part (.arr items)

def privateKeyHeader : String := "-----begin private key-----"

/-- Nothing at any depth is a credential. -/
structure NoCredential (whole : Json) : Prop where
  keys : ∀ fields, Within (.obj fields) whole → ∀ e ∈ fields, normalizedKey e.1 ∉ sensitiveAttributeKeys
  bearers : ∀ text, Within (.str text) whole → startsWith (lowered text) "bearer " = false
  headers : ∀ text, Within (.str text) whole → contains (lowered text) privateKeyHeader = false

/-- What stands in lists, where the check does not look: texts with a private-key header, and
credentials in a list of lists. -/
structure ListsClean (whole : Json) : Prop where
  texts : ∀ items text, Within (.arr items) whole → .str text ∈ items → contains (lowered text) privateKeyHeader = false
  lists : ∀ items inner, Within (.arr items) whole → .arr inner ∈ items → NoCredential (.arr inner)

section
variable {part whole middle : Json}

theorem Within.trans (inner : Within part middle) (outer : Within middle whole) : Within part whole := by
  induction outer with
  | here => exact inner
  | field mem _ ih => exact .field mem ih
  | item mem _ ih => exact .item mem ih

theorem NoCredential.within (clean : NoCredential whole) (inside : Within part whole) : NoCredential part where
  keys fields there := clean.keys fields (there.trans inside)
  bearers text there := clean.bearers text (there.trans inside)
  headers text there := clean.headers text (there.trans inside)

theorem ListsClean.within (clean : ListsClean whole) (inside : Within part whole) : ListsClean part where
  texts items text there := clean.texts items text (there.trans inside)
  lists items inner there := clean.lists items inner (there.trans inside)

/-- Attributes without credentials have none in their lists. -/
theorem NoCredential.listsClean (clean : NoCredential whole) : ListsClean whole where
  texts _ text there mem := clean.headers text ((Within.item mem .here).trans there)
  lists _ _ there mem := clean.within ((Within.item mem .here).trans there)

theorem noCredential_obj {fields : List (String × Json)} (keys : ∀ e ∈ fields, normalizedKey e.1 ∉ sensitiveAttributeKeys)
    (values : ∀ e ∈ fields, NoCredential e.2) : NoCredential (.obj fields) where
  keys fields' there := by
    cases there with
    | here => exact keys
    | field mem inside => exact (values _ mem).keys fields' inside
  bearers text there := by
    cases there with
    | field mem inside => exact (values _ mem).bearers text inside
  headers text there := by
    cases there with
    | field mem inside => exact (values _ mem).headers text inside

theorem noCredential_arr {items : List Json} (values : ∀ item ∈ items, NoCredential item) : NoCredential (.arr items) where
  keys fields there := by
    cases there with
    | item mem inside => exact (values _ mem).keys fields inside
  bearers text there := by
    cases there with
    | item mem inside => exact (values _ mem).bearers text inside
  headers text there := by
    cases there with
    | item mem inside => exact (values _ mem).headers text inside

theorem noCredential_str {text : String} (bearer : startsWith (lowered text) "bearer " = false)
    (header : contains (lowered text) privateKeyHeader = false) : NoCredential (.str text) where
  keys _ there := nomatch there
  bearers _ there := by
    cases there
    exact bearer
  headers _ there := by
    cases there
    exact header

/-- Values that are neither containers nor texts. -/
theorem noCredential_of_scalar {value : Json} (fields : ∀ fields, value ≠ .obj fields) (items : ∀ items, value ≠ .arr items)
    (texts : ∀ text, value ≠ .str text) : NoCredential value := by
  have only : ∀ part, Within part value → part = value := by
    intro part there
    cases there with
    | here => rfl
    | field mem inside => exact (fields _ rfl).elim
    | item mem inside => exact (items _ rfl).elim
  exact ⟨fun fs there => (fields fs (only _ there).symm).elim, fun text there => (texts text (only _ there).symm).elim,
    fun text there => (texts text (only _ there).symm).elim⟩

theorem ListsClean.tail_obj {e : String × Json} {rest : List (String × Json)} (clean : ListsClean (.obj (e :: rest))) :
    ListsClean (.obj rest) := by
  have wider : ∀ items, Within (.arr items) (.obj rest) → Within (.arr items) (.obj (e :: rest)) := by
    intro items there
    cases there with
    | field mem inside => exact .field (.tail _ mem) inside
  exact ⟨fun items text there => clean.texts items text (wider items there),
    fun items inner there => clean.lists items inner (wider items there)⟩

theorem ListsClean.tail_arr {item : Json} {rest : List Json} (clean : ListsClean (.arr (item :: rest))) :
    ListsClean (.arr rest) where
  texts items text there mem := by
    cases there with
    | here => exact clean.texts _ text .here (.tail _ mem)
    | item mem' inside => exact clean.texts items text (.item (.tail _ mem') inside) mem
  lists items inner there mem := by
    cases there with
    | here => exact clean.lists _ inner .here (.tail _ mem)
    | item mem' inside => exact clean.lists items inner (.item (.tail _ mem') inside) mem

end

/-! ## What is accepted -/

theorem except_bind_ok {x y : Except PyError Unit} (h : (x.bind fun _ => y) = .ok ()) : x = .ok () ∧ y = .ok () := by
  cases x with
  | ok _ => exact ⟨rfl, h⟩
  | error e => cases h

mutual

/-- The loop over the entries looks at every key, and at every value that is not in a list. -/
theorem noCredential_of_publicEntries {path : String} {fields : List (String × Json)}
    (accepted : publicEntries path fields = .ok ()) (clean : ListsClean (.obj fields)) : NoCredential (.obj fields) := by
  match fields with
  | [] => exact noCredential_obj (fun _ mem => nomatch mem) fun _ mem => nomatch mem
  | (key, item) :: rest =>
    unfold publicEntries at accepted
    split at accepted
    · cases accepted
    · next harmless =>
      obtain ⟨first, others⟩ := except_bind_ok accepted
      have later := noCredential_of_publicEntries others clean.tail_obj
      have inside : ListsClean item := clean.within (.field (.head _) .here)
      have value : NoCredential item := by
        cases item with
        | obj inner => exact noCredential_of_publicEntries (except_bind_ok first).1 inside
        | arr items => exact noCredential_of_publicItems first inside
        | str text =>
          dsimp only at first
          split at first
          · cases first
          · next plain =>
            have none_ := Bool.or_eq_false_iff.mp (Bool.eq_false_iff.mpr plain)
            exact noCredential_str none_.1 none_.2
        | null | bool | int | float => exact noCredential_of_scalar nofun nofun nofun
      refine noCredential_obj (fun e mem => ?_) fun e mem => ?_
      · rcases List.mem_cons.mp mem with rfl | mem
        · simpa using harmless
        · exact later.keys rest .here e mem
      · rcases List.mem_cons.mp mem with rfl | mem
        · exact value
        · exact later.within (.field mem .here)
termination_by sizeOf fields

/-- The loop over the items of a list looks at mappings, and for bearer tokens at texts. -/
theorem noCredential_of_publicItems {location : String} {index : Nat} {items : List Json}
    (accepted : publicItems location index items = .ok ()) (clean : ListsClean (.arr items)) : NoCredential (.arr items) := by
  match items with
  | [] => exact noCredential_arr fun _ mem => nomatch mem
  | item :: rest =>
    unfold publicItems at accepted
    obtain ⟨first, others⟩ := except_bind_ok accepted
    have later := noCredential_of_publicItems others clean.tail_arr
    have inside : ListsClean item := clean.within (.item (.head _) .here)
    have value : NoCredential item := by
      cases item with
      | obj inner => exact noCredential_of_publicEntries (except_bind_ok first).1 inside
      | arr inner => exact clean.lists _ inner .here (.head _)
      | str text =>
        dsimp only at first
        split at first
        · cases first
        · next plain => exact noCredential_str (Bool.eq_false_iff.mpr plain) (clean.texts _ text .here (.head _))
      | null | bool | int | float => exact noCredential_of_scalar nofun nofun nofun
    refine noCredential_arr fun item' mem => ?_
    rcases List.mem_cons.mp mem with rfl | mem
    · exact value
    · exact later.within (.item mem .here)
termination_by sizeOf items

end

end ApiManger.Authorization
