import ApiManger.Evidence.Sanitize
import ApiManger.Collection.UpdateOne
import Mathlib.Data.List.Sort
import Mathlib.Data.String.Basic

/-!
# Parameter rows

`parameter_disassemble_mongodb` keeps one row for each path of a leaf in the bodies of an endpoint,
with the values seen there. The rows of a path that is named like a credential differ in nothing
but their values.
-/

namespace ApiManger.Evidence
open Python Collection

/-! ## Leaves and their paths -/

/-- One token of a locator in a document. -/
inductive Step where
  | key (name : String)
  | index (i : ℕ)
  deriving DecidableEq

mutual

/-- `iter_json_leaf_occurrences`, below the steps so far. -/
def leafOccurrences : Json → List Step → List (List Step × Json)
  | .obj fields, steps => if fields.isEmpty then [(steps, .obj [])] else fieldOccurrences fields steps
  | .arr items, steps => if items.isEmpty then [(steps, .arr [])] else itemOccurrences items 0 steps
  | value, steps => [(steps, value)]

def fieldOccurrences : List (String × Json) → List Step → List (List Step × Json)
  | [], _ => []
  | (key, value) :: rest, steps => leafOccurrences value (steps ++ [.key key]) ++ fieldOccurrences rest steps

def itemOccurrences : List Json → ℕ → List Step → List (List Step × Json)
  | [], _, _ => []
  | value :: rest, i, steps => leafOccurrences value (steps ++ [.index i]) ++ itemOccurrences rest (i + 1) steps

end

def isHexDigit (c : Char) : Bool := c.isDigit || ('a' ≤ c.toLower && c.toLower ≤ 'f')

def isDynamicProperty (value : String) : Bool :=
  let text := value.toList
  (4 ≤ text.length && text.all Char.isDigit) || (8 ≤ text.length && text.all isHexDigit) ||
    ((text.take 8).length == 8 && (text.take 8).all isHexDigit && (text.drop 8).head? == some '-' &&
      27 ≤ (text.drop 9).length && (text.drop 9).all fun c => isHexDigit c || c == '-')

/-- The parts of a path where an item of a list marks the part before it. -/
def markedParts (name : String → String) (steps : List Step) : List String :=
  steps.foldl (fun parts step => match step with
    | .key key => parts ++ [name key]
    | .index _ => match parts.getLast? with
      | some last => parts.dropLast ++ [last ++ "[]"]
      | none => ["[]"]) []

variable (steps : List Step)

def rawPath : String :=
  ".".intercalate (steps.map fun step => match step with
    | .key key => key
    | .index i => toString i)

def schemaPath : String := ".".intercalate (markedParts id steps)

def displayPath : String :=
  ".".intercalate (markedParts (fun key => if isDynamicProperty key then "\x7bkey\x7d" else key) steps)

/-- `locator.get("raw_path") or locator.get("schema_path")` -/
def parameterOf : String := if rawPath steps = "" then schemaPath steps else rawPath steps

/-! ## Rows -/

/-- A `req_data` or `res_data` row of the endpoint. -/
structure ParameterRow where
  parameter : Option String
  position : String
  contentType : String
  value : List Json
  required : Bool
  type : String
  des : String
  rawPath : String
  schemaPath : String
  displayPath : String

/-- The fields of `locator_document_fields` that the view reads. -/
def ParameterRow.locate (row : ParameterRow) (steps : List Step) : ParameterRow :=
  { row with
    rawPath := if Evidence.rawPath steps = "" then parameterOf steps else Evidence.rawPath steps
    schemaPath := if Evidence.schemaPath steps = "" then parameterOf steps else Evidence.schemaPath steps
    displayPath := if Evidence.displayPath steps = "" then parameterOf steps else Evidence.displayPath steps }

def newRow (contentType : String) (occurrence : List Step × Json) : ParameterRow :=
  ParameterRow.locate ⟨some (parameterOf occurrence.1), "body", contentType, [occurrence.2], false, "", "", "", "", ""⟩
    occurrence.1

/-- The row of a path that was seen again. -/
def ParameterRow.again (occurrence : List Step × Json) (row : ParameterRow) : ParameterRow :=
  ParameterRow.locate { row with
    value := if row.value.any (Json.pyEq occurrence.2) then row.value else row.value ++ [occurrence.2] } occurrence.1

/-- The row is about the path. -/
def ParameterRow.isAt (row : ParameterRow) : Bool :=
  row.parameter == some (parameterOf steps) && row.position == "body"

/-- One round of the loop over the leaves of a body. -/
def saveOccurrence (contentType : String) (rows : List ParameterRow) (occurrence : List Step × Json) : List ParameterRow :=
  match updateOne (ParameterRow.isAt occurrence.1) (ParameterRow.again occurrence) rows with
  | some rows => rows
  | none => rows ++ [newRow contentType occurrence]

def bodyParse (r : Reader) (text : String) : Option (Json × String) :=
  match r.loads text with
  | some document => some (document, "application/json")
  | none =>
    let pairs := parseQsl text.toList
    if pairs.isEmpty then none
    else some (.obj (pairs.foldl (fun fields e => Dict.set fields e.1 (.str e.2)) []), "application/x-www-form-urlencoded")

/-- One round of the loop over the bodies. -/
def saveBody (r : Reader) (rows : List ParameterRow) (body : Option String) : List ParameterRow :=
  match body with
  | none => if rows.any fun row => row.parameter.isNone then rows else rows ++ [⟨none, "", "", [], false, "", "", "", "", ""⟩]
  | some text => match bodyParse r text with
    | none => rows
    | some (document, contentType) => (leafOccurrences document []).foldl (saveOccurrence contentType) rows

/-- `parameter_disassemble_mongodb`, over the bodies of one direction. -/
def disassembleBodies (r : Reader) (rows : List ParameterRow) (bodies : List (Option String)) : List ParameterRow :=
  bodies.foldl (saveBody r) rows

/-! ## Rows without the values of credentials -/

/-- The row, without its values where its path is named like a credential. -/
def ParameterRow.masked (row : ParameterRow) : ParameterRow :=
  if sensitiveKey (row.parameter.getD "") then { row with value := [] } else row

/-- The rows differ in the values of credentials at most. -/
def Alike (rows rows' : List ParameterRow) : Prop :=
  List.Forall₂ (fun row row' => row.masked = row'.masked) rows rows'

/-- The leaves are at one path, and have one value unless the path is named like a credential. -/
def Hidden (occurrence occurrence' : List Step × Json) : Prop :=
  occurrence.1 = occurrence'.1 ∧ (occurrence.2 = occurrence'.2 ∨ sensitiveKey (parameterOf occurrence.1) = true)

section
variable {row row' : ParameterRow} {rows rows' : List ParameterRow} {occurrence occurrence' : List Step × Json}

theorem Alike.refl (rows : List ParameterRow) : Alike rows rows := List.forall₂_same.mpr fun _ _ => rfl

theorem masked_parameter (row : ParameterRow) : row.masked.parameter = row.parameter := by
  unfold ParameterRow.masked
  split <;> rfl

theorem masked_position (row : ParameterRow) : row.masked.position = row.position := by
  unfold ParameterRow.masked
  split <;> rfl

theorem isAt_of_masked (same : row.masked = row'.masked) (steps : List Step) : row.isAt steps = row'.isAt steps := by
  unfold ParameterRow.isAt
  rw [← masked_parameter row, ← masked_position row, same, masked_parameter, masked_position]

theorem newRow_masked (contentType : String) (hidden : Hidden occurrence occurrence') :
    (newRow contentType occurrence).masked = (newRow contentType occurrence').masked := by
  obtain ⟨steps, value⟩ := occurrence
  obtain ⟨steps', value'⟩ := occurrence'
  obtain ⟨here, rest⟩ := hidden
  dsimp only at here rest
  subst here
  rcases rest with same | sensitive
  · rw [same]
  · unfold ParameterRow.masked
    rw [if_pos (show sensitiveKey ((newRow contentType (steps, value)).parameter.getD "") = true from sensitive),
      if_pos (show sensitiveKey ((newRow contentType (steps, value')).parameter.getD "") = true from sensitive)]
    rfl

/-- Rows that are alike stay so when a leaf is seen again. -/
theorem again_masked (same : row.masked = row'.masked) (hidden : Hidden occurrence occurrence')
    (at_ : row.isAt occurrence.1 = true) : (row.again occurrence).masked = (row'.again occurrence').masked := by
  obtain ⟨steps, value⟩ := occurrence
  obtain ⟨steps', value'⟩ := occurrence'
  obtain ⟨here, rest⟩ := hidden
  dsimp only at here rest at_
  subst here
  have parameter : row.parameter = some (parameterOf steps) := beq_iff_eq.mp (Bool.and_eq_true _ _ ▸ at_).1
  have parameter' : row'.parameter = some (parameterOf steps) := by
    rw [← masked_parameter row', ← same, masked_parameter, parameter]
  by_cases sensitive : sensitiveKey (parameterOf steps) = true
  · have erased : ({ row with value := [] } : ParameterRow) = { row' with value := [] } := by
      have hides : sensitiveKey (row.parameter.getD "") = true := by rwa [parameter]
      have hides' : sensitiveKey (row'.parameter.getD "") = true := by rwa [parameter']
      unfold ParameterRow.masked at same
      rwa [if_pos hides, if_pos hides'] at same
    have masked : ∀ (row : ParameterRow) (value : Json), row.parameter = some (parameterOf steps) →
        (row.again (steps, value)).masked = ParameterRow.locate { row with value := [] } steps := by
      intro row value at_
      unfold ParameterRow.masked
      rw [if_pos (show sensitiveKey ((row.again (steps, value)).parameter.getD "") = true from by
        change sensitiveKey (row.parameter.getD "") = true
        rw [at_]
        exact sensitive)]
      rfl
    rw [masked row value parameter, masked row' value' parameter', erased]
  · have equal : row = row' := by
      unfold ParameterRow.masked at same
      rwa [parameter, parameter', Option.getD_some, if_neg sensitive, if_neg sensitive] at same
    rw [equal, rest.resolve_right sensitive]

/-- Rows that are alike stay so when a leaf is saved. -/
theorem saveOccurrence_alike (contentType : String) (alike : Alike rows rows') (hidden : Hidden occurrence occurrence') :
    Alike (saveOccurrence contentType rows occurrence) (saveOccurrence contentType rows' occurrence') := by
  have both : (updateOne (ParameterRow.isAt occurrence.1) (ParameterRow.again occurrence) rows = none ∧
      updateOne (ParameterRow.isAt occurrence'.1) (ParameterRow.again occurrence') rows' = none) ∨
      ∃ next next', updateOne (ParameterRow.isAt occurrence.1) (ParameterRow.again occurrence) rows = some next ∧
        updateOne (ParameterRow.isAt occurrence'.1) (ParameterRow.again occurrence') rows' = some next' ∧ Alike next next' := by
    rw [← hidden.1]
    induction alike with
    | nil => exact .inl ⟨rfl, rfl⟩
    | @cons row row' rest rest' same tail ih =>
      by_cases at_ : row.isAt occurrence.1 = true
      · have at' := (isAt_of_masked same occurrence.1).symm.trans at_
        refine .inr ⟨row.again occurrence :: rest, row'.again occurrence' :: rest', ?_, ?_,
          .cons (again_masked same hidden at_) tail⟩
        · rw [updateOne, if_pos at_]
        · rw [updateOne, if_pos at']
      · have at' : ¬row'.isAt occurrence.1 = true := fun there => at_ ((isAt_of_masked same occurrence.1).trans there)
        rw [updateOne, if_neg at_, updateOne, if_neg at']
        rcases ih with ⟨none_, none'⟩ | ⟨next, next', found, found', alike⟩
        · exact .inl ⟨by rw [none_]; rfl, by rw [none']; rfl⟩
        · exact .inr ⟨row :: next, row' :: next', by rw [found]; rfl, by rw [found']; rfl, .cons same alike⟩
  unfold saveOccurrence
  rcases both with ⟨none_, none'⟩ | ⟨next, next', found, found', alike'⟩
  · rw [none_, none']
    exact List.rel_append alike (.cons (newRow_masked contentType hidden) .nil)
  · rw [found, found']
    exact alike'

theorem saveOccurrences_alike (contentType : String) {occurrences occurrences' : List (List Step × Json)}
    (hidden : List.Forall₂ Hidden occurrences occurrences') (alike : Alike rows rows') :
    Alike (occurrences.foldl (saveOccurrence contentType) rows) (occurrences'.foldl (saveOccurrence contentType) rows') := by
  induction hidden generalizing rows rows' with
  | nil => exact alike
  | cons one _ ih => exact ih (saveOccurrence_alike contentType alike one)

/-- The bodies are the same, or documents whose leaves are hidden where they differ. -/
def HiddenBodies (r : Reader) (body body' : Option String) : Prop :=
  body = body' ∨ ∃ text text' document document', body = some text ∧ body' = some text' ∧ r.loads text = some document ∧
    r.loads text' = some document' ∧ List.Forall₂ Hidden (leafOccurrences document []) (leafOccurrences document' [])

theorem any_isNone_alike (alike : Alike rows rows') :
    (rows.any fun row => row.parameter.isNone) = rows'.any fun row => row.parameter.isNone := by
  induction alike with
  | nil => rfl
  | @cons row row' _ _ same _ ih =>
    rw [List.any_cons, List.any_cons, ih, ← masked_parameter row, same, masked_parameter]

theorem saveBody_alike {r : Reader} {body body' : Option String} (bodies : HiddenBodies r body body')
    (alike : Alike rows rows') : Alike (saveBody r rows body) (saveBody r rows' body') := by
  rcases bodies with rfl | ⟨text, text', document, document', rfl, rfl, loads, loads', hidden⟩
  · cases body with
    | none =>
      unfold saveBody
      dsimp only
      rw [any_isNone_alike alike]
      split
      · exact alike
      · exact List.rel_append alike (Alike.refl _)
    | some text =>
      unfold saveBody
      dsimp only
      split
      · exact alike
      · exact saveOccurrences_alike _ (List.forall₂_same.mpr fun _ _ => ⟨rfl, .inl rfl⟩) alike
  · unfold saveBody bodyParse
    dsimp only
    rw [loads, loads']
    exact saveOccurrences_alike _ hidden alike

/-- Rows that are alike stay so when bodies are disassembled that are hidden where they differ. -/
theorem disassembleBodies_alike {r : Reader} {bodies bodies' : List (Option String)}
    (hidden : List.Forall₂ (HiddenBodies r) bodies bodies') (alike : Alike rows rows') :
    Alike (disassembleBodies r rows bodies) (disassembleBodies r rows' bodies') := by
  unfold disassembleBodies
  induction hidden generalizing rows rows' with
  | nil => exact alike
  | cons one _ ih => exact ih (saveBody_alike one alike)

end
end ApiManger.Evidence
