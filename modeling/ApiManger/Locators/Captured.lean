import ApiManger.Locators.Orders
import ApiManger.Experiments.Compose
import Mathlib.Data.List.Induction

/-!
# Captured bodies

`parameter_disassemble_mongodb` keeps the leaves of a captured body in `req_data` rows, and `build_request_payload`
composes a body from the rows, each value at the locator of its row. Rows are told apart by their dotted paths, the
places of a document by typed tokens.
-/

namespace ApiManger.Locators
open Python Evidence Experiments Collection

/-! ## Locators as documents -/

def pointerEscape (value : String) : String :=
  String.ofList (value.toList.flatMap fun c => if c == '~' then ['~', '0'] else if c == '/' then ['~', '1'] else [c])

def canonicalLeaf (value : String) : String := lower (replaceChar (stripped value) '-' '_')

/-- The name of the last property. -/
def leafName (steps : List Step) : String :=
  steps.foldl (fun leaf step => match step with
    | .key name => name
    | .index _ => leaf) ""

def jsonPointer (steps : List Step) : String :=
  "/" ++ "/".intercalate (steps.map fun step => match step with
    | .key name => pointerEscape name
    | .index i => toString i)

/-- A token as `iter_json_leaf_occurrences` makes it. -/
def tokenDocument : Step → Json
  | .key name => .obj [("kind", .str "property"), ("value", .str name), ("dynamic", .bool (isDynamicProperty name))]
  | .index i => .obj [("kind", .str "array"), ("index", .int i), ("wildcard", .bool false)]

/-- `locator_from_tokens`, of a place in a document. -/
def locatorFromTokens (direction position : String) (steps : List Step) : Dict :=
  [("version", .int 2), ("direction", .str direction), ("position", .str position), ("kind", .str "instance"),
    ("raw_path", .str (rawPath steps)), ("schema_path", .str (schemaPath steps)),
    ("display_path", .str (displayPath steps)), ("json_pointer", .str (jsonPointer steps)),
    ("leaf_name", .str (leafName steps)), ("canonical_name", .str (canonicalLeaf (leafName steps))),
    ("tokens", .arr (steps.map tokenDocument))]

/-- A token as `set_value_at_locator` reads it. -/
def readToken : Json → Except PyError Token
  | .obj fields =>
    if Dict.get fields "kind" = .str "property" then
      .ok (.property (Dict.get fields "value").strOrEmpty (Dict.truthy fields "dynamic"))
    else if Dict.get fields "kind" = .str "array" then
      if Dict.truthy fields "wildcard" then .ok (.array 0 true)
      else (orElse (Dict.get fields "index") (.int 0)).toInt.map (Token.array · false)
    else .ok .other
  | _ => .error (.other "AttributeError")

/-- `list(locator.get("tokens") or [])`, with the tokens read. -/
def tokensOf (locator : Dict) : Except PyError (List Token) :=
  match Dict.get locator "tokens" with
  | .arr tokens => tokens.mapM readToken
  | value => if value.truthy then .error (.other "AttributeError") else .ok []

/-- The text of what is raised. -/
def errorText : PyError → String
  | .valueError message | .typeError message | .keyError message => message
  | .executionAdapterError cls | .accountContextError cls | .other cls => cls
  | .requestBlocked reason => reason

/-- `set_value_at_locator`, of a locator as it is stored. -/
def setAtStored (root : Json) (locator : Dict) (value : Json) : Except String Json :=
  match tokensOf locator with
  | .ok tokens => (setValueAtLocator root tokens value).2.mapError errorText
  | .error e => .error (errorText e)

/-! ## Rows -/

/-- A `req_data` row with its locator. -/
structure RequestRow where
  row : ParameterRow
  locator : Dict
  canonicalName : String

/-- The fields of `locator_document_fields` beside those of the row. -/
def RequestRow.located (row : ParameterRow) (steps : List Step) : RequestRow where
  row := row
  locator := locatorFromTokens "request" "body" steps
  canonicalName := if canonicalLeaf (leafName steps) = "" then canonicalLeaf (parameterOf steps)
    else canonicalLeaf (leafName steps)

def newRequestRow (contentType : String) (occurrence : List Step × Json) : RequestRow :=
  RequestRow.located (newRow contentType occurrence) occurrence.1

/-- The row of a path that was seen again. -/
def RequestRow.again (occurrence : List Step × Json) (r : RequestRow) : RequestRow :=
  RequestRow.located (r.row.again occurrence) occurrence.1

/-- The row is about the path. -/
def RequestRow.isAt (steps : List Step) (r : RequestRow) : Bool := r.row.isAt steps

/-- One round of the loop over the leaves of a body. -/
def saveLeaf (contentType : String) (rows : List RequestRow) (occurrence : List Step × Json) : List RequestRow :=
  match updateOne (RequestRow.isAt occurrence.1) (RequestRow.again occurrence) rows with
  | some rows => rows
  | none => rows ++ [newRequestRow contentType occurrence]

/-- What the database has for a parameter elsewhere. -/
structure Beside where
  dependency : String → Json × Dict
  relation : String → Json
  archive : String → Json × Json × Json

/-- The row as `build_request_payload` reads it. -/
def RequestRow.entry (beside : Beside) (r : RequestRow) : Entry :=
  let parameter := r.row.parameter.getD ""
  { parameter
    position := r.row.position
    type := r.row.type
    required := r.row.required
    contentType := r.row.contentType
    value := r.row.value
    locator := r.locator
    canonicalName := r.canonicalName
    schemaPath := r.row.schemaPath
    dependency := beside.dependency parameter
    relation := beside.relation parameter
    archive := beside.archive parameter }

/-- A row that is not of the body: it has no name, or is at one of the other positions. -/
def RequestRow.Aside (r : RequestRow) : Prop :=
  r.row.position ≠ "body" ∧ (r.row.parameter.getD "" = "" ∨ r.row.position ∈ ["query", "header", "path", "cookie"])

/-- An asset, with its rows that are not of the body. -/
structure Asset where
  data : Endpoint
  beside : Beside
  context : ComposeContext
  parameterLocator : Entry → String → Dict
  renderRequestUrl : Payload → String
  others : List RequestRow
  aside : ∀ r ∈ others, r.Aside

/-- A captured body: an object or a list with something in it and without null leaves. -/
structure CapturedBody where
  value : Json
  once : KeysOnce value
  filled : NoNull value
  container : isContainer value = true
  nonempty : value ≠ .obj [] ∧ value ≠ .arr []

def CapturedBody.leaves (body : CapturedBody) : List (List Step × Json) := leafOccurrences body.value []

/-- The rows of the asset when its one body was disassembled. -/
def Asset.savedRows (asset : Asset) (body : CapturedBody) : List RequestRow :=
  body.leaves.foldl (saveLeaf "application/json") asset.others

def Asset.composer (asset : Asset) : Composer := ⟨asset.parameterLocator, setAtStored, asset.renderRequestUrl⟩

def Asset.compose (asset : Asset) (rows : List RequestRow) : Except String Payload :=
  buildRequestPayload asset.composer asset.context
    { asset.data with entries := rows.map (RequestRow.entry asset.beside) }

/-- What is to hold of a captured body: the body that is composed equals it, in whatever order the rows are found, and
no row is about two of its leaves. -/
structure Survives (asset : Asset) (body : CapturedBody) : Prop where
  composed : ∀ rows, rows.Perm (asset.savedRows body) →
    ∃ payload, asset.compose rows = .ok payload ∧ payload.body.Same body.value
  apart : ∀ e ∈ body.leaves, ∀ f ∈ body.leaves, e.1 ≠ f.1 →
    ∀ r ∈ asset.savedRows body, ¬ (r.isAt e.1 = true ∧ r.isAt f.1 = true)

/-- The dotted paths of the leaves are different, and none is empty. -/
structure Addressed (body : CapturedBody) : Prop where
  distinct : ∀ e ∈ body.leaves, ∀ f ∈ body.leaves, parameterOf e.1 = parameterOf f.1 → e.1 = f.1
  named : ∀ e ∈ body.leaves, parameterOf e.1 ≠ ""

/-! ## Locators that are stored -/

theorem readToken_tokenDocument (s : Step) : readToken (tokenDocument s) = .ok (tokenOf s) := by
  cases s with
  | key name =>
    have text : (Json.str name).strOrEmpty = name := by
      by_cases empty : name = ""
      · rw [empty]; rfl
      · rw [Json.strOrEmpty, if_pos (by simp [Json.truthy, empty])]
        rfl
    have shown : readToken (tokenDocument (.key name)) =
        .ok (.property (Json.str name).strOrEmpty (Json.bool (isDynamicProperty name)).truthy) := rfl
    rw [shown, text]
    rfl
  | index i =>
    have number : (orElse (.int (i : Int)) (.int 0)).toInt = .ok (i : Int) := by
      unfold orElse
      split
      · rfl
      · next zero =>
        have : (i : Int) = 0 := by simpa [Json.truthy] using zero
        rw [this]
        rfl
    have shown : readToken (tokenDocument (.index i)) = (orElse (.int (i : Int)) (.int 0)).toInt.map (Token.array · false) := rfl
    rw [shown, number]
    rfl

/-- The tokens of a locator that is stored are the steps of the leaf. -/
theorem tokensOf_locatorFromTokens (direction position : String) (steps : List Step) :
    tokensOf (locatorFromTokens direction position steps) = .ok (steps.map tokenOf) := by
  have read : (steps.map tokenDocument).mapM readToken = .ok (steps.map tokenOf) := by
    induction steps with
    | nil => rfl
    | cons s steps ih =>
      rw [List.map_cons, List.mapM_cons, readToken_tokenDocument, ih]
      rfl
  have shown : tokensOf (locatorFromTokens direction position steps) = (steps.map tokenDocument).mapM readToken := rfl
  rw [shown, read]

def stepsOf (locator : Dict) : List Step :=
  match tokensOf locator with
  | .ok tokens => tokens.filterMap stepOf
  | .error _ => []

theorem stepsOf_locatorFromTokens (direction position : String) (steps : List Step) :
    stepsOf (locatorFromTokens direction position steps) = steps := by
  rw [stepsOf, tokensOf_locatorFromTokens]
  dsimp only
  rw [List.filterMap_map]
  induction steps with
  | nil => rfl
  | cons s steps ih =>
    rw [List.filterMap_cons, Function.comp_apply, stepOf_tokenOf]
    exact congrArg (s :: ·) ih

/-! ## The rows of a body -/

variable {asset : Asset} {body : CapturedBody} {leaves : List (List Step × Json)} {r : RequestRow}

/-- A row of a body: its path and its locator are those of one leaf, its first value is the value of a leaf. -/
structure Made (leaves : List (List Step × Json)) (r : RequestRow) : Prop where
  located : ∃ e ∈ leaves, r.row.parameter = some (parameterOf e.1) ∧ r.locator = locatorFromTokens "request" "body" e.1
  position : r.row.position = "body"
  valued : ∃ e ∈ leaves, r.row.value.head? = some e.2

theorem Made.mono {others : List (List Step × Json)} (made : Made leaves r) (more : leaves ⊆ others) : Made others r := by
  obtain ⟨⟨e, mem, located⟩, position, ⟨f, mem', valued⟩⟩ := made
  exact ⟨⟨e, more mem, located⟩, position, f, more mem', valued⟩

theorem RequestRow.Aside.isAt (aside : r.Aside) (steps : List Step) : r.isAt steps = false := by
  rw [RequestRow.isAt, ParameterRow.isAt, beq_eq_false_iff_ne.mpr aside.1, Bool.and_false]

theorem isAt_iff {r : RequestRow} (position : r.row.position = "body") (steps : List Step) :
    r.isAt steps = true ↔ r.row.parameter = some (parameterOf steps) := by
  rw [RequestRow.isAt, ParameterRow.isAt, position, beq_self_eq_true, Bool.and_true, beq_iff_eq]

/-- The rows of a body: behind the rows of the other positions, each made from leaves, and no two with one path. -/
structure Saved (asset : Asset) (leaves : List (List Step × Json)) (rows made : List RequestRow) : Prop where
  split : rows = asset.others ++ made
  each : ∀ r ∈ made, Made leaves r
  distinct : (made.map fun r => r.row.parameter).Nodup

variable {rows made : List RequestRow}

/-- A leaf of a path that is new adds a row. -/
theorem saveLeaf_new (split : rows = asset.others ++ made) (contentType : String)
    {e : List Step × Json} (new : ∀ r ∈ made, r.isAt e.1 = false) :
    saveLeaf contentType rows e = asset.others ++ (made ++ [newRequestRow contentType e]) := by
  have none_ : updateOne (RequestRow.isAt e.1) (RequestRow.again e) rows = none := by
    rw [updateOne_eq_none, split]
    intro r mem
    rcases List.mem_append.mp mem with other | inside
    · exact (asset.aside r other).isAt e.1
    · exact new r inside
  unfold saveLeaf
  rw [none_, split]
  exact List.append_assoc ..

theorem Made.new (contentType : String) (e : List Step × Json) : Made [e] (newRequestRow contentType e) where
  located := ⟨e, .head _, rfl, rfl⟩
  position := rfl
  valued := ⟨e, .head _, rfl⟩

theorem Made.again {e : List Step × Json} (made : Made leaves r) (at_ : r.isAt e.1 = true) :
    Made (leaves ++ [e]) (r.again e) where
  located := ⟨e, List.mem_append_right _ (.head _), (isAt_iff made.position e.1).mp at_, rfl⟩
  position := made.position
  valued := by
    obtain ⟨f, mem, first⟩ := made.valued
    refine ⟨f, List.mem_append_left _ mem, ?_⟩
    change (if r.row.value.any (Json.pyEq e.2) then r.row.value else r.row.value ++ [e.2]).head? = some f.2
    split
    · exact first
    · rw [List.head?_append, first, Option.some_or]

/-- One more leaf. -/
theorem Saved.step (saved : Saved asset leaves rows made) (contentType : String)
    (e : List Step × Json) : ∃ made', Saved asset (leaves ++ [e]) (saveLeaf contentType rows e) made' := by
  by_cases new : ∀ r ∈ made, r.isAt e.1 = false
  · refine ⟨made ++ [newRequestRow contentType e], saveLeaf_new saved.split contentType new, fun r mem => ?_, ?_⟩
    · rcases List.mem_append.mp mem with old | last
      · exact (saved.each r old).mono fun _ => List.mem_append_left _
      · rw [List.mem_singleton.mp last]
        exact (Made.new contentType e).mono fun _ => List.mem_append_right _
    · rw [List.map_append, List.map_singleton]
      refine List.nodup_append.mpr ⟨saved.distinct, List.nodup_singleton _, fun p old p' last same => ?_⟩
      obtain ⟨r, mem, rfl⟩ := List.mem_map.mp old
      have at_ := (isAt_iff (saved.each r mem).position e.1).mpr (same.trans (List.mem_singleton.mp last))
      rw [new r mem] at at_
      cases at_
  · have there : (updateOne (RequestRow.isAt e.1) (RequestRow.again e) made).isSome := by
      rw [updateOne_isSome]
      simpa using new
    obtain ⟨made', changed⟩ := Option.isSome_iff_exists.mp there
    have behind : updateOne (RequestRow.isAt e.1) (RequestRow.again e) rows = some (asset.others ++ made') := by
      rw [saved.split, updateOne_append fun r other => (asset.aside r other).isAt e.1, changed]
      rfl
    obtain ⟨front, a, back, rfl, at_, -, rfl⟩ := updateOne_split changed
    refine ⟨front ++ a.again e :: back, ?_, fun r mem => ?_, ?_⟩
    · unfold saveLeaf
      rw [behind]
    · rcases List.mem_append.mp mem with old | old
      · exact (saved.each r (List.mem_append_left _ old)).mono fun _ => List.mem_append_left _
      · rcases List.mem_cons.mp old with rfl | old
        · exact (saved.each a (List.mem_append_right _ (.head _))).again at_
        · exact (saved.each r (List.mem_append_right _ (.tail _ old))).mono fun _ => List.mem_append_left _
    · have kept : (front ++ a.again e :: back).map (fun r => r.row.parameter) =
          (front ++ a :: back).map fun r => r.row.parameter := by
        rw [List.map_append, List.map_append, List.map_cons, List.map_cons]
        rfl
      exact kept ▸ saved.distinct

theorem saved_foldl (saved : Saved asset leaves rows made) (contentType : String)
    (more : List (List Step × Json)) :
    ∃ made', Saved asset (leaves ++ more) (more.foldl (saveLeaf contentType) rows) made' := by
  induction more generalizing leaves rows made with
  | nil => exact ⟨made, (List.append_nil leaves).symm ▸ saved⟩
  | cons e more ih =>
    obtain ⟨made', step⟩ := saved.step contentType e
    have later := ih step
    rwa [List.append_assoc] at later

theorem savedRows_saved (asset : Asset) (body : CapturedBody) :
    ∃ made, Saved asset body.leaves (asset.savedRows body) made := by
  have start : Saved asset [] asset.others [] := ⟨(List.append_nil _).symm, nofun, List.nodup_nil⟩
  exact saved_foldl start "application/json" body.leaves

/-- Where the paths are different each leaf gets a row of its own. -/
theorem savedRows_eq (addressed : (leaves.map fun e => parameterOf e.1).Nodup) (asset : Asset) (contentType : String) :
    leaves.foldl (saveLeaf contentType) asset.others = asset.others ++ leaves.map (newRequestRow contentType) := by
  induction leaves using List.reverseRecOn with
  | nil => exact (List.append_nil _).symm
  | append_singleton leaves e ih =>
    rw [List.map_append, List.nodup_append] at addressed
    obtain ⟨distinct, -, apart⟩ := addressed
    rw [List.foldl_append, ih distinct, List.map_append, List.map_singleton]
    refine saveLeaf_new rfl contentType fun r mem => ?_
    obtain ⟨f, listed, rfl⟩ := List.mem_map.mp mem
    refine Bool.eq_false_iff.mpr fun at_ => ?_
    exact apart _ (List.mem_map_of_mem listed) _ (.head _) (Option.some.inj ((isAt_iff rfl e.1).mp at_))

/-! ## The body that is composed -/

/-- What a row writes into the body. -/
def writeOf (r : RequestRow) : Option (List Step × Json) :=
  if r.row.parameter.getD "" = "" ∨ r.row.position ≠ "body" then none
  else some (stepsOf r.locator, selectValue r.row.value)

/-- A row that is not of the body writes nothing. -/
theorem RequestRow.Aside.writes (aside : r.Aside) : writeOf r = none := if_pos (.inr aside.1)

/-- A row that is not of the body does not touch it. -/
theorem addEntry_aside (aside : r.Aside) (composer : Composer) (beside : Beside) (draft : Draft) :
    ∃ draft', addEntry composer draft (r.entry beside) = .ok draft' ∧ draft'.body = draft.body := by
  unfold addEntry
  by_cases unnamed : (r.entry beside).parameter = ""
  · rw [if_pos (beq_iff_eq.mpr unnamed)]
    exact ⟨draft, rfl, rfl⟩
  · rw [if_neg (mt beq_iff_eq.mp unnamed)]
    have listed : (r.entry beside).position ∈ ["query", "header", "path", "cookie"] := aside.2.resolve_left unnamed
    dsimp only
    by_cases omitted : (r.entry beside).resolve.value = .null
    · rw [if_pos omitted]
      exact ⟨_, rfl, rfl⟩
    · rw [if_neg omitted]
      simp only [List.mem_cons, List.not_mem_nil, or_false] at listed
      rcases listed with position | position | position | position
      all_goals
        rw [position]
        exact ⟨_, rfl, rfl⟩

/-- A row of the body writes its value at the place of its leaf. -/
theorem addEntry_made (made : Made leaves r) (filled : ∀ e ∈ leaves, e.2 ≠ .null) {kind : Step}
    (starts : ∀ e ∈ leaves, ∃ s rest, e.1 = s :: rest ∧ SameKind kind s) (asset : Asset) {draft : Draft}
    (fits : isContainer draft.body = false ∨ Suits kind draft.body) :
    ∃ draft', addEntry asset.composer draft (r.entry asset.beside) = .ok draft' ∧
      (draft'.body = (writeOf r).elim draft.body fun e => write e.2 e.1 draft.body) ∧
      (isContainer draft'.body = false ∨ Suits kind draft'.body) := by
  obtain ⟨⟨e, mem, parameter, locator⟩, position, ⟨f, mem', first⟩⟩ := made
  obtain ⟨s, rest, path, same⟩ := starts e mem
  unfold addEntry
  by_cases unnamed : (r.entry asset.beside).parameter = ""
  · have skipped : writeOf r = none := if_pos (.inl unnamed)
    rw [skipped, if_pos (beq_iff_eq.mpr unnamed)]
    exact ⟨draft, rfl, rfl, fits⟩
  · have kept : writeOf r = some (stepsOf r.locator, selectValue r.row.value) :=
      if_neg (not_or.mpr ⟨unnamed, not_not.mpr position⟩)
    have selected : selectValue r.row.value = f.2 := by
      rw [selectValue, List.headD_eq_head?_getD, first, Option.getD_some]
    have present : selectValue (r.entry asset.beside).value ≠ .null :=
      show selectValue r.row.value ≠ .null from selected ▸ filled f mem'
    have resolved : (r.entry asset.beside).resolve.value = f.2 := by
      unfold Entry.resolve
      dsimp only
      rw [if_pos present]
      exact selected
    have written : setAtStored draft.body r.locator f.2 = .ok (write f.2 e.1 draft.body) := by
      rw [setAtStored, locator, tokensOf_locatorFromTokens, path]
      dsimp only
      have follows := follows_tokenOf (s :: rest)
      rcases setValueAtLocator_eq f.2 0 follows draft.body with ⟨container, unsuited, -⟩ | done
      · rcases fits with bare | suits
        · rw [bare] at container
          cases container
        · exact (unsuited (same.suits.mp suits)).elim
      · rw [done]
        rfl
    have located : (r.entry asset.beside).locator.isEmpty = false := by
      change r.locator.isEmpty = false
      rw [locator]
      rfl
    have body_ : (r.entry asset.beside).position = "body" := position
    rw [if_neg (mt beq_iff_eq.mp unnamed), kept, locator, stepsOf_locatorFromTokens, selected]
    dsimp only
    rw [resolved, if_neg (filled f mem'), located, body_]
    rw [if_neg Bool.false_ne_true, if_neg (by decide), if_neg (by decide), if_neg (by decide), if_neg (by decide),
      if_neg (by decide)]
    rw [show asset.composer.setValueAtLocator draft.body (r.entry asset.beside).locator f.2 = _ from written]
    refine ⟨_, rfl, rfl, .inr ?_⟩
    rw [path]
    exact same.suits.mpr (suits_write f.2 s rest draft.body)

/-- The rows write one after the other. -/
theorem compose_rows (filled : ∀ e ∈ leaves, e.2 ≠ .null) {kind : Step}
    (starts : ∀ e ∈ leaves, ∃ s rest, e.1 = s :: rest ∧ SameKind kind s) (asset : Asset)
    (each : ∀ r ∈ rows, r.Aside ∨ Made leaves r) {draft : Draft}
    (fits : isContainer draft.body = false ∨ Suits kind draft.body) :
    ∃ draft', (rows.map (RequestRow.entry asset.beside)).foldlM (addEntry asset.composer) draft = .ok draft' ∧
      draft'.body = writeAll (rows.filterMap writeOf) draft.body := by
  induction rows generalizing draft with
  | nil => exact ⟨draft, rfl, rfl⟩
  | cons r rows ih =>
    have later {next : Draft} (step : addEntry asset.composer draft (r.entry asset.beside) = .ok next)
        (fits' : isContainer next.body = false ∨ Suits kind next.body) :
        ∃ draft', ((r :: rows).map (RequestRow.entry asset.beside)).foldlM (addEntry asset.composer) draft = .ok draft' ∧
          draft'.body = writeAll (rows.filterMap writeOf) next.body := by
      rw [List.map_cons, List.foldlM_cons, step]
      exact ih (fun r' mem => each r' (.tail _ mem)) fits'
    rw [List.filterMap_cons]
    rcases each r (.head _) with aside | made
    · obtain ⟨next, step, kept⟩ := addEntry_aside aside asset.composer asset.beside draft
      rw [aside.writes, ← kept]
      exact later step (kept ▸ fits)
    · obtain ⟨next, step, written, fits'⟩ := addEntry_made made filled starts asset fits
      cases writes : writeOf r with
      | none =>
        have kept : next.body = draft.body := by rw [written, writes]; rfl
        rw [← kept]
        exact later step fits'
      | some e =>
        have wrote : next.body = write e.2 e.1 draft.body := by rw [written, writes]; rfl
        obtain ⟨draft', composed, body_⟩ := later step fits'
        exact ⟨draft', composed, by rw [body_, wrote]; rfl⟩

/-- The leaves of a body begin at one kind of step. -/
theorem CapturedBody.starts (body : CapturedBody) :
    ∃ kind, ∀ e ∈ body.leaves, ∃ s rest, e.1 = s :: rest ∧ SameKind kind s := by
  obtain ⟨value, once, filled, container, nonempty⟩ := body
  cases value with
  | obj fields =>
    cases fields with
    | nil => exact (nonempty.1 rfl).elim
    | cons field fields =>
      refine ⟨.key "", fun e mem => ?_⟩
      obtain ⟨name, rest, path⟩ := fieldOccurrences_starts (field :: fields) e mem
      exact ⟨_, rest, path, trivial⟩
  | arr items =>
    cases items with
    | nil => exact (nonempty.2 rfl).elim
    | cons item items =>
      refine ⟨.index 0, fun e mem => ?_⟩
      obtain ⟨i, rest, path⟩ := itemOccurrences_starts (item :: items) 0 e mem
      exact ⟨_, rest, path, trivial⟩
  | _ => cases container

/-- What is composed from rows is what they write, where it is not null. -/
theorem Asset.compose_eq (asset : Asset) (body : CapturedBody)
    (each : ∀ r ∈ rows, r.Aside ∨ Made body.leaves r) :
    ∃ payload, asset.compose rows = .ok payload ∧ payload.body =
      if writeAll (rows.filterMap writeOf) .null ≠ .null then writeAll (rows.filterMap writeOf) .null else .obj [] := by
  obtain ⟨kind, starts⟩ := body.starts
  let data : Endpoint := { asset.data with entries := rows.map (RequestRow.entry asset.beside) }
  have fits : isContainer (startDraft data).body = false ∨ Suits kind (startDraft data).body := .inl rfl
  obtain ⟨draft, composed, written⟩ := compose_rows body.filled starts asset each fits
  have built : asset.compose rows = .ok { payloadOf asset.context data draft with
      renderedUrl := asset.renderRequestUrl (payloadOf asset.context data draft) } := by
    unfold Asset.compose buildRequestPayload
    rw [show (data.entries.foldlM (addEntry asset.composer) (startDraft data)) = _ from composed]
    rfl
  refine ⟨_, built, ?_⟩
  show (if draft.body ≠ .null then draft.body else .obj []) = _
  rw [written]
  rfl

theorem CapturedBody.not_same_empty (body : CapturedBody) : ¬ (Json.obj []).Same body.value := by
  obtain ⟨value, once, filled, container, nonempty⟩ := body
  cases value with
  | obj fields =>
    intro same
    have fields_ := Json.obj.inj (show Json.obj _ = Json.obj _ from same)
    exact nonempty.1 (congrArg Json.obj (Json.canonical_obj_eq_nil.mp fields_.symm))
  | _ => exact fun same => by cases same

/-- The body that is composed equals the one that was captured just where the writes give it. -/
theorem payload_same_iff (body : CapturedBody) {written : Json} :
    (if written ≠ .null then written else .obj []).Same body.value ↔ written.Same body.value := by
  by_cases null : written = .null
  · rw [if_neg (not_not.mpr null), null]
    exact ⟨fun same => (body.not_same_empty same).elim, fun same => (body.filled.ne (null_same same)).elim⟩
  · rw [if_pos null]

/-- The paths of the leaves are different and not empty just where no leaf is left out. -/
theorem Saved.leavesOut (body : CapturedBody) (saved : Saved asset body.leaves rows made)
    (unaddressed : ¬ Addressed body) : LeavesOut (made.filterMap writeOf) body.value := by
  have source {e : List Step × Json} (mem : e ∈ made.filterMap writeOf) :
      ∃ r ∈ made, writeOf r = some e ∧
        ∃ f ∈ body.leaves, r.row.parameter = some (parameterOf f.1) ∧ e.1 = f.1 ∧ parameterOf f.1 ≠ "" := by
    obtain ⟨r, listed, writes⟩ := List.mem_filterMap.mp mem
    obtain ⟨f, leaf, parameter, locator⟩ := (saved.each r listed).located
    refine ⟨r, listed, writes, f, leaf, parameter, ?_⟩
    unfold writeOf at writes
    split at writes
    · cases writes
    · next kept =>
      cases writes
      have named := (not_or.mp kept).1
      rw [parameter, Option.getD_some] at named
      refine ⟨?_, named⟩
      dsimp only
      rw [locator, stepsOf_locatorFromTokens]
  refine ⟨fun e mem => ?_, ?_⟩
  · obtain ⟨r, -, -, f, leaf, -, path, -⟩ := source mem
    exact ⟨f.2, path ▸ leaf⟩
  · by_contra all
    push Not at all
    refine unaddressed ⟨fun e mem f mem' same => ?_, fun e mem unnamed => ?_⟩
    · obtain ⟨w, written, path⟩ := all e mem
      obtain ⟨w', written', path'⟩ := all f mem'
      obtain ⟨r, listed, writes, g, -, parameter, at_, -⟩ := source written
      obtain ⟨r', listed', writes', g', -, parameter', at_', -⟩ := source written'
      have paths : r.row.parameter = r'.row.parameter := by
        rw [parameter, parameter', ← at_, ← at_', path, path', same]
      have rows_ : r = r' := List.inj_on_of_nodup_map saved.distinct listed listed' paths
      have same : w = w' := Option.some.inj (writes.symm.trans (rows_ ▸ writes'))
      rw [← path, same, path']
    · obtain ⟨w, written, path⟩ := all e mem
      obtain ⟨r, -, -, f, -, -, at_, named⟩ := source written
      exact named (by rw [← at_, path, unnamed])

/-- The rows of others write nothing. -/
theorem others_writes (asset : Asset) : asset.others.filterMap writeOf = [] :=
  List.filterMap_eq_nil_iff.mpr fun r mem => (asset.aside r mem).writes

/-- Where the leaves are addressed their rows write them. -/
theorem Addressed.writes {body : CapturedBody} (addressed : Addressed body) (asset : Asset) :
    (asset.savedRows body).filterMap writeOf = body.leaves := by
  have paths : (body.leaves.map Prod.fst).Nodup := paths_nodup body.value body.once
  have parameters : (body.leaves.map fun e => parameterOf e.1).Nodup := by
    refine paths.of_map.map_on fun e mem f mem' same => ?_
    exact List.inj_on_of_nodup_map paths mem mem' (addressed.distinct e mem f mem' same)
  rw [Asset.savedRows, savedRows_eq parameters, List.filterMap_append, others_writes, List.nil_append, List.filterMap_map]
  refine (List.filterMap_congr fun e mem => ?_).trans (List.filterMap_some ..)
  have kept : ¬ ((newRequestRow "application/json" e).row.parameter.getD "" = "" ∨
      (newRequestRow "application/json" e).row.position ≠ "body") :=
    not_or.mpr ⟨addressed.named e mem, not_not.mpr rfl⟩
  rw [Function.comp_apply, writeOf, if_neg kept]
  exact congrArg (fun steps => some (steps, e.2)) (stepsOf_locatorFromTokens "request" "body" e.1)

/-- The body that is composed is the one that was captured just where its leaves are addressed. -/
theorem composed_iff (asset : Asset) (body : CapturedBody) :
    (∀ rows, rows.Perm (asset.savedRows body) →
      ∃ payload, asset.compose rows = .ok payload ∧ payload.body.Same body.value) ↔ Addressed body := by
  obtain ⟨made, saved⟩ := savedRows_saved asset body
  have each : ∀ r ∈ asset.savedRows body, r.Aside ∨ Made body.leaves r := by
    intro r mem
    rw [saved.split] at mem
    exact (List.mem_append.mp mem).imp (asset.aside r) (saved.each r)
  constructor
  · intro composed
    by_contra unaddressed
    obtain ⟨payload, built, same⟩ := composed _ (.refl _)
    obtain ⟨payload', built', body_⟩ := asset.compose_eq body each
    obtain rfl := Except.ok.inj (built.symm.trans built')
    rw [body_, payload_same_iff, saved.split, List.filterMap_append, others_writes, List.nil_append] at same
    exact (saved.leavesOut body unaddressed).not_same body.value body.once body.filled same
  · intro addressed rows perm
    obtain ⟨payload, built, body_⟩ := asset.compose_eq body fun r mem => each r (perm.mem_iff.mp mem)
    refine ⟨payload, built, ?_⟩
    have written := perm.filterMap writeOf
    rw [addressed.writes asset] at written
    rw [body_, payload_same_iff]
    exact writeAll_perm body.value body.once written

/-- An endpoint of which nothing else is known. -/
def bareAsset : Asset where
  data := { id := "", ptahId := 0, projectId := "", envId := "", importRunId := "", sourceMeta := [], method := "POST",
            url := "", path := "", domain := "", query := .obj [], headers := [], rawReq := [], rawRes := [],
            responseStatusCode := [], action := "", rule := "", tags := "", des := "", entries := [], sample := none }
  beside := ⟨fun _ => (.null, []), fun _ => .null, fun _ => (.null, .null, .null)⟩
  context := ⟨"", "", "", "", "asset"⟩
  parameterLocator _ _ := []
  renderRequestUrl _ := ""
  others := []
  aside := nofun

/-- `{"a.b": 1, "a": {"b": 2}}` -/
def dottedBody : CapturedBody where
  value := .obj [("a.b", .int 1), ("a", .obj [("b", .int 2)])]
  once := by simp [KeysOnce, FieldsOnce]
  filled := by
    intro e mem
    simp [leafOccurrences, fieldOccurrences] at mem
    rcases mem with rfl | rfl <;> simp
  container := rfl
  nonempty := by simp

end ApiManger.Locators
