import ApiManger.Evidence.View

/-!
# Shielded credentials

Two captures that differ in credentials have one view where the response is as long in both and
is kept whole, and every leaf where the bodies differ has a path that is named like a credential.
-/

namespace ApiManger.Evidence
open Python Samples Collection

/-- The bodies are the same, or documents that differ in credentials. -/
def ConcealedBody (r : Reader) (body body' : Option String) : Prop :=
  body = body' ∨ ∃ text text' document document', body = some text ∧ body' = some text' ∧ r.loads text = some document ∧
    r.loads text' = some document' ∧ Concealed document document' ∧
      ((∃ fields, document = .obj fields) ∨ ∃ items, document = .arr items)

/-- The captures are the same but for credentials in their bodies. -/
structure ConcealedCapture (r : Reader) (c c' : Capture) : Prop where
  call : c'.call = { c.call with responseBody := c'.call.responseBody }
  request : ConcealedBody r c.request c'.request
  response : ConcealedBody r c.call.responseBody c'.call.responseBody

/-- The response is kept whole. -/
def KeptWhole (body : Option String) : Prop := ∀ text, body = some text → text.length ≤ fullResponseSampleLimit

/-- The credentials in which the captures differ are out of the view's reach. -/
structure Shielded (r : Reader) (c c' : Capture) : Prop where
  bytes : bodyLen c.call.responseBody = bodyLen c'.call.responseBody
  sampled : sampleResponse c.call.responseBody = sampleResponse c'.call.responseBody ∨
    KeptWhole c.call.responseBody ∧ KeptWhole c'.call.responseBody
  request : HiddenBodies r c.request c'.request
  response : HiddenBodies r c.call.responseBody c'.call.responseBody

/-! ## Lists that are alike -/

section
variable {α β : Type} {R : α → α → Prop}

theorem map_eq_of_forall₂ {f : α → β} {l l' : List α} (same : List.Forall₂ (fun a a' => f a = f a') l l') :
    l.map f = l'.map f := by
  induction same with
  | nil => rfl
  | cons one _ ih => rw [List.map_cons, List.map_cons, one, ih]

theorem orderedInsert_forall₂ {le : α → α → Prop} [DecidableRel le]
    (cong : ∀ a a' b b', R a a' → R b b' → (le a b ↔ le a' b')) {a a' : α} (one : R a a') {l l' : List α}
    (same : List.Forall₂ R l l') : List.Forall₂ R (l.orderedInsert le a) (l'.orderedInsert le a') := by
  induction same with
  | nil => exact .cons one .nil
  | @cons b b' rest rest' other tail ih =>
    rw [List.orderedInsert_cons, List.orderedInsert_cons]
    by_cases before : le a b
    · rw [if_pos before, if_pos ((cong a a' b b' one other).mp before)]
      exact .cons one (.cons other tail)
    · rw [if_neg before, if_neg fun there => before ((cong a a' b b' one other).mpr there)]
      exact .cons other ih

/-- Lists that are alike are so when they are sorted by what is the same in both. -/
theorem insertionSort_forall₂ {le : α → α → Prop} [DecidableRel le]
    (cong : ∀ a a' b b', R a a' → R b b' → (le a b ↔ le a' b')) {l l' : List α} (same : List.Forall₂ R l l') :
    List.Forall₂ R (l.insertionSort le) (l'.insertionSort le) := by
  induction same with
  | nil => exact .nil
  | cons one _ ih =>
    rw [List.insertionSort_cons, List.insertionSort_cons]
    exact orderedInsert_forall₂ cong one ih

/-- Two updates of one document leave lists that are alike. -/
theorem updateOne_forall₂ {p : α → Bool} {f f' : α → α} (refl : ∀ a, R a a) (each : ∀ a, R (f a) (f' a)) (l : List α) :
    (updateOne p f l = none ∧ updateOne p f' l = none) ∨
      ∃ next next', updateOne p f l = some next ∧ updateOne p f' l = some next' ∧ List.Forall₂ R next next' := by
  induction l with
  | nil => exact .inl ⟨rfl, rfl⟩
  | cons a rest ih =>
    rw [updateOne, updateOne]
    split
    · exact .inr ⟨_, _, rfl, rfl, .cons (each a) (List.forall₂_same.mpr fun a _ => refl a)⟩
    · rcases ih with ⟨none_, none'⟩ | ⟨next, next', found, found', same⟩
      · exact .inl ⟨by rw [none_]; rfl, by rw [none']; rfl⟩
      · exact .inr ⟨a :: next, a :: next', by rw [found]; rfl, by rw [found']; rfl, .cons (refl a) same⟩

end

/-! ## Parameters -/

section
variable {r : Reader} {row row' : ParameterRow}

/-- The view shows a row without the values of a credential. -/
theorem parameterRow_masked (direction : String) (highlighted : List String) (row : ParameterRow) :
    parameterRow r direction highlighted row.masked = parameterRow r direction highlighted row := by
  unfold ParameterRow.masked
  split
  · next sensitive =>
    unfold parameterRow
    dsimp only
    rw [if_pos sensitive, if_pos sensitive]
  · rfl

theorem rowBefore_masked (one : row.masked = row'.masked) {other other' : ParameterRow}
    (two : other.masked = other'.masked) : rowBefore row other ↔ rowBefore row' other' := by
  unfold rowBefore
  rw [← masked_parameter row, ← masked_position row, one, masked_parameter, masked_position,
    ← masked_parameter other, ← masked_position other, two, masked_parameter, masked_position]

theorem parameterRows_eq {rows rows' : List ParameterRow} (alike : Alike rows rows') (direction : String)
    (highlighted : List String) (limit : ℕ) :
    ((rows.insertionSort rowBefore).take limit).map (parameterRow r direction highlighted) =
      ((rows'.insertionSort rowBefore).take limit).map (parameterRow r direction highlighted) := by
  have sorted := insertionSort_forall₂ (R := fun row row' : ParameterRow => row.masked = row'.masked)
    (fun _ _ _ _ one two => rowBefore_masked one two) alike
  refine map_eq_of_forall₂ ((List.forall₂_take limit sorted).imp fun row row' same => ?_)
  rw [← parameterRow_masked direction highlighted row, same, parameterRow_masked]

end
/-! ## Shapes -/

section
variable {r : Reader}

mutual

theorem Masked.keys_eq {value value' : Json} (masked : Masked value value') (parent : String) :
    flattenKeys value parent = flattenKeys value' parent := by
  cases masked with
  | leaf => rfl
  | text => rfl
  | arr each =>
    rw [flattenKeys, flattenKeys]
    exact each.keys_eq 0 parent
  | obj each =>
    rw [flattenKeys, flattenKeys]
    exact each.keys_eq parent

theorem MaskedItems.keys_eq {items items' : List Json} (masked : MaskedItems items items') (i : ℕ) (parent : String) :
    itemKeys items i parent = itemKeys items' i parent := by
  cases masked with
  | nil => rfl
  | cons head tail => rw [itemKeys, itemKeys, head.keys_eq, tail.keys_eq]

theorem MaskedFields.keys_eq {fields fields' : List (String × Json)} (masked : MaskedFields fields fields')
    (parent : String) : fieldKeys fields parent = fieldKeys fields' parent := by
  cases masked with
  | nil => rfl
  | cons head tail => rw [fieldKeys, fieldKeys, head.keys_eq, tail.keys_eq]

end

mutual

/-- Documents that differ in credentials have the same keys. -/
theorem Concealed.keys_eq {value value' : Json} (concealed : Concealed value value') (parent : String) :
    flattenKeys value parent = flattenKeys value' parent := by
  cases concealed with
  | leaf => rfl
  | arr each =>
    rw [flattenKeys, flattenKeys]
    exact each.keys_eq 0 parent
  | obj each =>
    rw [flattenKeys, flattenKeys]
    exact each.keys_eq parent

theorem ConcealedItems.keys_eq {items items' : List Json} (concealed : ConcealedItems items items') (i : ℕ)
    (parent : String) : itemKeys items i parent = itemKeys items' i parent := by
  cases concealed with
  | nil => rfl
  | cons head tail => rw [itemKeys, itemKeys, head.keys_eq, tail.keys_eq]

theorem ConcealedFields.keys_eq {fields fields' : List (String × Json)} (concealed : ConcealedFields fields fields')
    (parent : String) : fieldKeys fields parent = fieldKeys fields' parent := by
  cases concealed with
  | nil => rfl
  | cons head tail => rw [fieldKeys, fieldKeys, head.keys_eq, tail.keys_eq]
  | secret sensitive head tail => rw [fieldKeys, fieldKeys, head.keys_eq, tail.keys_eq]

end

/-- A text that is a document starts with its bracket. -/
theorem opened_of_loads {text : String} {document : Json} (loads : r.loads text = some document)
    (container : (∃ fields, document = .obj fields) ∨ ∃ items, document = .arr items) :
    (stripped text).toList.head? = some '{' ∨ (stripped text).toList.head? = some '[' := by
  rcases container with ⟨fields, rfl⟩ | ⟨items, rfl⟩
  · exact .inl (r.opens text fields loads)
  · exact .inr (r.opensList text items loads)

theorem ne_empty_of_loads {text : String} {document : Json} (loads : r.loads text = some document)
    (container : (∃ fields, document = .obj fields) ∨ ∃ items, document = .arr items) : text ≠ "" := by
  rintro rfl
  exact absurd (opened_of_loads loads container) (by decide +kernel)

theorem Concealed.container {value value' : Json} (concealed : Concealed value value')
    (container : (∃ fields, value = .obj fields) ∨ ∃ items, value = .arr items) :
    (∃ fields, value' = .obj fields) ∨ ∃ items, value' = .arr items := by
  cases concealed with
  | leaf => exact container
  | arr each => exact .inr ⟨_, rfl⟩
  | obj each => exact .inl ⟨_, rfl⟩

/-- The shape of a body is about its keys. -/
theorem ConcealedBody.shape_eq {body body' : Option String} (g : Digests) (concealed : ConcealedBody r body body') :
    (bodyDigests r g).bodyShape (.json (body.elim .null .str)) =
      (bodyDigests r g).bodyShape (.json (body'.elim .null .str)) := by
  rcases concealed with rfl | ⟨text, text', document, document', rfl, rfl, loads, loads', inside, container⟩
  · rfl
  · change bodyShapeSignature r text = bodyShapeSignature r text'
    unfold bodyShapeSignature bodyParse
    rw [if_neg (ne_empty_of_loads loads container), if_neg (ne_empty_of_loads loads' (inside.container container)),
      loads, loads']
    dsimp only
    rw [inside.keys_eq]

end

/-! ## Samples -/

section
variable {r : Reader} {g : Digests} {redactUrl : String → String}

/-- Documents that differ in credentials are sanitized alike as texts. -/
theorem ConcealedBody.sanitized_eq {body body' : Option String} (concealed : ConcealedBody r body body') :
    sanitized r (body.elim .null .str) = sanitized r (body'.elim .null .str) := by
  rcases concealed with rfl | ⟨text, text', document, document', rfl, rfl, loads, loads', inside, container⟩
  · rfl
  · have opened := opened_of_loads loads container
    have opened' := opened_of_loads loads' (inside.container container)
    change sanitized r (.str text) = sanitized r (.str text')
    rw [sanitized_of_loads loads opened, sanitized_of_loads loads' opened', inside.sanitized_eq]

theorem sampleResponse_of_keptWhole {body : Option String} (whole : KeptWhole body) : sampleResponse body = body := by
  cases body with
  | none => rfl
  | some text =>
    have short : text.toList.length ≤ fullResponseSampleLimit := by
      rw [String.length_toList]
      exact whole text rfl
    change some (firstChars text fullResponseSampleLimit) = some text
    rw [firstChars, List.take_of_length_le short, String.ofList_toList]

/-- The samples are shown alike, at one place. -/
def SampleAlike (r : Reader) (redactUrl : String → String) (sample sample' : RequestSample) : Prop :=
  sampleRow r redactUrl sample = sampleRow r redactUrl sample' ∧ sample.lastSeen = sample'.lastSeen ∧
    sample.source = sample'.source

theorem response_sanitized_eq {body body' : Option String} (concealed : ConcealedBody r body body')
    (sampled : sampleResponse body = sampleResponse body' ∨ KeptWhole body ∧ KeptWhole body') :
    sanitized r ((sampleResponse body).elim .null .str) = sanitized r ((sampleResponse body').elim .null .str) := by
  rcases sampled with same | ⟨whole, whole'⟩
  · rw [same]
  · rw [sampleResponse_of_keptWhole whole, sampleResponse_of_keptWhole whole', concealed.sanitized_eq]

/-- Samples that agree in what the view reads are alike. -/
theorem sampleAlike_of {sample sample' : RequestSample} (rest : sample' = { sample with
      captured := { sample.captured with body := sample'.captured.body }
      bodyShape := sample'.bodyShape
      responseHash := sample'.responseHash
      responseSample := sample'.responseSample })
    (body : sanitized r (bodyValue sample.captured.body) = sanitized r (bodyValue sample'.captured.body))
    (response : sanitized r (sample.responseSample.elim .null .str) = sanitized r (sample'.responseSample.elim .null .str)) :
    SampleAlike r redactUrl sample sample' := by
  rw [rest]
  refine ⟨?_, rfl, rfl⟩
  unfold sampleRow
  dsimp only
  rw [body, response]

theorem sampleSignature_eq (g : Digests) {c c' : Capture} (concealed : ConcealedCapture r c c') :
    sampleSignature (bodyDigests r g) c.saveCall = sampleSignature (bodyDigests r g) c'.saveCall := by
  obtain ⟨call, request⟩ := c
  obtain ⟨call', request'⟩ := c'
  have same : call' = { call with responseBody := call'.responseBody } := concealed.call
  have shape := concealed.request.shape_eq g
  unfold sampleSignature Capture.saveCall
  dsimp only
  rw [same, shape]

/-- Captures that differ in credentials leave samples that are alike. -/
theorem saveRequestSample_alike {c c' : Capture} (concealed : ConcealedCapture r c c')
    (shielded : Shielded r c c') (samples : List RequestSample) :
    List.Forall₂ (SampleAlike r redactUrl) (saveRequestSample (bodyDigests r g) c.saveCall samples)
      (saveRequestSample (bodyDigests r g) c'.saveCall samples) := by
  have refl : ∀ sample, SampleAlike r redactUrl sample sample := fun _ => ⟨rfl, rfl, rfl⟩
  have signature := sampleSignature_eq g concealed
  have request := concealed.request.sanitized_eq
  have response := response_sanitized_eq concealed.response shielded.sampled
  have bytes := shielded.bytes
  obtain ⟨call, text⟩ := c
  obtain ⟨call', text'⟩ := c'
  have same : call' = { call with responseBody := call'.responseBody } := concealed.call
  generalize call'.responseBody = other at same
  subst same
  have each : ∀ sample, SampleAlike r redactUrl (RequestSample.again (bodyDigests r g) (Capture.saveCall ⟨call, text⟩) sample)
      (RequestSample.again (bodyDigests r g) (Capture.saveCall ⟨{ call with responseBody := other }, text'⟩) sample) := by
    intro sample
    refine sampleAlike_of ?_ rfl ?_
    · dsimp only [RequestSample.again, Capture.saveCall] at bytes ⊢
      rw [bytes]
    · dsimp only [RequestSample.again, Capture.saveCall]
      split
      · exact response
      · rfl
  have new : SampleAlike r redactUrl (newSample (bodyDigests r g) (Capture.saveCall ⟨call, text⟩))
      (newSample (bodyDigests r g) (Capture.saveCall ⟨{ call with responseBody := other }, text'⟩)) := by
    refine sampleAlike_of ?_ request response
    unfold newSample
    rw [signature]
    dsimp only [Capture.saveCall] at bytes ⊢
    rw [bytes]
    rfl
  unfold saveRequestSample
  rw [← signature]
  rcases updateOne_forall₂ refl each samples with ⟨none_, none'⟩ | ⟨next, next', found, found', alike⟩
  · rw [none_, none']
    dsimp only
    split
    · exact List.forall₂_same.mpr fun sample _ => refl sample
    · exact List.rel_append (List.forall₂_same.mpr fun sample _ => refl sample) (.cons new .nil)
  · rw [found, found']
    exact alike

/-! ## The view -/

theorem sourceKind_eq {endpoint endpoint' : EvidenceEndpoint} {samples samples' : List RequestSample}
    (rest : endpoint' = { endpoint with rawReq := endpoint'.rawReq, rawRes := endpoint'.rawRes })
    (requests : endpoint.rawReq.length = endpoint'.rawReq.length)
    (responses : endpoint.rawRes.length = endpoint'.rawRes.length)
    (alike : List.Forall₂ (SampleAlike r redactUrl) samples samples') :
    sourceKind endpoint samples = sourceKind endpoint' samples' := by
  have empty : ∀ {l l' : List (Option String)}, l.length = l'.length → l.isEmpty = l'.isEmpty := by
    intro l l' same
    cases l <;> cases l' <;> first | rfl | cases same
  have sources : samples.map (fun sample => lower (stripped sample.source)) =
      samples'.map (fun sample => lower (stripped sample.source)) :=
    map_eq_of_forall₂ (alike.imp fun _ _ one => by rw [one.2.2])
  unfold sourceKind
  dsimp only
  rw [sources, empty requests, empty responses, rest]

/-- What the captures leave of the endpoint differs in the last bodies at most. -/
theorem record_alike {c c' : Capture} (shielded : Shielded r c c')
    (endpoint : EvidenceEndpoint) :
    endpoint.record c' = { endpoint.record c with
        rawReq := (endpoint.record c').rawReq, rawRes := (endpoint.record c').rawRes } ∧
      List.Forall₂ (HiddenBodies r) (endpoint.record c).rawReq (endpoint.record c').rawReq ∧
      List.Forall₂ (HiddenBodies r) (endpoint.record c).rawRes (endpoint.record c').rawRes := by
  have refl : ∀ l : List (Option String), List.Forall₂ (HiddenBodies r) l l :=
    fun _ => List.forall₂_same.mpr fun _ _ => .inl rfl
  unfold EvidenceEndpoint.record
  split
  · exact ⟨rfl, List.rel_append (refl _) (.cons shielded.request .nil),
      List.rel_append (refl _) (.cons shielded.response .nil)⟩
  · exact ⟨rfl, refl _, refl _⟩

end

/-- **Shielded credentials.** Captures that are the same but for credentials in their bodies have one view when
the response has as many bytes in both and is kept whole (or cut to the same sample), and every leaf in which
the bodies differ has a path that is named like a credential. -/
theorem endpointEvidenceView_eq (r : Reader) (g : Digests) (args : ViewArguments)
    (store : EvidenceStore) (c c' : Capture) (concealed : ConcealedCapture r c c') (shielded : Shielded r c c') :
    endpointEvidenceView r args (storeCapture g r store c) = endpointEvidenceView r args (storeCapture g r store c') := by
  obtain ⟨rest, requests, responses⟩ := record_alike shielded store.endpoint
  have reqRows := disassembleBodies_alike requests (Alike.refl store.reqRows)
  have resRows := disassembleBodies_alike responses (Alike.refl store.resRows)
  have samples : List.Forall₂ (SampleAlike r args.redactUrl) (saveRequestSample (bodyDigests r g) c.saveCall store.samples)
      (saveRequestSample (bodyDigests r g) c'.saveCall store.samples) := saveRequestSample_alike concealed shielded store.samples
  have latest := List.forall₂_take args.sampleLimit (@insertionSort_forall₂ _ _ (fun a b => b.lastSeen ≤ a.lastSeen) _
    (fun a a' b b' one two => by rw [one.2.1, two.2.1]) _ _ samples)
  have kind := sourceKind_eq rest requests.length_eq responses.length_eq latest
  unfold endpointEvidenceView storeCapture
  dsimp only
  rw [kind, parameterRows_eq reqRows, parameterRows_eq resRows, map_eq_of_forall₂ (latest.imp fun _ _ one => one.1),
    reqRows.length_eq, resRows.length_eq, samples.length_eq, rest]

/-! ## Two logins -/

theorem mem_of_lookup {table : List (String × Dict)} {text : String} {fields : Dict}
    (found : table.lookup text = some fields) : (text, fields) ∈ table := by
  obtain ⟨before, after, here, _⟩ := List.lookup_eq_some_iff.mp found
  rw [here]
  exact List.mem_append_right before List.mem_cons_self

/-- A reader that knows some objects. -/
def Reader.ofTable (table : List (String × Dict))
    (solid : ∀ e ∈ table, stripped e.1 = e.1 ∧ e.1.toList.head? = some '{') : Reader where
  loads text := (table.lookup text).map .obj
  strips text value found := by
    obtain ⟨fields, there, _⟩ := Option.map_eq_some_iff.mp found
    rw [(solid (text, fields) (mem_of_lookup there)).1, found]
  opens text fields found := by
    obtain ⟨fields, there, _⟩ := Option.map_eq_some_iff.mp found
    have here := solid (text, fields) (mem_of_lookup there)
    rw [here.1, here.2]
  opensList text items found := by
    obtain ⟨fields, there, isObject⟩ := Option.map_eq_some_iff.mp found
    cases isObject

/-- A reader of the bodies below. -/
def loginReader : Reader :=
  Reader.ofTable [("\x7b\"password\":\"abc\"\x7d", [("password", .str "abc")]),
    ("\x7b\"password\":\"xyz\"\x7d", [("password", .str "xyz")]),
    ("\x7b\"user\":\x7b\"password\":\"abc\"\x7d\x7d", [("user", .obj [("password", .str "abc")])]),
    ("\x7b\"user\":\x7b\"password\":\"xyz\"\x7d\x7d", [("user", .obj [("password", .str "xyz")])])] (by decide +kernel)

def loginDigests : Digests := ⟨fun _ => {}, fun _ => "shape", fun _ => "response"⟩

/-- The answer of a login. -/
def loginCapture (response : String) : Capture where
  call := { captured := { url := "https://shop/login" }, responseBody := some response, now := 1 }
  request := none

def loginStore : EvidenceStore where
  endpoint := ⟨1, "har", "", [], "concrete", "POST", "/login", "https://shop/login", "shop", "", "", "", [], 10, [], []⟩
  samples := []
  reqRows := []
  resRows := []

def loginArguments : ViewArguments := ⟨[], 3, 120, id⟩

/-- A password at the top of the answer is not shown. -/
theorem endpointEvidenceView_eq_login :
    endpointEvidenceView loginReader loginArguments
        (storeCapture loginDigests loginReader loginStore (loginCapture "\x7b\"password\":\"abc\"\x7d")) =
      endpointEvidenceView loginReader loginArguments
        (storeCapture loginDigests loginReader loginStore (loginCapture "\x7b\"password\":\"xyz\"\x7d")) := by
  refine endpointEvidenceView_eq loginReader loginDigests loginArguments loginStore _ _
    ⟨rfl, .inl rfl, .inr ⟨_, _, .obj [("password", .str "abc")], .obj [("password", .str "xyz")], rfl, rfl, ?_, ?_,
      .obj (.secret ?_ (.text ?_) .nil), .inl ⟨_, rfl⟩⟩⟩
    ⟨?_, .inr ⟨?_, ?_⟩, .inl rfl, .inr ⟨_, _, .obj [("password", .str "abc")], .obj [("password", .str "xyz")], rfl, rfl, ?_, ?_,
      .cons ⟨rfl, .inr ?_⟩ .nil⟩⟩
  all_goals first | decide +kernel | (rintro text ⟨⟩; decide +kernel)

/-- A password below a name is shown: its path is not a name of a credential. -/
theorem endpointEvidenceView_leaks : ¬∀ (r : Reader) (g : Digests) (args : ViewArguments) (store : EvidenceStore)
    (c c' : Capture), ConcealedCapture r c c' →
      endpointEvidenceView r args (storeCapture g r store c) = endpointEvidenceView r args (storeCapture g r store c') := by
  intro claim
  have concealed : ConcealedCapture loginReader
      (loginCapture "\x7b\"user\":\x7b\"password\":\"abc\"\x7d\x7d")
      (loginCapture "\x7b\"user\":\x7b\"password\":\"xyz\"\x7d\x7d") := by
    refine ⟨rfl, .inl rfl, .inr ⟨_, _, .obj [("user", .obj [("password", .str "abc")])],
      .obj [("user", .obj [("password", .str "xyz")])], rfl, rfl, ?_, ?_,
      .obj (.cons (.obj (.secret ?_ (.text ?_) .nil)) .nil), .inl ⟨_, rfl⟩⟩⟩
    all_goals decide +kernel
  have same := congrArg (fun view : EvidenceView => view.responseParameters.map (·.examples))
    (claim loginReader loginDigests loginArguments loginStore _ _ concealed)
  revert same
  decide +kernel

end ApiManger.Evidence
