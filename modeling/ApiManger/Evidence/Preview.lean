import ApiManger.Python.Text
import ApiManger.Python.Url

/-!
# Request previews

`request_evidence_preview` of `apiAnalysis/tool/request_evidence_preview.py` shows a request before it is
sent: its headers, cookies and body, with what stands under the name of a credential masked and the rest
cut short. Requests that differ in credentials only have one preview.
`lower` is `str.lower` and `loads` is `json.loads`, `none` where it raises.
-/

namespace ApiManger.Preview
open Python

def mask : String := "<redacted>"

def maxString : ℕ := 160

def maxFields : ℕ := 40

def maxItems : ℕ := 20

def maxDepth : ℕ := 5

def sensitiveExact : List String := [
  "authorization", "proxyauthorization", "cookie", "setcookie", "password", "passwd", "pwd", "secret",
  "clientsecret", "apikey", "accesskey", "token", "accesstoken", "refreshtoken", "idtoken", "jwt", "session",
  "sessionid", "csrf", "csrftoken", "xsrf", "xsrftoken", "signature", "sign", "nonce", "credential", "privatekey"]

/-- What makes a name sensitive wherever it stands in it. -/
def sensitiveParts : List String := [
  "authorization", "password", "passwd", "clientsecret", "apikey", "accesstoken", "refreshtoken", "authtoken",
  "sessiontoken", "csrftoken", "xsrftoken", "privatekey", "signature", "credential"]

def boundedText (text : String) : String :=
  if text.length ≤ maxString then text else firstChars text maxString ++ "...<truncated>"

def boundedScalar : Json → Json
  | .str text => .str (boundedText text)
  | value => value

/-- What a preview is made of. -/
structure Request where
  headers : List (String × String)
  cookies : List (String × String)
  /-- `request_kwargs["json"]`, where it is there. -/
  json : Option Json
  /-- `request_kwargs.get("data", snapshot.body)` -/
  data : Json
  /-- The content type among the headers, or else that of the snapshot. -/
  contentType : String

structure RequestPreview where
  headers : Dict
  cookies : Dict
  body : Json

section
variable (lower : String → String)

def normalizedName (name : String) : String :=
  String.ofList ((lower name).toList.filter fun c => c.isLower || c.isDigit)

def isSensitiveName (name : String) : Bool :=
  sensitiveExact.contains (normalizedName lower name) ||
    sensitiveParts.any (containsText (normalizedName lower name))

/-- `field_name and is_sensitive_name(field_name)` -/
def isMasked (name : String) : Bool := name != "" && isSensitiveName lower name

/-- `safe_value`, with so many levels left to `MAX_DEPTH`. -/
def safeValue : ℕ → String → Json → Json
  | levels, name, value =>
    if isMasked lower name then .str mask
    else match levels with
      | 0 => .str "<max-depth>"
      | levels + 1 => match value with
        | .obj fields =>
          let shown : Dict := (fields.take maxFields).foldl (fun shown e =>
            Dict.set shown (firstChars e.1 100) (safeValue levels e.1 e.2)) []
          .obj (if maxFields < fields.length then
            Dict.set shown "<truncated-fields>" (.int (fields.length - maxFields : ℕ)) else shown)
        | .arr items =>
          let shown := (items.take maxItems).map (safeValue levels "")
          .arr (if maxItems < items.length then
            shown ++ [.str ("<truncated-items:" ++ toString (items.length - maxItems) ++ ">")] else shown)
        | value => boundedScalar value

/-- The text of a header or of a field of a form. -/
def shownText (name text : String) : Json := .str (if isSensitiveName lower name then mask else boundedText text)

/-- `_headers` -/
def shownHeaders (headers : List (String × String)) : Dict :=
  (headers.take maxFields).foldl (fun shown e => Dict.set shown (firstChars e.1 100) (shownText lower e.1 e.2)) []

/-- Only the names of cookies are shown. -/
def shownCookies (cookies : List (String × String)) : Dict :=
  (cookies.take maxFields).foldl (fun shown e => Dict.set shown (firstChars e.1 100) (.str mask)) []

/-- The fields of a form, whose names are not cut. -/
def shownForm (pairs : List (String × String)) : Dict :=
  (pairs.take maxFields).foldl (fun shown e => Dict.set shown e.1 (shownText lower e.1 e.2)) []

/-- `_body` -/
def shownBody (loads : String → Option Json) (r : Request) : Json :=
  match r.json with
  | some value => safeValue lower maxDepth "" value
  | none => match r.data with
    | .str text =>
      match if containsText (lower r.contentType) "json" then loads text else none with
      | some document => safeValue lower maxDepth "" document
      | none =>
        if containsText (lower r.contentType) "application/x-www-form-urlencoded" then
          .obj (shownForm lower (parseQsl text.toList))
        else safeValue lower maxDepth "" (.str text)
    | value => safeValue lower maxDepth "" value

/-- The headers, the cookies and the body of `request_evidence_preview`. -/
def requestEvidencePreview (loads : String → Option Json) (r : Request) : RequestPreview where
  headers := shownHeaders lower r.headers
  cookies := shownCookies r.cookies
  body := shownBody lower loads r

/-! ## Credentials -/

mutual

/-- The document with `null` under every name that is masked, at any depth. -/
def erased : Json → Json
  | .obj fields => .obj (erasedFields fields)
  | .arr items => .arr (erasedItems items)
  | value => value

def erasedFields : List (String × Json) → List (String × Json)
  | [] => []
  | (name, value) :: rest =>
    (name, if isMasked lower name then .null else erased value) :: erasedFields rest

def erasedItems : List Json → List Json
  | [] => []
  | item :: rest => erased item :: erasedItems rest

end

/-- Headers or fields of a form, without the texts under sensitive names. -/
def erasedTexts (entries : List (String × String)) : List (String × String) :=
  entries.map fun e => (e.1, if isSensitiveName lower e.1 then "" else e.2)

/-- The bodies differ in credentials only: as documents, as texts of documents, or as forms. -/
inductive BodiesAlike (loads : String → Option Json) (r r' : Request) : Prop
  | json (value value' : Json) (is : r.json = some value) (is' : r'.json = some value')
      (same : erased lower value = erased lower value') : BodiesAlike loads r r'
  | data (is : r.json = none) (is' : r'.json = none)
      (same : erased lower r.data = erased lower r'.data) : BodiesAlike loads r r'
  | text (text text' : String) (value value' : Json) (is : r.json = none) (is' : r'.json = none)
      (body : r.data = .str text) (body' : r'.data = .str text')
      (isJson : containsText (lower r.contentType) "json" = true) (reads : loads text = some value)
      (reads' : loads text' = some value') (same : erased lower value = erased lower value') :
      BodiesAlike loads r r'
  | form (text text' : String) (is : r.json = none) (is' : r'.json = none)
      (body : r.data = .str text) (body' : r'.data = .str text')
      (notJson : containsText (lower r.contentType) "json" = false)
      (isForm : containsText (lower r.contentType) "application/x-www-form-urlencoded" = true)
      (same : erasedTexts lower (parseQsl text.toList) = erasedTexts lower (parseQsl text'.toList)) :
      BodiesAlike loads r r'

/-- The requests differ in credentials only. -/
structure Alike (loads : String → Option Json) (r r' : Request) : Prop where
  headers : erasedTexts lower r.headers = erasedTexts lower r'.headers
  cookies : r.cookies.map Prod.fst = r'.cookies.map Prod.fst
  contentType : r.contentType = r'.contentType
  bodies : BodiesAlike lower loads r r'

end

section
variable {lower : String → String} {loads : String → Option Json} {r r' : Request}

theorem erasedFields_eq (fields : Dict) : erasedFields lower fields =
    fields.map fun e => (e.1, if isMasked lower e.1 then .null else erased lower e.2) := by
  induction fields with
  | nil => rfl
  | cons e rest ih => rw [erasedFields, ih, List.map_cons]

theorem erasedItems_eq (items : List Json) :
    erasedItems lower items = items.map (erased lower) := by
  induction items with
  | nil => rfl
  | cons item rest ih => rw [erasedItems, ih, List.map_cons]

theorem safeValue_masked {name : String} (masked : isMasked lower name = true) (levels : ℕ) (value : Json) :
    safeValue lower levels name value = .str mask := by
  unfold safeValue
  rw [if_pos masked]

/-- A value is shown as it is without its secrets. -/
theorem safeValue_erased (levels : ℕ) (name : String) (value : Json) :
    safeValue lower levels name (erased lower value) = safeValue lower levels name value := by
  induction levels generalizing name value with
  | zero => unfold safeValue; rfl
  | succ levels ih =>
    have entry (e : String × Json) :
        safeValue lower levels e.1 (if isMasked lower e.1 then .null else erased lower e.2) =
          safeValue lower levels e.1 e.2 := by
      split
      · next masked => rw [safeValue_masked masked, safeValue_masked masked]
      · exact ih e.1 e.2
    cases value with
    | obj fields =>
      rw [erased, erasedFields_eq, safeValue, safeValue]
      simp only [List.length_map, ← List.map_take, List.foldl_map, entry]
    | arr items =>
      rw [erased, erasedItems_eq, safeValue, safeValue]
      simp only [List.length_map, ← List.map_take, List.map_map, Function.comp_def, ih]
    | _ => rfl

theorem safeValue_congr {value value' : Json} (same : erased lower value = erased lower value')
    (levels : ℕ) (name : String) : safeValue lower levels name value = safeValue lower levels name value' := by
  rw [← safeValue_erased, same, safeValue_erased]

theorem shownText_erased (e : String × String) :
    shownText lower e.1 (if isSensitiveName lower e.1 then "" else e.2) = shownText lower e.1 e.2 := by
  unfold shownText
  split <;> rfl

/-- Headers and forms are shown as they are without their secrets. -/
theorem shownHeaders_congr {headers headers' : List (String × String)}
    (same : erasedTexts lower headers = erasedTexts lower headers') :
    shownHeaders lower headers = shownHeaders lower headers' ∧
      shownForm lower headers = shownForm lower headers' := by
  have same_ (entries : List (String × String)) :
      shownHeaders lower (erasedTexts lower entries) = shownHeaders lower entries ∧
        shownForm lower (erasedTexts lower entries) = shownForm lower entries := by
    simp only [shownHeaders, shownForm, erasedTexts, ← List.map_take, List.foldl_map, shownText_erased,
      and_self]
  rw [← (same_ headers).1, ← (same_ headers).2, same]
  exact same_ headers'

theorem shownCookies_congr {cookies cookies' : List (String × String)}
    (same : cookies.map Prod.fst = cookies'.map Prod.fst) : shownCookies cookies = shownCookies cookies' := by
  have named (cookies : List (String × String)) : shownCookies cookies = ((cookies.map Prod.fst).take maxFields).foldl
      (fun shown name => Dict.set shown (firstChars name 100) (.str mask)) [] := by
    rw [shownCookies, ← List.map_take, List.foldl_map]
  rw [named, same, ← named]

theorem shownBody_alike (alike : BodiesAlike lower loads r r') (type : r.contentType = r'.contentType) :
    shownBody lower loads r = shownBody lower loads r' := by
  unfold shownBody
  cases alike with
  | json value value' is is' same =>
    rw [is, is']
    exact safeValue_congr same maxDepth ""
  | data is is' same =>
    rw [is, is']
    dsimp only
    cases body : r.data with
    | str text =>
      rw [body] at same
      cases body' : r'.data with
      | str text' =>
        rw [body'] at same
        obtain rfl := Json.str.inj same
        rw [type]
      | _ => rw [body'] at same; cases same
    | _ =>
      rw [body] at same
      cases body' : r'.data with
      | str text' => rw [body'] at same; cases same
      | _ => exact safeValue_congr (same.trans (congrArg (erased lower) body')) maxDepth ""
  | text text text' value value' is is' body body' isJson reads reads' same =>
    rw [is, is', body, body', ← type]
    dsimp only
    rw [if_pos isJson, if_pos isJson, reads, reads']
    exact safeValue_congr same maxDepth ""
  | form text text' is is' body body' notJson isForm same =>
    rw [is, is', body, body', ← type]
    dsimp only
    rw [if_neg (Bool.eq_false_iff.mp notJson), if_neg (Bool.eq_false_iff.mp notJson)]
    dsimp only
    rw [if_pos isForm, if_pos isForm, (shownHeaders_congr same).2]

/-- **Previews hide credentials.** Requests that differ in nothing else have one preview. -/
theorem previews_alike (alike : Alike lower loads r r') :
    requestEvidencePreview lower loads r = requestEvidencePreview lower loads r' := by
  unfold requestEvidencePreview
  rw [(shownHeaders_congr alike.headers).1, shownCookies_congr alike.cookies,
    shownBody_alike alike.bodies alike.contentType]

/-- A login with this password and this bearer token. -/
def login (password token : String) : Request where
  headers := [("Content-Type", "application/json"), ("Authorization", "Bearer " ++ token)]
  cookies := [("sid", token)]
  json := some (.obj [("user", .str "u"), ("auth", .obj [("Password", .str password)])])
  data := .null
  contentType := "application/json"

/-- Two logins that differ in both. -/
theorem previews_alike_login : requestEvidencePreview Python.lower (fun _ => none) (login "p" "t") =
    requestEvidencePreview Python.lower (fun _ => none) (login "other" "another") :=
  previews_alike ⟨by decide +kernel, rfl, rfl, .json _ _ rfl rfl (by decide +kernel)⟩

end

end ApiManger.Preview
