import ApiManger.Chain.Template
import ApiManger.Python.Mapping
import ApiManger.Python.Replace
import ApiManger.Recipe.Executor

/-!
# Urls of composed requests

`render_request_url` puts the path parameters of a request into its url, name by name and by
replacing text, and merges the query into what it gets.
-/

namespace ApiManger.Experiments
open Python Collection

/-! ## Queries -/

/-- `quote_plus(text)` -/
def quotePlus (text : String) : List Char :=
  text.toList.flatMap fun c => if c == ' ' then ['+'] else Chain.quote (String.ofList [c])

/-- The texts that `urlencode(…, doseq=True)` writes for one value. -/
def queryTexts : Json → List String
  | .arr items => items.map Json.pyStr
  | .obj fields => fields.map Prod.fst
  | value => [value.pyStr]

/-- `urlencode(pairs, doseq=True)` -/
def urlencode (pairs : List (String × Json)) : List Char :=
  List.intercalate ['&'] (pairs.flatMap fun (key, value) =>
    (queryTexts value).map fun text => quotePlus key ++ '=' :: quotePlus text)

def usesNetloc : List String :=
  ["", "ftp", "http", "gopher", "nntp", "telnet", "imap", "wais", "file", "mms", "https", "shttp", "snews", "prospero",
    "rtsp", "rtspu", "rsync", "svn", "svn+ssh", "sftp", "nfs", "git", "git+ssh", "ws", "wss"]

def urlunsplit (parts : SplitUrl) (query fragment : List Char) : List Char :=
  let url := if !parts.netloc.isEmpty || (!parts.scheme.isEmpty && usesNetloc.contains (String.ofList parts.scheme) &&
      parts.path.take 2 != ['/', '/']) then
      '/' :: '/' :: (parts.netloc ++ if !parts.path.isEmpty && parts.path.head? != some '/' then '/' :: parts.path
        else parts.path)
    else parts.path
  let url := if parts.scheme.isEmpty then url else parts.scheme ++ ':' :: url
  let url := if query.isEmpty then url else url ++ '?' :: query
  if fragment.isEmpty then url else url ++ '#' :: fragment

/-- `_merge_url_query`; `refusesNetloc` are the further checks of `urlsplit` on a host part. -/
def mergeUrlQuery (refusesNetloc : String → Bool) (url : List Char) (query : Dict) : Except PyError (List Char) :=
  if query.isEmpty then .ok url
  else
    let url := Recipe.cleanedUrl url
    let parts := urlsplit url
    if parts.netloc.contains '[' != parts.netloc.contains ']' || refusesNetloc (String.ofList parts.netloc) then
      .error (.valueError "Invalid IPv6 URL")
    else
      let kept := (parseQsl (queryOf url)).filter fun e => !(query.map Prod.fst).contains e.1
      let merged := query.flatMap fun (key, value) => match value with
        | .arr items => items.map fun item => (key, item)
        | value => [(key, value)]
      .ok (urlunsplit parts (urlencode (kept.map (fun e => (e.1, .str e.2)) ++ merged)) (fragmentOf url))

/-! ## Path parameters -/

/-- One turn of the loop of `render_request_url`. -/
def substitute (url key value : List Char) : List Char :=
  replaceAll (':' :: key) value (replaceAll ('\x7b' :: (key ++ ['\x7d'])) value url)

/-- The loop of `render_request_url`. -/
def substituteAll (url : List Char) (params : Dict) : List Char :=
  params.foldl (fun url e => substitute url e.1.toList e.2.pyStr.toList) url

/-- `render_request_url`, with the items of the path parameters in their order. -/
def renderRequestUrl (refusesNetloc : String → Bool) (url : List Char) (params query : Dict) : Except PyError (List Char) :=
  mergeUrlQuery refusesNetloc (substituteAll url params) query

/-! ## Templates -/

/-- A segment of a path. -/
inductive Segment where
  | literal (text : List Char)
  | brace (name : String)
  | colon (name : String)

/-- The name of a placeholder. -/
def Segment.name? : Segment → Option String
  | .literal _ => none
  | .brace name => some name
  | .colon name => some name

def Segment.text : Segment → List Char
  | .literal text => text
  | .brace name => '\x7b' :: (name.toList ++ ['\x7d'])
  | .colon name => ':' :: name.toList

/-- A segment that is a placeholder of a name, or has text of its own. -/
structure Segment.Valid (s : Segment) : Prop where
  plain : ∀ c ∈ ['/', '?', '#'], c ∉ s.text
  named : ∀ name, s.name? = some name → ∀ c ∈ ['\x7b', '\x7d', ':'], c ∉ name.toList

/-- Path parameters, in the order of the dictionary. A name holds no separator. -/
structure PathParameters where
  items : Dict
  distinct : Distinct Prod.fst items
  plain : ∀ e ∈ items, '/' ∉ e.1.toList

def PathParameters.get? (params : PathParameters) (name : String) : Option Json :=
  (lookup Prod.fst params.items name).map Prod.snd

/-- A segment with its value, where the parameters name one. -/
def Segment.filled (params : PathParameters) (s : Segment) : List Char :=
  match s.name?.bind params.get? with
  | some value => value.pyStr.toList
  | none => s.text

/-- The template of a url: scheme, host with port, and the segments of the path. -/
structure UrlTemplate where
  scheme : List Char
  netloc : List Char
  segments : List Segment
  isScheme : scheme.head?.any Char.isAlpha = true ∧ ∀ c ∈ scheme, isSchemeChar c = true
  isNetloc : netloc ≠ [] ∧ ∀ c ∈ ['/', '?', '#', '\t', '\r', '\n'], c ∉ netloc
  valid : ∀ s ∈ segments, s.Valid
  distinct : (segments.filterMap Segment.name?).Nodup

/-- Scheme, host and port. -/
def UrlTemplate.front (t : UrlTemplate) : List Char := t.scheme ++ ':' :: '/' :: '/' :: t.netloc

def joined (front : List Char) (segments : List (List Char)) : List Char := front ++ segments.flatMap ('/' :: ·)

def UrlTemplate.text (t : UrlTemplate) : List Char := joined t.front (t.segments.map Segment.text)

/-- Every placeholder that the parameters name has its value, and nothing else is changed. -/
def UrlTemplate.filled (t : UrlTemplate) (params : PathParameters) : List Char :=
  joined t.front (t.segments.map (Segment.filled params))

end ApiManger.Experiments
