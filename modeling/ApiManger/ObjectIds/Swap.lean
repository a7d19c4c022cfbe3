import ApiManger.Experiments.RequestUrl
import ApiManger.Python.Text

/-!
# Object identifiers and their substitution

`apiAnalysis/rule/object_id.py`: which parameters name an object, where a request holds them, and the request of one
account with the identifiers of another.
-/

namespace ApiManger.ObjectIds
open Python

/-! ## Names -/

def idTokens : List String :=
  ["id", "ids", "uid", "uids", "uuid", "guid", "gid", "oid", "pid", "fid", "tid", "mid", "rid", "cid", "aid", "eid"]

def standaloneObjectIds : List String := ["account", "acct"]

def sessionIdTokens : List String := ["sid", "sessionid", "jsessionid", "phpsessid", "ssid"]

def trapIdWords : List String :=
  ["valid", "invalid", "android", "paid", "unpaid", "prepaid", "void", "avoid", "rapid", "solid", "grid", "hybrid",
    "fluid", "liquid", "acid", "raid", "squid", "candid", "splendid", "vivid", "lucid", "humid", "timid", "morbid",
    "placid", "rigid", "forbid", "overid", "afraid", "mermaid"]

def objectWords : List String :=
  ["user", "account", "acct", "member", "customer", "client", "uid", "org", "organization", "tenant", "company", "team",
    "group", "dept", "department", "employee", "staff", "device", "machine", "host", "node", "terminal", "gateway",
    "order", "trade", "pay", "payment", "bill", "invoice", "ticket", "task", "job", "contract", "plan", "subscription",
    "file", "doc", "document", "image", "img", "photo", "attachment", "video", "record", "item", "product", "goods",
    "sku", "project", "app", "application", "session", "msg", "message", "comment", "post", "article", "address", "role",
    "menu", "resource", "asset", "domain", "mail", "email", "phone"]

def noiseTokens : List String :=
  ["page", "pagesize", "size", "offset", "limit", "count", "total", "num", "timestamp", "time", "ts", "date", "nonce",
    "sign", "signature", "token", "callback", "version", "ver", "lang", "locale", "sort", "order", "format", "type",
    "kind", "status", "state", "flag", "level", "code", "no"]

/-- `(?<=[a-z0-9])(?=[A-Z])` is a blank. -/
def breakCamel : List Char → List Char
  | c :: d :: rest =>
    if (c.isLower || c.isDigit) && d.isUpper then c :: ' ' :: breakCamel (d :: rest) else c :: breakCamel (d :: rest)
  | cs => cs

/-- `_tokens`; a run of other characters is split like the blank that replaces it. -/
def tokens (name : String) : List String :=
  let leaf := (split name '.').getLastD ""
  let spaced := breakCamel (leaf.toList.map fun c => if c.isAlphanum then c else ' ')
  ((splitChars ' ' spaced).filter fun token => !token.isEmpty).map fun token => lower (String.ofList token)

def isObjectIdParam (name : String) : Bool :=
  let toks := tokens name
  match toks.getLast? with
  | none => false
  | some last =>
    if toks.length == 1 && noiseTokens.contains last then false
    else if trapIdWords.contains last then false
    else if sessionIdTokens.contains last then false
    else if idTokens.contains last then true
    else if standaloneObjectIds.contains last then true
    else if (["uuid", "guid", "ids", "id"].any (endsWith last)) && 2 < last.length then true
    else
      toks.any objectWords.contains &&
        toks.any fun tok => idTokens.contains tok || endsWith tok "id" || endsWith tok "ids"

/-! ## Requests -/

/-- `isinstance(value, (dict, list))`. -/
def isContainer : Json → Bool
  | .obj _ => true
  | .arr _ => true
  | _ => false

/-- A composed request: the parts that are read or changed, and the others. -/
structure RequestPayload where
  query : Mapping Json
  pathParams : Mapping Json
  body : Json
  url : String
  renderedUrl : Option String
  others : Dict

/-- `{"location": …, "param": …, "value": …}`. -/
structure ObjectId where
  location : String
  param : String
  value : Json
deriving DecidableEq

/-- `{"location": …, "param": …, "attacker": …, "victim": …}`. -/
structure Swap where
  location : String
  param : String
  attacker : Json
  victim : Json
deriving DecidableEq

def collectFromFlat (mapping : Mapping Json) (location : String) : List ObjectId :=
  (mapping.items.filter fun e => isObjectIdParam e.1).map fun e => ⟨location, e.1, e.2⟩

/-- `"{}.{}".format(prefix, key) if prefix else key`. -/
def dotted (front key : String) : String := if front = "" then key else front ++ "." ++ key

mutual

def collectFromBody (front : String) : Json → List ObjectId
  | .obj fields => collectFromFields front fields
  | .arr items => collectFromItems front 0 items
  | _ => []

def collectFromFields (front : String) : List (String × Json) → List ObjectId
  | [] => []
  | (key, value) :: rest =>
    (if isContainer value then collectFromBody (dotted front key) value
      else if isObjectIdParam key then [⟨"body", dotted front key, value⟩] else []) ++ collectFromFields front rest

def collectFromItems (front : String) (i : ℕ) : List Json → List ObjectId
  | [] => []
  | item :: rest => collectFromBody (front ++ "[" ++ toString i ++ "]") item ++ collectFromItems front (i + 1) rest

end

def collectObjectIds (payload : RequestPayload) : List ObjectId :=
  collectFromFlat payload.query "query" ++ collectFromFlat payload.pathParams "path" ++ collectFromBody "" payload.body

mutual

def indexLeafValues (index : Mapping Json) : Json → Mapping Json
  | .obj fields => indexFields index fields
  | .arr items => indexItems index items
  | _ => index

def indexFields (index : Mapping Json) : List (String × Json) → Mapping Json
  | [] => index
  | (key, value) :: rest =>
    indexFields (if isContainer value then indexLeafValues index value else index.setdefault key value) rest

def indexItems (index : Mapping Json) : List Json → Mapping Json
  | [] => index
  | item :: rest => indexItems (indexLeafValues index item) rest

end

def isUsable (value : Json) : Bool := value != .null && stripped value.pyStr != ""

/-- What replaces a value under a key, of what the victim has. -/
def replacement (found : Option Json) (key : String) (value : Json) : Option Json :=
  if isObjectIdParam key then (found.filter isUsable).filter fun found => found.pyStr != value.pyStr else none

/-- One turn of the loop of `_swap_flat`. -/
def swapEntry (location : String) (victim : Mapping Json) (acc : Mapping Json × List Swap) (e : String × Json) :
    Mapping Json × List Swap :=
  match replacement (victim.get? e.1) e.1 e.2 with
  | some found => (acc.1.set e.1 found, acc.2 ++ [⟨location, e.1, e.2, found⟩])
  | none => acc

def swapFlat (location : String) (victim target : Mapping Json) : Mapping Json × List Swap :=
  target.items.foldl (swapEntry location victim) (target, [])

mutual

/-- `_swap_body`: the body as it is left, and the swaps in their order. -/
def swapBody (index : Mapping Json) (front : String) : Json → Json × List Swap
  | .obj fields =>
    let swapped := swapFields index front fields
    (.obj swapped.1, swapped.2)
  | .arr items =>
    let swapped := swapItems index front items
    (.arr swapped.1, swapped.2)
  | value => (value, [])

def swapFields (index : Mapping Json) (front : String) : List (String × Json) → List (String × Json) × List Swap
  | [] => ([], [])
  | (key, value) :: rest =>
    let (found, swaps) :=
      if isContainer value then swapBody index (dotted front key) value
      else match replacement (index.get? key) key value with
        | some found => (found, [⟨"body", dotted front key, value, found⟩])
        | none => (value, [])
    let later := swapFields index front rest
    ((key, found) :: later.1, swaps ++ later.2)

def swapItems (index : Mapping Json) (front : String) : List Json → List Json × List Swap
  | [] => ([], [])
  | item :: rest =>
    let swapped := swapBody index front item
    let later := swapItems index front rest
    (swapped.1 :: later.1, swapped.2 ++ later.2)

end

/-- `build_idor_payload`, for a victim payload that is not empty; where rendering the url raises an error, the old
rendered url is kept. -/
def buildIdorPayload (refusesNetloc : String → Bool) (attacker victim : RequestPayload) : RequestPayload × List Swap :=
  let query := swapFlat "query" victim.query attacker.query
  let pathParams := swapFlat "path" victim.pathParams attacker.pathParams
  let body := swapBody (indexLeafValues .empty victim.body) "" attacker.body
  let swapped := { attacker with query := query.1, pathParams := pathParams.1, body := body.1 }
  let rendered := Experiments.renderRequestUrl refusesNetloc attacker.url.toList pathParams.1.items query.1.items
  (match rendered with
    | .ok url => { swapped with renderedUrl := some (String.ofList url) }
    | .error _ => swapped, query.2 ++ pathParams.2 ++ body.2)

end ApiManger.ObjectIds
