import ApiManger.Python.Text
import ApiManger.Python.Mapping

/-!
# Path templates

`apiAnalysis/tool/interface_chain.py` accepts three spellings of a placeholder in a
path: `{{name}}`, `{name}` and `:name`. A template is read from left to right into
literal characters and placeholders; rendering fills the placeholders with values that
are percent-encoded as a whole.
-/

namespace ApiManger.Chain
open Python

/-! ## Names -/

def isNameStart (c : Char) : Bool := c.isAlpha || c == '_'

def isNameChar (c : Char) : Bool := c.isAlphanum || c == '_'

/-- The longest name at the front, and the rest. -/
def takeName : List Char → Option (List Char × List Char)
  | c :: rest => if isNameStart c then some (c :: rest.takeWhile isNameChar, rest.dropWhile isNameChar) else none
  | [] => none

/-- What follows an expected text. -/
def afterText (text cs : List Char) : Option (List Char) :=
  if text.isPrefixOf cs then some (cs.drop text.length) else none

/-- A name between two texts, with white space around it. -/
def namedBetween (opening closing cs : List Char) : Option (List Char × List Char) := do
  let inside ← afterText opening cs
  let (name, rest) ← takeName (inside.dropWhile isSpace)
  let rest ← afterText closing (rest.dropWhile isSpace)
  return (name, rest)

/-- `_PATH_PLACEHOLDER_RE` at one place, after the character `before`: the name and the rest. -/
def placeholderAt (before : Option Char) (cs : List Char) : Option (List Char × List Char) :=
  (namedBetween ['\x7b', '\x7b'] ['\x7d', '\x7d'] cs).or <|
    (namedBetween ['\x7b'] ['\x7d'] cs).or <|
      if before.any isNameChar then none else (afterText [':'] cs).bind takeName

/-! ## Pieces -/

/-- A literal character, or a placeholder as it is written. -/
inductive Piece where
  | literal (c : Char)
  | placeholder (name : String) (raw : List Char)
  deriving DecidableEq

/-- The pieces of a text, read in at most so many steps. -/
def piecesFrom : ℕ → Option Char → List Char → List Piece
  | 0, _, _ => []
  | _ + 1, _, [] => []
  | fuel + 1, before, c :: cs =>
    match placeholderAt before (c :: cs) with
    | some (name, rest) =>
      let raw := (c :: cs).take ((c :: cs).length - rest.length)
      .placeholder (String.ofList name) raw :: piecesFrom fuel raw.getLast? rest
    | none => .literal c :: piecesFrom fuel (some c) cs

variable (template : String)

def pieces : List Piece :=
  let text := strip template
  piecesFrom text.length none text

def placeholderNames : List String :=
  (pieces template).foldl (fun names piece => match piece with
    | .literal _ => names
    | .placeholder name _ => if names.contains name then names else names ++ [name]) []

def detectPlaceholderStyle : String :=
  let text := stripped template
  if containsText text "\x7b\x7b" && containsText text "\x7d\x7d" then "apifox_double_brace"
  else if (placeholderNames template).isEmpty then "none"
  else if text.toList.tails.any fun cs => (namedBetween ['\x7b'] ['\x7d'] cs).isSome then "openapi_single_brace"
  else "colon"

def canonicalPathTemplate : String :=
  String.ofList ((pieces template).flatMap fun
    | .literal c => [c]
    | .placeholder name _ => '\x7b' :: name.toList ++ ['\x7d'])

/-! ## Rendering -/

/-- Characters that `quote` leaves alone. -/
def isUnreserved (c : Char) : Bool :=
  c.isAlphanum || c == '_' || c == '.' || c == '-' || c == '~'

def hexDigit (n : ℕ) : Char := if n < 10 then Char.ofNat (48 + n) else Char.ofNat (55 + n)

/-- `quote(text, safe="")`. -/
def quote (text : String) : List Char :=
  text.toList.flatMap fun c =>
    if isUnreserved c then [c]
    else (String.utf8EncodeChar c).flatMap fun byte => ['%', hexDigit (byte.toNat / 16), hexDigit (byte.toNat % 16)]

/-- `value is None or value == ""`. -/
def isBlank (value : Option Json) : Bool := value.all fun v => v == .null || v == .str ""

/-- One piece of `render_path_template`. -/
def renderPiece (values : Mapping Json) : Piece → List Char
  | .literal c => [c]
  | .placeholder name raw => match values.get? name with
    | some v => if isBlank (some v) then raw else quote v.pyStr
    | none => raw

/-- `render_path_template`: the path, and the names without a value. -/
def renderPathTemplate (values : Mapping Json) : String × List String :=
  (String.ofList ((pieces template).flatMap (renderPiece values)),
    (placeholderNames template).filter fun name => isBlank (values.get? name))

example : renderPathTemplate "/networks/\x7b\x7b id \x7d\x7d/:kind" (.ofItems [("id", .str "a b"), ("kind", .int 3)]) =
    ("/networks/a%20b/3", []) := by decide +kernel

/-! ## Upstream references

`parse_upstream_ref` splits `r_networks.list[0].network_id` into the name of a
response and a path of fields and indices; `resolve_upstream_ref` walks that path
through the responses captured so far.
-/

/-- `ChainDefinitionError`, by its message; what other code raises keeps its own error. -/
inductive ChainError where
  | definition (message : String)
  | notConfirmed
  | raised (e : PyError)
  deriving DecidableEq

/-- One step of a path. -/
inductive RefSegment where
  | field (name : String)
  | index (n : ℕ)
  deriving DecidableEq

/-- A field after its dot. -/
def readField (rest : List Char) : Option (RefSegment × List Char) :=
  (takeName rest).map fun (name, rest) => (.field (String.ofList name), rest)

/-- An index in its brackets. -/
def readIndex (rest : List Char) : Option (RefSegment × List Char) := do
  let inside ← afterText ['['] rest
  let digits := inside.takeWhile Char.isDigit
  let n ← readDigits 0 digits
  let rest ← afterText [']'] (inside.drop digits.length)
  if digits.isEmpty then none else return (.index n, rest)

/-- The loop of `parse_upstream_ref`: in one turn a field, an index, or both. -/
def readSegments (text : String) : ℕ → List Char → Except ChainError (List RefSegment)
  | _, [] => .ok []
  | 0, _ => .ok []
  | fuel + 1, rest => do
    let (field, rest) ← match rest with
      | '.' :: after => match readField after with
        | some (field, rest) => .ok ([field], rest)
        | none => .error (.definition ("invalid upstream ref segment: " ++ text))
      | _ => .ok ([], rest)
    match rest with
    | '[' :: _ => match readIndex rest with
      | some (index, rest) => return field ++ index :: (← readSegments text fuel rest)
      | none => .error (.definition ("invalid upstream ref index: " ++ text))
    | [] => return field
    | '.' :: _ => return field ++ (← readSegments text fuel rest)
    | _ => .error (.definition ("invalid upstream ref segment: " ++ text))

def parseUpstreamRef (ref : String) : Except ChainError (String × List RefSegment) := do
  let text := stripped ref
  match takeName text.toList with
  | some (head, remainder) =>
    if remainder.contains '\n' then
      .error (.definition ("invalid upstream ref: " ++ text))
    else
      let segments ← readSegments text remainder.length remainder
      if segments.isEmpty then .error (.definition ("upstream ref must address a field: " ++ text))
      else return (String.ofList head, segments)
  | none => .error (.definition ("invalid upstream ref: " ++ if text == "" then "<empty>" else text))

def walkSegment (current : Json) : RefSegment → Option Json
  | .index n => match current with
    | .arr items => items[n]?
    | _ => none
  | .field name => match current with
    | .obj fields => Dict.get? fields name
    | _ => none

/-- `resolve_upstream_ref`: the value, where it is found. -/
def resolveUpstreamRef (sources : Mapping Json) (ref : String) : Except ChainError (Option Json) := do
  let (response, segments) ← parseUpstreamRef ref
  return (sources.get? response).bind fun body => segments.foldlM walkSegment body

example : (parseUpstreamRef "r_networks.list[0].network_id").toOption =
    some ("r_networks", [.field "list", .index 0, .field "network_id"]) := by decide +kernel

end ApiManger.Chain
