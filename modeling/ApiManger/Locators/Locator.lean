import ApiManger.Evidence.Rows

/-!
# Typed locators

`apiAnalysis/tool/parameter_locator.py` addresses a place in a document by typed tokens: a property
by its name, an item of a list by its index. Writing makes the containers on the way down, pads
lists with nulls and replaces what is no container of the kind that is needed; it works in place,
so the state of the document is kept beside the outcome.
-/

namespace ApiManger.Locators
open Python Evidence

/-- A token of a locator; `other` has a kind that is neither property nor array. -/
inductive Token where
  | property (value : String) (dynamic : Bool)
  | array (index : Int) (wildcard : Bool)
  | other

def tokenOf : Step → Token
  | .key name => .property name (isDynamicProperty name)
  | .index i => .array i false

/-- `iter_json_leaf_occurrences`, with the tokens of each locator. -/
def iterJsonLeafOccurrences (value : Json) : List (List Token × Json) :=
  (leafOccurrences value []).map fun (steps, leaf) => (steps.map tokenOf, leaf)

/-- `isinstance(value, list if next_token.get("kind") == "array" else dict)` -/
def isExpected (next : Token) (value : Json) : Bool :=
  match next, value with
  | .array _ _, .arr _ => true
  | .array _ _, _ => false
  | _, .obj _ => true
  | _, _ => false

def containerFor : Token → Json
  | .array _ _ => .arr []
  | _ => .obj []

/-- `while len(current) <= item_index: current.append(None)` -/
def padded (items : List Json) (index : Int) : List Json :=
  items ++ List.replicate ((index + 1).toNat - items.length) .null

/-- The place of an index in a list, from the end where it is negative. -/
def placeOf (items : List Json) (index : Int) : Option ℕ :=
  if 0 ≤ index then some index.toNat
  else if 0 ≤ items.length + index then some (items.length + index).toNat else none

/-- What a container holds for the tokens after it: made anew where it is not of the kind they need. -/
def childFor (next : Token) (child : Option Json) : Json :=
  match child with
  | some value => if isExpected next value then value else containerFor next
  | none => containerFor next

/-- The loop of `set_value_at_locator` from one container on: the container as it is left, and what was raised. -/
def place (wildcardIndex : Int) (value : Json) : List Token → Json → Json × Option PyError
  | [], current => (current, none)
  | .property key _ :: rest, current => match current with
    | .obj fields => match rest with
      | [] => (.obj (Dict.set fields key value), none)
      | next :: _ =>
        let (child, raised) := place wildcardIndex value rest (childFor next (Dict.get? fields key))
        (.obj (Dict.set fields key child), raised)
    | _ => (current, some (.valueError "property locator requires an object container"))
  | .array index wildcard :: rest, current => match current with
    | .arr items =>
      let index := if wildcard then wildcardIndex else index
      let items := padded items index
      match placeOf items index with
      | none => (.arr items, some (.other "IndexError"))
      | some i => match rest with
        | [] => (.arr (items.set i value), none)
        | next :: _ =>
          let (child, raised) := place wildcardIndex value rest (childFor next items[i]?)
          (.arr (items.set i child), raised)
    | _ => (current, some (.valueError "array locator requires a list container"))
  | .other :: _, current => (current, some (.valueError "unsupported locator token"))

def isContainer : Json → Bool
  | .obj _ => true
  | .arr _ => true
  | _ => false

/-- `set_value_at_locator`: the document as it is left, and what is returned. -/
def setValueAtLocator (root : Json) (tokens : List Token) (value : Json) (wildcardIndex : Int := 0) :
    Json × Except PyError Json :=
  match tokens with
  | [] => (root, .ok value)
  | first :: _ =>
    let start := if isContainer root then root else containerFor first
    let (left, raised) := place wildcardIndex value tokens start
    (if isContainer root then left else root, match raised with
      | none => .ok left
      | some e => .error e)

/-- `walk` of `extract_values_at_locator`, with the results so far. -/
def extractFrom (limit : ℕ) : List Token → Json → List Json → List Json
  | tokens, node, results =>
    if max 1 limit ≤ results.length then results
    else match tokens with
      | [] => results ++ [node]
      | token :: rest =>
        let all (children : List Json) : List Json :=
          (children.foldl (fun (acc : List Json × Bool) child =>
            if acc.2 then acc
            else
              let found := extractFrom limit rest child acc.1
              (found, limit ≤ found.length)) (results, false)).1
        match token, node with
        | .property key dynamic, .obj fields =>
          if dynamic then all (fields.map Prod.snd)
          else match Dict.get? fields key with
            | some child => extractFrom limit rest child results
            | none => results
        | .array index wildcard, .arr items =>
          if wildcard then all items
          else if 0 ≤ index then match items[index.toNat]? with
            | some child => extractFrom limit rest child results
            | none => results
          else results
        | _, _ => results

def extractValuesAtLocator (value : Json) (tokens : List Token) (limit : ℕ := 20) : List Json :=
  (extractFrom limit tokens value []).take limit

end ApiManger.Locators
