import ApiManger.Python.Text
import ApiManger.Recipe.Executor

/-!
# Documents of imported files

What importers read of JSON documents and of the urls in them: lists of dictionaries, and host
parts.
-/

namespace ApiManger.Python

/-- A value whose `.get` is read. -/
def asDocument : Json → Except PyError Dict
  | .obj fields => .ok fields
  | _ => .error (.other "AttributeError")

/-- The items of `value or []`, whose `.get` is read. -/
def documentsOf : Json → Except PyError (List Dict)
  | .arr items => items.mapM asDocument
  | value =>
    if !value.truthy then .ok []
    else match value with
      | .str _ | .obj _ => .error (.other "AttributeError")
      | _ => .error (.typeError "object is not iterable")

/-- `text.lstrip(c)`. -/
def lstripChar (text : String) (c : Char) : String := String.ofList (text.toList.dropWhile (· == c))

/-- `urlsplit(url).netloc`; `refusesNetloc` are the further checks on a host part. -/
def netlocOf (refusesNetloc : String → Bool) (url : String) : Except PyError String :=
  let netloc := (urlsplit (Recipe.cleanedUrl url.toList)).netloc
  if netloc.contains '[' != netloc.contains ']' || refusesNetloc (String.ofList netloc) then
    .error (.valueError "Invalid IPv6 URL")
  else .ok (String.ofList netloc)

/-- A text that is there is taken. -/
theorem orText_named {text : String} (named : text ≠ "") (other : String) : Account.orText text other = text :=
  if_neg fun empty => named (beq_iff_eq.mp empty)

end ApiManger.Python
