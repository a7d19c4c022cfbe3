import ApiManger.Python.Value

/-!
# Urls

`urllib.parse.urlsplit` on the characters of a url, as far as the code reads its
parts.
-/

namespace ApiManger.Python

/-- The parts of a url before its query and its fragment. -/
structure SplitUrl where
  scheme : List Char
  netloc : List Char
  path : List Char

def isSchemeChar (c : Char) : Bool := c.isAlphanum || c == '+' || c == '-' || c == '.'

/-- The scheme, where the text before the first colon is one, and the rest. -/
def splitScheme (url : List Char) : List Char × List Char :=
  let scheme := url.takeWhile (· != ':')
  if url.contains ':' && scheme.head?.any Char.isAlpha && scheme.all isSchemeChar then
    (scheme.map Char.toLower, url.drop (scheme.length + 1))
  else ([], url)

/-- The host part, where the text starts with two slashes, and the rest. -/
def splitNetloc : List Char → List Char × List Char
  | '/' :: '/' :: rest =>
    let inside (c : Char) : Bool := c != '/' && c != '?' && c != '#'
    (rest.takeWhile inside, rest.dropWhile inside)
  | rest => ([], rest)

def urlsplit (url : List Char) : SplitUrl :=
  let (scheme, rest) := splitScheme url
  let (netloc, rest) := splitNetloc rest
  ⟨scheme, netloc, (rest.takeWhile (· != '#')).takeWhile (· != '?')⟩

/-- `SplitResult.hostname`: the host part without user, port and brackets, in lower case. -/
def hostname (url : String) : Option String :=
  let netloc := (urlsplit url.toList).netloc
  let host := (netloc.reverse.takeWhile (· != '@')).reverse
  let name := if host.contains '[' then ((host.dropWhile (· != '[')).drop 1).takeWhile (· != ']')
    else host.takeWhile (· != ':')
  if name.isEmpty then none else some (String.ofList (name.map Char.toLower))

/-! ## Queries -/

/-- `SplitResult.query`. -/
def queryOf (url : List Char) : List Char :=
  let rest := (splitNetloc (splitScheme url).2).2
  ((rest.takeWhile (· != '#')).dropWhile (· != '?')).drop 1

/-- `SplitResult.fragment`. -/
def fragmentOf (url : List Char) : List Char :=
  ((splitNetloc (splitScheme url).2).2.dropWhile (· != '#')).drop 1

/-- The pieces of a text between occurrences of a character. -/
def splitAll (sep : Char) : List Char → List (List Char)
  | [] => [[]]
  | c :: cs => match splitAll sep cs with
    | piece :: rest => if c == sep then [] :: piece :: rest else (c :: piece) :: rest
    | [] => [[c]]

/-- The value of a hexadecimal digit. -/
def hexValue (c : Char) : Option ℕ :=
  if '0' ≤ c ∧ c ≤ '9' then some (c.toNat - 48)
  else if 'a' ≤ c ∧ c ≤ 'f' then some (c.toNat - 87)
  else if 'A' ≤ c ∧ c ≤ 'F' then some (c.toNat - 55) else none

/-- What stands for bytes that are not a character. -/
def replacement : Char := Char.ofNat 0xfffd

def isContinuation (b : ℕ) : Bool := 0x80 ≤ b && b < 0xc0

/-- The second byte that may follow a first byte of three. -/
def isSecondOfThree (a b : ℕ) : Bool :=
  isContinuation b && (a != 0xe0 || 0xa0 ≤ b) && (a != 0xed || b < 0xa0)

/-- The second byte that may follow a first byte of four. -/
def isSecondOfFour (a b : ℕ) : Bool :=
  isContinuation b && (a != 0xf0 || 0x90 ≤ b) && (a != 0xf4 || b < 0x90)

/-- `bytes.decode("utf-8", "replace")`: the longest start of a character that is cut off is replaced as one. -/
def decodeUtf8 : List ℕ → List Char
  | [] => []
  | a :: rest =>
    if a < 0x80 then Char.ofNat a :: decodeUtf8 rest
    else if 0xc2 ≤ a ∧ a < 0xe0 then match rest with
      | b :: rest' => if isContinuation b then Char.ofNat ((a - 0xc0) * 64 + (b - 0x80)) :: decodeUtf8 rest'
        else replacement :: decodeUtf8 (b :: rest')
      | [] => [replacement]
    else if 0xe0 ≤ a ∧ a < 0xf0 then match rest with
      | b :: c :: rest' =>
        if !isSecondOfThree a b then replacement :: decodeUtf8 (b :: c :: rest')
        else if !isContinuation c then replacement :: decodeUtf8 (c :: rest')
        else Char.ofNat (((a - 0xe0) * 64 + (b - 0x80)) * 64 + (c - 0x80)) :: decodeUtf8 rest'
      | [b] => if isSecondOfThree a b then [replacement] else replacement :: decodeUtf8 [b]
      | [] => [replacement]
    else if 0xf0 ≤ a ∧ a < 0xf5 then match rest with
      | b :: c :: d :: rest' =>
        if !isSecondOfFour a b then replacement :: decodeUtf8 (b :: c :: d :: rest')
        else if !isContinuation c then replacement :: decodeUtf8 (c :: d :: rest')
        else if !isContinuation d then replacement :: decodeUtf8 (d :: rest')
        else Char.ofNat ((((a - 0xf0) * 64 + (b - 0x80)) * 64 + (c - 0x80)) * 64 + (d - 0x80)) :: decodeUtf8 rest'
      | [b, c] =>
        if !isSecondOfFour a b then replacement :: decodeUtf8 [b, c]
        else if isContinuation c then [replacement] else replacement :: decodeUtf8 [c]
      | [b] => if isSecondOfFour a b then [replacement] else replacement :: decodeUtf8 [b]
      | [] => [replacement]
    else replacement :: decodeUtf8 rest

/-- `unquote(text)`, after the bytes of the characters of the alphabet so far: they are decoded where another
character comes, or the text ends. -/
def unquoteFrom : List ℕ → List Char → List Char
  | bytes, [] => decodeUtf8 bytes
  | bytes, c :: cs =>
    if 128 ≤ c.toNat then decodeUtf8 bytes ++ c :: unquoteFrom [] cs
    else match c, cs with
      | '%', x :: y :: rest => match hexValue x, hexValue y with
        | some high, some low => unquoteFrom (bytes ++ [16 * high + low]) rest
        | _, _ => unquoteFrom (bytes ++ [c.toNat]) (x :: y :: rest)
      | c, cs => unquoteFrom (bytes ++ [c.toNat]) cs

/-- A name or a value of a query. -/
def unquotePlus (text : List Char) : String :=
  String.ofList (unquoteFrom [] (text.map fun c => if c == '+' then ' ' else c))

/-- `parse_qsl(query, keep_blank_values=True)`. -/
def parseQsl (query : List Char) : List (String × String) :=
  ((splitAll '&' query).filter fun piece => !piece.isEmpty).map fun piece =>
    (unquotePlus (piece.takeWhile (· != '=')), unquotePlus ((piece.dropWhile (· != '=')).drop 1))

example : parseQsl "a=1&b=%E4%BD%A0+x&&c".toList = [("a", "1"), ("b", "你 x"), ("c", "")] := by decide +kernel

end ApiManger.Python
