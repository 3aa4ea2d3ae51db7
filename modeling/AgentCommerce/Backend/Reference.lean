import AgentCommerce.Backend.Request

/-!
# A reference web platform

The web platform on plain inputs: URLs of the schemes `http` and `https` whose host is in lower case
and names no port and no user, without backslashes, blanks at either end, tabs and line breaks. Dot
segments, also percent-encoded ones, are removed from the path.

## Main definitions

* `resolveSegments`: the segments of a path without its dot segments;
* `referenceUrl`, `referenceWeb`: the parser and the platform.
-/

namespace AgentCommerce

/-! ## Paths -/

/-- A single-dot segment. -/
def isSingleDot (segment : List Char) : Bool :=
  [".".toList, "%2e".toList].contains (segment.map asciiLower)

/-- A double-dot segment. -/
def isDoubleDot (segment : List Char) : Bool :=
  ["..".toList, ".%2e".toList, "%2e.".toList, "%2e%2e".toList].contains (segment.map asciiLower)

/-- A character of a segment as the path keeps it. -/
def pathChar (c : Char) : List Char :=
  if c ≤ ' ' || '~' < c || "\"<>`\x7b\x7d".toList.contains c then
    (String.utf8EncodeChar c).flatMap escapeByte
  else [c]

/-- The segments of a path, where `stack` holds the kept ones from the last to the first. -/
def resolveSegments (stack : List (List Char)) : List (List Char) → List (List Char)
  | [] => stack.reverse
  | [last] =>
    if isDoubleDot last then ([] :: stack.tail).reverse
    else if isSingleDot last then ([] :: stack).reverse
    else (last.flatMap pathChar :: stack).reverse
  | segment :: segments =>
    if isDoubleDot segment then resolveSegments stack.tail segments
    else if isSingleDot segment then resolveSegments stack segments
    else resolveSegments (segment.flatMap pathChar :: stack) segments

/-- The path of a URL, from the text behind the first slash. -/
def resolvePath (text : List Char) : List Char :=
  '/' :: ['/'].intercalate (resolveSegments [] (text.splitOn '/'))

/-! ## URLs -/

/-- A character of a host. -/
def isHostChar (c : Char) : Bool :=
  ('a' ≤ c && c ≤ 'z') || ('0' ≤ c && c ≤ '9') || c = '.' || c = '-'

/-- The parameters of a query without escapes. -/
def queryParams (query : List Char) : List (String × String) :=
  ((query.splitOn '&').filter (!·.isEmpty)).map fun param =>
    (String.ofList (param.takeWhile (· ≠ '=')), String.ofList (param.dropWhile (· ≠ '=')).tail)

/-- A URL behind its scheme. -/
def urlOfScheme (protocol : String) (text : List Char) : Option WebUrl :=
  let host := text.takeWhile isHostChar
  let rest := text.dropWhile isHostChar
  if host.isEmpty || !(rest.isEmpty || rest.head? = some '/') then none
  else
    let beforeFragment := rest.tail.takeWhile (· ≠ '#')
    let path := beforeFragment.takeWhile (· ≠ '?')
    let origin := protocol ++ "//" ++ String.ofList host
    some
      { protocol := protocol
        hostname := String.ofList host
        origin := origin
        base := origin
        pathname := String.ofList (resolvePath path)
        searchParams := queryParams (beforeFragment.dropWhile (· ≠ '?')).tail
        fragment := String.ofList (rest.tail.dropWhile (· ≠ '#')).tail }

/-- `new URL(text)`. -/
def referenceUrl (text : String) : Option WebUrl :=
  match text.toList with
  | 'h' :: 't' :: 't' :: 'p' :: ':' :: '/' :: '/' :: rest => urlOfScheme "http:" rest
  | 'h' :: 't' :: 't' :: 'p' :: 's' :: ':' :: '/' :: '/' :: rest => urlOfScheme "https:" rest
  | _ => none

example : (["https://api.example/a/./b/../c", "https://api.example/a/%2E", "https://api.example"].map
    fun text => (referenceUrl text).map (·.pathname)) =
    [some "/a/c", some "/a/", some "/"] := by
  decide +kernel

/-- The web platform. Only the texts of numbers are its own. -/
def referenceWeb : WebPlatform where
  parseUrl := referenceUrl
  jsonStringify _ := "\x7b\x7d"
  jsonParse _ := none
  numberText
    | .finite q => toString q
    | _ => "0"
  toLowerCase := lowerCase
  utf8 bytes := String.ofList (bytes.map fun byte => Char.ofNat byte.toNat)

end AgentCommerce
