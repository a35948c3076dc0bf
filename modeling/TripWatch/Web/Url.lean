import TripWatch.Web.Percent

/-!
# Addresses

Addresses of services on the web, as far as they are needed for asking: who is asked, and the path
and query that the request names. Characters that have no place in an address are encoded, and `.`
and `..` in a path are resolved.

## Main definitions

* `Url.ofText?` — reads an address of the scheme `http`
* `Url.withParams` — adds parameters to the query
* `Url.target` — what a request names
-/

namespace TripWatch

/-- An address. -/
structure Url where
  /-- Host and port. -/
  authority : String
  /-- The path, which begins with a slash. -/
  path : String
  /-- The query. -/
  query : Option String
  deriving DecidableEq, Repr

namespace Url

/-- Whether a character is a control or a blank. -/
def isEdge (c : Char) : Bool := c.toNat ≤ 32

/-- A text without controls and blanks around it, and without tabs and line ends within it. -/
def clean (s : String) : List Char :=
  let cs := (s.toList.dropWhile isEdge).reverse.dropWhile isEdge
  cs.reverse.filter fun c => c != '\t' && c != '\n' && c != '\r'

/-- Whether a character separates the parts of a path; a backslash is as good as a slash. -/
def isSlash (c : Char) : Bool := c == '/' || c == '\\'

/-- Whether a character stands for itself in a path. -/
def isPathChar (c : Char) : Bool :=
  32 < c.toNat && c.toNat < 127 &&
    !(['"', '#', '<', '>', '?', '\x60', '\x7b', '\x7d'].contains c)

/-- Whether a character stands for itself in a query. -/
def isQueryChar (c : Char) : Bool :=
  32 < c.toNat && c.toNat < 127 && !(['"', '#', '<', '>', '\x27'].contains c)

/-- The parts between slashes. -/
def splitSlashes : List Char → List (List Char)
  | [] => [[]]
  | c :: rest =>
    if isSlash c then [] :: splitSlashes rest
    else
      match splitSlashes rest with
      | part :: more => (c :: part) :: more
      | [] => [[c]]

/-- A part with dots written out. -/
def plainDots (part : List Char) : String :=
  (String.ofList (part.map Char.toLower)).replace "%2e" "."

/-- The parts of a path with dots resolved; the parts so far stand the latest first. A dot at the
end leaves an empty part. -/
def resolve (parts : List String) : List (List Char) → List String
  | [] => parts.reverse
  | part :: rest =>
    let isLast := rest.isEmpty
    if plainDots part = ".." then
      let parts := parts.drop 1
      resolve (if isLast then "" :: parts else parts) rest
    else if plainDots part = "." then resolve (if isLast then "" :: parts else parts) rest
    else
      resolve (String.ofList (Percent.encode isPathChar (String.ofList part)) :: parts) rest

/-- A path. -/
def pathOfChars (cs : List Char) : String :=
  "/" ++ "/".intercalate (resolve [] (splitSlashes (cs.drop 1)))

/-- The authority without what stands before an at sign. -/
def hostPart (cs : List Char) : String :=
  String.ofList ((cs.reverse.takeWhile (· != '@')).reverse)

/-- The address behind the scheme. -/
def ofRest? (cs : List Char) : Option Url :=
  let cs := cs.dropWhile isSlash
  let ends (c : Char) : Bool := isSlash c || c == '?' || c == '#'
  let authority := hostPart (cs.takeWhile (!ends ·))
  let whole := (cs.dropWhile (!ends ·)).takeWhile (· != '#')
  let path := whole.takeWhile (· != '?')
  let query := match whole.dropWhile (· != '?') with
    | _ :: query => some (String.ofList (Percent.encode isQueryChar (String.ofList query)))
    | [] => none
  if authority = "" then none else some ⟨authority, pathOfChars path, query⟩

/-- Reads an address of the scheme `http`. -/
def ofText? (s : String) : Option Url :=
  let cs := clean s
  let scheme := cs.takeWhile (· != ':')
  if scheme.map Char.toLower = "http".toList then
    match cs.dropWhile (· != ':') with
    | _ :: rest => ofRest? rest
    | [] => none
  else none

/-- The address with parameters behind its query. -/
def withParams (u : Url) (params : List (String × String)) : Url :=
  let form := Percent.form params
  { u with query := some (match u.query with
    | some query => if query = "" then form else query ++ "&" ++ form
    | none => form) }

/-- What a request names. -/
def target (u : Url) : String :=
  match u.query with
  | some query => u.path ++ "?" ++ query
  | none => u.path

end Url

end TripWatch
