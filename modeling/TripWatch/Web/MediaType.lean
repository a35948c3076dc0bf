/-!
# Media types

The kind of a request's content, as in `application/json; charset=utf-8`.

## Main definitions

* `MediaType.ofText?` — reads a media type and checks its parameters
* `MediaType.isJson` — whether content of the type is JSON
-/

namespace TripWatch

/-- A media type, in lower case and without its parameters. -/
structure MediaType where
  /-- The part before the slash. -/
  type : String
  /-- The part behind the slash, up to the last plus sign. -/
  subtype : String
  /-- The part behind the last plus sign. -/
  suffix : Option String
  deriving DecidableEq, Repr

namespace MediaType

/-- Whether a character may stand in a name. -/
def isTokenChar (c : Char) : Bool :=
  c.isAlphanum ||
    ['!', '#', '$', '%', '&', '\x27', '*', '+', '-', '.', '^', '_', '\x60', '|', '~'].contains c

/-- Whether a character may stand in quotes. -/
def isQuotedChar (c : Char) : Bool := 31 < c.toNat && c.toNat != 127 && c != '"'

/-- What follows a parameter's value, up to the next parameter. -/
def afterQuoted (cs : List Char) : Option (List Char) :=
  match cs.dropWhile (· == ' ') with
  | [] => some []
  | ';' :: rest => some rest
  | _ => none

/-- What follows a parameter's value. -/
def afterValue : List Char → Option (List Char)
  | '"' :: cs =>
    match cs.dropWhile isQuotedChar with
    | '"' :: rest => if cs.takeWhile isQuotedChar = [] then none else afterQuoted rest
    | _ => none
  | cs =>
    match cs.dropWhile isTokenChar with
    | [] => some []
    | ';' :: rest => if cs.takeWhile isTokenChar = [] then none else some rest
    | _ => none

/-- What follows a parameter. -/
def afterParam (cs : List Char) : Option (List Char) :=
  match cs.dropWhile isTokenChar with
  | '=' :: rest => if cs.takeWhile isTokenChar = [] then none else afterValue rest
  | _ => none

/-- Whether a text is a list of parameters; each takes at least one character. -/
def areParams : Nat → List Char → Bool
  | 0, _ => false
  | fuel + 1, cs =>
    match cs.dropWhile (· == ' ') with
    | [] => true
    | cs =>
      match afterParam cs with
      | some rest => areParams fuel rest
      | none => false

/-- Reads a media type. -/
def ofText? (s : String) : Option MediaType :=
  let cs := s.toList.map Char.toLower
  let type := cs.takeWhile isTokenChar
  match cs.dropWhile isTokenChar with
  | '/' :: rest =>
    let name := rest.takeWhile isTokenChar
    let params := rest.dropWhile isTokenChar
    let valid : Bool := match params with
      | [] => true
      | ';' :: params => !name.isEmpty && areParams (params.length + 1) params
      | _ => false
    if !type.isEmpty && valid then
      let behind := name.reverse.takeWhile (· != '+')
      some <|
        if behind.length = name.length ∨ behind.length + 1 = name.length then
          ⟨String.ofList type, String.ofList name, none⟩
        else ⟨String.ofList type, String.ofList (name.take (name.length - behind.length - 1)),
          some (String.ofList behind.reverse)⟩
    else none
  | _ => none

/-- Whether content of the type is JSON. -/
def isJson (m : MediaType) : Bool :=
  m.type == "application" && (m.subtype == "json" || m.suffix == some "json")

end MediaType

end TripWatch
