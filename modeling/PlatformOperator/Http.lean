import PlatformOperator.Json

/-! HTTP as the API of a cluster is spoken to: requests with a target and a body of JSON, and responses. -/

namespace PlatformOperator

inductive HttpMethod where
  | get
  | post
  | patch
  | delete
  deriving DecidableEq, Repr, Inhabited

def HttpMethod.text : HttpMethod → String
  | .get => "GET"
  | .post => "POST"
  | .patch => "PATCH"
  | .delete => "DELETE"

/-- What a request is about: a path, and the pairs of a query as they are written. -/
structure HttpTarget where
  path : String
  query : List (String × String)
  deriving DecidableEq, Repr, Inhabited

namespace HttpTarget

/-- Whether a path may hold `c`. -/
def isPathChar (c : Char) : Bool := 0x20 < c.toNat && c != '<' && c != '>' && c.toNat != 0x60

/-- Whether a query may hold `c`. -/
def isQueryChar (c : Char) : Bool := 0x20 < c.toNat && c != '<' && c != '>' && c != '"'

/-- Name and value around the first equals sign. -/
def pairOf (cs : List Char) : String × String :=
  let name := cs.takeWhile (· != '=')
  (String.ofList name, String.ofList ((cs.drop name.length).drop 1))

/-- Reads a target. A query follows a question mark; what follows a number sign does not count. -/
def ofText? (s : String) : Option HttpTarget :=
  let cs := s.toList.takeWhile (· != '#')
  let path := cs.takeWhile (· != '?')
  let query := (cs.drop path.length).drop 1
  if path.all isPathChar && query.all isQueryChar then
    some ⟨String.ofList path, ((query.splitOn '&').filter (· != [])).map pairOf⟩
  else none

def hexDigit (n : Nat) : Char := "0123456789ABCDEF".toList.getD n '0'

/-- A byte as queries write it: letters, digits and four marks stay, a space becomes a plus sign, and any
    other byte is written in hexadecimal digits. -/
def encodeByte (b : UInt8) : List Char :=
  let c := Char.ofNat b.toNat
  if c.isAlphanum || ['*', '-', '.', '_'].contains c then [c]
  else if c = ' ' then ['+']
  else ['%', hexDigit (b.toNat / 16), hexDigit (b.toNat % 16)]

/-- A text as queries write it. -/
def encoded (s : String) : String := String.ofList (s.toUTF8.toList.flatMap encodeByte)

/-- The text of a query. -/
def queryText (pairs : List (String × String)) : String :=
  String.intercalate "&" (pairs.map fun p => encoded p.1 ++ "=" ++ encoded p.2)

end HttpTarget

structure HttpRequest where
  method : HttpMethod
  target : HttpTarget
  contentType : Option String := none
  body : Option Json := none
  deriving DecidableEq, Repr, Inhabited

/-- What comes back for a request: a status code and a text, or nothing as the connection broke. -/
inductive HttpResponse where
  | answered (status : Nat) (body : String)
  | broken
  deriving DecidableEq, Repr, Inhabited

end PlatformOperator
