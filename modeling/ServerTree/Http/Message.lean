import ServerTree.Http.Fields
import ServerTree.Text.Integer

/-!
# Requests and responses

A request is what arrived, except for its body, which is received while it is read (see
`ServerTree.Http.Body`). A response is given over a value type `V`, since handlers may hand in anything;
what can be sent is checked when it is put on the wire.
-/

namespace ServerTree

/-- How many bytes a body may have. -/
inductive SizeLimit where
  | unlimited
  | atMost (n : Int)
  /-- A limit of a type that sizes cannot be compared with. -/
  | incomparable (typeName : String)
deriving DecidableEq, Repr, Inhabited

/-- The metadata of a request. -/
structure Request where
  method : String := "GET"
  path : String := "/"
  headers : Headers := {}
  query : Query := {}
  pathParams : List (String × String) := []
  httpVersion : String := "1.1"
  server : Option (String × Int) := none
  client : Option (String × Int) := none
  maxBodySize : SizeLimit := .unlimited
deriving DecidableEq, Repr, Inhabited

namespace Request

/-- The Content-Type header. -/
def contentType (r : Request) : Option String :=
  r.headers.get? "content-type"

/-- The Content-Length header, when it is an integer. -/
def contentLength (r : Request) : Option Int :=
  (r.headers.get? "content-length").bind Text.readInt?

/-- The path, with the query string when there is one. -/
def url (r : Request) : String :=
  if r.query.raw.isEmpty then r.path else r.path ++ "?" ++ Text.latin1Decode r.query.raw

/-- The address of the peer. -/
def clientHost (r : Request) : Option String :=
  r.client.map Prod.fst

end Request

/-- An uploaded file of a multipart form. -/
structure Upload where
  filename : String
  contentType : String
  content : Bytes
deriving DecidableEq, Repr, Inhabited

/-- The number of bytes of an upload. -/
def Upload.size (u : Upload) : Nat := u.content.length

/-- A response before it is put on the wire. Applications may put anything into its fields. -/
structure Response (V : Type) where
  body : V
  status : V
  contentType : V
  headers : List (V × V)

/-- The content type of text. -/
def textContentType : String := "text/plain; charset=utf-8"

/-- The content type of JSON. -/
def jsonContentType : String := "application/json; charset=utf-8"

end ServerTree
