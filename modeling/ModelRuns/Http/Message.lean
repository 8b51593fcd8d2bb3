import ModelRuns.Http.Url
import ModelRuns.Json.Printer

namespace ModelRuns

/-!
# Messages of a connection

A request carries nothing, a document or a form.  A form has one file, which is
sent as it is, and then texts.  A response is a status, headers and bytes.
-/

/-- How a request is made. -/
inductive HttpMethod
  | get
  | post
  | put
deriving DecidableEq, Repr

/-- The name of a method. -/
def HttpMethod.text : HttpMethod → String
  | .get => "GET"
  | .post => "POST"
  | .put => "PUT"

/-- What a request carries. -/
inductive HttpBody
  | empty
  | document (body : Json)
  | form (file : Path) (fields : List (String × String))

/-- A request to an address. -/
structure HttpRequest where
  method : HttpMethod
  url : Url
  body : HttpBody

structure HttpResponse where
  status : Nat
  headers : List (String × String)
  body : List UInt8

/-- Whether a status says that the request succeeded. -/
def isSuccess (status : Nat) : Bool := 200 ≤ status && status < 300

/-- Names of headers are the same in either case. -/
def HttpResponse.header? (response : HttpResponse) (name : String) : Option String :=
  (response.headers.find? fun header => header.1.toLower == name.toLower).map (·.2)

/-! ## Forms -/

/-- The kind of data in a file, by the extension of its name. -/
def contentType (file : Path) : String :=
  match file.extension? with
  | some "csv" => "text/csv"
  | some "json" => "application/json"
  | some "txt" => "text/plain"
  | some "gz" => "application/gzip"
  | _ => "application/octet-stream"

/-- A text inside the quotes of a header. -/
def quotedName (name : String) : String :=
  String.ofList (name.toList.flatMap fun c => if c = '"' || c = '\\' then ['\\', c] else [c])

/-- The headers of the file of a form. -/
def fileHeaders (file : Path) : List String :=
  ["Content-Disposition: form-data; name=\"file\"; filename=\"" ++
      quotedName (file.fileName?.getD "") ++ "\"",
    "Content-Type: " ++ contentType file]

/-- The text of a field of a form: texts as they are, other documents in the
compact form. -/
def formText : Json → String
  | .text value => value
  | document => document.compact

end ModelRuns
