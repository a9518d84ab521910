import Readiness.Http.Framing
import Readiness.Text.Charset

/-! How a client reads responses.

What a server sends becomes a response only through the client that reads it. A `Reader` is such a
reading; `Reader.usual` goes by `Received.parse?` and knows the charsets of `Text.Charset`. Nothing
that is said of waiting depends on the reader, so that a client which knows more charsets, or is
stricter about heads, is covered as well. -/

namespace Readiness.Http

/-- A way of reading responses. -/
structure Reader where
  /-- The text of a body, by the content type that goes with it. -/
  text : Option String → List UInt8 → String
  /-- The response to a request with the given method, in the bytes that a server sent before it
  closed the connection. -/
  response? : String → List UInt8 → Option Received

namespace Reader

/-- The label of the encoding of a body, in the form of `Charset.ofLabel?`. -/
def charsetLabel? (contentType : String) : Option String :=
  let trim (s : List Char) := ((s.dropWhile (· = ' ')).reverse.dropWhile (· = ' ')).reverse
  ((Url.splitAt ';' contentType.toList).drop 1).findSome? fun part =>
    let name := (trim (part.takeWhile (· ≠ '='))).map Char.toLower
    let value := trim ((part.dropWhile (· ≠ '=')).drop 1)
    if name = "charset".toList then
      some (String.ofList ((value.filter (· ≠ '"')).map Char.toLower))
    else none

/-- The encoding of a body; a label that is not known stands for UTF-8. -/
def charsetOf (contentType : Option String) : Text.Charset :=
  ((contentType.bind charsetLabel?).bind Text.Charset.ofLabel?).getD .utf8

def usualText (contentType : Option String) (bytes : List UInt8) : String :=
  Text.Charset.decode (charsetOf contentType) bytes

/-- Reads responses as they are usually meant. -/
def usual : Reader := { text := usualText, response? := Received.parse? usualText }

instance : Inhabited Reader := ⟨usual⟩

/-- The final response in good order, of which the last `missing` bytes of the announced length do
not arrive. -/
def answer (reader : Reader) (method : String) (r : Response) (missing : Nat) (stalls : Bool) :
    Received :=
  let headers := r.headers.map fun h => (h.1.map Char.toLower, h.2)
  let read := reader.text (headers.lookup "content-type")
  { status := r.status
    headers
    body :=
      if Framing.isBodiless method r.status then .whole (read [])
      else if missing = 0 then .whole (read r.body)
      else if stalls then .stalled
      else .broken }

example :
    let bytes := "HTTP/1.1 100 Continue\r\n\r\nHTTP/1.1 200 OK\r\n\r\nup".toUTF8.toList
    usual.response? "GET" bytes = some ⟨200, [], .whole "up"⟩ := by
  decide +kernel

example :
    let bytes := "HTTP/1.1 200 OK\r\ncontent-length: 2, 3\r\n\r\nup".toUTF8.toList
    usual.response? "GET" bytes = none := by
  decide +kernel

end Reader

end Readiness.Http
