import TenantReporting.Json.Printer
import TenantReporting.Text.Utf8
import TenantReporting.Web.Headers

/-!
# Responses
-/

namespace TenantReporting.Web

/-- An answer to a request. -/
structure Response where
  status : Nat
  contentType : Option String := none
  headers : Headers := []
  body : List UInt8 := []
  /-- The answer brings a task of its own that follows when it has been sent. -/
  hasFollowUp : Bool := false

namespace Response

/-- An answer that carries a JSON value. -/
def ofJson (style : Json.Style) (status : Nat) (value : Json) : Response :=
  { status
    contentType := some "application/json"
    body := Text.utf8Bytes (Json.print style value) }

/-- An answer that carries plain text. -/
def ofText (status : Nat) (text : String) : Response :=
  { status
    contentType := some "text/plain; charset=utf-8"
    body := Text.utf8Bytes text }

/-- An answer that carries a result. -/
def result (value : Json) : Response :=
  ofJson Json.answerStyle 200 value

/-- An answer that carries a result and says so. -/
def success (data : Json) : Response :=
  result (.object [("success", .bool true), ("data", data)])

/-- An answer that only carries the detail of an error. -/
def detail (status : Nat) (text : String) : Response :=
  ofJson Json.errorStyle status (.object [("detail", .text text)])

/-- The body as text. -/
def text (response : Response) : String :=
  Text.textOfUtf8 response.body

end Response

end TenantReporting.Web
