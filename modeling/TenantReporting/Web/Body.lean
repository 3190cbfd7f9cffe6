import TenantReporting.Json.Reader
import TenantReporting.Text.Blank
import TenantReporting.Text.Percent
import TenantReporting.Text.StandIn
import TenantReporting.Web.Request

/-!
# Bodies of requests

The body of a request is read as JSON exactly if its content type announces that. If it holds
surrogates that are no part of a character, it is read with stand-ins for them.
-/

namespace TenantReporting.Web

/-- The body of a request as far as its content type lets it be read. -/
inductive Body where
  | absent
  | raw (bytes : List UInt8)
  | value (value : Json)

/-- Why a body that should be JSON cannot be read. -/
inductive BodyFault where
  | malformed (fault : Json.ReadFault)
  | unreadable
deriving DecidableEq, Repr

/-- The content type announces JSON: it is `application/json`, or a type of applications with the
suffix for JSON, with any parameters. -/
def announcesJson (contentType : String) : Bool :=
  let type := Text.trimBoth Text.isBlank (contentType.toList.takeWhile (· != ';'))
  match Text.pieces '/' (type.map Text.small) with
  | [main, kind] =>
    main == "application".toList
      && (kind == "json".toList || "+json".toList.isSuffixOf kind)
  | _ => false

/-- The JSON value that the codes of a text write, which are read with stand-ins for surrogates. The
null value counts as an absent body. -/
def Body.ofCodes (codes : List Nat) : Except BodyFault Body :=
  match Json.readDecoded ((Text.StandIns.choose codes).inserted codes) with
  | .ok .null => .ok .absent
  | .ok document => .ok (.value document)
  | .error ⟨.tooManyDigits _, _⟩ => .error .unreadable
  | .error fault => .error (.malformed fault)

/-- The request brings a body that its content type announces as JSON. -/
def Request.bringsJson (request : Request) : Bool :=
  !request.body.isEmpty && (request.headers.value? "content-type").any announcesJson

/-- The body of a request. -/
def Body.of (request : Request) : Except BodyFault Body :=
  if request.bringsJson then
    match Text.codes? request.body with
    | none => .error .unreadable
    | some codes => Body.ofCodes codes
  else if request.body.isEmpty then .ok .absent
  else .ok (.raw request.body)

/-- The stand-ins with which the body of a request is read. -/
def Request.standIns (request : Request) : Text.StandIns :=
  if request.bringsJson then ((Text.codes? request.body).map Text.StandIns.choose).getD [] else []

end TenantReporting.Web
