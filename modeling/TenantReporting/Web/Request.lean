import TenantReporting.Address
import TenantReporting.Web.Headers

/-!
# Requests
-/

namespace TenantReporting.Web

/-- A request as it arrives. -/
structure Request where
  method : String
  path : String
  query : List UInt8 := []
  headers : Headers := []
  body : List UInt8 := []
  /-- The address of the client, if it is known. -/
  client : Option String := none

namespace Request

/-- The header that names the tenant database of a request. -/
def tenantHeader : String := "x-agency-database"

/-- The tenant whose database a request is about. -/
def tenant? (request : Request) : Option String :=
  request.headers.value? tenantHeader

/-- The host that stands for the application where a request names none. No mark of addresses occurs
in it, so it does not matter which one it is. -/
def ownHost : String := "localhost"

/-- The host that a request names. -/
def host (request : Request) : String :=
  (request.headers.value? "host").getD ownHost

/-- The address of a request. The query that follows it adds nothing to its host or path. -/
def address (request : Request) : Address :=
  Address.ofText (request.host ++ request.path)

/-- Why a request has no address: its query is no text, or the address cannot be taken apart. -/
def addressFault? (request : Request) : Option AddressFault :=
  ((Text.decodingFault? request.query).map .undecodable).or request.address.fault?

/-- The request has an address that can be taken apart. -/
def isAddressed (request : Request) : Bool :=
  request.addressFault?.isNone

/-- How the addresses of the documentation begin. -/
def documentationPaths : List String :=
  ["/api/docs", "/api/redoc", "/api/openapi.json"]

/-- The request asks for documentation. -/
def isForDocumentation (request : Request) : Bool :=
  documentationPaths.any fun path ↦ path.toList.isPrefixOf request.address.path.toList

end Request

end TenantReporting.Web
