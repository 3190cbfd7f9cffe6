import TenantReporting.DatabaseUrl
import TenantReporting.Failure
import TenantReporting.Settings

/-!
# Options of engines

With which address and options the engine of a tenant's database is set up: the address of the
tenant databases with the name of this one, and a pool of fixed size. Stores that know statement
timeouts are told to stop long statements.
-/

namespace TenantReporting.Tenancy

/-- How an engine is set up. -/
structure EngineOptions where
  url : DatabaseUrl
  poolSize : Int
  overflow : Int
  poolTimeout : Binary64
  checksConnections : Bool
  /-- The options that are passed on to the driver, if any. -/
  driverOptions : Option (List (String × String))
deriving Repr

/-- Why no engine can be set up. -/
inductive EngineFault where
  | tenant (defect : Query.TenantDefect)
  | url (fault : UrlFault)
deriving Repr

/-- The public name of a fault. -/
def EngineFault.name : EngineFault → String
  | .tenant _ => ErrorKind.invalidTenant.name
  | .url fault => fault.name

/-- The wording of a fault. -/
def EngineFault.message : EngineFault → String
  | .tenant defect => defect.message
  | .url fault => fault.message

/-- The options for stores that know statement timeouts. -/
def driverOptions (settings : Settings) (url : DatabaseUrl) : Option (List (String × String)) :=
  if url.storeKind == "postgresql" then
    some
      [("options", s!"-c statement_timeout={settings.statementTimeoutMilliseconds}"),
       ("application_name", settings.poolApplicationName)]
  else none

/-- How the engine of a tenant's database is set up. -/
def engineOptions (settings : Settings) (tenant : String) : Except EngineFault EngineOptions := do
  let database ← (Query.databaseName tenant).mapError .tenant
  let url ← (DatabaseUrl.read settings.tenantDatabaseUrl).mapError .url
  let url := { url with database := some database }
  return {
    url
    poolSize := settings.maxConnectionsPerPool
    overflow := 0
    poolTimeout := settings.poolTimeoutSeconds
    checksConnections := true
    driverOptions := driverOptions settings url }

end TenantReporting.Tenancy
