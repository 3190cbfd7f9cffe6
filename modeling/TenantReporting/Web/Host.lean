/-!
# Who serves requests

The user and host under whose name requests are logged. Where the system cannot tell, a placeholder
stands in.
-/

namespace TenantReporting.Web

/-- Why the system cannot answer: there is no entry, the system itself failed, or something else
happened, which is passed on. -/
inductive LookupFault where
  | noEntry
  | system
  | other (name : String)
deriving DecidableEq, Repr

/-- The answer of the system to a question about itself. -/
abbrev Lookup := Except LookupFault String

/-- What stands in for the name of a user. -/
def unknownUser : String := "unknown_user"

/-- What stands in for the name of a host. -/
def unknownHost : String := "unknown_host"

/-- The name of the user, with a placeholder where there is none. -/
def userName : Lookup → Lookup
  | .ok "" => .ok unknownUser
  | .ok name => .ok name
  | .error .noEntry => .ok unknownUser
  | .error .system => .ok unknownUser
  | .error (.other name) => .error (.other name)

/-- The name of the host: the first of two sources that has one, with a placeholder where neither
has. The second source is asked only if the first has no name. -/
def hostName (first second : Lookup) : Lookup :=
  let name := match first with
    | .ok "" => second
    | answer => answer
  match name with
  | .ok "" => .ok unknownHost
  | .error .system => .ok unknownHost
  | answer => answer

end TenantReporting.Web
