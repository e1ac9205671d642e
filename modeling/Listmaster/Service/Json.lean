import Listmaster.Address.Json
import Listmaster.Category.Json
import Listmaster.Service

/-!
Reports on lists in JSON.
-/

namespace Listmaster.ListReport

def toJson (report : ListReport) : Json :=
  .object
    [("address", report.address.toJson), ("location", .text report.location),
      ("category_raw", .ofOption .text report.marker), ("category", report.category.toJson),
      ("policy", .ofOption Category.toJson report.policy), ("members", report.members.toJson),
      ("owners", report.owners.toJson)]

end Listmaster.ListReport
