import PagedReports.Catalogue.Contributions
import PagedReports.Catalogue.Downloads
import PagedReports.Catalogue.Queues
import PagedReports.Catalogue.Releases
import PagedReports.Catalogue.Reviews
import PagedReports.Report.Registry

/-!
# The directory's reports

The six reports that come with the directory, and the registry that holds them.
-/

namespace PagedReports

namespace Catalogue

/-- The directory's reports, in the order in which they are listed. -/
def all : List Definition := [unapproved, needsWork, reviews, recentReleases, downloads, myPlugins]

/-- The directory's report with a name. -/
def find? (name : String) : Option Definition := all.find? (·.name = name)

end Catalogue

/-- The registry with the directory's reports. -/
def Registry.builtin : Registry := ⟨Catalogue.all⟩

end PagedReports
