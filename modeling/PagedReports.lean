import PagedReports.Actor
import PagedReports.Ads
import PagedReports.Ads.Feed
import PagedReports.Ads.Source
import PagedReports.Binary64.Basic
import PagedReports.Binary64.Extended
import PagedReports.Binary64.Shortest
import PagedReports.Binary64.Significant
import PagedReports.Calendar.Date
import PagedReports.Calendar.Moment
import PagedReports.Calendar.Pattern
import PagedReports.Catalogue
import PagedReports.Catalogue.Contributions
import PagedReports.Catalogue.Downloads
import PagedReports.Catalogue.Parts
import PagedReports.Catalogue.Queues
import PagedReports.Catalogue.Releases
import PagedReports.Catalogue.Reviews
import PagedReports.Command.Arguments
import PagedReports.Command.Basic
import PagedReports.Command.Caller
import PagedReports.Command.Run
import PagedReports.Database.Actors
import PagedReports.Database.Affinity
import PagedReports.Database.Basic
import PagedReports.Database.Insert
import PagedReports.Database.Sample
import PagedReports.Database.Schema
import PagedReports.Database.Store
import PagedReports.Error
import PagedReports.Host.Basic
import PagedReports.Host.DatabaseFile
import PagedReports.Host.DatabaseName
import PagedReports.Host.FileTree
import PagedReports.Html.Node
import PagedReports.Html.PagingBar
import PagedReports.Html.ReportPage
import PagedReports.Json.Basic
import PagedReports.Json.Reader
import PagedReports.Json.View
import PagedReports.Main
import PagedReports.Paging
import PagedReports.Plugin
import PagedReports.Proofs.Ads.Feeds
import PagedReports.Proofs.Ads.Sync
import PagedReports.Proofs.Attempts
import PagedReports.Proofs.Calendar.CivilTime
import PagedReports.Proofs.Calendar.DateCells
import PagedReports.Proofs.Calendar.Days
import PagedReports.Proofs.Catalogue.DownloadTotals
import PagedReports.Proofs.Catalogue.JoinedRows
import PagedReports.Proofs.Catalogue.LatestReviews
import PagedReports.Proofs.Catalogue.LeadMaintainers
import PagedReports.Proofs.Catalogue.Ordering
import PagedReports.Proofs.Catalogue.OwnContributions
import PagedReports.Proofs.Catalogue.Pages
import PagedReports.Proofs.Catalogue.Queries
import PagedReports.Proofs.Catalogue.RepeatedPlugins
import PagedReports.Proofs.Catalogue.Shown
import PagedReports.Proofs.Catalogue.Verdicts
import PagedReports.Proofs.Command.Demo
import PagedReports.Proofs.Command.SetUp
import PagedReports.Proofs.Command.SetUpAgain
import PagedReports.Proofs.Command.SyncAds
import PagedReports.Proofs.Database.Adding
import PagedReports.Proofs.Database.Growing
import PagedReports.Proofs.Database.Integrity
import PagedReports.Proofs.Database.Loading
import PagedReports.Proofs.Database.Numbering
import PagedReports.Proofs.Database.SampleFields
import PagedReports.Proofs.Database.SampleRows
import PagedReports.Proofs.Database.SignIn
import PagedReports.Proofs.Database.Stored
import PagedReports.Proofs.Database.Writes
import PagedReports.Proofs.Host.DataDirectory
import PagedReports.Proofs.Host.Growth
import PagedReports.Proofs.Host.Paths
import PagedReports.Proofs.Host.Repeating
import PagedReports.Proofs.Host.Saving
import PagedReports.Proofs.Host.Serving
import PagedReports.Proofs.Html.Following
import PagedReports.Proofs.Html.Links
import PagedReports.Proofs.Html.Markup
import PagedReports.Proofs.Html.PageNumbers
import PagedReports.Proofs.Html.ReportLinks
import PagedReports.Proofs.Html.Selector
import PagedReports.Proofs.Html.TableCells
import PagedReports.Proofs.Html.Tags
import PagedReports.Proofs.Json.Lookup
import PagedReports.Proofs.Json.RoundTrip
import PagedReports.Proofs.Json.Spelling
import PagedReports.Proofs.Report.Access
import PagedReports.Proofs.Report.Admission
import PagedReports.Proofs.Report.ExactPaging
import PagedReports.Proofs.Report.History
import PagedReports.Proofs.Report.Presenting
import PagedReports.Proofs.Report.Questions
import PagedReports.Proofs.Report.Registration
import PagedReports.Proofs.Report.Restriction
import PagedReports.Proofs.Report.Steps
import PagedReports.Proofs.Report.Totals
import PagedReports.Proofs.Request.BadPairs
import PagedReports.Proofs.Request.RoundTrip
import PagedReports.Proofs.Settings.Defaults
import PagedReports.Proofs.Settings.RoundTrip
import PagedReports.Proofs.Sql.Grammar
import PagedReports.Proofs.Sql.Grouping
import PagedReports.Proofs.Sql.Joins
import PagedReports.Proofs.Sql.KeyOrder
import PagedReports.Proofs.Sql.Records
import PagedReports.Proofs.Sql.ValueOrder
import PagedReports.Proofs.Text.Columns
import PagedReports.Proofs.Text.Form
import PagedReports.Proofs.Text.Numeral
import PagedReports.Proofs.Text.Thousands
import PagedReports.Proofs.Text.Trimming
import PagedReports.Proofs.Text.Utf8
import PagedReports.Report.Cell
import PagedReports.Report.Definition
import PagedReports.Report.Registry
import PagedReports.Report.Session
import PagedReports.Request
import PagedReports.Settings
import PagedReports.Settings.File
import PagedReports.Sql.Clause
import PagedReports.Sql.Evaluate
import PagedReports.Sql.Numeral
import PagedReports.Sql.Query
import PagedReports.Sql.Sum
import PagedReports.Sql.Value
import PagedReports.Terminal
import PagedReports.Text.Blank
import PagedReports.Text.Form
import PagedReports.Text.Grid
import PagedReports.Text.Grouped
import PagedReports.Text.Numeral
import PagedReports.Text.Utf8
import PagedReports.Text.Width
import PagedReports.Text.Width.Ligature
import PagedReports.Text.Width.Picture
import PagedReports.Text.Width.Places
