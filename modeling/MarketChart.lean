import MarketChart.Candle.Basic
import MarketChart.Candle.Sanitize
import MarketChart.Canvas.Basic
import MarketChart.Canvas.Command
import MarketChart.Canvas.Gallery
import MarketChart.Canvas.Series
import MarketChart.Chart.Basic
import MarketChart.Chart.Plan
import MarketChart.Chart.Stage
import MarketChart.Chart.Style
import MarketChart.Dashboard.Basic
import MarketChart.Dashboard.Header
import MarketChart.Dashboard.Screen
import MarketChart.Document.Chart
import MarketChart.Document.Metadata
import MarketChart.Document.Pane
import MarketChart.Document.Report
import MarketChart.Failure
import MarketChart.Indicator.Basic
import MarketChart.Indicator.Override
import MarketChart.Json.Basic
import MarketChart.Json.Decode
import MarketChart.Json.Reader
import MarketChart.KeyMap
import MarketChart.Main
import MarketChart.Number.Decimal
import MarketChart.Number.Double
import MarketChart.Panes.Basic
import MarketChart.Panes.Command
import MarketChart.Panes.Layout
import MarketChart.Panes.Router
import MarketChart.Panes.Sync
import MarketChart.Panes.View
import MarketChart.Picture.Color
import MarketChart.Picture.Row
import MarketChart.Picture.Segment
import MarketChart.Picture.Trace
import MarketChart.Placement.Basic
import MarketChart.Placement.ValueRange
import MarketChart.Plot.Point
import MarketChart.Plot.Stream
import MarketChart.Settings
import MarketChart.Source.Feed
import MarketChart.Source.FileTree
import MarketChart.Source.Folder
import MarketChart.Source.Web
import MarketChart.Startup
import MarketChart.Text.Blank
import MarketChart.Text.CellWidth
import MarketChart.Text.CharWidth
import MarketChart.Text.Cluster
import MarketChart.Text.Following
import MarketChart.Text.Hex
import MarketChart.Text.Property
import MarketChart.Text.WidthProperty
import MarketChart.Time.Calendar
import MarketChart.Time.Stamp
import MarketChart.Trades.Table
import MarketChart.Window
import MarketChart.Proofs.PaneRuns
import MarketChart.Proofs.PaneEvents
import MarketChart.Proofs.SyncGuard
import MarketChart.Proofs.FramePropagation
import MarketChart.Proofs.Drawing
import MarketChart.Proofs.FirstLoad
import MarketChart.Proofs.Alignment
import MarketChart.Proofs.DoubleSeconds
import MarketChart.Proofs.DoubleForms
import MarketChart.Proofs.DoubleOrder
import MarketChart.Proofs.DoubleUnits
import MarketChart.Proofs.DoubleSums
import MarketChart.Proofs.AxisBounds
import MarketChart.Proofs.RangePlacement
import MarketChart.Proofs.RangeSymmetry
import MarketChart.Proofs.RangeHulls
import MarketChart.Proofs.TimeAxis
import MarketChart.Proofs.SeriesIds
import MarketChart.Proofs.VisibleRuns
import MarketChart.Proofs.Routing
import MarketChart.Proofs.Reloading
import MarketChart.Proofs.CandleOrder
import MarketChart.Proofs.ReadRange
import MarketChart.Proofs.Rereading
import MarketChart.Proofs.WrittenForms
import MarketChart.Proofs.Redisplay
import MarketChart.Proofs.StreamRereading
import MarketChart.Proofs.TreeParts
import MarketChart.Proofs.Arrangement
import MarketChart.Proofs.PaneOrder
import MarketChart.Proofs.CanvasLog
import MarketChart.Proofs.GalleryRuns
import MarketChart.Proofs.Quitting
import MarketChart.Proofs.CanonicalCandles
import MarketChart.Proofs.Fitting
import MarketChart.Proofs.KeyNavigation
import MarketChart.Proofs.GalleryRounds
import MarketChart.Proofs.StreamPoints
import MarketChart.Proofs.LooseSamples
import MarketChart.Proofs.SampleReplacement
import MarketChart.Proofs.NestedRounds
import MarketChart.Proofs.CandleSeconds
import MarketChart.Proofs.CanvasFollowed
import MarketChart.Proofs.FullPicture
import MarketChart.Proofs.TradeTotals
import MarketChart.Proofs.EntryDates
