import MarketChart.Canvas.Series
import MarketChart.Indicator.Override
import MarketChart.Settings

/-!
# The look of an indicator's series

What an indicator declares, what its override changes and what the settings give in default,
merged into the configuration of one series.
-/

namespace MarketChart

/-- Where a series goes and how it looks; without a pane it goes to the indicator pane. -/
structure SeriesConfig where
  pane : Option String
  kind : PlotKind
  options : SeriesOptions
deriving DecidableEq, Inhabited

/-- The pane that the series goes to. -/
def SeriesConfig.paneName (c : SeriesConfig) : String := c.pane.getD indicatorPane

/-- The kind of the series on a canvas. -/
def SeriesConfig.seriesKind (c : SeriesConfig) : SeriesKind := .ofPlot c.kind c.options

/-- The declared style with an override merged in. Only an override that names a style counts; its
style replaces the declared one, and so do its colour and width where it has them. -/
def SeriesStyle.merge (declared : SeriesStyle) (fields : Option OverrideFields) : SeriesStyle :=
  match fields.filter (·.style.isSome) with
  | none => declared
  | some f =>
    { kind := f.style
      color := f.color.or declared.color
      lineWidth := f.lineWidth.or declared.lineWidth }

/-- A line width that can be drawn. -/
def isUsableWidth (w : Float) : Bool := w.isFinite && 0.0 < w

/-- The configuration of an indicator's series on a pane. -/
def SeriesConfig.build (settings : Settings) (fields : Option OverrideFields) (pane key : String)
    (indicator : Indicator) : SeriesConfig :=
  let style := indicator.style.merge fields
  { pane := some pane
    kind := .ofStyle style.kind
    options := {
      title := indicator.title.getD key
      color := (style.color.or (fields.bind OverrideFields.color)).getD settings.defaultSeriesColor
      lineWidth := (style.lineWidth.filter isUsableWidth).getD settings.defaultLineWidth } }

end MarketChart
