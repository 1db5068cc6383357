import MarketChart.Document.Pane
import MarketChart.Placement.Basic

/-!
# Settings

The user's settings. Every one has a default, so a document may give any part of them.
-/

namespace MarketChart

/-- The settings of the program. -/
structure Settings where
  mainPane : PaneConfig := ⟨400, true⟩
  indicatorPane : PaneConfig := ⟨200, false⟩
  defaultSeriesColor : String := "#2196F3"
  defaultLineWidth : Float := 2.0
  classifier : Classifier := {}
  containerWidth : Nat := 120
deriving DecidableEq, Inhabited

namespace Settings

/-- Reads settings. -/
def decode? (v : Json) : Option Settings := do
  let fields ← v.record? ["mainPane", "indicatorPane", "defaultSeriesColor", "defaultLineWidth",
    "classifier", "containerWidth"]
  let default : Settings := {}
  return {
    mainPane := ← fields.withDefault "mainPane" PaneConfig.decode? default.mainPane
    indicatorPane := ← fields.withDefault "indicatorPane" PaneConfig.decode? default.indicatorPane
    defaultSeriesColor :=
      ← fields.withDefault "defaultSeriesColor" Json.text? default.defaultSeriesColor
    defaultLineWidth := ← fields.withDefault "defaultLineWidth" Json.float? default.defaultLineWidth
    classifier := ← fields.withDefault "classifier" Classifier.decode? default.classifier
    containerWidth :=
      ← fields.withDefault "containerWidth" (Json.natBelow? (Nat.pow 2 16)) default.containerWidth }

/-- Writes settings. -/
def encode (s : Settings) : Json :=
  .obj [("mainPane", s.mainPane.encode), ("indicatorPane", s.indicatorPane.encode),
    ("defaultSeriesColor", .str s.defaultSeriesColor),
    ("defaultLineWidth", .ofFloat s.defaultLineWidth), ("classifier", s.classifier.encode),
    ("containerWidth", .int s.containerWidth)]

end Settings

end MarketChart
