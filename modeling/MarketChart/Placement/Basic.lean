import MarketChart.Candle.Basic
import MarketChart.Indicator.Basic
import MarketChart.Indicator.Override
import MarketChart.Placement.ValueRange

/-!
# Placing indicators on panes

An indicator goes to the pane that its override names, else to the one it declares, else to the
main pane if its values overlap the prices enough and to the indicator pane if not.
-/

namespace MarketChart

/-- The pane of the prices. -/
def mainPane : String := "main"

/-- The pane of indicators that have no other. -/
def indicatorPane : String := "indicator"

/-- How indicators without a declared pane are placed. -/
structure Classifier where
  /-- The share of the shorter range that has to be common. -/
  overlapThreshold : Float := 0.3
  /-- Samples of value zero do not count. -/
  ignoreZeroSamples : Bool := true
deriving DecidableEq, Inhabited

namespace Classifier

/-- Reads a classifier. -/
def decode? (v : Json) : Option Classifier := do
  let fields ← v.record? ["overlapThreshold", "ignoreZeroSamples"]
  let default : Classifier := {}
  return {
    overlapThreshold := ← fields.withDefault "overlapThreshold" Json.float? default.overlapThreshold
    ignoreZeroSamples :=
      ← fields.withDefault "ignoreZeroSamples" Json.bool? default.ignoreZeroSamples }

/-- Writes a classifier. -/
def encode (c : Classifier) : Json :=
  .obj [("overlapThreshold", .ofFloat c.overlapThreshold),
    ("ignoreZeroSamples", .bool c.ignoreZeroSamples)]

end Classifier

/-- Where the values of an indicator place it. -/
inductive Placement where
  | main
  | indicator
deriving DecidableEq, Inhabited

/-- The name of the pane. -/
def Placement.paneName : Placement → String
  | .main => mainPane
  | .indicator => indicatorPane

/-- The range of the prices of candles. -/
def priceRange : List Candle → ValueRange
  | [] => .zero
  | candles =>
    ⟨(candles.map Candle.low).foldl Number.smaller Number.infinity,
      (candles.map Candle.high).foldl Number.larger (-Number.infinity)⟩

namespace Classifier

/-- The value counts for the range of an indicator. -/
def isEligible (c : Classifier) (x : Float) : Bool :=
  x.isFinite && !(c.ignoreZeroSamples && x == 0.0)

/-- The range of the values of an indicator that count. -/
def indicatorRange (c : Classifier) (data : List Sample) : ValueRange :=
  .ofValues ((data.filterMap Sample.value).filter c.isEligible)

end Classifier

/-- Where two ranges place an indicator. -/
def classifyRanges (prices values : ValueRange) (threshold : Float) : Placement :=
  if prices.overlaps values threshold then .main else .indicator

namespace Classifier

/-- Where the values of an indicator place it among prices. -/
def classify (c : Classifier) (prices : ValueRange) (data : List Sample) : Placement :=
  classifyRanges prices (c.indicatorRange data) c.overlapThreshold

/-- The pane of an indicator. -/
def assignPane (c : Classifier) (prices : ValueRange) (overrides : Option Overrides) (key : String)
    (indicator : Indicator) : String :=
  match (overrides.bind (·.find? key)).bind Override.paneName with
  | some pane => pane
  | none =>
    match indicator.declaredPane with
    | some pane => pane
    | none => (c.classify prices indicator.data).paneName

/-- The pane of every indicator. -/
def assignAll (c : Classifier) (prices : ValueRange) (overrides : Option Overrides)
    (indicators : KeyMap Indicator) : KeyMap String :=
  indicators.mapEntries (c.assignPane prices overrides)

end Classifier

end MarketChart
