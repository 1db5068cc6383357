import MarketChart.Document.Chart
import MarketChart.Failure
import MarketChart.Indicator.Override

/-!
# Feeds

A feed gives a chart its documents: each load takes the next delivery.
-/

namespace MarketChart

/-- What a source gives for one load: the document, or why there is none, and the overrides of a
strategy. -/
structure Delivery where
  document : Except Failure ChartDocument
  overrides : String → Option Overrides

/-- The deliveries of a source, by the number of loads before. -/
abbrev Feed := Nat → Delivery

/-- The delivery of a source that is not there. -/
def Delivery.unavailable : Delivery where
  document := .error ⟨[], .sourceUnavailable⟩
  overrides _ := none

/-- A feed of given deliveries, of which the last repeats. -/
def Feed.ofList (deliveries : List Delivery) : Feed := fun n =>
  (deliveries[n]?.or deliveries.getLast?).getD .unavailable

end MarketChart
