import MarketChart.Json.Decode
import MarketChart.Time.Stamp

/-!
# Metadata of a chart

What a chart is called and which market and strategy it shows.
-/

namespace MarketChart

/-- The metadata of a chart. -/
structure Metadata where
  title : Option String := none
  symbol : Option String := none
  timeframe : Option String := none
  strategy : Option String := none
  /-- A timestamp, or a count of milliseconds. -/
  timestamp : Option Json := none
deriving Inhabited

namespace Metadata

/-- The name under which the strategy's overrides are asked for. -/
def strategyName (m : Metadata) : String := m.strategy.getD "strategy"

/-- When the chart was last updated. -/
def lastUpdated (m : Metadata) : Option Moment :=
  match m.timestamp with
  | some (.str s) => Stamp.read? s
  | some (.int n) => Moment.ofMillis? n
  | _ => none

/-- Reads metadata. -/
def decode? (v : Json) : Option Metadata := do
  let fields ← v.record? ["title", "symbol", "timeframe", "strategy", "timestamp"]
  return {
    title := ← fields.optional "title" Json.text?
    symbol := ← fields.optional "symbol" Json.text?
    timeframe := ← fields.optional "timeframe" Json.text?
    strategy := ← fields.optional "strategy" Json.text?
    timestamp := ← fields.withDefault "timestamp" Json.raw? none }

/-- Writes metadata. -/
def encode (m : Metadata) : Json :=
  .obj [("title", .ofOption .str m.title), ("symbol", .ofOption .str m.symbol),
    ("timeframe", .ofOption .str m.timeframe), ("strategy", .ofOption .str m.strategy),
    ("timestamp", .ofOption id m.timestamp)]

end Metadata

end MarketChart
