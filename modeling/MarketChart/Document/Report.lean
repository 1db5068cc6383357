import MarketChart.Json.Decode

/-!
# Strategy reports

The trades of a strategy: closed ones, open ones and the net profit that the strategy states.
-/

namespace MarketChart

/-- Which way a trade bets. -/
inductive Direction where
  | long
  | short
deriving DecidableEq, Inhabited

namespace Direction

/-- The directions by name. -/
def names : List (String × Direction) := [("long", .long), ("short", .short)]

/-- The sign with which a rise of the price counts. -/
def multiplier : Direction → Float
  | .long => 1.0
  | .short => -1.0

/-- The text in the trade table. -/
def label : Direction → String
  | .long => "LONG"
  | .short => "SHORT"

/-- Reads a direction. -/
def decode? : Json → Option Direction := Json.choice? names

/-- Writes a direction. -/
def encode : Direction → Json
  | .long => .str "long"
  | .short => .str "short"

end Direction

/-- A trade. -/
structure Trade where
  /-- Milliseconds since the epoch; `0` counts as absent. -/
  entryTime : Option Int := none
  /-- The position of the candle at which the trade was entered. -/
  entryBar : Option Nat := none
  direction : Direction
  entryPrice : Float
  exitPrice : Option Float := none
  size : Float
  profit : Option Float := none
  status : Option String := none
deriving Inhabited

namespace Trade

/-- The trade says that it is open. -/
def isOpen (t : Trade) : Bool := t.status == some "open"

/-- Reads a trade. -/
def decode? (v : Json) : Option Trade := do
  let fields ← v.record?
    ["entryTime", "entryBar", "direction", "entryPrice", "exitPrice", "size", "profit", "status"]
  return {
    entryTime := ← fields.optional "entryTime" Json.int64?
    entryBar := ← fields.optional "entryBar" (Json.natBelow? (Nat.pow 2 64))
    direction := ← fields.required "direction" Direction.decode?
    entryPrice := ← fields.required "entryPrice" Json.float?
    exitPrice := ← fields.optional "exitPrice" Json.float?
    size := ← fields.required "size" Json.float?
    profit := ← fields.optional "profit" Json.float?
    status := ← fields.optional "status" Json.text? }

/-- Writes a trade. -/
def encode (t : Trade) : Json :=
  .obj [("entryTime", .ofOption .int t.entryTime),
    ("entryBar", .ofOption (fun n => .int (Int.ofNat n)) t.entryBar),
    ("direction", t.direction.encode), ("entryPrice", .ofFloat t.entryPrice),
    ("exitPrice", .ofOption .ofFloat t.exitPrice), ("size", .ofFloat t.size),
    ("profit", .ofOption .ofFloat t.profit), ("status", .ofOption .str t.status)]

end Trade

/-- What a strategy reports. -/
structure StrategyReport where
  trades : List Trade := []
  openTrades : List Trade := []
  netProfit : Option Float := none
deriving Inhabited

namespace StrategyReport

/-- Reads a report. -/
def decode? (v : Json) : Option StrategyReport := do
  let fields ← v.record? ["trades", "openTrades", "netProfit"]
  return {
    trades := ← fields.withDefault "trades" (Json.list? Trade.decode?) []
    openTrades := ← fields.withDefault "openTrades" (Json.list? Trade.decode?) []
    netProfit := ← fields.optional "netProfit" Json.float? }

/-- Writes a report. -/
def encode (r : StrategyReport) : Json :=
  .obj [("trades", .ofList Trade.encode r.trades),
    ("openTrades", .ofList Trade.encode r.openTrades),
    ("netProfit", .ofOption .ofFloat r.netProfit)]

end StrategyReport

end MarketChart
