import MarketChart.Candle.Basic
import MarketChart.Document.Report
import MarketChart.Time.Calendar

/-!
# The trade table

One row for each trade of a report, and the summary under it. An open trade is valued at the last
closing price, and the net profit counts what the open trades would yield.
-/

namespace MarketChart

/-- A row of the trade table. -/
structure TradeRow where
  number : Nat
  date : String
  direction : Direction
  entryPrice : String
  exitPrice : String
  size : String
  profit : String
  profitValue : Float
  isOpen : Bool
deriving DecidableEq, Inhabited

/-- The trade table. -/
structure TradeTable where
  rows : List TradeRow := []
  summary : String := "No trades"
  totalProfit : Float := 0.0
deriving DecidableEq, Inhabited

/-- What stands for a price or a date that is not known. -/
def notAvailable : String := "N/A"

/-- A price in dollars. -/
def priceText : Option Float → String
  | some price => "$" ++ Number.fixed2 price
  | none => notAvailable

/-- A profit in dollars, with its sign in front. -/
def profitText (profit : Float) : String :=
  (if 0.0 ≤ profit then "+" else "-") ++ "$" ++ Number.fixed2 profit.abs

/-- The last closing price. -/
def currentPrice (candles : List Candle) : Option Float := candles.getLast?.map Candle.closing

namespace Trade

/-- The time of entry in milliseconds: as stated, else that of the candle of entry. -/
def entryMillis? (candles : List Candle) (t : Trade) : Option Int :=
  match t.entryTime.filter (· ≠ 0) with
  | some ms => some ms
  | none => (t.entryBar.bind fun bar => candles[bar]?).map fun c => c.time * 1000

/-- The date of entry. -/
def dateText (candles : List Candle) (t : Trade) : String :=
  (((t.entryMillis? candles).bind Moment.ofMillis?).map Moment.tradeText).getD notAvailable

/-- What the trade would yield at the last closing price. -/
def unrealizedProfit (candles : List Candle) (t : Trade) : Float :=
  match currentPrice candles with
  | some price => (price - t.entryPrice) * t.size * t.direction.multiplier
  | none => 0.0

/-- The exit price and the profit that the table shows. -/
def outcome (candles : List Candle) (t : Trade) (isOpen : Bool) : Option Float × Float :=
  if isOpen then (currentPrice candles, t.unrealizedProfit candles)
  else (t.exitPrice, t.profit.getD 0.0)

/-- The row of a trade. -/
def row (candles : List Candle) (number : Nat) (t : Trade) (isOpen : Bool) : TradeRow :=
  let (exit, profit) := t.outcome candles isOpen
  { number
    date := t.dateText candles
    direction := t.direction
    entryPrice := priceText (some t.entryPrice)
    exitPrice := priceText exit
    size := Number.fixed2 t.size
    profit := profitText profit
    profitValue := profit
    isOpen }

end Trade

namespace StrategyReport

/-- The trades in the order of the table, each with whether it counts as open. -/
def listed (r : StrategyReport) : List (Trade × Bool) :=
  r.trades.map (fun t => (t, t.isOpen)) ++ r.openTrades.map (fun t => (t, true))

/-- The stated net profit and what the open trades would yield. The sum over no trades is the
negative zero, which leaves every stated profit as it is. -/
def totalProfit (candles : List Candle) (r : StrategyReport) : Float :=
  r.netProfit.getD 0.0 +
    (r.openTrades.map (Trade.unrealizedProfit candles)).foldl (· + ·) (-0.0)

end StrategyReport

namespace TradeTable

/-- The rows of a list of trades, numbered from one. -/
def rowsOf (candles : List Candle) (listed : List (Trade × Bool)) : List TradeRow :=
  listed.mapIdx fun i (t, isOpen) => t.row candles (i + 1) isOpen

/-- The table of a report; without a trade it is empty. -/
def build (report : Option StrategyReport) (candles : List Candle) : TradeTable :=
  match report with
  | none => {}
  | some r =>
    if r.listed.isEmpty then {}
    else
      let rows := rowsOf candles r.listed
      let total := r.totalProfit candles
      { rows
        summary := toString rows.length ++ " trades | Net P/L: $" ++ Number.fixed2 total
        totalProfit := total }

end TradeTable

end MarketChart
