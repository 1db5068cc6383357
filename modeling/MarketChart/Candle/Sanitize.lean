import MarketChart.Candle.Basic

/-!
# Cleaning raw candles

`RawCandle.isValid` says which records make a candle, and `RawCandle.normalize?` is the candle
they make. `sanitize` keeps the valid records of a list, in order.
-/

namespace MarketChart

/-- The four prices of a record. -/
structure Prices where
  opening : Float
  high : Float
  low : Float
  closing : Float

namespace Prices

/-- The highest price. -/
def max (p : Prices) : Float :=
  Number.larger (Number.larger (Number.larger p.opening p.high) p.low) p.closing

/-- The lowest price. -/
def min (p : Prices) : Float :=
  Number.smaller (Number.smaller (Number.smaller p.opening p.high) p.low) p.closing

/-- A finite number above zero. -/
def isPositive (x : Float) : Bool := x.isFinite && 0.0 < x

/-- All four prices are finite and above zero. -/
def allPositive (p : Prices) : Bool :=
  isPositive p.opening && isPositive p.high && isPositive p.low && isPositive p.closing

end Prices

namespace RawCandle

/-- The volume of a record that states no usable one. -/
def defaultVolume : Float := 1000.0

/-- The prices of a record, when all four are numbers. -/
def prices? (r : RawCandle) : Option Prices := do
  return ⟨← number? r.opening, ← number? r.high, ← number? r.low, ← number? r.closing⟩

/-- The record makes a candle: four finite positive prices, of which the high is the highest and
the low the lowest, and a time. -/
def isValid (r : RawCandle) : Bool :=
  match r.prices? with
  | none => false
  | some p => p.allPositive && p.max == p.high && p.min == p.low && r.seconds?.isSome

/-- The volume of a record; a missing, infinite or non-positive one gives way to the default. -/
def volumeOrDefault (r : RawCandle) : Float :=
  ((number? r.volume).filter Prices.isPositive).getD defaultVolume

/-- The candle of a record with four prices and a time. High and low are the extremes of the four
prices. -/
def normalize? (r : RawCandle) : Option Candle := do
  let p ← r.prices?
  let time ← r.seconds?
  return ⟨time, p.opening, p.max, p.min, p.closing, r.volumeOrDefault⟩

end RawCandle

/-- The candles of the valid records, in order. -/
def sanitize (raw : List RawCandle) : List Candle :=
  (raw.filter RawCandle.isValid).filterMap RawCandle.normalize?

/-- Candles by time; those of one time keep their order. -/
def sortByTime (candles : List Candle) : List Candle :=
  candles.mergeSort fun a b => a.time ≤ b.time

end MarketChart
