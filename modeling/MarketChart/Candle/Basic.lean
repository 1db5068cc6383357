import MarketChart.Json.Decode

/-!
# Candles

A `RawCandle` is a price record as a provider sends it: any field may be missing or hold any
value. A `Candle` is a record in canonical form, at a time in seconds.
-/

namespace MarketChart

/-- A candle in canonical form. -/
structure Candle where
  /-- Seconds since the epoch. -/
  time : Int
  opening : Float
  high : Float
  low : Float
  closing : Float
  volume : Float
deriving DecidableEq, Inhabited

namespace Candle

/-- The price rose. -/
def isBullish (c : Candle) : Bool := c.opening < c.closing

/-- Reads a candle. -/
def decode? (v : Json) : Option Candle := do
  let fields ← v.record? ["time", "open", "high", "low", "close", "volume"]
  return {
    time := ← fields.required "time" Json.int64?
    opening := ← fields.required "open" Json.float?
    high := ← fields.required "high" Json.float?
    low := ← fields.required "low" Json.float?
    closing := ← fields.required "close" Json.float?
    volume := ← fields.required "volume" Json.float? }

/-- Writes a candle. -/
def encode (c : Candle) : Json :=
  .obj [("time", .int c.time), ("open", .ofFloat c.opening), ("high", .ofFloat c.high),
    ("low", .ofFloat c.low), ("close", .ofFloat c.closing), ("volume", .ofFloat c.volume)]

end Candle

/-- A price record as it was received. -/
structure RawCandle where
  /-- Milliseconds since the epoch. -/
  openTime : Option Json := none
  /-- Seconds since the epoch. -/
  time : Option Json := none
  opening : Option Json := none
  high : Option Json := none
  low : Option Json := none
  closing : Option Json := none
  volume : Option Json := none
deriving Inhabited

namespace RawCandle

/-- A value for a number; there is none for infinities and not-a-number. -/
def field (x : Float) : Option Json := some (.ofFloat x)

/-- The record of plain numbers. -/
def ofNumbers (ms : Int) (opening high low closing volume : Float) : RawCandle where
  openTime := some (.int ms)
  opening := field opening
  high := field high
  low := field low
  closing := field closing
  volume := field volume

/-- A field as a number, when it holds one. -/
def number? (v : Option Json) : Option Float := v.bind Json.number?

/-- A field as a finite number, when it holds one. -/
def finite? (v : Option Json) : Option Float := (number? v).filter Float.isFinite

/-- The time in seconds, rounded down: from the milliseconds of `openTime` if these are usable,
else from `time`. -/
def seconds? (r : RawCandle) : Option Int :=
  match finite? r.openTime with
  | some ms => some (Number.clampWord (Number.floor (ms / 1000.0)))
  | none => (finite? r.time).map fun s => Number.clampWord (Number.floor s)

/-- Reads a record; every field takes any value. -/
def decode? (v : Json) : Option RawCandle := do
  let fields ← v.record? ["openTime", "time", "open", "high", "low", "close", "volume"]
  return {
    openTime := ← fields.withDefault "openTime" Json.raw? none
    time := ← fields.withDefault "time" Json.raw? none
    opening := ← fields.withDefault "open" Json.raw? none
    high := ← fields.withDefault "high" Json.raw? none
    low := ← fields.withDefault "low" Json.raw? none
    closing := ← fields.withDefault "close" Json.raw? none
    volume := ← fields.withDefault "volume" Json.raw? none }

/-- Writes a record. An absent time is left out, an absent price is `null`. -/
def encode (r : RawCandle) : Json :=
  .obj (Json.ofPresent "openTime" id r.openTime ++ Json.ofPresent "time" id r.time ++
    [("open", .ofOption id r.opening), ("high", .ofOption id r.high), ("low", .ofOption id r.low),
      ("close", .ofOption id r.closing), ("volume", .ofOption id r.volume)])

end RawCandle

end MarketChart
