import MarketChart.Json.Decode

/-!
# Indicators

An indicator is a series of samples at times in milliseconds, with an optional pane, title and
style. A sample is displayed unless it is hidden, by its own flag or by a colour that is
explicitly none.
-/

namespace MarketChart

/-- What the options of a sample say about its colour. -/
inductive Tint where
  | unset
  /-- A colour that is explicitly none: the sample is hidden. -/
  | hidden
  | colored (color : String)
deriving DecidableEq, Inhabited

namespace Tint

/-- Reads the colour of a sample. -/
def decodeColor? (v : Json) : Option Tint :=
  (Json.nullable? Json.text? v).map fun
    | none => .hidden
    | some color => .colored color

/-- Reads the options of a sample. -/
def decode? (v : Json) : Option Tint := do
  let fields ← v.record? ["color"]
  fields.withDefault "color" decodeColor? .unset

/-- Writes the options of a sample; a colour that is unset or none is `null`. -/
def encode : Tint → Json
  | .colored color => .obj [("color", .str color)]
  | _ => .obj [("color", .null)]

end Tint

/-- A sample of an indicator. -/
structure Sample where
  /-- Milliseconds since the epoch. -/
  time : Int
  value : Option Float := none
  visible : Bool := true
  tint : Option Tint := none
deriving DecidableEq, Inhabited

namespace Sample

/-- The sample is drawn if its value allows. -/
def isDisplayed (s : Sample) : Bool := s.visible && s.tint != some .hidden

/-- Reads a sample. -/
def decode? (v : Json) : Option Sample := do
  let fields ← v.record? ["time", "value", "visible", "options"]
  return {
    time := ← fields.required "time" Json.int64?
    value := ← fields.withDefault "value" Json.lenient? none
    visible := ← fields.withDefault "visible" Json.bool? true
    tint := ← fields.optional "options" Tint.decode? }

/-- Writes a sample; absent options are left out. -/
def encode (s : Sample) : Json :=
  .obj ([("time", .int s.time), ("value", .ofOption .ofFloat s.value),
    ("visible", .bool s.visible)] ++ Json.ofPresent "options" Tint.encode s.tint)

end Sample

/-- How a series is drawn. -/
inductive PlotKind where
  | line
  | histogram
deriving DecidableEq, Inhabited

namespace PlotKind

/-- The kinds by name. -/
def names : List (String × PlotKind) := [("line", .line), ("histogram", .histogram)]

/-- The kind of a style: a histogram if it is so named, else a line. -/
def ofStyle (style : Option String) : PlotKind :=
  if style == some "histogram" then .histogram else .line

/-- The name of a kind. -/
def name : PlotKind → String
  | .line => "line"
  | .histogram => "histogram"

/-- Reads a kind. -/
def decode? : Json → Option PlotKind := Json.choice? names

/-- Writes a kind. -/
def encode (k : PlotKind) : Json := .str k.name

end PlotKind

/-- The style that an indicator declares. -/
structure SeriesStyle where
  kind : Option String := none
  color : Option String := none
  lineWidth : Option Float := none
deriving DecidableEq, Inhabited

namespace SeriesStyle

/-- Reads a style; `style` is a second name of `kind`. -/
def decode? (v : Json) : Option SeriesStyle := do
  let fields ← (v.renamed "style" "kind").record? ["kind", "color", "lineWidth"]
  return {
    kind := ← fields.optional "kind" Json.text?
    color := ← fields.optional "color" Json.text?
    lineWidth := ← fields.optional "lineWidth" Json.float? }

/-- Writes a style; absent fields are left out. -/
def encode (s : SeriesStyle) : Json :=
  .obj (Json.ofPresent "kind" .str s.kind ++ Json.ofPresent "color" .str s.color ++
    Json.ofPresent "lineWidth" .ofFloat s.lineWidth)

end SeriesStyle

/-- An indicator. -/
structure Indicator where
  data : List Sample := []
  pane : Option String := none
  title : Option String := none
  style : SeriesStyle := {}
deriving Inhabited

namespace Indicator

/-- The pane that the indicator asks for; an empty name asks for none. -/
def declaredPane (i : Indicator) : Option String := i.pane.filter (· ≠ "")

/-- Reads an indicator. -/
def decode? (v : Json) : Option Indicator := do
  let fields ← v.record? ["data", "pane", "title", "style"]
  return {
    data := ← fields.withDefault "data" (Json.list? Sample.decode?) []
    pane := ← fields.optional "pane" Json.text?
    title := ← fields.optional "title" Json.text?
    style := ← fields.withDefault "style" SeriesStyle.decode? {} }

/-- Writes an indicator; an absent pane or title is left out. -/
def encode (i : Indicator) : Json :=
  .obj ([("data", .ofList Sample.encode i.data)] ++ Json.ofPresent "pane" .str i.pane ++
    Json.ofPresent "title" .str i.title ++ [("style", i.style.encode)])

end Indicator

end MarketChart
