import MarketChart.Json.Reader
import MarketChart.Settings
import MarketChart.Source.Feed

/-!
# Documents in files

A folder holds the chart document and the overrides of strategies. The functions here take the
reading of files as an argument: it gives the text under a path, or `none` if there is none or it
cannot be read.
-/

namespace MarketChart

/-- The name of the chart document. -/
def documentName : String := "chart-data.json"

/-- The name of a strategy's document. -/
def strategyDocumentName (strategy : String) : String := strategy ++ ".config"

/-- A path within a folder; an absolute path stands for itself. -/
def joinPath (folder name : String) : String :=
  if name.startsWith "/" || folder.isEmpty then name
  else if folder.endsWith "/" then folder ++ name
  else folder ++ "/" ++ name

/-- Reads a text as the JSON of a value. -/
def ofJsonText? {α : Type} (decode : Json → Option α) (text : String) : Option α :=
  (Json.read? text).bind decode

/-- The value in a file, with what to say of a file that cannot be read or does not hold one. -/
def ofFile {α : Type} (read : String → Option String) (decode : Json → Option α) (path : String)
    (reading parsing : Context) : Except Failure α :=
  match read path with
  | none => .error ⟨[reading], .unreadable⟩
  | some text =>
    match ofJsonText? decode text with
    | none => .error ⟨[parsing], .malformed⟩
    | some a => .ok a

/-- The chart document of a folder. -/
def ChartDocument.ofFolder (read : String → Option String) (folder : String) :
    Except Failure ChartDocument :=
  let path := joinPath folder documentName
  ofFile read ChartDocument.decode? path (.readingFile path) (.parsingFile path)

/-- The overrides in a strategy's document; a document that does not hold any gives none. -/
def Overrides.ofText? (text : String) : Option Overrides :=
  (ofJsonText? StrategyConfig.decode? text).bind StrategyConfig.indicators

/-- The overrides of a strategy in a folder. -/
def Overrides.ofFolder? (read : String → Option String) (folder strategy : String) :
    Option Overrides :=
  (read (joinPath folder (strategyDocumentName strategy))).bind Overrides.ofText?

/-- What a folder gives for one load. -/
def Delivery.ofFolder (read : String → Option String) (folder : String) : Delivery where
  document := ChartDocument.ofFolder read folder
  overrides := Overrides.ofFolder? read folder

/-- The settings in a file. -/
def Settings.ofFile (read : String → Option String) (path : String) : Except Failure Settings :=
  MarketChart.ofFile read Settings.decode? path (.readingSettings path) (.parsingSettings path)

/-- The settings in a file, or the default ones if there is no file. -/
def Settings.ofFileOrDefault (read : String → Option String) (isThere : String → Bool)
    (path : String) : Except Failure Settings :=
  if isThere path then Settings.ofFile read path else .ok {}

end MarketChart
