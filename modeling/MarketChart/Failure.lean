/-!
# Failures

A failure is a cause together with what was being done when it arose, from the outside in. Causes
and contexts are data; `Cause.message` and `Context.message` hold all their wording.
-/

namespace MarketChart

/-- The operations of a view that may be made to fail. -/
inductive Operation where
  | create
  | line
  | histogram
  | candlestick
  | setPoints
  | setCandles
  | removeSeries
  | setWindow
  | fit
  | setWidth
deriving DecidableEq, Inhabited

/-- The name of an operation. -/
def Operation.name : Operation → String
  | .create => "create"
  | .line => "line"
  | .histogram => "histogram"
  | .candlestick => "candlestick"
  | .setPoints => "set_points"
  | .setCandles => "set_candles"
  | .removeSeries => "remove_series"
  | .setWindow => "set_range"
  | .fit => "fit"
  | .setWidth => "width"

/-- All operations. -/
def Operation.all : List Operation :=
  [.create, .line, .histogram, .candlestick, .setPoints, .setCandles, .removeSeries, .setWindow,
    .fit, .setWidth]

/-- The operation of a name. -/
def Operation.ofName? (name : String) : Option Operation := all.find? (·.name == name)

/-- Why an operation failed. -/
inductive Cause where
  | viewRemoved (view : String)
  | seriesNotFound (id : Nat) (view : String)
  | windowRejected (view : String)
  | mainExists
  | paneExists (name : String)
  | mainMissing
  | paneDisappeared (name : String)
  /-- The operation was made to fail. -/
  | injected (operation : Operation)
  | sourceUnavailable
  /-- A text is not the JSON of what was expected. -/
  | malformed
  /-- A file cannot be read. -/
  | unreadable
  /-- A server cannot be reached. -/
  | unreachable
  /-- The log directory cannot be created. -/
  | logDirectory
  /-- There is no terminal to draw on. -/
  | noTerminal
deriving DecidableEq, Inhabited

/-- The wording of a cause. -/
def Cause.message : Cause → String
  | .viewRemoved view => s!"View '{view}' has been removed"
  | .seriesNotFound id view => s!"Series SeriesId({id}) not found in view '{view}'"
  | .windowRejected view => s!"View '{view}' rejected the visible range update"
  | .mainExists => "Main view already exists"
  | .paneExists name => s!"Pane '{name}' already exists"
  | .mainMissing => "Main view missing"
  | .paneDisappeared name => s!"Pane '{name}' disappeared"
  | .injected operation => "injected " ++ operation.name ++ " fault"
  | .sourceUnavailable => "Source unavailable"
  | .malformed => "malformed JSON"
  | .unreadable => "unreadable file"
  | .unreachable => "unreachable server"
  | .logDirectory => "Échec de la création du répertoire de logs"
  | .noTerminal => "no terminal"

/-- What was being done when something failed. -/
inductive Context where
  | loadingDocument
  | creatingMain
  | creatingPane (name : String)
  | addingCandles
  | loadingCandles
  | addingSeries (key pane : String)
  | removingSeries (key pane : String)
  | loadingSeries (key : String)
  | updatingWindow (pane : String)
  | readingFile (path : String)
  | parsingFile (path : String)
  | readingSettings (path : String)
  | parsingSettings (path : String)
  | requesting (url : String)
deriving DecidableEq, Inhabited

/-- The wording of a context. -/
def Context.message : Context → String
  | .loadingDocument => "Failed to load chart data"
  | .creatingMain => "Failed to create main view"
  | .creatingPane name => s!"Failed to create pane '{name}'"
  | .addingCandles => "Failed to add candlestick series"
  | .loadingCandles => "Failed to load candlestick data"
  | .addingSeries key pane => s!"Failed to add series '{key}' to pane '{pane}'"
  | .removingSeries key pane => s!"Failed to remove series '{key}' from pane '{pane}'"
  | .loadingSeries key => s!"Failed to load data for series '{key}'"
  | .updatingWindow pane => s!"Failed to update range of pane '{pane}'"
  | .readingFile path => s!"Failed to read {path}"
  | .parsingFile path => s!"Failed to parse {path}"
  | .readingSettings path => s!"Failed to read config file {path}"
  | .parsingSettings path => s!"Invalid config file {path}"
  | .requesting url => s!"HTTP request to {url} failed"

/-- A cause with its contexts, the outermost first. -/
structure Failure where
  contexts : List Context := []
  cause : Cause
deriving DecidableEq, Inhabited

namespace Failure

/-- The failure as seen from further out. -/
def within (f : Failure) (context : Context) : Failure :=
  { f with contexts := context :: f.contexts }

/-- The outermost message. -/
def headline (f : Failure) : String :=
  match f.contexts with
  | [] => f.cause.message
  | context :: _ => context.message

/-- All messages, from the outside in. -/
def messages (f : Failure) : List String :=
  f.contexts.map Context.message ++ [f.cause.message]

/-- The report of a failure that ends the program: the outermost message, and what caused it. -/
def report (f : Failure) : String :=
  let causes := f.messages.drop 1
  let lines := match causes with
    | [cause] => ["    " ++ cause]
    | _ => causes.mapIdx fun i cause => s!"    {i}: " ++ cause
  let head := "Error: " ++ f.headline ++ "\n"
  if lines.isEmpty then head else head ++ "\nCaused by:\n" ++ "\n".intercalate lines ++ "\n"

end Failure

/-- A result of one step, seen from further out. -/
def inContext {α : Type} (context : Context) : Except Cause α → Except Failure α
  | .error cause => .error ⟨[context], cause⟩
  | .ok a => .ok a

end MarketChart
