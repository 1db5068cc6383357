import MarketChart.Dashboard.Basic
import MarketChart.Source.Web

/-!
# Starting the program

The program takes a source and a file of settings, both optional. It opens its log, reads the
settings, loads the chart and then takes over the terminal. A log that cannot be opened is only
worth a warning. What the program finds around it (`Surroundings`) is given, so that its start is
a function: `Surroundings.start`.
-/

namespace MarketChart

/-! ## The command line -/

/-- Where documents come from. -/
inductive SourceKind where
  | folder (path : String)
  | web (base : String)
deriving DecidableEq, Inhabited

/-- The source that an argument names: an address of the web, else a folder. -/
def SourceKind.ofArgument (s : String) : SourceKind :=
  if s.startsWith "http://" || s.startsWith "https://" then .web s else .folder s

/-- What the user asked for on the command line. -/
structure Request where
  source : SourceKind
  settingsPath : String
deriving DecidableEq, Inhabited

/-- The folder of the program among the user's folders of data and of settings. -/
def programFolder : String := "lazychart"

/-- A folder of the user: the one that is configured, if it is absolute, else the usual one in the
user's home. -/
def userFolder? (configured home : Option String) (usual : String) : Option String :=
  (configured.filter (·.startsWith "/")).or (home.map (joinPath · usual))

/-- The file of settings in the user's folder of settings. -/
def defaultSettingsPath : Option String → String
  | some folder => joinPath (joinPath folder programFolder) "config.json"
  | none => "lazychart.json"

/-- The folder of the log in the user's folder of data. -/
def logFolder : Option String → String
  | some folder => joinPath (joinPath folder programFolder) "logs"
  | none => "./logs"

/-- Reads the command line; arguments beyond the second are ignored. -/
def Request.ofArguments (settingsFolder : Option String) (arguments : List String) : Request where
  source := .ofArgument (arguments[0]?.getD ".")
  settingsPath := arguments[1]?.getD (defaultSettingsPath settingsFolder)

/-! ## The start -/

/-- What is printed before the chart is loaded. -/
def loadingLine : String := "📊 Chargement des données...\n"

/-- What is printed when the log cannot be opened. -/
def logWarning : String :=
  "⚠️  Warning: Failed to initialize logging: " ++ Cause.logDirectory.message ++
    "\n   Continuing without logging...\n"

/-- What the program finds around it. -/
structure Surroundings where
  /-- The text of a file, if it can be read. -/
  read : String → Option String
  /-- There is something under a path. -/
  isThere : String → Bool
  /-- A folder is there or can be made. -/
  canMakeFolder : String → Bool
  /-- The user's folder of settings. -/
  settingsFolder : Option String
  /-- The user's folder of data. -/
  dataFolder : Option String
  /-- The number at the end of addresses. -/
  stamp : String
  /-- There is a terminal to draw on. -/
  terminal : Bool

/-- How far the program came: its chart, or why there is none, and what it printed. -/
structure Started where
  result : Except Failure Chart
  output : String
  warnings : String
  /-- The log was opened. -/
  logged : Bool

namespace Surroundings

/-- The delivery of a source. -/
def delivery (s : Surroundings) : SourceKind → Delivery
  | .folder path => .ofFolder s.read path
  | .web base => .ofWeb base s.stamp

/-- The feed of a source. -/
def feed (s : Surroundings) (source : SourceKind) : Feed := fun _ => s.delivery source

/-- The request of a command line. -/
def request (s : Surroundings) (arguments : List String) : Request :=
  .ofArguments s.settingsFolder arguments

/-- The settings of a request. -/
def settings (s : Surroundings) (r : Request) : Except Failure Settings :=
  Settings.ofFileOrDefault s.read s.isThere r.settingsPath

/-- The chart that a load leaves, if it worked and there is a terminal to draw it on. -/
def opened (s : Surroundings) : Chart × Except Failure Unit → Except Failure Chart
  | (_, .error f) => .error f
  | (chart, .ok ()) => if s.terminal then .ok chart else .error ⟨[], .noTerminal⟩

/-- Runs the program until it has taken over the terminal. -/
def start (s : Surroundings) (arguments : List String) : Started :=
  let request := s.request arguments
  let logged := s.canMakeFolder (logFolder s.dataFolder)
  let warnings := if logged then "" else logWarning
  match s.settings request with
  | .error f => ⟨.error f, "", warnings, logged⟩
  | .ok settings =>
    ⟨s.opened (Chart.load (s.feed request.source) (.new settings)), loadingLine, warnings, logged⟩

end Surroundings

end MarketChart
