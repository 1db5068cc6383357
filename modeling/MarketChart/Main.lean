import MarketChart.Dashboard.Screen
import MarketChart.Startup

/-!
# The program

Reads the command line, the environment and the files, and runs the dashboard on lines of keys:
every character of a line is a key, and the end of a line is the boundary of a frame.
-/

namespace MarketChart

/-- The text of a file, if it can be read. -/
def readText? (path : String) : IO (Option String) := do
  try return String.fromUTF8? (← IO.FS.readBinFile path)
  catch _ => return none

/-- There is something under a path. -/
def stands (path : String) : IO Bool := do
  try
    discard (IO.FS.realPath path)
    return true
  catch _ => return false

/-- Makes a folder, if it can be made. -/
def makeFolder (path : String) : IO Bool := do
  try
    IO.FS.createDirAll path
    return true
  catch _ => return false

/-- The texts under paths, each with its path. -/
def readAll (paths : List String) : IO (List (String × Option String)) :=
  paths.mapM fun path => return (path, ← readText? path)

/-- The documents of a source: the chart document, and that of its strategy. -/
def readDocuments : SourceKind → IO (List (String × Option String))
  | .web _ => return []
  | .folder path => do
    let texts ← readAll [joinPath path documentName]
    match ChartDocument.ofFolder (fun p => (texts.lookup p).join) path with
    | .error _ => return texts
    | .ok document =>
      let strategy := strategyDocumentName document.metadata.strategyName
      return texts ++ (← readAll [joinPath path strategy])

/-- What the program finds around it, as far as the command line needs it. -/
def lookAround (arguments : List String) : IO Surroundings := do
  let home ← IO.getEnv "HOME"
  let settingsFolder := userFolder? (← IO.getEnv "XDG_CONFIG_HOME") home ".config"
  let dataFolder := userFolder? (← IO.getEnv "XDG_DATA_HOME") home ".local/share"
  let request := Request.ofArguments settingsFolder arguments
  let logged ← makeFolder (logFolder dataFolder)
  let texts := (← readAll [request.settingsPath]) ++ (← readDocuments request.source)
  let settingsThere ← stands request.settingsPath
  return {
    read := fun p => (texts.lookup p).join
    isThere := fun _ => settingsThere
    canMakeFolder := fun _ => logged
    settingsFolder, dataFolder
    stamp := toString (← IO.monoMsNow)
    terminal := ← (← IO.getStdin).isTty }

/-- The keys of a line. -/
def keysOf (line : String) : List Input :=
  line.toList.map fun
    | '\n' => .tick
    | '\t' => .key .tab
    | '\x1b' => .key .escape
    | c => .key (.char c)

/-- Draws the dashboard and takes in lines until the user quits. -/
partial def runDashboard (arguments : List String) (width : Nat) (d : Dashboard) : IO Unit := do
  let output ← IO.getStdout
  output.putStr (Screen.ofDashboard width d).text
  output.flush
  let line ← (← IO.getStdin).getLine
  if line.isEmpty then return
  let s ← lookAround arguments
  let feed := s.feed (s.request arguments).source
  let d := (keysOf line).foldl (·.attend feed ·) d
  if d.running then runDashboard arguments width d

end MarketChart

open MarketChart in
def main (arguments : List String) : IO UInt32 := do
  let started := (← lookAround arguments).start arguments
  (← IO.getStderr).putStr started.warnings
  (← IO.getStdout).putStr started.output
  match started.result with
  | .error f =>
    (← IO.getStderr).putStr f.report
    return 1
  | .ok chart =>
    runDashboard arguments chart.width { chart }
    return 0
