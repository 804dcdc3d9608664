import ModeChoice.Commute.Report

/-!
# The commute on the command line

Runs the scenario with the configuration in the file that is named as the first
argument, or else with the standard one, prints the report, and writes the two
files below the current directory.
-/

open ModeChoice

/-- A path with the bytes of its file, if they can be read. -/
def readConfigFile (path : String) : IO (String × Option ByteArray) := do
  try
    return (path, some (← IO.FS.readBinFile path))
  catch _ => return (path, none)

/-- Prints what a failure says, and tells that the program failed. -/
def reportFailure (failure : Commute.Failure) : IO UInt32 := do
  failure.lines.forM fun line => IO.eprintln line
  return 1

/-- The seconds since a moment of the program's clock, with three places. -/
def secondsSince (start : Nat) : IO String := do
  return Number.fixed 3 (Float.ofNat ((← IO.monoMsNow) - start) / 1000)

/-- The run of a configuration. -/
def runCommute (config : Config) (tours : List Tour) : IO UInt32 := do
  (Commute.openingLines config tours).forM fun line => IO.println line
  IO.FS.createDirAll Commute.outputDirectory
  let start ← IO.monoMsNow
  match Commute.run config tours with
  | .error failure => reportFailure failure
  | .ok report =>
      IO.FS.writeFile Commute.rowsPath report.rows
      IO.println ("Selection complete in " ++ (← secondsSince start) ++ " s")
      report.complaints.forM fun line => IO.eprintln line
      report.lines.forM fun line => IO.println line
      IO.FS.writeFile Commute.summaryPath report.summary
      return 0

def main (arguments : List String) : IO UInt32 := do
  let source ← arguments.head?.mapM readConfigFile
  match Commute.configOf source, Commute.tours.mapError Commute.Failure.tour with
  | .error failure, _ => reportFailure failure
  | .ok _, .error failure => reportFailure failure
  | .ok config, .ok tours => runCommute config tours
