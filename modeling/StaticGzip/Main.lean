import StaticGzip.Network

/-! # The command line

The program reads its environment, its arguments and its configuration file, starts the server, and
runs it until a signal stops it. -/

namespace StaticGzip.CommandLine

/-- The entries of a list of the system, each of which ends with a zero. -/
def entries (list : String) : IO (List (List UInt8)) := do
  let content ← IO.FS.readBinFile list
  return (content.data.toList.splitOn 0).dropLast

/-- What the process is given. -/
def process : IO Process := do
  let arguments ← entries "/proc/self/cmdline"
  let environment ← entries "/proc/self/environ"
  return ⟨arguments.map .ofBytes, environment.filterMap Process.variableOf?⟩

/-- As many items no array has, 2 to the power of 57. -/
def tooMany : Int := 144115188075855872

/-- What the program starts with, if it binds its port in a given way. Every text is taken for a
regular expression, since none of them is ever compared with anything. -/
def surroundings (files : FileSystem) (process : Process) (bound : Except IoError Unit) :
    Surroundings where
  files := files
  process := process
  foreign := fun _ => none
  outOfReach := fun length n => length + n < 0 || tooMany ≤ n
  patterns := fun _ => .ok ()
  workers := fun _ => .ok ()
  bind := fun _ => bound.mapError .error

/-- Writes what a program that ends has to say, and gives its code. -/
def finish (ended : Server.Ended) : IO UInt32 := do
  for line in ended.report.getD [] do
    IO.eprintln line
  return ended.code

end StaticGzip.CommandLine

open StaticGzip in
/-- Starts the server and runs it until a signal stops it. -/
def main : IO UInt32 := do
  let process ← CommandLine.process
  let files ← Network.filesAt (Config.candidates (Config.fileNameOf process))
  let launch (bound : Except IoError Unit) := start (CommandLine.surroundings files process bound)
  match (launch (.ok ())).result with
  | .ok server =>
    match ← Network.attempt (Network.listen server.addr) with
    | .ok listener =>
      Network.run server (launch (.ok ())).events listener
      return 0
    | .error e => CommandLine.finish (Server.endOf (launch (.error e)) .terminate)
  | .error _ => CommandLine.finish (Server.endOf (launch (.ok ())) .terminate)
