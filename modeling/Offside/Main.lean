import Offside.Cli.Run

/-! The program: reads the files that the arguments name and prints what the run leaves behind. -/

namespace Offside

/-- The content of a file of the real file system, if there is one. -/
def readContent (path : String) : IO (Option FileContent) := do
  try return some (.ofBytes (← IO.FS.readBinFile path))
  catch _ => return none

end Offside

def main (arguments : List String) : IO UInt32 := do
  let invocation := Offside.Cli.Invocation.ofArguments arguments
  let found ← invocation.paths.mapM fun path => return (path, ← Offside.readContent path)
  let ending := invocation.carryOut fun path => (found.lookup path).join
  (← IO.getStdout).putStr ending.stdout
  (← IO.getStderr).putStr ending.stderr
  return ending.code
