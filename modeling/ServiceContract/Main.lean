import ServiceContract.Command.Run

/-!
# The program

Runs a command on the file system.
-/

open ServiceContract

/-- The environment variables that options may come from. -/
def environmentNames : List String :=
  Arguments.generateValues.filterMap (·.fallback)

/-- Files of the file system. Log records are dropped. -/
def systemFiles : Files IO where
  read path := do
    try
      let bytes ← IO.FS.readBinFile path
      pure (.ok bytes.toList)
    catch e => pure (.error (toString e))
  write path contents := do
    try
      let parent := Path.parent path
      if !parent.isEmpty then IO.FS.createDirAll parent
      IO.FS.writeFile path contents
      pure (.ok ())
    catch e => pure (.error (toString e))
  log _ := pure ()

def main (arguments : List String) : IO UInt32 := do
  let environment ← environmentNames.filterMapM fun name => do
    pure ((← IO.getEnv name).map fun value => (name, value))
  let outcome ← runCommand systemFiles environment arguments
  IO.print outcome.output
  IO.eprint outcome.errors
  pure outcome.exit.toUInt32
