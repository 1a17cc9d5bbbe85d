import RadioFlash.Tool.Run
/-!
# The `xbflash` program

The outer layer of the program: it reads the arguments, the variables the program looks at and the
files it may read, runs the pure program over them, and writes what the run wrote with its exit
code.

The files are read ahead: every argument that names a readable file, the local settings file and
the user's settings file. The machine lists no serial port here, so ports cannot be opened. A run
that would wait forever ends with code 1.
-/

namespace RadioFlash.Tool

/-- The environment variables the program reads. -/
def variablesRead : List String :=
  ["HOME", "XDG_CONFIG_HOME", "RUST_LOG", "RUST_LOG_STYLE", "NO_COLOR", "CLICOLOR_FORCE",
    "XBFLASH_PORT", "XBFLASH_KIND", "XBFLASH_NON_INTERACTIVE"]

/-- The paths a run may read: the arguments, the local settings file and the user's one. -/
def pathsRead (args : List String) (env : List (String × String)) : List String :=
  let lookup := fun n => (env.find? (·.1 == n)).map (·.2)
  args ++ ["xbflash.toml"] ++ (userSettingsPath lookup).toList

end RadioFlash.Tool

open RadioFlash Tool

/-- Add a file to the workspace if it can be read. -/
def keepFile (ws : Workspace) (path : String) : IO Workspace := do
  try
    let bytes ← IO.FS.readBinFile path
    pure (ws.addFile path bytes)
  catch _ =>
    pure ws

/-- Run the tool on the machine's arguments, environment and files; answer its exit code. -/
def main (args : List String) : IO UInt32 := do
  let env ← variablesRead.filterMapM fun n => do
    pure ((← IO.getEnv n).map (n, ·))
  let root := (← IO.getEnv "PWD").getD "."
  let mut ws : Workspace := { root, machine := { ports := [], devices := [] } }
  for path in pathsRead args env do
    ws ← keepFile ws path
  let ending := runProgram { args, env, workspace := ws, time := toString (← IO.monoMsNow) }
  IO.print ending.stdout
  IO.eprint ending.stderr
  pure (ending.code.getD 1).toUInt32
