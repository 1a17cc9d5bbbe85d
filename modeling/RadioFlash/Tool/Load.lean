import RadioFlash.Tool.Settings
import RadioFlash.Host.Workspace
/-!
# Finding and reading settings files

Without `--config`, settings come from two files, each optional: the user's, at
`$XDG_CONFIG_HOME/xbflash/config.toml` when that variable holds an absolute path and otherwise
`$HOME/.config/xbflash/config.toml`, then `xbflash.toml` in the working directory, which wins.
With `--config`, only the named file is read, and its absence is a warning.

A file that does not exist is skipped silently; one that cannot be read or parsed is skipped
with a warning that says why. Reading a terminal waits forever.
-/

namespace RadioFlash.Tool

/-- Where settings notes come from. -/
def settingsOrigin : String := "xbflash::config"

/-- What reading a settings file gives. -/
inductive Loaded where
  /-- The settings, or none when the file is absent or unusable. -/
  | found (s : Option Settings)
  /-- The read waits forever. -/
  | stalls

/-- A warning about a settings file. -/
def settingsWarning (text : String) : Note :=
  { level := .warn, origin := settingsOrigin, text }

/-- Read one settings file, with the notes it gives. -/
def loadFile (ws : Workspace) (path : String) : Loaded × List Note :=
  if !ws.present path then (.found none, [])
  else match ws.readFile path with
    | .blocks => (.stalls, [])
    | .fault f => (.found none, [settingsWarning ("Failed to read config file " ++ path ++ ": " ++ f.text)])
    | .bytes b =>
      match String.fromUTF8? b with
      | none => (.found none, [settingsWarning ("Failed to read config file " ++ path ++ ": " ++
          FileFault.notText.text)])
      | some text =>
        match Settings.parse text with
        | .ok s => (.found (some s), [])
        | .error c => (.found none, [settingsWarning ("Failed to parse config file " ++ path ++ ": " ++
            c.render text)])

/-- Join a directory and a name with one slash. -/
def joinPath (dir name : String) : String :=
  if dir.endsWith "/" then dir ++ name else dir ++ "/" ++ name

/-- The user's settings file, or none when the home directory is unknown here. -/
def userSettingsPath (env : String → Option String) : Option String :=
  let home := (env "HOME").filter (!·.isEmpty)
  let base := match (env "XDG_CONFIG_HOME").filter (·.startsWith "/") with
    | some dir => some dir
    | none => home.map (joinPath · ".config")
  match home, base with
  | none, _ => none
  | some _, none => none
  | some _, some dir => some (joinPath (joinPath dir "xbflash") "config.toml")

/-- A debug note of the settings loader. -/
def settingsNote (text : String) : Note :=
  { level := .debug, origin := settingsOrigin, text }

/-- Load the settings: from `--config` when given, else the user's file then the local one. -/
def loadSettings (ws : Workspace) (env : String → Option String) (config : Option String) :
    Loaded × List Note :=
  match config with
  | some path =>
    match loadFile ws path with
    | (.found (some s), ns) => (.found (some s), ns ++ [settingsNote ("Loaded config from " ++ path)])
    | (.found none, ns) =>
      (.found (some {}), ns ++ [settingsWarning ("Could not load config from " ++ path ++ ", using defaults")])
    | (.stalls, ns) => (.stalls, ns)
  | none =>
    let (user, userNotes) : Loaded × List Note := match userSettingsPath env with
      | some path =>
        match loadFile ws path with
        | (.found (some s), ns) => (.found (some s), ns ++ [settingsNote ("Loaded global config from " ++ path)])
        | other => other
      | none => (.found none, [])
    match user with
    | .stalls => (.stalls, userNotes)
    | .found u =>
      match loadFile ws "xbflash.toml" with
      | (.stalls, ns) => (.stalls, userNotes ++ ns)
      | (.found l, ns) =>
        let base := u.getD {}
        let localNotes := ns ++ (if l.isSome then [settingsNote "Loaded local config from xbflash.toml"] else [])
        (.found (some (base.merge (l.getD {}))), userNotes ++ localNotes)

end RadioFlash.Tool
