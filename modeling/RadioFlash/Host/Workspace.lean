import RadioFlash.Host.Machine
/-!
# The working directory

The files a command can reach: those of its working directory, given by their paths relative to
it, and the device paths of the machine. Directories are those that hold some file. One name of
the working directory, `ttyXB0`, may lead to a pseudo-terminal whose other end a device holds.

A path is read the way the operating system reads it, part by part from the working directory:
empty parts are skipped, and every part but the last must lead to a directory, `.` and `..`
included, so `..` goes up only from a directory that exists. Above the working directory lie
directories that hold nothing else a command can reach. A trailing slash asks for a directory.
Absolute paths under the working directory's own name lead into it; other absolute paths lead to
the machine's device paths, to `/dev/null`, or to files kept by their absolute path. The empty
path leads nowhere. Failures carry the system's text and number.
-/

namespace RadioFlash

/-- Why the operating system refused a path or a read. -/
inductive FileFault where
  | notFound
  | notADirectory
  | isADirectory
  /-- A file read as text was not valid UTF-8. -/
  | notText
deriving DecidableEq, Inhabited, Repr

namespace FileFault

/-- The system's text for the fault. -/
def text : FileFault → String
  | notFound => "No such file or directory (os error 2)"
  | notADirectory => "Not a directory (os error 20)"
  | isADirectory => "Is a directory (os error 21)"
  | notText => "stream did not contain valid UTF-8"

/-- The serial driver's text for the fault, when a port is opened at the path. -/
def portText : FileFault → String
  | notFound => "No such file or directory"
  | notADirectory => "Not a directory"
  | isADirectory => "Is a directory"
  | notText => "Not a typewriter"

end FileFault

/-- What a path leads to. -/
inductive Entry where
  | file (bytes : ByteArray)
  | directory
  /-- The pseudo-terminal link. -/
  | terminal
  /-- A device path of the machine. -/
  | device (e : Endpoint)

/-- The name of the pseudo-terminal link. -/
def terminalLink : String := "ttyXB0"

/-- The files a command can reach. -/
structure Workspace where
  /-- Files by their parts relative to the working directory, with their bytes. -/
  files : List (List String × ByteArray) := []
  /-- `ttyXB0` leads to a pseudo-terminal. -/
  hasTerminal : Bool := false
  /-- The name under which the working directory appears in absolute paths. -/
  root : String := "$TMP"
  /-- The machine's device paths. -/
  machine : Machine := Machine.withOnboardPort

/-- The part standing for a step above the working directory; no file part can equal it, since
it holds a slash. -/
def abovePart : String := "/.."

/-- The part standing for the top of the file system, first among the parts of a file kept by
its absolute path; no relative path has it, since it holds a slash. -/
def topPart : String := "/"

/-- The parts of a path, empty ones left out, and whether it ends with a slash. -/
def pathParts (path : String) : List String × Bool :=
  let parts := (path.splitOn "/").filter (fun p => !p.isEmpty)
  (parts, path.endsWith "/" && !parts.isEmpty)

/-- The directory above a place given by its parts: above the working directory and the
directories over it lie further directories, and the top of the file system is its own parent. -/
def parentOf (place : List String) : List String :=
  match place.getLast? with
  | none => [abovePart]
  | some last => if last == abovePart then place ++ [abovePart]
    else if place == [topPart] then place else place.dropLast

namespace Workspace

/-- The parts under which a file at this path is kept: a relative path's parts, with `.` and
`..` taken as written by the harness, or the parts after the top for an absolute one. -/
def keyOf (path : String) : List String :=
  let parts := (pathParts path).1.filter (· != ".")
  if path.startsWith "/" then topPart :: parts else parts

/-- Add a file, at a path relative to the working directory or an absolute one. -/
def addFile (w : Workspace) (path : String) (bytes : ByteArray) : Workspace :=
  { w with files := w.files ++ [(keyOf path, bytes)] }

/-- Some file lies under these parts, so they name a directory. -/
def isDirectory (w : Workspace) (parts : List String) : Bool :=
  w.files.any (fun f => f.1.length > parts.length && f.1.take parts.length == parts)

/-- The file at exactly these parts. -/
def fileAt? (w : Workspace) (parts : List String) : Option ByteArray :=
  (w.files.find? (·.1 == parts)).map (·.2)

/-- What stands at a place: a file, the pseudo-terminal link, a directory, or nothing. -/
def entryAt? (w : Workspace) (place : List String) : Option Entry :=
  match w.fileAt? place with
  | some bytes => some (.file bytes)
  | none =>
    if place == [terminalLink] && w.hasTerminal then some .terminal
    else if place.all (· == abovePart) || place == [topPart] || place == [topPart, "dev"] ||
        w.isDirectory place then
      some .directory
    else none

/-- Follow the parts of a path from the directory at `place`: each part but the last must lead
to a directory, and a trailing slash asks the last to be one too. -/
def walk (w : Workspace) (trailing : Bool) (place : List String) :
    List String → Except FileFault Entry
  | [] => .ok .directory
  | part :: rest =>
    let next := if part == "." then place else if part == ".." then parentOf place
      else place ++ [part]
    match w.entryAt? next, rest with
    | none, _ => .error .notFound
    | some .directory, [] => .ok .directory
    | some .directory, _ => walk w trailing next rest
    | some e, [] => if trailing then .error .notADirectory else .ok e
    | some _, _ => .error .notADirectory

/-- What a path leads to. -/
def lookup (w : Workspace) (path : String) : Except FileFault Entry :=
  if path.isEmpty then .error .notFound
  else if path == w.root || path.startsWith (w.root ++ "/") then
    let (parts, trailing) := pathParts (String.ofList (path.toList.drop w.root.length))
    walk w trailing [] parts
  else if path.startsWith "/" then
    match w.machine.devices.find? (·.1 == path) with
    | some (_, e) => .ok (.device e)
    | none =>
      match path with
      | "/dev/null" => .ok (.file ByteArray.empty)
      | "/" | "/dev" | "/dev/" => .ok .directory
      | _ =>
        let (parts, trailing) := pathParts path
        walk w trailing [topPart] parts
  else
    let (parts, trailing) := pathParts path
    walk w trailing [] parts

/-- Something exists at the path. -/
def present (w : Workspace) (path : String) : Bool :=
  (w.lookup path).toBool

/-- What reading a whole file gives. -/
inductive ReadResult where
  | bytes (b : ByteArray)
  | fault (f : FileFault)
  /-- The read waits for input that never comes. -/
  | blocks

/-- Read a whole file. -/
def readFile (w : Workspace) (path : String) : ReadResult :=
  match w.lookup path with
  | .error f => .fault f
  | .ok (.file b) => .bytes b
  | .ok .directory => .fault .isADirectory
  | .ok .terminal => .blocks
  | .ok (.device _) => .blocks

/-- What a serial port opened at the path would lead to. -/
def endpoint (w : Workspace) (path : String) (terminal : Terminal) : Endpoint :=
  match w.lookup path with
  | .ok (.device e) => e
  | .ok .terminal => .terminal terminal
  | .ok (.file _) => .file
  | .ok .directory => .directory
  | .error .notADirectory => .refused FileFault.notADirectory.portText
  | .error _ => .missing

end Workspace

end RadioFlash
