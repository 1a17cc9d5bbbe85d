import RadioFlash.CommandLine.Help
import RadioFlash.CommandLine.Complaint
import RadioFlash.Text.Similarity
/-!
# Reading a command line

The words after the program's name are read left to right, first by the program itself, then,
from the subcommand's name on, by the subcommand.

* `--name` and `--name=value` are long options, `-abc` a cluster of short ones; in a cluster, an
  option taking a value takes the rest of the cluster (less a leading `=`), or else the next
  word, unless that word is itself an option.
* `--` ends the options: every later word is an operand. The word read before it is checked
  only when the next operand finds its place, or at the end, so an option still waiting for its
  value there is reported only then; an operand with no place is reported first.
* `-h`, `--help`, `-V` and `--version` stop reading and show a page; `--help` asks for the long
  help page.
* A value is checked when the next word is read, or at the end, so a later option can show a
  page only once the value before it was accepted; an unknown option is reported whatever the
  value before it.
* After the words, options not given take their environment variable, then missing operands or a
  missing subcommand are reported. Nothing at all shows the help page as a complaint.
* Giving a switch or a valued option twice to the same command is refused. For an option given to
  both the program and the subcommand, the command line beats the environment, and at equal
  footing the subcommand's wins.

`help` followed by subcommand names shows the long page of the last one named.
-/

namespace RadioFlash.CommandLine

open Text

/-- Where an option's value came from. -/
inductive Source where
  | environment
  | commandLine
deriving DecidableEq, Inhabited, Repr

/-- Precedence of a source: the command line beats the environment. -/
def Source.rank : Source → Nat
  | .environment => 1
  | .commandLine => 2

/-- What one option received at one command. -/
structure Given where
  key : String
  source : Source
  /-- How often it was given; counted options add these up. -/
  uses : Nat := 1
  /-- The value, for valued options and for switches set from the environment. -/
  value : Option String := none
deriving Inhabited, Repr

/-- A word read but not yet checked: an option waiting for or holding its value, or an operand. -/
inductive Pending where
  | opt (o : Opt) (value : Option String)
  | operand (a : Operand) (value : String)

/-- The reading state of one command. -/
structure Walk where
  /-- Options received, in the order first given. -/
  given : List Given := []
  operands : List String := []
  pending : Option Pending := none
  /-- `--` was read. -/
  trailing : Bool := false

/-- Why reading stopped before a program could run. -/
inductive Stop where
  /-- A help or version page, written to standard output. -/
  | page (text : Toned)
  /-- A complaint, written to standard error. -/
  | complain (c : Complaint)
  /-- Nothing was given: the help page, written to standard error as a complaint. -/
  | bareHelp (text : Toned)
deriving Inhabited

/-- What a finished reading produced. -/
structure Reading where
  /-- The subcommand named. -/
  subcommand : String
  /-- Options received by the program itself. -/
  top : List Given
  /-- Options received by the subcommand. -/
  below : List Given
  operands : List String
deriving Inhabited, Repr

/-- What is needed besides the words. -/
structure Context where
  grammar : Grammar
  /-- The environment. -/
  env : String → Option String

namespace Walk

/-- The option was received already. -/
def has (w : Walk) (key : String) : Bool :=
  w.given.any (·.key = key)

/-- The keys received, in order. -/
def keys (w : Walk) : List String :=
  w.given.map (·.key)

/-- An option is waiting for its value. -/
def awaitsValue (w : Walk) : Bool :=
  match w.pending with
  | some (.opt _ none) => true
  | _ => false

end Walk

/-- The word at fault, quoted and in yellow. -/
def faulty (w : String) : Toned :=
  Toned.plain "'" ++ Toned.paint .yellow w ++ Toned.plain "'"

/-- A flag named in passing, quoted and in bold. -/
def named (w : String) : Toned :=
  Toned.plain "'" ++ Toned.paint .bold w ++ Toned.plain "'"

/-- A list of accepted words in brackets, each in green. -/
def acceptedList (title : String) (ws : List String) : Toned :=
  Toned.plain ("\n  [" ++ title ++ ": ") ++ Toned.joinWith ", " (ws.map (Toned.paint .green)) ++
    Toned.plain "]"

/-- The complaint that a word was not expected. -/
def unexpected (w : String) : Toned :=
  Toned.plain "unexpected argument " ++ faulty w ++ Toned.plain " found"

/-- The complaint that a word names no subcommand. -/
def unrecognized (w : String) : Toned :=
  Toned.plain "unrecognized subcommand " ++ faulty w

/-- The tip to pass an option-like word as an operand. -/
def passAsValue (arg : String) : Toned :=
  Toned.plain "to pass " ++ faulty arg ++ Toned.plain " as a value, use '" ++
    Toned.paint .green ("-- " ++ arg) ++ Toned.plain "'"

/-- The complaint about a refused value; an empty one reads as a missing value. -/
def refusedValue (arg value : String) (choices : List Choice) : Complaint :=
  let head :=
    if value.isEmpty then
      Toned.plain "a value is required for " ++ named arg ++ Toned.plain " but none was supplied"
    else Toned.plain "invalid value " ++ faulty value ++ Toned.plain " for " ++ named arg
  let list := if choices.isEmpty then [] else acceptedList "possible values" (choices.map (·.name))
  { message := head ++ list, similarValue := Text.mostSimilar? value (choices.map (·.name)) }

/-- Check a value against what is accepted: one of the choices, if limited; not empty, for a path. -/
def checkValue (arg : String) (kind : ValueKind) (choices : List Choice) (v : String) :
    Except Stop Unit :=
  if !choices.isEmpty then
    if choices.any (·.name = v) then pure () else throw (.complain (refusedValue arg v choices))
  else if kind = .path ∧ v.isEmpty then throw (.complain (refusedValue arg v []))
  else pure ()

/-- The complaint about an option given twice. -/
def givenTwice (l : Level) (o : Opt) : Stop :=
  .complain { message := Toned.plain "the argument " ++ faulty o.display ++
                Toned.plain " cannot be used multiple times",
              usage := some l.usage }

/-- Record a valued option or a switch from the command line. -/
def storeOpt (l : Level) (w : Walk) (o : Opt) (value : Option String) : Except Stop Walk := do
  if w.has o.key then throw (givenTwice l o)
  match o.arity, value with
  | .value _ kind cs, some v =>
    checkValue o.display kind cs v
    pure { w with given := w.given ++ [{ key := o.key, source := .commandLine, value := some v }] }
  | .value _ _ cs, none => throw (.complain (refusedValue o.display "" cs))
  | _, _ => pure { w with given := w.given ++ [{ key := o.key, source := .commandLine }] }

/-- Check and record the word read last. -/
def resolve (l : Level) (w : Walk) : Except Stop Walk := do
  match w.pending with
  | none => pure w
  | some (.opt o v) => storeOpt l { w with pending := none } o v
  | some (.operand a v) =>
    checkValue a.display a.kind a.choices v
    pure { w with pending := none, operands := w.operands ++ [v] }

/-- Record the word read last if it passes. On failure the word is dropped. An option whose value
was refused still counts as given, unless it was given before: then neither use counts. An option
that got no value does not count. -/
def resolveQuietly (l : Level) (w : Walk) : Walk :=
  match resolve l w, w.pending with
  | .ok w, _ => w
  | .error _, some (.opt _ none) => { w with pending := none }
  | .error _, some (.opt o (some _)) =>
    if w.has o.key then { w with pending := none, given := w.given.filter (·.key ≠ o.key) }
    else { w with pending := none, given := w.given ++ [{ key := o.key, source := .commandLine }] }
  | .error _, _ => { w with pending := none }

/-- Act on an option without a value of its own: show a page, count a use, or set a switch. -/
def actOn (ctx : Context) (l : Level) (w : Walk) (o : Opt) (long : Bool) : Except Stop Walk := do
  let w ← resolve l w
  match o.arity with
  | .showHelp => throw (.page (l.helpPage ctx.env long))
  | .showVersion => throw (.page (l.versionLine ctx.grammar.version))
  | .counted =>
    let before := (w.given.find? (·.key = o.key)).map (·.uses) |>.getD 0
    let others := w.given.filter (·.key ≠ o.key)
    pure { w with given := others ++ [{ key := o.key, source := .commandLine, uses := min 255 (before + 1) }] }
  | _ => storeOpt l w o none

/-- The subcommand levels of a grammar, `help` included, by name. -/
def levelNamed (g : Grammar) (name : String) : Option Level :=
  if name = "help" then some g.helpLevel else (g.find? name).map g.level

/-- The complaint about an unknown long option: a similar option of this command, else a similar
option of a subcommand named later, else (where operands are read) how to pass it as one. -/
def unknownLong (ctx : Context) (l : Level) (w : Walk) (name : String) (rest : List String) :
    Stop :=
  let w := resolveQuietly l w
  let arg := "--" ++ name
  match Text.mostSimilar? name (l.opts.map (·.long)) with
  | some s =>
    let used := w.keys ++ ((l.findLong s).map (·.key)).toList
    .complain { message := unexpected arg,
                similarOption := some ("--" ++ s), usage := some (l.usageWith used) }
  | none =>
    let inSub := l.subcommands.filterMap fun (sub, _) =>
      match levelNamed ctx.grammar sub, rest.idxOf? sub with
      | some sl, some pos => (Text.mostSimilar? name (sl.opts.map (·.long))).map (pos, sub, ·)
      | _, _ => none
    let best := inSub.foldl (fun acc c => match acc with
      | some b => if c.1 < b.1 then some c else acc
      | none => some c) none
    let tips := match best with
      | some (_, sub, s) =>
        [Toned.plain "'" ++ Toned.paint .green (sub ++ " --" ++ s) ++ Toned.plain "' exists"]
      | none => if l.operands.isEmpty then [] else [passAsValue arg]
    .complain { message := unexpected arg, tips, usage := some (l.usageWith w.keys) }

/-- The complaint about an unknown short option. -/
def unknownShort (l : Level) (w : Walk) (c : Char) : Stop :=
  let arg := "-" ++ c.toString
  let tips := if l.operands.isEmpty || w.trailing then [] else [passAsValue arg]
  .complain { message := unexpected arg, tips, usage := some l.usage }

/-- Read a long option, with the value written after `=`, if any. -/
def readLong (ctx : Context) (l : Level) (w : Walk) (name : String) (attached : Option String)
    (rest : List String) : Except Stop Walk := do
  match l.findLong name with
  | none => throw (unknownLong ctx l w name rest)
  | some o =>
    if o.takesValue then
      match attached with
      | some v =>
        let w ← resolve l w
        storeOpt l w o (some v)
      | none =>
        let w ← resolve l w
        pure { w with pending := some (.opt o none) }
    else
      match attached with
      | some v =>
        let w := resolveQuietly l w
        throw (.complain { message := Toned.plain "unexpected value " ++ faulty v ++
                             Toned.plain " for " ++ named o.display ++
                             Toned.plain " found; no more were expected",
                           usage := some (l.usageWith (w.keys ++ [o.key])) })
      | none => actOn ctx l w o true

/-- Read a cluster of short options. -/
def readShorts (ctx : Context) (l : Level) : List Char → Walk → Except Stop Walk
  | [], w => pure w
  | c :: more, w =>
    match l.findShort c with
    | none =>
      let w := resolveQuietly l w
      throw (unknownShort l w c)
    | some o =>
      if o.takesValue then
        match more with
        | [] => do
          let w ← resolve l w
          pure { w with pending := some (.opt o none) }
        | _ => do
          let v := String.ofList (if more.head? = some '=' then more.drop 1 else more)
          let w ← resolve l w
          storeOpt l w o (some v)
      else do
        let w ← actOn ctx l w o false
        readShorts ctx l more w

/-- Read an operand, or refuse a word that names no subcommand or has no place. -/
def readOperand (l : Level) (w : Walk) (t : String) : Except Stop Walk := do
  if !l.subcommands.isEmpty then
    let _ := resolveQuietly l w
    let names := l.subcommands.map (·.1)
    if w.trailing ∧ names.contains t then
      throw (.complain { message := unexpected t,
                         tips := [Toned.plain "subcommand '" ++ Toned.paint .green t ++
                           Toned.plain "' exists; to use it, remove the " ++ faulty "--" ++
                           Toned.plain " before it"],
                         usage := some l.usage })
    let similar := Text.similarTo t names
    if similar.isEmpty then
      throw (.complain { message := unrecognized t, usage := some l.usage })
    throw (.complain { message := unrecognized t, similarCommands := similar, usage := some l.usage })
  let taken := w.operands.length + (match w.pending with | some (.operand ..) => 1 | _ => 0)
  match l.operands.drop taken with
  | a :: _ =>
    let w ← resolve l w
    pure { w with pending := some (.operand a t) }
  | [] =>
    let _ := resolveQuietly l w
    throw (.complain { message := unexpected t, usage := some l.usage })

/-- Read the words of one command until they end or name a subcommand, which is answered with the
words after it. -/
def walk (ctx : Context) (l : Level) :
    List String → Walk → Except Stop (Walk × Option (String × List String))
  | [], w => pure (w, none)
  | t :: rest, w =>
    if w.trailing then do
      let w ← readOperand l w t
      walk ctx l rest w
    else if !w.awaitsValue ∧ (l.subcommands.map (·.1)).contains t then
      pure (w, some (t, rest))
    else if t = "--" then
      walk ctx l rest { w with trailing := true }
    else if t.startsWith "--" then do
      let body := (t.drop 2).toString
      let (name, attached) := match body.splitOn "=" with
        | n :: v :: more => (n, some ("=".intercalate (v :: more)))
        | _ => (body, none)
      let w ← readLong ctx l w name attached rest
      walk ctx l rest w
    else if t.startsWith "-" ∧ t.length > 1 then do
      let w ← readShorts ctx l (t.toList.drop 1) w
      walk ctx l rest w
    else
      match w.pending with
      | some (.opt o none) => walk ctx l rest { w with pending := some (.opt o (some t)) }
      | _ => do
        let w ← readOperand l w t
        walk ctx l rest w

/-- Give options not received their environment variables, in the command's order. -/
def fromEnvironment (ctx : Context) (l : Level) (w : Walk) : Except Stop Walk :=
  let step := fun (w : Walk) (o : Opt) =>
    match o.env.bind ctx.env with
    | none => pure w
    | some v =>
      if w.has o.key then pure w
      else match o.arity with
        | .value _ kind cs => do
          checkValue o.display kind cs v
          pure { w with given := w.given ++ [{ key := o.key, source := .environment, value := some v }] }
        | .switch =>
          if v = "true" ∨ v = "false" then
            pure { w with given := w.given ++ [{ key := o.key, source := .environment, value := some v }] }
          else throw (.complain (refusedValue o.display v [{ name := "true" }, { name := "false" }]))
        | _ => pure w
  l.opts.foldlM step w

/-- Finish a command: check the last word, take the environment, and report missing operands. -/
def finish (ctx : Context) (l : Level) (w : Walk) : Except Stop Walk := do
  let w ← resolve l w
  let w ← fromEnvironment ctx l w
  let missing := l.operands.drop w.operands.length
  if !missing.isEmpty then
    throw (.complain {
      message := Toned.plain "the following required arguments were not provided:" ++
        (missing.map fun a => Toned.plain "\n  " ++ Toned.paint .green a.display).flatten,
      usage := some (l.usageWith (w.keys ++ missing.map (·.key))) })
  pure w

/-- Follow `help` and the names after it to the page to show. -/
def helpPath (ctx : Context) (l : Level) : List String → Stop
  | [] => .page (l.helpPage ctx.env true)
  | n :: rest =>
    match (if l.subcommands.any (·.1 = n) then levelNamed ctx.grammar n else none) with
    | some sub => helpPath ctx sub rest
    | none => .complain { message := unrecognized n, usage := some l.usage }

/-- Read a whole command line. -/
def read (ctx : Context) (args : List String) : Except Stop Reading := do
  let root := ctx.grammar.root
  let (top, named) ← walk ctx root args {}
  match named with
  | none =>
    let top ← resolve root top
    let top ← fromEnvironment ctx root top
    if top.given.isEmpty then throw (.bareHelp (root.helpPage ctx.env false))
    let names := root.subcommands.map (·.1)
    throw (.complain {
      message := faulty root.binName ++
        Toned.plain " requires a subcommand but one was not provided" ++
        acceptedList "subcommands" names,
      usage := some root.usage })
  | some ("help", rest) => throw (helpPath ctx root rest)
  | some (name, rest) =>
    match ctx.grammar.find? name with
    | none => throw (.complain { message := unrecognized name })
    | some sub => do
      let l := ctx.grammar.level sub
      let (below, _) ← walk ctx l rest {}
      let below ← finish ctx l below
      let top ← resolve root top
      let top ← fromEnvironment ctx root top
      pure { subcommand := name, top := top.given, below := below.given, operands := below.operands }

namespace Reading

/-- The option's final value: the subcommand's, unless the program's came from a stronger
source. -/
def get? (r : Reading) (key : String) : Option Given :=
  match r.top.find? (·.key = key), r.below.find? (·.key = key) with
  | some t, some b => if t.source.rank > b.source.rank then some t else some b
  | some t, none => some t
  | none, b => b

/-- The value of a valued option. -/
def value? (r : Reading) (key : String) : Option String :=
  (r.get? key).bind (·.value)

/-- Whether a switch is on: given on the command line, or set to `true` from the environment. -/
def switch (r : Reading) (key : String) : Bool :=
  match r.get? key with
  | some g => g.value.getD "true" = "true"
  | none => false

/-- How often a counted option was given. -/
def count (r : Reading) (key : String) : Nat :=
  (r.get? key).map (·.uses) |>.getD 0

end Reading

end RadioFlash.CommandLine
