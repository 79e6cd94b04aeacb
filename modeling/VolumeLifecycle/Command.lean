import VolumeLifecycle.Config
import VolumeLifecycle.Lifecycle.Component
import VolumeLifecycle.Redfish.Record
import VolumeLifecycle.Yaml.Writer
/-!
# The command line

The command runs one lifecycle operation — `create`, `read`, `update`, `delete` or
`import` — for a volume described in a YAML file, and prints the resulting state as YAML.

**Arguments.** The operation is the one positional argument. The options are `--config` (the
configuration file), `--state` (the desired, or current, volume state), `--prior` (the prior
state, for `update`), `--import-id` (the import identity, for `import`), `--server`, `--user`
and `--password` (which override the configuration and the environment), `--controller` (the
controller record to run against), `--output` (a file for the resulting state),
`--verbose`/`-v` and `--help`/`-h`. Arguments are read from left to right:

* a long option may be shortened to any prefix that names it alone, and may carry its value
  as `--name=value`; short flags may be clustered (`-vh`);
* an option that takes a value takes the next argument, which must not look like an option
  (a negative number does not);
* after `--` every argument is positional;
* the first positional argument is the operation, and must name one; later ones, and unknown
  options, are refused together at the end, after a missing operation.

A refused command line prints the usage and the reason and exits with 2; `--help` prints the
usage and a description of every argument, and exits with 0.

**Running.** The state comes from `--state` (the mapping under `volume` when there is one),
or for `import` from the import identity, whose server connection then fills the server,
user and password the command line leaves empty, and whose certificate policy is kept. The
configuration is read from `--config`, the `STORAGEBOT_*` environment variables and the
server options, in that order of precedence, lowest first. The component then runs the
operation; `read` and `import` print nothing when the volume no longer exists, and `delete`
prints nothing. A failure of the lifecycle, or a value error, is logged as
`Volume <operation> failed: <reason>` and the command exits with 1; any other error stops
the command the same way with its kind in front.

**The controller.** The controller is not reached over a network: the command runs against
the controller record in the JSON file `--controller` names (see `Redfish.Record`), or an
empty one. Its clock starts at zero and moves only when the lifecycle waits.
-/

namespace VolumeLifecycle.Command

open VolumeLifecycle.Redfish VolumeLifecycle.Lifecycle VolumeLifecycle.Volume
open VolumeLifecycle.Value VolumeLifecycle.Text

/-- The name of the command in its messages. -/
def programName : String := "storage-volume"

/-- What the command does, as its help describes it. -/
def description : String := "Manage RAID volumes through the Redfish API"

/-! ### Arguments -/

/-- The lifecycle operations. -/
inductive Operation where
  | create
  | read
  | update
  | delete
  /-- Adopt an existing volume named by an import identity. -/
  | adopt
  deriving DecidableEq

/-- Every operation, in the order the help lists them. -/
def Operation.all : List Operation := [.create, .read, .update, .delete, .adopt]

/-- The operation as the command line names it. -/
def Operation.name : Operation → String
  | .create => "create"
  | .read => "read"
  | .update => "update"
  | .delete => "delete"
  | .adopt => "import"

/-- The options that take a value. -/
inductive Setting where
  | config
  | state
  | prior
  | importId
  | server
  | user
  | password
  | controller
  | output
  deriving DecidableEq

/-- Every option that takes a value, in the order the help lists them. -/
def Setting.all : List Setting :=
  [.config, .state, .prior, .importId, .server, .user, .password, .controller, .output]

/-- The option string of a setting. -/
def Setting.flag : Setting → String
  | .config => "--config"
  | .state => "--state"
  | .prior => "--prior"
  | .importId => "--import-id"
  | .server => "--server"
  | .user => "--user"
  | .password => "--password"
  | .controller => "--controller"
  | .output => "--output"

/-- The placeholder of a setting's value: its name in capitals, dashes made underscores. -/
def Setting.placeholder (s : Setting) : String :=
  String.ofList ((s.flag.toList.drop 2).map fun c => if c == '-' then '_' else c.toUpper)

/-- The help of a setting. -/
def Setting.help : Setting → String
  | .config => "YAML configuration file"
  | .state => "YAML file with the desired (or current) volume state"
  | .prior => "YAML file with the prior volume state (update only)"
  | .importId => "JSON import identity (import only)"
  | .server => "iDRAC address"
  | .user => "iDRAC username"
  | .password => "iDRAC password"
  | .controller => "JSON record of the controller to run against"
  | .output => "Write the resulting state to this YAML file"

/-- What an option string stands for. -/
inductive Switch where
  | help
  | verbose
  | setting (s : Setting)
  deriving DecidableEq

/-- Every option string, in the order the options were declared. -/
def switches : List (String × Switch) :=
  [("-h", .help), ("--help", .help)] ++ Setting.all.map (fun s => (s.flag, .setting s)) ++
    [("--verbose", .verbose), ("-v", .verbose)]

/-- An option as refusals name it: its option strings joined by `/`. -/
def Switch.title : Switch → String
  | .help => "-h/--help"
  | .verbose => "--verbose/-v"
  | .setting s => s.flag

/-- What the command line asks for. -/
structure Invocation where
  operation : Operation
  /-- The value of each setting given, the last one given winning. -/
  settings : List (Setting × String) := []
  verbose : Bool := false

/-- The value of a setting, when it is given and not empty. -/
def Invocation.get? (i : Invocation) (s : Setting) : Option String :=
  ((i.settings.find? (·.1 == s)).map (·.2)).filter (!·.isEmpty)

/-- How one argument is read. -/
inductive Reading where
  | positional
  /-- `--`: every later argument is positional. -/
  | dashes
  /-- An option, by the option string it matched and the value written into the argument. -/
  | option (sw : Switch) (flag : String) (attached : Option String)
  | unknown
  /-- A prefix of several options. -/
  | ambiguous (flags : List String)

/-- Whether an argument looks like a negative number: `-` then digits, or digits around a
point with at least one after it. -/
def looksNegative (a : String) : Bool :=
  match a.toList with
  | '-' :: rest =>
      let (whole, frac) := rest.span Char.isDigit
      match frac with
      | [] => !whole.isEmpty
      | '.' :: ds => !ds.isEmpty && ds.all Char.isDigit
      | _ => false
  | _ => false

/-- The option strings an argument may abbreviate, each with the value it carries. A long
argument matches every long option it is a prefix of; a short one matches the option of its
first two characters, carrying the rest, and every option it is a prefix of. -/
def candidates (a : String) : List (String × Switch × Option String) :=
  match a.toList with
  | '-' :: '-' :: _ =>
      let (name, value) := match a.splitOn "=" with
        | name :: rest => (name, if rest.isEmpty then none else some ("=".intercalate rest))
        | [] => (a, none)
      (switches.filter (·.1.startsWith name)).map fun (f, sw) => (f, sw, value)
  | '-' :: c :: rest =>
      switches.filterMap fun (f, sw) =>
        if f == String.ofList ['-', c] then some (f, sw, some (String.ofList rest))
        else if f.startsWith a then some (f, sw, none)
        else none
  | _ => []

/-- How an argument is read, outside the part after `--`. -/
def readArgument (a : String) : Reading :=
  if a.isEmpty || !a.startsWith "-" then .positional
  else if a == "--" then .dashes
  else match switches.find? (·.1 == a) with
  | some (_, sw) => .option sw a none
  | none =>
    if a.length == 1 then .positional
    else
      let exact := match a.splitOn "=" with
        | name :: rest@(_ :: _) =>
            (switches.find? (fun (e : String × Switch) => e.1 == name)).map
              fun (e : String × Switch) => (e.2, name, "=".intercalate rest)
        | _ => none
      match exact with
      | some (sw, name, value) => .option sw name (some value)
      | none =>
        match candidates a with
        | [(f, sw, value)] => .option sw f value
        | many@(_ :: _ :: _) => .ambiguous (many.map fun (f, _, _) => f)
        | [] => if looksNegative a || a.contains ' ' then .positional else .unknown

/-- What the command line leads to. -/
inductive Parsed where
  | run (i : Invocation)
  | help
  | refused (reason : String)

/-- The arguments read so far. -/
structure Gathered where
  operation : Option Operation := none
  settings : List (Setting × String) := []
  verbose : Bool := false
  /-- Arguments nothing took, refused at the end. -/
  extras : List String := []
  /-- A `--` was met. -/
  dashes : Bool := false

/-- Take a positional argument: the operation, when none is taken yet. -/
def Gathered.positional (g : Gathered) (a : String) : Except Parsed Gathered :=
  if g.operation.isSome then .ok { g with extras := g.extras ++ [a] }
  else match Operation.all.find? (·.name == a) with
    | some op => .ok { g with operation := some op }
    | none =>
        let choices := ", ".intercalate (Operation.all.map (quote ·.name))
        .error (.refused s!"argument operation: invalid choice: {quote a} (choose from {choices})")

/-- Take a flag, and the flags clustered after it in `rest`. -/
def Gathered.flags (g : Gathered) (sw : Switch) (short : Bool) :
    List Char → Except Parsed Gathered
  | [] =>
      match sw with
      | .help => .error .help
      | _ => .ok { g with verbose := true }
  | c :: cs =>
      let shown := quote (String.ofList (c :: cs))
      let ignored := .error (.refused s!"argument {sw.title}: ignored explicit argument {shown}")
      if !short then ignored
      else match switches.find? (·.1 == String.ofList ['-', c]) with
        | some (_, next) =>
            if next == .help || next == .verbose then
              match sw with
              | .help => .error .help
              | _ => Gathered.flags { g with verbose := true } next true cs
            else ignored
        | none => ignored

/-- The settings with `s` set to `v`. -/
def Gathered.set (g : Gathered) (s : Setting) (v : String) : Gathered :=
  { g with settings := insertBy g.settings s v }
where
  insertBy : List (Setting × String) → Setting → String → List (Setting × String)
    | [], s, v => [(s, v)]
    | (t, w) :: rest, s, v => if t == s then (s, v) :: rest else (t, w) :: insertBy rest s v

/-- Read the arguments from left to right. -/
def gather (g : Gathered) : List String → Except Parsed Gathered
  | [] => .ok g
  | a :: rest =>
      if g.dashes then do gather (← g.positional a) rest
      else match readArgument a with
      | .positional => do gather (← g.positional a) rest
      | .dashes => gather { g with dashes := true } rest
      | .unknown => gather { g with extras := g.extras ++ [a] } rest
      | .ambiguous flags =>
          let listed := ", ".intercalate flags
          .error (.refused s!"ambiguous option: {a} could match {listed}")
      | .option (.setting s) flag attached =>
          match attached with
          | some v => gather (g.set s v) rest
          | none =>
              match rest with
              | v :: rest' =>
                  match readArgument v with
                  | .positional => gather (g.set s v) rest'
                  | _ => .error (.refused s!"argument {flag}: expected one argument")
              | [] => .error (.refused s!"argument {flag}: expected one argument")
      | .option sw flag attached => do
          let short := !flag.startsWith "--"
          let g ← match attached with
            | none => g.flags sw short []
            | some "" =>
                let shown := quote ""
                .error (.refused s!"argument {sw.title}: ignored explicit argument {shown}")
            | some v => g.flags sw short v.toList
          gather g rest

/-- Read a command line. -/
def parse (args : List String) : Parsed :=
  match gather {} args with
  | .error p => p
  | .ok g =>
      match g.operation with
      | none => .refused "the following arguments are required: operation"
      | some operation =>
          if g.extras.isEmpty then .run { operation, settings := g.settings, verbose := g.verbose }
          else .refused ("unrecognized arguments: " ++ " ".intercalate g.extras)

/-! ### Usage and help -/

/-- The width usage and help are laid out in. -/
def textWidth : Nat := 78

/-- Parts laid out on lines no wider than `textWidth`, indented by `indent` columns; when
the first line follows a lead of `lead` columns, it is not indented. -/
def layLines (parts : List String) (indent : Nat) (lead : Option Nat) : List String :=
  let pad := String.ofList (List.replicate indent ' ')
  let (lines, line, _) := parts.foldl (fun (lines, line, len) part =>
    if len + 1 + part.length > textWidth && !line.isEmpty then
      (lines ++ [line], [part], indent + part.length)
    else (lines, line ++ [part], len + 1 + part.length)) ([], [], lead.getD indent - 1)
  let lines := if line.isEmpty then lines else lines ++ [line]
  lines.zipIdx.map fun (l, i) => (if i == 0 && lead.isSome then "" else pad) ++ " ".intercalate l

/-- The operation argument as usage writes it. -/
def operationChoices : String := "\x7b" ++ ",".intercalate (Operation.all.map (·.name)) ++ "\x7d"

/-- The usage: the program and each option in brackets, wrapped under the program name. -/
def usage : String :=
  let pre := "usage: "
  let options := ["[-h]"] ++ Setting.all.map (fun s => s!"[{s.flag} {s.placeholder}]") ++
    ["[--verbose]"]
  let indent := pre.length + programName.length + 1
  let lines := layLines ([programName] ++ options) indent (some pre.length) ++
    layLines [operationChoices] indent none
  pre ++ "\n".intercalate lines

/-- Words laid out on lines no wider than `width`. -/
def wrapWords (text : String) (width : Nat) : List String :=
  let (lines, line) := (text.splitOn " ").foldl (fun (lines, line) w =>
    if line.isEmpty then (lines, w)
    else if line.length + 1 + w.length > width then (lines ++ [line], w)
    else (lines, line ++ " " ++ w)) ([], "")
  if line.isEmpty then lines else lines ++ [line]

/-- One argument in the help: its invocation, then its help from column 24 (on the next line
when the invocation is too long for the column). -/
def helpEntry (invocation help : String) : List String :=
  let column := 24
  let pad (n : Nat) := String.ofList (List.replicate n ' ')
  let helpLines := wrapWords help (textWidth - column)
  if invocation.length + 4 ≤ column then
    match helpLines with
    | first :: rest =>
        ("  " ++ invocation ++ pad (column - 2 - invocation.length) ++ first) ::
          rest.map (pad column ++ ·)
    | [] => ["  " ++ invocation]
  else ("  " ++ invocation) :: helpLines.map (pad column ++ ·)

/-- The help: usage, description, the positional argument and the options. -/
def helpText : String :=
  let options := helpEntry "-h, --help" "show this help message and exit" ++
    (Setting.all.map fun s => helpEntry s!"{s.flag} {s.placeholder}" s.help).flatten ++
    helpEntry "--verbose, -v" "Enable verbose logging"
  "\n".intercalate ([usage, "", description, "", "positional arguments:"] ++
    helpEntry operationChoices "Lifecycle operation to run" ++ ["", "options:"] ++ options) ++
    "\n"

/-- The text printed for a refused command line. -/
def refusalText (reason : String) : String :=
  usage ++ "\n" ++ programName ++ ": error: " ++ reason ++ "\n"

/-! ### Running -/

/-- What a run leaves behind: the text printed, the log lines, the file written (path and
text) and the exit code. -/
structure Outcome where
  printed : String := ""
  log : List String := []
  written : Option (String × String) := none
  exitCode : UInt32 := 0

/-- A log line at `level`. -/
def logLine (level message : String) : String := s!"{programName} - {level} - {message}"

/-- An error the command raises itself, of the kind of a bad value. -/
def valueError (message : String) : Failure := .raisedBy "ValueError" message

/-- Transport failures that are also bad values. -/
def valueTransports : List String :=
  ["InvalidURL", "InvalidHeader", "MissingSchema", "InvalidSchema", "InvalidProxyURL",
   "JSONDecodeError"]

/-- Whether the command reports a failure as a failed operation: lifecycle errors and bad
values (an answer or a file that is not JSON, text that is not UTF-8 among them). -/
def reportsAsFailed : Failure → Bool
  | .lifecycle _ | .invalid _ | .undecodable _ => true
  | .transport kind _ => valueTransports.contains kind
  | .raisedBy kind _ => ["ValueError", "UnicodeDecodeError", "JSONDecodeError"].contains kind
  | _ => false

/-- The kind of a failure that stops the command. -/
def failureKind : Failure → String
  | .lifecycle _ => "StorageBotError"
  | .transport kind _ => kind
  | .undecodable _ => "JSONDecodeError"
  | .missingKey _ => "KeyError"
  | .noAttribute .. => "AttributeError"
  | .mistyped _ => "TypeError"
  | .invalid _ => "ValueError"
  | .intTooLarge | .infinityToInt => "OverflowError"
  | .indexOutOfRange => "IndexError"
  | .exhausted => "RuntimeError"
  | .raisedBy kind _ => kind

/-- The controller a record file describes; no file is an empty controller. -/
def controllerOf : Config.Source → Except Failure Controller
  | .none => .ok (Controller.ofRecord (.dict []))
  | .missing path =>
      .error (.raisedBy "FileNotFoundError" ("[Errno 2] No such file or directory: " ++ quote path))
  | .unreadable kind message => .error (.raisedBy kind message)
  | .file _ text =>
      match Json.parse text with
      | .ok record => .ok (Controller.ofRecord record)
      | .error (.malformed e) => .error (.raisedBy "JSONDecodeError" e.message)
      | .error e => .error (Failure.ofRefusal e)

/-- A value that is a given text, or `null`. -/
def textOrNull : Option String → Value
  | some s => .str s
  | none => .null

/-- Run the operation: the resulting state to print (none for a deletion or a volume that is
gone) and the warnings to log. -/
def Invocation.operate (inv : Invocation) (files : String → Config.Source)
    (environ : List (String × Value)) : Op (Option Value × List String) := do
  let overrides : List (String × Value) :=
    [("endpoint", textOrNull (inv.get? .server)), ("username", textOrNull (inv.get? .user)),
     ("password", textOrNull (inv.get? .password))]
  let (overrides, state) ← match inv.operation with
    | .adopt => do
        let some importId := inv.get? .importId
          | throw (valueError "--import-id is required for import")
        let (server, state) ← liftFailure (readImport (.str importId))
        let given (s : Setting) (key : String) : Except Failure Value :=
          match inv.get? s with
          | some v => .ok (.str v)
          | none => server.field key
        let ssl ← liftFailure (server.field "ssl_insecure")
        pure ([("endpoint", ← liftFailure (given .server "endpoint")),
               ("username", ← liftFailure (given .user "username")),
               ("password", ← liftFailure (given .password "password")),
               ("verify_cert", .bool !ssl.truthy)], state)
    | op => do
        let some path := inv.get? .state
          | throw (valueError s!"--state is required for {op.name}")
        pure (overrides, .dict (← liftFailure (Config.loadVolumeState (files path))))
  let source := match inv.get? .config with
    | some path => files path
    | none => .none
  let config ← liftFailure (Config.load source (.dict environ) (.dict overrides))
  let c ← liftFailure (Component.create (.dict config) none)
  match inv.operation with
  | .create => return (some (← c.createVolume state), [])
  | .read | .adopt =>
      let (result, found) ← c.readVolume state
      if found then return (some result, [])
      let id ← liftFailure (state.getOr "id")
      return (none, [s!"Volume {id.display} no longer exists"])
  | .update =>
      let some path := inv.get? .prior | throw (valueError "--prior is required for update")
      let prior ← liftFailure (Config.loadVolumeState (files path))
      return (some (← c.updateVolume state (.dict prior)), [])
  | .delete =>
      c.deleteVolume state
      return (none, [])

/-- Run an operation from `st`: its result and the station after it. -/
def runOp {α : Type} (st : Station) (op : Op α) : Except Failure α × Station := (op.run).run st

/-- Run an invocation against the files it names and the environment's variables. -/
def Invocation.execute (inv : Invocation) (files : String → Config.Source)
    (environ : List (String × Value)) : Outcome :=
  let opName := inv.operation.name
  let result : Except Failure (Option Value × List String) := do
    let controller ← controllerOf (match inv.get? .controller with
      | some path => files path
      | none => .none)
    let station : Station :=
      { site := { controller, clock := { now := .float 0.0 } }, registry := {}, progress := {} }
    (runOp station (inv.operate files environ)).1
  match result with
  | .error f =>
      let line := if reportsAsFailed f then logLine "ERROR" s!"Volume {opName} failed: {f.message}"
        else s!"{failureKind f}: {f.message}"
      { log := [line], exitCode := 1 }
  | .ok (state, warnings) =>
      let target := (inv.get? .server).getD "configured endpoint"
      let done := logLine "INFO" s!"Volume {opName} completed on {target}"
      let warned := warnings.map (logLine "WARNING")
      match state, inv.get? .output with
      | some v, some path =>
          { written := some (path, Yaml.writeDocument v),
            log := warned ++ [logLine "INFO" s!"Wrote volume state to {path}", done] }
      | some v, none => { printed := Yaml.writeDocument v ++ "\n", log := warned ++ [done] }
      | none, _ => { log := warned ++ [done] }

/-- The files an invocation reads, by the settings that name them. -/
def Invocation.files (inv : Invocation) : List String :=
  [Setting.controller, .state, .prior, .config].filterMap inv.get?

end VolumeLifecycle.Command
