import VolumeLifecycle.Command
/-!
# The command

The program's entry point: it reads the command line, the files the command names and the
environment variables of the configuration, runs the command, and hands its output to the
terminal and the file system. Everything it decides is decided by `Command`.

A file is read as bytes and decoded as UTF-8; a file that does not exist, that cannot be
read, or that is not UTF-8 is passed on as such, for the command to report when it needs it.
-/

open VolumeLifecycle VolumeLifecycle.Command

/-- The source a path gives: its text, or why there is none. -/
def readSource (path : String) : IO Config.Source := do
  try
    let bytes ← IO.FS.readBinFile path
    match Text.decodeUtf8 bytes.toList with
    | .ok text => pure (.file path text)
    | .error reason => pure (.unreadable "UnicodeDecodeError" reason)
  catch e =>
    match e with
    | .noFileOrDirectory .. => pure (.missing path)
    | _ => pure (.unreadable "OSError" (toString e))

/-- Run the command line `args`. -/
def main (args : List String) : IO UInt32 := do
  match parse args with
  | .help =>
      IO.print helpText
      pure 0
  | .refused reason =>
      IO.eprint (refusalText reason)
      pure 2
  | .run inv =>
      let mut files : List (String × Config.Source) := []
      for path in inv.files do
        files := files ++ [(path, ← readSource path)]
      let mut environ : List (String × Value) := []
      for (name, _) in Config.environmentVariables do
        if let some v ← IO.getEnv name then
          environ := environ ++ [(name, .str v)]
      let sources := files
      let outcome := inv.execute
        (fun path => ((sources.find? (·.1 == path)).map (·.2)).getD .none) environ
      IO.print outcome.printed
      if let some (path, text) := outcome.written then
        IO.FS.writeFile path text
      for line in outcome.log do
        IO.eprintln line
      pure outcome.exitCode
