import XmlSchema.LanguageServer.Transport
import XmlSchema.Program

/-!
# The programs on a machine

This file connects the programs with the files, the environment and the streams of the machine.  Called
by the name of the language server, the program is the language server; by any other name it is the
command line program.
-/

namespace XmlSchema.Machine

open XmlSchema.Text

/-- The error with a number, which some functions give with a minus sign. -/
def numberedError? (number : UInt32) : Option FileError :=
  match (if number < 0x80000000 then number else 0 - number).toNat with
  | 20 => some .notADirectory
  | 21 => some .isADirectory
  | 36 => some .nameTooLong
  | _ => none

/-- What went wrong with a file. -/
def fileError (e : IO.Error) : FileError :=
  match e with
  | .noFileOrDirectory .. => .notFound
  | .permissionDenied .. => .permissionDenied
  | .inappropriateType _ number _ => (numberedError? number).getD (.other (toString e))
  | .invalidArgument _ number _ => (numberedError? number).getD (.other (toString e))
  | e => .other (toString e)

/-- The result of an action on a file that may fail. -/
def attempt {α : Type} (action : IO α) : IO (Except FileError α) := do
  try
    return .ok (← action)
  catch e =>
    return .error (fileError e)

/-- The result of an action on the file with a path.  Files are opened by texts here, so that a path
that is no text names none. -/
def attemptOn {α : Type} (path : Path) (action : String → IO α) : IO (Except FileError α) :=
  match path.text? with
  | some text => attempt (action text)
  | none => return .error .notFound

/-- The files of the machine. -/
def files : FileAccess IO where
  read path := attemptOn path fun text => do
    return (← IO.FS.readBinFile text).toList
  kind path := do
    if path.bytes.isEmpty then return .error .notFound
    attemptOn path fun text => do
      let target := (← IO.currentDir) / text
      return match (← target.metadata).type with
        | .file => .file
        | .dir => .directory
        | _ => .other
  entries path := attemptOn path fun text => do
    let target := (← IO.currentDir) / text
    (← target.readDir).toList.mapM fun entry => do
      let kind := match (← entry.path.symlinkMetadata).type with
        | .file => .file
        | .dir => .directory
        | _ => .other
      return (Utf8.encode entry.fileName.toList, kind)
  absolute path := do
    match ← attemptOn path fun text => IO.FS.realPath text with
    | .ok target => return some (.ofText target.toString)
    | .error _ => return none

/-- The bytes of a stream up to its end. -/
partial def readAll (stream : IO.FS.Stream) (bytes : ByteArray) : IO ByteArray := do
  let chunk ← stream.read 65536
  if chunk.isEmpty then return bytes else readAll stream (bytes ++ chunk)

/-- The given number of bytes of a stream, or fewer if it ends before. -/
partial def readCount (stream : IO.FS.Stream) (count : Nat) (bytes : ByteArray) : IO ByteArray := do
  if count ≤ bytes.size then return bytes
  let chunk ← stream.read (count - bytes.size).toUSize
  if chunk.isEmpty then return bytes else readCount stream count (bytes ++ chunk)

/-- The header lines of a message; `none` when the stream ends. -/
partial def readHeaders (stream : IO.FS.Stream) (headers : List String) :
    IO (Option (List String)) := do
  let line ← stream.getLine
  if line.isEmpty then return none
  let header := trimString line
  if header.isEmpty then return some headers else readHeaders stream (headers ++ [header])

/-- What the programs are run with. -/
def host : IO (Host IO) := do
  let names := "XDG_CONFIG_HOME" :: "HOME" :: Settings.variableNames
  let values ← names.mapM fun name => do return (name, ← IO.getEnv name)
  return {
    files
    environment := fun name => (values.find? (·.1 == name)).bind (·.2)
    workingDirectory := .ofText (← IO.currentDir).toString
    standardInput := attempt do return (← readAll (← IO.getStdin) .empty).toList
    colors := ← (← IO.getStdout).isTty }

/-- Prints what a run has to say, and gives its code. -/
def finish (outcome : Outcome) : IO UInt32 := do
  IO.print outcome.output
  IO.eprint outcome.errors
  return outcome.code.toUInt32

/-- Answers the messages of a client until it leaves. -/
partial def serve (h : Host IO) (settings : Settings) (s : Session) : IO Unit := do
  let input ← IO.getStdin
  let output ← IO.getStdout
  match ← readHeaders input [] with
  | none => return ()
  | some headers =>
    let body ← readCount input ((contentLength? headers).getD 0) .empty
    let arrived := (Utf8.decode? body.toList).bind fun cs => Json.read? (String.ofList cs)
    let (s, messages) ← match arrived with
      | some j => s.arrive h.files settings h.workingDirectory j
      | none => pure (s, [RpcError.parseError.response .null])
    for message in messages do
      output.putStr (frame message)
    output.flush
    if s.phase = .exited then return () else serve h settings s

/-- The language server. -/
def runServer (h : Host IO) : IO UInt32 := do
  match ← Program.serverSettings h with
  | .error e => finish (Program.serverFailure e)
  | .ok settings =>
    serve h settings {}
    return 0

end XmlSchema.Machine

/-- Runs the program that it is called as. -/
def main (arguments : List String) : IO UInt32 := do
  let h ← XmlSchema.Machine.host
  if (← IO.appPath).fileName == some XmlSchema.serverName then XmlSchema.Machine.runServer h
  else XmlSchema.Machine.finish (← XmlSchema.Program.run h arguments)
