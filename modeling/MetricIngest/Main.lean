/-
  The command line.

  Lines are read from the standard input as they come. Their records go through
  the writer at once, and what it has written by then is put out, so that the
  output follows the input.
-/
import MetricIngest.Program
import Std.Time.DateTime.Timestamp

namespace MetricIngest

namespace CommandLine

/-! ### Files and the environment -/

/-- What a failure of the system stands for. -/
def cause : IO.Error → IoError
  | .noFileOrDirectory .. => .notFound
  | e => .other (toString e)

/-- Do something that may fail. -/
def attempt {α : Type} (act : IO α) : IO (Except IoError α) := do
  try return .ok (← act) catch e => return .error (cause e)

/-- The bytes of a file. -/
def readFile (path : String) : IO (Except IoError (List UInt8)) :=
  attempt (return (← IO.FS.readBinFile path).toList)

/-- The bytes of a file that may not be named. -/
def readOptional (path : Option String) : IO (Except IoError (List UInt8)) :=
  match path with
  | none => return .error .notFound
  | some path => readFile path

/-- The variables that the program looks at. -/
def environment : IO Settings.Environment := do
  let keys := [Settings.Environment.file, Settings.Environment.rulesFile,
    Settings.Environment.logLevel, Settings.Environment.concurrency,
    Settings.Environment.bulkMax, Settings.Environment.index]
  let values ← keys.mapM fun key => return (key, ← IO.getEnv key)
  return fun key => (values.lookup key).join

/-- The time on the clock. -/
def now : IO Timestamp := do
  let t ← Std.Time.Timestamp.now
  return ⟨t.toNanosecondsSinceUnixEpoch.val⟩

/-- Where lines are written. -/
def openOutput (o : Settings.Output) : IO (Except ProgramError IO.FS.Stream) :=
  match o.kind, o.path with
  | .file, some path => do
    let stream ← attempt (return .ofHandle (← IO.FS.Handle.mk path .append))
    return stream.mapError (.sink ∘ .io)
  | .file, none => return .error .missingPath
  | .stdout, _ => return .ok (← IO.getStdout)

/-- Make the template of the indices unless something is at its place. -/
def writeTemplate (sink : LinesSink) : IO Unit := do
  if let some path := sink.templatePath then
    let _ ← attempt (do
      let h ← IO.FS.Handle.mk path .writeNew
      h.putStr (String.ofList sink.templateText)
      h.flush)

/-! ### Working through the input -/

/-- A run of the program: its decoder, what has been read of an unfinished line,
the writer, the output, and the time of its start in milliseconds. -/
structure Live where
  decoder : Decoder
  rest : List UInt8
  session : WriterSession
  output : IO.FS.Stream
  started : Nat

/-- Put out what the writer has written. -/
def Live.emit (l : Live) : IO Live := do
  match l.session.sink with
  | .lines sink =>
    l.output.putStr (String.ofList sink.device.text)
    l.output.flush
    return { l with session := { l.session with sink := .lines { sink with device := .empty } } }
  | _ => return l

/-- Decode lines and write their records. -/
def Live.feed (l : Live) (lines : List (List UInt8)) : IO Live := do
  let time ← now
  let elapsed := (← IO.monoMsNow) - l.started
  let records := lines.filterMap fun line => (l.decoder.decodeBytes time line).bind (·.toOption)
  let session := (l.session.advance (elapsed - l.session.writer.now)).push records
  { l with session }.emit

/-- Work through the input to its end. -/
partial def Live.loop (l : Live) (input : IO.FS.Stream) : IO Unit := do
  let bytes ← input.read 65536
  if bytes.isEmpty then
    let l ← l.feed (if l.rest.isEmpty then [] else [l.rest])
    let _ ← { l with session := l.session.closeBuffer }.emit
  else
    let (lines, rest) := Text.cutLines (l.rest ++ bytes.toList)
    let l ← { l with rest }.feed lines
    l.loop input

/-- Go on with a result, or end the program with its error. -/
def orEnd {α ε : Type} (wrap : ε → ProgramError) (result : Except ε α) :
    ExceptT ProgramError IO α :=
  ExceptT.mk (pure (result.mapError wrap))

/-- Run the program. -/
def run : ExceptT ProgramError IO Unit := do
  let env ← environment
  let file ← readOptional (env Settings.Environment.file)
  let settings ← orEnd .settings (Settings.load env fun _ => file)
  let rulesText ← readOptional settings.decoder.rulesFile
  let rules ← orEnd .rules (Program.loadRules settings fun _ => rulesText)
  let output ← ExceptT.mk (openOutput settings.sink)
  let sink := Program.linesSink settings.sink
  writeTemplate sink
  let session := WriterSession.start settings.writer .empty (.ofSeed 0 .none)
    (.lines { sink with templatePath := none }) default 0 false
  let live : Live := ⟨⟨rules, settings.decoder.mode⟩, [], session, output, ← IO.monoMsNow⟩
  live.loop (← IO.getStdin)

end CommandLine

end MetricIngest

/-- The program ends with one if it could not start. -/
def main : IO UInt32 := do
  match ← MetricIngest.CommandLine.run.run with
  | .ok () => return 0
  | .error e =>
    (← IO.getStderr).putStrLn ("Error: " ++ e.label ++ "(" ++ e.message ++ ")")
    return 1
