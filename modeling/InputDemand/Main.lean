import InputDemand.Command.Run

/-!
# The command

Asks for the values on standard input and writes the request to standard output.  Everything that
is decided is decided by the library; here files and streams are read and written.
-/

namespace InputDemand.Main

/-- Writes what an outcome holds and hands on its status. -/
def finish (outcome : Outcome) : IO UInt32 := do
  (← IO.getStdout).putStr (String.ofList outcome.stdout)
  (← IO.getStderr).putStr (String.ofList outcome.stderr)
  return UInt32.ofNat outcome.exit

/-- Reads the reply to a question; the end of the input and a line that is no text cancel. -/
def readReply (input : IO.FS.Stream) : IO Reply := do
  try
    let line ← input.getLine
    if line.isEmpty then return .cancel
    return LineMode.replyOf line.toUTF8.toList
  catch _ =>
    return .cancel

/-- Puts the questions of a session that has started, one after the other. -/
partial def converse (input output : IO.FS.Stream) (session : Session) : IO Driven := do
  match session.question? with
  | none => return ⟨session, session.outcome, [], []⟩
  | some question =>
      output.putStr (String.ofList (LineMode.shown question))
      output.flush
      match ← readReply input with
      | .cancel => return { session.abandoned question [] with asked := [] }
      | .value text =>
          match session.submit text with
          | .error error => return ⟨session, .error error, [], []⟩
          | .ok answered => converse input output answered

/-- Asks for the values of an opened program.  What was reported and shown meanwhile is not written
again. -/
def ask (opened : Opened) : IO UInt32 := do
  (← IO.getStderr).putStr (String.ofList opened.report)
  let driven ← converse (← IO.getStdin) (← IO.getStdout) opened.session.start
  finish (Command.close { opened with report := [] } driven)

def fail (message : String) : IO UInt32 :=
  finish ⟨1, [], ("Error: " ++ message ++ "\n").toList⟩

def runOptions (options : Options) : IO UInt32 := do
  let path := String.ofList options.path
  try
    discard (IO.FS.readBinFile path)
  catch
    | .noFileOrDirectory .. => return ← finish (Command.fileMissing options.path)
    | error => return ← fail (toString error)
  if let some log := options.log? then IO.FS.writeFile (String.ofList log) ""
  match String.fromUTF8? (← IO.FS.readBinFile path) with
  | none => fail "stream did not contain valid UTF-8"
  | some source =>
      match Command.openSource options source.toList with
      | .error misplaced => fail ("no character at byte " ++ toString misplaced.offset)
      | .ok (.error outcome) => finish outcome
      | .ok (.ok opened) => ask opened

end InputDemand.Main

def main (arguments : List String) : IO UInt32 := do
  match InputDemand.Options.ofArguments (arguments.map String.toList) with
  | .error error =>
      InputDemand.Main.finish (InputDemand.Command.refused "input-demand".toList error)
  | .ok options => InputDemand.Main.runOptions options
