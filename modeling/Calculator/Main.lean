import Calculator.CommandLine.Program

namespace Calculator

def Output.write : Output → IO Unit
  | .out line => IO.println line
  | .err line => IO.eprintln line

/-- The bytes up to the next line end, which is kept, or to the end of the stream. -/
partial def readLine (stdin : IO.FS.Stream) (line : List UInt8) : IO (List UInt8) := do
  match (← stdin.read 1).toList with
  | [] => return line.reverse
  | b :: _ => if b = 10 then return (b :: line).reverse else readLine stdin (b :: line)

def Input.next (stdin : IO.FS.Stream) : IO (Option Input) := do
  return (Input.ofBytes (← readLine stdin [])).head?

/-- Reads on until the session ends. Only a terminal is shown the prompt. -/
partial def interact (s : Session) (v : Verbosity) (stdin : IO.FS.Stream) : IO ExitStatus := do
  if ← stdin.isTty then
    IO.print s.prompt
    (← IO.getStdout).flush
  match ← Input.next stdin with
  | none =>
    (Session.close v).forM Output.write
    return .success
  | some input =>
    let reaction := s.react v input
    reaction.output.forM Output.write
    match reaction.ending with
    | some status => return status
    | none => interact s v stdin

def runProgram (arguments : List String) : IO ExitStatus := do
  match CommandLine.start arguments (← IO.getEnv "RUST_LOG") with
  | .finished transcript =>
    transcript.output.forM Output.write
    return transcript.status
  | .refused =>
    Output.write (.err CommandLine.usageLine)
    return .usage
  | .interactive s v =>
    Output.write (.out s.banner)
    interact s v (← IO.getStdin)

end Calculator

def main (arguments : List String) : IO UInt32 := do
  return (← Calculator.runProgram arguments).code.toUInt32
