import Calculator.Decimal
import Calculator.Error
import Calculator.Evaluation
import Calculator.Log
import Calculator.Text.Basic

namespace Calculator

inductive Output where
  | out (line : String)
  | err (line : String)
  deriving DecidableEq

inductive ExitStatus where
  | success
  | failure
  | usage
  | aborted
  deriving DecidableEq

def ExitStatus.code : ExitStatus → Nat
  | .success => 0
  | .failure => 1
  | .usage => 2
  | .aborted => 101

/-- All that a program writes, in order, and how it ends. -/
structure Transcript where
  output : List Output
  status : ExitStatus
  deriving DecidableEq

namespace Transcript

def stdout (t : Transcript) : String :=
  .join (t.output.map fun
    | .out line => line ++ "\n"
    | .err _ => "")

def stderr (t : Transcript) : String :=
  .join (t.output.map fun
    | .out _ => ""
    | .err line => line ++ "\n")

def precededBy (output : List Output) (t : Transcript) : Transcript :=
  { t with output := output ++ t.output }

end Transcript

def Logged.output (x : Logged α) (v : Verbosity) : List Output :=
  (x.events v).map fun e => .err e.record

inductive Input where
  | line (text : String)
  | unreadable
  deriving DecidableEq

namespace Input

/-- Cuts bytes into lines without their LF or CR LF; bytes behind the last one are a line too. -/
def lines : List UInt8 → List (List UInt8)
  | [] => []
  | 13 :: 10 :: rest => [] :: lines rest
  | 10 :: rest => [] :: lines rest
  | b :: rest =>
    match lines rest with
    | [] => [[b]]
    | first :: later => (b :: first) :: later

/-- A line that is not UTF-8 cannot be read. -/
def ofLine (bytes : List UInt8) : Input :=
  match String.fromUTF8? ⟨bytes.toArray⟩ with
  | some text => .line text
  | none => .unreadable

def ofBytes (bytes : List UInt8) : List Input :=
  (lines bytes).map ofLine

end Input

/-- The settings of an interactive session. -/
structure Session where
  prompt : String := ">>> "
  precision : Nat := 2
  exitKeywords : List String := ["exit", "quit"]
  deriving DecidableEq

/-- What a line amounts to. A value at a precision over the limit cannot be written, and aborts
the program. -/
inductive Outcome where
  | exit
  | value (text : String)
  | failure (message : String)
  | abort
  deriving DecidableEq

namespace Session

def farewell : String := "Leaving the calculator."

def banner (s : Session) : String :=
  let keywords := s.exitKeywords.map fun k => "'" ++ k ++ "'"
  "Command-line calculator (type " ++ " or ".intercalate keywords ++ " to leave)"

/-- A line is an exit command if it is a keyword in any case, with white space around it or not. -/
def isExit (s : Session) (line : String) : Bool :=
  let word := Text.trim line.toList
  s.exitKeywords.any fun k => Text.eqIgnoringCase k.toList word

def maxPrecision : Nat := 65535

def format? (s : Session) (x : Binary64) : Option String :=
  if s.precision ≤ maxPrecision then some (x.fixed s.precision) else none

def answer (s : Session) (line : String) : Logged Outcome :=
  if s.isExit line then pure .exit
  else do
    match ← evaluateLogged line with
    | .ok x => pure ((s.format? x).elim .abort .value)
    | .error e =>
      Logged.report (.failed line e)
      pure (.failure e.message)

end Session

/-- What a session writes upon an input, and the status with which it ends there, if it does. -/
structure Reaction where
  output : List Output
  ending : Option ExitStatus
  deriving DecidableEq

namespace Session

def unreadableReason : String := "stream did not contain valid UTF-8"

def close (v : Verbosity) : List Output :=
  (Logged.report .sessionEnded).output v

def react (s : Session) (v : Verbosity) : Input → Reaction
  | .line text =>
    let answered := s.answer text
    let log := answered.output v
    match answered.value v with
    | .exit => ⟨log ++ .out farewell :: close v, some .success⟩
    | .value text => ⟨log ++ [.out ("Result: " ++ text)], none⟩
    | .failure message => ⟨log ++ [.err ("Error: " ++ message)], none⟩
    | .abort => ⟨log, some .aborted⟩
  | .unreadable =>
    let log := (Logged.report (.unreadable unreadableReason)).output v
    ⟨log ++ [.err ("Failed to read from the terminal: " ++ unreadableReason)], some .failure⟩

/-- The session behind its banner. Inputs behind its end have no effect. -/
def proceed (s : Session) (v : Verbosity) : List Input → Transcript
  | [] => ⟨close v, .success⟩
  | input :: rest =>
    let reaction := s.react v input
    match reaction.ending with
    | some status => ⟨reaction.output, status⟩
    | none => (s.proceed v rest).precededBy reaction.output

def run (s : Session) (v : Verbosity) (inputs : List Input) : Transcript :=
  (s.proceed v inputs).precededBy [.out s.banner]

end Session

end Calculator
