import Calculator.Decimal
import Calculator.Error
import Calculator.Stacks

namespace Calculator

/-- The levels of log records, the gravest first. -/
inductive Level where
  | error
  | warn
  | info
  | debug
  | trace
  deriving DecidableEq

def Level.rank : Level → Nat
  | .error => 1
  | .warn => 2
  | .info => 3
  | .debug => 4
  | .trace => 5

def Level.name : Level → String
  | .error => "ERROR"
  | .warn => "WARN"
  | .info => "INFO"
  | .debug => "DEBUG"
  | .trace => "TRACE"

/-- The least grave level that is still recorded. -/
inductive Verbosity where
  | off
  | upTo (level : Level)
  deriving DecidableEq

namespace Verbosity

def admits : Verbosity → Level → Bool
  | .off, _ => false
  | .upTo most, level => level.rank ≤ most.rank

def ofName? (name : String) : Option Verbosity :=
  match name.toLower with
  | "off" => some .off
  | "error" => some (.upTo .error)
  | "warn" => some (.upTo .warn)
  | "info" => some (.upTo .info)
  | "debug" => some (.upTo .debug)
  | "trace" => some (.upTo .trace)
  | _ => none

/-- Warnings by default; every repetition of the option admits one level more. -/
def ofCount : Nat → Verbosity
  | 0 => .upTo .warn
  | 1 => .upTo .info
  | 2 => .upTo .debug
  | _ => .upTo .trace

end Verbosity

/-- What a calculator reports about its work. -/
inductive Event where
  | tokenized (text : String) (count : Nat)
  | applied (application : Application)
  | unjoined (operands : List Binary64)
  | evaluated (text : String) (value : Binary64)
  | failed (line : String) (error : Error)
  | sessionEnded
  | unreadable (reason : String)
  deriving DecidableEq

namespace Event

def level : Event → Level
  | .tokenized _ _ => .debug
  | .applied _ => .trace
  | .unjoined _ => .debug
  | .evaluated _ _ => .debug
  | .failed _ _ => .debug
  | .sessionEnded => .info
  | .unreadable _ => .error

def target : Event → String
  | .tokenized _ _ => "stackcalc"
  | .applied _ => "stackcalc::interpreter::evaluator::binary::core"
  | .unjoined _ => "stackcalc::interpreter::evaluator::core"
  | .evaluated _ _ => "stackcalc"
  | .failed _ _ => "stackcalc::shell"
  | .sessionEnded => "stackcalc::shell"
  | .unreadable _ => "stackcalc"

def message : Event → String
  | .tokenized text count => Text.quotedString text ++ " produced " ++ toString count ++ " tokens"
  | .applied a =>
    a.left.plain ++ " " ++ a.operator.symbol.toString ++ " " ++ a.right.plain ++ " = " ++
      a.value.plain
  | .unjoined operands =>
    "operand stack left with " ++ toString operands.length ++ " values: [" ++
      ", ".intercalate (operands.map Binary64.general) ++ "]"
  | .evaluated text value => Text.quotedString text ++ " evaluated to " ++ value.plain
  | .failed line error => "evaluation of " ++ Text.quotedString line ++ " failed: " ++ error.detail
  | .sessionEnded => "session ended"
  | .unreadable reason => "terminal error: " ++ reason

/-- The line of the log: the level in five columns, the target, the message. -/
def record (e : Event) : String :=
  let padding := "".pushn ' ' (5 - e.level.name.length)
  "[" ++ e.level.name ++ padding ++ " " ++ e.target ++ "] " ++ e.message

end Event

/-- A computation that may report events, of which those that the verbosity admits are kept. -/
def Logged (α : Type) := Verbosity → List Event × α

namespace Logged

def run (x : Logged α) (v : Verbosity) : List Event × α := x v

def events (x : Logged α) (v : Verbosity) : List Event := (x v).1

def value (x : Logged α) (v : Verbosity) : α := (x v).2

instance : Monad Logged where
  pure a := fun _ => ([], a)
  bind x f := fun v =>
    let (before, a) := x v
    let (after, b) := f a v
    (before ++ after, b)

def report (e : Event) : Logged Unit := fun v =>
  (if v.admits e.level then [e] else [], ())

def reportAll : List Event → Logged Unit
  | [] => pure ()
  | e :: es => do
    report e
    reportAll es

@[simp] theorem events_pure (a : α) (v : Verbosity) : (pure a : Logged α).events v = [] := rfl

@[simp] theorem value_pure (a : α) (v : Verbosity) : (pure a : Logged α).value v = a := rfl

@[simp] theorem events_bind (x : Logged α) (f : α → Logged β) (v : Verbosity) :
    (x >>= f).events v = x.events v ++ (f (x.value v)).events v := rfl

@[simp] theorem value_bind (x : Logged α) (f : α → Logged β) (v : Verbosity) :
    (x >>= f).value v = (f (x.value v)).value v := rfl

@[simp] theorem events_report (e : Event) (v : Verbosity) :
    (report e).events v = if v.admits e.level then [e] else [] := rfl

@[simp] theorem events_reportAll (es : List Event) (v : Verbosity) :
    (reportAll es).events v = es.filter (v.admits ·.level) := by
  induction es with
  | nil => rfl
  | cons e es ih => by_cases h : v.admits e.level <;> simp [reportAll, ih, h]

end Logged

end Calculator
