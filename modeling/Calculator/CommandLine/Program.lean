import Calculator.Session

namespace Calculator.CommandLine

inductive Item where
  | help
  | version
  | verbose
  | prompt (text : String)
  | precision (text : String)
  | expression (text : String)
  | unusable
  deriving DecidableEq

def Item.ofLetter : Char → Item
  | 'v' => .verbose
  | 'h' => .help
  | 'V' => .version
  | _ => .unusable

/-- A long option, with its value if an equals sign follows the name. -/
def Item.ofLong : String → Option String → Item
  | "help", none => .help
  | "version", none => .version
  | "verbose", none => .verbose
  | "prompt", some text => .prompt text
  | "precision", some text => .precision text
  | _, _ => .unusable

/-- An argument that starts with a hyphen is no value, the hyphen alone excepted. -/
def isValue (argument : String) : Bool :=
  argument == "-" || argument.toList.head? != some '-'

/-- Reads the arguments from left to right. The value of a long option may be the next argument,
and behind `--` there are expressions only. -/
def items : List String → List Item
  | [] => []
  | argument :: rest =>
    if argument = "--" then rest.map .expression
    else if isValue argument then .expression argument :: items rest
    else match argument.toList with
      | '-' :: '-' :: long =>
        let name := String.ofList (long.takeWhile (· ≠ '='))
        match long.dropWhile (· ≠ '=') with
        | _ :: text => .ofLong name (some (.ofList text)) :: items rest
        | [] =>
          if name = "prompt" || name = "precision" then
            match rest with
            | text :: rest =>
              if isValue text then .ofLong name (some text) :: items rest else [.unusable]
            | [] => [.unusable]
          else .ofLong name none :: items rest
      | letters => (letters.drop 1).map .ofLetter ++ items rest

structure Options where
  prompt : Option String := none
  precision : Option Nat := none
  verbose : Nat := 0
  expression : Option String := none
  deriving DecidableEq

inductive Request where
  | help
  | version
  | misuse
  | run (options : Options)
  deriving DecidableEq

/-- A natural number below `2 ^ 64`, with an optional plus sign. -/
def natural? (text : String) : Option Nat :=
  let digits := match text.toList with
    | '+' :: rest => rest
    | all => all
  if digits.isEmpty || !digits.all Char.isDigit then none
  else
    let n := Nat.ofDigitChars 10 digits 0
    if n < 0x10000000000000000 then some n else none

/-- The first item that asks for a text or cannot be used settles the request. Prompt, precision
and expression are given once at most. -/
def request (o : Options) : List Item → Request
  | [] => .run o
  | .help :: _ => .help
  | .version :: _ => .version
  | .unusable :: _ => .misuse
  | .verbose :: rest => request { o with verbose := o.verbose + 1 } rest
  | .prompt text :: rest =>
    if o.prompt.isSome then .misuse else request { o with prompt := some text } rest
  | .precision text :: rest =>
    match o.precision, natural? text with
    | none, some n => request { o with precision := some n } rest
    | _, _ => .misuse
  | .expression text :: rest =>
    if o.expression.isSome then .misuse else request { o with expression := some text } rest

def Request.ofArguments (arguments : List String) : Request :=
  request {} (items arguments)

def versionLine : String := "stackcalc 0.1.0"

def usageLine : String := "Usage: stackcalc [OPTIONS] [EXPRESSION]"

def helpLines : List String :=
  ["An interactive infix arithmetic calculator built on a two-stack evaluator.",
   "",
   usageLine,
   "",
   "Arguments:",
   "  [EXPRESSION]  Evaluates this expression once and exits instead of starting the " ++
     "interactive loop",
   "",
   "Options:",
   "      --prompt <PROMPT>        Text shown before each line in interactive mode " ++
     "[default: \">>> \"]",
   "      --precision <PRECISION>  Number of decimals printed for each result [default: 2]",
   "  -v, --verbose...             Raises the log level; repeat for more detail. " ++
     "`RUST_LOG` takes precedence",
   "  -h, --help                   Print help",
   "  -V, --version                Print version"]

/-- A program has either written all it will, refuses its arguments, or goes on to a session. -/
inductive Start where
  | finished (transcript : Transcript)
  | refused
  | interactive (session : Session) (verbosity : Verbosity)

/-- A log setting of the environment overrides the verbosity asked for, if it names one. -/
def Options.verbosityWith (o : Options) (logSetting : Option String) : Verbosity :=
  (logSetting.bind Verbosity.ofName?).getD (.ofCount o.verbose)

def Options.session (o : Options) : Session :=
  let standard : Session := {}
  { standard with
    prompt := o.prompt.getD standard.prompt
    precision := o.precision.getD standard.precision }

def once (s : Session) (v : Verbosity) (expression : String) : Transcript :=
  let evaluated := evaluateLogged expression
  let log := evaluated.output v
  match evaluated.value v with
  | .ok x =>
    match s.format? x with
    | some text => ⟨log ++ [.out text], .success⟩
    | none => ⟨log, .aborted⟩
  | .error e => ⟨log ++ [.err ("Error: " ++ e.message)], .failure⟩

def start (arguments : List String) (logSetting : Option String) : Start :=
  match Request.ofArguments arguments with
  | .help => .finished ⟨helpLines.map .out, .success⟩
  | .version => .finished ⟨[.out versionLine], .success⟩
  | .misuse => .refused
  | .run o =>
    let v := o.verbosityWith logSetting
    match o.expression with
    | some expression => .finished (once o.session v expression)
    | none => .interactive o.session v

/-- The whole program on a standard input that is known in advance. What the parser of the
arguments has to say about those it refuses is no part of the transcript. -/
def run (arguments : List String) (logSetting : Option String) (input : List UInt8) : Transcript :=
  match start arguments logSetting with
  | .finished transcript => transcript
  | .refused => ⟨[], .usage⟩
  | .interactive s v => s.run v (Input.ofBytes input)

end Calculator.CommandLine
