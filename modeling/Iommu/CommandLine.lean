/-
  The command line: `[OPTIONS] SCENARIO`.

  `readArguments` turns the arguments into `Options` or says what is wrong with them.  `respond` does
  the rest as a function of the files: the log filter is checked first, then the configuration is
  read, then the scenario, and then it runs.  What it answers says what to print and how to exit.
-/
import Iommu.Codec.Configuration
import Iommu.LogFilter
import Iommu.Scenario.Reader
import Iommu.Scenario.Run

namespace Iommu.CommandLine

open Text (quoted)

/-- What the arguments ask for. -/
structure Options where
  scenario : String
  /-- Path of a configuration; it goes before the preset. -/
  config : Option String
  preset : Configuration.Preset
  logLevel : Option String
  threads : Nat
deriving DecidableEq

/-! ## Arguments -/

/-- What is wrong with the arguments. -/
inductive UsageError
  | unknownOption (text : String)
  | surplus (text : String)
  | missingValue (option : String)
  | unexpectedValue (option : String)
  | repeated (option : String)
  | badValue (option value : String)
  | missingScenario
deriving DecidableEq

/-- The message of a command line that is refused. -/
def UsageError.message : UsageError → String
  | unknownOption s => "unexpected argument " ++ quoted s
  | surplus s => "unexpected argument " ++ quoted s
  | missingValue s => "a value is required for " ++ quoted s
  | unexpectedValue s => "unexpected value for " ++ quoted s
  | repeated s => "the argument " ++ quoted s ++ " cannot be used multiple times"
  | badValue s v => "invalid value " ++ quoted v ++ " for " ++ quoted s
  | missingScenario => "the following required arguments were not provided: SCENARIO"

/-- The arguments read so far. -/
structure Draft where
  scenario : Option String
  config : Option String
  preset : Option Configuration.Preset
  logLevel : Option String
  threads : Option Nat
deriving DecidableEq

/-- Nothing was given yet. -/
def Draft.empty : Draft := ⟨none, none, none, none, none⟩

/-- The options that take a value. -/
inductive OptionName
  | config
  | preset
  | logLevel
  | threads
deriving DecidableEq

/-- An option as it is typed. -/
def OptionName.text : OptionName → String
  | config => "--config"
  | preset => "--preset"
  | logLevel => "--log-level"
  | threads => "--threads"

/-- The options that take a value. -/
def OptionName.all : List OptionName := [config, preset, logLevel, threads]

/-- Sets an option that has not been set before. -/
def setOnce {α : Type} (name : OptionName) (old : Option α) (value : α) :
    Except UsageError (Option α) :=
  match old with
  | none => .ok (some value)
  | some _ => .error (.repeated name.text)

/-- Gives an option its value. -/
def Draft.set (p : Draft) (name : OptionName) (value : String) : Except UsageError Draft :=
  let bad := UsageError.badValue name.text value
  match name with
  | .config =>
    if value.isEmpty then .error bad
    else (setOnce name p.config value).map fun v => { p with config := v }
  | .preset =>
    match Configuration.Preset.ofName? value with
    | none => .error bad
    | some x => (setOnce name p.preset x).map fun v => { p with preset := v }
  | .logLevel => (setOnce name p.logLevel value).map fun v => { p with logLevel := v }
  | .threads =>
    match Text.readWord .ten value.toList with
    | .error _ => .error bad
    | .ok n => (setOnce name p.threads n.toNat).map fun v => { p with threads := v }

/-- Takes an argument that is no option. -/
def Draft.setScenario (p : Draft) (value : String) : Except UsageError Draft :=
  match p.scenario with
  | some _ => .error (.surplus value)
  | none =>
    if value.isEmpty then .error (.badValue "SCENARIO" value)
    else .ok { p with scenario := some value }

/-- What one argument is. -/
inductive Argument
  | plain (value : String)
  | option (name : OptionName)
  | assigned (name : OptionName) (value : String)
  | help
  | separator
  | wrong (why : UsageError)
deriving DecidableEq

/-- Classifies an argument.  A single dash is a plain value. -/
def classify (arg : String) : Argument :=
  match arg.toList with
  | ['-', '-'] => .separator
  | '-' :: '-' :: _ =>
    let name := String.ofList (arg.toList.takeWhile (· ≠ '='))
    match OptionName.all.find? fun o => o.text == name, arg.toList.dropWhile (· ≠ '=') with
    | some o, [] => .option o
    | some o, _ :: value => .assigned o (String.ofList value)
    | none, rest =>
      if name = "--help" then if rest.isEmpty then .help else .wrong (.unexpectedValue name)
      else .wrong (.unknownOption arg)
  | ['-'] => .plain arg
  | '-' :: 'h' :: _ => .help
  | '-' :: _ => .wrong (.unknownOption arg)
  | _ => .plain arg

/-- Whether an argument can be the value of the option before it. -/
def isValue (arg : String) : Bool :=
  match arg.toList with
  | ['-'] => true
  | '-' :: _ => false
  | _ => true

/-- What the arguments amount to: a run, or a request for help. -/
inductive Request
  | run (o : Options)
  | help
deriving DecidableEq

/-- The options, once all arguments are read. -/
def Draft.finish (p : Draft) : Except UsageError Request :=
  match p.scenario with
  | none => .error .missingScenario
  | some scenario =>
    .ok (.run { scenario, config := p.config, preset := p.preset.getD .standard,
                logLevel := p.logLevel, threads := p.threads.getD 0 })

/-- Reads arguments that are all plain. -/
def readPlain (p : Draft) : List String → Except UsageError Request
  | [] => p.finish
  | arg :: rest =>
    match p.setScenario arg with
    | .error e => .error e
    | .ok p => readPlain p rest

/-- Reads arguments in order. -/
def readMore (p : Draft) : List String → Except UsageError Request
  | [] => p.finish
  | arg :: rest =>
    match classify arg with
    | .wrong why => .error why
    | .help => .ok .help
    | .separator => readPlain p rest
    | .plain value =>
      match p.setScenario value with
      | .error e => .error e
      | .ok p => readMore p rest
    | .assigned name value =>
      match p.set name value with
      | .error e => .error e
      | .ok p => readMore p rest
    | .option name =>
      match rest with
      | [] => .error (.missingValue name.text)
      | value :: rest =>
        if isValue value then
          match p.set name value with
          | .error e => .error e
          | .ok p => readMore p rest
        else .error (.missingValue name.text)

/-- Reads the arguments of the command line. -/
def readArguments (args : List String) : Except UsageError Request := readMore .empty args

/-! ## The response -/

/-- What the program does in the end. -/
inductive Response
  | usage (why : UsageError)
  | help
  /-- The causes of a failure, the outermost first. -/
  | failed (chain : List String)
  | finished (report : Scenario.Report)

/-- The configuration that the options ask for. -/
def loadConfiguration (o : Options) (readFile : String → Option String) :
    Except (List String) Configuration :=
  match o.config with
  | none => .ok (.ofPreset o.preset)
  | some path =>
    match readFile path with
    | none => .error ["failed to read " ++ path]
    | some contents =>
      match Configuration.parse contents with
      | .ok c => .ok c
      | .error e => .error ["invalid configuration in " ++ path, e.message]

/-- The scenario that the options ask for. -/
def loadScenario (o : Options) (readFile : String → Option String) :
    Except (List String) Scenario :=
  match readFile o.scenario with
  | none => .error ["failed to read " ++ o.scenario]
  | some contents =>
    match Scenario.parse contents with
    | .ok s => .ok s
    | .error e => .error ["in " ++ o.scenario, "failed to parse scenario", e.message]

/-- Runs the scenario that the options ask for. -/
def execute (o : Options) (readFile : String → Option String) :
    Except (List String) Scenario.Report := do
  if let some level := o.logLevel then
    if !LogFilter.isLogFilter level then throw ["invalid log filter " ++ quoted level]
  let config ← loadConfiguration o readFile
  let controller ← match Controller.create config with
    | .ok c => pure c
    | .error e => throw ["failed to create SMMU controller", e.message]
  let scenario ← loadScenario o readFile
  match (scenario.run controller o.threads).2 with
  | .ok report => return report
  | .error e => throw e.chain

/-- The response to a list of arguments. -/
def respond (args : List String) (readFile : String → Option String) : Response :=
  match readArguments args with
  | .error why => .usage why
  | .ok .help => .help
  | .ok (.run o) =>
    match execute o readFile with
    | .ok report => .finished report
    | .error chain => .failed chain

/-- The files that a list of arguments may have read. -/
def filesNamed (args : List String) : List String :=
  match readArguments args with
  | .ok (.run o) => o.config.toList ++ [o.scenario]
  | _ => []

/-! ## Printing -/

/-- The causes of a failure on several lines: the outermost, and under it those behind it, numbered
    when there is more than one. -/
def renderChain : List String → String
  | [] => "Error"
  | [outer] => "Error: " ++ outer
  | [outer, cause] => "Error: " ++ outer ++ "\n\nCaused by:\n    " ++ cause
  | outer :: causes =>
    "Error: " ++ outer ++ "\n\nCaused by:" ++
      String.join (causes.zipIdx.map fun (c, i) => "\n    " ++ toString i ++ ": " ++ c)

/-- How the program is used. -/
def usageText : String :=
  "Replay device translations and queue traffic through an emulated SMMUv3\n\n"
    ++ "Usage: smmu-sim [OPTIONS] <SCENARIO>\n\n"
    ++ "Arguments:\n"
    ++ "  <SCENARIO>  Scenario JSON: streams, their mappings, and the steps to run\n\n"
    ++ "Options:\n"
    ++ "      --config <CONFIG>        Controller configuration JSON. Overrides `--preset`\n"
    ++ "      --preset <PRESET>        Built-in configuration used when `--config` is not given"
    ++ " [default: default] [possible values: default, high-performance, minimal, development]\n"
    ++ "      --log-level <LOG_LEVEL>  Tracing filter (e.g. `info`, `smmu=debug`)\n"
    ++ "      --threads <THREADS>      Replay every translation step this many times after the run"
    ++ " [default: 0]\n"
    ++ "  -h, --help                   Print help"

namespace Response

/-- How many expectations failed. -/
def failedExpectations : Response → Nat
  | finished report => report.failedExpectations
  | _ => 0

/-- The exit code. -/
def exitCode (r : Response) : UInt32 :=
  match r with
  | usage _ => 2
  | help => 0
  | failed _ => 1
  | finished _ => if r.failedExpectations = 0 then 0 else 1

/-- The report, which is printed even when expectations fail. -/
def report? : Response → Option Scenario.Report
  | finished report => some report
  | _ => none

/-- What goes to standard output. -/
def output : Response → Option String
  | finished report => some report.render
  | help => some usageText
  | _ => none

/-- What goes to the error output. -/
def errorOutput (r : Response) : Option String :=
  match r with
  | usage why => some ("error: " ++ why.message ++ "\n\nFor more information, try '--help'.")
  | help => none
  | failed chain => some (renderChain chain)
  | finished _ =>
    if r.failedExpectations = 0 then none
    else some (renderChain [toString r.failedExpectations ++ " expectation(s) failed"])

end Response

end Iommu.CommandLine
