import CodeAppraisal.Config.Basic

/-!
The arguments of a run: a command with its options, some of which may also stand before it. The
value of an option is looked at only when the next option or the end is reached, so of two faults it
may be the later one that shows.
-/
namespace CodeAppraisal.CommandLine

inductive UsageStop where
  | help
  | version
  | nothingGiven
  | missingCommand
  | unknownCommand
  | unknownArgument
  | missingArgument
  | invalidValue
  | unreadableValue
  | repeatedArgument
  | unneededValue
  deriving DecidableEq, Repr

def UsageStop.exitCode : UsageStop → Nat
  | .help | .version => 0
  | _ => 2

inductive Parameter where
  | config
  | logLevel
  | host
  | port
  | format
  | force
  | file
  | help
  | version
  deriving DecidableEq, Repr

namespace Parameter

def long? : Parameter → Option String
  | config => some "config"
  | logLevel => some "log-level"
  | host => some "host"
  | port => some "port"
  | format => some "format"
  | force => some "force"
  | file => none
  | help => some "help"
  | version => some "version"

def short? : Parameter → Option Char
  | port => some 'p'
  | format => some 'f'
  | help => some 'h'
  | version => some 'V'
  | _ => none

def takesValue : Parameter → Bool
  | force | help | version => false
  | _ => true

def portOf? (value : String) : Option Nat :=
  match value.toList with
  | '-' :: cs => do if (← Config.digitsValue? cs) = 0 then some 0 else none
  | cs => Config.portOf? cs

def valueFault? (p : Parameter) (value : String) : Option UsageStop :=
  let oneOf (allowed : List String) : Option UsageStop :=
    if allowed.contains value then none else some .invalidValue
  match p with
  | config | file => if value.isEmpty then some .invalidValue else none
  | logLevel => oneOf ["error", "warn", "info", "debug", "trace"]
  | format => oneOf ["text", "json"]
  | port => if (portOf? value).isSome then none else some .unreadableValue
  | _ => none

end Parameter

inductive CommandName where
  | serve
  | analyze
  | init
  deriving DecidableEq, Repr

namespace CommandName

def ofString? : String → Option CommandName
  | "serve" => some serve
  | "analyze" => some analyze
  | "init" => some init
  | _ => none

end CommandName

def parameters : Option CommandName → List Parameter
  | none => [.config, .logLevel, .help, .version]
  | some .serve => [.host, .port, .config, .logLevel, .help]
  | some .analyze => [.format, .config, .logLevel, .help]
  | some .init => [.force, .config, .logLevel, .help]

def positional? : Option CommandName → Option Parameter
  | some .analyze => some .file
  | _ => none

structure Reading where
  values : List (Parameter × String)
  pending : Option (Parameter × List String)
  awaiting : Bool
  onlyValues : Bool
  deriving Repr

namespace Reading

def start : Reading := ⟨[], none, false, false⟩

def given (r : Reading) (p : Parameter) : Bool := (r.values.lookup p).isSome

def add (r : Reading) (p : Parameter) (values : List String) : Except UsageStop Reading :=
  match values with
  | [] => .error .invalidValue
  | value :: _ =>
    if r.given p then .error .repeatedArgument
    else
      match p.valueFault? value with
      | some stop => .error stop
      | none => .ok { r with values := r.values ++ [(p, value)] }

def resolve (r : Reading) : Except UsageStop Reading :=
  match r.pending with
  | some (p, values) => { r with pending := none, awaiting := false }.add p values
  | none => .ok { r with awaiting := false }

def flag (r : Reading) (p : Parameter) : Except UsageStop Reading := do
  let r ← r.resolve
  match p with
  | .help => throw .help
  | .version => throw .version
  | p => r.add p [""]

def option (r : Reading) (p : Parameter) : Option String → Except UsageStop Reading
  | some value => do (← r.resolve).add p [value]
  | none => do return { ← r.resolve with pending := some (p, []), awaiting := true }

def long (r : Reading) (allowed : List Parameter) (name : String) (value : Option String) :
    Except UsageStop Reading :=
  match allowed.find? (·.long? == some name) with
  | none => .error .unknownArgument
  | some p =>
    if p.takesValue then r.option p value
    else if value.isSome then .error .unneededValue
    else r.flag p

def short (allowed : List Parameter) : Reading → List Char → Except UsageStop Reading
  | r, [] => .ok r
  | r, c :: rest =>
    match allowed.find? (·.short? == some c) with
    | none => .error .unknownArgument
    | some p =>
      if p.takesValue then
        match rest with
        | [] => r.option p none
        | '=' :: value => r.option p (some (String.ofList value))
        | value => r.option p (some (String.ofList value))
      else do short allowed (← r.flag p) rest

def place (r : Reading) (command : Option CommandName) (arg : String) :
    Except UsageStop Reading :=
  let taken (p : Parameter) : Bool := r.given p || (r.pending.map (·.1)) == some p
  match positional? command with
  | some p =>
    if taken p then .error .unknownArgument
    else do return { ← r.resolve with pending := some (p, [arg]) }
  | none =>
    if command.isSome then .error .unknownArgument
    else if r.onlyValues && (arg == "help" || (CommandName.ofString? arg).isSome) then
      .error .unknownArgument
    else .error .unknownCommand

def splitLong (cs : List Char) : String × Option String :=
  let name := cs.takeWhile (· != '=')
  match cs.drop name.length with
  | [] => (String.ofList name, none)
  | _ :: value => (String.ofList name, some (String.ofList value))

def step (command : Option CommandName) (r : Reading) (arg : String) :
    Except UsageStop Reading :=
  if r.onlyValues then r.place command arg
  else
    match arg.toList with
    | ['-', '-'] => .ok { r with onlyValues := true }
    | '-' :: '-' :: cs =>
      let (name, value) := splitLong cs
      r.long (parameters command) name value
    | '-' :: c :: cs => short (parameters command) r (c :: cs)
    | _ =>
      match r.awaiting, r.pending with
      | true, some (p, values) =>
        .ok { r with pending := some (p, values ++ [arg]), awaiting := false }
      | _, _ => r.place command arg

end Reading

def helpOn (words : List String) : UsageStop :=
  match words with
  | [] => .help
  | [word] =>
    if word == "help" || (CommandName.ofString? word).isSome then .help else .unknownCommand
  | _ => .unknownCommand

inductive OutputFormat where
  | text
  | json
  deriving DecidableEq, Repr

inductive Command where
  | serve (host : Option String) (port : Option Nat)
  | analyze (file : String) (format : OutputFormat)
  | init (force : Bool)
  deriving DecidableEq, Repr

structure Invocation where
  config : Option String
  command : Command
  deriving DecidableEq, Repr

def commandOf (name : CommandName) (values : List (Parameter × String)) :
    Except UsageStop Command :=
  match name with
  | .serve =>
    .ok (.serve (values.lookup .host) ((values.lookup .port).bind Parameter.portOf?))
  | .init => .ok (.init (values.lookup .force).isSome)
  | .analyze =>
    match values.lookup .file with
    | some file =>
      .ok (.analyze file (if values.lookup .format == some "json" then .json else .text))
    | none => .error .missingArgument

def readCommand (name : CommandName) (args : List String) :
    Except UsageStop (List (Parameter × String) × Command) := do
  let r ← args.foldlM (Reading.step (some name)) .start
  let r ← r.resolve
  return (r.values, ← commandOf name r.values)

/-- The arguments from the first one on; those before the command are looked at after it. -/
def readFrom (r : Reading) : List String → Except UsageStop Invocation
  | [] => do
    let r ← r.resolve
    throw (if r.values.isEmpty then .nothingGiven else .missingCommand)
  | arg :: rest =>
    if !r.onlyValues && !r.awaiting && arg == "help" then .error (helpOn rest)
    else
      match if r.onlyValues || r.awaiting then none else CommandName.ofString? arg with
      | some name => do
        let (values, command) ← readCommand name rest
        let r ← r.resolve
        return ⟨values.lookup .config <|> r.values.lookup .config, command⟩
      | none => do readFrom (← r.step none arg) rest

def Invocation.ofArguments (args : List String) : Except UsageStop Invocation :=
  readFrom .start args

end CodeAppraisal.CommandLine
