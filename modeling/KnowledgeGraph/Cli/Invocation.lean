import KnowledgeGraph.Config.Settings

/-!
# The command line

A command with its options. The options that belong to no command may stand before or behind it.
What cannot be understood is refused with a line that says why.
-/

namespace KnowledgeGraph.Cli

inductive Kind where
  | serve
  | initSchema
  | loadCypher
  | generateKey
  deriving DecidableEq

def Kind.name : Kind → String
  | .serve => "serve"
  | .initSchema => "init-schema"
  | .loadCypher => "load-cypher"
  | .generateKey => "generate-key"

def Kind.all : List Kind := [.serve, .initSchema, .loadCypher, .generateKey]

inductive Switch where
  | verbose
  | config
  | help
  | version
  | listen
  | dimensions
  | wipe
  deriving DecidableEq

namespace Switch

def long : Switch → String
  | .verbose => "verbose"
  | .config => "config"
  | .help => "help"
  | .version => "version"
  | .listen => "listen"
  | .dimensions => "dimensions"
  | .wipe => "wipe"

def short? : Switch → Option Char
  | .verbose => some 'v'
  | .config => some 'c'
  | .help => some 'h'
  | .version => some 'V'
  | .listen => some 'l'
  | .dimensions => some 'd'
  | .wipe => none

def value? : Switch → Option String
  | .config => some "CONFIG"
  | .listen => some "LISTEN"
  | .dimensions => some "DIMENSIONS"
  | _ => none

def text (s : Switch) : String :=
  match s.value? with
  | some value => "--" ++ s.long ++ " <" ++ value ++ ">"
  | none => "--" ++ s.long

/-- The switches that may follow a command, or stand before any. -/
def known : Option Kind → List Switch
  | none => [.verbose, .config, .help, .version]
  | some .serve => [.verbose, .config, .help, .listen]
  | some .initSchema => [.verbose, .config, .help, .dimensions]
  | some .loadCypher => [.verbose, .config, .help, .wipe]
  | some .generateKey => [.verbose, .config, .help]

end Switch

inductive Refusal where
  | unknownSwitch (arg : String)
  | unknownCommand (name : String)
  | unexpectedValue (s : Switch) (value : String)
  | missingValue (s : Switch)
  | invalidValue (s : Switch) (value cause : String)
  | repeated (s : Switch)
  | missingArgument
  | missingCommand
  deriving DecidableEq

def purpose : String := "HTTP/JSON backend for the Atlas of Us personal knowledge graph"

def Refusal.message : Refusal → String
  | .unknownSwitch arg => "error: unexpected argument '" ++ arg ++ "' found"
  | .unknownCommand name => "error: unrecognized subcommand '" ++ name ++ "'"
  | .unexpectedValue s value =>
    "error: unexpected value '" ++ value ++ "' for '" ++ s.text ++ "' found; no more were expected"
  | .missingValue s => "error: a value is required for '" ++ s.text ++ "' but none was supplied"
  | .invalidValue s value cause =>
    "error: invalid value '" ++ value ++ "' for '" ++ s.text ++ "': " ++ cause
  | .repeated s => "error: the argument '" ++ s.text ++ "' cannot be used multiple times"
  | .missingArgument => "error: the following required arguments were not provided:"
  | .missingCommand => purpose

-- ---------------------------------------------------------------------------
-- Reading arguments one by one.

structure Scan where
  command : Option Kind := none
  given : List (Switch × String) := []
  words : List String := []
  /-- A switch whose value is to come. -/
  pending : Option Switch := none
  /-- Switches are no longer looked for. -/
  onlyWords : Bool := false

namespace Scan

def give (s : Scan) (switch : Switch) (value : String) : Except Refusal Scan :=
  if s.given.any (·.1 = switch) then .error (.repeated switch)
  else .ok { s with given := s.given ++ [(switch, value)], pending := none }

def meet (s : Scan) (switch : Switch) (value : Option String) : Except Refusal Scan :=
  match switch.value?, value with
  | some _, some value => s.give switch value
  | some _, none => .ok { s with pending := some switch }
  | none, some value => .error (.unexpectedValue switch value)
  | none, none => s.give switch ""

def long (s : Scan) (body : String) : Except Refusal Scan :=
  let (name, value) := match Text.splitOnce? '=' body with
    | some (name, value) => (name, some value)
    | none => (body, none)
  match (Switch.known s.command).find? (·.long = name) with
  | some switch => s.meet switch value
  | none => .error (.unknownSwitch ("--" ++ name))

/-- Switches of one letter each; a value may follow the last one, with or without a sign. -/
def short (s : Scan) : List Char → Except Refusal Scan
  | [] => .ok s
  | c :: cs =>
    match (Switch.known s.command).find? (·.short? = some c) with
    | none => .error (.unknownSwitch (String.ofList ['-', c]))
    | some switch =>
      if switch.value?.isNone then do short (← s.meet switch none) cs
      else
        match cs with
        | [] => s.meet switch none
        | '=' :: value => s.meet switch (some (String.ofList value))
        | value => s.meet switch (some (String.ofList value))

def maxWords : Kind → Nat
  | .loadCypher => 1
  | _ => 0

def word (s : Scan) (arg : String) : Except Refusal Scan :=
  match s.command with
  | none =>
    if arg = "help" then s.give .help ""
    else
      match Kind.all.find? (·.name = arg) with
      | some kind => .ok { s with command := some kind }
      | none => .error (.unknownCommand arg)
  | some kind =>
    if s.words.length < maxWords kind then .ok { s with words := s.words ++ [arg] }
    else .error (.unknownSwitch arg)

def plain (s : Scan) (arg : String) : Except Refusal Scan :=
  if s.onlyWords then s.word arg
  else
    match arg.toList with
    | ['-', '-'] => .ok { s with onlyWords := true }
    | '-' :: '-' :: body => s.long (String.ofList body)
    | '-' :: c :: cs => s.short (c :: cs)
    | _ => s.word arg

def isSwitch (arg : String) : Bool :=
  match arg.toList with
  | '-' :: _ :: _ => true
  | _ => false

def step (s : Scan) (arg : String) : Except Refusal Scan :=
  match s.pending with
  | none => s.plain arg
  | some switch =>
    if isSwitch arg then do
      discard <| { s with pending := none }.plain arg
      throw (.missingValue switch)
    else s.give switch arg

def value? (s : Scan) (switch : Switch) : Option String := s.given.lookup switch

def has (s : Scan) (switch : Switch) : Bool := (s.value? switch).isSome

end Scan

-- ---------------------------------------------------------------------------
-- Invocations.

inductive Command where
  | serve (listen : Option Network.Address)
  | initSchema (dimensions : Option Nat)
  | loadCypher (folder : String) (wiping : Bool)
  | generateKey

structure Invocation where
  verbose : Bool
  config : Option String
  command : Command

inductive Wish where
  | run (i : Invocation)
  | help
  | version

def readDimensions (text : String) : Except Refusal Nat :=
  let refuse (cause : String) := .error (.invalidValue .dimensions text cause)
  match Config.readNat? maxNat64 text with
  | some n => .ok n
  | none =>
    if text.isEmpty then refuse "cannot parse integer from empty string"
    else if !(Config.digits text).isEmpty && (Config.digits text).all Char.isDigit then
      refuse "number too large to fit in target type"
    else refuse "invalid digit found in string"

def readListen (text : String) : Except Refusal Network.Address :=
  match Network.Address.read? text with
  | some a => .ok a
  | none => .error (.invalidValue .listen text "invalid socket address syntax")

def Scan.readCommand (s : Scan) : Kind → Except Refusal Command
  | .serve => return .serve (← (s.value? .listen).mapM readListen)
  | .initSchema => return .initSchema (← (s.value? .dimensions).mapM readDimensions)
  | .loadCypher =>
    match s.words with
    | folder :: _ => .ok (.loadCypher folder (s.has .wipe))
    | [] => .error .missingArgument
  | .generateKey => .ok .generateKey

def read (env : Telemetry.Environment) (args : List String) : Except Refusal Wish := do
  let s ← args.foldlM Scan.step {}
  if let some switch := s.pending then throw (.missingValue switch)
  if s.has .help then return .help
  if s.has .version then return .version
  match s.command with
  | none => throw .missingCommand
  | some kind =>
    return .run {
      verbose := s.has .verbose
      config := (s.value? .config).orElse fun _ => env "ATLAS_CONFIG_PATH"
      command := ← s.readCommand kind }

end KnowledgeGraph.Cli
