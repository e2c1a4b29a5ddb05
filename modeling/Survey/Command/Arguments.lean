import Survey.Text.Basic

/-!
The arguments of the command. An option may have its value behind an equals sign, in the next
argument or, for a single letter, in the same argument; single letters may stand together. A value
that is given apart is looked at only when the next argument is accepted.
-/
namespace Survey.Command

def usageText : String :=
  Text.join "\n"
    ["Usage: archlens <COMMAND>", "", "Commands:",
      "  analyze [PATH]  Analyze a project and report findings [alias: check]",
      "  agents          List registered agents",
      "  help            Print this message", "", "Options of analyze:",
      "  -c, --config <FILE>         Path to config YAML file",
      "  -f, --format <FORMAT>       Output format: pretty or json",
      "      --agents <IDS>          Run only these agents",
      "      --exclude-agent <IDS>   Skip these agents",
      "      --free-only             Run free-tier agents only",
      "      --license <TOKEN>       License token for pro-tier agents",
      "      --snapshot <FILE>       Snapshot file to compare against and refresh",
      "  -v, --verbose               Log debug output to stderr"]

/-- Why arguments are not taken. -/
inductive Usage where
  | helpWanted
  | versionWanted
  | nothingGiven
  | unknownSubcommand
  | unknownArgument
  | invalidValue
  | unwantedValue
  | repeated
  deriving DecidableEq

/-- The exit code of a command that is not taken. Being asked for help is no failure. -/
def Usage.exitCode : Usage → Nat
  | .helpWanted => 0
  | .versionWanted => 0
  | _ => 2

def Usage.message : Usage → String
  | .versionWanted => "archlens 0.1.0"
  | .helpWanted => usageText
  | .nothingGiven => usageText
  | .unknownSubcommand => "error: unrecognized subcommand\n\n" ++ usageText
  | .unknownArgument => "error: unexpected argument found\n\n" ++ usageText
  | .invalidValue => "error: invalid or missing value\n\n" ++ usageText
  | .unwantedValue => "error: unexpected value for an option that takes none\n\n" ++ usageText
  | .repeated => "error: an argument cannot be used multiple times\n\n" ++ usageText

inductive Format where
  | terminal | structured
  deriving DecidableEq

def Format.ofName? : String → Option Format
  | "pretty" => some .terminal
  | "json" => some .structured
  | _ => none

/-- What an analysis can be given. -/
inductive Parameter where
  | path | config | format | agents | excludeAgent | license | snapshot | freeOnly | verbose | help
  deriving DecidableEq

namespace Parameter

def ofLong? : String → Option Parameter
  | "config" => some .config
  | "format" => some .format
  | "agents" => some .agents
  | "exclude-agent" => some .excludeAgent
  | "license" => some .license
  | "snapshot" => some .snapshot
  | "free-only" => some .freeOnly
  | "verbose" => some .verbose
  | "help" => some .help
  | _ => none

def ofShort? : Char → Option Parameter
  | 'c' => some .config
  | 'f' => some .format
  | 'v' => some .verbose
  | 'h' => some .help
  | _ => none

def takesValue : Parameter → Bool
  | .freeOnly => false
  | .verbose => false
  | .help => false
  | _ => true

/-- Whether it may stand more than once; its values are lists then. -/
def isList : Parameter → Bool
  | .agents => true
  | .excludeAgent => true
  | _ => false

def accepts (p : Parameter) (value : String) : Bool :=
  match p with
  | .path => value ≠ ""
  | .config => value ≠ ""
  | .snapshot => value ≠ ""
  | .format => (Format.ofName? value).isSome
  | _ => true

/-- The values that one text holds. -/
def valuesIn (p : Parameter) (value : String) : List String :=
  if p.isList then Text.splitAt ',' value else [value]

end Parameter

structure Draft where
  given : List (Parameter × String) := []
  /-- What was given last, before it is looked at. -/
  pending : Option (Parameter × Option String) := none
  /-- Whether all that follows is no option. -/
  trailing : Bool := false

namespace Draft

/-- Take a parameter with its value, or the first reason not to. -/
def accept (d : Draft) (p : Parameter) (value : Option String) : Except Usage Draft :=
  if p = .help then .error .helpWanted
  else if p.takesValue ∧ value = none then .error .invalidValue
  else if ¬ p.isList ∧ d.given.any (fun entry => entry.1 = p) then .error .repeated
  else
    let text := value.getD ""
    if p.accepts text then .ok { d with given := d.given ++ (p.valuesIn text).map (p, ·) }
    else .error .invalidValue

/-- Look at what was given last. -/
def settle (d : Draft) : Except Usage Draft :=
  match d.pending with
  | some (p, value) => { d with pending := none }.accept p value
  | none => .ok d

def take (d : Draft) (p : Parameter) (value : Option String) : Except Usage Draft := do
  (← d.settle).accept p value

/-- Take a parameter whose value is to follow. -/
def await (d : Draft) (p : Parameter) : Except Usage Draft := do
  return { ← d.settle with pending := some (p, none) }

/-- Take a text that is no option: the value that is awaited, or the path. -/
def takeText (d : Draft) (text : String) : Except Usage Draft :=
  match d.trailing, d.pending with
  | false, some (p, none) => .ok { d with pending := some (p, some text) }
  | _, _ =>
    let isPath (entry : Parameter × Option String) : Bool := entry.1 = .path
    if d.pending.any isPath || d.given.any (fun entry => entry.1 = .path) then
      .error .unknownArgument
    else do return { ← d.settle with pending := some (.path, some text) }

def takeLong (d : Draft) (name : String) (value : Option String) : Except Usage Draft :=
  match Parameter.ofLong? name with
  | none => .error .unknownArgument
  | some p =>
    if p.takesValue then
      match value with
      | some v => d.take p (some v)
      | none => d.await p
    else if value.isSome then .error .unwantedValue
    else d.take p none

/-- Take options by single letters. The first that takes a value has the rest for it. -/
def takeShort (d : Draft) : List Char → Except Usage Draft
  | [] => .ok d
  | c :: rest =>
    match Parameter.ofShort? c with
    | none => .error .unknownArgument
    | some p =>
      if p.takesValue then
        match rest with
        | [] => d.await p
        | '=' :: value => d.take p (some (String.ofList value))
        | value => d.take p (some (String.ofList value))
      else do (← d.take p none).takeShort rest

def next (d : Draft) (arg : String) : Except Usage Draft :=
  if d.trailing then d.takeText arg
  else
    match arg.toList with
    | ['-', '-'] => .ok { d with trailing := true }
    | '-' :: '-' :: long =>
      let (name, value) := Text.cut (· = '=') long
      d.takeLong (String.ofList name) (value.map String.ofList)
    | '-' :: c :: rest => d.takeShort (c :: rest)
    | _ => d.takeText arg

def value? (d : Draft) (p : Parameter) : Option String :=
  d.given.lookup p

def values (d : Draft) (p : Parameter) : List String :=
  (d.given.filter fun entry => entry.1 = p).map Prod.snd

end Draft

structure Arguments where
  path : String := "."
  config : Option String := none
  format : Format := .terminal
  agents : List String := []
  excludeAgents : List String := []
  freeOnly : Bool := false
  license : Option String := none
  snapshot : Option String := none
  verbose : Bool := false

def Arguments.ofDraft (d : Draft) : Arguments where
  path := (d.value? .path).getD "."
  config := d.value? .config
  format := ((d.value? .format).bind Format.ofName?).getD .terminal
  agents := d.values .agents
  excludeAgents := d.values .excludeAgent
  freeOnly := (d.value? .freeOnly).isSome
  license := d.value? .license
  snapshot := d.value? .snapshot
  verbose := (d.value? .verbose).isSome

def Arguments.parse (args : List String) : Except Usage Arguments := do
  return .ofDraft (← (← args.foldlM Draft.next {}).settle)

end Command

inductive Command where
  | analyze (arguments : Command.Arguments)
  | agents

namespace Command

def subcommands : List String :=
  ["analyze", "check", "agents", "help"]

def noArguments : List String → Except Usage Unit
  | [] => .ok ()
  | "--" :: rest => if rest.isEmpty then .ok () else .error .unknownArgument
  | "--help" :: _ => .error .helpWanted
  | arg :: _ =>
    if Text.leads "--help=" arg then .error .unwantedValue
    else if Text.leads "-h" arg then .error .helpWanted
    else .error .unknownArgument

/-- What becomes of a call for help on something. -/
def helpOn : List String → Usage
  | [] => .helpWanted
  | [name] => if subcommands.contains name then .helpWanted else .unknownSubcommand
  | _ => .unknownSubcommand

/-- What becomes of an option in front of what is to be done. -/
def leadingOption (arg : String) : Usage :=
  match arg.toList with
  | '-' :: '-' :: long =>
    let (name, value) := Text.cut (· = '=') long
    if name = "help".toList then (if value.isSome then .unwantedValue else .helpWanted)
    else if name = "version".toList then (if value.isSome then .unwantedValue else .versionWanted)
    else .unknownArgument
  | '-' :: 'h' :: _ => .helpWanted
  | '-' :: 'V' :: _ => .versionWanted
  | '-' :: _ :: _ => .unknownArgument
  | _ => .unknownSubcommand

def parse : List String → Except Usage Command
  | [] => .error .nothingGiven
  | "analyze" :: args => do return .analyze (← Arguments.parse args)
  | "check" :: args => do return .analyze (← Arguments.parse args)
  | "agents" :: args => do
    noArguments args
    return .agents
  | "help" :: names => .error (helpOn names)
  | ["--"] => .error .nothingGiven
  | "--" :: name :: _ =>
    .error (if subcommands.contains name then .unknownArgument else .unknownSubcommand)
  | arg :: _ => .error (leadingOption arg)

end Command

end Survey
