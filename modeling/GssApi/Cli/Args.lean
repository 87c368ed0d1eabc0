import GssApi.Text.Numeral
import GssApi.Text.Quote
import GssApi.Text.ControlSequence
/-! The command line of the `gss` tool.

The tool has three commands: `status` decodes a legacy status word given with `--major`
(and an optional `--minor`, default 0), each written in decimal or as hexadecimal after
`0x`; `mechs` lists the installed mechanisms; `selftest` runs a handshake and a message round
trip in memory. `-v`/`--verbose` may be given anywhere, at most once. `-h`/`--help` prints
help, `-V`/`--version` (before the command) the version, and `help` prints the help of a
command.

Arguments are read from left to right and the first fault ends the reading: an unknown
argument or command, an option without a value, an option given twice, or a value that is
not a status word; a missing `--major` is noticed after the last argument. A value given in
the argument after its option is checked only when the next option is acted on or the
arguments end, so an unknown argument after it is reported first. After `--` no argument is
an option or a command. A fault is reported on standard error with exit code 2;
help and version go to standard output with exit code 0. A command line with neither a
command nor an option prints the help on standard error and exits with code 2. -/
namespace GssApi.Cli

/-- The version the tool reports. -/
def version : String := "0.4.0"

/-- What the tool prints and its exit code. -/
structure Output where
  code : UInt32
  stdout : String := ""
  stderr : String := ""
  deriving DecidableEq

/-- The key type of the self test's session keys. -/
inductive Profile where
  | des
  | des3
  deriving DecidableEq

/-- A command with its arguments. -/
inductive Command where
  | status (major minor : UInt32)
  | mechs
  | selftest (config : Option String) (mutualAuth : Bool) (profile : Profile)
  deriving DecidableEq

/-- A command line as read: the command and whether logging is verbose. -/
structure Invocation where
  command : Command
  verbose : Bool
  deriving DecidableEq

def topHelp : String :=
  "Generic Security Service tools\n\n" ++
  "Usage: gss [OPTIONS] <COMMAND>\n\n" ++
  "Commands:\n" ++
  "  status    Decode a legacy major status word\n" ++
  "  mechs     List installed mechanisms\n" ++
  "  selftest  Run an in-memory handshake and wrap/unwrap round trip\n" ++
  "  help      Print this message or the help of the given subcommand(s)\n\n" ++
  "Options:\n" ++
  "  -v, --verbose  Enable verbose logging\n" ++
  "  -h, --help     Print help\n" ++
  "  -V, --version  Print version\n"

def statusHelp : String :=
  "Decode a legacy major status word\n\n" ++
  "Usage: gss status [OPTIONS] --major <MAJOR>\n\n" ++
  "Options:\n" ++
  "      --major <MAJOR>  Major status word (decimal or 0x-prefixed hex)\n" ++
  "      --minor <MINOR>  Mechanism minor code [default: 0]\n" ++
  "  -v, --verbose        Enable verbose logging\n" ++
  "  -h, --help           Print help\n"

def mechsHelp : String :=
  "List installed mechanisms\n\n" ++
  "Usage: gss mechs [OPTIONS]\n\n" ++
  "Options:\n" ++
  "  -v, --verbose  Enable verbose logging\n" ++
  "  -h, --help     Print help\n"

def selftestHelp : String :=
  "Run an in-memory handshake and wrap/unwrap round trip\n\n" ++
  "Usage: gss selftest [OPTIONS]\n\n" ++
  "Options:\n" ++
  "  -c, --config <CONFIG>    Config file path (default: <config dir>/gss/config.toml if present)\n" ++
  "  -m, --mutual             Request mutual authentication\n" ++
  "  -p, --profile <PROFILE>  Session key profile [default: des3] [possible values: des, des3]\n" ++
  "  -v, --verbose            Enable verbose logging\n" ++
  "  -h, --help               Print help\n"

def helpHelp : String :=
  "Print this message or the help of the given subcommand(s)\n\n" ++
  "Usage: gss help [COMMAND]...\n\n" ++
  "Arguments:\n" ++
  "  [COMMAND]...  Print help for the subcommand(s)\n"

def topUsage : String := "gss [OPTIONS] <COMMAND>"

/-- A fault in the arguments, reported with the usage of the command being read. -/
def fault (usage message : String) : Output :=
  { code := 2, stderr := "error: " ++ message ++ "\n\nUsage: " ++ usage ++
      "\n\nFor more information, try '--help'.\n" }

/-- An argument as a fault quotes it. Faults highlight the argument for a terminal; written
elsewhere, the highlight goes, and with it every control sequence of the argument, an escape
left open being closed by the end of the highlight. -/
def shown (arg : String) : String := Text.withoutControlSequences arg

/-- The fault of a name that is no command. -/
def unrecognized (usage name : String) : Output :=
  fault usage ("unrecognized subcommand '" ++ shown name ++ "'")

def printed (text : String) : Output := { code := 0, stdout := text }

/-- A status word: decimal, or hexadecimal after `0x` or `0X`. -/
def parseWord (s : String) : Except String UInt32 :=
  let digits := if s.startsWith "0x" ∨ s.startsWith "0X" then (16, s.drop 2) else (10, s.toSlice)
  match Text.parseUnsigned digits.1 UInt32.size digits.2.copy with
  | .ok n => .ok n.toUInt32
  | .error e => .error ("invalid status word " ++ Text.quote s ++ ": " ++ e.message)

/-- Whether an argument is read as a flag rather than a value. -/
def isFlagLike (arg : String) : Bool := arg.startsWith "-" && arg != "-"

/-- Which options a reading accepts: those before the command or those of one command. -/
inductive Scope where
  | top
  | status
  | mechs
  | selftest
  deriving DecidableEq

def Scope.usage : Scope → String
  | .top => "gss [OPTIONS] <COMMAND>"
  | .status => "gss status [OPTIONS] --major <MAJOR>"
  | .mechs => "gss mechs [OPTIONS]"
  | .selftest => "gss selftest [OPTIONS]"

def Scope.help : Scope → String
  | .top => topHelp
  | .status => statusHelp
  | .mechs => mechsHelp
  | .selftest => selftestHelp

/-- What an option is. -/
inductive OptionKind where
  | help
  | version
  | verbose
  | mutualAuth
  /-- An option that takes a value, with its display in messages. -/
  | value (display : String)
  deriving DecidableEq

/-- The option with a long name in a scope. -/
def Scope.long : Scope → String → Option OptionKind
  | _, "help" => some .help
  | _, "verbose" => some .verbose
  | .top, "version" => some .version
  | .status, "major" => some (.value "--major <MAJOR>")
  | .status, "minor" => some (.value "--minor <MINOR>")
  | .selftest, "mutual" => some .mutualAuth
  | .selftest, "config" => some (.value "--config <CONFIG>")
  | .selftest, "profile" => some (.value "--profile <PROFILE>")
  | _, _ => none

/-- The long name of the option with a short name in a scope. -/
def Scope.short : Scope → Char → Option String
  | _, 'h' => some "help"
  | _, 'v' => some "verbose"
  | .top, 'V' => some "version"
  | .selftest, 'm' => some "mutual"
  | .selftest, 'c' => some "config"
  | .selftest, 'p' => some "profile"
  | _, _ => none

/-- The options read so far. -/
structure Reading where
  verbose : Bool := false
  major : Option UInt32 := none
  minor : Option UInt32 := none
  config : Option String := none
  mutualAuth : Bool := false
  profile : Option Profile := none

/-- Record the value of an option. -/
def Reading.setValue (scope : Scope) (r : Reading) (name display value : String) :
    Except Output Reading :=
  let twice := fault scope.usage ("the argument '" ++ display ++ "' cannot be used multiple times")
  let invalid (e : String) :=
    fault scope.usage ("invalid value '" ++ shown value ++ "' for '" ++ display ++ "': " ++ e)
  match name with
  | "major" =>
    if r.major.isSome then .error twice
    else match parseWord value with
      | .ok w => .ok { r with major := some w }
      | .error e => .error (invalid e)
  | "minor" =>
    if r.minor.isSome then .error twice
    else match parseWord value with
      | .ok w => .ok { r with minor := some w }
      | .error e => .error (invalid e)
  | "config" => if r.config.isSome then .error twice else .ok { r with config := some value }
  | _ =>
    if r.profile.isSome then .error twice
    else match value with
      | "des" => .ok { r with profile := some .des }
      | "des3" => .ok { r with profile := some .des3 }
      | _ => .error (fault scope.usage ("invalid value '" ++ shown value ++ "' for '" ++ display ++
          "'\n  [possible values: des, des3]"))

/-- Act on a flag. Help and version end the reading with their text. -/
def Reading.flag (scope : Scope) (r : Reading) : OptionKind → Except Output Reading
  | .help => .error (printed scope.help)
  | .version => .error (printed ("gss " ++ version ++ "\n"))
  | .verbose =>
    if r.verbose then
      .error (fault scope.usage "the argument '--verbose' cannot be used multiple times")
    else .ok { r with verbose := true }
  | .mutualAuth =>
    if r.mutualAuth then
      .error (fault scope.usage "the argument '--mutual' cannot be used multiple times")
    else .ok { r with mutualAuth := true }
  | .value _ => .ok r

/-- The fault of an option that is left without a value. -/
def noValue (scope : Scope) (display : String) : Output :=
  fault scope.usage ("a value is required for '" ++ display ++ "' but none was supplied")

/-- The fault of an argument that no option or command takes. -/
def unexpected (scope : Scope) (arg : String) : Output :=
  fault scope.usage ("unexpected argument '" ++ shown arg ++ "' found")

/-- A value option whose value is the next argument, with that value once it is read. -/
structure Pending where
  name : String
  display : String
  value : Option String := none

/-- Act on a pending option: record its value, or fail when no value came. An option is
acted on only when the next option is, or when the arguments end; a fault found before that
(an unknown argument, say) is the one reported, and the pending option is never checked. -/
def Reading.settle (scope : Scope) (r : Reading) : Option Pending → Except Output Reading
  | none => .ok r
  | some p =>
    match p.value with
    | none => .error (noValue scope p.display)
    | some v => r.setValue scope p.name p.display v

/-- Read a cluster of short options such as `-vh`; a value option takes the rest of the
cluster, or else the next argument. Acting on an option first settles the pending one. -/
def readShorts (scope : Scope) (r : Reading) (pending : Option Pending) :
    List Char → Except Output (Reading × Option Pending)
  | [] => .ok (r, pending)
  | c :: cs =>
    match (scope.short c).bind fun n => (scope.long n).map (n, ·) with
    | none => .error (unexpected scope ("-" ++ c.toString))
    | some (name, .value display) => do
      let r ← r.settle scope pending
      if cs.isEmpty then pure (r, some { name, display })
      else
        let v := match cs with
          | '=' :: vs => vs
          | vs => vs
        pure (← r.setValue scope name display (String.ofList v), none)
    | some (_, kind) => do readShorts scope (← (← r.settle scope pending).flag scope kind) none cs

/-- Read one argument that is an option, given the pending option before it. An unknown
option, or a value given to a flag, fails before the pending option is settled. -/
def readOption (scope : Scope) (r : Reading) (pending : Option Pending) (arg : String) :
    Except Output (Reading × Option Pending) :=
  if arg.startsWith "--" then
    let body := (arg.drop 2).copy
    let name := (body.splitOn "=").headD ""
    let attached := if body.contains '=' then some ("=".intercalate ((body.splitOn "=").drop 1)) else none
    match scope.long name, attached with
    | none, _ => .error (unexpected scope ("--" ++ name))
    | some (.value display), some v => do
      pure (← (← r.settle scope pending).setValue scope name display v, none)
    | some (.value display), none => do pure (← r.settle scope pending, some { name, display })
    | some _, some v =>
      .error (fault scope.usage ("unexpected value '" ++ shown v ++ "' for '--" ++ name ++
        "' found; no more were expected"))
    | some kind, none => do pure (← (← r.settle scope pending).flag scope kind, none)
  else readShorts scope r pending (arg.drop 1).copy.toList

/-- The help text and usage of a command. -/
def commandHelp? : String → Option (String × String)
  | "status" => some (statusHelp, Scope.status.usage)
  | "mechs" => some (mechsHelp, Scope.mechs.usage)
  | "selftest" => some (selftestHelp, Scope.selftest.usage)
  | "help" => some (helpHelp, "gss help [COMMAND]...")
  | _ => none

/-- The help a `help` command asks for. Its arguments name a command and then commands of
that command; as no command has commands of its own, a second name is unrecognized. -/
def helpFor : List String → Output
  | [] => printed topHelp
  | name :: more =>
    match commandHelp? name, more with
    | none, _ => unrecognized topUsage name
    | some (text, _), [] => printed text
    | some (_, usage), extra :: _ => unrecognized usage extra

/-- The command of a scope from its options. -/
def finish (scope : Scope) (verbose : Bool) (r : Reading) : Except Output Invocation :=
  match scope with
  | .status =>
    match r.major with
    | some major => .ok ⟨.status major (r.minor.getD 0), verbose || r.verbose⟩
    | none => .error { code := 2, stderr :=
        "error: the following required arguments were not provided:\n  --major <MAJOR>\n\n" ++
        "Usage: gss status --major <MAJOR>\n\nFor more information, try '--help'.\n" }
  | .selftest =>
    .ok ⟨.selftest r.config r.mutualAuth (r.profile.getD .des3), verbose || r.verbose⟩
  | _ => .ok ⟨.mechs, verbose || r.verbose⟩

/-- Read the options of a command up to the last argument. An argument that is no option is
the value of an option still waiting for one, and unexpected otherwise; after `--` every
argument is unexpected, as no command takes a positional argument. -/
def readCommand (scope : Scope) (verbose : Bool) (fuel : Nat) (r : Reading)
    (pending : Option Pending) (args : List String) : Except Output Invocation :=
  match fuel, args with
  | _, [] | _, ["--"] => do finish scope verbose (← r.settle scope pending)
  | _, "--" :: arg :: _ => .error (unexpected scope arg)
  | 0, _ => .error (fault scope.usage "too many arguments")
  | fuel + 1, arg :: rest =>
    if isFlagLike arg then do
      let (r, pending) ← readOption scope r pending arg
      readCommand scope verbose fuel r pending rest
    else match pending with
      | some p =>
        if p.value.isNone then readCommand scope verbose fuel r (some { p with value := some arg }) rest
        else .error (unexpected scope arg)
      | none => .error (unexpected scope arg)

/-- The outcome of a command line that names no command: its help on standard error when
it holds no option either, and a fault otherwise. -/
def noCommand (r : Reading) : Output :=
  if r.verbose then fault topUsage "'gss' requires a subcommand but one was not provided"
  else { code := 2, stderr := topHelp }

/-- Read the arguments before the command, then the command's. After `--` a command name is
no longer read as a command. -/
def readTop (fuel : Nat) (r : Reading) (args : List String) : Except Output Invocation :=
  match fuel, args with
  | _, [] | _, ["--"] => .error (noCommand r)
  | _, "--" :: arg :: _ =>
    if (commandHelp? arg).isSome then .error (unexpected .top arg)
    else .error (unrecognized topUsage arg)
  | 0, _ => .error (fault topUsage "too many arguments")
  | fuel + 1, arg :: rest =>
    if isFlagLike arg then do
      let (r, _) ← readOption .top r none arg
      readTop fuel r rest
    else match arg with
      | "status" => readCommand .status r.verbose rest.length {} none rest
      | "mechs" => readCommand .mechs r.verbose rest.length {} none rest
      | "selftest" => readCommand .selftest r.verbose rest.length {} none rest
      | "help" => .error (helpFor rest)
      | _ => .error (unrecognized topUsage arg)

/-- Read a command line; the error side is what to print instead of running a command. -/
def parseArgs (args : List String) : Except Output Invocation := readTop args.length {} args

end GssApi.Cli
