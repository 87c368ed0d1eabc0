import GssApi.Cli.Run
import GssApi.Cli.Selftest
import GssApi.Config.Load
/-! The `gss` command-line tool.

This is the tool's outer layer: it reads the command line, and for the self test the
configuration file, the environment, the clock and the system's random bytes, then prints
what the pure commands produce and exits with their code. The self test reads the file given
with `--config`, or else `gss/config.toml` in the user's configuration directory when it can
be read, or else uses the defaults; the environment's overrides apply in every case. -/

open GssApi

/-- The user's configuration directory. -/
def configDir : IO (Option String) := do
  match ← IO.getEnv "XDG_CONFIG_HOME" with
  | some dir => if dir.startsWith "/" then return some dir else pure ()
  | none => pure ()
  return (← IO.getEnv "HOME").map (· ++ "/.config")

/-- The settings of the self test, or the error that ends it. -/
def loadConfig (path : Option String) : IO (Except String Config) := do
  let text? ← match path with
    | some p =>
      try
        pure (some (← IO.FS.readFile p))
      catch e =>
        return .error ("Config error: Failed to read config file: " ++ toString e)
    | none =>
      match ← configDir with
      | some dir =>
        try
          pure (some (← IO.FS.readFile (dir ++ "/gss/config.toml")))
        catch _ =>
          pure none
      | none => pure none
  let config ← match text? with
    | some text => match Config.parse text with
      | .ok c => pure c
      | .error e => return .error e.message
    | none => pure {}
  let skew ← IO.getEnv "GSS_KRB5_CLOCK_SKEW"
  let lifetime ← IO.getEnv "GSS_KRB5_LIFETIME"
  let level ← IO.getEnv "GSS_LOG"
  return .ok (config.withEnvOverrides fun
    | "GSS_KRB5_CLOCK_SKEW" => skew
    | "GSS_KRB5_LIFETIME" => lifetime
    | "GSS_LOG" => level
    | _ => none)

/-- Run the self test with the system's clock and random bytes. -/
def runSelftest (path : Option String) (mutualAuth : Bool) (profile : Cli.Profile) :
    IO Cli.Output := do
  match ← loadConfig path with
  | .error msg => return { code := 1, stderr := "Error: " ++ msg ++ "\n" }
  | .ok config =>
    let seed ← IO.getRandomBytes 8
    let now ← IO.monoMsNow
    let random : RandomSource := { state := UInt64.ofNat (Bytes.beToNat seed.toList) }
    return Cli.selftestOutput config (now / 1000).toUInt64 random mutualAuth profile

def main (args : List String) : IO UInt32 := do
  let out ← match Cli.parseArgs args with
    | .error o => pure o
    | .ok inv =>
      match inv.command with
      | .selftest path mutualAuth profile => runSelftest path mutualAuth profile
      | command => pure (command.output?.getD { code := 1 })
  IO.print out.stdout
  IO.eprint out.stderr
  return out.code
