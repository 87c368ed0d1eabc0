import GssApi.Cli.Args
import GssApi.Status
import GssApi.Mech.Registry
/-! What the `gss` tool prints.

`status` prints the fields of the decoded status word and its description, or fails with
exit code 1 when the word is not a valid status word. `mechs` lists the mechanisms of a
registry holding the ticket mechanism alone, marking the default. -/
namespace GssApi.Cli

/-- Text padded with spaces on the right to a width. -/
def padRight (width : Nat) (s : String) : String :=
  s ++ String.ofList (List.replicate (width - s.length) ' ')

/-- The report of a status word. -/
def statusOutput (major minor : UInt32) : Output :=
  match Status.ofLegacy major minor with
  | none => { code := 1, stderr := "Error: 0x" ++ hexPadded 8 major.toNat ++
      " is not a valid status word\n" }
  | some s => printed (
      "Status word:    0x" ++ hexPadded 8 major.toNat ++ "\n" ++
      "Routine:        " ++ s.major.label ++ "\n" ++
      "Calling error:  " ++ (s.callError.map CallError.label).getD "none" ++ "\n" ++
      "Supplementary:  0x" ++ hexPadded 4 s.supplementary.toNat ++ "\n" ++
      "Minor:          " ++ toString s.minor.toNat ++ "\n\n" ++
      s.render ++ "\n")

/-- The list of a registry's mechanisms. -/
def mechsListing (r : Registry) : String :=
  let default := r.defaultMech.oid
  "Installed mechanisms:\n" ++ String.join (r.mechs.map fun m =>
    "  " ++ padRight 24 m.oid.render ++ " " ++ m.name ++
      (if m.oid = default then " (default)" else "") ++ "\n")

/-- The registry the tool installs: the ticket mechanism alone. -/
def toolRegistry : Except GssError Registry := Registry.build [.krb5 {}] none

def mechsOutput : Output :=
  match toolRegistry with
  | .ok r => printed (mechsListing r)
  | .error e => { code := 1, stderr := "Error: " ++ e.message ++ "\n" }

/-- The output of a command that needs nothing from outside the tool. -/
def Command.output? : Command → Option Output
  | .status major minor => some (statusOutput major minor)
  | .mechs => some mechsOutput
  | .selftest .. => none

end GssApi.Cli
