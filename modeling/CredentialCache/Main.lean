import CredentialCache.Demo
import Std.Time.Format
/-!
# The command line

Gathers what a run needs from the process (environment, files, clock, a seed), runs the
demonstration and writes its outputs.
-/

open CredentialCache

/-- The process environment, read from the kernel's record of it: `NAME=value` entries separated
by NUL characters. -/
def readEnvironment : IO (List (String × String)) := do
  let raw ← try IO.FS.readFile "/proc/self/environ" catch _ => pure ""
  pure ((raw.splitOn "\x00").filterMap fun entry =>
    match entry.splitOn "=" with
    | name :: first :: rest => if name.isEmpty then none else some (name, "=".intercalate (first :: rest))
    | _ => none)

def readIfPresent (path : String) : IO (Option String) :=
  try some <$> IO.FS.readFile path catch _ => pure none

def main : IO UInt32 := do
  let env ← readEnvironment
  let envFile ← readIfPresent Demo.envFileName
  let settings ← (Demo.readsFiles env envFile).filterMapM fun p => do
    pure ((← readIfPresent p).map fun text => (p, text))
  let files := (envFile.map fun text => [(Demo.envFileName, text)]).getD [] ++ settings
  let ms := (← Std.Time.Timestamp.now).toMillisecondsSinceUnixEpoch.val
  let seed : Seed := ⟨(← IO.monoNanosNow).toUInt64 ^^^ ms.toNat.toUInt64⟩
  let t := Demo.run ⟨files, env, (Instant.ofMs? ms).getD Instant.epoch, seed⟩
  IO.print t.stdout
  IO.eprint t.stderr
  pure t.exitCode.toUInt32
