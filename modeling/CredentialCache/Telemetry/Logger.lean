import CredentialCache.Telemetry.Filter
import CredentialCache.Telemetry.EventLog
/-!
# Loggers

A logger writes the records its filter admits, one line each, in its format and stamped with its
time. Records the filter refuses leave no trace. The format is JSON in production or when the
settings ask for it, text otherwise; the filter comes from `RUST_LOG` when that variable holds a
valid filter, else from the configured level, whose malformed directives are reported and left
out.
-/

namespace CredentialCache

structure Logger where
  format : LogFormat
  filter : LevelFilter
  time : String
  lines : List String := []
deriving DecidableEq, Repr

namespace Logger

def log (g : Logger) (r : Record) : Logger :=
  if g.filter.admits r then { g with lines := g.lines ++ [g.format.line r g.time] }
  else g

def logEvents (g : Logger) (es : List Event) : Logger := (Event.logRecords es).foldl log g

def text (g : Logger) : String := String.join (g.lines.map (· ++ "\n"))

end Logger

/-- The filter for a configured level and the environment, and the directives left out with
their refusals. -/
def chooseFilter (level : String) (env : List (String × String)) : LevelFilter × List (String × DirectiveError) :=
  match (env.lookup "RUST_LOG").map LevelFilter.parse with
  | some (.ok f) => (f, [])
  | _ => LevelFilter.parseLenient level

def ignoredDirective (d : String) (e : DirectiveError) : String :=
  "ignoring `" ++ d ++ "`: " ++ e.message ++ "\n"

end CredentialCache
