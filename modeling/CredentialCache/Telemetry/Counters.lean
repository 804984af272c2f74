import CredentialCache.Event
/-!
# Counters

Counters are read off the events, oldest first. A series is a metric name with its labels; a
series exists once an event has touched it, even by zero, so a sweep that removed nothing still
shows its removed-entries series at zero. A bulk deletion of no tokens touches nothing. Counters
are written out in the Prometheus text format: per metric a help line, a type line, then one line
per series.
-/

namespace CredentialCache

/-- A counter series: a metric name and its labels, in order. -/
structure Series where
  name : String
  labels : List (String × String) := []
deriving DecidableEq, Repr

namespace Series

def sweeps (cache : String) : Series := ⟨"credstore_sweeps_total", [("cache", cache)]⟩

def sweptEntries (cache : String) : Series := ⟨"credstore_swept_entries_total", [("cache", cache)]⟩

def codesIssued : Series := ⟨"credstore_codes_issued_total", []⟩

def codesRedeemed : Series := ⟨"credstore_codes_redeemed_total", []⟩

def codesRejected (r : RejectReason) : Series := ⟨"credstore_codes_rejected_total", [("reason", r.label)]⟩

def tokensCreated : Series := ⟨"credstore_tokens_created_total", []⟩

def tokensDeleted (r : DeleteReason) : Series := ⟨"credstore_tokens_deleted_total", [("reason", r.label)]⟩

def escapeLabel (v : String) : String :=
  String.join (v.toList.map fun c =>
    match c with
    | '\\' => "\\\\"
    | '"' => "\\\""
    | '\n' => "\\n"
    | _ => c.toString)

/-- The series as written: its name, then its labels between braces if it has any. -/
def key (s : Series) : String :=
  match s.labels with
  | [] => s.name
  | ls =>
    s.name ++ "\x7b" ++ ",".intercalate (ls.map fun (k, v) => k ++ "=\"" ++ escapeLabel v ++ "\"") ++
      "\x7d"

end Series

def metricHelp : List (String × String) :=
  [("credstore_codes_issued_total", "Authorization codes issued"),
   ("credstore_codes_redeemed_total", "Authorization codes redeemed successfully"),
   ("credstore_codes_rejected_total", "Authorization code redemptions rejected, labelled by reason"),
   ("credstore_tokens_created_total", "Revocable tokens created"),
   ("credstore_tokens_deleted_total", "Revocable tokens deleted, labelled by reason"),
   ("credstore_sweeps_total", "Expiration sweeps executed, labelled by cache"),
   ("credstore_swept_entries_total", "Entries removed by expiration sweeps, labelled by cache")]

/-- Counter values by series, in the order the series first appeared. -/
structure Counters where
  values : List (Series × Nat) := []
deriving DecidableEq, Repr

namespace Counters

def empty : Counters := {}

def get? (c : Counters) (s : Series) : Option Nat := (c.values.find? (·.1 == s)).map (·.2)

def value (c : Counters) (s : Series) : Nat := (c.get? s).getD 0

def add (c : Counters) (s : Series) (n : Nat) : Counters :=
  if c.values.any (·.1 == s) then
    ⟨c.values.map fun (s', v) => if s' == s then (s', v + n) else (s', v)⟩
  else ⟨c.values ++ [(s, n)]⟩

def record (c : Counters) : Event → Counters
  | .swept cache n => (c.add (.sweeps cache) 1).add (.sweptEntries cache) n
  | .codeIssued _ _ => c.add .codesIssued 1
  | .codeCollided _ => c
  | .codeRedeemed => c.add .codesRedeemed 1
  | .codeRejected r => c.add (.codesRejected r) 1
  | .tokenCreated _ _ _ => c.add .tokensCreated 1
  | .tokensDeleted r n => if n = 0 then c else c.add (.tokensDeleted r) n

def recordAll (c : Counters) (es : List Event) : Counters := es.foldl record c

def samples (c : Counters) : List (String × Nat) := c.values.map fun (s, v) => (s.key, v)

/-- The names of the metrics that have a series, each once, in sorted order. -/
def metricNames (c : Counters) : List String :=
  (c.values.map (·.1.name)).eraseDups.mergeSort (fun a b => decide (a ≤ b))

/-- The Prometheus text: per metric a help line, a type line and its series, then a blank line. -/
def render (c : Counters) : String :=
  String.join (c.metricNames.map fun name =>
    let help := match metricHelp.lookup name with
      | some h => s!"# HELP {name} " ++ h ++ "\n"
      | none => ""
    let lines := (c.values.filter (·.1.name == name)).map fun (s, v) => s.key ++ " " ++ toString v ++ "\n"
    help ++ s!"# TYPE {name} counter\n" ++ String.join lines ++ "\n")

end Counters

end CredentialCache
