import CredentialCache.Time.Instant
/-!
# Calendar dates

The proleptic Gregorian date and time of day of an instant in UTC, and its RFC 3339 text with six
fractional digits, as log lines are stamped. A day number counts days since 1970-01-01; the date
of a day is found through 400-year eras of 146097 days, each starting on the first of March, so
that leap days fall at the end of an era-year.
-/

namespace CredentialCache

structure CivilDate where
  year : Int
  month : Nat
  day : Nat
deriving DecidableEq, Repr

def CivilDate.ofDays (days : Int) : CivilDate :=
  let z := days + 719468
  let era := z.fdiv 146097
  let doe := z - era * 146097
  let yoe := (doe - doe / 1460 + doe / 36524 - doe / 146096) / 365
  let doy := doe - (365 * yoe + yoe / 4 - yoe / 100)
  let mp := (5 * doy + 2) / 153
  let d := doy - (153 * mp + 2) / 5 + 1
  let m := if mp < 10 then mp + 3 else mp - 9
  let y := yoe + era * 400 + (if m ≤ 2 then 1 else 0)
  ⟨y, m.toNat, d.toNat⟩

def zeroPad (width n : Nat) : String :=
  let s := toString n
  "".pushn '0' (width - s.length) ++ s

namespace Instant

/-- The RFC 3339 text of an instant in UTC with microseconds: `2024-05-01T12:00:00.250000Z`. -/
def rfc3339 (t : Instant) : String :=
  let days := t.ms.fdiv 86400000
  let msOfDay := (t.ms - days * 86400000).toNat
  let date := CivilDate.ofDays days
  let year := if date.year < 0 then "-" ++ zeroPad 4 date.year.natAbs else zeroPad 4 date.year.toNat
  year ++ "-" ++ zeroPad 2 date.month ++ "-" ++ zeroPad 2 date.day ++ "T" ++
    zeroPad 2 (msOfDay / 3600000) ++ ":" ++ zeroPad 2 (msOfDay / 60000 % 60) ++ ":" ++
    zeroPad 2 (msOfDay / 1000 % 60) ++ "." ++ zeroPad 3 (msOfDay % 1000) ++ "000Z"

end Instant

end CredentialCache
