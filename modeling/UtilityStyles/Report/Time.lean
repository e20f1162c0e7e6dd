/-!
# Time stamps

JSON reports are stamped with the time they were written, as an RFC 3339 date and time in UTC:
`2024-05-17T09:30:00Z`. A time is a count of seconds since 1970-01-01 00:00:00 UTC; the date is
found by counting in whole 400-year eras of the Gregorian calendar, with years taken to start in
March so that the leap day ends a year.

On Linux the current time is the boot time that `/proc/stat` gives (`btime`) plus the seconds
since boot that `/proc/uptime` gives.

## Main definitions

* `civilDate` : the year, month and day of a day count.
* `utcStamp` : the RFC 3339 text of a time.
* `clockOf` : the current time from the kernel's boot time and uptime.
-/

namespace UtilityStyles.Report

/-- The year, month (from 1) and day (from 1) of the day that lies a number of days after
1970-01-01. -/
def civilDate (days : Nat) : Nat × Nat × Nat :=
  let z := days + 719468
  let era := z / 146097
  let doe := z - era * 146097
  let yoe := (doe - doe / 1460 + doe / 36524 - doe / 146096) / 365
  let doy := doe - (365 * yoe + yoe / 4 - yoe / 100)
  let mp := (5 * doy + 2) / 153
  let day := doy - (153 * mp + 2) / 5 + 1
  let month := if mp < 10 then mp + 3 else mp - 9
  let year := yoe + era * 400
  (if month ≤ 2 then year + 1 else year, month, day)

/-- A number in decimal, padded with zeros to a width. -/
def padded (width n : Nat) : String :=
  let digits := toString n
  String.ofList (List.replicate (width - digits.length) '0') ++ digits

/-- The RFC 3339 text of a time in UTC. -/
def utcStamp (seconds : Nat) : String :=
  let (y, m, d) := civilDate (seconds / 86400)
  let s := seconds % 86400
  padded 4 y ++ "-" ++ padded 2 m ++ "-" ++ padded 2 d ++ "T" ++ padded 2 (s / 3600) ++ ":" ++
    padded 2 (s / 60 % 60) ++ ":" ++ padded 2 (s % 60) ++ "Z"

/-- The current time from the texts of `/proc/stat` and `/proc/uptime`: the boot time plus the
whole seconds since boot. -/
def clockOf (stat uptime : String) : Option Nat := do
  let line ← (stat.splitOn "\n").find? (·.startsWith "btime ")
  let boot ← ((line.drop 6).toString.trimAscii.toString).toNat?
  let up ← (((uptime.splitOn " ").headD "").splitOn ".").head?
  let since ← up.trimAscii.toString.toNat?
  return boot + since

end UtilityStyles.Report
