/-!
# Days and moments

A day of the calendar, alone or with a time of day and a distance from universal time.
-/
namespace ToolHost

/-- A day, or a moment of a day. -/
structure Stamp where
  year : Nat
  month : Nat
  day : Nat
  /-- Hour, minute, second and microsecond. -/
  time : Option (Nat × Nat × Nat × Nat) := none
  /-- Distance from universal time in minutes, if it is known. -/
  zone : Option Int := none
  deriving DecidableEq, Repr

namespace Stamp

/-- `n` in at least `width` digits. -/
def padded (width n : Nat) : String :=
  let digits := (Nat.repr n).toList
  String.ofList (List.replicate (width - digits.length) '0' ++ digits)

/-- A distance from universal time, as hours and minutes. -/
def zoneText (minutes : Int) : String :=
  (if minutes < 0 then "-" else "+") ++ padded 2 (minutes.natAbs / 60) ++ ":" ++
    padded 2 (minutes.natAbs % 60)

/-- The stamp as it is written. -/
def written (t : Stamp) : String :=
  let day := padded 4 t.year ++ "-" ++ padded 2 t.month ++ "-" ++ padded 2 t.day
  match t.time with
  | none => day
  | some (h, m, s, us) =>
    day ++ " " ++ padded 2 h ++ ":" ++ padded 2 m ++ ":" ++ padded 2 s ++
      (if us = 0 then "" else "." ++ padded 6 us) ++
      (match t.zone with | none => "" | some z => zoneText z)

/-- The stamp inside the text of a list or mapping. -/
def shown (t : Stamp) : String :=
  match t.time with
  | none => "datetime.date(" ++ ", ".intercalate ([t.year, t.month, t.day].map Nat.repr) ++ ")"
  | some (h, m, s, us) =>
    let tail := if us ≠ 0 then [s, us] else if s ≠ 0 then [s] else []
    let fields := ([t.year, t.month, t.day, h, m] ++ tail).map Nat.repr
    let zone :=
      match t.zone with
      | none => []
      | some 0 => ["tzinfo=datetime.timezone.utc"]
      | some z =>
        let days := if z < 0 then "days=-1, " else ""
        let seconds := (if z < 0 then z + 24 * 60 else z) * 60
        ["tzinfo=datetime.timezone(datetime.timedelta(" ++ days ++ "seconds=" ++
          toString seconds ++ "))"]
    "datetime.datetime(" ++ ", ".intercalate (fields ++ zone) ++ ")"

/-- The number of a day, counted from the first of March of the year 0. -/
def dayNumber (year month day : Nat) : Int :=
  -- Years that begin in March have their leap day at the end.
  let y : Int := if month ≤ 2 then (year : Int) - 1 else year
  let m := (month + 9) % 12
  y * 365 + y / 4 - y / 100 + y / 400 + ((153 * m + 2) / 5 : Nat) + day

/-- The moment that a stamp with a known zone stands for, in microseconds of universal time. -/
def moment? (t : Stamp) : Option Int :=
  match t.time, t.zone with
  | some (h, m, s, us), some zone =>
    let minutes := (dayNumber t.year t.month t.day * 24 + h) * 60 + m - zone
    some ((minutes * 60 + s) * 1000000 + us)
  | _, _ => none

/-- Whether two stamps are the same day or the same moment. -/
def same (a b : Stamp) : Bool :=
  match a.moment?, b.moment? with
  | some x, some y => x = y
  | _, _ => a = b

end Stamp

end ToolHost
