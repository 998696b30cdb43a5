/-
Colord.Time — `cd_device_to_string` and the libc time functions it calls.

`cd_device_to_string` casts the created time to `time_t`, breaks it down
with `localtime` and hands the result to `strftime` unchecked. POSIX has
`localtime` return `NULL` (`EOVERFLOW`) when the year does not fit the `int`
field `tm_year`; `strftime` then reads through `NULL`.

* `toTimeT` — the cast, for a `time_t` of `w` bits: GCC reduces the unsigned
  value modulo `2^w` into the signed range.
* `daysBeforeYear` — days from 1970-01-01 to 1 January of a year in the
  proleptic Gregorian calendar, the calendar of `localtime`.
* `localtime` — from its POSIX specification: the broken-down local time of
  `t`, or `NULL` when its day lies outside the years `INT_MIN + 1900` to
  `INT_MAX + 1900`. `localtime_eq_none_iff` restates that as the year that
  contains the day not fitting `tm_year`.
* `CdDevice.toString` — the function; `none` is the call of `strftime` on
  `NULL`. The zone's offset and the locale's `%c` are parameters.

`toString_created_overflow`: with a 64-bit `time_t` some created times, all of
which the `created` property admits, make `localtime` return `NULL`;
`toString_eq_none_iff_utc` gives the whole range of them in UTC;
`toString_isSome_of_timeT32`: with a 32-bit `time_t` none do.
-/
import Mathlib.Data.Int.LeastGreatest
import Mathlib.Order.Monotone.Basic
import Colord.Device

namespace Colord

/-- `(time_t) created` for a `time_t` of `w` bits. -/
def toTimeT (w : Nat) (created : UInt64) : Int :=
  let n := created.toNat % 2 ^ w
  if n < 2 ^ (w - 1) then n else (n : Int) - (2 ^ w : Nat)

/-- Leap years from year 1 to `y`, `LEAPS_THRU_END_OF` with floor division. -/
def leapsThruEndOf (y : Int) : Int :=
  y / 4 - y / 100 + y / 400

/-- Days from 1970-01-01 to 1 January of year `y`. -/
def daysBeforeYear (y : Int) : Int :=
  365 * (y - 1970) + (leapsThruEndOf (y - 1) - leapsThruEndOf 1969)

/-- The smallest and largest `int`, the range of `tm_year`. -/
def intMin : Int := -2147483648
def intMax : Int := 2147483647

/-- A `struct tm` from `localtime`, by the local time it breaks down (seconds
since the epoch); its fields are a function of that. -/
structure Tm where
  localSeconds : Int
  deriving DecidableEq, Repr

/-- `localtime` in a zone `gmtoff t` seconds east of UTC at `t`. -/
def localtime (gmtoff : Int → Int) (t : Int) : Option Tm :=
  let days := (t + gmtoff t) / 86400
  if daysBeforeYear (intMin + 1900) ≤ days ∧ days < daysBeforeYear (intMax + 1900 + 1) then
    some ⟨t + gmtoff t⟩
  else none

/-- `cd_device_to_string`, `time_t` of `w` bits, `strftime (.., "%c", ..)` as the
locale renders it. -/
def CdDevice.toString (w : Nat) (gmtoff : Int → Int) (strftime : Tm → String)
    (device : CdDevice) : Option String :=
  (localtime gmtoff (toTimeT w device.created)).map fun tm =>
    "  object-path:          " ++ device.objectPath.getD "(null)" ++ "\n" ++
      "  created:              " ++ strftime tm ++ "\n"

/-! ## The calendar -/

theorem daysBeforeYear_lt_succ (y : Int) : daysBeforeYear y < daysBeforeYear (y + 1) := by
  unfold daysBeforeYear leapsThruEndOf
  omega

theorem daysBeforeYear_le_iff {a b : Int} : daysBeforeYear a ≤ daysBeforeYear b ↔ a ≤ b :=
  (strictMono_int_of_lt_succ daysBeforeYear_lt_succ).le_iff_le

/-- Day `d` (since 1970-01-01) lies in year `y`. -/
def YearOfDay (y d : Int) : Prop :=
  daysBeforeYear y ≤ d ∧ d < daysBeforeYear (y + 1)

/-- Every day lies in a year. -/
theorem exists_yearOfDay (d : Int) : ∃ y, YearOfDay y d := by
  have h₁ := le_abs_self d
  have h₂ := neg_abs_le d
  obtain ⟨y, hy, hmax⟩ := Int.exists_greatest_of_bdd (P := fun y => daysBeforeYear y ≤ d)
    ⟨1970 + |d|, fun z hz => by unfold daysBeforeYear leapsThruEndOf at hz; omega⟩
    ⟨1969 - |d|, by unfold daysBeforeYear leapsThruEndOf; omega⟩
  exact ⟨y, hy, lt_of_not_le fun h => by have := hmax (y + 1) h; omega⟩

/-- A year starts on or before a day exactly when it is no later than the day's year. -/
theorem YearOfDay.daysBeforeYear_le_iff_le {y d a : Int} (hy : YearOfDay y d) :
    daysBeforeYear a ≤ d ↔ a ≤ y := by
  refine ⟨fun h => ?_, fun h => (daysBeforeYear_le_iff.2 h).trans hy.1⟩
  by_contra hlt
  have := daysBeforeYear_le_iff.2 (show y + 1 ≤ a by omega)
  exact absurd hy.2 (by omega)

/-- `localtime` returns `NULL` exactly when the year of the local day (which every
day has, `exists_yearOfDay`) does not fit `tm_year`. -/
theorem localtime_eq_none_iff {gmtoff : Int → Int} {t y : Int}
    (hy : YearOfDay y ((t + gmtoff t) / 86400)) :
    localtime gmtoff t = none ↔ ¬ (intMin ≤ y - 1900 ∧ y - 1900 ≤ intMax) := by
  simp only [localtime, ite_eq_right_iff, reduceCtorEq, imp_false, ← not_le,
    hy.daysBeforeYear_le_iff_le]
  omega

/-! ## `cd_device_to_string` -/

/-- The 64-bit cast: a created time below `2 ^ 63` is kept, one above wraps to a
time before the epoch. -/
theorem toTimeT_64 (created : UInt64) :
    toTimeT 64 created =
      if created.toNat < 2 ^ 63 then (created.toNat : Int) else created.toNat - 2 ^ 64 := by
  have hlt : created.toNat < 2 ^ 64 := created.val.isLt
  simp only [toTimeT, Nat.mod_eq_of_lt hlt]
  rfl

/-- `G_MAXINT64`, a created time the `created` property admits. -/
theorem toTimeT_maxInt64 : toTimeT 64 9223372036854775807 = 9223372036854775807 := by
  decide

theorem daysBeforeYear_intMax : daysBeforeYear (intMax + 1900 + 1) = 784352270737 := by
  decide

theorem daysBeforeYear_intMin : daysBeforeYear (intMin + 1900) = -784352321872 := by
  decide

/-- **`cd_device_to_string` hands `strftime` a `NULL` time.** With a 64-bit
`time_t`, a created time of `G_MAXINT64` seconds, written through the `created`
property (its param spec runs to `G_MAXUINT64`) on any device, lies some 292
billion years on, past any year `tm_year` holds, in every zone within a year of
UTC: `localtime` returns `NULL`. -/
theorem toString_created_overflow (gmtoff : Int → Int)
    (hzone : ∀ t, (gmtoff t).natAbs ≤ 86400 * 366) (strftime : Tm → String)
    (device : CdDevice) :
    (device.setProperty (.created 9223372036854775807)).toString 64 gmtoff strftime = none := by
  have hz := hzone 9223372036854775807
  simp only [CdDevice.toString, CdDevice.setProperty, toTimeT_maxInt64, Option.map_eq_none',
    localtime, daysBeforeYear_intMax, daysBeforeYear_intMin]
  split_ifs with h
  · omega
  · rfl

theorem toString_created_overflow_utc :
    (CdDevice.init.setProperty (.created 9223372036854775807)).toString 64 (fun _ => 0)
      (fun _ => "") = none :=
  toString_created_overflow _ (fun _ => Nat.zero_le _) _ _

/-- **Exactly the created times that break `cd_device_to_string`.** With a 64-bit
`time_t` in UTC, `localtime` returns `NULL` exactly for the created times from
`86400 * 784352270737`, the first second of the year `INT_MAX + 1901`, up to
`2 ^ 64 - 86400 * 784352321872`, below which the cast wraps to a time before the
year `INT_MIN + 1900`. -/
theorem toString_eq_none_iff_utc (strftime : Tm → String) (device : CdDevice) :
    device.toString 64 (fun _ => 0) strftime = none ↔
      67768036191676800 ≤ device.created.toNat ∧
        device.created.toNat < 18378976033099810816 := by
  have hlt : device.created.toNat < 2 ^ 64 := device.created.val.isLt
  simp only [CdDevice.toString, Option.map_eq_none', localtime, add_zero, toTimeT_64,
    daysBeforeYear_intMax, daysBeforeYear_intMin]
  split_ifs <;> simp <;> omega

theorem toTimeT_32_bounds (created : UInt64) :
    -2147483648 ≤ toTimeT 32 created ∧ toTimeT 32 created < 2147483648 := by
  have := Nat.mod_lt created.toNat (Nat.two_pow_pos 32)
  simp only [toTimeT]
  split_ifs <;> omega

/-- With a 32-bit `time_t` every created time is broken down, in every zone within
a year of UTC: the cast keeps the year between 1901 and 2038. -/
theorem toString_isSome_of_timeT32 (gmtoff : Int → Int)
    (hzone : ∀ t, (gmtoff t).natAbs ≤ 86400 * 366) (strftime : Tm → String)
    (device : CdDevice) : (device.toString 32 gmtoff strftime).isSome := by
  obtain ⟨h₁, h₂⟩ := toTimeT_32_bounds device.created
  have hz := hzone (toTimeT 32 device.created)
  simp only [CdDevice.toString, localtime, daysBeforeYear_intMax, daysBeforeYear_intMin]
  rw [if_pos (by omega)]
  rfl

theorem toString_isSome_of_timeT32_utc :
    ({ CdDevice.init with created := 18446744073709551615 }.toString 32 (fun _ => 0)
      (fun _ => "")).isSome :=
  toString_isSome_of_timeT32 _ (fun _ => Nat.zero_le _) _ _

/-- With a 64-bit `time_t` every created time below `2 ^ 55` seconds (over a
billion years) is broken down, in every zone within a year of UTC. -/
theorem toString_isSome_of_lt (gmtoff : Int → Int)
    (hzone : ∀ t, (gmtoff t).natAbs ≤ 86400 * 366) (strftime : Tm → String)
    (device : CdDevice) (hc : device.created.toNat < 2 ^ 55) :
    (device.toString 64 gmtoff strftime).isSome := by
  have ht : toTimeT 64 device.created = device.created.toNat := by
    rw [toTimeT_64, if_pos (by omega)]
  have hz := hzone device.created.toNat
  simp only [CdDevice.toString, localtime, ht, daysBeforeYear_intMax, daysBeforeYear_intMin]
  rw [if_pos (by omega)]
  rfl

theorem toString_isSome_of_lt_utc :
    ({ CdDevice.init with created := 1300000000 }.toString 64 (fun _ => 0)
      (fun _ => "")).isSome :=
  toString_isSome_of_lt _ (fun _ => Nat.zero_le _) _ _ (by decide)

end Colord
