import BotGateway.Journal.Timestamp
import BotGateway.Proofs.Except

/-! Which points of time have a text: those of the years 1 to 9999, to the microsecond. The day is
split into a cycle of 400 years and a year of the cycle, and only the first and the last months of the
calendar need a closer look, since a year is counted from March. -/
namespace BotGateway.Timestamp

def yearInCycle (n : Nat) : Nat := (n - n / 1460 + n / 36524 - n / 146096) / 365

def dayInYear (n : Nat) : Nat :=
  n - (365 * yearInCycle n + yearInCycle n / 4 - yearInCycle n / 100)

def yearAfter (cycle : Int) (n : Nat) : Int :=
  let month := (5 * dayInYear n + 2) / 153
  let month := if month < 10 then month + 3 else month - 9
  cycle * 400 + yearInCycle n + (if month ≤ 2 then 1 else 0)

section Years
variable {n : Nat} {days cycle : Int}

theorem yearMost (inside : n < 146097) : yearInCycle n ≤ 399 := by
  rw [yearInCycle]
  omega

theorem firstYear (early : n < 306) : yearInCycle n = 0 ∧ dayInYear n = n := by
  have first : yearInCycle n = 0 := by
    rw [yearInCycle]
    omega
  rw [dayInYear,first]
  omega

theorem lastYear (late : 146037 ≤ n) (inside : n < 146097) :
    yearInCycle n = 399 ∧ dayInYear n = n - 145731 := by
  have last : yearInCycle n = 399 := by
    rw [yearInCycle]
    omega
  rw [dayInYear,last]
  omega

theorem yearOf (counted : days + 719468 = cycle * 146097 + n) (inside : n < 146097) :
    (dateOf days).year = yearAfter cycle n := by
  have whole : Int.fdiv (days + epoch) daysInCycle = cycle := by
    have quotient : (days + 719468) / 146097 = cycle := by omega
    rw [← quotient]
    exact Int.fdiv_eq_ediv_of_nonneg _ (by decide)
  have rest : (Int.fmod (days + epoch) daysInCycle).toNat = n := by
    have remainder : (days + 719468) % 146097 = n := by omega
    have same : Int.fmod (days + epoch) daysInCycle = (days + 719468) % 146097 :=
      Int.fmod_eq_emod_of_nonneg _ (by decide)
    rw [same,remainder,Int.toNat_natCast]
  rw [dateOf,whole,rest]
  rfl

theorem yearWithin (days : Int) :
    1 ≤ (dateOf days).year ∧ (dateOf days).year ≤ 9999 ↔ -719162 ≤ days ∧ days ≤ 2932896 := by
  obtain ⟨cycle,n,counted,inside⟩ :
      ∃ (cycle : Int) (n : Nat), days + 719468 = cycle * 146097 + n ∧ n < 146097 :=
    ⟨(days + 719468) / 146097,((days + 719468) % 146097).toNat,by omega,by omega⟩
  rw [yearOf counted inside,yearAfter]
  by_cases first : cycle = 0
  -- the calendar begins ten months into the cycle
  · by_cases early : n < 306
    · rw [(firstYear early).1,(firstYear early).2]
      split <;> split <;> omega
    · rw [dayInYear,yearInCycle]
      split <;> split <;> omega
  by_cases last : cycle = 24
  -- and ends two months before the end of one
  · by_cases late : 146037 ≤ n
    · rw [(lastYear late inside).1,(lastYear late inside).2]
      split <;> split <;> omega
    · rw [dayInYear,yearInCycle]
      split <;> split <;> omega
  have most := yearMost inside
  generalize yearInCycle n = year at most
  split <;> split <;> omega

end Years

def microseconds? : Value → Option Int
  | .int n => some (n * 1000000)
  | .bool b => some (if b then 1000000 else 0)
  | .float (.finite negative mantissa exponent) => some (microsecondsOf negative mantissa exponent)
  | _ => none

def InCalendar (micros : Int) : Prop := -62135596800000000 ≤ micros ∧ micros < 253402300800000000

theorem stampedExactly (micros : Int) :
    (∃ t, ofMicroseconds micros = .ok t) ↔ InCalendar micros := by
  have seconds : Int.fdiv micros 1000000 = micros / 1000000 :=
    Int.fdiv_eq_ediv_of_nonneg _ (by decide)
  have days : Int.fdiv (micros / 1000000) 86400 = micros / 1000000 / 86400 :=
    Int.fdiv_eq_ediv_of_nonneg _ (by decide)
  have within : InCalendar micros ↔
      -719162 ≤ micros / 1000000 / 86400 ∧ micros / 1000000 / 86400 ≤ 2932896 := by
    rw [InCalendar]
    omega
  rw [within,← yearWithin,ofMicroseconds,seconds,days]
  constructor
  · intro made
    obtain ⟨t,written⟩ := made
    obtain ⟨_,checked,_⟩ := exceptOk.mp written
    rw [checkRange] at checked
    split at checked
    · cases checked
    split at checked
    · cases checked
    split at checked
    · cases checked
    rename_i inside
    simp only [Bool.or_eq_true,decide_eq_true_eq] at inside
    omega
  · intro inside
    have range := (yearWithin _).mp inside
    have counted : Int.bmod (micros / 1000000) 0x10000000000000000 = micros / 1000000 :=
      Int.bmod_eq_of_le (by omega) (by omega)
    have calendar : Int.bmod ((dateOf (micros / 1000000 / 86400)).year - 1900) 0x100000000 =
        (dateOf (micros / 1000000 / 86400)).year - 1900 := Int.bmod_eq_of_le (by omega) (by omega)
    have checked : checkRange (micros / 1000000) (dateOf (micros / 1000000 / 86400)).year = .ok () := by
      rw [checkRange,counted,calendar,bne_self_eq_false,bne_self_eq_false,if_neg (by decide),
        if_neg (by decide),if_neg (by simp; omega)]
    rw [checked]
    exact ⟨_,rfl⟩

theorem timedExactly (value : Value) : (∃ t, ofValue value = .ok t) ↔
    ∃ micros, microseconds? value = some micros ∧ InCalendar micros := by
  have counted (micros : Int) : (∃ t, ofMicroseconds micros = .ok t) ↔
      ∃ found, some micros = some found ∧ InCalendar found := by
    simp [stampedExactly]
  cases value with
  | int n => exact counted _
  | bool b => exact counted _
  | float x =>
    cases x with
    | finite negative mantissa exponent => exact counted _
    | _ => simp [ofValue,microseconds?]
  | _ => simp [ofValue,microseconds?]

end BotGateway.Timestamp
