import BotSentry.Json.Basic
import BotSentry.Time.Reading
import Mathlib.Tactic.Common
import Mathlib.Tactic.IntervalCases

/-!
# Digits of a fixed width

Escapes, and the fields of a date, are written with as many digits as they have places. The last digit
comes off the end (`digitsOf_succ`), which gives the digits of every width in use one by one, and each
of them is read back as what it stands for.
-/

namespace BotSentry

/-- The digits of a number, with zeros in front up to a width. -/
def digitsOf (base width n : Nat) : List Char :=
  List.replicate (width - (Nat.toDigits base n).length) '0' ++ Nat.toDigits base n

variable {base width n d : Nat}

theorem digitsOf_one (h : n < base) : digitsOf base 1 n = [n.digitChar] := by
  simp [digitsOf, Nat.toDigits_of_lt_base h]

theorem digitsOf_succ (hb : 1 < base) (hw : 1 ≤ width) (n : Nat) :
    digitsOf base (width + 1) n = digitsOf base width (n / base) ++ [(n % base).digitChar] := by
  by_cases hn : n < base
  · obtain ⟨width, rfl⟩ := Nat.exists_eq_add_of_le' hw
    have hzero : n / base = 0 := Nat.div_eq_of_lt hn
    simp [digitsOf, Nat.toDigits_of_lt_base hn, hzero, Nat.mod_eq_of_lt hn, List.replicate_succ']
  · simp [digitsOf, Nat.toDigits_of_base_le hb (Nat.le_of_not_lt hn)]

theorem Text.hexDigits_four (h : n < 0x10000) : Text.hexDigits 4 n =
    [(n / 16 / 16 / 16).digitChar, (n / 16 / 16 % 16).digitChar, (n / 16 % 16).digitChar,
      (n % 16).digitChar] := by
  change digitsOf 16 4 n = _
  rw [digitsOf_succ (by decide) (by decide), digitsOf_succ (by decide) (by decide),
    digitsOf_succ (by decide) (by decide), digitsOf_one (by omega)]
  rfl

namespace DateTime

theorem padded_two (h : n < 100) :
    padded 2 n = [(n / 10).digitChar, (n % 10).digitChar] := by
  change digitsOf 10 2 n = _
  rw [digitsOf_succ (by decide) (by decide), digitsOf_one (by omega)]
  rfl

theorem padded_four (h : n < 10000) : padded 4 n =
    [(n / 10 / 10 / 10).digitChar, (n / 10 / 10 % 10).digitChar, (n / 10 % 10).digitChar,
      (n % 10).digitChar] := by
  change digitsOf 10 4 n = _
  rw [digitsOf_succ (by decide) (by decide), digitsOf_succ (by decide) (by decide),
    digitsOf_succ (by decide) (by decide), digitsOf_one (by omega)]
  rfl

theorem padded_six (h : n < 1000000) : padded 6 n =
    [(n / 10 / 10 / 10 / 10 / 10).digitChar, (n / 10 / 10 / 10 / 10 % 10).digitChar,
      (n / 10 / 10 / 10 % 10).digitChar, (n / 10 / 10 % 10).digitChar, (n / 10 % 10).digitChar,
      (n % 10).digitChar] := by
  change digitsOf 10 6 n = _
  rw [digitsOf_succ (by decide) (by decide), digitsOf_succ (by decide) (by decide),
    digitsOf_succ (by decide) (by decide), digitsOf_succ (by decide) (by decide),
    digitsOf_succ (by decide) (by decide), digitsOf_one (by omega)]
  rfl

@[simp] theorem digit?_digitChar (h : d < 10) : digit? d.digitChar = some d := by
  interval_cases d <;> rfl

theorem two?_digitChar (h : n < 100) : two? (n / 10).digitChar (n % 10).digitChar = some n := by
  rw [two?, digit?_digitChar (by omega), digit?_digitChar (by omega)]
  exact congrArg some (by omega)

theorem toNat_digitChar (h : d < 10) : d.digitChar.toNat - 0x30 = d := by
  interval_cases d <;> rfl

/-- Six digits after the point are all the digits that count. -/
theorem fractionMicros_padded (h : n < 1000000) : fractionMicros (padded 6 n) = n := by
  rw [fractionMicros, padded_six h]
  simp only [List.cons_append, List.nil_append, List.take_succ_cons, List.take_zero,
    Decimal.ofDigits, List.foldl_cons, List.foldl_nil]
  rw [toNat_digitChar (by omega), toNat_digitChar (by omega), toNat_digitChar (by omega),
    toNat_digitChar (by omega), toNat_digitChar (by omega), toNat_digitChar (by omega)]
  omega

end DateTime

theorem Json.hexValue?_digitChar (h : d < 16) : Json.hexValue? d.digitChar = some d := by
  interval_cases d <;> rfl

end BotSentry
