import BotSentry.Text.Case
import Mathlib.Tactic.Common

/-!
# Letter case in ASCII and Latin-1

In ASCII the case tables say what `Char.toLower` says, and no context counts (`lowerChars_ascii`).
Beyond ASCII but within Latin-1 there are letters too, with their own lower case, which never meets
ASCII (`lowerCode_latin1`): the characters that are equal to an ASCII letter apart from case are
beyond Latin-1, but for the letter itself (`mem_caseClass_ascii`).
-/

namespace BotSentry.Text

variable {c : Char} {cs : List Char}

/-- What holds of the characters of a text is decided by a look at these, not at all characters. -/
instance decidableForallMem (p : Char → Prop) [DecidablePred p] (cs : List Char) :
    Decidable (∀ c ∈ cs, p c) := List.decidableBAll p cs

/-! ## ASCII -/

def IsAscii (cs : List Char) : Prop := ∀ c ∈ cs, c.toNat < 0x80

instance (cs : List Char) : Decidable (IsAscii cs) := decidableForallMem _ cs

theorem lowerCode_ascii (h : c.toNat < 0x80) : lowerCode c.toNat = c.toLower.toNat := by
  have hall : ∀ n < 0x80, lowerCode n = (Char.ofNat n).toLower.toNat := by decide
  rw [hall c.toNat h, Char.ofNat_toNat]

theorem lowerFrom_ascii (before : List Char) (h : IsAscii cs) :
    lowerFrom before cs = cs.map Char.toLower := by
  induction cs generalizing before with
  | nil => rfl
  | cons c cs ih =>
    obtain ⟨hc, hcs⟩ := List.forall_mem_cons.1 h
    rw [lowerFrom, ih (c :: before) hcs, if_neg (by omega), if_neg (by omega), lowerCode_ascii hc,
      Char.ofNat_toNat]
    rfl

theorem lowerChars_ascii (h : IsAscii cs) : lowerChars cs = cs.map Char.toLower :=
  lowerFrom_ascii [] h

theorem isAsciiLetter_bounds {n : Nat} (h : isAsciiLetter n = true) : 0x41 ≤ n ∧ n ≤ 0x7A := by
  simp only [isAsciiLetter, isAsciiUpper, isAsciiLower, Bool.or_eq_true, Bool.and_eq_true,
    decide_eq_true_eq] at h
  omega

theorem isAsciiDigit_bounds {n : Nat} (h : isAsciiDigit n = true) : 0x30 ≤ n ∧ n ≤ 0x39 := by
  simpa only [isAsciiDigit, Bool.and_eq_true, decide_eq_true_eq] using h

theorem toLower_ascii (h : c.toNat < 0x80) :
    c.toLower.toNat < 0x80 ∧ c.toLower.toLower = c.toLower := by
  have hall : ∀ n < 0x80, (Char.ofNat n).toLower.toNat < 0x80
      ∧ (Char.ofNat n).toLower.toLower = (Char.ofNat n).toLower := by decide
  rw [← Char.ofNat_toNat c]
  exact hall c.toNat h

theorem toLower_of_not_ascii (h : ¬ c.toNat < 0x80) : c.toLower = c :=
  dif_neg fun hc => h (Nat.lt_of_le_of_lt (UInt32.le_iff_toNat_le.1 hc.2) (by decide))

/-! ## Latin-1 -/

def IsLatin1 (cs : List Char) : Prop := ∀ c ∈ cs, c.toNat < 0x100

instance (cs : List Char) : Decidable (IsLatin1 cs) := decidableForallMem _ cs

theorem lowerCode_latin1 (hascii : ¬ c.toNat < 0x80) (h : c.toNat < 0x100) :
    0x80 ≤ lowerCode c.toNat ∧ lowerCode c.toNat < 0x100 := by
  have hall : ∀ n < 0x80, 0x80 ≤ lowerCode (n + 0x80) ∧ lowerCode (n + 0x80) < 0x100 := by
    decide +kernel
  have hn := hall (c.toNat - 0x80) (by omega)
  rwa [Nat.sub_add_cancel (by omega)] at hn

theorem lowerCode_lt_of_latin1 (h : c.toNat < 0x100) : lowerCode c.toNat < 0x100 := by
  by_cases hascii : c.toNat < 0x80
  · rw [lowerCode_ascii hascii]
    exact Nat.lt_trans (toLower_ascii hascii).1 (by decide)
  · exact (lowerCode_latin1 hascii h).2

/-- A character of Latin-1 has an ASCII letter as its lower case only if it is in ASCII. -/
theorem lowerCode_eq_toLower_iff {a : Char} (ha : a.toNat < 0x80) (hc : c.toNat < 0x100) :
    lowerCode c.toNat = a.toLower.toNat ↔ a.toLower = c.toLower := by
  by_cases hascii : c.toNat < 0x80
  · rw [lowerCode_ascii hascii, Char.toNat_inj, eq_comm]
  · have hge := (lowerCode_latin1 hascii hc).1
    have hlt := (toLower_ascii ha).1
    rw [toLower_of_not_ascii hascii]
    refine ⟨fun he => absurd he (by omega), ?_⟩
    rintro rfl
    omega

theorem mem_caseClass_ascii {n m : Nat} (hn : n < 0x80) (hm : m < 0x100) :
    m ∈ caseClass n ↔ m = n := by
  have hall : ∀ n < 0x80, n ∈ caseClass n ∧ ∀ m ∈ caseClass n, m = n ∨ 0x100 ≤ m := by
    decide +kernel
  obtain ⟨hself, hothers⟩ := hall n hn
  refine ⟨fun hmem => (hothers m hmem).resolve_right (by omega), ?_⟩
  rintro rfl
  exact hself

end BotSentry.Text
