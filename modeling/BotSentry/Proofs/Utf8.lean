import BotSentry.Text.Utf8
import Mathlib.Tactic.Common

/-!
# UTF-8 loses nothing

The bytes of some characters decode to those characters (`Utf8.decodeChars?_encodeChars`): the first
byte tells how many there are, and the branch for that number puts together what the writer took apart
(`Utf8.step_encodeChar`). A text has bytes if it holds no surrogate, and they are those of its
characters (`encode_eq`).
-/

namespace BotSentry

namespace Text

/-- The characters of a text, without its surrogates. -/
def chars (t : Text) : List Char := t.filterMap CodePoint.char?

/-- A text without surrogates. -/
def IsUnicode (t : Text) : Prop := ∀ c ∈ t, isSurrogate c = false

section Chars

variable {s t : Text} {cs : List Char} {c : Char}

@[simp] theorem chars_nil : chars [] = [] := rfl

@[simp] theorem chars_cons : chars (.char c :: t) = c :: chars t := rfl

@[simp] theorem chars_append : chars (s ++ t) = chars s ++ chars t := List.filterMap_append

@[simp] theorem chars_ofChars : chars (ofChars cs) = cs := by
  induction cs with
  | nil => rfl
  | cons c cs ih => exact congrArg (c :: ·) ih

@[simp] theorem isUnicode_nil : IsUnicode [] := by simp [IsUnicode]

@[simp] theorem isUnicode_cons : IsUnicode (.char c :: t) ↔ IsUnicode t := by
  simp [IsUnicode, isSurrogate]

@[simp] theorem isUnicode_append : IsUnicode (s ++ t) ↔ IsUnicode s ∧ IsUnicode t := by
  simp [IsUnicode, or_imp, forall_and]

@[simp] theorem isUnicode_ofChars : IsUnicode (ofChars cs) := by
  induction cs with
  | nil => exact isUnicode_nil
  | cons c cs ih => exact isUnicode_cons.2 ih

/-- A text without surrogates is its characters. -/
theorem IsUnicode.ofChars_chars (h : IsUnicode t) : ofChars (chars t) = t := by
  induction t with
  | nil => rfl
  | cons p t ih =>
    cases p with
    | char c => exact congrArg (CodePoint.char c :: ·) (ih (isUnicode_cons.1 h))
    | surrogate s => simp [IsUnicode, isSurrogate] at h

theorem eq_ofChars_of_toChars? {t : Text} {cs : List Char} (h : t.toChars? = some cs) :
    t = ofChars cs := by
  induction t generalizing cs with
  | nil =>
    obtain rfl := Option.some.inj h
    rfl
  | cons p t ih =>
    cases p with
    | char c =>
      obtain ⟨cs, hcs, rfl⟩ := Option.map_eq_some_iff.1 h
      exact congrArg (CodePoint.char c :: ·) (ih hcs)
    | surrogate c => simp [toChars?] at h

theorem surrogates?_eq_none (h : IsUnicode t) (n : Nat) : surrogates? t n = none := by
  induction t generalizing n with
  | nil => rfl
  | cons p t ih =>
    cases p with
    | char c => exact ih (isUnicode_cons.1 h) (n + 1)
    | surrogate s => simp [IsUnicode, isSurrogate] at h

theorem isUnicode_of_surrogates? {n : Nat} (h : surrogates? t n = none) : IsUnicode t := by
  induction t generalizing n with
  | nil => exact isUnicode_nil
  | cons p t ih =>
    cases p with
    | char c => exact isUnicode_cons.2 (ih h)
    | surrogate s => simp [surrogates?] at h

end Chars

namespace Utf8

theorem codePoint_toNat (c : Char) : codePoint c.toNat = .char c := by
  have hc : c.toNat < 0xD800 ∨ 0xDFFF < c.toNat ∧ c.toNat < 0x110000 := c.valid
  rw [codePoint, CodePoint.ofNat?, dif_neg (by omega), if_pos (by omega), Char.ofNat_toNat]
  rfl

/-- The bytes of a character are read as that character, whatever follows them. -/
theorem step_encodeChar (c : Char) (rest : Bytes) : ∃ a bs, encodeChar c = a :: bs
    ∧ step false a.toNat (bs ++ rest) = .read (.char c) rest := by
  have hc : c.toNat < 0xD800 ∨ 0xDFFF < c.toNat ∧ c.toNat < 0x110000 := c.valid
  have hbyte : ∀ m < 256, m.toUInt8.toNat = m := fun m hm => by simp; omega
  rw [← codePoint_toNat]
  unfold encodeChar
  generalize c.toNat = n at hc ⊢
  dsimp only
  split_ifs with h₁ h₂ h₃
  · refine ⟨_, _, rfl, ?_⟩
    rw [hbyte _ (by omega), step, if_pos h₁, List.nil_append]
  · refine ⟨_, _, rfl, ?_⟩
    have hb := hbyte (0x80 + n % 0x40) (by omega)
    rw [hbyte _ (by omega), step, if_neg (by omega), if_neg (by omega), if_pos (by omega)]
    simp only [List.cons_append, List.nil_append, twoBytes, hb]
    rw [if_pos (by simp [isTail]; omega)]
    exact congrArg (fun m => DecodeStep.read (codePoint m) rest) (by omega)
  · refine ⟨_, _, rfl, ?_⟩
    have hb := hbyte (0x80 + n / 0x40 % 0x40) (by omega)
    have hd := hbyte (0x80 + n % 0x40) (by omega)
    rw [hbyte _ (by omega), step, if_neg (by omega), if_neg (by omega), if_neg (by omega),
      if_pos (by omega)]
    simp only [List.cons_append, List.nil_append, threeBytes, hb, hd]
    rw [if_pos (by simp [isSecondOfThree, isTail]; omega), if_pos (by simp [isTail]; omega)]
    exact congrArg (fun m => DecodeStep.read (codePoint m) rest) (by omega)
  · refine ⟨_, _, rfl, ?_⟩
    have hb := hbyte (0x80 + n / 0x1000 % 0x40) (by omega)
    have hd := hbyte (0x80 + n / 0x40 % 0x40) (by omega)
    have he := hbyte (0x80 + n % 0x40) (by omega)
    rw [hbyte _ (by omega), step, if_neg (by omega), if_neg (by omega), if_neg (by omega),
      if_neg (by omega), if_pos (by omega)]
    simp only [List.cons_append, List.nil_append, fourBytes, hb, hd, he]
    rw [if_pos (by simp [isSecondOfFour, isTail]; omega), if_pos (by simp [isTail]; omega),
      if_pos (by simp [isTail]; omega)]
    exact congrArg (fun m => DecodeStep.read (codePoint m) rest) (by omega)

theorem width_pos (c : Char) : 1 ≤ width c := by
  unfold width
  dsimp only
  split_ifs <;> decide

theorem length_le_encodeChars (cs : List Char) : cs.length ≤ (encodeChars cs).length := by
  induction cs with
  | nil => exact Nat.zero_le _
  | cons c cs ih =>
    obtain ⟨a, bs, ha, -⟩ := step_encodeChar c []
    simp only [encodeChars, List.flatMap_cons, ha, List.length_append, List.length_cons] at ih ⊢
    omega

/-- The fuel that counts is one unit for a character. -/
theorem decodeFrom_encodeChars {fuel : Nat} {cs : List Char} (h : cs.length ≤ fuel) :
    decodeFrom false fuel (encodeChars cs) = .ok (ofChars cs) := by
  induction cs generalizing fuel with
  | nil => cases fuel <;> rfl
  | cons c cs ih =>
    obtain ⟨fuel, rfl⟩ : ∃ n, fuel = n + 1 := ⟨fuel - 1, by simp at h; omega⟩
    obtain ⟨a, bs, ha, hstep⟩ := step_encodeChar c (encodeChars cs)
    have hbytes : encodeChars (c :: cs) = a :: (bs ++ encodeChars cs) := by
      rw [encodeChars, List.flatMap_cons, ha]
      rfl
    rw [hbytes, decodeFrom, hstep]
    simp only [ih (Nat.le_of_succ_le_succ h)]
    rfl

theorem decodeChars?_encodeChars (cs : List Char) : decodeChars? (encodeChars cs) = some cs := by
  rw [decodeChars?, decode, decodeFrom_encodeChars (length_le_encodeChars cs)]
  exact toChars?_ofChars cs

end Utf8

theorem encode_eq {t : Text} (h : IsUnicode t) : encode t = .ok (Utf8.encodeChars (chars t)) := by
  rw [encode, surrogates?_eq_none h]
  refine congrArg Except.ok ?_
  clear h
  induction t with
  | nil => rfl
  | cons p t ih =>
    cases p with
    | char c => exact congrArg (Utf8.encodeChar c ++ ·) ih
    | surrogate s => exact ih

/-- A text with a surrogate has no bytes. -/
theorem exists_encode_eq_error {t : Text} (h : ¬ IsUnicode t) : ∃ fault, encode t = .error fault := by
  unfold encode
  split
  · exact ⟨_, rfl⟩
  · exact absurd (isUnicode_of_surrogates? ‹_›) h

end Text

end BotSentry
