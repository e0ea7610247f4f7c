import BotSentry.Proofs.DateTimes

/-!
# The stamp of an event

An event is stamped with the second in which it happens, in universal time. From the year 1000 to the
year 9999 (`InYears`) a stamp has all the digits of its form (`stampForm`), although its year is not
padded, and is read back as the beginning of that second (`stamp_denotes_second`). What an offset carries
over into another day, month or year takes care of itself, since an instant is a number of microseconds
that has only one date.
-/

namespace BotSentry

/-- The last decimal digits of a number. -/
def lastDigits : Nat → Nat → List Char
  | 0, _ => []
  | width + 1, n => lastDigits width (n / 10) ++ [(n % 10).digitChar]

namespace DateTime

/-- The instant falls in the years from the one to the other. -/
def InYears (first last : Nat) (t : DateTime) : Prop :=
  ((Date.mk first 1 1).toDays * microsPerDay : Nat) ≤ t.instant
    ∧ t.instant < ((Date.mk (last + 1) 1 1).toDays * microsPerDay : Nat)

instance (first last : Nat) (t : DateTime) : Decidable (t.InYears first last) :=
  inferInstanceAs (Decidable (_ ∧ _))

/-- The form `YYYY-MM-DDTHH:MM:SSZ`. -/
def stampForm (d : Date) (hour minute second : Nat) : List Char :=
  lastDigits 4 d.year ++ '-' :: lastDigits 2 d.month ++ '-' :: lastDigits 2 d.day
    ++ 'T' :: lastDigits 2 hour ++ ':' :: lastDigits 2 minute ++ ':' :: lastDigits 2 second ++ ['Z']

/-! ## Digits -/

theorem padded_eq_lastDigits {width n : Nat} (h : n < 10 ^ (width + 1)) :
    padded (width + 1) n = lastDigits (width + 1) n := by
  change digitsOf 10 (width + 1) n = _
  induction width generalizing n with
  | zero =>
    have h : n < 10 := h
    rw [digitsOf_one h, lastDigits, lastDigits, Nat.mod_eq_of_lt h, List.nil_append]
  | succ width ih =>
    rw [digitsOf_succ (by decide) (Nat.le_add_left 1 width), lastDigits,
      ih (Nat.div_lt_of_lt_mul (by rwa [← Nat.pow_succ']))]

/-- A year with four digits needs no padding. -/
theorem padded_one_eq_padded_four {n : Nat} (h : 1000 ≤ n) : padded 1 n = padded 4 n := by
  have hlength : ¬ (Nat.toDigits 10 n).length ≤ 3 := by
    rw [Nat.length_toDigits_le_iff (by decide) (by decide)]
    exact Nat.not_lt.2 h
  have hone : 1 - (Nat.toDigits 10 n).length = 0 := by omega
  have hfour : 4 - (Nat.toDigits 10 n).length = 0 := by omega
  simp only [padded, hone, hfour]

/-! ## Seconds -/

/-- The beginning of the second that a clock shows. -/
def toSecond (t : DateTime) : DateTime :=
  { t with shown := t.shown / microsPerSecond * microsPerSecond }

section Seconds

variable (t : DateTime)

theorem date_toSecond : t.toSecond.date = t.date := by
  refine congrArg Date.ofDays ?_
  simp only [toSecond, microsPerDay, microsPerSecond]
  omega

theorem secondOfDay_toSecond : t.toSecond.secondOfDay = t.secondOfDay := by
  simp only [secondOfDay, toSecond, microsPerSecond]
  omega

theorem micros_toSecond : t.toSecond.micros = 0 := Nat.mul_mod_left _ _

theorem ofParts_eq_toSecond : ofParts t.date (t.secondOfDay / 3600) (t.secondOfDay / 60 % 60)
    (t.secondOfDay % 60) 0 t.offset = t.toSecond := by
  have hshown := t.toSecond.shown_eq
  rw [date_toSecond, secondOfDay_toSecond, micros_toSecond] at hshown
  have hsecond : t.date.toDays * 86400 + t.secondOfDay / 3600 * 3600
      + t.secondOfDay / 60 % 60 * 60 + t.secondOfDay % 60
      = t.date.toDays * 86400 + t.secondOfDay := by omega
  rw [ofParts, hsecond, hshown]
  rfl

end Seconds

section Stamps

variable {t : DateTime}

/-- What a clock that shows universal time writes as a stamp, with four digits for its year. -/
theorem plainChars_eq_stampForm (hyear : 1000 ≤ t.date.year) (hlast : t.date.year ≤ 9999) :
    plainChars 1 t ++ ['Z'] = stampForm t.date (t.secondOfDay / 3600) (t.secondOfDay / 60 % 60)
      (t.secondOfDay % 60) := by
  have hvalid := Date.isValid_ofDays (t.shown / microsPerDay)
  simp only [Date.isValid, Bool.and_eq_true, decide_eq_true_eq] at hvalid
  have hmonth : t.date.month ≤ 12 := hvalid.1.1.2
  have hlength := Date.monthLength_le t.date.year hvalid.1.1.1.2 hvalid.1.1.2
  have hday : t.date.day ≤ 31 := Nat.le_trans hvalid.2 hlength
  have hsecond := t.secondOfDay_lt
  simp only [plainChars, stampForm, padded_one_eq_padded_four hyear]
  rw [padded_eq_lastDigits (by omega), padded_eq_lastDigits (by omega),
    padded_eq_lastDigits (by omega), padded_eq_lastDigits (by omega),
    padded_eq_lastDigits (by omega), padded_eq_lastDigits (by omega)]

/-- The stored form of a whole second in universal time is its stamp. -/
theorem storedChars_toSecond (hoffset : t.offset = some 0) (hyear : 1000 ≤ t.date.year) :
    t.toSecond.storedChars = plainChars 1 t ++ ['Z'] := by
  have hzone : t.toSecond.offset = some 0 := hoffset
  simp only [storedChars, plainChars, fractionChars, date_toSecond, secondOfDay_toSecond,
    micros_toSecond, hzone, padded_one_eq_padded_four hyear, ↓reduceIte, List.append_nil]

variable {first last : Nat}

theorem InYears.toUniversal_eq (h : t.InYears first last) (hfirst : 2 ≤ first)
    (hlast : last ≤ 9999) :
    t.toUniversal = .ok { shown := t.instant.toNat, offset := some 0 } := by
  obtain ⟨hstart, hend⟩ := h
  have hfirst := Date.daysBeforeYear_mono (by decide) hfirst
  have hlast := Date.daysBeforeYear_mono (Nat.le_add_left 1 last) (Nat.succ_le_succ hlast)
  rw [Date.toDays_newYear] at hstart hend
  rw [show Date.daysBeforeYear 2 = 365 from rfl] at hfirst
  rw [show Date.daysBeforeYear (9999 + 1) = 3652059 from rfl] at hlast
  have hday : microsPerDay ≤ t.instant := by
    refine Int.le_trans (Int.ofNat_le.2 ?_) hstart
    exact Nat.le_mul_of_pos_left _ (by omega)
  have hlimit : t.instant < limit :=
    Int.lt_of_lt_of_le hend (Int.ofNat_le.2 (Nat.mul_le_mul_right _ hlast))
  have hshown : t.offset = none → ¬ t.shown < microsPerDay := by
    intro ho
    simp only [instant, ho, Option.getD_none] at hday
    omega
  rw [toUniversal, if_neg (by simpa using hshown), if_pos (by simpa using ⟨by omega, hlimit⟩)]

/-- The date of an instant in universal time is in the years in which the instant falls. -/
theorem InYears.year_mem (h : t.InYears first last) (hfirst : 1 ≤ first) :
    first ≤ (Date.ofDays (t.instant.toNat / microsPerDay)).year
      ∧ (Date.ofDays (t.instant.toNat / microsPerDay)).year ≤ last := by
  obtain ⟨hstart, hend⟩ := h
  constructor
  · rw [Date.le_year_ofDays_iff hfirst, Nat.le_div_iff_mul_le (by decide)]
    omega
  · rw [← Nat.lt_succ_iff, ← Nat.not_le, Date.le_year_ofDays_iff (Nat.le_add_left 1 last),
      Nat.le_div_iff_mul_le (by decide)]
    omega

/-- A stamp tells the second in which an instant of the years 1000 to 9999 lies, in universal time and
in full form, and is read back as the beginning of that second. -/
theorem stamp_denotes_second (h : t.InYears 1000 9999) :
    ∃ (d : Date) (hour minute second : Nat), d.isValid = true ∧ 1000 ≤ d.year ∧ d.year ≤ 9999
      ∧ hour < 24 ∧ minute < 60 ∧ second < 60
      ∧ t.stampChars = .ok (stampForm d hour minute second)
      ∧ ofText (stampForm d hour minute second) = .ok (ofParts d hour minute second 0 (some 0))
      ∧ (ofParts d hour minute second 0 (some 0)).instant
        = t.instant / microsPerSecond * microsPerSecond := by
  obtain ⟨hfirst, hlast⟩ := h.year_mem (by decide)
  have huniversal := h.toUniversal_eq (by decide) (Nat.le_refl _)
  have hnonneg : 0 ≤ t.instant := Int.le_trans (Int.natCast_nonneg _) h.1
  have hlimit : t.instant < limit := h.2
  generalize hu : ({ shown := t.instant.toNat, offset := some 0 } : DateTime) = u at huniversal
  have hshown : (u.shown : Int) = t.instant := by
    rw [← hu]
    exact Int.toNat_of_nonneg hnonneg
  have hoffset : u.offset = some 0 := by rw [← hu]
  have hyear : 1000 ≤ u.date.year ∧ u.date.year ≤ 9999 := by
    rw [← hu]
    exact ⟨hfirst, hlast⟩
  have hform := plainChars_eq_stampForm hyear.1 hyear.2
  have hparts := u.ofParts_eq_toSecond
  rw [hoffset] at hparts
  have hstorable : u.toSecond.Storable := by
    constructor
    · simp only [toSecond, limit, microsPerDay, microsPerSecond] at hlimit ⊢
      omega
    · intro o ho
      obtain rfl := Option.some.inj (hoffset.symm.trans ho)
      exact ⟨0, by decide, rfl⟩
  have hsecond := u.secondOfDay_lt
  refine ⟨u.date, u.secondOfDay / 3600, u.secondOfDay / 60 % 60, u.secondOfDay % 60,
    Date.isValid_ofDays _, hyear.1, hyear.2, by omega, by omega, by omega, ?_, ?_, ?_⟩
  · rw [← hform, stampChars, huniversal]
    rfl
  · rw [← hform, ← storedChars_toSecond hoffset hyear.1, hparts]
    exact ofText_storedChars hstorable
  · rw [hparts, instant, show u.toSecond.offset = some 0 from hoffset, Option.getD_some, toSecond,
      Int.sub_zero, ← hshown]
    norm_cast

end Stamps

/-- A clock half past an hour east of universal time, in the first hours of March, just before the next
second. -/
def marchMorning : DateTime :=
  ofParts { year := 2024, month := 3, day := 1 } 1 30 0 999999 (some (19800 * 1000000))

/-- The stamp of that morning is in the leap day before it. -/
theorem stamp_denotes_second_leapDay : marchMorning.InYears 1000 9999
    ∧ marchMorning.stampChars = .ok "2024-02-29T20:00:00Z".toList
    ∧ ∃ t, ofText "2024-02-29T20:00:00Z".toList = .ok t
      ∧ t.instant = marchMorning.instant - 999999 := by
  have hyears : marchMorning.InYears 1000 9999 := by decide
  have hstamp : marchMorning.stampChars = .ok "2024-02-29T20:00:00Z".toList := by decide
  obtain ⟨d, hour, minute, second, -, -, -, -, -, -, hform, hread, hinstant⟩ :=
    stamp_denotes_second hyears
  obtain hform := Except.ok.inj (hstamp.symm.trans hform)
  refine ⟨hyears, hstamp, _, hform ▸ hread, hinstant.trans ?_⟩
  decide

end DateTime

end BotSentry
