import BotSentry.Proofs.Calendar
import BotSentry.Proofs.Digits
import BotSentry.Proofs.Utf8
import BotSentry.Schema.Checked

/-!
# Date-times are read as they were stored

A date-time within the years 1 to 9999 whose offset is a number of whole minutes (`Storable`) has a stored
form from which it is read back, to the microsecond (`ofText_storedChars`). No other date-time passes
validation (`storable_iff`): a date has four digits for its year, an offset has none for seconds, and
numbers stand for seconds up to the last one of the year 9999.
-/

namespace BotSentry.DateTime

open Text

/-- What the clock shows is within the years 1 to 9999, and its offset, if it has one, is less than a day
and a number of whole minutes. -/
structure Storable (t : DateTime) : Prop where
  inTime : t.shown < limit
  wholeMinutes : ∀ o ∈ t.offset, ∃ m : Int, m.natAbs < 1440 ∧ o = m * 60 * microsPerSecond

theorem length_le_size (cs : List Char) : cs.length ≤ Utf8.size cs := by
  induction cs with
  | nil => exact Nat.zero_le _
  | cons c cs ih =>
    have hc := Utf8.width_pos c
    simp only [Utf8.size, List.foldr_cons, List.length_cons] at ih ⊢
    omega

/-! ## The date -/

theorem datePart_padded {d : Date} (hd : d.isValid = true) (hyear : d.year ≤ 9999)
    (rest : List Char) :
    datePart (padded 4 d.year ++ '-' :: padded 2 d.month ++ '-' :: padded 2 d.day ++ rest)
      = .ok (d, rest) := by
  simp only [Date.isValid, Bool.and_eq_true, decide_eq_true_eq] at hd
  have hlength := Date.monthLength_le d.year hd.1.1.1.2 hd.1.1.2
  rw [padded_four (by omega), padded_two (by omega), padded_two (by omega)]
  simp only [List.cons_append, List.nil_append]
  rw [datePart, if_neg (by
    refine Nat.not_lt.2 (Nat.le_trans ?_ (length_le_size _))
    simp only [List.length_cons]
    omega)]
  simp (disch := omega) only [List.getElem?_cons_zero, List.getElem?_cons_succ, Option.bind_some,
    digit?_digitChar, bind, Except.bind, pure, Except.pure, List.drop_succ_cons, List.drop_zero,
    ↓reduceIte]
  have hyears : d.year / 10 / 10 / 10 * 1000 + d.year / 10 / 10 % 10 * 100 + d.year / 10 % 10 * 10
      + d.year % 10 = d.year := by omega
  have hmonths : d.month / 10 * 10 + d.month % 10 = d.month := by omega
  have hdays : d.day / 10 * 10 + d.day % 10 = d.day := by omega
  rw [hyears, hmonths, hdays, if_neg (by simp; omega), if_neg (by simp; omega)]

/-! ## The time of day -/

/-- The offset at the end of the stored form. -/
def zoneChars : Option Int → List Char
  | none => []
  | some 0 => ['Z']
  | some o => offsetChars o

/-- A text that does not go on with a fraction. -/
def NoFraction (cs : List Char) : Prop := ∀ c ∈ cs.head?, c ≠ '.' ∧ c ≠ ',' ∧ digit? c = none

theorem noFraction_zoneChars (o : Option Int) : NoFraction (zoneChars o) := by
  unfold zoneChars
  split
  · simp [NoFraction]
  · simp [NoFraction]; decide
  · unfold offsetChars
    dsimp only
    split_ifs <;> simp [NoFraction] <;> decide

theorem NoFraction.takeWhile_eq {cs : List Char} (h : NoFraction cs) :
    cs.takeWhile (digit? · |>.isSome) = [] := by
  cases cs with
  | nil => rfl
  | cons c cs =>
    obtain ⟨-, -, hdigit⟩ := h c rfl
    rw [List.takeWhile_cons_of_neg (by simp [hdigit])]

theorem takeWhile_padded {n : Nat} (h : n < 1000000) {cs : List Char} (hcs : NoFraction cs) :
    (padded 6 n ++ cs).takeWhile (digit? · |>.isSome) = padded 6 n := by
  rw [padded_six h]
  simp (disch := omega) only [List.cons_append, List.nil_append, List.takeWhile_cons,
    digit?_digitChar, Option.isSome_some, ↓reduceIte, hcs.takeWhile_eq]

theorem timePart_padded {s n : Nat} (hs : s < 86400) (hn : n < 1000000) {rest : List Char}
    (h : NoFraction rest) :
    timePart (padded 2 (s / 3600) ++ ':' :: padded 2 (s / 60 % 60) ++ ':' :: padded 2 (s % 60)
      ++ (if n = 0 then [] else '.' :: padded 6 n) ++ rest) = some ((s, n), rest) := by
  rw [padded_two (by omega), padded_two (by omega), padded_two (by omega)]
  simp only [List.cons_append, List.nil_append, timePart]
  simp (disch := omega) only [two?_digitChar, bind, Option.bind]
  have hsum : s / 3600 * 3600 + s / 60 % 60 * 60 + s % 60 = s := by omega
  rw [if_neg (by simp; omega), if_neg (by omega), hsum]
  split_ifs with hzero
  · subst hzero
    cases rest with
    | nil => rfl
    | cons c cs =>
      obtain ⟨hpoint, hcomma, -⟩ := h c rfl
      simp [hpoint, hcomma]
  · simp only [List.cons_append, takeWhile_padded hn h, fractionMicros_padded hn,
      List.drop_left]
    rw [padded_six hn]
    rfl

/-! ## The offset -/

theorem offsetPart_offsetChars {m : Int} (h : m.natAbs < 1440) :
    offsetPart (offsetChars (m * 60 * microsPerSecond)) = some (some (m * 60)) := by
  have hminutes : (m * 60 * microsPerSecond).natAbs / microsPerSecond / 60 = m.natAbs := by
    simp only [microsPerSecond]
    omega
  have hsign : m * 60 * microsPerSecond < 0 ↔ m < 0 := by
    simp only [microsPerSecond]
    omega
  rw [offsetChars, hminutes, padded_two (by omega), padded_two (by omega)]
  have htime : m.natAbs / 60 * 3600 + m.natAbs % 60 * 60 = m.natAbs * 60 := by omega
  simp only [hsign, List.cons_append, List.nil_append, offsetPart]
  simp (disch := omega) only [two?_digitChar, bind, Option.bind, htime]
  by_cases hm : m < 0
  · simp [hm, abs_of_neg hm]
    omega
  · simp [hm]
    omega

theorem offsetPart_zoneChars {t : DateTime} (h : t.Storable) :
    ∃ seconds, offsetPart (zoneChars t.offset) = some seconds
      ∧ seconds.map (· * (microsPerSecond : Int)) = t.offset := by
  rcases ho : t.offset with _ | o
  · exact ⟨none, rfl, rfl⟩
  · obtain ⟨m, hm, rfl⟩ := h.wholeMinutes o ho
    refine ⟨some (m * 60), ?_, rfl⟩
    by_cases hzero : m = 0
    · subst hzero
      rfl
    · have hne : m * 60 * (microsPerSecond : Int) ≠ 0 := by
        simp only [microsPerSecond]
        omega
      rw [zoneChars]
      · exact offsetPart_offsetChars hm
      · simpa using hne

/-! ## The whole -/

theorem storedChars_eq (t : DateTime) : t.storedChars
    = padded 4 t.date.year ++ '-' :: padded 2 t.date.month ++ '-' :: padded 2 t.date.day
      ++ 'T' :: (padded 2 (t.secondOfDay / 3600) ++ ':' :: padded 2 (t.secondOfDay / 60 % 60)
        ++ ':' :: padded 2 (t.secondOfDay % 60)
        ++ (if t.micros = 0 then [] else '.' :: padded 6 t.micros) ++ zoneChars t.offset) := by
  simp only [storedChars, plainChars, fractionChars, List.append_assoc, List.cons_append]
  rfl

theorem Storable.year_le {t : DateTime} (h : t.Storable) : t.date.year ≤ 9999 :=
  Date.year_le_of_lt (Nat.div_lt_of_lt_mul (Nat.mul_comm .. ▸ h.inTime))

theorem secondOfDay_lt (t : DateTime) : t.secondOfDay < 86400 := Nat.mod_lt _ (by decide)

theorem micros_lt (t : DateTime) : t.micros < 1000000 := Nat.mod_lt _ (by decide)

/-- The parts of what a clock shows. -/
theorem shown_eq (t : DateTime) :
    (t.date.toDays * 86400 + t.secondOfDay) * microsPerSecond + t.micros = t.shown := by
  rw [date, Date.toDays_ofDays, secondOfDay, micros]
  simp only [microsPerDay, microsPerSecond]
  omega

/-- A storable date-time is read back from its stored form. -/
theorem ofText_storedChars {t : DateTime} (h : t.Storable) : ofText t.storedChars = .ok t := by
  obtain ⟨seconds, hoffset, hmap⟩ := offsetPart_zoneChars h
  have hvalid : t.date.isValid = true := Date.isValid_ofDays _
  have hwritten : ofWritten? t.storedChars
      = some (t.date, (t.secondOfDay, t.micros), seconds) := by
    rw [storedChars_eq, ofWritten?, datePart_padded hvalid h.year_le]
    simp only [Except.toOption, bind, Option.bind,
      timePart_padded t.secondOfDay_lt t.micros_lt (noFraction_zoneChars _), hoffset]
    rfl
  have hyear : t.date.year ≠ 0 := by
    simp only [Date.isValid, Bool.and_eq_true, decide_eq_true_eq] at hvalid
    omega
  rw [ofText, hwritten]
  simp only [ofFields, if_neg hyear, hmap, shown_eq]
  rfl

/-! ## What validation lets pass -/

theorem exists_of_bind_ok {ε α β : Type} {x : Except ε α} {f : α → Except ε β} {r : β}
    (h : (x >>= f) = .ok r) : ∃ a, x = .ok a ∧ f a = .ok r := by
  cases x with
  | error e => cases h
  | ok a => exact ⟨a, rfl, h⟩

theorem eq_ok_of_toOption {ε α : Type} {x : Except ε α} {a : α} (h : x.toOption = some a) :
    x = .ok a := by
  cases x with
  | error e => cases h
  | ok b => exact congrArg Except.ok (Option.some.inj h)

theorem eq_ok_of_mapError {ε ε' α : Type} {x : Except ε α} {f : ε → ε'} {a : α}
    (h : x.mapError f = .ok a) : x = .ok a := by
  cases x with
  | error e => cases h
  | ok b => exact congrArg Except.ok (Except.ok.inj h)

theorem digit?_eq_some {c : Char} {d : Nat} (h : digit? c = some d) :
    c.toNat ≤ 57 ∧ d = c.toNat - 0x30 := by
  rw [digit?] at h
  split_ifs at h with hc
  simp only [Bool.and_eq_true, decide_eq_true_eq, Char.le_def] at hc
  exact ⟨hc.2, (Option.some.inj h).symm⟩

/-- A date that is read exists, except in a year zero. -/
theorem datePart_ok {cs rest : List Char} {d : Date} (h : datePart cs = .ok (d, rest)) :
    d.year ≤ 9999 ∧ (d.year ≠ 0 → d.isValid = true) := by
  have hdigit : ∀ {i n : Nat}, cs[i]?.bind digit? = some n → n ≤ 9 := by
    intro i n h
    obtain ⟨c, -, hc⟩ := Option.bind_eq_some_iff.1 h
    obtain ⟨hc, rfl⟩ := digit?_eq_some hc
    omega
  rw [datePart] at h
  split_ifs at h with hsize
  obtain ⟨y₁, hy₁, h⟩ := exists_of_bind_ok h
  obtain ⟨y₂, hy₂, h⟩ := exists_of_bind_ok h
  obtain ⟨y₃, hy₃, h⟩ := exists_of_bind_ok h
  obtain ⟨y₄, hy₄, h⟩ := exists_of_bind_ok h
  obtain ⟨-, -, h⟩ := exists_of_bind_ok h
  obtain ⟨m₁, -, h⟩ := exists_of_bind_ok h
  obtain ⟨m₂, -, h⟩ := exists_of_bind_ok h
  obtain ⟨-, -, h⟩ := exists_of_bind_ok h
  obtain ⟨d₁, -, h⟩ := exists_of_bind_ok h
  obtain ⟨d₂, -, h⟩ := exists_of_bind_ok h
  -- the year is bounded by its digits, the month and the day by the checks
  dsimp only at hy₁ hy₂ hy₃ hy₄ h
  rcases h₁ : cs[0]?.bind digit? with _ | _ <;> rw [h₁] at hy₁ <;> cases hy₁
  rcases h₂ : cs[1]?.bind digit? with _ | _ <;> rw [h₂] at hy₂ <;> cases hy₂
  rcases h₃ : cs[2]?.bind digit? with _ | _ <;> rw [h₃] at hy₃ <;> cases hy₃
  rcases h₄ : cs[3]?.bind digit? with _ | _ <;> rw [h₄] at hy₄ <;> cases hy₄
  have hy₁ := hdigit h₁
  have hy₂ := hdigit h₂
  have hy₃ := hdigit h₃
  have hy₄ := hdigit h₄
  split_ifs at h with hmonth hday hday
  · cases h
  · cases h
  · cases h
  · simp only [Bool.or_eq_true, decide_eq_true_eq, not_or, not_lt] at hmonth hday
    cases h
    refine ⟨by dsimp only; omega, fun hyear => ?_⟩
    simp only [Date.isValid, Bool.and_eq_true, decide_eq_true_eq]
    dsimp only at hyear
    omega

theorem ofDigits_lt {ds : List Char} (h : ∀ c ∈ ds, c.toNat ≤ 57) :
    Decimal.ofDigits ds < 10 ^ ds.length := by
  suffices hfold : ∀ n,
      ds.foldl (fun n c => n * 10 + (c.toNat - 0x30)) n < (n + 1) * 10 ^ ds.length by
    simpa [Decimal.ofDigits] using hfold 0
  induction ds with
  | nil => intro n; simp
  | cons c ds ih =>
    obtain ⟨hc, hds⟩ := List.forall_mem_cons.1 h
    intro n
    have hdigit : n * 10 + (c.toNat - 0x30) + 1 ≤ (n + 1) * 10 := by omega
    refine Nat.lt_of_lt_of_le (ih hds _) ?_
    rw [List.length_cons, Nat.pow_succ', ← Nat.mul_assoc]
    exact Nat.mul_le_mul_right _ hdigit

theorem fractionMicros_lt {ds : List Char} (h : ∀ c ∈ ds, (digit? c).isSome) :
    fractionMicros ds < 1000000 := by
  have hdigits : ∀ c ∈ (ds ++ List.replicate 6 '0').take 6, c.toNat ≤ 57 := by
    intro c hc
    rcases List.mem_append.1 (List.mem_of_mem_take hc) with hc | hc
    · obtain ⟨d, hd⟩ := Option.isSome_iff_exists.1 (h c hc)
      exact (digit?_eq_some hd).1
    · rw [(List.mem_replicate.1 hc).2]
      decide
  have hlength : ((ds ++ List.replicate 6 '0').take 6).length = 6 := by simp
  have hlt := ofDigits_lt hdigits
  rwa [hlength] at hlt

theorem timePart_some {cs rest : List Char} {s n : Nat} (h : timePart cs = some ((s, n), rest)) :
    s < 86400 ∧ n < 1000000 := by
  unfold timePart at h
  split at h
  · simp only [bind, Option.bind_eq_some_iff] at h
    obtain ⟨hour, -, minute, -, h⟩ := h
    split_ifs at h with hrange
    simp only [Bool.or_eq_true, decide_eq_true_eq, not_or, not_lt] at hrange
    split at h
    · obtain ⟨second, -, h⟩ := Option.bind_eq_some_iff.1 h
      split_ifs at h with hsecond
      split at h
      · split_ifs at h with hpoint hempty
        · cases h
          refine ⟨by omega, fractionMicros_lt fun c hc => ?_⟩
          exact List.all_eq_true.1 List.all_takeWhile c hc
        · cases h
          omega
      · cases h
        omega
    · cases h
    · cases h
    · cases h
      omega
  · cases h

theorem offsetPart_some {cs : List Char} {s : Int} (h : offsetPart cs = some (some s)) :
    ∃ m : Int, m.natAbs < 1440 ∧ s = m * 60 := by
  have hsigned : ∀ {sign : Int} {hours minutes : Nat}, sign = 1 ∨ sign = -1 →
      (if 60 ≤ minutes || 86400 ≤ hours * 3600 + minutes * 60 then none
        else some (some (sign * (hours * 3600 + minutes * 60 : Nat)))) = some (some s) →
      ∃ m : Int, m.natAbs < 1440 ∧ s = m * 60 := by
    intro sign hours minutes hsign h
    split_ifs at h with hrange
    simp only [Bool.or_eq_true, decide_eq_true_eq, not_or, not_le] at hrange
    cases h
    rcases hsign with rfl | rfl
    · exact ⟨hours * 60 + minutes, by omega, by omega⟩
    · exact ⟨-(hours * 60 + minutes), by omega, by omega⟩
  unfold offsetPart at h
  split at h
  · cases h
  · cases h
    exact ⟨0, by decide, rfl⟩
  · cases h
    exact ⟨0, by decide, rfl⟩
  · simp only [bind] at h
    split_ifs at h
    -- either sign, and under it the minutes with or without a colon
    iterate 2
      · obtain ⟨sign, hsign, h⟩ := Option.bind_eq_some_iff.1 h
        cases hsign
        obtain ⟨hours, -, h⟩ := Option.bind_eq_some_iff.1 h
        split at h
        iterate 2
          · obtain ⟨minutes, -, h⟩ := Option.bind_eq_some_iff.1 h
            exact hsigned (by decide) h
        · cases h
    · cases h
  · cases h

theorem ofFields_storable {date : Date} {time : Nat × Nat} {offset : Option Int} {t : DateTime}
    (hyear : date.year ≤ 9999) (hdate : date.year ≠ 0 → date.isValid = true)
    (htime : time.1 < 86400 ∧ time.2 < 1000000)
    (hoffset : ∀ s ∈ offset, ∃ m : Int, m.natAbs < 1440 ∧ s = m * 60)
    (h : ofFields date time offset = .ok t) : t.Storable := by
  rw [ofFields] at h
  split_ifs at h with hzero
  cases h
  constructor
  · have hdays := Date.toDays_lt (hdate hzero) hyear
    simp only [limit, microsPerDay, microsPerSecond]
    omega
  · intro o ho
    obtain ⟨s, hs, rfl⟩ := Option.mem_map.1 ho
    obtain ⟨m, hm, rfl⟩ := hoffset s hs
    exact ⟨m, hm, rfl⟩

theorem ofNumber_storable {n : Int} {micros : Nat} {t : DateTime}
    (h : ofNumber n micros = .ok t) : t.Storable := by
  unfold ofNumber at h
  -- the bounds are checked after the milliseconds have become seconds
  generalize (if n.natAbs ≤ secondsMost then (n, 0) else (n / 1000, (n % 1000).toNat * 1000)) = p
    at h
  obtain ⟨seconds, extra⟩ := p
  dsimp only at h
  split_ifs at h with hstart hlast hzero
  cases h
  constructor
  · simp only [limit, microsPerDay, microsPerSecond, epoch, lastSecond] at *
    omega
  · intro o ho
    cases ho
    exact ⟨0, by decide, rfl⟩

theorem ofWritten?_storable {cs : List Char} {date : Date} {time : Nat × Nat}
    {offset : Option Int} {t : DateTime} (hwritten : ofWritten? cs = some (date, time, offset))
    (h : ofFields date time offset = .ok t) : t.Storable := by
  simp only [ofWritten?, bind] at hwritten
  obtain ⟨⟨d, rest⟩, hdate, hwritten⟩ := Option.bind_eq_some_iff.1 hwritten
  dsimp only at hwritten
  split at hwritten
  · split_ifs at hwritten
    obtain ⟨⟨s, rest⟩, htime, hwritten⟩ := Option.bind_eq_some_iff.1 hwritten
    obtain ⟨o, hoffset, hwritten⟩ := Option.bind_eq_some_iff.1 hwritten
    cases hwritten
    obtain ⟨hyear, hvalid⟩ := datePart_ok (eq_ok_of_toOption hdate)
    refine ofFields_storable hyear hvalid (timePart_some htime) ?_ h
    rintro s rfl
    exact offsetPart_some hoffset
  · cases hwritten

theorem ofWrittenNumber_storable {w : Written} {t : DateTime} (h : ofWrittenNumber w = .ok t) :
    t.Storable := by
  cases w with
  | whole n => exact ofNumber_storable h
  | fraction x => exact ofNumber_storable h

theorem ofDateText_storable {cs : List Char} {t : DateTime} (h : ofDateText cs = .ok t) :
    t.Storable := by
  rw [ofDateText] at h
  dsimp only at h
  split at h
  · rename_i date hdate
    obtain ⟨⟨d, rest⟩, hd, hdate⟩ := exists_of_bind_ok hdate
    dsimp only at hdate
    split_ifs at hdate
    cases hdate
    obtain ⟨hyear, hvalid⟩ := datePart_ok hd
    exact ofFields_storable hyear hvalid (by decide) (by simp) (eq_ok_of_mapError h)
  · split at h
    · split at h
      · rename_i n t' ht
        cases h
        exact ⟨(ofNumber_storable ht).inTime, by simp⟩
      · cases h
    · cases h

theorem ofText_storable {cs : List Char} {t : DateTime} (h : ofText cs = .ok t) : t.Storable := by
  rw [ofText] at h
  split at h
  · rename_i date time offset hwritten
    exact ofWritten?_storable hwritten (eq_ok_of_mapError h)
  · split at h
    · split at h
      · rename_i w hw t' hn
        cases h
        exact ofWrittenNumber_storable hn
      · cases h
      · exact ofDateText_storable h
    · exact ofDateText_storable h

theorem ofFloat_storable {x : Float} {t : DateTime} (h : ofFloat x = .ok t) : t.Storable := by
  rw [ofFloat] at h
  split_ifs at h
  all_goals exact ofNumber_storable h

theorem storable_of_dateTime {source : Schema.Source} {v : Json} {t : DateTime}
    (h : Schema.dateTime source v = .ok t) : t.Storable := by
  unfold Schema.dateTime at h
  split at h
  · split at h
    · cases h
    · split at h
      · rename_i hd
        cases h
        exact ofText_storable hd
      · cases h
  · split_ifs at h
    · split at h
      · rename_i hd
        cases h
        exact ofNumber_storable hd
      · cases h
    · cases h
    · cases h
    · cases h
  · split at h
    · rename_i hd
      cases h
      exact ofFloat_storable hd
    · cases h
  · cases h

theorem dateTime_storedChars {t : DateTime} (h : t.Storable) (source : Schema.Source) :
    Schema.dateTime source (.str (ofChars t.storedChars)) = .ok t := by
  simp only [Schema.dateTime, toChars?_ofChars, ofText_storedChars h]

/-- The storable date-times are those that pass validation. -/
theorem storable_iff {t : DateTime} :
    t.Storable ↔ ∃ source v, Schema.dateTime source v = .ok t :=
  ⟨fun h => ⟨.document, _, dateTime_storedChars h .document⟩,
    fun ⟨_, _, h⟩ => storable_of_dateTime h⟩

end BotSentry.DateTime
