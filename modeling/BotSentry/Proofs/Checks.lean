import BotSentry.Dataset.Validation
import BotSentry.Proofs.DatasetDocuments

/-!
# What a check decides

A check decides a predicate (`Schema.Decides`): what satisfies it has a value, and whatever does not has
at least one issue against it. Each way of putting checks together decides what it should if its parts
do, so that the predicate of a schema and the values it gives are read off the schema field by field.
-/

namespace BotSentry

open Text

namespace Text

theorem toString?_eq_some_iff {t : Text} {s : String} : t.toString? = some s ↔ t = ofString s := by
  refine ⟨fun h => ?_, fun h => h ▸ toString?_ofString s⟩
  obtain ⟨cs, hcs, rfl⟩ := Option.map_eq_some_iff.1 h
  rw [ofString, String.toList_ofList, eq_ofChars_of_toChars? hcs]

end Text

namespace Json

/-! ## The parts of a value -/

def asText : Json → Text
  | .str t => t
  | _ => []

def asString (v : Json) : String := (v.asText.toString?).getD ""

theorem asString_ofString (s : String) : asString (.ofString s) = s := by
  simp [asString, asText, Json.ofString, Text.toString?_ofString]

def elements : Json → List Json
  | .arr l => l
  | _ => []

def asTexts (v : Json) : List Text := v.elements.map asText

def fields : Json → List (Text × Json)
  | .obj fields => fields
  | _ => []

/-- The value, unless it is a null. -/
def present? : Json → Option Json
  | .null => none
  | v => some v

def IsText (v : Json) : Prop := ∃ t, v = .str t

/-- A text with at least one character, and no surrogates. -/
def IsSomeString (v : Json) : Prop := ∃ s, s ≠ "" ∧ v = .ofString s

def IsArrayOf (P : Json → Prop) (v : Json) : Prop := ∃ l, v = .arr l ∧ ∀ w ∈ l, P w

def IsObjectWith (P : List (Text × Json) → Prop) (v : Json) : Prop :=
  ∃ fields, v = .obj fields ∧ P fields

def answerWords : Bool → List String
  | true => ["1", "on", "t", "true", "y", "yes"]
  | false => ["0", "off", "f", "false", "n", "no"]

/-- A value stands for a Boolean: it is that one, its number, or one of its words in any case. -/
def Says (b : Bool) : Json → Prop
  | .bool c => c = b
  | .int n => n = b.toInt
  | .float x => Schema.wholeFloat? x = some b.toInt
  | .str t => ∃ s, t = Text.ofString s
    ∧ String.ofList (s.toList.map Char.toLower) ∈ answerWords b
  | _ => False

def IsAnswer (v : Json) : Prop := ∃ b, Says b v

def asBool : Json → Bool
  | .bool b => b
  | .int n => n = 1
  | .float x => Schema.wholeFloat? x = some 1
  | v => (answerWords true).contains (String.ofList (v.asString.toList.map Char.toLower))

end Json

namespace Schema

open Json

/-- The value of a field. A null counts as none. -/
def given (fields : Fields) (name : String) : Option Json := (field? fields name).bind present?

/-- The name that a field goes by, of two. -/
def spelling (fields : Fields) (other name : String) : String :=
  if (field? fields other).isSome then other else name

theorem given_spelling_eq_none {fields : Fields} {other name : String}
    (hother : field? fields other = none) (hname : field? fields name = none) :
    given fields (spelling fields other name) = none := by
  simp [given, spelling, hother, hname]

namespace Checked

variable {α β : Type} {P Q : Prop} {c : Checked α} {x y : α}

theorem map_eq_ok {f : α → β} {b : β} : f <$> c = .ok b ↔ ∃ x, c = .ok x ∧ f x = b := by
  change Checked.map f c = .ok b ↔ _
  cases c <;> simp [Checked.map]

theorem seq_eq_ok {f : Checked (α → β)} {b : β} :
    f <*> c = .ok b ↔ ∃ g x, f = .ok g ∧ c = .ok x ∧ g x = b := by
  change Checked.seq f (fun _ => c) = .ok b ↔ _
  cases f <;> cases c <;> simp [Checked.seq]

/-- Of two outcomes the one with a value is there if something holds, and the one with issues, of which
there is at least one, if it does not. -/
structure Decides (c : Checked α) (P : Prop) (x : α) : Prop where
  accepts : P → c = .ok x
  refuses : ¬ P → ∃ i l, c = .issues (i :: l)

namespace Decides

theorem eq_ok_iff (h : c.Decides P x) : c = .ok y ↔ P ∧ y = x := by
  by_cases hP : P
  · simp [h.accepts hP, hP, eq_comm]
  · obtain ⟨i, l, hl⟩ := h.refuses hP
    simp [hl, hP]

theorem congr (h : c.Decides P x) (hPQ : P ↔ Q) (hx : P → x = y) : c.Decides Q y where
  accepts hQ := (h.accepts (hPQ.2 hQ)).trans (congrArg _ (hx (hPQ.2 hQ)))
  refuses hQ := h.refuses (hPQ.not.2 hQ)

theorem map (h : c.Decides P x) (f : α → β) : (f <$> c).Decides P (f x) where
  accepts hP := by
    rw [h.accepts hP]
    rfl
  refuses hP := by
    obtain ⟨i, l, hl⟩ := h.refuses hP
    exact ⟨i, l, by rw [hl]; rfl⟩

theorem seq {d : Checked (α → β)} {f : α → β} (hd : d.Decides Q f) (hc : c.Decides P x) :
    (d <*> c).Decides (Q ∧ P) (f x) where
  accepts h := by
    rw [hd.accepts h.1, hc.accepts h.2]
    rfl
  refuses h := by
    by_cases hQ : Q
    · obtain ⟨i, l, hl⟩ := hc.refuses fun hP => h ⟨hQ, hP⟩
      exact ⟨i, l, by rw [hd.accepts hQ, hl]; rfl⟩
    · obtain ⟨i, l, hl⟩ := hd.refuses hQ
      by_cases hP : P
      · exact ⟨i, l, by rw [hl, hc.accepts hP]; rfl⟩
      · obtain ⟨j, m, hm⟩ := hc.refuses hP
        exact ⟨i, l ++ j :: m, by rw [hl, hm]; rfl⟩

theorem under (h : c.Decides P x) (step : Step) : (c.under step).Decides P x where
  accepts hP := by
    rw [h.accepts hP]
    rfl
  refuses hP := by
    obtain ⟨i, l, hl⟩ := h.refuses hP
    exact ⟨_, _, by rw [hl]; rfl⟩

theorem issue (cause : Cause) (h : ¬ P) : (Checked.issue cause : Checked α).Decides P x where
  accepts hP := absurd hP h
  refuses _ := ⟨_, _, rfl⟩

theorem ok (h : P) : (Checked.ok x).Decides P x where
  accepts _ := rfl
  refuses hP := absurd h hP

end Decides

end Checked

open Checked

/-- Checks of values decide a predicate of them. -/
def Decides {α : Type} (check : Json → Checked α) (P : Json → Prop) (f : Json → α) : Prop :=
  ∀ v, (check v).Decides (P v) (f v)

section

variable {α : Type} {check : Json → Checked α} {P : Json → Prop} {f : Json → α}

/-! ## Fields -/

theorem decides_required (h : Decides check P f) (fields : Fields) (name : String) :
    (required check fields name).Decides (∃ v, field? fields name = some v ∧ P v)
      (f ((field? fields name).getD .null)) := by
  unfold required
  rcases field? fields name with _ | v
  · exact (Checked.Decides.issue _ (by simp)).under _
  · exact ((h v).under _).congr (by simp) fun _ => rfl

theorem decides_withDefault {default : α} {g : Option Json → α} (hg : g none = default)
    (h : Decides check (fun v => ∀ w ∈ v.present?, P w) (fun v => g v.present?))
    (fields : Fields) (name : String) :
    (withDefault default check fields name).Decides (∀ w ∈ given fields name, P w)
      (g (given fields name)) := by
  unfold withDefault given
  rcases field? fields name with _ | v
  · exact hg ▸ .ok (by simp)
  · exact (h v).under _

theorem decides_withAlias {default : α} {g : Option Json → α} (hg : g none = default)
    (h : Decides check (fun v => ∀ w ∈ v.present?, P w) (fun v => g v.present?))
    (fields : Fields) (other name : String) :
    (withAlias default check fields other name).Decides
      (∀ w ∈ given fields (spelling fields other name), P w)
      (g (given fields (spelling fields other name))) := by
  unfold withAlias spelling
  split_ifs
  · exact decides_withDefault hg h fields other
  · exact decides_withDefault hg h fields name

/-! ## Values -/

theorem decides_nullIs (h : Decides check P f) (default : α) :
    Decides (nullIs default check) (fun v => ∀ w ∈ v.present?, P w)
      (fun v => v.present?.elim default f) := by
  intro v
  cases v with
  | null => exact .ok (by simp [present?])
  | _ => exact (h _).congr (by simp [present?]) fun _ => rfl

theorem decides_optional (h : Decides check P f) :
    Decides (optional check) (fun v => ∀ w ∈ v.present?, P w) (fun v => v.present?.map f) := by
  intro v
  cases v with
  | null => exact .ok (by simp [present?])
  | _ => exact ((h _).map some).congr (by simp [present?]) fun _ => rfl

theorem decides_all (h : Decides check P f) (i : Nat) (l : List Json) :
    (Checked.all check i l).Decides (∀ v ∈ l, P v) (l.map f) := by
  induction l generalizing i with
  | nil => exact .ok (by simp)
  | cons v l ih =>
    exact ((((h v).under (.index i)).map List.cons).seq (ih (i + 1))).congr (by simp) fun _ => rfl

theorem decides_items (h : Decides check P f) (cause : Cause) :
    Decides (items cause check) (IsArrayOf P) (fun v => v.elements.map f) := by
  intro v
  cases v with
  | arr l => exact (decides_all h 0 l).congr (by simp [IsArrayOf]) fun _ => rfl
  | _ => exact .issue _ (by simp [IsArrayOf])

theorem decides_object {check : Fields → Checked α} {P : Fields → Prop} {f : Fields → α}
    (h : ∀ fields, (check fields).Decides (P fields) (f fields)) (name : String) :
    Decides (object name check) (IsObjectWith P) (fun v => f v.fields) := by
  intro v
  cases v with
  | obj fields => exact (h fields).congr (by simp [IsObjectWith]) fun _ => rfl
  | _ => exact .issue _ (by simp [IsObjectWith])

end

theorem decides_text : Decides text IsText asText := by
  intro v
  cases v with
  | str t => exact .ok ⟨t, rfl⟩
  | _ => exact .issue _ (by simp [IsText])

theorem decides_someString : Decides someString IsSomeString asString := by
  intro v
  cases v with
  | str t =>
    rcases hs : t.toString? with _ | s
    · rw [someString, hs]
      refine .issue _ ?_
      rintro ⟨s, -, heq⟩
      obtain rfl := Json.str.inj heq
      simp [Text.toString?_ofString] at hs
    · obtain rfl := Text.toString?_eq_some_iff.1 hs
      by_cases hne : s = ""
      · subst hne
        refine .issue (P := IsSomeString (.str (Text.ofString ""))) .emptyString ?_
        rintro ⟨s, hs, heq⟩
        exact hs (Text.ofString_injective (Json.str.inj heq)).symm
      · change (someString (.ofString s)).Decides _ (asString (.ofString s))
        rw [someString_ofString hne, asString_ofString]
        exact .ok ⟨s, hne, rfl⟩
  | _ => exact .issue _ (by simp [IsSomeString, Json.ofString])

/-! ### Booleans -/

theorem lookup_boolWords {w : String} {b : Bool} :
    boolWords.lookup w = some b ↔ w ∈ answerWords b := by
  constructor
  · intro h
    obtain ⟨l, l', hl, -⟩ := List.lookup_eq_some_iff.1 h
    have hwords : ∀ e ∈ boolWords, e.1 ∈ answerWords e.2 := by decide
    exact hwords (w, b) (by simp [hl])
  · have hwords : ∀ b, ∀ w ∈ answerWords b, boolWords.lookup w = some b := by decide
    exact hwords b w

theorem decides_boolOfInt (n : Int) :
    (boolOfInt n).Decides (∃ b : Bool, n = b.toInt) (decide (n = 1)) := by
  unfold boolOfInt
  split_ifs with h0 h1
  · subst h0
    exact .ok ⟨false, rfl⟩
  · subst h1
    exact .ok ⟨true, rfl⟩
  · refine .issue _ ?_
    rintro ⟨b, rfl⟩
    cases b
    · exact h0 rfl
    · exact h1 rfl

theorem decides_bool : Decides bool IsAnswer asBool := by
  intro v
  cases v with
  | bool b => exact .ok ⟨b, rfl⟩
  | int n =>
    rw [bool]
    split_ifs with hword
    · exact decides_boolOfInt n
    · refine .issue _ ?_
      rintro ⟨b, rfl⟩
      revert hword
      cases b <;> decide
  | float x =>
    simp only [bool, IsAnswer, Says, asBool]
    rcases wholeFloat? x with _ | n
    · exact .issue _ (by simp)
    · exact (decides_boolOfInt n).congr (by simp) fun _ => by simp
  | str t =>
    rw [bool]
    rcases hs : t.toString? with _ | s
    · refine .issue _ ?_
      rintro ⟨b, s, rfl, -⟩
      simp [Text.toString?_ofString] at hs
    · obtain rfl := Text.toString?_eq_some_iff.1 hs
      have hsays : ∀ b, Says b (.str (Text.ofString s))
          ↔ boolWords.lookup (String.ofList (s.toList.map Char.toLower)) = some b := by
        intro b
        rw [lookup_boolWords]
        refine ⟨?_, fun h => ⟨s, rfl, h⟩⟩
        rintro ⟨s', heq, h⟩
        exact Text.ofString_injective heq ▸ h
      simp only [IsAnswer, hsays]
      have hvalue : asBool (.str (Text.ofString s)) = decide
          (boolWords.lookup (String.ofList (s.toList.map Char.toLower)) = some true) := by
        simp only [lookup_boolWords, ← List.contains_eq_mem]
        change (answerWords true).contains
          (String.ofList ((asString (.ofString s)).toList.map Char.toLower)) = _
        rw [asString_ofString]
      rw [hvalue]
      rcases boolWords.lookup _ with _ | b
      · exact .issue _ (by simp)
      · exact (Checked.Decides.ok ⟨b, rfl⟩).congr Iff.rfl fun _ => by simp
  | _ => exact .issue _ (by rintro ⟨b, ⟨⟩⟩)

/-! ### Common fields -/

theorem decides_optionalAlias {α : Type} {check : Json → Checked α} {P : Json → Prop}
    {f : Json → α} (h : Decides check P f) (fields : Fields) (other name : String) :
    (withAlias none (optional check) fields other name).Decides
      (∀ v ∈ given fields (spelling fields other name), P v)
      ((given fields (spelling fields other name)).map f) :=
  decides_withAlias (g := (·.map f)) rfl (decides_optional h) fields other name

theorem decides_texts (cause : Cause) : Decides (items cause text) (IsArrayOf IsText) asTexts :=
  decides_items decides_text cause

theorem decides_textOr (default : Text) (fields : Fields) (name : String) :
    (withDefault default (nullIs default text) fields name).Decides
      (∀ v ∈ given fields name, v.IsText) ((given fields name).elim default asText) :=
  decides_withDefault (g := (·.elim default asText)) rfl (decides_nullIs decides_text default) fields
    name

theorem decides_text? (fields : Fields) (name : String) :
    (withDefault none (optional text) fields name).Decides
      (∀ v ∈ given fields name, v.IsText) ((given fields name).map asText) :=
  decides_withDefault (g := (·.map asText)) rfl (decides_optional decides_text) fields name

theorem decides_flag (fields : Fields) (name : String) :
    (withDefault false (nullIs false bool) fields name).Decides
      (∀ v ∈ given fields name, v.IsAnswer) ((given fields name).elim false asBool) :=
  decides_withDefault (g := (·.elim false asBool)) rfl (decides_nullIs decides_bool false) fields name

end Schema

end BotSentry
