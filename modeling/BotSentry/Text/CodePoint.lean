/-!
# Text that may hold lone surrogates

A JSON document can spell half of a surrogate pair as an escape of its own, and such a string has
no Unicode scalar form. Dataset fields are therefore lists of code points, surrogates included;
`Text.ofString` embeds ordinary strings and `Text.toString?` is its partial inverse.
-/

namespace BotSentry

/-- A Unicode scalar value or a lone surrogate. -/
inductive CodePoint where
  | char (c : Char)
  | surrogate (offset : Fin 2048)
  deriving DecidableEq, Repr, Inhabited

namespace CodePoint

/-- The number of the code point, below `0x110000`. -/
def value : CodePoint → Nat
  | .char c => c.toNat
  | .surrogate s => 0xD800 + s.val

/-- The code point with number `n`, if there is one. -/
def ofNat? (n : Nat) : Option CodePoint :=
  if h : 0xD800 ≤ n ∧ n < 0xE000 then some (.surrogate ⟨n - 0xD800, by omega⟩)
  else if n < 0x110000 then some (.char (Char.ofNat n))
  else none

/-- The scalar value, unless the code point is a surrogate. -/
def char? : CodePoint → Option Char
  | .char c => some c
  | .surrogate _ => none

end CodePoint

/-- A sequence of code points. -/
abbrev Text := List CodePoint

namespace Text

def ofChars (cs : List Char) : Text := cs.map .char

def ofString (s : String) : Text := ofChars s.toList

/-- The characters of a text without surrogates. -/
def toChars? : Text → Option (List Char)
  | [] => some []
  | .char c :: rest => (toChars? rest).map (c :: ·)
  | .surrogate _ :: _ => none

def toString? (t : Text) : Option String := (toChars? t).map String.ofList

/-- Whether `t` and `s` are the same text. -/
def isString (t : Text) (s : String) : Bool := t == ofString s

/-- Lexicographic order by code point number. -/
def before : Text → Text → Bool
  | _, [] => false
  | [], _ :: _ => true
  | a :: s, b :: t => a.value < b.value || (a == b && before s t)

/-- Whether `needle` occurs somewhere in `hay`. -/
def occursIn (needle : Text) : Text → Bool
  | [] => needle.isEmpty
  | c :: rest => needle.isPrefixOf (c :: rest) || occursIn needle rest

theorem value_inj {a b : CodePoint} (h : a.value = b.value) : a = b := by
  cases a with
  | char c =>
    cases b with
    | char d =>
      simp only [CodePoint.value] at h
      exact congrArg _ (Char.ext (UInt32.toNat_inj.1 h))
    | surrogate s =>
      simp only [CodePoint.value] at h
      have hc := c.valid
      have hs := s.isLt
      rcases hc with hc | hc <;> simp only [Char.toNat] at h <;> omega
  | surrogate s =>
    cases b with
    | char d =>
      simp only [CodePoint.value] at h
      have hd := d.valid
      have hs := s.isLt
      rcases hd with hd | hd <;> simp only [Char.toNat] at h <;> omega
    | surrogate r =>
      simp only [CodePoint.value] at h
      exact congrArg _ (Fin.ext (by omega))

theorem before_cons_iff {a b : CodePoint} {s t : Text} :
    before (a :: s) (b :: t) = true ↔ a.value < b.value ∨ (a = b ∧ before s t = true) := by
  simp [before]

theorem before_trans {s t u : Text} (h : before s t = true) (h' : before t u = true) :
    before s u = true := by
  induction s generalizing t u with
  | nil =>
    cases t with
    | nil => simp [before] at h
    | cons b t =>
      cases u with
      | nil => simp [before] at h'
      | cons c u => rfl
  | cons a s ih =>
    cases t with
    | nil => simp [before] at h
    | cons b t =>
      cases u with
      | nil => simp [before] at h'
      | cons c u =>
        rw [before_cons_iff] at h h' ⊢
        rcases h with h | ⟨rfl, h⟩ <;> rcases h' with h' | ⟨rfl, h'⟩
        · exact .inl (Nat.lt_trans h h')
        · exact .inl h
        · exact .inl h'
        · exact .inr ⟨rfl, ih h h'⟩

/-- Of two different texts one is before the other. -/
theorem before_of_not_before {s t : Text} (h : before s t = false) (hne : s ≠ t) :
    before t s = true := by
  induction s generalizing t with
  | nil =>
    cases t with
    | nil => exact absurd rfl hne
    | cons b t => simp [before] at h
  | cons a s ih =>
    cases t with
    | nil => rfl
    | cons b t =>
      rw [before_cons_iff]
      have h' : ¬(a.value < b.value ∨ (a = b ∧ before s t = true)) := by
        rw [← before_cons_iff]; simp [h]
      by_cases hab : a = b
      · subst hab
        refine .inr ⟨rfl, ih ?_ (fun hst => hne (by rw [hst]))⟩
        cases hb : before s t with
        | false => rfl
        | true => exact absurd (.inr ⟨rfl, hb⟩) h'
      · have : a.value ≠ b.value := fun e => hab (value_inj e)
        exact .inl (by omega)

theorem toChars?_ofChars (cs : List Char) : toChars? (ofChars cs) = some cs := by
  induction cs with
  | nil => rfl
  | cons c cs ih => simp [ofChars, toChars?] at ih ⊢; simp [ih]

theorem toString?_ofString (s : String) : toString? (ofString s) = some s := by
  simp [toString?, ofString, toChars?_ofChars]

end Text

end BotSentry
