import BotSentry.Json.Strict
import BotSentry.Json.Writer
import BotSentry.Proofs.Digits
import BotSentry.Proofs.Utf8

/-!
# Documents are read as they were written

Values without numbers, surrogates and repeated names (`Plain`) are written as documents that the
strict reader takes for the same values (`Plain.read_written`), as long as they nest no deeper than it
goes. The reader is followed along the writer: one character of a string (`string_writeCodePoint`), the
items of an array and the fields of an object (`elements_written`, `members_written`), and then a value by
induction on how it is made. Two units of fuel for a character are more than it takes.
-/

namespace BotSentry.Json

open Text

/-! ## What is written -/

/-- A value without numbers, surrogates and repeated names, with containers nested `n` deep. -/
inductive Plain : Nat → Json → Prop
  | null {n : Nat} : Plain n .null
  | bool {n : Nat} (b : Bool) : Plain n (.bool b)
  | str {n : Nat} {t : Text} : IsUnicode t → Plain n (.str t)
  | arr {n : Nat} {items : List Json} : (∀ v ∈ items, Plain n v) → Plain (n + 1) (.arr items)
  | obj {n : Nat} {fields : List (Text × Json)} : (fields.map Prod.fst).Nodup →
      (∀ f ∈ fields, IsUnicode f.1) → (∀ f ∈ fields, Plain n f.2) → Plain (n + 1) (.obj fields)

/-- The characters of a value. -/
def written (v : Json) : List Char := chars (write false v)

def writtenItems (l : List Json) : List Char := chars (writeItems false l)

/-- The characters of fields, whose first is a quote. -/
def writtenFields (l : List (Text × Json)) : List Char := chars (writeFields false l)

/-- The characters of a string and its closing quote, where more follows. -/
def writtenString (t : Text) (rest : List Char) : List Char :=
  chars (t.flatMap (writeCodePoint false)) ++ '\x22' :: rest

section Written

variable {v w : Json} {t : Text} {l : List Json} {f g : Text × Json}
  {fields : List (Text × Json)} {rest : List Char}

theorem written_str : written (.str t) ++ rest = '\x22' :: writtenString t rest := by
  simp [written, write, writeText, quote, writtenString]

theorem written_arr : written (.arr l) = '[' :: writtenItems l ++ [']'] := by
  simp [written, write, writtenItems]

theorem written_obj : written (.obj fields) = '\x7b' :: writtenFields fields ++ ['\x7d'] := by
  simp [written, write, writtenFields]

theorem writtenItems_singleton : writtenItems [v] = written v := rfl

theorem writtenItems_cons :
    writtenItems (v :: w :: l) = written v ++ ',' :: writtenItems (w :: l) := by
  simp [written, writtenItems, writeItems]

theorem writtenFields_singleton : writtenFields [f] ++ rest
    = '\x22' :: writtenString f.1 (':' :: (written f.2 ++ rest)) := by
  simp [written, writtenFields, writeFields, writeText, quote, writtenString]

theorem writtenFields_cons : writtenFields (f :: g :: fields) ++ rest
    = '\x22' :: writtenString f.1
      (':' :: (written f.2 ++ ',' :: (writtenFields (g :: fields) ++ rest))) := by
  simp [written, writtenFields, writeFields, writeText, quote, writtenString]

theorem length_writtenFields_singleton (f : Text × Json) :
    (written f.2).length < (writtenFields [f]).length := by
  simp [written, writtenFields, writeFields, writeText, quote]
  omega

theorem length_writtenFields_cons (f g : Text × Json) (fields : List (Text × Json)) :
    (written f.2).length + (writtenFields (g :: fields)).length
      < (writtenFields (f :: g :: fields)).length := by
  simp [written, writtenFields, writeFields, writeText, quote]
  omega

end Written

/-- A value does not begin like a blank or like the end of an array. -/
theorem Plain.written_head {n : Nat} {v : Json} (h : Plain n v) :
    ∃ c cs, written v = c :: cs ∧ isSpace c = false ∧ c ≠ ']' := by
  cases h with
  | null => exact ⟨'n', _, rfl, rfl, by decide⟩
  | bool b =>
    cases b
    · exact ⟨'f', _, rfl, rfl, by decide⟩
    · exact ⟨'t', _, rfl, rfl, by decide⟩
  | str ht => exact ⟨'\x22', _, rfl, rfl, by decide⟩
  | arr hitems => exact ⟨'[', _, written_arr, rfl, by decide⟩
  | obj hnames hunicode hfields => exact ⟨'\x7b', _, written_obj, rfl, by decide⟩

theorem Plain.writtenItems_head {n : Nat} {v : Json} (h : Plain n v) (l : List Json) :
    ∃ c cs, writtenItems (v :: l) = c :: cs ∧ isSpace c = false ∧ c ≠ ']' := by
  obtain ⟨c, cs, hc, hspace, hend⟩ := h.written_head
  cases l with
  | nil => exact ⟨c, cs, hc, hspace, hend⟩
  | cons w l =>
    refine ⟨c, cs ++ ',' :: writtenItems (w :: l), ?_, hspace, hend⟩
    rw [writtenItems_cons, hc, List.cons_append]

namespace Strict

/-! ## Strings -/

theorem hasBytes_four (a b c d : Char) (rest : List Char) :
    hasBytes 4 (a :: b :: c :: d :: rest) = true := by
  have ha := Utf8.width_pos a
  have hb := Utf8.width_pos b
  have hc := Utf8.width_pos c
  have hd := Utf8.width_pos d
  rw [hasBytes, decide_eq_true_eq]
  simp only [List.take_succ_cons, List.take_zero, Utf8.size, List.foldr_cons, List.foldr_nil]
  omega

theorem hexFour_hexDigits {n : Nat} (h : n < 0x10000) (rest : List Char) :
    hexFour (Text.hexDigits 4 n ++ rest) = .ok (n, rest) := by
  rw [hexDigits_four h]
  simp only [List.cons_append, List.nil_append, hexFour, hasBytes_four, ↓reduceIte, hexFour.digits]
  rw [hexValue?_digitChar (by omega), hexValue?_digitChar (by omega),
    hexValue?_digitChar (by omega), hexValue?_digitChar (by omega)]
  exact congrArg (fun m => Except.ok (m, rest)) (by omega)

theorem hexEscape_hexDigits {n : Nat} (h : n < 0xD800) (rest : List Char) :
    hexEscape (Text.hexDigits 4 n ++ rest) = .ok (Char.ofNat n, rest) := by
  unfold hexEscape
  rw [hexFour_hexDigits (by omega)]
  change (if _ then _ else _) = _
  rw [if_neg (by simp; omega), if_neg (by simp; omega)]
  rfl

/-- A character as it is written is read back, whatever follows it. -/
theorem string_writeCodePoint (fuel : Nat) (acc : List Char) (c : Char) (rest : List Char) :
    string (fuel + 1) acc (chars (writeCodePoint false (.char c)) ++ rest)
      = string fuel (c :: acc) rest := by
  unfold writeCodePoint
  split
  iterate 7 · rename_i h; cases h; rfl
  · rename_i hquote hslash _ _ _ _ _
    have hq : c ≠ '\x22' := fun h => hquote (congrArg _ h)
    have hs : c ≠ '\x5c' := fun h => hslash (congrArg _ h)
    simp only [Bool.false_and, Bool.or_false, decide_eq_true_eq]
    change string _ _ (chars (if c.toNat < 0x20 then codeEscape c.toNat else _) ++ rest) = _
    split_ifs with hcontrol
    · rw [codeEscape, if_pos (by omega), unitEscape, chars_ofChars]
      simp only [List.cons_append]
      rw [string, hexEscape_hexDigits (by omega), Char.ofNat_toNat]
      rfl
    · rw [chars_cons, chars_nil, List.singleton_append, string]
      · exact if_neg hcontrol
      · exact hq
      · exact hs

theorem writtenString_cons (c : Char) (t : Text) (rest : List Char) :
    writtenString (.char c :: t) rest
      = chars (writeCodePoint false (.char c)) ++ writtenString t rest := by
  simp [writtenString]

theorem writeCodePoint_ne_nil (c : Char) : chars (writeCodePoint false (.char c)) ≠ [] := by
  intro h
  have hread := string_writeCodePoint 1 [] c ['\x22']
  rw [h] at hread
  simp [string] at hread

theorem length_lt_writtenString (cs rest : List Char) :
    cs.length < (writtenString (ofChars cs) rest).length := by
  induction cs with
  | nil => exact Nat.zero_lt_succ _
  | cons c cs ih =>
    have hpos := List.length_pos_iff.2 (writeCodePoint_ne_nil c)
    change _ < (writtenString (.char c :: ofChars cs) rest).length
    rw [writtenString_cons, List.length_append, List.length_cons]
    omega

theorem string_ofChars {fuel : Nat} {cs : List Char} (h : cs.length < fuel) (acc rest : List Char) :
    string fuel acc (writtenString (ofChars cs) rest) = .ok (acc.reverse ++ cs, rest) := by
  induction cs generalizing fuel acc with
  | nil =>
    obtain ⟨fuel, rfl⟩ := Nat.exists_eq_add_of_lt h
    simp [writtenString, ofChars, string]
  | cons c cs ih =>
    obtain ⟨fuel, rfl⟩ : ∃ n, fuel = n + 1 := ⟨fuel - 1, by omega⟩
    change string _ _ (writtenString (.char c :: ofChars cs) rest) = _
    rw [writtenString_cons, string_writeCodePoint, ih (Nat.lt_of_succ_lt_succ h)]
    simp

theorem string_writtenString {t : Text} (h : IsUnicode t) (rest : List Char) :
    string (writtenString t rest).length [] (writtenString t rest) = .ok (chars t, rest) := by
  rw [← h.ofChars_chars, chars_ofChars]
  exact string_ofChars (length_lt_writtenString _ _) [] rest

/-! ## Values -/

/-- Whether a value is read as it was written, inside `depth` containers. -/
def Reads (depth : Nat) (v : Json) : Prop :=
  ∀ fuel rest, 2 * (written v).length ≤ fuel →
    value fuel depth (written v ++ rest) = .ok (v, rest)

theorem reads_of_succ {n depth : Nat} {v : Json} (h : Plain n v)
    (hread : ∀ fuel rest, 2 * (written v).length ≤ fuel + 1 →
      value (fuel + 1) depth (written v ++ rest) = .ok (v, rest)) : Reads depth v := by
  obtain ⟨c, cs, hc, -⟩ := h.written_head
  intro fuel rest hfuel
  cases fuel with
  | zero => simp [hc] at hfuel
  | succ fuel => exact hread fuel rest hfuel

theorem skipSpace_cons {c : Char} (h : isSpace c = false) (rest : List Char) :
    skipSpace (c :: rest) = c :: rest := by
  rw [skipSpace, h]
  rfl

/-- The items of an array are read with a unit of fuel beside theirs. -/
theorem elements_written {n depth : Nat} {l : List Json} (hne : l ≠ [])
    (hplain : ∀ v ∈ l, Plain n v) (hreads : ∀ v ∈ l, Reads depth v) (items : List Json)
    (rest : List Char) (fuel : Nat) (hfuel : 2 * (writtenItems l).length < fuel) :
    elements fuel depth (writtenItems l ++ ']' :: rest) items
      = .ok (.arr (items.reverse ++ l), rest) := by
  induction l generalizing fuel items with
  | nil => exact absurd rfl hne
  | cons v l ih =>
    obtain ⟨fuel, rfl⟩ : ∃ n, fuel = n + 1 := ⟨fuel - 1, by omega⟩
    obtain ⟨-, hplain⟩ := List.forall_mem_cons.1 hplain
    obtain ⟨hv, hreads⟩ := List.forall_mem_cons.1 hreads
    cases l with
    | nil =>
      rw [writtenItems_singleton] at hfuel ⊢
      rw [elements, hv _ _ (by omega)]
      change Except.ok (Json.arr (v :: items).reverse, rest) = _
      rw [List.reverse_cons]
    | cons w l =>
      have ihl := ih (by simp) hplain hreads (v :: items) fuel
      obtain ⟨c, cs, hc, hspace, hend⟩ := (hplain w (List.mem_cons_self ..)).writtenItems_head l
      rw [writtenItems_cons] at hfuel ⊢
      simp only [List.length_append, List.length_cons] at hfuel
      rw [List.append_assoc, elements, hv _ _ (by omega)]
      simp only [bind, Except.bind, List.cons_append, skipSpace_cons (c := ',') rfl]
      rw [hc] at hfuel ihl ⊢
      simp only [List.cons_append, skipSpace_cons hspace]
      split
      · rename_i heq; cases heq
      · rename_i heq; exact absurd (List.cons.inj heq).1 hend
      · rw [← List.cons_append, ihl (by omega), List.reverse_cons, List.append_assoc]
        rfl

theorem insertField_new {key : Text} {fields : List (Text × Json)} (v : Json)
    (h : key ∉ fields.map Prod.fst) : insertField key v fields = fields ++ [(key, v)] := by
  induction fields with
  | nil => rfl
  | cons f fields ih =>
    simp only [List.map_cons, List.mem_cons, not_or] at h
    rw [insertField, if_neg (Ne.symm h.1), ih h.2, List.cons_append]

/-- What follows a field, from behind its value. -/
def afterField (fuel depth : Nat) (fields : List (Text × Json)) (rest : List Char) :
    Except Failure (Json × List Char) :=
  match skipSpace rest with
  | [] => fail .endOfObject []
  | '\x7d' :: rest => return (.obj fields, rest)
  | ',' :: rest =>
    match skipSpace rest with
    | [] => fail .endOfValue []
    | '\x22' :: rest => members fuel depth rest fields
    | '\x7d' :: rest => fail .trailingComma ('\x7d' :: rest)
    | rest => fail .keyNotString rest
  | rest => fail .expectedCommaOrBrace rest

theorem members_field {fuel n depth : Nat} {f : Text × Json} {fields : List (Text × Json)}
    (hdepth : depth ≤ depthLimit) (hunicode : IsUnicode f.1) (hplain : Plain n f.2)
    (hreads : Reads depth f.2) (hnew : f.1 ∉ fields.map Prod.fst)
    (hfuel : 2 * (written f.2).length ≤ fuel) (rest : List Char) :
    members (fuel + 1) depth (writtenString f.1 (':' :: (written f.2 ++ rest))) fields
      = afterField fuel depth (fields ++ [f]) rest := by
  obtain ⟨c, cs, hc, hspace, -⟩ := hplain.written_head
  have hvalue := hreads fuel rest hfuel
  rw [members, string_writtenString hunicode]
  simp only [bind, Except.bind, skipSpace_cons (c := ':') rfl]
  rw [hc] at hvalue ⊢
  simp only [List.cons_append, skipSpace_cons hspace]
  rw [if_neg (Nat.not_lt.2 hdepth), ← List.cons_append, hvalue, hunicode.ofChars_chars]
  simp only [insertField_new _ hnew]
  rfl

theorem members_written {n depth : Nat} {l : List (Text × Json)} (hne : l ≠ [])
    (hdepth : depth ≤ depthLimit) (hunicode : ∀ f ∈ l, IsUnicode f.1)
    (hplain : ∀ f ∈ l, Plain n f.2) (hreads : ∀ f ∈ l, Reads depth f.2)
    (fields : List (Text × Json)) (hnames : ((fields ++ l).map Prod.fst).Nodup)
    (rest : List Char) (fuel : Nat) (hfuel : 2 * (writtenFields l).length ≤ fuel) :
    ∃ t, writtenFields l ++ '\x7d' :: rest = '\x22' :: t
      ∧ members fuel depth t fields = .ok (.obj (fields ++ l), rest) := by
  induction l generalizing fuel fields with
  | nil => exact absurd rfl hne
  | cons f l ih =>
    have hnew : f.1 ∉ fields.map Prod.fst := by
      rw [List.map_append, List.nodup_append] at hnames
      exact fun h => hnames.2.2 _ h _ (List.mem_cons_self ..) rfl
    obtain ⟨hname, hunicode⟩ := List.forall_mem_cons.1 hunicode
    obtain ⟨hf, hplain⟩ := List.forall_mem_cons.1 hplain
    obtain ⟨hvalue, hreads⟩ := List.forall_mem_cons.1 hreads
    cases l with
    | nil =>
      refine ⟨_, writtenFields_singleton, ?_⟩
      have hlength := length_writtenFields_singleton f
      obtain ⟨fuel, rfl⟩ : ∃ n, fuel = n + 1 := ⟨fuel - 1, by omega⟩
      rw [members_field hdepth hname hf hvalue hnew (by omega)]
      rfl
    | cons g l =>
      refine ⟨_, writtenFields_cons, ?_⟩
      have hlength := length_writtenFields_cons f g l
      obtain ⟨fuel, rfl⟩ : ∃ n, fuel = n + 1 := ⟨fuel - 1, by omega⟩
      have happend : fields ++ f :: g :: l = fields ++ [f] ++ g :: l := List.append_cons ..
      rw [happend] at hnames ⊢
      obtain ⟨t, ht, hread⟩ := ih (by simp) hunicode hplain hreads _ hnames fuel (by omega)
      rw [members_field hdepth hname hf hvalue hnew (by omega), ht]
      exact hread

end Strict

open Strict

/-- A value is read as it was written, whatever follows it. -/
theorem Plain.reads {n : Nat} {v : Json} (h : Plain n v) {depth : Nat}
    (hdepth : depth + n ≤ depthLimit) : Reads depth v := by
  induction h generalizing depth with
  | null => exact reads_of_succ (.null (n := 0)) fun fuel rest _ => rfl
  | bool b => exact reads_of_succ (.bool (n := 0) b) fun fuel rest _ => by cases b <;> rfl
  | @str n t ht =>
    refine reads_of_succ (.str (n := n) ht) fun fuel rest _ => ?_
    rw [written_str, value, string_writtenString ht]
    simp only [bind, Except.bind, ht.ofChars_chars]
    rfl
  | @arr n items hitems ih =>
    refine reads_of_succ (.arr hitems) fun fuel rest hfuel => ?_
    cases items with
    | nil => rfl
    | cons v l =>
      obtain ⟨c, cs, hc, hspace, hend⟩ := (hitems v (List.mem_cons_self ..)).writtenItems_head l
      have hread := elements_written (List.cons_ne_nil v l) hitems
        (fun u hu => ih u hu (by omega) : ∀ u ∈ v :: l, Reads (depth + 1) u) [] rest fuel
        (by rw [written_arr] at hfuel; simp at hfuel; omega)
      rw [written_arr, List.cons_append, List.cons_append, List.append_assoc, value]
      rw [hc] at hread ⊢
      simp only [List.cons_append, skipSpace_cons hspace]
      split
      · rename_i heq; cases heq
      · rename_i heq; exact absurd (List.cons.inj heq).1 hend
      · rw [if_pos (by omega)]
        exact hread
  | @obj n fields hnames hunicode hfields ih =>
    refine reads_of_succ (.obj hnames hunicode hfields) fun fuel rest hfuel => ?_
    cases fields with
    | nil => rfl
    | cons f l =>
      obtain ⟨t, ht, hread⟩ := members_written (List.cons_ne_nil f l) (by omega) hunicode hfields
        (fun g hg => ih g hg (by omega) : ∀ g ∈ f :: l, Reads (depth + 1) g.2) [] hnames rest fuel
        (by rw [written_obj] at hfuel; simp at hfuel; omega)
      rw [written_obj, List.cons_append, List.cons_append, List.append_assoc, value,
        List.singleton_append, ht]
      exact hread

/-- A document is read as the value that was written. -/
theorem Plain.read_written {n : Nat} {v : Json} (h : Plain n v) (hn : n ≤ depthLimit) :
    read (written v) = .ok v := by
  obtain ⟨c, cs, hc, hspace, -⟩ := h.written_head
  have hreads : Reads 0 v := h.reads (by omega)
  have hread := hreads (2 * (written v).length + 2) [] (by omega)
  rw [List.append_nil] at hread
  rw [Strict.read]
  rw [hc] at hread ⊢
  rw [skipSpace_cons hspace]
  simp only [hread]
  rfl

/-! ## Bytes -/

theorem isUnicode_writeCodePoint (c : Char) : IsUnicode (writeCodePoint false (.char c)) := by
  unfold writeCodePoint
  split
  all_goals try exact isUnicode_ofChars
  unfold codeEscape unitEscape
  split_ifs <;> simp

theorem isUnicode_writeText {t : Text} (h : IsUnicode t) : IsUnicode (writeText false t) := by
  have hbody : IsUnicode (t.flatMap (writeCodePoint false)) := by
    rw [← h.ofChars_chars]
    induction chars t with
    | nil => exact isUnicode_nil
    | cons c cs ih => exact isUnicode_append.2 ⟨isUnicode_writeCodePoint c, ih⟩
  simpa [writeText, quote] using hbody

/-- A surrogate is written as it is. -/
theorem isUnicode_of_writeText {t : Text} (h : IsUnicode (writeText false t)) : IsUnicode t := by
  intro c hc
  rcases c with c | s
  · rfl
  · refine h _ (List.mem_cons_of_mem _ (List.mem_append_left _ (List.mem_flatMap.2 ⟨_, hc, ?_⟩)))
    have hvalue : ¬ (CodePoint.surrogate s).value < 0x20 := by
      simp only [CodePoint.value]
      omega
    simp [writeCodePoint, hvalue]

theorem isUnicode_writeItems {l : List Json} (h : ∀ v ∈ l, IsUnicode (write false v)) :
    IsUnicode (writeItems false l) := by
  induction l with
  | nil => exact isUnicode_nil
  | cons v l ih =>
    obtain ⟨hv, hl⟩ := List.forall_mem_cons.1 h
    cases l with
    | nil => exact hv
    | cons w l => exact isUnicode_append.2 ⟨hv, isUnicode_cons.2 (ih hl)⟩

theorem isUnicode_writeFields {l : List (Text × Json)} (hnames : ∀ f ∈ l, IsUnicode f.1)
    (h : ∀ f ∈ l, IsUnicode (write false f.2)) : IsUnicode (writeFields false l) := by
  induction l with
  | nil => exact isUnicode_nil
  | cons f l ih =>
    obtain ⟨hname, hnames⟩ := List.forall_mem_cons.1 hnames
    obtain ⟨hf, hl⟩ := List.forall_mem_cons.1 h
    have htext := isUnicode_writeText hname
    cases l with
    | nil => simp [writeFields, htext, hf]
    | cons g l => simp [writeFields, htext, hf, ih hnames hl]

theorem Plain.isUnicode_write {n : Nat} {v : Json} (h : Plain n v) : IsUnicode (write false v) := by
  induction h with
  | null => exact isUnicode_ofChars
  | bool b => exact isUnicode_ofChars
  | str ht => exact isUnicode_writeText ht
  | arr _ ih => simp [write, isUnicode_writeItems ih]
  | obj _ hunicode _ ih => simp [write, isUnicode_writeFields hunicode ih]

theorem unencodableItem?_eq_none {l : List Json} (h : ∀ v ∈ l, v.unencodable? = none) :
    unencodableItem? l = none := by
  induction l with
  | nil => rfl
  | cons v l ih =>
    obtain ⟨hv, hl⟩ := List.forall_mem_cons.1 h
    rw [unencodableItem?, hv, ih hl]
    rfl

theorem unencodableField?_eq_none {l : List (Text × Json)} (hnames : ∀ f ∈ l, IsUnicode f.1)
    (h : ∀ f ∈ l, f.2.unencodable? = none) : unencodableField? l = none := by
  induction l with
  | nil => rfl
  | cons f l ih =>
    obtain ⟨hname, hnames⟩ := List.forall_mem_cons.1 hnames
    obtain ⟨hf, hl⟩ := List.forall_mem_cons.1 h
    rw [unencodableField?, surrogates?_eq_none hname, hf, ih hnames hl]
    rfl

theorem Plain.unencodable? {n : Nat} {v : Json} (h : Plain n v) : v.unencodable? = none := by
  induction h with
  | null => rfl
  | bool b => rfl
  | str ht => exact surrogates?_eq_none ht 0
  | arr _ ih => exact unencodableItem?_eq_none ih
  | obj _ hunicode _ ih => exact unencodableField?_eq_none hunicode ih

/-- The bytes of a value are those of its document. -/
theorem Plain.encode_eq {n : Nat} {v : Json} (h : Plain n v) :
    v.encode = .ok (Utf8.encodeChars (written v)) := by
  rw [encode, h.unencodable?]
  exact Text.encode_eq h.isUnicode_write

end BotSentry.Json
