import BotSentry.Http.Location
import Mathlib.Data.List.TakeWhile
import Mathlib.Tactic.Common

/-!
# Authorities that can be read back

A URL is put together from an authority and read back, and an authority with brackets is refused
unless they enclose an address. What a request may name as its host has plain characters, or plain
brackets (`Url.IsAuthority`), and so has the server of a connection. Inside the brackets both sides
agree on what an address is, so all hosts that a request may name are read back
(`Location.authorityFault?_of_isHost`).
-/

namespace BotSentry

/-! ## Addresses -/

namespace Address

section Parts

variable {c sep : Char} {cs : List Char}

theorem splitAt_cons_of_ne (h : c ≠ sep) (cs : List Char) :
    ∃ part parts, splitAt sep (c :: cs) = (c :: part) :: parts := by
  rw [splitAt, if_neg h]
  rcases splitAt sep cs with _ | ⟨part, parts⟩
  · exact ⟨[], [], rfl⟩
  · exact ⟨part, parts, rfl⟩

theorem splitAt_of_not_mem (h : sep ∉ cs) : splitAt sep cs = [cs] := by
  induction cs with
  | nil => rfl
  | cons c cs ih =>
    simp only [List.mem_cons, not_or] at h
    rw [splitAt, if_neg (Ne.symm h.1), ih h.2]

theorem exists_mem_splitAt (hc : c ∈ cs) (h : c ≠ sep) : ∃ part ∈ splitAt sep cs, c ∈ part := by
  induction cs with
  | nil => simp at hc
  | cons b cs ih =>
    rw [splitAt]
    rcases List.mem_cons.1 hc with rfl | hc
    · rw [if_neg h]
      rcases splitAt sep cs with _ | ⟨part, parts⟩ <;> exact ⟨_, List.mem_cons_self, by simp⟩
    · obtain ⟨part, hpart, hmem⟩ := ih hc
      split_ifs
      · exact ⟨part, List.mem_cons_of_mem _ hpart, hmem⟩
      · rcases hs : splitAt sep cs with _ | ⟨first, parts⟩ <;> rw [hs] at hpart
        · simp at hpart
        · rcases List.mem_cons.1 hpart with rfl | hpart
          · exact ⟨_, List.mem_cons_self, List.mem_cons_of_mem _ hmem⟩
          · exact ⟨part, List.mem_cons_of_mem _ hpart, hmem⟩

end Parts

section Readers

variable {c : Char} {cs : List Char}

theorem octet?_eq_none (hc : c ∈ cs) (hd : c.isDigit = false) : octet? cs = none := by
  have hall : cs.all Char.isDigit = false := List.all_eq_false.2 ⟨c, hc, by simp [hd]⟩
  simp [octet?, hall]

theorem mapM_octet?_eq_none {parts : List (List Char)} (hp : cs ∈ parts) (hc : c ∈ cs)
    (hd : c.isDigit = false) : parts.mapM octet? = none := by
  induction parts with
  | nil => simp at hp
  | cons first parts ih =>
    rw [List.mapM_cons]
    rcases List.mem_cons.1 hp with rfl | hp
    · rw [octet?_eq_none hc hd]
      rfl
    · rw [ih hp]
      rcases octet? first with _ | n <;> rfl

/-- Any other character than a digit or a point spoils an IPv4 address. -/
theorem v4?_eq_none (hc : c ∈ cs) (hd : c.isDigit = false) (hdot : c ≠ '.') : v4? cs = none := by
  obtain ⟨part, hpart, hmem⟩ := exists_mem_splitAt hc hdot
  rw [v4?, mapM_octet?_eq_none hpart hmem hd]
  rfl

/-- An IPv6 address begins with a hexadecimal digit or a colon. -/
theorem v6?_cons_eq_none (hx : isHex c = false) (hc : c ≠ ':') : v6? (c :: cs) = none := by
  obtain ⟨part, parts, hparts⟩ := splitAt_cons_of_ne hc cs
  have hfirst : hextet? (c :: part) = none := by simp [hextet?, hx]
  rw [v6?, hparts]
  rcases parts with _ | ⟨second, rest⟩
  · rfl
  · simp [groups?, hfirst]

theorem mem_of_v6? (h : (v6? cs).isSome = true) : ':' ∈ cs := by
  by_contra hc
  rw [v6?, splitAt_of_not_mem hc] at h
  simp at h

/-- Without a slash and a zone, an IPv6 address is read as such. -/
theorem ofChars?_of_v6? (hs : '/' ∉ cs) (hp : '%' ∉ cs) (h : (v6? cs).isSome = true) :
    ∃ n, ofChars? cs = some (.v6 n none) := by
  obtain ⟨n, hn⟩ := Option.isSome_iff_exists.1 h
  have hv4 : v4? cs = none := v4?_eq_none (mem_of_v6? h) (by decide) (by decide)
  have hplain : cs.takeWhile (· != '%') = cs :=
    List.takeWhile_eq_self_iff.2 fun c hc => bne_iff_ne.2 fun he => hp (he ▸ hc)
  refine ⟨n, ?_⟩
  simp [ofChars?, hs, hv4, hplain, hn]

/-- No address begins with a letter beyond the hexadecimal digits. -/
theorem ofChars?_cons_eq_none (hx : isHex c = false) (hc : c ≠ ':') (hd : c ≠ '.') (hp : c ≠ '%') :
    ofChars? (c :: cs) = none := by
  have hdigit : c.isDigit = false := by
    by_contra h
    simp [isHex, h] at hx
  have hv4 : v4? (c :: cs) = none := v4?_eq_none List.mem_cons_self hdigit hd
  unfold ofChars?
  rw [hv4, List.takeWhile_cons_of_pos (by simpa using hp)]
  split_ifs
  · rfl
  · dsimp only
    split
    · rw [v6?_cons_eq_none hx hc]
      rfl
    · split_ifs
      · rfl
      · rw [v6?_cons_eq_none hx hc]
        rfl

end Readers

end Address

/-! ## Parts of a text -/

namespace Url

section Cut

variable {sep : Char} {cs before after : List Char}

theorem cut_of_not_mem (h : sep ∉ cs) : cut sep cs = (cs, none) := by
  have hall : cs.takeWhile (· != sep) = cs :=
    List.takeWhile_eq_self_iff.2 fun c hc => bne_iff_ne.2 fun he => h (he ▸ hc)
  unfold cut
  simp [hall]

theorem cut_append (h : sep ∉ before) : cut sep (before ++ sep :: after) = (before, some after) := by
  have hall : ∀ c ∈ before, (c != sep) = true := fun c hc => bne_iff_ne.2 fun he => h (he ▸ hc)
  unfold cut
  simp [List.takeWhile_append_of_pos hall]

theorem cut_fst (sep : Char) (cs : List Char) : (cut sep cs).1 = cs.takeWhile (· != sep) := by
  unfold cut
  dsimp only
  split <;> rfl

theorem eq_append_of_cut (h : cut sep cs = (before, some after)) : cs = before ++ sep :: after := by
  by_cases hs : sep ∈ cs
  · obtain ⟨b, a, rfl, hb⟩ := List.eq_append_cons_of_mem hs
    rw [cut_append hb, Prod.mk.injEq, Option.some.injEq] at h
    rw [h.1, h.2]
  · rw [cut_of_not_mem hs] at h
    simp at h

end Cut

/-- The text without tabs and line breaks. -/
def unbroken (cs : List Char) : List Char := cs.filter fun c => c != '\t' && c != '\r' && c != '\n'

/-- A character that stands for itself in an authority: it is no delimiter and stands for none, and it
is kept. -/
def isPlain (c : Char) : Bool := !"/?#[]@\t\r\n".toList.contains c && !hidesDelimiter c

/-- What an authority is made of: plain characters, or plain ones in brackets with a port after
them. -/
inductive IsAuthority : List Char → Prop
  | plain {cs : List Char} : (∀ c ∈ cs, isPlain c = true) → IsAuthority cs
  | bracketed {inside port : List Char} : (∀ c ∈ inside, isPlain c = true) →
      (∀ c ∈ port, isPlain c = true) → (port = [] ∨ ∃ ds, port = ':' :: ds) →
      IsAuthority ('[' :: inside ++ ']' :: port)

section Plain

variable {c d : Char} {cs inside port : List Char}

theorem not_mem_of_plain (h : ∀ c ∈ cs, isPlain c = true) (hd : isPlain d = false) : d ∉ cs := by
  intro hmem
  rw [h d hmem] at hd
  simp at hd

theorem any_hidesDelimiter_of_plain (h : ∀ c ∈ cs, isPlain c = true) :
    cs.any hidesDelimiter = false := by
  refine List.any_eq_false.2 fun c hc => ?_
  have hplain := h c hc
  simp only [isPlain, Bool.and_eq_true, Bool.not_eq_true'] at hplain
  simp [hplain.2]

theorem unbroken_of_plain (h : ∀ c ∈ cs, isPlain c = true) : unbroken cs = cs := by
  refine List.filter_eq_self.2 fun c hc => ?_
  have hne : ∀ d, isPlain d = false → c ≠ d := fun d hd he => not_mem_of_plain h hd (he ▸ hc)
  simp [hne '\t' (by decide), hne '\r' (by decide), hne '\n' (by decide)]

theorem endsAuthority_of_plain (h : isPlain c = true) : endsAuthority c = false := by
  have hne : ∀ d, isPlain d = false → c ≠ d := fun d hd he => by simp [he ▸ h] at hd
  simp [endsAuthority, hne '/' (by decide), hne '?' (by decide), hne '#' (by decide)]

theorem IsAuthority.unbroken_eq (h : IsAuthority cs) : unbroken cs = cs := by
  rcases h with h | ⟨hi, hp, -⟩
  · exact unbroken_of_plain h
  · have hi := unbroken_of_plain hi
    have hp := unbroken_of_plain hp
    unfold unbroken at hi hp ⊢
    simp [hi, hp]

theorem IsAuthority.not_ends (h : IsAuthority cs) : ∀ c ∈ cs, endsAuthority c = false := by
  rcases h with h | ⟨hi, hp, -⟩
  · exact fun c hc => endsAuthority_of_plain (h c hc)
  · intro c hc
    simp only [List.cons_append, List.mem_cons, List.mem_append] at hc
    rcases hc with rfl | hc | rfl | hc
    · rfl
    · exact endsAuthority_of_plain (hi c hc)
    · rfl
    · exact endsAuthority_of_plain (hp c hc)

theorem authorityFault?_of_plain (h : ∀ c ∈ cs, isPlain c = true) : authorityFault? cs = none := by
  have ho : '[' ∉ cs := not_mem_of_plain h (by decide)
  have hc : ']' ∉ cs := not_mem_of_plain h (by decide)
  simp [authorityFault?, bracketFault?, ho, hc, any_hidesDelimiter_of_plain h]

theorem afterAt_of_not_mem (h : '@' ∉ cs) : afterAt cs = cs := by
  have hall : cs.reverse.takeWhile (· != '@') = cs.reverse :=
    List.takeWhile_eq_self_iff.2 fun c hc =>
      bne_iff_ne.2 fun he => h (he ▸ List.mem_reverse.1 hc)
  rw [afterAt, hall, List.reverse_reverse]

/-- Only what is inside the brackets counts. -/
theorem authorityFault?_bracketed (hi : ∀ c ∈ inside, isPlain c = true)
    (hp : ∀ c ∈ port, isPlain c = true) (hport : port = [] ∨ ∃ ds, port = ':' :: ds) :
    authorityFault? ('[' :: inside ++ ']' :: port) = bracketedFault? inside := by
  have hat : afterAt ('[' :: inside ++ ']' :: port) = '[' :: inside ++ ']' :: port := by
    refine afterAt_of_not_mem ?_
    simp [not_mem_of_plain hi (show isPlain '@' = false by decide),
      not_mem_of_plain hp (show isPlain '@' = false by decide)]
  have hopen : cut '[' ('[' :: inside ++ ']' :: port) = ([], some (inside ++ ']' :: port)) :=
    cut_append List.not_mem_nil
  have hclose : cut ']' (inside ++ ']' :: port) = (inside, some port) :=
    cut_append (not_mem_of_plain hi (by decide))
  have halone : port.isEmpty = true ∨ port.head? = some ':' := by
    rcases hport with rfl | ⟨ds, rfl⟩
    · exact .inl rfl
    · exact .inr rfl
  have hmarks : ('[' :: inside ++ ']' :: port).any hidesDelimiter = false := by
    simp [any_hidesDelimiter_of_plain hi, any_hidesDelimiter_of_plain hp]
    decide
  have hb : bracketFault? ('[' :: inside ++ ']' :: port) = bracketedFault? inside := by
    have hleft : ('[' :: inside ++ ']' :: port).contains '[' = true := by simp
    have hright : ('[' :: inside ++ ']' :: port).contains ']' = true := by simp
    unfold bracketFault?
    simp only [hleft, hright, hat, hopen, hclose, Option.getD_some]
    exact if_pos (by simpa using halone)
  unfold authorityFault?
  rw [hb, hmarks]
  rcases bracketedFault? inside with _ | fault <;> rfl

end Plain

end Url

/-! ## Hosts -/

namespace Location

section Hosts

variable {c : Char} {cs inside port : List Char}

/-- Hosts are written in plain characters. -/
theorem isPlain_of_isHostChar (h : isHostChar c = true) : Url.isPlain c = true := by
  have hascii : c.toNat < 0x80 := by
    simp only [isHostChar, isLetterOrDigit, Text.isAsciiLetter, Text.isAsciiUpper,
      Text.isAsciiLower, Text.isAsciiDigit, Bool.or_eq_true, Bool.and_eq_true,
      decide_eq_true_eq] at h
    rcases h with (h | h) | rfl
    · omega
    · have hmarks : "!$&\x27()*+,;=._~-".toList.all (·.toNat < 0x80) = true := by decide
      simpa using List.all_eq_true.1 hmarks c (List.contains_iff_mem.1 h)
    · decide
  have hbad : "/?#[]@\t\r\n".toList.all (!isHostChar ·) = true := by decide
  have hkept : "/?#[]@\t\r\n".toList.contains c = false := by
    by_contra hc
    rw [Bool.not_eq_false, List.contains_iff_mem] at hc
    simpa [h] using List.all_eq_true.1 hbad c hc
  have hshown : Url.hidesDelimiter c = false := by
    simp only [Url.hidesDelimiter, List.contains_eq_mem, List.mem_cons, List.not_mem_nil, or_false,
      decide_eq_false_iff_not]
    omega
  rw [Url.isPlain, hkept, hshown]
  rfl

theorem isHostChar_of_isHex (h : Address.isHex c = true) : isHostChar c = true := by
  have hrange : (48 ≤ c.toNat ∧ c.toNat ≤ 57 ∨ 97 ≤ c.toNat ∧ c.toNat ≤ 102)
      ∨ 65 ≤ c.toNat ∧ c.toNat ≤ 70 := by
    simpa [Address.isHex, Char.isDigit, Char.le_def, UInt32.le_iff_toNat_le] using h
  simp only [isHostChar, isLetterOrDigit, Text.isAsciiLetter, Text.isAsciiUpper, Text.isAsciiLower,
    Text.isAsciiDigit, Bool.or_eq_true, Bool.and_eq_true, decide_eq_true_eq]
  omega

theorem isPlain_of_isDigit (h : c.isDigit = true) : Url.isPlain c = true :=
  isPlain_of_isHostChar (isHostChar_of_isHex (by simp [Address.isHex, h]))

theorem plain_of_isPort (h : isPort port = true) :
    (∀ c ∈ port, Url.isPlain c = true) ∧ (port = [] ∨ ∃ ds, port = ':' :: ds) := by
  rcases port with _ | ⟨c, ds⟩
  · exact ⟨by simp, .inl rfl⟩
  · simp only [isPort, Bool.and_eq_true, decide_eq_true_eq, List.all_eq_true] at h
    obtain ⟨⟨⟨rfl, -⟩, hds⟩, -⟩ := h
    refine ⟨fun c hc => ?_, .inr ⟨ds, rfl⟩⟩
    rcases List.mem_cons.1 hc with rfl | hc
    · decide
    · exact isPlain_of_isDigit (hds c hc)

/-- What a request may name inside brackets is an address, or one of a future version. -/
theorem cases_of_isBracketed (h : isBracketed inside = true) :
    ((∀ c ∈ inside, Address.isHex c = true ∨ c = ':' ∨ c = '.')
        ∧ (Address.v6? inside).isSome = true)
      ∨ ∃ digits after, inside = 'v' :: digits ++ '.' :: after
        ∧ digits ≠ [] ∧ (∀ c ∈ digits, Address.isHex c = true)
        ∧ after ≠ [] ∧ ∀ c ∈ after, isHostChar c = true ∨ c = ':' := by
  rcases inside with _ | ⟨v, rest⟩
  · simp [isBracketed] at h
  · simp only [isBracketed] at h
    split_ifs at h with hv
    · subst hv
      split at h
      · rename_i digits after hcut
        simp only [Bool.and_eq_true, Bool.not_eq_true', List.isEmpty_eq_false_iff,
          List.all_eq_true, Bool.or_eq_true, decide_eq_true_eq] at h
        obtain ⟨⟨⟨hne, hdigits⟩, hafter⟩, hmarks⟩ := h
        refine .inr ⟨digits, after, ?_, hne, hdigits, hafter, fun c hc => ?_⟩
        · rw [Url.eq_append_of_cut hcut]
          rfl
        · rcases hmarks c hc with hm | rfl
          · exact .inl (by simpa [isHostChar] using .inl hm)
          · exact .inr rfl
      · simp at h
    · simp only [Bool.and_eq_true, List.all_eq_true, Bool.or_eq_true, decide_eq_true_eq] at h
      exact .inl ⟨fun c hc => or_assoc.1 (h.1 c hc), h.2⟩

theorem plain_of_isBracketed (h : isBracketed inside = true) :
    ∀ c ∈ inside, Url.isPlain c = true := by
  have hhex : ∀ c, Address.isHex c = true → Url.isPlain c = true := fun c hc =>
    isPlain_of_isHostChar (isHostChar_of_isHex hc)
  rcases cases_of_isBracketed h with ⟨hchars, -⟩ | ⟨digits, after, rfl, -, hd, -, ha⟩
  · intro c hc
    rcases hchars c hc with hx | rfl | rfl
    · exact hhex c hx
    · decide
    · decide
  · intro c hc
    simp only [List.cons_append, List.mem_cons, List.mem_append] at hc
    rcases hc with rfl | hc | rfl | hc
    · decide
    · exact hhex c (hd c hc)
    · decide
    · rcases ha c hc with hx | rfl
      · exact isPlain_of_isHostChar hx
      · decide

theorem bracketedFault?_of_v6 {n : Nat} {zone : Option (List Char)}
    (h : Address.ofChars? cs = some (.v6 n zone)) : Url.bracketedFault? cs = none := by
  unfold Url.bracketedFault?
  split
  · rw [Address.ofChars?_cons_eq_none (by decide) (by decide) (by decide) (by decide)] at h
    simp at h
  · rw [h]

/-- What a request may name inside brackets is an address for the reader, too. -/
theorem bracketedFault?_of_isBracketed (h : isBracketed inside = true) :
    Url.bracketedFault? inside = none := by
  have hplain := plain_of_isBracketed h
  rcases cases_of_isBracketed h with ⟨hchars, hv6⟩ | ⟨digits, after, rfl, hne, hd, hafter, -⟩
  · have hslash : '/' ∉ inside := Url.not_mem_of_plain hplain (by decide)
    have hzone : '%' ∉ inside := fun hmem => by
      rcases hchars '%' hmem with hx | hx | hx <;> revert hx <;> decide
    obtain ⟨n, hn⟩ := Address.ofChars?_of_v6? hslash hzone hv6
    exact bracketedFault?_of_v6 hn
  · have hdot : '.' ∉ digits := fun hmem => by
      have hx := hd '.' hmem
      revert hx
      decide
    have hbreak : '\n' ∉ after :=
      Url.not_mem_of_plain (fun c hc => hplain c (by simp [hc])) (by decide)
    have hall : digits.all Address.isHex = true := List.all_eq_true.2 hd
    simp only [List.cons_append, Url.bracketedFault?, Url.cut_append hdot]
    simp [hne, hall, hafter, hbreak]

theorem cases_of_isHost (h : isHost cs = true) :
    (∀ c ∈ dropBreak cs, Url.isPlain c = true)
      ∨ ∃ inside port, dropBreak cs = '[' :: inside ++ ']' :: port
        ∧ isBracketed inside = true ∧ isPort port = true := by
  unfold isHost at h
  split at h
  · rename_i rest hrest
    split at h
    · rename_i inside port hcut
      rw [Bool.and_eq_true] at h
      exact .inr ⟨inside, port, by rw [hrest, Url.eq_append_of_cut hcut]; rfl, h.1, h.2⟩
    · simp at h
  · simp only [Bool.and_eq_true] at h
    have hport := (plain_of_isPort h.2).1
    refine .inl fun c hc => ?_
    rw [← List.take_append_drop ((dropBreak cs).takeWhile isHostChar).length (dropBreak cs),
      ← List.prefix_iff_eq_take.1 (List.takeWhile_prefix isHostChar), List.mem_append] at hc
    rcases hc with hc | hc
    · exact isPlain_of_isHostChar (List.mem_takeWhile_imp hc)
    · exact hport c hc

theorem isAuthority_of_isHost (h : isHost cs = true) : Url.IsAuthority (dropBreak cs) := by
  rcases cases_of_isHost h with hplain | ⟨inside, port, he, hi, hp⟩
  · exact .plain hplain
  · obtain ⟨hchars, hport⟩ := plain_of_isPort hp
    rw [he]
    exact .bracketed (plain_of_isBracketed hi) hchars hport

/-- A URL loses the line break that a host may have at its end. -/
theorem unbroken_of_isHost (h : isHost cs = true) : Url.unbroken cs = dropBreak cs := by
  rw [← (isAuthority_of_isHost h).unbroken_eq]
  unfold dropBreak
  split_ifs with hlast
  · obtain ⟨rest, rfl⟩ := List.getLast?_eq_some_iff.1 hlast
    simp [Url.unbroken]
  · rfl

/-- Every host that a request may name is read back. -/
theorem authorityFault?_of_isHost (h : isHost cs = true) :
    Url.authorityFault? (dropBreak cs) = none := by
  rcases cases_of_isHost h with hplain | ⟨inside, port, he, hi, hp⟩
  · exact Url.authorityFault?_of_plain hplain
  · obtain ⟨hchars, hport⟩ := plain_of_isPort hp
    rw [he, Url.authorityFault?_bracketed (plain_of_isBracketed hi) hchars hport]
    exact bracketedFault?_of_isBracketed hi

/-! ## Servers -/

/-- A host name, or an IP address. -/
def IsServerName (cs : List Char) : Prop :=
  (∀ c ∈ cs, Url.isPlain c = true) ∧
    (':' ∈ cs → ∃ n zone, Address.ofChars? cs = some (.v6 n zone))

theorem plain_toString (port : Int) : ∀ c ∈ (toString port).toList, Url.isPlain c = true := by
  have hdigits : ∀ n : Nat, ∀ c ∈ n.repr.toList, Url.isPlain c = true := by
    intro n c hc
    have hmem : c ∈ Nat.toDigits 10 n := by simpa using hc
    exact isPlain_of_isDigit (Nat.isDigit_of_mem_toDigits (by decide) (by decide) hmem)
  intro c hc
  rw [Int.toString_eq_repr] at hc
  rcases port with n | n
  · exact hdigits n c hc
  · simp only [Int.repr, String.toList_append, List.mem_append] at hc
    rcases hc with hc | hc
    · simp at hc
      subst hc
      decide
    · exact hdigits _ c hc

/-- The port of a server, unless its scheme implies it. -/
theorem exists_serverAuthority (scheme host : String) (port : Int) :
    ∃ suffix, serverAuthority scheme host port = bracketed host.toList ++ suffix
      ∧ (∀ c ∈ suffix, Url.isPlain c = true) ∧ (suffix = [] ∨ ∃ ds, suffix = ':' :: ds) := by
  unfold serverAuthority
  dsimp only
  split_ifs
  · exact ⟨[], by simp, by simp, .inl rfl⟩
  · refine ⟨':' :: (toString port).toList, rfl, ?_, .inr ⟨_, rfl⟩⟩
    exact List.forall_mem_cons.2 ⟨by decide, plain_toString port⟩

/-- The server of a connection is read back. -/
theorem isAuthority_serverAuthority {host : String} (h : IsServerName host.toList)
    (scheme : String) (port : Int) : Url.IsAuthority (serverAuthority scheme host port)
      ∧ Url.authorityFault? (serverAuthority scheme host port) = none := by
  obtain ⟨hplain, hv6⟩ := h
  obtain ⟨suffix, he, hs, hport⟩ := exists_serverAuthority scheme host port
  rw [he]
  by_cases hcolon : ':' ∈ host.toList
  · obtain ⟨n, zone, hn⟩ := hv6 hcolon
    have hhead : host.toList.head? ≠ some '[' := fun hh =>
      Url.not_mem_of_plain hplain (by decide) (List.mem_of_head? hh)
    have hb : bracketed host.toList ++ suffix = '[' :: host.toList ++ ']' :: suffix := by
      simp [bracketed, hcolon, hhead]
    rw [hb, Url.authorityFault?_bracketed hplain hs hport]
    exact ⟨.bracketed hplain hs hport, bracketedFault?_of_v6 hn⟩
  · have hall : ∀ c ∈ bracketed host.toList ++ suffix, Url.isPlain c = true := by
      simp only [bracketed, List.contains_eq_mem, hcolon, decide_false, Bool.false_and,
        Bool.false_eq_true, ↓reduceIte]
      exact List.forall_mem_append.2 ⟨hplain, hs⟩
    exact ⟨.plain hall, Url.authorityFault?_of_plain hall⟩

end Hosts

end Location

end BotSentry
