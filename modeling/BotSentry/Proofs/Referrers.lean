import BotSentry.Dataset.Bootstrap
import BotSentry.Proofs.DatasetDocuments
import BotSentry.Proofs.LetterCase
import BotSentry.Proofs.Locations
import BotSentry.Proofs.Reference

/-!
# The host of a referrer

Of a referrer that is a URL with a plain host (`HostedUrl`), only the host counts, and its case does
not (`HostedUrl.only_host_counts`): what is put before and after it is cut off, with all the marks
that it may hold. A host that is listed for an AI product is compared as it is written with a host
in lower case. So it is recognised if it has no capitals itself, and otherwise only through another
entry (`Dataset.listed_host_recognised_iff`).
-/

namespace BotSentry

/-! ## URLs with a host -/

/-- A URL with a plain host: the scheme, what is put before the host and ends in `@`, the host, the
digits of a port, and what follows from the path on. -/
structure HostedUrl where
  scheme : List Char
  userinfo : Option (List Char)
  host : List Char
  port : Option (List Char)
  tail : List Char
  scheme_letter : scheme.head?.any (Text.isAsciiLetter ·.toNat) = true
  scheme_chars : ∀ c ∈ scheme, Url.isSchemeChar c = true
  userinfo_ascii : ∀ cs ∈ userinfo, Text.IsAscii cs
  userinfo_plain : ∀ cs ∈ userinfo, ∀ c ∈ cs, c ∉ "/?#[]".toList
  host_ne_nil : host ≠ []
  host_ascii : Text.IsAscii host
  host_plain : ∀ c ∈ host, c ∉ "/?#@:[]\t\r\n".toList
  port_digits : ∀ ds ∈ port, ∀ c ∈ ds, Text.isAsciiDigit c.toNat = true
  tail_mark : ∀ c ∈ tail.head?, Url.endsAuthority c = true

namespace Url

section Parts

variable {before after rest : List Char}

theorem unbroken_of_forall {cs : List Char} (h : ∀ c ∈ cs, c ∉ "\t\r\n".toList) :
    unbroken cs = cs := by
  refine List.filter_eq_self.2 fun c hc => ?_
  simpa [and_assoc] using h c hc

theorem unbroken_append (before after : List Char) :
    unbroken (before ++ after) = unbroken before ++ unbroken after := List.filter_append ..

theorem not_mem_breaks {c : Char} (h : endsAuthority c = true) : c ∉ "\t\r\n".toList := by
  have hall : ∀ c ∈ "\t\r\n".toList, endsAuthority c = false := by decide
  intro hc
  rw [hall c hc] at h
  cases h

/-- The mark that ends an authority is kept, and it stays the first character behind it. -/
theorem endsAuthority_head_unbroken (h : ∀ c ∈ rest.head?, endsAuthority c = true) :
    ∀ c ∈ (unbroken rest).head?, endsAuthority c = true := by
  rcases rest with _ | ⟨mark, rest⟩
  · exact h
  · have hmark : endsAuthority mark = true := h mark rfl
    have hkept : unbroken (mark :: rest) = mark :: unbroken rest := by
      have hmark : unbroken [mark] = [mark] :=
        unbroken_of_forall (by simpa using not_mem_breaks hmark)
      rw [← List.singleton_append, unbroken_append, hmark]
      rfl
    rw [hkept]
    exact h

theorem splitAuthority_append (h : ∀ c ∈ before, endsAuthority c = false)
    (hrest : ∀ c ∈ rest.head?, endsAuthority c = true) :
    splitAuthority ('/' :: '/' :: (before ++ rest)) = (before, rest) := by
  have hall : ∀ c ∈ before, (!endsAuthority c) = true := fun c hc => by rw [h c hc]; rfl
  simp only [splitAuthority, List.takeWhile_append_of_pos hall, List.dropWhile_append_of_pos hall]
  rcases rest with _ | ⟨mark, rest⟩
  · simp
  · have hmark : endsAuthority mark = true := hrest mark rfl
    simp [hmark]

theorem splitScheme_append {first : Char} (hfirst : Text.isAsciiLetter first.toNat = true)
    (hall : ∀ c ∈ first :: before, isSchemeChar c = true) (rest : List Char) :
    splitScheme (first :: before ++ ':' :: rest) = ((first :: before).map Char.toLower, rest) := by
  have hcolon : ':' ∉ first :: before := fun hc => absurd (hall ':' hc) (by decide)
  have hchars : (first :: before).all isSchemeChar = true := List.all_eq_true.2 hall
  unfold splitScheme
  rw [cut_append hcolon]
  exact if_pos (by rw [hfirst, hchars]; rfl)

theorem afterAt_append (h : '@' ∉ after) (before : List Char) :
    afterAt (before ++ '@' :: after) = after := by
  have hall : ∀ c ∈ after.reverse, (c != '@') = true := fun c hc =>
    bne_iff_ne.2 fun he => h (he ▸ List.mem_reverse.1 hc)
  rw [afterAt, List.reverse_append, List.reverse_cons, List.append_assoc,
    List.takeWhile_append_of_pos hall]
  simp

theorem authorityFault?_of_ascii (hascii : Text.IsAscii before) (hopen : '[' ∉ before)
    (hclose : ']' ∉ before) : authorityFault? before = none := by
  have hhides : before.any hidesDelimiter = false := by
    refine List.any_eq_false.2 fun c hc => ?_
    have hc : c.toNat < 0x80 := hascii c hc
    simp only [hidesDelimiter, List.contains_eq_mem, List.mem_cons, List.not_mem_nil, or_false,
      decide_eq_true_eq]
    omega
  simp [authorityFault?, bracketFault?, hopen, hclose, hhides]

end Parts

end Url

namespace HostedUrl

def userPart (u : HostedUrl) : List Char := u.userinfo.elim [] (· ++ ['@'])

def portPart (u : HostedUrl) : List Char := u.port.elim [] (':' :: ·)

def toChars (u : HostedUrl) : List Char :=
  u.scheme ++ ':' :: '/' :: '/' :: (u.userPart ++ (u.host ++ u.portPart) ++ u.tail)

def text (u : HostedUrl) : String := String.ofList u.toChars

/-- What is between the slashes and the path, once breaks are dropped. -/
def authority (u : HostedUrl) : List Char := Url.unbroken u.userPart ++ (u.host ++ u.portPart)

section Parts

variable (u : HostedUrl) {c : Char}

theorem mem_userPart (hc : c ∈ u.userPart) : c = '@' ∨ c.toNat < 0x80 ∧ c ∉ "/?#[]".toList := by
  unfold userPart at hc
  rcases hu : u.userinfo with _ | cs <;> rw [hu] at hc
  · simp at hc
  · rcases List.mem_append.1 hc with hc | hc
    · exact .inr ⟨u.userinfo_ascii cs hu c hc, u.userinfo_plain cs hu c hc⟩
    · exact .inl (List.mem_singleton.1 hc)

theorem mem_portPart (hc : c ∈ u.portPart) : c ∈ ":0123456789".toList := by
  unfold portPart at hc
  rcases hp : u.port with _ | ds <;> rw [hp] at hc
  · simp at hc
  · rcases List.mem_cons.1 hc with rfl | hc
    · decide
    · have hdigit := u.port_digits ds hp c hc
      have hall : ∀ n < 0x80, Text.isAsciiDigit n = true → Char.ofNat n ∈ ":0123456789".toList := by
        decide
      rw [← Char.ofNat_toNat c]
      have hbounds := Text.isAsciiDigit_bounds hdigit
      exact hall _ (by omega) hdigit

/-- The host and its port are in ASCII and hold no mark but the colon between them. -/
theorem mem_hostPort (hc : c ∈ u.host ++ u.portPart) :
    c.toNat < 0x80 ∧ c ∉ "/?#@[]\t\r\n".toList := by
  rcases List.mem_append.1 hc with hc | hc
  · have hall : ∀ c ∈ "/?#@[]\t\r\n".toList, c ∈ "/?#@:[]\t\r\n".toList := by decide
    exact ⟨u.host_ascii c hc, fun hmark => u.host_plain c hc (hall c hmark)⟩
  · have hall : ∀ c ∈ ":0123456789".toList, c.toNat < 0x80 ∧ c ∉ "/?#@[]\t\r\n".toList := by decide
    exact hall c (u.mem_portPart hc)

theorem mem_authority (hc : c ∈ u.authority) : c.toNat < 0x80 ∧ c ∉ "/?#[]".toList := by
  rcases List.mem_append.1 hc with hc | hc
  · rcases u.mem_userPart (List.mem_of_mem_filter hc) with rfl | hplain
    · decide
    · exact hplain
  · obtain ⟨hascii, hplain⟩ := u.mem_hostPort hc
    have hall : ∀ c ∈ "/?#[]".toList, c ∈ "/?#@[]\t\r\n".toList := by decide
    exact ⟨hascii, fun hmark => hplain (hall c hmark)⟩

theorem scheme_eq_cons :
    ∃ first rest, u.scheme = first :: rest ∧ Text.isAsciiLetter first.toNat = true := by
  have hletter := u.scheme_letter
  rcases hscheme : u.scheme with _ | ⟨first, rest⟩ <;> rw [hscheme] at hletter
  · cases hletter
  · exact ⟨first, rest, rfl, hletter⟩

theorem clean_toChars : Url.clean u.toChars
    = u.scheme ++ ':' :: '/' :: '/' :: (u.authority ++ Url.unbroken u.tail) := by
  -- A scheme begins with a letter, so no blanks are dropped before it.
  have hfirst : u.toChars.dropWhile (·.toNat ≤ 0x20) = u.toChars := by
    obtain ⟨first, rest, hscheme, hletter⟩ := u.scheme_eq_cons
    rw [toChars, hscheme]
    have hbounds := Text.isAsciiLetter_bounds hletter
    exact List.dropWhile_cons_of_neg (by rw [decide_eq_true_eq]; omega)
  have hscheme : Url.unbroken u.scheme = u.scheme := Url.unbroken_of_forall fun c hc hbreak => by
    have hall : ∀ c ∈ "\t\r\n".toList, Url.isSchemeChar c = false := by decide
    exact absurd (u.scheme_chars c hc) (by rw [hall c hbreak]; decide)
  have hhost : Url.unbroken (u.host ++ u.portPart) = u.host ++ u.portPart :=
    Url.unbroken_of_forall fun c hc hbreak => by
      have hall : ∀ c ∈ "\t\r\n".toList, c ∈ "/?#@[]\t\r\n".toList := by decide
      exact (u.mem_hostPort hc).2 (hall c hbreak)
  change Url.unbroken (u.toChars.dropWhile _) = _
  rw [hfirst, toChars, Url.unbroken_append, hscheme]
  congr 1
  change ':' :: '/' :: '/' :: Url.unbroken _ = _
  rw [Url.unbroken_append, Url.unbroken_append, hhost]
  rfl

theorem halves_toChars : Url.halves u.toChars = (u.authority, Url.unbroken u.tail) := by
  have hsplit : (Url.splitScheme (Url.clean u.toChars)).2
      = '/' :: '/' :: (u.authority ++ Url.unbroken u.tail) := by
    obtain ⟨first, rest, hscheme, hletter⟩ := u.scheme_eq_cons
    have hchars := u.scheme_chars
    rw [hscheme] at hchars
    rw [clean_toChars, hscheme, Url.splitScheme_append hletter hchars]
  rw [Url.halves, hsplit]
  refine Url.splitAuthority_append (fun c hc => ?_) (Url.endsAuthority_head_unbroken u.tail_mark)
  by_contra hends
  refine (u.mem_authority hc).2 ?_
  simp only [Url.endsAuthority, Bool.not_eq_false, Bool.or_eq_true, decide_eq_true_eq] at hends
  rcases hends with (rfl | rfl) | rfl <;> decide

/-- What is put before the host is cut off at the last `@`, of which the host and the port have
none. -/
theorem afterAt_authority : Url.afterAt u.authority = u.host ++ u.portPart := by
  have hat : '@' ∉ u.host ++ u.portPart := fun hc => (u.mem_hostPort hc).2 (by decide)
  unfold authority userPart
  rcases u.userinfo with _ | cs
  · exact Url.afterAt_of_not_mem hat
  · have huser : Url.unbroken (cs ++ ['@']) = Url.unbroken cs ++ ['@'] := by
      rw [Url.unbroken_append]
      rfl
    dsimp only [Option.elim_some]
    rw [huser, List.append_assoc, List.singleton_append, Url.afterAt_append hat]

theorem cut_hostPort : (Url.cut ':' (u.host ++ u.portPart)).1 = u.host := by
  have hcolon : ':' ∉ u.host := fun hc => u.host_plain ':' hc (by decide)
  unfold portPart
  rcases u.port with _ | ds
  · dsimp only [Option.elim_none]
    rw [List.append_nil, Url.cut_of_not_mem hcolon]
  · dsimp only [Option.elim_some]
    rw [Url.cut_append hcolon]

end Parts

/-- The host is read in lower case up to a `%`, and in lower case as a whole in the end. -/
theorem lowerChars_host (u : HostedUrl) {url : Url} (h : url.authority = u.authority) :
    url.host ≠ [] ∧ Text.lowerChars url.host = u.host.map Char.toLower := by
  have hopen : '[' ∉ u.host ++ u.portPart := fun hc => (u.mem_hostPort hc).2 (by decide)
  have hhost : url.host = Text.lowerChars (u.host.takeWhile (· != '%'))
      ++ u.host.drop (u.host.takeWhile (· != '%')).length := by
    simp only [Url.host, h, u.afterAt_authority, Url.cut_of_not_mem hopen, u.cut_hostPort]
  have hwhole : u.host.takeWhile (· != '%') ++ u.host.drop (u.host.takeWhile (· != '%')).length
      = u.host := List.prefix_iff_eq_append.1 (List.takeWhile_prefix _)
  generalize u.host.takeWhile (· != '%') = name at hhost hwhole
  generalize u.host.drop name.length = zone at hhost hwhole
  have hascii : Text.IsAscii (name ++ zone) := hwhole ▸ u.host_ascii
  obtain ⟨hname, hzone⟩ := List.forall_mem_append.1 hascii
  rw [Text.lowerChars_ascii hname] at hhost
  have hlower : Text.IsAscii (name.map Char.toLower ++ zone) := by
    refine List.forall_mem_append.2 ⟨fun c hc => ?_, hzone⟩
    obtain ⟨b, hb, rfl⟩ := List.mem_map.1 hc
    exact (Text.toLower_ascii (hname b hb)).1
  rw [hhost, Text.lowerChars_ascii hlower, ← hwhole]
  refine ⟨?_, ?_⟩
  · intro hnil
    refine u.host_ne_nil ?_
    rw [← hwhole]
    simpa using hnil
  · rw [List.map_append, List.map_append, List.map_map]
    congr 1
    exact List.map_congr_left fun c hc => (Text.toLower_ascii (hname c hc)).2

theorem referrerHost_text (u : HostedUrl) :
    referrerHost u.text = String.ofList (u.host.map Char.toLower) := by
  have hfault : Url.authorityFault? (Url.halves u.toChars).1 = none := by
    rw [u.halves_toChars]
    exact Url.authorityFault?_of_ascii (fun c hc => (u.mem_authority hc).1)
      (fun hc => (u.mem_authority hc).2 (by decide)) (fun hc => (u.mem_authority hc).2 (by decide))
  obtain ⟨url, hurl, hauthority, -⟩ := Url.split_of_no_fault hfault
  rw [u.halves_toChars] at hauthority
  obtain ⟨hne, hlower⟩ := u.lowerChars_host hauthority
  unfold referrerHost text
  rw [String.toList_ofList, hurl]
  dsimp only
  rw [if_neg (by simpa using hne), hlower]

theorem text_ne_empty (u : HostedUrl) : u.text ≠ "" := by
  intro h
  have hchars := congrArg String.toList h
  simp [text, toChars] at hchars

/-- What a dataset makes of a referrer with a plain host. -/
theorem hostDetection_text (d : Dataset) (u : HostedUrl) :
    d.hostDetection u.text = match d.hostPatterns.find? fun (_, p) =>
      p ≠ [] ∧ p <:+: Text.ofChars (u.host.map Char.toLower) with
    | none => .none
    | some (r, p) => .referrer r (some p) := by
  have hhost : Text.ofChars (u.host.map Char.toLower) = Text.ofString (referrerHost u.text) := by
    rw [u.referrerHost_text, Text.ofString, String.toList_ofList]
  rw [hhost]
  exact if_neg u.text_ne_empty

/-- Only the host of a referrer counts, and its case does not. -/
theorem only_host_counts (u : HostedUrl) :
    referrerHost u.text = Text.lower (String.ofList u.host)
      ∧ ∀ v : HostedUrl, u.host.map Char.toLower = v.host.map Char.toLower → ∀ s : Snapshot,
        Engine.detectReferrer s u.text = Engine.detectReferrer s v.text := by
  refine ⟨?_, fun v hsame s => ?_⟩
  · rw [u.referrerHost_text, Text.lower, String.toList_ofList, Text.lowerChars_ascii u.host_ascii]
  · rw [Engine.detectReferrer_eq, Engine.detectReferrer_eq, hostDetection_text, hostDetection_text,
      hsame]

/-- A page of a chat, with credentials, a port, and marks behind the path that would count before
it. -/
def chatPage : HostedUrl where
  scheme := "HTTPS".toList
  userinfo := some "me:x@home".toList
  host := "Chat.OpenAI.com".toList
  port := some "443".toList
  tail := "/c/1?q=[a@claude.ai:80]#\t".toList
  scheme_letter := by decide
  scheme_chars := by decide
  userinfo_ascii := by decide
  userinfo_plain := by decide
  host_ne_nil := by decide
  host_ascii := by decide
  host_plain := by decide
  port_digits := by decide
  tail_mark := by simp [Url.endsAuthority]

/-- The host of `chatPage` alone. -/
def chatHost : HostedUrl where
  scheme := "app-x".toList
  userinfo := none
  host := "chat.openai.COM".toList
  port := none
  tail := []
  scheme_letter := by decide
  scheme_chars := by decide
  userinfo_ascii := by simp
  userinfo_plain := by simp
  host_ne_nil := by decide
  host_ascii := by decide
  host_plain := by decide
  port_digits := by simp
  tail_mark := by simp

theorem only_host_counts_chat :
    chatPage.text = "HTTPS://me:x@home@Chat.OpenAI.com:443/c/1?q=[a@claude.ai:80]#\t"
      ∧ chatHost.text = "app-x://chat.openai.COM"
      ∧ referrerHost chatPage.text = "chat.openai.com"
      ∧ ∀ s : Snapshot,
        Engine.detectReferrer s chatPage.text = Engine.detectReferrer s chatHost.text :=
  ⟨by decide, by decide, (only_host_counts chatPage).1.trans (by decide),
    (only_host_counts chatPage).2 chatHost (by decide)⟩

end HostedUrl

/-! ## Listed hosts -/

/-- Letters, digits, points and hyphens. -/
def Text.isNameChar (c : Char) : Bool :=
  Text.isAsciiLetter c.toNat || Text.isAsciiDigit c.toNat || c = '.' || c = '-'

theorem Text.toNat_lt_of_isNameChar {c : Char} (h : isNameChar c = true) : c.toNat < 0x80 := by
  simp only [isNameChar, Bool.or_eq_true, decide_eq_true_eq] at h
  rcases h with ((hletter | hdigit) | rfl) | rfl
  · have hbounds := isAsciiLetter_bounds hletter
    omega
  · have hbounds := isAsciiDigit_bounds hdigit
    omega
  · decide
  · decide

theorem Text.isNameChar_toLower (c : Char) : isNameChar c.toLower = isNameChar c := by
  by_cases h : c.toNat < 0x80
  · have hall : ∀ n < 0x80, isNameChar (Char.ofNat n).toLower = isNameChar (Char.ofNat n) := by
      decide
    rw [← Char.ofNat_toNat c]
    exact hall c.toNat h
  · rw [toLower_of_not_ascii h]

/-- A name of a host. -/
def IsHostName (cs : List Char) : Prop := cs ≠ [] ∧ ∀ c ∈ cs, Text.isNameChar c = true

instance (cs : List Char) : Decidable (IsHostName cs) :=
  inferInstanceAs (Decidable (_ ∧ ∀ c ∈ cs, _ = true))

namespace IsHostName

variable {cs ds : List Char}

theorem ascii (h : IsHostName cs) : Text.IsAscii cs :=
  fun c hc => Text.toNat_lt_of_isNameChar (h.2 c hc)

theorem plain (h : IsHostName cs) : ∀ c ∈ cs, c ∉ "/?#@:[]\t\r\n".toList := by
  have hall : ∀ c ∈ "/?#@:[]\t\r\n".toList, Text.isNameChar c = false := by decide
  intro c hc hmark
  exact absurd (h.2 c hc) (by rw [hall c hmark]; decide)

/-- A host name is one in any case. -/
theorem of_lower (h : IsHostName cs) (hcase : ds.map Char.toLower = cs.map Char.toLower) :
    IsHostName ds := by
  refine ⟨fun hnil => h.1 ?_, fun d hd => ?_⟩
  · rw [hnil] at hcase
    exact List.map_eq_nil_iff.1 hcase.symm
  · obtain ⟨c, hc, he⟩ := List.mem_map.1 (hcase ▸ List.mem_map_of_mem hd)
    rw [← Text.isNameChar_toLower, ← he, Text.isNameChar_toLower]
    exact h.2 c hc

end IsHostName

namespace HostedUrl

/-- A page of a host. -/
def page (host tail : List Char) (hname : IsHostName host) (htail : ∀ c ∈ tail.head?, c = '/') :
    HostedUrl where
  scheme := "https".toList
  userinfo := none
  host
  port := none
  tail
  scheme_letter := by decide
  scheme_chars := by decide
  userinfo_ascii := by simp
  userinfo_plain := by simp
  host_ne_nil := hname.1
  host_ascii := hname.ascii
  host_plain := hname.plain
  port_digits := by simp
  tail_mark := fun c hc => by rw [htail c hc]; rfl

theorem text_page {host tail : String} (hname : IsHostName host.toList)
    (htail : ∀ c ∈ tail.toList.head?, c = '/') :
    (page host.toList tail.toList hname htail).text = "https://" ++ host ++ tail := by
  rw [← String.toList_inj]
  simp [text, toChars, page, userPart, portPart]

/-- A referrer is traced back to one of the first products exactly if one of their patterns occurs
in the host in lower case. -/
theorem hostDetection_first_iff {d : Dataset} {first after : List AiReferrer}
    (hd : d.referrers = first ++ after) (u : HostedUrl) :
    (∃ r ∈ first, ∃ p ∈ r.patterns, d.hostDetection u.text = .referrer r (some p))
      ↔ ∃ r ∈ first, ∃ p ∈ r.patterns, p ≠ [] ∧ p <:+: Text.ofChars (u.host.map Char.toLower) := by
  rw [hostDetection_text]
  constructor
  · rintro ⟨r, hr, p, hp, he⟩
    split at he
    · cases he
    · rename_i found used hfound
      obtain ⟨hproduct, hpattern⟩ := Detection.referrer.inj he
      obtain rfl := Option.some.inj hpattern
      exact ⟨r, hr, used, hp, by simpa using List.find?_some hfound⟩
  · rintro ⟨r, hr, p, hp, hoccurs⟩
    have hlist : d.hostPatterns = (first.flatMap fun r => r.patterns.map (r, ·))
        ++ after.flatMap fun r => r.patterns.map (r, ·) := by
      rw [Dataset.hostPatterns, hd, List.flatMap_append]
    rcases hfound : (first.flatMap fun r => r.patterns.map (r, ·)).find? fun (_, p) =>
        p ≠ [] ∧ p <:+: Text.ofChars (u.host.map Char.toLower) with _ | ⟨r', p'⟩
    · have hnone := List.find?_eq_none.1 hfound (r, p)
        (List.mem_flatMap.2 ⟨r, hr, List.mem_map_of_mem hp⟩)
      exact absurd (by simpa using hoccurs) hnone
    · obtain ⟨found, hr', hmem⟩ := List.mem_flatMap.1 (List.mem_of_find?_eq_some hfound)
      obtain ⟨used, hp', he⟩ := List.mem_map.1 hmem
      obtain ⟨rfl, rfl⟩ := Prod.mk.inj he
      refine ⟨found, hr', used, hp', ?_⟩
      rw [hlist, List.find?_append, hfound]
      rfl

end HostedUrl

namespace Dataset

/-- A page of a host that is listed is traced back to the product that lists it, or to one before
it, exactly if the host is listed without capitals, or if another pattern of these products occurs
in it. -/
theorem listed_host_recognised_iff {s : Snapshot} {before after : List AiReferrer} {r : AiReferrer}
    {h g tail : String} (hproduct : s.dataset.referrers = before ++ r :: after)
    (hlisted : Text.ofString h ∈ r.patterns) (hname : IsHostName h.toList)
    (hcase : g.toList.map Char.toLower = h.toList.map Char.toLower)
    (htail : ∀ c ∈ tail.toList.head?, c = '/') :
    (∃ r' ∈ before ++ [r], ∃ p ∈ r'.patterns,
        Engine.detectReferrer s ("https://" ++ g ++ tail) = .referrer r' (some p))
      ↔ Text.lower h = h ∨ ∃ r' ∈ before ++ [r], ∃ p ∈ r'.patterns,
        p ≠ [] ∧ p ≠ Text.ofString h ∧ p <:+: Text.ofString (Text.lower h) := by
  have hfirst : s.dataset.referrers = (before ++ [r]) ++ after := by simp [hproduct]
  have hlower : Text.ofString (Text.lower h) = Text.ofChars (g.toList.map Char.toLower) := by
    rw [Text.lower, Text.lowerChars_ascii hname.ascii, hcase, Text.ofString, String.toList_ofList]
  rw [← HostedUrl.text_page (hname.of_lower hcase) htail]
  simp only [Engine.detectReferrer_eq, HostedUrl.hostDetection_first_iff hfirst, HostedUrl.page,
    ← hlower]
  constructor
  · rintro ⟨r', hr, p, hp, hne, hoccurs⟩
    by_cases he : p = Text.ofString h
    · -- A text that occurs in its lower case is as long as that, so it is its lower case.
      subst he
      refine .inl (Text.ofString_injective (hoccurs.sublist.eq_of_length ?_)).symm
      rw [Text.lower, Text.lowerChars_ascii hname.ascii]
      simp [Text.ofString, Text.ofChars]
    · exact .inr ⟨r', hr, p, hp, hne, he, hoccurs⟩
  · rintro (he | ⟨r', hr, p, hp, hne, -, hoccurs⟩)
    · refine ⟨r, by simp, Text.ofString h, hlisted, ?_, ?_⟩
      · simpa [Text.ofString, Text.ofChars] using hname.1
      · rw [he]
    · exact ⟨r', hr, p, hp, hne, hoccurs⟩

theorem listed_host_recognised_claude :
    ∃ r ∈ bootstrap.referrers.take 2, ∃ p ∈ r.patterns,
      Engine.detectReferrer { dataset := bootstrap } ("https://" ++ "Claude.AI" ++ "/chat")
        = .referrer r (some p) := by
  have hproduct : bootstrap.referrers = bootstrap.referrers.take 1
      ++ chatProduct "claude" "Claude" "Anthropic" "https://claude.ai" ["claude.ai"]
        :: bootstrap.referrers.drop 2 := rfl
  have hlisted : Text.ofString "claude.ai" ∈ ["claude.ai"].map Text.ofString := by decide
  have htail : ∀ c ∈ "/chat".toList.head?, c = '/' := by simp
  exact (listed_host_recognised_iff (s := { dataset := bootstrap }) (g := "Claude.AI") hproduct
    hlisted (by decide) (by decide) htail).2 (.inl (by decide))

/-- A host that is listed with capitals is missed, even in the same case. -/
theorem capital_host_missed :
    let claude := chatProduct "claude" "Claude" "Anthropic" "https://claude.ai" ["Claude.AI"]
    IsHostName "Claude.AI".toList ∧ Text.ofString "Claude.AI" ∈ claude.patterns
      ∧ ∀ referrer ∈ ["https://claude.ai/chat", "https://Claude.AI/"],
        Engine.detectReferrer { dataset := { bootstrap with referrers := [claude] } } referrer
          = .none := by
  decide

end Dataset

end BotSentry
