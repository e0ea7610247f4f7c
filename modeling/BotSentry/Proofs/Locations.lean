import BotSentry.Proofs.Authorities

/-!
# The URL of a request is read back

The URL of a request is put together and read back. That fails if the query is no text, or if the rest
is no URL, whatever the query (`Location.ofRequest_cases`). What is read back of a request for a page
is its own authority and its own path with delimiters escaped, without tabs and line breaks
(`Location.halves_base`). Every authority is read back; without one, a path may be misread as one. This
is the only way to fail (`Location.ofRequest_of_isWeb`): a request whose URL cannot be read back is
`Misread`.
-/

namespace BotSentry

namespace Url

/-! ## A query after a URL -/

section Query

variable {p : Char → Bool} {c : Char}

theorem takeWhile_append_stop (hc : p c = false) (xs ys : List Char) :
    (xs ++ c :: ys).takeWhile p = xs.takeWhile p := by
  induction xs with
  | nil => simp [hc]
  | cons x xs ih => simp only [List.cons_append, List.takeWhile_cons, ih]

theorem dropWhile_append_stop (hc : p c = false) (xs ys : List Char) :
    (xs ++ c :: ys).dropWhile p = xs.dropWhile p ++ c :: ys := by
  induction xs with
  | nil => simp [hc]
  | cons x xs ih =>
    simp only [List.cons_append, List.dropWhile_cons, ih]
    split_ifs <;> rfl

theorem clean_append_query (cs query : List Char) :
    clean (cs ++ '?' :: query) = clean cs ++ '?' :: unbroken query := by
  unfold clean unbroken
  rw [dropWhile_append_stop (by decide), List.filter_append]
  rfl

theorem splitScheme_snd_of_not_all {cs : List Char} (h : (cut ':' cs).1.all isSchemeChar = false) :
    (splitScheme cs).2 = cs := by
  unfold splitScheme
  split
  · rename_i hcut
    rw [hcut] at h
    simp [h]
  · rfl

theorem splitScheme_snd_of_not_mem {cs : List Char} (h : ':' ∉ cs) : (splitScheme cs).2 = cs := by
  unfold splitScheme
  rw [cut_of_not_mem h]

theorem splitScheme_append_query (cs query : List Char) :
    (splitScheme (cs ++ '?' :: query)).2 = (splitScheme cs).2 ++ '?' :: query := by
  by_cases hcolon : ':' ∈ cs
  · obtain ⟨before, after, rfl, hb⟩ := List.eq_append_cons_of_mem hcolon
    unfold splitScheme
    rw [List.append_assoc, List.cons_append, cut_append hb, cut_append hb]
    rcases before with _ | ⟨first, before⟩
    · rfl
    · dsimp only [List.cons_append]
      split_ifs
      · rfl
      · simp
  · rw [splitScheme_snd_of_not_mem hcolon]
    by_cases hq : ':' ∈ query
    · obtain ⟨before, after, rfl, hb⟩ := List.eq_append_cons_of_mem hq
      have hmark : ':' ∉ cs ++ '?' :: before := by simp [hcolon, hb]
      refine splitScheme_snd_of_not_all ?_
      rw [show cs ++ '?' :: (before ++ ':' :: after) = cs ++ '?' :: before ++ ':' :: after by simp,
        cut_append hmark]
      exact List.all_eq_false.2 ⟨'?', by simp, by decide⟩
    · exact splitScheme_snd_of_not_mem (by simp [hcolon, hq])

theorem splitAuthority_append_query (cs query : List Char) :
    splitAuthority (cs ++ '?' :: query)
      = ((splitAuthority cs).1, (splitAuthority cs).2 ++ '?' :: query) := by
  by_cases hs : ['/', '/'] <+: cs
  · obtain ⟨rest, rfl⟩ := hs
    simp only [List.cons_append, List.nil_append, splitAuthority]
    rw [takeWhile_append_stop (by decide), dropWhile_append_stop (by decide)]
  · have hnone : ∀ cs, ¬ ['/', '/'] <+: cs → splitAuthority cs = ([], cs) := by
      intro cs h
      unfold splitAuthority
      split
      · simp [List.cons_prefix_cons] at h
      · rfl
    rw [hnone cs hs, hnone]
    rcases cs with _ | ⟨a, _ | ⟨b, cs⟩⟩
    · simp [List.cons_prefix_cons]
    · simp [List.cons_prefix_cons]
    · simpa [List.cons_prefix_cons] using hs

end Query

/-- The authority of a URL, and what follows it. -/
def halves (cs : List Char) : List Char × List Char := splitAuthority (splitScheme (clean cs)).2

/-- The path at the start of what follows an authority. -/
def pathOf (rest : List Char) : List Char := (cut '?' (cut '#' rest).1).1

theorem pathOf_append_query (rest query : List Char) : pathOf (rest ++ '?' :: query) = pathOf rest := by
  simp only [pathOf, cut_fst]
  by_cases hmark : '#' ∈ rest
  · obtain ⟨before, after, rfl, hb⟩ := List.eq_append_cons_of_mem hmark
    rw [List.append_assoc, List.cons_append, takeWhile_append_stop (by decide),
      takeWhile_append_stop (by decide)]
  · have hall : ∀ c ∈ rest, (c != '#') = true := fun c hc =>
      bne_iff_ne.2 fun he => hmark (he ▸ hc)
    rw [List.takeWhile_append_of_pos hall, List.takeWhile_eq_self_iff.2 hall,
      List.takeWhile_cons_of_pos (by decide), takeWhile_append_stop (by decide)]

theorem pathOf_of_not_mem {rest : List Char} (hq : '?' ∉ rest) (hf : '#' ∉ rest) :
    pathOf rest = rest := by
  rw [pathOf, cut_of_not_mem hf, cut_of_not_mem hq]

theorem halves_append_query (cs query : List Char) :
    halves (cs ++ '?' :: query) = ((halves cs).1, (halves cs).2 ++ '?' :: unbroken query) := by
  rw [halves, clean_append_query, splitScheme_append_query, splitAuthority_append_query]
  rfl

theorem split_of_fault {cs : List Char} {fault : UrlFault}
    (h : authorityFault? (halves cs).1 = some fault) : split cs = .error fault := by
  unfold halves at h
  unfold split
  simp only [h]

theorem split_of_no_fault {cs : List Char} (h : authorityFault? (halves cs).1 = none) :
    ∃ url, split cs = .ok url ∧ url.authority = (halves cs).1 ∧ url.path = pathOf (halves cs).2 := by
  unfold halves at h
  unfold split
  simp only [h]
  exact ⟨_, rfl, rfl, rfl⟩

end Url

namespace Location

/-- A request has no URL if its query is no text or if what stands before the query is no URL. The path
is that of what stands before the query. -/
theorem ofRequest_cases (r : Request) :
    (∃ fault, Text.Utf8.decode false r.query = .error fault ∧ ofRequest r = .error (.query fault))
      ∨ ∃ t, Text.Utf8.decode false r.query = .ok t
        ∧ ((∃ fault, Url.authorityFault? (Url.halves (base r)).1 = some fault
            ∧ ofRequest r = .error (.url fault))
          ∨ Url.authorityFault? (Url.halves (base r)).1 = none
            ∧ ∃ l, ofRequest r = .ok l ∧ l.path = Url.pathOf (Url.halves (base r)).2) := by
  rcases ht : Text.Utf8.decode false r.query with fault | t
  · refine .inl ⟨fault, rfl, ?_⟩
    have hne : r.query.isEmpty = false := by
      rcases hq : r.query with _ | ⟨b, bs⟩
      · rw [hq] at ht
        cases ht
      · rfl
    simp [ofRequest, textOf, hne, ht]
  · refine .inr ⟨t, rfl, ?_⟩
    -- The query changes neither the authority nor the path.
    obtain ⟨text, htext, hfst, hsnd⟩ : ∃ text, textOf r = .ok text
        ∧ (Url.halves text).1 = (Url.halves (base r)).1
        ∧ Url.pathOf (Url.halves text).2 = Url.pathOf (Url.halves (base r)).2 := by
      unfold textOf
      split_ifs
      · exact ⟨_, rfl, rfl, rfl⟩
      · refine ⟨_, by rw [ht], ?_, ?_⟩
        · rw [Url.halves_append_query]
        · rw [Url.halves_append_query, Url.pathOf_append_query]
    rw [← hfst, ← hsnd]
    unfold ofRequest
    simp only [htext]
    rcases hf : Url.authorityFault? (Url.halves text).1 with _ | fault
    · obtain ⟨url, hurl, -, hpath⟩ := Url.split_of_no_fault hf
      exact .inr ⟨rfl, _, by rw [hurl], hpath⟩
    · exact .inl ⟨fault, rfl, by rw [Url.split_of_fault hf]⟩

end Location

/-- The query of a request is a text, and what stands before it is a URL. -/
structure Request.Readable (r : Request) : Prop where
  query : ∃ t, Text.Utf8.decode false r.query = .ok t
  authority : Url.authorityFault? (Url.halves (Location.base r)).1 = none

namespace Location

theorem ofRequest_of_readable {r : Request} (h : r.Readable) : ∃ l, ofRequest r = .ok l := by
  obtain ⟨t, ht⟩ := h.query
  rcases ofRequest_cases r with ⟨fault, hq, -⟩ | ⟨-, -, ⟨fault, hf, -⟩ | ⟨-, l, he, -⟩⟩
  · rw [ht] at hq
    cases hq
  · rw [h.authority] at hf
    cases hf
  · exact ⟨l, he⟩

theorem ofRequest_of_not_readable {r : Request} (h : ¬ r.Readable) :
    ∃ fault, ofRequest r = .error fault := by
  rcases ofRequest_cases r with ⟨fault, -, he⟩ | ⟨t, ht, ⟨fault, -, he⟩ | ⟨hf, -⟩⟩
  · exact ⟨_, he⟩
  · exact ⟨_, he⟩
  · exact absurd ⟨⟨t, ht⟩, hf⟩ h

/-! ## Requests for pages -/

/-- The authority and the path that are read back from the URL of a request. -/
def readBack (r : Request) : List Char × List Char :=
  match authority? r with
  | some authority => (Url.unbroken authority, Url.unbroken (escapePath r.path.toList))
  | none => Url.splitAuthority (Url.unbroken (base r))

end Location

/-- A request for a page, with a query that is a text, on a connection to a server that has a name, an
address, or neither. -/
structure Request.IsWeb (r : Request) : Prop where
  isHttp : r.isHttp = true
  scheme : r.scheme = "http" ∨ r.scheme = "https"
  path : r.path.toList.head? = some '/'
  query : ∃ t, Text.Utf8.decode false r.query = .ok t
  server : ∀ host port, r.server = some (host, port) → Location.IsServerName host.toList

/-- A request with nothing but a path and header fields is one for a page. -/
theorem Request.isWeb_of_path {path : String} {headers : Headers}
    (h : path.toList.head? = some '/') : Request.IsWeb { path, headers } where
  isHttp := rfl
  scheme := .inl rfl
  path := h
  query := ⟨_, rfl⟩
  server _ _ hserver := by cases hserver

namespace Location

section Web

variable {r : Request}

/-- The authority is the host that a request names, unless it may not name it. -/
theorem authority?_cases (r : Request) :
    (∃ host, r.headers.first? "host" = some host ∧ isHost host.toList = true
        ∧ authority? r = some host.toList)
      ∨ (∀ host, r.headers.first? "host" = some host → isHost host.toList = false)
        ∧ authority? r = authority?.fromServer r := by
  unfold authority?
  rcases hhost : r.headers.first? "host" with _ | host
  · exact .inr ⟨by simp, rfl⟩
  · dsimp only [Option.map_some]
    split_ifs with hmay
    · exact .inl ⟨host, rfl, hmay, rfl⟩
    · exact .inr ⟨fun _ he => by simp_all, rfl⟩

theorem isAuthority_of_fromServer (hw : r.IsWeb) {authority : List Char}
    (h : authority?.fromServer r = some authority) :
    Url.IsAuthority authority ∧ Url.authorityFault? authority = none := by
  obtain ⟨⟨host, port⟩, hr, rfl⟩ := Option.map_eq_some_iff.1 h
  exact isAuthority_serverAuthority (hw.server host port hr) r.scheme port

/-- Whoever it comes from, the authority is read back. -/
theorem isAuthority_of_authority? (hw : r.IsWeb) {authority : List Char}
    (h : authority? r = some authority) : Url.IsAuthority (Url.unbroken authority)
      ∧ Url.authorityFault? (Url.unbroken authority) = none := by
  rcases authority?_cases r with ⟨host, -, hmay, he⟩ | ⟨-, he⟩
  · rw [he, Option.some.injEq] at h
    subst h
    rw [unbroken_of_isHost hmay]
    exact ⟨isAuthority_of_isHost hmay, authorityFault?_of_isHost hmay⟩
  · obtain ⟨ha, hnone⟩ := isAuthority_of_fromServer hw (he ▸ h)
    rw [ha.unbroken_eq]
    exact ⟨ha, hnone⟩

/-- No escape holds a delimiter of a query or a fragment. -/
theorem ne_of_mem_escape {c : Char}
    (h : c ∈ "/%2F".toList ++ "%3F".toList ++ "%23".toList ++ "%5C".toList) : c ≠ '?' ∧ c ≠ '#' := by
  constructor
  · rintro rfl
    revert h
    decide
  · rintro rfl
    revert h
    decide

theorem ne_of_mem_escapePath {c : Char} {cs : List Char} (h : c ∈ escapePath cs) :
    c ≠ '?' ∧ c ≠ '#' := by
  obtain ⟨d, -, hd⟩ := List.mem_flatMap.1 h
  split_ifs at hd with hquery hfragment hslash
  · exact ne_of_mem_escape (by simp only [List.mem_append, hd, true_or, or_true])
  · exact ne_of_mem_escape (by simp only [List.mem_append, hd, true_or, or_true])
  · exact ne_of_mem_escape (by simp only [List.mem_append, hd, or_true])
  · rw [List.mem_singleton.1 hd]
    exact ⟨hquery, hfragment⟩

/-- A path keeps its first slash. -/
theorem exists_escapePath {cs : List Char} (h : cs.head? = some '/') :
    ∃ rest, Url.unbroken (escapePath cs) = '/' :: rest := by
  obtain ⟨rest, rfl⟩ := List.head?_eq_some_iff.1 h
  exact ⟨_, rfl⟩

theorem halves_of_authority (hw : r.IsWeb) {authority : List Char}
    (h : authority? r = some authority) : Url.halves (base r)
      = (Url.unbroken authority, Url.unbroken (escapePath r.path.toList)) := by
  obtain ⟨ha, -⟩ := isAuthority_of_authority? hw h
  -- The authority holds nothing that ends it, so it ends at the first slash of the path.
  obtain ⟨rest, hrest⟩ := exists_escapePath hw.path
  have htake : (Url.unbroken authority ++ '/' :: rest).takeWhile (!Url.endsAuthority ·)
      = Url.unbroken authority := by
    rw [Url.takeWhile_append_stop (by decide), List.takeWhile_eq_self_iff]
    exact fun c hc => by rw [ha.not_ends c hc]; rfl
  have hdrop : (Url.unbroken authority ++ '/' :: rest).dropWhile (!Url.endsAuthority ·)
      = '/' :: rest := by
    rw [Url.dropWhile_append_stop (by decide), List.dropWhile_eq_nil_iff.2]
    · rfl
    · exact fun c hc => by rw [ha.not_ends c hc]; rfl
  have hbase : base r = r.scheme.toList ++ "://".toList ++ authority ++ escapePath r.path.toList := by
    unfold base
    rw [h]
  have hclean : Url.clean (base r)
      = r.scheme.toList ++ "://".toList ++ (Url.unbroken authority ++ '/' :: rest) := by
    rw [hbase, ← hrest]
    rcases hw.scheme with hs | hs <;> rw [hs] <;> simp [Url.clean, Url.unbroken]
  have hsplit : (Url.splitScheme (Url.clean (base r))).2
      = '/' :: '/' :: (Url.unbroken authority ++ '/' :: rest) := by
    rw [hclean]
    rcases hw.scheme with hs | hs <;> rw [hs] <;> rfl
  rw [Url.halves, hsplit, Url.splitAuthority, htake, hdrop, hrest]

/-- Without an authority, a URL is a path that begins with one slash. -/
theorem base_of_no_authority (hw : r.IsWeb) (h : authority? r = none) :
    (∃ rest, base r = '/' :: rest) ∧ ∀ c ∈ base r, c ≠ '?' ∧ c ≠ '#' := by
  obtain ⟨rest, hrest⟩ := List.head?_eq_some_iff.1 hw.path
  have hpath : escapePath r.path.toList = '/' :: escapePath rest := by
    rw [hrest]
    rfl
  have hmem : ∀ c ∈ escapePath rest, c ≠ '?' ∧ c ≠ '#' := fun c hc => ne_of_mem_escapePath hc
  unfold base
  simp only [h, hpath]
  split
  · rename_i after hafter
    rw [List.cons.injEq] at hafter
    refine ⟨⟨_, rfl⟩, fun c hc => ?_⟩
    rcases List.mem_append.1 hc with hc | hc
    · exact ne_of_mem_escape (by simp only [List.mem_append, hc, true_or])
    · exact hmem c (hafter.2 ▸ List.mem_cons_of_mem _ hc)
  · refine ⟨⟨_, rfl⟩, fun c hc => ?_⟩
    rcases List.mem_cons.1 hc with rfl | hc
    · decide
    · exact hmem c hc

/-- What stands before the query is read back as it is meant to be, or at least its path is. -/
theorem halves_base (hw : r.IsWeb) : Url.halves (base r) = readBack r := by
  unfold readBack
  split
  · exact halves_of_authority hw ‹_›
  · rename_i h
    obtain ⟨⟨rest, hrest⟩, -⟩ := base_of_no_authority hw h
    have hclean : Url.clean (base r) = Url.unbroken (base r) := by
      rw [hrest]
      rfl
    -- A slash begins no scheme, even if there is a colon behind it.
    have hscheme : (Url.splitScheme (Url.unbroken (base r))).2 = Url.unbroken (base r) := by
      rw [hrest]
      change (Url.splitScheme ('/' :: Url.unbroken rest)).2 = '/' :: Url.unbroken rest
      unfold Url.splitScheme
      split
      · rename_i hfirst
        rw [List.cons.injEq] at hfirst
        rw [← hfirst.1, show Text.isAsciiLetter '/'.toNat = false by decide]
        rfl
      · rfl
    rw [Url.halves, hclean, hscheme]

theorem mem_unbroken {c : Char} {cs : List Char} (h : c ∈ Url.unbroken cs) : c ∈ cs :=
  (List.mem_filter.1 h).1

/-- No delimiter of a query or a fragment is left in the path. -/
theorem pathOf_readBack (hw : r.IsWeb) : Url.pathOf (readBack r).2 = (readBack r).2 := by
  have hmem : ∀ c ∈ (readBack r).2, c ≠ '?' ∧ c ≠ '#' := by
    unfold readBack
    intro c hc
    split at hc
    · exact ne_of_mem_escapePath (mem_unbroken hc)
    · rename_i h
      refine (base_of_no_authority hw h).2 c (mem_unbroken ?_)
      unfold Url.splitAuthority at hc
      split at hc
      · rename_i rest hrest
        rw [hrest]
        exact List.mem_cons_of_mem _ (List.mem_cons_of_mem _ ((List.dropWhile_sublist _).subset hc))
      · exact hc
  exact Url.pathOf_of_not_mem (fun hq => (hmem _ hq).1 rfl) (fun hf => (hmem _ hf).2 rfl)

end Web

end Location

/-- The URL of a request cannot be read back: there is no authority, and what follows two slashes with
a break between them is taken for one. -/
structure Request.Misread (r : Request) : Prop where
  authority : Location.authority? r = none
  slashes : ∃ rest, Url.unbroken (Location.base r) = '/' :: '/' :: rest
    ∧ Url.authorityFault? (rest.takeWhile (!Url.endsAuthority ·)) ≠ none

theorem Request.not_misread {r : Request} (h : ¬ ['/', '/'] <+: Url.unbroken (Location.base r)) :
    ¬ r.Misread := by
  rintro ⟨-, rest, hstart, -⟩
  exact h (hstart ▸ by simp [List.cons_prefix_cons])

namespace Location

section Web

variable {r : Request}

theorem misread_iff (hw : r.IsWeb) :
    r.Misread ↔ Url.authorityFault? (readBack r).1 ≠ none := by
  unfold readBack
  rcases ha : authority? r with _ | authority
  · dsimp only
    constructor
    · rintro ⟨-, rest, hstart, hfault⟩
      rw [hstart]
      exact hfault
    · intro hfault
      unfold Url.splitAuthority at hfault
      split at hfault
      · rename_i hstart
        exact ⟨ha, _, hstart, hfault⟩
      · simp [Url.authorityFault?, Url.bracketFault?] at hfault
  · refine iff_of_false (fun hm => ?_) ?_
    · cases ha.symm.trans hm.authority
    · simp [(isAuthority_of_authority? hw ha).2]

/-- The URL of a request for a page can be read back, and its path is that of the request, or it is
one of those that cannot. -/
theorem ofRequest_of_isWeb (hw : r.IsWeb) :
    (¬ r.Misread ∧ ∃ l, ofRequest r = .ok l ∧ l.path = (readBack r).2)
      ∨ r.Misread ∧ ∃ fault, ofRequest r = .error (.url fault) := by
  obtain ⟨t, ht⟩ := hw.query
  rw [misread_iff hw]
  rcases ofRequest_cases r with ⟨fault, hq, -⟩ | ⟨-, -, ⟨fault, hf, he⟩ | ⟨hf, l, he, hl⟩⟩
  · rw [ht] at hq
    cases hq
  · rw [halves_base hw] at hf
    exact .inr ⟨by simp [hf], fault, he⟩
  · rw [halves_base hw] at hf hl
    rw [pathOf_readBack hw] at hl
    exact .inl ⟨by simp [hf], l, he, hl⟩

end Web

end Location

end BotSentry
