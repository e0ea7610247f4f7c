import BotSentry.Guard.Exclusion
import BotSentry.Proofs.Utf8
import Mathlib.Data.List.TakeWhile

/-!
# The requests that are not looked at

A path is excluded for how it starts or for its extension. Which characters are the extension is
found by two searches from the end, for a slash and for a point, and each finds the one way to write
a text as something, a separator and what has no separator (`IsLast.eq`). So a segment has an
extension just if it can be written as a stem, a point and that extension (`Path.extension_eq_iff`),
and nothing else of a path counts.
-/

namespace BotSentry

/-- What follows the last separator, or everything if there is none. -/
def IsLast (sep : Char) (cs last : List Char) : Prop :=
  sep ∉ last ∧ (cs = last ∨ ∃ before, cs = before ++ sep :: last)

section IsLast

variable {sep : Char} {cs last other : List Char}

theorem exists_isLast (sep : Char) (cs : List Char) : ∃ last, IsLast sep cs last := by
  by_cases h : sep ∈ cs
  · obtain ⟨last, before, he, hlast⟩ := List.eq_append_cons_of_mem (List.mem_reverse.2 h)
    refine ⟨last.reverse, mt List.mem_reverse.1 hlast, .inr ⟨before.reverse, ?_⟩⟩
    rw [← List.reverse_reverse cs, he, List.reverse_append, List.reverse_cons, List.append_assoc,
      List.singleton_append]
  · exact ⟨cs, h, .inl rfl⟩

theorem IsLast.takeWhile_reverse (h : IsLast sep cs last) :
    cs.reverse.takeWhile (· != sep) = last.reverse := by
  obtain ⟨hsep, hcs⟩ := h
  have hall : ∀ c ∈ last.reverse, (c != sep) = true := fun c hc =>
    bne_iff_ne.2 fun he => hsep (he ▸ List.mem_reverse.1 hc)
  rcases hcs with rfl | ⟨before, rfl⟩
  · exact List.takeWhile_eq_self_iff.2 hall
  · rw [List.reverse_append, List.reverse_cons, List.append_assoc, List.singleton_append,
      List.takeWhile_append_of_pos hall, List.takeWhile_cons_of_neg (by simp), List.append_nil]

theorem IsLast.eq (h : IsLast sep cs last) (ho : IsLast sep cs other) : other = last :=
  List.reverse_inj.1 (ho.takeWhile_reverse.symm.trans h.takeWhile_reverse)

end IsLast

namespace Path

variable {path segment stem ext name points : List Char}

/-- A segment has an extension if it is a stem, a point and the extension, and the stem has some
other character than points. -/
def HasExtension (segment ext : List Char) : Prop :=
  '.' ∉ ext ∧ ext ≠ [] ∧ ∃ stem, segment = stem ++ '.' :: ext ∧ ∃ c ∈ stem, c ≠ '.'

theorem extension_of_not_mem (h : IsLast '/' path segment) (hp : '.' ∉ segment) :
    extension path = [] := by
  have hlast : IsLast '.' segment segment := ⟨hp, .inl rfl⟩
  simp only [extension, lastSegment, h.takeWhile_reverse, List.reverse_reverse,
    hlast.takeWhile_reverse]
  rw [List.drop_of_length_le (Nat.le_succ _)]
  rfl

theorem extension_of_append (h : IsLast '/' path (stem ++ '.' :: ext)) (hext : '.' ∉ ext) :
    extension path = if stem.any (· != '.') then ext else [] := by
  have hlast : IsLast '.' (stem ++ '.' :: ext) ext := ⟨hext, .inr ⟨stem, rfl⟩⟩
  have hstem : (stem ++ '.' :: ext).reverse.drop (ext.reverse.length + 1) = stem.reverse := by
    rw [List.reverse_append, List.reverse_cons]
    exact List.drop_left' List.length_append
  simp only [extension, lastSegment, h.takeWhile_reverse, List.reverse_reverse,
    hlast.takeWhile_reverse, hstem, List.any_reverse]

theorem any_ne_point : stem.any (· != '.') = true ↔ ∃ c ∈ stem, c ≠ '.' := by
  simp only [List.any_eq_true, bne_iff_ne]

theorem extension_eq_iff (h : IsLast '/' path segment) (hne : ext ≠ []) :
    extension path = ext ↔ HasExtension segment ext := by
  constructor
  · rintro rfl
    obtain ⟨ext, hext, rfl | ⟨stem, rfl⟩⟩ := exists_isLast '.' segment
    · exact absurd (extension_of_not_mem h hext) hne
    · rw [extension_of_append h hext] at hne ⊢
      split_ifs at hne ⊢ with hstem
      · exact ⟨hext, hne, stem, rfl, any_ne_point.1 hstem⟩
      · exact absurd rfl hne
  · rintro ⟨hext, -, stem, rfl, hstem⟩
    rw [extension_of_append h hext, if_pos (any_ne_point.2 hstem)]

theorem hasExtension_append_iff {x : List Char} (hext : '.' ∉ ext) :
    HasExtension (stem ++ '.' :: ext) x ↔ x = ext ∧ ext ≠ [] ∧ ∃ c ∈ stem, c ≠ '.' := by
  constructor
  · rintro ⟨hx, hne, stem', he, hstem⟩
    have hlast : IsLast '.' (stem ++ '.' :: ext) ext := ⟨hext, .inr ⟨stem, rfl⟩⟩
    obtain rfl := hlast.eq ⟨hx, .inr ⟨stem', he⟩⟩
    rw [List.append_cancel_right he]
    exact ⟨rfl, hne, hstem⟩
  · rintro ⟨rfl, hne, hstem⟩
    exact ⟨hext, hne, stem, rfl, hstem⟩

/-- What has only points before it is no extension. -/
theorem not_hasExtension_of_points (hpoints : ∀ c ∈ points, c = '.') (hname : '.' ∉ name) :
    ¬ HasExtension (points ++ name) ext := by
  rintro ⟨-, -, stem, he, c, hc, hpoint⟩
  rcases List.append_eq_append_iff.1 he with ⟨more, rfl, rfl⟩ | ⟨more, rfl, -⟩
  · exact hname (by simp)
  · exact hpoint (hpoints c (List.mem_append_left more hc))

theorem not_hasExtension_concat : ¬ HasExtension (segment ++ ['.']) ext := by
  rintro ⟨hext, hne, stem, he, -⟩
  obtain ⟨before, c, rfl⟩ := (List.eq_nil_or_concat ext).resolve_left hne
  have he : segment ++ ['.'] = (stem ++ '.' :: before) ++ [c] := by simpa using he
  obtain rfl := List.singleton_inj.1 (List.append_inj' he rfl).2
  exact hext (by simp)

end Path

theorem Text.lowerChars_eq_nil_iff {cs : List Char} : lowerChars cs = [] ↔ cs = [] := by
  refine ⟨fun h => ?_, ?_⟩
  · cases cs with
    | nil => rfl
    | cons c cs =>
      have hmapped := (List.append_eq_nil_iff.1 h).1
      split_ifs at hmapped
  · rintro rfl
    rfl

namespace Settings

open Text (lowerChars)

variable {s : Settings} {path segment stem ext ext' : List Char}

/-- An extension is listed if one of the list, without points before it, is the same in lower
case. -/
def Lists (s : Settings) (ext : List Char) : Prop :=
  ∃ e ∈ s.excludedExtensions, ∃ cs, e = Text.ofChars cs
    ∧ (lowerChars cs).dropWhile (· = '.') = lowerChars ext

/-- The last segment of a path has a listed extension. -/
def ListsKindOf (s : Settings) (path : List Char) : Prop :=
  ∃ segment ext, IsLast '/' path segment ∧ Path.HasExtension segment ext ∧ s.Lists ext

theorem plainExtension_eq_some_iff {e : Text} {plain : List Char} :
    plainExtension e = some plain
      ↔ ∃ cs, e = Text.ofChars cs ∧ (lowerChars cs).dropWhile (· = '.') = plain := by
  unfold plainExtension
  rw [Option.map_eq_some_iff]
  refine exists_congr fun cs => and_congr_left fun _ => ⟨Text.eq_ofChars_of_toChars?, ?_⟩
  rintro rfl
  exact Text.toChars?_ofChars cs

theorem excludesExtension_iff : s.excludesExtension ext = true ↔ ext ≠ [] ∧ s.Lists ext := by
  simp only [excludesExtension, Lists, Bool.and_eq_true, Bool.not_eq_true',
    List.isEmpty_eq_false_iff, List.any_eq_true, decide_eq_true_eq, plainExtension_eq_some_iff]

theorem listsKindOf_iff (h : IsLast '/' path segment) :
    s.ListsKindOf path ↔ ∃ ext, Path.HasExtension segment ext ∧ s.Lists ext := by
  constructor
  · rintro ⟨other, ext, ho, hext⟩
    obtain rfl := h.eq ho
    exact ⟨ext, hext⟩
  · rintro ⟨ext, hext⟩
    exact ⟨segment, ext, h, hext⟩

theorem excludesExtension_extension (s : Settings) (path : List Char) :
    s.excludesExtension (Path.extension path) = true ↔ s.ListsKindOf path := by
  obtain ⟨segment, hsegment⟩ := exists_isLast '/' path
  rw [excludesExtension_iff, listsKindOf_iff hsegment]
  constructor
  · rintro ⟨hne, hlists⟩
    exact ⟨_, (Path.extension_eq_iff hsegment hne).1 rfl, hlists⟩
  · rintro ⟨ext, hext, hlists⟩
    rw [(Path.extension_eq_iff hsegment hext.2.1).2 hext]
    exact ⟨hext.2.1, hlists⟩

theorem listsKindOf_append_iff (h : IsLast '/' path (stem ++ '.' :: ext)) (hext : '.' ∉ ext) :
    s.ListsKindOf path ↔ (ext ≠ [] ∧ ∃ c ∈ stem, c ≠ '.') ∧ s.Lists ext := by
  simp only [listsKindOf_iff h, Path.hasExtension_append_iff hext, and_assoc, exists_eq_left]

theorem lists_congr (h : lowerChars ext = lowerChars ext') : s.Lists ext ↔ s.Lists ext' := by
  unfold Lists
  rw [h]

/-- A path is excluded just if it starts with a listed path or has a listed extension. Whether it has
one is seen from its last segment, and not from the letter case of the extension; points before a
name or after it do not make an extension. -/
theorem excludes_iff (s : Settings) (path : List Char) :
    (s.excludes path = true
        ↔ (∃ start ∈ s.excludedPaths, start <+: Text.ofChars path) ∨ s.ListsKindOf path)
      ∧ (∀ segment other, IsLast '/' path segment → IsLast '/' other segment →
        (s.ListsKindOf path ↔ s.ListsKindOf other))
      ∧ (∀ points name, IsLast '/' path (points ++ name) → (∀ c ∈ points, c = '.') → '.' ∉ name →
        ¬ s.ListsKindOf path)
      ∧ (∀ segment, IsLast '/' path (segment ++ ['.']) → ¬ s.ListsKindOf path)
      ∧ ∀ stem ext ext' other, IsLast '/' path (stem ++ '.' :: ext) →
        IsLast '/' other (stem ++ '.' :: ext') → '.' ∉ ext → '.' ∉ ext' →
        lowerChars ext = lowerChars ext' → (s.ListsKindOf path ↔ s.ListsKindOf other) := by
  refine ⟨?_, ?_, ?_, ?_, ?_⟩
  · rw [excludes, Bool.or_eq_true, excludesExtension_extension]
    simp only [List.any_eq_true, List.isPrefixOf_iff_prefix]
  · intro segment other hpath hother
    rw [listsKindOf_iff hpath, listsKindOf_iff hother]
  · intro points name hpath hpoints hname
    rw [listsKindOf_iff hpath]
    rintro ⟨ext, hext, -⟩
    exact Path.not_hasExtension_of_points hpoints hname hext
  · intro segment hpath
    rw [listsKindOf_iff hpath]
    rintro ⟨ext, hext, -⟩
    exact Path.not_hasExtension_concat hext
  · intro stem ext ext' other hpath hother hext hext' hcase
    have hnil : ext = [] ↔ ext' = [] := by
      rw [← Text.lowerChars_eq_nil_iff, hcase, Text.lowerChars_eq_nil_iff]
    rw [listsKindOf_append_iff hpath hext, listsKindOf_append_iff hother hext', lists_congr hcase,
      Ne, hnil]

/-- The one extension of the list has a point before it and a capital. -/
def styles : Settings := { excludedExtensions := [Text.ofString ".Css"] }

theorem excludes_iff_styles : styles.excludes "/v1.2/Site.CSS".toList = true
    ∧ (styles.ListsKindOf "/v1.2/Site.CSS".toList ↔ styles.ListsKindOf "/Site.CSS".toList)
    ∧ (styles.ListsKindOf "/v1.2/Site.CSS".toList ↔ styles.ListsKindOf "/v1.2/Site.css".toList)
    ∧ ¬ styles.ListsKindOf "/v1.css/.css".toList ∧ ¬ styles.ListsKindOf "/site.css.".toList := by
  have hsite : IsLast '/' "/v1.2/Site.CSS".toList ("Site".toList ++ '.' :: "CSS".toList) :=
    ⟨by decide, .inr ⟨"/v1.2".toList, rfl⟩⟩
  have hlower : IsLast '/' "/v1.2/Site.css".toList ("Site".toList ++ '.' :: "css".toList) :=
    ⟨by decide, .inr ⟨"/v1.2".toList, rfl⟩⟩
  have htop : IsLast '/' "/Site.CSS".toList ("Site".toList ++ '.' :: "CSS".toList) :=
    ⟨by decide, .inr ⟨[], rfl⟩⟩
  have hdotted : IsLast '/' "/v1.css/.css".toList (['.'] ++ "css".toList) :=
    ⟨by decide, .inr ⟨"/v1.css".toList, rfl⟩⟩
  have htrailing : IsLast '/' "/site.css.".toList ("site.css".toList ++ ['.']) :=
    ⟨by decide, .inr ⟨[], rfl⟩⟩
  have hlisted : styles.Lists "CSS".toList :=
    ⟨_, List.mem_singleton_self _, ".Css".toList, rfl, by decide⟩
  obtain ⟨hexcludes, hsegment, -, -, hcase⟩ := excludes_iff styles "/v1.2/Site.CSS".toList
  refine ⟨hexcludes.2 (.inr ?_), hsegment _ _ hsite htop,
    hcase _ _ _ _ hsite hlower (by decide) (by decide) (by decide),
    (excludes_iff styles _).2.2.1 _ _ hdotted (by decide) (by decide),
    (excludes_iff styles _).2.2.2.1 _ htrailing⟩
  exact (listsKindOf_append_iff hsite (by decide)).2
    ⟨⟨by decide, 'S', by decide, by decide⟩, hlisted⟩

end Settings

end BotSentry
