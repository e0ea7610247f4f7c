import BotSentry.Http.Headers
import Mathlib.Data.List.Induction
import Mathlib.Data.List.Nodup
import Mathlib.Tactic.Common

/-!
# Grouped header fields

Field by field, a grouping stays the one of the fields that have arrived so far (`join_groupsOf`): each of
their names once, where it came first, with all its values. So that is what the whole list is grouped to
(`grouped_eq`), and the groups, taken apart again, are the fields that have arrived (`grouped_lossless`).
-/

namespace BotSentry

/-- What comes behind a list is new in it or not. -/
theorem eraseDups_concat {α : Type} [DecidableEq α] (l : List α) (a : α) :
    (l ++ [a]).eraseDups = if a ∈ l then l.eraseDups else l.eraseDups ++ [a] := by
  rw [List.eraseDups_append]
  split_ifs with h <;> simp [List.removeAll, h, List.eraseDups_cons]

theorem nodup_eraseDups {α : Type} [DecidableEq α] (l : List α) : l.eraseDups.Nodup := by
  induction l using List.reverseRecOn with
  | nil => exact List.nodup_nil
  | append_singleton l a ih =>
    rw [eraseDups_concat]
    split_ifs with h
    · exact ih
    · rw [← List.concat_eq_append]
      exact ih.concat (by simpa using h)

namespace Headers

/-- The values of all fields of a name, in the order of arrival. -/
def values (headers : Headers) (name : String) : List String :=
  (headers.filter (·.1 == name)).map (·.2)

/-- One field for each name, in the order of first arrival, with all values of the name. -/
def groupsOf (headers : Headers) : Headers :=
  (headers.map (·.1)).eraseDups.map fun name => (name, ", ".intercalate (headers.values name))

section Values

variable {headers : Headers} {name : String}

theorem values_concat (headers : Headers) (other value name : String) :
    (headers ++ [(other, value)]).values name
      = headers.values name ++ if other = name then [value] else [] := by
  unfold values
  split_ifs with h <;> simp [h]

theorem values_ne_nil (h : name ∈ headers.map (·.1)) : headers.values name ≠ [] := by
  obtain ⟨field, hfield, rfl⟩ := List.mem_map.1 h
  exact List.ne_nil_of_mem (List.mem_map_of_mem (List.mem_filter.2 ⟨hfield, beq_self_eq_true _⟩))

theorem values_eq_nil (h : name ∉ headers.map (·.1)) : headers.values name = [] := by
  rw [values, List.map_eq_nil_iff, List.filter_eq_nil_iff]
  intro field hfield hname
  exact h (List.mem_map.2 ⟨field, hfield, by simpa using hname⟩)

/-- The values of a name under that name are its fields. -/
theorem map_values (headers : Headers) (name : String) :
    (headers.values name).map (name, ·) = headers.filter (·.1 == name) := by
  rw [values, List.map_map]
  refine (List.map_congr_left fun field hfield => ?_).trans (List.map_id _)
  have hname : field.1 = name := by simpa using (List.mem_filter.1 hfield).2
  exact Prod.ext hname.symm rfl

end Values

/-! ## One more field -/

section Join

variable {name value : String}

theorem join_of_not_mem : ∀ {groups : Headers}, name ∉ groups.map (·.1) →
    join name value groups = groups ++ [(name, value)]
  | [], _ => rfl
  | (n, v) :: rest, h => by
    rw [List.map_cons, List.mem_cons, not_or] at h
    rw [join, if_neg (Ne.symm h.1), join_of_not_mem h.2, List.cons_append]

theorem join_of_mem (texts : String → String) : ∀ {names : List String}, names.Nodup →
    name ∈ names → join name value (names.map fun n => (n, texts n))
      = names.map fun n => (n, if name = n then texts n ++ ", " ++ value else texts n)
  | n :: names, hnodup, hmem => by
    obtain ⟨hn, hnodup⟩ := List.nodup_cons.1 hnodup
    rw [List.map_cons, join, List.map_cons]
    by_cases hname : n = name
    · subst hname
      rw [if_pos rfl, if_pos rfl]
      refine congrArg _ (List.map_congr_left fun m hm => ?_)
      have hne : n ≠ m := fun he => hn (he ▸ hm)
      rw [if_neg hne]
    · have hrest : name ∈ names := (List.mem_cons.1 hmem).resolve_left (Ne.symm hname)
      rw [if_neg hname, if_neg (Ne.symm hname), join_of_mem texts hnodup hrest]

/-- A field joins the groups of those before it. -/
theorem join_groupsOf (headers : Headers) (name value : String) :
    join name value headers.groupsOf = (headers ++ [(name, value)]).groupsOf := by
  have hnames : (headers ++ [(name, value)]).map (·.1) = headers.map (·.1) ++ [name] := by simp
  unfold groupsOf
  rw [hnames, eraseDups_concat]
  split_ifs with hmem
  · rw [join_of_mem _ (nodup_eraseDups _) (List.mem_eraseDups.2 hmem)]
    refine List.map_congr_left fun n hn => ?_
    rw [values_concat]
    split_ifs with hname
    · have hne := values_ne_nil (List.mem_eraseDups.1 hn)
      rw [String.intercalate_append_of_ne_nil hne (List.cons_ne_nil _ _),
        String.intercalate_singleton]
    · rw [List.append_nil]
  · rw [join_of_not_mem (by simpa using hmem), List.map_append, List.map_singleton, values_concat,
      if_pos rfl, values_eq_nil hmem, List.nil_append, String.intercalate_singleton]
    refine congrArg (· ++ _) (List.map_congr_left fun n hn => ?_)
    have hne : name ≠ n := fun he => hmem (he ▸ List.mem_eraseDups.1 hn)
    rw [values_concat, if_neg hne, List.append_nil]

end Join

theorem foldl_join (headers arrived : Headers) :
    headers.foldl (fun groups (name, value) => join name value groups) arrived.groupsOf
      = (arrived ++ headers).groupsOf := by
  induction headers generalizing arrived with
  | nil => rw [List.foldl_nil, List.append_nil]
  | cons field headers ih =>
    obtain ⟨name, value⟩ := field
    rw [List.foldl_cons]
    dsimp only
    rw [join_groupsOf, ih, List.append_assoc, List.singleton_append]

theorem grouped_eq (headers : Headers) : headers.grouped = headers.groupsOf :=
  foldl_join headers []

/-! ## Nothing is lost -/

/-- Fields sorted by some different names are the fields of those names. -/
theorem perm_flatMap_filter (headers : Headers) : ∀ {names : List String}, names.Nodup →
    (names.flatMap fun name => headers.filter (·.1 == name)).Perm
      (headers.filter fun field => names.contains field.1)
  | [], _ => by simp
  | name :: names, hnodup => by
    obtain ⟨hname, hnodup⟩ := List.nodup_cons.1 hnodup
    have hfirst : (headers.filter fun field => (name :: names).contains field.1).filter
        (·.1 == name) = headers.filter (·.1 == name) := by
      rw [List.filter_filter]
      exact List.filter_congr fun field _ => by
        by_cases h : field.1 = name <;> simp [h]
    have hrest : (headers.filter fun field => (name :: names).contains field.1).filter
        (!·.1 == name) = headers.filter fun field => names.contains field.1 := by
      rw [List.filter_filter]
      refine List.filter_congr fun field _ => ?_
      by_cases h : field.1 = name <;> simp [h, hname]
    have hsplit := List.filter_append_perm (·.1 == name)
      (headers.filter fun field => (name :: names).contains field.1)
    rw [hfirst, hrest] at hsplit
    rw [List.flatMap_cons]
    exact ((perm_flatMap_filter headers hnodup).append_left _).trans hsplit

/-- The groups of some fields have each of their names once, in the order of first arrival, and under
it all values of the name, joined in the order of arrival. With these values they are the fields
again, up to the order of different names. -/
theorem grouped_lossless (headers : Headers) :
    (headers.grouped.map (·.1)).Nodup
      ∧ headers.grouped.map (·.1) = (headers.map (·.1)).eraseDups
      ∧ (∀ group ∈ headers.grouped, group.2 = ", ".intercalate (headers.values group.1))
      ∧ (headers.grouped.flatMap fun group => (headers.values group.1).map (group.1, ·)).Perm
        headers := by
  have hnames : headers.groupsOf.map (·.1) = (headers.map (·.1)).eraseDups := by
    rw [groupsOf, List.map_map]
    exact List.map_id _
  have hspread : (headers.groupsOf.flatMap fun group =>
      (headers.values group.1).map (group.1, ·))
      = (headers.map (·.1)).eraseDups.flatMap fun name => headers.filter (·.1 == name) := by
    simp only [groupsOf, List.flatMap_map, map_values]
  have hall : (headers.filter fun field => (headers.map (·.1)).eraseDups.contains field.1)
      = headers := by
    refine List.filter_eq_self.2 fun field hfield => ?_
    simpa using ⟨_, hfield⟩
  rw [grouped_eq, hnames, hspread]
  refine ⟨nodup_eraseDups _, rfl, fun group hgroup => ?_, ?_⟩
  · obtain ⟨name, -, rfl⟩ := List.mem_map.1 hgroup
    rfl
  · have hperm := perm_flatMap_filter headers (nodup_eraseDups (headers.map (·.1)))
    rwa [hall] at hperm

/-- Two names take turns, and one value is empty. -/
example : grouped [("accept", "a"), ("cookie", "x"), ("accept", ""), ("cookie", "y"), ("accept", "b")]
    = [("accept", "a, , b"), ("cookie", "x, y")] := by decide

end Headers

end BotSentry
