import BotSentry.Store.Repository
import Mathlib.Tactic.Common

/-!
# What a cache holds

A store holds under each key what was last set there, and nothing where it was erased. A cache into
which a dataset is put holds its document until it expires, or it is as before (`kept_keep`).
-/

namespace BotSentry

/-- What is left under a key once the entries of another are gone. -/
theorem lookup_filter_ne {α β : Type} [DecidableEq α] [BEq α] [LawfulBEq α]
    (entries : List (α × β)) (key other : α) :
    (entries.filter (·.1 != other)).lookup key
      = if key = other then none else entries.lookup key := by
  induction entries with
  | nil => simp
  | cons entry rest ih =>
    obtain ⟨k, v⟩ := entry
    by_cases hk : k = other
    · subst hk
      rw [List.filter_cons_of_neg (by simp), ih, List.lookup_cons]
      split_ifs with hkey
      · rfl
      · rw [beq_eq_false_iff_ne.2 hkey]
    · rw [List.filter_cons_of_pos (by simpa using hk), List.lookup_cons, List.lookup_cons, ih]
      split_ifs with hkey
      · rw [beq_eq_false_iff_ne.2 (hkey ▸ Ne.symm hk)]
      · rfl

variable {τ : Type}

namespace Store

theorem find?_erase (s : Store τ) (key other : String) :
    (s.erase key).find? other = if other = key then none else s.find? other :=
  lookup_filter_ne s.entries other key

theorem find?_set [TimeScale τ] (s : Store τ) (key : String) (value : Bytes) (ttl now : τ)
    (other : String) : (s.set key value ttl now).find? other
      = if other = key then some { value, expires := TimeScale.add now ttl }
        else s.find? other := by
  have herase := s.find?_erase key other
  simp only [find?] at herase
  simp only [find?, set, List.lookup_cons, herase]
  split_ifs with ho
  · rw [ho, beq_self_eq_true]
  · rw [beq_eq_false_iff_ne.2 ho]

/-- To ask for a value does no more than to forget it. -/
theorem find?_of_get [TimeScale τ] {s : Store τ} {key other : String} {now : τ} {entry : Entry τ}
    (h : (s.get key now).2.find? other = some entry) : s.find? other = some entry := by
  unfold get at h
  split at h
  · exact h
  · split_ifs at h
    · rw [find?_erase] at h
      split_ifs at h
      exact h
    · exact h

/-- What is forgotten has expired. -/
theorem find?_get [TimeScale τ] {s : Store τ} {key : String} {entry : Entry τ} (other : String)
    (now : τ) (he : s.find? key = some entry) : (s.get other now).2.find? key = some entry
      ∨ (s.get other now).2.find? key = none ∧ TimeScale.le entry.expires now = true := by
  unfold get
  split
  · exact .inl he
  · rename_i found hfound
    split_ifs with hexpired
    · rw [find?_erase]
      split_ifs with hkey
      · subst hkey
        obtain rfl := Option.some.inj (he.symm.trans hfound)
        exact .inr ⟨rfl, hexpired⟩
      · exact .inl he
    · exact .inl he

theorem find?_get_none [TimeScale τ] {s : Store τ} {key : String} (other : String) (now : τ)
    (he : s.find? key = none) : (s.get other now).2.find? key = none := by
  refine Option.eq_none_iff_forall_ne_some.2 fun entry hentry => ?_
  rw [find?_of_get hentry] at he
  cases he

end Store

namespace Cache

/-- Everything in a cache has been in another one, in the same place. -/
def Within (c' c : Cache τ) : Prop :=
  ∀ key entry, c'.store.find? key = some entry → c.store.find? key = some entry

theorem Within.of_store_eq {c c' : Cache τ} (h : c'.store = c.store) : c'.Within c :=
  fun _ _ he => h ▸ he

theorem Within.trans {c c' c'' : Cache τ} (h' : c''.Within c') (h : c'.Within c) : c''.Within c :=
  fun key entry he => h key entry (h' key entry he)

variable [TimeScale τ]

theorem within_get {c c' : Cache τ} {key : String} {now : τ} {value : Option Bytes}
    (h : c.get key now = .ok (value, c')) : c'.Within c := by
  unfold get at h
  split at h
  · simp at h
  · simp only [Except.ok.injEq, Prod.mk.injEq] at h
    obtain ⟨-, rfl⟩ := h
    exact fun _ _ he => Store.find?_of_get he

theorem within_dataset {c c' : Cache τ} {now : τ} {cached : Option Dataset}
    {notices : List Notice} (h : c.dataset now = .ok (cached, c', notices)) : c'.Within c := by
  unfold dataset at h
  split at h
  · simp at h
  · rename_i value c₁ hget
    split at h
    all_goals
      simp only [Except.ok.injEq, Prod.mk.injEq] at h
      obtain ⟨-, rfl, -⟩ := h
      exact within_get hget

/-- A cache after a dataset has been put into it for some time: the document of the dataset has
taken its place, or could not be written and everything is as before. -/
inductive Kept (c : Cache τ) (d : Dataset) (ttl now : τ) : Cache τ → Prop
  | written {c' : Cache τ} {bytes : Bytes} : d.encode = .ok bytes → c.noWriting = none →
      c'.store.find? Dataset.cacheKey = some { value := bytes, expires := TimeScale.add now ttl } →
      (∀ key, key ≠ Dataset.cacheKey → c'.store.find? key = c.store.find? key) → Kept c d ttl now c'
  | failed : (∀ bytes, d.encode = .ok bytes → c.noWriting.isSome) → Kept c d ttl now c

theorem kept_keep (c : Cache τ) (d : Dataset) (ttl now : τ) :
    c.Kept d ttl now (c.keep d ttl now).1 := by
  unfold keep put
  rcases hd : d.encode with fault | bytes
  · exact .failed (by simp [hd])
  · rcases hw : c.noWriting with _ | reason
    · simp only [set, hw]
      refine .written hd hw ?_ fun key hkey => ?_
      · rw [Store.find?_set, if_pos rfl]
      · rw [Store.find?_set, if_neg hkey]
    · simp only [set, hw]
      exact .failed (by simp [hw])

end Cache

end BotSentry
