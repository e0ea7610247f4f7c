import BotSentry.Text.CodePoint

/-!
# Sets of scopes

A finite set of texts, kept in increasing order so that equal sets are equal values.
-/

namespace BotSentry

structure ScopeSet where
  toList : List Text
  sorted : toList.Pairwise (fun s t => Text.before s t = true)
  deriving DecidableEq

namespace ScopeSet

def empty : ScopeSet := ⟨[], .nil⟩

def contains (s : ScopeSet) (t : Text) : Bool := s.toList.contains t

/-- Inserts a text into an increasing list. -/
def insertInto (t : Text) : List Text → List Text
  | [] => [t]
  | u :: rest =>
    if t = u then u :: rest
    else if Text.before t u then t :: u :: rest
    else u :: insertInto t rest

theorem mem_insertInto {t u : Text} {l : List Text} : u ∈ insertInto t l ↔ u = t ∨ u ∈ l := by
  induction l with
  | nil => simp [insertInto]
  | cons v l ih =>
    simp only [insertInto]
    split
    · rename_i h; subst h; simp
    · split
      · simp
      · simp only [List.mem_cons, ih]
        constructor <;> (intro h; rcases h with h | h | h <;> simp [h])

theorem sorted_insertInto {t : Text} {l : List Text}
    (h : l.Pairwise (fun s t => Text.before s t = true)) :
    (insertInto t l).Pairwise (fun s t => Text.before s t = true) := by
  induction l with
  | nil => simp [insertInto]
  | cons v l ih =>
    have hv := List.pairwise_cons.1 h
    simp only [insertInto]
    split
    · exact h
    · rename_i hne
      split
      · rename_i hb
        refine List.pairwise_cons.2 ⟨fun u hu => ?_, h⟩
        rcases List.mem_cons.1 hu with rfl | hu
        · exact hb
        · exact Text.before_trans hb (hv.1 u hu)
      · rename_i hb
        refine List.pairwise_cons.2 ⟨fun u hu => ?_, ih hv.2⟩
        rcases mem_insertInto.1 hu with rfl | hu
        · exact Text.before_of_not_before (by simpa using hb) hne
        · exact hv.1 u hu

def insert (s : ScopeSet) (t : Text) : ScopeSet :=
  ⟨insertInto t s.toList, sorted_insertInto s.sorted⟩

def ofList (l : List Text) : ScopeSet := l.foldl insert empty

instance : Inhabited ScopeSet := ⟨empty⟩

@[simp] theorem contains_iff {s : ScopeSet} {t : Text} : s.contains t = true ↔ t ∈ s.toList := by
  simp [contains]

theorem mem_insert {s : ScopeSet} {t u : Text} :
    u ∈ (s.insert t).toList ↔ u = t ∨ u ∈ s.toList := mem_insertInto

theorem mem_ofList {l : List Text} {u : Text} : u ∈ (ofList l).toList ↔ u ∈ l := by
  suffices h : ∀ s : ScopeSet, u ∈ (l.foldl insert s).toList ↔ u ∈ s.toList ∨ u ∈ l by
    simpa [ofList, empty] using h empty
  intro s
  induction l generalizing s with
  | nil => simp
  | cons t l ih =>
    rw [List.foldl_cons, ih, mem_insert, List.mem_cons, or_assoc, or_left_comm]

end ScopeSet

end BotSentry
