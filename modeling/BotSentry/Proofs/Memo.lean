import BotSentry.Proofs.Reference
import BotSentry.Store.Repository
import Mathlib.Tactic.Common

/-!
# What the engine remembers

The engine keeps the patterns of the snapshot that it last compiled, under the number of that
snapshot. It is `Faithful` if what it keeps under the number of the snapshot in force was compiled
from the dataset in force. A new engine is, every search keeps it so, and a new dataset comes into
force under a number that has not been used (`Faithful.install`).

A faithful engine answers as the dataset alone does (`detectBot_of_searchable`,
`detect_of_searchable`). Where a pattern can neither be searched for nor skipped, it answers nothing
and remembers nothing, so that the next call meets the same pattern (`detectBot_of_error`).
-/

namespace BotSentry

namespace Engine

/-- What is kept for the snapshot in force was compiled from its dataset. -/
def Faithful (engine : Engine) (snapshot : Snapshot) : Prop :=
  ∀ generation patterns, engine.memo = some (generation, patterns) →
    generation ≤ snapshot.generation
      ∧ (generation = snapshot.generation →
        (compileAll snapshot.dataset.patterns).2 = .ok patterns)

variable {engine : Engine} {snapshot : Snapshot}

theorem faithful_of_memo_none (h : engine.memo = none) : engine.Faithful snapshot := by
  intro generation patterns hm
  rw [h] at hm
  exact absurd hm (by simp)

/-- The dataset that comes into force has a number that nothing is kept under. -/
theorem Faithful.install (h : engine.Faithful snapshot) (d : Dataset) :
    engine.Faithful (snapshot.install d) := by
  intro generation patterns hm
  obtain ⟨hle, -⟩ := h generation patterns hm
  simp only [Snapshot.install]
  exact ⟨by omega, fun he => absurd he (by omega)⟩

/-! ## The compiled patterns -/

theorem compiled_of_kept {patterns : CompiledPatterns}
    (h : engine.memo = some (snapshot.generation, patterns)) :
    engine.compiled snapshot = (engine, [], .ok patterns) := by
  unfold compiled
  simp only [h, ↓reduceIte]

/-- Nothing is kept for the snapshot: its patterns are compiled anew. -/
theorem compiled_anew (h : ∀ patterns, engine.memo ≠ some (snapshot.generation, patterns)) :
    (∃ patterns, (compileAll snapshot.dataset.patterns).2 = .ok patterns
      ∧ engine.compiled snapshot = ({ memo := some (snapshot.generation, patterns) },
          (compileAll snapshot.dataset.patterns).1, .ok patterns))
    ∨ ∃ refusal, (compileAll snapshot.dataset.patterns).2 = .error refusal
      ∧ engine.compiled snapshot
        = (engine, (compileAll snapshot.dataset.patterns).1, .error refusal) := by
  unfold compiled
  rcases hc : compileAll snapshot.dataset.patterns with ⟨notices, refusal | patterns⟩
  · refine .inr ⟨refusal, rfl, ?_⟩
    rcases hm : engine.memo with _ | ⟨generation, kept⟩
    · rfl
    · have hg : generation ≠ snapshot.generation := fun he => h kept (by rw [hm, he])
      simp only [hg, ↓reduceIte]
  · refine .inl ⟨patterns, rfl, ?_⟩
    rcases hm : engine.memo with _ | ⟨generation, kept⟩
    · rfl
    · have hg : generation ≠ snapshot.generation := fun he => h kept (by rw [hm, he])
      simp only [hg, ↓reduceIte]

/-- What is kept is what compiling anew would give. -/
theorem compiled_result (h : engine.Faithful snapshot) :
    (engine.compiled snapshot).2.2 = (compileAll snapshot.dataset.patterns).2 := by
  by_cases hk : ∃ patterns, engine.memo = some (snapshot.generation, patterns)
  · obtain ⟨patterns, hm⟩ := hk
    rw [compiled_of_kept hm, (h _ _ hm).2 rfl]
  · rcases compiled_anew (not_exists.1 hk) with ⟨patterns, hc, he⟩ | ⟨refusal, hc, he⟩
    · rw [he, hc]
    · rw [he, hc]

theorem compiled_faithful (h : engine.Faithful snapshot) :
    (engine.compiled snapshot).1.Faithful snapshot := by
  by_cases hk : ∃ patterns, engine.memo = some (snapshot.generation, patterns)
  · obtain ⟨patterns, hm⟩ := hk
    rwa [compiled_of_kept hm]
  · rcases compiled_anew (not_exists.1 hk) with ⟨patterns, hc, he⟩ | ⟨refusal, -, he⟩
    · rw [he]
      intro generation kept hm
      simp only [Option.some.injEq, Prod.mk.injEq] at hm
      obtain ⟨rfl, rfl⟩ := hm
      exact ⟨Nat.le_refl _, fun _ => hc⟩
    · rwa [he]

/-- A compilation that gives up leaves the engine as it was. -/
theorem compiled_engine_of_error {refusal : Pattern.Refusal}
    (h : (engine.compiled snapshot).2.2 = .error refusal) :
    (engine.compiled snapshot).1 = engine := by
  by_cases hk : ∃ patterns, engine.memo = some (snapshot.generation, patterns)
  · obtain ⟨patterns, hm⟩ := hk
    rw [compiled_of_kept hm]
  · rcases compiled_anew (not_exists.1 hk) with ⟨patterns, -, he⟩ | ⟨_, -, he⟩
    · rw [he] at h
      exact absurd h (by simp)
    · rw [he]

/-! ## Detection -/

theorem detectBot_faithful (h : engine.Faithful snapshot) (userAgent : String) :
    (engine.detectBot snapshot userAgent).engine.Faithful snapshot := by
  unfold detectBot
  split_ifs
  · exact h
  · exact compiled_faithful h

theorem detect_engine (engine : Engine) (snapshot : Snapshot) (userAgent referrer : String) :
    (engine.detect snapshot userAgent referrer).engine
      = (engine.detectBot snapshot userAgent).engine := by
  unfold detect
  dsimp only
  split <;> rfl

theorem detect_faithful (h : engine.Faithful snapshot) (userAgent referrer : String) :
    (engine.detect snapshot userAgent referrer).engine.Faithful snapshot := by
  rw [detect_engine]
  exact detectBot_faithful h userAgent

theorem detectBot_of_searchable (h : engine.Faithful snapshot) {userAgent : String}
    (hs : userAgent = "" ∨ snapshot.dataset.Searchable) :
    (engine.detectBot snapshot userAgent).result
      = .ok (snapshot.dataset.agentDetection userAgent) := by
  unfold detectBot Dataset.agentDetection
  by_cases hu : userAgent = ""
  · rw [if_pos (by rw [hu]; rfl), if_pos hu]
  · rw [if_neg (by simpa using hu), if_neg hu]
    have hs := hs.resolve_left hu
    simp only [compiled_result h, compileAll_eq_ok hs, Except.map, firstBot_map_compiled?]
    rcases hf : snapshot.dataset.patterns.find? (·.hits userAgent) with _ | bot
    · simp only [hf]
    · simp only [hf, botDetection]

/-- A refusal ends the search, and nothing is remembered. -/
theorem detectBot_of_error (h : engine.Faithful snapshot) {userAgent : String}
    {refusal : Pattern.Refusal} (hu : userAgent ≠ "")
    (hc : (compileAll snapshot.dataset.patterns).2 = .error refusal) :
    (engine.detectBot snapshot userAgent).result = .error refusal
      ∧ (engine.detectBot snapshot userAgent).engine = engine := by
  have hr : (engine.compiled snapshot).2.2 = .error refusal := by rw [compiled_result h, hc]
  unfold detectBot
  rw [if_neg (by simpa using hu)]
  exact ⟨by simp only [hr, Except.map], compiled_engine_of_error hr⟩

theorem detect_of_error {userAgent referrer : String} {refusal : Pattern.Refusal}
    (h : (engine.detectBot snapshot userAgent).result = .error refusal) :
    engine.detect snapshot userAgent referrer = engine.detectBot snapshot userAgent := by
  unfold detect
  simp only [h]

theorem detect_of_searchable (h : engine.Faithful snapshot) {userAgent : String} (referrer : String)
    (hs : userAgent = "" ∨ snapshot.dataset.Searchable) :
    (engine.detect snapshot userAgent referrer).result
      = .ok (snapshot.dataset.detection userAgent referrer) := by
  have hb := detectBot_of_searchable h hs
  unfold detect Dataset.detection
  rcases hd : snapshot.dataset.agentDetection userAgent with _ | ⟨bot, blocked, p⟩ | ⟨r, p⟩ <;>
    rw [hd] at hb <;> simp only [hb]
  · rw [detectReferrer_eq]
    rfl
  · rfl
  · rfl

end Engine

end BotSentry
