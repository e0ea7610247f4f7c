import BotSentry.Proofs.Clients
import BotSentry.Proofs.Memo
import Mathlib

/-!
# Detection in the course of a session

Whatever has been done with a host, the engines of its clients are faithful (`faithful_run`): a
detection between any installations of datasets and any ends of synchronisations is the one that the
dataset in force alone makes. It takes place unless the user agent has to be searched for a pattern
that can neither be searched for nor skipped.
-/

namespace BotSentry

variable {τ : Type} [TimeScale τ]

namespace BotPattern

/-- A bot of which nothing but the pattern is known. -/
def ofPattern (pattern : String) : BotPattern where
  pattern
  kind := Text.ofString "unknown"
  category := Text.ofString "Unknown"
  subcategory := Text.ofString "Unclassified"
  company := none
  isCompliant := false
  isModelTrainer := false
  intent := Text.ofString "unknown"
  url := none

end BotPattern

namespace Dataset

/-- The first pattern repeats more often than a pattern may. -/
def tooOften : Dataset where
  patterns := [.ofPattern "a\x7b4294967295\x7d", .ofPattern "Bot"]
  version := defaultVersion

theorem not_searchable_tooOften : ¬ tooOften.Searchable := fun h => by
  have hc : (BotPattern.ofPattern "a\x7b4294967295\x7d").isSearchable = false := by cbv
  rw [h _ List.mem_cons_self] at hc
  exact absurd hc (by simp)

/-- A malformed pattern stands before the one that is looked for. -/
def malformedFirst : Dataset where
  patterns := [.ofPattern "(", .ofPattern "Bot"]
  version := defaultVersion

theorem searchable_malformedFirst : malformedFirst.Searchable := by
  intro bot hb
  simp only [malformedFirst, List.mem_cons, List.not_mem_nil, or_false] at hb
  rcases hb with rfl | rfl <;> cbv

end Dataset

namespace Client

/-- The engine remembers nothing of another dataset than the one in force. -/
def IsFaithful (c : Client τ) : Prop := c.engine.Faithful c.snapshot

omit [TimeScale τ] in
theorem isFaithful_course : Course fun c c' : Client τ => c.IsFaithful → c'.IsFaithful where
  refl _ h := h
  trans h h' hc := h' (h hc)
  detect _ userAgent referrer h := Engine.detect_faithful h userAgent referrer
  detectBot _ userAgent h := Engine.detectBot_faithful h userAgent
  install _ d h := Engine.Faithful.install h d
  mark _ _ h := h
  sync _ _ h := h
  report _ _ h := h

theorem IsNew.memo {c : Client τ} (h : c.IsNew) : c.engine.memo = none := by
  obtain ⟨settings, snapshot, lastSync, rfl⟩ := h.fresh
  rfl

omit [TimeScale τ] in
theorem detect_of_searchable {c : Client τ} (h : c.IsFaithful) {userAgent : String}
    (referrer : String) (hs : userAgent = "" ∨ c.snapshot.dataset.Searchable) :
    (c.detect userAgent referrer).2.2 = .ok (c.snapshot.dataset.detection userAgent referrer) := by
  simp only [detect, ofOutcome, Engine.detect_of_searchable h referrer hs, Except.mapError]

omit [TimeScale τ] in
theorem detectBot_of_searchable {c : Client τ} (h : c.IsFaithful) {userAgent : String}
    (hs : userAgent = "" ∨ c.snapshot.dataset.Searchable) :
    (c.detectBot userAgent).2.2 = .ok (c.snapshot.dataset.agentDetection userAgent) := by
  simp only [detectBot, ofOutcome, Engine.detectBot_of_searchable h hs, Except.mapError]

omit [TimeScale τ] in
/-- The first pattern that can neither be searched for nor skipped interrupts every search, and the
client is what it was before. -/
theorem detect_of_not_searchable {c : Client τ} (h : c.IsFaithful) {userAgent : String}
    (hu : userAgent ≠ "") (hs : ¬ c.snapshot.dataset.Searchable) :
    ∃ before bot after refusal, c.snapshot.dataset.patterns = before ++ bot :: after
      ∧ (∀ b ∈ before, b.isSearchable = true)
      ∧ Pattern.ofString bot.pattern = .error refusal ∧ refusal.isMalformed = false
      ∧ ((c.detectBot userAgent).1 = c ∧ (c.detectBot userAgent).2.2 = .error (.pattern refusal))
      ∧ ∀ referrer, (c.detect userAgent referrer).1 = c
        ∧ (c.detect userAgent referrer).2.2 = .error (.pattern refusal) := by
  obtain ⟨before, bot, after, refusal, hl, hb, hr, hm, hc⟩ := Engine.compileAll_eq_error hs
  obtain ⟨hres, heng⟩ := Engine.detectBot_of_error h hu hc
  refine ⟨before, bot, after, refusal, hl, hb, hr, hm, ⟨?_, ?_⟩, fun referrer => ⟨?_, ?_⟩⟩
  · simp only [detectBot, ofOutcome, heng]
  · simp only [detectBot, ofOutcome, hres, Except.mapError]
  · simp only [detect, ofOutcome, Engine.detect_of_error hres, heng]
  · simp only [detect, ofOutcome, Engine.detect_of_error hres, hres, Except.mapError]

end Client

namespace Host

theorem faithful_run {h : Host τ} (hnew : ∀ i c, h.client? i = some c → c.engine.memo = none)
    (actions : List (Action τ)) : ∀ i c, (h.run actions).client? i = some c → c.IsFaithful :=
  forall_client_run Client.isFaithful_course
    (fun _ hn => Engine.faithful_of_memo_none hn.memo)
    (fun i c hc => Engine.faithful_of_memo_none (hnew i c hc)) actions

theorem act_detect {h : Host τ} {c : Client τ} (hc : h.client? h.current = some c)
    (userAgent referrer : String) : (h.act (.detect userAgent referrer)).2
      = (c.detect userAgent referrer).2.2.map .detection := by
  simp only [act, perform, letClient, hc]

theorem act_detectBot {h : Host τ} {c : Client τ} (hc : h.client? h.current = some c)
    (userAgent : String) : (h.act (.detectBot userAgent)).2
      = (c.detectBot userAgent).2.2.map .detection := by
  simp only [act, perform, letClient, hc]

theorem act_detectReferrer {h : Host τ} {c : Client τ} (hc : h.client? h.current = some c)
    (referrer : String) : (h.act (.detectReferrer referrer)).2
      = .ok (.detection (c.detectReferrer referrer)) := by
  simp only [act, perform, askClient, hc, Option.map_some, Option.getD_some]

/-- A host whose only client has a dataset, and no key. -/
def ofDataset (dataset : Dataset) : Host Micros where
  clock := ⟨0⟩
  clients := [{ settings := {}, snapshot := { dataset }, lastSync := ⟨0⟩ }]

theorem memo_ofDataset (dataset : Dataset) (i : Nat) (c : Client Micros)
    (hc : (ofDataset dataset).client? i = some c) : c.engine.memo = none := by
  have hmem := List.mem_of_getElem? hc
  simp only [ofDataset, List.mem_singleton] at hmem
  rw [hmem]

/-- After any run a client detects by the user agent if and only if each pattern of its dataset
compiles or is malformed, and then it skips the malformed ones. Otherwise the first pattern that is
refused for another reason interrupts it, now and whenever it is asked again. -/
theorem detect_ok_iff_searchable (h : Host τ)
    (hnew : ∀ i c, h.client? i = some c → c.engine.memo = none) (actions : List (Action τ))
    {i : Nat} {c : Client τ} (hc : (h.run actions).client? i = some c)
    (userAgent referrer : String) :
    (∀ d, (c.detect userAgent referrer).2.2 = .ok d
        ↔ (userAgent = "" ∨ c.snapshot.dataset.Searchable)
          ∧ d = c.snapshot.dataset.detection userAgent referrer)
      ∧ (∀ d, (c.detectBot userAgent).2.2 = .ok d
        ↔ (userAgent = "" ∨ c.snapshot.dataset.Searchable)
          ∧ d = c.snapshot.dataset.agentDetection userAgent)
      ∧ c.detectReferrer referrer = c.snapshot.dataset.hostDetection referrer
      ∧ (userAgent ≠ "" → ¬ c.snapshot.dataset.Searchable →
        ∃ before bot after refusal, c.snapshot.dataset.patterns = before ++ bot :: after
          ∧ (∀ b ∈ before, b.isSearchable = true)
          ∧ Pattern.ofString bot.pattern = .error refusal ∧ refusal.isMalformed = false
          ∧ ((c.detectBot userAgent).1 = c
            ∧ (c.detectBot userAgent).2.2 = .error (.pattern refusal))
          ∧ ∀ referrer, (c.detect userAgent referrer).1 = c
            ∧ (c.detect userAgent referrer).2.2 = .error (.pattern refusal)) := by
  have hf := faithful_run hnew actions i c hc
  refine ⟨?_, ?_, Engine.detectReferrer_eq _ _, Client.detect_of_not_searchable hf⟩
  · intro d
    by_cases hs : userAgent = "" ∨ c.snapshot.dataset.Searchable
    · rw [Client.detect_of_searchable hf referrer hs, Except.ok.injEq]
      exact ⟨fun hd => ⟨hs, hd.symm⟩, fun hd => hd.2.symm⟩
    · obtain ⟨hu, hn⟩ := not_or.1 hs
      obtain ⟨_, _, _, _, -, -, -, -, -, hd⟩ := Client.detect_of_not_searchable hf hu hn
      rw [(hd referrer).2]
      exact ⟨fun hd => absurd hd (by simp), fun hd => absurd hd.1 hs⟩
  · intro d
    by_cases hs : userAgent = "" ∨ c.snapshot.dataset.Searchable
    · rw [Client.detectBot_of_searchable hf hs, Except.ok.injEq]
      exact ⟨fun hd => ⟨hs, hd.symm⟩, fun hd => hd.2.symm⟩
    · obtain ⟨hu, hn⟩ := not_or.1 hs
      obtain ⟨_, _, _, _, -, -, -, -, hb, -⟩ := Client.detect_of_not_searchable hf hu hn
      rw [hb.2]
      exact ⟨fun hd => absurd hd (by simp), fun hd => absurd hd.1 hs⟩

/-- A pattern that is refused for its count interrupts a detection, and the next one too. -/
theorem detect_interrupted_again :
    (∀ i c, (ofDataset .tooOften).client? i = some c → c.engine.memo = none)
      ∧ ∃ c, ((ofDataset .tooOften).run [.detect "GPTBot/1.2" ""]).client? 0 = some c
        ∧ ∀ referrer d, (c.detect "GPTBot/1.2" referrer).2.2 ≠ .ok d := by
  obtain ⟨c, hc, hs⟩ := Option.map_eq_some_iff.1
    (show (((ofDataset .tooOften).run [.detect "GPTBot/1.2" ""]).client? 0).map (·.snapshot)
      = some { dataset := .tooOften } from rfl)
  have hn : ¬ c.snapshot.dataset.Searchable := by
    rw [hs]
    exact Dataset.not_searchable_tooOften
  refine ⟨memo_ofDataset _, c, hc, fun referrer d hd => ?_⟩
  have hok := (detect_ok_iff_searchable (ofDataset .tooOften) (memo_ofDataset _) _ hc
    "GPTBot/1.2" referrer).1 d
  exact absurd (hok.1 hd).1 (not_or.2 ⟨by decide, hn⟩)

/-- A pattern that would hit stands behind one that is refused for its count, and is not reached. -/
theorem detect_stops_at_count :
    BotPattern.hits (.ofPattern "Bot") "GPTBot/1.2" = true
      ∧ (Engine.detect {} { dataset := Dataset.tooOften } "GPTBot/1.2" "").result
        = .error .countTooLarge :=
  ⟨by cbv, by cbv⟩

/-- Whatever a host has been through, a client of it detects what the dataset in force says: the
first bot of the dataset whose pattern compiles and occurs in the user agent, and if there is none
the first AI product with a pattern that occurs in the host of the referrer. -/
theorem detect_eq_dataset_detection (h : Host τ)
    (hnew : ∀ i c, h.client? i = some c → c.engine.memo = none) (actions : List (Action τ))
    {c : Client τ} (hc : (h.run actions).client? (h.run actions).current = some c)
    (hs : c.snapshot.dataset.Searchable) (userAgent referrer : String) :
    ((h.run actions).act (.detect userAgent referrer)).2
        = .ok (.detection (c.snapshot.dataset.detection userAgent referrer))
      ∧ ((h.run actions).act (.detectBot userAgent)).2
        = .ok (.detection (c.snapshot.dataset.agentDetection userAgent))
      ∧ ((h.run actions).act (.detectReferrer referrer)).2
        = .ok (.detection (c.snapshot.dataset.hostDetection referrer))
      ∧ ((c.snapshot.dataset.agentDetection userAgent).detected = true →
        c.snapshot.dataset.detection userAgent referrer
          = c.snapshot.dataset.agentDetection userAgent)
      ∧ ((c.snapshot.dataset.agentDetection userAgent).detected = false →
        c.snapshot.dataset.detection userAgent referrer
          = c.snapshot.dataset.hostDetection referrer) := by
  have hf := faithful_run hnew actions _ c hc
  refine ⟨?_, ?_, ?_, fun hd => ?_, fun hd => ?_⟩
  · rw [act_detect hc, Client.detect_of_searchable hf referrer (.inr hs)]
    rfl
  · rw [act_detectBot hc, Client.detectBot_of_searchable hf (.inr hs)]
    rfl
  · rw [act_detectReferrer hc, Client.detectReferrer, Engine.detectReferrer_eq]
  · rw [Dataset.detection, if_pos hd]
  · rw [Dataset.detection, if_neg (by simp [hd])]

/-- The pattern behind a malformed one, by what the engine remembers from the call before. -/
theorem detect_behind_malformed :
    (∀ i c, (ofDataset .malformedFirst).client? i = some c → c.engine.memo = none)
      ∧ ∃ c, ((ofDataset .malformedFirst).run [.detect "curl" "", .sync false]).client? 0 = some c
        ∧ c.snapshot.dataset.Searchable
        ∧ (((ofDataset .malformedFirst).run [.detect "curl" "", .sync false]).act
            (.detect "GPTBot/1.2" "")).2
          = .ok (.detection (.bot (.ofPattern "Bot") false (some (Text.ofString "Bot")))) := by
  obtain ⟨c, hc, hsnap⟩ := Option.map_eq_some_iff.1
    (show (((ofDataset .malformedFirst).run [.detect "curl" "", .sync false]).client? 0).map
      (·.snapshot) = some { dataset := .malformedFirst } from rfl)
  have hs : c.snapshot.dataset.Searchable := by
    rw [hsnap]
    exact Dataset.searchable_malformedFirst
  refine ⟨memo_ofDataset _, c, hc, hs, ?_⟩
  rw [(detect_eq_dataset_detection (ofDataset .malformedFirst) (memo_ofDataset _) _ hc hs
    "GPTBot/1.2" "").1, hsnap]
  have hd : Dataset.malformedFirst.detection "GPTBot/1.2" ""
      = .bot (.ofPattern "Bot") false (some (Text.ofString "Bot")) := by cbv
  rw [hd]

end Host

end BotSentry
