import BotSentry.Proofs.Detections

/-!
# Malformed patterns are reported once

An engine reports the malformed patterns of a dataset when it compiles it, and it compiles a dataset
when a user agent is first searched for its patterns. What it then remembers has the number of the
snapshot, under which nothing was kept before (`Engine.Faithful`), so that a dataset that comes into
force is `Unread` and the first search makes it read (`Watch.step_of_unread`). Calls that do not
search, and all calls after the first search, report nothing, whatever they find. In the log of a
run the warnings of a dataset therefore stand in one place (`Watch.warned_once`).
-/

namespace BotSentry

/-- What is reported of a malformed pattern. -/
def BotPattern.warning? (bot : BotPattern) : Option Notice :=
  match Pattern.ofString bot.pattern with
  | .error (.malformed fault position) =>
    some (.badPattern bot.pattern (fault.describe bot.pattern.toList position))
  | _ => none

/-- A warning for each malformed pattern, in the order of the dataset. -/
def Dataset.warnings (d : Dataset) : List Notice := d.patterns.filterMap (·.warning?)

theorem BotPattern.warning?_cases {bot : BotPattern} (h : bot.isSearchable = true) :
    (bot.compiled?.isNone = false ∧ bot.warning? = none)
      ∨ bot.compiled?.isNone = true
        ∧ ∃ reason, bot.warning? = some (.badPattern bot.pattern reason) := by
  unfold isSearchable at h
  unfold compiled? warning?
  rcases hp : Pattern.ofString bot.pattern with refusal | compiled
  · rw [hp] at h
    cases refusal with
    | malformed fault position => exact .inr ⟨rfl, _, rfl⟩
    | countTooLarge | numberTooLong | asciiAndUnicode => cases h
  · exact .inl ⟨rfl, rfl⟩

/-- There is one warning for each pattern that does not compile, with its text. -/
theorem Dataset.Searchable.warnings {d : Dataset} (h : d.Searchable) :
    List.Forall₂ (fun bot notice => ∃ reason, notice = Notice.badPattern bot.pattern reason)
      (d.patterns.filter (·.compiled?.isNone)) d.warnings := by
  unfold Searchable at h
  unfold Dataset.warnings
  generalize d.patterns = bots at h ⊢
  induction bots with
  | nil => exact .nil
  | cons bot bots ih =>
    obtain ⟨hbot, hbots⟩ := List.forall_mem_cons.1 h
    rcases BotPattern.warning?_cases hbot with ⟨hc, hw⟩ | ⟨hc, reason, hw⟩
    · rw [List.filter_cons, hc, if_neg Bool.false_ne_true, List.filterMap_cons_none hw]
      exact ih hbots
    · rw [List.filter_cons, if_pos hc, List.filterMap_cons_some hw]
      exact .cons ⟨reason, rfl⟩ (ih hbots)

namespace Engine

theorem compileAll_notices {bots : List BotPattern} (h : ∀ bot ∈ bots, bot.isSearchable = true) :
    (compileAll bots).1 = bots.filterMap (·.warning?) := by
  induction bots with
  | nil => rfl
  | cons bot bots ih =>
    obtain ⟨hbot, hbots⟩ := List.forall_mem_cons.1 h
    unfold BotPattern.isSearchable at hbot
    rw [compileAll, List.filterMap_cons, ← ih hbots, BotPattern.warning?]
    rcases hp : Pattern.ofString bot.pattern with refusal | compiled
    · rw [hp] at hbot
      cases refusal with
      | malformed fault position => rfl
      | countTooLarge | numberTooLong | asciiAndUnicode => cases hbot
    · rfl

/-- What an engine is asked: to detect in both ways, or in one of them. -/
inductive Call where
  | detect (userAgent referrer : String)
  | detectBot (userAgent : String)
  | detectReferrer (referrer : String)

namespace Call

/-- The user agent that is searched for patterns. -/
def agent : Call → String
  | detect userAgent _ => userAgent
  | detectBot userAgent => userAgent
  | detectReferrer _ => ""

/-- The engine after a call, and what the call reports. -/
def perform (engine : Engine) (snapshot : Snapshot) : Call → Engine × List Notice
  | detect userAgent referrer =>
    let outcome := engine.detect snapshot userAgent referrer
    (outcome.engine, outcome.notices)
  | detectBot userAgent =>
    let outcome := engine.detectBot snapshot userAgent
    (outcome.engine, outcome.notices)
  | detectReferrer _ => (engine, [])

/-- Nothing but the search in the user agent is reported or remembered. -/
theorem perform_eq (engine : Engine) (snapshot : Snapshot) (c : Call) :
    c.perform engine snapshot = ((engine.detectBot snapshot c.agent).engine,
      (engine.detectBot snapshot c.agent).notices) := by
  cases c with
  | detect userAgent referrer =>
    refine Prod.ext (detect_engine ..) ?_
    simp only [perform, Engine.detect]
    split <;> rfl
  | detectBot userAgent => rfl
  | detectReferrer referrer => rfl

end Call

end Engine

/-! ## Runs -/

/-- An engine, and the snapshot in force. -/
structure Watch where
  engine : Engine := {}
  snapshot : Snapshot

namespace Watch

/-- The engine is asked something, or a new dataset comes into force. -/
inductive Event where
  | call (c : Engine.Call)
  | install (d : Dataset)

def step (w : Watch) : Event → Watch × List Notice
  | .call c =>
    let (engine, notices) := c.perform w.engine w.snapshot
    ({ w with engine }, notices)
  | .install d => ({ w with snapshot := w.snapshot.install d }, [])

def run (w : Watch) (events : List Event) : Watch := events.foldl (fun w e => (w.step e).1) w

/-- What each event reports. -/
def log (w : Watch) : List Event → List (List Notice)
  | [] => []
  | e :: events => (w.step e).2 :: (w.step e).1.log events

/-- The engine remembers nothing of the snapshot in force. -/
def Unread (w : Watch) : Prop :=
  ∀ patterns, w.engine.memo ≠ some (w.snapshot.generation, patterns)

theorem run_append (w : Watch) (events more : List Event) :
    w.run (events ++ more) = (w.run events).run more := List.foldl_append

theorem log_append (w : Watch) (events more : List Event) :
    w.log (events ++ more) = w.log events ++ (w.run events).log more := by
  induction events generalizing w with
  | nil => rfl
  | cons e events ih => exact congrArg _ (ih _)

theorem step_faithful {w : Watch} (h : w.engine.Faithful w.snapshot) (e : Event) :
    (w.step e).1.engine.Faithful (w.step e).1.snapshot := by
  cases e with
  | call c =>
    simp only [step, Engine.Call.perform_eq]
    exact Engine.detectBot_faithful h c.agent
  | install d => exact h.install d

theorem run_faithful {w : Watch} (h : w.engine.Faithful w.snapshot) (events : List Event) :
    (w.run events).engine.Faithful (w.run events).snapshot := by
  induction events generalizing w with
  | nil => exact h
  | cons e events ih => exact ih (step_faithful h e)

/-- What comes into force has a number under which nothing is kept. -/
theorem unread_install {w : Watch} (h : w.engine.Faithful w.snapshot) (d : Dataset) :
    (w.step (.install d)).1.Unread := by
  intro patterns hm
  have hle := (h _ _ hm).1
  exact absurd hle (Nat.not_succ_le_self _)

theorem step_of_agent_empty {w : Watch} {c : Engine.Call} (hc : c.agent = "") :
    w.step (.call c) = (w, []) := by
  simp only [step, Engine.Call.perform_eq, hc]
  rfl

section Search

variable {w : Watch} {c : Engine.Call}

theorem step_of_agent (hc : c.agent ≠ "") : w.step (.call c)
    = ({ w with engine := (w.engine.compiled w.snapshot).1 },
        (w.engine.compiled w.snapshot).2.1) := by
  simp only [step, Engine.Call.perform_eq, Engine.detectBot]
  rw [if_neg (by simpa using hc)]

/-- The first search reports all malformed patterns, and reads the dataset. -/
theorem step_of_unread (hu : w.Unread) (hs : w.snapshot.dataset.Searchable) (hc : c.agent ≠ "") :
    (w.step (.call c)).2 = w.snapshot.dataset.warnings ∧ ¬ (w.step (.call c)).1.Unread := by
  rw [step_of_agent hc]
  have hnotices := Engine.compileAll_notices hs
  rcases Engine.compiled_anew hu with ⟨patterns, -, he⟩ | ⟨refusal, hc, -⟩
  · rw [he]
    exact ⟨hnotices, fun hu => hu patterns rfl⟩
  · rw [Engine.compileAll_eq_ok hs] at hc
    cases hc

/-- What has been read is not reported again. -/
theorem step_of_not_unread (hr : ¬ w.Unread) : w.step (.call c) = (w, []) := by
  by_cases hc : c.agent = ""
  · exact step_of_agent_empty hc
  · obtain ⟨patterns, hm⟩ := not_forall_not.1 hr
    rw [step_of_agent hc, Engine.compiled_of_kept hm]

end Search

theorem log_of_not_unread {w : Watch} (hr : ¬ w.Unread) (calls : List Engine.Call) :
    w.log (calls.map .call) = calls.map fun _ => [] := by
  induction calls with
  | nil => rfl
  | cons c calls ih =>
    rw [List.map_cons, log, step_of_not_unread hr, ih]
    rfl

theorem log_of_agents_empty {w : Watch} {calls : List Engine.Call}
    (hcalls : ∀ c ∈ calls, c.agent = "") (more : List Event) :
    w.log (calls.map .call ++ more) = (calls.map fun _ => []) ++ w.log more := by
  induction calls with
  | nil => rfl
  | cons c calls ih =>
    obtain ⟨hc, hcalls⟩ := List.forall_mem_cons.1 hcalls
    rw [List.map_cons, List.cons_append, log, step_of_agent_empty hc, ih hcalls]
    rfl

/-- In the log of a watch that has not read its dataset, its warnings stand at the first search. -/
theorem log_of_unread {w : Watch} (hu : w.Unread) (hs : w.snapshot.dataset.Searchable)
    {quiet rest : List Engine.Call} {first : Engine.Call} (hquiet : ∀ c ∈ quiet, c.agent = "")
    (hfirst : first.agent ≠ "") : w.log ((quiet ++ first :: rest).map .call)
      = (quiet.map fun _ => []) ++ w.snapshot.dataset.warnings :: rest.map fun _ => [] := by
  obtain ⟨hwarned, hread⟩ := step_of_unread hu hs hfirst
  rw [List.map_append, log_of_agents_empty hquiet, List.map_cons, log, hwarned,
    log_of_not_unread hread]

/-- A dataset comes into force with the last of some events, or is in force from the start. -/
def ComesIntoForce (snapshot : Snapshot) (d : Dataset) (before : List Event) : Prop :=
  before = [] ∧ d = snapshot.dataset ∨ ∃ earlier, before = earlier ++ [.install d]

theorem unread_of_comesIntoForce {snapshot : Snapshot} {d : Dataset} {before : List Event}
    (h : ComesIntoForce snapshot d before) :
    (run { snapshot } before).Unread ∧ (run { snapshot } before).snapshot.dataset = d := by
  rcases h with ⟨rfl, rfl⟩ | ⟨earlier, rfl⟩
  · refine ⟨fun patterns hm => ?_, rfl⟩
    cases hm
  · rw [run_append]
    have hnew : ({ snapshot } : Watch).engine.Faithful snapshot :=
      Engine.faithful_of_memo_none rfl
    exact ⟨unread_install (run_faithful hnew earlier) d, rfl⟩

/-- In the course of any run of a new engine, each time a dataset comes into force whose patterns
compile or are malformed, the first call after it that searches a user agent reports its malformed
patterns, one by one in their order, and no other call reports anything until the next dataset comes
into force. -/
theorem warned_once (snapshot : Snapshot) {d : Dataset} (hs : d.Searchable) {before : List Event}
    (hforce : ComesIntoForce snapshot d before) (calls : List Engine.Call) (after : List Event) :
    List.Forall₂ (fun bot notice => ∃ reason, notice = Notice.badPattern bot.pattern reason)
        (d.patterns.filter (·.compiled?.isNone)) d.warnings
      ∧ ∃ period, log { snapshot } (before ++ calls.map .call ++ after)
          = log { snapshot } before ++ period
            ++ (run { snapshot } (before ++ calls.map .call)).log after
        ∧ ((∀ c ∈ calls, c.agent = "") → period = calls.map fun _ => [])
        ∧ ∀ quiet first rest, calls = quiet ++ first :: rest → (∀ c ∈ quiet, c.agent = "") →
          first.agent ≠ "" →
          period = (quiet.map fun _ => []) ++ d.warnings :: rest.map fun _ => [] := by
  obtain ⟨hunread, rfl⟩ := unread_of_comesIntoForce hforce
  have hlog : log { snapshot } (before ++ calls.map .call ++ after)
      = log { snapshot } before ++ (run { snapshot } before).log (calls.map .call)
        ++ (run { snapshot } (before ++ calls.map .call)).log after := by
    rw [log_append, log_append]
  refine ⟨hs.warnings, _, hlog, fun hquiet => ?_, ?_⟩
  · have hcalls := log_of_agents_empty (w := run { snapshot } before) hquiet []
    rwa [List.append_nil, log, List.append_nil] at hcalls
  · rintro quiet first rest rfl hquiet hfirst
    exact log_of_unread hunread hs hquiet hfirst

/-- A dataset with a malformed pattern is installed after a search by another dataset. -/
def replaced : List Event := [.call (.detectBot "curl"), .install .malformedFirst]

/-- The second call is the first that searches a user agent. -/
def questions : List Engine.Call :=
  [.detect "" "https://claude.ai/", .detectBot "curl", .detect "GPTBot/1.2" ""]

theorem warnings_malformedFirst : Dataset.malformedFirst.warnings
    = [.badPattern "(" "missing ), unterminated subpattern at position 0"] := by
  have hread : Pattern.ofString "(" = .error (.malformed .unterminatedGroup (some 0)) := by cbv
  have htext : Pattern.Fault.unterminatedGroup.describe "(".toList (some 0)
      = "missing ), unterminated subpattern at position 0" := by decide
  have hbad : (BotPattern.ofPattern "(").warning?
      = some (.badPattern "(" "missing ), unterminated subpattern at position 0") := by
    rw [← htext, BotPattern.warning?, show (BotPattern.ofPattern "(").pattern = "(" from rfl, hread]
  have hgood : (BotPattern.ofPattern "Bot").warning? = none := by cbv
  rw [Dataset.warnings, Dataset.malformedFirst, List.filterMap_cons_some hbad,
    List.filterMap_cons_none hgood, List.filterMap_nil]

theorem warned_once_malformedFirst : Dataset.malformedFirst.Searchable
    ∧ ComesIntoForce { dataset := .bootstrap } .malformedFirst replaced
    ∧ log { snapshot := { dataset := .bootstrap } }
        (replaced ++ questions.map .call ++ [.install .bootstrap])
      = log { snapshot := { dataset := .bootstrap } } replaced
        ++ [[], [.badPattern "(" "missing ), unterminated subpattern at position 0"], []]
        ++ [[]] := by
  have hforce : ComesIntoForce { dataset := .bootstrap } .malformedFirst replaced :=
    .inr ⟨[.call (.detectBot "curl")], rfl⟩
  obtain ⟨-, period, hlog, -, hsearch⟩ := warned_once { dataset := .bootstrap }
    Dataset.searchable_malformedFirst hforce questions [.install .bootstrap]
  have hperiod := hsearch [.detect "" "https://claude.ai/"] (.detectBot "curl")
    [.detect "GPTBot/1.2" ""] rfl (by simp [Engine.Call.agent]) (by simp [Engine.Call.agent])
  rw [warnings_malformedFirst] at hperiod
  rw [hperiod] at hlog
  exact ⟨Dataset.searchable_malformedFirst, hforce, hlog⟩

end Watch

end BotSentry
