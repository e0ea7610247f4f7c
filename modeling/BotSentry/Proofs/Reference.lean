import BotSentry.Detection.Engine
import Mathlib.Data.List.Infix

/-!
# Detection by the dataset alone

What a dataset makes of a request if every pattern is compiled anew: `Dataset.detection`, the first
bot whose pattern compiles and occurs in the user agent, and otherwise the first AI product with a
pattern in the host of the referrer.

Compiling a whole dataset gives up at the first pattern that is refused for another reason than a
malformed text (`compileAll_eq_error`). A dataset without such a pattern is `Searchable`: it
compiles to one entry for each pattern, missing where the pattern is malformed (`compileAll_eq_ok`),
and the search among these entries finds the bot that the search in the dataset finds
(`firstBot_map_compiled?`).
-/

namespace BotSentry

/-- The pattern is malformed; any other refusal is no fault of its text. -/
def Pattern.Refusal.isMalformed : Pattern.Refusal → Bool
  | .malformed .. => true
  | _ => false

namespace BotPattern

/-- The search pattern of a bot, if it compiles. -/
def compiled? (bot : BotPattern) : Option Pattern := (Pattern.ofString bot.pattern).toOption

/-- The pattern compiles and occurs in the user agent. -/
def hits (bot : BotPattern) (userAgent : String) : Bool :=
  bot.compiled?.any (·.occursIn userAgent)

/-- The pattern compiles, or is malformed and can be skipped. -/
def isSearchable (bot : BotPattern) : Bool :=
  match Pattern.ofString bot.pattern with
  | .ok _ => true
  | .error refusal => refusal.isMalformed

end BotPattern

namespace Dataset

/-- Every pattern can be searched for or skipped. -/
def Searchable (d : Dataset) : Prop := ∀ bot ∈ d.patterns, bot.isSearchable = true

instance (d : Dataset) : Decidable d.Searchable :=
  inferInstanceAs (Decidable (∀ bot ∈ d.patterns, bot.isSearchable = true))

/-- The patterns of AI products, each with its product, in the order of the dataset. -/
def hostPatterns (d : Dataset) : List (AiReferrer × Text) :=
  d.referrers.flatMap fun r => r.patterns.map (r, ·)

/-- What a user agent says. -/
def agentDetection (d : Dataset) (userAgent : String) : Detection :=
  if userAgent = "" then .none
  else match d.patterns.find? (·.hits userAgent) with
    | none => .none
    | some bot => .bot bot (d.rules.blocksBot bot) (some (Text.ofString bot.pattern))

/-- What a referrer says. -/
def hostDetection (d : Dataset) (referrer : String) : Detection :=
  if referrer = "" then .none
  else match d.hostPatterns.find? fun (_, p) =>
      p ≠ [] ∧ p <:+: Text.ofString (referrerHost referrer) with
    | none => .none
    | some (r, p) => .referrer r (some p)

/-- What a request says: its referrer counts only where its user agent says nothing. -/
def detection (d : Dataset) (userAgent referrer : String) : Detection :=
  if (d.agentDetection userAgent).detected then d.agentDetection userAgent
  else d.hostDetection referrer

end Dataset

theorem Text.occursIn_iff {needle : Text} :
    ∀ {hay : Text}, Text.occursIn needle hay = true ↔ needle <:+: hay
  | [] => by simp [Text.occursIn]
  | c :: rest => by
    rw [Text.occursIn, Bool.or_eq_true, List.isPrefixOf_iff_prefix, Text.occursIn_iff,
      List.infix_cons_iff]

namespace Engine

/-! ## Compiling a dataset -/

section Compiling

variable {bots : List BotPattern}

theorem compileAll_cons_searchable {bot : BotPattern} (h : bot.isSearchable = true) :
    (compileAll (bot :: bots)).2 = (compileAll bots).2.map (bot.compiled? :: ·) := by
  unfold BotPattern.isSearchable at h
  unfold BotPattern.compiled?
  rw [compileAll]
  rcases hp : Pattern.ofString bot.pattern with refusal | compiled
  · rw [hp] at h
    cases refusal with
    | malformed fault position => rfl
    | countTooLarge => simp [Pattern.Refusal.isMalformed] at h
    | numberTooLong digits => simp [Pattern.Refusal.isMalformed] at h
    | asciiAndUnicode => simp [Pattern.Refusal.isMalformed] at h
  · rfl

theorem compileAll_cons_not_searchable {bot : BotPattern} (h : bot.isSearchable = false)
    (bots : List BotPattern) : ∃ refusal, Pattern.ofString bot.pattern = .error refusal
      ∧ refusal.isMalformed = false ∧ compileAll (bot :: bots) = ([], .error refusal) := by
  unfold BotPattern.isSearchable at h
  rw [compileAll]
  rcases hp : Pattern.ofString bot.pattern with refusal | compiled
  · rw [hp] at h
    refine ⟨refusal, rfl, h, ?_⟩
    cases refusal with
    | malformed fault position => simp [Pattern.Refusal.isMalformed] at h
    | countTooLarge => rfl
    | numberTooLong digits => rfl
    | asciiAndUnicode => rfl
  · rw [hp] at h
    simp at h

/-- A dataset is compiled entry by entry, so that the entries stay in line with its patterns. -/
theorem compileAll_eq_ok (h : ∀ bot ∈ bots, bot.isSearchable = true) :
    (compileAll bots).2 = .ok (bots.map (·.compiled?)) := by
  induction bots with
  | nil => rfl
  | cons bot bots ih =>
    rw [compileAll_cons_searchable (h bot List.mem_cons_self),
      ih fun b hb => h b (List.mem_cons_of_mem _ hb)]
    rfl

/-- Compiling ends with the first pattern that can neither be searched for nor skipped. -/
theorem compileAll_eq_error (h : ¬ ∀ bot ∈ bots, bot.isSearchable = true) :
    ∃ before bot after refusal, bots = before ++ bot :: after
      ∧ (∀ b ∈ before, b.isSearchable = true)
      ∧ Pattern.ofString bot.pattern = .error refusal ∧ refusal.isMalformed = false
      ∧ (compileAll bots).2 = .error refusal := by
  induction bots with
  | nil => exact absurd (fun _ hb => absurd hb List.not_mem_nil) h
  | cons bot bots ih =>
    rcases hb : bot.isSearchable with _ | _
    · obtain ⟨refusal, hr, hm, hc⟩ := compileAll_cons_not_searchable hb bots
      exact ⟨[], bot, bots, refusal, rfl, by simp, hr, hm, by rw [hc]⟩
    · have hrest : ¬ ∀ b ∈ bots, b.isSearchable = true := fun hall =>
        h fun b hmem => (List.mem_cons.1 hmem).elim (fun he => he ▸ hb) (hall b)
      obtain ⟨before, stop, after, refusal, hl, hs, hr, hm, hc⟩ := ih hrest
      refine ⟨bot :: before, stop, after, refusal, by rw [hl]; rfl, ?_, hr, hm, ?_⟩
      · intro b hmem
        rcases List.mem_cons.1 hmem with rfl | hmem
        · exact hb
        · exact hs b hmem
      · rw [compileAll_cons_searchable hb, hc]
        rfl

end Compiling

/-! ## Searching -/

theorem firstBot_map_compiled? (userAgent : String) : ∀ bots : List BotPattern,
    firstBot userAgent bots (bots.map (·.compiled?)) = bots.find? (·.hits userAgent)
  | [] => rfl
  | bot :: bots => by
    rw [List.map_cons, firstBot, firstBot_map_compiled? userAgent bots]
    rcases hb : bot.hits userAgent with _ | _
    · rw [List.find?_cons_of_neg (by simp [hb])]
      exact if_neg (by rw [← BotPattern.hits, hb]; simp)
    · rw [List.find?_cons_of_pos (by simp [hb])]
      exact if_pos hb

theorem detectReferrer_eq (snapshot : Snapshot) (referrer : String) :
    detectReferrer snapshot referrer = snapshot.dataset.hostDetection referrer := by
  unfold detectReferrer Dataset.hostDetection
  by_cases hr : referrer = ""
  · rw [if_pos hr, if_pos (by rw [hr]; rfl)]
  · rw [if_neg hr, if_neg (by simpa using hr)]
    unfold referrerDetection Dataset.hostPatterns
    rw [List.find?_flatMap]
    have hpattern : ∀ r : AiReferrer,
        (r.patterns.map (r, ·)).find? (fun (_, p) =>
            decide (p ≠ [] ∧ p <:+: Text.ofString (referrerHost referrer)))
          = (firstHostPattern (Text.ofString (referrerHost referrer)) r).map (r, ·) := by
      intro r
      rw [List.find?_map, firstHostPattern]
      congr 2
      funext p
      rw [Bool.eq_iff_iff]
      simp [Text.occursIn_iff]
    simp only [hpattern]
    induction snapshot.dataset.referrers with
    | nil => rfl
    | cons r rest ih =>
      simp only [List.findSome?_cons]
      rcases firstHostPattern (Text.ofString (referrerHost referrer)) r with _ | p
      · exact ih
      · rfl

end Engine

end BotSentry
