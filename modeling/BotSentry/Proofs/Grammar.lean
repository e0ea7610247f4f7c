import BotSentry.Proofs.Checks
import BotSentry.Sync.Receipt

/-!
# The grammar of an answer

Which decoded answers are datasets is said here without the check: what the fields of a bot pattern, of a
referrer, of the rules and of a whole answer have to be (`Payload.Fits`), and the dataset that they then
stand for (`Dataset.ofGiven`). Exactly these answers are accepted, as these datasets, and every other one
is malformed.
-/

namespace BotSentry

open Schema Json

/-! ## What fields have to be -/

/-- Only the pattern has to be there, and has to do without surrogates. -/
@[mk_iff]
structure BotPattern.Fits (fields : Fields) : Prop where
  pattern : ∃ v, field? fields "pattern" = some v ∧ v.IsSomeString
  texts : ∀ name ∈ ["type", "category", "subcategory", "company", "intent", "url"],
    ∀ v ∈ given fields name, v.IsText
  flags : ∀ name ∈ ["is_compliant", "is_ai_model_trainer"], ∀ v ∈ given fields name, v.IsAnswer

@[mk_iff]
structure AiReferrer.Fits (fields : Fields) : Prop where
  names : ∀ name ∈ ["id", "name"], ∃ v, field? fields name = some v ∧ v.IsText
  texts : ∀ name ∈ ["company", "url", "description"], ∀ v ∈ given fields name, v.IsText
  patterns : ∀ v ∈ given fields "patterns", v.IsArrayOf IsText

structure BlockRules.Fits (fields : Fields) : Prop where
  trainers : ∀ v ∈ given fields (spelling fields "blockAiModelTrainers" "block_ai_model_trainers"),
    v.IsAnswer
  blocks : ∀ v ∈ given fields (spelling fields "customBlocks" "custom_blocks"), v.IsArrayOf IsText
  allows : ∀ v ∈ given fields (spelling fields "customAllows" "custom_allows"), v.IsArrayOf IsText

structure Payload.Fits (fields : Fields) : Prop where
  patterns : ∃ l, field? fields "patterns" = some (.arr l) ∧ l ≠ []
    ∧ ∀ v ∈ l, v.IsObjectWith BotPattern.Fits
  referrers : ∀ v ∈ given fields (spelling fields "aiReferrers" "ai_referrers"),
    v.IsArrayOf (IsObjectWith AiReferrer.Fits)
  rules : ∀ v ∈ given fields (spelling fields "propertySettings" "property_settings"),
    v.IsObjectWith BlockRules.Fits
  version : ∀ v ∈ given fields "version", v.IsText

/-! ## What they stand for -/

def BotPattern.ofGiven (fields : Fields) : BotPattern where
  pattern := ((field? fields "pattern").getD .null).asString
  kind := (given fields "type").elim (Text.ofString "unknown") asText
  category := (given fields "category").elim (Text.ofString "Unknown") asText
  subcategory := (given fields "subcategory").elim (Text.ofString "Unclassified") asText
  company := (given fields "company").map asText
  isCompliant := (given fields "is_compliant").elim false asBool
  isModelTrainer := (given fields "is_ai_model_trainer").elim false asBool
  intent := (given fields "intent").elim (Text.ofString "unknown") asText
  url := (given fields "url").map asText

def AiReferrer.ofGiven (fields : Fields) : AiReferrer where
  id := ((field? fields "id").getD .null).asText
  name := ((field? fields "name").getD .null).asText
  company := (given fields "company").map asText
  url := (given fields "url").map asText
  patterns := (given fields "patterns").elim [] asTexts
  description := (given fields "description").elim [] asText

def BlockRules.ofGiven (fields : Fields) : BlockRules where
  blockModelTrainers := (given fields
    (spelling fields "blockAiModelTrainers" "block_ai_model_trainers")).elim false asBool
  blocks := (given fields (spelling fields "customBlocks" "custom_blocks")).elim .empty
    (ScopeSet.ofList ·.asTexts)
  allows := (given fields (spelling fields "customAllows" "custom_allows")).elim .empty
    (ScopeSet.ofList ·.asTexts)

/-- Patterns and referrers stay one for one, in their order. An empty version counts as none. -/
def Dataset.ofGiven (fields : Fields) (syncedAt : DateTime) : Dataset where
  patterns := ((field? fields "patterns").getD .null).elements.map (BotPattern.ofGiven ·.fields)
  referrers := ((given fields (spelling fields "aiReferrers" "ai_referrers")).map
    (·.elements.map (AiReferrer.ofGiven ·.fields))).getD []
  rules := ((given fields (spelling fields "propertySettings" "property_settings")).map
    (BlockRules.ofGiven ·.fields)).getD {}
  version := match (given fields "version").map asText with
    | none | some [] => Dataset.defaultVersion
    | some v => v
  syncedAt := some syncedAt

/-! ## The check decides it -/

theorem BotPattern.decides_ofFields (fields : Fields) :
    (BotPattern.ofFields fields).Decides (BotPattern.Fits fields) (BotPattern.ofGiven fields) := by
  refine (((((((((decides_required decides_someString fields "pattern").map BotPattern.mk).seq
    (decides_textOr _ fields "type")).seq (decides_textOr _ fields "category")).seq
    (decides_textOr _ fields "subcategory")).seq (decides_text? fields "company")).seq
    (decides_flag fields "is_compliant")).seq (decides_flag fields "is_ai_model_trainer")).seq
    (decides_textOr _ fields "intent")).seq (decides_text? fields "url") |>.congr ?_ fun _ => rfl
  simp only [BotPattern.fits_iff, List.forall_mem_cons, List.not_mem_nil, false_imp_iff,
    implies_true, and_true]
  constructor
  · rintro ⟨⟨⟨⟨⟨⟨⟨⟨hp, hkind⟩, hcat⟩, hsub⟩, hcompany⟩, hcompliant⟩, htrainer⟩, hintent⟩, hurl⟩
    exact ⟨hp, ⟨hkind, hcat, hsub, hcompany, hintent, hurl⟩, hcompliant, htrainer⟩
  · rintro ⟨hp, ⟨hkind, hcat, hsub, hcompany, hintent, hurl⟩, hcompliant, htrainer⟩
    exact ⟨⟨⟨⟨⟨⟨⟨⟨hp, hkind⟩, hcat⟩, hsub⟩, hcompany⟩, hcompliant⟩, htrainer⟩, hintent⟩, hurl⟩

theorem AiReferrer.decides_ofFields (fields : Fields) :
    (AiReferrer.ofFields fields).Decides (AiReferrer.Fits fields) (AiReferrer.ofGiven fields) := by
  have hpatterns := decides_withDefault (g := (·.elim [] asTexts)) rfl
    (decides_nullIs (decides_texts .notTuple) []) fields "patterns"
  refine ((((((decides_required decides_text fields "id").map AiReferrer.mk).seq
    (decides_required decides_text fields "name")).seq (decides_text? fields "company")).seq
    (decides_text? fields "url")).seq hpatterns).seq (decides_textOr _ fields "description")
    |>.congr ?_ fun _ => rfl
  simp only [AiReferrer.fits_iff, List.forall_mem_cons, List.not_mem_nil, false_imp_iff,
    implies_true, and_true]
  constructor
  · rintro ⟨⟨⟨⟨⟨hid, hname⟩, hcompany⟩, hurl⟩, hpatterns⟩, hdescription⟩
    exact ⟨⟨hid, hname⟩, ⟨hcompany, hurl, hdescription⟩, hpatterns⟩
  · rintro ⟨⟨hid, hname⟩, ⟨hcompany, hurl, hdescription⟩, hpatterns⟩
    exact ⟨⟨⟨⟨⟨hid, hname⟩, hcompany⟩, hurl⟩, hpatterns⟩, hdescription⟩

theorem BlockRules.decides_ofFields (fields : Fields) :
    (BlockRules.ofFields fields).Decides (BlockRules.Fits fields) (BlockRules.ofGiven fields) := by
  have hscopes : ∀ other name : String,
      (withAlias .empty (nullIs .empty ScopeSet.ofJson) fields other name).Decides
        (∀ v ∈ given fields (spelling fields other name), v.IsArrayOf IsText)
        ((given fields (spelling fields other name)).elim .empty (ScopeSet.ofList ·.asTexts)) :=
    decides_withAlias (g := fun v => v.elim ScopeSet.empty (ScopeSet.ofList ·.asTexts)) rfl
      (decides_nullIs (fun v => (decides_texts .notSet v).map ScopeSet.ofList) .empty) fields
  have htrainers := decides_withAlias (g := (·.elim false asBool)) rfl
    (decides_nullIs decides_bool false) fields "blockAiModelTrainers" "block_ai_model_trainers"
  exact ((htrainers.map BlockRules.mk).seq (hscopes "customBlocks" "custom_blocks")).seq
    (hscopes "customAllows" "custom_allows") |>.congr
    ⟨fun ⟨⟨ht, hb⟩, ha⟩ => ⟨ht, hb, ha⟩, fun h => ⟨⟨h.trainers, h.blocks⟩, h.allows⟩⟩ fun _ => rfl

theorem BotPattern.decides_ofJson :
    Decides BotPattern.ofJson (IsObjectWith BotPattern.Fits) (BotPattern.ofGiven ·.fields) :=
  decides_object BotPattern.decides_ofFields _

theorem AiReferrer.decides_ofJson :
    Decides AiReferrer.ofJson (IsObjectWith AiReferrer.Fits) (AiReferrer.ofGiven ·.fields) :=
  decides_object AiReferrer.decides_ofFields _

theorem BlockRules.decides_ofJson :
    Decides BlockRules.ofJson (IsObjectWith BlockRules.Fits) (BlockRules.ofGiven ·.fields) :=
  decides_object BlockRules.decides_ofFields _

/-- The check by itself takes an answer without any pattern as well. -/
theorem Payload.decides_ofFields (fields : Fields) (t : DateTime) :
    ((toDataset · t) <$> Payload.ofFields fields).Decides
      ((∃ v, field? fields "patterns" = some v ∧ v.IsArrayOf (IsObjectWith BotPattern.Fits))
        ∧ (∀ v ∈ given fields (spelling fields "aiReferrers" "ai_referrers"),
          v.IsArrayOf (IsObjectWith AiReferrer.Fits))
        ∧ (∀ v ∈ given fields (spelling fields "propertySettings" "property_settings"),
          v.IsObjectWith BlockRules.Fits)
        ∧ ∀ v ∈ given fields "version", v.IsText)
      (Dataset.ofGiven fields t) := by
  have hpatterns := decides_required (decides_items BotPattern.decides_ofJson .notList) fields
    "patterns"
  have hreferrers := decides_optionalAlias (decides_items AiReferrer.decides_ofJson .notList) fields
    "aiReferrers" "ai_referrers"
  have hrules := decides_optionalAlias BlockRules.decides_ofJson fields "propertySettings"
    "property_settings"
  have hall := (((hpatterns.map Payload.mk).seq hreferrers).seq hrules).seq
    (decides_text? fields "version")
  refine (hall.map (toDataset · t)).congr ?_ fun _ => rfl
  simp only [and_assoc]

/-! ## The answers -/

namespace Dataset

variable {v : Json} {t : DateTime} {d : Dataset}

theorem ofPayload_of_fits {fields : Fields} (h : Payload.Fits fields) :
    ofPayload (.obj fields) t = .ok (ofGiven fields t) := by
  obtain ⟨l, hl, hne, hall⟩ := h.patterns
  have haccepts := (Payload.decides_ofFields fields t).accepts
    ⟨⟨_, hl, l, rfl, hall⟩, h.referrers, h.rules, h.version⟩
  obtain ⟨p, hp, hd⟩ := Checked.map_eq_ok.1 haccepts
  have htruthy : (field? fields "patterns").any (·.isTruthy) = true := by
    simpa [hl, isTruthy] using hne
  simp [ofPayload, htruthy, hp, hd]

theorem fits_of_ofPayload (h : ofPayload v t = .ok d) : v.IsObjectWith Payload.Fits := by
  unfold ofPayload at h
  split at h
  · rename_i fields
    split_ifs at h with htruthy
    split at h
    · rename_i p hp
      obtain ⟨⟨⟨_, hl, l, rfl, hall⟩, hreferrers, hrules, hversion⟩, -⟩ :=
        (Payload.decides_ofFields fields t).eq_ok_iff.1 (Checked.map_eq_ok.2 ⟨p, hp, rfl⟩)
      refine ⟨fields, rfl, ⟨l, hl, ?_, hall⟩, hreferrers, hrules, hversion⟩
      -- Nothing counts as no patterns, although the check would take it.
      rintro rfl
      simp [hl, isTruthy] at htruthy
    · cases h
    · cases h
  · cases h

/-- An answer is a dataset just if it is an object whose fields fit, and then it is the one that the
fields stand for. Any other answer is malformed. -/
theorem ofPayload_decides_grammar (v : Json) (t : DateTime) :
    (∀ d, ofPayload v t = .ok d ↔ v.IsObjectWith Payload.Fits ∧ d = ofGiven v.fields t)
      ∧ (¬ v.IsObjectWith Payload.Fits → ∃ fault, ofPayload v t = .error fault
        ∧ (SyncError.payload fault).kind = "MalformedResponse") := by
  have haccepts : v.IsObjectWith Payload.Fits → ofPayload v t = .ok (ofGiven v.fields t) := by
    rintro ⟨fields, rfl, hfits⟩
    exact ofPayload_of_fits hfits
  refine ⟨fun d => ⟨fun h => ?_, fun ⟨hfits, hd⟩ => hd ▸ haccepts hfits⟩, fun hfits => ?_⟩
  · have hfits := fits_of_ofPayload h
    exact ⟨hfits, Except.ok.inj (h.symm.trans (haccepts hfits))⟩
  · rcases h : ofPayload v t with fault | d
    · exact ⟨fault, rfl, rfl⟩
    · exact absurd (fits_of_ofPayload h) hfits

/-- A crawler that is said to comply, in words. -/
def crawlerFields : Fields :=
  [(Text.ofString "pattern", .ofString "GPTBot"), (Text.ofString "company", .null),
    (Text.ofString "is_compliant", .ofString "Yes")]

/-- The same crawler twice is two patterns. With a number for its version the answer is malformed. -/
theorem ofPayload_decides_crawlers :
    let patterns : Json := .arr [.obj crawlerFields, .obj crawlerFields]
    let accepted : Json := .obj [(Text.ofString "patterns", patterns)]
    let refused : Json := .obj [(Text.ofString "patterns", patterns),
      (Text.ofString "version", .int 1)]
    (∃ d, ofPayload accepted ⟨0, none⟩ = .ok d
        ∧ d.patterns = [.ofGiven crawlerFields, .ofGiven crawlerFields])
      ∧ ∃ fault, ofPayload refused ⟨0, none⟩ = .error fault
        ∧ (SyncError.payload fault).kind = "MalformedResponse" := by
  intro patterns accepted refused
  have hcrawler : BotPattern.Fits crawlerFields := by
    refine ⟨⟨_, rfl, "GPTBot", by decide, rfl⟩, ?_, ?_⟩
    · simp only [List.forall_mem_cons, List.not_mem_nil, false_imp_iff, implies_true, and_true]
      exact ⟨nofun, nofun, nofun, nofun, nofun, nofun⟩
    · simp only [List.forall_mem_cons, List.not_mem_nil, false_imp_iff, implies_true, and_true]
      refine ⟨?_, nofun⟩
      rintro v ⟨⟩
      exact ⟨true, "Yes", rfl, by decide⟩
  have hobject : (Json.obj crawlerFields).IsObjectWith BotPattern.Fits := ⟨_, rfl, hcrawler⟩
  have hfits : accepted.IsObjectWith Payload.Fits := by
    refine ⟨_, rfl, ⟨_, rfl, by simp, by simp [hobject]⟩, ?_, ?_, nofun⟩
    · rw [given_spelling_eq_none rfl rfl]
      exact nofun
    · rw [given_spelling_eq_none rfl rfl]
      exact nofun
  have hfits' : ¬ refused.IsObjectWith Payload.Fits := by
    rintro ⟨fields, hfields, h⟩
    obtain rfl := Json.obj.inj hfields
    obtain ⟨t, ht⟩ := h.version (.int 1) rfl
    cases ht
  exact ⟨⟨_, ((ofPayload_decides_grammar accepted _).1 _).2 ⟨hfits, rfl⟩, rfl⟩,
    (ofPayload_decides_grammar refused _).2 hfits'⟩

/-- Only patterns have to do without surrogates: a version may be half of a pair. -/
theorem ofPayload_surrogate_version :
    let version : Text := [.surrogate 2047]
    version.toString? = none
      ∧ ∃ d, ofPayload (.obj
          [(Text.ofString "patterns", .arr [.obj [(Text.ofString "pattern", .ofString "x")]]),
            (Text.ofString "version", .str version)]) ⟨0, none⟩ = .ok d
        ∧ d.version = version :=
  ⟨rfl, _, rfl, rfl⟩

end Dataset

end BotSentry
