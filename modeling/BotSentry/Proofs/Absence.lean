import BotSentry.Proofs.Checks
import BotSentry.Proofs.Spellings

/-!
# Null means absent

A key that holds a null can as well be left out. `Json.prune` leaves out any choice of such keys, at
any depth, and every check gives the same value or the same issues for what remains, as long as no
field that has to be there is left out and none is there in two spellings
(`Dataset.null_means_absent`). For each field that follows from two facts: its check takes a null
for its default, and what is left out inside of a value goes unnoticed (`Schema.withDefault_prune`,
`Schema.withAlias_prune`).
-/

namespace BotSentry

open Schema Json

namespace Schema

/-- The step to a field. -/
def Step.named (name : String) : Step := .field (Text.ofString name)

/-- What is chosen inside of a step. -/
def inside (drop : List Step → Bool) (step : Step) (path : List Step) : Bool := drop (step :: path)

end Schema

namespace Json

mutual

/-- The value without the keys that hold a null and whose paths are chosen. -/
def prune (drop : List Step → Bool) : Json → Json
  | .arr items => .arr (pruneItems drop 0 items)
  | .obj fields => .obj (pruneFields drop fields)
  | v => v

def pruneItems (drop : List Step → Bool) : Nat → List Json → List Json
  | _, [] => []
  | i, v :: rest => v.prune (inside drop (.index i)) :: pruneItems drop (i + 1) rest

/-- A key goes for good, so that nothing behind it comes to light. -/
def pruneFields (drop : List Step → Bool) : List (Text × Json) → List (Text × Json)
  | [] => []
  | (key, v) :: rest =>
    if v.present?.isNone && drop [.field key] then (pruneFields drop rest).filter (·.1 != key)
    else (key, v.prune (inside drop (.field key))) :: pruneFields drop rest

end

variable {drop : List Step → Bool}

/-- A field is left out, or its value is pruned. -/
theorem lookup_pruneFields (drop : List Step → Bool) (fields : Fields) (key : Text) :
    (pruneFields drop fields).lookup key = (fields.lookup key).bind fun v =>
      if v.present?.isNone && drop [.field key] then none
      else some (v.prune (inside drop (.field key))) := by
  induction fields with
  | nil => rw [pruneFields]; rfl
  | cons e rest ih =>
    obtain ⟨k, v⟩ := e
    rw [pruneFields, List.lookup_cons]
    by_cases hkey : key = k
    · subst hkey
      rw [beq_self_eq_true]
      dsimp only [Option.bind_some]
      split_ifs
      · rw [lookup_filter_ne, if_pos rfl]
      · rw [List.lookup_cons, beq_self_eq_true]
    · rw [beq_eq_false_iff_ne.2 hkey, ← ih]
      split_ifs
      · rw [lookup_filter_ne, if_neg hkey]
      · rw [List.lookup_cons, beq_eq_false_iff_ne.2 hkey]

theorem present?_eq_none_iff {v : Json} : v.present? = none ↔ v = .null := by
  cases v <;> simp [present?]

/-- What becomes of the fields of a name: it stays absent, it holds a null and is left out, or its
value is pruned. -/
theorem field?_pruneFields (drop : List Step → Bool) (fields : Fields) (name : String) :
    field? fields name = none ∧ field? (pruneFields drop fields) name = none
      ∨ (field? fields name = some .null ∧ drop [.named name] = true)
        ∧ field? (pruneFields drop fields) name = none
      ∨ ∃ v, field? fields name = some v
        ∧ field? (pruneFields drop fields) name = some (v.prune (inside drop (.named name))) := by
  have h := lookup_pruneFields drop fields (Text.ofString name)
  unfold field?
  rcases hv : fields.lookup (Text.ofString name) with _ | v
  · exact .inl ⟨rfl, by rw [h, hv]; rfl⟩
  · rw [hv, Option.bind_some] at h
    split_ifs at h with hdropped
    · rw [Bool.and_eq_true, Option.isNone_iff_eq_none, present?_eq_none_iff] at hdropped
      exact .inr (.inl ⟨⟨by rw [hdropped.1], hdropped.2⟩, h⟩)
    · exact .inr (.inr ⟨v, rfl, h⟩)

end Json

namespace Schema

/-! ## Checks -/

section Checks

variable {drop : List Step → Bool} {α : Type} {check : Json → Checked α} {v : Json}
  {fields : Fields} {name other : String}

/-- A check does not notice what is left out of a value. -/
def Overlooks (drop : List Step → Bool) (check : Json → Checked α) (v : Json) : Prop :=
  check (v.prune drop) = check v

theorem overlooks_text : Overlooks drop text v := by
  cases v <;> simp [Overlooks, prune, text]

theorem overlooks_someString : Overlooks drop someString v := by
  cases v <;> simp [Overlooks, prune, someString]

theorem overlooks_bool : Overlooks drop bool v := by
  cases v <;> simp [Overlooks, prune, bool]

theorem overlooks_nullIs (h : Overlooks drop check v) (default : α) :
    Overlooks drop (nullIs default check) v := by
  unfold Overlooks at h ⊢
  cases v with
  | arr items | obj fields => simpa only [prune, nullIs] using h
  | _ => simp only [prune]

theorem overlooks_optional (h : Overlooks drop check v) :
    Overlooks drop (Schema.optional check) v := by
  unfold Overlooks at h ⊢
  cases v with
  | arr items | obj fields =>
    simp only [prune] at h
    simp only [prune, Schema.optional, h]
  | _ => simp only [prune]

theorem all_pruneItems (h : ∀ i w, Overlooks (inside drop (.index i)) check w) (i : Nat)
    (items : List Json) :
    Checked.all check i (pruneItems drop i items) = Checked.all check i items := by
  induction items generalizing i with
  | nil => rw [pruneItems]
  | cons w rest ih => rw [pruneItems, Checked.all, Checked.all, ih, h i w]

theorem overlooks_items (h : ∀ i w, Overlooks (inside drop (.index i)) check w) (cause : Cause) :
    Overlooks drop (items cause check) v := by
  cases v with
  | arr l =>
    unfold Overlooks
    rw [prune]
    exact all_pruneItems h 0 l
  | _ => simp [Overlooks, prune, items]

theorem overlooks_object {check : Fields → Checked α}
    (h : ∀ fields, v = .obj fields → check (pruneFields drop fields) = check fields)
    (name : String) : Overlooks drop (object name check) v := by
  cases v with
  | obj fields => simpa only [Overlooks, prune, object] using h fields rfl
  | _ => simp [Overlooks, prune, object]

theorem required_prune (hkept : field? fields name = some .null → drop [.named name] = false)
    (h : ∀ w ∈ field? fields name, Overlooks (inside drop (.named name)) check w) :
    required check (pruneFields drop fields) name = required check fields name := by
  unfold required
  rcases field?_pruneFields drop fields name with ⟨he, he'⟩ | ⟨⟨he, hdropped⟩, -⟩ | ⟨w, he, he'⟩
  · rw [he, he']
  · rw [hkept he] at hdropped
    cases hdropped
  · rw [he, he']
    dsimp only
    rw [h w he]

/-- A field that takes a null for its default may be left out where it holds one. -/
theorem withDefault_prune {default : α} (hnull : check .null = .ok default)
    (h : ∀ w ∈ field? fields name, Overlooks (inside drop (.named name)) check w) :
    withDefault default check (pruneFields drop fields) name
      = withDefault default check fields name := by
  unfold withDefault
  rcases field?_pruneFields drop fields name with ⟨he, he'⟩ | ⟨⟨he, -⟩, he'⟩ | ⟨w, he, he'⟩
  · rw [he, he']
  · rw [he, he']
    dsimp only
    rw [hnull]
    rfl
  · rw [he, he']
    dsimp only
    rw [h w he]

theorem withDefault_of_none {default : α} (h : field? fields name = none) :
    withDefault default check fields name = .ok default := by
  unfold withDefault
  rw [h]

theorem withAlias_prune {default : α}
    (hone : field? fields other = none ∨ field? fields name = none)
    (hnull : check .null = .ok default)
    (h : ∀ key ∈ [other, name], ∀ w ∈ field? fields key,
      Overlooks (inside drop (.named key)) check w) :
    withAlias default check (pruneFields drop fields) other name
      = withAlias default check fields other name := by
  have hother := withDefault_prune hnull (h other (by simp))
  have hname := withDefault_prune hnull (h name (by simp))
  unfold withAlias
  rcases field?_pruneFields drop fields other with ⟨he, he'⟩ | ⟨⟨he, -⟩, he'⟩ | ⟨w, he, he'⟩
  · rw [he, he', hname]
    rfl
  · -- The one spelling that was there is gone, and the field takes its default all the same.
    have habsent : field? fields name = none := hone.resolve_left (by rw [he]; exact nofun)
    rw [he, he', hname, ← hother, withDefault_of_none he', withDefault_of_none habsent]
    rfl
  · rw [he, he', hother]
    rfl

/-! ### Common fields -/

theorem overlooks_texts (cause : Cause) : Overlooks drop (items cause text) v :=
  overlooks_items (fun _ _ => overlooks_text) cause

theorem overlooks_scopes : Overlooks drop ScopeSet.ofJson v :=
  congrArg (ScopeSet.ofList <$> ·) (overlooks_texts .notSet)

theorem textOr_prune (default : Text) (fields : Fields) (name : String) :
    withDefault default (nullIs default text) (pruneFields drop fields) name
      = withDefault default (nullIs default text) fields name :=
  withDefault_prune rfl fun _ _ => overlooks_nullIs overlooks_text default

theorem text?_prune (fields : Fields) (name : String) :
    withDefault none (Schema.optional text) (pruneFields drop fields) name
      = withDefault none (Schema.optional text) fields name :=
  withDefault_prune rfl fun _ _ => overlooks_optional overlooks_text

theorem flag_prune (fields : Fields) (name : String) :
    withDefault false (nullIs false bool) (pruneFields drop fields) name
      = withDefault false (nullIs false bool) fields name :=
  withDefault_prune rfl fun _ _ => overlooks_nullIs overlooks_bool false

end Checks

end Schema

/-! ## Patterns, referrers and rules -/

variable {drop : List Step → Bool} {v : Json}

/-- The pattern is not left out. -/
def BotPattern.Spares (drop : List Step → Bool) : Prop := drop [.named "pattern"] = false

/-- Neither the id nor the name is left out. -/
structure AiReferrer.Spares (drop : List Step → Bool) : Prop where
  id : drop [.named "id"] = false
  name : drop [.named "name"] = false

theorem BotPattern.overlooks_ofJson (h : Spares drop) : Overlooks drop ofJson v := by
  refine overlooks_object (fun fields _ => ?_) _
  simp only [ofFields, ofFields.orDefault,
    required_prune (fun _ => h) fun _ _ => overlooks_someString,
    textOr_prune, text?_prune, flag_prune]

theorem AiReferrer.overlooks_ofJson (h : Spares drop) : Overlooks drop ofJson v := by
  refine overlooks_object (fun fields _ => ?_) _
  have hpatterns : withDefault [] (nullIs [] (items .notTuple text)) (pruneFields drop fields)
      "patterns" = withDefault [] (nullIs [] (items .notTuple text)) fields "patterns" :=
    withDefault_prune rfl fun _ _ => overlooks_nullIs (overlooks_texts _) []
  simp only [ofFields, required_prune (fun _ => h.id) fun _ _ => overlooks_text,
    required_prune (fun _ => h.name) fun _ _ => overlooks_text, text?_prune, textOr_prune,
    hpatterns]

theorem BlockRules.overlooks_ofJson (hu : IsUnambiguous v) : Overlooks drop ofJson v := by
  refine overlooks_object (fun fields hv => ?_) _
  have htrainers : withAlias false (nullIs false bool) (pruneFields drop fields)
      "blockAiModelTrainers" "block_ai_model_trainers" = withAlias false (nullIs false bool) fields
        "blockAiModelTrainers" "block_ai_model_trainers" :=
    withAlias_prune (hu fields hv ("blockAiModelTrainers", "block_ai_model_trainers") (by decide))
      rfl fun _ _ _ _ => overlooks_nullIs overlooks_bool false
  have hscopes : ∀ other name : String, (other, name) ∈ spellings →
      withAlias .empty (nullIs .empty ScopeSet.ofJson) (pruneFields drop fields) other name
        = withAlias .empty (nullIs .empty ScopeSet.ofJson) fields other name :=
    fun other name hmem => withAlias_prune (hu fields hv _ hmem) rfl fun _ _ _ _ =>
      overlooks_nullIs overlooks_scopes _
  have hblocks := hscopes "customBlocks" "custom_blocks" (by decide)
  have hallows := hscopes "customAllows" "custom_allows" (by decide)
  simp only [ofFields, htrainers, hblocks, hallows]

/-! ## Answers -/

namespace Payload

/-- No field is left out that has to be there. -/
structure Spares (drop : List Step → Bool) : Prop where
  bots : ∀ i, BotPattern.Spares (inside (inside drop (.named "patterns")) (.index i))
  referrers : ∀ name ∈ ["aiReferrers", "ai_referrers"], ∀ i,
    AiReferrer.Spares (inside (inside drop (.named name)) (.index i))
  /-- An object in place of the patterns is not what the schema knows there, and counts as some
  patterns unless it is empty. -/
  patterns : ∀ key, drop [.named "patterns", .field key] = false

variable {fields : Fields}

theorem ofFields_prune (hu : IsUnambiguous fields) (h : Spares drop)
    (hsome : field? fields "patterns" ≠ some .null) :
    ofFields (pruneFields drop fields) = ofFields fields := by
  have hpatterns : required (items .notList BotPattern.ofJson) (pruneFields drop fields) "patterns"
      = required (items .notList BotPattern.ofJson) fields "patterns" :=
    required_prune (fun hnull => absurd hnull hsome) fun _ _ =>
      overlooks_items (fun i _ => BotPattern.overlooks_ofJson (h.bots i)) _
  have hreferrers : withAlias none (Schema.optional (items .notList AiReferrer.ofJson))
      (pruneFields drop fields) "aiReferrers" "ai_referrers"
      = withAlias none (Schema.optional (items .notList AiReferrer.ofJson)) fields "aiReferrers"
        "ai_referrers" :=
    withAlias_prune (hu.outer ("aiReferrers", "ai_referrers") (by decide)) rfl fun key hkey _ _ =>
      overlooks_optional (overlooks_items
        (fun i _ => AiReferrer.overlooks_ofJson (h.referrers key hkey i)) _)
  have hrules : withAlias none (Schema.optional BlockRules.ofJson) (pruneFields drop fields)
      "propertySettings" "property_settings" = withAlias none (Schema.optional BlockRules.ofJson)
        fields "propertySettings" "property_settings" := by
    have hone := hu.outer ("propertySettings", "property_settings") (by decide)
    exact withAlias_prune hone rfl fun key hkey w hw => overlooks_optional
      (BlockRules.overlooks_ofJson (hu.rules w (mem_eitherField? hone hkey hw)))
  simp only [ofFields, hpatterns, hreferrers, hrules, text?_prune]

theorem isTruthy_prune {v : Json} (h : ∀ key, drop [.field key] = false) :
    (v.prune drop).isTruthy = v.isTruthy := by
  cases v with
  | arr items =>
    cases items with
    | nil => simp only [prune, pruneItems]
    | cons v rest => simp [prune, pruneItems, isTruthy]
  | obj fields =>
    cases fields with
    | nil => simp only [prune, pruneFields]
    | cons e rest => simp [prune, pruneFields, isTruthy, h e.1]
  | _ => simp only [prune]

theorem any_isTruthy_prune (h : Spares drop) :
    (field? (pruneFields drop fields) "patterns").any (·.isTruthy)
      = (field? fields "patterns").any (·.isTruthy) := by
  rcases field?_pruneFields drop fields "patterns" with ⟨he, he'⟩ | ⟨⟨he, -⟩, he'⟩ | ⟨v, he, he'⟩
  · rw [he, he']
  · rw [he, he']
    rfl
  · rw [he, he']
    exact isTruthy_prune h.patterns

end Payload

namespace Dataset

theorem ofPayload_prune {t : DateTime}
    (hu : ∀ fields, v = .obj fields → Payload.IsUnambiguous fields)
    (h : Payload.Spares drop) : ofPayload (v.prune drop) t = ofPayload v t := by
  cases v with
  | obj fields =>
    rw [prune]
    unfold ofPayload
    dsimp only
    rw [Payload.any_isTruthy_prune h]
    by_cases htruthy : (field? fields "patterns").any (·.isTruthy) = true
    · have hsome : field? fields "patterns" ≠ some .null := by
        intro hnull
        rw [hnull] at htruthy
        cases htruthy
      rw [Payload.ofFields_prune (hu fields rfl) h hsome]
    · rw [Bool.not_eq_true] at htruthy
      rw [htruthy]
      rfl
  | _ => simp only [prune, ofPayload]

/-- Keys that hold a null may be left out, wherever they are and whichever they are, but for those
that have to be there: what is checked has the same value, or the same issues, and an answer is the
same dataset or malformed for the same reason. -/
theorem null_means_absent (drop : List Step → Bool) (v : Json) (t : DateTime) :
    (BotPattern.Spares drop → BotPattern.ofJson (v.prune drop) = BotPattern.ofJson v)
      ∧ (AiReferrer.Spares drop → AiReferrer.ofJson (v.prune drop) = AiReferrer.ofJson v)
      ∧ (BlockRules.IsUnambiguous v → BlockRules.ofJson (v.prune drop) = BlockRules.ofJson v)
      ∧ (Payload.Spares drop → (∀ fields, v = .obj fields → Payload.IsUnambiguous fields) →
        ofPayload (v.prune drop) t = ofPayload v t) :=
  ⟨BotPattern.overlooks_ofJson, AiReferrer.overlooks_ofJson, BlockRules.overlooks_ofJson,
    fun h hu => ofPayload_prune hu h⟩

/-- All keys but those that have to be there. -/
def optionalKeys : List Step → Bool
  | [.field outer, .field _] => outer != Text.ofString "patterns"
  | path => path.getLast?.any fun step =>
    step != .named "pattern" && step != .named "id" && step != .named "name"

/-- Nulls at every depth, each of which may as well be left out. -/
theorem null_means_absent_everywhere :
    let bot := mkObj [("pattern", .ofString "x"), ("type", .null), ("url", .null)]
    let referrer := mkObj [("id", .ofString "a"), ("name", .ofString "b"), ("patterns", .null)]
    let rules := mkObj [("customBlocks", .null), ("block_ai_model_trainers", .bool true)]
    let bot' := mkObj [("pattern", .ofString "x")]
    let referrer' := mkObj [("id", .ofString "a"), ("name", .ofString "b")]
    let rules' := mkObj [("block_ai_model_trainers", .bool true)]
    BotPattern.ofJson bot' = BotPattern.ofJson bot
      ∧ AiReferrer.ofJson referrer' = AiReferrer.ofJson referrer
      ∧ BlockRules.ofJson rules' = BlockRules.ofJson rules
      ∧ ofPayload (mkObj [("patterns", .arr [bot']), ("aiReferrers", .arr [referrer']),
            ("propertySettings", rules')]) ⟨0, none⟩
          = ofPayload (mkObj [("patterns", .arr [bot]), ("aiReferrers", .arr [referrer]),
            ("propertySettings", rules), ("version", .null)]) ⟨0, none⟩ := by
  intro bot referrer rules bot' referrer' rules'
  have hspares : Payload.Spares optionalKeys :=
    ⟨fun _ => rfl, fun name hname i => by
      rcases List.mem_pair.1 hname with rfl | rfl <;> exact ⟨rfl, rfl⟩, fun _ => rfl⟩
  have hrules : BlockRules.IsUnambiguous rules := by
    intro fields hfields e he
    obtain rfl := Json.obj.inj hfields
    revert e
    decide
  refine ⟨?_, ?_, ?_, ?_⟩
  · exact (null_means_absent optionalKeys bot ⟨0, none⟩).1 rfl
  · exact (null_means_absent optionalKeys referrer ⟨0, none⟩).2.1 ⟨rfl, rfl⟩
  · exact (null_means_absent optionalKeys rules ⟨0, none⟩).2.2.1 hrules
  · refine (null_means_absent optionalKeys (mkObj [("patterns", .arr [bot]),
      ("aiReferrers", .arr [referrer]), ("propertySettings", rules), ("version", .null)])
      ⟨0, none⟩).2.2.2 hspares ?_
    rintro _ ⟨⟩
    refine ⟨by unfold Unambiguous; decide, ?_⟩
    rintro v ⟨⟩
    exact hrules

/-- An object is no list of patterns, but with a key in it, it counts as some patterns. -/
example :
    let odd := mkObj [("patterns", mkObj [("x", .null)])]
    (∃ issue, ofPayload odd ⟨0, none⟩ = .error (.invalid issue))
      ∧ ofPayload (odd.prune fun _ => true) ⟨0, none⟩ = .error .noPatterns :=
  ⟨⟨_, rfl⟩, rfl⟩

end Dataset

end BotSentry
