import BotSentry.Http.Headers
import Mathlib.Tactic.Common

/-!
# What a response varies with

The Vary fields of a response are one list of items between commas (`Headers.varying`), and `addVary`
means to add the user agent to it. It looks at the first of the fields only, and for the text of the
name rather than for an item: if it finds that text, nothing changes, and otherwise the first field gets
the item and the others are dropped (`varying_addVary`). So the list loses what only the other fields
name, and lacks the user agent where the first field names something else with that text in it.
-/

namespace BotSentry.Headers

/-- The items of a value between commas, in lower case and without the blanks around them. Empty ones do
not count. -/
def items (value : String) : List (List Char) :=
  ((value.toList.splitOnP (· = ',')).map fun item =>
    Text.lowerChars (Text.trim item)).filter (· ≠ [])

/-- The values of all Vary fields. -/
def varyValues (headers : Headers) : List String :=
  (headers.filter (·.1 == vary)).map (·.2)

/-- What the first Vary field names. -/
def leading (headers : Headers) : List (List Char) := (headers.varyValues.take 1).flatMap items

/-- What the Vary fields behind the first one name. -/
def trailing (headers : Headers) : List (List Char) := (headers.varyValues.drop 1).flatMap items

/-- What the Vary fields name together. -/
def varying (headers : Headers) : List (List Char) := headers.varyValues.flatMap items

/-- The fields that are no Vary fields. -/
def others (headers : Headers) : Headers := headers.filter (·.1 != vary)

def agentItem : List Char := "user-agent".toList

def anyItem : List Char := ['*']

/-- The Vary fields name the user agent, or everything. -/
def NamesAgent (headers : Headers) : Prop :=
  agentItem ∈ headers.varying ∨ anyItem ∈ headers.varying

/-- Whether the first Vary field has the name of the user agent anywhere in its text. -/
def mentionsAgent (headers : Headers) : Bool :=
  (headers.first? vary).any fun value =>
    Text.occursIn (Text.ofString "user-agent") (Text.ofString (Text.lower value))

/-! ## Items -/

/-- One more item behind a comma. -/
theorem items_append (value : String) :
    items (value ++ ", " ++ userAgent) = items value ++ [agentItem] := by
  have hlist : (value ++ ", " ++ userAgent).toList
      = value.toList ++ ',' :: (" " ++ userAgent).toList := by
    simp
  have hlast : items (" " ++ userAgent) = [agentItem] := by decide
  unfold items at hlast ⊢
  rw [hlist, List.splitOnP_append_cons _ _ rfl, List.map_append, List.filter_append, hlast]

theorem varying_eq (headers : Headers) : headers.varying = headers.leading ++ headers.trailing := by
  rw [leading, trailing, ← List.flatMap_append, List.take_append_drop, varying]

theorem leading_eq (headers : Headers) :
    headers.leading = items ((headers.varyValues.head?).getD "") := by
  rcases h : headers.varyValues with _ | ⟨value, rest⟩
  · simp only [leading, h]
    decide
  · simp [leading, h]

/-! ## Fields -/

theorem first?_vary (headers : Headers) : headers.first? vary = headers.varyValues.head? := by
  induction headers with
  | nil => rfl
  | cons field rest ih =>
    obtain ⟨name, value⟩ := field
    by_cases hname : name = vary
    · simp [first?, varyValues, hname]
    · have hne : (vary == name) = false := by simpa using Ne.symm hname
      simpa [first?, varyValues, hname, List.lookup_cons, hne] using ih

theorem others_put (value : String) (headers : Headers) :
    (headers.put vary value).others = headers.others := by
  induction headers with
  | nil => simp [put, others]
  | cons field rest ih =>
    obtain ⟨name, old⟩ := field
    by_cases hname : name = vary
    · simp [put, others, hname, List.filter_filter]
    · simpa [put, others, hname] using ih

theorem varyValues_put (value : String) (headers : Headers) :
    (headers.put vary value).varyValues = [value] := by
  induction headers with
  | nil => simp [put, varyValues]
  | cons field rest ih =>
    obtain ⟨name, old⟩ := field
    by_cases hname : name = vary
    · simp [put, varyValues, hname, List.filter_filter]
    · simpa [put, varyValues, hname] using ih

/-! ## Adding the user agent -/

theorem addVary_of_mentionsAgent {headers : Headers} (h : headers.mentionsAgent = true) :
    headers.addVary = headers := by
  obtain ⟨value, hfirst, hoccurs⟩ := (Option.any_eq_true _ _).1 h
  have hne : value.isEmpty = false := by
    rw [Bool.eq_false_iff]
    intro hempty
    obtain rfl := String.isEmpty_iff.1 hempty
    exact absurd hoccurs (by decide)
  simp [addVary, hfirst, hne, hoccurs]

/-- Otherwise there is one Vary field, with what the first one named and the user agent. -/
theorem exists_addVary_eq_put {headers : Headers} (h : headers.mentionsAgent = false) :
    ∃ value, headers.addVary = headers.put vary value
      ∧ items value = headers.leading ++ [agentItem] := by
  rw [leading_eq, ← first?_vary]
  generalize hexisting : (headers.first? vary).getD "" = existing
  have hoccurs : Text.occursIn (Text.ofString "user-agent")
      (Text.ofString (Text.lower existing)) = false := by
    rcases hfirst : headers.first? vary with _ | value <;> rw [hfirst] at hexisting
    · obtain rfl := hexisting
      decide
    · obtain rfl := hexisting
      simpa [mentionsAgent, hfirst] using h
  unfold addVary
  simp only [hexisting, hoccurs]
  rcases hempty : existing.isEmpty with _ | _
  · exact ⟨_, rfl, items_append existing⟩
  · obtain rfl := String.isEmpty_iff.1 hempty
    refine ⟨_, rfl, ?_⟩
    decide

theorem others_addVary (headers : Headers) : headers.addVary.others = headers.others := by
  rcases h : headers.mentionsAgent with _ | _
  · obtain ⟨value, hput, -⟩ := exists_addVary_eq_put h
    rw [hput, others_put]
  · rw [addVary_of_mentionsAgent h]

theorem varying_addVary (headers : Headers) : headers.addVary.varying
    = if headers.mentionsAgent then headers.varying else headers.leading ++ [agentItem] := by
  rcases h : headers.mentionsAgent with _ | _
  · obtain ⟨value, hput, hitems⟩ := exists_addVary_eq_put h
    simp [varying, hput, varyValues_put, hitems]
  · simp [addVary_of_mentionsAgent h]

/-- A field that names something else gets the user agent as another item. -/
example : varying (addVary [("x", "1"), ("vary", "Accept")]) = ["accept".toList, agentItem] := by
  decide

/-- The other fields are as they were. What the Vary fields name together is kept unless the user agent
is added and one of the fields behind the first names something that the first does not; and the user
agent is named afterwards unless the first field only looks as if it named it already. -/
theorem addVary_keeps_iff (headers : Headers) :
    headers.addVary.others = headers.others
      ∧ (headers.varying ⊆ headers.addVary.varying ↔ headers.mentionsAgent = true
        ∨ ∀ item ∈ headers.trailing, item ∈ headers.leading ∨ item = agentItem)
      ∧ (headers.addVary.NamesAgent ↔ (headers.mentionsAgent = true → headers.NamesAgent)) := by
  refine ⟨others_addVary headers, ?_, ?_⟩
  · rw [varying_addVary]
    rcases h : headers.mentionsAgent with _ | _
    · simp only [Bool.false_eq_true, ↓reduceIte, false_or, varying_eq, List.append_subset,
        List.subset_append_left, true_and]
      simp [List.subset_def]
    · simp
  · unfold NamesAgent
    rw [varying_addVary]
    rcases h : headers.mentionsAgent with _ | _ <;> simp

/-- Of two Vary fields the second is lost, and a field with a longer name is taken for the user agent. -/
theorem addVary_loses_second_field :
    ¬ varying [("vary", "Accept"), ("vary", "Cookie")]
        ⊆ varying (addVary [("vary", "Accept"), ("vary", "Cookie")])
      ∧ ¬ NamesAgent (addVary [("vary", "X-User-Agent")]) := by
  unfold NamesAgent
  rw [varying_addVary, varying_addVary]
  decide

end BotSentry.Headers
