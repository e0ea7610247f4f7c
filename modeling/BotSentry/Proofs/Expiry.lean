import BotSentry.Proofs.Storage
import Mathlib.Algebra.Order.Field.Rat
import Mathlib.Algebra.Order.Field.Basic
import Mathlib.Data.List.Induction
import Mathlib.Data.List.Basic
import Mathlib.Tactic.Linarith

/-!
# Values that expire

A store forgets an expired value when it is asked for it, so that what it keeps depends on who has
asked. What it answers does not. `deposits` is the record of all that has been set under a key, from
which nothing is ever taken away; a store holds its last entry, or has forgotten it after it has
expired (`Holds`), and every use keeps it so (`Holds.use`). As long as the clock does not go back,
forgetting is therefore never seen: a key has the value of its last deposit until that expires, and
none afterwards (`Timed.answers_last_deposit`).

The times are those of a scale that counts seconds exactly.
-/

namespace BotSentry

/-- A scale on which seconds are added and compared exactly. -/
class TimeScale.Exact (τ : Type) [TimeScale τ] where
  seconds : τ → ℚ
  seconds_ofSeconds : ∀ n : Int, seconds (TimeScale.ofSeconds n) = n
  seconds_add : ∀ s t : τ, seconds (TimeScale.add s t) = seconds s + seconds t
  le_iff : ∀ s t : τ, TimeScale.le s t = true ↔ seconds s ≤ seconds t

instance : TimeScale.Exact Micros where
  seconds t := t.count / DateTime.microsPerSecond
  seconds_ofSeconds n := by
    change ((n * DateTime.microsPerSecond : Int) : ℚ) / DateTime.microsPerSecond = n
    have hne : (DateTime.microsPerSecond : ℚ) ≠ 0 := by norm_num [DateTime.microsPerSecond]
    push_cast
    exact mul_div_cancel_right₀ _ hne
  seconds_add s t := by
    change ((s.count + t.count : Int) : ℚ) / _ = _
    push_cast
    exact add_div ..
  le_iff s t := by
    have hpos : (0 : ℚ) < DateTime.microsPerSecond := by norm_num [DateTime.microsPerSecond]
    rw [div_le_div_iff_of_pos_right hpos, Int.cast_le]
    exact decide_eq_true_iff

namespace Store

/-- What is done with a store: a value is set for some seconds, a key is asked for, time passes. -/
inductive Use (τ : Type) where
  | set (key : String) (value : Bytes) (ttl : Int)
  | get (key : String)
  | pass (time : τ)

/-- A value that has been set at some time, for some seconds. -/
structure Deposit (τ : Type) where
  value : Bytes
  time : τ
  ttl : Int

variable {τ : Type} [TimeScale τ]

/-- All that is set under a key by what is done from a time on, the earliest first. -/
def deposits (key : String) : τ → List (Use τ) → List (Deposit τ)
  | _, [] => []
  | now, .set other value ttl :: uses =>
    if other = key then { value, time := now, ttl } :: deposits key now uses
    else deposits key now uses
  | now, .get _ :: uses => deposits key now uses
  | now, .pass time :: uses => deposits key (TimeScale.add now time) uses

/-- The entry that a deposit leaves. -/
def Deposit.entry (d : Deposit τ) : Entry τ where
  value := d.value
  expires := TimeScale.add d.time (TimeScale.ofSeconds d.ttl)

/-- Whether a use can change what a key has: it is set, or time passes. -/
def Use.concerns (key : String) : Use τ → Bool
  | .set other _ _ => other = key
  | .get _ => false
  | .pass _ => true

/-- A store, and the clock by which it is used. -/
structure Timed (τ : Type) where
  store : Store τ := {}
  clock : τ

namespace Timed

def use (s : Timed τ) : Use τ → Timed τ
  | .set key value ttl =>
    { s with store := s.store.set key value (TimeScale.ofSeconds ttl) s.clock }
  | .get key => { s with store := (s.store.get key s.clock).2 }
  | .pass time => { s with clock := TimeScale.add s.clock time }

def run (s : Timed τ) (uses : List (Use τ)) : Timed τ := uses.foldl use s

/-- What a key has now. -/
def answer (s : Timed τ) (key : String) : Option Bytes := (s.store.get key s.clock).1

theorem run_append (s : Timed τ) (uses more : List (Use τ)) :
    s.run (uses ++ more) = (s.run uses).run more := List.foldl_append

theorem clock_run (s : Timed τ) (store : Store τ) (uses : List (Use τ)) :
    (run { s with store } uses).clock = (s.run uses).clock := by
  induction uses generalizing s store with
  | nil => rfl
  | cons u uses ih =>
    cases u with
    | set key value ttl => exact (ih s _).trans (ih s _).symm
    | get key => exact (ih s _).trans (ih s _).symm
    | pass time => exact ih { s with clock := TimeScale.add s.clock time } store

end Timed

/-! ## The record of a key -/

section Record

variable {key : String}

theorem deposits_append (s : Timed τ) (uses more : List (Use τ)) :
    deposits key s.clock (uses ++ more)
      = deposits key s.clock uses ++ deposits key (s.run uses).clock more := by
  induction uses generalizing s with
  | nil => rfl
  | cons u uses ih =>
    have hnext := ih (s.use u)
    cases u with
    | set other value ttl =>
      simp only [List.cons_append, deposits]
      split_ifs
      · exact congrArg _ hnext
      · exact hnext
    | get other => exact hnext
    | pass time => exact hnext

/-- Only what concerns a key enters its record. -/
theorem deposits_filter_concerns (now : τ) (uses : List (Use τ)) :
    deposits key now (uses.filter (·.concerns key)) = deposits key now uses := by
  induction uses generalizing now with
  | nil => rfl
  | cons u uses ih =>
    cases u with
    | set other value ttl =>
      by_cases hkey : other = key
      · rw [List.filter_cons_of_pos (by simpa [Use.concerns] using hkey), deposits, deposits, ih]
      · rw [List.filter_cons_of_neg (by simpa [Use.concerns] using hkey), deposits, if_neg hkey, ih]
    | get other => exact ih now
    | pass time => exact ih _

/-- The clock goes on only as time passes. -/
theorem Timed.clock_run_filter_concerns (s : Timed τ) (uses : List (Use τ)) (key : String) :
    (s.run (uses.filter (·.concerns key))).clock = (s.run uses).clock := by
  induction uses generalizing s with
  | nil => rfl
  | cons u uses ih =>
    cases u with
    | set other value ttl =>
      by_cases hkey : other = key
      · rw [List.filter_cons_of_pos (by simpa [Use.concerns] using hkey)]
        exact ih _
      · rw [List.filter_cons_of_neg (by simpa [Use.concerns] using hkey), ih]
        exact (clock_run s _ uses).symm
    | get other => exact (ih s).trans (clock_run s _ uses).symm
    | pass time => exact ih _

end Record

/-! ## What a store keeps -/

/-- What a store has under a key, where `last` is the last deposit there. -/
inductive Holds (s : Timed τ) (key : String) : Option (Deposit τ) → Prop
  | untouched : s.store.find? key = none → Holds s key none
  | kept {d : Deposit τ} : s.store.find? key = some d.entry → Holds s key (some d)
  | forgotten {d : Deposit τ} : s.store.find? key = none →
      TimeScale.le d.entry.expires s.clock = true → Holds s key (some d)

section Holds

variable {s : Timed τ} {key : String} {last : Option (Deposit τ)}

/-- A new deposit takes the place of what there was, and no other key has it. -/
theorem Holds.set (h : Holds s key last) (other : String) (value : Bytes) (ttl : Int) :
    Holds (s.use (.set other value ttl)) key
      (if other = key then some { value, time := s.clock, ttl } else last) := by
  have hfind := s.store.find?_set other value (TimeScale.ofSeconds ttl) s.clock key
  split_ifs with hkey
  · subst hkey
    rw [if_pos rfl] at hfind
    exact .kept hfind
  · rw [if_neg (Ne.symm hkey)] at hfind
    cases h with
    | untouched hnone => exact .untouched (hfind.trans hnone)
    | kept hsome => exact .kept (hfind.trans hsome)
    | forgotten hnone hexpired => exact .forgotten (hfind.trans hnone) hexpired

theorem Holds.get (h : Holds s key last) (other : String) :
    Holds (s.use (.get other)) key last := by
  cases h with
  | untouched hnone => exact .untouched (find?_get_none other s.clock hnone)
  | kept hsome =>
    rcases find?_get other s.clock hsome with hkept | ⟨hnone, hexpired⟩
    · exact .kept hkept
    · exact .forgotten hnone hexpired
  | forgotten hnone hexpired => exact .forgotten (find?_get_none other s.clock hnone) hexpired

end Holds

variable [TimeScale.Exact τ]

open TimeScale.Exact (seconds)

/-- Time does not go back. -/
def Use.IsForward : Use τ → Prop
  | .pass time => 0 ≤ seconds time
  | _ => True

/-- The value of a deposit, until it expires. -/
def Deposit.valueAt (d : Deposit τ) (now : τ) : Option Bytes :=
  if seconds now < seconds d.time + d.ttl then some d.value else none

variable {s : Timed τ} {key : String} {last : Option (Deposit τ)} {d : Deposit τ} {now : τ}

theorem Deposit.expired_iff :
    TimeScale.le d.entry.expires now = true ↔ seconds d.time + d.ttl ≤ seconds now := by
  rw [entry, TimeScale.Exact.le_iff, TimeScale.Exact.seconds_add,
    TimeScale.Exact.seconds_ofSeconds]

theorem Deposit.valueAt_of_expired (h : TimeScale.le d.entry.expires now = true) :
    d.valueAt now = none := if_neg (not_lt.2 (expired_iff.1 h))

namespace Holds

theorem answer (h : Holds s key last) : s.answer key = last.bind (·.valueAt s.clock) := by
  cases h with
  | untouched hfind => simp only [Timed.answer, Store.get, hfind, Option.bind_none]
  | @kept d hfind =>
    simp only [Timed.answer, Store.get, hfind, Option.bind_some]
    split_ifs with hexpired
    · exact (Deposit.valueAt_of_expired hexpired).symm
    · exact (if_pos (not_le.1 fun hle => hexpired (Deposit.expired_iff.2 hle))).symm
  | forgotten hfind hexpired =>
    simp only [Timed.answer, Store.get, hfind, Option.bind_some]
    exact (Deposit.valueAt_of_expired hexpired).symm

/-- What has expired stays so, since the clock does not go back. -/
theorem pass (h : Holds s key last) {time : τ} (hforward : 0 ≤ seconds time) :
    Holds (s.use (.pass time)) key last := by
  cases h with
  | untouched hnone => exact .untouched hnone
  | kept hsome => exact .kept hsome
  | forgotten hnone hexpired =>
    refine .forgotten hnone (Deposit.expired_iff.2 ?_)
    have hle := Deposit.expired_iff.1 hexpired
    change _ ≤ seconds (TimeScale.add s.clock time)
    rw [TimeScale.Exact.seconds_add]
    linarith

/-- A use brings the last deposit up to date. -/
theorem use (h : Holds s key last) {u : Use τ} (hforward : u.IsForward) :
    Holds (s.use u) key ((deposits key s.clock [u]).getLast?.or last) := by
  cases u with
  | set other value ttl =>
    have hset := h.set other value ttl
    simp only [deposits]
    split_ifs at hset ⊢
    · exact hset
    · exact hset
  | get other => exact h.get other
  | pass time => exact h.pass hforward

/-- After any run a store has the last deposit of a key, or has forgotten it. -/
theorem run (clock : τ) {uses : List (Use τ)} (hforward : ∀ u ∈ uses, u.IsForward)
    (key : String) : Holds (Timed.run { clock } uses) key (deposits key clock uses).getLast? := by
  induction uses using List.reverseRecOn with
  | nil => exact .untouched rfl
  | append_singleton uses u ih =>
    obtain ⟨huses, hu⟩ := List.forall_mem_append.1 hforward
    rw [Timed.run_append, deposits_append { clock }, List.getLast?_append]
    exact (ih huses).use (hu u (List.mem_singleton_self u))

end Holds

namespace Timed

/-- In the course of any run in which time does not go back, a key has the value of its last deposit
until the time of that plus its seconds, and none from then on. So what is done with other keys and
what was asked for does not matter, and what was there before a deposit does not come back. -/
theorem answers_last_deposit (clock : τ) {uses : List (Use τ)}
    (hforward : ∀ u ∈ uses, u.IsForward) (key : String) :
    ((run { clock } uses).answer key
        = (deposits key clock uses).getLast?.bind (·.valueAt (run { clock } uses).clock))
      ∧ (∀ others : List (Use τ), others.filter (·.concerns key) = uses.filter (·.concerns key) →
        (run { clock } others).answer key = (run { clock } uses).answer key)
      ∧ ∀ before value ttl after, uses = before ++ .set key value ttl :: after →
        (run { clock } uses).answer key
          = (run { clock := (run { clock } before).clock } (.set key value ttl :: after)).answer
              key := by
  have hanswer := (Holds.run clock hforward key).answer
  refine ⟨hanswer, fun others hsame => ?_, ?_⟩
  · have hothers : ∀ u ∈ others, u.IsForward := by
      intro u hu
      cases u with
      | pass time =>
        have hmem : .pass time ∈ others.filter (·.concerns key) := List.mem_filter.2 ⟨hu, rfl⟩
        rw [hsame] at hmem
        exact hforward _ (List.mem_of_mem_filter hmem)
      | set | get => trivial
    rw [hanswer, (Holds.run clock hothers key).answer,
      ← deposits_filter_concerns clock others, hsame, deposits_filter_concerns,
      ← clock_run_filter_concerns { clock } others key, hsame, clock_run_filter_concerns]
  · rintro before value ttl after rfl
    obtain ⟨-, hafter⟩ := List.forall_mem_append.1 hforward
    have hlast : (deposits key clock (before ++ .set key value ttl :: after)).getLast?
        = (deposits key (run { clock } before).clock (.set key value ttl :: after)).getLast? := by
      rw [deposits_append { clock }, deposits, if_pos rfl, List.getLast?_append_cons]
    have hclock : (run { clock } (before ++ .set key value ttl :: after)).clock
        = (run { clock := (run { clock } before).clock } (.set key value ttl :: after)).clock := by
      rw [run_append]
      exact clock_run { clock := (run { clock } before).clock } _ _
    rw [hanswer, (Holds.run _ hafter key).answer, hlast, hclock]

/-- A value that is replaced before it expires by one that expires sooner. -/
def replacedUses : List (Use Micros) :=
  [.set "a" [1] 10, .pass ⟨3000000⟩, .get "b", .set "a" [2] 5, .set "b" [3] (-1), .pass ⟨4999999⟩]

theorem answers_last_deposit_replaced :
    (∀ u ∈ replacedUses ++ [.pass ⟨1⟩], u.IsForward)
      ∧ (run { clock := ⟨0⟩ } replacedUses).answer "a" = some [2]
      ∧ (run { clock := ⟨0⟩ } (replacedUses ++ [.pass ⟨1⟩])).answer "a" = none := by
  have hforward : ∀ u ∈ replacedUses ++ [.pass ⟨1⟩], u.IsForward := by
    norm_num [replacedUses, Use.IsForward, TimeScale.Exact.seconds, DateTime.microsPerSecond]
  have hfirst := (List.forall_mem_append.1 hforward).1
  have hlast : (deposits "a" (⟨0⟩ : Micros) replacedUses).getLast?
      = some { value := [2], time := ⟨3000000⟩, ttl := 5 } := rfl
  have hlater : (deposits "a" (⟨0⟩ : Micros) (replacedUses ++ [.pass ⟨1⟩])).getLast?
      = some { value := [2], time := ⟨3000000⟩, ttl := 5 } := rfl
  have hclock : (run { clock := (⟨0⟩ : Micros) } replacedUses).clock = ⟨7999999⟩ := rfl
  have hover : (run { clock := (⟨0⟩ : Micros) } (replacedUses ++ [.pass ⟨1⟩])).clock
      = ⟨8000000⟩ := rfl
  have hbefore := (answers_last_deposit ⟨0⟩ hfirst "a").1
  have hafter := (answers_last_deposit ⟨0⟩ hforward "a").1
  rw [hlast, hclock] at hbefore
  rw [hlater, hover] at hafter
  refine ⟨hforward, hbefore.trans ?_, hafter.trans ?_⟩ <;>
    norm_num [Deposit.valueAt, TimeScale.Exact.seconds, DateTime.microsPerSecond]

end Timed

end Store

end BotSentry
