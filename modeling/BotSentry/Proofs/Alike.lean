import BotSentry.Proofs.Serving
import BotSentry.Proofs.SyncCalls

/-!
# What a request leaves alone

Around the application of its host a client does no more to a request than to detect and to report
it. Hosts that differ in nothing else are alike (`Host.Alike`), so a request that is served leaves a
host alike, or it is up to the application what becomes of it (`alike_serve`).
-/

namespace BotSentry

variable {τ : Type} [TimeScale τ]

namespace Client

/-- Two clients differ at most in their engines and in what they report. -/
structure Alike (c c' : Client τ) : Prop where
  settings : c'.settings = c.settings
  snapshot : c'.snapshot = c.snapshot
  lastSync : c'.lastSync = c.lastSync
  syncing : c'.syncing = c.syncing

namespace Alike

omit [TimeScale τ] in
theorem refl (c : Client τ) : c.Alike c := ⟨rfl, rfl, rfl, rfl⟩

omit [TimeScale τ] in
theorem trans {c c' c'' : Client τ} (h₁ : c.Alike c') (h₂ : c'.Alike c'') : c.Alike c'' where
  settings := h₂.settings.trans h₁.settings
  snapshot := h₂.snapshot.trans h₁.snapshot
  lastSync := h₂.lastSync.trans h₁.lastSync
  syncing := h₂.syncing.trans h₁.syncing

omit [TimeScale τ] in
theorem refusal? {c c' : Client τ} (ha : c.Alike c') (key : Option String) :
    c'.refusal? key = c.refusal? key := by
  unfold Client.refusal?
  rw [ha.settings]

end Alike

omit [TimeScale τ] in
theorem alike_detect (c : Client τ) (userAgent referrer : String) :
    c.Alike (c.detect userAgent referrer).1 := ⟨rfl, rfl, rfl, rfl⟩

theorem alike_report (c : Client τ) (d : Detection) (v : Visit) (now : τ) :
    c.Alike (c.report d v now).1 := by
  unfold report
  split
  · exact .refl c
  · split
    · exact .refl c
    · exact ⟨rfl, rfl, rfl, rfl⟩

end Client

namespace Host

/-- Two hosts differ at most in what they have noted, and in what their clients have detected and
report. -/
structure Alike (h h' : Host τ) : Prop where
  clock : h'.clock = h.clock
  cache : h'.cache = h.cache
  peer : h'.peer = h.peer
  held : h'.held = h.held
  client : ∀ {i c}, h.client? i = some c → ∃ c', h'.client? i = some c' ∧ c.Alike c'

namespace Alike

omit [TimeScale τ]

theorem refl (h : Host τ) : h.Alike h := ⟨rfl, rfl, rfl, rfl, fun hc => ⟨_, hc, .refl _⟩⟩

theorem trans {h h' h'' : Host τ} (h₁ : h.Alike h') (h₂ : h'.Alike h'') : h.Alike h'' where
  clock := h₂.clock.trans h₁.clock
  cache := h₂.cache.trans h₁.cache
  peer := h₂.peer.trans h₁.peer
  held := h₂.held.trans h₁.held
  client hc := by
    obtain ⟨c', hc', ha⟩ := h₁.client hc
    obtain ⟨c'', hc'', ha'⟩ := h₂.client hc'
    exact ⟨c'', hc'', ha.trans ha'⟩

theorem note {h h' : Host τ} (ha : h.Alike h') (notices : List Notice) :
    h.Alike (h'.note notices) :=
  ⟨ha.clock, ha.cache, ha.peer, ha.held, ha.client⟩

theorem setClient {h : Host τ} {i : Nat} {c c' : Client τ} (hc : h.client? i = some c)
    (ha : c.Alike c') : h.Alike (h.setClient i c') := by
  refine ⟨rfl, rfl, rfl, rfl, fun {j cj} hj => ?_⟩
  by_cases hji : j = i
  · subst hji
    rw [hc, Option.some.injEq] at hj
    exact ⟨c', client?_setClient_self hc, hj ▸ ha⟩
  · exact ⟨cj, by rwa [client?_setClient_of_ne hji], .refl cj⟩

end Alike

theorem alike_report (h : Host τ) (i : Nat) (d : Detection) (v : Visit) :
    h.Alike (h.report i d v).1 := by
  unfold report
  split
  · exact .refl h
  · rename_i c hc
    exact (Alike.setClient hc (c.alike_report d v h.clock)).note _

theorem alike_letThrough (h : Host τ) (i : Nat) (r : Request) (l : Location) (d : Detection)
    (app : App τ) : (app h).1.Alike (h.letThrough i r l d app).1 := by
  rcases letThrough_host h i r l d app with he | ⟨v, he⟩ <;> rw [he]
  · exact .refl _
  · exact alike_report _ i d v

/-- What becomes of a host that serves a request is up to the application, if that runs at all. -/
theorem alike_serve (h : Host τ) (i : Nat) (r : Request) (app : App τ) :
    h.Alike (h.serve i r app).1 ∨ ∃ h₁, h.Alike h₁ ∧ (app h₁).1.Alike (h.serve i r app).1 := by
  rcases serve_cases h i r app with he | ⟨fault, he⟩ | ⟨c, l, hc, -, he⟩ <;> rw [he]
  · exact .inr ⟨h, .refl h, .refl _⟩
  · exact .inl (.refl h)
  · have hd : h.Alike (h.searched i c r) := (Alike.setClient hc (c.alike_detect _ _)).note _
    unfold examine
    split
    · exact .inl hd
    · split_ifs
      · rw [deny_host]
        exact .inl ((hd.note _).trans (alike_report _ i _ _))
      · exact .inr ⟨_, hd, alike_letThrough _ i r l _ app⟩

omit [TimeScale τ] in
theorem MaySync.of_alike {c c' : Client τ} {r : Request} (ha : c.Alike c') (hm : MaySync c' r) :
    MaySync c r :=
  ⟨hm.route, hm.method, ha.refusal? _ ▸ hm.key⟩

end Host

end BotSentry
