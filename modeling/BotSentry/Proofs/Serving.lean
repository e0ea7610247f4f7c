import BotSentry.Host.Admin
import Mathlib.Tactic.Common

/-!
# The ways of a request

A client examines a request if it has a key and the path of the request is not excluded. Any other
request goes to the application as it is, unless it has no location (`serve_cases`). What becomes of
the host when a request is denied or let through is a matter of one report (`deny_host`,
`letThrough_host`). The host's own application changes nothing unless the request is an authorised
one for a synchronisation (`route_cases`).
-/

namespace BotSentry

variable {τ : Type} [TimeScale τ]

/-- A client that examines a request with some location. -/
structure Client.Examines (c : Client τ) (r : Request) (l : Location) : Prop where
  http : r.isHttp = true
  location : Location.ofRequest r = .ok l
  configured : c.settings.isConfigured = true
  included : c.settings.excludes l.path = false

namespace Host

/-- A client has looked for bots and AI products in a request. -/
def searched (h : Host τ) (i : Nat) (c : Client τ) (r : Request) : Host τ :=
  (h.setClient i (c.detect r.userAgent (r.referrer?.getD "")).1).note
    (c.detect r.userAgent (r.referrer?.getD "")).2.1

/-- What a client does with a request that it examines. -/
def examine (h : Host τ) (i : Nat) (c : Client τ) (r : Request) (l : Location) (app : App τ) :
    Host τ × Handled :=
  match (c.detect r.userAgent (r.referrer?.getD "")).2.2 with
  | .error e => (h.searched i c r, .interrupted e)
  | .ok d =>
    if d.blocked then (h.searched i c r).deny i r l d else (h.searched i c r).letThrough i r l d app

/-- A request goes to the application as it is, has no location, or is examined. -/
theorem serve_cases (h : Host τ) (i : Nat) (r : Request) (app : App τ) :
    h.serve i r app = ((app h).1, .ofApp (app h).2)
      ∨ (∃ fault, h.serve i r app = (h, .interrupted (.location fault)))
      ∨ ∃ c l, h.client? i = some c ∧ c.Examines r l ∧ h.serve i r app = h.examine i c r l app := by
  unfold serve
  dsimp only
  split_ifs with hhttp
  · exact .inl rfl
  · split
    · exact .inr (.inl ⟨_, rfl⟩)
    · rename_i l hl
      split
      · exact .inl rfl
      · rename_i c hc
        split_ifs with hskip
        · exact .inl rfl
        · simp only [Bool.or_eq_true, Bool.not_eq_true', not_or, Bool.not_eq_false,
            Bool.not_eq_true] at hhttp hskip
          exact .inr (.inr ⟨c, l, hc, ⟨hhttp, hl, hskip.1, hskip.2⟩, rfl⟩)

theorem deny_host (h : Host τ) (i : Nat) (r : Request) (l : Location) (d : Detection) :
    (h.deny i r l d).1
      = ((h.note [.requestBlocked d.kind.name d.pattern (String.ofList l.path)
          r.clientAddress]).report i d (r.visit l 403 0)).1 := by
  unfold deny
  dsimp only
  split <;> rename_i heq <;> rw [heq]

theorem letThrough_host (h : Host τ) (i : Nat) (r : Request) (l : Location) (d : Detection)
    (app : App τ) : (h.letThrough i r l d app).1 = (app h).1
      ∨ ∃ v, (h.letThrough i r l d app).1 = ((app h).1.report i d v).1 := by
  unfold letThrough
  dsimp only
  split_ifs
  · exact .inl rfl
  · right
    split
    all_goals
      split <;> rename_i heq <;> exact ⟨_, (congrArg Prod.fst heq).symm⟩

/-- A request for a synchronisation by someone who knows the key of the client. -/
structure MaySync (c : Client τ) (r : Request) : Prop where
  route : Route.ofPath? r.path.toList = some .sync
  method : r.method = Route.sync.method
  key : c.refusal? (r.headers.first? "x-api-key") = none

/-- The host's own application changes nothing, or it answers an authorised request for a
synchronisation. -/
theorem route_cases (h : Host τ) (i : Nat) (r : Request) : (route i r h).1 = h
    ∨ ∃ c, h.client? i = some c ∧ MaySync c r ∧ route i r h = h.adminSync i := by
  unfold route
  split
  · split <;> exact .inl rfl
  · rename_i page hpage
    split_ifs with hmethod
    · exact .inl rfl
    · have hmethod : r.method = page.method := by simpa using hmethod
      cases page with
      | health => exact .inl rfl
      | status =>
        dsimp only [adminAnswer]
        split
        · exact .inl rfl
        · split <;> exact .inl rfl
      | sync =>
        dsimp only [adminAnswer]
        split
        · exact .inl rfl
        · rename_i c hc
          split <;> rename_i hkey
          · exact .inl rfl
          · exact .inl rfl
          · exact .inl rfl
          · exact .inr ⟨c, hc, ⟨hpage, hmethod, hkey⟩, rfl⟩

theorem serveOwn_host (h : Host τ) (i : Nat) (r : Request) :
    (h.serveOwn i r).1 = (h.serve i r (route i r)).1 := by
  unfold serveOwn
  dsimp only
  split <;> rfl

end Host

end BotSentry
