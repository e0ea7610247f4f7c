import BotSentry.Proofs.Sending
import BotSentry.Proofs.Steps

/-!
# Without a key

Reports, calls for a synchronisation, requests that pass and requests at the endpoints each ask on their
own whether the client has a key; the workers and what they send do not. That nothing goes out without
one is therefore a fact about the whole host: as long as no client has a key, no request is held back and
no event waits, so that none of the steps that would send something can be taken (`keyless_course`).
What is done to a client then leaves its dataset, the time of its last synchronisation and its queue alone,
and the cache is read at most.
-/

namespace BotSentry

variable {τ : Type} [TimeScale τ]

/-- What a client keeps as long as it has no key. -/
def Client.core (c : Client τ) : Settings × Snapshot × τ × List Event :=
  (c.settings, c.snapshot, c.lastSync, c.reporter.waiting)

/-- The host is not asked to send something itself or to meddle with a client, and a new client has no
key either. -/
def Action.Keyless : Action τ → Prop
  | .build settings => settings.isConfigured = false
  | .markSynced _ | .replace _ | .send _ => False
  | _ => True

namespace Host

/-- No client has a key, and nothing waits for the peer. -/
structure Keyless (h : Host τ) : Prop where
  held : h.held = []
  settings : ∀ c ∈ h.clients, c.settings.isConfigured = false
  waiting : ∀ c ∈ h.clients, c.reporter.waiting = []

/-- Nothing has gone out, and to what there has been at most new clients without a key have come. -/
structure Idle (h h' : Host τ) : Prop where
  seen : h'.peer.seen = h.peer.seen
  held : h'.held = h.held
  cache : h'.cache.Within h.cache
  clients : ∃ fresh : List (Client τ), (∀ c ∈ fresh, c.IsNew ∧ c.settings.isConfigured = false)
    ∧ h'.clients.map Client.core = (h.clients ++ fresh).map Client.core

section Idle

variable {h h' h'' : Host τ} {i : Nat} {c c' : Client τ}

theorem idle_of_clients (hc : h'.clients = h.clients) (hh : h'.held = h.held)
    (hs : h'.peer.seen = h.peer.seen) (hcache : h'.cache.Within h.cache) : Idle h h' :=
  ⟨hs, hh, hcache, [], by simp, by simp [hc]⟩

theorem Idle.refl (h : Host τ) : Idle h h := idle_of_clients rfl rfl rfl (.of_store_eq rfl)

theorem Idle.trans (hi : Idle h h') (hi' : Idle h' h'') : Idle h h'' where
  seen := hi'.seen.trans hi.seen
  held := hi'.held.trans hi.held
  cache := hi'.cache.trans hi.cache
  clients := by
    obtain ⟨fresh, hfresh, hcore⟩ := hi.clients
    obtain ⟨fresh', hfresh', hcore'⟩ := hi'.clients
    refine ⟨fresh ++ fresh', fun c hc => ?_, ?_⟩
    · exact (List.mem_append.1 hc).elim (hfresh c) (hfresh' c)
    · rw [hcore', List.map_append, hcore, ← List.map_append, List.append_assoc]

theorem Idle.note (hi : Idle h h') (notices : List Notice) : Idle h (h'.note notices) :=
  hi.trans (idle_of_clients rfl rfl rfl (.of_store_eq rfl))

theorem idle_setClient (hc : h.client? i = some c) (hcore : c'.core = c.core) :
    Idle h (h.setClient i c') := by
  refine ⟨rfl, rfl, .of_store_eq rfl, [], by simp, ?_⟩
  obtain ⟨hlt, rfl⟩ := List.getElem?_eq_some_iff.1 hc
  simp only [setClient, List.append_nil]
  rw [List.map_set, hcore, ← List.map_set, List.set_getElem_self]

/-- A client that is still there, or a new one, is as it was. -/
theorem Idle.exists_core (hi : Idle h h') (hc : h'.client? i = some c') :
    ∃ c, (h.client? i = some c ∨ h.client? i = none ∧ c.IsNew ∧ c.settings.isConfigured = false)
      ∧ c'.core = c.core := by
  obtain ⟨fresh, hfresh, hcore⟩ := hi.clients
  have hget : ((h.clients ++ fresh)[i]?).map Client.core = some c'.core := by
    rw [← List.getElem?_map, ← hcore, List.getElem?_map, show h'.clients[i]? = some c' from hc]
    rfl
  obtain ⟨c, hmem, hsame⟩ := Option.map_eq_some_iff.1 hget
  refine ⟨c, ?_, hsame.symm⟩
  rcases Nat.lt_or_ge i h.clients.length with hlt | hge
  · rw [List.getElem?_append_left hlt] at hmem
    exact .inl hmem
  · rw [List.getElem?_append_right hge] at hmem
    exact .inr ⟨List.getElem?_eq_none hge, hfresh c (List.mem_of_getElem? hmem)⟩

theorem Idle.keyless (hi : Idle h h') (hk : h.Keyless) : h'.Keyless := by
  have hclient : ∀ c' ∈ h'.clients,
      c'.settings.isConfigured = false ∧ c'.reporter.waiting = [] := by
    intro c' hmem
    obtain ⟨i, hc'⟩ := List.mem_iff_getElem?.1 hmem
    obtain ⟨c, hold | ⟨-, hnew, hconf⟩, hcore⟩ := hi.exists_core hc' <;>
      simp only [Client.core, Prod.mk.injEq] at hcore <;>
      rw [hcore.1, hcore.2.2.2]
    · have hmem := List.mem_of_getElem? hold
      exact ⟨hk.settings c hmem, hk.waiting c hmem⟩
    · obtain ⟨settings, snapshot, lastSync, rfl⟩ := hnew.fresh
      exact ⟨hconf, rfl⟩
  exact ⟨hi.held.trans hk.held, fun c hc => (hclient c hc).1, fun c hc => (hclient c hc).2⟩

/-! ## Single steps -/

theorem Keyless.callSync (hk : h.Keyless) (i : Nat) (mode : SyncMode τ) (caller : Caller) :
    (h.callSync i mode caller).1 = h
      ∧ ∀ d, (h.callSync i mode caller).2 ≠ some (.ok (some (.ok d))) := by
  unfold Host.callSync
  rcases hc : h.client? i with _ | c
  · exact ⟨rfl, by simp⟩
  · have hconf := hk.settings c (List.mem_of_getElem? hc)
    cases mode with
    | plain => simp [Client.syncObstacle?, hconf]
    | whenDue now => simp [Client.wantsSync, hconf]

theorem Keyless.report (hk : h.Keyless) (i : Nat) (d : Detection) (v : Visit) :
    (h.report i d v).1 = h := by
  rcases hc : h.client? i with _ | c
  · simp only [Host.report, hc]
  · have hconf := hk.settings c (List.mem_of_getElem? hc)
    have hcases := report_cases hc d v
    generalize h.report i d v = result at hcases ⊢
    cases hcases with
    | skipped => rfl
    | undated hset | queued hset | full hset => simp [hconf] at hset

theorem Keyless.idle_start (hk : h.Keyless) (i : Nat) : Idle h (h.start i) := by
  unfold Host.start
  split
  · exact .refl h
  · rename_i c hc
    refine (idle_setClient hc ?_).note _
    have hwaiting := hk.waiting c (List.mem_of_getElem? hc)
    simp only [Client.core, Reporter.start]
    split_ifs <;> simp [Reporter.taken, hwaiting]

theorem Keyless.idle_stop (hk : h.Keyless) (i : Nat) (hasTime : Bool) :
    Idle h (h.stop i hasTime) := by
  unfold Host.stop
  split
  · exact .refl h
  · rename_i c hc
    split_ifs
    · exact .refl h
    · have hhalted : Idle h (h.setClient i { c with reporter := c.reporter.halt }) :=
        idle_setClient hc rfl
      refine hhalted.trans (idle_of_clients rfl ?_ rfl (.of_store_eq rfl))
      simp [Host.note, Host.setClient, hk.held]

theorem idle_build {settings : Settings} (hs : settings.isConfigured = false) :
    Idle h (h.build settings).1 := by
  unfold Host.build
  split
  · exact .refl h
  · rename_i c cache notices hb
    have hnew : c.IsNew := ⟨_, _, _, _, _, hb⟩
    unfold Client.build at hb
    split at hb
    · simp at hb
    · rename_i hread
      dsimp only at hb
      split at hb
      · simp at hb
      · simp only [Except.ok.injEq, Prod.mk.injEq] at hb
        obtain ⟨rfl, rfl, -⟩ := hb
        exact ⟨rfl, rfl, Cache.within_dataset hread, [_], by simpa using ⟨hnew, hs⟩, rfl⟩

end Idle

/-- As long as no client has a key, nothing that the host is asked for goes out. -/
theorem keyless_course : Course (Action.Keyless (τ := τ)) fun h h' => h.Keyless → Idle h h' where
  refl h _ := .refl h
  trans hi hi' hk := (hi hk).trans (hi' ((hi hk).keyless hk))
  surroundings hc hh hs hcache _ := idle_of_clients hc hh hs hcache
  detect _ _ hc _ := idle_setClient hc rfl
  detectBot _ hc _ := idle_setClient hc rfl
  report h i d v hk := by
    rw [hk.report]
    exact .refl h
  start _ i hk := hk.idle_start i
  stop _ i hasTime hk := hk.idle_stop i hasTime
  send {h i worker c e r} hc ht hk := by
    obtain ⟨hw, -⟩ := ht
    rw [hk.waiting c (List.mem_of_getElem? hc)] at hw
    cases hw
  sent hx _ hk := by simp [hk.held] at hx
  call h i mode caller hk := by
    rw [(hk.callSync i mode caller).1]
    exact .refl h
  synced hx _ hk := by simp [hk.held] at hx
  cancel hx _ hk := by simp [hk.held] at hx
  marked {h h' i c d} hsync _ hk := by
    -- Without a key no call succeeds, so that there is no time to mark.
    obtain ⟨-, hne⟩ := hk.callSync i .plain .host
    rcases hcall : h.callSync i .plain .host with ⟨h₁, _ | e⟩
    · simp [Host.sync, hcall] at hsync
    · simp only [Host.sync, hcall, Option.getD_some, Prod.mk.injEq] at hsync
      rw [hcall, hsync.2] at hne
      exact absurd rfl (hne d)
  build _ _ hs _ := idle_build hs
  mark ha := ha.elim
  replace _ _ ha := ha.elim
  sendNow _ _ _ ha := ha.elim

/-- Whatever a host is asked for whose clients have no key, no request goes out, no event waits, nothing
is written to the cache, and the dataset of every client and the time of its last synchronisation stay
what they have been, or what they were when the client was built. -/
theorem run_keyless {h : Host τ} (hk : h.Keyless) {actions : List (Action τ)}
    (ha : ∀ a ∈ actions, a.Keyless) :
    (h.run actions).peer.seen = h.peer.seen
      ∧ (∀ c ∈ (h.run actions).clients, c.reporter.waiting = [])
      ∧ (h.run actions).cache.Within h.cache
      ∧ ∀ i c', (h.run actions).client? i = some c' → ∃ c,
        (h.client? i = some c ∨ h.client? i = none ∧ c.IsNew)
          ∧ c'.snapshot = c.snapshot ∧ c'.lastSync = c.lastSync := by
  have hidle := keyless_course.run h ha hk
  refine ⟨hidle.seen, (hidle.keyless hk).waiting, hidle.cache, fun i c' hc' => ?_⟩
  obtain ⟨c, hold, hcore⟩ := hidle.exists_core hc'
  simp only [Client.core, Prod.mk.injEq] at hcore
  exact ⟨c, hold.imp_right fun hnew => ⟨hnew.1, hnew.2.1⟩, hcore.2.1, hcore.2.2.1⟩

/-- A host with a client without a key, whose peer has prepared an answer. -/
def keylessHost : Host Micros where
  clock := ⟨0⟩
  peer := { answers := [{ outcome := .response 200 [] }] }
  clients := [{ settings := {}, snapshot := { dataset := .bootstrap }, lastSync := ⟨0⟩ }]

/-- A bot is reported and served, synchronisations are called for and asked for at the endpoint, and the
host is started again. -/
def keylessActions : List (Action Micros) := [
  .start, .report "GPTBot/1.2" "" {}, .sync true, .syncWhenDue none false,
  .serveOwn { method := "POST", path := "/admin/spyglasses/sync" }, .build {},
  .live true [{ path := "/p", headers := [("user-agent", "GPTBot/1.2")] }], .flush, .stop true]

theorem keylessHost_sends_nothing :
    keylessHost.Keyless ∧ (∀ a ∈ keylessActions, a.Keyless)
      ∧ (keylessHost.run keylessActions).peer.seen = []
      ∧ ∀ c ∈ (keylessHost.run keylessActions).clients, c.reporter.waiting = [] := by
  have hk : keylessHost.Keyless :=
    ⟨rfl, by simp [keylessHost, Settings.isConfigured], by simp [keylessHost]⟩
  have ha : ∀ a ∈ keylessActions, a.Keyless := by
    simp [keylessActions, Action.Keyless, Settings.isConfigured]
  obtain ⟨hseen, hwaiting, -⟩ := run_keyless hk ha
  have hnone : keylessHost.peer.seen = [] := rfl
  exact ⟨hk, ha, hseen.trans hnone, hwaiting⟩

end Host

end BotSentry
