import BotSentry.Proofs.Commit
import BotSentry.Proofs.Payloads
import BotSentry.Proofs.Reference
import BotSentry.Proofs.Sending
import BotSentry.Proofs.Startup
import BotSentry.Proofs.Steps

/-!
# Where a dataset comes from

A client starts from the dataset that its cache provides, and what comes into force after it are the
datasets that its synchronisations bring, each when it succeeds. A run of the host is a trace of such
successes, between which the dataset stays (`traces_course`); the one in force is the last of the trace
(`Traces.exists_dataset`). Both the document of a cache and the answer to a request are checked, so that
every dataset in force has patterns, and none of them is empty. Whatever a client finds is drawn from its
dataset, whatever patterns its engine remembers (`Client.Finds.drawnFrom`).
-/

namespace BotSentry

variable {τ : Type} [TimeScale τ]

/-! ## Datasets in force -/

/-- There are patterns to search for, and none of them is empty. -/
structure Dataset.WellFormed (d : Dataset) : Prop where
  patterns : d.patterns ≠ []
  pattern : ∀ p ∈ d.patterns, p.pattern ≠ ""

theorem Dataset.wellFormed_bootstrap : bootstrap.WellFormed where
  patterns := by simp [bootstrap]
  pattern := by simp [bootstrap, assistant, trainer]

theorem Cache.Provides.wellFormed {c : Cache τ} {now : τ} {d : Dataset} (h : c.Provides now d) :
    d.WellFormed := by
  rcases h with ⟨entry, -, -, hd, hne⟩ | ⟨-, rfl⟩
  · exact ⟨hne, Dataset.ne_empty_of_ofBytes hd⟩
  · exact Dataset.wellFormed_bootstrap

theorem Outcome.Yields.wellFormed {now : Except TimeFault DateTime} {outcome : Outcome}
    {d : Dataset} (h : outcome.Yields now d) : d.WellFormed := by
  obtain ⟨-, -, -, hd⟩ := h
  obtain ⟨hne, hpatterns, -⟩ := Dataset.ofPayload_ok hd
  exact ⟨hne, hpatterns⟩

/-! ## What is found in a dataset -/

/-- What is found is an entry of the dataset, with a pattern of that entry, and an AI product is never
blocked. -/
def Detection.DrawnFrom (found : Detection) (d : Dataset) : Prop :=
  match found with
  | .none => True
  | .bot info _ pattern => info ∈ d.patterns ∧ pattern = some (Text.ofString info.pattern)
  | .referrer info pattern => info ∈ d.referrers
    ∧ (∃ p ∈ info.patterns, p ≠ [] ∧ pattern = some p) ∧ found.blocked = false

theorem Dataset.hostDetection_drawnFrom (d : Dataset) (referrer : String) :
    (d.hostDetection referrer).DrawnFrom d := by
  unfold hostDetection
  split_ifs
  · trivial
  · split
    · trivial
    · rename_i r p hfind
      have hmem := List.mem_of_find?_eq_some hfind
      have hp : p ≠ [] ∧ p <:+: Text.ofString (referrerHost referrer) := by
        simpa using List.find?_some hfind
      simp only [hostPatterns, List.mem_flatMap, List.mem_map, Prod.mk.injEq] at hmem
      obtain ⟨r, hr, p, hmem, rfl, rfl⟩ := hmem
      exact ⟨hr, ⟨p, hmem, hp.1, rfl⟩, rfl⟩

namespace Engine

theorem firstBot_mem {userAgent : String} {bot : BotPattern} :
    ∀ {bots : List BotPattern} {patterns : CompiledPatterns},
      firstBot userAgent bots patterns = some bot → bot ∈ bots
  | [], _, h => by simp [firstBot] at h
  | _ :: _, [], h => by simp [firstBot] at h
  | b :: bots, p :: patterns, h => by
    rw [firstBot] at h
    split_ifs at h
    · exact List.mem_cons.2 (.inl (Option.some.inj h).symm)
    · exact List.mem_cons_of_mem b (firstBot_mem h)

variable {engine : Engine} {snapshot : Snapshot} {userAgent referrer : String} {found : Detection}

/-- What the engine remembers decides which bot is found, but not what is said about it. -/
theorem detectBot_drawnFrom (h : (engine.detectBot snapshot userAgent).result = .ok found) :
    found.DrawnFrom snapshot.dataset := by
  unfold detectBot at h
  split_ifs at h
  · obtain rfl := Except.ok.inj h
    trivial
  · rcases he : engine.compiled snapshot with ⟨engine', notices, refusal | patterns⟩
    · simp [he, Except.map] at h
    · simp only [he, Except.map, Except.ok.injEq] at h
      rcases hb : firstBot userAgent snapshot.dataset.patterns patterns with _ | bot
      · simp only [hb] at h
        subst h
        trivial
      · simp only [hb] at h
        subst h
        exact ⟨firstBot_mem hb, rfl⟩

theorem detect_drawnFrom (h : (engine.detect snapshot userAgent referrer).result = .ok found) :
    found.DrawnFrom snapshot.dataset := by
  unfold detect at h
  dsimp only at h
  split at h
  · obtain rfl := Except.ok.inj h
    rw [detectReferrer_eq]
    exact snapshot.dataset.hostDetection_drawnFrom referrer
  · exact detectBot_drawnFrom h

end Engine

/-- A client finds something, in one of its three ways. -/
inductive Client.Finds (c : Client τ) : Detection → Prop
  | detect {userAgent referrer : String} {found : Detection} :
      (c.detect userAgent referrer).2.2 = .ok found → Finds c found
  | detectBot {userAgent : String} {found : Detection} :
      (c.detectBot userAgent).2.2 = .ok found → Finds c found
  | detectReferrer (referrer : String) : Finds c (c.detectReferrer referrer)

omit [TimeScale τ] in
theorem Client.Finds.drawnFrom {c : Client τ} {found : Detection} (h : c.Finds found) :
    found.DrawnFrom c.snapshot.dataset := by
  have hresult : ∀ r : Except Pattern.Refusal Detection,
      r.mapError Interruption.pattern = .ok found → r = .ok found := by
    intro r hr
    cases r <;> simp_all [Except.mapError]
  cases h with
  | detect h => exact Engine.detect_drawnFrom (hresult _ h)
  | detectBot h => exact Engine.detectBot_drawnFrom (hresult _ h)
  | detectReferrer referrer =>
    change (Engine.detectReferrer c.snapshot referrer).DrawnFrom _
    rw [Engine.detectReferrer_eq]
    exact c.snapshot.dataset.hostDetection_drawnFrom referrer

namespace Host

/-! ## Traces -/

/-- A client is still there, and its dataset is still in force. -/
def Retains (i : Nat) (h h' : Host τ) : Prop :=
  ∀ c, h.client? i = some c → ∃ c', h'.client? i = some c' ∧ c'.snapshot = c.snapshot

/-- A synchronisation of a client succeeds, at once or when its request is let go. -/
inductive Brings (i : Nat) (d : Dataset) (h h' : Host τ) : Prop
  | atOnce {mode : SyncMode τ} {caller : Caller} :
      h.callSync i mode caller = (h', some (.ok (some (.ok d)))) → Brings i d h h'
  | landed {before after : List (Held τ)} {mode : SyncMode τ} {caller : Caller} {outcome : Outcome} :
      h.held = before ++ { client := i, task := .sync mode caller, outcome } :: after →
      { h with held := before ++ after }.endSync i mode outcome = (h', .ok (some (.ok d))) →
      Brings i d h h'

/-- Steps of a host, and the datasets that synchronisations of a client bring on the way; everything
else leaves its dataset in force. -/
inductive Traces (i : Nat) : List Dataset → Host τ → Host τ → Prop
  | refl (h : Host τ) : Traces i [] h h
  | quiet {ds : List Dataset} {h h' h'' : Host τ} : Traces i ds h h' → Step h' h'' →
      Retains i h' h'' → Traces i ds h h''
  | brought {ds : List Dataset} {d : Dataset} {h h' h'' : Host τ} : Traces i ds h h' →
      Brings i d h' h'' → Traces i (ds ++ [d]) h h''

section Traces

variable {i j : Nat} {h h' h'' : Host τ} {c c' : Client τ}

theorem Brings.exists_yields {d : Dataset} (hd : Brings i d h h') (hc : h.client? i = some c) :
    ∃ (c' : Client τ) (outcome : Outcome), h'.client? i = some c'
      ∧ outcome.Yields (TimeScale.toDateTime h.clock) d ∧ c'.snapshot.dataset = d := by
  cases hd with
  | atOnce hcall =>
    obtain ⟨c', hc', -, hall⟩ := callSync_allOrNothing hc hcall
    rcases hall with ⟨hy, hd, -, -⟩ | ⟨hne, -⟩
    · exact ⟨c', _, hc', hy, hd⟩
    · exact absurd rfl (hne d)
  | @landed before after mode caller outcome _ hend =>
    have hwithout : { h with held := before ++ after }.client? i = some c := hc
    obtain ⟨c', hc', -, hall⟩ := endSync_allOrNothing hwithout mode outcome
    rw [hend] at hc' hall
    rcases hall with ⟨hy, hd, -, -⟩ | ⟨hne, -⟩
    · exact ⟨c', outcome, hc', hy, hd⟩
    · exact absurd rfl (hne d)

/-- The dataset in force is the last of the trace, or the one before it. -/
theorem Traces.exists_dataset {ds : List Dataset} (ht : Traces i ds h h')
    (hc : h.client? i = some c) (hd : c.snapshot.dataset.WellFormed) :
    ∃ c', h'.client? i = some c' ∧ c'.snapshot.dataset = ds.getLastD c.snapshot.dataset
      ∧ c'.snapshot.dataset.WellFormed := by
  induction ht with
  | refl => exact ⟨c, hc, rfl, hd⟩
  | quiet _ _ hr ih =>
    obtain ⟨c₁, hc₁, hd₁, hwf⟩ := ih hc
    obtain ⟨c', hc', hs⟩ := hr c₁ hc₁
    exact ⟨c', hc', by rw [hs, hd₁], by rwa [hs]⟩
  | brought _ hb ih =>
    obtain ⟨c₁, hc₁, -, -⟩ := ih hc
    obtain ⟨c', outcome, hc', hy, hd'⟩ := hb.exists_yields hc₁
    exact ⟨c', hc', by rw [hd', List.getLastD_concat], by rw [hd']; exact hy.wellFormed⟩

theorem Traces.append {ds ds' : List Dataset} (ht : Traces i ds h h') (ht' : Traces i ds' h' h'') :
    Traces i (ds ++ ds') h h'' := by
  induction ht' with
  | refl => rwa [List.append_nil]
  | quiet _ hs hr ih => exact .quiet (ih ht) hs hr
  | brought _ hb ih =>
    rw [← List.append_assoc]
    exact .brought (ih ht) hb

theorem traces_of_step (hs : Step h h') (hr : Retains i h h') : ∃ ds, Traces i ds h h' :=
  ⟨[], .quiet (.refl h) hs hr⟩

/-! ## What leaves a dataset in force -/

section Retains

omit [TimeScale τ]

theorem Retains.trans (hr : Retains i h h') (hr' : Retains i h' h'') : Retains i h h'' := by
  intro c hc
  obtain ⟨c', hc', hs⟩ := hr c hc
  obtain ⟨c'', hc'', hs'⟩ := hr' c' hc'
  exact ⟨c'', hc'', hs'.trans hs⟩

theorem retains_of_clients (he : h'.clients = h.clients) : Retains i h h' := by
  intro c hc
  exact ⟨c, by rwa [client?, he], rfl⟩

theorem retains_of_alike (ha : h.Alike h') : Retains i h h' := by
  intro c hc
  obtain ⟨c', hc', hac⟩ := ha.client hc
  exact ⟨c', hc', hac.snapshot⟩

theorem retains_setClient (hc : h.client? j = some c) (hs : c'.snapshot = c.snapshot) :
    Retains i h (h.setClient j c') := by
  intro c₁ hi
  by_cases hij : i = j
  · subst hij
    rw [hc, Option.some.injEq] at hi
    exact ⟨c', client?_setClient_self hc, hi ▸ hs⟩
  · exact ⟨c₁, by rwa [client?_setClient_of_ne hij], rfl⟩

theorem retains_free (x : Held τ) : Retains i h (h.free x) := by
  unfold free
  split
  · exact retains_of_clients rfl
  · rename_i c hc
    exact retains_setClient hc rfl

theorem retains_finishEvent (worker : Nat) (outcome : Outcome) :
    Retains i h (h.finishEvent j worker outcome) := by
  unfold finishEvent
  split
  · exact retains_of_clients rfl
  · rename_i c hc
    exact retains_setClient hc rfl

theorem retains_sendEvent (hc : h.client? j = some c) (r : Reporter) (worker : Nat) (e : Event) :
    Retains i h (h.sendEvent j worker { c with reporter := r } e) := by
  have hposted : Retains i h (h.posted j { c with reporter := r } e) :=
    retains_setClient hc rfl
  have hcases := sendEvent_cases h j worker { c with reporter := r } e
  generalize h.sendEvent j worker { c with reporter := r } e = h' at hcases ⊢
  cases hcases with
  | unwritten => exact retains_setClient hc rfl
  | answered => exact hposted.trans (retains_finishEvent worker _)
  | held => exact hposted.trans (retains_of_clients rfl)

theorem retains_start : Retains i h (h.start j) := by
  unfold start
  split
  · exact retains_of_clients rfl
  · rename_i c hc
    exact retains_setClient hc rfl

theorem retains_stop (hasTime : Bool) : Retains i h (h.stop j hasTime) := by
  unfold stop
  split
  · exact retains_of_clients rfl
  · rename_i c hc
    split
    · exact retains_of_clients rfl
    · exact retains_setClient hc rfl

theorem retains_build (h : Host τ) (c : Client τ) :
    Retains i h { h with clients := h.clients ++ [c] } := by
  intro c₁ hc₁
  have hlt : i < h.clients.length := client?_lt hc₁
  exact ⟨c₁, (List.getElem?_append_left hlt).trans hc₁, rfl⟩

end Retains

/-! ### Synchronisations -/

theorem client?_endSync_of_ne (hij : i ≠ j) (h : Host τ) (mode : SyncMode τ) (outcome : Outcome) :
    (h.endSync j mode outcome).1.client? i = h.client? i := by
  unfold endSync
  split
  · rfl
  · dsimp only
    split <;> exact client?_setClient_of_ne hij

theorem client?_callSync_of_ne (hij : i ≠ j) (h : Host τ) (mode : SyncMode τ) (caller : Caller) :
    (h.callSync j mode caller).1.client? i = h.client? i := by
  rcases hc : h.client? j with _ | c
  · rw [callSync_of_none hc]
  · have hcases := callSync_cases hc mode caller
    generalize h.callSync j mode caller = result at hcases ⊢
    cases hcases with
    | refused | skipped => rfl
    | @requested notices _ _ hr =>
      have hbegun : ((h.note notices).begun j c).client? i = h.client? i :=
        client?_setClient_of_ne hij
      cases hr with
      | answered => rw [client?_endSync_of_ne hij, hbegun]
      | givenUp => rw [client?_setClient_of_ne hij, hbegun]
      | held => exact hbegun

/-- Without success the end of a synchronisation leaves every dataset in force. -/
theorem retains_endSync {mode : SyncMode τ} {outcome : Outcome}
    (hne : i = j → ∀ d, (h.endSync j mode outcome).2 ≠ .ok (some (.ok d))) :
    Retains i h (h.endSync j mode outcome).1 := by
  intro c hc
  by_cases hij : i = j
  · subst hij
    obtain ⟨c', hc', -, hall⟩ := endSync_allOrNothing hc mode outcome
    exact ⟨c', hc', (hall.unchanged (hne rfl)).snapshot⟩
  · exact ⟨c, by rwa [client?_endSync_of_ne hij], rfl⟩

theorem retains_callSync {mode : SyncMode τ} {caller : Caller}
    (hne : i = j → ∀ d, (h.callSync j mode caller).2 ≠ some (.ok (some (.ok d)))) :
    Retains i h (h.callSync j mode caller).1 := by
  intro c hc
  by_cases hij : i = j
  · subst hij
    rcases hcall : h.callSync i mode caller with ⟨h', _ | e⟩
    · obtain ⟨-, -, c', hc', -, hu, -⟩ := callSync_held hc hcall
      exact ⟨c', hc', hu.snapshot⟩
    · obtain ⟨c', hc', -, hall⟩ := callSync_allOrNothing hc hcall
      rw [hcall] at hne
      exact ⟨c', hc', (hall.unchanged fun d he => hne rfl d (by rw [he])).snapshot⟩
  · exact ⟨c, by rwa [client?_callSync_of_ne hij], rfl⟩

/-! ## Runs -/

theorem traces_callSync (i : Nat) (h : Host τ) (j : Nat) (mode : SyncMode τ) (caller : Caller) :
    ∃ ds, Traces i ds h (h.callSync j mode caller).1 := by
  by_cases hd : i = j ∧ ∃ d, (h.callSync j mode caller).2 = some (.ok (some (.ok d)))
  · obtain ⟨rfl, d, hd⟩ := hd
    exact ⟨[d], .brought (.refl h) (.atOnce (Prod.ext rfl hd))⟩
  · refine traces_of_step (.call h j mode caller) (retains_callSync fun hij d he => ?_)
    exact hd ⟨hij, d, he⟩

theorem traces_endSync (i : Nat) {before after : List (Held τ)} {x : Held τ} {mode : SyncMode τ}
    {caller : Caller} (hx : h.held = before ++ x :: after) (htask : x.task = .sync mode caller) :
    ∃ ds, Traces i ds h ({ h with held := before ++ after }.endSync x.client mode x.outcome).1 := by
  by_cases hd : i = x.client
      ∧ ∃ d, ({ h with held := before ++ after }.endSync x.client mode x.outcome).2
        = .ok (some (.ok d))
  · obtain ⟨rfl, d, hd⟩ := hd
    obtain ⟨client, task, outcome⟩ := x
    subst htask
    exact ⟨[d], .brought (.refl h) (.landed hx (Prod.ext rfl hd))⟩
  · have hheld : Retains i h { h with held := before ++ after } := retains_of_clients rfl
    refine traces_of_step (.synced hx htask) (hheld.trans (retains_endSync fun hij d he => ?_))
    exact hd ⟨hij, d, he⟩

/-- Unless the host brings a dataset into force itself, all that it does is a trace. -/
theorem traces_course (i : Nat) : Course (fun a : Action τ => ∀ d, a ≠ .replace d)
    fun h h' => ∃ ds, Traces i ds h h' where
  refl h := ⟨[], .refl h⟩
  trans := by
    rintro h h' h'' ⟨ds, ht⟩ ⟨ds', ht'⟩
    exact ⟨ds ++ ds', ht.append ht'⟩
  surroundings hc hh _ _ := traces_of_step (.surroundings hc hh) (retains_of_clients hc)
  detect userAgent referrer hc :=
    traces_of_step (.detect userAgent referrer hc) (retains_setClient hc rfl)
  detectBot userAgent hc := traces_of_step (.detectBot userAgent hc) (retains_setClient hc rfl)
  report h j d v := traces_of_step (.report h j d v) (retains_of_alike (alike_report h j d v))
  start h j := traces_of_step (.start h j) retains_start
  stop h j hasTime := traces_of_step (.stop h j hasTime) (retains_stop hasTime)
  send {h j worker c e r} hc ht := traces_of_step (.send hc ht) (retains_sendEvent hc r worker e)
  sent {h before after x worker} hx ht := by
    have hheld : Retains i h { h with held := before ++ after } := retains_of_clients rfl
    exact traces_of_step (.sent hx ht) (hheld.trans (retains_finishEvent worker x.outcome))
  call h j mode caller := traces_callSync i h j mode caller
  synced hx ht := traces_endSync i hx ht
  cancel {h before after x mode caller} hx ht := by
    have hheld : Retains i h { h with held := before ++ after } := retains_of_clients rfl
    exact traces_of_step (.cancel hx ht) (hheld.trans (retains_free x))
  marked {h h' j c d} hsync hc := by
    -- The dataset has come with the call; the time is marked after it.
    obtain ⟨ds, ht⟩ := traces_callSync i h j .plain .host
    have hcall : (h.callSync j .plain .host).1 = h' := congrArg Prod.fst hsync
    rw [hcall] at ht
    exact ⟨ds, ht.quiet (.mark _ hc) (retains_setClient hc rfl)⟩
  build h settings _ := by
    unfold build
    split
    · exact ⟨[], .refl h⟩
    · rename_i c cache notices hb
      have hbuilt : Traces i [] h { h with clients := h.clients ++ [c] } :=
        .quiet (.refl h) (.build ⟨_, _, _, _, _, hb⟩) (retains_build h c)
      exact ⟨[], hbuilt.quiet (.surroundings rfl rfl) (retains_of_clients rfl)⟩
  mark _ hc := traces_of_step (.mark _ hc) (retains_setClient hc rfl)
  replace h d hd := absurd rfl (hd d)
  sendNow h c document _ := by
    obtain ⟨hc, hh⟩ := sendNow_same h c document
    exact traces_of_step (.surroundings hc hh) (retains_of_clients hc)

/-! ## Clients from their beginning -/

/-- A client that has been built starts from what its cache provides. -/
theorem exists_client_of_build {settings : Settings} (hb : h.build settings = (h', .ok ())) :
    ∃ c, h'.client? h.clients.length = some c ∧ h.cache.Provides h.clock c.snapshot.dataset := by
  unfold build at hb
  split at hb
  · simp at hb
  · rename_i c cache notices hbuild
    simp only [Prod.mk.injEq, and_true] at hb
    have hread : h.cache.noReading = none := by
      rcases hr : h.cache.noReading with _ | reason
      · rfl
      · simp [Client.build, Cache.dataset, Cache.get, hr] at hbuild
    obtain ⟨cached, -, -, -, hd⟩ := Cache.exists_provides hread h.clock
    obtain ⟨snapshot, _, _, hsnapshot, he⟩ := Client.build_of_provides settings hread hd
    rw [he] at hbuild
    split at hbuild
    · simp at hbuild
    · simp only [Except.ok.injEq, Prod.mk.injEq] at hbuild
      refine ⟨c, ?_, ?_⟩
      · rw [← hb]
        exact List.getElem?_concat_length
      · rwa [← hbuild.1, hsnapshot]

/-- Whatever happens to a client once it has been built, except that the host brings a dataset into
force itself, is a trace of its successful synchronisations. At every moment of it the dataset in force
is that of the last one, or the one from which the client has started, it has patterns, none of which is
empty, and whatever the client finds is drawn from it. -/
theorem dataset_provenance {h₁ : Host τ} {settings : Settings}
    (hb : h.build settings = (h₁, .ok ())) :
    (∀ actions : List (Action τ), (∀ a ∈ actions, ∀ d, a ≠ .replace d) →
        ∃ ds, Traces h.clients.length ds h₁ (h₁.run actions))
      ∧ ∃ d₀, h.cache.Provides h.clock d₀ ∧ ∀ ds h', Traces h.clients.length ds h₁ h' →
        ∃ c, h'.client? h.clients.length = some c ∧ c.snapshot.dataset = ds.getLastD d₀
          ∧ c.snapshot.dataset.WellFormed
          ∧ ∀ found, c.Finds found → found.DrawnFrom c.snapshot.dataset := by
  obtain ⟨c₀, hc₀, hd₀⟩ := exists_client_of_build hb
  refine ⟨fun actions ha => (traces_course _).run h₁ ha, _, hd₀, fun ds h' ht => ?_⟩
  obtain ⟨c, hc, hd, hwf⟩ := ht.exists_dataset hc₀ hd₀.wellFormed
  exact ⟨c, hc, hd, hwf, fun found hf => hf.drawnFrom⟩

end Traces

/-- A host without clients, whose peer has prepared an answer with one pattern. -/
def emptyHost : Host Micros where
  clock := ⟨0⟩
  peer := { answers := [{ outcome := .response 200 onePatternBody }] }

/-- Its first client. -/
def builtHost : Host Micros := (emptyHost.build { apiKey := "key" }).1

/-- Once the client has been synchronised, it finds by the one pattern that this has brought. -/
theorem provenance_of_one_pattern :
    emptyHost.build { apiKey := "key" } = (builtHost, .ok ())
      ∧ (∃ ds, Traces 0 ds builtHost (builtHost.run [.sync false, .detect "ab" "", .stop true]))
      ∧ ∃ d h', d.patterns.length = 1 ∧ Traces 0 [d] builtHost h' ∧ ∃ c, h'.client? 0 = some c
        ∧ c.snapshot.dataset = d ∧ ∀ found, c.Finds found → found.DrawnFrom d := by
  have hbuilt : emptyHost.build { apiKey := "key" } = (builtHost, .ok ()) := rfl
  obtain ⟨hrun, d₀, -, hmoments⟩ := dataset_provenance hbuilt
  refine ⟨hbuilt, hrun _ (by simp), ?_⟩
  have hbody : Json.ofDocument onePatternBody = .ok onePattern := rfl
  obtain ⟨t, ht⟩ : ∃ t, TimeScale.toDateTime builtHost.clock = .ok t := ⟨_, rfl⟩
  obtain ⟨d, hd, hlength⟩ : ∃ d, Dataset.ofPayload onePattern t = .ok d ∧ d.patterns.length = 1 :=
    ⟨_, rfl, rfl⟩
  obtain ⟨c₁, hc₁, hfree⟩ : ∃ c, builtHost.client? 0 = some c ∧ c.syncObstacle? = none :=
    ⟨_, rfl, rfl⟩
  have hend := (endSync_eq_dataset_iff (client?_begun hc₁) .plain builtHost.peer.nextOutcome d).2
    (.mk (by decide) hbody ht hd)
  have hcall : builtHost.callSync 0 .plain .host
      = (((builtHost.begun 0 c₁).endSync 0 .plain builtHost.peer.nextOutcome).1,
        some (.ok (some (.ok d)))) := by
    rw [callSync_plain hc₁ hfree, requestSync_answered rfl, hend]
  have htraces : Traces 0 [d] builtHost _ := .brought (.refl _) (.atOnce hcall)
  obtain ⟨c, hc, hdataset, -, hfound⟩ := hmoments _ _ htraces
  have hdataset : c.snapshot.dataset = d := hdataset
  exact ⟨d, _, hlength, htraces, c, hc, hdataset, fun found hf => hdataset ▸ hfound found hf⟩

end Host

end BotSentry
