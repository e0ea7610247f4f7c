import BotSentry.Proofs.Authorisation
import BotSentry.Proofs.DatasetDocuments
import BotSentry.Proofs.Times

/-!
# What the page of the state tells

The page tells the dataset in force and when it was last synchronised. It fails where that cannot be
written: if the version of the dataset has a surrogate, or if the time is none that a calendar shows
(`Client.Tellable`). A run of which every moment has a date does not bring up such a time, but a client
can start with one: the calendar of a cached dataset may be ahead of or behind the universal one, which
then leaves the years 1 to 9999 (`Host.tellable_of_build_iff`).
-/

namespace BotSentry

open Text Json

/-! ## Documents with surrogates -/

namespace Json

/-- An object has bytes if its names and its values have. -/
theorem isUnicode_writeFields_iff {l : List (Text × Json)} (hnames : ∀ f ∈ l, IsUnicode f.1) :
    IsUnicode (writeFields false l) ↔ ∀ f ∈ l, IsUnicode (write false f.2) := by
  refine ⟨fun h => ?_, isUnicode_writeFields hnames⟩
  induction l with
  | nil => simp
  | cons f l ih =>
    obtain ⟨k, v⟩ := f
    obtain ⟨-, hnames⟩ := List.forall_mem_cons.1 hnames
    rw [List.forall_mem_cons]
    cases l with
    | nil =>
      simp only [writeFields, isUnicode_append, isUnicode_cons] at h
      exact ⟨h.2, by simp⟩
    | cons g l =>
      simp only [writeFields, isUnicode_append, isUnicode_cons] at h
      exact ⟨h.1.2, ih hnames h.2⟩

theorem isUnicode_write_mkObj (fields : List (String × Json)) :
    IsUnicode (write false (.mkObj fields)) ↔ ∀ f ∈ fields, IsUnicode (write false f.2) := by
  have hnames : ∀ f ∈ namedFields fields, IsUnicode f.1 :=
    List.forall_mem_map.2 fun f _ => isUnicode_ofChars
  have hfields := isUnicode_writeFields_iff hnames
  simp only [namedFields, List.forall_mem_map] at hfields
  simpa [mkObj, write] using hfields

end Json

/-! ## The page -/

/-- A calendar shows a time. -/
def ShowsDate {τ : Type} [TimeScale τ] (t : τ) : Prop := ∃ d, TimeScale.toDateTime t = .ok d

/-- On the exact scale these are the times in the years 1 to 9999. -/
theorem Micros.showsDate_iff (x : Micros) : ShowsDate x
    ↔ 0 ≤ x.count + DateTime.epoch ∧ x.count + DateTime.epoch < DateTime.limit := by
  change (∃ d, Micros.toDateTime x = .ok d) ↔ _
  rw [Micros.toDateTime]
  simp only [Bool.and_eq_true, decide_eq_true_eq]
  split_ifs with hshown
  · exact iff_of_true ⟨_, rfl⟩ hshown
  · exact iff_of_false (by simp) hshown

theorem Micros.count_add_epoch {t : DateTime} {x : Micros} (h : TimeScale.ofDateTime t = .ok x) :
    x.count + DateTime.epoch = t.instant := by
  change (if _ then _ else _) = _ at h
  split_ifs at h
  obtain rfl := Except.ok.inj h
  exact Int.sub_add_cancel _ _

variable {τ : Type} [TimeScale τ]

namespace Client

/-- What is told about the last synchronisation: nothing if there was none, and else its date. -/
inductive TellsLast (c : Client τ) : Json → Prop
  | never : TimeScale.isZero c.lastSync = true → TellsLast c .null
  | dated {t : DateTime} : TimeScale.isZero c.lastSync = false →
      TimeScale.toDateTime c.lastSync = .ok t → TellsLast c (.str (Text.ofChars t.fullChars))

/-- The state of a client's dataset, with what is told about the last synchronisation. -/
def state (c : Client τ) (last : Json) : Json := .mkObj [
  ("version", .str c.snapshot.dataset.version),
  ("patterns", .int c.snapshot.dataset.patterns.length),
  ("ai_referrers", .int c.snapshot.dataset.referrers.length),
  ("synced_at", .ofOption (c.snapshot.dataset.syncedAt.map fun t => Text.ofChars t.fullChars)),
  ("last_sync_time", last),
  ("auto_sync", .bool c.settings.autoSync),
  ("sync_in_progress", .bool c.syncing),
  ("telemetry_pending", .int c.reporter.waiting.length),
  ("telemetry_dropped", .int c.reporter.dropped)]

/-- The state can be told. -/
structure Tellable (c : Client τ) : Prop where
  version : IsUnicode c.snapshot.dataset.version
  last : TimeScale.isZero c.lastSync = true ∨ ShowsDate c.lastSync

/-- Why the state cannot be told. -/
inductive Untold (c : Client τ) : Interruption → Prop
  | undated {fault : TimeFault} : TimeScale.isZero c.lastSync = false →
      TimeScale.toDateTime c.lastSync = .error fault → Untold c (.time fault)
  | unwritable {fault : Text.EncodeFault} : ¬ IsUnicode c.snapshot.dataset.version →
      Untold c (.surrogates fault)

variable {c : Client τ} {last : Json}

theorem TellsLast.isUnicode (h : c.TellsLast last) : IsUnicode (write false last) := by
  rcases h with _ | _
  · exact isUnicode_ofChars
  · exact isUnicode_writeText isUnicode_ofChars

omit [TimeScale τ] in
theorem isUnicode_state_iff (h : IsUnicode (write false last)) :
    IsUnicode (write false (c.state last)) ↔ IsUnicode c.snapshot.dataset.version := by
  have hsynced : IsUnicode (write false
      (.ofOption (c.snapshot.dataset.syncedAt.map fun t => Text.ofChars t.fullChars))) := by
    rcases c.snapshot.dataset.syncedAt with _ | t
    · exact isUnicode_ofChars
    · exact isUnicode_writeText isUnicode_ofChars
  have hversion : IsUnicode (writeText false c.snapshot.dataset.version)
      ↔ IsUnicode c.snapshot.dataset.version := ⟨isUnicode_of_writeText, isUnicode_writeText⟩
  simp [state, isUnicode_write_mkObj, hversion, hsynced, h, write, Text.ofString]

theorem lastSyncText_of_tellsLast (h : c.TellsLast last) : c.lastSyncText = .ok last := by
  unfold lastSyncText
  rcases h with hzero | ⟨hzero, ht⟩
  · rw [if_pos hzero]
  · rw [if_neg (by simp [hzero]), ht]
    rfl

/-- A client that has been built counts from the time of its dataset, or from zero if that has none. -/
theorem start_of_build {settings : Settings} {cache cache' : Cache τ} {now : τ}
    {notices : List Notice} (h : build settings cache now = .ok (c, cache', notices)) :
    c.settings = settings
      ∧ (c.snapshot.dataset.syncedAt.map TimeScale.ofDateTime).getD (.ok TimeScale.zero)
        = .ok c.lastSync := by
  unfold build at h
  split at h
  · cases h
  · dsimp only at h
    split at h
    · cases h
    · rename_i lastSync hlast
      obtain ⟨rfl, -⟩ := Prod.mk.inj (Except.ok.inj h)
      refine ⟨rfl, ?_⟩
      rw [← hlast]
      split <;> rename_i heq <;> rw [heq] <;> rfl

theorem exists_tellsLast (h : TimeScale.isZero c.lastSync = true ∨ ShowsDate c.lastSync) :
    ∃ last, c.TellsLast last := by
  rcases hzero : TimeScale.isZero c.lastSync with _ | _
  · obtain ⟨t, ht⟩ := h.resolve_left (by simp [hzero])
    exact ⟨_, .dated hzero ht⟩
  · exact ⟨_, .never hzero⟩

end Client

namespace Host

variable {h h₁ : Host τ} {i : Nat} {c : Client τ} {r : Request}

theorem statusAnswer_eq {last : Json} (h : c.TellsLast last) :
    statusAnswer c = sent (Response.json 200 [] (c.state last)) := by
  unfold statusAnswer Client.statusJson
  rw [Client.lastSyncText_of_tellsLast h]
  rfl

/-- The page tells the state if that can be told, and is interrupted otherwise. -/
theorem statusAnswer_cases (c : Client τ) :
    (c.Tellable → ∃ last body, c.TellsLast last
        ∧ Text.encode ((c.state last).write false) = .ok body
        ∧ statusAnswer c = .ok (Response.ofBody 200 [] "application/json" body))
      ∧ (¬ c.Tellable → ∃ e, c.Untold e ∧ statusAnswer c = .error e) := by
  by_cases hlast : TimeScale.isZero c.lastSync = true ∨ ShowsDate c.lastSync
  · obtain ⟨last, htells⟩ := c.exists_tellsLast hlast
    have hiff := Client.isUnicode_state_iff (c := c) htells.isUnicode
    rw [statusAnswer_eq htells]
    refine ⟨fun htold => ?_, fun hnot => ?_⟩
    · have hbody := Text.encode_eq (hiff.2 htold.version)
      refine ⟨last, _, htells, hbody, ?_⟩
      rw [Response.json, hbody]
      rfl
    · have hversion : ¬ IsUnicode c.snapshot.dataset.version := fun hu => hnot ⟨hu, hlast⟩
      obtain ⟨fault, hfault⟩ := Text.exists_encode_eq_error (hiff.not.2 hversion)
      refine ⟨.surrogates fault, .unwritable hversion, ?_⟩
      rw [Response.json, hfault]
      rfl
  · refine ⟨fun htold => absurd htold.last hlast, fun _ => ?_⟩
    obtain ⟨hzero, hdate⟩ := not_or.1 hlast
    rcases ht : TimeScale.toDateTime c.lastSync with fault | t
    · refine ⟨.time fault, .undated (by simpa using hzero) ht, ?_⟩
      simp only [statusAnswer, Client.statusJson, Client.lastSyncText, hzero, ht]
      rfl
    · exact absurd ⟨t, ht⟩ hdate

/-- Whoever knows the key gets the page, and nothing changes. -/
theorem serveOwn_status (hc : h.client? i = some c) (hkey : c.settings.isConfigured = true)
    (hascii : IsAscii c.settings.apiKey)
    (hpaths : c.settings.excludedPaths = ({} : Settings).excludedPaths) (hw : r.IsWeb)
    (ha : r.IsAdmin .status) (hgiven : r.headers.first? "x-api-key" = some c.settings.apiKey) :
    h.serveOwn i r = (h, .ofOwn (statusAnswer c)) := by
  have hrefusal : c.refusal? (r.headers.first? "x-api-key") = none := by
    rcases c.refusal?_cases hkey (r.headers.first? "x-api-key") with
      ⟨key, hkey, hforeign, -⟩ | ⟨-, ⟨-, hnone⟩ | ⟨hne, -⟩⟩
    · rw [hgiven, Option.some.injEq] at hkey
      exact absurd hascii (hkey ▸ hforeign)
    · exact hnone
    · exact absurd hgiven hne
  rw [serveOwn_of_isAdmin hc hpaths hw ha, route_of_isAdmin ha]
  unfold adminAnswer
  simp only [hc, hrefusal]
  rfl

/-! ## Runs -/

omit [TimeScale τ] in
/-- Where no synchronisation is under way for a client, it has no time but its own. -/
theorem HasTime.eq_lastSync {t : τ} (ht : HasTime i h t) (hc : h.client? i = some c)
    (hheld : ∀ x ∈ h.held, x.client ≠ i) : t = c.lastSync := by
  rcases ht with hc' | ⟨hx, hi, -⟩
  · rw [hc, Option.some.injEq] at hc'
    rw [hc']
  · exact absurd hi (hheld _ hx)

theorem exists_start_of_build {settings : Settings} (hb : h.build settings = (h₁, .ok ())) :
    h₁.held = h.held ∧ ∃ c, h₁.client? h.clients.length = some c ∧ c.settings = settings
      ∧ h.cache.Provides h.clock c.snapshot.dataset
      ∧ (c.snapshot.dataset.syncedAt.map TimeScale.ofDateTime).getD (.ok TimeScale.zero)
        = .ok c.lastSync := by
  obtain ⟨c, hc, hd⟩ := exists_client_of_build hb
  unfold build at hb
  rcases hbuild : Client.build settings h.cache h.clock with e | ⟨c₁, cache, notices⟩
  · simp [hbuild] at hb
  · simp only [hbuild, Prod.mk.injEq, and_true] at hb
    subst hb
    have hnew : (h.clients ++ [c₁])[h.clients.length]? = some c₁ := List.getElem?_concat_length
    obtain rfl := Option.some.inj (hnew.symm.trans hc)
    exact ⟨rfl, c₁, hc, (Client.start_of_build hbuild).1, hd, (Client.start_of_build hbuild).2⟩

/-- On the exact scale a new client can tell its state if the dataset was synchronised in the years 1 to
9999 of the universal calendar, or never. -/
theorem tellable_of_build_iff {h h₁ : Host Micros} {settings : Settings}
    (hb : h.build settings = (h₁, .ok ())) : ∃ c, h₁.client? h.clients.length = some c
      ∧ (c.Tellable ↔ IsUnicode c.snapshot.dataset.version
        ∧ ∀ t ∈ c.snapshot.dataset.syncedAt, 0 ≤ t.instant ∧ t.instant < DateTime.limit) := by
  obtain ⟨-, c, hc, -, -, hstart⟩ := exists_start_of_build hb
  refine ⟨c, hc, ?_⟩
  have hlast : (TimeScale.isZero c.lastSync = true ∨ ShowsDate c.lastSync)
      ↔ ∀ t ∈ c.snapshot.dataset.syncedAt, 0 ≤ t.instant ∧ t.instant < DateTime.limit := by
    rcases hsynced : c.snapshot.dataset.syncedAt with _ | t <;> rw [hsynced] at hstart
    · have hzero : c.lastSync = ⟨0⟩ := (Except.ok.inj hstart).symm
      exact iff_of_true (.inl (by rw [hzero]; rfl)) (by simp)
    · have ht : TimeScale.ofDateTime t = .ok c.lastSync := hstart
      have hzero (h : TimeScale.isZero c.lastSync = true) : ShowsDate c.lastSync := by
        have hcount : c.lastSync.count = 0 := of_decide_eq_true h
        rw [show c.lastSync = ⟨0⟩ from congrArg Micros.mk hcount]
        exact ⟨_, rfl⟩
      rw [or_iff_right_of_imp hzero, Micros.showsDate_iff, Micros.count_add_epoch ht]
      simp
  exact ⟨fun h => ⟨h.version, hlast.1 h.last⟩, fun ⟨hversion, hyears⟩ => ⟨hversion, hlast.2 hyears⟩⟩

/-- After a run that begins with a new client and of which every moment has a date, whoever knows the
key gets the state and changes nothing, if the version of the dataset in force has no surrogates and the
time of the last synchronisation has a date. It has one unless it is still that of the dataset from which
the client has started. Otherwise the page is interrupted. -/
theorem status_tells_state {settings : Settings} (hb : h.build settings = (h₁, .ok ()))
    (hheld : ∀ x ∈ h.held, x.client < h.clients.length) (hkey : settings.isConfigured = true)
    (hascii : IsAscii settings.apiKey)
    (hpaths : settings.excludedPaths = ({} : Settings).excludedPaths) {actions : List (Action τ)}
    (ha : ∀ a ∈ actions, Ordinary a) (hdates : ClockStays ShowsDate h₁ actions) (hw : r.IsWeb)
    (hadmin : r.IsAdmin .status) (hgiven : r.headers.first? "x-api-key" = some settings.apiKey) :
    ∃ d start c, h.cache.Provides h.clock d
      ∧ (d.syncedAt.map TimeScale.ofDateTime).getD (.ok TimeScale.zero) = .ok start
      ∧ (h₁.run actions).client? h.clients.length = some c
      ∧ (c.lastSync = start ∨ ShowsDate c.lastSync)
      ∧ (c.Tellable → ∃ last body, c.TellsLast last
        ∧ Text.encode ((c.state last).write false) = .ok body
        ∧ (h₁.run actions).serveOwn h.clients.length r = (h₁.run actions, {
          response := some {
            status := 200
            headers := [("content-length", toString body.length), ("content-type", "application/json")]
            body }
          appRan := true }))
      ∧ (¬ c.Tellable → ∃ e, c.Untold e ∧ (h₁.run actions).serveOwn h.clients.length r
        = (h₁.run actions, { response := some .failed, interruption := some e, appRan := true })) := by
  obtain ⟨hsame, c₀, hc₀, hs₀, hd, hstart⟩ := exists_start_of_build hb
  obtain ⟨c, hc, hs, htime⟩ := hdates.time_run ha hc₀
  have hsettings : c.settings = settings := hs.trans hs₀
  have hserve : (h₁.run actions).serveOwn h.clients.length r
      = (h₁.run actions, .ofOwn (statusAnswer c)) :=
    serveOwn_status hc (hsettings ▸ hkey) (hsettings ▸ hascii) (hsettings ▸ hpaths) hw hadmin
      (hsettings ▸ hgiven)
  obtain ⟨htold, hnot⟩ := statusAnswer_cases c
  refine ⟨_, c₀.lastSync, c, hd, hstart, hc, ?_, fun h => ?_, fun h => ?_⟩
  · rcases htime c.lastSync (.last hc) with ht | ht
    · exact .inl (ht.eq_lastSync hc₀ fun x hx => Nat.ne_of_lt (hheld x (hsame ▸ hx)))
    · exact .inr ht
  · obtain ⟨last, body, hlast, hbody, hanswer⟩ := htold h
    exact ⟨last, body, hlast, hbody, by rw [hserve, hanswer]; rfl⟩
  · obtain ⟨e, huntold, he⟩ := hnot h
    exact ⟨e, huntold, by rw [hserve, he]; rfl⟩

/-- A day has passed and a synchronisation is asked for. -/
def dayLater : List (Action Micros) := [.advance ⟨86400000000⟩, .syncWhenDue none false]

theorem status_tells_state_dayLater : ∃ c body, (builtHost.run dayLater).client? 0 = some c
    ∧ Text.encode ((c.state (.str (Text.ofString "1970-01-02T00:00:00+00:00"))).write false) = .ok body
    ∧ (builtHost.run dayLater).serveOwn 0 (statusRequest "key") = (builtHost.run dayLater, {
        response := some {
          status := 200
          headers := [("content-length", toString body.length), ("content-type", "application/json")]
          body }
        appRan := true }) := by
  have hbuilt : emptyHost.build { apiKey := "key" } = (builtHost, .ok ()) := rfl
  have hordinary : ∀ a ∈ dayLater, Ordinary a :=
    List.forall_mem_cons.2 ⟨.advance _, List.forall_mem_singleton.2 (.syncWhenDue _)⟩
  have hdates : ClockStays ShowsDate builtHost dayLater := ⟨⟨_, rfl⟩, ⟨_, rfl⟩, ⟨_, rfl⟩⟩
  have hvalues : ((builtHost.run dayLater).client? 0).map
      (fun c => (c.snapshot.dataset.version, c.lastSync))
        = some (Text.ofString "1.0.0", ⟨86400000000⟩) := by rfl
  obtain ⟨-, -, c, -, -, hc, -, htold, -⟩ := status_tells_state hbuilt (by simp [emptyHost]) rfl
    (by decide) rfl hordinary hdates (isWeb_statusRequest "key") (isAdmin_statusRequest "key") rfl
  have hc : (builtHost.run dayLater).client? 0 = some c := hc
  rw [hc, Option.map_some, Option.some.injEq, Prod.mk.injEq] at hvalues
  obtain ⟨hversion, hlast⟩ := hvalues
  have hshown : TimeScale.toDateTime c.lastSync
      = .ok { shown := 62135683200000000, offset := some 0 } := by
    rw [hlast]
    rfl
  obtain ⟨last, body, htells, hbody, hserve⟩ := htold
    ⟨hversion ▸ isUnicode_ofChars, .inr ⟨_, hshown⟩⟩
  rcases htells with hzero | ⟨-, ht⟩
  · rw [hlast] at hzero
    exact absurd hzero (by decide)
  · obtain rfl := Except.ok.inj (hshown.symm.trans ht)
    exact ⟨c, body, hc, hbody, hserve⟩

/-- Where the year 1 began an hour early, and the universal calendar still had no date. -/
def newYearEast : DateTime where
  shown := 0
  offset := some 3600000000

/-- A host whose cache holds a dataset that was synchronised there and then. -/
def earlyHost : Host Micros where
  clock := ⟨0⟩
  cache := Client.cacheOf (Client.stored "0001-01-01T00:00:00+01:00")

/-- A client starts from the dataset, and then its page is interrupted. -/
theorem status_interrupted_early : ∃ h₁, earlyHost.build { apiKey := "key" } = (h₁, .ok ())
    ∧ h₁.serveOwn 0 (statusRequest "key") = (h₁, {
        response := some .failed
        interruption := some (.time (.yearOutOfRange 0))
        appRan := true }) := by
  have hbytes : Dataset.ofBytes (Client.stored "0001-01-01T00:00:00+01:00")
      = .ok { Client.dated 0 with syncedAt := some newYearEast } := by cbv
  have hholds : earlyHost.cache.Holds earlyHost.clock
      { Client.dated 0 with syncedAt := some newYearEast } :=
    ⟨⟨_, ⟨86400000000⟩⟩, rfl, rfl, hbytes, by simp [Client.dated]⟩
  obtain ⟨snapshot, cache, notices, -, hbuild⟩ :=
    Client.build_of_provides { apiKey := "key" } rfl (.inl hholds)
  have hlast : TimeScale.ofDateTime newYearEast = .ok (⟨-62135600400000000⟩ : Micros) := rfl
  rw [Option.map_some, Option.getD_some, hlast] at hbuild
  refine ⟨_, by rw [build, hbuild], ?_⟩
  refine (serveOwn_status rfl rfl (show IsAscii "key" by decide) rfl (isWeb_statusRequest "key")
    (isAdmin_statusRequest "key") rfl).trans ?_
  rfl

end Host

end BotSentry
