import BotSentry.Proofs.Alike
import BotSentry.Proofs.Detections
import BotSentry.Proofs.Locations
import BotSentry.Proofs.Sending

/-!
# What becomes of a request

Without a key a client adds nothing to the application, provided that the URL of the request can be
read (`Host.serve_without_key`). With a key it decides by what it detects (`Host.serve_decision`): a
blocked bot is denied without the application, and the answer to any other detected request says what it
depends on. A referrer blocks nothing (`Client.exists_detect_eq_ok`). All reports need the time, and a
clock beyond the calendar interrupts them (`TimeScale.HasStamp`).
-/

namespace BotSentry

variable {τ : Type} [TimeScale τ]

/-- One bot is blocked. -/
def Dataset.blockingBots : Dataset where
  patterns := [.ofPattern "Bot"]
  rules := { blocks := .ofList [Text.ofString "pattern:Bot"] }
  version := defaultVersion

theorem Dataset.searchable_blockingBots : blockingBots.Searchable := by
  intro bot hb
  obtain rfl := List.mem_singleton.1 hb
  cbv

/-! ## Detection, whatever the engine remembers -/

theorem Detection.detected_of_blocked {d : Detection} (h : d.blocked = true) :
    d.detected = true := by
  rcases d with _ | ⟨bot, blocked, p⟩ | ⟨r, p⟩
  · cases h
  · rfl
  · cases h

theorem Dataset.blocked_hostDetection (d : Dataset) (referrer : String) :
    (d.hostDetection referrer).blocked = false := by
  unfold hostDetection
  split_ifs
  · rfl
  · split <;> rfl

namespace Engine

variable {snapshot : Snapshot}

theorem exists_compiled_eq_ok (hs : snapshot.dataset.Searchable) (engine : Engine) :
    ∃ patterns, (engine.compiled snapshot).2.2 = .ok patterns := by
  by_cases hk : ∃ patterns, engine.memo = some (snapshot.generation, patterns)
  · obtain ⟨patterns, hm⟩ := hk
    exact ⟨patterns, by rw [compiled_of_kept hm]⟩
  · rcases compiled_anew (not_exists.1 hk) with ⟨patterns, -, he⟩ | ⟨refusal, hc, -⟩
    · exact ⟨patterns, by rw [he]⟩
    · rw [compileAll_eq_ok hs] at hc
      cases hc

theorem exists_detectBot_eq_ok (hs : snapshot.dataset.Searchable) (engine : Engine)
    (userAgent : String) : ∃ b, (engine.detectBot snapshot userAgent).result = .ok b := by
  obtain ⟨patterns, hp⟩ := exists_compiled_eq_ok hs engine
  unfold detectBot
  split_ifs
  · exact ⟨_, rfl⟩
  · simp only [hp, Except.map]
    exact ⟨_, rfl⟩

/-- A referrer is looked at where there is no bot, and it blocks nothing. -/
theorem exists_detect_eq_ok {engine : Engine} {userAgent : String} {b : Detection}
    (hb : (engine.detectBot snapshot userAgent).result = .ok b) (referrer : String) :
    ∃ d, (engine.detect snapshot userAgent referrer).result = .ok d ∧ d.blocked = b.blocked := by
  unfold detect
  rcases b with _ | ⟨bot, blocked, p⟩ | ⟨r, p⟩ <;> simp only [hb]
  · exact ⟨_, rfl, by rw [detectReferrer_eq, Dataset.blocked_hostDetection]; rfl⟩
  · exact ⟨_, rfl, rfl⟩
  · exact ⟨_, rfl, rfl⟩

end Engine

namespace Client

/-- A client looks at requests for a path. -/
def LooksAt (c : Client τ) (path : List Char) : Prop :=
  c.settings.isConfigured = true ∧ c.settings.excludes path = false

omit [TimeScale τ] in
/-- A detection blocks a request if the user agent alone does. -/
theorem exists_detect_eq_ok {c : Client τ} (hs : c.snapshot.dataset.Searchable)
    (userAgent referrer : String) : ∃ d b, (c.detect userAgent referrer).2.2 = .ok d
      ∧ (c.detectBot userAgent).2.2 = .ok b ∧ d.blocked = b.blocked := by
  obtain ⟨b, hb⟩ := Engine.exists_detectBot_eq_ok hs c.engine userAgent
  obtain ⟨d, hd, hblocked⟩ := Engine.exists_detect_eq_ok hb referrer
  refine ⟨d, b, ?_, ?_, hblocked⟩
  · simp only [detect, ofOutcome, hd, Except.mapError]
  · simp only [detectBot, ofOutcome, hb, Except.mapError]

end Client

/-! ## Reports -/

/-- A point of time that can be written into an event. -/
def TimeScale.HasStamp (now : τ) : Prop :=
  ∃ t cs, TimeScale.toDateTime now = .ok t ∧ t.stampChars = .ok cs

namespace Host

open TimeScale

section Reports

variable {h : Host τ} {i : Nat} {c : Client τ}

/-- An event needs the time, and nothing else. -/
theorem hasStamp_iff (c : Client τ) (d : Detection) (v : Visit) (now : τ) :
    HasStamp now ↔ ∃ e, c.event d v now = .ok e := by
  unfold Client.event
  constructor
  · rintro ⟨t, cs, ht, hcs⟩
    simp only [ht, Event.ofVisit, hcs, Except.map]
    exact ⟨_, rfl⟩
  · rintro ⟨e, he⟩
    rcases ht : toDateTime now with fault | t
    · simp [ht] at he
    · rcases hcs : t.stampChars with fault | cs
      · simp [ht, Event.ofVisit, hcs, Except.map] at he
      · exact ⟨t, cs, ht, hcs⟩

theorem report_of_hasStamp (hc : h.client? i = some c) (hs : HasStamp h.clock) (d : Detection)
    (v : Visit) : ∃ queued, (h.report i d v).2 = .ok queued := by
  have hr := report_cases hc d v
  generalize h.report i d v = reported at hr ⊢
  cases hr with
  | skipped => exact ⟨_, rfl⟩
  | undated _ _ he =>
    obtain ⟨e, he'⟩ := (hasStamp_iff c d v h.clock).1 hs
    rw [he] at he'
    cases he'
  | queued => exact ⟨_, rfl⟩
  | full => exact ⟨_, rfl⟩

theorem report_of_not_hasStamp (hc : h.client? i = some c) (hs : ¬ HasStamp h.clock)
    (hkey : c.settings.isConfigured = true) {d : Detection} (hd : d.detected = true) (v : Visit) :
    ∃ fault, (h.report i d v).2 = .error (.time fault) := by
  have hr := report_cases hc d v
  generalize h.report i d v = reported at hr ⊢
  cases hr with
  | skipped hskip => simp [hkey, hd] at hskip
  | undated => exact ⟨_, rfl⟩
  | queued _ _ he => exact absurd ((hasStamp_iff c d v h.clock).2 ⟨_, he⟩) hs
  | full _ _ he => exact absurd ((hasStamp_iff c d v h.clock).2 ⟨_, he⟩) hs

/-- Nothing but the time is missing where a report is interrupted. -/
theorem report_ok_or_undated (h : Host τ) (i : Nat) (d : Detection) (v : Visit) :
    (∃ queued, (h.report i d v).2 = .ok queued)
      ∨ ¬ HasStamp h.clock ∧ ∃ fault, (h.report i d v).2 = .error (.time fault) := by
  rcases hc : h.client? i with _ | c
  · exact .inl ⟨false, by simp only [report, hc]⟩
  · by_cases hs : HasStamp h.clock
    · exact .inl (report_of_hasStamp hc hs d v)
    · have hr := report_cases hc d v
      generalize h.report i d v = reported at hr ⊢
      cases hr with
      | undated => exact .inr ⟨hs, _, rfl⟩
      | skipped | queued | full => exact .inl ⟨_, rfl⟩

end Reports

/-! ## Decisions -/

/-- A denied request is reported, for which the time is needed. -/
theorem deny_snd {h : Host τ} {i : Nat} {c : Client τ} (hc : h.client? i = some c)
    (hkey : c.settings.isConfigured = true) {d : Detection} (hd : d.detected = true) (r : Request)
    (l : Location) : (HasStamp h.clock → (h.deny i r l d).2 = { response := some .denied })
      ∧ (¬ HasStamp h.clock → ∃ fault, (h.deny i r l d).2 = .interrupted (.time fault)) := by
  obtain ⟨noted, hdeny, hnoted, hclock⟩ : ∃ noted : Host τ,
      (h.deny i r l d).2 = (match (noted.report i d (r.visit l 403 0)).2 with
        | .error e => .interrupted e
        | .ok _ => { response := some .denied })
      ∧ noted.client? i = some c ∧ noted.clock = h.clock := by
    refine ⟨h.note [.requestBlocked d.kind.name d.pattern (String.ofList l.path)
      r.clientAddress], ?_, hc, rfl⟩
    unfold deny
    dsimp only
    rcases (h.note _).report i d (r.visit l 403 0) with ⟨h', e | queued⟩ <;> rfl
  rw [hdeny, ← hclock]
  refine ⟨fun hstamp => ?_, fun hstamp => ?_⟩
  · obtain ⟨queued, hq⟩ := report_of_hasStamp hnoted hstamp d (r.visit l 403 0)
    rw [hq]
  · obtain ⟨fault, hf⟩ := report_of_not_hasStamp hnoted hstamp hkey hd (r.visit l 403 0)
    exact ⟨fault, by rw [hf]⟩

theorem letThrough_of_not_detected {d : Detection} (hd : d.detected = false) (h : Host τ) (i : Nat)
    (r : Request) (l : Location) (app : App τ) :
    h.letThrough i r l d app = ((app h).1, .ofApp (app h).2) := by
  simp only [letThrough, hd, Bool.not_false, ↓reduceIte]

/-- The answer says that it depends on the user agent, unless there is no time for the report. -/
theorem letThrough_of_detected {d : Detection} (hd : d.detected = true) (h : Host τ) (i : Nat)
    (r : Request) (l : Location) (app : App τ) :
    (h.letThrough i r l d app).2 = .ofApp ((app h).2.map fun answer =>
        { answer with headers := Headers.addVary answer.headers })
      ∨ ¬ HasStamp (app h).1.clock ∧ ∃ fault, (h.letThrough i r l d app).2 = .lost (.time fault) := by
  obtain ⟨v, hv⟩ : ∃ v, (h.letThrough i r l d app).2 = match ((app h).1.report i d v).2 with
      | .error e => .lost e
      | .ok _ => .ofApp ((app h).2.map fun answer =>
        { answer with headers := Headers.addVary answer.headers }) := by
    unfold letThrough
    simp only [hd, Bool.not_true, Bool.false_eq_true, ↓reduceIte]
    rcases app h with ⟨h', e | answer⟩
    · refine ⟨r.visit l 500 (milliseconds (h'.timer - h.timer)), ?_⟩
      dsimp only
      rcases h'.report i d (r.visit l 500 _) with ⟨h'', e' | queued⟩ <;> rfl
    · refine ⟨r.visit l answer.status (milliseconds (h'.timer - h.timer)), ?_⟩
      dsimp only
      rcases h'.report i d (r.visit l answer.status _) with ⟨h'', e' | queued⟩ <;> rfl
  rw [hv]
  rcases report_ok_or_undated (app h).1 i d v with ⟨queued, hq⟩ | ⟨hstamp, fault, hf⟩
  · exact .inl (by rw [hq])
  · exact .inr ⟨hstamp, fault, by rw [hf]⟩

theorem serve_of_fault {r : Request} (hr : r.isHttp = true) {fault : LocationFault}
    (hl : Location.ofRequest r = .error fault) (h : Host τ) (i : Nat) (app : App τ) :
    h.serve i r app = (h, .interrupted (.location fault)) := by
  simp [serve, hr, hl]

theorem serve_of_location {h : Host τ} {i : Nat} {c : Client τ} (hc : h.client? i = some c)
    {r : Request} (hr : r.isHttp = true) {l : Location} (hl : Location.ofRequest r = .ok l)
    (app : App τ) :
    (¬ c.LooksAt l.path → h.serve i r app = ((app h).1, .ofApp (app h).2))
      ∧ (c.LooksAt l.path → h.serve i r app = h.examine i c r l app) := by
  have hskip : c.LooksAt l.path
      ↔ (!c.settings.isConfigured || c.settings.excludes l.path) = false := by
    simp [Client.LooksAt]
  rw [hskip, Bool.not_eq_false]
  refine ⟨fun hpass => ?_, fun hlook => ?_⟩
  · simp only [serve, hr, hl, hc, hpass, Bool.not_true, Bool.false_eq_true, ↓reduceIte]
  · simp only [serve, hr, hl, hc, hlook, Bool.not_true, Bool.false_eq_true, ↓reduceIte]
    rfl

/-- What a client makes of a request that it looks at, by what it detects: it denies a blocked one,
and lets any other through to the application. -/
structure Decided (h : Host τ) (d : Detection) (app : App τ) (served : Host τ × Handled) : Prop where
  denied : d.blocked = true → HasStamp h.clock → served.2 = { response := some {
    status := 403
    headers := [("cache-control", "private, no-store, max-age=0"), ("vary", "User-Agent"),
      ("content-length", "13"), ("content-type", "text/plain; charset=utf-8")]
    body := Text.Utf8.encode "Access Denied" } }
  undated : d.blocked = true → ¬ HasStamp h.clock → ∃ fault, served.2 = .interrupted (.time fault)
  alike : d.blocked = true → h.Alike served.1
  passed : d.blocked = false → ∃ h₁, h.Alike h₁ ∧ (app h₁).1.Alike served.1
    ∧ (d.detected = false → served.2 = .ofApp (app h₁).2)
    ∧ (d.detected = true → served.2 = .ofApp ((app h₁).2.map fun answer =>
          { answer with headers := Headers.addVary answer.headers })
        ∨ ¬ HasStamp (app h₁).1.clock ∧ ∃ fault, served.2 = .lost (.time fault))

theorem decided_examine {h : Host τ} {i : Nat} {c : Client τ} (hc : h.client? i = some c)
    (hkey : c.settings.isConfigured = true) {r : Request} {d : Detection}
    (hd : (c.detect r.userAgent (r.referrer?.getD "")).2.2 = .ok d) (l : Location) (app : App τ) :
    h.Decided d app (h.examine i c r l app) := by
  have ha : h.Alike (h.searched i c r) := (Alike.setClient hc (c.alike_detect _ _)).note _
  -- The client that reports is the one that has detected; its key is the same.
  have hsearched : (h.searched i c r).client? i
      = some (c.detect r.userAgent (r.referrer?.getD "")).1 := client?_setClient_self hc
  unfold examine
  simp only [hd]
  rcases hb : d.blocked with _ | _
  · refine ⟨by simp [hb], by simp [hb], by simp [hb], fun _ => ⟨_, ha, ?_, ?_, ?_⟩⟩
    · exact alike_letThrough _ i r l d app
    · intro hnone
      exact congrArg Prod.snd (letThrough_of_not_detected hnone _ i r l app)
    · intro hsome
      exact letThrough_of_detected hsome _ i r l app
  · obtain ⟨hdenied, hundated⟩ :=
      deny_snd hsearched hkey (Detection.detected_of_blocked hb) r l
    refine ⟨fun _ => hdenied, fun _ => hundated, fun _ => ?_, by simp [hb]⟩
    simp only [↓reduceIte, deny_host]
    exact (ha.note _).trans (alike_report _ i _ _)

/-- A request for a page is passed on as it is, denied, or let through with a mark on its answer. What
the user agent says decides about blocking, and the referrer only about the mark. A request whose URL
cannot be read back is interrupted, whatever it is for. -/
theorem serve_decision {h : Host τ} {i : Nat} {c : Client τ} (hc : h.client? i = some c)
    (hs : c.snapshot.dataset.Searchable) {r : Request} (hw : r.IsWeb) (app : App τ) :
    (r.Misread → ∃ fault, h.serve i r app = (h, .interrupted (.location (.url fault))))
      ∧ ∃ d b, (c.detect r.userAgent (r.referrer?.getD "")).2.2 = .ok d
        ∧ (c.detectBot r.userAgent).2.2 = .ok b ∧ d.blocked = b.blocked
        ∧ (¬ r.Misread → ¬ c.LooksAt (Location.readBack r).2 →
          h.serve i r app = ((app h).1, .ofApp (app h).2))
        ∧ (¬ r.Misread → c.LooksAt (Location.readBack r).2 →
          h.Decided d app (h.serve i r app)) := by
  obtain ⟨d, b, hd, hb, hblocked⟩ :=
    Client.exists_detect_eq_ok hs r.userAgent (r.referrer?.getD "")
  rcases Location.ofRequest_of_isWeb hw with ⟨hread, l, hl, hpath⟩ | ⟨hmis, fault, hl⟩
  · obtain ⟨hpass, hlook⟩ := serve_of_location hc hw.isHttp hl app
    rw [← hpath]
    refine ⟨fun hmis => absurd hmis hread, d, b, hd, hb, hblocked, fun _ => hpass, fun _ h' => ?_⟩
    rw [hlook h']
    exact decided_examine hc h'.1 hd l app
  · exact ⟨fun _ => ⟨fault, serve_of_fault hw.isHttp hl h i app⟩, d, b, hd, hb, hblocked,
      fun hread => absurd hmis hread, fun hread => absurd hmis hread⟩

/-- A host whose only client has a key and a dataset. -/
def guardedBy (dataset : Dataset) : Host Micros where
  clock := ⟨0⟩
  clients := [{ settings := { apiKey := "key" }, snapshot := { dataset }, lastSync := ⟨0⟩ }]

/-- An application that answers every request. -/
def pages : App Micros := fun h => (h, .ok { status := 200 })

/-- A bot that is blocked asks for a page, sent by an AI product. -/
def fromBot : Request where
  path := "/p"
  headers := [("user-agent", "GPTBot/1.2"), ("referer", "https://chatgpt.com/")]

theorem excludes_fromBot :
    ({ apiKey := "key" } : Settings).excludes (Location.readBack fromBot).2 = false := by
  rw [show (Location.readBack fromBot).2 = "/p".toList by cbv]
  decide

theorem hasStamp_zero : HasStamp (⟨0⟩ : Micros) :=
  ⟨{ shown := DateTime.epoch, offset := some 0 }, "1970-01-01T00:00:00Z".toList, by cbv, by cbv⟩

theorem serve_denied : ((guardedBy .blockingBots).serve 0 fromBot pages).2 = { response := some {
    status := 403
    headers := [("cache-control", "private, no-store, max-age=0"), ("vary", "User-Agent"),
      ("content-length", "13"), ("content-type", "text/plain; charset=utf-8")]
    body := Text.Utf8.encode "Access Denied" } } := by
  have hweb : fromBot.IsWeb := Request.isWeb_of_path rfl
  have hread : ¬ fromBot.Misread := Request.not_misread (by decide)
  obtain ⟨-, d, b, -, hb, hblocked, -, hdecided⟩ := serve_decision
    (show (guardedBy .blockingBots).client? 0 = some _ from rfl) Dataset.searchable_blockingBots
    hweb pages
  have hbot : b.blocked = true := by
    rw [Client.detectBot_of_searchable (Engine.faithful_of_memo_none rfl)
      (.inr Dataset.searchable_blockingBots), Except.ok.injEq] at hb
    rw [← hb, show Dataset.blockingBots.agentDetection fromBot.userAgent
      = .bot (.ofPattern "Bot") true (some (Text.ofString "Bot")) by cbv]
    rfl
  exact (hdecided hread ⟨rfl, excludes_fromBot⟩).denied (hblocked.trans hbot) hasStamp_zero

/-- Without a host and a server, a path with a tab between its first two slashes is read as an
authority, and half a pair of brackets is none. -/
theorem serve_slashes_interrupted :
    let r : Request := { path := "/\t/[" }
    r.IsWeb ∧ (guardedBy .blockingBots).serve 0 r pages
      = (guardedBy .blockingBots, .interrupted (.location (.url .brackets))) := by
  refine ⟨Request.isWeb_of_path rfl, ?_⟩
  exact serve_of_fault rfl (by cbv) _ _ _

/-- A client without a key adds nothing to what the application does, unless the URL of the request
cannot be read. -/
theorem serve_without_key {h : Host τ} {i : Nat} {c : Client τ} (hc : h.client? i = some c)
    (hkey : c.settings.isConfigured = false) {r : Request} (hr : r.isHttp = true) (app : App τ) :
    (r.Readable → h.serve i r app = ((app h).1, .ofApp (app h).2))
      ∧ (¬ r.Readable → ∃ fault, h.serve i r app = (h, .interrupted (.location fault))) := by
  refine ⟨fun hread => ?_, fun hread => ?_⟩
  · obtain ⟨l, hl⟩ := Location.ofRequest_of_readable hread
    refine (serve_of_location hc hr hl app).1 fun hlook => ?_
    rw [hlook.1] at hkey
    cases hkey
  · obtain ⟨fault, hl⟩ := Location.ofRequest_of_not_readable hread
    exact ⟨fault, serve_of_fault hr hl h i app⟩

/-- A method, a path, a host and a query that nobody knows. -/
def fromNowhere : Request where
  method := "BREW"
  path := "p"
  query := [0x25]
  headers := [("host", " ")]

theorem serve_unknown_untouched : (ofDataset .blockingBots).serve 0 fromNowhere pages
    = ((pages (ofDataset .blockingBots)).1, .ofApp (pages (ofDataset .blockingBots)).2) := by
  have hread : fromNowhere.Readable := ⟨⟨Text.ofString "%", rfl⟩, by decide⟩
  have hkey : ({} : Settings).isConfigured = false := by decide
  have hc : (ofDataset .blockingBots).client? 0
      = some { settings := {}, snapshot := { dataset := .blockingBots }, lastSync := ⟨0⟩ } := rfl
  exact (serve_without_key hc hkey rfl pages).1 hread

/-- A query that is no text interrupts a request that nobody was going to look at. -/
theorem serve_query_interrupted :
    (ofDataset .blockingBots).serve 0 { path := "/p", query := [0xff] } pages
      = (ofDataset .blockingBots, .interrupted (.location (.query {
        encoding := "utf-8", position := 0, bytes := [0xff], reason := .invalidStart }))) :=
  serve_of_fault rfl (by cbv) _ _ _

end Host

end BotSentry
