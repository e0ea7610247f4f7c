import BotSentry.Proofs.DatasetDocuments
import BotSentry.Proofs.Decisions

/-!
# What is reported about a request

A request in which something is detected is reported once, and any other one is not
(`Host.serve_accounts`). The one event that the reporter of the client gets (`Host.Handed`) tells of
the request what was answered, whether it was denied, and who asked (`Event.Tells`): a denied one
has been answered with 403, and one that was let through with the status of the application, or not
at all if that has failed, which is told as 500. A request whose URL cannot be read back is not even
looked at.
-/

namespace BotSentry

open TimeScale

variable {τ : Type} [TimeScale τ]

/-! ## Events -/

namespace Event

/-- A field of the document that is sent. -/
def field? (e : Event) (name : String) : Option Json :=
  match e.toJson with
  | .obj fields => Json.field? fields name
  | _ => none

/-- An event tells of a request what was answered, whether it was denied, and who asked. -/
structure Tells (e : Event) (r : Request) (d : Detection) (status : Nat) : Prop where
  status : e.field? "response_status" = some (.int status)
  blocked : ∃ metadata, e.field? "metadata" = some (.obj metadata)
    ∧ Json.field? metadata "was_blocked" = some (.bool d.blocked)
  address : e.field? "ip_address" = some (.ofString r.clientAddress)
  userAgent : e.field? "user_agent" = some (.ofString r.userAgent)
  headers : e.field? "headers"
    = some (.mkObj (r.headers.grouped.map fun (name, value) => (name, .ofString value)))

theorem was_blocked (d : Detection) : ∃ fields, metadata d = .obj fields
    ∧ Json.field? fields "was_blocked" = some (.bool d.blocked) := by
  refine ⟨Json.namedFields _, rfl, ?_⟩
  rw [Json.field?_namedFields, List.lookup_cons, beq_self_eq_true]

theorem exists_eq_of_event {c : Client τ} {d : Detection} {v : Visit} {now : τ} {e : Event}
    (he : c.event d v now = .ok e) :
    ∃ cs platform, e = ⟨v, d, statusOf v d, cs, platform⟩ := by
  unfold Client.event at he
  split at he
  · cases he
  · rename_i t _
    unfold ofVisit at he
    rcases hcs : t.stampChars with fault | cs
    · simp [hcs, Except.map] at he
    · rw [hcs] at he
      exact ⟨cs, _, (Except.ok.inj he).symm⟩

theorem tells_of_event {c : Client τ} {d : Detection} {r : Request} {l : Location} {status : Nat}
    {elapsed : Int} {now : τ} {e : Event}
    (he : c.event d (r.visit l status elapsed) now = .ok e) : e.Tells r d status := by
  obtain ⟨cs, platform, rfl⟩ := exists_eq_of_event he
  have hfield : ∀ (e : Event) name, e.field? name = Json.field? (Json.namedFields _) name :=
    fun _ _ => rfl
  constructor
  case blocked =>
    obtain ⟨fields, hfields, hblocked⟩ := was_blocked d
    refine ⟨fields, ?_, hblocked⟩
    rw [← hfields, hfield, Json.field?_namedFields]
    simp only [List.lookup_cons, String.reduceBEq]
  all_goals
    rw [hfield, Json.field?_namedFields]
    simp only [List.lookup_cons, String.reduceBEq]
    rfl

end Event

namespace Host

/-- The events of a client that wait to be sent. -/
def queue (h : Host τ) (i : Nat) : List Event :=
  ((h.client? i).map (·.reporter.waiting)).getD []

/-- The reporter of a client has got one event, and it waits behind all others, or was dropped
because the queue was full. Nothing else is different but what has been noted. -/
inductive Handed (h : Host τ) (i : Nat) (e : Event) : Host τ → Prop
  | queued {c : Client τ} : h.client? i = some c →
      Reporter.hasRoom c.settings.queueSize c.reporter.waiting.length = true →
      Handed h i e (h.setClient i { c with reporter := { c.reporter with
        waiting := c.reporter.waiting ++ [e], unfinished := c.reporter.unfinished + 1 } })
  | dropped {c : Client τ} {notices : List Notice} : h.client? i = some c →
      Reporter.hasRoom c.settings.queueSize c.reporter.waiting.length = false →
      Handed h i e ((h.setClient i { c with reporter := { c.reporter with
        dropped := c.reporter.dropped + 1 } }).note notices)

/-! ## One report -/

section Report

variable {h : Host τ} {i : Nat} {c : Client τ}

omit [TimeScale τ] in
theorem queue_eq (hc : h.client? i = some c) : h.queue i = c.reporter.waiting := by
  rw [queue, hc, Option.map_some, Option.getD_some]

omit [TimeScale τ] in
theorem queue_searched (hc : h.client? i = some c) (r : Request) :
    (h.searched i c r).queue i = h.queue i := by
  have hsearched : (h.searched i c r).client? i
      = some (c.detect r.userAgent (r.referrer?.getD "")).1 := client?_setClient_self hc
  rw [queue_eq hc, queue_eq hsearched]
  rfl

/-- A report is one event for the reporter, if there is a time for it. -/
theorem handed_report (hc : h.client? i = some c) (hkey : c.settings.isConfigured = true)
    (hstamp : HasStamp h.clock) {d : Detection} (hd : d.detected = true) (r : Request)
    (l : Location) (status : Nat) (elapsed : Int) : ∃ e, e.Tells r d status
      ∧ h.Handed i e (h.report i d (r.visit l status elapsed)).1 := by
  have hr := report_cases hc d (r.visit l status elapsed)
  generalize h.report i d (r.visit l status elapsed) = reported at hr ⊢
  cases hr with
  | skipped hskip => simp [hkey, hd] at hskip
  | undated _ _ he =>
    obtain ⟨e, he'⟩ := (hasStamp_iff c d (r.visit l status elapsed) h.clock).1 hstamp
    rw [he] at he'
    cases he'
  | queued _ _ he hroom => exact ⟨_, Event.tells_of_event he, .queued hc hroom⟩
  | full _ _ he hroom => exact ⟨_, Event.tells_of_event he, .dropped hc hroom⟩

omit [TimeScale τ] in
/-- An event waits behind all others if the queue has room. -/
theorem Handed.queue_eq {e : Event} {h' : Host τ} (hhanded : h.Handed i e h')
    (hc : h.client? i = some c)
    (hroom : Reporter.hasRoom c.settings.queueSize c.reporter.waiting.length = true) :
    h'.queue i = h.queue i ++ [e] := by
  rcases hhanded with @⟨c', hc', -⟩ | @⟨c', -, hc', hfull⟩
  · obtain rfl := Option.some.inj (hc.symm.trans hc')
    rw [Host.queue_eq hc, Host.queue_eq (client?_setClient_self hc)]
  · obtain rfl := Option.some.inj (hc.symm.trans hc')
    rw [hfull] at hroom
    cases hroom

/-- No report adds more than one event to a queue. -/
theorem queue_report (h : Host τ) (i : Nat) (d : Detection) (v : Visit) :
    (h.report i d v).1.queue i = h.queue i
      ∨ ∃ (c : Client τ) (e : Event), c.event d v h.clock = .ok e
        ∧ (h.report i d v).1.queue i = h.queue i ++ [e] := by
  rcases hc : h.client? i with _ | c
  · exact .inl (by simp only [report, hc])
  · have hr := report_cases hc d v
    generalize h.report i d v = reported at hr ⊢
    cases hr with
    | skipped => exact .inl rfl
    | undated => exact .inl rfl
    | @queued e _ _ he =>
      refine .inr ⟨c, e, he, ?_⟩
      rw [queue_eq hc, queue_eq (client?_setClient_self hc)]
    | full =>
      refine .inl ?_
      rw [queue_eq hc, queue, client?_note, client?_setClient_self hc]
      rfl

end Report

/-! ## Requests -/

/-- The status that is told of what the application has done. -/
def statusOf : Except Interruption Response → Nat
  | .ok answer => answer.status
  | .error _ => 500

/-- An answer that says that it depends on the user agent. -/
def marked (answer : Response) : Response :=
  { answer with headers := Headers.addVary answer.headers }

/-- What becomes of a request when its report has ended. -/
def afterReport (failed : Interruption → Handled) (done : Handled) :
    Except Interruption Bool → Handled
  | .error e => failed e
  | .ok _ => done

/-- What is let through is reported with the status of the answer, which is lost if the report is
interrupted. -/
theorem letThrough_eq {d : Detection} (hd : d.detected = true) (h : Host τ) (i : Nat) (r : Request)
    (l : Location) (app : App τ) : ∃ elapsed, h.letThrough i r l d app
      = (((app h).1.report i d (r.visit l (statusOf (app h).2) elapsed)).1,
        afterReport .lost (.ofApp ((app h).2.map marked))
          ((app h).1.report i d (r.visit l (statusOf (app h).2) elapsed)).2) := by
  unfold letThrough
  simp only [hd, Bool.not_true, Bool.false_eq_true, ↓reduceIte]
  rcases app h with ⟨h', e | answer⟩
  · refine ⟨milliseconds (h'.timer - h.timer), ?_⟩
    dsimp only [statusOf]
    rcases h'.report i d (r.visit l 500 _) with ⟨h'', e' | queued⟩ <;> rfl
  · refine ⟨milliseconds (h'.timer - h.timer), ?_⟩
    dsimp only [statusOf]
    rcases h'.report i d (r.visit l answer.status _) with ⟨h'', e' | queued⟩ <;> rfl

/-- What is reported about a request that a client has looked at, by what it has detected. What is
let through is reported after the application has run, on the host that it leaves, if the client is
still in its place there. -/
structure Accounted (h : Host τ) (i : Nat) (r : Request) (d : Detection) (app : App τ)
    (served : Host τ × Handled) : Prop where
  unreported : d.detected = false → served = ((app h).1, .ofApp (app h).2)
  denied : d.blocked = true → HasStamp h.clock → served.2 = { response := some .denied }
    ∧ ∃ e noted, e.Tells r d Response.denied.status ∧ (h.note noted).Handed i e served.1
  passed : d.detected = true → d.blocked = false → HasStamp (app h).1.clock →
    ∀ c, (app h).1.client? i = some c → c.settings.isConfigured = true →
      served.2 = .ofApp ((app h).2.map marked)
        ∧ ∃ e, e.Tells r d (statusOf (app h).2) ∧ (app h).1.Handed i e served.1
  atMostOne : served.1.queue i = (if d.blocked then h else (app h).1).queue i
    ∨ ∃ e, served.1.queue i = (if d.blocked then h else (app h).1).queue i ++ [e]

theorem accounted_examine {h : Host τ} {i : Nat} {c : Client τ} (hc : h.client? i = some c)
    (hkey : c.settings.isConfigured = true) {r : Request} {d : Detection}
    (hd : (c.detect r.userAgent (r.referrer?.getD "")).2.2 = .ok d) (l : Location) (app : App τ) :
    (h.searched i c r).Accounted i r d app (h.examine i c r l app) := by
  have hsearched : (h.searched i c r).client? i
      = some (c.detect r.userAgent (r.referrer?.getD "")).1 := client?_setClient_self hc
  -- The detection has changed no queue, so the events are counted from the host after it.
  generalize hs : h.searched i c r = s at hsearched ⊢
  unfold examine
  simp only [hd, hs]
  rcases hb : d.blocked with _ | _
  · refine ⟨fun hnone => letThrough_of_not_detected hnone s i r l app, by simp [hb],
      fun hsome _ hstamp c' hc' hkey' => ?_, ?_⟩
    · obtain ⟨elapsed, he⟩ := letThrough_eq hsome s i r l app
      obtain ⟨queued, hq⟩ :=
        report_of_hasStamp hc' hstamp d (r.visit l (statusOf (app s).2) elapsed)
      simp only [Bool.false_eq_true, ↓reduceIte, he, hq]
      exact ⟨rfl, handed_report hc' hkey' hstamp hsome r l _ elapsed⟩
    · simp only [hb, Bool.false_eq_true, ↓reduceIte]
      rcases letThrough_host s i r l d app with he | ⟨v, he⟩ <;> rw [he]
      · exact .inl rfl
      · exact (queue_report _ i d v).imp_right fun ⟨_, e, _, he⟩ => ⟨e, he⟩
  · have hsome := Detection.detected_of_blocked hb
    refine ⟨by simp [hsome], fun _ hstamp => ⟨?_, ?_⟩, by simp [hb], ?_⟩
    · exact (deny_snd hsearched hkey hsome r l).1 hstamp
    · simp only [↓reduceIte, deny_host]
      obtain ⟨e, he, hhanded⟩ := handed_report (show (s.note _).client? i = _ from hsearched) hkey
        hstamp hsome r l 403 0
      exact ⟨e, _, he, hhanded⟩
    · simp only [hb, ↓reduceIte, deny_host]
      exact (queue_report (s.note _) i d _).imp_right fun ⟨_, e, _, he⟩ => ⟨e, he⟩

/-- A request for a page that a client looks at is reported once if anything is detected, with what
is told of it, and it is not reported otherwise. One whose URL cannot be read back is interrupted
and not reported, whatever it is from. -/
theorem serve_accounts {h : Host τ} {i : Nat} {c : Client τ} (hc : h.client? i = some c)
    (hs : c.snapshot.dataset.Searchable) {r : Request} (hw : r.IsWeb) (app : App τ) :
    (r.Misread → ∃ fault, h.serve i r app = (h, .interrupted (.location (.url fault))))
      ∧ (¬ r.Misread → ¬ c.LooksAt (Location.readBack r).2 →
        h.serve i r app = ((app h).1, .ofApp (app h).2))
      ∧ (¬ r.Misread → c.LooksAt (Location.readBack r).2 →
        ∃ d, (c.detect r.userAgent (r.referrer?.getD "")).2.2 = .ok d
          ∧ (h.searched i c r).queue i = h.queue i
          ∧ (h.searched i c r).Accounted i r d app (h.serve i r app)) := by
  obtain ⟨d, -, hd, -, -⟩ := Client.exists_detect_eq_ok hs r.userAgent (r.referrer?.getD "")
  rcases Location.ofRequest_of_isWeb hw with ⟨hread, l, hl, hpath⟩ | ⟨hmis, fault, hl⟩
  · obtain ⟨hpass, hlook⟩ := serve_of_location hc hw.isHttp hl app
    rw [← hpath]
    refine ⟨fun hmis => absurd hmis hread, fun _ => hpass, fun _ h' => ?_⟩
    refine ⟨d, hd, queue_searched hc r, ?_⟩
    rw [hlook h']
    exact accounted_examine hc h'.1 hd l app
  · exact ⟨fun _ => ⟨fault, serve_of_fault hw.isHttp hl h i app⟩,
      fun hread => absurd hmis hread, fun hread => absurd hmis hread⟩

theorem detect_guarded {c : Client Micros} (hc : (guardedBy .blockingBots).client? 0 = some c)
    (referrer : String) : (c.detect "GPTBot/1.2" referrer).2.2
      = .ok (.bot (.ofPattern "Bot") true (some (Text.ofString "Bot"))) := by
  obtain rfl := Option.some.inj hc
  have hbot : Dataset.blockingBots.agentDetection "GPTBot/1.2"
      = .bot (.ofPattern "Bot") true (some (Text.ofString "Bot")) := by cbv
  rw [Client.detect_of_searchable (Engine.faithful_of_memo_none rfl) referrer
    (Or.inr Dataset.searchable_blockingBots), Dataset.detection, if_pos (by rw [hbot]; rfl)]
  exact congrArg Except.ok hbot

theorem serve_denied_told : ∃ e, ((guardedBy .blockingBots).serve 0 fromBot pages).1.queue 0 = [e]
    ∧ e.Tells fromBot (.bot (.ofPattern "Bot") true (some (Text.ofString "Bot"))) 403 := by
  have hweb : fromBot.IsWeb := Request.isWeb_of_path rfl
  have hread : ¬ fromBot.Misread := Request.not_misread (by decide)
  have hc : (guardedBy .blockingBots).client? 0 = some _ := rfl
  obtain ⟨-, -, hlooked⟩ := serve_accounts hc Dataset.searchable_blockingBots hweb pages
  obtain ⟨d, hd, hqueue, haccounted⟩ := hlooked hread ⟨rfl, excludes_fromBot⟩
  rw [show fromBot.userAgent = "GPTBot/1.2" by cbv, detect_guarded hc, Except.ok.injEq] at hd
  subst hd
  obtain ⟨-, e, noted, htells, hhanded⟩ := haccounted.denied rfl hasStamp_zero
  refine ⟨e, ?_, htells⟩
  rw [hhanded.queue_eq rfl (by decide)]
  exact congrArg (· ++ [e]) hqueue

/-- A bot is not reported, let alone denied, if it names no host on a connection without a server and
its path is read as an authority. -/
theorem serve_slashes_unreported :
    let r : Request := {
      path := "/\t/["
      headers := [("user-agent", "GPTBot/1.2")] }
    r.IsWeb ∧ ∃ c, (guardedBy .blockingBots).client? 0 = some c ∧ c.LooksAt r.path.toList
      ∧ (c.detect r.userAgent (r.referrer?.getD "")).2.2
        = .ok (.bot (.ofPattern "Bot") true (some (Text.ofString "Bot")))
      ∧ (guardedBy .blockingBots).serve 0 r pages
        = (guardedBy .blockingBots, .interrupted (.location (.url .brackets))) := by
  refine ⟨Request.isWeb_of_path rfl, _, rfl, ⟨rfl, by decide⟩, detect_guarded rfl _, ?_⟩
  exact serve_of_fault rfl (by cbv) _ _ _

end Host

end BotSentry
