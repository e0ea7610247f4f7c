import BotSentry.Proofs.Dependence

/-!
# The path that is judged

A client judges a request by the path that it reads back from the URL, while the application gets the
path of the request itself. The two are the same up to escapes, as long as the path holds no tab and no
line break: these are dropped on the way (`Location.unbroken_escapePath_iff`), so that an excluded path
with a break in it passes as what it is not, and the other way round (`Host.serve_named`).

What the request names as its host has no part in it. On a connection to a server that is known, two
requests that differ in it alone are judged alike and answered alike (`Host.serve_differInHost`).
-/

namespace BotSentry

variable {τ : Type} [TimeScale τ]

theorem Event.request_path_of_event {c : Client τ} {d : Detection} {v : Visit} {now : τ} {e : Event}
    (he : c.event d v now = .ok e) (hpath : v.path ≠ "") :
    e.field? "request_path" = some (.ofString v.path) := by
  obtain ⟨cs, platform, rfl⟩ := exists_eq_of_event he
  have hfield : ∀ (e : Event) name, e.field? name = Json.field? (Json.namedFields _) name :=
    fun _ _ => rfl
  have hsome : orElse v.path "/" = .ofString v.path := by
    rw [orElse, if_neg (by simpa using hpath)]
  rw [hfield, Json.field?_namedFields]
  simp only [List.lookup_cons, String.reduceBEq, hsome]

/-! ## Header fields that count -/

theorem Headers.first?_filter_ne {name other : String} (hne : name ≠ other) (headers : Headers) :
    first? (headers.filter (·.1 != other)) name = headers.first? name := by
  rw [first?, lookup_filter_ne, if_neg hne]
  rfl

namespace Request

/-- Two requests differ at most in their host fields: in how many there are, where, and what they
say. -/
structure DifferInHost (r r' : Request) : Prop where
  rest : r' = { r with headers := r'.headers }
  headers : r'.headers.filter (·.1 != "host") = r.headers.filter (·.1 != "host")

/-- A request for a page that names its host. -/
structure Named (r : Request) : Prop where
  isHttp : r.isHttp = true
  scheme : r.scheme = "http" ∨ r.scheme = "https"
  path : r.path.toList.head? = some '/'
  query : ∃ t, Text.Utf8.decode false r.query = .ok t
  host : ∃ host, r.headers.first? "host" = some host ∧ Location.isHost host.toList = true

section DifferInHost

variable {r r' : Request}

theorem DifferInHost.first? (hd : r.DifferInHost r') {name : String} (hne : name ≠ "host") :
    r'.headers.first? name = r.headers.first? name := by
  rw [← Headers.first?_filter_ne hne, hd.headers, Headers.first?_filter_ne hne]

theorem DifferInHost.isWeb (hd : r.DifferInHost r') (hw : r.IsWeb) : r'.IsWeb := by
  rw [hd.rest]
  exact ⟨hw.isHttp, hw.scheme, hw.path, hw.query, hw.server⟩

end DifferInHost

end Request

/-! ## What is read back -/

namespace Location

section Paths

variable {r : Request}

/-- A path with escapes loses nothing exactly if it holds no tab and no line break to begin with. -/
theorem unbroken_escapePath_iff {cs : List Char} : Url.unbroken (escapePath cs) = escapePath cs
    ↔ ∀ c ∈ cs, c ≠ '\t' ∧ c ≠ '\r' ∧ c ≠ '\n' := by
  have hkept : ∀ c, (c != '\t' && c != '\r' && c != '\n') = true
      ↔ c ≠ '\t' ∧ c ≠ '\r' ∧ c ≠ '\n' := by simp [and_assoc]
  unfold Url.unbroken
  simp only [List.filter_eq_self, hkept]
  constructor
  · intro h c hc
    by_contra hbreak
    -- A break is no delimiter, so it stands for itself.
    have hmem : c ∈ escapePath cs := by
      refine List.mem_flatMap.2 ⟨c, hc, ?_⟩
      simp only [not_and_or, not_not] at hbreak
      rcases hbreak with rfl | rfl | rfl <;> decide
    exact hbreak (h c hmem)
  · intro h c hc
    have hplain : ∀ c, c ∈ "%3F".toList ++ "%23".toList ++ "%5C".toList →
        c ≠ '\t' ∧ c ≠ '\r' ∧ c ≠ '\n' := by
      intro c hc
      refine ⟨?_, ?_, ?_⟩ <;> rintro rfl <;> revert hc <;> decide
    obtain ⟨d, hd, hc⟩ := List.mem_flatMap.1 hc
    split_ifs at hc
    · exact hplain c (by simp only [List.mem_append, hc, true_or])
    · exact hplain c (by simp only [List.mem_append, hc, true_or, or_true])
    · exact hplain c (by simp only [List.mem_append, hc, or_true])
    · rw [List.mem_singleton.1 hc]
      exact h d hd

/-- With an authority, the path of a request is its own. -/
theorem ofRequest_of_authority (hw : r.IsWeb) (ha : authority? r ≠ none) :
    ∃ l, ofRequest r = .ok l ∧ l.path = Url.unbroken (escapePath r.path.toList) := by
  have hpath : (readBack r).2 = Url.unbroken (escapePath r.path.toList) := by
    unfold readBack
    split
    · rfl
    · exact absurd ‹_› ha
  rw [← hpath]
  rcases ofRequest_of_isWeb hw with ⟨-, hl⟩ | ⟨hmis, -⟩
  · exact hl
  · exact absurd hmis.authority ha

theorem authority?_ne_none (hserver : r.server.isSome = true) : authority? r ≠ none := by
  obtain ⟨server, hs⟩ := Option.isSome_iff_exists.1 hserver
  rcases authority?_cases r with ⟨host, -, -, he⟩ | ⟨-, he⟩ <;> rw [he]
  · simp
  · simp [authority?.fromServer, hs]

/-- Where the host is named, the server of the connection does not count. -/
theorem ofRequest_of_named (h : ∃ host, r.headers.first? "host" = some host
    ∧ isHost host.toList = true) : authority? r ≠ none
      ∧ ofRequest { r with server := none } = ofRequest r := by
  obtain ⟨host, hhost, hmay⟩ := h
  have ha : authority? r = some host.toList := by simp [authority?, hhost, hmay]
  have ha' : authority? { r with server := none } = some host.toList := by
    simp [authority?, hhost, hmay]
  have hbase : base { r with server := none } = base r := by simp only [base, ha, ha']
  exact ⟨by simp [ha], by simp only [ofRequest, textOf, hbase]⟩

theorem exists_ofRequest_of_named (hn : r.Named) : ∃ l, ofRequest r = .ok l
    ∧ l.path = Url.unbroken (escapePath r.path.toList) := by
  obtain ⟨-, he⟩ := ofRequest_of_named hn.host
  obtain ⟨ha, -⟩ := ofRequest_of_named (r := { r with server := none }) hn.host
  have hw : { r with server := none }.IsWeb :=
    ⟨hn.isHttp, hn.scheme, hn.path, hn.query, fun _ _ h => by cases h⟩
  rw [← he]
  exact ofRequest_of_authority hw ha

end Paths

end Location

namespace Host

/-! ## Hosts that do not count -/

section Hosts

variable {h : Host τ} {i : Nat} {c : Client τ} {r r' : Request} {l l' : Location}

theorem report_end_congr {h h' : Host τ} (hc : h'.client? i = h.client? i)
    (hclock : h'.clock = h.clock) (d : Detection) (v v' : Visit) :
    (h'.report i d v').2.map (fun _ => ()) = (h.report i d v).2.map (fun _ => ()) := by
  rcases hi : h.client? i with _ | c <;> rw [hi] at hc
  · simp only [report, hc, hi]
  · rw [report_end hc, report_end hi, hclock]

theorem deny_congr (h : Host τ) (i : Nat) (r r' : Request) (l l' : Location) (d : Detection) :
    (h.deny i r' l' d).2 = (h.deny i r l d).2 := by
  obtain ⟨notices, he⟩ := deny_eq h i r l d
  obtain ⟨notices', he'⟩ := deny_eq h i r' l' d
  have hc : (h.note notices').client? i = (h.note notices).client? i := rfl
  rw [he, he']
  exact afterReport_congr (report_end_congr hc rfl d _ _) _ _

theorem letThrough_congr (h : Host τ) (i : Nat) (r r' : Request) (l l' : Location) (d : Detection)
    (app : App τ) : (h.letThrough i r' l' d app).2 = (h.letThrough i r l d app).2 := by
  rcases hd : d.detected with _ | _
  · rw [letThrough_of_not_detected hd, letThrough_of_not_detected hd]
  · obtain ⟨elapsed, he⟩ := letThrough_eq hd h i r l app
    obtain ⟨elapsed', he'⟩ := letThrough_eq hd h i r' l' app
    rw [he, he']
    exact afterReport_congr (report_end_congr rfl rfl d _ _) _ _

theorem examine_congr (hagent : r'.userAgent = r.userAgent) (href : r'.referrer? = r.referrer?)
    (h : Host τ) (i : Nat) (c : Client τ) (l l' : Location) (app : App τ) :
    (h.examine i c r' l' app).2 = (h.examine i c r l app).2 := by
  have hsearched : h.searched i c r' = h.searched i c r := by
    simp only [searched, hagent, href]
  unfold examine
  rw [hagent, href, hsearched]
  split
  · rfl
  · split
    · exact deny_congr _ i r r' l l' _
    · exact letThrough_congr _ i r r' l l' _ app

theorem serve_congr (hhttp : r.isHttp = true) (hhttp' : r'.isHttp = true)
    (hl : Location.ofRequest r = .ok l) (hl' : Location.ofRequest r' = .ok l')
    (hpath : l'.path = l.path) (hagent : r'.userAgent = r.userAgent)
    (href : r'.referrer? = r.referrer?) (h : Host τ) (i : Nat) (app : App τ) :
    (h.serve i r' app).2 = (h.serve i r app).2 := by
  rcases hc : h.client? i with _ | c
  · simp only [serve, hhttp, hhttp', hl, hl', hc]
  · obtain ⟨hskip, hlook⟩ := serve_of_location hc hhttp hl app
    obtain ⟨hskip', hlook'⟩ := serve_of_location hc hhttp' hl' app
    rw [hpath] at hskip' hlook'
    by_cases hlooks : c.LooksAt l.path
    · rw [hlook hlooks, hlook' hlooks]
      exact examine_congr hagent href h i c l l' app
    · rw [hskip hlooks, hskip' hlooks]

omit [TimeScale τ] in
theorem appRan_ofApp (result : Except Interruption Response) :
    (Handled.ofApp result).appRan = true := by
  rcases result <;> rfl

theorem appRan_letThrough (h : Host τ) (i : Nat) (r : Request) (l : Location) (d : Detection)
    (app : App τ) : (h.letThrough i r l d app).2.appRan = true := by
  rcases hd : d.detected with _ | _
  · rw [letThrough_of_not_detected hd]
    exact appRan_ofApp _
  · obtain ⟨elapsed, he⟩ := letThrough_eq hd h i r l app
    rw [he]
    dsimp only
    rcases ((app h).1.report i d _).2 with e | queued
    · rfl
    · exact appRan_ofApp _

theorem appRan_serve (h : Host τ) (i : Nat) (r : Request) (app app' : App τ) :
    (h.serve i r app').2.appRan = (h.serve i r app).2.appRan := by
  have hpass : (Handled.ofApp (app' h).2).appRan = (Handled.ofApp (app h).2).appRan := by
    rw [appRan_ofApp, appRan_ofApp]
  rcases hhttp : r.isHttp with _ | _
  · simp only [serve, hhttp, Bool.not_false, ↓reduceIte]
    exact hpass
  · rcases hl : Location.ofRequest r with fault | l
    · rw [serve_of_fault hhttp hl, serve_of_fault hhttp hl]
    · rcases hc : h.client? i with _ | c
      · simp only [serve, hhttp, hl, hc, Bool.not_true, Bool.false_eq_true, ↓reduceIte]
        exact hpass
      · obtain ⟨hskip, hlook⟩ := serve_of_location hc hhttp hl app
        obtain ⟨hskip', hlook'⟩ := serve_of_location hc hhttp hl app'
        by_cases hlooks : c.LooksAt l.path
        · rw [hlook hlooks, hlook' hlooks]
          unfold examine
          split
          · rfl
          · split
            · rfl
            · rw [appRan_letThrough, appRan_letThrough]
        · rw [hskip hlooks, hskip' hlooks]
          exact hpass

/-- On a connection to a server that is known, what a request names as its host makes no difference to
the path, the detection and the answer, and to whether the application runs. -/
theorem serve_differInHost (hw : r.IsWeb) (hserver : r.server.isSome = true)
    (hd : r.DifferInHost r') : ∃ l l', Location.ofRequest r = .ok l ∧ Location.ofRequest r' = .ok l'
      ∧ l.path = Url.unbroken (Location.escapePath r.path.toList) ∧ l'.path = l.path
      ∧ (∀ c : Client τ, c.detect r'.userAgent (r'.referrer?.getD "")
        = c.detect r.userAgent (r.referrer?.getD ""))
      ∧ ∀ (h : Host τ) i app app', (h.serve i r' app).2 = (h.serve i r app).2
        ∧ (h.serve i r' app').2.appRan = (h.serve i r app).2.appRan := by
  have hw' := hd.isWeb hw
  have hserver' : r'.server.isSome = true := by rwa [hd.rest]
  obtain ⟨l, hl, hpath⟩ :=
    Location.ofRequest_of_authority hw (Location.authority?_ne_none hserver)
  obtain ⟨l', hl', hpath'⟩ :=
    Location.ofRequest_of_authority hw' (Location.authority?_ne_none hserver')
  have hsame : l'.path = l.path := by rw [hpath', hpath, hd.rest]
  have hagent : r'.userAgent = r.userAgent :=
    congrArg (Option.getD · "") (hd.first? (by decide))
  have href : r'.referrer? = r.referrer? := hd.first? (by decide)
  have hserved : ∀ (h : Host τ) i app, (h.serve i r' app).2 = (h.serve i r app).2 :=
    serve_congr hw.isHttp hw'.isHttp hl hl' hsame hagent href
  refine ⟨l, l', hl, hl', hpath, hsame, fun c => by rw [hagent, href], fun h i app app' => ?_⟩
  exact ⟨hserved h i app, by rw [hserved h i app', appRan_serve h i r app app']⟩

end Hosts

/-- A request for a page on a connection to a server. -/
def toServer (headers : Headers) : Request where
  path := "/p"
  headers
  server := some ("example.com", 80)

theorem isWeb_toServer (headers : Headers) : (toServer headers).IsWeb where
  isHttp := rfl
  scheme := .inl rfl
  path := show "/p".toList.head? = some '/' from rfl
  query := ⟨_, rfl⟩
  server _ _ h := by
    obtain ⟨rfl, -⟩ := Prod.mk.inj (Option.some.inj h)
    have hplain : "example.com".toList.all Url.isPlain = true := by decide
    exact ⟨List.all_eq_true.1 hplain, fun hcolon => absurd hcolon (by decide)⟩

/-- A host with a path in it that is excluded does not lead there. -/
theorem serve_steering_host : ∃ l l', Location.ofRequest (toServer []) = .ok l
    ∧ Location.ofRequest (toServer [("host", "example.com/static")]) = .ok l' ∧ l'.path = l.path
    ∧ ((guardedBy .blockingBots).serve 0 (toServer [("host", "example.com/static")]) pages).2
      = ((guardedBy .blockingBots).serve 0 (toServer []) pages).2 := by
  have hd : (toServer []).DifferInHost (toServer [("host", "example.com/static")]) :=
    ⟨rfl, by decide⟩
  obtain ⟨l, l', hl, hl', -, hpath, -, hserved⟩ :=
    serve_differInHost (τ := Micros) (isWeb_toServer []) rfl hd
  exact ⟨l, l', hl, hl', hpath, (hserved (guardedBy .blockingBots) 0 pages pages).1⟩

/-! ## Paths that count -/

section Paths

variable {h : Host τ} {i : Nat} {c : Client τ} {r : Request} {l : Location}

/-- An event about a path waits behind those that have been there, or there is none. -/
def ToldOf (h : Host τ) (i : Nat) (path : List Char) (h' : Host τ) : Prop :=
  h'.queue i = h.queue i ∨ ∃ e : Event, h'.queue i = h.queue i ++ [e]
    ∧ e.field? "request_path" = some (.ofString (String.ofList path))

theorem toldOf_report (hne : l.path ≠ []) (h : Host τ) (i : Nat) (d : Detection) (r : Request)
    (status : Nat) (elapsed : Int) :
    h.ToldOf i l.path (h.report i d (r.visit l status elapsed)).1 := by
  rcases queue_report h i d (r.visit l status elapsed) with hsame | ⟨c, e, he, hadded⟩
  · exact .inl hsame
  · refine .inr ⟨e, hadded, Event.request_path_of_event he ?_⟩
    simpa [Request.visit] using hne

/-- What is told of a request that is examined is told of the path that has been judged. -/
theorem toldOf_examine (hc : h.client? i = some c) (hne : l.path ≠ []) (r : Request) (app : App τ) :
    h.ToldOf i l.path (h.examine i c r l app).1
      ∨ (app (h.searched i c r)).1.ToldOf i l.path (h.examine i c r l app).1 := by
  have hqueue := queue_searched hc r
  unfold examine
  split
  · exact .inl (.inl hqueue)
  · rename_i d _
    split
    · left
      have htold := toldOf_report hne ((h.searched i c r).note [.requestBlocked d.kind.name
        d.pattern (String.ofList l.path) r.clientAddress]) i d r 403 0
      rw [← deny_host] at htold
      unfold ToldOf at htold ⊢
      rwa [show ((h.searched i c r).note _).queue i = h.queue i from hqueue] at htold
    · right
      rcases hd : d.detected with _ | _
      · rw [letThrough_of_not_detected hd]
        exact .inl rfl
      · obtain ⟨elapsed, he⟩ := letThrough_eq hd (h.searched i c r) i r l app
        rw [he]
        exact toldOf_report hne _ i d r _ elapsed

/-- A request for a page that names its host is judged by its path with delimiters escaped and without
tabs and line breaks, so by its own path exactly if it holds none of these. With a key, a client passes it
on if that path is excluded, and examines it otherwise; and what it then tells of it is told of that
path. -/
theorem serve_named (hn : r.Named) : ∃ l, Location.ofRequest r = .ok l
    ∧ l.path = Url.unbroken (Location.escapePath r.path.toList)
    ∧ (l.path = Location.escapePath r.path.toList
      ↔ ∀ c ∈ r.path.toList, c ≠ '\t' ∧ c ≠ '\r' ∧ c ≠ '\n')
    ∧ ∀ (h : Host τ) i c app, h.client? i = some c → c.settings.isConfigured = true →
      (c.settings.excludes l.path = true → h.serve i r app = ((app h).1, .ofApp (app h).2))
        ∧ (c.settings.excludes l.path = false → h.serve i r app = h.examine i c r l app
          ∧ (h.ToldOf i l.path (h.serve i r app).1
            ∨ (app (h.searched i c r)).1.ToldOf i l.path (h.serve i r app).1)) := by
  obtain ⟨l, hl, hpath⟩ := Location.exists_ofRequest_of_named hn
  have hne : l.path ≠ [] := by
    obtain ⟨rest, hrest⟩ := Location.exists_escapePath hn.path
    simp [hpath, hrest]
  refine ⟨l, hl, hpath, ?_, fun h i c app hc hkey => ?_⟩
  · rw [hpath]
    exact Location.unbroken_escapePath_iff
  · obtain ⟨hskip, hlook⟩ := serve_of_location hc hn.isHttp hl app
    refine ⟨fun hexcluded => hskip fun hlooks => ?_, fun hincluded => ?_⟩
    · rw [hlooks.2] at hexcluded
      cases hexcluded
    · rw [hlook ⟨hkey, hincluded⟩]
      exact ⟨rfl, toldOf_examine hc hne r app⟩

end Paths

/-- A bot that is blocked asks for a page of a host that it names. -/
def askingFor (path : String) : Request where
  path
  headers := [("host", "example.com"), ("user-agent", "GPTBot/1.2")]

theorem named_askingFor {path : String} (h : path.toList.head? = some '/') :
    (askingFor path).Named where
  isHttp := rfl
  scheme := .inl rfl
  path := h
  query := ⟨_, rfl⟩
  host := ⟨"example.com", rfl, by decide⟩

/-- A mark that begins a query elsewhere is judged as a part of the path. -/
theorem serve_escaped_mark : (askingFor "/a?b").Named
    ∧ ∃ l, Location.ofRequest (askingFor "/a?b") = .ok l ∧ l.path = "/a%3Fb".toList
      ∧ ∃ c, (guardedBy .blockingBots).client? 0 = some c
        ∧ (guardedBy .blockingBots).serve 0 (askingFor "/a?b") pages
          = (guardedBy .blockingBots).examine 0 c (askingFor "/a?b") l pages := by
  have hn : (askingFor "/a?b").Named := named_askingFor rfl
  obtain ⟨l, hl, hpath, -, hserved⟩ := serve_named (τ := Micros) hn
  have hmark : l.path = "/a%3Fb".toList := hpath.trans rfl
  obtain ⟨c, hc, hsettings⟩ : ∃ c, (guardedBy .blockingBots).client? 0 = some c
      ∧ c.settings = { apiKey := "key" } := ⟨_, rfl, rfl⟩
  obtain ⟨-, hincluded⟩ := hserved (guardedBy .blockingBots) 0 c pages hc (by rw [hsettings]; rfl)
  refine ⟨hn, l, hl, hmark, c, hc, (hincluded ?_).1⟩
  rw [hsettings, hmark]
  decide

/-- A page that is not excluded is judged as one that is, because of a tab in its path, and a bot that
is blocked gets it. -/
theorem serve_tab_excluded : (askingFor "/sta\ttic/x").Named
    ∧ ∃ c, (guardedBy .blockingBots).client? 0 = some c ∧ c.settings.isConfigured = true
      ∧ c.settings.excludes (Location.escapePath "/sta\ttic/x".toList) = false
      ∧ (c.detect (askingFor "/sta\ttic/x").userAgent "").2.2
        = .ok (.bot (.ofPattern "Bot") true (some (Text.ofString "Bot")))
      ∧ (guardedBy .blockingBots).serve 0 (askingFor "/sta\ttic/x") pages
        = (guardedBy .blockingBots, .ofApp (.ok { status := 200 })) := by
  refine ⟨named_askingFor rfl, _, rfl, rfl, by decide, detect_guarded rfl "", ?_⟩
  rfl

end Host

end BotSentry
