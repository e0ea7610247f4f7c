import BotSentry.Proofs.Decisions

/-!
# Who may ask for a synchronisation

The pages of the host's own application for the owner of the key are below an excluded path, so a
client passes requests for them on whatever it would detect (`Host.serveOwn_of_isAdmin`). The key of a
request decides (`Client.refusal?_cases`), and a request with another one changes nothing at all. A
key beyond ASCII is not refused but interrupts the request (`Host.serveOwn_admin`).
-/

namespace BotSentry

variable {τ : Type} [TimeScale τ]

/-- A text of ASCII characters. -/
def IsAscii (s : String) : Prop := s.toList.all (·.toNat < 0x80) = true

instance (s : String) : Decidable (IsAscii s) := inferInstanceAs (Decidable (_ = true))

/-- A request for one of the pages that only the owner of the key may see. -/
structure Request.IsAdmin (r : Request) (page : Route) : Prop where
  ne_health : page ≠ .health
  path : r.path = page.path
  method : r.method = page.method

namespace Location

section Plain

variable {r : Request} {path : List Char}

theorem base_of_path (hnone : authority? r = none) (hpath : r.path.toList = path)
    (hescape : escapePath path = path) (hslash : ¬ ['/', '/'] <+: path) : base r = path := by
  unfold base
  simp only [hnone, hpath, hescape]
  split
  · exact absurd (by simp [List.cons_prefix_cons]) hslash
  · rfl

/-- A path without breaks and delimiters that begins with a single slash is read back. -/
theorem readBack_of_path (hpath : r.path.toList = path) (hescape : escapePath path = path)
    (hbreak : Url.unbroken path = path) (hslash : ¬ ['/', '/'] <+: path) :
    ¬ r.Misread ∧ (readBack r).2 = path := by
  constructor
  · rintro ⟨hnone, rest, hstart, -⟩
    rw [base_of_path hnone hpath hescape hslash, hbreak] at hstart
    exact hslash (hstart ▸ by simp [List.cons_prefix_cons])
  · unfold readBack
    split
    · dsimp only
      rw [hpath, hescape, hbreak]
    · rename_i hnone
      rw [base_of_path hnone hpath hescape hslash, hbreak]
      unfold Url.splitAuthority
      split
      · exact absurd (by simp [List.cons_prefix_cons]) hslash
      · rfl

end Plain

end Location

namespace Client

omit [TimeScale τ] in
/-- Nobody but those who know the key may ask, and a key beyond ASCII cannot even be compared. -/
theorem refusal?_cases {c : Client τ} (hkey : c.settings.isConfigured = true)
    (given : Option String) :
    (∃ key, given = some key ∧ ¬ IsAscii key ∧ c.refusal? given = some .foreignKey)
      ∨ (∀ key, given = some key → IsAscii key)
        ∧ (given = some c.settings.apiKey ∧ c.refusal? given = none
          ∨ given ≠ some c.settings.apiKey ∧ c.refusal? given = some .wrongKey) := by
  rcases given with _ | key
  · exact .inr ⟨by simp, .inr ⟨by simp, by simp [refusal?, hkey]⟩⟩
  · have hown : c.settings.apiKey ≠ "" := by
      intro he
      simp [Settings.isConfigured, he] at hkey
    by_cases hempty : key = ""
    · subst hempty
      refine .inr ⟨by simp [IsAscii], .inr ⟨by simpa using hown.symm, ?_⟩⟩
      simp [refusal?, hkey]
    · by_cases ha : IsAscii key
      · have hvalue : c.refusal? (some key)
            = if key = c.settings.apiKey then none else some .wrongKey := by
          unfold IsAscii at ha
          simp only [refusal?, hkey, ha, String.isEmpty_iff, hempty, Bool.not_true,
            Bool.false_eq_true, ↓reduceIte]
        rw [hvalue]
        refine .inr ⟨fun k hk => Option.some.inj hk ▸ ha, ?_⟩
        by_cases he : key = c.settings.apiKey
        · exact .inl ⟨congrArg some he, if_pos he⟩
        · exact .inr ⟨by simpa using he, if_neg he⟩
      · refine .inl ⟨key, rfl, ha, ?_⟩
        rw [IsAscii, Bool.not_eq_true] at ha
        simp only [refusal?, hkey, ha, String.isEmpty_iff, hempty, Bool.not_true, Bool.not_false,
          Bool.false_eq_true, ↓reduceIte]

end Client

/-- How a request to the host's own application ends: an interruption is answered too, but goes on. -/
def Handled.ofOwn : Except Interruption Response → Handled
  | .ok answer => { response := some answer, appRan := true }
  | .error e => { response := some .failed, interruption := some e, appRan := true }

namespace Host

/-- What a page gives to those who may see it. -/
def adminPage (i : Nat) : Route → Client τ → App τ
  | .health, _, h => (h, healthAnswer)
  | .sync, _, h => h.adminSync i
  | .status, c, h => (h, statusAnswer c)

section Admin

variable {h : Host τ} {i : Nat} {c : Client τ} {r : Request} {p : Route}

theorem route_of_isAdmin (ha : r.IsAdmin p) (h : Host τ) (i : Nat) :
    route i r h = h.adminAnswer i r (adminPage i p) := by
  have hroute : Route.ofPath? r.path.toList = some p := by
    rw [ha.path]
    cases p <;> decide
  have hmethod : (r.method != p.method) = false := by simp [ha.method]
  unfold route
  simp only [hroute, hmethod, Bool.false_eq_true, ↓reduceIte]
  cases p with
  | health => exact absurd rfl ha.ne_health
  | sync => rfl
  | status => rfl

theorem readBack_of_isAdmin (ha : r.IsAdmin p) :
    ¬ r.Misread ∧ (Location.readBack r).2 = p.path.toList := by
  refine Location.readBack_of_path (congrArg String.toList ha.path) ?_ ?_ ?_ <;> cases p <;> decide

/-- A client passes requests for these pages on. -/
theorem serveOwn_of_isAdmin (hc : h.client? i = some c)
    (hpaths : c.settings.excludedPaths = ({} : Settings).excludedPaths) (hw : r.IsWeb)
    (ha : r.IsAdmin p) :
    h.serveOwn i r = ((route i r h).1, .ofOwn (route i r h).2) := by
  have hexcluded : c.settings.excludes p.path.toList = true := by
    rw [Settings.excludes, hpaths, Bool.or_eq_true]
    refine .inl ?_
    have hne := ha.ne_health
    cases p with
    | health => exact absurd rfl hne
    | sync => decide
    | status => decide
  have hserve : h.serve i r (route i r) = ((route i r h).1, .ofApp (route i r h).2) := by
    obtain ⟨hread, hback⟩ := readBack_of_isAdmin ha
    rcases Location.ofRequest_of_isWeb hw with ⟨-, l, hl, hpath⟩ | ⟨hmis, -⟩
    · refine (serve_of_location hc hw.isHttp hl (route i r)).1 fun hlook => ?_
      rw [Client.LooksAt, hpath, hback, hexcluded] at hlook
      exact absurd hlook.2 (by simp)
    · exact absurd hmis hread
  simp only [serveOwn, hserve]
  rcases (route i r h).2 with e | answer <;> rfl

/-- Those who know the key get the page. Anyone else is refused and changes nothing, but a key beyond
ASCII interrupts the request. -/
theorem serveOwn_admin (hc : h.client? i = some c) (hkey : c.settings.isConfigured = true)
    (hpaths : c.settings.excludedPaths = ({} : Settings).excludedPaths) (hw : r.IsWeb)
    (ha : r.IsAdmin p) {given : Option String} (hgiven : r.headers.first? "x-api-key" = given) :
    (∀ key, given = some key → ¬ IsAscii key → h.serveOwn i r
        = (h, { response := some .failed, interruption := some .foreignKey, appRan := true }))
      ∧ ((∀ key, given = some key → IsAscii key) →
        (given = some c.settings.apiKey →
          h.serveOwn i r = ((adminPage i p c h).1, .ofOwn (adminPage i p c h).2))
        ∧ (given ≠ some c.settings.apiKey → h.serveOwn i r = (h, {
            response := some {
              status := 403
              headers := [("content-length", "28"), ("content-type", "application/json")]
              body := Text.Utf8.encode "\x7b\"detail\":\"Invalid API key\"\x7d" }
            appRan := true }))) := by
  subst hgiven
  rw [serveOwn_of_isAdmin hc hpaths hw ha, route_of_isAdmin ha]
  unfold adminAnswer
  simp only [hc]
  rcases c.refusal?_cases hkey (r.headers.first? "x-api-key") with
    ⟨key, hgiven, hforeign, hrefusal⟩ | ⟨hascii, ⟨hgiven, hrefusal⟩ | ⟨hgiven, hrefusal⟩⟩
  all_goals rw [hrefusal]
  · exact ⟨fun _ _ _ => rfl, fun hall => absurd (hall key hgiven) hforeign⟩
  · exact ⟨fun key he hforeign => absurd (hascii key he) hforeign,
      fun _ => ⟨fun _ => rfl, fun hne => absurd hgiven hne⟩⟩
  · exact ⟨fun key he hforeign => absurd (hascii key he) hforeign,
      fun _ => ⟨fun he => absurd he hgiven, fun _ => rfl⟩⟩

end Admin

/-- A request for the state of the dataset, with a key. -/
def statusRequest (key : String) : Request where
  path := Route.status.path
  headers := [("user-agent", "GPTBot/1.2"), ("x-api-key", key)]

theorem isWeb_statusRequest (key : String) : (statusRequest key).IsWeb :=
  Request.isWeb_of_path (by cbv)

theorem isAdmin_statusRequest (key : String) : (statusRequest key).IsAdmin .status :=
  ⟨by decide, rfl, rfl⟩

/-- A bot that is blocked is refused like anyone else who does not know the key. -/
theorem serveOwn_refused : (guardedBy .blockingBots).serveOwn 0 (statusRequest "KEY")
    = (guardedBy .blockingBots, {
        response := some {
          status := 403
          headers := [("content-length", "28"), ("content-type", "application/json")]
          body := Text.Utf8.encode "\x7b\"detail\":\"Invalid API key\"\x7d" }
        appRan := true }) := by
  have hc : (guardedBy .blockingBots).client? 0 = some _ := rfl
  have hgiven : (statusRequest "KEY").headers.first? "x-api-key" = some "KEY" := rfl
  obtain ⟨-, hascii⟩ := serveOwn_admin hc rfl rfl (isWeb_statusRequest "KEY")
    (isAdmin_statusRequest "KEY") hgiven
  refine (hascii fun key hkey => ?_).2 (by decide)
  obtain rfl := Option.some.inj hkey
  decide

/-- A key beyond ASCII is not refused. -/
theorem serveOwn_foreign_interrupted : (guardedBy .blockingBots).serveOwn 0 (statusRequest "é")
    = (guardedBy .blockingBots,
        { response := some .failed, interruption := some .foreignKey, appRan := true }) := by
  have hc : (guardedBy .blockingBots).client? 0 = some _ := rfl
  rw [serveOwn_of_isAdmin hc rfl (isWeb_statusRequest "é") (isAdmin_statusRequest "é"),
    route_of_isAdmin (isAdmin_statusRequest "é")]
  rfl

end Host

end BotSentry
