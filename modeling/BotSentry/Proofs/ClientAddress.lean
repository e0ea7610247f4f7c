import BotSentry.Http.Request
import BotSentry.Proofs.Authorities
import Mathlib.Data.List.Forall2

/-!
# The address of a client

Proxies name the client in header fields, and whoever sends a request can write those. Of the addresses
that are named the first counts that is not `127.0.0.1`, an address with no other spelling
(`Address.v4?_dotted`). The rest of the host's own addresses count like any other, so that a request
may claim to come from the host itself, and then the address is not the usable one
(`Request.firstNamed_eq_iff`).
-/

namespace BotSentry

namespace Address

/-! ## The spelling of an IPv4 address -/

/-- The four numbers of an IPv4 address between points. -/
def dotted (a b c d : Nat) : List Char :=
  Nat.toDigits 10 a ++ '.' :: (Nat.toDigits 10 b ++ '.' :: (Nat.toDigits 10 c ++ '.' ::
    Nat.toDigits 10 d))

theorem digitChar_of_isDigit {c : Char} (h : c.isDigit = true) :
    c.toNat - 0x30 < 10 ∧ (c.toNat - 0x30).digitChar = c := by
  have hrange : 48 ≤ c.toNat ∧ c.toNat ≤ 57 := by
    simpa [Char.isDigit, Char.le_def, UInt32.le_iff_toNat_le] using h
  have hlt : c.toNat - 0x30 < 10 := by omega
  refine ⟨hlt, Char.toNat_inj.1 ?_⟩
  rw [Nat.toNat_digitChar_of_lt_ten hlt]
  omega

/-- Digits go on from what has been read of a number, unless that is nothing yet. -/
theorem toDigits_append {ds : List Char} (h : ∀ c ∈ ds, c.isDigit = true) {n : Nat} (hn : 0 < n) :
    Nat.toDigits 10 n ++ ds
      = Nat.toDigits 10 (ds.foldl (fun n c => n * 10 + (c.toNat - 0x30)) n) := by
  induction ds generalizing n with
  | nil => simp
  | cons c ds ih =>
    rw [List.forall_mem_cons] at h
    obtain ⟨hlt, hc⟩ := digitChar_of_isDigit h.1
    have hstep : Nat.toDigits 10 n ++ [c] = Nat.toDigits 10 (n * 10 + (c.toNat - 0x30)) := by
      rw [Nat.mul_comm n 10, ← Nat.toDigits_append_toDigits (by decide) hn hlt,
        Nat.toDigits_of_lt_base hlt, hc]
    rw [List.foldl_cons, ← ih h.2 (by omega), ← hstep, List.append_assoc, List.singleton_append]

theorem eq_toDigits_of_octet? {ds : List Char} {n : Nat} (h : octet? ds = some n) :
    ds = Nat.toDigits 10 n ∧ n ≤ 255 := by
  unfold octet? at h
  split_ifs at h with hform
  dsimp only at h
  split_ifs at h with hle
  obtain rfl := Option.some.inj h
  refine ⟨?_, hle⟩
  simp only [Bool.or_eq_true, Bool.and_eq_true, Bool.not_eq_true', decide_eq_true_eq, not_or,
    not_and, Bool.not_eq_false, List.all_eq_true, List.isEmpty_iff] at hform
  obtain ⟨⟨⟨hne, hdigits⟩, -⟩, hzero⟩ := hform
  rcases ds with _ | ⟨c, ds⟩
  · exact absurd rfl hne
  · rw [List.forall_mem_cons] at hdigits
    obtain ⟨hlt, hc⟩ := digitChar_of_isDigit hdigits.1
    rw [digitsValue, List.foldl_cons, Nat.zero_mul, Nat.zero_add]
    rcases ds with _ | ⟨d, ds⟩
    · rw [List.foldl_nil, Nat.toDigits_of_lt_base hlt, hc]
    · -- A number of more digits does not begin with a zero.
      have hpos : 0 < c.toNat - 0x30 := by
        rw [Nat.pos_iff_ne_zero]
        intro h0
        rw [h0] at hc
        exact hzero (by simp) (by rw [← hc]; rfl)
      rw [← toDigits_append hdigits.2 hpos, Nat.toDigits_of_lt_base hlt, hc, List.singleton_append]

theorem splitAt_ne_nil (sep : Char) (cs : List Char) : splitAt sep cs ≠ [] := by
  cases cs with
  | nil => simp [splitAt]
  | cons c cs =>
    rw [splitAt]
    split_ifs
    · simp
    · split <;> simp

theorem eq_append_of_splitAt {sep : Char} {cs part : List Char} {parts : List (List Char)}
    (h : splitAt sep cs = part :: parts) : cs = part ++ parts.flatMap (sep :: ·) := by
  induction cs generalizing part parts with
  | nil =>
    obtain ⟨rfl, rfl⟩ := List.cons.inj h
    rfl
  | cons c cs ih =>
    rw [splitAt] at h
    rcases hs : splitAt sep cs with _ | ⟨first, rest⟩
    · exact absurd hs (splitAt_ne_nil sep cs)
    · rw [hs] at h
      split_ifs at h with hc
      · obtain ⟨rfl, rfl⟩ := List.cons.inj h
        rw [ih hs, hc]
        simp
      · obtain ⟨rfl, rfl⟩ := List.cons.inj h
        rw [ih hs, List.cons_append]

theorem forall₂_of_mapM {α β : Type} {f : α → Option β} {l : List α} {r : List β}
    (h : l.mapM f = some r) : List.Forall₂ (fun x y => f x = some y) l r := by
  induction l generalizing r with
  | nil =>
    rw [List.mapM_nil] at h
    obtain rfl := Option.some.inj h
    exact .nil
  | cons x l ih =>
    rw [List.mapM_cons] at h
    obtain ⟨y, hy, h⟩ := Option.bind_eq_some_iff.1 h
    obtain ⟨r, hr, h⟩ := Option.bind_eq_some_iff.1 h
    obtain rfl := Option.some.inj h
    exact .cons hy (ih hr)

/-- An IPv4 address has one spelling. -/
theorem v4?_dotted {cs : List Char} {n : Nat} (h : v4? cs = some n) : ∃ a b c d,
    (a ≤ 255 ∧ b ≤ 255 ∧ c ≤ 255 ∧ d ≤ 255) ∧ n = ((a * 256 + b) * 256 + c) * 256 + d
      ∧ cs = dotted a b c d := by
  unfold v4? at h
  obtain ⟨numbers, hnumbers, h⟩ := Option.bind_eq_some_iff.1 h
  split at h
  · rename_i a b c d
    obtain rfl := Option.some.inj h
    generalize hparts : splitAt '.' cs = parts at hnumbers
    rcases forall₂_of_mapM hnumbers with _ | ⟨ha, _ | ⟨hb, _ | ⟨hc, _ | ⟨hd, _ | _⟩⟩⟩⟩
    obtain ⟨rfl, hlea⟩ := eq_toDigits_of_octet? ha
    obtain ⟨rfl, hleb⟩ := eq_toDigits_of_octet? hb
    obtain ⟨rfl, hlec⟩ := eq_toDigits_of_octet? hc
    obtain ⟨rfl, hled⟩ := eq_toDigits_of_octet? hd
    refine ⟨a, b, c, d, ⟨hlea, hleb, hlec, hled⟩, rfl, ?_⟩
    rw [eq_append_of_splitAt hparts]
    simp [dotted]
  · simp at h

theorem v4?_of_ofChars? {cs : List Char} {n : Nat} (h : ofChars? cs = some (.v4 n)) :
    v4? cs = some n := by
  unfold ofChars? at h
  split_ifs at h
  split at h
  · rename_i m hm
    obtain rfl := Address.v4.inj (Option.some.inj h)
    exact hm
  · dsimp only at h
    split at h
    · simp at h
    · split_ifs at h
      simp at h

/-- The address `127.0.0.1`. -/
def localHost : Address := .v4 0x7F000001

theorem ofChars?_eq_localHost_iff {cs : List Char} :
    ofChars? cs = some localHost ↔ cs = Request.localAddress := by
  constructor
  · intro h
    obtain ⟨a, b, c, d, ⟨ha, hb, hc, hd⟩, hn, rfl⟩ := v4?_dotted (v4?_of_ofChars? h)
    obtain ⟨rfl, rfl, rfl, rfl⟩ : a = 127 ∧ b = 0 ∧ c = 0 ∧ d = 1 := by omega
    rfl
  · rintro rfl
    rfl

end Address

namespace Request

/-! ## What proxies name -/

/-- What a field names, if that is an address. -/
def namedBy? (r : Request) (field : String) : Option (List Char × Address) :=
  (r.headers.first? field).bind fun value =>
    (Address.ofChars? (firstItem value.toList)).map (firstItem value.toList, ·)

/-- The addresses that proxies name and how they spell them, in order of trust. -/
def named (r : Request) : List (List Char × Address) := proxyFields.filterMap r.namedBy?

def peerAddress (r : Request) : String := r.peer.getD (String.ofList localAddress)

/-- The first named address that counts, or that of the peer. -/
def firstNamed (r : Request) (counts : Address → Bool) : String :=
  ((r.named.find? (counts ·.2)).map (String.ofList ·.1)).getD r.peerAddress

/-- The first named address that is not one of the host itself, or that of the peer. -/
def usableAddress (r : Request) : String := r.firstNamed (!·.isLoopback)

variable {r : Request}

theorem ofChars?_of_mem_named {n : List Char × Address} (h : n ∈ r.named) :
    Address.ofChars? n.1 = some n.2 := by
  obtain ⟨field, -, hfield⟩ := List.mem_filterMap.1 h
  obtain ⟨value, -, hvalue⟩ := Option.bind_eq_some_iff.1 hfield
  obtain ⟨a, ha, rfl⟩ := Option.map_eq_some_iff.1 hvalue
  exact ha

theorem namedClient?_eq (r : Request) (field : String) : namedClient? r.headers field
    = ((r.namedBy? field).filter (·.2 != .localHost)).map (String.ofList ·.1) := by
  unfold namedClient? namedBy?
  rcases r.headers.first? field with _ | value
  · rfl
  · dsimp only [Option.bind_some]
    rcases ha : Address.ofChars? (firstItem value.toList) with _ | a
    · rfl
    · have hlocal : (firstItem value.toList != localAddress) = !(a == .localHost) := by
        rw [Bool.eq_iff_iff, bne_iff_ne, Bool.not_eq_true', beq_eq_false_iff_ne, not_iff_not,
          ← Address.ofChars?_eq_localHost_iff, ha, Option.some_inj]
      rw [hlocal]
      by_cases h : a = .localHost <;> simp [Option.filter, h]

theorem findSome?_namedClient? (r : Request) (fields : List String) :
    fields.findSome? (namedClient? r.headers)
      = ((fields.filterMap r.namedBy?).find? (·.2 != .localHost)).map (String.ofList ·.1) := by
  induction fields with
  | nil => rfl
  | cons field fields ih =>
    rw [List.findSome?_cons, namedClient?_eq, ih, List.filterMap_cons]
    rcases r.namedBy? field with _ | n
    · rfl
    · by_cases h : n.2 = .localHost <;> simp [Option.filter, h]

theorem clientAddress_eq (r : Request) : r.clientAddress = r.firstNamed (· != .localHost) := by
  have hgetD : r.clientAddress
      = (proxyFields.findSome? (namedClient? r.headers)).getD r.peerAddress := by
    unfold clientAddress
    rcases proxyFields.findSome? (namedClient? r.headers) with _ | address <;> rfl
  rw [hgetD, findSome?_namedClient?]
  rfl

theorem firstNamed_of_find? {counts : Address → Bool} {n : List Char × Address}
    (h : r.named.find? (counts ·.2) = some n) : r.firstNamed counts = String.ofList n.1 := by
  simp [firstNamed, h]

theorem firstNamed_of_forall {counts : Address → Bool}
    (h : ∀ n ∈ r.named, counts n.2 = false) : r.firstNamed counts = r.peerAddress := by
  have hnone : r.named.find? (counts ·.2) = none := List.find?_eq_none.2 fun n hn => by simp [h n hn]
  simp [firstNamed, hnone]

/-- Where fewer addresses count, the first one stays the first if it counts at all. -/
theorem find?_named_of_imp {counts counts' : Address → Bool} {n : List Char × Address}
    (himp : ∀ a, counts' a = true → counts a = true) (h : r.named.find? (counts ·.2) = some n)
    (hn : counts' n.2 = true) : r.named.find? (counts' ·.2) = some n := by
  obtain ⟨-, before, after, heq, hbefore⟩ := List.find?_eq_some_iff_append.1 h
  refine List.find?_eq_some_iff_append.2 ⟨hn, before, after, heq, fun m hm => ?_⟩
  have hskipped : counts m.2 = false := by simpa using hbefore m hm
  by_contra hcounts
  simp [himp m.2 (by simpa using hcounts)] at hskipped

theorem named_injective {m n : List Char × Address} (hm : m ∈ r.named) (hn : n ∈ r.named)
    (h : String.ofList m.1 = String.ofList n.1) : m.2 = n.2 := by
  have hchars : m.1 = n.1 := by simpa using congrArg String.toList h
  have ha := ofChars?_of_mem_named hm
  rw [hchars, ofChars?_of_mem_named hn] at ha
  exact (Option.some.inj ha).symm

/-- A named address that does not count is not taken for one that does, which is spelled otherwise. -/
theorem eq_firstNamed_iff {counts : Address → Bool} {n : List Char × Address} (hn : n ∈ r.named)
    (hskipped : counts n.2 = false) : String.ofList n.1 = r.firstNamed counts ↔
      String.ofList n.1 = r.peerAddress ∧ ∀ m ∈ r.named, counts m.2 = false := by
  by_cases hall : ∀ m ∈ r.named, counts m.2 = false
  · rw [firstNamed_of_forall hall]
    exact (and_iff_left hall).symm
  · refine iff_of_false (fun heq => ?_) fun h => hall h.2
    rcases hfirst : r.named.find? (counts ·.2) with _ | m
    · exact hall (by simpa using List.find?_eq_none.1 hfirst)
    · rw [firstNamed_of_find? hfirst] at heq
      have hm : counts m.2 = true := by simpa using List.find?_some hfirst
      rw [← named_injective hn (List.mem_of_find?_eq_some hfirst) heq, hskipped] at hm
      cases hm

theorem firstNamed_eq_iff {counts counts' : Address → Bool}
    (himp : ∀ a, counts' a = true → counts a = true) : r.firstNamed counts = r.firstNamed counts' ↔
      ∀ n, r.named.find? (counts ·.2) = some n → counts' n.2 = false →
        String.ofList n.1 = r.peerAddress ∧ ∀ m ∈ r.named, counts' m.2 = false := by
  rcases hfirst : r.named.find? (counts ·.2) with _ | n
  · have hnone : ∀ n ∈ r.named, counts n.2 = false := by simpa using List.find?_eq_none.1 hfirst
    have hnone' : ∀ n ∈ r.named, counts' n.2 = false := by
      intro n hn
      by_contra hcounts
      simpa [hnone n hn] using himp n.2 (by simpa using hcounts)
    rw [firstNamed_of_forall hnone, firstNamed_of_forall hnone']
    exact iff_of_true rfl fun n hn => by simp [hfirst] at hn
  · rw [firstNamed_of_find? hfirst]
    rcases hcounts : counts' n.2
    · rw [eq_firstNamed_iff (List.mem_of_find?_eq_some hfirst) hcounts]
      simp only [hfirst, Option.some.injEq, forall_eq', hcounts, forall_const]
    · rw [firstNamed_of_find? (find?_named_of_imp himp hfirst hcounts)]
      refine iff_of_true rfl fun m hm hskipped => ?_
      rw [← Option.some.inj (hfirst.symm.trans hm), hcounts] at hskipped
      cases hskipped

/-- The address of the client is the first named one other than `127.0.0.1`. It is the usable one unless
it is another address of the host itself, which only does no harm where no usable address is named and
the peer has that very address. -/
theorem clientAddress_eq_usable_iff (r : Request) :
    r.clientAddress = r.firstNamed (· != .localHost)
      ∧ (r.clientAddress = r.usableAddress ↔
        ∀ n, r.named.find? (·.2 != .localHost) = some n → n.2.isLoopback = true →
          String.ofList n.1 = r.peerAddress ∧ ∀ m ∈ r.named, m.2.isLoopback = true) := by
  have himp : ∀ a : Address, (!a.isLoopback) = true → (a != .localHost) = true := by
    intro a ha
    rw [bne_iff_ne]
    rintro rfl
    cases ha
  refine ⟨r.clientAddress_eq, ?_⟩
  rw [clientAddress_eq, usableAddress, firstNamed_eq_iff himp]
  simp only [Bool.not_eq_false']

/-- `127.0.0.1` is passed over, and what proxies it came through does not count. -/
theorem clientAddress_eq_usable_forwarded :
    let r : Request := { headers := [("x-forwarded-for", "127.0.0.1, 10.0.0.1"),
      ("x-real-ip", " 2001:DB8::1 ")], peer := some "203.0.113.9" }
    r.clientAddress = r.usableAddress ∧ r.usableAddress = "2001:DB8::1" := by
  intro r
  have hfirst : r.named.find? (·.2 != .localHost)
      = some ("2001:DB8::1".toList, .v6 0x20010DB8000000000000000000000001 none) := by decide
  refine ⟨(clientAddress_eq_usable_iff r).2.2 fun n hn hloop => ?_, by decide⟩
  obtain rfl := Option.some.inj (hfirst.symm.trans hn)
  cases hloop

/-- A sender may claim to be the host itself. -/
theorem clientAddress_ipv6_loopback :
    let r : Request := { headers := [("x-real-ip", "::1")], peer := some "203.0.113.9" }
    r.clientAddress = "::1" ∧ r.usableAddress = "203.0.113.9" :=
  ⟨by decide, by decide⟩

end Request

end BotSentry
