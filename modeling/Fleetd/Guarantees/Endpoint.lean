import Fleetd.Otlp.Endpoint

/-!
# The endpoint check on URLs

A URL names a scheme, a host, a port and a path. The check accepts a URL exactly if its scheme is
https or its host is on the same machine, except for one host: the loopback address in brackets is
cut at its own last colon if no port follows it, and then it is refused over http. No text with
credentials, a query or a fragment is accepted.
-/

namespace Fleetd.Otlp

open Serde

/-! ## URLs -/

/-- The schemes of a collector. -/
inductive Scheme where
  | http
  | https
  deriving DecidableEq

/-- The text of a scheme. -/
def Scheme.text : Scheme → List Char
  | .http => "http".toList
  | .https => "https".toList

/-- A host is a registered name or an IPv4 address, or else an IPv6 address in brackets. -/
inductive Host where
  | name (text : List Char)
  | bracketed (address : List Char)

/-- The text of a host. -/
def Host.text : Host → List Char
  | .name text => text
  | .bracketed address => '[' :: (address ++ [']'])

/-- The letters that end a host, or what follows it. -/
def delimiters : List Char := ['/', '@', '?', '#', '[', ']']

/-- A name is not empty and has no colon, and no host has a delimiter of a URL. -/
def Host.WellFormed : Host → Prop
  | .name text => text ≠ [] ∧ ':' ∉ text ∧ ∀ c ∈ delimiters, c ∉ text
  | .bracketed address => ∀ c ∈ delimiters, c ∉ address

/-- A URL with a port and a path that may be missing. -/
structure Url where
  scheme : Scheme
  host : Host
  port : Option (List Char)
  path : List Char
  host_wellFormed : host.WellFormed
  port_decimal : ∀ digits ∈ port, ∀ c ∈ digits, c.isDigit = true
  path_rooted : path = [] ∨ ∃ rest, path = '/' :: rest
  path_plain : '@' ∉ path ∧ '?' ∉ path ∧ '#' ∉ path

/-- The host of a URL and its port. -/
def Url.authority (url : Url) : List Char :=
  match url.port with
  | none => url.host.text
  | some digits => url.host.text ++ ':' :: digits

/-- The text of a URL. -/
def Url.text (url : Url) : String :=
  String.ofList (url.scheme.text ++ "://".toList ++ (url.authority ++ url.path))

/-- The hosts that the check is meant to let through in clear text. -/
def loopbackHosts : List (List Char) :=
  ["127.0.0.1".toList, "localhost".toList, "[::1]".toList]

/-- The loopback address in brackets, over http and without a port. -/
def Url.BareBracketed (url : Url) : Prop :=
  url.scheme = .http ∧ url.host.text = "[::1]".toList ∧ url.port = none

/-! ## What the check sees of a URL -/

theorem isLoopback_iff (host : List Char) : isLoopback host = true ↔ host ∈ loopbackHosts := by
  rw [isLoopback, decide_eq_true_iff, loopbackHosts, List.mem_cons, List.mem_cons, List.mem_singleton]

/-- A letter that is no digit is in no port. -/
theorem Url.not_mem_port (url : Url) {digits : List Char} (hport : url.port = some digits) {c : Char}
    (hc : c.isDigit = false) : c ∉ digits := by
  intro hmem
  have hdigit := url.port_decimal digits hport c hmem
  rw [hc] at hdigit
  cases hdigit

/-- A letter that is no digit, colon or bracket is in no authority, if it delimits. -/
theorem Url.not_mem_authority (url : Url) {c : Char} (hc : c ∈ delimiters) (hdigit : c.isDigit = false)
    (hcolon : c ≠ ':') (hopen : c ≠ '[') (hclose : c ≠ ']') : c ∉ url.authority := by
  have hhost : c ∉ url.host.text := by
    have hwell := url.host_wellFormed
    cases hurl : url.host with
    | name text =>
      rw [hurl] at hwell
      exact hwell.2.2 c hc
    | bracketed address =>
      rw [hurl] at hwell
      simp only [Host.text, List.mem_cons, List.mem_append, List.not_mem_nil, or_false, not_or]
      exact ⟨hopen, hwell c hc, hclose⟩
  unfold Url.authority
  cases hport : url.port with
  | none => exact hhost
  | some digits =>
    simp only [List.mem_append, List.mem_cons, not_or]
    exact ⟨hhost, hcolon, url.not_mem_port hport hdigit⟩

/-- Every URL names a host. -/
theorem Url.authority_ne_nil (url : Url) : url.authority ≠ [] := by
  have hhost : url.host.text ≠ [] := by
    have hwell := url.host_wellFormed
    cases hurl : url.host with
    | name text =>
      rw [hurl] at hwell
      exact hwell.1
    | bracketed address => exact List.cons_ne_nil _ _
  unfold Url.authority
  cases url.port with
  | none => exact hhost
  | some digits => exact List.append_ne_nil_of_left_ne_nil hhost _

/-- A URL is split behind its scheme. -/
theorem Url.splitOnce_text (url : Url) :
    splitOnce "://".toList url.text.toList = some (url.scheme.text, url.authority ++ url.path) := by
  have htext : url.text.toList =
      url.scheme.text ++ (':' :: ['/', '/']) ++ (url.authority ++ url.path) := String.toList_ofList
  have hscheme : ':' ∉ url.scheme.text := by cases url.scheme <;> decide
  rw [htext]
  exact splitOnce_append hscheme

/-- The authority of a URL ends where its path starts. -/
theorem Url.takeWhile_authority (url : Url) :
    (url.authority ++ url.path).takeWhile (· ≠ '/') = url.authority := by
  have hslash : '/' ∉ url.authority :=
    url.not_mem_authority (by decide) (by decide) (by decide) (by decide) (by decide)
  have hauthority : ∀ c ∈ url.authority, decide (c ≠ '/') = true := by
    intro c hc
    exact decide_eq_true fun heq => hslash (heq ▸ hc)
  rw [List.takeWhile_append_of_pos hauthority]
  rcases url.path_rooted with hpath | ⟨rest, hpath⟩
  · rw [hpath, List.takeWhile_nil, List.append_nil]
  · rw [hpath, List.takeWhile_cons, if_neg (by decide), List.append_nil]

/-- The check decides a URL by its scheme and by the host it cuts out of the authority. -/
theorem validateEndpoint_url (url : Url) :
    validateEndpoint url.text = .ok () ↔
      url.scheme = .https ∨ hostOf url.authority ∈ loopbackHosts := by
  have hcredentials : '@' ∉ url.authority ++ url.path := by
    rw [List.mem_append, not_or]
    exact ⟨url.not_mem_authority (by decide) (by decide) (by decide) (by decide) (by decide),
      url.path_plain.1⟩
  have hquery : '?' ∉ url.authority ++ url.path := by
    rw [List.mem_append, not_or]
    exact ⟨url.not_mem_authority (by decide) (by decide) (by decide) (by decide) (by decide),
      url.path_plain.2.1⟩
  have hfragment : '#' ∉ url.authority ++ url.path := by
    rw [List.mem_append, not_or]
    exact ⟨url.not_mem_authority (by decide) (by decide) (by decide) (by decide) (by decide),
      url.path_plain.2.2⟩
  have hscheme : ¬(url.scheme.text ≠ "http".toList ∧ url.scheme.text ≠ "https".toList) := by
    cases url.scheme <;> decide
  have hhttps : url.scheme.text = "https".toList ↔ url.scheme = .https := by
    cases url.scheme <;> decide
  simp only [validateEndpoint, url.splitOnce_text, url.takeWhile_authority]
  rw [if_neg hscheme, if_neg hcredentials, if_neg (not_or.2 ⟨hquery, hfragment⟩),
    if_neg url.authority_ne_nil, ← isLoopback_iff, ← hhttps]
  split
  case isTrue hrefused =>
    refine iff_of_false nofun (not_or.2 ⟨hrefused.2, ?_⟩)
    rw [hrefused.1]
    exact Bool.false_ne_true
  case isFalse haccepted =>
    refine iff_of_true rfl ?_
    by_cases hsecure : url.scheme.text = "https".toList
    · exact .inl hsecure
    · exact .inr (Bool.not_eq_false _ ▸ fun hremote => haccepted ⟨hremote, hsecure⟩)

/-! ## The host that is cut out -/

/-- Without colons, an authority is its host. -/
theorem hostOf_of_not_mem {host : List Char} (h : ':' ∉ host) : hostOf host = host := by
  rw [hostOf, rsplitOnce_eq_none h]

/-- In front of a port stands the host. -/
theorem hostOf_port {host digits : List Char} (h : ':' ∉ digits) :
    hostOf (host ++ ':' :: digits) = host := by
  rw [hostOf, rsplitOnce_append h]

/-- Brackets that are cut at a colon inside them are no host on the same machine. -/
theorem hostOf_bracketed {address : List Char} (hcolon : ':' ∈ address) (hclose : ']' ∉ address) :
    hostOf ('[' :: (address ++ [']'])) ∉ loopbackHosts := by
  obtain ⟨front, back, hsplit, hback⟩ := exists_last_of_mem hcolon
  have htext : '[' :: (address ++ [']']) = ('[' :: front) ++ ':' :: (back ++ [']']) := by
    rw [hsplit]
    simp
  have hend : ':' ∉ back ++ [']'] := by
    simp only [List.mem_append, List.mem_singleton, not_or]
    exact ⟨hback, by decide⟩
  have hfront : ']' ∉ '[' :: front := by
    intro hmem
    rcases List.mem_cons.1 hmem with hopen | hmem
    · exact absurd hopen (by decide)
    · exact hclose (hsplit ▸ List.mem_append_left _ hmem)
  rw [htext, hostOf_port hend]
  intro hloopback
  simp only [loopbackHosts, List.mem_cons, List.not_mem_nil, or_false] at hloopback
  rcases hloopback with heq | heq | heq
  · exact absurd (List.cons.inj heq).1 (by decide)
  · exact absurd (List.cons.inj heq).1 (by decide)
  · rw [heq] at hfront
    exact hfront (by decide)

/-- The host that is cut out is on the same machine exactly if the host of the URL is, unless it is
the loopback address in brackets without a port. -/
theorem Url.hostOf_mem (url : Url) :
    hostOf url.authority ∈ loopbackHosts ↔
      url.host.text ∈ loopbackHosts ∧ ¬(url.host.text = "[::1]".toList ∧ url.port = none) := by
  have hwell := url.host_wellFormed
  cases hport : url.port with
  | some digits =>
    have hdigits : ':' ∉ digits := url.not_mem_port hport (by decide)
    simp [Url.authority, hport, hostOf_port hdigits]
  | none =>
    have hauthority : url.authority = url.host.text := by rw [Url.authority, hport]
    rw [hauthority]
    cases hhost : url.host with
    | name text =>
      rw [hhost] at hwell
      have hbare : text ≠ "[::1]".toList := by
        rintro rfl
        exact hwell.2.1 (by decide)
      simp only [Host.text, hostOf_of_not_mem hwell.2.1, hbare, not_false_eq_true, and_true]
    | bracketed address =>
      rw [hhost] at hwell
      have hclose : ']' ∉ address := hwell ']' (by decide)
      by_cases hcolon : ':' ∈ address
      · refine iff_of_false (hostOf_bracketed hcolon hclose) ?_
        rintro ⟨hloopback, hbare⟩
        simp only [Host.text, loopbackHosts, List.mem_cons, List.not_mem_nil, or_false] at hloopback
        rcases hloopback with heq | heq | heq
        · exact absurd (List.cons.inj heq).1 (by decide)
        · exact absurd (List.cons.inj heq).1 (by decide)
        · exact hbare ⟨heq, rfl⟩
      · have hplain : ':' ∉ Host.text (.bracketed address) := by
          simp only [Host.text, List.mem_cons, List.mem_append, List.not_mem_nil, or_false, not_or]
          exact ⟨by decide, hcolon, by decide⟩
        have hbare : Host.text (.bracketed address) ≠ "[::1]".toList := by
          intro heq
          rw [heq] at hplain
          exact hplain (by decide)
        simp only [hostOf_of_not_mem hplain, hbare, not_false_eq_true, and_true]

/-! ## The check -/

/-- A text with a letter that no scheme and no separator has, and that the check refuses behind
them, is refused. -/
theorem validateEndpoint_refuses {endpoint : String} {c : Char}
    (hc : c = '@' ∨ c = '?' ∨ c = '#') (hmem : c ∈ endpoint.toList) :
    validateEndpoint endpoint ≠ .ok () := by
  intro haccepted
  unfold validateEndpoint at haccepted
  split at haccepted
  · cases haccepted
  rename_i scheme rest hsplit
  split at haccepted
  · cases haccepted
  rename_i hscheme
  have hrest : c ∈ rest := by
    rw [eq_of_splitOnce hsplit, List.mem_append, List.mem_append] at hmem
    rcases hmem with (hmem | hmem) | hmem
    · rw [not_and_or, not_not, not_not] at hscheme
      rcases hscheme with rfl | rfl <;> rcases hc with rfl | rfl | rfl <;> exact absurd hmem (by decide)
    · rcases hc with rfl | rfl | rfl <;> exact absurd hmem (by decide)
    · exact hmem
  split at haccepted
  · cases haccepted
  rename_i hcredentials
  split at haccepted
  · cases haccepted
  rename_i hquery
  rcases hc with rfl | rfl | rfl
  · exact hcredentials hrest
  · exact hquery (.inl hrest)
  · exact hquery (.inr hrest)

/-- The check is exact on a URL if and only if the URL is not the bare loopback address in brackets
over http, and it refuses every text with credentials, a query or a fragment. -/
theorem validateEndpoint_exact_iff (url : Url) (endpoint : String) :
    ((validateEndpoint url.text = .ok () ↔
      url.scheme = .https ∨ url.host.text ∈ loopbackHosts) ↔ ¬url.BareBracketed) ∧
    (('@' ∈ endpoint.toList ∨ '?' ∈ endpoint.toList ∨ '#' ∈ endpoint.toList) →
      validateEndpoint endpoint ≠ .ok ()) := by
  constructor
  · have hscheme : url.scheme = .http ↔ ¬url.scheme = .https := by
      cases url.scheme <;> decide
    have hloopback : url.host.text = "[::1]".toList → url.host.text ∈ loopbackHosts := by
      intro hbare
      rw [hbare]
      decide
    rw [validateEndpoint_url, url.hostOf_mem, Url.BareBracketed, hscheme]
    tauto
  · rintro (hmem | hmem | hmem)
    · exact validateEndpoint_refuses (.inl rfl) hmem
    · exact validateEndpoint_refuses (.inr (.inl rfl)) hmem
    · exact validateEndpoint_refuses (.inr (.inr rfl)) hmem

/-- A collector on the same machine, at the default port of http. -/
def bareCollector : Url where
  scheme := .http
  host := .bracketed "::1".toList
  port := none
  path := "/v1/traces".toList
  host_wellFormed := by
    have h : delimiters.all (fun c => !"::1".toList.contains c) = true := by decide
    intro c hc hmem
    have hfree := List.all_eq_true.1 h c hc
    rw [List.contains_iff_mem.2 hmem] at hfree
    cases hfree
  port_decimal := by simp
  path_rooted := .inr ⟨"v1/traces".toList, rfl⟩
  path_plain := by decide

/-- The collector on the same machine is refused. -/
theorem validateEndpoint_bareCollector :
    bareCollector.text = "http://[::1]/v1/traces" ∧
      ¬(validateEndpoint bareCollector.text = .ok () ↔
        bareCollector.scheme = .https ∨ bareCollector.host.text ∈ loopbackHosts) := by
  decide +kernel

end Fleetd.Otlp
