import ProxySettings.Proofs.AddressText
import ProxySettings.Proofs.HostText
import ProxySettings.ServerSpec

/-!
# Addresses of servers

A server specification is a web address that names a server and nothing else. The password of an
address without a user is the one part that is dropped without a word: every other specification is
either an address of nothing but the server or refused.
-/

namespace ProxySettings

/-- A server is all that an address names. -/
structure Url.Names (url : Url) (server : ServerSpec) : Prop where
  path : url.path = [[]]
  query : url.query = none
  fragment : url.fragment = none
  username : url.username = []
  password : url.password = []
  tls : server.tls = url.tls
  host : server.host = url.host.text
  host_ne_empty : server.host ≠ ""
  port : server.port = url.port.getD (Url.defaultPort url.tls)

/-- An address without its password. -/
def Url.withoutPassword (url : Url) : Url := { url with password := [] }

theorem Url.withoutPassword_eq_self {url : Url} (h : url.password = []) :
    url.withoutPassword = url := by
  rw [withoutPassword, ← h]

namespace ServerSpec

/-- The server of an address is what it names, whatever the password. -/
theorem ofUrl?_eq_some_iff {url : Url} {server : ServerSpec} (h : url.host.text ≠ "") :
    ofUrl? url = some server ↔ url.withoutPassword.Names server := by
  rw [ofUrl?]
  constructor
  · intro hs
    split at hs
    · next hu =>
      obtain rfl := Option.some.inj hs
      obtain ⟨hpath, hquery, hfragment, husername⟩ := hu
      exact ⟨hpath, hquery, hfragment, husername, rfl, rfl, rfl, h, rfl⟩
    · cases hs
  · rintro ⟨hpath, hquery, hfragment, husername, -, htls, hhost, -, hport⟩
    rw [if_pos ⟨hpath, hquery, hfragment, husername⟩]
    cases server
    cases htls
    cases hhost
    cases hport
    rfl

theorem parse_eq_ok_iff {text : String} {server : ServerSpec} : parse text = .ok server ↔
    ∃ url, Url.Reads text url ∧ url.withoutPassword.Names server := by
  have hparse : parse text = .ok server ↔ (Url.parse? text).bind ofUrl? = some server := by
    rw [parse]
    cases (Url.parse? text).bind ofUrl? <;> simp
  rw [hparse, Option.bind_eq_some_iff]
  refine exists_congr fun url ↦ ?_
  rw [Url.parse?_eq_some_iff]
  refine and_congr_right fun hr ↦ ofUrl?_eq_some_iff ?_
  obtain ⟨p, -, -, -, hd⟩ := hr
  exact (Url.Host.isRead_of_parse? hd.host).text_ne_empty

/-- A text that is not the specification of a server is refused as it is. -/
theorem parse_eq_error_iff {text : String} {e : ConfigError} : parse text = .error e ↔
    (∀ server, parse text ≠ .ok server) ∧ e = .invalidFormat .serverSpec text := by
  rw [parse]
  cases (Url.parse? text).bind ofUrl? with
  | none => simp [eq_comm]
  | some server => simp

/-- Specifications are the addresses of servers, but for passwords. A text is accepted exactly if it
is an address that names a server when its password is left out, and refused as it is otherwise; the
accepted texts are those that name nothing but a server exactly as long as no password is left out.
-/
theorem accepts_addresses (text : String) :
    (∀ server, parse text = .ok server ↔
      ∃ url, Url.Reads text url ∧ url.withoutPassword.Names server) ∧
    (∀ e, parse text = .error e ↔
      (∀ server, parse text ≠ .ok server) ∧ e = .invalidFormat .serverSpec text) ∧
    ((∀ server, parse text = .ok server ↔ ∃ url, Url.Reads text url ∧ url.Names server) ↔
      ∀ url server, Url.Reads text url → url.withoutPassword.Names server → url.password = []) := by
  refine ⟨fun server ↦ parse_eq_ok_iff, fun e ↦ parse_eq_error_iff, ?_⟩
  constructor
  · intro h url server hr hn
    obtain ⟨url', hr', hn'⟩ := (h server).mp (parse_eq_ok_iff.mpr ⟨url, hr, hn⟩)
    rw [hr.unique hr']
    exact hn'.password
  · intro h server
    rw [parse_eq_ok_iff]
    refine exists_congr fun url ↦ and_congr_right fun hr ↦ ?_
    constructor
    · intro hn
      rwa [Url.withoutPassword_eq_self (h url server hr hn)] at hn
    · intro hn
      rwa [Url.withoutPassword_eq_self hn.password]

/-- The password of an address without a user is left out without a word. -/
theorem accepts_password : let text := "http://:secret@[::1]:81"
    parse text = .ok ⟨false, "::1", 81⟩ ∧
    (∃ url, Url.Reads text url ∧ url.password = "secret".toList) ∧
    ¬∃ url server, Url.Reads text url ∧ url.Names server := by
  intro text
  have hurl : Url.parse? text = some ⟨false, [], "secret".toList,
      .ipv6 [0, 0, 0, 0, 0, 0, 0, 1], some 81, [[]], none, none⟩ := by
    decide +kernel
  have hr := Url.parse?_eq_some_iff.mp hurl
  refine ⟨?_, ⟨_, hr, rfl⟩, ?_⟩
  · rw [parse, hurl]
    rfl
  · rintro ⟨url, server, hr', hn⟩
    have hp := hn.password
    rw [hr'.unique hr] at hp
    cases hp

end ServerSpec

end ProxySettings
