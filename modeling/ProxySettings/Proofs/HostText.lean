import ProxySettings.Proofs.Ipv4Text
import ProxySettings.Proofs.Ipv6Text
import ProxySettings.Proofs.Utf8
import ProxySettings.Url.Host

/-!
# Hosts are read as they are written

The text of a host, in brackets if it is an IPv6 address, is read as the host. Only the text of an
IPv6 address has a colon, and no text of a host has a character that separates the parts of an
address.
-/

namespace ProxySettings.Url

/-! ## What is read -/

/-- The hosts that are read: names in ASCII, and numbers in their ranges. -/
inductive Host.IsRead : Host → Prop
  | domain {name : List Char} (hname : Idna.toAscii? name = some name) (hne : name ≠ [])
    (hend : endsInNumber name = false) : IsRead (.domain (String.ofList name))
  | ipv4 {address : Nat} (hlt : address < 2 ^ 32) : IsRead (.ipv4 address)
  | ipv6 {pieces : List Nat} (hlength : pieces.length = 8) (hlt : ∀ n ∈ pieces, n < 2 ^ 16) :
    IsRead (.ipv6 pieces)

theorem Host.isRead_of_parse? {cs : List Char} {host : Host} (h : parse? cs = some host) :
    host.IsRead := by
  unfold parse? at h
  split at h
  · split at h
    · obtain ⟨pieces, hpieces, rfl⟩ := Option.map_eq_some_iff.mp h
      obtain ⟨hlength, hlt⟩ := pieces_of_ipv6? hpieces
      exact .ipv6 hlength hlt
    · cases h
  · obtain ⟨decoded, -, h⟩ := Option.bind_eq_some_iff.mp h
    obtain ⟨name, hname, h⟩ := Option.bind_eq_some_iff.mp h
    obtain ⟨hne, h⟩ := guard_bind_eq_some_iff.mp h
    split at h
    · obtain ⟨address, haddress, rfl⟩ := Option.map_eq_some_iff.mp h
      exact .ipv4 (lt_of_ipv4? haddress)
    · next hend =>
      obtain rfl := Option.some.inj h
      exact .domain (Idna.toAscii?_of_toAscii? hname) (by simpa using hne)
        (Bool.eq_false_iff.mpr hend)

/-! ## Characters -/

/-- The text of a host other than an IPv6 address is a name in ASCII. -/
theorem Host.IsRead.toAscii? {host : Host} (h : host.IsRead) (hv : ∀ ps, host ≠ .ipv6 ps) :
    Idna.toAscii? host.text.toList = some host.text.toList := by
  cases h with
  | domain hname =>
    rw [text, String.toList_ofList]
    exact hname
  | ipv4 => exact toAscii?_ipv4Text _
  | ipv6 => exact absurd rfl (hv _)

/-- Of the characters between the parts of an address, hosts have the colon alone. -/
theorem Host.IsRead.not_isForbidden {host : Host} (h : host.IsRead) {c : Char}
    (hc : c ∈ host.text.toList) (hne : c ≠ ':') : Idna.isForbidden c = false := by
  by_cases hv : ∃ ps, host = .ipv6 ps
  · obtain ⟨ps, rfl⟩ := hv
    have hall : ∀ d < 16, Idna.isForbidden (Nat.digitChar d) = false := by decide
    rcases mem_ipv6Text hc with he | ⟨d, hd, rfl⟩
    · exact absurd he hne
    · exact hall d hd
  · exact (Idna.forall_mem_name (h.toAscii? (not_exists.mp hv)) c hc).2

/-- A host has a colon exactly if it is an IPv6 address. -/
theorem Host.IsRead.colon_mem_iff {host : Host} (h : host.IsRead) :
    ':' ∈ host.text.toList ↔ ∃ ps, host = .ipv6 ps := by
  constructor
  · intro hm
    by_contra hv
    have hf := (Idna.forall_mem_name (h.toAscii? (not_exists.mp hv)) ':' hm).2
    cases hf
  · rintro ⟨ps, rfl⟩
    cases h with
    | ipv6 hlength => exact colon_mem_ipv6Text hlength

/-- No host has an empty text. -/
theorem Host.IsRead.text_ne_empty {host : Host} (h : host.IsRead) : host.text ≠ "" := by
  intro he
  have hnil : host.text.toList = [] := String.toList_eq_nil_iff.mpr he
  cases h with
  | domain _ hne =>
    rw [text, String.toList_ofList] at hnil
    exact hne hnil
  | ipv4 =>
    rw [text] at hnil
    exact toList_ipv4Text_ne_nil _ hnil
  | ipv6 hlength =>
    have hcolon := colon_mem_ipv6Text hlength
    rw [text] at hnil
    rw [hnil] at hcolon
    cases hcolon

/-! ## The written host -/

theorem percentDecoded_eq_self {bytes : List UInt8} (h : 37 ∉ bytes) :
    percentDecoded bytes = bytes := by
  induction bytes with
  | nil => rfl
  | cons b bytes ih =>
    rw [List.mem_cons, not_or] at h
    rw [percentDecoded, ih h.2]
    rintro x y rest rfl
    exact absurd rfl h.1

/-- A name in ASCII is a host of its own. -/
theorem Host.parse?_of_toAscii? {name : List Char} (h : Idna.toAscii? name = some name)
    (hne : name ≠ []) : parse? name =
      if endsInNumber name then (ipv4? name).map .ipv4
      else some (.domain (String.ofList name)) := by
  have hmem := Idna.forall_mem_name h
  have hpercent : 37 ∉ Utf8.encode (String.ofList name) := by
    rw [Utf8.mem_encode_iff (by decide), String.toList_ofList]
    exact fun hm ↦ absurd (hmem '%' hm).2 (by decide)
  have hdecode : Utf8.decode? (percentDecoded (Utf8.encode (String.ofList name))) =
      some (String.ofList name) := by
    rw [percentDecoded_eq_self hpercent, Utf8.decode?_encode]
  unfold parse?
  split
  · exact absurd (hmem '[' List.mem_cons_self).2 (by decide)
  · rw [hdecode, Option.bind_eq_bind, Option.bind_some, String.toList_ofList, h,
      Option.bind_eq_bind, Option.bind_some, List.isEmpty_eq_false_iff.mpr hne]
    rfl

/-- A host as it stands in an address. -/
def Host.written : Host → List Char
  | domain name => name.toList
  | ipv4 address => (ipv4Text address).toList
  | ipv6 pieces => '[' :: (ipv6Text pieces).toList ++ [']']

/-- A host that is written is read back. -/
theorem Host.IsRead.parse?_written {host : Host} (h : host.IsRead) :
    parse? host.written = some host := by
  cases h with
  | @domain name hname hne hend =>
    rw [written, String.toList_ofList, parse?_of_toAscii? hname hne, hend]
    rfl
  | @ipv4 address hlt =>
    rw [written, parse?_of_toAscii? (toAscii?_ipv4Text address) (toList_ipv4Text_ne_nil address),
      endsInNumber_ipv4Text, if_pos rfl, ipv4?_ipv4Text hlt]
    rfl
  | @ipv6 pieces hlength hlt =>
    have hreverse : ((ipv6Text pieces).toList ++ [']']).reverse =
        ']' :: (ipv6Text pieces).toList.reverse := by
      rw [List.reverse_append]
      rfl
    rw [written, List.cons_append, parse?, hreverse]
    simp only [List.reverse_reverse, ipv6?_ipv6Text hlength hlt, Option.map_some]

end ProxySettings.Url
