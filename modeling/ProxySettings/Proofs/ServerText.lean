import ProxySettings.Proofs.ServerAddress

/-!
# Servers are read as they are written

The text of a server is an address with nothing but its scheme, its host and its port, with brackets
around an IPv6 address. It is read as the server, however the server was specified.
-/

namespace ProxySettings

namespace Url

/-! ## Texts that count as they are -/

theorem counted_eq_self {cs : List Char} (h : ∀ c ∈ cs, 32 < c.toNat) : counted cs = cs := by
  have hdrop (l : List Char) (hl : ∀ c ∈ l, 32 < c.toNat) : l.dropWhile isMargin = l := by
    cases l with
    | nil => rfl
    | cons c l =>
      have hc := hl c List.mem_cons_self
      refine List.dropWhile_cons_of_neg ?_
      rw [isMargin, decide_eq_true_eq]
      omega
  have hrev : ∀ c ∈ cs.reverse, 32 < c.toNat := fun c hc ↦ h c (List.mem_reverse.mp hc)
  rw [counted, Text.trimWhile, Text.dropEndWhile, hdrop cs h, hdrop _ hrev, List.reverse_reverse,
    List.filter_eq_self]
  intro c hc
  have hn := h c hc
  have hbreak : isBreak c = false := by
    rw [isBreak, Bool.or_eq_false_iff, Bool.or_eq_false_iff, beq_eq_false_iff_ne,
      beq_eq_false_iff_ne, beq_eq_false_iff_ne]
    refine ⟨⟨?_, ?_⟩, ?_⟩ <;> rintro rfl <;> exact absurd hn (by decide)
  rw [hbreak]
  rfl

/-! ## The host in an address -/

/-- The characters of a host and a port: they count, and belong to no other part. -/
structure IsAddressChar (c : Char) : Prop where
  counts : 32 < c.toNat
  authority : endsAuthority c = false
  ne_at : c ≠ '@'

theorem isAddressChar_of_not_isForbidden {c : Char} (h : Idna.isForbidden c = false) :
    IsAddressChar c := by
  have hne (d : Char) (hd : Idna.isForbidden d = true) : c ≠ d := by
    rintro rfl
    rw [hd] at h
    cases h
  refine ⟨?_, ?_, hne '@' (by decide)⟩
  · rw [Idna.isForbidden, Bool.or_eq_false_iff, Bool.or_eq_false_iff, decide_eq_false_iff_not] at h
    omega
  · simp only [endsAuthority, isSlash, Bool.or_eq_false_iff, beq_eq_false_iff_ne]
    exact ⟨⟨⟨hne '/' (by decide), hne '\\' (by decide)⟩, hne '?' (by decide)⟩, hne '#' (by decide)⟩

theorem isAddressChar_of_isDigit {c : Char} (h : Text.isDigit c = true) : IsAddressChar c :=
  isAddressChar_of_not_isForbidden (Idna.isForbidden_of_decimal h)

theorem Host.IsRead.isAddressChar {host : Host} (h : host.IsRead) {c : Char}
    (hc : c ∈ host.text.toList) : IsAddressChar c := by
  by_cases hne : c = ':'
  · rw [hne]
    exact ⟨by decide, by decide, by decide⟩
  · exact isAddressChar_of_not_isForbidden (h.not_isForbidden hc hne)

/-- Brackets are around a host, never in it. -/
theorem Host.IsRead.bracket_notMem {host : Host} (h : host.IsRead) :
    '[' ∉ host.text.toList ∧ ']' ∉ host.text.toList :=
  ⟨fun hm ↦ absurd (h.not_isForbidden hm (by decide)) (by decide),
    fun hm ↦ absurd (h.not_isForbidden hm (by decide)) (by decide)⟩

/-- A host is written with brackets exactly if it has a colon. -/
theorem Host.IsRead.written_eq {host : Host} (h : host.IsRead) : host.written =
    if ':' ∈ host.text.toList then '[' :: host.text.toList ++ [']'] else host.text.toList := by
  by_cases hv : ∃ ps, host = .ipv6 ps
  · rw [if_pos (h.colon_mem_iff.mpr hv)]
    obtain ⟨ps, rfl⟩ := hv
    rfl
  · rw [if_neg (mt h.colon_mem_iff.mp hv)]
    cases host with
    | domain name => rfl
    | ipv4 address => rfl
    | ipv6 ps => exact absurd ⟨ps, rfl⟩ hv

theorem Host.IsRead.isAddressChar_of_mem_written {host : Host} (h : host.IsRead) :
    ∀ c ∈ host.written, IsAddressChar c := by
  rw [h.written_eq]
  split
  · simp only [List.cons_append, List.forall_mem_cons, List.forall_mem_append]
    exact ⟨⟨by decide, by decide, by decide⟩, fun c hc ↦ h.isAddressChar hc,
      ⟨by decide, by decide, by decide⟩, nofun⟩
  · exact fun c hc ↦ h.isAddressChar hc

/-- Text in brackets ends before a port, if it has no brackets itself. -/
theorem endsHost_brackets {cs : List Char} (h : ']' ∉ cs) (port : Option (List Char)) :
    EndsHost [] ('[' :: cs ++ [']']) port := by
  constructor
  · intro before after he
    rw [List.cons_append] at he
    cases before with
    | nil => cases List.head_eq_of_cons_eq he
    | cons d before =>
      rw [List.cons_append] at he
      obtain ⟨rfl, ht⟩ := List.cons.inj he
      have hcs : ∃ more, cs = before ++ more := by
        rcases List.eq_nil_or_concat after with rfl | ⟨more, e, rfl⟩
        · cases List.head_eq_of_cons_eq (List.append_inj' ht rfl).2
        · rw [List.concat_eq_append, ← List.cons_append, ← List.append_assoc] at ht
          exact ⟨_, (List.append_inj' ht rfl).1⟩
      obtain ⟨more, rfl⟩ := hcs
      exact ⟨[], before, rfl, fun hm ↦ h (List.mem_append_left more hm)⟩
  · intro _ ho
    rw [List.nil_append, hasOpenBracket_concat] at ho
    rcases ho with ho | ho
    · cases ho
    · exact ho.1 rfl

/-- Text without colons and brackets ends before a port. -/
theorem endsHost_plain {cs : List Char} (hcolon : ':' ∉ cs) (hopen : '[' ∉ cs)
    (port : Option (List Char)) : EndsHost [] cs port := by
  constructor
  · rintro before after rfl
    exact absurd (List.mem_append_right before List.mem_cons_self) hcolon
  · rintro _ ⟨before, after, he, -⟩
    rw [List.nil_append] at he
    exact hopen (he ▸ List.mem_append_right before List.mem_cons_self)

/-- A written host ends where the port starts. -/
theorem Host.IsRead.endsHost_written {host : Host} (h : host.IsRead) (port : Option (List Char)) :
    EndsHost [] host.written port := by
  rw [h.written_eq]
  split
  · exact endsHost_brackets h.bracket_notMem.2 port
  · next hcolon => exact endsHost_plain hcolon h.bracket_notMem.1 port

/-- The text of a host is an IPv6 address exactly if the host is. -/
theorem Host.IsRead.eq_ipv6_iff {host : Host} (h : host.IsRead) (pieces : List Nat) :
    host = .ipv6 pieces ↔ ipv6? host.text.toList = some pieces := by
  by_cases hv : ∃ ps, host = .ipv6 ps
  · obtain ⟨ps, rfl⟩ := hv
    cases h with
    | ipv6 hlength hlt => rw [text, ipv6?_ipv6Text hlength hlt, Host.ipv6.injEq, Option.some.injEq]
  · rw [ipv6?_eq_none (mt h.colon_mem_iff.mp hv)]
    refine ⟨fun he ↦ absurd ⟨pieces, he⟩ hv, fun he ↦ ?_⟩
    cases he

/-! ## The written server -/

/-- The parts of an address that is nothing but a host and a port. -/
def serverParts (tls : Bool) (host : Host) (port : UInt16) : Parts where
  scheme := schemeName tls
  slashes := ['/', '/']
  user := none
  host := host.written
  port := some (Nat.toDigits 10 port.toNat)
  path := []
  query := none
  fragment := none

/-- The address that the parts denote. -/
def serverUrl (tls : Bool) (host : Host) (port : UInt16) : Url where
  tls := tls
  username := []
  password := []
  host := host
  port := if port = defaultPort tls then none else some port
  path := [[]]
  query := none
  fragment := none

theorem Host.IsRead.isAddressChar_of_mem_address {host : Host} (h : host.IsRead) (tls : Bool)
    (port : UInt16) : ∀ c ∈ (serverParts tls host port).address, IsAddressChar c := by
  simp only [Parts.address, serverParts, marked, Option.elim_some, List.forall_mem_append,
    List.forall_mem_cons]
  exact ⟨h.isAddressChar_of_mem_written, ⟨by decide, by decide, by decide⟩,
    fun c hc ↦ isAddressChar_of_isDigit (Text.isDigit_of_mem_toDigits hc)⟩

theorem Host.IsRead.isCut_serverParts {host : Host} (h : host.IsRead) (tls : Bool)
    (port : UInt16) : (serverParts tls host port).IsCut := by
  have haddress := h.isAddressChar_of_mem_address tls port
  refine ⟨?slashes, ?authority, ?address, h.endsHost_written _, ?rest, ?path, ?fragment⟩
  case slashes =>
    simp only [serverParts, List.forall_mem_cons]
    exact ⟨rfl, rfl, nofun⟩
  case authority => exact fun c hc ↦ (haddress c hc).authority
  case address => exact fun hm ↦ (haddress '@' hm).ne_at rfl
  case rest => exact nofun
  case path => exact List.not_mem_nil
  case fragment => exact List.not_mem_nil

theorem Host.IsRead.denotes_serverParts {host : Host} (h : host.IsRead) (tls : Bool)
    (port : UInt16) : (serverParts tls host port).Denotes (serverUrl tls host port) where
  user := ⟨none, rfl, List.not_mem_nil, rfl⟩
  host := h.parse?_written
  port := .number port Nat.toDigits_ne_nil (fun _ hc ↦ Text.isDigit_of_mem_toDigits hc)
    (Text.decimal_toDigits _)
  path := rfl
  query := rfl
  fragment := rfl

/-- All characters of the parts count. -/
theorem Host.IsRead.counted_serverParts {host : Host} (h : host.IsRead) (tls : Bool)
    (port : UInt16) :
    counted (serverParts tls host port).text = (serverParts tls host port).text := by
  have htext : (serverParts tls host port).text =
      schemeName tls ++ ':' :: '/' :: '/' :: (serverParts tls host port).address := by
    simp only [Parts.text, Parts.afterScheme, Parts.authority, Parts.rest, serverParts, marked,
      markedAfter, Option.elim_none, List.nil_append, List.append_nil, List.cons_append]
  have hscheme : (schemeName tls).all (32 < ·.toNat) = true := by
    cases tls <;> decide
  refine counted_eq_self ?_
  rw [htext]
  simp only [List.forall_mem_append, List.forall_mem_cons]
  exact ⟨fun c hc ↦ of_decide_eq_true (List.all_eq_true.mp hscheme c hc),
    by decide, by decide, by decide,
    fun c hc ↦ (h.isAddressChar_of_mem_address tls port c hc).counts⟩

theorem Host.IsRead.reads_serverParts {host : Host} (h : host.IsRead) (tls : Bool)
    (port : UInt16) :
    Reads (String.ofList (serverParts tls host port).text) (serverUrl tls host port) := by
  refine ⟨serverParts tls host port, ?_, h.isCut_serverParts tls port, ?_,
    h.denotes_serverParts tls port⟩
  · rw [String.toList_ofList, h.counted_serverParts]
  · have hlower (tls : Bool) : (schemeName tls).map Char.toLower = schemeName tls := by
      cases tls <;> decide
    exact hlower tls

end Url

namespace ServerSpec

/-- The address of a server with its host written in a given way. -/
def addressOf (server : ServerSpec) (host : String) : String :=
  (if server.tls then "https" else "http") ++ "://" ++ host ++ ":" ++
    toString server.port.toNat

theorem addressOf_injective (server : ServerSpec) {host host' : String}
    (h : server.addressOf host = server.addressOf host') : host = host' := by
  have hl := congrArg String.toList h
  simpa [addressOf, String.toList_inj] using hl

/-- The text of a server is the address of its host, in brackets if it has a colon. -/
theorem text_eq (server : ServerSpec) : server.text = server.addressOf
    (if ':' ∈ server.host.toList then "[" ++ server.host ++ "]" else server.host) := by
  rw [text, addressOf]
  simp only [List.contains_eq_mem, decide_eq_true_eq]

theorem text_eq_addressOf_iff (server : ServerSpec) (host : String) :
    server.text = server.addressOf host ↔ host =
      if ':' ∈ server.host.toList then "[" ++ server.host ++ "]" else server.host := by
  rw [text_eq]
  exact ⟨fun h ↦ (addressOf_injective server h).symm, fun h ↦ congrArg server.addressOf h.symm⟩

theorem text_eq_serverParts {server : ServerSpec} {host : Url.Host} (h : host.IsRead)
    (hs : server.host = host.text) :
    server.text = String.ofList (Url.serverParts server.tls host server.port).text := by
  have hhost : (if ':' ∈ server.host.toList then "[" ++ server.host ++ "]"
      else server.host).toList = host.written := by
    rw [h.written_eq, hs]
    split
    · simp
    · rfl
  have hscheme : (if server.tls then "https" else "http").toList = Url.schemeName server.tls := rfl
  rw [← String.toList_inj, String.toList_ofList, text_eq]
  simp only [addressOf, String.toList_append, hhost, hscheme, Text.toList_toString_nat,
    Url.Parts.text, Url.Parts.afterScheme, Url.Parts.authority, Url.Parts.address, Url.Parts.rest,
    Url.serverParts, Url.marked, Url.markedAfter, Option.elim_none, Option.elim_some,
    List.nil_append, List.append_nil, List.append_assoc]
  rfl

/-- A server is what its text is read as. -/
theorem parse_text {server : ServerSpec} {host : Url.Host} (h : host.IsRead)
    (hs : server.host = host.text) (hne : server.host ≠ "") : parse server.text = .ok server := by
  rw [text_eq_serverParts h hs]
  refine parse_eq_ok_iff.mpr ⟨_, h.reads_serverParts server.tls server.port,
    rfl, rfl, rfl, rfl, rfl, rfl, hs, hne, ?_⟩
  change server.port = Option.getD (if _ then none else some server.port) _
  split
  · next hport => exact hport
  · rfl

/-- Servers are read as they are written. Whatever text specified a server, its own text specifies
the server again. Its host is there and has no brackets; the text puts them around the host exactly
if the host is an IPv6 address, which it is exactly if the address was given one. -/
theorem reads_as_written {text : String} {server : ServerSpec} (h : parse text = .ok server) :
    parse server.text = .ok server ∧
    server.host ≠ "" ∧ '[' ∉ server.host.toList ∧ ']' ∉ server.host.toList ∧
    (server.text = server.addressOf ("[" ++ server.host ++ "]") ↔
      ∃ pieces, Url.ipv6? server.host.toList = some pieces) ∧
    (server.text = server.addressOf server.host ↔ Url.ipv6? server.host.toList = none) ∧
    ∀ url, Url.Reads text url → ∀ pieces,
      url.host = .ipv6 pieces ↔ Url.ipv6? server.host.toList = some pieces := by
  obtain ⟨url, hr, hn⟩ := parse_eq_ok_iff.mp h
  have hread : url.host.IsRead := by
    obtain ⟨p, -, -, -, hd⟩ := hr
    exact Url.Host.isRead_of_parse? hd.host
  have hhost : server.host = url.host.text := hn.host
  obtain ⟨hopen, hclose⟩ := hread.bracket_notMem
  rw [← hhost] at hopen hclose
  have hpieces (pieces : List Nat) :
      url.host = .ipv6 pieces ↔ Url.ipv6? server.host.toList = some pieces := by
    rw [hhost]
    exact hread.eq_ipv6_iff pieces
  have hcolon : ':' ∈ server.host.toList ↔
      ∃ pieces, Url.ipv6? server.host.toList = some pieces := by
    rw [hhost, hread.colon_mem_iff, ← hhost]
    exact exists_congr hpieces
  have hne : "[" ++ server.host ++ "]" ≠ server.host := fun he ↦ hopen (he ▸ by simp)
  refine ⟨parse_text hread hhost hn.host_ne_empty, hn.host_ne_empty, hopen, hclose, ?_, ?_, ?_⟩
  · rw [text_eq_addressOf_iff, ← hcolon]
    split
    · next hc => exact iff_of_true rfl hc
    · next hc => exact iff_of_false hne hc
  · rw [text_eq_addressOf_iff, ← Option.not_isSome_iff_eq_none, Option.isSome_iff_exists, ← hcolon]
    split
    · next hc => exact iff_of_false hne.symm (not_not.mpr hc)
    · next hc => exact iff_of_true rfl hc
  · intro url' hr'
    obtain rfl := hr'.unique hr
    exact hpieces

/-- An address with an IPv4 part, capitals, slashes of the other kind and its default port. -/
theorem reads_as_written_sample : let text := "HTTPS:\\\\[2001:DB8::192.0.2.1]:0443/"
    let server : ServerSpec := ⟨true, "2001:db8::c000:201", 443⟩
    parse text = .ok server ∧ server.text = "https://[2001:db8::c000:201]:443" ∧
    parse server.text = .ok server ∧
    server.text = server.addressOf ("[" ++ server.host ++ "]") := by
  intro text server
  have hurl : Url.parse? text = some ⟨true, [], [],
      .ipv6 [0x2001, 0xdb8, 0, 0, 0, 0, 0xc000, 0x201], none, [[]], none, none⟩ := by
    decide +kernel
  have h : parse text = .ok server := by
    rw [parse, hurl]
    decide +kernel
  have hpieces : Url.ipv6? server.host.toList =
      some [0x2001, 0xdb8, 0, 0, 0, 0, 0xc000, 0x201] := by
    decide +kernel
  obtain ⟨hparse, -, -, -, hbrackets, -, -⟩ := reads_as_written h
  exact ⟨h, by decide +kernel, hparse, hbrackets.mpr ⟨_, hpieces⟩⟩

end ServerSpec

end ProxySettings
