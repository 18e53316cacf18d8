import ProxySettings.Proofs.DecimalText
import ProxySettings.Proofs.Splitting
import ProxySettings.Url.Basic

/-!
# The parts of a web address

An address is its parts with the marks between them: a scheme, slashes, user information, a host, a
port, a path, a query and a fragment. A text is read as an address exactly if it is cut into parts,
each of which ends where the next one starts, and the parts denote the address.
-/

namespace ProxySettings.Url

/-! ## Cuts -/

/-- A part of an address with the mark before it, or nothing. -/
def marked (mark : Char) (part : Option (List Char)) : List Char := part.elim [] (mark :: ·)

/-- A part of an address with the mark after it, or nothing. -/
def markedAfter (mark : Char) (part : Option (List Char)) : List Char :=
  part.elim [] (· ++ [mark])

/-- A text that is cut before a mark goes on with a part of that mark. -/
theorem span_ne_eq_iff {mark : Char} {cs before : List Char} {part : Option (List Char)} :
    cs.span (· != mark) = (before, marked mark part) ↔
      cs = before ++ marked mark part ∧ mark ∉ before := by
  have hall : (∀ c ∈ before, (c != mark) = true) ↔ mark ∉ before := by
    simp only [bne_iff_ne]
    exact ⟨fun h hm ↦ h mark hm rfl, fun h c hc he ↦ h (he ▸ hc)⟩
  have hhead : ∀ c ∈ (marked mark part).head?, (c != mark) = false := by
    cases part <;> simp [marked]
  rw [Text.span_eq_iff, hall]
  exact ⟨fun h ↦ ⟨h.1, h.2.1⟩, fun h ↦ ⟨h.1, h.2, hhead⟩⟩

theorem exists_span_ne (mark : Char) (cs : List Char) :
    ∃ before part, cs.span (· != mark) = (before, marked mark part) := by
  cases h : cs.span (· != mark) with
  | mk before after =>
    cases after with
    | nil => exact ⟨before, none, rfl⟩
    | cons c after =>
      have hc : (c != mark) = false := (Text.span_eq_iff.mp h).2.2 c rfl
      obtain rfl : c = mark := by simpa using hc
      exact ⟨before, some after, rfl⟩

/-- The part after a mark starts at the first place of the mark. -/
theorem cutBefore_eq_iff {mark : Char} {cs before : List Char} {part : Option (List Char)} :
    cutBefore mark cs = (before, part) ↔ cs = before ++ marked mark part ∧ mark ∉ before := by
  have hof {before : List Char} {part : Option (List Char)}
      (h : cs.span (· != mark) = (before, marked mark part)) :
      cutBefore mark cs = (before, part) := by
    rw [cutBefore, h]
    cases part <;> rfl
  constructor
  · intro h
    obtain ⟨first, rest, hs⟩ := exists_span_ne mark cs
    rw [hof hs, Prod.mk.injEq] at h
    obtain ⟨rfl, rfl⟩ := h
    exact span_ne_eq_iff.mp hs
  · exact fun h ↦ hof (span_ne_eq_iff.mpr h)

/-! ## User information -/

/-- The user information ends at the last sign `@`. -/
theorem credentials_eq_iff {cs info address : List Char} :
    credentials cs = (info, address) ↔ ∃ user, cs = markedAfter '@' user ++ address ∧
      '@' ∉ address ∧ info = user.getD [] := by
  have hof {after : List Char} {before : Option (List Char)}
      (h : cs.reverse.span (· != '@') = (after, marked '@' before)) :
      credentials cs = ((before.getD []).reverse, after.reverse) ∧
        cs = markedAfter '@' (before.map List.reverse) ++ after.reverse ∧ '@' ∉ after := by
    obtain ⟨hr, ha⟩ := span_ne_eq_iff.mp h
    rw [List.reverse_eq_iff, List.reverse_append] at hr
    rw [credentials, h]
    cases before with
    | none => exact ⟨by rw [hr]; rfl, hr, ha⟩
    | some before =>
      refine ⟨rfl, ?_, ha⟩
      rw [hr, marked, markedAfter]
      simp
  constructor
  · intro h
    obtain ⟨after, before, hs⟩ := exists_span_ne '@' cs.reverse
    obtain ⟨hc, hcs, ha⟩ := hof hs
    rw [hc, Prod.mk.injEq] at h
    obtain ⟨rfl, rfl⟩ := h
    refine ⟨before.map List.reverse, hcs, by simpa using ha, ?_⟩
    cases before <;> rfl
  · rintro ⟨user, rfl, ha, rfl⟩
    have hs : (markedAfter '@' user ++ address).reverse.span (· != '@') =
        (address.reverse, marked '@' (user.map List.reverse)) := by
      refine span_ne_eq_iff.mpr ⟨?_, by simpa using ha⟩
      cases user <;> simp [marked, markedAfter]
    rw [(hof hs).1, List.reverse_reverse]
    cases user <;> simp

/-- User information is the name of a user and, after a colon, a password. -/
def IsUser (info username password : List Char) : Prop :=
  ∃ part, info = username ++ marked ':' part ∧ ':' ∉ username ∧ password = part.getD []

/-! ## Host and port -/

/-- A bracket is open at the end of a text. -/
def HasOpenBracket (cs : List Char) : Prop :=
  ∃ before after, cs = before ++ '[' :: after ∧ ']' ∉ after

theorem hasOpenBracket_concat {cs : List Char} {c : Char} :
    HasOpenBracket (cs ++ [c]) ↔ c = '[' ∨ c ≠ ']' ∧ HasOpenBracket cs := by
  constructor
  · rintro ⟨before, after, he, ha⟩
    rcases List.eq_nil_or_concat after with rfl | ⟨after, d, rfl⟩
    · exact .inl (List.append_inj' he rfl |>.2 |> List.head_eq_of_cons_eq)
    · rw [List.concat_eq_append, ← List.cons_append, ← List.append_assoc] at he
      obtain ⟨rfl, hc⟩ := List.append_inj' he rfl
      obtain rfl := List.head_eq_of_cons_eq hc
      rw [List.concat_eq_append, List.mem_append, List.mem_singleton, not_or] at ha
      exact .inr ⟨Ne.symm ha.2, before, after, rfl, ha.1⟩
  · rintro (rfl | ⟨hc, before, after, rfl, ha⟩)
    · exact ⟨cs, [], rfl, List.not_mem_nil⟩
    · refine ⟨before, after ++ [c], by simp, ?_⟩
      simpa [ha] using hc.symm

/-- A host ends before a port, or with the text: its colons are in brackets, and no bracket is open
where a port follows. A bracket may be open in the text that was seen before. -/
structure EndsHost (seen host : List Char) (port : Option (List Char)) : Prop where
  colon : ∀ before after, host = before ++ ':' :: after → HasOpenBracket (seen ++ before)
  closed : port.isSome = true → ¬HasOpenBracket (seen ++ host)

theorem endsHost_nil {seen : List Char} {port : Option (List Char)} :
    EndsHost seen [] port ↔ (port.isSome = true → ¬HasOpenBracket seen) :=
  ⟨fun h ↦ by simpa using h.closed, fun h ↦ ⟨by simp, by simpa using h⟩⟩

theorem endsHost_cons {seen host : List Char} {c : Char} {port : Option (List Char)} :
    EndsHost seen (c :: host) port ↔
      (c = ':' → HasOpenBracket seen) ∧ EndsHost (seen ++ [c]) host port := by
  constructor
  · intro h
    refine ⟨fun hc ↦ by simpa using h.colon [] host (by rw [hc]; rfl), fun before after he ↦ ?_, ?_⟩
    · rw [← List.append_cons]
      exact h.colon (c :: before) after (by rw [he]; rfl)
    · rw [← List.append_cons]
      exact h.closed
  · rintro ⟨hc, h⟩
    refine ⟨fun before after he ↦ ?_, ?_⟩
    · cases before with
      | nil =>
        rw [List.append_nil]
        exact hc (List.head_eq_of_cons_eq he)
      | cons d before =>
        obtain ⟨rfl, hb⟩ := List.cons.inj he
        rw [List.append_cons]
        exact h.colon before after hb
    · rw [List.append_cons]
      exact h.closed

/-- The host ends at the first colon outside brackets. -/
theorem hostText_eq_iff {inBrackets : Bool} {seen cs host after : List Char}
    (hseen : inBrackets = true ↔ HasOpenBracket seen) :
    hostText inBrackets cs = (host, after) ↔ ∃ port, after = marked ':' port ∧
      cs = host ++ marked ':' port ∧ EndsHost seen host port := by
  induction cs generalizing inBrackets seen host after with
  | nil =>
    rw [hostText, Prod.mk.injEq]
    constructor
    · rintro ⟨rfl, rfl⟩
      exact ⟨none, rfl, rfl, endsHost_nil.mpr nofun⟩
    · rintro ⟨port, rfl, he, -⟩
      obtain ⟨rfl, hp⟩ := List.append_eq_nil_iff.mp he.symm
      exact ⟨rfl, hp.symm⟩
  | cons c cs ih =>
    rw [hostText]
    by_cases hstop : c = ':' ∧ !inBrackets
    · rw [if_pos hstop, Prod.mk.injEq]
      have hclosed : ¬HasOpenBracket seen := by
        rw [← hseen]
        simpa using hstop.2
      obtain ⟨rfl, -⟩ := hstop
      constructor
      · rintro ⟨rfl, rfl⟩
        exact ⟨some cs, rfl, rfl, endsHost_nil.mpr fun _ ↦ hclosed⟩
      · rintro ⟨port, rfl, he, hh⟩
        cases host with
        | nil => exact ⟨rfl, he⟩
        | cons d host =>
          obtain rfl := List.head_eq_of_cons_eq he
          exact absurd ((endsHost_cons.mp hh).1 rfl) hclosed
    · rw [if_neg hstop]
      have hopen (hc : c = ':') : HasOpenBracket seen := by
        rw [← hseen]
        simpa [hc] using hstop
      have hinside : (if c = '[' then true else if c = ']' then false else inBrackets) = true ↔
          HasOpenBracket (seen ++ [c]) := by
        rw [hasOpenBracket_concat, ← hseen]
        by_cases ho : c = '['
        · simp [ho]
        · by_cases hc : c = ']' <;> simp [ho, hc]
      generalize (if c = '[' then true else if c = ']' then false else inBrackets) = inside at *
      obtain ⟨⟨first, tail⟩, hrest⟩ : ∃ r, hostText inside cs = r := ⟨_, rfl⟩
      simp only [hrest, Prod.mk.injEq]
      constructor
      · rintro ⟨rfl, rfl⟩
        obtain ⟨port, rfl, rfl, hh⟩ := (ih hinside).mp hrest
        exact ⟨port, rfl, rfl, endsHost_cons.mpr ⟨hopen, hh⟩⟩
      · rintro ⟨port, rfl, he, hh⟩
        cases host with
        | nil =>
          cases port with
          | none => cases he
          | some port =>
            exact absurd (hopen (List.head_eq_of_cons_eq he)) (endsHost_nil.mp hh rfl)
        | cons d host =>
          obtain ⟨rfl, hcs⟩ := List.cons.inj he
          have hcut := (ih hinside).mpr ⟨port, rfl, hcs, (endsHost_cons.mp hh).2⟩
          rw [hrest, Prod.mk.injEq] at hcut
          exact ⟨by rw [hcut.1], hcut.2⟩

theorem false_iff_hasOpenBracket_nil : false = true ↔ HasOpenBracket [] := by
  simp [HasOpenBracket]

/-- The text of a port, after the host: nothing but digits, if anything at all. The default port
counts as none. -/
inductive IsPort (tls : Bool) : Option (List Char) → Option UInt16 → Prop
  | omitted : IsPort tls none none
  | blank : IsPort tls (some []) none
  | number {digits : List Char} (n : UInt16) (hne : digits ≠ [])
    (hdigits : ∀ c ∈ digits, Text.isDigit c = true) (hn : Text.decimal digits = n.toNat) :
    IsPort tls (some digits) (if n = defaultPort tls then none else some n)

theorem port?_marked_eq_some_iff {tls : Bool} {text : Option (List Char)} {port : Option UInt16} :
    port? tls (marked ':' text) = some port ↔ IsPort tls text port := by
  constructor
  · intro h
    match text with
    | none =>
      obtain rfl := Option.some.inj h
      exact .omitted
    | some [] =>
      obtain rfl := Option.some.inj h
      exact .blank
    | some (d :: ds) =>
      rw [marked, Option.elim_some, port?] at h
      · split at h
        · cases h
        · next n hn =>
          obtain ⟨hne, hd, hv⟩ := Text.number?_ten_eq_some_iff.mp hn
          split at h
          · cases h
          · next hle =>
            obtain ⟨p, rfl⟩ : ∃ p : UInt16, p.toNat = n :=
              ⟨.ofNat n, UInt16.toNat_ofNat_of_lt' (by rw [UInt16.size]; omega)⟩
            have number : IsPort tls (some (d :: ds)) _ := .number p hne hd hv
            simp only [UInt16.toNat_inj, UInt16.ofNat_toNat] at h
            split at h
            · next hp =>
              obtain rfl := Option.some.inj h
              rwa [if_pos hp] at number
            · next hp =>
              obtain rfl := Option.some.inj h
              rwa [if_neg hp] at number
      · simp
  · rintro (_ | _ | @⟨digits, n, hne, hd, hv⟩)
    · rfl
    · rfl
    · obtain ⟨d, ds, rfl⟩ := List.exists_cons_of_ne_nil hne
      have hn : Text.number? 10 (d :: ds) = some n.toNat :=
        Text.number?_ten_eq_some_iff.mpr ⟨hne, hd, hv⟩
      have hle : ¬65535 < n.toNat := Nat.not_lt.mpr (Nat.le_of_lt_succ n.toNat_lt)
      simp only [marked, Option.elim_some, port?, hn, hle, if_false, UInt16.ofNat_toNat,
        UInt16.toNat_inj]
      split <;> rfl

/-! ## The parts -/

/-- The parts of an address as they are written. -/
structure Parts where
  scheme : List Char
  slashes : List Char
  user : Option (List Char)
  host : List Char
  port : Option (List Char)
  path : List Char
  query : Option (List Char)
  fragment : Option (List Char)

namespace Parts

/-- The host and the port. -/
def address (p : Parts) : List Char := p.host ++ marked ':' p.port

/-- The part of an address with the host. -/
def authority (p : Parts) : List Char := markedAfter '@' p.user ++ p.address

/-- What stands after the host and the port. -/
def rest (p : Parts) : List Char := p.path ++ marked '?' p.query ++ marked '#' p.fragment

/-- What stands after the colon of the scheme. -/
def afterScheme (p : Parts) : List Char := p.slashes ++ (p.authority ++ p.rest)

/-- The text of the parts. -/
def text (p : Parts) : List Char := p.scheme ++ ':' :: p.afterScheme

/-- Every part ends where the next one starts: slashes of either kind before the authority, the last
sign `@` after the user information, the first colon outside brackets before the port, and the first
slash, question mark and number sign before the path, the query and the fragment. -/
structure IsCut (p : Parts) : Prop where
  slashes : ∀ c ∈ p.slashes, isSlash c = true
  authority : ∀ c ∈ p.authority, endsAuthority c = false
  address : '@' ∉ p.address
  host : EndsHost [] p.host p.port
  rest : ∀ c ∈ p.rest.head?, endsAuthority c = true
  path : '?' ∉ p.path
  fragment : '#' ∉ p.path ++ marked '?' p.query

end Parts

/-- The address that parts denote, but for its scheme. -/
structure Parts.Denotes (p : Parts) (url : Url) : Prop where
  user : IsUser (p.user.getD []) url.username url.password
  host : Host.parse? p.host = some url.host
  port : IsPort url.tls p.port url.port
  path : url.path = pathOf p.path
  query : url.query = p.query
  fragment : url.fragment = p.fragment

/-- The scheme of an address, in lower case. -/
def schemeName (tls : Bool) : List Char := (if tls then "https" else "http").toList

/-- A text is an address: the characters of it that count are cut into parts that denote it. -/
def Reads (text : String) (url : Url) : Prop :=
  ∃ p : Parts, p.text = counted text.toList ∧ p.IsCut ∧
    p.scheme.map Char.toLower = schemeName url.tls ∧ p.Denotes url

/-! ## Reading -/

theorem span_not_eq_iff {p : Char → Bool} {cs before after : List Char} :
    cs.span (!p ·) = (before, after) ↔
      cs = before ++ after ∧ (∀ c ∈ before, p c = false) ∧ ∀ c ∈ after.head?, p c = true := by
  simp only [Text.span_eq_iff, Bool.not_eq_true', Bool.not_eq_false']

theorem userOf_eq_iff {info username password : List Char} :
    ((info.span (· != ':')).1 = username ∧ (info.span (· != ':')).2.drop 1 = password) ↔
      IsUser info username password := by
  obtain ⟨name, part, hs⟩ := exists_span_ne ':' info
  have hdrop (part : Option (List Char)) : (marked ':' part).drop 1 = part.getD [] := by
    cases part <;> rfl
  constructor
  · rw [hs]
    rintro ⟨rfl, rfl⟩
    exact ⟨part, (span_ne_eq_iff.mp hs).1, (span_ne_eq_iff.mp hs).2, hdrop part⟩
  · rintro ⟨part, he, hu, rfl⟩
    rw [span_ne_eq_iff.mpr ⟨he, hu⟩]
    exact ⟨rfl, hdrop part⟩

/-- The host is not empty, so slashes do not reach into the authority. -/
theorem dropWhile_slashes {p : Parts} (hc : p.IsCut) (hh : p.host ≠ []) :
    p.afterScheme.dropWhile isSlash = p.authority ++ p.rest := by
  obtain ⟨c, cs, he⟩ : ∃ c cs, p.authority = c :: cs := by
    refine List.exists_cons_of_ne_nil fun h ↦ hh ?_
    exact (List.append_eq_nil_iff.mp (List.append_eq_nil_iff.mp h).2).1
  have hne : ¬isSlash c = true := by
    have hend := hc.authority c (he ▸ List.mem_cons_self)
    rw [endsAuthority, Bool.or_eq_false_iff, Bool.or_eq_false_iff] at hend
    rw [hend.1.1]
    decide
  rw [Parts.afterScheme, List.dropWhile_append_of_pos hc.slashes, he, List.cons_append,
    List.dropWhile_cons_of_neg hne]

/-- What is read after a scheme is the address of the parts that it is cut into. -/
theorem exists_parts_of_afterScheme {tls : Bool} {cs : List Char} {url : Url} (scheme : List Char)
    (h : afterScheme tls cs = some url) : ∃ p : Parts, p.scheme = scheme ∧ p.afterScheme = cs ∧
      p.IsCut ∧ url.tls = tls ∧ p.Denotes url := by
  obtain ⟨⟨authority, rest⟩, ha⟩ :
    ∃ r, (cs.dropWhile isSlash).span (!endsAuthority ·) = r := ⟨_, rfl⟩
  obtain ⟨⟨info, address⟩, hu⟩ : ∃ r, credentials authority = r := ⟨_, rfl⟩
  obtain ⟨⟨hostPart, portPart⟩, hh⟩ : ∃ r, hostText false address = r := ⟨_, rfl⟩
  obtain ⟨⟨before, fragment⟩, hf⟩ : ∃ r, cutBefore '#' rest = r := ⟨_, rfl⟩
  obtain ⟨⟨path, query⟩, hq⟩ : ∃ r, cutBefore '?' before = r := ⟨_, rfl⟩
  simp only [afterScheme, ha, hu, hh, hf, hq, Option.bind_eq_bind, Option.bind_eq_some_iff,
    Option.pure_def, Option.some.injEq] at h
  obtain ⟨host, hhost, port, hport, rfl⟩ := h
  obtain ⟨hcs, hauthority, hrest⟩ := span_not_eq_iff.mp ha
  obtain ⟨user, rfl, hat, rfl⟩ := credentials_eq_iff.mp hu
  obtain ⟨portText, rfl, rfl, hends⟩ := (hostText_eq_iff false_iff_hasOpenBracket_nil).mp hh
  obtain ⟨rfl, hfragment⟩ := cutBefore_eq_iff.mp hf
  obtain ⟨rfl, hpath⟩ := cutBefore_eq_iff.mp hq
  refine ⟨⟨scheme, cs.takeWhile isSlash, user, hostPart, portText, path, query, fragment⟩, rfl, ?_,
    ⟨fun c hc ↦ List.mem_takeWhile_imp hc, hauthority, hat, hends, hrest, hpath, hfragment⟩, rfl,
    ⟨userOf_eq_iff.mp ⟨rfl, rfl⟩, hhost, port?_marked_eq_some_iff.mp hport, rfl, rfl, rfl⟩⟩
  exact (congrArg (cs.takeWhile isSlash ++ ·) hcs.symm).trans List.takeWhile_append_dropWhile

/-- Parts are read as the address that they denote. -/
theorem afterScheme_parts {p : Parts} {url : Url} (hc : p.IsCut) (hd : p.Denotes url) :
    afterScheme url.tls p.afterScheme = some url := by
  have hhost : p.host ≠ [] := by
    intro hnil
    have hparse := hd.host
    rw [hnil] at hparse
    cases hparse
  have ha : (p.afterScheme.dropWhile isSlash).span (!endsAuthority ·) = (p.authority, p.rest) := by
    rw [dropWhile_slashes hc hhost]
    exact span_not_eq_iff.mpr ⟨rfl, hc.authority, hc.rest⟩
  have hu : credentials p.authority = (p.user.getD [], p.address) :=
    credentials_eq_iff.mpr ⟨p.user, rfl, hc.address, rfl⟩
  have hh : hostText false p.address = (p.host, marked ':' p.port) :=
    (hostText_eq_iff false_iff_hasOpenBracket_nil).mpr ⟨p.port, rfl, rfl, hc.host⟩
  have hf : cutBefore '#' p.rest = (p.path ++ marked '?' p.query, p.fragment) :=
    cutBefore_eq_iff.mpr ⟨rfl, hc.fragment⟩
  have hq : cutBefore '?' (p.path ++ marked '?' p.query) = (p.path, p.query) :=
    cutBefore_eq_iff.mpr ⟨rfl, hc.path⟩
  obtain ⟨husername, hpassword⟩ := userOf_eq_iff.mpr hd.user
  simp only [afterScheme, ha, hu, hh, hf, hq, hd.host, port?_marked_eq_some_iff.mpr hd.port,
    husername, hpassword, Option.bind_eq_bind, Option.bind_some, Option.pure_def]
  rw [← hd.path, ← hd.query, ← hd.fragment]

/-- A letter of either case may stand in the name of a scheme, also at its start. -/
theorem isSchemeChar_of_toLower {c : Char} (h : 97 ≤ c.toLower.toNat ∧ c.toLower.toNat ≤ 122) :
    isSchemeChar c = true ∧ c.isAlpha = true := by
  rw [Text.toNat_toLower] at h
  have hletter : (65 ≤ c.toNat ∧ c.toNat ≤ 90) ∨ (97 ≤ c.toNat ∧ c.toNat ≤ 122) := by
    split at h <;> omega
  simp only [isSchemeChar, Text.isAlphanumeric, Bool.or_eq_true, Bool.and_eq_true,
    decide_eq_true_eq, Char.le_def, UInt32.le_iff_toNat_le]
  have hle {a b : UInt32} (h : a.toNat ≤ b.toNat) : a ≤ b := UInt32.le_iff_toNat_le.mpr h
  rcases hletter with hu | hl
  · have hupper : c.isUpper = true := decide_eq_true ⟨hle hu.1, hle hu.2⟩
    exact ⟨.inl (.inr hu), Bool.or_eq_true_iff.mpr (.inl hupper)⟩
  · have hlower : c.isLower = true := Bool.and_eq_true_iff.mpr
      ⟨decide_eq_true (hle hl.1), decide_eq_true (hle hl.2)⟩
    exact ⟨.inl (.inl (.inr hl)), Bool.or_eq_true_iff.mpr (.inr hlower)⟩

/-- The schemes of web addresses are read in letters of either case. -/
theorem scheme?_eq_some_iff {tls : Bool} {cs rest : List Char} :
    scheme? cs = some (schemeName tls, rest) ↔
      ∃ name, cs = name ++ ':' :: rest ∧ name.map Char.toLower = schemeName tls := by
  constructor
  · intro h
    rw [scheme?] at h
    split at h
    · next c name tail hs =>
      split at h
      · obtain ⟨hname, rfl⟩ := Prod.mk.inj (Option.some.inj h)
        exact ⟨c :: name, (Text.span_eq_iff.mp hs).1, hname⟩
      · cases h
    · cases h
  · rintro ⟨name, rfl, hname⟩
    have hlower : ∀ c ∈ name, 97 ≤ c.toLower.toNat ∧ c.toLower.toNat ≤ 122 := by
      have hall : (schemeName tls).all (fun c ↦ 97 ≤ c.toNat ∧ c.toNat ≤ 122) = true := by
        cases tls <;> decide
      rw [← hname] at hall
      simpa using hall
    have hs : (name ++ ':' :: rest).span isSchemeChar = (name, ':' :: rest) :=
      Text.span_eq_iff.mpr ⟨rfl, fun c hc ↦ (isSchemeChar_of_toLower (hlower c hc)).1,
        fun c hc ↦ by
          obtain rfl := Option.some.inj hc
          decide⟩
    cases name with
    | nil => cases tls <;> cases hname
    | cons c name =>
      rw [scheme?, hs]
      simp only [(isSchemeChar_of_toLower (hlower c List.mem_cons_self)).2, if_true, hname]

/-- An address is read after one of the two schemes. -/
theorem parse?_eq_some_iff_afterScheme {text : String} {url : Url} : parse? text = some url ↔
    ∃ tls rest, scheme? (counted text.toList) = some (schemeName tls, rest) ∧
      afterScheme tls rest = some url := by
  rw [parse?]
  constructor
  · intro h
    split at h
    · next name rest hs =>
      split at h
      · next hname => exact ⟨false, rest, by rw [hs, hname]; rfl, h⟩
      · split at h
        · next hname => exact ⟨true, rest, by rw [hs, hname]; rfl, h⟩
        · cases h
    · cases h
  · rintro ⟨tls, rest, hs, ha⟩
    rw [hs]
    cases tls with
    | false => exact (if_pos rfl).trans ha
    | true => exact (if_neg (by decide)).trans ((if_pos rfl).trans ha)

/-- A text is read as the address that it is. -/
theorem parse?_eq_some_iff {text : String} {url : Url} :
    parse? text = some url ↔ Reads text url := by
  rw [parse?_eq_some_iff_afterScheme]
  constructor
  · rintro ⟨tls, rest, hs, ha⟩
    obtain ⟨name, hcs, hname⟩ := scheme?_eq_some_iff.mp hs
    obtain ⟨p, rfl, rfl, hc, rfl, hd⟩ := exists_parts_of_afterScheme name ha
    exact ⟨p, hcs.symm, hc, hname, hd⟩
  · rintro ⟨p, hcs, hc, hname, hd⟩
    exact ⟨url.tls, p.afterScheme, scheme?_eq_some_iff.mpr ⟨p.scheme, hcs.symm, hname⟩,
      afterScheme_parts hc hd⟩

/-- A text is one address at most. -/
theorem Reads.unique {text : String} {url url' : Url} (h : Reads text url) (h' : Reads text url') :
    url = url' :=
  Option.some.inj ((parse?_eq_some_iff.mpr h).symm.trans (parse?_eq_some_iff.mpr h'))

end ProxySettings.Url
