import ProxySettings.Encoding.Base64
import ProxySettings.Encoding.Utf8
import ProxySettings.Text.Quoted
import ProxySettings.World.Basic

/-!
# PEM texts

A PEM text holds sections between a line `-----BEGIN label-----` and a line `-----END label-----`.
What stands between is the section's content in base64; lines outside sections do not count. A
section's end is the end that its own label names. The reader goes through the sections in order and
stops at the first fault. In the proxy `load` of `CertEntry` reads such texts.
-/

namespace ProxySettings.Pem

/-- Why the content of a section is not base64. -/
inductive ContentFault where
  | invalidCharacter (byte : UInt8)
  | prematurePadding
  | invalidTrailingPadding
  deriving Repr, DecidableEq

/-- The text of a content fault. -/
def ContentFault.message : ContentFault → String
  | invalidCharacter byte => s!"InvalidCharacter({byte.toNat})"
  | prematurePadding => "PrematurePadding"
  | invalidTrailingPadding => "InvalidTrailingPadding"

/-- Why a PEM text cannot be read. -/
inductive Fault where
  | unreadable (fault : World.IoFault)
  | missingEnd (label : List UInt8)
  | illegalStart (line : List UInt8)
  | content (fault : ContentFault)
  | noCertificate
  deriving Repr, DecidableEq

private def shown (bytes : List UInt8) : String :=
  Text.quoted (String.ofList (Utf8.decodeLossy bytes))

/-- The text of a fault. -/
def Fault.message : Fault → String
  | unreadable fault => fault.message
  | missingEnd label => "section end " ++ shown label ++ " missing"
  | illegalStart line => "illegal section start: " ++ shown line
  | content fault => fault.message
  | noCertificate => "no PEM certificate found"

/-- The kinds of sections whose content is read. -/
inductive Kind where
  | certificate
  | publicKey
  | pkcs1Key
  | pkcs8Key
  | sec1Key
  | revocationList
  | signingRequest
  | echConfig
  deriving Repr, DecidableEq

/-- The kind of a label. -/
def Kind.ofLabel? (label : List UInt8) : Option Kind :=
  let labels : List (String × Kind) := [
    ("CERTIFICATE", certificate), ("PUBLIC KEY", publicKey), ("RSA PRIVATE KEY", pkcs1Key),
    ("PRIVATE KEY", pkcs8Key), ("EC PRIVATE KEY", sec1Key), ("X509 CRL", revocationList),
    ("CERTIFICATE REQUEST", signingRequest), ("ECHCONFIG", echConfig)]
  (labels.find? fun row ↦ Utf8.encode row.1 == label).map (·.2)

/-- A section with its decoded content. -/
structure Section where
  kind : Kind
  content : List UInt8
  deriving Repr, DecidableEq

/-! ## Lines -/

def linesFrom (line : List UInt8) : List UInt8 → List (List UInt8)
  | [] => if line.isEmpty then [] else [line.reverse]
  | b :: rest =>
    if b = 10 ∨ b = 13 then (b :: line).reverse :: linesFrom [] rest
    else linesFrom (b :: line) rest

/-- The lines of a text with their ends; a line feed and a carriage return each end a line. -/
def lines (bytes : List UInt8) : List (List UInt8) := linesFrom [] bytes

def hyphen : UInt8 := 45

def isLineSpace (b : UInt8) : Bool := b == 32 || b == 10 || b == 13

def dropFirst (start : String) (line : List UInt8) : Option (List UInt8) :=
  let start := Utf8.encode start
  if start.isPrefixOf line then some (line.drop start.length) else none

/-- The number of hyphens that end a reversed line, and what precedes the first of them. Spaces and
line ends among them do not count. -/
def trailer (hyphens : Nat) (before : List UInt8) : List UInt8 → Nat × List UInt8
  | [] => (hyphens, before)
  | b :: rest =>
    if b = hyphen then trailer (hyphens + 1) rest rest
    else if isLineSpace b then trailer hyphens before rest
    else (hyphens, before)

/-- The label of a line that starts a section: none if the line does not start one. -/
def sectionStart (line : List UInt8) : Except Fault (Option (List UInt8)) :=
  match dropFirst "-----BEGIN " line with
  | none => .ok none
  | some rest =>
    match trailer 0 [] rest.reverse with
    | (5, label) => .ok (some label.reverse)
    | _ => .error (.illegalStart line)

def sectionEnd (label line : List UInt8) : Bool :=
  (Utf8.encode "-----END " ++ label ++ Utf8.encode "-----").isPrefixOf line

/-! ## Content -/

def isContentSpace (b : UInt8) : Bool := isLineSpace b || b == 9

/-- The values of up to eight symbols; filling is none. -/
def block (bytes : List UInt8) : Except ContentFault (List (Option Nat)) :=
  bytes.mapM fun b ↦
    if b = Base64.padByte then .ok none
    else
      match Base64.value? b with
      | some v => .ok (some v)
      | none => .error (.invalidCharacter b)

/-- The bytes of the last four symbols or fewer, of which the last two may be filling. -/
def lastGroup : List (Option Nat) → Except ContentFault (List UInt8)
  | [] => .ok []
  | [some a, some b, some c, some d] => .ok (Base64.bytesOf [a, b, c, d])
  | [some a, some b, some c, none] => .ok (Base64.bytesOf [a, b, c])
  | [some a, some b, some c] => .ok (Base64.bytesOf [a, b, c])
  | [some a, some b, none, none] => .ok (Base64.bytesOf [a, b])
  | [some a, some b] => .ok (Base64.bytesOf [a, b])
  | _ => .error .invalidTrailingPadding

def wholeGroup (symbols : List (Option Nat)) : Except ContentFault (List UInt8) :=
  match symbols.mapM id with
  | some vs => .ok (Base64.bytesOf vs)
  | none => .error .prematurePadding

/-- The bytes of symbols, eight at a time; filling may stand only at the very end. -/
def contentOf : Nat → List UInt8 → Except ContentFault (List UInt8)
  | 0, _ => .ok []
  | blocks + 1, bytes => do
    let symbols ← block (bytes.take 8)
    let rest := bytes.drop 8
    if rest.isEmpty then
      if symbols.length ≤ 4 then lastGroup symbols
      else return (← wholeGroup (symbols.take 4)) ++ (← lastGroup (symbols.drop 4))
    else
      return (← wholeGroup symbols) ++ (← contentOf blocks rest)

/-- Decode the content of a section. -/
def decodeContent (bytes : List UInt8) : Except ContentFault (List UInt8) :=
  let symbols := bytes.filter (!isContentSpace ·)
  contentOf (symbols.length / 8 + 1) symbols

/-! ## Sections -/

/-- Read the sections from some lines; `current` is the open section's label and content so far. A
section that starts inside another one takes over its content. -/
def sectionsFrom (current : Option (List UInt8 × List UInt8)) :
    List (List UInt8) → Except Fault (List Section)
  | [] =>
    match current with
    | some (label, _) => .error (.missingEnd label)
    | none => .ok []
  | line :: rest =>
    match sectionStart line, current with
    | .error fault, _ => .error fault
    | .ok (some label), current => sectionsFrom (some (label, (current.map (·.2)).getD [])) rest
    | .ok none, none => sectionsFrom none rest
    | .ok none, some (label, content) =>
      if sectionEnd label line then
        match Kind.ofLabel? label with
        | none => sectionsFrom none rest
        | some kind =>
          match decodeContent content with
          | .error fault => .error (.content fault)
          | .ok content => (sectionsFrom none rest).map (⟨kind, content⟩ :: ·)
      else sectionsFrom (some (label, content ++ line)) rest

/-- The sections of a text. -/
def sections (bytes : List UInt8) : Except Fault (List Section) := sectionsFrom none (lines bytes)

end ProxySettings.Pem
