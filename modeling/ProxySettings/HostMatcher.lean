import ProxySettings.Error
import ProxySettings.Pattern.Reader
import ProxySettings.Pattern.Search
import ProxySettings.Pattern.Size

/-!
# Host patterns

Traffic bypasses interception by host patterns. A pattern is searched for in `host:port`, and a
matcher matches a host if one of its patterns does. In the proxy this is `HostMatcher`.
-/

namespace ProxySettings

/-- A pattern that compiled, with its text. -/
structure HostPattern where
  text : String
  expr : Pattern.Expr Pattern.Atom

namespace HostPattern

/-- Compile a pattern: it has to be well formed, and small enough. -/
def compile? (text : String) : Option HostPattern :=
  match Pattern.read? text.toList with
  | some expr => if expr.size ≤ Pattern.sizeLimit then some ⟨text, expr⟩ else none
  | none => none

/-- Compile a pattern, or name it as refused. -/
def compile (text : String) : Except ConfigError HostPattern :=
  match compile? text with
  | some p => .ok p
  | none => .error (.hostPattern text)

/-- A pattern compiles to the expression of its text, which has to be small enough. -/
theorem compile_eq_ok_iff {text : String} {p : HostPattern} : compile text = .ok p ↔
    p.text = text ∧ Pattern.read? text.toList = some p.expr ∧ p.expr.size ≤ Pattern.sizeLimit := by
  obtain ⟨text', expr'⟩ := p
  rw [compile, compile?]
  cases Pattern.read? text.toList with
  | none => simp
  | some expr =>
    by_cases hs : expr.size ≤ Pattern.sizeLimit
    · simp only [if_pos hs, Except.ok.injEq, mk.injEq, Option.some.injEq]
      constructor
      · rintro ⟨rfl, rfl⟩
        exact ⟨rfl, rfl, hs⟩
      · rintro ⟨rfl, rfl, -⟩
        exact ⟨rfl, rfl⟩
    · simp only [if_neg hs, reduceCtorEq, Option.some.injEq, false_iff]
      rintro ⟨-, rfl, h⟩
      exact hs h

/-- The text in which patterns are searched. -/
def subject (host : String) (port : UInt16) : String := host ++ ":" ++ toString port.toNat

/-- The pattern is found in a host's text. -/
def isFound (p : HostPattern) (host : String) (port : UInt16) : Bool :=
  p.expr.search (subject host port).toList

end HostPattern

/-- The patterns for one kind of bypass, in the order in which they were given. -/
structure HostMatcher where
  patterns : List HostPattern

namespace HostMatcher

/-- Compile all patterns; the first one that does not compile is the refusal. -/
def ofTexts (texts : List String) : Except ConfigError HostMatcher :=
  (texts.mapM HostPattern.compile).map HostMatcher.mk

theorem ofTexts_singleton (text : String) :
    ofTexts [text] = (HostPattern.compile text).map fun p ↦ ⟨[p]⟩ := by
  rw [ofTexts, List.mapM_cons]
  cases HostPattern.compile text with
  | error e => rfl
  | ok p => rfl

/-- The texts of the patterns. -/
def texts (m : HostMatcher) : List String := m.patterns.map HostPattern.text

/-- A matcher with any pattern (`is_active`). -/
def isActive (m : HostMatcher) : Bool := !m.patterns.isEmpty

/-- Some pattern is found in a host's text (`matches`). -/
def isMatch (m : HostMatcher) (host : String) (port : UInt16) : Bool :=
  m.patterns.any (·.isFound host port)

end HostMatcher

end ProxySettings
