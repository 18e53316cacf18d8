import ProxySettings.Log

/-!
# Two runs side by side

Two traced computations are alike if they leave the same events and either succeed with related
values or are refused for the same reason. Steps that are alike follow each other in computations
that are alike, so that two runs are compared step by step.
-/

namespace ProxySettings

/-- Two outcomes are related values or one refusal. -/
inductive SameOutcome {α β : Type} (R : α → β → Prop) :
    Except ConfigError α → Except ConfigError β → Prop
  | value {a : α} {b : β} (h : R a b) : SameOutcome R (.ok a) (.ok b)
  | refusal (e : ConfigError) : SameOutcome R (.error e) (.error e)

namespace Traced

variable {α β γ δ : Type} {R : α → β → Prop} {S : γ → δ → Prop}

/-- Two computations with the same events, and with values in a relation or the same refusal. -/
structure Alike (R : α → β → Prop) (t : Traced α) (u : Traced β) : Prop where
  events_eq : t.events = u.events
  outcome : SameOutcome R t.result u.result

namespace Alike

theorem pure {a : α} {b : β} (h : R a b) : Alike R (Pure.pure a) (Pure.pure b) := ⟨rfl, .value h⟩

/-- A computation is like itself. -/
theorem refl {R : α → α → Prop} (hR : ∀ a, R a a) (t : Traced α) : Alike R t t := by
  refine ⟨rfl, ?_⟩
  cases t.result with
  | error e => exact .refusal e
  | ok a => exact .value (hR a)

/-- Computations that are alike go on to be alike if their related values do. -/
theorem bind {t : Traced α} {u : Traced β} {f : α → Traced γ} {g : β → Traced δ}
    (h : Alike R t u) (hf : ∀ a b, R a b → Alike S (f a) (g b)) :
    Alike S (t >>= f) (u >>= g) := by
  obtain ⟨events, r⟩ := t
  obtain ⟨events', r'⟩ := u
  obtain ⟨he, ho⟩ := h
  obtain rfl : events = events' := he
  cases ho with
  | refusal e => exact ⟨rfl, .refusal e⟩
  | value hab =>
    obtain ⟨hev, hout⟩ := hf _ _ hab
    rw [bind_ok, bind_ok]
    exact ⟨congrArg (events ++ ·) hev, hout⟩

/-- One step that both computations take. -/
theorem step {t u : Traced α} {f : α → Traced γ} {g : α → Traced δ} (htu : u = t)
    (hf : ∀ a, t.result = .ok a → Alike S (f a) (g a)) : Alike S (t >>= f) (u >>= g) := by
  subst htu
  have h : Alike (fun a b ↦ a = b ∧ u.result = .ok a) u u := by
    refine ⟨rfl, ?_⟩
    cases u.result with
    | error e => exact .refusal e
    | ok a => exact .value ⟨rfl, rfl⟩
  refine h.bind ?_
  rintro a _ ⟨rfl, ha⟩
  exact hf a ha

end Alike

end Traced

end ProxySettings
