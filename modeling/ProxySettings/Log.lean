import ProxySettings.Error

/-!
# Events

Resolving options leaves a trace of events, also when it ends in a refusal. A traced computation is
a value or a refusal together with the events up to it, in order.
-/

namespace ProxySettings

/-- How serious an event is. -/
inductive Level where
  | debug
  | info
  | warn
  deriving Repr, DecidableEq

/-- The name of a level. -/
def Level.name : Level → String
  | debug => "DEBUG"
  | info => "INFO"
  | warn => "WARN"

/-- An event: what happened, and named values in the order in which they are shown. -/
structure Event where
  level : Level
  message : String
  fields : List (String × String)
  deriving Repr, DecidableEq

/-- An event on one line. -/
def Event.render (e : Event) : String :=
  e.level.name ++ " " ++ e.message ++
    String.join (e.fields.map fun f ↦ " " ++ f.1 ++ "=" ++ f.2)

/-- A value or a refusal, and the events on the way to it. -/
structure Traced (α : Type) where
  events : List Event
  result : Except ConfigError α

namespace Traced

variable {α β γ : Type}

/-- A value without events. -/
def pure (a : α) : Traced α := ⟨[], .ok a⟩

/-- Go on from a value; a refusal ends the trace. -/
def bind (t : Traced α) (f : α → Traced β) : Traced β :=
  match t.result with
  | .ok a => ⟨t.events ++ (f a).events, (f a).result⟩
  | .error e => ⟨t.events, .error e⟩

instance : Monad Traced where
  pure := Traced.pure
  bind := Traced.bind

instance : MonadLift (Except ConfigError) Traced where
  monadLift result := ⟨[], result⟩

/-- Refuse. -/
def refuse (e : ConfigError) : Traced α := ⟨[], .error e⟩

/-- Record one event. -/
def log (level : Level) (message : String) (fields : List (String × String)) : Traced Unit :=
  ⟨[⟨level, message, fields⟩], .ok ()⟩

@[simp] theorem bind_ok (events : List Event) (a : α) (f : α → Traced β) :
    (⟨events, .ok a⟩ : Traced α) >>= f = ⟨events ++ (f a).events, (f a).result⟩ := rfl

@[simp] theorem bind_error (events : List Event) (e : ConfigError) (f : α → Traced β) :
    (⟨events, .error e⟩ : Traced α) >>= f = ⟨events, .error e⟩ := rfl

@[simp] theorem lift_ok_bind (a : α) (f : α → Traced β) :
    (liftM (Except.ok a : Except ConfigError α) : Traced α) >>= f = f a := by
  change (⟨[], .ok a⟩ : Traced α) >>= f = f a
  rw [bind_ok, List.nil_append]

@[simp] theorem log_bind (level : Level) (message : String) (fields : List (String × String))
    (f : Unit → Traced β) : log level message fields >>= f =
      ⟨⟨level, message, fields⟩ :: (f ()).events, (f ()).result⟩ := rfl

theorem pure_bind (a : α) (f : α → Traced β) : (Pure.pure a : Traced α) >>= f = f a := by
  change (⟨[], .ok a⟩ : Traced α) >>= f = f a
  rw [bind_ok, List.nil_append]

theorem bind_assoc (t : Traced α) (f : α → Traced β) (g : β → Traced γ) :
    t >>= f >>= g = t >>= fun a ↦ f a >>= g := by
  rcases t with ⟨events, e | a⟩
  · rfl
  · rw [bind_ok, bind_ok]
    rcases f a with ⟨more, e | b⟩
    · rfl
    · rw [bind_ok, bind_ok, List.append_assoc]

instance : LawfulMonad Traced := by
  refine LawfulMonad.mk' Traced (fun t ↦ ?_) pure_bind bind_assoc
  rcases t with ⟨events, e | a⟩
  · rfl
  · change (⟨events ++ [], .ok a⟩ : Traced _) = _
    rw [List.append_nil]

end Traced

end ProxySettings
