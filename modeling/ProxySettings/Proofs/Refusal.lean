import ProxySettings.Log

/-!
# The first refusal

A computation that goes through reasons to refuse in order ends with the first one that applies.
The events on the way do not change its result.
-/

namespace ProxySettings

variable {α β ι : Type}

/-- The refusal of a result, if it is one. -/
def refusal? : Except ConfigError α → Option ConfigError
  | .ok _ => none
  | .error e => some e

/-- The refusal of a result, or else what speaks against its value. -/
def firstRefusal? (r : Except ConfigError α) (f : α → Option ConfigError) : Option ConfigError :=
  match r with
  | .ok a => f a
  | .error e => some e

/-- Refuse unless a test succeeds. -/
def refuseUnless (isMet : Bool) (e : ConfigError) : Option ConfigError :=
  if isMet then none else some e

/-- A result is refused for the first of some reasons that applies, and otherwise it is a value. -/
def RefusedInOrder (fault? : ι → Option ConfigError) (reasons : List ι)
    (r : Except ConfigError α) : Prop :=
  refusal? r = reasons.findSome? fault?

@[simp] theorem refusal?_ok (a : α) : refusal? (.ok a : Except ConfigError α) = none := rfl

@[simp] theorem refusal?_error (e : ConfigError) :
    refusal? (.error e : Except ConfigError α) = some e := rfl

/-- There is no refusal exactly when there is a value. -/
theorem refusal?_eq_none_iff {r : Except ConfigError α} : refusal? r = none ↔ ∃ a, r = .ok a := by
  cases r with
  | ok a => simp
  | error e => simp

theorem refusal?_eq_some_iff {r : Except ConfigError α} {e : ConfigError} :
    refusal? r = some e ↔ r = .error e := by
  cases r with
  | ok a => simp
  | error e' => simp

/-- The value of a sequence comes from a value of its first part. -/
theorem exists_of_bind_eq_ok {r : Except ConfigError α} {f : α → Except ConfigError β} {b : β}
    (h : r >>= f = .ok b) : ∃ a, r = .ok a ∧ f a = .ok b := by
  cases r with
  | error e => cases h
  | ok a => exact ⟨a, rfl, h⟩

/-- A sequence is refused with its first part, or with what follows a value of that. -/
theorem bind_eq_error_iff {r : Except ConfigError α} {f : α → Except ConfigError β}
    {e : ConfigError} : r >>= f = .error e ↔ r = .error e ∨ ∃ a, r = .ok a ∧ f a = .error e := by
  cases r with
  | error e' => simp [bind, Except.bind]
  | ok a => simp [bind, Except.bind]

theorem exists_of_map_eq_ok {r : Except ConfigError α} {f : α → β} {b : β}
    (h : r.map f = .ok b) : ∃ a, r = .ok a ∧ f a = b := by
  cases r with
  | error e => cases h
  | ok a => exact ⟨a, rfl, Except.ok.inj h⟩

theorem map_eq_error_iff {r : Except ConfigError α} {f : α → β} {e : ConfigError} :
    r.map f = .error e ↔ r = .error e := by
  cases r <;> simp [Except.map]

theorem refusal?_map (f : α → β) (r : Except ConfigError α) : refusal? (r.map f) = refusal? r := by
  cases r <;> rfl

theorem refusal?_bind (r : Except ConfigError α) (f : α → Except ConfigError β) :
    refusal? (r >>= f) = firstRefusal? r fun a ↦ refusal? (f a) := by
  cases r <;> rfl

/-- Nothing is refused exactly if there is a value and nothing speaks against it. -/
theorem firstRefusal?_eq_none_iff {r : Except ConfigError α} {f : α → Option ConfigError} :
    firstRefusal? r f = none ↔ ∃ a, r = .ok a ∧ f a = none := by
  cases r with
  | ok a => simp [firstRefusal?]
  | error e => simp [firstRefusal?]

theorem firstRefusal?_eq_some_iff {r : Except ConfigError α} {f : α → Option ConfigError}
    {e : ConfigError} :
    firstRefusal? r f = some e ↔ r = .error e ∨ ∃ a, r = .ok a ∧ f a = some e := by
  cases r with
  | ok a => simp [firstRefusal?]
  | error e' => simp [firstRefusal?]

theorem refuseUnless_eq_none_iff {isMet : Bool} {e : ConfigError} :
    refuseUnless isMet e = none ↔ isMet = true := by
  cases isMet <;> simp [refuseUnless]

theorem eq_of_refuseUnless_eq_some {isMet : Bool} {e e' : ConfigError}
    (h : refuseUnless isMet e = some e') : e = e' := by
  cases isMet with
  | true => cases h
  | false => exact Option.some.inj h

namespace Traced

/-- The result of a sequence is the sequence of the results. -/
theorem result_bind (t : Traced α) (f : α → Traced β) :
    (t >>= f).result = t.result >>= fun a ↦ (f a).result := by
  rcases t with ⟨events, _ | a⟩
  · rfl
  · rfl

theorem result_log (level : Level) (message : String) (fields : List (String × String)) :
    (log level message fields).result = .ok () := rfl

theorem result_lift (r : Except ConfigError α) : (liftM r : Traced α).result = r := rfl

end Traced

namespace RefusedInOrder

variable {fault? : ι → Option ConfigError} {reasons others : List ι}

/-- A value that nothing speaks against. -/
theorem ok (a : α) : RefusedInOrder fault? [] (.ok a : Except ConfigError α) := rfl

/-- One reason decides. -/
theorem single {q : ι} {r : Except ConfigError α} (h : refusal? r = fault? q) :
    RefusedInOrder fault? [q] r := by
  rw [RefusedInOrder, h, List.findSome?_singleton]

theorem map {r : Except ConfigError α} (h : RefusedInOrder fault? reasons r) (f : α → β) :
    RefusedInOrder fault? reasons (r.map f) := by
  rw [RefusedInOrder, refusal?_map, h]

/-- The reasons of a sequence are those of the first part and then those of the second, which
counts only after a value. -/
theorem bind {r : Except ConfigError α} {f : α → Except ConfigError β}
    (hr : RefusedInOrder fault? reasons r)
    (hf : ∀ a, r = .ok a → RefusedInOrder fault? others (f a)) :
    RefusedInOrder fault? (reasons ++ others) (r >>= f) := by
  rw [RefusedInOrder, List.findSome?_append, ← hr]
  cases r with
  | error e => rfl
  | ok a => exact hf a rfl

/-- One more reason that goes first. -/
theorem cons {q : ι} {r : Except ConfigError α} {f : α → Except ConfigError β}
    (hr : refusal? r = fault? q)
    (hf : ∀ a, r = .ok a → RefusedInOrder fault? others (f a)) :
    RefusedInOrder fault? (q :: others) (r >>= f) :=
  (single hr).bind hf

/-- Reasons found one item at a time: the first item that is refused ends a traversal. -/
theorem mapM {γ : Type} {f : γ → Except ConfigError α} {reason : γ → ι}
    (h : ∀ x, refusal? (f x) = fault? (reason x)) (xs : List γ) :
    RefusedInOrder fault? (xs.map reason) (xs.mapM f) := by
  induction xs with
  | nil => exact ok _
  | cons x xs ih =>
    rw [List.mapM_cons, List.map_cons]
    refine cons (h x) fun a _ ↦ ?_
    rw [← List.append_nil (xs.map reason)]
    exact ih.bind fun as _ ↦ ok _

/-- A value exactly when no reason applies. -/
theorem ok_iff {r : Except ConfigError α} (h : RefusedInOrder fault? reasons r) :
    (∃ a, r = .ok a) ↔ ∀ q ∈ reasons, fault? q = none := by
  rw [← refusal?_eq_none_iff, h, List.findSome?_eq_none_iff]

/-- A refusal exactly when some reason for it applies and none before that one does. -/
theorem error_iff {r : Except ConfigError α} (h : RefusedInOrder fault? reasons r)
    {e : ConfigError} :
    r = .error e ↔ ∃ before q after, reasons = before ++ q :: after ∧
      fault? q = some e ∧ ∀ p ∈ before, fault? p = none := by
  rw [← refusal?_eq_some_iff, h, List.findSome?_eq_some_iff]

end RefusedInOrder

/-- A traversal is refused for the first of its items that is refused. -/
theorem refusedInOrder_mapM (f : ι → Except ConfigError α) (xs : List ι) :
    RefusedInOrder (fun x ↦ refusal? (f x)) xs (xs.mapM f) := by
  have h : RefusedInOrder (fun x ↦ refusal? (f x)) (xs.map id) (xs.mapM f) := by
    refine RefusedInOrder.mapM (f := f) ?_ xs
    exact fun _ ↦ rfl
  rwa [List.map_id] at h

/-- A traversal succeeds exactly if it does for every item. -/
theorem exists_mapM_eq_ok_iff {f : ι → Except ConfigError α} {xs : List ι} :
    (∃ as, xs.mapM f = .ok as) ↔ ∀ x ∈ xs, ∃ a, f x = .ok a := by
  simp only [(refusedInOrder_mapM f xs).ok_iff, refusal?_eq_none_iff]

/-- A traversal is refused exactly if some item is, and it ends with the refusal of the first one;
the items after that do not count. -/
theorem mapM_eq_error_iff {f : ι → Except ConfigError α} {xs : List ι} {e : ConfigError} :
    xs.mapM f = .error e ↔ ∃ before x after, xs = before ++ x :: after ∧
      (∀ y ∈ before, ∃ a, f y = .ok a) ∧ f x = .error e := by
  simp only [(refusedInOrder_mapM f xs).error_iff, refusal?_eq_none_iff, refusal?_eq_some_iff,
    and_comm]

end ProxySettings
