import Mathlib.Data.List.Nodup

/-!
# Lists without repetition, and lists that are read

Dropping repeated members keeps the first occurrence of each, in order. A list of texts is read item
by item, if every one of them can be read.
-/

namespace ProxySettings

/-! ## Repetition -/

theorem eraseDups_sublist {α : Type} [BEq α] : (l : List α) → l.eraseDups.Sublist l
  | [] => by simp
  | a :: rest => by
    rw [List.eraseDups_cons]
    exact .cons_cons a ((eraseDups_sublist _).trans List.filter_sublist)
termination_by l => l.length
decreasing_by exact Nat.lt_succ_of_le (List.length_filter_le _ _)

theorem nodup_eraseDups {α : Type} [BEq α] [LawfulBEq α] : (l : List α) → l.eraseDups.Nodup
  | [] => by simp
  | a :: rest => by
    rw [List.eraseDups_cons, List.nodup_cons, List.mem_eraseDups, List.mem_filter]
    exact ⟨by simp, nodup_eraseDups (rest.filter fun b ↦ !b == a)⟩
termination_by l => l.length
decreasing_by exact Nat.lt_succ_of_le (List.length_filter_le _ _)

/-! ## Reading -/

/-- Items that are each read from their own text are read from their texts. -/
theorem mapM_map_eq_some {α β : Type} {f : α → β} {g : β → Option α} {items : List α}
    (h : ∀ a ∈ items, g (f a) = some a) : (items.map f).mapM g = some items := by
  induction items with
  | nil => rfl
  | cons a items ih =>
    obtain ⟨ha, hrest⟩ := List.forall_mem_cons.mp h
    rw [List.map_cons, List.mapM_cons, ha, ih hrest]
    rfl

/-- Every item that is read has a text that it is read from. -/
theorem exists_of_mem_mapM {α β : Type} {g : β → Option α} {texts : List β} {items : List α}
    (h : texts.mapM g = some items) {a : α} (ha : a ∈ items) : ∃ t ∈ texts, g t = some a := by
  induction texts generalizing items with
  | nil =>
    obtain rfl := Option.some.inj h
    cases ha
  | cons t texts ih =>
    rw [List.mapM_cons] at h
    obtain ⟨b, hb, h⟩ := Option.bind_eq_some_iff.mp h
    obtain ⟨rest, hrest, h⟩ := Option.bind_eq_some_iff.mp h
    obtain rfl := Option.some.inj h
    rcases List.mem_cons.mp ha with rfl | ha
    · exact ⟨t, List.mem_cons_self, hb⟩
    · obtain ⟨t', ht', hg⟩ := ih hrest ha
      exact ⟨t', List.mem_cons_of_mem _ ht', hg⟩

/-- What comes after a check is reached if the check holds. -/
theorem guard_bind_eq_some_iff {α : Type} {p : Prop} [Decidable p] {o : Option α} {a : α} :
    (guard p >>= fun _ ↦ o) = some a ↔ p ∧ o = some a := by
  rw [guard]
  split
  · next hp => exact ⟨fun h ↦ ⟨hp, h⟩, fun h ↦ h.2⟩
  · next hp => exact ⟨nofun, fun h ↦ absurd h.1 hp⟩

end ProxySettings
