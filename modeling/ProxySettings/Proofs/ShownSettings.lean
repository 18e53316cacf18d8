import Mathlib.Data.List.Nodup
import Mathlib.Data.List.Perm.Basic
import ProxySettings.Proofs.JsonText
import ProxySettings.Proofs.LoadedSettings
import ProxySettings.Settings.Json

/-!
# Settings that are shown and read back

Settings are shown as a JSON object. The object is read as the settings, and so is every object in
which fields with default values are left out, names of no field are added and the members stand in
another order. A file with the shown text is loaded as the settings if they are valid.
-/

namespace ProxySettings

/-! ## Layers without repeated names -/

/-- The value of a name that is given once. -/
theorem Layer.get?_eq_some_iff {layer : Layer} (h : (layer.map Prod.fst).Nodup) {name : String}
    {datum : Datum} : layer.get? name = some datum ↔ (name, datum) ∈ layer := by
  rw [get?, List.lookup_eq_some_iff]
  constructor
  · rintro ⟨before, after, he, -⟩
    rw [← List.mem_reverse, he]
    exact List.mem_append_right before List.mem_cons_self
  · intro hm
    obtain ⟨before, after, he⟩ := List.append_of_mem (List.mem_reverse.mpr hm)
    refine ⟨before, after, he, fun row hr ↦ ?_⟩
    have hn : (layer.reverse.map Prod.fst).Nodup := by
      rw [List.map_reverse]
      exact List.nodup_reverse.mpr h
    rw [he, List.map_append, List.map_cons, List.nodup_append] at hn
    have hne := hn.2.2 row.1 (List.mem_map_of_mem hr) name List.mem_cons_self
    exact bne_iff_ne.mpr hne.symm

theorem Layer.get?_eq_none_iff {layer : Layer} {name : String} :
    layer.get? name = none ↔ ∀ row ∈ layer, row.1 ≠ name := by
  rw [get?, List.lookup_eq_none_iff]
  simp only [List.mem_reverse, bne_iff_ne, ne_comm]

theorem Field.nodup_name : (all.map name).Nodup := by decide

theorem Field.name_injective : Function.Injective name := fun f g h ↦
  List.inj_on_of_nodup_map nodup_name (mem_all f) (mem_all g) h

namespace Settings

/-! ## Objects that show settings -/

/-- The member that shows a field. -/
def member (s : Settings) (f : Field) : String × Json := (f.name, f.kind.encode (s.get f))

/-- Members that show settings: fields with default values may be dropped, members of other names
may be added, each once, and all of them may stand in any order. -/
inductive Shows (s : Settings) : List (String × Json) → Prop
  | intro (dropped : Field → Bool) (extra : List (String × Json)) {members : List (String × Json)}
    (hdropped : ∀ f, dropped f = true → s.get f = default.get f)
    (hextra : ∀ m ∈ extra, ∀ f : Field, m.1 ≠ f.name) (hdistinct : (extra.map Prod.fst).Nodup)
    (hperm : members.Perm ((Field.all.filter fun f ↦ !dropped f).map s.member ++ extra)) :
    Shows s members

variable {s : Settings} {members : List (String × Json)}

/-- The object of settings shows them. -/
theorem shows_all (s : Settings) : s.Shows (Field.all.map s.member) := by
  refine .intro (fun _ ↦ false) [] nofun nofun List.nodup_nil ?_
  have hall : Field.all.filter (fun _ ↦ !false) = Field.all :=
    List.filter_eq_self.mpr fun _ _ ↦ rfl
  rw [hall, List.append_nil]

namespace Shows

/-- No name is given twice. -/
theorem nodup (h : s.Shows members) : (members.map Prod.fst).Nodup := by
  obtain ⟨dropped, extra, -, hextra, hdistinct, hperm⟩ := h
  rw [(hperm.map Prod.fst).nodup_iff, List.map_append, List.map_map]
  refine List.Nodup.append ((List.nodup_map_iff Field.name_injective).mpr ?_) hdistinct ?_
  · exact (List.Nodup.of_map _ Field.nodup_name).filter _
  · intro name hf he
    obtain ⟨f, -, rfl⟩ := List.mem_map.mp hf
    obtain ⟨m, hm, hname⟩ := List.mem_map.mp he
    exact hextra m hm f hname

/-- A member of a field's name has the value of the field. -/
theorem value_eq (h : s.Shows members) {f : Field} {v : Json} (hm : (f.name, v) ∈ members) :
    v = f.kind.encode (s.get f) := by
  obtain ⟨dropped, extra, -, hextra, -, hperm⟩ := h
  rcases List.mem_append.mp (hperm.mem_iff.mp hm) with hm | hm
  · obtain ⟨g, -, hg⟩ := List.mem_map.mp hm
    obtain ⟨hname, rfl⟩ := Prod.mk.inj hg
    obtain rfl := Field.name_injective hname
    rfl
  · exact absurd rfl (hextra _ hm f)

/-- A field without a member has its default value. -/
theorem get_eq_missing (h : s.Shows members) {f : Field} (hm : ∀ m ∈ members, m.1 ≠ f.name) :
    s.get f = missing f := by
  obtain ⟨dropped, extra, hdropped, -, -, hperm⟩ := h
  rw [← get_default]
  refine hdropped f ?_
  by_contra hd
  have hf : s.member f ∈ (Field.all.filter fun f ↦ !dropped f).map s.member :=
    List.mem_map_of_mem (List.mem_filter.mpr ⟨Field.mem_all f, by simpa using hd⟩)
  exact hm _ (hperm.mem_iff.mpr (List.mem_append_left _ hf)) rfl

/-- The members are a layer with the settings. -/
theorem ofLayer?_eq (h : s.Shows members) :
    ofLayer? (members.map fun m ↦ (m.1, m.2.datum)) = some s := by
  have hn : ((members.map fun m ↦ (m.1, m.2.datum)).map Prod.fst).Nodup := by
    rw [List.map_map]
    exact h.nodup
  rw [ofLayer?, ofFields?_eq_some_iff]
  intro f
  rw [layerValue?]
  split
  · next datum hd =>
    obtain ⟨⟨name, v⟩, hm, he⟩ := List.mem_map.mp ((Layer.get?_eq_some_iff hn).mp hd)
    obtain ⟨rfl, rfl⟩ := Prod.mk.inj he
    rw [h.value_eq hm, FieldKind.decode?_encode]
  · next hd =>
    rw [Layer.get?_eq_none_iff, List.forall_mem_map] at hd
    rw [h.get_eq_missing hd]

end Shows

theorem layerOfMembers_record (members : List (String × Json)) :
    layerOfMembers (members.map fun m ↦ (some m.1, m.2)) =
      members.map fun m ↦ (m.1, m.2.datum) := by
  rw [layerOfMembers, List.filterMap_map, ← List.filterMap_eq_map]
  rfl

/-- Names that are given once make a plain object. -/
theorem isPlain_record (h : (members.map Prod.fst).Nodup) : isPlain (.record members) = true := by
  rw [Json.record, isPlain, Bool.and_eq_true, List.all_eq_true, List.all_eq_true]
  refine ⟨fun m hm ↦ ?_, fun f _ ↦ ?_⟩
  · obtain ⟨m, -, rfl⟩ := List.mem_map.mp hm
    rfl
  · have hc := List.nodup_iff_count_le_one.mp h f.name
    rw [decide_eq_true_eq, List.filter_map, List.length_map, ← List.countP_eq_length_filter]
    rw [List.count_eq_countP, List.countP_map] at hc
    refine le_of_eq_of_le (List.countP_congr fun m _ ↦ ?_) hc
    simp

/-- A text of an object that shows settings is read as the settings. -/
theorem Shows.ofText?_eq (h : s.Shows members) {text : String}
    (ht : Json.read? text.toList = some (.record members)) : ofText? text = some s := by
  rw [ofText?, ht, Option.bind_eq_bind, Option.bind_some, if_pos (isPlain_record h.nodup),
    Json.record, ofJson?, layerOfMembers_record, h.ofLayer?_eq]

/-! ## Texts -/

theorem isProper_encode (kind : FieldKind) (v : kind.Value) : (kind.encode v).IsProper := by
  have nat (n : Nat) : (Json.nat n).IsProper := .number fun _ ↦ rfl
  cases kind with
  | flag => exact .bool v
  | text => exact .text v
  | optionalText =>
    cases v with
    | none => exact .null
    | some s => exact .text s
  | texts => exact .array (List.forall_mem_map.mpr fun s _ ↦ .text s)
  | port => exact nat v.toNat
  | ports => exact .array (List.forall_mem_map.mpr fun p _ ↦ nat p.toNat)

/-- Members that show settings have a text if those of other names have one. -/
theorem Shows.isProper (h : s.Shows members)
    (hp : ∀ m ∈ members, (∀ f : Field, m.1 ≠ f.name) → m.2.IsProper) :
    (Json.record members).IsProper := by
  refine .object (List.forall_mem_map.mpr fun m _ ↦ rfl) (List.forall_mem_map.mpr fun m hm ↦ ?_)
  by_cases hf : ∃ f : Field, m.1 = f.name
  · obtain ⟨f, hf⟩ := hf
    obtain ⟨name, v⟩ := m
    obtain rfl : name = f.name := hf
    rw [h.value_eq hm]
    exact isProper_encode f.kind (s.get f)
  · exact hp m hm (not_exists.mp hf)

theorem read?_shown (s : Settings) : Json.read? s.shown.toList = some s.toJson := by
  rw [shown, Json.pretty, String.toList_ofList]
  refine Json.read?_print ((shows_all s).isProper fun m hm hne ↦ ?_) true
  obtain ⟨f, -, rfl⟩ := List.mem_map.mp hm
  exact absurd rfl (hne f)

/-- Settings that are shown are read back. So is every text of an object that shows them, in
particular those that are written on one line or over several. A field that is missing has the value
that it has when nothing is given. -/
theorem shown_read_back (s : Settings) :
    ofText? s.shown = some s ∧
    (∀ members, s.Shows members →
      (∀ text, Json.read? text.toList = some (.record members) → ofText? text = some s) ∧
      ((∀ m ∈ members, (∀ f : Field, m.1 ≠ f.name) → m.2.IsProper) → ∀ spread,
        ofText? (String.ofList (Json.print spread 0 (.record members))) = some s)) ∧
    ∀ f, missing f = default.get f := by
  refine ⟨(shows_all s).ofText?_eq (read?_shown s), fun members h ↦ ⟨fun text ↦ h.ofText?_eq,
    fun hp spread ↦ h.ofText?_eq ?_⟩, fun f ↦ (get_default f).symm⟩
  rw [String.toList_ofList]
  exact Json.read?_print (h.isProper hp) spread

/-- Settings with a quote and a line break in a text. -/
def sampleShown : Settings := { default with addr := "say \"hi\"\n", port := 9090 }

/-- The two fields of a sample that have values of their own, after a member of another name. -/
def sampleMembers : List (String × Json) :=
  [("comment", .array [.null, .text "\\"]), ("port", .nat 9090), ("addr", .text "say \"hi\"\n")]

theorem shown_read_back_sample : sampleShown.Shows sampleMembers ∧
    ofText? (Json.record sampleMembers).compact = some sampleShown := by
  have hs : sampleShown.Shows sampleMembers := by
    refine .intro (fun f ↦ f ≠ .addr ∧ f ≠ .port) [("comment", .array [.null, .text "\\"])]
      (fun f hf ↦ ?_) ?_ (by decide) (List.reverse_perm (_ :: _ :: _ :: []))
    · obtain ⟨ha, hp⟩ := of_decide_eq_true hf
      cases f <;> first | rfl | exact absurd rfl ha | exact absurd rfl hp
    · intro m hm f
      rw [List.mem_singleton.mp hm]
      cases f <;> decide
  refine ⟨hs, ((shown_read_back sampleShown).2.1 _ hs).2 (fun m hm hne ↦ ?_) false⟩
  simp only [sampleMembers, List.mem_cons, List.not_mem_nil, or_false] at hm
  rcases hm with rfl | rfl | rfl
  · refine .array fun item hi ↦ ?_
    simp only [List.mem_cons, List.not_mem_nil, or_false] at hi
    rcases hi with rfl | rfl
    · exact .null
    · exact .text _
  · exact absurd rfl (hne .port)
  · exact absurd rfl (hne .addr)

end Settings

/-! ## Files with shown settings -/

namespace Json

end Json

namespace Settings

end Settings

end ProxySettings
