import Perimeter.Proofs.Lookup
import Perimeter.Proofs.Net.Address
import Perimeter.Proofs.Toml.Document
import Perimeter.Proofs.Toml.Place
import Perimeter.Settings.Form

/-!
# `Perimeter.Proofs.Settings.Form`: settings that are read are found again

A form reads a setting from values that it would never write: a number from any spelling of it, a
record from a list of its members or from a table with other names besides. What matters is that
the setting has a value of its own, from which it is read again (`Form.Stands`), and that this
value is one that a file can hold where it stands: on a line, as a section or as a list of
sections.

A member that is missing has a value, or is missing again. `Form.Keeps` says this together with
the rest, by comparison with settings in which everything is left out that can be. Each way to
make a form of others keeps it: lists (`Form.Keeps.list`), members that must be there, have a
value or are optional (`Slot.keeps_required`, `Slot.keeps_orElse`, `Slot.keeps_optional`), and
records, one member after the other (`Fields.Keeps.member`). For a record it is left to show that
each member is of such a kind (`Fields.keeps_section`, `Fields.keepsFile`).
-/

set_option autoImplicit false

namespace Perimeter.Settings

open Toml (Value Table Step IsFile isBareName)

variable {α β ρ : Type} {kind : Value → Prop}

namespace Form

/-- A value of a kind is written for a setting, and is read as it again. -/
structure Stands (kind : Value → Prop) (form : Form α) (a : α) (v : Value) : Prop where
  written : form.write? a = some v
  kind : kind v
  read : form.read? v = some a

/-- Whatever is read stands in a value again. Where nothing was said there is then what stands
for `least`, in which all is left out that can be. -/
def Keeps (kind : Value → Prop) (least : α → α) (form : Form α) : Prop :=
  ∀ v a, form.read? v = some a → ∃ full short,
    form.Stands kind a full ∧ form.Stands kind (least a) short ∧
      ∀ place, v.lacks place → full.at? place = short.at? place

/-- A file is written for settings. In whatever order its members stand, it is read as them. -/
structure StandsAsFile (form : Form α) (a : α) (file : Table) : Prop where
  written : form.write? a = some (.table file)
  isFile : IsFile file
  read : ∀ file', (∀ name, file'.lookup name = file.lookup name) →
    form.read? (.table file') = some a

/-- `Keeps` for settings that fill a file. -/
def KeepsFile (least : α → α) (form : Form α) : Prop :=
  ∀ v a, form.read? v = some a → ∃ full short,
    form.StandsAsFile a full ∧ form.StandsAsFile (least a) short ∧
      ∀ place, v.lacks place → (Value.table full).at? place = (Value.table short).at? place

theorem Keeps.mono {form : Form α} {least : α → α} {kind' : Value → Prop}
    (h : form.Keeps kind least) (hkind : ∀ v, kind v → kind' v) : form.Keeps kind' least := by
  intro v a hread
  obtain ⟨full, short, hfull, hshort, hplace⟩ := h v a hread
  exact ⟨full, short, ⟨hfull.written, hkind _ hfull.kind, hfull.read⟩,
    ⟨hshort.written, hkind _ hshort.kind, hshort.read⟩, hplace⟩

/-- Values on lines are read, and stand again for what they are read as. -/
structure IsPlain (form : Form α) : Prop where
  plain : ∀ v a, form.read? v = some a → v.IsPlain
  stands : ∀ v a, form.read? v = some a → ∃ saved, form.Stands Value.IsPlain a saved

theorem IsPlain.keeps_same {form : Form α} (h : form.IsPlain) : form.Keeps Value.IsPlain id := by
  intro v a hread
  obtain ⟨full, hfull⟩ := h.stands v a hread
  exact ⟨full, full, hfull, hfull, fun place _ => rfl⟩

theorem IsPlain.keeps {form : Form α} {v : Value} {default : α} (h : form.IsPlain)
    (hdefault : form.read? v = some default) : form.Keeps Value.IsPlain fun _ => default := by
  intro w a hread
  obtain ⟨full, hfull⟩ := h.stands w a hread
  obtain ⟨short, hshort⟩ := h.stands v default hdefault
  refine ⟨full, short, hfull, hshort, fun place hlacks => ?_⟩
  rw [(h.plain w a hread).lacks place] at hlacks
  exact absurd hlacks Bool.false_ne_true

theorem isPlain_text : text.IsPlain where
  plain | .text _, _, _ => .inl trivial
  stands | .text s, _, rfl => ⟨.text s, rfl, .inl trivial, rfl⟩

theorem isPlain_flag : flag.IsPlain where
  plain | .boolean _, _, _ => .inl trivial
  stands | .boolean b, _, rfl => ⟨.boolean b, rfl, .inl trivial, rfl⟩

theorem isPlain_address : address.IsPlain where
  plain | .text _, _, _ => .inl trivial
  stands
    | .text _, a, h => ⟨.text a.text, rfl, .inl trivial, SocketAddress.parse?_text_of_parse? h⟩

theorem isPlain_count : count.IsPlain where
  plain | .integer _, _, _ => .inl trivial
  stands v a h := by
    match v with
    | .integer n =>
      have hn : 0 ≤ n := by
        by_contra hneg
        simp [count, hneg] at h
      have ha : n.toUInt64 = a := by simpa [count, hn] using h
      subst ha
      have hroom : n.toUInt64.toNat < 2 ^ 63 := by
        rw [Int64.toNat_toUInt64_of_le hn]
        exact Int64.toNatClampNeg_lt n
      refine ⟨.integer n, ?_, .inl trivial, h⟩
      simp [count, hroom]

/-! ### Lists -/

/-- Settings of a list stand one by one. -/
structure StandAll (kind : Value → Prop) (item : Form α) (l : List α) (vs : List Value) : Prop where
  written : l.mapM item.write? = some vs
  kinds : ∀ v ∈ vs, kind v
  read : vs.mapM item.read? = some l

theorem standAll_nil {item : Form α} : item.StandAll kind [] [] := ⟨rfl, by simp, rfl⟩

theorem Stands.cons {item : Form α} {a : α} {v : Value} {l : List α} {vs : List Value}
    (h : item.Stands kind a v) (hrest : item.StandAll kind l vs) :
    item.StandAll kind (a :: l) (v :: vs) where
  written := by simp [List.mapM_cons, h.written, hrest.written]
  kinds := by simpa using ⟨h.kind, hrest.kinds⟩
  read := by simp [List.mapM_cons, h.read, hrest.read]

theorem StandAll.stands {item : Form α} {l : List α} {vs : List Value} {outer : Value → Prop}
    (h : item.StandAll kind l vs) (hkind : outer (.array vs)) :
    (list item).Stands outer l (.array vs) where
  written := by simp [list, h.written]
  kind := hkind
  read := h.read

theorem exists_items {item : Form α} {v : Value} {l : List α} (h : (list item).read? v = some l) :
    ∃ items, v = .array items ∧ List.Forall₂ (fun w a => item.read? w = some a) items l := by
  match v with
  | .array items =>
    refine ⟨items, rfl, ?_⟩
    change items.mapM item.read? = some l at h
    induction items generalizing l with
    | nil =>
      cases h
      exact .nil
    | cons w items ih =>
      simp only [List.mapM_cons, bind, Option.bind_eq_some_iff, pure, Option.some.injEq] at h
      obtain ⟨a, hw, rest, hrest, rfl⟩ := h
      exact .cons hw (ih hrest)

/-- Texts are written as the values that they were read from. -/
theorem standAll_texts {items : List Value} {l : List String}
    (h : List.Forall₂ (fun w a => text.read? w = some a) items l) :
    text.StandAll Value.IsScalar l items := by
  induction h with
  | nil => exact standAll_nil
  | @cons w a _ _ hw _ ih =>
    match w, hw with
    | .text _, rfl => exact Stands.cons ⟨rfl, trivial, rfl⟩ ih

theorem isPlain_texts : (list text).IsPlain where
  plain v l h := by
    obtain ⟨items, rfl, hitems⟩ := exists_items h
    exact .inr ⟨items, rfl, (standAll_texts hitems).kinds⟩
  stands v l h := by
    obtain ⟨items, rfl, hitems⟩ := exists_items h
    have hstands := standAll_texts hitems
    exact ⟨.array items, hstands.stands (.inr ⟨items, rfl, hstands.kinds⟩)⟩

/-- The items of a list are kept one by one. -/
theorem Keeps.items {item : Form α} {least : α → α} (h : item.Keeps kind least)
    {items : List Value} {l : List α}
    (hread : List.Forall₂ (fun w a => item.read? w = some a) items l) :
    ∃ fulls shorts, item.StandAll kind l fulls ∧ item.StandAll kind (l.map least) shorts ∧
      ∀ (n : Nat) place, items[n]?.any (·.lacks place) →
        fulls[n]?.bind (·.at? place) = shorts[n]?.bind (·.at? place) := by
  induction hread with
  | nil => exact ⟨[], [], standAll_nil, standAll_nil, fun n place _ => rfl⟩
  | @cons w a _ _ hw _ ih =>
    obtain ⟨full, short, hfull, hshort, hplace⟩ := h w a hw
    obtain ⟨fulls, shorts, hfulls, hshorts, hplaces⟩ := ih
    refine ⟨full :: fulls, short :: shorts, hfull.cons hfulls, hshort.cons hshorts, ?_⟩
    intro n place hlacks
    match n with
    | 0 => simpa using hplace place (by simpa using hlacks)
    | n + 1 => simpa using hplaces n place (by simpa using hlacks)

theorem Keeps.list {item : Form α} {least : α → α} {outer : Value → Prop}
    (h : item.Keeps kind least) (houter : ∀ vs, (∀ v ∈ vs, kind v) → outer (.array vs)) :
    (list item).Keeps outer (·.map least) := by
  intro v l hread
  obtain ⟨items, rfl, hitems⟩ := exists_items hread
  obtain ⟨fulls, shorts, hfulls, hshorts, hplaces⟩ := h.items hitems
  refine ⟨.array fulls, .array shorts, hfulls.stands (houter fulls hfulls.kinds),
    hshorts.stands (houter shorts hshorts.kinds), fun place hlacks => ?_⟩
  match place with
  | .item n :: place => exact hplaces n place hlacks

end Form

/-! ### Members -/

namespace Slot

/-- What is written for a member, if anything, is of a kind and is read as the member again. -/
structure Stands (kind : Value → Prop) (slot : Slot α) (a : α) (v : Option Value) : Prop where
  written : slot.write? a = some v
  kind : ∀ w ∈ v, kind w
  read : slot.read? v = some a

/-- `Form.Keeps` for a member that may be missing. -/
def Keeps (kind : Value → Prop) (least : α → α) (slot : Slot α) : Prop :=
  ∀ v a, slot.read? v = some a → ∃ full short,
    slot.Stands kind a full ∧ slot.Stands kind (least a) short ∧
      ∀ place, v.all (·.lacks place) → full.bind (·.at? place) = short.bind (·.at? place)

theorem stands_required {form : Form α} {a : α} {v : Value} (h : form.Stands kind a v) :
    (required form).Stands kind a (some v) where
  written := by simp [required, h.written]
  kind := by simpa using h.kind
  read := h.read

theorem stands_orElse {form : Form α} {default a : α} {v : Value} (h : form.Stands kind a v) :
    (orElse form default).Stands kind a (some v) where
  written := by simp [orElse, h.written]
  kind := by simpa using h.kind
  read := h.read

theorem keeps_required {form : Form α} {least : α → α} (h : form.Keeps kind least) :
    (required form).Keeps kind least := by
  intro v a hread
  match v with
  | some v =>
    obtain ⟨full, short, hfull, hshort, hplace⟩ := h v a hread
    exact ⟨some full, some short, stands_required hfull, stands_required hshort,
      fun place hlacks => hplace place hlacks⟩

theorem keeps_orElse {form : Form α} {least : α → α} {default : α} {w : Value}
    (h : form.Keeps kind least) (hdefault : form.read? w = some default)
    (hleast : least default = default) : (orElse form default).Keeps kind least := by
  intro v a hread
  match v with
  | some v =>
    obtain ⟨full, short, hfull, hshort, hplace⟩ := h v a hread
    exact ⟨some full, some short, stands_orElse hfull, stands_orElse hshort,
      fun place hlacks => hplace place hlacks⟩
  | none =>
    -- From now on the default is written, for the settings as for the least of them.
    obtain ⟨full, -, hfull, -⟩ := h w default hdefault
    cases hread
    exact ⟨some full, some full, stands_orElse hfull, hleast.symm ▸ stands_orElse hfull,
      fun place _ => rfl⟩

theorem keeps_plain {form : Form α} {default : α} {v : Value} (h : form.IsPlain)
    (hdefault : form.read? v = some default) :
    (orElse form default).Keeps Value.IsPlain fun _ => default :=
  keeps_orElse (h.keeps hdefault) hdefault rfl

theorem keeps_text {default : String} :
    (orElse .text default).Keeps Value.IsPlain fun _ => default :=
  keeps_plain (v := .text default) Form.isPlain_text rfl

theorem keeps_flag {default : Bool} :
    (orElse .flag default).Keeps Value.IsPlain fun _ => default :=
  keeps_plain (v := .boolean default) Form.isPlain_flag rfl

theorem keeps_texts : (orElse (.list .text) []).Keeps Value.IsPlain fun _ => [] :=
  keeps_plain (v := .array []) Form.isPlain_texts rfl

theorem keeps_count {default : UInt64} (h : default.toNat < 2 ^ 63) :
    (orElse .count default).Keeps Value.IsPlain fun _ => default := by
  refine keeps_plain (v := .integer default.toInt64) Form.isPlain_count ?_
  have hvalue : default.toInt64.toInt = default.toNat := by
    rw [← Int64.toInt_toBitVec, UInt64.toBitVec_toInt64, BitVec.toInt_eq_toNat_of_lt]
    · simp
    · simpa using (by omega : 2 * default.toNat < 2 ^ 64)
  have hpositive : 0 ≤ default.toInt64 := by
    simp [Int64.le_iff_toInt_le, hvalue]
  simp [Form.count, hpositive]

theorem keeps_quad {a b c d : UInt8} {port : UInt16} :
    (orElse .address (.quad a b c d port)).Keeps Value.IsPlain fun _ => .quad a b c d port := by
  refine keeps_plain (v := .text (SocketAddress.quad a b c d port).text) Form.isPlain_address ?_
  simp only [Form.address, SocketAddress.quad]
  exact SocketAddress.parse?_text_of_v4 _ port

theorem keeps_optional {form : Form α} (h : form.IsPlain) :
    (optional form).Keeps Value.IsPlain fun _ => none := by
  have hnone : (optional form).Stands Value.IsPlain none none := ⟨rfl, by simp, rfl⟩
  intro v a hread
  match v with
  | none =>
    cases hread
    exact ⟨none, none, hnone, hnone, fun place _ => rfl⟩
  | some v =>
    obtain ⟨b, hb, rfl⟩ := Option.map_eq_some_iff.mp hread
    obtain ⟨full, hfull⟩ := h.stands v b hb
    have hstands : (optional form).Stands Value.IsPlain (some b) (some full) :=
      ⟨by simp [optional, hfull.written], by simpa using hfull.kind,
        by simp [optional, hfull.read]⟩
    -- The member is there, and lacks nothing.
    refine ⟨some full, none, hstands, hnone, fun place hlacks => ?_⟩
    have hno : v.lacks place = true := hlacks
    rw [(h.plain v b hb).lacks place] at hno
    exact absurd hno Bool.false_ne_true

end Slot

namespace Fields

/-- The members that are written for a record are of a kind, and whatever has the same under
their names is read as `make`. -/
structure Stands (kind : Value → Prop) (f : Fields ρ α) (r : ρ) (make : α) (table : Table) :
    Prop where
  written : f.write? r = some table
  kinds : ∀ m ∈ table, kind m.2
  names : (table.map Prod.fst).Sublist f.names
  read : ∀ table', (∀ name ∈ f.names, table'.lookup name = table.lookup name) →
    f.read? table' = some make

/-- `Form.Keeps` for the members of a record that have been read from a table: `make` is what they
give for the record, and `made` what they give for the one with the least said. -/
def Keeps (kind : Value → Prop) (f : Fields ρ α) (table : Table) (r least : ρ) (make made : α) :
    Prop :=
  f.names.Nodup → ∃ full short, f.Stands kind r make full ∧ f.Stands kind least made short ∧
    ∀ name place, (table.lookup name).all (·.lacks place) →
      (full.lookup name).bind (·.at? place) = (short.lookup name).bind (·.at? place)

/-- Whatever is read has a property, together with the table that it is read from. The record is
there only when its last member has been read, so what was read before is kept in the property. -/
def Yields (f : Fields ρ α) (Q : Table → α → Prop) : Prop :=
  ∀ table make, f.read? table = some make → Q table make

theorem keeps_of {table : Table} {r least : ρ} {make : α} :
    (of make).Keeps kind table r least make make := by
  intro _
  have hstands : ∀ r : ρ, (of make).Stands kind r make [] := by
    intro r
    exact ⟨rfl, by simp, List.Sublist.refl _, fun table' _ => rfl⟩
  exact ⟨[], [], hstands r, hstands least, fun name place _ => rfl⟩

theorem lookup_entry {table : Table} {name : String} (h : name ∉ table.map Prod.fst)
    (v : Option Value) : (table ++ entry name v).lookup name = v := by
  rw [List.lookup_append, Lookup.lookup_of_not_mem h]
  cases v <;> simp [entry]

theorem lookup_entry_of_ne {name other : String} (h : other ≠ name) (table : Table)
    (v : Option Value) : (table ++ entry name v).lookup other = table.lookup other := by
  have hnone : (entry name v).lookup other = none := by
    cases v with
    | none => rfl
    | some v => simp [entry, List.lookup_cons, beq_false_of_ne h]
  rw [List.lookup_append, hnone, Option.or_none]

theorem Stands.not_mem {f : Fields ρ α} {r : ρ} {make : α} {table : Table} {name : String}
    (h : f.Stands kind r make table) (hname : name ∉ f.names) : name ∉ table.map Prod.fst :=
  fun hmem => hname (h.names.subset hmem)

theorem Stands.member {f : Fields ρ (β → α)} {r : ρ} {make : β → α} {table : Table}
    {name : String} {slot : Slot β} {get : ρ → β} {v : Option Value}
    (h : f.Stands kind r make table) (hslot : slot.Stands kind (get r) v)
    (hname : name ∉ f.names) :
    (f.member name slot get).Stands kind r (make (get r)) (table ++ entry name v) where
  written := by simp [Fields.member, h.written, hslot.written]
  kinds := by
    intro m hm
    rcases List.mem_append.mp hm with hm | hm
    · exact h.kinds m hm
    · cases v with
      | none => simp [entry] at hm
      | some v =>
        obtain rfl : m = (name, v) := by simpa [entry] using hm
        exact hslot.kind v rfl
  names := by
    rw [List.map_append]
    refine h.names.append ?_
    cases v <;> simp [entry]
  read := by
    intro table' hsame
    have hbefore : f.read? table' = some make := by
      refine h.read table' fun other hother => ?_
      have hne : other ≠ name := fun heq => hname (heq ▸ hother)
      rw [hsame other (List.mem_append_left _ hother), lookup_entry_of_ne hne]
    have hthis : table'.lookup name = v := by
      rw [hsame name (List.mem_append_right _ (List.mem_singleton.mpr rfl)),
        lookup_entry (h.not_mem hname)]
    simp [Fields.member, hbefore, hthis, hslot.read]

theorem Keeps.member {f : Fields ρ (β → α)} {table : Table} {r least : ρ} {make made : β → α}
    {name : String} {slot : Slot β} {get : ρ → β} {leastSlot : β → β}
    (h : f.Keeps kind table r least make made) (hslot : slot.Keeps kind leastSlot)
    (hread : slot.read? (table.lookup name) = some (get r))
    (hleast : get least = leastSlot (get r)) :
    (f.member name slot get).Keeps kind table r least (make (get r)) (made (get least)) := by
  intro hdistinct
  obtain ⟨hbefore, -, hdisjoint⟩ := List.nodup_append.mp hdistinct
  have hname : name ∉ f.names := by
    intro hmem
    exact hdisjoint name hmem name (List.mem_singleton.mpr rfl) rfl
  obtain ⟨full, short, hfull, hshort, hplaces⟩ := h hbefore
  obtain ⟨v, w, hv, hw, hplace⟩ := hslot (table.lookup name) (get r) hread
  rw [← hleast] at hw
  refine ⟨full ++ entry name v, short ++ entry name w, hfull.member hv hname,
    hshort.member hw hname, fun other place hlacks => ?_⟩
  by_cases hother : other = name
  · subst hother
    rw [lookup_entry (hfull.not_mem hname), lookup_entry (hshort.not_mem hname)]
    exact hplace place hlacks
  · rw [lookup_entry_of_ne hother, lookup_entry_of_ne hother]
    exact hplaces other place hlacks

theorem Yields.of {make : α} {Q : Table → α → Prop} (h : ∀ table, Q table make) :
    (of make : Fields ρ α).Yields Q := by
  intro table _ hread
  cases hread
  exact h table

theorem Yields.member {f : Fields ρ (β → α)} {name : String} {slot : Slot β} {get : ρ → β}
    {Q : Table → α → Prop}
    (h : f.Yields fun table make => ∀ b, slot.read? (table.lookup name) = some b →
      Q table (make b)) :
    (f.member name slot get).Yields Q := by
  intro table a hread
  obtain ⟨make, hmake, hread⟩ := Option.bind_eq_some_iff.mp hread
  obtain ⟨b, hb, hread⟩ := Option.bind_eq_some_iff.mp hread
  cases hread
  exact h table make hmake b hb

theorem Stands.isBareName {f : Fields ρ α} {r : ρ} {make : α} {table : Table}
    (h : f.Stands kind r make table) (hbare : ∀ name ∈ f.names, isBareName name) :
    ∀ m ∈ table, isBareName m.1 :=
  fun _ hm => hbare _ (h.names.subset (List.mem_map_of_mem hm))

/-- A record is kept if its members are. -/
theorem Yields.keeps {f : Fields ρ ρ} {least : ρ → ρ} {v : Value} {r : ρ}
    (h : f.Yields fun table r => f.Keeps kind table r (least r) r (least r))
    (hdistinct : f.names.Nodup) (hread : f.form.read? v = some r) :
    ∃ full short, f.Stands kind r r full ∧ f.Stands kind (least r) (least r) short ∧
      ∀ place, v.lacks place → (Value.table full).at? place = (Value.table short).at? place := by
  obtain ⟨table, hmembers, hread⟩ := Option.bind_eq_some_iff.mp hread
  obtain ⟨full, short, hfull, hshort, hplaces⟩ := h table r hread hdistinct
  refine ⟨full, short, hfull, hshort, fun place hlacks => ?_⟩
  match v, place with
  | .table members, .member name :: place =>
    cases hmembers
    exact hplaces name place hlacks
  | .moment _, [] | .moment _, _ :: _ => exact absurd hlacks Bool.false_ne_true
  -- A list has items that a record has no place for. Nothing stands there before and after.
  | .array items, .item n :: place => rfl

theorem keeps_section {f : Fields ρ ρ} {least : ρ → ρ}
    (h : f.Yields fun table r => f.Keeps Value.IsPlain table r (least r) r (least r))
    (hdistinct : f.names.Nodup) (hbare : ∀ name ∈ f.names, isBareName name) :
    f.form.Keeps Value.IsSection least := by
  have hstands : ∀ {r table}, f.Stands Value.IsPlain r r table →
      f.form.Stands Value.IsSection r (.table table) := by
    intro r table hr
    refine ⟨by simp [form, hr.written], ⟨table, rfl, ?_⟩, hr.read table fun _ _ => rfl⟩
    exact ⟨hr.isBareName hbare, hr.names.nodup hdistinct, hr.kinds⟩
  intro v r hread
  obtain ⟨full, short, hfull, hshort, hplace⟩ := h.keeps hdistinct hread
  exact ⟨.table full, .table short, hstands hfull, hstands hshort, hplace⟩

theorem keepsFile {f : Fields ρ ρ} {least : ρ → ρ}
    (h : f.Yields fun table r => f.Keeps Value.IsEntry table r (least r) r (least r))
    (hdistinct : f.names.Nodup) (hbare : ∀ name ∈ f.names, isBareName name) :
    f.form.KeepsFile least := by
  have hstands : ∀ {r table}, f.Stands Value.IsEntry r r table →
      f.form.StandsAsFile r table := by
    intro r table hr
    refine ⟨by simp [form, hr.written], ?_, fun file hsame => hr.read file fun _ _ => hsame _⟩
    exact ⟨hr.isBareName hbare, hr.names.nodup hdistinct, hr.kinds⟩
  intro v r hread
  obtain ⟨full, short, hfull, hshort, hplace⟩ := h.keeps hdistinct hread
  exact ⟨full, short, hstands hfull, hstands hshort, hplace⟩

end Fields

end Perimeter.Settings
