import Mathlib.Data.Set.Card
import Perimeter.Proofs.Enrolment

/-!
# `Perimeter.Proofs.Enrolled`: who is enrolled under an identifier

A registry is a map from identifiers to devices, and it is filled all at once. Its entries make
a registry if each of them makes a device and no identifier stands twice. If they do not,
`DeviceEntry.Unfit` says what is reported: an entry that makes no device comes before any
identifier that stands twice.

Afterwards devices are registered, removed and replaced. `Registry.Change.writes` says what a
change writes under an identifier, so that a look-up answers with the last of these writes
(`Registry.lookup_after`). That and what else makes a map of a registry is `Registry.Faithful`,
and every registry that comes out of entries and changes is one (`Registry.maps_faithfully`).
-/

set_option autoImplicit false

namespace Perimeter

/-! ### The first to repeat -/

section
variable {α β : Type} {key : α → β} {l : List α}

theorem nodup_map_concat_iff {a : α} :
    ((l ++ [a]).map key).Nodup ↔ (l.map key).Nodup ∧ key a ∉ l.map key := by
  rw [List.map_append, List.map_singleton, ← List.concat_eq_append, List.nodup_concat, and_comm]

/-- If a key stands twice in a list, there is a first element whose key has been there. -/
theorem exists_first_repeat (h : ¬ (l.map key).Nodup) :
    ∃ before a after, l = before ++ a :: after ∧ (before.map key).Nodup ∧
      key a ∈ before.map key := by
  -- The list is read from its end: what repeats in a front repeats in the whole.
  induction l using List.reverseRecOn with
  | nil => exact absurd List.nodup_nil h
  | append_singleton front a ih =>
    by_cases hfront : (front.map key).Nodup
    · refine ⟨front, a, [], rfl, hfront, ?_⟩
      by_contra hnew
      exact h (nodup_map_concat_iff.mpr ⟨hfront, hnew⟩)
    · obtain ⟨before, b, after, hsplit, hdistinct, hrepeat⟩ := ih hfront
      exact ⟨before, b, after ++ [a], by simp [hsplit], hdistinct, hrepeat⟩

end

/-! ### Entries that make no registry -/

namespace DeviceEntry

/-- The entry makes a device. -/
def Converts (entry : DeviceEntry) : Prop := ∃ device, entry.toDevice = .ok device

/-- What is reported of entries: the first of them that makes no device, or, when all make one,
the first whose identifier has been there before. -/
inductive Unfit : List DeviceEntry → RegistryError → Prop
  | refused {before : List DeviceEntry} {entry : DeviceEntry} {after : List DeviceEntry}
      {reason : RegistryError} (hbefore : ∀ e ∈ before, e.Converts)
      (hrefused : entry.toDevice = .error reason) : Unfit (before ++ entry :: after) reason
  | repeated {before : List DeviceEntry} {entry : DeviceEntry} {after : List DeviceEntry}
      (hall : ∀ e ∈ before ++ entry :: after, e.Converts)
      (hdistinct : (before.map deviceId).Nodup) (hrepeat : entry.deviceId ∈ before.map deviceId) :
      Unfit (before ++ entry :: after) (.duplicateDevice entry.deviceId)

variable {entries : List DeviceEntry} {devices : List Device}

/-- The devices that are made of entries. -/
def Make (entries : List DeviceEntry) (devices : List Device) : Prop :=
  List.Forall₂ (fun entry device => entry.toDevice = .ok device) entries devices

theorem Make.converts (h : Make entries devices) : ∀ entry ∈ entries, entry.Converts := by
  intro entry hentry
  obtain ⟨i, hi, rfl⟩ := List.getElem_of_mem hentry
  exact ⟨_, h.get hi (h.length_eq ▸ hi)⟩

theorem exists_make_iff :
    (∃ devices, Make entries devices) ↔ ∀ entry ∈ entries, entry.Converts := by
  constructor
  · intro h
    obtain ⟨devices, h⟩ := h
    exact h.converts
  · intro hall
    induction entries with
    | nil => exact ⟨[], .nil⟩
    | cons entry rest ih =>
      obtain ⟨⟨device, hdevice⟩, hrest⟩ := List.forall_mem_cons.mp hall
      obtain ⟨devices, hdevices⟩ := ih hrest
      exact ⟨device :: devices, .cons hdevice hdevices⟩

/-- A device is called what its entry says. -/
theorem Make.map_id (h : Make entries devices) :
    entries.map deviceId = (devices.map Device.id).map DeviceId.text := by
  induction h with
  | nil => rfl
  | cons hdevice _ ih =>
    have htext := DeviceId.text_of_ofText (parts_of_toDevice hdevice).1
    simp only [List.map_cons, ih, htext]

end DeviceEntry

theorem DeviceId.text_injective : Function.Injective DeviceId.text := by
  intro id id' h
  cases id
  cases id'
  cases h
  rfl

theorem DeviceEntry.Make.nodup_iff {entries : List DeviceEntry} {devices : List Device}
    (h : Make entries devices) :
    (entries.map deviceId).Nodup ↔ (devices.map Device.id).Nodup := by
  rw [h.map_id]
  exact List.nodup_map_iff DeviceId.text_injective

namespace Registry

variable {r : Registry} {devices : List Device} {device : Device} {id : DeviceId}
  {entries : List DeviceEntry} {reason : RegistryError}

/-! ### A registry of some devices -/

theorem ofDevices_concat (devices : List Device) (device : Device) :
    ofDevices (devices ++ [device]) = ofDevices devices >>= fun r => r.register device := by
  simp [ofDevices, List.foldlM_append]

/-- Under an identifier stands the device that has it. -/
theorem lookup_of_ofDevices (h : ofDevices devices = .ok r) (id : DeviceId) :
    r.lookup id = devices.find? fun device => device.id = id := by
  induction devices using List.reverseRecOn generalizing r with
  | nil =>
    cases h
    rfl
  | append_singleton front device ih =>
    rw [ofDevices_concat, Checks.bind_eq_ok] at h
    obtain ⟨before, hfront, hregister⟩ := h
    rw [lookup_of_register hregister, List.find?_append, ← ih hfront]
    by_cases hid : device.id = id
    · -- The identifier was free, or the device would not be there.
      have hfree : before.lookup id = none := by
        unfold register at hregister
        rw [hid] at hregister
        cases hfound : before.lookup id with
        | none => rfl
        | some other =>
          rw [hfound] at hregister
          cases hregister
      simp [hid, hfree]
    · simp [hid]

theorem lookup_isSome_of_ofDevices (h : ofDevices devices = .ok r) (id : DeviceId) :
    (r.lookup id).isSome ↔ id ∈ devices.map Device.id := by
  rw [lookup_of_ofDevices h, List.find?_isSome]
  simp

/-- A device whose identifier is taken is refused, whatever comes behind it. -/
theorem ofDevices_of_repeat {before after : List Device} (h : ofDevices before = .ok r)
    (hrepeat : device.id ∈ before.map Device.id) :
    ofDevices (before ++ device :: after) = .error (.duplicateDevice device.id.text) := by
  obtain ⟨other, htaken⟩ :=
    Option.isSome_iff_exists.mp ((lookup_isSome_of_ofDevices h device.id).mpr hrepeat)
  have hregister : r.register device = .error (.duplicateDevice device.id.text) := by
    simp [register, htaken]
  have hfold : before.foldlM register empty = .ok r := h
  rw [ofDevices, List.foldlM_append, hfold, Checks.ok_bind, List.foldlM_cons, hregister]
  rfl

/-- Devices make a registry if and only if no identifier stands twice. -/
theorem ofDevices_ok_iff : (∃ r, ofDevices devices = .ok r) ↔ (devices.map Device.id).Nodup := by
  induction devices using List.reverseRecOn with
  | nil => exact ⟨fun _ => List.nodup_nil, fun _ => ⟨empty, rfl⟩⟩
  | append_singleton front device ih =>
    constructor
    · intro h
      obtain ⟨after, h⟩ := h
      obtain ⟨r, hfront, -⟩ := Checks.bind_eq_ok.mp (ofDevices_concat front device ▸ h)
      refine nodup_map_concat_iff.mpr ⟨ih.mp ⟨r, hfront⟩, ?_⟩
      intro hrepeat
      cases h.symm.trans (ofDevices_of_repeat hfront hrepeat)
    · -- A new identifier is free in the registry of those before it.
      intro h
      obtain ⟨hdistinct, hnew⟩ := nodup_map_concat_iff.mp h
      obtain ⟨r, hfront⟩ := ih.mpr hdistinct
      have hfree : r.lookup device.id = none := by
        rw [← Option.not_isSome_iff_eq_none, lookup_isSome_of_ofDevices hfront]
        exact hnew
      refine ⟨r.upsert device, ?_⟩
      rw [ofDevices_concat, hfront, Checks.ok_bind, register, hfree]

/-! ### A registry of some entries -/

theorem ofEntries_eq (h : DeviceEntry.Make entries devices) :
    ofEntries entries = ofDevices devices := by
  rw [ofEntries, Checks.mapM_eq_ok.mpr h, Checks.ok_bind]

/-- A registry is made of the devices that its entries make. -/
theorem exists_make_of_ofEntries (h : ofEntries entries = .ok r) :
    ∃ devices, DeviceEntry.Make entries devices ∧ ofDevices devices = .ok r := by
  rw [ofEntries, Checks.bind_eq_ok] at h
  obtain ⟨devices, hmake, hdevices⟩ := h
  exact ⟨devices, Checks.mapM_eq_ok.mp hmake, hdevices⟩

/-- Entries make a registry if and only if each makes a device and no identifier stands twice. -/
theorem ofEntries_ok_iff : (∃ r, ofEntries entries = .ok r) ↔
    (∀ entry ∈ entries, entry.Converts) ∧ (entries.map DeviceEntry.deviceId).Nodup := by
  constructor
  · intro h
    obtain ⟨r, h⟩ := h
    obtain ⟨devices, hmake, hdevices⟩ := exists_make_of_ofEntries h
    exact ⟨hmake.converts, hmake.nodup_iff.mpr (ofDevices_ok_iff.mp ⟨r, hdevices⟩)⟩
  · intro h
    obtain ⟨hall, hdistinct⟩ := h
    obtain ⟨devices, hmake⟩ := DeviceEntry.exists_make_iff.mpr hall
    rw [ofEntries_eq hmake]
    exact ofDevices_ok_iff.mpr (hmake.nodup_iff.mp hdistinct)

theorem ofEntries_of_unfit (h : DeviceEntry.Unfit entries reason) :
    ofEntries entries = .error reason := by
  cases h with
  | @refused before entry after _ hbefore hrefused =>
    have hfirst := Checks.mapM_eq_error.mpr ⟨before, entry, after, rfl, hbefore, hrefused⟩
    rw [ofEntries, hfirst]
    rfl
  | @repeated before entry after hall hdistinct hrepeat =>
    obtain ⟨devices, hmake⟩ := DeviceEntry.exists_make_iff.mpr hall
    rw [ofEntries_eq hmake]
    -- The devices stand in the order of their entries.
    have hmap := Checks.mapM_eq_ok.mpr hmake
    simp only [List.mapM_append, List.mapM_cons, Checks.bind_eq_ok, Checks.pure_eq_ok] at hmap
    obtain ⟨front, hfront, _, ⟨device, hdevice, rest, -, rfl⟩, rfl⟩ := hmap
    have hfront : DeviceEntry.Make before front := Checks.mapM_eq_ok.mp hfront
    obtain ⟨r, hr⟩ := ofDevices_ok_iff.mpr (hfront.nodup_iff.mp hdistinct)
    have htext := DeviceId.text_of_ofText (DeviceEntry.parts_of_toDevice hdevice).1
    rw [hfront.map_id, ← htext, List.mem_map_of_injective DeviceId.text_injective] at hrepeat
    rw [ofDevices_of_repeat hr hrepeat, htext]

/-- What is reported of entries is what is wrong with them. -/
theorem ofEntries_error_iff :
    ofEntries entries = .error reason ↔ DeviceEntry.Unfit entries reason := by
  refine ⟨?_, ofEntries_of_unfit⟩
  intro h
  -- Something is wrong with the entries, and only one thing can be reported.
  obtain ⟨reason', hunfit⟩ : ∃ reason, DeviceEntry.Unfit entries reason := by
    cases hmap : entries.mapM DeviceEntry.toDevice with
    | error e =>
      obtain ⟨before, entry, after, rfl, hbefore, hrefused⟩ := Checks.mapM_eq_error.mp hmap
      exact ⟨e, .refused hbefore hrefused⟩
    | ok devices =>
      have hall := DeviceEntry.Make.converts (Checks.mapM_eq_ok.mp hmap)
      have hrepeat : ¬ (entries.map DeviceEntry.deviceId).Nodup := by
        intro hdistinct
        obtain ⟨r, hr⟩ := ofEntries_ok_iff.mpr ⟨hall, hdistinct⟩
        cases h.symm.trans hr
      obtain ⟨before, entry, after, rfl, hbefore, hmem⟩ := exists_first_repeat hrepeat
      exact ⟨_, .repeated hall hbefore hmem⟩
  cases h.symm.trans (ofEntries_of_unfit hunfit)
  exact hunfit

/-! ### Changes to a registry -/

/-- A change to the devices of a registry. -/
inductive Change where
  | upsert (device : Device)
  | remove (id : DeviceId)
  | replaceAll (devices : List Device)

/-- What a change makes of a registry. -/
def change (r : Registry) : Change → Registry
  | .upsert device => r.upsert device
  | .remove id => (r.remove id).1
  | .replaceAll devices => (r.replaceAll devices).1

/-- What some changes make of a registry, one after another. -/
def after (r : Registry) (changes : List Change) : Registry := changes.foldl change r

/-- What a change writes under an identifier: a device, or that there is none. A change that
does not concern the identifier writes nothing, and neither does a replacement in which an
identifier stands twice. -/
def Change.writes (id : DeviceId) : Change → Option (Option Device)
  | .upsert device => if device.id = id then some (some device) else none
  | .remove id' => if id' = id then some none else none
  | .replaceAll devices =>
    if (devices.map Device.id).Nodup then some (devices.find? fun device => device.id = id)
    else none

/-- The last that some changes write under an identifier. -/
def Change.lastWrite (id : DeviceId) (changes : List Change) : Option (Option Device) :=
  (changes.filterMap (writes id)).getLast?

theorem Change.lastWrite_concat (id : DeviceId) (changes : List Change) (c : Change) :
    lastWrite id (changes ++ [c]) = (c.writes id).or (lastWrite id changes) := by
  rw [lastWrite, List.filterMap_append]
  cases hwrites : c.writes id with
  | none => simp [hwrites, lastWrite]
  | some written => simp [hwrites]

theorem replaceAll_ok_iff :
    (r.replaceAll devices).2 = .ok () ↔ (devices.map Device.id).Nodup := by
  rw [← ofDevices_ok_iff, replaceAll]
  cases ofDevices devices <;> simp

theorem replaceAll_of_error (h : (r.replaceAll devices).2 = .error reason) :
    (r.replaceAll devices).1 = r := by
  unfold replaceAll at h ⊢
  cases hdevices : ofDevices devices with
  | ok fresh =>
    rw [hdevices] at h
    cases h
  | error reason => rfl

/-- A change puts under an identifier what it writes there. -/
theorem lookup_change (r : Registry) (c : Change) (id : DeviceId) :
    (r.change c).lookup id = (c.writes id).getD (r.lookup id) := by
  cases c with
  | upsert device =>
    simp only [change, Change.writes, lookup_upsert]
    split <;> rfl
  | remove id' =>
    simp only [change, Change.writes, remove_eq, lookup_erase]
    split <;> rfl
  | replaceAll devices =>
    by_cases hdistinct : (devices.map Device.id).Nodup
    · obtain ⟨fresh, hdevices⟩ := ofDevices_ok_iff.mpr hdistinct
      simp [change, Change.writes, replaceAll, hdistinct, hdevices, lookup_of_ofDevices hdevices]
    · cases hdevices : ofDevices devices with
      | ok fresh => exact absurd (ofDevices_ok_iff.mp ⟨fresh, hdevices⟩) hdistinct
      | error reason => simp [change, Change.writes, replaceAll, hdistinct, hdevices]

/-- A look-up answers with the last write under the identifier. -/
theorem lookup_after (r : Registry) (changes : List Change) (id : DeviceId) :
    (r.after changes).lookup id = (Change.lastWrite id changes).getD (r.lookup id) := by
  induction changes using List.reverseRecOn with
  | nil => rfl
  | append_singleton changes c ih =>
    have hafter : r.after (changes ++ [c]) = (r.after changes).change c := by
      simp [after, List.foldl_append]
    rw [hafter, lookup_change, Change.lastWrite_concat]
    -- What the last change leaves alone has been written before, by the induction.
    cases c.writes id with
    | none => exact ih
    | some written => rfl

/-- There are as many devices as identifiers that have one. -/
theorem size_eq (r : Registry) : (r.size : ℕ∞) = Set.encard {id | (r.lookup id).isSome} := by
  have hkeys : {id | (r.lookup id).isSome} = ((Assoc.keys r.devices).toFinset : Set DeviceId) := by
    ext id
    have hnone : r.lookup id = none ↔ id ∉ Assoc.keys r.devices := Assoc.get?_eq_none_iff
    rw [Set.mem_ofPred_eq, Finset.mem_coe, List.mem_toFinset, ← not_iff_not, ← hnone]
    exact Option.not_isSome_iff_eq_none
  rw [hkeys, Set.encard_coe_eq_coe_finsetCard, List.toFinset_card_of_nodup r.nodup]
  simp [size, Assoc.keys]

/-- A registry stands for a map from identifiers to devices. Every device has the identifier that
it stands under, the size counts the identifiers that have one, a removal gives back what was
there, and a replacement that is refused leaves the map as it is. -/
structure Faithful (r : Registry) (enrolled : DeviceId → Option Device) : Prop where
  lookup_eq : ∀ id, r.lookup id = enrolled id
  id_eq : ∀ id device, enrolled id = some device → device.id = id
  size_eq : (r.size : ℕ∞) = Set.encard {id | (enrolled id).isSome}
  remove_eq : ∀ id, (r.remove id).2 = enrolled id
  replaces_iff : ∀ devices, (r.replaceAll devices).2 = .ok () ↔ (devices.map Device.id).Nodup
  lookup_of_refused : ∀ devices reason, (r.replaceAll devices).2 = .error reason →
    ∀ id, (r.replaceAll devices).1.lookup id = enrolled id

theorem faithful_lookup (r : Registry) : r.Faithful r.lookup where
  lookup_eq _ := rfl
  id_eq _ _ := id_of_lookup
  size_eq := r.size_eq
  remove_eq id := by rw [r.remove_eq]
  replaces_iff _ := replaceAll_ok_iff
  lookup_of_refused devices reason h id := by rw [replaceAll_of_error h]

/-- A registry is a faithful map from identifiers to devices. Entries make one if and only if
each of them makes a device and no identifier stands twice, and else the first entry that makes
no device is reported, or, when there is none, the first whose identifier has been there before.
Whatever changes come afterwards, under an identifier stands the device of the last write that
concerns it: none after a removal, or after a replacement that has no such device. -/
theorem maps_faithfully (entries : List DeviceEntry) :
    ((∃ r, ofEntries entries = .ok r) ↔
      (∀ entry ∈ entries, entry.Converts) ∧ (entries.map DeviceEntry.deviceId).Nodup) ∧
    (∀ reason, ofEntries entries = .error reason ↔ DeviceEntry.Unfit entries reason) ∧
    ∀ r, ofEntries entries = .ok r → ∃ devices, DeviceEntry.Make entries devices ∧
      ∀ changes, (r.after changes).Faithful fun id =>
        (Change.lastWrite id changes).getD (devices.find? fun device => device.id = id) := by
  refine ⟨ofEntries_ok_iff, fun _ => ofEntries_error_iff, ?_⟩
  intro r h
  obtain ⟨devices, hmake, hdevices⟩ := exists_make_of_ofEntries h
  refine ⟨devices, hmake, fun changes => ?_⟩
  -- Every registry is faithful to its own look-up, so only that has to be known.
  have hlookup : (r.after changes).lookup = fun id =>
      (Change.lastWrite id changes).getD (devices.find? fun device => device.id = id) := by
    funext id
    rw [lookup_after, lookup_of_ofDevices hdevices]
  rw [← hlookup]
  exact (r.after changes).faithful_lookup

/-- Two devices are enrolled. One of them gets another secret and the other is removed, and a
replacement that names a third device twice is refused. -/
theorem maps_faithfully_of_two :
    let secret := "00112233445566778899aabbccddeeff"
    let entry (id : String) : DeviceEntry := ⟨id, secret, none, some "cn", ["ssh"]⟩
    let tablet : DeviceId := ⟨"tablet", by decide, by decide⟩
    let phone : DeviceId := ⟨"phone", by decide, by decide⟩
    let renewed : Device := ⟨tablet, ⟨List.replicate 16 7, by decide⟩, .commonName "cn", []⟩
    let watch : Device := { renewed with id := ⟨"watch", by decide, by decide⟩ }
    let changes := [.upsert renewed, .remove phone, .replaceAll [watch, watch]]
    ∃ r, ofEntries [entry "tablet", entry "phone"] = .ok r ∧
      (r.after changes).lookup tablet = some renewed ∧ (r.after changes).lookup phone = none ∧
      ((r.after changes).remove tablet).2 = some renewed := by
  intro secret entry tablet phone renewed watch changes
  obtain ⟨-, -, hmaps⟩ := maps_faithfully [entry "tablet", entry "phone"]
  obtain ⟨r, h⟩ : ∃ r, ofEntries [entry "tablet", entry "phone"] = .ok r :=
    ⟨(ofEntries [entry "tablet", entry "phone"]).toOption.getD empty, by decide +kernel⟩
  obtain ⟨devices, -, hfaithful⟩ := hmaps r h
  have hafter := hfaithful changes
  refine ⟨r, h, ?_, ?_, ?_⟩
  · rw [hafter.lookup_eq]
    rfl
  · rw [hafter.lookup_eq]
    rfl
  · rw [hafter.remove_eq]
    rfl

end Registry

end Perimeter
