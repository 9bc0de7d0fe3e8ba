import Perimeter.Agent.Config
import Perimeter.Controller.Config
import Perimeter.Gateway.Config
import Perimeter.Proofs.Settings.Form

/-!
# `Perimeter.Proofs.Settings.Reloaded`: settings that are saved are loaded again

The settings of the controller, of a gateway and of an agent are records of sections. For each
section it is shown that its settings are kept, member by member, for devices with whatever is
said of them, and then for the files. A member is kept because of how it is written alone, so
these proofs follow the declarations of the forms, from the last member to the first.

`saved_settings_are_reloaded` puts this together with the text of a file. Whatever text settings
have been read from, they are saved, and read again as the same settings.
-/

set_option autoImplicit false

namespace Perimeter

open Settings (Form Fields)
open Settings.Fields (keeps_of)
open Settings.Slot (keeps_text keeps_flag keeps_count keeps_quad keeps_texts keeps_optional
  keeps_required keeps_orElse)
open Toml (Value)

/-! ### Devices -/

/-- A device of which no more is said than must be. -/
def DeviceEntry.unbound (entry : DeviceEntry) : DeviceEntry :=
  ⟨entry.deviceId, entry.knockSecretHex, none, none, []⟩

namespace Settings

theorem keeps_device : device.Keeps Value.IsSection DeviceEntry.unbound := by
  refine Fields.keeps_section ?_ (by decide) (by decide)
  refine .member <| .member <| .member <| .member <| .member <| .of fun table => ?_
  intro deviceId hdeviceId secret hsecret fingerprint hfingerprint name hname services hservices
  refine .member ?_ keeps_texts hservices rfl
  refine .member ?_ (keeps_optional Form.isPlain_text) hname rfl
  refine .member ?_ (keeps_optional Form.isPlain_text) hfingerprint rfl
  refine .member ?_ (keeps_required Form.isPlain_text.keeps_same) hsecret rfl
  refine .member ?_ (keeps_required Form.isPlain_text.keeps_same) hdeviceId rfl
  exact keeps_of

theorem keeps_devices : devices.Keeps Value.IsEntry (·.map DeviceEntry.unbound) :=
  keeps_device.list fun _ htables => Toml.isEntry_of_tables htables

/-- A section has a header of its own. -/
theorem keeps_part {α : Type} {form : Form α} {default : α}
    (h : form.Keeps Value.IsSection fun _ => default)
    (hdefault : form.read? (.table []) = some default) :
    (Slot.orElse form default).Keeps Value.IsEntry fun _ => default := by
  refine keeps_orElse (h.mono ?_) hdefault rfl
  rintro _ ⟨members, rfl, hmembers⟩
  exact .table hmembers

end Settings

/-! ### The controller -/

namespace Controller.Config

theorem General.keeps : General.form.Keeps Value.IsSection fun _ => {} := by
  refine Fields.keeps_section ?_ (by decide) (by decide)
  refine .member <| .member <| .of fun table logLevel hlogLevel issuer hissuer => ?_
  refine .member ?_ keeps_text hissuer rfl
  refine .member ?_ keeps_text hlogLevel rfl
  exact keeps_of

theorem Network.keeps : Network.form.Keeps Value.IsSection fun _ => {} := by
  refine Fields.keeps_section ?_ (by decide) (by decide)
  refine .member <| .member <| .member <| .of fun table => ?_
  intro knockListen hknockListen httpListen hhttpListen maxInflight hmaxInflight
  refine .member ?_ (keeps_count (by decide)) hmaxInflight rfl
  refine .member ?_ keeps_quad hhttpListen rfl
  refine .member ?_ keeps_quad hknockListen rfl
  exact keeps_of

theorem Security.keeps : Security.form.Keeps Value.IsSection fun _ => {} := by
  refine Fields.keeps_section ?_ (by decide) (by decide)
  refine .member <| .member <| .member <| .member <| .member <| .of fun table => ?_
  intro secret hsecret ttl httl skew hskew capacity hcapacity interval hinterval
  refine .member ?_ (keeps_count (by decide)) hinterval rfl
  refine .member ?_ (keeps_count (by decide)) hcapacity rfl
  refine .member ?_ (keeps_count (by decide)) hskew rfl
  refine .member ?_ (keeps_count (by decide)) httl rfl
  refine .member ?_ keeps_text hsecret rfl
  exact keeps_of

/-- The settings without anything that can be left out. -/
def least (c : Config) : Config := { devices := c.devices.map DeviceEntry.unbound }

theorem keepsFile : form.KeepsFile least := by
  refine Fields.keepsFile ?_ (by decide) (by decide)
  refine .member <| .member <| .member <| .member <| .of fun table => ?_
  intro general hgeneral network hnetwork security hsecurity devices hdevices
  refine .member ?_ (keeps_orElse Settings.keeps_devices (w := .array []) rfl rfl) hdevices rfl
  refine .member ?_ (Settings.keeps_part Security.keeps rfl) hsecurity rfl
  refine .member ?_ (Settings.keeps_part Network.keeps rfl) hnetwork rfl
  refine .member ?_ (Settings.keeps_part General.keeps rfl) hgeneral rfl
  exact keeps_of

end Controller.Config

/-! ### The gateway -/

namespace Gateway.Config

theorem General.keeps : General.form.Keeps Value.IsSection fun _ => {} := by
  refine Fields.keeps_section ?_ (by decide) (by decide)
  refine .member <| .member <| .of fun table service hservice logLevel hlogLevel => ?_
  refine .member ?_ keeps_text hlogLevel rfl
  refine .member ?_ keeps_text hservice rfl
  exact keeps_of

theorem Network.keeps : Network.form.Keeps Value.IsSection fun _ => {} := by
  refine Fields.keeps_section ?_ (by decide) (by decide)
  refine .member <| .member <| .member <| .member <| .member <| .member <| .of fun table => ?_
  intro knockListen hknockListen tlsListen htlsListen service hservice timeout htimeout
    inflight hinflight connections hconnections
  refine .member ?_ (keeps_count (by decide)) hconnections rfl
  refine .member ?_ (keeps_count (by decide)) hinflight rfl
  refine .member ?_ (keeps_count (by decide)) htimeout rfl
  refine .member ?_ keeps_quad hservice rfl
  refine .member ?_ keeps_quad htlsListen rfl
  refine .member ?_ keeps_quad hknockListen rfl
  exact keeps_of

theorem Admission.keeps : Admission.form.Keeps Value.IsSection fun _ => {} := by
  refine Fields.keeps_section ?_ (by decide) (by decide)
  refine .member <| .member <| .of fun table ttl httl capacity hcapacity => ?_
  refine .member ?_ (keeps_count (by decide)) hcapacity rfl
  refine .member ?_ (keeps_count (by decide)) httl rfl
  exact keeps_of

theorem Security.keeps : Security.form.Keeps Value.IsSection fun _ => {} := by
  refine Fields.keeps_section ?_ (by decide) (by decide)
  refine .member <| .member <| .member <| .member <| .member <| .member <| .member <|
    .of fun table => ?_
  intro required hrequired secret hsecret issuer hissuer skew hskew replay hreplay
    used hused interval hinterval
  refine .member ?_ (keeps_count (by decide)) hinterval rfl
  refine .member ?_ (keeps_count (by decide)) hused rfl
  refine .member ?_ (keeps_count (by decide)) hreplay rfl
  refine .member ?_ (keeps_count (by decide)) hskew rfl
  refine .member ?_ keeps_text hissuer rfl
  refine .member ?_ keeps_text hsecret rfl
  refine .member ?_ keeps_flag hrequired rfl
  exact keeps_of

theorem Tls.keeps : Tls.form.Keeps Value.IsSection fun _ => {} := by
  refine Fields.keeps_section ?_ (by decide) (by decide)
  refine .member <| .member <| .member <| .member <| .of fun table => ?_
  intro certPath hcertPath keyPath hkeyPath authority hauthority timeout htimeout
  refine .member ?_ (keeps_count (by decide)) htimeout rfl
  refine .member ?_ (keeps_optional Form.isPlain_text) hauthority rfl
  refine .member ?_ keeps_text hkeyPath rfl
  refine .member ?_ keeps_text hcertPath rfl
  exact keeps_of

/-- The settings without anything that can be left out. -/
def least (c : Config) : Config := { devices := c.devices.map DeviceEntry.unbound }

theorem keepsFile : form.KeepsFile least := by
  refine Fields.keepsFile ?_ (by decide) (by decide)
  refine .member <| .member <| .member <| .member <| .member <| .member <| .of fun table => ?_
  intro general hgeneral network hnetwork admission hadmission security hsecurity tls htls
    devices hdevices
  refine .member ?_ (keeps_orElse Settings.keeps_devices (w := .array []) rfl rfl) hdevices rfl
  refine .member ?_ (Settings.keeps_part Tls.keeps rfl) htls rfl
  refine .member ?_ (Settings.keeps_part Security.keeps rfl) hsecurity rfl
  refine .member ?_ (Settings.keeps_part Admission.keeps rfl) hadmission rfl
  refine .member ?_ (Settings.keeps_part Network.keeps rfl) hnetwork rfl
  refine .member ?_ (Settings.keeps_part General.keeps rfl) hgeneral rfl
  exact keeps_of

end Gateway.Config

/-! ### The agent -/

namespace Agent.Config

theorem General.keeps : General.form.Keeps Value.IsSection fun _ => {} := by
  refine Fields.keeps_section ?_ (by decide) (by decide)
  refine .member <| .member <| .member <| .of fun table => ?_
  intro deviceId hdeviceId secret hsecret logLevel hlogLevel
  refine .member ?_ keeps_text hlogLevel rfl
  refine .member ?_ keeps_text hsecret rfl
  refine .member ?_ keeps_text hdeviceId rfl
  exact keeps_of

theorem Network.keeps : Network.form.Keeps Value.IsSection fun _ => {} := by
  refine Fields.keeps_section ?_ (by decide) (by decide)
  refine .member <| .member <| .member <| .member <| .member <| .member <| .member <|
    .of fun table => ?_
  intro controller hcontroller knock hknock tls htls bind hbind reply hreply settle hsettle
    connect hconnect
  refine .member ?_ (keeps_count (by decide)) hconnect rfl
  refine .member ?_ (keeps_count (by decide)) hsettle rfl
  refine .member ?_ (keeps_count (by decide)) hreply rfl
  refine .member ?_ keeps_quad hbind rfl
  refine .member ?_ keeps_quad htls rfl
  refine .member ?_ keeps_quad hknock rfl
  refine .member ?_ (keeps_optional Form.isPlain_address) hcontroller rfl
  exact keeps_of

theorem Tls.keeps : Tls.form.Keeps Value.IsSection fun _ => {} := by
  refine Fields.keeps_section ?_ (by decide) (by decide)
  refine .member <| .member <| .member <| .member <| .member <| .member <| .of fun table => ?_
  intro certPath hcertPath keyPath hkeyPath serverName hserverName authority hauthority
    fingerprint hfingerprint timeout htimeout
  refine .member ?_ (keeps_count (by decide)) htimeout rfl
  refine .member ?_ (keeps_optional Form.isPlain_text) hfingerprint rfl
  refine .member ?_ (keeps_optional Form.isPlain_text) hauthority rfl
  refine .member ?_ keeps_text hserverName rfl
  refine .member ?_ keeps_text hkeyPath rfl
  refine .member ?_ keeps_text hcertPath rfl
  exact keeps_of

theorem keepsFile : form.KeepsFile fun _ => {} := by
  refine Fields.keepsFile ?_ (by decide) (by decide)
  refine .member <| .member <| .member <| .of fun table => ?_
  intro general hgeneral network hnetwork tls htls
  refine .member ?_ (Settings.keeps_part Tls.keeps rfl) htls rfl
  refine .member ?_ (Settings.keeps_part Network.keeps rfl) hnetwork rfl
  refine .member ?_ (Settings.keeps_part General.keeps rfl) hgeneral rfl
  exact keeps_of

end Agent.Config

/-! ### Saving and loading -/

namespace Settings

/-- Settings that were read from a text are saved as a text that they are read from again. Where
the first text says nothing, the second has what is saved for `least`, whose members are left out
or have their own values. -/
structure Reloaded {α : Type} (form : Form α) (least a : α) (text saved : String) : Prop where
  written : write form a = .ok saved
  read : read form saved = .ok a
  completed : ∃ short, write form least = .ok short ∧ Settings.read form short = .ok least ∧
    ∀ place, Toml.lacks text place → Toml.at? saved place = Toml.at? short place

theorem exists_file {α : Type} {form : Form α} {text : String} {a : α}
    (h : read form text = .ok a) :
    ∃ file, Toml.parse? text = some file ∧ form.read? (.table file) = some a := by
  unfold read at h
  split at h
  · cases h
    exact Option.bind_eq_some_iff.mp ‹_›
  · cases h

theorem exists_saved {α : Type} {form : Form α} {a : α} {file : Toml.Table}
    (h : form.StandsAsFile a file) :
    ∃ saved, write form a = .ok saved ∧ read form saved = .ok a ∧
      ∀ place, place ≠ [] → Toml.at? saved place = (Value.table file).at? place := by
  obtain ⟨file', hparse, hsame⟩ := Toml.exists_parse?_write h.isFile
  refine ⟨Toml.write file, by simp [write, h.written], ?_, fun place hplace => ?_⟩
  · simp [read, hparse, h.read file' hsame]
  · simp [Toml.at?, hparse, Value.at?_congr hsame hplace]

theorem exists_reloaded {α : Type} {form : Form α} {least : α → α} {text : String} {a : α}
    (h : form.KeepsFile least) (hread : read form text = .ok a) :
    ∃ saved, Reloaded form (least a) a text saved := by
  obtain ⟨file, hparse, hfile⟩ := exists_file hread
  obtain ⟨full, short, hfull, hshort, hplaces⟩ := h (.table file) a hfile
  obtain ⟨saved, hsaved, hagain, hat⟩ := exists_saved hfull
  obtain ⟨spare, hspare, hown, hatSpare⟩ := exists_saved hshort
  refine ⟨saved, hsaved, hagain, spare, hspare, hown, fun place hlacks => ?_⟩
  have hmissing : (Value.table file).lacks place := by simpa [Toml.lacks, hparse] using hlacks
  have hplace : place ≠ [] := by
    rintro rfl
    exact Bool.false_ne_true hmissing
  rw [hat place hplace, hatSpare place hplace, hplaces place hmissing]

/-- Settings that have been read are saved, and what is saved is read as the same settings. -/
theorem saved_settings_are_reloaded :
    (∀ text c, read Controller.Config.form text = .ok c →
      ∃ saved, Reloaded Controller.Config.form c.least c text saved) ∧
    (∀ text c, read Gateway.Config.form text = .ok c →
      ∃ saved, Reloaded Gateway.Config.form c.least c text saved) ∧
    (∀ text c, read Agent.Config.form text = .ok c →
      ∃ saved, Reloaded Agent.Config.form {} c text saved) :=
  ⟨fun _ _ h => exists_reloaded Controller.Config.keepsFile h,
    fun _ _ h => exists_reloaded Gateway.Config.keepsFile h,
    fun _ _ h => exists_reloaded Agent.Config.keepsFile h⟩

theorem saved_settings_are_reloaded_of_texts :
    (∃ saved, Reloaded Controller.Config.form {} { security := { tokenTtl := 60 } }
      "[security]\ntoken_ttl_secs = 60\n" saved) ∧
    (∃ saved, Reloaded Gateway.Config.form
      { devices := [⟨"a", "00", none, none, []⟩, ⟨"b", "11", none, none, []⟩] }
      { devices := [⟨"a", "00", none, some "c", []⟩, ⟨"b", "11", some "22", none, ["ssh"]⟩] }
      ("[[devices]]\ndevice_id = 'a'\nknock_secret_hex = '00'\ncommon_name = 'c'\n" ++
        "[[devices]]\ndevice_id = 'b'\nknock_secret_hex = '11'\nservices = ['ssh']\n" ++
        "cert_fingerprint = '22'\n") saved) ∧
    (∃ saved, Reloaded Agent.Config.form {}
      { network := { controller := some (.quad 10 0 0 1 8080) } }
      "[network]\ncontroller = '10.0.0.1:8080'\n" saved) :=
  ⟨saved_settings_are_reloaded.1 _ { security := { tokenTtl := 60 } } (by decide +kernel),
    saved_settings_are_reloaded.2.1 _
      { devices := [⟨"a", "00", none, some "c", []⟩, ⟨"b", "11", some "22", none, ["ssh"]⟩] }
      (by decide +kernel),
    saved_settings_are_reloaded.2.2 _ { network := { controller := some (.quad 10 0 0 1 8080) } }
      (by decide +kernel)⟩

end Settings

end Perimeter
