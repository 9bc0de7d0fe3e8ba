import Perimeter.Settings.Error
import Perimeter.Settings.Form
import Perimeter.Text.Utf8
import Perimeter.Toml.Document
import Perimeter.Toml.Written

/-!
# `Perimeter.Settings.Storage`: settings in files

Settings are read from the text of a file and written as one. A file that is not there
may stand for settings that nobody has changed. Before settings are written, the
directory that they go to is made.

* `read_write`: settings are read again if the reader undoes the writer.
-/

set_option autoImplicit false

namespace Perimeter.Settings

variable {α : Type}

/-- Reads settings from a text. -/
def read (form : Form α) (text : String) : Except Error α :=
  match (Toml.parse? text).bind fun table => form.read? (.table table) with
  | some settings => .ok settings
  | none => .error .unreadable

/-- Writes settings as a text. -/
def write (form : Form α) (settings : α) : Except Error String :=
  match form.write? settings with
  | some (.table table) => .ok (Toml.write table)
  | _ => .error .unwritable

/-- Reads settings from a file. A missing file stands for `absent`, if there is such. -/
def load (form : Form α) (absent : Option α) (path : String) : FileContent → Except Error α
  | .ok content => match Text.ofUtf8? content with
    | some text => read form text
    | none => .error (.file path .notText)
  | .error fault => match fault, absent with
    | .notFound, some settings => .ok settings
    | _, _ => .error (.file path fault)

/-- The text to be written to a file in a directory, given what has come of making the
directory. -/
def save (form : Form α) (settings : α) (directory : String) (made : Except FileFault Unit) :
    Except Error String :=
  match made with
  | .error fault => .error (.file directory fault)
  | .ok () => write form settings

theorem read_write {form : Form α} {settings : α} {table : Toml.Table}
    (hwrite : form.write? settings = some (.table table))
    (hparse : Toml.parse? (Toml.write table) = some table)
    (hread : form.read? (.table table) = some settings) :
    (write form settings).bind (read form) = .ok settings := by
  simp [write, read, hwrite, hparse, hread, Except.bind]

end Perimeter.Settings
