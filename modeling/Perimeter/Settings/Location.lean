import Perimeter.Settings.Error

/-!
# `Perimeter.Settings.Location`: where configurations lie

Where no path is given, the controller's configuration lies in the user's directory
for configurations. The environment names that directory, or names the user's own
directory, of which it is a part.

* `joined_nil`: what lies in a directory without a name.
-/

set_option autoImplicit false

namespace Perimeter.Settings

/-- The path of something in a directory. -/
def joinedList (directory name : List Char) : List Char :=
  if directory.isEmpty || directory.getLast? = some '/' then directory ++ name
  else directory ++ '/' :: name

/-- The path of something in a directory. -/
def joined (directory name : String) : String :=
  String.ofList (joinedList directory.toList name.toList)

/-- The directory for configurations, given what the environment says of it and of the
user's own. -/
def directory? (configurations home : Option String) : Option String :=
  configurations <|> home.map (joined · ".config")

/-- Where the controller's configuration lies. -/
def controllerPath (configurations home : Option String) : Except Error String :=
  match directory? configurations home with
  | some directory => .ok (joined (joined directory "sdp") "controller.toml")
  | none => .error .noPlatformDirectory

theorem joined_nil (name : List Char) : joinedList [] name = name := rfl

end Perimeter.Settings
