import Perimeter.Settings.Error

/-!
# `Perimeter.Settings.Secret`: the secret behind the tokens

The controller signs tokens and the gateway checks them with one secret, which both
read from the same setting in the same way: hexadecimal digits, with blanks around
them.

* `length_tokenSecret`: an accepted secret is long enough.
-/

set_option autoImplicit false

namespace Perimeter.Settings

/-- Reads the secret. -/
def tokenSecret (hex : String) : Except Cause Bytes :=
  match Hex.decode (Text.utf8 (Text.trim hex)) with
  | .error cause => .error (.tokenSecretNotHex cause)
  | .ok secret =>
    if secret.length < minTokenSecretLength then .error (.tokenSecretTooShort secret.length)
    else .ok secret

theorem length_tokenSecret {hex : String} {secret : Bytes} (h : tokenSecret hex = .ok secret) :
    minTokenSecretLength ≤ secret.length := by
  unfold tokenSecret at h
  split at h
  · cases h
  · split at h
    · cases h
    · cases h
      omega

/-- Refuses zero. -/
def checkPositive (setting : Positive) (n : UInt64) : Except Cause Unit :=
  if n = 0 then .error (.notPositive setting) else .ok ()

/-- A span that is one unit at least. -/
def atLeastOne (n : UInt64) : UInt64 := max n 1

end Perimeter.Settings
