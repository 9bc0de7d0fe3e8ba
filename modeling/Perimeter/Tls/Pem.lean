import Perimeter.Base64
import Perimeter.File
import Perimeter.Text.Quoted
import Perimeter.Text.Utf8

/-!
# `Perimeter.Tls.Pem`: certificates and keys in files

A file holds sections between a line that begins one and a line that ends it, both
with the same label:

    -----BEGIN CERTIFICATE-----
    MIIB…
    -----END CERTIFICATE-----

Lines outside sections are passed over, and so are sections whose label is unknown.
A line that begins a section inside another gives the section a new label and drops
none of its letters.

A certificate file must be sound from end to end. A key file is read up to its first
key.

* `lines_flatten`: no octet of a file is lost between its lines.
-/

set_option autoImplicit false

namespace Perimeter.Tls.Pem

/-- What is wrong with the sections of a file. -/
inductive Fault where
  /-- A line begins like the first of a section but does not end like one. -/
  | illegalStart (line : Bytes)
  | missingEnd (label : Bytes)
  | base64 (cause : Base64.Error)
deriving DecidableEq

/-- The text that octets of a file are shown as. -/
def shown (bs : Bytes) : String := (Text.ofUtf8? bs).getD (Text.ofAscii bs)

/-- The fault in words. -/
def Fault.message : Fault → String
  | .illegalStart line => s!"illegal section start: {Text.quoted (shown line)}"
  | .missingEnd label => s!"section end {Text.quoted (shown label)} missing"
  | .base64 cause => cause.message

/-- Whether an octet ends a line. -/
def endsLine (b : UInt8) : Bool := b = 0x0A || b = 0x0D

/-- The lines of a file, each with the octet that ends it. -/
def lines : Bytes → List Bytes
  | [] => []
  | b :: rest =>
    if endsLine b then [b] :: lines rest
    else match lines rest with
      | [] => [[b]]
      | line :: more => (b :: line) :: more

theorem lines_flatten (bs : Bytes) : (lines bs).flatten = bs := by
  induction bs with
  | nil => rfl
  | cons b rest ih =>
    rw [lines]
    split
    · simp [ih]
    · split <;> simp_all

/-- What the line that begins a section starts with. -/
def beginMark : Bytes := Text.utf8 "-----BEGIN "

/-- What the line that ends a section starts with, up to the label. -/
def endMark : Bytes := Text.utf8 "-----END "

/-- The dashes after a label. -/
def dashes : Bytes := Text.utf8 "-----"

/-- The dash. -/
def dash : UInt8 := 0x2D

/-- Whether an octet may follow the dashes at the end of a line. -/
def isFiller (b : UInt8) : Bool := b = 0x20 || endsLine b

/-- The label in a line that begins a section: what is left when the mark in front and
the five dashes at the end are gone. Blanks and line ends may stand between and after
those dashes. -/
def label? (line : Bytes) : Option Bytes :=
  let backwards := line.reverse
  let trailer := backwards.takeWhile fun b => b = dash || isFiller b
  if trailer.count dash = 5 then
    let upToDashes := line.length - trailer.length +
      (trailer.reverse.takeWhile isFiller).length
    some ((line.take upToDashes).drop beginMark.length)
  else none

/-- The sections that are read. -/
inductive Label where
  | certificate
  | pkcs8Key
  | pkcs1Key
  | sec1Key
  /-- Known, but neither a certificate nor a private key. -/
  | other
deriving DecidableEq

/-- The labels that are known, as they are written. -/
def knownLabels : List (String × Label) :=
  [("CERTIFICATE", .certificate), ("PRIVATE KEY", .pkcs8Key), ("RSA PRIVATE KEY", .pkcs1Key),
   ("EC PRIVATE KEY", .sec1Key), ("PUBLIC KEY", .other), ("X509 CRL", .other),
   ("CERTIFICATE REQUEST", .other)]

/-- What a written label stands for. -/
def Label.ofBytes? (written : Bytes) : Option Label :=
  (knownLabels.find? fun l => Text.utf8 l.1 = written).map (·.2)

/-- A section that was read. -/
structure Section where
  label : Label
  content : Bytes
deriving DecidableEq

/-- Reads the sections in some lines, up to the first fault. `current` is the label of
the section that is open, and `letters` are those read so far. -/
def readLines (current : Option Bytes) (letters : Bytes) :
    List Bytes → List Section × Option Fault
  | [] => ([], current.map .missingEnd)
  | line :: rest =>
    if beginMark.isPrefixOf line then
      match label? line with
      | none => ([], some (.illegalStart line))
      -- The letters of a section that has not ended stay.
      | some label => readLines (some label) letters rest
    else match current with
      | none => readLines none letters rest
      | some written =>
        if (endMark ++ written ++ dashes).isPrefixOf line then
          match Label.ofBytes? written with
          -- What a label unknown here means is not known either: its letters need not be sound.
          | none => readLines none [] rest
          | some label => match Base64.decode letters with
            | .error cause => ([], some (.base64 cause))
            | .ok content =>
              let (sections, fault) := readLines none [] rest
              (⟨label, content⟩ :: sections, fault)
        else readLines current (letters ++ line) rest

/-- The sections of a file, up to the first fault. -/
def sections (file : Bytes) : List Section × Option Fault := readLines none [] (lines file)

/-- Why material cannot be loaded. -/
inductive Error where
  | unreadable (path : String) (cause : FileFault)
  | faulty (path : String) (cause : Fault)
  | noCertificates (path : String)
  | noPrivateKey (path : String)
deriving DecidableEq

/-- The error in words. -/
def Error.message : Error → String
  | .unreadable path cause => s!"failed to read {path}: {cause.message}"
  | .faulty path cause => s!"failed to read {path}: {cause.message}"
  | .noCertificates path => s!"no certificates found in {path}"
  | .noPrivateKey path => s!"no private key found in {path}"

/-- The certificates in a file, of which there must be one at least. -/
def certificates (path : String) (file : FileContent) : Except Error (List Bytes) := do
  let (read, fault) := sections (← file.mapError (.unreadable path))
  match fault with
  | some cause => throw (.faulty path cause)
  | none =>
    let certs := (read.filter (·.label = .certificate)).map (·.content)
    if certs.isEmpty then throw (.noCertificates path)
    return certs

/-- Whether a section holds a private key. -/
def Section.isKey (s : Section) : Bool :=
  s.label = .pkcs8Key || s.label = .pkcs1Key || s.label = .sec1Key

/-- The first private key in a file. -/
def privateKey (path : String) (file : FileContent) : Except Error Section := do
  let (read, fault) := sections (← file.mapError (.unreadable path))
  match read.find? (·.isKey), fault with
  | some key, _ => return key
  | none, some cause => throw (.faulty path cause)
  | none, none => throw (.noPrivateKey path)

end Perimeter.Tls.Pem
