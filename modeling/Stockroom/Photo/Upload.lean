import Stockroom.Number.Binary64
import Stockroom.Photo.Sniff

/-!
Photos of branches. An upload must not be too large, must look like one of three formats and must
hold a complete picture, which is scaled down to fit a frame and kept as a JPEG.

Main definitions: `Picture`, `Upload`, `fitFrame`, `UploadError`, `Upload.process`.
-/
namespace Stockroom
set_option autoImplicit false

/-- The size of a picture. -/
structure Picture where
  width : Nat
  height : Nat
  deriving DecidableEq, Repr

/-- A file that was sent: its first bytes, its size, and the picture it holds if it is complete. -/
structure Upload where
  head : List UInt8
  size : Nat
  picture : Option Picture := none
  deriving DecidableEq, Repr

/-- A file of the given bytes, which are no complete picture. -/
def Upload.ofBytes (bytes : List UInt8) : Upload := { head := bytes.take sniffLength, size := bytes.length }

/-- The greatest size of an upload, in bytes. -/
def maxUploadSize : Nat := 10485760

def frameWidth : Nat := 1600
def frameHeight : Nat := 900

/-- The media types that are taken. -/
def photoTypes : List String := ["image/jpeg", "image/png", "image/webp"]

/-- The media type of a kept photo. -/
def keptPhotoType : Text := "image/jpeg"

/-- Whether one positive value is at most another. -/
def Binary64.atMost (x y : Binary64) : Bool :=
  let (a, b) := x.ratio
  let (c, d) := y.ratio
  a * d ≤ c * b

/-- A length scaled down, at least one. -/
def scaleLength (length : Nat) (scale : Binary64) : Nat :=
  match scale.mulInt length with
  | some x => max 1 x.truncate.toNat
  | none => 1

/-- A picture scaled down to fit the frame, in double precision. -/
def fitFrame (p : Picture) : Picture :=
  if p.width ≤ frameWidth ∧ p.height ≤ frameHeight then p
  else
    let across := (Binary64.ofRatio false frameWidth p.width).getD .zero
    let down := (Binary64.ofRatio false frameHeight p.height).getD .zero
    let scale := if across.atMost down then across else down
    ⟨scaleLength p.width scale, scaleLength p.height scale⟩

/-- Why an upload is refused. -/
inductive UploadError where
  | tooLarge
  | unsupported (media : Text)
  | undecodable
  deriving DecidableEq, Repr

def UploadError.message : UploadError → Text
  | .tooLarge => "image too large"
  | .unsupported media => "unsupported image format: " ++ media
  | .undecodable => "decoding image"

/-- The picture that is kept of an upload. -/
def Upload.process (u : Upload) : Except UploadError Picture :=
  if maxUploadSize < u.size then .error .tooLarge
  else
    let media := sniff u.head
    if photoTypes.all fun t => media ≠ Text.ofString t then .error (.unsupported media)
    else match u.picture with
      | some p => .ok (fitFrame p)
      | none => .error .undecodable

/-! ## Blank pictures -/

/-- The formats a blank picture can be written in. -/
inductive PictureFormat where
  | png
  | jpeg
  | gif
  deriving DecidableEq, Repr

/-- The bytes a picture of a format starts with. -/
def PictureFormat.start : PictureFormat → List UInt8
  | .png => [0x89, 0x50, 0x4E, 0x47, 0x0D, 0x0A, 0x1A, 0x0A]
  | .jpeg => [0xFF, 0xD8, 0xFF]
  | .gif => [0x47, 0x49, 0x46, 0x38, 0x39, 0x61]

/-- A picture as it is sent, cut off after some bytes unless that number is zero. -/
def Upload.ofPicture (format : PictureFormat) (p : Picture) (cut : Nat) : Upload :=
  if cut = 0 then ⟨format.start, 1024, some p⟩ else ⟨format.start.take cut, cut, none⟩

end Stockroom
