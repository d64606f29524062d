import Stockroom.Text.Basic

/-!
The media type of a file, judged by its first bytes: by signatures of known formats, else by whether
it holds control characters that no text has.

Main definitions: `Signature`, `signatures`, `sniff`.
-/
namespace Stockroom
set_option autoImplicit false

/-- How many bytes are looked at. -/
def sniffLength : Nat := 512

/-- The bytes a format starts with; any byte may stand where none is given. -/
structure Signature where
  pattern : List (Option UInt8)
  /-- Whether white space may come before. -/
  afterSpace : Bool := false
  media : String

/-- White space before markup. -/
def isMarkupSpace (b : UInt8) : Bool := b == 9 || b == 10 || b == 12 || b == 13 || b == 32

/-- Whether bytes start with a pattern. -/
def fitsPattern : List (Option UInt8) → List UInt8 → Bool
  | [], _ => true
  | _ :: _, [] => false
  | none :: ps, _ :: bs => fitsPattern ps bs
  | some p :: ps, b :: bs => p == b && fitsPattern ps bs

def Signature.fits (s : Signature) (bytes : List UInt8) : Bool :=
  fitsPattern s.pattern (if s.afterSpace then bytes.dropWhile isMarkupSpace else bytes)

/-! ## Markup -/

/-- The tags that start a page. -/
def pageTags : List String :=
  ["<!DOCTYPE HTML", "<HTML", "<HEAD", "<SCRIPT", "<IFRAME", "<H1", "<DIV", "<FONT", "<TABLE", "<A",
    "<STYLE", "<TITLE", "<B", "<BODY", "<BR", "<P", "<!--"]

/-- A byte with its case removed when it is compared to a letter. -/
def upperByte (b : UInt8) : UInt8 := b &&& 0xDF

/-- Whether bytes start with a tag, whatever its case, and then a space or a bracket. -/
def fitsTag : List Char → List UInt8 → Bool
  | _, [] => false
  | [], b :: _ => b == 32 || b == 62
  | c :: cs, b :: bs =>
    (if 'A' ≤ c ∧ c ≤ 'Z' then upperByte b else b) == c.toNat.toUInt8 && fitsTag cs bs

def isPage (bytes : List UInt8) : Bool :=
  pageTags.any fun tag => fitsTag tag.toList (bytes.dropWhile isMarkupSpace)

/-! ## Signatures -/

/-- The bytes of an ASCII word. -/
def word (s : String) : List (Option UInt8) := s.toList.map fun c => some c.toNat.toUInt8

def exactly (bytes : List UInt8) : List (Option UInt8) := bytes.map some

/-- Bytes that do not matter. -/
def anyBytes (n : Nat) : List (Option UInt8) := List.replicate n none

/-- The signatures before those of films, in the order in which they are tried. -/
def earlySignatures : List Signature :=
  [⟨word "<?xml", true, "text/xml; charset=utf-8"⟩,
    ⟨word "%PDF-", false, "application/pdf"⟩,
    ⟨word "%!PS-Adobe-", false, "application/postscript"⟩,
    ⟨exactly [0xFE, 0xFF] ++ anyBytes 2, false, "text/plain; charset=utf-16be"⟩,
    ⟨exactly [0xFF, 0xFE] ++ anyBytes 2, false, "text/plain; charset=utf-16le"⟩,
    ⟨exactly [0xEF, 0xBB, 0xBF] ++ anyBytes 1, false, "text/plain; charset=utf-8"⟩,
    ⟨exactly [0, 0, 1, 0], false, "image/x-icon"⟩,
    ⟨exactly [0, 0, 2, 0], false, "image/x-icon"⟩,
    ⟨word "BM", false, "image/bmp"⟩,
    ⟨word "GIF87a", false, "image/gif"⟩,
    ⟨word "GIF89a", false, "image/gif"⟩,
    ⟨word "RIFF" ++ anyBytes 4 ++ word "WEBPVP", false, "image/webp"⟩,
    ⟨exactly [0x89, 0x50, 0x4E, 0x47, 0x0D, 0x0A, 0x1A, 0x0A], false, "image/png"⟩,
    ⟨exactly [0xFF, 0xD8, 0xFF], false, "image/jpeg"⟩,
    ⟨word "FORM" ++ anyBytes 4 ++ word "AIFF", false, "audio/aiff"⟩,
    ⟨word "ID3", false, "audio/mpeg"⟩,
    ⟨word "OggS" ++ exactly [0], false, "application/ogg"⟩,
    ⟨word "MThd" ++ exactly [0, 0, 0, 6], false, "audio/midi"⟩,
    ⟨word "RIFF" ++ anyBytes 4 ++ word "AVI ", false, "video/avi"⟩,
    ⟨word "RIFF" ++ anyBytes 4 ++ word "WAVE", false, "audio/wave"⟩]

/-- The signatures after those of films. -/
def lateSignatures : List Signature :=
  [⟨exactly [0x1A, 0x45, 0xDF, 0xA3], false, "video/webm"⟩,
    ⟨anyBytes 34 ++ word "LP", false, "application/vnd.ms-fontobject"⟩,
    ⟨exactly [0, 1, 0, 0], false, "font/ttf"⟩,
    ⟨word "OTTO", false, "font/otf"⟩,
    ⟨word "ttcf", false, "font/collection"⟩,
    ⟨word "wOFF", false, "font/woff"⟩,
    ⟨word "wOF2", false, "font/woff2"⟩,
    ⟨exactly [0x1F, 0x8B, 0x08], false, "application/x-gzip"⟩,
    ⟨word "PK" ++ exactly [3, 4], false, "application/zip"⟩,
    ⟨word "Rar!" ++ exactly [0x1A, 7, 0], false, "application/x-rar-compressed"⟩,
    ⟨word "Rar!" ++ exactly [0x1A, 7, 1, 0], false, "application/x-rar-compressed"⟩,
    ⟨exactly [0, 0x61, 0x73, 0x6D], false, "application/wasm"⟩]

/-- Whether one of the brands of a film's first box, in groups of four bytes, starts with `mp4`; the
second group is a version and no brand. -/
def isFilm (bytes : List UInt8) : Bool :=
  let size := (bytes.take 4).foldl (fun n b => n * 256 + b.toNat) 0
  12 ≤ bytes.length && size ≤ bytes.length && size % 4 == 0 &&
    fitsPattern (anyBytes 4 ++ word "ftyp") bytes &&
    (List.range (size / 4)).any fun i =>
      i != 0 && i != 1 && i != 3 && fitsPattern (word "mp4") (bytes.drop (4 * i))

/-- Whether a byte stands in no text. -/
def isBinary (b : UInt8) : Bool :=
  b ≤ 0x08 || b == 0x0B || (0x0E ≤ b && b ≤ 0x1A) || (0x1C ≤ b && b ≤ 0x1F)

/-- The media type of a file with these first bytes. -/
def sniff (content : List UInt8) : Text :=
  let bytes := content.take sniffLength
  if isPage bytes then "text/html; charset=utf-8"
  else match earlySignatures.find? (·.fits bytes) with
    | some s => Text.ofString s.media
    | none =>
      if isFilm bytes then "video/mp4"
      else match lateSignatures.find? (·.fits bytes) with
        | some s => Text.ofString s.media
        | none =>
          if bytes.any isBinary then "application/octet-stream" else "text/plain; charset=utf-8"

end Stockroom
