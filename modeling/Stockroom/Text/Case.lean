import Stockroom.Text.Basic

/-!
Letters in lower case, one for one, by Unicode 17.

Main definitions: `LowerRun`, `lowerRuns`, `lowerChar`, `Text.lower`.
-/
namespace Stockroom
set_option autoImplicit false
set_option maxRecDepth 4000

/-- A run of upper-case letters: its first and last code point, the distance to the lower-case
letters, and whether every letter belongs to it or every other one. -/
structure LowerRun where
  first : Nat
  last : Nat
  distance : Int
  step : Nat

/-- The upper-case letters, in increasing order. -/
def lowerRuns : List LowerRun :=
  [
    ⟨65, 90, 32, 1⟩, ⟨192, 214, 32, 1⟩, ⟨216, 222, 32, 1⟩, ⟨256, 302, 1, 2⟩, ⟨304, 304, -199, 1⟩,
    ⟨306, 310, 1, 2⟩, ⟨313, 327, 1, 2⟩, ⟨330, 374, 1, 2⟩, ⟨376, 376, -121, 1⟩, ⟨377, 381, 1, 2⟩,
    ⟨385, 385, 210, 1⟩, ⟨386, 388, 1, 2⟩, ⟨390, 390, 206, 1⟩, ⟨391, 391, 1, 1⟩, ⟨393, 394, 205, 1⟩,
    ⟨395, 395, 1, 1⟩, ⟨398, 398, 79, 1⟩, ⟨399, 399, 202, 1⟩, ⟨400, 400, 203, 1⟩, ⟨401, 401, 1, 1⟩,
    ⟨403, 403, 205, 1⟩, ⟨404, 404, 207, 1⟩, ⟨406, 406, 211, 1⟩, ⟨407, 407, 209, 1⟩,
    ⟨408, 408, 1, 1⟩, ⟨412, 412, 211, 1⟩, ⟨413, 413, 213, 1⟩, ⟨415, 415, 214, 1⟩, ⟨416, 420, 1, 2⟩,
    ⟨422, 422, 218, 1⟩, ⟨423, 423, 1, 1⟩, ⟨425, 425, 218, 1⟩, ⟨428, 428, 1, 1⟩, ⟨430, 430, 218, 1⟩,
    ⟨431, 431, 1, 1⟩, ⟨433, 434, 217, 1⟩, ⟨435, 437, 1, 2⟩, ⟨439, 439, 219, 1⟩, ⟨440, 440, 1, 1⟩,
    ⟨444, 444, 1, 1⟩, ⟨452, 452, 2, 1⟩, ⟨453, 453, 1, 1⟩, ⟨455, 455, 2, 1⟩, ⟨456, 456, 1, 1⟩,
    ⟨458, 458, 2, 1⟩, ⟨459, 475, 1, 2⟩, ⟨478, 494, 1, 2⟩, ⟨497, 497, 2, 1⟩, ⟨498, 500, 1, 2⟩,
    ⟨502, 502, -97, 1⟩, ⟨503, 503, -56, 1⟩, ⟨504, 542, 1, 2⟩, ⟨544, 544, -130, 1⟩,
    ⟨546, 562, 1, 2⟩, ⟨570, 570, 10795, 1⟩, ⟨571, 571, 1, 1⟩, ⟨573, 573, -163, 1⟩,
    ⟨574, 574, 10792, 1⟩, ⟨577, 577, 1, 1⟩, ⟨579, 579, -195, 1⟩, ⟨580, 580, 69, 1⟩,
    ⟨581, 581, 71, 1⟩, ⟨582, 590, 1, 2⟩, ⟨880, 882, 1, 2⟩, ⟨886, 886, 1, 1⟩, ⟨895, 895, 116, 1⟩,
    ⟨902, 902, 38, 1⟩, ⟨904, 906, 37, 1⟩, ⟨908, 908, 64, 1⟩, ⟨910, 911, 63, 1⟩, ⟨913, 929, 32, 1⟩,
    ⟨931, 939, 32, 1⟩, ⟨975, 975, 8, 1⟩, ⟨984, 1006, 1, 2⟩, ⟨1012, 1012, -60, 1⟩,
    ⟨1015, 1015, 1, 1⟩, ⟨1017, 1017, -7, 1⟩, ⟨1018, 1018, 1, 1⟩, ⟨1021, 1023, -130, 1⟩,
    ⟨1024, 1039, 80, 1⟩, ⟨1040, 1071, 32, 1⟩, ⟨1120, 1152, 1, 2⟩, ⟨1162, 1214, 1, 2⟩,
    ⟨1216, 1216, 15, 1⟩, ⟨1217, 1229, 1, 2⟩, ⟨1232, 1326, 1, 2⟩, ⟨1329, 1366, 48, 1⟩,
    ⟨4256, 4293, 7264, 1⟩, ⟨4295, 4295, 7264, 1⟩, ⟨4301, 4301, 7264, 1⟩, ⟨5024, 5103, 38864, 1⟩,
    ⟨5104, 5109, 8, 1⟩, ⟨7305, 7305, 1, 1⟩, ⟨7312, 7354, -3008, 1⟩, ⟨7357, 7359, -3008, 1⟩,
    ⟨7680, 7828, 1, 2⟩, ⟨7838, 7838, -7615, 1⟩, ⟨7840, 7934, 1, 2⟩, ⟨7944, 7951, -8, 1⟩,
    ⟨7960, 7965, -8, 1⟩, ⟨7976, 7983, -8, 1⟩, ⟨7992, 7999, -8, 1⟩, ⟨8008, 8013, -8, 1⟩,
    ⟨8025, 8031, -8, 2⟩, ⟨8040, 8047, -8, 1⟩, ⟨8072, 8079, -8, 1⟩, ⟨8088, 8095, -8, 1⟩,
    ⟨8104, 8111, -8, 1⟩, ⟨8120, 8121, -8, 1⟩, ⟨8122, 8123, -74, 1⟩, ⟨8124, 8124, -9, 1⟩,
    ⟨8136, 8139, -86, 1⟩, ⟨8140, 8140, -9, 1⟩, ⟨8152, 8153, -8, 1⟩, ⟨8154, 8155, -100, 1⟩,
    ⟨8168, 8169, -8, 1⟩, ⟨8170, 8171, -112, 1⟩, ⟨8172, 8172, -7, 1⟩, ⟨8184, 8185, -128, 1⟩,
    ⟨8186, 8187, -126, 1⟩, ⟨8188, 8188, -9, 1⟩, ⟨8486, 8486, -7517, 1⟩, ⟨8490, 8490, -8383, 1⟩,
    ⟨8491, 8491, -8262, 1⟩, ⟨8498, 8498, 28, 1⟩, ⟨8544, 8559, 16, 1⟩, ⟨8579, 8579, 1, 1⟩,
    ⟨9398, 9423, 26, 1⟩, ⟨11264, 11311, 48, 1⟩, ⟨11360, 11360, 1, 1⟩, ⟨11362, 11362, -10743, 1⟩,
    ⟨11363, 11363, -3814, 1⟩, ⟨11364, 11364, -10727, 1⟩, ⟨11367, 11371, 1, 2⟩,
    ⟨11373, 11373, -10780, 1⟩, ⟨11374, 11374, -10749, 1⟩, ⟨11375, 11375, -10783, 1⟩,
    ⟨11376, 11376, -10782, 1⟩, ⟨11378, 11378, 1, 1⟩, ⟨11381, 11381, 1, 1⟩,
    ⟨11390, 11391, -10815, 1⟩, ⟨11392, 11490, 1, 2⟩, ⟨11499, 11501, 1, 2⟩, ⟨11506, 11506, 1, 1⟩,
    ⟨42560, 42604, 1, 2⟩, ⟨42624, 42650, 1, 2⟩, ⟨42786, 42798, 1, 2⟩, ⟨42802, 42862, 1, 2⟩,
    ⟨42873, 42875, 1, 2⟩, ⟨42877, 42877, -35332, 1⟩, ⟨42878, 42886, 1, 2⟩, ⟨42891, 42891, 1, 1⟩,
    ⟨42893, 42893, -42280, 1⟩, ⟨42896, 42898, 1, 2⟩, ⟨42902, 42920, 1, 2⟩,
    ⟨42922, 42922, -42308, 1⟩, ⟨42923, 42923, -42319, 1⟩, ⟨42924, 42924, -42315, 1⟩,
    ⟨42925, 42925, -42305, 1⟩, ⟨42926, 42926, -42308, 1⟩, ⟨42928, 42928, -42258, 1⟩,
    ⟨42929, 42929, -42282, 1⟩, ⟨42930, 42930, -42261, 1⟩, ⟨42931, 42931, 928, 1⟩,
    ⟨42932, 42946, 1, 2⟩, ⟨42948, 42948, -48, 1⟩, ⟨42949, 42949, -42307, 1⟩,
    ⟨42950, 42950, -35384, 1⟩, ⟨42951, 42953, 1, 2⟩, ⟨42955, 42955, -42343, 1⟩,
    ⟨42956, 42970, 1, 2⟩, ⟨42972, 42972, -42561, 1⟩, ⟨42997, 42997, 1, 1⟩, ⟨65313, 65338, 32, 1⟩,
    ⟨66560, 66599, 40, 1⟩, ⟨66736, 66771, 40, 1⟩, ⟨66928, 66938, 39, 1⟩, ⟨66940, 66954, 39, 1⟩,
    ⟨66956, 66962, 39, 1⟩, ⟨66964, 66965, 39, 1⟩, ⟨68736, 68786, 64, 1⟩, ⟨68944, 68965, 32, 1⟩,
    ⟨71840, 71871, 32, 1⟩, ⟨93760, 93791, 32, 1⟩, ⟨93856, 93880, 27, 1⟩, ⟨125184, 125217, 34, 1⟩]

/-- Whether a run of upper-case letters holds a code point. -/
def LowerRun.holds (r : LowerRun) (n : Nat) : Bool :=
  r.first ≤ n && n ≤ r.last && (n - r.first) % r.step == 0

/-- The lower-case letter of a character, or the character itself. -/
def lowerChar (c : Char) : Char :=
  if c.toNat < 0xC0 then c.toLower
  else match lowerRuns.find? (·.holds c.toNat) with
    | some r => Char.ofNat (c.toNat + r.distance).toNat
    | none => c

/-- A text in lower case. Stray bytes become U+FFFD. -/
def Text.lower (t : Text) : Text := Text.ofChars (t.toChars.map lowerChar)

end Stockroom
