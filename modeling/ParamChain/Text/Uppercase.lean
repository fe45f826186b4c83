import ParamChain.Text.Ranges

/-
This file holds the upper-case characters: the Unicode property `Uppercase`, which tells a type
name from a module name. Title-case letters do not have it.
-/

namespace ParamChain.Text

/-- Runs of upper-case letters beyond ASCII. -/
def upperRuns : List (Nat × Nat) := [
  (192, 214), (216, 222), (376, 377), (379, 379), (381, 381), (385, 386), (388, 388), (390, 391),
  (393, 395), (398, 401), (403, 404), (406, 408), (412, 413), (415, 416), (418, 418), (420, 420),
  (422, 423), (425, 425), (428, 428), (430, 431), (433, 435), (437, 437), (439, 440), (444, 444),
  (452, 452), (455, 455), (458, 458), (497, 497), (500, 500), (502, 504), (570, 571), (573, 574),
  (577, 577), (579, 582), (880, 880), (882, 882), (886, 886), (895, 895), (902, 902), (904, 906),
  (908, 908), (910, 911), (913, 929), (931, 939), (975, 975), (978, 980), (1012, 1012),
  (1015, 1015), (1017, 1018), (1021, 1071), (1216, 1217), (1329, 1366), (4256, 4293),
  (4295, 4295), (4301, 4301), (5024, 5109), (7312, 7354), (7357, 7359), (7944, 7951),
  (7960, 7965), (7976, 7983), (7992, 7999), (8008, 8013), (8040, 8047), (8120, 8123),
  (8136, 8139), (8152, 8155), (8168, 8172), (8184, 8187), (8450, 8450), (8455, 8455),
  (8459, 8461), (8464, 8466), (8469, 8469), (8473, 8477), (8490, 8493), (8496, 8499),
  (8510, 8511), (8517, 8517), (8544, 8559), (8579, 8579), (9398, 9423), (11264, 11311),
  (11360, 11360), (11362, 11364), (11373, 11376), (11378, 11378), (11381, 11381), (11390, 11392),
  (11499, 11499), (11501, 11501), (11506, 11506), (42873, 42873), (42875, 42875), (42877, 42878),
  (42891, 42891), (42893, 42893), (42896, 42896), (42898, 42898), (42922, 42926), (42928, 42932),
  (42948, 42951), (42953, 42953), (42960, 42960), (42966, 42966), (42968, 42968), (42997, 42997),
  (65313, 65338), (66560, 66599), (66736, 66771), (66928, 66938), (66940, 66954), (66956, 66962),
  (66964, 66965), (68736, 68786), (71840, 71871), (93760, 93791), (119808, 119833),
  (119860, 119885), (119912, 119937), (119964, 119964), (119966, 119967), (119970, 119970),
  (119973, 119974), (119977, 119980), (119982, 119989), (120016, 120041), (120068, 120069),
  (120071, 120074), (120077, 120084), (120086, 120092), (120120, 120121), (120123, 120126),
  (120128, 120132), (120134, 120134), (120138, 120144), (120172, 120197), (120224, 120249),
  (120276, 120301), (120328, 120353), (120380, 120405), (120432, 120457), (120488, 120512),
  (120546, 120570), (120604, 120628), (120662, 120686), (120720, 120744), (120778, 120778),
  (125184, 125217), (127280, 127305), (127312, 127337), (127344, 127369)]

/-- Runs in which every second letter, the first and the last among them, is upper-case. -/
def alternatingUpperRuns : List (Nat × Nat) := [
  (256, 310), (313, 327), (330, 374), (461, 475), (478, 494), (506, 562), (584, 590),
  (984, 1006), (1120, 1152), (1162, 1214), (1219, 1229), (1232, 1326), (7680, 7828),
  (7838, 7934), (8025, 8031), (8484, 8488), (11367, 11371), (11394, 11490), (42560, 42604),
  (42624, 42650), (42786, 42798), (42802, 42862), (42880, 42886), (42902, 42920), (42934, 42946)]

/-- Whether the character has the Unicode property `Uppercase`. -/
def isUppercase (c : Char) : Bool :=
  let n := c.toNat
  if n < 128 then c.isUpper
  else
    inRanges upperRuns n ||
      alternatingUpperRuns.any fun r => r.1 ≤ n && n ≤ r.2 && (n - r.1) % 2 == 0

end ParamChain.Text
