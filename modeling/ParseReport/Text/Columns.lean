import ParseReport.Text.Ranges

/-!
How many columns of a terminal a text takes: controls and marks that combine with the character in
front of them take none, wide characters take two.
-/

namespace ParseReport

/-- The characters that take no column. -/
def columnless : Strides :=
  [(0x0, 0x1F, 1), (0x7F, 0x9F, 1), (0xAD, 0xAD, 1), (0x300, 0x36F, 1), (0x483, 0x489, 1),
   (0x591, 0x5BD, 1), (0x5BF, 0x5BF, 1), (0x5C1, 0x5C2, 1), (0x5C4, 0x5C5, 1), (0x5C7, 0x5C7, 1),
   (0x600, 0x605, 1), (0x610, 0x61A, 1), (0x61C, 0x61C, 1), (0x64B, 0x65F, 1), (0x670, 0x670, 1),
   (0x6D6, 0x6DD, 1), (0x6DF, 0x6E4, 1), (0x6E7, 0x6E8, 1), (0x6EA, 0x6ED, 1), (0x70F, 0x70F, 1),
   (0x711, 0x711, 1), (0x730, 0x74A, 1), (0x7A6, 0x7B0, 1), (0x7EB, 0x7F3, 1), (0x7FD, 0x7FD, 1),
   (0x816, 0x819, 1), (0x81B, 0x823, 1), (0x825, 0x827, 1), (0x829, 0x82D, 1), (0x859, 0x85B, 1),
   (0x890, 0x891, 1), (0x898, 0x89F, 1), (0x8CA, 0x903, 1), (0x93A, 0x93C, 1), (0x93E, 0x94F, 1),
   (0x951, 0x957, 1), (0x962, 0x963, 1), (0x981, 0x983, 1), (0x9BC, 0x9BC, 1), (0x9BE, 0x9C4, 1),
   (0x9C7, 0x9C8, 1), (0x9CB, 0x9CD, 1), (0x9D7, 0x9D7, 1), (0x9E2, 0x9E3, 1), (0x9FE, 0x9FE, 1),
   (0xA01, 0xA03, 1), (0xA3C, 0xA3C, 1), (0xA3E, 0xA42, 1), (0xA47, 0xA48, 1), (0xA4B, 0xA4D, 1),
   (0xA51, 0xA51, 1), (0xA70, 0xA71, 1), (0xA75, 0xA75, 1), (0xA81, 0xA83, 1), (0xABC, 0xABC, 1),
   (0xABE, 0xAC5, 1), (0xAC7, 0xAC9, 1), (0xACB, 0xACD, 1), (0xAE2, 0xAE3, 1), (0xAFA, 0xAFF, 1),
   (0xB01, 0xB03, 1), (0xB3C, 0xB3C, 1), (0xB3E, 0xB44, 1), (0xB47, 0xB48, 1), (0xB4B, 0xB4D, 1),
   (0xB55, 0xB57, 1), (0xB62, 0xB63, 1), (0xB82, 0xB82, 1), (0xBBE, 0xBC2, 1), (0xBC6, 0xBC8, 1),
   (0xBCA, 0xBCD, 1), (0xBD7, 0xBD7, 1), (0xC00, 0xC04, 1), (0xC3C, 0xC3C, 1), (0xC3E, 0xC44, 1),
   (0xC46, 0xC48, 1), (0xC4A, 0xC4D, 1), (0xC55, 0xC56, 1), (0xC62, 0xC63, 1), (0xC81, 0xC83, 1),
   (0xCBC, 0xCBC, 1), (0xCBE, 0xCC4, 1), (0xCC6, 0xCC8, 1), (0xCCA, 0xCCD, 1), (0xCD5, 0xCD6, 1),
   (0xCE2, 0xCE3, 1), (0xCF3, 0xCF3, 1), (0xD00, 0xD03, 1), (0xD3B, 0xD3C, 1), (0xD3E, 0xD44, 1),
   (0xD46, 0xD48, 1), (0xD4A, 0xD4D, 1), (0xD57, 0xD57, 1), (0xD62, 0xD63, 1), (0xD81, 0xD83, 1),
   (0xDCA, 0xDCA, 1), (0xDCF, 0xDD4, 1), (0xDD6, 0xDD6, 1), (0xDD8, 0xDDF, 1), (0xDF2, 0xDF3, 1),
   (0xE31, 0xE31, 1), (0xE34, 0xE3A, 1), (0xE47, 0xE4E, 1), (0xEB1, 0xEB1, 1), (0xEB4, 0xEBC, 1),
   (0xEC8, 0xECE, 1), (0xF18, 0xF19, 1), (0xF35, 0xF35, 1), (0xF37, 0xF37, 1), (0xF39, 0xF39, 1),
   (0xF3E, 0xF3F, 1), (0xF71, 0xF84, 1), (0xF86, 0xF87, 1), (0xF8D, 0xF97, 1), (0xF99, 0xFBC, 1),
   (0xFC6, 0xFC6, 1), (0x102B, 0x103E, 1), (0x1056, 0x1059, 1), (0x105E, 0x1060, 1),
   (0x1062, 0x1064, 1), (0x1067, 0x106D, 1), (0x1071, 0x1074, 1), (0x1082, 0x108D, 1),
   (0x108F, 0x108F, 1), (0x109A, 0x109D, 1), (0x1160, 0x11FF, 1), (0x135D, 0x135F, 1),
   (0x1712, 0x1715, 1), (0x1732, 0x1734, 1), (0x1752, 0x1753, 1), (0x1772, 0x1773, 1),
   (0x17B4, 0x17D3, 1), (0x17DD, 0x17DD, 1), (0x180B, 0x180F, 1), (0x1885, 0x1886, 1),
   (0x18A9, 0x18A9, 1), (0x1920, 0x192B, 1), (0x1930, 0x193B, 1), (0x1A17, 0x1A1B, 1),
   (0x1A55, 0x1A5E, 1), (0x1A60, 0x1A7C, 1), (0x1A7F, 0x1A7F, 1), (0x1AB0, 0x1ACE, 1),
   (0x1B00, 0x1B04, 1), (0x1B34, 0x1B44, 1), (0x1B6B, 0x1B73, 1), (0x1B80, 0x1B82, 1),
   (0x1BA1, 0x1BAD, 1), (0x1BE6, 0x1BF3, 1), (0x1C24, 0x1C37, 1), (0x1CD0, 0x1CD2, 1),
   (0x1CD4, 0x1CE8, 1), (0x1CED, 0x1CED, 1), (0x1CF4, 0x1CF4, 1), (0x1CF7, 0x1CF9, 1),
   (0x1DC0, 0x1DFF, 1), (0x200B, 0x200F, 1), (0x2028, 0x202E, 1), (0x2060, 0x2064, 1),
   (0x2066, 0x206F, 1), (0x20D0, 0x20F0, 1), (0x2CEF, 0x2CF1, 1), (0x2D7F, 0x2D7F, 1),
   (0x2DE0, 0x2DFF, 1), (0x302A, 0x302F, 1), (0x3099, 0x309A, 1), (0xA66F, 0xA672, 1),
   (0xA674, 0xA67D, 1), (0xA69E, 0xA69F, 1), (0xA6F0, 0xA6F1, 1), (0xA802, 0xA802, 1),
   (0xA806, 0xA806, 1), (0xA80B, 0xA80B, 1), (0xA823, 0xA827, 1), (0xA82C, 0xA82C, 1),
   (0xA880, 0xA881, 1), (0xA8B4, 0xA8C5, 1), (0xA8E0, 0xA8F1, 1), (0xA8FF, 0xA8FF, 1),
   (0xA926, 0xA92D, 1), (0xA947, 0xA953, 1), (0xA980, 0xA983, 1), (0xA9B3, 0xA9C0, 1),
   (0xA9E5, 0xA9E5, 1), (0xAA29, 0xAA36, 1), (0xAA43, 0xAA43, 1), (0xAA4C, 0xAA4D, 1),
   (0xAA7B, 0xAA7D, 1), (0xAAB0, 0xAAB0, 1), (0xAAB2, 0xAAB4, 1), (0xAAB7, 0xAAB8, 1),
   (0xAABE, 0xAABF, 1), (0xAAC1, 0xAAC1, 1), (0xAAEB, 0xAAEF, 1), (0xAAF5, 0xAAF6, 1),
   (0xABE3, 0xABEA, 1), (0xABEC, 0xABED, 1), (0xD7B0, 0xD7FF, 1), (0xFB1E, 0xFB1E, 1),
   (0xFE00, 0xFE0F, 1), (0xFE20, 0xFE2F, 1), (0xFEFF, 0xFEFF, 1), (0xFFF9, 0xFFFB, 1),
   (0x101FD, 0x101FD, 1), (0x102E0, 0x102E0, 1), (0x10376, 0x1037A, 1), (0x10A01, 0x10A03, 1),
   (0x10A05, 0x10A06, 1), (0x10A0C, 0x10A0F, 1), (0x10A38, 0x10A3A, 1), (0x10A3F, 0x10A3F, 1),
   (0x10AE5, 0x10AE6, 1), (0x10D24, 0x10D27, 1), (0x10EAB, 0x10EAC, 1), (0x10EFD, 0x10EFF, 1),
   (0x10F46, 0x10F50, 1), (0x10F82, 0x10F85, 1), (0x11000, 0x11002, 1), (0x11038, 0x11046, 1),
   (0x11070, 0x11070, 1), (0x11073, 0x11074, 1), (0x1107F, 0x11082, 1), (0x110B0, 0x110BA, 1),
   (0x110BD, 0x110BD, 1), (0x110C2, 0x110C2, 1), (0x110CD, 0x110CD, 1), (0x11100, 0x11102, 1),
   (0x11127, 0x11134, 1), (0x11145, 0x11146, 1), (0x11173, 0x11173, 1), (0x11180, 0x11182, 1),
   (0x111B3, 0x111C0, 1), (0x111C9, 0x111CC, 1), (0x111CE, 0x111CF, 1), (0x1122C, 0x11237, 1),
   (0x1123E, 0x1123E, 1), (0x11241, 0x11241, 1), (0x112DF, 0x112EA, 1), (0x11300, 0x11303, 1),
   (0x1133B, 0x1133C, 1), (0x1133E, 0x11344, 1), (0x11347, 0x11348, 1), (0x1134B, 0x1134D, 1),
   (0x11357, 0x11357, 1), (0x11362, 0x11363, 1), (0x11366, 0x1136C, 1), (0x11370, 0x11374, 1),
   (0x11435, 0x11446, 1), (0x1145E, 0x1145E, 1), (0x114B0, 0x114C3, 1), (0x115AF, 0x115B5, 1),
   (0x115B8, 0x115C0, 1), (0x115DC, 0x115DD, 1), (0x11630, 0x11640, 1), (0x116AB, 0x116B7, 1),
   (0x1171D, 0x1172B, 1), (0x1182C, 0x1183A, 1), (0x11930, 0x11935, 1), (0x11937, 0x11938, 1),
   (0x1193B, 0x1193E, 1), (0x11940, 0x11940, 1), (0x11942, 0x11943, 1), (0x119D1, 0x119D7, 1),
   (0x119DA, 0x119E0, 1), (0x119E4, 0x119E4, 1), (0x11A01, 0x11A0A, 1), (0x11A33, 0x11A39, 1),
   (0x11A3B, 0x11A3E, 1), (0x11A47, 0x11A47, 1), (0x11A51, 0x11A5B, 1), (0x11A8A, 0x11A99, 1),
   (0x11C2F, 0x11C36, 1), (0x11C38, 0x11C3F, 1), (0x11C92, 0x11CA7, 1), (0x11CA9, 0x11CB6, 1),
   (0x11D31, 0x11D36, 1), (0x11D3A, 0x11D3A, 1), (0x11D3C, 0x11D3D, 1), (0x11D3F, 0x11D45, 1),
   (0x11D47, 0x11D47, 1), (0x11D8A, 0x11D8E, 1), (0x11D90, 0x11D91, 1), (0x11D93, 0x11D97, 1),
   (0x11EF3, 0x11EF6, 1), (0x11F00, 0x11F01, 1), (0x11F03, 0x11F03, 1), (0x11F34, 0x11F3A, 1),
   (0x11F3E, 0x11F42, 1), (0x13430, 0x13440, 1), (0x13447, 0x13455, 1), (0x16AF0, 0x16AF4, 1),
   (0x16B30, 0x16B36, 1), (0x16F4F, 0x16F4F, 1), (0x16F51, 0x16F87, 1), (0x16F8F, 0x16F92, 1),
   (0x16FE4, 0x16FE4, 1), (0x16FF0, 0x16FF1, 1), (0x1BC9D, 0x1BC9E, 1), (0x1BCA0, 0x1BCA3, 1),
   (0x1CF00, 0x1CF2D, 1), (0x1CF30, 0x1CF46, 1), (0x1D165, 0x1D169, 1), (0x1D16D, 0x1D182, 1),
   (0x1D185, 0x1D18B, 1), (0x1D1AA, 0x1D1AD, 1), (0x1D242, 0x1D244, 1), (0x1DA00, 0x1DA36, 1),
   (0x1DA3B, 0x1DA6C, 1), (0x1DA75, 0x1DA75, 1), (0x1DA84, 0x1DA84, 1), (0x1DA9B, 0x1DA9F, 1),
   (0x1DAA1, 0x1DAAF, 1), (0x1E000, 0x1E006, 1), (0x1E008, 0x1E018, 1), (0x1E01B, 0x1E021, 1),
   (0x1E023, 0x1E024, 1), (0x1E026, 0x1E02A, 1), (0x1E08F, 0x1E08F, 1), (0x1E130, 0x1E136, 1),
   (0x1E2AE, 0x1E2AE, 1), (0x1E2EC, 0x1E2EF, 1), (0x1E4EC, 0x1E4EF, 1), (0x1E8D0, 0x1E8D6, 1),
   (0x1E944, 0x1E94A, 1), (0x1F3FB, 0x1F3FF, 1), (0xE0001, 0xE0001, 1), (0xE0020, 0xE007F, 1),
   (0xE0100, 0xE01EF, 1)]

/-- The characters that take two columns. -/
def wide : Strides :=
  [(0x1100, 0x115F, 1), (0x231A, 0x231B, 1), (0x2329, 0x232A, 1), (0x23E9, 0x23EC, 1),
   (0x23F0, 0x23F0, 1), (0x23F3, 0x23F3, 1), (0x25FD, 0x25FE, 1), (0x2614, 0x2615, 1),
   (0x2648, 0x2653, 1), (0x267F, 0x267F, 1), (0x2693, 0x2693, 1), (0x26A1, 0x26A1, 1),
   (0x26AA, 0x26AB, 1), (0x26BD, 0x26BE, 1), (0x26C4, 0x26C5, 1), (0x26CE, 0x26CE, 1),
   (0x26D4, 0x26D4, 1), (0x26EA, 0x26EA, 1), (0x26F2, 0x26F3, 1), (0x26F5, 0x26F5, 1),
   (0x26FA, 0x26FA, 1), (0x26FD, 0x26FD, 1), (0x2705, 0x2705, 1), (0x270A, 0x270B, 1),
   (0x2728, 0x2728, 1), (0x274C, 0x274C, 1), (0x274E, 0x274E, 1), (0x2753, 0x2755, 1),
   (0x2757, 0x2757, 1), (0x2795, 0x2797, 1), (0x27B0, 0x27B0, 1), (0x27BF, 0x27BF, 1),
   (0x2B1B, 0x2B1C, 1), (0x2B50, 0x2B50, 1), (0x2B55, 0x2B55, 1), (0x2E80, 0x2E99, 1),
   (0x2E9B, 0x2EF3, 1), (0x2F00, 0x2FD5, 1), (0x2FF0, 0x3029, 1), (0x3030, 0x303E, 1),
   (0x3041, 0x3096, 1), (0x309B, 0x30FF, 1), (0x3105, 0x312F, 1), (0x3131, 0x318E, 1),
   (0x3190, 0x31E3, 1), (0x31EF, 0x321E, 1), (0x3220, 0x3247, 1), (0x3250, 0x4DBF, 1),
   (0x4E00, 0xA48C, 1), (0xA490, 0xA4C6, 1), (0xA960, 0xA97C, 1), (0xAC00, 0xD7A3, 1),
   (0xF900, 0xFAFF, 1), (0xFE10, 0xFE19, 1), (0xFE30, 0xFE52, 1), (0xFE54, 0xFE66, 1),
   (0xFE68, 0xFE6B, 1), (0xFF01, 0xFF60, 1), (0xFFE0, 0xFFE6, 1), (0x16FE0, 0x16FE3, 1),
   (0x17000, 0x187F7, 1), (0x18800, 0x18CD5, 1), (0x18D00, 0x18D08, 1), (0x1AFF0, 0x1AFF3, 1),
   (0x1AFF5, 0x1AFFB, 1), (0x1AFFD, 0x1AFFE, 1), (0x1B000, 0x1B122, 1), (0x1B132, 0x1B132, 1),
   (0x1B150, 0x1B152, 1), (0x1B155, 0x1B155, 1), (0x1B164, 0x1B167, 1), (0x1B170, 0x1B2FB, 1),
   (0x1F004, 0x1F004, 1), (0x1F0CF, 0x1F0CF, 1), (0x1F18E, 0x1F18E, 1), (0x1F191, 0x1F19A, 1),
   (0x1F200, 0x1F202, 1), (0x1F210, 0x1F23B, 1), (0x1F240, 0x1F248, 1), (0x1F250, 0x1F251, 1),
   (0x1F260, 0x1F265, 1), (0x1F300, 0x1F320, 1), (0x1F32D, 0x1F335, 1), (0x1F337, 0x1F37C, 1),
   (0x1F37E, 0x1F393, 1), (0x1F3A0, 0x1F3CA, 1), (0x1F3CF, 0x1F3D3, 1), (0x1F3E0, 0x1F3F0, 1),
   (0x1F3F4, 0x1F3F4, 1), (0x1F3F8, 0x1F3FA, 1), (0x1F400, 0x1F43E, 1), (0x1F440, 0x1F440, 1),
   (0x1F442, 0x1F4FC, 1), (0x1F4FF, 0x1F53D, 1), (0x1F54B, 0x1F54E, 1), (0x1F550, 0x1F567, 1),
   (0x1F57A, 0x1F57A, 1), (0x1F595, 0x1F596, 1), (0x1F5A4, 0x1F5A4, 1), (0x1F5FB, 0x1F64F, 1),
   (0x1F680, 0x1F6C5, 1), (0x1F6CC, 0x1F6CC, 1), (0x1F6D0, 0x1F6D2, 1), (0x1F6D5, 0x1F6D7, 1),
   (0x1F6DC, 0x1F6DF, 1), (0x1F6EB, 0x1F6EC, 1), (0x1F6F4, 0x1F6FC, 1), (0x1F7E0, 0x1F7EB, 1),
   (0x1F7F0, 0x1F7F0, 1), (0x1F90C, 0x1F93A, 1), (0x1F93C, 0x1F945, 1), (0x1F947, 0x1F9FF, 1),
   (0x1FA70, 0x1FA7C, 1), (0x1FA80, 0x1FA88, 1), (0x1FA90, 0x1FABD, 1), (0x1FABF, 0x1FAC5, 1),
   (0x1FACE, 0x1FADB, 1), (0x1FAE0, 0x1FAE8, 1), (0x1FAF0, 0x1FAF8, 1), (0x20000, 0x2FFFD, 1),
   (0x30000, 0x3FFFD, 1)]

/-- The number of columns that a character takes. -/
def columns (c : Char) : Nat :=
  if columnless.hold c then 0 else if wide.hold c then 2 else 1

/-- The number of columns that a text takes. -/
def Text.columns (t : Text) : Nat :=
  t.foldr (fun c count => ParseReport.columns c + count) 0

end ParseReport
