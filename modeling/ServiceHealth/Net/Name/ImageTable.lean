import ServiceHealth.Text.CodeTable

/-!
# Characters of names

Tables of the Unicode mapping for host names, version 18: the characters that do not count in a
name, those that may not stand in one although they have a visible form, those that stand for
others, and those that version 17 does not know. Capital letters that stand for their lower-case
form alone are left out.
-/
namespace ServiceHealth.Net.Name

/-- Characters that do not count. -/
def ignoredRanges : List (Nat × Nat) :=
  [(0xAD, 0xAD), (0x34F, 0x34F), (0x115F, 0x1160), (0x17B4, 0x17B5), (0x180B, 0x180F),
    (0x200B, 0x200B), (0x2060, 0x2064), (0x206A, 0x206F), (0x3164, 0x3164), (0xFE00, 0xFE0F),
    (0xFEFF, 0xFEFF), (0xFFA0, 0xFFA0), (0x1BCA0, 0x1BCA3), (0x1D173, 0x1D17A),
    (0xE0100, 0xE01EF)]

/-- Visible characters that are refused, among them all those that stand for a text with a
space. -/
def refusedRanges : List (Nat × Nat) :=
  [(0xA8, 0xA8), (0xAF, 0xAF), (0xB4, 0xB4), (0xB8, 0xB8), (0x2D8, 0x2DD), (0x37A, 0x37A),
    (0x384, 0x385), (0x1FBD, 0x1FBD), (0x1FBF, 0x1FC1), (0x1FCD, 0x1FCF), (0x1FDD, 0x1FDF),
    (0x1FED, 0x1FEE), (0x1FFD, 0x1FFE), (0x2017, 0x2017), (0x2024, 0x2026), (0x203E, 0x203E),
    (0x2488, 0x249B), (0x2FF0, 0x2FFF), (0x309B, 0x309C), (0x31EF, 0x31EF), (0x33C2, 0x33C2),
    (0x33C7, 0x33C7), (0x33D8, 0x33D8), (0xFC5E, 0xFC63), (0xFDFA, 0xFDFB), (0xFE12, 0xFE12),
    (0xFE19, 0xFE19), (0xFE30, 0xFE30), (0xFE49, 0xFE4C), (0xFE52, 0xFE52), (0xFE70, 0xFE70),
    (0xFE72, 0xFE72), (0xFE74, 0xFE74), (0xFE76, 0xFE76), (0xFE78, 0xFE78), (0xFE7A, 0xFE7A),
    (0xFE7C, 0xFE7C), (0xFE7E, 0xFE7E), (0xFFE3, 0xFFE3), (0xFFFC, 0xFFFD), (0x1F100, 0x1F100)]

/-- Characters that version 17 does not know and that stand for themselves. -/
def newestRanges : List (Nat × Nat) :=
  [(0x5C8, 0x5C9), (0x208F, 0x208F), (0x20C2, 0x20C4), (0x2E5E, 0x2E63), (0x10EC8, 0x10EC9),
    (0x10ED9, 0x10ED9), (0x11B0A, 0x11B0A), (0x11DF0, 0x11DF1), (0x1246F, 0x1246F),
    (0x12475, 0x12475), (0x12550, 0x12686), (0x18E00, 0x19191), (0x191A0, 0x191C1),
    (0x1CED1, 0x1CED2), (0x1CEF1, 0x1CEF1), (0x1D1EB, 0x1D1FF), (0x1DB00, 0x1DBFF),
    (0x1F1AE, 0x1F1AE), (0x1FADD, 0x1FADD), (0x1FAF9, 0x1FAFB), (0x3D000, 0x3FC3F)]

/-- What characters stand for. -/
def imageRows : List Text.Row :=
  [⟨0xAA, "61"⟩, ⟨0xB2, "32 33"⟩, ⟨0xB5, "3BC"⟩, ⟨0xB9, "31 6F"⟩,
    ⟨0xBC, "31,2044,34 31,2044,32 33,2044,34"⟩, ⟨0x132, "69,6A 69,6A"⟩, ⟨0x13F, "6C,B7 6C,B7"⟩,
    ⟨0x149, "2BC,6E"⟩, ⟨0x17F, "73"⟩,
    ⟨0x1C4, "64,17E 64,17E 64,17E 6C,6A 6C,6A 6C,6A 6E,6A 6E,6A 6E,6A"⟩,
    ⟨0x1F1, "64,7A 64,7A 64,7A"⟩, ⟨0x2B0, "68 266 6A 72 279 27B 281 77 79"⟩,
    ⟨0x2E0, "263 6C 73 78 295"⟩, ⟨0x340, "300 301"⟩, ⟨0x343, "313 308,301 3B9"⟩, ⟨0x374, "2B9"⟩,
    ⟨0x37E, "3B"⟩, ⟨0x387, "B7"⟩, ⟨0x3D0, "3B2 3B8 3C5 3CD 3CB 3C6 3C0"⟩, ⟨0x3F0, "3BA 3C1 3C3"⟩,
    ⟨0x3F5, "3B5"⟩, ⟨0x3F9, "3C3"⟩, ⟨0x558, "567"⟩, ⟨0x587, "565,582"⟩,
    ⟨0x58B, "56B"⟩, ⟨0x675, "627,674 648,674 6C7,674 64A,674"⟩,
    ⟨0x958, "915,93C 916,93C 917,93C 91C,93C 921,93C 922,93C 92B,93C 92F,93C"⟩,
    ⟨0x9DC, "9A1,9BC 9A2,9BC"⟩, ⟨0x9DF, "9AF,9BC"⟩, ⟨0xA33, "A32,A3C"⟩, ⟨0xA36, "A38,A3C"⟩,
    ⟨0xA59, "A16,A3C A17,A3C A1C,A3C"⟩, ⟨0xA5E, "A2B,A3C"⟩, ⟨0xB5C, "B21,B3C B22,B3C"⟩,
    ⟨0xE33, "E4D,E32"⟩, ⟨0xEB3, "ECD,EB2"⟩, ⟨0xEDC, "EAB,E99 EAB,EA1"⟩, ⟨0xF0C, "F0B"⟩,
    ⟨0xF43, "F42,FB7"⟩, ⟨0xF4D, "F4C,FB7"⟩, ⟨0xF52, "F51,FB7"⟩, ⟨0xF57, "F56,FB7"⟩,
    ⟨0xF5C, "F5B,FB7"⟩, ⟨0xF69, "F40,FB5"⟩, ⟨0xF73, "F71,F72"⟩,
    ⟨0xF75, "F71,F74 FB2,F80 FB2,F71,F80 FB3,F80 FB3,F71,F80"⟩, ⟨0xF81, "F71,F80"⟩,
    ⟨0xF93, "F92,FB7"⟩, ⟨0xF9D, "F9C,FB7"⟩, ⟨0xFA2, "FA1,FB7"⟩, ⟨0xFA7, "FA6,FB7"⟩,
    ⟨0xFAC, "FAB,FB7"⟩, ⟨0xFB9, "F90,FB5"⟩, ⟨0x10FC, "10DC"⟩,
    ⟨0x13F8, "13F0 13F1 13F2 13F3 13F4 13F5"⟩, ⟨0x1C80, "432 434 43E 441 442 442 44A 463 A64B"⟩,
    ⟨0x1D2C, "61 E6 62"⟩, ⟨0x1D30, "64 65 1DD 67 68 69 6A 6B 6C 6D 6E"⟩,
    ⟨0x1D3C, "6F 223 70 72 74 75 77 61 250 251 1D02 62 64 65 259 25B 25C 67"⟩,
    ⟨0x1D4F, "6B 6D 14B 6F 254 1D16 1D17 70 74 75 1D1D 26F 76 1D25 3B2 3B3 3B4 3C6 3C7 69 72"⟩,
    ⟨0x1D64, "75 76 3B2 3B3 3C1 3C6 3C7"⟩, ⟨0x1D78, "43D"⟩,
    ⟨0x1D9B, "252 63 255 F0 25C 66 25F 261 265 268 269 26A 1D7B 29D 26D 1D85 29F 271 270 272"⟩,
    ⟨0x1DAF, "273 274 275 278 282 283 1AB 289 28A 1D1C 28B 28C 7A 290 291 292 3B8"⟩,
    ⟨0x1E9A, "61,2BE 1E61"⟩, ⟨0x1F71, "3AC"⟩, ⟨0x1F73, "3AD"⟩, ⟨0x1F75, "3AE"⟩, ⟨0x1F77, "3AF"⟩,
    ⟨0x1F79, "3CC"⟩, ⟨0x1F7B, "3CD"⟩, ⟨0x1F7D, "3CE"⟩,
    ⟨0x1F80, "1F00,3B9 1F01,3B9 1F02,3B9 1F03,3B9 1F04,3B9 1F05,3B9 1F06,3B9 1F07,3B9 1F00,3B9"⟩,
    ⟨0x1F89, "1F01,3B9 1F02,3B9 1F03,3B9 1F04,3B9 1F05,3B9 1F06,3B9 1F07,3B9 1F20,3B9 1F21,3B9"⟩,
    ⟨0x1F92, "1F22,3B9 1F23,3B9 1F24,3B9 1F25,3B9 1F26,3B9 1F27,3B9 1F20,3B9 1F21,3B9 1F22,3B9"⟩,
    ⟨0x1F9B, "1F23,3B9 1F24,3B9 1F25,3B9 1F26,3B9 1F27,3B9 1F60,3B9 1F61,3B9 1F62,3B9 1F63,3B9"⟩,
    ⟨0x1FA4, "1F64,3B9 1F65,3B9 1F66,3B9 1F67,3B9 1F60,3B9 1F61,3B9 1F62,3B9 1F63,3B9 1F64,3B9"⟩,
    ⟨0x1FAD, "1F65,3B9 1F66,3B9 1F67,3B9"⟩, ⟨0x1FB2, "1F70,3B9 3B1,3B9 3AC,3B9"⟩,
    ⟨0x1FB7, "1FB6,3B9"⟩, ⟨0x1FBB, "3AC 3B1,3B9"⟩, ⟨0x1FBE, "3B9"⟩,
    ⟨0x1FC2, "1F74,3B9 3B7,3B9 3AE,3B9"⟩, ⟨0x1FC7, "1FC6,3B9"⟩, ⟨0x1FC9, "3AD"⟩,
    ⟨0x1FCB, "3AE 3B7,3B9"⟩, ⟨0x1FD3, "390"⟩, ⟨0x1FDB, "3AF"⟩, ⟨0x1FE3, "3B0"⟩, ⟨0x1FEB, "3CD"⟩,
    ⟨0x1FEF, "60"⟩, ⟨0x1FF2, "1F7C,3B9 3C9,3B9 3CE,3B9"⟩, ⟨0x1FF7, "1FF6,3B9"⟩, ⟨0x1FF9, "3CC"⟩,
    ⟨0x1FFB, "3CE 3C9,3B9"⟩, ⟨0x2011, "2010"⟩, ⟨0x2033, "2032,2032 2032,2032,2032"⟩,
    ⟨0x2036, "2035,2035 2035,2035,2035"⟩, ⟨0x203C, "21,21"⟩, ⟨0x2047, "3F,3F 3F,21 21,3F"⟩,
    ⟨0x2057, "2032,2032,2032,2032"⟩, ⟨0x2070, "30 69"⟩,
    ⟨0x2074, "34 35 36 37 38 39 2B 2212 3D 28 29 6E 30 31 32 33 34 35 36 37 38 39 2B 2212 3D"⟩,
    ⟨0x208D, "28 29"⟩, ⟨0x2090, "61 65 6F 78 259 68 6B 6C 6D 6E 70 73 74 77 79 7A"⟩,
    ⟨0x20A8, "72,73"⟩,
    ⟨0x2100, "61,2F,63 61,2F,73 63 B0,63"⟩, ⟨0x2105, "63,2F,6F 63,2F,75 25B"⟩,
    ⟨0x2109, "B0,66 67 68 68 68 68 127 69 69 6C 6C"⟩, ⟨0x2115, "6E 6E,6F"⟩,
    ⟨0x2119, "70 71 72 72 72"⟩, ⟨0x2120, "73,6D 74,65,6C 74,6D"⟩, ⟨0x2124, "7A"⟩, ⟨0x2128, "7A"⟩,
    ⟨0x212C, "62 63"⟩, ⟨0x212F, "65 65 66"⟩, ⟨0x2133, "6D 6F 5D0 5D1 5D2 5D3 69"⟩,
    ⟨0x213B, "66,61,78 3C0 3B3 3B3 3C0 2211"⟩, ⟨0x2145, "64 64 65 69 6A"⟩,
    ⟨0x2150, "31,2044,37 31,2044,39 31,2044,31,30 31,2044,33 32,2044,33 31,2044,35 32,2044,35"⟩,
    ⟨0x2157, "33,2044,35 34,2044,35 31,2044,36 35,2044,36 31,2044,38 33,2044,38 35,2044,38"⟩,
    ⟨0x215E, "37,2044,38 31,2044 69 69,69 69,69,69 69,76 76 76,69 76,69,69 76,69,69,69 69,78"⟩,
    ⟨0x2169, "78 78,69 78,69,69 6C 63 64 6D 69 69,69 69,69,69 69,76 76 76,69 76,69,69"⟩,
    ⟨0x2177, "76,69,69,69 69,78 78 78,69 78,69,69 6C 63 64 6D"⟩, ⟨0x2189, "30,2044,33"⟩,
    ⟨0x222C, "222B,222B 222B,222B,222B"⟩, ⟨0x222F, "222E,222E 222E,222E,222E"⟩,
    ⟨0x2329, "3008 3009"⟩,
    ⟨0x2460, "31 32 33 34 35 36 37 38 39 31,30 31,31 31,32 31,33 31,34 31,35 31,36 31,37 31,38"⟩,
    ⟨0x2472, "31,39 32,30 28,31,29 28,32,29 28,33,29 28,34,29 28,35,29 28,36,29 28,37,29"⟩,
    ⟨0x247B, "28,38,29 28,39,29 28,31,30,29 28,31,31,29 28,31,32,29 28,31,33,29 28,31,34,29"⟩,
    ⟨0x2482, "28,31,35,29 28,31,36,29 28,31,37,29 28,31,38,29 28,31,39,29 28,32,30,29"⟩,
    ⟨0x249C, "28,61,29 28,62,29 28,63,29 28,64,29 28,65,29 28,66,29 28,67,29 28,68,29 28,69,29"⟩,
    ⟨0x24A5, "28,6A,29 28,6B,29 28,6C,29 28,6D,29 28,6E,29 28,6F,29 28,70,29 28,71,29 28,72,29"⟩,
    ⟨0x24AE, "28,73,29 28,74,29 28,75,29 28,76,29 28,77,29 28,78,29 28,79,29 28,7A,29 61 62 63"⟩,
    ⟨0x24B9, "64 65 66 67 68 69 6A 6B 6C 6D 6E 6F 70 71 72 73 74 75 76 77 78 79 7A 61 62 63 64"⟩,
    ⟨0x24D4, "65 66 67 68 69 6A 6B 6C 6D 6E 6F 70 71 72 73 74 75 76 77 78 79 7A 30"⟩,
    ⟨0x2A0C, "222B,222B,222B,222B"⟩, ⟨0x2A74, "3A,3A,3D 3D,3D 3D,3D,3D"⟩, ⟨0x2ADC, "2ADD,338"⟩,
    ⟨0x2C7C, "6A 76"⟩, ⟨0x2D6F, "2D61"⟩, ⟨0x2E9F, "6BCD"⟩, ⟨0x2EF3, "9F9F"⟩,
    ⟨0x2F00, "4E00 4E28 4E36 4E3F 4E59 4E85 4E8C 4EA0 4EBA 513F 5165 516B 5182 5196 51AB 51E0"⟩,
    ⟨0x2F10, "51F5 5200 529B 52F9 5315 531A 5338 5341 535C 5369 5382 53B6 53C8 53E3 56D7 571F"⟩,
    ⟨0x2F20, "58EB 5902 590A 5915 5927 5973 5B50 5B80 5BF8 5C0F 5C22 5C38 5C6E 5C71 5DDB 5DE5"⟩,
    ⟨0x2F30, "5DF1 5DFE 5E72 5E7A 5E7F 5EF4 5EFE 5F0B 5F13 5F50 5F61 5F73 5FC3 6208 6236 624B"⟩,
    ⟨0x2F40, "652F 6534 6587 6597 65A4 65B9 65E0 65E5 66F0 6708 6728 6B20 6B62 6B79 6BB3 6BCB"⟩,
    ⟨0x2F50, "6BD4 6BDB 6C0F 6C14 6C34 706B 722A 7236 723B 723F 7247 7259 725B 72AC 7384 7389"⟩,
    ⟨0x2F60, "74DC 74E6 7518 751F 7528 7530 758B 7592 7676 767D 76AE 76BF 76EE 77DB 77E2 77F3"⟩,
    ⟨0x2F70, "793A 79B8 79BE 7A74 7ACB 7AF9 7C73 7CF8 7F36 7F51 7F8A 7FBD 8001 800C 8012 8033"⟩,
    ⟨0x2F80, "807F 8089 81E3 81EA 81F3 81FC 820C 821B 821F 826E 8272 8278 864D 866B 8840 884C"⟩,
    ⟨0x2F90, "8863 897E 898B 89D2 8A00 8C37 8C46 8C55 8C78 8C9D 8D64 8D70 8DB3 8EAB 8ECA 8F9B"⟩,
    ⟨0x2FA0, "8FB0 8FB5 9091 9149 91C6 91CC 91D1 9577 9580 961C 96B6 96B9 96E8 9751 975E 9762"⟩,
    ⟨0x2FB0, "9769 97CB 97ED 97F3 9801 98A8 98DB 98DF 9996 9999 99AC 9AA8 9AD8 9ADF 9B25 9B2F"⟩,
    ⟨0x2FC0, "9B32 9B3C 9B5A 9CE5 9E75 9E7F 9EA5 9EBB 9EC3 9ECD 9ED1 9EF9 9EFD 9F0E 9F13 9F20"⟩,
    ⟨0x2FD0, "9F3B 9F4A 9F52 9F8D 9F9C 9FA0"⟩, ⟨0x3002, "2E"⟩, ⟨0x3036, "3012"⟩,
    ⟨0x3038, "5341 5344 5345"⟩, ⟨0x309F, "3088,308A"⟩, ⟨0x30FF, "30B3,30C8"⟩,
    ⟨0x3131, "1100 1101 11AA 1102 11AC 11AD 1103 1104 1105 11B0 11B1 11B2 11B3 11B4 11B5 111A"⟩,
    ⟨0x3141, "1106 1107 1108 1121 1109 110A 110B 110C 110D 110E 110F 1110 1111 1112 1161 1162"⟩,
    ⟨0x3151, "1163 1164 1165 1166 1167 1168 1169 116A 116B 116C 116D 116E 116F 1170 1171 1172"⟩,
    ⟨0x3161, "1173 1174 1175"⟩,
    ⟨0x3165, "1114 1115 11C7 11C8 11CC 11CE 11D3 11D7 11D9 111C 11DD 11DF 111D 111E 1120 1122"⟩,
    ⟨0x3175, "1123 1127 1129 112B 112C 112D 112E 112F 1132 1136 1140 1147 114C 11F1 11F2 1157"⟩,
    ⟨0x3185, "1158 1159 1184 1185 1188 1191 1192 1194 119E 11A1"⟩,
    ⟨0x3192, "4E00 4E8C 4E09 56DB 4E0A 4E2D 4E0B 7532 4E59 4E19 4E01 5929 5730 4EBA"⟩,
    ⟨0x3200, "28,1100,29 28,1102,29 28,1103,29 28,1105,29 28,1106,29 28,1107,29 28,1109,29"⟩,
    ⟨0x3207, "28,110B,29 28,110C,29 28,110E,29 28,110F,29 28,1110,29 28,1111,29 28,1112,29"⟩,
    ⟨0x320E, "28,AC00,29 28,B098,29 28,B2E4,29 28,B77C,29 28,B9C8,29 28,BC14,29 28,C0AC,29"⟩,
    ⟨0x3215, "28,C544,29 28,C790,29 28,CC28,29 28,CE74,29 28,D0C0,29 28,D30C,29 28,D558,29"⟩,
    ⟨0x321C, "28,C8FC,29 28,C624,C804,29 28,C624,D6C4,29"⟩,
    ⟨0x3220, "28,4E00,29 28,4E8C,29 28,4E09,29 28,56DB,29 28,4E94,29 28,516D,29 28,4E03,29"⟩,
    ⟨0x3227, "28,516B,29 28,4E5D,29 28,5341,29 28,6708,29 28,706B,29 28,6C34,29 28,6728,29"⟩,
    ⟨0x322E, "28,91D1,29 28,571F,29 28,65E5,29 28,682A,29 28,6709,29 28,793E,29 28,540D,29"⟩,
    ⟨0x3235, "28,7279,29 28,8CA1,29 28,795D,29 28,52B4,29 28,4EE3,29 28,547C,29 28,5B66,29"⟩,
    ⟨0x323C, "28,76E3,29 28,4F01,29 28,8CC7,29 28,5354,29 28,796D,29 28,4F11,29 28,81EA,29"⟩,
    ⟨0x3243, "28,81F3,29 554F 5E7C 6587 7B8F"⟩,
    ⟨0x3250, "70,74,65 32,31 32,32 32,33 32,34 32,35 32,36 32,37 32,38 32,39 33,30 33,31 33,32"⟩,
    ⟨0x325D, "33,33 33,34 33,35 1100 1102 1103 1105 1106 1107 1109 110B 110C 110E 110F 1110"⟩,
    ⟨0x326C, "1111 1112 AC00 B098 B2E4 B77C B9C8 BC14 C0AC C544 C790 CC28 CE74 D0C0 D30C D558"⟩,
    ⟨0x327C, "CC38,ACE0 C8FC,C758 C6B0"⟩,
    ⟨0x3280, "4E00 4E8C 4E09 56DB 4E94 516D 4E03 516B 4E5D 5341 6708 706B 6C34 6728 91D1 571F"⟩,
    ⟨0x3290, "65E5 682A 6709 793E 540D 7279 8CA1 795D 52B4 79D8 7537 5973 9069 512A 5370 6CE8"⟩,
    ⟨0x32A0, "9805 4F11 5199 6B63 4E0A 4E2D 4E0B 5DE6 53F3 533B 5B97 5B66 76E3 4F01 8CC7 5354"⟩,
    ⟨0x32B0, "591C 33,36 33,37 33,38 33,39 34,30 34,31 34,32 34,33 34,34 34,35 34,36 34,37"⟩,
    ⟨0x32BD, "34,38 34,39 35,30 31,6708 32,6708 33,6708 34,6708 35,6708 36,6708 37,6708"⟩,
    ⟨0x32C7, "38,6708 39,6708 31,30,6708 31,31,6708 31,32,6708 68,67 65,72,67 65,76 6C,74,64"⟩,
    ⟨0x32D0, "30A2 30A4 30A6 30A8 30AA 30AB 30AD 30AF 30B1 30B3 30B5 30B7 30B9 30BB 30BD 30BF"⟩,
    ⟨0x32E0, "30C1 30C4 30C6 30C8 30CA 30CB 30CC 30CD 30CE 30CF 30D2 30D5 30D8 30DB 30DE 30DF"⟩,
    ⟨0x32F0, "30E0 30E1 30E2 30E4 30E6 30E8 30E9 30EA 30EB 30EC 30ED 30EF 30F0 30F1 30F2"⟩,
    ⟨0x32FF, "4EE4,548C 30A2,30D1,30FC,30C8 30A2,30EB,30D5,30A1 30A2,30F3,30DA,30A2"⟩,
    ⟨0x3303, "30A2,30FC,30EB 30A4,30CB,30F3,30B0 30A4,30F3,30C1 30A6,30A9,30F3"⟩,
    ⟨0x3307, "30A8,30B9,30AF,30FC,30C9 30A8,30FC,30AB,30FC 30AA,30F3,30B9 30AA,30FC,30E0"⟩,
    ⟨0x330B, "30AB,30A4,30EA 30AB,30E9,30C3,30C8 30AB,30ED,30EA,30FC 30AC,30ED,30F3"⟩,
    ⟨0x330F, "30AC,30F3,30DE 30AE,30AC 30AE,30CB,30FC 30AD,30E5,30EA,30FC 30AE,30EB,30C0,30FC"⟩,
    ⟨0x3314, "30AD,30ED 30AD,30ED,30B0,30E9,30E0 30AD,30ED,30E1,30FC,30C8,30EB"⟩,
    ⟨0x3317, "30AD,30ED,30EF,30C3,30C8 30B0,30E9,30E0 30B0,30E9,30E0,30C8,30F3"⟩,
    ⟨0x331A, "30AF,30EB,30BC,30A4,30ED 30AF,30ED,30FC,30CD 30B1,30FC,30B9 30B3,30EB,30CA"⟩,
    ⟨0x331E, "30B3,30FC,30DD 30B5,30A4,30AF,30EB 30B5,30F3,30C1,30FC,30E0 30B7,30EA,30F3,30B0"⟩,
    ⟨0x3322, "30BB,30F3,30C1 30BB,30F3,30C8 30C0,30FC,30B9 30C7,30B7 30C9,30EB 30C8,30F3"⟩,
    ⟨0x3328, "30CA,30CE 30CE,30C3,30C8 30CF,30A4,30C4 30D1,30FC,30BB,30F3,30C8 30D1,30FC,30C4"⟩,
    ⟨0x332D, "30D0,30FC,30EC,30EB 30D4,30A2,30B9,30C8,30EB 30D4,30AF,30EB 30D4,30B3 30D3,30EB"⟩,
    ⟨0x3332, "30D5,30A1,30E9,30C3,30C9 30D5,30A3,30FC,30C8 30D6,30C3,30B7,30A7,30EB"⟩,
    ⟨0x3335, "30D5,30E9,30F3 30D8,30AF,30BF,30FC,30EB 30DA,30BD 30DA,30CB,30D2 30D8,30EB,30C4"⟩,
    ⟨0x333A, "30DA,30F3,30B9 30DA,30FC,30B8 30D9,30FC,30BF 30DD,30A4,30F3,30C8 30DC,30EB,30C8"⟩,
    ⟨0x333F, "30DB,30F3 30DD,30F3,30C9 30DB,30FC,30EB 30DB,30FC,30F3 30DE,30A4,30AF,30ED"⟩,
    ⟨0x3344, "30DE,30A4,30EB 30DE,30C3,30CF 30DE,30EB,30AF 30DE,30F3,30B7,30E7,30F3"⟩,
    ⟨0x3348, "30DF,30AF,30ED,30F3 30DF,30EA 30DF,30EA,30D0,30FC,30EB 30E1,30AC"⟩,
    ⟨0x334C, "30E1,30AC,30C8,30F3 30E1,30FC,30C8,30EB 30E4,30FC,30C9 30E4,30FC,30EB"⟩,
    ⟨0x3350, "30E6,30A2,30F3 30EA,30C3,30C8,30EB 30EA,30E9 30EB,30D4,30FC 30EB,30FC,30D6,30EB"⟩,
    ⟨0x3355, "30EC,30E0 30EC,30F3,30C8,30B2,30F3 30EF,30C3,30C8 30,70B9 31,70B9 32,70B9"⟩,
    ⟨0x335B, "33,70B9 34,70B9 35,70B9 36,70B9 37,70B9 38,70B9 39,70B9 31,30,70B9 31,31,70B9"⟩,
    ⟨0x3364, "31,32,70B9 31,33,70B9 31,34,70B9 31,35,70B9 31,36,70B9 31,37,70B9 31,38,70B9"⟩,
    ⟨0x336B, "31,39,70B9 32,30,70B9 32,31,70B9 32,32,70B9 32,33,70B9 32,34,70B9 68,70,61 64,61"⟩,
    ⟨0x3373, "61,75 62,61,72 6F,76 70,63 64,6D 64,6D,32 64,6D,33 69,75 5E73,6210 662D,548C"⟩,
    ⟨0x337D, "5927,6B63 660E,6CBB 682A,5F0F,4F1A,793E 70,61 6E,61 3BC,61 6D,61 6B,61 6B,62"⟩,
    ⟨0x3386, "6D,62 67,62 63,61,6C 6B,63,61,6C 70,66 6E,66 3BC,66 3BC,67 6D,67 6B,67 68,7A"⟩,
    ⟨0x3391, "6B,68,7A 6D,68,7A 67,68,7A 74,68,7A 3BC,6C 6D,6C 64,6C 6B,6C 66,6D 6E,6D 3BC,6D"⟩,
    ⟨0x339C, "6D,6D 63,6D 6B,6D 6D,6D,32 63,6D,32 6D,32 6B,6D,32 6D,6D,33 63,6D,33 6D,33"⟩,
    ⟨0x33A6, "6B,6D,33 6D,2215,73 6D,2215,73,32 70,61 6B,70,61 6D,70,61 67,70,61 72,61,64"⟩,
    ⟨0x33AE, "72,61,64,2215,73 72,61,64,2215,73,32 70,73 6E,73 3BC,73 6D,73 70,76 6E,76 3BC,76"⟩,
    ⟨0x33B7, "6D,76 6B,76 6D,76 70,77 6E,77 3BC,77 6D,77 6B,77 6D,77 6B,3C9 6D,3C9"⟩,
    ⟨0x33C3, "62,71 63,63 63,64 63,2215,6B,67"⟩,
    ⟨0x33C8, "64,62 67,79 68,61 68,70 69,6E 6B,6B 6B,6D 6B,74 6C,6D 6C,6E 6C,6F,67 6C,78 6D,62"⟩,
    ⟨0x33D5, "6D,69,6C 6D,6F,6C 70,68"⟩,
    ⟨0x33D9, "70,70,6D 70,72 73,72 73,76 77,62 76,2215,6D 61,2215,6D 31,65E5 32,65E5 33,65E5"⟩,
    ⟨0x33E3, "34,65E5 35,65E5 36,65E5 37,65E5 38,65E5 39,65E5 31,30,65E5 31,31,65E5 31,32,65E5"⟩,
    ⟨0x33EC, "31,33,65E5 31,34,65E5 31,35,65E5 31,36,65E5 31,37,65E5 31,38,65E5 31,39,65E5"⟩,
    ⟨0x33F3, "32,30,65E5 32,31,65E5 32,32,65E5 32,33,65E5 32,34,65E5 32,35,65E5 32,36,65E5"⟩,
    ⟨0x33FA, "32,37,65E5 32,38,65E5 32,39,65E5 33,30,65E5 33,31,65E5 67,61,6C"⟩,
    ⟨0xA69C, "44A 44C"⟩, ⟨0xA770, "A76F"⟩, ⟨0xA7E2, "27C"⟩,
    ⟨0xA7F1, "73 63 66 71"⟩, ⟨0xA7F8, "127 153"⟩,
    ⟨0xAB5C, "A727 AB37 26B AB52"⟩, ⟨0xAB69, "28D"⟩,
    ⟨0xAB6C, "AB4B"⟩,
    ⟨0xAB70, "13A0 13A1 13A2 13A3 13A4 13A5 13A6 13A7 13A8 13A9 13AA 13AB 13AC 13AD 13AE 13AF"⟩,
    ⟨0xAB80, "13B0 13B1 13B2 13B3 13B4 13B5 13B6 13B7 13B8 13B9 13BA 13BB 13BC 13BD 13BE 13BF"⟩,
    ⟨0xAB90, "13C0 13C1 13C2 13C3 13C4 13C5 13C6 13C7 13C8 13C9 13CA 13CB 13CC 13CD 13CE 13CF"⟩,
    ⟨0xABA0, "13D0 13D1 13D2 13D3 13D4 13D5 13D6 13D7 13D8 13D9 13DA 13DB 13DC 13DD 13DE 13DF"⟩,
    ⟨0xABB0, "13E0 13E1 13E2 13E3 13E4 13E5 13E6 13E7 13E8 13E9 13EA 13EB 13EC 13ED 13EE 13EF"⟩,
    ⟨0xF900, "8C48 66F4 8ECA 8CC8 6ED1 4E32 53E5 9F9C 9F9C 5951 91D1 5587 5948 61F6 7669 7F85"⟩,
    ⟨0xF910, "863F 87BA 88F8 908F 6A02 6D1B 70D9 73DE 843D 916A 99F1 4E82 5375 6B04 721B 862D"⟩,
    ⟨0xF920, "9E1E 5D50 6FEB 85CD 8964 62C9 81D8 881F 5ECA 6717 6D6A 72FC 90CE 4F86 51B7 52DE"⟩,
    ⟨0xF930, "64C4 6AD3 7210 76E7 8001 8606 865C 8DEF 9732 9B6F 9DFA 788C 797F 7DA0 83C9 9304"⟩,
    ⟨0xF940, "9E7F 8AD6 58DF 5F04 7C60 807E 7262 78CA 8CC2 96F7 58D8 5C62 6A13 6DDA 6F0F 7D2F"⟩,
    ⟨0xF950, "7E37 964B 52D2 808B 51DC 51CC 7A1C 7DBE 83F1 9675 8B80 62CF 6A02 8AFE 4E39 5BE7"⟩,
    ⟨0xF960, "6012 7387 7570 5317 78FB 4FBF 5FA9 4E0D 6CCC 6578 7D22 53C3 585E 7701 8449 8AAA"⟩,
    ⟨0xF970, "6BBA 8FB0 6C88 62FE 82E5 63A0 7565 4EAE 5169 51C9 6881 7CE7 826F 8AD2 91CF 52F5"⟩,
    ⟨0xF980, "5442 5973 5EEC 65C5 6FFE 792A 95AD 9A6A 9E97 9ECE 529B 66C6 6B77 8F62 5E74 6190"⟩,
    ⟨0xF990, "6200 649A 6F23 7149 7489 79CA 7DF4 806F 8F26 84EE 9023 934A 5217 52A3 54BD 70C8"⟩,
    ⟨0xF9A0, "88C2 8AAA 5EC9 5FF5 637B 6BAE 7C3E 7375 4EE4 56F9 5BE7 5DBA 601C 73B2 7469 7F9A"⟩,
    ⟨0xF9B0, "8046 9234 96F6 9748 9818 4F8B 79AE 91B4 96B8 60E1 4E86 50DA 5BEE 5C3F 6599 6A02"⟩,
    ⟨0xF9C0, "71CE 7642 84FC 907C 9F8D 6688 962E 5289 677B 67F3 6D41 6E9C 7409 7559 786B 7D10"⟩,
    ⟨0xF9D0, "985E 516D 622E 9678 502B 5D19 6DEA 8F2A 5F8B 6144 6817 7387 9686 5229 540F 5C65"⟩,
    ⟨0xF9E0, "6613 674E 68A8 6CE5 7406 75E2 7F79 88CF 88E1 91CC 96E2 533F 6EBA 541D 71D0 7498"⟩,
    ⟨0xF9F0, "85FA 96A3 9C57 9E9F 6797 6DCB 81E8 7ACB 7B20 7C92 72C0 7099 8B58 4EC0 8336 523A"⟩,
    ⟨0xFA00, "5207 5EA6 62D3 7CD6 5B85 6D1E 66B4 8F3B 884C 964D 898B 5ED3 5140 55C0"⟩,
    ⟨0xFA10, "585A"⟩, ⟨0xFA12, "6674"⟩,
    ⟨0xFA15, "51DE 732A 76CA 793C 795E 7965 798F 9756 7CBE 7FBD"⟩, ⟨0xFA20, "8612"⟩,
    ⟨0xFA22, "8AF8"⟩, ⟨0xFA25, "9038 90FD"⟩,
    ⟨0xFA2A, "98EF 98FC 9928 9DB4 90DE 96B7 4FAE 50E7 514D 52C9 52E4 5351 559D 5606 5668 5840"⟩,
    ⟨0xFA3A, "58A8 5C64 5C6E 6094 6168 618E 61F2 654F 65E2 6691 6885 6D77 6E1A 6F22 716E 722B"⟩,
    ⟨0xFA4A, "7422 7891 793E 7949 7948 7950 7956 795D 798D 798E 7A40 7A81 7BC0 7DF4 7E09 7E41"⟩,
    ⟨0xFA5A, "7F72 8005 81ED 8279 8279 8457 8910 8996 8B01 8B39 8CD3 8D08 8FB6 9038 96E3 97FF"⟩,
    ⟨0xFA6A, "983B 6075 242EE 8218"⟩,
    ⟨0xFA70, "4E26 51B5 5168 4F80 5145 5180 52C7 52FA 559D 5555 5599 55E2 585A 58B3 5944 5954"⟩,
    ⟨0xFA80, "5A62 5B28 5ED2 5ED9 5F69 5FAD 60D8 614E 6108 618E 6160 61F2 6234 63C4 641C 6452"⟩,
    ⟨0xFA90, "6556 6674 6717 671B 6756 6B79 6BBA 6D41 6EDB 6ECB 6F22 701E 716E 77A7 7235 72AF"⟩,
    ⟨0xFAA0, "732A 7471 7506 753B 761D 761F 76CA 76DB 76F4 774A 7740 78CC 7AB1 7BC0 7C7B 7D5B"⟩,
    ⟨0xFAB0, "7DF4 7F3E 8005 8352 83EF 8779 8941 8986 8996 8ABF 8AF8 8ACB 8B01 8AFE 8AED 8B39"⟩,
    ⟨0xFAC0, "8B8A 8D08 8F38 9072 9199 9276 967C 96E3 9756 97DB 97FF 980B 983B 9B12 9F9C 2284A"⟩,
    ⟨0xFAD0, "22844 233D5 3B9D 4018 4039 25249 25CD0 27ED3 9F43 9F8E"⟩,
    ⟨0xFB00, "66,66 66,69 66,6C 66,66,69 66,66,6C 73,74 73,74"⟩,
    ⟨0xFB13, "574,576 574,565 574,56B 57E,576 574,56D"⟩, ⟨0xFB1D, "5D9,5B4"⟩,
    ⟨0xFB1F, "5F2,5B7 5E2 5D0 5D3 5D4 5DB 5DC 5DD 5E8 5EA 2B 5E9,5C1 5E9,5C2 5E9,5BC,5C1"⟩,
    ⟨0xFB2D, "5E9,5BC,5C2 5D0,5B7 5D0,5B8 5D0,5BC 5D1,5BC 5D2,5BC 5D3,5BC 5D4,5BC 5D5,5BC"⟩,
    ⟨0xFB36, "5D6,5BC"⟩, ⟨0xFB38, "5D8,5BC 5D9,5BC 5DA,5BC 5DB,5BC 5DC,5BC"⟩, ⟨0xFB3E, "5DE,5BC"⟩,
    ⟨0xFB40, "5E0,5BC 5E1,5BC"⟩, ⟨0xFB43, "5E3,5BC 5E4,5BC"⟩,
    ⟨0xFB46, "5E6,5BC 5E7,5BC 5E8,5BC 5E9,5BC 5EA,5BC 5D5,5B9 5D1,5BF 5DB,5BF 5E4,5BF 5D0,5DC"⟩,
    ⟨0xFB50, "671 671 67B 67B 67B 67B 67E 67E 67E 67E 680 680 680 680 67A 67A 67A 67A 67F 67F"⟩,
    ⟨0xFB64, "67F 67F 679 679 679 679 6A4 6A4 6A4 6A4 6A6 6A6 6A6 6A6 684 684 684 684 683 683"⟩,
    ⟨0xFB78, "683 683 686 686 686 686 687 687 687 687 68D 68D 68C 68C 68E 68E 688 688 698 698"⟩,
    ⟨0xFB8C, "691 691 6A9 6A9 6A9 6A9 6AF 6AF 6AF 6AF 6B3 6B3 6B3 6B3 6B1 6B1 6B1 6B1 6BA 6BA"⟩,
    ⟨0xFBA0, "6BB 6BB 6BB 6BB 6C0 6C0 6C1 6C1 6C1 6C1 6BE 6BE 6BE 6BE 6D2 6D2 6D3 6D3"⟩,
    ⟨0xFBD3, "6AD 6AD 6AD 6AD 6C7 6C7 6C6 6C6 6C8 6C8 6C7,674 6CB 6CB 6C5 6C5 6C9 6C9 6D0 6D0"⟩,
    ⟨0xFBE6, "6D0 6D0 649 649 626,627 626,627 626,6D5 626,6D5 626,648 626,648 626,6C7 626,6C7"⟩,
    ⟨0xFBF2, "626,6C6 626,6C6 626,6C8 626,6C8 626,6D0 626,6D0 626,6D0 626,649 626,649 626,649"⟩,
    ⟨0xFBFC, "6CC 6CC 6CC 6CC 626,62C 626,62D 626,645 626,649 626,64A 628,62C 628,62D 628,62E"⟩,
    ⟨0xFC08, "628,645 628,649 628,64A 62A,62C 62A,62D 62A,62E 62A,645 62A,649 62A,64A 62B,62C"⟩,
    ⟨0xFC12, "62B,645 62B,649 62B,64A 62C,62D 62C,645 62D,62C 62D,645 62E,62C 62E,62D 62E,645"⟩,
    ⟨0xFC1C, "633,62C 633,62D 633,62E 633,645 635,62D 635,645 636,62C 636,62D 636,62E 636,645"⟩,
    ⟨0xFC26, "637,62D 637,645 638,645 639,62C 639,645 63A,62C 63A,645 641,62C 641,62D 641,62E"⟩,
    ⟨0xFC30, "641,645 641,649 641,64A 642,62D 642,645 642,649 642,64A 643,627 643,62C 643,62D"⟩,
    ⟨0xFC3A, "643,62E 643,644 643,645 643,649 643,64A 644,62C 644,62D 644,62E 644,645 644,649"⟩,
    ⟨0xFC44, "644,64A 645,62C 645,62D 645,62E 645,645 645,649 645,64A 646,62C 646,62D 646,62E"⟩,
    ⟨0xFC4E, "646,645 646,649 646,64A 647,62C 647,645 647,649 647,64A 64A,62C 64A,62D 64A,62E"⟩,
    ⟨0xFC58, "64A,645 64A,649 64A,64A 630,670 631,670 649,670"⟩,
    ⟨0xFC64, "626,631 626,632 626,645 626,646 626,649 626,64A 628,631 628,632 628,645 628,646"⟩,
    ⟨0xFC6E, "628,649 628,64A 62A,631 62A,632 62A,645 62A,646 62A,649 62A,64A 62B,631 62B,632"⟩,
    ⟨0xFC78, "62B,645 62B,646 62B,649 62B,64A 641,649 641,64A 642,649 642,64A 643,627 643,644"⟩,
    ⟨0xFC82, "643,645 643,649 643,64A 644,645 644,649 644,64A 645,627 645,645 646,631 646,632"⟩,
    ⟨0xFC8C, "646,645 646,646 646,649 646,64A 649,670 64A,631 64A,632 64A,645 64A,646 64A,649"⟩,
    ⟨0xFC96, "64A,64A 626,62C 626,62D 626,62E 626,645 626,647 628,62C 628,62D 628,62E 628,645"⟩,
    ⟨0xFCA0, "628,647 62A,62C 62A,62D 62A,62E 62A,645 62A,647 62B,645 62C,62D 62C,645 62D,62C"⟩,
    ⟨0xFCAA, "62D,645 62E,62C 62E,645 633,62C 633,62D 633,62E 633,645 635,62D 635,62E 635,645"⟩,
    ⟨0xFCB4, "636,62C 636,62D 636,62E 636,645 637,62D 638,645 639,62C 639,645 63A,62C 63A,645"⟩,
    ⟨0xFCBE, "641,62C 641,62D 641,62E 641,645 642,62D 642,645 643,62C 643,62D 643,62E 643,644"⟩,
    ⟨0xFCC8, "643,645 644,62C 644,62D 644,62E 644,645 644,647 645,62C 645,62D 645,62E 645,645"⟩,
    ⟨0xFCD2, "646,62C 646,62D 646,62E 646,645 646,647 647,62C 647,645 647,670 64A,62C 64A,62D"⟩,
    ⟨0xFCDC, "64A,62E 64A,645 64A,647 626,645 626,647 628,645 628,647 62A,645 62A,647 62B,645"⟩,
    ⟨0xFCE6, "62B,647 633,645 633,647 634,645 634,647 643,644 643,645 644,645 646,645 646,647"⟩,
    ⟨0xFCF0, "64A,645 64A,647 640,64E,651 640,64F,651 640,650,651 637,649 637,64A 639,649"⟩,
    ⟨0xFCF8, "639,64A 63A,649 63A,64A 633,649 633,64A 634,649 634,64A 62D,649 62D,64A 62C,649"⟩,
    ⟨0xFD02, "62C,64A 62E,649 62E,64A 635,649 635,64A 636,649 636,64A 634,62C 634,62D 634,62E"⟩,
    ⟨0xFD0C, "634,645 634,631 633,631 635,631 636,631 637,649 637,64A 639,649 639,64A 63A,649"⟩,
    ⟨0xFD16, "63A,64A 633,649 633,64A 634,649 634,64A 62D,649 62D,64A 62C,649 62C,64A 62E,649"⟩,
    ⟨0xFD20, "62E,64A 635,649 635,64A 636,649 636,64A 634,62C 634,62D 634,62E 634,645 634,631"⟩,
    ⟨0xFD2A, "633,631 635,631 636,631 634,62C 634,62D 634,62E 634,645 633,647 634,647 637,645"⟩,
    ⟨0xFD34, "633,62C 633,62D 633,62E 634,62C 634,62D 634,62E 637,645 638,645 627,64B 627,64B"⟩,
    ⟨0xFD50, "62A,62C,645 62A,62D,62C 62A,62D,62C 62A,62D,645 62A,62E,645 62A,645,62C"⟩,
    ⟨0xFD56, "62A,645,62D 62A,645,62E 62C,645,62D 62C,645,62D 62D,645,64A 62D,645,649"⟩,
    ⟨0xFD5C, "633,62D,62C 633,62C,62D 633,62C,649 633,645,62D 633,645,62D 633,645,62C"⟩,
    ⟨0xFD62, "633,645,645 633,645,645 635,62D,62D 635,62D,62D 635,645,645 634,62D,645"⟩,
    ⟨0xFD68, "634,62D,645 634,62C,64A 634,645,62E 634,645,62E 634,645,645 634,645,645"⟩,
    ⟨0xFD6E, "636,62D,649 636,62E,645 636,62E,645 637,645,62D 637,645,62D 637,645,645"⟩,
    ⟨0xFD74, "637,645,64A 639,62C,645 639,645,645 639,645,645 639,645,649 63A,645,645"⟩,
    ⟨0xFD7A, "63A,645,64A 63A,645,649 641,62E,645 641,62E,645 642,645,62D 642,645,645"⟩,
    ⟨0xFD80, "644,62D,645 644,62D,64A 644,62D,649 644,62C,62C 644,62C,62C 644,62E,645"⟩,
    ⟨0xFD86, "644,62E,645 644,645,62D 644,645,62D 645,62D,62C 645,62D,645 645,62D,64A"⟩,
    ⟨0xFD8C, "645,62C,62D 645,62C,645 645,62E,62C 645,62E,645"⟩,
    ⟨0xFD92, "645,62C,62E 647,645,62C 647,645,645 646,62D,645 646,62D,649 646,62C,645"⟩,
    ⟨0xFD98, "646,62C,645 646,62C,649 646,645,64A 646,645,649 64A,645,645 64A,645,645"⟩,
    ⟨0xFD9E, "628,62E,64A 62A,62C,64A 62A,62C,649 62A,62E,64A 62A,62E,649 62A,645,64A"⟩,
    ⟨0xFDA4, "62A,645,649 62C,645,64A 62C,62D,649 62C,645,649 633,62E,649 635,62D,64A"⟩,
    ⟨0xFDAA, "634,62D,64A 636,62D,64A 644,62C,64A 644,645,64A 64A,62D,64A 64A,62C,64A"⟩,
    ⟨0xFDB0, "64A,645,64A 645,645,64A 642,645,64A 646,62D,64A 642,645,62D 644,62D,645"⟩,
    ⟨0xFDB6, "639,645,64A 643,645,64A 646,62C,62D 645,62E,64A 644,62C,645 643,645,645"⟩,
    ⟨0xFDBC, "644,62C,645 646,62C,62D 62C,62D,64A 62D,62C,64A 645,62C,64A 641,645,64A"⟩,
    ⟨0xFDC2, "628,62D,64A 643,645,645 639,62C,645 635,645,645 633,62E,64A 646,62C,64A"⟩,
    ⟨0xFDF0, "635,644,6D2 642,644,6D2 627,644,644,647 627,643,628,631 645,62D,645,62F"⟩,
    ⟨0xFDF5, "635,644,639,645 631,633,648,644 639,644,64A,647 648,633,644,645 635,644,649"⟩,
    ⟨0xFDFC, "631,6CC,627,644"⟩, ⟨0xFE10, "2C 3001"⟩, ⟨0xFE13, "3A 3B 21 3F 3016 3017"⟩,
    ⟨0xFE31, "2014 2013 5F 5F 28 29 7B 7D 3014 3015 3010 3011 300A 300B 3008 3009 300C 300D"⟩,
    ⟨0xFE43, "300E 300F"⟩, ⟨0xFE47, "5B 5D"⟩, ⟨0xFE4D, "5F 5F 5F 2C 3001"⟩,
    ⟨0xFE54, "3B 3A 3F 21 2014 28 29 7B 7D 3014 3015 23 26 2A 2B 2D 3C 3E 3D"⟩,
    ⟨0xFE68, "5C 24 25 40"⟩, ⟨0xFE71, "640,64B"⟩, ⟨0xFE77, "640,64E"⟩, ⟨0xFE79, "640,64F"⟩,
    ⟨0xFE7B, "640,650"⟩, ⟨0xFE7D, "640,651"⟩,
    ⟨0xFE7F, "640,652 621 622 622 623 623 624 624 625 625 626 626 626 626 627 627 628 628 628"⟩,
    ⟨0xFE92, "628 629 629 62A 62A 62A 62A 62B 62B 62B 62B 62C 62C 62C 62C 62D 62D 62D 62D 62E"⟩,
    ⟨0xFEA6, "62E 62E 62E 62F 62F 630 630 631 631 632 632 633 633 633 633 634 634 634 634 635"⟩,
    ⟨0xFEBA, "635 635 635 636 636 636 636 637 637 637 637 638 638 638 638 639 639 639 639 63A"⟩,
    ⟨0xFECE, "63A 63A 63A 641 641 641 641 642 642 642 642 643 643 643 643 644 644 644 644 645"⟩,
    ⟨0xFEE2, "645 645 645 646 646 646 646 647 647 647 647 648 648 649 649 64A 64A 64A 64A"⟩,
    ⟨0xFEF5, "644,622 644,622 644,623 644,623 644,625 644,625 644,627 644,627"⟩,
    ⟨0xFF01, "21 22 23 24 25 26 27 28 29 2A 2B 2C 2D 2E 2F 30 31 32 33 34 35 36 37 38 39 3A 3B"⟩,
    ⟨0xFF1C, "3C 3D 3E 3F 40 61 62 63 64 65 66 67 68 69 6A 6B 6C 6D 6E 6F 70 71 72 73 74 75 76"⟩,
    ⟨0xFF37, "77 78 79 7A 5B 5C 5D 5E 5F 60 61 62 63 64 65 66 67 68 69 6A 6B 6C 6D 6E 6F 70 71"⟩,
    ⟨0xFF52, "72 73 74 75 76 77 78 79 7A 7B 7C 7D 7E 2985 2986 2E 300C 300D 3001 30FB 30F2"⟩,
    ⟨0xFF67, "30A1 30A3 30A5 30A7 30A9 30E3 30E5 30E7 30C3 30FC 30A2 30A4 30A6 30A8 30AA 30AB"⟩,
    ⟨0xFF77, "30AD 30AF 30B1 30B3 30B5 30B7 30B9 30BB 30BD 30BF 30C1 30C4 30C6 30C8 30CA 30CB"⟩,
    ⟨0xFF87, "30CC 30CD 30CE 30CF 30D2 30D5 30D8 30DB 30DE 30DF 30E0 30E1 30E2 30E4 30E6 30E8"⟩,
    ⟨0xFF97, "30E9 30EA 30EB 30EC 30ED 30EF 30F3 3099 309A"⟩,
    ⟨0xFFA1, "1100 1101 11AA 1102 11AC 11AD 1103 1104 1105 11B0 11B1 11B2 11B3 11B4 11B5 111A"⟩,
    ⟨0xFFB1, "1106 1107 1108 1121 1109 110A 110B 110C 110D 110E 110F 1110 1111 1112"⟩,
    ⟨0xFFC2, "1161 1162 1163 1164 1165 1166"⟩, ⟨0xFFCA, "1167 1168 1169 116A 116B 116C"⟩,
    ⟨0xFFD2, "116D 116E 116F 1170 1171 1172"⟩, ⟨0xFFDA, "1173 1174 1175"⟩, ⟨0xFFE0, "A2 A3 AC"⟩,
    ⟨0xFFE4, "A6 A5 20A9"⟩, ⟨0xFFE8, "2502 2190 2191 2192 2193 25A0 25CB"⟩,
    ⟨0x10781, "2D0 2D1 E6 299 253"⟩,
    ⟨0x10787, "2A3 AB66 2A5 2A4 256 257 1D91 258 25E 2A9 264 262 260 29B 127 29C 267 284 2AA"⟩,
    ⟨0x1079A, "2AB 26C 1DF04 A78E 26E 1DF05 28E 1DF06 F8 276 277 71 27A 1DF08 27D 27E 280 2A8"⟩,
    ⟨0x107AC, "2A6 AB67 2A7 288 2C71"⟩, ⟨0x107B2, "28F 2A1 2A2 298 1C0 1C1 1C2 1DF0A 1DF1E"⟩,
    ⟨0x107BF, "1DF0B"⟩,
    ⟨0x1CCD6, "61 62 63 64 65 66 67 68 69 6A 6B 6C 6D 6E 6F 70 71 72 73 74 75 76 77 78 79 7A"⟩,
    ⟨0x1CCF0, "30 31 32 33 34 35 36 37 38 39"⟩,
    ⟨0x1D15E, "1D157,1D165 1D158,1D165 1D158,1D165,1D16E 1D158,1D165,1D16F 1D158,1D165,1D170"⟩,
    ⟨0x1D163, "1D158,1D165,1D171 1D158,1D165,1D172"⟩,
    ⟨0x1D1BB, "1D1B9,1D165 1D1BA,1D165 1D1B9,1D165,1D16E 1D1BA,1D165,1D16E 1D1B9,1D165,1D16F"⟩,
    ⟨0x1D1C0, "1D1BA,1D165,1D16F"⟩,
    ⟨0x1D400, "61 62 63 64 65 66 67 68 69 6A 6B 6C 6D 6E 6F 70 71 72 73 74 75 76 77 78 79 7A"⟩,
    ⟨0x1D41A, "61 62 63 64 65 66 67 68 69 6A 6B 6C 6D 6E 6F 70 71 72 73 74 75 76 77 78 79 7A"⟩,
    ⟨0x1D434, "61 62 63 64 65 66 67 68 69 6A 6B 6C 6D 6E 6F 70 71 72 73 74 75 76 77 78 79 7A"⟩,
    ⟨0x1D44E, "61 62 63 64 65 66 67"⟩,
    ⟨0x1D456, "69 6A 6B 6C 6D 6E 6F 70 71 72 73 74 75 76 77 78 79 7A 61 62 63 64 65 66 67 68"⟩,
    ⟨0x1D470, "69 6A 6B 6C 6D 6E 6F 70 71 72 73 74 75 76 77 78 79 7A 61 62 63 64 65 66 67 68"⟩,
    ⟨0x1D48A, "69 6A 6B 6C 6D 6E 6F 70 71 72 73 74 75 76 77 78 79 7A 61"⟩, ⟨0x1D49E, "63 64"⟩,
    ⟨0x1D4A2, "67"⟩, ⟨0x1D4A5, "6A 6B"⟩, ⟨0x1D4A9, "6E 6F 70 71"⟩,
    ⟨0x1D4AE, "73 74 75 76 77 78 79 7A 61 62 63 64"⟩, ⟨0x1D4BB, "66"⟩,
    ⟨0x1D4BD, "68 69 6A 6B 6C 6D 6E"⟩,
    ⟨0x1D4C5, "70 71 72 73 74 75 76 77 78 79 7A 61 62 63 64 65 66 67 68 69 6A 6B 6C 6D 6E 6F"⟩,
    ⟨0x1D4DF, "70 71 72 73 74 75 76 77 78 79 7A 61 62 63 64 65 66 67 68 69 6A 6B 6C 6D 6E 6F"⟩,
    ⟨0x1D4F9, "70 71 72 73 74 75 76 77 78 79 7A 61 62"⟩, ⟨0x1D507, "64 65 66 67"⟩,
    ⟨0x1D50D, "6A 6B 6C 6D 6E 6F 70 71"⟩, ⟨0x1D516, "73 74 75 76 77 78 79"⟩,
    ⟨0x1D51E, "61 62 63 64 65 66 67 68 69 6A 6B 6C 6D 6E 6F 70 71 72 73 74 75 76 77 78 79 7A"⟩,
    ⟨0x1D538, "61 62"⟩, ⟨0x1D53B, "64 65 66 67"⟩, ⟨0x1D540, "69 6A 6B 6C 6D"⟩, ⟨0x1D546, "6F"⟩,
    ⟨0x1D54A, "73 74 75 76 77 78 79"⟩,
    ⟨0x1D552, "61 62 63 64 65 66 67 68 69 6A 6B 6C 6D 6E 6F 70 71 72 73 74 75 76 77 78 79 7A"⟩,
    ⟨0x1D56C, "61 62 63 64 65 66 67 68 69 6A 6B 6C 6D 6E 6F 70 71 72 73 74 75 76 77 78 79 7A"⟩,
    ⟨0x1D586, "61 62 63 64 65 66 67 68 69 6A 6B 6C 6D 6E 6F 70 71 72 73 74 75 76 77 78 79 7A"⟩,
    ⟨0x1D5A0, "61 62 63 64 65 66 67 68 69 6A 6B 6C 6D 6E 6F 70 71 72 73 74 75 76 77 78 79 7A"⟩,
    ⟨0x1D5BA, "61 62 63 64 65 66 67 68 69 6A 6B 6C 6D 6E 6F 70 71 72 73 74 75 76 77 78 79 7A"⟩,
    ⟨0x1D5D4, "61 62 63 64 65 66 67 68 69 6A 6B 6C 6D 6E 6F 70 71 72 73 74 75 76 77 78 79 7A"⟩,
    ⟨0x1D5EE, "61 62 63 64 65 66 67 68 69 6A 6B 6C 6D 6E 6F 70 71 72 73 74 75 76 77 78 79 7A"⟩,
    ⟨0x1D608, "61 62 63 64 65 66 67 68 69 6A 6B 6C 6D 6E 6F 70 71 72 73 74 75 76 77 78 79 7A"⟩,
    ⟨0x1D622, "61 62 63 64 65 66 67 68 69 6A 6B 6C 6D 6E 6F 70 71 72 73 74 75 76 77 78 79 7A"⟩,
    ⟨0x1D63C, "61 62 63 64 65 66 67 68 69 6A 6B 6C 6D 6E 6F 70 71 72 73 74 75 76 77 78 79 7A"⟩,
    ⟨0x1D656, "61 62 63 64 65 66 67 68 69 6A 6B 6C 6D 6E 6F 70 71 72 73 74 75 76 77 78 79 7A"⟩,
    ⟨0x1D670, "61 62 63 64 65 66 67 68 69 6A 6B 6C 6D 6E 6F 70 71 72 73 74 75 76 77 78 79 7A"⟩,
    ⟨0x1D68A, "61 62 63 64 65 66 67 68 69 6A 6B 6C 6D 6E 6F 70 71 72 73 74 75 76 77 78 79 7A"⟩,
    ⟨0x1D6A4, "131 237"⟩,
    ⟨0x1D6A8, "3B1 3B2 3B3 3B4 3B5 3B6 3B7 3B8 3B9 3BA 3BB 3BC 3BD 3BE 3BF 3C0 3C1 3B8 3C3 3C4"⟩,
    ⟨0x1D6BC, "3C5 3C6 3C7 3C8 3C9 2207 3B1 3B2 3B3 3B4 3B5 3B6 3B7 3B8 3B9 3BA 3BB 3BC 3BD"⟩,
    ⟨0x1D6CF, "3BE 3BF 3C0 3C1 3C3 3C3 3C4 3C5 3C6 3C7 3C8 3C9 2202 3B5 3B8 3BA 3C6 3C1 3C0"⟩,
    ⟨0x1D6E2, "3B1 3B2 3B3 3B4 3B5 3B6 3B7 3B8 3B9 3BA 3BB 3BC 3BD 3BE 3BF 3C0 3C1 3B8 3C3 3C4"⟩,
    ⟨0x1D6F6, "3C5 3C6 3C7 3C8 3C9 2207 3B1 3B2 3B3 3B4 3B5 3B6 3B7 3B8 3B9 3BA 3BB 3BC 3BD"⟩,
    ⟨0x1D709, "3BE 3BF 3C0 3C1 3C3 3C3 3C4 3C5 3C6 3C7 3C8 3C9 2202 3B5 3B8 3BA 3C6 3C1 3C0"⟩,
    ⟨0x1D71C, "3B1 3B2 3B3 3B4 3B5 3B6 3B7 3B8 3B9 3BA 3BB 3BC 3BD 3BE 3BF 3C0 3C1 3B8 3C3 3C4"⟩,
    ⟨0x1D730, "3C5 3C6 3C7 3C8 3C9 2207 3B1 3B2 3B3 3B4 3B5 3B6 3B7 3B8 3B9 3BA 3BB 3BC 3BD"⟩,
    ⟨0x1D743, "3BE 3BF 3C0 3C1 3C3 3C3 3C4 3C5 3C6 3C7 3C8 3C9 2202 3B5 3B8 3BA 3C6 3C1 3C0"⟩,
    ⟨0x1D756, "3B1 3B2 3B3 3B4 3B5 3B6 3B7 3B8 3B9 3BA 3BB 3BC 3BD 3BE 3BF 3C0 3C1 3B8 3C3 3C4"⟩,
    ⟨0x1D76A, "3C5 3C6 3C7 3C8 3C9 2207 3B1 3B2 3B3 3B4 3B5 3B6 3B7 3B8 3B9 3BA 3BB 3BC 3BD"⟩,
    ⟨0x1D77D, "3BE 3BF 3C0 3C1 3C3 3C3 3C4 3C5 3C6 3C7 3C8 3C9 2202 3B5 3B8 3BA 3C6 3C1 3C0"⟩,
    ⟨0x1D790, "3B1 3B2 3B3 3B4 3B5 3B6 3B7 3B8 3B9 3BA 3BB 3BC 3BD 3BE 3BF 3C0 3C1 3B8 3C3 3C4"⟩,
    ⟨0x1D7A4, "3C5 3C6 3C7 3C8 3C9 2207 3B1 3B2 3B3 3B4 3B5 3B6 3B7 3B8 3B9 3BA 3BB 3BC 3BD"⟩,
    ⟨0x1D7B7, "3BE 3BF 3C0 3C1 3C3 3C3 3C4 3C5 3C6 3C7 3C8 3C9 2202 3B5 3B8 3BA 3C6 3C1 3C0"⟩,
    ⟨0x1D7CA, "3DD 3DD"⟩,
    ⟨0x1D7CE, "30 31 32 33 34 35 36 37 38 39 30 31 32 33 34 35 36 37 38 39 30 31 32 33 34 35"⟩,
    ⟨0x1D7E8, "36 37 38 39 30 31 32 33 34 35 36 37 38 39 30 31 32 33 34 35 36 37 38 39"⟩,
    ⟨0x1E030, "430 431 432 433 434 435 436 437 438 43A 43B 43C 43E 43F 440 441 442 443 444 445"⟩,
    ⟨0x1E044, "446 447 448 44B 44D 44E A689 4D9 456 458 4E9 4AF 4CF 430 431 432 433 434 435"⟩,
    ⟨0x1E057, "436 437 438 43A 43B 43E 43F 441 443 444 445 446 447 448 44A 44B 491 456 455 45F"⟩,
    ⟨0x1E06B, "4AB A651 4B1"⟩, ⟨0x1EE00, "627 628 62C 62F"⟩,
    ⟨0x1EE05, "648 632 62D 637 64A 643 644 645 646 633 639 641 635 642 631 634 62A 62B 62E 630"⟩,
    ⟨0x1EE19, "636 638 63A 66E 6BA 6A1 66F"⟩, ⟨0x1EE21, "628 62C"⟩, ⟨0x1EE24, "647"⟩,
    ⟨0x1EE27, "62D"⟩, ⟨0x1EE29, "64A 643 644 645 646 633 639 641 635 642"⟩,
    ⟨0x1EE34, "634 62A 62B 62E"⟩, ⟨0x1EE39, "636"⟩, ⟨0x1EE3B, "63A"⟩, ⟨0x1EE42, "62C"⟩,
    ⟨0x1EE47, "62D"⟩, ⟨0x1EE49, "64A"⟩, ⟨0x1EE4B, "644"⟩, ⟨0x1EE4D, "646 633 639"⟩,
    ⟨0x1EE51, "635 642"⟩, ⟨0x1EE54, "634"⟩, ⟨0x1EE57, "62E"⟩, ⟨0x1EE59, "636"⟩, ⟨0x1EE5B, "63A"⟩,
    ⟨0x1EE5D, "6BA"⟩, ⟨0x1EE5F, "66F"⟩, ⟨0x1EE61, "628 62C"⟩, ⟨0x1EE64, "647"⟩,
    ⟨0x1EE67, "62D 637 64A 643"⟩, ⟨0x1EE6C, "645 646 633 639 641 635 642"⟩,
    ⟨0x1EE74, "634 62A 62B 62E"⟩, ⟨0x1EE79, "636 638 63A 66E"⟩, ⟨0x1EE7E, "6A1"⟩,
    ⟨0x1EE80, "627 628 62C 62F 647 648 632 62D 637 64A"⟩,
    ⟨0x1EE8B, "644 645 646 633 639 641 635 642 631 634 62A 62B 62E 630 636 638 63A"⟩,
    ⟨0x1EEA1, "628 62C 62F"⟩, ⟨0x1EEA5, "648 632 62D 637 64A"⟩,
    ⟨0x1EEAB, "644 645 646 633 639 641 635 642 631 634 62A 62B 62E 630 636 638 63A"⟩,
    ⟨0x1F101, "30,2C 31,2C 32,2C 33,2C 34,2C 35,2C 36,2C 37,2C 38,2C 39,2C"⟩,
    ⟨0x1F110, "28,61,29 28,62,29 28,63,29 28,64,29 28,65,29 28,66,29 28,67,29 28,68,29"⟩,
    ⟨0x1F118, "28,69,29 28,6A,29 28,6B,29 28,6C,29 28,6D,29 28,6E,29 28,6F,29 28,70,29"⟩,
    ⟨0x1F120, "28,71,29 28,72,29 28,73,29 28,74,29 28,75,29 28,76,29 28,77,29 28,78,29"⟩,
    ⟨0x1F128, "28,79,29 28,7A,29 3014,73,3015 63 72 63,64 77,7A"⟩,
    ⟨0x1F130, "61 62 63 64 65 66 67 68 69 6A 6B 6C 6D 6E 6F 70 71 72 73 74 75 76 77 78 79 7A"⟩,
    ⟨0x1F14A, "68,76 6D,76 73,64 73,73 70,70,76 77,63"⟩, ⟨0x1F16A, "6D,63 6D,64 6D,72"⟩,
    ⟨0x1F190, "64,6A"⟩, ⟨0x1F200, "307B,304B 30B3,30B3 30B5"⟩,
    ⟨0x1F210, "624B 5B57 53CC 30C7 4E8C 591A 89E3 5929 4EA4 6620 7121 6599 524D 5F8C 518D 65B0"⟩,
    ⟨0x1F220, "521D 7D42 751F 8CA9 58F0 5439 6F14 6295 6355 4E00 4E09 904A 5DE6 4E2D 53F3 6307"⟩,
    ⟨0x1F230, "8D70 6253 7981 7A7A 5408 6E80 6709 6708 7533 5272 55B6 914D"⟩,
    ⟨0x1F240, "3014,672C,3015 3014,4E09,3015 3014,4E8C,3015 3014,5B89,3015 3014,70B9,3015"⟩,
    ⟨0x1F245, "3014,6253,3015 3014,76D7,3015 3014,52DD,3015 3014,6557,3015"⟩,
    ⟨0x1F250, "5F97 53EF"⟩, ⟨0x1FBF0, "30 31 32 33 34 35 36 37 38 39"⟩,
    ⟨0x2F800, "4E3D 4E38 4E41 20122 4F60 4FAE 4FBB 5002 507A 5099 50E7 50CF 349E 2063A 514D"⟩,
    ⟨0x2F80F, "5154 5164 5177 2051C 34B9 5167 518D 2054B 5197 51A4 4ECC 51AC 51B5 291DF 51F5"⟩,
    ⟨0x2F81E, "5203 34DF 523B 5246 5272 5277 3515 52C7 52C9 52E4 52FA 5305 5306 5317 5349 5351"⟩,
    ⟨0x2F82E, "535A 5373 537D 537F 537F 537F 20A2C 7070 53CA 53DF 20B63 53EB 53F1 5406 549E"⟩,
    ⟨0x2F83D, "5438 5448 5468 54A2 54F6 5510 5553 5563 5584 5584 5599 55AB 55B3 55C2 5716 5606"⟩,
    ⟨0x2F84D, "5717 5651 5674 5207 58EE 57CE 57F4 580D 578B 5832 5831 58AC 214E4 58F2 58F7"⟩,
    ⟨0x2F85C, "5906 591A 5922 5962 216A8 216EA 59EC 5A1B 5A27 59D8 5A66 36EE 36FC 5B08 5B3E"⟩,
    ⟨0x2F86B, "5B3E 219C8 5BC3 5BD8 5BE7 5BF3 21B18 5BFF 5C06 5F53 5C22 3781 5C60 5C6E 5CC0"⟩,
    ⟨0x2F87A, "5C8D 21DE4 5D43 21DE6 5D6E 5D6B 5D7C 5DE1 5DE2 382F 5DFD 5E28 5E3D 5E69 3862"⟩,
    ⟨0x2F889, "22183 387C 5EB0 5EB3 5EB6 5ECA 2A392 5EFE 22331 22331 8201 5F22 5F22 38C7 232B8"⟩,
    ⟨0x2F898, "261DA 5F62 5F6B 38E3 5F9A 5FCD 5FD7 5FF9 6081 393A 391C 6094 226D4 60C7 6148"⟩,
    ⟨0x2F8A7, "614C 614E 614C 617A 618E 61B2 61A4 61AF 61DE 61F2 61F6 6210 621B 625D 62B1 62D4"⟩,
    ⟨0x2F8B7, "6350 22B0C 633D 62FC 6368 6383 63E4 22BF1 6422 63C5 63A9 3A2E 6469 647E 649D"⟩,
    ⟨0x2F8C6, "6477 3A6C 654F 656C 2300A 65E3 66F8 6649 3B19 6691 3B08 3AE4 5192 5195 6700"⟩,
    ⟨0x2F8D5, "669C 80AD 43D9 6717 671B 6721 675E 6753 233C3 3B49 67FA 6785 6852 6885 2346D"⟩,
    ⟨0x2F8E4, "688E 681F 6914 3B9D 6942 69A3 69EA 6AA8 236A3 6ADB 3C18 6B21 238A7 6B54 3C4E"⟩,
    ⟨0x2F8F3, "6B72 6B9F 6BBA 6BBB 23A8D 21D0B 23AFA 6C4E 23CBC 6CBF 6CCD 6C67 6D16 6D3E 6D77"⟩,
    ⟨0x2F902, "6D41 6D69 6D78 6D85 23D1E 6D34 6E2F 6E6E 3D33 6ECB 6EC7 23ED1 6DF9 6F6E 23F5E"⟩,
    ⟨0x2F911, "23F8E 6FC6 7039 701E 701B 3D96 704A 707D 7077 70AD 20525 7145 24263 719C 243AB"⟩,
    ⟨0x2F920, "7228 7235 7250 24608 7280 7295 24735 24814 737A 738B 3EAC 73A5 3EB8 3EB8 7447"⟩,
    ⟨0x2F92F, "745C 7471 7485 74CA 3F1B 7524 24C36 753E 24C92 7570 2219F 7610 24FA1 24FB8"⟩,
    ⟨0x2F93D, "25044 3FFC 4008 76F4 250F3 250F2 25119 25133 771E 771F 771F 774A 4039 778B 4046"⟩,
    ⟨0x2F94C, "4096 2541D 784E 788C 78CC 40E3 25626 7956 2569A 256C5 798F 79EB 412F 7A40 7A4A"⟩,
    ⟨0x2F95B, "7A4F 2597C 25AA7 25AA7 7AEE 4202 25BAB 7BC6 7BC9 4227 25C80 7CD2 42A0 7CE8 7CE3"⟩,
    ⟨0x2F96A, "7D00 25F86 7D63 4301 7DC7 7E02 7E45 4334 26228 26247 4359 262D9 7F7A 2633E 7F95"⟩,
    ⟨0x2F979, "7FFA 8005 264DA 26523 8060 265A8 8070 2335F 43D5 80B2 8103 440B 813E 5AB5 267A7"⟩,
    ⟨0x2F988, "267B5 23393 2339C 8201 8204 8F9E 446B 8291 828B 829D 52B3 82B1 82B3 82BD 82E6"⟩,
    ⟨0x2F997, "26B3C 82E5 831D 8363 83AD 8323 83BD 83E7 8457 8353 83CA 83CC 83DC 26C36 26D6B"⟩,
    ⟨0x2F9A6, "26CD5 452B 84F1 84F3 8516 273CA 8564 26F2C 455D 4561 26FB1 270D2 456B 8650 865C"⟩,
    ⟨0x2F9B5, "8667 8669 86A9 8688 870E 86E2 8779 8728 876B 8786 45D7 87E1 8801 45F9 8860 8863"⟩,
    ⟨0x2F9C5, "27667 88D7 88DE 4635 88FA 34BB 278AE 27966 46BE 46C7 8AA0 8AED 8B8A 8C55 27CA8"⟩,
    ⟨0x2F9D4, "8CAB 8CC1 8D1B 8D77 27F2F 20804 8DCB 8DBC 8DF0 208DE 8ED4 8F38 285D2 285ED 9094"⟩,
    ⟨0x2F9E3, "90F1 9111 2872E 911B 9238 92D7 92D8 927C 93F9 9415 28BFA 958B 4995 95B7 28D77"⟩,
    ⟨0x2F9F2, "49E6 96C3 5DB2 9723 29145 2921A 4A6E 4A76 97E0 2940A 4AB2 29496 980B 980B 9829"⟩,
    ⟨0x2FA01, "295B6 98E2 4B33 9929 99A7 99C2 99FE 4BCE 29B30 9B12 9C40 9CFD 4CCE 4CED 9D67"⟩,
    ⟨0x2FA10, "2A0CE 4CF8 2A105 2A20E 2A291 9EBB 4D56 9EF9 9EFE 9F05 9F0F 9F16 9F3B 2A600"⟩]

end ServiceHealth.Net.Name
