import XmlSchema.Unicode.Category

/-!
# Binary properties

The characters with each binary property of the Unicode character database, and the table of a
property by any of its names (`property?`).
-/

namespace XmlSchema.Unicode

/-- The property ASCII Hex Digit. -/
def propertyASCIIHexDigit : RangeTable := .ofText
  ["30..39 41..46 61..66"]

/-- The property Bidi Control. -/
def propertyBidiControl : RangeTable := .ofText
  ["61C 200E..200F 202A..202E 2066..2069"]

/-- The property Bidi Mirrored. -/
def propertyBidiMirrored : RangeTable := .ofText
  ["28..29 3C 3E 5B 5D 7B 7D AB BB F3A..F3D 169B..169C 2039..203A 2045..2046 207D..207E",
    "208D..208E 2140 2201..2204 2208..220D 2211 2215..2216 221A..221D 221F..2222 2224 2226",
    "222B..2233 2239 223B..224C 2252..2255 225F..2260 2262 2264..226B 226E..228C 228F..2292 2298",
    "22A2..22A3 22A6..22B8 22BE..22BF 22C9..22CD 22D0..22D1 22D6..22ED 22F0..22FF 2308..230B",
    "2320..2321 2329..232A 2768..2775 27C0 27C3..27C6 27C8..27C9 27CB..27CD 27D3..27D6 27DC..27DE",
    "27E2..27EF 2983..2998 299B..29A0 29A2..29AF 29B8 29C0..29C5 29C9 29CE..29D2 29D4..29D5",
    "29D8..29DC 29E1 29E3..29E5 29E8..29E9 29F4..29F9 29FC..29FD 2A0A..2A1C 2A1E..2A21 2A24 2A26",
    "2A29 2A2B..2A2E 2A34..2A35 2A3C..2A3E 2A57..2A58 2A64..2A65 2A6A..2A6D 2A6F..2A70 2A73..2A74",
    "2A79..2AA3 2AA6..2AAD 2AAF..2AD6 2ADC 2ADE 2AE2..2AE6 2AEC..2AEE 2AF3 2AF7..2AFB 2AFD 2BFE",
    "2E02..2E05 2E09..2E0A 2E0C..2E0D 2E1C..2E1D 2E20..2E29 2E55..2E5C 3008..3011 3014..301B",
    "FE59..FE5E FE64..FE65 FF08..FF09 FF1C FF1E FF3B FF3D FF5B FF5D FF5F..FF60 FF62..FF63 1D6DB",
    "1D715 1D74F 1D789 1D7C3"]

/-- The property Changes When Casefolded. -/
def propertyChangesWhenCasefolded : RangeTable := .ofText
  ["41..5A B5 C0..D6 D8..DF 100 102 104 106 108 10A 10C 10E 110 112 114 116 118 11A 11C 11E 120",
    "122 124 126 128 12A 12C 12E 130 132 134 136 139 13B 13D 13F 141 143 145 147 149..14A 14C 14E",
    "150 152 154 156 158 15A 15C 15E 160 162 164 166 168 16A 16C 16E 170 172 174 176 178..179 17B",
    "17D 17F 181..182 184 186..187 189..18B 18E..191 193..194 196..198 19C..19D 19F..1A0 1A2 1A4",
    "1A6..1A7 1A9 1AC 1AE..1AF 1B1..1B3 1B5 1B7..1B8 1BC 1C4..1C5 1C7..1C8 1CA..1CB 1CD 1CF 1D1",
    "1D3 1D5 1D7 1D9 1DB 1DE 1E0 1E2 1E4 1E6 1E8 1EA 1EC 1EE 1F1..1F2 1F4 1F6..1F8 1FA 1FC 1FE",
    "200 202 204 206 208 20A 20C 20E 210 212 214 216 218 21A 21C 21E 220 222 224 226 228 22A 22C",
    "22E 230 232 23A..23B 23D..23E 241 243..246 248 24A 24C 24E 345 370 372 376 37F 386 388..38A",
    "38C 38E..38F 391..3A1 3A3..3AB 3C2 3CF..3D1 3D5..3D6 3D8 3DA 3DC 3DE 3E0 3E2 3E4 3E6 3E8 3EA",
    "3EC 3EE 3F0..3F1 3F4..3F5 3F7 3F9..3FA 3FD..42F 460 462 464 466 468 46A 46C 46E 470 472 474",
    "476 478 47A 47C 47E 480 48A 48C 48E 490 492 494 496 498 49A 49C 49E 4A0 4A2 4A4 4A6 4A8 4AA",
    "4AC 4AE 4B0 4B2 4B4 4B6 4B8 4BA 4BC 4BE 4C0..4C1 4C3 4C5 4C7 4C9 4CB 4CD 4D0 4D2 4D4 4D6 4D8",
    "4DA 4DC 4DE 4E0 4E2 4E4 4E6 4E8 4EA 4EC 4EE 4F0 4F2 4F4 4F6 4F8 4FA 4FC 4FE 500 502 504 506",
    "508 50A 50C 50E 510 512 514 516 518 51A 51C 51E 520 522 524 526 528 52A 52C 52E 531..556 587",
    "10A0..10C5 10C7 10CD 13F8..13FD 1C80..1C88 1C90..1CBA 1CBD..1CBF 1E00 1E02 1E04 1E06 1E08",
    "1E0A 1E0C 1E0E 1E10 1E12 1E14 1E16 1E18 1E1A 1E1C 1E1E 1E20 1E22 1E24 1E26 1E28 1E2A 1E2C",
    "1E2E 1E30 1E32 1E34 1E36 1E38 1E3A 1E3C 1E3E 1E40 1E42 1E44 1E46 1E48 1E4A 1E4C 1E4E 1E50",
    "1E52 1E54 1E56 1E58 1E5A 1E5C 1E5E 1E60 1E62 1E64 1E66 1E68 1E6A 1E6C 1E6E 1E70 1E72 1E74",
    "1E76 1E78 1E7A 1E7C 1E7E 1E80 1E82 1E84 1E86 1E88 1E8A 1E8C 1E8E 1E90 1E92 1E94 1E9A..1E9B",
    "1E9E 1EA0 1EA2 1EA4 1EA6 1EA8 1EAA 1EAC 1EAE 1EB0 1EB2 1EB4 1EB6 1EB8 1EBA 1EBC 1EBE 1EC0",
    "1EC2 1EC4 1EC6 1EC8 1ECA 1ECC 1ECE 1ED0 1ED2 1ED4 1ED6 1ED8 1EDA 1EDC 1EDE 1EE0 1EE2 1EE4",
    "1EE6 1EE8 1EEA 1EEC 1EEE 1EF0 1EF2 1EF4 1EF6 1EF8 1EFA 1EFC 1EFE 1F08..1F0F 1F18..1F1D",
    "1F28..1F2F 1F38..1F3F 1F48..1F4D 1F59 1F5B 1F5D 1F5F 1F68..1F6F 1F80..1FAF 1FB2..1FB4",
    "1FB7..1FBC 1FC2..1FC4 1FC7..1FCC 1FD8..1FDB 1FE8..1FEC 1FF2..1FF4 1FF7..1FFC 2126 212A..212B",
    "2132 2160..216F 2183 24B6..24CF 2C00..2C2F 2C60 2C62..2C64 2C67 2C69 2C6B 2C6D..2C70 2C72",
    "2C75 2C7E..2C80 2C82 2C84 2C86 2C88 2C8A 2C8C 2C8E 2C90 2C92 2C94 2C96 2C98 2C9A 2C9C 2C9E",
    "2CA0 2CA2 2CA4 2CA6 2CA8 2CAA 2CAC 2CAE 2CB0 2CB2 2CB4 2CB6 2CB8 2CBA 2CBC 2CBE 2CC0 2CC2",
    "2CC4 2CC6 2CC8 2CCA 2CCC 2CCE 2CD0 2CD2 2CD4 2CD6 2CD8 2CDA 2CDC 2CDE 2CE0 2CE2 2CEB 2CED",
    "2CF2 A640 A642 A644 A646 A648 A64A A64C A64E A650 A652 A654 A656 A658 A65A A65C A65E A660",
    "A662 A664 A666 A668 A66A A66C A680 A682 A684 A686 A688 A68A A68C A68E A690 A692 A694 A696",
    "A698 A69A A722 A724 A726 A728 A72A A72C A72E A732 A734 A736 A738 A73A A73C A73E A740 A742",
    "A744 A746 A748 A74A A74C A74E A750 A752 A754 A756 A758 A75A A75C A75E A760 A762 A764 A766",
    "A768 A76A A76C A76E A779 A77B A77D..A77E A780 A782 A784 A786 A78B A78D A790 A792 A796 A798",
    "A79A A79C A79E A7A0 A7A2 A7A4 A7A6 A7A8 A7AA..A7AE A7B0..A7B4 A7B6 A7B8 A7BA A7BC A7BE A7C0",
    "A7C2 A7C4..A7C7 A7C9 A7D0 A7D6 A7D8 A7F5 AB70..ABBF FB00..FB06 FB13..FB17 FF21..FF3A",
    "10400..10427 104B0..104D3 10570..1057A 1057C..1058A 1058C..10592 10594..10595 10C80..10CB2",
    "118A0..118BF 16E40..16E5F 1E900..1E921"]

/-- The property Changes When Lowercased. -/
def propertyChangesWhenLowercased : RangeTable := .ofText
  ["41..5A C0..D6 D8..DE 100 102 104 106 108 10A 10C 10E 110 112 114 116 118 11A 11C 11E 120 122",
    "124 126 128 12A 12C 12E 130 132 134 136 139 13B 13D 13F 141 143 145 147 14A 14C 14E 150 152",
    "154 156 158 15A 15C 15E 160 162 164 166 168 16A 16C 16E 170 172 174 176 178..179 17B 17D",
    "181..182 184 186..187 189..18B 18E..191 193..194 196..198 19C..19D 19F..1A0 1A2 1A4 1A6..1A7",
    "1A9 1AC 1AE..1AF 1B1..1B3 1B5 1B7..1B8 1BC 1C4..1C5 1C7..1C8 1CA..1CB 1CD 1CF 1D1 1D3 1D5",
    "1D7 1D9 1DB 1DE 1E0 1E2 1E4 1E6 1E8 1EA 1EC 1EE 1F1..1F2 1F4 1F6..1F8 1FA 1FC 1FE 200 202",
    "204 206 208 20A 20C 20E 210 212 214 216 218 21A 21C 21E 220 222 224 226 228 22A 22C 22E 230",
    "232 23A..23B 23D..23E 241 243..246 248 24A 24C 24E 370 372 376 37F 386 388..38A 38C 38E..38F",
    "391..3A1 3A3..3AB 3CF 3D8 3DA 3DC 3DE 3E0 3E2 3E4 3E6 3E8 3EA 3EC 3EE 3F4 3F7 3F9..3FA",
    "3FD..42F 460 462 464 466 468 46A 46C 46E 470 472 474 476 478 47A 47C 47E 480 48A 48C 48E 490",
    "492 494 496 498 49A 49C 49E 4A0 4A2 4A4 4A6 4A8 4AA 4AC 4AE 4B0 4B2 4B4 4B6 4B8 4BA 4BC 4BE",
    "4C0..4C1 4C3 4C5 4C7 4C9 4CB 4CD 4D0 4D2 4D4 4D6 4D8 4DA 4DC 4DE 4E0 4E2 4E4 4E6 4E8 4EA 4EC",
    "4EE 4F0 4F2 4F4 4F6 4F8 4FA 4FC 4FE 500 502 504 506 508 50A 50C 50E 510 512 514 516 518 51A",
    "51C 51E 520 522 524 526 528 52A 52C 52E 531..556 10A0..10C5 10C7 10CD 13A0..13F5 1C90..1CBA",
    "1CBD..1CBF 1E00 1E02 1E04 1E06 1E08 1E0A 1E0C 1E0E 1E10 1E12 1E14 1E16 1E18 1E1A 1E1C 1E1E",
    "1E20 1E22 1E24 1E26 1E28 1E2A 1E2C 1E2E 1E30 1E32 1E34 1E36 1E38 1E3A 1E3C 1E3E 1E40 1E42",
    "1E44 1E46 1E48 1E4A 1E4C 1E4E 1E50 1E52 1E54 1E56 1E58 1E5A 1E5C 1E5E 1E60 1E62 1E64 1E66",
    "1E68 1E6A 1E6C 1E6E 1E70 1E72 1E74 1E76 1E78 1E7A 1E7C 1E7E 1E80 1E82 1E84 1E86 1E88 1E8A",
    "1E8C 1E8E 1E90 1E92 1E94 1E9E 1EA0 1EA2 1EA4 1EA6 1EA8 1EAA 1EAC 1EAE 1EB0 1EB2 1EB4 1EB6",
    "1EB8 1EBA 1EBC 1EBE 1EC0 1EC2 1EC4 1EC6 1EC8 1ECA 1ECC 1ECE 1ED0 1ED2 1ED4 1ED6 1ED8 1EDA",
    "1EDC 1EDE 1EE0 1EE2 1EE4 1EE6 1EE8 1EEA 1EEC 1EEE 1EF0 1EF2 1EF4 1EF6 1EF8 1EFA 1EFC 1EFE",
    "1F08..1F0F 1F18..1F1D 1F28..1F2F 1F38..1F3F 1F48..1F4D 1F59 1F5B 1F5D 1F5F 1F68..1F6F",
    "1F88..1F8F 1F98..1F9F 1FA8..1FAF 1FB8..1FBC 1FC8..1FCC 1FD8..1FDB 1FE8..1FEC 1FF8..1FFC 2126",
    "212A..212B 2132 2160..216F 2183 24B6..24CF 2C00..2C2F 2C60 2C62..2C64 2C67 2C69 2C6B",
    "2C6D..2C70 2C72 2C75 2C7E..2C80 2C82 2C84 2C86 2C88 2C8A 2C8C 2C8E 2C90 2C92 2C94 2C96 2C98",
    "2C9A 2C9C 2C9E 2CA0 2CA2 2CA4 2CA6 2CA8 2CAA 2CAC 2CAE 2CB0 2CB2 2CB4 2CB6 2CB8 2CBA 2CBC",
    "2CBE 2CC0 2CC2 2CC4 2CC6 2CC8 2CCA 2CCC 2CCE 2CD0 2CD2 2CD4 2CD6 2CD8 2CDA 2CDC 2CDE 2CE0",
    "2CE2 2CEB 2CED 2CF2 A640 A642 A644 A646 A648 A64A A64C A64E A650 A652 A654 A656 A658 A65A",
    "A65C A65E A660 A662 A664 A666 A668 A66A A66C A680 A682 A684 A686 A688 A68A A68C A68E A690",
    "A692 A694 A696 A698 A69A A722 A724 A726 A728 A72A A72C A72E A732 A734 A736 A738 A73A A73C",
    "A73E A740 A742 A744 A746 A748 A74A A74C A74E A750 A752 A754 A756 A758 A75A A75C A75E A760",
    "A762 A764 A766 A768 A76A A76C A76E A779 A77B A77D..A77E A780 A782 A784 A786 A78B A78D A790",
    "A792 A796 A798 A79A A79C A79E A7A0 A7A2 A7A4 A7A6 A7A8 A7AA..A7AE A7B0..A7B4 A7B6 A7B8 A7BA",
    "A7BC A7BE A7C0 A7C2 A7C4..A7C7 A7C9 A7D0 A7D6 A7D8 A7F5 FF21..FF3A 10400..10427 104B0..104D3",
    "10570..1057A 1057C..1058A 1058C..10592 10594..10595 10C80..10CB2 118A0..118BF 16E40..16E5F",
    "1E900..1E921"]

/-- The property Changes When Titlecased. -/
def propertyChangesWhenTitlecased : RangeTable := .ofText
  ["61..7A B5 DF..F6 F8..FF 101 103 105 107 109 10B 10D 10F 111 113 115 117 119 11B 11D 11F 121",
    "123 125 127 129 12B 12D 12F 131 133 135 137 13A 13C 13E 140 142 144 146 148..149 14B 14D 14F",
    "151 153 155 157 159 15B 15D 15F 161 163 165 167 169 16B 16D 16F 171 173 175 177 17A 17C",
    "17E..180 183 185 188 18C 192 195 199..19A 19E 1A1 1A3 1A5 1A8 1AD 1B0 1B4 1B6 1B9 1BD 1BF",
    "1C4 1C6..1C7 1C9..1CA 1CC 1CE 1D0 1D2 1D4 1D6 1D8 1DA 1DC..1DD 1DF 1E1 1E3 1E5 1E7 1E9 1EB",
    "1ED 1EF..1F1 1F3 1F5 1F9 1FB 1FD 1FF 201 203 205 207 209 20B 20D 20F 211 213 215 217 219 21B",
    "21D 21F 223 225 227 229 22B 22D 22F 231 233 23C 23F..240 242 247 249 24B 24D 24F..254",
    "256..257 259 25B..25C 260..261 263 265..266 268..26C 26F 271..272 275 27D 280 282..283",
    "287..28C 292 29D..29E 345 371 373 377 37B..37D 390 3AC..3CE 3D0..3D1 3D5..3D7 3D9 3DB 3DD",
    "3DF 3E1 3E3 3E5 3E7 3E9 3EB 3ED 3EF..3F3 3F5 3F8 3FB 430..45F 461 463 465 467 469 46B 46D",
    "46F 471 473 475 477 479 47B 47D 47F 481 48B 48D 48F 491 493 495 497 499 49B 49D 49F 4A1 4A3",
    "4A5 4A7 4A9 4AB 4AD 4AF 4B1 4B3 4B5 4B7 4B9 4BB 4BD 4BF 4C2 4C4 4C6 4C8 4CA 4CC 4CE..4CF 4D1",
    "4D3 4D5 4D7 4D9 4DB 4DD 4DF 4E1 4E3 4E5 4E7 4E9 4EB 4ED 4EF 4F1 4F3 4F5 4F7 4F9 4FB 4FD 4FF",
    "501 503 505 507 509 50B 50D 50F 511 513 515 517 519 51B 51D 51F 521 523 525 527 529 52B 52D",
    "52F 561..587 13F8..13FD 1C80..1C88 1D79 1D7D 1D8E 1E01 1E03 1E05 1E07 1E09 1E0B 1E0D 1E0F",
    "1E11 1E13 1E15 1E17 1E19 1E1B 1E1D 1E1F 1E21 1E23 1E25 1E27 1E29 1E2B 1E2D 1E2F 1E31 1E33",
    "1E35 1E37 1E39 1E3B 1E3D 1E3F 1E41 1E43 1E45 1E47 1E49 1E4B 1E4D 1E4F 1E51 1E53 1E55 1E57",
    "1E59 1E5B 1E5D 1E5F 1E61 1E63 1E65 1E67 1E69 1E6B 1E6D 1E6F 1E71 1E73 1E75 1E77 1E79 1E7B",
    "1E7D 1E7F 1E81 1E83 1E85 1E87 1E89 1E8B 1E8D 1E8F 1E91 1E93 1E95..1E9B 1EA1 1EA3 1EA5 1EA7",
    "1EA9 1EAB 1EAD 1EAF 1EB1 1EB3 1EB5 1EB7 1EB9 1EBB 1EBD 1EBF 1EC1 1EC3 1EC5 1EC7 1EC9 1ECB",
    "1ECD 1ECF 1ED1 1ED3 1ED5 1ED7 1ED9 1EDB 1EDD 1EDF 1EE1 1EE3 1EE5 1EE7 1EE9 1EEB 1EED 1EEF",
    "1EF1 1EF3 1EF5 1EF7 1EF9 1EFB 1EFD 1EFF..1F07 1F10..1F15 1F20..1F27 1F30..1F37 1F40..1F45",
    "1F50..1F57 1F60..1F67 1F70..1F7D 1F80..1F87 1F90..1F97 1FA0..1FA7 1FB0..1FB4 1FB6..1FB7 1FBE",
    "1FC2..1FC4 1FC6..1FC7 1FD0..1FD3 1FD6..1FD7 1FE0..1FE7 1FF2..1FF4 1FF6..1FF7 214E 2170..217F",
    "2184 24D0..24E9 2C30..2C5F 2C61 2C65..2C66 2C68 2C6A 2C6C 2C73 2C76 2C81 2C83 2C85 2C87 2C89",
    "2C8B 2C8D 2C8F 2C91 2C93 2C95 2C97 2C99 2C9B 2C9D 2C9F 2CA1 2CA3 2CA5 2CA7 2CA9 2CAB 2CAD",
    "2CAF 2CB1 2CB3 2CB5 2CB7 2CB9 2CBB 2CBD 2CBF 2CC1 2CC3 2CC5 2CC7 2CC9 2CCB 2CCD 2CCF 2CD1",
    "2CD3 2CD5 2CD7 2CD9 2CDB 2CDD 2CDF 2CE1 2CE3 2CEC 2CEE 2CF3 2D00..2D25 2D27 2D2D A641 A643",
    "A645 A647 A649 A64B A64D A64F A651 A653 A655 A657 A659 A65B A65D A65F A661 A663 A665 A667",
    "A669 A66B A66D A681 A683 A685 A687 A689 A68B A68D A68F A691 A693 A695 A697 A699 A69B A723",
    "A725 A727 A729 A72B A72D A72F A733 A735 A737 A739 A73B A73D A73F A741 A743 A745 A747 A749",
    "A74B A74D A74F A751 A753 A755 A757 A759 A75B A75D A75F A761 A763 A765 A767 A769 A76B A76D",
    "A76F A77A A77C A77F A781 A783 A785 A787 A78C A791 A793..A794 A797 A799 A79B A79D A79F A7A1",
    "A7A3 A7A5 A7A7 A7A9 A7B5 A7B7 A7B9 A7BB A7BD A7BF A7C1 A7C3 A7C8 A7CA A7D1 A7D7 A7D9 A7F6",
    "AB53 AB70..ABBF FB00..FB06 FB13..FB17 FF41..FF5A 10428..1044F 104D8..104FB 10597..105A1",
    "105A3..105B1 105B3..105B9 105BB..105BC 10CC0..10CF2 118C0..118DF 16E60..16E7F 1E922..1E943"]

/-- The property Changes When Uppercased. -/
def propertyChangesWhenUppercased : RangeTable := .ofText
  ["61..7A B5 DF..F6 F8..FF 101 103 105 107 109 10B 10D 10F 111 113 115 117 119 11B 11D 11F 121",
    "123 125 127 129 12B 12D 12F 131 133 135 137 13A 13C 13E 140 142 144 146 148..149 14B 14D 14F",
    "151 153 155 157 159 15B 15D 15F 161 163 165 167 169 16B 16D 16F 171 173 175 177 17A 17C",
    "17E..180 183 185 188 18C 192 195 199..19A 19E 1A1 1A3 1A5 1A8 1AD 1B0 1B4 1B6 1B9 1BD 1BF",
    "1C5..1C6 1C8..1C9 1CB..1CC 1CE 1D0 1D2 1D4 1D6 1D8 1DA 1DC..1DD 1DF 1E1 1E3 1E5 1E7 1E9 1EB",
    "1ED 1EF..1F0 1F2..1F3 1F5 1F9 1FB 1FD 1FF 201 203 205 207 209 20B 20D 20F 211 213 215 217",
    "219 21B 21D 21F 223 225 227 229 22B 22D 22F 231 233 23C 23F..240 242 247 249 24B 24D",
    "24F..254 256..257 259 25B..25C 260..261 263 265..266 268..26C 26F 271..272 275 27D 280",
    "282..283 287..28C 292 29D..29E 345 371 373 377 37B..37D 390 3AC..3CE 3D0..3D1 3D5..3D7 3D9",
    "3DB 3DD 3DF 3E1 3E3 3E5 3E7 3E9 3EB 3ED 3EF..3F3 3F5 3F8 3FB 430..45F 461 463 465 467 469",
    "46B 46D 46F 471 473 475 477 479 47B 47D 47F 481 48B 48D 48F 491 493 495 497 499 49B 49D 49F",
    "4A1 4A3 4A5 4A7 4A9 4AB 4AD 4AF 4B1 4B3 4B5 4B7 4B9 4BB 4BD 4BF 4C2 4C4 4C6 4C8 4CA 4CC",
    "4CE..4CF 4D1 4D3 4D5 4D7 4D9 4DB 4DD 4DF 4E1 4E3 4E5 4E7 4E9 4EB 4ED 4EF 4F1 4F3 4F5 4F7 4F9",
    "4FB 4FD 4FF 501 503 505 507 509 50B 50D 50F 511 513 515 517 519 51B 51D 51F 521 523 525 527",
    "529 52B 52D 52F 561..587 10D0..10FA 10FD..10FF 13F8..13FD 1C80..1C88 1D79 1D7D 1D8E 1E01",
    "1E03 1E05 1E07 1E09 1E0B 1E0D 1E0F 1E11 1E13 1E15 1E17 1E19 1E1B 1E1D 1E1F 1E21 1E23 1E25",
    "1E27 1E29 1E2B 1E2D 1E2F 1E31 1E33 1E35 1E37 1E39 1E3B 1E3D 1E3F 1E41 1E43 1E45 1E47 1E49",
    "1E4B 1E4D 1E4F 1E51 1E53 1E55 1E57 1E59 1E5B 1E5D 1E5F 1E61 1E63 1E65 1E67 1E69 1E6B 1E6D",
    "1E6F 1E71 1E73 1E75 1E77 1E79 1E7B 1E7D 1E7F 1E81 1E83 1E85 1E87 1E89 1E8B 1E8D 1E8F 1E91",
    "1E93 1E95..1E9B 1EA1 1EA3 1EA5 1EA7 1EA9 1EAB 1EAD 1EAF 1EB1 1EB3 1EB5 1EB7 1EB9 1EBB 1EBD",
    "1EBF 1EC1 1EC3 1EC5 1EC7 1EC9 1ECB 1ECD 1ECF 1ED1 1ED3 1ED5 1ED7 1ED9 1EDB 1EDD 1EDF 1EE1",
    "1EE3 1EE5 1EE7 1EE9 1EEB 1EED 1EEF 1EF1 1EF3 1EF5 1EF7 1EF9 1EFB 1EFD 1EFF..1F07 1F10..1F15",
    "1F20..1F27 1F30..1F37 1F40..1F45 1F50..1F57 1F60..1F67 1F70..1F7D 1F80..1FB4 1FB6..1FB7 1FBC",
    "1FBE 1FC2..1FC4 1FC6..1FC7 1FCC 1FD0..1FD3 1FD6..1FD7 1FE0..1FE7 1FF2..1FF4 1FF6..1FF7 1FFC",
    "214E 2170..217F 2184 24D0..24E9 2C30..2C5F 2C61 2C65..2C66 2C68 2C6A 2C6C 2C73 2C76 2C81",
    "2C83 2C85 2C87 2C89 2C8B 2C8D 2C8F 2C91 2C93 2C95 2C97 2C99 2C9B 2C9D 2C9F 2CA1 2CA3 2CA5",
    "2CA7 2CA9 2CAB 2CAD 2CAF 2CB1 2CB3 2CB5 2CB7 2CB9 2CBB 2CBD 2CBF 2CC1 2CC3 2CC5 2CC7 2CC9",
    "2CCB 2CCD 2CCF 2CD1 2CD3 2CD5 2CD7 2CD9 2CDB 2CDD 2CDF 2CE1 2CE3 2CEC 2CEE 2CF3 2D00..2D25",
    "2D27 2D2D A641 A643 A645 A647 A649 A64B A64D A64F A651 A653 A655 A657 A659 A65B A65D A65F",
    "A661 A663 A665 A667 A669 A66B A66D A681 A683 A685 A687 A689 A68B A68D A68F A691 A693 A695",
    "A697 A699 A69B A723 A725 A727 A729 A72B A72D A72F A733 A735 A737 A739 A73B A73D A73F A741",
    "A743 A745 A747 A749 A74B A74D A74F A751 A753 A755 A757 A759 A75B A75D A75F A761 A763 A765",
    "A767 A769 A76B A76D A76F A77A A77C A77F A781 A783 A785 A787 A78C A791 A793..A794 A797 A799",
    "A79B A79D A79F A7A1 A7A3 A7A5 A7A7 A7A9 A7B5 A7B7 A7B9 A7BB A7BD A7BF A7C1 A7C3 A7C8 A7CA",
    "A7D1 A7D7 A7D9 A7F6 AB53 AB70..ABBF FB00..FB06 FB13..FB17 FF41..FF5A 10428..1044F",
    "104D8..104FB 10597..105A1 105A3..105B1 105B3..105B9 105BB..105BC 10CC0..10CF2 118C0..118DF",
    "16E60..16E7F 1E922..1E943"]

/-- The property Dash. -/
def propertyDash : RangeTable := .ofText
  ["2D 58A 5BE 1400 1806 2010..2015 2053 207B 208B 2212 2E17 2E1A 2E3A..2E3B 2E40 2E5D 301C 3030",
    "30A0 FE31..FE32 FE58 FE63 FF0D 10EAD"]

/-- The property Default Ignorable Code Point. -/
def propertyDefaultIgnorableCodePoint : RangeTable := .ofText
  ["AD 34F 61C 115F..1160 17B4..17B5 180B..180F 200B..200F 202A..202E 2060..206F 3164 FE00..FE0F",
    "FEFF FFA0 FFF0..FFF8 1BCA0..1BCA3 1D173..1D17A E0000..E0FFF"]

/-- The property Deprecated. -/
def propertyDeprecated : RangeTable := .ofText
  ["149 673 F77 F79 17A3..17A4 206A..206F 2329..232A E0001"]

/-- The property Diacritic. -/
def propertyDiacritic : RangeTable := .ofText
  ["5E 60 A8 AF B4 B7..B8 2B0..34E 350..357 35D..362 374..375 37A 384..385 483..487 559 591..5A1",
    "5A3..5BD 5BF 5C1..5C2 5C4 64B..652 657..658 6DF..6E0 6E5..6E6 6EA..6EC 730..74A 7A6..7B0",
    "7EB..7F5 818..819 898..89F 8C9..8D2 8E3..8FE 93C 94D 951..954 971 9BC 9CD A3C A4D ABC ACD",
    "AFD..AFF B3C B4D B55 BCD C3C C4D CBC CCD D3B..D3C D4D DCA E47..E4C E4E EBA EC8..ECC F18..F19",
    "F35 F37 F39 F3E..F3F F82..F84 F86..F87 FC6 1037 1039..103A 1063..1064 1069..106D 1087..108D",
    "108F 109A..109B 135D..135F 1714..1715 17C9..17D3 17DD 1939..193B 1A75..1A7C 1A7F 1AB0..1ABE",
    "1AC1..1ACB 1B34 1B44 1B6B..1B73 1BAA..1BAB 1C36..1C37 1C78..1C7D 1CD0..1CE8 1CED 1CF4",
    "1CF7..1CF9 1D2C..1D6A 1DC4..1DCF 1DF5..1DFF 1FBD 1FBF..1FC1 1FCD..1FCF 1FDD..1FDF 1FED..1FEF",
    "1FFD..1FFE 2CEF..2CF1 2E2F 302A..302F 3099..309C 30FC A66F A67C..A67D A67F A69C..A69D",
    "A6F0..A6F1 A700..A721 A788..A78A A7F8..A7F9 A8C4 A8E0..A8F1 A92B..A92E A953 A9B3 A9C0 A9E5",
    "AA7B..AA7D AABF..AAC2 AAF6 AB5B..AB5F AB69..AB6B ABEC..ABED FB1E FE20..FE2F FF3E FF40 FF70",
    "FF9E..FF9F FFE3 102E0 10780..10785 10787..107B0 107B2..107BA 10AE5..10AE6 10D22..10D27",
    "10EFD..10EFF 10F46..10F50 10F82..10F85 11046 11070 110B9..110BA 11133..11134 11173 111C0",
    "111CA..111CC 11235..11236 112E9..112EA 1133C 1134D 11366..1136C 11370..11374 11442 11446",
    "114C2..114C3 115BF..115C0 1163F 116B6..116B7 1172B 11839..1183A 1193D..1193E 11943 119E0",
    "11A34 11A47 11A99 11C3F 11D42 11D44..11D45 11D97 13447..13455 16AF0..16AF4 16B30..16B36",
    "16F8F..16F9F 16FF0..16FF1 1AFF0..1AFF3 1AFF5..1AFFB 1AFFD..1AFFE 1CF00..1CF2D 1CF30..1CF46",
    "1D167..1D169 1D16D..1D172 1D17B..1D182 1D185..1D18B 1D1AA..1D1AD 1E030..1E06D 1E130..1E136",
    "1E2AE 1E2EC..1E2EF 1E8D0..1E8D6 1E944..1E946 1E948..1E94A"]

/-- The property Emoji. -/
def propertyEmoji : RangeTable := .ofText
  ["23 2A 30..39 A9 AE 203C 2049 2122 2139 2194..2199 21A9..21AA 231A..231B 2328 23CF 23E9..23F3",
    "23F8..23FA 24C2 25AA..25AB 25B6 25C0 25FB..25FE 2600..2604 260E 2611 2614..2615 2618 261D",
    "2620 2622..2623 2626 262A 262E..262F 2638..263A 2640 2642 2648..2653 265F..2660 2663",
    "2665..2666 2668 267B 267E..267F 2692..2697 2699 269B..269C 26A0..26A1 26A7 26AA..26AB",
    "26B0..26B1 26BD..26BE 26C4..26C5 26C8 26CE..26CF 26D1 26D3..26D4 26E9..26EA 26F0..26F5",
    "26F7..26FA 26FD 2702 2705 2708..270D 270F 2712 2714 2716 271D 2721 2728 2733..2734 2744 2747",
    "274C 274E 2753..2755 2757 2763..2764 2795..2797 27A1 27B0 27BF 2934..2935 2B05..2B07",
    "2B1B..2B1C 2B50 2B55 3030 303D 3297 3299 1F004 1F0CF 1F170..1F171 1F17E..1F17F 1F18E",
    "1F191..1F19A 1F1E6..1F1FF 1F201..1F202 1F21A 1F22F 1F232..1F23A 1F250..1F251 1F300..1F321",
    "1F324..1F393 1F396..1F397 1F399..1F39B 1F39E..1F3F0 1F3F3..1F3F5 1F3F7..1F4FD 1F4FF..1F53D",
    "1F549..1F54E 1F550..1F567 1F56F..1F570 1F573..1F57A 1F587 1F58A..1F58D 1F590 1F595..1F596",
    "1F5A4..1F5A5 1F5A8 1F5B1..1F5B2 1F5BC 1F5C2..1F5C4 1F5D1..1F5D3 1F5DC..1F5DE 1F5E1 1F5E3",
    "1F5E8 1F5EF 1F5F3 1F5FA..1F64F 1F680..1F6C5 1F6CB..1F6D2 1F6D5..1F6D7 1F6DC..1F6E5 1F6E9",
    "1F6EB..1F6EC 1F6F0 1F6F3..1F6FC 1F7E0..1F7EB 1F7F0 1F90C..1F93A 1F93C..1F945 1F947..1F9FF",
    "1FA70..1FA7C 1FA80..1FA88 1FA90..1FABD 1FABF..1FAC5 1FACE..1FADB 1FAE0..1FAE8 1FAF0..1FAF8"]

/-- The property Emoji Component. -/
def propertyEmojiComponent : RangeTable := .ofText
  ["23 2A 30..39 200D 20E3 FE0F 1F1E6..1F1FF 1F3FB..1F3FF 1F9B0..1F9B3 E0020..E007F"]

/-- The property Emoji Modifier. -/
def propertyEmojiModifier : RangeTable := .ofText
  ["1F3FB..1F3FF"]

/-- The property Emoji Modifier Base. -/
def propertyEmojiModifierBase : RangeTable := .ofText
  ["261D 26F9 270A..270D 1F385 1F3C2..1F3C4 1F3C7 1F3CA..1F3CC 1F442..1F443 1F446..1F450",
    "1F466..1F478 1F47C 1F481..1F483 1F485..1F487 1F48F 1F491 1F4AA 1F574..1F575 1F57A 1F590",
    "1F595..1F596 1F645..1F647 1F64B..1F64F 1F6A3 1F6B4..1F6B6 1F6C0 1F6CC 1F90C 1F90F",
    "1F918..1F91F 1F926 1F930..1F939 1F93C..1F93E 1F977 1F9B5..1F9B6 1F9B8..1F9B9 1F9BB",
    "1F9CD..1F9CF 1F9D1..1F9DD 1FAC3..1FAC5 1FAF0..1FAF8"]

/-- The property Emoji Presentation. -/
def propertyEmojiPresentation : RangeTable := .ofText
  ["231A..231B 23E9..23EC 23F0 23F3 25FD..25FE 2614..2615 2648..2653 267F 2693 26A1 26AA..26AB",
    "26BD..26BE 26C4..26C5 26CE 26D4 26EA 26F2..26F3 26F5 26FA 26FD 2705 270A..270B 2728 274C",
    "274E 2753..2755 2757 2795..2797 27B0 27BF 2B1B..2B1C 2B50 2B55 1F004 1F0CF 1F18E",
    "1F191..1F19A 1F1E6..1F1FF 1F201 1F21A 1F22F 1F232..1F236 1F238..1F23A 1F250..1F251",
    "1F300..1F320 1F32D..1F335 1F337..1F37C 1F37E..1F393 1F3A0..1F3CA 1F3CF..1F3D3 1F3E0..1F3F0",
    "1F3F4 1F3F8..1F43E 1F440 1F442..1F4FC 1F4FF..1F53D 1F54B..1F54E 1F550..1F567 1F57A",
    "1F595..1F596 1F5A4 1F5FB..1F64F 1F680..1F6C5 1F6CC 1F6D0..1F6D2 1F6D5..1F6D7 1F6DC..1F6DF",
    "1F6EB..1F6EC 1F6F4..1F6FC 1F7E0..1F7EB 1F7F0 1F90C..1F93A 1F93C..1F945 1F947..1F9FF",
    "1FA70..1FA7C 1FA80..1FA88 1FA90..1FABD 1FABF..1FAC5 1FACE..1FADB 1FAE0..1FAE8 1FAF0..1FAF8"]

/-- The property Extended Pictographic. -/
def propertyExtendedPictographic : RangeTable := .ofText
  ["A9 AE 203C 2049 2122 2139 2194..2199 21A9..21AA 231A..231B 2328 2388 23CF 23E9..23F3",
    "23F8..23FA 24C2 25AA..25AB 25B6 25C0 25FB..25FE 2600..2605 2607..2612 2614..2685 2690..2705",
    "2708..2712 2714 2716 271D 2721 2728 2733..2734 2744 2747 274C 274E 2753..2755 2757",
    "2763..2767 2795..2797 27A1 27B0 27BF 2934..2935 2B05..2B07 2B1B..2B1C 2B50 2B55 3030 303D",
    "3297 3299 1F000..1F0FF 1F10D..1F10F 1F12F 1F16C..1F171 1F17E..1F17F 1F18E 1F191..1F19A",
    "1F1AD..1F1E5 1F201..1F20F 1F21A 1F22F 1F232..1F23A 1F23C..1F23F 1F249..1F3FA 1F400..1F53D",
    "1F546..1F64F 1F680..1F6FF 1F774..1F77F 1F7D5..1F7FF 1F80C..1F80F 1F848..1F84F 1F85A..1F85F",
    "1F888..1F88F 1F8AE..1F8FF 1F90C..1F93A 1F93C..1F945 1F947..1FAFF 1FC00..1FFFD"]

/-- The property Extender. -/
def propertyExtender : RangeTable := .ofText
  ["B7 2D0..2D1 640 7FA B55 E46 EC6 180A 1843 1AA7 1C36 1C7B 3005 3031..3035 309D..309E",
    "30FC..30FE A015 A60C A9CF A9E6 AA70 AADD AAF3..AAF4 FF70 10781..10782 1135D 115C6..115C8",
    "11A98 16B42..16B43 16FE0..16FE1 16FE3 1E13C..1E13D 1E944..1E946"]

/-- The property Hex Digit. -/
def propertyHexDigit : RangeTable := .ofText
  ["30..39 41..46 61..66 FF10..FF19 FF21..FF26 FF41..FF46"]

/-- The property Hyphen. -/
def propertyHyphen : RangeTable := .ofText
  ["2D AD 58A 1806 2010..2011 2E17 30FB FE63 FF0D FF65"]

/-- The property IDS Binary Operator. -/
def propertyIDSBinaryOperator : RangeTable := .ofText
  ["2FF0..2FF1 2FF4..2FFB"]

/-- The property IDS Trinary Operator. -/
def propertyIDSTrinaryOperator : RangeTable := .ofText
  ["2FF2..2FF3"]

/-- The property Ideographic. -/
def propertyIdeographic : RangeTable := .ofText
  ["3006..3007 3021..3029 3038..303A 3400..4DBF 4E00..9FFF F900..FA6D FA70..FAD9 16FE4",
    "17000..187F7 18800..18CD5 18D00..18D08 1B170..1B2FB 20000..2A6DF 2A700..2B739 2B740..2B81D",
    "2B820..2CEA1 2CEB0..2EBE0 2F800..2FA1D 30000..3134A 31350..323AF"]

/-- The property Join Control. -/
def propertyJoinControl : RangeTable := .ofText
  ["200C..200D"]

/-- The property Logical Order Exception. -/
def propertyLogicalOrderException : RangeTable := .ofText
  ["E40..E44 EC0..EC4 19B5..19B7 19BA AAB5..AAB6 AAB9 AABB..AABC"]

/-- The property Math. -/
def propertyMath : RangeTable := .ofText
  ["2B 3C..3E 5E 7C 7E AC B1 D7 F7 3D0..3D2 3D5 3F0..3F1 3F4..3F6 606..608 2016 2032..2034 2040",
    "2044 2052 2061..2064 207A..207E 208A..208E 20D0..20DC 20E1 20E5..20E6 20EB..20EF 2102 2107",
    "210A..2113 2115 2118..211D 2124 2128..2129 212C..212D 212F..2131 2133..2138 213C..2149 214B",
    "2190..21A7 21A9..21AE 21B0..21B1 21B6..21B7 21BC..21DB 21DD 21E4..21E5 21F4..22FF 2308..230B",
    "2320..2321 237C 239B..23B5 23B7 23D0 23DC..23E2 25A0..25A1 25AE..25B7 25BC..25C1 25C6..25C7",
    "25CA..25CB 25CF..25D3 25E2 25E4 25E7..25EC 25F8..25FF 2605..2606 2640 2642 2660..2663",
    "266D..266F 27C0..27FF 2900..2AFF 2B30..2B44 2B47..2B4C FB29 FE61..FE66 FE68 FF0B FF1C..FF1E",
    "FF3C FF3E FF5C FF5E FFE2 FFE9..FFEC 1D400..1D454 1D456..1D49C 1D49E..1D49F 1D4A2",
    "1D4A5..1D4A6 1D4A9..1D4AC 1D4AE..1D4B9 1D4BB 1D4BD..1D4C3 1D4C5..1D505 1D507..1D50A",
    "1D50D..1D514 1D516..1D51C 1D51E..1D539 1D53B..1D53E 1D540..1D544 1D546 1D54A..1D550",
    "1D552..1D6A5 1D6A8..1D7CB 1D7CE..1D7FF 1EE00..1EE03 1EE05..1EE1F 1EE21..1EE22 1EE24 1EE27",
    "1EE29..1EE32 1EE34..1EE37 1EE39 1EE3B 1EE42 1EE47 1EE49 1EE4B 1EE4D..1EE4F 1EE51..1EE52",
    "1EE54 1EE57 1EE59 1EE5B 1EE5D 1EE5F 1EE61..1EE62 1EE64 1EE67..1EE6A 1EE6C..1EE72",
    "1EE74..1EE77 1EE79..1EE7C 1EE7E 1EE80..1EE89 1EE8B..1EE9B 1EEA1..1EEA3 1EEA5..1EEA9",
    "1EEAB..1EEBB 1EEF0..1EEF1"]

/-- The property Noncharacter Code Point. -/
def propertyNoncharacterCodePoint : RangeTable := .ofText
  ["FDD0..FDEF FFFE..FFFF 1FFFE..1FFFF 2FFFE..2FFFF 3FFFE..3FFFF 4FFFE..4FFFF 5FFFE..5FFFF",
    "6FFFE..6FFFF 7FFFE..7FFFF 8FFFE..8FFFF 9FFFE..9FFFF AFFFE..AFFFF BFFFE..BFFFF CFFFE..CFFFF",
    "DFFFE..DFFFF EFFFE..EFFFF FFFFE..FFFFF 10FFFE..10FFFF"]

/-- The property Pattern Syntax. -/
def propertyPatternSyntax : RangeTable := .ofText
  ["21..2F 3A..40 5B..5E 60 7B..7E A1..A7 A9 AB..AC AE B0..B1 B6 BB BF D7 F7 2010..2027",
    "2030..203E 2041..2053 2055..205E 2190..245F 2500..2775 2794..2BFF 2E00..2E7F 3001..3003",
    "3008..3020 3030 FD3E..FD3F FE45..FE46"]

/-- The property Pattern White Space. -/
def propertyPatternWhiteSpace : RangeTable := .ofText
  ["9..D 20 85 200E..200F 2028..2029"]

/-- The property Prepended Concatenation Mark. -/
def propertyPrependedConcatenationMark : RangeTable := .ofText
  ["600..605 6DD 70F 890..891 8E2 110BD 110CD"]

/-- The property Quotation Mark. -/
def propertyQuotationMark : RangeTable := .ofText
  ["22 27 AB BB 2018..201F 2039..203A 2E42 300C..300F 301D..301F FE41..FE44 FF02 FF07 FF62..FF63"]

/-- The property Radical. -/
def propertyRadical : RangeTable := .ofText
  ["2E80..2E99 2E9B..2EF3 2F00..2FD5"]

/-- The property Regional Indicator. -/
def propertyRegionalIndicator : RangeTable := .ofText
  ["1F1E6..1F1FF"]

/-- The property Sentence Terminal. -/
def propertySentenceTerminal : RangeTable := .ofText
  ["21 2E 3F 589 61D..61F 6D4 700..702 7F9 837 839 83D..83E 964..965 104A..104B 1362 1367..1368",
    "166E 1735..1736 1803 1809 1944..1945 1AA8..1AAB 1B5A..1B5B 1B5E..1B5F 1B7D..1B7E 1C3B..1C3C",
    "1C7E..1C7F 203C..203D 2047..2049 2E2E 2E3C 2E53..2E54 3002 A4FF A60E..A60F A6F3 A6F7",
    "A876..A877 A8CE..A8CF A92F A9C8..A9C9 AA5D..AA5F AAF0..AAF1 ABEB FE52 FE56..FE57 FF01 FF0E",
    "FF1F FF61 10A56..10A57 10F55..10F59 10F86..10F89 11047..11048 110BE..110C1 11141..11143",
    "111C5..111C6 111CD 111DE..111DF 11238..11239 1123B..1123C 112A9 1144B..1144C 115C2..115C3",
    "115C9..115D7 11641..11642 1173C..1173E 11944 11946 11A42..11A43 11A9B..11A9C 11C41..11C42",
    "11EF7..11EF8 11F43..11F44 16A6E..16A6F 16AF5 16B37..16B38 16B44 16E98 1BC9F 1DA88"]

/-- The property Soft Dotted. -/
def propertySoftDotted : RangeTable := .ofText
  ["69..6A 12F 249 268 29D 2B2 3F3 456 458 1D62 1D96 1DA4 1DA8 1E2D 1ECB 2071 2148..2149 2C7C",
    "1D422..1D423 1D456..1D457 1D48A..1D48B 1D4BE..1D4BF 1D4F2..1D4F3 1D526..1D527 1D55A..1D55B",
    "1D58E..1D58F 1D5C2..1D5C3 1D5F6..1D5F7 1D62A..1D62B 1D65E..1D65F 1D692..1D693 1DF1A",
    "1E04C..1E04D 1E068"]

/-- The property Terminal Punctuation. -/
def propertyTerminalPunctuation : RangeTable := .ofText
  ["21 2C 2E 3A..3B 3F 37E 387 589 5C3 60C 61B 61D..61F 6D4 700..70A 70C 7F8..7F9 830..83E 85E",
    "964..965 E5A..E5B F08 F0D..F12 104A..104B 1361..1368 166E 16EB..16ED 1735..1736 17D4..17D6",
    "17DA 1802..1805 1808..1809 1944..1945 1AA8..1AAB 1B5A..1B5B 1B5D..1B5F 1B7D..1B7E 1C3B..1C3F",
    "1C7E..1C7F 203C..203D 2047..2049 2E2E 2E3C 2E41 2E4C 2E4E..2E4F 2E53..2E54 3001..3002",
    "A4FE..A4FF A60D..A60F A6F3..A6F7 A876..A877 A8CE..A8CF A92F A9C7..A9C9 AA5D..AA5F AADF",
    "AAF0..AAF1 ABEB FE50..FE52 FE54..FE57 FF01 FF0C FF0E FF1A..FF1B FF1F FF61 FF64 1039F 103D0",
    "10857 1091F 10A56..10A57 10AF0..10AF5 10B3A..10B3F 10B99..10B9C 10F55..10F59 10F86..10F89",
    "11047..1104D 110BE..110C1 11141..11143 111C5..111C6 111CD 111DE..111DF 11238..1123C 112A9",
    "1144B..1144D 1145A..1145B 115C2..115C5 115C9..115D7 11641..11642 1173C..1173E 11944 11946",
    "11A42..11A43 11A9B..11A9C 11AA1..11AA2 11C41..11C43 11C71 11EF7..11EF8 11F43..11F44",
    "12470..12474 16A6E..16A6F 16AF5 16B37..16B39 16B44 16E97..16E98 1BC9F 1DA87..1DA8A"]

/-- The property Unified Ideograph. -/
def propertyUnifiedIdeograph : RangeTable := .ofText
  ["3400..4DBF 4E00..9FFF FA0E..FA0F FA11 FA13..FA14 FA1F FA21 FA23..FA24 FA27..FA29",
    "20000..2A6DF 2A700..2B739 2B740..2B81D 2B820..2CEA1 2CEB0..2EBE0 30000..3134A 31350..323AF"]

/-- The property Variation Selector. -/
def propertyVariationSelector : RangeTable := .ofText
  ["180B..180D 180F FE00..FE0F E0100..E01EF"]

/-- The property White Space. -/
def propertyWhiteSpace : RangeTable := .ofText
  ["9..D 20 85 A0 1680 2000..200A 2028..2029 202F 205F 3000"]

/-! ## Properties that follow from others -/

/-- The property Lowercase. -/
def propertyLowercase : RangeTable := .union
  [lowercaseLetter, .ofText
    ["AA BA 2B0..2B8 2C0..2C1 2E0..2E4 345 37A 10FC 1D2C..1D6A 1D78 1D9B..1DBF 2071 207F",
      "2090..209C 2170..217F 24D0..24E9 2C7C..2C7D A69C..A69D A770 A7F2..A7F4 A7F8..A7F9",
      "AB5C..AB5F AB69 10780 10783..10785 10787..107B0 107B2..107BA 1E030..1E06D"]]

/-- The property Uppercase. -/
def propertyUppercase : RangeTable := .union
  [uppercaseLetter, .ofText
    ["2160..216F 24B6..24CF 1F130..1F149 1F150..1F169 1F170..1F189"]]

/-- The property Cased. -/
def propertyCased : RangeTable := .union [propertyLowercase, propertyUppercase, titlecaseLetter]

/-- The property Case Ignorable. -/
def propertyCaseIgnorable : RangeTable := .union
  [nonspacingMark, enclosingMark, format, modifierLetter, modifierSymbol, .ofText
    ["27 2E 3A B7 387 55F 5F4 2018..2019 2024 2027 FE13 FE52 FE55 FF07 FF0E FF1A"]]

/-- The property Changes When Casemapped. -/
def propertyChangesWhenCasemapped : RangeTable := .union
  [propertyChangesWhenLowercased, propertyChangesWhenTitlecased, propertyChangesWhenUppercased]

/-- The property Alphabetic. -/
def propertyAlphabetic : RangeTable := .union
  [propertyCased, modifierLetter, otherLetter, letterNumber, .ofText
    ["5B0..5BD 5BF 5C1..5C2 5C4..5C5 5C7 610..61A 64B..657 659..65F 670 6D6..6DC 6E1..6E4",
      "6E7..6E8 6ED 711 730..73F 7A6..7B0 816..817 81B..823 825..827 829..82C 8D4..8DF",
      "8E3..8E9 8F0..903 93A..93B 93E..94C 94E..94F 955..957 962..963 981..983 9BE..9C4",
      "9C7..9C8 9CB..9CC 9D7 9E2..9E3 A01..A03 A3E..A42 A47..A48 A4B..A4C A51 A70..A71 A75",
      "A81..A83 ABE..AC5 AC7..AC9 ACB..ACC AE2..AE3 AFA..AFC B01..B03 B3E..B44 B47..B48",
      "B4B..B4C B56..B57 B62..B63 B82 BBE..BC2 BC6..BC8 BCA..BCC BD7 C00..C04 C3E..C44",
      "C46..C48 C4A..C4C C55..C56 C62..C63 C81..C83 CBE..CC4 CC6..CC8 CCA..CCC CD5..CD6",
      "CE2..CE3 CF3 D00..D03 D3E..D44 D46..D48 D4A..D4C D57 D62..D63 D81..D83 DCF..DD4 DD6",
      "DD8..DDF DF2..DF3 E31 E34..E3A E4D EB1 EB4..EB9 EBB..EBC ECD F71..F83 F8D..F97",
      "F99..FBC 102B..1036 1038 103B..103E 1056..1059 105E..1060 1062..1064 1067..106D",
      "1071..1074 1082..108D 108F 109A..109D 1712..1713 1732..1733 1752..1753 1772..1773",
      "17B6..17C8 1885..1886 18A9 1920..192B 1930..1938 1A17..1A1B 1A55..1A5E 1A61..1A74",
      "1ABF..1AC0 1ACC..1ACE 1B00..1B04 1B35..1B43 1B80..1B82 1BA1..1BA9 1BAC..1BAD",
      "1BE7..1BF1 1C24..1C36 1DE7..1DF4 2DE0..2DFF A674..A67B A69E..A69F A802 A80B",
      "A823..A827 A880..A881 A8B4..A8C3 A8C5 A8FF A926..A92A A947..A952 A980..A983",
      "A9B4..A9BF A9E5 AA29..AA36 AA43 AA4C..AA4D AA7B..AA7D AAB0 AAB2..AAB4 AAB7..AAB8",
      "AABE AAEB..AAEF AAF5 ABE3..ABEA FB1E 10376..1037A 10A01..10A03 10A05..10A06",
      "10A0C..10A0F 10D24..10D27 10EAB..10EAC 10EFC 11000..11002 11038..11045 11073..11074",
      "11080..11082 110B0..110B8 110C2 11100..11102 11127..11132 11145..11146 11180..11182",
      "111B3..111BF 111CE..111CF 1122C..11234 11237 1123E 11241 112DF..112E8 11300..11303",
      "1133E..11344 11347..11348 1134B..1134C 11357 11362..11363 113B8..113C0 113C2 113C5",
      "113C7..113CA 113CC..113CD 11435..11441 11443..11445 114B0..114C1 115AF..115B5",
      "115B8..115BE 115DC..115DD 11630..1163E 11640 116AB..116B5 1171D..1172A 1182C..11838",
      "11930..11935 11937..11938 1193B..1193C 11940 11942 119D1..119D7 119DA..119DF 119E4",
      "11A01..11A0A 11A35..11A39 11A3B..11A3E 11A51..11A5B 11A8A..11A97 11C2F..11C36",
      "11C38..11C3E 11C92..11CA7 11CA9..11CB6 11D31..11D36 11D3A 11D3C..11D3D 11D3F..11D41",
      "11D43 11D47 11D8A..11D8E 11D90..11D91 11D93..11D96 11EF3..11EF6 11F00..11F01 11F03",
      "11F34..11F3A 11F3E..11F40 1611E..1612E 16F4F 16F51..16F87 16F8F..16F92 16FF0..16FF1",
      "1BC9E 1E000..1E006 1E008..1E018 1E01B..1E021 1E023..1E024 1E026..1E02A 1E08F",
      "1E5EE..1E5EF 1E947"]]

/-- The property Grapheme Extend. -/
def propertyGraphemeExtend : RangeTable := .union
  [nonspacingMark, enclosingMark, .ofText
    ["9BE 9D7 B3E B57 BBE BD7 CC0 CC2 CC7..CC8 CCA..CCB CD5..CD6 D3E D57 DCF DDF 1715 1734",
      "1B35 1B3B 1B3D 1B43..1B44 1BAA 1BF2..1BF3 200C 302E..302F A953 A9C0 FF9E..FF9F 111C0",
      "11235 1133E 1134D 11357 113B8 113C2 113C5 113C7..113C9 113CF 114B0 114BD 115AF 116B6",
      "11930 1193D 11F41 16FF0..16FF1 1D165..1D166 1D16D..1D172 E0020..E007F"]]

/-- The property Grapheme Base. -/
def propertyGraphemeBase : RangeTable := RangeTable.complement <| .union
  [surrogates, other, lineSeparator, paragraphSeparator, propertyGraphemeExtend]

/-- The property ID Start. -/
def propertyIDStart : RangeTable := RangeTable.without
  (.union [letter, letterNumber, .ofText
    ["1885..1886 2118 212E 309B..309C"]])
  (.union [propertyPatternSyntax, propertyPatternWhiteSpace])

/-- The property ID Continue. -/
def propertyIDContinue : RangeTable := .union
  [propertyIDStart, nonspacingMark, spacingMark, decimalNumber, connectorPunctuation, .ofText
    ["B7 387 1369..1371 19DA"]]

/-- The property XID Start. -/
def propertyXIDStart : RangeTable := propertyIDStart.without <| .ofText
    ["37A E33 EB3 309B..309C FC5E..FC63 FDFA..FDFB FE70 FE72 FE74 FE76 FE78 FE7A FE7C FE7E",
      "FF9E..FF9F"]

/-- The property XID Continue. -/
def propertyXIDContinue : RangeTable := propertyIDContinue.without <| .ofText
    ["37A 309B..309C FC5E..FC63 FDFA..FDFB FE70 FE72 FE74 FE76 FE78 FE7A FE7C FE7E"]

/-- The table of the binary property with the given name, in normal form. -/
def property? (name : String) : Option RangeTable :=
  match name with
  | "ahex" | "asciihexdigit" => some propertyASCIIHexDigit
  | "alpha" | "alphabetic" => some propertyAlphabetic
  | "bidic" | "bidicontrol" => some propertyBidiControl
  | "bidim" | "bidimirrored" => some propertyBidiMirrored
  | "ci" | "caseignorable" => some propertyCaseIgnorable
  | "cased" => some propertyCased
  | "cwcf" | "changeswhencasefolded" => some propertyChangesWhenCasefolded
  | "cwcm" | "changeswhencasemapped" => some propertyChangesWhenCasemapped
  | "cwl" | "changeswhenlowercased" => some propertyChangesWhenLowercased
  | "cwt" | "changeswhentitlecased" => some propertyChangesWhenTitlecased
  | "cwu" | "changeswhenuppercased" => some propertyChangesWhenUppercased
  | "dash" => some propertyDash
  | "di" | "defaultignorablecodepoint" => some propertyDefaultIgnorableCodePoint
  | "dep" | "deprecated" => some propertyDeprecated
  | "dia" | "diacritic" => some propertyDiacritic
  | "emoji" => some propertyEmoji
  | "ecomp" | "emojicomponent" => some propertyEmojiComponent
  | "emod" | "emojimodifier" => some propertyEmojiModifier
  | "ebase" | "emojimodifierbase" => some propertyEmojiModifierBase
  | "epres" | "emojipresentation" => some propertyEmojiPresentation
  | "extpict" | "extendedpictographic" => some propertyExtendedPictographic
  | "ext" | "extender" => some propertyExtender
  | "grbase" | "graphemebase" => some propertyGraphemeBase
  | "grext" | "graphemeextend" => some propertyGraphemeExtend
  | "hex" | "hexdigit" => some propertyHexDigit
  | "hyphen" => some propertyHyphen
  | "idsb" | "idsbinaryoperator" => some propertyIDSBinaryOperator
  | "idst" | "idstrinaryoperator" => some propertyIDSTrinaryOperator
  | "idc" | "idcontinue" => some propertyIDContinue
  | "ids" | "idstart" => some propertyIDStart
  | "ideo" | "ideographic" => some propertyIdeographic
  | "joinc" | "joincontrol" => some propertyJoinControl
  | "loe" | "logicalorderexception" => some propertyLogicalOrderException
  | "lower" | "lowercase" => some propertyLowercase
  | "math" => some propertyMath
  | "nchar" | "noncharactercodepoint" => some propertyNoncharacterCodePoint
  | "patsyn" | "patternsyntax" => some propertyPatternSyntax
  | "patws" | "patternwhitespace" => some propertyPatternWhiteSpace
  | "pcm" | "prependedconcatenationmark" => some propertyPrependedConcatenationMark
  | "qmark" | "quotationmark" => some propertyQuotationMark
  | "radical" => some propertyRadical
  | "ri" | "regionalindicator" => some propertyRegionalIndicator
  | "sterm" | "sentenceterminal" => some propertySentenceTerminal
  | "sd" | "softdotted" => some propertySoftDotted
  | "term" | "terminalpunctuation" => some propertyTerminalPunctuation
  | "uideo" | "unifiedideograph" => some propertyUnifiedIdeograph
  | "upper" | "uppercase" => some propertyUppercase
  | "vs" | "variationselector" => some propertyVariationSelector
  | "wspace" | "whitespace" | "space" => some propertyWhiteSpace
  | "xidc" | "xidcontinue" => some propertyXIDContinue
  | "xids" | "xidstart" => some propertyXIDStart
  | _ => none

end XmlSchema.Unicode
