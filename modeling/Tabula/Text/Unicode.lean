/-!
Unicode character data of version 14 as sorted tables of code points: letters and digits, decimal
digits, the code points a quoted text does not show as themselves, and the small and capital forms
of letters, as runs whose mapped form lies a fixed offset away. The large tables are written as
text, hexadecimal numbers between blanks, which `hexNumbers` reads and `rangesOf` and `runsOf`
group.
-/

namespace Tabula.Unicode

/-- Is `c` in one of the ranges, which are sorted and disjoint? -/
def inRanges (rs : Array (Nat × Nat)) (c : Nat) : Bool :=
  go 40 0 rs.size
where
  go : Nat → Nat → Nat → Bool
    | 0, _, _ => false
    | fuel + 1, lo, hi =>
      if lo ≥ hi then false
      else
        let mid := (lo + hi) / 2
        let (a, b) := rs.getD mid (0, 0)
        if c < a then go fuel lo mid
        else if b < c then go fuel (mid + 1) hi
        else true

/-- The code point a case table maps `c` to. -/
def mapByRuns (rs : Array (Nat × Nat × Int × Nat)) (c : Nat) : Nat :=
  go 40 0 rs.size
where
  go : Nat → Nat → Nat → Nat
    | 0, _, _ => c
    | fuel + 1, lo, hi =>
      if lo ≥ hi then c
      else
        let mid := (lo + hi) / 2
        let (first, last, offset, stride) := rs.getD mid (0, 0, 0, 1)
        if c < first then go fuel lo mid
        else if last < c then go fuel (mid + 1) hi
        else if (c - first) % stride == 0 then ((c : Int) + offset).toNat
        else c

/-- The value of a hexadecimal digit. -/
def hexDigit? (c : Char) : Option Nat :=
  if '0' ≤ c && c ≤ '9' then some (c.toNat - '0'.toNat)
  else if 'A' ≤ c && c ≤ 'F' then some (c.toNat - 'A'.toNat + 10)
  else if 'a' ≤ c && c ≤ 'f' then some (c.toNat - 'a'.toNat + 10)
  else none

/-- The numbers of a table text: hexadecimal numerals, a minus sign before a negative one, with
blanks between them. -/
def hexNumbers (s : String) : List Int :=
  let close := fun (acc : List Int) (cur : Option (Bool × Nat)) =>
    match cur with
    | some (neg, n) => (if neg then -(n : Int) else (n : Int)) :: acc
    | none => acc
  let step := fun (st : List Int × Option (Bool × Nat)) (c : Char) =>
    match hexDigit? c with
    | some d =>
      (st.1, some (match st.2 with
        | some (neg, n) => (neg, n * 16 + d)
        | none => (false, d)))
    | none => if c == '-' then (st.1, some (true, 0)) else (close st.1 st.2, none)
  let (acc, cur) := s.toList.foldl step ([], none)
  (close acc cur).reverse

example : hexNumbers "1F -20" = [31, -32] := by decide

def rangesOf : List Int → List (Nat × Nat)
  | a :: b :: rest => (a.toNat, b.toNat) :: rangesOf rest
  | _ => []

def runsOf : List Int → List (Nat × Nat × Int × Nat)
  | a :: b :: c :: d :: rest => (a.toNat, b.toNat, c, d.toNat) :: runsOf rest
  | _ => []

/-- Letters and digits, and the underscore. -/
def wordRanges : Array (Nat × Nat) :=
  (rangesOf (hexNumbers "
  30 39  41 5A  5F 5F  61 7A  AA AA  B2 B3  B5 B5  B9 BA
  BC BE  C0 D6  D8 F6  F8 2C1  2C6 2D1  2E0 2E4  2EC 2EC  2EE 2EE
  370 374  376 377  37A 37D  37F 37F  386 386  388 38A  38C 38C  38E 3A1
  3A3 3F5  3F7 481  48A 52F  531 556  559 559  560 588  5D0 5EA  5EF 5F2
  620 64A  660 669  66E 66F  671 6D3  6D5 6D5  6E5 6E6  6EE 6FC  6FF 6FF
  710 710  712 72F  74D 7A5  7B1 7B1  7C0 7EA  7F4 7F5  7FA 7FA  800 815
  81A 81A  824 824  828 828  840 858  860 86A  870 887  889 88E  8A0 8C9
  904 939  93D 93D  950 950  958 961  966 96F  971 980  985 98C  98F 990
  993 9A8  9AA 9B0  9B2 9B2  9B6 9B9  9BD 9BD  9CE 9CE  9DC 9DD  9DF 9E1
  9E6 9F1  9F4 9F9  9FC 9FC  A05 A0A  A0F A10  A13 A28  A2A A30  A32 A33
  A35 A36  A38 A39  A59 A5C  A5E A5E  A66 A6F  A72 A74  A85 A8D  A8F A91
  A93 AA8  AAA AB0  AB2 AB3  AB5 AB9  ABD ABD  AD0 AD0  AE0 AE1  AE6 AEF
  AF9 AF9  B05 B0C  B0F B10  B13 B28  B2A B30  B32 B33  B35 B39  B3D B3D
  B5C B5D  B5F B61  B66 B6F  B71 B77  B83 B83  B85 B8A  B8E B90  B92 B95
  B99 B9A  B9C B9C  B9E B9F  BA3 BA4  BA8 BAA  BAE BB9  BD0 BD0  BE6 BF2
  C05 C0C  C0E C10  C12 C28  C2A C39  C3D C3D  C58 C5A  C5D C5D  C60 C61
  C66 C6F  C78 C7E  C80 C80  C85 C8C  C8E C90  C92 CA8  CAA CB3  CB5 CB9
  CBD CBD  CDD CDE  CE0 CE1  CE6 CEF  CF1 CF2  D04 D0C  D0E D10  D12 D3A
  D3D D3D  D4E D4E  D54 D56  D58 D61  D66 D78  D7A D7F  D85 D96  D9A DB1
  DB3 DBB  DBD DBD  DC0 DC6  DE6 DEF  E01 E30  E32 E33  E40 E46  E50 E59
  E81 E82  E84 E84  E86 E8A  E8C EA3  EA5 EA5  EA7 EB0  EB2 EB3  EBD EBD
  EC0 EC4  EC6 EC6  ED0 ED9  EDC EDF  F00 F00  F20 F33  F40 F47  F49 F6C
  F88 F8C  1000 102A  103F 1049  1050 1055  105A 105D  1061 1061  1065 1066  106E 1070
  1075 1081  108E 108E  1090 1099  10A0 10C5  10C7 10C7  10CD 10CD  10D0 10FA  10FC 1248
  124A 124D  1250 1256  1258 1258  125A 125D  1260 1288  128A 128D  1290 12B0  12B2 12B5
  12B8 12BE  12C0 12C0  12C2 12C5  12C8 12D6  12D8 1310  1312 1315  1318 135A  1369 137C
  1380 138F  13A0 13F5  13F8 13FD  1401 166C  166F 167F  1681 169A  16A0 16EA  16EE 16F8
  1700 1711  171F 1731  1740 1751  1760 176C  176E 1770  1780 17B3  17D7 17D7  17DC 17DC
  17E0 17E9  17F0 17F9  1810 1819  1820 1878  1880 1884  1887 18A8  18AA 18AA  18B0 18F5
  1900 191E  1946 196D  1970 1974  1980 19AB  19B0 19C9  19D0 19DA  1A00 1A16  1A20 1A54
  1A80 1A89  1A90 1A99  1AA7 1AA7  1B05 1B33  1B45 1B4C  1B50 1B59  1B83 1BA0  1BAE 1BE5
  1C00 1C23  1C40 1C49  1C4D 1C7D  1C80 1C88  1C90 1CBA  1CBD 1CBF  1CE9 1CEC  1CEE 1CF3
  1CF5 1CF6  1CFA 1CFA  1D00 1DBF  1E00 1F15  1F18 1F1D  1F20 1F45  1F48 1F4D  1F50 1F57
  1F59 1F59  1F5B 1F5B  1F5D 1F5D  1F5F 1F7D  1F80 1FB4  1FB6 1FBC  1FBE 1FBE  1FC2 1FC4
  1FC6 1FCC  1FD0 1FD3  1FD6 1FDB  1FE0 1FEC  1FF2 1FF4  1FF6 1FFC  2070 2071  2074 2079
  207F 2089  2090 209C  2102 2102  2107 2107  210A 2113  2115 2115  2119 211D  2124 2124
  2126 2126  2128 2128  212A 212D  212F 2139  213C 213F  2145 2149  214E 214E  2150 2189
  2460 249B  24EA 24FF  2776 2793  2C00 2CE4  2CEB 2CEE  2CF2 2CF3  2CFD 2CFD  2D00 2D25
  2D27 2D27  2D2D 2D2D  2D30 2D67  2D6F 2D6F  2D80 2D96  2DA0 2DA6  2DA8 2DAE  2DB0 2DB6
  2DB8 2DBE  2DC0 2DC6  2DC8 2DCE  2DD0 2DD6  2DD8 2DDE  2E2F 2E2F  3005 3007  3021 3029
  3031 3035  3038 303C  3041 3096  309D 309F  30A1 30FA  30FC 30FF  3105 312F  3131 318E
  3192 3195  31A0 31BF  31F0 31FF  3220 3229  3248 324F  3251 325F  3280 3289  32B1 32BF
  3400 4DBF  4E00 A48C  A4D0 A4FD  A500 A60C  A610 A62B  A640 A66E  A67F A69D  A6A0 A6EF
  A717 A71F  A722 A788  A78B A7CA  A7D0 A7D1  A7D3 A7D3  A7D5 A7D9  A7F2 A801  A803 A805
  A807 A80A  A80C A822  A830 A835  A840 A873  A882 A8B3  A8D0 A8D9  A8F2 A8F7  A8FB A8FB
  A8FD A8FE  A900 A925  A930 A946  A960 A97C  A984 A9B2  A9CF A9D9  A9E0 A9E4  A9E6 A9FE
  AA00 AA28  AA40 AA42  AA44 AA4B  AA50 AA59  AA60 AA76  AA7A AA7A  AA7E AAAF  AAB1 AAB1
  AAB5 AAB6  AAB9 AABD  AAC0 AAC0  AAC2 AAC2  AADB AADD  AAE0 AAEA  AAF2 AAF4  AB01 AB06
  AB09 AB0E  AB11 AB16  AB20 AB26  AB28 AB2E  AB30 AB5A  AB5C AB69  AB70 ABE2  ABF0 ABF9
  AC00 D7A3  D7B0 D7C6  D7CB D7FB  F900 FA6D  FA70 FAD9  FB00 FB06  FB13 FB17  FB1D FB1D
  FB1F FB28  FB2A FB36  FB38 FB3C  FB3E FB3E  FB40 FB41  FB43 FB44  FB46 FBB1  FBD3 FD3D
  FD50 FD8F  FD92 FDC7  FDF0 FDFB  FE70 FE74  FE76 FEFC  FF10 FF19  FF21 FF3A  FF41 FF5A
  FF66 FFBE  FFC2 FFC7  FFCA FFCF  FFD2 FFD7  FFDA FFDC  10000 1000B  1000D 10026  10028 1003A
  1003C 1003D  1003F 1004D  10050 1005D  10080 100FA  10107 10133  10140 10178  1018A 1018B  10280 1029C
  102A0 102D0  102E1 102FB  10300 10323  1032D 1034A  10350 10375  10380 1039D  103A0 103C3  103C8 103CF
  103D1 103D5  10400 1049D  104A0 104A9  104B0 104D3  104D8 104FB  10500 10527  10530 10563  10570 1057A
  1057C 1058A  1058C 10592  10594 10595  10597 105A1  105A3 105B1  105B3 105B9  105BB 105BC  10600 10736
  10740 10755  10760 10767  10780 10785  10787 107B0  107B2 107BA  10800 10805  10808 10808  1080A 10835
  10837 10838  1083C 1083C  1083F 10855  10858 10876  10879 1089E  108A7 108AF  108E0 108F2  108F4 108F5
  108FB 1091B  10920 10939  10980 109B7  109BC 109CF  109D2 10A00  10A10 10A13  10A15 10A17  10A19 10A35
  10A40 10A48  10A60 10A7E  10A80 10A9F  10AC0 10AC7  10AC9 10AE4  10AEB 10AEF  10B00 10B35  10B40 10B55
  10B58 10B72  10B78 10B91  10BA9 10BAF  10C00 10C48  10C80 10CB2  10CC0 10CF2  10CFA 10D23  10D30 10D39
  10E60 10E7E  10E80 10EA9  10EB0 10EB1  10F00 10F27  10F30 10F45  10F51 10F54  10F70 10F81  10FB0 10FCB
  10FE0 10FF6  11003 11037  11052 1106F  11071 11072  11075 11075  11083 110AF  110D0 110E8  110F0 110F9
  11103 11126  11136 1113F  11144 11144  11147 11147  11150 11172  11176 11176  11183 111B2  111C1 111C4
  111D0 111DA  111DC 111DC  111E1 111F4  11200 11211  11213 1122B  11280 11286  11288 11288  1128A 1128D
  1128F 1129D  1129F 112A8  112B0 112DE  112F0 112F9  11305 1130C  1130F 11310  11313 11328  1132A 11330
  11332 11333  11335 11339  1133D 1133D  11350 11350  1135D 11361  11400 11434  11447 1144A  11450 11459
  1145F 11461  11480 114AF  114C4 114C5  114C7 114C7  114D0 114D9  11580 115AE  115D8 115DB  11600 1162F
  11644 11644  11650 11659  11680 116AA  116B8 116B8  116C0 116C9  11700 1171A  11730 1173B  11740 11746
  11800 1182B  118A0 118F2  118FF 11906  11909 11909  1190C 11913  11915 11916  11918 1192F  1193F 1193F
  11941 11941  11950 11959  119A0 119A7  119AA 119D0  119E1 119E1  119E3 119E3  11A00 11A00  11A0B 11A32
  11A3A 11A3A  11A50 11A50  11A5C 11A89  11A9D 11A9D  11AB0 11AF8  11C00 11C08  11C0A 11C2E  11C40 11C40
  11C50 11C6C  11C72 11C8F  11D00 11D06  11D08 11D09  11D0B 11D30  11D46 11D46  11D50 11D59  11D60 11D65
  11D67 11D68  11D6A 11D89  11D98 11D98  11DA0 11DA9  11EE0 11EF2  11FB0 11FB0  11FC0 11FD4  12000 12399
  12400 1246E  12480 12543  12F90 12FF0  13000 1342E  14400 14646  16800 16A38  16A40 16A5E  16A60 16A69
  16A70 16ABE  16AC0 16AC9  16AD0 16AED  16B00 16B2F  16B40 16B43  16B50 16B59  16B5B 16B61  16B63 16B77
  16B7D 16B8F  16E40 16E96  16F00 16F4A  16F50 16F50  16F93 16F9F  16FE0 16FE1  16FE3 16FE3  17000 187F7
  18800 18CD5  18D00 18D08  1AFF0 1AFF3  1AFF5 1AFFB  1AFFD 1AFFE  1B000 1B122  1B150 1B152  1B164 1B167
  1B170 1B2FB  1BC00 1BC6A  1BC70 1BC7C  1BC80 1BC88  1BC90 1BC99  1D2E0 1D2F3  1D360 1D378  1D400 1D454
  1D456 1D49C  1D49E 1D49F  1D4A2 1D4A2  1D4A5 1D4A6  1D4A9 1D4AC  1D4AE 1D4B9  1D4BB 1D4BB  1D4BD 1D4C3
  1D4C5 1D505  1D507 1D50A  1D50D 1D514  1D516 1D51C  1D51E 1D539  1D53B 1D53E  1D540 1D544  1D546 1D546
  1D54A 1D550  1D552 1D6A5  1D6A8 1D6C0  1D6C2 1D6DA  1D6DC 1D6FA  1D6FC 1D714  1D716 1D734  1D736 1D74E
  1D750 1D76E  1D770 1D788  1D78A 1D7A8  1D7AA 1D7C2  1D7C4 1D7CB  1D7CE 1D7FF  1DF00 1DF1E  1E100 1E12C
  1E137 1E13D  1E140 1E149  1E14E 1E14E  1E290 1E2AD  1E2C0 1E2EB  1E2F0 1E2F9  1E7E0 1E7E6  1E7E8 1E7EB
  1E7ED 1E7EE  1E7F0 1E7FE  1E800 1E8C4  1E8C7 1E8CF  1E900 1E943  1E94B 1E94B  1E950 1E959  1EC71 1ECAB
  1ECAD 1ECAF  1ECB1 1ECB4  1ED01 1ED2D  1ED2F 1ED3D  1EE00 1EE03  1EE05 1EE1F  1EE21 1EE22  1EE24 1EE24
  1EE27 1EE27  1EE29 1EE32  1EE34 1EE37  1EE39 1EE39  1EE3B 1EE3B  1EE42 1EE42  1EE47 1EE47  1EE49 1EE49
  1EE4B 1EE4B  1EE4D 1EE4F  1EE51 1EE52  1EE54 1EE54  1EE57 1EE57  1EE59 1EE59  1EE5B 1EE5B  1EE5D 1EE5D
  1EE5F 1EE5F  1EE61 1EE62  1EE64 1EE64  1EE67 1EE6A  1EE6C 1EE72  1EE74 1EE77  1EE79 1EE7C  1EE7E 1EE7E
  1EE80 1EE89  1EE8B 1EE9B  1EEA1 1EEA3  1EEA5 1EEA9  1EEAB 1EEBB  1F100 1F10C  1FBF0 1FBF9  20000 2A6DF
  2A700 2B738  2B740 2B81D  2B820 2CEA1  2CEB0 2EBE0  2F800 2FA1D  30000 3134A")).toArray

/-- Decimal digits. -/
def digitRanges : Array (Nat × Nat) :=
  (rangesOf (hexNumbers "
  30 39  660 669  6F0 6F9  7C0 7C9  966 96F  9E6 9EF  A66 A6F  AE6 AEF
  B66 B6F  BE6 BEF  C66 C6F  CE6 CEF  D66 D6F  DE6 DEF  E50 E59  ED0 ED9
  F20 F29  1040 1049  1090 1099  17E0 17E9  1810 1819  1946 194F  19D0 19D9  1A80 1A89
  1A90 1A99  1B50 1B59  1BB0 1BB9  1C40 1C49  1C50 1C59  A620 A629  A8D0 A8D9  A900 A909
  A9D0 A9D9  A9F0 A9F9  AA50 AA59  ABF0 ABF9  FF10 FF19  104A0 104A9  10D30 10D39  11066 1106F
  110F0 110F9  11136 1113F  111D0 111D9  112F0 112F9  11450 11459  114D0 114D9  11650 11659  116C0 116C9
  11730 11739  118E0 118E9  11950 11959  11C50 11C59  11D50 11D59  11DA0 11DA9  16A60 16A69  16AC0 16AC9
  16B50 16B59  1D7CE 1D7FF  1E140 1E149  1E2F0 1E2F9  1E950 1E959  1FBF0 1FBF9")).toArray

/-- Code points that a quoted text writes as an escape. -/
def hiddenRanges : Array (Nat × Nat) :=
  (rangesOf (hexNumbers "
  0 1F  7F A0  AD AD  378 379  380 383  38B 38B  38D 38D  3A2 3A2
  530 530  557 558  58B 58C  590 590  5C8 5CF  5EB 5EE  5F5 605  61C 61C
  6DD 6DD  70E 70F  74B 74C  7B2 7BF  7FB 7FC  82E 82F  83F 83F  85C 85D
  85F 85F  86B 86F  88F 897  8E2 8E2  984 984  98D 98E  991 992  9A9 9A9
  9B1 9B1  9B3 9B5  9BA 9BB  9C5 9C6  9C9 9CA  9CF 9D6  9D8 9DB  9DE 9DE
  9E4 9E5  9FF A00  A04 A04  A0B A0E  A11 A12  A29 A29  A31 A31  A34 A34
  A37 A37  A3A A3B  A3D A3D  A43 A46  A49 A4A  A4E A50  A52 A58  A5D A5D
  A5F A65  A77 A80  A84 A84  A8E A8E  A92 A92  AA9 AA9  AB1 AB1  AB4 AB4
  ABA ABB  AC6 AC6  ACA ACA  ACE ACF  AD1 ADF  AE4 AE5  AF2 AF8  B00 B00
  B04 B04  B0D B0E  B11 B12  B29 B29  B31 B31  B34 B34  B3A B3B  B45 B46
  B49 B4A  B4E B54  B58 B5B  B5E B5E  B64 B65  B78 B81  B84 B84  B8B B8D
  B91 B91  B96 B98  B9B B9B  B9D B9D  BA0 BA2  BA5 BA7  BAB BAD  BBA BBD
  BC3 BC5  BC9 BC9  BCE BCF  BD1 BD6  BD8 BE5  BFB BFF  C0D C0D  C11 C11
  C29 C29  C3A C3B  C45 C45  C49 C49  C4E C54  C57 C57  C5B C5C  C5E C5F
  C64 C65  C70 C76  C8D C8D  C91 C91  CA9 CA9  CB4 CB4  CBA CBB  CC5 CC5
  CC9 CC9  CCE CD4  CD7 CDC  CDF CDF  CE4 CE5  CF0 CF0  CF3 CFF  D0D D0D
  D11 D11  D45 D45  D49 D49  D50 D53  D64 D65  D80 D80  D84 D84  D97 D99
  DB2 DB2  DBC DBC  DBE DBF  DC7 DC9  DCB DCE  DD5 DD5  DD7 DD7  DE0 DE5
  DF0 DF1  DF5 E00  E3B E3E  E5C E80  E83 E83  E85 E85  E8B E8B  EA4 EA4
  EA6 EA6  EBE EBF  EC5 EC5  EC7 EC7  ECE ECF  EDA EDB  EE0 EFF  F48 F48
  F6D F70  F98 F98  FBD FBD  FCD FCD  FDB FFF  10C6 10C6  10C8 10CC  10CE 10CF
  1249 1249  124E 124F  1257 1257  1259 1259  125E 125F  1289 1289  128E 128F  12B1 12B1
  12B6 12B7  12BF 12BF  12C1 12C1  12C6 12C7  12D7 12D7  1311 1311  1316 1317  135B 135C
  137D 137F  139A 139F  13F6 13F7  13FE 13FF  1680 1680  169D 169F  16F9 16FF  1716 171E
  1737 173F  1754 175F  176D 176D  1771 1771  1774 177F  17DE 17DF  17EA 17EF  17FA 17FF
  180E 180E  181A 181F  1879 187F  18AB 18AF  18F6 18FF  191F 191F  192C 192F  193C 193F
  1941 1943  196E 196F  1975 197F  19AC 19AF  19CA 19CF  19DB 19DD  1A1C 1A1D  1A5F 1A5F
  1A7D 1A7E  1A8A 1A8F  1A9A 1A9F  1AAE 1AAF  1ACF 1AFF  1B4D 1B4F  1B7F 1B7F  1BF4 1BFB
  1C38 1C3A  1C4A 1C4C  1C89 1C8F  1CBB 1CBC  1CC8 1CCF  1CFB 1CFF  1F16 1F17  1F1E 1F1F
  1F46 1F47  1F4E 1F4F  1F58 1F58  1F5A 1F5A  1F5C 1F5C  1F5E 1F5E  1F7E 1F7F  1FB5 1FB5
  1FC5 1FC5  1FD4 1FD5  1FDC 1FDC  1FF0 1FF1  1FF5 1FF5  1FFF 200F  2028 202F  205F 206F
  2072 2073  208F 208F  209D 209F  20C1 20CF  20F1 20FF  218C 218F  2427 243F  244B 245F
  2B74 2B75  2B96 2B96  2CF4 2CF8  2D26 2D26  2D28 2D2C  2D2E 2D2F  2D68 2D6E  2D71 2D7E
  2D97 2D9F  2DA7 2DA7  2DAF 2DAF  2DB7 2DB7  2DBF 2DBF  2DC7 2DC7  2DCF 2DCF  2DD7 2DD7
  2DDF 2DDF  2E5E 2E7F  2E9A 2E9A  2EF4 2EFF  2FD6 2FEF  2FFC 3000  3040 3040  3097 3098
  3100 3104  3130 3130  318F 318F  31E4 31EF  321F 321F  A48D A48F  A4C7 A4CF  A62C A63F
  A6F8 A6FF  A7CB A7CF  A7D2 A7D2  A7D4 A7D4  A7DA A7F1  A82D A82F  A83A A83F  A878 A87F
  A8C6 A8CD  A8DA A8DF  A954 A95E  A97D A97F  A9CE A9CE  A9DA A9DD  A9FF A9FF  AA37 AA3F
  AA4E AA4F  AA5A AA5B  AAC3 AADA  AAF7 AB00  AB07 AB08  AB0F AB10  AB17 AB1F  AB27 AB27
  AB2F AB2F  AB6C AB6F  ABEE ABEF  ABFA ABFF  D7A4 D7AF  D7C7 D7CA  D7FC F8FF  FA6E FA6F
  FADA FAFF  FB07 FB12  FB18 FB1C  FB37 FB37  FB3D FB3D  FB3F FB3F  FB42 FB42  FB45 FB45
  FBC3 FBD2  FD90 FD91  FDC8 FDCE  FDD0 FDEF  FE1A FE1F  FE53 FE53  FE67 FE67  FE6C FE6F
  FE75 FE75  FEFD FF00  FFBF FFC1  FFC8 FFC9  FFD0 FFD1  FFD8 FFD9  FFDD FFDF  FFE7 FFE7
  FFEF FFFB  FFFE FFFF  1000C 1000C  10027 10027  1003B 1003B  1003E 1003E  1004E 1004F  1005E 1007F
  100FB 100FF  10103 10106  10134 10136  1018F 1018F  1019D 1019F  101A1 101CF  101FE 1027F  1029D 1029F
  102D1 102DF  102FC 102FF  10324 1032C  1034B 1034F  1037B 1037F  1039E 1039E  103C4 103C7  103D6 103FF
  1049E 1049F  104AA 104AF  104D4 104D7  104FC 104FF  10528 1052F  10564 1056E  1057B 1057B  1058B 1058B
  10593 10593  10596 10596  105A2 105A2  105B2 105B2  105BA 105BA  105BD 105FF  10737 1073F  10756 1075F
  10768 1077F  10786 10786  107B1 107B1  107BB 107FF  10806 10807  10809 10809  10836 10836  10839 1083B
  1083D 1083E  10856 10856  1089F 108A6  108B0 108DF  108F3 108F3  108F6 108FA  1091C 1091E  1093A 1093E
  10940 1097F  109B8 109BB  109D0 109D1  10A04 10A04  10A07 10A0B  10A14 10A14  10A18 10A18  10A36 10A37
  10A3B 10A3E  10A49 10A4F  10A59 10A5F  10AA0 10ABF  10AE7 10AEA  10AF7 10AFF  10B36 10B38  10B56 10B57
  10B73 10B77  10B92 10B98  10B9D 10BA8  10BB0 10BFF  10C49 10C7F  10CB3 10CBF  10CF3 10CF9  10D28 10D2F
  10D3A 10E5F  10E7F 10E7F  10EAA 10EAA  10EAE 10EAF  10EB2 10EFF  10F28 10F2F  10F5A 10F6F  10F8A 10FAF
  10FCC 10FDF  10FF7 10FFF  1104E 11051  11076 1107E  110BD 110BD  110C3 110CF  110E9 110EF  110FA 110FF
  11135 11135  11148 1114F  11177 1117F  111E0 111E0  111F5 111FF  11212 11212  1123F 1127F  11287 11287
  11289 11289  1128E 1128E  1129E 1129E  112AA 112AF  112EB 112EF  112FA 112FF  11304 11304  1130D 1130E
  11311 11312  11329 11329  11331 11331  11334 11334  1133A 1133A  11345 11346  11349 1134A  1134E 1134F
  11351 11356  11358 1135C  11364 11365  1136D 1136F  11375 113FF  1145C 1145C  11462 1147F  114C8 114CF
  114DA 1157F  115B6 115B7  115DE 115FF  11645 1164F  1165A 1165F  1166D 1167F  116BA 116BF  116CA 116FF
  1171B 1171C  1172C 1172F  11747 117FF  1183C 1189F  118F3 118FE  11907 11908  1190A 1190B  11914 11914
  11917 11917  11936 11936  11939 1193A  11947 1194F  1195A 1199F  119A8 119A9  119D8 119D9  119E5 119FF
  11A48 11A4F  11AA3 11AAF  11AF9 11BFF  11C09 11C09  11C37 11C37  11C46 11C4F  11C6D 11C6F  11C90 11C91
  11CA8 11CA8  11CB7 11CFF  11D07 11D07  11D0A 11D0A  11D37 11D39  11D3B 11D3B  11D3E 11D3E  11D48 11D4F
  11D5A 11D5F  11D66 11D66  11D69 11D69  11D8F 11D8F  11D92 11D92  11D99 11D9F  11DAA 11EDF  11EF9 11FAF
  11FB1 11FBF  11FF2 11FFE  1239A 123FF  1246F 1246F  12475 1247F  12544 12F8F  12FF3 12FFF  1342F 143FF
  14647 167FF  16A39 16A3F  16A5F 16A5F  16A6A 16A6D  16ABF 16ABF  16ACA 16ACF  16AEE 16AEF  16AF6 16AFF
  16B46 16B4F  16B5A 16B5A  16B62 16B62  16B78 16B7C  16B90 16E3F  16E9B 16EFF  16F4B 16F4E  16F88 16F8E
  16FA0 16FDF  16FE5 16FEF  16FF2 16FFF  187F8 187FF  18CD6 18CFF  18D09 1AFEF  1AFF4 1AFF4  1AFFC 1AFFC
  1AFFF 1AFFF  1B123 1B14F  1B153 1B163  1B168 1B16F  1B2FC 1BBFF  1BC6B 1BC6F  1BC7D 1BC7F  1BC89 1BC8F
  1BC9A 1BC9B  1BCA0 1CEFF  1CF2E 1CF2F  1CF47 1CF4F  1CFC4 1CFFF  1D0F6 1D0FF  1D127 1D128  1D173 1D17A
  1D1EB 1D1FF  1D246 1D2DF  1D2F4 1D2FF  1D357 1D35F  1D379 1D3FF  1D455 1D455  1D49D 1D49D  1D4A0 1D4A1
  1D4A3 1D4A4  1D4A7 1D4A8  1D4AD 1D4AD  1D4BA 1D4BA  1D4BC 1D4BC  1D4C4 1D4C4  1D506 1D506  1D50B 1D50C
  1D515 1D515  1D51D 1D51D  1D53A 1D53A  1D53F 1D53F  1D545 1D545  1D547 1D549  1D551 1D551  1D6A6 1D6A7
  1D7CC 1D7CD  1DA8C 1DA9A  1DAA0 1DAA0  1DAB0 1DEFF  1DF1F 1DFFF  1E007 1E007  1E019 1E01A  1E022 1E022
  1E025 1E025  1E02B 1E0FF  1E12D 1E12F  1E13E 1E13F  1E14A 1E14D  1E150 1E28F  1E2AF 1E2BF  1E2FA 1E2FE
  1E300 1E7DF  1E7E7 1E7E7  1E7EC 1E7EC  1E7EF 1E7EF  1E7FF 1E7FF  1E8C5 1E8C6  1E8D7 1E8FF  1E94C 1E94F
  1E95A 1E95D  1E960 1EC70  1ECB5 1ED00  1ED3E 1EDFF  1EE04 1EE04  1EE20 1EE20  1EE23 1EE23  1EE25 1EE26
  1EE28 1EE28  1EE33 1EE33  1EE38 1EE38  1EE3A 1EE3A  1EE3C 1EE41  1EE43 1EE46  1EE48 1EE48  1EE4A 1EE4A
  1EE4C 1EE4C  1EE50 1EE50  1EE53 1EE53  1EE55 1EE56  1EE58 1EE58  1EE5A 1EE5A  1EE5C 1EE5C  1EE5E 1EE5E
  1EE60 1EE60  1EE63 1EE63  1EE65 1EE66  1EE6B 1EE6B  1EE73 1EE73  1EE78 1EE78  1EE7D 1EE7D  1EE7F 1EE7F
  1EE8A 1EE8A  1EE9C 1EEA0  1EEA4 1EEA4  1EEAA 1EEAA  1EEBC 1EEEF  1EEF2 1EFFF  1F02C 1F02F  1F094 1F09F
  1F0AF 1F0B0  1F0C0 1F0C0  1F0D0 1F0D0  1F0F6 1F0FF  1F1AE 1F1E5  1F203 1F20F  1F23C 1F23F  1F249 1F24F
  1F252 1F25F  1F266 1F2FF  1F6D8 1F6DC  1F6ED 1F6EF  1F6FD 1F6FF  1F774 1F77F  1F7D9 1F7DF  1F7EC 1F7EF
  1F7F1 1F7FF  1F80C 1F80F  1F848 1F84F  1F85A 1F85F  1F888 1F88F  1F8AE 1F8AF  1F8B2 1F8FF  1FA54 1FA5F
  1FA6E 1FA6F  1FA75 1FA77  1FA7D 1FA7F  1FA87 1FA8F  1FAAD 1FAAF  1FABB 1FABF  1FAC6 1FACF  1FADA 1FADF
  1FAE8 1FAEF  1FAF7 1FAFF  1FB93 1FB93  1FBCB 1FBEF  1FBFA 1FFFF  2A6E0 2A6FF  2B739 2B73F  2B81E 2B81F
  2CEA2 2CEAF  2EBE1 2F7FF  2FA1E 2FFFF  3134B E00FF  E01F0 10FFFF")).toArray

/-- Runs of the small-letter mapping: first, last, offset, stride. -/
def lowerRuns : Array (Nat × Nat × Int × Nat) :=
  (runsOf (hexNumbers "
  41 5A 20 1  C0 D6 20 1  D8 DE 20 1  100 12E 1 2  130 130 -C7 1
  132 136 1 2  139 147 1 2  14A 176 1 2  178 178 -79 1  179 17D 1 2
  181 181 D2 1  182 184 1 2  186 186 CE 1  187 187 1 1  189 18A CD 1
  18B 18B 1 1  18E 18E 4F 1  18F 18F CA 1  190 190 CB 1  191 191 1 1
  193 193 CD 1  194 194 CF 1  196 196 D3 1  197 197 D1 1  198 198 1 1
  19C 19C D3 1  19D 19D D5 1  19F 19F D6 1  1A0 1A4 1 2  1A6 1A6 DA 1
  1A7 1A7 1 1  1A9 1A9 DA 1  1AC 1AC 1 1  1AE 1AE DA 1  1AF 1AF 1 1
  1B1 1B2 D9 1  1B3 1B5 1 2  1B7 1B7 DB 1  1B8 1B8 1 1  1BC 1BC 1 1
  1C4 1C4 2 1  1C5 1C5 1 1  1C7 1C7 2 1  1C8 1C8 1 1  1CA 1CA 2 1
  1CB 1DB 1 2  1DE 1EE 1 2  1F1 1F1 2 1  1F2 1F4 1 2  1F6 1F6 -61 1
  1F7 1F7 -38 1  1F8 21E 1 2  220 220 -82 1  222 232 1 2  23A 23A 2A2B 1
  23B 23B 1 1  23D 23D -A3 1  23E 23E 2A28 1  241 241 1 1  243 243 -C3 1
  244 244 45 1  245 245 47 1  246 24E 1 2  370 372 1 2  376 376 1 1
  37F 37F 74 1  386 386 26 1  388 38A 25 1  38C 38C 40 1  38E 38F 3F 1
  391 3A1 20 1  3A3 3AB 20 1  3CF 3CF 8 1  3D8 3EE 1 2  3F4 3F4 -3C 1
  3F7 3F7 1 1  3F9 3F9 -7 1  3FA 3FA 1 1  3FD 3FF -82 1  400 40F 50 1
  410 42F 20 1  460 480 1 2  48A 4BE 1 2  4C0 4C0 F 1  4C1 4CD 1 2
  4D0 52E 1 2  531 556 30 1  10A0 10C5 1C60 1  10C7 10C7 1C60 1  10CD 10CD 1C60 1
  13A0 13EF 97D0 1  13F0 13F5 8 1  1C90 1CBA -BC0 1  1CBD 1CBF -BC0 1  1E00 1E94 1 2
  1E9E 1E9E -1DBF 1  1EA0 1EFE 1 2  1F08 1F0F -8 1  1F18 1F1D -8 1  1F28 1F2F -8 1
  1F38 1F3F -8 1  1F48 1F4D -8 1  1F59 1F5F -8 2  1F68 1F6F -8 1  1F88 1F8F -8 1
  1F98 1F9F -8 1  1FA8 1FAF -8 1  1FB8 1FB9 -8 1  1FBA 1FBB -4A 1  1FBC 1FBC -9 1
  1FC8 1FCB -56 1  1FCC 1FCC -9 1  1FD8 1FD9 -8 1  1FDA 1FDB -64 1  1FE8 1FE9 -8 1
  1FEA 1FEB -70 1  1FEC 1FEC -7 1  1FF8 1FF9 -80 1  1FFA 1FFB -7E 1  1FFC 1FFC -9 1
  2126 2126 -1D5D 1  212A 212A -20BF 1  212B 212B -2046 1  2132 2132 1C 1  2160 216F 10 1
  2183 2183 1 1  24B6 24CF 1A 1  2C00 2C2F 30 1  2C60 2C60 1 1  2C62 2C62 -29F7 1
  2C63 2C63 -EE6 1  2C64 2C64 -29E7 1  2C67 2C6B 1 2  2C6D 2C6D -2A1C 1  2C6E 2C6E -29FD 1
  2C6F 2C6F -2A1F 1  2C70 2C70 -2A1E 1  2C72 2C72 1 1  2C75 2C75 1 1  2C7E 2C7F -2A3F 1
  2C80 2CE2 1 2  2CEB 2CED 1 2  2CF2 2CF2 1 1  A640 A66C 1 2  A680 A69A 1 2
  A722 A72E 1 2  A732 A76E 1 2  A779 A77B 1 2  A77D A77D -8A04 1  A77E A786 1 2
  A78B A78B 1 1  A78D A78D -A528 1  A790 A792 1 2  A796 A7A8 1 2  A7AA A7AA -A544 1
  A7AB A7AB -A54F 1  A7AC A7AC -A54B 1  A7AD A7AD -A541 1  A7AE A7AE -A544 1  A7B0 A7B0 -A512 1
  A7B1 A7B1 -A52A 1  A7B2 A7B2 -A515 1  A7B3 A7B3 3A0 1  A7B4 A7C2 1 2  A7C4 A7C4 -30 1
  A7C5 A7C5 -A543 1  A7C6 A7C6 -8A38 1  A7C7 A7C9 1 2  A7D0 A7D0 1 1  A7D6 A7D8 1 2
  A7F5 A7F5 1 1  FF21 FF3A 20 1  10400 10427 28 1  104B0 104D3 28 1  10570 1057A 27 1
  1057C 1058A 27 1  1058C 10592 27 1  10594 10595 27 1  10C80 10CB2 40 1  118A0 118BF 20 1
  16E40 16E5F 20 1  1E900 1E921 22 1")).toArray

/-- Runs of the capital-letter mapping: first, last, offset, stride. -/
def upperRuns : Array (Nat × Nat × Int × Nat) :=
  (runsOf (hexNumbers "
  61 7A -20 1  B5 B5 2E7 1  DF DF -8C 1  E0 F6 -20 1  F8 FE -20 1
  FF FF 79 1  101 12F -1 2  131 131 -E8 1  133 137 -1 2  13A 148 -1 2
  149 149 173 1  14B 177 -1 2  17A 17E -1 2  17F 17F -12C 1  180 180 C3 1
  183 185 -1 2  188 188 -1 1  18C 18C -1 1  192 192 -1 1  195 195 61 1
  199 199 -1 1  19A 19A A3 1  19E 19E 82 1  1A1 1A5 -1 2  1A8 1A8 -1 1
  1AD 1AD -1 1  1B0 1B0 -1 1  1B4 1B6 -1 2  1B9 1B9 -1 1  1BD 1BD -1 1
  1BF 1BF 38 1  1C5 1C5 -1 1  1C6 1C6 -2 1  1C8 1C8 -1 1  1C9 1C9 -2 1
  1CB 1CB -1 1  1CC 1CC -2 1  1CE 1DC -1 2  1DD 1DD -4F 1  1DF 1EF -1 2
  1F0 1F0 -1A6 1  1F2 1F2 -1 1  1F3 1F3 -2 1  1F5 1F5 -1 1  1F9 21F -1 2
  223 233 -1 2  23C 23C -1 1  23F 240 2A3F 1  242 242 -1 1  247 24F -1 2
  250 250 2A1F 1  251 251 2A1C 1  252 252 2A1E 1  253 253 -D2 1  254 254 -CE 1
  256 257 -CD 1  259 259 -CA 1  25B 25B -CB 1  25C 25C A54F 1  260 260 -CD 1
  261 261 A54B 1  263 263 -CF 1  265 265 A528 1  266 266 A544 1  268 268 -D1 1
  269 269 -D3 1  26A 26A A544 1  26B 26B 29F7 1  26C 26C A541 1  26F 26F -D3 1
  271 271 29FD 1  272 272 -D5 1  275 275 -D6 1  27D 27D 29E7 1  280 280 -DA 1
  282 282 A543 1  283 283 -DA 1  287 287 A52A 1  288 288 -DA 1  289 289 -45 1
  28A 28B -D9 1  28C 28C -47 1  292 292 -DB 1  29D 29D A515 1  29E 29E A512 1
  345 345 54 1  371 373 -1 2  377 377 -1 1  37B 37D 82 1  390 390 9 1
  3AC 3AC -26 1  3AD 3AF -25 1  3B0 3B0 -B 1  3B1 3C1 -20 1  3C2 3C2 -1F 1
  3C3 3CB -20 1  3CC 3CC -40 1  3CD 3CE -3F 1  3D0 3D0 -3E 1  3D1 3D1 -39 1
  3D5 3D5 -2F 1  3D6 3D6 -36 1  3D7 3D7 -8 1  3D9 3EF -1 2  3F0 3F0 -56 1
  3F1 3F1 -50 1  3F2 3F2 7 1  3F3 3F3 -74 1  3F5 3F5 -60 1  3F8 3F8 -1 1
  3FB 3FB -1 1  430 44F -20 1  450 45F -50 1  461 481 -1 2  48B 4BF -1 2
  4C2 4CE -1 2  4CF 4CF -F 1  4D1 52F -1 2  561 586 -30 1  587 587 -52 1
  10D0 10FA BC0 1  10FD 10FF BC0 1  13F8 13FD -8 1  1C80 1C80 -186E 1  1C81 1C81 -186D 1
  1C82 1C82 -1864 1  1C83 1C84 -1862 1  1C85 1C85 -1863 1  1C86 1C86 -185C 1  1C87 1C87 -1825 1
  1C88 1C88 89C2 1  1D79 1D79 8A04 1  1D7D 1D7D EE6 1  1D8E 1D8E 8A38 1  1E01 1E95 -1 2
  1E96 1E96 -1E4E 1  1E97 1E97 -1E43 1  1E98 1E98 -1E41 1  1E99 1E99 -1E40 1  1E9A 1E9A -1E59 1
  1E9B 1E9B -3B 1  1EA1 1EFF -1 2  1F00 1F07 8 1  1F10 1F15 8 1  1F20 1F27 8 1
  1F30 1F37 8 1  1F40 1F45 8 1  1F50 1F50 -1BAB 1  1F51 1F51 8 1  1F52 1F52 -1BAD 1
  1F53 1F53 8 1  1F54 1F54 -1BAF 1  1F55 1F55 8 1  1F56 1F56 -1BB1 1  1F57 1F57 8 1
  1F60 1F67 8 1  1F70 1F71 4A 1  1F72 1F75 56 1  1F76 1F77 64 1  1F78 1F79 80 1
  1F7A 1F7B 70 1  1F7C 1F7D 7E 1  1F80 1F87 -78 1  1F88 1F8F -80 1  1F90 1F97 -68 1
  1F98 1F9F -70 1  1FA0 1FA7 -38 1  1FA8 1FAF -40 1  1FB0 1FB2 8 1  1FB3 1FB3 -1C22 1
  1FB4 1FB4 -1C2E 1  1FB6 1FB6 -1C25 1  1FB7 1FB7 -1C26 1  1FBC 1FBC -1C2B 1  1FBE 1FBE -1C25 1
  1FC2 1FC2 8 1  1FC3 1FC3 -1C2C 1  1FC4 1FC4 -1C3B 1  1FC6 1FC6 -1C2F 1  1FC7 1FC7 -1C30 1
  1FCC 1FCC -1C35 1  1FD0 1FD1 8 1  1FD2 1FD2 -1C39 1  1FD3 1FD3 -1C3A 1  1FD6 1FD6 -1C3D 1
  1FD7 1FD7 -1C3E 1  1FE0 1FE1 8 1  1FE2 1FE2 -1C3D 1  1FE3 1FE3 -1C3E 1  1FE4 1FE4 -1C43 1
  1FE5 1FE5 7 1  1FE6 1FE6 -1C41 1  1FE7 1FE7 -1C42 1  1FF2 1FF2 8 1  1FF3 1FF3 -1C4A 1
  1FF4 1FF4 -1C65 1  1FF6 1FF6 -1C4D 1  1FF7 1FF7 -1C4E 1  1FFC 1FFC -1C53 1  214E 214E -1C 1
  2170 217F -10 1  2184 2184 -1 1  24D0 24E9 -1A 1  2C30 2C5F -30 1  2C61 2C61 -1 1
  2C65 2C65 -2A2B 1  2C66 2C66 -2A28 1  2C68 2C6C -1 2  2C73 2C73 -1 1  2C76 2C76 -1 1
  2C81 2CE3 -1 2  2CEC 2CEE -1 2  2CF3 2CF3 -1 1  2D00 2D25 -1C60 1  2D27 2D27 -1C60 1
  2D2D 2D2D -1C60 1  A641 A66D -1 2  A681 A69B -1 2  A723 A72F -1 2  A733 A76F -1 2
  A77A A77C -1 2  A77F A787 -1 2  A78C A78C -1 1  A791 A793 -1 2  A794 A794 30 1
  A797 A7A9 -1 2  A7B5 A7C3 -1 2  A7C8 A7CA -1 2  A7D1 A7D1 -1 1  A7D7 A7D9 -1 2
  A7F6 A7F6 -1 1  AB53 AB53 -3A0 1  AB70 ABBF -97D0 1  FB00 FB00 -FABA 1  FB01 FB01 -FABB 1
  FB02 FB02 -FABC 1  FB03 FB03 -FABD 1  FB04 FB04 -FABE 1  FB05 FB05 -FAB2 1  FB06 FB06 -FAB3 1
  FB13 FB13 -F5CF 1  FB14 FB14 -F5D0 1  FB15 FB15 -F5D1 1  FB16 FB16 -F5C8 1  FB17 FB17 -F5D3 1
  FF41 FF5A -20 1  10428 1044F -28 1  104D8 104FB -28 1  10597 105A1 -27 1  105A3 105B1 -27 1
  105B3 105B9 -27 1  105BB 105BC -27 1  10CC0 10CF2 -40 1  118C0 118DF -20 1  16E60 16E7F -20 1
  1E922 1E943 -22 1")).toArray

/-- Small letters with a second capital besides the one the capital mapping gives: each small
letter with that capital. -/
def extraCapitals : Array (Nat × Nat) := #[
  (0x69, 0x130), (0x6B, 0x212A), (0xDF, 0x1E9E), (0xE5, 0x212B), (0x1C6, 0x1C5), (0x1C9, 0x1C8),
  (0x1CC, 0x1CB), (0x1F3, 0x1F2), (0x3B8, 0x3F4), (0x3C9, 0x2126), (0x1F80, 0x1F88), (0x1F81, 0x1F89),
  (0x1F82, 0x1F8A), (0x1F83, 0x1F8B), (0x1F84, 0x1F8C), (0x1F85, 0x1F8D), (0x1F86, 0x1F8E), (0x1F87, 0x1F8F),
  (0x1F90, 0x1F98), (0x1F91, 0x1F99), (0x1F92, 0x1F9A), (0x1F93, 0x1F9B), (0x1F94, 0x1F9C), (0x1F95, 0x1F9D),
  (0x1F96, 0x1F9E), (0x1F97, 0x1F9F), (0x1FA0, 0x1FA8), (0x1FA1, 0x1FA9), (0x1FA2, 0x1FAA), (0x1FA3, 0x1FAB),
  (0x1FA4, 0x1FAC), (0x1FA5, 0x1FAD), (0x1FA6, 0x1FAE), (0x1FA7, 0x1FAF), (0x1FB3, 0x1FBC), (0x1FC3, 0x1FCC),
  (0x1FF3, 0x1FFC)]

/-- Small letters that match each other without regard to case although their capitals differ
(or coincide only through another letter). -/
def caseEquivalents : List (List Nat) := [[0x69, 0x131], [0x73, 0x17F], [0xB5, 0x3BC], [0x345, 0x3B9, 0x1FBE], [0x390, 0x1FD3], [0x3B0, 0x1FE3], [0x3B2, 0x3D0], [0x3B5, 0x3F5], [0x3B8, 0x3D1], [0x3BA, 0x3F0], [0x3C0, 0x3D6], [0x3C1, 0x3F1], [0x3C2, 0x3C3], [0x3C6, 0x3D5], [0x432, 0x1C80], [0x434, 0x1C81], [0x43E, 0x1C82], [0x441, 0x1C83], [0x442, 0x1C84, 0x1C85], [0x44A, 0x1C86], [0x463, 0x1C87], [0x1C88, 0xA64B], [0x1E61, 0x1E9B], [0xFB05, 0xFB06]]

def isWord (c : Nat) : Bool := inRanges wordRanges c

def isDecimal (c : Nat) : Bool := inRanges digitRanges c

/-- The value of a decimal digit. The digits come in runs of whole tens, each from its zero to its
nine, so a digit's value is its distance from the start of its run, modulo ten. -/
def decimalValue? (c : Nat) : Option Nat :=
  (digitRanges.find? fun (lo, hi) => lo ≤ c && c ≤ hi).map fun (lo, _) => (c - lo) % 10

def isPrintable (c : Nat) : Bool := !inRanges hiddenRanges c

def toLower (c : Nat) : Nat := mapByRuns lowerRuns c

def toUpper (c : Nat) : Nat := mapByRuns upperRuns c

def isCased (c : Nat) : Bool := toLower c != c || toUpper c != c

/-- Does a case table move some code point of `[lo, hi]`? -/
def runsMeet (rs : Array (Nat × Nat × Int × Nat)) (lo hi : Nat) : Bool :=
  rs.any fun (first, last, _, stride) =>
    let a := max lo first
    let a := if (a - first) % stride == 0 then a else a + (stride - (a - first) % stride)
    a ≤ min hi last

def rangeCased (lo hi : Nat) : Bool := runsMeet lowerRuns lo hi || runsMeet upperRuns lo hi

end Tabula.Unicode
