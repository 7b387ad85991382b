/-!
# Normalization data

The decompositions, compositions and combining classes of Unicode 14.0 that
`normalized` needs, for the characters that occur in identifiers. Hangul syllables
are left out, because they follow a rule.

Each text is a segment of a table: a first character, and behind the colon one item for
it and for each character after it, separated by blanks. An item is a sequence of
characters joined by plus signs, and every character is written as its code point in
hexadecimal digits.
-/
namespace ToolBindings.Text

def decompositionSegments : List String := [
  "AA:61", "B5:3BC", "BA:6F", "C0:41+300 41+301 41+302 41+303 41+308 41+30A",
  "C7:43+327 45+300 45+301 45+302 45+308 49+300 49+301 49+302 49+308",
  "D1:4E+303 4F+300 4F+301 4F+302 4F+303 4F+308", "D9:55+300 55+301 55+302 55+308 59+301",
  "E0:61+300 61+301 61+302 61+303 61+308 61+30A",
  "E7:63+327 65+300 65+301 65+302 65+308 69+300 69+301 69+302 69+308",
  "F1:6E+303 6F+300 6F+301 6F+302 6F+303 6F+308", "F9:75+300 75+301 75+302 75+308 79+301",
  "FF:79+308 41+304 61+304 41+306 61+306 41+328 61+328 43+301 63+301 43+302 63+302 43+307",
  "10B:63+307 43+30C 63+30C 44+30C 64+30C",
  "112:45+304 65+304 45+306 65+306 45+307 65+307 45+328 65+328 45+30C 65+30C 47+302 67+302",
  "11E:47+306 67+306 47+307 67+307 47+327 67+327 48+302 68+302",
  "128:49+303 69+303 49+304 69+304 49+306 69+306 49+328 69+328 49+307",
  "132:49+4A 69+6A 4A+302 6A+302 4B+327 6B+327",
  "139:4C+301 6C+301 4C+327 6C+327 4C+30C 6C+30C 4C+B7 6C+B7",
  "143:4E+301 6E+301 4E+327 6E+327 4E+30C 6E+30C 2BC+6E",
  "14C:4F+304 6F+304 4F+306 6F+306 4F+30B 6F+30B",
  "154:52+301 72+301 52+327 72+327 52+30C 72+30C 53+301 73+301 53+302 73+302 53+327 73+327",
  "160:53+30C 73+30C 54+327 74+327 54+30C 74+30C",
  "168:55+303 75+303 55+304 75+304 55+306 75+306 55+30A 75+30A 55+30B 75+30B 55+328 75+328",
  "174:57+302 77+302 59+302 79+302 59+308 5A+301 7A+301 5A+307 7A+307 5A+30C 7A+30C 73",
  "1A0:4F+31B 6F+31B", "1AF:55+31B 75+31B",
  "1C4:44+5A+30C 44+7A+30C 64+7A+30C 4C+4A 4C+6A 6C+6A 4E+4A 4E+6A 6E+6A 41+30C 61+30C 49+30C",
  "1D0:69+30C 4F+30C 6F+30C 55+30C 75+30C 55+308+304 75+308+304 55+308+301 75+308+301",
  "1D9:55+308+30C 75+308+30C 55+308+300 75+308+300",
  "1DE:41+308+304 61+308+304 41+307+304 61+307+304 C6+304 E6+304",
  "1E6:47+30C 67+30C 4B+30C 6B+30C 4F+328 6F+328 4F+328+304 6F+328+304 1B7+30C 292+30C 6A+30C",
  "1F1:44+5A 44+7A 64+7A 47+301 67+301",
  "1F8:4E+300 6E+300 41+30A+301 61+30A+301 C6+301 E6+301 D8+301 F8+301 41+30F 61+30F 41+311",
  "203:61+311 45+30F 65+30F 45+311 65+311 49+30F 69+30F 49+311 69+311 4F+30F 6F+30F 4F+311",
  "20F:6F+311 52+30F 72+30F 52+311 72+311 55+30F 75+30F 55+311 75+311 53+326 73+326 54+326",
  "21B:74+326", "21E:48+30C 68+30C",
  "226:41+307 61+307 45+327 65+327 4F+308+304 6F+308+304 4F+303+304 6F+303+304 4F+307 6F+307",
  "230:4F+307+304 6F+307+304 59+304 79+304", "2B0:68 266 6A 72 279 27B 281 77 79",
  "2E0:263 6C 73 78 295", "340:300 301", "343:313 308+301", "374:2B9",
  "386:391+301 B7 395+301 397+301 399+301", "38C:39F+301", "38E:3A5+301 3A9+301 3B9+308+301",
  "3AA:399+308 3A5+308 3B1+301 3B5+301 3B7+301 3B9+301 3C5+308+301",
  "3CA:3B9+308 3C5+308 3BF+301 3C5+301 3C9+301", "3D0:3B2 3B8 3A5 3A5+301 3A5+308 3C6 3C0",
  "3F0:3BA 3C1 3C2", "3F4:398 3B5", "3F9:3A3", "400:415+300 415+308", "403:413+301",
  "407:406+308", "40C:41A+301 418+300 423+306", "419:418+306", "439:438+306",
  "450:435+300 435+308", "453:433+301", "457:456+308", "45C:43A+301 438+300 443+306",
  "476:474+30F 475+30F", "4C1:416+306 436+306", "4D0:410+306 430+306 410+308 430+308",
  "4D6:415+306 435+306", "4DA:4D8+308 4D9+308 416+308 436+308 417+308 437+308",
  "4E2:418+304 438+304 418+308 438+308 41E+308 43E+308",
  "4EA:4E8+308 4E9+308 42D+308 44D+308 423+304 443+304 423+308 443+308 423+30B 443+30B",
  "4F4:427+308 447+308", "4F8:42B+308 44B+308", "587:565+582",
  "622:627+653 627+654 648+654 627+655 64A+654", "675:627+674 648+674 6C7+674 64A+674",
  "6C0:6D5+654", "6C2:6C1+654", "6D3:6D2+654", "929:928+93C", "931:930+93C", "934:933+93C",
  "958:915+93C 916+93C 917+93C 91C+93C 921+93C 922+93C 92B+93C 92F+93C", "9CB:9C7+9BE 9C7+9D7",
  "9DC:9A1+9BC 9A2+9BC", "9DF:9AF+9BC", "A33:A32+A3C", "A36:A38+A3C",
  "A59:A16+A3C A17+A3C A1C+A3C", "A5E:A2B+A3C", "B48:B47+B56", "B4B:B47+B3E B47+B57",
  "B5C:B21+B3C B22+B3C", "B94:B92+BD7", "BCA:BC6+BBE BC7+BBE BC6+BD7", "C48:C46+C56",
  "CC0:CBF+CD5", "CC7:CC6+CD5 CC6+CD6", "CCA:CC6+CC2 CC6+CC2+CD5", "D4A:D46+D3E D47+D3E D46+D57",
  "DDA:DD9+DCA", "DDC:DD9+DCF DD9+DCF+DCA DD9+DDF", "E33:E4D+E32", "EB3:ECD+EB2",
  "EDC:EAB+E99 EAB+EA1", "F43:F42+FB7", "F4D:F4C+FB7", "F52:F51+FB7", "F57:F56+FB7",
  "F5C:F5B+FB7", "F69:F40+FB5", "F73:F71+F72",
  "F75:F71+F74 FB2+F80 FB2+F71+F80 FB3+F80 FB3+F71+F80", "F81:F71+F80", "F93:F92+FB7",
  "F9D:F9C+FB7", "FA2:FA1+FB7", "FA7:FA6+FB7", "FAC:FAB+FB7", "FB9:F90+FB5", "1026:1025+102E",
  "10FC:10DC", "1B06:1B05+1B35", "1B08:1B07+1B35", "1B0A:1B09+1B35", "1B0C:1B0B+1B35",
  "1B0E:1B0D+1B35", "1B12:1B11+1B35", "1B3B:1B3A+1B35", "1B3D:1B3C+1B35",
  "1B40:1B3E+1B35 1B3F+1B35", "1B43:1B42+1B35", "1D2C:41 C6 42",
  "1D30:44 45 18E 47 48 49 4A 4B 4C 4D 4E",
  "1D3C:4F 222 50 52 54 55 57 61 250 251 1D02 62 64 65 259 25B 25C 67",
  "1D4F:6B 6D 14B 6F 254 1D16 1D17 70 74 75 1D1D 26F 76 1D25 3B2 3B3 3B4 3C6 3C7 69 72 75 76",
  "1D66:3B2 3B3 3C1 3C6 3C7", "1D78:43D",
  "1D9B:252 63 255 F0 25C 66 25F 261 265 268 269 26A 1D7B 29D 26D 1D85 29F 271 270 272 273",
  "1DB0:274 275 278 282 283 1AB 289 28A 1D1C 28B 28C 7A 290 291 292 3B8",
  "1E00:41+325 61+325 42+307 62+307 42+323 62+323 42+331 62+331 43+327+301 63+327+301 44+307",
  "1E0B:64+307 44+323 64+323 44+331 64+331 44+327 64+327 44+32D 64+32D 45+304+300 65+304+300",
  "1E16:45+304+301 65+304+301 45+32D 65+32D 45+330 65+330 45+327+306 65+327+306 46+307 66+307",
  "1E20:47+304 67+304 48+307 68+307 48+323 68+323 48+308 68+308 48+327 68+327 48+32E 68+32E",
  "1E2C:49+330 69+330 49+308+301 69+308+301 4B+301 6B+301 4B+323 6B+323 4B+331 6B+331 4C+323",
  "1E37:6C+323 4C+323+304 6C+323+304 4C+331 6C+331 4C+32D 6C+32D 4D+301 6D+301 4D+307 6D+307",
  "1E42:4D+323 6D+323 4E+307 6E+307 4E+323 6E+323 4E+331 6E+331 4E+32D 6E+32D 4F+303+301",
  "1E4D:6F+303+301 4F+303+308 6F+303+308 4F+304+300 6F+304+300 4F+304+301 6F+304+301 50+301",
  "1E55:70+301 50+307 70+307 52+307 72+307 52+323 72+323 52+323+304 72+323+304 52+331 72+331",
  "1E60:53+307 73+307 53+323 73+323 53+301+307 73+301+307 53+30C+307 73+30C+307 53+323+307",
  "1E69:73+323+307 54+307 74+307 54+323 74+323 54+331 74+331 54+32D 74+32D 55+324 75+324",
  "1E74:55+330 75+330 55+32D 75+32D 55+303+301 75+303+301 55+304+308 75+304+308 56+303 76+303",
  "1E7E:56+323 76+323 57+300 77+300 57+301 77+301 57+308 77+308 57+307 77+307 57+323 77+323",
  "1E8A:58+307 78+307 58+308 78+308 59+307 79+307 5A+302 7A+302 5A+323 7A+323 5A+331 7A+331",
  "1E96:68+331 74+308 77+30A 79+30A 61+2BE 73+307",
  "1EA0:41+323 61+323 41+309 61+309 41+302+301 61+302+301 41+302+300 61+302+300 41+302+309",
  "1EA9:61+302+309 41+302+303 61+302+303 41+323+302 61+323+302 41+306+301 61+306+301",
  "1EB0:41+306+300 61+306+300 41+306+309 61+306+309 41+306+303 61+306+303 41+323+306",
  "1EB7:61+323+306 45+323 65+323 45+309 65+309 45+303 65+303 45+302+301 65+302+301 45+302+300",
  "1EC1:65+302+300 45+302+309 65+302+309 45+302+303 65+302+303 45+323+302 65+323+302 49+309",
  "1EC9:69+309 49+323 69+323 4F+323 6F+323 4F+309 6F+309 4F+302+301 6F+302+301 4F+302+300",
  "1ED3:6F+302+300 4F+302+309 6F+302+309 4F+302+303 6F+302+303 4F+323+302 6F+323+302",
  "1EDA:4F+31B+301 6F+31B+301 4F+31B+300 6F+31B+300 4F+31B+309 6F+31B+309 4F+31B+303",
  "1EE1:6F+31B+303 4F+31B+323 6F+31B+323 55+323 75+323 55+309 75+309 55+31B+301 75+31B+301",
  "1EEA:55+31B+300 75+31B+300 55+31B+309 75+31B+309 55+31B+303 75+31B+303 55+31B+323",
  "1EF1:75+31B+323 59+300 79+300 59+323 79+323 59+309 79+309 59+303 79+303",
  "1F00:3B1+313 3B1+314 3B1+313+300 3B1+314+300 3B1+313+301 3B1+314+301 3B1+313+342",
  "1F07:3B1+314+342 391+313 391+314 391+313+300 391+314+300 391+313+301 391+314+301",
  "1F0E:391+313+342 391+314+342 3B5+313 3B5+314 3B5+313+300 3B5+314+300 3B5+313+301",
  "1F15:3B5+314+301", "1F18:395+313 395+314 395+313+300 395+314+300 395+313+301 395+314+301",
  "1F20:3B7+313 3B7+314 3B7+313+300 3B7+314+300 3B7+313+301 3B7+314+301 3B7+313+342",
  "1F27:3B7+314+342 397+313 397+314 397+313+300 397+314+300 397+313+301 397+314+301",
  "1F2E:397+313+342 397+314+342 3B9+313 3B9+314 3B9+313+300 3B9+314+300 3B9+313+301",
  "1F35:3B9+314+301 3B9+313+342 3B9+314+342 399+313 399+314 399+313+300 399+314+300",
  "1F3C:399+313+301 399+314+301 399+313+342 399+314+342 3BF+313 3BF+314 3BF+313+300",
  "1F43:3BF+314+300 3BF+313+301 3BF+314+301",
  "1F48:39F+313 39F+314 39F+313+300 39F+314+300 39F+313+301 39F+314+301",
  "1F50:3C5+313 3C5+314 3C5+313+300 3C5+314+300 3C5+313+301 3C5+314+301 3C5+313+342",
  "1F57:3C5+314+342", "1F59:3A5+314", "1F5B:3A5+314+300", "1F5D:3A5+314+301",
  "1F5F:3A5+314+342 3C9+313 3C9+314 3C9+313+300 3C9+314+300 3C9+313+301 3C9+314+301",
  "1F66:3C9+313+342 3C9+314+342 3A9+313 3A9+314 3A9+313+300 3A9+314+300 3A9+313+301",
  "1F6D:3A9+314+301 3A9+313+342 3A9+314+342 3B1+300 3B1+301 3B5+300 3B5+301 3B7+300 3B7+301",
  "1F76:3B9+300 3B9+301 3BF+300 3BF+301 3C5+300 3C5+301 3C9+300 3C9+301",
  "1F80:3B1+313+345 3B1+314+345 3B1+313+300+345 3B1+314+300+345 3B1+313+301+345",
  "1F85:3B1+314+301+345 3B1+313+342+345 3B1+314+342+345 391+313+345 391+314+345",
  "1F8A:391+313+300+345 391+314+300+345 391+313+301+345 391+314+301+345 391+313+342+345",
  "1F8F:391+314+342+345 3B7+313+345 3B7+314+345 3B7+313+300+345 3B7+314+300+345",
  "1F94:3B7+313+301+345 3B7+314+301+345 3B7+313+342+345 3B7+314+342+345 397+313+345",
  "1F99:397+314+345 397+313+300+345 397+314+300+345 397+313+301+345 397+314+301+345",
  "1F9E:397+313+342+345 397+314+342+345 3C9+313+345 3C9+314+345 3C9+313+300+345",
  "1FA3:3C9+314+300+345 3C9+313+301+345 3C9+314+301+345 3C9+313+342+345 3C9+314+342+345",
  "1FA8:3A9+313+345 3A9+314+345 3A9+313+300+345 3A9+314+300+345 3A9+313+301+345",
  "1FAD:3A9+314+301+345 3A9+313+342+345 3A9+314+342+345 3B1+306 3B1+304 3B1+300+345 3B1+345",
  "1FB4:3B1+301+345", "1FB6:3B1+342 3B1+342+345 391+306 391+304 391+300 391+301 391+345",
  "1FBE:3B9", "1FC2:3B7+300+345 3B7+345 3B7+301+345",
  "1FC6:3B7+342 3B7+342+345 395+300 395+301 397+300 397+301 397+345",
  "1FD0:3B9+306 3B9+304 3B9+308+300 3B9+308+301",
  "1FD6:3B9+342 3B9+308+342 399+306 399+304 399+300 399+301",
  "1FE0:3C5+306 3C5+304 3C5+308+300 3C5+308+301 3C1+313 3C1+314 3C5+342 3C5+308+342 3A5+306",
  "1FE9:3A5+304 3A5+300 3A5+301 3A1+314", "1FF2:3C9+300+345 3C9+345 3C9+301+345",
  "1FF6:3C9+342 3C9+342+345 39F+300 39F+301 3A9+300 3A9+301 3A9+345", "2071:69", "207F:6E",
  "2090:61 65 6F 78 259 68 6B 6C 6D 6E 70 73 74", "2102:43", "2107:190",
  "210A:67 48 48 48 68 127 49 49 4C 6C", "2115:4E", "2119:50 51 52 52 52", "2124:5A", "2126:3A9",
  "2128:5A", "212A:4B 41+30A 42 43", "212F:65 45 46", "2133:4D 6F 5D0 5D1 5D2 5D3 69",
  "213C:3C0 3B3 393 3A0", "2145:44 64 65 69 6A",
  "2160:49 49+49 49+49+49 49+56 56 56+49 56+49+49 56+49+49+49 49+58 58 58+49 58+49+49 4C 43",
  "216E:44 4D 69 69+69 69+69+69 69+76 76 76+69 76+69+69 76+69+69+69 69+78 78 78+69 78+69+69",
  "217C:6C 63 64 6D", "2C7C:6A 56", "2D6F:2D61", "3038:5341 5344 5345", "304C:304B+3099",
  "304E:304D+3099", "3050:304F+3099", "3052:3051+3099", "3054:3053+3099", "3056:3055+3099",
  "3058:3057+3099", "305A:3059+3099", "305C:305B+3099", "305E:305D+3099", "3060:305F+3099",
  "3062:3061+3099", "3065:3064+3099", "3067:3066+3099", "3069:3068+3099",
  "3070:306F+3099 306F+309A", "3073:3072+3099 3072+309A", "3076:3075+3099 3075+309A",
  "3079:3078+3099 3078+309A", "307C:307B+3099 307B+309A", "3094:3046+3099",
  "309E:309D+3099 3088+308A", "30AC:30AB+3099", "30AE:30AD+3099", "30B0:30AF+3099",
  "30B2:30B1+3099", "30B4:30B3+3099", "30B6:30B5+3099", "30B8:30B7+3099", "30BA:30B9+3099",
  "30BC:30BB+3099", "30BE:30BD+3099", "30C0:30BF+3099", "30C2:30C1+3099", "30C5:30C4+3099",
  "30C7:30C6+3099", "30C9:30C8+3099", "30D0:30CF+3099 30CF+309A", "30D3:30D2+3099 30D2+309A",
  "30D6:30D5+3099 30D5+309A", "30D9:30D8+3099 30D8+309A", "30DC:30DB+3099 30DB+309A",
  "30F4:30A6+3099", "30F7:30EF+3099 30F0+3099 30F1+3099 30F2+3099", "30FE:30FD+3099 30B3+30C8",
  "3131:1100 1101 11AA 1102 11AC 11AD 1103 1104 1105 11B0 11B1 11B2 11B3 11B4 11B5 111A 1106",
  "3142:1107 1108 1121 1109 110A 110B 110C 110D 110E 110F 1110 1111 1112 1161 1162 1163 1164",
  "3153:1165 1166 1167 1168 1169 116A 116B 116C 116D 116E 116F 1170 1171 1172 1173 1174 1175",
  "3164:1160 1114 1115 11C7 11C8 11CC 11CE 11D3 11D7 11D9 111C 11DD 11DF 111D 111E 1120 1122",
  "3175:1123 1127 1129 112B 112C 112D 112E 112F 1132 1136 1140 1147 114C 11F1 11F2 1157 1158",
  "3186:1159 1184 1185 1188 1191 1192 1194 119E 11A1", "A69C:44A 44C", "A770:A76F",
  "A7F2:43 46 51", "A7F8:126 153", "AB5C:A727 AB37 26B AB52", "AB69:28D",
  "F900:8C48 66F4 8ECA 8CC8 6ED1 4E32 53E5 9F9C 9F9C 5951 91D1 5587 5948 61F6 7669 7F85 863F",
  "F911:87BA 88F8 908F 6A02 6D1B 70D9 73DE 843D 916A 99F1 4E82 5375 6B04 721B 862D 9E1E 5D50",
  "F922:6FEB 85CD 8964 62C9 81D8 881F 5ECA 6717 6D6A 72FC 90CE 4F86 51B7 52DE 64C4 6AD3 7210",
  "F933:76E7 8001 8606 865C 8DEF 9732 9B6F 9DFA 788C 797F 7DA0 83C9 9304 9E7F 8AD6 58DF 5F04",
  "F944:7C60 807E 7262 78CA 8CC2 96F7 58D8 5C62 6A13 6DDA 6F0F 7D2F 7E37 964B 52D2 808B 51DC",
  "F955:51CC 7A1C 7DBE 83F1 9675 8B80 62CF 6A02 8AFE 4E39 5BE7 6012 7387 7570 5317 78FB 4FBF",
  "F966:5FA9 4E0D 6CCC 6578 7D22 53C3 585E 7701 8449 8AAA 6BBA 8FB0 6C88 62FE 82E5 63A0 7565",
  "F977:4EAE 5169 51C9 6881 7CE7 826F 8AD2 91CF 52F5 5442 5973 5EEC 65C5 6FFE 792A 95AD 9A6A",
  "F988:9E97 9ECE 529B 66C6 6B77 8F62 5E74 6190 6200 649A 6F23 7149 7489 79CA 7DF4 806F 8F26",
  "F999:84EE 9023 934A 5217 52A3 54BD 70C8 88C2 8AAA 5EC9 5FF5 637B 6BAE 7C3E 7375 4EE4 56F9",
  "F9AA:5BE7 5DBA 601C 73B2 7469 7F9A 8046 9234 96F6 9748 9818 4F8B 79AE 91B4 96B8 60E1 4E86",
  "F9BB:50DA 5BEE 5C3F 6599 6A02 71CE 7642 84FC 907C 9F8D 6688 962E 5289 677B 67F3 6D41 6E9C",
  "F9CC:7409 7559 786B 7D10 985E 516D 622E 9678 502B 5D19 6DEA 8F2A 5F8B 6144 6817 7387 9686",
  "F9DD:5229 540F 5C65 6613 674E 68A8 6CE5 7406 75E2 7F79 88CF 88E1 91CC 96E2 533F 6EBA 541D",
  "F9EE:71D0 7498 85FA 96A3 9C57 9E9F 6797 6DCB 81E8 7ACB 7B20 7C92 72C0 7099 8B58 4EC0 8336",
  "F9FF:523A 5207 5EA6 62D3 7CD6 5B85 6D1E 66B4 8F3B 884C 964D 898B 5ED3 5140 55C0", "FA10:585A",
  "FA12:6674", "FA15:51DE 732A 76CA 793C 795E 7965 798F 9756 7CBE 7FBD", "FA20:8612", "FA22:8AF8",
  "FA25:9038 90FD",
  "FA2A:98EF 98FC 9928 9DB4 90DE 96B7 4FAE 50E7 514D 52C9 52E4 5351 559D 5606 5668 5840 58A8",
  "FA3B:5C64 5C6E 6094 6168 618E 61F2 654F 65E2 6691 6885 6D77 6E1A 6F22 716E 722B 7422 7891",
  "FA4C:793E 7949 7948 7950 7956 795D 798D 798E 7A40 7A81 7BC0 7DF4 7E09 7E41 7F72 8005 81ED",
  "FA5D:8279 8279 8457 8910 8996 8B01 8B39 8CD3 8D08 8FB6 9038 96E3 97FF 983B 6075 242EE 8218",
  "FA70:4E26 51B5 5168 4F80 5145 5180 52C7 52FA 559D 5555 5599 55E2 585A 58B3 5944 5954 5A62",
  "FA81:5B28 5ED2 5ED9 5F69 5FAD 60D8 614E 6108 618E 6160 61F2 6234 63C4 641C 6452 6556 6674",
  "FA92:6717 671B 6756 6B79 6BBA 6D41 6EDB 6ECB 6F22 701E 716E 77A7 7235 72AF 732A 7471 7506",
  "FAA3:753B 761D 761F 76CA 76DB 76F4 774A 7740 78CC 7AB1 7BC0 7C7B 7D5B 7DF4 7F3E 8005 8352",
  "FAB4:83EF 8779 8941 8986 8996 8ABF 8AF8 8ACB 8B01 8AFE 8AED 8B39 8B8A 8D08 8F38 9072 9199",
  "FAC5:9276 967C 96E3 9756 97DB 97FF 980B 983B 9B12 9F9C 2284A 22844 233D5 3B9D 4018 4039",
  "FAD5:25249 25CD0 27ED3 9F43 9F8E", "FB00:66+66 66+69 66+6C 66+66+69 66+66+6C 73+74 73+74",
  "FB13:574+576 574+565 574+56B 57E+576 574+56D", "FB1D:5D9+5B4",
  "FB1F:5F2+5B7 5E2 5D0 5D3 5D4 5DB 5DC 5DD 5E8 5EA",
  "FB2A:5E9+5C1 5E9+5C2 5E9+5BC+5C1 5E9+5BC+5C2 5D0+5B7 5D0+5B8 5D0+5BC 5D1+5BC 5D2+5BC",
  "FB33:5D3+5BC 5D4+5BC 5D5+5BC 5D6+5BC", "FB38:5D8+5BC 5D9+5BC 5DA+5BC 5DB+5BC 5DC+5BC",
  "FB3E:5DE+5BC", "FB40:5E0+5BC 5E1+5BC", "FB43:5E3+5BC 5E4+5BC",
  "FB46:5E6+5BC 5E7+5BC 5E8+5BC 5E9+5BC 5EA+5BC 5D5+5B9 5D1+5BF 5DB+5BF 5E4+5BF 5D0+5DC 671",
  "FB51:671 67B 67B 67B 67B 67E 67E 67E 67E 680 680 680 680 67A 67A 67A 67A 67F 67F 67F 67F",
  "FB66:679 679 679 679 6A4 6A4 6A4 6A4 6A6 6A6 6A6 6A6 684 684 684 684 683 683 683 683 686",
  "FB7B:686 686 686 687 687 687 687 68D 68D 68C 68C 68E 68E 688 688 698 698 691 691 6A9 6A9",
  "FB90:6A9 6A9 6AF 6AF 6AF 6AF 6B3 6B3 6B3 6B3 6B1 6B1 6B1 6B1 6BA 6BA 6BB 6BB 6BB 6BB",
  "FBA4:6D5+654 6D5+654 6C1 6C1 6C1 6C1 6BE 6BE 6BE 6BE 6D2 6D2 6D2+654 6D2+654",
  "FBD3:6AD 6AD 6AD 6AD 6C7 6C7 6C6 6C6 6C8 6C8 6C7+674 6CB 6CB 6C5 6C5 6C9 6C9 6D0 6D0 6D0",
  "FBE7:6D0 649 649 64A+654+627 64A+654+627 64A+654+6D5 64A+654+6D5 64A+654+648 64A+654+648",
  "FBF0:64A+654+6C7 64A+654+6C7 64A+654+6C6 64A+654+6C6 64A+654+6C8 64A+654+6C8 64A+654+6D0",
  "FBF7:64A+654+6D0 64A+654+6D0 64A+654+649 64A+654+649 64A+654+649 6CC 6CC 6CC 6CC",
  "FC00:64A+654+62C 64A+654+62D 64A+654+645 64A+654+649 64A+654+64A 628+62C 628+62D 628+62E",
  "FC08:628+645 628+649 628+64A 62A+62C 62A+62D 62A+62E 62A+645 62A+649 62A+64A 62B+62C",
  "FC12:62B+645 62B+649 62B+64A 62C+62D 62C+645 62D+62C 62D+645 62E+62C 62E+62D 62E+645",
  "FC1C:633+62C 633+62D 633+62E 633+645 635+62D 635+645 636+62C 636+62D 636+62E 636+645",
  "FC26:637+62D 637+645 638+645 639+62C 639+645 63A+62C 63A+645 641+62C 641+62D 641+62E",
  "FC30:641+645 641+649 641+64A 642+62D 642+645 642+649 642+64A 643+627 643+62C 643+62D",
  "FC3A:643+62E 643+644 643+645 643+649 643+64A 644+62C 644+62D 644+62E 644+645 644+649",
  "FC44:644+64A 645+62C 645+62D 645+62E 645+645 645+649 645+64A 646+62C 646+62D 646+62E",
  "FC4E:646+645 646+649 646+64A 647+62C 647+645 647+649 647+64A 64A+62C 64A+62D 64A+62E",
  "FC58:64A+645 64A+649 64A+64A 630+670 631+670 649+670",
  "FC64:64A+654+631 64A+654+632 64A+654+645 64A+654+646 64A+654+649 64A+654+64A 628+631",
  "FC6B:628+632 628+645 628+646 628+649 628+64A 62A+631 62A+632 62A+645 62A+646 62A+649",
  "FC75:62A+64A 62B+631 62B+632 62B+645 62B+646 62B+649 62B+64A 641+649 641+64A 642+649",
  "FC7F:642+64A 643+627 643+644 643+645 643+649 643+64A 644+645 644+649 644+64A 645+627",
  "FC89:645+645 646+631 646+632 646+645 646+646 646+649 646+64A 649+670 64A+631 64A+632",
  "FC93:64A+645 64A+646 64A+649 64A+64A 64A+654+62C 64A+654+62D 64A+654+62E 64A+654+645",
  "FC9B:64A+654+647 628+62C 628+62D 628+62E 628+645 628+647 62A+62C 62A+62D 62A+62E 62A+645",
  "FCA5:62A+647 62B+645 62C+62D 62C+645 62D+62C 62D+645 62E+62C 62E+645 633+62C 633+62D",
  "FCAF:633+62E 633+645 635+62D 635+62E 635+645 636+62C 636+62D 636+62E 636+645 637+62D",
  "FCB9:638+645 639+62C 639+645 63A+62C 63A+645 641+62C 641+62D 641+62E 641+645 642+62D",
  "FCC3:642+645 643+62C 643+62D 643+62E 643+644 643+645 644+62C 644+62D 644+62E 644+645",
  "FCCD:644+647 645+62C 645+62D 645+62E 645+645 646+62C 646+62D 646+62E 646+645 646+647",
  "FCD7:647+62C 647+645 647+670 64A+62C 64A+62D 64A+62E 64A+645 64A+647 64A+654+645",
  "FCE0:64A+654+647 628+645 628+647 62A+645 62A+647 62B+645 62B+647 633+645 633+647 634+645",
  "FCEA:634+647 643+644 643+645 644+645 646+645 646+647 64A+645 64A+647 640+64E+651",
  "FCF3:640+64F+651 640+650+651 637+649 637+64A 639+649 639+64A 63A+649 63A+64A 633+649",
  "FCFC:633+64A 634+649 634+64A 62D+649 62D+64A 62C+649 62C+64A 62E+649 62E+64A 635+649",
  "FD06:635+64A 636+649 636+64A 634+62C 634+62D 634+62E 634+645 634+631 633+631 635+631",
  "FD10:636+631 637+649 637+64A 639+649 639+64A 63A+649 63A+64A 633+649 633+64A 634+649",
  "FD1A:634+64A 62D+649 62D+64A 62C+649 62C+64A 62E+649 62E+64A 635+649 635+64A 636+649",
  "FD24:636+64A 634+62C 634+62D 634+62E 634+645 634+631 633+631 635+631 636+631 634+62C",
  "FD2E:634+62D 634+62E 634+645 633+647 634+647 637+645 633+62C 633+62D 633+62E 634+62C",
  "FD38:634+62D 634+62E 637+645 638+645 627+64B 627+64B",
  "FD50:62A+62C+645 62A+62D+62C 62A+62D+62C 62A+62D+645 62A+62E+645 62A+645+62C 62A+645+62D",
  "FD57:62A+645+62E 62C+645+62D 62C+645+62D 62D+645+64A 62D+645+649 633+62D+62C 633+62C+62D",
  "FD5E:633+62C+649 633+645+62D 633+645+62D 633+645+62C 633+645+645 633+645+645 635+62D+62D",
  "FD65:635+62D+62D 635+645+645 634+62D+645 634+62D+645 634+62C+64A 634+645+62E 634+645+62E",
  "FD6C:634+645+645 634+645+645 636+62D+649 636+62E+645 636+62E+645 637+645+62D 637+645+62D",
  "FD73:637+645+645 637+645+64A 639+62C+645 639+645+645 639+645+645 639+645+649 63A+645+645",
  "FD7A:63A+645+64A 63A+645+649 641+62E+645 641+62E+645 642+645+62D 642+645+645 644+62D+645",
  "FD81:644+62D+64A 644+62D+649 644+62C+62C 644+62C+62C 644+62E+645 644+62E+645 644+645+62D",
  "FD88:644+645+62D 645+62D+62C 645+62D+645 645+62D+64A 645+62C+62D 645+62C+645 645+62E+62C",
  "FD8F:645+62E+645",
  "FD92:645+62C+62E 647+645+62C 647+645+645 646+62D+645 646+62D+649 646+62C+645 646+62C+645",
  "FD99:646+62C+649 646+645+64A 646+645+649 64A+645+645 64A+645+645 628+62E+64A 62A+62C+64A",
  "FDA0:62A+62C+649 62A+62E+64A 62A+62E+649 62A+645+64A 62A+645+649 62C+645+64A 62C+62D+649",
  "FDA7:62C+645+649 633+62E+649 635+62D+64A 634+62D+64A 636+62D+64A 644+62C+64A 644+645+64A",
  "FDAE:64A+62D+64A 64A+62C+64A 64A+645+64A 645+645+64A 642+645+64A 646+62D+64A 642+645+62D",
  "FDB5:644+62D+645 639+645+64A 643+645+64A 646+62C+62D 645+62E+64A 644+62C+645 643+645+645",
  "FDBC:644+62C+645 646+62C+62D 62C+62D+64A 62D+62C+64A 645+62C+64A 641+645+64A 628+62D+64A",
  "FDC3:643+645+645 639+62C+645 635+645+645 633+62E+64A 646+62C+64A",
  "FDF0:635+644+6D2 642+644+6D2 627+644+644+647 627+643+628+631 645+62D+645+62F",
  "FDF5:635+644+639+645 631+633+648+644 639+644+64A+647 648+633+644+645 635+644+649",
  "FE33:5F 5F", "FE4D:5F 5F 5F", "FE71:640+64B", "FE77:640+64E", "FE79:640+64F", "FE7B:640+650",
  "FE7D:640+651",
  "FE7F:640+652 621 627+653 627+653 627+654 627+654 648+654 648+654 627+655 627+655 64A+654",
  "FE8A:64A+654 64A+654 64A+654 627 627 628 628 628 628 629 629 62A 62A 62A 62A 62B 62B 62B",
  "FE9C:62B 62C 62C 62C 62C 62D 62D 62D 62D 62E 62E 62E 62E 62F 62F 630 630 631 631 632 632",
  "FEB1:633 633 633 633 634 634 634 634 635 635 635 635 636 636 636 636 637 637 637 637 638",
  "FEC6:638 638 638 639 639 639 639 63A 63A 63A 63A 641 641 641 641 642 642 642 642 643 643",
  "FEDB:643 643 644 644 644 644 645 645 645 645 646 646 646 646 647 647 647 647 648 648 649",
  "FEF0:649 64A 64A 64A 64A 644+627+653 644+627+653 644+627+654 644+627+654 644+627+655",
  "FEFA:644+627+655 644+627 644+627", "FF10:30 31 32 33 34 35 36 37 38 39",
  "FF21:41 42 43 44 45 46 47 48 49 4A 4B 4C 4D 4E 4F 50 51 52 53 54 55 56 57 58 59 5A", "FF3F:5F",
  "FF41:61 62 63 64 65 66 67 68 69 6A 6B 6C 6D 6E 6F 70 71 72 73 74 75 76 77 78 79 7A",
  "FF66:30F2 30A1 30A3 30A5 30A7 30A9 30E3 30E5 30E7 30C3 30FC 30A2 30A4 30A6 30A8 30AA 30AB",
  "FF77:30AD 30AF 30B1 30B3 30B5 30B7 30B9 30BB 30BD 30BF 30C1 30C4 30C6 30C8 30CA 30CB 30CC",
  "FF88:30CD 30CE 30CF 30D2 30D5 30D8 30DB 30DE 30DF 30E0 30E1 30E2 30E4 30E6 30E8 30E9 30EA",
  "FF99:30EB 30EC 30ED 30EF 30F3 3099 309A 1160 1100 1101 11AA 1102 11AC 11AD 1103 1104 1105",
  "FFAA:11B0 11B1 11B2 11B3 11B4 11B5 111A 1106 1107 1108 1121 1109 110A 110B 110C 110D 110E",
  "FFBB:110F 1110 1111 1112", "FFC2:1161 1162 1163 1164 1165 1166",
  "FFCA:1167 1168 1169 116A 116B 116C", "FFD2:116D 116E 116F 1170 1171 1172",
  "FFDA:1173 1174 1175", "10781:2D0 2D1 E6 299 253",
  "10787:2A3 AB66 2A5 2A4 256 257 1D91 258 25E 2A9 264 262 260 29B 127 29C 267 284 2AA 2AB",
  "1079B:26C 1DF04 A78E 26E 1DF05 28E 1DF06 F8 276 277 71 27A 1DF08 27D 27E 280 2A8 2A6 AB67",
  "107AE:2A7 288 2C71", "107B2:28F 2A1 2A2 298 1C0 1C1 1C2 1DF0A 1DF1E", "1109A:11099+110BA",
  "1109C:1109B+110BA", "110AB:110A5+110BA", "1112E:11131+11127 11132+11127",
  "1134B:11347+1133E 11347+11357", "114BB:114B9+114BA 114B9+114B0", "114BE:114B9+114BD",
  "115BA:115B8+115AF 115B9+115AF", "11938:11935+11930",
  "1D400:41 42 43 44 45 46 47 48 49 4A 4B 4C 4D 4E 4F 50 51 52 53 54 55 56 57 58 59 5A 61 62",
  "1D41C:63 64 65 66 67 68 69 6A 6B 6C 6D 6E 6F 70 71 72 73 74 75 76 77 78 79 7A 41 42 43 44",
  "1D438:45 46 47 48 49 4A 4B 4C 4D 4E 4F 50 51 52 53 54 55 56 57 58 59 5A 61 62 63 64 65 66",
  "1D454:67",
  "1D456:69 6A 6B 6C 6D 6E 6F 70 71 72 73 74 75 76 77 78 79 7A 41 42 43 44 45 46 47 48 49 4A",
  "1D472:4B 4C 4D 4E 4F 50 51 52 53 54 55 56 57 58 59 5A 61 62 63 64 65 66 67 68 69 6A 6B 6C",
  "1D48E:6D 6E 6F 70 71 72 73 74 75 76 77 78 79 7A 41", "1D49E:43 44", "1D4A2:47", "1D4A5:4A 4B",
  "1D4A9:4E 4F 50 51", "1D4AE:53 54 55 56 57 58 59 5A 61 62 63 64", "1D4BB:66",
  "1D4BD:68 69 6A 6B 6C 6D 6E",
  "1D4C5:70 71 72 73 74 75 76 77 78 79 7A 41 42 43 44 45 46 47 48 49 4A 4B 4C 4D 4E 4F 50 51",
  "1D4E1:52 53 54 55 56 57 58 59 5A 61 62 63 64 65 66 67 68 69 6A 6B 6C 6D 6E 6F 70 71 72 73",
  "1D4FD:74 75 76 77 78 79 7A 41 42", "1D507:44 45 46 47", "1D50D:4A 4B 4C 4D 4E 4F 50 51",
  "1D516:53 54 55 56 57 58 59",
  "1D51E:61 62 63 64 65 66 67 68 69 6A 6B 6C 6D 6E 6F 70 71 72 73 74 75 76 77 78 79 7A 41 42",
  "1D53B:44 45 46 47", "1D540:49 4A 4B 4C 4D", "1D546:4F", "1D54A:53 54 55 56 57 58 59",
  "1D552:61 62 63 64 65 66 67 68 69 6A 6B 6C 6D 6E 6F 70 71 72 73 74 75 76 77 78 79 7A 41 42",
  "1D56E:43 44 45 46 47 48 49 4A 4B 4C 4D 4E 4F 50 51 52 53 54 55 56 57 58 59 5A 61 62 63 64",
  "1D58A:65 66 67 68 69 6A 6B 6C 6D 6E 6F 70 71 72 73 74 75 76 77 78 79 7A 41 42 43 44 45 46",
  "1D5A6:47 48 49 4A 4B 4C 4D 4E 4F 50 51 52 53 54 55 56 57 58 59 5A 61 62 63 64 65 66 67 68",
  "1D5C2:69 6A 6B 6C 6D 6E 6F 70 71 72 73 74 75 76 77 78 79 7A 41 42 43 44 45 46 47 48 49 4A",
  "1D5DE:4B 4C 4D 4E 4F 50 51 52 53 54 55 56 57 58 59 5A 61 62 63 64 65 66 67 68 69 6A 6B 6C",
  "1D5FA:6D 6E 6F 70 71 72 73 74 75 76 77 78 79 7A 41 42 43 44 45 46 47 48 49 4A 4B 4C 4D 4E",
  "1D616:4F 50 51 52 53 54 55 56 57 58 59 5A 61 62 63 64 65 66 67 68 69 6A 6B 6C 6D 6E 6F 70",
  "1D632:71 72 73 74 75 76 77 78 79 7A 41 42 43 44 45 46 47 48 49 4A 4B 4C 4D 4E 4F 50 51 52",
  "1D64E:53 54 55 56 57 58 59 5A 61 62 63 64 65 66 67 68 69 6A 6B 6C 6D 6E 6F 70 71 72 73 74",
  "1D66A:75 76 77 78 79 7A 41 42 43 44 45 46 47 48 49 4A 4B 4C 4D 4E 4F 50 51 52 53 54 55 56",
  "1D686:57 58 59 5A 61 62 63 64 65 66 67 68 69 6A 6B 6C 6D 6E 6F 70 71 72 73 74 75 76 77 78",
  "1D6A2:79 7A 131 237",
  "1D6A8:391 392 393 394 395 396 397 398 399 39A 39B 39C 39D 39E 39F 3A0 3A1 398 3A3 3A4 3A5",
  "1D6BD:3A6 3A7 3A8 3A9",
  "1D6C2:3B1 3B2 3B3 3B4 3B5 3B6 3B7 3B8 3B9 3BA 3BB 3BC 3BD 3BE 3BF 3C0 3C1 3C2 3C3 3C4 3C5",
  "1D6D7:3C6 3C7 3C8 3C9",
  "1D6DC:3B5 3B8 3BA 3C6 3C1 3C0 391 392 393 394 395 396 397 398 399 39A 39B 39C 39D 39E 39F",
  "1D6F1:3A0 3A1 398 3A3 3A4 3A5 3A6 3A7 3A8 3A9",
  "1D6FC:3B1 3B2 3B3 3B4 3B5 3B6 3B7 3B8 3B9 3BA 3BB 3BC 3BD 3BE 3BF 3C0 3C1 3C2 3C3 3C4 3C5",
  "1D711:3C6 3C7 3C8 3C9",
  "1D716:3B5 3B8 3BA 3C6 3C1 3C0 391 392 393 394 395 396 397 398 399 39A 39B 39C 39D 39E 39F",
  "1D72B:3A0 3A1 398 3A3 3A4 3A5 3A6 3A7 3A8 3A9",
  "1D736:3B1 3B2 3B3 3B4 3B5 3B6 3B7 3B8 3B9 3BA 3BB 3BC 3BD 3BE 3BF 3C0 3C1 3C2 3C3 3C4 3C5",
  "1D74B:3C6 3C7 3C8 3C9",
  "1D750:3B5 3B8 3BA 3C6 3C1 3C0 391 392 393 394 395 396 397 398 399 39A 39B 39C 39D 39E 39F",
  "1D765:3A0 3A1 398 3A3 3A4 3A5 3A6 3A7 3A8 3A9",
  "1D770:3B1 3B2 3B3 3B4 3B5 3B6 3B7 3B8 3B9 3BA 3BB 3BC 3BD 3BE 3BF 3C0 3C1 3C2 3C3 3C4 3C5",
  "1D785:3C6 3C7 3C8 3C9",
  "1D78A:3B5 3B8 3BA 3C6 3C1 3C0 391 392 393 394 395 396 397 398 399 39A 39B 39C 39D 39E 39F",
  "1D79F:3A0 3A1 398 3A3 3A4 3A5 3A6 3A7 3A8 3A9",
  "1D7AA:3B1 3B2 3B3 3B4 3B5 3B6 3B7 3B8 3B9 3BA 3BB 3BC 3BD 3BE 3BF 3C0 3C1 3C2 3C3 3C4 3C5",
  "1D7BF:3C6 3C7 3C8 3C9", "1D7C4:3B5 3B8 3BA 3C6 3C1 3C0 3DC 3DD",
  "1D7CE:30 31 32 33 34 35 36 37 38 39 30 31 32 33 34 35 36 37 38 39 30 31 32 33 34 35 36 37",
  "1D7EA:38 39 30 31 32 33 34 35 36 37 38 39 30 31 32 33 34 35 36 37 38 39",
  "1EE00:627 628 62C 62F",
  "1EE05:648 632 62D 637 64A 643 644 645 646 633 639 641 635 642 631 634 62A 62B 62E 630 636",
  "1EE1A:638 63A 66E 6BA 6A1 66F", "1EE21:628 62C", "1EE24:647", "1EE27:62D",
  "1EE29:64A 643 644 645 646 633 639 641 635 642", "1EE34:634 62A 62B 62E", "1EE39:636",
  "1EE3B:63A", "1EE42:62C", "1EE47:62D", "1EE49:64A", "1EE4B:644", "1EE4D:646 633 639",
  "1EE51:635 642", "1EE54:634", "1EE57:62E", "1EE59:636", "1EE5B:63A", "1EE5D:6BA", "1EE5F:66F",
  "1EE61:628 62C", "1EE64:647", "1EE67:62D 637 64A 643", "1EE6C:645 646 633 639 641 635 642",
  "1EE74:634 62A 62B 62E", "1EE79:636 638 63A 66E", "1EE7E:6A1",
  "1EE80:627 628 62C 62F 647 648 632 62D 637 64A",
  "1EE8B:644 645 646 633 639 641 635 642 631 634 62A 62B 62E 630 636 638 63A",
  "1EEA1:628 62C 62F", "1EEA5:648 632 62D 637 64A",
  "1EEAB:644 645 646 633 639 641 635 642 631 634 62A 62B 62E 630 636 638 63A",
  "1FBF0:30 31 32 33 34 35 36 37 38 39",
  "2F800:4E3D 4E38 4E41 20122 4F60 4FAE 4FBB 5002 507A 5099 50E7 50CF 349E 2063A 514D 5154",
  "2F810:5164 5177 2051C 34B9 5167 518D 2054B 5197 51A4 4ECC 51AC 51B5 291DF 51F5 5203 34DF",
  "2F820:523B 5246 5272 5277 3515 52C7 52C9 52E4 52FA 5305 5306 5317 5349 5351 535A 5373 537D",
  "2F831:537F 537F 537F 20A2C 7070 53CA 53DF 20B63 53EB 53F1 5406 549E 5438 5448 5468 54A2",
  "2F841:54F6 5510 5553 5563 5584 5584 5599 55AB 55B3 55C2 5716 5606 5717 5651 5674 5207 58EE",
  "2F852:57CE 57F4 580D 578B 5832 5831 58AC 214E4 58F2 58F7 5906 591A 5922 5962 216A8 216EA",
  "2F862:59EC 5A1B 5A27 59D8 5A66 36EE 36FC 5B08 5B3E 5B3E 219C8 5BC3 5BD8 5BE7 5BF3 21B18",
  "2F872:5BFF 5C06 5F53 5C22 3781 5C60 5C6E 5CC0 5C8D 21DE4 5D43 21DE6 5D6E 5D6B 5D7C 5DE1",
  "2F882:5DE2 382F 5DFD 5E28 5E3D 5E69 3862 22183 387C 5EB0 5EB3 5EB6 5ECA 2A392 5EFE 22331",
  "2F892:22331 8201 5F22 5F22 38C7 232B8 261DA 5F62 5F6B 38E3 5F9A 5FCD 5FD7 5FF9 6081 393A",
  "2F8A2:391C 6094 226D4 60C7 6148 614C 614E 614C 617A 618E 61B2 61A4 61AF 61DE 61F2 61F6",
  "2F8B2:6210 621B 625D 62B1 62D4 6350 22B0C 633D 62FC 6368 6383 63E4 22BF1 6422 63C5 63A9",
  "2F8C2:3A2E 6469 647E 649D 6477 3A6C 654F 656C 2300A 65E3 66F8 6649 3B19 6691 3B08 3AE4",
  "2F8D2:5192 5195 6700 669C 80AD 43D9 6717 671B 6721 675E 6753 233C3 3B49 67FA 6785 6852",
  "2F8E2:6885 2346D 688E 681F 6914 3B9D 6942 69A3 69EA 6AA8 236A3 6ADB 3C18 6B21 238A7 6B54",
  "2F8F2:3C4E 6B72 6B9F 6BBA 6BBB 23A8D 21D0B 23AFA 6C4E 23CBC 6CBF 6CCD 6C67 6D16 6D3E 6D77",
  "2F902:6D41 6D69 6D78 6D85 23D1E 6D34 6E2F 6E6E 3D33 6ECB 6EC7 23ED1 6DF9 6F6E 23F5E 23F8E",
  "2F912:6FC6 7039 701E 701B 3D96 704A 707D 7077 70AD 20525 7145 24263 719C 243AB 7228 7235",
  "2F922:7250 24608 7280 7295 24735 24814 737A 738B 3EAC 73A5 3EB8 3EB8 7447 745C 7471 7485",
  "2F932:74CA 3F1B 7524 24C36 753E 24C92 7570 2219F 7610 24FA1 24FB8 25044 3FFC 4008 76F4",
  "2F941:250F3 250F2 25119 25133 771E 771F 771F 774A 4039 778B 4046 4096 2541D 784E 788C 78CC",
  "2F951:40E3 25626 7956 2569A 256C5 798F 79EB 412F 7A40 7A4A 7A4F 2597C 25AA7 25AA7 7AEE",
  "2F960:4202 25BAB 7BC6 7BC9 4227 25C80 7CD2 42A0 7CE8 7CE3 7D00 25F86 7D63 4301 7DC7 7E02",
  "2F970:7E45 4334 26228 26247 4359 262D9 7F7A 2633E 7F95 7FFA 8005 264DA 26523 8060 265A8",
  "2F97F:8070 2335F 43D5 80B2 8103 440B 813E 5AB5 267A7 267B5 23393 2339C 8201 8204 8F9E 446B",
  "2F98F:8291 828B 829D 52B3 82B1 82B3 82BD 82E6 26B3C 82E5 831D 8363 83AD 8323 83BD 83E7",
  "2F99F:8457 8353 83CA 83CC 83DC 26C36 26D6B 26CD5 452B 84F1 84F3 8516 273CA 8564 26F2C 455D",
  "2F9AF:4561 26FB1 270D2 456B 8650 865C 8667 8669 86A9 8688 870E 86E2 8779 8728 876B 8786",
  "2F9BF:45D7 87E1 8801 45F9 8860 8863 27667 88D7 88DE 4635 88FA 34BB 278AE 27966 46BE 46C7",
  "2F9CF:8AA0 8AED 8B8A 8C55 27CA8 8CAB 8CC1 8D1B 8D77 27F2F 20804 8DCB 8DBC 8DF0 208DE 8ED4",
  "2F9DF:8F38 285D2 285ED 9094 90F1 9111 2872E 911B 9238 92D7 92D8 927C 93F9 9415 28BFA 958B",
  "2F9EF:4995 95B7 28D77 49E6 96C3 5DB2 9723 29145 2921A 4A6E 4A76 97E0 2940A 4AB2 29496 980B",
  "2F9FF:980B 9829 295B6 98E2 4B33 9929 99A7 99C2 99FE 4BCE 29B30 9B12 9C40 9CFD 4CCE 4CED",
  "2FA0F:9D67 2A0CE 4CF8 2A105 2A20E 2A291 9EBB 4D56 9EF9 9EFE 9F05 9F0F 9F16 9F3B 2A600"]

/-- The characters that are composed, with the two parts of each. -/
def compositionSegments : List String := [
  "C0:41+300 41+301 41+302 41+303 41+308 41+30A",
  "C7:43+327 45+300 45+301 45+302 45+308 49+300 49+301 49+302 49+308",
  "D1:4E+303 4F+300 4F+301 4F+302 4F+303 4F+308", "D9:55+300 55+301 55+302 55+308 59+301",
  "E0:61+300 61+301 61+302 61+303 61+308 61+30A",
  "E7:63+327 65+300 65+301 65+302 65+308 69+300 69+301 69+302 69+308",
  "F1:6E+303 6F+300 6F+301 6F+302 6F+303 6F+308", "F9:75+300 75+301 75+302 75+308 79+301",
  "FF:79+308 41+304 61+304 41+306 61+306 41+328 61+328 43+301 63+301 43+302 63+302 43+307",
  "10B:63+307 43+30C 63+30C 44+30C 64+30C",
  "112:45+304 65+304 45+306 65+306 45+307 65+307 45+328 65+328 45+30C 65+30C 47+302 67+302",
  "11E:47+306 67+306 47+307 67+307 47+327 67+327 48+302 68+302",
  "128:49+303 69+303 49+304 69+304 49+306 69+306 49+328 69+328 49+307",
  "134:4A+302 6A+302 4B+327 6B+327", "139:4C+301 6C+301 4C+327 6C+327 4C+30C 6C+30C",
  "143:4E+301 6E+301 4E+327 6E+327 4E+30C 6E+30C",
  "14C:4F+304 6F+304 4F+306 6F+306 4F+30B 6F+30B",
  "154:52+301 72+301 52+327 72+327 52+30C 72+30C 53+301 73+301 53+302 73+302 53+327 73+327",
  "160:53+30C 73+30C 54+327 74+327 54+30C 74+30C",
  "168:55+303 75+303 55+304 75+304 55+306 75+306 55+30A 75+30A 55+30B 75+30B 55+328 75+328",
  "174:57+302 77+302 59+302 79+302 59+308 5A+301 7A+301 5A+307 7A+307 5A+30C 7A+30C",
  "1A0:4F+31B 6F+31B", "1AF:55+31B 75+31B",
  "1CD:41+30C 61+30C 49+30C 69+30C 4F+30C 6F+30C 55+30C 75+30C DC+304 FC+304 DC+301 FC+301",
  "1D9:DC+30C FC+30C DC+300 FC+300", "1DE:C4+304 E4+304 226+304 227+304 C6+304 E6+304",
  "1E6:47+30C 67+30C 4B+30C 6B+30C 4F+328 6F+328 1EA+304 1EB+304 1B7+30C 292+30C 6A+30C",
  "1F4:47+301 67+301",
  "1F8:4E+300 6E+300 C5+301 E5+301 C6+301 E6+301 D8+301 F8+301 41+30F 61+30F 41+311 61+311",
  "204:45+30F 65+30F 45+311 65+311 49+30F 69+30F 49+311 69+311 4F+30F 6F+30F 4F+311 6F+311",
  "210:52+30F 72+30F 52+311 72+311 55+30F 75+30F 55+311 75+311 53+326 73+326 54+326 74+326",
  "21E:48+30C 68+30C",
  "226:41+307 61+307 45+327 65+327 D6+304 F6+304 D5+304 F5+304 4F+307 6F+307 22E+304 22F+304",
  "232:59+304 79+304", "385:A8+301 391+301", "388:395+301 397+301 399+301", "38C:39F+301",
  "38E:3A5+301 3A9+301 3CA+301", "3AA:399+308 3A5+308 3B1+301 3B5+301 3B7+301 3B9+301 3CB+301",
  "3CA:3B9+308 3C5+308 3BF+301 3C5+301 3C9+301", "3D3:3D2+301 3D2+308", "400:415+300 415+308",
  "403:413+301", "407:406+308", "40C:41A+301 418+300 423+306", "419:418+306", "439:438+306",
  "450:435+300 435+308", "453:433+301", "457:456+308", "45C:43A+301 438+300 443+306",
  "476:474+30F 475+30F", "4C1:416+306 436+306", "4D0:410+306 430+306 410+308 430+308",
  "4D6:415+306 435+306", "4DA:4D8+308 4D9+308 416+308 436+308 417+308 437+308",
  "4E2:418+304 438+304 418+308 438+308 41E+308 43E+308",
  "4EA:4E8+308 4E9+308 42D+308 44D+308 423+304 443+304 423+308 443+308 423+30B 443+30B",
  "4F4:427+308 447+308", "4F8:42B+308 44B+308", "622:627+653 627+654 648+654 627+655 64A+654",
  "6C0:6D5+654", "6C2:6C1+654", "6D3:6D2+654", "929:928+93C", "931:930+93C", "934:933+93C",
  "9CB:9C7+9BE 9C7+9D7", "B48:B47+B56", "B4B:B47+B3E B47+B57", "B94:B92+BD7",
  "BCA:BC6+BBE BC7+BBE BC6+BD7", "C48:C46+C56", "CC0:CBF+CD5", "CC7:CC6+CD5 CC6+CD6",
  "CCA:CC6+CC2 CCA+CD5", "D4A:D46+D3E D47+D3E D46+D57", "DDA:DD9+DCA",
  "DDC:DD9+DCF DDC+DCA DD9+DDF", "1026:1025+102E", "1B06:1B05+1B35", "1B08:1B07+1B35",
  "1B0A:1B09+1B35", "1B0C:1B0B+1B35", "1B0E:1B0D+1B35", "1B12:1B11+1B35", "1B3B:1B3A+1B35",
  "1B3D:1B3C+1B35", "1B40:1B3E+1B35 1B3F+1B35", "1B43:1B42+1B35",
  "1E00:41+325 61+325 42+307 62+307 42+323 62+323 42+331 62+331 C7+301 E7+301 44+307 64+307",
  "1E0C:44+323 64+323 44+331 64+331 44+327 64+327 44+32D 64+32D 112+300 113+300 112+301",
  "1E17:113+301 45+32D 65+32D 45+330 65+330 228+306 229+306 46+307 66+307 47+304 67+304",
  "1E22:48+307 68+307 48+323 68+323 48+308 68+308 48+327 68+327 48+32E 68+32E 49+330 69+330",
  "1E2E:CF+301 EF+301 4B+301 6B+301 4B+323 6B+323 4B+331 6B+331 4C+323 6C+323 1E36+304",
  "1E39:1E37+304 4C+331 6C+331 4C+32D 6C+32D 4D+301 6D+301 4D+307 6D+307 4D+323 6D+323 4E+307",
  "1E45:6E+307 4E+323 6E+323 4E+331 6E+331 4E+32D 6E+32D D5+301 F5+301 D5+308 F5+308 14C+300",
  "1E51:14D+300 14C+301 14D+301 50+301 70+301 50+307 70+307 52+307 72+307 52+323 72+323",
  "1E5C:1E5A+304 1E5B+304 52+331 72+331 53+307 73+307 53+323 73+323 15A+307 15B+307 160+307",
  "1E67:161+307 1E62+307 1E63+307 54+307 74+307 54+323 74+323 54+331 74+331 54+32D 74+32D",
  "1E72:55+324 75+324 55+330 75+330 55+32D 75+32D 168+301 169+301 16A+308 16B+308 56+303",
  "1E7D:76+303 56+323 76+323 57+300 77+300 57+301 77+301 57+308 77+308 57+307 77+307 57+323",
  "1E89:77+323 58+307 78+307 58+308 78+308 59+307 79+307 5A+302 7A+302 5A+323 7A+323 5A+331",
  "1E95:7A+331 68+331 74+308 77+30A 79+30A", "1E9B:17F+307",
  "1EA0:41+323 61+323 41+309 61+309 C2+301 E2+301 C2+300 E2+300 C2+309 E2+309 C2+303 E2+303",
  "1EAC:1EA0+302 1EA1+302 102+301 103+301 102+300 103+300 102+309 103+309 102+303 103+303",
  "1EB6:1EA0+306 1EA1+306 45+323 65+323 45+309 65+309 45+303 65+303 CA+301 EA+301 CA+300",
  "1EC1:EA+300 CA+309 EA+309 CA+303 EA+303 1EB8+302 1EB9+302 49+309 69+309 49+323 69+323",
  "1ECC:4F+323 6F+323 4F+309 6F+309 D4+301 F4+301 D4+300 F4+300 D4+309 F4+309 D4+303 F4+303",
  "1ED8:1ECC+302 1ECD+302 1A0+301 1A1+301 1A0+300 1A1+300 1A0+309 1A1+309 1A0+303 1A1+303",
  "1EE2:1A0+323 1A1+323 55+323 75+323 55+309 75+309 1AF+301 1B0+301 1AF+300 1B0+300 1AF+309",
  "1EED:1B0+309 1AF+303 1B0+303 1AF+323 1B0+323 59+300 79+300 59+323 79+323 59+309 79+309",
  "1EF8:59+303 79+303",
  "1F00:3B1+313 3B1+314 1F00+300 1F01+300 1F00+301 1F01+301 1F00+342 1F01+342 391+313 391+314",
  "1F0A:1F08+300 1F09+300 1F08+301 1F09+301 1F08+342 1F09+342 3B5+313 3B5+314 1F10+300",
  "1F13:1F11+300 1F10+301 1F11+301", "1F18:395+313 395+314 1F18+300 1F19+300 1F18+301 1F19+301",
  "1F20:3B7+313 3B7+314 1F20+300 1F21+300 1F20+301 1F21+301 1F20+342 1F21+342 397+313 397+314",
  "1F2A:1F28+300 1F29+300 1F28+301 1F29+301 1F28+342 1F29+342 3B9+313 3B9+314 1F30+300",
  "1F33:1F31+300 1F30+301 1F31+301 1F30+342 1F31+342 399+313 399+314 1F38+300 1F39+300",
  "1F3C:1F38+301 1F39+301 1F38+342 1F39+342 3BF+313 3BF+314 1F40+300 1F41+300 1F40+301",
  "1F45:1F41+301", "1F48:39F+313 39F+314 1F48+300 1F49+300 1F48+301 1F49+301",
  "1F50:3C5+313 3C5+314 1F50+300 1F51+300 1F50+301 1F51+301 1F50+342 1F51+342", "1F59:3A5+314",
  "1F5B:1F59+300", "1F5D:1F59+301",
  "1F5F:1F59+342 3C9+313 3C9+314 1F60+300 1F61+300 1F60+301 1F61+301 1F60+342 1F61+342",
  "1F68:3A9+313 3A9+314 1F68+300 1F69+300 1F68+301 1F69+301 1F68+342 1F69+342 3B1+300",
  "1F72:3B5+300", "1F74:3B7+300", "1F76:3B9+300", "1F78:3BF+300", "1F7A:3C5+300", "1F7C:3C9+300",
  "1F80:1F00+345 1F01+345 1F02+345 1F03+345 1F04+345 1F05+345 1F06+345 1F07+345 1F08+345",
  "1F89:1F09+345 1F0A+345 1F0B+345 1F0C+345 1F0D+345 1F0E+345 1F0F+345 1F20+345 1F21+345",
  "1F92:1F22+345 1F23+345 1F24+345 1F25+345 1F26+345 1F27+345 1F28+345 1F29+345 1F2A+345",
  "1F9B:1F2B+345 1F2C+345 1F2D+345 1F2E+345 1F2F+345 1F60+345 1F61+345 1F62+345 1F63+345",
  "1FA4:1F64+345 1F65+345 1F66+345 1F67+345 1F68+345 1F69+345 1F6A+345 1F6B+345 1F6C+345",
  "1FAD:1F6D+345 1F6E+345 1F6F+345 3B1+306 3B1+304 1F70+345 3B1+345 3AC+345",
  "1FB6:3B1+342 1FB6+345 391+306 391+304 391+300", "1FBC:391+345",
  "1FC1:A8+342 1F74+345 3B7+345 3AE+345", "1FC6:3B7+342 1FC6+345 395+300", "1FCA:397+300",
  "1FCC:397+345 1FBF+300 1FBF+301 1FBF+342 3B9+306 3B9+304 3CA+300",
  "1FD6:3B9+342 3CA+342 399+306 399+304 399+300",
  "1FDD:1FFE+300 1FFE+301 1FFE+342 3C5+306 3C5+304 3CB+300",
  "1FE4:3C1+313 3C1+314 3C5+342 3CB+342 3A5+306 3A5+304 3A5+300", "1FEC:3A1+314 A8+300",
  "1FF2:1F7C+345 3C9+345 3CE+345", "1FF6:3C9+342 1FF6+345 39F+300", "1FFA:3A9+300",
  "1FFC:3A9+345", "219A:2190+338 2192+338", "21AE:2194+338", "21CD:21D0+338 21D4+338 21D2+338",
  "2204:2203+338", "2209:2208+338", "220C:220B+338", "2224:2223+338", "2226:2225+338",
  "2241:223C+338", "2244:2243+338", "2247:2245+338", "2249:2248+338", "2260:3D+338",
  "2262:2261+338", "226D:224D+338 3C+338 3E+338 2264+338 2265+338", "2274:2272+338 2273+338",
  "2278:2276+338 2277+338", "2280:227A+338 227B+338", "2284:2282+338 2283+338",
  "2288:2286+338 2287+338", "22AC:22A2+338 22A8+338 22A9+338 22AB+338",
  "22E0:227C+338 227D+338 2291+338 2292+338", "22EA:22B2+338 22B3+338 22B4+338 22B5+338",
  "304C:304B+3099", "304E:304D+3099", "3050:304F+3099", "3052:3051+3099", "3054:3053+3099",
  "3056:3055+3099", "3058:3057+3099", "305A:3059+3099", "305C:305B+3099", "305E:305D+3099",
  "3060:305F+3099", "3062:3061+3099", "3065:3064+3099", "3067:3066+3099", "3069:3068+3099",
  "3070:306F+3099 306F+309A", "3073:3072+3099 3072+309A", "3076:3075+3099 3075+309A",
  "3079:3078+3099 3078+309A", "307C:307B+3099 307B+309A", "3094:3046+3099", "309E:309D+3099",
  "30AC:30AB+3099", "30AE:30AD+3099", "30B0:30AF+3099", "30B2:30B1+3099", "30B4:30B3+3099",
  "30B6:30B5+3099", "30B8:30B7+3099", "30BA:30B9+3099", "30BC:30BB+3099", "30BE:30BD+3099",
  "30C0:30BF+3099", "30C2:30C1+3099", "30C5:30C4+3099", "30C7:30C6+3099", "30C9:30C8+3099",
  "30D0:30CF+3099 30CF+309A", "30D3:30D2+3099 30D2+309A", "30D6:30D5+3099 30D5+309A",
  "30D9:30D8+3099 30D8+309A", "30DC:30DB+3099 30DB+309A", "30F4:30A6+3099",
  "30F7:30EF+3099 30F0+3099 30F1+3099 30F2+3099", "30FE:30FD+3099", "1109A:11099+110BA",
  "1109C:1109B+110BA", "110AB:110A5+110BA", "1112E:11131+11127 11132+11127",
  "1134B:11347+1133E 11347+11357", "114BB:114B9+114BA 114B9+114B0", "114BE:114B9+114BD",
  "115BA:115B8+115AF 115B9+115AF", "11938:11935+11930"]

/-- The combining classes other than zero: first character, last character, class. -/
def combiningClasses : List (Nat × Nat × Nat) := [
  (0x0300, 0x0314, 230), (0x0315, 0x0315, 232), (0x0316, 0x0319, 220), (0x031A, 0x031A, 232),
  (0x031B, 0x031B, 216), (0x031C, 0x0320, 220), (0x0321, 0x0322, 202), (0x0323, 0x0326, 220),
  (0x0327, 0x0328, 202), (0x0329, 0x0333, 220), (0x0334, 0x0338, 1), (0x0339, 0x033C, 220),
  (0x033D, 0x0344, 230), (0x0345, 0x0345, 240), (0x0346, 0x0346, 230), (0x0347, 0x0349, 220),
  (0x034A, 0x034C, 230), (0x034D, 0x034E, 220), (0x0350, 0x0352, 230), (0x0353, 0x0356, 220),
  (0x0357, 0x0357, 230), (0x0358, 0x0358, 232), (0x0359, 0x035A, 220), (0x035B, 0x035B, 230),
  (0x035C, 0x035C, 233), (0x035D, 0x035E, 234), (0x035F, 0x035F, 233), (0x0360, 0x0361, 234),
  (0x0362, 0x0362, 233), (0x0363, 0x036F, 230), (0x0483, 0x0487, 230), (0x0591, 0x0591, 220),
  (0x0592, 0x0595, 230), (0x0596, 0x0596, 220), (0x0597, 0x0599, 230), (0x059A, 0x059A, 222),
  (0x059B, 0x059B, 220), (0x059C, 0x05A1, 230), (0x05A2, 0x05A7, 220), (0x05A8, 0x05A9, 230),
  (0x05AA, 0x05AA, 220), (0x05AB, 0x05AC, 230), (0x05AD, 0x05AD, 222), (0x05AE, 0x05AE, 228),
  (0x05AF, 0x05AF, 230), (0x05B0, 0x05B0, 10), (0x05B1, 0x05B1, 11), (0x05B2, 0x05B2, 12),
  (0x05B3, 0x05B3, 13), (0x05B4, 0x05B4, 14), (0x05B5, 0x05B5, 15), (0x05B6, 0x05B6, 16),
  (0x05B7, 0x05B7, 17), (0x05B8, 0x05B8, 18), (0x05B9, 0x05BA, 19), (0x05BB, 0x05BB, 20),
  (0x05BC, 0x05BC, 21), (0x05BD, 0x05BD, 22), (0x05BF, 0x05BF, 23), (0x05C1, 0x05C1, 24),
  (0x05C2, 0x05C2, 25), (0x05C4, 0x05C4, 230), (0x05C5, 0x05C5, 220), (0x05C7, 0x05C7, 18),
  (0x0610, 0x0617, 230), (0x0618, 0x0618, 30), (0x0619, 0x0619, 31), (0x061A, 0x061A, 32),
  (0x064B, 0x064B, 27), (0x064C, 0x064C, 28), (0x064D, 0x064D, 29), (0x064E, 0x064E, 30),
  (0x064F, 0x064F, 31), (0x0650, 0x0650, 32), (0x0651, 0x0651, 33), (0x0652, 0x0652, 34),
  (0x0653, 0x0654, 230), (0x0655, 0x0656, 220), (0x0657, 0x065B, 230), (0x065C, 0x065C, 220),
  (0x065D, 0x065E, 230), (0x065F, 0x065F, 220), (0x0670, 0x0670, 35), (0x06D6, 0x06DC, 230),
  (0x06DF, 0x06E2, 230), (0x06E3, 0x06E3, 220), (0x06E4, 0x06E4, 230), (0x06E7, 0x06E8, 230),
  (0x06EA, 0x06EA, 220), (0x06EB, 0x06EC, 230), (0x06ED, 0x06ED, 220), (0x0711, 0x0711, 36),
  (0x0730, 0x0730, 230), (0x0731, 0x0731, 220), (0x0732, 0x0733, 230), (0x0734, 0x0734, 220),
  (0x0735, 0x0736, 230), (0x0737, 0x0739, 220), (0x073A, 0x073A, 230), (0x073B, 0x073C, 220),
  (0x073D, 0x073D, 230), (0x073E, 0x073E, 220), (0x073F, 0x0741, 230), (0x0742, 0x0742, 220),
  (0x0743, 0x0743, 230), (0x0744, 0x0744, 220), (0x0745, 0x0745, 230), (0x0746, 0x0746, 220),
  (0x0747, 0x0747, 230), (0x0748, 0x0748, 220), (0x0749, 0x074A, 230), (0x07EB, 0x07F1, 230),
  (0x07F2, 0x07F2, 220), (0x07F3, 0x07F3, 230), (0x07FD, 0x07FD, 220), (0x0816, 0x0819, 230),
  (0x081B, 0x0823, 230), (0x0825, 0x0827, 230), (0x0829, 0x082D, 230), (0x0859, 0x085B, 220),
  (0x0898, 0x0898, 230), (0x0899, 0x089B, 220), (0x089C, 0x089F, 230), (0x08CA, 0x08CE, 230),
  (0x08CF, 0x08D3, 220), (0x08D4, 0x08E1, 230), (0x08E3, 0x08E3, 220), (0x08E4, 0x08E5, 230),
  (0x08E6, 0x08E6, 220), (0x08E7, 0x08E8, 230), (0x08E9, 0x08E9, 220), (0x08EA, 0x08EC, 230),
  (0x08ED, 0x08EF, 220), (0x08F0, 0x08F0, 27), (0x08F1, 0x08F1, 28), (0x08F2, 0x08F2, 29),
  (0x08F3, 0x08F5, 230), (0x08F6, 0x08F6, 220), (0x08F7, 0x08F8, 230), (0x08F9, 0x08FA, 220),
  (0x08FB, 0x08FF, 230), (0x093C, 0x093C, 7), (0x094D, 0x094D, 9), (0x0951, 0x0951, 230),
  (0x0952, 0x0952, 220), (0x0953, 0x0954, 230), (0x09BC, 0x09BC, 7), (0x09CD, 0x09CD, 9),
  (0x09FE, 0x09FE, 230), (0x0A3C, 0x0A3C, 7), (0x0A4D, 0x0A4D, 9), (0x0ABC, 0x0ABC, 7),
  (0x0ACD, 0x0ACD, 9), (0x0B3C, 0x0B3C, 7), (0x0B4D, 0x0B4D, 9), (0x0BCD, 0x0BCD, 9),
  (0x0C3C, 0x0C3C, 7), (0x0C4D, 0x0C4D, 9), (0x0C55, 0x0C55, 84), (0x0C56, 0x0C56, 91),
  (0x0CBC, 0x0CBC, 7), (0x0CCD, 0x0CCD, 9), (0x0D3B, 0x0D3C, 9), (0x0D4D, 0x0D4D, 9),
  (0x0DCA, 0x0DCA, 9), (0x0E38, 0x0E39, 103), (0x0E3A, 0x0E3A, 9), (0x0E48, 0x0E4B, 107),
  (0x0EB8, 0x0EB9, 118), (0x0EBA, 0x0EBA, 9), (0x0EC8, 0x0ECB, 122), (0x0F18, 0x0F19, 220),
  (0x0F35, 0x0F35, 220), (0x0F37, 0x0F37, 220), (0x0F39, 0x0F39, 216), (0x0F71, 0x0F71, 129),
  (0x0F72, 0x0F72, 130), (0x0F74, 0x0F74, 132), (0x0F7A, 0x0F7D, 130), (0x0F80, 0x0F80, 130),
  (0x0F82, 0x0F83, 230), (0x0F84, 0x0F84, 9), (0x0F86, 0x0F87, 230), (0x0FC6, 0x0FC6, 220),
  (0x1037, 0x1037, 7), (0x1039, 0x103A, 9), (0x108D, 0x108D, 220), (0x135D, 0x135F, 230),
  (0x1714, 0x1715, 9), (0x1734, 0x1734, 9), (0x17D2, 0x17D2, 9), (0x17DD, 0x17DD, 230),
  (0x18A9, 0x18A9, 228), (0x1939, 0x1939, 222), (0x193A, 0x193A, 230), (0x193B, 0x193B, 220),
  (0x1A17, 0x1A17, 230), (0x1A18, 0x1A18, 220), (0x1A60, 0x1A60, 9), (0x1A75, 0x1A7C, 230),
  (0x1A7F, 0x1A7F, 220), (0x1AB0, 0x1AB4, 230), (0x1AB5, 0x1ABA, 220), (0x1ABB, 0x1ABC, 230),
  (0x1ABD, 0x1ABD, 220), (0x1ABF, 0x1AC0, 220), (0x1AC1, 0x1AC2, 230), (0x1AC3, 0x1AC4, 220),
  (0x1AC5, 0x1AC9, 230), (0x1ACA, 0x1ACA, 220), (0x1ACB, 0x1ACE, 230), (0x1B34, 0x1B34, 7),
  (0x1B44, 0x1B44, 9), (0x1B6B, 0x1B6B, 230), (0x1B6C, 0x1B6C, 220), (0x1B6D, 0x1B73, 230),
  (0x1BAA, 0x1BAB, 9), (0x1BE6, 0x1BE6, 7), (0x1BF2, 0x1BF3, 9), (0x1C37, 0x1C37, 7),
  (0x1CD0, 0x1CD2, 230), (0x1CD4, 0x1CD4, 1), (0x1CD5, 0x1CD9, 220), (0x1CDA, 0x1CDB, 230),
  (0x1CDC, 0x1CDF, 220), (0x1CE0, 0x1CE0, 230), (0x1CE2, 0x1CE8, 1), (0x1CED, 0x1CED, 220),
  (0x1CF4, 0x1CF4, 230), (0x1CF8, 0x1CF9, 230), (0x1DC0, 0x1DC1, 230), (0x1DC2, 0x1DC2, 220),
  (0x1DC3, 0x1DC9, 230), (0x1DCA, 0x1DCA, 220), (0x1DCB, 0x1DCC, 230), (0x1DCD, 0x1DCD, 234),
  (0x1DCE, 0x1DCE, 214), (0x1DCF, 0x1DCF, 220), (0x1DD0, 0x1DD0, 202), (0x1DD1, 0x1DF5, 230),
  (0x1DF6, 0x1DF6, 232), (0x1DF7, 0x1DF8, 228), (0x1DF9, 0x1DF9, 220), (0x1DFA, 0x1DFA, 218),
  (0x1DFB, 0x1DFB, 230), (0x1DFC, 0x1DFC, 233), (0x1DFD, 0x1DFD, 220), (0x1DFE, 0x1DFE, 230),
  (0x1DFF, 0x1DFF, 220), (0x20D0, 0x20D1, 230), (0x20D2, 0x20D3, 1), (0x20D4, 0x20D7, 230),
  (0x20D8, 0x20DA, 1), (0x20DB, 0x20DC, 230), (0x20E1, 0x20E1, 230), (0x20E5, 0x20E6, 1),
  (0x20E7, 0x20E7, 230), (0x20E8, 0x20E8, 220), (0x20E9, 0x20E9, 230), (0x20EA, 0x20EB, 1),
  (0x20EC, 0x20EF, 220), (0x20F0, 0x20F0, 230), (0x2CEF, 0x2CF1, 230), (0x2D7F, 0x2D7F, 9),
  (0x2DE0, 0x2DFF, 230), (0x302A, 0x302A, 218), (0x302B, 0x302B, 228), (0x302C, 0x302C, 232),
  (0x302D, 0x302D, 222), (0x302E, 0x302F, 224), (0x3099, 0x309A, 8), (0xA66F, 0xA66F, 230),
  (0xA674, 0xA67D, 230), (0xA69E, 0xA69F, 230), (0xA6F0, 0xA6F1, 230), (0xA806, 0xA806, 9),
  (0xA82C, 0xA82C, 9), (0xA8C4, 0xA8C4, 9), (0xA8E0, 0xA8F1, 230), (0xA92B, 0xA92D, 220),
  (0xA953, 0xA953, 9), (0xA9B3, 0xA9B3, 7), (0xA9C0, 0xA9C0, 9), (0xAAB0, 0xAAB0, 230),
  (0xAAB2, 0xAAB3, 230), (0xAAB4, 0xAAB4, 220), (0xAAB7, 0xAAB8, 230), (0xAABE, 0xAABF, 230),
  (0xAAC1, 0xAAC1, 230), (0xAAF6, 0xAAF6, 9), (0xABED, 0xABED, 9), (0xFB1E, 0xFB1E, 26),
  (0xFE20, 0xFE26, 230), (0xFE27, 0xFE2D, 220), (0xFE2E, 0xFE2F, 230), (0x101FD, 0x101FD, 220),
  (0x102E0, 0x102E0, 220), (0x10376, 0x1037A, 230), (0x10A0D, 0x10A0D, 220),
  (0x10A0F, 0x10A0F, 230), (0x10A38, 0x10A38, 230), (0x10A39, 0x10A39, 1),
  (0x10A3A, 0x10A3A, 220), (0x10A3F, 0x10A3F, 9), (0x10AE5, 0x10AE5, 230),
  (0x10AE6, 0x10AE6, 220), (0x10D24, 0x10D27, 230), (0x10EAB, 0x10EAC, 230),
  (0x10F46, 0x10F47, 220), (0x10F48, 0x10F4A, 230), (0x10F4B, 0x10F4B, 220),
  (0x10F4C, 0x10F4C, 230), (0x10F4D, 0x10F50, 220), (0x10F82, 0x10F82, 230),
  (0x10F83, 0x10F83, 220), (0x10F84, 0x10F84, 230), (0x10F85, 0x10F85, 220),
  (0x11046, 0x11046, 9), (0x11070, 0x11070, 9), (0x1107F, 0x1107F, 9), (0x110B9, 0x110B9, 9),
  (0x110BA, 0x110BA, 7), (0x11100, 0x11102, 230), (0x11133, 0x11134, 9), (0x11173, 0x11173, 7),
  (0x111C0, 0x111C0, 9), (0x111CA, 0x111CA, 7), (0x11235, 0x11235, 9), (0x11236, 0x11236, 7),
  (0x112E9, 0x112E9, 7), (0x112EA, 0x112EA, 9), (0x1133B, 0x1133C, 7), (0x1134D, 0x1134D, 9),
  (0x11366, 0x1136C, 230), (0x11370, 0x11374, 230), (0x11442, 0x11442, 9), (0x11446, 0x11446, 7),
  (0x1145E, 0x1145E, 230), (0x114C2, 0x114C2, 9), (0x114C3, 0x114C3, 7), (0x115BF, 0x115BF, 9),
  (0x115C0, 0x115C0, 7), (0x1163F, 0x1163F, 9), (0x116B6, 0x116B6, 9), (0x116B7, 0x116B7, 7),
  (0x1172B, 0x1172B, 9), (0x11839, 0x11839, 9), (0x1183A, 0x1183A, 7), (0x1193D, 0x1193E, 9),
  (0x11943, 0x11943, 7), (0x119E0, 0x119E0, 9), (0x11A34, 0x11A34, 9), (0x11A47, 0x11A47, 9),
  (0x11A99, 0x11A99, 9), (0x11C3F, 0x11C3F, 9), (0x11D42, 0x11D42, 7), (0x11D44, 0x11D45, 9),
  (0x11D97, 0x11D97, 9), (0x16AF0, 0x16AF4, 1), (0x16B30, 0x16B36, 230), (0x16FF0, 0x16FF1, 6),
  (0x1BC9E, 0x1BC9E, 1), (0x1D165, 0x1D166, 216), (0x1D167, 0x1D169, 1), (0x1D16D, 0x1D16D, 226),
  (0x1D16E, 0x1D172, 216), (0x1D17B, 0x1D182, 220), (0x1D185, 0x1D189, 230),
  (0x1D18A, 0x1D18B, 220), (0x1D1AA, 0x1D1AD, 230), (0x1D242, 0x1D244, 230),
  (0x1E000, 0x1E006, 230), (0x1E008, 0x1E018, 230), (0x1E01B, 0x1E021, 230),
  (0x1E023, 0x1E024, 230), (0x1E026, 0x1E02A, 230), (0x1E130, 0x1E136, 230),
  (0x1E2AE, 0x1E2AE, 230), (0x1E2EC, 0x1E2EF, 230), (0x1E8D0, 0x1E8D6, 220),
  (0x1E944, 0x1E949, 230), (0x1E94A, 0x1E94A, 7)]

end ToolBindings.Text
