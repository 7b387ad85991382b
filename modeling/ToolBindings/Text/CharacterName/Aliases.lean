/-!
# Further character names

Names that Unicode 14.0 gives to characters beside their proper ones: those of the control
characters, corrections, and abbreviations.
-/
namespace ToolBindings.Text

/-- Characters with a further name. -/
def characterAliases : List (Nat × String) := [
  (0x0000, "NUL"), (0x0000, "NULL"), (0x0001, "SOH"), (0x0001, "START OF HEADING"),
  (0x0002, "START OF TEXT"), (0x0002, "STX"), (0x0003, "END OF TEXT"), (0x0003, "ETX"),
  (0x0004, "END OF TRANSMISSION"), (0x0004, "EOT"), (0x0005, "ENQ"), (0x0005, "ENQUIRY"),
  (0x0006, "ACK"), (0x0006, "ACKNOWLEDGE"), (0x0007, "ALERT"), (0x0007, "BEL"),
  (0x0008, "BACKSPACE"), (0x0008, "BS"), (0x0009, "CHARACTER TABULATION"),
  (0x0009, "HORIZONTAL TABULATION"), (0x0009, "HT"), (0x0009, "TAB"), (0x000A, "END OF LINE"),
  (0x000A, "EOL"), (0x000A, "LF"), (0x000A, "LINE FEED"), (0x000A, "NEW LINE"), (0x000A, "NL"),
  (0x000B, "LINE TABULATION"), (0x000B, "VERTICAL TABULATION"), (0x000B, "VT"), (0x000C, "FF"),
  (0x000C, "FORM FEED"), (0x000D, "CARRIAGE RETURN"), (0x000D, "CR"),
  (0x000E, "LOCKING-SHIFT ONE"), (0x000E, "SHIFT OUT"), (0x000E, "SO"),
  (0x000F, "LOCKING-SHIFT ZERO"), (0x000F, "SHIFT IN"), (0x000F, "SI"),
  (0x0010, "DATA LINK ESCAPE"), (0x0010, "DLE"), (0x0011, "DC1"), (0x0011, "DEVICE CONTROL ONE"),
  (0x0012, "DC2"), (0x0012, "DEVICE CONTROL TWO"), (0x0013, "DC3"),
  (0x0013, "DEVICE CONTROL THREE"), (0x0014, "DC4"), (0x0014, "DEVICE CONTROL FOUR"),
  (0x0015, "NAK"), (0x0015, "NEGATIVE ACKNOWLEDGE"), (0x0016, "SYN"), (0x0016, "SYNCHRONOUS IDLE"),
  (0x0017, "END OF TRANSMISSION BLOCK"), (0x0017, "ETB"), (0x0018, "CAN"), (0x0018, "CANCEL"),
  (0x0019, "END OF MEDIUM"), (0x0019, "EOM"), (0x001A, "SUB"), (0x001A, "SUBSTITUTE"),
  (0x001B, "ESC"), (0x001B, "ESCAPE"), (0x001C, "FILE SEPARATOR"), (0x001C, "FS"),
  (0x001C, "INFORMATION SEPARATOR FOUR"), (0x001D, "GROUP SEPARATOR"), (0x001D, "GS"),
  (0x001D, "INFORMATION SEPARATOR THREE"), (0x001E, "INFORMATION SEPARATOR TWO"),
  (0x001E, "RECORD SEPARATOR"), (0x001E, "RS"), (0x001F, "INFORMATION SEPARATOR ONE"),
  (0x001F, "UNIT SEPARATOR"), (0x001F, "US"), (0x0020, "SP"), (0x007F, "DEL"), (0x007F, "DELETE"),
  (0x0080, "PAD"), (0x0080, "PADDING CHARACTER"), (0x0081, "HIGH OCTET PRESET"), (0x0081, "HOP"),
  (0x0082, "BPH"), (0x0082, "BREAK PERMITTED HERE"), (0x0083, "NBH"), (0x0083, "NO BREAK HERE"),
  (0x0084, "IND"), (0x0084, "INDEX"), (0x0085, "NEL"), (0x0085, "NEXT LINE"), (0x0086, "SSA"),
  (0x0086, "START OF SELECTED AREA"), (0x0087, "END OF SELECTED AREA"), (0x0087, "ESA"),
  (0x0088, "CHARACTER TABULATION SET"), (0x0088, "HORIZONTAL TABULATION SET"), (0x0088, "HTS"),
  (0x0089, "CHARACTER TABULATION WITH JUSTIFICATION"),
  (0x0089, "HORIZONTAL TABULATION WITH JUSTIFICATION"), (0x0089, "HTJ"),
  (0x008A, "LINE TABULATION SET"), (0x008A, "VERTICAL TABULATION SET"), (0x008A, "VTS"),
  (0x008B, "PARTIAL LINE DOWN"), (0x008B, "PARTIAL LINE FORWARD"), (0x008B, "PLD"),
  (0x008C, "PARTIAL LINE BACKWARD"), (0x008C, "PARTIAL LINE UP"), (0x008C, "PLU"),
  (0x008D, "REVERSE INDEX"), (0x008D, "REVERSE LINE FEED"), (0x008D, "RI"),
  (0x008E, "SINGLE SHIFT TWO"), (0x008E, "SINGLE-SHIFT-2"), (0x008E, "SS2"),
  (0x008F, "SINGLE SHIFT THREE"), (0x008F, "SINGLE-SHIFT-3"), (0x008F, "SS3"), (0x0090, "DCS"),
  (0x0090, "DEVICE CONTROL STRING"), (0x0091, "PRIVATE USE ONE"), (0x0091, "PRIVATE USE-1"),
  (0x0091, "PU1"), (0x0092, "PRIVATE USE TWO"), (0x0092, "PRIVATE USE-2"), (0x0092, "PU2"),
  (0x0093, "SET TRANSMIT STATE"), (0x0093, "STS"), (0x0094, "CANCEL CHARACTER"), (0x0094, "CCH"),
  (0x0095, "MESSAGE WAITING"), (0x0095, "MW"), (0x0096, "SPA"), (0x0096, "START OF GUARDED AREA"),
  (0x0096, "START OF PROTECTED AREA"), (0x0097, "END OF GUARDED AREA"),
  (0x0097, "END OF PROTECTED AREA"), (0x0097, "EPA"), (0x0098, "SOS"), (0x0098, "START OF STRING"),
  (0x0099, "SGC"), (0x0099, "SINGLE GRAPHIC CHARACTER INTRODUCER"), (0x009A, "SCI"),
  (0x009A, "SINGLE CHARACTER INTRODUCER"), (0x009B, "CONTROL SEQUENCE INTRODUCER"),
  (0x009B, "CSI"), (0x009C, "ST"), (0x009C, "STRING TERMINATOR"),
  (0x009D, "OPERATING SYSTEM COMMAND"), (0x009D, "OSC"), (0x009E, "PM"),
  (0x009E, "PRIVACY MESSAGE"), (0x009F, "APC"), (0x009F, "APPLICATION PROGRAM COMMAND"),
  (0x00A0, "NBSP"), (0x00AD, "SHY"), (0x01A2, "LATIN CAPITAL LETTER GHA"),
  (0x01A3, "LATIN SMALL LETTER GHA"), (0x034F, "CGJ"), (0x061C, "ALM"),
  (0x0709, "SYRIAC SUBLINEAR COLON SKEWED LEFT"), (0x0CDE, "KANNADA LETTER LLLA"),
  (0x0E9D, "LAO LETTER FO FON"), (0x0E9F, "LAO LETTER FO FAY"), (0x0EA3, "LAO LETTER RO"),
  (0x0EA5, "LAO LETTER LO"), (0x0FD0, "TIBETAN MARK BKA- SHOG GI MGO RGYAN"),
  (0x11EC, "HANGUL JONGSEONG YESIEUNG-KIYEOK"), (0x11ED, "HANGUL JONGSEONG YESIEUNG-SSANGKIYEOK"),
  (0x11EE, "HANGUL JONGSEONG SSANGYESIEUNG"), (0x11EF, "HANGUL JONGSEONG YESIEUNG-KHIEUKH"),
  (0x180B, "FVS1"), (0x180C, "FVS2"), (0x180D, "FVS3"), (0x180E, "MVS"), (0x180F, "FVS4"),
  (0x200B, "ZWSP"), (0x200C, "ZWNJ"), (0x200D, "ZWJ"), (0x200E, "LRM"), (0x200F, "RLM"),
  (0x202A, "LRE"), (0x202B, "RLE"), (0x202C, "PDF"), (0x202D, "LRO"), (0x202E, "RLO"),
  (0x202F, "NNBSP"), (0x205F, "MMSP"), (0x2060, "WJ"), (0x2066, "LRI"), (0x2067, "RLI"),
  (0x2068, "FSI"), (0x2069, "PDI"), (0x2118, "WEIERSTRASS ELLIPTIC FUNCTION"),
  (0x2448, "MICR ON US SYMBOL"), (0x2449, "MICR DASH SYMBOL"),
  (0x2B7A, "LEFTWARDS TRIANGLE-HEADED ARROW WITH DOUBLE VERTICAL STROKE"),
  (0x2B7C, "RIGHTWARDS TRIANGLE-HEADED ARROW WITH DOUBLE VERTICAL STROKE"),
  (0xA015, "YI SYLLABLE ITERATION MARK"), (0xAA6E, "MYANMAR LETTER KHAMTI LLA"),
  (0xFE18, "PRESENTATION FORM FOR VERTICAL RIGHT WHITE LENTICULAR BRACKET"), (0xFEFF, "BOM"),
  (0xFEFF, "BYTE ORDER MARK"), (0xFEFF, "ZWNBSP"), (0x122D4, "CUNEIFORM SIGN NU11 TENU"),
  (0x122D5, "CUNEIFORM SIGN NU11 OVER NU11 BUR OVER BUR"),
  (0x16E56, "MEDEFAIDRIN CAPITAL LETTER H"), (0x16E57, "MEDEFAIDRIN CAPITAL LETTER NG"),
  (0x16E76, "MEDEFAIDRIN SMALL LETTER H"), (0x16E77, "MEDEFAIDRIN SMALL LETTER NG"),
  (0x1B001, "HENTAIGANA LETTER E-1"),
  (0x1D0C5, "BYZANTINE MUSICAL SYMBOL FTHORA SKLIRON CHROMA VASIS")]

end ToolBindings.Text
