/-!
# Character names from U+0020 to U+1CFA

The names of Unicode 14.0, in the form that `NameBlock` describes.
-/
namespace ToolBindings.Text

/-- The names from U+0020 to U+1CFA. -/
def characterNamesFrom0020 : List (Nat × List String) := [
  (0x0020, [
    "aSPACEaEXCLAMATION MARKaQUOTATION MARKaNUMBER SIGNaDOLLAR SIGNaPERCENT SIGNaAMPERSAND",
    "bPOSTROPHEaLEFT PARENTHESISaRIGHT PARENTHESISaASTERISKaPLUS SIGNaCOMMAaHYPHEN-MINUS",
    "aFULL STOPaSOLIDUSaDIGIT ZEROgONEgTWOhHREEgFOURhIVEgSIXhEVENgEIGHTgNINEaCOLONaSEMICOLON",
    "aLESS-THAN SIGNaEQUALS SIGNaGREATER-THAN SIGNaQUESTION MARKaCOMMERCIAL AT",
    "aLATIN CAPITAL LETTER AvBvCvDvEvFvGvHvIvJvKvLvMvNvOvPvQvRvSvTvUvVvWvXvYvZbEFT SQUARE BRACKET",
    "aREVERSE SOLIDUSbIGHT SQUARE BRACKETaCIRCUMFLEX ACCENTaLOW LINEaGRAVE ACCENT",
    "aLATIN SMALL LETTER AtBtCtDtEtFtGtHtItJtKtLtMtNtOtPtQtRtStTtUtVtWtXtYtZbEFT CURLY BRACKET",
    "aVERTICAL LINEaRIGHT CURLY BRACKETaTILDE"]),
  (0x00A0, [
    "aNO-BREAK SPACEaINVERTED EXCLAMATION MARKaCENT SIGNaPOUND SIGNaCURRENCY SIGNaYEN SIGN",
    "aBROKEN BARaSECTION SIGNaDIAERESISaCOPYRIGHT SIGNaFEMININE ORDINAL INDICATOR",
    "aLEFT-POINTING DOUBLE ANGLE QUOTATION MARKaNOT SIGNaSOFT HYPHENaREGISTERED SIGNaMACRON",
    "aDEGREE SIGNaPLUS-MINUS SIGNaSUPERSCRIPT TWOnHREEaACUTE ACCENTaMICRO SIGNaPILCROW SIGN",
    "aMIDDLE DOTaCEDILLAaSUPERSCRIPT ONEaMASCULINE ORDINAL INDICATOR",
    "aRIGHT-POINTING DOUBLE ANGLE QUOTATION MARKaVULGAR FRACTION ONE QUARTERuHALFqTHREE QUARTERS",
    "aINVERTED QUESTION MARKaLATIN CAPITAL LETTER A WITH GRAVEâACUTEâCIRCUMFLEXâTILDEâDIAERESIS",
    "âRING ABOVEwEvC WITH CEDILLAvE WITH GRAVEâACUTEâCIRCUMFLEXâDIAERESISvI WITH GRAVEâACUTE",
    "âCIRCUMFLEXâDIAERESISvETHvN WITH TILDEvO WITH GRAVEâACUTEâCIRCUMFLEXâTILDEâDIAERESIS",
    "aMULTIPLICATION SIGNaLATIN CAPITAL LETTER O WITH STROKEvU WITH GRAVEâACUTEâCIRCUMFLEX",
    "âDIAERESISvY WITH ACUTEvTHORNgSMALL LETTER SHARP StA WITH GRAVEàACUTEàCIRCUMFLEXàTILDE",
    "àDIAERESISàRING ABOVEuEtC WITH CEDILLAtE WITH GRAVEàACUTEàCIRCUMFLEXàDIAERESIStI WITH GRAVE",
    "àACUTEàCIRCUMFLEXàDIAERESIStETHtN WITH TILDEtO WITH GRAVEàACUTEàCIRCUMFLEXàTILDEàDIAERESIS",
    "aDIVISION SIGNaLATIN SMALL LETTER O WITH STROKEtU WITH GRAVEàACUTEàCIRCUMFLEXàDIAERESIS",
    "tY WITH ACUTEtTHORNtY WITH DIAERESISgCAPITAL LETTER A WITH MACRONgSMALL LETTER A WITH MACRON",
    "gCAPITAL LETTER A WITH BREVEgSMALL LETTER A WITH BREVEgCAPITAL LETTER A WITH OGONEK",
    "gSMALL LETTER A WITH OGONEKgCAPITAL LETTER C WITH ACUTEgSMALL LETTER C WITH ACUTE",
    "gCAPITAL LETTER C WITH CIRCUMFLEXgSMALL LETTER C WITH CIRCUMFLEX",
    "gCAPITAL LETTER C WITH DOT ABOVEgSMALL LETTER C WITH DOT ABOVEgCAPITAL LETTER C WITH CARON",
    "gSMALL LETTER C WITH CARONgCAPITAL LETTER D WITH CARONgSMALL LETTER D WITH CARON",
    "gCAPITAL LETTER D WITH STROKEgSMALL LETTER D WITH STROKEgCAPITAL LETTER E WITH MACRON",
    "gSMALL LETTER E WITH MACRONgCAPITAL LETTER E WITH BREVEgSMALL LETTER E WITH BREVE",
    "gCAPITAL LETTER E WITH DOT ABOVEgSMALL LETTER E WITH DOT ABOVEgCAPITAL LETTER E WITH OGONEK",
    "gSMALL LETTER E WITH OGONEKgCAPITAL LETTER E WITH CARONgSMALL LETTER E WITH CARON",
    "gCAPITAL LETTER G WITH CIRCUMFLEXgSMALL LETTER G WITH CIRCUMFLEXgCAPITAL LETTER G WITH BREVE",
    "gSMALL LETTER G WITH BREVEgCAPITAL LETTER G WITH DOT ABOVEgSMALL LETTER G WITH DOT ABOVE",
    "gCAPITAL LETTER G WITH CEDILLAgSMALL LETTER G WITH CEDILLAgCAPITAL LETTER H WITH CIRCUMFLEX",
    "gSMALL LETTER H WITH CIRCUMFLEXgCAPITAL LETTER H WITH STROKEgSMALL LETTER H WITH STROKE",
    "gCAPITAL LETTER I WITH TILDEgSMALL LETTER I WITH TILDEgCAPITAL LETTER I WITH MACRON",
    "gSMALL LETTER I WITH MACRONgCAPITAL LETTER I WITH BREVEgSMALL LETTER I WITH BREVE",
    "gCAPITAL LETTER I WITH OGONEKgSMALL LETTER I WITH OGONEKgCAPITAL LETTER I WITH DOT ABOVE",
    "gSMALL LETTER DOTLESS IgCAPITAL LIGATURE IJgSMALL LIGATURE IJ",
    "gCAPITAL LETTER J WITH CIRCUMFLEXgSMALL LETTER J WITH CIRCUMFLEX",
    "gCAPITAL LETTER K WITH CEDILLAgSMALL LETTER K WITH CEDILLAuRAgCAPITAL LETTER L WITH ACUTE",
    "gSMALL LETTER L WITH ACUTEgCAPITAL LETTER L WITH CEDILLAgSMALL LETTER L WITH CEDILLA",
    "gCAPITAL LETTER L WITH CARONgSMALL LETTER L WITH CARONgCAPITAL LETTER L WITH MIDDLE DOT",
    "gSMALL LETTER L WITH MIDDLE DOTgCAPITAL LETTER L WITH STROKEgSMALL LETTER L WITH STROKE",
    "gCAPITAL LETTER N WITH ACUTEgSMALL LETTER N WITH ACUTEgCAPITAL LETTER N WITH CEDILLA",
    "gSMALL LETTER N WITH CEDILLAgCAPITAL LETTER N WITH CARONgSMALL LETTER N WITH CARON",
    "vPRECEDED BY APOSTROPHEgCAPITAL LETTER ENGgSMALL LETTER ENGgCAPITAL LETTER O WITH MACRON",
    "gSMALL LETTER O WITH MACRONgCAPITAL LETTER O WITH BREVEgSMALL LETTER O WITH BREVE",
    "gCAPITAL LETTER O WITH DOUBLE ACUTEgSMALL LETTER O WITH DOUBLE ACUTEgCAPITAL LIGATURE OE",
    "gSMALL LIGATURE OEgCAPITAL LETTER R WITH ACUTEgSMALL LETTER R WITH ACUTE",
    "gCAPITAL LETTER R WITH CEDILLAgSMALL LETTER R WITH CEDILLAgCAPITAL LETTER R WITH CARON",
    "gSMALL LETTER R WITH CARONgCAPITAL LETTER S WITH ACUTEgSMALL LETTER S WITH ACUTE",
    "gCAPITAL LETTER S WITH CIRCUMFLEXgSMALL LETTER S WITH CIRCUMFLEX",
    "gCAPITAL LETTER S WITH CEDILLAgSMALL LETTER S WITH CEDILLAgCAPITAL LETTER S WITH CARON",
    "gSMALL LETTER S WITH CARONgCAPITAL LETTER T WITH CEDILLAgSMALL LETTER T WITH CEDILLA",
    "gCAPITAL LETTER T WITH CARONgSMALL LETTER T WITH CARONgCAPITAL LETTER T WITH STROKE",
    "gSMALL LETTER T WITH STROKEgCAPITAL LETTER U WITH TILDEgSMALL LETTER U WITH TILDE",
    "gCAPITAL LETTER U WITH MACRONgSMALL LETTER U WITH MACRONgCAPITAL LETTER U WITH BREVE",
    "gSMALL LETTER U WITH BREVEgCAPITAL LETTER U WITH RING ABOVEgSMALL LETTER U WITH RING ABOVE",
    "gCAPITAL LETTER U WITH DOUBLE ACUTEgSMALL LETTER U WITH DOUBLE ACUTE",
    "gCAPITAL LETTER U WITH OGONEKgSMALL LETTER U WITH OGONEKgCAPITAL LETTER W WITH CIRCUMFLEX",
    "gSMALL LETTER W WITH CIRCUMFLEXgCAPITAL LETTER Y WITH CIRCUMFLEX",
    "gSMALL LETTER Y WITH CIRCUMFLEXgCAPITAL LETTER Y WITH DIAERESISvZ WITH ACUTE",
    "gSMALL LETTER Z WITH ACUTEgCAPITAL LETTER Z WITH DOT ABOVEgSMALL LETTER Z WITH DOT ABOVE",
    "gCAPITAL LETTER Z WITH CARONgSMALL LETTER Z WITH CARONtLONG StB WITH STROKE",
    "gCAPITAL LETTER B WITH HOOKâTOPBARgSMALL LETTER B WITH TOPBARgCAPITAL LETTER TONE SIX",
    "gSMALL LETTER TONE SIXgCAPITAL LETTER OPEN OvC WITH HOOKgSMALL LETTER C WITH HOOK",
    "gCAPITAL LETTER AFRICAN DvD WITH HOOKâTOPBARgSMALL LETTER D WITH TOPBARtTURNED DELTA",
    "gCAPITAL LETTER REVERSED EvSCHWAvOPEN EvF WITH HOOKgSMALL LETTER F WITH HOOK",
    "gCAPITAL LETTER G WITH HOOKwAMMAgSMALL LETTER HVgCAPITAL LETTER IOTAw WITH STROKE",
    "vK WITH HOOKgSMALL LETTER K WITH HOOKtL WITH BARuAMBDA WITH STROKEgCAPITAL LETTER TURNED M",
    "vN WITH LEFT HOOKgSMALL LETTER N WITH LONG RIGHT LEGgCAPITAL LETTER O WITH MIDDLE TILDEâHORN",
    "gSMALL LETTER O WITH HORNgCAPITAL LETTER OIgSMALL LETTER OIgCAPITAL LETTER P WITH HOOK",
    "gSMALL LETTER P WITH HOOKgLETTER YRgCAPITAL LETTER TONE TWOgSMALL LETTER TONE TWO",
    "gCAPITAL LETTER ESHgLETTER REVERSED ESH LOOPgSMALL LETTER T WITH PALATAL HOOK",
    "gCAPITAL LETTER T WITH HOOKgSMALL LETTER T WITH HOOKgCAPITAL LETTER T WITH RETROFLEX HOOK",
    "vU WITH HORNgSMALL LETTER U WITH HORNgCAPITAL LETTER UPSILONvV WITH HOOKvY WITH HOOK",
    "gSMALL LETTER Y WITH HOOKgCAPITAL LETTER Z WITH STROKEgSMALL LETTER Z WITH STROKE",
    "gCAPITAL LETTER EZHy REVERSEDgSMALL LETTER EZH REVERSEDxWITH TAILgLETTER TWO WITH STROKE",
    "gCAPITAL LETTER TONE FIVEgSMALL LETTER TONE FIVEgLETTER INVERTED GLOTTAL STOP WITH STROKE",
    "nWYNNnDENTAL CLICKnLATERAL CLICKnALVEOLAR CLICKnRETROFLEX CLICKgCAPITAL LETTER DZ WITH CARON",
    "w WITH SMALL LETTER Z WITH CARONgSMALL LETTER DZ WITH CARONgCAPITAL LETTER LJ",
    "w WITH SMALL LETTER JgSMALL LETTER LJgCAPITAL LETTER NJw WITH SMALL LETTER JgSMALL LETTER NJ",
    "gCAPITAL LETTER A WITH CARONgSMALL LETTER A WITH CARONgCAPITAL LETTER I WITH CARON",
    "gSMALL LETTER I WITH CARONgCAPITAL LETTER O WITH CARONgSMALL LETTER O WITH CARON",
    "gCAPITAL LETTER U WITH CARONgSMALL LETTER U WITH CARON",
    "gCAPITAL LETTER U WITH DIAERESIS AND MACRONgSMALL LETTER U WITH DIAERESIS AND MACRON",
    "gCAPITAL LETTER U WITH DIAERESIS AND ACUTEgSMALL LETTER U WITH DIAERESIS AND ACUTE",
    "gCAPITAL LETTER U WITH DIAERESIS AND CARONgSMALL LETTER U WITH DIAERESIS AND CARON",
    "gCAPITAL LETTER U WITH DIAERESIS AND GRAVEgSMALL LETTER U WITH DIAERESIS AND GRAVEtTURNED E",
    "gCAPITAL LETTER A WITH DIAERESIS AND MACRONgSMALL LETTER A WITH DIAERESIS AND MACRON",
    "gCAPITAL LETTER A WITH DOT ABOVE AND MACRONgSMALL LETTER A WITH DOT ABOVE AND MACRON",
    "gCAPITAL LETTER AE WITH MACRONgSMALL LETTER AE WITH MACRONgCAPITAL LETTER G WITH STROKE",
    "gSMALL LETTER G WITH STROKEgCAPITAL LETTER G WITH CARONgSMALL LETTER G WITH CARON",
    "gCAPITAL LETTER K WITH CARONgSMALL LETTER K WITH CARONgCAPITAL LETTER O WITH OGONEK",
    "gSMALL LETTER O WITH OGONEKgCAPITAL LETTER O WITH OGONEK AND MACRON",
    "gSMALL LETTER O WITH OGONEK AND MACRONgCAPITAL LETTER EZH WITH CARON",
    "gSMALL LETTER EZH WITH CARONtJ WITH CARONgCAPITAL LETTER DZw WITH SMALL LETTER Z",
    "gSMALL LETTER DZgCAPITAL LETTER G WITH ACUTEgSMALL LETTER G WITH ACUTEgCAPITAL LETTER HWAIR",
    "vWYNNvN WITH GRAVEgSMALL LETTER N WITH GRAVEgCAPITAL LETTER A WITH RING ABOVE AND ACUTE",
    "gSMALL LETTER A WITH RING ABOVE AND ACUTEgCAPITAL LETTER AE WITH ACUTE",
    "gSMALL LETTER AE WITH ACUTEgCAPITAL LETTER O WITH STROKE AND ACUTE",
    "gSMALL LETTER O WITH STROKE AND ACUTEgCAPITAL LETTER A WITH DOUBLE GRAVE",
    "gSMALL LETTER A WITH DOUBLE GRAVEgCAPITAL LETTER A WITH INVERTED BREVE",
    "gSMALL LETTER A WITH INVERTED BREVEgCAPITAL LETTER E WITH DOUBLE GRAVE",
    "gSMALL LETTER E WITH DOUBLE GRAVEgCAPITAL LETTER E WITH INVERTED BREVE",
    "gSMALL LETTER E WITH INVERTED BREVEgCAPITAL LETTER I WITH DOUBLE GRAVE",
    "gSMALL LETTER I WITH DOUBLE GRAVEgCAPITAL LETTER I WITH INVERTED BREVE",
    "gSMALL LETTER I WITH INVERTED BREVEgCAPITAL LETTER O WITH DOUBLE GRAVE",
    "gSMALL LETTER O WITH DOUBLE GRAVEgCAPITAL LETTER O WITH INVERTED BREVE",
    "gSMALL LETTER O WITH INVERTED BREVEgCAPITAL LETTER R WITH DOUBLE GRAVE",
    "gSMALL LETTER R WITH DOUBLE GRAVEgCAPITAL LETTER R WITH INVERTED BREVE",
    "gSMALL LETTER R WITH INVERTED BREVEgCAPITAL LETTER U WITH DOUBLE GRAVE",
    "gSMALL LETTER U WITH DOUBLE GRAVEgCAPITAL LETTER U WITH INVERTED BREVE",
    "gSMALL LETTER U WITH INVERTED BREVEgCAPITAL LETTER S WITH COMMA BELOW",
    "gSMALL LETTER S WITH COMMA BELOWgCAPITAL LETTER T WITH COMMA BELOW",
    "gSMALL LETTER T WITH COMMA BELOWgCAPITAL LETTER YOGHgSMALL LETTER YOGH",
    "gCAPITAL LETTER H WITH CARONgSMALL LETTER H WITH CARONgCAPITAL LETTER N WITH LONG RIGHT LEG",
    "gSMALL LETTER D WITH CURLgCAPITAL LETTER OUgSMALL LETTER OUgCAPITAL LETTER Z WITH HOOK",
    "gSMALL LETTER Z WITH HOOKgCAPITAL LETTER A WITH DOT ABOVEgSMALL LETTER A WITH DOT ABOVE",
    "gCAPITAL LETTER E WITH CEDILLAgSMALL LETTER E WITH CEDILLA",
    "gCAPITAL LETTER O WITH DIAERESIS AND MACRONgSMALL LETTER O WITH DIAERESIS AND MACRON",
    "gCAPITAL LETTER O WITH TILDE AND MACRONgSMALL LETTER O WITH TILDE AND MACRON",
    "gCAPITAL LETTER O WITH DOT ABOVEgSMALL LETTER O WITH DOT ABOVE",
    "gCAPITAL LETTER O WITH DOT ABOVE AND MACRONgSMALL LETTER O WITH DOT ABOVE AND MACRON",
    "gCAPITAL LETTER Y WITH MACRONgSMALL LETTER Y WITH MACRONtL WITH CURLtN WITH CURLtT WITH CURL",
    "tDOTLESS JuB DIGRAPHtQP DIGRAPHgCAPITAL LETTER A WITH STROKEvC WITH STROKE",
    "gSMALL LETTER C WITH STROKEgCAPITAL LETTER L WITH BARvT WITH DIAGONAL STROKE",
    "gSMALL LETTER S WITH SWASH TAILtZ WITH SWASH TAILgCAPITAL LETTER GLOTTAL STOP",
    "gSMALL LETTER GLOTTAL STOPgCAPITAL LETTER B WITH STROKEvU BARvTURNED VvE WITH STROKE",
    "gSMALL LETTER E WITH STROKEgCAPITAL LETTER J WITH STROKEgSMALL LETTER J WITH STROKE",
    "gCAPITAL LETTER SMALL Q WITH HOOK TAILgSMALL LETTER Q WITH HOOK TAIL",
    "gCAPITAL LETTER R WITH STROKEgSMALL LETTER R WITH STROKEgCAPITAL LETTER Y WITH STROKE",
    "gSMALL LETTER Y WITH STROKEtTURNED AtALPHAtTURNED ALPHAtB WITH HOOKtOPEN OtC WITH CURL",
    "tD WITH TAILàHOOKtREVERSED EtSCHWAy WITH HOOKtOPEN EtREVERSED OPEN Eè WITH HOOK",
    "tCLOSED REVERSED OPEN EtDOTLESS J WITH STROKEtG WITH HOOKtSCRIPT GgLETTER SMALL CAPITAL G",
    "gSMALL LETTER GAMMAtRAMS HORNtTURNED HtH WITH HOOKuENG WITH HOOKtI WITH STROKEuOTA",
    "gLETTER SMALL CAPITAL IgSMALL LETTER L WITH MIDDLE TILDEàBELTàRETROFLEX HOOKuEZHtTURNED M",
    "á WITH LONG LEGtM WITH HOOKtN WITH LEFT HOOKàRETROFLEX HOOKgLETTER SMALL CAPITAL N",
    "gSMALL LETTER BARRED OgLETTER SMALL CAPITAL OEgSMALL LETTER CLOSED OMEGAtPHItTURNED R",
    "á WITH LONG LEGçHOOKtR WITH LONG LEGàTAILàFISHHOOKuEVERSED R WITH FISHHOOK",
    "gLETTER SMALL CAPITAL RáINVERTED RgSMALL LETTER S WITH HOOKtESH",
    "tDOTLESS J WITH STROKE AND HOOKtSQUAT REVERSED ESHtESH WITH CURLtTURNED T",
    "u WITH RETROFLEX HOOKtU BARuPSILONtV WITH HOOKtTURNED VàWàYgLETTER SMALL CAPITAL Y",
    "gSMALL LETTER Z WITH RETROFLEX HOOKàCURLtEZHw WITH CURLgLETTER GLOTTAL STOP",
    "nPHARYNGEAL VOICED FRICATIVEnINVERTED GLOTTAL STOPnSTRETCHED CnBILABIAL CLICK",
    "nSMALL CAPITAL BgSMALL LETTER CLOSED OPEN EgLETTER SMALL CAPITAL G WITH HOOKáH",
    "gSMALL LETTER J WITH CROSSED-TAILtTURNED KgLETTER SMALL CAPITAL LgSMALL LETTER Q WITH HOOK",
    "gLETTER GLOTTAL STOP WITH STROKEnREVERSED GLOTTAL STOP WITH STROKEgSMALL LETTER DZ DIGRAPH",
    "uEZH DIGRAPHuZ DIGRAPH WITH CURLtTS DIGRAPHuESH DIGRAPHuC DIGRAPH WITH CURLtFENG DIGRAPH",
    "tLS DIGRAPHuZ DIGRAPHgLETTER BILABIAL PERCUSSIVEpDENTAL PERCUSSIVE",
    "gSMALL LETTER TURNED H WITH FISHHOOKï AND TAILaMODIFIER LETTER SMALL Hx WITH HOOKwJwR",
    "wTURNED Rä WITH HOOKwCAPITAL INVERTED RwWwYqPRIMEqDOUBLE PRIMEqTURNED COMMAqAPOSTROPHE",
    "qREVERSED COMMArIGHT HALF RINGqLEFT HALF RINGqGLOTTAL STOPqREVERSED GLOTTAL STOP",
    "qLEFT ARROWHEADqRIGHT ARROWHEADqUP ARROWHEADqDOWN ARROWHEADqCIRCUMFLEX ACCENTaCARON",
    "aMODIFIER LETTER VERTICAL LINEqMACRONqACUTE ACCENTqGRAVE ACCENTqLOW VERTICAL LINEuMACRON",
    "uGRAVE ACCENTuACUTE ACCENTqTRIANGULAR COLONqHALF TRIANGULAR COLONqCENTRED RIGHT HALF RING",
    "yLEFT HALF RINGqUP TACKqDOWN TACKqPLUS SIGNqMINUS SIGNaBREVEaDOT ABOVEaRING ABOVEaOGONEK",
    "aSMALL TILDEaDOUBLE ACUTE ACCENTaMODIFIER LETTER RHOTIC HOOKqCROSS ACCENTqSMALL GAMMAwLwSwX",
    "wREVERSED GLOTTAL STOPqEXTRA-HIGH TONE BARqHIGH TONE BARqMID TONE BARqLOW TONE BAR",
    "qEXTRA-LOW TONE BARqYIN DEPARTING TONE MARKrANG DEPARTING TONE MARKqVOICINGqUNASPIRATED",
    "qDOUBLE APOSTROPHEqLOW DOWN ARROWHEADuUP ARROWHEADuLEFT ARROWHEADuRIGHT ARROWHEADwNG",
    "qMIDDLE GRAVE ACCENTxDOUBLE GRAVE ACCENTäACUTE ACCENTqLOW TILDEqRAISED COLONqBEGIN HIGH TONE",
    "qEND HIGH TONEqBEGIN LOW TONEqEND LOW TONEqSHELFqOPEN SHELFqLOW LEFT ARROW",
    "aCOMBINING GRAVE ACCENTkACUTE ACCENTkCIRCUMFLEX ACCENTkTILDEkMACRONkOVERLINEkBREVEkDOT ABOVE",
    "lIAERESISkHOOK ABOVEkRING ABOVEkDOUBLE ACUTE ACCENTkCARONkVERTICAL LINE ABOVE",
    "kDOUBLE VERTICAL LINE ABOVErGRAVE ACCENTkCANDRABINDUkINVERTED BREVEkTURNED COMMA ABOVE",
    "kCOMMA ABOVEkREVERSED COMMA ABOVEkCOMMA ABOVE RIGHTkGRAVE ACCENT BELOWkACUTE ACCENT BELOW",
    "kLEFT TACK BELOWkRIGHT TACK BELOWkLEFT ANGLE ABOVEkHORNkLEFT HALF RING BELOWkUP TACK BELOW",
    "kDOWN TACK BELOWkPLUS SIGN BELOWkMINUS SIGN BELOWkPALATALIZED HOOK BELOW",
    "kRETROFLEX HOOK BELOWkDOT BELOWlIAERESIS BELOWkRING BELOWkCOMMA BELOWlEDILLAkOGONEK",
    "kVERTICAL LINE BELOWkBRIDGE BELOWkINVERTED DOUBLE ARCH BELOWkCARON BELOW",
    "lIRCUMFLEX ACCENT BELOWkBREVE BELOWkINVERTED BREVE BELOWkTILDE BELOWkMACRON BELOWkLOW LINE",
    "kDOUBLE LOW LINEkTILDE OVERLAYkSHORT STROKE OVERLAYkLONG STROKE OVERLAY",
    "kSHORT SOLIDUS OVERLAYkLONG SOLIDUS OVERLAYkRIGHT HALF RING BELOWkINVERTED BRIDGE BELOW",
    "kSQUARE BELOWlEAGULL BELOWkX ABOVEkVERTICAL TILDEkDOUBLE OVERLINEkGRAVE TONE MARK",
    "kACUTE TONE MARKkGREEK PERISPOMENIqKORONISqDIALYTIKA TONOSqYPOGEGRAMMENIkBRIDGE ABOVE",
    "kEQUALS SIGN BELOWkDOUBLE VERTICAL LINE BELOWkLEFT ANGLE BELOWkNOT TILDE ABOVE",
    "kHOMOTHETIC ABOVEkALMOST EQUAL TO ABOVEkLEFT RIGHT ARROW BELOWkUPWARDS ARROW BELOW",
    "kGRAPHEME JOINERkRIGHT ARROWHEAD ABOVEkLEFT HALF RING ABOVEkFERMATAkX BELOW",
    "kLEFT ARROWHEAD BELOWkRIGHT ARROWHEAD BELOWàAND UP ARROWHEAD BELOWqHALF RING ABOVE",
    "kDOT ABOVE RIGHTkASTERISK BELOWkDOUBLE RING BELOWkZIGZAG ABOVEkDOUBLE BREVE BELOWwrMACRON",
    "x BELOWrTILDErINVERTED BREVErRIGHTWARDS ARROW BELOWkLATIN SMALL LETTER AãEãIãOãUãCãDãHãMãRãT",
    "ãVãXaGREEK CAPITAL LETTER HETAgSMALL LETTER HETAgCAPITAL LETTER ARCHAIC SAMPI",
    "gSMALL LETTER ARCHAIC SAMPIgNUMERAL SIGNgLOWER NUMERAL SIGN",
    "gCAPITAL LETTER PAMPHYLIAN DIGAMMAgSMALL LETTER PAMPHYLIAN DIGAMMA"]),
  (0x037A, [
    "aGREEK YPOGEGRAMMENIgSMALL REVERSED LUNATE SIGMA SYMBOLmDOTTED LUNATE SIGMA SYMBOL",
    "mREVERSED DOTTED LUNATE SIGMA SYMBOLgQUESTION MARKgCAPITAL LETTER YOT"]),
  (0x0384, [
    "aGREEK TONOSgDIALYTIKA TONOSgCAPITAL LETTER ALPHA WITH TONOSgANO TELEIA",
    "gCAPITAL LETTER EPSILON WITH TONOSwTA WITH TONOSvIOTA WITH TONOS"]),
  (0x038C, ["aGREEK CAPITAL LETTER OMICRON WITH TONOS"]),
  (0x038E, [
    "aGREEK CAPITAL LETTER UPSILON WITH TONOSvOMEGA WITH TONOS",
    "gSMALL LETTER IOTA WITH DIALYTIKA AND TONOSgCAPITAL LETTER ALPHAvBETAvGAMMAvDELTAvEPSILON",
    "vZETAvETAvTHETAvIOTAvKAPPAvLAMDAvMUvNUvXIvOMICRONvPIvRHO"]),
  (0x03A3, [
    "aGREEK CAPITAL LETTER SIGMAvTAUvUPSILONvPHIvCHIvPSIvOMEGAvIOTA WITH DIALYTIKA",
    "vUPSILON WITH DIALYTIKAgSMALL LETTER ALPHA WITH TONOStEPSILON WITH TONOSuTA WITH TONOS",
    "tIOTA WITH TONOStUPSILON WITH DIALYTIKA AND TONOStALPHAtBETAtGAMMAtDELTAtEPSILONtZETAtETA",
    "tTHETAtIOTAtKAPPAtLAMDAtMUtNUtXItOMICRONtPItRHOtFINAL SIGMAtSIGMAtTAUtUPSILONtPHItCHItPSI",
    "tOMEGAtIOTA WITH DIALYTIKAtUPSILON WITH DIALYTIKAtOMICRON WITH TONOStUPSILON WITH TONOS",
    "tOMEGA WITH TONOSgCAPITAL KAI SYMBOLgBETA SYMBOLgTHETA SYMBOLgUPSILON WITH HOOK SYMBOL",
    "tACUTE AND HOOK SYMBOLtDIAERESIS AND HOOK SYMBOLgPHI SYMBOLhI SYMBOLgKAI SYMBOL",
    "gLETTER ARCHAIC KOPPAgSMALL LETTER ARCHAIC KOPPAgLETTER STIGMAgSMALL LETTER STIGMA",
    "gLETTER DIGAMMAgSMALL LETTER DIGAMMAgLETTER KOPPAgSMALL LETTER KOPPAgLETTER SAMPI",
    "gSMALL LETTER SAMPIaCOPTIC CAPITAL LETTER SHEIhSMALL LETTER SHEIhCAPITAL LETTER FEI",
    "hSMALL LETTER FEIhCAPITAL LETTER KHEIhSMALL LETTER KHEIhCAPITAL LETTER HORI",
    "hSMALL LETTER HORIhCAPITAL LETTER GANGIAhSMALL LETTER GANGIAhCAPITAL LETTER SHIMA",
    "hSMALL LETTER SHIMAhCAPITAL LETTER DEIhSMALL LETTER DEIaGREEK KAPPA SYMBOLgRHO SYMBOL",
    "gLUNATE SIGMA SYMBOLhETTER YOTgCAPITAL THETA SYMBOLgLUNATE EPSILON SYMBOL",
    "gREVERSED LUNATE EPSILON SYMBOLgCAPITAL LETTER SHOgSMALL LETTER SHO",
    "gCAPITAL LUNATE SIGMA SYMBOLpETTER SANgSMALL LETTER SANgRHO WITH STROKE SYMBOL",
    "gCAPITAL REVERSED LUNATE SIGMA SYMBOLoDOTTED LUNATE SIGMA SYMBOL",
    "oREVERSED DOTTED LUNATE SIGMA SYMBOLaCYRILLIC CAPITAL LETTER IE WITH GRAVEzOyDJEyGJE",
    "yUKRAINIAN IEyDZEyBYELORUSSIAN-UKRAINIAN IyYIyJEyLJEyNJEyTSHEyKJEyI WITH GRAVEySHORT UyDZHE",
    "yAyBEyVEyGHEyDEyIEyZHEzEyIySHORT IyKAyELzMzNyOyPEyERzSyTEyUyEFyHAyTSEyCHEySHAàCHAyHARD SIGN",
    "yYERUySOFT SIGNyEyYUzAjSMALL LETTER AwBEwVEwGHEwDEwIEwZHExEwIwSHORT IwKAwELxMxNwOwPEwERxSwTE",
    "wUwEFwHAwTSEwCHEwSHAyCHAwHARD SIGNwYERUwSOFT SIGNwEwYUxAwIE WITH GRAVExOwDJEwGJE",
    "wUKRAINIAN IEwDZEwBYELORUSSIAN-UKRAINIAN IwYIwJEwLJEwNJEwTSHEwKJEwI WITH GRAVEwSHORT UwDZHE",
    "jCAPITAL LETTER OMEGAjSMALL LETTER OMEGAjCAPITAL LETTER YATjSMALL LETTER YAT",
    "jCAPITAL LETTER IOTIFIED EjSMALL LETTER IOTIFIED EjCAPITAL LETTER LITTLE YUS",
    "jSMALL LETTER LITTLE YUSjCAPITAL LETTER IOTIFIED LITTLE YUSjSMALL LETTER IOTIFIED LITTLE YUS",
    "jCAPITAL LETTER BIG YUSjSMALL LETTER BIG YUSjCAPITAL LETTER IOTIFIED BIG YUS",
    "jSMALL LETTER IOTIFIED BIG YUSjCAPITAL LETTER KSIjSMALL LETTER KSIjCAPITAL LETTER PSI",
    "jSMALL LETTER PSIjCAPITAL LETTER FITAjSMALL LETTER FITAjCAPITAL LETTER IZHITSA",
    "jSMALL LETTER IZHITSAjCAPITAL LETTER IZHITSA WITH DOUBLE GRAVE ACCENT",
    "jSMALL LETTER IZHITSA WITH DOUBLE GRAVE ACCENTjCAPITAL LETTER UKjSMALL LETTER UK",
    "jCAPITAL LETTER ROUND OMEGAjSMALL LETTER ROUND OMEGAjCAPITAL LETTER OMEGA WITH TITLO",
    "jSMALL LETTER OMEGA WITH TITLOjCAPITAL LETTER OTjSMALL LETTER OTjCAPITAL LETTER KOPPA",
    "jSMALL LETTER KOPPAjTHOUSANDS SIGNbOMBINING CYRILLIC TITLOtPALATALIZATIONtDASIA PNEUMATA",
    "tPSILI PNEUMATAuOKRYTIEtHUNDRED THOUSANDS SIGNtMILLIONS SIGN",
    "bYRILLIC CAPITAL LETTER SHORT I WITH TAILjSMALL LETTER SHORT I WITH TAIL",
    "jCAPITAL LETTER SEMISOFT SIGNjSMALL LETTER SEMISOFT SIGNjCAPITAL LETTER ER WITH TICK",
    "jSMALL LETTER ER WITH TICKjCAPITAL LETTER GHE WITH UPTURNjSMALL LETTER GHE WITH UPTURN",
    "jCAPITAL LETTER GHE WITH STROKEjSMALL LETTER GHE WITH STROKE",
    "jCAPITAL LETTER GHE WITH MIDDLE HOOKjSMALL LETTER GHE WITH MIDDLE HOOK",
    "jCAPITAL LETTER ZHE WITH DESCENDERjSMALL LETTER ZHE WITH DESCENDER",
    "jCAPITAL LETTER ZE WITH DESCENDERjSMALL LETTER ZE WITH DESCENDER",
    "jCAPITAL LETTER KA WITH DESCENDERjSMALL LETTER KA WITH DESCENDER",
    "jCAPITAL LETTER KA WITH VERTICAL STROKEjSMALL LETTER KA WITH VERTICAL STROKE",
    "jCAPITAL LETTER KA WITH STROKEjSMALL LETTER KA WITH STROKEjCAPITAL LETTER BASHKIR KA",
    "jSMALL LETTER BASHKIR KAjCAPITAL LETTER EN WITH DESCENDERjSMALL LETTER EN WITH DESCENDER",
    "jCAPITAL LIGATURE EN GHEjSMALL LIGATURE EN GHEjCAPITAL LETTER PE WITH MIDDLE HOOK",
    "jSMALL LETTER PE WITH MIDDLE HOOKjCAPITAL LETTER ABKHASIAN HAjSMALL LETTER ABKHASIAN HA",
    "jCAPITAL LETTER ES WITH DESCENDERjSMALL LETTER ES WITH DESCENDER",
    "jCAPITAL LETTER TE WITH DESCENDERjSMALL LETTER TE WITH DESCENDERjCAPITAL LETTER STRAIGHT U",
    "jSMALL LETTER STRAIGHT UjCAPITAL LETTER STRAIGHT U WITH STROKE",
    "jSMALL LETTER STRAIGHT U WITH STROKEjCAPITAL LETTER HA WITH DESCENDER",
    "jSMALL LETTER HA WITH DESCENDERjCAPITAL LIGATURE TE TSEjSMALL LIGATURE TE TSE",
    "jCAPITAL LETTER CHE WITH DESCENDERjSMALL LETTER CHE WITH DESCENDER",
    "jCAPITAL LETTER CHE WITH VERTICAL STROKEjSMALL LETTER CHE WITH VERTICAL STROKE",
    "jCAPITAL LETTER SHHAjSMALL LETTER SHHAjCAPITAL LETTER ABKHASIAN CHE",
    "jSMALL LETTER ABKHASIAN CHEjCAPITAL LETTER ABKHASIAN CHE WITH DESCENDER",
    "jSMALL LETTER ABKHASIAN CHE WITH DESCENDERjLETTER PALOCHKAjCAPITAL LETTER ZHE WITH BREVE",
    "jSMALL LETTER ZHE WITH BREVEjCAPITAL LETTER KA WITH HOOKjSMALL LETTER KA WITH HOOK",
    "jCAPITAL LETTER EL WITH TAILjSMALL LETTER EL WITH TAILjCAPITAL LETTER EN WITH HOOK",
    "jSMALL LETTER EN WITH HOOKjCAPITAL LETTER EN WITH TAILjSMALL LETTER EN WITH TAIL",
    "jCAPITAL LETTER KHAKASSIAN CHEjSMALL LETTER KHAKASSIAN CHEjCAPITAL LETTER EM WITH TAIL",
    "jSMALL LETTER EM WITH TAILwPALOCHKAjCAPITAL LETTER A WITH BREVEjSMALL LETTER A WITH BREVE",
    "jCAPITAL LETTER A WITH DIAERESISjSMALL LETTER A WITH DIAERESISjCAPITAL LIGATURE A IE",
    "jSMALL LIGATURE A IEjCAPITAL LETTER IE WITH BREVEjSMALL LETTER IE WITH BREVE",
    "jCAPITAL LETTER SCHWAjSMALL LETTER SCHWAjCAPITAL LETTER SCHWA WITH DIAERESIS",
    "jSMALL LETTER SCHWA WITH DIAERESISjCAPITAL LETTER ZHE WITH DIAERESIS",
    "jSMALL LETTER ZHE WITH DIAERESISjCAPITAL LETTER ZE WITH DIAERESIS",
    "jSMALL LETTER ZE WITH DIAERESISjCAPITAL LETTER ABKHASIAN DZEjSMALL LETTER ABKHASIAN DZE",
    "jCAPITAL LETTER I WITH MACRONjSMALL LETTER I WITH MACRONjCAPITAL LETTER I WITH DIAERESIS",
    "jSMALL LETTER I WITH DIAERESISjCAPITAL LETTER O WITH DIAERESISjSMALL LETTER O WITH DIAERESIS",
    "jCAPITAL LETTER BARRED OjSMALL LETTER BARRED OjCAPITAL LETTER BARRED O WITH DIAERESIS",
    "jSMALL LETTER BARRED O WITH DIAERESISjCAPITAL LETTER E WITH DIAERESIS",
    "jSMALL LETTER E WITH DIAERESISjCAPITAL LETTER U WITH MACRONjSMALL LETTER U WITH MACRON",
    "jCAPITAL LETTER U WITH DIAERESISjSMALL LETTER U WITH DIAERESIS",
    "jCAPITAL LETTER U WITH DOUBLE ACUTEjSMALL LETTER U WITH DOUBLE ACUTE",
    "jCAPITAL LETTER CHE WITH DIAERESISjSMALL LETTER CHE WITH DIAERESIS",
    "jCAPITAL LETTER GHE WITH DESCENDERjSMALL LETTER GHE WITH DESCENDER",
    "jCAPITAL LETTER YERU WITH DIAERESISjSMALL LETTER YERU WITH DIAERESIS",
    "jCAPITAL LETTER GHE WITH STROKE AND HOOKjSMALL LETTER GHE WITH STROKE AND HOOK",
    "jCAPITAL LETTER HA WITH HOOKjSMALL LETTER HA WITH HOOKjCAPITAL LETTER HA WITH STROKE",
    "jSMALL LETTER HA WITH STROKEjCAPITAL LETTER KOMI DEjSMALL LETTER KOMI DE",
    "jCAPITAL LETTER KOMI DJEjSMALL LETTER KOMI DJEjCAPITAL LETTER KOMI ZJEjSMALL LETTER KOMI ZJE",
    "jCAPITAL LETTER KOMI DZJEjSMALL LETTER KOMI DZJEjCAPITAL LETTER KOMI LJE",
    "jSMALL LETTER KOMI LJEjCAPITAL LETTER KOMI NJEjSMALL LETTER KOMI NJEjCAPITAL LETTER KOMI SJE",
    "jSMALL LETTER KOMI SJEjCAPITAL LETTER KOMI TJEjSMALL LETTER KOMI TJE",
    "jCAPITAL LETTER REVERSED ZEjSMALL LETTER REVERSED ZEjCAPITAL LETTER EL WITH HOOK",
    "jSMALL LETTER EL WITH HOOKjCAPITAL LETTER LHAjSMALL LETTER LHAjCAPITAL LETTER RHA",
    "jSMALL LETTER RHAjCAPITAL LETTER YAEjSMALL LETTER YAEjCAPITAL LETTER QAjSMALL LETTER QA",
    "jCAPITAL LETTER WEjSMALL LETTER WEjCAPITAL LETTER ALEUT KAjSMALL LETTER ALEUT KA",
    "jCAPITAL LETTER EL WITH MIDDLE HOOKjSMALL LETTER EL WITH MIDDLE HOOK",
    "jCAPITAL LETTER EN WITH MIDDLE HOOKjSMALL LETTER EN WITH MIDDLE HOOK",
    "jCAPITAL LETTER PE WITH DESCENDERjSMALL LETTER PE WITH DESCENDER",
    "jCAPITAL LETTER SHHA WITH DESCENDERjSMALL LETTER SHHA WITH DESCENDER",
    "jCAPITAL LETTER EN WITH LEFT HOOKjSMALL LETTER EN WITH LEFT HOOKjCAPITAL LETTER DZZHE",
    "jSMALL LETTER DZZHEjCAPITAL LETTER DCHEjSMALL LETTER DCHEjCAPITAL LETTER EL WITH DESCENDER",
    "jSMALL LETTER EL WITH DESCENDER"]),
  (0x0531, [
    "aARMENIAN CAPITAL LETTER AYByBENyGIMyDAyECHyZAyEHzTyTOyZHEyINIyLIWNyXEHyCAyKENyHOyJAyGHAD",
    "yCHEHyMENyYIyNOWySHAyVOyCHAyPEHyJHEHyRAySEHyVEWyTIWNyREHyCOyYIWNyPIWRyKEHyOHyFEH"]),
  (0x0559, [
    "aARMENIAN MODIFIER LETTER LEFT HALF RINGjAPOSTROPHEjEMPHASIS MARKkXCLAMATION MARKjCOMMA",
    "jQUESTION MARKjABBREVIATION MARKjSMALL LETTER TURNED AYBwAYBwBENwGIMwDAwECHwZAwEHxTwTOwZHE",
    "wINIwLIWNwXEHwCAwKENwHOwJAwGHADwCHEHwMENwYIwNOWwSHAwVOwCHAwPEHwJHEHwRAwSEHwVEWwTIWNwREHwCO",
    "wYIWNwPIWRwKEHwOHwFEHqIGATURE ECH YIWNqETTER YI WITH STROKEjFULL STOPjHYPHEN"]),
  (0x058D, [
    "aRIGHT-FACING ARMENIAN ETERNITY SIGNaLEFT-FACING ARMENIAN ETERNITY SIGNaARMENIAN DRAM SIGN"]),
  (0x0591, [
    "aHEBREW ACCENT ETNAHTAoSEGOLpHALSHELEToZAQEF QATANuGADOLoTIPEHAoREVIAoZARQAoPASHTAoYETIV",
    "oTEVIRoGERESHu MUQDAMrSHAYIMoQARNEY PARAoTELISHA GEDOLAoPAZERoATNAH HAFUKHoMUNAHpAHAPAKH",
    "pERKHAu KEFULAoDARGAoQADMAoTELISHA QETANAoYERAH BEN YOMOoOLEoILUYoDEHIoZINOR",
    "hMARK MASORA CIRCLEhPOINT SHEVAnHATAF SEGOLtPATAHtQAMATSoIRIQnTSEREnSEGOLnPATAHnQAMATSnHOLAM",
    "s HASER FOR VAVnQUBUTSnDAGESH OR MAPIQnMETEGiUNCTUATION MAQAFiOINT RAFEiUNCTUATION PASEQ",
    "iOINT SHIN DOToIN DOTiUNCTUATION SOF PASUQhMARK UPPER DOTmLOWER DOThPUNCTUATION NUN HAFUKHA",
    "iOINT QAMATS QATAN"]),
  (0x05D0, [
    "aHEBREW LETTER ALEFoBEToGIMELoDALEToHEoVAVoZAYINoHEToTEToYODoFINAL KAFoKAFoLAMEDoFINAL MEM",
    "oMEMoFINAL NUNoNUNoSAMEKHoAYINoFINAL PEoPEoFINAL TSADIoTSADIoQOFoRESHoSHINoTAV"]),
  (0x05EF, [
    "aHEBREW YOD TRIANGLEhLIGATURE YIDDISH DOUBLE VAVyVAV YODyDOUBLE YODhPUNCTUATION GERESH",
    "wSHAYIM"]),
  (0x0600, [
    "aARABIC NUMBER SIGNhSIGN SANAHhFOOTNOTE MARKERhSIGN SAFHAoMVAThNUMBER MARK ABOVE",
    "g-INDIC CUBE ROOTnFOURTH ROOTg RAYg-INDIC PER MILLE SIGNrTEN THOUSAND SIGNbFGHANI SIGN",
    "bRABIC COMMAhDATE SEPARATORhPOETIC VERSE SIGNhSIGN MISRAmSALLALLAHOU ALAYHE WASSALLAM",
    "mALAYHE ASSALLAMmRAHMATULLAH ALAYHEoDI ALLAHOU ANHUmTAKHALLUSiMALL HIGH TAH",
    "sLIGATURE ALEF WITH LAM WITH YEHsZAINnFATHAnDAMMAnKASRAiEMICOLONhLETTER MARK",
    "hEND OF TEXT MARKhTRIPLE DOT PUNCTUATION MARKhQUESTION MARKhLETTER KASHMIRI YEHoHAMZA",
    "oALEF WITH MADDA ABOVEyHAMZA ABOVEoWAW WITH HAMZA ABOVEoALEF WITH HAMZA BELOW",
    "oYEH WITH HAMZA ABOVEoALEFoBEHoTEH MARBUTArpHEHoJEEMoHAHoKHAHoDALoTHALoREHoZAINoSEENpHEENpAD",
    "oDADoTAHoZAHoAINoGHAINoKEHEH WITH TWO DOTS ABOVEàHREE DOTS BELOWoFARSI YEH WITH INVERTED V",
    "ãTWO DOTS ABOVEäHREE DOTS ABOVEhTATWEELhLETTER FEHoQAFoKAFoLAMoMEEMoNOONoHEHoWAW",
    "oALEF MAKSURAoYEHhFATHATANhDAMMATANhKASRATANhFATHAhDAMMAhKASRAhSHADDAiUKUNhMADDAH ABOVE",
    "hHAMZA ABOVEnBELOWhSUBSCRIPT ALEFhINVERTED DAMMAhMARK NOON GHUNNAhZWARAKAY",
    "hVOWEL SIGN SMALL V ABOVEsINVERTED SMALL V ABOVEsDOT BELOWhREVERSED DAMMA",
    "hFATHA WITH TWO DOTShWAVY HAMZA BELOWg-INDIC DIGIT ZEROtONEtTWOuHREEtFOURuIVEtSIXuEVENtEIGHT",
    "tNINEg PERCENT SIGNhDECIMAL SEPARATORhTHOUSANDS SEPARATORhFIVE POINTED STAR",
    "hLETTER DOTLESS BEHwQAFoSUPERSCRIPT ALEFoALEF WASLAuITH WAVY HAMZA ABOVEéBELOWoHIGH HAMZA",
    "y ALEFzWAWoU WITH HAMZA ABOVEoHIGH HAMZA YEHoTTEHsEHoBEEHoTEH WITH RING",
    "xTHREE DOTS ABOVE DOWNWARDSoPEHoTEHEHoBEHEHoHAH WITH HAMZA ABOVExTWO DOTS VERTICAL ABOVE",
    "oNYEHoDYEHoHAH WITH THREE DOTS ABOVEoTCHEHtEHoDDALpAL WITH RINGxDOT BELOWæ AND SMALL TAHqHAL",
    "pDAHALpULpAL WITH THREE DOTS ABOVE DOWNWARDSxFOUR DOTS ABOVEoRREHpEH WITH SMALL VxRING",
    "xDOT BELOWxSMALL V BELOWxDOT BELOW AND DOT ABOVExTWO DOTS ABOVEoJEHoREH WITH FOUR DOTS ABOVE",
    "oSEEN WITH DOT BELOW AND DOT ABOVEyTHREE DOTS BELOWî AND THREE DOTS ABOVE",
    "pAD WITH TWO DOTS BELOWyHREE DOTS ABOVEoTAH WITH THREE DOTS ABOVEoAIN WITH THREE DOTS ABOVE",
    "oDOTLESS FEHoFEH WITH DOT MOVED BELOWáBELOWoVEHoFEH WITH THREE DOTS BELOWoPEHEH",
    "oQAF WITH DOT ABOVExTHREE DOTS ABOVEoKEHEHoSWASH KAFoKAF WITH RINGxDOT ABOVEoNG",
    "oKAF WITH THREE DOTS BELOWoGAFr WITH RINGoNGOEHoGAF WITH TWO DOTS BELOWpUEH",
    "pAF WITH THREE DOTS ABOVEoLAM WITH SMALL VxDOT ABOVExTHREE DOTS ABOVEèBELOW",
    "oNOON WITH DOT BELOWtGHUNNAoRNOONoNOON WITH RINGyTHREE DOTS ABOVEoHEH DOACHASHMEE",
    "oTCHEH WITH DOT ABOVEoHEH WITH YEH ABOVEsGOALw WITH HAMZA ABOVEoTEH MARBUTA GOAL",
    "oWAW WITH RINGoKIRGHIZ OEoOEoUoYUoKIRGHIZ YUoWAW WITH TWO DOTS ABOVEoVEoFARSI YEH",
    "oYEH WITH TAILxSMALL VoWAW WITH DOT ABOVEoEoYEH WITH THREE DOTS BELOWsBARREE",
    "y WITH HAMZA ABOVEhFULL STOPhLETTER AEhSMALL HIGH LIGATURE SAD WITH LAM WITH ALEF MAKSURA",
    "áQAF WITH LAM WITH ALEF MAKSURAsMEEM INITIAL FORMsLAM ALEFsJEEMsTHREE DOTSsSEENhEND OF AYAH",
    "hSTART OF RUB EL HIZBiMALL HIGH ROUNDED ZEROsUPRIGHT RECTANGULAR ZEROsDOTLESS HEAD OF KHAH",
    "sMEEM ISOLATED FORMnLOW SEENnHIGH MADDAnWAWnYEHnHIGH YEHsNOONhPLACE OF SAJDAH",
    "hEMPTY CENTRE LOW STOPuHIGH STOPhROUNDED HIGH STOP WITH FILLED CENTREhSMALL LOW MEEM",
    "hLETTER DAL WITH INVERTED VoREH WITH INVERTED VaEXTENDED ARABIC-INDIC DIGIT ZEROâONEâTWO",
    "ãHREEâFOURãIVEâSIXãEVENâEIGHTâNINEaARABIC LETTER SHEEN WITH DOT BELOWoDAD WITH DOT BELOW",
    "oGHAIN WITH DOT BELOWhSIGN SINDHI AMPERSANDtPOSTPOSITION MENhLETTER HEH WITH INVERTED V",
    "aSYRIAC END OF PARAGRAPHhSUPRALINEAR FULL STOPjBLINEAR FULL STOPjPRALINEAR COLON",
    "jBLINEAR COLONhHORIZONTAL COLONhCOLON SKEWED LEFTuRIGHThSUPRALINEAR COLON SKEWED LEFT",
    "jBLINEAR COLON SKEWED RIGHThCONTRACTIONhHARKLEAN OBELUSqMETOBELUSqASTERISCUS"]),
  (0x070F, [
    "aSYRIAC ABBREVIATION MARKhLETTER ALAPHoSUPERSCRIPT ALAPHoBETHoGAMALt GARSHUNIoDALATH",
    "pOTLESS DALATH RISHoHEoWAWoZAINoHETHoTETHs GARSHUNIoYUDHs HEoKAPHoLAMADHoMIMoNUNoSEMKATH",
    "oFINAL SEMKATHoEoPEoREVERSED PEoSADHEoQAPHoRISHoSHINoTAWoPERSIAN BHETHwGHAMALwDHALATH",
    "hPTHAHA ABOVEoBELOWoDOTTEDhZQAPHA ABOVEoBELOWoDOTTEDhRBASA ABOVEnBELOW",
    "hDOTTED ZLAMA HORIZONTALuANGULARhHBASA ABOVEnBELOWm-ESASA DOTTEDhESASA ABOVEnBELOWhRWAHA",
    "hFEMININE DOThQUSHSHAYAhRUKKAKHAhTWO VERTICAL DOTS ABOVEzBELOWiHREE DOTS ABOVEsBELOW",
    "hOBLIQUE LINE ABOVEuBELOWhMUSIChBARREKH"]),
  (0x074D, [
    "aSYRIAC LETTER SOGDIAN ZHAINwKHAPHwFEaARABIC LETTER BEH WITH THREE DOTS HORIZONTALLY BELOW",
    "xDOT BELOW AND THREE DOTS ABOVExTHREE DOTS POINTING UPWARDS BELOWø BELOW AND TWO DOTS ABOVE",
    "yWO DOTS BELOW AND DOT ABOVExINVERTED SMALL V BELOWxSMALL VoHAH WITH TWO DOTS ABOVE",
    "yHREE DOTS POINTING UPWARDS BELOWoDAL WITH TWO DOTS VERTICALLY BELOW AND SMALL TAH",
    "xINVERTED SMALL V BELOWoREH WITH STROKEoSEEN WITH FOUR DOTS ABOVEoAIN WITH TWO DOTS ABOVE",
    "yHREE DOTS POINTING DOWNWARDS ABOVEyWO DOTS VERTICALLY ABOVEoFEH WITH TWO DOTS BELOW",
    "yHREE DOTS POINTING UPWARDS BELOWoKEHEH WITH DOT ABOVEzTHREE DOTS ABOVE",
    "êPOINTING UPWARDS BELOWoMEEM WITH DOT ABOVEâBELOWoNOON WITH TWO DOTS BELOWySMALL TAHäV",
    "oLAM WITH BARoREH WITH TWO DOTS VERTICALLY ABOVExHAMZA ABOVE",
    "oSEEN WITH TWO DOTS VERTICALLY ABOVEoHAH WITH SMALL ARABIC LETTER TAH BELOWõAND TWO DOTS",
    "oSEEN WITH SMALL ARABIC LETTER TAH AND TWO DOTS",
    "oREH WITH SMALL ARABIC LETTER TAH AND TWO DOTSoHAH WITH SMALL ARABIC LETTER TAH ABOVE",
    "oALEF WITH EXTENDED ARABIC-INDIC DIGIT TWO ABOVEøT THREE ABOVE",
    "oFARSI YEH WITH EXTENDED ARABIC-INDIC DIGIT TWO ABOVEø DIGIT THREE ABOVEø DIGIT FOUR BELOW",
    "oWAW WITH EXTENDED ARABIC-INDIC DIGIT TWO ABOVEø THREE ABOVE",
    "oYEH BARREE WITH EXTENDED ARABIC-INDIC DIGIT TWO ABOVEøC DIGIT THREE ABOVE",
    "oHAH WITH EXTENDED ARABIC-INDIC DIGIT FOUR BELOW",
    "oSEEN WITH EXTENDED ARABIC-INDIC DIGIT FOUR ABOVEyINVERTED VoKAF WITH TWO DOTS ABOVE",
    "aTHAANA LETTER HAAoSHAVIYANIoNOONUoRAAoBAAoLHAVIYANIoKAAFUoALIFUoVAAVUoMEEMUoFAAFUoDHAALU",
    "oTHAAoLAAMUoGAAFUpNAVIYANIoSEENUoDAVIYANIoZAVIYANIoTAVIYANIoYAAoPAVIYANIoJAVIYANIoCHAVIYANI",
    "oTTAAoHHAAoKHAAoTHAALUoZAAoSHEENUpAADHUoDAADHUoTOoZOoAINUoGHAINUoQAAFUoWAAVUhABAFILI",
    "iABAAFILIhIBIFILIhEEBEEFILIhUBUFILIhOOBOOFILIhEBEFILIiYBEYFILIhOBOFILIiABOAFILIhSUKUN",
    "hLETTER NAA"]),
  (0x07C0, [
    "aNKO DIGIT ZEROkONEkTWOlHREEkFOURlIVEkSIXlEVENkEIGHTkNINEeLETTER AlEElIlElUlOOmlDAGBASINNAlN",
    "lBAlPAlTAlJAlCHAlDAlRAmRAlSAlGBAlFAlKAlLAlNA WOLOSOlMAlNYAmAlHAlWAlYAlNYA WOLOSOlJONA JAqCHA",
    "qRAeCOMBINING SHORT HIGH TONEuLOW TONEuRISING TONEoLONG DESCENDING TONEtHIGH TONEtLOW TONE",
    "tRISING TONEoNASALIZATION MARKoDOUBLE DOT ABOVEeHIGH TONE APOSTROPHEeLOW TONE APOSTROPHE",
    "eSYMBOL OO DENNENlGBAKURUNENeCOMMAeEXCLAMATION MARKeLAJANYALAN"]),
  (0x07FD, [
    "aNKO DANTAYALANfOROME SIGNeTAMAN SIGNaSAMARITAN LETTER ALAFrBITrGAMANrDALATrIYrBAArZENrIT",
    "rTITrYUTrKAAFrLABATrMIMrNUNrSINGAATrINrFIrTSAADIYrQUFrRISHrSHANrTAAFkMARK INr-ALAFpOCCLUSION",
    "pDAGESHlODIFIER LETTER EPENTHETIC YUTlARK EPENTHETIC YUTkVOWEL SIGN LONG EvEvOVERLONG AA",
    "vLONG AAvAAvOVERLONG AvLONG AvAkMODIFIER LETTER SHORT AkVOWEL SIGN SHORT AvLONG UvU",
    "kMODIFIER LETTER IkVOWEL SIGN LONG IvIvOvSUKUNkMARK NEQUDAA"]),
  (0x0830, [
    "aSAMARITAN PUNCTUATION NEQUDAAwAFSAAQxNGEDwBAUwATMAAUwSHIYYAALAAkABBREVIATION MARK",
    "kPUNCTUATION MELODIC QITSAwZIQAAwQITSAwZAEFwTURUwARKAANUwSOF MASHFAATwANNAAU"]),
  (0x0840, [
    "aMANDAIC LETTER HALQApABqGqDqHpUSHENNApAZpITpATTqKSArqLqMqNqSpINpAPqSZqQqRqSHqTpDUSHENNApKAD",
    "pAINiAFFRICATION MARKiVOCALIZATION MARKiGEMINATION MARK"]),
  (0x085E, ["aMANDAIC PUNCTUATION"]),
  (0x0860, ["aSYRIAC LETTER MALAYALAM NGAyJAyNYAyTTAyNNAàNAyBHAyRAyLLAàLAySSA"]),
  (0x0870, [
    "aARABIC LETTER ALEF WITH ATTACHED FATHAçTOP RIGHT FATHAyRIGHT MIDDLE STROKE",
    "yLEFT MIDDLE STROKEyATTACHED KASRAçBOTTOM RIGHT KASRAçROUND DOT ABOVEèIGHT ROUND DOT",
    "çLEFT ROUND DOTçROUND DOT BELOWyDOT ABOVEyATTACHED TOP RIGHT FATHA AND DOT ABOVE",
    "yRIGHT MIDDLE STROKE AND DOT ABOVEyATTACHED BOTTOM RIGHT KASRA AND DOT ABOVE",
    "çTOP RIGHT FATHA AND LEFT RINGyRIGHT MIDDLE STROKE AND LEFT RING",
    "yATTACHED BOTTOM RIGHT KASRA AND LEFT RINGçRIGHT HAMZAçLEFT HAMZA",
    "hTATWEEL WITH OVERSTRUCK HAMZAåWAWuTWO DOTS BELOWhLETTER THIN YEHhBASELINE ROUND DOT",
    "hRAISED ROUND DOThLETTER NOON WITH INVERTED SMALL VoHAH WITH INVERTED SMALL V BELOW",
    "oTAH WITH DOT BELOWxTHREE DOTS BELOWoKEHEH WITH TWO DOTS VERTICALLY BELOWhVERTICAL TAIL"]),
  (0x0890, ["aARABIC POUND MARK ABOVEiIASTRE MARK ABOVE"]),
  (0x0898, [
    "aARABIC SMALL HIGH WORD AL-JUZnLOW WORD ISHMAAMxMAALAwTASHEELhMADDA WAAJIB",
    "hSUPERSCRIPT ALEF MOKHASSAShDOUBLED MADDAhHALF MADDA OVER MADDA",
    "hLETTER BEH WITH SMALL V BELOWxHAMZA ABOVEoJEEM WITH TWO DOTS ABOVEoTAH WITH TWO DOTS ABOVE",
    "oFEH WITH DOT BELOW AND THREE DOTS ABOVEoQAF WITH DOT BELOWoLAM WITH DOUBLE BAR",
    "oMEEM WITH THREE DOTS ABOVEoYEH WITH TWO DOTS BELOW AND HAMZA ABOVEðDOT ABOVEoREH WITH LOOP",
    "oWAW WITH DOT WITHINoROHINGYA YEHoLOW ALEFoDAL WITH THREE DOTS BELOW",
    "oSAD WITH THREE DOTS BELOWoGAF WITH INVERTED STROKEoSTRAIGHT WAWoZAIN WITH INVERTED V ABOVE",
    "oAIN WITH THREE DOTS BELOWoKAF WITH DOT BELOWoQAF WITH DOT BELOW AND NO DOTS ABOVE",
    "oBEH WITH SMALL MEEM ABOVEoPEH WITH SMALL MEEM ABOVEoTEH WITH SMALL TEH ABOVE",
    "oREH WITH SMALL NOON ABOVEoYEH WITH TWO DOTS BELOW AND SMALL NOON ABOVEoAFRICAN FEHwQAFwNOON",
    "oPEH WITH SMALL VoTEH WITH SMALL VpTEH WITH SMALL VpCHEH WITH SMALL VoKEHEH WITH SMALL V",
    "oGHAIN WITH THREE DOTS ABOVEoAFRICAN QAF WITH THREE DOTS ABOVEoJEEM WITH THREE DOTS ABOVE",
    "éBELOWoLAM WITH SMALL ARABIC LETTER TAH ABOVEoGRAFhSMALL FARSI YEHnHIGH FARSI YEH",
    "sYEH BARREE WITH TWO DOTS BELOWsWORD SAHsZAHhLARGE ROUND DOT ABOVExBELOWhSUKUN BELOW",
    "hLARGE CIRCLE BELOWnROUND DOT INSIDE CIRCLE BELOWhSMALL LOW WAWnHIGH WORD AR-RUBsSADsAINsQAF",
    "sNOON WITH KASRAnLOW NOON WITH KASRAnHIGH WORD ATH-THALATHAyS-SAJDAyN-NISFxSAKTAxQIFxWAQFA",
    "sFOOTNOTE MARKERsSIGN SAFHAhDISPUTED END OF AYAHhTURNED DAMMA BELOWhCURLY FATHAnDAMMAnKASRA",
    "nFATHATANnDAMMATANnKASRATANhTONE ONE DOT ABOVEmTWO DOTS ABOVEmLOOP ABOVEmONE DOT BELOW",
    "mTWO DOTS BELOWmLOOP BELOWhOPEN FATHATANmDAMMATANmKASRATANhSMALL HIGH WAWhFATHA WITH RING",
    "sDOT ABOVEhKASRA WITH DOT BELOWhLEFT ARROWHEAD ABOVEhRIGHT ARROWHEAD ABOVE",
    "hLEFT ARROWHEAD BELOWhRIGHT ARROWHEAD BELOWhDOUBLE RIGHT ARROWHEAD ABOVEé WITH DOT",
    "hRIGHT ARROWHEAD ABOVE WITH DOThDAMMA WITH DOThMARK SIDEWAYS NOON GHUNNA",
    "aDEVANAGARI SIGN INVERTED CANDRABINDUqCANDRABINDUqANUSVARAqVISARGAlLETTER SHORT AsAtAsItIsU",
    "tUsVOCALIC RàLsCANDRA EsSHORT EsEsAIsCANDRA OsSHORT OsOsAUsKAtHAsGAtHAsNGAsCAtHAsJAtHAsNYA",
    "sTTAuHAsDDAuHAsNNAsTAtHAsDAtHAsNAtNNAsPAtHAsBAtHAsMAsYAsRAtRAsLAtLAuLAsVAsSHAtSAtAsHA",
    "lVOWEL SIGN OExOElSIGN NUKTAqAVAGRAHAlVOWEL SIGN AAwIxIwUxUwVOCALIC RåRwCANDRA EwSHORT EwE",
    "wAIwCANDRA OwSHORT OwOwAUlSIGN VIRAMAlVOWEL SIGN PRISHTHAMATRA EwAWlOMlSTRESS SIGN UDATTA",
    "xANUDATTAlGRAVE ACCENTlACUTE ACCENTlVOWEL SIGN CANDRA LONG EwUExUElLETTER QAsKHHAsGHHAsZA",
    "sDDDHAsRHAsFAsYYAsVOCALIC RRàLLlVOWEL SIGN VOCALIC LåLlDANDAmOUBLE DANDAmIGIT ZEROrONErTWO",
    "sHREErFOURsIVErSIXsEVENrEIGHTrNINElABBREVIATION SIGNlSIGN HIGH SPACING DOTlLETTER CANDRA A",
    "sOEtOEsAWsUEtUEsMARWARI DDAsZHAsHEAVY YAsGGAsJJAsGLOTTAL STOPsDDDAsBBAaBENGALI ANJI",
    "iSIGN CANDRABINDUnANUSVARAnVISARGA"]),
  (0x0985, ["aBENGALI LETTER AqApIqIpUqUpVOCALIC RxL"]), (0x098F, ["aBENGALI LETTER EpAI"]),
  (0x0993, [
    "aBENGALI LETTER OpAUpKAqHApGAqHApNGApCAqHApJAqHApNYApTTArHApDDArHApNNApTAqHApDAqHApNA"]),
  (0x09AA, ["aBENGALI LETTER PAqHApBAqHApMApYApRA"]), (0x09B2, ["aBENGALI LETTER LA"]),
  (0x09B6, ["aBENGALI LETTER SHAqSAqApHA"]),
  (0x09BC, ["aBENGALI SIGN NUKTAnAVAGRAHAiVOWEL SIGN AAtIuItUuUtVOCALIC RâR"]),
  (0x09C7, ["aBENGALI VOWEL SIGN EtAI"]),
  (0x09CB, ["aBENGALI VOWEL SIGN OtAUiSIGN VIRAMAiLETTER KHANDA TA"]),
  (0x09D7, ["aBENGALI AU LENGTH MARK"]), (0x09DC, ["aBENGALI LETTER RRAqHA"]),
  (0x09DF, ["aBENGALI LETTER YYApVOCALIC RRxLLiVOWEL SIGN VOCALIC LâL"]),
  (0x09E6, [
    "aBENGALI DIGIT ZEROoONEoTWOpHREEoFOURpIVEoSIXpEVENoEIGHToNINEiLETTER RA WITH MIDDLE DIAGONAL",
    "xLOWER DIAGONALiRUPEE MARKoSIGNiCURRENCY NUMERATOR ONEáTWOâHREEáFOUR",
    "áONE LESS THAN THE DENOMINATORrDENOMINATOR SIXTEENiISSHARiGANDA MARKiLETTER VEDIC ANUSVARA",
    "iABBREVIATION SIGNiSANDHI MARK"]),
  (0x0A01, ["aGURMUKHI SIGN ADAK BINDIoBINDIoVISARGA"]),
  (0x0A05, ["aGURMUKHI LETTER ArAqIrIqUrU"]), (0x0A0F, ["aGURMUKHI LETTER EEqAI"]),
  (0x0A13, [
    "aGURMUKHI LETTER OOqAUqKArHAqGArHAqNGAqCArHAqJArHAqNYAqTTAsHAqDDAsHAqNNAqTArHAqDArHAqNA"]),
  (0x0A2A, ["aGURMUKHI LETTER PArHAqBArHAqMAqYAqRA"]), (0x0A32, ["aGURMUKHI LETTER LArLA"]),
  (0x0A35, ["aGURMUKHI LETTER VAqSHA"]), (0x0A38, ["aGURMUKHI LETTER SAqHA"]),
  (0x0A3C, ["aGURMUKHI SIGN NUKTA"]), (0x0A3E, ["aGURMUKHI VOWEL SIGN AAuIvIuUvU"]),
  (0x0A47, ["aGURMUKHI VOWEL SIGN EEuAI"]), (0x0A4B, ["aGURMUKHI VOWEL SIGN OOuAUjSIGN VIRAMA"]),
  (0x0A51, ["aGURMUKHI SIGN UDAAT"]), (0x0A59, ["aGURMUKHI LETTER KHHAqGHHAqZAqRRA"]),
  (0x0A5E, ["aGURMUKHI LETTER FA"]),
  (0x0A66, [
    "aGURMUKHI DIGIT ZEROpONEpTWOqHREEpFOURqIVEpSIXqEVENpEIGHTpNINEjTIPPIjADDAKjIRIjURAjEK ONKAR",
    "jSIGN YAKASHjABBREVIATION SIGN"]),
  (0x0A81, ["aGUJARATI SIGN CANDRABINDUoANUSVARAoVISARGA"]),
  (0x0A85, ["aGUJARATI LETTER ArAqIrIqUrUqVOCALIC RyLjVOWEL CANDRA E"]),
  (0x0A8F, ["aGUJARATI LETTER EqAIjVOWEL CANDRA O"]),
  (0x0A93, [
    "aGUJARATI LETTER OqAUqKArHAqGArHAqNGAqCArHAqJArHAqNYAqTTAsHAqDDAsHAqNNAqTArHAqDArHAqNA"]),
  (0x0AAA, ["aGUJARATI LETTER PArHAqBArHAqMAqYAqRA"]), (0x0AB2, ["aGUJARATI LETTER LArLA"]),
  (0x0AB5, ["aGUJARATI LETTER VAqSHArSArAqHA"]),
  (0x0ABC, ["aGUJARATI SIGN NUKTAoAVAGRAHAjVOWEL SIGN AAuIvIuUvUuVOCALIC RãRuCANDRA E"]),
  (0x0AC7, ["aGUJARATI VOWEL SIGN EuAIuCANDRA O"]),
  (0x0ACB, ["aGUJARATI VOWEL SIGN OuAUjSIGN VIRAMA"]), (0x0AD0, ["aGUJARATI OM"]),
  (0x0AE0, ["aGUJARATI LETTER VOCALIC RRyLLjVOWEL SIGN VOCALIC LãL"]),
  (0x0AE6, [
    "aGUJARATI DIGIT ZEROpONEpTWOqHREEpFOURqIVEpSIXqEVENpEIGHTpNINEjABBREVIATION SIGNjRUPEE SIGN"]),
  (0x0AF9, [
    "aGUJARATI LETTER ZHAjSIGN SUKUNpHADDAoMADDAHoTHREE-DOT NUKTA ABOVEoCIRCLE NUKTA ABOVE",
    "oTWO-CIRCLE NUKTA ABOVE"]),
  (0x0B01, ["aORIYA SIGN CANDRABINDUlANUSVARAlVISARGA"]),
  (0x0B05, ["aORIYA LETTER AoAnIoInUoUnVOCALIC RvL"]), (0x0B0F, ["aORIYA LETTER EnAI"]),
  (0x0B13, [
    "aORIYA LETTER OnAUnKAoHAnGAoHAnNGAnCAoHAnJAoHAnNYAnTTApHAnDDApHAnNNAnTAoHAnDAoHAnNA"]),
  (0x0B2A, ["aORIYA LETTER PAoHAnBAoHAnMAnYAnRA"]), (0x0B32, ["aORIYA LETTER LAoLA"]),
  (0x0B35, ["aORIYA LETTER VAnSHAoSAoAnHA"]),
  (0x0B3C, ["aORIYA SIGN NUKTAlAVAGRAHAgVOWEL SIGN AArIsIrUsUrVOCALIC RàR"]),
  (0x0B47, ["aORIYA VOWEL SIGN ErAI"]), (0x0B4B, ["aORIYA VOWEL SIGN OrAUgSIGN VIRAMA"]),
  (0x0B55, ["aORIYA SIGN OVERLINEgAI LENGTH MARKhU LENGTH MARK"]),
  (0x0B5C, ["aORIYA LETTER RRAoHA"]),
  (0x0B5F, ["aORIYA LETTER YYAnVOCALIC RRvLLgVOWEL SIGN VOCALIC LàL"]),
  (0x0B66, [
    "aORIYA DIGIT ZEROmONEmTWOnHREEmFOURnIVEmSIXnEVENmEIGHTmNINEgISSHARgLETTER WA",
    "gFRACTION ONE QUARTERtHALFpTHREE QUARTERSpONE SIXTEENTHtEIGHTHpTHREE SIXTEENTHS"]),
  (0x0B82, ["aTAMIL SIGN ANUSVARAlVISARGA"]), (0x0B85, ["aTAMIL LETTER AoAnIoInUoU"]),
  (0x0B8E, ["aTAMIL LETTER EoEnAI"]), (0x0B92, ["aTAMIL LETTER OoOnAUnKA"]),
  (0x0B99, ["aTAMIL LETTER NGAnCA"]), (0x0B9C, ["aTAMIL LETTER JA"]),
  (0x0B9E, ["aTAMIL LETTER NYAnTTA"]), (0x0BA3, ["aTAMIL LETTER NNAnTA"]),
  (0x0BA8, ["aTAMIL LETTER NAoNNAnPA"]),
  (0x0BAE, ["aTAMIL LETTER MAnYAnRAoRAnLAoLApLAnVAnSHAoSAoAnHA"]),
  (0x0BBE, ["aTAMIL VOWEL SIGN AArIsIrUsU"]), (0x0BC6, ["aTAMIL VOWEL SIGN EsErAI"]),
  (0x0BCA, ["aTAMIL VOWEL SIGN OsOrAUgSIGN VIRAMA"]), (0x0BD0, ["aTAMIL OM"]),
  (0x0BD7, ["aTAMIL AU LENGTH MARK"]),
  (0x0BE6, [
    "aTAMIL DIGIT ZEROmONEmTWOnHREEmFOURnIVEmSIXnEVENmEIGHTmNINEgNUMBER TENnONE HUNDREDrTHOUSAND",
    "gDAY SIGNgMONTH SIGNgYEAR SIGNgDEBIT SIGNgCREDIT SIGNgAS ABOVE SIGNgRUPEE SIGNgNUMBER SIGN"]),
  (0x0C00, [
    "aTELUGU SIGN COMBINING CANDRABINDU ABOVEnANDRABINDUmANUSVARAmVISARGA",
    "mCOMBINING ANUSVARA ABOVEhLETTER ApAoIpIoUpUoVOCALIC RwL"]),
  (0x0C0E, ["aTELUGU LETTER EpEoAI"]),
  (0x0C12, [
    "aTELUGU LETTER OpOoAUoKApHAoGApHAoNGAoCApHAoJApHAoNYAoTTAqHAoDDAqHAoNNAoTApHAoDApHAoNA"]),
  (0x0C2A, ["aTELUGU LETTER PApHAoBApHAoMAoYAoRApRAoLApLAqLAoVAoSHApSApAoHA"]),
  (0x0C3C, ["aTELUGU SIGN NUKTAmAVAGRAHAhVOWEL SIGN AAsItIsUtUsVOCALIC RáR"]),
  (0x0C46, ["aTELUGU VOWEL SIGN EtEsAI"]), (0x0C4A, ["aTELUGU VOWEL SIGN OtOsAUhSIGN VIRAMA"]),
  (0x0C55, ["aTELUGU LENGTH MARKhAI LENGTH MARK"]), (0x0C58, ["aTELUGU LETTER TSAoDZAoRRRA"]),
  (0x0C5D, ["aTELUGU LETTER NAKAARA POLLU"]),
  (0x0C60, ["aTELUGU LETTER VOCALIC RRwLLhVOWEL SIGN VOCALIC LáL"]),
  (0x0C66, ["aTELUGU DIGIT ZEROnONEnTWOoHREEnFOURoIVEnSIXoEVENnEIGHTnNINE"]),
  (0x0C77, [
    "aTELUGU SIGN SIDDHAMhFRACTION DIGIT ZERO FOR ODD POWERS OF FOURwONE FOR ODD POWERS OF FOUR",
    "wTWO FOR ODD POWERS OF FOURxHREE FOR ODD POWERS OF FOURwONE FOR EVEN POWERS OF FOUR",
    "wTWO FOR EVEN POWERS OF FOURxHREE FOR EVEN POWERS OF FOURhSIGN TUUMU",
    "aKANNADA SIGN SPACING CANDRABINDUnCANDRABINDUnANUSVARAnVISARGAnSIDDHAMiLETTER AqApIqIpUqU",
    "pVOCALIC RxL"]),
  (0x0C8E, ["aKANNADA LETTER EqEpAI"]),
  (0x0C92, [
    "aKANNADA LETTER OqOpAUpKAqHApGAqHApNGApCAqHApJAqHApNYApTTArHApDDArHApNNApTAqHApDAqHApNA"]),
  (0x0CAA, ["aKANNADA LETTER PAqHApBAqHApMApYApRAqRApLAqLA"]),
  (0x0CB5, ["aKANNADA LETTER VApSHAqSAqApHA"]),
  (0x0CBC, ["aKANNADA SIGN NUKTAnAVAGRAHAiVOWEL SIGN AAtIuItUuUtVOCALIC RâR"]),
  (0x0CC6, ["aKANNADA VOWEL SIGN EuEtAI"]), (0x0CCA, ["aKANNADA VOWEL SIGN OuOtAUiSIGN VIRAMA"]),
  (0x0CD5, ["aKANNADA LENGTH MARKiAI LENGTH MARK"]),
  (0x0CDD, ["aKANNADA LETTER NAKAARA POLLUpFA"]),
  (0x0CE0, ["aKANNADA LETTER VOCALIC RRxLLiVOWEL SIGN VOCALIC LâL"]),
  (0x0CE6, ["aKANNADA DIGIT ZEROoONEoTWOpHREEoFOURpIVEoSIXpEVENoEIGHToNINE"]),
  (0x0CF1, ["aKANNADA SIGN JIHVAMULIYAnUPADHMANIYA"]),
  (0x0D00, [
    "aMALAYALAM SIGN COMBINING ANUSVARA ABOVEqANDRABINDUpANUSVARApVISARGAkLETTER VEDIC ANUSVARArA",
    "sArIsIrUsUrVOCALIC RzL"]),
  (0x0D0E, ["aMALAYALAM LETTER EsErAI"]),
  (0x0D12, [
    "aMALAYALAM LETTER OsOrAUrKAsHArGAsHArNGArCAsHArJAsHArNYArTTAtHArDDAtHArNNArTAsHArDAsHArNA",
    "sNNArPAsHArBAsHArMArYArRAsRArLAsLAtLArVArSHAsSAsArHArTTTAkSIGN VERTICAL BAR VIRAMA",
    "pCIRCULAR VIRAMApAVAGRAHAkVOWEL SIGN AAvIwIvUwUvVOCALIC RäR"]),
  (0x0D46, ["aMALAYALAM VOWEL SIGN EwEvAI"]),
  (0x0D4A, ["aMALAYALAM VOWEL SIGN OwOvAUkSIGN VIRAMAkLETTER DOT REPHkSIGN PARA"]),
  (0x0D54, [
    "aMALAYALAM LETTER CHILLU MyYyLLLkAU LENGTH MARKkFRACTION ONE ONE-HUNDRED-AND-SIXTIETH",
    "xFORTIETHtTHREE EIGHTIETHStONE TWENTIETHyENTHtTHREE TWENTIETHStONE FIFTHkLETTER ARCHAIC II",
    "rVOCALIC RRzLLkVOWEL SIGN VOCALIC LäL"]),
  (0x0D66, [
    "aMALAYALAM DIGIT ZEROqONEqTWOrHREEqFOURrIVEqSIXrEVENqEIGHTqNINEkNUMBER TENrONE HUNDRED",
    "vTHOUSANDkFRACTION ONE QUARTERxHALFtTHREE QUARTERStONE SIXTEENTHxEIGHTHtTHREE SIXTEENTHS",
    "kDATE MARKkLETTER CHILLU NNzyRRyLzLyK"]),
  (0x0D81, ["aSINHALA SIGN CANDRABINDUnANUSVARAYAnVISARGAYA"]),
  (0x0D85, [
    "aSINHALA LETTER AYANNAqAYANNAqEYANNArEYANNApIYANNAqIYANNApUYANNAqUYANNApIRUYANNAsUYANNA",
    "qLUYANNAsUYANNApEYANNAqEYANNApAIYANNApOYANNAqOYANNApAUYANNA"]),
  (0x0D9A, [
    "aSINHALA LETTER ALPAPRAANA KAYANNApMAHAAPRAANA KAYANNApALPAPRAANA GAYANNA",
    "pMAHAAPRAANA GAYANNApKANTAJA NAASIKYAYApSANYAKA GAYANNApALPAPRAANA CAYANNA",
    "pMAHAAPRAANA CAYANNApALPAPRAANA JAYANNApMAHAAPRAANA JAYANNApTAALUJA NAASIKYAYA",
    "xSANYOOGA NAAKSIKYAYApSANYAKA JAYANNApALPAPRAANA TTAYANNApMAHAAPRAANA TTAYANNA",
    "pALPAPRAANA DDAYANNApMAHAAPRAANA DDAYANNAqUURDHAJA NAYANNApSANYAKA DDAYANNA",
    "pALPAPRAANA TAYANNApMAHAAPRAANA TAYANNApALPAPRAANA DAYANNApMAHAAPRAANA DAYANNA",
    "pDANTAJA NAYANNA"]),
  (0x0DB3, [
    "aSINHALA LETTER SANYAKA DAYANNApALPAPRAANA PAYANNApMAHAAPRAANA PAYANNApALPAPRAANA BAYANNA",
    "pMAHAAPRAANA BAYANNArYANNApAMBA BAYANNApYAYANNApRAYANNA"]),
  (0x0DBD, ["aSINHALA LETTER DANTAJA LAYANNA"]),
  (0x0DC0, [
    "aSINHALA LETTER VAYANNApTAALUJA SAYANNApMUURDHAJA SAYANNApDANTAJA SAYANNApHAYANNA",
    "pMUURDHAJA LAYANNApFAYANNA"]),
  (0x0DCA, ["aSINHALA SIGN AL-LAKUNA"]),
  (0x0DCF, [
    "aSINHALA VOWEL SIGN AELA-PILLAtKETTI AEDA-PILLAtDIGA AEDA-PILLAtKETTI IS-PILLAtDIGA IS-PILLA",
    "tKETTI PAA-PILLA"]),
  (0x0DD6, ["aSINHALA VOWEL SIGN DIGA PAA-PILLA"]),
  (0x0DD8, [
    "aSINHALA VOWEL SIGN GAETTA-PILLAtKOMBUVAtDIGA KOMBUVAtKOMBU DEKAyVA HAA AELA-PILLA",
    "åDIGA AELA-PILLAåGAYANUKITTAtGAYANUKITTA"]),
  (0x0DE6, ["aSINHALA LITH DIGIT ZEROtONEtTWOuHREEtFOURuIVEtSIXuEVENtEIGHTtNINE"]),
  (0x0DF2, ["aSINHALA VOWEL SIGN DIGA GAETTA-PILLAàYANUKITTAiPUNCTUATION KUNDDALIYA"]),
  (0x0E01, [
    "aTHAI CHARACTER KO KAIqHO KHAIvUATvWAIvONtRAKHANGpNGO NGUpCHO CHANvINGvANGpSO SOpCHO CHOE",
    "pYO YINGpDO CHADApTO PATAKqHO THANtNANGMONTHOtPHUTHAOpNO NENpDO DEKpTO TAOqHO THUNGvAHANvONG",
    "pNO NUpBO BAIMAIpPO PLAqHO PHUNGpFO FApPHO PHANpFO FANpPHO SAMPHAOpMO MApYO YAKpRO RUAqU",
    "pLO LINGqUpWO WAENpSO SALAsRUSIsSUApHO HIPpLO CHULApO ANGpHO NOKHUKpPAIYANNOIpSARA A",
    "pMAI HAN-AKATpSARA AAvMuIvIuUEwEvvUpPHINTHU"]),
  (0x0E3F, [
    "aTHAI CURRENCY SYMBOL BAHTgHARACTER SARA EuAEuOuAI MAIMUANáALAIpLAKKHANGYAOpMAIYAMOKsTAIKHU",
    "s EKtTHOuRItCHATTAWApTHANTHAKHATpNIKHAHITpYAMAKKANpFONGMANfDIGIT ZEROlONElTWOmHREElFOURmIVE",
    "lSIXmEVENlEIGHTlNINEfCHARACTER ANGKHANKHUpKHOMUT"]),
  (0x0E81, ["aLAO LETTER KOmHO SUNG"]), (0x0E84, ["aLAO LETTER KHO TAM"]),
  (0x0E86, ["aLAO LETTER PALI GHAlNGOlCOlPALI CHAlSO TAM"]),
  (0x0E8C, [
    "aLAO LETTER PALI JHAlNYOlPALI NYAqTTAsHAqDDAsHAqNNAlDOlTOmHO SUNGpTAMlPALI DHAlNOlBOlPO",
    "mHO SUNGlFO TAMlPHO TAMlFO SUNGlPALI BHAlMOlYOlLO LING"]),
  (0x0EA5, ["aLAO LETTER LO LOOT"]),
  (0x0EA7, [
    "aLAO LETTER WOlSANSKRIT SHAvSAmO SUNGlHO SUNGlPALI LLAlOlHO TAMeELLIPSISeVOWEL SIGN A",
    "pMAI KANpAAqMpIqIpYqYpUqUeSIGN PALI VIRAMAeVOWEL SIGN MAI KONeSEMIVOWEL SIGN LOtNYO"]),
  (0x0EC0, ["aLAO VOWEL SIGN EqIpOpAYqI"]), (0x0EC6, ["aLAO KO LA"]),
  (0x0EC8, ["aLAO TONE MAI EKnTHOoInCATAWAeCANCELLATION MARKeNIGGAHITA"]),
  (0x0ED0, ["aLAO DIGIT ZEROkONEkTWOlHREEkFOURlIVEkSIXlEVENkEIGHTkNINE"]),
  (0x0EDC, ["aLAO HO NOhMOeLETTER KHMU GOqNYO"]),
  (0x0F00, [
    "aTIBETAN SYLLABLE OMiMARK GTER YIG MGO TRUNCATED Aà-UM RNAM BCAD MAäGTER TSHEG MA",
    "nINITIAL YIG MGO MDUN MAnCLOSING YIG MGO SGAB MAoARET YIG MGO PHUR SHAD MA",
    "nYIG MGO TSHEG SHAD MAnSBRUL SHADnBSKUR YIG MGOoKA- SHOG YIG MGOnINTERSYLLABIC TSHEG",
    "nDELIMITER TSHEG BSTARnSHADnNYIS SHADnTSHEG SHADnNYIS TSHEG SHADnRIN CHEN SPUNGS SHAD",
    "oGYA GRAM SHADnCARET -DZUD RTAGS ME LONG CANnGTER TSHEGiLOGOTYPE SIGN CHAD RTAGSwLHAG RTAGS",
    "iASTROLOGICAL SIGN SGRA GCAN -CHAR RTAGSà-KHYUD PAàSDONG TSHUGSiSIGN RDEL DKAR GCIGyNYISySUM",
    "sNAG GCIGxNYISsDKAR RDEL NAGiDIGIT ZEROoONEoTWOpHREEoFOURpIVEoSIXpEVENoEIGHToNINEoHALF ONE",
    "tTWOuHREEtFOURuIVEtSIXuEVENtEIGHTtNINEtZEROiMARK BSDUS RTAGSnNGAS BZUNG NYI ZLA",
    "nCARET -DZUD RTAGS BZHI MIG CANnNGAS BZUNG SGOR RTAGSnCHE MGOnTSA -PHRUnGUG RTAGS GYONzAS",
    "nANG KHANG GYONzASiSIGN YAR TSHESnMAR TSHESiLETTER KAqHApGAqHApNGApCAqHApJA"]),
  (0x0F49, [
    "aTIBETAN LETTER NYApTTArHApDDArHApNNApTAqHApDAqHApNApPAqHApBAqHApMApTSArHApDZArHApWApZHAqA",
    "p-ApYApRApLApSHAqSAqApHApApKSSApFIXED-FORM RApKKApRRA"]),
  (0x0F71, [
    "aTIBETAN VOWEL SIGN AAtIuItUuUtVOCALIC RâRáLâLtEuEtOuOiSIGN RJES SU NGA ROoNAM BCAD",
    "iVOWEL SIGN REVERSED IãIiSIGN NYI ZLA NAA DAnSNA LDANiMARK HALANTAnPALUTAiSIGN LCI RTAGS",
    "nYANG RTAGSnLCE TSA CANnMCHU CANnGRU CAN RGYINGSrMED RGYINGSnINVERTED MCHU CAN",
    "jUBJOINED SIGN LCE TSA CANxMCHU CANxINVERTED MCHU CANsLETTER KAàHAzGAàHAzNGAzCAàHAzJA"]),
  (0x0F99, [
    "aTIBETAN SUBJOINED LETTER NYAzTTAáHAzDDAáHAzNNAzTAàHAzDAàHAzNAzPAàHAzBAàHAzMAzTSAáHAzDZAáHA",
    "zWAzZHAàAz-AzYAzRAzLAzSHAàSAàAzHAzAzKSSAzFIXED-FORM WAêYAêRA"]),
  (0x0FBE, [
    "aTIBETAN KU RU KHAr BZHI MIG CANiCANTILLATION SIGN HEAVY BEATàLIGHT BEATàCANG TE-U",
    "àSBUB -CHALiSYMBOL DRIL BUpRDO RJEpPADMA GDANpRDO RJE RGYA GRAMpPHUR PApNOR BUv NYIS -KHYIL",
    "wGSUM -KHYILwBZHI -KHYIL"]),
  (0x0FCE, [
    "aTIBETAN SIGN RDEL NAG RDEL DKARwGSUMiMARK BSKA- SHOG GI MGO RGYANnMNYAM YIG GI MGO RGYAN",
    "nNYIS TSHEGnINITIAL BRDA RNYING YIG MGO MDUN MAnCLOSING BRDA RNYING YIG MGO SGAB MA",
    "aRIGHT-FACING SVASTI SIGNaLEFT-FACING SVASTI SIGNaRIGHT-FACING SVASTI SIGN WITH DOTS",
    "aLEFT-FACING SVASTI SIGN WITH DOTSaTIBETAN MARK LEADING MCHAN RTAGSnTRAILING MCHAN RTAGS"]),
  (0x1000, [
    "aMYANMAR LETTER KAqHApGAqHApNGApCAqHApJAqHApNYAqNYApTTArHApDDArHApNNApTAqHApDAqHApNApPAqHA",
    "pBAqHApMApYApRApLApWApSApHApLLApApSHAN ApIqIpUqUpEpMON EpOpAUiVOWEL SIGN TALL AAtAAtIuItUuU",
    "tEtAItMON IIxOtE ABOVEiSIGN ANUSVARAnDOT BELOWnVISARGApRAMAnASATiCONSONANT SIGN MEDIAL YAäRA",
    "äWAäHAiLETTER GREAT SAiDIGIT ZEROoONEoTWOpHREEoFOURpIVEoSIXpEVENoEIGHToNINE",
    "iSIGN LITTLE SECTIONnSECTIONjYMBOL LOCATIVEpCOMPLETEDpAFOREMENTIONEDpGENITIVEiLETTER SHAqSA",
    "pVOCALIC RyRxLyLiVOWEL SIGN VOCALIC RâRáLâLiLETTER MON NGAtJHAtBBAvE",
    "iCONSONANT SIGN MON MEDIAL NAèMAèLAiLETTER SGAW KAREN SHAiVOWEL SIGN SGAW KAREN EU",
    "iTONE MARK SGAW KAREN HATHIãKE PHOiLETTER WESTERN PWO KAREN THAçPWA",
    "iVOWEL SIGN WESTERN PWO KAREN EUëUEiSIGN WESTERN PWO KAREN TONE-1ê2ê3ê4ê5",
    "iLETTER EASTERN PWO KAREN NNAçYWAçGHWAiVOWEL SIGN GEBA KAREN ItKAYAH OEzUzEEiLETTER SHAN KA",
    "vHAuGAuCAuZAuNYAuDAuNAuPHAuFAuBAuTHAuHAiCONSONANT SIGN SHAN MEDIAL WAiVOWEL SIGN SHAN AAyE",
    "z ABOVEyFINAL YiSIGN SHAN TONE-2x3x5x6sCOUNCIL TONE-2å3àEMPHATIC TONE",
    "iLETTER RUMAI PALAUNG FAiSIGN RUMAI PALAUNG TONE-5jHAN DIGIT ZEROtONEtTWOuHREEtFOURuIVEtSIX",
    "uEVENtEIGHTtNINEjIGN KHAMTI TONE-1z3iVOWEL SIGN AITON AàIiSYMBOL SHAN ONEuEXCLAMATION",
    "aGEORGIAN CAPITAL LETTER ANyBANyGANyDONyENyVINyZENyTANyINyKANyLASyMANyNARyONyPARyZHARyRAE",
    "ySANyTARyUNyPHARyKHARyGHANyQARySHINyCHINzANyJILyCILzHARyXANyJHANyHAEzEzIEyWEyHARzOE"]),
  (0x10C7, ["aGEORGIAN CAPITAL LETTER YN"]), (0x10CD, ["aGEORGIAN CAPITAL LETTER AEN"]),
  (0x10D0, [
    "aGEORGIAN LETTER ANqBANqGANqDONqENqVINqZENqTANqINqKANqLASqMANqNARqONqPARqZHARqRAEqSANqTARqUN",
    "qPHARqKHARqGHANqQARqSHINqCHINrANqJILqCILrHARqXANqJHANqHAErErIEqWEqHARrOEqFIqYNqELIFI",
    "qTURNED GANqAINjPARAGRAPH SEPARATORaMODIFIER LETTER GEORGIAN NARaGEORGIAN LETTER AEN",
    "qHARD SIGNqLABIAL SIGNaHANGUL CHOSEONG KIYEOKqSSANGKIYEOKqNIEUNqTIKEUTqSSANGTIKEUTqRIEUL",
    "qMIEUMqPIEUPqSSANGPIEUPrIOSrSANGSIOSqIEUNGqCIEUCqSSANGCIEUCqCHIEUCHqKHIEUKHqTHIEUTHqPHIEUPH",
    "qHIEUHqNIEUN-KIYEOKqSSANGNIEUNqNIEUN-TIKEUTwPIEUPqTIKEUT-KIYEOKqRIEUL-NIEUNqSSANGRIEUL",
    "qRIEUL-HIEUHqKAPYEOUNRIEULqMIEUM-PIEUPqKAPYEOUNMIEUMqPIEUP-KIYEOKwNIEUNwTIKEUTwSIOSà-KIYEOK",
    "áTIKEUTáPIEUPxSANGSIOSxIOS-CIEUCwCIEUCxHIEUCHwTHIEUTHwPHIEUPHqKAPYEOUNPIEUPySSANGPIEUP",
    "qSIOS-KIYEOKvNIEUNvTIKEUTvRIEULvMIEUMvPIEUPà-KIYEOKvSSANGSIOSvIEUNGvCIEUCwHIEUCHvKHIEUKH",
    "vTHIEUTHvPHIEUPHvHIEUHqCHITUEUMSIOSzSANGSIOSrEONGCHIEUMSIOSâSANGSIOSqPANSIOSqIEUNG-KIYEOK",
    "wTIKEUTwMIEUMwPIEUPwSIOSwPANSIOSqSSANGIEUNGqIEUNG-CIEUCxHIEUCHwTHIEUTHwPHIEUPHqYESIEUNG",
    "qCIEUC-IEUNGrHITUEUMCIEUCySSANGCIEUCrEONGCHIEUMCIEUCáSSANGCIEUCrHIEUCH-KHIEUKHyHIEUH",
    "tTUEUMCHIEUCHrEONGCHIEUMCHIEUCHqPHIEUPH-PIEUPqKAPYEOUNPHIEUPHqSSANGHIEUHqYEORINHIEUH",
    "qKIYEOK-TIKEUTqNIEUN-SIOSwCIEUCwHIEUHqTIKEUT-RIEULqFILLERhJUNGSEONG FILLERrAsErYAtErEOsrYEOt",
    "rOrWAtErOErYOrUrWEOtsIrYUrEUrYIrIrA-OtUrYA-OuYOrEO-OuUuEUrYEO-OvUrO-EOutYEtOtUrYO-YAwEvEOuO",
    "uIrU-AuEtEO-EUtYEtUrYU-AuEOvuYEOwuUuIrEU-UuEUrYI-UrI-AtYAtOtUtEUtARAEArARAEAw-EOxUxI",
    "rSSANGARAEArA-EUrYA-UsEO-YArO-YAvEiONGSEONG KIYEOKrSSANGKIYEOKrKIYEOK-SIOSrNIEUNw-CIEUC",
    "xHIEUHrTIKEUTrRIEULw-KIYEOKxMIEUMxPIEUPxSIOSxTHIEUTHxPHIEUPHxHIEUHrMIEUMrPIEUPw-SIOSrSIOS",
    "sSANGSIOSrIEUNGrCIEUCsHIEUCHrKHIEUKHrTHIEUTHrPHIEUPHrHIEUHrKIYEOK-RIEULySIOS-KIYEOK",
    "rNIEUN-KIYEOKxTIKEUTxSIOSxPANSIOSxTHIEUTHrTIKEUT-KIYEOKyRIEULrRIEUL-KIYEOK-SIOSxNIEUNxTIKEUT",
    "ã-HIEUHrSSANGRIEULrRIEUL-MIEUM-KIYEOKãSIOSxPIEUP-SIOSãHIEUHxKAPYEOUNPIEUPxSSANGSIOSxPANSIOS",
    "xKHIEUKHxYEORINHIEUHrMIEUM-KIYEOKxRIEULxPIEUPxSIOSySANGSIOSxPANSIOSxCHIEUCHxHIEUH",
    "rKAPYEOUNMIEUMrPIEUP-RIEULxPHIEUPHxHIEUHrKAPYEOUNPIEUPrSIOS-KIYEOKwTIKEUTwRIEULwPIEUP",
    "rPANSIOSrIEUNG-KIYEOKxSSANGKIYEOKrSSANGIEUNGrIEUNG-KHIEUKHrYESIEUNGz-SIOSàPANSIOS",
    "rPHIEUPH-PIEUPrKAPYEOUNPHIEUPHrHIEUH-NIEUNxRIEULxMIEUMxPIEUPrYEORINHIEUHrKIYEOK-NIEUNyPIEUP",
    "yCHIEUCHyKHIEUKHyHIEUHrSSANGNIEUNaETHIOPIC SYLLABLE HAtUtItAAtEEutOuAsLAtUtItAAtEEutOtWAsHHA",
    "uUuIuAAuEEvuOuWAsMAtUtItAAtEEutOtWAsSZAuUuIuAAuEEvuOuWAsRAtUtItAAtEEutOtWAsSAtUtItAAtEEutO",
    "tWAtHAuUuIuAAuEEvuOuWAsQAtUtItAAtEEutOuAtWA"]),
  (0x124A, ["aETHIOPIC SYLLABLE QWIuAAuEEv"]), (0x1250, ["aETHIOPIC SYLLABLE QHAuUuIuAAuEEvuO"]),
  (0x1258, ["aETHIOPIC SYLLABLE QHWA"]), (0x125A, ["aETHIOPIC SYLLABLE QHWIvAAvEEw"]),
  (0x1260, [
    "aETHIOPIC SYLLABLE BAtUtItAAtEEutOtWAsVAtUtItAAtEEutOtWAsTAtUtItAAtEEutOtWAsCAtUtItAAtEEutO",
    "tWAsXAtUtItAAtEEutOuAtWA"]),
  (0x128A, ["aETHIOPIC SYLLABLE XWIuAAuEEv"]),
  (0x1290, [
    "aETHIOPIC SYLLABLE NAtUtItAAtEEutOtWAtYAuUuIuAAuEEvuOuWAsGLOTTAL AàUàIàAAàEEáàOàWAsKAtUtItAA",
    "tEEutOuAtWA"]),
  (0x12B2, ["aETHIOPIC SYLLABLE KWIuAAuEEv"]), (0x12B8, ["aETHIOPIC SYLLABLE KXAuUuIuAAuEEvuO"]),
  (0x12C0, ["aETHIOPIC SYLLABLE KXWA"]), (0x12C2, ["aETHIOPIC SYLLABLE KXWIvAAvEEw"]),
  (0x12C8, ["aETHIOPIC SYLLABLE WAtUtItAAtEEutOuAsPHARYNGEAL AãUãIãAAãEEäãO"]),
  (0x12D8, [
    "aETHIOPIC SYLLABLE ZAtUtItAAtEEutOtWAtHAuUuIuAAuEEvuOuWAsYAtUtItAAtEEutOuAsDAtUtItAAtEEutO",
    "tWAtDAuUuIuAAuEEvuOuWAsJAtUtItAAtEEutOtWAsGAtUtItAAtEEutOuAtWA"]),
  (0x1312, ["aETHIOPIC SYLLABLE GWIuAAuEEv"]),
  (0x1318, [
    "aETHIOPIC SYLLABLE GGAuUuIuAAuEEvuOuWAAsTHAuUuIuAAuEEvuOuWAsCHAuUuIuAAuEEvuOuWAsPHAuUuIuAA",
    "uEEvuOuWAsTSAuUuIuAAuEEvuOuWAtZAuUuIuAAuEEvuOvAsFAtUtItAAtEEutOtWAsPAtUtItAAtEEutOtWAsRYA",
    "sMYAsFYA"]),
  (0x135D, [
    "aETHIOPIC COMBINING GEMINATION AND VOWEL LENGTH MARKtVOWEL LENGTH MARKtGEMINATION MARK",
    "jSECTION MARKjWORDSPACEjFULL STOPjCOMMAjSEMICOLONjCOLONjPREFACE COLONjQUESTION MARK",
    "jPARAGRAPH SEPARATORjDIGIT ONEpTWOqHREEpFOURqIVEpSIXqEVENpEIGHTpNINEjNUMBER TENrWENTYrHIRTY",
    "qFORTYrIFTYqSIXTYrEVENTYqEIGHTYqNINETYqHUNDREDqTEN THOUSAND"]),
  (0x1380, [
    "aETHIOPIC SYLLABLE SEBATBEIT MWAsMWIuEEvsSEBATBEIT BWAsBWIuEEvsSEBATBEIT FWAsFWIuEEv",
    "sSEBATBEIT PWAsPWIuEEvjTONAL MARK YIZETuDERETuRIKRIKuSHORT RIKRIKuDIFATuKENATuCHIRETuHIDET",
    "uDERET-HIDETuKURT"]),
  (0x13A0, [
    "aCHEROKEE LETTER AqEqIqOqUqVqGAqKAqGErIrOrUrVqHArErIrOrUrVqLArErIrOrUrVqMArErIrOrUqNAqHNA",
    "qNAHrErIrOrUrVqQUAsEsIsOsUsVqSArrErIrOrUrVqDAqTAqDEqTEqDIqTIqDOrUrVrLAqTLAsEsIsOsUsVrSAsEsI",
    "sOsUsVqWArErIrOrUrVqYArErIrOrUrVqMV"]),
  (0x13F8, ["aCHEROKEE SMALL LETTER YExIxOxUxVwMV"]),
  (0x1400, [
    "aCANADIAN SYLLABICS HYPHENtEtAAItIuItOuOtY-CREE OOtCARRIER EEáItAuAtWEvST-CREE WEuI",
    "uEST-CREE WIuIIuEST-CREE WIIuOuEST-CREE WOuOOuEST-CREE WOOtNASKAPI WOOtWAuEST-CREE WAuAA",
    "uEST-CREE WAAtNASKAPI WAAtAItY-CREE WtGLOTTAL STOPtFINAL ACUTEzGRAVEzBOTTOM HALF RING",
    "zTOP HALF RINGzRIGHT HALF RINGáNGzDOUBLE ACUTEæSHORT VERTICAL STROKESzMIDDLE DOT",
    "zSHORT HORIZONTAL STROKEzPLUSzDOWN TACKtENtINtONtANtPEuAAIuIvIuOvOtY-CREE POOtCARRIER HEEâI",
    "tPAvAuWEtWEST-CREE PWEtPWItWEST-CREE PWItPWIItWEST-CREE PWIItPWOtWEST-CREE PWOtPWOO",
    "tWEST-CREE PWOOtPWAtWEST-CREE PWAtPWAAtWEST-CREE PWAAtY-CREE PWAAtPtWEST-CREE PtCARRIER HtTE",
    "uAAIuIvIuOvOtY-CREE TOOtCARRIER DEEâItTAvAuWEtWEST-CREE TWEtTWItWEST-CREE TWItTWII",
    "tWEST-CREE TWIItTWOtWEST-CREE TWOtTWOOtWEST-CREE TWOOtTWAtWEST-CREE TWAtTWAAtWEST-CREE TWAA",
    "tNASKAPI TWAAtTuTEvIvOvAtKEuAAIuIvIuOvOtY-CREE KOOtKAvAuWEtWEST-CREE KWEtKWItWEST-CREE KWI",
    "tKWIItWEST-CREE KWIItKWOtWEST-CREE KWOtKWOOtWEST-CREE KWOOtKWAtWEST-CREE KWAtKWAA",
    "tWEST-CREE KWAAtNASKAPI KWAAtKuWtSOUTH-SLAVEY KEHçIHçOHçAHtCEuAAIuIvIuOvOtY-CREE COOtCAvAuWE",
    "tWEST-CREE CWEtCWItWEST-CREE CWItCWIItWEST-CREE CWIItCWOtWEST-CREE CWOtCWOOtWEST-CREE CWOO",
    "tCWAtWEST-CREE CWAtCWAAtWEST-CREE CWAAtNASKAPI CWAAtCtSAYISI THtMEuAAIuIvIuOvOtY-CREE MOOtMA",
    "vAuWEtWEST-CREE MWEtMWItWEST-CREE MWItMWIItWEST-CREE MWIItMWOtWEST-CREE MWOtMWOO",
    "tWEST-CREE MWOOtMWAtWEST-CREE MWAtMWAAtWEST-CREE MWAAtNASKAPI MWAAtMtWEST-CREE MtMH",
    "tATHAPASCAN MtSAYISI MtNEuAAIuIvIuOvOtY-CREE NOOtNAvAuWEtWEST-CREE NWEtNWAtWEST-CREE NWA",
    "tNWAAtWEST-CREE NWAAtNASKAPI NWAAutCARRIER NGtNHtLEuAAIuIvIuOvOtY-CREE LOOtLAvAuWE",
    "tWEST-CREE LWEtLWItWEST-CREE LWItLWIItWEST-CREE LWIItLWOtWEST-CREE LWOtLWOOtWEST-CREE LWOO",
    "tLWAtWEST-CREE LWAtLWAAtWEST-CREE LWAAtLtWEST-CREE LtMEDIAL LtSEuAAIuIvIuOvOtY-CREE SOOtSAvA",
    "uWEtWEST-CREE SWEtSWItWEST-CREE SWItSWIItWEST-CREE SWIItSWOtWEST-CREE SWOtSWOO",
    "tWEST-CREE SWOOtSWAtWEST-CREE SWAtSWAAtWEST-CREE SWAAtNASKAPI SWAAtStATHAPASCAN StSW",
    "tBLACKFOOT StMOOSE-CREE SKtNASKAPI SKWâ-WâPWAâTWAâKWAâCWAtSHEvIwIvOwOvAwAvWEtWEST-CREE SHWE",
    "tSHWItWEST-CREE SHWItSHWIItWEST-CREE SHWIItSHWOtWEST-CREE SHWOtSHWOOtWEST-CREE SHWOOtSHWA",
    "tWEST-CREE SHWAtSHWAAtWEST-CREE SHWAAtSHtYEuAAIuIvIuOvOu-CREE YOOuAvAuWEtWEST-CREE YWEtYWI",
    "tWEST-CREE YWItYWIItWEST-CREE YWIItYWOtWEST-CREE YWOtYWOOtWEST-CREE YWOOtYWAtWEST-CREE YWA",
    "tYWAAtWEST-CREE YWAAtNASKAPI YWAAtYtBIBLE-CREE YtWEST-CREE YtSAYISI YItREu-CREE RE",
    "tWEST-CREE LEtRAAIuIvIuOvOtWEST-CREE LOtRAvAtWEST-CREE LAtRWAAtWEST-CREE RWAAtRtWEST-CREE R",
    "tMEDIAL RtFEuAAIuIvIuOvOuAvAuWAAtWEST-CREE FWAAtFtTHEtN-CREE THEtTHItN-CREE THItTHII",
    "tN-CREE THIItTHOwOvAwAvWAAtWEST-CREE THWAAtTHuTHEwIwOwAwuYEvIvOvAtNUNAVIK HEâIãIâOãOâAãAâ",
    "yUT HtHKtQAAIuIvIuOvOuAvAutTLHEwIwOwAtWEST-CREE REäIäOäAtNGAAIvIwIvOwOvAwAvuNGtSAYISI SHEâI",
    "âOâAtWOODS-CREE THEæIæOæAætLHIwIvOwOvAwAvtTH-CREE THEãIäIãOäOãAäAãtAIVILIK BtBLACKFOOT EãIãO",
    "ãAãWEäIäOäAãNEäIäOäAãKEäIäOäAtSAYISI HEáIáOáAtCARRIER GHUãOãEäEãIãAáRUâOâEãEâIâAáWUâOâEãEâI",
    "âAáHWUãOãEäEãIãAáTHUãOãEäEãIãAâTUãOãEäEãIãAáPUâOâEãEâIâAâáGUâOâEãEâIâAáKHUãOãEäEãIãAâKUãOãE",
    "äEãIãAãáNUâOâEãEâIâAáMUâOâEãEâIâAáYUâOâEãEâIâAáJUtSAYISI JUtCARRIER JOâEãEâItSAYISI JI",
    "tCARRIER JAâJUãOãEäEãIãAáLUâOâEãEâIâAáDLUãOãEäEãIãAáLHUãOãEäEãIãAáTLHUäOäEåEäIäAãUãOãEäEãIãA",
    "áZUâOâEãEâIâAâáINITIAL ZáDZUãOãEäEãIãAáSUâOâEãEâIâAâHUãOãEäEãIãAãáTSUãOãEäEãIãAáCHUãOãEäEãI",
    "ãAáTTSUäOäEåEäIäAuHI SIGNtFULL STOPtQAItNGAIuNGIxIwOxOwAxAtWOODS-CREE THWEEçIèIçOèOçAèA",
    "äFINAL THtBLACKFOOT WaOGHAM SPACE MARKgLETTER BEITHnLUISnFEARNnSAILnNIONnUATHnDAIRnTINNE",
    "nCOLLoEIRTnMUINnGORTnNGEADALnSTRAIFnRUISnAILMnONNnURnEADHADHnIODHADHnEABHADHnORnUILLEANN",
    "nIFINnEAMHANCHOLLnPEITHgFEATHER MARKgREVERSED FEATHER MARK"]),
  (0x16A0, [
    "aRUNIC LETTER FEHU FEOH FE FnVnURUZ UR UnYRonWnTHURISAZ THURS THORNnETHnANSUZ AnOS OnAC A",
    "oESCnLONG-BRANCH-OSS OnSHORT-TWIG-OSS OnOoEoNnRAIDO RAD REID RnKAUNAnCENnKAUN KnGnENG",
    "nGEBO GYFU GoARnWUNJO WYNN WnHAGLAZ HpEGL HnLONG-BRANCH-HAGALL HnSHORT-TWIG-HAGALL H",
    "nNAUDIZ NYD NAUD NnSHORT-TWIG-NAUD NnDOTTED-NnISAZ IS ISS InEnJERAN JnGERnLONG-BRANCH-AR AE",
    "nSHORT-TWIG-AR AnIWAZ EOHnPERTHO PEORTH PnALGIZ EOLHXnSOWILO SoIGEL LONG-BRANCH-SOL S",
    "oHORT-TWIG-SOL SnCnZnTIWAZ TIR TYR TnSHORT-TWIG-TYR TnDnBERKANAN BEORC BJARKAN B",
    "nSHORT-TWIG-BJARKAN BnDOTTED-PnOPEN-PnEHWAZ EH EnMANNAZ MAN MnLONG-BRANCH-MADR M",
    "nSHORT-TWIG-MADR MnLAUKAZ LAGU LOGR LnDOTTED-LnINGWAZqnDAGAZ DAEG DnOTHALAN ETHEL OnEARnIOR",
    "nCWEORTHoALCoEALCnSTANnLONG-BRANCH-YRnSHORT-TWIG-YRnICELANDIC-YRnQnXgSINGLE PUNCTUATION",
    "gMULTIPLE PUNCTUATIONgCROSS PUNCTUATIONgARLAUG SYMBOLgTVIMADUR SYMBOLgBELGTHOR SYMBOL",
    "gLETTER KnSHnOOnFRANKS CASKET OSáISáEHáACâESC"]),
  (0x1700, [
    "aTAGALOG LETTER ApIpUpKApGApNGApTApDApNApPApBApMApYApRApLApWApSApHAiVOWEL SIGN ItU",
    "iSIGN VIRAMAnPAMUDPOD"]),
  (0x171F, [
    "aTAGALOG LETTER ARCHAIC RAaHANUNOO LETTER ApIpUpKApGApNGApTApDApNApPApBApMApYApRApLApWApSA",
    "pHAiVOWEL SIGN ItUiSIGN PAMUDPODaPHILIPPINE SINGLE PUNCTUATIONlDOUBLE PUNCTUATION"]),
  (0x1740, [
    "aBUHID LETTER AnInUnKAnGAnNGAnTAnDAnNAnPAnBAnMAnYAnRAnLAnWAnSAnHAgVOWEL SIGN IrU"]),
  (0x1760, ["aTAGBANWA LETTER AqIqUqKAqGAqNGAqTAqDAqNAqPAqBAqMAqYA"]),
  (0x176E, ["aTAGBANWA LETTER LAqWAqSA"]), (0x1772, ["aTAGBANWA VOWEL SIGN IuU"]),
  (0x1780, [
    "aKHMER LETTER KAoHAoOoHOnNGOnCAoHAoOoHOnNYOnDAnTTHAnDOnTTHOnNNOnTAoHAoOoHOnNOnBAnPHAoOoHOnMO",
    "nYOnROnLOnVOnSHAoSOoAnHAnLAnQAgINDEPENDENT VOWEL QAQàAzIàIzUàKàUáVyRYàYyLYàYyQEzAI",
    "zOO TYPE ONEçTWOzAUgVOWEL INHERENT AQwAmSIGN AArIsIrYsYrUsUsArOErYArIErErAEsIrOOrAU",
    "gSIGN NIKAHITlREAHMUKlYUUKALEAPINTUlMUUSIKATOANlTRIISAPlBANTOClROBATlTOANDAKHIATlKAKABAT",
    "lAHSDAlSAMYOK SANNYAlVIRIAMlCOENGlBATHAMASATlKHANlBARIYOOSANlCAMNUC PII KUUHlLEK TOOlBEYYAL",
    "lPHNAEK MUANlKOOMUUTgCURRENCY SYMBOL RIELgSIGN AVAKRAHASANYAmTTHACAN"]),
  (0x17E0, ["aKHMER DIGIT ZEROmONEmTWOnHREEmFOURnIVEmSIXnEVENmEIGHTmNINE"]),
  (0x17F0, ["aKHMER SYMBOL LEK ATTAK SONxMUOYxPIIxBEIyUONxPRAMá-MUOYâPIIâBEIãUON"]),
  (0x1800, [
    "aMONGOLIAN BIRGAkELLIPSISkCOMMAkFULL STOPkCOLONkFOUR DOTSkTODO SOFT HYPHEN",
    "kSIBE SYLLABLE BOUNDARY MARKERkMANCHU COMMArFULL STOPkNIRUGUkFREE VARIATION SELECTOR ONEèTWO",
    "éHREEkVOWEL SEPARATORkFREE VARIATION SELECTOR FOURkDIGIT ZEROqONEqTWOrHREEqFOURrIVEqSIXrEVEN",
    "qEIGHTqNINE"]),
  (0x1820, [
    "aMONGOLIAN LETTER ArErIrOrUrOErUErEErNArANGrBArPArQArGArMArLArSAsHArTArDArCHArJArYArRArWArFA",
    "rKAsHArTSArZArHAArZRArLHArZHIrCHIrTODO LONG VOWEL SIGNwEwIwOwUwOEwUEwANGwBAwPAwQAwGAwMAwTA",
    "wDAwCHAwJAwTSAwYAwWAwKAwGAAwHAAwJIAwNIAwDZArSIBE EwIxYwUExwANGwKAwGAwHAwPAwSHAwTAwDAwJAwFA",
    "wGAAwHAAwTSAwZAwRAAwCHAwZHArMANCHU IyKAyRAyFAyZHArCHA WITH TWO DOTS"]),
  (0x1880, [
    "aMONGOLIAN LETTER ALI GALI ANUSVARA ONEàVISARGA ONEàDAMARUàUBADAMAàINVERTED UBADAMAàBALUDA",
    "àTHREE BALUDAàAàIàKAàNGAàCAàTTAâHAàDDAàNNAàTAàDAàPAáHAàSSAàZHAáAàAHrTODO ALI GALI TAåZHA",
    "rMANCHU ALI GALI GHAçNGAçCAçJHAçTTAçDDHAçTAçDHAçSSAçCYAçZHAèArALI GALI HALF UåYA",
    "rMANCHU ALI GALI BHArALI GALI DAGALGArMANCHU ALI GALI LHA"]),
  (0x18B0, [
    "aCANADIAN SYLLABICS OYtAYuAYtWAYtPOYuAYuWOYtTAYtKAYuWAYtMAYtNOYuAYtLAYtSOYuAYuHOYvAYvWOYtYOY",
    "uAYtRAYtNWItOJIBWAY NWItNWIItOJIBWAY NWIItNWOtOJIBWAY NWOtNWOOtOJIBWAY NWOOtRWEEvIwIvOwOvA",
    "tOJIBWAY PáTáKáCáMáNáSâHtEASTERN WtWESTERN WtFINAL SMALL RINGzRAISED DOTtR-CREE RWE",
    "tWEST-CREE LOOäAAtTHWEwAuTHWEwOOwAAuLHWEwOOtSAYISI SHWEâOOàHOOtCARRIER GWUáDENE GEEáGAAâWA",
    "tSAYISI JUUtCARRIER JWAtBEAVER DENE LåRtCARRIER DENTAL S"]),
  (0x1900, [
    "aLIMBU VOWEL-CARRIER LETTERgLETTER KAoHAnGAoHAnNGAnCAoHAnJAoHAnYANnTAoHAnDAoHAnNAnPAoHAnBA",
    "oHAnMAnYAnRAnLAnWAnSHAoSAoAnHAnGYANnTRA"]),
  (0x1920, ["aLIMBU VOWEL SIGN ArIrUrEErAIrOOrAUrErOgSUBJOINED LETTER YAxRAxWA"]),
  (0x1930, [
    "aLIMBU SMALL LETTER KAtNGAtANUSVARAtTAtNAtPAtMAtRAtLAhIGN MUKPHRENGlKEMPHRENGlSA-I"]),
  (0x1940, ["aLIMBU SIGN LOO"]),
  (0x1944, [
    "aLIMBU EXCLAMATION MARKgQUESTION MARKgDIGIT ZEROmONEmTWOnHREEmFOURnIVEmSIXnEVENmEIGHTmNINE",
    "aTAI LE LETTER KAoXAoNGAoTSAoSAoYAoTApHAoLAoPApHAoMAoFAoVAoHAoQAoKHAoTSHAoNAoAoIoEEpHoUoOOp",
    "oUEoEoAUEpI"]),
  (0x1970, ["aTAI LE LETTER TONE-2t3t4t5t6"]),
  (0x1980, [
    "aNEW TAI LUE LETTER HIGH QAtLOW QAtHIGH KAyXAyNGAtLOW KAxXAxNGAtHIGH TSAySAyYAtLOW TSAxSAxYA",
    "tHIGH TAzHAyNAtLOW TAyHAxNAtHIGH PAzHAyMAtLOW PAyHAxMAtHIGH FAyVAyLAtLOW FAxVAxLAtHIGH HAyDA",
    "yBAtLOW HAxDAxBAtHIGH KVAyXVAtLOW KVAxXVAtHIGH SUAtLOW SUA"]),
  (0x19B0, [
    "aNEW TAI LUE VOWEL SIGN VOWEL SHORTENERxAAxIIxUyUxExAExOyAxUExAYyAYxUYxOYyAYxUEYxIY",
    "mLETTER FINAL VzNGàzMzKzDzBmTONE MARK-1w2"]),
  (0x19D0, [
    "aNEW TAI LUE DIGIT ZEROsONEsTWOtHREEsFOURtIVEsSIXtEVENsEIGHTsNINEmTHAM DIGIT ONE"]),
  (0x19DE, [
    "aNEW TAI LUE SIGN LAEuVaKHMER SYMBOL PATHAMASATnMUOY KOETnPII KOETnBEI KOEToUON KOET",
    "nPRAM KOETr-MUOY KOETsPII KOETsBEI KOETtUON KOETnDAP KOETq-MUOY KOETrPII KOETrBEI KOET",
    "sUON KOETrPRAM KOETnTUTEYASATnMUOY ROCnPII ROCnBEI ROCoUON ROCnPRAM ROCr-MUOY ROCsPII ROC",
    "sBEI ROCtUON ROCnDAP ROCq-MUOY ROCrPII ROCrBEI ROCsUON ROCrPRAM ROCaBUGINESE LETTER KAqGA",
    "qNGAsKAqPAqBAqMArPAqTAqDAqNArRAqCAqJAqNYAsCAqYAqRAqLAqVAqSAqAqHAjVOWEL SIGN IuUuEuOuAE"]),
  (0x1A1E, [
    "aBUGINESE PALLAWAjEND OF SECTIONaTAI THAM LETTER HIGH KAwHAwXAqLOW KAvXAvHAqNGAqHIGH CAwHA",
    "qLOW CAuSAuCHAqNYAqRATAqHIGH RATHAqDAqLOW RATHAqRANAqHIGH TAwHAqLOW TAvHAqNAqBAqHIGH PAwHA",
    "vFAqLOW PAuFAuPHAqMAqLOW YAqHIGH YAqRArUEqLArUEqWAqHIGH SHAwSAwAvHAqLLAqAqLOW HAqIrIqUrUqEE",
    "qOOqLAEqGREAT SAjCONSONANT SIGN MEDIAL RAåLAyLA TANG LAIjSIGN MAI KANG LAI",
    "jCONSONANT SIGN FINAL NGAyLOW PAyHIGH RATHA OR LOW PAyMAyBAySA"]),
  (0x1A60, [
    "aTAI THAM SIGN SAKOTjVOWEL SIGN AuMAI SATuAAuTALL AAuIvIuUEvUEvvUuOvA BELOWvYuEuAEuOOuAI",
    "uTHAM AIuOA ABOVEjSIGN MAI KANGoTONE-1t2oKHUEN TONE-3z4z5oRA HAAMoMAI SAMoKHUEN-LUE KARAN"]),
  (0x1A7F, [
    "aTAI THAM COMBINING CRYPTOGRAMMIC DOTjHORA DIGIT ZEROuONEuTWOvHREEuFOURvIVEuSIXvEVENuEIGHT",
    "uNINE"]),
  (0x1A90, ["aTAI THAM THAM DIGIT ZEROuONEuTWOvHREEuFOURvIVEuSIXvEVENuEIGHTuNINE"]),
  (0x1AA0, [
    "aTAI THAM SIGN WIANGtWAAKoSAWANoKEOWoHOYoDOKMAIoREVERSED ROTATED RANAoMAI YAMOKoKAANsKUU",
    "oSATKAANvKUUoHANGoCAANG"]),
  (0x1AB0, [
    "aCOMBINING DOUBLED CIRCUMFLEX ACCENTlIAERESIS-RINGkINFINITYkDOWNWARDS ARROWkTRIPLE DOT",
    "kX-X BELOWkWIGGLY LINE BELOWkOPEN MARK BELOWkDOUBLE OPEN MARK BELOW",
    "kLIGHT CENTRALIZATION STROKE BELOWkSTRONG CENTRALIZATION STROKE BELOWkPARENTHESES ABOVE",
    "kDOUBLE PARENTHESES ABOVEkPARENTHESES BELOWwOVERLAYkLATIN SMALL LETTER W BELOW",
    "ãTURNED W BELOWlEFT PARENTHESIS ABOVE LEFTkRIGHT PARENTHESIS ABOVE RIGHT",
    "kLEFT PARENTHESIS BELOW LEFTkRIGHT PARENTHESIS BELOW RIGHTkSQUARE BRACKETS ABOVE",
    "kNUMBER SIGN ABOVEkINVERTED DOUBLE ARCH ABOVEkPLUS SIGN ABOVEkDOUBLE PLUS SIGN ABOVEáBELOW",
    "kTRIPLE ACUTE ACCENTkLATIN SMALL LETTER INSULAR GëRëT"]),
  (0x1B00, [
    "aBALINESE SIGN ULU RICEMsCANDRAoCECEKoSURANGoBISAHjLETTER AKARAv TEDUNGqIKARAv TEDUNGqUKARA",
    "v TEDUNGqRA REPAx TEDUNGqLA LENGAy TEDUNGqEKARAqAIKARAqOKARAv TEDUNGqKAs MAHAPRANAqGAs GORA",
    "qNGAqCAs LACAqJAs JERAqNYAqTA LATIKtMURDA MAHAPRANAqDA MURDA ALPAPRANAzMAHAPRANAqNA RAMBAT",
    "qTAs TAWAqDAs MADUqNAqPAs KAPALqBAs KEMBANGqMAqYAqRAqLAqWAqSA SAGAvPAsqHAjSIGN REREKAN",
    "jVOWEL SIGN TEDUNGuULUx SARIuSUKUy ILUTuRA REPAá TEDUNGuLA LENGAâ TEDUNGuTALINGà REPAáTEDUNG",
    "áREPA TEDUNGuPEPETz TEDUNGjADEG ADEGjLETTER KAF SASAKrHOT SASAKqTZIR SASAKqEF SASAKqVE SASAK",
    "qZAL SASAKqASYURA SASAKrRCHAIC JNYA"]),
  (0x1B50, [
    "aBALINESE DIGIT ZEROpONEpTWOqHREEpFOURqIVEpSIXqEVENpEIGHTpNINEjPANTIlMADAjWINDU",
    "jCARIK PAMUNGKAHpSIKIpPARERENjPAMENENGjMUSICAL SYMBOL DONGzENGzUNGzANGâ SURANGzINGzAENGzEUNG",
    "zAINGàNG GEDEyCOMBINING TEGEHèENDEPèKEMPULìLIèJEGOGANèKEMPUL WITH JEGOGANìLI WITH JEGOGAN",
    "èBENDEèGONGyRIGHT-HAND OPEN DUGïAGéCLOSED TUKñAKyLEFT-HAND OPEN PANGîUNGèCLOSED PLAKñUK",
    "èOPEN PINGjPANTI LANTANGlMADA LANTANG"]),
  (0x1B80, [
    "aSUNDANESE SIGN PANYECEKsGLAYARtWISADkLETTER ArIrUrAErOrEsUrKArQArGArNGArCArJArZArNYArTArDA",
    "rNArPArFArVArBArMArYArRArLArWArSArXArHAkCONSONANT SIGN PAMINGKALáNYAKRAãIKU",
    "kVOWEL SIGN PANGHULUyYUKUyAELAENGyOLONGxMEPETxNEULEUNGkSIGN PAMAAEHpVIRAMA",
    "kCONSONANT SIGN PASANGAN MAèWAkLETTER KHArSYAkDIGIT ZEROqONEqTWOrHREEqFOURrIVEqSIXrEVEN",
    "qEIGHTqNINEkAVAGRAHAkLETTER REUrLEUrBHArFINAL KxMaBATAK LETTER AnSIMALUNGUN AnHA",
    "nSIMALUNGUN HAnMANDAILING HAnBAnKARO BAnPAnSIMALUNGUN PAnNAnMANDAILING NAnWAnSIMALUNGUN WA",
    "nPAKPAK WAnGAnSIMALUNGUN GAnJAnDAnRAnSIMALUNGUN RAnMAnSIMALUNGUN MAoOUTHERN TAnNORTHERN TA",
    "nSAoIMALUNGUN SAnMANDAILING SAnYAnSIMALUNGUN YAnNGAnLAnSIMALUNGUN LAnNYAnCAnNDAnMBAnInU",
    "gSIGN TOMPIgVOWEL SIGN ErPAKPAK ErEErIrKARO IrOrKARO OrUs FOR SIMALUNGUN SA",
    "gCONSONANT SIGN NGvHgPANGOLATjONGONAN"]),
  (0x1BFC, [
    "aBATAK SYMBOL BINDU NA METEKtPINARBORAStJUDULtPANGOLATaLEPCHA LETTER KApLApHAoGApLAoNGAoCA",
    "pHAoJAoNYAoTApHAoDAoNAoPApLApHAoFApLAoBApLAoMApLAoTSAqHAoDZAoYAoRAoLAoHApLAoVAoSApHAoWAoA",
    "hSUBJOINED LETTER YAyRAhVOWEL SIGN AAsIsOtOsUtUsEhCONSONANT SIGN KwMwLwNwPwRwTwNYIN-DOwKANG",
    "hSIGN RANmNUKTA"]),
  (0x1C3B, [
    "aLEPCHA PUNCTUATION TA-ROLtNYET THYOOM TA-ROLtCER-WAtTSHOOK CER-WAzhDIGIT ZEROnONEnTWOoHREE",
    "nFOURoIVEnSIXoEVENnEIGHTnNINE"]),
  (0x1C4D, [
    "aLEPCHA LETTER TTAqHAoDDAaOL CHIKI DIGIT ZEROpONEpTWOqHREEpFOURqIVEpSIXqEVENpEIGHTpNINE",
    "jLETTER LAqATrGrNGrLqLAAqAAKsJsMsWqLIqISrHrNYrRqLUqUCrDrNNrYqLEqEPrDDrNrRRqLOqOTTrBrVrH",
    "jMU TTUDDAGjGAAHLAA TTUDDAAGjMU-GAAHLAA TTUDDAAGjRELAAjPHAARKAAjAHADjPUNCTUATION MUCAAD",
    "vDOUBLE MUCAADaCYRILLIC SMALL LETTER ROUNDED VEwLONG-LEGGED DEwNARROW OwWIDE ESwTALL TE",
    "xHREE-LEGGED TExALL HARD SIGNáYATwUNBLENDED UK"]),
  (0x1C90, [
    "aGEORGIAN MTAVRULI CAPITAL LETTER ANçBANçGANçDONçENçVINçZENçTANçINçKANçLASçMANçNARçONçPAR",
    "çZHARçRAEçSANçTARçUNçPHARçKHARçGHANçQARçSHINçCHINèANçJILçCILèHARçXANçJHANçHAEèEèIEçWEçHARèOE",
    "çFIçYNçELIFIçTURNED GANçAIN"]),
  (0x1CBD, [
    "aGEORGIAN MTAVRULI CAPITAL LETTER AENçHARD SIGNçLABIAL SIGN",
    "aSUNDANESE PUNCTUATION BINDU SURYAâPANGLONGãURNAMAâCAKRAâLEU SATANGAâKA SATANGAâDA SATANGA",
    "âBA SATANGA"]),
  (0x1CD0, [
    "aVEDIC TONE KARSHANAlSHARAlPRENKHAgSIGN NIHSHVASAlYAJURVEDIC MIDLINE SVARITA",
    "gTONE YAJURVEDIC AGGRAVATED INDEPENDENT SVARITAwINDEPENDENT SVARITA",
    "wKATHAKA INDEPENDENT SVARITAlCANDRA BELOWlYAJURVEDIC KATHAKA INDEPENDENT SVARITA SCHROEDER",
    "lDOUBLE SVARITAlTRIPLE SVARITAlKATHAKA ANUDATTAlDOT BELOWlTWO DOTS BELOWmHREE DOTS BELOW",
    "lRIGVEDIC KASHMIRI INDEPENDENT SVARITAlATHARVAVEDIC INDEPENDENT SVARITAgSIGN VISARGA SVARITA",
    "tUDATTAlREVERSED VISARGA UDATTAlVISARGA ANUDATTAlREVERSED VISARGA ANUDATTA",
    "lVISARGA UDATTA WITH TAILtANUDATTA WITH TAILlANUSVARA ANTARGOMUKHAuBAHIRGOMUKHAuVAMAGOMUKHA",
    "å WITH TAILlTIRYAKlHEXIFORM LONG ANUSVARAlLONG ANUSVARAlRTHANG LONG ANUSVARA",
    "lANUSVARA UBHAYATO MUKHAmRDHAVISARGAlROTATED ARDHAVISARGAgTONE CANDRA ABOVEgSIGN JIHVAMULIYA",
    "lUPADHMANIYAlATIKRAMAgTONE RING ABOVElDOUBLE RING ABOVEgSIGN DOUBLE ANUSVARA ANTARGOMUKHA"])]

end ToolBindings.Text
