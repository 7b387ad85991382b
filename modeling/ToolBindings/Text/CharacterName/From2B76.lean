/-!
# Character names from U+2B76 to U+1029C

The names of Unicode 14.0, in the form that `NameBlock` describes.
-/
namespace ToolBindings.Text

/-- The names from U+2B76 to U+1029C. -/
def characterNamesFrom2B76 : List (Nat × List String) := [
  (0x2B76, [
    "aNORTH WEST TRIANGLE-HEADED ARROW TO BARgEAST TRIANGLE-HEADED ARROW TO BAR",
    "aSOUTH EAST TRIANGLE-HEADED ARROW TO BARgWEST TRIANGLE-HEADED ARROW TO BAR",
    "aLEFTWARDS TRIANGLE-HEADED ARROW WITH DOUBLE HORIZONTAL STROKE",
    "aUPWARDS TRIANGLE-HEADED ARROW WITH DOUBLE HORIZONTAL STROKE",
    "aRIGHTWARDS TRIANGLE-HEADED ARROW WITH DOUBLE HORIZONTAL STROKE",
    "aDOWNWARDS TRIANGLE-HEADED ARROW WITH DOUBLE HORIZONTAL STROKEaHORIZONTAL TAB KEY",
    "aVERTICAL TAB KEYaLEFTWARDS TRIANGLE-HEADED ARROW OVER RIGHTWARDS TRIANGLE-HEADED ARROW",
    "aUPWARDS TRIANGLE-HEADED ARROW LEFTWARDS OF DOWNWARDS TRIANGLE-HEADED ARROW",
    "aRIGHTWARDS TRIANGLE-HEADED ARROW OVER LEFTWARDS TRIANGLE-HEADED ARROW",
    "aDOWNWARDS TRIANGLE-HEADED ARROW LEFTWARDS OF UPWARDS TRIANGLE-HEADED ARROW",
    "aLEFTWARDS TRIANGLE-HEADED PAIRED ARROWSaUPWARDS TRIANGLE-HEADED PAIRED ARROWS",
    "aRIGHTWARDS TRIANGLE-HEADED PAIRED ARROWSaDOWNWARDS TRIANGLE-HEADED PAIRED ARROWS",
    "aLEFTWARDS BLACK CIRCLED WHITE ARROWaUPWARDS BLACK CIRCLED WHITE ARROW",
    "aRIGHTWARDS BLACK CIRCLED WHITE ARROWaDOWNWARDS BLACK CIRCLED WHITE ARROW",
    "aANTICLOCKWISE TRIANGLE-HEADED RIGHT U-SHAPED ARROWäBOTTOM U-SHAPED ARROW",
    "äLEFT U-SHAPED ARROWäTOP U-SHAPED ARROWaRETURN LEFThRIGHTaNEWLINE LEFTiRIGHT",
    "aFOUR CORNER ARROWS CIRCLING ANTICLOCKWISEaRIGHTWARDS BLACK ARROW"]),
  (0x2B97, [
    "aSYMBOL FOR TYPE A ELECTRONICSaTHREE-D TOP-LIGHTED LEFTWARDS EQUILATERAL ARROWHEAD",
    "iRIGHT-LIGHTED UPWARDS EQUILATERAL ARROWHEADiTOP-LIGHTED RIGHTWARDS EQUILATERAL ARROWHEAD",
    "iLEFT-LIGHTED DOWNWARDS EQUILATERAL ARROWHEADaBLACK LEFTWARDS EQUILATERAL ARROWHEAD",
    "gUPWARDS EQUILATERAL ARROWHEADgRIGHTWARDS EQUILATERAL ARROWHEAD",
    "gDOWNWARDS EQUILATERAL ARROWHEADaDOWNWARDS TRIANGLE-HEADED ARROW WITH LONG TIP LEFTWARDS",
    "ôRIGHTWARDSaUPWARDS TRIANGLE-HEADED ARROW WITH LONG TIP LEFTWARDSòRIGHTWARDS",
    "aLEFTWARDS TRIANGLE-HEADED ARROW WITH LONG TIP UPWARDS",
    "aRIGHTWARDS TRIANGLE-HEADED ARROW WITH LONG TIP UPWARDS",
    "aLEFTWARDS TRIANGLE-HEADED ARROW WITH LONG TIP DOWNWARDS",
    "aRIGHTWARDS TRIANGLE-HEADED ARROW WITH LONG TIP DOWNWARDS",
    "aBLACK CURVED DOWNWARDS AND LEFTWARDS ARROWáRIGHTWARDS ARROWnUPWARDS AND LEFTWARDS ARROW",
    "zRIGHTWARDS ARROWnLEFTWARDS AND UPWARDS ARROWnRIGHTWARDS AND UPWARDS ARROW",
    "nLEFTWARDS AND DOWNWARDS ARROWnRIGHTWARDS AND DOWNWARDS ARROWaRIBBON ARROW DOWN LEFTsRIGHT",
    "nUP LEFTqRIGHTnLEFT UPnRIGHT UPnLEFT DOWNnRIGHT DOWN",
    "aUPWARDS WHITE ARROW FROM BAR WITH HORIZONTAL BARc ARROWHEAD IN A RECTANGLE BOX",
    "aOVERLAPPING WHITE SQUARESsAND BLACK SQUARESmBLACK SQUARESaBALLOT BOX WITH LIGHT XaCIRCLED X",
    "iBOLD XaBLACK SQUARE CENTREDgDIAMOND CENTREDaTURNED BLACK PENTAGONaHORIZONTAL BLACK OCTAGON",
    "aBLACK OCTAGONgMEDIUM UP-POINTING TRIANGLE CENTREDnDOWN-POINTING TRIANGLE CENTRED",
    "nLEFT-POINTING TRIANGLE CENTREDnRIGHT-POINTING TRIANGLE CENTREDaNEPTUNE FORM TWO",
    "aTOP HALF BLACK CIRCLEaBOTTOM HALF BLACK CIRCLEaLIGHT FOUR POINTED BLACK CUSP",
    "aROTATED LIGHT FOUR POINTED BLACK CUSPaWHITE FOUR POINTED CUSP",
    "aROTATED WHITE FOUR POINTED CUSPaSQUARE POSITION INDICATORaUNCERTAINTY SIGNaGROUP MARK",
    "aPLUTO FORM TWOmHREElFOURmIVEaTRANSPLUTOaPROSERPINAaASTRAEAaHYGIEAaPHOLUSaNESSUS",
    "aWHITE MOON SELENAaBLACK DIAMOND ON CROSSaTRUE LIGHT MOON ARTAaCUPIDOaHADESaZEUSaKRONOS",
    "aAPOLLONbDMETOSaVULCANUSaPOSEIDONaLEFT HALF BLACK STARaRIGHT HALF BLACK STAR",
    "aSTAR WITH LEFT HALF BLACKkRIGHT HALF BLACK",
    "aLEFTWARDS TWO-HEADED ARROW WITH TRIANGLE ARROWHEADS",
    "aUPWARDS TWO-HEADED ARROW WITH TRIANGLE ARROWHEADS",
    "aRIGHTWARDS TWO-HEADED ARROW WITH TRIANGLE ARROWHEADS",
    "aDOWNWARDS TWO-HEADED ARROW WITH TRIANGLE ARROWHEADSaERIS FORM ONEkTWOaSEDNA",
    "aRUSSIAN ASTROLOGICAL SYMBOL VIGINTILEâNOVILEâQUINTILEâBINOVILEâSENTAGONâTREDECILE",
    "aEQUALS SIGN WITH INFINITY BELOWaUNITED SYMBOLaSEPARATED SYMBOLaDOUBLED SYMBOLaPASSED SYMBOL",
    "aREVERSED RIGHT ANGLEaHELLSCHREIBER PAUSE SYMBOLaGLAGOLITIC CAPITAL LETTER AZUàBUKYàVEDE",
    "àGLAGOLIàDOBROàYESTUàZHIVETEàDZELOàZEMLJAàIZHEáNITIAL IZHEáàDJERVIàKAKOàLJUDIJEàMYSLITE",
    "àNASHIàONUàPOKOJIàRITSIàSLOVOàTVRIDOàUKUàFRITUàHERUàOTUàPEàSHTAàTSIàCHRIVIàSHAàYERUãIáATI",
    "àSPIDERY HAàYUàSMALL YUSé WITH TAILàYOàIOTATED SMALL YUSàBIG YUSàIOTATED BIG YUSàFITA",
    "àIZHITSAàSHTAPICàTROKUTASTI AàLATINATE MYSLITEàCAUDATE CHRIVIlSMALL LETTER AZUyBUKYyVEDE",
    "yGLAGOLIyDOBROyYESTUyZHIVETEyDZELOyZEMLJAyIZHEzNITIAL IZHEzyDJERVIyKAKOyLJUDIJEyMYSLITE",
    "yNASHIyONUyPOKOJIyRITSIySLOVOyTVRIDOyUKUyFRITUyHERUyOTUyPEySHTAyTSIyCHRIVIySHAyYERUáIzATI",
    "ySPIDERY HAyYUySMALL YUSç WITH TAILyYOyIOTATED SMALL YUSyBIG YUSyIOTATED BIG YUSyFITA",
    "yIZHITSAySHTAPICyTROKUTASTI AyLATINATE MYSLITEyCAUDATE CHRIVI",
    "aLATIN CAPITAL LETTER L WITH DOUBLE BARgSMALL LETTER L WITH DOUBLE BAR",
    "gCAPITAL LETTER L WITH MIDDLE TILDEvP WITH STROKEvR WITH TAILgSMALL LETTER A WITH STROKE",
    "tT WITH DIAGONAL STROKEgCAPITAL LETTER H WITH DESCENDERgSMALL LETTER H WITH DESCENDER",
    "gCAPITAL LETTER K WITH DESCENDERgSMALL LETTER K WITH DESCENDER",
    "gCAPITAL LETTER Z WITH DESCENDERgSMALL LETTER Z WITH DESCENDERgCAPITAL LETTER ALPHA",
    "vM WITH HOOKvTURNED AãLPHAgSMALL LETTER V WITH RIGHT HOOKgCAPITAL LETTER W WITH HOOK",
    "gSMALL LETTER W WITH HOOKtV WITH CURLgCAPITAL LETTER HALF HgSMALL LETTER HALF HtTAILLESS PHI",
    "tE WITH NOTCHtTURNED R WITH TAILtO WITH LOW RING INSIDEgLETTER SMALL CAPITAL TURNED E",
    "gSUBSCRIPT SMALL LETTER JaMODIFIER LETTER CAPITAL VaLATIN CAPITAL LETTER S WITH SWASH TAIL",
    "vZ WITH SWASH TAILaCOPTIC CAPITAL LETTER ALFAhSMALL LETTER ALFAhCAPITAL LETTER VIDA",
    "hSMALL LETTER VIDAhCAPITAL LETTER GAMMAhSMALL LETTER GAMMAhCAPITAL LETTER DALDA",
    "hSMALL LETTER DALDAhCAPITAL LETTER EIEhSMALL LETTER EIEhCAPITAL LETTER SOUhSMALL LETTER SOU",
    "hCAPITAL LETTER ZATAhSMALL LETTER ZATAhCAPITAL LETTER HATEhSMALL LETTER HATE",
    "hCAPITAL LETTER THETHEhSMALL LETTER THETHEhCAPITAL LETTER IAUDAhSMALL LETTER IAUDA",
    "hCAPITAL LETTER KAPAhSMALL LETTER KAPAhCAPITAL LETTER LAULAhSMALL LETTER LAULA",
    "hCAPITAL LETTER MIhSMALL LETTER MIhCAPITAL LETTER NIhSMALL LETTER NIhCAPITAL LETTER KSI",
    "hSMALL LETTER KSIhCAPITAL LETTER OhSMALL LETTER OhCAPITAL LETTER PIhSMALL LETTER PI",
    "hCAPITAL LETTER ROhSMALL LETTER ROhCAPITAL LETTER SIMAhSMALL LETTER SIMAhCAPITAL LETTER TAU",
    "hSMALL LETTER TAUhCAPITAL LETTER UAhSMALL LETTER UAhCAPITAL LETTER FIhSMALL LETTER FI",
    "hCAPITAL LETTER KHIhSMALL LETTER KHIhCAPITAL LETTER PSIhSMALL LETTER PSIhCAPITAL LETTER OOU",
    "hSMALL LETTER OOUhCAPITAL LETTER DIALECT-P ALEFhSMALL LETTER DIALECT-P ALEF",
    "hCAPITAL LETTER OLD COPTIC AINhSMALL LETTER OLD COPTIC AINhCAPITAL LETTER CRYPTOGRAMMIC EIE",
    "hSMALL LETTER CRYPTOGRAMMIC EIEhCAPITAL LETTER DIALECT-P KAPAhSMALL LETTER DIALECT-P KAPA",
    "hCAPITAL LETTER DIALECT-P NIhSMALL LETTER DIALECT-P NIhCAPITAL LETTER CRYPTOGRAMMIC NI",
    "hSMALL LETTER CRYPTOGRAMMIC NIhCAPITAL LETTER OLD COPTIC OOUhSMALL LETTER OLD COPTIC OOU",
    "hCAPITAL LETTER SAMPIhSMALL LETTER SAMPIhCAPITAL LETTER CROSSED SHEI",
    "hSMALL LETTER CROSSED SHEIhCAPITAL LETTER OLD COPTIC SHEIhSMALL LETTER OLD COPTIC SHEI",
    "hCAPITAL LETTER OLD COPTIC ESHhSMALL LETTER OLD COPTIC ESHhCAPITAL LETTER AKHMIMIC KHEI",
    "hSMALL LETTER AKHMIMIC KHEIhCAPITAL LETTER DIALECT-P HORIhSMALL LETTER DIALECT-P HORI",
    "hCAPITAL LETTER OLD COPTIC HORIhSMALL LETTER OLD COPTIC HORIhCAPITAL LETTER OLD COPTIC HA",
    "hSMALL LETTER OLD COPTIC HAhCAPITAL LETTER L-SHAPED HAhSMALL LETTER L-SHAPED HA",
    "hCAPITAL LETTER OLD COPTIC HEIhSMALL LETTER OLD COPTIC HEIhCAPITAL LETTER OLD COPTIC HAT",
    "hSMALL LETTER OLD COPTIC HAThCAPITAL LETTER OLD COPTIC GANGIAhSMALL LETTER OLD COPTIC GANGIA",
    "hCAPITAL LETTER OLD COPTIC DJAhSMALL LETTER OLD COPTIC DJAhCAPITAL LETTER OLD COPTIC SHIMA",
    "hSMALL LETTER OLD COPTIC SHIMAhCAPITAL LETTER OLD NUBIAN SHIMAhSMALL LETTER OLD NUBIAN SHIMA",
    "hCAPITAL LETTER OLD NUBIAN NGIhSMALL LETTER OLD NUBIAN NGIhCAPITAL LETTER OLD NUBIAN NYI",
    "hSMALL LETTER OLD NUBIAN NYIhCAPITAL LETTER OLD NUBIAN WAUhSMALL LETTER OLD NUBIAN WAU",
    "iYMBOL KAIoMI ROoPI ROoSTAUROSoTAU ROoKHI ROoSHIMA SIMAhCAPITAL LETTER CRYPTOGRAMMIC SHEI",
    "hSMALL LETTER CRYPTOGRAMMIC SHEIhCAPITAL LETTER CRYPTOGRAMMIC GANGIA",
    "hSMALL LETTER CRYPTOGRAMMIC GANGIAhCOMBINING NI ABOVErSPIRITUS ASPERàLENIS",
    "iAPITAL LETTER BOHAIRIC KHEIhSMALL LETTER BOHAIRIC KHEI"]),
  (0x2CF9, [
    "aCOPTIC OLD NUBIAN FULL STOPsDIRECT QUESTION MARKsINDIRECT QUESTION MARKsVERSE DIVIDER",
    "hFRACTION ONE HALFiULL STOPhMORPHOLOGICAL DIVIDERaGEORGIAN SMALL LETTER ANwBANwGANwDONwEN",
    "wVINwZENwTANwINwKANwLASwMANwNARwONwPARwZHARwRAEwSANwTARwUNwPHARwKHARwGHANwQARwSHINwCHINxAN",
    "wJILwCILxHARwXANwJHANwHAExExIEwWEwHARxOE"]),
  (0x2D27, ["aGEORGIAN SMALL LETTER YN"]), (0x2D2D, ["aGEORGIAN SMALL LETTER AEN"]),
  (0x2D30, [
    "aTIFINAGH LETTER YAsBtHsGtHHqBERBER ACADEMY YAJqYAJsDtHtDuHrEYrAFsKqTUAREG YAKqYAKHHsH",
    "qBERBER ACADEMY YAHqTUAREG YAHqYAHHsAsKHqTUAREG YAKHqYAQqTUAREG YAQqYIrAZHqAHAGGAR YAZH",
    "qTUAREG YAZHqYALsMsNqTUAREG YAGNzNGqYAPrUrARtRsGHqTUAREG YAGHqAYER YAGHqYAStStHsTtHsCHsTTsV",
    "sWsYsZqTAWELLEMET YAZqYAZZrErO"]),
  (0x2D6F, ["aTIFINAGH MODIFIER LETTER LABIALIZATION MARKjSEPARATOR MARK"]),
  (0x2D7F, [
    "aTIFINAGH CONSONANT JOINERaETHIOPIC SYLLABLE LOAsMOAsROAsSOAtHOAsBOAsTOAsCOAsNOAtYOA",
    "sGLOTTAL OAsZOAsDOAtDOAsJOAsTHOAsCHOAsPHOAtOAsGGWAvIvEEw"]),
  (0x2DA0, ["aETHIOPIC SYLLABLE SSAuUuIuAAuEEvuO"]),
  (0x2DA8, ["aETHIOPIC SYLLABLE CCAuUuIuAAuEEvuO"]),
  (0x2DB0, ["aETHIOPIC SYLLABLE ZZAuUuIuAAuEEvuO"]),
  (0x2DB8, ["aETHIOPIC SYLLABLE CCHAvUvIvAAvEEwvO"]),
  (0x2DC0, ["aETHIOPIC SYLLABLE QYAuUuIuAAuEEvuO"]),
  (0x2DC8, ["aETHIOPIC SYLLABLE KYAuUuIuAAuEEvuO"]),
  (0x2DD0, ["aETHIOPIC SYLLABLE XYAuUuIuAAuEEvuO"]),
  (0x2DD8, ["aETHIOPIC SYLLABLE GYAuUuIuAAuEEvuO"]),
  (0x2DE0, [
    "aCOMBINING CYRILLIC LETTER BEàVEàGHEàDEàZHEáEàKAàELáMáNàOàPEàERáSàTEàHAàTSEàCHEàSHAâCHAàFITA",
    "àES-TEàAàIEàDJERVàMONOGRAPH UKàYATáUàIOTIFIED AàLITTLE YUSàBIG YUSàIOTIFIED BIG YUS",
    "aRIGHT ANGLE SUBSTITUTION MARKERmDOTTED SUBSTITUTION MARKERaLEFT SUBSTITUTION BRACKET",
    "aRIGHT SUBSTITUTION BRACKETaLEFT DOTTED SUBSTITUTION BRACKET",
    "aRIGHT DOTTED SUBSTITUTION BRACKETbAISED INTERPOLATION MARKERhDOTTED INTERPOLATION MARKER",
    "aDOTTED TRANSPOSITION MARKERaLEFT TRANSPOSITION BRACKETaRIGHT TRANSPOSITION BRACKET",
    "bAISED SQUAREaLEFT RAISED OMISSION BRACKETaRIGHT RAISED OMISSION BRACKETaEDITORIAL CORONIS",
    "aPARAGRAPHOSaFORKED PARAGRAPHOSaREVERSED FORKED PARAGRAPHOSaHYPODIASTOLEaDOTTED OBELOS",
    "cWNWARDS ANCORAaUPWARDS ANCORAaDOTTED RIGHT-POINTING ANGLEcUBLE OBLIQUE HYPHEN",
    "aINVERTED INTERROBANGaPALM BRANCHaHYPHEN WITH DIAERESISaTILDE WITH RING ABOVE",
    "aLEFT LOW PARAPHRASE BRACKETaRIGHT LOW PARAPHRASE BRACKETaTILDE WITH DOT ABOVEpBELOW",
    "aLEFT VERTICAL BAR WITH QUILLaRIGHT VERTICAL BAR WITH QUILLaTOP LEFT HALF BRACKET",
    "eRIGHT HALF BRACKETaBOTTOM LEFT HALF BRACKEThRIGHT HALF BRACKETaLEFT SIDEWAYS U BRACKET",
    "aRIGHT SIDEWAYS U BRACKETaLEFT DOUBLE PARENTHESISaRIGHT DOUBLE PARENTHESIS",
    "aTWO DOTS OVER ONE DOT PUNCTUATIONaONE DOT OVER TWO DOTS PUNCTUATION",
    "aSQUARED FOUR DOT PUNCTUATIONaFIVE DOT MARKaREVERSED QUESTION MARKaVERTICAL TILDEaRING POINT",
    "aWORD SEPARATOR MIDDLE DOTaTURNED COMMAaRAISED DOThCOMMAaTURNED SEMICOLON",
    "aDAGGER WITH LEFT GUARDmRIGHT GUARDaTURNED DAGGERbOP HALF SECTION SIGNbWO-EM DASH",
    "bHREE-EM DASHaSTENOGRAPHIC FULL STOPaVERTICAL SIX DOTSaWIGGLY VERTICAL LINEaCAPITULUM",
    "aDOUBLE HYPHENaREVERSED COMMAaDOUBLE LOW-REVERSED-9 QUOTATION MARKbASH WITH LEFT UPTURN",
    "bOUBLE SUSPENSION MARKaINVERTED LOW KAVYKAt WITH KAVYKA ABOVEaLOW KAVYKAk WITH DOT",
    "aDOUBLE STACKED COMMAcTTED SOLIDUSaTRIPLE DAGGERaMEDIEVAL COMMAaPARAGRAPHUS MARK",
    "bUNCTUS ELEVATUS MARKaCORNISH VERSE DIVIDERbROSS PATTY WITH RIGHT CROSSBARrLEFT CROSSBAR",
    "aTIRONIAN SIGN CAPITAL ETaMEDIEVAL EXCLAMATION MARKjQUESTION MARK",
    "aLEFT SQUARE BRACKET WITH STROKEaRIGHT SQUARE BRACKET WITH STROKE",
    "aLEFT SQUARE BRACKET WITH DOUBLE STROKEaRIGHT SQUARE BRACKET WITH DOUBLE STROKE",
    "aTOP HALF LEFT PARENTHESISjRIGHT PARENTHESISaBOTTOM HALF LEFT PARENTHESISmRIGHT PARENTHESIS",
    "aOBLIQUE HYPHEN"]),
  (0x2E80, [
    "aCJK RADICAL REPEATmCLIFFmSECOND ONEtTWOuHREEmPERSONmBOXmTABLEmKNIFE ONEsTWOmDIVINATIONmSEAL",
    "nMALL ONEsTWOmLAME ONErTWOsHREErFOURmSNAKEmTHREADmSNOUT ONEsTWOmHEART ONEsTWOnANDmRAP"]),
  (0x2E9B, [
    "aCJK RADICAL CHOKEmSUNmMOONmDEATHmMOTHERmCIVILIANmWATER ONEsTWOmFIREmPAW ONEqTWO",
    "mSIMPLIFIED HALF TREE TRUNKmCOWmDOGmJADEmBOLT OF CLOTHmEYEmSPIRIT ONEtTWOmBAMBOOmSILK",
    "mC-SIMPLIFIED SILKmNET ONEqTWOrHREEqFOURmMESHmSHEEPmRAMmEWEmOLDmBRUSH ONEsTWOmMEATnORTAR",
    "mGRASS ONEsTWOtHREEmTIGERmCLOTHESmWEST ONErTWOmC-SIMPLIFIED SEEmSIMPLIFIED HORNmHORN",
    "mC-SIMPLIFIED SPEECHàHELLmFOOTmC-SIMPLIFIED CARTmSIMPLIFIED WALKmWALK ONErTWOmCITY",
    "n-SIMPLIFIED GOLDmLONG ONErTWOmC-SIMPLIFIED LONGzGATEmMOUND ONEsTWOmRAINmBLUE",
    "mC-SIMPLIFIED TANNED LEATHERzLEAFzWINDzFLYmEAT ONEqTWOrHREEmC-SIMPLIFIED EATmHEAD",
    "mC-SIMPLIFIED HORSEmBONEmGHOSTmC-SIMPLIFIED FISHzBIRDzSALTmSIMPLIFIED WHEATxYELLOW",
    "mC-SIMPLIFIED FROGmJ-SIMPLIFIED EVENmC-SIMPLIFIED EVENmJ-SIMPLIFIED TOOTHmC-SIMPLIFIED TOOTH",
    "mJ-SIMPLIFIED DRAGONmC-SIMPLIFIED DRAGONmTURTLEmJ-SIMPLIFIED TURTLEmC-SIMPLIFIED TURTLE"]),
  (0x2F00, [
    "aKANGXI RADICAL ONEpLINEpDOTpSLASHqECONDpHOOKpTWOpLIDpMANpLEGSpENTERqIGHTpDOWN BOXpCOVERpICE",
    "pTABLEpOPEN BOXpKNIFEpPOWERpWRAPpSPOONpRIGHT OPEN BOXpHIDING ENCLOSUREpTENpDIVINATIONpSEAL",
    "pCLIFFpPRIVATEpAGAINpMOUTHpENCLOSUREqARTHpSCHOLARpGOr SLOWLYpEVENINGpBIGpWOMANpCHILDpROOF",
    "pINCHpSMALLpLAMEpCORPSEpSPROUTpMOUNTAINpRIVERpWORKpONESELFpTURBANpDRYpSHORT THREAD",
    "pDOTTED CLIFFpLONG STRIDEpTWO HANDSpSHOOTpBOWpSNOUTpBRISTLEpSTEPpHEARTqALBERDpDOORpHAND",
    "pBRANCHpRAPpSCRIPTpDIPPERpAXEpSQUAREpNOTpSUNqAYpMOONpTREEpLACKpSTOPpDEATHpWEAPONpDO NOT",
    "pCOMPAREpFURpCLANpSTEAMpWATERpFIREpCLAWpFATHERpDOUBLE XpHALF TREE TRUNKpSLICEpFANGpCOWpDOG",
    "pPROFOUNDpJADEpMELONpTILEpSWEETpLIFEpUSEpFIELDpBOLT OF CLOTHpSICKNESSpDOTTED TENTpWHITEpSKIN",
    "pDISHpEYEpSPEARpARROWpSTONEqPIRITpTRACKpGRAINpCAVEpSTANDpBAMBOOpRICEpSILKpJARpNETpSHEEP",
    "pFEATHERpOLDpANDpPLOWpEARpBRUSHpMEATqINISTERpSELFpARRIVEpMORTARpTONGUEpOPPOSEpBOATpSTOPPING",
    "pCOLORpGRASSpTIGERpINSECTpBLOODpWALK ENCLOSUREpCLOTHESpWESTpSEEpHORNpSPEECHpVALLEYpBEANpPIG",
    "pBADGERpSHELLpREDqUNpFOOTpBODYpCARTpBITTERpMORNINGpWALKpCITYpWINEpDISTINGUISHpVILLAGEpGOLD",
    "pLONGpGATEpMOUNDpSLAVEqHORT TAILED BIRDpRAINpBLUEpWRONGpFACEpLEATHERpTANNED LEATHERpLEEK",
    "pSOUNDpLEAFpWINDpFLYpEATpHEADpFRAGRANTpHORSEpBONEpTALLpHAIRpFIGHTpSACRIFICIAL WINEpCAULDRON",
    "pGHOSTpFISHpBIRDpSALTpDEERpWHEATpHEMPpYELLOWpMILLETpBLACKpEMBROIDERYpFROGpTRIPODpDRUMpRAT",
    "pNOSEpEVENpTOOTHpDRAGONpTURTLEpFLUTE"]),
  (0x2FF0, [
    "aIDEOGRAPHIC DESCRIPTION CHARACTER LEFT TO RIGHTèABOVE TO BELOWèLEFT TO MIDDLE AND RIGHT",
    "èABOVE TO MIDDLE AND BELOWèFULL SURROUNDèSURROUND FROM ABOVEöBELOWöLEFTöUPPER LEFTøPER RIGHT",
    "öLOWER LEFTèOVERLAID"]),
  (0x3000, [
    "aIDEOGRAPHIC SPACEmCOMMAmFULL STOPaDITTO MARKaJAPANESE INDUSTRIAL STANDARD SYMBOL",
    "aIDEOGRAPHIC ITERATION MARKmCLOSING MARKmNUMBER ZEROaLEFT ANGLE BRACKETaRIGHT ANGLE BRACKET",
    "aLEFT DOUBLE ANGLE BRACKETaRIGHT DOUBLE ANGLE BRACKETaLEFT CORNER BRACKET",
    "aRIGHT CORNER BRACKETaLEFT WHITE CORNER BRACKETaRIGHT WHITE CORNER BRACKET",
    "aLEFT BLACK LENTICULAR BRACKETaRIGHT BLACK LENTICULAR BRACKETaPOSTAL MARKaGETA MARK",
    "aLEFT TORTOISE SHELL BRACKETaRIGHT TORTOISE SHELL BRACKETaLEFT WHITE LENTICULAR BRACKET",
    "aRIGHT WHITE LENTICULAR BRACKETaLEFT WHITE TORTOISE SHELL BRACKET",
    "aRIGHT WHITE TORTOISE SHELL BRACKETaLEFT WHITE SQUARE BRACKETaRIGHT WHITE SQUARE BRACKET",
    "aWAVE DASHaREVERSED DOUBLE PRIME QUOTATION MARKaDOUBLE PRIME QUOTATION MARK",
    "aLOW DOUBLE PRIME QUOTATION MARKaPOSTAL MARK FACEaHANGZHOU NUMERAL ONErTWOsHREErFOURsIVErSIX",
    "sEVENrEIGHTrNINEaIDEOGRAPHIC LEVEL TONE MARKmRISING TONE MARKmDEPARTING TONE MARK",
    "mENTERING TONE MARKaHANGUL SINGLE DOT TONE MARKhDOUBLE DOT TONE MARKaWAVY DASH",
    "aVERTICAL KANA REPEAT MARKvWITH VOICED SOUND MARKvMARK UPPER HALF",
    "vWITH VOICED SOUND MARK UPPER HALFvMARK LOWER HALFaCIRCLED POSTAL MARK",
    "aIDEOGRAPHIC TELEGRAPH LINE FEED SEPARATOR SYMBOLaHANGZHOU NUMERAL TENsWENTYsHIRTY",
    "aVERTICAL IDEOGRAPHIC ITERATION MARKaMASU MARKaPART ALTERNATION MARK",
    "aIDEOGRAPHIC VARIATION INDICATORmHALF FILL SPACE"]),
  (0x3041, [
    "aHIRAGANA LETTER SMALL AqAqSMALL IqIqSMALL UqUqSMALL EqEqSMALL OqOqKAqGAqKIqGIqKUqGUqKEqGE",
    "qKOqGOqSAqZAqSIqZIqSUqZUqSEqZEqSOqZOqTAqDAqTIqDIqSMALL TUqTUqDUqTEqDEqTOqDOqNArIrUrErOqHAqBA",
    "qPAqHIqBIqPIqHUqBUqPUqHEqBEqPEqHOqBOqPOqMArIrUrErOqSMALL YAqYAqSMALL YUqYUqSMALL YOqYOqRArI",
    "rUrErOqSMALL WAqWArIrErOqNqVUqSMALL KAxE"]),
  (0x3099, [
    "aCOMBINING KATAKANA-HIRAGANA VOICED SOUND MARKâSEMI-VOICED SOUND MARK",
    "aKATAKANA-HIRAGANA VOICED SOUND MARKsSEMI-VOICED SOUND MARKaHIRAGANA ITERATION MARK",
    "jVOICED ITERATION MARKjDIGRAPH YORIaKATAKANA-HIRAGANA DOUBLE HYPHENi LETTER SMALL AqA",
    "qSMALL IqIqSMALL UqUqSMALL EqEqSMALL OqOqKAqGAqKIqGIqKUqGUqKEqGEqKOqGOqSAqZAqSIqZIqSUqZUqSE",
    "qZEqSOqZOqTAqDAqTIqDIqSMALL TUqTUqDUqTEqDEqTOqDOqNArIrUrErOqHAqBAqPAqHIqBIqPIqHUqBUqPUqHEqBE",
    "qPEqHOqBOqPOqMArIrUrErOqSMALL YAqYAqSMALL YUqYUqSMALL YOqYOqRArIrUrErOqSMALL WAqWArIrErOqN",
    "qVUqSMALL KAxEqVArIrErOjMIDDLE DOTi-HIRAGANA PROLONGED SOUND MARKi ITERATION MARK",
    "jVOICED ITERATION MARKjDIGRAPH KOTO"]),
  (0x3105, [
    "aBOPOMOFO LETTER BqPqMqFqDqTqNqLqGqKqHqJqQqXqZHqCHqSHqRqZqCqSqAqOqErHqAIqEIqAUqOUqANqENqANG",
    "qENGrRqIqUqIUqVqNGqGNqIHqO WITH DOT ABOVEqNN"]),
  (0x3131, [
    "aHANGUL LETTER KIYEOKoSSANGKIYEOKoKIYEOK-SIOSoNIEUNt-CIEUCuHIEUHoTIKEUToSSANGTIKEUToRIEUL",
    "t-KIYEOKuMIEUMuPIEUPuSIOSuTHIEUTHuPHIEUPHuHIEUHoMIEUMoPIEUPoSSANGPIEUPoPIEUP-SIOSoSIOS",
    "pSANGSIOSoIEUNGoCIEUCoSSANGCIEUCoCHIEUCHoKHIEUKHoTHIEUTHoPHIEUPHoHIEUHoApEoYAqEoEOpoYEOqoO",
    "oWAqEoOEoYOoUoWEOqpIoYUoEUoYIoIhFILLERhLETTER SSANGNIEUNoNIEUN-TIKEUTuSIOSuPANSIOS",
    "oRIEUL-KIYEOK-SIOSuTIKEUTuPIEUP-SIOSvANSIOSuYEORINHIEUHoMIEUM-PIEUPuSIOSuPANSIOS",
    "oKAPYEOUNMIEUMoPIEUP-KIYEOKuTIKEUTuSIOS-KIYEOKzTIKEUTuCIEUCuTHIEUTHoKAPYEOUNPIEUPwSSANGPIEUP",
    "oSIOS-KIYEOKtNIEUNtTIKEUTtPIEUPtCIEUCoPANSIOSoSSANGIEUNGoYESIEUNGw-SIOSxPANSIOS",
    "oKAPYEOUNPHIEUPHoSSANGHIEUHoYEORINHIEUHpO-YAtErIpU-YEOtrIoARAEAtE"]),
  (0x3190, [
    "aIDEOGRAPHIC ANNOTATION LINKING MARKxREVERSE MARKxONE MARKxTWO MARKyHREE MARKxFOUR MARK",
    "xTOP MARKxMIDDLE MARKxBOTTOM MARKxFIRST MARKxSECOND MARKxTHIRD MARKxFOURTH MARKxHEAVEN MARK",
    "xEARTH MARKxMAN MARKaBOPOMOFO LETTER BUqZIqJIqGUqEErNNqOOrNNqIRqANNqINNqUNNqIMqNGGqAINNrUNN",
    "rMqOMrNGqINNNjFINAL LETTER PwTwKwHjLETTER GHqLHqZYjFINAL LETTER GjLETTER GWqKWqOEqAH",
    "aCJK STROKE TlWGlXGlBXGlSWlHZZnGmPmZWGlSZWGlHZTnZPmPWGmZWnZZlNlHlSlPlSPlDlHZmGlSZmWZmTmGlPD",
    "mZlTNlSZZmWGlHXWGmZZZGlPGlQ"]),
  (0x31F0, [
    "aKATAKANA LETTER SMALL KUwSIxUwTOwNUwHAxIxUxExOwMUwRAxIxUxExOaPARENTHESIZED HANGUL KIYEOK",
    "vNIEUNvTIKEUTvRIEULvMIEUMvPIEUPvSIOSvIEUNGvCIEUCwHIEUCHvKHIEUKHvTHIEUTHvPHIEUPHvHIEUH",
    "vKIYEOK AvNIEUN AvTIKEUT AvRIEUL AvMIEUM AvPIEUP AvSIOS AvIEUNG AvCIEUC AwHIEUCH AvKHIEUKH A",
    "vTHIEUTH AvPHIEUPH AvHIEUH AvCIEUC UoKOREAN CHARACTER OJEONæ HU"]),
  (0x3220, [
    "aPARENTHESIZED IDEOGRAPH ONEyTWOzHREEyFOURzIVEySIXzEVENyEIGHTyNINEyTENyMOONyFIREyWATERzOOD",
    "yMETALyEARTHySUNzTOCKyHAVEySOCIETYyNAMEySPECIALyFINANCIALyCONGRATULATIONyLABORyREPRESENT",
    "yCALLySTUDYzUPERVISEyENTERPRISEyRESOURCEyALLIANCEyFESTIVALyRESTySELFyREACH",
    "aCIRCLED IDEOGRAPH QUESTIONsKINDERGARTENsSCHOOLsKOTOiNUMBER TEN ON BLACK SQUARE",
    "qWENTY ON BLACK SQUAREqHIRTY ON BLACK SQUAREpFORTY ON BLACK SQUAREqIFTY ON BLACK SQUARE",
    "pSIXTY ON BLACK SQUAREqEVENTY ON BLACK SQUAREpEIGHTY ON BLACK SQUAREaPARTNERSHIP SIGN",
    "aCIRCLED NUMBER TWENTY ONEwTWOxHREEwFOURxIVEwSIXxEVENwEIGHTwNINEqHIRTYv ONEwTWOxHREEwFOUR",
    "xIVEiHANGUL KIYEOKpNIEUNpTIKEUTpRIEULpMIEUMpPIEUPpSIOSpIEUNGpCIEUCqHIEUCHpKHIEUKHpTHIEUTH",
    "pPHIEUPHpHIEUHpKIYEOK ApNIEUN ApTIKEUT ApRIEUL ApMIEUM ApPIEUP ApSIOS ApIEUNG ApCIEUC A",
    "qHIEUCH ApKHIEUKH ApTHIEUTH ApPHIEUPH ApHIEUH AiKOREAN CHARACTER CHAMKOzJUEUIiHANGUL IEUNG U",
    "aKOREAN STANDARD SYMBOLaCIRCLED IDEOGRAPH ONEsTWOtHREEsFOURtIVEsSIXtEVENsEIGHTsNINEsTENsMOON",
    "sFIREsWATERtOODsMETALsEARTHsSUNtTOCKsHAVEsSOCIETYsNAMEsSPECIALsFINANCIALsCONGRATULATION",
    "sLABORsSECRETsMALEsFEMALEsSUITABLEsEXCELLENTsPRINTsATTENTIONsITEMsRESTsCOPYuRRECTsHIGH",
    "sCENTREsLOWtEFTsRIGHTsMEDICINEsRELIGIONsSTUDYtUPERVISEsENTERPRISEsRESOURCEsALLIANCEsNIGHT",
    "iNUMBER THIRTY SIXxEVENwEIGHTwNINEpFORTYu ONEvTWOwHREEvFOURwIVEvSIXwEVENvEIGHTvNINEqIFTY",
    "aIDEOGRAPHIC TELEGRAPH SYMBOL FOR JANUARYçFEBRUARYçMARCHçAPRILçMAYçJUNEéLYçAUGUSTçSEPTEMBER",
    "çOCTOBERçNOVEMBERçDECEMBERaSQUARE HGhERGiVaLIMITED LIABILITY SIGNaCIRCLED KATAKANA ArIrUrErO",
    "rKAsIsUsEsOrSAsIsUsEsOrTAsIsUsEsOrNAsIsUsEsOrHAsIsUsEsOrMAsIsUsEsOrYAsUsOrRAsIsUsEsOrWAsIsE",
    "sOaSQUARE ERA NAME REIWAhAPAATOiRUHUAiNPEAiARUhININGUjTIhUONhESUKUUDOiEKAAhONSUiOMUhKAIRI",
    "jRATTOkORIIhGARONjNMAiIGAjNIIhKYURIIhGIRUDAAhKIROlGURAMUlMEETORUlWATTOhGURAMUnTONhKURUZEIRO",
    "kOONEiEESUiORUNAjOPOhSAIKURUjNTIIMUiIRINGUiENTIlOhDAASUiESIiORUhTONhNANOiOTTOhHAITUhPAASENTO",
    "kTUhBAARERUhPIASUTORUjKURUkOhBIRUhHUARADDOjIITOhBUSSYERUhHURANiEKUTAARUhPESOjNIHIhHERUTU",
    "hPENSUjEZIhBEETAhPOINTOhBORUTOhHONhPONDOhHOORUkNhMAIKUROkRUjHHAjRUKUjNSYONiIKURONjRIlBAARU",
    "iEGAlTONjETORUhYAADOkRUiUANhRITTORUjRAiUPIIjUBURUiEMUjNTOGENhWATTO",
    "aIDEOGRAPHIC TELEGRAPH SYMBOL FOR HOUR ZEROìONEìTWOíHREEìFOURíIVEìSIXíEVENìEIGHTìNINEìTEN",
    "ìELEVENìTWELVEíHIRTEENìFOURTEENíIFTEENìSIXTEENíEVENTEENìEIGHTEENìNINETEENìTWENTYò-ONEóTWO",
    "ôHREEóFOURaSQUARE HPAhDAhAUhBARhOVhPChDMj SQUAREDkCUBEDhIUhERA NAME HEISEIqSYOUWAqTAISYOU",
    "qMEIZIhCORPORATIONhPA AMPShNAhMU AiAhKAiBhMBhGBhCALhKCALhPFhNFhMU FkGiGhKGhHZhKHZhMHZhGHZ",
    "hTHZhMU LiLhDLhKLhFMhNMhMU MiMhCMhKMhMM SQUAREDhCM SQUAREDhM SQUAREDhKM SQUAREDhMM CUBED",
    "hCM CUBEDhM CUBEDhKM CUBEDhM OVER Sp SQUAREDhPAhKPAhMPAhGPAhRADk OVER Sr SQUAREDhPShNShMU S",
    "iShPVhNVhMU ViVhKVhMV MEGAhPWhNWhMU WiWhKWhMW MEGAhK OHMhM OHMhAMhBQhCCiDi OVER KGiOhDBhGY",
    "hHAiPhINhKKiM CAPITALiThLMiNiOGiXhMB SMALLiILiOLhPHiMiPMiRhSRiVhWBhV OVER MhA OVER M",
    "aIDEOGRAPHIC TELEGRAPH SYMBOL FOR DAY ONEëTWOìHREEëFOURìIVEëSIXìEVENëEIGHTëNINEëTENëELEVEN",
    "ëTWELVEìHIRTEENëFOURTEENìIFTEENëSIXTEENìEVENTEENëEIGHTEENëNINETEENëTWENTYñ-ONEòTWOóHREEòFOUR",
    "óIVEòSIXóEVENòEIGHTòNINEìHIRTYñ-ONEaSQUARE GAL"]),
  (0x4DC0, [
    "aHEXAGRAM FOR THE CREATIVE HEAVENrRECEPTIVE EARTHnDIFFICULTY AT THE BEGINNINGnYOUTHFUL FOLLY",
    "nWAITINGnCONFLICTnTHE ARMYnHOLDING TOGETHERnSMALL TAMINGnTREADINGnPEACEnSTANDSTILL",
    "nFELLOWSHIPnGREAT POSSESSIONnMODESTYnENTHUSIASMnFOLLOWINGnWORK ON THE DECAYEDnAPPROACH",
    "nCONTEMPLATIONnBITING THROUGHnGRACEnSPLITTING APARTnRETURNnINNOCENCEnGREAT TAMING",
    "nMOUTH CORNERSnGREAT PREPONDERANCEnTHE ABYSMAL WATERrCLINGING FIREnINFLUENCEnDURATION",
    "nRETREATnGREAT POWERnPROGRESSnDARKENING OF THE LIGHTnTHE FAMILYnOPPOSITIONoBSTRUCTION",
    "nDELIVERANCEpCREASEnINCREASEnBREAKTHROUGHnCOMING TO MEETnGATHERING TOGETHERnPUSHING UPWARD",
    "nOPPRESSIONnTHE WELLnREVOLUTIONnTHE CAULDRONrAROUSING THUNDERrKEEPING STILL MOUNTAIN",
    "nDEVELOPMENTnTHE MARRYING MAIDENnABUNDANCEnTHE WANDERERrGENTLE WINDrJOYOUS LAKEnDISPERSION",
    "nLIMITATIONnINNER TRUTHnSMALL PREPONDERANCEnAFTER COMPLETIONnBEFORE COMPLETION"]),
  (0xA000, [
    "aYI SYLLABLE ITnXnnPnEToXooPmATnXnnPmUOXooPmOTnXnnPmEXnmWUmBIToXooPoETpXppPnAToXooPnUOXppP",
    "nOToXooPnEXooPnUToXooPoRXpnYToXooPoRXpmPIToXooPoEXppPnAToXooPnUOXppPnOToXooPnUToXooPoRXpnYT",
    "oXooPoRXpmBBITpXppPpETqXqqPoATpXppPoUOXqqPoOTpXppPoEXppPoUTpXppPpRXqoYTpXppPmNBITpXppPpEXqqP",
    "oATpXppPoOTpXppPoUTpXppPpRXqoYTpXppPpRXqmHMITpXppPpEXqqPoATpXppPoUOXqqPoOTpXppPoUTpXppPpRXq",
    "oYXppPpRXqmMIToXooPoEXppPnAToXooPnUOTpXppPnOToXooPnEXonUToXooPoRXpnYToXooPmFIToXooPnAToXooP",
    "nOXooPnUToXooPoRXpnYToXooPmVIToXooPoETpXppPnAToXooPnOToXooPnEXoPnUToXooPoRXpnYToXooPoRXpmDIT",
    "oXooPoEXppPnAToXooPnUOXpnOToXooPnEXooPnUToXooPoRXpmTIToXooPoEXppPnAToXooPnUOTpXppPnOToXooP",
    "nEXooPnUToXooPoRXpmDDITpXppPpEXqqPoATpXppPoUOXqqPoOTpXppPoEXppPoUTpXppPpRXqmNDITpXppPpEXqoAT",
    "pXppPoOTpXppPoEXppPoUTpXppPpRXqmHNITpXppPpETqXqqPoATpXppPoUOXqoOTpXpPoEXppPoUTmNIToXooPoEXp",
    "pPnAXooPnUOXppPnOToXooPnEXooPnUToXooPoRXpmHLITpXppPpEXqqPoATpXppPoUOXqqPoOXppPoEXppPoUTpXppP",
    "pRXqoYTpXppPpRXqmLIToXooPoETpXppPnAToXooPnUOTpXppPnOToXooPnEXooPnUToXooPoRXpnYToXooPoRXpmGIT",
    "oXooPoETpXppPnAToXooPnUOTpXppPnOToXooPnEToXooPnUToXooPoRXpmKIToXooPoEXppPnAToXooPnUOXppPnOT",
    "oXooPnEToXooPnUToXooPoRXpmGGITpXppEXqqPoATpXppPoUOTqXqqPoOTpXppPoETpXppPoUTpXppPpRXqmMGIEXq",
    "oATpXppPoUOXqqPoOTpXppPoEXppPoUTpXppPpRXqmHXITpXppPpETqXqqPoATpXppPoUOTqXqqPoOTpXppPoEXppP",
    "mNGIEXqqPoATpXppPoUOTqXqoOTpXppPoEXppPmHIToEXpnAToXooPnUOTpXppPnOToXooPnEXooPmWAToXooPnUOXp",
    "pPnOXooPnEXooPmZIToXooPoEXppPnAToXooPnUOXppPnOToXooPnEXooPnUToXooPoRXpnYToXooPoRXpmCIToXooP",
    "oETpXppPnAToXooPnUOXppPnOToXooPnEXooPnUToXooPoRXpnYToXooPoRXpmZZITpXppPpETqXqqPoATpXppPoOXp",
    "pPoEXppPoUXppPpRXqoYTpXppPpRXqmNZITpXppPpEXqqPoATpXppPoUOXqoOXpPoEXpoUXppPpRXqoYTpXppPpRXq",
    "mSIToXooPoEXppPnAToXooPnUOXppPnOToXooPnEXooPnUToXooPoRXpnYToXooPoRXpnSITpXppPpEXqqPoATpXppP",
    "oOTpXppPoEXppPoUTpXppPoYTpXppPpRXqmZHATpXppPoUOXqqPoOTpXppPoETpXppPoUTpXppPpRXqoYTpXppPpRXq",
    "mCHATpXppPoUOTqXqqPoOTpXppPoETpXppPoUXppPpRXqoYTpXppPpRXqmRRAXpoUOXqoOTpXppPoETpXppPoUTpXppP",
    "pRXqoYTpXppPpRXqmNRATpXppPoOXppPoETpXppPoUTpXppPpRXqoYTpXppPpRXqmSHATpXppPoUOXqqPoOTpXppPoET",
    "pXppPoUTpXppPpRXqoYTpXppPpRXqmRAToXooPnUOXppPnOToXooPnEXooPnUToXooPoRXpnYToXooPoRXpmJIToXooP",
    "oETpXppPnUOTpXppPnOToXooPnUToXooPoRXpnYToXooPoRXpmQIToXooPoETpXppPnUOTpXppPnOToXooPnUToXooP",
    "oRXpnYToXooPoRXpmJJITpXppPpETqXqqPoUOXqqPoOTpXppPoUTpXppPpRXqoYTpXppPmNJITpXppPpETqXqqPoUOXq",
    "oOTpXppPoUXppPpRXqoYTpXppPpRXqnYITpXppPpETqXqqPoUOXqqPoOTpXppPoUTpXppPmXIToXooPoETpXppPnUOXp",
    "nOToXooPnYToXooPoRXpmYIToXooPoETpXppPnUOTpXppPnOToXooPnUToXooPoRXpnYToXooPoRXp"]),
  (0xA490, [
    "aYI RADICAL QOTlLIlKITlNYIPlCYPlSSIlGGOPmEPlMIlHXITlLYRlBBUTlMOPlYOlPUTlHXUOlTATlGAlZUPlCYT",
    "lDDURlBURlGGUOlNYOPlTUlOPlJJUTlZOTlPYTlHMOlYITlVURlSHYlVEPlZAlJOlNZUPlJJYlGOTlJJIElWOlDU",
    "lSHURlLIElCYmUOPmIPlHXOPlSHATlZURlSHOPlCHElZZIETlNBIElKE"]),
  (0xA4D0, [
    "aLISU LETTER BAmPAnHAmDAmTAnHAmGAmKAnHAmJAmCAnHAmDZAmTSAoHAmMAmNAmLAmSAmZHAnAmNGAmHAmXAmHHA",
    "mFAmWAmSHAmYAmGHAmAnEmEnUmImOmUnEnHmOEmTONE MYA TIrNA POrMYA CYAvBOvNAvJEUfPUNCTUATION COMMA",
    "rFULL STOPaVAI SYLLABLE EEpNnHEEnWEEqNnPEEnBHEEoEEnMBEEnKPEEnMGBEEnGBEEnFEEnVEEnTEEoHEEnDHEE",
    "pHEEnLEEnREEnDEEnNDEEnSEEoHEEnZEEoHEEnCEEnJEEnNJEEnYEEnKEEnNGGEEnGEEnMEEnNEEoYEEnIoNnHIpNnWI",
    "pNnPInBHIoInMBInKPInMGBInGBInFInVInTIoHInDHIpHInLInRInDInNDInSIoHInZIoHInCInJInNJInYInKI",
    "nNGGInGInMInNIoYInAoNnNGANnHApNnWApNnPAnBHAoAnMBAnKPAqNnMGBAnGBAnFAnVAnTAoHAnDHApHAnLAnRAnDA",
    "nNDAnSAoHAnZAoHAnCAnJAnNJAnYAnKApNnNGGAnGAnMAnNAoYAnOOpNnHOOnWOOqNnPOOnBHOOoOOnMBOOnKPOO",
    "nMGBOOnGBOOnFOOnVOOnTOOoHOOnDHOOpHOOnLOOnROOnDOOnNDOOnSOOoHOOnZOOoHOOnCOOnJOOnNJOOnYOOnKOO",
    "nNGGOOnGOOnMOOnNOOoYOOnUoNnHUpNnWUpNnPUnBHUoUnMBUnKPUnMGBUnGBUnFUnVUnTUoHUnDHUpHUnLUnRUnDU",
    "nNDUnSUoHUnZUoHUnCUnJUnNJUnYUnKUnNGGUnGUnMUnNUoYUnOoNnNGONnHOpNnWOpNnPOnBHOoOnMBOnKPOnMGBO",
    "nGBOqNnFOnVOnTOoHOnDHOpHOnLOnROnDOnNDOnSOoHOnZOoHOnCOnJOnNJOnYOnKOnNGGOnGOnMOnNOoYOnEoNnNGEN",
    "nHEpNnWEpNnPEnBHEoEnMBEnKPEqNnMGBEnGBEqNnFEnVEnTEoHEnDHEpHEnLEnREnDEnNDEnSEoHEnZEoHEnCEnJE",
    "nNJEnYEnKEnNGGErNnGEpNnMEnNEoYEoGnLENGTHENEReCOMMAeFULL STOPeQUESTION MARKeSYLLABLE NDOLE FA",
    "tKAtSOOgMBOL FEENGlKEENGlTINGlNIIlBANGlFAAlTAAlDANGmOONGlKUNGlTONGlDO-OlJONGeDIGIT ZEROkONE",
    "kTWOlHREEkFOURlIVEkSIXlEVENkEIGHTkNINEeSYLLABLE NDOLE MAtDO"]),
  (0xA640, [
    "aCYRILLIC CAPITAL LETTER ZEMLYAjSMALL LETTER ZEMLYAjCAPITAL LETTER DZELOjSMALL LETTER DZELO",
    "jCAPITAL LETTER REVERSED DZEjSMALL LETTER REVERSED DZEjCAPITAL LETTER IOTAjSMALL LETTER IOTA",
    "jCAPITAL LETTER DJERVjSMALL LETTER DJERVjCAPITAL LETTER MONOGRAPH UK",
    "jSMALL LETTER MONOGRAPH UKjCAPITAL LETTER BROAD OMEGAjSMALL LETTER BROAD OMEGA",
    "jCAPITAL LETTER NEUTRAL YERjSMALL LETTER NEUTRAL YERjCAPITAL LETTER YERU WITH BACK YER",
    "jSMALL LETTER YERU WITH BACK YERjCAPITAL LETTER IOTIFIED YATjSMALL LETTER IOTIFIED YAT",
    "jCAPITAL LETTER REVERSED YUjSMALL LETTER REVERSED YUjCAPITAL LETTER IOTIFIED A",
    "jSMALL LETTER IOTIFIED AjCAPITAL LETTER CLOSED LITTLE YUSjSMALL LETTER CLOSED LITTLE YUS",
    "jCAPITAL LETTER BLENDED YUSjSMALL LETTER BLENDED YUS",
    "jCAPITAL LETTER IOTIFIED CLOSED LITTLE YUSjSMALL LETTER IOTIFIED CLOSED LITTLE YUS",
    "jCAPITAL LETTER YNjSMALL LETTER YNjCAPITAL LETTER REVERSED TSEjSMALL LETTER REVERSED TSE",
    "jCAPITAL LETTER SOFT DEjSMALL LETTER SOFT DEjCAPITAL LETTER SOFT ELjSMALL LETTER SOFT EL",
    "jCAPITAL LETTER SOFT EMjSMALL LETTER SOFT EMjCAPITAL LETTER MONOCULAR O",
    "jSMALL LETTER MONOCULAR OjCAPITAL LETTER BINOCULAR OjSMALL LETTER BINOCULAR O",
    "jCAPITAL LETTER DOUBLE MONOCULAR OjSMALL LETTER DOUBLE MONOCULAR OjLETTER MULTIOCULAR O",
    "bOMBINING CYRILLIC VZMETtTEN MILLIONS SIGNtHUNDRED MILLIONS SIGNtTHOUSAND MILLIONS SIGN",
    "aSLAVONIC ASTERISKaCOMBINING CYRILLIC LETTER UKRAINIAN IEàIàYIàUàHARD SIGNàYERUàSOFT SIGN",
    "àOMEGAtKAVYKAtPAYEROKbYRILLIC KAVYKAjPAYEROKjCAPITAL LETTER DWEjSMALL LETTER DWE",
    "jCAPITAL LETTER DZWEjSMALL LETTER DZWEjCAPITAL LETTER ZHWEjSMALL LETTER ZHWE",
    "jCAPITAL LETTER CCHEjSMALL LETTER CCHEjCAPITAL LETTER DZZEjSMALL LETTER DZZE",
    "jCAPITAL LETTER TE WITH MIDDLE HOOKjSMALL LETTER TE WITH MIDDLE HOOKjCAPITAL LETTER TWE",
    "jSMALL LETTER TWEjCAPITAL LETTER TSWEjSMALL LETTER TSWEjCAPITAL LETTER TSSE",
    "jSMALL LETTER TSSEjCAPITAL LETTER TCHEjSMALL LETTER TCHEjCAPITAL LETTER HWEjSMALL LETTER HWE",
    "jCAPITAL LETTER SHWEjSMALL LETTER SHWEjCAPITAL LETTER DOUBLE OjSMALL LETTER DOUBLE O",
    "jCAPITAL LETTER CROSSED OjSMALL LETTER CROSSED OaMODIFIER LETTER CYRILLIC HARD SIGN",
    "zSOFT SIGNaCOMBINING CYRILLIC LETTER EFàIOTIFIED EaBAMUM LETTER AnKAnUnKUnEEnREEnTAEnOnNYInI",
    "nLAnPAnRIIpEEnLEEEEnMEEEEnTAAnNDAAoJAEMnMnSUUnMUnSHIIoIoHEUXoEUXnKYEEoETnNUAEpoJUAEnYOQnSHU",
    "nYUQoAnNSHAnKEUXnPEUXnNJEEoTEEnPUEnWUEnPEEnFEEnRUnLUnMInNInREUXoAEnKENnNGKWAENpGApAnSHOnPUAE",
    "nFUoOMnWAnNAnLInPInLOQnKOnMBENnRENnMENoAnTInKInMOoBAAnTETnKPAnTENnNTUUnSAMBAnFAAMAEnKOVUU",
    "pGHOMgCOMBINING MARK KOQNDONvTUKWENTISgNJAEMLIgFULL STOPgCOLONiMMAgSEMICOLONgQUESTION MARK"]),
  (0xA700, [
    "aMODIFIER LETTER CHINESE TONE YIN PINGäANG PINGäIN SHANGäANG SHANGäIN QUäANG QUäIN RUäANG RU",
    "qEXTRA-HIGH DOTTED TONE BARqHIGH DOTTED TONE BARqMID DOTTED TONE BARqLOW DOTTED TONE BAR",
    "qEXTRA-LOW DOTTED TONE BARwHIGH DOTTED LEFT-STEM TONE BARqHIGH DOTTED LEFT-STEM TONE BAR",
    "qMID DOTTED LEFT-STEM TONE BARqLOW DOTTED LEFT-STEM TONE BAR",
    "qEXTRA-LOW DOTTED LEFT-STEM TONE BARwHIGH LEFT-STEM TONE BARqHIGH LEFT-STEM TONE BAR",
    "qMID LEFT-STEM TONE BARqLOW LEFT-STEM TONE BARqEXTRA-LOW LEFT-STEM TONE BARqDOT VERTICAL BAR",
    "uSLASHuHORIZONTAL BARqLOWER RIGHT CORNER ANGLEqRAISED UP ARROWxDOWN ARROWxEXCLAMATION MARK",
    "xINVERTED EXCLAMATION MARKqLOW INVERTED EXCLAMATION MARKqSTRESS AND HIGH TONEáLOW TONE",
    "aLATIN CAPITAL LETTER EGYPTOLOGICAL ALEFgSMALL LETTER EGYPTOLOGICAL ALEF",
    "gCAPITAL LETTER EGYPTOLOGICAL AINgSMALL LETTER EGYPTOLOGICAL AINgCAPITAL LETTER HENG",
    "gSMALL LETTER HENGgCAPITAL LETTER TZgSMALL LETTER TZgCAPITAL LETTER TRESILLO",
    "gSMALL LETTER TRESILLOgCAPITAL LETTER CUATRILLOgSMALL LETTER CUATRILLO",
    "gCAPITAL LETTER CUATRILLO WITH COMMAgSMALL LETTER CUATRILLO WITH COMMA",
    "gLETTER SMALL CAPITAL FáSgCAPITAL LETTER AAgSMALL LETTER AAgCAPITAL LETTER AO",
    "gSMALL LETTER AOgCAPITAL LETTER AUgSMALL LETTER AUgCAPITAL LETTER AVgSMALL LETTER AV",
    "gCAPITAL LETTER AV WITH HORIZONTAL BARgSMALL LETTER AV WITH HORIZONTAL BARgCAPITAL LETTER AY",
    "gSMALL LETTER AYgCAPITAL LETTER REVERSED C WITH DOTgSMALL LETTER REVERSED C WITH DOT",
    "gCAPITAL LETTER K WITH STROKEgSMALL LETTER K WITH STROKE",
    "gCAPITAL LETTER K WITH DIAGONAL STROKEgSMALL LETTER K WITH DIAGONAL STROKE",
    "gCAPITAL LETTER K WITH STROKE AND DIAGONAL STROKE",
    "gSMALL LETTER K WITH STROKE AND DIAGONAL STROKEgCAPITAL LETTER BROKEN L",
    "gSMALL LETTER BROKEN LgCAPITAL LETTER L WITH HIGH STROKEgSMALL LETTER L WITH HIGH STROKE",
    "gCAPITAL LETTER O WITH LONG STROKE OVERLAYgSMALL LETTER O WITH LONG STROKE OVERLAY",
    "gCAPITAL LETTER O WITH LOOPgSMALL LETTER O WITH LOOPgCAPITAL LETTER OOgSMALL LETTER OO",
    "gCAPITAL LETTER P WITH STROKE THROUGH DESCENDERgSMALL LETTER P WITH STROKE THROUGH DESCENDER",
    "gCAPITAL LETTER P WITH FLOURISHgSMALL LETTER P WITH FLOURISH",
    "gCAPITAL LETTER P WITH SQUIRREL TAILgSMALL LETTER P WITH SQUIRREL TAIL",
    "gCAPITAL LETTER Q WITH STROKE THROUGH DESCENDERgSMALL LETTER Q WITH STROKE THROUGH DESCENDER",
    "gCAPITAL LETTER Q WITH DIAGONAL STROKEgSMALL LETTER Q WITH DIAGONAL STROKE",
    "gCAPITAL LETTER R ROTUNDAgSMALL LETTER R ROTUNDAgCAPITAL LETTER RUM ROTUNDA",
    "gSMALL LETTER RUM ROTUNDAgCAPITAL LETTER V WITH DIAGONAL STROKE",
    "gSMALL LETTER V WITH DIAGONAL STROKEgCAPITAL LETTER VYgSMALL LETTER VY",
    "gCAPITAL LETTER VISIGOTHIC ZgSMALL LETTER VISIGOTHIC ZgCAPITAL LETTER THORN WITH STROKE",
    "gSMALL LETTER THORN WITH STROKEgCAPITAL LETTER THORN WITH STROKE THROUGH DESCENDER",
    "gSMALL LETTER THORN WITH STROKE THROUGH DESCENDERgCAPITAL LETTER VENDgSMALL LETTER VEND",
    "gCAPITAL LETTER ETgSMALL LETTER ETgCAPITAL LETTER ISgSMALL LETTER ISgCAPITAL LETTER CON",
    "gSMALL LETTER CONaMODIFIER LETTER USaLATIN SMALL LETTER DUMtLUMtMUMtNUMtRUM",
    "gLETTER SMALL CAPITAL RUMgSMALL LETTER TUMtUMgCAPITAL LETTER INSULAR D",
    "gSMALL LETTER INSULAR DgCAPITAL LETTER INSULAR FgSMALL LETTER INSULAR F",
    "gCAPITAL LETTER INSULAR GvTURNED INSULAR GgSMALL LETTER TURNED INSULAR G",
    "gCAPITAL LETTER TURNED LgSMALL LETTER TURNED LgCAPITAL LETTER INSULAR R",
    "gSMALL LETTER INSULAR RgCAPITAL LETTER INSULAR SgSMALL LETTER INSULAR S",
    "gCAPITAL LETTER INSULAR TgSMALL LETTER INSULAR TaMODIFIER LETTER LOW CIRCUMFLEX ACCENTqCOLON",
    "qSHORT EQUALS SIGNaLATIN CAPITAL LETTER SALTILLOgSMALL LETTER SALTILLO",
    "gCAPITAL LETTER TURNED HgSMALL LETTER L WITH RETROFLEX HOOK AND BELTgLETTER SINOLOGICAL DOT",
    "gCAPITAL LETTER N WITH DESCENDERgSMALL LETTER N WITH DESCENDERgCAPITAL LETTER C WITH BAR",
    "gSMALL LETTER C WITH BARàPALATAL HOOKtH WITH PALATAL HOOKgCAPITAL LETTER B WITH FLOURISH",
    "gSMALL LETTER B WITH FLOURISHgCAPITAL LETTER F WITH STROKEgSMALL LETTER F WITH STROKE",
    "gCAPITAL LETTER VOLAPUK AEgSMALL LETTER VOLAPUK AEgCAPITAL LETTER VOLAPUK OE",
    "gSMALL LETTER VOLAPUK OEgCAPITAL LETTER VOLAPUK UEgSMALL LETTER VOLAPUK UE",
    "gCAPITAL LETTER G WITH OBLIQUE STROKEgSMALL LETTER G WITH OBLIQUE STROKE",
    "gCAPITAL LETTER K WITH OBLIQUE STROKEgSMALL LETTER K WITH OBLIQUE STROKE",
    "gCAPITAL LETTER N WITH OBLIQUE STROKEgSMALL LETTER N WITH OBLIQUE STROKE",
    "gCAPITAL LETTER R WITH OBLIQUE STROKEgSMALL LETTER R WITH OBLIQUE STROKE",
    "gCAPITAL LETTER S WITH OBLIQUE STROKEgSMALL LETTER S WITH OBLIQUE STROKE",
    "gCAPITAL LETTER H WITH HOOKvREVERSED OPEN EvSCRIPT GvL WITH BELTvSMALL CAPITAL I",
    "gLETTER SMALL CAPITAL QgCAPITAL LETTER TURNED KâTvJ WITH CROSSED-TAILvCHIvBETA",
    "gSMALL LETTER BETAgCAPITAL LETTER OMEGAgSMALL LETTER OMEGAgCAPITAL LETTER U WITH STROKE",
    "gSMALL LETTER U WITH STROKEgCAPITAL LETTER GLOTTAL AgSMALL LETTER GLOTTAL A",
    "gCAPITAL LETTER GLOTTAL IgSMALL LETTER GLOTTAL IgCAPITAL LETTER GLOTTAL U",
    "gSMALL LETTER GLOTTAL UgCAPITAL LETTER OLD POLISH OgSMALL LETTER OLD POLISH O",
    "gCAPITAL LETTER ANGLICANA WgSMALL LETTER ANGLICANA WgCAPITAL LETTER C WITH PALATAL HOOK",
    "vS WITH HOOKvZ WITH PALATAL HOOKvD WITH SHORT STROKE OVERLAY",
    "gSMALL LETTER D WITH SHORT STROKE OVERLAYgCAPITAL LETTER S WITH SHORT STROKE OVERLAY",
    "gSMALL LETTER S WITH SHORT STROKE OVERLAY"]),
  (0xA7D0, ["aLATIN CAPITAL LETTER CLOSED INSULAR GgSMALL LETTER CLOSED INSULAR G"]),
  (0xA7D3, ["aLATIN SMALL LETTER DOUBLE THORN"]),
  (0xA7D5, [
    "aLATIN SMALL LETTER DOUBLE WYNNgCAPITAL LETTER MIDDLE SCOTS SgSMALL LETTER MIDDLE SCOTS S",
    "gCAPITAL LETTER SIGMOID SgSMALL LETTER SIGMOID S"]),
  (0xA7F2, [
    "aMODIFIER LETTER CAPITAL CyFyQaLATIN CAPITAL LETTER REVERSED HALF H",
    "gSMALL LETTER REVERSED HALF HgEPIGRAPHIC LETTER SIDEWAYS I",
    "aMODIFIER LETTER CAPITAL H WITH STROKEqSMALL LIGATURE OEaLATIN LETTER SMALL CAPITAL TURNED M",
    "gEPIGRAPHIC LETTER REVERSED FçPyINVERTED Mz LONGAyARCHAIC MaSYLOTI NAGRI LETTER AuI",
    "nSIGN DVISVARAnLETTER UuEuOnSIGN HASANTAnLETTER KOvHOuGOvHOnSIGN ANUSVARAnLETTER COvHOuJOvHO",
    "uTTOwHOuDDOwHOuTOvHOuDOvHOuNOuPOvHOuBOvHOuMOuROuLOuRROuSOuHOnVOWEL SIGN AyIyUyEyOO",
    "nPOETRY MARK-1z2z3z4nSIGN ALTERNATE HASANTA"]),
  (0xA830, [
    "aNORTH INDIC FRACTION ONE QUARTERzHALFvTHREE QUARTERSvONE SIXTEENTHzEIGHTHvTHREE SIXTEENTHS",
    "mQUARTER MARKmPLACEHOLDER MARKmRUPEE MARKmQUANTITY MARK"]),
  (0xA840, [
    "aPHAGS-PA LETTER KArHAqGAqNGAqCArHAqJAqNYAqTArHAqDAqNAqPArHAqBAqMAqTSAsHAqDZAqWAqZHArA",
    "qSMALL AqYAqRAqLAqSHArAqHAqAqIqUqEqOqQAqXAqFAqGGAqEEjSUBJOINED LETTER WAàYAjLETTER TTAsHA",
    "qDDAqNNAqALTERNATE YAqVOICELESS SHAvD HAqASPIRATED FAjSUBJOINED LETTER RAlPERFIXED LETTER RA",
    "jLETTER CANDRABINDUjSINGLE HEAD MARKjDOUBLE HEAD MARKjMARK SHADoDOUBLE SHAD"]),
  (0xA880, [
    "aSAURASHTRA SIGN ANUSVARAqVISARGAlLETTER AtAsItIsUtUsVOCALIC RáRàLáLsEtEsAIsOtOsAUsKAtHAsGA",
    "tHAsNGAsCAtHAsJAtHAsNYAsTTAuHAsDDAuHAsNNAsTAtHAsDAtHAsNAsPAtHAsBAtHAsMAsYAsRAsLAsVAsSHAtSAtA",
    "sHAsLLAlCONSONANT SIGN HAARUlVOWEL SIGN AAwIxIwUxUwVOCALIC RåRäLåLwExEwAIwOxOwAUlSIGN VIRAMA",
    "qCANDRABINDU"]),
  (0xA8CE, [
    "aSAURASHTRA DANDAmOUBLE DANDAmIGIT ZEROrONErTWOsHREErFOURsIVErSIXsEVENrEIGHTrNINE"]),
  (0xA8E0, [
    "aCOMBINING DEVANAGARI DIGIT ZEROáONEáTWOâHREEáFOURâIVEáSIXâEVENáEIGHTáNINEvLETTER AâUâKAâNA",
    "âPAâRAâVIvSIGN AVAGRAHAaDEVANAGARI SIGN SPACING CANDRABINDUqCANDRABINDU VIRAMA",
    "qDOUBLE CANDRABINDU VIRAMAqCANDRABINDU TWOãHREEâAVAGRAHAqPUSHPIKAlGAP FILLERlCARET",
    "lHEADSTROKElSIGN SIDDHAMlJAIN OMlLETTER AYlVOWEL SIGN AYaKAYAH LI DIGIT ZEROpONEpTWOqHREE",
    "pFOURqIVEpSIXqEVENpEIGHTpNINEjLETTER KArHAqGAqNGAqSArHAqZAqNYAqTAqHTAqNAqPArHAqMAqDAqBAqRA",
    "qYAqLAqWAqTHAqHAqVAqCAqAqOEqIqOOjVOWEL UEpEpUpEEpOjTONE PLOPHUoCALYAt PLOPHUjSIGN CWIoSHYA",
    "aREJANG LETTER KAoGAoNGAoTAoDAoNAoPAoBAoMAoCAoJAoNYAoSAoRAoLAoYAoWAoHAoMBAoNGGApDApYJAoA",
    "hVOWEL SIGN IsUsEsAIsOsAUsEUtAhCONSONANT SIGN NGxwRwHhVIRAMA"]),
  (0xA95F, [
    "aREJANG SECTION MARKaHANGUL CHOSEONG TIKEUT-MIEUMxPIEUPxSIOSxCIEUCqRIEUL-KIYEOKwSSANGKIYEOK",
    "wTIKEUTwSSANGTIKEUTwMIEUMwPIEUPwSSANGPIEUPwKAPYEOUNPIEUPwSIOSwCIEUCwKHIEUKHqMIEUM-KIYEOK",
    "wTIKEUTwSIOSqPIEUP-SIOS-THIEUTHwKHIEUKHwHIEUHqSSANGSIOS-PIEUPqIEUNG-RIEULwHIEUH",
    "qSSANGCIEUC-HIEUHvTHIEUTHqPHIEUPH-HIEUHqHIEUH-SIOSqSSANGYEORINHIEUH"]),
  (0xA980, [
    "aJAVANESE SIGN PANYANGGAoCECAKoLAYARoWIGNYANjLETTER AqI KAWIrrIqUqPA CEREKqNGA LELET",
    "z RASWADIqEqAIqOqKAs SASAKtMURDAqGAs MURDAqNGAqCAs MURDAqJAqNYA MURDAqJA MAHAPRANAqNYAqTTA",
    "t MAHAPRANAqDDAt MAHAPRANAqNA MURDAqTAs MURDAqDAs MAHAPRANAqNAqPAs MURDAqBAs MURDAqMAqYAqRA",
    "s AGUNGqLAqWAqSA MURDAuAHAPRANAsqHAjSIGN CECAK TELUjVOWEL SIGN TARUNGvOLONGuWULUy MELIKuSUKU",
    "y MENDUTuTALINGuDIRGA MUREuPEPETjCONSONANT SIGN KERETyPENGKALyCAKRAjPANGKONjLEFT RERENGGAN",
    "jRIGHT RERENGGANjPADA ANDAPoMADYAoLUHURoWINDUoPANGKAToLINGSApUNGSIoADEGs ADEGoPISELEH",
    "jTURNED PADA PISELEH"]),
  (0xA9CF, ["aJAVANESE PANGRANGKEPjDIGIT ZEROpONEpTWOqHREEpFOURqIVEpSIXqEVENpEIGHTpNINE"]),
  (0xA9DE, [
    "aJAVANESE PADA TIRTA TUMETESoISEN-ISENaMYANMAR LETTER SHAN GHAuCHAuJHAuNNAuBHAiSIGN SHAN SAW",
    "iMODIFIER LETTER SHAN REDUPLICATIONiLETTER TAI LAING NYAzFAzGAàHAzJAàHAzDDAáHAzNNA",
    "iTAI LAING DIGIT ZEROyONEyTWOzHREEyFOURzIVEySIXzEVENyEIGHTyNINEiLETTER TAI LAING LLAzDAàHA",
    "zBAàHA"]),
  (0xAA00, [
    "aCHAM LETTER AmImUmEmAImOmKAnHAmGAnHAmNGUEoAmCHAoHAmJAnHAmNHUEoAoJAmTAnHAmDAnHAmNUEnAmDDAmPA",
    "nPAnHAmBAnHAmMUEnAmBBAmYAmRAmLAmVAmSSAnAmHAfVOWEL SIGN AAqIrIqEIqUqOErqAIrUqUE",
    "fCONSONANT SIGN YAuRAuLAuWA"]),
  (0xAA40, [
    "aCHAM LETTER FINAL KsGsNGfCONSONANT SIGN FINAL NGfLETTER FINAL CHsTsNsPsYsRsLsSS",
    "fCONSONANT SIGN FINAL MàH"]),
  (0xAA50, ["aCHAM DIGIT ZEROlONElTWOmHREElFOURmIVElSIXmEVENlEIGHTlNINE"]),
  (0xAA5C, [
    "aCHAM PUNCTUATION SPIRALrDANDAsOUBLE DANDArTRIPLE DANDAaMYANMAR LETTER KHAMTI GAwCAxHAwJAxHA",
    "wNYAwTTAyHAwDDAyHAxHAwNAwSAwHAxHAwFAiMODIFIER LETTER KHAMTI REDUPLICATIONiLETTER KHAMTI XA",
    "wZAwRAjOGOGRAM KHAMTI OAYyQNyHMiSYMBOL AITON EXCLAMATIONvONEvTWOiLETTER AITON RA",
    "iSIGN PAO KAREN TONEnTAI LAING TONE-2â5iLETTER SHWE PALAUNG CHAâSHAaTAI VIET LETTER LOW KO",
    "qHIGH KOqLOW KHOqHIGH KHOqLOW KHHOqHIGH KHHOqLOW GOqHIGH GOqLOW NGOqHIGH NGOqLOW COqHIGH CO",
    "qLOW CHOqHIGH CHOqLOW SOqHIGH SOqLOW NYOqHIGH NYOqLOW DOqHIGH DOqLOW TOqHIGH TOqLOW THO",
    "qHIGH THOqLOW NOqHIGH NOqLOW BOqHIGH BOqLOW POqHIGH POqLOW PHOqHIGH PHOqLOW FOqHIGH FO",
    "qLOW MOqHIGH MOqLOW YOqHIGH YOqLOW ROqHIGH ROqLOW LOqHIGH LOqLOW VOqHIGH VOqLOW HOqHIGH HO",
    "qLOW OqHIGH OjMAI KANGjVOWEL AApIpUEqpEpOjMAI KHITjVOWEL IApUEAqApAUEqYqNqMjTONE MAI EK",
    "sNUENGsTHOsSONG"]),
  (0xAADB, [
    "aTAI VIET SYMBOL KONqNUENGqSAMqHO HOIqKOI KOIaMEETEI MAYEK LETTER EuOuCHAuNYAuTTAwHAuDDAwHA",
    "uNNAuSHAvSAnVOWEL SIGN IIyUUyAAIzUzAUnCHEIKHANnAHANG KHUDAMoNJInSYLLABLE REPETITION MARK",
    "nWORD REPETITION MARKnVOWEL SIGN VISARGAoIRAMA"]),
  (0xAB01, ["aETHIOPIC SYLLABLE TTHUvIvAAvEEwvO"]),
  (0xAB09, ["aETHIOPIC SYLLABLE DDHUvIvAAvEEwvO"]),
  (0xAB11, ["aETHIOPIC SYLLABLE DZUuIuAAuEEvuO"]),
  (0xAB20, ["aETHIOPIC SYLLABLE CCHHAwUwIwAAwEExwO"]),
  (0xAB28, ["aETHIOPIC SYLLABLE BBAuUuIuAAuEEvuO"]),
  (0xAB30, [
    "aLATIN SMALL LETTER BARRED ALPHAtA REVERSED-SCHWAtBLACKLETTER EuARRED EtE WITH FLOURISH",
    "tLENIS FtSCRIPT G WITH CROSSED-TAILtL WITH INVERTED LAZY SàDOUBLE MIDDLE TILDEàMIDDLE RING",
    "tM WITH CROSSED-TAILtN WITH CROSSED-TAILtENG WITH CROSSED-TAILtBLACKLETTER Oæ WITH STROKE",
    "tOPEN O WITH STROKEtINVERTED OEtTURNED OE WITH STROKEèHORIZONTAL STROKEá OPEN-Oè WITH STROKE",
    "tSTIRRUP RgLETTER SMALL CAPITAL R WITH RIGHT LEGgSMALL LETTER R WITHOUT HANDLEtDOUBLE R",
    "tR WITH CROSSED-TAILtDOUBLE R WITH CROSSED-TAILtSCRIPT Rá WITH RINGtBASELINE ESH",
    "tU WITH SHORT RIGHT LEGvBAR WITH SHORT RIGHT LEGuItTURNED UItU WITH LEFT HOOKtCHI",
    "w WITH LOW RIGHT RINGæLEFT SERIFtX WITH LOW RIGHT RINGâNG LEFT LEGí AND LOW RIGHT RING",
    "îWITH SERIFtY WITH SHORT RIGHT LEGaMODIFIER BREVE WITH INVERTED BREVEjLETTER SMALL HENG",
    "wL WITH INVERTED LAZY SãMIDDLE TILDEwU WITH LEFT HOOKaLATIN SMALL LETTER SAKHA YAT",
    "tIOTIFIED EtOPEN OEtUOtINVERTED ALPHAaGREEK LETTER SMALL CAPITAL OMEGA",
    "aLATIN SMALL LETTER DZ DIGRAPH WITH RETROFLEX HOOKtTS DIGRAPH WITH RETROFLEX HOOK",
    "uURNED R WITH MIDDLE TILDEaMODIFIER LETTER SMALL TURNED WqLEFT TACKqRIGHT TACK"]),
  (0xAB70, [
    "aCHEROKEE SMALL LETTER AwEwIwOwUwVwGAwKAwGExIxOxUxVwHAxExIxOxUxVwLAxExIxOxUxVwMAxExIxOxUwNA",
    "wHNAwNAHxExIxOxUxVwQUAyEyIyOyUyVwSAxxExIxOxUxVwDAwTAwDEwTEwDIwTIwDOxUxVxLAwTLAyEyIyOyUyVxSA",
    "yEyIyOyUyVwWAxExIxOxUxVwYAaMEETEI MAYEK LETTER KOKuSAMuLAIuMITuPAuNAuCHILuTILuKHOUuNGOUuTHOU",
    "uWAIuYANGuHUKuUNuIuPHAMuATIYAuGOKuJHAMuRAIuBAuJILuDILuGHOUuDHOUuBHAMuKOK LONSUMuLAI LONSUM",
    "uMIT LONSUMuPA LONSUMuNA LONSUMuTIL LONSUMuNGOU LONSUMuI LONSUMnVOWEL SIGN ONAPyINAPyANAP",
    "yYENAPySOUNAPyUNAPyCHEINAPyNUNGnCHEIKHEInLUM IYEKnAPUN IYEK"]),
  (0xABF0, ["aMEETEI MAYEK DIGIT ZEROtONEtTWOuHREEtFOURuIVEtSIXuEVENtEIGHTtNINE"]),
  (0xD7B0, [
    "aHANGUL JUNGSEONG O-YEOtO-IrYO-AvEuEOrU-YEOtI-IrYU-AEuOrEU-AuEOvuOrI-YA-OvEuEOvtO-ItYOuUtI",
    "rARAEA-AxE"]),
  (0xD7CB, [
    "aHANGUL JONGSEONG NIEUN-RIEULxCHIEUCHrSSANGTIKEUTâ-PIEUPrTIKEUT-PIEUPySIOSâ-KIYEOKyCIEUC",
    "zHIEUCHyTHIEUTHrRIEUL-SSANGKIYEOKxKIYEOK-HIEUHrSSANGRIEUL-KHIEUKHrRIEUL-MIEUM-HIEUH",
    "xPIEUP-TIKEUTãPHIEUPHxYESIEUNGzORINHIEUH-HIEUHrKAPYEOUNRIEULrMIEUM-NIEUNxSSANGNIEUN",
    "rSSANGMIEUMrMIEUM-PIEUP-SIOSxCIEUCrPIEUP-TIKEUTxRIEUL-PHIEUPHxMIEUMrSSANGPIEUP",
    "rPIEUP-SIOS-TIKEUTxCIEUCyHIEUCHrSIOS-MIEUMwKAPYEOUNPIEUPsSANGSIOS-KIYEOKáTIKEUTsIOS-PANSIOS",
    "wCIEUCxHIEUCHwTHIEUTHwHIEUHrPANSIOS-PIEUPzKAPYEOUNPIEUPrYESIEUNG-MIEUMàHIEUHrCIEUC-PIEUP",
    "xSSANGPIEUPrSSANGCIEUCrPHIEUPH-SIOSzTHIEUTH"]),
  (0xFB00, ["aLATIN SMALL LIGATURE FFwIwLwFIxLvLONG S TvST"]),
  (0xFB13, ["aARMENIAN SMALL LIGATURE MEN NOWâECHâINIyVEW NOWyMEN XEH"]),
  (0xFB1D, [
    "aHEBREW LETTER YOD WITH HIRIQhPOINT JUDEO-SPANISH VARIKAhLIGATURE YIDDISH YOD YOD PATAH",
    "iETTER ALTERNATIVE AYINoWIDE ALEFtDALETtHEtKAFtLAMEDtFINAL MEMtRESHtTAV",
    "oALTERNATIVE PLUS SIGNoSHIN WITH SHIN DOTzIN DOTyDAGESH AND SHIN DOTêIN DOToALEF WITH PATAH",
    "yQAMATSyMAPIQoBET WITH DAGESHoGIMEL WITH DAGESHoDALET WITH DAGESHoHE WITH MAPIQ",
    "oVAV WITH DAGESHoZAYIN WITH DAGESH"]),
  (0xFB38, [
    "aHEBREW LETTER TET WITH DAGESHoYOD WITH DAGESHoFINAL KAF WITH DAGESHoKAF WITH DAGESH",
    "oLAMED WITH DAGESH"]),
  (0xFB3E, ["aHEBREW LETTER MEM WITH DAGESH"]),
  (0xFB40, ["aHEBREW LETTER NUN WITH DAGESHoSAMEKH WITH DAGESH"]),
  (0xFB43, ["aHEBREW LETTER FINAL PE WITH DAGESHoPE WITH DAGESH"]),
  (0xFB46, [
    "aHEBREW LETTER TSADI WITH DAGESHoQOF WITH DAGESHoRESH WITH DAGESHoSHIN WITH DAGESH",
    "oTAV WITH DAGESHoVAV WITH HOLAMoBET WITH RAFEoKAF WITH RAFEoPE WITH RAFEiIGATURE ALEF LAMED",
    "aARABIC LETTER ALEF WASLA ISOLATED FORMzFINAL FORMoBEEH ISOLATED FORMtFINAL FORM",
    "tINITIAL FORMtMEDIAL FORMoPEH ISOLATED FORMsFINAL FORMsINITIAL FORMsMEDIAL FORM",
    "oBEHEH ISOLATED FORMuFINAL FORMuINITIAL FORMuMEDIAL FORMoTTEHEH ISOLATED FORMvFINAL FORM",
    "vINITIAL FORMvMEDIAL FORMpEHEH ISOLATED FORMuFINAL FORMuINITIAL FORMuMEDIAL FORM",
    "pTEH ISOLATED FORMtFINAL FORMtINITIAL FORMtMEDIAL FORMoVEH ISOLATED FORMsFINAL FORM",
    "sINITIAL FORMsMEDIAL FORMoPEHEH ISOLATED FORMuFINAL FORMuINITIAL FORMuMEDIAL FORM",
    "oDYEH ISOLATED FORMtFINAL FORMtINITIAL FORMtMEDIAL FORMoNYEH ISOLATED FORMtFINAL FORM",
    "tINITIAL FORMtMEDIAL FORMoTCHEH ISOLATED FORMuFINAL FORMuINITIAL FORMuMEDIAL FORM",
    "tEH ISOLATED FORMwFINAL FORMwINITIAL FORMwMEDIAL FORMoDDAHAL ISOLATED FORMvFINAL FORM",
    "pAHAL ISOLATED FORMuFINAL FORMpUL ISOLATED FORMsFINAL FORMpDAL ISOLATED FORMtFINAL FORM",
    "oJEH ISOLATED FORMsFINAL FORMoRREH ISOLATED FORMtFINAL FORMoKEHEH ISOLATED FORMuFINAL FORM",
    "uINITIAL FORMuMEDIAL FORMoGAF ISOLATED FORMsFINAL FORMsINITIAL FORMsMEDIAL FORM",
    "pUEH ISOLATED FORMtFINAL FORMtINITIAL FORMtMEDIAL FORMoNGOEH ISOLATED FORMuFINAL FORM",
    "uINITIAL FORMuMEDIAL FORMpOON GHUNNA ISOLATED FORMàFINAL FORMoRNOON ISOLATED FORMuFINAL FORM",
    "uINITIAL FORMuMEDIAL FORMoHEH WITH YEH ABOVE ISOLATED FORMçFINAL FORMsGOAL ISOLATED FORM",
    "xFINAL FORMxINITIAL FORMxMEDIAL FORMsDOACHASHMEE ISOLATED FORMäFINAL FORMäINITIAL FORM",
    "äMEDIAL FORMoYEH BARREE ISOLATED FORMzFINAL FORMzWITH HAMZA ABOVE ISOLATED FORMðFINAL FORM",
    "hSYMBOL DOT ABOVEsBELOWoTWO DOTS ABOVExBELOWpHREE DOTS ABOVEzBELOWzPOINTING DOWNWARDS ABOVE",
    "òBELOWoFOUR DOTS ABOVEyBELOWoDOUBLE VERTICAL BAR BELOWoTWO DOTS VERTICALLY ABOVEèBELOWoRING",
    "oSMALL TAH ABOVEyBELOWoWASLA ABOVE"]),
  (0xFBD3, [
    "aARABIC LETTER NG ISOLATED FORMrFINAL FORMrINITIAL FORMrMEDIAL FORMoU ISOLATED FORM",
    "qFINAL FORMoOE ISOLATED FORMrFINAL FORMoYU ISOLATED FORMrFINAL FORM",
    "oU WITH HAMZA ABOVE ISOLATED FORMoVE ISOLATED FORMrFINAL FORMoKIRGHIZ OE ISOLATED FORM",
    "zFINAL FORMwYU ISOLATED FORMzFINAL FORMoE ISOLATED FORMqFINAL FORMqINITIAL FORMqMEDIAL FORM",
    "oUIGHUR KAZAKH KIRGHIZ ALEF MAKSURA INITIAL FORM÷MEDIAL FORM",
    "iIGATURE YEH WITH HAMZA ABOVE WITH ALEF ISOLATED FORMõFINAL FORMñE ISOLATED FORMóFINAL FORM",
    "ðWAW ISOLATED FORMôFINAL FORMðU ISOLATED FORMòFINAL FORMðOE ISOLATED FORMóFINAL FORM",
    "ðYU ISOLATED FORMóFINAL FORMðE ISOLATED FORMòFINAL FORMòINITIAL FORM",
    "qUIGHUR KIRGHIZ YEH WITH HAMZA ABOVE WITH ALEF MAKSURA ISOLATED FORM",
    "øE WITH ALEF MAKSURA FINAL FORMøE WITH ALEF MAKSURA INITIAL FORM",
    "iETTER FARSI YEH ISOLATED FORMyFINAL FORMyINITIAL FORMyMEDIAL FORM",
    "iIGATURE YEH WITH HAMZA ABOVE WITH JEEM ISOLATED FORMðHAH ISOLATED FORMðMEEM ISOLATED FORM",
    "ðALEF MAKSURA ISOLATED FORMðYEH ISOLATED FORMqBEH WITH JEEM ISOLATED FORMzHAH ISOLATED FORM",
    "zKHAH ISOLATED FORMzMEEM ISOLATED FORMzALEF MAKSURA ISOLATED FORMzYEH ISOLATED FORM",
    "qTEH WITH JEEM ISOLATED FORMzHAH ISOLATED FORMzKHAH ISOLATED FORMzMEEM ISOLATED FORM",
    "zALEF MAKSURA ISOLATED FORMzYEH ISOLATED FORMrHEH WITH JEEM ISOLATED FORMàMEEM ISOLATED FORM",
    "àALEF MAKSURA ISOLATED FORMàYEH ISOLATED FORMqJEEM WITH HAH ISOLATED FORMàMEEM ISOLATED FORM",
    "qHAH WITH JEEM ISOLATED FORMzMEEM ISOLATED FORMqKHAH WITH JEEM ISOLATED FORM",
    "àHAH ISOLATED FORMàMEEM ISOLATED FORMqSEEN WITH JEEM ISOLATED FORMàHAH ISOLATED FORM",
    "àKHAH ISOLATED FORMàMEEM ISOLATED FORMrAD WITH HAH ISOLATED FORMzMEEM ISOLATED FORM",
    "qDAD WITH JEEM ISOLATED FORMzHAH ISOLATED FORMzKHAH ISOLATED FORMzMEEM ISOLATED FORM",
    "qTAH WITH HAH ISOLATED FORMzMEEM ISOLATED FORMqZAH WITH MEEM ISOLATED FORM",
    "qAIN WITH JEEM ISOLATED FORMzMEEM ISOLATED FORMqGHAIN WITH JEEM ISOLATED FORM",
    "áMEEM ISOLATED FORMqFEH WITH JEEM ISOLATED FORMzHAH ISOLATED FORMzKHAH ISOLATED FORM",
    "zMEEM ISOLATED FORMzALEF MAKSURA ISOLATED FORMzYEH ISOLATED FORMqQAF WITH HAH ISOLATED FORM",
    "zMEEM ISOLATED FORMzALEF MAKSURA ISOLATED FORMzYEH ISOLATED FORMqKAF WITH ALEF ISOLATED FORM",
    "zJEEM ISOLATED FORMzHAH ISOLATED FORMzKHAH ISOLATED FORMzLAM ISOLATED FORM",
    "zMEEM ISOLATED FORMzALEF MAKSURA ISOLATED FORMzYEH ISOLATED FORMqLAM WITH JEEM ISOLATED FORM",
    "zHAH ISOLATED FORMzKHAH ISOLATED FORMzMEEM ISOLATED FORMzALEF MAKSURA ISOLATED FORM",
    "zYEH ISOLATED FORMqMEEM WITH JEEM ISOLATED FORMàHAH ISOLATED FORMàKHAH ISOLATED FORM",
    "àMEEM ISOLATED FORMàALEF MAKSURA ISOLATED FORMàYEH ISOLATED FORM",
    "qNOON WITH JEEM ISOLATED FORMàHAH ISOLATED FORMàKHAH ISOLATED FORMàMEEM ISOLATED FORM",
    "àALEF MAKSURA ISOLATED FORMàYEH ISOLATED FORMqHEH WITH JEEM ISOLATED FORMzMEEM ISOLATED FORM",
    "zALEF MAKSURA ISOLATED FORMzYEH ISOLATED FORMqYEH WITH JEEM ISOLATED FORMzHAH ISOLATED FORM",
    "zKHAH ISOLATED FORMzMEEM ISOLATED FORMzALEF MAKSURA ISOLATED FORMzYEH ISOLATED FORM",
    "qTHAL WITH SUPERSCRIPT ALEF ISOLATED FORMqREH WITH SUPERSCRIPT ALEF ISOLATED FORM",
    "qALEF MAKSURA WITH SUPERSCRIPT ALEF ISOLATED FORMqSHADDA WITH DAMMATAN ISOLATED FORM",
    "âKASRATAN ISOLATED FORMâFATHA ISOLATED FORMâDAMMA ISOLATED FORMâKASRA ISOLATED FORM",
    "âSUPERSCRIPT ALEF ISOLATED FORMqYEH WITH HAMZA ABOVE WITH REH FINAL FORMðZAIN FINAL FORM",
    "ðMEEM FINAL FORMðNOON FINAL FORMðALEF MAKSURA FINAL FORMðYEH FINAL FORM",
    "qBEH WITH REH FINAL FORMzZAIN FINAL FORMzMEEM FINAL FORMzNOON FINAL FORM",
    "zALEF MAKSURA FINAL FORMzYEH FINAL FORMqTEH WITH REH FINAL FORMzZAIN FINAL FORM",
    "zMEEM FINAL FORMzNOON FINAL FORMzALEF MAKSURA FINAL FORMzYEH FINAL FORM",
    "rHEH WITH REH FINAL FORMàZAIN FINAL FORMàMEEM FINAL FORMàNOON FINAL FORM",
    "àALEF MAKSURA FINAL FORMàYEH FINAL FORMqFEH WITH ALEF MAKSURA FINAL FORMzYEH FINAL FORM",
    "qQAF WITH ALEF MAKSURA FINAL FORMzYEH FINAL FORMqKAF WITH ALEF FINAL FORMzLAM FINAL FORM",
    "zMEEM FINAL FORMzALEF MAKSURA FINAL FORMzYEH FINAL FORMqLAM WITH MEEM FINAL FORM",
    "zALEF MAKSURA FINAL FORMzYEH FINAL FORMqMEEM WITH ALEF FINAL FORMàMEEM FINAL FORM",
    "qNOON WITH REH FINAL FORMàZAIN FINAL FORMàMEEM FINAL FORMàNOON FINAL FORM",
    "àALEF MAKSURA FINAL FORMàYEH FINAL FORMqALEF MAKSURA WITH SUPERSCRIPT ALEF FINAL FORM",
    "qYEH WITH REH FINAL FORMzZAIN FINAL FORMzMEEM FINAL FORMzNOON FINAL FORM",
    "zALEF MAKSURA FINAL FORMzYEH FINAL FORMzHAMZA ABOVE WITH JEEM INITIAL FORMðHAH INITIAL FORM",
    "ðKHAH INITIAL FORMðMEEM INITIAL FORMðHEH INITIAL FORMqBEH WITH JEEM INITIAL FORM",
    "zHAH INITIAL FORMzKHAH INITIAL FORMzMEEM INITIAL FORMzHEH INITIAL FORM",
    "qTEH WITH JEEM INITIAL FORMzHAH INITIAL FORMzKHAH INITIAL FORMzMEEM INITIAL FORM",
    "zHEH INITIAL FORMrHEH WITH MEEM INITIAL FORMqJEEM WITH HAH INITIAL FORMàMEEM INITIAL FORM",
    "qHAH WITH JEEM INITIAL FORMzMEEM INITIAL FORMqKHAH WITH JEEM INITIAL FORMàMEEM INITIAL FORM",
    "qSEEN WITH JEEM INITIAL FORMàHAH INITIAL FORMàKHAH INITIAL FORMàMEEM INITIAL FORM",
    "rAD WITH HAH INITIAL FORMzKHAH INITIAL FORMzMEEM INITIAL FORMqDAD WITH JEEM INITIAL FORM",
    "zHAH INITIAL FORMzKHAH INITIAL FORMzMEEM INITIAL FORMqTAH WITH HAH INITIAL FORM",
    "qZAH WITH MEEM INITIAL FORMqAIN WITH JEEM INITIAL FORMzMEEM INITIAL FORM",
    "qGHAIN WITH JEEM INITIAL FORMáMEEM INITIAL FORMqFEH WITH JEEM INITIAL FORMzHAH INITIAL FORM",
    "zKHAH INITIAL FORMzMEEM INITIAL FORMqQAF WITH HAH INITIAL FORMzMEEM INITIAL FORM",
    "qKAF WITH JEEM INITIAL FORMzHAH INITIAL FORMzKHAH INITIAL FORMzLAM INITIAL FORM",
    "zMEEM INITIAL FORMqLAM WITH JEEM INITIAL FORMzHAH INITIAL FORMzKHAH INITIAL FORM",
    "zMEEM INITIAL FORMzHEH INITIAL FORMqMEEM WITH JEEM INITIAL FORMàHAH INITIAL FORM",
    "àKHAH INITIAL FORMàMEEM INITIAL FORMqNOON WITH JEEM INITIAL FORMàHAH INITIAL FORM",
    "àKHAH INITIAL FORMàMEEM INITIAL FORMàHEH INITIAL FORMqHEH WITH JEEM INITIAL FORM",
    "zMEEM INITIAL FORMzSUPERSCRIPT ALEF INITIAL FORMqYEH WITH JEEM INITIAL FORMzHAH INITIAL FORM",
    "zKHAH INITIAL FORMzMEEM INITIAL FORMzHEH INITIAL FORMàAMZA ABOVE WITH MEEM MEDIAL FORM",
    "ðHEH MEDIAL FORMqBEH WITH MEEM MEDIAL FORMzHEH MEDIAL FORMqTEH WITH MEEM MEDIAL FORM",
    "zHEH MEDIAL FORMrHEH WITH MEEM MEDIAL FORMàHEH MEDIAL FORMqSEEN WITH MEEM MEDIAL FORM",
    "àHEH MEDIAL FORMrHEEN WITH MEEM MEDIAL FORMáHEH MEDIAL FORMqKAF WITH LAM MEDIAL FORM",
    "zMEEM MEDIAL FORMqLAM WITH MEEM MEDIAL FORMqNOON WITH MEEM MEDIAL FORMàHEH MEDIAL FORM",
    "qYEH WITH MEEM MEDIAL FORMzHEH MEDIAL FORMqSHADDA WITH FATHA MEDIAL FORMâDAMMA MEDIAL FORM",
    "âKASRA MEDIAL FORMqTAH WITH ALEF MAKSURA ISOLATED FORMzYEH ISOLATED FORM",
    "qAIN WITH ALEF MAKSURA ISOLATED FORMzYEH ISOLATED FORMqGHAIN WITH ALEF MAKSURA ISOLATED FORM",
    "áYEH ISOLATED FORMqSEEN WITH ALEF MAKSURA ISOLATED FORMàYEH ISOLATED FORM",
    "rHEEN WITH ALEF MAKSURA ISOLATED FORMáYEH ISOLATED FORMqHAH WITH ALEF MAKSURA ISOLATED FORM",
    "zYEH ISOLATED FORMqJEEM WITH ALEF MAKSURA ISOLATED FORMàYEH ISOLATED FORM",
    "qKHAH WITH ALEF MAKSURA ISOLATED FORMàYEH ISOLATED FORMqSAD WITH ALEF MAKSURA ISOLATED FORM",
    "zYEH ISOLATED FORMqDAD WITH ALEF MAKSURA ISOLATED FORMzYEH ISOLATED FORM",
    "qSHEEN WITH JEEM ISOLATED FORMáHAH ISOLATED FORMáKHAH ISOLATED FORMáMEEM ISOLATED FORM",
    "áREH ISOLATED FORMrEEN WITH REH ISOLATED FORMrAD WITH REH ISOLATED FORM",
    "qDAD WITH REH ISOLATED FORMqTAH WITH ALEF MAKSURA FINAL FORMzYEH FINAL FORM",
    "qAIN WITH ALEF MAKSURA FINAL FORMzYEH FINAL FORMqGHAIN WITH ALEF MAKSURA FINAL FORM",
    "áYEH FINAL FORMqSEEN WITH ALEF MAKSURA FINAL FORMàYEH FINAL FORM",
    "rHEEN WITH ALEF MAKSURA FINAL FORMáYEH FINAL FORMqHAH WITH ALEF MAKSURA FINAL FORM",
    "zYEH FINAL FORMqJEEM WITH ALEF MAKSURA FINAL FORMàYEH FINAL FORM",
    "qKHAH WITH ALEF MAKSURA FINAL FORMàYEH FINAL FORMqSAD WITH ALEF MAKSURA FINAL FORM",
    "zYEH FINAL FORMqDAD WITH ALEF MAKSURA FINAL FORMzYEH FINAL FORMqSHEEN WITH JEEM FINAL FORM",
    "áHAH FINAL FORMáKHAH FINAL FORMáMEEM FINAL FORMáREH FINAL FORMrEEN WITH REH FINAL FORM",
    "rAD WITH REH FINAL FORMqDAD WITH REH FINAL FORMqSHEEN WITH JEEM INITIAL FORM",
    "áHAH INITIAL FORMáKHAH INITIAL FORMáMEEM INITIAL FORMrEEN WITH HEH INITIAL FORM",
    "rHEEN WITH HEH INITIAL FORMqTAH WITH MEEM INITIAL FORMqSEEN WITH JEEM MEDIAL FORM",
    "àHAH MEDIAL FORMàKHAH MEDIAL FORMrHEEN WITH JEEM MEDIAL FORMáHAH MEDIAL FORM",
    "áKHAH MEDIAL FORMqTAH WITH MEEM MEDIAL FORMqZAH WITH MEEM MEDIAL FORM",
    "qALEF WITH FATHATAN FINAL FORMéISOLATED FORMaORNATE LEFT PARENTHESIShRIGHT PARENTHESIS",
    "aARABIC LIGATURE RAHIMAHU ALLAAHsDI ALLAAHU ANHæAAæUMèAAçNNAqSALLALLAAHU ALAYHI WA-AALIH",
    "qALAYHI AS-SALAAMwM AS-SALAAMxAA AS-SALAAMw AS-SALAATU WAS-SALAAMqQUDDISA SIRRAH",
    "qSALLALLAHU ALAYHI WAAALIHEE WA-SALLAMqALAYHAA AS-SALAAMqTABAARAKA WA-TAAALAA",
    "qRAHIMAHUM ALLAAHqTEH WITH JEEM WITH MEEM INITIAL FORMzHAH WITH JEEM FINAL FORMíINITIAL FORM",
    "èMEEM INITIAL FORMzKHAH WITH MEEM INITIAL FORMzMEEM WITH JEEM INITIAL FORMéHAH INITIAL FORM",
    "éKHAH INITIAL FORMqJEEM WITH MEEM WITH HAH FINAL FORMîINITIAL FORM",
    "qHAH WITH MEEM WITH YEH FINAL FORMéALEF MAKSURA FINAL FORM",
    "qSEEN WITH HAH WITH JEEM INITIAL FORMàJEEM WITH HAH INITIAL FORMêALEF MAKSURA FINAL FORM",
    "àMEEM WITH HAH FINAL FORMîINITIAL FORMêJEEM INITIAL FORMêMEEM FINAL FORMïINITIAL FORM",
    "rAD WITH HAH WITH HAH FINAL FORMìINITIAL FORMzMEEM WITH MEEM FINAL FORM",
    "rHEEN WITH HAH WITH MEEM FINAL FORMïINITIAL FORMáJEEM WITH YEH FINAL FORM",
    "áMEEM WITH KHAH FINAL FORMðINITIAL FORMëMEEM FINAL FORMðINITIAL FORM",
    "qDAD WITH HAH WITH ALEF MAKSURA FINAL FORMzKHAH WITH MEEM FINAL FORMîINITIAL FORM",
    "qTAH WITH MEEM WITH HAH FINAL FORMíINITIAL FORMéMEEM INITIAL FORMéYEH FINAL FORM",
    "qAIN WITH JEEM WITH MEEM FINAL FORMzMEEM WITH MEEM FINAL FORMîINITIAL FORM",
    "éALEF MAKSURA FINAL FORMqGHAIN WITH MEEM WITH MEEM FINAL FORMëYEH FINAL FORM",
    "ëALEF MAKSURA FINAL FORMqFEH WITH KHAH WITH MEEM FINAL FORMîINITIAL FORM",
    "qQAF WITH MEEM WITH HAH FINAL FORMéMEEM FINAL FORMqLAM WITH HAH WITH MEEM FINAL FORM",
    "èYEH FINAL FORMèALEF MAKSURA FINAL FORMzJEEM WITH JEEM INITIAL FORMîFINAL FORM",
    "zKHAH WITH MEEM FINAL FORMîINITIAL FORMzMEEM WITH HAH FINAL FORMíINITIAL FORM",
    "qMEEM WITH HAH WITH JEEM INITIAL FORMéMEEM INITIAL FORMéYEH FINAL FORM",
    "àJEEM WITH HAH INITIAL FORMêMEEM INITIAL FORMàKHAH WITH JEEM INITIAL FORMêMEEM INITIAL FORM"]),
  (0xFD92, [
    "aARABIC LIGATURE MEEM WITH JEEM WITH KHAH INITIAL FORMqHEH WITH MEEM WITH JEEM INITIAL FORM",
    "éMEEM INITIAL FORMqNOON WITH HAH WITH MEEM INITIAL FORMéALEF MAKSURA FINAL FORM",
    "àJEEM WITH MEEM FINAL FORMïINITIAL FORMêALEF MAKSURA FINAL FORMàMEEM WITH YEH FINAL FORM",
    "êALEF MAKSURA FINAL FORMqYEH WITH MEEM WITH MEEM FINAL FORMîINITIAL FORM",
    "qBEH WITH KHAH WITH YEH FINAL FORMqTEH WITH JEEM WITH YEH FINAL FORMéALEF MAKSURA FINAL FORM",
    "zKHAH WITH YEH FINAL FORMéALEF MAKSURA FINAL FORMzMEEM WITH YEH FINAL FORM",
    "éALEF MAKSURA FINAL FORMqJEEM WITH MEEM WITH YEH FINAL FORMàHAH WITH ALEF MAKSURA FINAL FORM",
    "àMEEM WITH ALEF MAKSURA FINAL FORMqSEEN WITH KHAH WITH ALEF MAKSURA FINAL FORM",
    "rAD WITH HAH WITH YEH FINAL FORMrHEEN WITH HAH WITH YEH FINAL FORM",
    "qDAD WITH HAH WITH YEH FINAL FORMqLAM WITH JEEM WITH YEH FINAL FORMzMEEM WITH YEH FINAL FORM",
    "qYEH WITH HAH WITH YEH FINAL FORMzJEEM WITH YEH FINAL FORMzMEEM WITH YEH FINAL FORM",
    "qMEEM WITH MEEM WITH YEH FINAL FORMqQAF WITH MEEM WITH YEH FINAL FORM",
    "qNOON WITH HAH WITH YEH FINAL FORMqQAF WITH MEEM WITH HAH INITIAL FORM",
    "qLAM WITH HAH WITH MEEM INITIAL FORMqAIN WITH MEEM WITH YEH FINAL FORM",
    "qKAF WITH MEEM WITH YEH FINAL FORMqNOON WITH JEEM WITH HAH INITIAL FORM",
    "qMEEM WITH KHAH WITH YEH FINAL FORMqLAM WITH JEEM WITH MEEM INITIAL FORM",
    "qKAF WITH MEEM WITH MEEM FINAL FORMqLAM WITH JEEM WITH MEEM FINAL FORM",
    "qNOON WITH JEEM WITH HAH FINAL FORMqJEEM WITH HAH WITH YEH FINAL FORM",
    "qHAH WITH JEEM WITH YEH FINAL FORMqMEEM WITH JEEM WITH YEH FINAL FORM",
    "qFEH WITH MEEM WITH YEH FINAL FORMqBEH WITH HAH WITH YEH FINAL FORM",
    "qKAF WITH MEEM WITH MEEM INITIAL FORMqAIN WITH JEEM WITH MEEM INITIAL FORM",
    "qSAD WITH MEEM WITH MEEM INITIAL FORMrEEN WITH KHAH WITH YEH FINAL FORM",
    "qNOON WITH JEEM WITH YEH FINAL FORM"]),
  (0xFDCF, ["aARABIC LIGATURE SALAAMUHU ALAYNAA"]),
  (0xFDF0, [
    "aARABIC LIGATURE SALLA USED AS KORANIC STOP SIGN ISOLATED FORM",
    "qQALA USED AS KORANIC STOP SIGN ISOLATED FORMqALLAH ISOLATED FORMrKBAR ISOLATED FORM",
    "qMOHAMMAD ISOLATED FORMqSALAM ISOLATED FORMqRASOUL ISOLATED FORMqALAYHE ISOLATED FORM",
    "qWASALLAM ISOLATED FORMqSALLA ISOLATED FORMvLLAHOU ALAYHE WASALLAMqJALLAJALALOUHOUaRIAL SIGN",
    "aARABIC LIGATURE BISMILLAH AR-RAHMAN AR-RAHEEMqSUBHAANAHU WA TAAALAAqAZZA WA JALL",
    "aVARIATION SELECTOR-1t2t3t4t5t6t7t8t9t10u1u2u3u4u5u6aPRESENTATION FORM FOR VERTICAL COMMA",
    "åIDEOGRAPHIC COMMAñFULL STOPåCOLONåSEMICOLONåEXCLAMATION MARKåQUESTION MARK",
    "åLEFT WHITE LENTICULAR BRACKETåRIGHT WHITE LENTICULAR BRAKCETåHORIZONTAL ELLIPSIS"]),
  (0xFE20, [
    "aCOMBINING LIGATURE LEFT HALFtRIGHT HALFkDOUBLE TILDE LEFT HALFxRIGHT HALFkMACRON LEFT HALF",
    "rRIGHT HALFkCONJOINING MACRONkLIGATURE LEFT HALF BELOWtRIGHT HALF BELOW",
    "kTILDE LEFT HALF BELOWqRIGHT HALF BELOWkMACRON LEFT HALF BELOWrRIGHT HALF BELOW",
    "kCONJOINING MACRON BELOWlYRILLIC TITLO LEFT HALFzRIGHT HALF",
    "aPRESENTATION FORM FOR VERTICAL TWO DOT LEADERåEM DASHæN DASHåLOW LINEåWAVY LOW LINE",
    "åLEFT PARENTHESISåRIGHT PARENTHESISåLEFT CURLY BRACKETåRIGHT CURLY BRACKET",
    "åLEFT TORTOISE SHELL BRACKETåRIGHT TORTOISE SHELL BRACKETåLEFT BLACK LENTICULAR BRACKET",
    "åRIGHT BLACK LENTICULAR BRACKETåLEFT DOUBLE ANGLE BRACKETåRIGHT DOUBLE ANGLE BRACKET",
    "åLEFT ANGLE BRACKETåRIGHT ANGLE BRACKETåLEFT CORNER BRACKETåRIGHT CORNER BRACKET",
    "åLEFT WHITE CORNER BRACKETåRIGHT WHITE CORNER BRACKETaSESAME DOTaWHITE SESAME DOT",
    "aPRESENTATION FORM FOR VERTICAL LEFT SQUARE BRACKETåRIGHT SQUARE BRACKETaDASHED OVERLINE",
    "aCENTRELINE OVERLINEaWAVY OVERLINEaDOUBLE WAVY OVERLINEbASHED LOW LINEaCENTRELINE LOW LINE",
    "aWAVY LOW LINEaSMALL COMMAgIDEOGRAPHIC COMMAgFULL STOP"]),
  (0xFE54, [
    "aSMALL SEMICOLONgCOLONgQUESTION MARKgEXCLAMATION MARKhM DASHgLEFT PARENTHESIS",
    "gRIGHT PARENTHESISgLEFT CURLY BRACKETgRIGHT CURLY BRACKETgLEFT TORTOISE SHELL BRACKET",
    "gRIGHT TORTOISE SHELL BRACKETgNUMBER SIGNgAMPERSANDhSTERISKgPLUS SIGNgHYPHEN-MINUS",
    "gLESS-THAN SIGNgGREATER-THAN SIGNgEQUALS SIGN"]),
  (0xFE68, ["aSMALL REVERSE SOLIDUSgDOLLAR SIGNgPERCENT SIGNgCOMMERCIAL AT"]),
  (0xFE70, [
    "aARABIC FATHATAN ISOLATED FORMhTATWEEL WITH FATHATAN ABOVEhDAMMATAN ISOLATED FORM",
    "hTAIL FRAGMENThKASRATAN ISOLATED FORM"]),
  (0xFE76, [
    "aARABIC FATHA ISOLATED FORMnMEDIAL FORMhDAMMA ISOLATED FORMnMEDIAL FORMhKASRA ISOLATED FORM",
    "nMEDIAL FORMhSHADDA ISOLATED FORMoMEDIAL FORMiUKUN ISOLATED FORMnMEDIAL FORM",
    "hLETTER HAMZA ISOLATED FORMoALEF WITH MADDA ABOVE ISOLATED FORMêFINAL FORM",
    "yHAMZA ABOVE ISOLATED FORMêFINAL FORMoWAW WITH HAMZA ABOVE ISOLATED FORMéFINAL FORM",
    "oALEF WITH HAMZA BELOW ISOLATED FORMêFINAL FORMoYEH WITH HAMZA ABOVE ISOLATED FORM",
    "éFINAL FORMéINITIAL FORMéMEDIAL FORMoALEF ISOLATED FORMtFINAL FORMoBEH ISOLATED FORM",
    "sFINAL FORMsINITIAL FORMsMEDIAL FORMoTEH MARBUTA ISOLATED FORMàFINAL FORMsISOLATED FORM",
    "sFINAL FORMsINITIAL FORMsMEDIAL FORMpHEH ISOLATED FORMtFINAL FORMtINITIAL FORMtMEDIAL FORM",
    "oJEEM ISOLATED FORMtFINAL FORMtINITIAL FORMtMEDIAL FORMoHAH ISOLATED FORMsFINAL FORM",
    "sINITIAL FORMsMEDIAL FORMoKHAH ISOLATED FORMtFINAL FORMtINITIAL FORMtMEDIAL FORM",
    "oDAL ISOLATED FORMsFINAL FORMoTHAL ISOLATED FORMtFINAL FORMoREH ISOLATED FORMsFINAL FORM",
    "oZAIN ISOLATED FORMtFINAL FORMoSEEN ISOLATED FORMtFINAL FORMtINITIAL FORMtMEDIAL FORM",
    "pHEEN ISOLATED FORMuFINAL FORMuINITIAL FORMuMEDIAL FORMpAD ISOLATED FORMsFINAL FORM",
    "sINITIAL FORMsMEDIAL FORMoDAD ISOLATED FORMsFINAL FORMsINITIAL FORMsMEDIAL FORM",
    "oTAH ISOLATED FORMsFINAL FORMsINITIAL FORMsMEDIAL FORMoZAH ISOLATED FORMsFINAL FORM",
    "sINITIAL FORMsMEDIAL FORMoAIN ISOLATED FORMsFINAL FORMsINITIAL FORMsMEDIAL FORM",
    "oGHAIN ISOLATED FORMuFINAL FORMuINITIAL FORMuMEDIAL FORMoFEH ISOLATED FORMsFINAL FORM",
    "sINITIAL FORMsMEDIAL FORMoQAF ISOLATED FORMsFINAL FORMsINITIAL FORMsMEDIAL FORM",
    "oKAF ISOLATED FORMsFINAL FORMsINITIAL FORMsMEDIAL FORMoLAM ISOLATED FORMsFINAL FORM",
    "sINITIAL FORMsMEDIAL FORMoMEEM ISOLATED FORMtFINAL FORMtINITIAL FORMtMEDIAL FORM",
    "oNOON ISOLATED FORMtFINAL FORMtINITIAL FORMtMEDIAL FORMoHEH ISOLATED FORMsFINAL FORM",
    "sINITIAL FORMsMEDIAL FORMoWAW ISOLATED FORMsFINAL FORMoALEF MAKSURA ISOLATED FORMáFINAL FORM",
    "oYEH ISOLATED FORMsFINAL FORMsINITIAL FORMsMEDIAL FORM",
    "iIGATURE LAM WITH ALEF WITH MADDA ABOVE ISOLATED FORMõFINAL FORMéHAMZA ABOVE ISOLATED FORM",
    "õFINAL FORMïBELOW ISOLATED FORMõFINAL FORMäISOLATED FORMäFINAL FORM"]),
  (0xFEFF, ["aZERO WIDTH NO-BREAK SPACE"]),
  (0xFF01, [
    "aFULLWIDTH EXCLAMATION MARKkQUOTATION MARKkNUMBER SIGNkDOLLAR SIGNkPERCENT SIGNkAMPERSAND",
    "lPOSTROPHEkLEFT PARENTHESISkRIGHT PARENTHESISkASTERISKkPLUS SIGNkCOMMAkHYPHEN-MINUS",
    "kFULL STOPkSOLIDUSkDIGIT ZEROqONEqTWOrHREEqFOURrIVEqSIXrEVENqEIGHTqNINEkCOLONkSEMICOLON",
    "kLESS-THAN SIGNkEQUALS SIGNkGREATER-THAN SIGNkQUESTION MARKkCOMMERCIAL AT",
    "kLATIN CAPITAL LETTER AåBåCåDåEåFåGåHåIåJåKåLåMåNåOåPåQåRåSåTåUåVåWåXåYåZlEFT SQUARE BRACKET",
    "kREVERSE SOLIDUSlIGHT SQUARE BRACKETkCIRCUMFLEX ACCENTkLOW LINEkGRAVE ACCENT",
    "kLATIN SMALL LETTER AãBãCãDãEãFãGãHãIãJãKãLãMãNãOãPãQãRãSãTãUãVãWãXãYãZlEFT CURLY BRACKET",
    "kVERTICAL LINEkRIGHT CURLY BRACKETkTILDEkLEFT WHITE PARENTHESISkRIGHT WHITE PARENTHESIS",
    "aHALFWIDTH IDEOGRAPHIC FULL STOPkLEFT CORNER BRACKETkRIGHT CORNER BRACKETkIDEOGRAPHIC COMMA",
    "kKATAKANA MIDDLE DOTtLETTER WOàSMALL AæIæUæEæOæYAçUçOæTUs-HIRAGANA PROLONGED SOUND MARK",
    "s LETTER AàIàUàEàOàKAáIáUáEáOàSAáIáUáEáOàTAáIáUáEáOàNAáIáUáEáOàHAáIáUáEáOàMAáIáUáEáOàYAáUáO",
    "àRAáIáUáEáOàWAàNtVOICED SOUND MARKtSEMI-VOICED SOUND MARKkHANGUL FILLERrLETTER KIYEOK",
    "ySSANGKIYEOKyKIYEOK-SIOSyNIEUNã-CIEUCäHIEUHyTIKEUTySSANGTIKEUTyRIEULã-KIYEOKäMIEUMäPIEUP",
    "äSIOSäTHIEUTHäPHIEUPHäHIEUHyMIEUMyPIEUPySSANGPIEUPyPIEUP-SIOSySIOSzSANGSIOSyIEUNGyCIEUC",
    "ySSANGCIEUCyCHIEUCHyKHIEUKHyTHIEUTHyPHIEUPHyHIEUH"]),
  (0xFFC2, ["aHALFWIDTH HANGUL LETTER AzEyYAàEyEOz"]),
  (0xFFCA, ["aHALFWIDTH HANGUL LETTER YEOàyOyWAàEyOE"]),
  (0xFFD2, ["aHALFWIDTH HANGUL LETTER YOyUyWEOàzIyYU"]),
  (0xFFDA, ["aHALFWIDTH HANGUL LETTER EUyYIyI"]),
  (0xFFE0, ["aFULLWIDTH CENT SIGNkPOUND SIGNkNOT SIGNkMACRONkBROKEN BARkYEN SIGNkWON SIGN"]),
  (0xFFE8, [
    "aHALFWIDTH FORMS LIGHT VERTICALkLEFTWARDS ARROWkUPWARDS ARROWkRIGHTWARDS ARROW",
    "kDOWNWARDS ARROWkBLACK SQUAREkWHITE CIRCLE"]),
  (0xFFF9, [
    "aINTERLINEAR ANNOTATION ANCHORxSEPARATORxTERMINATORaOBJECT REPLACEMENT CHARACTER",
    "aREPLACEMENT CHARACTER"]),
  (0x10000, [
    "aLINEAR B SYLLABLE B008 Au38 Eu28 Iu61 Ou10 Uu01 DAu45 DEu07 DIu14 DOu51 DUv7 JAu46 JE"]),
  (0x1000D, [
    "aLINEAR B SYLLABLE B036 JOu65 JUu77 KAu44 KEu67 KIu70 KOu81 KUv0 MAu13 MEu73 MIu15 MOu23 MU",
    "u06 NAu24 NEu30 NIu52 NOv5 NUu03 PAu72 PEu39 PIu11 POu50 PUu16 QAu78 QEu21 QIu32 QO"]),
  (0x10028, [
    "aLINEAR B SYLLABLE B060 RAu27 REu53 RIu02 ROu26 RUu31 SAu09 SEu41 SIu12 SOu58 SUv9 TAu04 TE",
    "u37 TIu05 TOu69 TUu54 WAu75 WEu40 WIv2 WO"]),
  (0x1003C, ["aLINEAR B SYLLABLE B017 ZAu74 ZE"]),
  (0x1003F, [
    "aLINEAR B SYLLABLE B020 ZOv5 A2u43 A3u85 AUu71 DWEu90 DWOu48 NWAu29 PU2u62 PTEu76 RA2u33 RA3",
    "u68 RO2v6 TA2u87 TWEu91 TWO"]),
  (0x10050, ["aLINEAR B SYMBOL B018t9s22s34s47t9s56s63t4s79s82t3t6t9"]),
  (0x10080, [
    "aLINEAR B IDEOGRAM B100 MANv2 WOMANv4 DEERv5 EQUIDwF MAREwM STALLIONv6F EWEwM RAM",
    "v7F SHE-GOATwM HE-GOATv8F SOWwM BOARv9F COWwM BULLu20 WHEATv1 BARLEYv2 OLIVEv3 SPICE",
    "v5 CYPERUSjMONOGRAM B127 KAPOv8 KANAKOjIDEOGRAM B130 OILv1 WINEv2jMONOGRAM B133 AREPAv5 MERI",
    "jIDEOGRAM B140 BRONZEv1 GOLDv2v5 WOOLv6u50v1 HORNv2v3v4jMONOGRAM B156 TURO2jIDEOGRAM B157v8",
    "v9 CLOTHu60v1v2 GARMENTv3 ARMOURv4v5v6v7v8v9u70v1v2v3 MONTHv4v6 TREEv7v8v9u80v1v2v3v4v5v9u90",
    "v1 HELMETt220 FOOTSTOOLv5 BATHTUBu30 SPEARv1 ARROWv2v3 SWORDv4v6u40 WHEELED CHARIOT",
    "v1 CHARIOTv2 CHARIOT FRAMEv3 WHEELv5v6jMONOGRAM B247 DIPTEjIDEOGRAM B248v9u51v2v3v4 DARTv5v6",
    "v7v8v9sVESSEL B155à200â1â2â3â4â5â6â7â8â9á10â1â2â3â4â5â6â7â8â9á21â2â6â7â8â9á50à305"]),
  (0x10100, ["aAEGEAN WORD SEPARATOR LINEwDOThCHECK MARK"]),
  (0x10107, [
    "aAEGEAN NUMBER ONEoTWOpHREEoFOURpIVEoSIXpEVENoEIGHToNINEoTENpWENTYpHIRTYoFORTYpIFTYoSIXTY",
    "pEVENTYoEIGHTYoNINETYoONE HUNDREDoTWO HUNDREDpHREE HUNDREDoFOUR HUNDREDpIVE HUNDRED",
    "oSIX HUNDREDpEVEN HUNDREDoEIGHT HUNDREDoNINE HUNDREDoONE THOUSANDoTWO THOUSANDpHREE THOUSAND",
    "oFOUR THOUSANDpIVE THOUSANDoSIX THOUSANDpEVEN THOUSANDoEIGHT THOUSANDoNINE THOUSAND",
    "oTEN THOUSANDpWENTY THOUSANDpHIRTY THOUSANDoFORTY THOUSANDpIFTY THOUSANDoSIXTY THOUSAND",
    "pEVENTY THOUSANDoEIGHTY THOUSANDoNINETY THOUSAND"]),
  (0x10137, [
    "aAEGEAN WEIGHT BASE UNIToFIRST SUBUNIToSECOND SUBUNIToTHIRD SUBUNIToFOURTH SUBUNIT",
    "hDRY MEASURE FIRST SUBUNIThLIQUID MEASURE FIRST SUBUNIThMEASURE SECOND SUBUNITpTHIRD SUBUNIT",
    "aGREEK ACROPHONIC ATTIC ONE QUARTERáHALFáDRACHMAxFIVEzFTYzVE HUNDREDâTHOUSANDzFTY THOUSAND",
    "zVE TALENTSxTEN TALENTSxFIFTY TALENTSxONE HUNDRED TALENTSxFIVE HUNDRED TALENTS",
    "xONE THOUSAND TALENTSxFIVE THOUSAND TALENTSâSTATERSxTEN STATERSxFIFTY STATERS",
    "xONE HUNDRED STATERSxFIVE HUNDRED STATERSxONE THOUSAND STATERSxTEN THOUSAND STATERS",
    "xFIFTY THOUSAND STATERSxTEN MNASrHERAEUM ONE PLETHRONrTHESPIAN ONErHERMIONIAN ONE",
    "rEPIDAUREAN TWOrTHESPIAN TWOrCYRENAIC TWO DRACHMASrEPIDAUREAN TWO DRACHMASrTROEZENIAN FIVE",
    "âTENå ALTERNATE FORMrHERMIONIAN TENrMESSENIAN TENrTHESPIAN TENáHIRTYsROEZENIAN FIFTY",
    "ç ALTERNATE FORMrHERMIONIAN FIFTYrTHESPIAN FIFTYàONE HUNDREDàTHREE HUNDRED",
    "rEPIDAUREAN FIVE HUNDREDrTROEZENIAN FIVE HUNDREDsHESPIAN FIVE HUNDREDrCARYSTIAN FIVE HUNDRED",
    "rNAXIAN FIVE HUNDREDrTHESPIAN ONE THOUSANDàFIVE THOUSANDrDELPHIC FIVE MNAS",
    "rSTRATIAN FIFTY MNASgONE HALF SIGNt ALTERNATE FORMgTWO THIRDS SIGNhHREE QUARTERS SIGN",
    "gYEAR SIGNgTALENT SIGNgDRACHMA SIGNgOBOL SIGNgTWO OBOLS SIGNhHREE OBOLS SIGNgFOUR OBOLS SIGN",
    "hIVE OBOLS SIGNgMETRETES SIGNgKYATHOS BASE SIGNgLITRA SIGNgOUNKIA SIGNgXESTES SIGN",
    "gARTABE SIGNiOURA SIGNgGRAMMA SIGNgTRYBLION BASE SIGNgZERO SIGNgONE QUARTER SIGN",
    "gSINUSOID SIGNgINDICTION SIGNaNOMISMA SIGN"]),
  (0x10190, [
    "aROMAN SEXTANS SIGNgUNCIA SIGNgSEMUNCIA SIGNiXTULA SIGNgDIMIDIA SEXTULA SIGNgSILIQUA SIGN",
    "gDENARIUS SIGNgQUINARIUS SIGNgSESTERTIUS SIGNgDUPONDIUS SIGNgAS SIGNgCENTURIAL SIGN",
    "aASCIA SYMBOL"]),
  (0x101A0, ["aGREEK SYMBOL TAU RHO"]),
  (0x101D0, [
    "aPHAISTOS DISC SIGN PEDESTRIANuLUMED HEADtTATTOOED HEADtCAPTIVEuHILDtWOMANtHELMETtGAUNTLET",
    "tTIARAtARROWtBOWtSHIELDtCLUBtMANACLESvTTOCKtSAWtLIDtBOOMERANGtCARPENTRY PLANEtDOLIUMtCOMB",
    "tSLINGtCOLUMNtBEEHIVEtSHIPtHORNuIDEtBULLS LEGtCATtRAMtEAGLEtDOVEtTUNNYtBEEtPLANE TREEtVINE",
    "tPAPYRUStROSETTEtLILYtOX BACKtFLUTEtGRATERtSTRAINERuMALL AXEtWAVY BAND",
    "tCOMBINING OBLIQUE STROKE"]),
  (0x10280, ["aLYCIAN LETTER AoEoBpHoGoDoIoWoZoTHoJoKoQoLoMoNoMMoNNoUoPoKKoRoSoTpToANoENoHoX"])]

end ToolBindings.Text
