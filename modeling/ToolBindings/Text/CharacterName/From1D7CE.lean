/-!
# Character names from U+1D7CE to U+E01EF

The names of Unicode 14.0, in the form that `NameBlock` describes.
-/
namespace ToolBindings.Text

/-- The names from U+1D7CE to U+E01EF. -/
def characterNamesFrom1D7CE : List (Nat × List String) := [
  (0x1D7CE, [
    "aMATHEMATICAL BOLD DIGIT ZEROyONEyTWOzHREEyFOURzIVEySIXzEVENyEIGHTyNINE",
    "nDOUBLE-STRUCK DIGIT ZEROçONEçTWOèHREEçFOURèIVEçSIXèEVENçEIGHTçNINEnSANS-SERIF DIGIT ZERO",
    "äONEäTWOåHREEäFOURåIVEäSIXåEVENäEIGHTäNINEyBOLD DIGIT ZEROéONEéTWOêHREEéFOURêIVEéSIXêEVEN",
    "éEIGHTéNINEnMONOSPACE DIGIT ZEROãONEãTWOäHREEãFOURäIVEãSIXäEVENãEIGHTãNINE",
    "aSIGNWRITING HAND-FIST INDEXrCIRCLE INDEXsUP INDEXrOVAL INDEXrHINGE INDEXrANGLE INDEX",
    "rFIST INDEX BENTrCIRCLE INDEX BENTrFIST THUMB UNDER INDEX BENTwINDEX RAISED KNUCKLEâCUPPED",
    "âHINGEDè LOWrCIRCLE INDEX HINGErFIST INDEX MIDDLErCIRCLE INDEX MIDDLErFIST INDEX MIDDLE BENT",
    "éRAISED KNUCKLESéHINGEDâUP MIDDLE HINGEDâHINGED MIDDLE UPâMIDDLE CONJOINEDò INDEX BENT",
    "óMIDDLE BENTóCUPPEDóHINGEDêROSSEDrCIRCLE INDEX MIDDLE CROSSEDrFIST MIDDLE BENT OVER INDEX",
    "wINDEX BENT OVER MIDDLEâMIDDLE THUMBrCIRCLE INDEX MIDDLE THUMB",
    "rFIST INDEX MIDDLE STRAIGHT THUMB BENTéBENT THUMB STRAIGHTéTHUMB BENT",
    "éHINGED SPREAD THUMB SIDEâUP MIDDLE HINGED THUMB SIDEø CONJOINEDâHINGED MIDDLE UP THUMB SIDE",
    "âMIDDLE UP SPREAD THUMB FORWARDéTHUMB CUPPEDðIRCLEDïHOOKEDðINGED",
    "wTHUMB BETWEEN INDEX MIDDLE STRAIGHTwINDEX MIDDLE CONJOINED THUMB SIDEø SIDE CONJOINED",
    "ø SIDE BENTwMIDDLE THUMB HOOKED INDEX UPwINDEX THUMB HOOKED MIDDLE UP",
    "âMIDDLE CONJOINED HINGED THUMB SIDEêROSSED THUMB SIDEêONJOINED THUMB FORWARD",
    "óCUPPED THUMB FORWARDwMIDDLE THUMB CUPPED INDEX UPwINDEX THUMB CUPPED MIDDLE UP",
    "wMIDDLE THUMB CIRCLED INDEX UP÷HINGEDwINDEX THUMB ANGLED OUT MIDDLE UPïIN MIDDLE UP",
    "èCIRCLED MIDDLE UPâMIDDLE THUMB CONJOINED HINGEDïANGLED OUTõ",
    "wMIDDLE THUMB ANGLED OUT INDEX UPøX CROSSEDðINDEX UPwINDEX THUMB HOOKED MIDDLE HINGED",
    "sLAT FOUR FINGERSè BENTéHINGEDéCONJOINEDò SPLITrCLAW FOUR FINGERS CONJOINED",
    "rFIST FOUR FINGERS CONJOINED BENTrHINGE FOUR FINGERS CONJOINEDrFLAT FIVE FINGERS SPREAD",
    "wHEEL FIVE FINGERS SPREADwFIVE FINGERS SPREAD FOUR BENTwHEEL FIVE FINGERS SPREAD FOUR BENT",
    "wFIVE FINGERS SPREAD BENTwHEEL FIVE FINGERS SPREAD BENTwFIVE FINGERS SPREAD THUMB FORWARD",
    "rCUP FIVE FINGERS SPREADî OPENrHINGE FIVE FINGERS SPREAD OPENrOVAL FIVE FINGERS SPREAD",
    "rFLAT FIVE FINGERS SPREAD HINGEDö THUMB SIDE÷NO THUMBvv BETWEEN PALM FACINGSwHEELwTHUMB SIDE",
    "wHEEL THUMB SIDEwTHUMB BENTâFORWARDwSPLIT INDEX THUMB SIDEâCENTREè THUMB SIDEó BENTâLITTLE",
    "rCLAWv THUMB SIDEwNO THUMBwTHUMB FORWARDrHOOK CURLICUEvrCUP OPENuu OPEN THUMB SIDE",
    "vTHUMB SIDEvOPEN NO THUMBvNO THUMBvOPEN THUMB FORWARDvTHUMB FORWARDtRLICUE OPENzsIRCLErOVAL",
    "v THUMB SIDEwNO THUMBwTHUMB FORWARDrHINGE OPENá THUMB FORWARDww SMALLxOPEN THUMB SIDE",
    "xTHUMB SIDExOPEN NO THUMBxNO THUMBxTHUMB SIDE TOUCHING INDEXãBETWEEN MIDDLE RINGrANGLE",
    "rFIST INDEX MIDDLE RINGrCIRCLE INDEX MIDDLE RINGrHINGE INDEX MIDDLE RING",
    "rANGLE INDEX MIDDLE RINGrHINGE LITTLErFIST INDEX MIDDLE RING BENTîCONJOINED",
    "rHINGE INDEX MIDDLE RING CONJOINEDrFIST LITTLE DOWNç RIPPLE STRAIGHTïCURVEDèOTHERS CIRCLED",
    "ãUPwTHUMB UNDER LITTLE UPrCIRCLE LITTLE UPrOVAL LITTLE UPrANGLE LITTLE UP",
    "rFIST LITTLE RAISED KNUCKLEãBENTãTOUCHES THUMBäHUMBrHINGE LITTLE THUMB",
    "rFIST LITTLE INDEX THUMBrHINGE LITTLE INDEX THUMBrANGLE LITTLE INDEX THUMB INDEX THUMB OUT",
    "øUMBrFIST LITTLE INDEXrCIRCLE LITTLE INDEXrHINGE LITTLE INDEXrANGLE LITTLE INDEX",
    "rFIST INDEX MIDDLE LITTLErCIRCLE INDEX MIDDLE LITTLErHINGE INDEX MIDDLE LITTLExRING",
    "rANGLE INDEX MIDDLE LITTLErFIST INDEX MIDDLE CROSS LITTLErCIRCLE INDEX MIDDLE CROSS LITTLE",
    "rFIST RING DOWNrHINGE RING DOWN INDEX THUMB HOOK MIDDLE",
    "rANGLE RING DOWN MIDDLE THUMB INDEX CROSSrFIST RING UPáRAISED KNUCKLEáLITTLE",
    "rCIRCLE RING LITTLErOVAL RING LITTLErANGLE RING LITTLErFIST RING MIDDLEç CONJOINED",
    "èRAISED KNUCKLESáINDEXáTHUMBrHOOK RING THUMBrFIST INDEX RING LITTLErCIRCLE INDEX RING LITTLE",
    "sURLICUE INDEX RING LITTLE ONrHOOK INDEX RING LITTLE OUTîINîUNDERrCUP INDEX RING LITTLE",
    "rHINGE INDEX RING LITTLErANGLE INDEX RING LITTLE OUTîrFIST MIDDLE DOWNrHINGE MIDDLE",
    "rFIST MIDDLE UPrCIRCLE MIDDLE UPrFIST MIDDLE RAISED KNUCKLEãUP THUMB SIDErHOOK MIDDLE THUMB",
    "rFIST MIDDLE THUMB LITTLEãLITTLEãRING LITTLErCIRCLE MIDDLE RING LITTLE",
    "sURLICUE MIDDLE RING LITTLE ONtP MIDDLE RING LITTLErHINGE MIDDLE RING LITTLE",
    "rANGLE MIDDLE RING LITTLE OUTðINïrCIRCLE MIDDLE RING LITTLE BENT",
    "sLAW MIDDLE RING LITTLE CONJOINEDø SIDErHOOK MIDDLE RING LITTLE CONJOINED OUTø INø",
    "sINGE INDEX HINGEDrFIST INDEX THUMB SIDErHINGE INDEX THUMB SIDE",
    "rFIST INDEX THUMB SIDE THUMB DIAGONALóCONJOINEDóBENTíINDEX BENTíBOTH BENTíINDEX HINGE",
    "èFORWARD INDEX STRAIGHTöBENTèHOOKèCURLICUEëVE THUMB INSIDE",
    "rCLAW INDEX THUMB CURVE THUMB INSIDErFIST INDEX THUMB CURVE THUMB UNDERéIRCLE",
    "rCUP INDEX THUMBæ OPENrHINGE INDEX THUMB OPENéLARGEèè SMALLrANGLE INDEX THUMB OUTéINè",
    "rFIST THUMBá HEELâSIDE DIAGONALçCONJOINEDçBENTâFORWARDâBETWEEN INDEX MIDDLEêMIDDLE RING",
    "êRING LITTLEâUNDER TWO FINGERSâOVER TWO FINGERSâUNDER THREE FINGERSèFOUR FINGERS",
    "âOVER FOUR RAISED KNUCKLESvv HEELmTOUCH SINGLEsMULTIPLEsBETWEENmGRASP SINGLEsMULTIPLE",
    "sBETWEENmSTRIKE SINGLEtMULTIPLEtBETWEENmBRUSH SINGLEsMULTIPLEsBETWEENmRUB SINGLEqMULTIPLE",
    "qBETWEENmSURFACE SYMBOLSuBETWEENnQUEEZE LARGE SINGLEuSMALL SINGLEuLARGE MULTIPLE",
    "uSMALL MULTIPLEvEQUENTIALmFLICK LARGE SINGLEsSMALL SINGLEsLARGE MULTIPLEsSMALL MULTIPLE",
    "tEQUENTIALmSQUEEZE FLICK ALTERNATINGmMOVEMENT-HINGE UP DOWN LARGEéSMALLäSEQUENTIAL",
    "áDOWN SEQUENTIALáUP DOWN ALTERNATING LARGEõSMALLáSIDE TO SIDE SCISSORS",
    "vWALLPLANE FINGER CONTACTvFLOORPLANE FINGER CONTACTvWALLPLANE SINGLE STRAIGHT SMALLõMEDIUM",
    "õLARGEøGESTìWRIST FLEXåDOUBLE STRAIGHTìWRIST FLEXìALTERNATING÷ WRIST FLEXåCROSS",
    "åTRIPLE STRAIGHT MOVEMENTìWRIST FLEXìALTERNATING÷ WRIST FLEXåBEND SMALLêMEDIUMêLARGE",
    "åCORNER SMALLìMEDIUMìLARGEìROTATIONæHECK SMALLëMEDIUMëLARGEåBOX SMALLéMEDIUMéLARGE",
    "åZIGZAG SMALLìMEDIUMìLARGEåPEAKS SMALLëMEDIUMëLARGE",
    "mTRAVEL-WALLPLANE ROTATION-WALLPLANE SINGLEöDOUBLEöALTERNATINGìFLOORPLANE SINGLE÷DOUBLE",
    "÷ALTERNATINGãSHAKINGãARM SPIRAL SINGLEîDOUBLEîTRIPLEmMOVEMENT-DIAGONAL AWAY SMALLéMEDIUM",
    "éLARGEîSTäTOWARDS SMALLìMEDIUMìLARGEñSTäBETWEEN AWAY SMALLñMEDIUMñLARGEöSTìTOWARDS SMALL",
    "ôMEDIUMôLARGEøESTvFLOORPLANE SINGLE STRAIGHT SMALLöMEDIUMöLARGEøRGESTíWRIST FLEX",
    "æDOUBLE STRAIGHTíWRIST FLEXíALTERNATINGø WRIST FLEXæCROSSæTRIPLE STRAIGHT MOVEMENT",
    "íWRIST FLEXíALTERNATING MOVEMENTø WRIST FLEXæBENDæCORNER SMALLíMEDIUMíLARGEçHECKæBOX SMALL",
    "êMEDIUMêLARGEæZIGZAG SMALLíMEDIUMíLARGEæPEAKS SMALLìMEDIUMìLARGE",
    "mTRAVEL-FLOORPLANE ROTATION-FLOORPLANE SINGLEøDOUBLEøALTERNATINGíWALLPLANE SINGLE÷DOUBLE",
    "÷ALTERNATINGäSHAKINGmMOVEMENT-WALLPLANE CURVE QUARTER SMALLóMEDIUMóLARGEøST",
    "ëHALF-CIRCLE SMALL÷MEDIUM÷LARGEøARGESTëTHREE-QUARTER CIRCLE SMALLø CIRCLE MEDIUMåHUMP SMALL",
    "êMEDIUMêLARGEåLOOP SMALLêMEDIUMêLARGEêSMALL DOUBLEåWAVE CURVE DOUBLE SMALL÷MEDIUM÷LARGE",
    "ðTRIPLE SMALL÷MEDIUM÷LARGEåCURVE THEN STRAIGHTêD CROSS SMALLòMEDIUM",
    "mROTATION-WALLPLANE SINGLEåDOUBLEåALTERNATEmMOVEMENT-WALLPLANE SHAKING",
    "åCURVE HITTING FRONT WALLåHUMP HITTING FRONT WALLåLOOP HITTING FRONT WALL",
    "åWAVE HITTING FRONT WALLmROTATION-WALLPLANE SINGLE HITTING FRONT WALL",
    "åDOUBLE HITTING FRONT WALLåALTERNATING HITTING FRONT WALL",
    "mMOVEMENT-WALLPLANE CURVE HITTING CHESTåHUMP HITTING CHESTåLOOP HITTING CHEST",
    "åWAVE HITTING CHESTmROTATION-WALLPLANE SINGLE HITTING CHESTåDOUBLE HITTING CHEST",
    "åALTERNATING HITTING CHESTmMOVEMENT-WALLPLANE WAVE DIAGONAL PATH SMALLøMEDIUMøLARGE",
    "vFLOORPLANE CURVE HITTING CEILING SMALLøING LARGEæHUMP HITTING CEILING SMALL DOUBLE",
    "øNG LARGE DOUBLEøNG SMALL TRIPLEøNG LARGE TRIPLEæLOOP HITTING CEILING SMALL SINGLE",
    "øNG LARGE SINGLEøNG SMALL DOUBLEøNG LARGE DOUBLEæWAVE HITTING CEILING SMALLøNG LARGE",
    "mROTATION-FLOORPLANE SINGLE HITTING CEILINGæDOUBLE HITTING CEILING",
    "æALTERNATING HITTING CEILINGmMOVEMENT-FLOORPLANE CURVE HITTING FLOOR SMALLøR LARGE",
    "æHUMP HITTING FLOOR SMALL DOUBLEø LARGE DOUBLEø TRIPLE SMALL TRIPLEø TRIPLE LARGE TRIPLE",
    "æLOOP HITTING FLOOR SMALL SINGLEø LARGE SINGLEø SMALL DOUBLEø LARGE DOUBLE",
    "æWAVE HITTING FLOOR SMALLø LARGEmROTATION-FLOORPLANE SINGLE HITTING FLOOR",
    "æDOUBLE HITTING FLOORæALTERNATING HITTING FLOORmMOVEMENT-FLOORPLANE CURVE SMALLìMEDIUMìLARGE",
    "ñSTìCOMBINEDæHUMP SMALLæLOOP SMALLæWAVE SNAKEìMALLëLARGEmROTATION-FLOORPLANE SINGLEæDOUBLE",
    "æALTERNATINGmMOVEMENT-FLOORPLANE SHAKING PARALLELvWALLPLANE ARM CIRCLE SMALL SINGLE",
    "ðMEDIUM SINGLEðSMALL DOUBLEðMEDIUM DOUBLEvFLOORPLANE ARM CIRCLE HITTING WALL SMALL SINGLE",
    "ø WALL MEDIUM SINGLEø WALL LARGE SINGLEø WALL SMALL DOUBLEø WALL MEDIUM DOUBLE",
    "ø WALL LARGE DOUBLEvWALLPLANE WRIST CIRCLE FRONT SINGLEøDOUBLE",
    "vFLOORPLANE WRIST CIRCLE HITTING WALL SINGLEøNG WALL DOUBLEvWALLPLANE FINGER CIRCLES SINGLE",
    "ôDOUBLEvFLOORPLANE FINGER CIRCLES HITTING WALL SINGLEøTING WALL DOUBLE",
    "mDYNAMIC ARROWHEAD SMALLäLARGEuFASTuSLOWuTENSEuRELAXEDuSIMULTANEOUSæ ALTERNATING",
    "uEVERY OTHER TIMEuGRADUALmHEADq RIMrMOVEMENT-WALLPLANE STRAIGHTêTILTàFLOORPLANE STRAIGHT",
    "àWALLPLANE CURVEàFLOORPLANE CURVEz CIRCLEmFACE DIRECTION POSITION NOSE FORWARD TILTING",
    "ïUP OR DOWNøN TILTINGmEYEBROWS STRAIGHT UPäNEUTRALäDOWNmDREAMY EYEBROWS NEUTRAL DOWN",
    "âDOWN NEUTRALâUP NEUTRALâNEUTRAL UPmFOREHEAD NEUTRALvCONTACTvWRINKLEDmEYES OPENrSQUEEZED",
    "rCLOSEDp BLINK SINGLEwMULTIPLEpS HALF OPENrWIDE OPENrHALF CLOSEDrWIDENING MOVEMENTp WINK",
    "pLASHES UPwDOWNwFLUTTERINGpGAZE-WALLPLANE STRAIGHTì DOUBLEíALTERNATINGuFLOORPLANE STRAIGHT",
    "í DOUBLEîALTERNATINGuWALLPLANE CURVEDuFLOORPLANE CURVEDuWALLPLANE CIRCLINGmCHEEKS PUFFED",
    "tNEUTRALtSUCKEDmTENSE CHEEKS HIGHzMIDDLEzLOWmEARSmNOSE NEUTRALrCONTACTrWRINKLESsIGGLES",
    "mAIR BLOWING OUTqSUCKING INqBLOW SMALL ROTATIONSqSUCK SMALL ROTATIONSmBREATH INHALEtEXHALE",
    "mMOUTH CLOSED NEUTRALzFORWARDzCONTACTsSMILEx WRINKLEDyOPENsFROWNx WRINKLEDyOPENsOPEN CIRCLE",
    "xFORWARDxWRINKLEDxOVALá WRINKLEDâYAWNxRECTANGLEæ WRINKLEDçYAWNsKISSw FORWARDxWRINKLEDsTENSE",
    "x FORWARDySUCKEDmLIPS PRESSED TOGETHERp LOWER OVER UPPERqUPPER OVER LOWERmMOUTH CORNERS",
    "sWRINKLES SINGLEáDOUBLEmTONGUE STICKING OUT FARtLICKING LIPStTIP BETWEEN LIPS",
    "xTOUCHING INSIDE MOUTHtINSIDE MOUTH RELAXEDtMOVES AGAINST CHEEKtCENTRE STICKING OUT",
    "àINSIDE MOUTHnEETHr MOVEMENTsON TONGUEá MOVEMENTvLIPSz MOVEMENTsBITE LIPS",
    "mMOVEMENT-WALLPLANE JAWvFLOORPLANE JAWmNECKmHAIRmEXCITEMENTmSHOULDER HIP SPINEzPOSITIONS",
    "mWALLPLANE SHOULDER HIP MOVEmFLOORPLANE SHOULDER HIP MOVEmSHOULDER TILTING FROM WAIST",
    "mTORSO-WALLPLANE STRAIGHT STRETCHâCURVED BENDsFLOORPLANE TWISTING",
    "mUPPER BODY TILTING FROM HIP JOINTSmLIMB COMBINATIONrLENGTH-1y2y3y4y5y6y7mFINGER",
    "mLOCATION-WALLPLANE SPACEvFLOORPLANE SPACEu HEIGHTvWIDTHvDEPTHvHEAD NECKvTORSOvLIMBS DIGITS",
    "mCOMMAmFULL STOPmSEMICOLONmCOLONmPARENTHESIS"]),
  (0x1DA9B, ["aSIGNWRITING FILL MODIFIER-2à3à4à5à6"]),
  (0x1DAA1, ["aSIGNWRITING ROTATION MODIFIER-2ä3ä4ä5ä6ä7ä8ä9ä10å1å2å3å4å5å6"]),
  (0x1DF00, [
    "aLATIN SMALL LETTER FENG DIGRAPH WITH TRILLtREVERSED SCRIPT GgLETTER SMALL CAPITAL TURNED G",
    "gSMALL LETTER REVERSED KgLETTER SMALL CAPITAL L WITH BELT",
    "gSMALL LETTER LEZH WITH RETROFLEX HOOKtTURNED Y WITH BELTtREVERSED ENG",
    "tTURNED R WITH LONG LEG AND RETROFLEX HOOKu WITH HOOK AND RETROFLEX HOOK",
    "gLETTER RETROFLEX CLICK WITH RETROFLEX HOOKgSMALL LETTER ESH WITH DOUBLE BARì AND CURL",
    "tTURNED T WITH CURLgLETTER INVERTED GLOTTAL STOP WITH CURLnSTRETCHED C WITH CURL",
    "oMALL CAPITAL TURNED KgSMALL LETTER L WITH FISHHOOKtDEZH DIGRAPH WITH PALATAL HOOK",
    "tL WITH BELT AND PALATAL HOOKtENG WITH PALATAL HOOKtTURNED R WITH PALATAL HOOK",
    "tR WITH FISHHOOK AND PALATAL HOOKtTESH DIGRAPH WITH PALATAL HOOKtEZH WITH PALATAL HOOK",
    "tDEZH DIGRAPH WITH RETROFLEX HOOKtI WITH STROKE AND RETROFLEX HOOKtO WITH RETROFLEX HOOK",
    "tTESH DIGRAPH WITH RETROFLEX HOOKtC WITH RETROFLEX HOOKtS WITH CURL"]),
  (0x1E000, ["aCOMBINING GLAGOLITIC LETTER AZUâBUKYâVEDEâGLAGOLIâDOBROâYESTUâZHIVETE"]),
  (0x1E008, [
    "aCOMBINING GLAGOLITIC LETTER ZEMLJAâIZHEãNITIAL IZHEãâDJERVIâKAKOâLJUDIJEâMYSLITEâNASHIâONU",
    "âPOKOJIâRITSIâSLOVOâTVRIDOâUKUâFRITUâHERU"]),
  (0x1E01B, ["aCOMBINING GLAGOLITIC LETTER SHTAâTSIâCHRIVIâSHAâYERUåIãATI"]),
  (0x1E023, ["aCOMBINING GLAGOLITIC LETTER YUâSMALL YUS"]),
  (0x1E026, ["aCOMBINING GLAGOLITIC LETTER YOâIOTATED SMALL YUSâBIG YUSâIOTATED BIG YUSâFITA"]),
  (0x1E100, [
    "aNYIAKENG PUACHUE HMONG LETTER MAäTSAäNTAäTAäHAäNAäXAäNKAäCAäLAäSAäZAäNCAåTSAäKAäDAäNYAåRA",
    "äVAäNTXAäTXAäFAäRAäQAäYAäNQAäPAäXYAäNPAäDLAäNPLAäHAHäMLAäPLAäGAäRRAäAåAäIäUäOåOäEåEäW"]),
  (0x1E130, [
    "aNYIAKENG PUACHUE HMONG TONE-BâMâJâVâSâGâDxSIGN FOR PERSONæTHINGæLOCATIONæANIMAL",
    "æINVERTEBRATEâXW XWyYLLABLE LENGTHENER"]),
  (0x1E140, ["aNYIAKENG PUACHUE HMONG DIGIT ZEROãONEãTWOäHREEãFOURäIVEãSIXäEVENãEIGHTãNINE"]),
  (0x1E14E, ["aNYIAKENG PUACHUE HMONG LOGOGRAM NYAJxCIRCLED CA"]),
  (0x1E290, [
    "aTOTO LETTER PAmBAmTAmDAmKAmGAmMAmNAnGAmSAmCHAmYAmWAmJAmHAmRAmLAmImBREATHY ImIUmBREATHY IUmU",
    "mEmBREATHY EmEOmBREATHY EOmOmAEmBREATHY AEmAfSIGN RISING TONE"]),
  (0x1E2C0, [
    "aWANCHO LETTER AApoBAoCAoDAoGAoYAoPHAoLAoNAoPAoTApHAoFAoSApHAoJAoZAoWAoVAoKAoOoAUoRAoMAoKHA",
    "oHAoEoIoNGAoUoLLHAoTSApRAoONGoAANGpNGoINGoONoENoAANoNYAoUENoYIHhTONE TUPpNImKOIpNI",
    "hDIGIT ZEROnONEnTWOoHREEnFOURoIVEnSIXoEVENnEIGHTnNINE"]),
  (0x1E2FF, ["aWANCHO NGUN SIGN"]), (0x1E7E0, ["aETHIOPIC SYLLABLE HHYAvUvIvAAvEEwvO"]),
  (0x1E7E8, ["aETHIOPIC SYLLABLE GURAGE HHWAsHHWIvEEw"]),
  (0x1E7ED, ["aETHIOPIC SYLLABLE GURAGE MWIáEE"]),
  (0x1E7F0, ["aETHIOPIC SYLLABLE GURAGE QWIáEEâzBWIáEEzKWIáEEâzGWIáEEâzFWIáEEzPWIáEE"]),
  (0x1E800, [
    "aMENDE KIKAKUI SYLLABLE M001 KIà2 KAà3 KUz65 KEEz95 KEz76 KOOz48 KOy179 KUAy004 WIà5 WAà6 WU",
    "y126 WEEz18 WEà4 WOOy045 WOy194 WUIz43 WEIy061 WVIz49 WVAy139 WVEy007 MINà8 MANà9 MUNz59 MEN",
    "z94 MONy154 MUANz89 MUENy010 BIà1 BAà2 BUy150 BEEy097 BEy103 BOOz38 BOy013 Ià4 Aà5 Uy163 EE",
    "z00 Ez65 OOz47 Oz37 EIà1 INà5 INz95 ANz78 ENy019 SIz20 SAà1 SUy162 SEEz16 SEz36 SOOy079 SO",
    "y196 SIAy025 LIà6 LAà7 LUz84 LEEz73 LEz54 LOOy153 LOz10 LONG LEy016 DIà7 DAà8 DUz89 DEE",
    "y180 DOOà1 DOy022 TIà3 TAà4 TUz91 TEEz55 TEy104 TOOy069 TOz28 JIà9 JAz30 JUy157 JEEz13 JE",
    "z60 JOOy063 JOy175 LONG JOy031 YIà2 YAà3 YUy109 YEEy080 YEy141 YOOz21 YOy034 FIà5 FAà6 FU",
    "z78 FEEà5 FEy133 FOOy088 FOy197 FUAz01 FANy037 NINà8 NANà9 NUNy117 NENz69 NONz76 HIy041 HA",
    "y186 HUy040 HEEz96 HEz42 HOOy140 HOy083 HEEIy128 HOOUy053 HINy130 HANy087 HUNz52 HENy193 HON",
    "y046 HUANz90 NGGIz43 NGGAz82 NGGUy115 NGGEEz46 NGGEz56 NGGOOz20 NGGOz59 NGGAAz27 NGGUA",
    "y086 LONG NGGEy106 LONG NGGOOz83 LONG NGGOz55 GIz11 GAz68 GUz90 GEEz66 GUEIà7 GUANz84 NGEN",
    "y057 NGONy177 NGUANy068 PIz99 PAz50 PUz81 PEEz51 PEy102 POOy066 POy145 MBIy062 MBAy122 MBU",
    "y047 MBEEy188 MBEEy072 MBEy172 MBOOà4 MBOz87 MBUUz61 LONG MBEz05 LONG MBOOz42 LONG MBO",
    "z32 KPIy092 KPAz74 KPUz44 KPEEy108 KPEz12 KPOOz58 KPOz24 GBIy056 GBAy148 GBUy093 GBEE",
    "y107 GBEy071 GBOOà0 GBOy171 RAz23 NDIà9 NDAà5 NDUz91 NDEEz19 NDEy067 NDOOà4 NDOy152 NJA",
    "z92 NJUz49 NJEEz34 NJOOz82 VIà5 VAz51 VUz73 VEEy085 VEy144 VOOy077 VOy164 NYINy058 NYAN",
    "y170 NYUNy098 NYENz60 NYON"]),
  (0x1E8C7, [
    "aMENDE KIKAKUI DIGIT ONEuTWOvHREEuFOURvIVEuSIXvEVENuEIGHTuNINEoCOMBINING NUMBER TEENSçNS",
    "åHUNDREDSåTHOUSANDSæEN THOUSANDSåHUNDRED THOUSANDSåMILLIONS"]),
  (0x1E900, [
    "aADLAM CAPITAL LETTER ALIFvDAALIvLAAMvMIIMvBAvSINNYIIYHEvPEvBHEvRAvEvFAvIvOvDHAvYHEvWAWvNUN",
    "vKAFvYAvUvJIIMvCHIvHAvQAAFvGAvNYAvTUvNHAvVAvKHAvGBEvZALvKPOvSHAgSMALL LETTER ALIFtDAALItLAAM",
    "tMIIMtBAtSINNYIIYHEtPEtBHEtRAtEtFAtItOtDHAtYHEtWAWtNUNtKAFtYAtUtJIIMtCHItHAtQAAFtGAtNYAtTU",
    "tNHAtVAtKHAtGBEtZALtKPOtSHAgALIF LENGTHENERgVOWEL LENGTHENERgGEMINATION MARKgHAMZA",
    "gCONSONANT MODIFIERgGEMINATE CONSONANT MODIFIERgNUKTAhASALIZATION MARK"]),
  (0x1E950, ["aADLAM DIGIT ZEROmONEmTWOnHREEmFOURnIVEmSIXnEVENmEIGHTmNINE"]),
  (0x1E95E, ["aADLAM INITIAL EXCLAMATION MARKoQUESTION MARK"]),
  (0x1EC71, [
    "aINDIC SIYAQ NUMBER ONEtTWOuHREEtFOURuIVEtSIXuEVENtEIGHTtNINEtTENuWENTYuHIRTYtFORTYuIFTY",
    "tSIXTYuEVENTYtEIGHTYtNINETYtONE HUNDREDtTWO HUNDREDuHREE HUNDREDtFOUR HUNDREDuIVE HUNDRED",
    "tSIX HUNDREDuEVEN HUNDREDtEIGHT HUNDREDtNINE HUNDREDtONE THOUSANDtTWO THOUSANDuHREE THOUSAND",
    "tFOUR THOUSANDuIVE THOUSANDtSIX THOUSANDuEVEN THOUSANDtEIGHT THOUSANDtNINE THOUSAND",
    "tTEN THOUSANDuWENTY THOUSANDuHIRTY THOUSANDtFORTY THOUSANDuIFTY THOUSANDtSIXTY THOUSAND",
    "uEVENTY THOUSANDtEIGHTY THOUSANDtNINETY THOUSANDtLAKHxANmLAKH MARKmNUMBER KARORyAN",
    "tPREFIXED ONEâTWOãHREEâFOURãIVEâSIXãEVENâEIGHTâNINEmPLACEHOLDERmFRACTION ONE QUARTERzHALF",
    "vTHREE QUARTERSmRUPEE MARKmNUMBER ALTERNATE ONEãTWOäEN THOUSANDmALTERNATE LAKH MARK"]),
  (0x1ED01, [
    "aOTTOMAN SIYAQ NUMBER ONEvTWOwHREEvFOURwIVEvSIXwEVENvEIGHTvNINEvTENwWENTYwHIRTYvFORTYwIFTY",
    "vSIXTYwEVENTYvEIGHTYvNINETYvONE HUNDREDvTWO HUNDREDwHREE HUNDREDvFOUR HUNDREDwIVE HUNDRED",
    "vSIX HUNDREDwEVEN HUNDREDvEIGHT HUNDREDvNINE HUNDREDvONE THOUSANDvTWO THOUSANDwHREE THOUSAND",
    "vFOUR THOUSANDwIVE THOUSANDvSIX THOUSANDwEVEN THOUSANDvEIGHT THOUSANDvNINE THOUSAND",
    "vTEN THOUSANDwWENTY THOUSANDwHIRTY THOUSANDvFORTY THOUSANDwIFTY THOUSANDvSIXTY THOUSAND",
    "wEVENTY THOUSANDvEIGHTY THOUSANDvNINETY THOUSANDoMARRATANoALTERNATE NUMBER TWOæHREEåFOURæIVE",
    "åSIXæEVENåEIGHTåNINEåTENåFOUR HUNDREDåSIX HUNDREDåTWO THOUSANDæEN THOUSANDoFRACTION ONE HALF",
    "áSIXTH"]),
  (0x1EE00, ["aARABIC MATHEMATICAL ALEFuBEHuJEEMuDAL"]),
  (0x1EE05, [
    "aARABIC MATHEMATICAL WAWuZAINuHAHuTAHuYEHuKAFuLAMuMEEMuNOONuSEENuAINuFEHuSADuQAFuREHuSHEEN",
    "uTEHvHEHuKHAHuTHALuDADuZAHuGHAINuDOTLESS BEHâNOONâFEHâQAF"]),
  (0x1EE21, ["aARABIC MATHEMATICAL INITIAL BEHâJEEM"]),
  (0x1EE24, ["aARABIC MATHEMATICAL INITIAL HEH"]), (0x1EE27, ["aARABIC MATHEMATICAL INITIAL HAH"]),
  (0x1EE29, ["aARABIC MATHEMATICAL INITIAL YEHâKAFâLAMâMEEMâNOONâSEENâAINâFEHâSADâQAF"]),
  (0x1EE34, ["aARABIC MATHEMATICAL INITIAL SHEENâTEHãHEHâKHAH"]),
  (0x1EE39, ["aARABIC MATHEMATICAL INITIAL DAD"]),
  (0x1EE3B, ["aARABIC MATHEMATICAL INITIAL GHAIN"]),
  (0x1EE42, ["aARABIC MATHEMATICAL TAILED JEEM"]), (0x1EE47, ["aARABIC MATHEMATICAL TAILED HAH"]),
  (0x1EE49, ["aARABIC MATHEMATICAL TAILED YEH"]), (0x1EE4B, ["aARABIC MATHEMATICAL TAILED LAM"]),
  (0x1EE4D, ["aARABIC MATHEMATICAL TAILED NOONáSEENáAIN"]),
  (0x1EE51, ["aARABIC MATHEMATICAL TAILED SADáQAF"]),
  (0x1EE54, ["aARABIC MATHEMATICAL TAILED SHEEN"]),
  (0x1EE57, ["aARABIC MATHEMATICAL TAILED KHAH"]), (0x1EE59, ["aARABIC MATHEMATICAL TAILED DAD"]),
  (0x1EE5B, ["aARABIC MATHEMATICAL TAILED GHAIN"]),
  (0x1EE5D, ["aARABIC MATHEMATICAL TAILED DOTLESS NOON"]),
  (0x1EE5F, ["aARABIC MATHEMATICAL TAILED DOTLESS QAF"]),
  (0x1EE61, ["aARABIC MATHEMATICAL STRETCHED BEHäJEEM"]),
  (0x1EE64, ["aARABIC MATHEMATICAL STRETCHED HEH"]),
  (0x1EE67, ["aARABIC MATHEMATICAL STRETCHED HAHäTAHäYEHäKAF"]),
  (0x1EE6C, ["aARABIC MATHEMATICAL STRETCHED MEEMäNOONäSEENäAINäFEHäSADäQAF"]),
  (0x1EE74, ["aARABIC MATHEMATICAL STRETCHED SHEENäTEHåHEHäKHAH"]),
  (0x1EE79, ["aARABIC MATHEMATICAL STRETCHED DADäZAHäGHAINäDOTLESS BEH"]),
  (0x1EE7E, ["aARABIC MATHEMATICAL STRETCHED DOTLESS FEH"]),
  (0x1EE80, ["aARABIC MATHEMATICAL LOOPED ALEFáBEHáJEEMáDALáHEHáWAWáZAINáHAHáTAHáYEH"]),
  (0x1EE8B, [
    "aARABIC MATHEMATICAL LOOPED LAMáMEEMáNOONáSEENáAINáFEHáSADáQAFáREHáSHEENáTEHâHEHáKHAHáTHAL",
    "áDADáZAHáGHAIN"]),
  (0x1EEA1, ["aARABIC MATHEMATICAL DOUBLE-STRUCK BEHèJEEMèDAL"]),
  (0x1EEA5, ["aARABIC MATHEMATICAL DOUBLE-STRUCK WAWèZAINèHAHèTAHèYEH"]),
  (0x1EEAB, [
    "aARABIC MATHEMATICAL DOUBLE-STRUCK LAMèMEEMèNOONèSEENèAINèFEHèSADèQAFèREHèSHEENèTEHéHEHèKHAH",
    "èTHALèDADèZAHèGHAIN"]),
  (0x1EEF0, ["aARABIC MATHEMATICAL OPERATOR MEEM WITH HAH WITH TATWEELãHAH WITH DAL"]),
  (0x1F000, [
    "aMAHJONG TILE EAST WINDnSOUTH WINDnWEST WINDnNORTH WINDnRED DRAGONnGREEN DRAGONnWHITE DRAGON",
    "nONE OF CHARACTERSnTWO OF CHARACTERSoHREE OF CHARACTERSnFOUR OF CHARACTERSoIVE OF CHARACTERS",
    "nSIX OF CHARACTERSoEVEN OF CHARACTERSnEIGHT OF CHARACTERSnNINE OF CHARACTERSnONE OF BAMBOOS",
    "nTWO OF BAMBOOSoHREE OF BAMBOOSnFOUR OF BAMBOOSoIVE OF BAMBOOSnSIX OF BAMBOOS",
    "oEVEN OF BAMBOOSnEIGHT OF BAMBOOSnNINE OF BAMBOOSnONE OF CIRCLESnTWO OF CIRCLES",
    "oHREE OF CIRCLESnFOUR OF CIRCLESoIVE OF CIRCLESnSIX OF CIRCLESoEVEN OF CIRCLES",
    "nEIGHT OF CIRCLESnNINE OF CIRCLESnPLUMnORCHIDnBAMBOOnCHRYSANTHEMUMnSPRINGoUMMERnAUTUMN",
    "nWINTERnJOKERnBACK"]),
  (0x1F030, [
    "aDOMINO TILE HORIZONTAL BACKw-00-00á1á2á3á4á5á6y1-00á1á2á3á4á5á6y2-00á1á2á3á4á5á6y3-00á1á2á3",
    "á4á5á6y4-00á1á2á3á4á5á6y5-00á1á2á3á4á5á6y6-00á1á2á3á4á5á6mVERTICAL BACKu-00-00z1z2z3z4z5z6",
    "w1-00z1z2z3z4z5z6w2-00z1z2z3z4z5z6w3-00z1z2z3z4z5z6w4-00z1z2z3z4z5z6w5-00z1z2z3z4z5z6w6-00z1",
    "z2z3z4z5z6"]),
  (0x1F0A0, [
    "aPLAYING CARD BACKnACE OF SPADESnTWO OF SPADESoHREE OF SPADESnFOUR OF SPADESoIVE OF SPADES",
    "nSIX OF SPADESoEVEN OF SPADESnEIGHT OF SPADESnNINE OF SPADESnTEN OF SPADESnJACK OF SPADES",
    "nKNIGHT OF SPADESnQUEEN OF SPADESnKING OF SPADES"]),
  (0x1F0B1, [
    "aPLAYING CARD ACE OF HEARTSnTWO OF HEARTSoHREE OF HEARTSnFOUR OF HEARTSoIVE OF HEARTS",
    "nSIX OF HEARTSoEVEN OF HEARTSnEIGHT OF HEARTSnNINE OF HEARTSnTEN OF HEARTSnJACK OF HEARTS",
    "nKNIGHT OF HEARTSnQUEEN OF HEARTSnKING OF HEARTSnRED JOKER"]),
  (0x1F0C1, [
    "aPLAYING CARD ACE OF DIAMONDSnTWO OF DIAMONDSoHREE OF DIAMONDSnFOUR OF DIAMONDS",
    "oIVE OF DIAMONDSnSIX OF DIAMONDSoEVEN OF DIAMONDSnEIGHT OF DIAMONDSnNINE OF DIAMONDS",
    "nTEN OF DIAMONDSnJACK OF DIAMONDSnKNIGHT OF DIAMONDSnQUEEN OF DIAMONDSnKING OF DIAMONDS",
    "nBLACK JOKER"]),
  (0x1F0D1, [
    "aPLAYING CARD ACE OF CLUBSnTWO OF CLUBSoHREE OF CLUBSnFOUR OF CLUBSoIVE OF CLUBS",
    "nSIX OF CLUBSoEVEN OF CLUBSnEIGHT OF CLUBSnNINE OF CLUBSnTEN OF CLUBSnJACK OF CLUBS",
    "nKNIGHT OF CLUBSnQUEEN OF CLUBSnKING OF CLUBSnWHITE JOKERnFOOLnTRUMP-1t2t3t4t5t6t7t8t9t10u1",
    "u2u3u4u5u6u7u8u9t20u1"]),
  (0x1F100, [
    "aDIGIT ZERO FULL STOPlCOMMAgONE COMMAgTWO COMMAhHREE COMMAgFOUR COMMAhIVE COMMAgSIX COMMA",
    "hEVEN COMMAgEIGHT COMMAgNINE COMMAcNGBAT CIRCLED SANS-SERIF DIGIT ZERO",
    "iNEGATIVE CIRCLED SANS-SERIF DIGIT ZEROaCIRCLED ZERO WITH SLASHiANTICLOCKWISE ARROW",
    "iDOLLAR SIGN WITH OVERLAID BACKSLASHaPARENTHESIZED LATIN CAPITAL LETTER AéBéCéDéEéFéGéHéIéJ",
    "éKéLéMéNéOéPéQéRéSéTéUéVéWéXéYéZaTORTOISE SHELL BRACKETED LATIN CAPITAL LETTER S",
    "aCIRCLED ITALIC LATIN CAPITAL LETTER CêRiCDiWZbOPYLEFT SYMBOLaSQUARED LATIN CAPITAL LETTER A",
    "ãBãCãDãEãFãGãHãIãJãKãLãMãNãOãPãQãRãSãTãUãVãWãXãYãZiHViMViSDjSiPPViWC",
    "aNEGATIVE CIRCLED LATIN CAPITAL LETTER AìBìCìDìEìFìGìHìIìJìKìLìMìNìOìPìQìRìSìTìUìVìWìXìYìZ",
    "aRAISED MC SIGNiD SIGNiR SIGNaCIRCLED CCj WITH OVERLAID BACKSLASHiHUMAN FIGURE",
    "aNEGATIVE SQUARED LATIN CAPITAL LETTER AìBìCìDìEìFìGìHìIìJìKìLìMìNìOìPìQìRìSìTìUìVìWìXìYìZ",
    "aCROSSED NEGATIVE SQUARED LATIN CAPITAL LETTER PaNEGATIVE SQUARED ICrPArSArABrWCaSQUARE DJ",
    "gD CLjOOLiFREEiIDiNEWjGiOKiSOSiUP WITH EXCLAMATION MARKiVSiTHREE DiSECOND SCREENiTWO K",
    "iFOUR KiEIGHT KiFIVE POINT ONEiSEVEN POINT ONEiTWENTY-TWO POINT TWOiSIXTY P",
    "iONE HUNDRED TWENTY PiLATIN SMALL LETTER DiHCjDRjI-RESiLOSSLESSiSHViUHDiVODaMASK WORK SYMBOL"]),
  (0x1F1E6, [
    "aREGIONAL INDICATOR SYMBOL LETTER AçBçCçDçEçFçGçHçIçJçKçLçMçNçOçPçQçRçSçTçUçVçWçXçYçZ",
    "aSQUARE HIRAGANA HOKAgD KATAKANA KOKOrSA"]),
  (0x1F210, [
    "aSQUARED CJK UNIFIED IDEOGRAPH-624Bä5B57å3CCiKATAKANA DEiCJK UNIFIED IDEOGRAPH-4E8Cä591A",
    "ä89E3ä5929ä4EA4ä6620ä7121ä6599ä524DåF8Cå18Dä65B0ä521Dä7D42å51Fä8CA9ä58F0å439ä6F14å295å355",
    "ä4E00ç9ä904Aä5DE6ä4E2Dä53F3ä6307ä8D70ä6253ä7981åA7Aä5408ä6E80å709ç8ä7533ä5272å5B6ä914D"]),
  (0x1F240, [
    "aTORTOISE SHELL BRACKETED CJK UNIFIED IDEOGRAPH-672Cõ4E09÷8Cõ5B89õ70B9õ6253õ76D7õ52DDõ6557"]),
  (0x1F250, ["aCIRCLED IDEOGRAPH ADVANTAGEtCCEPT"]),
  (0x1F260, ["aROUNDED SYMBOL FOR FUtLUtSHOUtXItSHUANGXItCAI"]),
  (0x1F300, [
    "aCYCLONEaFOGGYaCLOSED UMBRELLAaNIGHT WITH STARSaSUNRISE OVER MOUNTAINShaCITYSCAPE AT DUSK",
    "aSUNSET OVER BUILDINGSaRAINBOWaBRIDGE AT NIGHTaWATER WAVEaVOLCANOaMILKY WAY",
    "aEARTH GLOBE EUROPE-AFRICAmAMERICASnSIA-AUSTRALIAaGLOBE WITH MERIDIANSaNEW MOON SYMBOL",
    "aWAXING CRESCENT MOON SYMBOLaFIRST QUARTER MOON SYMBOLaWAXING GIBBOUS MOON SYMBOL",
    "aFULL MOON SYMBOLaWANING GIBBOUS MOON SYMBOLaLAST QUARTER MOON SYMBOL",
    "aWANING CRESCENT MOON SYMBOLaCRESCENT MOONaNEW MOON WITH FACEaFIRST QUARTER MOON WITH FACE",
    "aLAST QUARTER MOON WITH FACEaFULL MOON WITH FACEaSUN WITH FACEaGLOWING STARaSHOOTING STAR",
    "aTHERMOMETERaBLACK DROPLETaWHITE SUNj WITH SMALL CLOUDkBEHIND CLOUDw WITH RAIN",
    "aCLOUD WITH RAINlSNOWlLIGHTNINGlTORNADOaFOGaWIND BLOWING FACEaHOT DOGaTACOaBURRITOaCHESTNUT",
    "aSEEDLINGaEVERGREEN TREEaDECIDUOUS TREEaPALM TREEaCACTUSaHOT PEPPERaTULIPaCHERRY BLOSSOM",
    "aROSEaHIBISCUSaSUNFLOWERaBLOSSOMaEAR OF MAIZEhRICEaHERBaFOUR LEAF CLOVERaMAPLE LEAF",
    "aFALLEN LEAFaLEAF FLUTTERING IN WINDaMUSHROOMaTOMATOaAUBERGINEaGRAPESaMELONaWATERMELON",
    "aTANGERINEaLEMONaBANANAaPINEAPPLEaRED APPLEaGREEN APPLEaPEARdCHaCHERRIESaSTRAWBERRY",
    "aHAMBURGERaSLICE OF PIZZAaMEAT ON BONEaPOULTRY LEGaRICE CRACKERfBALLaCOOKED RICE",
    "bURRY AND RICEaSTEAMING BOWLbPAGHETTIaBREADaFRENCH FRIESaROASTED SWEET POTATOaDANGOaODEN",
    "aSUSHIaFRIED SHRIMPbISH CAKE WITH SWIRL DESIGNaSOFT ICE CREAMbHAVED ICEaICE CREAMaDOUGHNUT",
    "aCOOKIEbHOCOLATE BARbANDYaLOLLIPOPaCUSTARDaHONEY POTaSHORTCAKEaBENTO BOXaPOT OF FOODaCOOKING",
    "aFORK AND KNIFEaTEACUP WITHOUT HANDLEaSAKE BOTTLE AND CUPaWINE GLASSaCOCKTAIL GLASS",
    "aTROPICAL DRINKaBEER MUGaCLINKING BEER MUGSaBABY BOTTLEaFORK AND KNIFE WITH PLATE",
    "aBOTTLE WITH POPPING CORKaPOPCORNaRIBBONaWRAPPED PRESENTaBIRTHDAY CAKEaJACK-O-LANTERN",
    "aCHRISTMAS TREEaFATHER CHRISTMASbIREWORKSi SPARKLERaBALLOONaPARTY POPPERaCONFETTI BALL",
    "aTANABATA TREEaCROSSED FLAGSaPINE DECORATIONaJAPANESE DOLLSaCARP STREAMERaWIND CHIME",
    "aMOON VIEWING CEREMONYaSCHOOL SATCHELaGRADUATION CAPaHEART WITH TIP ON THE LEFT",
    "aBOUQUET OF FLOWERSaMILITARY MEDALaREMINDER RIBBONaMUSICAL KEYBOARD WITH JACKS",
    "aSTUDIO MICROPHONEaLEVEL SLIDERaCONTROL KNOBSaBEAMED ASCENDING MUSICAL NOTES",
    "hDESCENDING MUSICAL NOTESaFILM FRAMESaADMISSION TICKETSaCAROUSEL HORSEaFERRIS WHEEL",
    "aROLLER COASTERaFISHING POLE AND FISHaMICROPHONEbOVIE CAMERAaCINEMAaHEADPHONEaARTIST PALETTE",
    "aTOP HATaCIRCUS TENTaTICKETaCLAPPER BOARDaPERFORMING ARTSaVIDEO GAMEaDIRECT HITaSLOT MACHINE",
    "aBILLIARDSaGAME DIEaBOWLINGaFLOWER PLAYING CARDSaMUSICAL NOTEcLTIPLE MUSICAL NOTESaSAXOPHONE",
    "aGUITARaMUSICAL KEYBOARDaTRUMPETaVIOLINaMUSICAL SCOREaRUNNING SHIRT WITH SASH",
    "aTENNIS RACQUET AND BALLaSKI AND SKI BOOTaBASKETBALL AND HOOPaCHEQUERED FLAGaSNOWBOARDER",
    "aRUNNERaSURFERbPORTS MEDALaTROPHYaHORSE RACINGaAMERICAN FOOTBALLaRUGBY FOOTBALLaSWIMMER",
    "aWEIGHT LIFTERaGOLFERaRACING MOTORCYCLEhCARaCRICKET BAT AND BALLaVOLLEYBALL",
    "aFIELD HOCKEY STICK AND BALLaICE HOCKEY STICK AND PUCKaTABLE TENNIS PADDLE AND BALL",
    "aSNOW CAPPED MOUNTAINaCAMPINGaBEACH WITH UMBRELLAbUILDING CONSTRUCTIONaHOUSE BUILDINGS",
    "aCITYSCAPEaDERELICT HOUSE BUILDINGaCLASSICAL BUILDINGaDESERTg ISLANDaNATIONAL PARKaSTADIUM",
    "aHOUSE BUILDINGgWITH GARDENaOFFICE BUILDINGaJAPANESE POST OFFICEaEUROPEAN POST OFFICE",
    "aHOSPITALaBANKaAUTOMATED TELLER MACHINEaHOTELaLOVE HOTELaCONVENIENCE STOREaSCHOOL",
    "aDEPARTMENT STOREaFACTORYaIZAKAYA LANTERNaJAPANESE CASTLEaEUROPEAN CASTLEaWHITE PENNANT",
    "aBLACK PENNANTaWAVING WHITE FLAGhBLACK FLAGaROSETTEaBLACK ROSETTEaLABEL",
    "aBADMINTON RACQUET AND SHUTTLECOCKbOW AND ARROWaAMPHORAaEMOJI MODIFIER FITZPATRICK TYPE-1-2",
    "æ3æ4æ5æ6aRATaMOUSEaOXaWATER BUFFALOaCOWaTIGERaLEOPARDaRABBITaCATaDRAGONaCROCODILEaWHALE",
    "aSNAILdKEaHORSEaRAMaGOATaSHEEPaMONKEYaROOSTERaCHICKENaDOGaPIGaBOARaELEPHANTaOCTOPUS",
    "aSPIRAL SHELLaBUGaANTaHONEYBEEaLADY BEETLEaFISHaTROPICAL FISHaBLOWFISHaTURTLEaHATCHING CHICK",
    "aBABY CHICKaFRONT-FACING BABY CHICKaBIRDaPENGUINaKOALAaPOODLEaDROMEDARY CAMELaBACTRIAN CAMEL",
    "aDOLPHINaMOUSE FACEaCOW FACEaTIGER FACEaRABBIT FACEaCAT FACEaDRAGON FACEaSPOUTING WHALE",
    "aHORSE FACEaMONKEY FACEaDOG FACEaPIG FACEaFROG FACEaHAMSTER FACEaWOLF FACEaBEAR FACE",
    "aPANDA FACEbIG NOSEbAW PRINTSaCHIPMUNKaEYESdbARaNOSEaMOUTHaTONGUE",
    "aWHITE UP POINTING BACKHAND INDEXgDOWN POINTING BACKHAND INDEXgLEFT POINTING BACKHAND INDEX",
    "gRIGHT POINTING BACKHAND INDEXaFISTED HAND SIGNaWAVING HAND SIGNaOK HAND SIGNaTHUMBS UP SIGN",
    "hDOWN SIGNaCLAPPING HANDS SIGNaOPEN HANDS SIGNaCROWNaWOMANS HATaEYEGLASSESaNECKTIEaT-SHIRT",
    "aJEANSaDRESSaKIMONOaBIKINIaWOMANS CLOTHESaPURSEaHANDBAGaPOUCHaMANS SHOEaATHLETIC SHOE",
    "aHIGH-HEELED SHOEaWOMANS SANDALhBOOTSaFOOTPRINTSaBUST IN SILHOUETTEeS IN SILHOUETTEbOYaGIRL",
    "aMANaWOMANaFAMILYaMAN AND WOMAN HOLDING HANDSaTWO MEN HOLDING HANDSeWOMEN HOLDING HANDS",
    "aPOLICE OFFICERaWOMAN WITH BUNNY EARSaBRIDE WITH VEILaPERSON WITH BLOND HAIR",
    "aMAN WITH GUA PI MAOjTURBANaOLDER MANgWOMANaBABYaCONSTRUCTION WORKERaPRINCESSaJAPANESE OGRE",
    "jGOBLINaGHOSTaBABY ANGELaEXTRATERRESTRIAL ALIENaALIEN MONSTERaIMPaSKULL",
    "aINFORMATION DESK PERSONaGUARDSMANaDANCERaLIPSTICKaNAIL POLISHaFACE MASSAGEaHAIRCUT",
    "aBARBER POLEaSYRINGEaPILLaKISS MARKaLOVE LETTERaRINGaGEM STONEaKISSaBOUQUET",
    "aCOUPLE WITH HEARTaWEDDINGaBEATING HEARTbROKEN HEARTaTWO HEARTSaSPARKLING HEART",
    "aGROWING HEARTaHEART WITH ARROWaBLUE HEARTaGREEN HEARTaYELLOW HEARTaPURPLE HEART",
    "aHEART WITH RIBBONaREVOLVING HEARTSaHEART DECORATIONaDIAMOND SHAPE WITH A DOT INSIDE",
    "aELECTRIC LIGHT BULBaANGER SYMBOLaBOMBaSLEEPING SYMBOLaCOLLISION SYMBOL",
    "aSPLASHING SWEAT SYMBOLaDROPLETbASH SYMBOLaPILE OF POOaFLEXED BICEPSaDIZZY SYMBOL",
    "aSPEECH BALLOONaTHOUGHT BALLOONaWHITE FLOWERaHUNDRED POINTS SYMBOLaMONEY BAG",
    "aCURRENCY EXCHANGEaHEAVY DOLLAR SIGNaCREDIT CARDaBANKNOTE WITH YEN SIGNoDOLLAR SIGN",
    "oEURO SIGNoPOUND SIGNaMONEY WITH WINGSaCHART WITH UPWARDS TREND AND YEN SIGNaSEAT",
    "aPERSONAL COMPUTERaBRIEFCASEaMINIDISCaFLOPPY DISKaOPTICAL DISCaDVDaFILE FOLDER",
    "aOPEN FILE FOLDERaPAGE WITH CURLfFACING UPaCALENDARaTEAR-OFF CALENDARaCARD INDEX",
    "bHART WITH UPWARDS TRENDlDOWNWARDS TRENDaBAR CHARTaCLIPBOARDaPUSHPINaROUND PUSHPINaPAPERCLIP",
    "aSTRAIGHT RULERaTRIANGULAR RULERaBOOKMARK TABSaLEDGERaNOTEBOOKi WITH DECORATIVE COVER",
    "aCLOSED BOOKaOPEN BOOKaGREEN BOOKaBLUE BOOKaORANGE BOOKaBOOKSaNAME BADGEaSCROLLaMEMO",
    "aTELEPHONE RECEIVERaPAGERaFAX MACHINEaSATELLITE ANTENNAaPUBLIC ADDRESS LOUDSPEAKER",
    "aCHEERING MEGAPHONEaOUTBOX TRAYaINBOX TRAYaPACKAGEaE-MAIL SYMBOLaINCOMING ENVELOPE",
    "aENVELOPE WITH DOWNWARDS ARROW ABOVEaCLOSED MAILBOX WITH LOWERED FLAGuRAISED FLAG",
    "aOPEN MAILBOX WITH RAISED FLAGsLOWERED FLAGaPOSTBOXeAL HORNaNEWSPAPERaMOBILE PHONE",
    "m WITH RIGHTWARDS ARROW AT LEFTaVIBRATION MODEaMOBILE PHONE OFFaNO MOBILE PHONES",
    "aANTENNA WITH BARSaCAMERAg WITH FLASHaVIDEO CAMERAaTELEVISIONaRADIOaVIDEOCASSETTE",
    "aFILM PROJECTORaPORTABLE STEREObRAYER BEADSaTWISTED RIGHTWARDS ARROWS",
    "aCLOCKWISE RIGHTWARDS AND LEFTWARDS OPEN CIRCLE ARROWSøOWS WITH CIRCLED ONE OVERLAY",
    "kDOWNWARDS AND UPWARDS OPEN CIRCLE ARROWS",
    "aANTICLOCKWISE DOWNWARDS AND UPWARDS OPEN CIRCLE ARROWSaLOW BRIGHTNESS SYMBOL",
    "aHIGH BRIGHTNESS SYMBOLaSPEAKER WITH CANCELLATION STROKEhh WITH ONE SOUND WAVE",
    "nTHREE SOUND WAVESaBATTERYaELECTRIC PLUGaLEFT-POINTING MAGNIFYING GLASS",
    "aRIGHT-POINTING MAGNIFYING GLASSaLOCK WITH INK PENaCLOSED LOCK WITH KEYaKEYaLOCKaOPEN LOCK",
    "aBELLe WITH CANCELLATION STROKEbOOKMARKaLINK SYMBOLaRADIO BUTTON",
    "aBACK WITH LEFTWARDS ARROW ABOVEaEND WITH LEFTWARDS ARROW ABOVE",
    "aON WITH EXCLAMATION MARK WITH LEFT RIGHT ARROW ABOVEaSOON WITH RIGHTWARDS ARROW ABOVE",
    "aTOP WITH UPWARDS ARROW ABOVEaNO ONE UNDER EIGHTEEN SYMBOLaKEYCAP TEN",
    "aINPUT SYMBOL FOR LATIN CAPITAL LETTERSxSMALL LETTERSrNUMBERSrSYMBOLSrLATIN LETTERSaFIRE",
    "aELECTRIC TORCHaWRENCHaHAMMERaNUT AND BOLTaHOCHOaPISTOLaMICROSCOPEaTELESCOPEaCRYSTAL BALL",
    "aSIX POINTED STAR WITH MIDDLE DOTaJAPANESE SYMBOL FOR BEGINNERaTRIDENT EMBLEM",
    "aBLACK SQUARE BUTTONaWHITE SQUARE BUTTONaLARGE RED CIRCLEgBLUE CIRCLEgORANGE DIAMOND",
    "gBLUE DIAMONDaSMALL ORANGE DIAMONDgBLUE DIAMONDaUP-POINTING RED TRIANGLE",
    "aDOWN-POINTING RED TRIANGLEaUP-POINTING SMALL RED TRIANGLEaDOWN-POINTING SMALL RED TRIANGLE",
    "aLOWER RIGHT SHADOWED WHITE CIRCLEaUPPER RIGHT SHADOWED WHITE CIRCLEaCIRCLED CROSS POMMEE",
    "bROSS POMMEE WITH HALF-CIRCLE BELOWmaNOTCHED LEFT SEMICIRCLE WITH THREE DOTS",
    "iRIGHT SEMICIRCLE WITH THREE DOTSaSYMBOL FOR MARKS CHAPTERaWHITE LATIN CROSS",
    "aHEAVY LATIN CROSSaCELTIC CROSSaOM SYMBOLaDOVE OF PEACEaKAABAaMOSQUEaSYNAGOGUE",
    "aMENORAH WITH NINE BRANCHESaBOWL OF HYGIEIAaCLOCK FACE ONE OCLOCKlTWO OCLOCKmHREE OCLOCK",
    "lFOUR OCLOCKmIVE OCLOCKlSIX OCLOCKmEVEN OCLOCKlEIGHT OCLOCKlNINE OCLOCKlTEN OCLOCK",
    "lELEVEN OCLOCKlTWELVE OCLOCKlONE-THIRTYlTWO-THIRTYmHREE-THIRTYlFOUR-THIRTYmIVE-THIRTY",
    "lSIX-THIRTYmEVEN-THIRTYlEIGHT-THIRTYlNINE-THIRTYlTEN-THIRTYlELEVEN-THIRTYlTWELVE-THIRTY",
    "aRIGHT SPEAKERn WITH ONE SOUND WAVEtTHREE SOUND WAVESaBULLHORNi WITH SOUND WAVES",
    "aRINGING BELLaBOOKaCANDLEaMANTELPIECE CLOCKaBLACK SKULL AND CROSSBONESaNO PIRACYaHOLE",
    "aMAN IN BUSINESS SUIT LEVITATINGaSLEUTH OR SPYaDARK SUNGLASSESaSPIDERg WEBaJOYSTICK",
    "aMAN DANCINGaLEFT HAND TELEPHONE RECEIVERaTELEPHONE RECEIVER WITH PAGE",
    "aRIGHT HAND TELEPHONE RECEIVERaWHITE TOUCHTONE TELEPHONEaBLACK TOUCHTONE TELEPHONE",
    "aTELEPHONE ON TOP OF MODEMaCLAMSHELL MOBILE PHONEaBACK OF ENVELOPEaSTAMPED ENVELOPE",
    "aENVELOPE WITH LIGHTNINGaFLYING ENVELOPEaPEN OVER STAMPED ENVELOPEaLINKED PAPERCLIPS",
    "aBLACK PUSHPINaLOWER LEFT PENCILlBALLPOINT PENlFOUNTAIN PENlPAINTBRUSHlCRAYON",
    "bEFT WRITING HANDaTURNED OK HAND SIGNaRAISED HAND WITH FINGERS SPLAYED",
    "bEVERSED RAISED HAND WITH FINGERS SPLAYEDjTHUMBS UP SIGNqDOWN SIGNjVICTORY HAND",
    "jHAND WITH MIDDLE FINGER EXTENDEDbAISED HAND WITH PART BETWEEN MIDDLE AND RING FINGERS",
    "aWHITE DOWN POINTING LEFT HAND INDEXaSIDEWAYS WHITE LEFT POINTING INDEXpRIGHT POINTING INDEX",
    "jBLACK LEFT POINTING INDEXpRIGHT POINTING INDEXaBLACK LEFT POINTING BACKHAND INDEX",
    "gRIGHT POINTING BACKHAND INDEXaSIDEWAYS WHITE UP POINTING INDEXpDOWN POINTING INDEX",
    "jBLACK UP POINTING INDEXpDOWN POINTING INDEXaBLACK UP POINTING BACKHAND INDEX",
    "gDOWN POINTING BACKHAND INDEXgHEARTaDESKTOP COMPUTERaKEYBOARD AND MOUSE",
    "aTHREE NETWORKED COMPUTERSaPRINTERbOCKET CALCULATORaBLACK HARD SHELL FLOPPY DISK",
    "aWHITE HARD SHELL FLOPPY DISKaSOFT SHELL FLOPPY DISKaTAPE CARTRIDGEaWIRED KEYBOARD",
    "aONE BUTTON MOUSEaTWO BUTTON MOUSEbHREE BUTTON MOUSEbRACKBALLaOLD PERSONAL COMPUTER",
    "aHARD DISKaSCREENaPRINTER ICONaFAX ICONaOPTICAL DISC ICONaDOCUMENT WITH TEXTs AND PICTURE",
    "oPICTUREaFRAME WITH PICTURElTILESlAN XaBLACK FOLDERaFOLDERaOPEN FOLDERaCARD INDEX DIVIDERS",
    "fFILE BOXaFILE CABINETaEMPTY NOTEk PAGEnDaNOTEe PAGEhDaEMPTY DOCUMENTgPAGEkSaDOCUMENTaPAGEeS",
    "aWASTEBASKETaSPIRAL NOTE PADhCALENDAR PADaDESKTOP WINDOWaMINIMIZEbAXIMIZEaOVERLAP",
    "aCLOCKWISE RIGHT AND LEFT SEMICIRCLE ARROWSbANCELLATION XaINCREASE FONT SIZE SYMBOL",
    "aDECREASE FONT SIZE SYMBOLaCOMPRESSIONaOLD KEYaROLLED-UP NEWSPAPERaPAGE WITH CIRCLED TEXT",
    "aSTOCK CHARTaDAGGER KNIFEaLIPSaSPEAKING HEAD IN SILHOUETTEaTHREE RAYS ABOVElBELOWlLEFTlRIGHT",
    "aLEFT SPEECH BUBBLEaRIGHT SPEECH BUBBLEaTWO SPEECH BUBBLESbHREE SPEECH BUBBLES",
    "aLEFT THOUGHT BUBBLEaRIGHT THOUGHT BUBBLEaLEFT ANGER BUBBLEaRIGHT ANGER BUBBLEaMOOD BUBBLE",
    "aLIGHTNING MOOD BUBBLEoaBALLOT BOX WITH BALLOThSCRIPT XhBOX WITH SCRIPT XjLD SCRIPT X",
    "jX WITH BOLD SCRIPT XaLIGHT CHECK MARKaBALLOT BOX WITH BOLD CHECKaWORLD MAPaMOUNT FUJI",
    "aTOKYO TOWERaSTATUE OF LIBERTYbILHOUETTE OF JAPANaMOYAIaGRINNING FACEn WITH SMILING EYES",
    "aFACE WITH TEARS OF JOYaSMILING FACE WITH OPEN MOUTHâ AND SMILING EYESçCOLD SWEAT",
    "çTIGHTLY-CLOSED EYESsHALOtORNSaWINKING FACEaSMILING FACE WITH SMILING EYES",
    "aFACE SAVOURING DELICIOUS FOODaRELIEVED FACEaSMILING FACE WITH HEART-SHAPED EYESsSUNGLASSES",
    "dRKING FACEaNEUTRAL FACEaEXPRESSIONLESS FACEaUNAMUSED FACEaFACE WITH COLD SWEATaPENSIVE FACE",
    "aCONFUSED FACEeOUNDED FACEaKISSING FACEaFACE THROWING A KISSaKISSING FACE WITH SMILING EYES",
    "sCLOSED EYESaFACE WITH STUCK-OUT TONGUEà AND WINKING EYEåTIGHTLY-CLOSED EYES",
    "aDISAPPOINTED FACEaWORRIED FACEaANGRY FACEaPOUTING FACEaCRYING FACEaPERSEVERING FACE",
    "aFACE WITH LOOK OF TRIUMPHaDISAPPOINTED BUT RELIEVED FACEaFROWNING FACE WITH OPEN MOUTH",
    "aANGUISHED FACEaFEARFUL FACEaWEARY FACEaSLEEPY FACEaTIRED FACEaGRIMACING FACE",
    "aLOUDLY CRYING FACEaFACE WITH OPEN MOUTHaHUSHED FACEaFACE WITH OPEN MOUTH AND COLD SWEAT",
    "fSCREAMING IN FEARaASTONISHED FACEaFLUSHED FACEaSLEEPING FACEaDIZZY FACEaFACE WITHOUT MOUTH",
    "j MEDICAL MASKaGRINNING CAT FACE WITH SMILING EYESaCAT FACE WITH TEARS OF JOY",
    "aSMILING CAT FACE WITH OPEN MOUTHwHEART-SHAPED EYESaCAT FACE WITH WRY SMILE",
    "aKISSING CAT FACE WITH CLOSED EYESaPOUTING CAT FACEaCRYING CAT FACEaWEARY CAT FACE",
    "aSLIGHTLY FROWNING FACEjSMILING FACEaUPSIDE-DOWN FACEaFACE WITH ROLLING EYESkNO GOOD GESTURE",
    "kOK GESTUREaPERSON BOWING DEEPLYaSEE-NO-EVIL MONKEYaHEAR-NO-EVIL MONKEYaSPEAK-NO-EVIL MONKEY",
    "aHAPPY PERSON RAISING ONE HANDaPERSON RAISING BOTH HANDS IN CELEBRATIONhFROWNING",
    "hWITH POUTING FACEmFOLDED HANDSaNORTH WEST POINTING LEAFaSOUTH WEST POINTING LEAF",
    "aNORTH EAST POINTING LEAFaSOUTH EAST POINTING LEAFaTURNED NORTH WEST POINTING LEAF",
    "hSOUTH WEST POINTING LEAFhNORTH EAST POINTING LEAFhSOUTH EAST POINTING LEAF",
    "aNORTH WEST POINTING VINE LEAFaSOUTH WEST POINTING VINE LEAFaNORTH EAST POINTING VINE LEAF",
    "aSOUTH EAST POINTING VINE LEAFaHEAVY NORTH WEST POINTING VINE LEAF",
    "gSOUTH WEST POINTING VINE LEAFgNORTH EAST POINTING VINE LEAFgSOUTH EAST POINTING VINE LEAF",
    "aNORTH WEST POINTING BUDaSOUTH WEST POINTING BUDaNORTH EAST POINTING BUD",
    "aSOUTH EAST POINTING BUDaHEAVY NORTH WEST POINTING BUDgSOUTH WEST POINTING BUD",
    "gNORTH EAST POINTING BUDgSOUTH EAST POINTING BUDbOLLOW QUILT SQUARE ORNAMENT",
    "â IN BLACK SQUAREaSOLID QUILT SQUARE ORNAMENTá IN BLACK SQUAREaLEFTWARDS ROCKET",
    "aUPWARDS ROCKETaRIGHTWARDS ROCKETaDOWNWARDS ROCKETaSCRIPT LIGATURE ET ORNAMENT",
    "aHEAVY SCRIPT LIGATURE ET ORNAMENTaLIGATURE OPEN ET ORNAMENTaHEAVY LIGATURE OPEN ET ORNAMENT",
    "gAMPERSAND ORNAMENTaSWASH AMPERSAND ORNAMENT",
    "bANS-SERIF HEAVY DOUBLE TURNED COMMA QUOTATION MARK ORNAMENTyCOMMA QUOTATION MARK ORNAMENT",
    "rLOW DOUBLE COMMA QUOTATION MARK ORNAMENTaHEAVY INTERROBANG ORNAMENT",
    "aSANS-SERIF INTERROBANG ORNAMENTaHEAVY SANS-SERIF INTERROBANG ORNAMENTaVERY HEAVY SOLIDUS",
    "lREVERSE SOLIDUSaCHECKER BOARDaREVERSE CHECKER BOARDbOCKETaHELICOPTERaSTEAM LOCOMOTIVE",
    "aRAILWAY CARaHIGH-SPEED TRAINq WITH BULLET NOSEaTRAINaMETROaLIGHT RAILaSTATIONaTRAMe CARaBUS",
    "aONCOMING BUSaTROLLEYBUSaBUS STOPaMINIBUSaAMBULANCEaFIRE ENGINEaPOLICE CAR",
    "aONCOMING POLICE CARaTAXIaONCOMING TAXIaAUTOMOBILEaONCOMING AUTOMOBILEaRECREATIONAL VEHICLE",
    "aDELIVERY TRUCKaARTICULATED LORRYaTRACTORaMONORAILcUNTAIN RAILWAYaSUSPENSION RAILWAY",
    "aMOUNTAIN CABLEWAYaAERIAL TRAMWAYaSHIPaROWBOATaSPEEDBOATaHORIZONTAL TRAFFIC LIGHT",
    "aVERTICAL TRAFFIC LIGHTaCONSTRUCTION SIGNaPOLICE CARS REVOLVING LIGHT",
    "aTRIANGULAR FLAG ON POSTaDOORaNO ENTRY SIGNaSMOKING SYMBOLaNO SMOKING SYMBOL",
    "aPUT LITTER IN ITS PLACE SYMBOLaDO NOT LITTER SYMBOLaPOTABLE WATER SYMBOL",
    "aNON-POTABLE WATER SYMBOLaBICYCLEaNO BICYCLESaBICYCLISTaMOUNTAIN BICYCLISTaPEDESTRIAN",
    "aNO PEDESTRIANSaCHILDREN CROSSINGaMENS SYMBOLaWOMENS SYMBOLaRESTROOMaBABY SYMBOLaTOILET",
    "aWATER CLOSETaSHOWERaBATHeTUBaPASSPORT CONTROLaCUSTOMSaBAGGAGE CLAIMaLEFT LUGGAGE",
    "aTRIANGLE WITH ROUNDED CORNERSaPROHIBITED SIGNaCIRCLED INFORMATION SOURCEaBOYS SYMBOL",
    "aGIRLS SYMBOLaCOUCH AND LAMPaSLEEPING ACCOMMODATIONbHOPPING BAGSaBELLHOP BELLcD",
    "aPLACE OF WORSHIPaOCTAGONAL SIGNaSHOPPING TROLLEYbTUPAaPAGODAaHINDU TEMPLEbUTaELEVATOR"]),
  (0x1F6DD, [
    "aPLAYGROUND SLIDEaWHEELaRING BUOYaHAMMER AND WRENCHaSHIELDaOIL DRUMaMOTORWAYaRAILWAY TRACK",
    "aMOTOR BOATaUP-POINTING MILITARY AIRPLANEmAIRPLANEmSMALL AIRPLANEaSMALL AIRPLANE",
    "aNORTHEAST-POINTING AIRPLANEaAIRPLANE DEPARTUREjARRIVING"]),
  (0x1F6F0, [
    "aSATELLITEaONCOMING FIRE ENGINEaDIESEL LOCOMOTIVEaPASSENGER SHIPaSCOOTERaMOTOR SCOOTERaCANOE",
    "aSLEDaFLYING SAUCERaSKATEBOARDaAUTO RICKSHAWaPICKUP TRUCKaROLLER SKATE"]),
  (0x1F700, [
    "aALCHEMICAL SYMBOL FOR QUINTESSENCEwAIRwFIREwEARTHwWATERwAQUAFORTISà REGIAæ-2áVITAEæ-2",
    "wVINEGARã-2ä3wSULFURwPHILOSOPHERS SULFURwBLACK SULFURwMERCURY SUBLIMATEí-2î3wCINNABARwSALT",
    "wNITREwVITRIOLã-2wROCK SALTå-2wGOLDwSILVERwIRON OREä-2wCROCUS OF IRONwREGULUS OF IRON",
    "wCOPPER OREwIRON-COPPER OREwSUBLIMATE OF COPPERwCROCUS OF COPPERì-2xOPPER ANTIMONIATE",
    "wSALT OF COPPER ANTIMONIATExUBLIMATE OF SALT OF COPPERwVERDIGRISwTIN OREwLEAD ORE",
    "wANTIMONY OREwSUBLIMATE OF ANTIMONYxALT OF ANTIMONYxUBLIMATE OF SALT OF ANTIMONY",
    "wVINEGAR OF ANTIMONYwREGULUS OF ANTIMONYï-2ãã-2ä3ä4wALKALIâ-2wMARCASITEwSAL-AMMONIACwARSENIC",
    "wREALGARã-2wAURIPIGMENTwBISMUTH OREwTARTARâ-2wQUICK LIMEwBORAXá-2â3wALUMwOILwSPIRITwTINCTURE",
    "wGUMwWAXwPOWDERwCALXwTUTTYwCAPUT MORTUUMwSCEPTER OF JOVEwCADUCEUSwTRIDENTwSTARRED TRIDENT",
    "wLODESTONEwSOAPwURINEwHORSE DUNGwASHESwPOT ASHESwBRICKwPOWDERED BRICKwAMALGAM",
    "wSTRATUM SUPER STRATUMñ-2xUBLIMATIONwPRECIPITATEwDISTILLzSOLVEä-2wPURIFYyTREFACTIONwCRUCIBLE",
    "ä-2å3å4å5wALEMBICwBATH OF MARYäVAPOURSwRETORTwHOURwNIGHTwDAY-NIGHTwMONTHwHALF DRAMáOUNCE"]),
  (0x1F780, [
    "aBLACK LEFT-POINTING ISOSCELES RIGHT TRIANGLEgUP-POINTING ISOSCELES RIGHT TRIANGLE",
    "gRIGHT-POINTING ISOSCELES RIGHT TRIANGLEgDOWN-POINTING ISOSCELES RIGHT TRIANGLE",
    "gSLIGHTLY SMALL CIRCLEaMEDIUM BOLD WHITE CIRCLEaBOLD WHITE CIRCLEaHEAVY WHITE CIRCLE",
    "aVERY HEAVY WHITE CIRCLEaEXTREMELY HEAVY WHITE CIRCLE",
    "aWHITE CIRCLE CONTAINING BLACK SMALL CIRCLEaROUND TARGETaBLACK TINY SQUARE",
    "gSLIGHTLY SMALL SQUAREaLIGHT WHITE SQUAREaMEDIUM WHITE SQUAREaBOLD WHITE SQUARE",
    "aHEAVY WHITE SQUAREaVERY HEAVY WHITE SQUAREaEXTREMELY HEAVY WHITE SQUARE",
    "aWHITE SQUARE CONTAINING BLACK VERY SMALL SQUAREäMEDIUM SQUAREaSQUARE TARGET",
    "aBLACK TINY DIAMONDgVERY SMALL DIAMONDgMEDIUM SMALL DIAMOND",
    "aWHITE DIAMOND CONTAINING BLACK VERY SMALL DIAMONDåMEDIUM DIAMONDaDIAMOND TARGET",
    "aBLACK TINY LOZENGEgVERY SMALL LOZENGEgMEDIUM SMALL LOZENGE",
    "aWHITE LOZENGE CONTAINING BLACK SMALL LOZENGEaTHIN GREEK CROSSaLIGHT GREEK CROSS",
    "aMEDIUM GREEK CROSSaBOLD GREEK CROSSaVERY BOLD GREEK CROSSfHEAVY GREEK CROSS",
    "aEXTREMELY HEAVY GREEK CROSSaTHIN SALTIREaLIGHT SALTIREaMEDIUM SALTIREaBOLD SALTIRE",
    "aHEAVY SALTIREaVERY HEAVY SALTIREaEXTREMELY HEAVY SALTIREaLIGHT FIVE SPOKED ASTERISK",
    "aMEDIUM FIVE SPOKED ASTERISKaBOLD FIVE SPOKED ASTERISKaHEAVY FIVE SPOKED ASTERISK",
    "aVERY HEAVY FIVE SPOKED ASTERISKaEXTREMELY HEAVY FIVE SPOKED ASTERISK",
    "aLIGHT SIX SPOKED ASTERISKaMEDIUM SIX SPOKED ASTERISKaBOLD SIX SPOKED ASTERISK",
    "aHEAVY SIX SPOKED ASTERISKaVERY HEAVY SIX SPOKED ASTERISK",
    "aEXTREMELY HEAVY SIX SPOKED ASTERISKaLIGHT EIGHT SPOKED ASTERISK",
    "aMEDIUM EIGHT SPOKED ASTERISKaBOLD EIGHT SPOKED ASTERISKaHEAVY EIGHT SPOKED ASTERISK",
    "aVERY HEAVY EIGHT SPOKED ASTERISKaLIGHT THREE POINTED BLACK STAR",
    "aMEDIUM THREE POINTED BLACK STARaTHREE POINTED BLACK STARaMEDIUM THREE POINTED PINWHEEL STAR",
    "aLIGHT FOUR POINTED BLACK STARaMEDIUM FOUR POINTED BLACK STARaFOUR POINTED BLACK STAR",
    "aMEDIUM FOUR POINTED PINWHEEL STARaREVERSE LIGHT FOUR POINTED PINWHEEL STAR",
    "aLIGHT FIVE POINTED BLACK STARaHEAVY FIVE POINTED BLACK STARaMEDIUM SIX POINTED BLACK STAR",
    "aHEAVY SIX POINTED BLACK STARaSIX POINTED PINWHEEL STARaMEDIUM EIGHT POINTED BLACK STAR",
    "aHEAVY EIGHT POINTED BLACK STARaVERY HEAVY EIGHT POINTED BLACK STAR",
    "aHEAVY EIGHT POINTED PINWHEEL STARaLIGHT TWELVE POINTED BLACK STAR",
    "aHEAVY TWELVE POINTED BLACK STARvPINWHEEL STARaCIRCLED TRIANGLEaNEGATIVE CIRCLED TRIANGLE",
    "aCIRCLED SQUAREaNEGATIVE CIRCLED SQUARE"]),
  (0x1F7E0, [
    "aLARGE ORANGE CIRCLEgYELLOW CIRCLEgGREEN CIRCLEgPURPLE CIRCLEgBROWN CIRCLEgRED SQUARE",
    "gBLUE SQUAREgORANGE SQUAREgYELLOW SQUAREgGREEN SQUAREgPURPLE SQUAREgBROWN SQUARE"]),
  (0x1F7F0, ["aHEAVY EQUALS SIGN"]),
  (0x1F800, [
    "aLEFTWARDS ARROW WITH SMALL TRIANGLE ARROWHEADaUPWARDS ARROW WITH SMALL TRIANGLE ARROWHEAD",
    "aRIGHTWARDS ARROW WITH SMALL TRIANGLE ARROWHEAD",
    "aDOWNWARDS ARROW WITH SMALL TRIANGLE ARROWHEAD",
    "aLEFTWARDS ARROW WITH MEDIUM TRIANGLE ARROWHEADaUPWARDS ARROW WITH MEDIUM TRIANGLE ARROWHEAD",
    "aRIGHTWARDS ARROW WITH MEDIUM TRIANGLE ARROWHEAD",
    "aDOWNWARDS ARROW WITH MEDIUM TRIANGLE ARROWHEAD",
    "aLEFTWARDS ARROW WITH LARGE TRIANGLE ARROWHEADaUPWARDS ARROW WITH LARGE TRIANGLE ARROWHEAD",
    "aRIGHTWARDS ARROW WITH LARGE TRIANGLE ARROWHEAD",
    "aDOWNWARDS ARROW WITH LARGE TRIANGLE ARROWHEAD"]),
  (0x1F810, [
    "aLEFTWARDS ARROW WITH SMALL EQUILATERAL ARROWHEAD",
    "aUPWARDS ARROW WITH SMALL EQUILATERAL ARROWHEAD",
    "aRIGHTWARDS ARROW WITH SMALL EQUILATERAL ARROWHEAD",
    "aDOWNWARDS ARROW WITH SMALL EQUILATERAL ARROWHEADaLEFTWARDS ARROW WITH EQUILATERAL ARROWHEAD",
    "aUPWARDS ARROW WITH EQUILATERAL ARROWHEADaRIGHTWARDS ARROW WITH EQUILATERAL ARROWHEAD",
    "aDOWNWARDS ARROW WITH EQUILATERAL ARROWHEADaHEAVY LEFTWARDS ARROW WITH EQUILATERAL ARROWHEAD",
    "gUPWARDS ARROW WITH EQUILATERAL ARROWHEADgRIGHTWARDS ARROW WITH EQUILATERAL ARROWHEAD",
    "gDOWNWARDS ARROW WITH EQUILATERAL ARROWHEADgLEFTWARDS ARROW WITH LARGE EQUILATERAL ARROWHEAD",
    "gUPWARDS ARROW WITH LARGE EQUILATERAL ARROWHEAD",
    "gRIGHTWARDS ARROW WITH LARGE EQUILATERAL ARROWHEAD",
    "gDOWNWARDS ARROW WITH LARGE EQUILATERAL ARROWHEAD",
    "aLEFTWARDS TRIANGLE-HEADED ARROW WITH NARROW SHAFT",
    "aUPWARDS TRIANGLE-HEADED ARROW WITH NARROW SHAFT",
    "aRIGHTWARDS TRIANGLE-HEADED ARROW WITH NARROW SHAFT",
    "aDOWNWARDS TRIANGLE-HEADED ARROW WITH NARROW SHAFT",
    "aLEFTWARDS TRIANGLE-HEADED ARROW WITH MEDIUM SHAFT",
    "aUPWARDS TRIANGLE-HEADED ARROW WITH MEDIUM SHAFT",
    "aRIGHTWARDS TRIANGLE-HEADED ARROW WITH MEDIUM SHAFT",
    "aDOWNWARDS TRIANGLE-HEADED ARROW WITH MEDIUM SHAFT",
    "aLEFTWARDS TRIANGLE-HEADED ARROW WITH BOLD SHAFT",
    "aUPWARDS TRIANGLE-HEADED ARROW WITH BOLD SHAFT",
    "aRIGHTWARDS TRIANGLE-HEADED ARROW WITH BOLD SHAFT",
    "aDOWNWARDS TRIANGLE-HEADED ARROW WITH BOLD SHAFT",
    "aLEFTWARDS TRIANGLE-HEADED ARROW WITH HEAVY SHAFT",
    "aUPWARDS TRIANGLE-HEADED ARROW WITH HEAVY SHAFT",
    "aRIGHTWARDS TRIANGLE-HEADED ARROW WITH HEAVY SHAFT",
    "aDOWNWARDS TRIANGLE-HEADED ARROW WITH HEAVY SHAFT",
    "aLEFTWARDS TRIANGLE-HEADED ARROW WITH VERY HEAVY SHAFT",
    "aUPWARDS TRIANGLE-HEADED ARROW WITH VERY HEAVY SHAFT",
    "aRIGHTWARDS TRIANGLE-HEADED ARROW WITH VERY HEAVY SHAFT",
    "aDOWNWARDS TRIANGLE-HEADED ARROW WITH VERY HEAVY SHAFTaLEFTWARDS FINGER-POST ARROW",
    "aUPWARDS FINGER-POST ARROWaRIGHTWARDS FINGER-POST ARROWaDOWNWARDS FINGER-POST ARROW",
    "aLEFTWARDS SQUARED ARROWaUPWARDS SQUARED ARROWaRIGHTWARDS SQUARED ARROW",
    "aDOWNWARDS SQUARED ARROWaLEFTWARDS COMPRESSED ARROWaUPWARDS COMPRESSED ARROW",
    "aRIGHTWARDS COMPRESSED ARROWaDOWNWARDS COMPRESSED ARROWaLEFTWARDS HEAVY COMPRESSED ARROW",
    "aUPWARDS HEAVY COMPRESSED ARROWaRIGHTWARDS HEAVY COMPRESSED ARROW",
    "aDOWNWARDS HEAVY COMPRESSED ARROWaLEFTWARDS HEAVY ARROWaUPWARDS HEAVY ARROW",
    "aRIGHTWARDS HEAVY ARROWaDOWNWARDS HEAVY ARROW"]),
  (0x1F850, [
    "aLEFTWARDS SANS-SERIF ARROWaUPWARDS SANS-SERIF ARROWaRIGHTWARDS SANS-SERIF ARROW",
    "aDOWNWARDS SANS-SERIF ARROWaNORTH WEST SANS-SERIF ARROWgEAST SANS-SERIF ARROW",
    "aSOUTH EAST SANS-SERIF ARROWgWEST SANS-SERIF ARROWaLEFT RIGHT SANS-SERIF ARROW",
    "aUP DOWN SANS-SERIF ARROW"]),
  (0x1F860, [
    "aWIDE-HEADED LEFTWARDS LIGHT BARB ARROWmUPWARDS LIGHT BARB ARROWmRIGHTWARDS LIGHT BARB ARROW",
    "mDOWNWARDS LIGHT BARB ARROWmNORTH WEST LIGHT BARB ARROWsEAST LIGHT BARB ARROW",
    "mSOUTH EAST LIGHT BARB ARROWsWEST LIGHT BARB ARROWmLEFTWARDS BARB ARROWmUPWARDS BARB ARROW",
    "mRIGHTWARDS BARB ARROWmDOWNWARDS BARB ARROWmNORTH WEST BARB ARROWsEAST BARB ARROW",
    "mSOUTH EAST BARB ARROWsWEST BARB ARROWmLEFTWARDS MEDIUM BARB ARROWmUPWARDS MEDIUM BARB ARROW",
    "mRIGHTWARDS MEDIUM BARB ARROWmDOWNWARDS MEDIUM BARB ARROWmNORTH WEST MEDIUM BARB ARROW",
    "sEAST MEDIUM BARB ARROWmSOUTH EAST MEDIUM BARB ARROWsWEST MEDIUM BARB ARROW",
    "mLEFTWARDS HEAVY BARB ARROWmUPWARDS HEAVY BARB ARROWmRIGHTWARDS HEAVY BARB ARROW",
    "mDOWNWARDS HEAVY BARB ARROWmNORTH WEST HEAVY BARB ARROWsEAST HEAVY BARB ARROW",
    "mSOUTH EAST HEAVY BARB ARROWsWEST HEAVY BARB ARROWmLEFTWARDS VERY HEAVY BARB ARROW",
    "mUPWARDS VERY HEAVY BARB ARROWmRIGHTWARDS VERY HEAVY BARB ARROW",
    "mDOWNWARDS VERY HEAVY BARB ARROWmNORTH WEST VERY HEAVY BARB ARROWsEAST VERY HEAVY BARB ARROW",
    "mSOUTH EAST VERY HEAVY BARB ARROWsWEST VERY HEAVY BARB ARROW"]),
  (0x1F890, [
    "aLEFTWARDS TRIANGLE ARROWHEADaUPWARDS TRIANGLE ARROWHEADaRIGHTWARDS TRIANGLE ARROWHEAD",
    "aDOWNWARDS TRIANGLE ARROWHEADaLEFTWARDS WHITE ARROW WITHIN TRIANGLE ARROWHEAD",
    "aUPWARDS WHITE ARROW WITHIN TRIANGLE ARROWHEAD",
    "aRIGHTWARDS WHITE ARROW WITHIN TRIANGLE ARROWHEAD",
    "aDOWNWARDS WHITE ARROW WITHIN TRIANGLE ARROWHEADaLEFTWARDS ARROW WITH NOTCHED TAIL",
    "aUPWARDS ARROW WITH NOTCHED TAILaRIGHTWARDS ARROW WITH NOTCHED TAIL",
    "aDOWNWARDS ARROW WITH NOTCHED TAILaHEAVY ARROW SHAFT WIDTH ONEyTWO THIRDSyONE HALFâTHIRD",
    "aLEFTWARDS BOTTOM-SHADED WHITE ARROWaRIGHTWARDS BOTTOM SHADED WHITE ARROW",
    "aLEFTWARDS TOP SHADED WHITE ARROWaRIGHTWARDS TOP SHADED WHITE ARROW",
    "aLEFTWARDS LEFT-SHADED WHITE ARROWaRIGHTWARDS RIGHT-SHADED WHITE ARROW",
    "aLEFTWARDS RIGHT-SHADED WHITE ARROWaRIGHTWARDS LEFT-SHADED WHITE ARROW",
    "aLEFTWARDS BACK-TILTED SHADOWED WHITE ARROWaRIGHTWARDS BACK-TILTED SHADOWED WHITE ARROW",
    "aLEFTWARDS FRONT-TILTED SHADOWED WHITE ARROWaRIGHTWARDS FRONT-TILTED SHADOWED WHITE ARROW",
    "aWHITE ARROW SHAFT WIDTH ONEyTWO THIRDS"]),
  (0x1F8B0, ["aARROW POINTING UPWARDS THEN NORTH WESTpRIGHTWARDS THEN CURVING SOUTH WEST"]),
  (0x1F900, [
    "aCIRCLED CROSS FORMEE WITH FOUR DOTSàTWO DOTSuaLEFT HALF CIRCLE WITH FOUR DOTSwTHREE DOTS",
    "xWO DOTSwDOTqaDOWNWARD FACING HOOKqNOTCHED HOOKqHOOK WITH DOTqNOTCHED HOOK WITH DOT",
    "aPINCHED FINGERSaWHITE HEARTaBROWN HEARTaPINCHING HANDaZIPPER-MOUTH FACEaMONEY-MOUTH FACE",
    "aFACE WITH THERMOMETERaNERD FACEaTHINKING FACEaFACE WITH HEAD-BANDAGEaROBOT FACE",
    "aHUGGING FACEaSIGN OF THE HORNSaCALL ME HANDaRAISED BACK OF HANDaLEFT-FACING FIST",
    "aRIGHT-FACING FISTaHANDSHAKEe WITH INDEX AND MIDDLE FINGERS CROSSEDaI LOVE YOU HAND SIGN",
    "aFACE WITH COWBOY HATaCLOWN FACEaNAUSEATED FACEaROLLING ON THE FLOOR LAUGHINGaDROOLING FACE",
    "aLYING FACEaFACE PALMaSNEEZING FACEaFACE WITH ONE EYEBROW RAISED",
    "aGRINNING FACE WITH STAR EYEStONE LARGE AND ONE SMALL EYE",
    "aFACE WITH FINGER COVERING CLOSED LIPSaSERIOUS FACE WITH SYMBOLS COVERING MOUTH",
    "bMILING FACE WITH SMILING EYES AND HAND COVERING MOUTHaFACE WITH OPEN MOUTH VOMITING",
    "aSHOCKED FACE WITH EXPLODING HEADaPREGNANT WOMANaBREAST-FEEDINGaPALMS UP TOGETHERaSELFIE",
    "aPRINCEaMAN IN TUXEDObOTHER CHRISTMASaSHRUGaPERSON DOING CARTWHEELaJUGGLINGaFENCER",
    "aMODERN PENTATHLONaWRESTLERSbATER POLOaHANDBALLaDIVING MASKaWILTED FLOWER",
    "aDRUM WITH DRUMSTICKSaCLINKING GLASSESaTUMBLER GLASSaSPOONaGOAL NETaRIFLEaFIRST PLACE MEDAL",
    "aSECOND PLACE MEDALaTHIRD PLACE MEDALaBOXING GLOVEaMARTIAL ARTS UNIFORMaCURLING STONE",
    "aLACROSSE STICK AND BALLaSOFTBALLaFLYING DISCaCROISSANTaAVOCADOaCUCUMBERaBACONaPOTATOaCARROT",
    "aBAGUETTE BREADaGREEN SALADaSHALLOW PAN OF FOODbTUFFED FLATBREADaEGGaGLASS OF MILKaPEANUTS",
    "aKIWIFRUITaPANCAKESaDUMPLINGaFORTUNE COOKIEaTAKEOUT BOXaCHOPSTICKSaBOWL WITH SPOON",
    "aCUP WITH STRAWbOCONUTaBROCCOLIaPIEbRETZELaCUT OF MEATaSANDWICHaCANNED FOODaLEAFY GREEN",
    "aMANGObOON CAKEaBAGELaSMILING FACE WITH SMILING EYES AND THREE HEARTSaYAWNING FACE",
    "aSMILING FACE WITH TEARaFACE WITH PARTY HORN AND PARTY HATkUNEVEN EYES AND WAVY MOUTH",
    "aOVERHEATED FACEaFREEZING FACEaNINJAaDISGUISED FACEaFACE HOLDING BACK TEARS",
    "fWITH PLEADING EYESaSARIaLAB COATaGOGGLESaHIKING BOOTaFLAT SHOEaCRABaLION FACEaSCORPION",
    "aTURKEYaUNICORN FACEaEAGLEaDUCKaBATaSHARKaOWLaFOX FACEaBUTTERFLYaDEERaGORILLAaLIZARD",
    "aRHINOCEROSaSHRIMPbQUIDaGIRAFFE FACEaZEBRA FACEaHEDGEHOGaSAUROPODaT-REXaCRICKETaKANGAROO",
    "aLLAMAaPEACOCKaHIPPOPOTAMUSaPARROTaRACCOONaLOBSTERaMOSQUITObICROBEaBADGERaSWANaMAMMOTHaDODO",
    "aSLOTHaOTTERbRANGUTANaSKUNKaFLAMINGOaOYSTERaBEAVERbISONaSEALaGUIDE DOGaPROBING CANE",
    "aEMOJI COMPONENT RED HAIRqCURLY HAIRqBALDqWHITE HAIRaBONEaLEGaFOOTaTOOTHaSUPERHEROfVILLAIN",
    "bAFETY VESTaEAR WITH HEARING AIDaMOTORIZED WHEELCHAIRbANUAL WHEELCHAIRbECHANICAL ARMlLEG",
    "aCHEESE WEDGEbUPCAKEaSALT SHAKERaBEVERAGE BOXaGARLICaONIONaFALAFELaWAFFLEaBUTTERaMATE DRINK",
    "aICE CUBEaBUBBLE TEAaTROLLaSTANDING PERSONaKNEELING PERSONaDEAF PERSONaFACE WITH MONOCLE",
    "aADULTaCHILDaOLDER ADULTaBEARDED PERSONaPERSON WITH HEADSCARFhIN STEAMY ROOMhCLIMBING",
    "hIN LOTUS POSITIONaMAGEaFAIRYaVAMPIREaMERPERSONaELFaGENIEaZOMBIEaBRAINaORANGE HEART",
    "aBILLED CAPaSCARFaGLOVESaCOATaSOCKSaRED GIFT ENVELOPEaFIRECRACKERaJIGSAW PUZZLE PIECE",
    "aTEST TUBEaPETRI DISHaDNA DOUBLE HELIXaCOMPASSaABACUSaFIRE EXTINGUISHERaTOOLBOXaBRICKaMAGNET",
    "aLUGGAGEbOTION BOTTLEaSPOOL OF THREADaBALL OF YARNaSAFETY PINaTEDDY BEARaBROOMbASKET",
    "aROLL OF PAPERaBAR OF SOAPaSPONGEaRECEIPTaNAZAR AMULETbEUTRAL CHESS KINGoQUEENoROOKoBISHOP",
    "oKNIGHToPAWNaWHITE CHESS KNIGHT ROTATED FORTY-FIVE DEGREES",
    "aBLACK CHESS KNIGHT ROTATED FORTY-FIVE DEGREES",
    "aNEUTRAL CHESS KNIGHT ROTATED FORTY-FIVE DEGREESaWHITE CHESS KING ROTATED NINETY DEGREES",
    "mQUEEN ROTATED NINETY DEGREESmROOK ROTATED NINETY DEGREESmBISHOP ROTATED NINETY DEGREES",
    "mKNIGHT ROTATED NINETY DEGREESmPAWN ROTATED NINETY DEGREES",
    "aBLACK CHESS KING ROTATED NINETY DEGREESmQUEEN ROTATED NINETY DEGREES",
    "mROOK ROTATED NINETY DEGREESmBISHOP ROTATED NINETY DEGREESmKNIGHT ROTATED NINETY DEGREES",
    "mPAWN ROTATED NINETY DEGREESaNEUTRAL CHESS KING ROTATED NINETY DEGREES",
    "oQUEEN ROTATED NINETY DEGREESoROOK ROTATED NINETY DEGREESoBISHOP ROTATED NINETY DEGREES",
    "oKNIGHT ROTATED NINETY DEGREESoPAWN ROTATED NINETY DEGREES",
    "aWHITE CHESS KNIGHT ROTATED ONE HUNDRED THIRTY-FIVE DEGREES",
    "aBLACK CHESS KNIGHT ROTATED ONE HUNDRED THIRTY-FIVE DEGREES",
    "aNEUTRAL CHESS KNIGHT ROTATED ONE HUNDRED THIRTY-FIVE DEGREESaWHITE CHESS TURNED KINGtQUEEN",
    "tROOKtBISHOPtKNIGHTtPAWNaBLACK CHESS TURNED KINGtQUEENtROOKtBISHOPtKNIGHTtPAWN",
    "aNEUTRAL CHESS TURNED KINGvQUEENvROOKvBISHOPvKNIGHTvPAWN",
    "aWHITE CHESS KNIGHT ROTATED TWO HUNDRED TWENTY-FIVE DEGREES",
    "aBLACK CHESS KNIGHT ROTATED TWO HUNDRED TWENTY-FIVE DEGREES",
    "aNEUTRAL CHESS KNIGHT ROTATED TWO HUNDRED TWENTY-FIVE DEGREES",
    "aWHITE CHESS KING ROTATED TWO HUNDRED SEVENTY DEGREES",
    "mQUEEN ROTATED TWO HUNDRED SEVENTY DEGREESmROOK ROTATED TWO HUNDRED SEVENTY DEGREES",
    "mBISHOP ROTATED TWO HUNDRED SEVENTY DEGREESmKNIGHT ROTATED TWO HUNDRED SEVENTY DEGREES",
    "mPAWN ROTATED TWO HUNDRED SEVENTY DEGREES",
    "aBLACK CHESS KING ROTATED TWO HUNDRED SEVENTY DEGREES",
    "mQUEEN ROTATED TWO HUNDRED SEVENTY DEGREESmROOK ROTATED TWO HUNDRED SEVENTY DEGREES",
    "mBISHOP ROTATED TWO HUNDRED SEVENTY DEGREESmKNIGHT ROTATED TWO HUNDRED SEVENTY DEGREES",
    "mPAWN ROTATED TWO HUNDRED SEVENTY DEGREES",
    "aNEUTRAL CHESS KING ROTATED TWO HUNDRED SEVENTY DEGREES",
    "oQUEEN ROTATED TWO HUNDRED SEVENTY DEGREESoROOK ROTATED TWO HUNDRED SEVENTY DEGREES",
    "oBISHOP ROTATED TWO HUNDRED SEVENTY DEGREESoKNIGHT ROTATED TWO HUNDRED SEVENTY DEGREES",
    "oPAWN ROTATED TWO HUNDRED SEVENTY DEGREES",
    "aWHITE CHESS KNIGHT ROTATED THREE HUNDRED FIFTEEN DEGREES",
    "aBLACK CHESS KNIGHT ROTATED THREE HUNDRED FIFTEEN DEGREES",
    "aNEUTRAL CHESS KNIGHT ROTATED THREE HUNDRED FIFTEEN DEGREESaWHITE CHESS EQUIHOPPER",
    "aBLACK CHESS EQUIHOPPERaNEUTRAL CHESS EQUIHOPPER",
    "aWHITE CHESS EQUIHOPPER ROTATED NINETY DEGREESaBLACK CHESS EQUIHOPPER ROTATED NINETY DEGREES",
    "aNEUTRAL CHESS EQUIHOPPER ROTATED NINETY DEGREESaWHITE CHESS KNIGHT-QUEENtROOKtBISHOP",
    "aBLACK CHESS KNIGHT-QUEENtROOKtBISHOP"]),
  (0x1FA60, [
    "aXIANGQI RED GENERALmMANDARINmELEPHANTmHORSEmCHARIOTnANNONmSOLDIERiBLACK GENERALoMANDARIN",
    "oELEPHANToHORSEoCHARIOTpANNONoSOLDIER"]),
  (0x1FA70, ["aBALLET SHOESaONE-PIECE SWIMSUITaBRIEFSaSHORTSaTHONG SANDAL"]),
  (0x1FA78, ["aDROP OF BLOODaADHESIVE BANDAGEaSTETHOSCOPEaX-RAYaCRUTCH"]),
  (0x1FA80, ["aYO-YOaKITEaPARACHUTEaBOOMERANGaMAGIC WANDaPINATAaNESTING DOLLS"]),
  (0x1FA90, [
    "aRINGED PLANETaCHAIRaRAZORaAXEaDIYA LAMPaBANJOaMILITARY HELMETaACCORDIONaLONG DRUMaCOIN",
    "bARPENTRY SAWaSCREWDRIVERaLADDERaHOOKaMIRRORaWINDOWaPLUNGERaSEWING NEEDLEaKNOTaBUCKET",
    "aMOUSE TRAPaTOOTHBRUSHaHEADSTONEaPLACARDaROCKaMIRROR BALLaIDENTIFICATION CARDaLOW BATTERY",
    "aHAMSA"]),
  (0x1FAB0, [
    "aFLYaWORMaBEETLEaCOCKROACHaPOTTED PLANTaWOODaFEATHERaLOTUSaCORALaEMPTY NESTaNEST WITH EGGS"]),
  (0x1FAC0, ["aANATOMICAL HEARTaLUNGSaPEOPLE HUGGINGbREGNANT MANjPERSONbERSON WITH CROWN"]),
  (0x1FAD0, [
    "aBLUEBERRIESbELL PEPPERaOLIVEaFLATBREADaTAMALEaFONDUEaTEAPOTaPOURING LIQUIDaBEANSaJAR"]),
  (0x1FAE0, [
    "aMELTING FACEaSALUTING FACEaFACE WITH OPEN EYES AND HAND OVER MOUTHkPEEKING EYE",
    "kDIAGONAL MOUTHaDOTTED LINE FACEaBITING LIPbUBBLES"]),
  (0x1FAF0, [
    "aHAND WITH INDEX FINGER AND THUMB CROSSEDaRIGHTWARDS HANDaLEFTWARDS HANDaPALM DOWN HAND",
    "fUP HANDaINDEX POINTING AT THE VIEWERaHEART HANDS"]),
  (0x1FB00, [
    "aBLOCK SEXTANT-1o2o12o3o13o23o123o4o14o24o124o34o134o234o1234o5o15o25o125o35o235o1235o45o145",
    "o245o1245o345o1345o2345o12345o6o16o26o126o36o136o236o1236o46o146p246o346o1346o2346o12346o56",
    "o156o256o1256o356o1356o2356o12356o456o1456o2456o12456o3456o13456o23456",
    "aLOWER LEFT BLOCK DIAGONAL LOWER MIDDLE LEFT TO LOWER CENTREøER RIGHT",
    "àUPPER MIDDLE LEFT TO LOWER CENTREøER RIGHTæLEFT TO LOWER CENTRE",
    "gRIGHT BLOCK DIAGONAL UPPER MIDDLE LEFT TO UPPER CENTREøPER RIGHT",
    "áLOWER MIDDLE LEFT TO UPPER CENTREøPER RIGHTçLEFT TO UPPER CENTRE",
    "çMIDDLE LEFT TO UPPER MIDDLE RIGHTçCENTRE TO LOWER MIDDLE RIGHTçLEFT TO LOWER MIDDLE RIGHT",
    "çCENTRE TO UPPER MIDDLE RIGHTçLEFT TO UPPER MIDDLE RIGHTçCENTRE TO UPPER RIGHT",
    "gLEFT BLOCK DIAGONAL UPPER CENTRE TO UPPER MIDDLE RIGHTæLEFT TO UPPER MIDDLE RIGHT",
    "æCENTRE TO LOWER MIDDLE RIGHTæLEFT TO LOWER MIDDLE RIGHTæCENTRE TO LOWER RIGHT",
    "æMIDDLE LEFT TO LOWER MIDDLE RIGHT",
    "aUPPER RIGHT BLOCK DIAGONAL LOWER MIDDLE LEFT TO LOWER CENTREøWER RIGHT",
    "áUPPER MIDDLE LEFT TO LOWER CENTREøWER RIGHTçLEFT TO LOWER CENTRE",
    "gLEFT BLOCK DIAGONAL UPPER MIDDLE LEFT TO UPPER CENTREøER RIGHT",
    "àLOWER MIDDLE LEFT TO UPPER CENTREøER RIGHTæLEFT TO UPPER CENTRE",
    "æMIDDLE LEFT TO UPPER MIDDLE RIGHTæCENTRE TO LOWER MIDDLE RIGHTæLEFT TO LOWER MIDDLE RIGHT",
    "æCENTRE TO UPPER MIDDLE RIGHTæLEFT TO UPPER MIDDLE RIGHTæCENTRE TO UPPER RIGHT",
    "gRIGHT BLOCK DIAGONAL UPPER CENTRE TO UPPER MIDDLE RIGHTçLEFT TO UPPER MIDDLE RIGHT",
    "çCENTRE TO LOWER MIDDLE RIGHTçLEFT TO LOWER MIDDLE RIGHTçCENTRE TO LOWER RIGHT",
    "çMIDDLE LEFT TO LOWER MIDDLE RIGHTgAND RIGHT AND LOWER TRIANGULAR THREE QUARTERS BLOCK",
    "aLEFT AND LOWER AND RIGHT TRIANGULAR THREE QUARTERS BLOCK",
    "aUPPER AND LEFT AND LOWER TRIANGULAR THREE QUARTERS BLOCK",
    "aLEFT AND UPPER AND RIGHT TRIANGULAR THREE QUARTERS BLOCKfTRIANGULAR ONE QUARTER BLOCK",
    "aUPPER TRIANGULAR ONE QUARTER BLOCKaRIGHT TRIANGULAR ONE QUARTER BLOCK",
    "aLOWER TRIANGULAR ONE QUARTER BLOCKaVERTICAL ONE EIGHTH BLOCK-2à3à4à5à6à7",
    "aHORIZONTAL ONE EIGHTH BLOCK-2â3â4â5â6â7aLEFT AND LOWER ONE EIGHTH BLOCK",
    "jUPPER ONE EIGHTH BLOCKaRIGHT AND UPPER ONE EIGHTH BLOCKkLOWER ONE EIGHTH BLOCK",
    "aUPPER AND LOWER ONE EIGHTH BLOCKaHORIZONTAL ONE EIGHTH BLOCK-1358aUPPER ONE QUARTER BLOCK",
    "gTHREE EIGHTHS BLOCKgFIVE EIGHTHS BLOCKgTHREE QUARTERS BLOCKgSEVEN EIGHTHS BLOCK",
    "aRIGHT ONE QUARTER BLOCKgTHREE EIGHTHS BLOCKgFIVE EIGHTHS BLOCKgTHREE QUARTERS BLOCK",
    "gSEVEN EIGHTHS BLOCKaLEFT HALF MEDIUM SHADEaRIGHT HALF MEDIUM SHADEaUPPER HALF MEDIUM SHADE",
    "aLOWER HALF MEDIUM SHADEaINVERSE MEDIUM SHADE",
    "aUPPER HALF BLOCK AND LOWER HALF INVERSE MEDIUM SHADE",
    "lINVERSE MEDIUM SHADE AND LOWER HALF BLOCK"]),
  (0x1FB94, [
    "aLEFT HALF INVERSE MEDIUM SHADE AND RIGHT HALF BLOCKaCHECKER BOARD FILL",
    "aINVERSE CHECKER BOARD FILLaHEAVY HORIZONTAL FILLaUPPER LEFT TO LOWER RIGHT FILL",
    "gRIGHT TO LOWER LEFT FILLgAND LOWER TRIANGULAR HALF BLOCK",
    "aLEFT AND RIGHT TRIANGULAR HALF BLOCKaUPPER LEFT TRIANGULAR MEDIUM SHADE",
    "gRIGHT TRIANGULAR MEDIUM SHADEaLOWER RIGHT TRIANGULAR MEDIUM SHADE",
    "gLEFT TRIANGULAR MEDIUM SHADEaBOX DRAWINGS LIGHT DIAGONAL UPPER CENTRE TO MIDDLE LEFTø RIGHT",
    "âMIDDLE LEFT TO LOWER CENTREéRIGHT TO LOWER CENTRE",
    "âUPPER CENTRE TO MIDDLE LEFT TO LOWER CENTREø RIGHT TO LOWER CENTRE",
    "âMIDDLE LEFT TO LOWER CENTRE TO MIDDLE RIGHTñUPPER CENTRE TO MIDDLE RIGHT",
    "âUPPER CENTRE TO MIDDLE LEFT AND MIDDLE RIGHT TO LOWER CENTRE",
    "ø RIGHT AND MIDDLE LEFT TO LOWER CENTREø RIGHT TO LOWER CENTRE TO MIDDLE LEFT",
    "ø LEFT TO LOWER CENTRE TO MIDDLE RIGHT",
    "âMIDDLE LEFT TO UPPER CENTRE TO MIDDLE RIGHT TO LOWER CENTRE",
    "éRIGHT TO UPPER CENTRE TO MIDDLE LEFT TO LOWER CENTREâDIAMOND",
    "tHORIZONTAL WITH VERTICAL STROKEaARROWHEAD-SHAPED POINTERaINVERSE CHECK MARK",
    "aLEFT HALF RUNNING MANaRIGHT HALF RUNNING MANaINVERSE DOWNWARDS ARROW WITH TIP LEFTWARDS",
    "aLEFTWARDS ARROW AND UPPER AND LOWER ONE EIGHTH BLOCK",
    "aRIGHTWARDS ARROW AND UPPER AND LOWER ONE EIGHTH BLOCK",
    "aDOWNWARDS ARROW AND RIGHT ONE EIGHTH BLOCKaUPWARDS ARROW AND RIGHT ONE EIGHTH BLOCK",
    "aLEFT HALF FOLDERaRIGHT HALF FOLDERaVOIDED GREEK CROSSaRIGHT OPEN SQUARED DOT",
    "aNEGATIVE DIAGONAL CROSSsMIDDLE RIGHT TO LOWER CENTREsDIAMOND",
    "aWHITE HEAVY SALTIRE WITH ROUNDED CORNERSaLEFT THIRD WHITE RIGHT POINTING INDEX",
    "aMIDDLE THIRD WHITE RIGHT POINTING INDEXaRIGHT THIRD WHITE RIGHT POINTING INDEX",
    "aNEGATIVE SQUARED QUESTION MARKaSTICK FIGUREm WITH ARMS RAISEDnLEANING LEFTvRIGHTnWITH DRESS",
    "aWHITE UP-POINTING CHEVRON"]),
  (0x1FBF0, ["aSEGMENTED DIGIT ZEROqONEqTWOrHREEqFOURrIVEqSIXrEVENqEIGHTqNINE"]),
  (0xE0001, ["aLANGUAGE TAG"]),
  (0xE0020, [
    "aTAG SPACEeEXCLAMATION MARKeQUOTATION MARKeNUMBER SIGNeDOLLAR SIGNePERCENT SIGNeAMPERSAND",
    "fPOSTROPHEeLEFT PARENTHESISeRIGHT PARENTHESISeASTERISKePLUS SIGNeCOMMAeHYPHEN-MINUS",
    "eFULL STOPeSOLIDUSeDIGIT ZEROkONEkTWOlHREEkFOURlIVEkSIXlEVENkEIGHTkNINEeCOLONeSEMICOLON",
    "eLESS-THAN SIGNeEQUALS SIGNeGREATER-THAN SIGNeQUESTION MARKeCOMMERCIAL AT",
    "eLATIN CAPITAL LETTER AzBzCzDzEzFzGzHzIzJzKzLzMzNzOzPzQzRzSzTzUzVzWzXzYzZfEFT SQUARE BRACKET",
    "eREVERSE SOLIDUSfIGHT SQUARE BRACKETeCIRCUMFLEX ACCENTeLOW LINEeGRAVE ACCENT",
    "eLATIN SMALL LETTER AxBxCxDxExFxGxHxIxJxKxLxMxNxOxPxQxRxSxTxUxVxWxXxYxZfEFT CURLY BRACKET",
    "eVERTICAL LINEeRIGHT CURLY BRACKETeTILDEaCANCEL TAG"]),
  (0xE0100, [
    "aVARIATION SELECTOR-17u8u9t20u1u2u3u4u5u6u7u8u9t30u1u2u3u4u5u6u7u8u9t40u1u2u3u4u5u6u7u8u9t50",
    "u1u2u3u4u5u6u7u8u9t60u1u2u3u4u5u6u7u8u9t70u1u2u3u4u5u6u7u8u9t80u1u2u3u4u5u6u7u8u9t90u1u2u3u4",
    "u5u6u7u8u9t100v1v2v3v4v5v6v7v8v9u10v1v2v3v4v5v6v7v8v9u20v1v2v3v4v5v6v7v8v9u30v1v2v3v4v5v6v7",
    "v8v9u40v1v2v3v4v5v6v7v8v9u50v1v2v3v4v5v6v7v8v9u60v1v2v3v4v5v6v7v8v9u70v1v2v3v4v5v6v7v8v9u80",
    "v1v2v3v4v5v6v7v8v9u90v1v2v3v4v5v6v7v8v9t200v1v2v3v4v5v6v7v8v9u10v1v2v3v4v5v6v7v8v9u20v1v2v3",
    "v4v5v6v7v8v9u30v1v2v3v4v5v6v7v8v9u40v1v2v3v4v5v6v7v8v9u50v1v2v3v4v5v6"])]

end ToolBindings.Text
