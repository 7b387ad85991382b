/-!
# Character names from U+102A0 to U+1D7CB

The names of Unicode 14.0, in the form that `NameBlock` describes.
-/
namespace ToolBindings.Text

/-- The names from U+102A0 to U+1D7CB. -/
def characterNamesFrom102A0 : List (Nat × List String) := [
  (0x102A0, [
    "aCARIAN LETTER AoP2oDoLoUUUoRoLDoA2oQoBoMoOoD2oToSHq2poC-18oUoNNoXoNoTT2oPoSSoIoEoUUUUoKp2",
    "oNDoUUoGp2oSTq2oNGoIIoC-39oTToUUU2oRRoMBq2q3q4oLD2oE2oUUU3"]),
  (0x102E0, [
    "aCOPTIC EPACT THOUSANDS MARKnDIGIT ONEtTWOuHREEtFOURuIVEtSIXuEVENtEIGHTtNINEnNUMBER TEN",
    "vWENTYvHIRTYuFORTYvIFTYuSIXTYvEVENTYuEIGHTYuNINETYuONE HUNDREDuTWO HUNDREDvHREE HUNDRED",
    "uFOUR HUNDREDvIVE HUNDREDuSIX HUNDREDvEVEN HUNDREDuEIGHT HUNDREDuNINE HUNDRED"]),
  (0x10300, [
    "aOLD ITALIC LETTER AsBEsKEsDEsEsVEsZEsHEsTHEsIsKAsELtMtNtSHsOsPEsSHEsKUsERtSsTEsUsEKSsPHE",
    "sKHEsEFtRSsCHEsIIsUUsESSlNUMERAL ONEtFIVEtTENtFIFTY"]),
  (0x1032D, [
    "aOLD ITALIC LETTER YEsNORTHERN TSEsSOUTHERN TSEaGOTHIC LETTER AHSAoBAIRKANoGIBAoDAGSoAIHVUS",
    "oQAIRTHRAoIUJAoHAGLoTHIUTHoEISoKUSMAoLAGUSoMANNAoNAUTHSoJERoURUSoPAIRTHRAoNINETYoRAIDAoSAUIL",
    "oTEIWSoWINJAoFAIHUoIGGWSoHWAIRoOTHALoNINE HUNDRED"]),
  (0x10350, [
    "aOLD PERMIC LETTER ANsBURsGAIsDOIsEsZHOIsDZHOIsZATAsDZITAsIsKOKEsLEIsMENOEsNENOEsVOOIsPEEI",
    "sREIsSIIsTAIsUsCHERYsSHOOIuCHOOIsYRYtERUsOtOsEFsHAsTSIUsVERsYERvItATsIEsYUtAsIA",
    "aCOMBINING OLD PERMIC LETTER ANâDOIâZATAâNENOEâSII"]),
  (0x10380, [
    "aUGARITIC LETTER ALPAqBETAqGAMLAqKHAqDELTAqHOqWOqZETAqHOTAqTETqYODqKAFqSHINqLAMDAqMEMqDHAL",
    "qNUNqZUqSAMKAqAINqPUqSADEqQOPAqRASHAqTHANNAqGHAINqTOqIqUqSSU"]),
  (0x1039F, [
    "aUGARITIC WORD DIVIDERaOLD PERSIAN SIGN ArIrUrKAsUrGAsUrXArCArJAsIrTAsUrDAsIsUrTHArPArBArFA",
    "rNAsUrMAsIsUrYArVAsIrRAsUrLArSArZArSHAsSArHA"]),
  (0x103C8, [
    "aOLD PERSIAN SIGN AURAMAZDAAá-2áHArXSHAAYATHIYArDAHYAAUSHà-2rBAGAsUUMISHmWORD DIVIDER",
    "mNUMBER ONEtTWOuENuWENTYtHUNDRED"]),
  (0x10400, [
    "aDESERET CAPITAL LETTER LONG IâEâAãHâOãOxSHORT IãEãAäHãOäOxAYxOWxWUxYEExHxPEExBEExTEExDEE",
    "xCHEExJEExKAYxGAYxEFxVEExETHxTHEExESxZEExESHxZHEExERyLyMyNzGxOIxEWiSMALL LETTER LONG IàEàAáH",
    "àOáOvSHORT IáEáAâHáOâOvAYvOWvWUvYEEvHvPEEvBEEvTEEvDEEvCHEEvJEEvKAYvGAYvEFvVEEvETHvTHEEvES",
    "vZEEvESHvZHEEvERwLwMwNxGvOIvEWaSHAVIAN LETTER PEEPpTOTpKICKpFEEpTHIGHpSOqUREpCHURCHpYEApHUNG",
    "pBIBpDEADpGAGpVOWpTHEYpZOOpMEASUREpJUDGEpWOEpHA-HApLOLLpMIMEpIFpEGGpASHqDOpONpWOOLpOUTpAH",
    "pROARpNUNpEATpAGEpICEpUPpOAKqOZEqILpAWEqREpORpAIRpERRpARRAYpEARpIANpYEWaOSMANYA LETTER ALEF",
    "pBApTApJApXApKHApDEELpRApSAqHIINpDHApCAYNpGApFApQAAFpKAAFpLAANpMIINpNUUNpWAWpHApYApApEpIpOpU",
    "pAApEEpOO"]),
  (0x104A0, ["aOSMANYA DIGIT ZEROoONEoTWOpHREEoFOURpIVEoSIXpEVENoEIGHToNINE"]),
  (0x104B0, [
    "aOSAGE CAPITAL LETTER AwIxNwHvBRAvCHAvEHCHAwwINvHAwYAvIvKAvEHKAvKYAvLAvMAvNAvOwINvPAvEHPAvSA",
    "wHAvTAvEHTAvTSAvEHTSAvTSHAvDHAvUvWAvKHAvGHAvZAwHA"]),
  (0x104D8, [
    "aOSAGE SMALL LETTER AuIvNuHtBRAtCHAtEHCHAuuINtHAuYAtItKAtEHKAtKYAtLAtMAtNAtOuINtPAtEHPAtSA",
    "uHAtTAtEHTAtTSAtEHTSAtTSHAtDHAtUtWAtKHAtGHAtZAuHA"]),
  (0x10500, [
    "aELBASAN LETTER ApBEpCEqHEpDEpNDEpDHEpEIqpFEpGEqJEpHEpIpJEpKEpLEqLEpMEpNEqAqJEpOpPEpQEpREqRE",
    "pSEqHEpTEqHEpUpVEpXEpYpZEqHEpGHErAMMApKHE"]),
  (0x10530, [
    "aCAUCASIAN ALBANIAN LETTER ALTàBETàGIMàDATàEBàZARLàEYNàZHILàTASàCHAàYOWDàZHAàIRBàSHAàLAN",
    "àINYAàXEYNàDYANàCARàJHOXàKARàLYITàHEYTàQAYàAORàCHOYâIáYAYàMAQàQARàNOWCàDZYAYàSHAKàJAYNàON",
    "àTYAYàFAMàDZAYàCHATàPENàGHEYSàRATàSEYKàVEYZàTIWRàSHOYàIWNàCYAWáAYNàYAYDàPIWRàKIW"]),
  (0x1056F, [
    "aCAUCASIAN ALBANIAN CITATION MARKaVITHKUQI CAPITAL LETTER AyBBEzEyCEzHEyDEzHEyEIzyFEyGA"]),
  (0x1057C, ["aVITHKUQI CAPITAL LETTER HAzHAyIzJEyJEyKAyLAzLAyMEyNEzJEyOyPEyQAyRE"]),
  (0x1058C, ["aVITHKUQI CAPITAL LETTER SEzHEyTEzHEyUyVEyXE"]),
  (0x10594, ["aVITHKUQI CAPITAL LETTER YyZE"]),
  (0x10597, ["aVITHKUQI SMALL LETTER AwBBExEwCExHEwDExHEwEIxwFEwGA"]),
  (0x105A3, ["aVITHKUQI SMALL LETTER HAxHAwIxJEwJEwKAwLAxLAwMEwNExJEwOwPEwQAwRE"]),
  (0x105B3, ["aVITHKUQI SMALL LETTER SExHEwTExHEwUwVEwXE"]),
  (0x105BB, ["aVITHKUQI SMALL LETTER YwZE"]),
  (0x10600, [
    "aLINEAR A SIGN AB001s2s3s4s5s6s7s8s9r10s1s3s6s7r20s1tFtMs2tFtMs3tMs4s6s7s8p028BpB029r30s1s4",
    "s7s8s9r40s1s4s5s6s7s8s9r50s1s3s4s5s6s7s8s9r60s1s5s6s7s9r70s3s4s6s7s8s9r80s1s2s5s6s7p100-102",
    "pB118r20p120BpB122s3r31AtBp131CpB164r71r80s8r91p301r2r3r4r5r6r7r8r9AsBsCq10r1r2r3AsBsCr4r5r6",
    "r7r8r9q20r1r2r3r4r5r6r7r8r9q30r1r2r3r4r5r6r7r8r9q40r1r2r3r4r5r6r7r8r9q50r1r2r3r4r5r6r7r8r9",
    "q60r1r2r3r4r5r6r7r8r9q70r1p400-VASr1-VASr2-VASr3-VASr4-VASr5-VASr6-VASr7-VASr8-VASr9-VAS",
    "q10-VASr1-VASr2-VASr3-VASr4-VASr5-VASr6-VASr7-VASr8-VASp501r2r3r4r5r6r8r9q10r1r2r3r5r6q20r1",
    "r3r4r5r6r7r8r9q30r1r2r4r5r6r7r8r9q40r1r2r5r7r8r9q50r1r2r3r4r5r6r7r9q63r4r5r6r8r9q70r1r2r3r4",
    "r5r6r7r8r9q80r1r2r3r4r5r6r7r8r9q91r2r4r5r6r8p600r1r2r3r4r6r8r9q10r1r2r3r4r5r6r7r8r9q20r1r2r3",
    "r4r6r7r8r9q34r7r8q40r2r3r4r5r6r8r9q51r2r3r4r5r6r7r8r9q60r1r2r3r4"]),
  (0x10740, [
    "aLINEAR A SIGN A701 Ar2 Br3 Dr4 Er5 Fr6 Hr7 Jr8 Kr9 Ls-2 L2t3 L3t4 L4t6 L6q10 Wr1 Xr2 Y",
    "r3 OMEGAr4 ABBr5 BBr7 DDq26 EYYYq32 JE"]),
  (0x10760, ["aLINEAR A SIGN A800r1r2r3r4r5r6r7"]),
  (0x10780, [
    "aMODIFIER LETTER SMALL CAPITAL AArUPERSCRIPT TRIANGULAR COLONâHALF TRIANGULAR COLONrMALL AE",
    "wCAPITAL BwB WITH HOOK"]),
  (0x10787, [
    "aMODIFIER LETTER SMALL DZ DIGRAPHæ WITH RETROFLEX HOOKìCURLxEZH DIGRAPHx WITH TAILãHOOK",
    "ç AND TAILwREVERSED EwCLOSED REVERSED OPEN EwFENG DIGRAPHwRAMS HORNwCAPITAL GwG WITH HOOK",
    "wCAPITAL G WITH HOOKwH WITH STROKEwCAPITAL HwHENG WITH HOOKwDOTLESS J WITH STROKE AND HOOK",
    "wLS DIGRAPHxZ DIGRAPHx WITH BELTwCAPITAL L WITH BELTwL WITH RETROFLEX HOOK AND BELTxEZH",
    "à WITH RETROFLEX HOOKwTURNED Yä WITH BELTwO WITH STROKEwCAPITAL OExLOSED OMEGAwQ",
    "wTURNED R WITH LONG LEGò AND RETROFLEX HOOKwR WITH TAILãFISHHOOKwCAPITAL R",
    "wTC DIGRAPH WITH CURLxS DIGRAPHæ WITH RETROFLEX HOOKxESH DIGRAPHx WITH RETROFLEX HOOK",
    "wV WITH RIGHT HOOK"]),
  (0x107B2, [
    "aMODIFIER LETTER SMALL CAPITAL YqGLOTTAL STOP WITH STROKEqREVERSED GLOTTAL STOP WITH STROKE",
    "qBILABIAL CLICKqDENTAL CLICKqLATERAL CLICKqALVEOLAR CLICK",
    "qRETROFLEX CLICK WITH RETROFLEX HOOKqSMALL S WITH CURL"]),
  (0x10800, ["aCYPRIOT SYLLABLE ArErIrOrUrJA"]), (0x10808, ["aCYPRIOT SYLLABLE JO"]),
  (0x1080A, [
    "aCYPRIOT SYLLABLE KAsEsIsOsUrLAsEsIsOsUrMAsEsIsOsUrNAsEsIsOsUrPAsEsIsOsUrRAsEsIsOsUrSAsEsIsO",
    "sUrTAsEsIsOsUrWAsEsIsO"]),
  (0x10837, ["aCYPRIOT SYLLABLE XAsE"]), (0x1083C, ["aCYPRIOT SYLLABLE ZA"]),
  (0x1083F, [
    "aCYPRIOT SYLLABLE ZOaIMPERIAL ARAMAIC LETTER ALEPHyBETHyGIMELyDALETHyHEyWAWyZAYINyHETHyTETH",
    "yYODHyKAPHyLAMEDHyMEMyNUNySAMEKHyAYINyPEySADHEyQOPHyRESHySHINyTAW"]),
  (0x10857, [
    "aIMPERIAL ARAMAIC SECTION SIGNrNUMBER ONEyTWOzHREEzENzWENTYyONE HUNDREDâTHOUSAND",
    "yTEN THOUSANDaPALMYRENE LETTER ALEPHrBETHrGIMELrDALETHrHErWAWrZAYINrHETHrTETHrYODHrKAPH",
    "rLAMEDHrMEMrFINAL NUNrNUNrSAMEKHrAYINrPErSADHErQOPHrRESHrSHINrTAWmFT-POINTING FLEURON",
    "kRIGHT-POINTING FLEURONkNUMBER ONErTWOsHREErFOURsIVErTENsWENTYaNABATAEAN LETTER FINAL ALEPH",
    "rALEPHrFINAL BETHrBETHrGIMELrDALETHrFINAL HErHErWAWrZAYINrHETHrTETHrFINAL YODHrYODH",
    "rFINAL KAPHrKAPHrFINAL LAMEDHrLAMEDHrFINAL MEMrMEMrFINAL NUNrNUNrSAMEKHrAYINrPErSADHErQOPH",
    "rRESHrFINAL SHINrSHINrTAW"]),
  (0x108A7, [
    "aNABATAEAN NUMBER ONErTWOsHREErFOURkCRUCIFORM NUMBER FOURkNUMBER FIVErTENsWENTYrONE HUNDRED"]),
  (0x108E0, [
    "aHATRAN LETTER ALEPHoBETHoGIMELoDALETH-RESHoHEoWAWoZAYNoHETHoTETHoYODHoKAPHoLAMEDHoMEMoNUN",
    "oSAMEKHoAYNoPEoSADHEoQOPH"]),
  (0x108F4, ["aHATRAN LETTER SHINoTAW"]),
  (0x108FB, [
    "aHATRAN NUMBER ONEoFIVEoTENpWENTYoONE HUNDREDaPHOENICIAN LETTER ALFsBETsGAMLsDELTsHEsWAUsZAI",
    "sHETsTETsYODsKAFsLAMDsMEMsNUNsSEMKsAINsPEsSADEsQOFsROSHsSHINsTAUlNUMBER ONEsTENtWENTY",
    "sONE HUNDREDsTWOtHREE"]),
  (0x1091F, [
    "aPHOENICIAN WORD SEPARATORaLYDIAN LETTER AoBoGoDoEoVoIoYoKoLoMoNoOoRoSSoToUoFoQoSoTToANoEN",
    "oLYoNNoC"]),
  (0x1093F, ["aLYDIAN TRIANGULAR MARK"]),
  (0x10980, [
    "aMEROITIC HIEROGLYPHIC LETTER AãEãIãOãYAãWAãBAå-2ãPAãMAãNAå-2äEå-2ãRAå-2ãLAãKHAãHHAãSAå-2äE",
    "ãKAãQAãTAå-2äEå-2äOãDAwSYMBOL VIDJç-2jCURSIVE LETTER AyEyIyOyYAyWAyBAyPAyMAyNAzEyRAyLAyKHA",
    "yHHAySAyARCHAIC SAySEyKAyQAyTAzEzOyDA"]),
  (0x109BC, [
    "aMEROITIC CURSIVE FRACTION ELEVEN TWELFTHSàONE HALFrLOGOGRAM RMTàIMNrNUMBER ONEyTWOzHREE",
    "yFOURzIVEySIXzEVENyEIGHTyNINEyTENzWENTYzHIRTYyFORTYzIFTYySIXTYzEVENTY"]),
  (0x109D2, [
    "aMEROITIC CURSIVE NUMBER ONE HUNDREDyTWO HUNDREDzHREE HUNDREDyFOUR HUNDREDzIVE HUNDRED",
    "ySIX HUNDREDzEVEN HUNDREDyEIGHT HUNDREDyNINE HUNDREDyONE THOUSANDyTWO THOUSANDzHREE THOUSAND",
    "yFOUR THOUSANDzIVE THOUSANDySIX THOUSANDzEVEN THOUSANDyEIGHT THOUSANDyNINE THOUSAND",
    "yTEN THOUSANDzWENTY THOUSANDzHIRTY THOUSANDyFORTY THOUSANDzIFTY THOUSANDySIXTY THOUSAND",
    "zEVENTY THOUSANDyEIGHTY THOUSANDyNINETY THOUSANDyONE HUNDRED THOUSANDyTWO HUNDRED THOUSAND",
    "zHREE HUNDRED THOUSANDyFOUR HUNDRED THOUSANDzIVE HUNDRED THOUSANDySIX HUNDRED THOUSAND",
    "zEVEN HUNDRED THOUSANDyEIGHT HUNDRED THOUSANDyNINE HUNDRED THOUSANDrFRACTION ONE TWELFTH",
    "àTWO TWELFTHSáHREE TWELFTHSàFOUR TWELFTHSáIVE TWELFTHSàSIX TWELFTHSáEVEN TWELFTHS",
    "àEIGHT TWELFTHSàNINE TWELFTHSàTEN TWELFTHSaKHAROSHTHI LETTER AlVOWEL SIGN IwUwVOCALIC R"]),
  (0x10A05, ["aKHAROSHTHI VOWEL SIGN EwO"]),
  (0x10A0C, [
    "aKHAROSHTHI VOWEL LENGTH MARKlSIGN DOUBLE RING BELOWqANUSVARAqVISARGAlLETTER KAtHAsGAtHA"]),
  (0x10A15, ["aKHAROSHTHI LETTER CAtHAsJA"]),
  (0x10A19, [
    "aKHAROSHTHI LETTER NYAsTTAuHAsDDAuHAsNNAsTAtHAsDAtHAsNAsPAtHAsBAtHAsMAsYAsRAsLAsVAsSHAtSAtA",
    "sZAsHAsKKAsTTTHAvAsVHA"]),
  (0x10A38, ["aKHAROSHTHI SIGN BAR ABOVEqCAUDAqDOT BELOW"]),
  (0x10A3F, [
    "aKHAROSHTHI VIRAMAlDIGIT ONErTWOsHREErFOURlNUMBER TENtWENTYsONE HUNDREDwTHOUSAND",
    "lFRACTION ONE HALF"]),
  (0x10A50, [
    "aKHAROSHTHI PUNCTUATION DOTxSMALL CIRCLExCIRCLEyRESCENT BARxMANGALAMxLOTUSxDANDAyOUBLE DANDA",
    "xLINES"]),
  (0x10A60, [
    "aOLD SOUTH ARABIAN LETTER HEzLAMEDHzHETHzMEMzQOPHzWAWzSHINzRESHzBETHzTAWzSATzKAPHzNUNzKHETH",
    "zSADHEáMEKHzFEzALEFàYNzDHADHEzGIMELzDALETHzGHAYNzTETHzZAYNzDHALETHzYODHzTHAWáETHsNUMBER ONE",
    "zFIFTYvERIC INDICATOReNORTH ARABIAN LETTER HEHzLAMzHAHzMEEMzQAFzWAWzES-2zREHzBEHzTEHzES-1",
    "zKAFzNOONzKHAHzSADzES-3zFEHzALEFàINzDADzGEEMzDALzGHAINzTAHzZAINzTHALzYEHzTHEHzZAHsNUMBER ONE",
    "zTENàWENTY"]),
  (0x10AC0, [
    "aMANICHAEAN LETTER ALEPHsBETHtHETHsGIMELtHIMELsDALETHsHEsWAWlSIGN UDlLETTER ZAYINtHAYIN",
    "sJAYINtHAYINsHETHsTETHsYODHsKAPHsXAPHsKHAPHsLAMEDHsDHAMEDHsTHAMEDHsMEMsNUNsSAMEKHsAYINtAYIN",
    "sPEsFEsSADHEsQOPHsXOPHsQHOPHsRESHsSHINtSHINsTAWlABBREVIATION MARK ABOVEãBELOW"]),
  (0x10AEB, [
    "aMANICHAEAN NUMBER ONEsFIVEsTENtWENTYsONE HUNDREDlPUNCTUATION STARxFLEURON",
    "xDOUBLE DOT WITHIN DOTzT WITHIN DOTàxTWO DOTSxLINE FILLER"]),
  (0x10B00, [
    "aAVESTAN LETTER AqAqOqAOqNqANqErEpEqEpOqOpIqIpUqUpKEpXEqYEqVEpGEqGEqHEpCEpJEpTEqHEpDEqHEpTTE",
    "pPEpFEpBEqHEpNGErYErVEqEqYEqNEpMEpHMEpYYEqEpVEpREpLEpSEpZEpSHEpZHEpSHYEqSHEpHE"]),
  (0x10B39, [
    "aAVESTAN ABBREVIATION MARKaTINY TWO DOTS OVER ONE DOT PUNCTUATION",
    "aSMALL TWO DOTS OVER ONE DOT PUNCTUATIONaLARGE TWO DOTS OVER ONE DOT PUNCTUATION",
    "gONE DOT OVER TWO DOTS PUNCTUATIONgTWO RINGS OVER ONE RING PUNCTUATION",
    "gONE RING OVER TWO RINGS PUNCTUATIONaINSCRIPTIONAL PARTHIAN LETTER ALEPHäBETHäGIMELäDALETH",
    "äHEäWAWäZAYINäHETHäTETHäYODHäKAPHäLAMEDHäMEMäNUNäSAMEKHäAYINäPEäSADHEäQOPHäRESHäSHINäTAW"]),
  (0x10B58, [
    "aINSCRIPTIONAL PARTHIAN NUMBER ONEäTWOåHREEäFOURäTENåWENTYäONE HUNDREDèTHOUSAND",
    "qHLAVI LETTER ALEPHãBETHãGIMELãDALETHãHEãWAW-AYIN-RESHãZAYINãHETHãTETHãYODHãKAPHãLAMEDH",
    "ãMEM-QOPHãNUNãSAMEKHãPEãSADHEäHINãTAW"]),
  (0x10B78, [
    "aINSCRIPTIONAL PAHLAVI NUMBER ONEãTWOäHREEãFOURãTENäWENTYãONE HUNDREDçTHOUSAND",
    "aPSALTER PAHLAVI LETTER ALEPHxBETHxGIMELxDALETHxHExWAW-AYIN-RESHxZAYINxHETHxYODHxKAPHxLAMEDH",
    "xMEM-QOPHxNUNxSAMEKHxPExSADHEyHINxTAW"]),
  (0x10B99, ["aPSALTER PAHLAVI SECTION MARKqTURNED SECTION MARKqFOUR DOTS WITH CROSSåDOT"]),
  (0x10BA9, ["aPSALTER PAHLAVI NUMBER ONExTWOyHREExFOURxTENyWENTYxONE HUNDRED"]),
  (0x10C00, [
    "aOLD TURKIC LETTER ORKHON AsYENISEI AáEsORKHON IsYENISEI IàEsORKHON OàEsYENISEI OEsORKHON AB",
    "sYENISEI ABsORKHON AEBsYENISEI AEBsORKHON AGsYENISEI AGsORKHON AEGsYENISEI AEGsORKHON AD",
    "sYENISEI ADsORKHON AEDzEZsYENISEI EZsORKHON AYsYENISEI AYsORKHON AEYsYENISEI AEYsORKHON AEK",
    "sYENISEI AEKsORKHON OEKsYENISEI OEKsORKHON ALsYENISEI ALsORKHON AELzELTàMzANàENsYENISEI AEN",
    "sORKHON ENTsYENISEI ENTsORKHON ENCsYENISEI ENCsORKHON ENYsYENISEI ENYàANGsORKHON ENG",
    "sYENISEI AENGsORKHON EPzOPzICzECsYENISEI ECsORKHON AQsYENISEI AQsORKHON IQsYENISEI IQ",
    "sORKHON OQsYENISEI OQsORKHON ARsYENISEI ARsORKHON AERàSàESàSHsYENISEI ASHsORKHON ESH",
    "sYENISEI ESHsORKHON ATsYENISEI ATsORKHON AETsYENISEI AETsORKHON OTzBASH"]),
  (0x10C80, [
    "aOLD HUNGARIAN CAPITAL LETTER AäAãEBãAMBãECäNCäCSäDãANDãEãCLOSE EãEEäFäGåYäHãIäIãEJäKãAKãUNK",
    "ãELåYäMäNåYãOäOãNIKOLSBURG OEãRUDIMENTA OEãOEEãEPäMPäRãSHORT ERãESåZäTäNTäTYäCHãUäU",
    "ãNIKOLSBURG UEãRUDIMENTA UEãEVäZåSäNT-SHAPED SIGNãUS"]),
  (0x10CC0, [
    "aOLD HUNGARIAN SMALL LETTER AâAáEBáAMBáECâNCâCSâDáANDáEáCLOSE EáEEâFâGãYâHáIâIáEJâKáAKáUNK",
    "áELãYâMâNãYáOâOáNIKOLSBURG OEáRUDIMENTA OEáOEEáEPâMPâRáSHORT ERáESãZâTâNTâTYâCHáUâU",
    "áNIKOLSBURG UEáRUDIMENTA UEáEVâZãSâNT-SHAPED SIGNáUS"]),
  (0x10CFA, [
    "aOLD HUNGARIAN NUMBER ONEvFIVEvTENvFIFTYvONE HUNDREDzTHOUSANDaHANIFI ROHINGYA LETTER AxBAxPA",
    "xTAyTAxJAxCAxHAxKHAxFAxDAyDAxRAyRAxZAxSAyHAxKAxGAxLAxMAxNAxWAxKINNA WAxYAxKINNA YAxNGAyYAxVA",
    "qVOWEL AwIwUwEwOqMARK SAKINvNA KHONNAqSIGN HARBAHAYvTAHALAxNAxSSI"]),
  (0x10D30, ["aHANIFI ROHINGYA DIGIT ZEROwONEwTWOxHREEwFOURxIVEwSIXxEVENwEIGHTwNINE"]),
  (0x10E60, [
    "aRUMI DIGIT ONElTWOmHREElFOURmIVElSIXmEVENlEIGHTlNINEfNUMBER TENnWENTYnHIRTYmFORTYnIFTY",
    "mSIXTYnEVENTYmEIGHTYmNINETYmONE HUNDREDmTWO HUNDREDnHREE HUNDREDmFOUR HUNDREDnIVE HUNDRED",
    "mSIX HUNDREDnEVEN HUNDREDmEIGHT HUNDREDmNINE HUNDREDfFRACTION ONE HALFsQUARTERsTHIRD",
    "oTWO THIRDS"]),
  (0x10E80, [
    "aYEZIDI LETTER ELIFoBEoPEpHEoTHEoSEoCIMpHIMqHIMoHHAoXAoDALoZALoRApHAoZAoJAoSINpHINpADoDADoTA",
    "oZEoEYNoXHEYNoFAoVAq ALTERNATE FORMoQAFoKAFpHAFoGAFoLAMoMIMoNUNoUMoWAWoOWoEWoHAYoYOToET"]),
  (0x10EAB, ["aYEZIDI COMBINING HAMZA MARKrMADDA MARKhHYPHENATION MARK"]),
  (0x10EB0, ["aYEZIDI LETTER LAM WITH DOT ABOVEoYOT WITH CIRCUMFLEX ABOVE"]),
  (0x10F00, [
    "aOLD SOGDIAN LETTER ALEPHtFINAL ALEPHtBETHtFINAL BETHtGIMELtHEtFINAL HEtWAWtZAYINtHETHtYODH",
    "tKAPHtLAMEDHtMEMtNUNtFINAL NUNâ WITH VERTICAL TAILtSAMEKHtAYINuLTERNATE AYINtPEtSADHE",
    "tFINAL SADHEä WITH VERTICAL TAILtRESH-AYIN-DALETHtSHINtTAWtFINAL TAWâ WITH VERTICAL TAIL",
    "mNUMBER ONEtTWOuHREEtFOURuIVEtTENuWENTYuHIRTYtONE HUNDREDmFRACTION ONE HALF",
    "mLIGATURE AYIN-DALETH"]),
  (0x10F30, [
    "aSOGDIAN LETTER ALEPHpBETHpGIMELpHEpWAWpZAYINpHETHpYODHpKAPHpLAMEDHpMEMpNUNpSAMEKHpAYINpPE",
    "pSADHEpRESH-AYINpSHINpTAWpFETHpLESHiINDEPENDENT SHINiCOMBINING DOT BELOWsTWO DOTS BELOW",
    "sDOT ABOVEsTWO DOTS ABOVEsCURVE ABOVEyBELOWsHOOK ABOVExBELOWsLONG HOOK BELOWsRESH BELOW",
    "sSTROKE BELOWiNUMBER ONEpTENqWENTYpONE HUNDREDiPUNCTUATION TWO VERTICAL BARSë WITH DOTS",
    "uCIRCLE WITH DOTuTWO CIRCLES WITH DOTSuHALF CIRCLE WITH DOT"]),
  (0x10F70, [
    "aOLD UYGHUR LETTER ALEPHsBETHsGIMEL-HETHsWAWsZAYINsFINAL HETHsYODHsKAPHsLAMEDHsMEMsNUN",
    "sSAMEKHsPEsSADHEsRESHsSHINsTAWsLESHlCOMBINING DOT ABOVEzBELOWvTWO DOTS ABOVEäBELOW",
    "lPUNCTUATION BARxTWO BARSáDOTSxFOUR DOTS"]),
  (0x10FB0, [
    "aCHORASMIAN LETTER ALEPHsSMALL ALEPHsBETHsGIMELsDALETHsHEsWAWsCURLED WAWsZAYINsHETHsYODH",
    "sKAPHsLAMEDHsMEMsNUNsSAMEKHsAYINsPEsRESHsSHINsTAWlNUMBER ONEsTWOtHREEsFOURsTENtWENTY",
    "sONE HUNDRED"]),
  (0x10FE0, [
    "aELYMAIC LETTER ALEPHpBETHpGIMELpDALETHpHEpWAWpZAYINpHETHpTETHpYODHpKAPHpLAMEDHpMEMpNUN",
    "pSAMEKHpAYINpPEpSADHEpQOPHpRESHpSHINpTAWjIGATURE ZAYIN-YODH"]),
  (0x11000, [
    "aBRAHMI SIGN CANDRABINDUmANUSVARAmVISARGAmJIHVAMULIYAmUPADHMANIYAhLETTER ApAoIpIoUpU",
    "oVOCALIC RxRwLxLoEoAIoOoAUoKApHAoGApHAoNGAoCApHAoJApHAoNYAoTTAqHAoDDAqHAoNNAoTApHAoDApHAoNA",
    "oPApHAoBApHAoMAoYAoRAoLAoVAoSHApSApAoHAoLLAoOLD TAMIL LLLAyRRAyNNNAhVOWEL SIGN AA",
    "sBHATTIPROLU AAsItIsUtUsVOCALIC RáRàLáLsEsAIsOsAUiIRAMAhDANDAiOUBLE DANDAhPUNCTUATION DOT",
    "vUBLE DOTtLINEtCRESCENT BARtLOTUS"]),
  (0x11052, [
    "aBRAHMI NUMBER ONEoTWOpHREEoFOURpIVEoSIXpEVENoEIGHToNINEoTENpWENTYpHIRTYoFORTYpIFTYoSIXTY",
    "pEVENTYoEIGHTYoNINETYoONE HUNDREDsTHOUSANDhDIGIT ZEROnONEnTWOoHREEnFOURoIVEnSIXoEVENnEIGHT",
    "nNINEhSIGN OLD TAMIL VIRAMAhLETTER OLD TAMIL SHORT EäOhVOWEL SIGN OLD TAMIL SHORT EèO",
    "hLETTER OLD TAMIL LLA"]),
  (0x1107F, [
    "aBRAHMI NUMBER JOINERaKAITHI SIGN CANDRABINDUmANUSVARAmVISARGAhLETTER ApAoIpIoUpUoEoAIoOoAU",
    "oKApHAoGApHAoNGAoCApHAoJApHAoNYAoTTAqHAoDDAqDHAqHAoRHAoNNAoTApHAoDApHAoNAoPApHAoBApHAoMAoYA",
    "oRAoLAoVAoSHApSApAoHAhVOWEL SIGN AAsItIsUtUsEsAIsOsAUhSIGN VIRAMAmNUKTAhABBREVIATION SIGN",
    "hENUMERATION SIGNhNUMBER SIGNhSECTION MARKhDOUBLE SECTION MARKiANDAiOUBLE DANDA",
    "hVOWEL SIGN VOCALIC R"]),
  (0x110CD, ["aKAITHI NUMBER SIGN ABOVE"]),
  (0x110D0, [
    "aSORA SOMPENG LETTER SAHuTAHuBAHuCAHuDAHuGAHuMAHuNGAHuLAHuNAHuVAHuPAHuYAHuRAHuHAHuKAHuJAH",
    "uNYAHuAHuEEHuIHuUHuOHuEHuMAE"]),
  (0x110F0, ["aSORA SOMPENG DIGIT ZEROtONEtTWOuHREEtFOURuIVEtSIXuEVENtEIGHTtNINE"]),
  (0x11100, [
    "aCHAKMA SIGN CANDRABINDUmANUSVARAmVISARGAhLETTER AAoIoUoEoKAApHAAoGAApHAAoNGAAoCAApHAAoJAA",
    "pHAAoNYAAoTTAAqHAAoDDAAqHAAoNNAAoTAApHAAoDAApHAAoNAAoPAApHAAoBAApHAAoMAAoYYAApAAoRAAoLAAoWAA",
    "oSAAoHAAhVOWEL SIGN AsItIsUtUsEsAIsOsAUsOIhO MARKhAU MARKhVIRAMAhMAAYYAA"]),
  (0x11136, [
    "aCHAKMA DIGIT ZEROnONEnTWOoHREEnFOURoIVEnSIXoEVENnEIGHTnNINEhSECTION MARKhDANDAiOUBLE DANDA",
    "hQUESTION MARKhLETTER LHAAhVOWEL SIGN AAsEIhLETTER VAA"]),
  (0x11150, [
    "aMAHAJANI LETTER AqIqUqEqOqKArHAqGArHAqCArHAqJArHAqNYAqTTAsHAqDDAsHAqNNAqTArHAqDArHAqNAqPA",
    "rHAqBArHAqMAqRAqLAqVAqSAqHAqRRAjSIGN NUKTAjABBREVIATION SIGNjSECTION MARKjLIGATURE SHRI"]),
  (0x11180, [
    "aSHARADA SIGN CANDRABINDUnANUSVARAnVISARGAiLETTER AqApIqIpUqUpVOCALIC RyRxLyLpEpAIpOpAUpKA",
    "qHApGAqHApNGApCAqHApJAqHApNYApTTArHApDDArHApNNApTAqHApDAqHApNApPAqHApBAqHApMApYApRApLAqLApVA",
    "pSHAqSAqApHAiVOWEL SIGN AAtIuItUuUtVOCALIC RâRáLâLtEtAItOtAUiSIGN VIRAMAnAVAGRAHA",
    "nJIHVAMULIYAnUPADHMANIYAiOMiDANDAjOUBLE DANDAiABBREVIATION SIGNiSEPARATORjANDHI MARK",
    "jIGN NUKTAiVOWEL MODIFIER MARKiEXTRA SHORT VOWEL MARKiSUTRA MARKiVOWEL SIGN PRISHTHAMATRA E",
    "iSIGN INVERTED CANDRABINDUiDIGIT ZEROoONEoTWOpHREEoFOURpIVEoSIXpEVENoEIGHToNINEiEKAM",
    "iSIGN SIDDHAMiHEADSTROKEiCONTINUATION SIGNiSECTION MARK-1v2"]),
  (0x111E1, [
    "aSINHALA ARCHAIC DIGIT ONEwTWOxHREEwFOURxIVEwSIXxEVENwEIGHTwNINEqNUMBER TENyWENTYyHIRTY",
    "xFORTYyIFTYxSIXTYyEVENTYxEIGHTYxNINETYxONE HUNDREDáTHOUSAND"]),
  (0x11200, ["aKHOJKI LETTER ApAoIoUoEoAIoOoAUoKApHAoGApGApHAoNGAoCApHAoJApJA"]),
  (0x11213, [
    "aKHOJKI LETTER NYAoTTAqHAoDDAqHAoNNAoTApHAoDApDDApHAoNAoPApHAoBApBApHAoMAoYAoRAoLAoVAoSAoHA",
    "oLLAhVOWEL SIGN AAsItIsUsEsAIsOsAUhSIGN ANUSVARAmVIRAMAmNUKTAmSHADDAhDANDAiOUBLE DANDA",
    "hWORD SEPARATORhSECTION MARKhDOUBLE SECTION MARKhABBREVIATION SIGNhSIGN SUKUN"]),
  (0x11280, ["aMULTANI LETTER ApIpUpEpKAqHApGA"]), (0x11288, ["aMULTANI LETTER GHA"]),
  (0x1128A, ["aMULTANI LETTER CAqHApJAqJA"]),
  (0x1128F, ["aMULTANI LETTER NYApTTArHApDDArDArHApNNApTAqHApDAqHApNApPAqHApBA"]),
  (0x1129F, ["aMULTANI LETTER BHApMApYApRApLApVApSApHApRRAqHAiSECTION MARK"]),
  (0x112B0, [
    "aKHUDAWADI LETTER AsArIsIrUsUrErAIrOrAUrKAsHArGAsGAsHArNGArCAsHArJAsJAsHArNYArTTAtHArDDAtDA",
    "rRRArDDHArNNArTAsHArDAsHArNArPAsHArBAsBAsHArMArYArRArLArVArSHAsArHAkSIGN ANUSVARA",
    "kVOWEL SIGN AAvIwIvUwUvEvAIvOvAUkSIGN NUKTApVIRAMA"]),
  (0x112F0, ["aKHUDAWADI DIGIT ZEROqONEqTWOrHREEqFOURrIVEqSIXrEVENqEIGHTqNINE"]),
  (0x11300, ["aGRANTHA SIGN COMBINING ANUSVARA ABOVEoANDRABINDUnANUSVARAnVISARGA"]),
  (0x11305, ["aGRANTHA LETTER AqApIqIpUqUpVOCALIC RxL"]), (0x1130F, ["aGRANTHA LETTER EEpAI"]),
  (0x11313, [
    "aGRANTHA LETTER OOpAUpKAqHApGAqHApNGApCAqHApJAqHApNYApTTArHApDDArHApNNApTAqHApDAqHApNA"]),
  (0x1132A, ["aGRANTHA LETTER PAqHApBAqHApMApYApRA"]), (0x11332, ["aGRANTHA LETTER LAqLA"]),
  (0x11335, ["aGRANTHA LETTER VApSHAqSAqApHA"]),
  (0x1133B, [
    "aCOMBINING BINDU BELOWaGRANTHA SIGN NUKTAnAVAGRAHAiVOWEL SIGN AAtIuItUuUtVOCALIC RâR"]),
  (0x11347, ["aGRANTHA VOWEL SIGN EEtAI"]), (0x1134B, ["aGRANTHA VOWEL SIGN OOtAUiSIGN VIRAMA"]),
  (0x11350, ["aGRANTHA OM"]), (0x11357, ["aGRANTHA AU LENGTH MARK"]),
  (0x1135D, [
    "aGRANTHA SIGN PLUTAiLETTER VEDIC ANUSVARAvDOUBLE ANUSVARAqOCALIC RRxLLiVOWEL SIGN VOCALIC L",
    "âL"]),
  (0x11366, ["aCOMBINING GRANTHA DIGIT ZEROyONEyTWOzHREEyFOURzIVEySIX"]),
  (0x11370, ["aCOMBINING GRANTHA LETTER AzKAzNAzVIzPA"]),
  (0x11400, [
    "aNEWA LETTER AnAmInImUnUmVOCALIC RvRuLvLmEmAImOmAUmKAnHAmGAnHAmNGAoHAmCAnHAmJAnHAmNYAoHAmTTA",
    "oHAmDDAoHAmNNAmTAnHAmDAnHAmNAnHAmPAnHAmBAnHAmMAnHAmYAmRAnHAmLAnHAmWAmSHAnSAnAmHA",
    "fVOWEL SIGN AAqIrIqUrUqVOCALIC RzRyLzLqEqAIqOqAUfSIGN VIRAMAkCANDRABINDUkANUSVARAkVISARGA",
    "kNUKTAkAVAGRAHAkFINAL ANUSVARAfOMfSIDDHIfDANDAgOUBLE DANDAfCOMMAfGAP FILLER",
    "fABBREVIATION SIGNfDIGIT ZEROlONElTWOmHREElFOURmIVElSIXmEVENlEIGHTlNINEgOUBLE COMMA",
    "fPLACEHOLDER MARK"]),
  (0x1145D, [
    "aNEWA INSERTION SIGNfSANDHI MARKfLETTER VEDIC ANUSVARAfSIGN JIHVAMULIYAkUPADHMANIYA"]),
  (0x11480, [
    "aTIRHUTA ANJIiLETTER AqApIqIpUqUpVOCALIC RyRxLyLpEpAIpOpAUpKAqHApGAqHApNGApCAqHApJAqHApNYA",
    "pTTArHApDDArHApNNApTAqHApDAqHApNApPAqHApBAqHApMApYApRApLApVApSHAqSAqApHAiVOWEL SIGN AAtIuItU",
    "uUtVOCALIC RâRáLâLtEtSHORT EtAItOtSHORT OtAUiSIGN CANDRABINDUnANUSVARAnVISARGApRAMAnNUKTA",
    "nAVAGRAHAiGVANGiABBREVIATION SIGNiOM"]),
  (0x114D0, ["aTIRHUTA DIGIT ZEROoONEoTWOpHREEoFOURpIVEoSIXpEVENoEIGHToNINE"]),
  (0x11580, [
    "aSIDDHAM LETTER AqApIqIpUqUpVOCALIC RyRxLyLpEpAIpOpAUpKAqHApGAqHApNGApCAqHApJAqHApNYApTTArHA",
    "pDDArHApNNApTAqHApDAqHApNApPAqHApBAqHApMApYApRApLApVApSHAqSAqApHAiVOWEL SIGN AAtIuItUuU",
    "tVOCALIC RâR"]),
  (0x115B8, [
    "aSIDDHAM VOWEL SIGN EtAItOtAUiSIGN CANDRABINDUnANUSVARAnVISARGApRAMAnNUKTAnSIDDHAMiDANDA",
    "jOUBLE DANDAiSEPARATOR DOTsBARiREPETITION MARK-1y2y3iEND OF TEXT MARK",
    "iSECTION MARK WITH TRIDENT AND U-SHAPED ORNAMENTSìDOTTED CRESCENTSàRAYS AND DOTTED CRESCENTS",
    "ðDOUBLE CRESCENTSðTRIPLE CRESCENTSvDOUBLE RINGæ WITH RAYSvWITH DOUBLE CRESCENTS",
    "àTRIPLE CRESCENTSàQUADRUPLE CRESCENTSàSEPTUPLE CRESCENTSàCIRCLES AND RAYSìTWO ENCLOSURES",
    "ìFOUR ENCLOSURESiLETTER THREE-CIRCLE ALTERNATE IqWO-CIRCLE ALTERNATE IëIpALTERNATE U",
    "iVOWEL SIGN ALTERNATE UäU"]),
  (0x11600, [
    "aMODI LETTER AnAmInImUnUmVOCALIC RvRuLvLmEmAImOmAUmKAnHAmGAnHAmNGAmCAnHAmJAnHAmNYAmTTAoHA",
    "mDDAoHAmNNAmTAnHAmDAnHAmNAmPAnHAmBAnHAmMAmYAmRAmLAmVAmSHAnSAnAmHAmLLAfVOWEL SIGN AAqIrIqUrU",
    "qVOCALIC RzRyLzLqEqAIqOqAUfSIGN ANUSVARAkVISARGAmRAMAkARDHACANDRAfDANDAgOUBLE DANDA",
    "fABBREVIATION SIGNfSIGN HUVA"]),
  (0x11650, ["aMODI DIGIT ZEROlONElTWOmHREElFOURmIVElSIXmEVENlEIGHTlNINE"]),
  (0x11660, [
    "aMONGOLIAN BIRGA WITH ORNAMENTkROTATED BIRGAkDOUBLE BIRGA WITH ORNAMENT",
    "kTRIPLE BIRGA WITH ORNAMENTkBIRGA WITH DOUBLE ORNAMENTkROTATED BIRGA WITH ORNAMENT",
    "ãDOUBLE ORNAMENTkINVERTED BIRGAy WITH DOUBLE ORNAMENTkSWIRL BIRGAv WITH ORNAMENT",
    "áDOUBLE ORNAMENTkTURNED SWIRL BIRGA WITH DOUBLE ORNAMENT"]),
  (0x11680, [
    "aTAKRI LETTER AoAnIoInUoUnEnAInOnAUnKAoHAnGAoHAnNGAnCAoHAnJAoHAnNYAnTTApHAnDDApHAnNNAnTAoHA",
    "nDAoHAnNAnPAoHAnBAoHAnMAnYAnRAnLAnVAnSHAoAnHAnRRAgSIGN ANUSVARAlVISARGAgVOWEL SIGN AArIsIrU",
    "sUrErAIrOrAUgSIGN VIRAMAlNUKTAgLETTER ARCHAIC KHAgABBREVIATION SIGN"]),
  (0x116C0, ["aTAKRI DIGIT ZEROmONEmTWOnHREEmFOURnIVEmSIXnEVENmEIGHTmNINE"]),
  (0x11700, [
    "aAHOM LETTER KAnHAmNGAnAmTAmALTERNATE TAmPAnHAmBAmMAmJAmCHAmTHAmRAmLAmSAmNYAmHAmAmDAnHAmGA",
    "mALTERNATE GAmGHAmBHAmJHAmALTERNATE BA"]),
  (0x1171D, [
    "aAHOM CONSONANT SIGN MEDIAL LAáRAáLIGATING RAfVOWEL SIGN ArAqIrIqUrUqEqAWqOqAIrMfSIGN KILLER"]),
  (0x11730, [
    "aAHOM DIGIT ZEROlONElTWOmHREElFOURmIVElSIXmEVENlEIGHTlNINEfNUMBER TENnWENTY",
    "fSIGN SMALL SECTIONlECTIONkRULAIgYMBOL VIfLETTER CAmTTAoHAmDDAoHAmNNAmLLA"]),
  (0x11800, [
    "aDOGRA LETTER AoAnIoInUoUnEnAInOnAUnKAoHAnGAoHAnNGAnCAoHAnJAoHAnNYAnTTApHAnDDApHAnNNAnTAoHA",
    "nDAoHAnNAnPAoHAnBAoHAnMAnYAnRAnLAnVAnSHAoSAoAnHAnRRAgVOWEL SIGN AArIsIrUsUrVOCALIC RàRrErAI",
    "rOrAUgSIGN ANUSVARAlVISARGAnRAMAlNUKTAgABBREVIATION SIGN"]),
  (0x118A0, [
    "aWARANG CITI CAPITAL LETTER NGAAáAáWIáYUâAâOáIIáUUáEáOáANGáGAáKOáENYáYUJáUCáENNáODDáTTEáNUNG",
    "áDAáATâMáBUáPUáHIYOâOLOãRRâARáSSUUâIIáVIYOmSMALL LETTER NGAAzAzWIzYUàAàOzIIzUUzEzOzANGzGAzKO",
    "zENYzYUJzUCzENNzODDzTTEzNUNGzDAzATàMzBUzPUzHIYOàOLOáRRàARzSSUUàIIzVIYOmDIGIT ZEROsONEsTWO",
    "tHREEsFOURtIVEsSIXtEVENsEIGHTsNINEmNUMBER TENuWENTYuHIRTYtFORTYuIFTYtSIXTYuEVENTYtEIGHTY",
    "tNINETY"]),
  (0x118FF, ["aWARANG CITI OMaDIVES AKURU LETTER AuAtIuItUuUtE"]),
  (0x11909, ["aDIVES AKURU LETTER O"]),
  (0x1190C, ["aDIVES AKURU LETTER KAuHAtGAuHAtNGAtCAuHAtJA"]),
  (0x11915, ["aDIVES AKURU LETTER NYAtTTA"]),
  (0x11918, [
    "aDIVES AKURU LETTER DDAvHAtNNAtTAuHAtDAuHAtNAtPAuHAtBAuHAtMAtYAuYAtRAtLAtVAtSHAuSAuAtHAtLLA",
    "tZAmVOWEL SIGN AAxIyIxUyUxE"]),
  (0x11937, ["aDIVES AKURU VOWEL SIGN AIxO"]),
  (0x1193B, [
    "aDIVES AKURU SIGN ANUSVARArCANDRABINDUrHALANTAmVIRAMAmPREFIXED NASAL SIGNmMEDIAL YA",
    "mINITIAL RAmMEDIAL RAmSIGN NUKTAmDOUBLE DANDAmGAP FILLERmEND OF TEXT MARK"]),
  (0x11950, ["aDIVES AKURU DIGIT ZEROsONEsTWOtHREEsFOURtIVEsSIXtEVENsEIGHTsNINE"]),
  (0x119A0, ["aNANDINAGARI LETTER AuAtIuItUuUtVOCALIC RâR"]),
  (0x119AA, [
    "aNANDINAGARI LETTER EtAItOtAUtKAuHAtGAuHAtNGAtCAuHAtJAuHAtNYAtTTAvHAtDDAvHAtNNAtTAuHAtDAuHA",
    "tNAtPAuHAtBAuHAtMAtYAtRAtLAtVAtSHAuSAuAtHAtLLAtRRAmVOWEL SIGN AAxIyIxUyUxVOCALIC RæR"]),
  (0x119DA, [
    "aNANDINAGARI VOWEL SIGN ExAIxOxAUmSIGN ANUSVARArVISARGAtRAMArAVAGRAHArSIDDHAMmHEADSTROKE",
    "mVOWEL SIGN PRISHTHAMATRA E"]),
  (0x11A00, [
    "aZANABAZAR SQUARE LETTER ArVOWEL SIGN IâUEãâEâOEãâAIãUâREVERSED IxLENGTH MARKrLETTER KAzHA",
    "yGAzHAyNGAyCAzHAyJAyNYAyTTAàHAyDDAàHAyNNAyTAzHAyDAzHAyNAyPAzHAyBAzHAyMAyTSAàHAyDZAàHAyZHAzA",
    "y-AyYAyRAyLAyVAySHAzSAzAyHAyKSSArFINAL CONSONANT MARKrSIGN VIRAMAwCANDRABINDUç WITH ORNAMENT",
    "â WITH ORNAMENTwANUSVARAwVISARGArCLUSTER-INITIAL LETTER RAzFINAL LETTER YAìRAìLAìVA",
    "rINITIAL HEAD MARKrCLOSING HEAD MARKrMARK TSHEGwSHADwDOUBLE SHADwLONG TSHEG",
    "rINITIAL DOUBLE-LINED HEAD MARKrCLOSING DOUBLE-LINED HEAD MARKrSUBJOINER"]),
  (0x11A50, [
    "aSOYOMBO LETTER AiVOWEL SIGN ItUEutEtOuEtAIuUtVOCALIC RáLoLENGTH MARKiLETTER KAqHApGAqHApNGA",
    "pCAqHApJAqHApNYApTTArHApDDArHApNNApTAqHApDAqHApNApPAqHApBAqHApMApTSArHApDZApZHAqAp-ApYApRA",
    "pLApVApSHAqSAqApHApKSSAiSIGN JIHVAMULIYAnUPADHMANIYAiCLUSTER-INITIAL LETTER RAåLAåSHAæA",
    "iFINAL CONSONANT SIGN GãKãNGãDãNãBãMãRãLãSHäã-AiSIGN ANUSVARAnVISARGAiGEMINATION MARK",
    "iSUBJOINERiMARK TSHEGnSHADnDOUBLE SHADnPLUTAiHEAD MARK WITH MOON AND SUN AND TRIPLE FLAME",
    "îFLAMEéiTERMINAL MARK-1w2"]),
  (0x11AB0, [
    "aCANADIAN SYLLABICS NATTILIK HIäIãOäOãAäAâSHRIæIåOæOåAæAtSPEvIvOvAaPAU CIN HAU LETTER PAtKA",
    "tLAtMAtDAtZAtVAtNGAtHAtGAtKHAtSAtBAtCAtTAuHAtNAtPHAtRAtFAtCHAtAtEtItOtUuAtIAtFINAL PzKzTzMzN",
    "zLzWzNGzYmRISING TONE LONGxmSANDHI GLOTTAL STOPmRISING TONE LONG FINALyFINAL",
    "mSANDHI GLOTTAL STOP FINALtTONE LONGxx LONG FINALyFINALmMID-LEVEL TONEmGLOTTAL STOP VARIANT",
    "mMID-LEVEL TONE LONG FINALáFINALmLOW-FALLING TONE LONGâmGLOTTAL STOP",
    "mLOW-FALLING TONE LONG FINALãFINALmGLOTTAL STOP FINAL"]),
  (0x11C00, ["aBHAIKSUKI LETTER AsArIsIrUsUrVOCALIC RàRzL"]),
  (0x11C0A, [
    "aBHAIKSUKI LETTER ErAIrOrAUrKAsHArGAsHArNGArCAsHArJAsHArNYArTTAtHArDDAtHArNNArTAsHArDAsHArNA",
    "rPAsHArBAsHArMArYArRArLArVArSHAsSAsArHAkVOWEL SIGN AAvIwIvUwUvVOCALIC RäRãL"]),
  (0x11C38, [
    "aBHAIKSUKI VOWEL SIGN EvAIvOvAUkSIGN CANDRABINDUpANUSVARApVISARGArRAMApAVAGRAHAkDANDA",
    "lOUBLE DANDAkWORD SEPARATORkGAP FILLER-1v2"]),
  (0x11C50, [
    "aBHAIKSUKI DIGIT ZEROqONEqTWOrHREEqFOURrIVEqSIXrEVENqEIGHTqNINEkNUMBER ONErTWOsHREErFOURsIVE",
    "rSIXsEVENrEIGHTrNINErTENsWENTYsHIRTYrFORTYsIFTYrSIXTYsEVENTYrEIGHTYrNINETY",
    "kHUNDREDS UNIT MARK"]),
  (0x11C70, [
    "aMARCHEN HEAD MARKiMARK SHADiLETTER KAqHApGApNGApCAqHApJApNYApTAqHApDApNApPAqHApBApMApTSArHA",
    "pDZApWApZHAqAp-ApYApRApLApSHAqApHApA"]),
  (0x11C92, [
    "aMARCHEN SUBJOINED LETTER KAàHAzGAzNGAzCAàHAzJAzNYAzTAàHAzDAzNAzPAàHAzBAzMAzTSAáHAzDZAzWA",
    "zZHAàA"]),
  (0x11CA9, [
    "aMARCHEN SUBJOINED LETTER YAzRAzLAzSHAàAzHAzAiVOWEL SIGN AAtItUtEtOiSIGN ANUSVARA",
    "nCANDRABINDU"]),
  (0x11D00, ["aMASARAM GONDI LETTER AwAvIwIvUwUvE"]), (0x11D08, ["aMASARAM GONDI LETTER AIvO"]),
  (0x11D0B, [
    "aMASARAM GONDI LETTER AUvKAwHAvGAwHAvNGAvCAwHAvJAwHAvNYAvTTAxHAvDDAxHAvNNAvTAwHAvDAwHAvNAvPA",
    "wHAvBAwHAvMAvYAvRAvLAvVAvSHAwSAwAvHAvLLAvKSSAvJNYAvTRAoVOWEL SIGN AAzIàIzUàUzVOCALIC R"]),
  (0x11D3A, ["aMASARAM GONDI VOWEL SIGN E"]), (0x11D3C, ["aMASARAM GONDI VOWEL SIGN AIzO"]),
  (0x11D3F, [
    "aMASARAM GONDI VOWEL SIGN AUoSIGN ANUSVARAtVISARGAtNUKTAtCANDRAtHALANTAoVIRAMAoREPHApA-KARA"]),
  (0x11D50, ["aMASARAM GONDI DIGIT ZEROuONEuTWOvHREEuFOURvIVEuSIXvEVENuEIGHTuNINE"]),
  (0x11D60, ["aGUNJALA GONDI LETTER AwAvIwIvUwU"]), (0x11D67, ["aGUNJALA GONDI LETTER EEvAI"]),
  (0x11D6A, [
    "aGUNJALA GONDI LETTER OOvAUvYAvVAvBAwHAvMAvKAwHAvTAwHAvLAvGAwHAvDAwHAvNAvCAwHAvTTAxHAvLLAvJA",
    "wHAvDDAxHAvNGAvPAwHAvHAvRAvSAoVOWEL SIGN AAzIàIzUàU"]),
  (0x11D90, ["aGUNJALA GONDI VOWEL SIGN EEzAI"]),
  (0x11D93, ["aGUNJALA GONDI VOWEL SIGN OOzAUoSIGN ANUSVARAtVISARGAoVIRAMAoOM"]),
  (0x11DA0, ["aGUNJALA GONDI DIGIT ZEROuONEuTWOvHREEuFOURvIVEuSIXvEVENuEIGHTuNINE"]),
  (0x11EE0, [
    "aMAKASAR LETTER KApGApNGApPApBApMApTApDApNApCApJApNYApYApRApLApVApSApAiANGKAiVOWEL SIGN ItU",
    "tEtOiPASSIMBANGiEND OF SECTION"]),
  (0x11FB0, ["aLISU LETTER YHA"]),
  (0x11FC0, [
    "aTAMIL FRACTION ONE THREE-HUNDRED-AND-TWENTIETHtONE-HUNDRED-AND-SIXTIETHtEIGHTIETH",
    "tSIXTY-FOURTHtFORTIETHtTHIRTY-SECONDpTHREE EIGHTIETHSvSIXTY-FOURTHSpONE TWENTIETH",
    "tSIXTEENTH-1ã2tTENTHtEIGHTHpTHREE TWENTIETHSvSIXTEENTHSpONE FIFTHtQUARTERtHALF-1y2",
    "pTHREE QUARTERSpDOWNSCALING FACTOR KIIZHgSIGN NELlCEVITUlAAZHAAKKUlUZHAKKUlMUUVUZHAKKU",
    "lKURUNIlPATHAKKUlMUKKURUNIlKAACUlPANAMmONlVARAAKANlPAARAMlKUZHIlVELIgWET CULTIVATION SIGN",
    "gDRY CULTIVATION SIGNgLAND SIGNgSALT PAN SIGNgTRADITIONAL CREDIT SIGNsNUMBER SIGN",
    "gCURRENT SIGNgAND ODD SIGNgSPENT SIGNgTOTAL SIGNgIN POSSESSION SIGNgSTARTING FROM SIGN",
    "hIGN MUTHALIYAlVAKAIYARAA"]),
  (0x11FFF, [
    "aTAMIL PUNCTUATION END OF TEXTaCUNEIFORM SIGN Aq TIMES AxBADxGAN2 TENUxHAxIGIxLAGAR GUNU",
    "xMUSHxSAGq2qBr TIMES ASH2yDUN3 GUNUyGALàN2 TENUyHAyIGI GUNUzMINyLAGABySHESHyU PLUS U PLUS U",
    "sGUNUr2s TIMES BALAGzGAN2 TENUzME PLUS ENzSHA3zTAK4qDqKr TIMES ERIN2ySHITA PLUS GISHqL",
    "r TIMES ALyDIM2yGISHyHAyKAD3zIySHEyUSHrANrEPHqMARt TIMES SHEqNr OVER ANsTHREE TIMES",
    "sPLUS NAGA OPPOSING AN PLUS NAGAâSQUAREDrSHEqPINqRADt TIMES KURrKABqSAL2rHs ZIDA TENU",
    "tKABA TENUtOVER ASH TUG2 OVER TUG2 TUG2 OVER TUG2 PAPâOVER ASH",
    "ê CROSSING ASH OVER ASH OVER ASHs2sGABpBArDrG3rHAR2rLs OVER BALsAGrRsA2qIr TIMES AyGAR",
    "yIGI GUNUqUr OVER BU ABàUNsCROSSING BUrLUGu OVER BULUGrRs2pDArGs KISIM5 TIMES A PLUS MASH",
    "çMARæBALAGçIæGAè PLUS MASHçIèR2çUDæHAæIRè PLUS LUæKAKæLAçUè PLUS MASH2èMæNEæPAP PLUS PAPæSI",
    "æTAK4æU2 PLUS GIR2çSHrMrRsA3t4qIrBrMs TIMES SHEs2rNs KASKAL U GUNU DISHrSHqUr OVER DUsGUNU",
    "sSHESHIGrBs TIMES ESH2s2rGsUDrHrNs3t GUNUy GUNUs4rR2pEq TIMES PAPrOVER E NUN OVER NUNq2",
    "r TIMES A PLUS HA PLUS DAyGARyMIySALzHEyUqDINqGIRqLqNr TIMES GAN2â TENUyMEsCROSSING EN",
    "sOPPOSING ENsSQUAREDqRENrIN2qSH2qZENt TIMES Aá PLUS LALê TIMES LALáNàBADàDUN3 GUNUé GUNUàHA",
    "â GUNUàIGI GUNUàKASKALæ SQUAREDáU3àLAâL TIMES LALáIáUàU2áDpGAr GUNUr2",
    "s TIMES A PLUS DA PLUS HAæHAæIGIàB2 TENU PLUS TABàNàSHâ2 PLUS GALzBADáR PLUS RAàURâ PLUS RA",
    "zDAàIáM TIMES SHEàUBzELá PLUS LAàNá TIMES GAN2 TENUzGAN2 TENUáRàIá4â PLUS AáR2 PLUS SU",
    "zHA PLUS LU PLUS ESH2áLâ PLUS LAàI PLUS LIàUB2zIGI GUNUàSH PLUS HU PLUS ASHzKAKáSKALàID",
    "â PLUS LALàU3 PLUS ANzLAzME PLUS ENàIzNUNâ OVER NUNzPAzSALáRàHEâ PLUS TURáIDàUMzTAK4zUàD",
    "á PLUS DUtOVER GA2rBAt CROSSING GABArDs OVER GAD GAR OVER GARrLs GAD OVER GAD GAR OVER GAR",
    "sAMrMrNs2t TENUuOVER GAN2uCROSSING GAN2rRs3rSHANqESHTINw TIMES KURqIr TIMES EyUsCROSSING GI",
    "r4s OVER GI4tCROSSING GI4rDIMrR2t GUNUs3t TIMES A PLUS IGIàGAN2 TENUàIGIàLU PLUS IGIàPArSAL",
    "sHt CROSSING GISHuTIMES BADàTAK4vENUqUr CROSSING GUr2s TIMES KAKâ TIMES IGI GUNUzNUN",
    "zSAL PLUS TUG2tGUNUrDs TIMES A PLUS KURzKURtOVER GUD LUGALrLrMs TIMES SHErRs7sUNtSHpHAr TENU",
    "sGUNUrLqIr TIMES ASHá2yBADyDISHyGADyKINyNUNySHEyUqUrB2t TIMES ANàHALàKASKALàLISHàUDrL2pIq A",
    "qBqDIMt OVER IDIM BURäSQUAREDqGrIs DIBtRItOVER IGI SHIR OVER SHIR UD OVER UDtGUNUqL",
    "r TIMES GAN2 TENUr2qMr TIMES TAK4sCROSSING IMsOPPOSING IMsSQUAREDrINqNqRqSHpKAr TIMES AzD",
    "à PLUS KU3zSH2yBADàLAGàRzIyERIN2zSH2yGAàLàN2 TENUàRá PLUS SHA3 PLUS AzIàR2àSH PLUS SAR",
    "ãCROSSING GISHzUàR7yIGIzMyKAKzIàDyLIzUyMEà PLUS DUæGIæTEzIà PLUS NUNUZyNEzUNyPIyRUySAàRzHAàE",
    "àIDàUzIGzUHURyTARyUz2zDzMUM TIMES PAzSHyZIr2s CROSSING KA2rBrD2s3s4s5t OVER KAD5rK",
    "s TIMES IGI GUNUrLs TIMES BADtCROSSING KALrM2s4rSKALv LAGAB TIMES U OVER LAGAB TIMES U",
    "wOVER KASKAL LAGAB TIMES U OVER LAGAB TIMES UqESH2qIr TIMES BADyUzDrDrNrSALsHsIM5",
    "v OVER KISIM5qUr OVER HI TIMES ASH2 KU OVER HI TIMES ASH2r3r4s VARIANT FORMr7rLs GUNUrNrR",
    "s OPPOSING KURrSHU2qWU318pLArGABu TIMES Aâ PLUS DA PLUS HAèGARèLALâLâNâSH ZIDA TENUáBADâI",
    "áDARáENáGAãRâUDä PLUS GUDáHAãLâI TIMES NUNáIGI GUNUâMã PLUS HAéLUáKIãNâU3ãLä PLUS HI PLUS A",
    "áLAGABâISHâUãLáMEã PLUS ENâUSHáNEáSHE PLUS SUMãITA PLUS GISH PLUS ERIN2ñTENUãU2å PLUS SHU2",
    "âUMáTAGãK4âE PLUS A PLUS SU PLUS NAáUâ PLUS AèU PLUS Uâ2 PLUS ASHâDâSHvSQUAREDtRu TIMES SHE",
    "ä PLUS SUMvGUNUz OVER LAGAR GUNU SHErHSHUrLs TIMES LALrMs TIMES KURâ PLUS RUqIrLrMMU2rSHqU",
    "r TIMES BADr2s TIMES ALzBADzESH2ã TENUzGAN2 TENUzHI TIMES BADzIMzKAD2â3ã PLUS ASHàI",
    "zLA PLUS ASHáGABzME PLUS ENzNEàUzSI PLUS ASHáK2 PLUS BUzTUG2uENUtCROSSING LU2tOPPOSING LU2",
    "tSQUAREDuHESHIGr3rGALu OVER LUGALwPPOSING LUGALvSHESHIGrHrLrMs OVER LUMá GAR OVER GARpMA",
    "r TIMES TAK4sGUNUr2rHrRrSHt2qErSqIrNqUr OVER MUrGs GUNUrNSUBrRGU2rSHt TIMES AàKURàZA",
    "uOVER MUSHã TIMES A PLUS NAuCROSSING MUSHt3u TIMES Aâ PLUS DIáDIvGUNUpNAr2rGAt INVERTED",
    "uTIMES SHU TENUuOPPOSING NAGAtRrM NUTILLUss2qEr TIMES AyUDsSHESHIGqIr TIMES Er2rM",
    "s TIMES GAN2 TENUáR PLUS GAN2 TENUrNDA2v TIMES ANãSHå PLUS ASHâGUDâME PLUS GAN2 TENUâNEãUN",
    "âSHEå PLUS A ANìSHî PLUS ASHâU2 PLUS ASHãSHrSAGqUr11rNs LAGAR TIMES GARåMASHåSAL",
    "è OVER NUN LAGAR TIMES SALåUSHtTENUtOVER NUNtCROSSING NUNå LAGAR OVER LAGARsUZ",
    "u AB2 TIMES ASHGABåBIåDUGåGUDåIGI GUNUåKAD3åLAåNEåSILA3åU2vKISIM5 TIMES BIê UpPArDrNrPqESH2",
    "qIr TIMES AzByBIzUyEyIzByUz2sCROSSING PIrRIGu TIMES KALáUDáZAvOPPOSING PIRIGpRArBqIqUpSA",
    "rG NUTILLUss TIMES AzDUáBzHAzKAKàURzLUMzMIzNUNzSALàHIDzTABzU2àBàMàRàSHtOVER SAGtGUNUrL",
    "s LAGAB TIMES ASH2rNGA2rRqHAs3t TIMES AàBADàGISHàNEàSHU2àTURàUá PLUS As6sB6sR2rEs HU",
    "tOVER SHE GAD OVER GAD GAR OVER GARâTAB OVER TAB GAR OVER GARsG9sNsSHu2uLAMrIDt TIMES AàIMsM",
    "t TIMES AàBALáULUGàDINàGARàIGIã GUNUàKUSHU2àLULàMUGàSALsNIGsRt TENUuOVER SHIR BUR OVER BUR",
    "sTArUs OVER INVERTED SHUs2sBURqIr GUNUrGs4t OVER SIG4 SHU2rK2rLA3qUr OVER SUrDs2rHURrMsASHrR",
    "s9pTAr ASTERISKsTIMES HIyMIsGUNUrBs OVER TAB NI OVER NI DISH OVER DISHtSQUAREDrGs TIMES BI",
    "zGUDzSHEáUzTUG2zUDrK4rRqEr GUNUqIr TENUrLrRs TIMES TAK4tOVER TIRá GAD OVER GAD GAR OVER GAR",
    "qUrG2rKrMrRs OVER TUR ZA OVER ZApUq GUDrU UrOVER U PA OVER PA GAR OVER GARySUR OVER SUR",
    "yU REVERSED OVER U REVERSEDq2qBqDr KUSHU2sTIMES BADyMIyU PLUS U PLUS Uí GUNUsGUNUsSHESHIG",
    "z TIMES BADrUGqMr TIMES LAGAByME PLUS DAySHA3yUrBINrUMt TIMES KASKALàPAqNr GUNUqR",
    "r CROSSING URsSHESHIGr2s TIMES A PLUS HAæNAàLzHAzNUNzU2á PLUS ASHçBIr4rIs3rUs TIMES AàSHGAB",
    "zBARzDUNzGAáLáN2 TENUáRàUzHAzIGIàMàSHzKIzLUMzMINzPAzSHEàIG4zTUzU PLUS GUDàDàRUDAsDAu TIMES U",
    "qSHs TIMES AzKUáRzTAK4sXs2sUMXqTUKIqZ3s TIMES KASKALrUpZAr TENUsSQUARED TIMES KURrGrMXqE2qI",
    "r OVER ZIr3rBs KABA TENUrGrZ2qUr5s TIMES ArBURrMpKAP ELAMITEpAB TIMES NUNr2 TIMES A",
    "qMAR TIMES KUGpDAG KISIM5 TIMES U2 PLUS MASHs3qISH PLUS SHUqUB TIMES SHEpEZEN TIMES GUDàSHE",
    "pGA2 TIMES AN PLUS KAK PLUS AàSH2qE22qIGpHUSHpKA TIMES ANSHEzSH3yGISHzUDyHI TIMES ASH2yLUM",
    "yPAySHULyTUyUR2pLAGAB TIMES GIqU2 SHESHIG TIMES BADtTIMES ESH2 PLUS LALzSHUpMESH",
    "qUSH3 TIMES ZApNA4qINs9sDA2 TIMES BALâGIqU11 ROTATED NINETY DEGREESpPESH2 ASTERISKqIR2",
    "pSAG TIMES IGI GUNUpTI2pUM TIMES MEq U"]),
  (0x12400, [
    "aCUNEIFORM NUMERIC SIGN TWO ASHyHREE ASHxFOUR ASHyIVE ASHxSIX ASHyEVEN ASHxEIGHT ASH",
    "xNINE ASHxTHREE DISHxFOUR DISHyIVE DISHxSIX DISHyEVEN DISHxEIGHT DISHxNINE DISHxFOUR UyIVE U",
    "xSIX UyEVEN UxEIGHT UxNINE UxONE GESH2xTWO GESH2yHREE GESH2xFOUR GESH2yIVE GESH2xSIX GESH2",
    "yEVEN GESH2xEIGHT GESH2xNINE GESH2xONE GESHUxTWO GESHUyHREE GESHUxFOUR GESHUyIVE GESHU",
    "xTWO SHAR2yHREE SHAR2è VARIANT FORMxFOUR SHAR2yIVE SHAR2xSIX SHAR2yEVEN SHAR2xEIGHT SHAR2",
    "xNINE SHAR2xONE SHARUxTWO SHARUyHREE SHARUè VARIANT FORMxFOUR SHARUyIVE SHARU",
    "xSHAR2 TIMES GAL PLUS DISHòMINxONE BURUxTWO BURUyHREE BURUç VARIANT FORMxFOUR BURUyIVE BURU",
    "xTHREE VARIANT FORM ESH16ó21xFOUR VARIANT FORM LIMMUô4ô AõBxSIX VARIANT FORM ASH9",
    "yEVEN VARIANT FORM IMIN3ô AõBxEIGHT VARIANT FORM USSUô3xNINE VARIANT FORM ILIMMUõ3õ4õ A",
    "xTWO ASH TENUyHREE ASH TENUxFOUR ASH TENUyIVE ASH TENUxSIX ASH TENUxONE BAN2xTWO BAN2",
    "yHREE BAN2xFOUR BAN2æ VARIANT FORMyIVE BAN2æ VARIANT FORMxNIGIDAMINãESHxONE ESHE3xTWO ESHE3",
    "xONE THIRD DISHxTWO THIRDS DISHxFIVE SIXTHS DISHxONE THIRD VARIANT FORM A",
    "xTWO THIRDS VARIANT FORM AxONE EIGHTH ASHáQUARTER ASHyLD ASSYRIAN ONE SIXTHîQUARTER",
    "yNE QUARTER GURáHALF GURxELAMITE ONE THIRDåTWO THIRDSåFORTYæIFTYxFOUR U VARIANT FORM",
    "yIVE U VARIANT FORMxSIX U VARIANT FORMyEVEN U VARIANT FORMxEIGHT U VARIANT FORM",
    "xNINE U VARIANT FORM"]),
  (0x12470, [
    "aCUNEIFORM PUNCTUATION SIGN OLD ASSYRIAN WORD DIVIDERáVERTICAL COLONáDIAGONAL COLONêTRICOLON",
    "êQUADCOLON"]),
  (0x12480, [
    "aCUNEIFORM SIGN AB TIMES NUN TENUySHU2qD TIMES ESH2pBAD TIMES DISH TENUrHAR2 TIMES AB2âNIâZA",
    "qU OVER BU TIMES NA2pDA TIMES TAK4rG TIMES KURqIM TIMES IGIzU U Us2 TIMES UDqUG TIMES ANSHE",
    "àSHâ AT LEFTzDINàUNzERIN2zGAàIáR2 GUNUáSHzHAàIzIGI GUNUzKASKALàURáSHU2å PLUS KASKALzLAK-020",
    "áMâ TIMES KURàUH PLUS GISHzMASHàESàIzNIzPIzSHEàI GUNUpE2 TIMES KURyPAPqRIN2 X",
    "qSH2 CROSSING ESH2qZEN SHESHIG TIMES ASHèHIèIGI GUNUèLAêLèMEêSèSUuTIMES SUpGA2 TIMES BAHAR2",
    "zDIM GUNUàUG TIMES IGI GUNUéKASKALzERENzGAáR PLUS DIèNEzHA PLUS AzKUSHU2 PLUS KASKALzLAM",
    "â TIMES KURàUHzMUSHzNEá PLUS E2çGIzSHIMzZIZ2rBA ROTATED NINETY DEGREESqESHTIN TIMES U",
    "qISH TIMES GISH CROSSING GISHqU2 TIMES IGI GUNUrD PLUS GISH TIMES TAK4pHA TENU GUNU",
    "qI TIMES ASH OVER HI TIMES ASHpKA TIMES BUyKAyU U UzRpLAGAB TIMES ZU OVER ZUrK-003u21v5u30",
    "u50v1u62u79 OVER LAK-079 GUNUu80v1 OVER LAK-081u92t130u42t210v9u20v5v8u38u65v6t343v7v8u83v4",
    "u90t441v9w TIMES GUãIGIãPAP PLUS LU3ìPAP PLUS LU3ãU2 PLUS BAu50v7u70u83u90v2v3v5t550t608u17",
    "w TIMES ASHãBADãDUN3 GUNU GUNUãKU3ãLAãTARäEãU2äDäRUDAu36u48w TIMES DUBãGAãIGIæ GUNUãNI",
    "ãPAP PLUS PAP PLUS LU3ãSHESH PLUS KIãUDäRUDAt724u49qU2 GUNU TIMES ASHtTIMES DISHzHALzPAP",
    "â PLUS PAP PLUS LU3zTAK4pMI PLUS ZA7qUSH OVER MUSH TIMES GAêKAKpNINDA2 TIMES DIM GUNUâGISH",
    "ãULâHIâKESH2âLAK-050âMASHâPAP PLUS PAPâUã PLUS UãRUDApSAG GUNU TIMES HAtTIMES ENzSHE AT LEFT",
    "zTAK4qHA6 TENUrE OVER SHEtPLUS HUB2yNAM2ySARrU2 PLUS DUG TIMES NIzE2 TIMES ANqI TIMES TAK4",
    "pTAK4 PLUS SAGqUM TIMES GAN2 TENUzTHREE DISHpUR2 INVERTEDtTIMES UDrU TIMES DARA3zLAK-668àU3",
    "pZA7qU OVER ZU PLUS SARr5 TIMES THREE DISH TENU"]),
  (0x12F90, [
    "aCYPRO-MINOAN SIGN CM001w2w4w5w6w7w8w9v10w1w2xBw3w5w7w9v21w3w4w5w6w7w8w9v30w3w4w5w6w7w8w9v40",
    "w1w4w6w7w9v50w1w2w3w4w5w6w8w9v60w1w2w3w4w6w7w8w9v70w1w2w3w4w5xBw6w8w9v80w1w2w3w4w5w6w7w8w9",
    "v90w1w2w4w5w6w7w8w9u100w1w2w3w4w5w7w8w9v10w2w4u301w2"]),
  (0x13000, [
    "aEGYPTIAN HIEROGLYPH A001x2x3x4x5yAx6yAyBx7x8x9w10x1x2x3x4yAx5x6x7yAx8x9w20x1x2x3x4x5x6x7x8",
    "x9w30x1x2yAx3x4x5x6x7x8x9w40yAx1x2yAx3yAx4x5yAx6x7x8x9w50x1x2x3x4x5x6x7x8x9w60x1x2x3x4x5x6x7",
    "x8x9w70uB001x2x3x4x5yAx6x7x8x9uC001x2yAyByCx3x4x5x6x7x8x9w10yAx1x2x3x4x5x6x7x8x9w20x1x2x3x4",
    "uD001x2x3x4x5x6x7x8yAx9w10x1x2x3x4x5x6x7x8x9w20x1x2x3x4x5x6x7yAx8x9w30x1yAx2x3x4yAx5x6x7x8x9",
    "w40x1x2x3x4x5x6yAx7x8yAx9w50yAyByCyDyEyFyGyHyIx1x2yAx3x4yAx5x6x7x8x9w60x1x2x3x4x5x6x7yAyByC",
    "yDyEyFyGyHuE001x2x3x4x5x6x7x8yAx9yAw10x1x2x3x4x5x6yAx7yAx8x9w20yAx1x2x3x4x5x6x7x8yAx9w30x1x2",
    "x3x4yAx6x7x8uF001yAx2x3x4x5x6x7x8x9w10x1x2x3yAx4x5x6x7x8x9w20x1yAx2x3x4x5x6x7x8x9w30x1yAx2x3",
    "x4x5x6x7yAx8yAx9w40x1x2x3x4x5yAx6yAx7yAx8x9w50x1yAyByCx2x3uG001x2x3x4x5x6yAx7yAyBx8x9w10x1yA",
    "x2x3x4x5x6x7x8x9w20yAx1x2x3x4x5x6yAx7x8x9w30x1x2x3x4x5x6yAx7yAx8x9w40x1x2x3yAx4x5yAx6x7x8x9",
    "w50x1x2x3x4uH001x2x3x4x5x6yAx7x8uI001x2x3x4x5yAx6x7x8x9yAw10yAx1yAx2x3x4x5uK001x2x3x4x5x6x7",
    "x8uL001x2yAx3x4x5x6yAx7x8uM001yAyBx2x3yAx4x5x6x7x8x9w10yAx1x2yAyByCyDyEyFyGyHx3x4x5yAx6yAx7",
    "yAx8x9w20x1x2yAx3x4yAx5x6x7x8yAx9w30x1yAx2x3yAyBx4x5x6x7x8x9w40yAx1x2x3x4uN001x2x3x4x5x6x7x8",
    "x9w10x1x2x3x4x5x6x7x8yAyBx9w20x1x2x3x4x5yAx6x7x8x9w30x1x2x3yAx4yAx5yAx6x7yAx8x9w40x1x2vL001",
    "y2y3y4y5zAy6y7y8y9x10y1y2y3y4y5y6y7zAy8y9x20vU001y2y3y4y5y6y7y8y9x10zAy1zAy2y3y4y5y6y7y8zAy9",
    "x20y1y2zAuO001yAx2x3x4x5yAx6yAyByCyDyEyFx7x8x9w10yAyByCx1x2x3x4x5x6x7x8x9yAw20yAx1x2x3x4yAx5",
    "yAx6x7x8x9yAw30yAx1x2x3yAx4x5x6yAyByCyDx7x8x9w40x1x2x3x4x5x6x7x8x9w50yAyBx1uP001yAx2x3yAx4x5",
    "x6x7x8x9w10x1uQ001x2x3x4x5x6x7uR001x2yAx3yAyBx4x5x6x7x8x9w10yAx1x2x3x4x5x6yAx7x8x9w20x1x2x3",
    "x4x5x6x7x8x9uS001x2yAx3x4x5x6yAx7x8x9w10x1x2x3x4yAyBx5x6x7yAx8x9w20x1x2x3x4x5x6yAyBx7x8x9w30",
    "x1x2x3x4x5yAx6x7x8x9w40x1x2x3x4x5x6uT001x2x3yAx4x5x6x7yAx8yAx9yAw10x1yAx2x3x4x5x6yAx7x8x9w20",
    "x1x2x3x4x5x6x7x8x9w30x1x2yAx3yAx4x5x6uU001x2x3x4x5x6yAyBx7x8x9w10x1x2x3x4x5x6x7x8x9w20x1x2x3",
    "yAx4x5x6x7x8x9yAw30x1x2yAx3x4x5x6x7x8x9w40x1x2uV001yAyByCyDyEyFyGyHyIx2yAx3x4x5x6x7yAyBx8x9",
    "w10x1yAyByCx2yAyBx3x4x5x6x7x8x9w20yAyByCyDyEyFyGyHyIyJyKyLx1x2x3yAx4x5x6x7x8yAx9yAw30yAx1yA",
    "x2x3yAx4x5x6x7yAx8x9w40yAuW001x2x3yAx4x5x6x7x8x9yAw10yAx1x2x3x4yAx5x6x7yAx8yAx9w20x1x2x3x4yA",
    "x5uX001x2x3x4yAyBx5x6yAx7x8yAuY001yAx2x3x4x5x6x7x8uZ001x2yAyByCyDx3yAyBx4yAx5yAx6x7x8x9w10x1",
    "x2x3x4x5yAyByCyDyEyFyGyHyIx6yAyByCyDyEyFyGyHuAA001y2y3y4y5y6y7zAzBy8y9x10y1y2y3y4y5y6y7y8y9",
    "x20y1y2y3y4y5y6y7y8y9x30y1y2"]),
  (0x13430, [
    "aEGYPTIAN HIEROGLYPH VERTICAL JOINERuHORIZONTAL JOINERuINSERT AT TOP STARTäBOTTOM START",
    "äTOP ENDäBOTTOM ENDuOVERLAY MIDDLEuBEGIN SEGMENTuEND SEGMENT"]),
  (0x14400, [
    "aANATOLIAN HIEROGLYPH A001y2y3y4y5y6y7y8y9x10zAy1y2y3y4y5y6y7y8y9x20y1y2y3y4y5y6zAy7y8y9x30",
    "y1y2y3y4y5y6y7y8y9zAx40y1zAy2y3y4y5zAy6zAzBy7y8y9x50y1y2y3y4y5y6y7y8y9x60y1y2y3y4y5y6zAzBzC",
    "y7y8y9x70y1y2y3y4y5y6y7y8y9x80y1y2y3y4y5y6y7y8y9x90y1y2y3y4y5y6y7zAy8zAy9w100zAy1zAy2zAy3y4",
    "zAzBzCy5zAzBy6y7zAzBzCy8y9x10zAzBy1y2y3y4y5zAy6y7y8y9x20y1y2y3y4y5zAy6y7y8y9x30y1y2y3y4y5zA",
    "y6y7y8y9x40y1y2y3y4y5y6y7y8y9x50y1y2y3y4y5y6y7y8y9x60y1y2y3y4y5y6y7y8y9x70y1y2y3y4y5y6y7y8y9",
    "x80y1y2y3y4y5y6y7y8y9x90y1y2y3y4y5y6y7y8y9w200y1y2zAzBy3y4y5y6y7zAy8y9zAx10y1y2y3y4y5zAy6zA",
    "y7y8y9x20y1y2y3y4y5y6y7zAy8y9x30y1y2y3y4y5y6y7y8y9x40y1y2y3y4y5y6y7y8y9x50y1y2y3y4y5y6y7y8y9",
    "x60y1y2y3y4y5y6y7zAy8y9x70y1y2y3y4y5y6y7y8y9x80y1y2y3y4y5y6y7y8y9zAx90y1y2y3y4zAy5y6y7y8y9zA",
    "w300y1y2y3y4y5y6y7y8y9zAx10y1y2y3y4y5y6y7y8y9x20y1y2y3y4y5y6y7y8y9zAx30y1y2AzBzCy3y4y5y6zAzB",
    "zCy7y8y9x40y1y2y3y4y5y6y7y8y9x50y1y2y3y4y5y6y7y8y9zAx60y1y2y3y4zAy5y6y7y8zAy9x70y1zAy2y3y4y5",
    "y6y7y8y9x80y1zAy2y3 RA OR RIzAy4y5y6zAy7y8y9x90y1y2y3 EIGHTy4y5y6y7y8y9w400y1y2y3y4y5y6y7y8",
    "y9x10 BEGIN LOGOGRAM MARKzA END LOGOGRAM MARKy1y2y3y4y5y6y7y8y9x20y1y2y3y4y5y6y7y8y9x30y1y2",
    "y3y4y5y6y7y8y9x40y1y2y3y4y5y6y7y8y9x50zAy1y2y3y4y5y6y7zAy8y9x60y1y2y3y4y5y6y7y8y9x70y1y2y3y4",
    "y5y6y7y8y9x80y1y2y3y4y5y6y7y8y9x90y1y2y3y4y5y6y7w501y2y3y4y5y6y7y8y9x10y1y2y3y4y5y6y7y8y9x20",
    "y1y2y3y4y5y6y7y8y9x30"]),
  (0x16800, [
    "aBAMUM LETTER PHASE-A NGKUE MFONvGBIEE FONvPON MFON PIPAEMGBIEEêBAvNAA MFONvSHUENSHUET",
    "vTITA MFONvNZA MFONvSHINDA PA NJIvPON PA NJI PIPAEMGBIEEìBAvMAEMBGBIEEvTU MAEMBAvNGANGU",
    "vMAEMVEUXxNSUAEwVEUAENGAMvSEUNYAMvNTOQPENvKEUKEUTNDAvNKINDIvSUUvNGKUENZEUMvLAPAQwET KUT",
    "vNTAP MFAAvMAEKEUPvPASHAEvGHEUAERAEvPAMSHAEvMON NGGEUAETvNZUN MEUTvU YUQ NAEvGHEUAEGHEUAE",
    "vNTAP NTAAvSISAvMGBASAwEUNJOMNDEUQwOOMPUQvKAFAvPA LEERAEWAvNDA LEERAEWAvPETvMAEMKPENvNIKA",
    "vPUPvTUAEPvLUAEPvSONJAMvTEUTEUWENvMAENYIvKETvNDAANGGEUAETvKUOQvMOOMEUTvSHUMvLOMMAEvFIRIvROM",
    "vKPOQvSOQvMAP PIEETvSHIRAEvNTAPvSHOQ NSHUT YUMvNYIT MONGKEUAEQvPAARAEvNKAARAEvUNKNOWNvNGGEN",
    "vMAESIvNJAMvMBANYIvNYETvTEUAENvSOTvPAAMvNSHIEEvMAEMvNYIvKAQvNSHAvVEEvLUvNENwAQvMBAQtB NSHUET",
    "vTU MAEMGBIEEvSIEEwET TUvLOM NTEUMvMBA MAELEEvKIEEMvYEURAEvMBAARAEvKAMvPEESHIvYAFU LEERAEWA",
    "vLAM NSHUT NYAMvNTIEE SHEUOQwDU NJAAvGHEUGHEUAEMvPITvTU NSIEEvSHET NJAQyUAEQTUvMFON TEUAEQ",
    "wBIT MBAAKETvNYI NTEUMvKEUPUQvGHEUGHENvKEUYEUXvLAANAEvPARUMvVEUMvNGKINDI MVOPxGEU MBUvWUAET",
    "vSAKEUAEvTAAMvMEUQvNGGUOQá LARGEvMFIYAQvSUEvMBEURIwONTIEENvNYAEMAEvPUNGAAMvMEUT NGGEETvFEUX",
    "vMBUOQvFEEvKEUAEMvMA NJEUAENAàUQAvLETvNGGAAMwSENvMAvKIQvNGOMtC NGKUE MAEMBAwZAvYUMvWANGKUOQ",
    "vNGGENwDEUAEREEwGKAQvGHARAEvMBEEKEETvGBAYIvNYIR MKPARAQ MEUNwTU MBITvMBEUMvPIRIEENvNDOMBU",
    "vMBAA CABBAGE-TREEvKEUSHEUAEPvGHAPvKEUKAQvYU MUOMAEvNZEUMvMBUEvNSEUAENvMBITvYEUQvKPARAQwAA",
    "vSEUXvNDIDAvTAASHAEvNJUEQvTITA YUEvSUAETvNGGUAEN NYAMvVEUXvNANSANAQvMA KEUAERIvNTAAwGGUON",
    "vLAPvMBIRIEENwGBASAQvNTEUNGBAvTEUTEUXvNGGUMvFUEvNDEUTwSAxHAQvBUNGvVEUAEPENvMBERAEvRUvNJAEM",
    "vLAMvTITUAEPvNSUOT NGOMwJEEEEvKETvNGGUvMAESIwBUAEMvLUvKUTvNJAMwGOMvWUPvNGGUEETwSOMwTEN",
    "vKUOP NKAARAEvNSUNwDAMvMA NSIEEvYAAvNDAPvSHUEQwETFONvMBIwAEMBAwBANYIvKEUSEUXvMBEUXvKEUM",
    "vMBAA PICKETvYUWOQvNJEUXvMIEEwUAEvSHIQvKEN LAWzFATIGUEvNGAQwAQvLIQvPINwENvTETtD MBUOvWAPvNJI",
    "vMFONvNJIEEvLIEEvNJEUTwSHEEwGGAAMAEwYAMvWUAENvNGKUNvSHEEvNGKAPvKEUAETMEUNvTEUTvSHEUAEvNJAP",
    "vSUEvKETvYAEMMAEvKUOMvSAPvMFEUTvNDEUXvMALEERIwEUTvSEUAEQvYENvNJEUAEMvKEUOT MBUAEvNGKEURIvTU",
    "vGHAAvNGKYEEvFEUFEUAETvNDEEvMGBOFUMvLEUAEPvNDONvMONIwGBEUNvPUUTvMGBIEEwFOvLUMvNSIEEPvMBAA",
    "vKWAETvNYETvTEUAENvSOTvYUWOQvKEUMvRAEMvTEEEEvNGKEUAEQvMFEUAEvNSIEETvKEUPvPIPwEUTAEvNYUEvLET",
    "vNGGAAMvMFIEEvNGGWAENvYUOMvPAPvYUOPvNDAMwTEUMvSUAEvKUNvNGGEUXxKIEEvTUOTvMEUNvKUQvNSUMvTEUN",
    "vMAENJETvNGGAPvLEUMvNGGUOMwSHUTwJUEQvGHEUAEvKUvREN OLDvTAEwOQvNYIvRIIvLEEEEvMEEEEwvSUUvMU",
    "vSHIIxEUXvKYEEvNUvSHUvNTEEvPEEvNIvSHOQvPUQvMVOPvLOQvREN MUCHvTIvNTUUvMBAA SEVENvSAQvFAA",
    "tE NDAPvTOONvMBEUMvLAPvVOMvLOONvPAAvSOMvRAQvNSHUOPwDUNvPUAEvTAMvNGKAvKPEUXvWUOvSEEvNGGEUAET",
    "vPAAMvTOOvKUOPvLOMvNSHIEEwGOPvMAEMvNGKEUXxOQwSHUEvRIMGBAvNJEUXvPEEMvSAAvNGGURAEvMGBAvGHEUX",
    "vNGKEUAEMwJAEMLIvMAPvLOOTvNGGEEEEwDIQvTAEN NTEUMvSETvPUMvNDAA SOFTNESSwGGUAESHAE NYAMvYIEE",
    "vGHEUNvTUAEvYEUAEvPOvTUMAEvKEUAEvSUAENvTEUAEQvVEUAEvWEUXvLAAMvPUvTAAQvGHAAMAEvNGEUREUT",
    "vSHEUAEQvMGBENwBEEvNZAQwKOMvGBETvTUMvKUETvYAPvNYI CLEAVERvYITvMFEUQvNDIAQvPIEEQvYUEQvLEUAEM",
    "vFUEvGBEUXvNGKUPvKETvMAEvNGKAAMIvGHETvFAvNTUMvPEUTvYEUMvNGGEUAEwYI BETWEENwZUQvPOONvMIEE",
    "vFUETvNAEvMUAEvGHEUAEvFU IvMVIvPUAQvNGKUMvKUTvPIETvNTAPvYEUAETvNGGUPvPA PEOPLEvFU CALLwOM",
    "vNJEEvAvTOQvOvIvLAQvPA PLURALvTAAxQvNDAA MY HOUSEvSHIQvYEUXvNGUAEvYUAENwOQ SWIMMINGzCOVERwUQ",
    "xNvKEUXvPEUXvNJEE EPOCHvPUEvWUEvFEEvVEEvLUvMIvREUXwAEvNGUAETxAvSHOyQvFU REMEDYvNAvPIvLOQvKO",
    "vMENwAxQvTEUvKIvMONvTENvFAQvGHOMtF KAvUvKUvEEvREEvTAEvNYIvLAvRIIxEEvMEEEEvTAAvNDAAwJAEMvM",
    "vSUUwHIIwIwEUXvKYEEwETvNUAExwJUAEvYOQvSHUvYAvNSHAvPEUXvNTEEvWUEvPEEvRUvNIvREUXvKENvNGKWAEN",
    "xGAvSHOvPUAEvFOMvWAvLIwOQvKOvMBENvRENvMAwOwBAAvTETvKPAvSAMBAvVUEQ"]),
  (0x16A40, [
    "aMRO LETTER TAlNGIlYOlMIMlBAlDAlAlPHIlKHAIlHAOlDAIlCHUlKEAAElOLlMAEMlNINlPAlOOmlROlSHIlTHEA",
    "lEAlWAlElKOlLANnlHAIlRIlTEK"]),
  (0x16A60, ["aMRO DIGIT ZEROkONEkTWOlHREEkFOURlIVEkSIXlEVENkEIGHTkNINE"]),
  (0x16A6E, [
    "aMRO DANDAfOUBLE DANDAaTANGSA LETTER OZpCpQpXoAZpCpQpXoVZpCpQpXoEZpCpQpXoIZpCpQpXoUZpCpQpX",
    "oAWZqCqQqXoUIZqCqQqXoFINAL NGoLONG UEXoSHORT UEZuAWXoUECqZqQqXpIUZrCrQrXoMZpCpQpXoKApHAoGA",
    "oNGAoSAoYAoWAoPAoNYAoPHAoBAoMAoNAoHAoLAoHTAoTAoDAoRAoNHAoSHAoCAoTSAoGHAoHTTAoTHAoXAoFAoDHA",
    "oCHAoZA"]),
  (0x16AC0, ["aTANGSA DIGIT ZEROnONEnTWOoHREEnFOURoIVEnSIXoEVENnEIGHTnNINE"]),
  (0x16AD0, [
    "aBASSA VAH LETTER ENNIrKArSErFArMBErYIErGAHrDHIIrKPAHrJOrHWAHrWArZOrGBUrDOrCErUWUrTOrBArVU",
    "rYEINrPArWADDArArOsOrUrEEsrI"]),
  (0x16AF0, [
    "aBASSA VAH COMBINING HIGH TONEuLOW TONEuMID TONEuLOW-MID TONEuHIGH-LOW TONEkFULL STOP"]),
  (0x16B00, [
    "aPAHAWH HMONG VOWEL KEEBwVuIBvVuAUBwVuUBvVuEBvVuAIBwVuOOBwVuAWBwVuUABwVuOBvVuIABwVuABvVuWBvV",
    "uAABwVnCONSONANT VAUxNTSAUxLAUxHAUxNLAUxRAUxNKAUxQHAUxYAUxHLAUxMAUxCHAUxNCHAUxHNAUxPLHAU",
    "xNTHAUyAUxAUxXAUxCAUnMARK CIM TUBwSOwKESxHAVwSUAMwHOMwTAUMnSIGN VOS THOMxSHAB CEEBsCIM CHEEM",
    "sVOS THIABwFEEMsXYEEM NTXIVyRHOyTOVyFAIBsVOS SEEVsMEEJ SUABsVOS NRUAsIB YAMsXAUS",
    "sCIM TSOV ROG"]),
  (0x16B50, ["aPAHAWH HMONG DIGIT ZEROtONEtTWOuHREEtFOURuIVEtSIXuEVENtEIGHTtNINE"]),
  (0x16B5B, [
    "aPAHAWH HMONG NUMBER TENSuHUNDREDSuTEN THOUSANDSuMILLIONSuHUNDRED MILLIONSuTEN BILLIONS",
    "vRILLIONS"]),
  (0x16B63, [
    "aPAHAWH HMONG SIGN VOS LUBsXYOOsHLIsTHIRD-STAGE HLIsZWJ THAJsHNUBsNQIGsXIABsNTUJsAV",
    "sTXHEEJ CEEVsMEEJ TSEEBsTAUsLOSsMUSsCIM HAIS LUS NTOG NTOGwCUAM TSHOOJwTXWVà CHWVwPUB DAWB",
    "wNRES TOS"]),
  (0x16B7D, [
    "aPAHAWH HMONG CLAN SIGN TSHEEJxYEEGxLISyAUJxXYOOJxKOOxHAWJxMUASxTHOJySABxPHABxKHABxHAMxVAJ",
    "xFAJxYAJxTSWBxKWMxVWJ"]),
  (0x16E40, [
    "aMEDEFAIDRIN CAPITAL LETTER MáSáVáWáATIUáZáKPáPáTáGáFáIáKáAáJáEáBáCáUáYUáLáQáHPáNYáXáDáOEáN",
    "áRáOáAIáYmSMALL LETTER MzSzVzWzATIUzZzKPzPzTzGzFzIzKzAzJzEzBzCzUzYUzLzQzHPzNYzXzDzOEzNzRzO",
    "zAIzYmDIGIT ZEROsONEsTWOtHREEsFOURtIVEsSIXtEVENsEIGHTsNINEmNUMBER TENtELEVENtTWELVEuHIRTEEN",
    "tFOURTEENuIFTEENtSIXTEENuEVENTEENtEIGHTEENtNINETEENmDIGIT ONE ALTERNATE FORM",
    "sTWO ALTERNATE FORMtHREE ALTERNATE FORMmCOMMAmFULL STOPmSYMBOL AIVAmEXCLAMATION OH"]),
  (0x16F00, [
    "aMIAO LETTER PAmBAmYI PAmPLAmMAnHAmARCHAIC MAmFAmVAnFAmTAmDAmYI TTAqAmTTAmDDAmNAnHAmYI NNA",
    "mARCHAIC NAmNNAoHAmLAnYAnHAoYAmTLHAmDLHAmTLHYAmDLHYAmKAmGAmYI KAmQAnGAmNGAoHAmARCHAIC NGAmHA",
    "mXAmGHAoHAmTSSAmDZZAmNYAoHAmTSHAmDZHAmYI TSHApDZHAmREFORMED TSHAmSHAnSAmZHAnSHAmTSAmDZA",
    "mYI TSAmSAmZAnSAnZAoSAmARCHAIC ZZAmZZYAoSYAmWAmAHmHHAmBRImSYImDZYImTEnSEmRTE"]),
  (0x16F4F, [
    "aMIAO SIGN CONSONANT MODIFIER BARfLETTER NASALIZATIONfSIGN ASPIRATIONkREFORMED VOICING",
    "tASPIRATIONfVOWEL SIGN ArArHHrNsGqOrOqWOrqErNsGqOEYqIrAsNtGrOrErIrUrNGqUrAsNtGrUrEIrNGqYrI",
    "qAEsEqERRqROUNDED ERRqERqROUNDED ERqAIqEIqAUqOUqNrGqUOGqYUIqOGrERqVWqIGqEAqIONGqUI"]),
  (0x16F8F, [
    "aMIAO TONE RIGHTkTOP RIGHTkABOVEkBELOWfLETTER TONE-2r3r4r5r6r7r8mREFORMED TONE-1à2à4à5à6à8"]),
  (0x16FE0, [
    "aTANGUT ITERATION MARKaNUSHU ITERATION MARKaOLD CHINESE HOOK MARKmITERATION MARK",
    "aKHITAN SMALL SCRIPT FILLER"]),
  (0x16FF0, ["aVIETNAMESE ALTERNATE READING MARK CAèNHAY"]),
  (0x18800, [
    "aTANGUT COMPONENT-001t2t3t4t5t6t7t8t9s10t1t2t3t4t5t6t7t8t9s20t1t2t3t4t5t6t7t8t9s30t1t2t3t4t5",
    "t6t7t8t9s40t1t2t3t4t5t6t7t8t9s50t1t2t3t4t5t6t7t8t9s60t1t2t3t4t5t6t7t8t9s70t1t2t3t4t5t6t7t8t9",
    "s80t1t2t3t4t5t6t7t8t9s90t1t2t3t4t5t6t7t8t9r100t1t2t3t4t5t6t7t8t9s10t1t2t3t4t5t6t7t8t9s20t1t2",
    "t3t4t5t6t7t8t9s30t1t2t3t4t5t6t7t8t9s40t1t2t3t4t5t6t7t8t9s50t1t2t3t4t5t6t7t8t9s60t1t2t3t4t5t6",
    "t7t8t9s70t1t2t3t4t5t6t7t8t9s80t1t2t3t4t5t6t7t8t9s90t1t2t3t4t5t6t7t8t9r200t1t2t3t4t5t6t7t8t9",
    "s10t1t2t3t4t5t6t7t8t9s20t1t2t3t4t5t6t7t8t9s30t1t2t3t4t5t6t7t8t9s40t1t2t3t4t5t6t7t8t9s50t1t2",
    "t3t4t5t6t7t8t9s60t1t2t3t4t5t6t7t8t9s70t1t2t3t4t5t6t7t8t9s80t1t2t3t4t5t6t7t8t9s90t1t2t3t4t5t6",
    "t7t8t9r300t1t2t3t4t5t6t7t8t9s10t1t2t3t4t5t6t7t8t9s20t1t2t3t4t5t6t7t8t9s30t1t2t3t4t5t6t7t8t9",
    "s40t1t2t3t4t5t6t7t8t9s50t1t2t3t4t5t6t7t8t9s60t1t2t3t4t5t6t7t8t9s70t1t2t3t4t5t6t7t8t9s80t1t2",
    "t3t4t5t6t7t8t9s90t1t2t3t4t5t6t7t8t9r400t1t2t3t4t5t6t7t8t9s10t1t2t3t4t5t6t7t8t9s20t1t2t3t4t5",
    "t6t7t8t9s30t1t2t3t4t5t6t7t8t9s40t1t2t3t4t5t6t7t8t9s50t1t2t3t4t5t6t7t8t9s60t1t2t3t4t5t6t7t8t9",
    "s70t1t2t3t4t5t6t7t8t9s80t1t2t3t4t5t6t7t8t9s90t1t2t3t4t5t6t7t8t9r500t1t2t3t4t5t6t7t8t9s10t1t2",
    "t3t4t5t6t7t8t9s20t1t2t3t4t5t6t7t8t9s30t1t2t3t4t5t6t7t8t9s40t1t2t3t4t5t6t7t8t9s50t1t2t3t4t5t6",
    "t7t8t9s60t1t2t3t4t5t6t7t8t9s70t1t2t3t4t5t6t7t8t9s80t1t2t3t4t5t6t7t8t9s90t1t2t3t4t5t6t7t8t9",
    "r600t1t2t3t4t5t6t7t8t9s10t1t2t3t4t5t6t7t8t9s20t1t2t3t4t5t6t7t8t9s30t1t2t3t4t5t6t7t8t9s40t1t2",
    "t3t4t5t6t7t8t9s50t1t2t3t4t5t6t7t8t9s60t1t2t3t4t5t6t7t8t9s70t1t2t3t4t5t6t7t8t9s80t1t2t3t4t5t6",
    "t7t8t9s90t1t2t3t4t5t6t7t8t9r700t1t2t3t4t5t6t7t8t9s10t1t2t3t4t5t6t7t8t9s20t1t2t3t4t5t6t7t8t9",
    "s30t1t2t3t4t5t6t7t8t9s40t1t2t3t4t5t6t7t8t9s50t1t2t3t4t5t6t7t8t9s60t1t2t3t4t5t6t7t8"]),
  (0x1AFF0, ["aKATAKANA LETTER MINNAN TONE-2â3â4â5"]),
  (0x1AFF5, ["aKATAKANA LETTER MINNAN TONE-7â8xNASALIZED TONE-1ì2ì3ì4ì5"]),
  (0x1AFFD, ["aKATAKANA LETTER MINNAN NASALIZED TONE-7ì8"]),
  (0x1B000, [
    "aKATAKANA LETTER ARCHAIC EaHIRAGANA LETTER ARCHAIC YEbENTAIGANA LETTER A-1u2u3uWOsI-1u2u3u4",
    "sU-1u2u3u4u5sE-2u3u4u5u6sO-1u2u3sKA-1v2v3v4v5v6v7v8v9v10w1vKEtI-1v2v3v4v5v6v7v8tU-1v2v3v4v5",
    "v6v7tE-1v2v3v4v5v6tO-1v2v3vKIsSA-1v2v3v4v5v6v7v8tI-1v2v3v4v5v6tU-1v2v3v4v5v6v7v8tE-1v2v3v4v5",
    "tO-1v2v3v4v5v6v7sTA-1v2v3v4tI-1v2v3v4v5v6v7tU-1v2v3v4vTOtE-1v2v3v4v5v6v7v8v9tO-1v2v3v4v5v6",
    "vRAsNA-1v2v3v4v5v6v7v8v9tI-1v2v3v4v5v6v7vTEtU-1v2v3tE-1v2v3v4v5v6vKOtO-1v2v3v4v5sHA-1v2v3v4",
    "v5v6v7v8v9v10w1tI-1v2v3v4v5v6v7tU-1v2v3tE-1v2v3v4v5v6v7tO-1v2v3v4v5v6v7v8sMA-1v2v3v4v5v6v7",
    "tI-1v2v3v4v5v6v7tU-1v2v3v4tE-1v2vMAtO-1v2v3v4v5v6sYA-1v2v3v4v5vYOtU-1v2v3v4tO-1v2v3v4v5v6",
    "sRA-1v2v3v4tI-1v2v3v4v5v6v7tU-1v2v3v4v5v6tE-1v2v3v4tO-1v2v3v4v5v6sWA-1v2v3v4v5tI-1v2v3v4v5",
    "tE-1v2v3v4tO-1v2v3v4v5v6v7sN-MU-MO-1à2bIRAGANA LETTER ARCHAIC WUaKATAKANA LETTER ARCHAIC YI",
    "zEyWU"]),
  (0x1B150, ["aHIRAGANA LETTER SMALL WIxExO"]), (0x1B164, ["aKATAKANA LETTER SMALL WIxExOwN"]),
  (0x1BC00, [
    "aDUPLOYAN LETTER HqXqPqTqFqKqLqBqDqVqGqRqP NqD SqF NqK MqR SqTHqSLOAN DHqDHqKKqSLOAN JqHLqLH",
    "qRHqMqNqJqSqM NqN MqJ MqS JqM WITH DOTqN WITH DOTqJ WITH DOTàS INSIDE AND ABOVEqS WITH DOT",
    "à BELOWqM SqN SqJ SqS SqM N SqN M SqJ M SqS J SqJ S WITH DOTsNt SqS Tt RsPt RqT SsR SqWrHr R",
    "qS NsMqK R SqG R SqS Kt RqAqSLOAN OWqOArqAOUqIqEqIEqSHORT IqUIqEEqSLOAN EHqROMANIAN I",
    "qSLOAN EEqLONG IqYEqUqEUqXWqU NqLONG UqROMANIAN UqUHqSLOAN UqOOHrWrUqWArOrIrEIrOWqNASAL UwO",
    "wIwAqPERNIN ANyMqSLOAN ENwANwONqVOCALIC M"]),
  (0x1BC70, [
    "aDUPLOYAN AFFIX LEFT HORIZONTAL SECANTpMID HORIZONTAL SECANTpRIGHT HORIZONTAL SECANT",
    "pLOW VERTICAL SECANTpMID VERTICAL SECANTpHIGH VERTICAL SECANTpATTACHED SECANT",
    "yLEFT-TO-RIGHT SECANTyTANGENTàILyE HOOKyI HOOKyTANGENT HOOK"]),
  (0x1BC80, [
    "aDUPLOYAN AFFIX HIGH ACUTEuTIGHT ACUTEuGRAVEuLONG GRAVEuDOTuCIRCLEuLINEuWAVEuVERTICAL"]),
  (0x1BC90, [
    "aDUPLOYAN AFFIX LOW ACUTEtTIGHT ACUTEtGRAVEtLONG GRAVEtDOTtCIRCLEtLINEtWAVEtVERTICALtARROW"]),
  (0x1BC9C, [
    "aDUPLOYAN SIGN O WITH CROSSjTHICK LETTER SELECTORjDOUBLE MARKjPUNCTUATION CHINOOK FULL STOP",
    "aSHORTHAND FORMAT LETTER OVERLAPrCONTINUING OVERLAPrDOWN STEPrUP STEP"]),
  (0x1CF00, [
    "aZNAMENNY COMBINING MARK GORAZDO NIZKO S KRYZHEM ON LEFTyNIZKO S KRYZHEM ON LEFT",
    "yTSATA ON LEFTyGORAZDO NIZKO ON LEFTyNIZKO ON LEFTySREDNE ON LEFTyMALO POVYSHE ON LEFT",
    "yPOVYSHE ON LEFTyVYSOKO ON LEFTyMALO POVYSHE S KHOKHLOM ON LEFTyPOVYSHE S KHOKHLOM ON LEFT",
    "yVYSOKO S KHOKHLOM ON LEFTyGORAZDO NIZKO S KRYZHEM ON RIGHTyNIZKO S KRYZHEM ON RIGHT",
    "yTSATA ON RIGHTyGORAZDO NIZKO ON RIGHTyNIZKO ON RIGHTySREDNE ON RIGHTyMALO POVYSHE ON RIGHT",
    "yPOVYSHE ON RIGHTyVYSOKO ON RIGHTyMALO POVYSHE S KHOKHLOM ON RIGHT",
    "yPOVYSHE S KHOKHLOM ON RIGHTyVYSOKO S KHOKHLOM ON RIGHTyTSATA S KRYZHEM",
    "yMALO POVYSHE S KRYZHEMySTRANNO MALO POVYSHEyPOVYSHE S KRYZHEMçTRANNOyVYSOKO S KRYZHEM",
    "yMALO POVYSHE STRANNOyGORAZDO VYSOKOyZELOyONyRAVNOyTIKHAYAyBORZAYAyUDARKAyPODVERTKAyLOMKA",
    "yKUPNAYAzACHKAyZEVOKySKOBAyRAZSEKAyKRYZH ON LEFT"]),
  (0x1CF30, [
    "aZNAMENNY COMBINING TONAL RANGE MARK MRACHNOêSVETLOêTRESVETLOtMARK ZADERZHKA",
    "yDEMESTVENNY ZADERZHKAyOTSECHKAyPODCHASHIEè WITH VERTICAL STROKEyCHASHKAå POLNAYAyOBLACHKO",
    "ySOROCHYA NOZHKAyTOCHKAyDVOETOCHIEtATTACHING VERTICAL OMETtMARK CURVED OMETyKRYZH",
    "tLOWER TONAL RANGE INDICATORjPRIZNAK MODIFIER LEVEL-2æ3àDIRECTION FLIPàKRYZHàROG"]),
  (0x1CF50, [
    "aZNAMENNY NEUME KRYUKu TIKHYpPARAKLITpDVA V CHELNUpKLYUCHpZANOZHEKpSTOPITSAx S OCHKOM",
    "pPEREVODKAy NEPOSTOYANNAYApSTOPITSA WITH SOROCHYA NOZHKApCHELYUSTKApPALKApZAPYATAYA",
    "pGOLUBCHIK BORZYzTIKHYzMRACHNYzSVETLYzTRESVETLYpVRAKHIYA PROSTAYAyMRACHNAYAySVETLAYA",
    "yTRESVETLAYAyKLYUCHEVAYA PROSTAYAêMRACHNAYAêSVETLAYAêTRESVETLAYApDOUBLE ZAPYATAYA",
    "pREVERSED CHELYUSTKApDERBITSApKHAMILOpCHASHKApPODCHASHIEpSKAMEYTSA MRACHNAYAzSVETLAYA",
    "zTRESVETLAYAàIKHAYApDEMESTVENNY KLYUCHpSKAMEYTSA KLYUCHEVAYA SVETLAYAæNEPOSTOYANNAYA",
    "æVAYA TIKHAYAzDVOECHELNAYA PROSTAYAìSVETLAYAìNEPOSTOYANNAYAìKLYUCHEVAYAqLOZHITIEy S ZAPYATOY",
    "zZAKRYTOEzS KRYZHEMpKRYZHpROGpFITApKOBYLApZMEYTSApSTATYAv S ZAPYATOYyKRYZHEM",
    "yZAPYATOY I KRYZHEMyKRYZHEM I ZAPYATOYwZAKRYTAYAå S ZAPYATOYwS ROGOMyDVUMYA ZAPYATYMI",
    "yZAPYATOY I PODCHASHIEMpPOLKULIZMYpSTATYA NEPOSTOYANNAYArRELA PROSTAYAwMRACHNOTIKHAYA",
    "wKRYZHEVAYAwPOLUPOVODNAYAyVODNAYAwNEPOSTOYANNAYAwKLYUCHEPOVODNAYAãNEPOSTOYANNAYA",
    "wTIKHAYA PUTNAYAwDVOECHELNAYAåOKRYZHEVAYAæPOVODNAYAåAYA KLYUCHEVAYAåOPOVODNAYA KLYUCHEVAYA",
    "wGROMNAYA WITH SINGLE ZAPYATAYAàOPOVODNAYA WITH SINGLE ZAPYATAYAàNAYAàOPOVODNAYA",
    "ê WITH DOUBLE ZAPYATAYAáKRYZHEVAYAë POVODNAYApMECHIKv POVODNYwKLYUCHEVOYãPOVODNY",
    "ãNEPOSTOYANNYpSTRELA TRYASOGLASNAYAâPOVODNAYAâSTRELNAYApOSOKAu SVETLAYAvTRESVETLAYA",
    "vKRYUKOVAYA SVETLAYAwLYUCHEVAYA SVETLAYAçNEPOSTOYANNAYApSTRELA KRYUKOVAYAæ POVODNAYA",
    "çGROMNAYA WITH SINGLE ZAPYATAYAëOPOVODNAYA WITH SINGLE ZAPYATAYAëNAYAëOPOVODNAYA",
    "õ WITH DOUBLE ZAPYATAYAìKRYZHEVAYAö POVODNAYAçTRYASKApKUFISMApOBLAKOpDUDApNEMKApPAUK"]),
  (0x1D000, [
    "aBYZANTINE MUSICAL SYMBOL PSILIzDASEIAzPERISPOMENIzOXEIA EKFONITIKONåDIPLI",
    "zVAREIA EKFONITIKONæDIPLIzKATHISTIzSYRMATIKIzPARAKLITIKIzYPOKRISISè DIPLIzKREMASTI",
    "zAPESO EKFONITIKONzEXO EKFONITIKONzTELEIAzKENTIMATAzAPOSTROFOSé DIPLIzSYNEVMAzTHITA",
    "zOLIGON ARCHAIONzGORGON ARCHAIONzPSILONzCHAMILONzVATHYzISON ARCHAIONzKENTIMA ARCHAION",
    "æTA ARCHAIONzSAXIMATAzPARICHONzSTAVROS APODEXIAzOXEIAI ARCHAIONzVAREIAI ARCHAION",
    "zAPODERMA ARCHAIONâTHEMAzKLASMAzREVMAzPIASMA ARCHAIONzTINAGMAzANATRICHISMAzSEISMA",
    "àYNAGMA ARCHAIONçMETA STAVROUzOYRANISMA ARCHAIONzTHEMAzLEMOIzDYOzTRIAàESSERAzKRATIMATA",
    "zAPESO EXO NEOzFTHORA ARCHAIONzIMIFTHORAzTROMIKON ARCHAIONzKATAVA TROMIKONzPELASTONàSIFISTON",
    "zKONTEVMAzCHOREVMA ARCHAIONzRAPISMAzPARAKALESMA ARCHAIONäLITIKI ARCHAIONzICHADINzNANA",
    "zPETASMAzKONTEVMA ALLOzTROMIKON ALLOzSTRAGGISMATAzGRONTHISMATAzISON NEOzOLIGON NEOàXEIA NEO",
    "zPETASTIzKOUFISMAzPETASTOKOUFISMAzKRATIMOKOUFISMAzPELASTON NEOzKENTIMATA NEO ANOæ NEO ANO",
    "zYPSILIzAPOSTROFOS NEOèI SYNDESMOS NEOzYPORROIzKRATIMOYPORROONzELAFRONzCHAMILIzMIKRON ISON",
    "zVAREIA NEOzPIASMA NEOàSIFISTON NEOzOMALONzANTIKENOMAzLYGISMAzPARAKLITIKI NEOäALESMA NEO",
    "zETERON PARAKALESMAzKYLISMAzANTIKENOKYLISMAzTROMIKON NEOzEKSTREPTONzSYNAGMA NEOáRMA",
    "zCHOREVMA NEOzEPEGERMAzSEISMA NEOzXIRON KLASMAzTROMIKOPSIFISTONzPSIFISTOLYGISMA",
    "zTROMIKOLYGISMAæPARAKALESMAzPSIFISTOPARAKALESMAzTROMIKOSYNAGMAzPSIFISTOSYNAGMA",
    "zGORGOSYNTHETONzARGOSYNTHETONzETERON ARGOSYNTHETONzOYRANISMA NEOzTHEMATISMOS ESOìXOä APLOUN",
    "âS KAI APOTHESzKATAVASMAzENDOFONONzYFEN KATOäANOzSTAVROSzKLASMA ANOzDIPLI ARCHAION",
    "zKRATIMA ARCHAIONèLLOçNEOzAPODERMA NEOáLIzDIPLIzTRIPLIàETRAPLIzKORONISzLEIMMA ENOS CHRONOU",
    "æDYO CHRONONæTRION CHRONONçESSARON CHRONONæIMISEOS CHRONOUzGORGON NEO ANO",
    "æPARESTIGMENON ARISTERAôDEXIAzDIGORGONç PARESTIGMENON ARISTERA KATOøISTERA ANOöDEXIA",
    "zTRIGORGONzARGONzIMIDIARGONzDIARGONzAGOGI POLI ARGIåARGOTERIèIåMETRIAçSIåGORGIéOTERI",
    "åPOLI GORGIzMARTYRIA PROTOS ICHOSèALLI PROTOS ICHOSèDEYTEROS ICHOSèALLI DEYTEROS ICHOS",
    "èTRITOS ICHOSëFONIASéETARTOS ICHOSñLEGETOS ICHOSèLEGETOS ICHOSèPLAGIOS ICHOS",
    "zISAKIA TELOUS ICHIMATOSzAPOSTROFOI TELOUS ICHIMATOSzFANEROSIS TETRAFONIASéMONOFONIAS",
    "éDIFONIASzMARTYRIA VARYS ICHOSèPROTOVARYS ICHOSéLAGIOS TETARTOS ICHOSzGORTHMIKON N APLOUN",
    "ìDIPLOUNzENARXIS KAI FTHORA VOUzIMIFONONãTHORONzFTHORA ARCHAION DEYTEROU ICHOUæDIATONIKI PA",
    "ðNANAæNAOS ICHOSæDIATONIKI DIæSKLIRON DIATONON DIæDIATONIKI KEðZOðNI KATOóANO",
    "æMALAKON CHROMA DIFONIASõMONOFONIASàHTORA SKLIRON CHROMA VASISàTHORA SKLIRON CHROMA SYNAFI",
    "æNENANOzCHROA ZYGOSåKLITONåSPATHIzFTHORA I YFESIS TETARTIMORIONæENARMONIOS ANTIFONIA",
    "zYFESIS TRITIMORIONzDIESIS TRITIMORIONçETARTIMORIONæAPLI DYO DODEKATA",
    "æMONOGRAMMOS TESSERA DODEKATAæDIGRAMMOS EX DODEKATAæTRIGRAMMOS OKTO DODEKATA",
    "zYFESIS APLI DYO DODEKATAæMONOGRAMMOS TESSERA DODEKATAæDIGRAMMOS EX DODEKATA",
    "æTRIGRAMMOS OKTO DODEKATAzGENIKI DIESISæYFESISzDIASTOLI APLI MIKRIîEGALIèDIPLIèTHESEOS",
    "zSIMANSIS THESEOSï DISIMOUðTRISIMOUñETRASIMOUèARSEOSî DISIMOUïTRISIMOUðETRASIMOUzDIGRAMMA GG",
    "áFTOGGOS OUzSTIGMAzARKTIKO PAçVOUçGAçDIçKEçZOçNIzKENTIMATA NEO MESOæ NEO MESOæTA NEO KATO",
    "æ NEO KATOàLASMA KATOzGORGON NEO KATO"]),
  (0x1D100, [
    "aMUSICAL SYMBOL SINGLE BARLINEpDOUBLE BARLINEpFINAL BARLINEpREVERSE FINAL BARLINE",
    "pDASHED BARLINEpSHORT BARLINEpLEFT REPEAT SIGNpRIGHT REPEAT SIGNqEPEAT DOTSpDAL SEGNOr CAPO",
    "pSEGNOpCODApREPEATED FIGURE-1å2å3pFERMATAw BELOWpBREATH MARKpCAESURApBRACEtKET",
    "pONE-LINE STAFFpTWO-LINE STAFFqHREE-LINE STAFFpFOUR-LINE STAFFqIVE-LINE STAFFpSIX-LINE STAFF",
    "tSTRING FRETBOARDpFOUR-STRING FRETBOARDpG CLEFv OTTAVA ALTAãBASSApC CLEFpF CLEFv OTTAVA ALTA",
    "ãBASSApDRUM CLEF-1z2"]),
  (0x1D129, [
    "aMUSICAL SYMBOL MULTIPLE MEASURE RESTpDOUBLE SHARPwFLATpFLAT UPuDOWNpNATURAL UPxDOWN",
    "pSHARP UPvDOWNpQUARTER TONE SHARPâFLATpCOMMON TIMEqUT TIMEpOTTAVA ALTAwBASSA",
    "pQUINDICESIMA ALTAâBASSApMULTI RESTpWHOLE RESTpHALF RESTpQUARTER RESTpEIGHTH REST",
    "pSIXTEENTH RESTpTHIRTY-SECOND RESTpSIXTY-FOURTH RESTpONE HUNDRED TWENTY-EIGHTH REST",
    "pX NOTEHEADpPLUS NOTEHEADpCIRCLE X NOTEHEADpSQUARE NOTEHEAD WHITEåBLACK",
    "pTRIANGLE NOTEHEAD UP WHITEêBLACKçLEFT WHITEìBLACKçRIGHT WHITEíBLACKçDOWN WHITEìBLACK",
    "çUP RIGHT WHITEðBLACKpMOON NOTEHEAD WHITEãBLACKpTRIANGLE-ROUND NOTEHEAD DOWN WHITEòBLACK",
    "pPARENTHESIS NOTEHEADpVOID NOTEHEADpNOTEHEAD BLACKqULL NOTEHEADpCLUSTER NOTEHEAD WHITEæBLACK",
    "pBREVEpWHOLE NOTEpHALF NOTEpQUARTER NOTEpEIGHTH NOTEpSIXTEENTH NOTEpTHIRTY-SECOND NOTE",
    "pSIXTY-FOURTH NOTEpONE HUNDRED TWENTY-EIGHTH NOTEpCOMBINING STEMàPRECHGESANG STEMzTREMOLO-1",
    "ç2ç3pFINGERED TREMOLO-1æ2æ3pCOMBINING AUGMENTATION DOTzFLAG-1ä2ä3ä4ä5pBEGIN BEAMpEND BEAM",
    "pBEGIN TIEpEND TIEpBEGIN SLURpEND SLURpBEGIN PHRASEpEND PHRASEpCOMBINING ACCENTzSTACCATO",
    "zTENUTOzSTACCATISSIMOzMARCATOæ-STACCATOzACCENT-STACCATOzLOUREpARPEGGIATO UPàDOWN",
    "pCOMBINING DOITzRIPzFLIPzSMEARzBENDzDOUBLE TONGUEzTRIPLE TONGUEpRINFORZANDOpSUBITOpZpPIANO",
    "pMEZZOpFORTEpCRESCENDOpDECRESCENDOpGRACE NOTE SLASHàNO SLASHpTRqURNpINVERTED TURNpTURN SLASH",
    "uUPpORNAMENT STROKE-1å2å3å4å5å6å7å8å9å10æ1pHAUPTSTIMMEpNEBENSTIMMEpEND OF STIMME",
    "pDEGREE SLASHpCOMBINING DOWN BOWzUP BOWzHARMONICzSNAP PIZZICATOpPEDAL MARKvUP MARK",
    "pHALF PEDAL MARKpGLISSANDO UPzDOWNpWITH FINGERNAILSpDAMPt ALLpMAXIMApLONGApBREVIS",
    "pSEMIBREVIS WHITEàBLACKpMINIMAv BLACKpSEMIMINIMA WHITEàBLACKpFUSA WHITEuBLACK",
    "pLONGA PERFECTA RESTvIMPERFECTA RESTpBREVIS RESTpSEMIBREVIS RESTpMINIMA RESTpSEMIMINIMA REST",
    "pTEMPUS PERFECTUM CUM PROLATIONE PERFECTAõIMPERFECTAõPERFECTA DIMINUTION-1",
    "wIMPERFECTUM CUM PROLATIONE PERFECTA÷IMPERFECTAøMPERFECTA DIMINUTION-1",
    "øMPERFECTA DIMINUTION-2øMPERFECTA DIMINUTION-3pCROIXpGREGORIAN C CLEFzF CLEFpSQUARE BpVIRGA",
    "pPODATUSpCLIVISpSCANDICUSpCLIMACUSpTORCULUSpPORRECTUSy FLEXUSpSCANDICUS FLEXUS",
    "pTORCULUS RESUPINUSpPES SUBPUNCTISpKIEVAN C CLEFwEND OF PIECEwFINAL NOTEwRECITATIVE MARK",
    "wWHOLE NOTEwHALF NOTEwQUARTER NOTE STEM DOWNîUPwEIGHTH NOTE STEM DOWNíUPwFLAT SIGNpSORI",
    "pKORON"]),
  (0x1D200, [
    "aGREEK VOCAL NOTATION SYMBOL-1â2â3â4â5â6â7â8â9â10ã1ã2ã3ã4ã5ã6ã7ã8ã9â20ã1ã2ã3ã4â50ã1ã2ã3ã4",
    "gINSTRUMENTAL NOTATION SYMBOL-1é2é4é5é7é8é11ê2ê3ê4ê7ê8ê9é23ê4ê5ê6ê7ê9é30ê2ê6ê7ê8ê9é40ê2ê3ê5",
    "ê7ê8ê9é50ê1ê2ê3ê4aCOMBINING GREEK MUSICAL TRISEMEzETRASEMEyPENTASEMEaGREEK MUSICAL LEIMMA"]),
  (0x1D2E0, [
    "aMAYAN NUMERAL ZEROoONEoTWOpHREEoFOURpIVEoSIXpEVENoEIGHToNINEoTENoELEVENoTWELVEpHIRTEEN",
    "oFOURTEENpIFTEENoSIXTEENpEVENTEENoEIGHTEENoNINETEEN"]),
  (0x1D300, [
    "aMONOGRAM FOR EARTHaDIGRAM FOR HEAVENLY EARTHmUMAN EARTHlEARTHLY HEAVENuUMANq",
    "aTETRAGRAM FOR CENTREoFULL CIRCLEoMIREDoBARRIERoKEEPING SMALLoCONTRARIETYoASCENToOPPOSITION",
    "oBRANCHING OUToDEFECTIVENESS OR DISTORTIONpIVERGENCEoYOUTHFULNESSoINCREASEoPENETRATIONoREACH",
    "oCONTACToHOLDING BACKoWAITINGoFOLLOWINGoADVANCEoRELEASEqSISTANCEoEASEoJOYoCONTENTION",
    "oENDEAVOURoDUTIESoCHANGEoDECISIVENESSoBOLD RESOLUTIONoPACKINGoLEGIONoCLOSENESSoKINSHIP",
    "oGATHERINGoSTRENGTHoPURITYoFULLNESSoRESIDENCEoLAW OR MODELoRESPONSEoGOING TO MEEToENCOUNTERS",
    "oSTOVEoGREATNESSoENLARGEMENToPATTERNoRITUALoFLIGHToVASTNESS OR WASTINGoCONSTANCYoMEASURE",
    "oETERNITYoUNITYoDIMINISHMENToCLOSED MOUTHoGUARDEDNESSpATHERING INoMASSINGoACCUMULATION",
    "oEMBELLISHMENToDOUBToWATCHoSINKINGoINNERoDEPARTUREpARKENINGpIMMINGoEXHAUSTIONoSEVERANCE",
    "pTOPPAGEoHARDNESSoCOMPLETIONpLOSUREoFAILUREoAGGRAVATIONoCOMPLIANCEoON THE VERGEoDIFFICULTIES",
    "oLABOURINGoFOSTERING"]),
  (0x1D360, [
    "aCOUNTING ROD UNIT DIGIT ONEyTWOzHREEyFOURzIVEySIXzEVENyEIGHTyNINEnTENS DIGIT ONEyTWOzHREE",
    "yFOURzIVEySIXzEVENyEIGHTyNINEaIDEOGRAPHIC TALLY MARK ONExTWOyHREExFOURyIVEaTALLY MARK ONE",
    "lFIVE"]),
  (0x1D400, [
    "aMATHEMATICAL BOLD CAPITAL AàBàCàDàEàFàGàHàIàJàKàLàMàNàOàPàQàRàSàTàUàVàWàXàYàZsSMALL AyByCyD",
    "yEyFyGyHyIyJyKyLyMyNyOyPyQyRySyTyUyVyWyXyYyZnITALIC CAPITAL AâBâCâDâEâFâGâHâIâJâKâLâMâNâOâP",
    "âQâRâSâTâUâVâWâXâYâZuSMALL AàBàCàDàEàFàG"]),
  (0x1D456, [
    "aMATHEMATICAL ITALIC SMALL IàJàKàLàMàNàOàPàQàRàSàTàUàVàWàXàYàZnBOLD ITALIC CAPITAL AçBçCçDçE",
    "çFçGçHçIçJçKçLçMçNçOçPçQçRçSçTçUçVçWçXçYçZzSMALL AåBåCåDåEåFåGåHåIåJåKåLåMåNåOåPåQåRåSåTåUåV",
    "åWåXåYåZnSCRIPT CAPITAL A"]),
  (0x1D49E, ["aMATHEMATICAL SCRIPT CAPITAL CâD"]), (0x1D4A2, ["aMATHEMATICAL SCRIPT CAPITAL G"]),
  (0x1D4A5, ["aMATHEMATICAL SCRIPT CAPITAL JâK"]),
  (0x1D4A9, ["aMATHEMATICAL SCRIPT CAPITAL NâOâPâQ"]),
  (0x1D4AE, ["aMATHEMATICAL SCRIPT CAPITAL SâTâUâVâWâXâYâZuSMALL AàBàCàD"]),
  (0x1D4BB, ["aMATHEMATICAL SCRIPT SMALL F"]),
  (0x1D4BD, ["aMATHEMATICAL SCRIPT SMALL HàIàJàKàLàMàN"]),
  (0x1D4C5, [
    "aMATHEMATICAL SCRIPT SMALL PàQàRàSàTàUàVàWàXàYàZnBOLD SCRIPT CAPITAL AçBçCçDçEçFçGçHçIçJçKçL",
    "çMçNçOçPçQçRçSçTçUçVçWçXçYçZzSMALL AåBåCåDåEåFåGåHåIåJåKåLåMåNåOåPåQåRåSåTåUåVåWåXåYåZ",
    "nFRAKTUR CAPITAL AãB"]),
  (0x1D507, ["aMATHEMATICAL FRAKTUR CAPITAL DãEãFãG"]),
  (0x1D50D, ["aMATHEMATICAL FRAKTUR CAPITAL JãKãLãMãNãOãPãQ"]),
  (0x1D516, ["aMATHEMATICAL FRAKTUR CAPITAL SãTãUãVãWãXãY"]),
  (0x1D51E, [
    "aMATHEMATICAL FRAKTUR SMALL AáBáCáDáEáFáGáHáIáJáKáLáMáNáOáPáQáRáSáTáUáVáWáXáYáZ",
    "nDOUBLE-STRUCK CAPITAL AéB"]),
  (0x1D53B, ["aMATHEMATICAL DOUBLE-STRUCK CAPITAL DéEéFéG"]),
  (0x1D540, ["aMATHEMATICAL DOUBLE-STRUCK CAPITAL IéJéKéLéM"]),
  (0x1D546, ["aMATHEMATICAL DOUBLE-STRUCK CAPITAL O"]),
  (0x1D54A, ["aMATHEMATICAL DOUBLE-STRUCK CAPITAL SéTéUéVéWéXéY"]),
  (0x1D552, [
    "aMATHEMATICAL DOUBLE-STRUCK SMALL AçBçCçDçEçFçGçHçIçJçKçLçMçNçOçPçQçRçSçTçUçVçWçXçYçZ",
    "nBOLD FRAKTUR CAPITAL AèBèCèDèEèFèGèHèIèJèKèLèMèNèOèPèQèRèSèTèUèVèWèXèYèZàSMALL AæBæCæDæEæF",
    "æGæHæIæJæKæLæMæNæOæPæQæRæSæTæUæVæWæXæYæZnSANS-SERIF CAPITAL AæBæCæDæEæFæGæHæIæJæKæLæMæNæOæP",
    "æQæRæSæTæUæVæWæXæYæZySMALL AäBäCäDäEäFäGäHäIäJäKäLäMäNäOäPäQäRäSäTäUäVäWäXäYäZ",
    "yBOLD CAPITAL AëBëCëDëEëFëGëHëIëJëKëLëMëNëOëPëQëRëSëTëUëVëWëXëYëZãSMALL AéBéCéDéEéFéGéHéIéJ",
    "éKéLéMéNéOéPéQéRéSéTéUéVéWéXéYéZyITALIC CAPITAL AíBíCíDíEíFíGíHíIíJíKíLíMíNíOíPíQíRíSíTíUíV",
    "íWíXíYíZåSMALL AëBëCëDëEëFëGëHëIëJëKëLëMëNëOëPëQëRëSëTëUëVëWëXëYëZyBOLD ITALIC CAPITAL AòBòC",
    "òDòEòFòGòHòIòJòKòLòMòNòOòPòQòRòSòTòUòVòWòXòYòZêSMALL AðBðCðDðEðFðGðHðIðJðKðLðMðNðOðPðQðRðSðT",
    "ðUðVðWðXðYðZnMONOSPACE CAPITAL AåBåCåDåEåFåGåHåIåJåKåLåMåNåOåPåQåRåSåTåUåVåWåXåYåZxSMALL AãB",
    "ãCãDãEãFãGãHãIãJãKãLãMãNãOãPãQãRãSãTãUãVãWãXãYãZnITALIC SMALL DOTLESS IèJ"]),
  (0x1D6A8, [
    "aMATHEMATICAL BOLD CAPITAL ALPHAàBETAàGAMMAàDELTAàEPSILONàZETAàETAàTHETAàIOTAàKAPPAàLAMDAàMU",
    "àNUàXIàOMICRONàPIàRHOàTHETA SYMBOLàSIGMAàTAUàUPSILONàPHIàCHIàPSIàOMEGAsNABLAsSMALL ALPHA",
    "yBETAyGAMMAyDELTAyEPSILONyZETAyETAyTHETAyIOTAyKAPPAyLAMDAyMUyNUyXIyOMICRONyPIyRHO",
    "yFINAL SIGMAySIGMAyTAUyUPSILONyPHIyCHIyPSIyOMEGAsPARTIAL DIFFERENTIALsEPSILON SYMBOL",
    "sTHETA SYMBOLsKAPPA SYMBOLsPHI SYMBOLsRHO SYMBOLsPI SYMBOLnITALIC CAPITAL ALPHAâBETAâGAMMA",
    "âDELTAâEPSILONâZETAâETAâTHETAâIOTAâKAPPAâLAMDAâMUâNUâXIâOMICRONâPIâRHOâTHETA SYMBOLâSIGMA",
    "âTAUâUPSILONâPHIâCHIâPSIâOMEGAuNABLAuSMALL ALPHAàBETAàGAMMAàDELTAàEPSILONàZETAàETAàTHETA",
    "àIOTAàKAPPAàLAMDAàMUàNUàXIàOMICRONàPIàRHOàFINAL SIGMAàSIGMAàTAUàUPSILONàPHIàCHIàPSIàOMEGA",
    "uPARTIAL DIFFERENTIALuEPSILON SYMBOLuTHETA SYMBOLuKAPPA SYMBOLuPHI SYMBOLuRHO SYMBOL",
    "uPI SYMBOLnBOLD ITALIC CAPITAL ALPHAçBETAçGAMMAçDELTAçEPSILONçZETAçETAçTHETAçIOTAçKAPPA",
    "çLAMDAçMUçNUçXIçOMICRONçPIçRHOçTHETA SYMBOLçSIGMAçTAUçUPSILONçPHIçCHIçPSIçOMEGAzNABLA",
    "zSMALL ALPHAåBETAåGAMMAåDELTAåEPSILONåZETAåETAåTHETAåIOTAåKAPPAåLAMDAåMUåNUåXIåOMICRONåPI",
    "åRHOåFINAL SIGMAåSIGMAåTAUåUPSILONåPHIåCHIåPSIåOMEGAzPARTIAL DIFFERENTIALzEPSILON SYMBOL",
    "zTHETA SYMBOLzKAPPA SYMBOLzPHI SYMBOLzRHO SYMBOLzPI SYMBOLnSANS-SERIF BOLD CAPITAL ALPHA",
    "ëBETAëGAMMAëDELTAëEPSILONëZETAëETAëTHETAëIOTAëKAPPAëLAMDAëMUëNUëXIëOMICRONëPIëRHO",
    "ëTHETA SYMBOLëSIGMAëTAUëUPSILONëPHIëCHIëPSIëOMEGAãNABLAãSMALL ALPHAéBETAéGAMMAéDELTAéEPSILON",
    "éZETAéETAéTHETAéIOTAéKAPPAéLAMDAéMUéNUéXIéOMICRONéPIéRHOéFINAL SIGMAéSIGMAéTAUéUPSILONéPHI",
    "éCHIéPSIéOMEGAãPARTIAL DIFFERENTIALãEPSILON SYMBOLãTHETA SYMBOLãKAPPA SYMBOLãPHI SYMBOL",
    "ãRHO SYMBOLãPI SYMBOLãITALIC CAPITAL ALPHAòBETAòGAMMAòDELTAòEPSILONòZETAòETAòTHETAòIOTA",
    "òKAPPAòLAMDAòMUòNUòXIòOMICRONòPIòRHOòTHETA SYMBOLòSIGMAòTAUòUPSILONòPHIòCHIòPSIòOMEGAêNABLA",
    "êSMALL ALPHAðBETAðGAMMAðDELTAðEPSILONðZETAðETAðTHETAðIOTAðKAPPAðLAMDAðMUðNUðXIðOMICRONðPI",
    "ðRHOðFINAL SIGMAðSIGMAðTAUðUPSILONðPHIðCHIðPSIðOMEGAêPARTIAL DIFFERENTIALêEPSILON SYMBOL",
    "êTHETA SYMBOLêKAPPA SYMBOLêPHI SYMBOLêRHO SYMBOLêPI SYMBOLnBOLD CAPITAL DIGAMMA",
    "sSMALL DIGAMMA"])]

end ToolBindings.Text
