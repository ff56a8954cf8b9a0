/-!
Names of characters in the Unicode standard, version 14: those that begin with one of S to Z.
How a listing is read is told where names are looked up.
-/

namespace CircuitConsole.Text

def namesInS : List String := [
  "aS IN TRIANGLEaSAFETY PINbVESTaSAGITTARIUSaSAILBOATaSAKE BOTTLE AND CUPaSALT SHAKERaSALTIRE",
  "aSALUTING FACEaSAMARITAN ABBREVIATION MARKbLETTER ALAFcBAAcBITcDALATcFIcGAMANcINcITcIYcKAAF",
  "cLABATcMIMcNUNcQUFcRISHcSHANcSINGAATcTAAFcTITcTSAADIYcYUTcZENbMARK DAGESHcEPENTHETIC YUTcIN",
  "cIN-ALAFcNEQUDAAcOCCLUSIONbMODIFIER LETTER EPENTHETIC YUTdIdSHORT AbPUNCTUATION AFSAAQcANGED",
  "cANNAAUcARKAANUcATMAAUcBAUcMELODIC QITSAcNEQUDAAcQITSAcSHIYYAALAAcSOF MASHFAATcTURUcZAEFcZIQAA",
  "bVOWEL SIGN AdAAdEdIdLONG AeAAeEeIeUdOdOVERLONG AeAAdSHORT AdSUKUNdUaSANDWICH",
  "aSANS-SERIF HEAVY DOUBLE COMMA QUOTATION MARK ORNAMENTeTURNED COMMA QUOTATION MARK ORNAMENT",
  "dLOW DOUBLE COMMA QUOTATION MARK ORNAMENTcINTERROBANG ORNAMENTaSARIaSATELLITEaSATELLITE ANTENNA",
  "aSATURNaSAURASHTRA CONSONANT SIGN HAARUbDANDAbDIGIT EIGHTcFIVEcFOURcNINEcONEcSEVENcSIXcTHREE",
  "cTWOcZERObDOUBLE DANDAbLETTER AcAAcAIcAUcBAcBHAcCAcCHAcDAcDDAcDDHAcDHAcEcEEcGAcGHAcHAcIcIIcJA",
  "cJHAcKAcKHAcLAcLLAcMAcNAcNGAcNNAcNYAcOcOOcPAcPHAcRAcSAcSHAcSSAcTAcTHAcTTAcTTHAcUcUUcVA",
  "cVOCALIC LdLLdRdRRcYAbSIGN ANUSVARAcCANDRABINDUcVIRAMAcVISARGAbVOWEL SIGN AAdAIdAUdEdEEdIdIIdO",
  "dOOdUdUUdVOCALIC LeLLeReRRaSAUROPODaSAXOPHONEaSCALESaSCARFaSCHOOLaSCHOOL SATCHELaSCIaSCOOTER",
  "aSCORPIONaSCORPIUSaSCREENaSCREWDRIVERaSCRIPT CAPITAL BcEcFcHcIcLcMcPcRbLIGATURE ET ORNAMENT",
  "bSMALL EcGcLcOaSCROLLaSCRUPLEaSEALaSEATaSECOND PLACE MEDALaSECTION SIGNaSECTORaSEDNA",
  "aSEE-NO-EVIL MONKEYaSEEDLINGaSEGMENTaSEGMENTED DIGIT EIGHTcFIVEcFOURcNINEcONEcSEVENcSIXcTHREE",
  "cTWOcZEROaSELFIEaSEMICOLONaSEMIDIRECT PRODUCT WITH BOTTOM CLOSEDaSEMISEXTILEaSEPARATED SYMBOL",
  "aSERIOUS FACE WITH SYMBOLS COVERING MOUTHaSERVICE MARKaSESAME DOTaSESQUIQUADRATEaSET MINUS",
  "bTRANSMIT STATEaSEWING NEEDLEaSEXTILEaSGCaSHADOWED WHITE CIRCLEcLATIN CROSScSTAR",
  "aSHALLOW PAN OF FOODaSHAMROCKaSHARADA ABBREVIATION SIGNbCONTINUATION SIGNbDANDAbDIGIT EIGHT",
  "cFIVEcFOURcNINEcONEcSEVENcSIXcTHREEcTWOcZERObDOUBLE DANDAbEKAMbEXTRA SHORT VOWEL MARK",
  "bHEADSTROKEbLETTER AcAAcAIcAUcBAcBHAcCAcCHAcDAcDDAcDDHAcDHAcEcGAcGHAcHAcIcIIcJAcJHAcKAcKHAcLA",
  "cLLAcMAcNAcNGAcNNAcNYAcOcPAcPHAcRAcSAcSHAcSSAcTAcTHAcTTAcTTHAcUcUUcVAcVOCALIC LdLLdRdRRcYAbOM",
  "bSANDHI MARKbSECTION MARK-1d2bSEPARATORbSIGN ANUSVARAcAVAGRAHAcCANDRABINDUcINVERTED CANDRABINDU",
  "cJIHVAMULIYAcNUKTAcSIDDHAMcUPADHMANIYAcVIRAMAcVISARGAbSUTRA MARKbVOWEL MODIFIER MARKcSIGN AAdAI",
  "dAUdEdIdIIdOdPRISHTHAMATRA EdUdUUdVOCALIC LeLLeReRRaSHARKaSHAVED ICEaSHAVIAN LETTER ADOcAGEcAH",
  "cAIRcAREcARRAYcASHcAWEcBIBcCHURCHcDEADcEARcEATcEGGcERRcFEEcGAGcHA-HAcHUNGcIANcICEcIFcJUDGEcKICK",
  "cLOLLcMEASUREcMIMEcNUNcOAKcOILcONcOOZEcORcOUTcPEEPcROARcSOcSUREcTHEYcTHIGHcTOTcUPcVOWcWOEcWOOL",
  "cYEAcYEWcZOOaSHEEPaSHIELDaSHIFT INbOUTaSHINTO SHRINEaSHIPaSHOCKED FACE WITH EXPLODING HEAD",
  "aSHOOTING STARaSHOPPING BAGSbTROLLEYaSHORT BACKSLANTED SOUTH ARROW",
  "bBENT ARROW POINTING DOWNWARDS THEN NORTH EASTbDOWN TACKcTACK WITH OVERBARbLEFT TACK",
  "bRIGHTWARDS ARROW ABOVE LEFTWARDS ARROWbSLANTED NORTH ARROWbUP TACKcTACK ABOVE SHORT DOWN TACK",
  "dWITH UNDERBARaSHORTCAKEaSHORTHAND FORMAT CONTINUING OVERLAPcDOWN STEPcLETTER OVERLAPcUP STEP",
  "aSHORTSaSHOULDERED OPEN BOXaSHOWERaSHRIMPaSHRUGaSHUFFLE PRODUCTaSHYaSIaSIDDHAM DANDA",
  "bDOUBLE DANDAbEND OF TEXT MARKbLETTER AcAAcAIcALTERNATE UcAUcBAcBHAcCAcCHAcDAcDDAcDDHAcDHAcEcGA",
  "cGHAcHAcIcIIcJAcJHAcKAcKHAcLAcMAcNAcNGAcNNAcNYAcOcPAcPHAcRAcSAcSHAcSSAcTAcTHA",
  "cTHREE-CIRCLE ALTERNATE IcTTAcTTHAcTWO-CIRCLE ALTERNATE IfIIcUcUUcVAcVOCALIC LdLLdRdRRcYA",
  "bREPETITION MARK-1d2d3bSECTION MARK DOUBLE RINGeRING WITH RAYSdWITH CIRCLES AND FOUR ENCLOSURES",
  "gRAYSgTWO ENCLOSURESeDOUBLE CRESCENTSeQUADRUPLE CRESCENTSeRAYS AND DOTTED CRESCENTS",
  "hDOUBLE CRESCENTShTRIPLE CRESCENTSeSEPTUPLE CRESCENTSeTRIDENT AND DOTTED CRESCENTS",
  "gU-SHAPED ORNAMENTSeTRIPLE CRESCENTSbSEPARATOR BARcDOTbSIGN ANUSVARAcCANDRABINDUcNUKTAcSIDDHAM",
  "cVIRAMAcVISARGAbVOWEL SIGN AAdAIdALTERNATE UeUUdAUdEdIdIIdOdUdUUdVOCALIC ReRR",
  "aSIDEWAYS BLACK DOWN POINTING INDEXcLEFT POINTING INDEXcRIGHT POINTING INDEXcUP POINTING INDEX",
  "bWHITE DOWN POINTING INDEXcLEFT POINTING INDEXcRIGHT POINTING INDEXcUP POINTING INDEX",
  "aSIGN OF THE HORNSaSIGNWRITING AIR BLOW SMALL ROTATIONScBLOWING OUTcSUCK SMALL ROTATIONS",
  "cSUCKING INbBREATH EXHALEcINHALEbBRUSH BETWEENcMULTIPLEcSINGLEbCHEEKS NEUTRALcPUFFEDcSUCKED",
  "bCOLONbCOMMAbDREAMY EYEBROWS DOWN NEUTRALdNEUTRAL DOWNeUPdUP NEUTRALbDYNAMIC ARROWHEAD LARGE",
  "dSMALLcEVERY OTHER TIMEcFASTcGRADUALcRELAXEDcSIMULTANEOUScSIMULTANEOUS ALTERNATINGcSLOWcTENSE",
  "bEARSbEXCITEMENTbEYE BLINK MULTIPLEdSINGLEcWINKbEYEBROWS STRAIGHT DOWNdNEUTRALdUP",
  "bEYEGAZE-FLOORPLANE CURVEDdSTRAIGHTdSTRAIGHT ALTERNATINGeDOUBLEcWALLPLANE CIRCLINGdCURVED",
  "dSTRAIGHTdSTRAIGHT ALTERNATINGeDOUBLEbEYELASHES DOWNcFLUTTERINGcUPbEYES CLOSEDcHALF CLOSEDdOPEN",
  "cOPENcSQUEEZEDcWIDE OPENcWIDENING MOVEMENTbFACE DIRECTION POSITION NOSE FORWARD TILTING",
  "fUP OR DOWNhDOWN TILTINGbFILL MODIFIER-2d3d4d5d6bFINGERbFLICK LARGE MULTIPLEdSINGLEcSEQUENTIAL",
  "cSMALL MULTIPLEdSINGLEbFLOORPLANE SHOULDER HIP MOVEbFOREHEAD CONTACTcNEUTRALcWRINKLEDbFULL STOP",
  "bGRASP BETWEENcMULTIPLEcSINGLEbHAIRbHAND-ANGLEcANGLE INDEXdINDEX MIDDLE LITTLEfRINGeRING LITTLE",
  "fLITTLE OUTeTHUMBeTHUMB INfOUTdLITTLE INDEXeINDEX THUMB INDEX THUMBhTHUMB OUTeUP",
  "dMIDDLE RING LITTLEfLITTLE INgOUTdRING DOWN MIDDLE THUMB INDEX CROSSeLITTLEcCIRCLEcCIRCLE INDEX",
  "dINDEX BENTeHINGEeMIDDLEeMIDDLE CROSS LITTLEfCROSSEDfLITTLEfRINGfTHUMBeRING LITTLEdLITTLE INDEX",
  "eUPdMIDDLE RING LITTLEfLITTLE BENTeUPdRING LITTLEcCLAWcCLAW FOUR FINGERS CONJOINED",
  "dINDEX THUMB CURVE THUMB INSIDEdMIDDLE RING LITTLE CONJOINEDgCONJOINED SIDEdNO THUMB",
  "dTHUMB FORWARDeSIDEcCUPcCUP FIVE FINGERS SPREADfSPREAD OPENdINDEXdINDEX RING LITTLEeTHUMB",
  "eTHUMB OPENdMIDDLE RING LITTLEdNO THUMBdOPENdOPEN NO THUMBeTHUMB FORWARDfSIDEdTHUMB FORWARD",
  "eSIDEcCURLICUEcCURLICUE INDEX RING LITTLE ONdMIDDLE RING LITTLE ONdOPENcFIST",
  "cFIST FOUR FINGERS CONJOINED BENTdHEELdINDEXdINDEX BENTeBENT OVER MIDDLEeCUPPEDeHINGED",
  "eHINGED LOWfMIDDLE UPgUP THUMB SIDEeMIDDLEeMIDDLE BENTfBENT THUMB STRAIGHTfCONJOINED",
  "fCONJOINED CUPPEDgCUPPED THUMB FORWARDgHINGEDgHINGED THUMB SIDEgINDEX BENTgMIDDLE BENT",
  "gTHUMB FORWARDhSIDEhSIDE BENTiCONJOINEDfCROSS LITTLEfCROSSEDfCROSSED THUMB SIDEfHINGED",
  "fHINGED SPREAD THUMB SIDEfLITTLEfRAISED KNUCKLESfRINGfRING BENTgCONJOINEDfSTRAIGHT THUMB BENT",
  "fTHUMBfTHUMB ANGLEDgANGLED OUTgBENTgCIRCLEDgCONJOINED HINGEDgCUPPEDgHINGEDgHOOKED",
  "fUP SPREAD THUMB FORWARDeRAISED KNUCKLEeRING LITTLEeTHUMB ANGLED IN MIDDLE UPgOUT MIDDLE UP",
  "fCIRCLEfCIRCLED MIDDLE UPfCUPPED MIDDLE UPfCURLICUEfCURVE THUMB INSIDEhUNDERfFORWARD INDEX BENT",
  "hSTRAIGHTfHOOKfHOOKED MIDDLE HINGEDhUPfSIDEfSIDE BOTH BENTgINDEX BENThHINGEgTHUMB BENT",
  "hCONJOINEDhDIAGONALeUP MIDDLE HINGEDgHINGED THUMB CONJOINEDiSIDEdLITTLE BENTeDOWN",
  "eDOWN OTHERS CIRCLEDfRIPPLE CURVEDgSTRAIGHTeINDEXeINDEX THUMBeRAISED KNUCKLEeTHUMB",
  "eTOUCHES THUMBeUPdMIDDLE BENT OVER INDEXeDOWNeLITTLEeRAISED KNUCKLEeRING LITTLE",
  "eTHUMB ANGLED INDEX UPgOUT INDEX CROSSEDiUPfCIRCLED INDEX HINGEDhUPfCUPPED INDEX UP",
  "fHOOKED INDEX UPfLITTLEeUPeUP THUMB SIDEdRING DOWNeINDEXeLITTLEeMIDDLEeMIDDLE CONJOINED",
  "fRAISED KNUCKLESeRAISED KNUCKLEeTHUMBeUPdTHUMBdTHUMB BETWEEN INDEX MIDDLEgMIDDLE STRAIGHT",
  "fMIDDLE RINGfRING LITTLEeFORWARDeHEELeOVER FOUR RAISED KNUCKLESfTWO FINGERSeSIDE BENTfCONJOINED",
  "fDIAGONALeUNDER FOUR FINGERSfINDEX BENTfLITTLE UPfTHREE FINGERSfTWO FINGERScFLAT",
  "cFLAT BETWEEN PALM FACINGSdFIVE FINGERS SPREADfSPREAD BENTgFOUR BENTgHINGEDgHINGED NO THUMB",
  "hTHUMB SIDEgTHUMB FORWARDdFOUR FINGERSeFINGERS BENTfCONJOINEDfCONJOINED SPLITfHINGEDdHEEL",
  "dHEEL FIVE FINGERS SPREADgSPREAD BENThFOUR BENTeTHUMB SIDEdSPLIT CENTREeCENTRE THUMB SIDE",
  "gSIDE BENTeINDEX THUMB SIDEeLITTLEdTHUMB BENTeFORWARDeSIDEcHINGEcHINGE FIVE FINGERS SPREAD OPEN",
  "dFOUR FINGERS CONJOINEDdINDEXdINDEX HINGEDeMIDDLE LITTLEfRINGfRING CONJOINEDeRING LITTLEeTHUMB",
  "eTHUMB LARGEfOPENfSIDEfSMALLdLITTLEdLITTLE INDEXeINDEX THUMBeTHUMBdMIDDLEdMIDDLE RING LITTLE",
  "dNO THUMBdOPENdOPEN NO THUMBeTHUMB FORWARDfSIDEdRINGdRING DOWN INDEX THUMB HOOK MIDDLEdSMALL",
  "dTHUMB BETWEEN MIDDLE RINGeSIDEeSIDE TOUCHING INDEXcHOOKcHOOK CURLICUEdINDEX RING LITTLE INgOUT",
  "gUNDERdMIDDLE RING LITTLE CONJOINEDgCONJOINED INhOUTeTHUMBdRING THUMBcOVAL",
  "cOVAL FIVE FINGERS SPREADdINDEXdLITTLE UPdNO THUMBdRING LITTLEdTHUMB FORWARDeSIDEbHEAD",
  "bHEAD MOVEMENT CIRCLEcMOVEMENT-FLOORPLANE CURVEeSTRAIGHTdWALLPLANE CURVEeSTRAIGHTeTILTcRIM",
  "bLIMB COMBINATIONcLENGTH-1d2d3d4d5d6d7bLIP LOWER OVER UPPERcUPPER OVER LOWER",
  "bLIPS PRESSED TOGETHERbLOCATION DEPTHcHEAD NECKcHEIGHTcLIMBS DIGITScTORSOcWIDTH",
  "bLOCATION-FLOORPLANE SPACEcWALLPLANE SPACEbMOUTH CLOSED CONTACTdFORWARDdNEUTRALcCORNERScFROWN",
  "cFROWN OPENdWRINKLEDcKISScKISS FORWARDdWRINKLEDcOPEN CIRCLEdFORWARDdOVALdOVAL WRINKLEDeYAWN",
  "dRECTANGLEdRECTANGLE WRINKLEDeYAWNdWRINKLEDcSMILEcSMILE OPENdWRINKLEDcTENSEcTENSE FORWARD",
  "dSUCKEDcWRINKLES DOUBLEdSINGLEbMOVEMENT-DIAGONAL AWAY LARGEeLARGESTeMEDIUMeSMALL",
  "dBETWEEN AWAY LARGEfLARGESTfMEDIUMfSMALLeTOWARDS LARGEfLARGESTfMEDIUMfSMALLdTOWARDS LARGE",
  "eLARGESTeMEDIUMeSMALLcFLOORPLANE ARM CIRCLE HITTING WALL LARGE DOUBLEiSINGLEhMEDIUM DOUBLE",
  "iSINGLEhSMALL DOUBLEiSINGLEdBENDdBOX LARGEeMEDIUMeSMALLdCHECKdCORNER LARGEeMEDIUMeSMALLdCROSS",
  "dCURVE COMBINEDeHITTING CEILING LARGEgSMALLfFLOOR LARGEgSMALLeLARGEeLARGESTeMEDIUMeSMALL",
  "dDOUBLE ALTERNATINGeALTERNATING WRIST FLEXeSTRAIGHTeWRIST FLEX",
  "dFINGER CIRCLES HITTING WALL DOUBLEhSINGLEeCONTACTdHUMP HITTING CEILING LARGE DOUBLEhTRIPLE",
  "gSMALL DOUBLEhTRIPLEfFLOOR LARGE DOUBLEgSMALL DOUBLEgTRIPLE LARGE TRIPLEhSMALL TRIPLEeSMALLdJAW",
  "dLOOP HITTING CEILING LARGE DOUBLEhSINGLEgSMALL DOUBLEhSINGLEfFLOOR LARGE DOUBLEhSINGLE",
  "gSMALL DOUBLEhSINGLEeSMALLdPEAKS LARGEeMEDIUMeSMALLdSHAKING PARALLELdSINGLE STRAIGHT LARGE",
  "fLARGESTfMEDIUMfSMALLeWRIST FLEXdTRIPLE ALTERNATING MOVEMENTfWRIST FLEXeSTRAIGHT MOVEMENT",
  "eWRIST FLEXdWAVE HITTING CEILING LARGEgSMALLfFLOOR LARGEgSMALLeLARGEeSMALLeSNAKE",
  "dWRIST CIRCLE HITTING WALL DOUBLEhSINGLEdZIGZAG LARGEeMEDIUMeSMALLcHINGE DOWN SEQUENTIAL",
  "dSIDE TO SIDE SCISSORSdUP DOWN ALTERNATING LARGEgSMALLfLARGEfSMALLeSEQUENTIAL",
  "cWALLPLANE ARM CIRCLE MEDIUM DOUBLEgSINGLEfSMALL DOUBLEgSINGLEdBEND LARGEeMEDIUMeSMALL",
  "dBOX LARGEeMEDIUMeSMALLdCHECK LARGEeMEDIUMeSMALLdCORNER LARGEeMEDIUMeROTATIONeSMALLdCROSS",
  "dCURVE HALF-CIRCLE LARGEgLARGESTgMEDIUMgSMALLeHITTING CHESTfFRONT WALLeQUARTER LARGEfLARGEST",
  "fMEDIUMfSMALLeTHEN STRAIGHTeTHREE-QUARTER CIRCLE MEDIUMhSMALLdCURVED CROSS MEDIUMfSMALL",
  "dDOUBLE ALTERNATINGeALTERNATING WRIST FLEXeSTRAIGHTeWRIST FLEXdFINGER CIRCLES DOUBLEfSINGLE",
  "eCONTACTdHUMP HITTING CHESTfFRONT WALLeLARGEeMEDIUMeSMALLdJAWdLOOP HITTING CHESTfFRONT WALL",
  "eLARGEeMEDIUMeSMALLeSMALL DOUBLEdPEAKS LARGEeMEDIUMeSMALLdSHAKINGdSINGLE STRAIGHT LARGEfLARGEST",
  "fMEDIUMfSMALLeWRIST FLEXdTRIPLE ALTERNATINGeALTERNATING WRIST FLEXeSTRAIGHT MOVEMENTeWRIST FLEX",
  "dWAVE CURVE DOUBLE LARGEgMEDIUMgSMALLfTRIPLE LARGEgMEDIUMgSMALLeDIAGONAL PATH LARGEgMEDIUM",
  "gSMALLeHITTING CHESTfFRONT WALLdWRIST CIRCLE FRONT DOUBLEgSINGLEdZIGZAG LARGEeMEDIUMeSMALLbNECK",
  "bNOSE CONTACTcNEUTRALcWIGGLEScWRINKLESbPARENTHESISbROTATION MODIFIER-10d11d12d13d14d15d16d2d3d4",
  "d5d6d7d8d9bROTATION-FLOORPLANE ALTERNATINGdALTERNATING HITTING CEILINGfFLOORdDOUBLE",
  "dDOUBLE HITTING CEILINGfFLOORdSINGLEdSINGLE HITTING CEILINGfFLOORcWALLPLANE ALTERNATE",
  "dALTERNATING HITTING CHESTfFRONT WALLdDOUBLEdDOUBLE HITTING CHESTfFRONT WALLdSINGLE",
  "dSINGLE HITTING CHESTfFRONT WALLbRUB BETWEENcMULTIPLEcSINGLEbSEMICOLONbSHOULDER HIP POSITIONS",
  "dSPINEcTILTING FROM WAISTbSQUEEZE FLICK ALTERNATINGcLARGE MULTIPLEdSINGLEcSEQUENTIAL",
  "cSMALL MULTIPLEdSINGLEbSTRIKE BETWEENcMULTIPLEcSINGLEbSURFACE BETWEENcSYMBOLSbTEETH",
  "bTEETH BITE LIPScMOVEMENTcON LIPSdLIPS MOVEMENTdTONGUEdTONGUE MOVEMENTbTENSE CHEEKS HIGHdLOW",
  "dMIDDLEbTONGUE CENTRE INSIDE MOUTHdSTICKING OUTcINSIDE MOUTH RELAXEDcLICKING LIPS",
  "cMOVES AGAINST CHEEKcSTICKING OUT FARcTIP BETWEEN LIPSdTOUCHING INSIDE MOUTH",
  "bTORSO-FLOORPLANE TWISTINGcWALLPLANE CURVED BENDdSTRAIGHT STRETCHbTOUCH BETWEENcMULTIPLEcSINGLE",
  "bTRAVEL-FLOORPLANE ROTATION-FLOORPLANE ALTERNATINGfDOUBLEfSINGLEeWALLPLANE ALTERNATINGfDOUBLE",
  "fSINGLEdSHAKINGcWALLPLANE ARM SPIRAL DOUBLEfSINGLEfTRIPLEdROTATION-FLOORPLANE ALTERNATING",
  "fDOUBLEfSINGLEeWALLPLANE ALTERNATINGfDOUBLEfSINGLEdSHAKINGbUPPER BODY TILTING FROM HIP JOINTS",
  "bWALLPLANE SHOULDER HIP MOVEaSILHOUETTE OF JAPANaSIMILAR ABOVE GREATER-THAN ABOVE EQUALS SIGN",
  "cLESS-THAN ABOVE EQUALS SIGNbMINUS SIMILARbOR GREATER-THANcLESS-THANaSINE WAVE",
  "aSINGLE CHARACTER INTRODUCERbGRAPHIC CHARACTER INTRODUCERbHIGH-REVERSED-9 QUOTATION MARK",
  "bLEFT-POINTING ANGLE QUOTATION MARKbLOW-9 QUOTATION MARKbRIGHT-POINTING ANGLE QUOTATION MARK",
  "bSHIFT THREEcTWOaSINGLE-SHIFT-2c3aSINHALA ARCHAIC DIGIT EIGHTdFIVEdFOURdNINEdONEdSEVENdSIX",
  "dTHREEdTWOcNUMBER EIGHTYdFIFTYdFORTYdNINETYdONE HUNDREDeTHOUSANDdSEVENTYdSIXTYdTENdTHIRTY",
  "dTWENTYbLETTER AAYANNAcAEEYANNAcAEYANNAcAIYANNAcALPAPRAANA BAYANNAdCAYANNAdDAYANNAdDDAYANNA",
  "dGAYANNAdJAYANNAdKAYANNAdPAYANNAdTAYANNAdTTAYANNAcAMBA BAYANNAcAUYANNAcAYANNAcDANTAJA LAYANNA",
  "dNAYANNAdSAYANNAcEEYANNAcEYANNAcFAYANNAcHAYANNAcIIYANNAcILUUYANNAcILUYANNAcIRUUYANNAcIRUYANNA",
  "cIYANNAcKANTAJA NAASIKYAYAcMAHAAPRAANA BAYANNAdCAYANNAdDAYANNAdDDAYANNAdGAYANNAdJAYANNAdKAYANNA",
  "dPAYANNAdTAYANNAdTTAYANNAcMAYANNAcMUURDHAJA LAYANNAdNAYANNAdSAYANNAcOOYANNAcOYANNAcRAYANNA",
  "cSANYAKA DAYANNAdDDAYANNAdGAYANNAdJAYANNAcTAALUJA NAASIKYAYAdSANYOOGA NAAKSIKYAYAdSAYANNA",
  "cUUYANNAcUYANNAcVAYANNAcYAYANNAbLITH DIGIT EIGHTdFIVEdFOURdNINEdONEdSEVENdSIXdTHREEdTWOdZERO",
  "bPUNCTUATION KUNDDALIYAbSIGN AL-LAKUNAcANUSVARAYAcCANDRABINDUcVISARGAYAbVOWEL SIGN AELA-PILLA",
  "dDIGA AEDA-PILLAeGAETTA-PILLAeGAYANUKITTAeIS-PILLAeKOMBUVAePAA-PILLAdGAETTA-PILLAdGAYANUKITTA",
  "dKETTI AEDA-PILLAeIS-PILLAePAA-PILLAdKOMBU DEKAdKOMBUVAdKOMBUVA HAA AELA-PILLAfDIGA AELA-PILLA",
  "fGAYANUKITTAaSIX PETALLED BLACK AND WHITE FLORETTEbPOINTED BLACK STARcPINWHEEL STAR",
  "cSTAR WITH MIDDLE DOTaSIX-PER-EM SPACEaSIXTEEN POINTED ASTERISKaSKATEBOARDaSKI AND SKI BOOT",
  "aSKIERaSKULLaSKULL AND CROSSBONESaSKUNKaSLANTED EQUAL TO OR GREATER-THANfTHAN WITH DOT INSIDE",
  "eLESS-THANfTHAN WITH DOT INSIDEbNORTH ARROW WITH HOOKED HEADeHORIZONTAL TAILaSLAVONIC ASTERISK",
  "aSLEDaSLEEPING ACCOMMODATIONbFACEbSYMBOLaSLEEPY FACEaSLEUTH OR SPYaSLICE OF PIZZA",
  "aSLIGHTLY FROWNING FACEbSMILING FACEaSLOPEaSLOPING LARGE ANDcORaSLOT MACHINEaSLOTH",
  "aSMALL AIRPLANEbAMPERSANDbASTERISKbBLUE DIAMONDbCOLONbCOMMAbCOMMERCIAL ATbCONTAINS AS MEMBER",
  "cWITH OVERBARdVERTICAL BAR AT END OF HORIZONTAL STROKEbDOLLAR SIGNbELEMENT OFcOF WITH OVERBAR",
  "eVERTICAL BAR AT END OF HORIZONTAL STROKEbEM DASHbEQUALS SIGNbEXCLAMATION MARKbFULL STOP",
  "bGREATER-THAN SIGNbHYPHEN-MINUSbIDEOGRAPHIC COMMAbLEFT CURLY BRACKETcPARENTHESIS",
  "cTORTOISE SHELL BRACKETbLESS-THAN SIGNbNUMBER SIGNbORANGE DIAMONDbPERCENT SIGNbPLUS SIGN",
  "bQUESTION MARKbREVERSE SOLIDUSbRIGHT CURLY BRACKETcPARENTHESIScTORTOISE SHELL BRACKET",
  "bROMAN NUMERAL EIGHTdELEVENdFIFTYdFIVEdFIVE HUNDREDdFOURdNINEdONEdONE HUNDREDeTHOUSANDdSEVEN",
  "dSIXdTENdTHREEdTWELVEdTWObSEMICOLONbTILDEbTWO DOTS OVER ONE DOT PUNCTUATIONbVEE WITH UNDERBAR",
  "aSMALLER THANbTHAN OR EQUAL TOaSMASH PRODUCTaSMILEaSMILING CAT FACE WITH HEART-SHAPED EYES",
  "eOPEN MOUTHbFACE WITH HALOdHEART-SHAPED EYESdHORNSdOPEN MOUTHeMOUTH AND COLD SWEATgSMILING EYES",
  "gTIGHTLY-CLOSED EYESdSMILING EYESeEYES AND HAND COVERING MOUTHgTHREE HEARTSdSUNGLASSESdTEAR",
  "aSMIRKING FACEaSMOKING SYMBOLaSNAILaSNAKEaSNEEZING FACEaSNOW CAPPED MOUNTAINaSNOWBOARDER",
  "aSNOWFLAKEaSNOWMANaSNOWMAN WITHOUT SNOWaSOaSOCCER BALLaSOCKSaSOFT HYPHENbICE CREAM",
  "bSHELL FLOPPY DISKaSOFTBALLaSOFTWARE-FUNCTION SYMBOLaSOGDIAN COMBINING CURVE ABOVEdBELOW",
  "cDOT ABOVEdBELOWcHOOK ABOVEdBELOWcLONG HOOK BELOWcRESH BELOWcSTROKE BELOWcTWO DOTS ABOVEeBELOW",
  "bINDEPENDENT SHINbLETTER ALEPHcAYINcBETHcFETHcGIMELcHEcHETHcKAPHcLAMEDHcLESHcMEMcNUNcPE",
  "cRESH-AYINcSADHEcSAMEKHcSHINcTAWcWAWcYODHcZAYINbNUMBER ONEcONE HUNDREDcTENcTWENTY",
  "bPUNCTUATION CIRCLE WITH DOTcHALF CIRCLE WITH DOTcTWO CIRCLES WITH DOTSdVERTICAL BARS",
  "eBARS WITH DOTSaSOHaSOLID QUILT SQUARE ORNAMENTdORNAMENT IN BLACK SQUAREaSOLIDUS",
  "aSOLIDUS WITH OVERBARaSOM SIGNaSOON WITH RIGHTWARDS ARROW ABOVEaSORA SOMPENG DIGIT EIGHTdFIVE",
  "dFOURdNINEdONEdSEVENdSIXdTHREEdTWOdZEROcLETTER AHdBAHdCAHdDAHdEEHdEHdGAHdHAHdIHdJAHdKAHdLAHdMAE",
  "dMAHdNAHdNGAHdNYAHdOHdPAHdRAHdSAHdTAHdUHdVAHdYAHaSOSaSOUND RECORDING COPYRIGHTaSOUTH EAST ARROW",
  "cARROW AND SOUTH WEST ARROWdCROSSING NORTH EAST ARROWdTO CORNERdWITH HOOKcBLACK ARROW",
  "cDOUBLE ARROWcPOINTING BUDdLEAFdVINE LEAFcSANS-SERIF ARROWcTRIANGLE-HEADED ARROWeARROW TO BAR",
  "cWHITE ARROWbWEST ARROWcARROW AND NORTH WEST ARROWdWITH HOOKcBLACK ARROWcDOUBLE ARROW",
  "cPOINTING BUDdLEAFdVINE LEAFcSANS-SERIF ARROWcTRIANGLE-HEADED ARROWeARROW TO BARcWHITE ARROW",
  "aSOYOMBO CLUSTER-INITIAL LETTER LAeRAeSAeSHAbFINAL CONSONANT SIGN -AeBeDeGeKeLeMeNeNGeReSeSH",
  "bGEMINATION MARKbHEAD MARK WITH MOON AND SUNgSUN AND FLAMEiTRIPLE FLAMEbLETTER -AcAcBAcBHAcCA",
  "cCHAcDAcDDAcDDHAcDHAcDZAcGAcGHAcHAcJAcJHAcKAcKHAcKSSAcLAcMAcNAcNGAcNNAcNYAcPAcPHAcRAcSAcSHAcSSA",
  "cTAcTHAcTSAcTSHAcTTAcTTHAcVAcYAcZAcZHAbMARK DOUBLE SHADcPLUTAcSHADcTSHEGbSIGN ANUSVARA",
  "cJIHVAMULIYAcUPADHMANIYAcVISARGAbSUBJOINERbTERMINAL MARK-1d2bVOWEL LENGTH MARKcSIGN AIdAUdEdIdO",
  "dOEdUdUEdVOCALIC LeRaSPaSPAaSPACEaSPAGHETTIaSPARKLEaSPARKLESaSPARKLING HEART",
  "aSPEAK-NO-EVIL MONKEYaSPEAKERaSPEAKER WITH CANCELLATION STROKEcONE SOUND WAVEcTHREE SOUND WAVES",
  "aSPEAKING HEAD IN SILHOUETTEaSPEECH BALLOONaSPEEDBOATaSPESMILO SIGNaSPHERICAL ANGLE",
  "bANGLE OPENING LEFTdUPaSPIDERaSPIDER WEBaSPIRAL CALENDAR PADbNOTE PADbSHELL",
  "aSPLASHING SWEAT SYMBOLaSPONGEaSPOOL OF THREADaSPOONaSPORTS MEDALaSPOUTING WHALE",
  "aSQUARE A OVER MbAARUbAMbANPEAbAPAATObARUHUAbAUbBAARERUbBARbBEETAbBIRUbBORUTObBQbBUSSYERU",
  "bC OVER KGbCALbCAPbCCbCDbCMbCM CUBEDcSQUAREDbCObCORPORATIONbCUPbDAbDAASUbDBbDESIbDJbDLbDM",
  "bDM CUBEDcSQUAREDbDORUbEEKAAbERA NAME HEISEIdMEIZIdREIWAdSYOUWAdTAISYOUbERGbESUKUUDObEVbFMbFOOT",
  "bFOUR CORNERSbGALbGANMAbGARONbGBbGHZbGIGAbGINIIbGIRUDAAbGPAbGURAMUbGURAMUTONbGYbHAbHAITU",
  "bHEKUTAARUbHERUTUbHGbHIRAGANA HOKAbHONbHOONbHOORUbHPbHPAbHUARADDObHUIITObHURANbHZbIMAGE OF",
  "cOF OR EQUAL TOeNOT EQUAL TObINbININGUbINTIbIUbK OHMbKAbKAIRIbKARATTObKARORIIbKBbKCALbKEESUbKG",
  "bKHZbKIRObKIROGURAMUbKIROMEETORUbKIROWATTObKKbKLbKMbKM CAPITALcCUBEDcSQUAREDbKOOPObKORUNAbKPA",
  "bKTbKUROONEbKURUZEIRObKVbKWbKYURIIbLEFT OPEN BOX OPERATORbLMbLNbLOGbLOZENGEbLXbM CUBEDcOHM",
  "cOVER SdS SQUAREDcSQUAREDbMAbMAHHAbMAIKURObMAIRUbMANSYONbMARUKUbMBbMB SMALLbMEETORUbMEGA",
  "bMEGATONbMGbMHZbMIKURONbMILbMIRIbMIRIBAARUbMLbMMbMM CUBEDcSQUAREDbMOLbMPAbMSbMU AcFcGcLcMcScVcW",
  "bMVbMV MEGAbMWbMW MEGAbNAbNANObNFbNMbNOTTObNSbNVbNWbONSUbOOMUbORIGINAL OFcOF OR EQUAL TO",
  "eNOT EQUAL TObOVbPAbPA AMPSbPAASENTObPAATUbPCbPEEZIbPENIHIbPENSUbPESObPFbPHbPIASUTORUbPIKO",
  "bPIKURUbPMbPOINTObPONDObPOSITION INDICATORbPPMbPRbPSbPVbPWbRADbRAD OVER SdS SQUAREDbREMU",
  "bRENTOGENbRIGHT OPEN BOX OPERATORbRIRAbRITTORUbROOTbRUPIIbRUUBURUbSAIKURUbSANTIIMUbSENTIbSENTO",
  "bSIRINGUbSRbSVbTARGETbTHZbTONbUONbV OVER MbWATTObWBbWITH BOTTOM HALF BLACKcCONTOURED OUTLINE",
  "cDIAGONAL CROSSHATCH FILLcHORIZONTAL FILLcLEFT HALF BLACKcLOWER LEFT DIAGONAL HALF BLACK",
  "dRIGHT DIAGONAL HALF BLACKcORTHOGONAL CROSSHATCH FILLcRIGHT HALF BLACKcTOP HALF BLACK",
  "cUPPER LEFT DIAGONAL HALF BLACKeTO LOWER RIGHT FILLdRIGHT DIAGONAL HALF BLACK",
  "eTO LOWER LEFT FILLcVERTICAL FILLbYAADObYAARUbYUANaSQUARED ASTERISKbCJK UNIFIED IDEOGRAPH-4E00",
  "e4E09e4E2De4E8Ce4EA4e518De521De524De5272e53CCe53F3e5408e5439e55B6e58F0e591Ae5929e5B57e5DE6e5F8C",
  "e624Be6253e6295e6307e6355e6599e65B0e6620e6708e6709e6E80e6F14e7121e751Fe7533e7981e7A7Ae7D42e89E3",
  "e8CA9e8D70e904Ae914DbCLbCOOLbDOT OPERATORbEIGHT KbFALLING DIAGONAL SLASHbFIVE POINT ONE",
  "bFOUR DOT PUNCTUATIONcKbFREEbHCbHDRbHI-RESbHVbIDbKATAKANA DEcKOKOcSAbKEYbLATIN CAPITAL LETTER A",
  "eBeCeDeEeFeGeHeIeJeKeLeMeNeOePeQeReSeTeUeVeWeXeYeZcSMALL LETTER DbLOGICAL ANDcORbLOSSLESSbMINUS",
  "bMVbNEWbNGbOKbONE HUNDRED TWENTY PbPLUSbPPVbRISING DIAGONAL SLASHbSALTIREbSDbSECOND SCREEN",
  "bSEVEN POINT ONEbSHVbSIXTY PbSMALL CIRCLEbSOSbSQUAREbSSbTHREE DbTIMESbTWENTY-TWO POINT TWO",
  "bTWO KbUHDbUP WITH EXCLAMATION MARKbVODbVSbWCaSQUAT BLACK RIGHTWARDS ARROWaSQUIDaSS2aSS3aSSAaST",
  "aSTADIUMaSTAFF OF AESCULAPIUScHERMESaSTAMPED ENVELOPEaSTANDING PERSONaSTAR AND CRESCENTbEQUALS",
  "bOF DAVIDbOPERATORbWITH LEFT HALF BLACKcRIGHT HALF BLACKaSTART OF GUARDED AREAcHEADING",
  "cPROTECTED AREAcSELECTED AREAcSTRINGcTEXTaSTATIONaSTATUE OF LIBERTYaSTEAM LOCOMOTIVE",
  "aSTEAMING BOWLaSTENOGRAPHIC FULL STOPaSTETHOSCOPEaSTICK FIGUREbFIGURE LEANING LEFTdRIGHT",
  "cWITH ARMS RAISEDdDRESSaSTOCK CHARTaSTOPWATCHaSTRAIGHT RULERaSTRAIGHTNESSaSTRAWBERRY",
  "aSTRESS OUTLINED WHITE STARaSTRICTLY EQUIVALENT TOaSTRING TERMINATORaSTSaSTUDIO MICROPHONE",
  "aSTUFFED FLATBREADaSTUPAaSTXaSUBaSUBSCRIPT EIGHTbEQUALS SIGNbFIVEbFOURbLEFT PARENTHESISbMINUS",
  "bNINEbONEbPLUS SIGNbRIGHT PARENTHESISbSEVENbSIXbTHREEbTWObZEROaSUBSET ABOVE RIGHTWARDS ARROW",
  "cSUBSETcSUPERSETbOFbOF ABOVE ALMOST EQUAL TOdEQUALS SIGNdNOT EQUAL TOdTILDE OPERATOR",
  "cOR EQUAL TOeTO WITH DOT ABOVEcWITH NOT EQUAL TObWITH DOTcMULTIPLICATION SIGN BELOW",
  "cPLUS SIGN BELOWaSUBSTITUTEaSUCCEEDSaSUCCEEDS ABOVE ALMOST EQUAL TOcEQUALS SIGN",
  "cNOT ALMOST EQUAL TOdEQUAL TOcSINGLE-LINE EQUALS SIGNeNOT EQUAL TObBUT NOT EQUIVALENT TO",
  "bOR EQUAL TOcEQUIVALENT TObUNDER RELATIONaSUMMATION BOTTOMbTOPbWITH INTEGRALaSUN",
  "aSUN BEHIND CLOUDbWITH FACEaSUNDANESE AVAGRAHAbCONSONANT SIGN PAMINGKALdPANYAKRAdPANYIKU",
  "dPASANGAN MAeWAbDIGIT EIGHTcFIVEcFOURcNINEcONEcSEVENcSIXcTHREEcTWOcZERObLETTER AcAEcBAcBHAcCA",
  "cDAcEcEUcFAcFINAL KdMcGAcHAcIcJAcKAcKHAcLAcLEUcMAcNAcNGAcNYAcOcPAcQAcRAcREUcSAcSYAcTAcUcVAcWA",
  "cXAcYAcZAbPUNCTUATION BINDU BA SATANGAdCAKRAdDA SATANGAdKA SATANGAdLEU SATANGAdPANGLONGdPURNAMA",
  "dSURYAbSIGN PAMAAEHcPANGLAYARcPANGWISADcPANYECEKcVIRAMAbVOWEL SIGN PAMEPETdPANAELAENG",
  "dPANEULEUNGdPANGHULUdPANOLONGdPANYUKUaSUNFLOWERaSUNRISEaSUNRISE OVER MOUNTAINS",
  "aSUNSET OVER BUILDINGSaSUPERHEROaSUPERSCRIPT EIGHTbEQUALS SIGNbFIVEbFOURbLATIN SMALL LETTER IeN",
  "bLEFT PARENTHESISbMINUSbNINEbONEbPLUS SIGNbRIGHT PARENTHESISbSEVENbSIXbTHREEbTWObZERO",
  "aSUPERSET ABOVE LEFTWARDS ARROWcSUBSETcSUPERSETbBESIDE AND JOINED BY DASH WITH SUBSETcSUBSETbOF",
  "bOF ABOVE ALMOST EQUAL TOdEQUALS SIGNdNOT EQUAL TOdTILDE OPERATORcOR EQUAL TOeTO WITH DOT ABOVE",
  "cWITH NOT EQUAL TObPRECEDING SOLIDUSbWITH DOTcMULTIPLICATION SIGN BELOWcPLUS SIGN BELOW",
  "aSUPERVILLAINaSURFACE INTEGRALaSURFERaSUSHIaSUSPENSION RAILWAYaSWANaSWASH AMPERSAND ORNAMENT",
  "aSWIMMERaSWUNG DASHaSYLOTI NAGRI LETTER AdBHOdBOdCHOdCOdDDHOdDDOdDHOdDOdEdGHOdGOdHOdIdJHOdJO",
  "dKHOdKOdLOdMOdNOdOdPHOdPOdROdRROdSOdTHOdTOdTTHOdTTOdUcPOETRY MARK-1e2e3e4",
  "cSIGN ALTERNATE HASANTAdANUSVARAdDVISVARAdHASANTAcVOWEL SIGN AeEeIeOOeUaSYMBOL FOR ACKNOWLEDGE",
  "cBACKSPACEcBELLcCANCELcCARRIAGE RETURNcDATA LINK ESCAPEcDELETEcDELETE FORM TWO",
  "cDEVICE CONTROL FOUReONEeTHREEeTWOcEND OF MEDIUMeTEXTeTRANSMISSIONeTRANSMISSION BLOCKcENQUIRY",
  "cESCAPEcFILE SEPARATORcFORM FEEDcGROUP SEPARATORcHORIZONTAL TABULATIONcLINE FEEDcMARKS CHAPTER",
  "cNEGATIVE ACKNOWLEDGEcNEWLINEcNULLcRECORD SEPARATORcSAMARITAN SOURCEcSHIFT INdOUTcSPACE",
  "cSTART OF HEADINGeTEXTcSUBSTITUTEcSUBSTITUTE FORM TWOcSYNCHRONOUS IDLEcTYPE A ELECTRONICS",
  "cUNIT SEPARATORcVERTICAL TABULATIONaSYMMETRYaSYNaSYNAGOGUEaSYNCHRONOUS IDLE",
  "aSYRIAC ABBREVIATION MARKbBARREKHbCOLON SKEWED LEFTdRIGHTbCONTRACTIONbDOTTED ZLAMA ANGULAR",
  "dHORIZONTALbEND OF PARAGRAPHbESASA ABOVEcBELOWbFEMININE DOTbHARKLEAN ASTERISCUScMETOBELUS",
  "cOBELUSbHBASA ABOVEcBELOWbHBASA-ESASA DOTTEDbHORIZONTAL COLONbLETTER ALAPHcBETHcDALATH",
  "cDOTLESS DALATH RISHcEcFINAL SEMKATHcGAMALcGAMAL GARSHUNIcHEcHETHcKAPHcLAMADHcMALAYALAM BHAdJA",
  "dLLAdLLLAdNGAdNNAdNNNAdNYAdRAdSSAdTTAcMIMcNUNcPEcPERSIAN BHETHdDHALATHdGHAMALcQAPHcREVERSED PE",
  "cRISHcSADHEcSEMKATHcSHINcSOGDIAN FEdKHAPHdZHAINcSUPERSCRIPT ALAPHcTAWcTETHcTETH GARSHUNIcWAW",
  "cYUDHcYUDH HEcZAINbMUSICbOBLIQUE LINE ABOVEdBELOWbPTHAHA ABOVEcBELOWcDOTTEDbQUSHSHAYA",
  "bRBASA ABOVEcBELOWbRUKKAKHAbRWAHAbSUBLINEAR COLONcCOLON SKEWED LEFTeRIGHTcFULL STOP",
  "bSUPRALINEAR COLONcCOLON SKEWED LEFTcFULL STOPbTHREE DOTS ABOVEdBELOWbTWO VERTICAL DOTS ABOVE",
  "eBELOWbZQAPHA ABOVEcBELOWcDOTTEDaSYRINGE"]

def namesInT : List String := [
  "aT-REXbSHIRTaTABaTABLE TENNIS PADDLE AND BALLaTACOaTAG AMPERSANDbAPOSTROPHEbASTERISK",
  "bCIRCUMFLEX ACCENTbCOLONbCOMMAbCOMMERCIAL ATbDIGIT EIGHTcFIVEcFOURcNINEcONEcSEVENcSIXcTHREEcTWO",
  "cZERObDOLLAR SIGNbEQUALS SIGNbEXCLAMATION MARKbFULL STOPbGRAVE ACCENTbGREATER-THAN SIGN",
  "bHYPHEN-MINUSbLATIN CAPITAL LETTER AeBeCeDeEeFeGeHeIeJeKeLeMeNeOePeQeReSeTeUeVeWeXeYeZ",
  "cSMALL LETTER AeBeCeDeEeFeGeHeIeJeKeLeMeNeOePeQeReSeTeUeVeWeXeYeZbLEFT CURLY BRACKET",
  "cPARENTHESIScSQUARE BRACKETbLESS-THAN SIGNbLOW LINEbNUMBER SIGNbPERCENT SIGNbPLUS SIGN",
  "bQUESTION MARKbQUOTATION MARKbREVERSE SOLIDUSbRIGHT CURLY BRACKETcPARENTHESIScSQUARE BRACKET",
  "bSEMICOLONbSOLIDUSbSPACEbTILDEbVERTICAL LINEaTAGALOG LETTER AcARCHAIC RAcBAcDAcGAcHAcIcKAcLAcMA",
  "cNAcNGAcPAcRAcSAcTAcUcWAcYAbSIGN PAMUDPODcVIRAMAbVOWEL SIGN IdUaTAGBANWA LETTER AcBAcDAcGAcIcKA",
  "cLAcMAcNAcNGAcPAcSAcTAcUcWAcYAbVOWEL SIGN IdUaTAI LE LETTER AdAIdAUEdEdEEdEHdFAdHAdIdKAdKHAdLA",
  "dMAdNAdNGAdOdOOdPAdPHAdQAdSAdTAdTHAdTONE-2e3e4e5e6dTSAdTSHAdUdUEdVAdXAdYA",
  "bTHAM COMBINING CRYPTOGRAMMIC DOTcCONSONANT SIGN BAeFINAL NGAeHIGH RATHA OR LOW PAeLA TANG LAI",
  "eLOW PAeMAeMEDIAL LAfRAeSAcHORA DIGIT EIGHTeFIVEeFOUReNINEeONEeSEVENeSIXeTHREEeTWOeZERO",
  "cLETTER AdBAdDAdEEdGREAT SAdHIGH CAeCHAeFAeHAeKAeKHAeKXAePAePHAeRATHAeSAeSHAeSSAeTAeTHAeYAdIdII",
  "dLAdLAEdLLAdLOW CAeCHAeFAeHAeKAeKHAeKXAePAePHAeRATHAeSAeTAeTHAeYAdLUEdMAdNAdNGAdNYAdOOdRAdRANA",
  "dRATAdRUEdUdUUdWAcSIGN CAANGdDOKMAIdHANGdHOYdKAANdKAANKUUdKEOWdKHUEN TONE-3f4f5dKHUEN-LUE KARAN",
  "dMAI KANGeKANG LAIeSAMeYAMOKdRA HAAMdREVERSED ROTATED RANAdSAKOTdSATKAANdSATKAANKUUdSAWAN",
  "dTONE-1e2dWIANGdWIANGWAAKcTHAM DIGIT EIGHTeFIVEeFOUReNINEeONEeSEVENeSIXeTHREEeTWOeZERO",
  "cVOWEL SIGN AeAAeAEeAIeEeIeIIeMAI SATeOeOA ABOVEfBELOWeOOeOYeTALL AAeTHAM AIeUeUEeUUeUUE",
  "bVIET LETTER HIGH BOeCHOeCOeDOeFOeGOeHOeKHHOeKHOeKOeLOeMOeNGOeNOeNYOeOePHOePOeROeSOeTHOeTOeVO",
  "eYOdLOW BOeCHOeCOeDOeFOeGOeHOeKHHOeKHOeKOeLOeMOeNGOeNOeNYOeOePHOePOeROeSOeTHOeTOeVOeYOcMAI KANG",
  "dKHITcSYMBOL HO HOIdKOI KOIdKONdNUENGdSAMcTONE MAI EKeNUENGeSONGeTHOcVOWEL AAdAMdANdAUEdAYdEdI",
  "dIAdOdUdUAdUEdUEAaTAKEOUT BOXaTAKRI ABBREVIATION SIGNbDIGIT EIGHTcFIVEcFOURcNINEcONEcSEVENcSIX",
  "cTHREEcTWOcZERObLETTER AcAAcAIcARCHAIC KHAcAUcBAcBHAcCAcCHAcDAcDDAcDDHAcDHAcEcGAcGHAcHAcIcIIcJA",
  "cJHAcKAcKHAcLAcMAcNAcNGAcNNAcNYAcOcPAcPHAcRAcRRAcSAcSHAcTAcTHAcTTAcTTHAcUcUUcVAcYA",
  "bSIGN ANUSVARAcNUKTAcVIRAMAcVISARGAbVOWEL SIGN AAdAIdAUdEdIdIIdOdUdUUaTALLY MARK FIVEcONE",
  "aTAMALEaTAMIL AND ODD SIGNbAS ABOVE SIGNbAU LENGTH MARKbCREDIT SIGNbCURRENT SIGNbDAY SIGN",
  "bDEBIT SIGNbDIGIT EIGHTcFIVEcFOURcNINEcONEcSEVENcSIXcTHREEcTWOcZERObDRY CULTIVATION SIGN",
  "bFRACTION DOWNSCALING FACTOR KIIZHcONE EIGHTHdEIGHTIETHdFIFTHdFORTIETHdHALF-1e2",
  "dONE-HUNDRED-AND-SIXTIETHdQUARTERdSIXTEENTH-1e2dSIXTY-FOURTHdTENTHdTHIRTY-SECOND",
  "dTHREE-HUNDRED-AND-TWENTIETHdTWENTIETHcTHREE EIGHTIETHSdQUARTERSdSIXTEENTHSdSIXTY-FOURTHS",
  "dTWENTIETHSbIN POSSESSION SIGNbLAND SIGNbLETTER AcAAcAIcAUcCAcEcEEcHAcIcIIcJAcKAcLAcLLAcLLLAcMA",
  "cNAcNGAcNNAcNNNAcNYAcOcOOcPAcRAcRRAcSAcSHAcSSAcTAcTTAcUcUUcVAcYAbMONTH SIGNbNUMBER ONE HUNDRED",
  "dTHOUSANDcSIGNcTENbOMbPUNCTUATION END OF TEXTbRUPEE SIGNbSALT PAN SIGNbSIGN AAZHAAKKUcANUSVARA",
  "cCEVITUcKAACUcKURUNIcKUZHIcMUKKURUNIcMUTHALIYAcMUUVUZHAKKUcNELcPAARAMcPANAMcPATHAKKUcPON",
  "cUZHAKKUcVAKAIYARAAcVARAAKANcVELIcVIRAMAcVISARGAbSPENT SIGNbSTARTING FROM SIGNbTOTAL SIGN",
  "bTRADITIONAL CREDIT SIGNcNUMBER SIGNbVOWEL SIGN AAdAIdAUdEdEEdIdIIdOdOOdUdUU",
  "bWET CULTIVATION SIGNbYEAR SIGNaTANABATA TREEaTANGERINEaTANGSA DIGIT EIGHTcFIVEcFOURcNINEcONE",
  "cSEVENcSIXcTHREEcTWOcZERObLETTER ACcAQcAWCcAWQcAWXcAWZcAXcAZcBAcCAcCHAcDAcDHAcECcEQcEXcEZcFA",
  "cFINAL NGcGAcGHAcHAcHTAcHTTAcICcIQcIXcIZcKAcKHAcLAcLONG UEXcMAcMCcMQcMXcMZcNAcNGAcNHAcNYAcOCcOQ",
  "cOXcOZcPAcPHAcRAcSAcSHAcSHORT AWXdUEZcTAcTHAcTSAcUCcUECcUEQcUEXcUEZcUICcUIQcUIUCcUIUQcUIUXcUIUZ",
  "cUIXcUIZcUQcUXcUZcVCcVQcVXcVZcWAcXAcYAcZAaTANGUT COMPONENT-001c002c003c004c005c006c007c008c009",
  "c010c011c012c013c014c015c016c017c018c019c020c021c022c023c024c025c026c027c028c029c030c031c032",
  "c033c034c035c036c037c038c039c040c041c042c043c044c045c046c047c048c049c050c051c052c053c054c055",
  "c056c057c058c059c060c061c062c063c064c065c066c067c068c069c070c071c072c073c074c075c076c077c078",
  "c079c080c081c082c083c084c085c086c087c088c089c090c091c092c093c094c095c096c097c098c099c100c101",
  "c102c103c104c105c106c107c108c109c110c111c112c113c114c115c116c117c118c119c120c121c122c123c124",
  "c125c126c127c128c129c130c131c132c133c134c135c136c137c138c139c140c141c142c143c144c145c146c147",
  "c148c149c150c151c152c153c154c155c156c157c158c159c160c161c162c163c164c165c166c167c168c169c170",
  "c171c172c173c174c175c176c177c178c179c180c181c182c183c184c185c186c187c188c189c190c191c192c193",
  "c194c195c196c197c198c199c200c201c202c203c204c205c206c207c208c209c210c211c212c213c214c215c216",
  "c217c218c219c220c221c222c223c224c225c226c227c228c229c230c231c232c233c234c235c236c237c238c239",
  "c240c241c242c243c244c245c246c247c248c249c250c251c252c253c254c255c256c257c258c259c260c261c262",
  "c263c264c265c266c267c268c269c270c271c272c273c274c275c276c277c278c279c280c281c282c283c284c285",
  "c286c287c288c289c290c291c292c293c294c295c296c297c298c299c300c301c302c303c304c305c306c307c308",
  "c309c310c311c312c313c314c315c316c317c318c319c320c321c322c323c324c325c326c327c328c329c330c331",
  "c332c333c334c335c336c337c338c339c340c341c342c343c344c345c346c347c348c349c350c351c352c353c354",
  "c355c356c357c358c359c360c361c362c363c364c365c366c367c368c369c370c371c372c373c374c375c376c377",
  "c378c379c380c381c382c383c384c385c386c387c388c389c390c391c392c393c394c395c396c397c398c399c400",
  "c401c402c403c404c405c406c407c408c409c410c411c412c413c414c415c416c417c418c419c420c421c422c423",
  "c424c425c426c427c428c429c430c431c432c433c434c435c436c437c438c439c440c441c442c443c444c445c446",
  "c447c448c449c450c451c452c453c454c455c456c457c458c459c460c461c462c463c464c465c466c467c468c469",
  "c470c471c472c473c474c475c476c477c478c479c480c481c482c483c484c485c486c487c488c489c490c491c492",
  "c493c494c495c496c497c498c499c500c501c502c503c504c505c506c507c508c509c510c511c512c513c514c515",
  "c516c517c518c519c520c521c522c523c524c525c526c527c528c529c530c531c532c533c534c535c536c537c538",
  "c539c540c541c542c543c544c545c546c547c548c549c550c551c552c553c554c555c556c557c558c559c560c561",
  "c562c563c564c565c566c567c568c569c570c571c572c573c574c575c576c577c578c579c580c581c582c583c584",
  "c585c586c587c588c589c590c591c592c593c594c595c596c597c598c599c600c601c602c603c604c605c606c607",
  "c608c609c610c611c612c613c614c615c616c617c618c619c620c621c622c623c624c625c626c627c628c629c630",
  "c631c632c633c634c635c636c637c638c639c640c641c642c643c644c645c646c647c648c649c650c651c652c653",
  "c654c655c656c657c658c659c660c661c662c663c664c665c666c667c668c669c670c671c672c673c674c675c676",
  "c677c678c679c680c681c682c683c684c685c686c687c688c689c690c691c692c693c694c695c696c697c698c699",
  "c700c701c702c703c704c705c706c707c708c709c710c711c712c713c714c715c716c717c718c719c720c721c722",
  "c723c724c725c726c727c728c729c730c731c732c733c734c735c736c737c738c739c740c741c742c743c744c745",
  "c746c747c748c749c750c751c752c753c754c755c756c757c758c759c760c761c762c763c764c765c766c767c768",
  "bITERATION MARKaTAPE CARTRIDGEbDRIVEaTAURUSaTAXIaTEACUP WITHOUT HANDLEaTEAPOTaTEAR-OFF CALENDAR",
  "aTEARDROP-BARBED RIGHTWARDS ARROWbSPOKED ASTERISKaTEDDY BEARaTELEPHONE LOCATION SIGN",
  "bON TOP OF MODEMbRECEIVERbRECEIVER WITH PAGEbRECORDERbSIGNaTELESCOPEaTELEVISION",
  "aTELUGU AI LENGTH MARKbDIGIT EIGHTcFIVEcFOURcNINEcONEcSEVENcSIXcTHREEcTWOcZERO",
  "bFRACTION DIGIT ONE FOR EVEN POWERS OF FOURfODD POWERS OF FOURdTHREE FOR EVEN POWERS OF FOUR",
  "fODD POWERS OF FOURdTWO FOR EVEN POWERS OF FOURfODD POWERS OF FOURdZERO FOR ODD POWERS OF FOUR",
  "bLENGTH MARKbLETTER AcAAcAIcAUcBAcBHAcCAcCHAcDAcDDAcDDHAcDHAcDZAcEcEEcGAcGHAcHAcIcIIcJAcJHAcKA",
  "cKHAcLAcLLAcLLLAcMAcNAcNAKAARA POLLUcNGAcNNAcNYAcOcOOcPAcPHAcRAcRRAcRRRAcSAcSHAcSSAcTAcTHAcTSA",
  "cTTAcTTHAcUcUUcVAcVOCALIC LdLLdRdRRcYAbSIGN ANUSVARAcAVAGRAHAcCANDRABINDU",
  "cCOMBINING ANUSVARA ABOVEdCANDRABINDU ABOVEcNUKTAcSIDDHAMcTUUMUcVIRAMAcVISARGAbVOWEL SIGN AAdAI",
  "dAUdEdEEdIdIIdOdOOdUdUUdVOCALIC LeLLeReRRaTENGE SIGNaTENNIS RACQUET AND BALLaTENTaTEST TUBE",
  "aTETRAGRAM FOR ACCUMULATIONcADVANCEcAGGRAVATIONcASCENTcBARRIERcBOLD RESOLUTIONcBRANCHING OUT",
  "cCENTREcCHANGEcCLOSED MOUTHcCLOSENESScCLOSUREcCOMPLETIONcCOMPLIANCEcCONSTANCYcCONTACT",
  "cCONTENTIONcCONTRARIETYcDARKENINGcDECISIVENESScDEFECTIVENESS OR DISTORTIONcDEPARTURE",
  "cDIFFICULTIEScDIMINISHMENTcDIMMINGcDIVERGENCEcDOUBTcDUTIEScEASEcEMBELLISHMENTcENCOUNTERS",
  "cENDEAVOURcENLARGEMENTcETERNITYcEXHAUSTIONcFAILUREcFLIGHTcFOLLOWINGcFOSTERINGcFULL CIRCLE",
  "cFULLNESScGATHERINGcGATHERING INcGOING TO MEETcGREATNESScGUARDEDNESScHARDNESScHOLDING BACK",
  "cINCREASEcINNERcJOYcKEEPING SMALLcKINSHIPcLABOURINGcLAW OR MODELcLEGIONcMASSINGcMEASUREcMIRED",
  "cON THE VERGEcOPPOSITIONcPACKINGcPATTERNcPENETRATIONcPURITYcREACHcRELEASEcRESIDENCEcRESISTANCE",
  "cRESPONSEcRITUALcSEVERANCEcSINKINGcSTOPPAGEcSTOVEcSTRENGTHcUNITYcVASTNESS OR WASTINGcWAITING",
  "cWATCHcYOUTHFULNESSaTHAANA AABAAFILIbABAFILIbEBEFILIbEEBEEFILIbEYBEYFILIbIBIFILIbLETTER AINU",
  "cALIFUcBAAcCHAVIYANIcDAADHUcDAVIYANIcDHAALUcFAAFUcGAAFUcGHAINUcGNAVIYANIcHAAcHHAAcJAVIYANI",
  "cKAAFUcKHAAcLAAMUcLHAVIYANIcMEEMUcNAAcNOONUcPAVIYANIcQAAFUcRAAcSAADHUcSEENUcSHAVIYANIcSHEENU",
  "cTAVIYANIcTHAAcTHAALUcTOcTTAAcVAAVUcWAAVUcYAAcZAAcZAVIYANIcZObOABOAFILIbOBOFILIbOOBOOFILIbSUKUN",
  "bUBUFILIaTHAI CHARACTER ANGKHANKHUcBO BAIMAIcCHO CHANdCHANGdCHINGdCHOEcDO CHADAdDEKcFO FAdFAN",
  "cFONGMANcHO HIPdNOKHUKcKHO KHAIdKHONdKHUATdKHWAIdRAKHANGcKHOMUTcKO KAIcLAKKHANGYAOcLO CHULA",
  "dLINGcLUcMAI CHATTAWAdEKdHAN-AKATdTHOdTRIcMAITAIKHUcMAIYAMOKcMO MAcNGO NGUcNIKHAHITcNO NENdNU",
  "cO ANGcPAIYANNOIcPHINTHUcPHO PHANdPHUNGdSAMPHAOcPO PLAcRO RUAcRUcSARA AdAAdAEdAI MAIMALAI",
  "eMAIMUANdAMdEdIdIIdOdUdUEdUEEdUUcSO RUSIdSALAdSOdSUAcTHANTHAKHATcTHO NANGMONTHOdPHUTHAOdTHAHAN",
  "dTHANdTHONGdTHUNGcTO PATAKdTAOcWO WAENcYAMAKKANcYO YAKdYINGbCURRENCY SYMBOL BAHTbDIGIT EIGHT",
  "cFIVEcFOURcNINEcONEcSEVENcSIXcTHREEcTWOcZEROaTHERE DOES NOT EXISTbEXISTSaTHEREFORE",
  "aTHERMODYNAMICaTHERMOMETERaTHIN GREEK CROSSbSALTIREbSPACEaTHINKING FACEaTHIRD PLACE MEDAL",
  "aTHONG SANDALaTHOUGHT BALLOONaTHREE BUTTON MOUSEbCONSECUTIVE EQUALS SIGNSbDIMENSIONAL ANGLE",
  "bDOT PUNCTUATIONbLEFTWARDS ARROWSbLINES CONVERGING LEFTdRIGHTbNETWORKED COMPUTERS",
  "bPOINTED BLACK STARbRAYS ABOVEcBELOWcLEFTcRIGHTbRIGHTWARDS ARROWSbSPEECH BUBBLES",
  "aTHREE-D BOTTOM-LIGHTED RIGHTWARDS ARROWHEADcLEFT-LIGHTED DOWNWARDS EQUILATERAL ARROWHEAD",
  "cRIGHT-LIGHTED UPWARDS EQUILATERAL ARROWHEADcTOP-LIGHTED LEFTWARDS EQUILATERAL ARROWHEAD",
  "eRIGHTWARDS ARROWHEADfEQUILATERAL ARROWHEADbEM DASHbPER-EM SPACEaTHUMBS DOWN SIGNbUP SIGN",
  "aTHUNDER CLOUD AND RAINaTHUNDERSTORMaTIBETAN ASTROLOGICAL SIGN -KHYUD PAdSDONG TSHUGS",
  "dSGRA GCAN -CHAR RTAGSbCANTILLATION SIGN CANG TE-UdHEAVY BEATdLIGHT BEATdSBUB -CHALbDIGIT EIGHT",
  "cFIVEcFOURcHALF EIGHTdFIVEdFOURdNINEdONEdSEVENdSIXdTHREEdTWOdZEROcNINEcONEcSEVENcSIXcTHREEcTWO",
  "cZERObKU RU KHAdKHA BZHI MIG CANbLETTER -AcAcBAcBHAcCAcCHAcDAcDDAcDDHAcDHAcDZAcDZHA",
  "cFIXED-FORM RAcGAcGHAcHAcJAcKAcKHAcKKAcKSSAcLAcMAcNAcNGAcNNAcNYAcPAcPHAcRAcRRAcSAcSHAcSSAcTA",
  "cTHAcTSAcTSHAcTTAcTTHAcWAcYAcZAcZHAbLOGOTYPE SIGN CHAD RTAGSdLHAG RTAGSbMARK ANG KHANG GYAS",
  "eGYONcBKA- SHOG GI MGO RGYANfYIG MGOcBSDUS RTAGScBSKA- SHOG GI MGO RGYANcBSKUR YIG MGO",
  "cCARET -DZUD RTAGS BZHI MIG CANgME LONG CANdYIG MGO PHUR SHAD MAcCHE MGO",
  "cCLOSING BRDA RNYING YIG MGO SGAB MAdYIG MGO SGAB MAcDELIMITER TSHEG BSTARcGTER TSHEG",
  "dYIG MGO -UM GTER TSHEG MAhRNAM BCAD MAfTRUNCATED AcGUG RTAGS GYASeGYONcHALANTA",
  "cINITIAL BRDA RNYING YIG MGO MDUN MAdYIG MGO MDUN MAcINTERSYLLABIC TSHEGcLEADING MCHAN RTAGS",
  "cMNYAM YIG GI MGO RGYANcNGAS BZUNG NYI ZLAeSGOR RTAGScNYIS SHADdTSHEGdTSHEG SHADcPALUTA",
  "cRGYA GRAM SHADcRIN CHEN SPUNGS SHADcSBRUL SHADcSHADcTRAILING MCHAN RTAGScTSA -PHRUcTSHEG SHAD",
  "cYIG MGO TSHEG SHAD MAbSIGN GRU CAN RGYINGSdMED RGYINGScINVERTED MCHU CANcLCE TSA CANcLCI RTAGS",
  "cMAR TSHEScMCHU CANcNYI ZLA NAA DAcRDEL DKAR GCIGeGNYISeGSUMeRDEL NAGdNAG GCIGeGNYISeGSUM",
  "eRDEL DKARcRJES SU NGA ROcRNAM BCADcSNA LDANcYANG RTAGScYAR TSHESbSUBJOINED LETTER -AdAdBAdBHA",
  "dCAdCHAdDAdDDAdDDHAdDHAdDZAdDZHAdFIXED-FORM RAfWAfYAdGAdGHAdHAdJAdKAdKHAdKSSAdLAdMAdNAdNGAdNNA",
  "dNYAdPAdPHAdRAdSAdSHAdSSAdTAdTHAdTSAdTSHAdTTAdTTHAdWAdYAdZAdZHAcSIGN INVERTED MCHU CAN",
  "dLCE TSA CANdMCHU CANbSYLLABLE OMbSYMBOL DRIL BUcNOR BUdBU BZHI -KHYILeGSUM -KHYILeNYIS -KHYIL",
  "cPADMA GDANcPHUR PAcRDO RJEdRJE RGYA GRAMbVOWEL SIGN AAdEdEEdIdIIdOdOOdREVERSED IeIIdUdUU",
  "dVOCALIC LeLLeReRRaTICKETaTIE OVER INFINITYaTIFINAGH CONSONANT JOINERbLETTER AHAGGAR YAZH",
  "cAYER YAGHcBERBER ACADEMY YAHeYAJcTAWELLEMET YAZcTUAREG YAGHdYAGNdYAHdYAKdYAKHdYANGdYAQdYAZHcYA",
  "cYAAcYABcYABHcYACHcYADcYADDcYADDHcYADHcYAFcYAGcYAGHcYAGHHcYAHcYAHHcYAJcYAKcYAKHcYAKHHcYALcYAM",
  "cYANcYAPcYAQcYARcYARRcYAScYASHcYASScYATcYATHcYATTcYAVcYAWcYAYcYAZcYAZHcYAZZcYEcYEYcYIcYOcYU",
  "bMODIFIER LETTER LABIALIZATION MARKbSEPARATOR MARKaTIGERaTIGER FACEaTIGHT TRIFOLIATE SNOWFLAKE",
  "aTILDEaTILDE OPERATORbOPERATOR ABOVE LEFTWARDS ARROWdRIGHTWARDS ARROWcWITH DOT ABOVE",
  "dRISING DOTSbWITH DOT ABOVEdBELOWcRING ABOVEaTIMER CLOCKaTIMES WITH LEFT HALF BLACK",
  "cRIGHT HALF BLACKaTINYaTINY TWO DOTS OVER ONE DOT PUNCTUATIONaTIRED FACE",
  "aTIRHUTA ABBREVIATION SIGNbANJIbDIGIT EIGHTcFIVEcFOURcNINEcONEcSEVENcSIXcTHREEcTWOcZERObGVANG",
  "bLETTER AcAAcAIcAUcBAcBHAcCAcCHAcDAcDDAcDDHAcDHAcEcGAcGHAcHAcIcIIcJAcJHAcKAcKHAcLAcMAcNAcNGA",
  "cNNAcNYAcOcPAcPHAcRAcSAcSHAcSSAcTAcTHAcTTAcTTHAcUcUUcVAcVOCALIC LdLLdRdRRcYAbOMbSIGN ANUSVARA",
  "cAVAGRAHAcCANDRABINDUcNUKTAcVIRAMAcVISARGAbVOWEL SIGN AAdAIdAUdEdIdIIdOdSHORT EeOdUdUU",
  "dVOCALIC LeLLeReRRaTIRONIAN SIGN CAPITAL ETcETaTOILETaTOKYO TOWERaTOMATOaTONGUEaTOOLBOXaTOOTH",
  "aTOOTHBRUSHaTOP ARC ANTICLOCKWISE ARROWdARROW WITH PLUScCLOCKWISE ARROW WITH MINUS",
  "bCURLY BRACKETbHALF BLACK CIRCLEcINTEGRALcLEFT PARENTHESIScRIGHT PARENTHESIScSECTION SIGNbHAT",
  "bLEFT CORNERcCROPcHALF BRACKETbPARENTHESISbRIGHT CORNERcCROPcHALF BRACKETbSQUARE BRACKET",
  "bTORTOISE SHELL BRACKETbWITH UPWARDS ARROW ABOVE",
  "aTORTOISE SHELL BRACKETED CJK UNIFIED IDEOGRAPH-4E09g4E8Cg52DDg5B89g6253g6557g672Cg70B9g76D7",
  "dLATIN CAPITAL LETTER SaTOTAL RUNOUTaTOTO LETTER AcAEcBAcBREATHY AEdEdEOdIdIUcCHAcDAcEcEOcGAcHA",
  "cIcIUcJAcKAcLAcMAcNAcNGAcOcPAcRAcSAcTAcUcWAcYAbSIGN RISING TONEaTRACKBALLaTRACTOR",
  "aTRADE MARK SIGNaTRAINaTRAMaTRAM CARaTRANSPLUTOaTRANSVERSAL INTERSECTION",
  "aTRIANGLE WITH DOT ABOVEcROUNDED CORNERScSERIFS AT BOTTOMcUNDERBAR",
  "aTRIANGLE-HEADED RIGHTWARDS ARROWaTRIANGULAR BULLETbFLAG ON POSTbRULERaTRICOLONaTRIDENT EMBLEM",
  "aTRIGRAM FOR EARTHcFIREcHEAVENcLAKEcMOUNTAINcTHUNDERcWATERcWINDaTRIPLE COLON OPERATORbDAGGER",
  "bHORIZONTAL BAR WITH DOUBLE VERTICAL STROKEeTRIPLE VERTICAL STROKEbINTEGRALbNESTED GREATER-THAN",
  "cLESS-THANbPLUSbPRIMEbSOLIDUS BINARY RELATIONbTILDEbVERTICAL BAR BINARY RELATIONdDELIMITER",
  "dRIGHT TURNSTILEdWITH HORIZONTAL STROKEaTROLLaTROLLEYBUSaTROPHYaTROPICAL DRINKbFISHaTRUE",
  "aTRUE LIGHT MOON ARTAaTRUMPETaTUGRIK SIGNaTULIPaTUMBLER GLASSaTURKEYaTURKISH LIRA SIGN",
  "aTURNED AMPERSANDbANGLEbBLACK PENTAGONcSHOGI PIECEbCAPITAL FbCOMMAbDAGGERbDIGIT THREEcTWO",
  "bGREEK SMALL LETTER IOTAbNORTH EAST POINTING LEAFcWEST POINTING LEAFbNOT SIGNbOK HAND SIGN",
  "bSANS-SERIF CAPITAL GeLeYbSEMICOLONbSMALL FbSOUTH EAST POINTING LEAFcWEST POINTING LEAF",
  "bWHITE SHOGI PIECEaTURTLEaTWELVE POINTED BLACK STARaTWISTED RIGHTWARDS ARROWS",
  "aTWO ASTERISKS ALIGNED VERTICALLYbBUTTON MOUSEbCONSECUTIVE EQUALS SIGNSbDOT LEADERcPUNCTUATION",
  "bDOTS OVER ONE DOT PUNCTUATIONbHEARTSbINTERSECTING LOGICAL ANDdORbJOINED SQUARES",
  "bLOGICAL AND OPERATORcOR OPERATORbMEN HOLDING HANDSbSPEECH BUBBLESbWOMEN HOLDING HANDS",
  "aTWO-EM DASH"]

def namesInU : List String := [
  "aUGARITIC LETTER AINcALPAcBETAcDELTAcDHALcGAMLAcGHAINcHOcHOTAcIcKAFcKHAcLAMDAcMEMcNUNcPUcQOPA",
  "cRASHAcSADEcSAMKAcSHINcSSUcTETcTHANNAcTOcUcWOcYODcZETAcZUbWORD DIVIDERaUMBRELLA",
  "aUMBRELLA ON GROUNDbWITH RAIN DROPSaUNAMUSED FACEaUNCERTAINTY SIGNaUNDERTIEaUNDO SYMBOL",
  "aUNICORN FACEaUNIONaUNION ABOVE BAR ABOVE INTERSECTIONcINTERSECTION",
  "bBESIDE AND JOINED WITH UNIONbWITH LOGICAL ORcMINUS SIGNcOVERBARaUNIT SEPARATORaUNITED SYMBOL",
  "aUNIVERSAL RECYCLING SYMBOLaUNMARRIED PARTNERSHIP SYMBOLaUP ARROW THROUGH CIRCLEbARROWHEAD",
  "bARROWHEAD BETWEEN TWO HORIZONTAL BARScIN A RECTANGLE BOXbBARB LEFT DOWN BARB LEFT HARPOON",
  "fRIGHT HARPOONcRIGHT DOWN BARB LEFT HARPOONfRIGHT HARPOONbDOWN ARROWcARROW WITH BASE",
  "cBLACK ARROWcDOUBLE ARROWcSANS-SERIF ARROWcTRIANGLE-HEADED ARROWcWHITE ARROWbFISH TAIL",
  "bRIGHT DIAGONAL ELLIPSISbTACKbTACK WITH CIRCLE ABOVEaUP-POINTING AIRPLANEcMILITARY AIRPLANE",
  "cRED TRIANGLEcSMALL AIRPLANEdRED TRIANGLEcTRIANGLE WITH LEFT HALF BLACKeRIGHT HALF BLACK",
  "aUPPER AND LEFT AND LOWER TRIANGULAR THREE QUARTERS BLOCKcLOWER ONE EIGHTH BLOCK",
  "dTRIANGULAR HALF BLOCKcRIGHT AND LOWER TRIANGULAR THREE QUARTERS BLOCKbBLADE SCISSORS",
  "bFIVE EIGHTHS BLOCKbHALF BLOCKcBLOCK AND LOWER HALF INVERSE MEDIUM SHADEcCIRCLE",
  "cINVERSE MEDIUM SHADE AND LOWER HALF BLOCKdWHITE CIRCLEcMEDIUM SHADE",
  "bLEFT BLOCK DIAGONAL LOWER CENTRE TO LOWER MIDDLE RIGHThUPPER MIDDLE RIGHTiRIGHT",
  "fLEFT TO LOWER MIDDLE RIGHThUPPER CENTREiMIDDLE RIGHTfMIDDLE LEFT TO UPPER CENTREjMIDDLE RIGHT",
  "jRIGHTeUPPER MIDDLE LEFT TO UPPER CENTREjRIGHTcCORNER WITH DOT",
  "cOR LOWER RIGHT CURLY BRACKET SECTIONcQUADRANT CIRCULAR ARCcTO LOWER RIGHT FILLcTRIANGLE",
  "cTRIANGULAR MEDIUM SHADEbONE EIGHTH BLOCKcQUARTER BLOCK",
  "bRIGHT BLOCK DIAGONAL LOWER MIDDLE LEFT TO LOWER CENTREjRIGHT",
  "eUPPER CENTRE TO LOWER MIDDLE RIGHTiRIGHThUPPER MIDDLE RIGHTfLEFT TO LOWER CENTREiMIDDLE RIGHT",
  "hUPPER MIDDLE RIGHTfMIDDLE LEFT TO LOWER CENTREjMIDDLE RIGHTjRIGHTcDROP-SHADOWED WHITE SQUARE",
  "cOR LOWER LEFT CURLY BRACKET SECTIONcPENCILcQUADRANT CIRCULAR ARCcSHADOWED WHITE CIRCLEeSQUARE",
  "cTO LOWER LEFT FILLcTRIANGLEcTRIANGULAR MEDIUM SHADEbSEVEN EIGHTHS BLOCKbTHREE EIGHTHS BLOCK",
  "cQUARTERS BLOCKbTRIANGULAR ONE QUARTER BLOCKaUPSIDE-DOWN FACEaUPWARDS ANCORAbARROW",
  "bARROW AND RIGHT ONE EIGHTH BLOCKcFROM BARcLEFTWARDS OF DOWNWARDS ARROWcTO BAR",
  "cWITH DOUBLE STROKEdEQUILATERAL ARROWHEADdHORIZONTAL STROKEdLARGE TRIANGLE ARROWHEAD",
  "dMEDIUM TRIANGLE ARROWHEADdNOTCHED TAILdSMALL EQUILATERAL ARROWHEADeTRIANGLE ARROWHEAD",
  "dTIP LEFTWARDSeRIGHTWARDSbBLACK ARROWcCIRCLED WHITE ARROWbCOMPRESSED ARROWbDASHED ARROW",
  "bDOUBLE ARROWbFINGER-POST ARROWbHARPOON WITH BARB LEFT BESIDE DOWNWARDS HARPOON WITH BARB RIGHT",
  "gUPWARDS HARPOON WITH BARB RIGHTfFROM BARfTO BAReLEFTWARDSeRIGHT FROM BARfTO BAReRIGHTWARDS",
  "bHEAVY ARROWcCOMPRESSED ARROWbPAIRED ARROWSbQUADRUPLE ARROWbROCKETbSANS-SERIF ARROW",
  "bSQUARED ARROWbTRIANGLE ARROWHEADbTRIANGLE-HEADED ARROW",
  "dARROW LEFTWARDS OF DOWNWARDS TRIANGLE-HEADED ARROWeTO BAReWITH BOLD SHAFT",
  "fDOUBLE HORIZONTAL STROKEfHEAVY SHAFTfLONG TIP LEFTWARDShRIGHTWARDSfMEDIUM SHAFTfNARROW SHAFT",
  "fVERY HEAVY SHAFTdDASHED ARROWdPAIRED ARROWSbTRIPLE ARROWbTWO HEADED ARROW",
  "bTWO-HEADED ARROW FROM SMALL CIRCLEeWITH TRIANGLE ARROWHEADSbWHITE ARROWcARROW FROM BAR",
  "eBAR WITH HORIZONTAL BARdON PEDESTALePEDESTAL WITH HORIZONTAL BARgVERTICAL BAR",
  "dWITHIN TRIANGLE ARROWHEADcDOUBLE ARROWdARROW ON PEDESTALaURANUSaUS"]

def namesInV : List String := [
  "aVAI COMMAbDIGIT EIGHTcFIVEcFOURcNINEcONEcSEVENcSIXcTHREEcTWOcZERObFULL STOPbQUESTION MARK",
  "bSYLLABLE AcANcBAcBEcBEEcBHAcBHEcBHEEcBHIcBHOcBHOOcBHUcBIcBOcBOOcBUcCAcCEcCEEcCIcCOcCOOcCUcDA",
  "cDEcDEEcDHAcDHEcDHEEcDHHAcDHHEcDHHEEcDHHIcDHHOcDHHOOcDHHUcDHIcDHOcDHOOcDHUcDIcDOcDOOcDUcEcEE",
  "cEENcENcFAcFEcFEEcFIcFOcFOOcFUcGAcGBAcGBEcGBEEcGBENcGBIcGBOcGBONcGBOOcGBUcGEcGEEcGENcGIcGOcGOO",
  "cGUcHAcHANcHEcHEEcHENcHIcHINcHOcHONcHOOcHUcHUNcIcINcJAcJEcJEEcJIcJOcJOOcJUcKAcKANcKEcKEEcKIcKO",
  "cKOOcKPAcKPANcKPEcKPEEcKPENcKPIcKPOcKPOOcKPUcKUcLAcLEcLEEcLENGTHENERcLIcLOcLOOcLUcMAcMBAcMBE",
  "cMBEEcMBIcMBOcMBOOcMBUcMEcMEEcMGBAcMGBEcMGBEEcMGBIcMGBOcMGBOOcMGBUcMIcMOcMOOcMUcNAcNDAcNDEcNDEE",
  "cNDIcNDOcNDOLE DOdFAdKAdMAdSOOcNDOOcNDUcNEcNEEcNGcNGANcNGENcNGGAcNGGEcNGGEEcNGGENcNGGIcNGGO",
  "cNGGOOcNGGUcNGONcNIcNJAcNJEcNJEEcNJIcNJOcNJOOcNJUcNOcNOOcNUcNYAcNYEcNYEEcNYIcNYOcNYOOcNYUcOcON",
  "cOOcOONcPAcPEcPEEcPIcPOcPOOcPUcRAcREcREEcRIcROcROOcRUcSAcSEcSEEcSHAcSHEcSHEEcSHIcSHOcSHOOcSHU",
  "cSIcSOcSOOcSUcTAcTEcTEEcTHAcTHEcTHEEcTHIcTHOcTHOOcTHUcTIcTOcTOOcTUcUcUNcVAcVEcVEEcVIcVOcVOOcVU",
  "cWAcWANcWEcWEEcWEENcWENcWIcWINcWOcWONcWOOcWOONcWUcWUNcYAcYEcYEEcYIcYOcYOOcYUcZAcZEcZEEcZHAcZHE",
  "cZHEEcZHIcZHOcZHOOcZHUcZIcZOcZOOcZUbSYMBOL BANGcDANGcDO-OcDOONGcFAAcFEENGcJONGcKEENGcKUNGcNII",
  "cTAAcTINGcTONGaVAMPIREaVARIATION SELECTOR-1c10c100c101c102c103c104c105c106c107c108c109c11c110",
  "c111c112c113c114c115c116c117c118c119c12c120c121c122c123c124c125c126c127c128c129c13c130c131c132",
  "c133c134c135c136c137c138c139c14c140c141c142c143c144c145c146c147c148c149c15c150c151c152c153c154",
  "c155c156c157c158c159c16c160c161c162c163c164c165c166c167c168c169c17c170c171c172c173c174c175c176",
  "c177c178c179c18c180c181c182c183c184c185c186c187c188c189c19c190c191c192c193c194c195c196c197c198",
  "c199c2c20c200c201c202c203c204c205c206c207c208c209c21c210c211c212c213c214c215c216c217c218c219c22",
  "c220c221c222c223c224c225c226c227c228c229c23c230c231c232c233c234c235c236c237c238c239c24c240c241",
  "c242c243c244c245c246c247c248c249c25c250c251c252c253c254c255c256c26c27c28c29c3c30c31c32c33c34c35",
  "c36c37c38c39c4c40c41c42c43c44c45c46c47c48c49c5c50c51c52c53c54c55c56c57c58c59c6c60c61c62c63c64",
  "c65c66c67c68c69c7c70c71c72c73c74c75c76c77c78c79c8c80c81c82c83c84c85c86c87c88c89c9c90c91c92c93",
  "c94c95c96c97c98c99aVECTOR OR CROSS PRODUCTaVEDIC SIGN ANUSVARA ANTARGOMUKHAdBAHIRGOMUKHA",
  "dUBHAYATO MUKHAdVAMAGOMUKHAdVAMAGOMUKHA WITH TAILcARDHAVISARGAcATIKRAMA",
  "cDOUBLE ANUSVARA ANTARGOMUKHAcHEXIFORM LONG ANUSVARAcJIHVAMULIYAcLONG ANUSVARAcNIHSHVASA",
  "cREVERSED VISARGA ANUDATTAeUDATTAcROTATED ARDHAVISARGAcRTHANG LONG ANUSVARAcTIRYAKcUPADHMANIYA",
  "cVISARGA ANUDATTAdANUDATTA WITH TAILdSVARITAdUDATTAdUDATTA WITH TAILcYAJURVEDIC MIDLINE SVARITA",
  "bTONE ATHARVAVEDIC INDEPENDENT SVARITAcCANDRA ABOVEdBELOWcDOT BELOWcDOUBLE RING ABOVEdSVARITA",
  "cKARSHANAcKATHAKA ANUDATTAcPRENKHAcRIGVEDIC KASHMIRI INDEPENDENT SVARITAcRING ABOVEcSHARA",
  "cTHREE DOTS BELOWcTRIPLE SVARITAcTWO DOTS BELOWcYAJURVEDIC AGGRAVATED INDEPENDENT SVARITA",
  "dINDEPENDENT SVARITAdKATHAKA INDEPENDENT SVARITAfSVARITA SCHROEDERaVERSICLE",
  "aVERTICAL BAR BESIDE RIGHT TRIANGLEcDOUBLE LEFT TURNSTILEcTRIPLE RIGHT TURNSTILE",
  "cWITH HORIZONTAL STROKEbELLIPSISbFOUR DOTSbIDEOGRAPHIC ITERATION MARKbKANA REPEAT MARK",
  "dMARK LOWER HALFeUPPER HALFdWITH VOICED SOUND MARKgMARK UPPER HALFbLINEbLINE EXTENSION",
  "cWITH CIRCLE ABOVEeBELOWdMIDDLE DOTbMALE WITH STROKE SIGNbONE EIGHTH BLOCK-2e3e4e5e6e7bSIX DOTS",
  "bTAB KEYbTABULATIONbTABULATION SETbTILDEbTRAFFIC LIGHTbZIGZAG LINEaVERY BOLD GREEK CROSS",
  "bHEAVY EIGHT POINTED BLACK STARdSPOKED ASTERISKcFIVE SPOKED ASTERISKcGREEK CROSS",
  "cREVERSE SOLIDUScSALTIREcSIX SPOKED ASTERISKcSOLIDUScWHITE CIRCLEdSQUAREbMUCH GREATER-THAN",
  "cLESS-THANaVESTAaVIBRATION MODEaVICTORY HANDaVIDEO CAMERAbGAMEaVIDEOCASSETTE",
  "aVIETNAMESE ALTERNATE READING MARK CAeNHAYaVIEWDATA SQUAREaVIOLINaVIRGO",
  "aVITHKUQI CAPITAL LETTER AdBBEdBEdCEdCHEdDEdDHEdEdEIdFEdGAdHAdHHAdIdIJEdJEdKAdLAdLLAdMEdNEdNJE",
  "dOdPEdQAdREdSEdSHEdTEdTHEdUdVEdXEdYdZEbSMALL LETTER AdBBEdBEdCEdCHEdDEdDHEdEdEIdFEdGAdHAdHHAdI",
  "dIJEdJEdKAdLAdLLAdMEdNEdNJEdOdPEdQAdREdSEdSHEdTEdTHEdUdVEdXEdYdZEaVOIDED GREEK CROSSaVOLCANO",
  "aVOLLEYBALLaVOLUME INTEGRALaVS1aVS10aVS100aVS101aVS102aVS103aVS104aVS105aVS106aVS107aVS108",
  "aVS109aVS11aVS110aVS111aVS112aVS113aVS114aVS115aVS116aVS117aVS118aVS119aVS12aVS120aVS121aVS122",
  "aVS123aVS124aVS125aVS126aVS127aVS128aVS129aVS13aVS130aVS131aVS132aVS133aVS134aVS135aVS136aVS137",
  "aVS138aVS139aVS14aVS140aVS141aVS142aVS143aVS144aVS145aVS146aVS147aVS148aVS149aVS15aVS150aVS151",
  "aVS152aVS153aVS154aVS155aVS156aVS157aVS158aVS159aVS16aVS160aVS161aVS162aVS163aVS164aVS165aVS166",
  "aVS167aVS168aVS169aVS17aVS170aVS171aVS172aVS173aVS174aVS175aVS176aVS177aVS178aVS179aVS18aVS180",
  "aVS181aVS182aVS183aVS184aVS185aVS186aVS187aVS188aVS189aVS19aVS190aVS191aVS192aVS193aVS194aVS195",
  "aVS196aVS197aVS198aVS199aVS2aVS20aVS200aVS201aVS202aVS203aVS204aVS205aVS206aVS207aVS208aVS209",
  "aVS21aVS210aVS211aVS212aVS213aVS214aVS215aVS216aVS217aVS218aVS219aVS22aVS220aVS221aVS222aVS223",
  "aVS224aVS225aVS226aVS227aVS228aVS229aVS23aVS230aVS231aVS232aVS233aVS234aVS235aVS236aVS237aVS238",
  "aVS239aVS24aVS240aVS241aVS242aVS243aVS244aVS245aVS246aVS247aVS248aVS249aVS25aVS250aVS251aVS252",
  "aVS253aVS254aVS255aVS256aVS26aVS27aVS28aVS29aVS3aVS30aVS31aVS32aVS33aVS34aVS35aVS36aVS37aVS38",
  "aVS39aVS4aVS40aVS41aVS42aVS43aVS44aVS45aVS46aVS47aVS48aVS49aVS5aVS50aVS51aVS52aVS53aVS54aVS55",
  "aVS56aVS57aVS58aVS59aVS6aVS60aVS61aVS62aVS63aVS64aVS65aVS66aVS67aVS68aVS69aVS7aVS70aVS71aVS72",
  "aVS73aVS74aVS75aVS76aVS77aVS78aVS79aVS8aVS80aVS81aVS82aVS83aVS84aVS85aVS86aVS87aVS88aVS89aVS9",
  "aVS90aVS91aVS92aVS93aVS94aVS95aVS96aVS97aVS98aVS99aVTaVTSaVULCANUSaVULGAR FRACTION FIVE EIGHTHS",
  "dSIXTHScFOUR FIFTHScONE EIGHTHdFIFTHdHALFdNINTHdQUARTERdSEVENTHdSIXTHdTENTHdTHIRDcSEVEN EIGHTHS",
  "cTHREE EIGHTHSdFIFTHSdQUARTERScTWO FIFTHSdTHIRDScZERO THIRDS"]

def namesInW : List String := [
  "aWAFFLEaWANCHO DIGIT EIGHTcFIVEcFOURcNINEcONEcSEVENcSIXcTHREEcTWOcZERObLETTER AcAAcAANcAANGcANG",
  "cAUcBAcCAcDAcEcENcFAcGAcHAcIcINGcJAcKAcKHAcLAcLLHAcMAcNAcNGAcNYAcOcONcONGcPAcPHAcRAcSAcSHAcTA",
  "cTHAcTRAcTSAcUcUENcVAcWAcYAcYIHcZAbNGUN SIGNbTONE KOIcKOINIcTUPcTUPNI",
  "aWANING CRESCENT MOON SYMBOLbGIBBOUS MOON SYMBOLaWARANG CITI CAPITAL LETTER AeAMeANGeATeBUeDAeE",
  "eENNeENYeGAeHAReHIYOeHOLOeHORReIIeKOeNGAAeNUNGeOeODDePUeSIIeSSUUeTTEeUCeUUeVIYOeWIeYAeYOeYUeYUJ",
  "cDIGIT EIGHTdFIVEdFOURdNINEdONEdSEVENdSIXdTHREEdTWOdZEROcNUMBER EIGHTYdFIFTYdFORTYdNINETY",
  "dSEVENTYdSIXTYdTENdTHIRTYdTWENTYcOMcSMALL LETTER AeAMeANGeATeBUeDAeEeENNeENYeGAeHAReHIYOeHOLO",
  "eHORReIIeKOeNGAAeNUNGeOeODDePUeSIIeSSUUeTTEeUCeUUeVIYOeWIeYAeYOeYUeYUJaWARNING SIGNaWASTEBASKET",
  "aWATCHaWATER BUFFALObCLOSETbPOLObWAVEaWATERMELONaWAVE ARROW POINTING DIRECTLY LEFTeRIGHTbDASH",
  "aWAVING BLACK FLAGbHAND SIGNbWHITE FLAGaWAVY DASHbLINEbLOW LINEbOVERLINE",
  "aWAXING CRESCENT MOON SYMBOLbGIBBOUS MOON SYMBOLaWEARY CAT FACEbFACEaWEDDING",
  "aWEDGE-TAILED RIGHTWARDS ARROWaWEIERSTRASS ELLIPTIC FUNCTIONaWEIGHT LIFTERaWEST SYRIAC CROSS",
  "aWHALEaWHEELaWHEEL OF DHARMAaWHEELCHAIR SYMBOLaWHITE ARROW SHAFT WIDTH ONEeTWO THIRDSbBULLET",
  "bCHESS BISHOPcBISHOP ROTATED NINETY DEGREESeTWO HUNDRED SEVENTY DEGREEScEQUIHOPPER",
  "cEQUIHOPPER ROTATED NINETY DEGREEScKINGcKING ROTATED NINETY DEGREESeTWO HUNDRED SEVENTY DEGREES",
  "cKNIGHTcKNIGHT ROTATED FORTY-FIVE DEGREESeNINETY DEGREESeONE HUNDRED THIRTY-FIVE DEGREES",
  "eTHREE HUNDRED FIFTEEN DEGREESeTWO HUNDRED SEVENTY DEGREESgTWENTY-FIVE DEGREEScKNIGHT-BISHOP",
  "dQUEENdROOKcPAWNcPAWN ROTATED NINETY DEGREESeTWO HUNDRED SEVENTY DEGREEScQUEEN",
  "cQUEEN ROTATED NINETY DEGREESeTWO HUNDRED SEVENTY DEGREEScROOKcROOK ROTATED NINETY DEGREES",
  "eTWO HUNDRED SEVENTY DEGREEScTURNED BISHOPdKINGdKNIGHTdPAWNdQUEENdROOKbCIRCLE",
  "bCIRCLE CONTAINING BLACK SMALL CIRCLEcWITH DOT RIGHTdDOWN ARROWdLOWER LEFT QUADRANT",
  "eRIGHT QUADRANTdTWO DOTSdUPPER LEFT QUADRANTeRIGHT QUADRANTbCLUB SUITbCONCAVE-SIDED DIAMOND",
  "dDIAMOND WITH LEFTWARDS TICKfRIGHTWARDS TICKbDIAMONDbDIAMOND CONTAINING BLACK MEDIUM DIAMOND",
  "eSMALL DIAMONDeVERY SMALL DIAMONDcIN SQUAREcSUITcWITH CENTRED DOTbDOWN POINTING BACKHAND INDEX",
  "dINDEXdLEFT HAND INDEXbDOWN-POINTING SMALL TRIANGLEdTRIANGLEbDRAUGHTS KINGcMAN",
  "bEXCLAMATION MARK ORNAMENTbFLAGbFLAG WITH HORIZONTAL MIDDLE BLACK STRIPEbFLORETTEbFLOWER",
  "bFOUR POINTED CUSPdSTARbFROWNING FACEbHARD SHELL FLOPPY DISKbHEARTbHEART SUITbHEAVY CHECK MARK",
  "cSALTIRE WITH ROUNDED CORNERSbHEXAGONbHORIZONTAL ELLIPSEbHOURGLASSbLARGE SQUAREbLATIN CROSS",
  "bLEFT LANE MERGEcPOINTING BACKHAND INDEXdINDEXbLEFT-POINTING POINTERdSMALL TRIANGLEdTRIANGLE",
  "bLOZENGE CONTAINING BLACK SMALL LOZENGEbMEDIUM DIAMONDcLOZENGEcSMALL SQUAREcSQUAREcSTAR",
  "bMOON SELENAbNIBbPARALLELOGRAMbPENNANTbPENTAGONbQUESTION MARK ORNAMENTbRECTANGLE",
  "bRIGHT POINTING BACKHAND INDEXdINDEXbRIGHT-POINTING PENTAGONdPOINTERdSMALL TRIANGLEdTRIANGLE",
  "bSCISSORSbSESAME DOTbSHOGI PIECEbSMALL LOZENGEcSQUAREcSTARbSMILING FACEbSPADE SUITbSQUARE",
  "bSQUARE BUTTONcCONTAINING BLACK MEDIUM SQUAREeSMALL SQUAREeVERY SMALL SQUARE",
  "cWITH CENTRE VERTICAL LINEdLEFTWARDS TICKdLOWER LEFT QUADRANTeRIGHT QUADRANTdRIGHTWARDS TICK",
  "dROUNDED CORNERSdUPPER LEFT QUADRANTeRIGHT QUADRANTdVERTICAL BISECTING LINEbSTARbSUN",
  "bSUN BEHIND CLOUDdCLOUD WITH RAINcWITH RAYSdSMALL CLOUDbTELEPHONEbTOUCHTONE TELEPHONEbTRAPEZIUM",
  "bTRIANGLE CONTAINING SMALL WHITE TRIANGLEbTWO-WAY LEFT WAY TRAFFICbUP POINTING BACKHAND INDEX",
  "dINDEXbUP-POINTING CHEVRONdSMALL TRIANGLEdTRIANGLEdTRIANGLE WITH DOTbVERTICAL BARcELLIPSE",
  "cRECTANGLEbVERY SMALL SQUAREaWHITE-FEATHERED RIGHTWARDS ARROWaWIDE-HEADED DOWNWARDS BARB ARROW",
  "dHEAVY BARB ARROWdLIGHT BARB ARROWdMEDIUM BARB ARROWdVERY HEAVY BARB ARROWcLEFTWARDS BARB ARROW",
  "dHEAVY BARB ARROWdLIGHT BARB ARROWdMEDIUM BARB ARROWdVERY HEAVY BARB ARROW",
  "cNORTH EAST BARB ARROWeHEAVY BARB ARROWeLIGHT BARB ARROWeMEDIUM BARB ARROW",
  "eVERY HEAVY BARB ARROWdWEST BARB ARROWeHEAVY BARB ARROWeLIGHT BARB ARROWeMEDIUM BARB ARROW",
  "eVERY HEAVY BARB ARROWcRIGHTWARDS BARB ARROWdHEAVY BARB ARROWdLIGHT BARB ARROW",
  "dMEDIUM BARB ARROWdVERY HEAVY BARB ARROWcSOUTH EAST BARB ARROWeHEAVY BARB ARROW",
  "eLIGHT BARB ARROWeMEDIUM BARB ARROWeVERY HEAVY BARB ARROWdWEST BARB ARROWeHEAVY BARB ARROW",
  "eLIGHT BARB ARROWeMEDIUM BARB ARROWeVERY HEAVY BARB ARROWcUPWARDS BARB ARROWdHEAVY BARB ARROW",
  "dLIGHT BARB ARROWdMEDIUM BARB ARROWdVERY HEAVY BARB ARROWaWIGGLY VERTICAL LINEaWILTED FLOWER",
  "aWIND BLOWING FACEbCHIMEaWINDOWaWINE GLASSaWINKING FACEaWIRED KEYBOARDaWJaWOLF FACEaWOMAN",
  "aWOMAN WITH BUNNY EARSaWOMANS BOOTSbCLOTHESbHATbSANDALaWOMENS SYMBOLaWON SIGNaWOODaWORD JOINER",
  "bSEPARATOR MIDDLE DOTaWORLD MAPaWORMaWORRIED FACEaWRAPPED PRESENTaWREATH PRODUCTaWRENCH",
  "aWRESTLERSaWRITING HAND"]

def namesInX : List String := [
  "aX IN A RECTANGLE BOXaX-RAYaXIANGQI BLACK CANNONcCHARIOTcELEPHANTcGENERALcHORSEcMANDARIN",
  "cSOLDIERbRED CANNONcCHARIOTcELEPHANTcGENERALcHORSEcMANDARINcSOLDIERaXOR"]

def namesInY : List String := [
  "aYAWNING FACEaYELLOW HEARTaYEN SIGNaYEZIDI COMBINING HAMZA MARKcMADDA MARKbHYPHENATION MARK",
  "bLETTER BEcCHHIMcCHIMcCIMcDADcDALcELIFcETcEWcEYNcFAcGAFcHAYcHHAcJAcKAFcKHAFcLAM",
  "cLAM WITH DOT ABOVEcMIMcNUNcOWcPEcPHEcQAFcRAcRHAcSADcSEcSHINcSINcTAcTHEcUMcVAcVA ALTERNATE FORM",
  "cWAWcXAcXHEYNcYOTcYOT WITH CIRCUMFLEX ABOVEcZAcZALcZEaYI RADICAL BBUTcBURcCHEcCIPcCUOPcCYcCYP",
  "cCYTcDDURcDUcGAcGEPcGGOPcGGUOcGOTcHMOcHXITcHXOPcHXUOcJJIEcJJUTcJJYcJOcKEcKITcLIcLIEcLYRcMIcMOP",
  "cNBIEcNYIPcNYOPcNZUPcOPcPUTcPYTcQOTcSHATcSHOPcSHURcSHYcSSIcTATcTUcVEPcVURcWOcYITcYOcZAcZOTcZUP",
  "cZURcZZIETbSYLLABLE AcAPcATcAXcBAcBAPcBATcBAXcBBAcBBAPcBBATcBBAXcBBEcBBEPcBBEXcBBIcBBIEcBBIEP",
  "cBBIETcBBIEXcBBIPcBBITcBBIXcBBOcBBOPcBBOTcBBOXcBBUcBBUOcBBUOPcBBUOXcBBUPcBBURcBBURXcBBUTcBBUX",
  "cBBYcBBYPcBBYTcBBYXcBEcBEPcBEXcBIcBIEcBIEPcBIETcBIEXcBIPcBITcBIXcBOcBOPcBOTcBOXcBUcBUOcBUOP",
  "cBUOXcBUPcBURcBURXcBUTcBUXcBYcBYPcBYRcBYRXcBYTcBYXcCAcCAPcCATcCAXcCEcCEPcCEXcCHAcCHAPcCHATcCHAX",
  "cCHEcCHEPcCHETcCHEXcCHOcCHOPcCHOTcCHOXcCHUcCHUOcCHUOPcCHUOTcCHUOXcCHUPcCHURcCHURXcCHUXcCHYcCHYP",
  "cCHYRcCHYRXcCHYTcCHYXcCIcCIEcCIEPcCIETcCIEXcCIPcCITcCIXcCOcCOPcCOTcCOXcCUcCUOcCUOPcCUOXcCUPcCUR",
  "cCURXcCUTcCUXcCYcCYPcCYRcCYRXcCYTcCYXcDAcDAPcDATcDAXcDDAcDDAPcDDATcDDAXcDDEcDDEPcDDEXcDDIcDDIE",
  "cDDIEPcDDIEXcDDIPcDDITcDDIXcDDOcDDOPcDDOTcDDOXcDDUcDDUOcDDUOPcDDUOXcDDUPcDDURcDDURXcDDUTcDDUX",
  "cDEcDEPcDEXcDIcDIEcDIEPcDIEXcDIPcDITcDIXcDOcDOPcDOTcDOXcDUcDUOcDUOXcDUPcDURcDURXcDUTcDUXcEcEX",
  "cFAcFAPcFATcFAXcFIcFIPcFITcFIXcFOcFOPcFOXcFUcFUPcFURcFURXcFUTcFUXcFYcFYPcFYTcFYXcGAcGAPcGATcGAX",
  "cGEcGEPcGETcGEXcGGAcGGAPcGGATcGGAXcGGEcGGEPcGGETcGGEXcGGIcGGIEcGGIEPcGGIEXcGGITcGGIXcGGOcGGOP",
  "cGGOTcGGOXcGGUcGGUOcGGUOPcGGUOTcGGUOXcGGUPcGGURcGGURXcGGUTcGGUXcGIcGIEcGIEPcGIETcGIEXcGIPcGIT",
  "cGIXcGOcGOPcGOTcGOXcGUcGUOcGUOPcGUOTcGUOXcGUPcGURcGURXcGUTcGUXcHAcHAPcHATcHAXcHEcHEPcHEXcHIE",
  "cHIEXcHITcHLAcHLAPcHLATcHLAXcHLEcHLEPcHLEXcHLIcHLIEcHLIEPcHLIEXcHLIPcHLITcHLIXcHLOcHLOPcHLOX",
  "cHLUcHLUOcHLUOPcHLUOXcHLUPcHLURcHLURXcHLUTcHLUXcHLYcHLYPcHLYRcHLYRXcHLYTcHLYXcHMAcHMAPcHMAT",
  "cHMAXcHMIcHMIEcHMIEPcHMIEXcHMIPcHMITcHMIXcHMOcHMOPcHMOTcHMOXcHMUcHMUOcHMUOPcHMUOXcHMUPcHMUR",
  "cHMURXcHMUTcHMUXcHMYcHMYPcHMYRcHMYRXcHMYXcHNAcHNAPcHNATcHNAXcHNEcHNEPcHNEXcHNIcHNIEcHNIEPcHNIET",
  "cHNIEXcHNIPcHNITcHNIXcHNOPcHNOTcHNOXcHNUOcHNUOXcHNUTcHOcHOPcHOTcHOXcHUOcHUOPcHUOTcHUOXcHXAcHXAP",
  "cHXATcHXAXcHXEcHXEPcHXEXcHXIcHXIEcHXIEPcHXIETcHXIEXcHXIPcHXITcHXIXcHXOcHXOPcHXOTcHXOXcHXUO",
  "cHXUOPcHXUOTcHXUOXcIcIEcIEPcIETcIEXcIPcITcITERATION MARKcIXcJIcJIEcJIEPcJIETcJIEXcJIPcJITcJIX",
  "cJJIcJJIEcJJIEPcJJIETcJJIEXcJJIPcJJITcJJIXcJJOcJJOPcJJOTcJJOXcJJUcJJUOcJJUOPcJJUOXcJJUPcJJUR",
  "cJJURXcJJUTcJJUXcJJYcJJYPcJJYTcJJYXcJOcJOPcJOTcJOXcJUcJUOcJUOPcJUOTcJUOXcJUPcJURcJURXcJUTcJUX",
  "cJYcJYPcJYRcJYRXcJYTcJYXcKAcKAPcKATcKAXcKEcKEPcKETcKEXcKIcKIEcKIEPcKIEXcKIPcKITcKIXcKOcKOPcKOT",
  "cKOXcKUcKUOcKUOPcKUOXcKUPcKURcKURXcKUTcKUXcLAcLAPcLATcLAXcLEcLEPcLEXcLIcLIEcLIEPcLIETcLIEXcLIP",
  "cLITcLIXcLOcLOPcLOTcLOXcLUcLUOcLUOPcLUOTcLUOXcLUPcLURcLURXcLUTcLUXcLYcLYPcLYRcLYRXcLYTcLYXcMA",
  "cMAPcMATcMAXcMEcMEXcMGAcMGAPcMGATcMGAXcMGEcMGEPcMGEXcMGIEcMGIEXcMGOcMGOPcMGOTcMGOXcMGUcMGUO",
  "cMGUOPcMGUOXcMGUPcMGURcMGURXcMGUTcMGUXcMIcMIEcMIEPcMIEXcMIPcMITcMIXcMOcMOPcMOTcMOXcMUcMUOcMUOP",
  "cMUOTcMUOXcMUPcMURcMURXcMUTcMUXcMYcMYPcMYTcMYXcNAcNAPcNAXcNBAcNBAPcNBATcNBAXcNBIcNBIEcNBIEP",
  "cNBIEXcNBIPcNBITcNBIXcNBOcNBOPcNBOTcNBOXcNBUcNBUPcNBURcNBURXcNBUTcNBUXcNBYcNBYPcNBYRcNBYRXcNBYT",
  "cNBYXcNDAcNDAPcNDATcNDAXcNDEcNDEPcNDEXcNDIcNDIEcNDIEXcNDIPcNDITcNDIXcNDOcNDOPcNDOTcNDOXcNDU",
  "cNDUPcNDURcNDURXcNDUTcNDUXcNEcNEPcNEXcNGAcNGAPcNGATcNGAXcNGEcNGEPcNGEXcNGIEcNGIEPcNGIEXcNGO",
  "cNGOPcNGOTcNGOXcNGUOcNGUOTcNGUOXcNIcNIEcNIEPcNIEXcNIPcNITcNIXcNJIcNJIEcNJIEPcNJIETcNJIEXcNJIP",
  "cNJITcNJIXcNJOcNJOPcNJOTcNJOXcNJUcNJUOcNJUOXcNJUPcNJURcNJURXcNJUXcNJYcNJYPcNJYRcNJYRXcNJYTcNJYX",
  "cNOcNOPcNOTcNOXcNRAcNRAPcNRATcNRAXcNREcNREPcNRETcNREXcNROcNROPcNROXcNRUcNRUPcNRURcNRURXcNRUT",
  "cNRUXcNRYcNRYPcNRYRcNRYRXcNRYTcNRYXcNUcNUOcNUOPcNUOXcNUPcNURcNURXcNUTcNUXcNYIcNYIEcNYIEPcNYIET",
  "cNYIEXcNYIPcNYITcNYIXcNYOcNYOPcNYOTcNYOXcNYUcNYUOcNYUOPcNYUOXcNYUPcNYUTcNYUXcNZAcNZAPcNZATcNZAX",
  "cNZEcNZEXcNZIcNZIEcNZIEPcNZIEXcNZIPcNZITcNZIXcNZOPcNZOXcNZUcNZUOcNZUOXcNZUPcNZURcNZURXcNZUXcNZY",
  "cNZYPcNZYRcNZYRXcNZYTcNZYXcOcOPcOTcOXcPAcPAPcPATcPAXcPIcPIEcPIEPcPIEXcPIPcPITcPIXcPOcPOPcPOT",
  "cPOXcPUcPUOcPUOPcPUOXcPUPcPURcPURXcPUTcPUXcPYcPYPcPYRcPYRXcPYTcPYXcQIcQIEcQIEPcQIETcQIEXcQIP",
  "cQITcQIXcQOcQOPcQOTcQOXcQUcQUOcQUOPcQUOTcQUOXcQUPcQURcQURXcQUTcQUXcQYcQYPcQYRcQYRXcQYTcQYXcRA",
  "cRAPcRATcRAXcREcREPcREXcROcROPcROTcROXcRRAcRRAXcRREcRREPcRRETcRREXcRROcRROPcRROTcRROXcRRUcRRUO",
  "cRRUOXcRRUPcRRURcRRURXcRRUTcRRUXcRRYcRRYPcRRYRcRRYRXcRRYTcRRYXcRUcRUOcRUOPcRUOXcRUPcRURcRURX",
  "cRUTcRUXcRYcRYPcRYRcRYRXcRYTcRYXcSAcSAPcSATcSAXcSEcSEPcSEXcSHAcSHAPcSHATcSHAXcSHEcSHEPcSHET",
  "cSHEXcSHOcSHOPcSHOTcSHOXcSHUcSHUOcSHUOPcSHUOXcSHUPcSHURcSHURXcSHUTcSHUXcSHYcSHYPcSHYRcSHYRX",
  "cSHYTcSHYXcSIcSIEcSIEPcSIEXcSIPcSITcSIXcSOcSOPcSOTcSOXcSSAcSSAPcSSATcSSAXcSSEcSSEPcSSEXcSSI",
  "cSSIEcSSIEPcSSIEXcSSIPcSSITcSSIXcSSOcSSOPcSSOTcSSOXcSSUcSSUPcSSUTcSSUXcSSYcSSYPcSSYRcSSYRXcSSYT",
  "cSSYXcSUcSUOcSUOPcSUOXcSUPcSURcSURXcSUTcSUXcSYcSYPcSYRcSYRXcSYTcSYXcTAcTAPcTATcTAXcTEcTEPcTEX",
  "cTIcTIEcTIEPcTIEXcTIPcTITcTIXcTOcTOPcTOTcTOXcTUcTUOcTUOPcTUOTcTUOXcTUPcTURcTURXcTUTcTUXcUOcUOP",
  "cUOXcVAcVAPcVATcVAXcVEPcVEXcVIcVIEcVIEPcVIETcVIEXcVIPcVITcVIXcVOcVOPcVOTcVOXcVUcVUPcVURcVURX",
  "cVUTcVUXcVYcVYPcVYRcVYRXcVYTcVYXcWAcWAPcWATcWAXcWEcWEPcWEXcWOcWOPcWOXcWUcWUOcWUOPcWUOXcXIcXIE",
  "cXIEPcXIETcXIEXcXIPcXITcXIXcXOcXOPcXOTcXOXcXUOcXUOXcXYcXYPcXYRcXYRXcXYTcXYXcYIcYIEcYIEPcYIET",
  "cYIEXcYIPcYITcYIXcYOcYOPcYOTcYOXcYUcYUOcYUOPcYUOTcYUOXcYUPcYURcYURXcYUTcYUXcYYcYYPcYYRcYYRXcYYT",
  "cYYXcZAcZAPcZATcZAXcZEcZEPcZEXcZHAcZHAPcZHATcZHAXcZHEcZHEPcZHETcZHEXcZHOcZHOPcZHOTcZHOXcZHU",
  "cZHUOcZHUOPcZHUOXcZHUPcZHURcZHURXcZHUTcZHUXcZHYcZHYPcZHYRcZHYRXcZHYTcZHYXcZIcZIEcZIEPcZIEXcZIP",
  "cZITcZIXcZOcZOPcZOTcZOXcZUcZUOcZUOPcZUOXcZUPcZURcZURXcZUTcZUXcZYcZYPcZYRcZYRXcZYTcZYXcZZAcZZAP",
  "cZZATcZZAXcZZEcZZEPcZZEXcZZIcZZIEcZZIEPcZZIETcZZIEXcZZIPcZZITcZZIXcZZOcZZOPcZZOXcZZUcZZUPcZZUR",
  "cZZURXcZZUXcZZYcZZYPcZZYRcZZYRXcZZYTcZZYXaYIN YANGaYO-YO"]

def namesInZ : List String := [
  "aZ NOTATION BAG MEMBERSHIPcDOMAIN ANTIRESTRICTIONcLEFT BINDING BRACKETdIMAGE BRACKET",
  "cRANGE ANTIRESTRICTIONcRELATIONAL COMPOSITIONcRIGHT BINDING BRACKETdIMAGE BRACKET",
  "cSCHEMA COMPOSITIONdPIPINGdPROJECTIONcSPOTcTYPE COLON",
  "aZANABAZAR SQUARE CLOSING DOUBLE-LINED HEAD MARKdHEAD MARKcCLUSTER-FINAL LETTER LAfRAfVAfYA",
  "dINITIAL LETTER RAcFINAL CONSONANT MARKcINITIAL DOUBLE-LINED HEAD MARKdHEAD MARKcLETTER -AdAdBA",
  "dBHAdCAdCHAdDAdDDAdDDHAdDHAdDZAdDZHAdGAdGHAdHAdJAdKAdKHAdKSSAdLAdMAdNAdNGAdNNAdNYAdPAdPHAdRAdSA",
  "dSHAdSSAdTAdTHAdTSAdTSHAdTTAdTTHAdVAdYAdZAdZHAcMARK DOUBLE SHADdLONG TSHEGdSHADdTSHEG",
  "cSIGN ANUSVARAdCANDRA WITH ORNAMENTdCANDRABINDUdCANDRABINDU WITH ORNAMENTdVIRAMAdVISARGA",
  "cSUBJOINERcVOWEL LENGTH MARKdSIGN AIeAUeEeIeOeOEeREVERSED IeUeUEaZEBRA FACEaZERO WIDTH JOINER",
  "cNO-BREAK SPACEcNON-JOINERcSPACEaZEUSaZIPPER-MOUTH FACE",
  "aZNAMENNY COMBINING ATTACHING VERTICAL OMETcLOWER TONAL RANGE INDICATORcMARK BORZAYAdCHASHKA",
  "dCHASHKA POLNAYAdCURVED OMETdDEMESTVENNY ZADERZHKAdDVOETOCHIEdGORAZDO NIZKO ON LEFTgRIGHT",
  "fS KRYZHEM ON LEFTiRIGHTeVYSOKOdKACHKAdKRYZHdKRYZH ON LEFTdKUPNAYAdLOMKAdMALO POVYSHE ON LEFT",
  "gRIGHTfS KHOKHLOM ON LEFTiRIGHTgKRYZHEMfSTRANNOdNIZKO ON LEFTfRIGHTeS KRYZHEM ON LEFThRIGHT",
  "dOBLACHKOdONdOTSECHKAdPODCHASHIEdPODCHASHIE WITH VERTICAL STROKEdPODVERTKAdPOVYSHE ON LEFT",
  "fRIGHTeS KHOKHLOM ON LEFThRIGHTfKRYZHEMeSTRANNOdRAVNOdRAZSEKAdSKOBAdSOROCHYA NOZHKA",
  "dSREDNE ON LEFTfRIGHTdSTRANNO MALO POVYSHEdTIKHAYAdTOCHKAdTSATA ON LEFTfRIGHTeS KRYZHEMdUDARKA",
  "dVYSOKO ON LEFTfRIGHTeS KHOKHLOM ON LEFThRIGHTfKRYZHEMdZADERZHKAdZELOdZEVOK",
  "cTONAL RANGE MARK MRACHNOfSVETLOfTRESVETLObNEUME CHASHKAcCHELYUSTKAcDEMESTVENNY KLYUCHcDERBITSA",
  "cDOUBLE ZAPYATAYAcDUDAcDVA V CHELNUcFITAcGOLUBCHIK BORZYdMRACHNYdSVETLYdTIKHYdTRESVETLYcKHAMILO",
  "cKLYUCHcKOBYLAcKRYUKcKRYUK TIKHYcKRYZHcKUFISMAcMECHIKcMECHIK KLYUCHENEPOSTOYANNYdKLYUCHEPOVODNY",
  "dKLYUCHEVOYdPOVODNYcNEMKAcOBLAKOcOSOKAcOSOKA KLYUCHEVAYA NEPOSTOYANNAYAeSVETLAYA",
  "dKRYUKOVAYA SVETLAYAdSVETLAYAdTRESVETLAYAcPALKAcPARAKLITcPAUKcPEREVODKA",
  "cPEREVODKA NEPOSTOYANNAYAcPODCHASHIEcPOLKULIZMYcREVERSED CHELYUSTKAcROG",
  "cSKAMEYTSA DVOECHELNAYA KLYUCHEVAYAeNEPOSTOYANNAYAePROSTAYAeSVETLAYAdKLYUCHENEPOSTOYANNAYA",
  "dKLYUCHEVAYA SVETLAYAeTIKHAYAdMRACHNAYAdSVETLAYAdTIKHAYAdTRESVETLAYAcSLOZHITIE",
  "cSLOZHITIE S KRYZHEMeZAPYATOYdZAKRYTOEcSTATYAcSTATYA NEPOSTOYANNAYAdS DVUMYA ZAPYATYMIeKRYZHEM",
  "eKRYZHEM I ZAPYATOYeROGOMeZAPYATOYeZAPYATOY I KRYZHEMgPODCHASHIEMdZAKRYTAYA",
  "dZAKRYTAYA S ZAPYATOYcSTOPITSAcSTOPITSA S OCHKOMdWITH SOROCHYA NOZHKAcSTRELA DVOECHELNAYA",
  "dDVOECHELNAYA KLYUCHEVAYAdDVOECHELNOKRYZHEVAYAdDVOECHELNOPOVODNAYA",
  "dDVOECHELNOPOVODNAYA KLYUCHEVAYAdGROMNAYAdGROMNAYA WITH SINGLE ZAPYATAYAdGROMOKRYZHEVAYA",
  "dGROMOKRYZHEVAYA POVODNAYAdGROMOPOVODNAYAdGROMOPOVODNAYA WITH DOUBLE ZAPYATAYAfSINGLE ZAPYATAYA",
  "dKLYUCHENEPOSTOYANNAYAdKLYUCHEPOVODNAYAdKRYUKOVAYAdKRYUKOVAYA GROMNAYA",
  "eGROMNAYA WITH SINGLE ZAPYATAYAeGROMOKRYZHEVAYAeGROMOKRYZHEVAYA POVODNAYAeGROMOPOVODNAYA",
  "eGROMOPOVODNAYA WITH DOUBLE ZAPYATAYAgSINGLE ZAPYATAYAePOVODNAYAeTRYASKAdKRYZHEVAYA",
  "dMRACHNOTIKHAYAdNEPOSTOYANNAYAdPOLUPOVODNAYAdPOVODNAYAdPROSTAYAdTIKHAYA PUTNAYAdTRYASOGLASNAYA",
  "dTRYASOPOVODNAYAdTRYASOSTRELNAYAcVRAKHIYA KLYUCHEVAYA MRACHNAYAePROSTAYAeSVETLAYAeTRESVETLAYA",
  "dMRACHNAYAdPROSTAYAdSVETLAYAdTRESVETLAYAcZANOZHEKcZAPYATAYAcZMEYTSA",
  "bPRIZNAK MODIFIER DIRECTION FLIPdKRYZHdLEVEL-2e3dROGaZOMBIEaZWJaZWNBSPaZWNJaZWSP"]

end CircuitConsole.Text
