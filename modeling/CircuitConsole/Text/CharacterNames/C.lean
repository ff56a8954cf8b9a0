/-!
Names of characters in the Unicode standard, version 14: those that begin with C.
How a listing is read is told where names are looked up.
-/

namespace CircuitConsole.Text

def namesInC : List String := [
  "aCACTUSaCADA UNAaCADUCEUSaCALENDARaCALL ME HANDaCAMERAaCAMERA WITH FLASHaCAMPINGaCAN",
  "aCANADIAN SYLLABICS AcAAcAAIcAAYcAIcAIVILIK BcANcATHAPASCAN MdScAYcBEAVER DENE LeRcBIBLE-CREE Y",
  "cBLACKFOOT AdEdIdKAdKEdKIdKOdNAdNEdNIdNOdOdSdWdWAdWEdWIdWOcCcCAcCAAcCAAIcCARRIER CHAdCHEdCHEE",
  "dCHIdCHOdCHUdDEEdDENE GEEdDENTAL SdDIdDLAdDLEdDLEEdDLIdDLOdDLUdDZAdDZEdDZEEdDZIdDZOdDZUdEEdGA",
  "dGAAdGEdGEEdGHAdGHEdGHEEdGHIdGHOdGHUdGIdGOdGUdGWAdGWUdHdHEEdHIdHWAdHWEdHWEEdHWIdHWOdHWUdI",
  "dINITIAL ZdJAdJEdJEEdJIdJJAdJJEdJJEEdJJIdJJOdJJUdJOdJUdJWAdKHAdKHEdKHEEdKHIdKHOdKHUdKKdKKAdKKE",
  "dKKEEdKKIdKKOdKKUdLAdLEdLEEdLHAdLHEdLHEEdLHIdLHOdLHUdLIdLOdLUdMAdMEdMEEdMIdMOdMUdNAdNEdNEEdNG",
  "dNIdNOdNUdPdPAdPEdPEEdPIdPOdPUdRAdREdREEdRIdROdRUdSAdSEdSEEdSHdSHAdSHEdSHEEdSHIdSHOdSHUdSIdSO",
  "dSUdTHAdTHEdTHEEdTHIdTHOdTHUdTLAdTLEdTLEEdTLHAdTLHEdTLHEEdTLHIdTLHOdTLHUdTLIdTLOdTLUdTSAdTSE",
  "dTSEEdTSIdTSOdTSUdTTAdTTEdTTEEdTTIdTTOdTTSAdTTSEdTTSEEdTTSIdTTSOdTTSUdTTUdWAdWEdWEEdWIdWOdWUdYA",
  "dYEdYEEdYIdYOdYUdZdZAdZEdZEEdZIdZOdZUcCEcCHI SIGNcCIcCIIcCOcCOOcCWAcCWAAcCWEcCWIcCWIIcCWOcCWOO",
  "cEcEASTERN WcENcFcFAcFAAcFAAIcFEcFIcFIIcFINAL ACUTEdBOTTOM HALF RINGdDOUBLE ACUTE",
  "eSHORT VERTICAL STROKESdDOWN TACKdGRAVEdMIDDLE DOTdPLUSdRAISED DOTdRIGHT HALF RINGdRING",
  "dSHORT HORIZONTAL STROKEdSMALL RINGdTOP HALF RINGcFOcFOOcFULL STOPcFWAAcGLOTTAL STOPcHKcHYPHEN",
  "cIcIIcINcKcKAcKAAcKAAIcKAYcKEcKIcKIIcKOcKOOcKWcKWAcKWAAcKWAYcKWEcKWIcKWIIcKWOcKWOOcLcLAcLAA",
  "cLAAIcLAYcLEcLHcLHAcLHAAcLHIcLHIIcLHOcLHOOcLIcLIIcLOcLOOcLWAcLWAAcLWEcLWIcLWIIcLWOcLWOOcMcMA",
  "cMAAcMAAIcMAYcMEcMEDIAL LdRcMHcMIcMIIcMOcMOOcMOOSE-CREE SKcMWAcMWAAcMWEcMWIcMWIIcMWOcMWOOcN",
  "cN-CREE THEeTHIeTHIIcNAcNAAcNAAIcNASKAPI CWAAdKWAAdMWAAdNWAAdS-WdSCWAdSKWdSKWAdSPWAdSTWAdSWAA",
  "dTWAAdWAAdWOOdYWAAcNATTILIK HAdHAAdHIdHIIdHOdHOOdSHRAdSHRAAdSHRIdSHRIIdSHROdSHROOcNAYcNEcNGcNGA",
  "cNGAAcNGAAIcNGAIcNGIcNGIIcNGOcNGOOcNHcNIcNIIcNNGcNNGAcNNGAAcNNGIcNNGIIcNNGOcNNGOOcNOcNOOcNOY",
  "cNUNAVIK HdHAdHAAdHEdHIdHIIdHOdHOOcNUNAVUT HcNWAcNWAAcNWEcNWIcNWIIcNWOcNWOOcOcOJIBWAY CdKdMdN",
  "dNWIdNWIIdNWOdNWOOdPdSdSHdTcONcOOcOYcPcPAcPAAcPAAIcPAYcPEcPIcPIIcPOcPOOcPOYcPWAcPWAAcPWEcPWI",
  "cPWIIcPWOcPWOOcPWOYcQcQAcQAAcQAAIcQAIcQIcQIIcQOcQOOcRcR-CREE REeRWEcRAcRAAcRAAIcRAYcREcRIcRII",
  "cROcROOcRWAcRWAAcRWEEcRWIcRWIIcRWOcRWOOcScSAcSAAcSAAIcSAYcSAYISI HAdHEdHIdHOdHOOdJIdJUdJUUdM",
  "dSHAdSHEdSHIdSHOdSHOOdSHWEdTHdYIcSEcSHcSHAcSHAAcSHAYcSHEcSHIcSHIIcSHOcSHOOcSHOYcSHWAcSHWAAcSHWE",
  "cSHWIcSHWIIcSHWOcSHWOOcSHWOYcSIcSIIcSOcSOOcSOUTH-SLAVEY KAHeKEHeKIHeKOHcSOYcSPAcSPEcSPIcSPOcSW",
  "cSWAcSWAAcSWEcSWIcSWIIcSWOcSWOOcTcTAcTAAcTAAIcTAYcTEcTHcTH-CREE THeTHAeTHAAeTHEeTHIeTHIIeTHO",
  "eTHOOcTHAcTHAAcTHEcTHIcTHIIcTHOcTHOOcTHWAcTHWAAcTHWEcTIcTIIcTLHAcTLHEcTLHIcTLHOcTLHOOcTLHWEcTO",
  "cTOOcTTAcTTEcTTHcTTHAcTTHAAcTTHEcTTHIcTTHOcTTHOOcTTHWEcTTIcTTOcTWAcTWAAcTWEcTWIcTWIIcTWOcTWOO",
  "cTYAcTYEcTYIcTYOcWAcWAAcWAYcWEcWEST-CREE CWAeCWAAeCWEeCWIeCWIIeCWOeCWOOeFWAAeKWAeKWAAeKWEeKWI",
  "eKWIIeKWOeKWOOeLeLAeLAAeLEeLOeLOOeLWAeLWAAeLWEeLWIeLWIIeLWOeLWOOeMeMWAeMWAAeMWEeMWIeMWIIeMWO",
  "eMWOOeNWAeNWAAeNWEePePWAePWAAePWEePWIePWIIePWOePWOOeReRAeREeRIeROeRWAAeSHWAeSHWAAeSHWEeSHWI",
  "eSHWIIeSHWOeSHWOOeSWAeSWAAeSWEeSWIeSWIIeSWOeSWOOeTHWAAeTWAeTWAAeTWEeTWIeTWIIeTWOeTWOOeWAeWAAeWE",
  "eWIeWIIeWOeWOOeYeYWAeYWAAeYWEeYWIeYWIIeYWOeYWOOcWESTERN WcWIcWIIcWOcWOOcWOODS-CREE FINAL THeTH",
  "eTHAeTHEeTHIeTHOeTHWAeTHWAAeTHWEEeTHWIeTHWIIeTHWOeTHWOOcYcY-CREE COOeKOOeLOOeMOOeNOOeOOePOO",
  "ePWAAeSOOeTOOeWeYOOcYAcYAAcYAAIcYAYcYEcYIcYIIcYOcYOOcYOYcYWAcYWAAcYWEcYWIcYWIIcYWOcYWOOaCANCEL",
  "aCANCEL CHARACTERbTAGaCANCELLATION XaCANCERaCANDLEaCANDYaCANNED FOODaCANOEaCAPITULUMaCAPRICORN",
  "aCAR SLIDINGaCARD FILE BOXbINDEXbINDEX DIVIDERSaCARE OFaCARETaCARET INSERTION POINT",
  "aCARIAN LETTER AcA2cBcC-18d39cDcD2cEcE2cGcG2cIcIIcKcK2cLcLDcLD2cMcMBcMB2cMB3cMB4cNcNDcNGcNNcOcP",
  "cP2cQcRcRRcScSHcSH2cSScSTcST2cTcTTcTT2cUcUUcUUUcUUU2cUUU3cUUUUcXaCARONaCAROUSEL HORSE",
  "aCARP STREAMERaCARPENTRY SAWaCARRIAGE RETURNaCARROTaCASTLEaCATaCAT FACEbFACE WITH TEARS OF JOY",
  "dWRY SMILEaCAUCASIAN ALBANIAN CITATION MARKcLETTER ALTdAORdBETdCARdCAYNdCHAdCHATdCHIdCHOYdCYAW",
  "dCYAYdDATdDYANdDZAYdDZYAYdEBdEYNdFAMdGHEYSdGIMdHEYTdINYAdIRBdIWNdJAYNdJHOXdKARdKIWdLANdLYITdMAQ",
  "dNOWCdONdPENdPIWRdQARdQAYdRATdSEYKdSHAdSHAKdSHOYdTASdTIWRdTYAYdVEYZdXEYNdYAYDdYOWDdZARLdZHA",
  "dZHILaCAUTION SIGNaCCHaCEDI SIGNaCEDILLAaCELTIC CROSSaCENT SIGNaCENTRE LINE SYMBOL",
  "aCENTRELINE LOW LINEbOVERLINEaCERESaCGJaCHAINSaCHAIRaCHAKMA AU MARKbDANDAbDIGIT EIGHTcFIVEcFOUR",
  "cNINEcONEcSEVENcSIXcTHREEcTWOcZERObDOUBLE DANDAbLETTER AAcBAAcBHAAcCAAcCHAAcDAAcDDAAcDDHAAcDHAA",
  "cEcGAAcGHAAcHAAcIcJAAcJHAAcKAAcKHAAcLAAcLHAAcMAAcNAAcNGAAcNNAAcNYAAcPAAcPHAAcRAAcSAAcTAAcTHAA",
  "cTTAAcTTHAAcUcVAAcWAAcYAAcYYAAbMAAYYAAbO MARKbQUESTION MARKbSECTION MARKbSIGN ANUSVARA",
  "cCANDRABINDUcVISARGAbVIRAMAbVOWEL SIGN AdAAdAIdAUdEdEIdIdIIdOdOIdUdUU",
  "aCHAM CONSONANT SIGN FINAL HeMeNGdLAdRAdWAdYAbDIGIT EIGHTcFIVEcFOURcNINEcONEcSEVENcSIXcTHREE",
  "cTWOcZERObLETTER AcAIcBAcBBAcBHAcCHAcCHHAcDAcDDAcDHAcEcFINAL CHdGdKdLdNdNGdPdRdSSdTdYcGAcGHAcHA",
  "cIcJAcJHAcKAcKHAcLAcMAcMUEcNAcNGAcNGUEcNHAcNHJAcNHUEcNUEcOcPAcPHAcPPAcRAcSAcSSAcTAcTHAcUcVAcYA",
  "bPUNCTUATION DANDAcDOUBLE DANDAcSPIRALcTRIPLE DANDAbVOWEL SIGN AAdAIdAUdEIdIdIIdOdOEdUdUE",
  "aCHARACTER TABULATIONbTABULATION SETcWITH JUSTIFICATIONbTIEaCHART WITH DOWNWARDS TREND",
  "cUPWARDS TRENDdTREND AND YEN SIGNaCHECK MARKaCHECKER BOARDbBOARD FILLaCHEERING MEGAPHONE",
  "aCHEESE WEDGEaCHEQUERED FLAGaCHEROKEE LETTER AcDAcDEcDIcDLAcDOcDUcDVcEcGAcGEcGIcGOcGUcGVcHAcHE",
  "cHIcHNAcHOcHUcHVcIcKAcLAcLEcLIcLOcLUcLVcMAcMEcMIcMOcMUcMVcNAcNAHcNEcNIcNOcNUcNVcOcQUAcQUEcQUI",
  "cQUOcQUUcQUVcScSAcSEcSIcSOcSUcSVcTAcTEcTIcTLAcTLEcTLIcTLOcTLUcTLVcTSAcTSEcTSIcTSOcTSUcTSVcUcV",
  "cWAcWEcWIcWOcWUcWVcYAcYEcYIcYOcYUcYVbSMALL LETTER AdDAdDEdDIdDLAdDOdDUdDVdEdGAdGEdGIdGOdGUdGV",
  "dHAdHEdHIdHNAdHOdHUdHVdIdKAdLAdLEdLIdLOdLUdLVdMAdMEdMIdMOdMUdMVdNAdNAHdNEdNIdNOdNUdNVdOdQUAdQUE",
  "dQUIdQUOdQUUdQUVdSdSAdSEdSIdSOdSUdSVdTAdTEdTIdTLAdTLEdTLIdTLOdTLUdTLVdTSAdTSEdTSIdTSOdTSUdTSVdU",
  "dVdWAdWEdWIdWOdWUdWVdYAdYEdYIdYOdYUdYVaCHERRIESaCHERRY BLOSSOMaCHESTNUTaCHI RHOaCHICKENaCHILD",
  "aCHILDREN CROSSINGaCHIPMUNKaCHIRONaCHOCOLATE BARaCHOPSTICKSaCHORASMIAN LETTER ALEPHcAYINcBETH",
  "cCURLED WAWcDALETHcGIMELcHEcHETHcKAPHcLAMEDHcMEMcNUNcPEcRESHcSAMEKHcSHINcSMALL ALEPHcTAWcWAW",
  "cYODHcZAYINbNUMBER FOURcONEcONE HUNDREDcTENcTHREEcTWENTYcTWOaCHRISTMAS TREEaCHURCHaCINEMA",
  "aCIRCLE DIVIDED BY HORIZONTAL BAR AND TOP HALF DIVIDED BY VERTICAL BAR",
  "bWITH ALL BUT UPPER LEFT QUADRANT BLACKcHORIZONTAL BARcLEFT HALF BLACKcLOWER HALF BLACK",
  "cRIGHT HALF BLACKcSMALL CIRCLE TO THE RIGHTcSUPERIMPOSED XcTWO HORIZONTAL STROKES TO THE RIGHT",
  "cUPPER HALF BLACKdRIGHT QUADRANT BLACKcVERTICAL FILLaCIRCLED ANTICLOCKWISE ARROW",
  "bANTICLOCKWISE-ROTATED DIVISION SIGNbASTERISK OPERATORbBOLD XbBULLETbC WITH OVERLAID BACKSLASH",
  "bCCbCDbCROSS FORMEEcFORMEE WITH FOUR DOTSeTWO DOTScPOMMEEbCROSSING LANESbDASHbDIGIT EIGHTcFIVE",
  "cFOURcNINEcONEcSEVENcSIXcTHREEcTWOcZERObDIVISION SIGNcSLASHbDOLLAR SIGN WITH OVERLAID BACKSLASH",
  "bDOT OPERATORbEQUALSbGREATER-THANbHANGUL CHIEUCHcCHIEUCH AcCIEUCcCIEUC AcHIEUHcHIEUH AcIEUNG",
  "cIEUNG AdUcKHIEUKHcKHIEUKH AcKIYEOKcKIYEOK AcMIEUMcMIEUM AcNIEUNcNIEUN AcPHIEUPHcPHIEUPH A",
  "cPIEUPcPIEUP AcRIEULcRIEUL AcSIOScSIOS AcTHIEUTHcTHIEUTH AcTIKEUTcTIKEUT A",
  "bHEAVY WHITE RIGHTWARDS ARROWbHORIZONTAL BAR WITH NOTCHbHUMAN FIGUREbIDEOGRAPH ACCEPTcADVANTAGE",
  "cALLIANCEcATTENTIONcCENTREcCONGRATULATIONcCOPYcCORRECTcEARTHcEIGHTcENTERPRISEcEXCELLENTcFEMALE",
  "cFINANCIALcFIREcFIVEcFOURcHAVEcHIGHcITEMcKINDERGARTENcKOTOcLABORcLEFTcLOWcMALEcMEDICINEcMETAL",
  "cMOONcNAMEcNIGHTcNINEcONEcPRINTcQUESTIONcRELIGIONcRESOURCEcRESTcRIGHTcSCHOOLcSECRETcSEVENcSIX",
  "cSOCIETYcSPECIALcSTOCKcSTUDYcSUITABLEcSUNcSUPERVISEcTENcTHREEcTWOcWATERcWOODbINFORMATION SOURCE",
  "bITALIC LATIN CAPITAL LETTER CfRbKATAKANA AcEcHAcHEcHIcHOcHUcIcKAcKEcKIcKOcKUcMAcMEcMIcMOcMUcNA",
  "cNEcNIcNOcNUcOcRAcREcRIcROcRUcSAcSEcSIcSOcSUcTAcTEcTIcTOcTUcUcWAcWEcWIcWOcYAcYOcYU",
  "bKOREAN CHARACTER CHAMKOdJUEUIbLATIN CAPITAL LETTER AeBeCeDeEeFeGeHeIeJeKeLeMeNeOePeQeReSeTeUeV",
  "eWeXeYeZcSMALL LETTER AeBeCeDeEeFeGeHeIeJeKeLeMeNeOePeQeReSeTeUeVeWeXeYeZbLESS-THANbMINUS",
  "bMULTIPLICATION SIGN WITH CIRCUMFLEX ACCENTbNUMBER EIGHTEENcEIGHTY ON BLACK SQUAREcELEVEN",
  "cFIFTEENcFIFTYcFIFTY ON BLACK SQUAREcFORTYcFORTY EIGHTdFIVEdFOURdNINEdON BLACK SQUAREdONEdSEVEN",
  "dSIXdTHREEdTWOcFOURTEENcNINETEENcSEVENTEENcSEVENTY ON BLACK SQUAREcSIXTEEN",
  "cSIXTY ON BLACK SQUAREcTENcTEN ON BLACK SQUAREcTHIRTEENcTHIRTYcTHIRTY EIGHTdFIVEdFOURdNINE",
  "dON BLACK SQUAREdONEdSEVENdSIXdTHREEdTWOcTWELVEcTWENTYcTWENTY EIGHTdFIVEdFOURdNINE",
  "dON BLACK SQUAREdONEdSEVENdSIXdTHREEdTWObOPEN CENTRE EIGHT POINTED STARbPARALLELbPERPENDICULAR",
  "bPLUSbPOSTAL MARKbREVERSE SOLIDUSbRING OPERATORbSQUAREbTIMESbTRIANGLEbTRIANGLE DOWN",
  "bVERTICAL BARbWHITE BULLETcSTARbWZbXbZERO WITH SLASHaCIRCULATION FUNCTIONaCIRCUMFLEX ACCENT",
  "aCIRCUS TENTaCITYSCAPEaCITYSCAPE AT DUSKaCJK COMPATIBILITY IDEOGRAPH-2F800d2F801d2F802d2F803",
  "d2F804d2F805d2F806d2F807d2F808d2F809d2F80Ad2F80Bd2F80Cd2F80Dd2F80Ed2F80Fd2F810d2F811d2F812",
  "d2F813d2F814d2F815d2F816d2F817d2F818d2F819d2F81Ad2F81Bd2F81Cd2F81Dd2F81Ed2F81Fd2F820d2F821",
  "d2F822d2F823d2F824d2F825d2F826d2F827d2F828d2F829d2F82Ad2F82Bd2F82Cd2F82Dd2F82Ed2F82Fd2F830",
  "d2F831d2F832d2F833d2F834d2F835d2F836d2F837d2F838d2F839d2F83Ad2F83Bd2F83Cd2F83Dd2F83Ed2F83F",
  "d2F840d2F841d2F842d2F843d2F844d2F845d2F846d2F847d2F848d2F849d2F84Ad2F84Bd2F84Cd2F84Dd2F84E",
  "d2F84Fd2F850d2F851d2F852d2F853d2F854d2F855d2F856d2F857d2F858d2F859d2F85Ad2F85Bd2F85Cd2F85D",
  "d2F85Ed2F85Fd2F860d2F861d2F862d2F863d2F864d2F865d2F866d2F867d2F868d2F869d2F86Ad2F86Bd2F86C",
  "d2F86Dd2F86Ed2F86Fd2F870d2F871d2F872d2F873d2F874d2F875d2F876d2F877d2F878d2F879d2F87Ad2F87B",
  "d2F87Cd2F87Dd2F87Ed2F87Fd2F880d2F881d2F882d2F883d2F884d2F885d2F886d2F887d2F888d2F889d2F88A",
  "d2F88Bd2F88Cd2F88Dd2F88Ed2F88Fd2F890d2F891d2F892d2F893d2F894d2F895d2F896d2F897d2F898d2F899",
  "d2F89Ad2F89Bd2F89Cd2F89Dd2F89Ed2F89Fd2F8A0d2F8A1d2F8A2d2F8A3d2F8A4d2F8A5d2F8A6d2F8A7d2F8A8",
  "d2F8A9d2F8AAd2F8ABd2F8ACd2F8ADd2F8AEd2F8AFd2F8B0d2F8B1d2F8B2d2F8B3d2F8B4d2F8B5d2F8B6d2F8B7",
  "d2F8B8d2F8B9d2F8BAd2F8BBd2F8BCd2F8BDd2F8BEd2F8BFd2F8C0d2F8C1d2F8C2d2F8C3d2F8C4d2F8C5d2F8C6",
  "d2F8C7d2F8C8d2F8C9d2F8CAd2F8CBd2F8CCd2F8CDd2F8CEd2F8CFd2F8D0d2F8D1d2F8D2d2F8D3d2F8D4d2F8D5",
  "d2F8D6d2F8D7d2F8D8d2F8D9d2F8DAd2F8DBd2F8DCd2F8DDd2F8DEd2F8DFd2F8E0d2F8E1d2F8E2d2F8E3d2F8E4",
  "d2F8E5d2F8E6d2F8E7d2F8E8d2F8E9d2F8EAd2F8EBd2F8ECd2F8EDd2F8EEd2F8EFd2F8F0d2F8F1d2F8F2d2F8F3",
  "d2F8F4d2F8F5d2F8F6d2F8F7d2F8F8d2F8F9d2F8FAd2F8FBd2F8FCd2F8FDd2F8FEd2F8FFd2F900d2F901d2F902",
  "d2F903d2F904d2F905d2F906d2F907d2F908d2F909d2F90Ad2F90Bd2F90Cd2F90Dd2F90Ed2F90Fd2F910d2F911",
  "d2F912d2F913d2F914d2F915d2F916d2F917d2F918d2F919d2F91Ad2F91Bd2F91Cd2F91Dd2F91Ed2F91Fd2F920",
  "d2F921d2F922d2F923d2F924d2F925d2F926d2F927d2F928d2F929d2F92Ad2F92Bd2F92Cd2F92Dd2F92Ed2F92F",
  "d2F930d2F931d2F932d2F933d2F934d2F935d2F936d2F937d2F938d2F939d2F93Ad2F93Bd2F93Cd2F93Dd2F93E",
  "d2F93Fd2F940d2F941d2F942d2F943d2F944d2F945d2F946d2F947d2F948d2F949d2F94Ad2F94Bd2F94Cd2F94D",
  "d2F94Ed2F94Fd2F950d2F951d2F952d2F953d2F954d2F955d2F956d2F957d2F958d2F959d2F95Ad2F95Bd2F95C",
  "d2F95Dd2F95Ed2F95Fd2F960d2F961d2F962d2F963d2F964d2F965d2F966d2F967d2F968d2F969d2F96Ad2F96B",
  "d2F96Cd2F96Dd2F96Ed2F96Fd2F970d2F971d2F972d2F973d2F974d2F975d2F976d2F977d2F978d2F979d2F97A",
  "d2F97Bd2F97Cd2F97Dd2F97Ed2F97Fd2F980d2F981d2F982d2F983d2F984d2F985d2F986d2F987d2F988d2F989",
  "d2F98Ad2F98Bd2F98Cd2F98Dd2F98Ed2F98Fd2F990d2F991d2F992d2F993d2F994d2F995d2F996d2F997d2F998",
  "d2F999d2F99Ad2F99Bd2F99Cd2F99Dd2F99Ed2F99Fd2F9A0d2F9A1d2F9A2d2F9A3d2F9A4d2F9A5d2F9A6d2F9A7",
  "d2F9A8d2F9A9d2F9AAd2F9ABd2F9ACd2F9ADd2F9AEd2F9AFd2F9B0d2F9B1d2F9B2d2F9B3d2F9B4d2F9B5d2F9B6",
  "d2F9B7d2F9B8d2F9B9d2F9BAd2F9BBd2F9BCd2F9BDd2F9BEd2F9BFd2F9C0d2F9C1d2F9C2d2F9C3d2F9C4d2F9C5",
  "d2F9C6d2F9C7d2F9C8d2F9C9d2F9CAd2F9CBd2F9CCd2F9CDd2F9CEd2F9CFd2F9D0d2F9D1d2F9D2d2F9D3d2F9D4",
  "d2F9D5d2F9D6d2F9D7d2F9D8d2F9D9d2F9DAd2F9DBd2F9DCd2F9DDd2F9DEd2F9DFd2F9E0d2F9E1d2F9E2d2F9E3",
  "d2F9E4d2F9E5d2F9E6d2F9E7d2F9E8d2F9E9d2F9EAd2F9EBd2F9ECd2F9EDd2F9EEd2F9EFd2F9F0d2F9F1d2F9F2",
  "d2F9F3d2F9F4d2F9F5d2F9F6d2F9F7d2F9F8d2F9F9d2F9FAd2F9FBd2F9FCd2F9FDd2F9FEd2F9FFd2FA00d2FA01",
  "d2FA02d2FA03d2FA04d2FA05d2FA06d2FA07d2FA08d2FA09d2FA0Ad2FA0Bd2FA0Cd2FA0Dd2FA0Ed2FA0Fd2FA10",
  "d2FA11d2FA12d2FA13d2FA14d2FA15d2FA16d2FA17d2FA18d2FA19d2FA1Ad2FA1Bd2FA1Cd2FA1DdF900dF901dF902",
  "dF903dF904dF905dF906dF907dF908dF909dF90AdF90BdF90CdF90DdF90EdF90FdF910dF911dF912dF913dF914dF915",
  "dF916dF917dF918dF919dF91AdF91BdF91CdF91DdF91EdF91FdF920dF921dF922dF923dF924dF925dF926dF927dF928",
  "dF929dF92AdF92BdF92CdF92DdF92EdF92FdF930dF931dF932dF933dF934dF935dF936dF937dF938dF939dF93AdF93B",
  "dF93CdF93DdF93EdF93FdF940dF941dF942dF943dF944dF945dF946dF947dF948dF949dF94AdF94BdF94CdF94DdF94E",
  "dF94FdF950dF951dF952dF953dF954dF955dF956dF957dF958dF959dF95AdF95BdF95CdF95DdF95EdF95FdF960dF961",
  "dF962dF963dF964dF965dF966dF967dF968dF969dF96AdF96BdF96CdF96DdF96EdF96FdF970dF971dF972dF973dF974",
  "dF975dF976dF977dF978dF979dF97AdF97BdF97CdF97DdF97EdF97FdF980dF981dF982dF983dF984dF985dF986dF987",
  "dF988dF989dF98AdF98BdF98CdF98DdF98EdF98FdF990dF991dF992dF993dF994dF995dF996dF997dF998dF999dF99A",
  "dF99BdF99CdF99DdF99EdF99FdF9A0dF9A1dF9A2dF9A3dF9A4dF9A5dF9A6dF9A7dF9A8dF9A9dF9AAdF9ABdF9ACdF9AD",
  "dF9AEdF9AFdF9B0dF9B1dF9B2dF9B3dF9B4dF9B5dF9B6dF9B7dF9B8dF9B9dF9BAdF9BBdF9BCdF9BDdF9BEdF9BFdF9C0",
  "dF9C1dF9C2dF9C3dF9C4dF9C5dF9C6dF9C7dF9C8dF9C9dF9CAdF9CBdF9CCdF9CDdF9CEdF9CFdF9D0dF9D1dF9D2dF9D3",
  "dF9D4dF9D5dF9D6dF9D7dF9D8dF9D9dF9DAdF9DBdF9DCdF9DDdF9DEdF9DFdF9E0dF9E1dF9E2dF9E3dF9E4dF9E5dF9E6",
  "dF9E7dF9E8dF9E9dF9EAdF9EBdF9ECdF9EDdF9EEdF9EFdF9F0dF9F1dF9F2dF9F3dF9F4dF9F5dF9F6dF9F7dF9F8dF9F9",
  "dF9FAdF9FBdF9FCdF9FDdF9FEdF9FFdFA00dFA01dFA02dFA03dFA04dFA05dFA06dFA07dFA08dFA09dFA0AdFA0BdFA0C",
  "dFA0DdFA0EdFA0FdFA10dFA11dFA12dFA13dFA14dFA15dFA16dFA17dFA18dFA19dFA1AdFA1BdFA1CdFA1DdFA1EdFA1F",
  "dFA20dFA21dFA22dFA23dFA24dFA25dFA26dFA27dFA28dFA29dFA2AdFA2BdFA2CdFA2DdFA2EdFA2FdFA30dFA31dFA32",
  "dFA33dFA34dFA35dFA36dFA37dFA38dFA39dFA3AdFA3BdFA3CdFA3DdFA3EdFA3FdFA40dFA41dFA42dFA43dFA44dFA45",
  "dFA46dFA47dFA48dFA49dFA4AdFA4BdFA4CdFA4DdFA4EdFA4FdFA50dFA51dFA52dFA53dFA54dFA55dFA56dFA57dFA58",
  "dFA59dFA5AdFA5BdFA5CdFA5DdFA5EdFA5FdFA60dFA61dFA62dFA63dFA64dFA65dFA66dFA67dFA68dFA69dFA6AdFA6B",
  "dFA6CdFA6DdFA70dFA71dFA72dFA73dFA74dFA75dFA76dFA77dFA78dFA79dFA7AdFA7BdFA7CdFA7DdFA7EdFA7FdFA80",
  "dFA81dFA82dFA83dFA84dFA85dFA86dFA87dFA88dFA89dFA8AdFA8BdFA8CdFA8DdFA8EdFA8FdFA90dFA91dFA92dFA93",
  "dFA94dFA95dFA96dFA97dFA98dFA99dFA9AdFA9BdFA9CdFA9DdFA9EdFA9FdFAA0dFAA1dFAA2dFAA3dFAA4dFAA5dFAA6",
  "dFAA7dFAA8dFAA9dFAAAdFAABdFAACdFAADdFAAEdFAAFdFAB0dFAB1dFAB2dFAB3dFAB4dFAB5dFAB6dFAB7dFAB8dFAB9",
  "dFABAdFABBdFABCdFABDdFABEdFABFdFAC0dFAC1dFAC2dFAC3dFAC4dFAC5dFAC6dFAC7dFAC8dFAC9dFACAdFACBdFACC",
  "dFACDdFACEdFACFdFAD0dFAD1dFAD2dFAD3dFAD4dFAD5dFAD6dFAD7dFAD8dFAD9bRADICAL BAMBOOcBLUE",
  "cBOLT OF CLOTHcBONEcBOXcBRUSH ONEdTWOcC-SIMPLIFIED BIRDeCARTeDRAGONeEATeEVENeFISHeFLYeFROGeGATE",
  "eGOLDeHORSEeLEAFeLONGeSALTeSEEeSHELLeSILKeSPEECHeTANNED LEATHEReTOOTHeTURTLEeWINDcCHOKEcCITY",
  "cCIVILIANcCLIFFcCLOTHEScCOWcDEATHcDIVINATIONcDOGcEAT ONEdTHREEdTWOcEWEcEYEcFIREcFOOTcGHOST",
  "cGRASS ONEdTHREEdTWOcHANDcHEADcHEART ONEdTWOcHORNcJ-SIMPLIFIED DRAGONeEVENeTOOTHeTURTLEcJADE",
  "cKNIFE ONEdTWOcLAME FOURdONEdTHREEdTWOcLONG ONEdTWOcMEATcMESHcMOONcMORTARcMOTHERcMOUND ONEdTWO",
  "cNET FOURdONEdTHREEdTWOcOLDcPAW ONEdTWOcPERSONcRAINcRAMcRAPcREPEATcSEALcSECOND ONEdTHREEdTWO",
  "cSHEEPcSILKcSIMPLIFIED HALF TREE TRUNKdHORNdWALKdWHEATdYELLOWcSMALL ONEdTWOcSNAKEcSNOUT ONEdTWO",
  "cSPIRIT ONEdTWOcSUNcTABLEcTHREADcTIGERcTURTLEcWALK ONEdTWOcWATER ONEdTWOcWEST ONEdTWO",
  "bSTROKE BXGcDcHcHGcHPcHPWGcHXWGcHZcHZGcHZTcHZWcHZWGcHZZcHZZPcHZZZcHZZZGcNcPcPDcPGcPZcQcScSGcSP",
  "cSTcSWcSWGcSWZcSZcSZWGcSZZcTcTNcWGcXGaCLAMSHELL MOBILE PHONEaCLAPPER BOARDaCLAPPING HANDS SIGN",
  "aCLASSICAL BUILDINGaCLEAR SCREEN SYMBOLaCLINKING BEER MUGSbGLASSESaCLIPBOARD",
  "aCLOCK FACE EIGHT OCLOCKcEIGHT-THIRTYcELEVEN OCLOCKcELEVEN-THIRTYcFIVE OCLOCKcFIVE-THIRTY",
  "cFOUR OCLOCKcFOUR-THIRTYcNINE OCLOCKcNINE-THIRTYcONE OCLOCKcONE-THIRTYcSEVEN OCLOCK",
  "cSEVEN-THIRTYcSIX OCLOCKcSIX-THIRTYcTEN OCLOCKcTEN-THIRTYcTHREE OCLOCKcTHREE-THIRTY",
  "cTWELVE OCLOCKcTWELVE-THIRTYcTWO OCLOCKcTWO-THIRTYaCLOCKWISE CLOSED CIRCLE ARROW",
  "bCONTOUR INTEGRALbDOWNWARDS AND UPWARDS OPEN CIRCLE ARROWSbGAPPED CIRCLE ARROWbINTEGRAL",
  "bOPEN CIRCLE ARROWbRIGHT AND LEFT SEMICIRCLE ARROWSbRIGHTWARDS AND LEFTWARDS OPEN CIRCLE ARROWS",
  "gARROWS WITH CIRCLED ONE OVERLAYbTOP SEMICIRCLE ARROWbTRIANGLE-HEADED OPEN CIRCLE ARROW",
  "aCLOSE UPaCLOSED BOOKbINTERSECTION WITH SERIFSbLOCK WITH KEYbMAILBOX WITH LOWERED FLAG",
  "dRAISED FLAGbSUBSETbSUBSET OR EQUAL TObSUPERSETbSUPERSET OR EQUAL TObUMBRELLAbUNION WITH SERIFS",
  "dSERIFS AND SMASH PRODUCTaCLOUDaCLOUD WITH LIGHTNINGcRAINcSNOWcTORNADOaCLOWN FACEaCOAT",
  "aCOCKROACHaCOCKTAIL GLASSaCOCONUTaCOFFINaCOINaCOLLISION SYMBOLaCOLONaCOLON EQUALSbSIGN",
  "aCOMBINING ACUTE ACCENTcACCENT BELOWcTONE MARKbACUTE-GRAVE-ACUTEcMACRONbALMOST EQUAL TO ABOVE",
  "eBELOWbANNUITY SYMBOLbANTICLOCKWISE ARROW ABOVEcRING OVERLAYbASTERISK ABOVEcBELOWbBINDU BELOW",
  "bBREVEbBREVE BELOWbBREVE-MACRONbBRIDGE ABOVEcBELOWbCANDRABINDUbCARONbCARON BELOWbCEDILLA",
  "bCIRCUMFLEX ACCENTcACCENT BELOWbCLOCKWISE ARROW ABOVEcRING OVERLAYbCOMMA ABOVEcABOVE RIGHT",
  "cBELOWbCONJOINING MACRONcMACRON BELOWbCYRILLIC DASIA PNEUMATAcHUNDRED MILLIONS SIGN",
  "dTHOUSANDS SIGNcKAVYKAcLETTER AdBEdBIG YUSdCHEdDEdDJERVdEFdELdEMdENdERdESdES-TEdFITAdGHEdHA",
  "dHARD SIGNdIdIEdIOTIFIED AeBIG YUSeEdKAdLITTLE YUSdMONOGRAPH UKdOdOMEGAdPEdSHAdSHCHAdSOFT SIGN",
  "dTEdTSEdUdUKRAINIAN IEdVEdYATdYERUdYIdYUdZEdZHEcMILLIONS SIGNcPALATALIZATIONcPAYEROKcPOKRYTIE",
  "cPSILI PNEUMATAcTEN MILLIONS SIGNcTHOUSAND MILLIONS SIGNcTITLOcTITLO LEFT HALFdRIGHT HALFcVZMET",
  "bDELETION MARKbDEVANAGARI DIGIT EIGHTdFIVEdFOURdNINEdONEdSEVENdSIXdTHREEdTWOdZEROcLETTER AdKA",
  "dNAdPAdRAdUdVIcSIGN AVAGRAHAbDIAERESISbDIAERESIS BELOWbDIAERESIS-RINGbDOT ABOVEcABOVE LEFT",
  "dRIGHTcBELOWcBELOW LEFTbDOTTED ACUTE ACCENTcGRAVE ACCENTbDOUBLE ACUTE ACCENTcBREVEcBREVE BELOW",
  "cCIRCUMFLEX ABOVEcGRAVE ACCENTcINVERTED BREVEdBREVE BELOWcLOW LINEcMACRONcMACRON BELOW",
  "cOPEN MARK BELOWcOVERLINEcPARENTHESES ABOVEcPLUS SIGN ABOVEeBELOWcRIGHTWARDS ARROW BELOW",
  "cRING BELOWcTILDEcTILDE LEFT HALFdRIGHT HALFcVERTICAL LINE ABOVEeBELOWdSTROKE OVERLAY",
  "bDOUBLED CIRCUMFLEX ACCENTbDOWN TACK BELOWbDOWNWARDS ARROWbENCLOSING CIRCLEcCIRCLE BACKSLASH",
  "cDIAMONDcKEYCAPcSCREENcSQUAREcUPWARD POINTING TRIANGLEbEQUALS SIGN BELOWbFERMATA",
  "bFOUR DOTS ABOVEbGLAGOLITIC LETTER AZUdBIG YUSdBUKYdCHRIVIdDJERVIdDOBROdFITAdFRITUdGLAGOLIdHERU",
  "dIdINITIAL IZHEdIOTATED BIG YUSeSMALL YUSdIZHEdKAKOdLJUDIJEdMYSLITEdNASHIdONUdPOKOJIdRITSIdSHA",
  "dSHTAdSLOVOdSMALL YUSdTSIdTVRIDOdUKUdVEDEdYATIdYERIdYERUdYESTUdYOdYUdZEMLJAdZHIVETE",
  "bGRANTHA DIGIT FIVEdFOURdONEdSIXdTHREEdTWOdZEROcLETTER AdKAdNAdPAdVIbGRAPHEME JOINER",
  "bGRAVE ACCENTcACCENT BELOWcTONE MARKbGRAVE-ACUTE-GRAVEcMACRONbGREEK DIALYTIKA TONOScKORONIS",
  "cMUSICAL PENTASEMEdTETRASEMEdTRISEMEcPERISPOMENIcYPOGEGRAMMENIbHOMOTHETIC ABOVEbHOOK ABOVEbHORN",
  "bINFINITYbINVERTED BREVEcBREVE BELOWcBRIDGE BELOWcDOUBLE ARCH ABOVEeBELOWbIS BELOW",
  "bKATAKANA-HIRAGANA SEMI-VOICED SOUND MARKdVOICED SOUND MARKbKAVYKA ABOVE LEFTdRIGHT",
  "bLATIN LETTER SMALL CAPITAL GfLfMfNfRcSMALL LETTER AeA WITH DIAERESISeAEeALPHAeAOeAVeBeBETAeC",
  "eC CEDILLAeDeEeESHeETHeFeFLATTENED OPEN A ABOVEeGeHeIeINSULAR DfGfRfTeKeL",
  "eL WITH DOUBLE MIDDLE TILDEeLONG SeMeNeOeO WITH DIAERESISgLIGHT CENTRALIZATION STROKEePeR",
  "eR BELOWfROTUNDAeSeSCHWAeTeTURNED W BELOWeUeU WITH DIAERESISgLIGHT CENTRALIZATION STROKEeVeW",
  "eW BELOWeXeZbLEFT ANGLE ABOVEdBELOWcARROW ABOVEdBELOWcARROWHEAD ABOVEdBELOWcHALF RING ABOVE",
  "eBELOWcHARPOON ABOVEcPARENTHESIS ABOVE LEFTdBELOW LEFTcRIGHT ARROW ABOVEeBELOWcTACK BELOW",
  "bLEFTWARDS ARROW OVERLAYcHARPOON WITH BARB DOWNWARDSbLIGATURE LEFT HALFdHALF BELOWcRIGHT HALF",
  "dHALF BELOWbLIGHT CENTRALIZATION STROKE BELOWbLONG DOUBLE SOLIDUS OVERLAYcSOLIDUS OVERLAY",
  "cSTROKE OVERLAYcVERTICAL LINE OVERLAYbLOW LINEbMACRONbMACRON BELOWcLEFT HALFdHALF BELOW",
  "cRIGHT HALFdHALF BELOWbMACRON-ACUTEcBREVEcGRAVEbMINUS SIGN BELOWbNOT TILDE ABOVE",
  "bNUMBER SIGN ABOVEbOGONEKbOGONEK ABOVEbOLD PERMIC LETTER ANeDOIeNENOEeSIIeZATAbOPEN MARK BELOW",
  "bOVERLINEbPALATALIZED HOOK BELOWbPARENTHESES ABOVEcBELOWcOVERLAYbPLUS SIGN ABOVEdBELOW",
  "bRETROFLEX HOOK BELOWbREVERSE SOLIDUS OVERLAYbREVERSED COMMA ABOVEbRIGHT ARROW ABOVEdBELOW",
  "cARROWHEAD ABOVEdAND DOWN ARROWHEAD BELOWeUP ARROWHEAD BELOWdBELOWcHALF RING ABOVEeBELOW",
  "cHARPOON ABOVEcPARENTHESIS ABOVE RIGHTdBELOW RIGHTcTACK BELOW",
  "bRIGHTWARDS HARPOON WITH BARB DOWNWARDSbRING ABOVEcBELOWcOVERLAYbSEAGULL BELOW",
  "bSHORT SOLIDUS OVERLAYcSTROKE OVERLAYcVERTICAL LINE OVERLAYbSNAKE BELOWbSQUARE BELOW",
  "cBRACKETS ABOVEbSTRONG CENTRALIZATION STROKE BELOWbSUSPENSION MARKbTHREE DOTS ABOVEbTILDE",
  "bTILDE BELOWcLEFT HALF BELOWcOVERLAYcRIGHT HALF BELOWbTRIPLE ACUTE ACCENTcDOTcUNDERDOT",
  "bTURNED COMMA ABOVEbUP TACK ABOVEdBELOWbUPWARDS ARROW BELOWbUR ABOVEbUS ABOVE",
  "bVERTICAL LINE ABOVEdBELOWcTILDEbWIDE BRIDGE ABOVEcINVERTED BRIDGE BELOWbWIGGLY LINE BELOW",
  "bX ABOVEcBELOWbX-X BELOWbZIGZAG ABOVEcBELOWaCOMETaCOMMAaCOMMERCIAL ATbMINUS SIGNaCOMPASS",
  "aCOMPLEMENTaCOMPOSITION SYMBOLaCOMPRESSIONaCONFETTI BALLaCONFOUNDED FACEaCONFUSED FACE",
  "aCONGRUENT WITH DOT ABOVEaCONICAL TAPERaCONJUNCTIONaCONSTRUCTION SIGNbWORKERaCONTAINS AS MEMBER",
  "cNORMAL SUBGROUPdSUBGROUP OR EQUAL TObWITH LONG HORIZONTAL STROKEcOVERBAR",
  "cVERTICAL BAR AT END OF HORIZONTAL STROKEaCONTINUOUS UNDERLINE SYMBOLaCONTOUR INTEGRAL",
  "aCONTROL KNOBSbSEQUENCE INTRODUCERaCONVENIENCE STOREaCOOKED RICEaCOOKIEaCOOKING",
  "aCOPTIC CAPITAL LETTER AKHMIMIC KHEIdALFAdBOHAIRIC KHEIdCROSSED SHEIdCRYPTOGRAMMIC EIEeGANGIA",
  "eNIeSHEIdDALDAdDEIdDIALECT-P ALEFfHORIfKAPAfNIdEIEdFEIdFIdGAMMAdGANGIAdHATEdHORIdIAUDAdKAPA",
  "dKHEIdKHIdKSIdL-SHAPED HAdLAULAdMIdNIdOdOLD COPTIC AINfDJAfESHfGANGIAfHAfHATfHEIfHORIfOOUfSHEI",
  "fSHIMAeNUBIAN NGIfNYIfSHIMAfWAUdOOUdPIdPSIdROdSAMPIdSHEIdSHIMAdSIMAdSOUdTAUdTHETHEdUAdVIDAdZATA",
  "bCOMBINING NI ABOVEcSPIRITUS ASPERdLENISbEPACT DIGIT EIGHTdFIVEdFOURdNINEdONEdSEVENdSIXdTHREE",
  "dTWOcNUMBER EIGHT HUNDREDdEIGHTYdFIFTYdFIVE HUNDREDdFORTYdFOUR HUNDREDdNINE HUNDREDdNINETY",
  "dONE HUNDREDdSEVEN HUNDREDdSEVENTYdSIX HUNDREDdSIXTYdTENdTHIRTYdTHREE HUNDREDdTWENTY",
  "dTWO HUNDREDcTHOUSANDS MARKbFRACTION ONE HALFbFULL STOPbMORPHOLOGICAL DIVIDER",
  "bOLD NUBIAN DIRECT QUESTION MARKdFULL STOPdINDIRECT QUESTION MARKdVERSE DIVIDER",
  "bSMALL LETTER AKHMIMIC KHEIdALFAdBOHAIRIC KHEIdCROSSED SHEIdCRYPTOGRAMMIC EIEeGANGIAeNIeSHEI",
  "dDALDAdDEIdDIALECT-P ALEFfHORIfKAPAfNIdEIEdFEIdFIdGAMMAdGANGIAdHATEdHORIdIAUDAdKAPAdKHEIdKHI",
  "dKSIdL-SHAPED HAdLAULAdMIdNIdOdOLD COPTIC AINfDJAfESHfGANGIAfHAfHATfHEIfHORIfOOUfSHEIfSHIMA",
  "eNUBIAN NGIfNYIfSHIMAfWAUdOOUdPIdPSIdROdSAMPIdSHEIdSHIMAdSIMAdSOUdTAUdTHETHEdUAdVIDAdZATA",
  "bSYMBOL KAIcKHI ROcMI ROcPI ROcSHIMA SIMAcSTAUROScTAU ROaCOPYLEFT SYMBOLaCOPYRIGHT SIGNaCORAL",
  "aCORNISH VERSE DIVIDERaCORRESPONDS TOaCOUCH AND LAMPaCOUNTERBOREaCOUNTERSINK",
  "aCOUNTING ROD TENS DIGIT EIGHTeFIVEeFOUReNINEeONEeSEVENeSIXeTHREEeTWOcUNIT DIGIT EIGHTeFIVE",
  "eFOUReNINEeONEeSEVENeSIXeTHREEeTWOaCOUPLE WITH HEARTaCOWaCOW FACEaCRaCRABaCREDIT CARD",
  "aCRESCENT MOONaCRICKETaCRICKET BAT AND BALLaCROCODILEaCROISSANTaCROSS MARKbOF JERUSALEM",
  "cLORRAINEbPATTY WITH LEFT CROSSBARdRIGHT CROSSBARbPOMMEEbPOMMEE WITH HALF-CIRCLE BELOW",
  "aCROSSED FLAGSbNEGATIVE SQUARED LATIN CAPITAL LETTER PbSWORDSaCROSSING LANESaCROWNaCRUTCH",
  "aCRUZEIRO SIGNaCRYING CAT FACEbFACEaCRYSTAL BALLaCSIaCUBE ROOTaCUCUMBER",
  "aCUNEIFORM NUMERIC SIGN EIGHT ASHeDISHeGESH2eSHAR2eUeU VARIANT FORMeVARIANT FORM USSUgUSSU3",
  "dELAMITE FIFTYeFORTYeONE THIRDeTWO THIRDSdFIVE ASHeASH TENUeBAN2eBAN2 VARIANT FORMeBURUeDISH",
  "eGESH2eGESHUeSHAR2eSHARUeSIXTHS DISHeUeU VARIANT FORMdFOUR ASHeASH TENUeBAN2eBAN2 VARIANT FORM",
  "eBURUeDISHeGESH2eGESHUeSHAR2eSHARUeUeU VARIANT FORMeVARIANT FORM LIMMUgLIMMU AhBgLIMMU4",
  "dNIGIDAESHdNIGIDAMINdNINE ASHeDISHeGESH2eSHAR2eUeU VARIANT FORMeVARIANT FORM ILIMMUgILIMMU A",
  "gILIMMU3gILIMMU4dOLD ASSYRIAN ONE QUARTERgSIXTHdONE BAN2eBURUeEIGHTH ASHeESHE3eGESH2eGESHU",
  "eHALF GUReQUARTER ASHfGUReSHARUeTHIRD DISHfVARIANT FORM AdSEVEN ASHeDISHeGESH2eSHAR2eU",
  "eU VARIANT FORMeVARIANT FORM IMIN AhBgIMIN3dSHAR2 TIMES GAL PLUS DISHhMINdSIX ASHeASH TENUeDISH",
  "eGESH2eSHAR2eUeU VARIANT FORMeVARIANT FORM ASH9dTHREE ASHeASH TENUeBAN2eBURUeBURU VARIANT FORM",
  "eDISHeGESH2eGESHUeSHAR2eSHAR2 VARIANT FORMeSHARUeSHARU VARIANT FORMeVARIANT FORM ESH16gESH21",
  "dTWO ASHeASH TENUeBAN2eBURUeESHE3eGESH2eGESHUeSHAR2eSHARUeTHIRDS DISHfVARIANT FORM A",
  "bPUNCTUATION SIGN DIAGONAL COLONeQUADCOLONeTRICOLONdOLD ASSYRIAN WORD DIVIDERdVERTICAL COLON",
  "bSIGN AcA TIMES AeBADeGAN2 TENUeHAeIGIeLAGAR GUNUeMUSHeSAGcA2cABcAB GUNUdTIMES ASH2eDUN3 GUNU",
  "eGALeGAN2 TENUeHAeIGI GUNUeIMINeLAGABeNUNeNUN TENUeSHESHeSHU2eU PLUS U PLUS UcAB2cAB2 TIMES A",
  "eBALAGeGAN2 TENUeME PLUS ENeSHA3eTAK4cADcAD TIMES ESH2cAKcAK TIMES ERIN2eSHITA PLUS GISHcAL",
  "cAL TIMES ALeDIM2eGISHeHAeKAD3eKIeSHEeUSHcALANcALEPHcAMARcAMAR TIMES KUGeSHEcANcAN OVER AN",
  "dPLUS NAGA OPPOSING AN PLUS NAGAfSQUAREDdTHREE TIMEScANSHEcAPINcARADcARAD TIMES KURcARKABcASAL2",
  "cASHcASH KABA TENUdOVER ASH OVER ASHgASH CROSSING ASH OVER ASH OVER ASH",
  "fTUG2 OVER TUG2 TUG2 OVER TUG2 PAPdZIDA TENUcASH2cASHGABcBAcBADcBAD TIMES DISH TENUcBAG3cBAHAR2",
  "cBAHAR2 TIMES AB2eNIeZAcBALcBAL OVER BALcBALAGcBARcBARA2cBIcBI TIMES AeGAReIGI GUNUcBU",
  "cBU CROSSING BUdOVER BU ABfTIMES NA2fUNcBULUGcBULUG OVER BULUGcBURcBUR2cDAcDA TIMES TAK4cDAG",
  "cDAG KISIM5 TIMES A PLUS MASHfAMARfBALAGfBIfGAfGA PLUS MASHfGIfGIR2fGUDfHAfIRfIR PLUS LUfKAKfLA",
  "fLUfLU PLUS MASH2fLUMfNEfPAP PLUS PAPfSIfTAK4fU2 PLUS GIR2hMASHfUSHdTIMES KURcDAG3cDAMcDAR",
  "cDARA3cDARA4cDIcDIBcDIMcDIM TIMES IGIeSHEeU U UcDIM2cDIM2 TIMES UDcDINcDIN KASKAL U GUNU DISH",
  "cDISHcDISH PLUS SHUcDUcDU GUNUdOVER DUdSHESHIGcDUBcDUB TIMES ESH2eSHEcDUB2cDUGcDUG TIMES ANSHE",
  "eASHeASH AT LEFTeDINeDUNeERIN2eGAeGIeGIR2 GUNUeGISHeHAeHIeIGI GUNUeKASKALeKUReKUSHU2",
  "eKUSHU2 PLUS KASKALeLAK-020eLAMeLAM TIMES KUReLUH PLUS GISHeMASHeMESeMIeNIePIeSHEeSI GUNUcDUGUD",
  "cDUHcDUNcDUN3cDUN3 GUNUdGUNU GUNUcDUN4cDUR2cEcE OVER E NUN OVER NUNdTIMES PAPcE2",
  "cE2 TIMES A PLUS HA PLUS DAeGAReKUReMIePAPeSALeSHEeUcEDINcEGIRcELcENcEN CROSSING ENdOPPOSING EN",
  "dSQUAREDdTIMES GAN2eGAN2 TENUeMEcERENcERIN2cERIN2 XcESH2cESH2 CROSSING ESH2cEZEN",
  "cEZEN SHESHIG TIMES ASHfHIfIGI GUNUfLAfLALfMEfMESfSUdTIMES AeA PLUS LALgLAL TIMES LALeANeBAD",
  "eDUN3 GUNUfGUNU GUNUeGUDeHAeHA GUNUeIGI GUNUeKASKALeKASKAL SQUAREDeKU3eLAeLAL TIMES LALeLIeLU",
  "eSHEeSUeU2eUDcGAcGA GUNUcGA2cGA2 OVER GA2dTIMES A PLUS DA PLUS HAgHAgIGIeAB2 TENU PLUS TABeAN",
  "eAN PLUS KAK PLUS AeASHeASH2eASH2 PLUS GALeBADeBAHAR2eBAR PLUS RAeBUReBUR PLUS RAeDAeDI",
  "eDIM GUNUfTIMES SHEeDUBeDUG TIMES IGI GUNUgKASKALeELeEL PLUS LAeENeEN TIMES GAN2 TENUeERENeGA",
  "eGAN2 TENUeGAReGAR PLUS DIgNEeGIeGI4eGI4 PLUS AeGIR2 PLUS SUeHA PLUS AgLU PLUS ESH2eHAL",
  "eHAL PLUS LAeHI PLUS LIeHUB2eIGI GUNUeISH PLUS HU PLUS ASHeKAKeKASKALeKIDeKID PLUS LAL",
  "eKU3 PLUS ANeKUSHU2 PLUS KASKALeLAeLAMeLAM TIMES KUReLUHeME PLUS ENeMIeMUSHeNEeNE PLUS E2gGI",
  "eNUNeNUN OVER NUNePAeSALeSAReSHEeSHE PLUS TUReSHIDeSHIMeSUMeTAK4eUeUDeUD PLUS DUeZIZ2cGABA",
  "cGABA CROSSING GABAdROTATED NINETY DEGREEScGADcGAD OVER GAD GAR OVER GARcGAL",
  "cGAL GAD OVER GAD GAR OVER GARcGALAMcGAMcGANcGAN2cGAN2 CROSSING GAN2dOVER GAN2dTENUcGARcGAR3",
  "cGASHANcGE22cGESHTINcGESHTIN TIMES KUReUcGIcGI CROSSING GIdTIMES EeUcGI4cGI4 CROSSING GI4",
  "dOVER GI4cGIDIMcGIGcGIR2cGIR2 GUNUcGIR3cGIR3 TIMES A PLUS IGIeGAN2 TENUeIGIeLU PLUS IGIePA",
  "cGISALcGISHcGISH CROSSING GISHdTENUdTIMES BADeGISH CROSSING GISHeTAK4cGUcGU CROSSING GUcGU2",
  "cGU2 GUNUdTIMES IGI GUNUeKAKeKAK TIMES IGI GUNUeNUNeSAL PLUS TUG2cGUDcGUD OVER GUD LUGAL",
  "dPLUS GISH TIMES TAK4dTIMES A PLUS KUReKURcGULcGUMcGUM TIMES SHEcGURcGUR7cGURUNcGURUSHcHA",
  "cHA GUNUdTENUdTENU GUNUcHALcHIcHI TIMES ASHeASH OVER HI TIMES ASHeASH2eBADeDISHeGADeKINeNUNeSHE",
  "eUcHUcHUB2cHUB2 TIMES ANeHALeKASKALeLISHeUDcHUL2cHUSHcIcI AcIBcIDIMcIDIM OVER IDIM BURfSQUARED",
  "cIGcIGIcIGI DIBdGUNUdOVER IGI SHIR OVER SHIR UD OVER UDdRIcILcIL TIMES GAN2 TENUcIL2cIM",
  "cIM CROSSING IMdOPPOSING IMdSQUAREDdTIMES TAK4cIMINcINcIRcISHcKAcKA TIMES AeADeAD PLUS KU3",
  "eANSHEeASH2eASH3eBADeBALAGeBAReBIeBUeERIN2eESH2eGAeGALeGAN2 TENUeGAReGAR PLUS SHA3 PLUS AeGI",
  "eGIR2eGISHeGISH CROSSING GISHfPLUS SAReGUeGUDeGUR7eHI TIMES ASH2eIGIeIMeKAeKAKeKIeKIDeLIeLUeLUM",
  "eMEeME PLUS DUgGIgTEeMIeMI PLUS NUNUZeNEeNUNePAePIeRUeSAeSAReSHAeSHEeSHIDeSHUeSHULeSIGeSUHUR",
  "eTAReTUeUeU U UeU2eUDeUMUM TIMES PAeUReUR2eUSHeZIcKA2cKA2 CROSSING KA2cKABcKAD2cKAD3cKAD4cKAD5",
  "cKAD5 OVER KAD5cKAKcKAK TIMES IGI GUNUcKALcKAL CROSSING KALdTIMES BADcKAM2cKAM4cKAP ELAMITE",
  "cKASKALcKASKAL LAGAB TIMES U OVER LAGAB TIMES UdOVER KASKAL LAGAB TIMES U OVER LAGAB TIMES U",
  "cKESH2cKIcKI TIMES BADeUeUDcKIDcKINcKISALcKISHcKISIM5cKISIM5 OVER KISIM5cKU",
  "cKU OVER HI TIMES ASH2 KU OVER HI TIMES ASH2cKU3cKU4cKU4 VARIANT FORMcKU7cKULcKUL GUNUcKUNcKUR",
  "cKUR OPPOSING KURcKUSHU2cKWU318cLAcLAGABcLAGAB SQUAREDdTIMES AeA PLUS DA PLUS HAgGARgLALeALeAN",
  "eASH ZIDA TENUeBADeBIeDAReENeGAeGAReGIeGUDeGUD PLUS GUDeHAeHALeHI TIMES NUNeIGI GUNUeIM",
  "eIM PLUS HAgLUeKIeKINeKU3eKULeKUL PLUS HI PLUS AeLAGABeLISHeLUeLULeMEeME PLUS ENeMUSHeNE",
  "eSHE PLUS SUMeSHITA PLUS GISH PLUS ERIN2hTENUeSHU2eSHU2 PLUS SHU2eSUMeTAGeTAK4",
  "eTE PLUS A PLUS SU PLUS NAeUeU PLUS AgU PLUS UeU2 PLUS ASHeUDeUSHeZU OVER ZUcLAGARcLAGAR GUNU",
  "dGUNU OVER LAGAR GUNU SHEdTIMES SHEeSHE PLUS SUMcLAHSHUcLAK-003d021d025d030d050d051d062",
  "d079 OVER LAK-079 GUNUd080d081 OVER LAK-081d092d130d142d210d219d220d225d228d238d265d266d343d347",
  "d348d383d384d390d441d449d449 TIMES GUfIGIfPAP PLUS LU3hPAP PLUS LU3fU2 PLUS BAd450d457d470d483",
  "d490d492d493d495d550d608d617d617 TIMES ASHfBADfDUN3 GUNU GUNUfKU3fLAfTARfTEfU2fUDfURUDAd636d648",
  "d648 TIMES DUBfGAfIGIfIGI GUNUfNIfPAP PLUS PAP PLUS LU3fSHESH PLUS KIfUDfURUDAd724d749cLAL",
  "cLAL TIMES LALcLAMcLAM TIMES KUReKUR PLUS RUcLIcLILcLIMMU2cLISHcLUcLU TIMES BADcLU2",
  "cLU2 CROSSING LU2dGUNU TIMES ASHdOPPOSING LU2dSHESHIGdSHESHIG TIMES BADdSQUAREDdTENUdTIMES AL",
  "eBADeDISHeESH2eESH2 PLUS LALfTENUeGAN2 TENUeHALeHI TIMES BADeIMeKAD2eKAD3eKAD3 PLUS ASHeKI",
  "eLA PLUS ASHeLAGABeME PLUS ENeNEeNUePAPePAP PLUS PAP PLUS LU3eSHUeSI PLUS ASHeSIK2 PLUS BUeTAK4",
  "eTUG2cLU3cLUGALcLUGAL OPPOSING LUGALdOVER LUGALdSHESHIGcLUHcLULcLUMcLUM OVER LUM",
  "eLUM GAR OVER GARcMAcMA GUNUdTIMES TAK4cMA2cMAHcMARcMASHcMASH2cMEcMEScMESHcMIcMI PLUS ZA7cMIN",
  "cMUcMU OVER MUcMUGcMUG GUNUcMUNSUBcMURGU2cMUSHcMUSH CROSSING MUSHdOVER MUSH",
  "eMUSH TIMES A PLUS NAgGAgKAKdTIMES AeKUReZAcMUSH3cMUSH3 GUNUdTIMES AeA PLUS DIeDIeZAcNAcNA2cNA4",
  "cNAGAcNAGA INVERTEDdOPPOSING NAGAdTIMES SHU TENUcNAGARcNAMcNAM NUTILLUcNAM2cNEcNE SHESHIG",
  "dTIMES AeUDcNIcNI TIMES EcNI2cNIMcNIM TIMES GAN2 TENUeGAR PLUS GAN2 TENUcNINcNIN9cNINDA2",
  "cNINDA2 TIMES ANeASHeASH PLUS ASHeBALeDIM GUNUeGIeGISHeGUDeGULeHIeKESH2eLAK-050eMASH",
  "eME PLUS GAN2 TENUeNEeNUNePAP PLUS PAPeSHEeSHE PLUS A ANgASHgASH PLUS ASHeUeU PLUS U",
  "eU2 PLUS ASHeURUDAeUSHcNISAGcNUcNU11cNU11 OVER NU11 BUR OVER BURdROTATED NINETY DEGREESdTENU",
  "cNUNcNUN CROSSING NUNeNUN LAGAR OVER LAGARdLAGAR TIMES GARfMASHfSAL",
  "fSAL OVER NUN LAGAR TIMES SALfUSHdOVER NUNdTENUcNUNUZcNUNUZ AB2 TIMES ASHGABfBIfDUGfGUD",
  "fIGI GUNUfKAD3fLAfNEfSILA3fU2dKISIM5 TIMES BIfBI UcPAcPADcPANcPAPcPESH2cPESH2 ASTERISKcPI",
  "cPI CROSSING PIdTIMES AeABeBIeBUeEeIeIBeUeU2cPIR2cPIRIGcPIRIG OPPOSING PIRIGdTIMES KALeUDeZAcRA",
  "cRABcRIcRUcSAcSAGcSAG GUNUdGUNU TIMES HAdNUTILLUdOVER SAGdTIMES AeDUeDUBeENeHAeIGI GUNUeKAKeKUR",
  "eLUMeMIeNUNeSALeSHE AT LEFTeSHIDeTABeTAK4eU2eUBeUMeUReUSHcSALcSAL LAGAB TIMES ASH2cSANGA2cSAR",
  "cSHAcSHA3cSHA3 TIMES AeBADeGISHeNEeSHU2eTUReUeU PLUS AcSHA6cSHA6 TENUcSHAB6cSHAR2cSHEcSHE HU",
  "dOVER SHEeSHE GAD OVER GAD GAR OVER GARfTAB OVER TAB GAR OVER GARdPLUS HUB2eNAM2eSARcSHEG9cSHEN",
  "cSHESHcSHESH2cSHESHLAMcSHIDcSHID TIMES AeIMcSHIMcSHIM TIMES AeBALeBULUGeDINeGAReIGIeIGI GUNU",
  "eKUSHU2eLULeMUGeSALcSHINIGcSHIRcSHIR OVER SHIR BUR OVER BURdTENUcSHITAcSHU",
  "cSHU OVER INVERTED SHUcSHU2cSHU2 PLUS DUG TIMES NIeE2 TIMES ANcSHUBURcSIcSI GUNUdTIMES TAK4cSIG",
  "cSIG4cSIG4 OVER SIG4 SHU2cSIK2cSILA3cSUcSU OVER SUcSUDcSUD2cSUHURcSUMcSUMASHcSURcSUR9cTA",
  "cTA ASTERISKdGUNUdTIMES HIeMIcTABcTAB OVER TAB NI OVER NI DISH OVER DISHdSQUAREDcTAG",
  "cTAG TIMES BIeGUDeSHEeSHUeTUG2eUDcTAK4cTAK4 PLUS SAGcTARcTEcTE GUNUcTIcTI TENUcTI2cTILcTIR",
  "cTIR OVER TIReTIR GAD OVER GAD GAR OVER GARdTIMES TAK4cTUcTUG2cTUKcTUMcTUM TIMES GAN2 TENU",
  "eTHREE DISHcTURcTUR OVER TUR ZA OVER ZAcUcU GUDdOVER U PA OVER PA GAR OVER GARfSUR OVER SUR",
  "fU REVERSED OVER U REVERSEDdUdU UcU2cUBcUDcUD GUNUdKUSHU2dSHESHIGdSHESHIG TIMES BADdTIMES BAD",
  "eMIeU PLUS U PLUS UiU GUNUcUDUGcUMcUM TIMES LAGABeMEeME PLUS DAeSHA3eUcUMBINcUMUM",
  "cUMUM TIMES KASKALePAcUNcUN GUNUcURcUR CROSSING URdSHESHIGcUR2cUR2 INVERTEDdTIMES A PLUS HAgNA",
  "eALeHAeNUNeU2eU2 PLUS ASHgBIeUDcUR4cURIcURI3cURUcURU TIMES AeASHGABeBAReDARA3eDUNeGAeGAL",
  "eGAN2 TENUeGAReGUeHAeIGIeIMeISHeKIeLAK-668eLU3eLUMeMINePAeSHEeSIG4eTUeU PLUS GUDeUDeURUDAcURUDA",
  "cURUDA TIMES UcUSHcUSH TIMES AeKUeKUReTAK4cUSH2cUSHUMXcUSHXcUTUKIcUZ3cUZ3 TIMES KASKALcUZUcZA",
  "cZA SQUARED TIMES KURdTENUcZA7cZAGcZAMXcZE2cZIcZI OVER ZIcZI3cZIBcZIB KABA TENUcZIGcZIZ2cZU",
  "cZU OVER ZU PLUS SARcZU5cZU5 TIMES AeTHREE DISH TENUcZUBURcZUMaCUP ON BLACK SQUAREbWITH STRAW",
  "aCUPCAKEaCUPIDOaCURLING STONEaCURLY BRACKET EXTENSIONbLOGICAL ANDcORbLOOPaCURRENCY EXCHANGE",
  "bSIGNaCURRY AND RICEaCURVED STEM PARAGRAPH SIGN ORNAMENTaCUSTARDaCUSTOMSaCUT OF MEATaCYCLONE",
  "aCYLINDRICITYaCYPRIOT SYLLABLE AcEcIcJAcJOcKAcKEcKIcKOcKUcLAcLEcLIcLOcLUcMAcMEcMIcMOcMUcNAcNE",
  "cNIcNOcNUcOcPAcPEcPIcPOcPUcRAcREcRIcROcRUcSAcSEcSIcSOcSUcTAcTEcTIcTOcTUcUcWAcWEcWIcWOcXAcXEcZA",
  "cZOaCYPRO-MINOAN SIGN CM001dCM002dCM004dCM005dCM006dCM007dCM008dCM009dCM010dCM011dCM012dCM012B",
  "dCM013dCM015dCM017dCM019dCM021dCM023dCM024dCM025dCM026dCM027dCM028dCM029dCM030dCM033dCM034",
  "dCM035dCM036dCM037dCM038dCM039dCM040dCM041dCM044dCM046dCM047dCM049dCM050dCM051dCM052dCM053",
  "dCM054dCM055dCM056dCM058dCM059dCM060dCM061dCM062dCM063dCM064dCM066dCM067dCM068dCM069dCM070",
  "dCM071dCM072dCM073dCM074dCM075dCM075BdCM076dCM078dCM079dCM080dCM081dCM082dCM083dCM084dCM085",
  "dCM086dCM087dCM088dCM089dCM090dCM091dCM092dCM094dCM095dCM096dCM097dCM098dCM099dCM100dCM101",
  "dCM102dCM103dCM104dCM105dCM107dCM108dCM109dCM110dCM112dCM114dCM301dCM302",
  "aCYRILLIC CAPITAL LETTER AdA WITH BREVEfDIAERESISdABKHASIAN CHEeCHE WITH DESCENDEReDZEeHA",
  "dALEUT KAdBARRED OeO WITH DIAERESISdBASHKIR KAdBEdBIG YUSdBINOCULAR OdBLENDED YUSdBROAD OMEGA",
  "dBYELORUSSIAN-UKRAINIAN IdCCHEdCHEdCHE WITH DESCENDERfDIAERESISfVERTICAL STROKE",
  "dCLOSED LITTLE YUSdCROSSED OdDCHEdDEdDJEdDJERVdDOUBLE MONOCULAR OeOdDWEdDZEdDZELOdDZHEdDZWE",
  "dDZZEdDZZHEdEdE WITH DIAERESISdEFdELdEL WITH DESCENDERfHOOKfMIDDLE HOOKfTAILdEMdEM WITH TAILdEN",
  "dEN WITH DESCENDERfHOOKfLEFT HOOKfMIDDLE HOOKfTAILdERdER WITH TICKdESdES WITH DESCENDERdFITA",
  "dGHEdGHE WITH DESCENDERfMIDDLE HOOKfSTROKEfSTROKE AND HOOKfUPTURNdGJEdHAdHA WITH DESCENDERfHOOK",
  "fSTROKEdHARD SIGNdHWEdIdI WITH DIAERESISfGRAVEfMACRONdIEdIE WITH BREVEfGRAVEdIOdIOTAdIOTIFIED A",
  "eBIG YUSeCLOSED LITTLE YUSeEeLITTLE YUSeYATdIZHITSAdIZHITSA WITH DOUBLE GRAVE ACCENTdJEdKA",
  "dKA WITH DESCENDERfHOOKfSTROKEfVERTICAL STROKEdKHAKASSIAN CHEdKJEdKOMI DEeDJEeDZJEeLJEeNJEeSJE",
  "eTJEeZJEdKOPPAdKSIdLHAdLITTLE YUSdLJEdMONOCULAR OdMONOGRAPH UKdNEUTRAL YERdNJEdO",
  "dO WITH DIAERESISdOMEGAdOMEGA WITH TITLOdOTdPEdPE WITH DESCENDERfMIDDLE HOOKdPSIdQA",
  "dREVERSED DZEeTSEeYUeZEdRHAdROUND OMEGAdSCHWAdSCHWA WITH DIAERESISdSEMISOFT SIGNdSHAdSHCHAdSHHA",
  "dSHHA WITH DESCENDERdSHORT IeI WITH TAILeUdSHWEdSOFT DEeELeEMeSIGNdSTRAIGHT UeU WITH STROKE",
  "dTCHEdTEdTE WITH DESCENDERfMIDDLE HOOKdTSEdTSHEdTSSEdTSWEdTWEdUdU WITH DIAERESISfDOUBLE ACUTE",
  "fMACRONdUKdUKRAINIAN IEdVEdWEdYAdYAEdYATdYERUdYERU WITH BACK YERfDIAERESISdYIdYNdYUdZE",
  "dZE WITH DESCENDERfDIAERESISdZEMLYAdZHEdZHE WITH BREVEfDESCENDERfDIAERESISdZHWEcLIGATURE A IE",
  "dEN GHEdTE TSEbKAVYKAbLETTER MULTIOCULAR OcPALOCHKAcSMALL CAPITAL ELbPAYEROKbSMALL LETTER A",
  "dA WITH BREVEfDIAERESISdABKHASIAN CHEeCHE WITH DESCENDEReDZEeHAdALEUT KAdBARRED O",
  "eO WITH DIAERESISdBASHKIR KAdBEdBIG YUSdBINOCULAR OdBLENDED YUSdBROAD OMEGA",
  "dBYELORUSSIAN-UKRAINIAN IdCCHEdCHEdCHE WITH DESCENDERfDIAERESISfVERTICAL STROKE",
  "dCLOSED LITTLE YUSdCROSSED OdDCHEdDEdDJEdDJERVdDOUBLE MONOCULAR OeOdDWEdDZEdDZELOdDZHEdDZWE",
  "dDZZEdDZZHEdEdE WITH DIAERESISdEFdELdEL WITH DESCENDERfHOOKfMIDDLE HOOKfTAILdEMdEM WITH TAILdEN",
  "dEN WITH DESCENDERfHOOKfLEFT HOOKfMIDDLE HOOKfTAILdERdER WITH TICKdESdES WITH DESCENDERdFITA",
  "dGHEdGHE WITH DESCENDERfMIDDLE HOOKfSTROKEfSTROKE AND HOOKfUPTURNdGJEdHAdHA WITH DESCENDERfHOOK",
  "fSTROKEdHARD SIGNdHWEdIdI WITH DIAERESISfGRAVEfMACRONdIEdIE WITH BREVEfGRAVEdIOdIOTAdIOTIFIED A",
  "eBIG YUSeCLOSED LITTLE YUSeEeLITTLE YUSeYATdIZHITSAdIZHITSA WITH DOUBLE GRAVE ACCENTdJEdKA",
  "dKA WITH DESCENDERfHOOKfSTROKEfVERTICAL STROKEdKHAKASSIAN CHEdKJEdKOMI DEeDJEeDZJEeLJEeNJEeSJE",
  "eTJEeZJEdKOPPAdKSIdLHAdLITTLE YUSdLJEdLONG-LEGGED DEdMONOCULAR OdMONOGRAPH UKdNARROW O",
  "dNEUTRAL YERdNJEdOdO WITH DIAERESISdOMEGAdOMEGA WITH TITLOdOTdPALOCHKAdPEdPE WITH DESCENDER",
  "fMIDDLE HOOKdPSIdQAdREVERSED DZEeTSEeYUeZEdRHAdROUND OMEGAdROUNDED VEdSCHWA",
  "dSCHWA WITH DIAERESISdSEMISOFT SIGNdSHAdSHCHAdSHHAdSHHA WITH DESCENDERdSHORT IeI WITH TAILeU",
  "dSHWEdSOFT DEeELeEMeSIGNdSTRAIGHT UeU WITH STROKEdTALL HARD SIGNeTEeYATdTCHEdTE",
  "dTE WITH DESCENDERfMIDDLE HOOKdTHREE-LEGGED TEdTSEdTSHEdTSSEdTSWEdTWEdUdU WITH DIAERESIS",
  "fDOUBLE ACUTEfMACRONdUKdUKRAINIAN IEdUNBLENDED UKdVEdWEdWIDE ESdYAdYAEdYATdYERU",
  "dYERU WITH BACK YERfDIAERESISdYIdYNdYUdZEdZE WITH DESCENDERfDIAERESISdZEMLYAdZHEdZHE WITH BREVE",
  "fDESCENDERfDIAERESISdZHWEcLIGATURE A IEdEN GHEdTE TSEbTHOUSANDS SIGN"]

end CircuitConsole.Text
