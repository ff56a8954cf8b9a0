/-!
Names of characters in the Unicode standard, version 14: those that begin with one of M to R.
How a listing is read is told where names are looked up.
-/

namespace CircuitConsole.Text

def namesInM : List String := [
  "aMACRONaMAGEaMAGIC WANDaMAGNETaMAHAJANI ABBREVIATION SIGNbLETTER AcBAcBHAcCAcCHAcDAcDDAcDDHA",
  "cDHAcEcGAcGHAcHAcIcJAcJHAcKAcKHAcLAcMAcNAcNNAcNYAcOcPAcPHAcRAcRRAcSAcTAcTHAcTTAcTTHAcUcVA",
  "bLIGATURE SHRIbSECTION MARKbSIGN NUKTAaMAHJONG TILE AUTUMNcBACKcBAMBOOcCHRYSANTHEMUMcEAST WIND",
  "cEIGHT OF BAMBOOSeCHARACTERSeCIRCLEScFIVE OF BAMBOOSeCHARACTERSeCIRCLEScFOUR OF BAMBOOS",
  "eCHARACTERSeCIRCLEScGREEN DRAGONcJOKERcNINE OF BAMBOOSeCHARACTERSeCIRCLEScNORTH WIND",
  "cONE OF BAMBOOSeCHARACTERSeCIRCLEScORCHIDcPLUMcRED DRAGONcSEVEN OF BAMBOOSeCHARACTERSeCIRCLES",
  "cSIX OF BAMBOOSeCHARACTERSeCIRCLEScSOUTH WINDcSPRINGcSUMMERcTHREE OF BAMBOOSeCHARACTERSeCIRCLES",
  "cTWO OF BAMBOOSeCHARACTERSeCIRCLEScWEST WINDcWHITE DRAGONcWINTERaMAKASAR ANGKAbEND OF SECTION",
  "bLETTER AcBAcCAcDAcGAcJAcKAcLAcMAcNAcNGAcNYAcPAcRAcSAcTAcVAcYAbPASSIMBANGbVOWEL SIGN EdIdOdU",
  "aMALAYALAM AU LENGTH MARKbDATE MARKbDIGIT EIGHTcFIVEcFOURcNINEcONEcSEVENcSIXcTHREEcTWOcZERO",
  "bFRACTION ONE EIGHTHdFIFTHdFORTIETHdHALFdONE-HUNDRED-AND-SIXTIETHdQUARTERdSIXTEENTHdTENTH",
  "dTWENTIETHcTHREE EIGHTIETHSdQUARTERSdSIXTEENTHSdTWENTIETHSbLETTER AcAAcAIcARCHAIC IIcAUcBAcBHA",
  "cCAcCHAcCHILLU KdLdLLdLLLdMdNdNNdRRdYcDAcDDAcDDHAcDHAcDOT REPHcEcEEcGAcGHAcHAcIcIIcJAcJHAcKA",
  "cKHAcLAcLLAcLLLAcMAcNAcNGAcNNAcNNNAcNYAcOcOOcPAcPHAcRAcRRAcSAcSHAcSSAcTAcTHAcTTAcTTHAcTTTAcUcUU",
  "cVAcVEDIC ANUSVARAcVOCALIC LdLLdRdRRcYAbNUMBER ONE HUNDREDdTHOUSANDcTENbSIGN ANUSVARAcAVAGRAHA",
  "cCANDRABINDUcCIRCULAR VIRAMAcCOMBINING ANUSVARA ABOVEcPARAcVERTICAL BAR VIRAMAcVIRAMAcVISARGA",
  "bVOWEL SIGN AAdAIdAUdEdEEdIdIIdOdOOdUdUUdVOCALIC LeLLeReRRaMALE AND FEMALE SIGNbSIGN",
  "bWITH STROKE AND MALE AND FEMALE SIGNdSIGNaMALTESE CROSSaMAMMOTHaMAN",
  "aMAN AND WOMAN HOLDING HANDSbDANCINGbIN BUSINESS SUIT LEVITATINGcTUXEDObWITH GUA PI MAOcTURBAN",
  "aMANAT SIGNaMANDAIC AFFRICATION MARKbGEMINATION MARKbLETTER ABcADcAGcAHcAINcAKcAKSAcALcAMcANcAP",
  "cAQcARcAScASHcASZcATcATTcAZcDUSHENNAcHALQAcINcITcKADcUSHENNAbPUNCTUATIONbVOCALIZATION MARK",
  "aMANGOaMANICHAEAN ABBREVIATION MARK ABOVEdBELOWbLETTER AAYINcALEPHcAYINcBETHcBHETHcDALETH",
  "cDHAMEDHcFEcGHIMELcGIMELcHEcHETHcJAYINcJHAYINcKAPHcKHAPHcLAMEDHcMEMcNUNcPEcQHOPHcQOPHcRESH",
  "cSADHEcSAMEKHcSHINcSSHINcTAWcTETHcTHAMEDHcWAWcXAPHcXOPHcYODHcZAYINcZHAYINbNUMBER FIVEcONE",
  "cONE HUNDREDcTENcTWENTYbPUNCTUATION DOTcDOT WITHIN DOTcDOUBLE DOT WITHIN DOTcFLEURON",
  "cLINE FILLERcSTARcTWO DOTSbSIGN UDaMANS SHOEaMANTELPIECE CLOCKaMANUAL WHEELCHAIR",
  "aMAP SYMBOL FOR LIGHTHOUSEaMAPLE LEAFaMARCHEN HEAD MARKbLETTER -AcAcBAcCAcCHAcDAcDZAcGAcHAcJA",
  "cKAcKHAcLAcMAcNAcNGAcNYAcPAcPHAcRAcSAcSHAcTAcTHAcTSAcTSHAcWAcYAcZAcZHAbMARK SHADbSIGN ANUSVARA",
  "cCANDRABINDUbSUBJOINED LETTER AdBAdCAdCHAdDAdDZAdGAdHAdJAdKAdKHAdLAdMAdNAdNGAdNYAdPAdPHAdRAdSA",
  "dSHAdTAdTHAdTSAdTSHAdWAdYAdZAdZHAbVOWEL SIGN AAdEdIdOdUaMARRIAGE SYMBOLaMARTIAL ARTS UNIFORM",
  "aMASARAM GONDI DIGIT EIGHTdFIVEdFOURdNINEdONEdSEVENdSIXdTHREEdTWOdZEROcLETTER AdAAdAIdAUdBAdBHA",
  "dCAdCHAdDAdDDAdDDHAdDHAdEdGAdGHAdHAdIdIIdJAdJHAdJNYAdKAdKHAdKSSAdLAdLLAdMAdNAdNGAdNNAdNYAdOdPA",
  "dPHAdRAdSAdSHAdSSAdTAdTHAdTRAdTTAdTTHAdUdUUdVAdYAcRA-KARAcREPHAcSIGN ANUSVARAdCANDRAdHALANTA",
  "dNUKTAdVISARGAcVIRAMAcVOWEL SIGN AAeAIeAUeEeIeIIeOeUeUUeVOCALIC RaMASCULINE ORDINAL INDICATOR",
  "aMASK WORK SYMBOLaMASU MARKaMATE DRINKaMATHEMATICAL BOLD CAPITAL AdALPHAdBdBETAdCdCHIdDdDELTA",
  "dDIGAMMAdEdEPSILONdETAdFdGdGAMMAdHdIdIOTAdJdKdKAPPAdLdLAMDAdMdMUdNdNUdOdOMEGAdOMICRONdPdPHIdPI",
  "dPSIdQdRdRHOdSdSIGMAdTdTAUdTHETAdTHETA SYMBOLdUdUPSILONdVdWdXdXIdYdZdZETAcDIGIT EIGHTdFIVEdFOUR",
  "dNINEdONEdSEVENdSIXdTHREEdTWOdZEROcEPSILON SYMBOLcFRAKTUR CAPITAL AeBeCeDeEeFeGeHeIeJeKeLeMeNeO",
  "ePeQeReSeTeUeVeWeXeYeZdSMALL AeBeCeDeEeFeGeHeIeJeKeLeMeNeOePeQeReSeTeUeVeWeXeYeZ",
  "cITALIC CAPITAL AeALPHAeBeBETAeCeCHIeDeDELTAeEeEPSILONeETAeFeGeGAMMAeHeIeIOTAeJeKeKAPPAeLeLAMDA",
  "eMeMUeNeNUeOeOMEGAeOMICRONePePHIePIePSIeQeReRHOeSeSIGMAeTeTAUeTHETAeTHETA SYMBOLeUeUPSILONeVeW",
  "eXeXIeYeZeZETAdEPSILON SYMBOLdKAPPA SYMBOLdNABLAdPARTIAL DIFFERENTIALdPHI SYMBOLdPI SYMBOL",
  "dRHO SYMBOLdSMALL AeALPHAeBeBETAeCeCHIeDeDELTAeEeEPSILONeETAeFeFINAL SIGMAeGeGAMMAeHeIeIOTAeJeK",
  "eKAPPAeLeLAMDAeMeMUeNeNUeOeOMEGAeOMICRONePePHIePIePSIeQeReRHOeSeSIGMAeTeTAUeTHETAeUeUPSILONeVeW",
  "eXeXIeYeZeZETAdTHETA SYMBOLcKAPPA SYMBOLcNABLAcPARTIAL DIFFERENTIALcPHI SYMBOLcPI SYMBOL",
  "cRHO SYMBOLcSCRIPT CAPITAL AeBeCeDeEeFeGeHeIeJeKeLeMeNeOePeQeReSeTeUeVeWeXeYeZdSMALL AeBeCeDeE",
  "eFeGeHeIeJeKeLeMeNeOePeQeReSeTeUeVeWeXeYeZcSMALL AdALPHAdBdBETAdCdCHIdDdDELTAdDIGAMMAdEdEPSILON",
  "dETAdFdFINAL SIGMAdGdGAMMAdHdIdIOTAdJdKdKAPPAdLdLAMDAdMdMUdNdNUdOdOMEGAdOMICRONdPdPHIdPIdPSIdQ",
  "dRdRHOdSdSIGMAdTdTAUdTHETAdUdUPSILONdVdWdXdXIdYdZdZETAcTHETA SYMBOLbDOUBLE-STRUCK CAPITAL AeBeD",
  "eEeFeGeIeJeKeLeMeOeSeTeUeVeWeXeYdDIGIT EIGHTeFIVEeFOUReNINEeONEeSEVENeSIXeTHREEeTWOeZERO",
  "dSMALL AeBeCeDeEeFeGeHeIeJeKeLeMeNeOePeQeReSeTeUeVeWeXeYeZbFALLING DIAGONALbFRAKTUR CAPITAL AdB",
  "dDdEdFdGdJdKdLdMdNdOdPdQdSdTdUdVdWdXdYcSMALL AdBdCdDdEdFdGdHdIdJdKdLdMdNdOdPdQdRdSdTdUdVdWdXdY",
  "dZbITALIC CAPITAL AdALPHAdBdBETAdCdCHIdDdDELTAdEdEPSILONdETAdFdGdGAMMAdHdIdIOTAdJdKdKAPPAdL",
  "dLAMDAdMdMUdNdNUdOdOMEGAdOMICRONdPdPHIdPIdPSIdQdRdRHOdSdSIGMAdTdTAUdTHETAdTHETA SYMBOLdU",
  "dUPSILONdVdWdXdXIdYdZdZETAcEPSILON SYMBOLcKAPPA SYMBOLcNABLAcPARTIAL DIFFERENTIALcPHI SYMBOL",
  "cPI SYMBOLcRHO SYMBOLcSMALL AdALPHAdBdBETAdCdCHIdDdDELTAdDOTLESS IeJdEdEPSILONdETAdF",
  "dFINAL SIGMAdGdGAMMAdIdIOTAdJdKdKAPPAdLdLAMDAdMdMUdNdNUdOdOMEGAdOMICRONdPdPHIdPIdPSIdQdRdRHOdS",
  "dSIGMAdTdTAUdTHETAdUdUPSILONdVdWdXdXIdYdZdZETAcTHETA SYMBOLbLEFT ANGLE BRACKET",
  "cDOUBLE ANGLE BRACKETcFLATTENED PARENTHESIScWHITE SQUARE BRACKETdTORTOISE SHELL BRACKET",
  "bMONOSPACE CAPITAL AdBdCdDdEdFdGdHdIdJdKdLdMdNdOdPdQdRdSdTdUdVdWdXdYdZcDIGIT EIGHTdFIVEdFOUR",
  "dNINEdONEdSEVENdSIXdTHREEdTWOdZEROcSMALL AdBdCdDdEdFdGdHdIdJdKdLdMdNdOdPdQdRdSdTdUdVdWdXdYdZ",
  "bRIGHT ANGLE BRACKETcDOUBLE ANGLE BRACKETcFLATTENED PARENTHESIScWHITE SQUARE BRACKET",
  "dTORTOISE SHELL BRACKETbRISING DIAGONALbSANS-SERIF BOLD CAPITAL AfALPHAfBfBETAfCfCHIfDfDELTAfE",
  "fEPSILONfETAfFfGfGAMMAfHfIfIOTAfJfKfKAPPAfLfLAMDAfMfMUfNfNUfOfOMEGAfOMICRONfPfPHIfPIfPSIfQfR",
  "fRHOfSfSIGMAfTfTAUfTHETAfTHETA SYMBOLfUfUPSILONfVfWfXfXIfYfZfZETAeDIGIT EIGHTfFIVEfFOURfNINE",
  "fONEfSEVENfSIXfTHREEfTWOfZEROeEPSILON SYMBOLeITALIC CAPITAL AgALPHAgBgBETAgCgCHIgDgDELTAgE",
  "gEPSILONgETAgFgGgGAMMAgHgIgIOTAgJgKgKAPPAgLgLAMDAgMgMUgNgNUgOgOMEGAgOMICRONgPgPHIgPIgPSIgQgR",
  "gRHOgSgSIGMAgTgTAUgTHETAgTHETA SYMBOLgUgUPSILONgVgWgXgXIgYgZgZETAfEPSILON SYMBOLfKAPPA SYMBOL",
  "fNABLAfPARTIAL DIFFERENTIALfPHI SYMBOLfPI SYMBOLfRHO SYMBOLfSMALL AgALPHAgBgBETAgCgCHIgDgDELTA",
  "gEgEPSILONgETAgFgFINAL SIGMAgGgGAMMAgHgIgIOTAgJgKgKAPPAgLgLAMDAgMgMUgNgNUgOgOMEGAgOMICRONgPgPHI",
  "gPIgPSIgQgRgRHOgSgSIGMAgTgTAUgTHETAgUgUPSILONgVgWgXgXIgYgZgZETAfTHETA SYMBOLeKAPPA SYMBOLeNABLA",
  "ePARTIAL DIFFERENTIALePHI SYMBOLePI SYMBOLeRHO SYMBOLeSMALL AfALPHAfBfBETAfCfCHIfDfDELTAfE",
  "fEPSILONfETAfFfFINAL SIGMAfGfGAMMAfHfIfIOTAfJfKfKAPPAfLfLAMDAfMfMUfNfNUfOfOMEGAfOMICRONfPfPHI",
  "fPIfPSIfQfRfRHOfSfSIGMAfTfTAUfTHETAfUfUPSILONfVfWfXfXIfYfZfZETAeTHETA SYMBOLdCAPITAL AeBeCeDeE",
  "eFeGeHeIeJeKeLeMeNeOePeQeReSeTeUeVeWeXeYeZdDIGIT EIGHTeFIVEeFOUReNINEeONEeSEVENeSIXeTHREEeTWO",
  "eZEROdITALIC CAPITAL AfBfCfDfEfFfGfHfIfJfKfLfMfNfOfPfQfRfSfTfUfVfWfXfYfZeSMALL AfBfCfDfEfFfGfH",
  "fIfJfKfLfMfNfOfPfQfRfSfTfUfVfWfXfYfZdSMALL AeBeCeDeEeFeGeHeIeJeKeLeMeNeOePeQeReSeTeUeVeWeXeYeZ",
  "bSCRIPT CAPITAL AdCdDdGdJdKdNdOdPdQdSdTdUdVdWdXdYdZcSMALL AdBdCdDdFdHdIdJdKdLdMdNdPdQdRdSdTdUdV",
  "dWdXdYdZaMAXIMIZEaMAYAN NUMERAL EIGHTcEIGHTEENcELEVENcFIFTEENcFIVEcFOURcFOURTEENcNINEcNINETEEN",
  "cONEcSEVENcSEVENTEENcSIXcSIXTEENcTENcTHIRTEENcTHREEcTWELVEcTWOcZEROaMEASURED ANGLE",
  "bANGLE OPENING LEFTcWITH OPEN ARM ENDING IN ARROW POINTING DOWN AND LEFTlRIGHTjLEFT AND DOWNlUP",
  "jRIGHT AND DOWNlUPjUP AND LEFTlRIGHTbBYbRIGHT ANGLE WITH DOTaMEAT ON BONEaMECHANICAL ARMbLEG",
  "aMEDEFAIDRIN CAPITAL LETTER AdAIdATIUdBdCdDdEdFdGdHdHPdIdJdKdKPdLdMdNdNGdNYdOdOEdPdQdRdSdTdUdV",
  "dWdXdYdYUdZbCOMMAbDIGIT EIGHTcFIVEcFOURcNINEcONEcONE ALTERNATE FORMcSEVENcSIXcTHREE",
  "cTHREE ALTERNATE FORMcTWOcTWO ALTERNATE FORMcZERObEXCLAMATION OHbFULL STOPbNUMBER EIGHTEEN",
  "cELEVENcFIFTEENcFOURTEENcNINETEENcSEVENTEENcSIXTEENcTENcTHIRTEENcTWELVEbSMALL LETTER AdAIdATIU",
  "dBdCdDdEdFdGdHdHPdIdJdKdKPdLdMdNdNGdNYdOdOEdPdQdRdSdTdUdVdWdXdYdYUdZbSYMBOL AIVAaMEDIEVAL COMMA",
  "bEXCLAMATION MARKbQUESTION MARKaMEDIUM BLACK CIRCLEbBOLD WHITE CIRCLEbEIGHT POINTED BLACK STAR",
  "cSPOKED ASTERISKbFIVE SPOKED ASTERISKbFLATTENED LEFT PARENTHESIS ORNAMENT",
  "cRIGHT PARENTHESIS ORNAMENTbFOUR POINTED BLACK STARdPINWHEEL STARbGREEK CROSS",
  "bLEFT CURLY BRACKET ORNAMENTcPARENTHESIS ORNAMENTbLEFT-POINTING ANGLE BRACKET ORNAMENT",
  "bMATHEMATICAL SPACEbRIGHT CURLY BRACKET ORNAMENTcPARENTHESIS ORNAMENT",
  "bRIGHT-POINTING ANGLE BRACKET ORNAMENTbSALTIREbSHADEbSIX POINTED BLACK STARcSPOKED ASTERISK",
  "bSMALL WHITE CIRCLEbTHREE POINTED BLACK STARdPINWHEEL STARbVERTICAL BARbWHITE CIRCLEcSQUARE",
  "aMEETEI MAYEK AHANG KHUDAMcANJIcAPUN IYEKcCHEIKHANcCHEIKHEIcDIGIT EIGHTdFIVEdFOURdNINEdONE",
  "dSEVENdSIXdTHREEdTWOdZEROcLETTER ATIYAdBAdBHAMdCHAdCHILdDDAdDDHAdDHOUdDILdEdGHOUdGOKdHUKdI",
  "dI LONSUMdJHAMdJILdKHOUdKOKdKOK LONSUMdLAIdLAI LONSUMdMITdMIT LONSUMdNAdNA LONSUMdNGOU",
  "dNGOU LONSUMdNNAdNYAdOdPAdPA LONSUMdPHAMdRAIdSAMdSHAdSSAdTHOUdTILdTIL LONSUMdTTAdTTHAdUNdWAI",
  "dYANGcLUM IYEKcSYLLABLE REPETITION MARKcVIRAMAcVOWEL SIGN AAIeAAUeANAPeAUeCHEINAPeIIeINAPeNUNG",
  "eONAPeSOUNAPeUNAPeUUeVISARGAeYENAPcWORD REPETITION MARKaMELONaMELTING FACEaMEMO",
  "aMENDE KIKAKUI COMBINING NUMBER HUNDRED THOUSANDSeHUNDREDSeMILLIONSeTEENSeTEN THOUSANDSeTENS",
  "eTHOUSANDScDIGIT EIGHTdFIVEdFOURdNINEdONEdSEVENdSIXdTHREEdTWOcSYLLABLE M001 KIdM002 KAdM003 KU",
  "dM004 WIdM005 WAdM006 WUdM007 MINdM008 MANdM009 MUNdM010 BIdM011 BAdM012 BUdM013 IdM014 A",
  "dM015 UdM016 DIdM017 DAdM018 DUdM019 SIdM020 SAdM021 SUdM022 TIdM023 TAdM024 TUdM025 LIdM026 LA",
  "dM027 LUdM028 JIdM029 JAdM030 JUdM031 YIdM032 YAdM033 YUdM034 FIdM035 FAdM036 FUdM037 NIN",
  "dM038 NANdM039 NUNdM040 HEEdM041 HAdM042 HOOdM043 NGGAdM044 KPEEdM045 WOdM046 HUANdM047 MBEE",
  "dM048 KOdM049 WVAdM050 PUdM051 PEdM052 HENdM053 HINdM054 LOOdM055 TEdM056 GBAdM057 NGON",
  "dM058 NYANdM059 MENdM060 NYONdM061 WVIdM062 MBAdM063 JOdM064 NDOdM065 KEEdM066 POdM067 NDOO",
  "dM068 PIdM069 TOdM070 GBOdM071 GBOOdM072 MBEdM073 LEdM074 KPUdM075 FEdM076 KOOdM077 VOdM078 FEE",
  "dM079 SOdM080 YEdM081 PEEdM082 NGGUdM083 HEEIdM084 LEEdM085 VEdM086 LONG NGGEdM087 HUNdM088 FO",
  "dM089 DEEdM090 NGGIdM091 TEEdM092 KPAdM093 GBEEdM094 MONdM095 KEdM096 HEdM097 BEdM098 NYEN",
  "dM099 PAdM100 EdM101 FANdM102 POOdM103 BOOdM104 TOOdM105 LONG MBOOdM106 LONG NGGOOdM107 GBE",
  "dM108 KPEdM109 YEEdM110 LONG LEdM111 GAdM112 KPOOdM113 JEdM114 WOOdM115 NGGEEdM116 SEdM117 NEN",
  "dM118 WEdM119 NDEdM120 NGGOdM121 YOdM122 MBUdM123 NDIdM124 GBIdM125 NDUdM126 WEEdM127 NGGUA",
  "dM128 HOOUdM129 NDAdM130 HANdM131 INdM132 KPIdM133 FOOdM134 NJOOdM135 INdM136 SOOdM137 EI",
  "dM138 BOdM139 WVEdM140 HOdM141 YOOdM142 LONG MBOdM143 WEIdM144 VOOdM145 MBIdM146 NGGEdM147 O",
  "dM148 GBUdM149 NJEEdM150 BEEdM151 VUdM152 NJAdM153 LOdM154 MUANdM155 GIdM156 NGGOOdM157 JEE",
  "dM158 KPOdM159 NGGAAdM160 JOOdM161 LONG MBEdM162 SEEdM163 EEdM164 NYINdM165 OOdM166 GUEI",
  "dM167 GUANdM168 GUdM169 NONdM170 NYUNdM171 RAdM172 MBOOdM173 VEEdM174 MBOdM175 LONG JOdM176 HI",
  "dM177 NGUANdM178 ENdM179 KUAdM180 DOOdM181 DOdM182 VIdM183 LONG NGGOdM184 NGENdM185 VAdM186 HU",
  "dM187 MBUUdM188 MBEEdM189 MUENdM190 GEEdM191 NDEEdM192 NJUdM193 HONdM194 WUIdM195 ANdM196 SIA",
  "dM197 FUAaMENORAH WITH NINE BRANCHESaMENS SYMBOLaMERCURY",
  "aMEROITIC CURSIVE FRACTION EIGHT TWELFTHSdELEVEN TWELFTHSdFIVE TWELFTHSdFOUR TWELFTHS",
  "dNINE TWELFTHSdONE HALFeTWELFTHdSEVEN TWELFTHSdSIX TWELFTHSdTEN TWELFTHSdTHREE TWELFTHS",
  "dTWO TWELFTHScLETTER AdARCHAIC SAdBAdDAdEdHHAdIdKAdKHAdLAdMAdNAdNEdOdPAdQAdRAdSAdSEdTAdTEdTOdWA",
  "dYAcLOGOGRAM IMNdRMTcNUMBER EIGHTdEIGHT HUNDREDeHUNDRED THOUSANDeTHOUSANDdEIGHTY THOUSANDdFIFTY",
  "dFIFTY THOUSANDdFIVEdFIVE HUNDREDeHUNDRED THOUSANDeTHOUSANDdFORTYdFORTY THOUSANDdFOUR",
  "dFOUR HUNDREDeHUNDRED THOUSANDeTHOUSANDdNINEdNINE HUNDREDeHUNDRED THOUSANDeTHOUSAND",
  "dNINETY THOUSANDdONEdONE HUNDREDeHUNDRED THOUSANDeTHOUSANDdSEVENdSEVEN HUNDREDeHUNDRED THOUSAND",
  "eTHOUSANDdSEVENTYdSEVENTY THOUSANDdSIXdSIX HUNDREDeHUNDRED THOUSANDeTHOUSANDdSIXTY",
  "dSIXTY THOUSANDdTENdTEN THOUSANDdTHIRTYdTHIRTY THOUSANDdTHREEdTHREE HUNDREDeHUNDRED THOUSAND",
  "eTHOUSANDdTWENTYdTWENTY THOUSANDdTWOdTWO HUNDREDeHUNDRED THOUSANDeTHOUSAND",
  "bHIEROGLYPHIC LETTER AdBAdBA-2dDAdEdHHAdIdKAdKHAdLAdMAdNAdNA-2dNEdNE-2dOdPAdQAdRAdRA-2dSAdSA-2",
  "dSEdTAdTA-2dTEdTE-2dTOdWAdYAcSYMBOL VIDJdVIDJ-2aMERPERSONaMESSAGE WAITINGaMETRICAL BREVE",
  "bLONG OVER SHORTdTWO SHORTSbPENTASEMEbSHORT OVER LONGbTETRASEMEbTRISEMEbTWO SHORTS JOINED",
  "dOVER LONGaMETROaMIAO LETTER AHcARCHAIC MAdNAdNGAdZZAcBAcBRIcDAcDDAcDLHAcDLHYAcDZAcDZHAcDZYI",
  "cDZZAcFAcGAcGHAcGHHAcHAcHHAcKAcLAcLHAcLHYAcLYAcMAcMHAcNAcNASALIZATIONcNGAcNGHAcNHAcNNAcNNHAcNYA",
  "cNYHAcPAcPLAcQAcQGAcREFORMED TONE-1e2e4e5e6e8dTSHAcRTEcSAcSHAcSSAcSYIcTAcTEcTLHAcTLHYAcTONE-2d3",
  "d4d5d6d7d8cTSAcTSEcTSHAcTSSAcTTAcVAcVFAcWAcXAcYI DZHAdKAdNNAdPAdTAdTSAdTSHAdTTAcZAcZHAcZSAcZSHA",
  "cZZAcZZSAcZZSYAcZZYAbSIGN ASPIRATIONcCONSONANT MODIFIER BARcREFORMED ASPIRATIONdVOICING",
  "bTONE ABOVEcBELOWcRIGHTcTOP RIGHTbVOWEL SIGN AdAAdAEdAEEdAHHdAIdANdANGdAUdEdEAdEIdENdENGdERdERR",
  "dIdIAdIANdIANGdIEdIGdIIdINGdIOdIONGdIUdNdNGdOdOERdOEYdOGdOOdOUdROUNDED EReERRdUdUAdUANdUANGdUEI",
  "dUIdUNGdUOGdUUdVWdWdWOdYdYIdYUIaMICR DASH SYMBOLbON US SYMBOLaMICRO SIGNaMICROBEaMICROPHONE",
  "aMICROSCOPEaMIDDLE DOTbTHIRD WHITE RIGHT POINTING INDEXaMIDLINE HORIZONTAL ELLIPSIS",
  "aMILITARY HELMETbMEDALaMILKY WAYaMILL SIGNaMINIBUSaMINIDISCaMINIMIZEaMINUS SIGN",
  "bSIGN IN TRIANGLEcWITH COMMA ABOVEdDOT BELOWdFALLING DOTSdRISING DOTSbTILDEaMINUS-OR-PLUS SIGN",
  "aMINYaMIRRORaMIRROR BALLaMMSPaMOBILE PHONEbPHONE OFFcWITH RIGHTWARDS ARROW AT LEFTaMODELS",
  "aMODERN PENTATHLONaMODI ABBREVIATION SIGNbDANDAbDIGIT EIGHTcFIVEcFOURcNINEcONEcSEVENcSIXcTHREE",
  "cTWOcZERObDOUBLE DANDAbLETTER AcAAcAIcAUcBAcBHAcCAcCHAcDAcDDAcDDHAcDHAcEcGAcGHAcHAcIcIIcJAcJHA",
  "cKAcKHAcLAcLLAcMAcNAcNGAcNNAcNYAcOcPAcPHAcRAcSAcSHAcSSAcTAcTHAcTTAcTTHAcUcUUcVAcVOCALIC LdLLdR",
  "dRRcYAbSIGN ANUSVARAcARDHACANDRAcHUVAcVIRAMAcVISARGAbVOWEL SIGN AAdAIdAUdEdIdIIdOdUdUU",
  "dVOCALIC LeLLeReRRaMODIFIER BREVE WITH INVERTED BREVEbLETTER ACUTE ACCENTcALVEOLAR CLICK",
  "cAPOSTROPHEcBEGIN HIGH TONEdLOW TONEcBILABIAL CLICKcCAPITAL AdAEdBdBARRED BdCdDdEdFdGdH",
  "dH WITH STROKEdIdJdKdLdMdNdOdOUdPdQdRdREVERSED EeNdTdUdVdWcCENTRED LEFT HALF RING",
  "dRIGHT HALF RINGcCHINESE TONE YANG PINGfQUfRUfSHANGeYIN PINGfQUfRUfSHANGcCIRCUMFLEX ACCENT",
  "cCOLONcCROSS ACCENTcCYRILLIC ENdHARD SIGNdSOFT SIGNcDENTAL CLICKcDOT HORIZONTAL BARdSLASH",
  "dVERTICAL BARcDOUBLE APOSTROPHEdPRIMEcDOWN ARROWHEADdTACKcEND HIGH TONEdLOW TONE",
  "cEXTRA-HIGH DOTTED LEFT-STEM TONE BARfTONE BAReLEFT-STEM TONE BAReTONE BAR",
  "dLOW DOTTED LEFT-STEM TONE BARfTONE BAReLEFT-STEM TONE BAReTONE BARcGEORGIAN NARcGLOTTAL STOP",
  "dSTOP WITH STROKEcGRAVE ACCENTcHALF TRIANGULAR COLONcHIGH DOTTED LEFT-STEM TONE BAReTONE BAR",
  "dLEFT-STEM TONE BARdTONE BARcLATERAL CLICKcLEFT ARROWHEADdHALF RINGdTACKcLOW ACUTE ACCENT",
  "dCIRCUMFLEX ACCENTdDOTTED LEFT-STEM TONE BAReTONE BARdDOWN ARROWHEADdGRAVE ACCENT",
  "dINVERTED EXCLAMATION MARKdLEFT ARROWeARROWHEADdLEFT-STEM TONE BARdMACRONdRIGHT ARROWHEADdRING",
  "dTILDEdTONE BARdUP ARROWHEADdVERTICAL LINEcLOWER RIGHT CORNER ANGLEcMACRON",
  "cMID DOTTED LEFT-STEM TONE BAReTONE BARdLEFT-STEM TONE BARdTONE BARcMIDDLE DOUBLE ACUTE ACCENT",
  "eGRAVE ACCENTdGRAVE ACCENTcMINUS SIGNcOPEN SHELFcPLUS SIGNcPRIMEcRAISED COLONdDOWN ARROW",
  "dEXCLAMATION MARKdINVERTED EXCLAMATION MARKdUP ARROWcRETROFLEX CLICK WITH RETROFLEX HOOK",
  "cREVERSED COMMAdGLOTTAL STOPeSTOP WITH STROKEcRHOTIC HOOKcRIGHT ARROWHEADdHALF RINGdTACKcSHELF",
  "cSHORT EQUALS SIGNcSMALL AdAEdAINdALPHAdBdB WITH HOOKdBARRED OdBETAdBOTTOM HALF OdCdC WITH CURL",
  "dCAPITAL AAeBeGeG WITH HOOKeHeIeI WITH STROKEeINVERTED ReLeL WITH BELTeNeOEeReUeYdCHI",
  "dCLOSED OMEGAeREVERSED OPEN EdDdD WITH HOOKfHOOK AND TAILfTAILdDELTAdDEZH DIGRAPH",
  "dDOTLESS J WITH STROKEgSTROKE AND HOOKdDZ DIGRAPHeDIGRAPH WITH CURLgRETROFLEX HOOKdEdENGdESH",
  "dETHdEZHdFdFENG DIGRAPHdGdG WITH HOOKdGAMMAdGREEK GAMMAePHIdHdH WITH HOOKfSTROKEdHENG",
  "dHENG WITH HOOKdI WITH STROKEdIOTAdJdJ WITH CROSSED-TAILdKdLdL WITH BELTfINVERTED LAZY S",
  "fMIDDLE TILDEfPALATAL HOOKfRETROFLEX HOOKgHOOK AND BELTdLEZHdLEZH WITH RETROFLEX HOOK",
  "dLIGATURE OEdLS DIGRAPHdLZ DIGRAPHdMdM WITH HOOKdN WITH LEFT HOOKfRETROFLEX HOOKdO",
  "dO WITH STROKEdOPEN EeOdPdPHIdQdRdR WITH FISHHOOKfTAILdRAMS HORNdREVERSED EeGLOTTAL STOPeOPEN E",
  "dSdS WITH CURLfHOOKdSCHWAdSCRIPT GdSIDEWAYS UdTdT WITH PALATAL HOOKfRETROFLEX HOOK",
  "dTC DIGRAPH WITH CURLdTESH DIGRAPHdTHETAdTOP HALF OdTS DIGRAPHeDIGRAPH WITH RETROFLEX HOOK",
  "dTURNED AeAEeALPHAeHeIeMeM WITH LONG LEGeOPEN EeReR WITH HOOKgLONG LEGhLEG AND RETROFLEX HOOKeV",
  "eWeYeY WITH BELTdUdU BAReWITH LEFT HOOKdUPSILONdVdV WITH HOOKfRIGHT HOOKdWdXdYdZdZ WITH CURL",
  "fRETROFLEX HOOKcSTRESS AND HIGH TONEeLOW TONEcSUPERSCRIPT HALF TRIANGULAR COLON",
  "dTRIANGULAR COLONcTRIANGULAR COLONcTURNED COMMAcUNASPIRATEDcUP ARROWHEADdTACKcUScVERTICAL LINE",
  "cVOICINGcYANG DEPARTING TONE MARKcYIN DEPARTING TONE MARKaMODULO TWO SUMaMONEY BAGbWITH WINGS",
  "aMONEY-MOUTH FACEaMONGOLIAN BIRGAbBIRGA WITH DOUBLE ORNAMENTdORNAMENTbCOLONbCOMMAbDIGIT EIGHT",
  "cFIVEcFOURcNINEcONEcSEVENcSIXcTHREEcTWOcZERObDOUBLE BIRGA WITH ORNAMENTbELLIPSISbFOUR DOTS",
  "bFREE VARIATION SELECTOR FOUReONEeTHREEeTWObFULL STOPbINVERTED BIRGAcBIRGA WITH DOUBLE ORNAMENT",
  "bLETTER AcALI GALI AeAHeANUSVARA ONEeBALUDAeCAeDAeDAGALGAeDAMARUeDDAeHALF UfYAeI",
  "eINVERTED UBADAMAeKAeNGAeNNAePAePHAeSSAeTAeTHREE BALUDAeTTAeTTHAeUBADAMAeVISARGA ONEeZAeZHAcANG",
  "cBAcCHAcCHA WITH TWO DOTScCHIcDAcEcEEcFAcGAcHAAcIcJAcKAcKHAcLAcLHAcMAcMANCHU ALI GALI BHAfCA",
  "fCYAfDDHAfDHAfGHAfJHAfLHAfNGAfSSAfTAfTTAfZAfZHAdFAdIdKAdRAdZHAcNAcOcOEcPAcQAcRAcSAcSHAcSIBE ANG",
  "dCHAdDAdEdFAdGAdGAAdHAdHAAdIdIYdJAdKAdPAdRAAdSHAdTAdTSAdUdUEdZAdZHAcTAcTODO ALI GALI TAfZHAdANG",
  "dBAdCHAdDAdDZAdEdGAdGAAdHAAdIdJAdJIAdKAdLONG VOWEL SIGNdMAdNIAdOdOEdPAdQAdTAdTSAdUdUEdWAdYAcTSA",
  "cUcUEcWAcYAcZAcZHIcZRAbMANCHU COMMAcFULL STOPbNIRUGUbROTATED BIRGAcBIRGA WITH DOUBLE ORNAMENT",
  "eORNAMENTbSIBE SYLLABLE BOUNDARY MARKERbSWIRL BIRGAcBIRGA WITH DOUBLE ORNAMENTeORNAMENT",
  "bTODO SOFT HYPHENbTRIPLE BIRGA WITH ORNAMENTbTURNED SWIRL BIRGA WITH DOUBLE ORNAMENT",
  "bVOWEL SEPARATORaMONKEYaMONKEY FACEaMONOGRAM FOR EARTHcYANGcYINaMONORAILaMONOSTABLE SYMBOL",
  "aMOOD BUBBLEaMOON CAKEbVIEWING CEREMONYaMOSQUEaMOSQUITOaMOTHER CHRISTMASaMOTOR BOATbSCOOTER",
  "aMOTORIZED WHEELCHAIRaMOTORWAYaMOUNT FUJIaMOUNTAINaMOUNTAIN BICYCLISTbCABLEWAYbRAILWAYaMOUSE",
  "aMOUSE FACEbTRAPaMOUTHaMOVIE CAMERAaMOYAIaMRO DANDAbDIGIT EIGHTcFIVEcFOURcNINEcONEcSEVENcSIX",
  "cTHREEcTWOcZERObDOUBLE DANDAbLETTER AcBAcCHUcDAcDAIcEcEAcHAIcHAOcKEAAEcKHAIcKOcLAcLANcMAEMcMIM",
  "cNGIcNINcOcOLcOOcPAcPHIcRIcROcSHIcTAcTEKcTHEAcWAcYOaMUCH GREATER-THANbLESS-THAN",
  "aMULTANI LETTER AcBAcBHAcCAcCHAcDAcDDAcDDDAcDDHAcDHAcEcGAcGHAcHAcIcJAcJJAcKAcKHAcLAcMAcNAcNNA",
  "cNYAcPAcPHAcRAcRHAcRRAcSAcTAcTHAcTTAcTTHAcUcVAcYAbSECTION MARKaMULTIMAPaMULTIPLE MUSICAL NOTES",
  "aMULTIPLICATION SIGNbSIGN IN DOUBLE CIRCLEdLEFT HALF CIRCLEdRIGHT HALF CIRCLEdTRIANGLE",
  "cWITH DOT ABOVEdUNDERBARbXaMULTISETaMULTISET MULTIPLICATIONbUNIONaMUSHROOMaMUSIC FLAT SIGN",
  "bNATURAL SIGNbSHARP SIGNaMUSICAL KEYBOARDbKEYBOARD WITH JACKSbNOTEbSCOREbSYMBOL ARPEGGIATO DOWN",
  "dUPcBEGIN BEAMdPHRASEdSLURdTIEcBRACEcBRACKETcBREATH MARKcBREVEcBREVIScBREVIS RESTcC CLEF",
  "cCAESURAcCIRCLE X NOTEHEADcCLIMACUScCLIVIScCLUSTER NOTEHEAD BLACKeWHITEcCODAcCOMBINING ACCENT",
  "dACCENT-STACCATOdAUGMENTATION DOTdBENDdDOITdDOUBLE TONGUEdDOWN BOWdFLAG-1e2e3e4e5dFLIPdHARMONIC",
  "dLOUREdMARCATOdMARCATO-STACCATOdRIPdSMEARdSNAP PIZZICATOdSPRECHGESANG STEMdSTACCATISSIMO",
  "dSTACCATOdSTEMdTENUTOdTREMOLO-1e2e3dTRIPLE TONGUEdUP BOWcCOMMON TIMEcCRESCENDOcCROIXcCUT TIME",
  "cDA CAPOcDAL SEGNOcDAMPcDAMP ALLcDASHED BARLINEcDECRESCENDOcDEGREE SLASHcDOUBLE BARLINEdFLAT",
  "dSHARPcDRUM CLEF-1e2cEIGHTH NOTEdRESTcEND BEAMdOF STIMMEdPHRASEdSLURdTIEcF CLEF",
  "dCLEF OTTAVA ALTAfBASSAcFERMATAcFERMATA BELOWcFINAL BARLINEcFINGERED TREMOLO-1e2e3",
  "cFIVE-LINE STAFFcFLAT DOWNdUPcFORTEcFOUR-LINE STAFFdSTRING FRETBOARDcFUSA BLACKdWHITEcG CLEF",
  "dCLEF OTTAVA ALTAfBASSAcGLISSANDO DOWNdUPcGRACE NOTE NO SLASHeSLASHcGREGORIAN C CLEFdF CLEF",
  "cHALF NOTEdPEDAL MARKdRESTcHAUPTSTIMMEcINVERTED TURNcKIEVAN C CLEFdEIGHTH NOTE STEM DOWNgUP",
  "dEND OF PIECEdFINAL NOTEdFLAT SIGNdHALF NOTEdQUARTER NOTE STEM DOWNgUPdRECITATIVE MARK",
  "dWHOLE NOTEcKORONcLEFT REPEAT SIGNcLONGAcLONGA IMPERFECTA RESTdPERFECTA RESTcMAXIMAcMEZZO",
  "cMINIMAcMINIMA BLACKdRESTcMOON NOTEHEAD BLACKeWHITEcMULTI RESTcMULTIPLE MEASURE REST",
  "cNATURAL DOWNdUPcNEBENSTIMMEcNOTEHEAD BLACKcNULL NOTEHEADcONE HUNDRED TWENTY-EIGHTH NOTEgREST",
  "cONE-LINE STAFFcORNAMENT STROKE-1e10e11e2e3e4e5e6e7e8e9cOTTAVA ALTAdBASSAcPARENTHESIS NOTEHEAD",
  "cPEDAL MARKdUP MARKcPES SUBPUNCTIScPIANOcPLUS NOTEHEADcPODATUScPORRECTUScPORRECTUS FLEXUS",
  "cQUARTER NOTEdRESTdTONE FLATeSHARPcQUINDICESIMA ALTAdBASSAcREPEAT DOTScREPEATED FIGURE-1e2e3",
  "cREVERSE FINAL BARLINEcRIGHT REPEAT SIGNcRINFORZANDOcSCANDICUScSCANDICUS FLEXUScSEGNO",
  "cSEMIBREVIS BLACKdRESTdWHITEcSEMIMINIMA BLACKdRESTdWHITEcSHARP DOWNdUPcSHORT BARLINE",
  "cSINGLE BARLINEcSIX-LINE STAFFdSTRING FRETBOARDcSIXTEENTH NOTEdRESTcSIXTY-FOURTH NOTEeRESTcSORI",
  "cSQUARE BdNOTEHEAD BLACKeWHITEcSUBITOcTEMPUS IMPERFECTUM CUM PROLATIONE IMPERFECTA",
  "gIMPERFECTA DIMINUTION-1i2i3gPERFECTAdPERFECTUM CUM PROLATIONE IMPERFECTAgPERFECTA",
  "gPERFECTA DIMINUTION-1cTHIRTY-SECOND NOTEeRESTcTHREE-LINE STAFFcTORCULUScTORCULUS RESUPINUScTR",
  "cTRIANGLE NOTEHEAD DOWN BLACKfWHITEeLEFT BLACKfWHITEeRIGHT BLACKfWHITEeUP BLACKfRIGHT BLACK",
  "gWHITEfWHITEcTRIANGLE-ROUND NOTEHEAD DOWN BLACKgWHITEcTURNcTURN SLASHdUPcTWO-LINE STAFFcVIRGA",
  "cVOID NOTEHEADcWHOLE NOTEdRESTcWITH FINGERNAILScX NOTEHEADcZaMVSaMW",
  "aMYANMAR CONSONANT SIGN MEDIAL HAeRAeWAeYAdMON MEDIAL LAfMAfNAdSHAN MEDIAL WAbDIGIT EIGHTcFIVE",
  "cFOURcNINEcONEcSEVENcSIXcTHREEcTWOcZERObLETTER AcAITON RAcAUcBAcBHAcCAcCHAcDAcDDAcDDHAcDHAcE",
  "cEASTERN PWO KAREN GHWAfNNAfYWAcGAcGHAcGREAT SAcHAcIcIIcJAcJHAcKAcKHAcKHAMTI CAdCHAdDDAdDDHA",
  "dDHAdFAdGAdHAdHHAdJAdJHAdLLAdNAdNYAdRAdSAdTTAdTTHAdXAdZAcLAcLLAcMAcMON BBAdBBEdEdJHAdNGAcNAcNGA",
  "cNNAcNNYAcNYAcOcPAcPHAcRAcRUMAI PALAUNG FAcSAcSGAW KAREN SHAcSHAcSHAN AdBAdBHAdCAdCHAdDAdFAdGA",
  "dGHAdHAdJHAdKAdKHAdNAdNNAdNYAdPHAdTHAdZAcSHWE PALAUNG CHAeSHAcSSAcTAcTAI LAING BAeBHAeDAeDDA",
  "eDDHAeDHAeFAeGAeGHAeJAeJHAeLLAeNNAeNYAcTHAcTTAcTTHAcUcUUcVOCALIC LdLLdRdRRcWA",
  "cWESTERN PWO KAREN PWAfTHAcYAbLOGOGRAM KHAMTI HMdOAYdQNbMODIFIER LETTER KHAMTI REDUPLICATION",
  "dSHAN REDUPLICATIONbSHAN DIGIT EIGHTdFIVEdFOURdNINEdONEdSEVENdSIXdTHREEdTWOdZERObSIGN ANUSVARA",
  "cASATcDOT BELOWcKHAMTI TONE-1e3cLITTLE SECTIONcPAO KAREN TONEcRUMAI PALAUNG TONE-5cSECTION",
  "cSHAN COUNCIL EMPHATIC TONEeTONE-2f3dSAWdTONE-2e3e5e6cTAI LAING TONE-2f5cVIRAMAcVISARGA",
  "cWESTERN PWO KAREN TONE-1g2g3g4g5bSYMBOL AFOREMENTIONEDcAITON EXCLAMATIONdONEdTWOcCOMPLETED",
  "cGENITIVEcLOCATIVEcSHAN EXCLAMATIONdONEbTAI LAING DIGIT EIGHTeFIVEeFOUReNINEeONEeSEVENeSIX",
  "eTHREEeTWOeZERObTONE MARK SGAW KAREN HATHIfKE PHObVOWEL SIGN AAdAIdAITON AeAIdEdE ABOVE",
  "dGEBA KAREN IdIdIIdKAYAH EEeOEeUdMON IIeOdSGAW KAREN EUdSHAN AAeEeE ABOVEeFINAL YdTALL AAdUdUU",
  "dVOCALIC LeLLeReRRdWESTERN PWO KAREN EUgUE"]

def namesInN : List String := [
  "aN-ARY CIRCLED DOT OPERATORdPLUS OPERATORdTIMES OPERATORcCOPRODUCTcINTERSECTIONcLOGICAL ANDdOR",
  "cPRODUCTcSQUARE INTERSECTION OPERATORdUNION OPERATORcSUMMATIONcTIMES OPERATORcUNION",
  "cUNION OPERATOR WITH DOTfPLUScWHITE VERTICAL BARaNABATAEAN CRUCIFORM NUMBER FOURbLETTER ALEPH",
  "cAYINcBETHcDALETHcFINAL ALEPHdBETHdHEdKAPHdLAMEDHdMEMdNUNdSHINdYODHcGIMELcHEcHETHcKAPHcLAMEDH",
  "cMEMcNUNcPEcQOPHcRESHcSADHEcSAMEKHcSHINcTAWcTETHcWAWcYODHcZAYINbNUMBER FIVEcFOURcONE",
  "cONE HUNDREDcTENcTHREEcTWENTYcTWOaNABLAaNAIL POLISHaNAIRA SIGNaNAKaNAME BADGEaNAND",
  "aNANDINAGARI HEADSTROKEbLETTER AcAAcAIcAUcBAcBHAcCAcCHAcDAcDDAcDDHAcDHAcEcGAcGHAcHAcIcIIcJAcJHA",
  "cKAcKHAcLAcLLAcMAcNAcNGAcNNAcNYAcOcPAcPHAcRAcRRAcSAcSHAcSSAcTAcTHAcTTAcTTHAcUcUUcVAcVOCALIC R",
  "dRRcYAbSIGN ANUSVARAcAVAGRAHAcSIDDHAMcVIRAMAcVISARGAbVOWEL SIGN AAdAIdAUdEdIdIIdO",
  "dPRISHTHAMATRA EdUdUUdVOCALIC ReRRaNARROW NO-BREAK SPACEaNATIONAL DIGIT SHAPESbPARK",
  "aNAUSEATED FACEaNAZAR AMULETaNBHaNBSPaNECKTIE",
  "aNEGATED DOUBLE VERTICAL BAR DOUBLE RIGHT TURNSTILEaNEGATIVE ACKNOWLEDGEbCIRCLED DIGIT ZERO",
  "cLATIN CAPITAL LETTER AfBfCfDfEfFfGfHfIfJfKfLfMfNfOfPfQfRfSfTfUfVfWfXfYfZcNUMBER EIGHTEEN",
  "dELEVENdFIFTEENdFOURTEENdNINETEENdSEVENTEENdSIXTEENdTHIRTEENdTWELVEdTWENTYcSQUAREcTRIANGLE",
  "bDIAGONAL CROSScDIAMONDcMIDDLE RIGHT TO LOWER CENTREbSQUARED ABcCROSS MARKcIC",
  "cLATIN CAPITAL LETTER AfBfCfDfEfFfGfHfIfJfKfLfMfNfOfPfQfRfSfTfUfVfWfXfYfZcPAcQUESTION MARKcSA",
  "cWCaNEITHER A SUBSET OF NOR EQUAL TOcSUPERSET OF NOR EQUAL TO",
  "bAPPROXIMATELY NOR ACTUALLY EQUAL TObGREATER-THAN NOR EQUAL TOeEQUIVALENT TOeLESS-THAN",
  "bLESS-THAN NOR EQUAL TOeEQUIVALENT TOeGREATER-THANaNELaNEPTUNEaNEPTUNE FORM TWOaNERD FACE",
  "aNESSUSaNEST WITH EGGSaNESTING DOLLSaNEUTERaNEUTRAL CHESS BISHOPcBISHOP ROTATED NINETY DEGREES",
  "eTWO HUNDRED SEVENTY DEGREEScEQUIHOPPERcEQUIHOPPER ROTATED NINETY DEGREEScKING",
  "cKING ROTATED NINETY DEGREESeTWO HUNDRED SEVENTY DEGREEScKNIGHT",
  "cKNIGHT ROTATED FORTY-FIVE DEGREESeNINETY DEGREESeONE HUNDRED THIRTY-FIVE DEGREES",
  "eTHREE HUNDRED FIFTEEN DEGREESeTWO HUNDRED SEVENTY DEGREESgTWENTY-FIVE DEGREEScPAWN",
  "cPAWN ROTATED NINETY DEGREESeTWO HUNDRED SEVENTY DEGREEScQUEENcQUEEN ROTATED NINETY DEGREES",
  "eTWO HUNDRED SEVENTY DEGREEScROOKcROOK ROTATED NINETY DEGREESeTWO HUNDRED SEVENTY DEGREES",
  "cTURNED BISHOPdKINGdKNIGHTdPAWNdQUEENdROOKbFACEaNEW LINEbMOON SYMBOLcWITH FACEbSHEQEL SIGN",
  "bTAI LUE DIGIT EIGHTeFIVEeFOUReNINEeONEeSEVENeSIXeTHREEeTWOeZEROdLETTER FINAL BfDfKfMfNfNGfV",
  "eHIGH BAfDAfFAfHAfKAfKVAfLAfMAfNAfNGAfPAfPHAfQAfSAfSUAfTAfTHAfTSAfVAfXAfXVAfYAeLOW BAfDAfFAfHA",
  "fKAfKVAfLAfMAfNAfNGAfPAfPHAfQAfSAfSUAfTAfTHAfTSAfVAfXAfXVAfYAdSIGN LAEeLAEVdTHAM DIGIT ONE",
  "dTONE MARK-1f2dVOWEL SIGN AAfAAYfAEfAYfEfIIfIYfOfOAfOAYfOYfUfUEfUEYfUUfUYfVOWEL SHORTENER",
  "aNEWA ABBREVIATION SIGNbCOMMAbDANDAbDIGIT EIGHTcFIVEcFOURcNINEcONEcSEVENcSIXcTHREEcTWOcZERO",
  "bDOUBLE COMMAcDANDAbGAP FILLERbINSERTION SIGNbLETTER AcAAcAIcAUcBAcBHAcCAcCHAcDAcDDAcDDHAcDHAcE",
  "cGAcGHAcHAcIcIIcJAcJHAcKAcKHAcLAcLHAcMAcMHAcNAcNGAcNGHAcNHAcNNAcNYAcNYHAcOcPAcPHAcRAcRHAcSAcSHA",
  "cSSAcTAcTHAcTTAcTTHAcUcUUcVEDIC ANUSVARAcVOCALIC LdLLdRdRRcWAcYAbOMbPLACEHOLDER MARK",
  "bSANDHI MARKbSIDDHIbSIGN ANUSVARAcAVAGRAHAcCANDRABINDUcFINAL ANUSVARAcJIHVAMULIYAcNUKTA",
  "cUPADHMANIYAcVIRAMAcVISARGAbVOWEL SIGN AAdAIdAUdEdIdIIdOdUdUUdVOCALIC LeLLeReRRaNEWLINE LEFT",
  "bRIGHTaNEWSPAPERaNEXT LINEbPAGEaNIGHT WITH STARSaNINJAaNKO COMBINING DOUBLE DOT ABOVE",
  "cLONG DESCENDING TONEdHIGH TONEdLOW TONEdRISING TONEcNASALIZATION MARKcSHORT HIGH TONEdLOW TONE",
  "dRISING TONEbCOMMAbDANTAYALANbDIGIT EIGHTcFIVEcFOURcNINEcONEcSEVENcSIXcTHREEcTWOcZERO",
  "bDOROME SIGNbEXCLAMATION MARKbHIGH TONE APOSTROPHEbLAJANYALANbLETTER AcBAcCHAcDAcDAGBASINNAcE",
  "cEEcFAcGBAcHAcIcJAcJONA CHAdJAdRAcKAcLAcMAcNcNAcNA WOLOSOcNYAcNYA WOLOSOcOcOOcPAcRAcRRAcSAcTAcU",
  "cWAcYAbLOW TONE APOSTROPHEbSYMBOL GBAKURUNENcOO DENNENbTAMAN SIGNaNLaNNBSPaNO BICYCLES",
  "bBREAK HEREbENTRYbENTRY SIGNbMOBILE PHONESbONE UNDER EIGHTEEN SYMBOLbPEDESTRIANSbPIRACY",
  "bSMOKING SYMBOLaNO-BREAK SPACEaNOMINAL DIGIT SHAPESaNOMISMA SIGNaNON-BREAKING HYPHEN",
  "bPOTABLE WATER SYMBOLaNONFORKINGaNORaNORDIC MARK SIGNaNORMAL SUBGROUP OFcOF OR EQUAL TO",
  "aNORTH EAST AND SOUTH WEST ARROWcARROWcARROW AND SOUTH EAST ARROWdCROSSING NORTH WEST ARROW",
  "eSOUTH EAST ARROWdWITH HOOKcBLACK ARROWcDOUBLE ARROWcPOINTING BUDdLEAFdVINE LEAF",
  "cSANS-SERIF ARROWcTRIANGLE-HEADED ARROWeARROW TO BARcWHITE ARROWbINDIC FRACTION ONE EIGHTHeHALF",
  "eQUARTEReSIXTEENTHdTHREE QUARTERSeSIXTEENTHScPLACEHOLDER MARKcQUANTITY MARKcQUARTER MARK",
  "cRUPEE MARKbWEST AND SOUTH EAST ARROWcARROWcARROW AND NORTH EAST ARROW",
  "dCROSSING NORTH EAST ARROWdTO CORNEReLONG BARdWITH HOOKcBLACK ARROWcDOUBLE ARROWcPOINTING BUD",
  "dLEAFdVINE LEAFcSANS-SERIF ARROWcTRIANGLE-HEADED ARROWeARROW TO BARcWHITE ARROW",
  "aNORTHEAST-POINTING AIRPLANEaNOSEaNOT A SUBSET OFcSUPERSET OFbALMOST EQUAL TObAN ELEMENT OF",
  "bASYMPTOTICALLY EQUAL TObCHECK MARKbEQUAL TObEQUIVALENT TObGREATER-THANbIDENTICAL TObLESS-THAN",
  "bNORMAL SUBGROUP OFdOF OR EQUAL TObPARALLEL TObSIGNbSQUARE IMAGE OF OR EQUAL TO",
  "cORIGINAL OF OR EQUAL TObTILDEbTRUEaNOTCHED LEFT SEMICIRCLE WITH THREE DOTS",
  "bLOWER RIGHT-SHADOWED WHITE RIGHTWARDS ARROWbRIGHT SEMICIRCLE WITH THREE DOTS",
  "bUPPER RIGHT-SHADOWED WHITE RIGHTWARDS ARROWaNOTEaNOTE PADbPAGEaNOTEBOOK",
  "aNOTEBOOK WITH DECORATIVE COVERaNULaNULLaNUMBER EIGHTEEN FULL STOPbELEVEN FULL STOP",
  "bFIFTEEN FULL STOPbFOURTEEN FULL STOPbNINETEEN FULL STOPbSEVENTEEN FULL STOPbSIGN",
  "bSIXTEEN FULL STOPbTEN FULL STOPbTHIRTEEN FULL STOPbTWELVE FULL STOPbTWENTY FULL STOP",
  "aNUMERO SIGNaNUSHU CHARACTER-1B170c1B171c1B172c1B173c1B174c1B175c1B176c1B177c1B178c1B179c1B17A",
  "c1B17Bc1B17Cc1B17Dc1B17Ec1B17Fc1B180c1B181c1B182c1B183c1B184c1B185c1B186c1B187c1B188c1B189",
  "c1B18Ac1B18Bc1B18Cc1B18Dc1B18Ec1B18Fc1B190c1B191c1B192c1B193c1B194c1B195c1B196c1B197c1B198",
  "c1B199c1B19Ac1B19Bc1B19Cc1B19Dc1B19Ec1B19Fc1B1A0c1B1A1c1B1A2c1B1A3c1B1A4c1B1A5c1B1A6c1B1A7",
  "c1B1A8c1B1A9c1B1AAc1B1ABc1B1ACc1B1ADc1B1AEc1B1AFc1B1B0c1B1B1c1B1B2c1B1B3c1B1B4c1B1B5c1B1B6",
  "c1B1B7c1B1B8c1B1B9c1B1BAc1B1BBc1B1BCc1B1BDc1B1BEc1B1BFc1B1C0c1B1C1c1B1C2c1B1C3c1B1C4c1B1C5",
  "c1B1C6c1B1C7c1B1C8c1B1C9c1B1CAc1B1CBc1B1CCc1B1CDc1B1CEc1B1CFc1B1D0c1B1D1c1B1D2c1B1D3c1B1D4",
  "c1B1D5c1B1D6c1B1D7c1B1D8c1B1D9c1B1DAc1B1DBc1B1DCc1B1DDc1B1DEc1B1DFc1B1E0c1B1E1c1B1E2c1B1E3",
  "c1B1E4c1B1E5c1B1E6c1B1E7c1B1E8c1B1E9c1B1EAc1B1EBc1B1ECc1B1EDc1B1EEc1B1EFc1B1F0c1B1F1c1B1F2",
  "c1B1F3c1B1F4c1B1F5c1B1F6c1B1F7c1B1F8c1B1F9c1B1FAc1B1FBc1B1FCc1B1FDc1B1FEc1B1FFc1B200c1B201",
  "c1B202c1B203c1B204c1B205c1B206c1B207c1B208c1B209c1B20Ac1B20Bc1B20Cc1B20Dc1B20Ec1B20Fc1B210",
  "c1B211c1B212c1B213c1B214c1B215c1B216c1B217c1B218c1B219c1B21Ac1B21Bc1B21Cc1B21Dc1B21Ec1B21F",
  "c1B220c1B221c1B222c1B223c1B224c1B225c1B226c1B227c1B228c1B229c1B22Ac1B22Bc1B22Cc1B22Dc1B22E",
  "c1B22Fc1B230c1B231c1B232c1B233c1B234c1B235c1B236c1B237c1B238c1B239c1B23Ac1B23Bc1B23Cc1B23D",
  "c1B23Ec1B23Fc1B240c1B241c1B242c1B243c1B244c1B245c1B246c1B247c1B248c1B249c1B24Ac1B24Bc1B24C",
  "c1B24Dc1B24Ec1B24Fc1B250c1B251c1B252c1B253c1B254c1B255c1B256c1B257c1B258c1B259c1B25Ac1B25B",
  "c1B25Cc1B25Dc1B25Ec1B25Fc1B260c1B261c1B262c1B263c1B264c1B265c1B266c1B267c1B268c1B269c1B26A",
  "c1B26Bc1B26Cc1B26Dc1B26Ec1B26Fc1B270c1B271c1B272c1B273c1B274c1B275c1B276c1B277c1B278c1B279",
  "c1B27Ac1B27Bc1B27Cc1B27Dc1B27Ec1B27Fc1B280c1B281c1B282c1B283c1B284c1B285c1B286c1B287c1B288",
  "c1B289c1B28Ac1B28Bc1B28Cc1B28Dc1B28Ec1B28Fc1B290c1B291c1B292c1B293c1B294c1B295c1B296c1B297",
  "c1B298c1B299c1B29Ac1B29Bc1B29Cc1B29Dc1B29Ec1B29Fc1B2A0c1B2A1c1B2A2c1B2A3c1B2A4c1B2A5c1B2A6",
  "c1B2A7c1B2A8c1B2A9c1B2AAc1B2ABc1B2ACc1B2ADc1B2AEc1B2AFc1B2B0c1B2B1c1B2B2c1B2B3c1B2B4c1B2B5",
  "c1B2B6c1B2B7c1B2B8c1B2B9c1B2BAc1B2BBc1B2BCc1B2BDc1B2BEc1B2BFc1B2C0c1B2C1c1B2C2c1B2C3c1B2C4",
  "c1B2C5c1B2C6c1B2C7c1B2C8c1B2C9c1B2CAc1B2CBc1B2CCc1B2CDc1B2CEc1B2CFc1B2D0c1B2D1c1B2D2c1B2D3",
  "c1B2D4c1B2D5c1B2D6c1B2D7c1B2D8c1B2D9c1B2DAc1B2DBc1B2DCc1B2DDc1B2DEc1B2DFc1B2E0c1B2E1c1B2E2",
  "c1B2E3c1B2E4c1B2E5c1B2E6c1B2E7c1B2E8c1B2E9c1B2EAc1B2EBc1B2ECc1B2EDc1B2EEc1B2EFc1B2F0c1B2F1",
  "c1B2F2c1B2F3c1B2F4c1B2F5c1B2F6c1B2F7c1B2F8c1B2F9c1B2FAc1B2FBbITERATION MARKaNUT AND BOLT",
  "aNYIAKENG PUACHUE HMONG CIRCLED CAdDIGIT EIGHTeFIVEeFOUReNINEeONEeSEVENeSIXeTHREEeTWOeZERO",
  "dLETTER AeAAeCAeDAeDLAeEeEEeFAeGAeHAeHAHeIeKAeLAeMAeMLAeNAeNCAeNKAeNPAeNPLAeNQAeNRAeNTAeNTSA",
  "eNTXAeNYAeOeOOePAePLAeQAeRAeRRAeSAeTAeTSAeTXAeUeVAeWeXAeXYAeYAeZAdLOGOGRAM NYAJdSIGN FOR ANIMAL",
  "fINVERTEBRATEfLOCATIONfPERSONfTHINGeXW XWdSYLLABLE LENGTHENERdTONE-BeDeGeJeMeSeV"]

def namesInO : List String := [
  "aOBJECT REPLACEMENT CHARACTERaOBLIQUE ANGLE OPENING DOWNdUPbHYPHENaOBSERVER EYE SYMBOL",
  "aOCR AMOUNT OF CHECKbBELT BUCKLEbBOW TIEbBRANCH BANK IDENTIFICATIONbCHAIR",
  "bCUSTOMER ACCOUNT NUMBERbDASHbDOUBLE BACKSLASHbFORKbHOOKbINVERTED FORKaOCTAGONAL SIGNaOCTOPUS",
  "aODENaOFFICE BUILDINGaOGHAM FEATHER MARKbLETTER AILMcBEITHcCEIRTcCOLLcDAIRcEABHADHcEADHADH",
  "cEAMHANCHOLLcFEARNcGORTcIFINcIODHADHcLUIScMUINcNGEADALcNIONcONNcORcPEITHcRUIScSAILcSTRAIFcTINNE",
  "cUATHcUILLEANNcURbREVERSED FEATHER MARKbSPACE MARKaOGONEKaOHM SIGNaOIL DRUMaOK HAND SIGN",
  "aOL CHIKI AHADcDIGIT EIGHTdFIVEdFOURdNINEdONEdSEVENdSIXdTHREEdTWOdZEROcGAAHLAA TTUDDAAG",
  "cLETTER AAJdAAKdAAMdAAWdAGdALdANGdATdEDDdENdEPdERRdIHdINYdIRdISdLAdLAAdLEdLIdLOdLUdOBdOHdOTTdOV",
  "dUCdUDdUNNdUYcMU TTUDDAGcMU-GAAHLAA TTUDDAAGcPHAARKAAcPUNCTUATION DOUBLE MUCAADdMUCAADcRELAA",
  "aOLD CHINESE HOOK MARKcITERATION MARKbHUNGARIAN CAPITAL LETTER AeAAeAKeAMBeANDeCLOSE EeEeEBeEC",
  "eECHeECSeEDeEEeEFeEGeEGYeEHeEJeEKeELeELYeEMeEMPeENeENCeENTeENT-SHAPED SIGNeENYeEPeEReESeESZeET",
  "eETYeEVeEZeEZSeIeIIeNIKOLSBURG OEfUEeOeOEEeOOeRUDIMENTA OEfUEeSHORT EReUeUNKeUSeUUcNUMBER FIFTY",
  "dFIVEdONEdONE HUNDREDeTHOUSANDdTENcSMALL LETTER AeAAeAKeAMBeANDeCLOSE EeEeEBeECeECHeECSeEDeEE",
  "eEFeEGeEGYeEHeEJeEKeELeELYeEMeEMPeENeENCeENTeENT-SHAPED SIGNeENYeEPeEReESeESZeETeETYeEVeEZeEZS",
  "eIeIIeNIKOLSBURG OEfUEeOeOEEeOOeRUDIMENTA OEfUEeSHORT EReUeUNKeUSeUUbITALIC LETTER AdBEdCHEdDE",
  "dEdEFdEKSdELdEMdENdERdERSdESdESHdESSdHEdIdIIdKAdKEdKHEdKUdNORTHERN TSEdOdPEdPHEdSHE",
  "dSOUTHERN TSEdTEdTHEdUdUUdVEdYEdZEcNUMERAL FIFTYdFIVEdONEdTENbKEYbNORTH ARABIAN LETTER AINeALEF",
  "eBEHeDADeDALeES-1f2f3eFEHeGEEMeGHAINeHAHeHEHeKAFeKHAHeLAMeMEEMeNOONeQAFeREHeSADeTAHeTEHeTHAL",
  "eTHEHeWAWeYEHeZAHeZAINdNUMBER ONEeTENeTWENTYbPERMIC LETTER ANdBURdCHERYdDOIdDZHOIdDZITAdEdEF",
  "dGAIdHAdIdIAdIEdKOKEdLEIdMENOEdNENOEdOdOOdPEEIdREIdSHCHOOIdSHOOIdSIIdTAIdTSIUdUdVERdVOOIdYAdYAT",
  "dYERdYERIdYERUdYRYdYUdZATAdZHOIbPERSIAN NUMBER HUNDREDdONEdTENdTWENTYdTWOcSIGN AdAURAMAZDAA",
  "dAURAMAZDAA-2dAURAMAZDAAHAdBAdBAGAdBUUMISHdCAdDAdDAHYAAUSHdDAHYAAUSH-2dDIdDUdFAdGAdGUdHAdIdJA",
  "dJIdKAdKUdLAdMAdMIdMUdNAdNUdPAdRAdRUdSAdSHAdSSAdTAdTHAdTUdUdVAdVIdXAdXSHAAYATHIYAdYAdZA",
  "cWORD DIVIDERbPERSONAL COMPUTERbSOGDIAN FRACTION ONE HALFcLETTER ALEPHdALTERNATE AYINdAYINdBETH",
  "dFINAL ALEPHeBETHeHEeNUNeNUN WITH VERTICAL TAILeSADHEeSADHE WITH VERTICAL TAILeTAW",
  "eTAW WITH VERTICAL TAILdGIMELdHEdHETHdKAPHdLAMEDHdMEMdNUNdPEdRESH-AYIN-DALETHdSADHEdSAMEKHdSHIN",
  "dTAWdWAWdYODHdZAYINcLIGATURE AYIN-DALETHcNUMBER FIVEdFOURdONEdONE HUNDREDdTENdTHIRTYdTHREE",
  "dTWENTYdTWObSOUTH ARABIAN LETTER ALEFeAYNeBETHeDALETHeDHADHEeDHALETHeFEeGHAYNeGIMELeHEeHETH",
  "eKAPHeKHETHeLAMEDHeMEMeNUNeQOPHeRESHeSADHEeSAMEKHeSATeSHINeTAWeTETHeTHAWeTHETHeWAWeYODHeZAYN",
  "dNUMBER FIFTYeONEdNUMERIC INDICATORbTURKIC LETTER ORKHON AeABeADeAEBeAEDeAEGeAEKeAELeAENeAER",
  "eAESeAETeAEYeAGeALeANeAQeAReASeASHeATeAYeBASHeECeELTeEMeENCeENGeENTeENYeEPeESHeEZeIeICeIQeOeOE",
  "eOEKeOPeOQeOTdYENISEI AeABeADeAEeAEBeAEGeAEKeAENeAENGeAETeAEYeAGeALeANGeAQeAReASHeATeAYeEeEC",
  "eENCeENTeENYeESHeEZeIeIQeOEeOEKeOQbUYGHUR COMBINING DOT ABOVEeBELOWdTWO DOTS ABOVEfBELOW",
  "cLETTER ALEPHdBETHdFINAL HETHdGIMEL-HETHdKAPHdLAMEDHdLESHdMEMdNUNdPEdRESHdSADHEdSAMEKHdSHINdTAW",
  "dWAWdYODHdZAYINcPUNCTUATION BARdFOUR DOTSdTWO BARSeDOTSaOLDER ADULTbMANbWOMANaOLIVEaOM SYMBOL",
  "aON WITH EXCLAMATION MARK WITH LEFT RIGHT ARROW ABOVEaONCOMING AUTOMOBILEbBUSbFIRE ENGINE",
  "bPOLICE CARbTAXIaONE BUTTON MOUSEbDOT LEADERcOVER TWO DOTS PUNCTUATIONaONE-PIECE SWIMSUITaONION",
  "aOPEN BOOKbBOXbCENTRE ASTERISKcBLACK STARcCROSScTEARDROP-SPOKED ASTERISKbFILE FOLDERbFOLDER",
  "bHANDS SIGNbLOCKbMAILBOX WITH LOWERED FLAGdRAISED FLAGbSUBSETbSUPERSET",
  "aOPEN-CIRCUIT-OUTPUT H-TYPE SYMBOLdL-TYPE SYMBOLbOUTLINED RIGHTWARDS ARROW",
  "aOPERATING SYSTEM COMMANDaOPHIUCHUSaOPPOSITIONaOPTICAL DISCbDISC ICONaOPTION KEY",
  "aOR WITH DOT INSIDEaORANGE BOOKbHEARTaORANGUTANaORIGINAL OFaORIYA AI LENGTH MARKbAU LENGTH MARK",
  "bDIGIT EIGHTcFIVEcFOURcNINEcONEcSEVENcSIXcTHREEcTWOcZERObFRACTION ONE EIGHTHdHALFdQUARTER",
  "dSIXTEENTHcTHREE QUARTERSdSIXTEENTHSbISSHARbLETTER AcAAcAIcAUcBAcBHAcCAcCHAcDAcDDAcDDHAcDHAcE",
  "cGAcGHAcHAcIcIIcJAcJHAcKAcKHAcLAcLLAcMAcNAcNGAcNNAcNYAcOcPAcPHAcRAcRHAcRRAcSAcSHAcSSAcTAcTHA",
  "cTTAcTTHAcUcUUcVAcVOCALIC LdLLdRdRRcWAcYAcYYAbSIGN ANUSVARAcAVAGRAHAcCANDRABINDUcNUKTAcOVERLINE",
  "cVIRAMAcVISARGAbVOWEL SIGN AAdAIdAUdEdIdIIdOdUdUUdVOCALIC LeLLeReRRaORNATE LEFT PARENTHESIS",
  "bRIGHT PARENTHESISaORTHODOX CROSSaOSAGE CAPITAL LETTER AdAHdAIdAINdBRAdCHAdDHAdEdEHCHAdEHKA",
  "dEHPAdEHTAdEHTSAdEINdGHAdHAdHYAdIdKAdKHAdKYAdLAdMAdNAdOdOINdPAdSAdSHAdTAdTSAdTSHAdUdWAdZAdZHA",
  "bSMALL LETTER AdAHdAIdAINdBRAdCHAdDHAdEdEHCHAdEHKAdEHPAdEHTAdEHTSAdEINdGHAdHAdHYAdIdKAdKHAdKYA",
  "dLAdMAdNAdOdOINdPAdSAdSHAdTAdTSAdTSHAdUdWAdZAdZHAaOSCaOSMANYA DIGIT EIGHTcFIVEcFOURcNINEcONE",
  "cSEVENcSIXcTHREEcTWOcZERObLETTER AcAAcALEFcBAcCAYNcDEELcDHAcEcEEcFAcGAcHAcIcJAcKAAFcKHAcLAAN",
  "cMIINcNUUNcOcOOcQAAFcRAcSAcSHIINcTAcUcWAWcXAcYAaOTTERaOTTOMAN SIYAQ ALTERNATE NUMBER EIGHTeFIVE",
  "eFOUReFOUR HUNDREDeNINEeSEVENeSIXeSIX HUNDREDeTENeTEN THOUSANDeTHREEeTWOeTWO THOUSAND",
  "cFRACTION ONE HALFeSIXTHcMARRATANcNUMBER EIGHTdEIGHT HUNDREDeTHOUSANDdEIGHTYdEIGHTY THOUSAND",
  "dFIFTYdFIFTY THOUSANDdFIVEdFIVE HUNDREDeTHOUSANDdFORTYdFORTY THOUSANDdFOURdFOUR HUNDRED",
  "eTHOUSANDdNINEdNINE HUNDREDeTHOUSANDdNINETYdNINETY THOUSANDdONEdONE HUNDREDeTHOUSANDdSEVEN",
  "dSEVEN HUNDREDeTHOUSANDdSEVENTYdSEVENTY THOUSANDdSIXdSIX HUNDREDeTHOUSANDdSIXTYdSIXTY THOUSAND",
  "dTENdTEN THOUSANDdTHIRTYdTHIRTY THOUSANDdTHREEdTHREE HUNDREDeTHOUSANDdTWENTYdTWENTY THOUSAND",
  "dTWOdTWO HUNDREDeTHOUSANDaOUNCE SIGNaOUTBOX TRAYaOUTLINED BLACK STARbGREEK CROSSbLATIN CROSS",
  "bWHITE STARaOVERHEATED FACEaOVERLAPaOVERLAPPING BLACK SQUARESbWHITE AND BLACK SQUAREScSQUARES",
  "aOVERLINEaOWLaOXaOYSTER"]

def namesInP : List String := [
  "aPACKAGEaPADaPADDING CHARACTERaPAGEaPAGE FACING UPbWITH CIRCLED TEXTcCURLaPAGERaPAGESaPAGODA",
  "aPAHAWH HMONG CLAN SIGN FAJeHAMeHAWJeKHABeKOOeKWMeLAUJeLISeMUASePHABeTHOJeTSABeTSHEEJeTSWBeVAJ",
  "eVWJeXYOOJeYAJeYEEGcCONSONANT AUdCAUdCHAUdHAUdHLAUdHNAUdLAUdMAUdNAUdNCHAUdNKAUdNLAUdNTHAUdNTSAU",
  "dPLHAUdQHAUdRAUdVAUdXAUdYAUcDIGIT EIGHTdFIVEdFOURdNINEdONEdSEVENdSIXdTHREEdTWOdZERO",
  "cMARK CIM HOMeKESeKHAVeSOeSUAMeTAUMeTUBcNUMBER HUNDRED MILLIONSdHUNDREDSdMILLIONSdTEN BILLIONS",
  "eTHOUSANDSdTENSdTRILLIONScSIGN AVdCIM CHEEMeCUAM TSHOOJeHAIS LUS NTOG NTOGeNRES TOSePUB DAWB",
  "eTSOV ROGeTXWVeTXWV CHWVdHLIdHNUBdIB YAMdLOSdMEEJ SUABeTSEEBdMUSdNQIGdNTUJdTAUdTHIRD-STAGE HLI",
  "dTXHEEJ CEEVdVOS FEEMeLUBeNRUAeSEEVeTHIABeTHOMeTSHAB CEEBdXAUSdXIABdXYEEM FAIBeNTXIVeRHOeTOV",
  "dXYOOdZWJ THAJcVOWEL KAABdKAAVdKABdKAIBdKAIVdKAUBdKAUVdKAVdKAWBdKAWVdKEBdKEEBdKEEVdKEVdKIAB",
  "dKIAVdKIBdKIVdKOBdKOOBdKOOVdKOVdKUABdKUAVdKUBdKUVdKWBdKWVaPALLASaPALM BRANCHbDOWN HANDbTREE",
  "bUP HANDaPALMS UP TOGETHERaPALMYRENE LEFT-POINTING FLEURONbLETTER ALEPHcAYINcBETHcDALETH",
  "cFINAL NUNcGIMELcHEcHETHcKAPHcLAMEDHcMEMcNUNcPEcQOPHcRESHcSADHEcSAMEKHcSHINcTAWcTETHcWAWcYODH",
  "cZAYINbNUMBER FIVEcFOURcONEcTENcTHREEcTWENTYcTWObRIGHT-POINTING FLEURONaPANCAKESaPANDA FACE",
  "aPAPERCLIPaPARACHUTEaPARAGRAPH SEPARATORaPARAGRAPHOSaPARAGRAPHUS MARKaPARALLEL TO",
  "bWITH HORIZONTAL STROKEcTILDE OPERATORaPARENTHESIZED DIGIT EIGHTcFIVEcFOURcNINEcONEcSEVENcSIX",
  "cTHREEcTWObHANGUL CHIEUCHcCHIEUCH AcCIEUCcCIEUC AdUcHIEUHcHIEUH AcIEUNGcIEUNG AcKHIEUKH",
  "cKHIEUKH AcKIYEOKcKIYEOK AcMIEUMcMIEUM AcNIEUNcNIEUN AcPHIEUPHcPHIEUPH AcPIEUPcPIEUP AcRIEUL",
  "cRIEUL AcSIOScSIOS AcTHIEUTHcTHIEUTH AcTIKEUTcTIKEUT AbIDEOGRAPH ALLIANCEcCALLcCONGRATULATION",
  "cEARTHcEIGHTcENTERPRISEcFESTIVALcFINANCIALcFIREcFIVEcFOURcHAVEcLABORcMETALcMOONcNAMEcNINEcONE",
  "cREACHcREPRESENTcRESOURCEcRESTcSELFcSEVENcSIXcSOCIETYcSPECIALcSTOCKcSTUDYcSUNcSUPERVISEcTEN",
  "cTHREEcTWOcWATERcWOODbKOREAN CHARACTER O HUdOJEONbLATIN CAPITAL LETTER AeBeCeDeEeFeGeHeIeJeKeL",
  "eMeNeOePeQeReSeTeUeVeWeXeYeZcSMALL LETTER AeBeCeDeEeFeGeHeIeJeKeLeMeNeOePeQeReSeTeUeVeWeXeYeZ",
  "bNUMBER EIGHTEENcELEVENcFIFTEENcFOURTEENcNINETEENcSEVENTEENcSIXTEENcTENcTHIRTEENcTWELVEcTWENTY",
  "aPARROTaPART ALTERNATION MARKaPARTIAL DIFFERENTIALbLINE BACKWARDcDOWNcFORWARDcUP",
  "aPARTIALLY-RECYCLED PAPER SYMBOLaPARTNERSHIP SIGNaPARTY POPPERaPASSED SYMBOLaPASSENGER SHIP",
  "aPASSIVE-PULL-DOWN-OUTPUT SYMBOLcUP-OUTPUT SYMBOLaPASSPORT CONTROLaPAU CIN HAU GLOTTAL STOP",
  "eSTOP FINALfVARIANTdLETTER AeBAeCAeCHAeDAeEeFAeFINAL KfLfMfNfNGfPfTfWfYeGAeHAeIeIAeKAeKHAeLAeMA",
  "eNAeNGAeOePAePHAeRAeSAeTAeTHAeUeUAeVAeZAdLOW-FALLING TONEfTONE FINALgLONGgLONG FINAL",
  "dMID-LEVEL TONEfTONE FINALgLONG FINALdRISING TONEeTONE FINALfLONGfLONG FINAL",
  "dSANDHI GLOTTAL STOPfSTOP FINALeTONEeTONE FINALfLONGfLONG FINALaPAW PRINTSaPDFaPDIaPEACE SYMBOL",
  "aPEACHaPEACOCKaPEANUTSaPEARaPEDESTRIANaPEN OVER STAMPED ENVELOPEaPENCILaPENGUINaPENSIVE FACE",
  "aPENTAGRAMaPEOPLE HUGGINGaPER MILLE SIGNbSIGNbTEN THOUSAND SIGNaPERCENT SIGNaPERFORMING ARTS",
  "aPERMANENT PAPER SIGNaPERPENDICULARaPERPENDICULAR WITH SaPERSEVERING FACEaPERSON BOWING DEEPLY",
  "bCLIMBINGbDOING CARTWHEELbFROWNINGbIN LOTUS POSITIONcSTEAMY ROOM",
  "bRAISING BOTH HANDS IN CELEBRATIONbWITH BALLcBLOND HAIRcCROWNcFOLDED HANDScHEADSCARF",
  "cPOUTING FACEaPERSONAL COMPUTERaPERSPECTIVEaPESETA SIGNaPESO SIGNaPETRI DISH",
  "aPHAGS-PA DOUBLE HEAD MARKcLETTER AdALTERNATE YAdASPIRATED FAdBAdCAdCANDRABINDUdCHAdDAdDDAdDZA",
  "dEdEEdFAdGAdGGAdHAdIdJAdKAdKHAdLAdMAdNAdNGAdNNAdNYAdOdPAdPHAdQAdRAdSAdSHAdSMALL AdTAdTHAdTSA",
  "dTSHAdTTAdTTHAdUdVOICED HAdVOICELESS SHAdWAdXAdYAdZAdZHAcMARK DOUBLE SHADdSHADcSINGLE HEAD MARK",
  "cSUBJOINED LETTER RAeWAeYAcSUPERFIXED LETTER RAaPHAISTOS DISC SIGN ARROWdBEEdBEEHIVEdBOOMERANG",
  "dBOWdBULLS LEGdCAPTIVEdCARPENTRY PLANEdCATdCHILDdCLUBdCOLUMNdCOMBdCOMBINING OBLIQUE STROKE",
  "dDOLIUMdDOVEdEAGLEdFLUTEdGAUNTLETdGRATERdHELMETdHIDEdHORNdLIDdLILYdMANACLESdMATTOCKdOX BACK",
  "dPAPYRUSdPEDESTRIANdPLANE TREEdPLUMED HEADdRAMdROSETTEdSAWdSHIELDdSHIPdSLINGdSMALL AXEdSTRAINER",
  "dTATTOOED HEADdTIARAdTUNNYdVINEdWAVY BANDdWOMANaPHILIPPINE DOUBLE PUNCTUATION",
  "bSINGLE PUNCTUATIONaPHOENICIAN LETTER AINcALFcBETcDELTcGAMLcHEcHETcKAFcLAMDcMEMcNUNcPEcQOFcROSH",
  "cSADEcSEMKcSHINcTAUcTETcWAUcYODcZAIbNUMBER ONEcONE HUNDREDcTENcTHREEcTWENTYcTWObWORD SEPARATOR",
  "aPHOLUSaPICKaPICKUP TRUCKaPIEaPIGaPIG FACEbNOSEaPILCROW SIGNaPILE OF POOaPILLaPINATA",
  "aPINCHED FINGERSaPINCHING HANDaPINE DECORATIONaPINEAPPLEaPINWHEEL STARaPISCESaPISTOLaPITCHFORK",
  "aPITCHFORK WITH TEE TOPaPLACARDaPLACE OF INTEREST SIGNcWORSHIPaPLANCK CONSTANT",
  "bCONSTANT OVER TWO PIaPLAYGROUND SLIDEaPLAYING CARD ACE OF CLUBSeDIAMONDSeHEARTSeSPADEScBACK",
  "cBLACK JOKERcEIGHT OF CLUBSeDIAMONDSeHEARTSeSPADEScFIVE OF CLUBSeDIAMONDSeHEARTSeSPADEScFOOL",
  "cFOUR OF CLUBSeDIAMONDSeHEARTSeSPADEScJACK OF CLUBSeDIAMONDSeHEARTSeSPADEScKING OF CLUBS",
  "eDIAMONDSeHEARTSeSPADEScKNIGHT OF CLUBSeDIAMONDSeHEARTSeSPADEScNINE OF CLUBSeDIAMONDSeHEARTS",
  "eSPADEScQUEEN OF CLUBSeDIAMONDSeHEARTSeSPADEScRED JOKERcSEVEN OF CLUBSeDIAMONDSeHEARTSeSPADES",
  "cSIX OF CLUBSeDIAMONDSeHEARTSeSPADEScTEN OF CLUBSeDIAMONDSeHEARTSeSPADEScTHREE OF CLUBS",
  "eDIAMONDSeHEARTSeSPADEScTRUMP-1d10d11d12d13d14d15d16d17d18d19d2d20d21d3d4d5d6d7d8d9",
  "cTWO OF CLUBSeDIAMONDSeHEARTSeSPADEScWHITE JOKERaPLDaPLUaPLUNGERaPLUS SIGN",
  "bSIGN ABOVE EQUALS SIGNcIN LEFT HALF CIRCLEdRIGHT HALF CIRCLEdTRIANGLEcWITH BLACK TRIANGLE",
  "dCIRCUMFLEX ACCENT ABOVEdDOT BELOWdSMALL CIRCLE ABOVEdSUBSCRIPT TWOdTILDE ABOVEeBELOW",
  "aPLUS-MINUS SIGNaPLUTOaPLUTO FORM FIVEcFOURcTHREEcTWOaPMaPOCKET CALCULATORaPOLICE CAR",
  "bCARS REVOLVING LIGHTbOFFICERaPOODLEaPOP DIRECTIONAL FORMATTINGcISOLATEaPOPCORNaPORTABLE STEREO",
  "aPOSEIDONaPOSITION INDICATORaPOSTAL HORNbMARKbMARK FACEaPOSTBOXaPOT OF FOOD",
  "aPOTABLE WATER SYMBOLaPOTATOaPOTTED PLANTaPOUCHaPOULTRY LEGaPOUND SIGNaPOURING LIQUID",
  "aPOUTING CAT FACEbFACEaPOWER ON SYMBOLbON-OFF SYMBOLbSLEEP SYMBOLbSYMBOLaPRAYER BEADSaPRECEDES",
  "aPRECEDES ABOVE ALMOST EQUAL TOcEQUALS SIGNcNOT ALMOST EQUAL TOdEQUAL TO",
  "cSINGLE-LINE EQUALS SIGNeNOT EQUAL TObBUT NOT EQUIVALENT TObOR EQUAL TOcEQUIVALENT TO",
  "bUNDER RELATIONaPREGNANT MANbPERSONbWOMANaPRESCRIPTION TAKE",
  "aPRESENTATION FORM FOR VERTICAL COLONeCOMMAeEM DASHeEN DASHeEXCLAMATION MARK",
  "eHORIZONTAL ELLIPSISeIDEOGRAPHIC COMMAfFULL STOPeLEFT ANGLE BRACKETfBLACK LENTICULAR BRACKET",
  "fCORNER BRACKETfCURLY BRACKETfDOUBLE ANGLE BRACKETfPARENTHESISfSQUARE BRACKET",
  "fTORTOISE SHELL BRACKETfWHITE CORNER BRACKETgLENTICULAR BRACKETeLOW LINEeQUESTION MARK",
  "eRIGHT ANGLE BRACKETfBLACK LENTICULAR BRACKETfCORNER BRACKETfCURLY BRACKETfDOUBLE ANGLE BRACKET",
  "fPARENTHESISfSQUARE BRACKETfTORTOISE SHELL BRACKETfWHITE CORNER BRACKETgLENTICULAR BRACKET",
  "hBRAKCETeSEMICOLONeTWO DOT LEADEReWAVY LOW LINEaPRETZELaPREVIOUS PAGEaPRIMEaPRINCEaPRINCESS",
  "aPRINT SCREEN SYMBOLaPRINTERaPRINTER ICONaPRIVACY MESSAGEaPRIVATE USE ONEcTWObUSE-1c2",
  "aPROBING CANEaPROHIBITED SIGNaPROJECTIVEaPROPERTY LINEaPROPORTIONaPROPORTIONAL TOaPROSERPINA",
  "aPSALTER PAHLAVI FOUR DOTS WITH CROSSfDOTcLETTER ALEPHdBETHdDALETHdGIMELdHEdHETHdKAPHdLAMEDH",
  "dMEM-QOPHdNUNdPEdSADHEdSAMEKHdSHINdTAWdWAW-AYIN-RESHdYODHdZAYINcNUMBER FOURdONEdONE HUNDREDdTEN",
  "dTHREEdTWENTYdTWOcSECTION MARKcTURNED SECTION MARKaPU1aPU2aPUBLIC ADDRESS LOUDSPEAKER",
  "aPUNCTUATION SPACEaPUNCTUS ELEVATUS MARKaPURPLE HEARTaPURSEaPUSHPIN",
  "aPUT LITTER IN ITS PLACE SYMBOL"]

def namesInQ : List String := [
  "aQUADRANT LOWER LEFTcRIGHTbUPPER LEFTcLEFT AND LOWER LEFT AND LOWER RIGHTfRIGHT",
  "eUPPER RIGHT AND LOWER LEFTiRIGHTcRIGHTcRIGHT AND LOWER LEFTfLEFT AND LOWER RIGHT",
  "aQUADRUPLE INTEGRAL OPERATORbPRIMEaQUARTER NOTEaQUATERNION INTEGRAL OPERATOR",
  "aQUESTION EXCLAMATION MARKbMARKaQUESTIONED EQUAL TOaQUINCUNXaQUOTATION MARK"]

def namesInR : List String := [
  "aRABBITaRABBIT FACEaRACCOONaRACING CARbMOTORCYCLEaRADICAL SYMBOL BOTTOMaRADIOaRADIO BUTTON",
  "aRADIOACTIVE SIGNaRAILWAY CARbTRACKaRAINaRAINBOWaRAISED BACK OF HANDbCOMMAbDOT",
  "bDOTTED INTERPOLATION MARKERbFISTbHANDbHAND WITH FINGERS SPLAYED",
  "dPART BETWEEN MIDDLE AND RING FINGERSbINTERPOLATION MARKERbMC SIGNbMD SIGNbMR SIGNbSQUAREaRAM",
  "aRATaRATIOaRAZORaRECEIPTaRECORD SEPARATORaRECREATIONAL VEHICLEaRECYCLED PAPER SYMBOL",
  "aRECYCLING SYMBOL FOR GENERIC MATERIALSdTYPE-1 PLASTICSe2 PLASTICSe3 PLASTICSe4 PLASTICS",
  "e5 PLASTICSe6 PLASTICSe7 PLASTICSaRED APPLEbGIFT ENVELOPEaREFERENCE MARK",
  "aREGIONAL INDICATOR SYMBOL LETTER AeBeCeDeEeFeGeHeIeJeKeLeMeNeOePeQeReSeTeUeVeWeXeYeZ",
  "aREGISTERED SIGNaREJANG CONSONANT SIGN HdNdNGdRbLETTER AcBAcCAcDAcGAcHAcJAcKAcLAcMAcMBAcNAcNDA",
  "cNGAcNGGAcNYAcNYJAcPAcRAcSAcTAcWAcYAbSECTION MARKbVIRAMAbVOWEL SIGN AIdAUdEdEAdEUdIdOdU",
  "aRELIEVED FACEaREMINDER RIBBONaREPLACEMENT CHARACTERaRESPONSEaRESTRICTED LEFT ENTRY-1d2",
  "aRESTROOMaRETURN LEFTbRIGHTbSYMBOLaREVERSE CHECKER BOARDbINDEXbLIGHT FOUR POINTED PINWHEEL STAR",
  "bLINE FEEDbSOLIDUSbSOLIDUS OPERATORcPRECEDING SUBSETcWITH HORIZONTAL STROKE",
  "bTILDE OPERATOR ABOVE LEFTWARDS ARROWeRIGHTWARDS ARROWaREVERSED ANGLEbANGLE WITH UNDERBARbCOMMA",
  "bDOUBLE PRIMEcPRIME QUOTATION MARKcSTROKE NOT SIGNbEMPTY SETbFORKED PARAGRAPHOS",
  "bHAND WITH MIDDLE FINGER EXTENDEDbNOT SIGNbPILCROW SIGNbPRIMEbQUESTION MARK",
  "bRAISED HAND WITH FINGERS SPLAYEDbRIGHT ANGLEbROTATED FLORAL HEART BULLETbSANS-SERIF CAPITAL L",
  "bSEMICOLONbTHUMBS DOWN SIGNcUP SIGNbTILDEbTILDE EQUALSbTRIPLE PRIMEbVICTORY HAND",
  "aREVOLVING HEARTSaRHINOCEROSaRIaRIAL SIGNaRIBBONaRIBBON ARROW DOWN LEFTdRIGHTcLEFT DOWNdUP",
  "cRIGHT DOWNdUPcUP LEFTdRIGHTaRICE BALLbCRACKERaRIFLEaRIGHT AND LOWER ONE EIGHTH BLOCK",
  "cUPPER ONE EIGHTH BLOCKbANGER BUBBLEbANGLEbANGLE BRACKETcBRACKET WITH DOT",
  "cDOTTED SUBSTITUTION MARKERcSUBSTITUTION MARKERcVARIANT WITH SQUAREcWITH ARC",
  "dDOWNWARDS ZIGZAG ARROWbARC GREATER-THAN BRACKETbARROW WITH CIRCLED PLUSdSMALL CIRCLE",
  "bBLACK LENTICULAR BRACKETcTORTOISE SHELL BRACKETbCEILINGbCORNER BRACKETbCURLY BRACKET",
  "cBRACKET LOWER HOOKdMIDDLE PIECEdUPPER HOOKbDOTTED SUBSTITUTION BRACKETbDOUBLE ANGLE BRACKET",
  "cARROW WITH ROUNDED HEADcPARENTHESIScQUOTATION MARKcWIGGLY FENCEbFISH TAILbFIVE EIGHTHS BLOCK",
  "bFLOORbHALF BLACK CIRCLEdSTARcBLOCKcFOLDERcMEDIUM SHADEcRUNNING MANbHAND TELEPHONE RECEIVER",
  "bLOW PARAPHRASE BRACKETbNORMAL FACTOR SEMIDIRECT PRODUCTbONE EIGHTH BLOCKcQUARTER BLOCK",
  "bOPEN SQUARED DOTbOUTER JOINbPARENTHESISbPARENTHESIS EXTENSIONcLOWER HOOKcUPPER HOOK",
  "bRAISED OMISSION BRACKETbS-SHAPED BAG DELIMITERbSEMIDIRECT PRODUCTbSEVEN EIGHTHS BLOCK",
  "bSIDEWAYS U BRACKETbSINGLE QUOTATION MARKbSPEAKERbSPEAKER WITH ONE SOUND WAVEdTHREE SOUND WAVES",
  "bSPEECH BUBBLEbSQUARE BRACKETcBRACKET EXTENSIONdLOWER CORNERdUPPER CORNERdWITH DOUBLE STROKE",
  "eQUILLeSTROKEeTICK IN BOTTOM CORNERgTOP CORNEReUNDERBARbSUBSTITUTION BRACKETbTACK",
  "bTHIRD WHITE RIGHT POINTING INDEXbTHOUGHT BUBBLEbTHREE EIGHTHS BLOCKcQUARTERS BLOCK",
  "bTORTOISE SHELL BRACKETbTRANSPOSITION BRACKETbTRIANGLEbTRIANGLE ABOVE LEFT TRIANGLE",
  "bTRIANGULAR ONE QUARTER BLOCKbVERTICAL BAR WITH QUILLcBOX LINEbWHITE CORNER BRACKET",
  "cCURLY BRACKETcLENTICULAR BRACKETcPARENTHESIScSQUARE BRACKETcTORTOISE SHELL BRACKET",
  "bWIGGLY FENCEaRIGHT-FACING ARMENIAN ETERNITY SIGNcFISTcSVASTI SIGNdSIGN WITH DOTS",
  "bHANDED INTERLACED PENTAGRAMbPOINTING ANGLE BRACKETcCURVED ANGLE BRACKET",
  "cDOUBLE ANGLE QUOTATION MARKcMAGNIFYING GLASSbSHADED WHITE RIGHTWARDS ARROW",
  "bSIDE ARC CLOCKWISE ARROWbTO-LEFT EMBEDDINGdISOLATEdMARKdOVERRIDEaRIGHTHAND INTERIOR PRODUCT",
  "aRIGHTWARDS ARROWbARROW ABOVE ALMOST EQUAL TOdREVERSE ALMOST EQUAL TOeTILDE OPERATOR",
  "dSHORT LEFTWARDS ARROWdTILDE OPERATORcAND UPPER AND LOWER ONE EIGHTH BLOCKcFROM BAR",
  "dBAR TO BLACK DIAMONDcOVER LEFTWARDS ARROWcTHROUGH GREATER-THANdSUPERSETdXcTO BARdBLACK DIAMOND",
  "cWITH CORNER DOWNWARDSdDOTTED STEMdDOUBLE VERTICAL STROKEdEQUILATERAL ARROWHEADdHOOK",
  "dLARGE TRIANGLE ARROWHEADdLOOPdMEDIUM TRIANGLE ARROWHEADdNOTCHED TAILdPLUS BELOW",
  "dSMALL EQUILATERAL ARROWHEADeTRIANGLE ARROWHEADdSTROKEdTAILdTAIL WITH DOUBLE VERTICAL STROKE",
  "fVERTICAL STROKEdTIP DOWNWARDSeUPWARDSdVERTICAL STROKEbARROW-TAIL",
  "bBACK-TILTED SHADOWED WHITE ARROWbBLACK ARROWcCIRCLED WHITE ARROWbBOTTOM SHADED WHITE ARROW",
  "bCOMPRESSED ARROWbDASHED ARROWbDOUBLE ARROWcARROW FROM BARdWITH STROKEeVERTICAL STROKE",
  "cARROW-TAILcDASH ARROWbFINGER-POST ARROWbFRONT-TILTED SHADOWED WHITE ARROWbHAND",
  "bHARPOON OVER LEFTWARDS HARPOONcWITH BARB DOWN ABOVE LEFTWARDS HARPOON WITH BARB DOWN",
  "fBELOW LONG DASHfFROM BARfTO BAReDOWNWARDSeUP ABOVE LEFTWARDS HARPOON WITH BARB UPgLONG DASH",
  "gRIGHTWARDS HARPOON WITH BARB DOWNfFROM BARfTO BAReUPWARDSbHEAVY ARROWcCOMPRESSED ARROW",
  "bLEFT-SHADED WHITE ARROWbOPEN-HEADED ARROWbPAIRED ARROWSbQUADRUPLE ARROW",
  "bRIGHT-SHADED WHITE ARROWbROCKETbSANS-SERIF ARROWbSQUARED ARROWbSQUIGGLE ARROW",
  "bTOP SHADED WHITE ARROWbTRIANGLE ARROWHEADbTRIANGLE-HEADED ARROW",
  "dARROW OVER LEFTWARDS TRIANGLE-HEADED ARROWeTO BAReWITH BOLD SHAFTfDOUBLE HORIZONTAL STROKE",
  "gVERTICAL STROKEfHEAVY SHAFTfLONG TIP DOWNWARDShUPWARDSfMEDIUM SHAFTfNARROW SHAFT",
  "fVERY HEAVY SHAFTdDASHED ARROWdPAIRED ARROWSbTRIPLE ARROWcDASH ARROWbTWO HEADED ARROW",
  "bTWO-HEADED ARROW FROM BAReWITH DOUBLE VERTICAL STROKEfTAILfTAIL WITH DOUBLE VERTICAL STROKE",
  "hVERTICAL STROKEfTRIANGLE ARROWHEADSfVERTICAL STROKEdTRIPLE DASH ARROWbWAVE ARROWbWHITE ARROW",
  "cARROW FROM WALLdWITHIN TRIANGLE ARROWHEADaRINGaRING ABOVEbBUOYbEQUAL TObIN EQUAL TObOPERATOR",
  "bPOINTaRINGED PLANETaRINGING BELLaRISING DIAGONAL CROSSING FALLING DIAGONALdSOUTH EAST ARROW",
  "aRLEaRLIaRLMaRLOaROASTED SWEET POTATOaROBOT FACEaROCKaROCKETaROLL OF PAPERaROLLED-UP NEWSPAPER",
  "aROLLER COASTERbSKATEaROLLING ON THE FLOOR LAUGHINGaROMAN AS SIGNbCENTURIAL SIGNbDENARIUS SIGN",
  "bDIMIDIA SEXTULA SIGNbDUPONDIUS SIGNbNUMERAL EIGHTcELEVENcFIFTYcFIFTY EARLY FORMdTHOUSANDcFIVE",
  "cFIVE HUNDREDdTHOUSANDcFOURcNINEcONEcONE HUNDREDdHUNDRED THOUSANDdTHOUSANDdTHOUSAND C D",
  "cREVERSED ONE HUNDREDcSEVENcSIXcSIX LATE FORMcTENcTEN THOUSANDcTHREEcTWELVEcTWObQUINARIUS SIGN",
  "bSEMUNCIA SIGNbSESTERTIUS SIGNbSEXTANS SIGNbSEXTULA SIGNbSILIQUA SIGNbUNCIA SIGNaROOSTERaROSE",
  "aROSETTEaROTATED CAPITAL QbFLORAL HEART BULLETbHEAVY BLACK HEART BULLET",
  "bLIGHT FOUR POINTED BLACK CUSPbWHITE FOUR POINTED CUSPaROUND PUSHPINbTARGET",
  "aROUNDED SYMBOL FOR CAIdFUdLUdSHOUdSHUANGXIdXIaROWBOATaRSaRUBLE SIGNaRUGBY FOOTBALL",
  "aRULE-DELAYEDaRUMI DIGIT EIGHTcFIVEcFOURcNINEcONEcSEVENcSIXcTHREEcTWObFRACTION ONE HALFdQUARTER",
  "dTHIRDcTWO THIRDSbNUMBER EIGHT HUNDREDcEIGHTYcFIFTYcFIVE HUNDREDcFORTYcFOUR HUNDRED",
  "cNINE HUNDREDcNINETYcONE HUNDREDcSEVEN HUNDREDcSEVENTYcSIX HUNDREDcSIXTYcTENcTHIRTY",
  "cTHREE HUNDREDcTWENTYcTWO HUNDREDaRUNIC ARLAUG SYMBOLbBELGTHOR SYMBOLbCROSS PUNCTUATION",
  "bLETTER AC AcAESCcALGIZ EOLHXcANSUZ AcBERKANAN BEORC BJARKAN BcCcCALCcCEALCcCENcCWEORTHcD",
  "cDAGAZ DAEG DcDOTTED-LdNdPcEcEARcEHWAZ EH EcENGcETHcFEHU FEOH FE FcFRANKS CASKET ACeAESCeEHeIS",
  "eOScGcGARcGEBO GYFU GcGERcHAEGL HcHAGLAZ HcICELANDIC-YRcINGcINGWAZcIORcISAZ IS ISS IcIWAZ EOH",
  "cJERAN JcKcKAUN KcKAUNAcLAUKAZ LAGU LOGR LcLONG-BRANCH-AR AEeHAGALL HeMADR MeOSS OeYR",
  "cMANNAZ MAN McNAUDIZ NYD NAUD NcOcOEcONcOOcOPEN-PcOS OcOTHALAN ETHEL OcPERTHO PEORTH PcQ",
  "cRAIDO RAD REID RcSHcSHORT-TWIG-AR AeBJARKAN BeHAGALL HeMADR MeNAUD NeOSS OeSOL SeTYR TeYR",
  "cSIGEL LONG-BRANCH-SOL ScSOWILO ScSTANcTHURISAZ THURS THORNcTIWAZ TIR TYR TcURUZ UR UcVcW",
  "cWUNJO WYNN WcXcYcYRcZbMULTIPLE PUNCTUATIONbSINGLE PUNCTUATIONbTVIMADUR SYMBOLaRUNNER",
  "aRUNNING SHIRT WITH SASHaRUPEE SIGNaRUSSIAN ASTROLOGICAL SYMBOL BINOVILEdNOVILEdQUINTILE",
  "dSENTAGONdTREDECILEdVIGINTILE"]

end CircuitConsole.Text
