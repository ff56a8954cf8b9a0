/-!
Names of characters in the Unicode standard, version 14: those that begin with K or L.
How a listing is read is told where names are looked up.
-/

namespace CircuitConsole.Text

def namesInK : List String := [
  "aKAABAaKAITHI ABBREVIATION SIGNbDANDAbDOUBLE DANDAcSECTION MARKbENUMERATION SIGNbLETTER AcAAcAI",
  "cAUcBAcBHAcCAcCHAcDAcDDAcDDDHAcDDHAcDHAcEcGAcGHAcHAcIcIIcJAcJHAcKAcKHAcLAcMAcNAcNGAcNNAcNYAcO",
  "cPAcPHAcRAcRHAcSAcSHAcSSAcTAcTHAcTTAcTTHAcUcUUcVAcYAbNUMBER SIGNcSIGN ABOVEbSECTION MARK",
  "bSIGN ANUSVARAcCANDRABINDUcNUKTAcVIRAMAcVISARGAbVOWEL SIGN AAdAIdAUdEdIdIIdOdUdUUdVOCALIC R",
  "aKANGAROOaKANGXI RADICAL AGAINcANDcARRIVEcARROWcAXEcBADGERcBAMBOOcBEANcBIGcBIRDcBITTERcBLACK",
  "cBLOODcBLUEcBOATcBODYcBOLT OF CLOTHcBONEcBOWcBRANCHcBRISTLEcBRUSHcCARTcCAULDRONcCAVEcCHILDcCITY",
  "cCLANcCLAWcCLIFFcCLOTHEScCOLORcCOMPAREcCORPSEcCOVERcCOWcDEATHcDEERcDIPPERcDISHcDISTINGUISH",
  "cDIVINATIONcDO NOTcDOGcDOORcDOTcDOTTED CLIFFdTENTcDOUBLE XcDOWN BOXcDRAGONcDRUMcDRYcEARcEARTH",
  "cEATcEIGHTcEMBROIDERYcENCLOSUREcENTERcEVENcEVENINGcEYEcFACEcFANGcFATHERcFEATHERcFIELDcFIGHT",
  "cFIREcFISHcFLUTEcFLYcFOOTcFRAGRANTcFROGcFURcGATEcGHOSTcGOcGO SLOWLYcGOLDcGRAINcGRASScHAIR",
  "cHALBERDcHALF TREE TRUNKcHANDcHEADcHEARTcHEMPcHIDING ENCLOSUREcHOOKcHORNcHORSEcICEcINCHcINSECT",
  "cJADEcJARcKNIFEcLACKcLAMEcLEAFcLEATHERcLEEKcLEGScLIDcLIFEcLINEcLONGcLONG STRIDEcMANcMEATcMELON",
  "cMILLETcMINISTERcMOONcMORNINGcMORTARcMOUNDcMOUNTAINcMOUTHcNETcNOSEcNOTcOLDcONEcONESELFcOPEN BOX",
  "cOPPOSEcPIGcPLOWcPOWERcPRIVATEcPROFOUNDcRAINcRAPcRATcREDcRICEcRIGHT OPEN BOXcRIVERcROOFcRUN",
  "cSACRIFICIAL WINEcSALTcSAYcSCHOLARcSCRIPTcSEALcSECONDcSEEcSELFcSHEEPcSHELLcSHOOT",
  "cSHORT TAILED BIRDdTHREADcSICKNESScSILKcSKINcSLASHcSLAVEcSLICEcSMALLcSNOUTcSOUNDcSPEARcSPEECH",
  "cSPIRITcSPOONcSPROUTcSQUAREcSTANDcSTEAMcSTEPcSTONEcSTOPcSTOPPINGcSUNcSWEETcTABLEcTALL",
  "cTANNED LEATHERcTENcTIGERcTILEcTONGUEcTOOTHcTRACKcTREEcTRIPODcTURBANcTURTLEcTWOcTWO HANDScUSE",
  "cVALLEYcVILLAGEcWALKcWALK ENCLOSUREcWATERcWEAPONcWESTcWHEATcWHITEcWINDcWINEcWOMANcWORKcWRAP",
  "cWRONGcYELLOWaKANNADA AI LENGTH MARKbDIGIT EIGHTcFIVEcFOURcNINEcONEcSEVENcSIXcTHREEcTWOcZERO",
  "bLENGTH MARKbLETTER AcAAcAIcAUcBAcBHAcCAcCHAcDAcDDAcDDHAcDHAcEcEEcFAcGAcGHAcHAcIcIIcJAcJHAcKA",
  "cKHAcLAcLLAcLLLAcMAcNAcNAKAARA POLLUcNGAcNNAcNYAcOcOOcPAcPHAcRAcRRAcSAcSHAcSSAcTAcTHAcTTAcTTHA",
  "cUcUUcVAcVOCALIC LdLLdRdRRcYAbSIGN ANUSVARAcAVAGRAHAcCANDRABINDUcJIHVAMULIYAcNUKTAcSIDDHAM",
  "cSPACING CANDRABINDUcUPADHMANIYAcVIRAMAcVISARGAbVOWEL SIGN AAdAIdAUdEdEEdIdIIdOdOOdUdUU",
  "dVOCALIC LeLLeReRRaKATAKANA DIGRAPH KOTObITERATION MARKbLETTER AcARCHAIC EdWUdYEdYIcBAcBEcBIcBO",
  "cBUcDAcDEcDIcDOcDUcEcGAcGEcGIcGOcGUcHAcHEcHIcHOcHUcIcKAcKEcKIcKOcKUcMAcMEcMI",
  "cMINNAN NASALIZED TONE-1f2f3f4f5f7f8dTONE-2e3e4e5e7e8cMOcMUcNcNAcNEcNIcNOcNUcOcPAcPEcPIcPOcPU",
  "cRAcREcRIcROcRUcSAcSEcSIcSMALL AdEdHAdHEdHIdHOdHUdIdKAdKEdKUdMUdNdNUdOdRAdREdRIdROdRUdSIdSUdTO",
  "dTUdUdWAdWEdWIdWOdYAdYOdYUcSOcSUcTAcTEcTIcTOcTUcUcVAcVEcVIcVOcVUcWAcWEcWIcWOcYAcYOcYUcZAcZEcZI",
  "cZOcZUbMIDDLE DOTbVOICED ITERATION MARKaKATAKANA-HIRAGANA DOUBLE HYPHENcPROLONGED SOUND MARK",
  "cSEMI-VOICED SOUND MARKcVOICED SOUND MARKaKAYAH LI DIGIT EIGHTdFIVEdFOURdNINEdONEdSEVENdSIX",
  "dTHREEdTWOdZEROcLETTER AdBAdCAdDAdGAdHAdHTAdIdKAdKHAdLAdMAdNAdNGAdNYAdOEdOOdPAdPHAdRAdSAdSHAdTA",
  "dTHAdVAdWAdYAdZAcSIGN CWIdSHYAcTONE CALYAdCALYA PLOPHUdPLOPHUcVOWEL EdEEdOdUdUEaKELVIN SIGNaKEY",
  "aKEYBOARDaKEYBOARD AND MOUSEaKEYCAP TENaKHAROSHTHI DIGIT FOURcONEcTHREEcTWObFRACTION ONE HALF",
  "bLETTER AcBAcBHAcCAcCHAcDAcDDAcDDHAcDHAcGAcGHAcHAcJAcKAcKHAcKKAcLAcMAcNAcNNAcNYAcPAcPHAcRAcSA",
  "cSHAcSSAcTAcTHAcTTAcTTHAcTTTAcTTTHAcVAcVHAcYAcZAbNUMBER ONE HUNDREDdTHOUSANDcTENcTWENTY",
  "bPUNCTUATION CIRCLEcCRESCENT BARcDANDAcDOTcDOUBLE DANDAcLINEScLOTUScMANGALAMcSMALL CIRCLE",
  "bSIGN ANUSVARAcBAR ABOVEcCAUDAcDOT BELOWcDOUBLE RING BELOWcVISARGAbVIRAMAbVOWEL LENGTH MARK",
  "cSIGN EdIdOdUdVOCALIC RaKHITAN SMALL SCRIPT CHARACTER-18B00e18B01e18B02e18B03e18B04e18B05e18B06",
  "e18B07e18B08e18B09e18B0Ae18B0Be18B0Ce18B0De18B0Ee18B0Fe18B10e18B11e18B12e18B13e18B14e18B15",
  "e18B16e18B17e18B18e18B19e18B1Ae18B1Be18B1Ce18B1De18B1Ee18B1Fe18B20e18B21e18B22e18B23e18B24",
  "e18B25e18B26e18B27e18B28e18B29e18B2Ae18B2Be18B2Ce18B2De18B2Ee18B2Fe18B30e18B31e18B32e18B33",
  "e18B34e18B35e18B36e18B37e18B38e18B39e18B3Ae18B3Be18B3Ce18B3De18B3Ee18B3Fe18B40e18B41e18B42",
  "e18B43e18B44e18B45e18B46e18B47e18B48e18B49e18B4Ae18B4Be18B4Ce18B4De18B4Ee18B4Fe18B50e18B51",
  "e18B52e18B53e18B54e18B55e18B56e18B57e18B58e18B59e18B5Ae18B5Be18B5Ce18B5De18B5Ee18B5Fe18B60",
  "e18B61e18B62e18B63e18B64e18B65e18B66e18B67e18B68e18B69e18B6Ae18B6Be18B6Ce18B6De18B6Ee18B6F",
  "e18B70e18B71e18B72e18B73e18B74e18B75e18B76e18B77e18B78e18B79e18B7Ae18B7Be18B7Ce18B7De18B7E",
  "e18B7Fe18B80e18B81e18B82e18B83e18B84e18B85e18B86e18B87e18B88e18B89e18B8Ae18B8Be18B8Ce18B8D",
  "e18B8Ee18B8Fe18B90e18B91e18B92e18B93e18B94e18B95e18B96e18B97e18B98e18B99e18B9Ae18B9Be18B9C",
  "e18B9De18B9Ee18B9Fe18BA0e18BA1e18BA2e18BA3e18BA4e18BA5e18BA6e18BA7e18BA8e18BA9e18BAAe18BAB",
  "e18BACe18BADe18BAEe18BAFe18BB0e18BB1e18BB2e18BB3e18BB4e18BB5e18BB6e18BB7e18BB8e18BB9e18BBA",
  "e18BBBe18BBCe18BBDe18BBEe18BBFe18BC0e18BC1e18BC2e18BC3e18BC4e18BC5e18BC6e18BC7e18BC8e18BC9",
  "e18BCAe18BCBe18BCCe18BCDe18BCEe18BCFe18BD0e18BD1e18BD2e18BD3e18BD4e18BD5e18BD6e18BD7e18BD8",
  "e18BD9e18BDAe18BDBe18BDCe18BDDe18BDEe18BDFe18BE0e18BE1e18BE2e18BE3e18BE4e18BE5e18BE6e18BE7",
  "e18BE8e18BE9e18BEAe18BEBe18BECe18BEDe18BEEe18BEFe18BF0e18BF1e18BF2e18BF3e18BF4e18BF5e18BF6",
  "e18BF7e18BF8e18BF9e18BFAe18BFBe18BFCe18BFDe18BFEe18BFFe18C00e18C01e18C02e18C03e18C04e18C05",
  "e18C06e18C07e18C08e18C09e18C0Ae18C0Be18C0Ce18C0De18C0Ee18C0Fe18C10e18C11e18C12e18C13e18C14",
  "e18C15e18C16e18C17e18C18e18C19e18C1Ae18C1Be18C1Ce18C1De18C1Ee18C1Fe18C20e18C21e18C22e18C23",
  "e18C24e18C25e18C26e18C27e18C28e18C29e18C2Ae18C2Be18C2Ce18C2De18C2Ee18C2Fe18C30e18C31e18C32",
  "e18C33e18C34e18C35e18C36e18C37e18C38e18C39e18C3Ae18C3Be18C3Ce18C3De18C3Ee18C3Fe18C40e18C41",
  "e18C42e18C43e18C44e18C45e18C46e18C47e18C48e18C49e18C4Ae18C4Be18C4Ce18C4De18C4Ee18C4Fe18C50",
  "e18C51e18C52e18C53e18C54e18C55e18C56e18C57e18C58e18C59e18C5Ae18C5Be18C5Ce18C5De18C5Ee18C5F",
  "e18C60e18C61e18C62e18C63e18C64e18C65e18C66e18C67e18C68e18C69e18C6Ae18C6Be18C6Ce18C6De18C6E",
  "e18C6Fe18C70e18C71e18C72e18C73e18C74e18C75e18C76e18C77e18C78e18C79e18C7Ae18C7Be18C7Ce18C7D",
  "e18C7Ee18C7Fe18C80e18C81e18C82e18C83e18C84e18C85e18C86e18C87e18C88e18C89e18C8Ae18C8Be18C8C",
  "e18C8De18C8Ee18C8Fe18C90e18C91e18C92e18C93e18C94e18C95e18C96e18C97e18C98e18C99e18C9Ae18C9B",
  "e18C9Ce18C9De18C9Ee18C9Fe18CA0e18CA1e18CA2e18CA3e18CA4e18CA5e18CA6e18CA7e18CA8e18CA9e18CAA",
  "e18CABe18CACe18CADe18CAEe18CAFe18CB0e18CB1e18CB2e18CB3e18CB4e18CB5e18CB6e18CB7e18CB8e18CB9",
  "e18CBAe18CBBe18CBCe18CBDe18CBEe18CBFe18CC0e18CC1e18CC2e18CC3e18CC4e18CC5e18CC6e18CC7e18CC8",
  "e18CC9e18CCAe18CCBe18CCCe18CCDe18CCEe18CCFe18CD0e18CD1e18CD2e18CD3e18CD4e18CD5dFILLER",
  "aKHMER CURRENCY SYMBOL RIELbDIGIT EIGHTcFIVEcFOURcNINEcONEcSEVENcSIXcTHREEcTWOcZERO",
  "bINDEPENDENT VOWEL LYdLYYdQAAdQAIdQAQdQAUdQEdQIdQIIdQOO TYPE ONEfTWOdQUdQUKdQUUdQUUVdRYdRYY",
  "bLETTER BAcCAcCHAcCHOcCOcDAcDOcHAcKAcKHAcKHOcKOcLAcLOcMOcNGOcNNOcNOcNYOcPHAcPHOcPOcQAcROcSAcSHA",
  "cSSOcTAcTHAcTHOcTOcTTHAcTTHOcVOcYObSIGN AHSDAcATTHACANcAVAKRAHASANYAcBANTOCcBARIYOOSAN",
  "cBATHAMASATcBEYYALcCAMNUC PII KUUHcCOENGcKAKABATcKHANcKOOMUUTcLEK TOOcMUUSIKATOANcNIKAHIT",
  "cPHNAEK MUANcREAHMUKcROBATcSAMYOK SANNYAcTOANDAKHIATcTRIISAPcVIRIAMcYUUKALEAPINTU",
  "bSYMBOL BEI KOETdROCcBUON KOETdROCcDAP KOETdROCcDAP-BEI KOETeROCdBUON KOETeROCdMUOY KOETeROC",
  "dPII KOETeROCdPRAM KOETeROCcLEK ATTAK BEIeBUONeMUOYePIIePRAMePRAM-BEIfBUONfMUOYfPIIeSON",
  "cMUOY KOETdROCcPATHAMASATcPII KOETdROCcPRAM KOETdROCcPRAM-BEI KOETeROCdBUON KOETeROCdMUOY KOET",
  "eROCdPII KOETeROCcTUTEYASATbVOWEL INHERENT AAdAQcSIGN AAdAEdAIdAUdEdIdIEdIIdOEdOOdUdUAdUUdYdYA",
  "dYYaKHOJKI ABBREVIATION SIGNbDANDAbDOUBLE DANDAcSECTION MARKbLETTER AcAAcAIcAUcBAcBBAcBHAcCA",
  "cCHAcDAcDDAcDDDAcDDHAcDHAcEcGAcGGAcGHAcHAcIcJAcJJAcKAcKHAcLAcLLAcMAcNAcNGAcNNAcNYAcOcPAcPHAcRA",
  "cSAcTAcTHAcTTAcTTHAcUcVAcYAbSECTION MARKbSIGN ANUSVARAcNUKTAcSHADDAcSUKUNcVIRAMAbVOWEL SIGN AA",
  "dAIdAUdEdIdIIdOdUbWORD SEPARATORaKHUDAWADI DIGIT EIGHTcFIVEcFOURcNINEcONEcSEVENcSIXcTHREEcTWO",
  "cZERObLETTER AcAAcAIcAUcBAcBBAcBHAcCAcCHAcDAcDDAcDDDAcDDHAcDHAcEcGAcGGAcGHAcHAcIcIIcJAcJHAcJJA",
  "cKAcKHAcLAcMAcNAcNGAcNNAcNYAcOcPAcPHAcRAcRRAcSAcSHAcTAcTHAcTTAcTTHAcUcUUcVAcYAbSIGN ANUSVARA",
  "cNUKTAcVIRAMAbVOWEL SIGN AAdAIdAUdEdIdIIdOdUdUUaKIMONOaKIP SIGNaKISSaKISS MARK",
  "aKISSING CAT FACE WITH CLOSED EYESbFACEbFACE WITH CLOSED EYESdSMILING EYESaKITEaKIWIFRUIT",
  "aKNEELING PERSONaKNOTaKOALAaKOREAN STANDARD SYMBOLaKRONOS"]

def namesInL : List String := [
  "aL B BAR SYMBOLaLAB COATaLABELaLACROSSE STICK AND BALLaLADDERaLADY BEETLEaLANGUAGE TAG",
  "aLAO CANCELLATION MARKbDIGIT EIGHTcFIVEcFOURcNINEcONEcSEVENcSIXcTHREEcTWOcZERObELLIPSISbHO MO",
  "cNObKO LAbLETTER BOcCOcDOcFO FAYdFONdSUNGdTAMcHO SUNGdTAMcKHMU GOdNYOcKHO SUNGdTAMcKOcLO",
  "cLO LINGdLOOTcMOcNGOcNOcNYOcOcPALI BHAdCHAdDDAdDDHAdDHAdGHAdJHAdLLAdNNAdNYAdTTAdTTHAcPHO SUNG",
  "dTAMcPOcROcSANSKRIT SHAdSSAcSO SUNGdTAMcTHO SUNGdTAMcTOcWOcYObNIGGAHITAbSEMIVOWEL SIGN LOdNYO",
  "bSIGN PALI VIRAMAbTONE MAI CATAWAdEKdTHOdTIbVOWEL SIGN AdAAdAIdAMdAYdEdEIdIdIIdMAI KANeKONdOdU",
  "dUUdYdYYaLARGE BLUE CIRCLEcDIAMONDcSQUAREbBROWN CIRCLEcSQUAREbCIRCLEbDOWN TACKbGREEN CIRCLE",
  "cSQUAREbLEFT TRIANGLE OPERATORbONE DOT OVER TWO DOTS PUNCTUATION",
  "cRING OVER TWO RINGS PUNCTUATIONbORANGE CIRCLEcDIAMONDcSQUAREbPURPLE CIRCLEcSQUAREbRED CIRCLE",
  "cSQUAREbTRIPLE VERTICAL BAR OPERATORbTWO DOTS OVER ONE DOT PUNCTUATION",
  "cRINGS OVER ONE RING PUNCTUATIONbUP TACKbYELLOW CIRCLEcSQUAREaLARGER THANbTHAN OR EQUAL TO",
  "aLARI SIGNaLAST QUARTER MOONcMOON SYMBOLdWITH FACEaLATIN CAPITAL LETTER AdA WITH ACUTEfBREVE",
  "fBREVE AND ACUTEhDOT BELOWhGRAVEhHOOK ABOVEhTILDEfCARONfCIRCUMFLEXfCIRCUMFLEX AND ACUTE",
  "hDOT BELOWhGRAVEhHOOK ABOVEhTILDEfDIAERESISfDIAERESIS AND MACRONfDOT ABOVEgABOVE AND MACRON",
  "gBELOWfDOUBLE GRAVEfGRAVEfHOOK ABOVEfINVERTED BREVEfMACRONfOGONEKfRING ABOVEgABOVE AND ACUTE",
  "gBELOWfSTROKEfTILDEdAAdAEdAE WITH ACUTEfMACRONdAFRICAN DdALPHAdANGLICANA WdAOdAUdAV",
  "dAV WITH HORIZONTAL BARdAYdBdB WITH DOT ABOVEgBELOWfFLOURISHfHOOKfLINE BELOWfSTROKEfTOPBARdBETA",
  "dBROKEN LdCdC WITH ACUTEfBARfCARONfCEDILLAfCEDILLA AND ACUTEfCIRCUMFLEXfDOT ABOVEfHOOK",
  "fPALATAL HOOKfSTROKEdCHIdCLOSED INSULAR GdCONdCUATRILLOdCUATRILLO WITH COMMAdDdD WITH CARON",
  "fCEDILLAfCIRCUMFLEX BELOWfDOT ABOVEgBELOWfHOOKfLINE BELOWfSHORT STROKE OVERLAYfSMALL LETTER Z",
  "hZ WITH CARONfSTROKEfTOPBARdDZdDZ WITH CARONdEdE WITH ACUTEfBREVEfCARONfCEDILLA",
  "fCEDILLA AND BREVEfCIRCUMFLEXfCIRCUMFLEX AND ACUTEhDOT BELOWhGRAVEhHOOK ABOVEhTILDEgBELOW",
  "fDIAERESISfDOT ABOVEgBELOWfDOUBLE GRAVEfGRAVEfHOOK ABOVEfINVERTED BREVEfMACRONfMACRON AND ACUTE",
  "hGRAVEfOGONEKfSTROKEfTILDEfTILDE BELOWdEGYPTOLOGICAL AINeALEFdENGdESHdETdETHdEZHdEZH REVERSED",
  "eWITH CARONdFdF WITH DOT ABOVEfHOOKfSTROKEdGdG WITH ACUTEfBREVEfCARONfCEDILLAfCIRCUMFLEX",
  "fDOT ABOVEfHOOKfMACRONfOBLIQUE STROKEfSTROKEdGAMMAdGHAdGLOTTAL AeIeSTOPeUdHdH WITH BREVE BELOW",
  "fCARONfCEDILLAfCIRCUMFLEXfDESCENDERfDIAERESISfDOT ABOVEgBELOWfHOOKfSTROKEdHALF HdHENGdHWAIRdI",
  "dI WITH ACUTEfBREVEfCARONfCIRCUMFLEXfDIAERESISfDIAERESIS AND ACUTEfDOT ABOVEgBELOWfDOUBLE GRAVE",
  "fGRAVEfHOOK ABOVEfINVERTED BREVEfMACRONfOGONEKfSTROKEfTILDEfTILDE BELOWdINSULAR DeFeGeReSeT",
  "dIOTAdISdJdJ WITH CIRCUMFLEXfCROSSED-TAILfSTROKEdKdK WITH ACUTEfCARONfCEDILLAfDESCENDER",
  "fDIAGONAL STROKEfDOT BELOWfHOOKfLINE BELOWfOBLIQUE STROKEfSTROKEfSTROKE AND DIAGONAL STROKEdL",
  "dL WITH ACUTEfBARfBELTfCARONfCEDILLAfCIRCUMFLEX BELOWfDOT BELOWgBELOW AND MACRONfDOUBLE BAR",
  "fHIGH STROKEfLINE BELOWfMIDDLE DOTgTILDEfSMALL LETTER JfSTROKEdLJdMdM WITH ACUTEfDOT ABOVE",
  "gBELOWfHOOKdMIDDLE SCOTS SdMIDDLE-WELSH LLfVdNdN WITH ACUTEfCARONfCEDILLAfCIRCUMFLEX BELOW",
  "fDESCENDERfDOT ABOVEgBELOWfGRAVEfLEFT HOOKfLINE BELOWfLONG RIGHT LEGfOBLIQUE STROKE",
  "fSMALL LETTER JfTILDEdNJdOdO WITH ACUTEfBREVEfCARONfCIRCUMFLEXfCIRCUMFLEX AND ACUTEhDOT BELOW",
  "hGRAVEhHOOK ABOVEhTILDEfDIAERESISfDIAERESIS AND MACRONfDOT ABOVEgABOVE AND MACRONgBELOW",
  "fDOUBLE ACUTEgGRAVEfGRAVEfHOOK ABOVEfHORNfHORN AND ACUTEhDOT BELOWhGRAVEhHOOK ABOVEhTILDE",
  "fINVERTED BREVEfLONG STROKE OVERLAYfLOOPfMACRONfMACRON AND ACUTEhGRAVEfMIDDLE TILDEfOGONEK",
  "fOGONEK AND MACRONfSTROKEfSTROKE AND ACUTEfTILDEfTILDE AND ACUTEhDIAERESIShMACRONdOI",
  "dOLD POLISH OdOMEGAdOOdOPEN EeOdOUdPdP WITH ACUTEfDOT ABOVEfFLOURISHfHOOKfSQUIRREL TAILfSTROKE",
  "fSTROKE THROUGH DESCENDERdQdQ WITH DIAGONAL STROKEfSTROKE THROUGH DESCENDERdRdR ROTUNDA",
  "eWITH ACUTEfCARONfCEDILLAfDOT ABOVEgBELOWgBELOW AND MACRONfDOUBLE GRAVEfINVERTED BREVE",
  "fLINE BELOWfOBLIQUE STROKEfSTROKEfTAILdREVERSED C WITH DOTeEeHALF HeOPEN EdRUM ROTUNDAdS",
  "dS WITH ACUTEfACUTE AND DOT ABOVEfCARONfCARON AND DOT ABOVEfCEDILLAfCIRCUMFLEXfCOMMA BELOW",
  "fDOT ABOVEgBELOWgBELOW AND DOT ABOVEfHOOKfOBLIQUE STROKEfSHORT STROKE OVERLAYfSWASH TAIL",
  "dSALTILLOdSCHWAdSCRIPT GdSHARP SdSIGMOID SdSMALL CAPITAL IeQ WITH HOOK TAILdTdT WITH CARON",
  "fCEDILLAfCIRCUMFLEX BELOWfCOMMA BELOWfDIAGONAL STROKEfDOT ABOVEgBELOWfHOOKfLINE BELOW",
  "fRETROFLEX HOOKfSTROKEdTHORNdTHORN WITH STROKEfSTROKE THROUGH DESCENDERdTONE FIVEeSIXeTWO",
  "dTRESILLOdTURNED AeALPHAeHeINSULAR GeKeLeMeTeVdTZdUdU BAReWITH ACUTEfBREVEfCARONfCIRCUMFLEX",
  "fCIRCUMFLEX BELOWfDIAERESISfDIAERESIS AND ACUTEhCARONhGRAVEhMACRONgBELOWfDOT BELOWfDOUBLE ACUTE",
  "gGRAVEfGRAVEfHOOK ABOVEfHORNfHORN AND ACUTEhDOT BELOWhGRAVEhHOOK ABOVEhTILDEfINVERTED BREVE",
  "fMACRONfMACRON AND DIAERESISfOGONEKfRING ABOVEfSTROKEfTILDEfTILDE AND ACUTEgBELOWdUPSILONdV",
  "dV WITH DIAGONAL STROKEfDOT BELOWfHOOKfTILDEdVENDdVISIGOTHIC ZdVOLAPUK AEeOEeUEdVYdW",
  "dW WITH ACUTEfCIRCUMFLEXfDIAERESISfDOT ABOVEgBELOWfGRAVEfHOOKdWYNNdXdX WITH DIAERESISfDOT ABOVE",
  "dYdY WITH ACUTEfCIRCUMFLEXfDIAERESISfDOT ABOVEgBELOWfGRAVEfHOOKfHOOK ABOVEfLOOPfMACRONfSTROKE",
  "fTILDEdYOGHdZdZ WITH ACUTEfCARONfCIRCUMFLEXfDESCENDERfDOT ABOVEgBELOWfHOOKfLINE BELOW",
  "fPALATAL HOOKfSTROKEfSWASH TAILcLIGATURE IJdOEbCROSSbEPIGRAPHIC LETTER ARCHAIC MdI LONGA",
  "dINVERTED MdREVERSED FePdSIDEWAYS IbLETTER AINcALVEOLAR CLICKcBIDENTAL PERCUSSIVE",
  "cBILABIAL CLICKdPERCUSSIVEcDENTAL CLICKcGLOTTAL STOPdSTOP WITH STROKEcINVERTED GLOTTAL STOP",
  "eSTOP WITH CURLgSTROKEcLATERAL CLICKcPHARYNGEAL VOICED FRICATIVEcRETROFLEX CLICK",
  "dCLICK WITH RETROFLEX HOOKcREVERSED ESH LOOPdGLOTTAL STOP WITH STROKEcSINOLOGICAL DOT",
  "cSMALL CAPITAL AeAEeBeBARRED BeCeDeEeETHeEZHeFeGeG WITH HOOKeHeIeINVERTED ReJeKeLeL WITH BELT",
  "gSTROKEeMeNeOeOEeOPEN OeOUePeQeReR WITH RIGHT LEGeREVERSED NfReRUMeSeTeTURNED EfGfKfMfReUeVeWeY",
  "eZcSTRETCHED CdC WITH CURLcTWO WITH STROKEcVOICED LARYNGEAL SPIRANTcWYNNcYR",
  "bSMALL CAPITAL LETTER I WITH STROKEeU WITH STROKEcLETTER AdA REVERSED-SCHWAeWITH ACUTEfBREVE",
  "fBREVE AND ACUTEhDOT BELOWhGRAVEhHOOK ABOVEhTILDEfCARONfCIRCUMFLEXfCIRCUMFLEX AND ACUTE",
  "hDOT BELOWhGRAVEhHOOK ABOVEhTILDEfDIAERESISfDIAERESIS AND MACRONfDOT ABOVEgABOVE AND MACRON",
  "gBELOWfDOUBLE GRAVEfGRAVEfHOOK ABOVEfINVERTED BREVEfMACRONfOGONEKfRETROFLEX HOOK",
  "fRIGHT HALF RINGfRING ABOVEgABOVE AND ACUTEgBELOWfSTROKEfTILDEdAAdAEdAE WITH ACUTEfMACRONdALPHA",
  "dALPHA WITH RETROFLEX HOOKdANGLICANA WdAOdAUdAVdAV WITH HORIZONTAL BARdAYdBdB WITH DOT ABOVE",
  "gBELOWfFLOURISHfHOOKfLINE BELOWfMIDDLE TILDEfPALATAL HOOKfSTROKEfTOPBARdBARRED ALPHAeEeO",
  "dBASELINE ESHdBETAdBLACKLETTER EeOeO WITH STROKEdBOTTOM HALF OdBROKEN LdCdC WITH ACUTEfBAR",
  "fCARONfCEDILLAfCEDILLA AND ACUTEfCIRCUMFLEXfCURLfDOT ABOVEfHOOKfPALATAL HOOKfRETROFLEX HOOK",
  "fSTROKEdCHIdCHI WITH LOW LEFT SERIFgRIGHT RINGdCLOSED INSULAR GeOMEGAeOPEN EeREVERSED OPEN E",
  "dCONdCUATRILLOdCUATRILLO WITH COMMAdDdD WITH CARONfCEDILLAfCIRCUMFLEX BELOWfCURLfDOT ABOVE",
  "gBELOWfHOOKfHOOK AND TAILfLINE BELOWfMIDDLE TILDEfPALATAL HOOKfSHORT STROKE OVERLAYfSTROKEfTAIL",
  "fTOPBARdDB DIGRAPHdDELTAdDEZH DIGRAPHeDIGRAPH WITH PALATAL HOOKgRETROFLEX HOOKdDOTLESS IeJ",
  "eJ WITH STROKEgSTROKE AND HOOKdDOUBLE ReR WITH CROSSED-TAILeTHORNeWYNNdDUMdDZdDZ DIGRAPH",
  "eDIGRAPH WITH CURLgRETROFLEX HOOKeWITH CARONdEdE WITH ACUTEfBREVEfCARONfCEDILLA",
  "fCEDILLA AND BREVEfCIRCUMFLEXfCIRCUMFLEX AND ACUTEhDOT BELOWhGRAVEhHOOK ABOVEhTILDEgBELOW",
  "fDIAERESISfDOT ABOVEgBELOWfDOUBLE GRAVEfFLOURISHfGRAVEfHOOK ABOVEfINVERTED BREVEfMACRON",
  "fMACRON AND ACUTEhGRAVEfNOTCHfOGONEKfRETROFLEX HOOKfSTROKEfTILDEfTILDE BELOWdEGYPTOLOGICAL AIN",
  "eALEFdENGdENG WITH CROSSED-TAILfPALATAL HOOKdESHdESH WITH CURLfDOUBLE BARgBAR AND CURL",
  "fPALATAL HOOKfRETROFLEX HOOKdETdETHdEZHdEZH REVERSEDeWITH CARONfCURLfPALATAL HOOK",
  "fRETROFLEX HOOKfTAILdFdF WITH DOT ABOVEfHOOKfMIDDLE TILDEfPALATAL HOOKfSTROKEdFENG DIGRAPH",
  "eDIGRAPH WITH TRILLdGdG WITH ACUTEfBREVEfCARONfCEDILLAfCIRCUMFLEXfDOT ABOVEfHOOKfMACRON",
  "fOBLIQUE STROKEfPALATAL HOOKfSTROKEdGAMMAdGHAdGLOTTAL AeIeSTOPeUdHdH WITH BREVE BELOWfCARON",
  "fCEDILLAfCIRCUMFLEXfDESCENDERfDIAERESISfDOT ABOVEgBELOWfHOOKfLINE BELOWfPALATAL HOOKfSTROKE",
  "dHALF HdHENGdHENG WITH HOOKdHVdIdI WITH ACUTEfBREVEfCARONfCIRCUMFLEXfDIAERESIS",
  "fDIAERESIS AND ACUTEfDOT BELOWfDOUBLE GRAVEfGRAVEfHOOK ABOVEfINVERTED BREVEfMACRONfOGONEK",
  "fRETROFLEX HOOKfSTROKEfSTROKE AND RETROFLEX HOOKfTILDEfTILDE BELOWdINSULAR DeFeGeReSeT",
  "dINVERTED ALPHAeOEdIOTAdIOTA WITH STROKEdIOTIFIED EdISdJdJ WITH CARONfCIRCUMFLEXfCROSSED-TAIL",
  "fSTROKEdKdK WITH ACUTEfCARONfCEDILLAfDESCENDERfDIAGONAL STROKEfDOT BELOWfHOOKfLINE BELOW",
  "fOBLIQUE STROKEfPALATAL HOOKfSTROKEfSTROKE AND DIAGONAL STROKEdKRAdLdL WITH ACUTEfBARfBELT",
  "fBELT AND PALATAL HOOKfCARONfCEDILLAfCIRCUMFLEX BELOWfCURLfDOT BELOWgBELOW AND MACRON",
  "fDOUBLE BARgMIDDLE TILDEfFISHHOOKfHIGH STROKEfINVERTED LAZY SfLINE BELOWfMIDDLE DOTgRINGgTILDE",
  "fPALATAL HOOKfRETROFLEX HOOKgHOOK AND BELTfSTROKEdLAMBDA WITH STROKEdLENIS FdLEZH",
  "dLEZH WITH RETROFLEX HOOKdLJdLONG SeS WITH DIAGONAL STROKEgDOT ABOVEgHIGH STROKEdLS DIGRAPHdLUM",
  "dLZ DIGRAPHdMdM WITH ACUTEfCROSSED-TAILfDOT ABOVEgBELOWfHOOKfMIDDLE TILDEfPALATAL HOOK",
  "dMIDDLE SCOTS SdMIDDLE-WELSH LLfVdMUMdNdN PRECEDED BY APOSTROPHEeWITH ACUTEfCARONfCEDILLA",
  "fCIRCUMFLEX BELOWfCROSSED-TAILfCURLfDESCENDERfDOT ABOVEgBELOWfGRAVEfLEFT HOOKfLINE BELOW",
  "fLONG RIGHT LEGfMIDDLE TILDEfOBLIQUE STROKEfPALATAL HOOKfRETROFLEX HOOKfTILDEdNJdNUMdO",
  "dO WITH ACUTEfBREVEfCARONfCIRCUMFLEXfCIRCUMFLEX AND ACUTEhDOT BELOWhGRAVEhHOOK ABOVEhTILDE",
  "fDIAERESISfDIAERESIS AND MACRONfDOT ABOVEgABOVE AND MACRONgBELOWfDOUBLE ACUTEgGRAVEfGRAVE",
  "fHOOK ABOVEfHORNfHORN AND ACUTEhDOT BELOWhGRAVEhHOOK ABOVEhTILDEfINVERTED BREVE",
  "fLONG STROKE OVERLAYfLOOPfLOW RING INSIDEfMACRONfMACRON AND ACUTEhGRAVEfOGONEK",
  "fOGONEK AND MACRONfRETROFLEX HOOKfSTROKEfSTROKE AND ACUTEfTILDEfTILDE AND ACUTEhDIAERESIS",
  "hMACRONdOIdOLD POLISH OdOMEGAdOOdOPEN EeE WITH RETROFLEX HOOKeOeO WITH RETROFLEX HOOKgSTROKEeOE",
  "dOUdPdP WITH ACUTEfDOT ABOVEfFLOURISHfHOOKfMIDDLE TILDEfPALATAL HOOKfSQUIRREL TAILfSTROKE",
  "fSTROKE THROUGH DESCENDERdPHIdQdQ WITH DIAGONAL STROKEfHOOKfHOOK TAILfSTROKE THROUGH DESCENDER",
  "dQP DIGRAPHdRdR ROTUNDAeWITH ACUTEfCARONfCEDILLAfCROSSED-TAILfDOT ABOVEgBELOWgBELOW AND MACRON",
  "fDOUBLE GRAVEfFISHHOOKfFISHHOOK AND MIDDLE TILDEhPALATAL HOOKfINVERTED BREVEfLINE BELOW",
  "fLONG LEGfMIDDLE TILDEfOBLIQUE STROKEfPALATAL HOOKfSTROKEfTAILeWITHOUT HANDLEdRAMS HORN",
  "dREVERSED CeC WITH DOTeEeENGeHALF HeKeOPEN EfE WITH HOOKhRETROFLEX HOOKeR WITH FISHHOOK",
  "eSCRIPT GdRUMdRUM ROTUNDAdSdS WITH ACUTEfACUTE AND DOT ABOVEfCARONfCARON AND DOT ABOVEfCEDILLA",
  "fCIRCUMFLEXfCOMMA BELOWfCURLfDOT ABOVEgBELOWgBELOW AND DOT ABOVEfHOOKfMIDDLE TILDE",
  "fOBLIQUE STROKEfPALATAL HOOKfSHORT STROKE OVERLAYfSWASH TAILdSAKHA YATdSALTILLOdSCHWA",
  "dSCHWA WITH HOOKfRETROFLEX HOOKdSCRIPT GeG WITH CROSSED-TAILeReR WITH RINGdSHARP S",
  "dSIDEWAYS DIAERESIZED UeOeO WITH STROKEeOPEN OeTURNED MeUdSIGMOID SdSQUAT REVERSED ESH",
  "dSTIRRUP RdTdT WITH CARONfCEDILLAfCIRCUMFLEX BELOWfCOMMA BELOWfCURLfDIAERESISfDIAGONAL STROKE",
  "fDOT ABOVEgBELOWfHOOKfHOOK AND RETROFLEX HOOKfLINE BELOWfMIDDLE TILDEfPALATAL HOOK",
  "fRETROFLEX HOOKfSTROKEdTAILLESS PHIdTC DIGRAPH WITH CURLdTESH DIGRAPHeDIGRAPH WITH PALATAL HOOK",
  "gRETROFLEX HOOKdTH WITH STRIKETHROUGHdTHORNdTHORN WITH STROKEfSTROKE THROUGH DESCENDER",
  "dTONE FIVEeSIXeTWOdTOP HALF OdTRESILLOdTS DIGRAPHeDIGRAPH WITH RETROFLEX HOOKdTUMdTURNED AeAE",
  "eALPHAeDELTAeEeGeHeH WITH FISHHOOKgFISHHOOK AND TAILeIeINSULAR GeKeLeMeM WITH LONG LEGeO OPEN-O",
  "gO WITH STROKEeOEeOE WITH HORIZONTAL STROKEgSTROKEeOPEN EeReR WITH HOOKgLONG LEG",
  "hLEG AND RETROFLEX HOOKgMIDDLE TILDEgPALATAL HOOKgTAILeTeT WITH CURLeUIeVeWeYeY WITH BELTdTZdU",
  "dU BAReBAR WITH SHORT RIGHT LEGeWITH ACUTEfBREVEfCARONfCIRCUMFLEXfCIRCUMFLEX BELOWfDIAERESIS",
  "fDIAERESIS AND ACUTEhCARONhGRAVEhMACRONgBELOWfDOT BELOWfDOUBLE ACUTEgGRAVEfGRAVEfHOOK ABOVE",
  "fHORNfHORN AND ACUTEhDOT BELOWhGRAVEhHOOK ABOVEhTILDEfINVERTED BREVEfLEFT HOOKfMACRON",
  "fMACRON AND DIAERESISfOGONEKfRETROFLEX HOOKfRING ABOVEfSHORT RIGHT LEGfSTROKEfTILDE",
  "fTILDE AND ACUTEgBELOWdUEdUIdUMdUOdUPSILONdUPSILON WITH STROKEdVdV WITH CURLfDIAGONAL STROKE",
  "fDOT BELOWfHOOKfPALATAL HOOKfRIGHT HOOKfTILDEdVENDdVISIGOTHIC ZdVOLAPUK AEeOEeUEdVYdW",
  "dW WITH ACUTEfCIRCUMFLEXfDIAERESISfDOT ABOVEgBELOWfGRAVEfHOOKfRING ABOVEdXdX WITH DIAERESIS",
  "fDOT ABOVEfLONG LEFT LEGhLEG AND LOW RIGHT RINGiWITH SERIFfLOW RIGHT RINGfPALATAL HOOKdY",
  "dY WITH ACUTEfCIRCUMFLEXfDIAERESISfDOT ABOVEgBELOWfGRAVEfHOOKfHOOK ABOVEfLOOPfMACRONfRING ABOVE",
  "fSHORT RIGHT LEGfSTROKEfTILDEdYOGHdZdZ WITH ACUTEfCARONfCIRCUMFLEXfCURLfDESCENDERfDOT ABOVE",
  "gBELOWfHOOKfLINE BELOWfMIDDLE TILDEfPALATAL HOOKfRETROFLEX HOOKfSTROKEfSWASH TAILcLIGATURE FF",
  "dFFIdFFLdFIdFLdIJdLONG S TdOEdSTbSUBSCRIPT SMALL LETTER AeEeHeIeJeKeLeMeNeOePeReSeSCHWAeTeUeVeX",
  "aLEAF FLUTTERING IN WINDaLEAFY GREENaLEDGER",
  "aLEFT AND LOWER AND RIGHT TRIANGULAR THREE QUARTERS BLOCKdONE EIGHTH BLOCK",
  "cRIGHT DOUBLE TURNSTILEdTACKdTRIANGULAR HALF BLOCK",
  "cUPPER AND RIGHT TRIANGULAR THREE QUARTERS BLOCKdONE EIGHTH BLOCKbANGER BUBBLEbANGLE BRACKET",
  "cBRACKET WITH DOTbARC LESS-THAN BRACKETbARROW WITH CIRCLED PLUSdSMALL CIRCLE",
  "bBARB DOWN RIGHT BARB DOWN HARPOONfUP HARPOONcUP RIGHT BARB DOWN HARPOONfUP HARPOON",
  "bBLACK LENTICULAR BRACKETcTORTOISE SHELL BRACKETbCEILINGbCLOSED ENTRYbCORNER BRACKET",
  "bCURLY BRACKETcBRACKET LOWER HOOKdMIDDLE PIECEdUPPER HOOKbDOTTED SUBSTITUTION BRACKET",
  "bDOUBLE ANGLE BRACKETcPARENTHESIScQUOTATION MARKcWIGGLY FENCEbFISH TAILbFIVE EIGHTHS BLOCK",
  "bFLOORbHALF BLACK CIRCLEdSTARcBLOCKcCIRCLEcCIRCLE WITH DOTeFOUR DOTSeTHREE DOTSeTWO DOTScFOLDER",
  "cINVERSE MEDIUM SHADE AND RIGHT HALF BLOCKcMEDIUM SHADEcRUNNING MANbHAND TELEPHONE RECEIVER",
  "bLOW PARAPHRASE BRACKETbLUGGAGEbMULTIMAPbNORMAL FACTOR SEMIDIRECT PRODUCTbONE EIGHTH BLOCK",
  "cQUARTER BLOCKbOUTER JOINbPARENTHESISbPARENTHESIS EXTENSIONcLOWER HOOKcUPPER HOOK",
  "bRAISED OMISSION BRACKETbRIGHT ARROWcARROW THROUGH SMALL CIRCLEdWITH DOUBLE VERTICAL STROKE",
  "eSTROKEeVERTICAL STROKEcBLACK ARROWcDOUBLE ARROWdARROW WITH STROKEfVERTICAL STROKE",
  "cOPEN-HEADED ARROWcSANS-SERIF ARROWcTRIANGLE-HEADED ARROWcWAVE ARROWcWHITE ARROW",
  "bS-SHAPED BAG DELIMITERbSEMIDIRECT PRODUCTbSEVEN EIGHTHS BLOCKbSIDEWAYS U BRACKET",
  "bSINGLE QUOTATION MARKbSPEECH BUBBLEbSQUARE BRACKETcBRACKET EXTENSIONdLOWER CORNERdUPPER CORNER",
  "dWITH DOUBLE STROKEeQUILLeSTROKEeTICK IN BOTTOM CORNERgTOP CORNEReUNDERBARbSUBSTITUTION BRACKET",
  "bTACKbTHIRD WHITE RIGHT POINTING INDEXbTHOUGHT BUBBLEbTHREE EIGHTHS BLOCKcQUARTERS BLOCK",
  "bTORTOISE SHELL BRACKETbTRANSPOSITION BRACKETbTRIANGLE BESIDE VERTICAL BAR",
  "bTRIANGULAR ONE QUARTER BLOCKbVERTICAL BAR WITH QUILLcBOX LINEbWHITE CORNER BRACKET",
  "cCURLY BRACKETcLENTICULAR BRACKETcPARENTHESIScSQUARE BRACKETcTORTOISE SHELL BRACKET",
  "bWIGGLY FENCEbWRITING HANDaLEFT-FACING ARMENIAN ETERNITY SIGNcFISTcSVASTI SIGNdSIGN WITH DOTS",
  "bHANDED INTERLACED PENTAGRAMbPOINTING ANGLE BRACKETcCURVED ANGLE BRACKET",
  "cDOUBLE ANGLE QUOTATION MARKcMAGNIFYING GLASSbSHADED WHITE RIGHTWARDS ARROW",
  "bSIDE ARC ANTICLOCKWISE ARROWbTO-RIGHT EMBEDDINGdISOLATEdMARKdOVERRIDEaLEFTWARDS ARROW",
  "bARROW ABOVE ALMOST EQUAL TOdREVERSE ALMOST EQUAL TOeTILDE OPERATORdSHORT RIGHTWARDS ARROW",
  "dTILDE OPERATORcAND UPPER AND LOWER ONE EIGHTH BLOCKcFROM BARdBAR TO BLACK DIAMOND",
  "cOVER RIGHTWARDS ARROWcTHROUGH LESS-THANdSUBSETdXcTO BARdBAR OVER RIGHTWARDS ARROW TO BAR",
  "dBLACK DIAMONDcWITH DOTTED STEMdDOUBLE VERTICAL STROKEdEQUILATERAL ARROWHEADdHOOK",
  "dLARGE TRIANGLE ARROWHEADdLOOPdMEDIUM TRIANGLE ARROWHEADdNOTCHED TAILdPLUS BELOW",
  "dSMALL EQUILATERAL ARROWHEADeTRIANGLE ARROWHEADdSTROKEdTAILdTAIL WITH DOUBLE VERTICAL STROKE",
  "fVERTICAL STROKEdTIP DOWNWARDSeUPWARDSdVERTICAL STROKEbARROW-TAIL",
  "bBACK-TILTED SHADOWED WHITE ARROWbBLACK ARROWcCIRCLED WHITE ARROWbBOTTOM-SHADED WHITE ARROW",
  "bCOMPRESSED ARROWbDASHED ARROWbDOUBLE ARROWcARROW FROM BARdWITH STROKEeVERTICAL STROKE",
  "cARROW-TAILcDASH ARROWbFINGER-POST ARROWbFRONT-TILTED SHADOWED WHITE ARROWbHAND",
  "bHARPOON OVER RIGHTWARDS HARPOONcWITH BARB DOWN ABOVE RIGHTWARDS HARPOON WITH BARB DOWN",
  "fBELOW LONG DASHfFROM BARfTO BAReDOWNWARDSeUP ABOVE LEFTWARDS HARPOON WITH BARB DOWNgLONG DASH",
  "gRIGHTWARDS HARPOON WITH BARB UPfFROM BARfTO BAReUPWARDSbHEAVY ARROWcCOMPRESSED ARROW",
  "bLEFT-SHADED WHITE ARROWbOPEN-HEADED ARROWbPAIRED ARROWSbQUADRUPLE ARROW",
  "bRIGHT-SHADED WHITE ARROWbROCKETbSANS-SERIF ARROWbSQUARED ARROWbSQUIGGLE ARROW",
  "bTOP SHADED WHITE ARROWbTRIANGLE ARROWHEADbTRIANGLE-HEADED ARROW",
  "dARROW OVER RIGHTWARDS TRIANGLE-HEADED ARROWeTO BAReWITH BOLD SHAFTfDOUBLE HORIZONTAL STROKE",
  "gVERTICAL STROKEfHEAVY SHAFTfLONG TIP DOWNWARDShUPWARDSfMEDIUM SHAFTfNARROW SHAFT",
  "fVERY HEAVY SHAFTdDASHED ARROWdPAIRED ARROWSbTRIPLE ARROWcDASH ARROWbTWO HEADED ARROW",
  "bTWO-HEADED ARROW FROM BAReWITH DOUBLE VERTICAL STROKEfTAILfTAIL WITH DOUBLE VERTICAL STROKE",
  "hVERTICAL STROKEfTRIANGLE ARROWHEADSfVERTICAL STROKEdTRIPLE DASH ARROWbWAVE ARROWbWHITE ARROW",
  "cARROW WITHIN TRIANGLE ARROWHEADaLEGaLEMONaLEOaLEOPARDaLEPCHA CONSONANT SIGN KdKANGdLdMdN",
  "dNYIN-DOdPdRdTbDIGIT EIGHTcFIVEcFOURcNINEcONEcSEVENcSIXcTHREEcTWOcZERObLETTER AcBAcBLAcCAcCHA",
  "cDAcDDAcDZAcFAcFLAcGAcGLAcHAcHLAcJAcKAcKHAcKLAcLAcMAcMLAcNAcNGAcNYAcPAcPHAcPLAcRAcSAcSHAcTAcTHA",
  "cTSAcTSHAcTTAcTTHAcVAcWAcYAbPUNCTUATION CER-WAcNYET THYOOM TA-ROLcTA-ROLcTSHOOKcTSHOOK CER-WA",
  "bSIGN NUKTAcRANbSUBJOINED LETTER RAdYAbVOWEL SIGN AAdEdIdOdOOdUdUU",
  "aLESS-THAN ABOVE DOUBLE-LINE EQUAL ABOVE GREATER-THANdGREATER-THAN ABOVE DOUBLE-LINE EQUAL",
  "dLEFTWARDS ARROWdSIMILAR ABOVE GREATER-THANeOR EQUAL",
  "dSLANTED EQUAL ABOVE GREATER-THAN ABOVE SLANTED EQUALcAND NOT APPROXIMATE",
  "dSINGLE-LINE NOT EQUAL TOcBUT NOT EQUAL TOeEQUIVALENT TOcCLOSED BY CURVE",
  "eCURVE ABOVE SLANTED EQUALcEQUAL TO OR GREATER-THANcOR APPROXIMATEdEQUAL TOdEQUIVALENT TO",
  "dGREATER-THANdSLANTED EQUAL TOfTO WITH DOT ABOVEiABOVE RIGHTiINSIDEcOVER EQUAL TOcSIGN",
  "cWITH CIRCLE INSIDEdDOTdQUESTION MARK ABOVEaLEVEL SLIDERaLFaLIBRAaLIGATURE OPEN ET ORNAMENT",
  "aLIGHT CHECK MARKbEIGHT SPOKED ASTERISKbFIVE POINTED BLACK STARcSPOKED ASTERISK",
  "bFOUR POINTED BLACK CUSPeSTARbGREEK CROSSbLEFT TORTOISE SHELL BRACKET ORNAMENTbRAIL",
  "bRIGHT TORTOISE SHELL BRACKET ORNAMENTbSALTIREbSHADEbSIX SPOKED ASTERISK",
  "bTHREE POINTED BLACK STARbTWELVE POINTED BLACK STARbVERTICAL BARbWHITE SQUAREaLIGHTNING",
  "aLIGHTNING MOODbMOOD BUBBLEaLIMBU DIGIT EIGHTcFIVEcFOURcNINEcONEcSEVENcSIXcTHREEcTWOcZERO",
  "bEXCLAMATION MARKbLETTER BAcBHAcCAcCHAcDAcDHAcGAcGHAcGYANcHAcJAcJHAcKAcKHAcLAcMAcNAcNGAcPAcPHA",
  "cRAcSAcSHAcSSAcTAcTHAcTRAcWAcYAcYANbQUESTION MARKbSIGN KEMPHRENGcLOOcMUKPHRENGcSA-I",
  "bSMALL LETTER ANUSVARAdKAdLAdMAdNAdNGAdPAdRAdTAbSUBJOINED LETTER RAdWAdYAbVOWEL SIGN AdAIdAUdE",
  "dEEdIdOdOOdUbVOWEL-CARRIER LETTERaLIMITED LIABILITY SIGNaLINE FEED",
  "bINTEGRATION NOT INCLUDING THE POLEcWITH RECTANGULAR PATH AROUND POLE",
  "dSEMICIRCULAR PATH AROUND POLEbSEPARATORbTABULATIONbTABULATION SETaLINEAR A SIGN A028BdA100-102",
  "dA120BdA131CdA301dA302dA303dA304dA305dA306dA307dA308dA309AdA309BdA309CdA310dA311dA312dA313A",
  "dA313BdA313CdA314dA315dA316dA317dA318dA319dA320dA321dA322dA323dA324dA325dA326dA327dA328dA329",
  "dA330dA331dA332dA333dA334dA335dA336dA337dA338dA339dA340dA341dA342dA343dA344dA345dA346dA347dA348",
  "dA349dA350dA351dA352dA353dA354dA355dA356dA357dA358dA359dA360dA361dA362dA363dA364dA365dA366dA367",
  "dA368dA369dA370dA371dA400-VASdA401-VASdA402-VASdA403-VASdA404-VASdA405-VASdA406-VASdA407-VAS",
  "dA408-VASdA409-VASdA410-VASdA411-VASdA412-VASdA413-VASdA414-VASdA415-VASdA416-VASdA417-VAS",
  "dA418-VASdA501dA502dA503dA504dA505dA506dA508dA509dA510dA511dA512dA513dA515dA516dA520dA521dA523",
  "dA524dA525dA526dA527dA528dA529dA530dA531dA532dA534dA535dA536dA537dA538dA539dA540dA541dA542dA545",
  "dA547dA548dA549dA550dA551dA552dA553dA554dA555dA556dA557dA559dA563dA564dA565dA566dA568dA569dA570",
  "dA571dA572dA573dA574dA575dA576dA577dA578dA579dA580dA581dA582dA583dA584dA585dA586dA587dA588dA589",
  "dA591dA592dA594dA595dA596dA598dA600dA601dA602dA603dA604dA606dA608dA609dA610dA611dA612dA613dA614",
  "dA615dA616dA617dA618dA619dA620dA621dA622dA623dA624dA626dA627dA628dA629dA634dA637dA638dA640dA642",
  "dA643dA644dA645dA646dA648dA649dA651dA652dA653dA654dA655dA656dA657dA658dA659dA660dA661dA662dA663",
  "dA664dA701 AdA702 BdA703 DdA704 EdA705 FdA706 HdA707 JdA708 KdA709 LdA709-2 L2e3 L3e4 L4e6 L6",
  "dA710 WdA711 XdA712 YdA713 OMEGAdA714 ABBdA715 BBdA717 DDdA726 EYYYdA732 JEdA800dA801dA802dA803",
  "dA804dA805dA806dA807dAB001dAB002dAB003dAB004dAB005dAB006dAB007dAB008dAB009dAB010dAB011dAB013",
  "dAB016dAB017dAB020dAB021dAB021FdAB021MdAB022dAB022FdAB022MdAB023dAB023MdAB024dAB026dAB027dAB028",
  "dAB029dAB030dAB031dAB034dAB037dAB038dAB039dAB040dAB041dAB044dAB045dAB046dAB047dAB048dAB049",
  "dAB050dAB051dAB053dAB054dAB055dAB056dAB057dAB058dAB059dAB060dAB061dAB065dAB066dAB067dAB069",
  "dAB070dAB073dAB074dAB076dAB077dAB078dAB079dAB080dAB081dAB082dAB085dAB086dAB087dAB118dAB120",
  "dAB122dAB123dAB131AdAB131BdAB164dAB171dAB180dAB188dAB191bB IDEOGRAM B100 MANdB102 WOMAN",
  "dB104 DEERdB105 EQUIDdB105F MAREdB105M STALLIONdB106F EWEdB106M RAMdB107F SHE-GOAT",
  "dB107M HE-GOATdB108F SOWdB108M BOARdB109F COWdB109M BULLdB120 WHEATdB121 BARLEYdB122 OLIVE",
  "dB123 SPICEdB125 CYPERUSdB130 OILdB131 WINEdB132dB140 BRONZEdB141 GOLDdB142dB145 WOOLdB146dB150",
  "dB151 HORNdB152dB153dB154dB157dB158dB159 CLOTHdB160dB161dB162 GARMENTdB163 ARMOURdB164dB165",
  "dB166dB167dB168dB169dB170dB171dB172dB173 MONTHdB174dB176 TREEdB177dB178dB179dB180dB181dB182",
  "dB183dB184dB185dB189dB190dB191 HELMETdB220 FOOTSTOOLdB225 BATHTUBdB230 SPEARdB231 ARROWdB232",
  "dB233 SWORDdB234dB236dB240 WHEELED CHARIOTdB241 CHARIOTdB242 CHARIOT FRAMEdB243 WHEELdB245dB246",
  "dB248dB249dB251dB252dB253dB254 DARTdB255dB256dB257dB258dB259dVESSEL B155eB200eB201eB202eB203",
  "eB204eB205eB206eB207eB208eB209eB210eB211eB212eB213eB214eB215eB216eB217eB218eB219eB221eB222eB226",
  "eB227eB228eB229eB250eB305cMONOGRAM B127 KAPOdB128 KANAKOdB133 AREPAdB135 MERIdB156 TURO2",
  "dB247 DIPTEcSYLLABLE B001 DAdB002 ROdB003 PAdB004 TEdB005 TOdB006 NAdB007 DIdB008 AdB009 SE",
  "dB010 UdB011 POdB012 SOdB013 MEdB014 DOdB015 MOdB016 QAdB017 ZAdB020 ZOdB021 QIdB023 MUdB024 NE",
  "dB025 A2dB026 RUdB027 REdB028 IdB029 PU2dB030 NIdB031 SAdB032 QOdB033 RA3dB036 JOdB037 TI",
  "dB038 EdB039 PIdB040 WIdB041 SIdB042 WOdB043 A3dB044 KEdB045 DEdB046 JEdB048 NWAdB050 PU",
  "dB051 DUdB052 NOdB053 RIdB054 WAdB055 NUdB057 JAdB058 SUdB059 TAdB060 RAdB061 OdB062 PTE",
  "dB065 JUdB066 TA2dB067 KIdB068 RO2dB069 TUdB070 KOdB071 DWEdB072 PEdB073 MIdB074 ZEdB075 WE",
  "dB076 RA2dB077 KAdB078 QEdB080 MAdB081 KUdB085 AUdB087 TWEdB090 DWOdB091 TWOcSYMBOL B018dB019",
  "dB022dB034dB047dB049dB056dB063dB064dB079dB082dB083dB086dB089aLINK SYMBOLaLINKED PAPERCLIPS",
  "aLION FACEaLIPSaLIPSTICKaLIRA SIGNaLISU LETTER AcAEcBAcCAcCHAcDAcDZAcEcEUcFAcGAcGHAcHAcHHAcIcJA",
  "cKAcKHAcLAcMAcNAcNGAcOcOEcPAcPHAcSAcSHAcTAcTHAcTONE MYA BOeCYAeJEUeNAeTIdNA POcTSAcTSHAcUcUEcUH",
  "cWAcXAcYAcYHAcZAcZHAbPUNCTUATION COMMAcFULL STOPaLIVRE TOURNOIS SIGNaLIZARDaLLAMAaLOBSTERaLOCK",
  "aLOCK WITH INK PENaLOCKING-SHIFT ONEcZEROaLOGICAL ANDbAND WITH DOT ABOVEdDOUBLE OVERBAR",
  "eUNDERBARdHORIZONTAL DASHdMIDDLE STEMdUNDERBARbORbOR OVERLAPPING LOGICAL ANDcWITH DOT ABOVE",
  "dDOUBLE OVERBAReUNDERBARdHORIZONTAL DASHdMIDDLE STEMaLOLLIPOP",
  "aLONG DASH FROM LEFT MEMBER OF DOUBLE VERTICALbDIVISIONbDRUMbLEFT RIGHT ARROWdDOUBLE ARROWcTACK",
  "bLEFTWARDS ARROWcARROW FROM BARcDOUBLE ARROWdARROW FROM BARcSQUIGGLE ARROWbRIGHT TACK",
  "bRIGHTWARDS ARROWcARROW FROM BARcDOUBLE ARROWdARROW FROM BARcSQUIGGLE ARROWaLOTION BOTTLEaLOTUS",
  "aLOUDLY CRYING FACEaLOVE HOTELbLETTERaLOW ASTERISKbBATTERYbBRIGHTNESS SYMBOL",
  "bDOUBLE PRIME QUOTATION MARKbKAVYKAbKAVYKA WITH DOTbLINEaLOWER BLADE SCISSORS",
  "bFIVE EIGHTHS BLOCKbHALF BLOCKcCIRCLEcINVERSE WHITE CIRCLEcMEDIUM SHADEbLEFT BALLPOINT PEN",
  "cBLOCK DIAGONAL LOWER MIDDLE LEFT TO LOWER CENTREjRIGHTeUPPER CENTRE TO LOWER MIDDLE RIGHT",
  "iRIGHThUPPER MIDDLE RIGHTfLEFT TO LOWER CENTREiMIDDLE RIGHThUPPER MIDDLE RIGHT",
  "fMIDDLE LEFT TO LOWER CENTREjMIDDLE RIGHTjRIGHTcCRAYONcFOUNTAIN PENcPAINTBRUSHcPENCIL",
  "cQUADRANT CIRCULAR ARCcSEMICIRCULAR ANTICLOCKWISE ARROWcTRIANGLEcTRIANGULAR MEDIUM SHADE",
  "bONE EIGHTH BLOCKcQUARTER BLOCKbRIGHT BLOCK DIAGONAL LOWER CENTRE TO LOWER MIDDLE RIGHT",
  "hUPPER MIDDLE RIGHTiRIGHTfLEFT TO LOWER MIDDLE RIGHThUPPER CENTREiMIDDLE RIGHT",
  "fMIDDLE LEFT TO UPPER CENTREjMIDDLE RIGHTjRIGHTeUPPER MIDDLE LEFT TO UPPER CENTREjRIGHT",
  "cCORNER WITH DOTcDROP-SHADOWED WHITE SQUAREcPENCILcQUADRANT CIRCULAR ARC",
  "cSEMICIRCULAR CLOCKWISE ARROWcSHADOWED WHITE CIRCLEeSQUAREcTRIANGLEcTRIANGULAR MEDIUM SHADE",
  "bSEVEN EIGHTHS BLOCKbTHREE EIGHTHS BLOCKcQUARTERS BLOCKbTRIANGULAR ONE QUARTER BLOCKaLOZENGE",
  "aLOZENGE DIVIDED BY HORIZONTAL RULEaLREaLRIaLRMaLROaLUGGAGEaLUNGSaLYCIAN LETTER AcANcBcBHcDcE",
  "cENcGcHcIcJcKcKKcLcMcMMcNcNNcPcQcRcScTcTHcTTcUcWcXcZaLYDIAN LETTER AcANcBcCcDcEcENcFcGcIcKcLcLY",
  "cMcNcNNcOcQcRcScSScTcTTcUcVcYbTRIANGULAR MARKaLYING FACE"]

end CircuitConsole.Text
