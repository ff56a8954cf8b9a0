/-!
Names of characters in the Unicode standard, version 14: those that begin with one of D to J.
How a listing is read is told where names are looked up.
-/

namespace CircuitConsole.Text

def namesInD : List String := [
  "aDAGGERaDAGGER KNIFEbWITH LEFT GUARDcRIGHT GUARDaDALET SYMBOLaDANCERaDANGOaDARK SHADE",
  "bSUNGLASSESaDASH SYMBOLbWITH LEFT UPTURNaDASHED LOW LINEbOVERLINE",
  "bTRIANGLE-HEADED RIGHTWARDS ARROWaDATA LINK ESCAPEaDC1aDC2aDC3aDC4aDCSaDEAF PERSON",
  "aDECIDUOUS TREEaDECIMAL EXPONENT SYMBOLbSEPARATOR KEY SYMBOLaDECREASE FONT SIZE SYMBOLaDEER",
  "aDEGREE CELSIUSbFAHRENHEITbSIGNaDELaDELETEaDELIVERY TRUCKaDELTA EQUAL TO",
  "aDENTISTRY SYMBOL LIGHT DOWN AND HORIZONTALfHORIZONTAL WITH CIRCLEhTRIANGLEhWAVE",
  "dUP AND HORIZONTALfHORIZONTAL WITH CIRCLEhTRIANGLEhWAVEdVERTICAL AND BOTTOM LEFTgRIGHTfTOP LEFT",
  "gRIGHTfWAVEeWITH CIRCLEfTRIANGLEaDEPARTMENT STOREaDERELICT HOUSE BUILDINGaDESCENDING NODE",
  "aDESERET CAPITAL LETTER AYdBEEdCHEEdDEEdEFdELdEMdENdENGdERdESdESHdETHdEWdGAYdHdJEEdKAYdLONG A",
  "eAHeEeIeOeOOdOIdOWdPEEdSHORT AeAHeEeIeOeOOdTEEdTHEEdVEEdWUdYEEdZEEdZHEEbSMALL LETTER AYdBEE",
  "dCHEEdDEEdEFdELdEMdENdENGdERdESdESHdETHdEWdGAYdHdJEEdKAYdLONG AeAHeEeIeOeOOdOIdOWdPEEdSHORT A",
  "eAHeEeIeOeOOdTEEdTHEEdVEEdWUdYEEdZEEdZHEEaDESERTaDESERT ISLANDaDESKTOP COMPUTERbWINDOW",
  "aDEVANAGARI ABBREVIATION SIGNbACUTE ACCENTbCARETbDANDAbDIGIT EIGHTcFIVEcFOURcNINEcONEcSEVENcSIX",
  "cTHREEcTWOcZERObDOUBLE DANDAbGAP FILLERbGRAVE ACCENTbHEADSTROKEbJAIN OMbLETTER AcAAcAIcAUcAWcAY",
  "cBAcBBAcBHAcCAcCANDRA AdEdOcCHAcDAcDDAcDDDAcDDDHAcDDHAcDHAcEcFAcGAcGGAcGHAcGHHAcGLOTTAL STOPcHA",
  "cHEAVY YAcIcIIcJAcJHAcJJAcKAcKHAcKHHAcLAcLLAcLLLAcMAcMARWARI DDAcNAcNGAcNNAcNNNAcNYAcOcOEcOOE",
  "cPAcPHAcQAcRAcRHAcRRAcSAcSHAcSHORT AdEdOcSSAcTAcTHAcTTAcTTHAcUcUEcUUcUUEcVAcVOCALIC LdLLdRdRR",
  "cYAcYYAcZAcZHAbOMbSIGN ANUSVARAcAVAGRAHAcCANDRABINDUcCANDRABINDU AVAGRAHAdTHREEdTWOdVIRAMA",
  "cDOUBLE CANDRABINDU VIRAMAcHIGH SPACING DOTcINVERTED CANDRABINDUcNUKTAcPUSHPIKAcSIDDHAM",
  "cSPACING CANDRABINDUcVIRAMAcVISARGAbSTRESS SIGN ANUDATTAdUDATTAbVOWEL SIGN AAdAIdAUdAWdAY",
  "dCANDRA EeLONG EeOdEdIdIIdOdOEdOOEdPRISHTHAMATRA EdSHORT EeOdUdUEdUUdUUEdVOCALIC LeLLeReRR",
  "aDEVICE CONTROL FOURcONEcSTRINGcTHREEcTWOaDIAERESISaDIAMETER SIGNaDIAMOND OPERATOR",
  "bSHAPE WITH A DOT INSIDEbTARGETbWITH BOTTOM HALF BLACKcLEFT HALF BLACKcRIGHT HALF BLACK",
  "cTOP HALF BLACKaDIE FACE-1c2c3c4c5c6aDIESEL LOCOMOTIVEaDIFFERENCE BETWEENaDIGIT EIGHT",
  "bEIGHT COMMAcFULL STOPbFIVEbFIVE COMMAcFULL STOPbFOURbFOUR COMMAcFULL STOPbNINEbNINE COMMA",
  "cFULL STOPbONEbONE COMMAcFULL STOPbSEVENbSEVEN COMMAcFULL STOPbSIXbSIX COMMAcFULL STOPbTHREE",
  "bTHREE COMMAcFULL STOPbTWObTWO COMMAcFULL STOPbZERObZERO COMMAcFULL STOPaDIGRAM FOR EARTH",
  "cEARTHLY HEAVENdHUMANcGREATER YANGdYINcHEAVENLY EARTHcHUMAN EARTHcLESSER YANGdYIN",
  "aDIMENSION ORIGINaDINGBAT CIRCLED SANS-SERIF DIGIT EIGHTfFIVEfFOURfNINEfONEfSEVENfSIXfTHREEfTWO",
  "fZEROeNUMBER TENbNEGATIVE CIRCLED DIGIT EIGHTeFIVEeFOUReNINEeONEeSEVENeSIXeTHREEeTWOdNUMBER TEN",
  "dSANS-SERIF DIGIT EIGHTgFIVEgFOURgNINEgONEgSEVENgSIXgTHREEgTWOgZEROfNUMBER TEN",
  "aDIRECT CURRENT SYMBOL FORM TWObHITaDISABLED CARaDISAPPOINTED BUT RELIEVED FACEbFACE",
  "aDISCONTINUOUS UNDERLINE SYMBOLaDISGUISED FACEaDITTO MARKaDIVES AKURU DIGIT EIGHTdFIVEdFOUR",
  "dNINEdONEdSEVENdSIXdTHREEdTWOdZEROcDOUBLE DANDAcEND OF TEXT MARKcGAP FILLERcINITIAL RAcLETTER A",
  "dAAdBAdBHAdCAdCHAdDAdDDAdDDHAdDHAdEdGAdGHAdHAdIdIIdJAdKAdKHAdLAdLLAdMAdNAdNGAdNNAdNYAdOdPAdPHA",
  "dRAdSAdSHAdSSAdTAdTHAdTTAdUdUUdVAdYAdYYAdZAcMEDIAL RAdYAcPREFIXED NASAL SIGNcSIGN ANUSVARA",
  "dCANDRABINDUdHALANTAdNUKTAcVIRAMAcVOWEL SIGN AAeAIeEeIeIIeOeUeUUaDIVIDESaDIVING MASK",
  "aDIVISION SIGNbSLASHbTIMESaDIVORCE SYMBOLaDIYA LAMPaDIZZY FACEbSYMBOLaDLEaDNA DOUBLE HELIX",
  "aDO NOT LITTER SYMBOLaDOCUMENTaDOCUMENT WITH PICTUREcTEXTcTEXT AND PICTUREaDODO",
  "aDOES NOT CONTAIN AS MEMBEReNORMAL SUBGROUPfSUBGROUP OR EQUALcDIVIDE",
  "cDIVIDE WITH REVERSED NEGATION SLASHcFORCEcPRECEDEcPRECEDE OR EQUALcPROVEcSUCCEED",
  "cSUCCEED OR EQUALaDOGaDOG FACEaDOGRA ABBREVIATION SIGNbLETTER AcAAcAIcAUcBAcBHAcCAcCHAcDAcDDA",
  "cDDHAcDHAcEcGAcGHAcHAcIcIIcJAcJHAcKAcKHAcLAcMAcNAcNGAcNNAcNYAcOcPAcPHAcRAcRRAcSAcSHAcSSAcTAcTHA",
  "cTTAcTTHAcUcUUcVAcYAbSIGN ANUSVARAcNUKTAcVIRAMAcVISARGAbVOWEL SIGN AAdAIdAUdEdIdIIdOdUdUU",
  "dVOCALIC ReRRaDOLLAR SIGNaDOLPHINaDOMINO TILE HORIZONTAL BACKcHORIZONTAL-00-00e01e02e03e04e05",
  "e06d01-00e01e02e03e04e05e06d02-00e01e02e03e04e05e06d03-00e01e02e03e04e05e06d04-00e01e02e03e04",
  "e05e06d05-00e01e02e03e04e05e06d06-00e01e02e03e04e05e06cVERTICAL BACKcVERTICAL-00-00e01e02e03e04",
  "e05e06d01-00e01e02e03e04e05e06d02-00e01e02e03e04e05e06d03-00e01e02e03e04e05e06d04-00e01e02e03",
  "e04e05e06d05-00e01e02e03e04e05e06d06-00e01e02e03e04e05e06aDONG SIGNaDOORaDOT ABOVEbMINUS",
  "bOPERATORbPLUSaDOTTED CIRCLEbCROSSbFENCEbLINE FACEbOBELOSbRIGHT-POINTING ANGLEbSOLIDUSbSQUARE",
  "bTRANSPOSITION MARKERaDOUBLE ACUTE ACCENTbCIRCLED DIGIT EIGHTdFIVEdFOURdNINEdONEdSEVENdSIX",
  "dTHREEdTWOcNUMBER TENbCOLON EQUALbCURLY LOOPbDAGGERbDOWN TACKbEXCLAMATION MARK",
  "bHIGH-REVERSED-9 QUOTATION MARKbHYPHENbINTEGRALbINTERSECTIONbLEFT ARC GREATER-THAN BRACKET",
  "bLOGICAL ANDcORbLOW LINEbLOW-9 QUOTATION MARKcREVERSED-9 QUOTATION MARKbNESTED GREATER-THAN",
  "cLESS-THANdTHAN WITH UNDERBARbOBLIQUE HYPHENbPLUSbPRECEDESbPRIMEbPRIME QUOTATION MARK",
  "bQUESTION MARKbRIGHT ARC LESS-THAN BRACKETbSOLIDUS OPERATORbSQUARE INTERSECTIONcUNION",
  "bSTACKED COMMAbSTROKE NOT SIGNbSUBSETbSUCCEEDSbSUPERSETbSUSPENSION MARKbUNIONbUP TACK",
  "bVERTICAL BARcBAR DOUBLE LEFT TURNSTILEeRIGHT TURNSTILEdLEFT TURNSTILEcLINEbWAVY OVERLINE",
  "aDOUBLE-ENDED MULTIMAPbLINE EQUAL TO OR GREATER-THANfLESS-THANcSLANTED EQUAL TO OR GREATER-THAN",
  "gLESS-THANdGREATER-THAN OR EQUAL TOdLESS-THAN OR EQUAL TObSTRUCK CAPITAL CdGAMMAdHdNdPdPIdQdRdZ",
  "cITALIC CAPITAL DdSMALL DeEeIeJcN-ARY SUMMATIONcSMALL GAMMAdPIaDOUBLED FEMALE SIGNbMALE SIGN",
  "bSYMBOLaDOUGHNUTaDOVE OF PEACEaDOWN ARROWHEADbFISH TAILbRIGHT DIAGONAL ELLIPSISbTACK",
  "bTACK WITH CIRCLE BELOWaDOWN-POINTING RED TRIANGLEcSMALL RED TRIANGLE",
  "cTRIANGLE WITH LEFT HALF BLACKeRIGHT HALF BLACKaDOWNWARD FACING HOOKcHOOK WITH DOTcNOTCHED HOOK",
  "dHOOK WITH DOTaDOWNWARDS ANCORAbARROWbARROW AND RIGHT ONE EIGHTH BLOCKcFROM BAR",
  "cLEFTWARDS OF UPWARDS ARROWcTO BARcWITH CORNER LEFTWARDSdDOUBLE STROKEdEQUILATERAL ARROWHEAD",
  "dHORIZONTAL STROKEdLARGE TRIANGLE ARROWHEADdMEDIUM TRIANGLE ARROWHEADdNOTCHED TAIL",
  "dSMALL EQUILATERAL ARROWHEADeTRIANGLE ARROWHEADdTIP LEFTWARDSeRIGHTWARDSbBLACK ARROW",
  "cCIRCLED WHITE ARROWbCOMPRESSED ARROWbDASHED ARROWbDOUBLE ARROWbFINGER-POST ARROW",
  "bHARPOON WITH BARB LEFT BESIDE DOWNWARDS HARPOON WITH BARB RIGHT",
  "gUPWARDS HARPOON WITH BARB RIGHTfFROM BARfTO BAReLEFTWARDSeRIGHT FROM BARfTO BAReRIGHTWARDS",
  "bHEAVY ARROWcCOMPRESSED ARROWbPAIRED ARROWSbQUADRUPLE ARROWbROCKETbSANS-SERIF ARROW",
  "bSQUARED ARROWbTRIANGLE ARROWHEADbTRIANGLE-HEADED ARROW",
  "dARROW LEFTWARDS OF UPWARDS TRIANGLE-HEADED ARROWeTO BAReWITH BOLD SHAFT",
  "fDOUBLE HORIZONTAL STROKEfHEAVY SHAFTfLONG TIP LEFTWARDShRIGHTWARDSfMEDIUM SHAFTfNARROW SHAFT",
  "fVERY HEAVY SHAFTdDASHED ARROWdPAIRED ARROWSdZIGZAG ARROWbTRIPLE ARROWbTWO HEADED ARROW",
  "bTWO-HEADED ARROW WITH TRIANGLE ARROWHEADSbWHITE ARROWcARROW WITHIN TRIANGLE ARROWHEAD",
  "bZIGZAG ARROWaDRACHMA SIGNaDRAFTING POINT RIGHTWARDS ARROWaDRAGONaDRAGON FACEaDRESS",
  "aDRIVE SLOW SIGNaDROMEDARY CAMELaDROOLING FACEaDROP OF BLOODaDROPLETaDRUM WITH DRUMSTICKSaDUCK",
  "aDUMPLINGaDUPLOYAN AFFIX ATTACHED E HOOKdI HOOKdLEFT-TO-RIGHT SECANTdSECANTdTAILdTANGENT",
  "dTANGENT HOOKcHIGH ACUTEdCIRCLEdDOTdGRAVEdLINEdLONG GRAVEdTIGHT ACUTEdVERTICALdVERTICAL SECANT",
  "dWAVEcLEFT HORIZONTAL SECANTcLOW ACUTEdARROWdCIRCLEdDOTdGRAVEdLINEdLONG GRAVEdTIGHT ACUTE",
  "dVERTICALdVERTICAL SECANTdWAVEcMID HORIZONTAL SECANTdVERTICAL SECANTcRIGHT HORIZONTAL SECANT",
  "bDOUBLE MARKbLETTER AcAOUcBcDcD ScDHcEcEEcEUcFcF NcGcG R ScHcHLcIcIEcJcJ MdM SdNdN SdS",
  "dS WITH DOTdWITH DOTeDOTS INSIDE AND ABOVEcKcK MdR ScKKcLcLHcLONG IdUcMcM NdN SdSdWITH DOTcN",
  "cN MdM SdSdWITH DOTcNASAL AdIdOdUcOcOAcOOHcOUcOWcPcP NcPERNIN AMdANcRcR ScRHcROMANIAN IdUcScS J",
  "dJ SdKdK RdMdNdPdP RdSdTdT RdWITH DOTeDOT BELOWcSHORT IcSLOAN ANdDHdEEdEHdENdJdONdOWdUcTcT R S",
  "dScTHcUcU NcUHcUIcVcVOCALIC McWcW RcWAcWEIcWHcWIcWOcWOWcXcXWcYEbPUNCTUATION CHINOOK FULL STOP",
  "bSIGN O WITH CROSSbTHICK LETTER SELECTORaDVD"]

def namesInE : List String := [
  "aE-MAIL SYMBOLaEAGLEaEARaEAR OF MAIZEcRICEbWITH HEARING AIDaEARTHaEARTH GLOBE AMERICAS",
  "cASIA-AUSTRALIAcEUROPE-AFRICAbGROUNDaEAST SYRIAC CROSSaEDITORIAL CORONISaEGG",
  "aEGYPTIAN HIEROGLYPH A001cA002cA003cA004cA005cA005AcA006cA006AcA006BcA007cA008cA009cA010cA011",
  "cA012cA013cA014cA014AcA015cA016cA017cA017AcA018cA019cA020cA021cA022cA023cA024cA025cA026cA027",
  "cA028cA029cA030cA031cA032cA032AcA033cA034cA035cA036cA037cA038cA039cA040cA040AcA041cA042cA042A",
  "cA043cA043AcA044cA045cA045AcA046cA047cA048cA049cA050cA051cA052cA053cA054cA055cA056cA057cA058",
  "cA059cA060cA061cA062cA063cA064cA065cA066cA067cA068cA069cA070cAA001cAA002cAA003cAA004cAA005",
  "cAA006cAA007cAA007AcAA007BcAA008cAA009cAA010cAA011cAA012cAA013cAA014cAA015cAA016cAA017cAA018",
  "cAA019cAA020cAA021cAA022cAA023cAA024cAA025cAA026cAA027cAA028cAA029cAA030cAA031cAA032cB001cB002",
  "cB003cB004cB005cB005AcB006cB007cB008cB009cBEGIN SEGMENTcC001cC002cC002AcC002BcC002CcC003cC004",
  "cC005cC006cC007cC008cC009cC010cC010AcC011cC012cC013cC014cC015cC016cC017cC018cC019cC020cC021",
  "cC022cC023cC024cD001cD002cD003cD004cD005cD006cD007cD008cD008AcD009cD010cD011cD012cD013cD014",
  "cD015cD016cD017cD018cD019cD020cD021cD022cD023cD024cD025cD026cD027cD027AcD028cD029cD030cD031",
  "cD031AcD032cD033cD034cD034AcD035cD036cD037cD038cD039cD040cD041cD042cD043cD044cD045cD046cD046A",
  "cD047cD048cD048AcD049cD050cD050AcD050BcD050CcD050DcD050EcD050FcD050GcD050HcD050IcD051cD052",
  "cD052AcD053cD054cD054AcD055cD056cD057cD058cD059cD060cD061cD062cD063cD064cD065cD066cD067cD067A",
  "cD067BcD067CcD067DcD067EcD067FcD067GcD067HcE001cE002cE003cE004cE005cE006cE007cE008cE008AcE009",
  "cE009AcE010cE011cE012cE013cE014cE015cE016cE016AcE017cE017AcE018cE019cE020cE020AcE021cE022cE023",
  "cE024cE025cE026cE027cE028cE028AcE029cE030cE031cE032cE033cE034cE034AcE036cE037cE038cEND SEGMENT",
  "cF001cF001AcF002cF003cF004cF005cF006cF007cF008cF009cF010cF011cF012cF013cF013AcF014cF015cF016",
  "cF017cF018cF019cF020cF021cF021AcF022cF023cF024cF025cF026cF027cF028cF029cF030cF031cF031AcF032",
  "cF033cF034cF035cF036cF037cF037AcF038cF038AcF039cF040cF041cF042cF043cF044cF045cF045AcF046cF046A",
  "cF047cF047AcF048cF049cF050cF051cF051AcF051BcF051CcF052cF053cG001cG002cG003cG004cG005cG006cG006A",
  "cG007cG007AcG007BcG008cG009cG010cG011cG011AcG012cG013cG014cG015cG016cG017cG018cG019cG020cG020A",
  "cG021cG022cG023cG024cG025cG026cG026AcG027cG028cG029cG030cG031cG032cG033cG034cG035cG036cG036A",
  "cG037cG037AcG038cG039cG040cG041cG042cG043cG043AcG044cG045cG045AcG046cG047cG048cG049cG050cG051",
  "cG052cG053cG054cH001cH002cH003cH004cH005cH006cH006AcH007cH008cHORIZONTAL JOINERcI001cI002cI003",
  "cI004cI005cI005AcI006cI007cI008cI009cI009AcI010cI010AcI011cI011AcI012cI013cI014cI015",
  "cINSERT AT BOTTOM ENDfSTARTeTOP ENDfSTARTcK001cK002cK003cK004cK005cK006cK007cK008cL001cL002",
  "cL002AcL003cL004cL005cL006cL006AcL007cL008cM001cM001AcM001BcM002cM003cM003AcM004cM005cM006cM007",
  "cM008cM009cM010cM010AcM011cM012cM012AcM012BcM012CcM012DcM012EcM012FcM012GcM012HcM013cM014cM015",
  "cM015AcM016cM016AcM017cM017AcM018cM019cM020cM021cM022cM022AcM023cM024cM024AcM025cM026cM027cM028",
  "cM028AcM029cM030cM031cM031AcM032cM033cM033AcM033BcM034cM035cM036cM037cM038cM039cM040cM040AcM041",
  "cM042cM043cM044cN001cN002cN003cN004cN005cN006cN007cN008cN009cN010cN011cN012cN013cN014cN015cN016",
  "cN017cN018cN018AcN018BcN019cN020cN021cN022cN023cN024cN025cN025AcN026cN027cN028cN029cN030cN031",
  "cN032cN033cN033AcN034cN034AcN035cN035AcN036cN037cN037AcN038cN039cN040cN041cN042cNL001cNL002",
  "cNL003cNL004cNL005cNL005AcNL006cNL007cNL008cNL009cNL010cNL011cNL012cNL013cNL014cNL015cNL016",
  "cNL017cNL017AcNL018cNL019cNL020cNU001cNU002cNU003cNU004cNU005cNU006cNU007cNU008cNU009cNU010",
  "cNU010AcNU011cNU011AcNU012cNU013cNU014cNU015cNU016cNU017cNU018cNU018AcNU019cNU020cNU021cNU022",
  "cNU022AcO001cO001AcO002cO003cO004cO005cO005AcO006cO006AcO006BcO006CcO006DcO006EcO006FcO007cO008",
  "cO009cO010cO010AcO010BcO010CcO011cO012cO013cO014cO015cO016cO017cO018cO019cO019AcO020cO020AcO021",
  "cO022cO023cO024cO024AcO025cO025AcO026cO027cO028cO029cO029AcO030cO030AcO031cO032cO033cO033AcO034",
  "cO035cO036cO036AcO036BcO036CcO036DcO037cO038cO039cO040cO041cO042cO043cO044cO045cO046cO047cO048",
  "cO049cO050cO050AcO050BcO051cOVERLAY MIDDLEcP001cP001AcP002cP003cP003AcP004cP005cP006cP007cP008",
  "cP009cP010cP011cQ001cQ002cQ003cQ004cQ005cQ006cQ007cR001cR002cR002AcR003cR003AcR003BcR004cR005",
  "cR006cR007cR008cR009cR010cR010AcR011cR012cR013cR014cR015cR016cR016AcR017cR018cR019cR020cR021",
  "cR022cR023cR024cR025cR026cR027cR028cR029cS001cS002cS002AcS003cS004cS005cS006cS006AcS007cS008",
  "cS009cS010cS011cS012cS013cS014cS014AcS014BcS015cS016cS017cS017AcS018cS019cS020cS021cS022cS023",
  "cS024cS025cS026cS026AcS026BcS027cS028cS029cS030cS031cS032cS033cS034cS035cS035AcS036cS037cS038",
  "cS039cS040cS041cS042cS043cS044cS045cS046cT001cT002cT003cT003AcT004cT005cT006cT007cT007AcT008",
  "cT008AcT009cT009AcT010cT011cT011AcT012cT013cT014cT015cT016cT016AcT017cT018cT019cT020cT021cT022",
  "cT023cT024cT025cT026cT027cT028cT029cT030cT031cT032cT032AcT033cT033AcT034cT035cT036cU001cU002",
  "cU003cU004cU005cU006cU006AcU006BcU007cU008cU009cU010cU011cU012cU013cU014cU015cU016cU017cU018",
  "cU019cU020cU021cU022cU023cU023AcU024cU025cU026cU027cU028cU029cU029AcU030cU031cU032cU032AcU033",
  "cU034cU035cU036cU037cU038cU039cU040cU041cU042cV001cV001AcV001BcV001CcV001DcV001EcV001FcV001G",
  "cV001HcV001IcV002cV002AcV003cV004cV005cV006cV007cV007AcV007BcV008cV009cV010cV011cV011AcV011B",
  "cV011CcV012cV012AcV012BcV013cV014cV015cV016cV017cV018cV019cV020cV020AcV020BcV020CcV020DcV020E",
  "cV020FcV020GcV020HcV020IcV020JcV020KcV020LcV021cV022cV023cV023AcV024cV025cV026cV027cV028cV028A",
  "cV029cV029AcV030cV030AcV031cV031AcV032cV033cV033AcV034cV035cV036cV037cV037AcV038cV039cV040",
  "cV040AcVERTICAL JOINERcW001cW002cW003cW003AcW004cW005cW006cW007cW008cW009cW009AcW010cW010AcW011",
  "cW012cW013cW014cW014AcW015cW016cW017cW017AcW018cW018AcW019cW020cW021cW022cW023cW024cW024AcW025",
  "cX001cX002cX003cX004cX004AcX004BcX005cX006cX006AcX007cX008cX008AcY001cY001AcY002cY003cY004cY005",
  "cY006cY007cY008cZ001cZ002cZ002AcZ002BcZ002CcZ002DcZ003cZ003AcZ003BcZ004cZ004AcZ005cZ005AcZ006",
  "cZ007cZ008cZ009cZ010cZ011cZ012cZ013cZ014cZ015cZ015AcZ015BcZ015CcZ015DcZ015EcZ015FcZ015GcZ015H",
  "cZ015IcZ016cZ016AcZ016BcZ016CcZ016DcZ016EcZ016FcZ016GcZ016H",
  "aEIGHT PETALLED OUTLINED BLACK FLORETTEbPOINTED BLACK STARcPINWHEEL STARcRECTILINEAR BLACK STAR",
  "bSPOKED ASTERISKbTEARDROP-SPOKED PROPELLER ASTERISKaEIGHTH NOTEaEJECT SYMBOLaELBASAN LETTER A",
  "cBEcCEcCHEcDEcDHEcEcEIcFEcGEcGHAMMAcGHEcGJEcHEcIcJEcKEcKHEcLEcLLEcMEcNAcNDEcNEcNJEcOcPEcQEcRE",
  "cRREcSEcSHEcTEcTHEcUcVEcXEcYcZEcZHEaELECTRIC ARROWbLIGHT BULBbPLUGbTORCH",
  "aELECTRICAL INTERSECTIONaELEMENT OFbOF OPENING DOWNWARDSdUPWARDScWITH DOT ABOVE",
  "dLONG HORIZONTAL STROKEdOVERBARdTWO HORIZONTAL STROKESdUNDERBAR",
  "dVERTICAL BAR AT END OF HORIZONTAL STROKEaELEPHANTaELEVATORaELFaELYMAIC LETTER ALEPHcAYINcBETH",
  "cDALETHcGIMELcHEcHETHcKAPHcLAMEDHcMEMcNUNcPEcQOPHcRESHcSADHEcSAMEKHcSHINcTAWcTETHcWAWcYODH",
  "cZAYINbLIGATURE ZAYIN-YODHaEM DASHbQUADbSPACEaEMOJI COMPONENT BALDcCURLY HAIRcRED HAIR",
  "cWHITE HAIRbMODIFIER FITZPATRICK TYPE-1-2e3e4e5e6aEMPHASIS SYMBOLaEMPTY DOCUMENTbNESTbNOTE",
  "bNOTE PADcPAGEbPAGEbPAGESbSETbSET WITH LEFT ARROW ABOVEdOVERBARdRIGHT ARROW ABOVE",
  "dSMALL CIRCLE ABOVEaEN DASHbQUADbSPACEaEND OF GUARDED AREAcLINEcMEDIUMcPROOFcPROTECTED AREA",
  "cSELECTED AREAcTEXTcTRANSMISSIONcTRANSMISSION BLOCKbWITH LEFTWARDS ARROW ABOVEaENQaENQUIRY",
  "aENTER SYMBOLaENVELOPEaENVELOPE WITH DOWNWARDS ARROW ABOVEcLIGHTNINGaEOLaEOMaEOTaEPA",
  "aEQUAL AND PARALLEL TObTO BY DEFINITIONcOR GREATER-THANdLESS-THANdPRECEDESdSUCCEEDS",
  "aEQUALS COLONbSIGNbSIGN ABOVE LEFTWARDS ARROWdPLUS SIGNdRIGHTWARDS ARROWdTILDE OPERATOR",
  "cAND SLANTED PARALLELePARALLEL WITH TILDE ABOVEcWITH BUMPY ABOVEdDOT BELOWdINFINITY BELOW",
  "dTWO DOTS ABOVE AND TWO DOTS BELOWbWITH ASTERISKaEQUIANGULAR TOaEQUIVALENT TO",
  "bWITH FOUR DOTS ABOVEaERASE TO THE LEFTdRIGHTaERIS FORM ONEcTWOaERROR-BARRED BLACK CIRCLE",
  "dDIAMONDdSQUAREcWHITE CIRCLEdDIAMONDdSQUAREaESAaESCaESCAPEaESTIMATED SYMBOLaESTIMATESaETB",
  "aETHIOPIC COLONbCOMBINING GEMINATION AND VOWEL LENGTH MARKdMARKcVOWEL LENGTH MARKbCOMMA",
  "bDIGIT EIGHTcFIVEcFOURcNINEcONEcSEVENcSIXcTHREEcTWObFULL STOPbNUMBER EIGHTYcFIFTYcFORTYcHUNDRED",
  "cNINETYcSEVENTYcSIXTYcTENcTEN THOUSANDcTHIRTYcTWENTYbPARAGRAPH SEPARATORbPREFACE COLON",
  "bQUESTION MARKbSECTION MARKbSEMICOLONbSYLLABLE BAcBAAcBBAcBBAAcBBEcBBEEcBBIcBBOcBBUcBEcBEEcBI",
  "cBOcBOAcBUcBWAcBWEcBWEEcBWIcCAcCAAcCCAcCCAAcCCEcCCEEcCCHAcCCHAAcCCHEcCCHEEcCCHHAcCCHHAAcCCHHE",
  "cCCHHEEcCCHHIcCCHHOcCCHHUcCCHIcCCHOcCCHUcCCIcCCOcCCUcCEcCEEcCHAcCHAAcCHEcCHEEcCHIcCHOcCHOAcCHU",
  "cCHWAcCIcCOcCOAcCUcCWAcDAcDAAcDDAcDDAAcDDEcDDEEcDDHAAcDDHEcDDHEEcDDHIcDDHOcDDHUcDDIcDDOcDDOA",
  "cDDUcDDWAcDEcDEEcDIcDOcDOAcDUcDWAcDZAAcDZEcDZEEcDZIcDZOcDZUcFAcFAAcFEcFEEcFIcFOcFUcFWAcFWEcFWEE",
  "cFWIcFYAcGAcGAAcGEcGEEcGGAcGGAAcGGEcGGEEcGGIcGGOcGGUcGGWAcGGWAAcGGWEcGGWEEcGGWIcGIcGLOTTAL AdAA",
  "dEdEEdIdOdOAdUdWAcGOcGOAcGUcGURAGE BWEEdBWIdFWEEdFWIdGWEdGWEEdGWIdHHWAdKWEdKWEEdKWIdMWEEdMWI",
  "dPWEEdPWIdQWEdQWEEdQWIcGWAcGWAAcGWEcGWEEcGWIcGYAcGYAAcGYEcGYEEcGYIcGYOcGYUcHAcHAAcHEcHEEcHHA",
  "cHHAAcHHEcHHEEcHHIcHHOcHHUcHHWAcHHWEcHHWEEcHHWIcHHYAcHHYAAcHHYEcHHYEEcHHYIcHHYOcHHYUcHIcHOcHOA",
  "cHUcJAcJAAcJEcJEEcJIcJOcJOAcJUcJWAcKAcKAAcKEcKEEcKIcKOcKOAcKUcKWAcKWAAcKWEcKWEEcKWIcKXAcKXAA",
  "cKXEcKXEEcKXIcKXOcKXUcKXWAcKXWAAcKXWEcKXWEEcKXWIcKYAcKYAAcKYEcKYEEcKYIcKYOcKYUcLAcLAAcLEcLEEcLI",
  "cLOcLOAcLUcLWAcMAcMAAcMEcMEEcMIcMOcMOAcMUcMWAcMWEcMWEEcMWIcMYAcNAcNAAcNEcNEEcNIcNOcNOAcNUcNWA",
  "cNYAcNYAAcNYEcNYEEcNYIcNYOcNYOAcNYUcNYWAcPAcPAAcPEcPEEcPHAcPHAAcPHARYNGEAL AdAAdEdEEdIdOdUcPHE",
  "cPHEEcPHIcPHOcPHOAcPHUcPHWAcPIcPOcPOAcPUcPWAcPWEcPWEEcPWIcQAcQAAcQEcQEEcQHAcQHAAcQHEcQHEEcQHI",
  "cQHOcQHUcQHWAcQHWAAcQHWEcQHWEEcQHWIcQIcQOcQOAcQUcQWAcQWAAcQWEcQWEEcQWIcQYAcQYAAcQYEcQYEEcQYI",
  "cQYOcQYUcRAcRAAcREcREEcRIcROcROAcRUcRWAcRYAcSAcSAAcSEcSEBATBEIT BWAdFWAdMWAdPWAcSEEcSHAcSHAA",
  "cSHEcSHEEcSHIcSHOcSHOAcSHUcSHWAcSIcSOcSOAcSSAcSSAAcSSEcSSEEcSSIcSSOcSSUcSUcSWAcSZAcSZAAcSZE",
  "cSZEEcSZIcSZOcSZUcSZWAcTAcTAAcTEcTEEcTHAcTHAAcTHEcTHEEcTHIcTHOcTHOAcTHUcTHWAcTIcTOcTOAcTSAcTSAA",
  "cTSEcTSEEcTSIcTSOcTSUcTSWAcTTHAAcTTHEcTTHEEcTTHIcTTHOcTTHUcTUcTWAcTZAcTZAAcTZEcTZEEcTZIcTZO",
  "cTZOAcTZUcVAcVAAcVEcVEEcVIcVOcVUcVWAcWAcWAAcWEcWEEcWIcWOcWOAcWUcXAcXAAcXEcXEEcXIcXOcXOAcXUcXWA",
  "cXWAAcXWEcXWEEcXWIcXYAcXYAAcXYEcXYEEcXYIcXYOcXYUcYAcYAAcYEcYEEcYIcYOcYOAcYUcZAcZAAcZEcZEEcZHA",
  "cZHAAcZHEcZHEEcZHIcZHOcZHUcZHWAcZIcZOcZOAcZUcZWAcZZAcZZAAcZZEcZZEEcZZIcZZOcZZU",
  "bTONAL MARK CHIRETdDERETdDERET-HIDETdDIFATdHIDETdKENATdKURTdRIKRIKdSHORT RIKRIKdYIZETbWORDSPACE",
  "aETXaEULER CONSTANTaEURO SIGNaEURO-CURRENCY SIGNaEUROPEAN CASTLEbPOST OFFICEaEVERGREEN TREE",
  "aEXCESSaEXCLAMATION MARKbQUESTION MARKaEXPRESSIONLESS FACEaEXTENDED ARABIC-INDIC DIGIT EIGHT",
  "eFIVEeFOUReNINEeONEeSEVENeSIXeTHREEeTWOeZEROaEXTRATERRESTRIAL ALIEN",
  "aEXTREMELY HEAVY FIVE SPOKED ASTERISKcGREEK CROSScSALTIREcSIX SPOKED ASTERISKcWHITE CIRCLE",
  "dSQUAREaEYEaEYEGLASSESaEYES"]

def namesInF : List String := [
  "aFACE HOLDING BACK TEARSbMASSAGEbPALMbSAVOURING DELICIOUS FOODbSCREAMING IN FEAR",
  "bTHROWING A KISSbWITH COLD SWEATcCOWBOY HATcDIAGONAL MOUTHcFINGER COVERING CLOSED LIPS",
  "cHEAD-BANDAGEcLOOK OF TRIUMPHcMEDICAL MASKcMONOCLEcNO GOOD GESTUREcOK GESTURE",
  "cONE EYEBROW RAISEDcOPEN EYES AND HAND OVER MOUTHdMOUTHdMOUTH AND COLD SWEATeVOMITING",
  "cPARTY HORN AND PARTY HATcPEEKING EYEcPLEADING EYEScROLLING EYEScSTUCK-OUT TONGUE",
  "eTONGUE AND TIGHTLY-CLOSED EYESgWINKING EYEcTEARS OF JOYcTHERMOMETERcUNEVEN EYES AND WAVY MOUTH",
  "bWITHOUT MOUTHaFACSIMILE SIGNaFACTORYaFAIRYaFALAFELaFALLEN LEAF",
  "aFALLING DIAGONAL CROSSING NORTH EAST ARROWdRISING DIAGONALcIN WHITE CIRCLE IN BLACK SQUARE",
  "aFAMILYaFARSI SYMBOLaFATHER CHRISTMASaFAX ICONbMACHINEaFEARFUL FACEaFEATHERaFEMALE SIGN",
  "aFEMININE ORDINAL INDICATORaFENCERaFERRIS WHEELaFERRYaFFaFIELD HOCKEY STICK AND BALL",
  "aFIGURE DASHbSPACEaFILE CABINETbFOLDERbSEPARATORaFILM FRAMESbPROJECTORaFINITE PART INTEGRAL",
  "aFIREaFIRE ENGINEbEXTINGUISHERaFIRECRACKERaFIREWORK SPARKLERaFIREWORKSaFIRST PLACE MEDAL",
  "bQUARTER MOONcMOON SYMBOLdWITH FACEbSTRONG ISOLATEaFISHaFISH CAKE WITH SWIRL DESIGNaFISHEYE",
  "aFISHING POLE AND FISHaFISTED HAND SIGNaFIVE DOT MARKcPUNCTUATIONaFLAG IN HOLEaFLAMINGO",
  "aFLAT SHOEaFLATBREADaFLATNESSaFLEUR-DE-LISaFLEXED BICEPSaFLOPPY DISKaFLORAL HEARTaFLOWER",
  "aFLOWER PLAYING CARDSbPUNCTUATION MARKaFLUSHED FACEaFLYaFLYING DISCbENVELOPEbSAUCERaFOGaFOGGY",
  "aFOLDERaFONDUEaFOOTaFOOTPRINTSaFOR ALLaFORCESaFORK AND KNIFEcKNIFE WITH PLATE",
  "aFORKED PARAGRAPHOSaFORKINGaFORM FEEDaFORTUNE COOKIEaFOUNTAINaFOUR BALLOON-SPOKED ASTERISK",
  "bCLUB-SPOKED ASTERISKbCORNER ARROWS CIRCLING ANTICLOCKWISEbDOT MARKcPUNCTUATIONbLEAF CLOVER",
  "bPOINTED BLACK STARbTEARDROP-SPOKED ASTERISKaFOUR-PER-EM SPACEaFOURTH ROOTaFOX FACE",
  "aFRACTION NUMERATOR ONEbSLASHaFRAME WITH AN XcPICTUREcTILESaFREEZING FACEaFRENCH FRANC SIGN",
  "bFRIESaFRIED SHRIMPaFROG FACEaFRONT-FACING BABY CHICKbTILTED SHADOWED WHITE RIGHTWARDS ARROW",
  "aFROWNaFROWNING FACE WITH OPEN MOUTHaFSaFSIaFUEL PUMPaFULL BLOCKbMOON SYMBOLcWITH FACE",
  "bOUTER JOINbSTOPaFULLWIDTH AMPERSANDbAPOSTROPHEbASTERISKbBROKEN BARbCENT SIGNbCIRCUMFLEX ACCENT",
  "bCOLONbCOMMAbCOMMERCIAL ATbDIGIT EIGHTcFIVEcFOURcNINEcONEcSEVENcSIXcTHREEcTWOcZERObDOLLAR SIGN",
  "bEQUALS SIGNbEXCLAMATION MARKbFULL STOPbGRAVE ACCENTbGREATER-THAN SIGNbHYPHEN-MINUS",
  "bLATIN CAPITAL LETTER AeBeCeDeEeFeGeHeIeJeKeLeMeNeOePeQeReSeTeUeVeWeXeYeZcSMALL LETTER AeBeCeD",
  "eEeFeGeHeIeJeKeLeMeNeOePeQeReSeTeUeVeWeXeYeZbLEFT CURLY BRACKETcPARENTHESIScSQUARE BRACKET",
  "cWHITE PARENTHESISbLESS-THAN SIGNbLOW LINEbMACRONbNOT SIGNbNUMBER SIGNbPERCENT SIGNbPLUS SIGN",
  "bPOUND SIGNbQUESTION MARKbQUOTATION MARKbREVERSE SOLIDUSbRIGHT CURLY BRACKETcPARENTHESIS",
  "cSQUARE BRACKETcWHITE PARENTHESISbSEMICOLONbSOLIDUSbTILDEbVERTICAL LINEbWON SIGNbYEN SIGN",
  "aFUNCTION APPLICATIONaFUNERAL URNaFUSEaFVS1aFVS2aFVS3aFVS4"]

def namesInG : List String := [
  "aGAME DIEaGARLICaGEARaGEAR WITH HANDLESbWITHOUT HUBaGEM STONEaGEMINIaGENIEaGEOMETRIC PROPORTION",
  "aGEOMETRICALLY EQUAL TObEQUIVALENT TOaGEORGIAN CAPITAL LETTER AENdANdBANdCANdCHARdCHINdCILdDON",
  "dENdGANdGHANdHAEdHARdHEdHIEdHOEdINdJHANdJILdKANdKHARdLASdMANdNARdONdPARdPHARdQARdRAEdSANdSHIN",
  "dTANdTARdUNdVINdWEdXANdYNdZENdZHARbLETTER AENcAINcANcBANcCANcCHARcCHINcCILcDONcELIFIcENcFIcGAN",
  "cGHANcHAEcHARcHARD SIGNcHEcHIEcHOEcINcJHANcJILcKANcKHARcLABIAL SIGNcLAScMANcNARcONcPARcPHARcQAR",
  "cRAEcSANcSHINcTANcTARcTURNED GANcUNcVINcWEcXANcYNcZENcZHARbMTAVRULI CAPITAL LETTER AENeAINeAN",
  "eBANeCANeCHAReCHINeCILeDONeELIFIeENeFIeGANeGHANeHAEeHAReHARD SIGNeHEeHIEeHOEeINeJHANeJILeKAN",
  "eKHAReLABIAL SIGNeLASeMANeNAReONePARePHAReQAReRAEeSANeSHINeTANeTAReTURNED GANeUNeVINeWEeXANeYN",
  "eZENeZHARbPARAGRAPH SEPARATORbSMALL LETTER AENdANdBANdCANdCHARdCHINdCILdDONdENdGANdGHANdHAEdHAR",
  "dHEdHIEdHOEdINdJHANdJILdKANdKHARdLASdMANdNARdONdPARdPHARdQARdRAEdSANdSHINdTANdTARdUNdVINdWEdXAN",
  "dYNdZENdZHARaGERMAN PENNY SIGNaGETA MARKaGHOSTaGIMEL SYMBOLaGIRAFFE FACEaGIRLaGIRLS SYMBOL",
  "aGLAGOLITIC CAPITAL LETTER AZUdBIG YUSdBUKYdCAUDATE CHRIVIdCHRIVIdDJERVIdDOBROdDZELOdFITAdFRITU",
  "dGLAGOLIdHERUdIdINITIAL IZHEdIOTATED BIG YUSeSMALL YUSdIZHEdIZHITSAdKAKOdLATINATE MYSLITE",
  "dLJUDIJEdMYSLITEdNASHIdONUdOTUdPEdPOKOJIdRITSIdSHAdSHTAdSHTAPICdSLOVOdSMALL YUSeYUS WITH TAIL",
  "dSPIDERY HAdTROKUTASTI AdTSIdTVRIDOdUKUdVEDEdYATIdYERIdYERUdYESTUdYOdYUdZEMLJAdZHIVETE",
  "bSMALL LETTER AZUdBIG YUSdBUKYdCAUDATE CHRIVIdCHRIVIdDJERVIdDOBROdDZELOdFITAdFRITUdGLAGOLIdHERU",
  "dIdINITIAL IZHEdIOTATED BIG YUSeSMALL YUSdIZHEdIZHITSAdKAKOdLATINATE MYSLITEdLJUDIJEdMYSLITE",
  "dNASHIdONUdOTUdPEdPOKOJIdRITSIdSHAdSHTAdSHTAPICdSLOVOdSMALL YUSeYUS WITH TAILdSPIDERY HA",
  "dTROKUTASTI AdTSIdTVRIDOdUKUdVEDEdYATIdYERIdYERUdYESTUdYOdYUdZEMLJAdZHIVETEaGLASS OF MILK",
  "aGLEICH STARKaGLOBE WITH MERIDIANSaGLOVESaGLOWING STARaGOAL NETaGOATaGOGGLESaGOLFERaGORILLA",
  "aGOTHIC LETTER AHSAcAIHVUScBAIRKANcDAGScEIScFAIHUcGIBAcHAGLcHWAIRcIGGWScIUJAcJERcKUSMAcLAGUS",
  "cMANNAcNAUTHScNINE HUNDREDcNINETYcOTHALcPAIRTHRAcQAIRTHRAcRAIDAcSAUILcTEIWScTHIUTHcURUScWINJA",
  "aGRADUATION CAPaGRANTHA AU LENGTH MARKbLETTER AcAAcAIcAUcBAcBHAcCAcCHAcDAcDDAcDDHAcDHAcEEcGA",
  "cGHAcHAcIcIIcJAcJHAcKAcKHAcLAcLLAcMAcNAcNGAcNNAcNYAcOOcPAcPHAcRAcSAcSHAcSSAcTAcTHAcTTAcTTHAcU",
  "cUUcVAcVEDIC ANUSVARAdDOUBLE ANUSVARAcVOCALIC LdLLdRdRRcYAbOMbSIGN ANUSVARAcAVAGRAHA",
  "cCANDRABINDUcCOMBINING ANUSVARA ABOVEcNUKTAcPLUTAcVIRAMAcVISARGAbVOWEL SIGN AAdAIdAUdEEdIdIIdOO",
  "dUdUUdVOCALIC LeLLeReRRaGRAPESaGRAVE ACCENT",
  "aGREATER-THAN ABOVE DOUBLE-LINE EQUAL ABOVE LESS-THANdLESS-THAN ABOVE DOUBLE-LINE EQUAL",
  "dRIGHTWARDS ARROWdSIMILAR ABOVE LESS-THANeOR EQUAL",
  "dSLANTED EQUAL ABOVE LESS-THAN ABOVE SLANTED EQUALcAND NOT APPROXIMATEdSINGLE-LINE NOT EQUAL TO",
  "cBESIDE LESS-THANcBUT NOT EQUAL TOeEQUIVALENT TOcCLOSED BY CURVEeCURVE ABOVE SLANTED EQUAL",
  "cEQUAL TO OR LESS-THANcOR APPROXIMATEdEQUAL TOdEQUIVALENT TOdLESS-THANdSLANTED EQUAL TO",
  "fTO WITH DOT ABOVEiABOVE LEFTiINSIDEcOVER EQUAL TOcOVERLAPPING LESS-THANcSIGN",
  "cWITH CIRCLE INSIDEdDOTdQUESTION MARK ABOVEaGREEK ACROPHONIC ATTIC FIFTYdFIFTY STATERSeTALENTS",
  "eTHOUSANDeTHOUSAND STATERSdFIVEdFIVE HUNDREDeHUNDRED STATERSfTALENTSeSTATERSeTALENTSeTHOUSAND",
  "eTHOUSAND TALENTSdONE DRACHMAeHALFeHUNDRED STATERSfTALENTSeQUARTEReTHOUSAND STATERSfTALENTS",
  "dTEN MNASeSTATERSeTALENTSeTHOUSAND STATERScCARYSTIAN FIVE HUNDREDcCYRENAIC TWO DRACHMAS",
  "cDELPHIC FIVE MNAScEPIDAUREAN FIVE HUNDREDdTWOdTWO DRACHMAScHERAEUM ONE PLETHRON",
  "cHERMIONIAN FIFTYdONEdTENcMESSENIAN TENcNAXIAN FIVE HUNDREDcSTRATIAN FIFTY MNAScTHESPIAN FIFTY",
  "dFIVE HUNDREDeTHOUSANDdONEdONE HUNDREDeTHOUSANDdTENdTHIRTYdTHREE HUNDREDdTWOcTROEZENIAN FIFTY",
  "dFIFTY ALTERNATE FORMdFIVEdFIVE HUNDREDdTENdTEN ALTERNATE FORMbANO TELEIAbAROURA SIGN",
  "bARTABE SIGNbBETA SYMBOLbCAPITAL DOTTED LUNATE SIGMA SYMBOLcKAI SYMBOLcLETTER ALPHA",
  "dALPHA WITH DASIAfDASIA AND OXIAhOXIA AND PROSGEGRAMMENIhPERISPOMENI",
  "hPERISPOMENI AND PROSGEGRAMMENIhPROSGEGRAMMENIhVARIAhVARIA AND PROSGEGRAMMENIfMACRONfOXIA",
  "fPROSGEGRAMMENIfPSILIfPSILI AND OXIAhOXIA AND PROSGEGRAMMENIhPERISPOMENI",
  "hPERISPOMENI AND PROSGEGRAMMENIhPROSGEGRAMMENIhVARIAhVARIA AND PROSGEGRAMMENIfTONOSfVARIA",
  "fVRACHYdARCHAIC SAMPIdBETAdCHIdDELTAdEPSILONdEPSILON WITH DASIAfDASIA AND OXIAhVARIAfOXIAfPSILI",
  "fPSILI AND OXIAhVARIAfTONOSfVARIAdETAdETA WITH DASIAfDASIA AND OXIAhOXIA AND PROSGEGRAMMENI",
  "hPERISPOMENIhPERISPOMENI AND PROSGEGRAMMENIhPROSGEGRAMMENIhVARIAhVARIA AND PROSGEGRAMMENIfOXIA",
  "fPROSGEGRAMMENIfPSILIfPSILI AND OXIAhOXIA AND PROSGEGRAMMENIhPERISPOMENI",
  "hPERISPOMENI AND PROSGEGRAMMENIhPROSGEGRAMMENIhVARIAhVARIA AND PROSGEGRAMMENIfTONOSfVARIAdGAMMA",
  "dHETAdIOTAdIOTA WITH DASIAfDASIA AND OXIAhPERISPOMENIhVARIAfDIALYTIKAfMACRONfOXIAfPSILI",
  "fPSILI AND OXIAhPERISPOMENIhVARIAfTONOSfVARIAfVRACHYdKAPPAdLAMDAdMUdNUdOMEGAdOMEGA WITH DASIA",
  "fDASIA AND OXIAhOXIA AND PROSGEGRAMMENIhPERISPOMENIhPERISPOMENI AND PROSGEGRAMMENI",
  "hPROSGEGRAMMENIhVARIAhVARIA AND PROSGEGRAMMENIfOXIAfPROSGEGRAMMENIfPSILIfPSILI AND OXIA",
  "hOXIA AND PROSGEGRAMMENIhPERISPOMENIhPERISPOMENI AND PROSGEGRAMMENIhPROSGEGRAMMENIhVARIA",
  "hVARIA AND PROSGEGRAMMENIfTONOSfVARIAdOMICRONdOMICRON WITH DASIAfDASIA AND OXIAhVARIAfOXIA",
  "fPSILIfPSILI AND OXIAhVARIAfTONOSfVARIAdPAMPHYLIAN DIGAMMAdPHIdPIdPSIdRHOdRHO WITH DASIAdSAN",
  "dSHOdSIGMAdTAUdTHETAdUPSILONdUPSILON WITH DASIAfDASIA AND OXIAhPERISPOMENIhVARIAfDIALYTIKA",
  "fMACRONfOXIAfTONOSfVARIAfVRACHYdXIdYOTdZETAcLUNATE SIGMA SYMBOL",
  "cREVERSED DOTTED LUNATE SIGMA SYMBOLdLUNATE SIGMA SYMBOLcTHETA SYMBOLbDASIAbDASIA AND OXIA",
  "dPERISPOMENIdVARIAbDIALYTIKA AND OXIAdPERISPOMENIdVARIAcTONOSbDRACHMA SIGNbFIVE OBOLS SIGN",
  "bFOUR OBOLS SIGNbGRAMMA SIGNbINDICTION SIGNbINSTRUMENTAL NOTATION SYMBOL-1e11e12e13e14e17e18e19",
  "e2e23e24e25e26e27e29e30e32e36e37e38e39e4e40e42e43e45e47e48e49e5e50e51e52e53e54e7e8bKAI SYMBOL",
  "bKAPPA SYMBOLbKORONISbKYATHOS BASE SIGNbLETTER ARCHAIC KOPPAcDIGAMMAcKOPPAcSAMPI",
  "cSMALL CAPITAL GAMMAeLAMDAeOMEGAePIePSIeRHOcSTIGMAcYOTbLITRA SIGNbLOWER NUMERAL SIGN",
  "bLUNATE EPSILON SYMBOLcSIGMA SYMBOLbMETRETES SIGNbMUSICAL LEIMMAbNUMERAL SIGNbOBOL SIGN",
  "bONE HALF SIGNdSIGN ALTERNATE FORMcQUARTER SIGNbOUNKIA SIGNbOXIAbPERISPOMENIbPHI SYMBOL",
  "bPI SYMBOLbPROSGEGRAMMENIbPSILIbPSILI AND OXIAdPERISPOMENIdVARIAbQUESTION MARK",
  "bREVERSED LUNATE EPSILON SYMBOLbRHO SYMBOLcWITH STROKE SYMBOLbSINUSOID SIGN",
  "bSMALL DOTTED LUNATE SIGMA SYMBOLcLETTER ALPHAdALPHA WITH DASIAfDASIA AND OXIA",
  "hOXIA AND YPOGEGRAMMENIhPERISPOMENIhPERISPOMENI AND YPOGEGRAMMENIhVARIAhVARIA AND YPOGEGRAMMENI",
  "hYPOGEGRAMMENIfMACRONfOXIAfOXIA AND YPOGEGRAMMENIfPERISPOMENIfPERISPOMENI AND YPOGEGRAMMENI",
  "fPSILIfPSILI AND OXIAhOXIA AND YPOGEGRAMMENIhPERISPOMENIhPERISPOMENI AND YPOGEGRAMMENIhVARIA",
  "hVARIA AND YPOGEGRAMMENIhYPOGEGRAMMENIfTONOSfVARIAfVARIA AND YPOGEGRAMMENIfVRACHYfYPOGEGRAMMENI",
  "dARCHAIC KOPPAeSAMPIdBETAdCHIdDELTAdDIGAMMAdEPSILONdEPSILON WITH DASIAfDASIA AND OXIAhVARIA",
  "fOXIAfPSILIfPSILI AND OXIAhVARIAfTONOSfVARIAdETAdETA WITH DASIAfDASIA AND OXIA",
  "hOXIA AND YPOGEGRAMMENIhPERISPOMENIhPERISPOMENI AND YPOGEGRAMMENIhVARIAhVARIA AND YPOGEGRAMMENI",
  "hYPOGEGRAMMENIfOXIAfOXIA AND YPOGEGRAMMENIfPERISPOMENIfPERISPOMENI AND YPOGEGRAMMENIfPSILI",
  "fPSILI AND OXIAhOXIA AND YPOGEGRAMMENIhPERISPOMENIhPERISPOMENI AND YPOGEGRAMMENIhVARIA",
  "hVARIA AND YPOGEGRAMMENIhYPOGEGRAMMENIfTONOSfVARIAfVARIA AND YPOGEGRAMMENIfYPOGEGRAMMENI",
  "dFINAL SIGMAdGAMMAdHETAdIOTAdIOTA WITH DASIAfDASIA AND OXIAhPERISPOMENIhVARIAfDIALYTIKA",
  "fDIALYTIKA AND OXIAhPERISPOMENIhTONOShVARIAfMACRONfOXIAfPERISPOMENIfPSILIfPSILI AND OXIA",
  "hPERISPOMENIhVARIAfTONOSfVARIAfVRACHYdKAPPAdKOPPAdLAMDAdMUdNUdOMEGAdOMEGA WITH DASIA",
  "fDASIA AND OXIAhOXIA AND YPOGEGRAMMENIhPERISPOMENIhPERISPOMENI AND YPOGEGRAMMENIhVARIA",
  "hVARIA AND YPOGEGRAMMENIhYPOGEGRAMMENIfOXIAfOXIA AND YPOGEGRAMMENIfPERISPOMENI",
  "fPERISPOMENI AND YPOGEGRAMMENIfPSILIfPSILI AND OXIAhOXIA AND YPOGEGRAMMENIhPERISPOMENI",
  "hPERISPOMENI AND YPOGEGRAMMENIhVARIAhVARIA AND YPOGEGRAMMENIhYPOGEGRAMMENIfTONOSfVARIA",
  "fVARIA AND YPOGEGRAMMENIfYPOGEGRAMMENIdOMICRONdOMICRON WITH DASIAfDASIA AND OXIAhVARIAfOXIA",
  "fPSILIfPSILI AND OXIAhVARIAfTONOSfVARIAdPAMPHYLIAN DIGAMMAdPHIdPIdPSIdRHOdRHO WITH DASIAfPSILI",
  "dSAMPIdSANdSHOdSIGMAdSTIGMAdTAUdTHETAdUPSILONdUPSILON WITH DASIAfDASIA AND OXIAhPERISPOMENI",
  "hVARIAfDIALYTIKAfDIALYTIKA AND OXIAhPERISPOMENIhTONOShVARIAfMACRONfOXIAfPERISPOMENIfPSILI",
  "fPSILI AND OXIAhPERISPOMENIhVARIAfTONOSfVARIAfVRACHYdXIdZETA",
  "cREVERSED DOTTED LUNATE SIGMA SYMBOLdLUNATE SIGMA SYMBOLbSUBSCRIPT SMALL LETTER BETAeCHIeGAMMA",
  "ePHIeRHObSYMBOL TAU RHObTALENT SIGNbTHETA SYMBOLbTHREE OBOLS SIGNcQUARTERS SIGNbTONOS",
  "bTRYBLION BASE SIGNbTWO OBOLS SIGNcTHIRDS SIGNbUPSILON WITH ACUTE AND HOOK SYMBOL",
  "dDIAERESIS AND HOOK SYMBOLdHOOK SYMBOLbVARIAbVOCAL NOTATION SYMBOL-1e10e11e12e13e14e15e16e17e18",
  "e19e2e20e21e22e23e24e3e4e5e50e51e52e53e54e6e7e8e9bXESTES SIGNbYEAR SIGNbYPOGEGRAMMENIbZERO SIGN",
  "aGREEN APPLEbBOOKbHEARTbSALADaGRIMACING FACEaGRINNING CAT FACE WITH SMILING EYESbFACE",
  "bFACE WITH ONE LARGE AND ONE SMALL EYEdSMILING EYESdSTAR EYESaGROUP MARKbSEPARATOR",
  "aGROWING HEARTaGSaGUARANI SIGNaGUARDSMANaGUIDE DOGaGUITARaGUJARATI ABBREVIATION SIGN",
  "bDIGIT EIGHTcFIVEcFOURcNINEcONEcSEVENcSIXcTHREEcTWOcZERObLETTER AcAAcAIcAUcBAcBHAcCAcCHAcDAcDDA",
  "cDDHAcDHAcEcGAcGHAcHAcIcIIcJAcJHAcKAcKHAcLAcLLAcMAcNAcNGAcNNAcNYAcOcPAcPHAcRAcSAcSHAcSSAcTAcTHA",
  "cTTAcTTHAcUcUUcVAcVOCALIC LdLLdRdRRcYAcZHAbOMbRUPEE SIGNbSIGN ANUSVARAcAVAGRAHAcCANDRABINDU",
  "cCIRCLE NUKTA ABOVEcMADDAHcNUKTAcSHADDAcSUKUNcTHREE-DOT NUKTA ABOVEcTWO-CIRCLE NUKTA ABOVE",
  "cVIRAMAcVISARGAbVOWEL CANDRA EdOcSIGN AAdAIdAUdCANDRA EeOdEdIdIIdOdUdUUdVOCALIC LeLLeReRR",
  "aGUNJALA GONDI DIGIT EIGHTdFIVEdFOURdNINEdONEdSEVENdSIXdTHREEdTWOdZEROcLETTER AdAAdAIdAUdBAdBHA",
  "dCAdCHAdDAdDDAdDDHAdDHAdEEdGAdGHAdHAdIdIIdJAdJHAdKAdKHAdLAdLLAdMAdNAdNGAdOOdPAdPHAdRAdSAdTAdTHA",
  "dTTAdTTHAdUdUUdVAdYAcOMcSIGN ANUSVARAdVISARGAcVIRAMAcVOWEL SIGN AAeAIeAUeEEeIeIIeOOeUeUU",
  "aGURMUKHI ABBREVIATION SIGNbADDAKbDIGIT EIGHTcFIVEcFOURcNINEcONEcSEVENcSIXcTHREEcTWOcZERO",
  "bEK ONKARbIRIbLETTER AcAAcAIcAUcBAcBHAcCAcCHAcDAcDDAcDDHAcDHAcEEcFAcGAcGHAcGHHAcHAcIcIIcJAcJHA",
  "cKAcKHAcKHHAcLAcLLAcMAcNAcNGAcNNAcNYAcOOcPAcPHAcRAcRRAcSAcSHAcTAcTHAcTTAcTTHAcUcUUcVAcYAcZA",
  "bSIGN ADAK BINDIcBINDIcNUKTAcUDAATcVIRAMAcVISARGAcYAKASHbTIPPIbURAbVOWEL SIGN AAdAIdAUdEEdIdII",
  "dOOdUdUU"]

def namesInH : List String := [
  "aHADESaHAIR SPACEaHAIRCUTaHALFWIDTH BLACK SQUAREbDOWNWARDS ARROWbFORMS LIGHT VERTICAL",
  "bHANGUL FILLERcLETTER AdAEdCHIEUCHdCIEUCdEdEOdEUdHIEUHdIdIEUNGdKHIEUKHdKIYEOKdKIYEOK-SIOSdMIEUM",
  "dNIEUNdNIEUN-CIEUCeHIEUHdOdOEdPHIEUPHdPIEUPdPIEUP-SIOSdRIEULdRIEUL-HIEUHeKIYEOKeMIEUMePHIEUPH",
  "ePIEUPeSIOSeTHIEUTHdSIOSdSSANGCIEUCdSSANGKIYEOKdSSANGPIEUPdSSANGSIOSdSSANGTIKEUTdTHIEUTHdTIKEUT",
  "dUdWAdWAEdWEdWEOdWIdYAdYAEdYEdYEOdYIdYOdYUbIDEOGRAPHIC COMMAcFULL STOPbKATAKANA LETTER AdEdHA",
  "dHEdHIdHOdHUdIdKAdKEdKIdKOdKUdMAdMEdMIdMOdMUdNdNAdNEdNIdNOdNUdOdRAdREdRIdROdRUdSAdSEdSIdSMALL A",
  "eEeIeOeTUeUeYAeYOeYUdSOdSUdTAdTEdTIdTOdTUdUdWAdWOdYAdYOdYUcMIDDLE DOTcSEMI-VOICED SOUND MARK",
  "cVOICED SOUND MARKbKATAKANA-HIRAGANA PROLONGED SOUND MARKbLEFT CORNER BRACKETbLEFTWARDS ARROW",
  "bRIGHT CORNER BRACKETbRIGHTWARDS ARROWbUPWARDS ARROWbWHITE CIRCLEaHAMBURGERaHAMMER",
  "aHAMMER AND PICKcSICKLEcWRENCHaHAMSAaHAMSTER FACEaHAND WITH INDEX AND MIDDLE FINGERS CROSSED",
  "dFINGER AND THUMB CROSSEDaHANDBAGaHANDBALLaHANDSHAKEaHANGUL CHOSEONG CEONGCHIEUMCHIEUCH",
  "cCEONGCHIEUMCIEUCcCEONGCHIEUMSIOScCEONGCHIEUMSSANGCIEUCcCEONGCHIEUMSSANGSIOScCHIEUCH",
  "cCHIEUCH-HIEUHdKHIEUKHcCHITUEUMCHIEUCHcCHITUEUMCIEUCcCHITUEUMSIOScCHITUEUMSSANGCIEUC",
  "cCHITUEUMSSANGSIOScCIEUCcCIEUC-IEUNGcFILLERcHIEUHcHIEUH-SIOScIEUNGcIEUNG-CHIEUCHdCIEUCdHIEUH",
  "dKIYEOKdMIEUMdPANSIOSdPHIEUPHdPIEUPdRIEULdSIOSdTHIEUTHdTIKEUTcKAPYEOUNMIEUMcKAPYEOUNPHIEUPH",
  "cKAPYEOUNPIEUPcKAPYEOUNRIEULcKAPYEOUNSSANGPIEUPcKHIEUKHcKIYEOKcKIYEOK-TIKEUTcMIEUMcMIEUM-KIYEOK",
  "dPIEUPdSIOSdTIKEUTcNIEUNcNIEUN-CIEUCdHIEUHdKIYEOKdPIEUPdSIOSdTIKEUTcPANSIOScPHIEUPH",
  "cPHIEUPH-HIEUHdPIEUPcPIEUPcPIEUP-CHIEUCHdCIEUCdHIEUHdKHIEUKHdKIYEOKdNIEUNdPHIEUPHdSIOS",
  "dSIOS-CIEUCeKIYEOKePIEUPeTHIEUTHeTIKEUTdSSANGSIOSdTHIEUTHdTIKEUTcRIEULcRIEUL-CIEUCdHIEUH",
  "dKAPYEOUNPIEUPdKHIEUKHdKIYEOKdMIEUMdNIEUNdPIEUPdSIOSdSSANGKIYEOKdSSANGPIEUPdSSANGTIKEUTdTIKEUT",
  "cSIOScSIOS-CHIEUCHdCIEUCdHIEUHdIEUNGdKHIEUKHdKIYEOKdMIEUMdNIEUNdPHIEUPHdPIEUPdPIEUP-KIYEOK",
  "dRIEULdSSANGSIOSdTHIEUTHdTIKEUTcSSANGCIEUCcSSANGCIEUC-HIEUHcSSANGHIEUHcSSANGIEUNGcSSANGKIYEOK",
  "cSSANGNIEUNcSSANGPIEUPcSSANGRIEULcSSANGSIOScSSANGSIOS-PIEUPcSSANGTHIEUTHcSSANGTIKEUT",
  "cSSANGYEORINHIEUHcTHIEUTHcTIKEUTcTIKEUT-CIEUCdKIYEOKdMIEUMdPIEUPdRIEULdSIOScYEORINHIEUH",
  "cYESIEUNGbDOUBLE DOT TONE MARKbFILLERbJONGSEONG CHIEUCHcCIEUCcCIEUC-PIEUPdSSANGPIEUPcHIEUH",
  "cHIEUH-MIEUMdNIEUNdPIEUPdRIEULcIEUNGcIEUNG-KHIEUKHdKIYEOKdSSANGKIYEOKcKAPYEOUNMIEUM",
  "cKAPYEOUNPHIEUPHcKAPYEOUNPIEUPcKAPYEOUNRIEULcKHIEUKHcKIYEOKcKIYEOK-CHIEUCHdHIEUHdKHIEUKHdNIEUN",
  "dPIEUPdRIEULdSIOSdSIOS-KIYEOKcMIEUMcMIEUM-CHIEUCHdCIEUCdHIEUHdKIYEOKdNIEUNdPANSIOSdPIEUP",
  "dPIEUP-SIOSdRIEULdSIOSdSSANGNIEUNdSSANGSIOScNIEUNcNIEUN-CHIEUCHdCIEUCdHIEUHdKIYEOKdPANSIOS",
  "dRIEULdSIOSdTHIEUTHdTIKEUTcPANSIOScPANSIOS-KAPYEOUNPIEUPdPIEUPcPHIEUPHcPHIEUPH-PIEUPdSIOS",
  "dTHIEUTHcPIEUPcPIEUP-CHIEUCHdCIEUCdHIEUHdMIEUMdPHIEUPHdRIEULdRIEUL-PHIEUPHdSIOSdSIOS-TIKEUT",
  "dTIKEUTcRIEULcRIEUL-HIEUHdKAPYEOUNPIEUPdKHIEUKHdKIYEOKdKIYEOK-HIEUHeSIOSdMIEUMdMIEUM-HIEUH",
  "eKIYEOKeSIOSdNIEUNdPANSIOSdPHIEUPHdPIEUPdPIEUP-HIEUHePHIEUPHeSIOSeTIKEUTdSIOSdSSANGKIYEOK",
  "dSSANGSIOSdTHIEUTHdTIKEUTdTIKEUT-HIEUHdYEORINHIEUHdYEORINHIEUH-HIEUHdYESIEUNGcSIOScSIOS-CHIEUCH",
  "dCIEUCdHIEUHdKAPYEOUNPIEUPdKIYEOKdMIEUMdPANSIOSdPIEUPdRIEULdTHIEUTHdTIKEUTcSSANGCIEUC",
  "cSSANGIEUNGcSSANGKIYEOKcSSANGMIEUMcSSANGNIEUNcSSANGPIEUPcSSANGRIEULcSSANGRIEUL-KHIEUKH",
  "cSSANGSIOScSSANGSIOS-KIYEOKdTIKEUTcSSANGTIKEUTcSSANGTIKEUT-PIEUPcSSANGYESIEUNGcTHIEUTHcTIKEUT",
  "cTIKEUT-CHIEUCHdCIEUCdKIYEOKdPIEUPdRIEULdSIOSdSIOS-KIYEOKdTHIEUTHcYEORINHIEUHcYESIEUNG",
  "cYESIEUNG-HIEUHdKHIEUKHdKIYEOKdMIEUMdPANSIOSdSIOSdSSANGKIYEOKbJUNGSEONG AcA-EUdOdUcAEcARAEA",
  "cARAEA-AdEdEOdIdUcEcEOcEO-EUdOdUcEUcEU-AdEdEOdEUdOdUcFILLERcIcI-AdARAEAdEUdIdOdO-IdUdYAdYA-O",
  "dYAEdYEdYEOdYOdYUcOcO-EdEOdOdO-IdUdYAdYAEdYEdYEOcOEcSSANGARAEAcUcU-AdAEdEO-EUdI-IdUdYEdYEOcWA",
  "cWAEcWEcWEOcWIcYAcYA-OdUdYOcYAEcYEcYEOcYEO-OdUdYAcYIcYI-UcYOcYO-AdAEdEOdIdOdYAdYAEdYEOcYUcYU-A",
  "dAEdEdEOdIdOdUdYEdYEObLETTER AcAEcARAEAcARAEAEcCHIEUCHcCIEUCcEcEOcEUcHIEUHcIcIEUNG",
  "cKAPYEOUNMIEUMcKAPYEOUNPHIEUPHcKAPYEOUNPIEUPcKAPYEOUNSSANGPIEUPcKHIEUKHcKIYEOKcKIYEOK-SIOS",
  "cMIEUMcMIEUM-PANSIOSdPIEUPdSIOScNIEUNcNIEUN-CIEUCdHIEUHdPANSIOSdSIOSdTIKEUTcOcOEcPANSIOS",
  "cPHIEUPHcPIEUPcPIEUP-CIEUCdKIYEOKdSIOSdSIOS-KIYEOKeTIKEUTdTHIEUTHdTIKEUTcRIEULcRIEUL-HIEUH",
  "dKIYEOKdKIYEOK-SIOSdMIEUMdPANSIOSdPHIEUPHdPIEUPdPIEUP-SIOSdSIOSdTHIEUTHdTIKEUTdYEORINHIEUHcSIOS",
  "cSIOS-CIEUCdKIYEOKdNIEUNdPIEUPdTIKEUTcSSANGCIEUCcSSANGHIEUHcSSANGIEUNGcSSANGKIYEOKcSSANGNIEUN",
  "cSSANGPIEUPcSSANGSIOScSSANGTIKEUTcTHIEUTHcTIKEUTcUcWAcWAEcWEcWEOcWIcYAcYAEcYEcYEOcYEORINHIEUH",
  "cYESIEUNGcYESIEUNG-PANSIOSdSIOScYIcYOcYO-IdYAdYAEcYUcYU-IdYEdYEObSINGLE DOT TONE MARK",
  "aHANGZHOU NUMERAL EIGHTcFIVEcFOURcNINEcONEcSEVENcSIXcTENcTHIRTYcTHREEcTWENTYcTWO",
  "aHANIFI ROHINGYA DIGIT EIGHTdFIVEdFOURdNINEdONEdSEVENdSIXdTHREEdTWOdZEROcLETTER AdBAdCAdDAdDDA",
  "dFAdGAdHAdJAdKAdKHAdKINNA WAeYAdLAdMAdNAdNGAdNYAdPAdRAdRRAdSAdSHAdTAdTTAdVAdWAdYAdZA",
  "cMARK NA KHONNAdSAKINcSIGN HARBAHAYdTAHALAdTANAdTASSIcVOWEL AdEdIdOdUaHANUNOO LETTER AcBAcDAcGA",
  "cHAcIcKAcLAcMAcNAcNGAcPAcRAcSAcTAcUcWAcYAbSIGN PAMUDPODbVOWEL SIGN IdU",
  "aHAPPY PERSON RAISING ONE HANDaHARD DISKaHATCHING CHICKaHATRAN LETTER ALEPHcAYNcBETH",
  "cDALETH-RESHcGIMELcHEcHETHcKAPHcLAMEDHcMEMcNUNcPEcQOPHcSADHEcSAMEKHcSHINcTAWcTETHcWAWcYODHcZAYN",
  "bNUMBER FIVEcONEcONE HUNDREDcTENcTWENTYaHEADPHONEaHEADSTONEaHEADSTONE GRAVEYARD SYMBOL",
  "aHEAR-NO-EVIL MONKEYaHEART DECORATIONbHANDSbWITH ARROWcRIBBONcTIP ON THE LEFT",
  "aHEAVY AMPERSAND ORNAMENTbARROW SHAFT WIDTH ONEeONE HALFfTHIRDeTWO THIRDSbASTERISKbBALLOT X",
  "bBLACK CURVED DOWNWARDS AND RIGHTWARDS ARROWdUPWARDS AND RIGHTWARDS ARROWcHEART",
  "bBLACK-FEATHERED NORTH EAST ARROWdRIGHTWARDS ARROWdSOUTH EAST ARROWbCHECK MARK",
  "bCHEVRON SNOWFLAKEbCIRCLEbCIRCLE WITH CIRCLE INSIDEdSTROKE AND TWO DOTS ABOVEbCIRCLED SALTIRE",
  "bCONCAVE-POINTED BLACK RIGHTWARDS ARROWbDASHED TRIANGLE-HEADED RIGHTWARDS ARROWbDIVISION SIGN",
  "bDOLLAR SIGNbDOUBLE COMMA QUOTATION MARK ORNAMENTcTURNED COMMA QUOTATION MARK ORNAMENT",
  "bDOWNWARDS ARROW WITH EQUILATERAL ARROWHEADeLARGE EQUILATERAL ARROWHEAD",
  "bEIGHT POINTED BLACK STARdPINWHEEL STARdRECTILINEAR BLACK STARcSPOKED ASTERISK",
  "cTEARDROP-SPOKED PROPELLER ASTERISKbEQUALS SIGNbEXCLAMATION MARK ORNAMENTdSYMBOL",
  "bFIVE POINTED BLACK STARcSPOKED ASTERISKbFOUR BALLOON-SPOKED ASTERISKbGREEK CROSS",
  "bHEART EXCLAMATION MARK ORNAMENTbHORIZONTAL FILLbINTERROBANG ORNAMENTbLARGE CIRCLEbLATIN CROSS",
  "bLEFT-POINTING ANGLE BRACKET ORNAMENTeQUOTATION MARK ORNAMENT",
  "bLEFTWARDS ARROW WITH EQUILATERAL ARROWHEADeLARGE EQUILATERAL ARROWHEAD",
  "bLIGATURE OPEN ET ORNAMENTbLOW DOUBLE COMMA QUOTATION MARK ORNAMENT",
  "cSINGLE COMMA QUOTATION MARK ORNAMENTbLOWER RIGHT-SHADOWED WHITE RIGHTWARDS ARROWbMINUS SIGN",
  "bMULTIPLICATION XbNORTH EAST ARROWdPOINTING BUDeVINE LEAFcWEST POINTING BUDeVINE LEAF",
  "bOPEN CENTRE CROSSbOUTLINED BLACK STARbOVAL WITH OVAL INSIDEbPLUS SIGN",
  "bRIGHT-POINTING ANGLE BRACKET ORNAMENTeQUOTATION MARK ORNAMENTbRIGHTWARDS ARROW",
  "cARROW WITH EQUILATERAL ARROWHEADeLARGE EQUILATERAL ARROWHEADbROUND-TIPPED RIGHTWARDS ARROW",
  "bSALTIREbSANS-SERIF INTERROBANG ORNAMENTbSCRIPT LIGATURE ET ORNAMENT",
  "bSINGLE COMMA QUOTATION MARK ORNAMENTcTURNED COMMA QUOTATION MARK ORNAMENT",
  "bSIX POINTED BLACK STARcSPOKED ASTERISKbSOUTH EAST ARROWdPOINTING BUDeVINE LEAF",
  "cWEST POINTING BUDeVINE LEAFbSPARKLEbTEARDROP-SHANKED RIGHTWARDS ARROWcSPOKED ASTERISK",
  "dPINWHEEL ASTERISKbTRIANGLE-HEADED RIGHTWARDS ARROWbTWELVE POINTED BLACK STARdPINWHEEL STAR",
  "bUPPER RIGHT-SHADOWED WHITE RIGHTWARDS ARROWbUPWARDS ARROW WITH EQUILATERAL ARROWHEAD",
  "eLARGE EQUILATERAL ARROWHEADbVERTICAL BARbWEDGE-TAILED RIGHTWARDS ARROWbWHITE CIRCLE",
  "cDOWN-POINTING TRIANGLEcSQUAREbWIDE-HEADED RIGHTWARDS ARROWaHEBREW ACCENT ATNAH HAFUKHcDARGA",
  "cDEHIcETNAHTAcGERESHcGERESH MUQDAMcGERSHAYIMcILUYcMAHAPAKHcMERKHAcMERKHA KEFULAcMUNAHcOLE",
  "cPASHTAcPAZERcQADMAcQARNEY PARAcREVIAcSEGOLcSHALSHELETcTELISHA GEDOLAdQETANAcTEVIRcTIPEHA",
  "cYERAH BEN YOMOcYETIVcZAQEF GADOLdQATANcZARQAcZINORbLETTER ALEFcALEF WITH MAPIQePATAHeQAMATS",
  "cALTERNATIVE AYINdPLUS SIGNcAYINcBETcBET WITH DAGESHeRAFEcDALETcDALET WITH DAGESHcFINAL KAF",
  "dKAF WITH DAGESHdMEMdNUNdPEdPE WITH DAGESHdTSADIcGIMELcGIMEL WITH DAGESHcHEcHE WITH MAPIQcHET",
  "cKAFcKAF WITH DAGESHeRAFEcLAMEDcLAMED WITH DAGESHcMEMcMEM WITH DAGESHcNUNcNUN WITH DAGESHcPE",
  "cPE WITH DAGESHeRAFEcQOFcQOF WITH DAGESHcRESHcRESH WITH DAGESHcSAMEKHcSAMEKH WITH DAGESHcSHIN",
  "cSHIN WITH DAGESHeDAGESH AND SHIN DOTgSIN DOTeSHIN DOTeSIN DOTcTAVcTAV WITH DAGESHcTET",
  "cTET WITH DAGESHcTSADIcTSADI WITH DAGESHcVAVcVAV WITH DAGESHeHOLAMcWIDE ALEFdDALETdFINAL MEMdHE",
  "dKAFdLAMEDdRESHdTAVcYODcYOD WITH DAGESHeHIRIQcZAYINcZAYIN WITH DAGESHbLIGATURE ALEF LAMED",
  "cYIDDISH DOUBLE VAVeYODdVAV YODdYOD YOD PATAHbMARK LOWER DOTcMASORA CIRCLEcUPPER DOT",
  "bPOINT DAGESH OR MAPIQcHATAF PATAHdQAMATSdSEGOLcHIRIQcHOLAMcHOLAM HASER FOR VAV",
  "cJUDEO-SPANISH VARIKAcMETEGcPATAHcQAMATScQAMATS QATANcQUBUTScRAFEcSEGOLcSHEVAcSHIN DOTcSIN DOT",
  "cTSEREbPUNCTUATION GERESHcGERSHAYIMcMAQAFcNUN HAFUKHAcPASEQcSOF PASUQbYOD TRIANGLEaHEDGEHOG",
  "aHELICOPTERaHELLSCHREIBER PAUSE SYMBOLaHELM SYMBOLaHELMET WITH WHITE CROSS",
  "aHENTAIGANA LETTER A-1d2d3dWOcE-1d2d3d4d5d6cHA-1d10d11d2d3d4d5d6d7d8d9cHE-1d2d3d4d5d6d7cHI-1d2",
  "d3d4d5d6d7cHO-1d2d3d4d5d6d7d8cHU-1d2d3cI-1d2d3d4cKA-1d10d11d2d3d4d5d6d7d8d9dKEcKE-1d2d3d4d5d6",
  "cKI-1d2d3d4d5d6d7d8cKO-1d2d3dKIcKU-1d2d3d4d5d6d7cMA-1d2d3d4d5d6d7cME-1d2dMAcMI-1d2d3d4d5d6d7",
  "cMO-1d2d3d4d5d6cMU-1d2d3d4cN-MU-MO-1f2cNA-1d2d3d4d5d6d7d8d9cNE-1d2d3d4d5d6dKOcNI-1d2d3d4d5d6d7",
  "dTEcNO-1d2d3d4d5cNU-1d2d3cO-1d2d3cRA-1d2d3d4cRE-1d2d3d4cRI-1d2d3d4d5d6d7cRO-1d2d3d4d5d6cRU-1d2",
  "d3d4d5d6cSA-1d2d3d4d5d6d7d8cSE-1d2d3d4d5cSI-1d2d3d4d5d6cSO-1d2d3d4d5d6d7cSU-1d2d3d4d5d6d7d8",
  "cTA-1d2d3d4cTE-1d2d3d4d5d6d7d8d9cTI-1d2d3d4d5d6d7cTO-1d2d3d4d5d6dRAcTU-1d2d3d4dTOcU-1d2d3d4d5",
  "cWA-1d2d3d4d5cWE-1d2d3d4cWI-1d2d3d4d5cWO-1d2d3d4d5d6d7cYA-1d2d3d4d5dYOcYO-1d2d3d4d5d6cYU-1d2d3",
  "d4aHERBaHERMITIAN CONJUGATE MATRIXaHEXAGRAM FOR ABUNDANCEcAFTER COMPLETIONcAPPROACH",
  "cBEFORE COMPLETIONcBITING THROUGHcBREAKTHROUGHcCOMING TO MEETcCONFLICTcCONTEMPLATION",
  "cDARKENING OF THE LIGHTcDECREASEcDELIVERANCEcDEVELOPMENTcDIFFICULTY AT THE BEGINNINGcDISPERSION",
  "cDURATIONcENTHUSIASMcFELLOWSHIPcFOLLOWINGcGATHERING TOGETHERcGRACEcGREAT POSSESSIONdPOWER",
  "dPREPONDERANCEdTAMINGcHOLDING TOGETHERcINCREASEcINFLUENCEcINNER TRUTHcINNOCENCEcLIMITATION",
  "cMODESTYcMOUTH CORNERScOBSTRUCTIONcOPPOSITIONcOPPRESSIONcPEACEcPROGRESScPUSHING UPWARDcRETREAT",
  "cRETURNcREVOLUTIONcSMALL PREPONDERANCEdTAMINGcSPLITTING APARTcSTANDSTILLcTHE ABYSMAL WATERdARMY",
  "dAROUSING THUNDERdCAULDRONdCLINGING FIREdCREATIVE HEAVENdFAMILYdGENTLE WINDdJOYOUS LAKE",
  "dKEEPING STILL MOUNTAINdMARRYING MAIDENdRECEPTIVE EARTHdWANDERERdWELLcTREADINGcWAITING",
  "cWORK ON THE DECAYEDcYOUTHFUL FOLLYaHIBISCUSaHIGH BRIGHTNESS SYMBOLbOCTET PRESETbVOLTAGE SIGN",
  "aHIGH-HEELED SHOEbSPEED TRAINcTRAIN WITH BULLET NOSEaHIKING BOOTaHINDU TEMPLEaHIPPOPOTAMUS",
  "aHIRAGANA DIGRAPH YORIbITERATION MARKbLETTER AcARCHAIC WUdYEcBAcBEcBIcBOcBUcDAcDEcDIcDOcDUcEcGA",
  "cGEcGIcGOcGUcHAcHEcHIcHOcHUcIcKAcKEcKIcKOcKUcMAcMEcMIcMOcMUcNcNAcNEcNIcNOcNUcOcPAcPEcPIcPOcPU",
  "cRAcREcRIcROcRUcSAcSEcSIcSMALL AdEdIdKAdKEdOdTUdUdWAdWEdWIdWOdYAdYOdYUcSOcSUcTAcTEcTIcTOcTUcU",
  "cVUcWAcWEcWIcWOcYAcYOcYUcZAcZEcZIcZOcZUbVOICED ITERATION MARKaHISTORIC SITEaHOCHOaHOLE",
  "aHOLLOW QUILT SQUARE ORNAMENTdORNAMENT IN BLACK SQUAREaHOMOTHETICaHONEY POTaHONEYBEEaHOOKaHOP",
  "aHORIZONTAL BARbBLACK HEXAGONcOCTAGONbELLIPSISbLINE EXTENSIONbMALE WITH STROKE SIGN",
  "bONE EIGHTH BLOCK-1358e2e3e4e5e6e7bSCAN LINE-1d3d7d9bTAB KEYbTABULATIONbTABULATION SET",
  "cWITH JUSTIFICATIONbTRAFFIC LIGHTaHORSEaHORSE FACEbRACINGaHOSPITALaHOT BEVERAGEbDOGbPEPPER",
  "bSPRINGSaHOTELaHOURGLASSaHOURGLASS WITH FLOWING SANDaHOUSEaHOUSE BUILDINGbBUILDINGSbWITH GARDEN",
  "aHRYVNIA SIGNaHTaHTJaHTSaHUGGING FACEaHUNDRED POINTS SYMBOLaHUSHED FACEaHUTaHYGIEAaHYPHEN",
  "aHYPHEN BULLETbWITH DIAERESISaHYPHEN-MINUSaHYPHENATION POINTaHYPODIASTOLEaHYSTERESIS SYMBOL"]

def namesInI : List String := [
  "aI LOVE YOU HAND SIGNaICE CREAMbCUBEbHOCKEY STICK AND PUCKbSKATEaIDENTICAL TO",
  "bTO AND SLANTED PARALLELbWITH DOT ABOVEaIDENTIFICATION CARDaIDEOGRAPHIC ANNOTATION BOTTOM MARK",
  "cEARTH MARKcFIRST MARKcFOUR MARKcFOURTH MARKcHEAVEN MARKcLINKING MARKcMAN MARKcMIDDLE MARK",
  "cONE MARKcREVERSE MARKcSECOND MARKcTHIRD MARKcTHREE MARKcTOP MARKcTWO MARKbCLOSING MARKbCOMMA",
  "bDEPARTING TONE MARKbDESCRIPTION CHARACTER ABOVE TO BELOWfMIDDLE AND BELOWdFULL SURROUND",
  "dLEFT TO MIDDLE AND RIGHTfRIGHTdOVERLAIDdSURROUND FROM ABOVEfBELOWfLEFTfLOWER LEFTfUPPER LEFT",
  "gRIGHTbENTERING TONE MARKbFULL STOPbHALF FILL SPACEbITERATION MARKbLEVEL TONE MARKbNUMBER ZERO",
  "bRISING TONE MARKbSPACEbTALLY MARK FIVEdFOURdONEdTHREEdTWObTELEGRAPH LINE FEED SEPARATOR SYMBOL",
  "cSYMBOL FOR APRILeAUGUSTeDAY EIGHTfEIGHTEENfELEVENfFIFTEENfFIVEfFOURfFOURTEENfNINEfNINETEENfONE",
  "fSEVENfSEVENTEENfSIXfSIXTEENfTENfTHIRTEENfTHIRTYfTHIRTY-ONEfTHREEfTWELVEfTWENTYfTWENTY-EIGHT",
  "gFIVEgFOURgNINEgONEgSEVENgSIXgTHREEgTWOfTWOeDECEMBEReFEBRUARYeHOUR EIGHTfEIGHTEENfELEVEN",
  "fFIFTEENfFIVEfFOURfFOURTEENfNINEfNINETEENfONEfSEVENfSEVENTEENfSIXfSIXTEENfTENfTHIRTEENfTHREE",
  "fTWELVEfTWENTYfTWENTY-FOURgONEgTHREEgTWOfTWOfZEROeJANUARYeJULYeJUNEeMARCHeMAYeNOVEMBEReOCTOBER",
  "eSEPTEMBERbVARIATION INDICATORaIMAGE OFbOF OR APPROXIMATELY EQUAL TOaIMP",
  "aIMPERIAL ARAMAIC LETTER ALEPHdAYINdBETHdDALETHdGIMELdHEdHETHdKAPHdLAMEDHdMEMdNUNdPEdQOPHdRESH",
  "dSADHEdSAMEKHdSHINdTAWdTETHdWAWdYODHdZAYINcNUMBER ONEdONE HUNDREDeTHOUSANDdTENdTEN THOUSAND",
  "dTHREEdTWENTYdTWOcSECTION SIGNaINBOX TRAYaINCOMING ENVELOPEaINCOMPLETE INFINITY",
  "aINCREASE FONT SIZE SYMBOLaINCREASES ASaINCREMENTaINDaINDEXaINDEX POINTING AT THE VIEWER",
  "aINDIAN RUPEE SIGNaINDIC SIYAQ ALTERNATE LAKH MARKcFRACTION ONE HALFeQUARTERdTHREE QUARTERS",
  "cLAKH MARKcNUMBER ALTERNATE ONEeTEN THOUSANDeTWOdEIGHTdEIGHT HUNDREDeTHOUSANDdEIGHTY",
  "dEIGHTY THOUSANDdFIFTYdFIFTY THOUSANDdFIVEdFIVE HUNDREDeTHOUSANDdFORTYdFORTY THOUSANDdFOUR",
  "dFOUR HUNDREDeTHOUSANDdKARORdKARORANdLAKHdLAKHANdNINEdNINE HUNDREDeTHOUSANDdNINETY",
  "dNINETY THOUSANDdONEdONE HUNDREDeTHOUSANDdPREFIXED EIGHTeFIVEeFOUReNINEeONEeSEVENeSIXeTHREEeTWO",
  "dSEVENdSEVEN HUNDREDeTHOUSANDdSEVENTYdSEVENTY THOUSANDdSIXdSIX HUNDREDeTHOUSANDdSIXTY",
  "dSIXTY THOUSANDdTENdTEN THOUSANDdTHIRTYdTHIRTY THOUSANDdTHREEdTHREE HUNDREDeTHOUSANDdTWENTY",
  "dTWENTY THOUSANDdTWOdTWO HUNDREDeTHOUSANDcPLACEHOLDERcRUPEE MARKaINFINITY",
  "aINFINITY NEGATED WITH VERTICAL BARaINFORMATION DESK PERSONbSEPARATOR FOURcONEcTHREEcTWObSOURCE",
  "aINHIBIT ARABIC FORM SHAPINGbSYMMETRIC SWAPPINGaINPUT SYMBOL FOR LATIN CAPITAL LETTERSeLETTERS",
  "eSMALL LETTERSdNUMBERSdSYMBOLSaINSCRIPTIONAL PAHLAVI LETTER ALEPHdBETHdDALETHdGIMELdHEdHETH",
  "dKAPHdLAMEDHdMEM-QOPHdNUNdPEdSADHEdSAMEKHdSHINdTAWdTETHdWAW-AYIN-RESHdYODHdZAYINcNUMBER FOUR",
  "dONEdONE HUNDREDeTHOUSANDdTENdTHREEdTWENTYdTWObPARTHIAN LETTER ALEPHdAYINdBETHdDALETHdGIMELdHE",
  "dHETHdKAPHdLAMEDHdMEMdNUNdPEdQOPHdRESHdSADHEdSAMEKHdSHINdTAWdTETHdWAWdYODHdZAYINcNUMBER FOUR",
  "dONEdONE HUNDREDeTHOUSANDdTENdTHREEdTWENTYdTWOaINSERTION SYMBOLaINTEGRAL",
  "aINTEGRAL AROUND A POINT OPERATORbAVERAGE WITH SLASHbEXTENSIONbWITH DOUBLE STROKEcINTERSECTION",
  "cLEFTWARDS ARROW WITH HOOKcOVERBARcTIMES SIGNcUNDERBARcUNIONaINTERCALATEaINTERIOR PRODUCT",
  "aINTERLINEAR ANNOTATION ANCHORcSEPARATORcTERMINATORaINTERLOCKED FEMALE AND MALE SIGN",
  "aINTERROBANGaINTERSECTIONaINTERSECTION ABOVE BAR ABOVE UNIONcUNION",
  "bBESIDE AND JOINED WITH INTERSECTIONbWITH DOTcLOGICAL ANDcOVERBARaINVERSE BULLETbCHECK MARK",
  "bCHECKER BOARD FILLbDOWNWARDS ARROW WITH TIP LEFTWARDSbMEDIUM SHADEbWHITE CIRCLE",
  "aINVERTED EXCLAMATION MARKbINTERROBANGbLAZY SbLOW KAVYKAcKAVYKA WITH KAVYKA ABOVEbOHM SIGN",
  "bPENTAGRAMbQUESTION MARKbUNDERTIEaINVISIBLE PLUSbSEPARATORbTIMESaIZAKAYA LANTERN"]

def namesInJ : List String := [
  "aJACK-O-LANTERNaJAPANESE BANK SYMBOLbCASTLEbDOLLSbGOBLINbINDUSTRIAL STANDARD SYMBOLbOGRE",
  "bPOST OFFICEbSYMBOL FOR BEGINNERaJARaJAVANESE CONSONANT SIGN CAKRAdKERETdPENGKALbDIGIT EIGHT",
  "cFIVEcFOURcNINEcONEcSEVENcSIXcTHREEcTWOcZERObLEFT RERENGGANbLETTER AcAIcBAcBA MURDAcCAcCA MURDA",
  "cDAcDA MAHAPRANAcDDAcDDA MAHAPRANAcEcGAcGA MURDAcHAcIcI KAWIcIIcJAcJA MAHAPRANAcKAcKA MURDA",
  "dSASAKcLAcMAcNAcNA MURDAcNGAcNGA LELETdLELET RASWADIcNYAcNYA MURDAcOcPAcPA CEREKdMURDAcRA",
  "cRA AGUNGcSAcSA MAHAPRANAdMURDAcTAcTA MURDAcTTAcTTA MAHAPRANAcUcWAcYAbPADA ADEGcADEG ADEGcANDAP",
  "cISEN-ISENcLINGSAcLUHURcLUNGSIcMADYAcPANGKATcPISELEHcTIRTA TUMETEScWINDUbPANGKONbPANGRANGKEP",
  "bRIGHT RERENGGANbSIGN CECAKcCECAK TELUcLAYARcPANYANGGAcWIGNYANbTURNED PADA PISELEH",
  "bVOWEL SIGN DIRGA MUREdPEPETdSUKUdSUKU MENDUTdTALINGdTARUNGdTOLONGdWULUdWULU MELIKaJEANS",
  "aJIGSAW PUZZLE PIECEaJOINaJOYSTICKaJUGGLINGaJUNOaJUPITER"]

end CircuitConsole.Text
