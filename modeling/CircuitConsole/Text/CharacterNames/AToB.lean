/-!
Names of characters in the Unicode standard, version 14: those that begin with A or B.
How a listing is read is told where names are looked up.
-/

namespace CircuitConsole.Text

def namesInA : List String := [
  "aABACUSaAC CURRENTaACCORDIONaACCOUNT OFaACKaACKNOWLEDGEaACTIVATE ARABIC FORM SHAPING",
  "bSYMMETRIC SWAPPINGaACUTE ACCENTbANGLEaADDRESSED TO THE SUBJECTaADHESIVE BANDAGEaADI SHAKTI",
  "aADLAM ALIF LENGTHENERbCAPITAL LETTER ALIFdBAdBHEdCHIdDAALIdDHAdEdFAdGAdGBEdHAdIdJIIMdKAFdKHA",
  "dKPOdLAAMdMIIMdNHAdNUNdNYAdOdPEdQAAFdRAdSHAdSINNYIIYHEdTUdUdVAdWAWdYAdYHEdZAL",
  "bCONSONANT MODIFIERbDIGIT EIGHTcFIVEcFOURcNINEcONEcSEVENcSIXcTHREEcTWOcZERO",
  "bGEMINATE CONSONANT MODIFIERbGEMINATION MARKbHAMZAbINITIAL EXCLAMATION MARKcQUESTION MARK",
  "bNASALIZATION MARKbNUKTAbSMALL LETTER ALIFdBAdBHEdCHIdDAALIdDHAdEdFAdGAdGBEdHAdIdJIIMdKAFdKHA",
  "dKPOdLAAMdMIIMdNHAdNUNdNYAdOdPEdQAAFdRAdSHAdSINNYIIYHEdTUdUdVAdWAWdYAdYHEdZALbVOWEL LENGTHENER",
  "aADMETOSaADMISSION TICKETSaADULTaAEGEAN CHECK MARKbDRY MEASURE FIRST SUBUNIT",
  "bLIQUID MEASURE FIRST SUBUNITbMEASURE SECOND SUBUNITcTHIRD SUBUNITbNUMBER EIGHTcEIGHT HUNDRED",
  "dTHOUSANDcEIGHTYcEIGHTY THOUSANDcFIFTYcFIFTY THOUSANDcFIVEcFIVE HUNDREDdTHOUSANDcFORTY",
  "cFORTY THOUSANDcFOURcFOUR HUNDREDdTHOUSANDcNINEcNINE HUNDREDdTHOUSANDcNINETYcNINETY THOUSAND",
  "cONEcONE HUNDREDdTHOUSANDcSEVENcSEVEN HUNDREDdTHOUSANDcSEVENTYcSEVENTY THOUSANDcSIXcSIX HUNDRED",
  "dTHOUSANDcSIXTYcSIXTY THOUSANDcTENcTEN THOUSANDcTHIRTYcTHIRTY THOUSANDcTHREEcTHREE HUNDRED",
  "dTHOUSANDcTWENTYcTWENTY THOUSANDcTWOcTWO HUNDREDdTHOUSANDbWEIGHT BASE UNITcFIRST SUBUNIT",
  "cFOURTH SUBUNITcSECOND SUBUNITcTHIRD SUBUNITbWORD SEPARATOR DOTdLINEaAERIAL TRAMWAY",
  "aAFGHANI SIGNaAHOM CONSONANT SIGN MEDIAL LAeLIGATING RAeRAbDIGIT EIGHTcFIVEcFOURcNINEcONEcSEVEN",
  "cSIXcTHREEcTWOcZERObLETTER AcALTERNATE BAdGAdTAcBAcBHAcCAcCHAcDAcDDAcDDHAcDHAcGAcGHAcHAcJAcJHA",
  "cKAcKHAcLAcLLAcMAcNAcNGAcNNAcNYAcPAcPHAcRAcSAcTAcTHAcTTAcTTHAbNUMBER TENcTWENTYbSIGN KILLER",
  "cRULAIcSECTIONcSMALL SECTIONbSYMBOL VIbVOWEL SIGN AdAAdAIdAMdAWdEdIdIIdOdUdUUaAIRPLANE",
  "aAIRPLANE ARRIVINGbDEPARTUREaAKTIESELSKABaALARM CLOCKaALCHEMICAL SYMBOL FOR AIRdALEMBICdALKALI",
  "dALKALI-2dALUMdAMALGAMdANTIMONY OREdAQUA REGIAeREGIA-2eVITAEeVITAE-2dAQUAFORTISdARSENICdASHES",
  "dAURIPIGMENTdBATH OF MARYfVAPOURSdBISMUTH OREdBLACK SULFURdBORAXdBORAX-2e3dBRICKdCADUCEUSdCALX",
  "dCAPUT MORTUUMdCINNABARdCOPPER ANTIMONIATEeOREdCROCUS OF COPPERfCOPPER-2fIRONdCRUCIBLE",
  "dCRUCIBLE-2e3e4e5dDAY-NIGHTdDISSOLVEdDISSOLVE-2dDISTILLdEARTHdFIREdGOLDdGUMdHALF DRAMeOUNCE",
  "dHORSE DUNGdHOURdIRON OREeORE-2dIRON-COPPER OREdLEAD OREdLODESTONEdMARCASITEdMERCURY SUBLIMATE",
  "eSUBLIMATE-2f3dMONTHdNIGHTdNITREdOILdPHILOSOPHERS SULFURdPOT ASHESdPOWDERdPOWDERED BRICK",
  "dPRECIPITATEdPURIFYdPUTREFACTIONdQUICK LIMEdQUINTESSENCEdREALGARdREALGAR-2dREGULUS",
  "dREGULUS OF ANTIMONYfANTIMONY-2fIRONdREGULUS-2e3e4dRETORTdROCK SALTeSALT-2dSAL-AMMONIACdSALT",
  "dSALT OF ANTIMONYfCOPPER ANTIMONIATEdSCEPTER OF JOVEdSILVERdSOAPdSPIRITdSTARRED TRIDENT",
  "dSTRATUM SUPER STRATUMfSTRATUM-2dSUBLIMATE OF ANTIMONYfCOPPERfSALT OF ANTIMONYhCOPPER",
  "dSUBLIMATIONdSULFURdTARTARdTARTAR-2dTIN OREdTINCTUREdTRIDENTdTUTTYdURINEdVERDIGRISdVINEGAR",
  "dVINEGAR OF ANTIMONYdVINEGAR-2e3dVITRIOLdVITRIOL-2dWATERdWAXaALEF SYMBOLaALEMBICaALERT",
  "aALIEN MONSTERaALL AROUND-PROFILEbEQUAL TOaALMaALMOST EQUAL OR EQUAL TOcTO",
  "cTO WITH CIRCUMFLEX ACCENTaALTERNATE ONE-WAY LEFT WAY TRAFFICaALTERNATIVE KEY SYMBOL",
  "aAMALGAMATION OR COPRODUCTaAMBULANCEaAMERICAN FOOTBALLaAMPERSANDaAMPHORA",
  "aANATOLIAN HIEROGLYPH A001cA002cA003cA004cA005cA006cA007cA008cA009cA010cA010AcA011cA012cA013",
  "cA014cA015cA016cA017cA018cA019cA020cA021cA022cA023cA024cA025cA026cA026AcA027cA028cA029cA030",
  "cA031cA032cA033cA034cA035cA036cA037cA038cA039cA039AcA040cA041cA041AcA042cA043cA044cA045cA045A",
  "cA046cA046AcA046BcA047cA048cA049cA050cA051cA052cA053cA054cA055cA056cA057cA058cA059cA060cA061",
  "cA062cA063cA064cA065cA066cA066AcA066BcA066CcA067cA068cA069cA070cA071cA072cA073cA074cA075cA076",
  "cA077cA078cA079cA080cA081cA082cA083cA084cA085cA086cA087cA088cA089cA090cA091cA092cA093cA094cA095",
  "cA096cA097cA097AcA098cA098AcA099cA100cA100AcA101cA101AcA102cA102AcA103cA104cA104AcA104BcA104C",
  "cA105cA105AcA105BcA106cA107cA107AcA107BcA107CcA108cA109cA110cA110AcA110BcA111cA112cA113cA114",
  "cA115cA115AcA116cA117cA118cA119cA120cA121cA122cA123cA124cA125cA125AcA126cA127cA128cA129cA130",
  "cA131cA132cA133cA134cA135cA135AcA136cA137cA138cA139cA140cA141cA142cA143cA144cA145cA146cA147",
  "cA148cA149cA150cA151cA152cA153cA154cA155cA156cA157cA158cA159cA160cA161cA162cA163cA164cA165cA166",
  "cA167cA168cA169cA170cA171cA172cA173cA174cA175cA176cA177cA178cA179cA180cA181cA182cA183cA184cA185",
  "cA186cA187cA188cA189cA190cA191cA192cA193cA194cA195cA196cA197cA198cA199cA200cA201cA202cA202A",
  "cA202BcA203cA204cA205cA206cA207cA207AcA208cA209cA209AcA210cA211cA212cA213cA214cA215cA215AcA216",
  "cA216AcA217cA218cA219cA220cA221cA222cA223cA224cA225cA226cA227cA227AcA228cA229cA230cA231cA232",
  "cA233cA234cA235cA236cA237cA238cA239cA240cA241cA242cA243cA244cA245cA246cA247cA248cA249cA250cA251",
  "cA252cA253cA254cA255cA256cA257cA258cA259cA260cA261cA262cA263cA264cA265cA266cA267cA267AcA268",
  "cA269cA270cA271cA272cA273cA274cA275cA276cA277cA278cA279cA280cA281cA282cA283cA284cA285cA286cA287",
  "cA288cA289cA289AcA290cA291cA292cA293cA294cA294AcA295cA296cA297cA298cA299cA299AcA300cA301cA302",
  "cA303cA304cA305cA306cA307cA308cA309cA309AcA310cA311cA312cA313cA314cA315cA316cA317cA318cA319",
  "cA320cA321cA322cA323cA324cA325cA326cA327cA328cA329cA329AcA330cA331cA332AcA332BcA332CcA333cA334",
  "cA335cA336cA336AcA336BcA336CcA337cA338cA339cA340cA341cA342cA343cA344cA345cA346cA347cA348cA349",
  "cA350cA351cA352cA353cA354cA355cA356cA357cA358cA359cA359AcA360cA361cA362cA363cA364cA364AcA365",
  "cA366cA367cA368cA368AcA369cA370cA371cA371AcA372cA373cA374cA375cA376cA377cA378cA379cA380cA381",
  "cA381AcA382cA383 RA OR RIcA383AcA384cA385cA386cA386AcA387cA388cA389cA390cA391cA392cA393 EIGHT",
  "cA394cA395cA396cA397cA398cA399cA400cA401cA402cA403cA404cA405cA406cA407cA408cA409",
  "cA410 BEGIN LOGOGRAM MARKcA410A END LOGOGRAM MARKcA411cA412cA413cA414cA415cA416cA417cA418cA419",
  "cA420cA421cA422cA423cA424cA425cA426cA427cA428cA429cA430cA431cA432cA433cA434cA435cA436cA437cA438",
  "cA439cA440cA441cA442cA443cA444cA445cA446cA447cA448cA449cA450cA450AcA451cA452cA453cA454cA455",
  "cA456cA457cA457AcA458cA459cA460cA461cA462cA463cA464cA465cA466cA467cA468cA469cA470cA471cA472",
  "cA473cA474cA475cA476cA477cA478cA479cA480cA481cA482cA483cA484cA485cA486cA487cA488cA489cA490cA491",
  "cA492cA493cA494cA495cA496cA497cA501cA502cA503cA504cA505cA506cA507cA508cA509cA510cA511cA512cA513",
  "cA514cA515cA516cA517cA518cA519cA520cA521cA522cA523cA524cA525cA526cA527cA528cA529cA530",
  "aANATOMICAL HEARTaANCHORaAND WITH DOTaANGER SYMBOLaANGLEaANGLE WITH S INSIDEcUNDERBAR",
  "aANGRY FACEaANGSTROM SIGNaANGUISHED FACEaANKHaANTaANTENNA WITH BARS",
  "aANTICLOCKWISE CLOSED CIRCLE ARROWbCONTOUR INTEGRALbDOWNWARDS AND UPWARDS OPEN CIRCLE ARROWS",
  "bGAPPED CIRCLE ARROWbINTEGRATIONbOPEN CIRCLE ARROWbTOP SEMICIRCLE ARROW",
  "bTRIANGLE-HEADED BOTTOM U-SHAPED ARROWdLEFT U-SHAPED ARROWdOPEN CIRCLE ARROW",
  "dRIGHT U-SHAPED ARROWdTOP U-SHAPED ARROWaAPCaAPL FUNCTIONAL SYMBOL ALPHAdALPHA UNDERBAR",
  "dBACKSLASH BARdCIRCLE BACKSLASHeDIAERESISeJOTeSTAReSTILEeUNDERBARdCOMMA BARdDEL DIAERESISeSTILE",
  "eTILDEdDELTA STILEeUNDERBARdDIAMOND UNDERBARdDOWN CARET TILDEeSHOE STILEeTACK JOTfUNDERBAR",
  "dDOWNWARDS VANEdEPSILON UNDERBARdGREATER-THAN DIAERESISdI-BEAMdIOTAdIOTA UNDERBARdJOT DIAERESIS",
  "eUNDERBARdLEFT SHOE STILEdLEFTWARDS VANEdOMEGAdOMEGA UNDERBARdQUADdQUAD BACKSLASHeCIRCLEeCOLON",
  "eDELeDELTAeDIAMONDeDIVIDEeDOWN CARETeDOWNWARDS ARROWeEQUALeGREATER-THANeJOTeLEFTWARDS ARROW",
  "eLESS-THANeNOT EQUALeQUESTIONeRIGHTWARDS ARROWeSLASHeUP CARETeUPWARDS ARROWdQUOTE QUADeUNDERBAR",
  "dRHOdRIGHTWARDS VANEdSEMICOLON UNDERBARdSLASH BARdSQUISH QUADdSTAR DIAERESISdSTILE TILDE",
  "dTILDE DIAERESISdUP CARET TILDEeSHOE JOTeTACK DIAERESISfJOTfOVERBARdUPWARDS VANEdZILDEaAPOLLON",
  "aAPOSTROPHEaAPPLICATION PROGRAM COMMANDaAPPROACHES THE LIMIT",
  "aAPPROXIMATELY BUT NOT ACTUALLY EQUAL TObEQUAL OR EQUAL TOcTOcTO OR THE IMAGE OFaAQUARIUS",
  "aARABIC BASELINE ROUND DOTbCOMMAbCURLY DAMMAcDAMMATANcFATHAcFATHATANcKASRAcKASRATANbDAMMA",
  "bDAMMA ISOLATED FORMcMEDIAL FORMcWITH DOTbDAMMATANbDAMMATAN ISOLATED FORMbDATE SEPARATOR",
  "bDECIMAL SEPARATORbDISPUTED END OF AYAHbDOUBLE RIGHT ARROWHEAD ABOVEeABOVE WITH DOT",
  "bDOUBLED MADDAbEMPTY CENTRE HIGH STOPdLOW STOPbEND OF AYAHdTEXT MARKbFATHAbFATHA ISOLATED FORM",
  "cMEDIAL FORMcWITH DOT ABOVEdRINGdTWO DOTSbFATHATANbFATHATAN ISOLATED FORMbFIVE POINTED STAR",
  "bFOOTNOTE MARKERbFULL STOPbHALF MADDA OVER MADDAbHAMZA ABOVEcBELOWbINVERTED DAMMAbKASRA",
  "bKASRA ISOLATED FORMcMEDIAL FORMcWITH DOT BELOWbKASRATANbKASRATAN ISOLATED FORM",
  "bLARGE CIRCLE BELOWcROUND DOT ABOVEeBELOWeINSIDE CIRCLE BELOWbLEFT ARROWHEAD ABOVEdBELOW",
  "bLETTER AEcAFRICAN FEHdNOONdQAFdQAF WITH THREE DOTS ABOVEcAINcAIN FINAL FORMdINITIAL FORM",
  "dISOLATED FORMdMEDIAL FORMdWITH THREE DOTS ABOVEgBELOWgPOINTING DOWNWARDS ABOVEeTWO DOTS ABOVE",
  "gVERTICALLY ABOVEcALEFcALEF FINAL FORMdISOLATED FORMdMAKSURAdMAKSURA FINAL FORMeISOLATED FORM",
  "dWASLAdWASLA FINAL FORMeISOLATED FORMdWITH ATTACHED BOTTOM RIGHT KASRAhKASRA AND DOT ABOVE",
  "jLEFT RINGfFATHAfKASRAfLEFT HAMZAgROUND DOTfRIGHT HAMZAgROUND DOTfROUND DOT ABOVEhBELOW",
  "fTOP RIGHT FATHAhFATHA AND DOT ABOVEjLEFT RINGeDOT ABOVE",
  "eEXTENDED ARABIC-INDIC DIGIT THREE ABOVEiTWO ABOVEeHAMZA ABOVEfABOVE FINAL FORMgISOLATED FORM",
  "fBELOWfBELOW FINAL FORMgISOLATED FORMeLEFT MIDDLE STROKEeMADDA ABOVEfABOVE FINAL FORM",
  "gISOLATED FORMeRIGHT MIDDLE STROKEgSTROKE AND DOT ABOVEiLEFT RINGeWAVY HAMZA ABOVEgBELOWcBEEH",
  "cBEEH FINAL FORMdINITIAL FORMdISOLATED FORMdMEDIAL FORMcBEHcBEH FINAL FORMdINITIAL FORM",
  "dISOLATED FORMdMEDIAL FORMdWITH DOT BELOW AND THREE DOTS ABOVEeHAMZA ABOVE",
  "eINVERTED SMALL V BELOWeSMALL MEEM ABOVEfVfV BELOWeTHREE DOTS HORIZONTALLY BELOW",
  "gPOINTING UPWARDS BELOWiBELOW AND TWO DOTS ABOVEeTWO DOTS BELOW AND DOT ABOVEcBEHEH",
  "cBEHEH FINAL FORMdINITIAL FORMdISOLATED FORMdMEDIAL FORMcDADcDAD FINAL FORMdINITIAL FORM",
  "dISOLATED FORMdMEDIAL FORMdWITH DOT BELOWcDAHALcDAHAL FINAL FORMdISOLATED FORMcDAL",
  "cDAL FINAL FORMdISOLATED FORMdWITH DOT BELOWfBELOW AND SMALL TAHeFOUR DOTS ABOVE",
  "eINVERTED SMALL V BELOWfVeRINGeTHREE DOTS ABOVE DOWNWARDSgBELOW",
  "eTWO DOTS VERTICALLY BELOW AND SMALL TAHcDDAHALcDDAHAL FINAL FORMdISOLATED FORMcDDAL",
  "cDDAL FINAL FORMdISOLATED FORMcDOTLESS BEHdFEHdQAFcDULcDUL FINAL FORMdISOLATED FORMcDYEH",
  "cDYEH FINAL FORMdINITIAL FORMdISOLATED FORMdMEDIAL FORMcEcE FINAL FORMdINITIAL FORM",
  "dISOLATED FORMdMEDIAL FORMcFARSI YEHdYEH FINAL FORMeINITIAL FORMeISOLATED FORMeMEDIAL FORM",
  "eWITH EXTENDED ARABIC-INDIC DIGIT FOUR BELOWjTHREE ABOVEjTWO ABOVEfINVERTED VfTHREE DOTS ABOVE",
  "fTWO DOTS ABOVEcFEHcFEH FINAL FORMdINITIAL FORMdISOLATED FORMdMEDIAL FORMdWITH DOT BELOW",
  "fBELOW AND THREE DOTS ABOVEfMOVED BELOWeTHREE DOTS BELOWgPOINTING UPWARDS BELOWeTWO DOTS BELOW",
  "cGAFcGAF FINAL FORMdINITIAL FORMdISOLATED FORMdMEDIAL FORMdWITH INVERTED STROKEeRING",
  "eTHREE DOTS ABOVEeTWO DOTS BELOWcGHAINcGHAIN FINAL FORMdINITIAL FORMdISOLATED FORMdMEDIAL FORM",
  "dWITH DOT BELOWeTHREE DOTS ABOVEcGRAFcGUEHcGUEH FINAL FORMdINITIAL FORMdISOLATED FORM",
  "dMEDIAL FORMcHAHcHAH FINAL FORMdINITIAL FORMdISOLATED FORMdMEDIAL FORM",
  "dWITH EXTENDED ARABIC-INDIC DIGIT FOUR BELOWeHAMZA ABOVEeINVERTED SMALL V BELOW",
  "eSMALL ARABIC LETTER TAH ABOVEiAND TWO DOTSiBELOWeTHREE DOTS ABOVEgPOINTING UPWARDS BELOW",
  "eTWO DOTS ABOVEgVERTICAL ABOVEcHAMZAcHAMZA ISOLATED FORMcHEHcHEH DOACHASHMEE",
  "dDOACHASHMEE FINAL FORMeINITIAL FORMeISOLATED FORMeMEDIAL FORMdFINAL FORMdGOALdGOAL FINAL FORM",
  "eINITIAL FORMeISOLATED FORMeMEDIAL FORMeWITH HAMZA ABOVEdINITIAL FORMdISOLATED FORMdMEDIAL FORM",
  "dWITH INVERTED VeYEH ABOVEfABOVE FINAL FORMgISOLATED FORMcHIGH HAMZAdHAMZA ALEFeWAWeYEHcJEEM",
  "cJEEM FINAL FORMdINITIAL FORMdISOLATED FORMdMEDIAL FORMdWITH THREE DOTS ABOVEgBELOW",
  "eTWO DOTS ABOVEcJEHcJEH FINAL FORMdISOLATED FORMcKAFcKAF FINAL FORMdINITIAL FORMdISOLATED FORM",
  "dMEDIAL FORMdWITH DOT ABOVEfBELOWeRINGeTHREE DOTS BELOWeTWO DOTS ABOVEcKASHMIRI YEHcKEHEH",
  "cKEHEH FINAL FORMdINITIAL FORMdISOLATED FORMdMEDIAL FORMdWITH DOT ABOVEeSMALL V",
  "eTHREE DOTS ABOVEgBELOWgPOINTING UPWARDS BELOWeTWO DOTS ABOVEgVERTICALLY BELOWcKHAH",
  "cKHAH FINAL FORMdINITIAL FORMdISOLATED FORMdMEDIAL FORMcKIRGHIZ OEdOE FINAL FORMeISOLATED FORM",
  "dYUdYU FINAL FORMeISOLATED FORMcLAMcLAM FINAL FORMdINITIAL FORMdISOLATED FORMdMEDIAL FORM",
  "dWITH BAReDOT ABOVEeDOUBLE BAReSMALL ARABIC LETTER TAH ABOVEfVeTHREE DOTS ABOVEgBELOWcLOW ALEF",
  "cMARKcMEEMcMEEM FINAL FORMdINITIAL FORMdISOLATED FORMdMEDIAL FORMdWITH DOT ABOVEfBELOW",
  "eTHREE DOTS ABOVEcNGcNG FINAL FORMdINITIAL FORMdISOLATED FORMdMEDIAL FORMcNGOEH",
  "cNGOEH FINAL FORMdINITIAL FORMdISOLATED FORMdMEDIAL FORMcNOONcNOON FINAL FORMdGHUNNA",
  "dGHUNNA FINAL FORMeISOLATED FORMdINITIAL FORMdISOLATED FORMdMEDIAL FORMdWITH DOT BELOW",
  "eINVERTED SMALL VeRINGeSMALL TAHfVeTHREE DOTS ABOVEeTWO DOTS BELOWcNYEHcNYEH FINAL FORM",
  "dINITIAL FORMdISOLATED FORMdMEDIAL FORMcOEcOE FINAL FORMdISOLATED FORMcPEHcPEH FINAL FORM",
  "dINITIAL FORMdISOLATED FORMdMEDIAL FORMdWITH SMALL MEEM ABOVEfVcPEHEHcPEHEH FINAL FORM",
  "dINITIAL FORMdISOLATED FORMdMEDIAL FORMcQAFcQAF FINAL FORMdINITIAL FORMdISOLATED FORM",
  "dMEDIAL FORMdWITH DOT ABOVEfBELOWfBELOW AND NO DOTS ABOVEeTHREE DOTS ABOVEcREHcREH FINAL FORM",
  "dISOLATED FORMdWITH DOT BELOWfBELOW AND DOT ABOVEeFOUR DOTS ABOVEeHAMZA ABOVEeINVERTED VeLOOP",
  "eRINGeSMALL ARABIC LETTER TAH AND TWO DOTSfNOON ABOVEfVfV BELOWeSTROKEeTWO DOTS ABOVE",
  "gVERTICALLY ABOVEcRNOONcRNOON FINAL FORMdINITIAL FORMdISOLATED FORMdMEDIAL FORMcROHINGYA YEH",
  "cRREHcRREH FINAL FORMdISOLATED FORMcSADcSAD FINAL FORMdINITIAL FORMdISOLATED FORMdMEDIAL FORM",
  "dWITH THREE DOTS ABOVEgBELOWeTWO DOTS BELOWcSEENcSEEN FINAL FORMdINITIAL FORMdISOLATED FORM",
  "dMEDIAL FORMdWITH DOT BELOW AND DOT ABOVEeEXTENDED ARABIC-INDIC DIGIT FOUR ABOVE",
  "eFOUR DOTS ABOVEeINVERTED VeSMALL ARABIC LETTER TAH AND TWO DOTSeTHREE DOTS BELOW",
  "gBELOW AND THREE DOTS ABOVEeTWO DOTS VERTICALLY ABOVEcSHEENcSHEEN FINAL FORMdINITIAL FORM",
  "dISOLATED FORMdMEDIAL FORMdWITH DOT BELOWcSTRAIGHT WAWcSUPERSCRIPT ALEFcSWASH KAFcTAH",
  "cTAH FINAL FORMdINITIAL FORMdISOLATED FORMdMEDIAL FORMdWITH DOT BELOWeTHREE DOTS ABOVEgBELOW",
  "eTWO DOTS ABOVEcTCHEHcTCHEH FINAL FORMdINITIAL FORMdISOLATED FORMdMEDIAL FORMdWITH DOT ABOVE",
  "eSMALL VcTCHEHEHcTCHEHEH FINAL FORMdINITIAL FORMdISOLATED FORMdMEDIAL FORMcTEHcTEH FINAL FORM",
  "dINITIAL FORMdISOLATED FORMdMARBUTAdMARBUTA FINAL FORMeGOALeISOLATED FORMdMEDIAL FORMdWITH RING",
  "eSMALL TEH ABOVEfVeTHREE DOTS ABOVE DOWNWARDScTEHEHcTEHEH FINAL FORMdINITIAL FORMdISOLATED FORM",
  "dMEDIAL FORMcTHALcTHAL FINAL FORMdISOLATED FORMcTHEHcTHEH FINAL FORMdINITIAL FORMdISOLATED FORM",
  "dMEDIAL FORMcTHIN YEHcTTEHcTTEH FINAL FORMdINITIAL FORMdISOLATED FORMdMEDIAL FORMdWITH SMALL V",
  "cTTEHEHcTTEHEH FINAL FORMdINITIAL FORMdISOLATED FORMdMEDIAL FORMcUcU FINAL FORMdISOLATED FORM",
  "dWITH HAMZA ABOVEfABOVE ISOLATED FORMcUIGHUR KAZAKH KIRGHIZ ALEF MAKSURA INITIAL FORM",
  "hMEDIAL FORMcVEcVE FINAL FORMdISOLATED FORMcVEHcVEH FINAL FORMdINITIAL FORMdISOLATED FORM",
  "dMEDIAL FORMcWAWcWAW FINAL FORMdISOLATED FORMdWITH DOT ABOVEfWITHIN",
  "eEXTENDED ARABIC-INDIC DIGIT THREE ABOVEiTWO ABOVEeHAMZA ABOVEfABOVE FINAL FORMgISOLATED FORM",
  "eRINGeTWO DOTS ABOVEcYEHcYEH BARREEdBARREE FINAL FORMeISOLATED FORM",
  "eWITH EXTENDED ARABIC-INDIC DIGIT THREE ABOVEjTWO ABOVEfHAMZA ABOVEgABOVE FINAL FORM",
  "hISOLATED FORMdFINAL FORMdINITIAL FORMdISOLATED FORMdMEDIAL FORMdWITH HAMZA ABOVE",
  "fABOVE FINAL FORMgINITIAL FORMgISOLATED FORMgMEDIAL FORMeSMALL VeTAILeTHREE DOTS BELOW",
  "eTWO DOTS BELOW AND DOT ABOVEiHAMZA ABOVEiSMALL NOON ABOVEcYUcYU FINAL FORMdISOLATED FORMcZAH",
  "cZAH FINAL FORMdINITIAL FORMdISOLATED FORMdMEDIAL FORMcZAINcZAIN FINAL FORMdISOLATED FORM",
  "dWITH INVERTED V ABOVEbLIGATURE AIN WITH ALEF MAKSURA FINAL FORMgISOLATED FORM",
  "eJEEM INITIAL FORMfISOLATED FORMfWITH MEEM FINAL FORMhINITIAL FORMeMEEM INITIAL FORM",
  "fISOLATED FORMfWITH ALEF MAKSURA FINAL FORMgMEEM FINAL FORMhINITIAL FORMgYEH FINAL FORM",
  "eYEH FINAL FORMfISOLATED FORMcAKBAR ISOLATED FORMcALAYHAA AS-SALAAMcALAYHE ISOLATED FORM",
  "cALAYHI AS-SALAAMeSALAATU WAS-SALAAMcALAYHIM AS-SALAAMcALAYHIMAA AS-SALAAM",
  "cALEF MAKSURA WITH SUPERSCRIPT ALEF FINAL FORMhISOLATED FORMdWITH FATHATAN FINAL FORM",
  "fISOLATED FORMcALLAH ISOLATED FORMcAZZA WA JALLcBEH WITH ALEF MAKSURA FINAL FORMgISOLATED FORM",
  "eHAH INITIAL FORMfISOLATED FORMfWITH YEH FINAL FORMeHEH INITIAL FORMfMEDIAL FORM",
  "eJEEM INITIAL FORMfISOLATED FORMeKHAH INITIAL FORMfISOLATED FORMfWITH YEH FINAL FORM",
  "eMEEM FINAL FORMfINITIAL FORMfISOLATED FORMfMEDIAL FORMeNOON FINAL FORMeREH FINAL FORM",
  "eYEH FINAL FORMfISOLATED FORMeZAIN FINAL FORMcBISMILLAH AR-RAHMAN AR-RAHEEM",
  "cDAD WITH ALEF MAKSURA FINAL FORMgISOLATED FORMeHAH INITIAL FORMfISOLATED FORM",
  "fWITH ALEF MAKSURA FINAL FORMgYEH FINAL FORMeJEEM INITIAL FORMfISOLATED FORMeKHAH INITIAL FORM",
  "fISOLATED FORMfWITH MEEM FINAL FORMhINITIAL FORMeMEEM INITIAL FORMfISOLATED FORMeREH FINAL FORM",
  "fISOLATED FORMeYEH FINAL FORMfISOLATED FORMcFEH WITH ALEF MAKSURA FINAL FORMgISOLATED FORM",
  "eHAH INITIAL FORMfISOLATED FORMeJEEM INITIAL FORMfISOLATED FORMeKHAH INITIAL FORMfISOLATED FORM",
  "fWITH MEEM FINAL FORMhINITIAL FORMeMEEM INITIAL FORMfISOLATED FORMfWITH YEH FINAL FORM",
  "eYEH FINAL FORMfISOLATED FORMcGHAIN WITH ALEF MAKSURA FINAL FORMgISOLATED FORM",
  "eJEEM INITIAL FORMfISOLATED FORMeMEEM INITIAL FORMfISOLATED FORMfWITH ALEF MAKSURA FINAL FORM",
  "gMEEM FINAL FORMgYEH FINAL FORMeYEH FINAL FORMfISOLATED FORMcHAH WITH ALEF MAKSURA FINAL FORM",
  "gISOLATED FORMeJEEM INITIAL FORMfISOLATED FORMfWITH YEH FINAL FORMeMEEM INITIAL FORM",
  "fISOLATED FORMfWITH ALEF MAKSURA FINAL FORMgYEH FINAL FORMeYEH FINAL FORMfISOLATED FORM",
  "cHEH WITH ALEF MAKSURA ISOLATED FORMeJEEM INITIAL FORMfISOLATED FORMeMEEM INITIAL FORM",
  "fISOLATED FORMfWITH JEEM INITIAL FORMgMEEM INITIAL FORMeSUPERSCRIPT ALEF INITIAL FORM",
  "eYEH ISOLATED FORMcJALLAJALALOUHOUcJEEM WITH ALEF MAKSURA FINAL FORMgISOLATED FORM",
  "eHAH INITIAL FORMfISOLATED FORMfWITH ALEF MAKSURA FINAL FORMgYEH FINAL FORMeMEEM INITIAL FORM",
  "fISOLATED FORMfWITH ALEF MAKSURA FINAL FORMgHAH FINAL FORMhINITIAL FORMgYEH FINAL FORM",
  "eYEH FINAL FORMfISOLATED FORMcKAF WITH ALEF FINAL FORMfISOLATED FORMfMAKSURA FINAL FORM",
  "gISOLATED FORMeHAH INITIAL FORMfISOLATED FORMeJEEM INITIAL FORMfISOLATED FORMeKHAH INITIAL FORM",
  "fISOLATED FORMeLAM FINAL FORMfINITIAL FORMfISOLATED FORMfMEDIAL FORMeMEEM FINAL FORM",
  "fINITIAL FORMfISOLATED FORMfMEDIAL FORMfWITH MEEM FINAL FORMhINITIAL FORMgYEH FINAL FORM",
  "eYEH FINAL FORMfISOLATED FORMcKHAH WITH ALEF MAKSURA FINAL FORMgISOLATED FORMeHAH ISOLATED FORM",
  "eJEEM INITIAL FORMfISOLATED FORMeMEEM INITIAL FORMfISOLATED FORMeYEH FINAL FORMfISOLATED FORM",
  "cLAM WITH ALEF FINAL FORMfISOLATED FORMfMAKSURA FINAL FORMgISOLATED FORM",
  "fWITH HAMZA ABOVE FINAL FORMiISOLATED FORMhBELOW FINAL FORMiISOLATED FORM",
  "gMADDA ABOVE FINAL FORMiISOLATED FORMeHAH INITIAL FORMfISOLATED FORM",
  "fWITH ALEF MAKSURA FINAL FORMgMEEM FINAL FORMhINITIAL FORMgYEH FINAL FORMeHEH INITIAL FORM",
  "eJEEM INITIAL FORMfISOLATED FORMfWITH JEEM FINAL FORMhINITIAL FORMgMEEM FINAL FORMhINITIAL FORM",
  "gYEH FINAL FORMeKHAH INITIAL FORMfISOLATED FORMfWITH MEEM FINAL FORMhINITIAL FORM",
  "eMEEM FINAL FORMfINITIAL FORMfISOLATED FORMfMEDIAL FORMfWITH HAH FINAL FORMhINITIAL FORM",
  "gYEH FINAL FORMeYEH FINAL FORMfISOLATED FORMcMEEM WITH ALEF FINAL FORMfMAKSURA ISOLATED FORM",
  "eHAH INITIAL FORMfISOLATED FORMfWITH JEEM INITIAL FORMgMEEM INITIAL FORMgYEH FINAL FORM",
  "eJEEM INITIAL FORMfISOLATED FORMfWITH HAH INITIAL FORMgKHAH INITIAL FORMgMEEM INITIAL FORM",
  "gYEH FINAL FORMeKHAH INITIAL FORMfISOLATED FORMfWITH JEEM INITIAL FORMgMEEM INITIAL FORM",
  "gYEH FINAL FORMeMEEM FINAL FORMfINITIAL FORMfISOLATED FORMfWITH YEH FINAL FORM",
  "eYEH ISOLATED FORMcMOHAMMAD ISOLATED FORMcNOON WITH ALEF MAKSURA FINAL FORMgISOLATED FORM",
  "eHAH INITIAL FORMfISOLATED FORMfWITH ALEF MAKSURA FINAL FORMgMEEM INITIAL FORMgYEH FINAL FORM",
  "eHEH INITIAL FORMfMEDIAL FORMeJEEM INITIAL FORMfISOLATED FORMfWITH ALEF MAKSURA FINAL FORM",
  "gHAH FINAL FORMhINITIAL FORMgMEEM FINAL FORMhINITIAL FORMgYEH FINAL FORMeKHAH INITIAL FORM",
  "fISOLATED FORMeMEEM FINAL FORMfINITIAL FORMfISOLATED FORMfMEDIAL FORM",
  "fWITH ALEF MAKSURA FINAL FORMgYEH FINAL FORMeNOON FINAL FORMeREH FINAL FORMeYEH FINAL FORM",
  "fISOLATED FORMeZAIN FINAL FORMcQAF WITH ALEF MAKSURA FINAL FORMgISOLATED FORMeHAH INITIAL FORM",
  "fISOLATED FORMeMEEM INITIAL FORMfISOLATED FORMfWITH HAH FINAL FORMhINITIAL FORMgMEEM FINAL FORM",
  "gYEH FINAL FORMeYEH FINAL FORMfISOLATED FORMcQALA USED AS KORANIC STOP SIGN ISOLATED FORM",
  "cQUDDISA SIRRAHcRADI ALLAAHU ANHeANHAAeANHUMeANHUMAAeANHUNNAcRAHIMAHU ALLAAHcRAHIMAHUM ALLAAH",
  "cRASOUL ISOLATED FORMcREH WITH SUPERSCRIPT ALEF ISOLATED FORMcSAD WITH ALEF MAKSURA FINAL FORM",
  "gISOLATED FORMeHAH INITIAL FORMfISOLATED FORMfWITH HAH FINAL FORMhINITIAL FORMgYEH FINAL FORM",
  "eKHAH INITIAL FORMeMEEM INITIAL FORMfISOLATED FORMfWITH MEEM FINAL FORMhINITIAL FORM",
  "eREH FINAL FORMfISOLATED FORMeYEH FINAL FORMfISOLATED FORMcSALAAMUHU ALAYNAA",
  "cSALAM ISOLATED FORMcSALLA ISOLATED FORMdUSED AS KORANIC STOP SIGN ISOLATED FORM",
  "cSALLALLAAHU ALAYHI WA-AALIHcSALLALLAHOU ALAYHE WASALLAMcSALLALLAHU ALAYHI WAAALIHEE WA-SALLAM",
  "cSEEN WITH ALEF MAKSURA FINAL FORMgISOLATED FORMeHAH INITIAL FORMfISOLATED FORMfMEDIAL FORM",
  "fWITH JEEM INITIAL FORMeHEH INITIAL FORMfMEDIAL FORMeJEEM INITIAL FORMfISOLATED FORM",
  "fMEDIAL FORMfWITH ALEF MAKSURA FINAL FORMgHAH INITIAL FORMeKHAH INITIAL FORMfISOLATED FORM",
  "fMEDIAL FORMfWITH ALEF MAKSURA FINAL FORMgYEH FINAL FORMeMEEM INITIAL FORMfISOLATED FORM",
  "fMEDIAL FORMfWITH HAH FINAL FORMhINITIAL FORMgJEEM INITIAL FORMgMEEM FINAL FORMhINITIAL FORM",
  "eREH FINAL FORMfISOLATED FORMeYEH FINAL FORMfISOLATED FORMcSHADDA WITH DAMMA ISOLATED FORM",
  "fMEDIAL FORMeDAMMATAN ISOLATED FORMeFATHA ISOLATED FORMfMEDIAL FORMeKASRA ISOLATED FORM",
  "fMEDIAL FORMeKASRATAN ISOLATED FORMeSUPERSCRIPT ALEF ISOLATED FORM",
  "cSHEEN WITH ALEF MAKSURA FINAL FORMgISOLATED FORMeHAH FINAL FORMfINITIAL FORMfISOLATED FORM",
  "fMEDIAL FORMfWITH MEEM FINAL FORMhINITIAL FORMgYEH FINAL FORMeHEH INITIAL FORMfMEDIAL FORM",
  "eJEEM FINAL FORMfINITIAL FORMfISOLATED FORMfMEDIAL FORMfWITH YEH FINAL FORMeKHAH FINAL FORM",
  "fINITIAL FORMfISOLATED FORMfMEDIAL FORMeMEEM FINAL FORMfINITIAL FORMfISOLATED FORMfMEDIAL FORM",
  "fWITH KHAH FINAL FORMhINITIAL FORMgMEEM FINAL FORMhINITIAL FORMeREH FINAL FORMfISOLATED FORM",
  "eYEH FINAL FORMfISOLATED FORMcSUBHAANAHU WA TAAALAAcTABAARAKA WA-TAAALAA",
  "cTAH WITH ALEF MAKSURA FINAL FORMgISOLATED FORMeHAH INITIAL FORMfISOLATED FORM",
  "eMEEM INITIAL FORMfISOLATED FORMfMEDIAL FORMfWITH HAH FINAL FORMhINITIAL FORMgMEEM INITIAL FORM",
  "gYEH FINAL FORMeYEH FINAL FORMfISOLATED FORMcTEH WITH ALEF MAKSURA FINAL FORMgISOLATED FORM",
  "eHAH INITIAL FORMfISOLATED FORMfWITH JEEM FINAL FORMhINITIAL FORMgMEEM INITIAL FORM",
  "eHEH INITIAL FORMfMEDIAL FORMeJEEM INITIAL FORMfISOLATED FORMfWITH ALEF MAKSURA FINAL FORM",
  "gMEEM INITIAL FORMgYEH FINAL FORMeKHAH INITIAL FORMfISOLATED FORMfWITH ALEF MAKSURA FINAL FORM",
  "gMEEM INITIAL FORMgYEH FINAL FORMeMEEM FINAL FORMfINITIAL FORMfISOLATED FORMfMEDIAL FORM",
  "fWITH ALEF MAKSURA FINAL FORMgHAH INITIAL FORMgJEEM INITIAL FORMgKHAH INITIAL FORM",
  "gYEH FINAL FORMeNOON FINAL FORMeREH FINAL FORMeYEH FINAL FORMfISOLATED FORMeZAIN FINAL FORM",
  "cTHAL WITH SUPERSCRIPT ALEF ISOLATED FORMcTHEH WITH ALEF MAKSURA FINAL FORMgISOLATED FORM",
  "eHEH MEDIAL FORMeJEEM ISOLATED FORMeMEEM FINAL FORMfINITIAL FORMfISOLATED FORMfMEDIAL FORM",
  "eNOON FINAL FORMeREH FINAL FORMeYEH FINAL FORMfISOLATED FORMeZAIN FINAL FORM",
  "cUIGHUR KIRGHIZ YEH WITH HAMZA ABOVE WITH ALEF MAKSURA FINAL FORMlINITIAL FORMlISOLATED FORM",
  "cWASALLAM ISOLATED FORMcYEH WITH ALEF MAKSURA FINAL FORMgISOLATED FORMeHAH INITIAL FORM",
  "fISOLATED FORMfWITH YEH FINAL FORMeHAMZA ABOVE WITH AE FINAL FORMiISOLATED FORMhALEF FINAL FORM",
  "iISOLATED FORMiMAKSURA FINAL FORMjISOLATED FORMhE FINAL FORMiINITIAL FORMiISOLATED FORM",
  "hHAH INITIAL FORMiISOLATED FORMhHEH INITIAL FORMiMEDIAL FORMhJEEM INITIAL FORMiISOLATED FORM",
  "hKHAH INITIAL FORMhMEEM FINAL FORMiINITIAL FORMiISOLATED FORMiMEDIAL FORMhNOON FINAL FORM",
  "hOE FINAL FORMiISOLATED FORMhREH FINAL FORMhU FINAL FORMiISOLATED FORMhWAW FINAL FORM",
  "iISOLATED FORMhYEH FINAL FORMiISOLATED FORMhYU FINAL FORMiISOLATED FORMhZAIN FINAL FORM",
  "eHEH INITIAL FORMfMEDIAL FORMeJEEM INITIAL FORMfISOLATED FORMfWITH YEH FINAL FORM",
  "eKHAH INITIAL FORMfISOLATED FORMeMEEM FINAL FORMfINITIAL FORMfISOLATED FORMfMEDIAL FORM",
  "fWITH MEEM FINAL FORMhINITIAL FORMgYEH FINAL FORMeNOON FINAL FORMeREH FINAL FORMeYEH FINAL FORM",
  "fISOLATED FORMeZAIN FINAL FORMcZAH WITH MEEM INITIAL FORMfISOLATED FORMfMEDIAL FORM",
  "bMADDA WAAJIBbMADDAH ABOVEbMARK NOON GHUNNAcSIDEWAYS NOON GHUNNAbMATHEMATICAL AINcALEFcBEHcDAD",
  "cDALcDOTLESS BEHdFEHdNOONdQAFcDOUBLE-STRUCK AINeBEHeDADeDALeFEHeGHAINeHAHeJEEMeKHAHeLAMeMEEM",
  "eNOONeQAFeREHeSADeSEENeSHEENeTAHeTEHeTHALeTHEHeWAWeYEHeZAHeZAINcFEHcGHAINcHAHcINITIAL AINdBEH",
  "dDADdFEHdGHAINdHAHdHEHdJEEMdKAFdKHAHdLAMdMEEMdNOONdQAFdSADdSEENdSHEENdTEHdTHEHdYEHcJEEMcKAF",
  "cKHAHcLAMcLOOPED AINdALEFdBEHdDADdDALdFEHdGHAINdHAHdHEHdJEEMdKHAHdLAMdMEEMdNOONdQAFdREHdSAD",
  "dSEENdSHEENdTAHdTEHdTHALdTHEHdWAWdYEHdZAHdZAINcMEEMcNOONcOPERATOR HAH WITH DAL",
  "dMEEM WITH HAH WITH TATWEELcQAFcREHcSADcSEENcSHEENcSTRETCHED AINdBEHdDADdDOTLESS BEHeFEHdFEH",
  "dGHAINdHAHdHEHdJEEMdKAFdKHAHdMEEMdNOONdQAFdSADdSEENdSHEENdTAHdTEHdTHEHdYEHdZAHcTAHcTAILED AIN",
  "dDADdDOTLESS NOONeQAFdGHAINdHAHdJEEMdKHAHdLAMdNOONdQAFdSADdSEENdSHEENdYEHcTEHcTHALcTHEHcWAWcYEH",
  "cZAHcZAINbNUMBER MARK ABOVEcSIGNbOPEN DAMMATANcFATHATANcKASRATANbPERCENT SIGN",
  "bPIASTRE MARK ABOVEbPLACE OF SAJDAHbPOETIC VERSE SIGNbPOUND MARK ABOVEbQUESTION MARK",
  "bRAISED ROUND DOTbRAYbREVERSED DAMMAbRIGHT ARROWHEAD ABOVEdABOVE WITH DOTdBELOW",
  "bROUNDED HIGH STOP WITH FILLED CENTREbSEMICOLONbSHADDAbSHADDA ISOLATED FORMcMEDIAL FORM",
  "bSIGN ALAYHE ASSALLAMcMISRAcRADI ALLAHOU ANHUcRAHMATULLAH ALAYHEcSAFHA",
  "cSALLALLAHOU ALAYHE WASSALLAMcSAMVATcSANAHcSINDHI AMPERSANDdPOSTPOSITION MENcTAKHALLUS",
  "bSMALL DAMMAcFARSI YEHcFATHAcHIGH AINdDOTLESS HEAD OF KHAHdFARSI YEHdFOOTNOTE MARKERdJEEM",
  "dLAM ALEFdLIGATURE ALEF WITH LAM WITH YEHeQAF WITH LAM WITH ALEF MAKSURA",
  "eSAD WITH LAM WITH ALEF MAKSURAdMADDAdMEEM INITIAL FORMeISOLATED FORMdNOONdNOON WITH KASRAdQAF",
  "dROUNDED ZEROdSADdSEENdSIGN SAFHAdTAHdTHREE DOTSdUPRIGHT RECTANGULAR ZEROdWAWdWORD AL-JUZ",
  "eAN-NISFeAR-RUBeAS-SAJDAeATH-THALATHAeQIFeSAHeSAKTAeWAQFAdYEHdYEH BARREE WITH TWO DOTS BELOW",
  "dZAHdZAINcKASRAcLOW MEEMdNOON WITH KASRAdSEENdWAWdWORD IMAALAeISHMAAMeTASHEELcWAWcYEH",
  "bSTART OF RUB EL HIZBbSUBSCRIPT ALEFbSUKUNbSUKUN BELOWcISOLATED FORMcMEDIAL FORM",
  "bSUPERSCRIPT ALEF MOKHASSASbSYMBOL DOT ABOVEdBELOWcDOUBLE VERTICAL BAR BELOWcFOUR DOTS ABOVE",
  "eBELOWcRINGcSMALL TAH ABOVEeBELOWcTHREE DOTS ABOVEeBELOWePOINTING DOWNWARDS ABOVEgBELOW",
  "cTWO DOTS ABOVEeBELOWeVERTICALLY ABOVEfBELOWcWASLA ABOVEbTAIL FRAGMENTbTATWEEL",
  "bTATWEEL WITH FATHATAN ABOVEdOVERSTRUCK HAMZAeWAWdTWO DOTS BELOWbTHOUSANDS SEPARATOR",
  "bTONE LOOP ABOVEdBELOWcONE DOT ABOVEeBELOWcTWO DOTS ABOVEeBELOWbTRIPLE DOT PUNCTUATION MARK",
  "bTURNED DAMMA BELOWbVERTICAL TAILbVOWEL SIGN DOT BELOWdINVERTED SMALL V ABOVEdSMALL V ABOVE",
  "bWAVY HAMZA BELOWbZWARAKAYaARABIC-INDIC CUBE ROOTcDIGIT EIGHTdFIVEdFOURdNINEdONEdSEVENdSIX",
  "dTHREEdTWOdZEROcFOURTH ROOTcPER MILLE SIGNdTEN THOUSAND SIGNaARCaARIES",
  "aARMENIAN ABBREVIATION MARKbAPOSTROPHEbCAPITAL LETTER AYBdBENdCAdCHAdCHEHdCOdDAdECHdEHdETdFEH",
  "dGHADdGIMdHOdINIdJAdJHEHdKEHdKENdLIWNdMENdNOWdOHdPEHdPIWRdRAdREHdSEHdSHAdTIWNdTOdVEWdVOdXEHdYI",
  "dYIWNdZAdZHEbCOMMAbDRAM SIGNbEMPHASIS MARKbEXCLAMATION MARKbFULL STOPbHYPHEN",
  "bMODIFIER LETTER LEFT HALF RINGbQUESTION MARKbSMALL LETTER AYBdBENdCAdCHAdCHEHdCOdDAdECHdEHdET",
  "dFEHdGHADdGIMdHOdINIdJAdJHEHdKEHdKENdLIWNdMENdNOWdOHdPEHdPIWRdRAdREHdSEHdSHAdTIWNdTOdTURNED AYB",
  "dVEWdVOdXEHdYIdYI WITH STROKEdYIWNdZAdZHEcLIGATURE ECH YIWNdMEN ECHeINIeNOWeXEHdVEW NOW",
  "aARROW POINTING DOWNWARDS THEN CURVING LEFTWARDSfRIGHTWARDScRIGHTWARDS THEN CURVING DOWNWARDS",
  "fSOUTH WESTfUPWARDScUPWARDS THEN NORTH WESTaARROWHEAD-SHAPED POINTERaARTICULATED LORRY",
  "aARTIST PALETTEaASCENDING NODEaASCIA SYMBOLaASSERTIONaASTERISKaASTERISK OPERATORaASTERISM",
  "aASTONISHED FACEaASTRAEAaASTRONOMICAL SYMBOL FOR URANUSaASYMPTOTICALLY EQUAL TOaATHLETIC SHOE",
  "aATOM SYMBOLaAUBERGINEaAUSTRAL SIGNaAUTO RICKSHAWaAUTOMATED TELLER MACHINEaAUTOMOBILE",
  "aAVESTAN ABBREVIATION MARKbLETTER AcAAcAANcAAOcAEcAEEcANcAOcBEcBHEcCEcDEcDHEcEcEEcFEcGEcGGEcGHE",
  "cHEcHMEcIcIIcJEcKEcLEcMEcNEcNGEcNGVEcNGYEcNNEcNYEcOcOOcPEcREcSEcSHEcSHYEcSSHEcTEcTHEcTTEcUcUU",
  "cVEcXEcXVEcXYEcYEcYYEcZEcZHEaAVOCADOaAXE"]

def namesInB : List String := [
  "aBABYaBABY ANGELbBOTTLEbCHICKbSYMBOLaBACK OF ENVELOPEbWITH LEFTWARDS ARROW ABOVE",
  "aBACK-TILTED SHADOWED WHITE RIGHTWARDS ARROWaBACKSLANTED SOUTH ARROW WITH HOOKED TAIL",
  "eHORIZONTAL TAILaBACKSPACEaBACONaBACTRIAN CAMELaBADGERaBADMINTON RACQUET AND SHUTTLECOCKaBAGEL",
  "aBAGGAGE CLAIMaBAGUETTE BREADaBALINESE ADEG ADEGbCARIK PAMUNGKAHcPARERENcSIKIbDIGIT EIGHTcFIVE",
  "cFOURcNINEcONEcSEVENcSIXcTHREEcTWOcZERObLETTER AIKARAcAKARAcAKARA TEDUNGcARCHAIC JNYA",
  "cASYURA SASAKcBAcBA KEMBANGcCAcCA LACAcDAcDA MADUdMURDA ALPAPRANAeMAHAPRANAcEF SASAKcEKARAcGA",
  "cGA GORAcHAcIKARAcIKARA TEDUNGcJAcJA JERAcKAcKA MAHAPRANAcKAF SASAKcKHOT SASAKcLAcLA LENGA",
  "dLENGA TEDUNGcMAcNAcNA RAMBATcNGAcNYAcOKARAcOKARA TEDUNGcPAcPA KAPALcRAcRA REPAdREPA TEDUNGcSA",
  "cSA SAGAdSAPAcTAcTA LATIKdMURDA MAHAPRANAdTAWAcTZIR SASAKcUKARAcUKARA TEDUNGcVE SASAKcWAcYA",
  "cZAL SASAKbMUSICAL SYMBOL COMBINING BENDEeENDEPeGONGeJEGOGANeKEMPLIeKEMPLI WITH JEGOGANeKEMPUL",
  "eKEMPUL WITH JEGOGANeTEGEHdDAENGdDAINGdDANGdDANG GEDEeSURANGdDENGdDEUNGdDINGdDONGdDUNG",
  "dLEFT-HAND CLOSED PLAKgPLUKfOPEN PANGgPINGgPUNGdRIGHT-HAND CLOSED TAKgTUKfOPEN DAGgDUGbPAMADA",
  "bPAMADA LANTANGbPAMENENGbPANTIbPANTI LANTANGbSIGN BISAHcCECEKcREREKANcSURANGcULU CANDRAdRICEM",
  "bVOWEL SIGN LA LENGAeLENGA TEDUNGdPEPETdPEPET TEDUNGdRA REPAeREPA TEDUNGdSUKUdSUKU ILUTdTALING",
  "dTALING REPAeREPA TEDUNGeTEDUNGdTEDUNGdULUdULU SARIbWINDUaBALL OF YARNaBALLET SHOESaBALLOON",
  "aBALLOON-SPOKED ASTERISKaBALLOT BOLD SCRIPT XbBOXbBOX WITH BALLOTdBOLD CHECKeSCRIPT XdCHECK",
  "dLIGHT XdSCRIPT XdXbSCRIPT XbXaBAMUM COLONbCOMBINING MARK KOQNDONdTUKWENTISbCOMMAbFULL STOP",
  "bLETTER AcEEcFAAMAEcFEEcFOMcFUcIcKAcKENcKETcKEUXcKIcKOcKOGHOMcKOVUUcKPAcKUcKYEEcLAcLEEEEcLIcLOQ",
  "cLUcMcMAcMBAAcMBENcMEEEEcMENcMIcMOcMUcNAcNDAAcNGAcNGGAcNGKWAENcNIcNJAEMcNJEEcNJUAEcNSHAcNTEE",
  "cNTUUcNUcNUAEcNYIcOcPAcPEEcPEUXcPHASE-A FIRIeGBIEE FONeGHEUAEGHEUAEeGHEUAERAEeKAFAeKAQeKET",
  "eKEUKEUTNDAeKPOQeKUOQeLAPAQeLET KUTeLOMMAEeLUeLUAEPeMAEKEUPeMAEMeMAEMBGBIEEeMAEMKPENeMAEMVEUX",
  "eMAENYIeMAESIeMANSUAEeMAP PIEETeMBANYIeMBAQeMEUNJOMNDEUQeMGBASAeMON NGGEUAETeMOOMEUTeMOOMPUQ",
  "eMVEUAENGAMeNAA MFONeNAQeNDA LEERAEWAeNDAANGGEUAETeNENeNGANGUeNGGENeNGKUE MFONeNGKUENZEUMeNIKA",
  "eNJAMeNKAARAEeNKINDIeNSHAeNSHIEEeNTAPeNTAP MFAAfNTAAeNTOQPENeNYETeNYIeNYIT MONGKEUAEQeNZA MFON",
  "eNZUN MEUTePA LEERAEWAePAAMePAARAEePAMSHAEePASHAEePETePON MFON PIPAEMBAgPIPAEMGBIEE",
  "fPA NJI PIPAEMBAhPIPAEMGBIEEePUPeROMeSEUNYAMeSHINDA PA NJIeSHIRAEeSHOQ NSHUT YUMeSHUENSHUET",
  "eSHUMeSISAeSONJAMeSOQeSOTeSUUeTEUAENeTEUTEUWENeTITA MFONeTU MAEMBAeTUAEPeU YUQ NAEeUNKNOWNeVEE",
  "dB FEEeFEUXeGHEUGHENeGHEUGHEUAEMeKAMeKEUAEMeKEUPUQeKEUYEUXeKIEEMeKIQeLAANAEeLAM NSHUT NYAMeLET",
  "eLOM NTEUMeMAeMA NJEUAENAfNJUQAeMBA MAELEEeMBAARAEeMBEURIeMBIT MBAAKETeMBUOQeMEUQeMEUT NGGEET",
  "eMFIYAQeMFON TEUAEQeMONTIEENeNDU NJAAeNGGAAMeNGGEU MBUeNGGUOQeNGGUOQ LARGEeNGKINDI MVOPeNGOM",
  "eNSENeNSHUETeNTIEE SHEUOQeNYAEMAEeNYI NTEUMePARUMePEESHIePITePUNGAAMeSAKEUAEeSET TUeSHET NJAQ",
  "eSHEUAEQTUeSIEEeSUEeTAAMeTU MAEMGBIEEfNSIEEeVEUMeWUAETeYAFU LEERAEWAeYEURAEdC BUNGeFUEeGBAYI",
  "eGHAPeGHARAEeKAAeKEN FATIGUEfLAWeKETeKEUKAQeKEUMeKEUSEUXeKEUSHEUAEPeKPARAQeKUOP NKAARAEeKUTeLAM",
  "eLAPeLIQeLUeMA KEUAERIfNSIEEeMAEMBAeMAESIeMBAA CABBAGE-TREEfPICKETeMBANYIeMBEEKEETeMBERAEeMBEUM",
  "eMBEUXeMBIeMBIRIEENeMBITeMBUAEMeMBUEeMGBASAQeMIEEeMUAEeNANSANAQeNAQeNDAMeNDAPeNDEUAEREEeNDEUT",
  "eNDIDAeNDOMBUeNGAQeNGGENeNGGUeNGGUAEN NYAMeNGGUEETeNGGUMeNGGUONeNGKAQeNGKUE MAEMBAeNGOMeNJAEM",
  "eNJAMeNJEEEEeNJEUXeNJUEQeNSAeNSEUAENeNSHAQeNSOMeNSUNeNSUOT NGOMeNTAAeNTENeNTEUNGBAeNTU MBIT",
  "eNYIR MKPARAQ MEUNeNZAeNZEUMePENePINePIRIEENeRUeSETFONeSEUXeSHIQeSHUEQeSUAETeTAASHAEeTET",
  "eTEUTEUXeTITA YUEeTITUAEPeVEUAEPENeVEUXeWANGKUOQeWUPeYAAeYEUQeYU MUOMAEeYUMeYUWOQdD FAA",
  "eFEUFEUAETeGHAAeGHEUAEeKETeKEUAETMEUNeKEUMeKEUOT MBUAEeKEUPeKUeKUNeKUOMeKUQeKWAETeKYEEeLEEEE",
  "eLETeLEUAEPeLEUMeLIEEeLOQeLUMeMeMAENJETeMALEERIeMBAAeMBAA SEVENeMBUOeMEEEEeMEUNeMEUTeMFEUAE",
  "eMFEUTeMFIEEeMFOeMFONeMGBEUNeMGBIEEeMGBOFUMeMONIeMUeMVOPeNDAMeNDEEeNDEUXeNDONeNGGAAMeNGGAAMAE",
  "eNGGAPeNGGEUXeNGGUOMeNGGWAENeNGKAPeNGKEUAEQeNGKEURIeNGKIEEeNGKUNeNGKYEEeNIeNJAPeNJEUAEMeNJEUT",
  "eNJIeNJIEEeNJUEQeNSHEEeNSHUTeNSIEEPeNSIEETeNSUMeNTEEeNTEUMeNTUUeNUeNYAMeNYETeNYIeNYUEePAPePEE",
  "ePEUTAEePIPePUQePUUTeRAEMeREN MUCHfOLDeRIIeSAPeSAQeSEUAEQeSHEEeSHEUAEeSHEUXeSHIIeSHOQeSHUeSOT",
  "eSUAEeSUEeSUUeTAEeTEEEEeTEUAENeTEUNeTEUTeTIeTOQeTUeTUOTeWAPeWUAENeYAEMMAEeYENeYUOMeYUOPeYUWOQ",
  "dE AeFAeFAQeFEEeFOMeFU CALLfIfREMEDYeFUEeFUETeGBETeGBEUXeGHAAMAEeGHETeGHEUAEeGHEUNeGHEUXeGHOMeI",
  "eKETeKEUAEeKEUXeKIeKOeKPEUXeKUETeKUOPeKUTeLAAMeLAPeLAQeLEUAEMeLOMeLOONeLOOTeLOQeLUeMAeMAEeMAEM",
  "eMAPeMAQeMBEEeMBEUMeMENeMFEUQeMGBAeMGBENeMIeMIEEeMONeMUAEeMVIeNAeNAEeNDAA MY HOUSEfSOFTNESS",
  "eNDAPeNDIAQeNDIQeNDUNeNGAeNGEUREUTeNGGEEEEeNGGEUAEeNGGEUAETeNGGUAESHAE NYAMeNGGUPeNGGURAEeNGKA",
  "eNGKAAMIeNGKEUAEMeNGKEUXeNGKUMeNGKUPeNGOPeNGOQeNGUAEeNGUAETeNJAEMLIeNJEEeNJEE EPOCHeNJEUXeNKOM",
  "eNSHIEEeNSHUEeNSHUOPeNTAPeNTUMeNYI BETWEENfCLEAVEReNZAQeNZUQeOePA PEOPLEfPLURALePAAePAAMePEEM",
  "ePEUTePEUXePIePIEEQePIETePOePOONePUePUAEePUAQePUEePUMeRAEeRAQeREUXeRIMGBAeSAAeSEEeSETeSHEUAEQ",
  "eSHIQeSHOeSHOQeSOMeSUAENeTAAeTAAQeTAEN NTEUMeTAMeTAQeTENeTEUeTEUAEQeTOOeTOONeTOQeTUAEeTUMeTUMAE",
  "eVEEeVEUAEeVOMeWEUXeWUEeWUOeYAPeYEUAEeYEUAETeYEUMeYEUXeYIEEeYITeYOQ COVERfSWIMMINGeYUAENeYUEQ",
  "eYUNeYUQdF EEeFOMeKAeKENeKETeKOeKPAeKUeKYEEeLAeLIeLOQeMeMAeMBAAeMBENeMEEEEeMOeNDAAeNGGAeNGKWAEN",
  "eNIeNJAEMeNJUAEeNSHAeNTEEeNUeNUAEeNYIePEEePEUXePUAEeREEeRENeREUXeRIEEeRIIeRUeSAMBAeSEUXeSHII",
  "eSHOeSHUeSIeSUUeTAAeTAEeTETeUeVUEQeWAeWUEeYAeYOQcPIcPUAEcPUEcRAEcREEcRENcREUXcRIEEcRIIcRUcSAMBA",
  "cSEUXcSHEUXcSHIIcSHOcSHUcSIcSUUcTAAcTAEcTENcTETcTIcUcWAcWUEcYAcYOQcYUQbNJAEMLIbQUESTION MARK",
  "bSEMICOLONaBANANAaBANJOaBANKaBANKNOTE WITH DOLLAR SIGNcEURO SIGNcPOUND SIGNcYEN SIGNaBAR CHART",
  "bOF SOAPaBARBER POLEaBASEBALLaBASKETaBASKETBALL AND HOOPaBASSA VAH COMBINING HIGH TONE",
  "dHIGH-LOW TONEdLOW TONEdLOW-MID TONEdMID TONEcFULL STOPcLETTER AdBAdCEdDHIIdDOdEdEEdENNIdFAdGAH",
  "dGBUdHWAHdIdJOdKAdKPAHdMBEdOdOOdPAdSEdTOdUdUWUdVUdWAdWADDAdYEINdYIEdZOaBAT",
  "aBATAK CONSONANT SIGN HdNGbLETTER AcBAcCAcDAcGAcHAcIcJAcKARO BAcLAcMAcMANDAILING HAdNAdSAcMBA",
  "cNAcNDAcNGAcNORTHERN TAcNYAcPAcPAKPAK WAcRAcSAcSIMALUNGUN AdGAdHAdLAdMAdPAdRAdSAdWAdYA",
  "cSOUTHERN TAcUcWAcYAbPANGOLATbPANONGONANbSIGN TOMPIbSYMBOL BINDU JUDULdNA METEKdPANGOLAT",
  "dPINARBORASbVOWEL SIGN EdEEdIdKARO IeOdOdPAKPAK EdUdU FOR SIMALUNGUN SAaBATHaBATHTUBaBATTERY",
  "aBEACH WITH UMBRELLAaBEAMED ASCENDING MUSICAL NOTESbDESCENDING MUSICAL NOTESbEIGHTH NOTES",
  "bSIXTEENTH NOTESaBEANSaBEAR FACEaBEARDED PERSONaBEATING HEARTaBEAVERaBECAUSEaBEDaBEER MUG",
  "aBEETLEaBELaBELLaBELL PEPPERbSYMBOLbWITH CANCELLATION STROKEaBELLHOP BELL",
  "aBENGALI ABBREVIATION SIGNbANJIbAU LENGTH MARKbCURRENCY DENOMINATOR SIXTEENcNUMERATOR FOURdONE",
  "dONE LESS THAN THE DENOMINATORdTHREEdTWObDIGIT EIGHTcFIVEcFOURcNINEcONEcSEVENcSIXcTHREEcTWO",
  "cZERObGANDA MARKbISSHARbLETTER AcAAcAIcAUcBAcBHAcCAcCHAcDAcDDAcDDHAcDHAcEcGAcGHAcHAcIcIIcJAcJHA",
  "cKAcKHAcKHANDA TAcLAcMAcNAcNGAcNNAcNYAcOcPAcPHAcRAcRA WITH LOWER DIAGONALeMIDDLE DIAGONALcRHA",
  "cRRAcSAcSHAcSSAcTAcTHAcTTAcTTHAcUcUUcVEDIC ANUSVARAcVOCALIC LdLLdRdRRcYAcYYAbRUPEE MARKcSIGN",
  "bSANDHI MARKbSIGN ANUSVARAcAVAGRAHAcCANDRABINDUcNUKTAcVIRAMAcVISARGAbVOWEL SIGN AAdAIdAUdEdIdII",
  "dOdUdUUdVOCALIC LeLLeReRRaBENT ARROW POINTING DOWNWARDS THEN NORTH EASTaBENTO BOXaBENZENE RING",
  "bRING WITH CIRCLEaBET SYMBOLaBETWEENaBEVERAGE BOXaBHAIKSUKI DANDAbDIGIT EIGHTcFIVEcFOURcNINE",
  "cONEcSEVENcSIXcTHREEcTWOcZERObDOUBLE DANDAbGAP FILLER-1d2bHUNDREDS UNIT MARKbLETTER AcAAcAIcAU",
  "cBAcBHAcCAcCHAcDAcDDAcDDHAcDHAcEcGAcGHAcHAcIcIIcJAcJHAcKAcKHAcLAcMAcNAcNGAcNNAcNYAcOcPAcPHAcRA",
  "cSAcSHAcSSAcTAcTHAcTTAcTTHAcUcUUcVAcVOCALIC LdRdRRcYAbNUMBER EIGHTcEIGHTYcFIFTYcFIVEcFORTYcFOUR",
  "cNINEcNINETYcONEcSEVENcSEVENTYcSIXcSIXTYcTENcTHIRTYcTHREEcTWENTYcTWObSIGN ANUSVARAcAVAGRAHA",
  "cCANDRABINDUcVIRAMAcVISARGAbVOWEL SIGN AAdAIdAUdEdIdIIdOdUdUUdVOCALIC LeReRRbWORD SEPARATOR",
  "aBICYCLEaBICYCLISTaBIG REVERSE SOLIDUSbSOLIDUSaBIKINIaBILLED CAPaBILLIARDSaBIOHAZARD SIGNaBIRD",
  "aBIRTHDAY CAKEaBISONaBITCOIN SIGNaBITING LIPaBLACK BOWTIEbCENTRE WHITE STARbCHESS BISHOP",
  "cBISHOP ROTATED NINETY DEGREESeTWO HUNDRED SEVENTY DEGREEScEQUIHOPPER",
  "cEQUIHOPPER ROTATED NINETY DEGREEScKINGcKING ROTATED NINETY DEGREESeTWO HUNDRED SEVENTY DEGREES",
  "cKNIGHTcKNIGHT ROTATED FORTY-FIVE DEGREESeNINETY DEGREESeONE HUNDRED THIRTY-FIVE DEGREES",
  "eTHREE HUNDRED FIFTEEN DEGREESeTWO HUNDRED SEVENTY DEGREESgTWENTY-FIVE DEGREEScKNIGHT-BISHOP",
  "dQUEENdROOKcPAWNcPAWN ROTATED NINETY DEGREESeTWO HUNDRED SEVENTY DEGREEScQUEEN",
  "cQUEEN ROTATED NINETY DEGREESeTWO HUNDRED SEVENTY DEGREEScROOKcROOK ROTATED NINETY DEGREES",
  "eTWO HUNDRED SEVENTY DEGREEScTURNED BISHOPdKINGdKNIGHTdPAWNdQUEENdROOKbCIRCLEbCIRCLE FOR RECORD",
  "cWITH DOWN ARROWdTWO WHITE DOTSdWHITE DOT RIGHTbCLUB SUITbCROSS ON SHIELD",
  "bCURVED DOWNWARDS AND LEFTWARDS ARROWeRIGHTWARDS ARROWcLEFTWARDS AND DOWNWARDS ARROW",
  "eUPWARDS ARROWcRIGHTWARDS AND DOWNWARDS ARROWeUPWARDS ARROWcUPWARDS AND LEFTWARDS ARROW",
  "eRIGHTWARDS ARROWbDIAMONDbDIAMOND CENTREDcMINUS WHITE XcON CROSScSUITcWITH DOWN ARROW",
  "bDOWN POINTING BACKHAND INDEXbDOWN-POINTING DOUBLE TRIANGLEdISOSCELES RIGHT TRIANGLE",
  "dSMALL TRIANGLEdTRIANGLEbDOWNWARDS EQUILATERAL ARROWHEADbDRAUGHTS KINGcMANbDROPLETbFLAG",
  "bFLORETTEbFOLDERbFOUR POINTED STARbHARD SHELL FLOPPY DISKbHEARTbHEART SUITbHEXAGON",
  "bHORIZONTAL ELLIPSEbHOURGLASSbLARGE CIRCLEcSQUAREbLEFT LANE MERGEcPOINTING BACKHAND INDEXdINDEX",
  "bLEFT-POINTING DOUBLE TRIANGLEeTRIANGLE WITH VERTICAL BARdISOSCELES RIGHT TRIANGLEdPOINTER",
  "dSMALL TRIANGLEdTRIANGLEbLEFTWARDS BULLETcEQUILATERAL ARROWHEADbLOWER LEFT TRIANGLE",
  "cRIGHT TRIANGLEbLOZENGEbMEDIUM DIAMONDcDOWN-POINTING TRIANGLEeTRIANGLE CENTRED",
  "cLEFT-POINTING TRIANGLEeTRIANGLE CENTREDcLOZENGEcRIGHT-POINTING TRIANGLEeTRIANGLE CENTRED",
  "cSMALL DIAMONDdLOZENGEdSQUAREcSQUAREcUP-POINTING TRIANGLEeTRIANGLE CENTREDbMOON LILITHbNIB",
  "bOCTAGONbPARALLELOGRAMbPENNANTbPENTAGONbPUSHPINbQUESTION MARK ORNAMENTbRECTANGLE",
  "bRIGHT POINTING BACKHAND INDEXdINDEXbRIGHT-POINTING DOUBLE TRIANGLEeTRIANGLE WITH VERTICAL BAR",
  "dISOSCELES RIGHT TRIANGLEdPENTAGONdPOINTERdSMALL TRIANGLEdTRIANGLE",
  "dTRIANGLE WITH DOUBLE VERTICAL BARbRIGHTWARDS ARROWcARROWHEADcBULLETcEQUILATERAL ARROWHEAD",
  "bROSETTEbSAFETY SCISSORSbSCISSORSbSHOGI PIECEbSKULL AND CROSSBONESbSLIGHTLY SMALL CIRCLEdSQUARE",
  "bSMALL DIAMONDcLOZENGEcSQUAREcSTARbSMILING FACEbSNOWMANbSPADE SUITbSQUAREbSQUARE BUTTONcCENTRED",
  "cFOR STOPbSTARbSUN WITH RAYSbTELEPHONEbTINY DIAMONDcLOZENGEcSQUAREbTOUCHTONE TELEPHONEbTRUCK",
  "bTWO-WAY LEFT WAY TRAFFICbUNIVERSAL RECYCLING SYMBOLbUP POINTING BACKHAND INDEX",
  "bUP-POINTING DOUBLE TRIANGLEdISOSCELES RIGHT TRIANGLEdSMALL TRIANGLEdTRIANGLE",
  "bUPPER LEFT TRIANGLEcRIGHT TRIANGLEbUPWARDS EQUILATERAL ARROWHEADbVERTICAL ELLIPSEcRECTANGLE",
  "bVERY SMALL DIAMONDdLOZENGEdSQUAREaBLACK-FEATHERED NORTH EAST ARROWcRIGHTWARDS ARROW",
  "cSOUTH EAST ARROWbLETTER CAPITAL CdHdIdRdZaBLANK SYMBOLaBLOCK SEXTANT-1c12c123c1234c12345c12346",
  "c1235c12356c1236c124c1245c12456c1246c125c1256c126c13c134c1345c13456c1346c1356c136c14c145c1456",
  "c146c15c156c16c2c23c234c2345c23456c2346c235c2356c236c24c245c2456c25c256c26c3c34c345c3456c346c35",
  "c356c36c4c45c456c46c5c56c6aBLOSSOMaBLOWFISHaBLUE BOOKbHEARTaBLUEBERRIESaBOAR",
  "aBOLD EIGHT SPOKED ASTERISKbFIVE SPOKED ASTERISKbGREEK CROSSbSALTIREbSIX SPOKED ASTERISK",
  "bWHITE CIRCLEcSQUAREaBOMaBOMBaBONEaBOOKaBOOKMARKaBOOKMARK TABSaBOOKSaBOOMERANG",
  "aBOPOMOFO FINAL LETTER GdHdKdPdTbLETTER AcAHcAIcAINNcAMcANcANGcANNcAUcAUNNcBcBUcCcCHcDcEcEEcEH",
  "cEIcENcENGcENNcERcFcGcGHcGNcGUcGWcHcIcIHcIMcINNcINNNcIRcIUcJcJIcKcKWcLcLHcMcNcNGcNGGcNNcO",
  "cO WITH DOT ABOVEcOEcOMcONGcONNcOOcOUcPcQcRcScSHcTcUcUNNcVcXcZcZHcZIcZY",
  "aBOTTLE WITH POPPING CORKaBOTTOM ARC ANTICLOCKWISE ARROWbCURLY BRACKETbHALF BLACK CIRCLE",
  "cINTEGRALcLEFT PARENTHESIScRIGHT PARENTHESISbLEFT CORNERcCROPcHALF BRACKETbPARENTHESIS",
  "bRIGHT CORNERcCROPcHALF BRACKETbSQUARE BRACKETcBRACKET OVER TOP SQUARE BRACKET",
  "bTORTOISE SHELL BRACKETaBOUQUETaBOUQUET OF FLOWERSaBOW AND ARROWaBOWL OF HYGIEIAbWITH SPOON",
  "aBOWLINGaBOWTIEaBOWTIE WITH LEFT HALF BLACKcRIGHT HALF BLACK",
  "aBOX DRAWINGS DOUBLE DOWN AND HORIZONTALfLEFTfRIGHTdHORIZONTALdUP AND HORIZONTALfLEFTfRIGHT",
  "dVERTICALdVERTICAL AND HORIZONTALfLEFTfRIGHTcDOWN DOUBLE AND HORIZONTAL SINGLEfLEFT SINGLE",
  "fRIGHT SINGLEdHEAVY AND HORIZONTAL LIGHTfLEFT LIGHTgUP LIGHTfRIGHT LIGHTgUP LIGHT",
  "fUP HORIZONTAL LIGHTdLIGHT AND HORIZONTAL HEAVYfLEFT HEAVYgUP HEAVYfRIGHT HEAVYgUP HEAVY",
  "fUP HORIZONTAL HEAVYdSINGLE AND HORIZONTAL DOUBLEfLEFT DOUBLEfRIGHT DOUBLE",
  "cHEAVY DOUBLE DASH HORIZONTALfVERTICALdDOWNdDOWN AND HORIZONTALfLEFTfRIGHTdHORIZONTALdLEFT",
  "dLEFT AND LIGHT RIGHTdQUADRUPLE DASH HORIZONTALfVERTICALdRIGHTdTRIPLE DASH HORIZONTALfVERTICAL",
  "dUPdUP AND HORIZONTALfLEFTfLIGHT DOWNfRIGHTdVERTICALdVERTICAL AND HORIZONTALfLEFTfRIGHT",
  "cLEFT DOWN HEAVY AND RIGHT UP LIGHTdHEAVY AND RIGHT DOWN LIGHTgUP LIGHTgVERTICAL LIGHT",
  "dLIGHT AND RIGHT DOWN HEAVYgUP HEAVYgVERTICAL HEAVYdUP HEAVY AND RIGHT DOWN LIGHT",
  "cLIGHT ARC DOWN AND LEFTgRIGHTeUP AND LEFTgRIGHTdDIAGONAL CROSSeDIAMOND",
  "eMIDDLE LEFT TO LOWER CENTREiCENTRE TO MIDDLE RIGHThUPPER CENTRE TO MIDDLE RIGHT",
  "lRIGHT TO LOWER CENTREfRIGHT TO LOWER CENTREhUPPER CENTRE TO MIDDLE LEFT TO LOWER CENTRE",
  "eUPPER CENTRE TO MIDDLE LEFTiLEFT AND MIDDLE RIGHT TO LOWER CENTREjTO LOWER CENTRE",
  "lCENTRE TO MIDDLE RIGHTiRIGHTiRIGHT AND MIDDLE LEFT TO LOWER CENTREjTO LOWER CENTRE",
  "lCENTRE TO MIDDLE LEFTfLEFT TO LOWER RIGHTfRIGHT TO LOWER LEFTdDOUBLE DASH HORIZONTALfVERTICAL",
  "dDOWNdDOWN AND HORIZONTALfLEFTfRIGHTdHORIZONTALdHORIZONTAL WITH VERTICAL STROKEdLEFT",
  "dLEFT AND HEAVY RIGHTdQUADRUPLE DASH HORIZONTALfVERTICALdRIGHTdTRIPLE DASH HORIZONTALfVERTICAL",
  "dUPdUP AND HEAVY DOWNfHORIZONTALfLEFTfRIGHTdVERTICALdVERTICAL AND HORIZONTALfLEFTfRIGHT",
  "cRIGHT DOWN HEAVY AND LEFT UP LIGHTdHEAVY AND LEFT DOWN LIGHTgUP LIGHTgVERTICAL LIGHT",
  "dLIGHT AND LEFT DOWN HEAVYgUP HEAVYgVERTICAL HEAVYdUP HEAVY AND LEFT DOWN LIGHT",
  "cUP DOUBLE AND HORIZONTAL SINGLEfLEFT SINGLEfRIGHT SINGLEdHEAVY AND DOWN HORIZONTAL LIGHT",
  "fHORIZONTAL LIGHTfLEFT DOWN LIGHTgLIGHTfRIGHT DOWN LIGHTgLIGHTdLIGHT AND DOWN HORIZONTAL HEAVY",
  "fHORIZONTAL HEAVYfLEFT DOWN HEAVYgHEAVYfRIGHT DOWN HEAVYgHEAVYdSINGLE AND HORIZONTAL DOUBLE",
  "fLEFT DOUBLEfRIGHT DOUBLEcVERTICAL DOUBLE AND HORIZONTAL SINGLEfLEFT SINGLEfRIGHT SINGLE",
  "dHEAVY AND HORIZONTAL LIGHTfLEFT LIGHTfRIGHT LIGHTdLIGHT AND HORIZONTAL HEAVYfLEFT HEAVY",
  "fRIGHT HEAVYdSINGLE AND HORIZONTAL DOUBLEfLEFT DOUBLEfRIGHT DOUBLEaBOXING GLOVEaBOYaBOYS SYMBOL",
  "aBPHaBRAHMI DANDAbDIGIT EIGHTcFIVEcFOURcNINEcONEcSEVENcSIXcTHREEcTWOcZERObDOUBLE DANDAbLETTER A",
  "cAAcAIcAUcBAcBHAcCAcCHAcDAcDDAcDDHAcDHAcEcGAcGHAcHAcIcIIcJAcJHAcKAcKHAcLAcLLAcMAcNAcNGAcNNAcNYA",
  "cOcOLD TAMIL LLAeLLLAeNNNAeRRAeSHORT EfOcPAcPHAcRAcSAcSHAcSSAcTAcTHAcTTAcTTHAcUcUUcVAcVOCALIC L",
  "dLLdRdRRcYAbNUMBER EIGHTcEIGHTYcFIFTYcFIVEcFORTYcFOURcJOINERcNINEcNINETYcONEcONE HUNDRED",
  "dTHOUSANDcSEVENcSEVENTYcSIXcSIXTYcTENcTHIRTYcTHREEcTWENTYcTWObPUNCTUATION CRESCENT BARcDOT",
  "cDOUBLE DOTcLINEcLOTUSbSIGN ANUSVARAcCANDRABINDUcJIHVAMULIYAcOLD TAMIL VIRAMAcUPADHMANIYA",
  "cVISARGAbVIRAMAbVOWEL SIGN AAdAIdAUdBHATTIPROLU AAdEdIdIIdOdOLD TAMIL SHORT EgOdUdUUdVOCALIC L",
  "eLLeReRRaBRAILLE PATTERN BLANKcDOTS-1d12d123d1234d12345d123456d1234567d12345678d1234568d123457",
  "d1234578d123458d12346d123467d1234678d123468d12347d123478d12348d1235d12356d123567d1235678d123568",
  "d12357d123578d12358d1236d12367d123678d12368d1237d12378d1238d124d1245d12456d124567d1245678",
  "d124568d12457d124578d12458d1246d12467d124678d12468d1247d12478d1248d125d1256d12567d125678d12568",
  "d1257d12578d1258d126d1267d12678d1268d127d1278d128d13d134d1345d13456d134567d1345678d134568d13457",
  "d134578d13458d1346d13467d134678d13468d1347d13478d1348d135d1356d13567d135678d13568d1357d13578",
  "d1358d136d1367d13678d1368d137d1378d138d14d145d1456d14567d145678d14568d1457d14578d1458d146d1467",
  "d14678d1468d147d1478d148d15d156d1567d15678d1568d157d1578d158d16d167d1678d168d17d178d18d2d23d234",
  "d2345d23456d234567d2345678d234568d23457d234578d23458d2346d23467d234678d23468d2347d23478d2348",
  "d235d2356d23567d235678d23568d2357d23578d2358d236d2367d23678d2368d237d2378d238d24d245d2456d24567",
  "d245678d24568d2457d24578d2458d246d2467d24678d2468d247d2478d248d25d256d2567d25678d2568d257d2578",
  "d258d26d267d2678d268d27d278d28d3d34d345d3456d34567d345678d34568d3457d34578d3458d346d3467d34678",
  "d3468d347d3478d348d35d356d3567d35678d3568d357d3578d358d36d367d3678d368d37d378d38d4d45d456d4567",
  "d45678d4568d457d4578d458d46d467d4678d468d47d478d48d5d56d567d5678d568d57d578d58d6d67d678d68d7d78",
  "d8aBRAINaBREADaBREAK PERMITTED HEREaBREAST-FEEDINGaBREVEaBRICKaBRIDE WITH VEILaBRIDGE AT NIGHT",
  "aBRIEFCASEaBRIEFSaBROCCOLIaBROKEN BARbCIRCLE WITH NORTHWEST ARROWbHEARTaBROOMaBROWN HEARTaBS",
  "aBUBBLE TEAaBUBBLESaBUCKETaBUGaBUGINESE END OF SECTIONbLETTER AcBAcCAcDAcGAcHAcJAcKAcLAcMAcMPA",
  "cNAcNGAcNGKAcNRAcNYAcNYCAcPAcRAcSAcTAcVAcYAbPALLAWAbVOWEL SIGN AEdEdIdOdUaBUHID LETTER AcBAcDA",
  "cGAcHAcIcKAcLAcMAcNAcNGAcPAcRAcSAcTAcUcWAcYAbVOWEL SIGN IdUaBUILDING CONSTRUCTIONaBULLET",
  "aBULLET OPERATORaBULLHORNaBULLHORN WITH SOUND WAVESaBULLSEYEaBURRITOaBUSaBUS STOP",
  "aBUST IN SILHOUETTEaBUSTS IN SILHOUETTEaBUTTERaBUTTERFLYaBYTE ORDER MARK",
  "aBYZANTINE MUSICAL SYMBOL AGOGI ARGIeARGOTERIeGORGIeGORGOTERIeMESIeMETRIAePOLI ARGIfGORGI",
  "dANATRICHISMAdANTIKENOKYLISMAdANTIKENOMAdAPESO EKFONITIKONeEXO NEOdAPLIdAPODERMA ARCHAIONeNEO",
  "dAPOSTROFOI SYNDESMOS NEOeTELOUS ICHIMATOSdAPOSTROFOSdAPOSTROFOS DIPLIeNEOdAPOTHEMAdARGON",
  "dARGOSYNTHETONdARKTIKO DIeGAeKEeNIePAeVOUeZOdCHAMILIdCHAMILONdCHOREVMA ARCHAIONeNEO",
  "dCHROA KLITONeSPATHIeZYGOSdDASEIAdDIARGONdDIASTOLI APLI MEGALIfMIKRIeDIPLIeTHESEOS",
  "dDIESIS APLI DYO DODEKATAeDIGRAMMOS EX DODEKATAeMONOGRAMMOS TESSERA DODEKATAeTETARTIMORION",
  "eTRIGRAMMOS OKTO DODEKATAeTRITIMORIONdDIFTOGGOS OUdDIGORGONdDIGORGON PARESTIGMENON ARISTERA ANO",
  "gKATOfDEXIAdDIGRAMMA GGdDIPLIdDIPLI ARCHAIONdDYOdEKSTREPTONdELAFRONdENARXIS KAI FTHORA VOU",
  "dENDOFONONdEPEGERMAdETERON ARGOSYNTHETONePARAKALESMAdEXO EKFONITIKONdFANEROSIS DIFONIAS",
  "eMONOFONIASeTETRAFONIASdFHTORA SKLIRON CHROMA VASISdFTHORA ARCHAIONeARCHAION DEYTEROU ICHOU",
  "eDIATONIKI DIfKEfNANAfNI ANOgKATOfPAfZOeENARMONIOS ANTIFONIAeI YFESIS TETARTIMORION",
  "eMALAKON CHROMA DIFONIASgMONOFONIASeNAOS ICHOSeNENANOeSKLIRON CHROMA SYNAFIgVASISfDIATONON DI",
  "dGENIKI DIESISeYFESISdGORGON ARCHAIONeNEO ANOfKATOePARESTIGMENON ARISTERAfDEXIAdGORGOSYNTHETON",
  "dGORTHMIKON N APLOUNfDIPLOUNdGRONTHISMATAdICHADINdIMIDIARGONdIMIFONONdIMIFTHORAdIMIFTHORON",
  "dISAKIA TELOUS ICHIMATOSdISON ARCHAIONeNEOdKATAVA TROMIKONdKATAVASMAdKATHISTIdKENTIMA ARCHAION",
  "eNEO ANOfKATOfMESOdKENTIMATAdKENTIMATA ARCHAIONeNEO ANOfKATOfMESOdKLASMAdKLASMA ANOeKATO",
  "dKONTEVMAdKONTEVMA ALLOdKORONISdKOUFISMAdKRATIMA ALLOeARCHAIONeNEOdKRATIMATAdKRATIMOKOUFISMA",
  "dKRATIMOYPORROONdKREMASTIdKYLISMAdLEIMMA DYO CHRONONeENOS CHRONOUeIMISEOS CHRONOU",
  "eTESSARON CHRONONeTRION CHRONONdLEMOIdLYGISMAdMARTYRIA ALLI DEYTEROS ICHOSfPROTOS ICHOS",
  "eDEYTEROS ICHOSeLEGETOS ICHOSePLAGIOS ICHOSfTETARTOS ICHOSePROTOS ICHOSePROTOVARYS ICHOS",
  "eTETARTOS ICHOSfLEGETOS ICHOSeTRIFONIASeTRITOS ICHOSeVARYS ICHOSdMIKRON ISONdNANA",
  "dOLIGON ARCHAIONeNEOdOMALONdOXEIA DIPLIeEKFONITIKONeNEOdOXEIAI ARCHAIONdOYRANISMA ARCHAIONeNEO",
  "dPARAKALESMA ARCHAIONeNEOdPARAKLITIKIdPARAKLITIKI ARCHAIONeNEOdPARICHONdPELASTONdPELASTON NEO",
  "dPERISPOMENIdPETASMAdPETASTIdPETASTOKOUFISMAdPIASMA ARCHAIONeNEOdPSIFISTOLYGISMAdPSIFISTON",
  "dPSIFISTON NEOdPSIFISTOPARAKALESMAdPSIFISTOSYNAGMAdPSILIdPSILONdRAPISMAdREVMAdSAXIMATAdSEISMA",
  "dSEISMA NEOdSIMANSIS ARSEOSeARSEOS DISIMOUfTETRASIMOUfTRISIMOUeTHESEOSeTHESEOS DISIMOU",
  "fTETRASIMOUfTRISIMOUdSTAVROSdSTAVROS APODEXIAdSTIGMAdSTRAGGISMATAdSYNAGMA ARCHAIONeMETA STAVROU",
  "eNEOdSYNEVMAdSYRMAdSYRMATIKIdTELEIAdTESSERAdTETRAPLIdTHEMAdTHEMA APLOUNdTHEMATISMOS ESOeEXO",
  "dTHES KAI APOTHESdTHITAdTINAGMAdTRIAdTRIGORGONdTRIPLIdTROMIKOLYGISMAdTROMIKON ALLOeARCHAIONeNEO",
  "dTROMIKOPARAKALESMAdTROMIKOPSIFISTONdTROMIKOSYNAGMAdVAREIA DIPLIeEKFONITIKONeNEO",
  "dVAREIAI ARCHAIONdVATHYdXIRON KLASMAdYFEN ANOeKATOdYFESIS APLI DYO DODEKATA",
  "eDIGRAMMOS EX DODEKATAeMONOGRAMMOS TESSERA DODEKATAeTRIGRAMMOS OKTO DODEKATAeTRITIMORION",
  "dYPOKRISISdYPOKRISIS DIPLIdYPORROIdYPSILI"]

end CircuitConsole.Text
