import Phrasebook.Text.CharName.Group

/-!
Names of characters that begin with the letters from T to Z, by the tables of Unicode 14.
-/

namespace Phrasebook.CharName

/-- The names that begin with T. -/
def namesT : List NameGroup := [
  ⟨"TAG", [
    "917536aSPACE,aEXCLAMATION MARK,aQUOTATION MARK,aNUMBER SIGN,aDOLLAR SIGN,aPERCENT SIGN",
    "aAMPERSAND,aAPOSTROPHE,aLEFT PARENTHESIS,aRIGHT PARENTHESIS,aASTERISK,aPLUS SIGN,aCOMMA",
    "aHYPHEN-MINUS,aFULL STOP,aSOLIDUS,aDIGIT ZERO,bONE,bTWO,bTHREE,bFOUR,bFIVE,bSIX,bSEVEN",
    "bEIGHT,bNINE,aCOLON,aSEMICOLON,aLESS-THAN SIGN,aEQUALS SIGN,aGREATER-THAN SIGN",
    "aQUESTION MARK,aCOMMERCIAL AT,aLATIN CAPITAL LETTER A,dB,dC,dD,dE,dF,dG,dH,dI,dJ,dK,dL,dM",
    "dN,dO,dP,dQ,dR,dS,dT,dU,dV,dW,dX,dY,dZ,aLEFT SQUARE BRACKET,aREVERSE SOLIDUS",
    "aRIGHT SQUARE BRACKET,aCIRCUMFLEX ACCENT,aLOW LINE,aGRAVE ACCENT,aLATIN SMALL LETTER A,dB",
    "dC,dD,dE,dF,dG,dH,dI,dJ,dK,dL,dM,dN,dO,dP,dQ,dR,dS,dT,dU,dV,dW,dX,dY,dZ",
    "aLEFT CURLY BRACKET,aVERTICAL LINE,aRIGHT CURLY BRACKET,aTILDE"]⟩,
  ⟨"TAGALOG", [
    "5888aLETTER A,bI,bU,bKA,bGA,bNGA,bTA,bDA,bNA,bPA,bBA,bMA,bYA,bRA,bLA,bWA,bSA,bHA",
    "aVOWEL SIGN I,cU,aSIGN VIRAMA,bPAMUDPOD,9aLETTER ARCHAIC RA"]⟩,
  ⟨"TAGBANWA", [
    "5984aLETTER A,bI,bU,bKA,bGA,bNGA,bTA,bDA,bNA,bPA,bBA,bMA,bYA,1bLA,bWA,bSA,1aVOWEL SIGN I",
    "cU"]⟩,
  ⟨"TAI", [
    "6480aLE LETTER KA,cXA,cNGA,cTSA,cSA,cYA,cTA,cTHA,cLA,cPA,cPHA,cMA,cFA,cVA,cHA,cQA,cKHA",
    "cTSHA,cNA,cA,cI,cEE,cEH,cU,cOO,cO,cUE,cE,cAUE,cAI,2cTONE-2,cTONE-3,cTONE-4,cTONE-5",
    "cTONE-6,171aTHAM LETTER HIGH KA,dKHA,dKXA,cLOW KA,dKXA,dKHA,cNGA,cHIGH CA,dCHA,cLOW CA",
    "dSA,dCHA,cNYA,cRATA,cHIGH RATHA,cDA,cLOW RATHA,cRANA,cHIGH TA,dTHA,cLOW TA,dTHA,cNA,cBA",
    "cHIGH PA,dPHA,dFA,cLOW PA,dFA,dPHA,cMA,cLOW YA,cHIGH YA,cRA,cRUE,cLA,cLUE,cWA,cHIGH SHA",
    "dSSA,dSA,dHA,cLLA,cA,cLOW HA,cI,cII,cU,cUU,cEE,cOO,cLAE,cGREAT SA",
    "bCONSONANT SIGN MEDIAL RA,eLA,dLA TANG LAI,bSIGN MAI KANG LAI,bCONSONANT SIGN FINAL NGA",
    "dLOW PA,dHIGH RATHA OR LOW PA,dMA,dBA,dSA,1bSIGN SAKOT,bVOWEL SIGN A,dMAI SAT,dAA",
    "dTALL AA,dI,dII,dUE,dUUE,dU,dUU,dO,dOA BELOW,dOY,dE,dAE,dOO,dAI,dTHAM AI,dOA ABOVE",
    "bSIGN MAI KANG,cTONE-1,cTONE-2,cKHUEN TONE-3,dTONE-4,dTONE-5,cRA HAAM,cMAI SAM",
    "cKHUEN-LUE KARAN,2bCOMBINING CRYPTOGRAMMIC DOT,bHORA DIGIT ZERO,dONE,dTWO,dTHREE,dFOUR",
    "dFIVE,dSIX,dSEVEN,dEIGHT,dNINE,6bTHAM DIGIT ZERO,dONE,dTWO,dTHREE,dFOUR,dFIVE,dSIX,dSEVEN",
    "dEIGHT,dNINE,6bSIGN WIANG,cWIANGWAAK,cSAWAN,cKEOW,cHOY,cDOKMAI,cREVERSED ROTATED RANA",
    "cMAI YAMOK,cKAAN,cKAANKUU,cSATKAAN,cSATKAANKUU,cHANG,cCAANG,36818aVIET LETTER LOW KO",
    "cHIGH KO,cLOW KHO,cHIGH KHO,cLOW KHHO,cHIGH KHHO,cLOW GO,cHIGH GO,cLOW NGO,cHIGH NGO",
    "cLOW CO,cHIGH CO,cLOW CHO,cHIGH CHO,cLOW SO,cHIGH SO,cLOW NYO,cHIGH NYO,cLOW DO,cHIGH DO",
    "cLOW TO,cHIGH TO,cLOW THO,cHIGH THO,cLOW NO,cHIGH NO,cLOW BO,cHIGH BO,cLOW PO,cHIGH PO",
    "cLOW PHO,cHIGH PHO,cLOW FO,cHIGH FO,cLOW MO,cHIGH MO,cLOW YO,cHIGH YO,cLOW RO,cHIGH RO",
    "cLOW LO,cHIGH LO,cLOW VO,cHIGH VO,cLOW HO,cHIGH HO,cLOW O,cHIGH O,bMAI KANG,bVOWEL AA,cI",
    "cUE,cU,cE,cO,bMAI KHIT,bVOWEL IA,cUEA,cUA,cAUE,cAY,cAN,cAM,bTONE MAI EK,dNUENG,dTHO,dSONG",
    "24bSYMBOL KON,cNUENG,cSAM,cHO HOI,cKOI KOI"]⟩,
  ⟨"TAKRI", [
    "71296aLETTER A,bAA,bI,bII,bU,bUU,bE,bAI,bO,bAU,bKA,bKHA,bGA,bGHA,bNGA,bCA,bCHA,bJA,bJHA",
    "bNYA,bTTA,bTTHA,bDDA,bDDHA,bNNA,bTA,bTHA,bDA,bDHA,bNA,bPA,bPHA,bBA,bBHA,bMA,bYA,bRA,bLA",
    "bVA,bSHA,bSA,bHA,bRRA,aSIGN ANUSVARA,bVISARGA,aVOWEL SIGN AA,cI,cII,cU,cUU,cE,cAI,cO,cAU",
    "aSIGN VIRAMA,bNUKTA,aLETTER ARCHAIC KHA,aABBREVIATION SIGN,6aDIGIT ZERO,bONE,bTWO,bTHREE",
    "bFOUR,bFIVE,bSIX,bSEVEN,bEIGHT,bNINE"]⟩,
  ⟨"TAMIL", [
    "2946aSIGN ANUSVARA,bVISARGA,1aLETTER A,bAA,bI,bII,bU,bUU,3bE,bEE,bAI,1bO,bOO,bAU,bKA",
    "3bNGA,bCA,1bJA,1bNYA,bTTA,3bNNA,bTA,3bNA,bNNNA,bPA,3bMA,bYA,bRA,bRRA,bLA,bLLA,bLLLA,bVA",
    "bSHA,bSSA,bSA,bHA,4aVOWEL SIGN AA,cI,cII,cU,cUU,3cE,cEE,cAI,1cO,cOO,cAU,aSIGN VIRAMA,2aOM",
    "6aAU LENGTH MARK,14aDIGIT ZERO,bONE,bTWO,bTHREE,bFOUR,bFIVE,bSIX,bSEVEN,bEIGHT,bNINE",
    "aNUMBER TEN,bONE HUNDRED,cTHOUSAND,aDAY SIGN,aMONTH SIGN,aYEAR SIGN,aDEBIT SIGN",
    "aCREDIT SIGN,aAS ABOVE SIGN,aRUPEE SIGN,aNUMBER SIGN",
    "70597aFRACTION ONE THREE-HUNDRED-AND-TWENTIETH,cONE-HUNDRED-AND-SIXTIETH,cEIGHTIETH",
    "cSIXTY-FOURTH,cFORTIETH,cTHIRTY-SECOND,bTHREE EIGHTIETHS,cSIXTY-FOURTHS,bONE TWENTIETH",
    "cSIXTEENTH-1,cSIXTEENTH-2,cTENTH,cEIGHTH,bTHREE TWENTIETHS,cSIXTEENTHS,bONE FIFTH",
    "cQUARTER,cHALF-1,cHALF-2,bTHREE QUARTERS,bDOWNSCALING FACTOR KIIZH,aSIGN NEL,bCEVITU",
    "bAAZHAAKKU,bUZHAKKU,bMUUVUZHAKKU,bKURUNI,bPATHAKKU,bMUKKURUNI,bKAACU,bPANAM,bPON",
    "bVARAAKAN,bPAARAM,bKUZHI,bVELI,aWET CULTIVATION SIGN,aDRY CULTIVATION SIGN,aLAND SIGN",
    "aSALT PAN SIGN,aTRADITIONAL CREDIT SIGN,bNUMBER SIGN,aCURRENT SIGN,aAND ODD SIGN",
    "aSPENT SIGN,aTOTAL SIGN,aIN POSSESSION SIGN,aSTARTING FROM SIGN,aSIGN MUTHALIYA",
    "bVAKAIYARAA,13aPUNCTUATION END OF TEXT"]⟩,
  ⟨"TANGSA", [
    "92784aLETTER OZ,bOC,bOQ,bOX,bAZ,bAC,bAQ,bAX,bVZ,bVC,bVQ,bVX,bEZ,bEC,bEQ,bEX,bIZ,bIC,bIQ",
    "bIX,bUZ,bUC,bUQ,bUX,bAWZ,bAWC,bAWQ,bAWX,bUIZ,bUIC,bUIQ,bUIX,bFINAL NG,bLONG UEX",
    "bSHORT UEZ,cAWX,bUEC,bUEZ,bUEQ,bUEX,bUIUZ,bUIUC,bUIUQ,bUIUX,bMZ,bMC,bMQ,bMX,bKA,bKHA,bGA",
    "bNGA,bSA,bYA,bWA,bPA,bNYA,bPHA,bBA,bMA,bNA,bHA,bLA,bHTA,bTA,bDA,bRA,bNHA,bSHA,bCA,bTSA",
    "bGHA,bHTTA,bTHA,bXA,bFA,bDHA,bCHA,bZA,1aDIGIT ZERO,bONE,bTWO,bTHREE,bFOUR,bFIVE,bSIX",
    "bSEVEN,bEIGHT,bNINE"]⟩,
  ⟨"TELEPHONE", [
    "8481aSIGN,499aRECORDER,1008aLOCATION SIGN,118231aRECEIVER,157bWITH PAGE,3aON TOP OF MODEM"]⟩,
  ⟨"TELUGU", [
    "3072aSIGN COMBINING CANDRABINDU ABOVE,bCANDRABINDU,bANUSVARA,bVISARGA",
    "bCOMBINING ANUSVARA ABOVE,aLETTER A,bAA,bI,bII,bU,bUU,bVOCALIC R,cL,1bE,bEE,bAI,1bO,bOO",
    "bAU,bKA,bKHA,bGA,bGHA,bNGA,bCA,bCHA,bJA,bJHA,bNYA,bTTA,bTTHA,bDDA,bDDHA,bNNA,bTA,bTHA,bDA",
    "bDHA,bNA,1bPA,bPHA,bBA,bBHA,bMA,bYA,bRA,bRRA,bLA,bLLA,bLLLA,bVA,bSHA,bSSA,bSA,bHA",
    "2aSIGN NUKTA,bAVAGRAHA,aVOWEL SIGN AA,cI,cII,cU,cUU,cVOCALIC R,dRR,1cE,cEE,cAI,1cO,cOO",
    "cAU,aSIGN VIRAMA,7aLENGTH MARK,aAI LENGTH MARK,1aLETTER TSA,bDZA,bRRRA,2bNAKAARA POLLU",
    "2bVOCALIC RR,cLL,aVOWEL SIGN VOCALIC L,dLL,2aDIGIT ZERO,bONE,bTWO,bTHREE,bFOUR,bFIVE,bSIX",
    "bSEVEN,bEIGHT,bNINE,7aSIGN SIDDHAM,aFRACTION DIGIT ZERO FOR ODD POWERS OF FOUR",
    "cONE FOR ODD POWERS OF FOUR,cTWO FOR ODD POWERS OF FOUR,cTHREE FOR ODD POWERS OF FOUR",
    "cONE FOR EVEN POWERS OF FOUR,cTWO FOR EVEN POWERS OF FOUR,cTHREE FOR EVEN POWERS OF FOUR",
    "aSIGN TUUMU"]⟩,
  ⟨"TETRAGRAM", [
    "119558aFOR CENTRE,bFULL CIRCLE,bMIRED,bBARRIER,bKEEPING SMALL,bCONTRARIETY,bASCENT",
    "bOPPOSITION,bBRANCHING OUT,bDEFECTIVENESS OR DISTORTION,bDIVERGENCE,bYOUTHFULNESS",
    "bINCREASE,bPENETRATION,bREACH,bCONTACT,bHOLDING BACK,bWAITING,bFOLLOWING,bADVANCE",
    "bRELEASE,bRESISTANCE,bEASE,bJOY,bCONTENTION,bENDEAVOUR,bDUTIES,bCHANGE,bDECISIVENESS",
    "bBOLD RESOLUTION,bPACKING,bLEGION,bCLOSENESS,bKINSHIP,bGATHERING,bSTRENGTH,bPURITY",
    "bFULLNESS,bRESIDENCE,bLAW OR MODEL,bRESPONSE,bGOING TO MEET,bENCOUNTERS,bSTOVE,bGREATNESS",
    "bENLARGEMENT,bPATTERN,bRITUAL,bFLIGHT,bVASTNESS OR WASTING,bCONSTANCY,bMEASURE,bETERNITY",
    "bUNITY,bDIMINISHMENT,bCLOSED MOUTH,bGUARDEDNESS,bGATHERING IN,bMASSING,bACCUMULATION",
    "bEMBELLISHMENT,bDOUBT,bWATCH,bSINKING,bINNER,bDEPARTURE,bDARKENING,bDIMMING,bEXHAUSTION",
    "bSEVERANCE,bSTOPPAGE,bHARDNESS,bCOMPLETION,bCLOSURE,bFAILURE,bAGGRAVATION,bCOMPLIANCE",
    "bON THE VERGE,bDIFFICULTIES,bLABOURING,bFOSTERING"]⟩,
  ⟨"THAANA", [
    "1920aLETTER HAA,bSHAVIYANI,bNOONU,bRAA,bBAA,bLHAVIYANI,bKAAFU,bALIFU,bVAAVU,bMEEMU,bFAAFU",
    "bDHAALU,bTHAA,bLAAMU,bGAAFU,bGNAVIYANI,bSEENU,bDAVIYANI,bZAVIYANI,bTAVIYANI,bYAA",
    "bPAVIYANI,bJAVIYANI,bCHAVIYANI,bTTAA,bHHAA,bKHAA,bTHAALU,bZAA,bSHEENU,bSAADHU,bDAADHU,bTO",
    "bZO,bAINU,bGHAINU,bQAAFU,bWAAVU,aABAFILI,aAABAAFILI,aIBIFILI,aEEBEEFILI,aUBUFILI",
    "aOOBOOFILI,aEBEFILI,aEYBEYFILI,aOBOFILI,aOABOAFILI,aSUKUN,aLETTER NAA"]⟩,
  ⟨"THAI", [
    "3585aCHARACTER KO KAI,bKHO KHAI,cKHUAT,cKHWAI,cKHON,cRAKHANG,bNGO NGU,bCHO CHAN,cCHING",
    "cCHANG,bSO SO,bCHO CHOE,bYO YING,bDO CHADA,bTO PATAK,bTHO THAN,cNANGMONTHO,cPHUTHAO",
    "bNO NEN,bDO DEK,bTO TAO,bTHO THUNG,cTHAHAN,cTHONG,bNO NU,bBO BAIMAI,bPO PLA,bPHO PHUNG",
    "bFO FA,bPHO PHAN,bFO FAN,bPHO SAMPHAO,bMO MA,bYO YAK,bRO RUA,bRU,bLO LING,bLU,bWO WAEN",
    "bSO SALA,cRUSI,cSUA,bHO HIP,bLO CHULA,bO ANG,bHO NOKHUK,bPAIYANNOI,bSARA A,bMAI HAN-AKAT",
    "bSARA AA,cAM,cI,cII,cUE,cUEE,cU,cUU,bPHINTHU,4aCURRENCY SYMBOL BAHT,aCHARACTER SARA E,cAE",
    "cO,cAI MAIMUAN,dMAIMALAI,bLAKKHANGYAO,bMAIYAMOK,bMAITAIKHU,bMAI EK,cTHO,cTRI,cCHATTAWA",
    "bTHANTHAKHAT,bNIKHAHIT,bYAMAKKAN,bFONGMAN,aDIGIT ZERO,bONE,bTWO,bTHREE,bFOUR,bFIVE,bSIX",
    "bSEVEN,bEIGHT,bNINE,aCHARACTER ANGKHANKHU,bKHOMUT"]⟩,
  ⟨"THIN", ["8201aSPACE,120727aGREEK CROSS,6aSALTIRE"]⟩,
  ⟨"THREE", [
    "8278aDOT PUNCTUATION,415aRIGHTWARDS ARROWS,1191aLINES CONVERGING RIGHT,cLEFT",
    "288aDIMENSIONAL ANGLE,693aCONSECUTIVE EQUALS SIGNS,186aLEFTWARDS ARROWS",
    "117365aNETWORKED COMPUTERS,9aBUTTON MOUSE,50aRAYS ABOVE,bBELOW,bLEFT,bRIGHT",
    "3aSPEECH BUBBLES,470aPOINTED BLACK STAR"]⟩,
  ⟨"THREE-D", [
    "10146aTOP-LIGHTED RIGHTWARDS ARROWHEAD,aBOTTOM-LIGHTED RIGHTWARDS ARROWHEAD",
    "1012aTOP-LIGHTED LEFTWARDS EQUILATERAL ARROWHEAD",
    "aRIGHT-LIGHTED UPWARDS EQUILATERAL ARROWHEAD",
    "aTOP-LIGHTED RIGHTWARDS EQUILATERAL ARROWHEAD",
    "aLEFT-LIGHTED DOWNWARDS EQUILATERAL ARROWHEAD"]⟩,
  ⟨"TIBETAN", [
    "3840aSYLLABLE OM,aMARK GTER YIG MGO TRUNCATED A,e-UM RNAM BCAD MA,fGTER TSHEG MA",
    "bINITIAL YIG MGO MDUN MA,bCLOSING YIG MGO SGAB MA,bCARET YIG MGO PHUR SHAD MA",
    "bYIG MGO TSHEG SHAD MA,bSBRUL SHAD,bBSKUR YIG MGO,bBKA- SHOG YIG MGO,bINTERSYLLABIC TSHEG",
    "bDELIMITER TSHEG BSTAR,bSHAD,bNYIS SHAD,bTSHEG SHAD,bNYIS TSHEG SHAD",
    "bRIN CHEN SPUNGS SHAD,bRGYA GRAM SHAD,bCARET -DZUD RTAGS ME LONG CAN,bGTER TSHEG",
    "aLOGOTYPE SIGN CHAD RTAGS,cLHAG RTAGS,aASTROLOGICAL SIGN SGRA GCAN -CHAR RTAGS,c-KHYUD PA",
    "cSDONG TSHUGS,aSIGN RDEL DKAR GCIG,dGNYIS,dGSUM,cNAG GCIG,dGNYIS,cDKAR RDEL NAG",
    "aDIGIT ZERO,bONE,bTWO,bTHREE,bFOUR,bFIVE,bSIX,bSEVEN,bEIGHT,bNINE,bHALF ONE,cTWO,cTHREE",
    "cFOUR,cFIVE,cSIX,cSEVEN,cEIGHT,cNINE,cZERO,aMARK BSDUS RTAGS,bNGAS BZUNG NYI ZLA",
    "bCARET -DZUD RTAGS BZHI MIG CAN,bNGAS BZUNG SGOR RTAGS,bCHE MGO,bTSA -PHRU",
    "bGUG RTAGS GYON,dGYAS,bANG KHANG GYON,dGYAS,aSIGN YAR TSHES,bMAR TSHES,aLETTER KA,bKHA",
    "bGA,bGHA,bNGA,bCA,bCHA,bJA,1bNYA,bTTA,bTTHA,bDDA,bDDHA,bNNA,bTA,bTHA,bDA,bDHA,bNA,bPA",
    "bPHA,bBA,bBHA,bMA,bTSA,bTSHA,bDZA,bDZHA,bWA,bZHA,bZA,b-A,bYA,bRA,bLA,bSHA,bSSA,bSA,bHA,bA",
    "bKSSA,bFIXED-FORM RA,bKKA,bRRA,4aVOWEL SIGN AA,cI,cII,cU,cUU,cVOCALIC R,dRR,dL,dLL,cE,cEE",
    "cO,cOO,aSIGN RJES SU NGA RO,bRNAM BCAD,aVOWEL SIGN REVERSED I,dII,aSIGN NYI ZLA NAA DA",
    "bSNA LDAN,aMARK HALANTA,bPALUTA,aSIGN LCI RTAGS,bYANG RTAGS,bLCE TSA CAN,bMCHU CAN",
    "bGRU CAN RGYINGS,cMED RGYINGS,bINVERTED MCHU CAN,aSUBJOINED SIGN LCE TSA CAN,cMCHU CAN",
    "cINVERTED MCHU CAN,bLETTER KA,cKHA,cGA,cGHA,cNGA,cCA,cCHA,cJA,1cNYA,cTTA,cTTHA,cDDA,cDDHA",
    "cNNA,cTA,cTHA,cDA,cDHA,cNA,cPA,cPHA,cBA,cBHA,cMA,cTSA,cTSHA,cDZA,cDZHA,cWA,cZHA,cZA,c-A",
    "cYA,cRA,cLA,cSHA,cSSA,cSA,cHA,cA,cKSSA,cFIXED-FORM WA,dYA,dRA,1aKU RU KHA,dBZHI MIG CAN",
    "aCANTILLATION SIGN HEAVY BEAT,cLIGHT BEAT,cCANG TE-U,cSBUB -CHAL,aSYMBOL DRIL BU,bRDO RJE",
    "bPADMA GDAN,bRDO RJE RGYA GRAM,bPHUR PA,bNOR BU,dNYIS -KHYIL,dGSUM -KHYIL,dBZHI -KHYIL",
    "1aSIGN RDEL NAG RDEL DKAR,dGSUM,aMARK BSKA- SHOG GI MGO RGYAN,bMNYAM YIG GI MGO RGYAN",
    "bNYIS TSHEG,bINITIAL BRDA RNYING YIG MGO MDUN MA,bCLOSING BRDA RNYING YIG MGO SGAB MA",
    "4bLEADING MCHAN RTAGS,bTRAILING MCHAN RTAGS"]⟩,
  ⟨"TIFINAGH", [
    "11568aLETTER YA,bYAB,bYABH,bYAG,bYAGHH,bBERBER ACADEMY YAJ,bYAJ,bYAD,bYADH,bYADD,bYADDH",
    "bYEY,bYAF,bYAK,bTUAREG YAK,bYAKHH,bYAH,bBERBER ACADEMY YAH,bTUAREG YAH,bYAHH,bYAA,bYAKH",
    "bTUAREG YAKH,bYAQ,bTUAREG YAQ,bYI,bYAZH,bAHAGGAR YAZH,bTUAREG YAZH,bYAL,bYAM,bYAN",
    "bTUAREG YAGN,cYANG,bYAP,bYU,bYAR,bYARR,bYAGH,bTUAREG YAGH,bAYER YAGH,bYAS,bYASS,bYASH",
    "bYAT,bYATH,bYACH,bYATT,bYAV,bYAW,bYAY,bYAZ,bTAWELLEMET YAZ,bYAZZ,bYE,bYO",
    "7aMODIFIER LETTER LABIALIZATION MARK,aSEPARATOR MARK,14aCONSONANT JOINER"]⟩,
  ⟨"TILDE", [
    "126a,8637aOPERATOR,1845bABOVE RIGHTWARDS ARROW,247bWITH DOT ABOVE,cRISING DOTS",
    "221bABOVE LEFTWARDS ARROW,721aWITH RING ABOVE,2bDOT ABOVE,cBELOW"]⟩,
  ⟨"TIRHUTA", [
    "70784aANJI,aLETTER A,bAA,bI,bII,bU,bUU,bVOCALIC R,cRR,cL,cLL,bE,bAI,bO,bAU,bKA,bKHA,bGA",
    "bGHA,bNGA,bCA,bCHA,bJA,bJHA,bNYA,bTTA,bTTHA,bDDA,bDDHA,bNNA,bTA,bTHA,bDA,bDHA,bNA,bPA",
    "bPHA,bBA,bBHA,bMA,bYA,bRA,bLA,bVA,bSHA,bSSA,bSA,bHA,aVOWEL SIGN AA,cI,cII,cU,cUU",
    "cVOCALIC R,dRR,dL,dLL,cE,cSHORT E,cAI,cO,cSHORT O,cAU,aSIGN CANDRABINDU,bANUSVARA",
    "bVISARGA,bVIRAMA,bNUKTA,bAVAGRAHA,aGVANG,aABBREVIATION SIGN,aOM,8aDIGIT ZERO,bONE,bTWO",
    "bTHREE,bFOUR,bFIVE,bSIX,bSEVEN,bEIGHT,bNINE"]⟩,
  ⟨"TOP", [
    "8974aRIGHT CROP,aLEFT CROP,12bCORNER,aRIGHT CORNER,2aHALF INTEGRAL,147aSQUARE BRACKET",
    "39aPARENTHESIS,1aCURLY BRACKET,1aTORTOISE SHELL BRACKET,1369aARC ANTICLOCKWISE ARROW",
    "1bCLOCKWISE ARROW WITH MINUS,bANTICLOCKWISE ARROW WITH PLUS,652aHALF BLACK CIRCLE",
    "599aLEFT HALF BRACKET,aRIGHT HALF BRACKET,21aHALF SECTION SIGN,31bLEFT PARENTHESIS",
    "bRIGHT PARENTHESIS,116046aHAT,371aWITH UPWARDS ARROW ABOVE"]⟩,
  ⟨"TORTOISE", [
    "127274aSHELL BRACKETED LATIN CAPITAL LETTER S,277cCJK UNIFIED IDEOGRAPH-672C",
    "eIDEOGRAPH-4E09,eIDEOGRAPH-4E8C,eIDEOGRAPH-5B89,eIDEOGRAPH-70B9,eIDEOGRAPH-6253",
    "eIDEOGRAPH-76D7,eIDEOGRAPH-52DD,eIDEOGRAPH-6557"]⟩,
  ⟨"TOTO", [
    "123536aLETTER PA,bBA,bTA,bDA,bKA,bGA,bMA,bNA,bNGA,bSA,bCHA,bYA,bWA,bJA,bHA,bRA,bLA,bI",
    "bBREATHY I,bIU,bBREATHY IU,bU,bE,bBREATHY E,bEO,bBREATHY EO,bO,bAE,bBREATHY AE,bA",
    "aSIGN RISING TONE"]⟩,
  ⟨"TRIANGLE", ["10698aWITH DOT ABOVE,bUNDERBAR,1bSERIFS AT BOTTOM,118008bROUNDED CORNERS"]⟩,
  ⟨"TRIANGULAR", ["8227aBULLET,119980aRULER,472aFLAG ON POST"]⟩,
  ⟨"TRIGRAM", ["9776aFOR HEAVEN,bLAKE,bFIRE,bTHUNDER,bWIND,bWATER,bMOUNTAIN,bEARTH"]⟩,
  ⟨"TRIPLE", [
    "8244aPRIME,504aINTEGRAL,29aTILDE,94aVERTICAL BAR RIGHT TURNSTILE,1749cDELIMITER,122aPLUS",
    "108aHORIZONTAL BAR WITH DOUBLE VERTICAL STROKE,dTRIPLE VERTICAL STROKE",
    "138aVERTICAL BAR BINARY RELATION,cWITH HORIZONTAL STROKE,aCOLON OPERATOR",
    "aNESTED LESS-THAN,bGREATER-THAN,2aSOLIDUS BINARY RELATION,847aDAGGER"]⟩,
  ⟨"TURNED", [
    "8489aGREEK SMALL LETTER IOTA,8aCAPITAL F,14aSANS-SERIF CAPITAL G,cL,1cY,6aAMPERSAND",
    "2aSMALL F,59aDIGIT TWO,bTHREE,397aNOT SIGN,943aWHITE SHOGI PIECE,aBLACK SHOGI PIECE",
    "727aANGLE,543aBLACK PENTAGON,623aCOMMA,2aSEMICOLON,2aDAGGER,116566aOK HAND SIGN",
    "196aNORTH WEST POINTING LEAF,aSOUTH WEST POINTING LEAF,aNORTH EAST POINTING LEAF",
    "aSOUTH EAST POINTING LEAF"]⟩,
  ⟨"TWO", [
    "8229aDOT LEADER,43aASTERISKS ALIGNED VERTICALLY,8aDOT PUNCTUATION,2414aJOINED SQUARES",
    "61aLOGICAL AND OPERATOR,bOR OPERATOR,76aINTERSECTING LOGICAL AND,cOR",
    "30aCONSECUTIVE EQUALS SIGNS,948aDOTS OVER ONE DOT PUNCTUATION,116289aMEN HOLDING HANDS",
    "aWOMEN HOLDING HANDS,39aHEARTS,282aBUTTON MOUSE,57aSPEECH BUBBLES"]⟩]

/-- The names that begin with U. -/
def namesU : List NameGroup := [
  ⟨"UGARITIC", [
    "66432aLETTER ALPA,bBETA,bGAMLA,bKHA,bDELTA,bHO,bWO,bZETA,bHOTA,bTET,bYOD,bKAF,bSHIN",
    "bLAMDA,bMEM,bDHAL,bNUN,bZU,bSAMKA,bAIN,bPU,bSADE,bQOPA,bRASHA,bTHANNA,bGHAIN,bTO,bI,bU",
    "bSSU,1aWORD DIVIDER"]⟩,
  ⟨"UMBRELLA", ["9730a,17aWITH RAIN DROPS,220aON GROUND"]⟩,
  ⟨"UNION", [
    "8746a,2070aWITH MINUS SIGN,bOVERBAR,2bLOGICAL OR,aABOVE INTERSECTION",
    "1bBAR ABOVE INTERSECTION,1aBESIDE AND JOINED WITH UNION"]⟩,
  ⟨"UP", [
    "8597aDOWN ARROW,18cWITH BASE,44bDOUBLE ARROW,29bWHITE ARROW,177aTACK",
    "74aRIGHT DIAGONAL ELLIPSIS,18aARROWHEAD,32bBETWEEN TWO HORIZONTAL BARS",
    "1210aTACK WITH CIRCLE ABOVE,364aBARB RIGHT DOWN BARB LEFT HARPOON",
    "bLEFT DOWN BARB RIGHT HARPOON,1bRIGHT DOWN BARB RIGHT HARPOON",
    "1bLEFT DOWN BARB LEFT HARPOON,44aFISH TAIL,62aARROW THROUGH CIRCLE,335aDOWN BLACK ARROW",
    "87bTRIANGLE-HEADED ARROW,83aARROWHEAD IN A RECTANGLE BOX,117919aDOWN SANS-SERIF ARROW"]⟩,
  ⟨"UP-POINTING", [
    "9709aTRIANGLE WITH LEFT HALF BLACK,cRIGHT HALF BLACK,118603aRED TRIANGLE",
    "1aSMALL RED TRIANGLE,425aMILITARY AIRPLANE,aAIRPLANE,aSMALL AIRPLANE"]⟩,
  ⟨"UPPER", [
    "9136aLEFT OR LOWER RIGHT CURLY BRACKET SECTION,aRIGHT OR LOWER LEFT CURLY BRACKET SECTION",
    "462aHALF BLOCK,19aONE EIGHTH BLOCK,69aHALF INVERSE WHITE CIRCLE",
    "1aLEFT QUADRANT CIRCULAR ARC,aRIGHT QUADRANT CIRCULAR ARC,2aHALF CIRCLE,23aLEFT TRIANGLE",
    "aRIGHT TRIANGLE,263aBLADE SCISSORS,14aRIGHT PENCIL,63bDROP-SHADOWED WHITE SQUARE",
    "1bSHADOWED WHITE SQUARE,129aLEFT CORNER WITH DOT,118122aRIGHT SHADOWED WHITE CIRCLE",
    "1554bBLOCK DIAGONAL LOWER MIDDLE LEFT TO LOWER CENTRE,iRIGHT",
    "dUPPER MIDDLE LEFT TO LOWER CENTRE,iRIGHT,eLEFT TO LOWER CENTRE",
    "aLEFT BLOCK DIAGONAL UPPER MIDDLE LEFT TO UPPER CENTRE,iRIGHT",
    "dLOWER MIDDLE LEFT TO UPPER CENTRE,iRIGHT,eLEFT TO UPPER CENTRE",
    "eMIDDLE LEFT TO UPPER MIDDLE RIGHT,eCENTRE TO LOWER MIDDLE RIGHT",
    "eLEFT TO LOWER MIDDLE RIGHT,eCENTRE TO UPPER MIDDLE RIGHT,eLEFT TO UPPER MIDDLE RIGHT",
    "eCENTRE TO UPPER RIGHT,aRIGHT BLOCK DIAGONAL UPPER CENTRE TO UPPER MIDDLE RIGHT",
    "eLEFT TO UPPER MIDDLE RIGHT,eCENTRE TO LOWER MIDDLE RIGHT,eLEFT TO LOWER MIDDLE RIGHT",
    "eCENTRE TO LOWER RIGHT,eMIDDLE LEFT TO LOWER MIDDLE RIGHT",
    "aAND RIGHT AND LOWER TRIANGULAR THREE QUARTERS BLOCK",
    "1bLEFT AND LOWER TRIANGULAR THREE QUARTERS BLOCK,2aTRIANGULAR ONE QUARTER BLOCK",
    "18aAND LOWER ONE EIGHTH BLOCK,1aONE QUARTER BLOCK,aTHREE EIGHTHS BLOCK",
    "aFIVE EIGHTHS BLOCK,aTHREE QUARTERS BLOCK,aSEVEN EIGHTHS BLOCK,7aHALF MEDIUM SHADE",
    "2bBLOCK AND LOWER HALF INVERSE MEDIUM SHADE,bINVERSE MEDIUM SHADE AND LOWER HALF BLOCK",
    "5aLEFT TO LOWER RIGHT FILL,aRIGHT TO LOWER LEFT FILL,aAND LOWER TRIANGULAR HALF BLOCK",
    "1aLEFT TRIANGULAR MEDIUM SHADE,aRIGHT TRIANGULAR MEDIUM SHADE"]⟩,
  ⟨"UPWARDS", [
    "8593aARROW,13aTWO HEADED ARROW,5aARROW FROM BAR,10bWITH TIP LEFTWARDS,dRIGHTWARDS",
    "12aHARPOON WITH BARB RIGHTWARDS,dLEFTWARDS,5aARROW LEFTWARDS OF DOWNWARDS ARROW",
    "2aPAIRED ARROWS,8aDOUBLE ARROW,12aARROW WITH DOUBLE STROKE,2aDASHED ARROW,5aWHITE ARROW",
    "2cFROM BAR,cON PEDESTAL,eWITH HORIZONTAL BAR,fVERTICAL BAR,bDOUBLE ARROW,dON PEDESTAL",
    "1536aQUADRUPLE ARROW,280aARROW WITH HORIZONTAL STROKE,aTRIPLE ARROW,7aARROW TO BAR",
    "54aTWO-HEADED ARROW FROM SMALL CIRCLE,10aHARPOON WITH BARB RIGHT TO BAR,3dLEFT TO BAR",
    "3dRIGHT FROM BAR,3dLEFT FROM BAR,2eBESIDE UPWARDS HARPOON WITH BARB RIGHT",
    "10fDOWNWARDS HARPOON WITH BARB RIGHT,407aBLACK ARROW,90aTRIANGLE-HEADED ARROW",
    "9bDASHED ARROW,5bARROW TO BAR,9cWITH DOUBLE HORIZONTAL STROKE",
    "5cLEFTWARDS OF DOWNWARDS TRIANGLE-HEADED ARROW,3bPAIRED ARROWS",
    "3aBLACK CIRCLED WHITE ARROW,24aTRIANGLE-HEADED ARROW WITH LONG TIP LEFTWARDS,fRIGHTWARDS",
    "20aWHITE ARROW FROM BAR WITH HORIZONTAL BAR,52aTWO-HEADED ARROW WITH TRIANGLE ARROWHEADS",
    "551aANCORA,116823aROCKET,403aARROW WITH SMALL TRIANGLE ARROWHEAD",
    "3cMEDIUM TRIANGLE ARROWHEAD,3cLARGE TRIANGLE ARROWHEAD,7cSMALL EQUILATERAL ARROWHEAD",
    "3cEQUILATERAL ARROWHEAD,11aTRIANGLE-HEADED ARROW WITH NARROW SHAFT,3dMEDIUM SHAFT",
    "3dBOLD SHAFT,3dHEAVY SHAFT,3dVERY HEAVY SHAFT,3aFINGER-POST ARROW,3aSQUARED ARROW",
    "3aCOMPRESSED ARROW,3aHEAVY COMPRESSED ARROW,3bARROW,11aSANS-SERIF ARROW",
    "63aTRIANGLE ARROWHEAD,3aWHITE ARROW WITHIN TRIANGLE ARROWHEAD,3aARROW WITH NOTCHED TAIL",
    "798bAND RIGHT ONE EIGHTH BLOCK"]⟩]

/-- The names that begin with V. -/
def namesV : List NameGroup := [
  ⟨"VAI", [
    "42240aSYLLABLE EE,bEEN,bHEE,bWEE,bWEEN,bPEE,bBHEE,bBEE,bMBEE,bKPEE,bMGBEE,bGBEE,bFEE,bVEE",
    "bTEE,bTHEE,bDHEE,bDHHEE,bLEE,bREE,bDEE,bNDEE,bSEE,bSHEE,bZEE,bZHEE,bCEE,bJEE,bNJEE,bYEE",
    "bKEE,bNGGEE,bGEE,bMEE,bNEE,bNYEE,bI,bIN,bHI,bHIN,bWI,bWIN,bPI,bBHI,bBI,bMBI,bKPI,bMGBI",
    "bGBI,bFI,bVI,bTI,bTHI,bDHI,bDHHI,bLI,bRI,bDI,bNDI,bSI,bSHI,bZI,bZHI,bCI,bJI,bNJI,bYI,bKI",
    "bNGGI,bGI,bMI,bNI,bNYI,bA,bAN,bNGAN,bHA,bHAN,bWA,bWAN,bPA,bBHA,bBA,bMBA,bKPA,bKPAN,bMGBA",
    "bGBA,bFA,bVA,bTA,bTHA,bDHA,bDHHA,bLA,bRA,bDA,bNDA,bSA,bSHA,bZA,bZHA,bCA,bJA,bNJA,bYA,bKA",
    "bKAN,bNGGA,bGA,bMA,bNA,bNYA,bOO,bOON,bHOO,bWOO,bWOON,bPOO,bBHOO,bBOO,bMBOO,bKPOO,bMGBOO",
    "bGBOO,bFOO,bVOO,bTOO,bTHOO,bDHOO,bDHHOO,bLOO,bROO,bDOO,bNDOO,bSOO,bSHOO,bZOO,bZHOO,bCOO",
    "bJOO,bNJOO,bYOO,bKOO,bNGGOO,bGOO,bMOO,bNOO,bNYOO,bU,bUN,bHU,bHUN,bWU,bWUN,bPU,bBHU,bBU",
    "bMBU,bKPU,bMGBU,bGBU,bFU,bVU,bTU,bTHU,bDHU,bDHHU,bLU,bRU,bDU,bNDU,bSU,bSHU,bZU,bZHU,bCU",
    "bJU,bNJU,bYU,bKU,bNGGU,bGU,bMU,bNU,bNYU,bO,bON,bNGON,bHO,bHON,bWO,bWON,bPO,bBHO,bBO,bMBO",
    "bKPO,bMGBO,bGBO,bGBON,bFO,bVO,bTO,bTHO,bDHO,bDHHO,bLO,bRO,bDO,bNDO,bSO,bSHO,bZO,bZHO,bCO",
    "bJO,bNJO,bYO,bKO,bNGGO,bGO,bMO,bNO,bNYO,bE,bEN,bNGEN,bHE,bHEN,bWE,bWEN,bPE,bBHE,bBE,bMBE",
    "bKPE,bKPEN,bMGBE,bGBE,bGBEN,bFE,bVE,bTE,bTHE,bDHE,bDHHE,bLE,bRE,bDE,bNDE,bSE,bSHE,bZE",
    "bZHE,bCE,bJE,bNJE,bYE,bKE,bNGGE,bNGGEN,bGE,bGEN,bME,bNE,bNYE,bNG,bLENGTHENER,aCOMMA",
    "aFULL STOP,aQUESTION MARK,aSYLLABLE NDOLE FA,cKA,cSOO,aSYMBOL FEENG,bKEENG,bTING,bNII",
    "bBANG,bFAA,bTAA,bDANG,bDOONG,bKUNG,bTONG,bDO-O,bJONG,aDIGIT ZERO,bONE,bTWO,bTHREE,bFOUR",
    "bFIVE,bSIX,bSEVEN,bEIGHT,bNINE,aSYLLABLE NDOLE MA,cDO"]⟩,
  ⟨"VEDIC", [
    "7376aTONE KARSHANA,bSHARA,bPRENKHA,aSIGN NIHSHVASA,bYAJURVEDIC MIDLINE SVARITA",
    "aTONE YAJURVEDIC AGGRAVATED INDEPENDENT SVARITA,cINDEPENDENT SVARITA",
    "cKATHAKA INDEPENDENT SVARITA,bCANDRA BELOW",
    "bYAJURVEDIC KATHAKA INDEPENDENT SVARITA SCHROEDER,bDOUBLE SVARITA,bTRIPLE SVARITA",
    "bKATHAKA ANUDATTA,bDOT BELOW,bTWO DOTS BELOW,bTHREE DOTS BELOW",
    "bRIGVEDIC KASHMIRI INDEPENDENT SVARITA,bATHARVAVEDIC INDEPENDENT SVARITA",
    "aSIGN VISARGA SVARITA,cUDATTA,bREVERSED VISARGA UDATTA,bVISARGA ANUDATTA",
    "bREVERSED VISARGA ANUDATTA,bVISARGA UDATTA WITH TAIL,cANUDATTA WITH TAIL",
    "bANUSVARA ANTARGOMUKHA,cBAHIRGOMUKHA,cVAMAGOMUKHA,dWITH TAIL,bTIRYAK",
    "bHEXIFORM LONG ANUSVARA,bLONG ANUSVARA,bRTHANG LONG ANUSVARA,bANUSVARA UBHAYATO MUKHA",
    "bARDHAVISARGA,bROTATED ARDHAVISARGA,aTONE CANDRA ABOVE,aSIGN JIHVAMULIYA,bUPADHMANIYA",
    "bATIKRAMA,aTONE RING ABOVE,bDOUBLE RING ABOVE,aSIGN DOUBLE ANUSVARA ANTARGOMUKHA"]⟩,
  ⟨"VERTICAL", [
    "124aLINE,8161aFOUR DOTS,655aELLIPSIS,144aLINE WITH MIDDLE DOT,80bEXTENSION",
    "727aMALE WITH STROKE SIGN,289aBAR WITH HORIZONTAL STROKE,463aZIGZAG LINE",
    "53aBAR BESIDE RIGHT TRIANGLE,273bTRIPLE RIGHT TURNSTILE,1bDOUBLE LEFT TURNSTILE",
    "10aLINE WITH CIRCLE ABOVE,dBELOW,142aTAB KEY,687aTILDE,13aSIX DOTS,499aKANA REPEAT MARK",
    "cWITH VOICED SOUND MARK,cMARK UPPER HALF,cWITH VOICED SOUND MARK UPPER HALF",
    "cMARK LOWER HALF,5aIDEOGRAPHIC ITERATION MARK,116330aTRAFFIC LIGHT",
    "1225aONE EIGHTH BLOCK-2,cBLOCK-3,cBLOCK-4,cBLOCK-5,cBLOCK-6,cBLOCK-7"]⟩,
  ⟨"VERY", [
    "8920aMUCH LESS-THAN,bGREATER-THAN,119714aHEAVY SOLIDUS,bREVERSE SOLIDUS,266bWHITE CIRCLE",
    "9cSQUARE,18aBOLD GREEK CROSS,aHEAVY GREEK CROSS,6bSALTIRE,5bFIVE SPOKED ASTERISK",
    "5bSIX SPOKED ASTERISK,5bEIGHT SPOKED ASTERISK,16cPOINTED BLACK STAR"]⟩,
  ⟨"VITHKUQI", [
    "66928aCAPITAL LETTER A,cBBE,cBE,cCE,cCHE,cDE,cDHE,cEI,cE,cFE,cGA,1cHA,cHHA,cI,cIJE,cJE",
    "cKA,cLA,cLLA,cME,cNE,cNJE,cO,cPE,cQA,cRE,1cSE,cSHE,cTE,cTHE,cU,cVE,cXE,1cY,cZE",
    "1aSMALL LETTER A,cBBE,cBE,cCE,cCHE,cDE,cDHE,cEI,cE,cFE,cGA,1cHA,cHHA,cI,cIJE,cJE,cKA,cLA",
    "cLLA,cME,cNE,cNJE,cO,cPE,cQA,cRE,1cSE,cSHE,cTE,cTHE,cU,cVE,cXE,1cY,cZE"]⟩,
  ⟨"VULGAR", [
    "188aFRACTION ONE QUARTER,cHALF,bTHREE QUARTERS,8337bONE SEVENTH,cNINTH,cTENTH,cTHIRD",
    "bTWO THIRDS,bONE FIFTH,bTWO FIFTHS,bTHREE FIFTHS,bFOUR FIFTHS,bONE SIXTH,bFIVE SIXTHS",
    "bONE EIGHTH,bTHREE EIGHTHS,bFIVE EIGHTHS,bSEVEN EIGHTHS,42bZERO THIRDS"]⟩]

/-- The names that begin with W. -/
def namesW : List NameGroup := [
  ⟨"WANCHO", [
    "123584aLETTER AA,bA,bBA,bCA,bDA,bGA,bYA,bPHA,bLA,bNA,bPA,bTA,bTHA,bFA,bSA,bSHA,bJA,bZA",
    "bWA,bVA,bKA,bO,bAU,bRA,bMA,bKHA,bHA,bE,bI,bNGA,bU,bLLHA,bTSA,bTRA,bONG,bAANG,bANG,bING",
    "bON,bEN,bAAN,bNYA,bUEN,bYIH,aTONE TUP,bTUPNI,bKOI,bKOINI,aDIGIT ZERO,bONE,bTWO,bTHREE",
    "bFOUR,bFIVE,bSIX,bSEVEN,bEIGHT,bNINE,5aNGUN SIGN"]⟩,
  ⟨"WARANG", [
    "71840aCITI CAPITAL LETTER NGAA,dA,dWI,dYU,dYA,dYO,dII,dUU,dE,dO,dANG,dGA,dKO,dENY,dYUJ",
    "dUC,dENN,dODD,dTTE,dNUNG,dDA,dAT,dAM,dBU,dPU,dHIYO,dHOLO,dHORR,dHAR,dSSUU,dSII,dVIYO",
    "bSMALL LETTER NGAA,dA,dWI,dYU,dYA,dYO,dII,dUU,dE,dO,dANG,dGA,dKO,dENY,dYUJ,dUC,dENN,dODD",
    "dTTE,dNUNG,dDA,dAT,dAM,dBU,dPU,dHIYO,dHOLO,dHORR,dHAR,dSSUU,dSII,dVIYO,bDIGIT ZERO,cONE",
    "cTWO,cTHREE,cFOUR,cFIVE,cSIX,cSEVEN,cEIGHT,cNINE,bNUMBER TEN,cTWENTY,cTHIRTY,cFORTY",
    "cFIFTY,cSIXTY,cSEVENTY,cEIGHTY,cNINETY,12bOM"]⟩,
  ⟨"WATER", ["127754aWAVE,248aBUFFALO,698aCLOSET,638aPOLO"]⟩,
  ⟨"WAVE", ["10547aARROW POINTING DIRECTLY RIGHT,523dLEFT,1244aDASH"]⟩,
  ⟨"WAVING", ["127987aWHITE FLAG,aBLACK FLAG,86aHAND SIGN"]⟩,
  ⟨"WAVY", ["8967aLINE,3368aDASH,52762aOVERLINE,3aLOW LINE"]⟩,
  ⟨"WHITE", [
    "9093aSQUARE WITH CENTRE VERTICAL LINE,92aTRAPEZIUM,446aSQUARE,bWITH ROUNDED CORNERS",
    "bCONTAINING BLACK SMALL SQUARE,7aSMALL SQUARE,1aRECTANGLE,1aVERTICAL RECTANGLE",
    "1aPARALLELOGRAM,1aUP-POINTING TRIANGLE,1bSMALL TRIANGLE,1aRIGHT-POINTING TRIANGLE",
    "1bSMALL TRIANGLE,1bPOINTER,1aDOWN-POINTING TRIANGLE,1bSMALL TRIANGLE",
    "1aLEFT-POINTING TRIANGLE,1bSMALL TRIANGLE,1bPOINTER,1aDIAMOND",
    "bCONTAINING BLACK SMALL DIAMOND,2aCIRCLE,26aBULLET,4aSQUARE WITH VERTICAL BISECTING LINE",
    "aUP-POINTING TRIANGLE WITH DOT,3aSQUARE WITH UPPER LEFT QUADRANT,cLOWER LEFT QUADRANT",
    "dRIGHT QUADRANT,cUPPER RIGHT QUADRANT,aCIRCLE WITH UPPER LEFT QUADRANT",
    "cLOWER LEFT QUADRANT,dRIGHT QUADRANT,cUPPER RIGHT QUADRANT,3aMEDIUM SQUARE,1bSMALL SQUARE",
    "8aSTAR,8aTELEPHONE,6aSHOGI PIECE,5aLEFT POINTING INDEX,aUP POINTING INDEX",
    "aRIGHT POINTING INDEX,aDOWN POINTING INDEX,25aFROWNING FACE,aSMILING FACE,1aSUN WITH RAYS",
    "23aCHESS KING,bQUEEN,bROOK,bBISHOP,bKNIGHT,bPAWN,7aHEART SUIT,aDIAMOND SUIT,1aSPADE SUIT",
    "2aCLUB SUIT,30aCIRCLE WITH DOT RIGHT,cTWO DOTS,8aFLAG,47aDRAUGHTS MAN,bKING",
    "9aDIAMOND IN SQUARE,11aTWO-WAY LEFT WAY TRAFFIC,1aLEFT LANE MERGE",
    "37aFLAG WITH HORIZONTAL MIDDLE BLACK STRIPE,4aSCISSORS,aHEAVY CHECK MARK,11aNIB",
    "21aFOUR POINTED STAR,24aFLORETTE,19aQUESTION MARK ORNAMENT,aEXCLAMATION MARK ORNAMENT",
    "107aTRIANGLE CONTAINING SMALL WHITE TRIANGLE,14aDIAMOND WITH CENTRED DOT",
    "16aCONCAVE-SIDED DIAMOND,cWITH LEFTWARDS TICK,dRIGHTWARDS TICK",
    "aSQUARE WITH LEFTWARDS TICK,cRIGHTWARDS TICK,496aHOURGLASS,21aCIRCLE WITH DOWN ARROW",
    "273aVERTICAL BAR,29aLARGE SQUARE,1aVERY SMALL SQUARE,1aPENTAGON,aHEXAGON,4aMEDIUM DIAMOND",
    "1bLOZENGE,2aSMALL LOZENGE,1aHORIZONTAL ELLIPSE,1aVERTICAL ELLIPSE,32aMEDIUM STAR",
    "1aSMALL STAR,1aRIGHT-POINTING PENTAGON,121aFOUR POINTED CUSP,14aMOON SELENA",
    "53864aSESAME DOT,62684aSUN,bWITH SMALL CLOUD,bBEHIND CLOUD,dWITH RAIN,202aPENNANT",
    "84aUP POINTING BACKHAND INDEX,aDOWN POINTING BACKHAND INDEX,aLEFT POINTING BACKHAND INDEX",
    "aRIGHT POINTING BACKHAND INDEX,100aFLOWER,132aSQUARE BUTTON,18aLATIN CROSS",
    "55aTOUCHTONE TELEPHONE,24aDOWN POINTING LEFT HAND INDEX,19aHARD SHELL FLOPPY DISK",
    "478aCIRCLE CONTAINING BLACK SMALL CIRCLE,9aSQUARE CONTAINING BLACK VERY SMALL SQUARE",
    "dMEDIUM SQUARE,4aDIAMOND CONTAINING BLACK VERY SMALL DIAMOND,dMEDIUM DIAMOND",
    "4aLOZENGE CONTAINING BLACK SMALL LOZENGE,267aARROW SHAFT WIDTH ONE,dTWO THIRDS,95aHEART",
    "248aCHESS KNIGHT ROTATED FORTY-FIVE DEGREES,2bKING ROTATED NINETY DEGREES",
    "bQUEEN ROTATED NINETY DEGREES,bROOK ROTATED NINETY DEGREES,bBISHOP ROTATED NINETY DEGREES",
    "bKNIGHT ROTATED NINETY DEGREES,bPAWN ROTATED NINETY DEGREES",
    "12bKNIGHT ROTATED ONE HUNDRED THIRTY-FIVE DEGREES,2bTURNED KING,cQUEEN,cROOK,cBISHOP",
    "cKNIGHT,cPAWN,12bKNIGHT ROTATED TWO HUNDRED TWENTY-FIVE DEGREES",
    "2bKING ROTATED TWO HUNDRED SEVENTY DEGREES,bQUEEN ROTATED TWO HUNDRED SEVENTY DEGREES",
    "bROOK ROTATED TWO HUNDRED SEVENTY DEGREES,bBISHOP ROTATED TWO HUNDRED SEVENTY DEGREES",
    "bKNIGHT ROTATED TWO HUNDRED SEVENTY DEGREES,bPAWN ROTATED TWO HUNDRED SEVENTY DEGREES",
    "12bKNIGHT ROTATED THREE HUNDRED FIFTEEN DEGREES,2bEQUIHOPPER,2cROTATED NINETY DEGREES",
    "2bKNIGHT-QUEEN,bKNIGHT-ROOK,bKNIGHT-BISHOP,367aHEAVY SALTIRE WITH ROUNDED CORNERS",
    "9aUP-POINTING CHEVRON"]⟩,
  ⟨"WIDE-HEADED", [
    "129120aLEFTWARDS LIGHT BARB ARROW,aUPWARDS LIGHT BARB ARROW,aRIGHTWARDS LIGHT BARB ARROW",
    "aDOWNWARDS LIGHT BARB ARROW,aNORTH WEST LIGHT BARB ARROW,bEAST LIGHT BARB ARROW",
    "aSOUTH EAST LIGHT BARB ARROW,bWEST LIGHT BARB ARROW,aLEFTWARDS BARB ARROW",
    "aUPWARDS BARB ARROW,aRIGHTWARDS BARB ARROW,aDOWNWARDS BARB ARROW,aNORTH WEST BARB ARROW",
    "bEAST BARB ARROW,aSOUTH EAST BARB ARROW,bWEST BARB ARROW,aLEFTWARDS MEDIUM BARB ARROW",
    "aUPWARDS MEDIUM BARB ARROW,aRIGHTWARDS MEDIUM BARB ARROW,aDOWNWARDS MEDIUM BARB ARROW",
    "aNORTH WEST MEDIUM BARB ARROW,bEAST MEDIUM BARB ARROW,aSOUTH EAST MEDIUM BARB ARROW",
    "bWEST MEDIUM BARB ARROW,aLEFTWARDS HEAVY BARB ARROW,aUPWARDS HEAVY BARB ARROW",
    "aRIGHTWARDS HEAVY BARB ARROW,aDOWNWARDS HEAVY BARB ARROW,aNORTH WEST HEAVY BARB ARROW",
    "bEAST HEAVY BARB ARROW,aSOUTH EAST HEAVY BARB ARROW,bWEST HEAVY BARB ARROW",
    "aLEFTWARDS VERY HEAVY BARB ARROW,aUPWARDS VERY HEAVY BARB ARROW",
    "aRIGHTWARDS VERY HEAVY BARB ARROW,aDOWNWARDS VERY HEAVY BARB ARROW",
    "aNORTH WEST VERY HEAVY BARB ARROW,bEAST VERY HEAVY BARB ARROW",
    "aSOUTH EAST VERY HEAVY BARB ARROW,bWEST VERY HEAVY BARB ARROW"]⟩,
  ⟨"WOMANS", ["128082aHAT,7aCLOTHES,6aSANDAL,aBOOTS"]⟩]

/-- The names that begin with X. -/
def namesX : List NameGroup := [
  ⟨"XIANGQI", [
    "129632aRED GENERAL,bMANDARIN,bELEPHANT,bHORSE,bCHARIOT,bCANNON,bSOLDIER,aBLACK GENERAL",
    "bMANDARIN,bELEPHANT,bHORSE,bCHARIOT,bCANNON,bSOLDIER"]⟩]

/-- The names that begin with Y. -/
def namesY : List NameGroup := [
  ⟨"YEZIDI", [
    "69248aLETTER ELIF,bBE,bPE,bPHE,bTHE,bSE,bCIM,bCHIM,bCHHIM,bHHA,bXA,bDAL,bZAL,bRA,bRHA,bZA",
    "bJA,bSIN,bSHIN,bSAD,bDAD,bTA,bZE,bEYN,bXHEYN,bFA,bVA,cALTERNATE FORM,bQAF,bKAF,bKHAF,bGAF",
    "bLAM,bMIM,bNUN,bUM,bWAW,bOW,bEW,bHAY,bYOT,bET,1aCOMBINING HAMZA MARK,bMADDA MARK",
    "aHYPHENATION MARK,2aLETTER LAM WITH DOT ABOVE,bYOT WITH CIRCUMFLEX ABOVE"]⟩,
  ⟨"YI", [
    "40960aSYLLABLE IT,bIX,bI,bIP,bIET,bIEX,bIE,bIEP,bAT,bAX,bA,bAP,bUOX,bUO,bUOP,bOT,bOX,bO",
    "bOP,bEX,bE,bWU,bBIT,bBIX,bBI,bBIP,bBIET,bBIEX,bBIE,bBIEP,bBAT,bBAX,bBA,bBAP,bBUOX,bBUO",
    "bBUOP,bBOT,bBOX,bBO,bBOP,bBEX,bBE,bBEP,bBUT,bBUX,bBU,bBUP,bBURX,bBUR,bBYT,bBYX,bBY,bBYP",
    "bBYRX,bBYR,bPIT,bPIX,bPI,bPIP,bPIEX,bPIE,bPIEP,bPAT,bPAX,bPA,bPAP,bPUOX,bPUO,bPUOP,bPOT",
    "bPOX,bPO,bPOP,bPUT,bPUX,bPU,bPUP,bPURX,bPUR,bPYT,bPYX,bPY,bPYP,bPYRX,bPYR,bBBIT,bBBIX",
    "bBBI,bBBIP,bBBIET,bBBIEX,bBBIE,bBBIEP,bBBAT,bBBAX,bBBA,bBBAP,bBBUOX,bBBUO,bBBUOP,bBBOT",
    "bBBOX,bBBO,bBBOP,bBBEX,bBBE,bBBEP,bBBUT,bBBUX,bBBU,bBBUP,bBBURX,bBBUR,bBBYT,bBBYX,bBBY",
    "bBBYP,bNBIT,bNBIX,bNBI,bNBIP,bNBIEX,bNBIE,bNBIEP,bNBAT,bNBAX,bNBA,bNBAP,bNBOT,bNBOX,bNBO",
    "bNBOP,bNBUT,bNBUX,bNBU,bNBUP,bNBURX,bNBUR,bNBYT,bNBYX,bNBY,bNBYP,bNBYRX,bNBYR,bHMIT,bHMIX",
    "bHMI,bHMIP,bHMIEX,bHMIE,bHMIEP,bHMAT,bHMAX,bHMA,bHMAP,bHMUOX,bHMUO,bHMUOP,bHMOT,bHMOX",
    "bHMO,bHMOP,bHMUT,bHMUX,bHMU,bHMUP,bHMURX,bHMUR,bHMYX,bHMY,bHMYP,bHMYRX,bHMYR,bMIT,bMIX",
    "bMI,bMIP,bMIEX,bMIE,bMIEP,bMAT,bMAX,bMA,bMAP,bMUOT,bMUOX,bMUO,bMUOP,bMOT,bMOX,bMO,bMOP",
    "bMEX,bME,bMUT,bMUX,bMU,bMUP,bMURX,bMUR,bMYT,bMYX,bMY,bMYP,bFIT,bFIX,bFI,bFIP,bFAT,bFAX",
    "bFA,bFAP,bFOX,bFO,bFOP,bFUT,bFUX,bFU,bFUP,bFURX,bFUR,bFYT,bFYX,bFY,bFYP,bVIT,bVIX,bVI",
    "bVIP,bVIET,bVIEX,bVIE,bVIEP,bVAT,bVAX,bVA,bVAP,bVOT,bVOX,bVO,bVOP,bVEX,bVEP,bVUT,bVUX,bVU",
    "bVUP,bVURX,bVUR,bVYT,bVYX,bVY,bVYP,bVYRX,bVYR,bDIT,bDIX,bDI,bDIP,bDIEX,bDIE,bDIEP,bDAT",
    "bDAX,bDA,bDAP,bDUOX,bDUO,bDOT,bDOX,bDO,bDOP,bDEX,bDE,bDEP,bDUT,bDUX,bDU,bDUP,bDURX,bDUR",
    "bTIT,bTIX,bTI,bTIP,bTIEX,bTIE,bTIEP,bTAT,bTAX,bTA,bTAP,bTUOT,bTUOX,bTUO,bTUOP,bTOT,bTOX",
    "bTO,bTOP,bTEX,bTE,bTEP,bTUT,bTUX,bTU,bTUP,bTURX,bTUR,bDDIT,bDDIX,bDDI,bDDIP,bDDIEX,bDDIE",
    "bDDIEP,bDDAT,bDDAX,bDDA,bDDAP,bDDUOX,bDDUO,bDDUOP,bDDOT,bDDOX,bDDO,bDDOP,bDDEX,bDDE,bDDEP",
    "bDDUT,bDDUX,bDDU,bDDUP,bDDURX,bDDUR,bNDIT,bNDIX,bNDI,bNDIP,bNDIEX,bNDIE,bNDAT,bNDAX,bNDA",
    "bNDAP,bNDOT,bNDOX,bNDO,bNDOP,bNDEX,bNDE,bNDEP,bNDUT,bNDUX,bNDU,bNDUP,bNDURX,bNDUR,bHNIT",
    "bHNIX,bHNI,bHNIP,bHNIET,bHNIEX,bHNIE,bHNIEP,bHNAT,bHNAX,bHNA,bHNAP,bHNUOX,bHNUO,bHNOT",
    "bHNOX,bHNOP,bHNEX,bHNE,bHNEP,bHNUT,bNIT,bNIX,bNI,bNIP,bNIEX,bNIE,bNIEP,bNAX,bNA,bNAP",
    "bNUOX,bNUO,bNUOP,bNOT,bNOX,bNO,bNOP,bNEX,bNE,bNEP,bNUT,bNUX,bNU,bNUP,bNURX,bNUR,bHLIT",
    "bHLIX,bHLI,bHLIP,bHLIEX,bHLIE,bHLIEP,bHLAT,bHLAX,bHLA,bHLAP,bHLUOX,bHLUO,bHLUOP,bHLOX",
    "bHLO,bHLOP,bHLEX,bHLE,bHLEP,bHLUT,bHLUX,bHLU,bHLUP,bHLURX,bHLUR,bHLYT,bHLYX,bHLY,bHLYP",
    "bHLYRX,bHLYR,bLIT,bLIX,bLI,bLIP,bLIET,bLIEX,bLIE,bLIEP,bLAT,bLAX,bLA,bLAP,bLUOT,bLUOX",
    "bLUO,bLUOP,bLOT,bLOX,bLO,bLOP,bLEX,bLE,bLEP,bLUT,bLUX,bLU,bLUP,bLURX,bLUR,bLYT,bLYX,bLY",
    "bLYP,bLYRX,bLYR,bGIT,bGIX,bGI,bGIP,bGIET,bGIEX,bGIE,bGIEP,bGAT,bGAX,bGA,bGAP,bGUOT,bGUOX",
    "bGUO,bGUOP,bGOT,bGOX,bGO,bGOP,bGET,bGEX,bGE,bGEP,bGUT,bGUX,bGU,bGUP,bGURX,bGUR,bKIT,bKIX",
    "bKI,bKIP,bKIEX,bKIE,bKIEP,bKAT,bKAX,bKA,bKAP,bKUOX,bKUO,bKUOP,bKOT,bKOX,bKO,bKOP,bKET",
    "bKEX,bKE,bKEP,bKUT,bKUX,bKU,bKUP,bKURX,bKUR,bGGIT,bGGIX,bGGI,bGGIEX,bGGIE,bGGIEP,bGGAT",
    "bGGAX,bGGA,bGGAP,bGGUOT,bGGUOX,bGGUO,bGGUOP,bGGOT,bGGOX,bGGO,bGGOP,bGGET,bGGEX,bGGE,bGGEP",
    "bGGUT,bGGUX,bGGU,bGGUP,bGGURX,bGGUR,bMGIEX,bMGIE,bMGAT,bMGAX,bMGA,bMGAP,bMGUOX,bMGUO",
    "bMGUOP,bMGOT,bMGOX,bMGO,bMGOP,bMGEX,bMGE,bMGEP,bMGUT,bMGUX,bMGU,bMGUP,bMGURX,bMGUR,bHXIT",
    "bHXIX,bHXI,bHXIP,bHXIET,bHXIEX,bHXIE,bHXIEP,bHXAT,bHXAX,bHXA,bHXAP,bHXUOT,bHXUOX,bHXUO",
    "bHXUOP,bHXOT,bHXOX,bHXO,bHXOP,bHXEX,bHXE,bHXEP,bNGIEX,bNGIE,bNGIEP,bNGAT,bNGAX,bNGA,bNGAP",
    "bNGUOT,bNGUOX,bNGUO,bNGOT,bNGOX,bNGO,bNGOP,bNGEX,bNGE,bNGEP,bHIT,bHIEX,bHIE,bHAT,bHAX,bHA",
    "bHAP,bHUOT,bHUOX,bHUO,bHUOP,bHOT,bHOX,bHO,bHOP,bHEX,bHE,bHEP,bWAT,bWAX,bWA,bWAP,bWUOX",
    "bWUO,bWUOP,bWOX,bWO,bWOP,bWEX,bWE,bWEP,bZIT,bZIX,bZI,bZIP,bZIEX,bZIE,bZIEP,bZAT,bZAX,bZA",
    "bZAP,bZUOX,bZUO,bZUOP,bZOT,bZOX,bZO,bZOP,bZEX,bZE,bZEP,bZUT,bZUX,bZU,bZUP,bZURX,bZUR,bZYT",
    "bZYX,bZY,bZYP,bZYRX,bZYR,bCIT,bCIX,bCI,bCIP,bCIET,bCIEX,bCIE,bCIEP,bCAT,bCAX,bCA,bCAP",
    "bCUOX,bCUO,bCUOP,bCOT,bCOX,bCO,bCOP,bCEX,bCE,bCEP,bCUT,bCUX,bCU,bCUP,bCURX,bCUR,bCYT,bCYX",
    "bCY,bCYP,bCYRX,bCYR,bZZIT,bZZIX,bZZI,bZZIP,bZZIET,bZZIEX,bZZIE,bZZIEP,bZZAT,bZZAX,bZZA",
    "bZZAP,bZZOX,bZZO,bZZOP,bZZEX,bZZE,bZZEP,bZZUX,bZZU,bZZUP,bZZURX,bZZUR,bZZYT,bZZYX,bZZY",
    "bZZYP,bZZYRX,bZZYR,bNZIT,bNZIX,bNZI,bNZIP,bNZIEX,bNZIE,bNZIEP,bNZAT,bNZAX,bNZA,bNZAP",
    "bNZUOX,bNZUO,bNZOX,bNZOP,bNZEX,bNZE,bNZUX,bNZU,bNZUP,bNZURX,bNZUR,bNZYT,bNZYX,bNZY,bNZYP",
    "bNZYRX,bNZYR,bSIT,bSIX,bSI,bSIP,bSIEX,bSIE,bSIEP,bSAT,bSAX,bSA,bSAP,bSUOX,bSUO,bSUOP,bSOT",
    "bSOX,bSO,bSOP,bSEX,bSE,bSEP,bSUT,bSUX,bSU,bSUP,bSURX,bSUR,bSYT,bSYX,bSY,bSYP,bSYRX,bSYR",
    "bSSIT,bSSIX,bSSI,bSSIP,bSSIEX,bSSIE,bSSIEP,bSSAT,bSSAX,bSSA,bSSAP,bSSOT,bSSOX,bSSO,bSSOP",
    "bSSEX,bSSE,bSSEP,bSSUT,bSSUX,bSSU,bSSUP,bSSYT,bSSYX,bSSY,bSSYP,bSSYRX,bSSYR,bZHAT,bZHAX",
    "bZHA,bZHAP,bZHUOX,bZHUO,bZHUOP,bZHOT,bZHOX,bZHO,bZHOP,bZHET,bZHEX,bZHE,bZHEP,bZHUT,bZHUX",
    "bZHU,bZHUP,bZHURX,bZHUR,bZHYT,bZHYX,bZHY,bZHYP,bZHYRX,bZHYR,bCHAT,bCHAX,bCHA,bCHAP,bCHUOT",
    "bCHUOX,bCHUO,bCHUOP,bCHOT,bCHOX,bCHO,bCHOP,bCHET,bCHEX,bCHE,bCHEP,bCHUX,bCHU,bCHUP,bCHURX",
    "bCHUR,bCHYT,bCHYX,bCHY,bCHYP,bCHYRX,bCHYR,bRRAX,bRRA,bRRUOX,bRRUO,bRROT,bRROX,bRRO,bRROP",
    "bRRET,bRREX,bRRE,bRREP,bRRUT,bRRUX,bRRU,bRRUP,bRRURX,bRRUR,bRRYT,bRRYX,bRRY,bRRYP,bRRYRX",
    "bRRYR,bNRAT,bNRAX,bNRA,bNRAP,bNROX,bNRO,bNROP,bNRET,bNREX,bNRE,bNREP,bNRUT,bNRUX,bNRU",
    "bNRUP,bNRURX,bNRUR,bNRYT,bNRYX,bNRY,bNRYP,bNRYRX,bNRYR,bSHAT,bSHAX,bSHA,bSHAP,bSHUOX",
    "bSHUO,bSHUOP,bSHOT,bSHOX,bSHO,bSHOP,bSHET,bSHEX,bSHE,bSHEP,bSHUT,bSHUX,bSHU,bSHUP,bSHURX",
    "bSHUR,bSHYT,bSHYX,bSHY,bSHYP,bSHYRX,bSHYR,bRAT,bRAX,bRA,bRAP,bRUOX,bRUO,bRUOP,bROT,bROX",
    "bRO,bROP,bREX,bRE,bREP,bRUT,bRUX,bRU,bRUP,bRURX,bRUR,bRYT,bRYX,bRY,bRYP,bRYRX,bRYR,bJIT",
    "bJIX,bJI,bJIP,bJIET,bJIEX,bJIE,bJIEP,bJUOT,bJUOX,bJUO,bJUOP,bJOT,bJOX,bJO,bJOP,bJUT,bJUX",
    "bJU,bJUP,bJURX,bJUR,bJYT,bJYX,bJY,bJYP,bJYRX,bJYR,bQIT,bQIX,bQI,bQIP,bQIET,bQIEX,bQIE",
    "bQIEP,bQUOT,bQUOX,bQUO,bQUOP,bQOT,bQOX,bQO,bQOP,bQUT,bQUX,bQU,bQUP,bQURX,bQUR,bQYT,bQYX",
    "bQY,bQYP,bQYRX,bQYR,bJJIT,bJJIX,bJJI,bJJIP,bJJIET,bJJIEX,bJJIE,bJJIEP,bJJUOX,bJJUO,bJJUOP",
    "bJJOT,bJJOX,bJJO,bJJOP,bJJUT,bJJUX,bJJU,bJJUP,bJJURX,bJJUR,bJJYT,bJJYX,bJJY,bJJYP,bNJIT",
    "bNJIX,bNJI,bNJIP,bNJIET,bNJIEX,bNJIE,bNJIEP,bNJUOX,bNJUO,bNJOT,bNJOX,bNJO,bNJOP,bNJUX",
    "bNJU,bNJUP,bNJURX,bNJUR,bNJYT,bNJYX,bNJY,bNJYP,bNJYRX,bNJYR,bNYIT,bNYIX,bNYI,bNYIP,bNYIET",
    "bNYIEX,bNYIE,bNYIEP,bNYUOX,bNYUO,bNYUOP,bNYOT,bNYOX,bNYO,bNYOP,bNYUT,bNYUX,bNYU,bNYUP",
    "bXIT,bXIX,bXI,bXIP,bXIET,bXIEX,bXIE,bXIEP,bXUOX,bXUO,bXOT,bXOX,bXO,bXOP,bXYT,bXYX,bXY",
    "bXYP,bXYRX,bXYR,bYIT,bYIX,bYI,bYIP,bYIET,bYIEX,bYIE,bYIEP,bYUOT,bYUOX,bYUO,bYUOP,bYOT",
    "bYOX,bYO,bYOP,bYUT,bYUX,bYU,bYUP,bYURX,bYUR,bYYT,bYYX,bYY,bYYP,bYYRX,bYYR,3aRADICAL QOT",
    "bLI,bKIT,bNYIP,bCYP,bSSI,bGGOP,bGEP,bMI,bHXIT,bLYR,bBBUT,bMOP,bYO,bPUT,bHXUO,bTAT,bGA",
    "bZUP,bCYT,bDDUR,bBUR,bGGUO,bNYOP,bTU,bOP,bJJUT,bZOT,bPYT,bHMO,bYIT,bVUR,bSHY,bVEP,bZA,bJO",
    "bNZUP,bJJY,bGOT,bJJIE,bWO,bDU,bSHUR,bLIE,bCY,bCUOP,bCIP,bHXOP,bSHAT,bZUR,bSHOP,bCHE",
    "bZZIET,bNBIE,bKE"]⟩]

/-- The names that begin with Z. -/
def namesZ : List NameGroup := [
  ⟨"Z", [
    "8959aNOTATION BAG MEMBERSHIP,1665bSPOT,bTYPE COLON,4bLEFT IMAGE BRACKET",
    "bRIGHT IMAGE BRACKET,bLEFT BINDING BRACKET,bRIGHT BINDING BRACKET,148bSCHEMA COMPOSITION",
    "cPIPING,cPROJECTION,28bRELATIONAL COMPOSITION,37bDOMAIN ANTIRESTRICTION",
    "bRANGE ANTIRESTRICTION"]⟩,
  ⟨"ZANABAZAR", [
    "72192aSQUARE LETTER A,bVOWEL SIGN I,dUE,dU,dE,dOE,dO,dAI,dAU,dREVERSED I,cLENGTH MARK",
    "bLETTER KA,cKHA,cGA,cGHA,cNGA,cCA,cCHA,cJA,cNYA,cTTA,cTTHA,cDDA,cDDHA,cNNA,cTA,cTHA,cDA",
    "cDHA,cNA,cPA,cPHA,cBA,cBHA,cMA,cTSA,cTSHA,cDZA,cDZHA,cZHA,cZA,c-A,cYA,cRA,cLA,cVA,cSHA",
    "cSSA,cSA,cHA,cKSSA,bFINAL CONSONANT MARK,bSIGN VIRAMA,cCANDRABINDU,dWITH ORNAMENT",
    "cCANDRA WITH ORNAMENT,cANUSVARA,cVISARGA,bCLUSTER-INITIAL LETTER RA",
    "bCLUSTER-FINAL LETTER YA,dRA,dLA,dVA,bINITIAL HEAD MARK,bCLOSING HEAD MARK,bMARK TSHEG",
    "cSHAD,cDOUBLE SHAD,cLONG TSHEG,bINITIAL DOUBLE-LINED HEAD MARK",
    "bCLOSING DOUBLE-LINED HEAD MARK,bSUBJOINER"]⟩,
  ⟨"ZERO", ["8203aWIDTH SPACE,bNON-JOINER,bJOINER,57073bNO-BREAK SPACE"]⟩,
  ⟨"ZNAMENNY", [
    "118528aCOMBINING MARK GORAZDO NIZKO S KRYZHEM ON LEFT,cNIZKO S KRYZHEM ON LEFT",
    "cTSATA ON LEFT,cGORAZDO NIZKO ON LEFT,cNIZKO ON LEFT,cSREDNE ON LEFT",
    "cMALO POVYSHE ON LEFT,cPOVYSHE ON LEFT,cVYSOKO ON LEFT,cMALO POVYSHE S KHOKHLOM ON LEFT",
    "cPOVYSHE S KHOKHLOM ON LEFT,cVYSOKO S KHOKHLOM ON LEFT,cGORAZDO NIZKO S KRYZHEM ON RIGHT",
    "cNIZKO S KRYZHEM ON RIGHT,cTSATA ON RIGHT,cGORAZDO NIZKO ON RIGHT,cNIZKO ON RIGHT",
    "cSREDNE ON RIGHT,cMALO POVYSHE ON RIGHT,cPOVYSHE ON RIGHT,cVYSOKO ON RIGHT",
    "cMALO POVYSHE S KHOKHLOM ON RIGHT,cPOVYSHE S KHOKHLOM ON RIGHT",
    "cVYSOKO S KHOKHLOM ON RIGHT,cTSATA S KRYZHEM,cMALO POVYSHE S KRYZHEM",
    "cSTRANNO MALO POVYSHE,cPOVYSHE S KRYZHEM,dSTRANNO,cVYSOKO S KRYZHEM,cMALO POVYSHE STRANNO",
    "cGORAZDO VYSOKO,cZELO,cON,cRAVNO,cTIKHAYA,cBORZAYA,cUDARKA,cPODVERTKA,cLOMKA,cKUPNAYA",
    "cKACHKA,cZEVOK,cSKOBA,cRAZSEKA,cKRYZH ON LEFT,2bTONAL RANGE MARK MRACHNO,eSVETLO",
    "eTRESVETLO,bMARK ZADERZHKA,cDEMESTVENNY ZADERZHKA,cOTSECHKA,cPODCHASHIE",
    "dWITH VERTICAL STROKE,cCHASHKA,dPOLNAYA,cOBLACHKO,cSOROCHYA NOZHKA,cTOCHKA,cDVOETOCHIE",
    "bATTACHING VERTICAL OMET,bMARK CURVED OMET,cKRYZH,bLOWER TONAL RANGE INDICATOR",
    "aPRIZNAK MODIFIER LEVEL-2,cLEVEL-3,cDIRECTION FLIP,cKRYZH,cROG,9aNEUME KRYUK,cTIKHY",
    "bPARAKLIT,bDVA V CHELNU,bKLYUCH,bZANOZHEK,bSTOPITSA,cS OCHKOM,bPEREVODKA,cNEPOSTOYANNAYA",
    "bSTOPITSA WITH SOROCHYA NOZHKA,bCHELYUSTKA,bPALKA,bZAPYATAYA,bGOLUBCHIK BORZY,cTIKHY",
    "cMRACHNY,cSVETLY,cTRESVETLY,bVRAKHIYA PROSTAYA,cMRACHNAYA,cSVETLAYA,cTRESVETLAYA",
    "cKLYUCHEVAYA PROSTAYA,dMRACHNAYA,dSVETLAYA,dTRESVETLAYA,bDOUBLE ZAPYATAYA",
    "bREVERSED CHELYUSTKA,bDERBITSA,bKHAMILO,bCHASHKA,bPODCHASHIE,bSKAMEYTSA MRACHNAYA",
    "cSVETLAYA,cTRESVETLAYA,cTIKHAYA,bDEMESTVENNY KLYUCH,bSKAMEYTSA KLYUCHEVAYA SVETLAYA",
    "cKLYUCHENEPOSTOYANNAYA,cKLYUCHEVAYA TIKHAYA,cDVOECHELNAYA PROSTAYA,dSVETLAYA",
    "dNEPOSTOYANNAYA,dKLYUCHEVAYA,bSLOZHITIE,cS ZAPYATOY,cZAKRYTOE,cS KRYZHEM,bKRYZH,bROG",
    "bFITA,bKOBYLA,bZMEYTSA,bSTATYA,cS ZAPYATOY,dKRYZHEM,dZAPYATOY I KRYZHEM",
    "dKRYZHEM I ZAPYATOY,cZAKRYTAYA,dS ZAPYATOY,cS ROGOM,dDVUMYA ZAPYATYMI",
    "dZAPYATOY I PODCHASHIEM,bPOLKULIZMY,bSTATYA NEPOSTOYANNAYA,bSTRELA PROSTAYA",
    "cMRACHNOTIKHAYA,cKRYZHEVAYA,cPOLUPOVODNAYA,cPOVODNAYA,cNEPOSTOYANNAYA,cKLYUCHEPOVODNAYA",
    "cKLYUCHENEPOSTOYANNAYA,cTIKHAYA PUTNAYA,cDVOECHELNAYA,cDVOECHELNOKRYZHEVAYA",
    "cDVOECHELNOPOVODNAYA,cDVOECHELNAYA KLYUCHEVAYA,cDVOECHELNOPOVODNAYA KLYUCHEVAYA",
    "cGROMNAYA WITH SINGLE ZAPYATAYA,cGROMOPOVODNAYA WITH SINGLE ZAPYATAYA,cGROMNAYA",
    "cGROMOPOVODNAYA,dWITH DOUBLE ZAPYATAYA,cGROMOKRYZHEVAYA,dPOVODNAYA,bMECHIK,cPOVODNY",
    "cKLYUCHEVOY,cKLYUCHEPOVODNY,cKLYUCHENEPOSTOYANNY,bSTRELA TRYASOGLASNAYA,cTRYASOPOVODNAYA",
    "cTRYASOSTRELNAYA,bOSOKA,cSVETLAYA,cTRESVETLAYA,cKRYUKOVAYA SVETLAYA,cKLYUCHEVAYA SVETLAYA",
    "dNEPOSTOYANNAYA,bSTRELA KRYUKOVAYA,dPOVODNAYA,dGROMNAYA WITH SINGLE ZAPYATAYA",
    "dGROMOPOVODNAYA WITH SINGLE ZAPYATAYA,dGROMNAYA,dGROMOPOVODNAYA,eWITH DOUBLE ZAPYATAYA",
    "dGROMOKRYZHEVAYA,ePOVODNAYA,dTRYASKA,bKUFISMA,bOBLAKO,bDUDA,bNEMKA,bPAUK"]⟩]

end Phrasebook.CharName
