import Phrasebook.Text.CharName.Group

/-!
Names of characters that begin with the letters from H to L, by the tables of Unicode 14.
-/

namespace Phrasebook.CharName

/-- The names that begin with H. -/
def namesH : List NameGroup := [
  ⟨"HALFWIDTH", [
    "65377aIDEOGRAPHIC FULL STOP,aLEFT CORNER BRACKET,aRIGHT CORNER BRACKET,aIDEOGRAPHIC COMMA",
    "aKATAKANA MIDDLE DOT,bLETTER WO,cSMALL A,dI,dU,dE,dO,dYA,dYU,dYO,dTU",
    "aKATAKANA-HIRAGANA PROLONGED SOUND MARK,aKATAKANA LETTER A,cI,cU,cE,cO,cKA,cKI,cKU,cKE",
    "cKO,cSA,cSI,cSU,cSE,cSO,cTA,cTI,cTU,cTE,cTO,cNA,cNI,cNU,cNE,cNO,cHA,cHI,cHU,cHE,cHO,cMA",
    "cMI,cMU,cME,cMO,cYA,cYU,cYO,cRA,cRI,cRU,cRE,cRO,cWA,cN,bVOICED SOUND MARK",
    "bSEMI-VOICED SOUND MARK,aHANGUL FILLER,bLETTER KIYEOK,cSSANGKIYEOK,cKIYEOK-SIOS,cNIEUN",
    "cNIEUN-CIEUC,cNIEUN-HIEUH,cTIKEUT,cSSANGTIKEUT,cRIEUL,cRIEUL-KIYEOK,cRIEUL-MIEUM",
    "cRIEUL-PIEUP,cRIEUL-SIOS,cRIEUL-THIEUTH,cRIEUL-PHIEUPH,cRIEUL-HIEUH,cMIEUM,cPIEUP",
    "cSSANGPIEUP,cPIEUP-SIOS,cSIOS,cSSANGSIOS,cIEUNG,cCIEUC,cSSANGCIEUC,cCHIEUCH,cKHIEUKH",
    "cTHIEUTH,cPHIEUPH,cHIEUH,3cA,cAE,cYA,cYAE,cEO,cE,2cYEO,cYE,cO,cWA,cWAE,cOE,2cYO,cU,cWEO",
    "cWE,cWI,cYU,2cEU,cYI,cI,11aFORMS LIGHT VERTICAL,aLEFTWARDS ARROW,aUPWARDS ARROW",
    "aRIGHTWARDS ARROW,aDOWNWARDS ARROW,aBLACK SQUARE,aWHITE CIRCLE"]⟩,
  ⟨"HAMMER", ["9773aAND SICKLE,100bPICK,118421a,439aAND WRENCH"]⟩,
  ⟨"HANGUL", [
    "4352aCHOSEONG KIYEOK,bSSANGKIYEOK,bNIEUN,bTIKEUT,bSSANGTIKEUT,bRIEUL,bMIEUM,bPIEUP",
    "bSSANGPIEUP,bSIOS,bSSANGSIOS,bIEUNG,bCIEUC,bSSANGCIEUC,bCHIEUCH,bKHIEUKH,bTHIEUTH",
    "bPHIEUPH,bHIEUH,bNIEUN-KIYEOK,bSSANGNIEUN,bNIEUN-TIKEUT,bNIEUN-PIEUP,bTIKEUT-KIYEOK",
    "bRIEUL-NIEUN,bSSANGRIEUL,bRIEUL-HIEUH,bKAPYEOUNRIEUL,bMIEUM-PIEUP,bKAPYEOUNMIEUM",
    "bPIEUP-KIYEOK,bPIEUP-NIEUN,bPIEUP-TIKEUT,bPIEUP-SIOS,bPIEUP-SIOS-KIYEOK",
    "bPIEUP-SIOS-TIKEUT,bPIEUP-SIOS-PIEUP,bPIEUP-SSANGSIOS,bPIEUP-SIOS-CIEUC,bPIEUP-CIEUC",
    "bPIEUP-CHIEUCH,bPIEUP-THIEUTH,bPIEUP-PHIEUPH,bKAPYEOUNPIEUP,bKAPYEOUNSSANGPIEUP",
    "bSIOS-KIYEOK,bSIOS-NIEUN,bSIOS-TIKEUT,bSIOS-RIEUL,bSIOS-MIEUM,bSIOS-PIEUP",
    "bSIOS-PIEUP-KIYEOK,bSIOS-SSANGSIOS,bSIOS-IEUNG,bSIOS-CIEUC,bSIOS-CHIEUCH,bSIOS-KHIEUKH",
    "bSIOS-THIEUTH,bSIOS-PHIEUPH,bSIOS-HIEUH,bCHITUEUMSIOS,bCHITUEUMSSANGSIOS,bCEONGCHIEUMSIOS",
    "bCEONGCHIEUMSSANGSIOS,bPANSIOS,bIEUNG-KIYEOK,bIEUNG-TIKEUT,bIEUNG-MIEUM,bIEUNG-PIEUP",
    "bIEUNG-SIOS,bIEUNG-PANSIOS,bSSANGIEUNG,bIEUNG-CIEUC,bIEUNG-CHIEUCH,bIEUNG-THIEUTH",
    "bIEUNG-PHIEUPH,bYESIEUNG,bCIEUC-IEUNG,bCHITUEUMCIEUC,bCHITUEUMSSANGCIEUC",
    "bCEONGCHIEUMCIEUC,bCEONGCHIEUMSSANGCIEUC,bCHIEUCH-KHIEUKH,bCHIEUCH-HIEUH,bCHITUEUMCHIEUCH",
    "bCEONGCHIEUMCHIEUCH,bPHIEUPH-PIEUP,bKAPYEOUNPHIEUPH,bSSANGHIEUH,bYEORINHIEUH",
    "bKIYEOK-TIKEUT,bNIEUN-SIOS,bNIEUN-CIEUC,bNIEUN-HIEUH,bTIKEUT-RIEUL,bFILLER",
    "aJUNGSEONG FILLER,bA,bAE,bYA,bYAE,bEO,bE,bYEO,bYE,bO,bWA,bWAE,bOE,bYO,bU,bWEO,bWE,bWI,bYU",
    "bEU,bYI,bI,bA-O,bA-U,bYA-O,bYA-YO,bEO-O,bEO-U,bEO-EU,bYEO-O,bYEO-U,bO-EO,bO-E,bO-YE,bO-O",
    "bO-U,bYO-YA,bYO-YAE,bYO-YEO,bYO-O,bYO-I,bU-A,bU-AE,bU-EO-EU,bU-YE,bU-U,bYU-A,bYU-EO,bYU-E",
    "bYU-YEO,bYU-YE,bYU-U,bYU-I,bEU-U,bEU-EU,bYI-U,bI-A,bI-YA,bI-O,bI-U,bI-EU,bI-ARAEA,bARAEA",
    "bARAEA-EO,bARAEA-U,bARAEA-I,bSSANGARAEA,bA-EU,bYA-U,bYEO-YA,bO-YA,bO-YAE",
    "aJONGSEONG KIYEOK,bSSANGKIYEOK,bKIYEOK-SIOS,bNIEUN,bNIEUN-CIEUC,bNIEUN-HIEUH,bTIKEUT",
    "bRIEUL,bRIEUL-KIYEOK,bRIEUL-MIEUM,bRIEUL-PIEUP,bRIEUL-SIOS,bRIEUL-THIEUTH,bRIEUL-PHIEUPH",
    "bRIEUL-HIEUH,bMIEUM,bPIEUP,bPIEUP-SIOS,bSIOS,bSSANGSIOS,bIEUNG,bCIEUC,bCHIEUCH,bKHIEUKH",
    "bTHIEUTH,bPHIEUPH,bHIEUH,bKIYEOK-RIEUL,bKIYEOK-SIOS-KIYEOK,bNIEUN-KIYEOK,bNIEUN-TIKEUT",
    "bNIEUN-SIOS,bNIEUN-PANSIOS,bNIEUN-THIEUTH,bTIKEUT-KIYEOK,bTIKEUT-RIEUL,bRIEUL-KIYEOK-SIOS",
    "bRIEUL-NIEUN,bRIEUL-TIKEUT,bRIEUL-TIKEUT-HIEUH,bSSANGRIEUL,bRIEUL-MIEUM-KIYEOK",
    "bRIEUL-MIEUM-SIOS,bRIEUL-PIEUP-SIOS,bRIEUL-PIEUP-HIEUH,bRIEUL-KAPYEOUNPIEUP",
    "bRIEUL-SSANGSIOS,bRIEUL-PANSIOS,bRIEUL-KHIEUKH,bRIEUL-YEORINHIEUH,bMIEUM-KIYEOK",
    "bMIEUM-RIEUL,bMIEUM-PIEUP,bMIEUM-SIOS,bMIEUM-SSANGSIOS,bMIEUM-PANSIOS,bMIEUM-CHIEUCH",
    "bMIEUM-HIEUH,bKAPYEOUNMIEUM,bPIEUP-RIEUL,bPIEUP-PHIEUPH,bPIEUP-HIEUH,bKAPYEOUNPIEUP",
    "bSIOS-KIYEOK,bSIOS-TIKEUT,bSIOS-RIEUL,bSIOS-PIEUP,bPANSIOS,bIEUNG-KIYEOK",
    "bIEUNG-SSANGKIYEOK,bSSANGIEUNG,bIEUNG-KHIEUKH,bYESIEUNG,bYESIEUNG-SIOS,bYESIEUNG-PANSIOS",
    "bPHIEUPH-PIEUP,bKAPYEOUNPHIEUPH,bHIEUH-NIEUN,bHIEUH-RIEUL,bHIEUH-MIEUM,bHIEUH-PIEUP",
    "bYEORINHIEUH,bKIYEOK-NIEUN,bKIYEOK-PIEUP,bKIYEOK-CHIEUCH,bKIYEOK-KHIEUKH,bKIYEOK-HIEUH",
    "bSSANGNIEUN,7726aSINGLE DOT TONE MARK,aDOUBLE DOT TONE MARK,257aLETTER KIYEOK",
    "bSSANGKIYEOK,bKIYEOK-SIOS,bNIEUN,bNIEUN-CIEUC,bNIEUN-HIEUH,bTIKEUT,bSSANGTIKEUT,bRIEUL",
    "bRIEUL-KIYEOK,bRIEUL-MIEUM,bRIEUL-PIEUP,bRIEUL-SIOS,bRIEUL-THIEUTH,bRIEUL-PHIEUPH",
    "bRIEUL-HIEUH,bMIEUM,bPIEUP,bSSANGPIEUP,bPIEUP-SIOS,bSIOS,bSSANGSIOS,bIEUNG,bCIEUC",
    "bSSANGCIEUC,bCHIEUCH,bKHIEUKH,bTHIEUTH,bPHIEUPH,bHIEUH,bA,bAE,bYA,bYAE,bEO,bE,bYEO,bYE,bO",
    "bWA,bWAE,bOE,bYO,bU,bWEO,bWE,bWI,bYU,bEU,bYI,bI,aFILLER,aLETTER SSANGNIEUN,bNIEUN-TIKEUT",
    "bNIEUN-SIOS,bNIEUN-PANSIOS,bRIEUL-KIYEOK-SIOS,bRIEUL-TIKEUT,bRIEUL-PIEUP-SIOS",
    "bRIEUL-PANSIOS,bRIEUL-YEORINHIEUH,bMIEUM-PIEUP,bMIEUM-SIOS,bMIEUM-PANSIOS,bKAPYEOUNMIEUM",
    "bPIEUP-KIYEOK,bPIEUP-TIKEUT,bPIEUP-SIOS-KIYEOK,bPIEUP-SIOS-TIKEUT,bPIEUP-CIEUC",
    "bPIEUP-THIEUTH,bKAPYEOUNPIEUP,bKAPYEOUNSSANGPIEUP,bSIOS-KIYEOK,bSIOS-NIEUN,bSIOS-TIKEUT",
    "bSIOS-PIEUP,bSIOS-CIEUC,bPANSIOS,bSSANGIEUNG,bYESIEUNG,bYESIEUNG-SIOS,bYESIEUNG-PANSIOS",
    "bKAPYEOUNPHIEUPH,bSSANGHIEUH,bYEORINHIEUH,bYO-YA,bYO-YAE,bYO-I,bYU-YEO,bYU-YE,bYU-I",
    "bARAEA,bARAEAE,30673aCHOSEONG TIKEUT-MIEUM,bTIKEUT-PIEUP,bTIKEUT-SIOS,bTIKEUT-CIEUC",
    "bRIEUL-KIYEOK,bRIEUL-SSANGKIYEOK,bRIEUL-TIKEUT,bRIEUL-SSANGTIKEUT,bRIEUL-MIEUM",
    "bRIEUL-PIEUP,bRIEUL-SSANGPIEUP,bRIEUL-KAPYEOUNPIEUP,bRIEUL-SIOS,bRIEUL-CIEUC",
    "bRIEUL-KHIEUKH,bMIEUM-KIYEOK,bMIEUM-TIKEUT,bMIEUM-SIOS,bPIEUP-SIOS-THIEUTH,bPIEUP-KHIEUKH",
    "bPIEUP-HIEUH,bSSANGSIOS-PIEUP,bIEUNG-RIEUL,bIEUNG-HIEUH,bSSANGCIEUC-HIEUH,bSSANGTHIEUTH",
    "bPHIEUPH-HIEUH,bHIEUH-SIOS,bSSANGYEORINHIEUH,11827aJUNGSEONG O-YEO,bO-O-I,bYO-A,bYO-AE",
    "bYO-EO,bU-YEO,bU-I-I,bYU-AE,bYU-O,bEU-A,bEU-EO,bEU-E,bEU-O,bI-YA-O,bI-YAE,bI-YEO,bI-YE",
    "bI-O-I,bI-YO,bI-YU,bI-I,bARAEA-A,bARAEA-E,4aJONGSEONG NIEUN-RIEUL,bNIEUN-CHIEUCH",
    "bSSANGTIKEUT,bSSANGTIKEUT-PIEUP,bTIKEUT-PIEUP,bTIKEUT-SIOS,bTIKEUT-SIOS-KIYEOK",
    "bTIKEUT-CIEUC,bTIKEUT-CHIEUCH,bTIKEUT-THIEUTH,bRIEUL-SSANGKIYEOK,bRIEUL-KIYEOK-HIEUH",
    "bSSANGRIEUL-KHIEUKH,bRIEUL-MIEUM-HIEUH,bRIEUL-PIEUP-TIKEUT,bRIEUL-PIEUP-PHIEUPH",
    "bRIEUL-YESIEUNG,bRIEUL-YEORINHIEUH-HIEUH,bKAPYEOUNRIEUL,bMIEUM-NIEUN,bMIEUM-SSANGNIEUN",
    "bSSANGMIEUM,bMIEUM-PIEUP-SIOS,bMIEUM-CIEUC,bPIEUP-TIKEUT,bPIEUP-RIEUL-PHIEUPH",
    "bPIEUP-MIEUM,bSSANGPIEUP,bPIEUP-SIOS-TIKEUT,bPIEUP-CIEUC,bPIEUP-CHIEUCH,bSIOS-MIEUM",
    "bSIOS-KAPYEOUNPIEUP,bSSANGSIOS-KIYEOK,bSSANGSIOS-TIKEUT,bSIOS-PANSIOS,bSIOS-CIEUC",
    "bSIOS-CHIEUCH,bSIOS-THIEUTH,bSIOS-HIEUH,bPANSIOS-PIEUP,bPANSIOS-KAPYEOUNPIEUP",
    "bYESIEUNG-MIEUM,bYESIEUNG-HIEUH,bCIEUC-PIEUP,bCIEUC-SSANGPIEUP,bSSANGCIEUC,bPHIEUPH-SIOS",
    "bPHIEUPH-THIEUTH"]⟩,
  ⟨"HANGZHOU", [
    "12321aNUMERAL ONE,bTWO,bTHREE,bFOUR,bFIVE,bSIX,bSEVEN,bEIGHT,bNINE,14bTEN,bTWENTY,bTHIRTY"]⟩,
  ⟨"HANIFI", [
    "68864aROHINGYA LETTER A,cBA,cPA,cTA,cTTA,cJA,cCA,cHA,cKHA,cFA,cDA,cDDA,cRA,cRRA,cZA,cSA",
    "cSHA,cKA,cGA,cLA,cMA,cNA,cWA,cKINNA WA,cYA,cKINNA YA,cNGA,cNYA,cVA,bVOWEL A,cI,cU,cE,cO",
    "bMARK SAKIN,cNA KHONNA,bSIGN HARBAHAY,cTAHALA,cTANA,cTASSI,8bDIGIT ZERO,cONE,cTWO,cTHREE",
    "cFOUR,cFIVE,cSIX,cSEVEN,cEIGHT,cNINE"]⟩,
  ⟨"HANUNOO", [
    "5920aLETTER A,bI,bU,bKA,bGA,bNGA,bTA,bDA,bNA,bPA,bBA,bMA,bYA,bRA,bLA,bWA,bSA,bHA",
    "aVOWEL SIGN I,cU,aSIGN PAMUDPOD"]⟩,
  ⟨"HATRAN", [
    "67808aLETTER ALEPH,bBETH,bGIMEL,bDALETH-RESH,bHE,bWAW,bZAYN,bHETH,bTETH,bYODH,bKAPH",
    "bLAMEDH,bMEM,bNUN,bSAMEKH,bAYN,bPE,bSADHE,bQOPH,1bSHIN,bTAW,5aNUMBER ONE,bFIVE,bTEN",
    "bTWENTY,bONE HUNDRED"]⟩,
  ⟨"HEART", ["127892aWITH TIP ON THE LEFT,259bARROW,4bRIBBON,1aDECORATION,1622aHANDS"]⟩,
  ⟨"HEAVY", [
    "9947aWHITE DOWN-POINTING TRIANGLE,7aCIRCLE WITH STROKE AND TWO DOTS ABOVE,48aCHECK MARK",
    "1aMULTIPLICATION X,1aBALLOT X,1aGREEK CROSS,1aOPEN CENTRE CROSS",
    "7aFOUR BALLOON-SPOKED ASTERISK,9aOUTLINED BLACK STAR,2aASTERISK",
    "6aEIGHT POINTED RECTILINEAR BLACK STAR,4aTEARDROP-SPOKED ASTERISK,5bPINWHEEL ASTERISK",
    "2aCHEVRON SNOWFLAKE,1aSPARKLE,2aEIGHT TEARDROP-SPOKED PROPELLER ASTERISK",
    "11aEXCLAMATION MARK SYMBOL,2aVERTICAL BAR,aSINGLE TURNED COMMA QUOTATION MARK ORNAMENT",
    "bCOMMA QUOTATION MARK ORNAMENT,aDOUBLE TURNED COMMA QUOTATION MARK ORNAMENT",
    "bCOMMA QUOTATION MARK ORNAMENT,aLOW SINGLE COMMA QUOTATION MARK ORNAMENT",
    "bDOUBLE COMMA QUOTATION MARK ORNAMENT,1aEXCLAMATION MARK ORNAMENT",
    "aHEART EXCLAMATION MARK ORNAMENT,aBLACK HEART",
    "9aLEFT-POINTING ANGLE QUOTATION MARK ORNAMENT",
    "aRIGHT-POINTING ANGLE QUOTATION MARK ORNAMENT,aLEFT-POINTING ANGLE BRACKET ORNAMENT",
    "aRIGHT-POINTING ANGLE BRACKET ORNAMENT,34aWIDE-HEADED RIGHTWARDS ARROW,aPLUS SIGN",
    "aMINUS SIGN,aDIVISION SIGN,aSOUTH EAST ARROW,aRIGHTWARDS ARROW,aNORTH EAST ARROW",
    "1aROUND-TIPPED RIGHTWARDS ARROW,1aTRIANGLE-HEADED RIGHTWARDS ARROW",
    "1aDASHED TRIANGLE-HEADED RIGHTWARDS ARROW,4aBLACK CURVED DOWNWARDS AND RIGHTWARDS ARROW",
    "cUPWARDS AND RIGHTWARDS ARROW,1aCONCAVE-POINTED BLACK RIGHTWARDS ARROW",
    "4aLOWER RIGHT-SHADOWED WHITE RIGHTWARDS ARROW",
    "aUPPER RIGHT-SHADOWED WHITE RIGHTWARDS ARROW,8aBLACK-FEATHERED SOUTH EAST ARROW",
    "bRIGHTWARDS ARROW,bNORTH EAST ARROW,1aTEARDROP-SHANKED RIGHTWARDS ARROW",
    "1aWEDGE-TAILED RIGHTWARDS ARROW,919aLARGE CIRCLE,aOVAL WITH OVAL INSIDE",
    "aCIRCLE WITH CIRCLE INSIDE,b,aCIRCLED SALTIRE,117080aDOLLAR SIGN,148aLATIN CROSS",
    "276aNORTH WEST POINTING VINE LEAF,aSOUTH WEST POINTING VINE LEAF",
    "aNORTH EAST POINTING VINE LEAF,aSOUTH EAST POINTING VINE LEAF,4aNORTH WEST POINTING BUD",
    "aSOUTH WEST POINTING BUD,aNORTH EAST POINTING BUD,aSOUTH EAST POINTING BUD",
    "9aSCRIPT LIGATURE ET ORNAMENT,1aLIGATURE OPEN ET ORNAMENT,aAMPERSAND ORNAMENT",
    "4aINTERROBANG ORNAMENT,1aSANS-SERIF INTERROBANG ORNAMENT,267aWHITE CIRCLE,9bSQUARE",
    "26aSALTIRE,5aFIVE SPOKED ASTERISK,5aSIX SPOKED ASTERISK,5aEIGHT SPOKED ASTERISK",
    "11aFIVE POINTED BLACK STAR,1aSIX POINTED BLACK STAR,2aEIGHT POINTED BLACK STAR",
    "1cPINWHEEL STAR,1aTWELVE POINTED BLACK STAR,cPINWHEEL STAR,27aEQUALS SIGN",
    "39aLEFTWARDS ARROW WITH EQUILATERAL ARROWHEAD,aUPWARDS ARROW WITH EQUILATERAL ARROWHEAD",
    "aRIGHTWARDS ARROW WITH EQUILATERAL ARROWHEAD,aDOWNWARDS ARROW WITH EQUILATERAL ARROWHEAD",
    "aLEFTWARDS ARROW WITH LARGE EQUILATERAL ARROWHEAD",
    "aUPWARDS ARROW WITH LARGE EQUILATERAL ARROWHEAD",
    "aRIGHTWARDS ARROW WITH LARGE EQUILATERAL ARROWHEAD",
    "aDOWNWARDS ARROW WITH LARGE EQUILATERAL ARROWHEAD,124aARROW SHAFT WIDTH ONE,dTWO THIRDS",
    "dONE HALF,eTHIRD,759aHORIZONTAL FILL"]⟩,
  ⟨"HEBREW", [
    "1425aACCENT ETNAHTA,bSEGOL,bSHALSHELET,bZAQEF QATAN,cGADOL,bTIPEHA,bREVIA,bZARQA,bPASHTA",
    "bYETIV,bTEVIR,bGERESH,cMUQDAM,bGERSHAYIM,bQARNEY PARA,bTELISHA GEDOLA,bPAZER",
    "bATNAH HAFUKH,bMUNAH,bMAHAPAKH,bMERKHA,cKEFULA,bDARGA,bQADMA,bTELISHA QETANA",
    "bYERAH BEN YOMO,bOLE,bILUY,bDEHI,bZINOR,aMARK MASORA CIRCLE,aPOINT SHEVA,bHATAF SEGOL",
    "cPATAH,cQAMATS,bHIRIQ,bTSERE,bSEGOL,bPATAH,bQAMATS,bHOLAM,cHASER FOR VAV,bQUBUTS",
    "bDAGESH OR MAPIQ,bMETEG,aPUNCTUATION MAQAF,aPOINT RAFE,aPUNCTUATION PASEQ,aPOINT SHIN DOT",
    "bSIN DOT,aPUNCTUATION SOF PASUQ,aMARK UPPER DOT,bLOWER DOT,aPUNCTUATION NUN HAFUKHA",
    "aPOINT QAMATS QATAN,8aLETTER ALEF,bBET,bGIMEL,bDALET,bHE,bVAV,bZAYIN,bHET,bTET,bYOD",
    "bFINAL KAF,bKAF,bLAMED,bFINAL MEM,bMEM,bFINAL NUN,bNUN,bSAMEKH,bAYIN,bFINAL PE,bPE",
    "bFINAL TSADI,bTSADI,bQOF,bRESH,bSHIN,bTAV,4aYOD TRIANGLE,aLIGATURE YIDDISH DOUBLE VAV",
    "cVAV YOD,cDOUBLE YOD,aPUNCTUATION GERESH,bGERSHAYIM,62760aLETTER YOD WITH HIRIQ",
    "aPOINT JUDEO-SPANISH VARIKA,aLIGATURE YIDDISH YOD YOD PATAH,aLETTER ALTERNATIVE AYIN",
    "bWIDE ALEF,cDALET,cHE,cKAF,cLAMED,cFINAL MEM,cRESH,cTAV,bALTERNATIVE PLUS SIGN",
    "bSHIN WITH SHIN DOT,dSIN DOT,dDAGESH AND SHIN DOT,fSIN DOT,bALEF WITH PATAH,dQAMATS",
    "dMAPIQ,bBET WITH DAGESH,bGIMEL WITH DAGESH,bDALET WITH DAGESH,bHE WITH MAPIQ",
    "bVAV WITH DAGESH,bZAYIN WITH DAGESH,1bTET WITH DAGESH,bYOD WITH DAGESH",
    "bFINAL KAF WITH DAGESH,bKAF WITH DAGESH,bLAMED WITH DAGESH,1bMEM WITH DAGESH",
    "1bNUN WITH DAGESH,bSAMEKH WITH DAGESH,1bFINAL PE WITH DAGESH,bPE WITH DAGESH",
    "1bTSADI WITH DAGESH,bQOF WITH DAGESH,bRESH WITH DAGESH,bSHIN WITH DAGESH,bTAV WITH DAGESH",
    "bVAV WITH HOLAM,bBET WITH RAFE,bKAF WITH RAFE,bPE WITH RAFE,aLIGATURE ALEF LAMED"]⟩,
  ⟨"HENTAIGANA", [
    "110594aLETTER A-1,bA-2,bA-3,bA-WO,bI-1,bI-2,bI-3,bI-4,bU-1,bU-2,bU-3,bU-4,bU-5,bE-2,bE-3",
    "bE-4,bE-5,bE-6,bO-1,bO-2,bO-3,bKA-1,bKA-2,bKA-3,bKA-4,bKA-5,bKA-6,bKA-7,bKA-8,bKA-9",
    "bKA-10,bKA-11,bKA-KE,bKI-1,bKI-2,bKI-3,bKI-4,bKI-5,bKI-6,bKI-7,bKI-8,bKU-1,bKU-2,bKU-3",
    "bKU-4,bKU-5,bKU-6,bKU-7,bKE-1,bKE-2,bKE-3,bKE-4,bKE-5,bKE-6,bKO-1,bKO-2,bKO-3,bKO-KI",
    "bSA-1,bSA-2,bSA-3,bSA-4,bSA-5,bSA-6,bSA-7,bSA-8,bSI-1,bSI-2,bSI-3,bSI-4,bSI-5,bSI-6,bSU-1",
    "bSU-2,bSU-3,bSU-4,bSU-5,bSU-6,bSU-7,bSU-8,bSE-1,bSE-2,bSE-3,bSE-4,bSE-5,bSO-1,bSO-2,bSO-3",
    "bSO-4,bSO-5,bSO-6,bSO-7,bTA-1,bTA-2,bTA-3,bTA-4,bTI-1,bTI-2,bTI-3,bTI-4,bTI-5,bTI-6,bTI-7",
    "bTU-1,bTU-2,bTU-3,bTU-4,bTU-TO,bTE-1,bTE-2,bTE-3,bTE-4,bTE-5,bTE-6,bTE-7,bTE-8,bTE-9",
    "bTO-1,bTO-2,bTO-3,bTO-4,bTO-5,bTO-6,bTO-RA,bNA-1,bNA-2,bNA-3,bNA-4,bNA-5,bNA-6,bNA-7",
    "bNA-8,bNA-9,bNI-1,bNI-2,bNI-3,bNI-4,bNI-5,bNI-6,bNI-7,bNI-TE,bNU-1,bNU-2,bNU-3,bNE-1",
    "bNE-2,bNE-3,bNE-4,bNE-5,bNE-6,bNE-KO,bNO-1,bNO-2,bNO-3,bNO-4,bNO-5,bHA-1,bHA-2,bHA-3",
    "bHA-4,bHA-5,bHA-6,bHA-7,bHA-8,bHA-9,bHA-10,bHA-11,bHI-1,bHI-2,bHI-3,bHI-4,bHI-5,bHI-6",
    "bHI-7,bHU-1,bHU-2,bHU-3,bHE-1,bHE-2,bHE-3,bHE-4,bHE-5,bHE-6,bHE-7,bHO-1,bHO-2,bHO-3,bHO-4",
    "bHO-5,bHO-6,bHO-7,bHO-8,bMA-1,bMA-2,bMA-3,bMA-4,bMA-5,bMA-6,bMA-7,bMI-1,bMI-2,bMI-3,bMI-4",
    "bMI-5,bMI-6,bMI-7,bMU-1,bMU-2,bMU-3,bMU-4,bME-1,bME-2,bME-MA,bMO-1,bMO-2,bMO-3,bMO-4",
    "bMO-5,bMO-6,bYA-1,bYA-2,bYA-3,bYA-4,bYA-5,bYA-YO,bYU-1,bYU-2,bYU-3,bYU-4,bYO-1,bYO-2",
    "bYO-3,bYO-4,bYO-5,bYO-6,bRA-1,bRA-2,bRA-3,bRA-4,bRI-1,bRI-2,bRI-3,bRI-4,bRI-5,bRI-6,bRI-7",
    "bRU-1,bRU-2,bRU-3,bRU-4,bRU-5,bRU-6,bRE-1,bRE-2,bRE-3,bRE-4,bRO-1,bRO-2,bRO-3,bRO-4,bRO-5",
    "bRO-6,bWA-1,bWA-2,bWA-3,bWA-4,bWA-5,bWI-1,bWI-2,bWI-3,bWI-4,bWI-5,bWE-1,bWE-2,bWE-3,bWE-4",
    "bWO-1,bWO-2,bWO-3,bWO-4,bWO-5,bWO-6,bWO-7,bN-MU-MO-1,bN-MU-MO-2"]⟩,
  ⟨"HEXAGRAM", [
    "19904aFOR THE CREATIVE HEAVEN,cRECEPTIVE EARTH,bDIFFICULTY AT THE BEGINNING",
    "bYOUTHFUL FOLLY,bWAITING,bCONFLICT,bTHE ARMY,bHOLDING TOGETHER,bSMALL TAMING,bTREADING",
    "bPEACE,bSTANDSTILL,bFELLOWSHIP,bGREAT POSSESSION,bMODESTY,bENTHUSIASM,bFOLLOWING",
    "bWORK ON THE DECAYED,bAPPROACH,bCONTEMPLATION,bBITING THROUGH,bGRACE,bSPLITTING APART",
    "bRETURN,bINNOCENCE,bGREAT TAMING,bMOUTH CORNERS,bGREAT PREPONDERANCE,bTHE ABYSMAL WATER",
    "cCLINGING FIRE,bINFLUENCE,bDURATION,bRETREAT,bGREAT POWER,bPROGRESS",
    "bDARKENING OF THE LIGHT,bTHE FAMILY,bOPPOSITION,bOBSTRUCTION,bDELIVERANCE,bDECREASE",
    "bINCREASE,bBREAKTHROUGH,bCOMING TO MEET,bGATHERING TOGETHER,bPUSHING UPWARD,bOPPRESSION",
    "bTHE WELL,bREVOLUTION,bTHE CAULDRON,cAROUSING THUNDER,cKEEPING STILL MOUNTAIN",
    "bDEVELOPMENT,bTHE MARRYING MAIDEN,bABUNDANCE,bTHE WANDERER,cGENTLE WIND,cJOYOUS LAKE",
    "bDISPERSION,bLIMITATION,bINNER TRUTH,bSMALL PREPONDERANCE,bAFTER COMPLETION",
    "bBEFORE COMPLETION"]⟩,
  ⟨"HIRAGANA", [
    "12353aLETTER SMALL A,bA,bSMALL I,bI,bSMALL U,bU,bSMALL E,bE,bSMALL O,bO,bKA,bGA,bKI,bGI",
    "bKU,bGU,bKE,bGE,bKO,bGO,bSA,bZA,bSI,bZI,bSU,bZU,bSE,bZE,bSO,bZO,bTA,bDA,bTI,bDI,bSMALL TU",
    "bTU,bDU,bTE,bDE,bTO,bDO,bNA,bNI,bNU,bNE,bNO,bHA,bBA,bPA,bHI,bBI,bPI,bHU,bBU,bPU,bHE,bBE",
    "bPE,bHO,bBO,bPO,bMA,bMI,bMU,bME,bMO,bSMALL YA,bYA,bSMALL YU,bYU,bSMALL YO,bYO,bRA,bRI,bRU",
    "bRE,bRO,bSMALL WA,bWA,bWI,bWE,bWO,bN,bVU,bSMALL KA,cKE,6aITERATION MARK",
    "aVOICED ITERATION MARK,aDIGRAPH YORI,98145aLETTER ARCHAIC YE,285cWU,48bSMALL WI,cWE,cWO"]⟩,
  ⟨"HORIZONTAL", [
    "8213aBAR,16aELLIPSIS,904aLINE EXTENSION,10aSCAN LINE-1,bLINE-3,bLINE-7,bLINE-9",
    "747aMALE WITH STROKE SIGN,1145aBLACK HEXAGON,90aTAB KEY,68aBLACK OCTAGON",
    "117473aTRAFFIC LIGHT,1232aONE EIGHTH BLOCK-2,cBLOCK-3,cBLOCK-4,cBLOCK-5,cBLOCK-6,cBLOCK-7",
    "5cBLOCK-1358"]⟩,
  ⟨"HORSE", ["127943aRACING,70a,37aFACE"]⟩,
  ⟨"HOT", ["9749aBEVERAGE,82aSPRINGS,117956aDOG,8aPEPPER"]⟩,
  ⟨"HOUSE", ["8962a,118997aBUILDINGS,7aBUILDING,aWITH GARDEN"]⟩,
  ⟨"HYPHEN", ["8208a,50aBULLET,3542aWITH DIAERESIS"]⟩]

/-- The names that begin with I. -/
def namesI : List NameGroup := [
  ⟨"ICE", ["9976aSKATE,117871aCREAM,105aHOCKEY STICK AND PUCK,1527aCUBE"]⟩,
  ⟨"IDENTICAL", ["8801aTO,1923bAND SLANTED PARALLEL,129aWITH DOT ABOVE"]⟩,
  ⟨"IDEOGRAPHIC", [
    "12272aDESCRIPTION CHARACTER LEFT TO RIGHT,cABOVE TO BELOW,cLEFT TO MIDDLE AND RIGHT",
    "cABOVE TO MIDDLE AND BELOW,cFULL SURROUND,cSURROUND FROM ABOVE,eBELOW,eLEFT,eUPPER LEFT",
    "fRIGHT,eLOWER LEFT,cOVERLAID,4aSPACE,aCOMMA,aFULL STOP,2aITERATION MARK,aCLOSING MARK",
    "aNUMBER ZERO,34aLEVEL TONE MARK,aRISING TONE MARK,aDEPARTING TONE MARK",
    "aENTERING TONE MARK,9aTELEGRAPH LINE FEED SEPARATOR SYMBOL,6aVARIATION INDICATOR",
    "aHALF FILL SPACE,336aANNOTATION LINKING MARK,bREVERSE MARK,bONE MARK,bTWO MARK",
    "bTHREE MARK,bFOUR MARK,bTOP MARK,bMIDDLE MARK,bBOTTOM MARK,bFIRST MARK,bSECOND MARK",
    "bTHIRD MARK,bFOURTH MARK,bHEAVEN MARK,bEARTH MARK,bMAN MARK",
    "288aTELEGRAPH SYMBOL FOR JANUARY,dFEBRUARY,dMARCH,dAPRIL,dMAY,dJUNE,dJULY,dAUGUST",
    "dSEPTEMBER,dOCTOBER,dNOVEMBER,dDECEMBER,140dHOUR ZERO,eONE,eTWO,eTHREE,eFOUR,eFIVE,eSIX",
    "eSEVEN,eEIGHT,eNINE,eTEN,eELEVEN,eTWELVE,eTHIRTEEN,eFOURTEEN,eFIFTEEN,eSIXTEEN,eSEVENTEEN",
    "eEIGHTEEN,eNINETEEN,eTWENTY,eTWENTY-ONE,eTWENTY-TWO,eTWENTY-THREE,eTWENTY-FOUR",
    "111dDAY ONE,eTWO,eTHREE,eFOUR,eFIVE,eSIX,eSEVEN,eEIGHT,eNINE,eTEN,eELEVEN,eTWELVE",
    "eTHIRTEEN,eFOURTEEN,eFIFTEEN,eSIXTEEN,eSEVENTEEN,eEIGHTEEN,eNINETEEN,eTWENTY,eTWENTY-ONE",
    "eTWENTY-TWO,eTWENTY-THREE,eTWENTY-FOUR,eTWENTY-FIVE,eTWENTY-SIX,eTWENTY-SEVEN",
    "eTWENTY-EIGHT,eTWENTY-NINE,eTHIRTY,eTHIRTY-ONE,106355aTALLY MARK ONE,cTWO,cTHREE,cFOUR",
    "cFIVE"]⟩,
  ⟨"IMPERIAL", [
    "67648aARAMAIC LETTER ALEPH,cBETH,cGIMEL,cDALETH,cHE,cWAW,cZAYIN,cHETH,cTETH,cYODH,cKAPH",
    "cLAMEDH,cMEM,cNUN,cSAMEKH,cAYIN,cPE,cSADHE,cQOPH,cRESH,cSHIN,cTAW,1bSECTION SIGN",
    "bNUMBER ONE,cTWO,cTHREE,cTEN,cTWENTY,cONE HUNDRED,dTHOUSAND,cTEN THOUSAND"]⟩,
  ⟨"INDIC", [
    "126065aSIYAQ NUMBER ONE,cTWO,cTHREE,cFOUR,cFIVE,cSIX,cSEVEN,cEIGHT,cNINE,cTEN,cTWENTY",
    "cTHIRTY,cFORTY,cFIFTY,cSIXTY,cSEVENTY,cEIGHTY,cNINETY,cONE HUNDRED,cTWO HUNDRED",
    "cTHREE HUNDRED,cFOUR HUNDRED,cFIVE HUNDRED,cSIX HUNDRED,cSEVEN HUNDRED,cEIGHT HUNDRED",
    "cNINE HUNDRED,cONE THOUSAND,cTWO THOUSAND,cTHREE THOUSAND,cFOUR THOUSAND,cFIVE THOUSAND",
    "cSIX THOUSAND,cSEVEN THOUSAND,cEIGHT THOUSAND,cNINE THOUSAND,cTEN THOUSAND",
    "cTWENTY THOUSAND,cTHIRTY THOUSAND,cFORTY THOUSAND,cFIFTY THOUSAND,cSIXTY THOUSAND",
    "cSEVENTY THOUSAND,cEIGHTY THOUSAND,cNINETY THOUSAND,cLAKH,cLAKHAN,bLAKH MARK",
    "bNUMBER KAROR,cKARORAN,cPREFIXED ONE,dTWO,dTHREE,dFOUR,dFIVE,dSIX,dSEVEN,dEIGHT,dNINE",
    "bPLACEHOLDER,bFRACTION ONE QUARTER,dHALF,cTHREE QUARTERS,bRUPEE MARK",
    "bNUMBER ALTERNATE ONE,dTWO,dTEN THOUSAND,bALTERNATE LAKH MARK"]⟩,
  ⟨"INPUT", [
    "128288aSYMBOL FOR LATIN CAPITAL LETTERS,dSMALL LETTERS,cNUMBERS,cSYMBOLS,cLATIN LETTERS"]⟩,
  ⟨"INSCRIPTIONAL", [
    "68416aPARTHIAN LETTER ALEPH,cBETH,cGIMEL,cDALETH,cHE,cWAW,cZAYIN,cHETH,cTETH,cYODH,cKAPH",
    "cLAMEDH,cMEM,cNUN,cSAMEKH,cAYIN,cPE,cSADHE,cQOPH,cRESH,cSHIN,cTAW,2bNUMBER ONE,cTWO",
    "cTHREE,cFOUR,cTEN,cTWENTY,cONE HUNDRED,dTHOUSAND,aPAHLAVI LETTER ALEPH,cBETH,cGIMEL",
    "cDALETH,cHE,cWAW-AYIN-RESH,cZAYIN,cHETH,cTETH,cYODH,cKAPH,cLAMEDH,cMEM-QOPH,cNUN,cSAMEKH",
    "cPE,cSADHE,cSHIN,cTAW,5bNUMBER ONE,cTWO,cTHREE,cFOUR,cTEN,cTWENTY,cONE HUNDRED,dTHOUSAND"]⟩,
  ⟨"INTEGRAL", [
    "8747a,386aEXTENSION,1631aWITH DOUBLE STROKE,aAVERAGE WITH SLASH,5aAROUND A POINT OPERATOR",
    "1aWITH LEFTWARDS ARROW WITH HOOK,bTIMES SIGN,bINTERSECTION,bUNION,bOVERBAR,bUNDERBAR"]⟩,
  ⟨"INTERLINEAR", ["65529aANNOTATION ANCHOR,bSEPARATOR,bTERMINATOR"]⟩,
  ⟨"INTERSECTION", [
    "8745a,2070aWITH DOT,2bOVERBAR,bLOGICAL AND,2aABOVE UNION,1bBAR ABOVE UNION",
    "1aBESIDE AND JOINED WITH INTERSECTION"]⟩,
  ⟨"INVERSE", [
    "9688aBULLET,aWHITE CIRCLE,120246aMEDIUM SHADE,5aCHECKER BOARD FILL,26aCHECK MARK",
    "2aDOWNWARDS ARROW WITH TIP LEFTWARDS"]⟩,
  ⟨"INVERTED", [
    "161aEXCLAMATION MARK,29aQUESTION MARK,8084aUNDERTIE,210aOHM SIGN,278aLAZY S",
    "1192aPENTAGRAM,1840aINTERROBANG,44aLOW KAVYKA,cWITH KAVYKA ABOVE"]⟩,
  ⟨"INVISIBLE", ["8290aTIMES,aSEPARATOR,aPLUS"]⟩]

/-- The names that begin with J. -/
def namesJ : List NameGroup := [
  ⟨"JAPANESE", [
    "9979aBANK SYMBOL,2312aINDUSTRIAL STANDARD SYMBOL,115593aDOLLS,84aPOST OFFICE,11aCASTLE",
    "137aOGRE,aGOBLIN,181aSYMBOL FOR BEGINNER"]⟩,
  ⟨"JAVANESE", [
    "43392aSIGN PANYANGGA,bCECAK,bLAYAR,bWIGNYAN,aLETTER A,bI KAWI,c,bII,bU,bPA CEREK",
    "bNGA LELET,dRASWADI,bE,bAI,bO,bKA,cSASAK,cMURDA,bGA,cMURDA,bNGA,bCA,cMURDA,bJA,bNYA MURDA",
    "bJA MAHAPRANA,bNYA,bTTA,cMAHAPRANA,bDDA,cMAHAPRANA,bNA MURDA,bTA,cMURDA,bDA,cMAHAPRANA",
    "bNA,bPA,cMURDA,bBA,cMURDA,bMA,bYA,bRA,cAGUNG,bLA,bWA,bSA MURDA,cMAHAPRANA,c,bHA",
    "aSIGN CECAK TELU,aVOWEL SIGN TARUNG,cTOLONG,cWULU,dMELIK,cSUKU,dMENDUT,cTALING",
    "cDIRGA MURE,cPEPET,aCONSONANT SIGN KERET,cPENGKAL,cCAKRA,aPANGKON,aLEFT RERENGGAN",
    "aRIGHT RERENGGAN,aPADA ANDAP,bMADYA,bLUHUR,bWINDU,bPANGKAT,bLINGSA,bLUNGSI,bADEG,cADEG",
    "bPISELEH,aTURNED PADA PISELEH,1aPANGRANGKEP,aDIGIT ZERO,bONE,bTWO,bTHREE,bFOUR,bFIVE,bSIX",
    "bSEVEN,bEIGHT,bNINE,4aPADA TIRTA TUMETES,bISEN-ISEN"]⟩]

/-- The names that begin with K. -/
def namesK : List NameGroup := [
  ⟨"KAITHI", [
    "69760aSIGN CANDRABINDU,bANUSVARA,bVISARGA,aLETTER A,bAA,bI,bII,bU,bUU,bE,bAI,bO,bAU,bKA",
    "bKHA,bGA,bGHA,bNGA,bCA,bCHA,bJA,bJHA,bNYA,bTTA,bTTHA,bDDA,bDDDHA,bDDHA,bRHA,bNNA,bTA,bTHA",
    "bDA,bDHA,bNA,bPA,bPHA,bBA,bBHA,bMA,bYA,bRA,bLA,bVA,bSHA,bSSA,bSA,bHA,aVOWEL SIGN AA,cI",
    "cII,cU,cUU,cE,cAI,cO,cAU,aSIGN VIRAMA,bNUKTA,aABBREVIATION SIGN,aENUMERATION SIGN",
    "aNUMBER SIGN,aSECTION MARK,aDOUBLE SECTION MARK,aDANDA,aDOUBLE DANDA",
    "aVOWEL SIGN VOCALIC R,10aNUMBER SIGN ABOVE"]⟩,
  ⟨"KANGXI", [
    "12032aRADICAL ONE,bLINE,bDOT,bSLASH,bSECOND,bHOOK,bTWO,bLID,bMAN,bLEGS,bENTER,bEIGHT",
    "bDOWN BOX,bCOVER,bICE,bTABLE,bOPEN BOX,bKNIFE,bPOWER,bWRAP,bSPOON,bRIGHT OPEN BOX",
    "bHIDING ENCLOSURE,bTEN,bDIVINATION,bSEAL,bCLIFF,bPRIVATE,bAGAIN,bMOUTH,bENCLOSURE,bEARTH",
    "bSCHOLAR,bGO,cSLOWLY,bEVENING,bBIG,bWOMAN,bCHILD,bROOF,bINCH,bSMALL,bLAME,bCORPSE,bSPROUT",
    "bMOUNTAIN,bRIVER,bWORK,bONESELF,bTURBAN,bDRY,bSHORT THREAD,bDOTTED CLIFF,bLONG STRIDE",
    "bTWO HANDS,bSHOOT,bBOW,bSNOUT,bBRISTLE,bSTEP,bHEART,bHALBERD,bDOOR,bHAND,bBRANCH,bRAP",
    "bSCRIPT,bDIPPER,bAXE,bSQUARE,bNOT,bSUN,bSAY,bMOON,bTREE,bLACK,bSTOP,bDEATH,bWEAPON",
    "bDO NOT,bCOMPARE,bFUR,bCLAN,bSTEAM,bWATER,bFIRE,bCLAW,bFATHER,bDOUBLE X,bHALF TREE TRUNK",
    "bSLICE,bFANG,bCOW,bDOG,bPROFOUND,bJADE,bMELON,bTILE,bSWEET,bLIFE,bUSE,bFIELD",
    "bBOLT OF CLOTH,bSICKNESS,bDOTTED TENT,bWHITE,bSKIN,bDISH,bEYE,bSPEAR,bARROW,bSTONE",
    "bSPIRIT,bTRACK,bGRAIN,bCAVE,bSTAND,bBAMBOO,bRICE,bSILK,bJAR,bNET,bSHEEP,bFEATHER,bOLD",
    "bAND,bPLOW,bEAR,bBRUSH,bMEAT,bMINISTER,bSELF,bARRIVE,bMORTAR,bTONGUE,bOPPOSE,bBOAT",
    "bSTOPPING,bCOLOR,bGRASS,bTIGER,bINSECT,bBLOOD,bWALK ENCLOSURE,bCLOTHES,bWEST,bSEE,bHORN",
    "bSPEECH,bVALLEY,bBEAN,bPIG,bBADGER,bSHELL,bRED,bRUN,bFOOT,bBODY,bCART,bBITTER,bMORNING",
    "bWALK,bCITY,bWINE,bDISTINGUISH,bVILLAGE,bGOLD,bLONG,bGATE,bMOUND,bSLAVE",
    "bSHORT TAILED BIRD,bRAIN,bBLUE,bWRONG,bFACE,bLEATHER,bTANNED LEATHER,bLEEK,bSOUND,bLEAF",
    "bWIND,bFLY,bEAT,bHEAD,bFRAGRANT,bHORSE,bBONE,bTALL,bHAIR,bFIGHT,bSACRIFICIAL WINE",
    "bCAULDRON,bGHOST,bFISH,bBIRD,bSALT,bDEER,bWHEAT,bHEMP,bYELLOW,bMILLET,bBLACK,bEMBROIDERY",
    "bFROG,bTRIPOD,bDRUM,bRAT,bNOSE,bEVEN,bTOOTH,bDRAGON,bTURTLE,bFLUTE"]⟩,
  ⟨"KANNADA", [
    "3200aSIGN SPACING CANDRABINDU,bCANDRABINDU,bANUSVARA,bVISARGA,bSIDDHAM,aLETTER A,bAA,bI",
    "bII,bU,bUU,bVOCALIC R,cL,1bE,bEE,bAI,1bO,bOO,bAU,bKA,bKHA,bGA,bGHA,bNGA,bCA,bCHA,bJA,bJHA",
    "bNYA,bTTA,bTTHA,bDDA,bDDHA,bNNA,bTA,bTHA,bDA,bDHA,bNA,1bPA,bPHA,bBA,bBHA,bMA,bYA,bRA,bRRA",
    "bLA,bLLA,1bVA,bSHA,bSSA,bSA,bHA,2aSIGN NUKTA,bAVAGRAHA,aVOWEL SIGN AA,cI,cII,cU,cUU",
    "cVOCALIC R,dRR,1cE,cEE,cAI,1cO,cOO,cAU,aSIGN VIRAMA,7aLENGTH MARK,aAI LENGTH MARK",
    "6aLETTER NAKAARA POLLU,bFA,1bVOCALIC RR,cLL,aVOWEL SIGN VOCALIC L,dLL,2aDIGIT ZERO,bONE",
    "bTWO,bTHREE,bFOUR,bFIVE,bSIX,bSEVEN,bEIGHT,bNINE,1aSIGN JIHVAMULIYA,bUPADHMANIYA"]⟩,
  ⟨"KATAKANA", [
    "12449aLETTER SMALL A,bA,bSMALL I,bI,bSMALL U,bU,bSMALL E,bE,bSMALL O,bO,bKA,bGA,bKI,bGI",
    "bKU,bGU,bKE,bGE,bKO,bGO,bSA,bZA,bSI,bZI,bSU,bZU,bSE,bZE,bSO,bZO,bTA,bDA,bTI,bDI,bSMALL TU",
    "bTU,bDU,bTE,bDE,bTO,bDO,bNA,bNI,bNU,bNE,bNO,bHA,bBA,bPA,bHI,bBI,bPI,bHU,bBU,bPU,bHE,bBE",
    "bPE,bHO,bBO,bPO,bMA,bMI,bMU,bME,bMO,bSMALL YA,bYA,bSMALL YU,bYU,bSMALL YO,bYO,bRA,bRI,bRU",
    "bRE,bRO,bSMALL WA,bWA,bWI,bWE,bWO,bN,bVU,bSMALL KA,cKE,bVA,bVI,bVE,bVO,aMIDDLE DOT",
    "1aITERATION MARK,aVOICED ITERATION MARK,aDIGRAPH KOTO,240aLETTER SMALL KU,cSI,cSU,cTO,cNU",
    "cHA,cHI,cHU,cHE,cHO,cMU,cRA,cRI,cRU,cRE,cRO,97776bMINNAN TONE-2,cTONE-3,cTONE-4,cTONE-5",
    "1cTONE-7,cTONE-8,cNASALIZED TONE-1,dTONE-2,dTONE-3,dTONE-4,dTONE-5,1dTONE-7,dTONE-8",
    "1bARCHAIC E,287cYI,cYE,cWU,65bSMALL WI,cWE,cWO,cN"]⟩,
  ⟨"KATAKANA-HIRAGANA", [
    "12443aVOICED SOUND MARK,aSEMI-VOICED SOUND MARK,3aDOUBLE HYPHEN,91aPROLONGED SOUND MARK"]⟩,
  ⟨"KAYAH", [
    "43264aLI DIGIT ZERO,cONE,cTWO,cTHREE,cFOUR,cFIVE,cSIX,cSEVEN,cEIGHT,cNINE,bLETTER KA,cKHA",
    "cGA,cNGA,cSA,cSHA,cZA,cNYA,cTA,cHTA,cNA,cPA,cPHA,cMA,cDA,cBA,cRA,cYA,cLA,cWA,cTHA,cHA,cVA",
    "cCA,cA,cOE,cI,cOO,bVOWEL UE,cE,cU,cEE,cO,bTONE PLOPHU,cCALYA,dPLOPHU,bSIGN CWI,cSHYA"]⟩,
  ⟨"KHAROSHTHI", [
    "68096aLETTER A,aVOWEL SIGN I,cU,cVOCALIC R,1cE,cO,5bLENGTH MARK,aSIGN DOUBLE RING BELOW",
    "bANUSVARA,bVISARGA,aLETTER KA,bKHA,bGA,bGHA,1bCA,bCHA,bJA,1bNYA,bTTA,bTTHA,bDDA,bDDHA",
    "bNNA,bTA,bTHA,bDA,bDHA,bNA,bPA,bPHA,bBA,bBHA,bMA,bYA,bRA,bLA,bVA,bSHA,bSSA,bSA,bZA,bHA",
    "bKKA,bTTTHA,bTTTA,bVHA,2aSIGN BAR ABOVE,bCAUDA,bDOT BELOW,4aVIRAMA,aDIGIT ONE,bTWO,bTHREE",
    "bFOUR,aNUMBER TEN,bTWENTY,bONE HUNDRED,cTHOUSAND,aFRACTION ONE HALF,7aPUNCTUATION DOT",
    "bSMALL CIRCLE,bCIRCLE,bCRESCENT BAR,bMANGALAM,bLOTUS,bDANDA,bDOUBLE DANDA,bLINES"]⟩,
  ⟨"KHMER", [
    "6016aLETTER KA,bKHA,bKO,bKHO,bNGO,bCA,bCHA,bCO,bCHO,bNYO,bDA,bTTHA,bDO,bTTHO,bNNO,bTA",
    "bTHA,bTO,bTHO,bNO,bBA,bPHA,bPO,bPHO,bMO,bYO,bRO,bLO,bVO,bSHA,bSSO,bSA,bHA,bLA,bQA",
    "aINDEPENDENT VOWEL QAQ,cQAA,cQI,cQII,cQU,cQUK,cQUU,cQUUV,cRY,cRYY,cLY,cLYY,cQE,cQAI",
    "cQOO TYPE ONE,eTWO,cQAU,aVOWEL INHERENT AQ,cAA,bSIGN AA,cI,cII,cY,cYY,cU,cUU,cUA,cOE,cYA",
    "cIE,cE,cAE,cAI,cOO,cAU,aSIGN NIKAHIT,bREAHMUK,bYUUKALEAPINTU,bMUUSIKATOAN,bTRIISAP",
    "bBANTOC,bROBAT,bTOANDAKHIAT,bKAKABAT,bAHSDA,bSAMYOK SANNYA,bVIRIAM,bCOENG,bBATHAMASAT",
    "bKHAN,bBARIYOOSAN,bCAMNUC PII KUUH,bLEK TOO,bBEYYAL,bPHNAEK MUAN,bKOOMUUT",
    "aCURRENCY SYMBOL RIEL,aSIGN AVAKRAHASANYA,bATTHACAN,2aDIGIT ZERO,bONE,bTWO,bTHREE,bFOUR",
    "bFIVE,bSIX,bSEVEN,bEIGHT,bNINE,6aSYMBOL LEK ATTAK SON,dMUOY,dPII,dBEI,dBUON,dPRAM",
    "dPRAM-MUOY,dPRAM-PII,dPRAM-BEI,dPRAM-BUON,486bPATHAMASAT,bMUOY KOET,bPII KOET,bBEI KOET",
    "bBUON KOET,bPRAM KOET,bPRAM-MUOY KOET,bPRAM-PII KOET,bPRAM-BEI KOET,bPRAM-BUON KOET",
    "bDAP KOET,bDAP-MUOY KOET,bDAP-PII KOET,bDAP-BEI KOET,bDAP-BUON KOET,bDAP-PRAM KOET",
    "bTUTEYASAT,bMUOY ROC,bPII ROC,bBEI ROC,bBUON ROC,bPRAM ROC,bPRAM-MUOY ROC,bPRAM-PII ROC",
    "bPRAM-BEI ROC,bPRAM-BUON ROC,bDAP ROC,bDAP-MUOY ROC,bDAP-PII ROC,bDAP-BEI ROC",
    "bDAP-BUON ROC,bDAP-PRAM ROC"]⟩,
  ⟨"KHOJKI", [
    "70144aLETTER A,bAA,bI,bU,bE,bAI,bO,bAU,bKA,bKHA,bGA,bGGA,bGHA,bNGA,bCA,bCHA,bJA,bJJA",
    "1bNYA,bTTA,bTTHA,bDDA,bDDHA,bNNA,bTA,bTHA,bDA,bDDDA,bDHA,bNA,bPA,bPHA,bBA,bBBA,bBHA,bMA",
    "bYA,bRA,bLA,bVA,bSA,bHA,bLLA,aVOWEL SIGN AA,cI,cII,cU,cE,cAI,cO,cAU,aSIGN ANUSVARA",
    "bVIRAMA,bNUKTA,bSHADDA,aDANDA,aDOUBLE DANDA,aWORD SEPARATOR,aSECTION MARK",
    "aDOUBLE SECTION MARK,aABBREVIATION SIGN,aSIGN SUKUN"]⟩,
  ⟨"KHUDAWADI", [
    "70320aLETTER A,bAA,bI,bII,bU,bUU,bE,bAI,bO,bAU,bKA,bKHA,bGA,bGGA,bGHA,bNGA,bCA,bCHA,bJA",
    "bJJA,bJHA,bNYA,bTTA,bTTHA,bDDA,bDDDA,bRRA,bDDHA,bNNA,bTA,bTHA,bDA,bDHA,bNA,bPA,bPHA,bBA",
    "bBBA,bBHA,bMA,bYA,bRA,bLA,bVA,bSHA,bSA,bHA,aSIGN ANUSVARA,aVOWEL SIGN AA,cI,cII,cU,cUU,cE",
    "cAI,cO,cAU,aSIGN NUKTA,bVIRAMA,5aDIGIT ZERO,bONE,bTWO,bTHREE,bFOUR,bFIVE,bSIX,bSEVEN",
    "bEIGHT,bNINE"]⟩,
  ⟨"KISSING", ["128535aFACE,1bWITH SMILING EYES,cCLOSED EYES,34aCAT FACE WITH CLOSED EYES"]⟩]

/-- The names that begin with L. -/
def namesL : List NameGroup := [
  ⟨"LAO", [
    "3713aLETTER KO,bKHO SUNG,1cTAM,1bPALI GHA,bNGO,bCO,bPALI CHA,bSO TAM,1bPALI JHA,bNYO",
    "bPALI NYA,cTTA,cTTHA,cDDA,cDDHA,cNNA,bDO,bTO,bTHO SUNG,cTAM,bPALI DHA,bNO,bBO,bPO",
    "bPHO SUNG,bFO TAM,bPHO TAM,bFO SUNG,bPALI BHA,bMO,bYO,bLO LING,1cLOOT,1bWO,bSANSKRIT SHA",
    "cSSA,bSO SUNG,bHO SUNG,bPALI LLA,bO,bHO TAM,aELLIPSIS,aVOWEL SIGN A,cMAI KAN,cAA,cAM,cI",
    "cII,cY,cYY,cU,cUU,aSIGN PALI VIRAMA,aVOWEL SIGN MAI KON,aSEMIVOWEL SIGN LO,cNYO",
    "2aVOWEL SIGN E,cEI,cO,cAY,cAI,1aKO LA,1aTONE MAI EK,cTHO,cTI,cCATAWA,aCANCELLATION MARK",
    "aNIGGAHITA,2aDIGIT ZERO,bONE,bTWO,bTHREE,bFOUR,bFIVE,bSIX,bSEVEN,bEIGHT,bNINE,2aHO NO,bMO",
    "aLETTER KHMU GO,cNYO"]⟩,
  ⟨"LARGE", [
    "9711aCIRCLE,488aUP TACK,aDOWN TACK,580aLEFT TRIANGLE OPERATOR",
    "221aTRIPLE VERTICAL BAR OPERATOR,57407aTWO DOTS OVER ONE DOT PUNCTUATION",
    "aONE DOT OVER TWO DOTS PUNCTUATION,aTWO RINGS OVER ONE RING PUNCTUATION",
    "aONE RING OVER TWO RINGS PUNCTUATION,59892aRED CIRCLE,aBLUE CIRCLE,aORANGE DIAMOND",
    "aBLUE DIAMOND,680aORANGE CIRCLE,aYELLOW CIRCLE,aGREEN CIRCLE,aPURPLE CIRCLE,aBROWN CIRCLE",
    "aRED SQUARE,aBLUE SQUARE,aORANGE SQUARE,aYELLOW SQUARE,aGREEN SQUARE,aPURPLE SQUARE",
    "aBROWN SQUARE"]⟩,
  ⟨"LAST", ["9790aQUARTER MOON,117976cSYMBOL,4cWITH FACE"]⟩,
  ⟨"LATIN", [
    "65aCAPITAL LETTER A,cB,cC,cD,cE,cF,cG,cH,cI,cJ,cK,cL,cM,cN,cO,cP,cQ,cR,cS,cT,cU,cV,cW,cX",
    "cY,cZ,6aSMALL LETTER A,cB,cC,cD,cE,cF,cG,cH,cI,cJ,cK,cL,cM,cN,cO,cP,cQ,cR,cS,cT,cU,cV,cW",
    "cX,cY,cZ,69aCAPITAL LETTER A WITH GRAVE,eACUTE,eCIRCUMFLEX,eTILDE,eDIAERESIS,eRING ABOVE",
    "cAE,cC WITH CEDILLA,cE WITH GRAVE,eACUTE,eCIRCUMFLEX,eDIAERESIS,cI WITH GRAVE,eACUTE",
    "eCIRCUMFLEX,eDIAERESIS,cETH,cN WITH TILDE,cO WITH GRAVE,eACUTE,eCIRCUMFLEX,eTILDE",
    "eDIAERESIS,1eSTROKE,cU WITH GRAVE,eACUTE,eCIRCUMFLEX,eDIAERESIS,cY WITH ACUTE,cTHORN",
    "aSMALL LETTER SHARP S,cA WITH GRAVE,eACUTE,eCIRCUMFLEX,eTILDE,eDIAERESIS,eRING ABOVE,cAE",
    "cC WITH CEDILLA,cE WITH GRAVE,eACUTE,eCIRCUMFLEX,eDIAERESIS,cI WITH GRAVE,eACUTE",
    "eCIRCUMFLEX,eDIAERESIS,cETH,cN WITH TILDE,cO WITH GRAVE,eACUTE,eCIRCUMFLEX,eTILDE",
    "eDIAERESIS,1eSTROKE,cU WITH GRAVE,eACUTE,eCIRCUMFLEX,eDIAERESIS,cY WITH ACUTE,cTHORN",
    "cY WITH DIAERESIS,aCAPITAL LETTER A WITH MACRON,aSMALL LETTER A WITH MACRON",
    "aCAPITAL LETTER A WITH BREVE,aSMALL LETTER A WITH BREVE,aCAPITAL LETTER A WITH OGONEK",
    "aSMALL LETTER A WITH OGONEK,aCAPITAL LETTER C WITH ACUTE,aSMALL LETTER C WITH ACUTE",
    "aCAPITAL LETTER C WITH CIRCUMFLEX,aSMALL LETTER C WITH CIRCUMFLEX",
    "aCAPITAL LETTER C WITH DOT ABOVE,aSMALL LETTER C WITH DOT ABOVE",
    "aCAPITAL LETTER C WITH CARON,aSMALL LETTER C WITH CARON,aCAPITAL LETTER D WITH CARON",
    "aSMALL LETTER D WITH CARON,aCAPITAL LETTER D WITH STROKE,aSMALL LETTER D WITH STROKE",
    "aCAPITAL LETTER E WITH MACRON,aSMALL LETTER E WITH MACRON,aCAPITAL LETTER E WITH BREVE",
    "aSMALL LETTER E WITH BREVE,aCAPITAL LETTER E WITH DOT ABOVE",
    "aSMALL LETTER E WITH DOT ABOVE,aCAPITAL LETTER E WITH OGONEK,aSMALL LETTER E WITH OGONEK",
    "aCAPITAL LETTER E WITH CARON,aSMALL LETTER E WITH CARON,aCAPITAL LETTER G WITH CIRCUMFLEX",
    "aSMALL LETTER G WITH CIRCUMFLEX,aCAPITAL LETTER G WITH BREVE,aSMALL LETTER G WITH BREVE",
    "aCAPITAL LETTER G WITH DOT ABOVE,aSMALL LETTER G WITH DOT ABOVE",
    "aCAPITAL LETTER G WITH CEDILLA,aSMALL LETTER G WITH CEDILLA",
    "aCAPITAL LETTER H WITH CIRCUMFLEX,aSMALL LETTER H WITH CIRCUMFLEX",
    "aCAPITAL LETTER H WITH STROKE,aSMALL LETTER H WITH STROKE,aCAPITAL LETTER I WITH TILDE",
    "aSMALL LETTER I WITH TILDE,aCAPITAL LETTER I WITH MACRON,aSMALL LETTER I WITH MACRON",
    "aCAPITAL LETTER I WITH BREVE,aSMALL LETTER I WITH BREVE,aCAPITAL LETTER I WITH OGONEK",
    "aSMALL LETTER I WITH OGONEK,aCAPITAL LETTER I WITH DOT ABOVE,aSMALL LETTER DOTLESS I",
    "aCAPITAL LIGATURE IJ,aSMALL LIGATURE IJ,aCAPITAL LETTER J WITH CIRCUMFLEX",
    "aSMALL LETTER J WITH CIRCUMFLEX,aCAPITAL LETTER K WITH CEDILLA",
    "aSMALL LETTER K WITH CEDILLA,cKRA,aCAPITAL LETTER L WITH ACUTE,aSMALL LETTER L WITH ACUTE",
    "aCAPITAL LETTER L WITH CEDILLA,aSMALL LETTER L WITH CEDILLA,aCAPITAL LETTER L WITH CARON",
    "aSMALL LETTER L WITH CARON,aCAPITAL LETTER L WITH MIDDLE DOT",
    "aSMALL LETTER L WITH MIDDLE DOT,aCAPITAL LETTER L WITH STROKE,aSMALL LETTER L WITH STROKE",
    "aCAPITAL LETTER N WITH ACUTE,aSMALL LETTER N WITH ACUTE,aCAPITAL LETTER N WITH CEDILLA",
    "aSMALL LETTER N WITH CEDILLA,aCAPITAL LETTER N WITH CARON,aSMALL LETTER N WITH CARON",
    "dPRECEDED BY APOSTROPHE,aCAPITAL LETTER ENG,aSMALL LETTER ENG",
    "aCAPITAL LETTER O WITH MACRON,aSMALL LETTER O WITH MACRON,aCAPITAL LETTER O WITH BREVE",
    "aSMALL LETTER O WITH BREVE,aCAPITAL LETTER O WITH DOUBLE ACUTE",
    "aSMALL LETTER O WITH DOUBLE ACUTE,aCAPITAL LIGATURE OE,aSMALL LIGATURE OE",
    "aCAPITAL LETTER R WITH ACUTE,aSMALL LETTER R WITH ACUTE,aCAPITAL LETTER R WITH CEDILLA",
    "aSMALL LETTER R WITH CEDILLA,aCAPITAL LETTER R WITH CARON,aSMALL LETTER R WITH CARON",
    "aCAPITAL LETTER S WITH ACUTE,aSMALL LETTER S WITH ACUTE,aCAPITAL LETTER S WITH CIRCUMFLEX",
    "aSMALL LETTER S WITH CIRCUMFLEX,aCAPITAL LETTER S WITH CEDILLA",
    "aSMALL LETTER S WITH CEDILLA,aCAPITAL LETTER S WITH CARON,aSMALL LETTER S WITH CARON",
    "aCAPITAL LETTER T WITH CEDILLA,aSMALL LETTER T WITH CEDILLA,aCAPITAL LETTER T WITH CARON",
    "aSMALL LETTER T WITH CARON,aCAPITAL LETTER T WITH STROKE,aSMALL LETTER T WITH STROKE",
    "aCAPITAL LETTER U WITH TILDE,aSMALL LETTER U WITH TILDE,aCAPITAL LETTER U WITH MACRON",
    "aSMALL LETTER U WITH MACRON,aCAPITAL LETTER U WITH BREVE,aSMALL LETTER U WITH BREVE",
    "aCAPITAL LETTER U WITH RING ABOVE,aSMALL LETTER U WITH RING ABOVE",
    "aCAPITAL LETTER U WITH DOUBLE ACUTE,aSMALL LETTER U WITH DOUBLE ACUTE",
    "aCAPITAL LETTER U WITH OGONEK,aSMALL LETTER U WITH OGONEK",
    "aCAPITAL LETTER W WITH CIRCUMFLEX,aSMALL LETTER W WITH CIRCUMFLEX",
    "aCAPITAL LETTER Y WITH CIRCUMFLEX,aSMALL LETTER Y WITH CIRCUMFLEX",
    "aCAPITAL LETTER Y WITH DIAERESIS,cZ WITH ACUTE,aSMALL LETTER Z WITH ACUTE",
    "aCAPITAL LETTER Z WITH DOT ABOVE,aSMALL LETTER Z WITH DOT ABOVE",
    "aCAPITAL LETTER Z WITH CARON,aSMALL LETTER Z WITH CARON,cLONG S,cB WITH STROKE",
    "aCAPITAL LETTER B WITH HOOK,eTOPBAR,aSMALL LETTER B WITH TOPBAR,aCAPITAL LETTER TONE SIX",
    "aSMALL LETTER TONE SIX,aCAPITAL LETTER OPEN O,cC WITH HOOK,aSMALL LETTER C WITH HOOK",
    "aCAPITAL LETTER AFRICAN D,cD WITH HOOK,eTOPBAR,aSMALL LETTER D WITH TOPBAR,cTURNED DELTA",
    "aCAPITAL LETTER REVERSED E,cSCHWA,cOPEN E,cF WITH HOOK,aSMALL LETTER F WITH HOOK",
    "aCAPITAL LETTER G WITH HOOK,cGAMMA,aSMALL LETTER HV,aCAPITAL LETTER IOTA,cI WITH STROKE",
    "cK WITH HOOK,aSMALL LETTER K WITH HOOK,cL WITH BAR,cLAMBDA WITH STROKE",
    "aCAPITAL LETTER TURNED M,cN WITH LEFT HOOK,aSMALL LETTER N WITH LONG RIGHT LEG",
    "aCAPITAL LETTER O WITH MIDDLE TILDE,eHORN,aSMALL LETTER O WITH HORN,aCAPITAL LETTER OI",
    "aSMALL LETTER OI,aCAPITAL LETTER P WITH HOOK,aSMALL LETTER P WITH HOOK,aLETTER YR",
    "aCAPITAL LETTER TONE TWO,aSMALL LETTER TONE TWO,aCAPITAL LETTER ESH",
    "aLETTER REVERSED ESH LOOP,aSMALL LETTER T WITH PALATAL HOOK,aCAPITAL LETTER T WITH HOOK",
    "aSMALL LETTER T WITH HOOK,aCAPITAL LETTER T WITH RETROFLEX HOOK,cU WITH HORN",
    "aSMALL LETTER U WITH HORN,aCAPITAL LETTER UPSILON,cV WITH HOOK,cY WITH HOOK",
    "aSMALL LETTER Y WITH HOOK,aCAPITAL LETTER Z WITH STROKE,aSMALL LETTER Z WITH STROKE",
    "aCAPITAL LETTER EZH,dREVERSED,aSMALL LETTER EZH REVERSED,dWITH TAIL",
    "aLETTER TWO WITH STROKE,aCAPITAL LETTER TONE FIVE,aSMALL LETTER TONE FIVE",
    "aLETTER INVERTED GLOTTAL STOP WITH STROKE,bWYNN,bDENTAL CLICK,bLATERAL CLICK",
    "bALVEOLAR CLICK,bRETROFLEX CLICK,aCAPITAL LETTER DZ WITH CARON",
    "cD WITH SMALL LETTER Z WITH CARON,aSMALL LETTER DZ WITH CARON,aCAPITAL LETTER LJ",
    "cL WITH SMALL LETTER J,aSMALL LETTER LJ,aCAPITAL LETTER NJ,cN WITH SMALL LETTER J",
    "aSMALL LETTER NJ,aCAPITAL LETTER A WITH CARON,aSMALL LETTER A WITH CARON",
    "aCAPITAL LETTER I WITH CARON,aSMALL LETTER I WITH CARON,aCAPITAL LETTER O WITH CARON",
    "aSMALL LETTER O WITH CARON,aCAPITAL LETTER U WITH CARON,aSMALL LETTER U WITH CARON",
    "aCAPITAL LETTER U WITH DIAERESIS AND MACRON,aSMALL LETTER U WITH DIAERESIS AND MACRON",
    "aCAPITAL LETTER U WITH DIAERESIS AND ACUTE,aSMALL LETTER U WITH DIAERESIS AND ACUTE",
    "aCAPITAL LETTER U WITH DIAERESIS AND CARON,aSMALL LETTER U WITH DIAERESIS AND CARON",
    "aCAPITAL LETTER U WITH DIAERESIS AND GRAVE,aSMALL LETTER U WITH DIAERESIS AND GRAVE",
    "cTURNED E,aCAPITAL LETTER A WITH DIAERESIS AND MACRON",
    "aSMALL LETTER A WITH DIAERESIS AND MACRON,aCAPITAL LETTER A WITH DOT ABOVE AND MACRON",
    "aSMALL LETTER A WITH DOT ABOVE AND MACRON,aCAPITAL LETTER AE WITH MACRON",
    "aSMALL LETTER AE WITH MACRON,aCAPITAL LETTER G WITH STROKE,aSMALL LETTER G WITH STROKE",
    "aCAPITAL LETTER G WITH CARON,aSMALL LETTER G WITH CARON,aCAPITAL LETTER K WITH CARON",
    "aSMALL LETTER K WITH CARON,aCAPITAL LETTER O WITH OGONEK,aSMALL LETTER O WITH OGONEK",
    "aCAPITAL LETTER O WITH OGONEK AND MACRON,aSMALL LETTER O WITH OGONEK AND MACRON",
    "aCAPITAL LETTER EZH WITH CARON,aSMALL LETTER EZH WITH CARON,cJ WITH CARON",
    "aCAPITAL LETTER DZ,cD WITH SMALL LETTER Z,aSMALL LETTER DZ,aCAPITAL LETTER G WITH ACUTE",
    "aSMALL LETTER G WITH ACUTE,aCAPITAL LETTER HWAIR,cWYNN,cN WITH GRAVE",
    "aSMALL LETTER N WITH GRAVE,aCAPITAL LETTER A WITH RING ABOVE AND ACUTE",
    "aSMALL LETTER A WITH RING ABOVE AND ACUTE,aCAPITAL LETTER AE WITH ACUTE",
    "aSMALL LETTER AE WITH ACUTE,aCAPITAL LETTER O WITH STROKE AND ACUTE",
    "aSMALL LETTER O WITH STROKE AND ACUTE,aCAPITAL LETTER A WITH DOUBLE GRAVE",
    "aSMALL LETTER A WITH DOUBLE GRAVE,aCAPITAL LETTER A WITH INVERTED BREVE",
    "aSMALL LETTER A WITH INVERTED BREVE,aCAPITAL LETTER E WITH DOUBLE GRAVE",
    "aSMALL LETTER E WITH DOUBLE GRAVE,aCAPITAL LETTER E WITH INVERTED BREVE",
    "aSMALL LETTER E WITH INVERTED BREVE,aCAPITAL LETTER I WITH DOUBLE GRAVE",
    "aSMALL LETTER I WITH DOUBLE GRAVE,aCAPITAL LETTER I WITH INVERTED BREVE",
    "aSMALL LETTER I WITH INVERTED BREVE,aCAPITAL LETTER O WITH DOUBLE GRAVE",
    "aSMALL LETTER O WITH DOUBLE GRAVE,aCAPITAL LETTER O WITH INVERTED BREVE",
    "aSMALL LETTER O WITH INVERTED BREVE,aCAPITAL LETTER R WITH DOUBLE GRAVE",
    "aSMALL LETTER R WITH DOUBLE GRAVE,aCAPITAL LETTER R WITH INVERTED BREVE",
    "aSMALL LETTER R WITH INVERTED BREVE,aCAPITAL LETTER U WITH DOUBLE GRAVE",
    "aSMALL LETTER U WITH DOUBLE GRAVE,aCAPITAL LETTER U WITH INVERTED BREVE",
    "aSMALL LETTER U WITH INVERTED BREVE,aCAPITAL LETTER S WITH COMMA BELOW",
    "aSMALL LETTER S WITH COMMA BELOW,aCAPITAL LETTER T WITH COMMA BELOW",
    "aSMALL LETTER T WITH COMMA BELOW,aCAPITAL LETTER YOGH,aSMALL LETTER YOGH",
    "aCAPITAL LETTER H WITH CARON,aSMALL LETTER H WITH CARON",
    "aCAPITAL LETTER N WITH LONG RIGHT LEG,aSMALL LETTER D WITH CURL,aCAPITAL LETTER OU",
    "aSMALL LETTER OU,aCAPITAL LETTER Z WITH HOOK,aSMALL LETTER Z WITH HOOK",
    "aCAPITAL LETTER A WITH DOT ABOVE,aSMALL LETTER A WITH DOT ABOVE",
    "aCAPITAL LETTER E WITH CEDILLA,aSMALL LETTER E WITH CEDILLA",
    "aCAPITAL LETTER O WITH DIAERESIS AND MACRON,aSMALL LETTER O WITH DIAERESIS AND MACRON",
    "aCAPITAL LETTER O WITH TILDE AND MACRON,aSMALL LETTER O WITH TILDE AND MACRON",
    "aCAPITAL LETTER O WITH DOT ABOVE,aSMALL LETTER O WITH DOT ABOVE",
    "aCAPITAL LETTER O WITH DOT ABOVE AND MACRON,aSMALL LETTER O WITH DOT ABOVE AND MACRON",
    "aCAPITAL LETTER Y WITH MACRON,aSMALL LETTER Y WITH MACRON,cL WITH CURL,cN WITH CURL",
    "cT WITH CURL,cDOTLESS J,cDB DIGRAPH,cQP DIGRAPH,aCAPITAL LETTER A WITH STROKE",
    "cC WITH STROKE,aSMALL LETTER C WITH STROKE,aCAPITAL LETTER L WITH BAR",
    "cT WITH DIAGONAL STROKE,aSMALL LETTER S WITH SWASH TAIL,cZ WITH SWASH TAIL",
    "aCAPITAL LETTER GLOTTAL STOP,aSMALL LETTER GLOTTAL STOP,aCAPITAL LETTER B WITH STROKE",
    "cU BAR,cTURNED V,cE WITH STROKE,aSMALL LETTER E WITH STROKE,aCAPITAL LETTER J WITH STROKE",
    "aSMALL LETTER J WITH STROKE,aCAPITAL LETTER SMALL Q WITH HOOK TAIL",
    "aSMALL LETTER Q WITH HOOK TAIL,aCAPITAL LETTER R WITH STROKE,aSMALL LETTER R WITH STROKE",
    "aCAPITAL LETTER Y WITH STROKE,aSMALL LETTER Y WITH STROKE,cTURNED A,cALPHA,cTURNED ALPHA",
    "cB WITH HOOK,cOPEN O,cC WITH CURL,cD WITH TAIL,eHOOK,cREVERSED E,cSCHWA,dWITH HOOK",
    "cOPEN E,cREVERSED OPEN E,fWITH HOOK,cCLOSED REVERSED OPEN E,cDOTLESS J WITH STROKE",
    "cG WITH HOOK,cSCRIPT G,aLETTER SMALL CAPITAL G,aSMALL LETTER GAMMA,cRAMS HORN,cTURNED H",
    "cH WITH HOOK,cHENG WITH HOOK,cI WITH STROKE,cIOTA,aLETTER SMALL CAPITAL I",
    "aSMALL LETTER L WITH MIDDLE TILDE,eBELT,eRETROFLEX HOOK,cLEZH,cTURNED M,eWITH LONG LEG",
    "cM WITH HOOK,cN WITH LEFT HOOK,eRETROFLEX HOOK,aLETTER SMALL CAPITAL N",
    "aSMALL LETTER BARRED O,aLETTER SMALL CAPITAL OE,aSMALL LETTER CLOSED OMEGA,cPHI,cTURNED R",
    "eWITH LONG LEG,fHOOK,cR WITH LONG LEG,eTAIL,eFISHHOOK,cREVERSED R WITH FISHHOOK",
    "aLETTER SMALL CAPITAL R,dINVERTED R,aSMALL LETTER S WITH HOOK,cESH",
    "cDOTLESS J WITH STROKE AND HOOK,cSQUAT REVERSED ESH,cESH WITH CURL,cTURNED T",
    "cT WITH RETROFLEX HOOK,cU BAR,cUPSILON,cV WITH HOOK,cTURNED V,dW,dY",
    "aLETTER SMALL CAPITAL Y,aSMALL LETTER Z WITH RETROFLEX HOOK,eCURL,cEZH,dWITH CURL",
    "aLETTER GLOTTAL STOP,bPHARYNGEAL VOICED FRICATIVE,bINVERTED GLOTTAL STOP,bSTRETCHED C",
    "bBILABIAL CLICK,bSMALL CAPITAL B,aSMALL LETTER CLOSED OPEN E",
    "aLETTER SMALL CAPITAL G WITH HOOK,dH,aSMALL LETTER J WITH CROSSED-TAIL,cTURNED K",
    "aLETTER SMALL CAPITAL L,aSMALL LETTER Q WITH HOOK,aLETTER GLOTTAL STOP WITH STROKE",
    "bREVERSED GLOTTAL STOP WITH STROKE,aSMALL LETTER DZ DIGRAPH,cDEZH DIGRAPH",
    "cDZ DIGRAPH WITH CURL,cTS DIGRAPH,cTESH DIGRAPH,cTC DIGRAPH WITH CURL,cFENG DIGRAPH",
    "cLS DIGRAPH,cLZ DIGRAPH,aLETTER BILABIAL PERCUSSIVE,bBIDENTAL PERCUSSIVE",
    "aSMALL LETTER TURNED H WITH FISHHOOK,gAND TAIL,6736aLETTER SMALL CAPITAL A,dAE",
    "aSMALL LETTER TURNED AE,aLETTER SMALL CAPITAL BARRED B,dC,dD,dETH,dE",
    "aSMALL LETTER TURNED OPEN E,dI,aLETTER SMALL CAPITAL J,dK,dL WITH STROKE,dM,dREVERSED N",
    "dO,dOPEN O,aSMALL LETTER SIDEWAYS O,dOPEN O,dO WITH STROKE,cTURNED OE",
    "aLETTER SMALL CAPITAL OU,aSMALL LETTER TOP HALF O,cBOTTOM HALF O,aLETTER SMALL CAPITAL P",
    "dREVERSED R,dTURNED R,dT,dU,aSMALL LETTER SIDEWAYS U,dDIAERESIZED U,dTURNED M",
    "aLETTER SMALL CAPITAL V,dW,dZ,dEZH,bVOICED LARYNGEAL SPIRANT,bAIN",
    "60aSUBSCRIPT SMALL LETTER I,dR,dU,dV,5aSMALL LETTER UE,cB WITH MIDDLE TILDE",
    "cD WITH MIDDLE TILDE,cF WITH MIDDLE TILDE,cM WITH MIDDLE TILDE,cN WITH MIDDLE TILDE",
    "cP WITH MIDDLE TILDE,cR WITH MIDDLE TILDE,eFISHHOOK AND MIDDLE TILDE,cS WITH MIDDLE TILDE",
    "cT WITH MIDDLE TILDE,cZ WITH MIDDLE TILDE,cTURNED G,1cINSULAR G,cTH WITH STRIKETHROUGH",
    "bCAPITAL LETTER I WITH STROKE,bLETTER IOTA WITH STROKE,cP WITH STROKE",
    "bCAPITAL LETTER U WITH STROKE,bLETTER UPSILON WITH STROKE,cB WITH PALATAL HOOK",
    "cD WITH PALATAL HOOK,cF WITH PALATAL HOOK,cG WITH PALATAL HOOK,cK WITH PALATAL HOOK",
    "cL WITH PALATAL HOOK,cM WITH PALATAL HOOK,cN WITH PALATAL HOOK,cP WITH PALATAL HOOK",
    "cR WITH PALATAL HOOK,cS WITH PALATAL HOOK,cESH WITH PALATAL HOOK,cV WITH PALATAL HOOK",
    "cX WITH PALATAL HOOK,cZ WITH PALATAL HOOK,cA WITH RETROFLEX HOOK",
    "cALPHA WITH RETROFLEX HOOK,cD WITH HOOK AND TAIL,cE WITH RETROFLEX HOOK",
    "cOPEN E WITH RETROFLEX HOOK,cREVERSED OPEN E WITH RETROFLEX HOOK",
    "cSCHWA WITH RETROFLEX HOOK,cI WITH RETROFLEX HOOK,cOPEN O WITH RETROFLEX HOOK",
    "cESH WITH RETROFLEX HOOK,cU WITH RETROFLEX HOOK,cEZH WITH RETROFLEX HOOK",
    "101aCAPITAL LETTER A WITH RING BELOW,aSMALL LETTER A WITH RING BELOW",
    "aCAPITAL LETTER B WITH DOT ABOVE,aSMALL LETTER B WITH DOT ABOVE",
    "aCAPITAL LETTER B WITH DOT BELOW,aSMALL LETTER B WITH DOT BELOW",
    "aCAPITAL LETTER B WITH LINE BELOW,aSMALL LETTER B WITH LINE BELOW",
    "aCAPITAL LETTER C WITH CEDILLA AND ACUTE,aSMALL LETTER C WITH CEDILLA AND ACUTE",
    "aCAPITAL LETTER D WITH DOT ABOVE,aSMALL LETTER D WITH DOT ABOVE",
    "aCAPITAL LETTER D WITH DOT BELOW,aSMALL LETTER D WITH DOT BELOW",
    "aCAPITAL LETTER D WITH LINE BELOW,aSMALL LETTER D WITH LINE BELOW",
    "aCAPITAL LETTER D WITH CEDILLA,aSMALL LETTER D WITH CEDILLA",
    "aCAPITAL LETTER D WITH CIRCUMFLEX BELOW,aSMALL LETTER D WITH CIRCUMFLEX BELOW",
    "aCAPITAL LETTER E WITH MACRON AND GRAVE,aSMALL LETTER E WITH MACRON AND GRAVE",
    "aCAPITAL LETTER E WITH MACRON AND ACUTE,aSMALL LETTER E WITH MACRON AND ACUTE",
    "aCAPITAL LETTER E WITH CIRCUMFLEX BELOW,aSMALL LETTER E WITH CIRCUMFLEX BELOW",
    "aCAPITAL LETTER E WITH TILDE BELOW,aSMALL LETTER E WITH TILDE BELOW",
    "aCAPITAL LETTER E WITH CEDILLA AND BREVE,aSMALL LETTER E WITH CEDILLA AND BREVE",
    "aCAPITAL LETTER F WITH DOT ABOVE,aSMALL LETTER F WITH DOT ABOVE",
    "aCAPITAL LETTER G WITH MACRON,aSMALL LETTER G WITH MACRON",
    "aCAPITAL LETTER H WITH DOT ABOVE,aSMALL LETTER H WITH DOT ABOVE",
    "aCAPITAL LETTER H WITH DOT BELOW,aSMALL LETTER H WITH DOT BELOW",
    "aCAPITAL LETTER H WITH DIAERESIS,aSMALL LETTER H WITH DIAERESIS",
    "aCAPITAL LETTER H WITH CEDILLA,aSMALL LETTER H WITH CEDILLA",
    "aCAPITAL LETTER H WITH BREVE BELOW,aSMALL LETTER H WITH BREVE BELOW",
    "aCAPITAL LETTER I WITH TILDE BELOW,aSMALL LETTER I WITH TILDE BELOW",
    "aCAPITAL LETTER I WITH DIAERESIS AND ACUTE,aSMALL LETTER I WITH DIAERESIS AND ACUTE",
    "aCAPITAL LETTER K WITH ACUTE,aSMALL LETTER K WITH ACUTE,aCAPITAL LETTER K WITH DOT BELOW",
    "aSMALL LETTER K WITH DOT BELOW,aCAPITAL LETTER K WITH LINE BELOW",
    "aSMALL LETTER K WITH LINE BELOW,aCAPITAL LETTER L WITH DOT BELOW",
    "aSMALL LETTER L WITH DOT BELOW,aCAPITAL LETTER L WITH DOT BELOW AND MACRON",
    "aSMALL LETTER L WITH DOT BELOW AND MACRON,aCAPITAL LETTER L WITH LINE BELOW",
    "aSMALL LETTER L WITH LINE BELOW,aCAPITAL LETTER L WITH CIRCUMFLEX BELOW",
    "aSMALL LETTER L WITH CIRCUMFLEX BELOW,aCAPITAL LETTER M WITH ACUTE",
    "aSMALL LETTER M WITH ACUTE,aCAPITAL LETTER M WITH DOT ABOVE",
    "aSMALL LETTER M WITH DOT ABOVE,aCAPITAL LETTER M WITH DOT BELOW",
    "aSMALL LETTER M WITH DOT BELOW,aCAPITAL LETTER N WITH DOT ABOVE",
    "aSMALL LETTER N WITH DOT ABOVE,aCAPITAL LETTER N WITH DOT BELOW",
    "aSMALL LETTER N WITH DOT BELOW,aCAPITAL LETTER N WITH LINE BELOW",
    "aSMALL LETTER N WITH LINE BELOW,aCAPITAL LETTER N WITH CIRCUMFLEX BELOW",
    "aSMALL LETTER N WITH CIRCUMFLEX BELOW,aCAPITAL LETTER O WITH TILDE AND ACUTE",
    "aSMALL LETTER O WITH TILDE AND ACUTE,aCAPITAL LETTER O WITH TILDE AND DIAERESIS",
    "aSMALL LETTER O WITH TILDE AND DIAERESIS,aCAPITAL LETTER O WITH MACRON AND GRAVE",
    "aSMALL LETTER O WITH MACRON AND GRAVE,aCAPITAL LETTER O WITH MACRON AND ACUTE",
    "aSMALL LETTER O WITH MACRON AND ACUTE,aCAPITAL LETTER P WITH ACUTE",
    "aSMALL LETTER P WITH ACUTE,aCAPITAL LETTER P WITH DOT ABOVE",
    "aSMALL LETTER P WITH DOT ABOVE,aCAPITAL LETTER R WITH DOT ABOVE",
    "aSMALL LETTER R WITH DOT ABOVE,aCAPITAL LETTER R WITH DOT BELOW",
    "aSMALL LETTER R WITH DOT BELOW,aCAPITAL LETTER R WITH DOT BELOW AND MACRON",
    "aSMALL LETTER R WITH DOT BELOW AND MACRON,aCAPITAL LETTER R WITH LINE BELOW",
    "aSMALL LETTER R WITH LINE BELOW,aCAPITAL LETTER S WITH DOT ABOVE",
    "aSMALL LETTER S WITH DOT ABOVE,aCAPITAL LETTER S WITH DOT BELOW",
    "aSMALL LETTER S WITH DOT BELOW,aCAPITAL LETTER S WITH ACUTE AND DOT ABOVE",
    "aSMALL LETTER S WITH ACUTE AND DOT ABOVE,aCAPITAL LETTER S WITH CARON AND DOT ABOVE",
    "aSMALL LETTER S WITH CARON AND DOT ABOVE,aCAPITAL LETTER S WITH DOT BELOW AND DOT ABOVE",
    "aSMALL LETTER S WITH DOT BELOW AND DOT ABOVE,aCAPITAL LETTER T WITH DOT ABOVE",
    "aSMALL LETTER T WITH DOT ABOVE,aCAPITAL LETTER T WITH DOT BELOW",
    "aSMALL LETTER T WITH DOT BELOW,aCAPITAL LETTER T WITH LINE BELOW",
    "aSMALL LETTER T WITH LINE BELOW,aCAPITAL LETTER T WITH CIRCUMFLEX BELOW",
    "aSMALL LETTER T WITH CIRCUMFLEX BELOW,aCAPITAL LETTER U WITH DIAERESIS BELOW",
    "aSMALL LETTER U WITH DIAERESIS BELOW,aCAPITAL LETTER U WITH TILDE BELOW",
    "aSMALL LETTER U WITH TILDE BELOW,aCAPITAL LETTER U WITH CIRCUMFLEX BELOW",
    "aSMALL LETTER U WITH CIRCUMFLEX BELOW,aCAPITAL LETTER U WITH TILDE AND ACUTE",
    "aSMALL LETTER U WITH TILDE AND ACUTE,aCAPITAL LETTER U WITH MACRON AND DIAERESIS",
    "aSMALL LETTER U WITH MACRON AND DIAERESIS,aCAPITAL LETTER V WITH TILDE",
    "aSMALL LETTER V WITH TILDE,aCAPITAL LETTER V WITH DOT BELOW",
    "aSMALL LETTER V WITH DOT BELOW,aCAPITAL LETTER W WITH GRAVE,aSMALL LETTER W WITH GRAVE",
    "aCAPITAL LETTER W WITH ACUTE,aSMALL LETTER W WITH ACUTE,aCAPITAL LETTER W WITH DIAERESIS",
    "aSMALL LETTER W WITH DIAERESIS,aCAPITAL LETTER W WITH DOT ABOVE",
    "aSMALL LETTER W WITH DOT ABOVE,aCAPITAL LETTER W WITH DOT BELOW",
    "aSMALL LETTER W WITH DOT BELOW,aCAPITAL LETTER X WITH DOT ABOVE",
    "aSMALL LETTER X WITH DOT ABOVE,aCAPITAL LETTER X WITH DIAERESIS",
    "aSMALL LETTER X WITH DIAERESIS,aCAPITAL LETTER Y WITH DOT ABOVE",
    "aSMALL LETTER Y WITH DOT ABOVE,aCAPITAL LETTER Z WITH CIRCUMFLEX",
    "aSMALL LETTER Z WITH CIRCUMFLEX,aCAPITAL LETTER Z WITH DOT BELOW",
    "aSMALL LETTER Z WITH DOT BELOW,aCAPITAL LETTER Z WITH LINE BELOW",
    "aSMALL LETTER Z WITH LINE BELOW,cH WITH LINE BELOW,cT WITH DIAERESIS,cW WITH RING ABOVE",
    "cY WITH RING ABOVE,cA WITH RIGHT HALF RING,cLONG S WITH DOT ABOVE,fDIAGONAL STROKE",
    "fHIGH STROKE,aCAPITAL LETTER SHARP S,aSMALL LETTER DELTA,aCAPITAL LETTER A WITH DOT BELOW",
    "aSMALL LETTER A WITH DOT BELOW,aCAPITAL LETTER A WITH HOOK ABOVE",
    "aSMALL LETTER A WITH HOOK ABOVE,aCAPITAL LETTER A WITH CIRCUMFLEX AND ACUTE",
    "aSMALL LETTER A WITH CIRCUMFLEX AND ACUTE,aCAPITAL LETTER A WITH CIRCUMFLEX AND GRAVE",
    "aSMALL LETTER A WITH CIRCUMFLEX AND GRAVE",
    "aCAPITAL LETTER A WITH CIRCUMFLEX AND HOOK ABOVE",
    "aSMALL LETTER A WITH CIRCUMFLEX AND HOOK ABOVE",
    "aCAPITAL LETTER A WITH CIRCUMFLEX AND TILDE,aSMALL LETTER A WITH CIRCUMFLEX AND TILDE",
    "aCAPITAL LETTER A WITH CIRCUMFLEX AND DOT BELOW",
    "aSMALL LETTER A WITH CIRCUMFLEX AND DOT BELOW,aCAPITAL LETTER A WITH BREVE AND ACUTE",
    "aSMALL LETTER A WITH BREVE AND ACUTE,aCAPITAL LETTER A WITH BREVE AND GRAVE",
    "aSMALL LETTER A WITH BREVE AND GRAVE,aCAPITAL LETTER A WITH BREVE AND HOOK ABOVE",
    "aSMALL LETTER A WITH BREVE AND HOOK ABOVE,aCAPITAL LETTER A WITH BREVE AND TILDE",
    "aSMALL LETTER A WITH BREVE AND TILDE,aCAPITAL LETTER A WITH BREVE AND DOT BELOW",
    "aSMALL LETTER A WITH BREVE AND DOT BELOW,aCAPITAL LETTER E WITH DOT BELOW",
    "aSMALL LETTER E WITH DOT BELOW,aCAPITAL LETTER E WITH HOOK ABOVE",
    "aSMALL LETTER E WITH HOOK ABOVE,aCAPITAL LETTER E WITH TILDE,aSMALL LETTER E WITH TILDE",
    "aCAPITAL LETTER E WITH CIRCUMFLEX AND ACUTE,aSMALL LETTER E WITH CIRCUMFLEX AND ACUTE",
    "aCAPITAL LETTER E WITH CIRCUMFLEX AND GRAVE,aSMALL LETTER E WITH CIRCUMFLEX AND GRAVE",
    "aCAPITAL LETTER E WITH CIRCUMFLEX AND HOOK ABOVE",
    "aSMALL LETTER E WITH CIRCUMFLEX AND HOOK ABOVE",
    "aCAPITAL LETTER E WITH CIRCUMFLEX AND TILDE,aSMALL LETTER E WITH CIRCUMFLEX AND TILDE",
    "aCAPITAL LETTER E WITH CIRCUMFLEX AND DOT BELOW",
    "aSMALL LETTER E WITH CIRCUMFLEX AND DOT BELOW,aCAPITAL LETTER I WITH HOOK ABOVE",
    "aSMALL LETTER I WITH HOOK ABOVE,aCAPITAL LETTER I WITH DOT BELOW",
    "aSMALL LETTER I WITH DOT BELOW,aCAPITAL LETTER O WITH DOT BELOW",
    "aSMALL LETTER O WITH DOT BELOW,aCAPITAL LETTER O WITH HOOK ABOVE",
    "aSMALL LETTER O WITH HOOK ABOVE,aCAPITAL LETTER O WITH CIRCUMFLEX AND ACUTE",
    "aSMALL LETTER O WITH CIRCUMFLEX AND ACUTE,aCAPITAL LETTER O WITH CIRCUMFLEX AND GRAVE",
    "aSMALL LETTER O WITH CIRCUMFLEX AND GRAVE",
    "aCAPITAL LETTER O WITH CIRCUMFLEX AND HOOK ABOVE",
    "aSMALL LETTER O WITH CIRCUMFLEX AND HOOK ABOVE",
    "aCAPITAL LETTER O WITH CIRCUMFLEX AND TILDE,aSMALL LETTER O WITH CIRCUMFLEX AND TILDE",
    "aCAPITAL LETTER O WITH CIRCUMFLEX AND DOT BELOW",
    "aSMALL LETTER O WITH CIRCUMFLEX AND DOT BELOW,aCAPITAL LETTER O WITH HORN AND ACUTE",
    "aSMALL LETTER O WITH HORN AND ACUTE,aCAPITAL LETTER O WITH HORN AND GRAVE",
    "aSMALL LETTER O WITH HORN AND GRAVE,aCAPITAL LETTER O WITH HORN AND HOOK ABOVE",
    "aSMALL LETTER O WITH HORN AND HOOK ABOVE,aCAPITAL LETTER O WITH HORN AND TILDE",
    "aSMALL LETTER O WITH HORN AND TILDE,aCAPITAL LETTER O WITH HORN AND DOT BELOW",
    "aSMALL LETTER O WITH HORN AND DOT BELOW,aCAPITAL LETTER U WITH DOT BELOW",
    "aSMALL LETTER U WITH DOT BELOW,aCAPITAL LETTER U WITH HOOK ABOVE",
    "aSMALL LETTER U WITH HOOK ABOVE,aCAPITAL LETTER U WITH HORN AND ACUTE",
    "aSMALL LETTER U WITH HORN AND ACUTE,aCAPITAL LETTER U WITH HORN AND GRAVE",
    "aSMALL LETTER U WITH HORN AND GRAVE,aCAPITAL LETTER U WITH HORN AND HOOK ABOVE",
    "aSMALL LETTER U WITH HORN AND HOOK ABOVE,aCAPITAL LETTER U WITH HORN AND TILDE",
    "aSMALL LETTER U WITH HORN AND TILDE,aCAPITAL LETTER U WITH HORN AND DOT BELOW",
    "aSMALL LETTER U WITH HORN AND DOT BELOW,aCAPITAL LETTER Y WITH GRAVE",
    "aSMALL LETTER Y WITH GRAVE,aCAPITAL LETTER Y WITH DOT BELOW",
    "aSMALL LETTER Y WITH DOT BELOW,aCAPITAL LETTER Y WITH HOOK ABOVE",
    "aSMALL LETTER Y WITH HOOK ABOVE,aCAPITAL LETTER Y WITH TILDE,aSMALL LETTER Y WITH TILDE",
    "aCAPITAL LETTER MIDDLE-WELSH LL,aSMALL LETTER MIDDLE-WELSH LL",
    "aCAPITAL LETTER MIDDLE-WELSH V,aSMALL LETTER MIDDLE-WELSH V,aCAPITAL LETTER Y WITH LOOP",
    "aSMALL LETTER Y WITH LOOP,400aSUBSCRIPT SMALL LETTER A,dE,dO,dX,dSCHWA,dH,dK,dL,dM,dN,dP",
    "dS,dT,231aSMALL LETTER REVERSED C,1432aCROSS,1346aCAPITAL LETTER L WITH DOUBLE BAR",
    "aSMALL LETTER L WITH DOUBLE BAR,aCAPITAL LETTER L WITH MIDDLE TILDE,cP WITH STROKE",
    "cR WITH TAIL,aSMALL LETTER A WITH STROKE,cT WITH DIAGONAL STROKE",
    "aCAPITAL LETTER H WITH DESCENDER,aSMALL LETTER H WITH DESCENDER",
    "aCAPITAL LETTER K WITH DESCENDER,aSMALL LETTER K WITH DESCENDER",
    "aCAPITAL LETTER Z WITH DESCENDER,aSMALL LETTER Z WITH DESCENDER,aCAPITAL LETTER ALPHA",
    "cM WITH HOOK,cTURNED A,dALPHA,aSMALL LETTER V WITH RIGHT HOOK,aCAPITAL LETTER W WITH HOOK",
    "aSMALL LETTER W WITH HOOK,cV WITH CURL,aCAPITAL LETTER HALF H,aSMALL LETTER HALF H",
    "cTAILLESS PHI,cE WITH NOTCH,cTURNED R WITH TAIL,cO WITH LOW RING INSIDE",
    "aLETTER SMALL CAPITAL TURNED E,aSUBSCRIPT SMALL LETTER J",
    "1aCAPITAL LETTER S WITH SWASH TAIL,cZ WITH SWASH TAIL,31394cEGYPTOLOGICAL ALEF",
    "aSMALL LETTER EGYPTOLOGICAL ALEF,aCAPITAL LETTER EGYPTOLOGICAL AIN",
    "aSMALL LETTER EGYPTOLOGICAL AIN,aCAPITAL LETTER HENG,aSMALL LETTER HENG",
    "aCAPITAL LETTER TZ,aSMALL LETTER TZ,aCAPITAL LETTER TRESILLO,aSMALL LETTER TRESILLO",
    "aCAPITAL LETTER CUATRILLO,aSMALL LETTER CUATRILLO,aCAPITAL LETTER CUATRILLO WITH COMMA",
    "aSMALL LETTER CUATRILLO WITH COMMA,aLETTER SMALL CAPITAL F,dS,aCAPITAL LETTER AA",
    "aSMALL LETTER AA,aCAPITAL LETTER AO,aSMALL LETTER AO,aCAPITAL LETTER AU,aSMALL LETTER AU",
    "aCAPITAL LETTER AV,aSMALL LETTER AV,aCAPITAL LETTER AV WITH HORIZONTAL BAR",
    "aSMALL LETTER AV WITH HORIZONTAL BAR,aCAPITAL LETTER AY,aSMALL LETTER AY",
    "aCAPITAL LETTER REVERSED C WITH DOT,aSMALL LETTER REVERSED C WITH DOT",
    "aCAPITAL LETTER K WITH STROKE,aSMALL LETTER K WITH STROKE",
    "aCAPITAL LETTER K WITH DIAGONAL STROKE,aSMALL LETTER K WITH DIAGONAL STROKE",
    "aCAPITAL LETTER K WITH STROKE AND DIAGONAL STROKE",
    "aSMALL LETTER K WITH STROKE AND DIAGONAL STROKE,aCAPITAL LETTER BROKEN L",
    "aSMALL LETTER BROKEN L,aCAPITAL LETTER L WITH HIGH STROKE",
    "aSMALL LETTER L WITH HIGH STROKE,aCAPITAL LETTER O WITH LONG STROKE OVERLAY",
    "aSMALL LETTER O WITH LONG STROKE OVERLAY,aCAPITAL LETTER O WITH LOOP",
    "aSMALL LETTER O WITH LOOP,aCAPITAL LETTER OO,aSMALL LETTER OO",
    "aCAPITAL LETTER P WITH STROKE THROUGH DESCENDER",
    "aSMALL LETTER P WITH STROKE THROUGH DESCENDER,aCAPITAL LETTER P WITH FLOURISH",
    "aSMALL LETTER P WITH FLOURISH,aCAPITAL LETTER P WITH SQUIRREL TAIL",
    "aSMALL LETTER P WITH SQUIRREL TAIL,aCAPITAL LETTER Q WITH STROKE THROUGH DESCENDER",
    "aSMALL LETTER Q WITH STROKE THROUGH DESCENDER,aCAPITAL LETTER Q WITH DIAGONAL STROKE",
    "aSMALL LETTER Q WITH DIAGONAL STROKE,aCAPITAL LETTER R ROTUNDA,aSMALL LETTER R ROTUNDA",
    "aCAPITAL LETTER RUM ROTUNDA,aSMALL LETTER RUM ROTUNDA",
    "aCAPITAL LETTER V WITH DIAGONAL STROKE,aSMALL LETTER V WITH DIAGONAL STROKE",
    "aCAPITAL LETTER VY,aSMALL LETTER VY,aCAPITAL LETTER VISIGOTHIC Z",
    "aSMALL LETTER VISIGOTHIC Z,aCAPITAL LETTER THORN WITH STROKE",
    "aSMALL LETTER THORN WITH STROKE,aCAPITAL LETTER THORN WITH STROKE THROUGH DESCENDER",
    "aSMALL LETTER THORN WITH STROKE THROUGH DESCENDER,aCAPITAL LETTER VEND,aSMALL LETTER VEND",
    "aCAPITAL LETTER ET,aSMALL LETTER ET,aCAPITAL LETTER IS,aSMALL LETTER IS",
    "aCAPITAL LETTER CON,aSMALL LETTER CON,1cDUM,cLUM,cMUM,cNUM,cRUM,aLETTER SMALL CAPITAL RUM",
    "aSMALL LETTER TUM,cUM,aCAPITAL LETTER INSULAR D,aSMALL LETTER INSULAR D",
    "aCAPITAL LETTER INSULAR F,aSMALL LETTER INSULAR F,aCAPITAL LETTER INSULAR G",
    "cTURNED INSULAR G,aSMALL LETTER TURNED INSULAR G,aCAPITAL LETTER TURNED L",
    "aSMALL LETTER TURNED L,aCAPITAL LETTER INSULAR R,aSMALL LETTER INSULAR R",
    "aCAPITAL LETTER INSULAR S,aSMALL LETTER INSULAR S,aCAPITAL LETTER INSULAR T",
    "aSMALL LETTER INSULAR T,3aCAPITAL LETTER SALTILLO,aSMALL LETTER SALTILLO",
    "aCAPITAL LETTER TURNED H,aSMALL LETTER L WITH RETROFLEX HOOK AND BELT",
    "aLETTER SINOLOGICAL DOT,aCAPITAL LETTER N WITH DESCENDER,aSMALL LETTER N WITH DESCENDER",
    "aCAPITAL LETTER C WITH BAR,aSMALL LETTER C WITH BAR,ePALATAL HOOK,cH WITH PALATAL HOOK",
    "aCAPITAL LETTER B WITH FLOURISH,aSMALL LETTER B WITH FLOURISH",
    "aCAPITAL LETTER F WITH STROKE,aSMALL LETTER F WITH STROKE,aCAPITAL LETTER VOLAPUK AE",
    "aSMALL LETTER VOLAPUK AE,aCAPITAL LETTER VOLAPUK OE,aSMALL LETTER VOLAPUK OE",
    "aCAPITAL LETTER VOLAPUK UE,aSMALL LETTER VOLAPUK UE,aCAPITAL LETTER G WITH OBLIQUE STROKE",
    "aSMALL LETTER G WITH OBLIQUE STROKE,aCAPITAL LETTER K WITH OBLIQUE STROKE",
    "aSMALL LETTER K WITH OBLIQUE STROKE,aCAPITAL LETTER N WITH OBLIQUE STROKE",
    "aSMALL LETTER N WITH OBLIQUE STROKE,aCAPITAL LETTER R WITH OBLIQUE STROKE",
    "aSMALL LETTER R WITH OBLIQUE STROKE,aCAPITAL LETTER S WITH OBLIQUE STROKE",
    "aSMALL LETTER S WITH OBLIQUE STROKE,aCAPITAL LETTER H WITH HOOK,cREVERSED OPEN E",
    "cSCRIPT G,cL WITH BELT,cSMALL CAPITAL I,aLETTER SMALL CAPITAL Q,aCAPITAL LETTER TURNED K",
    "dT,cJ WITH CROSSED-TAIL,cCHI,cBETA,aSMALL LETTER BETA,aCAPITAL LETTER OMEGA",
    "aSMALL LETTER OMEGA,aCAPITAL LETTER U WITH STROKE,aSMALL LETTER U WITH STROKE",
    "aCAPITAL LETTER GLOTTAL A,aSMALL LETTER GLOTTAL A,aCAPITAL LETTER GLOTTAL I",
    "aSMALL LETTER GLOTTAL I,aCAPITAL LETTER GLOTTAL U,aSMALL LETTER GLOTTAL U",
    "aCAPITAL LETTER OLD POLISH O,aSMALL LETTER OLD POLISH O,aCAPITAL LETTER ANGLICANA W",
    "aSMALL LETTER ANGLICANA W,aCAPITAL LETTER C WITH PALATAL HOOK,cS WITH HOOK",
    "cZ WITH PALATAL HOOK,cD WITH SHORT STROKE OVERLAY",
    "aSMALL LETTER D WITH SHORT STROKE OVERLAY,aCAPITAL LETTER S WITH SHORT STROKE OVERLAY",
    "aSMALL LETTER S WITH SHORT STROKE OVERLAY,5aCAPITAL LETTER CLOSED INSULAR G",
    "aSMALL LETTER CLOSED INSULAR G,1cDOUBLE THORN,1dWYNN,aCAPITAL LETTER MIDDLE SCOTS S",
    "aSMALL LETTER MIDDLE SCOTS S,aCAPITAL LETTER SIGMOID S,aSMALL LETTER SIGMOID S",
    "27aCAPITAL LETTER REVERSED HALF H,aSMALL LETTER REVERSED HALF H",
    "aEPIGRAPHIC LETTER SIDEWAYS I,2aLETTER SMALL CAPITAL TURNED M",
    "aEPIGRAPHIC LETTER REVERSED F,dP,cINVERTED M,cI LONGA,cARCHAIC M",
    "816aSMALL LETTER BARRED ALPHA,cA REVERSED-SCHWA,cBLACKLETTER E,cBARRED E,cE WITH FLOURISH",
    "cLENIS F,cSCRIPT G WITH CROSSED-TAIL,cL WITH INVERTED LAZY S,eDOUBLE MIDDLE TILDE",
    "eMIDDLE RING,cM WITH CROSSED-TAIL,cN WITH CROSSED-TAIL,cENG WITH CROSSED-TAIL",
    "cBLACKLETTER O,eWITH STROKE,cOPEN O WITH STROKE,cINVERTED OE,cTURNED OE WITH STROKE",
    "fHORIZONTAL STROKE,dO OPEN-O,fWITH STROKE,cSTIRRUP R",
    "aLETTER SMALL CAPITAL R WITH RIGHT LEG,aSMALL LETTER R WITHOUT HANDLE,cDOUBLE R",
    "cR WITH CROSSED-TAIL,cDOUBLE R WITH CROSSED-TAIL,cSCRIPT R,eWITH RING,cBASELINE ESH",
    "cU WITH SHORT RIGHT LEG,dBAR WITH SHORT RIGHT LEG,cUI,cTURNED UI,cU WITH LEFT HOOK,cCHI",
    "dWITH LOW RIGHT RING,fLEFT SERIF,cX WITH LOW RIGHT RING,eLONG LEFT LEG",
    "hAND LOW RIGHT RING,hWITH SERIF,cY WITH SHORT RIGHT LEG,5cSAKHA YAT,cIOTIFIED E,cOPEN OE",
    "cUO,cINVERTED ALPHA,1cDZ DIGRAPH WITH RETROFLEX HOOK,cTS DIGRAPH WITH RETROFLEX HOOK",
    "cTURNED R WITH MIDDLE TILDE,20375bLIGATURE FF,cFI,cFL,cFFI,cFFL,cLONG S T,cST",
    "58361bLETTER FENG DIGRAPH WITH TRILL,cREVERSED SCRIPT G,aLETTER SMALL CAPITAL TURNED G",
    "aSMALL LETTER REVERSED K,aLETTER SMALL CAPITAL L WITH BELT",
    "aSMALL LETTER LEZH WITH RETROFLEX HOOK,cTURNED Y WITH BELT,cREVERSED ENG",
    "cTURNED R WITH LONG LEG AND RETROFLEX HOOK,cT WITH HOOK AND RETROFLEX HOOK",
    "aLETTER RETROFLEX CLICK WITH RETROFLEX HOOK,aSMALL LETTER ESH WITH DOUBLE BAR,gAND CURL",
    "cTURNED T WITH CURL,aLETTER INVERTED GLOTTAL STOP WITH CURL,bSTRETCHED C WITH CURL",
    "bSMALL CAPITAL TURNED K,aSMALL LETTER L WITH FISHHOOK,cDEZH DIGRAPH WITH PALATAL HOOK",
    "cL WITH BELT AND PALATAL HOOK,cENG WITH PALATAL HOOK,cTURNED R WITH PALATAL HOOK",
    "cR WITH FISHHOOK AND PALATAL HOOK,cTESH DIGRAPH WITH PALATAL HOOK,cEZH WITH PALATAL HOOK",
    "cDEZH DIGRAPH WITH RETROFLEX HOOK,cI WITH STROKE AND RETROFLEX HOOK",
    "cO WITH RETROFLEX HOOK,cTESH DIGRAPH WITH RETROFLEX HOOK,cC WITH RETROFLEX HOOK",
    "cS WITH CURL"]⟩,
  ⟨"LEFT", [
    "40aPARENTHESIS,50aSQUARE BRACKET,31aCURLY BRACKET,8092aSINGLE QUOTATION MARK",
    "3aDOUBLE QUOTATION MARK,40aSQUARE BRACKET WITH QUILL,334aRIGHT ARROW,24bWAVE ARROW",
    "bARROW WITH STROKE,31bDOUBLE ARROW WITH STROKE,5d,36bARROW WITH VERTICAL STROKE",
    "2dDOUBLE VERTICAL STROKE,2bOPEN-HEADED ARROW,163aTACK,37aNORMAL FACTOR SEMIDIRECT PRODUCT",
    "1aSEMIDIRECT PRODUCT,60aCEILING,1aFLOOR,144aPARENTHESIS UPPER HOOK,bEXTENSION,bLOWER HOOK",
    "3aSQUARE BRACKET UPPER CORNER,cEXTENSION,cLOWER CORNER,3aCURLY BRACKET UPPER HOOK",
    "cMIDDLE PIECE,cLOWER HOOK,14aVERTICAL BOX LINE,464aSEVEN EIGHTHS BLOCK",
    "aTHREE QUARTERS BLOCK,aFIVE EIGHTHS BLOCK,aHALF BLOCK,aTHREE EIGHTHS BLOCK",
    "aONE QUARTER BLOCK,bEIGHTH BLOCK,70aHALF BLACK CIRCLE,261aCLOSED ENTRY",
    "232aS-SHAPED BAG DELIMITER,15aOUTER JOIN,4aAND RIGHT DOUBLE TURNSTILE,cTACK,aMULTIMAP",
    "295aRIGHT DOUBLE ARROW WITH VERTICAL STROKE,67bARROW THROUGH SMALL CIRCLE",
    "1aBARB UP RIGHT BARB DOWN HARPOON,bDOWN RIGHT BARB UP HARPOON,2bUP RIGHT BARB UP HARPOON",
    "1bDOWN RIGHT BARB DOWN HARPOON,43aFISH TAIL,6aWHITE CURLY BRACKET,1bPARENTHESIS",
    "5aSQUARE BRACKET WITH UNDERBAR,1dTICK IN TOP CORNER,1fBOTTOM CORNER",
    "1aANGLE BRACKET WITH DOT,1aARC LESS-THAN BRACKET,3aBLACK TORTOISE SHELL BRACKET",
    "55aTRIANGLE BESIDE VERTICAL BAR,8aWIGGLY FENCE,1aDOUBLE WIGGLY FENCE",
    "297aRIGHT WHITE ARROW,7bBLACK ARROW,35aARROW WITH SMALL CIRCLE,1cCIRCLED PLUS",
    "49aRIGHT TRIANGLE-HEADED ARROW,131aHALF BLACK STAR,537aSUBSTITUTION BRACKET",
    "1aDOTTED SUBSTITUTION BRACKET,4aTRANSPOSITION BRACKET,2aRAISED OMISSION BRACKET",
    "15aLOW PARAPHRASE BRACKET,3aVERTICAL BAR WITH QUILL,5aSIDEWAYS U BRACKET",
    "1aDOUBLE PARENTHESIS,44aSQUARE BRACKET WITH STROKE,1dDOUBLE STROKE,432aANGLE BRACKET",
    "1aDOUBLE ANGLE BRACKET,1aCORNER BRACKET,1aWHITE CORNER BRACKET,1aBLACK LENTICULAR BRACKET",
    "3aTORTOISE SHELL BRACKET,1aWHITE LENTICULAR BRACKET,1bTORTOISE SHELL BRACKET",
    "1bSQUARE BRACKET,116064aHAND TELEPHONE RECEIVER,18aWRITING HAND,89aSPEECH BUBBLE",
    "3aTHOUGHT BUBBLE,1aANGER BUBBLE,214aLUGGAGE,402aRIGHT SANS-SERIF ARROW",
    "170aHALF CIRCLE WITH FOUR DOTS,dTHREE DOTS,dTWO DOTS,dDOT,c",
    "609aAND LOWER AND RIGHT TRIANGULAR THREE QUARTERS BLOCK",
    "1bUPPER AND RIGHT TRIANGULAR THREE QUARTERS BLOCK,aTRIANGULAR ONE QUARTER BLOCK",
    "15aAND LOWER ONE EIGHTH BLOCK,bUPPER ONE EIGHTH BLOCK,14aHALF MEDIUM SHADE",
    "7bINVERSE MEDIUM SHADE AND RIGHT HALF BLOCK,6aAND RIGHT TRIANGULAR HALF BLOCK",
    "22aHALF RUNNING MAN,6bFOLDER,7aTHIRD WHITE RIGHT POINTING INDEX"]⟩,
  ⟨"LEFT-FACING", ["1422aARMENIAN ETERNITY SIGN,2631aSVASTI SIGN,1cWITH DOTS,125250aFIST"]⟩,
  ⟨"LEFT-POINTING", [
    "171aDOUBLE ANGLE QUOTATION MARK,8829aANGLE BRACKET,1746aCURVED ANGLE BRACKET",
    "117520aMAGNIFYING GLASS"]⟩,
  ⟨"LEFT-TO-RIGHT", ["8206aMARK,27aEMBEDDING,2aOVERRIDE,56aISOLATE"]⟩,
  ⟨"LEFTWARDS", [
    "8592aARROW,9bWITH STROKE,1aWAVE ARROW,1aTWO HEADED ARROW,3aARROW WITH TAIL,1bFROM BAR",
    "4bWITH HOOK,1cLOOP,13bTO BAR OVER RIGHTWARDS ARROW TO BAR,2aHARPOON WITH BARB UPWARDS",
    "dDOWNWARDS,8aARROW OVER RIGHTWARDS ARROW,aPAIRED ARROWS,3aHARPOON OVER RIGHTWARDS HARPOON",
    "1aDOUBLE ARROW WITH STROKE,2c,9aTRIPLE ARROW,1aSQUIGGLE ARROW,3aDASHED ARROW",
    "3aARROW TO BAR,1aWHITE ARROW,16aARROW WITH VERTICAL STROKE,2cDOUBLE VERTICAL STROKE",
    "2aOPEN-HEADED ARROW,1796aDOUBLE ARROW WITH VERTICAL STROKE,3cFROM BAR,5bDASH ARROW",
    "1aTRIPLE DASH ARROW,10aARROW-TAIL,1aDOUBLE ARROW-TAIL,1aARROW TO BLACK DIAMOND",
    "1bFROM BAR TO BLACK DIAMOND,35bABOVE SHORT RIGHTWARDS ARROW,2bWITH PLUS BELOW",
    "11aHARPOON WITH BARB UP TO BAR,3dDOWN TO BAR,3dUP FROM BAR,3dDOWN FROM BAR",
    "3dUP ABOVE LEFTWARDS HARPOON WITH BARB DOWN,3fRIGHTWARDS HARPOON WITH BARB UP",
    "dDOWN ABOVE RIGHTWARDS HARPOON WITH BARB DOWN,2dUP ABOVE LONG DASH,dDOWN BELOW LONG DASH",
    "7aARROW ABOVE TILDE OPERATOR,3bTHROUGH LESS-THAN,2cSUBSET,394aBLACK ARROW",
    "10aARROW WITH TIP DOWNWARDS,dUPWARDS,34aTWO-HEADED ARROW WITH VERTICAL STROKE",
    "dDOUBLE VERTICAL STROKE,cFROM BAR,bTRIPLE DASH ARROW,aARROW WITH DOTTED STEM",
    "cTAIL WITH VERTICAL STROKE,eDOUBLE VERTICAL STROKE,aTWO-HEADED ARROW WITH TAIL",
    "eWITH VERTICAL STROKE,fDOUBLE VERTICAL STROKE,aARROW THROUGH X",
    "3bABOVE REVERSE ALMOST EQUAL TO,2aQUADRUPLE ARROW,4aARROW ABOVE ALMOST EQUAL TO",
    "cREVERSE TILDE OPERATOR,20aTRIANGLE-HEADED ARROW,9bDASHED ARROW,5bARROW TO BAR",
    "9cWITH DOUBLE HORIZONTAL STROKE,5cOVER RIGHTWARDS TRIANGLE-HEADED ARROW,3bPAIRED ARROWS",
    "3aBLACK CIRCLED WHITE ARROW,27aTRIANGLE-HEADED ARROW WITH LONG TIP UPWARDS,1fDOWNWARDS",
    "69aTWO-HEADED ARROW WITH TRIANGLE ARROWHEADS,117375aROCKET",
    "403aARROW WITH SMALL TRIANGLE ARROWHEAD,3cMEDIUM TRIANGLE ARROWHEAD",
    "3cLARGE TRIANGLE ARROWHEAD,7cSMALL EQUILATERAL ARROWHEAD,3cEQUILATERAL ARROWHEAD",
    "11aTRIANGLE-HEADED ARROW WITH NARROW SHAFT,3dMEDIUM SHAFT,3dBOLD SHAFT,3dHEAVY SHAFT",
    "3dVERY HEAVY SHAFT,3aFINGER-POST ARROW,3aSQUARED ARROW,3aCOMPRESSED ARROW",
    "3aHEAVY COMPRESSED ARROW,3bARROW,11aSANS-SERIF ARROW,63aTRIANGLE ARROWHEAD",
    "3aWHITE ARROW WITHIN TRIANGLE ARROWHEAD,3aARROW WITH NOTCHED TAIL",
    "7aBOTTOM-SHADED WHITE ARROW,1aTOP SHADED WHITE ARROW,1aLEFT-SHADED WHITE ARROW",
    "1aRIGHT-SHADED WHITE ARROW,1aBACK-TILTED SHADOWED WHITE ARROW",
    "1aFRONT-TILTED SHADOWED WHITE ARROW,583aHAND",
    "194aARROW AND UPPER AND LOWER ONE EIGHTH BLOCK"]⟩,
  ⟨"LEPCHA", [
    "7168aLETTER KA,bKLA,bKHA,bGA,bGLA,bNGA,bCA,bCHA,bJA,bNYA,bTA,bTHA,bDA,bNA,bPA,bPLA,bPHA",
    "bFA,bFLA,bBA,bBLA,bMA,bMLA,bTSA,bTSHA,bDZA,bYA,bRA,bLA,bHA,bHLA,bVA,bSA,bSHA,bWA,bA",
    "aSUBJOINED LETTER YA,cRA,aVOWEL SIGN AA,cI,cO,cOO,cU,cUU,cE,aCONSONANT SIGN K,cM,cL,cN,cP",
    "cR,cT,cNYIN-DO,cKANG,aSIGN RAN,bNUKTA,3aPUNCTUATION TA-ROL,bNYET THYOOM TA-ROL,bCER-WA",
    "bTSHOOK CER-WA,c,aDIGIT ZERO,bONE,bTWO,bTHREE,bFOUR,bFIVE,bSIX,bSEVEN,bEIGHT,bNINE",
    "3aLETTER TTA,bTTHA,bDDA"]⟩,
  ⟨"LESS-THAN", [
    "60aSIGN,8743aOR EQUAL TO,1aOVER EQUAL TO,1aBUT NOT EQUAL TO,9aOR EQUIVALENT TO",
    "3bGREATER-THAN,95aWITH DOT,3aEQUAL TO OR GREATER-THAN,11aBUT NOT EQUIVALENT TO",
    "1679aABOVE LEFTWARDS ARROW,258aWITH CIRCLE INSIDE,1bQUESTION MARK ABOVE",
    "1aOR SLANTED EQUAL TO,1eWITH DOT INSIDE,1gABOVE,1hRIGHT,1bAPPROXIMATE",
    "1aAND SINGLE-LINE NOT EQUAL TO,1bNOT APPROXIMATE",
    "1aABOVE DOUBLE-LINE EQUAL ABOVE GREATER-THAN,1bSIMILAR OR EQUAL,1cABOVE GREATER-THAN",
    "1bGREATER-THAN ABOVE DOUBLE-LINE EQUAL",
    "1bSLANTED EQUAL ABOVE GREATER-THAN ABOVE SLANTED EQUAL,18aCLOSED BY CURVE",
    "1dABOVE SLANTED EQUAL"]⟩,
  ⟨"LIGHT", [
    "9617aSHADE,454aVERTICAL BAR,25aLEFT TORTOISE SHELL BRACKET ORNAMENT",
    "aRIGHT TORTOISE SHELL BRACKET ORNAMENT,1112aFOUR POINTED BLACK CUSP,117291aCHECK MARK",
    "143aRAIL,261aWHITE SQUARE,19aGREEK CROSS,6aSALTIRE,5aFIVE SPOKED ASTERISK",
    "5aSIX SPOKED ASTERISK,5aEIGHT SPOKED ASTERISK,4aTHREE POINTED BLACK STAR",
    "3aFOUR POINTED BLACK STAR,4aFIVE POINTED BLACK STAR,8aTWELVE POINTED BLACK STAR"]⟩,
  ⟨"LIGHTNING", ["9735a,118761aMOOD BUBBLE,b"]⟩,
  ⟨"LIMBU", [
    "6400aVOWEL-CARRIER LETTER,aLETTER KA,bKHA,bGA,bGHA,bNGA,bCA,bCHA,bJA,bJHA,bYAN,bTA,bTHA",
    "bDA,bDHA,bNA,bPA,bPHA,bBA,bBHA,bMA,bYA,bRA,bLA,bWA,bSHA,bSSA,bSA,bHA,bGYAN,bTRA",
    "1aVOWEL SIGN A,cI,cU,cEE,cAI,cOO,cAU,cE,cO,aSUBJOINED LETTER YA,cRA,cWA,4aSMALL LETTER KA",
    "cNGA,cANUSVARA,cTA,cNA,cPA,cMA,cRA,cLA,aSIGN MUKPHRENG,bKEMPHRENG,bSA-I,4bLOO",
    "3aEXCLAMATION MARK,aQUESTION MARK,aDIGIT ZERO,bONE,bTWO,bTHREE,bFOUR,bFIVE,bSIX,bSEVEN",
    "bEIGHT,bNINE"]⟩,
  ⟨"LINE", [
    "8232aSEPARATOR,2537aINTEGRATION WITH RECTANGULAR PATH AROUND POLE",
    "cSEMICIRCULAR PATH AROUND POLE,bNOT INCLUDING THE POLE"]⟩,
  ⟨"LINEAR", [
    "65536aB SYLLABLE B008 A,cB038 E,cB028 I,cB061 O,cB010 U,cB001 DA,cB045 DE,cB007 DI",
    "cB014 DO,cB051 DU,cB057 JA,cB046 JE,1cB036 JO,cB065 JU,cB077 KA,cB044 KE,cB067 KI",
    "cB070 KO,cB081 KU,cB080 MA,cB013 ME,cB073 MI,cB015 MO,cB023 MU,cB006 NA,cB024 NE,cB030 NI",
    "cB052 NO,cB055 NU,cB003 PA,cB072 PE,cB039 PI,cB011 PO,cB050 PU,cB016 QA,cB078 QE,cB021 QI",
    "cB032 QO,1cB060 RA,cB027 RE,cB053 RI,cB002 RO,cB026 RU,cB031 SA,cB009 SE,cB041 SI",
    "cB012 SO,cB058 SU,cB059 TA,cB004 TE,cB037 TI,cB005 TO,cB069 TU,cB054 WA,cB075 WE,cB040 WI",
    "cB042 WO,1cB017 ZA,cB074 ZE,1cB020 ZO,cB025 A2,cB043 A3,cB085 AU,cB071 DWE,cB090 DWO",
    "cB048 NWA,cB029 PU2,cB062 PTE,cB076 RA2,cB033 RA3,cB068 RO2,cB066 TA2,cB087 TWE,cB091 TWO",
    "2bSYMBOL B018,cB019,cB022,cB034,cB047,cB049,cB056,cB063,cB064,cB079,cB082,cB083,cB086",
    "cB089,34bIDEOGRAM B100 MAN,cB102 WOMAN,cB104 DEER,cB105 EQUID,cB105F MARE,cB105M STALLION",
    "cB106F EWE,cB106M RAM,cB107F SHE-GOAT,cB107M HE-GOAT,cB108F SOW,cB108M BOAR,cB109F COW",
    "cB109M BULL,cB120 WHEAT,cB121 BARLEY,cB122 OLIVE,cB123 SPICE,cB125 CYPERUS",
    "bMONOGRAM B127 KAPO,cB128 KANAKO,bIDEOGRAM B130 OIL,cB131 WINE,cB132,bMONOGRAM B133 AREPA",
    "cB135 MERI,bIDEOGRAM B140 BRONZE,cB141 GOLD,cB142,cB145 WOOL,cB146,cB150,cB151 HORN,cB152",
    "cB153,cB154,bMONOGRAM B156 TURO2,bIDEOGRAM B157,cB158,cB159 CLOTH,cB160,cB161",
    "cB162 GARMENT,cB163 ARMOUR,cB164,cB165,cB166,cB167,cB168,cB169,cB170,cB171,cB172",
    "cB173 MONTH,cB174,cB176 TREE,cB177,cB178,cB179,cB180,cB181,cB182,cB183,cB184,cB185,cB189",
    "cB190,cB191 HELMET,cB220 FOOTSTOOL,cB225 BATHTUB,cB230 SPEAR,cB231 ARROW,cB232",
    "cB233 SWORD,cB234,cB236,cB240 WHEELED CHARIOT,cB241 CHARIOT,cB242 CHARIOT FRAME",
    "cB243 WHEEL,cB245,cB246,bMONOGRAM B247 DIPTE,bIDEOGRAM B248,cB249,cB251,cB252,cB253",
    "cB254 DART,cB255,cB256,cB257,cB258,cB259,cVESSEL B155,dB200,dB201,dB202,dB203,dB204,dB205",
    "dB206,dB207,dB208,dB209,dB210,dB211,dB212,dB213,dB214,dB215,dB216,dB217,dB218,dB219,dB221",
    "dB222,dB226,dB227,dB228,dB229,dB250,dB305,1285aA SIGN AB001,cAB002,cAB003,cAB004,cAB005",
    "cAB006,cAB007,cAB008,cAB009,cAB010,cAB011,cAB013,cAB016,cAB017,cAB020,cAB021,cAB021F",
    "cAB021M,cAB022,cAB022F,cAB022M,cAB023,cAB023M,cAB024,cAB026,cAB027,cAB028,cA028B,cAB029",
    "cAB030,cAB031,cAB034,cAB037,cAB038,cAB039,cAB040,cAB041,cAB044,cAB045,cAB046,cAB047",
    "cAB048,cAB049,cAB050,cAB051,cAB053,cAB054,cAB055,cAB056,cAB057,cAB058,cAB059,cAB060",
    "cAB061,cAB065,cAB066,cAB067,cAB069,cAB070,cAB073,cAB074,cAB076,cAB077,cAB078,cAB079",
    "cAB080,cAB081,cAB082,cAB085,cAB086,cAB087,cA100-102,cAB118,cAB120,cA120B,cAB122,cAB123",
    "cAB131A,cAB131B,cA131C,cAB164,cAB171,cAB180,cAB188,cAB191,cA301,cA302,cA303,cA304,cA305",
    "cA306,cA307,cA308,cA309A,cA309B,cA309C,cA310,cA311,cA312,cA313A,cA313B,cA313C,cA314,cA315",
    "cA316,cA317,cA318,cA319,cA320,cA321,cA322,cA323,cA324,cA325,cA326,cA327,cA328,cA329,cA330",
    "cA331,cA332,cA333,cA334,cA335,cA336,cA337,cA338,cA339,cA340,cA341,cA342,cA343,cA344,cA345",
    "cA346,cA347,cA348,cA349,cA350,cA351,cA352,cA353,cA354,cA355,cA356,cA357,cA358,cA359,cA360",
    "cA361,cA362,cA363,cA364,cA365,cA366,cA367,cA368,cA369,cA370,cA371,cA400-VAS,cA401-VAS",
    "cA402-VAS,cA403-VAS,cA404-VAS,cA405-VAS,cA406-VAS,cA407-VAS,cA408-VAS,cA409-VAS,cA410-VAS",
    "cA411-VAS,cA412-VAS,cA413-VAS,cA414-VAS,cA415-VAS,cA416-VAS,cA417-VAS,cA418-VAS,cA501",
    "cA502,cA503,cA504,cA505,cA506,cA508,cA509,cA510,cA511,cA512,cA513,cA515,cA516,cA520,cA521",
    "cA523,cA524,cA525,cA526,cA527,cA528,cA529,cA530,cA531,cA532,cA534,cA535,cA536,cA537,cA538",
    "cA539,cA540,cA541,cA542,cA545,cA547,cA548,cA549,cA550,cA551,cA552,cA553,cA554,cA555,cA556",
    "cA557,cA559,cA563,cA564,cA565,cA566,cA568,cA569,cA570,cA571,cA572,cA573,cA574,cA575,cA576",
    "cA577,cA578,cA579,cA580,cA581,cA582,cA583,cA584,cA585,cA586,cA587,cA588,cA589,cA591,cA592",
    "cA594,cA595,cA596,cA598,cA600,cA601,cA602,cA603,cA604,cA606,cA608,cA609,cA610,cA611,cA612",
    "cA613,cA614,cA615,cA616,cA617,cA618,cA619,cA620,cA621,cA622,cA623,cA624,cA626,cA627,cA628",
    "cA629,cA634,cA637,cA638,cA640,cA642,cA643,cA644,cA645,cA646,cA648,cA649,cA651,cA652,cA653",
    "cA654,cA655,cA656,cA657,cA658,cA659,cA660,cA661,cA662,cA663,cA664,9cA701 A,cA702 B",
    "cA703 D,cA704 E,cA705 F,cA706 H,cA707 J,cA708 K,cA709 L,cA709-2 L2,cA709-3 L3,cA709-4 L4",
    "cA709-6 L6,cA710 W,cA711 X,cA712 Y,cA713 OMEGA,cA714 ABB,cA715 BB,cA717 DD,cA726 EYYY",
    "cA732 JE,10cA800,cA801,cA802,cA803,cA804,cA805,cA806,cA807"]⟩,
  ⟨"LISU", [
    "42192aLETTER BA,bPA,bPHA,bDA,bTA,bTHA,bGA,bKA,bKHA,bJA,bCA,bCHA,bDZA,bTSA,bTSHA,bMA,bNA",
    "bLA,bSA,bZHA,bZA,bNGA,bHA,bXA,bHHA,bFA,bWA,bSHA,bYA,bGHA,bA,bAE,bE,bEU,bI,bO,bU,bUE,bUH",
    "bOE,bTONE MYA TI,cNA PO,cMYA CYA,dBO,dNA,dJEU,aPUNCTUATION COMMA,bFULL STOP",
    "31408aLETTER YHA"]⟩,
  ⟨"LOGICAL", [
    "8743aAND,aOR,2088aAND WITH DOT ABOVE,aOR WITH DOT ABOVE,6bOVERLAPPING LOGICAL AND",
    "aAND WITH MIDDLE STEM,aOR WITH MIDDLE STEM,aAND WITH HORIZONTAL DASH",
    "aOR WITH HORIZONTAL DASH,aAND WITH DOUBLE OVERBAR,cUNDERBAR,cDOUBLE UNDERBAR",
    "1aOR WITH DOUBLE OVERBAR,dUNDERBAR"]⟩,
  ⟨"LONG", [
    "10188aDIVISION,16aRIGHT TACK,aLEFT TACK,22aLEFTWARDS ARROW,aRIGHTWARDS ARROW",
    "aLEFT RIGHT ARROW,aLEFTWARDS DOUBLE ARROW,aRIGHTWARDS DOUBLE ARROW",
    "aLEFT RIGHT DOUBLE ARROW,aLEFTWARDS ARROW FROM BAR,aRIGHTWARDS ARROW FROM BAR",
    "aLEFTWARDS DOUBLE ARROW FROM BAR,aRIGHTWARDS DOUBLE ARROW FROM BAR,bSQUIGGLE ARROW",
    "742aDASH FROM LEFT MEMBER OF DOUBLE VERTICAL,76aLEFTWARDS SQUIGGLE ARROW,118628aDRUM"]⟩,
  ⟨"LOW", [
    "95aLINE,8174aASTERISK,3576aKAVYKA,bWITH DOT,470aDOUBLE PRIME QUOTATION MARK",
    "115941aBRIGHTNESS SYMBOL,1445aBATTERY"]⟩,
  ⟨"LOWER", [
    "9601aONE EIGHTH BLOCK,bQUARTER BLOCK,aTHREE EIGHTHS BLOCK,aHALF BLOCK,aFIVE EIGHTHS BLOCK",
    "aTHREE QUARTERS BLOCK,aSEVEN EIGHTHS BLOCK,83aHALF INVERSE WHITE CIRCLE",
    "2aRIGHT QUADRANT CIRCULAR ARC,aLEFT QUADRANT CIRCULAR ARC,1aHALF CIRCLE,24aLEFT TRIANGLE",
    "4aRIGHT TRIANGLE,259aBLADE SCISSORS,10aRIGHT PENCIL,64bDROP-SHADOWED WHITE SQUARE",
    "1bSHADOWED WHITE SQUARE,129bCORNER WITH DOT,362bSEMICIRCULAR CLOCKWISE ARROW",
    "aLEFT SEMICIRCULAR ANTICLOCKWISE ARROW,117758aRIGHT SHADOWED WHITE CIRCLE,74aLEFT PENCIL",
    "bBALLPOINT PEN,bFOUNTAIN PEN,bPAINTBRUSH,bCRAYON",
    "1454bBLOCK DIAGONAL LOWER MIDDLE LEFT TO LOWER CENTRE,iRIGHT",
    "dUPPER MIDDLE LEFT TO LOWER CENTRE,iRIGHT,eLEFT TO LOWER CENTRE",
    "aRIGHT BLOCK DIAGONAL UPPER MIDDLE LEFT TO UPPER CENTRE,iRIGHT",
    "dLOWER MIDDLE LEFT TO UPPER CENTRE,iRIGHT,eLEFT TO UPPER CENTRE",
    "eMIDDLE LEFT TO UPPER MIDDLE RIGHT,eCENTRE TO LOWER MIDDLE RIGHT",
    "eLEFT TO LOWER MIDDLE RIGHT,eCENTRE TO UPPER MIDDLE RIGHT,eLEFT TO UPPER MIDDLE RIGHT",
    "eCENTRE TO UPPER RIGHT,aLEFT BLOCK DIAGONAL UPPER CENTRE TO UPPER MIDDLE RIGHT",
    "eLEFT TO UPPER MIDDLE RIGHT,eCENTRE TO LOWER MIDDLE RIGHT,eLEFT TO LOWER MIDDLE RIGHT",
    "eCENTRE TO LOWER RIGHT,eMIDDLE LEFT TO LOWER MIDDLE RIGHT,29aTRIANGULAR ONE QUARTER BLOCK",
    "31aHALF MEDIUM SHADE,14aRIGHT TRIANGULAR MEDIUM SHADE,aLEFT TRIANGULAR MEDIUM SHADE"]⟩,
  ⟨"LYCIAN", [
    "66176aLETTER A,bE,bB,bBH,bG,bD,bI,bW,bZ,bTH,bJ,bK,bQ,bL,bM,bN,bMM,bNN,bU,bP,bKK,bR,bS,bT",
    "bTT,bAN,bEN,bH,bX"]⟩,
  ⟨"LYDIAN", [
    "67872aLETTER A,bB,bG,bD,bE,bV,bI,bY,bK,bL,bM,bN,bO,bR,bSS,bT,bU,bF,bQ,bS,bTT,bAN,bEN,bLY",
    "bNN,bC,5aTRIANGULAR MARK"]⟩]

end Phrasebook.CharName
