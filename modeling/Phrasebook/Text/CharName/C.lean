import Phrasebook.Text.CharName.Group

/-!
Names of characters that begin with C, by the tables of Unicode 14.
-/

namespace Phrasebook.CharName

/-- The names that begin with C. -/
def namesC : List NameGroup := [
  ⟨"CANADIAN", [
    "5120aSYLLABICS HYPHEN,bE,bAAI,bI,bII,bO,bOO,bY-CREE OO,bCARRIER EE,cI,bA,bAA,bWE",
    "bWEST-CREE WE,bWI,bWEST-CREE WI,bWII,bWEST-CREE WII,bWO,bWEST-CREE WO,bWOO,bWEST-CREE WOO",
    "bNASKAPI WOO,bWA,bWEST-CREE WA,bWAA,bWEST-CREE WAA,bNASKAPI WAA,bAI,bY-CREE W",
    "bGLOTTAL STOP,bFINAL ACUTE,cGRAVE,cBOTTOM HALF RING,cTOP HALF RING,cRIGHT HALF RING,cRING",
    "cDOUBLE ACUTE,dSHORT VERTICAL STROKES,cMIDDLE DOT,cSHORT HORIZONTAL STROKE,cPLUS",
    "cDOWN TACK,bEN,bIN,bON,bAN,bPE,bPAAI,bPI,bPII,bPO,bPOO,bY-CREE POO,bCARRIER HEE,cHI,bPA",
    "bPAA,bPWE,bWEST-CREE PWE,bPWI,bWEST-CREE PWI,bPWII,bWEST-CREE PWII,bPWO,bWEST-CREE PWO",
    "bPWOO,bWEST-CREE PWOO,bPWA,bWEST-CREE PWA,bPWAA,bWEST-CREE PWAA,bY-CREE PWAA,bP",
    "bWEST-CREE P,bCARRIER H,bTE,bTAAI,bTI,bTII,bTO,bTOO,bY-CREE TOO,bCARRIER DEE,cDI,bTA,bTAA",
    "bTWE,bWEST-CREE TWE,bTWI,bWEST-CREE TWI,bTWII,bWEST-CREE TWII,bTWO,bWEST-CREE TWO,bTWOO",
    "bWEST-CREE TWOO,bTWA,bWEST-CREE TWA,bTWAA,bWEST-CREE TWAA,bNASKAPI TWAA,bT,bTTE,bTTI,bTTO",
    "bTTA,bKE,bKAAI,bKI,bKII,bKO,bKOO,bY-CREE KOO,bKA,bKAA,bKWE,bWEST-CREE KWE,bKWI",
    "bWEST-CREE KWI,bKWII,bWEST-CREE KWII,bKWO,bWEST-CREE KWO,bKWOO,bWEST-CREE KWOO,bKWA",
    "bWEST-CREE KWA,bKWAA,bWEST-CREE KWAA,bNASKAPI KWAA,bK,bKW,bSOUTH-SLAVEY KEH,cKIH,cKOH",
    "cKAH,bCE,bCAAI,bCI,bCII,bCO,bCOO,bY-CREE COO,bCA,bCAA,bCWE,bWEST-CREE CWE,bCWI",
    "bWEST-CREE CWI,bCWII,bWEST-CREE CWII,bCWO,bWEST-CREE CWO,bCWOO,bWEST-CREE CWOO,bCWA",
    "bWEST-CREE CWA,bCWAA,bWEST-CREE CWAA,bNASKAPI CWAA,bC,bSAYISI TH,bME,bMAAI,bMI,bMII,bMO",
    "bMOO,bY-CREE MOO,bMA,bMAA,bMWE,bWEST-CREE MWE,bMWI,bWEST-CREE MWI,bMWII,bWEST-CREE MWII",
    "bMWO,bWEST-CREE MWO,bMWOO,bWEST-CREE MWOO,bMWA,bWEST-CREE MWA,bMWAA,bWEST-CREE MWAA",
    "bNASKAPI MWAA,bM,bWEST-CREE M,bMH,bATHAPASCAN M,bSAYISI M,bNE,bNAAI,bNI,bNII,bNO,bNOO",
    "bY-CREE NOO,bNA,bNAA,bNWE,bWEST-CREE NWE,bNWA,bWEST-CREE NWA,bNWAA,bWEST-CREE NWAA",
    "bNASKAPI NWAA,bN,bCARRIER NG,bNH,bLE,bLAAI,bLI,bLII,bLO,bLOO,bY-CREE LOO,bLA,bLAA,bLWE",
    "bWEST-CREE LWE,bLWI,bWEST-CREE LWI,bLWII,bWEST-CREE LWII,bLWO,bWEST-CREE LWO,bLWOO",
    "bWEST-CREE LWOO,bLWA,bWEST-CREE LWA,bLWAA,bWEST-CREE LWAA,bL,bWEST-CREE L,bMEDIAL L,bSE",
    "bSAAI,bSI,bSII,bSO,bSOO,bY-CREE SOO,bSA,bSAA,bSWE,bWEST-CREE SWE,bSWI,bWEST-CREE SWI",
    "bSWII,bWEST-CREE SWII,bSWO,bWEST-CREE SWO,bSWOO,bWEST-CREE SWOO,bSWA,bWEST-CREE SWA,bSWAA",
    "bWEST-CREE SWAA,bNASKAPI SWAA,bS,bATHAPASCAN S,bSW,bBLACKFOOT S,bMOOSE-CREE SK",
    "bNASKAPI SKW,cS-W,cSPWA,cSTWA,cSKWA,cSCWA,bSHE,bSHI,bSHII,bSHO,bSHOO,bSHA,bSHAA,bSHWE",
    "bWEST-CREE SHWE,bSHWI,bWEST-CREE SHWI,bSHWII,bWEST-CREE SHWII,bSHWO,bWEST-CREE SHWO",
    "bSHWOO,bWEST-CREE SHWOO,bSHWA,bWEST-CREE SHWA,bSHWAA,bWEST-CREE SHWAA,bSH,bYE,bYAAI,bYI",
    "bYII,bYO,bYOO,bY-CREE YOO,bYA,bYAA,bYWE,bWEST-CREE YWE,bYWI,bWEST-CREE YWI,bYWII",
    "bWEST-CREE YWII,bYWO,bWEST-CREE YWO,bYWOO,bWEST-CREE YWOO,bYWA,bWEST-CREE YWA,bYWAA",
    "bWEST-CREE YWAA,bNASKAPI YWAA,bY,bBIBLE-CREE Y,bWEST-CREE Y,bSAYISI YI,bRE,bR-CREE RE",
    "bWEST-CREE LE,bRAAI,bRI,bRII,bRO,bROO,bWEST-CREE LO,bRA,bRAA,bWEST-CREE LA,bRWAA",
    "bWEST-CREE RWAA,bR,bWEST-CREE R,bMEDIAL R,bFE,bFAAI,bFI,bFII,bFO,bFOO,bFA,bFAA,bFWAA",
    "bWEST-CREE FWAA,bF,bTHE,bN-CREE THE,bTHI,bN-CREE THI,bTHII,bN-CREE THII,bTHO,bTHOO,bTHA",
    "bTHAA,bTHWAA,bWEST-CREE THWAA,bTH,bTTHE,bTTHI,bTTHO,bTTHA,bTTH,bTYE,bTYI,bTYO,bTYA",
    "bNUNAVIK HE,cHI,cHII,cHO,cHOO,cHA,cHAA,cH,bNUNAVUT H,bHK,bQAAI,bQI,bQII,bQO,bQOO,bQA,bQAA",
    "bQ,bTLHE,bTLHI,bTLHO,bTLHA,bWEST-CREE RE,cRI,cRO,cRA,bNGAAI,bNGI,bNGII,bNGO,bNGOO,bNGA",
    "bNGAA,bNG,bNNG,bSAYISI SHE,cSHI,cSHO,cSHA,bWOODS-CREE THE,cTHI,cTHO,cTHA,cTH,bLHI,bLHII",
    "bLHO,bLHOO,bLHA,bLHAA,bLH,bTH-CREE THE,cTHI,cTHII,cTHO,cTHOO,cTHA,cTHAA,cTH,bAIVILIK B",
    "bBLACKFOOT E,cI,cO,cA,cWE,cWI,cWO,cWA,cNE,cNI,cNO,cNA,cKE,cKI,cKO,cKA,bSAYISI HE,cHI,cHO",
    "cHA,bCARRIER GHU,cGHO,cGHE,cGHEE,cGHI,cGHA,cRU,cRO,cRE,cREE,cRI,cRA,cWU,cWO,cWE,cWEE,cWI",
    "cWA,cHWU,cHWO,cHWE,cHWEE,cHWI,cHWA,cTHU,cTHO,cTHE,cTHEE,cTHI,cTHA,cTTU,cTTO,cTTE,cTTEE",
    "cTTI,cTTA,cPU,cPO,cPE,cPEE,cPI,cPA,cP,cGU,cGO,cGE,cGEE,cGI,cGA,cKHU,cKHO,cKHE,cKHEE,cKHI",
    "cKHA,cKKU,cKKO,cKKE,cKKEE,cKKI,cKKA,cKK,cNU,cNO,cNE,cNEE,cNI,cNA,cMU,cMO,cME,cMEE,cMI,cMA",
    "cYU,cYO,cYE,cYEE,cYI,cYA,cJU,bSAYISI JU,bCARRIER JO,cJE,cJEE,cJI,bSAYISI JI,bCARRIER JA",
    "cJJU,cJJO,cJJE,cJJEE,cJJI,cJJA,cLU,cLO,cLE,cLEE,cLI,cLA,cDLU,cDLO,cDLE,cDLEE,cDLI,cDLA",
    "cLHU,cLHO,cLHE,cLHEE,cLHI,cLHA,cTLHU,cTLHO,cTLHE,cTLHEE,cTLHI,cTLHA,cTLU,cTLO,cTLE,cTLEE",
    "cTLI,cTLA,cZU,cZO,cZE,cZEE,cZI,cZA,cZ,cINITIAL Z,cDZU,cDZO,cDZE,cDZEE,cDZI,cDZA,cSU,cSO",
    "cSE,cSEE,cSI,cSA,cSHU,cSHO,cSHE,cSHEE,cSHI,cSHA,cSH,cTSU,cTSO,cTSE,cTSEE,cTSI,cTSA,cCHU",
    "cCHO,cCHE,cCHEE,cCHI,cCHA,cTTSU,cTTSO,cTTSE,cTTSEE,cTTSI,cTTSA,bCHI SIGN,bFULL STOP,bQAI",
    "bNGAI,bNNGI,bNNGII,bNNGO,bNNGOO,bNNGA,bNNGAA,bWOODS-CREE THWEE,cTHWI,cTHWII,cTHWO,cTHWOO",
    "cTHWA,cTHWAA,cFINAL TH,bBLACKFOOT W,560bOY,bAY,bAAY,bWAY,bPOY,bPAY,bPWOY,bTAY,bKAY,bKWAY",
    "bMAY,bNOY,bNAY,bLAY,bSOY,bSAY,bSHOY,bSHAY,bSHWOY,bYOY,bYAY,bRAY,bNWI,bOJIBWAY NWI,bNWII",
    "bOJIBWAY NWII,bNWO,bOJIBWAY NWO,bNWOO,bOJIBWAY NWOO,bRWEE,bRWI,bRWII,bRWO,bRWOO,bRWA",
    "bOJIBWAY P,cT,cK,cC,cM,cN,cS,cSH,bEASTERN W,bWESTERN W,bFINAL SMALL RING,cRAISED DOT",
    "bR-CREE RWE,bWEST-CREE LOO,cLAA,bTHWE,bTHWA,bTTHWE,bTTHOO,bTTHAA,bTLHWE,bTLHOO",
    "bSAYISI SHWE,cSHOO,cHOO,bCARRIER GWU,cDENE GEE,cGAA,cGWA,bSAYISI JUU,bCARRIER JWA",
    "bBEAVER DENE L,dR,bCARRIER DENTAL S,65978bNATTILIK HI,cHII,cHO,cHOO,cHA,cHAA,cSHRI,cSHRII",
    "cSHRO,cSHROO,cSHRA,cSHRAA,bSPE,bSPI,bSPO,bSPA"]⟩,
  ⟨"CARD", ["128199aINDEX,250bDIVIDERS,aFILE BOX"]⟩,
  ⟨"CARIAN", [
    "66208aLETTER A,bP2,bD,bL,bUUU,bR,bLD,bA2,bQ,bB,bM,bO,bD2,bT,bSH,bSH2,bS,bC-18,bU,bNN,bX",
    "bN,bTT2,bP,bSS,bI,bE,bUUUU,bK,bK2,bND,bUU,bG,bG2,bST,bST2,bNG,bII,bC-39,bTT,bUUU2,bRR,bMB",
    "bMB2,bMB3,bMB4,bLD2,bE2,bUUU3"]⟩,
  ⟨"CAT", ["128008a,40aFACE,519bWITH TEARS OF JOY,2cWRY SMILE"]⟩,
  ⟨"CAUCASIAN", [
    "66864aALBANIAN LETTER ALT,cBET,cGIM,cDAT,cEB,cZARL,cEYN,cZHIL,cTAS,cCHA,cYOWD,cZHA,cIRB",
    "cSHA,cLAN,cINYA,cXEYN,cDYAN,cCAR,cJHOX,cKAR,cLYIT,cHEYT,cQAY,cAOR,cCHOY,cCHI,cCYAY,cMAQ",
    "cQAR,cNOWC,cDZYAY,cSHAK,cJAYN,cON,cTYAY,cFAM,cDZAY,cCHAT,cPEN,cGHEYS,cRAT,cSEYK,cVEYZ",
    "cTIWR,cSHOY,cIWN,cCYAW,cCAYN,cYAYD,cPIWR,cKIW,11bCITATION MARK"]⟩,
  ⟨"CHAKMA", [
    "69888aSIGN CANDRABINDU,bANUSVARA,bVISARGA,aLETTER AA,bI,bU,bE,bKAA,bKHAA,bGAA,bGHAA,bNGAA",
    "bCAA,bCHAA,bJAA,bJHAA,bNYAA,bTTAA,bTTHAA,bDDAA,bDDHAA,bNNAA,bTAA,bTHAA,bDAA,bDHAA,bNAA",
    "bPAA,bPHAA,bBAA,bBHAA,bMAA,bYYAA,bYAA,bRAA,bLAA,bWAA,bSAA,bHAA,aVOWEL SIGN A,cI,cII,cU",
    "cUU,cE,cAI,cO,cAU,cOI,aO MARK,aAU MARK,aVIRAMA,aMAAYYAA,1aDIGIT ZERO,bONE,bTWO,bTHREE",
    "bFOUR,bFIVE,bSIX,bSEVEN,bEIGHT,bNINE,aSECTION MARK,aDANDA,aDOUBLE DANDA,aQUESTION MARK",
    "aLETTER LHAA,aVOWEL SIGN AA,cEI,aLETTER VAA"]⟩,
  ⟨"CHAM", [
    "43520aLETTER A,bI,bU,bE,bAI,bO,bKA,bKHA,bGA,bGHA,bNGUE,bNGA,bCHA,bCHHA,bJA,bJHA,bNHUE",
    "bNHA,bNHJA,bTA,bTHA,bDA,bDHA,bNUE,bNA,bDDA,bPA,bPPA,bPHA,bBA,bBHA,bMUE,bMA,bBBA,bYA,bRA",
    "bLA,bVA,bSSA,bSA,bHA,aVOWEL SIGN AA,cI,cII,cEI,cU,cOE,cO,cAI,cAU,cUE,aCONSONANT SIGN YA",
    "cRA,cLA,cWA,9aLETTER FINAL K,cG,cNG,aCONSONANT SIGN FINAL NG,aLETTER FINAL CH,cT,cN,cP,cY",
    "cR,cL,cSS,aCONSONANT SIGN FINAL M,dH,2aDIGIT ZERO,bONE,bTWO,bTHREE,bFOUR,bFIVE,bSIX",
    "bSEVEN,bEIGHT,bNINE,2aPUNCTUATION SPIRAL,bDANDA,bDOUBLE DANDA,bTRIPLE DANDA"]⟩,
  ⟨"CHART", ["128185aWITH UPWARDS TREND AND YEN SIGN,14d,bDOWNWARDS TREND"]⟩,
  ⟨"CHEROKEE", [
    "5024aLETTER A,bE,bI,bO,bU,bV,bGA,bKA,bGE,bGI,bGO,bGU,bGV,bHA,bHE,bHI,bHO,bHU,bHV,bLA,bLE",
    "bLI,bLO,bLU,bLV,bMA,bME,bMI,bMO,bMU,bNA,bHNA,bNAH,bNE,bNI,bNO,bNU,bNV,bQUA,bQUE,bQUI,bQUO",
    "bQUU,bQUV,bSA,bS,bSE,bSI,bSO,bSU,bSV,bDA,bTA,bDE,bTE,bDI,bTI,bDO,bDU,bDV,bDLA,bTLA,bTLE",
    "bTLI,bTLO,bTLU,bTLV,bTSA,bTSE,bTSI,bTSO,bTSU,bTSV,bWA,bWE,bWI,bWO,bWU,bWV,bYA,bYE,bYI,bYO",
    "bYU,bYV,bMV,2aSMALL LETTER YE,cYI,cYO,cYU,cYV,cMV,38770cA,cE,cI,cO,cU,cV,cGA,cKA,cGE,cGI",
    "cGO,cGU,cGV,cHA,cHE,cHI,cHO,cHU,cHV,cLA,cLE,cLI,cLO,cLU,cLV,cMA,cME,cMI,cMO,cMU,cNA,cHNA",
    "cNAH,cNE,cNI,cNO,cNU,cNV,cQUA,cQUE,cQUI,cQUO,cQUU,cQUV,cSA,cS,cSE,cSI,cSO,cSU,cSV,cDA,cTA",
    "cDE,cTE,cDI,cTI,cDO,cDU,cDV,cDLA,cTLA,cTLE,cTLI,cTLO,cTLU,cTLV,cTSA,cTSE,cTSI,cTSO,cTSU",
    "cTSV,cWA,cWE,cWI,cWO,cWU,cWV,cYA"]⟩,
  ⟨"CHORASMIAN", [
    "69552aLETTER ALEPH,bSMALL ALEPH,bBETH,bGIMEL,bDALETH,bHE,bWAW,bCURLED WAW,bZAYIN,bHETH",
    "bYODH,bKAPH,bLAMEDH,bMEM,bNUN,bSAMEKH,bAYIN,bPE,bRESH,bSHIN,bTAW,aNUMBER ONE,bTWO,bTHREE",
    "bFOUR,bTEN,bTWENTY,bONE HUNDRED"]⟩,
  ⟨"CIRCLE", [
    "9677aWITH VERTICAL FILL,2bLEFT HALF BLACK,bRIGHT HALF BLACK,bLOWER HALF BLACK",
    "bUPPER HALF BLACK,cRIGHT QUADRANT BLACK,bALL BUT UPPER LEFT QUADRANT BLACK",
    "991bHORIZONTAL BAR,4aDIVIDED BY HORIZONTAL BAR AND TOP HALF DIVIDED BY VERTICAL BAR",
    "aWITH SUPERIMPOSED X,6bSMALL CIRCLE TO THE RIGHT,bTWO HORIZONTAL STROKES TO THE RIGHT"]⟩,
  ⟨"CIRCLED", [
    "8853aPLUS,aMINUS,aTIMES,aDIVISION SLASH,aDOT OPERATOR,aRING OPERATOR,aASTERISK OPERATOR",
    "aEQUALS,aDASH,235aHORIZONTAL BAR WITH NOTCH,aTRIANGLE DOWN,213aDIGIT ONE,bTWO,bTHREE",
    "bFOUR,bFIVE,bSIX,bSEVEN,bEIGHT,bNINE,aNUMBER TEN,bELEVEN,bTWELVE,bTHIRTEEN,bFOURTEEN",
    "bFIFTEEN,bSIXTEEN,bSEVENTEEN,bEIGHTEEN,bNINETEEN,bTWENTY,66aLATIN CAPITAL LETTER A,dB,dC",
    "dD,dE,dF,dG,dH,dI,dJ,dK,dL,dM,dN,dO,dP,dQ,dR,dS,dT,dU,dV,dW,dX,dY,dZ,bSMALL LETTER A,dB",
    "dC,dD,dE,dF,dG,dH,dI,dJ,dK,dL,dM,dN,dO,dP,dQ,dR,dS,dT,dU,dV,dW,dX,dY,dZ,aDIGIT ZERO",
    "487aCROSSING LANES,87aWHITE STAR,23aOPEN CENTRE EIGHT POINTED STAR",
    "111aHEAVY WHITE RIGHTWARDS ARROW,515aVERTICAL BAR,aPARALLEL,aREVERSE SOLIDUS",
    "aPERPENDICULAR,2aANTICLOCKWISE-ROTATED DIVISION SIGN,1aWHITE BULLET,aBULLET,aLESS-THAN",
    "aGREATER-THAN,116aMULTIPLICATION SIGN WITH CIRCUMFLEX ACCENT,1aDIVISION SIGN,389aX",
    "aBOLD X,1142aPOSTAL MARK,525aIDEOGRAPH QUESTION,bKINDERGARTEN,bSCHOOL,bKOTO",
    "aNUMBER TEN ON BLACK SQUARE,bTWENTY ON BLACK SQUARE,bTHIRTY ON BLACK SQUARE",
    "bFORTY ON BLACK SQUARE,bFIFTY ON BLACK SQUARE,bSIXTY ON BLACK SQUARE",
    "bSEVENTY ON BLACK SQUARE,bEIGHTY ON BLACK SQUARE,1bTWENTY ONE,cTWO,cTHREE,cFOUR,cFIVE",
    "cSIX,cSEVEN,cEIGHT,cNINE,bTHIRTY,cONE,cTWO,cTHREE,cFOUR,cFIVE,aHANGUL KIYEOK,bNIEUN",
    "bTIKEUT,bRIEUL,bMIEUM,bPIEUP,bSIOS,bIEUNG,bCIEUC,bCHIEUCH,bKHIEUKH,bTHIEUTH,bPHIEUPH",
    "bHIEUH,bKIYEOK A,bNIEUN A,bTIKEUT A,bRIEUL A,bMIEUM A,bPIEUP A,bSIOS A,bIEUNG A,bCIEUC A",
    "bCHIEUCH A,bKHIEUKH A,bTHIEUTH A,bPHIEUPH A,bHIEUH A,aKOREAN CHARACTER CHAMKO,cJUEUI",
    "aHANGUL IEUNG U,1aIDEOGRAPH ONE,bTWO,bTHREE,bFOUR,bFIVE,bSIX,bSEVEN,bEIGHT,bNINE,bTEN",
    "bMOON,bFIRE,bWATER,bWOOD,bMETAL,bEARTH,bSUN,bSTOCK,bHAVE,bSOCIETY,bNAME,bSPECIAL",
    "bFINANCIAL,bCONGRATULATION,bLABOR,bSECRET,bMALE,bFEMALE,bSUITABLE,bEXCELLENT,bPRINT",
    "bATTENTION,bITEM,bREST,bCOPY,bCORRECT,bHIGH,bCENTRE,bLOW,bLEFT,bRIGHT,bMEDICINE,bRELIGION",
    "bSTUDY,bSUPERVISE,bENTERPRISE,bRESOURCE,bALLIANCE,bNIGHT,aNUMBER THIRTY SIX,cSEVEN,cEIGHT",
    "cNINE,bFORTY,cONE,cTWO,cTHREE,cFOUR,cFIVE,cSIX,cSEVEN,cEIGHT,cNINE,bFIFTY,16aKATAKANA A",
    "bI,bU,bE,bO,bKA,bKI,bKU,bKE,bKO,bSA,bSI,bSU,bSE,bSO,bTA,bTI,bTU,bTE,bTO,bNA,bNI,bNU,bNE",
    "bNO,bHA,bHI,bHU,bHE,bHO,bMA,bMI,bMU,bME,bMO,bYA,bYU,bYO,bRA,bRI,bRU,bRE,bRO,bWA,bWI,bWE",
    "bWO,114190aZERO WITH SLASH,aANTICLOCKWISE ARROW,aDOLLAR SIGN WITH OVERLAID BACKSLASH",
    "27aITALIC LATIN CAPITAL LETTER C,eR,aCD,aWZ,62aCC,aC WITH OVERLAID BACKSLASH",
    "aHUMAN FIGURE,224aIDEOGRAPH ADVANTAGE,bACCEPT,750aCROSS POMMEE,391aINFORMATION SOURCE",
    "268aTRIANGLE,1aSQUARE,296aCROSS FORMEE WITH FOUR DOTS,dTWO DOTS,c"]⟩,
  ⟨"CJK", [
    "11904aRADICAL REPEAT,bCLIFF,bSECOND ONE,cTWO,cTHREE,bPERSON,bBOX,bTABLE,bKNIFE ONE,cTWO",
    "bDIVINATION,bSEAL,bSMALL ONE,cTWO,bLAME ONE,cTWO,cTHREE,cFOUR,bSNAKE,bTHREAD,bSNOUT ONE",
    "cTWO,bHEART ONE,cTWO,bHAND,bRAP,1bCHOKE,bSUN,bMOON,bDEATH,bMOTHER,bCIVILIAN,bWATER ONE",
    "cTWO,bFIRE,bPAW ONE,cTWO,bSIMPLIFIED HALF TREE TRUNK,bCOW,bDOG,bJADE,bBOLT OF CLOTH,bEYE",
    "bSPIRIT ONE,cTWO,bBAMBOO,bSILK,bC-SIMPLIFIED SILK,bNET ONE,cTWO,cTHREE,cFOUR,bMESH,bSHEEP",
    "bRAM,bEWE,bOLD,bBRUSH ONE,cTWO,bMEAT,bMORTAR,bGRASS ONE,cTWO,cTHREE,bTIGER,bCLOTHES",
    "bWEST ONE,cTWO,bC-SIMPLIFIED SEE,bSIMPLIFIED HORN,bHORN,bC-SIMPLIFIED SPEECH,cSHELL,bFOOT",
    "bC-SIMPLIFIED CART,bSIMPLIFIED WALK,bWALK ONE,cTWO,bCITY,bC-SIMPLIFIED GOLD,bLONG ONE",
    "cTWO,bC-SIMPLIFIED LONG,cGATE,bMOUND ONE,cTWO,bRAIN,bBLUE,bC-SIMPLIFIED TANNED LEATHER",
    "cLEAF,cWIND,cFLY,bEAT ONE,cTWO,cTHREE,bC-SIMPLIFIED EAT,bHEAD,bC-SIMPLIFIED HORSE,bBONE",
    "bGHOST,bC-SIMPLIFIED FISH,cBIRD,cSALT,bSIMPLIFIED WHEAT,cYELLOW,bC-SIMPLIFIED FROG",
    "bJ-SIMPLIFIED EVEN,bC-SIMPLIFIED EVEN,bJ-SIMPLIFIED TOOTH,bC-SIMPLIFIED TOOTH",
    "bJ-SIMPLIFIED DRAGON,bC-SIMPLIFIED DRAGON,bTURTLE,bJ-SIMPLIFIED TURTLE",
    "bC-SIMPLIFIED TURTLE,716aSTROKE T,bWG,bXG,bBXG,bSW,bHZZ,bHZG,bHP,bHZWG,bSZWG,bHZT,bHZZP",
    "bHPWG,bHZW,bHZZZ,bN,bH,bS,bP,bSP,bD,bHZ,bHG,bSZ,bSWZ,bST,bSG,bPD,bPZ,bTN,bSZZ,bSWG,bHXWG",
    "bHZZZG,bPG,bQ"]⟩,
  ⟨"CLOCK", [
    "128336aFACE ONE OCLOCK,bTWO OCLOCK,bTHREE OCLOCK,bFOUR OCLOCK,bFIVE OCLOCK,bSIX OCLOCK",
    "bSEVEN OCLOCK,bEIGHT OCLOCK,bNINE OCLOCK,bTEN OCLOCK,bELEVEN OCLOCK,bTWELVE OCLOCK",
    "bONE-THIRTY,bTWO-THIRTY,bTHREE-THIRTY,bFOUR-THIRTY,bFIVE-THIRTY,bSIX-THIRTY,bSEVEN-THIRTY",
    "bEIGHT-THIRTY,bNINE-THIRTY,bTEN-THIRTY,bELEVEN-THIRTY,bTWELVE-THIRTY"]⟩,
  ⟨"CLOCKWISE", [
    "8631aTOP SEMICIRCLE ARROW,3aOPEN CIRCLE ARROW,117aINTEGRAL,aCONTOUR INTEGRAL",
    "1472aGAPPED CIRCLE ARROW,333aCLOSED CIRCLE ARROW,556aTRIANGLE-HEADED OPEN CIRCLE ARROW",
    "117138aRIGHTWARDS AND LEFTWARDS OPEN CIRCLE ARROWS,gWITH CIRCLED ONE OVERLAY",
    "aDOWNWARDS AND UPWARDS OPEN CIRCLE ARROWS,212aRIGHT AND LEFT SEMICIRCLE ARROWS"]⟩,
  ⟨"CLOSED", [
    "10828aUNION WITH SERIFS,aINTERSECTION WITH SERIFS,2aUNION WITH SERIFS AND SMASH PRODUCT",
    "126aSUBSET,aSUPERSET,aSUBSET OR EQUAL TO,aSUPERSET OR EQUAL TO,116783aUMBRELLA,466aBOOK",
    "20aMAILBOX WITH LOWERED FLAG,cRAISED FLAG,36aLOCK WITH KEY"]⟩,
  ⟨"CLOUD", ["9729a,118053aWITH RAIN,bSNOW,bLIGHTNING,bTORNADO"]⟩,
  ⟨"COLON", ["58a,8294aSIGN,434aEQUALS"]⟩,
  ⟨"COMBINING", [
    "768aGRAVE ACCENT,aACUTE ACCENT,aCIRCUMFLEX ACCENT,aTILDE,aMACRON,aOVERLINE,aBREVE",
    "aDOT ABOVE,aDIAERESIS,aHOOK ABOVE,aRING ABOVE,aDOUBLE ACUTE ACCENT,aCARON",
    "aVERTICAL LINE ABOVE,aDOUBLE VERTICAL LINE ABOVE,bGRAVE ACCENT,aCANDRABINDU",
    "aINVERTED BREVE,aTURNED COMMA ABOVE,aCOMMA ABOVE,aREVERSED COMMA ABOVE,aCOMMA ABOVE RIGHT",
    "aGRAVE ACCENT BELOW,aACUTE ACCENT BELOW,aLEFT TACK BELOW,aRIGHT TACK BELOW",
    "aLEFT ANGLE ABOVE,aHORN,aLEFT HALF RING BELOW,aUP TACK BELOW,aDOWN TACK BELOW",
    "aPLUS SIGN BELOW,aMINUS SIGN BELOW,aPALATALIZED HOOK BELOW,aRETROFLEX HOOK BELOW",
    "aDOT BELOW,aDIAERESIS BELOW,aRING BELOW,aCOMMA BELOW,aCEDILLA,aOGONEK",
    "aVERTICAL LINE BELOW,aBRIDGE BELOW,aINVERTED DOUBLE ARCH BELOW,aCARON BELOW",
    "aCIRCUMFLEX ACCENT BELOW,aBREVE BELOW,aINVERTED BREVE BELOW,aTILDE BELOW,aMACRON BELOW",
    "aLOW LINE,aDOUBLE LOW LINE,aTILDE OVERLAY,aSHORT STROKE OVERLAY,aLONG STROKE OVERLAY",
    "aSHORT SOLIDUS OVERLAY,aLONG SOLIDUS OVERLAY,aRIGHT HALF RING BELOW",
    "aINVERTED BRIDGE BELOW,aSQUARE BELOW,aSEAGULL BELOW,aX ABOVE,aVERTICAL TILDE",
    "aDOUBLE OVERLINE,aGRAVE TONE MARK,aACUTE TONE MARK,aGREEK PERISPOMENI,bKORONIS",
    "bDIALYTIKA TONOS,bYPOGEGRAMMENI,aBRIDGE ABOVE,aEQUALS SIGN BELOW",
    "aDOUBLE VERTICAL LINE BELOW,aLEFT ANGLE BELOW,aNOT TILDE ABOVE,aHOMOTHETIC ABOVE",
    "aALMOST EQUAL TO ABOVE,aLEFT RIGHT ARROW BELOW,aUPWARDS ARROW BELOW,aGRAPHEME JOINER",
    "aRIGHT ARROWHEAD ABOVE,aLEFT HALF RING ABOVE,aFERMATA,aX BELOW,aLEFT ARROWHEAD BELOW",
    "aRIGHT ARROWHEAD BELOW,cAND UP ARROWHEAD BELOW,bHALF RING ABOVE,aDOT ABOVE RIGHT",
    "aASTERISK BELOW,aDOUBLE RING BELOW,aZIGZAG ABOVE,aDOUBLE BREVE BELOW,c,bMACRON,cBELOW",
    "bTILDE,bINVERTED BREVE,bRIGHTWARDS ARROW BELOW,aLATIN SMALL LETTER A,dE,dI,dO,dU,dC,dD,dH",
    "dM,dR,dT,dV,dX,275aCYRILLIC TITLO,bPALATALIZATION,bDASIA PNEUMATA,bPSILI PNEUMATA",
    "bPOKRYTIE,bHUNDRED THOUSANDS SIGN,bMILLIONS SIGN,5670aDOUBLED CIRCUMFLEX ACCENT",
    "aDIAERESIS-RING,aINFINITY,aDOWNWARDS ARROW,aTRIPLE DOT,aX-X BELOW,aWIGGLY LINE BELOW",
    "aOPEN MARK BELOW,aDOUBLE OPEN MARK BELOW,aLIGHT CENTRALIZATION STROKE BELOW",
    "aSTRONG CENTRALIZATION STROKE BELOW,aPARENTHESES ABOVE,aDOUBLE PARENTHESES ABOVE",
    "aPARENTHESES BELOW,bOVERLAY,aLATIN SMALL LETTER W BELOW,dTURNED W BELOW",
    "aLEFT PARENTHESIS ABOVE LEFT,aRIGHT PARENTHESIS ABOVE RIGHT,aLEFT PARENTHESIS BELOW LEFT",
    "aRIGHT PARENTHESIS BELOW RIGHT,aSQUARE BRACKETS ABOVE,aNUMBER SIGN ABOVE",
    "aINVERTED DOUBLE ARCH ABOVE,aPLUS SIGN ABOVE,aDOUBLE PLUS SIGN ABOVE,dBELOW",
    "aTRIPLE ACUTE ACCENT,aLATIN SMALL LETTER INSULAR G,eR,eT,753aDOTTED GRAVE ACCENT",
    "bACUTE ACCENT,aSNAKE BELOW,aSUSPENSION MARK,aMACRON-ACUTE,aGRAVE-MACRON,aMACRON-GRAVE",
    "aACUTE-MACRON,aGRAVE-ACUTE-GRAVE,aACUTE-GRAVE-ACUTE,aLATIN SMALL LETTER R BELOW",
    "aBREVE-MACRON,aMACRON-BREVE,aDOUBLE CIRCUMFLEX ABOVE,aOGONEK ABOVE,aZIGZAG BELOW",
    "aIS BELOW,aUR ABOVE,aUS ABOVE,aLATIN SMALL LETTER FLATTENED OPEN A ABOVE,dAE,dAO,dAV",
    "dC CEDILLA,dINSULAR D,dETH,dG,bLETTER SMALL CAPITAL G,bSMALL LETTER K,dL",
    "bLETTER SMALL CAPITAL L,eM,bSMALL LETTER N,bLETTER SMALL CAPITAL N,eR",
    "bSMALL LETTER R ROTUNDA,dS,dLONG S,dZ,dALPHA,dB,dBETA,dSCHWA,dF",
    "dL WITH DOUBLE MIDDLE TILDE,dO WITH LIGHT CENTRALIZATION STROKE,dP,dESH",
    "dU WITH LIGHT CENTRALIZATION STROKE,dW,dA WITH DIAERESIS,dO WITH DIAERESIS",
    "dU WITH DIAERESIS,aUP TACK ABOVE,aKAVYKA ABOVE RIGHT,cLEFT,aDOT ABOVE LEFT",
    "aWIDE INVERTED BRIDGE BELOW,aDOT BELOW LEFT,aDELETION MARK,aDOUBLE INVERTED BREVE BELOW",
    "aALMOST EQUAL TO BELOW,aLEFT ARROWHEAD ABOVE,aRIGHT ARROWHEAD AND DOWN ARROWHEAD BELOW",
    "720aLEFT HARPOON ABOVE,aRIGHT HARPOON ABOVE,aLONG VERTICAL LINE OVERLAY",
    "aSHORT VERTICAL LINE OVERLAY,aANTICLOCKWISE ARROW ABOVE,aCLOCKWISE ARROW ABOVE",
    "aLEFT ARROW ABOVE,aRIGHT ARROW ABOVE,aRING OVERLAY,aCLOCKWISE RING OVERLAY",
    "aANTICLOCKWISE RING OVERLAY,aTHREE DOTS ABOVE,aFOUR DOTS ABOVE,aENCLOSING CIRCLE,bSQUARE",
    "bDIAMOND,bCIRCLE BACKSLASH,aLEFT RIGHT ARROW ABOVE,aENCLOSING SCREEN,bKEYCAP",
    "bUPWARD POINTING TRIANGLE,aREVERSE SOLIDUS OVERLAY,aDOUBLE VERTICAL STROKE OVERLAY",
    "aANNUITY SYMBOL,aTRIPLE UNDERDOT,aWIDE BRIDGE ABOVE,aLEFTWARDS ARROW OVERLAY",
    "aLONG DOUBLE SOLIDUS OVERLAY,aRIGHTWARDS HARPOON WITH BARB DOWNWARDS",
    "aLEFTWARDS HARPOON WITH BARB DOWNWARDS,aLEFT ARROW BELOW,aRIGHT ARROW BELOW",
    "aASTERISK ABOVE,3311aCYRILLIC LETTER BE,cVE,cGHE,cDE,cZHE,cZE,cKA,cEL,cEM,cEN,cO,cPE,cER",
    "cES,cTE,cHA,cTSE,cCHE,cSHA,cSHCHA,cFITA,cES-TE,cA,cIE,cDJERV,cMONOGRAPH UK,cYAT,cYU",
    "cIOTIFIED A,cLITTLE YUS,cBIG YUS,cIOTIFIED BIG YUS",
    "665aKATAKANA-HIRAGANA VOICED SOUND MARK,bSEMI-VOICED SOUND MARK,30164aCYRILLIC VZMET",
    "bTEN MILLIONS SIGN,bHUNDRED MILLIONS SIGN,bTHOUSAND MILLIONS SIGN,1bLETTER UKRAINIAN IE",
    "cI,cYI,cU,cHARD SIGN,cYERU,cSOFT SIGN,cOMEGA,bKAVYKA,bPAYEROK,32bLETTER EF,cIOTIFIED E",
    "576aDEVANAGARI DIGIT ZERO,cONE,cTWO,cTHREE,cFOUR,cFIVE,cSIX,cSEVEN,cEIGHT,cNINE,bLETTER A",
    "cU,cKA,cNA,cPA,cRA,cVI,bSIGN AVAGRAHA,21806aLIGATURE LEFT HALF,bRIGHT HALF",
    "aDOUBLE TILDE LEFT HALF,cRIGHT HALF,aMACRON LEFT HALF,bRIGHT HALF,aCONJOINING MACRON",
    "aLIGATURE LEFT HALF BELOW,bRIGHT HALF BELOW,aTILDE LEFT HALF BELOW,bRIGHT HALF BELOW",
    "aMACRON LEFT HALF BELOW,bRIGHT HALF BELOW,aCONJOINING MACRON BELOW",
    "aCYRILLIC TITLO LEFT HALF,cRIGHT HALF,1350aOLD PERMIC LETTER AN,dDOI,dZATA,dNENOE,dSII",
    "4032aBINDU BELOW,42aGRANTHA DIGIT ZERO,cONE,cTWO,cTHREE,cFOUR,cFIVE,cSIX,3bLETTER A,cKA",
    "cNA,cVI,cPA,48845aGREEK MUSICAL TRISEME,cTETRASEME,cPENTASEME,3515aGLAGOLITIC LETTER AZU",
    "cBUKY,cVEDE,cGLAGOLI,cDOBRO,cYESTU,cZHIVETE,1cZEMLJA,cIZHE,cINITIAL IZHE,cI,cDJERVI,cKAKO",
    "cLJUDIJE,cMYSLITE,cNASHI,cONU,cPOKOJI,cRITSI,cSLOVO,cTVRIDO,cUKU,cFRITU,cHERU,2cSHTA,cTSI",
    "cCHRIVI,cSHA,cYERU,cYERI,cYATI,1cYU,cSMALL YUS,1cYO,cIOTATED SMALL YUS,cBIG YUS",
    "cIOTATED BIG YUS,cFITA"]⟩,
  ⟨"CONTAINS", [
    "8715aAS MEMBER,167bNORMAL SUBGROUP,1dOR EQUAL TO,68aWITH LONG HORIZONTAL STROKE",
    "bVERTICAL BAR AT END OF HORIZONTAL STROKE,1bOVERBAR"]⟩,
  ⟨"COPTIC", [
    "994aCAPITAL LETTER SHEI,aSMALL LETTER SHEI,aCAPITAL LETTER FEI,aSMALL LETTER FEI",
    "aCAPITAL LETTER KHEI,aSMALL LETTER KHEI,aCAPITAL LETTER HORI,aSMALL LETTER HORI",
    "aCAPITAL LETTER GANGIA,aSMALL LETTER GANGIA,aCAPITAL LETTER SHIMA,aSMALL LETTER SHIMA",
    "aCAPITAL LETTER DEI,aSMALL LETTER DEI,10384aCAPITAL LETTER ALFA,aSMALL LETTER ALFA",
    "aCAPITAL LETTER VIDA,aSMALL LETTER VIDA,aCAPITAL LETTER GAMMA,aSMALL LETTER GAMMA",
    "aCAPITAL LETTER DALDA,aSMALL LETTER DALDA,aCAPITAL LETTER EIE,aSMALL LETTER EIE",
    "aCAPITAL LETTER SOU,aSMALL LETTER SOU,aCAPITAL LETTER ZATA,aSMALL LETTER ZATA",
    "aCAPITAL LETTER HATE,aSMALL LETTER HATE,aCAPITAL LETTER THETHE,aSMALL LETTER THETHE",
    "aCAPITAL LETTER IAUDA,aSMALL LETTER IAUDA,aCAPITAL LETTER KAPA,aSMALL LETTER KAPA",
    "aCAPITAL LETTER LAULA,aSMALL LETTER LAULA,aCAPITAL LETTER MI,aSMALL LETTER MI",
    "aCAPITAL LETTER NI,aSMALL LETTER NI,aCAPITAL LETTER KSI,aSMALL LETTER KSI",
    "aCAPITAL LETTER O,aSMALL LETTER O,aCAPITAL LETTER PI,aSMALL LETTER PI,aCAPITAL LETTER RO",
    "aSMALL LETTER RO,aCAPITAL LETTER SIMA,aSMALL LETTER SIMA,aCAPITAL LETTER TAU",
    "aSMALL LETTER TAU,aCAPITAL LETTER UA,aSMALL LETTER UA,aCAPITAL LETTER FI,aSMALL LETTER FI",
    "aCAPITAL LETTER KHI,aSMALL LETTER KHI,aCAPITAL LETTER PSI,aSMALL LETTER PSI",
    "aCAPITAL LETTER OOU,aSMALL LETTER OOU,aCAPITAL LETTER DIALECT-P ALEF",
    "aSMALL LETTER DIALECT-P ALEF,aCAPITAL LETTER OLD COPTIC AIN,aSMALL LETTER OLD COPTIC AIN",
    "aCAPITAL LETTER CRYPTOGRAMMIC EIE,aSMALL LETTER CRYPTOGRAMMIC EIE",
    "aCAPITAL LETTER DIALECT-P KAPA,aSMALL LETTER DIALECT-P KAPA,aCAPITAL LETTER DIALECT-P NI",
    "aSMALL LETTER DIALECT-P NI,aCAPITAL LETTER CRYPTOGRAMMIC NI",
    "aSMALL LETTER CRYPTOGRAMMIC NI,aCAPITAL LETTER OLD COPTIC OOU",
    "aSMALL LETTER OLD COPTIC OOU,aCAPITAL LETTER SAMPI,aSMALL LETTER SAMPI",
    "aCAPITAL LETTER CROSSED SHEI,aSMALL LETTER CROSSED SHEI,aCAPITAL LETTER OLD COPTIC SHEI",
    "aSMALL LETTER OLD COPTIC SHEI,aCAPITAL LETTER OLD COPTIC ESH,aSMALL LETTER OLD COPTIC ESH",
    "aCAPITAL LETTER AKHMIMIC KHEI,aSMALL LETTER AKHMIMIC KHEI,aCAPITAL LETTER DIALECT-P HORI",
    "aSMALL LETTER DIALECT-P HORI,aCAPITAL LETTER OLD COPTIC HORI",
    "aSMALL LETTER OLD COPTIC HORI,aCAPITAL LETTER OLD COPTIC HA,aSMALL LETTER OLD COPTIC HA",
    "aCAPITAL LETTER L-SHAPED HA,aSMALL LETTER L-SHAPED HA,aCAPITAL LETTER OLD COPTIC HEI",
    "aSMALL LETTER OLD COPTIC HEI,aCAPITAL LETTER OLD COPTIC HAT,aSMALL LETTER OLD COPTIC HAT",
    "aCAPITAL LETTER OLD COPTIC GANGIA,aSMALL LETTER OLD COPTIC GANGIA",
    "aCAPITAL LETTER OLD COPTIC DJA,aSMALL LETTER OLD COPTIC DJA",
    "aCAPITAL LETTER OLD COPTIC SHIMA,aSMALL LETTER OLD COPTIC SHIMA",
    "aCAPITAL LETTER OLD NUBIAN SHIMA,aSMALL LETTER OLD NUBIAN SHIMA",
    "aCAPITAL LETTER OLD NUBIAN NGI,aSMALL LETTER OLD NUBIAN NGI",
    "aCAPITAL LETTER OLD NUBIAN NYI,aSMALL LETTER OLD NUBIAN NYI",
    "aCAPITAL LETTER OLD NUBIAN WAU,aSMALL LETTER OLD NUBIAN WAU,aSYMBOL KAI,bMI RO,bPI RO",
    "bSTAUROS,bTAU RO,bKHI RO,bSHIMA SIMA,aCAPITAL LETTER CRYPTOGRAMMIC SHEI",
    "aSMALL LETTER CRYPTOGRAMMIC SHEI,aCAPITAL LETTER CRYPTOGRAMMIC GANGIA",
    "aSMALL LETTER CRYPTOGRAMMIC GANGIA,aCOMBINING NI ABOVE,bSPIRITUS ASPER,cLENIS",
    "aCAPITAL LETTER BOHAIRIC KHEI,aSMALL LETTER BOHAIRIC KHEI,5aOLD NUBIAN FULL STOP",
    "cDIRECT QUESTION MARK,cINDIRECT QUESTION MARK,cVERSE DIVIDER,aFRACTION ONE HALF",
    "aFULL STOP,aMORPHOLOGICAL DIVIDER,54752aEPACT THOUSANDS MARK,bDIGIT ONE,cTWO,cTHREE,cFOUR",
    "cFIVE,cSIX,cSEVEN,cEIGHT,cNINE,bNUMBER TEN,cTWENTY,cTHIRTY,cFORTY,cFIFTY,cSIXTY,cSEVENTY",
    "cEIGHTY,cNINETY,cONE HUNDRED,cTWO HUNDRED,cTHREE HUNDRED,cFOUR HUNDRED,cFIVE HUNDRED",
    "cSIX HUNDRED,cSEVEN HUNDRED,cEIGHT HUNDRED,cNINE HUNDRED"]⟩,
  ⟨"COUNTING", [
    "119648aROD UNIT DIGIT ONE,dTWO,dTHREE,dFOUR,dFIVE,dSIX,dSEVEN,dEIGHT,dNINE",
    "bTENS DIGIT ONE,dTWO,dTHREE,dFOUR,dFIVE,dSIX,dSEVEN,dEIGHT,dNINE"]⟩,
  ⟨"CROSS", [
    "9768aOF LORRAINE,bJERUSALEM,290aMARK,1795aPATTY WITH RIGHT CROSSBAR,cLEFT CROSSBAR",
    "116463aPOMMEE WITH HALF-CIRCLE BELOW,b"]⟩,
  ⟨"CROSSED", ["9876aSWORDS,117493aNEGATIVE SQUARED LATIN CAPITAL LETTER P,513aFLAGS"]⟩,
  ⟨"CUNEIFORM", [
    "73728aSIGN A,cTIMES A,dBAD,dGAN2 TENU,dHA,dIGI,dLAGAR GUNU,dMUSH,dSAG,bA2,bAB,cTIMES ASH2",
    "dDUN3 GUNU,dGAL,dGAN2 TENU,dHA,dIGI GUNU,dIMIN,dLAGAB,dSHESH,dU PLUS U PLUS U,cGUNU,bAB2",
    "cTIMES BALAG,dGAN2 TENU,dME PLUS EN,dSHA3,dTAK4,bAD,bAK,cTIMES ERIN2,dSHITA PLUS GISH,bAL",
    "cTIMES AL,dDIM2,dGISH,dHA,dKAD3,dKI,dSHE,dUSH,bALAN,bALEPH,bAMAR,cTIMES SHE,bAN,cOVER AN",
    "cTHREE TIMES,cPLUS NAGA OPPOSING AN PLUS NAGA,eSQUARED,bANSHE,bAPIN,bARAD,cTIMES KUR",
    "bARKAB,bASAL2,bASH,cZIDA TENU,cKABA TENU,cOVER ASH TUG2 OVER TUG2 TUG2 OVER TUG2 PAP",
    "eOVER ASH,gCROSSING ASH OVER ASH OVER ASH,bASH2,bASHGAB,bBA,bBAD,bBAG3,bBAHAR2,bBAL",
    "cOVER BAL,bBALAG,bBAR,bBARA2,bBI,cTIMES A,dGAR,dIGI GUNU,bBU,cOVER BU AB,eUN,cCROSSING BU",
    "bBULUG,cOVER BULUG,bBUR,bBUR2,bDA,bDAG,cKISIM5 TIMES A PLUS MASH,eAMAR,eBALAG,eBI,eGA",
    "fPLUS MASH,eGI,eGIR2,eGUD,eHA,eIR,fPLUS LU,eKAK,eLA,eLU,fPLUS MASH2,eLUM,eNE",
    "ePAP PLUS PAP,eSI,eTAK4,eU2 PLUS GIR2,eUSH,bDAM,bDAR,bDARA3,bDARA4,bDI,bDIB,bDIM",
    "cTIMES SHE,bDIM2,bDIN,cKASKAL U GUNU DISH,bDISH,bDU,cOVER DU,cGUNU,cSHESHIG,bDUB",
    "cTIMES ESH2,bDUB2,bDUG,bDUGUD,bDUH,bDUN,bDUN3,cGUNU,dGUNU,bDUN4,bDUR2,bE,cTIMES PAP",
    "cOVER E NUN OVER NUN,bE2,cTIMES A PLUS HA PLUS DA,dGAR,dMI,dSAL,dSHE,dU,bEDIN,bEGIR,bEL",
    "bEN,cTIMES GAN2,eTENU,dME,cCROSSING EN,cOPPOSING EN,cSQUARED,bEREN,bERIN2,bESH2,bEZEN",
    "cTIMES A,ePLUS LAL,gTIMES LAL,dAN,dBAD,dDUN3 GUNU,fGUNU,dHA,eGUNU,dIGI GUNU,dKASKAL",
    "eSQUARED,dKU3,dLA,dLAL TIMES LAL,dLI,dLU,dU2,dUD,bGA,cGUNU,bGA2,cTIMES A PLUS DA PLUS HA",
    "fHA,fIGI,dAB2 TENU PLUS TAB,dAN,dASH,dASH2 PLUS GAL,dBAD,dBAR PLUS RA,dBUR,ePLUS RA,dDA",
    "dDI,dDIM TIMES SHE,dDUB,dEL,ePLUS LA,dEN,eTIMES GAN2 TENU,dGAN2 TENU,dGAR,dGI,dGI4",
    "ePLUS A,dGIR2 PLUS SU,dHA PLUS LU PLUS ESH2,dHAL,ePLUS LA,dHI PLUS LI,dHUB2,dIGI GUNU",
    "dISH PLUS HU PLUS ASH,dKAK,dKASKAL,dKID,ePLUS LAL,dKU3 PLUS AN,dLA,dME PLUS EN,dMI,dNUN",
    "eOVER NUN,dPA,dSAL,dSAR,dSHE,ePLUS TUR,dSHID,dSUM,dTAK4,dU,dUD,ePLUS DU,cOVER GA2,bGABA",
    "cCROSSING GABA,bGAD,cOVER GAD GAR OVER GAR,bGAL,cGAD OVER GAD GAR OVER GAR,bGALAM,bGAM",
    "bGAN,bGAN2,cTENU,cOVER GAN2,cCROSSING GAN2,bGAR,bGAR3,bGASHAN,bGESHTIN,cTIMES KUR,bGI",
    "cTIMES E,dU,cCROSSING GI,bGI4,cOVER GI4,cCROSSING GI4,bGIDIM,bGIR2,cGUNU,bGIR3",
    "cTIMES A PLUS IGI,dGAN2 TENU,dIGI,dLU PLUS IGI,dPA,bGISAL,bGISH,cCROSSING GISH,cTIMES BAD",
    "dTAK4,cTENU,bGU,cCROSSING GU,bGU2,cTIMES KAK,eTIMES IGI GUNU,dNUN,dSAL PLUS TUG2,cGUNU",
    "bGUD,cTIMES A PLUS KUR,dKUR,cOVER GUD LUGAL,bGUL,bGUM,cTIMES SHE,bGUR,bGUR7,bGURUN",
    "bGURUSH,bHA,cTENU,cGUNU,bHAL,bHI,cTIMES ASH,dASH2,dBAD,dDISH,dGAD,dKIN,dNUN,dSHE,dU,bHU",
    "bHUB2,cTIMES AN,dHAL,dKASKAL,dLISH,dUD,bHUL2,bI,cA,bIB,bIDIM,cOVER IDIM BUR,eSQUARED,bIG",
    "bIGI,cDIB,cRI,cOVER IGI SHIR OVER SHIR UD OVER UD,cGUNU,bIL,cTIMES GAN2 TENU,bIL2,bIM",
    "cTIMES TAK4,cCROSSING IM,cOPPOSING IM,cSQUARED,bIMIN,bIN,bIR,bISH,bKA,cTIMES A,dAD",
    "ePLUS KU3,dASH2,dBAD,dBALAG,dBAR,dBI,dERIN2,dESH2,dGA,dGAL,dGAN2 TENU,dGAR",
    "ePLUS SHA3 PLUS A,dGI,dGIR2,dGISH PLUS SAR,eCROSSING GISH,dGU,dGUR7,dIGI,dIM,dKAK,dKI",
    "dKID,dLI,dLU,dME,ePLUS DU,fGI,fTE,dMI,ePLUS NUNUZ,dNE,dNUN,dPI,dRU,dSA,dSAR,dSHA,dSHE",
    "dSHID,dSHU,dSIG,dSUHUR,dTAR,dU,dU2,dUD,dUMUM TIMES PA,dUSH,dZI,bKA2,cCROSSING KA2,bKAB",
    "bKAD2,bKAD3,bKAD4,bKAD5,cOVER KAD5,bKAK,cTIMES IGI GUNU,bKAL,cTIMES BAD,cCROSSING KAL",
    "bKAM2,bKAM4,bKASKAL,cLAGAB TIMES U OVER LAGAB TIMES U",
    "cOVER KASKAL LAGAB TIMES U OVER LAGAB TIMES U,bKESH2,bKI,cTIMES BAD,dU,dUD,bKID,bKIN",
    "bKISAL,bKISH,bKISIM5,cOVER KISIM5,bKU,cOVER HI TIMES ASH2 KU OVER HI TIMES ASH2,bKU3,bKU4",
    "cVARIANT FORM,bKU7,bKUL,cGUNU,bKUN,bKUR,cOPPOSING KUR,bKUSHU2,bKWU318,bLA,bLAGAB,cTIMES A",
    "ePLUS DA PLUS HA,fGAR,fLAL,dAL,dAN,dASH ZIDA TENU,dBAD,dBI,dDAR,dEN,dGA,dGAR,dGUD",
    "ePLUS GUD,dHA,dHAL,dHI TIMES NUN,dIGI GUNU,dIM,ePLUS HA,fLU,dKI,dKIN,dKU3,dKUL",
    "ePLUS HI PLUS A,dLAGAB,dLISH,dLU,dLUL,dME,ePLUS EN,dMUSH,dNE,dSHE PLUS SUM",
    "dSHITA PLUS GISH PLUS ERIN2,gTENU,dSHU2,ePLUS SHU2,dSUM,dTAG,dTAK4",
    "dTE PLUS A PLUS SU PLUS NA,dU,ePLUS A,fU PLUS U,dU2 PLUS ASH,dUD,dUSH,cSQUARED,bLAGAR",
    "cTIMES SHE,ePLUS SUM,cGUNU,dOVER LAGAR GUNU SHE,bLAHSHU,bLAL,cTIMES LAL,bLAM,cTIMES KUR",
    "ePLUS RU,bLI,bLIL,bLIMMU2,bLISH,bLU,cTIMES BAD,bLU2,cTIMES AL,dBAD,dESH2,eTENU,dGAN2 TENU",
    "dHI TIMES BAD,dIM,dKAD2,dKAD3,ePLUS ASH,dKI,dLA PLUS ASH,dLAGAB,dME PLUS EN,dNE,dNU",
    "dSI PLUS ASH,dSIK2 PLUS BU,dTUG2,cTENU,cCROSSING LU2,cOPPOSING LU2,cSQUARED,cSHESHIG,bLU3",
    "bLUGAL,cOVER LUGAL,cOPPOSING LUGAL,cSHESHIG,bLUH,bLUL,bLUM,cOVER LUM,eGAR OVER GAR,bMA",
    "cTIMES TAK4,cGUNU,bMA2,bMAH,bMAR,bMASH,bMASH2,bME,bMES,bMI,bMIN,bMU,cOVER MU,bMUG,cGUNU",
    "bMUNSUB,bMURGU2,bMUSH,cTIMES A,dKUR,dZA,cOVER MUSH,eTIMES A PLUS NA,cCROSSING MUSH,bMUSH3",
    "cTIMES A,ePLUS DI,dDI,cGUNU,bNA,bNA2,bNAGA,cINVERTED,cTIMES SHU TENU,cOPPOSING NAGA",
    "bNAGAR,bNAM NUTILLU,c,bNAM2,bNE,cTIMES A,dUD,cSHESHIG,bNI,cTIMES E,bNI2,bNIM",
    "cTIMES GAN2 TENU,dGAR PLUS GAN2 TENU,bNINDA2,cTIMES AN,dASH,ePLUS ASH,dGUD",
    "dME PLUS GAN2 TENU,dNE,dNUN,dSHE,ePLUS A AN,fASH,gPLUS ASH,dU2 PLUS ASH,dUSH,bNISAG,bNU",
    "bNU11,bNUN,cLAGAR TIMES GAR,eMASH,eSAL,fOVER NUN LAGAR TIMES SAL,eUSH,cTENU,cOVER NUN",
    "cCROSSING NUN,eLAGAR OVER LAGAR,bNUNUZ,cAB2 TIMES ASHGAB,eBI,eDUG,eGUD,eIGI GUNU,eKAD3",
    "eLA,eNE,eSILA3,eU2,cKISIM5 TIMES BI,fU,bPA,bPAD,bPAN,bPAP,bPESH2,bPI,cTIMES A,dAB,dBI,dBU",
    "dE,dI,dIB,dU,dU2,cCROSSING PI,bPIRIG,cTIMES KAL,dUD,dZA,cOPPOSING PIRIG,bRA,bRAB,bRI,bRU",
    "bSA,bSAG NUTILLU,c,cTIMES A,dDU,dDUB,dHA,dKAK,dKUR,dLUM,dMI,dNUN,dSAL,dSHID,dTAB,dU2,dUB",
    "dUM,dUR,dUSH,cOVER SAG,cGUNU,bSAL,cLAGAB TIMES ASH2,bSANGA2,bSAR,bSHA,bSHA3,cTIMES A,dBAD",
    "dGISH,dNE,dSHU2,dTUR,dU,ePLUS A,bSHA6,bSHAB6,bSHAR2,bSHE,cHU",
    "cOVER SHE GAD OVER GAD GAR OVER GAR,eTAB OVER TAB GAR OVER GAR,bSHEG9,bSHEN,bSHESH",
    "bSHESH2,bSHESHLAM,bSHID,cTIMES A,dIM,bSHIM,cTIMES A,dBAL,dBULUG,dDIN,dGAR,dIGI,eGUNU",
    "dKUSHU2,dLUL,dMUG,dSAL,bSHINIG,bSHIR,cTENU,cOVER SHIR BUR OVER BUR,bSHITA,bSHU",
    "cOVER INVERTED SHU,bSHU2,bSHUBUR,bSI,cGUNU,bSIG,bSIG4,cOVER SIG4 SHU2,bSIK2,bSILA3,bSU",
    "cOVER SU,bSUD,bSUD2,bSUHUR,bSUM,bSUMASH,bSUR,bSUR9,bTA,cASTERISK,cTIMES HI,dMI,cGUNU,bTAB",
    "cOVER TAB NI OVER NI DISH OVER DISH,cSQUARED,bTAG,cTIMES BI,dGUD,dSHE,dSHU,dTUG2,dUD",
    "bTAK4,bTAR,bTE,cGUNU,bTI,cTENU,bTIL,bTIR,cTIMES TAK4,cOVER TIR,eGAD OVER GAD GAR OVER GAR",
    "bTU,bTUG2,bTUK,bTUM,bTUR,cOVER TUR ZA OVER ZA,bU,cGUD,cU U",
    "cOVER U PA OVER PA GAR OVER GAR,eSUR OVER SUR,eU REVERSED OVER U REVERSED,bU2,bUB,bUD",
    "cKUSHU2,cTIMES BAD,dMI,dU PLUS U PLUS U,iGUNU,cGUNU,cSHESHIG,dTIMES BAD,bUDUG,bUM",
    "cTIMES LAGAB,dME PLUS DA,dSHA3,dU,bUMBIN,bUMUM,cTIMES KASKAL,dPA,bUN,cGUNU,bUR",
    "cCROSSING UR,cSHESHIG,bUR2,cTIMES A PLUS HA,fNA,dAL,dHA,dNUN,dU2,ePLUS ASH,fBI,bUR4,bURI",
    "bURI3,bURU,cTIMES A,dASHGAB,dBAR,dDUN,dGA,dGAL,dGAN2 TENU,dGAR,dGU,dHA,dIGI,dIM,dISH,dKI",
    "dLUM,dMIN,dPA,dSHE,dSIG4,dTU,dU PLUS GUD,dUD,dURUDA,bURUDA,cTIMES U,bUSH,cTIMES A,dKU",
    "dKUR,dTAK4,bUSHX,bUSH2,bUSHUMX,bUTUKI,bUZ3,cTIMES KASKAL,bUZU,bZA,cTENU",
    "cSQUARED TIMES KUR,bZAG,bZAMX,bZE2,bZI,cOVER ZI,bZI3,bZIB,cKABA TENU,bZIG,bZIZ2,bZU,bZU5",
    "cTIMES A,bZUBUR,bZUM,bKAP ELAMITE,bAB TIMES NUN,bAB2 TIMES A,bAMAR TIMES KUG",
    "bDAG KISIM5 TIMES U2 PLUS MASH,bDAG3,bDISH PLUS SHU,bDUB TIMES SHE,bEZEN TIMES GUD,dSHE",
    "bGA2 TIMES AN PLUS KAK PLUS A,dASH2,bGE22,bGIG,bHUSH,bKA TIMES ANSHE,dASH3,dGISH,dGUD",
    "dHI TIMES ASH2,dLUM,dPA,dSHUL,dTU,dUR2,bLAGAB TIMES GI,bLU2 SHESHIG TIMES BAD",
    "cTIMES ESH2 PLUS LAL,dSHU,bMESH,bMUSH3 TIMES ZA,bNA4,bNIN,bNIN9,bNINDA2 TIMES BAL,dGI",
    "bNU11 ROTATED NINETY DEGREES,bPESH2 ASTERISK,bPIR2,bSAG TIMES IGI GUNU,bTI2,bUM TIMES ME",
    "bU U,102aNUMERIC SIGN TWO ASH,cTHREE ASH,cFOUR ASH,cFIVE ASH,cSIX ASH,cSEVEN ASH",
    "cEIGHT ASH,cNINE ASH,cTHREE DISH,cFOUR DISH,cFIVE DISH,cSIX DISH,cSEVEN DISH,cEIGHT DISH",
    "cNINE DISH,cFOUR U,cFIVE U,cSIX U,cSEVEN U,cEIGHT U,cNINE U,cONE GESH2,cTWO GESH2",
    "cTHREE GESH2,cFOUR GESH2,cFIVE GESH2,cSIX GESH2,cSEVEN GESH2,cEIGHT GESH2,cNINE GESH2",
    "cONE GESHU,cTWO GESHU,cTHREE GESHU,cFOUR GESHU,cFIVE GESHU,cTWO SHAR2,cTHREE SHAR2",
    "eVARIANT FORM,cFOUR SHAR2,cFIVE SHAR2,cSIX SHAR2,cSEVEN SHAR2,cEIGHT SHAR2,cNINE SHAR2",
    "cONE SHARU,cTWO SHARU,cTHREE SHARU,eVARIANT FORM,cFOUR SHARU,cFIVE SHARU",
    "cSHAR2 TIMES GAL PLUS DISH,gMIN,cONE BURU,cTWO BURU,cTHREE BURU,eVARIANT FORM,cFOUR BURU",
    "cFIVE BURU,cTHREE VARIANT FORM ESH16,fESH21,cFOUR VARIANT FORM LIMMU,fLIMMU4,fLIMMU A,gB",
    "cSIX VARIANT FORM ASH9,cSEVEN VARIANT FORM IMIN3,fIMIN A,gB,cEIGHT VARIANT FORM USSU",
    "fUSSU3,cNINE VARIANT FORM ILIMMU,fILIMMU3,fILIMMU4,fILIMMU A,cTWO ASH TENU",
    "cTHREE ASH TENU,cFOUR ASH TENU,cFIVE ASH TENU,cSIX ASH TENU,cONE BAN2,cTWO BAN2",
    "cTHREE BAN2,cFOUR BAN2,eVARIANT FORM,cFIVE BAN2,eVARIANT FORM,cNIGIDAMIN,cNIGIDAESH",
    "cONE ESHE3,cTWO ESHE3,cONE THIRD DISH,cTWO THIRDS DISH,cFIVE SIXTHS DISH",
    "cONE THIRD VARIANT FORM A,cTWO THIRDS VARIANT FORM A,cONE EIGHTH ASH,dQUARTER ASH",
    "cOLD ASSYRIAN ONE SIXTH,fQUARTER,cONE QUARTER GUR,dHALF GUR,cELAMITE ONE THIRD",
    "dTWO THIRDS,dFORTY,dFIFTY,cFOUR U VARIANT FORM,cFIVE U VARIANT FORM,cSIX U VARIANT FORM",
    "cSEVEN U VARIANT FORM,cEIGHT U VARIANT FORM,cNINE U VARIANT FORM",
    "1aPUNCTUATION SIGN OLD ASSYRIAN WORD DIVIDER,cVERTICAL COLON,cDIAGONAL COLON,dTRICOLON",
    "dQUADCOLON,11aSIGN AB TIMES NUN TENU,dSHU2,bAD TIMES ESH2,bBAD TIMES DISH TENU",
    "bBAHAR2 TIMES AB2,dNI,dZA,bBU OVER BU TIMES NA2,bDA TIMES TAK4,bDAG TIMES KUR",
    "bDIM TIMES IGI,dU U U,bDIM2 TIMES UD,bDUG TIMES ANSHE,dASH,eAT LEFT,dDIN,dDUN,dERIN2,dGA",
    "dGI,dGIR2 GUNU,dGISH,dHA,dHI,dIGI GUNU,dKASKAL,dKUR,dKUSHU2,ePLUS KASKAL,dLAK-020,dLAM",
    "eTIMES KUR,dLUH PLUS GISH,dMASH,dMES,dMI,dNI,dPI,dSHE,dSI GUNU,bE2 TIMES KUR,dPAP",
    "bERIN2 X,bESH2 CROSSING ESH2,bEZEN SHESHIG TIMES ASH,eHI,eIGI GUNU,eLA,eLAL,eME,eMES,eSU",
    "cTIMES SU,bGA2 TIMES BAHAR2,dDIM GUNU,dDUG TIMES IGI GUNU,fKASKAL,dEREN,dGA,dGAR PLUS DI",
    "fNE,dHA PLUS A,dKUSHU2 PLUS KASKAL,dLAM,eTIMES KUR,dLUH,dMUSH,dNE,ePLUS E2,fGI,dSHIM",
    "dZIZ2,bGABA ROTATED NINETY DEGREES,bGESHTIN TIMES U,bGISH TIMES GISH CROSSING GISH",
    "bGU2 TIMES IGI GUNU,bGUD PLUS GISH TIMES TAK4,bHA TENU GUNU",
    "bHI TIMES ASH OVER HI TIMES ASH,bKA TIMES BU,dKA,dU U U,dUR,bLAGAB TIMES ZU OVER ZU",
    "bLAK-003,bLAK-021,bLAK-025,bLAK-030,bLAK-050,bLAK-051,bLAK-062,bLAK-079 OVER LAK-079 GUNU",
    "bLAK-080,bLAK-081 OVER LAK-081,bLAK-092,bLAK-130,bLAK-142,bLAK-210,bLAK-219,bLAK-220",
    "bLAK-225,bLAK-228,bLAK-238,bLAK-265,bLAK-266,bLAK-343,bLAK-347,bLAK-348,bLAK-383,bLAK-384",
    "bLAK-390,bLAK-441,bLAK-449,cTIMES GU,dIGI,dPAP PLUS LU3,fPAP PLUS LU3,dU2 PLUS BA",
    "bLAK-450,bLAK-457,bLAK-470,bLAK-483,bLAK-490,bLAK-492,bLAK-493,bLAK-495,bLAK-550,bLAK-608",
    "bLAK-617,cTIMES ASH,dBAD,dDUN3 GUNU GUNU,dKU3,dLA,dTAR,dTE,dU2,dUD,dURUDA,bLAK-636",
    "bLAK-648,cTIMES DUB,dGA,dIGI,eGUNU,dNI,dPAP PLUS PAP PLUS LU3,dSHESH PLUS KI,dUD,dURUDA",
    "bLAK-724,bLAK-749,bLU2 GUNU TIMES ASH,cTIMES DISH,dHAL,dPAP,ePLUS PAP PLUS LU3,dTAK4",
    "bMI PLUS ZA7,bMUSH OVER MUSH TIMES GA,fKAK,bNINDA2 TIMES DIM GUNU,dGISH,dGUL,dHI,dKESH2",
    "dLAK-050,dMASH,dPAP PLUS PAP,dU,ePLUS U,dURUDA,bSAG GUNU TIMES HA,cTIMES EN,dSHE AT LEFT",
    "dTAK4,bSHA6 TENU,bSHE OVER SHE,cPLUS HUB2,dNAM2,dSAR,bSHU2 PLUS DUG TIMES NI,dE2 TIMES AN",
    "bSI TIMES TAK4,bTAK4 PLUS SAG,bTUM TIMES GAN2 TENU,dTHREE DISH,bUR2 INVERTED,cTIMES UD",
    "bURU TIMES DARA3,dLAK-668,dLU3,bZA7,bZU OVER ZU PLUS SAR,bZU5 TIMES THREE DISH TENU"]⟩,
  ⟨"CURLY", ["8910aLOGICAL OR,bAND,218aBRACKET EXTENSION,1029aLOOP"]⟩,
  ⟨"CYPRIOT", [
    "67584aSYLLABLE A,bE,bI,bO,bU,bJA,2bJO,1bKA,bKE,bKI,bKO,bKU,bLA,bLE,bLI,bLO,bLU,bMA,bME",
    "bMI,bMO,bMU,bNA,bNE,bNI,bNO,bNU,bPA,bPE,bPI,bPO,bPU,bRA,bRE,bRI,bRO,bRU,bSA,bSE,bSI,bSO",
    "bSU,bTA,bTE,bTI,bTO,bTU,bWA,bWE,bWI,bWO,1bXA,bXE,3bZA,2bZO"]⟩,
  ⟨"CYPRO-MINOAN", [
    "77712aSIGN CM001,bCM002,bCM004,bCM005,bCM006,bCM007,bCM008,bCM009,bCM010,bCM011,bCM012",
    "bCM012B,bCM013,bCM015,bCM017,bCM019,bCM021,bCM023,bCM024,bCM025,bCM026,bCM027,bCM028",
    "bCM029,bCM030,bCM033,bCM034,bCM035,bCM036,bCM037,bCM038,bCM039,bCM040,bCM041,bCM044",
    "bCM046,bCM047,bCM049,bCM050,bCM051,bCM052,bCM053,bCM054,bCM055,bCM056,bCM058,bCM059",
    "bCM060,bCM061,bCM062,bCM063,bCM064,bCM066,bCM067,bCM068,bCM069,bCM070,bCM071,bCM072",
    "bCM073,bCM074,bCM075,bCM075B,bCM076,bCM078,bCM079,bCM080,bCM081,bCM082,bCM083,bCM084",
    "bCM085,bCM086,bCM087,bCM088,bCM089,bCM090,bCM091,bCM092,bCM094,bCM095,bCM096,bCM097",
    "bCM098,bCM099,bCM100,bCM101,bCM102,bCM103,bCM104,bCM105,bCM107,bCM108,bCM109,bCM110",
    "bCM112,bCM114,bCM301,bCM302"]⟩,
  ⟨"CYRILLIC", [
    "1024aCAPITAL LETTER IE WITH GRAVE,cIO,cDJE,cGJE,cUKRAINIAN IE,cDZE",
    "cBYELORUSSIAN-UKRAINIAN I,cYI,cJE,cLJE,cNJE,cTSHE,cKJE,cI WITH GRAVE,cSHORT U,cDZHE,cA",
    "cBE,cVE,cGHE,cDE,cIE,cZHE,cZE,cI,cSHORT I,cKA,cEL,cEM,cEN,cO,cPE,cER,cES,cTE,cU,cEF,cHA",
    "cTSE,cCHE,cSHA,cSHCHA,cHARD SIGN,cYERU,cSOFT SIGN,cE,cYU,cYA,aSMALL LETTER A,cBE,cVE,cGHE",
    "cDE,cIE,cZHE,cZE,cI,cSHORT I,cKA,cEL,cEM,cEN,cO,cPE,cER,cES,cTE,cU,cEF,cHA,cTSE,cCHE,cSHA",
    "cSHCHA,cHARD SIGN,cYERU,cSOFT SIGN,cE,cYU,cYA,cIE WITH GRAVE,cIO,cDJE,cGJE,cUKRAINIAN IE",
    "cDZE,cBYELORUSSIAN-UKRAINIAN I,cYI,cJE,cLJE,cNJE,cTSHE,cKJE,cI WITH GRAVE,cSHORT U,cDZHE",
    "aCAPITAL LETTER OMEGA,aSMALL LETTER OMEGA,aCAPITAL LETTER YAT,aSMALL LETTER YAT",
    "aCAPITAL LETTER IOTIFIED E,aSMALL LETTER IOTIFIED E,aCAPITAL LETTER LITTLE YUS",
    "aSMALL LETTER LITTLE YUS,aCAPITAL LETTER IOTIFIED LITTLE YUS",
    "aSMALL LETTER IOTIFIED LITTLE YUS,aCAPITAL LETTER BIG YUS,aSMALL LETTER BIG YUS",
    "aCAPITAL LETTER IOTIFIED BIG YUS,aSMALL LETTER IOTIFIED BIG YUS,aCAPITAL LETTER KSI",
    "aSMALL LETTER KSI,aCAPITAL LETTER PSI,aSMALL LETTER PSI,aCAPITAL LETTER FITA",
    "aSMALL LETTER FITA,aCAPITAL LETTER IZHITSA,aSMALL LETTER IZHITSA",
    "aCAPITAL LETTER IZHITSA WITH DOUBLE GRAVE ACCENT",
    "aSMALL LETTER IZHITSA WITH DOUBLE GRAVE ACCENT,aCAPITAL LETTER UK,aSMALL LETTER UK",
    "aCAPITAL LETTER ROUND OMEGA,aSMALL LETTER ROUND OMEGA,aCAPITAL LETTER OMEGA WITH TITLO",
    "aSMALL LETTER OMEGA WITH TITLO,aCAPITAL LETTER OT,aSMALL LETTER OT,aCAPITAL LETTER KOPPA",
    "aSMALL LETTER KOPPA,aTHOUSANDS SIGN,7aCAPITAL LETTER SHORT I WITH TAIL",
    "aSMALL LETTER SHORT I WITH TAIL,aCAPITAL LETTER SEMISOFT SIGN,aSMALL LETTER SEMISOFT SIGN",
    "aCAPITAL LETTER ER WITH TICK,aSMALL LETTER ER WITH TICK,aCAPITAL LETTER GHE WITH UPTURN",
    "aSMALL LETTER GHE WITH UPTURN,aCAPITAL LETTER GHE WITH STROKE",
    "aSMALL LETTER GHE WITH STROKE,aCAPITAL LETTER GHE WITH MIDDLE HOOK",
    "aSMALL LETTER GHE WITH MIDDLE HOOK,aCAPITAL LETTER ZHE WITH DESCENDER",
    "aSMALL LETTER ZHE WITH DESCENDER,aCAPITAL LETTER ZE WITH DESCENDER",
    "aSMALL LETTER ZE WITH DESCENDER,aCAPITAL LETTER KA WITH DESCENDER",
    "aSMALL LETTER KA WITH DESCENDER,aCAPITAL LETTER KA WITH VERTICAL STROKE",
    "aSMALL LETTER KA WITH VERTICAL STROKE,aCAPITAL LETTER KA WITH STROKE",
    "aSMALL LETTER KA WITH STROKE,aCAPITAL LETTER BASHKIR KA,aSMALL LETTER BASHKIR KA",
    "aCAPITAL LETTER EN WITH DESCENDER,aSMALL LETTER EN WITH DESCENDER",
    "aCAPITAL LIGATURE EN GHE,aSMALL LIGATURE EN GHE,aCAPITAL LETTER PE WITH MIDDLE HOOK",
    "aSMALL LETTER PE WITH MIDDLE HOOK,aCAPITAL LETTER ABKHASIAN HA,aSMALL LETTER ABKHASIAN HA",
    "aCAPITAL LETTER ES WITH DESCENDER,aSMALL LETTER ES WITH DESCENDER",
    "aCAPITAL LETTER TE WITH DESCENDER,aSMALL LETTER TE WITH DESCENDER",
    "aCAPITAL LETTER STRAIGHT U,aSMALL LETTER STRAIGHT U",
    "aCAPITAL LETTER STRAIGHT U WITH STROKE,aSMALL LETTER STRAIGHT U WITH STROKE",
    "aCAPITAL LETTER HA WITH DESCENDER,aSMALL LETTER HA WITH DESCENDER",
    "aCAPITAL LIGATURE TE TSE,aSMALL LIGATURE TE TSE,aCAPITAL LETTER CHE WITH DESCENDER",
    "aSMALL LETTER CHE WITH DESCENDER,aCAPITAL LETTER CHE WITH VERTICAL STROKE",
    "aSMALL LETTER CHE WITH VERTICAL STROKE,aCAPITAL LETTER SHHA,aSMALL LETTER SHHA",
    "aCAPITAL LETTER ABKHASIAN CHE,aSMALL LETTER ABKHASIAN CHE",
    "aCAPITAL LETTER ABKHASIAN CHE WITH DESCENDER,aSMALL LETTER ABKHASIAN CHE WITH DESCENDER",
    "aLETTER PALOCHKA,aCAPITAL LETTER ZHE WITH BREVE,aSMALL LETTER ZHE WITH BREVE",
    "aCAPITAL LETTER KA WITH HOOK,aSMALL LETTER KA WITH HOOK,aCAPITAL LETTER EL WITH TAIL",
    "aSMALL LETTER EL WITH TAIL,aCAPITAL LETTER EN WITH HOOK,aSMALL LETTER EN WITH HOOK",
    "aCAPITAL LETTER EN WITH TAIL,aSMALL LETTER EN WITH TAIL,aCAPITAL LETTER KHAKASSIAN CHE",
    "aSMALL LETTER KHAKASSIAN CHE,aCAPITAL LETTER EM WITH TAIL,aSMALL LETTER EM WITH TAIL",
    "cPALOCHKA,aCAPITAL LETTER A WITH BREVE,aSMALL LETTER A WITH BREVE",
    "aCAPITAL LETTER A WITH DIAERESIS,aSMALL LETTER A WITH DIAERESIS,aCAPITAL LIGATURE A IE",
    "aSMALL LIGATURE A IE,aCAPITAL LETTER IE WITH BREVE,aSMALL LETTER IE WITH BREVE",
    "aCAPITAL LETTER SCHWA,aSMALL LETTER SCHWA,aCAPITAL LETTER SCHWA WITH DIAERESIS",
    "aSMALL LETTER SCHWA WITH DIAERESIS,aCAPITAL LETTER ZHE WITH DIAERESIS",
    "aSMALL LETTER ZHE WITH DIAERESIS,aCAPITAL LETTER ZE WITH DIAERESIS",
    "aSMALL LETTER ZE WITH DIAERESIS,aCAPITAL LETTER ABKHASIAN DZE,aSMALL LETTER ABKHASIAN DZE",
    "aCAPITAL LETTER I WITH MACRON,aSMALL LETTER I WITH MACRON",
    "aCAPITAL LETTER I WITH DIAERESIS,aSMALL LETTER I WITH DIAERESIS",
    "aCAPITAL LETTER O WITH DIAERESIS,aSMALL LETTER O WITH DIAERESIS,aCAPITAL LETTER BARRED O",
    "aSMALL LETTER BARRED O,aCAPITAL LETTER BARRED O WITH DIAERESIS",
    "aSMALL LETTER BARRED O WITH DIAERESIS,aCAPITAL LETTER E WITH DIAERESIS",
    "aSMALL LETTER E WITH DIAERESIS,aCAPITAL LETTER U WITH MACRON,aSMALL LETTER U WITH MACRON",
    "aCAPITAL LETTER U WITH DIAERESIS,aSMALL LETTER U WITH DIAERESIS",
    "aCAPITAL LETTER U WITH DOUBLE ACUTE,aSMALL LETTER U WITH DOUBLE ACUTE",
    "aCAPITAL LETTER CHE WITH DIAERESIS,aSMALL LETTER CHE WITH DIAERESIS",
    "aCAPITAL LETTER GHE WITH DESCENDER,aSMALL LETTER GHE WITH DESCENDER",
    "aCAPITAL LETTER YERU WITH DIAERESIS,aSMALL LETTER YERU WITH DIAERESIS",
    "aCAPITAL LETTER GHE WITH STROKE AND HOOK,aSMALL LETTER GHE WITH STROKE AND HOOK",
    "aCAPITAL LETTER HA WITH HOOK,aSMALL LETTER HA WITH HOOK,aCAPITAL LETTER HA WITH STROKE",
    "aSMALL LETTER HA WITH STROKE,aCAPITAL LETTER KOMI DE,aSMALL LETTER KOMI DE",
    "aCAPITAL LETTER KOMI DJE,aSMALL LETTER KOMI DJE,aCAPITAL LETTER KOMI ZJE",
    "aSMALL LETTER KOMI ZJE,aCAPITAL LETTER KOMI DZJE,aSMALL LETTER KOMI DZJE",
    "aCAPITAL LETTER KOMI LJE,aSMALL LETTER KOMI LJE,aCAPITAL LETTER KOMI NJE",
    "aSMALL LETTER KOMI NJE,aCAPITAL LETTER KOMI SJE,aSMALL LETTER KOMI SJE",
    "aCAPITAL LETTER KOMI TJE,aSMALL LETTER KOMI TJE,aCAPITAL LETTER REVERSED ZE",
    "aSMALL LETTER REVERSED ZE,aCAPITAL LETTER EL WITH HOOK,aSMALL LETTER EL WITH HOOK",
    "aCAPITAL LETTER LHA,aSMALL LETTER LHA,aCAPITAL LETTER RHA,aSMALL LETTER RHA",
    "aCAPITAL LETTER YAE,aSMALL LETTER YAE,aCAPITAL LETTER QA,aSMALL LETTER QA",
    "aCAPITAL LETTER WE,aSMALL LETTER WE,aCAPITAL LETTER ALEUT KA,aSMALL LETTER ALEUT KA",
    "aCAPITAL LETTER EL WITH MIDDLE HOOK,aSMALL LETTER EL WITH MIDDLE HOOK",
    "aCAPITAL LETTER EN WITH MIDDLE HOOK,aSMALL LETTER EN WITH MIDDLE HOOK",
    "aCAPITAL LETTER PE WITH DESCENDER,aSMALL LETTER PE WITH DESCENDER",
    "aCAPITAL LETTER SHHA WITH DESCENDER,aSMALL LETTER SHHA WITH DESCENDER",
    "aCAPITAL LETTER EN WITH LEFT HOOK,aSMALL LETTER EN WITH LEFT HOOK,aCAPITAL LETTER DZZHE",
    "aSMALL LETTER DZZHE,aCAPITAL LETTER DCHE,aSMALL LETTER DCHE",
    "aCAPITAL LETTER EL WITH DESCENDER,aSMALL LETTER EL WITH DESCENDER,5968cROUNDED VE",
    "cLONG-LEGGED DE,cNARROW O,cWIDE ES,cTALL TE,cTHREE-LEGGED TE,cTALL HARD SIGN,dYAT",
    "cUNBLENDED UK,162aLETTER SMALL CAPITAL EL,35092aCAPITAL LETTER ZEMLYA",
    "aSMALL LETTER ZEMLYA,aCAPITAL LETTER DZELO,aSMALL LETTER DZELO",
    "aCAPITAL LETTER REVERSED DZE,aSMALL LETTER REVERSED DZE,aCAPITAL LETTER IOTA",
    "aSMALL LETTER IOTA,aCAPITAL LETTER DJERV,aSMALL LETTER DJERV,aCAPITAL LETTER MONOGRAPH UK",
    "aSMALL LETTER MONOGRAPH UK,aCAPITAL LETTER BROAD OMEGA,aSMALL LETTER BROAD OMEGA",
    "aCAPITAL LETTER NEUTRAL YER,aSMALL LETTER NEUTRAL YER,aCAPITAL LETTER YERU WITH BACK YER",
    "aSMALL LETTER YERU WITH BACK YER,aCAPITAL LETTER IOTIFIED YAT,aSMALL LETTER IOTIFIED YAT",
    "aCAPITAL LETTER REVERSED YU,aSMALL LETTER REVERSED YU,aCAPITAL LETTER IOTIFIED A",
    "aSMALL LETTER IOTIFIED A,aCAPITAL LETTER CLOSED LITTLE YUS",
    "aSMALL LETTER CLOSED LITTLE YUS,aCAPITAL LETTER BLENDED YUS,aSMALL LETTER BLENDED YUS",
    "aCAPITAL LETTER IOTIFIED CLOSED LITTLE YUS,aSMALL LETTER IOTIFIED CLOSED LITTLE YUS",
    "aCAPITAL LETTER YN,aSMALL LETTER YN,aCAPITAL LETTER REVERSED TSE",
    "aSMALL LETTER REVERSED TSE,aCAPITAL LETTER SOFT DE,aSMALL LETTER SOFT DE",
    "aCAPITAL LETTER SOFT EL,aSMALL LETTER SOFT EL,aCAPITAL LETTER SOFT EM",
    "aSMALL LETTER SOFT EM,aCAPITAL LETTER MONOCULAR O,aSMALL LETTER MONOCULAR O",
    "aCAPITAL LETTER BINOCULAR O,aSMALL LETTER BINOCULAR O,aCAPITAL LETTER DOUBLE MONOCULAR O",
    "aSMALL LETTER DOUBLE MONOCULAR O,aLETTER MULTIOCULAR O,15aKAVYKA,aPAYEROK",
    "aCAPITAL LETTER DWE,aSMALL LETTER DWE,aCAPITAL LETTER DZWE,aSMALL LETTER DZWE",
    "aCAPITAL LETTER ZHWE,aSMALL LETTER ZHWE,aCAPITAL LETTER CCHE,aSMALL LETTER CCHE",
    "aCAPITAL LETTER DZZE,aSMALL LETTER DZZE,aCAPITAL LETTER TE WITH MIDDLE HOOK",
    "aSMALL LETTER TE WITH MIDDLE HOOK,aCAPITAL LETTER TWE,aSMALL LETTER TWE",
    "aCAPITAL LETTER TSWE,aSMALL LETTER TSWE,aCAPITAL LETTER TSSE,aSMALL LETTER TSSE",
    "aCAPITAL LETTER TCHE,aSMALL LETTER TCHE,aCAPITAL LETTER HWE,aSMALL LETTER HWE",
    "aCAPITAL LETTER SHWE,aSMALL LETTER SHWE,aCAPITAL LETTER DOUBLE O,aSMALL LETTER DOUBLE O",
    "aCAPITAL LETTER CROSSED O,aSMALL LETTER CROSSED O"]⟩]

end Phrasebook.CharName
