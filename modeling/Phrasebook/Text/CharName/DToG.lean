import Phrasebook.Text.CharName.Group

/-!
Names of characters that begin with the letters from D to G, by the tables of Unicode 14.
-/

namespace Phrasebook.CharName

/-- The names that begin with D. -/
def namesD : List NameGroup := [
  ⟨"DAGGER", ["8224a,3605aWITH LEFT GUARD,bRIGHT GUARD,116649aKNIFE"]⟩,
  ⟨"DASHED", ["10143aTRIANGLE-HEADED RIGHTWARDS ARROW,54953aOVERLINE,3aLOW LINE"]⟩,
  ⟨"DEGREE", ["176aSIGN,8274aCELSIUS,5aFAHRENHEIT"]⟩,
  ⟨"DENTISTRY", [
    "9150aSYMBOL LIGHT VERTICAL AND TOP RIGHT,eBOTTOM RIGHT,dWITH CIRCLE",
    "cDOWN AND HORIZONTAL WITH CIRCLE,cUP AND HORIZONTAL WITH CIRCLE,cVERTICAL WITH TRIANGLE",
    "cDOWN AND HORIZONTAL WITH TRIANGLE,cUP AND HORIZONTAL WITH TRIANGLE,cVERTICAL AND WAVE",
    "cDOWN AND HORIZONTAL WITH WAVE,cUP AND HORIZONTAL WITH WAVE,cDOWN AND HORIZONTAL",
    "cUP AND HORIZONTAL,cVERTICAL AND TOP LEFT,eBOTTOM LEFT"]⟩,
  ⟨"DESERET", [
    "66560aCAPITAL LETTER LONG I,dE,dA,dAH,dO,dOO,cSHORT I,dE,dA,dAH,dO,dOO,cAY,cOW,cWU,cYEE",
    "cH,cPEE,cBEE,cTEE,cDEE,cCHEE,cJEE,cKAY,cGAY,cEF,cVEE,cETH,cTHEE,cES,cZEE,cESH,cZHEE,cER",
    "cEL,cEM,cEN,cENG,cOI,cEW,aSMALL LETTER LONG I,dE,dA,dAH,dO,dOO,cSHORT I,dE,dA,dAH,dO,dOO",
    "cAY,cOW,cWU,cYEE,cH,cPEE,cBEE,cTEE,cDEE,cCHEE,cJEE,cKAY,cGAY,cEF,cVEE,cETH,cTHEE,cES,cZEE",
    "cESH,cZHEE,cER,cEL,cEM,cEN,cENG,cOI,cEW"]⟩,
  ⟨"DEVANAGARI", [
    "2304aSIGN INVERTED CANDRABINDU,bCANDRABINDU,bANUSVARA,bVISARGA,aLETTER SHORT A,bA,bAA,bI",
    "bII,bU,bUU,bVOCALIC R,cL,bCANDRA E,bSHORT E,bE,bAI,bCANDRA O,bSHORT O,bO,bAU,bKA,bKHA,bGA",
    "bGHA,bNGA,bCA,bCHA,bJA,bJHA,bNYA,bTTA,bTTHA,bDDA,bDDHA,bNNA,bTA,bTHA,bDA,bDHA,bNA,bNNNA",
    "bPA,bPHA,bBA,bBHA,bMA,bYA,bRA,bRRA,bLA,bLLA,bLLLA,bVA,bSHA,bSSA,bSA,bHA,aVOWEL SIGN OE",
    "cOOE,aSIGN NUKTA,bAVAGRAHA,aVOWEL SIGN AA,cI,cII,cU,cUU,cVOCALIC R,dRR,cCANDRA E,cSHORT E",
    "cE,cAI,cCANDRA O,cSHORT O,cO,cAU,aSIGN VIRAMA,aVOWEL SIGN PRISHTHAMATRA E,cAW,aOM",
    "aSTRESS SIGN UDATTA,cANUDATTA,aGRAVE ACCENT,aACUTE ACCENT,aVOWEL SIGN CANDRA LONG E,cUE",
    "cUUE,aLETTER QA,bKHHA,bGHHA,bZA,bDDDHA,bRHA,bFA,bYYA,bVOCALIC RR,cLL",
    "aVOWEL SIGN VOCALIC L,dLL,aDANDA,aDOUBLE DANDA,aDIGIT ZERO,bONE,bTWO,bTHREE,bFOUR,bFIVE",
    "bSIX,bSEVEN,bEIGHT,bNINE,aABBREVIATION SIGN,aSIGN HIGH SPACING DOT,aLETTER CANDRA A,bOE",
    "bOOE,bAW,bUE,bUUE,bMARWARI DDA,bZHA,bHEAVY YA,bGGA,bJJA,bGLOTTAL STOP,bDDDA,bBBA",
    "40818aSIGN SPACING CANDRABINDU,bCANDRABINDU VIRAMA,bDOUBLE CANDRABINDU VIRAMA",
    "bCANDRABINDU TWO,cTHREE,cAVAGRAHA,bPUSHPIKA,aGAP FILLER,aCARET,aHEADSTROKE,aSIGN SIDDHAM",
    "aJAIN OM,aLETTER AY,aVOWEL SIGN AY"]⟩,
  ⟨"DIAMOND", [
    "8900aOPERATOR,2129aWITH LEFT HALF BLACK,bRIGHT HALF BLACK,bTOP HALF BLACK",
    "bBOTTOM HALF BLACK,117126aSHAPE WITH A DOT INSIDE,763aTARGET"]⟩,
  ⟨"DIE", ["9856aFACE-1,aFACE-2,aFACE-3,aFACE-4,aFACE-5,aFACE-6"]⟩,
  ⟨"DIGIT", [
    "48aZERO,aONE,aTWO,aTHREE,aFOUR,aFIVE,aSIX,aSEVEN,aEIGHT,aNINE,9294aONE FULL STOP",
    "aTWO FULL STOP,aTHREE FULL STOP,aFOUR FULL STOP,aFIVE FULL STOP,aSIX FULL STOP",
    "aSEVEN FULL STOP,aEIGHT FULL STOP,aNINE FULL STOP,117871aZERO FULL STOP,bCOMMA,aONE COMMA",
    "aTWO COMMA,aTHREE COMMA,aFOUR COMMA,aFIVE COMMA,aSIX COMMA,aSEVEN COMMA,aEIGHT COMMA",
    "aNINE COMMA"]⟩,
  ⟨"DIGRAM", [
    "9868aFOR GREATER YANG,bLESSER YIN,cYANG,bGREATER YIN,109681bHEAVENLY EARTH,bHUMAN EARTH",
    "bEARTHLY HEAVEN,cHUMAN,bEARTH"]⟩,
  ⟨"DINGBAT", [
    "10102aNEGATIVE CIRCLED DIGIT ONE,dTWO,dTHREE,dFOUR,dFIVE,dSIX,dSEVEN,dEIGHT,dNINE",
    "cNUMBER TEN,aCIRCLED SANS-SERIF DIGIT ONE,dTWO,dTHREE,dFOUR,dFIVE,dSIX,dSEVEN,dEIGHT",
    "dNINE,cNUMBER TEN,aNEGATIVE CIRCLED SANS-SERIF DIGIT ONE,eTWO,eTHREE,eFOUR,eFIVE,eSIX",
    "eSEVEN,eEIGHT,eNINE,dNUMBER TEN,117111aCIRCLED SANS-SERIF DIGIT ZERO",
    "aNEGATIVE CIRCLED SANS-SERIF DIGIT ZERO"]⟩,
  ⟨"DIVES", [
    "71936aAKURU LETTER A,cAA,cI,cII,cU,cUU,cE,2cO,2cKA,cKHA,cGA,cGHA,cNGA,cCA,cCHA,cJA,1cNYA",
    "cTTA,1cDDA,cDDHA,cNNA,cTA,cTHA,cDA,cDHA,cNA,cPA,cPHA,cBA,cBHA,cMA,cYA,cYYA,cRA,cLA,cVA",
    "cSHA,cSSA,cSA,cHA,cLLA,cZA,bVOWEL SIGN AA,dI,dII,dU,dUU,dE,1dAI,dO,2bSIGN ANUSVARA",
    "cCANDRABINDU,cHALANTA,bVIRAMA,bPREFIXED NASAL SIGN,bMEDIAL YA,bINITIAL RA,bMEDIAL RA",
    "bSIGN NUKTA,bDOUBLE DANDA,bGAP FILLER,bEND OF TEXT MARK,9bDIGIT ZERO,cONE,cTWO,cTHREE",
    "cFOUR,cFIVE,cSIX,cSEVEN,cEIGHT,cNINE"]⟩,
  ⟨"DIVISION", ["247aSIGN,8477aSLASH,177aTIMES"]⟩,
  ⟨"DOCUMENT", ["128441aWITH TEXT,cAND PICTURE,bPICTURE,18a"]⟩,
  ⟨"DOES", [
    "8716aNOT CONTAIN AS MEMBER,23bDIVIDE,91bPRECEDE,bSUCCEED,42bPROVE,1bFORCE",
    "49bPRECEDE OR EQUAL,bSUCCEED OR EQUAL,9bCONTAIN AS NORMAL SUBGROUP,1fOR EQUAL",
    "2048bDIVIDE WITH REVERSED NEGATION SLASH"]⟩,
  ⟨"DOGRA", [
    "71680aLETTER A,bAA,bI,bII,bU,bUU,bE,bAI,bO,bAU,bKA,bKHA,bGA,bGHA,bNGA,bCA,bCHA,bJA,bJHA",
    "bNYA,bTTA,bTTHA,bDDA,bDDHA,bNNA,bTA,bTHA,bDA,bDHA,bNA,bPA,bPHA,bBA,bBHA,bMA,bYA,bRA,bLA",
    "bVA,bSHA,bSSA,bSA,bHA,bRRA,aVOWEL SIGN AA,cI,cII,cU,cUU,cVOCALIC R,dRR,cE,cAI,cO,cAU",
    "aSIGN ANUSVARA,bVISARGA,bVIRAMA,bNUKTA,aABBREVIATION SIGN"]⟩,
  ⟨"DOMINO", [
    "127024aTILE HORIZONTAL BACK,bHORIZONTAL-00-00,bHORIZONTAL-00-01,bHORIZONTAL-00-02",
    "bHORIZONTAL-00-03,bHORIZONTAL-00-04,bHORIZONTAL-00-05,bHORIZONTAL-00-06,bHORIZONTAL-01-00",
    "bHORIZONTAL-01-01,bHORIZONTAL-01-02,bHORIZONTAL-01-03,bHORIZONTAL-01-04,bHORIZONTAL-01-05",
    "bHORIZONTAL-01-06,bHORIZONTAL-02-00,bHORIZONTAL-02-01,bHORIZONTAL-02-02,bHORIZONTAL-02-03",
    "bHORIZONTAL-02-04,bHORIZONTAL-02-05,bHORIZONTAL-02-06,bHORIZONTAL-03-00,bHORIZONTAL-03-01",
    "bHORIZONTAL-03-02,bHORIZONTAL-03-03,bHORIZONTAL-03-04,bHORIZONTAL-03-05,bHORIZONTAL-03-06",
    "bHORIZONTAL-04-00,bHORIZONTAL-04-01,bHORIZONTAL-04-02,bHORIZONTAL-04-03,bHORIZONTAL-04-04",
    "bHORIZONTAL-04-05,bHORIZONTAL-04-06,bHORIZONTAL-05-00,bHORIZONTAL-05-01,bHORIZONTAL-05-02",
    "bHORIZONTAL-05-03,bHORIZONTAL-05-04,bHORIZONTAL-05-05,bHORIZONTAL-05-06,bHORIZONTAL-06-00",
    "bHORIZONTAL-06-01,bHORIZONTAL-06-02,bHORIZONTAL-06-03,bHORIZONTAL-06-04,bHORIZONTAL-06-05",
    "bHORIZONTAL-06-06,bVERTICAL BACK,bVERTICAL-00-00,bVERTICAL-00-01,bVERTICAL-00-02",
    "bVERTICAL-00-03,bVERTICAL-00-04,bVERTICAL-00-05,bVERTICAL-00-06,bVERTICAL-01-00",
    "bVERTICAL-01-01,bVERTICAL-01-02,bVERTICAL-01-03,bVERTICAL-01-04,bVERTICAL-01-05",
    "bVERTICAL-01-06,bVERTICAL-02-00,bVERTICAL-02-01,bVERTICAL-02-02,bVERTICAL-02-03",
    "bVERTICAL-02-04,bVERTICAL-02-05,bVERTICAL-02-06,bVERTICAL-03-00,bVERTICAL-03-01",
    "bVERTICAL-03-02,bVERTICAL-03-03,bVERTICAL-03-04,bVERTICAL-03-05,bVERTICAL-03-06",
    "bVERTICAL-04-00,bVERTICAL-04-01,bVERTICAL-04-02,bVERTICAL-04-03,bVERTICAL-04-04",
    "bVERTICAL-04-05,bVERTICAL-04-06,bVERTICAL-05-00,bVERTICAL-05-01,bVERTICAL-05-02",
    "bVERTICAL-05-03,bVERTICAL-05-04,bVERTICAL-05-05,bVERTICAL-05-06,bVERTICAL-06-00",
    "bVERTICAL-06-01,bVERTICAL-06-02,bVERTICAL-06-03,bVERTICAL-06-04,bVERTICAL-06-05",
    "bVERTICAL-06-06"]⟩,
  ⟨"DOT", ["729aABOVE,7994aPLUS,35aMINUS,140aOPERATOR"]⟩,
  ⟨"DOTTED", [
    "8284aCROSS,1391aCIRCLE,972aFENCE,384aSQUARE,749aTRANSPOSITION MARKER,10aOBELOS",
    "2aRIGHT-POINTING ANGLE,51aSOLIDUS,117914aLINE FACE"]⟩,
  ⟨"DOUBLE", [
    "733aACUTE ACCENT,7480aVERTICAL LINE,aLOW LINE,6aLOW-9 QUOTATION MARK",
    "aHIGH-REVERSED-9 QUOTATION MARK,1aDAGGER,17aPRIME,8aEXCLAMATION MARK,10aQUESTION MARK",
    "484aINTEGRAL,126aVERTICAL BAR DOUBLE RIGHT TURNSTILE,36aSUBSET,aSUPERSET,aINTERSECTION",
    "aUNION,292aVERTICAL BAR,252aCIRCLED DIGIT ONE,cTWO,cTHREE,cFOUR,cFIVE,cSIX,cSEVEN,cEIGHT",
    "cNINE,bNUMBER TEN,704aCURLY LOOP,469aLEFT ARC GREATER-THAN BRACKET",
    "aRIGHT ARC LESS-THAN BRACKET,99aPLUS,83aSQUARE INTERSECTION,bUNION,3aLOGICAL AND,bOR",
    "31aCOLON EQUAL,44aNESTED LESS-THAN,bGREATER-THAN,bLESS-THAN WITH UNDERBAR,23aPRECEDES",
    "aSUCCEEDS,38aVERTICAL BAR LEFT TURNSTILE,1cDOUBLE LEFT TURNSTILE,4aDOWN TACK,aUP TACK",
    "aSTROKE NOT SIGN,16aSOLIDUS OPERATOR,793aOBLIQUE HYPHEN,40aHYPHEN",
    "1aLOW-REVERSED-9 QUOTATION MARK,1aSUSPENSION MARK,4aSTACKED COMMA",
    "468aPRIME QUOTATION MARK,52781aWAVY OVERLINE"]⟩,
  ⟨"DOUBLE-LINE", [
    "10905aEQUAL TO OR LESS-THAN,dGREATER-THAN,aSLANTED EQUAL TO OR LESS-THAN,eGREATER-THAN",
    "92bLESS-THAN OR EQUAL TO,bGREATER-THAN OR EQUAL TO"]⟩,
  ⟨"DOUBLE-STRUCK", [
    "8450aCAPITAL C,10bH,7bN,3bP,bQ,2bR,6bZ,23aSMALL PI,bGAMMA,aCAPITAL GAMMA,bPI",
    "aN-ARY SUMMATION,4aITALIC CAPITAL D,bSMALL D,cE,cI,cJ"]⟩,
  ⟨"DOUBLED", ["9890aFEMALE SIGN,aMALE SIGN,1368aSYMBOL"]⟩,
  ⟨"DOWN", [
    "8868aTACK,76aRIGHT DIAGONAL ELLIPSIS,18aARROWHEAD,1658aFISH TAIL",
    "369aTACK WITH CIRCLE BELOW"]⟩,
  ⟨"DOWN-POINTING", [
    "10728aTRIANGLE WITH LEFT HALF BLACK,cRIGHT HALF BLACK,117585aRED TRIANGLE",
    "1aSMALL RED TRIANGLE"]⟩,
  ⟨"DOWNWARD", ["129288aFACING HOOK,bNOTCHED HOOK,bHOOK WITH DOT,bNOTCHED HOOK WITH DOT"]⟩,
  ⟨"DOWNWARDS", [
    "8595aARROW,13aTWO HEADED ARROW,5aARROW FROM BAR,7aZIGZAG ARROW,2aARROW WITH TIP LEFTWARDS",
    "dRIGHTWARDS,1cCORNER LEFTWARDS,12aHARPOON WITH BARB RIGHTWARDS,dLEFTWARDS,6aPAIRED ARROWS",
    "8aDOUBLE ARROW,11aARROW WITH DOUBLE STROKE,3aDASHED ARROW,5aWHITE ARROW",
    "11aARROW LEFTWARDS OF UPWARDS ARROW,1531aQUADRUPLE ARROW,278aARROW WITH HORIZONTAL STROKE",
    "2aTRIPLE ARROW,7aARROW TO BAR,65aHARPOON WITH BARB RIGHT TO BAR,3dLEFT TO BAR",
    "3dRIGHT FROM BAR,3dLEFT FROM BAR,3eBESIDE DOWNWARDS HARPOON WITH BARB RIGHT",
    "9fUPWARDS HARPOON WITH BARB RIGHT,407aBLACK ARROW,69aTRIANGLE-HEADED ZIGZAG ARROW",
    "21bARROW,9bDASHED ARROW,5bARROW TO BAR,9cWITH DOUBLE HORIZONTAL STROKE",
    "5cLEFTWARDS OF UPWARDS TRIANGLE-HEADED ARROW,3bPAIRED ARROWS,3aBLACK CIRCLED WHITE ARROW",
    "20aTRIANGLE-HEADED ARROW WITH LONG TIP LEFTWARDS,fRIGHTWARDS",
    "77aTWO-HEADED ARROW WITH TRIANGLE ARROWHEADS,548aANCORA,116826aROCKET",
    "403aARROW WITH SMALL TRIANGLE ARROWHEAD,3cMEDIUM TRIANGLE ARROWHEAD",
    "3cLARGE TRIANGLE ARROWHEAD,7cSMALL EQUILATERAL ARROWHEAD,3cEQUILATERAL ARROWHEAD",
    "11aTRIANGLE-HEADED ARROW WITH NARROW SHAFT,3dMEDIUM SHAFT,3dBOLD SHAFT,3dHEAVY SHAFT",
    "3dVERY HEAVY SHAFT,3aFINGER-POST ARROW,3aSQUARED ARROW,3aCOMPRESSED ARROW",
    "3aHEAVY COMPRESSED ARROW,3bARROW,11aSANS-SERIF ARROW,63aTRIANGLE ARROWHEAD",
    "3aWHITE ARROW WITHIN TRIANGLE ARROWHEAD,3aARROW WITH NOTCHED TAIL",
    "795bAND RIGHT ONE EIGHTH BLOCK"]⟩,
  ⟨"DUPLOYAN", [
    "113664aLETTER H,bX,bP,bT,bF,bK,bL,bB,bD,bV,bG,bR,bP N,bD S,bF N,bK M,bR S,bTH,bSLOAN DH",
    "bDH,bKK,bSLOAN J,bHL,bLH,bRH,bM,bN,bJ,bS,bM N,bN M,bJ M,bS J,bM WITH DOT,bN WITH DOT",
    "bJ WITH DOT,dDOTS INSIDE AND ABOVE,bS WITH DOT,eBELOW,bM S,bN S,bJ S,bS S,bM N S,bN M S",
    "bJ M S,bS J S,bJ S WITH DOT,cN,dS,bS T,dR,cP,dR,bT S,cR S,bW,bWH,bW R,bS N,cM,bK R S",
    "bG R S,bS K,dR,bA,bSLOAN OW,bOA,bO,bAOU,bI,bE,bIE,bSHORT I,bUI,bEE,bSLOAN EH,bROMANIAN I",
    "bSLOAN EE,bLONG I,bYE,bU,bEU,bXW,bU N,bLONG U,bROMANIAN U,bUH,bSLOAN U,bOOH,bOW,bOU,bWA",
    "bWO,bWI,bWEI,bWOW,bNASAL U,cO,cI,cA,bPERNIN AN,cAM,bSLOAN EN,cAN,cON,bVOCALIC M",
    "5aAFFIX LEFT HORIZONTAL SECANT,bMID HORIZONTAL SECANT,bRIGHT HORIZONTAL SECANT",
    "bLOW VERTICAL SECANT,bMID VERTICAL SECANT,bHIGH VERTICAL SECANT,bATTACHED SECANT",
    "cLEFT-TO-RIGHT SECANT,cTANGENT,cTAIL,cE HOOK,cI HOOK,cTANGENT HOOK,3bHIGH ACUTE",
    "cTIGHT ACUTE,cGRAVE,cLONG GRAVE,cDOT,cCIRCLE,cLINE,cWAVE,cVERTICAL,7bLOW ACUTE",
    "cTIGHT ACUTE,cGRAVE,cLONG GRAVE,cDOT,cCIRCLE,cLINE,cWAVE,cVERTICAL,cARROW",
    "2aSIGN O WITH CROSS,aTHICK LETTER SELECTOR,aDOUBLE MARK,aPUNCTUATION CHINOOK FULL STOP"]⟩]

/-- The names that begin with E. -/
def namesE : List NameGroup := [
  ⟨"EAR", ["127805aOF MAIZE,bRICE,259a,1400aWITH HEARING AID"]⟩,
  ⟨"EARTH", ["9178aGROUND,614a,117963aGLOBE EUROPE-AFRICA,bAMERICAS,bASIA-AUSTRALIA"]⟩,
  ⟨"EGYPTIAN", [
    "77824aHIEROGLYPH A001,bA002,bA003,bA004,bA005,bA005A,bA006,bA006A,bA006B,bA007,bA008",
    "bA009,bA010,bA011,bA012,bA013,bA014,bA014A,bA015,bA016,bA017,bA017A,bA018,bA019,bA020",
    "bA021,bA022,bA023,bA024,bA025,bA026,bA027,bA028,bA029,bA030,bA031,bA032,bA032A,bA033",
    "bA034,bA035,bA036,bA037,bA038,bA039,bA040,bA040A,bA041,bA042,bA042A,bA043,bA043A,bA044",
    "bA045,bA045A,bA046,bA047,bA048,bA049,bA050,bA051,bA052,bA053,bA054,bA055,bA056,bA057",
    "bA058,bA059,bA060,bA061,bA062,bA063,bA064,bA065,bA066,bA067,bA068,bA069,bA070,bB001,bB002",
    "bB003,bB004,bB005,bB005A,bB006,bB007,bB008,bB009,bC001,bC002,bC002A,bC002B,bC002C,bC003",
    "bC004,bC005,bC006,bC007,bC008,bC009,bC010,bC010A,bC011,bC012,bC013,bC014,bC015,bC016",
    "bC017,bC018,bC019,bC020,bC021,bC022,bC023,bC024,bD001,bD002,bD003,bD004,bD005,bD006,bD007",
    "bD008,bD008A,bD009,bD010,bD011,bD012,bD013,bD014,bD015,bD016,bD017,bD018,bD019,bD020",
    "bD021,bD022,bD023,bD024,bD025,bD026,bD027,bD027A,bD028,bD029,bD030,bD031,bD031A,bD032",
    "bD033,bD034,bD034A,bD035,bD036,bD037,bD038,bD039,bD040,bD041,bD042,bD043,bD044,bD045",
    "bD046,bD046A,bD047,bD048,bD048A,bD049,bD050,bD050A,bD050B,bD050C,bD050D,bD050E,bD050F",
    "bD050G,bD050H,bD050I,bD051,bD052,bD052A,bD053,bD054,bD054A,bD055,bD056,bD057,bD058,bD059",
    "bD060,bD061,bD062,bD063,bD064,bD065,bD066,bD067,bD067A,bD067B,bD067C,bD067D,bD067E,bD067F",
    "bD067G,bD067H,bE001,bE002,bE003,bE004,bE005,bE006,bE007,bE008,bE008A,bE009,bE009A,bE010",
    "bE011,bE012,bE013,bE014,bE015,bE016,bE016A,bE017,bE017A,bE018,bE019,bE020,bE020A,bE021",
    "bE022,bE023,bE024,bE025,bE026,bE027,bE028,bE028A,bE029,bE030,bE031,bE032,bE033,bE034",
    "bE034A,bE036,bE037,bE038,bF001,bF001A,bF002,bF003,bF004,bF005,bF006,bF007,bF008,bF009",
    "bF010,bF011,bF012,bF013,bF013A,bF014,bF015,bF016,bF017,bF018,bF019,bF020,bF021,bF021A",
    "bF022,bF023,bF024,bF025,bF026,bF027,bF028,bF029,bF030,bF031,bF031A,bF032,bF033,bF034",
    "bF035,bF036,bF037,bF037A,bF038,bF038A,bF039,bF040,bF041,bF042,bF043,bF044,bF045,bF045A",
    "bF046,bF046A,bF047,bF047A,bF048,bF049,bF050,bF051,bF051A,bF051B,bF051C,bF052,bF053,bG001",
    "bG002,bG003,bG004,bG005,bG006,bG006A,bG007,bG007A,bG007B,bG008,bG009,bG010,bG011,bG011A",
    "bG012,bG013,bG014,bG015,bG016,bG017,bG018,bG019,bG020,bG020A,bG021,bG022,bG023,bG024",
    "bG025,bG026,bG026A,bG027,bG028,bG029,bG030,bG031,bG032,bG033,bG034,bG035,bG036,bG036A",
    "bG037,bG037A,bG038,bG039,bG040,bG041,bG042,bG043,bG043A,bG044,bG045,bG045A,bG046,bG047",
    "bG048,bG049,bG050,bG051,bG052,bG053,bG054,bH001,bH002,bH003,bH004,bH005,bH006,bH006A",
    "bH007,bH008,bI001,bI002,bI003,bI004,bI005,bI005A,bI006,bI007,bI008,bI009,bI009A,bI010",
    "bI010A,bI011,bI011A,bI012,bI013,bI014,bI015,bK001,bK002,bK003,bK004,bK005,bK006,bK007",
    "bK008,bL001,bL002,bL002A,bL003,bL004,bL005,bL006,bL006A,bL007,bL008,bM001,bM001A,bM001B",
    "bM002,bM003,bM003A,bM004,bM005,bM006,bM007,bM008,bM009,bM010,bM010A,bM011,bM012,bM012A",
    "bM012B,bM012C,bM012D,bM012E,bM012F,bM012G,bM012H,bM013,bM014,bM015,bM015A,bM016,bM016A",
    "bM017,bM017A,bM018,bM019,bM020,bM021,bM022,bM022A,bM023,bM024,bM024A,bM025,bM026,bM027",
    "bM028,bM028A,bM029,bM030,bM031,bM031A,bM032,bM033,bM033A,bM033B,bM034,bM035,bM036,bM037",
    "bM038,bM039,bM040,bM040A,bM041,bM042,bM043,bM044,bN001,bN002,bN003,bN004,bN005,bN006",
    "bN007,bN008,bN009,bN010,bN011,bN012,bN013,bN014,bN015,bN016,bN017,bN018,bN018A,bN018B",
    "bN019,bN020,bN021,bN022,bN023,bN024,bN025,bN025A,bN026,bN027,bN028,bN029,bN030,bN031",
    "bN032,bN033,bN033A,bN034,bN034A,bN035,bN035A,bN036,bN037,bN037A,bN038,bN039,bN040,bN041",
    "bN042,bNL001,bNL002,bNL003,bNL004,bNL005,bNL005A,bNL006,bNL007,bNL008,bNL009,bNL010",
    "bNL011,bNL012,bNL013,bNL014,bNL015,bNL016,bNL017,bNL017A,bNL018,bNL019,bNL020,bNU001",
    "bNU002,bNU003,bNU004,bNU005,bNU006,bNU007,bNU008,bNU009,bNU010,bNU010A,bNU011,bNU011A",
    "bNU012,bNU013,bNU014,bNU015,bNU016,bNU017,bNU018,bNU018A,bNU019,bNU020,bNU021,bNU022",
    "bNU022A,bO001,bO001A,bO002,bO003,bO004,bO005,bO005A,bO006,bO006A,bO006B,bO006C,bO006D",
    "bO006E,bO006F,bO007,bO008,bO009,bO010,bO010A,bO010B,bO010C,bO011,bO012,bO013,bO014,bO015",
    "bO016,bO017,bO018,bO019,bO019A,bO020,bO020A,bO021,bO022,bO023,bO024,bO024A,bO025,bO025A",
    "bO026,bO027,bO028,bO029,bO029A,bO030,bO030A,bO031,bO032,bO033,bO033A,bO034,bO035,bO036",
    "bO036A,bO036B,bO036C,bO036D,bO037,bO038,bO039,bO040,bO041,bO042,bO043,bO044,bO045,bO046",
    "bO047,bO048,bO049,bO050,bO050A,bO050B,bO051,bP001,bP001A,bP002,bP003,bP003A,bP004,bP005",
    "bP006,bP007,bP008,bP009,bP010,bP011,bQ001,bQ002,bQ003,bQ004,bQ005,bQ006,bQ007,bR001,bR002",
    "bR002A,bR003,bR003A,bR003B,bR004,bR005,bR006,bR007,bR008,bR009,bR010,bR010A,bR011,bR012",
    "bR013,bR014,bR015,bR016,bR016A,bR017,bR018,bR019,bR020,bR021,bR022,bR023,bR024,bR025",
    "bR026,bR027,bR028,bR029,bS001,bS002,bS002A,bS003,bS004,bS005,bS006,bS006A,bS007,bS008",
    "bS009,bS010,bS011,bS012,bS013,bS014,bS014A,bS014B,bS015,bS016,bS017,bS017A,bS018,bS019",
    "bS020,bS021,bS022,bS023,bS024,bS025,bS026,bS026A,bS026B,bS027,bS028,bS029,bS030,bS031",
    "bS032,bS033,bS034,bS035,bS035A,bS036,bS037,bS038,bS039,bS040,bS041,bS042,bS043,bS044",
    "bS045,bS046,bT001,bT002,bT003,bT003A,bT004,bT005,bT006,bT007,bT007A,bT008,bT008A,bT009",
    "bT009A,bT010,bT011,bT011A,bT012,bT013,bT014,bT015,bT016,bT016A,bT017,bT018,bT019,bT020",
    "bT021,bT022,bT023,bT024,bT025,bT026,bT027,bT028,bT029,bT030,bT031,bT032,bT032A,bT033",
    "bT033A,bT034,bT035,bT036,bU001,bU002,bU003,bU004,bU005,bU006,bU006A,bU006B,bU007,bU008",
    "bU009,bU010,bU011,bU012,bU013,bU014,bU015,bU016,bU017,bU018,bU019,bU020,bU021,bU022,bU023",
    "bU023A,bU024,bU025,bU026,bU027,bU028,bU029,bU029A,bU030,bU031,bU032,bU032A,bU033,bU034",
    "bU035,bU036,bU037,bU038,bU039,bU040,bU041,bU042,bV001,bV001A,bV001B,bV001C,bV001D,bV001E",
    "bV001F,bV001G,bV001H,bV001I,bV002,bV002A,bV003,bV004,bV005,bV006,bV007,bV007A,bV007B",
    "bV008,bV009,bV010,bV011,bV011A,bV011B,bV011C,bV012,bV012A,bV012B,bV013,bV014,bV015,bV016",
    "bV017,bV018,bV019,bV020,bV020A,bV020B,bV020C,bV020D,bV020E,bV020F,bV020G,bV020H,bV020I",
    "bV020J,bV020K,bV020L,bV021,bV022,bV023,bV023A,bV024,bV025,bV026,bV027,bV028,bV028A,bV029",
    "bV029A,bV030,bV030A,bV031,bV031A,bV032,bV033,bV033A,bV034,bV035,bV036,bV037,bV037A,bV038",
    "bV039,bV040,bV040A,bW001,bW002,bW003,bW003A,bW004,bW005,bW006,bW007,bW008,bW009,bW009A",
    "bW010,bW010A,bW011,bW012,bW013,bW014,bW014A,bW015,bW016,bW017,bW017A,bW018,bW018A,bW019",
    "bW020,bW021,bW022,bW023,bW024,bW024A,bW025,bX001,bX002,bX003,bX004,bX004A,bX004B,bX005",
    "bX006,bX006A,bX007,bX008,bX008A,bY001,bY001A,bY002,bY003,bY004,bY005,bY006,bY007,bY008",
    "bZ001,bZ002,bZ002A,bZ002B,bZ002C,bZ002D,bZ003,bZ003A,bZ003B,bZ004,bZ004A,bZ005,bZ005A",
    "bZ006,bZ007,bZ008,bZ009,bZ010,bZ011,bZ012,bZ013,bZ014,bZ015,bZ015A,bZ015B,bZ015C,bZ015D",
    "bZ015E,bZ015F,bZ015G,bZ015H,bZ015I,bZ016,bZ016A,bZ016B,bZ016C,bZ016D,bZ016E,bZ016F,bZ016G",
    "bZ016H,bAA001,bAA002,bAA003,bAA004,bAA005,bAA006,bAA007,bAA007A,bAA007B,bAA008,bAA009",
    "bAA010,bAA011,bAA012,bAA013,bAA014,bAA015,bAA016,bAA017,bAA018,bAA019,bAA020,bAA021",
    "bAA022,bAA023,bAA024,bAA025,bAA026,bAA027,bAA028,bAA029,bAA030,bAA031,bAA032",
    "1bVERTICAL JOINER,bHORIZONTAL JOINER,bINSERT AT TOP START,dBOTTOM START,dTOP END",
    "dBOTTOM END,bOVERLAY MIDDLE,bBEGIN SEGMENT,bEND SEGMENT"]⟩,
  ⟨"EIGHT", [
    "10035aSPOKED ASTERISK,aPOINTED BLACK STAR,bPINWHEEL STAR,1bRECTILINEAR BLACK STAR",
    "9aPETALLED OUTLINED BLACK FLORETTE,8aTEARDROP-SPOKED PROPELLER ASTERISK"]⟩,
  ⟨"ELBASAN", [
    "66816aLETTER A,bBE,bCE,bCHE,bDE,bNDE,bDHE,bEI,bE,bFE,bGE,bGJE,bHE,bI,bJE,bKE,bLE,bLLE,bME",
    "bNE,bNA,bNJE,bO,bPE,bQE,bRE,bRRE,bSE,bSHE,bTE,bTHE,bU,bVE,bXE,bY,bZE,bZHE,bGHE,bGHAMMA",
    "bKHE"]⟩,
  ⟨"ELECTRIC", ["8961aARROW,119199aLIGHT BULB,106aPLUG,25aTORCH"]⟩,
  ⟨"ELEMENT", [
    "8712aOF,233bWITH LONG HORIZONTAL STROKE,cVERTICAL BAR AT END OF HORIZONTAL STROKE",
    "1cDOT ABOVE,cOVERBAR,1cUNDERBAR,cTWO HORIZONTAL STROKES,1240bOPENING UPWARDS",
    "774cDOWNWARDS"]⟩,
  ⟨"ELYMAIC", [
    "69600aLETTER ALEPH,bBETH,bGIMEL,bDALETH,bHE,bWAW,bZAYIN,bHETH,bTETH,bYODH,bKAPH,bLAMEDH",
    "bMEM,bNUN,bSAMEKH,bAYIN,bPE,bSADHE,bQOPH,bRESH,bSHIN,bTAW,aLIGATURE ZAYIN-YODH"]⟩,
  ⟨"EM", ["8193aQUAD,1aSPACE,16aDASH"]⟩,
  ⟨"EMOJI", [
    "127995aMODIFIER FITZPATRICK TYPE-1-2,cTYPE-3,cTYPE-4,cTYPE-5,cTYPE-6",
    "1456aCOMPONENT RED HAIR,bCURLY HAIR,bBALD,bWHITE HAIR"]⟩,
  ⟨"EMPTY", [
    "8709aSET,1963bWITH OVERBAR,cSMALL CIRCLE ABOVE,cRIGHT ARROW ABOVE,cLEFT ARROW ABOVE",
    "117776aNOTE,bPAGE,bPAD,3aDOCUMENT,aPAGE,aPAGES,1259aNEST"]⟩,
  ⟨"EN", ["8192aQUAD,1aSPACE,16aDASH"]⟩,
  ⟨"ENVELOPE", ["9993a,118239aWITH DOWNWARDS ARROW ABOVE,154bLIGHTNING"]⟩,
  ⟨"EQUAL", [
    "8797aTO BY DEFINITION,119aAND PARALLEL TO,6aTO OR LESS-THAN,cGREATER-THAN,cPRECEDES",
    "cSUCCEEDS"]⟩,
  ⟨"EQUALS", [
    "61aSIGN,8727aCOLON,1819aSIGN ABOVE RIGHTWARDS ARROW,113bAND SLANTED PARALLEL",
    "eWITH TILDE ABOVE,129bWITH DOT BELOW,7aWITH ASTERISK,2aSIGN ABOVE PLUS SIGN",
    "1cTILDE OPERATOR,3bWITH TWO DOTS ABOVE AND TWO DOTS BELOW,54cBUMPY ABOVE",
    "145bABOVE LEFTWARDS ARROW,184bWITH INFINITY BELOW"]⟩,
  ⟨"ERROR-BARRED", [
    "10734aWHITE SQUARE,aBLACK SQUARE,aWHITE DIAMOND,aBLACK DIAMOND,aWHITE CIRCLE",
    "aBLACK CIRCLE"]⟩,
  ⟨"ETHIOPIC", [
    "4608aSYLLABLE HA,bHU,bHI,bHAA,bHEE,bHE,bHO,bHOA,bLA,bLU,bLI,bLAA,bLEE,bLE,bLO,bLWA,bHHA",
    "bHHU,bHHI,bHHAA,bHHEE,bHHE,bHHO,bHHWA,bMA,bMU,bMI,bMAA,bMEE,bME,bMO,bMWA,bSZA,bSZU,bSZI",
    "bSZAA,bSZEE,bSZE,bSZO,bSZWA,bRA,bRU,bRI,bRAA,bREE,bRE,bRO,bRWA,bSA,bSU,bSI,bSAA,bSEE,bSE",
    "bSO,bSWA,bSHA,bSHU,bSHI,bSHAA,bSHEE,bSHE,bSHO,bSHWA,bQA,bQU,bQI,bQAA,bQEE,bQE,bQO,bQOA",
    "bQWA,1bQWI,bQWAA,bQWEE,bQWE,2bQHA,bQHU,bQHI,bQHAA,bQHEE,bQHE,bQHO,1bQHWA,1bQHWI,bQHWAA",
    "bQHWEE,bQHWE,2bBA,bBU,bBI,bBAA,bBEE,bBE,bBO,bBWA,bVA,bVU,bVI,bVAA,bVEE,bVE,bVO,bVWA,bTA",
    "bTU,bTI,bTAA,bTEE,bTE,bTO,bTWA,bCA,bCU,bCI,bCAA,bCEE,bCE,bCO,bCWA,bXA,bXU,bXI,bXAA,bXEE",
    "bXE,bXO,bXOA,bXWA,1bXWI,bXWAA,bXWEE,bXWE,2bNA,bNU,bNI,bNAA,bNEE,bNE,bNO,bNWA,bNYA,bNYU",
    "bNYI,bNYAA,bNYEE,bNYE,bNYO,bNYWA,bGLOTTAL A,cU,cI,cAA,cEE,cE,cO,cWA,bKA,bKU,bKI,bKAA,bKEE",
    "bKE,bKO,bKOA,bKWA,1bKWI,bKWAA,bKWEE,bKWE,2bKXA,bKXU,bKXI,bKXAA,bKXEE,bKXE,bKXO,1bKXWA",
    "1bKXWI,bKXWAA,bKXWEE,bKXWE,2bWA,bWU,bWI,bWAA,bWEE,bWE,bWO,bWOA,bPHARYNGEAL A,cU,cI,cAA",
    "cEE,cE,cO,1bZA,bZU,bZI,bZAA,bZEE,bZE,bZO,bZWA,bZHA,bZHU,bZHI,bZHAA,bZHEE,bZHE,bZHO,bZHWA",
    "bYA,bYU,bYI,bYAA,bYEE,bYE,bYO,bYOA,bDA,bDU,bDI,bDAA,bDEE,bDE,bDO,bDWA,bDDA,bDDU,bDDI",
    "bDDAA,bDDEE,bDDE,bDDO,bDDWA,bJA,bJU,bJI,bJAA,bJEE,bJE,bJO,bJWA,bGA,bGU,bGI,bGAA,bGEE,bGE",
    "bGO,bGOA,bGWA,1bGWI,bGWAA,bGWEE,bGWE,2bGGA,bGGU,bGGI,bGGAA,bGGEE,bGGE,bGGO,bGGWAA,bTHA",
    "bTHU,bTHI,bTHAA,bTHEE,bTHE,bTHO,bTHWA,bCHA,bCHU,bCHI,bCHAA,bCHEE,bCHE,bCHO,bCHWA,bPHA",
    "bPHU,bPHI,bPHAA,bPHEE,bPHE,bPHO,bPHWA,bTSA,bTSU,bTSI,bTSAA,bTSEE,bTSE,bTSO,bTSWA,bTZA",
    "bTZU,bTZI,bTZAA,bTZEE,bTZE,bTZO,bTZOA,bFA,bFU,bFI,bFAA,bFEE,bFE,bFO,bFWA,bPA,bPU,bPI,bPAA",
    "bPEE,bPE,bPO,bPWA,bRYA,bMYA,bFYA,2aCOMBINING GEMINATION AND VOWEL LENGTH MARK",
    "bVOWEL LENGTH MARK,bGEMINATION MARK,aSECTION MARK,aWORDSPACE,aFULL STOP,aCOMMA,aSEMICOLON",
    "aCOLON,aPREFACE COLON,aQUESTION MARK,aPARAGRAPH SEPARATOR,aDIGIT ONE,bTWO,bTHREE,bFOUR",
    "bFIVE,bSIX,bSEVEN,bEIGHT,bNINE,aNUMBER TEN,bTWENTY,bTHIRTY,bFORTY,bFIFTY,bSIXTY,bSEVENTY",
    "bEIGHTY,bNINETY,bHUNDRED,bTEN THOUSAND,3aSYLLABLE SEBATBEIT MWA,bMWI,bMWEE,bMWE",
    "bSEBATBEIT BWA,bBWI,bBWEE,bBWE,bSEBATBEIT FWA,bFWI,bFWEE,bFWE,bSEBATBEIT PWA,bPWI,bPWEE",
    "bPWE,aTONAL MARK YIZET,cDERET,cRIKRIK,cSHORT RIKRIK,cDIFAT,cKENAT,cCHIRET,cHIDET",
    "cDERET-HIDET,cKURT,6630aSYLLABLE LOA,bMOA,bROA,bSOA,bSHOA,bBOA,bTOA,bCOA,bNOA,bNYOA",
    "bGLOTTAL OA,bZOA,bDOA,bDDOA,bJOA,bTHOA,bCHOA,bPHOA,bPOA,bGGWA,bGGWI,bGGWEE,bGGWE,9bSSA",
    "bSSU,bSSI,bSSAA,bSSEE,bSSE,bSSO,1bCCA,bCCU,bCCI,bCCAA,bCCEE,bCCE,bCCO,1bZZA,bZZU,bZZI",
    "bZZAA,bZZEE,bZZE,bZZO,1bCCHA,bCCHU,bCCHI,bCCHAA,bCCHEE,bCCHE,bCCHO,1bQYA,bQYU,bQYI,bQYAA",
    "bQYEE,bQYE,bQYO,1bKYA,bKYU,bKYI,bKYAA,bKYEE,bKYE,bKYO,1bXYA,bXYU,bXYI,bXYAA,bXYEE,bXYE",
    "bXYO,1bGYA,bGYU,bGYI,bGYAA,bGYEE,bGYE,bGYO,32034bTTHU,bTTHI,bTTHAA,bTTHEE,bTTHE,bTTHO",
    "2bDDHU,bDDHI,bDDHAA,bDDHEE,bDDHE,bDDHO,2bDZU,bDZI,bDZAA,bDZEE,bDZE,bDZO,9bCCHHA,bCCHHU",
    "bCCHHI,bCCHHAA,bCCHHEE,bCCHHE,bCCHHO,1bBBA,bBBU,bBBI,bBBAA,bBBEE,bBBE,bBBO,81073bHHYA",
    "bHHYU,bHHYI,bHHYAA,bHHYEE,bHHYE,bHHYO,1bGURAGE HHWA,bHHWI,bHHWEE,bHHWE,1bGURAGE MWI,cMWEE",
    "1cQWI,cQWEE,cQWE,cBWI,cBWEE,cKWI,cKWEE,cKWE,cGWI,cGWEE,cGWE,cFWI,cFWEE,cPWI,cPWEE"]⟩,
  ⟨"EXTENDED", [
    "1776aARABIC-INDIC DIGIT ZERO,cONE,cTWO,cTHREE,cFOUR,cFIVE,cSIX,cSEVEN,cEIGHT,cNINE"]⟩,
  ⟨"EXTREMELY", [
    "128905aHEAVY WHITE CIRCLE,9cSQUARE,19bGREEK CROSS,6bSALTIRE,5bFIVE SPOKED ASTERISK",
    "5bSIX SPOKED ASTERISK"]⟩]

/-- The names that begin with F. -/
def namesF : List NameGroup := [
  ⟨"FACE", [
    "128134aMASSAGE,379aWITH TEARS OF JOY,8aSAVOURING DELICIOUS FOOD,7aWITH COLD SWEAT",
    "4aTHROWING A KISS,2aWITH STUCK-OUT TONGUE,dAND WINKING EYE,eTIGHTLY-CLOSED EYES",
    "6bLOOK OF TRIUMPH,9bOPEN MOUTH,1dAND COLD SWEAT,aSCREAMING IN FEAR,4aWITHOUT MOUTH",
    "aWITH MEDICAL MASK,12bROLLING EYES,bNO GOOD GESTURE,bOK GESTURE,715bTHERMOMETER",
    "2bHEAD-BANDAGE,10bCOWBOY HAT,5aPALM,1aWITH ONE EYEBROW RAISED",
    "2bFINGER COVERING CLOSED LIPS,2bOPEN MOUTH VOMITING,68bPARTY HORN AND PARTY HAT",
    "bUNEVEN EYES AND WAVY MOUTH,4aHOLDING BACK TEARS,aWITH PLEADING EYES,85bMONOCLE",
    "273bOPEN EYES AND HAND OVER MOUTH,bPEEKING EYE,bDIAGONAL MOUTH"]⟩,
  ⟨"FALLING", [
    "9950aDIAGONAL IN WHITE CIRCLE IN BLACK SQUARE,589bCROSSING RISING DIAGONAL",
    "2cNORTH EAST ARROW"]⟩,
  ⟨"FIRE", ["128293a,364aENGINE,860aEXTINGUISHER"]⟩,
  ⟨"FIRST", ["8296aSTRONG ISOLATE,1492aQUARTER MOON,117973cSYMBOL,7cWITH FACE,1579aPLACE MEDAL"]⟩,
  ⟨"FLOWER", ["8277aPUNCTUATION MARK,1602a,118043aPLAYING CARDS"]⟩,
  ⟨"FLYING", ["128389aENVELOPE,370aSAUCER,598aDISC"]⟩,
  ⟨"FOUR", [
    "8280aDOT PUNCTUATION,2bMARK,1734aTEARDROP-SPOKED ASTERISK,aBALLOON-SPOKED ASTERISK",
    "1aCLUB-SPOKED ASTERISK,1134aCORNER ARROWS CIRCLING ANTICLOCKWISE,116651aLEAF CLOVER",
    "1157aPOINTED BLACK STAR"]⟩,
  ⟨"FRAME", ["128444aWITH PICTURE,bTILES,bAN X"]⟩,
  ⟨"FULL", ["46aSTOP,9561aBLOCK,590aOUTER JOIN,117565aMOON SYMBOL,7bWITH FACE"]⟩,
  ⟨"FULLWIDTH", [
    "65281aEXCLAMATION MARK,aQUOTATION MARK,aNUMBER SIGN,aDOLLAR SIGN,aPERCENT SIGN,aAMPERSAND",
    "aAPOSTROPHE,aLEFT PARENTHESIS,aRIGHT PARENTHESIS,aASTERISK,aPLUS SIGN,aCOMMA",
    "aHYPHEN-MINUS,aFULL STOP,aSOLIDUS,aDIGIT ZERO,bONE,bTWO,bTHREE,bFOUR,bFIVE,bSIX,bSEVEN",
    "bEIGHT,bNINE,aCOLON,aSEMICOLON,aLESS-THAN SIGN,aEQUALS SIGN,aGREATER-THAN SIGN",
    "aQUESTION MARK,aCOMMERCIAL AT,aLATIN CAPITAL LETTER A,dB,dC,dD,dE,dF,dG,dH,dI,dJ,dK,dL,dM",
    "dN,dO,dP,dQ,dR,dS,dT,dU,dV,dW,dX,dY,dZ,aLEFT SQUARE BRACKET,aREVERSE SOLIDUS",
    "aRIGHT SQUARE BRACKET,aCIRCUMFLEX ACCENT,aLOW LINE,aGRAVE ACCENT,aLATIN SMALL LETTER A,dB",
    "dC,dD,dE,dF,dG,dH,dI,dJ,dK,dL,dM,dN,dO,dP,dQ,dR,dS,dT,dU,dV,dW,dX,dY,dZ",
    "aLEFT CURLY BRACKET,aVERTICAL LINE,aRIGHT CURLY BRACKET,aTILDE,aLEFT WHITE PARENTHESIS",
    "aRIGHT WHITE PARENTHESIS,127aCENT SIGN,aPOUND SIGN,aNOT SIGN,aMACRON,aBROKEN BAR",
    "aYEN SIGN,aWON SIGN"]⟩]

/-- The names that begin with G. -/
def namesG : List NameGroup := [
  ⟨"GEAR", ["9881a,83aWITHOUT HUB,aWITH HANDLES"]⟩,
  ⟨"GEORGIAN", [
    "4256aCAPITAL LETTER AN,cBAN,cGAN,cDON,cEN,cVIN,cZEN,cTAN,cIN,cKAN,cLAS,cMAN,cNAR,cON,cPAR",
    "cZHAR,cRAE,cSAN,cTAR,cUN,cPHAR,cKHAR,cGHAN,cQAR,cSHIN,cCHIN,cCAN,cJIL,cCIL,cCHAR,cXAN",
    "cJHAN,cHAE,cHE,cHIE,cWE,cHAR,cHOE,1cYN,5cAEN,2aLETTER AN,bBAN,bGAN,bDON,bEN,bVIN,bZEN",
    "bTAN,bIN,bKAN,bLAS,bMAN,bNAR,bON,bPAR,bZHAR,bRAE,bSAN,bTAR,bUN,bPHAR,bKHAR,bGHAN,bQAR",
    "bSHIN,bCHIN,bCAN,bJIL,bCIL,bCHAR,bXAN,bJHAN,bHAE,bHE,bHIE,bWE,bHAR,bHOE,bFI,bYN,bELIFI",
    "bTURNED GAN,bAIN,aPARAGRAPH SEPARATOR,1aLETTER AEN,bHARD SIGN,bLABIAL SIGN",
    "2960aMTAVRULI CAPITAL LETTER AN,dBAN,dGAN,dDON,dEN,dVIN,dZEN,dTAN,dIN,dKAN,dLAS,dMAN,dNAR",
    "dON,dPAR,dZHAR,dRAE,dSAN,dTAR,dUN,dPHAR,dKHAR,dGHAN,dQAR,dSHIN,dCHIN,dCAN,dJIL,dCIL,dCHAR",
    "dXAN,dJHAN,dHAE,dHE,dHIE,dWE,dHAR,dHOE,dFI,dYN,dELIFI,dTURNED GAN,dAIN,2dAEN,dHARD SIGN",
    "dLABIAL SIGN,4160aSMALL LETTER AN,cBAN,cGAN,cDON,cEN,cVIN,cZEN,cTAN,cIN,cKAN,cLAS,cMAN",
    "cNAR,cON,cPAR,cZHAR,cRAE,cSAN,cTAR,cUN,cPHAR,cKHAR,cGHAN,cQAR,cSHIN,cCHIN,cCAN,cJIL,cCIL",
    "cCHAR,cXAN,cJHAN,cHAE,cHE,cHIE,cWE,cHAR,cHOE,1cYN,5cAEN"]⟩,
  ⟨"GLAGOLITIC", [
    "11264aCAPITAL LETTER AZU,cBUKY,cVEDE,cGLAGOLI,cDOBRO,cYESTU,cZHIVETE,cDZELO,cZEMLJA,cIZHE",
    "cINITIAL IZHE,cI,cDJERVI,cKAKO,cLJUDIJE,cMYSLITE,cNASHI,cONU,cPOKOJI,cRITSI,cSLOVO",
    "cTVRIDO,cUKU,cFRITU,cHERU,cOTU,cPE,cSHTA,cTSI,cCHRIVI,cSHA,cYERU,cYERI,cYATI,cSPIDERY HA",
    "cYU,cSMALL YUS,eWITH TAIL,cYO,cIOTATED SMALL YUS,cBIG YUS,cIOTATED BIG YUS,cFITA,cIZHITSA",
    "cSHTAPIC,cTROKUTASTI A,cLATINATE MYSLITE,cCAUDATE CHRIVI,aSMALL LETTER AZU,cBUKY,cVEDE",
    "cGLAGOLI,cDOBRO,cYESTU,cZHIVETE,cDZELO,cZEMLJA,cIZHE,cINITIAL IZHE,cI,cDJERVI,cKAKO",
    "cLJUDIJE,cMYSLITE,cNASHI,cONU,cPOKOJI,cRITSI,cSLOVO,cTVRIDO,cUKU,cFRITU,cHERU,cOTU,cPE",
    "cSHTA,cTSI,cCHRIVI,cSHA,cYERU,cYERI,cYATI,cSPIDERY HA,cYU,cSMALL YUS,eWITH TAIL,cYO",
    "cIOTATED SMALL YUS,cBIG YUS,cIOTATED BIG YUS,cFITA,cIZHITSA,cSHTAPIC,cTROKUTASTI A",
    "cLATINATE MYSLITE,cCAUDATE CHRIVI"]⟩,
  ⟨"GOTHIC", [
    "66352aLETTER AHSA,bBAIRKAN,bGIBA,bDAGS,bAIHVUS,bQAIRTHRA,bIUJA,bHAGL,bTHIUTH,bEIS,bKUSMA",
    "bLAGUS,bMANNA,bNAUTHS,bJER,bURUS,bPAIRTHRA,bNINETY,bRAIDA,bSAUIL,bTEIWS,bWINJA,bFAIHU",
    "bIGGWS,bHWAIR,bOTHAL,bNINE HUNDRED"]⟩,
  ⟨"GRANTHA", [
    "70400aSIGN COMBINING ANUSVARA ABOVE,bCANDRABINDU,bANUSVARA,bVISARGA,1aLETTER A,bAA,bI,bII",
    "bU,bUU,bVOCALIC R,cL,2bEE,bAI,2bOO,bAU,bKA,bKHA,bGA,bGHA,bNGA,bCA,bCHA,bJA,bJHA,bNYA,bTTA",
    "bTTHA,bDDA,bDDHA,bNNA,bTA,bTHA,bDA,bDHA,bNA,1bPA,bPHA,bBA,bBHA,bMA,bYA,bRA,1bLA,bLLA,1bVA",
    "bSHA,bSSA,bSA,bHA,2aSIGN NUKTA,bAVAGRAHA,aVOWEL SIGN AA,cI,cII,cU,cUU,cVOCALIC R,dRR,2cEE",
    "cAI,2cOO,cAU,aSIGN VIRAMA,2aOM,6aAU LENGTH MARK,5aSIGN PLUTA,aLETTER VEDIC ANUSVARA",
    "cDOUBLE ANUSVARA,bVOCALIC RR,cLL,aVOWEL SIGN VOCALIC L,dLL"]⟩,
  ⟨"GREATER-THAN", [
    "62aSIGN,8742aOR EQUAL TO,1aOVER EQUAL TO,1aBUT NOT EQUAL TO,9aOR EQUIVALENT TO",
    "3bLESS-THAN,95aWITH DOT,3aEQUAL TO OR LESS-THAN,11aBUT NOT EQUIVALENT TO",
    "1680aABOVE RIGHTWARDS ARROW,257aWITH CIRCLE INSIDE,1bQUESTION MARK ABOVE",
    "1aOR SLANTED EQUAL TO,1eWITH DOT INSIDE,1gABOVE,1hLEFT,1bAPPROXIMATE",
    "1aAND SINGLE-LINE NOT EQUAL TO,1bNOT APPROXIMATE",
    "1aABOVE DOUBLE-LINE EQUAL ABOVE LESS-THAN,1bSIMILAR OR EQUAL,1cABOVE LESS-THAN",
    "1bLESS-THAN ABOVE DOUBLE-LINE EQUAL,1bSLANTED EQUAL ABOVE LESS-THAN ABOVE SLANTED EQUAL",
    "15aOVERLAPPING LESS-THAN,aBESIDE LESS-THAN,1aCLOSED BY CURVE,1dABOVE SLANTED EQUAL"]⟩,
  ⟨"GREEK", [
    "880aCAPITAL LETTER HETA,aSMALL LETTER HETA,aCAPITAL LETTER ARCHAIC SAMPI",
    "aSMALL LETTER ARCHAIC SAMPI,aNUMERAL SIGN,aLOWER NUMERAL SIGN",
    "aCAPITAL LETTER PAMPHYLIAN DIGAMMA,aSMALL LETTER PAMPHYLIAN DIGAMMA,2aYPOGEGRAMMENI",
    "aSMALL REVERSED LUNATE SIGMA SYMBOL,bDOTTED LUNATE SIGMA SYMBOL",
    "bREVERSED DOTTED LUNATE SIGMA SYMBOL,aQUESTION MARK,aCAPITAL LETTER YOT,4aTONOS",
    "aDIALYTIKA TONOS,aCAPITAL LETTER ALPHA WITH TONOS,aANO TELEIA",
    "aCAPITAL LETTER EPSILON WITH TONOS,cETA WITH TONOS,cIOTA WITH TONOS,1cOMICRON WITH TONOS",
    "1cUPSILON WITH TONOS,cOMEGA WITH TONOS,aSMALL LETTER IOTA WITH DIALYTIKA AND TONOS",
    "aCAPITAL LETTER ALPHA,cBETA,cGAMMA,cDELTA,cEPSILON,cZETA,cETA,cTHETA,cIOTA,cKAPPA,cLAMDA",
    "cMU,cNU,cXI,cOMICRON,cPI,cRHO,1cSIGMA,cTAU,cUPSILON,cPHI,cCHI,cPSI,cOMEGA",
    "cIOTA WITH DIALYTIKA,cUPSILON WITH DIALYTIKA,aSMALL LETTER ALPHA WITH TONOS",
    "cEPSILON WITH TONOS,cETA WITH TONOS,cIOTA WITH TONOS,cUPSILON WITH DIALYTIKA AND TONOS",
    "cALPHA,cBETA,cGAMMA,cDELTA,cEPSILON,cZETA,cETA,cTHETA,cIOTA,cKAPPA,cLAMDA,cMU,cNU,cXI",
    "cOMICRON,cPI,cRHO,cFINAL SIGMA,cSIGMA,cTAU,cUPSILON,cPHI,cCHI,cPSI,cOMEGA",
    "cIOTA WITH DIALYTIKA,cUPSILON WITH DIALYTIKA,cOMICRON WITH TONOS,cUPSILON WITH TONOS",
    "cOMEGA WITH TONOS,aCAPITAL KAI SYMBOL,aBETA SYMBOL,aTHETA SYMBOL",
    "aUPSILON WITH HOOK SYMBOL,cACUTE AND HOOK SYMBOL,cDIAERESIS AND HOOK SYMBOL,aPHI SYMBOL",
    "aPI SYMBOL,aKAI SYMBOL,aLETTER ARCHAIC KOPPA,aSMALL LETTER ARCHAIC KOPPA,aLETTER STIGMA",
    "aSMALL LETTER STIGMA,aLETTER DIGAMMA,aSMALL LETTER DIGAMMA,aLETTER KOPPA",
    "aSMALL LETTER KOPPA,aLETTER SAMPI,aSMALL LETTER SAMPI,14aKAPPA SYMBOL,aRHO SYMBOL",
    "aLUNATE SIGMA SYMBOL,aLETTER YOT,aCAPITAL THETA SYMBOL,aLUNATE EPSILON SYMBOL",
    "aREVERSED LUNATE EPSILON SYMBOL,aCAPITAL LETTER SHO,aSMALL LETTER SHO",
    "aCAPITAL LUNATE SIGMA SYMBOL,bLETTER SAN,aSMALL LETTER SAN,aRHO WITH STROKE SYMBOL",
    "aCAPITAL REVERSED LUNATE SIGMA SYMBOL,bDOTTED LUNATE SIGMA SYMBOL",
    "bREVERSED DOTTED LUNATE SIGMA SYMBOL,6438aLETTER SMALL CAPITAL GAMMA,dLAMDA,dPI,dRHO,dPSI",
    "59aSUBSCRIPT SMALL LETTER BETA,dGAMMA,dRHO,dPHI,dCHI,405aSMALL LETTER ALPHA WITH PSILI",
    "eDASIA,ePSILI AND VARIA,eDASIA AND VARIA,ePSILI AND OXIA,eDASIA AND OXIA",
    "ePSILI AND PERISPOMENI,eDASIA AND PERISPOMENI,aCAPITAL LETTER ALPHA WITH PSILI,eDASIA",
    "ePSILI AND VARIA,eDASIA AND VARIA,ePSILI AND OXIA,eDASIA AND OXIA,ePSILI AND PERISPOMENI",
    "eDASIA AND PERISPOMENI,aSMALL LETTER EPSILON WITH PSILI,eDASIA,ePSILI AND VARIA",
    "eDASIA AND VARIA,ePSILI AND OXIA,eDASIA AND OXIA,2aCAPITAL LETTER EPSILON WITH PSILI",
    "eDASIA,ePSILI AND VARIA,eDASIA AND VARIA,ePSILI AND OXIA,eDASIA AND OXIA",
    "2aSMALL LETTER ETA WITH PSILI,eDASIA,ePSILI AND VARIA,eDASIA AND VARIA,ePSILI AND OXIA",
    "eDASIA AND OXIA,ePSILI AND PERISPOMENI,eDASIA AND PERISPOMENI",
    "aCAPITAL LETTER ETA WITH PSILI,eDASIA,ePSILI AND VARIA,eDASIA AND VARIA,ePSILI AND OXIA",
    "eDASIA AND OXIA,ePSILI AND PERISPOMENI,eDASIA AND PERISPOMENI",
    "aSMALL LETTER IOTA WITH PSILI,eDASIA,ePSILI AND VARIA,eDASIA AND VARIA,ePSILI AND OXIA",
    "eDASIA AND OXIA,ePSILI AND PERISPOMENI,eDASIA AND PERISPOMENI",
    "aCAPITAL LETTER IOTA WITH PSILI,eDASIA,ePSILI AND VARIA,eDASIA AND VARIA,ePSILI AND OXIA",
    "eDASIA AND OXIA,ePSILI AND PERISPOMENI,eDASIA AND PERISPOMENI",
    "aSMALL LETTER OMICRON WITH PSILI,eDASIA,ePSILI AND VARIA,eDASIA AND VARIA,ePSILI AND OXIA",
    "eDASIA AND OXIA,2aCAPITAL LETTER OMICRON WITH PSILI,eDASIA,ePSILI AND VARIA",
    "eDASIA AND VARIA,ePSILI AND OXIA,eDASIA AND OXIA,2aSMALL LETTER UPSILON WITH PSILI,eDASIA",
    "ePSILI AND VARIA,eDASIA AND VARIA,ePSILI AND OXIA,eDASIA AND OXIA,ePSILI AND PERISPOMENI",
    "eDASIA AND PERISPOMENI,1aCAPITAL LETTER UPSILON WITH DASIA,1fAND VARIA,1gOXIA",
    "1gPERISPOMENI,aSMALL LETTER OMEGA WITH PSILI,eDASIA,ePSILI AND VARIA,eDASIA AND VARIA",
    "ePSILI AND OXIA,eDASIA AND OXIA,ePSILI AND PERISPOMENI,eDASIA AND PERISPOMENI",
    "aCAPITAL LETTER OMEGA WITH PSILI,eDASIA,ePSILI AND VARIA,eDASIA AND VARIA,ePSILI AND OXIA",
    "eDASIA AND OXIA,ePSILI AND PERISPOMENI,eDASIA AND PERISPOMENI",
    "aSMALL LETTER ALPHA WITH VARIA,eOXIA,cEPSILON WITH VARIA,eOXIA,cETA WITH VARIA,eOXIA",
    "cIOTA WITH VARIA,eOXIA,cOMICRON WITH VARIA,eOXIA,cUPSILON WITH VARIA,eOXIA",
    "cOMEGA WITH VARIA,eOXIA,2cALPHA WITH PSILI AND YPOGEGRAMMENI,eDASIA AND YPOGEGRAMMENI",
    "ePSILI AND VARIA AND YPOGEGRAMMENI,eDASIA AND VARIA AND YPOGEGRAMMENI",
    "ePSILI AND OXIA AND YPOGEGRAMMENI,eDASIA AND OXIA AND YPOGEGRAMMENI",
    "ePSILI AND PERISPOMENI AND YPOGEGRAMMENI,eDASIA AND PERISPOMENI AND YPOGEGRAMMENI",
    "aCAPITAL LETTER ALPHA WITH PSILI AND PROSGEGRAMMENI,eDASIA AND PROSGEGRAMMENI",
    "ePSILI AND VARIA AND PROSGEGRAMMENI,eDASIA AND VARIA AND PROSGEGRAMMENI",
    "ePSILI AND OXIA AND PROSGEGRAMMENI,eDASIA AND OXIA AND PROSGEGRAMMENI",
    "ePSILI AND PERISPOMENI AND PROSGEGRAMMENI,eDASIA AND PERISPOMENI AND PROSGEGRAMMENI",
    "aSMALL LETTER ETA WITH PSILI AND YPOGEGRAMMENI,eDASIA AND YPOGEGRAMMENI",
    "ePSILI AND VARIA AND YPOGEGRAMMENI,eDASIA AND VARIA AND YPOGEGRAMMENI",
    "ePSILI AND OXIA AND YPOGEGRAMMENI,eDASIA AND OXIA AND YPOGEGRAMMENI",
    "ePSILI AND PERISPOMENI AND YPOGEGRAMMENI,eDASIA AND PERISPOMENI AND YPOGEGRAMMENI",
    "aCAPITAL LETTER ETA WITH PSILI AND PROSGEGRAMMENI,eDASIA AND PROSGEGRAMMENI",
    "ePSILI AND VARIA AND PROSGEGRAMMENI,eDASIA AND VARIA AND PROSGEGRAMMENI",
    "ePSILI AND OXIA AND PROSGEGRAMMENI,eDASIA AND OXIA AND PROSGEGRAMMENI",
    "ePSILI AND PERISPOMENI AND PROSGEGRAMMENI,eDASIA AND PERISPOMENI AND PROSGEGRAMMENI",
    "aSMALL LETTER OMEGA WITH PSILI AND YPOGEGRAMMENI,eDASIA AND YPOGEGRAMMENI",
    "ePSILI AND VARIA AND YPOGEGRAMMENI,eDASIA AND VARIA AND YPOGEGRAMMENI",
    "ePSILI AND OXIA AND YPOGEGRAMMENI,eDASIA AND OXIA AND YPOGEGRAMMENI",
    "ePSILI AND PERISPOMENI AND YPOGEGRAMMENI,eDASIA AND PERISPOMENI AND YPOGEGRAMMENI",
    "aCAPITAL LETTER OMEGA WITH PSILI AND PROSGEGRAMMENI,eDASIA AND PROSGEGRAMMENI",
    "ePSILI AND VARIA AND PROSGEGRAMMENI,eDASIA AND VARIA AND PROSGEGRAMMENI",
    "ePSILI AND OXIA AND PROSGEGRAMMENI,eDASIA AND OXIA AND PROSGEGRAMMENI",
    "ePSILI AND PERISPOMENI AND PROSGEGRAMMENI,eDASIA AND PERISPOMENI AND PROSGEGRAMMENI",
    "aSMALL LETTER ALPHA WITH VRACHY,eMACRON,eVARIA AND YPOGEGRAMMENI,eYPOGEGRAMMENI",
    "eOXIA AND YPOGEGRAMMENI,1ePERISPOMENI,fAND YPOGEGRAMMENI",
    "aCAPITAL LETTER ALPHA WITH VRACHY,eMACRON,eVARIA,eOXIA,ePROSGEGRAMMENI,aKORONIS",
    "aPROSGEGRAMMENI,aPSILI,aPERISPOMENI,aDIALYTIKA AND PERISPOMENI",
    "aSMALL LETTER ETA WITH VARIA AND YPOGEGRAMMENI,eYPOGEGRAMMENI,eOXIA AND YPOGEGRAMMENI",
    "1ePERISPOMENI,fAND YPOGEGRAMMENI,aCAPITAL LETTER EPSILON WITH VARIA,eOXIA,cETA WITH VARIA",
    "eOXIA,ePROSGEGRAMMENI,aPSILI AND VARIA,cOXIA,cPERISPOMENI,aSMALL LETTER IOTA WITH VRACHY",
    "eMACRON,eDIALYTIKA AND VARIA,gOXIA,2ePERISPOMENI,eDIALYTIKA AND PERISPOMENI",
    "aCAPITAL LETTER IOTA WITH VRACHY,eMACRON,eVARIA,eOXIA,1aDASIA AND VARIA,cOXIA",
    "cPERISPOMENI,aSMALL LETTER UPSILON WITH VRACHY,eMACRON,eDIALYTIKA AND VARIA,gOXIA",
    "cRHO WITH PSILI,eDASIA,cUPSILON WITH PERISPOMENI,eDIALYTIKA AND PERISPOMENI",
    "aCAPITAL LETTER UPSILON WITH VRACHY,eMACRON,eVARIA,eOXIA,cRHO WITH DASIA",
    "aDIALYTIKA AND VARIA,cOXIA,aVARIA,2aSMALL LETTER OMEGA WITH VARIA AND YPOGEGRAMMENI",
    "eYPOGEGRAMMENI,eOXIA AND YPOGEGRAMMENI,1ePERISPOMENI,fAND YPOGEGRAMMENI",
    "aCAPITAL LETTER OMICRON WITH VARIA,eOXIA,cOMEGA WITH VARIA,eOXIA,ePROSGEGRAMMENI,aOXIA",
    "aDASIA,35686aLETTER SMALL CAPITAL OMEGA,21978aACROPHONIC ATTIC ONE QUARTER,dHALF,dDRACHMA",
    "cFIVE,cFIFTY,cFIVE HUNDRED,dTHOUSAND,cFIFTY THOUSAND,cFIVE TALENTS,cTEN TALENTS",
    "cFIFTY TALENTS,cONE HUNDRED TALENTS,cFIVE HUNDRED TALENTS,cONE THOUSAND TALENTS",
    "cFIVE THOUSAND TALENTS,dSTATERS,cTEN STATERS,cFIFTY STATERS,cONE HUNDRED STATERS",
    "cFIVE HUNDRED STATERS,cONE THOUSAND STATERS,cTEN THOUSAND STATERS,cFIFTY THOUSAND STATERS",
    "cTEN MNAS,bHERAEUM ONE PLETHRON,bTHESPIAN ONE,bHERMIONIAN ONE,bEPIDAUREAN TWO",
    "bTHESPIAN TWO,bCYRENAIC TWO DRACHMAS,bEPIDAUREAN TWO DRACHMAS,bTROEZENIAN FIVE,cTEN",
    "dALTERNATE FORM,bHERMIONIAN TEN,bMESSENIAN TEN,bTHESPIAN TEN,cTHIRTY,bTROEZENIAN FIFTY",
    "dALTERNATE FORM,bHERMIONIAN FIFTY,bTHESPIAN FIFTY,cONE HUNDRED,cTHREE HUNDRED",
    "bEPIDAUREAN FIVE HUNDRED,bTROEZENIAN FIVE HUNDRED,bTHESPIAN FIVE HUNDRED",
    "bCARYSTIAN FIVE HUNDRED,bNAXIAN FIVE HUNDRED,bTHESPIAN ONE THOUSAND,cFIVE THOUSAND",
    "bDELPHIC FIVE MNAS,bSTRATIAN FIFTY MNAS,aONE HALF SIGN,dALTERNATE FORM,aTWO THIRDS SIGN",
    "aTHREE QUARTERS SIGN,aYEAR SIGN,aTALENT SIGN,aDRACHMA SIGN,aOBOL SIGN,aTWO OBOLS SIGN",
    "aTHREE OBOLS SIGN,aFOUR OBOLS SIGN,aFIVE OBOLS SIGN,aMETRETES SIGN,aKYATHOS BASE SIGN",
    "aLITRA SIGN,aOUNKIA SIGN,aXESTES SIGN,aARTABE SIGN,aAROURA SIGN,aGRAMMA SIGN",
    "aTRYBLION BASE SIGN,aZERO SIGN,aONE QUARTER SIGN,aSINUSOID SIGN,aINDICTION SIGN",
    "18aSYMBOL TAU RHO,53343aVOCAL NOTATION SYMBOL-1,cSYMBOL-2,cSYMBOL-3,cSYMBOL-4,cSYMBOL-5",
    "cSYMBOL-6,cSYMBOL-7,cSYMBOL-8,cSYMBOL-9,cSYMBOL-10,cSYMBOL-11,cSYMBOL-12,cSYMBOL-13",
    "cSYMBOL-14,cSYMBOL-15,cSYMBOL-16,cSYMBOL-17,cSYMBOL-18,cSYMBOL-19,cSYMBOL-20,cSYMBOL-21",
    "cSYMBOL-22,cSYMBOL-23,cSYMBOL-24,cSYMBOL-50,cSYMBOL-51,cSYMBOL-52,cSYMBOL-53,cSYMBOL-54",
    "aINSTRUMENTAL NOTATION SYMBOL-1,cSYMBOL-2,cSYMBOL-4,cSYMBOL-5,cSYMBOL-7,cSYMBOL-8",
    "cSYMBOL-11,cSYMBOL-12,cSYMBOL-13,cSYMBOL-14,cSYMBOL-17,cSYMBOL-18,cSYMBOL-19,cSYMBOL-23",
    "cSYMBOL-24,cSYMBOL-25,cSYMBOL-26,cSYMBOL-27,cSYMBOL-29,cSYMBOL-30,cSYMBOL-32,cSYMBOL-36",
    "cSYMBOL-37,cSYMBOL-38,cSYMBOL-39,cSYMBOL-40,cSYMBOL-42,cSYMBOL-43,cSYMBOL-45,cSYMBOL-47",
    "cSYMBOL-48,cSYMBOL-49,cSYMBOL-50,cSYMBOL-51,cSYMBOL-52,cSYMBOL-53,cSYMBOL-54",
    "3aMUSICAL LEIMMA"]⟩,
  ⟨"GREEN", ["127823aAPPLE,330aHEART,60aBOOK,1151aSALAD"]⟩,
  ⟨"GRINNING", [
    "128512aFACE,bWITH SMILING EYES,54aCAT FACE WITH SMILING EYES,752aFACE WITH STAR EYES",
    "cONE LARGE AND ONE SMALL EYE"]⟩,
  ⟨"GUJARATI", [
    "2689aSIGN CANDRABINDU,bANUSVARA,bVISARGA,1aLETTER A,bAA,bI,bII,bU,bUU,bVOCALIC R,cL",
    "aVOWEL CANDRA E,1aLETTER E,bAI,aVOWEL CANDRA O,1aLETTER O,bAU,bKA,bKHA,bGA,bGHA,bNGA,bCA",
    "bCHA,bJA,bJHA,bNYA,bTTA,bTTHA,bDDA,bDDHA,bNNA,bTA,bTHA,bDA,bDHA,bNA,1bPA,bPHA,bBA,bBHA",
    "bMA,bYA,bRA,1bLA,bLLA,1bVA,bSHA,bSSA,bSA,bHA,2aSIGN NUKTA,bAVAGRAHA,aVOWEL SIGN AA,cI,cII",
    "cU,cUU,cVOCALIC R,dRR,cCANDRA E,1cE,cAI,cCANDRA O,1cO,cAU,aSIGN VIRAMA,2aOM",
    "15aLETTER VOCALIC RR,cLL,aVOWEL SIGN VOCALIC L,dLL,2aDIGIT ZERO,bONE,bTWO,bTHREE,bFOUR",
    "bFIVE,bSIX,bSEVEN,bEIGHT,bNINE,aABBREVIATION SIGN,aRUPEE SIGN,7aLETTER ZHA,aSIGN SUKUN",
    "bSHADDA,bMADDAH,bTHREE-DOT NUKTA ABOVE,bCIRCLE NUKTA ABOVE,bTWO-CIRCLE NUKTA ABOVE"]⟩,
  ⟨"GUNJALA", [
    "73056aGONDI LETTER A,cAA,cI,cII,cU,cUU,1cEE,cAI,1cOO,cAU,cYA,cVA,cBA,cBHA,cMA,cKA,cKHA",
    "cTA,cTHA,cLA,cGA,cGHA,cDA,cDHA,cNA,cCA,cCHA,cTTA,cTTHA,cLLA,cJA,cJHA,cDDA,cDDHA,cNGA,cPA",
    "cPHA,cHA,cRA,cSA,bVOWEL SIGN AA,dI,dII,dU,dUU,1dEE,dAI,1dOO,dAU,bSIGN ANUSVARA,cVISARGA",
    "bVIRAMA,bOM,7bDIGIT ZERO,cONE,cTWO,cTHREE,cFOUR,cFIVE,cSIX,cSEVEN,cEIGHT,cNINE"]⟩,
  ⟨"GURMUKHI", [
    "2561aSIGN ADAK BINDI,bBINDI,bVISARGA,1aLETTER A,bAA,bI,bII,bU,bUU,4bEE,bAI,2bOO,bAU,bKA",
    "bKHA,bGA,bGHA,bNGA,bCA,bCHA,bJA,bJHA,bNYA,bTTA,bTTHA,bDDA,bDDHA,bNNA,bTA,bTHA,bDA,bDHA",
    "bNA,1bPA,bPHA,bBA,bBHA,bMA,bYA,bRA,1bLA,bLLA,1bVA,bSHA,1bSA,bHA,2aSIGN NUKTA",
    "1aVOWEL SIGN AA,cI,cII,cU,cUU,4cEE,cAI,2cOO,cAU,aSIGN VIRAMA,3bUDAAT,7aLETTER KHHA,bGHHA",
    "bZA,bRRA,1bFA,7aDIGIT ZERO,bONE,bTWO,bTHREE,bFOUR,bFIVE,bSIX,bSEVEN,bEIGHT,bNINE,aTIPPI",
    "aADDAK,aIRI,aURA,aEK ONKAR,aSIGN YAKASH,aABBREVIATION SIGN"]⟩]

end Phrasebook.CharName
