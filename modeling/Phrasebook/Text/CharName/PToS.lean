import Phrasebook.Text.CharName.Group

/-!
Names of characters that begin with the letters from P to S, by the tables of Unicode 14.
-/

namespace Phrasebook.CharName

/-- The names that begin with P. -/
def namesP : List NameGroup := [
  ⟨"PAGE", ["128195aWITH CURL,aFACING UP,266a,15aWITH CIRCLED TEXT"]⟩,
  ⟨"PAHAWH", [
    "92928aHMONG VOWEL KEEB,cKEEV,cKIB,cKIV,cKAUB,cKAUV,cKUB,cKUV,cKEB,cKEV,cKAIB,cKAIV,cKOOB",
    "cKOOV,cKAWB,cKAWV,cKUAB,cKUAV,cKOB,cKOV,cKIAB,cKIAV,cKAB,cKAV,cKWB,cKWV,cKAAB,cKAAV",
    "bCONSONANT VAU,cNTSAU,cLAU,cHAU,cNLAU,cRAU,cNKAU,cQHAU,cYAU,cHLAU,cMAU,cCHAU,cNCHAU,cHNAU",
    "cPLHAU,cNTHAU,cNAU,cAU,cXAU,cCAU,bMARK CIM TUB,dSO,dKES,dKHAV,dSUAM,dHOM,dTAUM",
    "bSIGN VOS THOM,dTSHAB CEEB,cCIM CHEEM,cVOS THIAB,dFEEM,cXYEEM NTXIV,dRHO,dTOV,dFAIB",
    "cVOS SEEV,cMEEJ SUAB,cVOS NRUA,cIB YAM,cXAUS,cCIM TSOV ROG,10bDIGIT ZERO,cONE,cTWO,cTHREE",
    "cFOUR,cFIVE,cSIX,cSEVEN,cEIGHT,cNINE,1bNUMBER TENS,cHUNDREDS,cTEN THOUSANDS,cMILLIONS",
    "cHUNDRED MILLIONS,cTEN BILLIONS,cTRILLIONS,1bSIGN VOS LUB,cXYOO,cHLI,cTHIRD-STAGE HLI",
    "cZWJ THAJ,cHNUB,cNQIG,cXIAB,cNTUJ,cAV,cTXHEEJ CEEV,cMEEJ TSEEB,cTAU,cLOS,cMUS",
    "cCIM HAIS LUS NTOG NTOG,dCUAM TSHOOJ,dTXWV,eCHWV,dPUB DAWB,dNRES TOS,5bCLAN SIGN TSHEEJ",
    "dYEEG,dLIS,dLAUJ,dXYOOJ,dKOO,dHAWJ,dMUAS,dTHOJ,dTSAB,dPHAB,dKHAB,dHAM,dVAJ,dFAJ,dYAJ",
    "dTSWB,dKWM,dVWJ"]⟩,
  ⟨"PALM", ["11801aBRANCH,115994aTREE,1982aDOWN HAND,aUP HAND"]⟩,
  ⟨"PALMYRENE", [
    "67680aLETTER ALEPH,bBETH,bGIMEL,bDALETH,bHE,bWAW,bZAYIN,bHETH,bTETH,bYODH,bKAPH,bLAMEDH",
    "bMEM,bFINAL NUN,bNUN,bSAMEKH,bAYIN,bPE,bSADHE,bQOPH,bRESH,bSHIN,bTAW",
    "aLEFT-POINTING FLEURON,aRIGHT-POINTING FLEURON,aNUMBER ONE,bTWO,bTHREE,bFOUR,bFIVE,bTEN",
    "bTWENTY"]⟩,
  ⟨"PARALLEL", ["8741aTO,2252aWITH HORIZONTAL STROKE,bTILDE OPERATOR"]⟩,
  ⟨"PARENTHESIZED", [
    "9332aDIGIT ONE,bTWO,bTHREE,bFOUR,bFIVE,bSIX,bSEVEN,bEIGHT,bNINE,aNUMBER TEN,bELEVEN",
    "bTWELVE,bTHIRTEEN,bFOURTEEN,bFIFTEEN,bSIXTEEN,bSEVENTEEN,bEIGHTEEN,bNINETEEN,bTWENTY",
    "20aLATIN SMALL LETTER A,dB,dC,dD,dE,dF,dG,dH,dI,dJ,dK,dL,dM,dN,dO,dP,dQ,dR,dS,dT,dU,dV,dW",
    "dX,dY,dZ,3402aHANGUL KIYEOK,bNIEUN,bTIKEUT,bRIEUL,bMIEUM,bPIEUP,bSIOS,bIEUNG,bCIEUC",
    "bCHIEUCH,bKHIEUKH,bTHIEUTH,bPHIEUPH,bHIEUH,bKIYEOK A,bNIEUN A,bTIKEUT A,bRIEUL A,bMIEUM A",
    "bPIEUP A,bSIOS A,bIEUNG A,bCIEUC A,bCHIEUCH A,bKHIEUKH A,bTHIEUTH A,bPHIEUPH A,bHIEUH A",
    "bCIEUC U,aKOREAN CHARACTER OJEON,cO HU,1aIDEOGRAPH ONE,bTWO,bTHREE,bFOUR,bFIVE,bSIX",
    "bSEVEN,bEIGHT,bNINE,bTEN,bMOON,bFIRE,bWATER,bWOOD,bMETAL,bEARTH,bSUN,bSTOCK,bHAVE",
    "bSOCIETY,bNAME,bSPECIAL,bFINANCIAL,bCONGRATULATION,bLABOR,bREPRESENT,bCALL,bSTUDY",
    "bSUPERVISE,bENTERPRISE,bRESOURCE,bALLIANCE,bFESTIVAL,bREST,bSELF,bREACH",
    "114380aLATIN CAPITAL LETTER A,dB,dC,dD,dE,dF,dG,dH,dI,dJ,dK,dL,dM,dN,dO,dP,dQ,dR,dS,dT,dU",
    "dV,dW,dX,dY,dZ"]⟩,
  ⟨"PAU", [
    "72384aCIN HAU LETTER PA,dKA,dLA,dMA,dDA,dZA,dVA,dNGA,dHA,dGA,dKHA,dSA,dBA,dCA,dTA,dTHA",
    "dNA,dPHA,dRA,dFA,dCHA,dA,dE,dI,dO,dU,dUA,dIA,dFINAL P,eK,eT,eM,eN,eL,eW,eNG,eY",
    "cRISING TONE LONG,e,cSANDHI GLOTTAL STOP,cRISING TONE LONG FINAL,eFINAL",
    "cSANDHI GLOTTAL STOP FINAL,dTONE LONG,e,eLONG FINAL,eFINAL,cMID-LEVEL TONE",
    "cGLOTTAL STOP VARIANT,cMID-LEVEL TONE LONG FINAL,eFINAL,cLOW-FALLING TONE LONG,e",
    "cGLOTTAL STOP,cLOW-FALLING TONE LONG FINAL,eFINAL,cGLOTTAL STOP FINAL"]⟩,
  ⟨"PER", ["8240aMILLE SIGN,aTEN THOUSAND SIGN,282aSIGN"]⟩,
  ⟨"PERSON", [
    "9977aWITH BALL,118135bBLOND HAIR,469aBOWING DEEPLY,4aRAISING BOTH HANDS IN CELEBRATION",
    "aFROWNING,aWITH POUTING FACE,bFOLDED HANDS,744aDOING CARTWHEEL,156aWITH HEADSCARF",
    "aIN STEAMY ROOM,aCLIMBING,aIN LOTUS POSITION,236aWITH CROWN"]⟩,
  ⟨"PHAGS-PA", [
    "43072aLETTER KA,bKHA,bGA,bNGA,bCA,bCHA,bJA,bNYA,bTA,bTHA,bDA,bNA,bPA,bPHA,bBA,bMA,bTSA",
    "bTSHA,bDZA,bWA,bZHA,bZA,bSMALL A,bYA,bRA,bLA,bSHA,bSA,bHA,bA,bI,bU,bE,bO,bQA,bXA,bFA,bGGA",
    "bEE,aSUBJOINED LETTER WA,cYA,aLETTER TTA,bTTHA,bDDA,bNNA,bALTERNATE YA,bVOICELESS SHA",
    "bVOICED HA,bASPIRATED FA,aSUBJOINED LETTER RA,aSUPERFIXED LETTER RA,aLETTER CANDRABINDU",
    "aSINGLE HEAD MARK,aDOUBLE HEAD MARK,aMARK SHAD,bDOUBLE SHAD"]⟩,
  ⟨"PHAISTOS", [
    "66000aDISC SIGN PEDESTRIAN,cPLUMED HEAD,cTATTOOED HEAD,cCAPTIVE,cCHILD,cWOMAN,cHELMET",
    "cGAUNTLET,cTIARA,cARROW,cBOW,cSHIELD,cCLUB,cMANACLES,cMATTOCK,cSAW,cLID,cBOOMERANG",
    "cCARPENTRY PLANE,cDOLIUM,cCOMB,cSLING,cCOLUMN,cBEEHIVE,cSHIP,cHORN,cHIDE,cBULLS LEG,cCAT",
    "cRAM,cEAGLE,cDOVE,cTUNNY,cBEE,cPLANE TREE,cVINE,cPAPYRUS,cROSETTE,cLILY,cOX BACK,cFLUTE",
    "cGRATER,cSTRAINER,cSMALL AXE,cWAVY BAND,cCOMBINING OBLIQUE STROKE"]⟩,
  ⟨"PHOENICIAN", [
    "67840aLETTER ALF,bBET,bGAML,bDELT,bHE,bWAU,bZAI,bHET,bTET,bYOD,bKAF,bLAMD,bMEM,bNUN,bSEMK",
    "bAIN,bPE,bSADE,bQOF,bROSH,bSHIN,bTAU,aNUMBER ONE,bTEN,bTWENTY,bONE HUNDRED,bTWO,bTHREE",
    "3aWORD SEPARATOR"]⟩,
  ⟨"PIG", ["128022a,32aFACE,5aNOSE"]⟩,
  ⟨"PLAYING", [
    "127136aCARD BACK,bACE OF SPADES,bTWO OF SPADES,bTHREE OF SPADES,bFOUR OF SPADES",
    "bFIVE OF SPADES,bSIX OF SPADES,bSEVEN OF SPADES,bEIGHT OF SPADES,bNINE OF SPADES",
    "bTEN OF SPADES,bJACK OF SPADES,bKNIGHT OF SPADES,bQUEEN OF SPADES,bKING OF SPADES",
    "2bACE OF HEARTS,bTWO OF HEARTS,bTHREE OF HEARTS,bFOUR OF HEARTS,bFIVE OF HEARTS",
    "bSIX OF HEARTS,bSEVEN OF HEARTS,bEIGHT OF HEARTS,bNINE OF HEARTS,bTEN OF HEARTS",
    "bJACK OF HEARTS,bKNIGHT OF HEARTS,bQUEEN OF HEARTS,bKING OF HEARTS,bRED JOKER",
    "1bACE OF DIAMONDS,bTWO OF DIAMONDS,bTHREE OF DIAMONDS,bFOUR OF DIAMONDS,bFIVE OF DIAMONDS",
    "bSIX OF DIAMONDS,bSEVEN OF DIAMONDS,bEIGHT OF DIAMONDS,bNINE OF DIAMONDS,bTEN OF DIAMONDS",
    "bJACK OF DIAMONDS,bKNIGHT OF DIAMONDS,bQUEEN OF DIAMONDS,bKING OF DIAMONDS,bBLACK JOKER",
    "1bACE OF CLUBS,bTWO OF CLUBS,bTHREE OF CLUBS,bFOUR OF CLUBS,bFIVE OF CLUBS,bSIX OF CLUBS",
    "bSEVEN OF CLUBS,bEIGHT OF CLUBS,bNINE OF CLUBS,bTEN OF CLUBS,bJACK OF CLUBS",
    "bKNIGHT OF CLUBS,bQUEEN OF CLUBS,bKING OF CLUBS,bWHITE JOKER,bFOOL,bTRUMP-1,bTRUMP-2",
    "bTRUMP-3,bTRUMP-4,bTRUMP-5,bTRUMP-6,bTRUMP-7,bTRUMP-8,bTRUMP-9,bTRUMP-10,bTRUMP-11",
    "bTRUMP-12,bTRUMP-13,bTRUMP-14,bTRUMP-15,bTRUMP-16,bTRUMP-17,bTRUMP-18,bTRUMP-19,bTRUMP-20",
    "bTRUMP-21"]⟩,
  ⟨"PLUS", [
    "43aSIGN,10742bWITH SMALL CIRCLE ABOVE,cCIRCUMFLEX ACCENT ABOVE,cTILDE ABOVE,cDOT BELOW",
    "cTILDE BELOW,cSUBSCRIPT TWO,cBLACK TRIANGLE,4bIN LEFT HALF CIRCLE,cRIGHT HALF CIRCLE",
    "10cTRIANGLE,56bABOVE EQUALS SIGN"]⟩,
  ⟨"PLUTO", ["9799a,1419aFORM TWO,bTHREE,bFOUR,bFIVE"]⟩,
  ⟨"POLICE", ["128110aOFFICER,548aCAR,20aCARS REVOLVING LIGHT"]⟩,
  ⟨"POSTAL", ["12306aMARK,13bFACE,115918aHORN"]⟩,
  ⟨"POWER", ["9211aSYMBOL,aON-OFF SYMBOL,aON SYMBOL,aSLEEP SYMBOL"]⟩,
  ⟨"PRECEDES", [
    "8826a,1aOR EQUAL TO,1bEQUIVALENT TO,49aUNDER RELATION,55aBUT NOT EQUIVALENT TO",
    "1990aABOVE SINGLE-LINE EQUALS SIGN,1cNOT EQUAL TO,1bEQUALS SIGN,1bNOT EQUAL TO",
    "1bALMOST EQUAL TO,1bNOT ALMOST EQUAL TO"]⟩,
  ⟨"PREGNANT", ["129328aWOMAN,402aMAN,aPERSON"]⟩,
  ⟨"PRESENTATION", [
    "65040aFORM FOR VERTICAL COMMA,dIDEOGRAPHIC COMMA,eFULL STOP,dCOLON,dSEMICOLON",
    "dEXCLAMATION MARK,dQUESTION MARK,dLEFT WHITE LENTICULAR BRACKET",
    "dRIGHT WHITE LENTICULAR BRAKCET,dHORIZONTAL ELLIPSIS,22dTWO DOT LEADER,dEM DASH,dEN DASH",
    "dLOW LINE,dWAVY LOW LINE,dLEFT PARENTHESIS,dRIGHT PARENTHESIS,dLEFT CURLY BRACKET",
    "dRIGHT CURLY BRACKET,dLEFT TORTOISE SHELL BRACKET,dRIGHT TORTOISE SHELL BRACKET",
    "dLEFT BLACK LENTICULAR BRACKET,dRIGHT BLACK LENTICULAR BRACKET,dLEFT DOUBLE ANGLE BRACKET",
    "dRIGHT DOUBLE ANGLE BRACKET,dLEFT ANGLE BRACKET,dRIGHT ANGLE BRACKET,dLEFT CORNER BRACKET",
    "dRIGHT CORNER BRACKET,dLEFT WHITE CORNER BRACKET,dRIGHT WHITE CORNER BRACKET",
    "2dLEFT SQUARE BRACKET,dRIGHT SQUARE BRACKET"]⟩,
  ⟨"PSALTER", [
    "68480aPAHLAVI LETTER ALEPH,cBETH,cGIMEL,cDALETH,cHE,cWAW-AYIN-RESH,cZAYIN,cHETH,cYODH",
    "cKAPH,cLAMEDH,cMEM-QOPH,cNUN,cSAMEKH,cPE,cSADHE,cSHIN,cTAW,7bSECTION MARK",
    "bTURNED SECTION MARK,bFOUR DOTS WITH CROSS,eDOT,12bNUMBER ONE,cTWO,cTHREE,cFOUR,cTEN",
    "cTWENTY,cONE HUNDRED"]⟩]

/-- The names that begin with Q. -/
def namesQ : List NameGroup := [
  ⟨"QUADRANT", [
    "9622aLOWER LEFT,bRIGHT,aUPPER LEFT,cAND LOWER LEFT AND LOWER RIGHT,eRIGHT",
    "dUPPER RIGHT AND LOWER LEFT,hRIGHT,bRIGHT,cAND LOWER LEFT,fAND LOWER RIGHT"]⟩]

/-- The names that begin with R. -/
def namesR : List NameGroup := [
  ⟨"RAISED", [
    "9994aFIST,aHAND,1786aINTERPOLATION MARKER,aDOTTED INTERPOLATION MARKER,3aSQUARE,39aDOT",
    "aCOMMA,115509aMC SIGN,aMD SIGN,aMR SIGN,1059aHAND WITH FINGERS SPLAYED",
    "5cPART BETWEEN MIDDLE AND RING FINGERS,899aBACK OF HAND"]⟩,
  ⟨"RECYCLING", [
    "9843aSYMBOL FOR TYPE-1 PLASTICS,cTYPE-2 PLASTICS,cTYPE-3 PLASTICS,cTYPE-4 PLASTICS",
    "cTYPE-5 PLASTICS,cTYPE-6 PLASTICS,cTYPE-7 PLASTICS,cGENERIC MATERIALS"]⟩,
  ⟨"REGIONAL", [
    "127462aINDICATOR SYMBOL LETTER A,dB,dC,dD,dE,dF,dG,dH,dI,dJ,dK,dL,dM,dN,dO,dP,dQ,dR,dS,dT",
    "dU,dV,dW,dX,dY,dZ"]⟩,
  ⟨"REJANG", [
    "43312aLETTER KA,bGA,bNGA,bTA,bDA,bNA,bPA,bBA,bMA,bCA,bJA,bNYA,bSA,bRA,bLA,bYA,bWA,bHA",
    "bMBA,bNGGA,bNDA,bNYJA,bA,aVOWEL SIGN I,cU,cE,cAI,cO,cAU,cEU,cEA,aCONSONANT SIGN NG,cN,cR",
    "cH,aVIRAMA,11aSECTION MARK"]⟩,
  ⟨"RETURN", ["9166aSYMBOL,1985aLEFT,aRIGHT"]⟩,
  ⟨"REVERSE", [
    "92aSOLIDUS,10091bPRECEDING SUBSET,556bOPERATOR,1bWITH HORIZONTAL STROKE",
    "329aTILDE OPERATOR ABOVE LEFTWARDS ARROW,5dRIGHTWARDS ARROW,117559aCHECKER BOARD",
    "328aLIGHT FOUR POINTED PINWHEEL STAR"]⟩,
  ⟨"REVERSED", [
    "8245aPRIME,aDOUBLE PRIME,aTRIPLE PRIME,19aPILCROW SIGN,3aSEMICOLON",
    "243aSANS-SERIF CAPITAL L,249aTILDE,143bEQUALS,66aNOT SIGN,776aROTATED FLORAL HEART BULLET",
    "905aANGLE,1bWITH UNDERBAR,10aEMPTY SET,316aDOUBLE STROKE NOT SIGN,272aRIGHT ANGLE",
    "530aFORKED PARAGRAPHOS,28aQUESTION MARK,18aCOMMA,475aDOUBLE PRIME QUOTATION MARK",
    "116083aRAISED HAND WITH FINGERS SPLAYED,aTHUMBS UP SIGN,bDOWN SIGN,aVICTORY HAND",
    "aHAND WITH MIDDLE FINGER EXTENDED"]⟩,
  ⟨"RIBBON", [
    "11184aARROW DOWN LEFT,cRIGHT,bUP LEFT,cRIGHT,bLEFT UP,bRIGHT UP,bLEFT DOWN,bRIGHT DOWN",
    "116680a"]⟩,
  ⟨"RIGHT", [
    "41aPARENTHESIS,51aSQUARE BRACKET,31aCURLY BRACKET,8091aSINGLE QUOTATION MARK",
    "3aDOUBLE QUOTATION MARK,40aSQUARE BRACKET WITH QUILL,429aARROW WITH SMALL CIRCLE,42aANGLE",
    "130aTACK,27aANGLE WITH ARC,aTRIANGLE,10aNORMAL FACTOR SEMIDIRECT PRODUCT",
    "1aSEMIDIRECT PRODUCT,60aCEILING,1aFLOOR,112aANGLE WITH DOWNWARDS ZIGZAG ARROW",
    "33aPARENTHESIS UPPER HOOK,bEXTENSION,bLOWER HOOK,3aSQUARE BRACKET UPPER CORNER,cEXTENSION",
    "cLOWER CORNER,4aCURLY BRACKET UPPER HOOK,cMIDDLE PIECE,cLOWER HOOK,11aVERTICAL BOX LINE",
    "470aHALF BLOCK,4aONE EIGHTH BLOCK,65aHALF BLACK CIRCLE,494aS-SHAPED BAG DELIMITER",
    "15aOUTER JOIN,29aARROW WITH CIRCLED PLUS,379aDOUBLE ARROW WITH ROUNDED HEAD,12aFISH TAIL",
    "6aWHITE CURLY BRACKET,1bPARENTHESIS,5aSQUARE BRACKET WITH UNDERBAR",
    "1dTICK IN BOTTOM CORNER,1fTOP CORNER,1aANGLE BRACKET WITH DOT,1aARC GREATER-THAN BRACKET",
    "3aBLACK TORTOISE SHELL BRACKET,3aANGLE VARIANT WITH SQUARE",
    "49aTRIANGLE ABOVE LEFT TRIANGLE,10aWIGGLY FENCE,1aDOUBLE WIGGLY FENCE,525aHALF BLACK STAR",
    "534aANGLE SUBSTITUTION MARKER,bDOTTED SUBSTITUTION MARKER,1aSUBSTITUTION BRACKET",
    "1aDOTTED SUBSTITUTION BRACKET,4aTRANSPOSITION BRACKET,2aRAISED OMISSION BRACKET",
    "15aLOW PARAPHRASE BRACKET,3aVERTICAL BAR WITH QUILL,5aSIDEWAYS U BRACKET",
    "1aDOUBLE PARENTHESIS,44aSQUARE BRACKET WITH STROKE,1dDOUBLE STROKE,432aANGLE BRACKET",
    "1aDOUBLE ANGLE BRACKET,1aCORNER BRACKET,1aWHITE CORNER BRACKET,1aBLACK LENTICULAR BRACKET",
    "3aTORTOISE SHELL BRACKET,1aWHITE LENTICULAR BRACKET,1bTORTOISE SHELL BRACKET",
    "1bSQUARE BRACKET,116044aSPEAKER,bWITH ONE SOUND WAVE,cTHREE SOUND WAVES",
    "18aHAND TELEPHONE RECEIVER,107aSPEECH BUBBLE,3aTHOUGHT BUBBLE,1aANGER BUBBLE",
    "1406aTRIANGULAR ONE QUARTER BLOCK,15aAND UPPER ONE EIGHTH BLOCK,bLOWER ONE EIGHTH BLOCK",
    "7aONE QUARTER BLOCK,aTHREE EIGHTHS BLOCK,aFIVE EIGHTHS BLOCK,aTHREE QUARTERS BLOCK",
    "aSEVEN EIGHTHS BLOCK,1aHALF MEDIUM SHADE,37bRUNNING MAN,6bFOLDER,1aOPEN SQUARED DOT",
    "6aTHIRD WHITE RIGHT POINTING INDEX"]⟩,
  ⟨"RIGHT-FACING", ["1421aARMENIAN ETERNITY SIGN,2631aSVASTI SIGN,1cWITH DOTS,125252aFIST"]⟩,
  ⟨"RIGHT-POINTING", [
    "187aDOUBLE ANGLE QUOTATION MARK,8814aANGLE BRACKET,1746aCURVED ANGLE BRACKET",
    "117520aMAGNIFYING GLASS"]⟩,
  ⟨"RIGHT-TO-LEFT", ["8207aMARK,27aEMBEDDING,2aOVERRIDE,56aISOLATE"]⟩,
  ⟨"RIGHTWARDS", [
    "8594aARROW,8bWITH STROKE,1aWAVE ARROW,2aTWO HEADED ARROW,2aARROW WITH TAIL,2bFROM BAR",
    "3bWITH HOOK,1cLOOP,7cCORNER DOWNWARDS,11aHARPOON WITH BARB UPWARDS,dDOWNWARDS",
    "2aARROW OVER LEFTWARDS ARROW,4aPAIRED ARROWS,2aHARPOON OVER LEFTWARDS HARPOON",
    "2aDOUBLE ARROW WITH STROKE,2c,8aTRIPLE ARROW,1aSQUIGGLE ARROW,4aDASHED ARROW",
    "2aARROW TO BAR,2aWHITE ARROW,7cFROM WALL,7aARROW WITH VERTICAL STROKE",
    "2cDOUBLE VERTICAL STROKE,2aOPEN-HEADED ARROW,1793aTWO-HEADED ARROW WITH VERTICAL STROKE",
    "dDOUBLE VERTICAL STROKE,1aDOUBLE ARROW WITH VERTICAL STROKE,1aTWO-HEADED ARROW FROM BAR",
    "1aDOUBLE ARROW FROM BAR,5bDASH ARROW,1aTRIPLE DASH ARROW,aTWO-HEADED TRIPLE DASH ARROW",
    "aARROW WITH DOTTED STEM,2cTAIL WITH VERTICAL STROKE,eDOUBLE VERTICAL STROKE",
    "aTWO-HEADED ARROW WITH TAIL,eWITH VERTICAL STROKE,fDOUBLE VERTICAL STROKE,1aARROW-TAIL",
    "1aDOUBLE ARROW-TAIL,1aARROW TO BLACK DIAMOND,1bFROM BAR TO BLACK DIAMOND",
    "33bABOVE SHORT LEFTWARDS ARROW,2bWITH PLUS BELOW,1bTHROUGH X",
    "11aHARPOON WITH BARB UP TO BAR,3dDOWN TO BAR,3dUP FROM BAR,3dDOWN FROM BAR",
    "4dUP ABOVE RIGHTWARDS HARPOON WITH BARB DOWN,3fLEFTWARDS HARPOON WITH BARB UP",
    "dDOWN ABOVE LEFTWARDS HARPOON WITH BARB DOWN,2dUP ABOVE LONG DASH,dDOWN BELOW LONG DASH",
    "6aARROW ABOVE TILDE OPERATOR,cALMOST EQUAL TO,408bWITH TIP DOWNWARDS,dUPWARDS",
    "51bTHROUGH GREATER-THAN,cSUPERSET,1aQUADRUPLE ARROW,1aARROW ABOVE REVERSE ALMOST EQUAL TO",
    "3dTILDE OPERATOR,21aTRIANGLE-HEADED ARROW,9bDASHED ARROW,5bARROW TO BAR",
    "9cWITH DOUBLE HORIZONTAL STROKE,5cOVER LEFTWARDS TRIANGLE-HEADED ARROW,3bPAIRED ARROWS",
    "3aBLACK CIRCLED WHITE ARROW,10bARROW,15aTRIANGLE-HEADED ARROW WITH LONG TIP UPWARDS",
    "1fDOWNWARDS,70aTWO-HEADED ARROW WITH TRIANGLE ARROWHEADS,117375aROCKET",
    "403aARROW WITH SMALL TRIANGLE ARROWHEAD,3cMEDIUM TRIANGLE ARROWHEAD",
    "3cLARGE TRIANGLE ARROWHEAD,7cSMALL EQUILATERAL ARROWHEAD,3cEQUILATERAL ARROWHEAD",
    "11aTRIANGLE-HEADED ARROW WITH NARROW SHAFT,3dMEDIUM SHAFT,3dBOLD SHAFT,3dHEAVY SHAFT",
    "3dVERY HEAVY SHAFT,3aFINGER-POST ARROW,3aSQUARED ARROW,3aCOMPRESSED ARROW",
    "3aHEAVY COMPRESSED ARROW,3bARROW,11aSANS-SERIF ARROW,63aTRIANGLE ARROWHEAD",
    "3aWHITE ARROW WITHIN TRIANGLE ARROWHEAD,3aARROW WITH NOTCHED TAIL",
    "6aBOTTOM SHADED WHITE ARROW,1aTOP SHADED WHITE ARROW,1aRIGHT-SHADED WHITE ARROW",
    "1aLEFT-SHADED WHITE ARROW,1aBACK-TILTED SHADOWED WHITE ARROW",
    "1aFRONT-TILTED SHADOWED WHITE ARROW,581aHAND",
    "196aARROW AND UPPER AND LOWER ONE EIGHTH BLOCK"]⟩,
  ⟨"RING", ["730aABOVE,7997aOPERATOR,61aIN EQUAL TO,aEQUAL TO,3032aPOINT,116316a,593aBUOY"]⟩,
  ⟨"ROMAN", [
    "8544aNUMERAL ONE,bTWO,bTHREE,bFOUR,bFIVE,bSIX,bSEVEN,bEIGHT,bNINE,bTEN,bELEVEN,bTWELVE",
    "bFIFTY,bONE HUNDRED,bFIVE HUNDRED,bONE THOUSAND,16dC D,bFIVE THOUSAND,bTEN THOUSAND",
    "bREVERSED ONE HUNDRED,1bSIX LATE FORM,bFIFTY EARLY FORM,cTHOUSAND,bONE HUNDRED THOUSAND",
    "57351aSEXTANS SIGN,aUNCIA SIGN,aSEMUNCIA SIGN,aSEXTULA SIGN,aDIMIDIA SEXTULA SIGN",
    "aSILIQUA SIGN,aDENARIUS SIGN,aQUINARIUS SIGN,aSESTERTIUS SIGN,aDUPONDIUS SIGN,aAS SIGN",
    "aCENTURIAL SIGN"]⟩,
  ⟨"ROTATED", [
    "8506aCAPITAL Q,1578aHEAVY BLACK HEART BULLET,1aFLORAL HEART BULLET",
    "1125aLIGHT FOUR POINTED BLACK CUSP,1aWHITE FOUR POINTED CUSP"]⟩,
  ⟨"ROUNDED", ["127584aSYMBOL FOR FU,cLU,cSHOU,cXI,cSHUANGXI,cCAI"]⟩,
  ⟨"RUMI", [
    "69216aDIGIT ONE,bTWO,bTHREE,bFOUR,bFIVE,bSIX,bSEVEN,bEIGHT,bNINE,aNUMBER TEN,bTWENTY",
    "bTHIRTY,bFORTY,bFIFTY,bSIXTY,bSEVENTY,bEIGHTY,bNINETY,bONE HUNDRED,bTWO HUNDRED",
    "bTHREE HUNDRED,bFOUR HUNDRED,bFIVE HUNDRED,bSIX HUNDRED,bSEVEN HUNDRED,bEIGHT HUNDRED",
    "bNINE HUNDRED,aFRACTION ONE HALF,cQUARTER,cTHIRD,bTWO THIRDS"]⟩,
  ⟨"RUNIC", [
    "5792aLETTER FEHU FEOH FE F,bV,bURUZ UR U,bYR,bY,bW,bTHURISAZ THURS THORN,bETH,bANSUZ A",
    "bOS O,bAC A,bAESC,bLONG-BRANCH-OSS O,bSHORT-TWIG-OSS O,bO,bOE,bON,bRAIDO RAD REID R",
    "bKAUNA,bCEN,bKAUN K,bG,bENG,bGEBO GYFU G,bGAR,bWUNJO WYNN W,bHAGLAZ H,bHAEGL H",
    "bLONG-BRANCH-HAGALL H,bSHORT-TWIG-HAGALL H,bNAUDIZ NYD NAUD N,bSHORT-TWIG-NAUD N",
    "bDOTTED-N,bISAZ IS ISS I,bE,bJERAN J,bGER,bLONG-BRANCH-AR AE,bSHORT-TWIG-AR A,bIWAZ EOH",
    "bPERTHO PEORTH P,bALGIZ EOLHX,bSOWILO S,bSIGEL LONG-BRANCH-SOL S,bSHORT-TWIG-SOL S,bC,bZ",
    "bTIWAZ TIR TYR T,bSHORT-TWIG-TYR T,bD,bBERKANAN BEORC BJARKAN B,bSHORT-TWIG-BJARKAN B",
    "bDOTTED-P,bOPEN-P,bEHWAZ EH E,bMANNAZ MAN M,bLONG-BRANCH-MADR M,bSHORT-TWIG-MADR M",
    "bLAUKAZ LAGU LOGR L,bDOTTED-L,bINGWAZ,bING,bDAGAZ DAEG D,bOTHALAN ETHEL O,bEAR,bIOR",
    "bCWEORTH,bCALC,bCEALC,bSTAN,bLONG-BRANCH-YR,bSHORT-TWIG-YR,bICELANDIC-YR,bQ,bX",
    "aSINGLE PUNCTUATION,aMULTIPLE PUNCTUATION,aCROSS PUNCTUATION,aARLAUG SYMBOL",
    "aTVIMADUR SYMBOL,aBELGTHOR SYMBOL,aLETTER K,bSH,bOO,bFRANKS CASKET OS,dIS,dEH,dAC,dAESC"]⟩,
  ⟨"RUSSIAN", [
    "11251aASTROLOGICAL SYMBOL VIGINTILE,cNOVILE,cQUINTILE,cBINOVILE,cSENTAGON,cTREDECILE"]⟩]

/-- The names that begin with S. -/
def namesS : List NameGroup := [
  ⟨"SAMARITAN", [
    "2048aLETTER ALAF,bBIT,bGAMAN,bDALAT,bIY,bBAA,bZEN,bIT,bTIT,bYUT,bKAAF,bLABAT,bMIM,bNUN",
    "bSINGAAT,bIN,bFI,bTSAADIY,bQUF,bRISH,bSHAN,bTAAF,aMARK IN,bIN-ALAF,bOCCLUSION,bDAGESH",
    "aMODIFIER LETTER EPENTHETIC YUT,aMARK EPENTHETIC YUT,aVOWEL SIGN LONG E,cE,cOVERLONG AA",
    "cLONG AA,cAA,cOVERLONG A,cLONG A,cA,aMODIFIER LETTER SHORT A,aVOWEL SIGN SHORT A,cLONG U",
    "cU,aMODIFIER LETTER I,aVOWEL SIGN LONG I,cI,cO,cSUKUN,aMARK NEQUDAA,2aPUNCTUATION NEQUDAA",
    "bAFSAAQ,bANGED,bBAU,bATMAAU,bSHIYYAALAA,aABBREVIATION MARK,aPUNCTUATION MELODIC QITSA",
    "bZIQAA,bQITSA,bZAEF,bTURU,bARKAANU,bSOF MASHFAAT,bANNAAU"]⟩,
  ⟨"SANS-SERIF", [
    "128630aHEAVY DOUBLE TURNED COMMA QUOTATION MARK ORNAMENT,cCOMMA QUOTATION MARK ORNAMENT",
    "bLOW DOUBLE COMMA QUOTATION MARK ORNAMENT,1aINTERROBANG ORNAMENT"]⟩,
  ⟨"SAURASHTRA", [
    "43136aSIGN ANUSVARA,bVISARGA,aLETTER A,bAA,bI,bII,bU,bUU,bVOCALIC R,cRR,cL,cLL,bE,bEE,bAI",
    "bO,bOO,bAU,bKA,bKHA,bGA,bGHA,bNGA,bCA,bCHA,bJA,bJHA,bNYA,bTTA,bTTHA,bDDA,bDDHA,bNNA,bTA",
    "bTHA,bDA,bDHA,bNA,bPA,bPHA,bBA,bBHA,bMA,bYA,bRA,bLA,bVA,bSHA,bSSA,bSA,bHA,bLLA",
    "aCONSONANT SIGN HAARU,aVOWEL SIGN AA,cI,cII,cU,cUU,cVOCALIC R,dRR,dL,dLL,cE,cEE,cAI,cO",
    "cOO,cAU,aSIGN VIRAMA,bCANDRABINDU,8aDANDA,aDOUBLE DANDA,aDIGIT ZERO,bONE,bTWO,bTHREE",
    "bFOUR,bFIVE,bSIX,bSEVEN,bEIGHT,bNINE"]⟩,
  ⟨"SCRIPT", [
    "8458aSMALL G,aCAPITAL H,4bI,1bL,aSMALL L,4aCAPITAL P,2bR,16bB,2aSMALL E,aCAPITAL E,bF,1bM",
    "aSMALL O,120123aLIGATURE ET ORNAMENT"]⟩,
  ⟨"SEGMENTED", ["130032aDIGIT ZERO,bONE,bTWO,bTHREE,bFOUR,bFIVE,bSIX,bSEVEN,bEIGHT,bNINE"]⟩,
  ⟨"SHADOWED", ["10014aWHITE LATIN CROSS,17bSTAR,28bCIRCLE"]⟩,
  ⟨"SHARADA", [
    "70016aSIGN CANDRABINDU,bANUSVARA,bVISARGA,aLETTER A,bAA,bI,bII,bU,bUU,bVOCALIC R,cRR,cL",
    "cLL,bE,bAI,bO,bAU,bKA,bKHA,bGA,bGHA,bNGA,bCA,bCHA,bJA,bJHA,bNYA,bTTA,bTTHA,bDDA,bDDHA",
    "bNNA,bTA,bTHA,bDA,bDHA,bNA,bPA,bPHA,bBA,bBHA,bMA,bYA,bRA,bLA,bLLA,bVA,bSHA,bSSA,bSA,bHA",
    "aVOWEL SIGN AA,cI,cII,cU,cUU,cVOCALIC R,dRR,dL,dLL,cE,cAI,cO,cAU,aSIGN VIRAMA,bAVAGRAHA",
    "bJIHVAMULIYA,bUPADHMANIYA,aOM,aDANDA,aDOUBLE DANDA,aABBREVIATION SIGN,aSEPARATOR",
    "aSANDHI MARK,aSIGN NUKTA,aVOWEL MODIFIER MARK,aEXTRA SHORT VOWEL MARK,aSUTRA MARK",
    "aVOWEL SIGN PRISHTHAMATRA E,aSIGN INVERTED CANDRABINDU,aDIGIT ZERO,bONE,bTWO,bTHREE,bFOUR",
    "bFIVE,bSIX,bSEVEN,bEIGHT,bNINE,aEKAM,aSIGN SIDDHAM,aHEADSTROKE,aCONTINUATION SIGN",
    "aSECTION MARK-1,bMARK-2"]⟩,
  ⟨"SHAVIAN", [
    "66640aLETTER PEEP,bTOT,bKICK,bFEE,bTHIGH,bSO,bSURE,bCHURCH,bYEA,bHUNG,bBIB,bDEAD,bGAG",
    "bVOW,bTHEY,bZOO,bMEASURE,bJUDGE,bWOE,bHA-HA,bLOLL,bMIME,bIF,bEGG,bASH,bADO,bON,bWOOL,bOUT",
    "bAH,bROAR,bNUN,bEAT,bAGE,bICE,bUP,bOAK,bOOZE,bOIL,bAWE,bARE,bOR,bAIR,bERR,bARRAY,bEAR",
    "bIAN,bYEW"]⟩,
  ⟨"SHORT", [
    "10564aRIGHTWARDS ARROW ABOVE LEFTWARDS ARROW,409aLEFT TACK,aDOWN TACK,aUP TACK",
    "6aDOWN TACK WITH OVERBAR,aUP TACK WITH UNDERBAR,cABOVE SHORT DOWN TACK",
    "100aSLANTED NORTH ARROW,aBACKSLANTED SOUTH ARROW",
    "15aBENT ARROW POINTING DOWNWARDS THEN NORTH EAST"]⟩,
  ⟨"SHORTHAND", ["113824aFORMAT LETTER OVERLAP,bCONTINUING OVERLAP,bDOWN STEP,bUP STEP"]⟩,
  ⟨"SIDDHAM", [
    "71040aLETTER A,bAA,bI,bII,bU,bUU,bVOCALIC R,cRR,cL,cLL,bE,bAI,bO,bAU,bKA,bKHA,bGA,bGHA",
    "bNGA,bCA,bCHA,bJA,bJHA,bNYA,bTTA,bTTHA,bDDA,bDDHA,bNNA,bTA,bTHA,bDA,bDHA,bNA,bPA,bPHA,bBA",
    "bBHA,bMA,bYA,bRA,bLA,bVA,bSHA,bSSA,bSA,bHA,aVOWEL SIGN AA,cI,cII,cU,cUU,cVOCALIC R,dRR",
    "2cE,cAI,cO,cAU,aSIGN CANDRABINDU,bANUSVARA,bVISARGA,bVIRAMA,bNUKTA,bSIDDHAM,aDANDA",
    "aDOUBLE DANDA,aSEPARATOR DOT,bBAR,aREPETITION MARK-1,bMARK-2,bMARK-3,aEND OF TEXT MARK",
    "aSECTION MARK WITH TRIDENT AND U-SHAPED ORNAMENTS,fDOTTED CRESCENTS",
    "dRAYS AND DOTTED CRESCENTS,gDOUBLE CRESCENTS,gTRIPLE CRESCENTS,cDOUBLE RING,eWITH RAYS",
    "cWITH DOUBLE CRESCENTS,dTRIPLE CRESCENTS,dQUADRUPLE CRESCENTS,dSEPTUPLE CRESCENTS",
    "dCIRCLES AND RAYS,fTWO ENCLOSURES,fFOUR ENCLOSURES,aLETTER THREE-CIRCLE ALTERNATE I",
    "bTWO-CIRCLE ALTERNATE I,dII,bALTERNATE U,aVOWEL SIGN ALTERNATE U,dUU"]⟩,
  ⟨"SIDEWAYS", [
    "128408aWHITE LEFT POINTING INDEX,bRIGHT POINTING INDEX,aBLACK LEFT POINTING INDEX",
    "bRIGHT POINTING INDEX,2aWHITE UP POINTING INDEX,bDOWN POINTING INDEX",
    "aBLACK UP POINTING INDEX,bDOWN POINTING INDEX"]⟩,
  ⟨"SIGNWRITING", [
    "120832aHAND-FIST INDEX,aHAND-CIRCLE INDEX,aHAND-CUP INDEX,aHAND-OVAL INDEX",
    "aHAND-HINGE INDEX,aHAND-ANGLE INDEX,aHAND-FIST INDEX BENT,aHAND-CIRCLE INDEX BENT",
    "aHAND-FIST THUMB UNDER INDEX BENT,bINDEX RAISED KNUCKLE,cCUPPED,cHINGED,dLOW",
    "aHAND-CIRCLE INDEX HINGE,aHAND-FIST INDEX MIDDLE,aHAND-CIRCLE INDEX MIDDLE",
    "aHAND-FIST INDEX MIDDLE BENT,dRAISED KNUCKLES,dHINGED,cUP MIDDLE HINGED,cHINGED MIDDLE UP",
    "cMIDDLE CONJOINED,eINDEX BENT,eMIDDLE BENT,eCUPPED,eHINGED,dCROSSED",
    "aHAND-CIRCLE INDEX MIDDLE CROSSED,aHAND-FIST MIDDLE BENT OVER INDEX",
    "bINDEX BENT OVER MIDDLE,cMIDDLE THUMB,aHAND-CIRCLE INDEX MIDDLE THUMB",
    "aHAND-FIST INDEX MIDDLE STRAIGHT THUMB BENT,dBENT THUMB STRAIGHT,dTHUMB BENT",
    "dHINGED SPREAD THUMB SIDE,cUP MIDDLE HINGED THUMB SIDE,gCONJOINED",
    "cHINGED MIDDLE UP THUMB SIDE,cMIDDLE UP SPREAD THUMB FORWARD,dTHUMB CUPPED,eCIRCLED",
    "eHOOKED,eHINGED,bTHUMB BETWEEN INDEX MIDDLE STRAIGHT,bINDEX MIDDLE CONJOINED THUMB SIDE",
    "gCONJOINED,gBENT,bMIDDLE THUMB HOOKED INDEX UP,bINDEX THUMB HOOKED MIDDLE UP",
    "cMIDDLE CONJOINED HINGED THUMB SIDE,dCROSSED THUMB SIDE,dCONJOINED THUMB FORWARD",
    "eCUPPED THUMB FORWARD,bMIDDLE THUMB CUPPED INDEX UP,bINDEX THUMB CUPPED MIDDLE UP",
    "bMIDDLE THUMB CIRCLED INDEX UP,fHINGED,bINDEX THUMB ANGLED OUT MIDDLE UP,eIN MIDDLE UP",
    "dCIRCLED MIDDLE UP,cMIDDLE THUMB CONJOINED HINGED,eANGLED OUT,f",
    "bMIDDLE THUMB ANGLED OUT INDEX UP,gCROSSED,eINDEX UP,bINDEX THUMB HOOKED MIDDLE HINGED",
    "aHAND-FLAT FOUR FINGERS,dBENT,dHINGED,dCONJOINED,eSPLIT,aHAND-CLAW FOUR FINGERS CONJOINED",
    "aHAND-FIST FOUR FINGERS CONJOINED BENT,aHAND-HINGE FOUR FINGERS CONJOINED",
    "aHAND-FLAT FIVE FINGERS SPREAD,bHEEL FIVE FINGERS SPREAD,bFIVE FINGERS SPREAD FOUR BENT",
    "bHEEL FIVE FINGERS SPREAD FOUR BENT,bFIVE FINGERS SPREAD BENT",
    "bHEEL FIVE FINGERS SPREAD BENT,bFIVE FINGERS SPREAD THUMB FORWARD",
    "aHAND-CUP FIVE FINGERS SPREAD,eOPEN,aHAND-HINGE FIVE FINGERS SPREAD OPEN",
    "aHAND-OVAL FIVE FINGERS SPREAD,aHAND-FLAT FIVE FINGERS SPREAD HINGED,fTHUMB SIDE",
    "fNO THUMB,b,bBETWEEN PALM FACINGS,bHEEL,bTHUMB SIDE,bHEEL THUMB SIDE,bTHUMB BENT,cFORWARD",
    "bSPLIT INDEX THUMB SIDE,cCENTRE,dTHUMB SIDE,fBENT,cLITTLE,aHAND-CLAW,bTHUMB SIDE",
    "bNO THUMB,bTHUMB FORWARD,aHAND-HOOK CURLICUE,b,aHAND-CUP OPEN,b,bOPEN THUMB SIDE",
    "bTHUMB SIDE,bOPEN NO THUMB,bNO THUMB,bOPEN THUMB FORWARD,bTHUMB FORWARD",
    "aHAND-CURLICUE OPEN,b,aHAND-CIRCLE,aHAND-OVAL,bTHUMB SIDE,bNO THUMB,bTHUMB FORWARD",
    "aHAND-HINGE OPEN,cTHUMB FORWARD,b,bSMALL,bOPEN THUMB SIDE,bTHUMB SIDE,bOPEN NO THUMB",
    "bNO THUMB,bTHUMB SIDE TOUCHING INDEX,cBETWEEN MIDDLE RING,aHAND-ANGLE",
    "aHAND-FIST INDEX MIDDLE RING,aHAND-CIRCLE INDEX MIDDLE RING,aHAND-HINGE INDEX MIDDLE RING",
    "aHAND-ANGLE INDEX MIDDLE RING,aHAND-HINGE LITTLE,aHAND-FIST INDEX MIDDLE RING BENT",
    "eCONJOINED,aHAND-HINGE INDEX MIDDLE RING CONJOINED,aHAND-FIST LITTLE DOWN",
    "dRIPPLE STRAIGHT,eCURVED,dOTHERS CIRCLED,cUP,bTHUMB UNDER LITTLE UP",
    "aHAND-CIRCLE LITTLE UP,aHAND-OVAL LITTLE UP,aHAND-ANGLE LITTLE UP",
    "aHAND-FIST LITTLE RAISED KNUCKLE,cBENT,cTOUCHES THUMB,cTHUMB,aHAND-HINGE LITTLE THUMB",
    "aHAND-FIST LITTLE INDEX THUMB,aHAND-HINGE LITTLE INDEX THUMB",
    "aHAND-ANGLE LITTLE INDEX THUMB INDEX THUMB OUT,g,aHAND-FIST LITTLE INDEX",
    "aHAND-CIRCLE LITTLE INDEX,aHAND-HINGE LITTLE INDEX,aHAND-ANGLE LITTLE INDEX",
    "aHAND-FIST INDEX MIDDLE LITTLE,aHAND-CIRCLE INDEX MIDDLE LITTLE",
    "aHAND-HINGE INDEX MIDDLE LITTLE,bRING,aHAND-ANGLE INDEX MIDDLE LITTLE",
    "aHAND-FIST INDEX MIDDLE CROSS LITTLE,aHAND-CIRCLE INDEX MIDDLE CROSS LITTLE",
    "aHAND-FIST RING DOWN,aHAND-HINGE RING DOWN INDEX THUMB HOOK MIDDLE",
    "aHAND-ANGLE RING DOWN MIDDLE THUMB INDEX CROSS,aHAND-FIST RING UP,cRAISED KNUCKLE,cLITTLE",
    "aHAND-CIRCLE RING LITTLE,aHAND-OVAL RING LITTLE,aHAND-ANGLE RING LITTLE",
    "aHAND-FIST RING MIDDLE,dCONJOINED,dRAISED KNUCKLES,cINDEX,cTHUMB,aHAND-HOOK RING THUMB",
    "aHAND-FIST INDEX RING LITTLE,aHAND-CIRCLE INDEX RING LITTLE",
    "aHAND-CURLICUE INDEX RING LITTLE ON,aHAND-HOOK INDEX RING LITTLE OUT,eIN,eUNDER",
    "aHAND-CUP INDEX RING LITTLE,aHAND-HINGE INDEX RING LITTLE",
    "aHAND-ANGLE INDEX RING LITTLE OUT,e,aHAND-FIST MIDDLE DOWN,aHAND-HINGE MIDDLE",
    "aHAND-FIST MIDDLE UP,aHAND-CIRCLE MIDDLE UP,aHAND-FIST MIDDLE RAISED KNUCKLE",
    "cUP THUMB SIDE,aHAND-HOOK MIDDLE THUMB,aHAND-FIST MIDDLE THUMB LITTLE,cLITTLE",
    "cRING LITTLE,aHAND-CIRCLE MIDDLE RING LITTLE,aHAND-CURLICUE MIDDLE RING LITTLE ON",
    "aHAND-CUP MIDDLE RING LITTLE,aHAND-HINGE MIDDLE RING LITTLE",
    "aHAND-ANGLE MIDDLE RING LITTLE OUT,eIN,e,aHAND-CIRCLE MIDDLE RING LITTLE BENT",
    "aHAND-CLAW MIDDLE RING LITTLE CONJOINED,fSIDE,aHAND-HOOK MIDDLE RING LITTLE CONJOINED OUT",
    "fIN,f,aHAND-HINGE INDEX HINGED,aHAND-FIST INDEX THUMB SIDE,aHAND-HINGE INDEX THUMB SIDE",
    "aHAND-FIST INDEX THUMB SIDE THUMB DIAGONAL,fCONJOINED,fBENT,eINDEX BENT,eBOTH BENT",
    "eINDEX HINGE,dFORWARD INDEX STRAIGHT,fBENT,dHOOK,dCURLICUE,dCURVE THUMB INSIDE",
    "aHAND-CLAW INDEX THUMB CURVE THUMB INSIDE,aHAND-FIST INDEX THUMB CURVE THUMB UNDER",
    "dCIRCLE,aHAND-CUP INDEX THUMB,dOPEN,aHAND-HINGE INDEX THUMB OPEN,dLARGE,d,dSMALL",
    "aHAND-ANGLE INDEX THUMB OUT,dIN,d,aHAND-FIST THUMB,cHEEL,cSIDE DIAGONAL,dCONJOINED,dBENT",
    "cFORWARD,cBETWEEN INDEX MIDDLE,dMIDDLE RING,dRING LITTLE,cUNDER TWO FINGERS",
    "cOVER TWO FINGERS,cUNDER THREE FINGERS,dFOUR FINGERS,cOVER FOUR RAISED KNUCKLES,b,bHEEL",
    "aTOUCH SINGLE,bMULTIPLE,bBETWEEN,aGRASP SINGLE,bMULTIPLE,bBETWEEN,aSTRIKE SINGLE",
    "bMULTIPLE,bBETWEEN,aBRUSH SINGLE,bMULTIPLE,bBETWEEN,aRUB SINGLE,bMULTIPLE,bBETWEEN",
    "aSURFACE SYMBOLS,bBETWEEN,aSQUEEZE LARGE SINGLE,bSMALL SINGLE,bLARGE MULTIPLE",
    "bSMALL MULTIPLE,bSEQUENTIAL,aFLICK LARGE SINGLE,bSMALL SINGLE,bLARGE MULTIPLE",
    "bSMALL MULTIPLE,bSEQUENTIAL,aSQUEEZE FLICK ALTERNATING,aMOVEMENT-HINGE UP DOWN LARGE",
    "dSMALL,cSEQUENTIAL,bDOWN SEQUENTIAL,bUP DOWN ALTERNATING LARGE,eSMALL",
    "bSIDE TO SIDE SCISSORS,aMOVEMENT-WALLPLANE FINGER CONTACT",
    "aMOVEMENT-FLOORPLANE FINGER CONTACT,aMOVEMENT-WALLPLANE SINGLE STRAIGHT SMALL,dMEDIUM",
    "dLARGE,dLARGEST,cWRIST FLEX,bDOUBLE STRAIGHT,cWRIST FLEX,cALTERNATING,dWRIST FLEX,bCROSS",
    "bTRIPLE STRAIGHT MOVEMENT,cWRIST FLEX,cALTERNATING,dWRIST FLEX,bBEND SMALL,cMEDIUM,cLARGE",
    "bCORNER SMALL,cMEDIUM,cLARGE,cROTATION,bCHECK SMALL,cMEDIUM,cLARGE,bBOX SMALL,cMEDIUM",
    "cLARGE,bZIGZAG SMALL,cMEDIUM,cLARGE,bPEAKS SMALL,cMEDIUM,cLARGE",
    "aTRAVEL-WALLPLANE ROTATION-WALLPLANE SINGLE,cDOUBLE,cALTERNATING",
    "bROTATION-FLOORPLANE SINGLE,cDOUBLE,cALTERNATING,bSHAKING,bARM SPIRAL SINGLE,dDOUBLE",
    "dTRIPLE,aMOVEMENT-DIAGONAL AWAY SMALL,cMEDIUM,cLARGE,cLARGEST,bTOWARDS SMALL,cMEDIUM",
    "cLARGE,cLARGEST,bBETWEEN AWAY SMALL,dMEDIUM,dLARGE,dLARGEST,cTOWARDS SMALL,dMEDIUM,dLARGE",
    "dLARGEST,aMOVEMENT-FLOORPLANE SINGLE STRAIGHT SMALL,dMEDIUM,dLARGE,dLARGEST,cWRIST FLEX",
    "bDOUBLE STRAIGHT,cWRIST FLEX,cALTERNATING,dWRIST FLEX,bCROSS,bTRIPLE STRAIGHT MOVEMENT",
    "cWRIST FLEX,cALTERNATING MOVEMENT,dWRIST FLEX,bBEND,bCORNER SMALL,cMEDIUM,cLARGE,bCHECK",
    "bBOX SMALL,cMEDIUM,cLARGE,bZIGZAG SMALL,cMEDIUM,cLARGE,bPEAKS SMALL,cMEDIUM,cLARGE",
    "aTRAVEL-FLOORPLANE ROTATION-FLOORPLANE SINGLE,cDOUBLE,cALTERNATING",
    "bROTATION-WALLPLANE SINGLE,cDOUBLE,cALTERNATING,bSHAKING",
    "aMOVEMENT-WALLPLANE CURVE QUARTER SMALL,dMEDIUM,dLARGE,dLARGEST,cHALF-CIRCLE SMALL",
    "dMEDIUM,dLARGE,dLARGEST,cTHREE-QUARTER CIRCLE SMALL,eMEDIUM,bHUMP SMALL,cMEDIUM,cLARGE",
    "bLOOP SMALL,cMEDIUM,cLARGE,cSMALL DOUBLE,bWAVE CURVE DOUBLE SMALL,eMEDIUM,eLARGE",
    "dTRIPLE SMALL,eMEDIUM,eLARGE,bCURVE THEN STRAIGHT,bCURVED CROSS SMALL,dMEDIUM",
    "aROTATION-WALLPLANE SINGLE,bDOUBLE,bALTERNATE,aMOVEMENT-WALLPLANE SHAKING",
    "bCURVE HITTING FRONT WALL,bHUMP HITTING FRONT WALL,bLOOP HITTING FRONT WALL",
    "bWAVE HITTING FRONT WALL,aROTATION-WALLPLANE SINGLE HITTING FRONT WALL",
    "bDOUBLE HITTING FRONT WALL,bALTERNATING HITTING FRONT WALL",
    "aMOVEMENT-WALLPLANE CURVE HITTING CHEST,bHUMP HITTING CHEST,bLOOP HITTING CHEST",
    "bWAVE HITTING CHEST,aROTATION-WALLPLANE SINGLE HITTING CHEST,bDOUBLE HITTING CHEST",
    "bALTERNATING HITTING CHEST,aMOVEMENT-WALLPLANE WAVE DIAGONAL PATH SMALL,eMEDIUM,eLARGE",
    "aMOVEMENT-FLOORPLANE CURVE HITTING CEILING SMALL,eLARGE",
    "bHUMP HITTING CEILING SMALL DOUBLE,eLARGE DOUBLE,eSMALL TRIPLE,eLARGE TRIPLE",
    "bLOOP HITTING CEILING SMALL SINGLE,eLARGE SINGLE,eSMALL DOUBLE,eLARGE DOUBLE",
    "bWAVE HITTING CEILING SMALL,eLARGE,aROTATION-FLOORPLANE SINGLE HITTING CEILING",
    "bDOUBLE HITTING CEILING,bALTERNATING HITTING CEILING",
    "aMOVEMENT-FLOORPLANE CURVE HITTING FLOOR SMALL,eLARGE,bHUMP HITTING FLOOR SMALL DOUBLE",
    "eLARGE DOUBLE,eTRIPLE SMALL TRIPLE,fLARGE TRIPLE,bLOOP HITTING FLOOR SMALL SINGLE",
    "eLARGE SINGLE,eSMALL DOUBLE,eLARGE DOUBLE,bWAVE HITTING FLOOR SMALL,eLARGE",
    "aROTATION-FLOORPLANE SINGLE HITTING FLOOR,bDOUBLE HITTING FLOOR",
    "bALTERNATING HITTING FLOOR,aMOVEMENT-FLOORPLANE CURVE SMALL,cMEDIUM,cLARGE,cLARGEST",
    "cCOMBINED,bHUMP SMALL,bLOOP SMALL,bWAVE SNAKE,cSMALL,cLARGE,aROTATION-FLOORPLANE SINGLE",
    "bDOUBLE,bALTERNATING,aMOVEMENT-FLOORPLANE SHAKING PARALLEL",
    "aMOVEMENT-WALLPLANE ARM CIRCLE SMALL SINGLE,dMEDIUM SINGLE,dSMALL DOUBLE,dMEDIUM DOUBLE",
    "aMOVEMENT-FLOORPLANE ARM CIRCLE HITTING WALL SMALL SINGLE,fMEDIUM SINGLE,fLARGE SINGLE",
    "fSMALL DOUBLE,fMEDIUM DOUBLE,fLARGE DOUBLE,aMOVEMENT-WALLPLANE WRIST CIRCLE FRONT SINGLE",
    "eDOUBLE,aMOVEMENT-FLOORPLANE WRIST CIRCLE HITTING WALL SINGLE,fDOUBLE",
    "aMOVEMENT-WALLPLANE FINGER CIRCLES SINGLE,dDOUBLE",
    "aMOVEMENT-FLOORPLANE FINGER CIRCLES HITTING WALL SINGLE,fDOUBLE,aDYNAMIC ARROWHEAD SMALL",
    "cLARGE,bFAST,bSLOW,bTENSE,bRELAXED,bSIMULTANEOUS,cALTERNATING,bEVERY OTHER TIME,bGRADUAL",
    "aHEAD,bRIM,bMOVEMENT-WALLPLANE STRAIGHT,cTILT,bMOVEMENT-FLOORPLANE STRAIGHT",
    "bMOVEMENT-WALLPLANE CURVE,bMOVEMENT-FLOORPLANE CURVE,bMOVEMENT CIRCLE",
    "aFACE DIRECTION POSITION NOSE FORWARD TILTING,eUP OR DOWN,hTILTING,aEYEBROWS STRAIGHT UP",
    "cNEUTRAL,cDOWN,aDREAMY EYEBROWS NEUTRAL DOWN,cDOWN NEUTRAL,cUP NEUTRAL,cNEUTRAL UP",
    "aFOREHEAD NEUTRAL,bCONTACT,bWRINKLED,aEYES OPEN,bSQUEEZED,bCLOSED,aEYE BLINK SINGLE",
    "cMULTIPLE,aEYES HALF OPEN,bWIDE OPEN,bHALF CLOSED,bWIDENING MOVEMENT,aEYE WINK",
    "aEYELASHES UP,bDOWN,bFLUTTERING,aEYEGAZE-WALLPLANE STRAIGHT,cDOUBLE,cALTERNATING",
    "aEYEGAZE-FLOORPLANE STRAIGHT,cDOUBLE,cALTERNATING,aEYEGAZE-WALLPLANE CURVED",
    "aEYEGAZE-FLOORPLANE CURVED,aEYEGAZE-WALLPLANE CIRCLING,aCHEEKS PUFFED,bNEUTRAL,bSUCKED",
    "aTENSE CHEEKS HIGH,cMIDDLE,cLOW,aEARS,aNOSE NEUTRAL,bCONTACT,bWRINKLES,bWIGGLES",
    "aAIR BLOWING OUT,bSUCKING IN,bBLOW SMALL ROTATIONS,bSUCK SMALL ROTATIONS,aBREATH INHALE",
    "bEXHALE,aMOUTH CLOSED NEUTRAL,cFORWARD,cCONTACT,bSMILE,cWRINKLED,cOPEN,bFROWN,cWRINKLED",
    "cOPEN,bOPEN CIRCLE,cFORWARD,cWRINKLED,cOVAL,dWRINKLED,dYAWN,cRECTANGLE,dWRINKLED,dYAWN",
    "bKISS,cFORWARD,cWRINKLED,bTENSE,cFORWARD,cSUCKED,aLIPS PRESSED TOGETHER",
    "aLIP LOWER OVER UPPER,bUPPER OVER LOWER,aMOUTH CORNERS,bWRINKLES SINGLE,cDOUBLE",
    "aTONGUE STICKING OUT FAR,bLICKING LIPS,bTIP BETWEEN LIPS,cTOUCHING INSIDE MOUTH",
    "bINSIDE MOUTH RELAXED,bMOVES AGAINST CHEEK,bCENTRE STICKING OUT,cINSIDE MOUTH,aTEETH",
    "bMOVEMENT,bON TONGUE,dMOVEMENT,cLIPS,dMOVEMENT,bBITE LIPS,aMOVEMENT-WALLPLANE JAW",
    "aMOVEMENT-FLOORPLANE JAW,aNECK,aHAIR,aEXCITEMENT,aSHOULDER HIP SPINE,cPOSITIONS",
    "aWALLPLANE SHOULDER HIP MOVE,aFLOORPLANE SHOULDER HIP MOVE,aSHOULDER TILTING FROM WAIST",
    "aTORSO-WALLPLANE STRAIGHT STRETCH,bCURVED BEND,aTORSO-FLOORPLANE TWISTING",
    "aUPPER BODY TILTING FROM HIP JOINTS,aLIMB COMBINATION,bLENGTH-1,bLENGTH-2,bLENGTH-3",
    "bLENGTH-4,bLENGTH-5,bLENGTH-6,bLENGTH-7,aFINGER,aLOCATION-WALLPLANE SPACE",
    "aLOCATION-FLOORPLANE SPACE,aLOCATION HEIGHT,bWIDTH,bDEPTH,bHEAD NECK,bTORSO,bLIMBS DIGITS",
    "aCOMMA,aFULL STOP,aSEMICOLON,aCOLON,aPARENTHESIS,15aFILL MODIFIER-2,bMODIFIER-3",
    "bMODIFIER-4,bMODIFIER-5,bMODIFIER-6,1aROTATION MODIFIER-2,bMODIFIER-3,bMODIFIER-4",
    "bMODIFIER-5,bMODIFIER-6,bMODIFIER-7,bMODIFIER-8,bMODIFIER-9,bMODIFIER-10,bMODIFIER-11",
    "bMODIFIER-12,bMODIFIER-13,bMODIFIER-14,bMODIFIER-15,bMODIFIER-16"]⟩,
  ⟨"SIMILAR", [
    "10860aMINUS SIMILAR,48aOR LESS-THAN,bGREATER-THAN,aABOVE LESS-THAN ABOVE EQUALS SIGN",
    "bGREATER-THAN ABOVE EQUALS SIGN"]⟩,
  ⟨"SINGLE", [
    "8218aLOW-9 QUOTATION MARK,aHIGH-REVERSED-9 QUOTATION MARK",
    "29aLEFT-POINTING ANGLE QUOTATION MARK,aRIGHT-POINTING ANGLE QUOTATION MARK"]⟩,
  ⟨"SINHALA", [
    "3457aSIGN CANDRABINDU,bANUSVARAYA,bVISARGAYA,1aLETTER AYANNA,bAAYANNA,bAEYANNA,bAEEYANNA",
    "bIYANNA,bIIYANNA,bUYANNA,bUUYANNA,bIRUYANNA,bIRUUYANNA,bILUYANNA,bILUUYANNA,bEYANNA",
    "bEEYANNA,bAIYANNA,bOYANNA,bOOYANNA,bAUYANNA,3bALPAPRAANA KAYANNA,bMAHAAPRAANA KAYANNA",
    "bALPAPRAANA GAYANNA,bMAHAAPRAANA GAYANNA,bKANTAJA NAASIKYAYA,bSANYAKA GAYANNA",
    "bALPAPRAANA CAYANNA,bMAHAAPRAANA CAYANNA,bALPAPRAANA JAYANNA,bMAHAAPRAANA JAYANNA",
    "bTAALUJA NAASIKYAYA,cSANYOOGA NAAKSIKYAYA,bSANYAKA JAYANNA,bALPAPRAANA TTAYANNA",
    "bMAHAAPRAANA TTAYANNA,bALPAPRAANA DDAYANNA,bMAHAAPRAANA DDAYANNA,bMUURDHAJA NAYANNA",
    "bSANYAKA DDAYANNA,bALPAPRAANA TAYANNA,bMAHAAPRAANA TAYANNA,bALPAPRAANA DAYANNA",
    "bMAHAAPRAANA DAYANNA,bDANTAJA NAYANNA,1bSANYAKA DAYANNA,bALPAPRAANA PAYANNA",
    "bMAHAAPRAANA PAYANNA,bALPAPRAANA BAYANNA,bMAHAAPRAANA BAYANNA,bMAYANNA,bAMBA BAYANNA",
    "bYAYANNA,bRAYANNA,1bDANTAJA LAYANNA,2bVAYANNA,bTAALUJA SAYANNA,bMUURDHAJA SAYANNA",
    "bDANTAJA SAYANNA,bHAYANNA,bMUURDHAJA LAYANNA,bFAYANNA,3aSIGN AL-LAKUNA",
    "4aVOWEL SIGN AELA-PILLA,cKETTI AEDA-PILLA,cDIGA AEDA-PILLA,cKETTI IS-PILLA,cDIGA IS-PILLA",
    "cKETTI PAA-PILLA,1cDIGA PAA-PILLA,1cGAETTA-PILLA,cKOMBUVA,cDIGA KOMBUVA,cKOMBU DEKA",
    "cKOMBUVA HAA AELA-PILLA,eDIGA AELA-PILLA,eGAYANUKITTA,cGAYANUKITTA,6aLITH DIGIT ZERO,cONE",
    "cTWO,cTHREE,cFOUR,cFIVE,cSIX,cSEVEN,cEIGHT,cNINE,2aVOWEL SIGN DIGA GAETTA-PILLA",
    "dGAYANUKITTA,aPUNCTUATION KUNDDALIYA,66540aARCHAIC DIGIT ONE,cTWO,cTHREE,cFOUR,cFIVE,cSIX",
    "cSEVEN,cEIGHT,cNINE,bNUMBER TEN,cTWENTY,cTHIRTY,cFORTY,cFIFTY,cSIXTY,cSEVENTY,cEIGHTY",
    "cNINETY,cONE HUNDRED,dTHOUSAND"]⟩,
  ⟨"SIX", [
    "10038aPOINTED BLACK STAR,7aPETALLED BLACK AND WHITE FLORETTE",
    "118256aPOINTED STAR WITH MIDDLE DOT,669bPINWHEEL STAR"]⟩,
  ⟨"SLANTED", [
    "10901aEQUAL TO OR LESS-THAN,dGREATER-THAN,dLESS-THAN WITH DOT INSIDE",
    "dGREATER-THAN WITH DOT INSIDE,193aNORTH ARROW WITH HOOKED HEAD,1dHORIZONTAL TAIL"]⟩,
  ⟨"SLEEPING", ["128164aSYMBOL,399aFACE,151aACCOMMODATION"]⟩,
  ⟨"SMALL", [
    "732aTILDE,7827aROMAN NUMERAL ONE,cTWO,cTHREE,cFOUR,cFIVE,cSIX,cSEVEN,cEIGHT,cNINE,cTEN",
    "cELEVEN,cTWELVE,cFIFTY,cONE HUNDRED,cFIVE HUNDRED,cONE THOUSAND,138aELEMENT OF",
    "2aCONTAINS AS MEMBER,230aELEMENT OF WITH VERTICAL BAR AT END OF HORIZONTAL STROKE",
    "2dOVERBAR,4aCONTAINS WITH VERTICAL BAR AT END OF HORIZONTAL STROKE,1cOVERBAR",
    "1890aVEE WITH UNDERBAR,54254aCOMMA,aIDEOGRAPHIC COMMA,aFULL STOP,1aSEMICOLON,aCOLON",
    "aQUESTION MARK,aEXCLAMATION MARK,aEM DASH,aLEFT PARENTHESIS,aRIGHT PARENTHESIS",
    "aLEFT CURLY BRACKET,aRIGHT CURLY BRACKET,aLEFT TORTOISE SHELL BRACKET",
    "aRIGHT TORTOISE SHELL BRACKET,aNUMBER SIGN,aAMPERSAND,aASTERISK,aPLUS SIGN,aHYPHEN-MINUS",
    "aLESS-THAN SIGN,aGREATER-THAN SIGN,aEQUALS SIGN,1aREVERSE SOLIDUS,aDOLLAR SIGN",
    "aPERCENT SIGN,aCOMMERCIAL AT,3279aTWO DOTS OVER ONE DOT PUNCTUATION,59900aORANGE DIAMOND",
    "aBLUE DIAMOND,431aAIRPLANE"]⟩,
  ⟨"SMILING", [
    "128515aFACE WITH OPEN MOUTH,eAND SMILING EYES,fCOLD SWEAT,fTIGHTLY-CLOSED EYES,cHALO",
    "cHORNS,1cSMILING EYES,2cHEART-SHAPED EYES,cSUNGLASSES,43aCAT FACE WITH OPEN MOUTH",
    "dHEART-SHAPED EYES,753aFACE WITH SMILING EYES AND HAND COVERING MOUTH,66fTHREE HEARTS",
    "1cTEAR"]⟩,
  ⟨"SOFT", ["173aHYPHEN,127672aICE CREAM,581aSHELL FLOPPY DISK"]⟩,
  ⟨"SOGDIAN", [
    "69424aLETTER ALEPH,bBETH,bGIMEL,bHE,bWAW,bZAYIN,bHETH,bYODH,bKAPH,bLAMEDH,bMEM,bNUN",
    "bSAMEKH,bAYIN,bPE,bSADHE,bRESH-AYIN,bSHIN,bTAW,bFETH,bLESH,aINDEPENDENT SHIN",
    "aCOMBINING DOT BELOW,bTWO DOTS BELOW,bDOT ABOVE,bTWO DOTS ABOVE,bCURVE ABOVE,cBELOW",
    "bHOOK ABOVE,cBELOW,bLONG HOOK BELOW,bRESH BELOW,bSTROKE BELOW,aNUMBER ONE,bTEN,bTWENTY",
    "bONE HUNDRED,aPUNCTUATION TWO VERTICAL BARS,eWITH DOTS,bCIRCLE WITH DOT",
    "bTWO CIRCLES WITH DOTS,bHALF CIRCLE WITH DOT"]⟩,
  ⟨"SORA", [
    "69840aSOMPENG LETTER SAH,cTAH,cBAH,cCAH,cDAH,cGAH,cMAH,cNGAH,cLAH,cNAH,cVAH,cPAH,cYAH",
    "cRAH,cHAH,cKAH,cJAH,cNYAH,cAH,cEEH,cIH,cUH,cOH,cEH,cMAE,7bDIGIT ZERO,cONE,cTWO,cTHREE",
    "cFOUR,cFIVE,cSIX,cSEVEN,cEIGHT,cNINE"]⟩,
  ⟨"SOUTH", [
    "8600aEAST ARROW,aWEST ARROW,62aEAST DOUBLE ARROW,aWEST DOUBLE ARROW",
    "24aEAST ARROW TO CORNER,1842cWITH HOOK,aWEST ARROW WITH HOOK",
    "2aEAST ARROW AND SOUTH WEST ARROW,aWEST ARROW AND NORTH WEST ARROW",
    "2aEAST ARROW CROSSING NORTH EAST ARROW,468bWHITE ARROW,aWEST WHITE ARROW",
    "6aEAST BLACK ARROW,aWEST BLACK ARROW,92aEAST TRIANGLE-HEADED ARROW",
    "aWEST TRIANGLE-HEADED ARROW,14aEAST TRIANGLE-HEADED ARROW TO BAR",
    "aWEST TRIANGLE-HEADED ARROW TO BAR,117463bPOINTING LEAF,1aEAST POINTING LEAF",
    "5aWEST POINTING VINE LEAF,1aEAST POINTING VINE LEAF,5aWEST POINTING BUD",
    "1aEAST POINTING BUD,498bSANS-SERIF ARROW,aWEST SANS-SERIF ARROW"]⟩,
  ⟨"SOYOMBO", [
    "72272aLETTER A,aVOWEL SIGN I,cUE,cU,cE,cO,cOE,cAI,cAU,cVOCALIC R,dL,bLENGTH MARK",
    "aLETTER KA,bKHA,bGA,bGHA,bNGA,bCA,bCHA,bJA,bJHA,bNYA,bTTA,bTTHA,bDDA,bDDHA,bNNA,bTA,bTHA",
    "bDA,bDHA,bNA,bPA,bPHA,bBA,bBHA,bMA,bTSA,bTSHA,bDZA,bZHA,bZA,b-A,bYA,bRA,bLA,bVA,bSHA,bSSA",
    "bSA,bHA,bKSSA,aSIGN JIHVAMULIYA,bUPADHMANIYA,aCLUSTER-INITIAL LETTER RA,cLA,cSHA,cSA",
    "aFINAL CONSONANT SIGN G,dK,dNG,dD,dN,dB,dM,dR,dL,dSH,dS,d-A,aSIGN ANUSVARA,bVISARGA",
    "aGEMINATION MARK,aSUBJOINER,aMARK TSHEG,bSHAD,bDOUBLE SHAD,bPLUTA",
    "aHEAD MARK WITH MOON AND SUN AND TRIPLE FLAME,hFLAME,g,aTERMINAL MARK-1,bMARK-2"]⟩,
  ⟨"SPEAKER", ["128263aWITH CANCELLATION STROKE,a,aWITH ONE SOUND WAVE,bTHREE SOUND WAVES"]⟩,
  ⟨"SPHERICAL", ["8738aANGLE,1917bOPENING LEFT,cUP"]⟩,
  ⟨"SPIRAL", ["128026aSHELL,439aNOTE PAD,aCALENDAR PAD"]⟩,
  ⟨"SQUARE", [
    "8730aROOT,116aIMAGE OF,aORIGINAL OF,aIMAGE OF OR EQUAL TO,aORIGINAL OF OR EQUAL TO,aCAP",
    "aCUP,79aIMAGE OF OR NOT EQUAL TO,aORIGINAL OF OR NOT EQUAL TO,43aLOZENGE,187aFOOT",
    "470aWITH HORIZONTAL FILL,bVERTICAL FILL,bORTHOGONAL CROSSHATCH FILL",
    "bUPPER LEFT TO LOWER RIGHT FILL,cRIGHT TO LOWER LEFT FILL,bDIAGONAL CROSSHATCH FILL",
    "61bLEFT HALF BLACK,bRIGHT HALF BLACK,bUPPER LEFT DIAGONAL HALF BLACK",
    "bLOWER RIGHT DIAGONAL HALF BLACK,267aFOUR CORNERS,745aWITH CONTOURED OUTLINE",
    "236aLEFT OPEN BOX OPERATOR,aRIGHT OPEN BOX OPERATOR,67aWITH TOP HALF BLACK",
    "bBOTTOM HALF BLACK,bUPPER RIGHT DIAGONAL HALF BLACK,bLOWER LEFT DIAGONAL HALF BLACK",
    "186aPOSITION INDICATOR,1787aHG,aERG,aEV,48aERA NAME REIWA,aAPAATO,aARUHUA,aANPEA,aAARU",
    "aININGU,aINTI,aUON,aESUKUUDO,aEEKAA,aONSU,aOOMU,aKAIRI,aKARATTO,aKARORII,aGARON,aGANMA",
    "aGIGA,aGINII,aKYURII,aGIRUDAA,aKIRO,aKIROGURAMU,aKIROMEETORU,aKIROWATTO,aGURAMU",
    "aGURAMUTON,aKURUZEIRO,aKUROONE,aKEESU,aKORUNA,aKOOPO,aSAIKURU,aSANTIIMU,aSIRINGU,aSENTI",
    "aSENTO,aDAASU,aDESI,aDORU,aTON,aNANO,aNOTTO,aHAITU,aPAASENTO,aPAATU,aBAARERU,aPIASUTORU",
    "aPIKURU,aPIKO,aBIRU,aHUARADDO,aHUIITO,aBUSSYERU,aHURAN,aHEKUTAARU,aPESO,aPENIHI,aHERUTU",
    "aPENSU,aPEEZI,aBEETA,aPOINTO,aBORUTO,aHON,aPONDO,aHOORU,aHOON,aMAIKURO,aMAIRU,aMAHHA",
    "aMARUKU,aMANSYON,aMIKURON,aMIRI,aMIRIBAARU,aMEGA,aMEGATON,aMEETORU,aYAADO,aYAARU,aYUAN",
    "aRITTORU,aRIRA,aRUPII,aRUUBURU,aREMU,aRENTOGEN,aWATTO,25aHPA,aDA,aAU,aBAR,aOV,aPC,aDM",
    "bSQUARED,bCUBED,aIU,aERA NAME HEISEI,cSYOUWA,cTAISYOU,cMEIZI,aCORPORATION,aPA AMPS,aNA",
    "aMU A,aMA,aKA,aKB,aMB,aGB,aCAL,aKCAL,aPF,aNF,aMU F,bG,aMG,aKG,aHZ,aKHZ,aMHZ,aGHZ,aTHZ",
    "aMU L,aML,aDL,aKL,aFM,aNM,aMU M,aMM,aCM,aKM,aMM SQUARED,aCM SQUARED,aM SQUARED",
    "aKM SQUARED,aMM CUBED,aCM CUBED,aM CUBED,aKM CUBED,aM OVER S,dSQUARED,aPA,aKPA,aMPA,aGPA",
    "aRAD,bOVER S,dSQUARED,aPS,aNS,aMU S,aMS,aPV,aNV,aMU V,aMV,aKV,aMV MEGA,aPW,aNW,aMU W,aMW",
    "aKW,aMW MEGA,aK OHM,aM OHM,aAM,aBQ,aCC,aCD,aC OVER KG,aCO,aDB,aGY,aHA,aHP,aIN,aKK",
    "aKM CAPITAL,aKT,aLM,aLN,aLOG,aLX,aMB SMALL,aMIL,aMOL,aPH,aPM,aPPM,aPR,aSR,aSV,aWB",
    "aV OVER M,aA OVER M,31aGAL,114064aDJ,111aHIRAGANA HOKA,1429aTARGET"]⟩,
  ⟨"SQUARED", [
    "8862aPLUS,aMINUS,aTIMES,aDOT OPERATOR,1053aKEY,29aSALTIRE,240aLOGICAL AND,bOR",
    "500aRISING DIAGONAL SLASH,aFALLING DIAGONAL SLASH,aASTERISK,aSMALL CIRCLE,aSQUARE",
    "1123aFOUR DOT PUNCTUATION,115459aLATIN CAPITAL LETTER A,dB,dC,dD,dE,dF,dG,dH,dI,dJ,dK,dL",
    "dM,dN,dO,dP,dQ,dR,dS,dT,dU,dV,dW,dX,dY,dZ,aHV,aMV,aSD,aSS,aPPV,aWC,65aCL,aCOOL,aFREE,aID",
    "aNEW,aNG,aOK,aSOS,aUP WITH EXCLAMATION MARK,aVS,aTHREE D,aSECOND SCREEN,aTWO K,aFOUR K",
    "aEIGHT K,aFIVE POINT ONE,aSEVEN POINT ONE,aTWENTY-TWO POINT TWO,aSIXTY P",
    "aONE HUNDRED TWENTY P,aLATIN SMALL LETTER D,aHC,aHDR,aHI-RES,aLOSSLESS,aSHV,aUHD,aVOD",
    "84aKATAKANA KOKO,bSA,13aCJK UNIFIED IDEOGRAPH-624B,cIDEOGRAPH-5B57,cIDEOGRAPH-53CC",
    "aKATAKANA DE,aCJK UNIFIED IDEOGRAPH-4E8C,cIDEOGRAPH-591A,cIDEOGRAPH-89E3,cIDEOGRAPH-5929",
    "cIDEOGRAPH-4EA4,cIDEOGRAPH-6620,cIDEOGRAPH-7121,cIDEOGRAPH-6599,cIDEOGRAPH-524D",
    "cIDEOGRAPH-5F8C,cIDEOGRAPH-518D,cIDEOGRAPH-65B0,cIDEOGRAPH-521D,cIDEOGRAPH-7D42",
    "cIDEOGRAPH-751F,cIDEOGRAPH-8CA9,cIDEOGRAPH-58F0,cIDEOGRAPH-5439,cIDEOGRAPH-6F14",
    "cIDEOGRAPH-6295,cIDEOGRAPH-6355,cIDEOGRAPH-4E00,cIDEOGRAPH-4E09,cIDEOGRAPH-904A",
    "cIDEOGRAPH-5DE6,cIDEOGRAPH-4E2D,cIDEOGRAPH-53F3,cIDEOGRAPH-6307,cIDEOGRAPH-8D70",
    "cIDEOGRAPH-6253,cIDEOGRAPH-7981,cIDEOGRAPH-7A7A,cIDEOGRAPH-5408,cIDEOGRAPH-6E80",
    "cIDEOGRAPH-6709,cIDEOGRAPH-6708,cIDEOGRAPH-7533,cIDEOGRAPH-5272,cIDEOGRAPH-55B6",
    "cIDEOGRAPH-914D"]⟩,
  ⟨"STAR", [
    "8795aEQUALS,106aOPERATOR,867aAND CRESCENT,246aOF DAVID,1224aWITH LEFT HALF BLACK",
    "bRIGHT HALF BLACK"]⟩,
  ⟨"STICK", ["129989aFIGURE,bWITH ARMS RAISED,bLEANING LEFT,cRIGHT,bWITH DRESS"]⟩,
  ⟨"SUBSCRIPT", [
    "8320aZERO,aONE,aTWO,aTHREE,aFOUR,aFIVE,aSIX,aSEVEN,aEIGHT,aNINE,aPLUS SIGN,aMINUS",
    "aEQUALS SIGN,aLEFT PARENTHESIS,aRIGHT PARENTHESIS"]⟩,
  ⟨"SUBSET", [
    "8834aOF,3bOR EQUAL TO,3bWITH NOT EQUAL TO,1774aABOVE RIGHTWARDS ARROW,323aWITH DOT",
    "1bPLUS SIGN BELOW,1bMULTIPLICATION SIGN BELOW,1aOF OR EQUAL TO WITH DOT ABOVE",
    "1bABOVE EQUALS SIGN,1cTILDE OPERATOR,1cALMOST EQUAL TO,1cNOT EQUAL TO,7aABOVE SUPERSET",
    "1bSUBSET"]⟩,
  ⟨"SUCCEEDS", [
    "8827a,1aOR EQUAL TO,1bEQUIVALENT TO,49aUNDER RELATION,55aBUT NOT EQUIVALENT TO",
    "1990aABOVE SINGLE-LINE EQUALS SIGN,1cNOT EQUAL TO,1bEQUALS SIGN,1bNOT EQUAL TO",
    "1bALMOST EQUAL TO,1bNOT ALMOST EQUAL TO"]⟩,
  ⟨"SUMMATION", ["9138aTOP,aBOTTOM,1623aWITH INTEGRAL"]⟩,
  ⟨"SUN", ["9737a,187aBEHIND CLOUD,117848aWITH FACE"]⟩,
  ⟨"SUNDANESE", [
    "7040aSIGN PANYECEK,bPANGLAYAR,bPANGWISAD,aLETTER A,bI,bU,bAE,bO,bE,bEU,bKA,bQA,bGA,bNGA",
    "bCA,bJA,bZA,bNYA,bTA,bDA,bNA,bPA,bFA,bVA,bBA,bMA,bYA,bRA,bLA,bWA,bSA,bXA,bHA",
    "aCONSONANT SIGN PAMINGKAL,cPANYAKRA,cPANYIKU,aVOWEL SIGN PANGHULU,cPANYUKU,cPANAELAENG",
    "cPANOLONG,cPAMEPET,cPANEULEUNG,aSIGN PAMAAEH,bVIRAMA,aCONSONANT SIGN PASANGAN MA,dWA",
    "aLETTER KHA,bSYA,aDIGIT ZERO,bONE,bTWO,bTHREE,bFOUR,bFIVE,bSIX,bSEVEN,bEIGHT,bNINE",
    "aAVAGRAHA,aLETTER REU,bLEU,bBHA,bFINAL K,cM,256aPUNCTUATION BINDU SURYA,cPANGLONG",
    "cPURNAMA,cCAKRA,cLEU SATANGA,cKA SATANGA,cDA SATANGA,cBA SATANGA"]⟩,
  ⟨"SUPERSCRIPT", [
    "178aTWO,aTHREE,5aONE,8118aZERO,aLATIN SMALL LETTER I,2aFOUR,aFIVE,aSIX,aSEVEN,aEIGHT",
    "aNINE,aPLUS SIGN,aMINUS,aEQUALS SIGN,aLEFT PARENTHESIS,aRIGHT PARENTHESIS",
    "aLATIN SMALL LETTER N"]⟩,
  ⟨"SUPERSET", [
    "8835aOF,3bOR EQUAL TO,3bWITH NOT EQUAL TO,1341aPRECEDING SOLIDUS",
    "433aABOVE LEFTWARDS ARROW,322aWITH DOT,1bPLUS SIGN BELOW,1bMULTIPLICATION SIGN BELOW",
    "1aOF OR EQUAL TO WITH DOT ABOVE,1bABOVE EQUALS SIGN,1cTILDE OPERATOR,1cALMOST EQUAL TO",
    "1cNOT EQUAL TO,7aABOVE SUBSET,1bSUPERSET,aBESIDE SUBSET,bAND JOINED BY DASH WITH SUBSET"]⟩,
  ⟨"SYLOTI", [
    "43008aNAGRI LETTER A,cI,bSIGN DVISVARA,bLETTER U,cE,cO,bSIGN HASANTA,bLETTER KO,cKHO,cGO",
    "cGHO,bSIGN ANUSVARA,bLETTER CO,cCHO,cJO,cJHO,cTTO,cTTHO,cDDO,cDDHO,cTO,cTHO,cDO,cDHO,cNO",
    "cPO,cPHO,cBO,cBHO,cMO,cRO,cLO,cRRO,cSO,cHO,bVOWEL SIGN A,dI,dU,dE,dOO,bPOETRY MARK-1",
    "cMARK-2,cMARK-3,cMARK-4,bSIGN ALTERNATE HASANTA"]⟩,
  ⟨"SYMBOL", [
    "8527aFOR SAMARITAN SOURCE,688bNULL,bSTART OF HEADING,dTEXT,bEND OF TEXT,dTRANSMISSION",
    "bENQUIRY,bACKNOWLEDGE,bBELL,bBACKSPACE,bHORIZONTAL TABULATION,bLINE FEED",
    "bVERTICAL TABULATION,bFORM FEED,bCARRIAGE RETURN,bSHIFT OUT,cIN,bDATA LINK ESCAPE",
    "bDEVICE CONTROL ONE,dTWO,dTHREE,dFOUR,bNEGATIVE ACKNOWLEDGE,bSYNCHRONOUS IDLE",
    "bEND OF TRANSMISSION BLOCK,bCANCEL,bEND OF MEDIUM,bSUBSTITUTE,bESCAPE,bFILE SEPARATOR",
    "bGROUP SEPARATOR,bRECORD SEPARATOR,bUNIT SEPARATOR,bSPACE,bDELETE,2bNEWLINE",
    "bDELETE FORM TWO,bSUBSTITUTE FORM TWO,1904bTYPE A ELECTRONICS,117165bMARKS CHAPTER"]⟩,
  ⟨"SYRIAC", [
    "1792aEND OF PARAGRAPH,aSUPRALINEAR FULL STOP,aSUBLINEAR FULL STOP,aSUPRALINEAR COLON",
    "aSUBLINEAR COLON,aHORIZONTAL COLON,aCOLON SKEWED LEFT,cRIGHT",
    "aSUPRALINEAR COLON SKEWED LEFT,aSUBLINEAR COLON SKEWED RIGHT,aCONTRACTION",
    "aHARKLEAN OBELUS,bMETOBELUS,bASTERISCUS,1aABBREVIATION MARK,aLETTER ALAPH",
    "bSUPERSCRIPT ALAPH,bBETH,bGAMAL,cGARSHUNI,bDALATH,bDOTLESS DALATH RISH,bHE,bWAW,bZAIN",
    "bHETH,bTETH,cGARSHUNI,bYUDH,cHE,bKAPH,bLAMADH,bMIM,bNUN,bSEMKATH,bFINAL SEMKATH,bE,bPE",
    "bREVERSED PE,bSADHE,bQAPH,bRISH,bSHIN,bTAW,bPERSIAN BHETH,cGHAMAL,cDHALATH,aPTHAHA ABOVE",
    "bBELOW,bDOTTED,aZQAPHA ABOVE,bBELOW,bDOTTED,aRBASA ABOVE,bBELOW,aDOTTED ZLAMA HORIZONTAL",
    "cANGULAR,aHBASA ABOVE,bBELOW,aHBASA-ESASA DOTTED,aESASA ABOVE,bBELOW,aRWAHA,aFEMININE DOT",
    "aQUSHSHAYA,aRUKKAKHA,aTWO VERTICAL DOTS ABOVE,dBELOW,aTHREE DOTS ABOVE,cBELOW",
    "aOBLIQUE LINE ABOVE,cBELOW,aMUSIC,aBARREKH,2aLETTER SOGDIAN ZHAIN,cKHAPH,cFE",
    "272bMALAYALAM NGA,cJA,cNYA,cTTA,cNNA,cNNNA,cBHA,cRA,cLLA,cLLLA,cSSA"]⟩]

end Phrasebook.CharName
