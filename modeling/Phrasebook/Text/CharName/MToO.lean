import Phrasebook.Text.CharName.Group

/-!
Names of characters that begin with the letters from M to O, by the tables of Unicode 14.
-/

namespace Phrasebook.CharName

/-- The names that begin with M. -/
def namesM : List NameGroup := [
  ⟨"MAHAJANI", [
    "69968aLETTER A,bI,bU,bE,bO,bKA,bKHA,bGA,bGHA,bCA,bCHA,bJA,bJHA,bNYA,bTTA,bTTHA,bDDA,bDDHA",
    "bNNA,bTA,bTHA,bDA,bDHA,bNA,bPA,bPHA,bBA,bBHA,bMA,bRA,bLA,bVA,bSA,bHA,bRRA,aSIGN NUKTA",
    "aABBREVIATION SIGN,aSECTION MARK,aLIGATURE SHRI"]⟩,
  ⟨"MAHJONG", [
    "126976aTILE EAST WIND,bSOUTH WIND,bWEST WIND,bNORTH WIND,bRED DRAGON,bGREEN DRAGON",
    "bWHITE DRAGON,bONE OF CHARACTERS,bTWO OF CHARACTERS,bTHREE OF CHARACTERS",
    "bFOUR OF CHARACTERS,bFIVE OF CHARACTERS,bSIX OF CHARACTERS,bSEVEN OF CHARACTERS",
    "bEIGHT OF CHARACTERS,bNINE OF CHARACTERS,bONE OF BAMBOOS,bTWO OF BAMBOOS",
    "bTHREE OF BAMBOOS,bFOUR OF BAMBOOS,bFIVE OF BAMBOOS,bSIX OF BAMBOOS,bSEVEN OF BAMBOOS",
    "bEIGHT OF BAMBOOS,bNINE OF BAMBOOS,bONE OF CIRCLES,bTWO OF CIRCLES,bTHREE OF CIRCLES",
    "bFOUR OF CIRCLES,bFIVE OF CIRCLES,bSIX OF CIRCLES,bSEVEN OF CIRCLES,bEIGHT OF CIRCLES",
    "bNINE OF CIRCLES,bPLUM,bORCHID,bBAMBOO,bCHRYSANTHEMUM,bSPRING,bSUMMER,bAUTUMN,bWINTER",
    "bJOKER,bBACK"]⟩,
  ⟨"MAKASAR", [
    "73440aLETTER KA,bGA,bNGA,bPA,bBA,bMA,bTA,bDA,bNA,bCA,bJA,bNYA,bYA,bRA,bLA,bVA,bSA,bA",
    "aANGKA,aVOWEL SIGN I,cU,cE,cO,aPASSIMBANG,aEND OF SECTION"]⟩,
  ⟨"MALAYALAM", [
    "3328aSIGN COMBINING ANUSVARA ABOVE,bCANDRABINDU,bANUSVARA,bVISARGA,aLETTER VEDIC ANUSVARA",
    "bA,bAA,bI,bII,bU,bUU,bVOCALIC R,cL,1bE,bEE,bAI,1bO,bOO,bAU,bKA,bKHA,bGA,bGHA,bNGA,bCA",
    "bCHA,bJA,bJHA,bNYA,bTTA,bTTHA,bDDA,bDDHA,bNNA,bTA,bTHA,bDA,bDHA,bNA,bNNNA,bPA,bPHA,bBA",
    "bBHA,bMA,bYA,bRA,bRRA,bLA,bLLA,bLLLA,bVA,bSHA,bSSA,bSA,bHA,bTTTA",
    "aSIGN VERTICAL BAR VIRAMA,bCIRCULAR VIRAMA,bAVAGRAHA,aVOWEL SIGN AA,cI,cII,cU,cUU",
    "cVOCALIC R,dRR,1cE,cEE,cAI,1cO,cOO,cAU,aSIGN VIRAMA,aLETTER DOT REPH,aSIGN PARA",
    "4aLETTER CHILLU M,cY,cLLL,aAU LENGTH MARK,aFRACTION ONE ONE-HUNDRED-AND-SIXTIETH",
    "cFORTIETH,bTHREE EIGHTIETHS,bONE TWENTIETH,cTENTH,bTHREE TWENTIETHS,bONE FIFTH",
    "aLETTER ARCHAIC II,bVOCALIC RR,cLL,aVOWEL SIGN VOCALIC L,dLL,2aDIGIT ZERO,bONE,bTWO",
    "bTHREE,bFOUR,bFIVE,bSIX,bSEVEN,bEIGHT,bNINE,aNUMBER TEN,bONE HUNDRED,cTHOUSAND",
    "aFRACTION ONE QUARTER,cHALF,bTHREE QUARTERS,bONE SIXTEENTH,cEIGHTH,bTHREE SIXTEENTHS",
    "aDATE MARK,aLETTER CHILLU NN,cN,cRR,cL,cLL,cK"]⟩,
  ⟨"MALE", ["9794aSIGN,98aAND FEMALE SIGN,aWITH STROKE SIGN,cAND MALE AND FEMALE SIGN"]⟩,
  ⟨"MAN", [
    "128104a,2aAND WOMAN HOLDING HANDS,6aWITH GUA PI MAO,bTURBAN",
    "256aIN BUSINESS SUIT LEVITATING,5aDANCING,954aIN TUXEDO"]⟩,
  ⟨"MANDAIC", [
    "2112aLETTER HALQA,bAB,bAG,bAD,bAH,bUSHENNA,bAZ,bIT,bATT,bAKSA,bAK,bAL,bAM,bAN,bAS,bIN,bAP",
    "bASZ,bAQ,bAR,bASH,bAT,bDUSHENNA,bKAD,bAIN,aAFFRICATION MARK,aVOCALIZATION MARK",
    "aGEMINATION MARK,2aPUNCTUATION"]⟩,
  ⟨"MANICHAEAN", [
    "68288aLETTER ALEPH,bBETH,bBHETH,bGIMEL,bGHIMEL,bDALETH,bHE,bWAW,aSIGN UD,aLETTER ZAYIN",
    "bZHAYIN,bJAYIN,bJHAYIN,bHETH,bTETH,bYODH,bKAPH,bXAPH,bKHAPH,bLAMEDH,bDHAMEDH,bTHAMEDH",
    "bMEM,bNUN,bSAMEKH,bAYIN,bAAYIN,bPE,bFE,bSADHE,bQOPH,bXOPH,bQHOPH,bRESH,bSHIN,bSSHIN,bTAW",
    "aABBREVIATION MARK ABOVE,cBELOW,4aNUMBER ONE,bFIVE,bTEN,bTWENTY,bONE HUNDRED",
    "aPUNCTUATION STAR,bFLEURON,bDOUBLE DOT WITHIN DOT,bDOT WITHIN DOT,c,bTWO DOTS",
    "bLINE FILLER"]⟩,
  ⟨"MARCHEN", [
    "72816aHEAD MARK,aMARK SHAD,aLETTER KA,bKHA,bGA,bNGA,bCA,bCHA,bJA,bNYA,bTA,bTHA,bDA,bNA",
    "bPA,bPHA,bBA,bMA,bTSA,bTSHA,bDZA,bWA,bZHA,bZA,b-A,bYA,bRA,bLA,bSHA,bSA,bHA,bA",
    "2aSUBJOINED LETTER KA,cKHA,cGA,cNGA,cCA,cCHA,cJA,cNYA,cTA,cTHA,cDA,cNA,cPA,cPHA,cBA,cMA",
    "cTSA,cTSHA,cDZA,cWA,cZHA,cZA,1cYA,cRA,cLA,cSHA,cSA,cHA,cA,aVOWEL SIGN AA,cI,cU,cE,cO",
    "aSIGN ANUSVARA,bCANDRABINDU"]⟩,
  ⟨"MASARAM", [
    "72960aGONDI LETTER A,cAA,cI,cII,cU,cUU,cE,1cAI,cO,1cAU,cKA,cKHA,cGA,cGHA,cNGA,cCA,cCHA",
    "cJA,cJHA,cNYA,cTTA,cTTHA,cDDA,cDDHA,cNNA,cTA,cTHA,cDA,cDHA,cNA,cPA,cPHA,cBA,cBHA,cMA,cYA",
    "cRA,cLA,cVA,cSHA,cSSA,cSA,cHA,cLLA,cKSSA,cJNYA,cTRA,bVOWEL SIGN AA,dI,dII,dU,dUU",
    "dVOCALIC R,3dE,1dAI,dO,1dAU,bSIGN ANUSVARA,cVISARGA,cNUKTA,cCANDRA,cHALANTA,bVIRAMA",
    "bREPHA,bRA-KARA,8bDIGIT ZERO,cONE,cTWO,cTHREE,cFOUR,cFIVE,cSIX,cSEVEN,cEIGHT,cNINE"]⟩,
  ⟨"MATHEMATICAL", [
    "10187aRISING DIAGONAL,1aFALLING DIAGONAL,24aLEFT WHITE SQUARE BRACKET",
    "aRIGHT WHITE SQUARE BRACKET,aLEFT ANGLE BRACKET,aRIGHT ANGLE BRACKET",
    "aLEFT DOUBLE ANGLE BRACKET,aRIGHT DOUBLE ANGLE BRACKET,aLEFT WHITE TORTOISE SHELL BRACKET",
    "aRIGHT WHITE TORTOISE SHELL BRACKET,aLEFT FLATTENED PARENTHESIS",
    "aRIGHT FLATTENED PARENTHESIS,109584aBOLD CAPITAL A,cB,cC,cD,cE,cF,cG,cH,cI,cJ,cK,cL,cM,cN",
    "cO,cP,cQ,cR,cS,cT,cU,cV,cW,cX,cY,cZ,bSMALL A,cB,cC,cD,cE,cF,cG,cH,cI,cJ,cK,cL,cM,cN,cO,cP",
    "cQ,cR,cS,cT,cU,cV,cW,cX,cY,cZ,aITALIC CAPITAL A,cB,cC,cD,cE,cF,cG,cH,cI,cJ,cK,cL,cM,cN,cO",
    "cP,cQ,cR,cS,cT,cU,cV,cW,cX,cY,cZ,bSMALL A,cB,cC,cD,cE,cF,cG,1cI,cJ,cK,cL,cM,cN,cO,cP,cQ",
    "cR,cS,cT,cU,cV,cW,cX,cY,cZ,aBOLD ITALIC CAPITAL A,dB,dC,dD,dE,dF,dG,dH,dI,dJ,dK,dL,dM,dN",
    "dO,dP,dQ,dR,dS,dT,dU,dV,dW,dX,dY,dZ,cSMALL A,dB,dC,dD,dE,dF,dG,dH,dI,dJ,dK,dL,dM,dN,dO,dP",
    "dQ,dR,dS,dT,dU,dV,dW,dX,dY,dZ,aSCRIPT CAPITAL A,1cC,cD,2cG,2cJ,cK,2cN,cO,cP,cQ,1cS,cT,cU",
    "cV,cW,cX,cY,cZ,bSMALL A,cB,cC,cD,1cF,1cH,cI,cJ,cK,cL,cM,cN,1cP,cQ,cR,cS,cT,cU,cV,cW,cX,cY",
    "cZ,aBOLD SCRIPT CAPITAL A,dB,dC,dD,dE,dF,dG,dH,dI,dJ,dK,dL,dM,dN,dO,dP,dQ,dR,dS,dT,dU,dV",
    "dW,dX,dY,dZ,cSMALL A,dB,dC,dD,dE,dF,dG,dH,dI,dJ,dK,dL,dM,dN,dO,dP,dQ,dR,dS,dT,dU,dV,dW,dX",
    "dY,dZ,aFRAKTUR CAPITAL A,cB,1cD,cE,cF,cG,2cJ,cK,cL,cM,cN,cO,cP,cQ,1cS,cT,cU,cV,cW,cX,cY",
    "1bSMALL A,cB,cC,cD,cE,cF,cG,cH,cI,cJ,cK,cL,cM,cN,cO,cP,cQ,cR,cS,cT,cU,cV,cW,cX,cY,cZ",
    "aDOUBLE-STRUCK CAPITAL A,cB,1cD,cE,cF,cG,1cI,cJ,cK,cL,cM,1cO,3cS,cT,cU,cV,cW,cX,cY",
    "1bSMALL A,cB,cC,cD,cE,cF,cG,cH,cI,cJ,cK,cL,cM,cN,cO,cP,cQ,cR,cS,cT,cU,cV,cW,cX,cY,cZ",
    "aBOLD FRAKTUR CAPITAL A,dB,dC,dD,dE,dF,dG,dH,dI,dJ,dK,dL,dM,dN,dO,dP,dQ,dR,dS,dT,dU,dV,dW",
    "dX,dY,dZ,cSMALL A,dB,dC,dD,dE,dF,dG,dH,dI,dJ,dK,dL,dM,dN,dO,dP,dQ,dR,dS,dT,dU,dV,dW,dX,dY",
    "dZ,aSANS-SERIF CAPITAL A,cB,cC,cD,cE,cF,cG,cH,cI,cJ,cK,cL,cM,cN,cO,cP,cQ,cR,cS,cT,cU,cV",
    "cW,cX,cY,cZ,bSMALL A,cB,cC,cD,cE,cF,cG,cH,cI,cJ,cK,cL,cM,cN,cO,cP,cQ,cR,cS,cT,cU,cV,cW,cX",
    "cY,cZ,bBOLD CAPITAL A,dB,dC,dD,dE,dF,dG,dH,dI,dJ,dK,dL,dM,dN,dO,dP,dQ,dR,dS,dT,dU,dV,dW",
    "dX,dY,dZ,cSMALL A,dB,dC,dD,dE,dF,dG,dH,dI,dJ,dK,dL,dM,dN,dO,dP,dQ,dR,dS,dT,dU,dV,dW,dX,dY",
    "dZ,bITALIC CAPITAL A,dB,dC,dD,dE,dF,dG,dH,dI,dJ,dK,dL,dM,dN,dO,dP,dQ,dR,dS,dT,dU,dV,dW,dX",
    "dY,dZ,cSMALL A,dB,dC,dD,dE,dF,dG,dH,dI,dJ,dK,dL,dM,dN,dO,dP,dQ,dR,dS,dT,dU,dV,dW,dX,dY,dZ",
    "bBOLD ITALIC CAPITAL A,eB,eC,eD,eE,eF,eG,eH,eI,eJ,eK,eL,eM,eN,eO,eP,eQ,eR,eS,eT,eU,eV,eW",
    "eX,eY,eZ,dSMALL A,eB,eC,eD,eE,eF,eG,eH,eI,eJ,eK,eL,eM,eN,eO,eP,eQ,eR,eS,eT,eU,eV,eW,eX,eY",
    "eZ,aMONOSPACE CAPITAL A,cB,cC,cD,cE,cF,cG,cH,cI,cJ,cK,cL,cM,cN,cO,cP,cQ,cR,cS,cT,cU,cV,cW",
    "cX,cY,cZ,bSMALL A,cB,cC,cD,cE,cF,cG,cH,cI,cJ,cK,cL,cM,cN,cO,cP,cQ,cR,cS,cT,cU,cV,cW,cX,cY",
    "cZ,aITALIC SMALL DOTLESS I,dJ,2aBOLD CAPITAL ALPHA,cBETA,cGAMMA,cDELTA,cEPSILON,cZETA",
    "cETA,cTHETA,cIOTA,cKAPPA,cLAMDA,cMU,cNU,cXI,cOMICRON,cPI,cRHO,cTHETA SYMBOL,cSIGMA,cTAU",
    "cUPSILON,cPHI,cCHI,cPSI,cOMEGA,bNABLA,bSMALL ALPHA,cBETA,cGAMMA,cDELTA,cEPSILON,cZETA",
    "cETA,cTHETA,cIOTA,cKAPPA,cLAMDA,cMU,cNU,cXI,cOMICRON,cPI,cRHO,cFINAL SIGMA,cSIGMA,cTAU",
    "cUPSILON,cPHI,cCHI,cPSI,cOMEGA,bPARTIAL DIFFERENTIAL,bEPSILON SYMBOL,bTHETA SYMBOL",
    "bKAPPA SYMBOL,bPHI SYMBOL,bRHO SYMBOL,bPI SYMBOL,aITALIC CAPITAL ALPHA,cBETA,cGAMMA",
    "cDELTA,cEPSILON,cZETA,cETA,cTHETA,cIOTA,cKAPPA,cLAMDA,cMU,cNU,cXI,cOMICRON,cPI,cRHO",
    "cTHETA SYMBOL,cSIGMA,cTAU,cUPSILON,cPHI,cCHI,cPSI,cOMEGA,bNABLA,bSMALL ALPHA,cBETA,cGAMMA",
    "cDELTA,cEPSILON,cZETA,cETA,cTHETA,cIOTA,cKAPPA,cLAMDA,cMU,cNU,cXI,cOMICRON,cPI,cRHO",
    "cFINAL SIGMA,cSIGMA,cTAU,cUPSILON,cPHI,cCHI,cPSI,cOMEGA,bPARTIAL DIFFERENTIAL",
    "bEPSILON SYMBOL,bTHETA SYMBOL,bKAPPA SYMBOL,bPHI SYMBOL,bRHO SYMBOL,bPI SYMBOL",
    "aBOLD ITALIC CAPITAL ALPHA,dBETA,dGAMMA,dDELTA,dEPSILON,dZETA,dETA,dTHETA,dIOTA,dKAPPA",
    "dLAMDA,dMU,dNU,dXI,dOMICRON,dPI,dRHO,dTHETA SYMBOL,dSIGMA,dTAU,dUPSILON,dPHI,dCHI,dPSI",
    "dOMEGA,cNABLA,cSMALL ALPHA,dBETA,dGAMMA,dDELTA,dEPSILON,dZETA,dETA,dTHETA,dIOTA,dKAPPA",
    "dLAMDA,dMU,dNU,dXI,dOMICRON,dPI,dRHO,dFINAL SIGMA,dSIGMA,dTAU,dUPSILON,dPHI,dCHI,dPSI",
    "dOMEGA,cPARTIAL DIFFERENTIAL,cEPSILON SYMBOL,cTHETA SYMBOL,cKAPPA SYMBOL,cPHI SYMBOL",
    "cRHO SYMBOL,cPI SYMBOL,aSANS-SERIF BOLD CAPITAL ALPHA,dBETA,dGAMMA,dDELTA,dEPSILON,dZETA",
    "dETA,dTHETA,dIOTA,dKAPPA,dLAMDA,dMU,dNU,dXI,dOMICRON,dPI,dRHO,dTHETA SYMBOL,dSIGMA,dTAU",
    "dUPSILON,dPHI,dCHI,dPSI,dOMEGA,cNABLA,cSMALL ALPHA,dBETA,dGAMMA,dDELTA,dEPSILON,dZETA",
    "dETA,dTHETA,dIOTA,dKAPPA,dLAMDA,dMU,dNU,dXI,dOMICRON,dPI,dRHO,dFINAL SIGMA,dSIGMA,dTAU",
    "dUPSILON,dPHI,dCHI,dPSI,dOMEGA,cPARTIAL DIFFERENTIAL,cEPSILON SYMBOL,cTHETA SYMBOL",
    "cKAPPA SYMBOL,cPHI SYMBOL,cRHO SYMBOL,cPI SYMBOL,cITALIC CAPITAL ALPHA,eBETA,eGAMMA",
    "eDELTA,eEPSILON,eZETA,eETA,eTHETA,eIOTA,eKAPPA,eLAMDA,eMU,eNU,eXI,eOMICRON,ePI,eRHO",
    "eTHETA SYMBOL,eSIGMA,eTAU,eUPSILON,ePHI,eCHI,ePSI,eOMEGA,dNABLA,dSMALL ALPHA,eBETA,eGAMMA",
    "eDELTA,eEPSILON,eZETA,eETA,eTHETA,eIOTA,eKAPPA,eLAMDA,eMU,eNU,eXI,eOMICRON,ePI,eRHO",
    "eFINAL SIGMA,eSIGMA,eTAU,eUPSILON,ePHI,eCHI,ePSI,eOMEGA,dPARTIAL DIFFERENTIAL",
    "dEPSILON SYMBOL,dTHETA SYMBOL,dKAPPA SYMBOL,dPHI SYMBOL,dRHO SYMBOL,dPI SYMBOL",
    "aBOLD CAPITAL DIGAMMA,bSMALL DIGAMMA,2bDIGIT ZERO,cONE,cTWO,cTHREE,cFOUR,cFIVE,cSIX",
    "cSEVEN,cEIGHT,cNINE,aDOUBLE-STRUCK DIGIT ZERO,cONE,cTWO,cTHREE,cFOUR,cFIVE,cSIX,cSEVEN",
    "cEIGHT,cNINE,aSANS-SERIF DIGIT ZERO,cONE,cTWO,cTHREE,cFOUR,cFIVE,cSIX,cSEVEN,cEIGHT,cNINE",
    "bBOLD DIGIT ZERO,dONE,dTWO,dTHREE,dFOUR,dFIVE,dSIX,dSEVEN,dEIGHT,dNINE",
    "aMONOSPACE DIGIT ZERO,cONE,cTWO,cTHREE,cFOUR,cFIVE,cSIX,cSEVEN,cEIGHT,cNINE"]⟩,
  ⟨"MAYAN", [
    "119520aNUMERAL ZERO,bONE,bTWO,bTHREE,bFOUR,bFIVE,bSIX,bSEVEN,bEIGHT,bNINE,bTEN,bELEVEN",
    "bTWELVE,bTHIRTEEN,bFOURTEEN,bFIFTEEN,bSIXTEEN,bSEVENTEEN,bEIGHTEEN,bNINETEEN"]⟩,
  ⟨"MEASURED", [
    "8737aANGLE,60aBY,1852aANGLE OPENING LEFT,1aRIGHT ANGLE WITH DOT",
    "10aANGLE WITH OPEN ARM ENDING IN ARROW POINTING UP AND RIGHT,kLEFT,iDOWN AND RIGHT,kLEFT",
    "iRIGHT AND UP,iLEFT AND UP,iRIGHT AND DOWN,iLEFT AND DOWN"]⟩,
  ⟨"MEDEFAIDRIN", [
    "93760aCAPITAL LETTER M,cS,cV,cW,cATIU,cZ,cKP,cP,cT,cG,cF,cI,cK,cA,cJ,cE,cB,cC,cU,cYU,cL",
    "cQ,cHP,cNY,cX,cD,cOE,cN,cR,cO,cAI,cY,aSMALL LETTER M,cS,cV,cW,cATIU,cZ,cKP,cP,cT,cG,cF,cI",
    "cK,cA,cJ,cE,cB,cC,cU,cYU,cL,cQ,cHP,cNY,cX,cD,cOE,cN,cR,cO,cAI,cY,aDIGIT ZERO,bONE,bTWO",
    "bTHREE,bFOUR,bFIVE,bSIX,bSEVEN,bEIGHT,bNINE,aNUMBER TEN,bELEVEN,bTWELVE,bTHIRTEEN",
    "bFOURTEEN,bFIFTEEN,bSIXTEEN,bSEVENTEEN,bEIGHTEEN,bNINETEEN,aDIGIT ONE ALTERNATE FORM",
    "bTWO ALTERNATE FORM,bTHREE ALTERNATE FORM,aCOMMA,aFULL STOP,aSYMBOL AIVA,aEXCLAMATION OH"]⟩,
  ⟨"MEDIEVAL", ["11852aCOMMA,6aEXCLAMATION MARK,aQUESTION MARK"]⟩,
  ⟨"MEDIUM", [
    "8287aMATHEMATICAL SPACE,1330aSHADE,279aWHITE CIRCLE,aBLACK CIRCLE,aSMALL WHITE CIRCLE",
    "172aVERTICAL BAR,14aLEFT PARENTHESIS ORNAMENT,aRIGHT PARENTHESIS ORNAMENT",
    "aFLATTENED LEFT PARENTHESIS ORNAMENT,bRIGHT PARENTHESIS ORNAMENT",
    "aLEFT-POINTING ANGLE BRACKET ORNAMENT,aRIGHT-POINTING ANGLE BRACKET ORNAMENT",
    "6aLEFT CURLY BRACKET ORNAMENT,aRIGHT CURLY BRACKET ORNAMENT,118799aBOLD WHITE CIRCLE",
    "9aWHITE SQUARE,19aGREEK CROSS,6aSALTIRE,5aFIVE SPOKED ASTERISK,5aSIX SPOKED ASTERISK",
    "5aEIGHT SPOKED ASTERISK,4aTHREE POINTED BLACK STAR,1cPINWHEEL STAR",
    "1aFOUR POINTED BLACK STAR,1cPINWHEEL STAR,3aSIX POINTED BLACK STAR",
    "2aEIGHT POINTED BLACK STAR"]⟩,
  ⟨"MEETEI", [
    "43744aMAYEK LETTER E,cO,cCHA,cNYA,cTTA,cTTHA,cDDA,cDDHA,cNNA,cSHA,cSSA,bVOWEL SIGN II,dUU",
    "dAAI,dAU,dAAU,bCHEIKHAN,bAHANG KHUDAM,bANJI,bSYLLABLE REPETITION MARK",
    "bWORD REPETITION MARK,bVOWEL SIGN VISARGA,bVIRAMA,201bLETTER KOK,cSAM,cLAI,cMIT,cPA,cNA",
    "cCHIL,cTIL,cKHOU,cNGOU,cTHOU,cWAI,cYANG,cHUK,cUN,cI,cPHAM,cATIYA,cGOK,cJHAM,cRAI,cBA,cJIL",
    "cDIL,cGHOU,cDHOU,cBHAM,cKOK LONSUM,cLAI LONSUM,cMIT LONSUM,cPA LONSUM,cNA LONSUM",
    "cTIL LONSUM,cNGOU LONSUM,cI LONSUM,bVOWEL SIGN ONAP,dINAP,dANAP,dYENAP,dSOUNAP,dUNAP",
    "dCHEINAP,dNUNG,bCHEIKHEI,bLUM IYEK,bAPUN IYEK,2bDIGIT ZERO,cONE,cTWO,cTHREE,cFOUR,cFIVE",
    "cSIX,cSEVEN,cEIGHT,cNINE"]⟩,
  ⟨"MENDE", [
    "124928aKIKAKUI SYLLABLE M001 KI,cM002 KA,cM003 KU,cM065 KEE,cM095 KE,cM076 KOO,cM048 KO",
    "cM179 KUA,cM004 WI,cM005 WA,cM006 WU,cM126 WEE,cM118 WE,cM114 WOO,cM045 WO,cM194 WUI",
    "cM143 WEI,cM061 WVI,cM049 WVA,cM139 WVE,cM007 MIN,cM008 MAN,cM009 MUN,cM059 MEN,cM094 MON",
    "cM154 MUAN,cM189 MUEN,cM010 BI,cM011 BA,cM012 BU,cM150 BEE,cM097 BE,cM103 BOO,cM138 BO",
    "cM013 I,cM014 A,cM015 U,cM163 EE,cM100 E,cM165 OO,cM147 O,cM137 EI,cM131 IN,cM135 IN",
    "cM195 AN,cM178 EN,cM019 SI,cM020 SA,cM021 SU,cM162 SEE,cM116 SE,cM136 SOO,cM079 SO",
    "cM196 SIA,cM025 LI,cM026 LA,cM027 LU,cM084 LEE,cM073 LE,cM054 LOO,cM153 LO,cM110 LONG LE",
    "cM016 DI,cM017 DA,cM018 DU,cM089 DEE,cM180 DOO,cM181 DO,cM022 TI,cM023 TA,cM024 TU",
    "cM091 TEE,cM055 TE,cM104 TOO,cM069 TO,cM028 JI,cM029 JA,cM030 JU,cM157 JEE,cM113 JE",
    "cM160 JOO,cM063 JO,cM175 LONG JO,cM031 YI,cM032 YA,cM033 YU,cM109 YEE,cM080 YE,cM141 YOO",
    "cM121 YO,cM034 FI,cM035 FA,cM036 FU,cM078 FEE,cM075 FE,cM133 FOO,cM088 FO,cM197 FUA",
    "cM101 FAN,cM037 NIN,cM038 NAN,cM039 NUN,cM117 NEN,cM169 NON,cM176 HI,cM041 HA,cM186 HU",
    "cM040 HEE,cM096 HE,cM042 HOO,cM140 HO,cM083 HEEI,cM128 HOOU,cM053 HIN,cM130 HAN,cM087 HUN",
    "cM052 HEN,cM193 HON,cM046 HUAN,cM090 NGGI,cM043 NGGA,cM082 NGGU,cM115 NGGEE,cM146 NGGE",
    "cM156 NGGOO,cM120 NGGO,cM159 NGGAA,cM127 NGGUA,cM086 LONG NGGE,cM106 LONG NGGOO",
    "cM183 LONG NGGO,cM155 GI,cM111 GA,cM168 GU,cM190 GEE,cM166 GUEI,cM167 GUAN,cM184 NGEN",
    "cM057 NGON,cM177 NGUAN,cM068 PI,cM099 PA,cM050 PU,cM081 PEE,cM051 PE,cM102 POO,cM066 PO",
    "cM145 MBI,cM062 MBA,cM122 MBU,cM047 MBEE,cM188 MBEE,cM072 MBE,cM172 MBOO,cM174 MBO",
    "cM187 MBUU,cM161 LONG MBE,cM105 LONG MBOO,cM142 LONG MBO,cM132 KPI,cM092 KPA,cM074 KPU",
    "cM044 KPEE,cM108 KPE,cM112 KPOO,cM158 KPO,cM124 GBI,cM056 GBA,cM148 GBU,cM093 GBEE",
    "cM107 GBE,cM071 GBOO,cM070 GBO,cM171 RA,cM123 NDI,cM129 NDA,cM125 NDU,cM191 NDEE",
    "cM119 NDE,cM067 NDOO,cM064 NDO,cM152 NJA,cM192 NJU,cM149 NJEE,cM134 NJOO,cM182 VI",
    "cM185 VA,cM151 VU,cM173 VEE,cM085 VE,cM144 VOO,cM077 VO,cM164 NYIN,cM058 NYAN,cM170 NYUN",
    "cM098 NYEN,cM060 NYON,2bDIGIT ONE,cTWO,cTHREE,cFOUR,cFIVE,cSIX,cSEVEN,cEIGHT,cNINE",
    "bCOMBINING NUMBER TEENS,dTENS,dHUNDREDS,dTHOUSANDS,dTEN THOUSANDS,dHUNDRED THOUSANDS",
    "dMILLIONS"]⟩,
  ⟨"MEROITIC", [
    "67968aHIEROGLYPHIC LETTER A,cE,cI,cO,cYA,cWA,cBA,cBA-2,cPA,cMA,cNA,cNA-2,cNE,cNE-2,cRA",
    "cRA-2,cLA,cKHA,cHHA,cSA,cSA-2,cSE,cKA,cQA,cTA,cTA-2,cTE,cTE-2,cTO,cDA,bSYMBOL VIDJ",
    "cVIDJ-2,aCURSIVE LETTER A,cE,cI,cO,cYA,cWA,cBA,cPA,cMA,cNA,cNE,cRA,cLA,cKHA,cHHA,cSA",
    "cARCHAIC SA,cSE,cKA,cQA,cTA,cTE,cTO,cDA,4bFRACTION ELEVEN TWELFTHS,cONE HALF",
    "bLOGOGRAM RMT,cIMN,bNUMBER ONE,cTWO,cTHREE,cFOUR,cFIVE,cSIX,cSEVEN,cEIGHT,cNINE,cTEN",
    "cTWENTY,cTHIRTY,cFORTY,cFIFTY,cSIXTY,cSEVENTY,2cONE HUNDRED,cTWO HUNDRED,cTHREE HUNDRED",
    "cFOUR HUNDRED,cFIVE HUNDRED,cSIX HUNDRED,cSEVEN HUNDRED,cEIGHT HUNDRED,cNINE HUNDRED",
    "cONE THOUSAND,cTWO THOUSAND,cTHREE THOUSAND,cFOUR THOUSAND,cFIVE THOUSAND,cSIX THOUSAND",
    "cSEVEN THOUSAND,cEIGHT THOUSAND,cNINE THOUSAND,cTEN THOUSAND,cTWENTY THOUSAND",
    "cTHIRTY THOUSAND,cFORTY THOUSAND,cFIFTY THOUSAND,cSIXTY THOUSAND,cSEVENTY THOUSAND",
    "cEIGHTY THOUSAND,cNINETY THOUSAND,cONE HUNDRED THOUSAND,cTWO HUNDRED THOUSAND",
    "cTHREE HUNDRED THOUSAND,cFOUR HUNDRED THOUSAND,cFIVE HUNDRED THOUSAND",
    "cSIX HUNDRED THOUSAND,cSEVEN HUNDRED THOUSAND,cEIGHT HUNDRED THOUSAND",
    "cNINE HUNDRED THOUSAND,bFRACTION ONE TWELFTH,cTWO TWELFTHS,cTHREE TWELFTHS,cFOUR TWELFTHS",
    "cFIVE TWELFTHS,cSIX TWELFTHS,cSEVEN TWELFTHS,cEIGHT TWELFTHS,cNINE TWELFTHS,cTEN TWELFTHS"]⟩,
  ⟨"METRICAL", [
    "9169aBREVE,aLONG OVER SHORT,aSHORT OVER LONG,aLONG OVER TWO SHORTS,aTWO SHORTS OVER LONG",
    "cJOINED,aTRISEME,aTETRASEME,aPENTASEME"]⟩,
  ⟨"MIAO", [
    "93952aLETTER PA,bBA,bYI PA,bPLA,bMA,bMHA,bARCHAIC MA,bFA,bVA,bVFA,bTA,bDA,bYI TTA,cTA",
    "bTTA,bDDA,bNA,bNHA,bYI NNA,bARCHAIC NA,bNNA,bNNHA,bLA,bLYA,bLHA,bLHYA,bTLHA,bDLHA,bTLHYA",
    "bDLHYA,bKA,bGA,bYI KA,bQA,bQGA,bNGA,bNGHA,bARCHAIC NGA,bHA,bXA,bGHA,bGHHA,bTSSA,bDZZA",
    "bNYA,bNYHA,bTSHA,bDZHA,bYI TSHA,cDZHA,bREFORMED TSHA,bSHA,bSSA,bZHA,bZSHA,bTSA,bDZA",
    "bYI TSA,bSA,bZA,bZSA,bZZA,bZZSA,bARCHAIC ZZA,bZZYA,bZZSYA,bWA,bAH,bHHA,bBRI,bSYI,bDZYI",
    "bTE,bTSE,bRTE,4aSIGN CONSONANT MODIFIER BAR,aLETTER NASALIZATION,aSIGN ASPIRATION",
    "bREFORMED VOICING,cASPIRATION,aVOWEL SIGN A,cAA,cAHH,cAN,cANG,cO,cOO,cWO,cW,cE,cEN,cENG",
    "cOEY,cI,cIA,cIAN,cIANG,cIO,cIE,cII,cIU,cING,cU,cUA,cUAN,cUANG,cUU,cUEI,cUNG,cY,cYI,cAE",
    "cAEE,cERR,cROUNDED ERR,cER,cROUNDED ER,cAI,cEI,cAU,cOU,cN,cNG,cUOG,cYUI,cOG,cOER,cVW,cIG",
    "cEA,cIONG,cUI,7aTONE RIGHT,bTOP RIGHT,bABOVE,bBELOW,aLETTER TONE-2,bTONE-3,bTONE-4",
    "bTONE-5,bTONE-6,bTONE-7,bTONE-8,bREFORMED TONE-1,cTONE-2,cTONE-4,cTONE-5,cTONE-6,cTONE-8"]⟩,
  ⟨"MINUS", [
    "8722aSIGN,47aTILDE,2022aSIGN WITH COMMA ABOVE,cDOT BELOW,cFALLING DOTS,cRISING DOTS",
    "13bIN TRIANGLE"]⟩,
  ⟨"MOBILE", ["128241aPHONE,bWITH RIGHTWARDS ARROW AT LEFT,1bOFF"]⟩,
  ⟨"MODI", [
    "71168aLETTER A,bAA,bI,bII,bU,bUU,bVOCALIC R,cRR,cL,cLL,bE,bAI,bO,bAU,bKA,bKHA,bGA,bGHA",
    "bNGA,bCA,bCHA,bJA,bJHA,bNYA,bTTA,bTTHA,bDDA,bDDHA,bNNA,bTA,bTHA,bDA,bDHA,bNA,bPA,bPHA,bBA",
    "bBHA,bMA,bYA,bRA,bLA,bVA,bSHA,bSSA,bSA,bHA,bLLA,aVOWEL SIGN AA,cI,cII,cU,cUU,cVOCALIC R",
    "dRR,dL,dLL,cE,cAI,cO,cAU,aSIGN ANUSVARA,bVISARGA,bVIRAMA,bARDHACANDRA,aDANDA",
    "aDOUBLE DANDA,aABBREVIATION SIGN,aSIGN HUVA,11aDIGIT ZERO,bONE,bTWO,bTHREE,bFOUR,bFIVE",
    "bSIX,bSEVEN,bEIGHT,bNINE"]⟩,
  ⟨"MODIFIER", [
    "688aLETTER SMALL H,dWITH HOOK,cJ,cR,cTURNED R,eWITH HOOK,cCAPITAL INVERTED R,cW,cY,bPRIME",
    "bDOUBLE PRIME,bTURNED COMMA,bAPOSTROPHE,bREVERSED COMMA,bRIGHT HALF RING,bLEFT HALF RING",
    "bGLOTTAL STOP,bREVERSED GLOTTAL STOP,bLEFT ARROWHEAD,bRIGHT ARROWHEAD,bUP ARROWHEAD",
    "bDOWN ARROWHEAD,bCIRCUMFLEX ACCENT,1bVERTICAL LINE,bMACRON,bACUTE ACCENT,bGRAVE ACCENT",
    "bLOW VERTICAL LINE,cMACRON,cGRAVE ACCENT,cACUTE ACCENT,bTRIANGULAR COLON",
    "bHALF TRIANGULAR COLON,bCENTRED RIGHT HALF RING,cLEFT HALF RING,bUP TACK,bDOWN TACK",
    "bPLUS SIGN,bMINUS SIGN,6bRHOTIC HOOK,bCROSS ACCENT,bSMALL GAMMA,cL,cS,cX",
    "cREVERSED GLOTTAL STOP,bEXTRA-HIGH TONE BAR,bHIGH TONE BAR,bMID TONE BAR,bLOW TONE BAR",
    "bEXTRA-LOW TONE BAR,bYIN DEPARTING TONE MARK,bYANG DEPARTING TONE MARK,bVOICING",
    "bUNASPIRATED,bDOUBLE APOSTROPHE,bLOW DOWN ARROWHEAD,cUP ARROWHEAD,cLEFT ARROWHEAD",
    "cRIGHT ARROWHEAD,cRING,bMIDDLE GRAVE ACCENT,cDOUBLE GRAVE ACCENT,dACUTE ACCENT,bLOW TILDE",
    "bRAISED COLON,bBEGIN HIGH TONE,bEND HIGH TONE,bBEGIN LOW TONE,bEND LOW TONE,bSHELF",
    "bOPEN SHELF,bLOW LEFT ARROW,3580bGEORGIAN NAR,3119bCAPITAL A,cAE,cB,cBARRED B,cD,cE",
    "cREVERSED E,cG,cH,cI,cJ,cK,cL,cM,cN,cREVERSED N,cO,cOU,cP,cR,cT,cU,cW,bSMALL A,cTURNED A",
    "cALPHA,cTURNED AE,cB,cD,cE,cSCHWA,cOPEN E,cTURNED OPEN E,cG,cTURNED I,cK,cM,cENG,cO",
    "cOPEN O,cTOP HALF O,cBOTTOM HALF O,cP,cT,cU,cSIDEWAYS U,cTURNED M,cV,cAIN,cBETA",
    "cGREEK GAMMA,cDELTA,cGREEK PHI,cCHI,22bCYRILLIC EN,34bSMALL TURNED ALPHA,cC,dWITH CURL",
    "cETH,cREVERSED OPEN E,cF,cDOTLESS J WITH STROKE,cSCRIPT G,cTURNED H,cI WITH STROKE,cIOTA",
    "cCAPITAL I,eWITH STROKE,cJ WITH CROSSED-TAIL,cL WITH RETROFLEX HOOK,ePALATAL HOOK",
    "cCAPITAL L,cM WITH HOOK,cTURNED M WITH LONG LEG,cN WITH LEFT HOOK,eRETROFLEX HOOK",
    "cCAPITAL N,cBARRED O,cPHI,cS WITH HOOK,cESH,cT WITH PALATAL HOOK,cU BAR,cUPSILON",
    "cCAPITAL U,cV WITH HOOK,cTURNED V,cZ,dWITH RETROFLEX HOOK,eCURL,cEZH,cTHETA",
    "3773bCAPITAL V,31262bCYRILLIC HARD SIGN,cSOFT SIGN,98bCHINESE TONE YIN PING,dYANG PING",
    "dYIN SHANG,dYANG SHANG,dYIN QU,dYANG QU,dYIN RU,dYANG RU,bEXTRA-HIGH DOTTED TONE BAR",
    "bHIGH DOTTED TONE BAR,bMID DOTTED TONE BAR,bLOW DOTTED TONE BAR",
    "bEXTRA-LOW DOTTED TONE BAR,bEXTRA-HIGH DOTTED LEFT-STEM TONE BAR",
    "bHIGH DOTTED LEFT-STEM TONE BAR,bMID DOTTED LEFT-STEM TONE BAR",
    "bLOW DOTTED LEFT-STEM TONE BAR,bEXTRA-LOW DOTTED LEFT-STEM TONE BAR",
    "bEXTRA-HIGH LEFT-STEM TONE BAR,bHIGH LEFT-STEM TONE BAR,bMID LEFT-STEM TONE BAR",
    "bLOW LEFT-STEM TONE BAR,bEXTRA-LOW LEFT-STEM TONE BAR,bDOT VERTICAL BAR,cSLASH",
    "cHORIZONTAL BAR,bLOWER RIGHT CORNER ANGLE,bRAISED UP ARROW,cDOWN ARROW,cEXCLAMATION MARK",
    "cINVERTED EXCLAMATION MARK,bLOW INVERTED EXCLAMATION MARK,bSTRESS AND HIGH TONE,dLOW TONE",
    "78bUS,23bLOW CIRCUMFLEX ACCENT,bCOLON,bSHORT EQUALS SIGN,103bCAPITAL C,cF,cQ",
    "3cH WITH STROKE,bSMALL LIGATURE OE,865aBREVE WITH INVERTED BREVE,aLETTER SMALL HENG",
    "cL WITH INVERTED LAZY S,eMIDDLE TILDE,cU WITH LEFT HOOK,9cTURNED W,bLEFT TACK,bRIGHT TACK",
    "23572bSMALL CAPITAL AA,bSUPERSCRIPT TRIANGULAR COLON,cHALF TRIANGULAR COLON,bSMALL AE",
    "cCAPITAL B,cB WITH HOOK,1cDZ DIGRAPH,eWITH RETROFLEX HOOK,fCURL,cDEZH DIGRAPH",
    "cD WITH TAIL,eHOOK,fAND TAIL,cREVERSED E,cCLOSED REVERSED OPEN E,cFENG DIGRAPH,cRAMS HORN",
    "cCAPITAL G,cG WITH HOOK,cCAPITAL G WITH HOOK,cH WITH STROKE,cCAPITAL H,cHENG WITH HOOK",
    "cDOTLESS J WITH STROKE AND HOOK,cLS DIGRAPH,cLZ DIGRAPH,cL WITH BELT,cCAPITAL L WITH BELT",
    "cL WITH RETROFLEX HOOK AND BELT,cLEZH,dWITH RETROFLEX HOOK,cTURNED Y,eWITH BELT",
    "cO WITH STROKE,cCAPITAL OE,cCLOSED OMEGA,cQ,cTURNED R WITH LONG LEG,hAND RETROFLEX HOOK",
    "cR WITH TAIL,eFISHHOOK,cCAPITAL R,cTC DIGRAPH WITH CURL,cTS DIGRAPH,eWITH RETROFLEX HOOK",
    "cTESH DIGRAPH,cT WITH RETROFLEX HOOK,cV WITH RIGHT HOOK,1cCAPITAL Y",
    "bGLOTTAL STOP WITH STROKE,bREVERSED GLOTTAL STOP WITH STROKE,bBILABIAL CLICK",
    "bDENTAL CLICK,bLATERAL CLICK,bALVEOLAR CLICK,bRETROFLEX CLICK WITH RETROFLEX HOOK",
    "bSMALL S WITH CURL"]⟩,
  ⟨"MONGOLIAN", [
    "6144aBIRGA,aELLIPSIS,aCOMMA,aFULL STOP,aCOLON,aFOUR DOTS,aTODO SOFT HYPHEN",
    "aSIBE SYLLABLE BOUNDARY MARKER,aMANCHU COMMA,bFULL STOP,aNIRUGU",
    "aFREE VARIATION SELECTOR ONE,dTWO,dTHREE,aVOWEL SEPARATOR,aFREE VARIATION SELECTOR FOUR",
    "aDIGIT ZERO,bONE,bTWO,bTHREE,bFOUR,bFIVE,bSIX,bSEVEN,bEIGHT,bNINE,6aLETTER A,bE,bI,bO,bU",
    "bOE,bUE,bEE,bNA,bANG,bBA,bPA,bQA,bGA,bMA,bLA,bSA,bSHA,bTA,bDA,bCHA,bJA,bYA,bRA,bWA,bFA",
    "bKA,bKHA,bTSA,bZA,bHAA,bZRA,bLHA,bZHI,bCHI,bTODO LONG VOWEL SIGN,cE,cI,cO,cU,cOE,cUE,cANG",
    "cBA,cPA,cQA,cGA,cMA,cTA,cDA,cCHA,cJA,cTSA,cYA,cWA,cKA,cGAA,cHAA,cJIA,cNIA,cDZA,bSIBE E,cI",
    "cIY,cUE,cU,cANG,cKA,cGA,cHA,cPA,cSHA,cTA,cDA,cJA,cFA,cGAA,cHAA,cTSA,cZA,cRAA,cCHA,cZHA",
    "bMANCHU I,cKA,cRA,cFA,cZHA,bCHA WITH TWO DOTS,7bALI GALI ANUSVARA ONE,dVISARGA ONE",
    "dDAMARU,dUBADAMA,dINVERTED UBADAMA,dBALUDA,dTHREE BALUDA,dA,dI,dKA,dNGA,dCA,dTTA,dTTHA",
    "dDDA,dNNA,dTA,dDA,dPA,dPHA,dSSA,dZHA,dZA,dAH,bTODO ALI GALI TA,eZHA,bMANCHU ALI GALI GHA",
    "eNGA,eCA,eJHA,eTTA,eDDHA,eTA,eDHA,eSSA,eCYA,eZHA,eZA,bALI GALI HALF U,eYA",
    "bMANCHU ALI GALI BHA,bALI GALI DAGALGA,bMANCHU ALI GALI LHA,64949aBIRGA WITH ORNAMENT",
    "aROTATED BIRGA,aDOUBLE BIRGA WITH ORNAMENT,aTRIPLE BIRGA WITH ORNAMENT",
    "aBIRGA WITH DOUBLE ORNAMENT,aROTATED BIRGA WITH ORNAMENT,dDOUBLE ORNAMENT,aINVERTED BIRGA",
    "cWITH DOUBLE ORNAMENT,aSWIRL BIRGA,cWITH ORNAMENT,dDOUBLE ORNAMENT",
    "aTURNED SWIRL BIRGA WITH DOUBLE ORNAMENT"]⟩,
  ⟨"MONOGRAM", ["9866aFOR YANG,bYIN,109684bEARTH"]⟩,
  ⟨"MOUNTAIN", ["9968a,118701aRAILWAY,1aCABLEWAY,20aBICYCLIST"]⟩,
  ⟨"MOUSE", ["128001a,43aFACE,1654aTRAP"]⟩,
  ⟨"MRO", [
    "92736aLETTER TA,bNGI,bYO,bMIM,bBA,bDA,bA,bPHI,bKHAI,bHAO,bDAI,bCHU,bKEAAE,bOL,bMAEM,bNIN",
    "bPA,bOO,bO,bRO,bSHI,bTHEA,bEA,bWA,bE,bKO,bLAN,bLA,bHAI,bRI,bTEK,1aDIGIT ZERO,bONE,bTWO",
    "bTHREE,bFOUR,bFIVE,bSIX,bSEVEN,bEIGHT,bNINE,4aDANDA,aDOUBLE DANDA"]⟩,
  ⟨"MULTANI", [
    "70272aLETTER A,bI,bU,bE,bKA,bKHA,bGA,1bGHA,1bCA,bCHA,bJA,bJJA,1bNYA,bTTA,bTTHA,bDDA,bDDDA",
    "bDDHA,bNNA,bTA,bTHA,bDA,bDHA,bNA,bPA,bPHA,bBA,1bBHA,bMA,bYA,bRA,bLA,bVA,bSA,bHA,bRRA,bRHA",
    "aSECTION MARK"]⟩,
  ⟨"MULTIPLICATION", [
    "215aSIGN,9789aX,794aSIGN WITH DOT ABOVE,cUNDERBAR,2bIN LEFT HALF CIRCLE",
    "cRIGHT HALF CIRCLE,1cDOUBLE CIRCLE,3cTRIANGLE"]⟩,
  ⟨"MULTISET", ["8844a,aMULTIPLICATION,aUNION"]⟩,
  ⟨"MUSIC", ["9837aFLAT SIGN,aNATURAL SIGN,aSHARP SIGN"]⟩,
  ⟨"MUSICAL", [
    "119040aSYMBOL SINGLE BARLINE,bDOUBLE BARLINE,bFINAL BARLINE,bREVERSE FINAL BARLINE",
    "bDASHED BARLINE,bSHORT BARLINE,bLEFT REPEAT SIGN,bRIGHT REPEAT SIGN,bREPEAT DOTS",
    "bDAL SEGNO,bDA CAPO,bSEGNO,bCODA,bREPEATED FIGURE-1,cFIGURE-2,cFIGURE-3,bFERMATA,cBELOW",
    "bBREATH MARK,bCAESURA,bBRACE,bBRACKET,bONE-LINE STAFF,bTWO-LINE STAFF,bTHREE-LINE STAFF",
    "bFOUR-LINE STAFF,bFIVE-LINE STAFF,bSIX-LINE STAFF,bSIX-STRING FRETBOARD",
    "bFOUR-STRING FRETBOARD,bG CLEF,dOTTAVA ALTA,eBASSA,bC CLEF,bF CLEF,dOTTAVA ALTA,eBASSA",
    "bDRUM CLEF-1,cCLEF-2,2bMULTIPLE MEASURE REST,bDOUBLE SHARP,cFLAT,bFLAT UP,cDOWN",
    "bNATURAL UP,cDOWN,bSHARP UP,cDOWN,bQUARTER TONE SHARP,dFLAT,bCOMMON TIME,bCUT TIME",
    "bOTTAVA ALTA,cBASSA,bQUINDICESIMA ALTA,cBASSA,bMULTI REST,bWHOLE REST,bHALF REST",
    "bQUARTER REST,bEIGHTH REST,bSIXTEENTH REST,bTHIRTY-SECOND REST,bSIXTY-FOURTH REST",
    "bONE HUNDRED TWENTY-EIGHTH REST,bX NOTEHEAD,bPLUS NOTEHEAD,bCIRCLE X NOTEHEAD",
    "bSQUARE NOTEHEAD WHITE,dBLACK,bTRIANGLE NOTEHEAD UP WHITE,eBLACK,dLEFT WHITE,eBLACK",
    "dRIGHT WHITE,eBLACK,dDOWN WHITE,eBLACK,dUP RIGHT WHITE,fBLACK,bMOON NOTEHEAD WHITE,dBLACK",
    "bTRIANGLE-ROUND NOTEHEAD DOWN WHITE,eBLACK,bPARENTHESIS NOTEHEAD,bVOID NOTEHEAD",
    "bNOTEHEAD BLACK,bNULL NOTEHEAD,bCLUSTER NOTEHEAD WHITE,dBLACK,bBREVE,bWHOLE NOTE",
    "bHALF NOTE,bQUARTER NOTE,bEIGHTH NOTE,bSIXTEENTH NOTE,bTHIRTY-SECOND NOTE",
    "bSIXTY-FOURTH NOTE,bONE HUNDRED TWENTY-EIGHTH NOTE,bCOMBINING STEM,cSPRECHGESANG STEM",
    "cTREMOLO-1,cTREMOLO-2,cTREMOLO-3,bFINGERED TREMOLO-1,cTREMOLO-2,cTREMOLO-3",
    "bCOMBINING AUGMENTATION DOT,cFLAG-1,cFLAG-2,cFLAG-3,cFLAG-4,cFLAG-5,bBEGIN BEAM,bEND BEAM",
    "bBEGIN TIE,bEND TIE,bBEGIN SLUR,bEND SLUR,bBEGIN PHRASE,bEND PHRASE,bCOMBINING ACCENT",
    "cSTACCATO,cTENUTO,cSTACCATISSIMO,cMARCATO,cMARCATO-STACCATO,cACCENT-STACCATO,cLOURE",
    "bARPEGGIATO UP,cDOWN,bCOMBINING DOIT,cRIP,cFLIP,cSMEAR,cBEND,cDOUBLE TONGUE",
    "cTRIPLE TONGUE,bRINFORZANDO,bSUBITO,bZ,bPIANO,bMEZZO,bFORTE,bCRESCENDO,bDECRESCENDO",
    "bGRACE NOTE SLASH,dNO SLASH,bTR,bTURN,bINVERTED TURN,bTURN SLASH,cUP,bORNAMENT STROKE-1",
    "cSTROKE-2,cSTROKE-3,cSTROKE-4,cSTROKE-5,cSTROKE-6,cSTROKE-7,cSTROKE-8,cSTROKE-9",
    "cSTROKE-10,cSTROKE-11,bHAUPTSTIMME,bNEBENSTIMME,bEND OF STIMME,bDEGREE SLASH",
    "bCOMBINING DOWN BOW,cUP BOW,cHARMONIC,cSNAP PIZZICATO,bPEDAL MARK,cUP MARK",
    "bHALF PEDAL MARK,bGLISSANDO UP,cDOWN,bWITH FINGERNAILS,bDAMP,cALL,bMAXIMA,bLONGA,bBREVIS",
    "bSEMIBREVIS WHITE,cBLACK,bMINIMA,cBLACK,bSEMIMINIMA WHITE,cBLACK,bFUSA WHITE,cBLACK",
    "bLONGA PERFECTA REST,cIMPERFECTA REST,bBREVIS REST,bSEMIBREVIS REST,bMINIMA REST",
    "bSEMIMINIMA REST,bTEMPUS PERFECTUM CUM PROLATIONE PERFECTA,fIMPERFECTA",
    "fPERFECTA DIMINUTION-1,cIMPERFECTUM CUM PROLATIONE PERFECTA,fIMPERFECTA,gDIMINUTION-1",
    "gDIMINUTION-2,gDIMINUTION-3,bCROIX,bGREGORIAN C CLEF,cF CLEF,bSQUARE B,bVIRGA,bPODATUS",
    "bCLIVIS,bSCANDICUS,bCLIMACUS,bTORCULUS,bPORRECTUS,cFLEXUS,bSCANDICUS FLEXUS",
    "bTORCULUS RESUPINUS,bPES SUBPUNCTIS,bKIEVAN C CLEF,cEND OF PIECE,cFINAL NOTE",
    "cRECITATIVE MARK,cWHOLE NOTE,cHALF NOTE,cQUARTER NOTE STEM DOWN,fUP",
    "cEIGHTH NOTE STEM DOWN,fUP,cFLAT SIGN,bSORI,bKORON,8621aKEYBOARD WITH JACKS,28aNOTE",
    "3aKEYBOARD,2aSCORE"]⟩,
  ⟨"MYANMAR", [
    "4096aLETTER KA,bKHA,bGA,bGHA,bNGA,bCA,bCHA,bJA,bJHA,bNYA,bNNYA,bTTA,bTTHA,bDDA,bDDHA,bNNA",
    "bTA,bTHA,bDA,bDHA,bNA,bPA,bPHA,bBA,bBHA,bMA,bYA,bRA,bLA,bWA,bSA,bHA,bLLA,bA,bSHAN A,bI",
    "bII,bU,bUU,bE,bMON E,bO,bAU,aVOWEL SIGN TALL AA,cAA,cI,cII,cU,cUU,cE,cAI,cMON II,dO",
    "cE ABOVE,aSIGN ANUSVARA,bDOT BELOW,bVISARGA,bVIRAMA,bASAT,aCONSONANT SIGN MEDIAL YA,dRA",
    "dWA,dHA,aLETTER GREAT SA,aDIGIT ZERO,bONE,bTWO,bTHREE,bFOUR,bFIVE,bSIX,bSEVEN,bEIGHT",
    "bNINE,aSIGN LITTLE SECTION,bSECTION,aSYMBOL LOCATIVE,bCOMPLETED,bAFOREMENTIONED,bGENITIVE",
    "aLETTER SHA,bSSA,bVOCALIC R,cRR,cL,cLL,aVOWEL SIGN VOCALIC R,dRR,dL,dLL,aLETTER MON NGA",
    "cJHA,cBBA,cBBE,aCONSONANT SIGN MON MEDIAL NA,eMA,eLA,aLETTER SGAW KAREN SHA",
    "aVOWEL SIGN SGAW KAREN EU,aTONE MARK SGAW KAREN HATHI,eKE PHO",
    "aLETTER WESTERN PWO KAREN THA,ePWA,aVOWEL SIGN WESTERN PWO KAREN EU,fUE",
    "aSIGN WESTERN PWO KAREN TONE-1,eTONE-2,eTONE-3,eTONE-4,eTONE-5",
    "aLETTER EASTERN PWO KAREN NNA,eYWA,eGHWA,aVOWEL SIGN GEBA KAREN I,cKAYAH OE,dU,dEE",
    "aLETTER SHAN KA,cKHA,cGA,cCA,cZA,cNYA,cDA,cNA,cPHA,cFA,cBA,cTHA,cHA",
    "aCONSONANT SIGN SHAN MEDIAL WA,aVOWEL SIGN SHAN AA,dE,eABOVE,dFINAL Y,aSIGN SHAN TONE-2",
    "cTONE-3,cTONE-5,cTONE-6,cCOUNCIL TONE-2,dTONE-3,dEMPHATIC TONE,aLETTER RUMAI PALAUNG FA",
    "aSIGN RUMAI PALAUNG TONE-5,aSHAN DIGIT ZERO,cONE,cTWO,cTHREE,cFOUR,cFIVE,cSIX,cSEVEN",
    "cEIGHT,cNINE,aSIGN KHAMTI TONE-1,cTONE-3,aVOWEL SIGN AITON A,dAI,aSYMBOL SHAN ONE",
    "cEXCLAMATION,39232aLETTER SHAN GHA,cCHA,cJHA,cNNA,cBHA,aSIGN SHAN SAW",
    "aMODIFIER LETTER SHAN REDUPLICATION,aLETTER TAI LAING NYA,dFA,dGA,dGHA,dJA,dJHA,dDDA",
    "dDDHA,dNNA,aTAI LAING DIGIT ZERO,dONE,dTWO,dTHREE,dFOUR,dFIVE,dSIX,dSEVEN,dEIGHT,dNINE",
    "aLETTER TAI LAING LLA,dDA,dDHA,dBA,dBHA,97bKHAMTI GA,cCA,cCHA,cJA,cJHA,cNYA,cTTA,cTTHA",
    "cDDA,cDDHA,cDHA,cNA,cSA,cHA,cHHA,cFA,aMODIFIER LETTER KHAMTI REDUPLICATION",
    "aLETTER KHAMTI XA,cZA,cRA,aLOGOGRAM KHAMTI OAY,cQN,cHM,aSYMBOL AITON EXCLAMATION,cONE",
    "cTWO,aLETTER AITON RA,aSIGN PAO KAREN TONE,bTAI LAING TONE-2,dTONE-5",
    "aLETTER SHWE PALAUNG CHA,dSHA"]⟩]

/-- The names that begin with N. -/
def namesN : List NameGroup := [
  ⟨"N-ARY", [
    "8719aPRODUCT,aCOPRODUCT,aSUMMATION,174aLOGICAL AND,bOR,aINTERSECTION,aUNION",
    "1852aCIRCLED DOT OPERATOR,bPLUS OPERATOR,bTIMES OPERATOR,aUNION OPERATOR WITH DOT,dPLUS",
    "aSQUARE INTERSECTION OPERATOR,bUNION OPERATOR,2aTIMES OPERATOR,245aWHITE VERTICAL BAR"]⟩,
  ⟨"NABATAEAN", [
    "67712aLETTER FINAL ALEPH,bALEPH,bFINAL BETH,bBETH,bGIMEL,bDALETH,bFINAL HE,bHE,bWAW",
    "bZAYIN,bHETH,bTETH,bFINAL YODH,bYODH,bFINAL KAPH,bKAPH,bFINAL LAMEDH,bLAMEDH,bFINAL MEM",
    "bMEM,bFINAL NUN,bNUN,bSAMEKH,bAYIN,bPE,bSADHE,bQOPH,bRESH,bFINAL SHIN,bSHIN,bTAW",
    "8aNUMBER ONE,bTWO,bTHREE,bFOUR,aCRUCIFORM NUMBER FOUR,aNUMBER FIVE,bTEN,bTWENTY",
    "bONE HUNDRED"]⟩,
  ⟨"NANDINAGARI", [
    "72096aLETTER A,bAA,bI,bII,bU,bUU,bVOCALIC R,cRR,2bE,bAI,bO,bAU,bKA,bKHA,bGA,bGHA,bNGA,bCA",
    "bCHA,bJA,bJHA,bNYA,bTTA,bTTHA,bDDA,bDDHA,bNNA,bTA,bTHA,bDA,bDHA,bNA,bPA,bPHA,bBA,bBHA,bMA",
    "bYA,bRA,bLA,bVA,bSHA,bSSA,bSA,bHA,bLLA,bRRA,aVOWEL SIGN AA,cI,cII,cU,cUU,cVOCALIC R,dRR",
    "2cE,cAI,cO,cAU,aSIGN ANUSVARA,bVISARGA,bVIRAMA,bAVAGRAHA,bSIDDHAM,aHEADSTROKE",
    "aVOWEL SIGN PRISHTHAMATRA E"]⟩,
  ⟨"NEGATIVE", [
    "9451aCIRCLED NUMBER ELEVEN,cTWELVE,cTHIRTEEN,cFOURTEEN,cFIFTEEN,cSIXTEEN,cSEVENTEEN",
    "cEIGHTEEN,cNINETEEN,cTWENTY,10bDIGIT ZERO,590aSQUARED CROSS MARK",
    "117249aCIRCLED LATIN CAPITAL LETTER A,eB,eC,eD,eE,eF,eG,eH,eI,eJ,eK,eL,eM,eN,eO,eP,eQ,eR",
    "eS,eT,eU,eV,eW,eX,eY,eZ,6aSQUARED LATIN CAPITAL LETTER A,eB,eC,eD,eE,eF,eG,eH,eI,eJ,eK,eL",
    "eM,eN,eO,eP,eQ,eR,eS,eT,eU,eV,eW,eX,eY,eZ,1bIC,bPA,bSA,bAB,bWC,1606aCIRCLED TRIANGLE",
    "1bSQUARE,996aDIAGONAL CROSS,bMIDDLE RIGHT TO LOWER CENTRE,bDIAMOND",
    "4aSQUARED QUESTION MARK"]⟩,
  ⟨"NEITHER", [
    "8775aAPPROXIMATELY NOR ACTUALLY EQUAL TO,40aLESS-THAN NOR EQUAL TO",
    "aGREATER-THAN NOR EQUAL TO,2aLESS-THAN NOR EQUIVALENT TO,aGREATER-THAN NOR EQUIVALENT TO",
    "2aLESS-THAN NOR GREATER-THAN,aGREATER-THAN NOR LESS-THAN,14aA SUBSET OF NOR EQUAL TO",
    "bSUPERSET OF NOR EQUAL TO"]⟩,
  ⟨"NEUTRAL", [
    "128528aFACE,1007aCHESS KING,bQUEEN,bROOK,bBISHOP,bKNIGHT,bPAWN",
    "2bKNIGHT ROTATED FORTY-FIVE DEGREES,12bKING ROTATED NINETY DEGREES",
    "bQUEEN ROTATED NINETY DEGREES,bROOK ROTATED NINETY DEGREES,bBISHOP ROTATED NINETY DEGREES",
    "bKNIGHT ROTATED NINETY DEGREES,bPAWN ROTATED NINETY DEGREES",
    "2bKNIGHT ROTATED ONE HUNDRED THIRTY-FIVE DEGREES,12bTURNED KING,cQUEEN,cROOK,cBISHOP",
    "cKNIGHT,cPAWN,2bKNIGHT ROTATED TWO HUNDRED TWENTY-FIVE DEGREES",
    "12bKING ROTATED TWO HUNDRED SEVENTY DEGREES,bQUEEN ROTATED TWO HUNDRED SEVENTY DEGREES",
    "bROOK ROTATED TWO HUNDRED SEVENTY DEGREES,bBISHOP ROTATED TWO HUNDRED SEVENTY DEGREES",
    "bKNIGHT ROTATED TWO HUNDRED SEVENTY DEGREES,bPAWN ROTATED TWO HUNDRED SEVENTY DEGREES",
    "2bKNIGHT ROTATED THREE HUNDRED FIFTEEN DEGREES,2bEQUIHOPPER,2cROTATED NINETY DEGREES"]⟩,
  ⟨"NEW", [
    "6528aTAI LUE LETTER HIGH QA,dLOW QA,dHIGH KA,eXA,eNGA,dLOW KA,eXA,eNGA,dHIGH TSA,eSA,eYA",
    "dLOW TSA,eSA,eYA,dHIGH TA,eTHA,eNA,dLOW TA,eTHA,eNA,dHIGH PA,ePHA,eMA,dLOW PA,ePHA,eMA",
    "dHIGH FA,eVA,eLA,dLOW FA,eVA,eLA,dHIGH HA,eDA,eBA,dLOW HA,eDA,eBA,dHIGH KVA,eXVA,dLOW KVA",
    "eXVA,dHIGH SUA,dLOW SUA,4cVOWEL SIGN VOWEL SHORTENER,eAA,eII,eU,eUU,eE,eAE,eO,eOA,eUE,eAY",
    "eAAY,eUY,eOY,eOAY,eUEY,eIY,cLETTER FINAL V,eNG,eN,eM,eK,eD,eB,cTONE MARK-1,dMARK-2",
    "6cDIGIT ZERO,dONE,dTWO,dTHREE,dFOUR,dFIVE,dSIX,dSEVEN,dEIGHT,dNINE,cTHAM DIGIT ONE",
    "3cSIGN LAE,dLAEV,1738aSHEQEL SIGN,119398aMOON SYMBOL,8bWITH FACE"]⟩,
  ⟨"NEWA", [
    "70656aLETTER A,bAA,bI,bII,bU,bUU,bVOCALIC R,cRR,cL,cLL,bE,bAI,bO,bAU,bKA,bKHA,bGA,bGHA",
    "bNGA,bNGHA,bCA,bCHA,bJA,bJHA,bNYA,bNYHA,bTTA,bTTHA,bDDA,bDDHA,bNNA,bTA,bTHA,bDA,bDHA,bNA",
    "bNHA,bPA,bPHA,bBA,bBHA,bMA,bMHA,bYA,bRA,bRHA,bLA,bLHA,bWA,bSHA,bSSA,bSA,bHA",
    "aVOWEL SIGN AA,cI,cII,cU,cUU,cVOCALIC R,dRR,dL,dLL,cE,cAI,cO,cAU,aSIGN VIRAMA",
    "bCANDRABINDU,bANUSVARA,bVISARGA,bNUKTA,bAVAGRAHA,bFINAL ANUSVARA,aOM,aSIDDHI,aDANDA",
    "aDOUBLE DANDA,aCOMMA,aGAP FILLER,aABBREVIATION SIGN,aDIGIT ZERO,bONE,bTWO,bTHREE,bFOUR",
    "bFIVE,bSIX,bSEVEN,bEIGHT,bNINE,aDOUBLE COMMA,aPLACEHOLDER MARK,1aINSERTION SIGN",
    "aSANDHI MARK,aLETTER VEDIC ANUSVARA,aSIGN JIHVAMULIYA,bUPADHMANIYA"]⟩,
  ⟨"NKO", [
    "1984aDIGIT ZERO,bONE,bTWO,bTHREE,bFOUR,bFIVE,bSIX,bSEVEN,bEIGHT,bNINE,aLETTER A,bEE,bI,bE",
    "bU,bOO,bO,bDAGBASINNA,bN,bBA,bPA,bTA,bJA,bCHA,bDA,bRA,bRRA,bSA,bGBA,bFA,bKA,bLA",
    "bNA WOLOSO,bMA,bNYA,bNA,bHA,bWA,bYA,bNYA WOLOSO,bJONA JA,cCHA,cRA",
    "aCOMBINING SHORT HIGH TONE,cLOW TONE,cRISING TONE,bLONG DESCENDING TONE,cHIGH TONE",
    "cLOW TONE,cRISING TONE,bNASALIZATION MARK,bDOUBLE DOT ABOVE,aHIGH TONE APOSTROPHE",
    "aLOW TONE APOSTROPHE,aSYMBOL OO DENNEN,bGBAKURUNEN,aCOMMA,aEXCLAMATION MARK,aLAJANYALAN",
    "2aDANTAYALAN,aDOROME SIGN,aTAMAN SIGN"]⟩,
  ⟨"NO", [
    "9940aENTRY,118304aMOBILE PHONES,40aONE UNDER EIGHTEEN SYMBOL,83aPIRACY,312aENTRY SIGN",
    "1aSMOKING SYMBOL,5aBICYCLES,3aPEDESTRIANS"]⟩,
  ⟨"NORTH", [
    "8598aWEST ARROW,aEAST ARROW,32aWEST ARROW TO LONG BAR,29bDOUBLE ARROW,aEAST DOUBLE ARROW",
    "25aWEST ARROW TO CORNER,1839bAND SOUTH EAST ARROW,aEAST AND SOUTH WEST ARROW",
    "aWEST ARROW WITH HOOK,aEAST ARROW WITH HOOK,2aWEST ARROW AND NORTH EAST ARROW",
    "aEAST ARROW AND SOUTH EAST ARROW,5cCROSSING SOUTH EAST ARROW,2dNORTH WEST ARROW",
    "aWEST ARROW CROSSING NORTH EAST ARROW,461aEAST WHITE ARROW,aWEST WHITE ARROW",
    "6aEAST BLACK ARROW,aWEST BLACK ARROW,92bTRIANGLE-HEADED ARROW,aEAST TRIANGLE-HEADED ARROW",
    "14aWEST TRIANGLE-HEADED ARROW TO BAR,aEAST TRIANGLE-HEADED ARROW TO BAR",
    "31928aINDIC FRACTION ONE QUARTER,dHALF,cTHREE QUARTERS,cONE SIXTEENTH,dEIGHTH",
    "cTHREE SIXTEENTHS,bQUARTER MARK,bPLACEHOLDER MARK,bRUPEE MARK,bQUANTITY MARK",
    "85526aWEST POINTING LEAF,1aEAST POINTING LEAF,5aWEST POINTING VINE LEAF",
    "1aEAST POINTING VINE LEAF,5aWEST POINTING BUD,1aEAST POINTING BUD",
    "497aWEST SANS-SERIF ARROW,aEAST SANS-SERIF ARROW"]⟩,
  ⟨"NOT", [
    "172aSIGN,8540aAN ELEMENT OF,28aPARALLEL TO,26aTILDE,2aASYMPTOTICALLY EQUAL TO",
    "4aALMOST EQUAL TO,22aEQUAL TO,1aIDENTICAL TO,10aEQUIVALENT TO,aLESS-THAN,aGREATER-THAN",
    "20aA SUBSET OF,bSUPERSET OF,39aTRUE,52aSQUARE IMAGE OF OR EQUAL TO",
    "bORIGINAL OF OR EQUAL TO,6aNORMAL SUBGROUP OF,1dOR EQUAL TO,142aCHECK MARK"]⟩,
  ⟨"NOTCHED", [
    "10159aLOWER RIGHT-SHADOWED WHITE RIGHTWARDS ARROW",
    "1aUPPER RIGHT-SHADOWED WHITE RIGHTWARDS ARROW,118161aLEFT SEMICIRCLE WITH THREE DOTS",
    "aRIGHT SEMICIRCLE WITH THREE DOTS"]⟩,
  ⟨"NOTE", ["128456a,aPAGE,aPAD"]⟩,
  ⟨"NUMBER", [
    "35aSIGN,9325aTEN FULL STOP,aELEVEN FULL STOP,aTWELVE FULL STOP,aTHIRTEEN FULL STOP",
    "aFOURTEEN FULL STOP,aFIFTEEN FULL STOP,aSIXTEEN FULL STOP,aSEVENTEEN FULL STOP",
    "aEIGHTEEN FULL STOP,aNINETEEN FULL STOP,aTWENTY FULL STOP"]⟩,
  ⟨"NYIAKENG", [
    "123136aPUACHUE HMONG LETTER MA,dTSA,dNTA,dTA,dHA,dNA,dXA,dNKA,dCA,dLA,dSA,dZA,dNCA,dNTSA",
    "dKA,dDA,dNYA,dNRA,dVA,dNTXA,dTXA,dFA,dRA,dQA,dYA,dNQA,dPA,dXYA,dNPA,dDLA,dNPLA,dHAH,dMLA",
    "dPLA,dGA,dRRA,dA,dAA,dI,dU,dO,dOO,dE,dEE,dW,3cTONE-B,cTONE-M,cTONE-J,cTONE-V,cTONE-S",
    "cTONE-G,cTONE-D,cSIGN FOR PERSON,eTHING,eLOCATION,eANIMAL,eINVERTEBRATE,dXW XW",
    "cSYLLABLE LENGTHENER,2cDIGIT ZERO,dONE,dTWO,dTHREE,dFOUR,dFIVE,dSIX,dSEVEN,dEIGHT,dNINE",
    "4cLOGOGRAM NYAJ,cCIRCLED CA"]⟩]

/-- The names that begin with O. -/
def namesO : List NameGroup := [
  ⟨"OBLIQUE", ["10662aANGLE OPENING UP,cDOWN,1205aHYPHEN"]⟩,
  ⟨"OCR", [
    "9280aHOOK,aCHAIR,aFORK,aINVERTED FORK,aBELT BUCKLE,aBOW TIE,aBRANCH BANK IDENTIFICATION",
    "aAMOUNT OF CHECK,aDASH,aCUSTOMER ACCOUNT NUMBER,aDOUBLE BACKSLASH"]⟩,
  ⟨"OGHAM", [
    "5760aSPACE MARK,aLETTER BEITH,bLUIS,bFEARN,bSAIL,bNION,bUATH,bDAIR,bTINNE,bCOLL,bCEIRT",
    "bMUIN,bGORT,bNGEADAL,bSTRAIF,bRUIS,bAILM,bONN,bUR,bEADHADH,bIODHADH,bEABHADH,bOR",
    "bUILLEANN,bIFIN,bEAMHANCHOLL,bPEITH,aFEATHER MARK,aREVERSED FEATHER MARK"]⟩,
  ⟨"OL", [
    "7248aCHIKI DIGIT ZERO,cONE,cTWO,cTHREE,cFOUR,cFIVE,cSIX,cSEVEN,cEIGHT,cNINE,bLETTER LA",
    "cAT,cAG,cANG,cAL,cLAA,cAAK,cAAJ,cAAM,cAAW,cLI,cIS,cIH,cINY,cIR,cLU,cUC,cUD,cUNN,cUY,cLE",
    "cEP,cEDD,cEN,cERR,cLO,cOTT,cOB,cOV,cOH,bMU TTUDDAG,bGAAHLAA TTUDDAAG,bMU-GAAHLAA TTUDDAAG",
    "bRELAA,bPHAARKAA,bAHAD,bPUNCTUATION MUCAAD,cDOUBLE MUCAAD"]⟩,
  ⟨"OLD", [
    "66304aITALIC LETTER A,cBE,cKE,cDE,cE,cVE,cZE,cHE,cTHE,cI,cKA,cEL,cEM,cEN,cESH,cO,cPE,cSHE",
    "cKU,cER,cES,cTE,cU,cEKS,cPHE,cKHE,cEF,cERS,cCHE,cII,cUU,cESS,bNUMERAL ONE,cFIVE,cTEN",
    "cFIFTY,9bLETTER YE,cNORTHERN TSE,cSOUTHERN TSE,32aPERMIC LETTER AN,cBUR,cGAI,cDOI,cE",
    "cZHOI,cDZHOI,cZATA,cDZITA,cI,cKOKE,cLEI,cMENOE,cNENOE,cVOOI,cPEEI,cREI,cSII,cTAI,cU",
    "cCHERY,cSHOOI,cSHCHOOI,cYRY,cYERU,cO,cOO,cEF,cHA,cTSIU,cVER,cYER,cYERI,cYAT,cIE,cYU,cYA",
    "cIA,42aPERSIAN SIGN A,cI,cU,cKA,cKU,cGA,cGU,cXA,cCA,cJA,cJI,cTA,cTU,cDA,cDI,cDU,cTHA,cPA",
    "cBA,cFA,cNA,cNU,cMA,cMI,cMU,cYA,cVA,cVI,cRA,cRU,cLA,cSA,cZA,cSHA,cSSA,cHA,4cAURAMAZDAA",
    "cAURAMAZDAA-2,cAURAMAZDAAHA,cXSHAAYATHIYA,cDAHYAAUSH,cDAHYAAUSH-2,cBAGA,cBUUMISH",
    "bWORD DIVIDER,bNUMBER ONE,cTWO,cTEN,cTWENTY,cHUNDRED,1674aSOUTH ARABIAN LETTER HE,dLAMEDH",
    "dHETH,dMEM,dQOPH,dWAW,dSHIN,dRESH,dBETH,dTAW,dSAT,dKAPH,dNUN,dKHETH,dSADHE,dSAMEKH,dFE",
    "dALEF,dAYN,dDHADHE,dGIMEL,dDALETH,dGHAYN,dTETH,dZAYN,dDHALETH,dYODH,dTHAW,dTHETH",
    "cNUMBER ONE,dFIFTY,cNUMERIC INDICATOR,aNORTH ARABIAN LETTER HEH,dLAM,dHAH,dMEEM,dQAF,dWAW",
    "dES-2,dREH,dBEH,dTEH,dES-1,dKAF,dNOON,dKHAH,dSAD,dES-3,dFEH,dALEF,dAIN,dDAD,dGEEM,dDAL",
    "dGHAIN,dTAH,dZAIN,dTHAL,dYEH,dTHEH,dZAH,cNUMBER ONE,dTEN,dTWENTY",
    "352aTURKIC LETTER ORKHON A,cYENISEI A,dAE,cORKHON I,cYENISEI I,dE,cORKHON O,dOE",
    "cYENISEI OE,cORKHON AB,cYENISEI AB,cORKHON AEB,cYENISEI AEB,cORKHON AG,cYENISEI AG",
    "cORKHON AEG,cYENISEI AEG,cORKHON AD,cYENISEI AD,cORKHON AED,dEZ,cYENISEI EZ,cORKHON AY",
    "cYENISEI AY,cORKHON AEY,cYENISEI AEY,cORKHON AEK,cYENISEI AEK,cORKHON OEK,cYENISEI OEK",
    "cORKHON AL,cYENISEI AL,cORKHON AEL,dELT,dEM,dAN,dAEN,cYENISEI AEN,cORKHON ENT",
    "cYENISEI ENT,cORKHON ENC,cYENISEI ENC,cORKHON ENY,cYENISEI ENY,dANG,cORKHON ENG",
    "cYENISEI AENG,cORKHON EP,dOP,dIC,dEC,cYENISEI EC,cORKHON AQ,cYENISEI AQ,cORKHON IQ",
    "cYENISEI IQ,cORKHON OQ,cYENISEI OQ,cORKHON AR,cYENISEI AR,cORKHON AER,dAS,dAES,dASH",
    "cYENISEI ASH,cORKHON ESH,cYENISEI ESH,cORKHON AT,cYENISEI AT,cORKHON AET,cYENISEI AET",
    "cORKHON OT,dBASH,55aHUNGARIAN CAPITAL LETTER A,dAA,dEB,dAMB,dEC,dENC,dECS,dED,dAND,dE",
    "dCLOSE E,dEE,dEF,dEG,dEGY,dEH,dI,dII,dEJ,dEK,dAK,dUNK,dEL,dELY,dEM,dEN,dENY,dO,dOO",
    "dNIKOLSBURG OE,dRUDIMENTA OE,dOEE,dEP,dEMP,dER,dSHORT ER,dES,dESZ,dET,dENT,dETY,dECH,dU",
    "dUU,dNIKOLSBURG UE,dRUDIMENTA UE,dEV,dEZ,dEZS,dENT-SHAPED SIGN,dUS,13bSMALL LETTER A,dAA",
    "dEB,dAMB,dEC,dENC,dECS,dED,dAND,dE,dCLOSE E,dEE,dEF,dEG,dEGY,dEH,dI,dII,dEJ,dEK,dAK,dUNK",
    "dEL,dELY,dEM,dEN,dENY,dO,dOO,dNIKOLSBURG OE,dRUDIMENTA OE,dOEE,dEP,dEMP,dER,dSHORT ER,dES",
    "dESZ,dET,dENT,dETY,dECH,dU,dUU,dNIKOLSBURG UE,dRUDIMENTA UE,dEV,dEZ,dEZS,dENT-SHAPED SIGN",
    "dUS,7bNUMBER ONE,cFIVE,cTEN,cFIFTY,cONE HUNDRED,dTHOUSAND,512aSOGDIAN LETTER ALEPH",
    "cFINAL ALEPH,cBETH,cFINAL BETH,cGIMEL,cHE,cFINAL HE,cWAW,cZAYIN,cHETH,cYODH,cKAPH,cLAMEDH",
    "cMEM,cNUN,cFINAL NUN,eWITH VERTICAL TAIL,cSAMEKH,cAYIN,cALTERNATE AYIN,cPE,cSADHE",
    "cFINAL SADHE,eWITH VERTICAL TAIL,cRESH-AYIN-DALETH,cSHIN,cTAW,cFINAL TAW",
    "eWITH VERTICAL TAIL,bNUMBER ONE,cTWO,cTHREE,cFOUR,cFIVE,cTEN,cTWENTY,cTHIRTY,cONE HUNDRED",
    "bFRACTION ONE HALF,bLIGATURE AYIN-DALETH,72aUYGHUR LETTER ALEPH,cBETH,cGIMEL-HETH,cWAW",
    "cZAYIN,cFINAL HETH,cYODH,cKAPH,cLAMEDH,cMEM,cNUN,cSAMEKH,cPE,cSADHE,cRESH,cSHIN,cTAW",
    "cLESH,bCOMBINING DOT ABOVE,dBELOW,cTWO DOTS ABOVE,eBELOW,bPUNCTUATION BAR,cTWO BARS,dDOTS",
    "cFOUR DOTS,24664aCHINESE HOOK MARK,bITERATION MARK,34255aPERSONAL COMPUTER,41aKEY"]⟩,
  ⟨"OLDER", ["128116aMAN,aWOMAN,1373aADULT"]⟩,
  ⟨"ONCOMING", ["128653aBUS,6aPOLICE CAR,1aTAXI,1aAUTOMOBILE,88aFIRE ENGINE"]⟩,
  ⟨"ONE", ["8228aDOT LEADER,3590bOVER TWO DOTS PUNCTUATION,116611aBUTTON MOUSE"]⟩,
  ⟨"OPEN", [
    "9251aBOX,759aCENTRE CROSS,15bBLACK STAR,6bASTERISK,9bTEARDROP-SPOKED ASTERISK,134aSUBSET",
    "aSUPERSET,117899aHANDS SIGN,113aFILE FOLDER,19aBOOK,21aMAILBOX WITH RAISED FLAG",
    "cLOWERED FLAG,37aLOCK,173aFOLDER"]⟩,
  ⟨"ORIYA", [
    "2817aSIGN CANDRABINDU,bANUSVARA,bVISARGA,1aLETTER A,bAA,bI,bII,bU,bUU,bVOCALIC R,cL,2bE",
    "bAI,2bO,bAU,bKA,bKHA,bGA,bGHA,bNGA,bCA,bCHA,bJA,bJHA,bNYA,bTTA,bTTHA,bDDA,bDDHA,bNNA,bTA",
    "bTHA,bDA,bDHA,bNA,1bPA,bPHA,bBA,bBHA,bMA,bYA,bRA,1bLA,bLLA,1bVA,bSHA,bSSA,bSA,bHA",
    "2aSIGN NUKTA,bAVAGRAHA,aVOWEL SIGN AA,cI,cII,cU,cUU,cVOCALIC R,dRR,2cE,cAI,2cO,cAU",
    "aSIGN VIRAMA,7bOVERLINE,aAI LENGTH MARK,aAU LENGTH MARK,4aLETTER RRA,bRHA,1bYYA",
    "bVOCALIC RR,cLL,aVOWEL SIGN VOCALIC L,dLL,2aDIGIT ZERO,bONE,bTWO,bTHREE,bFOUR,bFIVE,bSIX",
    "bSEVEN,bEIGHT,bNINE,aISSHAR,aLETTER WA,aFRACTION ONE QUARTER,cHALF,bTHREE QUARTERS",
    "bONE SIXTEENTH,cEIGHTH,bTHREE SIXTEENTHS"]⟩,
  ⟨"OSAGE", [
    "66736aCAPITAL LETTER A,cAI,cAIN,cAH,cBRA,cCHA,cEHCHA,cE,cEIN,cHA,cHYA,cI,cKA,cEHKA,cKYA",
    "cLA,cMA,cNA,cO,cOIN,cPA,cEHPA,cSA,cSHA,cTA,cEHTA,cTSA,cEHTSA,cTSHA,cDHA,cU,cWA,cKHA,cGHA",
    "cZA,cZHA,4aSMALL LETTER A,cAI,cAIN,cAH,cBRA,cCHA,cEHCHA,cE,cEIN,cHA,cHYA,cI,cKA,cEHKA",
    "cKYA,cLA,cMA,cNA,cO,cOIN,cPA,cEHPA,cSA,cSHA,cTA,cEHTA,cTSA,cEHTSA,cTSHA,cDHA,cU,cWA,cKHA",
    "cGHA,cZA,cZHA"]⟩,
  ⟨"OSMANYA", [
    "66688aLETTER ALEF,bBA,bTA,bJA,bXA,bKHA,bDEEL,bRA,bSA,bSHIIN,bDHA,bCAYN,bGA,bFA,bQAAF",
    "bKAAF,bLAAN,bMIIN,bNUUN,bWAW,bHA,bYA,bA,bE,bI,bO,bU,bAA,bEE,bOO,2aDIGIT ZERO,bONE,bTWO",
    "bTHREE,bFOUR,bFIVE,bSIX,bSEVEN,bEIGHT,bNINE"]⟩,
  ⟨"OTTOMAN", [
    "126209aSIYAQ NUMBER ONE,cTWO,cTHREE,cFOUR,cFIVE,cSIX,cSEVEN,cEIGHT,cNINE,cTEN,cTWENTY",
    "cTHIRTY,cFORTY,cFIFTY,cSIXTY,cSEVENTY,cEIGHTY,cNINETY,cONE HUNDRED,cTWO HUNDRED",
    "cTHREE HUNDRED,cFOUR HUNDRED,cFIVE HUNDRED,cSIX HUNDRED,cSEVEN HUNDRED,cEIGHT HUNDRED",
    "cNINE HUNDRED,cONE THOUSAND,cTWO THOUSAND,cTHREE THOUSAND,cFOUR THOUSAND,cFIVE THOUSAND",
    "cSIX THOUSAND,cSEVEN THOUSAND,cEIGHT THOUSAND,cNINE THOUSAND,cTEN THOUSAND",
    "cTWENTY THOUSAND,cTHIRTY THOUSAND,cFORTY THOUSAND,cFIFTY THOUSAND,cSIXTY THOUSAND",
    "cSEVENTY THOUSAND,cEIGHTY THOUSAND,cNINETY THOUSAND,bMARRATAN,bALTERNATE NUMBER TWO",
    "dTHREE,dFOUR,dFIVE,dSIX,dSEVEN,dEIGHT,dNINE,dTEN,dFOUR HUNDRED,dSIX HUNDRED,dTWO THOUSAND",
    "dTEN THOUSAND,bFRACTION ONE HALF,dSIXTH"]⟩,
  ⟨"OUTLINED", ["9885aWHITE STAR,123aGREEK CROSS,5aLATIN CROSS,13aBLACK STAR"]⟩,
  ⟨"OVERLAPPING", ["11194aWHITE SQUARES,bAND BLACK SQUARES,aBLACK SQUARES"]⟩]

end Phrasebook.CharName
