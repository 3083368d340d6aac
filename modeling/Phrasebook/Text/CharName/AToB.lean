import Phrasebook.Text.CharName.Group

/-!
Names of characters that begin with the letters from A to B, by the tables of Unicode 14.
-/

namespace Phrasebook.CharName

/-- The names that begin with A. -/
def namesA : List NameGroup := [
  ⟨"ADLAM", [
    "125184aCAPITAL LETTER ALIF,cDAALI,cLAAM,cMIIM,cBA,cSINNYIIYHE,cPE,cBHE,cRA,cE,cFA,cI,cO",
    "cDHA,cYHE,cWAW,cNUN,cKAF,cYA,cU,cJIIM,cCHI,cHA,cQAAF,cGA,cNYA,cTU,cNHA,cVA,cKHA,cGBE,cZAL",
    "cKPO,cSHA,aSMALL LETTER ALIF,cDAALI,cLAAM,cMIIM,cBA,cSINNYIIYHE,cPE,cBHE,cRA,cE,cFA,cI,cO",
    "cDHA,cYHE,cWAW,cNUN,cKAF,cYA,cU,cJIIM,cCHI,cHA,cQAAF,cGA,cNYA,cTU,cNHA,cVA,cKHA,cGBE,cZAL",
    "cKPO,cSHA,aALIF LENGTHENER,aVOWEL LENGTHENER,aGEMINATION MARK,aHAMZA,aCONSONANT MODIFIER",
    "aGEMINATE CONSONANT MODIFIER,aNUKTA,aNASALIZATION MARK,4aDIGIT ZERO,bONE,bTWO,bTHREE",
    "bFOUR,bFIVE,bSIX,bSEVEN,bEIGHT,bNINE,4aINITIAL EXCLAMATION MARK,bQUESTION MARK"]⟩,
  ⟨"AEGEAN", [
    "65792aWORD SEPARATOR LINE,cDOT,aCHECK MARK,4aNUMBER ONE,bTWO,bTHREE,bFOUR,bFIVE,bSIX",
    "bSEVEN,bEIGHT,bNINE,bTEN,bTWENTY,bTHIRTY,bFORTY,bFIFTY,bSIXTY,bSEVENTY,bEIGHTY,bNINETY",
    "bONE HUNDRED,bTWO HUNDRED,bTHREE HUNDRED,bFOUR HUNDRED,bFIVE HUNDRED,bSIX HUNDRED",
    "bSEVEN HUNDRED,bEIGHT HUNDRED,bNINE HUNDRED,bONE THOUSAND,bTWO THOUSAND,bTHREE THOUSAND",
    "bFOUR THOUSAND,bFIVE THOUSAND,bSIX THOUSAND,bSEVEN THOUSAND,bEIGHT THOUSAND",
    "bNINE THOUSAND,bTEN THOUSAND,bTWENTY THOUSAND,bTHIRTY THOUSAND,bFORTY THOUSAND",
    "bFIFTY THOUSAND,bSIXTY THOUSAND,bSEVENTY THOUSAND,bEIGHTY THOUSAND,bNINETY THOUSAND",
    "3aWEIGHT BASE UNIT,bFIRST SUBUNIT,bSECOND SUBUNIT,bTHIRD SUBUNIT,bFOURTH SUBUNIT",
    "aDRY MEASURE FIRST SUBUNIT,aLIQUID MEASURE FIRST SUBUNIT,aMEASURE SECOND SUBUNIT",
    "bTHIRD SUBUNIT"]⟩,
  ⟨"AHOM", [
    "71424aLETTER KA,bKHA,bNGA,bNA,bTA,bALTERNATE TA,bPA,bPHA,bBA,bMA,bJA,bCHA,bTHA,bRA,bLA",
    "bSA,bNYA,bHA,bA,bDA,bDHA,bGA,bALTERNATE GA,bGHA,bBHA,bJHA,bALTERNATE BA",
    "2aCONSONANT SIGN MEDIAL LA,dRA,dLIGATING RA,aVOWEL SIGN A,cAA,cI,cII,cU,cUU,cE,cAW,cO,cAI",
    "cAM,aSIGN KILLER,4aDIGIT ZERO,bONE,bTWO,bTHREE,bFOUR,bFIVE,bSIX,bSEVEN,bEIGHT,bNINE",
    "aNUMBER TEN,bTWENTY,aSIGN SMALL SECTION,bSECTION,bRULAI,aSYMBOL VI,aLETTER CA,bTTA,bTTHA",
    "bDDA,bDDHA,bNNA,bLLA"]⟩,
  ⟨"AIRPLANE", ["9992a,118754aDEPARTURE,aARRIVING"]⟩,
  ⟨"ALCHEMICAL", [
    "128768aSYMBOL FOR QUINTESSENCE,cAIR,cFIRE,cEARTH,cWATER,cAQUAFORTIS,cAQUA REGIA,dREGIA-2",
    "dVITAE,dVITAE-2,cVINEGAR,cVINEGAR-2,cVINEGAR-3,cSULFUR,cPHILOSOPHERS SULFUR,cBLACK SULFUR",
    "cMERCURY SUBLIMATE,dSUBLIMATE-2,dSUBLIMATE-3,cCINNABAR,cSALT,cNITRE,cVITRIOL,cVITRIOL-2",
    "cROCK SALT,dSALT-2,cGOLD,cSILVER,cIRON ORE,dORE-2,cCROCUS OF IRON,cREGULUS OF IRON",
    "cCOPPER ORE,cIRON-COPPER ORE,cSUBLIMATE OF COPPER,cCROCUS OF COPPER,eCOPPER-2",
    "cCOPPER ANTIMONIATE,cSALT OF COPPER ANTIMONIATE,cSUBLIMATE OF SALT OF COPPER,cVERDIGRIS",
    "cTIN ORE,cLEAD ORE,cANTIMONY ORE,cSUBLIMATE OF ANTIMONY,cSALT OF ANTIMONY",
    "cSUBLIMATE OF SALT OF ANTIMONY,cVINEGAR OF ANTIMONY,cREGULUS OF ANTIMONY,eANTIMONY-2,d",
    "cREGULUS-2,cREGULUS-3,cREGULUS-4,cALKALI,cALKALI-2,cMARCASITE,cSAL-AMMONIAC,cARSENIC",
    "cREALGAR,cREALGAR-2,cAURIPIGMENT,cBISMUTH ORE,cTARTAR,cTARTAR-2,cQUICK LIME,cBORAX",
    "cBORAX-2,cBORAX-3,cALUM,cOIL,cSPIRIT,cTINCTURE,cGUM,cWAX,cPOWDER,cCALX,cTUTTY",
    "cCAPUT MORTUUM,cSCEPTER OF JOVE,cCADUCEUS,cTRIDENT,cSTARRED TRIDENT,cLODESTONE,cSOAP",
    "cURINE,cHORSE DUNG,cASHES,cPOT ASHES,cBRICK,cPOWDERED BRICK,cAMALGAM",
    "cSTRATUM SUPER STRATUM,eSTRATUM-2,cSUBLIMATION,cPRECIPITATE,cDISTILL,cDISSOLVE",
    "cDISSOLVE-2,cPURIFY,cPUTREFACTION,cCRUCIBLE,cCRUCIBLE-2,cCRUCIBLE-3,cCRUCIBLE-4",
    "cCRUCIBLE-5,cALEMBIC,cBATH OF MARY,eVAPOURS,cRETORT,cHOUR,cNIGHT,cDAY-NIGHT,cMONTH",
    "cHALF DRAM,dOUNCE"]⟩,
  ⟨"ALMOST", ["8776aEQUAL TO,1bOR EQUAL TO,2084bTO WITH CIRCUMFLEX ACCENT"]⟩,
  ⟨"ANATOLIAN", [
    "82944aHIEROGLYPH A001,bA002,bA003,bA004,bA005,bA006,bA007,bA008,bA009,bA010,bA010A,bA011",
    "bA012,bA013,bA014,bA015,bA016,bA017,bA018,bA019,bA020,bA021,bA022,bA023,bA024,bA025,bA026",
    "bA026A,bA027,bA028,bA029,bA030,bA031,bA032,bA033,bA034,bA035,bA036,bA037,bA038,bA039",
    "bA039A,bA040,bA041,bA041A,bA042,bA043,bA044,bA045,bA045A,bA046,bA046A,bA046B,bA047,bA048",
    "bA049,bA050,bA051,bA052,bA053,bA054,bA055,bA056,bA057,bA058,bA059,bA060,bA061,bA062,bA063",
    "bA064,bA065,bA066,bA066A,bA066B,bA066C,bA067,bA068,bA069,bA070,bA071,bA072,bA073,bA074",
    "bA075,bA076,bA077,bA078,bA079,bA080,bA081,bA082,bA083,bA084,bA085,bA086,bA087,bA088,bA089",
    "bA090,bA091,bA092,bA093,bA094,bA095,bA096,bA097,bA097A,bA098,bA098A,bA099,bA100,bA100A",
    "bA101,bA101A,bA102,bA102A,bA103,bA104,bA104A,bA104B,bA104C,bA105,bA105A,bA105B,bA106",
    "bA107,bA107A,bA107B,bA107C,bA108,bA109,bA110,bA110A,bA110B,bA111,bA112,bA113,bA114,bA115",
    "bA115A,bA116,bA117,bA118,bA119,bA120,bA121,bA122,bA123,bA124,bA125,bA125A,bA126,bA127",
    "bA128,bA129,bA130,bA131,bA132,bA133,bA134,bA135,bA135A,bA136,bA137,bA138,bA139,bA140",
    "bA141,bA142,bA143,bA144,bA145,bA146,bA147,bA148,bA149,bA150,bA151,bA152,bA153,bA154,bA155",
    "bA156,bA157,bA158,bA159,bA160,bA161,bA162,bA163,bA164,bA165,bA166,bA167,bA168,bA169,bA170",
    "bA171,bA172,bA173,bA174,bA175,bA176,bA177,bA178,bA179,bA180,bA181,bA182,bA183,bA184,bA185",
    "bA186,bA187,bA188,bA189,bA190,bA191,bA192,bA193,bA194,bA195,bA196,bA197,bA198,bA199,bA200",
    "bA201,bA202,bA202A,bA202B,bA203,bA204,bA205,bA206,bA207,bA207A,bA208,bA209,bA209A,bA210",
    "bA211,bA212,bA213,bA214,bA215,bA215A,bA216,bA216A,bA217,bA218,bA219,bA220,bA221,bA222",
    "bA223,bA224,bA225,bA226,bA227,bA227A,bA228,bA229,bA230,bA231,bA232,bA233,bA234,bA235",
    "bA236,bA237,bA238,bA239,bA240,bA241,bA242,bA243,bA244,bA245,bA246,bA247,bA248,bA249,bA250",
    "bA251,bA252,bA253,bA254,bA255,bA256,bA257,bA258,bA259,bA260,bA261,bA262,bA263,bA264,bA265",
    "bA266,bA267,bA267A,bA268,bA269,bA270,bA271,bA272,bA273,bA274,bA275,bA276,bA277,bA278",
    "bA279,bA280,bA281,bA282,bA283,bA284,bA285,bA286,bA287,bA288,bA289,bA289A,bA290,bA291",
    "bA292,bA293,bA294,bA294A,bA295,bA296,bA297,bA298,bA299,bA299A,bA300,bA301,bA302,bA303",
    "bA304,bA305,bA306,bA307,bA308,bA309,bA309A,bA310,bA311,bA312,bA313,bA314,bA315,bA316",
    "bA317,bA318,bA319,bA320,bA321,bA322,bA323,bA324,bA325,bA326,bA327,bA328,bA329,bA329A",
    "bA330,bA331,bA332A,bA332B,bA332C,bA333,bA334,bA335,bA336,bA336A,bA336B,bA336C,bA337,bA338",
    "bA339,bA340,bA341,bA342,bA343,bA344,bA345,bA346,bA347,bA348,bA349,bA350,bA351,bA352,bA353",
    "bA354,bA355,bA356,bA357,bA358,bA359,bA359A,bA360,bA361,bA362,bA363,bA364,bA364A,bA365",
    "bA366,bA367,bA368,bA368A,bA369,bA370,bA371,bA371A,bA372,bA373,bA374,bA375,bA376,bA377",
    "bA378,bA379,bA380,bA381,bA381A,bA382,bA383 RA OR RI,bA383A,bA384,bA385,bA386,bA386A,bA387",
    "bA388,bA389,bA390,bA391,bA392,bA393 EIGHT,bA394,bA395,bA396,bA397,bA398,bA399,bA400,bA401",
    "bA402,bA403,bA404,bA405,bA406,bA407,bA408,bA409,bA410 BEGIN LOGOGRAM MARK",
    "bA410A END LOGOGRAM MARK,bA411,bA412,bA413,bA414,bA415,bA416,bA417,bA418,bA419,bA420",
    "bA421,bA422,bA423,bA424,bA425,bA426,bA427,bA428,bA429,bA430,bA431,bA432,bA433,bA434,bA435",
    "bA436,bA437,bA438,bA439,bA440,bA441,bA442,bA443,bA444,bA445,bA446,bA447,bA448,bA449,bA450",
    "bA450A,bA451,bA452,bA453,bA454,bA455,bA456,bA457,bA457A,bA458,bA459,bA460,bA461,bA462",
    "bA463,bA464,bA465,bA466,bA467,bA468,bA469,bA470,bA471,bA472,bA473,bA474,bA475,bA476,bA477",
    "bA478,bA479,bA480,bA481,bA482,bA483,bA484,bA485,bA486,bA487,bA488,bA489,bA490,bA491,bA492",
    "bA493,bA494,bA495,bA496,bA497,bA501,bA502,bA503,bA504,bA505,bA506,bA507,bA508,bA509,bA510",
    "bA511,bA512,bA513,bA514,bA515,bA516,bA517,bA518,bA519,bA520,bA521,bA522,bA523,bA524,bA525",
    "bA526,bA527,bA528,bA529,bA530"]⟩,
  ⟨"ANGLE", ["8736a,1917aWITH S INSIDE,5bUNDERBAR"]⟩,
  ⟨"ANTICLOCKWISE", [
    "8630aTOP SEMICIRCLE ARROW,3aOPEN CIRCLE ARROW,120aCONTOUR INTEGRAL",
    "1470aGAPPED CIRCLE ARROW,333aCLOSED CIRCLE ARROW,208aINTEGRATION",
    "349aTRIANGLE-HEADED OPEN CIRCLE ARROW,28bRIGHT U-SHAPED ARROW,bBOTTOM U-SHAPED ARROW",
    "bLEFT U-SHAPED ARROW,bTOP U-SHAPED ARROW,117108aDOWNWARDS AND UPWARDS OPEN CIRCLE ARROWS"]⟩,
  ⟨"APL", [
    "9014aFUNCTIONAL SYMBOL I-BEAM,cSQUISH QUAD,cQUAD EQUAL,dDIVIDE,dDIAMOND,dJOT,dCIRCLE",
    "cCIRCLE STILE,dJOT,cSLASH BAR,cBACKSLASH BAR,cQUAD SLASH,dBACKSLASH,dLESS-THAN",
    "dGREATER-THAN,cLEFTWARDS VANE,cRIGHTWARDS VANE,cQUAD LEFTWARDS ARROW,dRIGHTWARDS ARROW",
    "cCIRCLE BACKSLASH,cDOWN TACK UNDERBAR,cDELTA STILE,cQUAD DOWN CARET,dDELTA,cDOWN TACK JOT",
    "cUPWARDS VANE,cQUAD UPWARDS ARROW,cUP TACK OVERBAR,cDEL STILE,cQUAD UP CARET,dDEL",
    "cUP TACK JOT,cDOWNWARDS VANE,cQUAD DOWNWARDS ARROW,cQUOTE UNDERBAR,cDELTA UNDERBAR",
    "cDIAMOND UNDERBAR,cJOT UNDERBAR,cCIRCLE UNDERBAR,cUP SHOE JOT,cQUOTE QUAD,cCIRCLE STAR",
    "cQUAD COLON,cUP TACK DIAERESIS,cDEL DIAERESIS,cSTAR DIAERESIS,cJOT DIAERESIS",
    "cCIRCLE DIAERESIS,cDOWN SHOE STILE,cLEFT SHOE STILE,cTILDE DIAERESIS",
    "cGREATER-THAN DIAERESIS,cCOMMA BAR,cDEL TILDE,cZILDE,cSTILE TILDE,cSEMICOLON UNDERBAR",
    "cQUAD NOT EQUAL,dQUESTION,cDOWN CARET TILDE,cUP CARET TILDE,cIOTA,cRHO,cOMEGA",
    "cALPHA UNDERBAR,cEPSILON UNDERBAR,cIOTA UNDERBAR,cOMEGA UNDERBAR,cALPHA,26cQUAD"]⟩,
  ⟨"APPROXIMATELY", [
    "8773aEQUAL TO,aBUT NOT ACTUALLY EQUAL TO,11aEQUAL TO OR THE IMAGE OF,2077bOR EQUAL TO"]⟩,
  ⟨"ARABIC", [
    "1536aNUMBER SIGN,aSIGN SANAH,aFOOTNOTE MARKER,aSIGN SAFHA,bSAMVAT,aNUMBER MARK ABOVE",
    "2aRAY,3aCOMMA,aDATE SEPARATOR,aPOETIC VERSE SIGN,aSIGN MISRA",
    "bSALLALLAHOU ALAYHE WASSALLAM,bALAYHE ASSALLAM,bRAHMATULLAH ALAYHE,bRADI ALLAHOU ANHU",
    "bTAKHALLUS,aSMALL HIGH TAH,cLIGATURE ALEF WITH LAM WITH YEH,cZAIN,bFATHA,bDAMMA,bKASRA",
    "aSEMICOLON,aLETTER MARK,aEND OF TEXT MARK,aTRIPLE DOT PUNCTUATION MARK,aQUESTION MARK",
    "aLETTER KASHMIRI YEH,bHAMZA,bALEF WITH MADDA ABOVE,dHAMZA ABOVE,bWAW WITH HAMZA ABOVE",
    "bALEF WITH HAMZA BELOW,bYEH WITH HAMZA ABOVE,bALEF,bBEH,bTEH MARBUTA,c,bTHEH,bJEEM,bHAH",
    "bKHAH,bDAL,bTHAL,bREH,bZAIN,bSEEN,bSHEEN,bSAD,bDAD,bTAH,bZAH,bAIN,bGHAIN",
    "bKEHEH WITH TWO DOTS ABOVE,dTHREE DOTS BELOW,bFARSI YEH WITH INVERTED V,eTWO DOTS ABOVE",
    "eTHREE DOTS ABOVE,aTATWEEL,aLETTER FEH,bQAF,bKAF,bLAM,bMEEM,bNOON,bHEH,bWAW,bALEF MAKSURA",
    "bYEH,aFATHATAN,aDAMMATAN,aKASRATAN,aFATHA,aDAMMA,aKASRA,aSHADDA,aSUKUN,aMADDAH ABOVE",
    "aHAMZA ABOVE,bBELOW,aSUBSCRIPT ALEF,aINVERTED DAMMA,aMARK NOON GHUNNA,aZWARAKAY",
    "aVOWEL SIGN SMALL V ABOVE,cINVERTED SMALL V ABOVE,cDOT BELOW,aREVERSED DAMMA",
    "aFATHA WITH TWO DOTS,aWAVY HAMZA BELOW,10aPERCENT SIGN,aDECIMAL SEPARATOR",
    "aTHOUSANDS SEPARATOR,aFIVE POINTED STAR,aLETTER DOTLESS BEH,cQAF,bSUPERSCRIPT ALEF",
    "bALEF WASLA,cWITH WAVY HAMZA ABOVE,fBELOW,bHIGH HAMZA,dALEF,dWAW,bU WITH HAMZA ABOVE",
    "bHIGH HAMZA YEH,bTTEH,bTTEHEH,bBEEH,bTEH WITH RING,dTHREE DOTS ABOVE DOWNWARDS,bPEH",
    "bTEHEH,bBEHEH,bHAH WITH HAMZA ABOVE,dTWO DOTS VERTICAL ABOVE,bNYEH,bDYEH",
    "bHAH WITH THREE DOTS ABOVE,bTCHEH,bTCHEHEH,bDDAL,bDAL WITH RING,dDOT BELOW,fAND SMALL TAH",
    "bDAHAL,bDDAHAL,bDUL,bDAL WITH THREE DOTS ABOVE DOWNWARDS,dFOUR DOTS ABOVE,bRREH",
    "bREH WITH SMALL V,dRING,dDOT BELOW,dSMALL V BELOW,dDOT BELOW AND DOT ABOVE",
    "dTWO DOTS ABOVE,bJEH,bREH WITH FOUR DOTS ABOVE,bSEEN WITH DOT BELOW AND DOT ABOVE",
    "dTHREE DOTS BELOW,gAND THREE DOTS ABOVE,bSAD WITH TWO DOTS BELOW,dTHREE DOTS ABOVE",
    "bTAH WITH THREE DOTS ABOVE,bAIN WITH THREE DOTS ABOVE,bDOTLESS FEH",
    "bFEH WITH DOT MOVED BELOW,eBELOW,bVEH,bFEH WITH THREE DOTS BELOW,bPEHEH",
    "bQAF WITH DOT ABOVE,dTHREE DOTS ABOVE,bKEHEH,bSWASH KAF,bKAF WITH RING,dDOT ABOVE,bNG",
    "bKAF WITH THREE DOTS BELOW,bGAF,cWITH RING,bNGOEH,bGAF WITH TWO DOTS BELOW,bGUEH",
    "bGAF WITH THREE DOTS ABOVE,bLAM WITH SMALL V,dDOT ABOVE,dTHREE DOTS ABOVE,fBELOW",
    "bNOON WITH DOT BELOW,cGHUNNA,bRNOON,bNOON WITH RING,dTHREE DOTS ABOVE,bHEH DOACHASHMEE",
    "bTCHEH WITH DOT ABOVE,bHEH WITH YEH ABOVE,cGOAL,dWITH HAMZA ABOVE,bTEH MARBUTA GOAL",
    "bWAW WITH RING,bKIRGHIZ OE,bOE,bU,bYU,bKIRGHIZ YU,bWAW WITH TWO DOTS ABOVE,bVE,bFARSI YEH",
    "bYEH WITH TAIL,dSMALL V,bWAW WITH DOT ABOVE,bE,bYEH WITH THREE DOTS BELOW,cBARREE",
    "dWITH HAMZA ABOVE,aFULL STOP,aLETTER AE",
    "aSMALL HIGH LIGATURE SAD WITH LAM WITH ALEF MAKSURA,dQAF WITH LAM WITH ALEF MAKSURA",
    "cMEEM INITIAL FORM,cLAM ALEF,cJEEM,cTHREE DOTS,cSEEN,aEND OF AYAH,aSTART OF RUB EL HIZB",
    "aSMALL HIGH ROUNDED ZERO,cUPRIGHT RECTANGULAR ZERO,cDOTLESS HEAD OF KHAH",
    "cMEEM ISOLATED FORM,bLOW SEEN,bHIGH MADDA,bWAW,bYEH,bHIGH YEH,cNOON,aPLACE OF SAJDAH",
    "aEMPTY CENTRE LOW STOP,cHIGH STOP,aROUNDED HIGH STOP WITH FILLED CENTRE,aSMALL LOW MEEM",
    "aLETTER DAL WITH INVERTED V,bREH WITH INVERTED V,10bSHEEN WITH DOT BELOW",
    "bDAD WITH DOT BELOW,bGHAIN WITH DOT BELOW,aSIGN SINDHI AMPERSAND,cPOSTPOSITION MEN",
    "aLETTER HEH WITH INVERTED V,80bBEH WITH THREE DOTS HORIZONTALLY BELOW",
    "dDOT BELOW AND THREE DOTS ABOVE,dTHREE DOTS POINTING UPWARDS BELOW,iAND TWO DOTS ABOVE",
    "dTWO DOTS BELOW AND DOT ABOVE,dINVERTED SMALL V BELOW,dSMALL V,bHAH WITH TWO DOTS ABOVE",
    "dTHREE DOTS POINTING UPWARDS BELOW,bDAL WITH TWO DOTS VERTICALLY BELOW AND SMALL TAH",
    "dINVERTED SMALL V BELOW,bREH WITH STROKE,bSEEN WITH FOUR DOTS ABOVE",
    "bAIN WITH TWO DOTS ABOVE,dTHREE DOTS POINTING DOWNWARDS ABOVE,dTWO DOTS VERTICALLY ABOVE",
    "bFEH WITH TWO DOTS BELOW,dTHREE DOTS POINTING UPWARDS BELOW,bKEHEH WITH DOT ABOVE",
    "dTHREE DOTS ABOVE,fPOINTING UPWARDS BELOW,bMEEM WITH DOT ABOVE,eBELOW",
    "bNOON WITH TWO DOTS BELOW,dSMALL TAH,eV,bLAM WITH BAR,bREH WITH TWO DOTS VERTICALLY ABOVE",
    "dHAMZA ABOVE,bSEEN WITH TWO DOTS VERTICALLY ABOVE,bHAH WITH SMALL ARABIC LETTER TAH BELOW",
    "hAND TWO DOTS,bSEEN WITH SMALL ARABIC LETTER TAH AND TWO DOTS",
    "bREH WITH SMALL ARABIC LETTER TAH AND TWO DOTS,bHAH WITH SMALL ARABIC LETTER TAH ABOVE",
    "bALEF WITH EXTENDED ARABIC-INDIC DIGIT TWO ABOVE,gTHREE ABOVE",
    "bFARSI YEH WITH EXTENDED ARABIC-INDIC DIGIT TWO ABOVE,hTHREE ABOVE,hFOUR BELOW",
    "bWAW WITH EXTENDED ARABIC-INDIC DIGIT TWO ABOVE,gTHREE ABOVE",
    "bYEH BARREE WITH EXTENDED ARABIC-INDIC DIGIT TWO ABOVE,hTHREE ABOVE",
    "bHAH WITH EXTENDED ARABIC-INDIC DIGIT FOUR BELOW",
    "bSEEN WITH EXTENDED ARABIC-INDIC DIGIT FOUR ABOVE,dINVERTED V,bKAF WITH TWO DOTS ABOVE",
    "240bALEF WITH ATTACHED FATHA,eTOP RIGHT FATHA,dRIGHT MIDDLE STROKE,dLEFT MIDDLE STROKE",
    "dATTACHED KASRA,eBOTTOM RIGHT KASRA,eROUND DOT ABOVE,eRIGHT ROUND DOT,eLEFT ROUND DOT",
    "eROUND DOT BELOW,dDOT ABOVE,dATTACHED TOP RIGHT FATHA AND DOT ABOVE",
    "dRIGHT MIDDLE STROKE AND DOT ABOVE,dATTACHED BOTTOM RIGHT KASRA AND DOT ABOVE",
    "eTOP RIGHT FATHA AND LEFT RING,dRIGHT MIDDLE STROKE AND LEFT RING",
    "dATTACHED BOTTOM RIGHT KASRA AND LEFT RING,eRIGHT HAMZA,eLEFT HAMZA",
    "aTATWEEL WITH OVERSTRUCK HAMZA,dWAW,cTWO DOTS BELOW,aLETTER THIN YEH,aBASELINE ROUND DOT",
    "aRAISED ROUND DOT,aLETTER NOON WITH INVERTED SMALL V,bHAH WITH INVERTED SMALL V BELOW",
    "bTAH WITH DOT BELOW,dTHREE DOTS BELOW,bKEHEH WITH TWO DOTS VERTICALLY BELOW",
    "aVERTICAL TAIL,1aPOUND MARK ABOVE,aPIASTRE MARK ABOVE,6aSMALL HIGH WORD AL-JUZ",
    "bLOW WORD ISHMAAM,dIMAALA,dTASHEEL,aMADDA WAAJIB,aSUPERSCRIPT ALEF MOKHASSAS",
    "aDOUBLED MADDA,aHALF MADDA OVER MADDA,aLETTER BEH WITH SMALL V BELOW,dHAMZA ABOVE",
    "bJEEM WITH TWO DOTS ABOVE,bTAH WITH TWO DOTS ABOVE",
    "bFEH WITH DOT BELOW AND THREE DOTS ABOVE,bQAF WITH DOT BELOW,bLAM WITH DOUBLE BAR",
    "bMEEM WITH THREE DOTS ABOVE,bYEH WITH TWO DOTS BELOW AND HAMZA ABOVE,hDOT ABOVE",
    "bREH WITH LOOP,bWAW WITH DOT WITHIN,bROHINGYA YEH,bLOW ALEF,bDAL WITH THREE DOTS BELOW",
    "bSAD WITH THREE DOTS BELOW,bGAF WITH INVERTED STROKE,bSTRAIGHT WAW",
    "bZAIN WITH INVERTED V ABOVE,bAIN WITH THREE DOTS BELOW,bKAF WITH DOT BELOW",
    "bQAF WITH DOT BELOW AND NO DOTS ABOVE,bBEH WITH SMALL MEEM ABOVE",
    "bPEH WITH SMALL MEEM ABOVE,bTEH WITH SMALL TEH ABOVE,bREH WITH SMALL NOON ABOVE",
    "bYEH WITH TWO DOTS BELOW AND SMALL NOON ABOVE,bAFRICAN FEH,cQAF,cNOON,bPEH WITH SMALL V",
    "bTEH WITH SMALL V,bTTEH WITH SMALL V,bTCHEH WITH SMALL V,bKEHEH WITH SMALL V",
    "bGHAIN WITH THREE DOTS ABOVE,bAFRICAN QAF WITH THREE DOTS ABOVE",
    "bJEEM WITH THREE DOTS ABOVE,fBELOW,bLAM WITH SMALL ARABIC LETTER TAH ABOVE,bGRAF",
    "aSMALL FARSI YEH,bHIGH FARSI YEH,cYEH BARREE WITH TWO DOTS BELOW,cWORD SAH,cZAH",
    "aLARGE ROUND DOT ABOVE,dBELOW,aSUKUN BELOW,aLARGE CIRCLE BELOW",
    "bROUND DOT INSIDE CIRCLE BELOW,aSMALL LOW WAW,bHIGH WORD AR-RUB,cSAD,cAIN,cQAF",
    "cNOON WITH KASRA,bLOW NOON WITH KASRA,bHIGH WORD ATH-THALATHA,dAS-SAJDA,dAN-NISF,dSAKTA",
    "dQIF,dWAQFA,cFOOTNOTE MARKER,cSIGN SAFHA,aDISPUTED END OF AYAH,aTURNED DAMMA BELOW",
    "aCURLY FATHA,bDAMMA,bKASRA,bFATHATAN,bDAMMATAN,bKASRATAN,aTONE ONE DOT ABOVE",
    "bTWO DOTS ABOVE,bLOOP ABOVE,bONE DOT BELOW,bTWO DOTS BELOW,bLOOP BELOW,aOPEN FATHATAN",
    "bDAMMATAN,bKASRATAN,aSMALL HIGH WAW,aFATHA WITH RING,cDOT ABOVE,aKASRA WITH DOT BELOW",
    "aLEFT ARROWHEAD ABOVE,aRIGHT ARROWHEAD ABOVE,aLEFT ARROWHEAD BELOW,aRIGHT ARROWHEAD BELOW",
    "aDOUBLE RIGHT ARROWHEAD ABOVE,eWITH DOT,aRIGHT ARROWHEAD ABOVE WITH DOT,aDAMMA WITH DOT",
    "aMARK SIDEWAYS NOON GHUNNA,62032aLETTER ALEF WASLA ISOLATED FORM,dFINAL FORM",
    "bBEEH ISOLATED FORM,cFINAL FORM,cINITIAL FORM,cMEDIAL FORM,bPEH ISOLATED FORM,cFINAL FORM",
    "cINITIAL FORM,cMEDIAL FORM,bBEHEH ISOLATED FORM,cFINAL FORM,cINITIAL FORM,cMEDIAL FORM",
    "bTTEHEH ISOLATED FORM,cFINAL FORM,cINITIAL FORM,cMEDIAL FORM,bTEHEH ISOLATED FORM",
    "cFINAL FORM,cINITIAL FORM,cMEDIAL FORM,bTTEH ISOLATED FORM,cFINAL FORM,cINITIAL FORM",
    "cMEDIAL FORM,bVEH ISOLATED FORM,cFINAL FORM,cINITIAL FORM,cMEDIAL FORM",
    "bPEHEH ISOLATED FORM,cFINAL FORM,cINITIAL FORM,cMEDIAL FORM,bDYEH ISOLATED FORM",
    "cFINAL FORM,cINITIAL FORM,cMEDIAL FORM,bNYEH ISOLATED FORM,cFINAL FORM,cINITIAL FORM",
    "cMEDIAL FORM,bTCHEH ISOLATED FORM,cFINAL FORM,cINITIAL FORM,cMEDIAL FORM",
    "bTCHEHEH ISOLATED FORM,cFINAL FORM,cINITIAL FORM,cMEDIAL FORM,bDDAHAL ISOLATED FORM",
    "cFINAL FORM,bDAHAL ISOLATED FORM,cFINAL FORM,bDUL ISOLATED FORM,cFINAL FORM",
    "bDDAL ISOLATED FORM,cFINAL FORM,bJEH ISOLATED FORM,cFINAL FORM,bRREH ISOLATED FORM",
    "cFINAL FORM,bKEHEH ISOLATED FORM,cFINAL FORM,cINITIAL FORM,cMEDIAL FORM",
    "bGAF ISOLATED FORM,cFINAL FORM,cINITIAL FORM,cMEDIAL FORM,bGUEH ISOLATED FORM,cFINAL FORM",
    "cINITIAL FORM,cMEDIAL FORM,bNGOEH ISOLATED FORM,cFINAL FORM,cINITIAL FORM,cMEDIAL FORM",
    "bNOON GHUNNA ISOLATED FORM,dFINAL FORM,bRNOON ISOLATED FORM,cFINAL FORM,cINITIAL FORM",
    "cMEDIAL FORM,bHEH WITH YEH ABOVE ISOLATED FORM,fFINAL FORM,cGOAL ISOLATED FORM",
    "dFINAL FORM,dINITIAL FORM,dMEDIAL FORM,cDOACHASHMEE ISOLATED FORM,dFINAL FORM",
    "dINITIAL FORM,dMEDIAL FORM,bYEH BARREE ISOLATED FORM,dFINAL FORM",
    "dWITH HAMZA ABOVE ISOLATED FORM,gFINAL FORM,aSYMBOL DOT ABOVE,cBELOW,bTWO DOTS ABOVE",
    "dBELOW,bTHREE DOTS ABOVE,dBELOW,dPOINTING DOWNWARDS ABOVE,fBELOW,bFOUR DOTS ABOVE,dBELOW",
    "bDOUBLE VERTICAL BAR BELOW,bTWO DOTS VERTICALLY ABOVE,eBELOW,bRING,bSMALL TAH ABOVE",
    "dBELOW,bWASLA ABOVE,16aLETTER NG ISOLATED FORM,cFINAL FORM,cINITIAL FORM,cMEDIAL FORM",
    "bU ISOLATED FORM,cFINAL FORM,bOE ISOLATED FORM,cFINAL FORM,bYU ISOLATED FORM,cFINAL FORM",
    "bU WITH HAMZA ABOVE ISOLATED FORM,bVE ISOLATED FORM,cFINAL FORM,bKIRGHIZ OE ISOLATED FORM",
    "dFINAL FORM,cYU ISOLATED FORM,dFINAL FORM,bE ISOLATED FORM,cFINAL FORM,cINITIAL FORM",
    "cMEDIAL FORM,bUIGHUR KAZAKH KIRGHIZ ALEF MAKSURA INITIAL FORM,gMEDIAL FORM",
    "aLIGATURE YEH WITH HAMZA ABOVE WITH ALEF ISOLATED FORM,hFINAL FORM,gAE ISOLATED FORM",
    "hFINAL FORM,gWAW ISOLATED FORM,hFINAL FORM,gU ISOLATED FORM,hFINAL FORM,gOE ISOLATED FORM",
    "hFINAL FORM,gYU ISOLATED FORM,hFINAL FORM,gE ISOLATED FORM,hFINAL FORM,hINITIAL FORM",
    "bUIGHUR KIRGHIZ YEH WITH HAMZA ABOVE WITH ALEF MAKSURA ISOLATED FORM,kFINAL FORM",
    "kINITIAL FORM,aLETTER FARSI YEH ISOLATED FORM,dFINAL FORM,dINITIAL FORM,dMEDIAL FORM",
    "aLIGATURE YEH WITH HAMZA ABOVE WITH JEEM ISOLATED FORM,gHAH ISOLATED FORM",
    "gMEEM ISOLATED FORM,gALEF MAKSURA ISOLATED FORM,gYEH ISOLATED FORM",
    "bBEH WITH JEEM ISOLATED FORM,dHAH ISOLATED FORM,dKHAH ISOLATED FORM,dMEEM ISOLATED FORM",
    "dALEF MAKSURA ISOLATED FORM,dYEH ISOLATED FORM,bTEH WITH JEEM ISOLATED FORM",
    "dHAH ISOLATED FORM,dKHAH ISOLATED FORM,dMEEM ISOLATED FORM,dALEF MAKSURA ISOLATED FORM",
    "dYEH ISOLATED FORM,bTHEH WITH JEEM ISOLATED FORM,dMEEM ISOLATED FORM",
    "dALEF MAKSURA ISOLATED FORM,dYEH ISOLATED FORM,bJEEM WITH HAH ISOLATED FORM",
    "dMEEM ISOLATED FORM,bHAH WITH JEEM ISOLATED FORM,dMEEM ISOLATED FORM",
    "bKHAH WITH JEEM ISOLATED FORM,dHAH ISOLATED FORM,dMEEM ISOLATED FORM",
    "bSEEN WITH JEEM ISOLATED FORM,dHAH ISOLATED FORM,dKHAH ISOLATED FORM,dMEEM ISOLATED FORM",
    "bSAD WITH HAH ISOLATED FORM,dMEEM ISOLATED FORM,bDAD WITH JEEM ISOLATED FORM",
    "dHAH ISOLATED FORM,dKHAH ISOLATED FORM,dMEEM ISOLATED FORM,bTAH WITH HAH ISOLATED FORM",
    "dMEEM ISOLATED FORM,bZAH WITH MEEM ISOLATED FORM,bAIN WITH JEEM ISOLATED FORM",
    "dMEEM ISOLATED FORM,bGHAIN WITH JEEM ISOLATED FORM,dMEEM ISOLATED FORM",
    "bFEH WITH JEEM ISOLATED FORM,dHAH ISOLATED FORM,dKHAH ISOLATED FORM,dMEEM ISOLATED FORM",
    "dALEF MAKSURA ISOLATED FORM,dYEH ISOLATED FORM,bQAF WITH HAH ISOLATED FORM",
    "dMEEM ISOLATED FORM,dALEF MAKSURA ISOLATED FORM,dYEH ISOLATED FORM",
    "bKAF WITH ALEF ISOLATED FORM,dJEEM ISOLATED FORM,dHAH ISOLATED FORM,dKHAH ISOLATED FORM",
    "dLAM ISOLATED FORM,dMEEM ISOLATED FORM,dALEF MAKSURA ISOLATED FORM,dYEH ISOLATED FORM",
    "bLAM WITH JEEM ISOLATED FORM,dHAH ISOLATED FORM,dKHAH ISOLATED FORM,dMEEM ISOLATED FORM",
    "dALEF MAKSURA ISOLATED FORM,dYEH ISOLATED FORM,bMEEM WITH JEEM ISOLATED FORM",
    "dHAH ISOLATED FORM,dKHAH ISOLATED FORM,dMEEM ISOLATED FORM,dALEF MAKSURA ISOLATED FORM",
    "dYEH ISOLATED FORM,bNOON WITH JEEM ISOLATED FORM,dHAH ISOLATED FORM,dKHAH ISOLATED FORM",
    "dMEEM ISOLATED FORM,dALEF MAKSURA ISOLATED FORM,dYEH ISOLATED FORM",
    "bHEH WITH JEEM ISOLATED FORM,dMEEM ISOLATED FORM,dALEF MAKSURA ISOLATED FORM",
    "dYEH ISOLATED FORM,bYEH WITH JEEM ISOLATED FORM,dHAH ISOLATED FORM,dKHAH ISOLATED FORM",
    "dMEEM ISOLATED FORM,dALEF MAKSURA ISOLATED FORM,dYEH ISOLATED FORM",
    "bTHAL WITH SUPERSCRIPT ALEF ISOLATED FORM,bREH WITH SUPERSCRIPT ALEF ISOLATED FORM",
    "bALEF MAKSURA WITH SUPERSCRIPT ALEF ISOLATED FORM,bSHADDA WITH DAMMATAN ISOLATED FORM",
    "dKASRATAN ISOLATED FORM,dFATHA ISOLATED FORM,dDAMMA ISOLATED FORM,dKASRA ISOLATED FORM",
    "dSUPERSCRIPT ALEF ISOLATED FORM,bYEH WITH HAMZA ABOVE WITH REH FINAL FORM",
    "gZAIN FINAL FORM,gMEEM FINAL FORM,gNOON FINAL FORM,gALEF MAKSURA FINAL FORM",
    "gYEH FINAL FORM,bBEH WITH REH FINAL FORM,dZAIN FINAL FORM,dMEEM FINAL FORM",
    "dNOON FINAL FORM,dALEF MAKSURA FINAL FORM,dYEH FINAL FORM,bTEH WITH REH FINAL FORM",
    "dZAIN FINAL FORM,dMEEM FINAL FORM,dNOON FINAL FORM,dALEF MAKSURA FINAL FORM",
    "dYEH FINAL FORM,bTHEH WITH REH FINAL FORM,dZAIN FINAL FORM,dMEEM FINAL FORM",
    "dNOON FINAL FORM,dALEF MAKSURA FINAL FORM,dYEH FINAL FORM",
    "bFEH WITH ALEF MAKSURA FINAL FORM,dYEH FINAL FORM,bQAF WITH ALEF MAKSURA FINAL FORM",
    "dYEH FINAL FORM,bKAF WITH ALEF FINAL FORM,dLAM FINAL FORM,dMEEM FINAL FORM",
    "dALEF MAKSURA FINAL FORM,dYEH FINAL FORM,bLAM WITH MEEM FINAL FORM",
    "dALEF MAKSURA FINAL FORM,dYEH FINAL FORM,bMEEM WITH ALEF FINAL FORM,dMEEM FINAL FORM",
    "bNOON WITH REH FINAL FORM,dZAIN FINAL FORM,dMEEM FINAL FORM,dNOON FINAL FORM",
    "dALEF MAKSURA FINAL FORM,dYEH FINAL FORM,bALEF MAKSURA WITH SUPERSCRIPT ALEF FINAL FORM",
    "bYEH WITH REH FINAL FORM,dZAIN FINAL FORM,dMEEM FINAL FORM,dNOON FINAL FORM",
    "dALEF MAKSURA FINAL FORM,dYEH FINAL FORM,dHAMZA ABOVE WITH JEEM INITIAL FORM",
    "gHAH INITIAL FORM,gKHAH INITIAL FORM,gMEEM INITIAL FORM,gHEH INITIAL FORM",
    "bBEH WITH JEEM INITIAL FORM,dHAH INITIAL FORM,dKHAH INITIAL FORM,dMEEM INITIAL FORM",
    "dHEH INITIAL FORM,bTEH WITH JEEM INITIAL FORM,dHAH INITIAL FORM,dKHAH INITIAL FORM",
    "dMEEM INITIAL FORM,dHEH INITIAL FORM,bTHEH WITH MEEM INITIAL FORM",
    "bJEEM WITH HAH INITIAL FORM,dMEEM INITIAL FORM,bHAH WITH JEEM INITIAL FORM",
    "dMEEM INITIAL FORM,bKHAH WITH JEEM INITIAL FORM,dMEEM INITIAL FORM",
    "bSEEN WITH JEEM INITIAL FORM,dHAH INITIAL FORM,dKHAH INITIAL FORM,dMEEM INITIAL FORM",
    "bSAD WITH HAH INITIAL FORM,dKHAH INITIAL FORM,dMEEM INITIAL FORM",
    "bDAD WITH JEEM INITIAL FORM,dHAH INITIAL FORM,dKHAH INITIAL FORM,dMEEM INITIAL FORM",
    "bTAH WITH HAH INITIAL FORM,bZAH WITH MEEM INITIAL FORM,bAIN WITH JEEM INITIAL FORM",
    "dMEEM INITIAL FORM,bGHAIN WITH JEEM INITIAL FORM,dMEEM INITIAL FORM",
    "bFEH WITH JEEM INITIAL FORM,dHAH INITIAL FORM,dKHAH INITIAL FORM,dMEEM INITIAL FORM",
    "bQAF WITH HAH INITIAL FORM,dMEEM INITIAL FORM,bKAF WITH JEEM INITIAL FORM",
    "dHAH INITIAL FORM,dKHAH INITIAL FORM,dLAM INITIAL FORM,dMEEM INITIAL FORM",
    "bLAM WITH JEEM INITIAL FORM,dHAH INITIAL FORM,dKHAH INITIAL FORM,dMEEM INITIAL FORM",
    "dHEH INITIAL FORM,bMEEM WITH JEEM INITIAL FORM,dHAH INITIAL FORM,dKHAH INITIAL FORM",
    "dMEEM INITIAL FORM,bNOON WITH JEEM INITIAL FORM,dHAH INITIAL FORM,dKHAH INITIAL FORM",
    "dMEEM INITIAL FORM,dHEH INITIAL FORM,bHEH WITH JEEM INITIAL FORM,dMEEM INITIAL FORM",
    "dSUPERSCRIPT ALEF INITIAL FORM,bYEH WITH JEEM INITIAL FORM,dHAH INITIAL FORM",
    "dKHAH INITIAL FORM,dMEEM INITIAL FORM,dHEH INITIAL FORM",
    "dHAMZA ABOVE WITH MEEM MEDIAL FORM,gHEH MEDIAL FORM,bBEH WITH MEEM MEDIAL FORM",
    "dHEH MEDIAL FORM,bTEH WITH MEEM MEDIAL FORM,dHEH MEDIAL FORM,bTHEH WITH MEEM MEDIAL FORM",
    "dHEH MEDIAL FORM,bSEEN WITH MEEM MEDIAL FORM,dHEH MEDIAL FORM",
    "bSHEEN WITH MEEM MEDIAL FORM,dHEH MEDIAL FORM,bKAF WITH LAM MEDIAL FORM,dMEEM MEDIAL FORM",
    "bLAM WITH MEEM MEDIAL FORM,bNOON WITH MEEM MEDIAL FORM,dHEH MEDIAL FORM",
    "bYEH WITH MEEM MEDIAL FORM,dHEH MEDIAL FORM,bSHADDA WITH FATHA MEDIAL FORM",
    "dDAMMA MEDIAL FORM,dKASRA MEDIAL FORM,bTAH WITH ALEF MAKSURA ISOLATED FORM",
    "dYEH ISOLATED FORM,bAIN WITH ALEF MAKSURA ISOLATED FORM,dYEH ISOLATED FORM",
    "bGHAIN WITH ALEF MAKSURA ISOLATED FORM,dYEH ISOLATED FORM",
    "bSEEN WITH ALEF MAKSURA ISOLATED FORM,dYEH ISOLATED FORM",
    "bSHEEN WITH ALEF MAKSURA ISOLATED FORM,dYEH ISOLATED FORM",
    "bHAH WITH ALEF MAKSURA ISOLATED FORM,dYEH ISOLATED FORM",
    "bJEEM WITH ALEF MAKSURA ISOLATED FORM,dYEH ISOLATED FORM",
    "bKHAH WITH ALEF MAKSURA ISOLATED FORM,dYEH ISOLATED FORM",
    "bSAD WITH ALEF MAKSURA ISOLATED FORM,dYEH ISOLATED FORM",
    "bDAD WITH ALEF MAKSURA ISOLATED FORM,dYEH ISOLATED FORM,bSHEEN WITH JEEM ISOLATED FORM",
    "dHAH ISOLATED FORM,dKHAH ISOLATED FORM,dMEEM ISOLATED FORM,dREH ISOLATED FORM",
    "bSEEN WITH REH ISOLATED FORM,bSAD WITH REH ISOLATED FORM,bDAD WITH REH ISOLATED FORM",
    "bTAH WITH ALEF MAKSURA FINAL FORM,dYEH FINAL FORM,bAIN WITH ALEF MAKSURA FINAL FORM",
    "dYEH FINAL FORM,bGHAIN WITH ALEF MAKSURA FINAL FORM,dYEH FINAL FORM",
    "bSEEN WITH ALEF MAKSURA FINAL FORM,dYEH FINAL FORM,bSHEEN WITH ALEF MAKSURA FINAL FORM",
    "dYEH FINAL FORM,bHAH WITH ALEF MAKSURA FINAL FORM,dYEH FINAL FORM",
    "bJEEM WITH ALEF MAKSURA FINAL FORM,dYEH FINAL FORM,bKHAH WITH ALEF MAKSURA FINAL FORM",
    "dYEH FINAL FORM,bSAD WITH ALEF MAKSURA FINAL FORM,dYEH FINAL FORM",
    "bDAD WITH ALEF MAKSURA FINAL FORM,dYEH FINAL FORM,bSHEEN WITH JEEM FINAL FORM",
    "dHAH FINAL FORM,dKHAH FINAL FORM,dMEEM FINAL FORM,dREH FINAL FORM",
    "bSEEN WITH REH FINAL FORM,bSAD WITH REH FINAL FORM,bDAD WITH REH FINAL FORM",
    "bSHEEN WITH JEEM INITIAL FORM,dHAH INITIAL FORM,dKHAH INITIAL FORM,dMEEM INITIAL FORM",
    "bSEEN WITH HEH INITIAL FORM,bSHEEN WITH HEH INITIAL FORM,bTAH WITH MEEM INITIAL FORM",
    "bSEEN WITH JEEM MEDIAL FORM,dHAH MEDIAL FORM,dKHAH MEDIAL FORM",
    "bSHEEN WITH JEEM MEDIAL FORM,dHAH MEDIAL FORM,dKHAH MEDIAL FORM",
    "bTAH WITH MEEM MEDIAL FORM,bZAH WITH MEEM MEDIAL FORM,bALEF WITH FATHATAN FINAL FORM",
    "eISOLATED FORM,2bRAHIMAHU ALLAAH,bRADI ALLAAHU ANH,dANHAA,dANHUM,dANHUMAA,dANHUNNA",
    "bSALLALLAAHU ALAYHI WA-AALIH,bALAYHI AS-SALAAM,bALAYHIM AS-SALAAM,bALAYHIMAA AS-SALAAM",
    "bALAYHI AS-SALAATU WAS-SALAAM,bQUDDISA SIRRAH,bSALLALLAHU ALAYHI WAAALIHEE WA-SALLAM",
    "bALAYHAA AS-SALAAM,bTABAARAKA WA-TAAALAA,bRAHIMAHUM ALLAAH",
    "bTEH WITH JEEM WITH MEEM INITIAL FORM,dHAH WITH JEEM FINAL FORM,gINITIAL FORM",
    "fMEEM INITIAL FORM,dKHAH WITH MEEM INITIAL FORM,dMEEM WITH JEEM INITIAL FORM",
    "fHAH INITIAL FORM,fKHAH INITIAL FORM,bJEEM WITH MEEM WITH HAH FINAL FORM,gINITIAL FORM",
    "bHAH WITH MEEM WITH YEH FINAL FORM,fALEF MAKSURA FINAL FORM",
    "bSEEN WITH HAH WITH JEEM INITIAL FORM,dJEEM WITH HAH INITIAL FORM",
    "fALEF MAKSURA FINAL FORM,dMEEM WITH HAH FINAL FORM,gINITIAL FORM,fJEEM INITIAL FORM",
    "fMEEM FINAL FORM,gINITIAL FORM,bSAD WITH HAH WITH HAH FINAL FORM,gINITIAL FORM",
    "dMEEM WITH MEEM FINAL FORM,bSHEEN WITH HAH WITH MEEM FINAL FORM,gINITIAL FORM",
    "dJEEM WITH YEH FINAL FORM,dMEEM WITH KHAH FINAL FORM,gINITIAL FORM,fMEEM FINAL FORM",
    "gINITIAL FORM,bDAD WITH HAH WITH ALEF MAKSURA FINAL FORM,dKHAH WITH MEEM FINAL FORM",
    "gINITIAL FORM,bTAH WITH MEEM WITH HAH FINAL FORM,gINITIAL FORM,fMEEM INITIAL FORM",
    "fYEH FINAL FORM,bAIN WITH JEEM WITH MEEM FINAL FORM,dMEEM WITH MEEM FINAL FORM",
    "gINITIAL FORM,fALEF MAKSURA FINAL FORM,bGHAIN WITH MEEM WITH MEEM FINAL FORM",
    "fYEH FINAL FORM,fALEF MAKSURA FINAL FORM,bFEH WITH KHAH WITH MEEM FINAL FORM",
    "gINITIAL FORM,bQAF WITH MEEM WITH HAH FINAL FORM,fMEEM FINAL FORM",
    "bLAM WITH HAH WITH MEEM FINAL FORM,fYEH FINAL FORM,fALEF MAKSURA FINAL FORM",
    "dJEEM WITH JEEM INITIAL FORM,gFINAL FORM,dKHAH WITH MEEM FINAL FORM,gINITIAL FORM",
    "dMEEM WITH HAH FINAL FORM,gINITIAL FORM,bMEEM WITH HAH WITH JEEM INITIAL FORM",
    "fMEEM INITIAL FORM,fYEH FINAL FORM,dJEEM WITH HAH INITIAL FORM,fMEEM INITIAL FORM",
    "dKHAH WITH JEEM INITIAL FORM,fMEEM INITIAL FORM,2dJEEM WITH KHAH INITIAL FORM",
    "bHEH WITH MEEM WITH JEEM INITIAL FORM,fMEEM INITIAL FORM",
    "bNOON WITH HAH WITH MEEM INITIAL FORM,fALEF MAKSURA FINAL FORM,dJEEM WITH MEEM FINAL FORM",
    "gINITIAL FORM,fALEF MAKSURA FINAL FORM,dMEEM WITH YEH FINAL FORM,fALEF MAKSURA FINAL FORM",
    "bYEH WITH MEEM WITH MEEM FINAL FORM,gINITIAL FORM,bBEH WITH KHAH WITH YEH FINAL FORM",
    "bTEH WITH JEEM WITH YEH FINAL FORM,fALEF MAKSURA FINAL FORM,dKHAH WITH YEH FINAL FORM",
    "fALEF MAKSURA FINAL FORM,dMEEM WITH YEH FINAL FORM,fALEF MAKSURA FINAL FORM",
    "bJEEM WITH MEEM WITH YEH FINAL FORM,dHAH WITH ALEF MAKSURA FINAL FORM",
    "dMEEM WITH ALEF MAKSURA FINAL FORM,bSEEN WITH KHAH WITH ALEF MAKSURA FINAL FORM",
    "bSAD WITH HAH WITH YEH FINAL FORM,bSHEEN WITH HAH WITH YEH FINAL FORM",
    "bDAD WITH HAH WITH YEH FINAL FORM,bLAM WITH JEEM WITH YEH FINAL FORM",
    "dMEEM WITH YEH FINAL FORM,bYEH WITH HAH WITH YEH FINAL FORM,dJEEM WITH YEH FINAL FORM",
    "dMEEM WITH YEH FINAL FORM,bMEEM WITH MEEM WITH YEH FINAL FORM",
    "bQAF WITH MEEM WITH YEH FINAL FORM,bNOON WITH HAH WITH YEH FINAL FORM",
    "bQAF WITH MEEM WITH HAH INITIAL FORM,bLAM WITH HAH WITH MEEM INITIAL FORM",
    "bAIN WITH MEEM WITH YEH FINAL FORM,bKAF WITH MEEM WITH YEH FINAL FORM",
    "bNOON WITH JEEM WITH HAH INITIAL FORM,bMEEM WITH KHAH WITH YEH FINAL FORM",
    "bLAM WITH JEEM WITH MEEM INITIAL FORM,bKAF WITH MEEM WITH MEEM FINAL FORM",
    "bLAM WITH JEEM WITH MEEM FINAL FORM,bNOON WITH JEEM WITH HAH FINAL FORM",
    "bJEEM WITH HAH WITH YEH FINAL FORM,bHAH WITH JEEM WITH YEH FINAL FORM",
    "bMEEM WITH JEEM WITH YEH FINAL FORM,bFEH WITH MEEM WITH YEH FINAL FORM",
    "bBEH WITH HAH WITH YEH FINAL FORM,bKAF WITH MEEM WITH MEEM INITIAL FORM",
    "bAIN WITH JEEM WITH MEEM INITIAL FORM,bSAD WITH MEEM WITH MEEM INITIAL FORM",
    "bSEEN WITH KHAH WITH YEH FINAL FORM,bNOON WITH JEEM WITH YEH FINAL FORM",
    "7bSALAAMUHU ALAYNAA,32bSALLA USED AS KORANIC STOP SIGN ISOLATED FORM",
    "bQALA USED AS KORANIC STOP SIGN ISOLATED FORM,bALLAH ISOLATED FORM,bAKBAR ISOLATED FORM",
    "bMOHAMMAD ISOLATED FORM,bSALAM ISOLATED FORM,bRASOUL ISOLATED FORM,bALAYHE ISOLATED FORM",
    "bWASALLAM ISOLATED FORM,bSALLA ISOLATED FORM,bSALLALLAHOU ALAYHE WASALLAM",
    "bJALLAJALALOUHOU,1bBISMILLAH AR-RAHMAN AR-RAHEEM,bSUBHAANAHU WA TAAALAA,bAZZA WA JALL",
    "112aFATHATAN ISOLATED FORM,aTATWEEL WITH FATHATAN ABOVE,aDAMMATAN ISOLATED FORM",
    "aTAIL FRAGMENT,aKASRATAN ISOLATED FORM,1aFATHA ISOLATED FORM,bMEDIAL FORM",
    "aDAMMA ISOLATED FORM,bMEDIAL FORM,aKASRA ISOLATED FORM,bMEDIAL FORM,aSHADDA ISOLATED FORM",
    "bMEDIAL FORM,aSUKUN ISOLATED FORM,bMEDIAL FORM,aLETTER HAMZA ISOLATED FORM",
    "bALEF WITH MADDA ABOVE ISOLATED FORM,fFINAL FORM,dHAMZA ABOVE ISOLATED FORM,fFINAL FORM",
    "bWAW WITH HAMZA ABOVE ISOLATED FORM,fFINAL FORM,bALEF WITH HAMZA BELOW ISOLATED FORM",
    "fFINAL FORM,bYEH WITH HAMZA ABOVE ISOLATED FORM,fFINAL FORM,fINITIAL FORM,fMEDIAL FORM",
    "bALEF ISOLATED FORM,cFINAL FORM,bBEH ISOLATED FORM,cFINAL FORM,cINITIAL FORM,cMEDIAL FORM",
    "bTEH MARBUTA ISOLATED FORM,dFINAL FORM,cISOLATED FORM,cFINAL FORM,cINITIAL FORM",
    "cMEDIAL FORM,bTHEH ISOLATED FORM,cFINAL FORM,cINITIAL FORM,cMEDIAL FORM",
    "bJEEM ISOLATED FORM,cFINAL FORM,cINITIAL FORM,cMEDIAL FORM,bHAH ISOLATED FORM,cFINAL FORM",
    "cINITIAL FORM,cMEDIAL FORM,bKHAH ISOLATED FORM,cFINAL FORM,cINITIAL FORM,cMEDIAL FORM",
    "bDAL ISOLATED FORM,cFINAL FORM,bTHAL ISOLATED FORM,cFINAL FORM,bREH ISOLATED FORM",
    "cFINAL FORM,bZAIN ISOLATED FORM,cFINAL FORM,bSEEN ISOLATED FORM,cFINAL FORM,cINITIAL FORM",
    "cMEDIAL FORM,bSHEEN ISOLATED FORM,cFINAL FORM,cINITIAL FORM,cMEDIAL FORM",
    "bSAD ISOLATED FORM,cFINAL FORM,cINITIAL FORM,cMEDIAL FORM,bDAD ISOLATED FORM,cFINAL FORM",
    "cINITIAL FORM,cMEDIAL FORM,bTAH ISOLATED FORM,cFINAL FORM,cINITIAL FORM,cMEDIAL FORM",
    "bZAH ISOLATED FORM,cFINAL FORM,cINITIAL FORM,cMEDIAL FORM,bAIN ISOLATED FORM,cFINAL FORM",
    "cINITIAL FORM,cMEDIAL FORM,bGHAIN ISOLATED FORM,cFINAL FORM,cINITIAL FORM,cMEDIAL FORM",
    "bFEH ISOLATED FORM,cFINAL FORM,cINITIAL FORM,cMEDIAL FORM,bQAF ISOLATED FORM,cFINAL FORM",
    "cINITIAL FORM,cMEDIAL FORM,bKAF ISOLATED FORM,cFINAL FORM,cINITIAL FORM,cMEDIAL FORM",
    "bLAM ISOLATED FORM,cFINAL FORM,cINITIAL FORM,cMEDIAL FORM,bMEEM ISOLATED FORM,cFINAL FORM",
    "cINITIAL FORM,cMEDIAL FORM,bNOON ISOLATED FORM,cFINAL FORM,cINITIAL FORM,cMEDIAL FORM",
    "bHEH ISOLATED FORM,cFINAL FORM,cINITIAL FORM,cMEDIAL FORM,bWAW ISOLATED FORM,cFINAL FORM",
    "bALEF MAKSURA ISOLATED FORM,dFINAL FORM,bYEH ISOLATED FORM,cFINAL FORM,cINITIAL FORM",
    "cMEDIAL FORM,aLIGATURE LAM WITH ALEF WITH MADDA ABOVE ISOLATED FORM,hFINAL FORM",
    "fHAMZA ABOVE ISOLATED FORM,hFINAL FORM,gBELOW ISOLATED FORM,hFINAL FORM,eISOLATED FORM",
    "eFINAL FORM,61187aMATHEMATICAL ALEF,bBEH,bJEEM,bDAL,1bWAW,bZAIN,bHAH,bTAH,bYEH,bKAF,bLAM",
    "bMEEM,bNOON,bSEEN,bAIN,bFEH,bSAD,bQAF,bREH,bSHEEN,bTEH,bTHEH,bKHAH,bTHAL,bDAD,bZAH,bGHAIN",
    "bDOTLESS BEH,cNOON,cFEH,cQAF,1bINITIAL BEH,cJEEM,1cHEH,2cHAH,1cYEH,cKAF,cLAM,cMEEM,cNOON",
    "cSEEN,cAIN,cFEH,cSAD,cQAF,1cSHEEN,cTEH,cTHEH,cKHAH,1cDAD,1cGHAIN,6bTAILED JEEM,4cHAH",
    "1cYEH,1cLAM,1cNOON,cSEEN,cAIN,1cSAD,cQAF,1cSHEEN,2cKHAH,1cDAD,1cGHAIN,1cDOTLESS NOON",
    "1dQAF,1bSTRETCHED BEH,cJEEM,1cHEH,2cHAH,cTAH,cYEH,cKAF,1cMEEM,cNOON,cSEEN,cAIN,cFEH,cSAD",
    "cQAF,1cSHEEN,cTEH,cTHEH,cKHAH,1cDAD,cZAH,cGHAIN,cDOTLESS BEH,1dFEH,1bLOOPED ALEF,cBEH",
    "cJEEM,cDAL,cHEH,cWAW,cZAIN,cHAH,cTAH,cYEH,1cLAM,cMEEM,cNOON,cSEEN,cAIN,cFEH,cSAD,cQAF",
    "cREH,cSHEEN,cTEH,cTHEH,cKHAH,cTHAL,cDAD,cZAH,cGHAIN,5bDOUBLE-STRUCK BEH,cJEEM,cDAL,1cWAW",
    "cZAIN,cHAH,cTAH,cYEH,1cLAM,cMEEM,cNOON,cSEEN,cAIN,cFEH,cSAD,cQAF,cREH,cSHEEN,cTEH,cTHEH",
    "cKHAH,cTHAL,cDAD,cZAH,cGHAIN,52bOPERATOR MEEM WITH HAH WITH TATWEEL,cHAH WITH DAL"]⟩,
  ⟨"ARABIC-INDIC", [
    "1542aCUBE ROOT,aFOURTH ROOT,1aPER MILLE SIGN,bTEN THOUSAND SIGN,85aDIGIT ZERO,bONE,bTWO",
    "bTHREE,bFOUR,bFIVE,bSIX,bSEVEN,bEIGHT,bNINE"]⟩,
  ⟨"ARMENIAN", [
    "1329aCAPITAL LETTER AYB,cBEN,cGIM,cDA,cECH,cZA,cEH,cET,cTO,cZHE,cINI,cLIWN,cXEH,cCA,cKEN",
    "cHO,cJA,cGHAD,cCHEH,cMEN,cYI,cNOW,cSHA,cVO,cCHA,cPEH,cJHEH,cRA,cSEH,cVEW,cTIWN,cREH,cCO",
    "cYIWN,cPIWR,cKEH,cOH,cFEH,2aMODIFIER LETTER LEFT HALF RING,aAPOSTROPHE,aEMPHASIS MARK",
    "aEXCLAMATION MARK,aCOMMA,aQUESTION MARK,aABBREVIATION MARK,aSMALL LETTER TURNED AYB,cAYB",
    "cBEN,cGIM,cDA,cECH,cZA,cEH,cET,cTO,cZHE,cINI,cLIWN,cXEH,cCA,cKEN,cHO,cJA,cGHAD,cCHEH,cMEN",
    "cYI,cNOW,cSHA,cVO,cCHA,cPEH,cJHEH,cRA,cSEH,cVEW,cTIWN,cREH,cCO,cYIWN,cPIWR,cKEH,cOH,cFEH",
    "bLIGATURE ECH YIWN,bLETTER YI WITH STROKE,aFULL STOP,aHYPHEN,4aDRAM SIGN",
    "62851aSMALL LIGATURE MEN NOW,dECH,dINI,cVEW NOW,cMEN XEH"]⟩,
  ⟨"ARROW", [
    "10548aPOINTING RIGHTWARDS THEN CURVING UPWARDS,eDOWNWARDS",
    "bDOWNWARDS THEN CURVING LEFTWARDS,eRIGHTWARDS,118648bUPWARDS THEN NORTH WEST",
    "bRIGHTWARDS THEN CURVING SOUTH WEST"]⟩,
  ⟨"AVESTAN", [
    "68352aLETTER A,bAA,bAO,bAAO,bAN,bAAN,bAE,bAEE,bE,bEE,bO,bOO,bI,bII,bU,bUU,bKE,bXE,bXYE",
    "bXVE,bGE,bGGE,bGHE,bCE,bJE,bTE,bTHE,bDE,bDHE,bTTE,bPE,bFE,bBE,bBHE,bNGE,bNGYE,bNGVE,bNE",
    "bNYE,bNNE,bME,bHME,bYYE,bYE,bVE,bRE,bLE,bSE,bZE,bSHE,bZHE,bSHYE,bSSHE,bHE",
    "3aABBREVIATION MARK"]⟩]

/-- The names that begin with B. -/
def namesB : List NameGroup := [
  ⟨"BABY", ["127868aBOTTLE,167aCHICK,81a,5aANGEL,575aSYMBOL"]⟩,
  ⟨"BALINESE", [
    "6912aSIGN ULU RICEM,cCANDRA,bCECEK,bSURANG,bBISAH,aLETTER AKARA,cTEDUNG,bIKARA,cTEDUNG",
    "bUKARA,cTEDUNG,bRA REPA,dTEDUNG,bLA LENGA,dTEDUNG,bEKARA,bAIKARA,bOKARA,cTEDUNG,bKA",
    "cMAHAPRANA,bGA,cGORA,bNGA,bCA,cLACA,bJA,cJERA,bNYA,bTA LATIK,cMURDA MAHAPRANA",
    "bDA MURDA ALPAPRANA,dMAHAPRANA,bNA RAMBAT,bTA,cTAWA,bDA,cMADU,bNA,bPA,cKAPAL,bBA,cKEMBANG",
    "bMA,bYA,bRA,bLA,bWA,bSA SAGA,cSAPA,c,bHA,aSIGN REREKAN,aVOWEL SIGN TEDUNG,cULU,dSARI",
    "cSUKU,dILUT,cRA REPA,eTEDUNG,cLA LENGA,eTEDUNG,cTALING,dREPA,dTEDUNG,dREPA TEDUNG,cPEPET",
    "dTEDUNG,aADEG ADEG,aLETTER KAF SASAK,bKHOT SASAK,bTZIR SASAK,bEF SASAK,bVE SASAK",
    "bZAL SASAK,bASYURA SASAK,bARCHAIC JNYA,3aDIGIT ZERO,bONE,bTWO,bTHREE,bFOUR,bFIVE,bSIX",
    "bSEVEN,bEIGHT,bNINE,aPANTI,aPAMADA,aWINDU,aCARIK PAMUNGKAH,bSIKI,bPAREREN,aPAMENENG",
    "aMUSICAL SYMBOL DONG,cDENG,cDUNG,cDANG,dSURANG,cDING,cDAENG,cDEUNG,cDAING,cDANG GEDE",
    "cCOMBINING TEGEH,dENDEP,dKEMPUL,dKEMPLI,dJEGOGAN,dKEMPUL WITH JEGOGAN",
    "dKEMPLI WITH JEGOGAN,dBENDE,dGONG,cRIGHT-HAND OPEN DUG,eDAG,dCLOSED TUK,eTAK",
    "cLEFT-HAND OPEN PANG,ePUNG,dCLOSED PLAK,ePLUK,dOPEN PING,aPANTI LANTANG,aPAMADA LANTANG"]⟩,
  ⟨"BALLOT", [
    "9744aBOX,bWITH CHECK,cX,260aX,1189aBOX WITH LIGHT X,117301cBALLOT,aSCRIPT X",
    "aBOX WITH SCRIPT X,aBOLD SCRIPT X,aBOX WITH BOLD SCRIPT X,1dCHECK"]⟩,
  ⟨"BAMUM", [
    "42656aLETTER A,bKA,bU,bKU,bEE,bREE,bTAE,bO,bNYI,bI,bLA,bPA,bRII,bRIEE,bLEEEE,bMEEEE,bTAA",
    "bNDAA,bNJAEM,bM,bSUU,bMU,bSHII,bSI,bSHEUX,bSEUX,bKYEE,bKET,bNUAE,bNU,bNJUAE,bYOQ,bSHU",
    "bYUQ,bYA,bNSHA,bKEUX,bPEUX,bNJEE,bNTEE,bPUE,bWUE,bPEE,bFEE,bRU,bLU,bMI,bNI,bREUX,bRAE",
    "bKEN,bNGKWAEN,bNGGA,bNGA,bSHO,bPUAE,bFU,bFOM,bWA,bNA,bLI,bPI,bLOQ,bKO,bMBEN,bREN,bMEN,bMA",
    "bTI,bKI,bMO,bMBAA,bTET,bKPA,bTEN,bNTUU,bSAMBA,bFAAMAE,bKOVUU,bKOGHOM",
    "aCOMBINING MARK KOQNDON,cTUKWENTIS,aNJAEMLI,aFULL STOP,aCOLON,aCOMMA,aSEMICOLON",
    "aQUESTION MARK,49416aLETTER PHASE-A NGKUE MFON,cGBIEE FON,cPON MFON PIPAEMGBIEE,ePIPAEMBA",
    "cNAA MFON,cSHUENSHUET,cTITA MFON,cNZA MFON,cSHINDA PA NJI,cPON PA NJI PIPAEMGBIEE",
    "fPIPAEMBA,cMAEMBGBIEE,cTU MAEMBA,cNGANGU,cMAEMVEUX,cMANSUAE,cMVEUAENGAM,cSEUNYAM,cNTOQPEN",
    "cKEUKEUTNDA,cNKINDI,cSUU,cNGKUENZEUM,cLAPAQ,cLET KUT,cNTAP MFAA,cMAEKEUP,cPASHAE",
    "cGHEUAERAE,cPAMSHAE,cMON NGGEUAET,cNZUN MEUT,cU YUQ NAE,cGHEUAEGHEUAE,cNTAP NTAA,cSISA",
    "cMGBASA,cMEUNJOMNDEUQ,cMOOMPUQ,cKAFA,cPA LEERAEWA,cNDA LEERAEWA,cPET,cMAEMKPEN,cNIKA,cPUP",
    "cTUAEP,cLUAEP,cSONJAM,cTEUTEUWEN,cMAENYI,cKET,cNDAANGGEUAET,cKUOQ,cMOOMEUT,cSHUM,cLOMMAE",
    "cFIRI,cROM,cKPOQ,cSOQ,cMAP PIEET,cSHIRAE,cNTAP,cSHOQ NSHUT YUM,cNYIT MONGKEUAEQ,cPAARAE",
    "cNKAARAE,cUNKNOWN,cNGGEN,cMAESI,cNJAM,cMBANYI,cNYET,cTEUAEN,cSOT,cPAAM,cNSHIEE,cMAEM,cNYI",
    "cKAQ,cNSHA,cVEE,cLU,cNEN,cNAQ,cMBAQ,bPHASE-B NSHUET,cTU MAEMGBIEE,cSIEE,cSET TU",
    "cLOM NTEUM,cMBA MAELEE,cKIEEM,cYEURAE,cMBAARAE,cKAM,cPEESHI,cYAFU LEERAEWA",
    "cLAM NSHUT NYAM,cNTIEE SHEUOQ,cNDU NJAA,cGHEUGHEUAEM,cPIT,cTU NSIEE,cSHET NJAQ,cSHEUAEQTU",
    "cMFON TEUAEQ,cMBIT MBAAKET,cNYI NTEUM,cKEUPUQ,cGHEUGHEN,cKEUYEUX,cLAANAE,cPARUM,cVEUM",
    "cNGKINDI MVOP,cNGGEU MBU,cWUAET,cSAKEUAE,cTAAM,cMEUQ,cNGGUOQ,dLARGE,cMFIYAQ,cSUE,cMBEURI",
    "cMONTIEEN,cNYAEMAE,cPUNGAAM,cMEUT NGGEET,cFEUX,cMBUOQ,cFEE,cKEUAEM,cMA NJEUAENA,dNJUQA",
    "cLET,cNGGAAM,cNSEN,cMA,cKIQ,cNGOM,bPHASE-C NGKUE MAEMBA,cNZA,cYUM,cWANGKUOQ,cNGGEN",
    "cNDEUAEREE,cNGKAQ,cGHARAE,cMBEEKEET,cGBAYI,cNYIR MKPARAQ MEUN,cNTU MBIT,cMBEUM,cPIRIEEN",
    "cNDOMBU,cMBAA CABBAGE-TREE,cKEUSHEUAEP,cGHAP,cKEUKAQ,cYU MUOMAE,cNZEUM,cMBUE,cNSEUAEN",
    "cMBIT,cYEUQ,cKPARAQ,cKAA,cSEUX,cNDIDA,cTAASHAE,cNJUEQ,cTITA YUE,cSUAET,cNGGUAEN NYAM",
    "cVEUX,cNANSANAQ,cMA KEUAERI,cNTAA,cNGGUON,cLAP,cMBIRIEEN,cMGBASAQ,cNTEUNGBA,cTEUTEUX",
    "cNGGUM,cFUE,cNDEUT,cNSA,cNSHAQ,cBUNG,cVEUAEPEN,cMBERAE,cRU,cNJAEM,cLAM,cTITUAEP",
    "cNSUOT NGOM,cNJEEEE,cKET,cNGGU,cMAESI,cMBUAEM,cLU,cKUT,cNJAM,cNGOM,cWUP,cNGGUEET,cNSOM",
    "cNTEN,cKUOP NKAARAE,cNSUN,cNDAM,cMA NSIEE,cYAA,cNDAP,cSHUEQ,cSETFON,cMBI,cMAEMBA,cMBANYI",
    "cKEUSEUX,cMBEUX,cKEUM,cMBAA PICKET,cYUWOQ,cNJEUX,cMIEE,cMUAE,cSHIQ,cKEN LAW,dFATIGUE",
    "cNGAQ,cNAQ,cLIQ,cPIN,cPEN,cTET,bPHASE-D MBUO,cWAP,cNJI,cMFON,cNJIEE,cLIEE,cNJEUT,cNSHEE",
    "cNGGAAMAE,cNYAM,cWUAEN,cNGKUN,cSHEE,cNGKAP,cKEUAETMEUN,cTEUT,cSHEUAE,cNJAP,cSUE,cKET",
    "cYAEMMAE,cKUOM,cSAP,cMFEUT,cNDEUX,cMALEERI,cMEUT,cSEUAEQ,cYEN,cNJEUAEM,cKEUOT MBUAE",
    "cNGKEURI,cTU,cGHAA,cNGKYEE,cFEUFEUAET,cNDEE,cMGBOFUM,cLEUAEP,cNDON,cMONI,cMGBEUN,cPUUT",
    "cMGBIEE,cMFO,cLUM,cNSIEEP,cMBAA,cKWAET,cNYET,cTEUAEN,cSOT,cYUWOQ,cKEUM,cRAEM,cTEEEE",
    "cNGKEUAEQ,cMFEUAE,cNSIEET,cKEUP,cPIP,cPEUTAE,cNYUE,cLET,cNGGAAM,cMFIEE,cNGGWAEN,cYUOM",
    "cPAP,cYUOP,cNDAM,cNTEUM,cSUAE,cKUN,cNGGEUX,cNGKIEE,cTUOT,cMEUN,cKUQ,cNSUM,cTEUN,cMAENJET",
    "cNGGAP,cLEUM,cNGGUOM,cNSHUT,cNJUEQ,cGHEUAE,cKU,cREN OLD,cTAE,cTOQ,cNYI,cRII,cLEEEE,cMEEEE",
    "cM,cSUU,cMU,cSHII,cSHEUX,cKYEE,cNU,cSHU,cNTEE,cPEE,cNI,cSHOQ,cPUQ,cMVOP,cLOQ,cREN MUCH",
    "cTI,cNTUU,cMBAA SEVEN,cSAQ,cFAA,bPHASE-E NDAP,cTOON,cMBEUM,cLAP,cVOM,cLOON,cPAA,cSOM,cRAQ",
    "cNSHUOP,cNDUN,cPUAE,cTAM,cNGKA,cKPEUX,cWUO,cSEE,cNGGEUAET,cPAAM,cTOO,cKUOP,cLOM,cNSHIEE",
    "cNGOP,cMAEM,cNGKEUX,cNGOQ,cNSHUE,cRIMGBA,cNJEUX,cPEEM,cSAA,cNGGURAE,cMGBA,cGHEUX",
    "cNGKEUAEM,cNJAEMLI,cMAP,cLOOT,cNGGEEEE,cNDIQ,cTAEN NTEUM,cSET,cPUM,cNDAA SOFTNESS",
    "cNGGUAESHAE NYAM,cYIEE,cGHEUN,cTUAE,cYEUAE,cPO,cTUMAE,cKEUAE,cSUAEN,cTEUAEQ,cVEUAE,cWEUX",
    "cLAAM,cPU,cTAAQ,cGHAAMAE,cNGEUREUT,cSHEUAEQ,cMGBEN,cMBEE,cNZAQ,cNKOM,cGBET,cTUM,cKUET",
    "cYAP,cNYI CLEAVER,cYIT,cMFEUQ,cNDIAQ,cPIEEQ,cYUEQ,cLEUAEM,cFUE,cGBEUX,cNGKUP,cKET,cMAE",
    "cNGKAAMI,cGHET,cFA,cNTUM,cPEUT,cYEUM,cNGGEUAE,cNYI BETWEEN,cNZUQ,cPOON,cMIEE,cFUET,cNAE",
    "cMUAE,cGHEUAE,cFU I,cMVI,cPUAQ,cNGKUM,cKUT,cPIET,cNTAP,cYEUAET,cNGGUP,cPA PEOPLE,cFU CALL",
    "cFOM,cNJEE,cA,cTOQ,cO,cI,cLAQ,cPA PLURAL,cTAA,cTAQ,cNDAA MY HOUSE,cSHIQ,cYEUX,cNGUAE",
    "cYUAEN,cYOQ SWIMMING,dCOVER,cYUQ,cYUN,cKEUX,cPEUX,cNJEE EPOCH,cPUE,cWUE,cFEE,cVEE,cLU,cMI",
    "cREUX,cRAE,cNGUAET,cNGA,cSHO,cSHOQ,cFU REMEDY,cNA,cPI,cLOQ,cKO,cMEN,cMA,cMAQ,cTEU,cKI",
    "cMON,cTEN,cFAQ,cGHOM,bPHASE-F KA,cU,cKU,cEE,cREE,cTAE,cNYI,cLA,cRII,cRIEE,cMEEEE,cTAA",
    "cNDAA,cNJAEM,cM,cSUU,cSHII,cSI,cSEUX,cKYEE,cKET,cNUAE,cNU,cNJUAE,cYOQ,cSHU,cYA,cNSHA",
    "cPEUX,cNTEE,cWUE,cPEE,cRU,cNI,cREUX,cKEN,cNGKWAEN,cNGGA,cSHO,cPUAE,cFOM,cWA,cLI,cLOQ,cKO",
    "cMBEN,cREN,cMA,cMO,cMBAA,cTET,cKPA,cSAMBA,cVUEQ"]⟩,
  ⟨"BANKNOTE", ["128180aWITH YEN SIGN,bDOLLAR SIGN,bEURO SIGN,bPOUND SIGN"]⟩,
  ⟨"BASSA", [
    "92880aVAH LETTER ENNI,cKA,cSE,cFA,cMBE,cYIE,cGAH,cDHII,cKPAH,cJO,cHWAH,cWA,cZO,cGBU,cDO",
    "cCE,cUWU,cTO,cBA,cVU,cYEIN,cPA,cWADDA,cA,cO,cOO,cU,cEE,cE,cI,2bCOMBINING HIGH TONE",
    "cLOW TONE,cMID TONE,cLOW-MID TONE,cHIGH-LOW TONE,bFULL STOP"]⟩,
  ⟨"BATAK", [
    "7104aLETTER A,bSIMALUNGUN A,bHA,bSIMALUNGUN HA,bMANDAILING HA,bBA,bKARO BA,bPA",
    "bSIMALUNGUN PA,bNA,bMANDAILING NA,bWA,bSIMALUNGUN WA,bPAKPAK WA,bGA,bSIMALUNGUN GA,bJA",
    "bDA,bRA,bSIMALUNGUN RA,bMA,bSIMALUNGUN MA,bSOUTHERN TA,bNORTHERN TA,bSA,bSIMALUNGUN SA",
    "bMANDAILING SA,bYA,bSIMALUNGUN YA,bNGA,bLA,bSIMALUNGUN LA,bNYA,bCA,bNDA,bMBA,bI,bU",
    "aSIGN TOMPI,aVOWEL SIGN E,cPAKPAK E,cEE,cI,cKARO I,cO,cKARO O,cU,dFOR SIMALUNGUN SA",
    "aCONSONANT SIGN NG,cH,aPANGOLAT,aPANONGONAN,8aSYMBOL BINDU NA METEK,cPINARBORAS,cJUDUL",
    "cPANGOLAT"]⟩,
  ⟨"BEAMED", [
    "9835aEIGHTH NOTES,aSIXTEENTH NOTES,118063aASCENDING MUSICAL NOTES",
    "aDESCENDING MUSICAL NOTES"]⟩,
  ⟨"BELL", ["9086aSYMBOL,119189a,aWITH CANCELLATION STROKE,1467aPEPPER"]⟩,
  ⟨"BENGALI", [
    "2432aANJI,aSIGN CANDRABINDU,bANUSVARA,bVISARGA,1aLETTER A,bAA,bI,bII,bU,bUU,bVOCALIC R,cL",
    "2bE,bAI,2bO,bAU,bKA,bKHA,bGA,bGHA,bNGA,bCA,bCHA,bJA,bJHA,bNYA,bTTA,bTTHA,bDDA,bDDHA,bNNA",
    "bTA,bTHA,bDA,bDHA,bNA,1bPA,bPHA,bBA,bBHA,bMA,bYA,bRA,1bLA,3bSHA,bSSA,bSA,bHA,2aSIGN NUKTA",
    "bAVAGRAHA,aVOWEL SIGN AA,cI,cII,cU,cUU,cVOCALIC R,dRR,2cE,cAI,2cO,cAU,aSIGN VIRAMA",
    "aLETTER KHANDA TA,8aAU LENGTH MARK,4aLETTER RRA,bRHA,1bYYA,bVOCALIC RR,cLL",
    "aVOWEL SIGN VOCALIC L,dLL,2aDIGIT ZERO,bONE,bTWO,bTHREE,bFOUR,bFIVE,bSIX,bSEVEN,bEIGHT",
    "bNINE,aLETTER RA WITH MIDDLE DIAGONAL,dLOWER DIAGONAL,aRUPEE MARK,bSIGN",
    "aCURRENCY NUMERATOR ONE,cTWO,cTHREE,cFOUR,cONE LESS THAN THE DENOMINATOR",
    "bDENOMINATOR SIXTEEN,aISSHAR,aGANDA MARK,aLETTER VEDIC ANUSVARA,aABBREVIATION SIGN",
    "aSANDHI MARK"]⟩,
  ⟨"BHAIKSUKI", [
    "72704aLETTER A,bAA,bI,bII,bU,bUU,bVOCALIC R,cRR,cL,1bE,bAI,bO,bAU,bKA,bKHA,bGA,bGHA,bNGA",
    "bCA,bCHA,bJA,bJHA,bNYA,bTTA,bTTHA,bDDA,bDDHA,bNNA,bTA,bTHA,bDA,bDHA,bNA,bPA,bPHA,bBA,bBHA",
    "bMA,bYA,bRA,bLA,bVA,bSHA,bSSA,bSA,bHA,aVOWEL SIGN AA,cI,cII,cU,cUU,cVOCALIC R,dRR,dL,1cE",
    "cAI,cO,cAU,aSIGN CANDRABINDU,bANUSVARA,bVISARGA,bVIRAMA,bAVAGRAHA,aDANDA,aDOUBLE DANDA",
    "aWORD SEPARATOR,aGAP FILLER-1,bFILLER-2,10aDIGIT ZERO,bONE,bTWO,bTHREE,bFOUR,bFIVE,bSIX",
    "bSEVEN,bEIGHT,bNINE,aNUMBER ONE,bTWO,bTHREE,bFOUR,bFIVE,bSIX,bSEVEN,bEIGHT,bNINE,bTEN",
    "bTWENTY,bTHIRTY,bFORTY,bFIFTY,bSIXTY,bSEVENTY,bEIGHTY,bNINETY,aHUNDREDS UNIT MARK"]⟩,
  ⟨"BLACK", [
    "8268aLEFTWARDS BULLET,aRIGHTWARDS BULLET,923aRIGHT-POINTING DOUBLE TRIANGLE",
    "aLEFT-POINTING DOUBLE TRIANGLE,aUP-POINTING DOUBLE TRIANGLE",
    "aDOWN-POINTING DOUBLE TRIANGLE,aRIGHT-POINTING DOUBLE TRIANGLE WITH VERTICAL BAR",
    "aLEFT-POINTING DOUBLE TRIANGLE WITH VERTICAL BAR",
    "aRIGHT-POINTING TRIANGLE WITH DOUBLE VERTICAL BAR,4aMEDIUM LEFT-POINTING TRIANGLE",
    "bRIGHT-POINTING TRIANGLE,bUP-POINTING TRIANGLE,bDOWN-POINTING TRIANGLE,1aSQUARE FOR STOP",
    "aCIRCLE FOR RECORD,421aSQUARE,9aSMALL SQUARE,1aRECTANGLE,1aVERTICAL RECTANGLE",
    "1aPARALLELOGRAM,1aUP-POINTING TRIANGLE,1bSMALL TRIANGLE,1aRIGHT-POINTING TRIANGLE",
    "1bSMALL TRIANGLE,1bPOINTER,1aDOWN-POINTING TRIANGLE,1bSMALL TRIANGLE",
    "1aLEFT-POINTING TRIANGLE,1bSMALL TRIANGLE,1bPOINTER,1aDIAMOND,8aCIRCLE",
    "18aLOWER RIGHT TRIANGLE,bLEFT TRIANGLE,aUPPER LEFT TRIANGLE,bRIGHT TRIANGLE",
    "22aMEDIUM SQUARE,1bSMALL SQUARE,1aSUN WITH RAYS,4aSTAR,8aTELEPHONE,8aSHOGI PIECE",
    "2aLEFT POINTING INDEX,aRIGHT POINTING INDEX,31aSMILING FACE,30aCHESS KING,bQUEEN,bROOK",
    "bBISHOP,bKNIGHT,bPAWN,aSPADE SUIT,2aCLUB SUIT,1aHEART SUIT,aDIAMOND SUIT",
    "20aUNIVERSAL RECYCLING SYMBOL,12aCIRCLE WITH WHITE DOT RIGHT,cTWO WHITE DOTS,7aFLAG",
    "38aMOON LILITH,9aDRAUGHTS MAN,bKING,3aSNOWMAN,14aTWO-WAY LEFT WAY TRAFFIC",
    "1aLEFT LANE MERGE,6aTRUCK,8aCROSS ON SHIELD,23aSAFETY SCISSORS,1aSCISSORS,15aNIB",
    "19aFOUR POINTED STAR,5aCENTRE WHITE STAR,18aFLORETTE,19aQUESTION MARK ORNAMENT",
    "2aDIAMOND MINUS WHITE X,74aRIGHTWARDS ARROW,2bARROWHEAD,558aBOWTIE,3aHOURGLASS",
    "18aDIAMOND WITH DOWN ARROW,aLOZENGE,1aCIRCLE WITH DOWN ARROW,301aLARGE SQUARE",
    "1aVERY SMALL SQUARE,1aPENTAGON,2aHEXAGON,1aLARGE CIRCLE,aMEDIUM DIAMOND,1bLOZENGE",
    "1aSMALL DIAMOND,bLOZENGE,1aHORIZONTAL ELLIPSE,1aVERTICAL ELLIPSE,34aSMALL STAR",
    "1aRIGHT-POINTING PENTAGON,72aLEFTWARDS EQUILATERAL ARROWHEAD",
    "aUPWARDS EQUILATERAL ARROWHEAD,aRIGHTWARDS EQUILATERAL ARROWHEAD",
    "aDOWNWARDS EQUILATERAL ARROWHEAD,8aCURVED DOWNWARDS AND LEFTWARDS ARROW,dRIGHTWARDS ARROW",
    "bUPWARDS AND LEFTWARDS ARROW,dRIGHTWARDS ARROW,bLEFTWARDS AND UPWARDS ARROW",
    "bRIGHTWARDS AND UPWARDS ARROW,bLEFTWARDS AND DOWNWARDS ARROW",
    "bRIGHTWARDS AND DOWNWARDS ARROW,16aSQUARE CENTRED,aDIAMOND CENTRED,2aOCTAGON",
    "aMEDIUM UP-POINTING TRIANGLE CENTRED,bDOWN-POINTING TRIANGLE CENTRED",
    "bLEFT-POINTING TRIANGLE CENTRED,bRIGHT-POINTING TRIANGLE CENTRED,21aDIAMOND ON CROSS",
    "116547aDROPLET,207aPENNANT,3aROSETTE,315aSQUARE BUTTON,62aSKULL AND CROSSBONES",
    "13aTOUCHTONE TELEPHONE,8aPUSHPIN,19aLEFT POINTING BACKHAND INDEX",
    "aRIGHT POINTING BACKHAND INDEX,4aUP POINTING BACKHAND INDEX,aDOWN POINTING BACKHAND INDEX",
    "aHEART,5aHARD SHELL FLOPPY DISK,20aFOLDER,448aLEFT-POINTING ISOSCELES RIGHT TRIANGLE",
    "aUP-POINTING ISOSCELES RIGHT TRIANGLE,aRIGHT-POINTING ISOSCELES RIGHT TRIANGLE",
    "aDOWN-POINTING ISOSCELES RIGHT TRIANGLE,aSLIGHTLY SMALL CIRCLE,7aTINY SQUARE",
    "aSLIGHTLY SMALL SQUARE,9aTINY DIAMOND,aVERY SMALL DIAMOND,aMEDIUM SMALL DIAMOND",
    "3aTINY LOZENGE,aVERY SMALL LOZENGE,aMEDIUM SMALL LOZENGE",
    "615aCHESS KNIGHT ROTATED FORTY-FIVE DEGREES,7bKING ROTATED NINETY DEGREES",
    "bQUEEN ROTATED NINETY DEGREES,bROOK ROTATED NINETY DEGREES,bBISHOP ROTATED NINETY DEGREES",
    "bKNIGHT ROTATED NINETY DEGREES,bPAWN ROTATED NINETY DEGREES",
    "7bKNIGHT ROTATED ONE HUNDRED THIRTY-FIVE DEGREES,7bTURNED KING,cQUEEN,cROOK,cBISHOP",
    "cKNIGHT,cPAWN,7bKNIGHT ROTATED TWO HUNDRED TWENTY-FIVE DEGREES",
    "7bKING ROTATED TWO HUNDRED SEVENTY DEGREES,bQUEEN ROTATED TWO HUNDRED SEVENTY DEGREES",
    "bROOK ROTATED TWO HUNDRED SEVENTY DEGREES,bBISHOP ROTATED TWO HUNDRED SEVENTY DEGREES",
    "bKNIGHT ROTATED TWO HUNDRED SEVENTY DEGREES,bPAWN ROTATED TWO HUNDRED SEVENTY DEGREES",
    "7bKNIGHT ROTATED THREE HUNDRED FIFTEEN DEGREES,2bEQUIHOPPER,2cROTATED NINETY DEGREES",
    "4bKNIGHT-QUEEN,bKNIGHT-ROOK,bKNIGHT-BISHOP"]⟩,
  ⟨"BLACK-FEATHERED", ["10164aSOUTH EAST ARROW,aRIGHTWARDS ARROW,aNORTH EAST ARROW"]⟩,
  ⟨"BLACK-LETTER", ["8460aCAPITAL H,4bI,10bR,11bZ,4bC"]⟩,
  ⟨"BLOCK", [
    "129792aSEXTANT-1,aSEXTANT-2,aSEXTANT-12,aSEXTANT-3,aSEXTANT-13,aSEXTANT-23,aSEXTANT-123",
    "aSEXTANT-4,aSEXTANT-14,aSEXTANT-24,aSEXTANT-124,aSEXTANT-34,aSEXTANT-134,aSEXTANT-234",
    "aSEXTANT-1234,aSEXTANT-5,aSEXTANT-15,aSEXTANT-25,aSEXTANT-125,aSEXTANT-35,aSEXTANT-235",
    "aSEXTANT-1235,aSEXTANT-45,aSEXTANT-145,aSEXTANT-245,aSEXTANT-1245,aSEXTANT-345",
    "aSEXTANT-1345,aSEXTANT-2345,aSEXTANT-12345,aSEXTANT-6,aSEXTANT-16,aSEXTANT-26",
    "aSEXTANT-126,aSEXTANT-36,aSEXTANT-136,aSEXTANT-236,aSEXTANT-1236,aSEXTANT-46,aSEXTANT-146",
    "aSEXTANT-1246,aSEXTANT-346,aSEXTANT-1346,aSEXTANT-2346,aSEXTANT-12346,aSEXTANT-56",
    "aSEXTANT-156,aSEXTANT-256,aSEXTANT-1256,aSEXTANT-356,aSEXTANT-1356,aSEXTANT-2356",
    "aSEXTANT-12356,aSEXTANT-456,aSEXTANT-1456,aSEXTANT-2456,aSEXTANT-12456,aSEXTANT-3456",
    "aSEXTANT-13456,aSEXTANT-23456"]⟩,
  ⟨"BOLD", [
    "128902aWHITE CIRCLE,9bSQUARE,19aGREEK CROSS,6aSALTIRE,5aFIVE SPOKED ASTERISK",
    "5aSIX SPOKED ASTERISK,5aEIGHT SPOKED ASTERISK"]⟩,
  ⟨"BOPOMOFO", [
    "12549aLETTER B,bP,bM,bF,bD,bT,bN,bL,bG,bK,bH,bJ,bQ,bX,bZH,bCH,bSH,bR,bZ,bC,bS,bA,bO,bE",
    "bEH,bAI,bEI,bAU,bOU,bAN,bEN,bANG,bENG,bER,bI,bU,bIU,bV,bNG,bGN,bIH,bO WITH DOT ABOVE,bNN",
    "112bBU,bZI,bJI,bGU,bEE,bENN,bOO,bONN,bIR,bANN,bINN,bUNN,bIM,bNGG,bAINN,bAUNN,bAM,bOM,bONG",
    "bINNN,aFINAL LETTER P,cT,cK,cH,aLETTER GH,bLH,bZY,aFINAL LETTER G,aLETTER GW,bKW,bOE,bAH"]⟩,
  ⟨"BOTTOM", [
    "8972aRIGHT CROP,aLEFT CROP,16bCORNER,aRIGHT CORNER,1aHALF INTEGRAL,147aSQUARE BRACKET",
    "cOVER TOP SQUARE BRACKET,38aPARENTHESIS,1aCURLY BRACKET,1aTORTOISE SHELL BRACKET",
    "1369aARC ANTICLOCKWISE ARROW,655aHALF BLACK CIRCLE,600aLEFT HALF BRACKET",
    "aRIGHT HALF BRACKET,53aHALF LEFT PARENTHESIS,bRIGHT PARENTHESIS"]⟩,
  ⟨"BOWTIE", ["8904a,1800aWITH LEFT HALF BLACK,bRIGHT HALF BLACK"]⟩,
  ⟨"BOX", [
    "9472aDRAWINGS LIGHT HORIZONTAL,bHEAVY HORIZONTAL,bLIGHT VERTICAL,bHEAVY VERTICAL",
    "bLIGHT TRIPLE DASH HORIZONTAL,bHEAVY TRIPLE DASH HORIZONTAL,bLIGHT TRIPLE DASH VERTICAL",
    "bHEAVY TRIPLE DASH VERTICAL,bLIGHT QUADRUPLE DASH HORIZONTAL",
    "bHEAVY QUADRUPLE DASH HORIZONTAL,bLIGHT QUADRUPLE DASH VERTICAL",
    "bHEAVY QUADRUPLE DASH VERTICAL,bLIGHT DOWN AND RIGHT,bDOWN LIGHT AND RIGHT HEAVY",
    "cHEAVY AND RIGHT LIGHT,bHEAVY DOWN AND RIGHT,bLIGHT DOWN AND LEFT",
    "bDOWN LIGHT AND LEFT HEAVY,cHEAVY AND LEFT LIGHT,bHEAVY DOWN AND LEFT,bLIGHT UP AND RIGHT",
    "bUP LIGHT AND RIGHT HEAVY,cHEAVY AND RIGHT LIGHT,bHEAVY UP AND RIGHT,bLIGHT UP AND LEFT",
    "bUP LIGHT AND LEFT HEAVY,cHEAVY AND LEFT LIGHT,bHEAVY UP AND LEFT",
    "bLIGHT VERTICAL AND RIGHT,bVERTICAL LIGHT AND RIGHT HEAVY,bUP HEAVY AND RIGHT DOWN LIGHT",
    "bDOWN HEAVY AND RIGHT UP LIGHT,bVERTICAL HEAVY AND RIGHT LIGHT",
    "bDOWN LIGHT AND RIGHT UP HEAVY,bUP LIGHT AND RIGHT DOWN HEAVY,bHEAVY VERTICAL AND RIGHT",
    "bLIGHT VERTICAL AND LEFT,bVERTICAL LIGHT AND LEFT HEAVY,bUP HEAVY AND LEFT DOWN LIGHT",
    "bDOWN HEAVY AND LEFT UP LIGHT,bVERTICAL HEAVY AND LEFT LIGHT",
    "bDOWN LIGHT AND LEFT UP HEAVY,bUP LIGHT AND LEFT DOWN HEAVY,bHEAVY VERTICAL AND LEFT",
    "bLIGHT DOWN AND HORIZONTAL,bLEFT HEAVY AND RIGHT DOWN LIGHT",
    "bRIGHT HEAVY AND LEFT DOWN LIGHT,bDOWN LIGHT AND HORIZONTAL HEAVY",
    "cHEAVY AND HORIZONTAL LIGHT,bRIGHT LIGHT AND LEFT DOWN HEAVY",
    "bLEFT LIGHT AND RIGHT DOWN HEAVY,bHEAVY DOWN AND HORIZONTAL,bLIGHT UP AND HORIZONTAL",
    "bLEFT HEAVY AND RIGHT UP LIGHT,bRIGHT HEAVY AND LEFT UP LIGHT",
    "bUP LIGHT AND HORIZONTAL HEAVY,cHEAVY AND HORIZONTAL LIGHT,bRIGHT LIGHT AND LEFT UP HEAVY",
    "bLEFT LIGHT AND RIGHT UP HEAVY,bHEAVY UP AND HORIZONTAL,bLIGHT VERTICAL AND HORIZONTAL",
    "bLEFT HEAVY AND RIGHT VERTICAL LIGHT,bRIGHT HEAVY AND LEFT VERTICAL LIGHT",
    "bVERTICAL LIGHT AND HORIZONTAL HEAVY,bUP HEAVY AND DOWN HORIZONTAL LIGHT",
    "bDOWN HEAVY AND UP HORIZONTAL LIGHT,bVERTICAL HEAVY AND HORIZONTAL LIGHT",
    "bLEFT UP HEAVY AND RIGHT DOWN LIGHT,bRIGHT UP HEAVY AND LEFT DOWN LIGHT",
    "bLEFT DOWN HEAVY AND RIGHT UP LIGHT,bRIGHT DOWN HEAVY AND LEFT UP LIGHT",
    "bDOWN LIGHT AND UP HORIZONTAL HEAVY,bUP LIGHT AND DOWN HORIZONTAL HEAVY",
    "bRIGHT LIGHT AND LEFT VERTICAL HEAVY,bLEFT LIGHT AND RIGHT VERTICAL HEAVY",
    "bHEAVY VERTICAL AND HORIZONTAL,bLIGHT DOUBLE DASH HORIZONTAL",
    "bHEAVY DOUBLE DASH HORIZONTAL,bLIGHT DOUBLE DASH VERTICAL,bHEAVY DOUBLE DASH VERTICAL",
    "bDOUBLE HORIZONTAL,cVERTICAL,bDOWN SINGLE AND RIGHT DOUBLE,cDOUBLE AND RIGHT SINGLE",
    "bDOUBLE DOWN AND RIGHT,bDOWN SINGLE AND LEFT DOUBLE,cDOUBLE AND LEFT SINGLE",
    "bDOUBLE DOWN AND LEFT,bUP SINGLE AND RIGHT DOUBLE,cDOUBLE AND RIGHT SINGLE",
    "bDOUBLE UP AND RIGHT,bUP SINGLE AND LEFT DOUBLE,cDOUBLE AND LEFT SINGLE",
    "bDOUBLE UP AND LEFT,bVERTICAL SINGLE AND RIGHT DOUBLE,cDOUBLE AND RIGHT SINGLE",
    "bDOUBLE VERTICAL AND RIGHT,bVERTICAL SINGLE AND LEFT DOUBLE,cDOUBLE AND LEFT SINGLE",
    "bDOUBLE VERTICAL AND LEFT,bDOWN SINGLE AND HORIZONTAL DOUBLE",
    "cDOUBLE AND HORIZONTAL SINGLE,bDOUBLE DOWN AND HORIZONTAL",
    "bUP SINGLE AND HORIZONTAL DOUBLE,cDOUBLE AND HORIZONTAL SINGLE,bDOUBLE UP AND HORIZONTAL",
    "bVERTICAL SINGLE AND HORIZONTAL DOUBLE,cDOUBLE AND HORIZONTAL SINGLE",
    "bDOUBLE VERTICAL AND HORIZONTAL,bLIGHT ARC DOWN AND RIGHT,fLEFT,dUP AND LEFT,fRIGHT",
    "cDIAGONAL UPPER RIGHT TO LOWER LEFT,eLEFT TO LOWER RIGHT,dCROSS,cLEFT,cUP,cRIGHT,cDOWN",
    "bHEAVY LEFT,cUP,cRIGHT,cDOWN,bLIGHT LEFT AND HEAVY RIGHT,cUP AND HEAVY DOWN",
    "bHEAVY LEFT AND LIGHT RIGHT,cUP AND LIGHT DOWN",
    "120352bLIGHT DIAGONAL UPPER CENTRE TO MIDDLE LEFT,hRIGHT,dMIDDLE LEFT TO LOWER CENTRE",
    "eRIGHT TO LOWER CENTRE,dUPPER CENTRE TO MIDDLE LEFT TO LOWER CENTRE",
    "hRIGHT TO LOWER CENTRE,dMIDDLE LEFT TO LOWER CENTRE TO MIDDLE RIGHT",
    "gUPPER CENTRE TO MIDDLE RIGHT",
    "dUPPER CENTRE TO MIDDLE LEFT AND MIDDLE RIGHT TO LOWER CENTRE",
    "hRIGHT AND MIDDLE LEFT TO LOWER CENTRE,iTO LOWER CENTRE TO MIDDLE LEFT",
    "hLEFT TO LOWER CENTRE TO MIDDLE RIGHT",
    "dMIDDLE LEFT TO UPPER CENTRE TO MIDDLE RIGHT TO LOWER CENTRE",
    "eRIGHT TO UPPER CENTRE TO MIDDLE LEFT TO LOWER CENTRE,dDIAMOND",
    "cHORIZONTAL WITH VERTICAL STROKE"]⟩,
  ⟨"BRAHMI", [
    "69632aSIGN CANDRABINDU,bANUSVARA,bVISARGA,bJIHVAMULIYA,bUPADHMANIYA,aLETTER A,bAA,bI,bII",
    "bU,bUU,bVOCALIC R,cRR,cL,cLL,bE,bAI,bO,bAU,bKA,bKHA,bGA,bGHA,bNGA,bCA,bCHA,bJA,bJHA,bNYA",
    "bTTA,bTTHA,bDDA,bDDHA,bNNA,bTA,bTHA,bDA,bDHA,bNA,bPA,bPHA,bBA,bBHA,bMA,bYA,bRA,bLA,bVA",
    "bSHA,bSSA,bSA,bHA,bLLA,bOLD TAMIL LLLA,dRRA,dNNNA,aVOWEL SIGN AA,cBHATTIPROLU AA,cI,cII",
    "cU,cUU,cVOCALIC R,dRR,dL,dLL,cE,cAI,cO,cAU,aVIRAMA,aDANDA,aDOUBLE DANDA,aPUNCTUATION DOT",
    "bDOUBLE DOT,bLINE,bCRESCENT BAR,bLOTUS,4aNUMBER ONE,bTWO,bTHREE,bFOUR,bFIVE,bSIX,bSEVEN",
    "bEIGHT,bNINE,bTEN,bTWENTY,bTHIRTY,bFORTY,bFIFTY,bSIXTY,bSEVENTY,bEIGHTY,bNINETY",
    "bONE HUNDRED,cTHOUSAND,aDIGIT ZERO,bONE,bTWO,bTHREE,bFOUR,bFIVE,bSIX,bSEVEN,bEIGHT,bNINE",
    "aSIGN OLD TAMIL VIRAMA,aLETTER OLD TAMIL SHORT E,eO,aVOWEL SIGN OLD TAMIL SHORT E,fO",
    "aLETTER OLD TAMIL LLA,9aNUMBER JOINER"]⟩,
  ⟨"BRAILLE", [
    "10240aPATTERN BLANK,bDOTS-1,bDOTS-2,bDOTS-12,bDOTS-3,bDOTS-13,bDOTS-23,bDOTS-123,bDOTS-4",
    "bDOTS-14,bDOTS-24,bDOTS-124,bDOTS-34,bDOTS-134,bDOTS-234,bDOTS-1234,bDOTS-5,bDOTS-15",
    "bDOTS-25,bDOTS-125,bDOTS-35,bDOTS-135,bDOTS-235,bDOTS-1235,bDOTS-45,bDOTS-145,bDOTS-245",
    "bDOTS-1245,bDOTS-345,bDOTS-1345,bDOTS-2345,bDOTS-12345,bDOTS-6,bDOTS-16,bDOTS-26",
    "bDOTS-126,bDOTS-36,bDOTS-136,bDOTS-236,bDOTS-1236,bDOTS-46,bDOTS-146,bDOTS-246,bDOTS-1246",
    "bDOTS-346,bDOTS-1346,bDOTS-2346,bDOTS-12346,bDOTS-56,bDOTS-156,bDOTS-256,bDOTS-1256",
    "bDOTS-356,bDOTS-1356,bDOTS-2356,bDOTS-12356,bDOTS-456,bDOTS-1456,bDOTS-2456,bDOTS-12456",
    "bDOTS-3456,bDOTS-13456,bDOTS-23456,bDOTS-123456,bDOTS-7,bDOTS-17,bDOTS-27,bDOTS-127",
    "bDOTS-37,bDOTS-137,bDOTS-237,bDOTS-1237,bDOTS-47,bDOTS-147,bDOTS-247,bDOTS-1247,bDOTS-347",
    "bDOTS-1347,bDOTS-2347,bDOTS-12347,bDOTS-57,bDOTS-157,bDOTS-257,bDOTS-1257,bDOTS-357",
    "bDOTS-1357,bDOTS-2357,bDOTS-12357,bDOTS-457,bDOTS-1457,bDOTS-2457,bDOTS-12457,bDOTS-3457",
    "bDOTS-13457,bDOTS-23457,bDOTS-123457,bDOTS-67,bDOTS-167,bDOTS-267,bDOTS-1267,bDOTS-367",
    "bDOTS-1367,bDOTS-2367,bDOTS-12367,bDOTS-467,bDOTS-1467,bDOTS-2467,bDOTS-12467,bDOTS-3467",
    "bDOTS-13467,bDOTS-23467,bDOTS-123467,bDOTS-567,bDOTS-1567,bDOTS-2567,bDOTS-12567",
    "bDOTS-3567,bDOTS-13567,bDOTS-23567,bDOTS-123567,bDOTS-4567,bDOTS-14567,bDOTS-24567",
    "bDOTS-124567,bDOTS-34567,bDOTS-134567,bDOTS-234567,bDOTS-1234567,bDOTS-8,bDOTS-18",
    "bDOTS-28,bDOTS-128,bDOTS-38,bDOTS-138,bDOTS-238,bDOTS-1238,bDOTS-48,bDOTS-148,bDOTS-248",
    "bDOTS-1248,bDOTS-348,bDOTS-1348,bDOTS-2348,bDOTS-12348,bDOTS-58,bDOTS-158,bDOTS-258",
    "bDOTS-1258,bDOTS-358,bDOTS-1358,bDOTS-2358,bDOTS-12358,bDOTS-458,bDOTS-1458,bDOTS-2458",
    "bDOTS-12458,bDOTS-3458,bDOTS-13458,bDOTS-23458,bDOTS-123458,bDOTS-68,bDOTS-168,bDOTS-268",
    "bDOTS-1268,bDOTS-368,bDOTS-1368,bDOTS-2368,bDOTS-12368,bDOTS-468,bDOTS-1468,bDOTS-2468",
    "bDOTS-12468,bDOTS-3468,bDOTS-13468,bDOTS-23468,bDOTS-123468,bDOTS-568,bDOTS-1568",
    "bDOTS-2568,bDOTS-12568,bDOTS-3568,bDOTS-13568,bDOTS-23568,bDOTS-123568,bDOTS-4568",
    "bDOTS-14568,bDOTS-24568,bDOTS-124568,bDOTS-34568,bDOTS-134568,bDOTS-234568,bDOTS-1234568",
    "bDOTS-78,bDOTS-178,bDOTS-278,bDOTS-1278,bDOTS-378,bDOTS-1378,bDOTS-2378,bDOTS-12378",
    "bDOTS-478,bDOTS-1478,bDOTS-2478,bDOTS-12478,bDOTS-3478,bDOTS-13478,bDOTS-23478",
    "bDOTS-123478,bDOTS-578,bDOTS-1578,bDOTS-2578,bDOTS-12578,bDOTS-3578,bDOTS-13578",
    "bDOTS-23578,bDOTS-123578,bDOTS-4578,bDOTS-14578,bDOTS-24578,bDOTS-124578,bDOTS-34578",
    "bDOTS-134578,bDOTS-234578,bDOTS-1234578,bDOTS-678,bDOTS-1678,bDOTS-2678,bDOTS-12678",
    "bDOTS-3678,bDOTS-13678,bDOTS-23678,bDOTS-123678,bDOTS-4678,bDOTS-14678,bDOTS-24678",
    "bDOTS-124678,bDOTS-34678,bDOTS-134678,bDOTS-234678,bDOTS-1234678,bDOTS-5678,bDOTS-15678",
    "bDOTS-25678,bDOTS-125678,bDOTS-35678,bDOTS-135678,bDOTS-235678,bDOTS-1235678,bDOTS-45678",
    "bDOTS-145678,bDOTS-245678,bDOTS-1245678,bDOTS-345678,bDOTS-1345678,bDOTS-2345678",
    "bDOTS-12345678"]⟩,
  ⟨"BROKEN", ["166aBAR,8932aCIRCLE WITH NORTHWEST ARROW,119048aHEART"]⟩,
  ⟨"BUGINESE", [
    "6656aLETTER KA,bGA,bNGA,bNGKA,bPA,bBA,bMA,bMPA,bTA,bDA,bNA,bNRA,bCA,bJA,bNYA,bNYCA,bYA",
    "bRA,bLA,bVA,bSA,bA,bHA,aVOWEL SIGN I,cU,cE,cO,cAE,2aPALLAWA,aEND OF SECTION"]⟩,
  ⟨"BUHID", [
    "5952aLETTER A,bI,bU,bKA,bGA,bNGA,bTA,bDA,bNA,bPA,bBA,bMA,bYA,bRA,bLA,bWA,bSA,bHA",
    "aVOWEL SIGN I,cU"]⟩,
  ⟨"BYZANTINE", [
    "118784aMUSICAL SYMBOL PSILI,cDASEIA,cPERISPOMENI,cOXEIA EKFONITIKON,dDIPLI",
    "cVAREIA EKFONITIKON,dDIPLI,cKATHISTI,cSYRMATIKI,cPARAKLITIKI,cYPOKRISIS,dDIPLI,cKREMASTI",
    "cAPESO EKFONITIKON,cEXO EKFONITIKON,cTELEIA,cKENTIMATA,cAPOSTROFOS,dDIPLI,cSYNEVMA,cTHITA",
    "cOLIGON ARCHAION,cGORGON ARCHAION,cPSILON,cCHAMILON,cVATHY,cISON ARCHAION",
    "cKENTIMA ARCHAION,cKENTIMATA ARCHAION,cSAXIMATA,cPARICHON,cSTAVROS APODEXIA",
    "cOXEIAI ARCHAION,cVAREIAI ARCHAION,cAPODERMA ARCHAION,cAPOTHEMA,cKLASMA,cREVMA",
    "cPIASMA ARCHAION,cTINAGMA,cANATRICHISMA,cSEISMA,cSYNAGMA ARCHAION,dMETA STAVROU",
    "cOYRANISMA ARCHAION,cTHEMA,cLEMOI,cDYO,cTRIA,cTESSERA,cKRATIMATA,cAPESO EXO NEO",
    "cFTHORA ARCHAION,cIMIFTHORA,cTROMIKON ARCHAION,cKATAVA TROMIKON,cPELASTON,cPSIFISTON",
    "cKONTEVMA,cCHOREVMA ARCHAION,cRAPISMA,cPARAKALESMA ARCHAION,cPARAKLITIKI ARCHAION",
    "cICHADIN,cNANA,cPETASMA,cKONTEVMA ALLO,cTROMIKON ALLO,cSTRAGGISMATA,cGRONTHISMATA",
    "cISON NEO,cOLIGON NEO,cOXEIA NEO,cPETASTI,cKOUFISMA,cPETASTOKOUFISMA,cKRATIMOKOUFISMA",
    "cPELASTON NEO,cKENTIMATA NEO ANO,cKENTIMA NEO ANO,cYPSILI,cAPOSTROFOS NEO",
    "cAPOSTROFOI SYNDESMOS NEO,cYPORROI,cKRATIMOYPORROON,cELAFRON,cCHAMILI,cMIKRON ISON",
    "cVAREIA NEO,cPIASMA NEO,cPSIFISTON NEO,cOMALON,cANTIKENOMA,cLYGISMA,cPARAKLITIKI NEO",
    "cPARAKALESMA NEO,cETERON PARAKALESMA,cKYLISMA,cANTIKENOKYLISMA,cTROMIKON NEO,cEKSTREPTON",
    "cSYNAGMA NEO,cSYRMA,cCHOREVMA NEO,cEPEGERMA,cSEISMA NEO,cXIRON KLASMA,cTROMIKOPSIFISTON",
    "cPSIFISTOLYGISMA,cTROMIKOLYGISMA,cTROMIKOPARAKALESMA,cPSIFISTOPARAKALESMA,cTROMIKOSYNAGMA",
    "cPSIFISTOSYNAGMA,cGORGOSYNTHETON,cARGOSYNTHETON,cETERON ARGOSYNTHETON,cOYRANISMA NEO",
    "cTHEMATISMOS ESO,dEXO,cTHEMA APLOUN,cTHES KAI APOTHES,cKATAVASMA,cENDOFONON,cYFEN KATO",
    "dANO,cSTAVROS,cKLASMA ANO,cDIPLI ARCHAION,cKRATIMA ARCHAION,dALLO,dNEO,cAPODERMA NEO",
    "cAPLI,cDIPLI,cTRIPLI,cTETRAPLI,cKORONIS,cLEIMMA ENOS CHRONOU,dDYO CHRONON,dTRION CHRONON",
    "dTESSARON CHRONON,dIMISEOS CHRONOU,cGORGON NEO ANO,dPARESTIGMENON ARISTERA,eDEXIA",
    "cDIGORGON,dPARESTIGMENON ARISTERA KATO,fANO,eDEXIA,cTRIGORGON,cARGON,cIMIDIARGON,cDIARGON",
    "cAGOGI POLI ARGI,dARGOTERI,dARGI,dMETRIA,dMESI,dGORGI,dGORGOTERI,dPOLI GORGI",
    "cMARTYRIA PROTOS ICHOS,dALLI PROTOS ICHOS,dDEYTEROS ICHOS,dALLI DEYTEROS ICHOS",
    "dTRITOS ICHOS,dTRIFONIAS,dTETARTOS ICHOS,eLEGETOS ICHOS,dLEGETOS ICHOS,dPLAGIOS ICHOS",
    "cISAKIA TELOUS ICHIMATOS,cAPOSTROFOI TELOUS ICHIMATOS,cFANEROSIS TETRAFONIAS,dMONOFONIAS",
    "dDIFONIAS,cMARTYRIA VARYS ICHOS,dPROTOVARYS ICHOS,dPLAGIOS TETARTOS ICHOS",
    "cGORTHMIKON N APLOUN,eDIPLOUN,cENARXIS KAI FTHORA VOU,cIMIFONON,cIMIFTHORON",
    "cFTHORA ARCHAION DEYTEROU ICHOU,dDIATONIKI PA,eNANA,dNAOS ICHOS,dDIATONIKI DI",
    "dSKLIRON DIATONON DI,dDIATONIKI KE,eZO,eNI KATO,fANO,dMALAKON CHROMA DIFONIAS,fMONOFONIAS",
    "cFHTORA SKLIRON CHROMA VASIS,cFTHORA SKLIRON CHROMA SYNAFI,dNENANO,cCHROA ZYGOS,dKLITON",
    "dSPATHI,cFTHORA I YFESIS TETARTIMORION,dENARMONIOS ANTIFONIA,cYFESIS TRITIMORION",
    "cDIESIS TRITIMORION,dTETARTIMORION,dAPLI DYO DODEKATA,dMONOGRAMMOS TESSERA DODEKATA",
    "dDIGRAMMOS EX DODEKATA,dTRIGRAMMOS OKTO DODEKATA,cYFESIS APLI DYO DODEKATA",
    "dMONOGRAMMOS TESSERA DODEKATA,dDIGRAMMOS EX DODEKATA,dTRIGRAMMOS OKTO DODEKATA",
    "cGENIKI DIESIS,dYFESIS,cDIASTOLI APLI MIKRI,eMEGALI,dDIPLI,dTHESEOS,cSIMANSIS THESEOS",
    "eDISIMOU,eTRISIMOU,eTETRASIMOU,dARSEOS,eDISIMOU,eTRISIMOU,eTETRASIMOU,cDIGRAMMA GG",
    "cDIFTOGGOS OU,cSTIGMA,cARKTIKO PA,dVOU,dGA,dDI,dKE,dZO,dNI,cKENTIMATA NEO MESO",
    "cKENTIMA NEO MESO,cKENTIMATA NEO KATO,cKENTIMA NEO KATO,cKLASMA KATO,cGORGON NEO KATO"]⟩]

end Phrasebook.CharName
