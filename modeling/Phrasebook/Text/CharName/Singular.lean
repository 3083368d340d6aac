import Phrasebook.Text.CharName.Group

/-!
Names of characters whose first word few other names share, by the tables of Unicode 14, and names
that characters have besides their own.
-/

namespace Phrasebook.CharName

/-- Names of all kinds. -/
def singular : List String := [
  "32aSPACE,aEXCLAMATION MARK,aQUOTATION MARK,1aDOLLAR SIGN,aPERCENT SIGN,aAMPERSAND",
  "aAPOSTROPHE,2aASTERISK,1aCOMMA,aHYPHEN-MINUS,1aSOLIDUS,11aSEMICOLON,3aQUESTION MARK",
  "aCOMMERCIAL AT,29aCIRCUMFLEX ACCENT,1aGRAVE ACCENT,63aNO-BREAK SPACE,1aCENT SIGN",
  "aPOUND SIGN,aCURRENCY SIGN,aYEN SIGN,1aSECTION SIGN,aDIAERESIS,aCOPYRIGHT SIGN",
  "aFEMININE ORDINAL INDICATOR,3aREGISTERED SIGN,aMACRON,1aPLUS-MINUS SIGN,2aACUTE ACCENT",
  "aMICRO SIGN,aPILCROW SIGN,aMIDDLE DOT,aCEDILLA,1aMASCULINE ORDINAL INDICATOR,524aCARON",
  "16aBREVE,2aOGONEK,815aAFGHANI SIGN,4393aPHILIPPINE SINGLE PUNCTUATION,bDOUBLE PUNCTUATION",
  "2253aTHREE-PER-EM SPACE,aFOUR-PER-EM SPACE,aSIX-PER-EM SPACE,aFIGURE SPACE",
  "aPUNCTUATION SPACE,1aHAIR SPACE,6aNON-BREAKING HYPHEN,aFIGURE DASH,15aBULLET",
  "4aHYPHENATION POINT,1aPARAGRAPH SEPARATOR,2aPOP DIRECTIONAL FORMATTING",
  "2aNARROW NO-BREAK SPACE,2aPRIME,5aCARET,2aREFERENCE MARK,1aINTERROBANG,aOVERLINE,aUNDERTIE",
  "aCHARACTER TIE,aCARET INSERTION POINT,aASTERISM,1aFRACTION SLASH",
  "3aQUESTION EXCLAMATION MARK,aEXCLAMATION QUESTION MARK,aTIRONIAN SIGN ET,5aCLOSE UP",
  "1aCOMMERCIAL MINUS SIGN,aSWUNG DASH,3aQUADRUPLE PRIME,1aFIVE DOT PUNCTUATION,3aTRICOLON",
  "2aWORD JOINER,aFUNCTION APPLICATION,7aPOP DIRECTIONAL ISOLATE,aINHIBIT SYMMETRIC SWAPPING",
  "aACTIVATE SYMMETRIC SWAPPING,aINHIBIT ARABIC FORM SHAPING,aACTIVATE ARABIC FORM SHAPING",
  "aNATIONAL DIGIT SHAPES,aNOMINAL DIGIT SHAPES,48aEURO-CURRENCY SIGN,1aCRUZEIRO SIGN",
  "aFRENCH FRANC SIGN,aLIRA SIGN,aMILL SIGN,aNAIRA SIGN,aPESETA SIGN,aRUPEE SIGN,aWON SIGN",
  "1aDONG SIGN,aEURO SIGN,aKIP SIGN,aTUGRIK SIGN,aDRACHMA SIGN,aGERMAN PENNY SIGN,aPESO SIGN",
  "aGUARANI SIGN,aAUSTRAL SIGN,aHRYVNIA SIGN,aCEDI SIGN,aLIVRE TOURNOIS SIGN,aSPESMILO SIGN",
  "aTENGE SIGN,aINDIAN RUPEE SIGN,aTURKISH LIRA SIGN,aNORDIC MARK SIGN,aMANAT SIGN,aRUBLE SIGN",
  "aLARI SIGN,aBITCOIN SIGN,aSOM SIGN,63aACCOUNT OF,aADDRESSED TO THE SUBJECT",
  "2aCENTRE LINE SYMBOL,aCARE OF,aCADA UNA,aEULER CONSTANT,aSCRUPLE,5aPLANCK CONSTANT",
  "cOVER TWO PI,4aL B BAR SYMBOL,1aNUMERO SIGN,aSOUND RECORDING COPYRIGHT,6aPRESCRIPTION TAKE",
  "aRESPONSE,aSERVICE MARK,1aTRADE MARK SIGN,aVERSICLE,1aOUNCE SIGN,aOHM SIGN,3aKELVIN SIGN",
  "aANGSTROM SIGN,2aESTIMATED SYMBOL,6aALEF SYMBOL,aBET SYMBOL,aGIMEL SYMBOL,aDALET SYMBOL",
  "aINFORMATION SOURCE,1aFACSIMILE SIGN,14aPROPERTY LINE,2aAKTIESELSKAB",
  "17aFRACTION NUMERATOR ONE,160aFOR ALL,aCOMPLEMENT,aPARTIAL DIFFERENTIAL,aTHERE EXISTS",
  "bDOES NOT EXIST,1aINCREMENT,aNABLA,6aEND OF PROOF,4aMINUS-OR-PLUS SIGN,2aSET MINUS",
  "aASTERISK OPERATOR,1aBULLET OPERATOR,1aCUBE ROOT,aFOURTH ROOT,aPROPORTIONAL TO,aINFINITY",
  "4aDIVIDES,10aCONTOUR INTEGRAL,aSURFACE INTEGRAL,aVOLUME INTEGRAL,3aTHEREFORE,aBECAUSE",
  "aRATIO,aPROPORTION,1aEXCESS,aGEOMETRIC PROPORTION,aHOMOTHETIC,3aSINE WAVE,aWREATH PRODUCT",
  "2aASYMPTOTICALLY EQUAL TO,8aALL EQUAL TO,aEQUIVALENT TO,aGEOMETRICALLY EQUIVALENT TO",
  "aDIFFERENCE BETWEEN,aAPPROACHES THE LIMIT,aGEOMETRICALLY EQUAL TO",
  "1aIMAGE OF OR APPROXIMATELY EQUAL TO,4aCORRESPONDS TO,aESTIMATES,aEQUIANGULAR TO",
  "1aDELTA EQUAL TO,2aQUESTIONED EQUAL TO,3aSTRICTLY EQUIVALENT TO,6aMUCH LESS-THAN",
  "bGREATER-THAN,aBETWEEN,57aASSERTION,aMODELS,aTRUE,aFORCES",
  "5aNEGATED DOUBLE VERTICAL BAR DOUBLE RIGHT TURNSTILE,2aNORMAL SUBGROUP OF,1dOR EQUAL TO",
  "1aORIGINAL OF,aIMAGE OF,aMULTIMAP,aHERMITIAN CONJUGATE MATRIX,aINTERCALATE,aXOR,aNAND,aNOR",
  "22aPITCHFORK,26aMIDLINE HORIZONTAL ELLIPSIS,16aDIAMETER SIGN,4aPROJECTIVE,aPERSPECTIVE",
  "11aARC,aSEGMENT,aSECTOR,1aPOSITION INDICATOR,aVIEWDATA SQUARE,aPLACE OF INTEREST SIGN",
  "1aWATCH,aHOURGLASS,6aFROWN,aSMILE,1aOPTION KEY,aERASE TO THE RIGHT,aX IN A RECTANGLE BOX",
  "aKEYBOARD,2aERASE TO THE LEFT,aBENZENE RING,aCYLINDRICITY,aALL AROUND-PROFILE,aSYMMETRY",
  "aTOTAL RUNOUT,aDIMENSION ORIGIN,aCONICAL TAPER,aSLOPE,aCOUNTERBORE,aCOUNTERSINK",
  "71aSHOULDERED OPEN BOX,2aINSERTION SYMBOL,aCONTINUOUS UNDERLINE SYMBOL",
  "aDISCONTINUOUS UNDERLINE SYMBOL,aEMPHASIS SYMBOL,aCOMPOSITION SYMBOL,1aENTER SYMBOL",
  "aALTERNATIVE KEY SYMBOL,aHELM SYMBOL,3aUNDO SYMBOL,aMONOSTABLE SYMBOL,aHYSTERESIS SYMBOL",
  "aOPEN-CIRCUIT-OUTPUT H-TYPE SYMBOL,bL-TYPE SYMBOL,aPASSIVE-PULL-DOWN-OUTPUT SYMBOL",
  "aPASSIVE-PULL-UP-OUTPUT SYMBOL,aDIRECT CURRENT SYMBOL FORM TWO,aSOFTWARE-FUNCTION SYMBOL",
  "1aDECIMAL SEPARATOR KEY SYMBOL,aPREVIOUS PAGE,aNEXT PAGE,aPRINT SCREEN SYMBOL",
  "aCLEAR SCREEN SYMBOL,28aRADICAL SYMBOL BOTTOM,23aEJECT SYMBOL,11aFUSE",
  "7aBENZENE RING WITH CIRCLE,aSTRAIGHTNESS,aFLATNESS,aAC CURRENT,aELECTRICAL INTERSECTION",
  "aDECIMAL EXPONENT SYMBOL,7aALARM CLOCK,aSTOPWATCH,aTIMER CLOCK,aHOURGLASS WITH FLOWING SAND",
  "11aOBSERVER EYE SYMBOL,34aBLANK SYMBOL,368aDARK SHADE,53aFISHEYE,aLOZENGE,3aBULLSEYE",
  "52aSNOWMAN,aCOMET,3aTHUNDERSTORM,1aASCENDING NODE,aDESCENDING NODE,aCONJUNCTION,aOPPOSITION",
  "5aSALTIRE,4aSHAMROCK,7aSKULL AND CROSSBONES,aCAUTION SIGN,aRADIOACTIVE SIGN,aBIOHAZARD SIGN",
  "aCADUCEUS,aANKH,aORTHODOX CROSS,aCHI RHO,3aFARSI SYMBOL,aADI SHAKTI,1aPEACE SYMBOL",
  "aYIN YANG,8aWHEEL OF DHARMA,6aMERCURY,aFEMALE SIGN,2aJUPITER,aSATURN,aURANUS,aNEPTUNE",
  "1aARIES,aTAURUS,aGEMINI,aCANCER,aLEO,aVIRGO,aLIBRA,aSCORPIUS,aSAGITTARIUS,aCAPRICORN",
  "aAQUARIUS,aPISCES,21aQUARTER NOTE,aEIGHTH NOTE,5aWEST SYRIAC CROSS,aEAST SYRIAC CROSS",
  "aUNIVERSAL RECYCLING SYMBOL,9aRECYCLED PAPER SYMBOL,aPARTIALLY-RECYCLED PAPER SYMBOL",
  "aPERMANENT PAPER SIGN,aWHEELCHAIR SYMBOL,19aANCHOR,1aSTAFF OF AESCULAPIUS,aSCALES,aALEMBIC",
  "2aSTAFF OF HERMES,aATOM SYMBOL,aFLEUR-DE-LIS,3aWARNING SIGN,aHIGH VOLTAGE SIGN",
  "2aINTERLOCKED FEMALE AND MALE SIGN,8aMARRIAGE SYMBOL,aDIVORCE SYMBOL",
  "aUNMARRIED PARTNERSHIP SYMBOL,aCOFFIN,aFUNERAL URN,aNEUTER,aCERES,aPALLAS,aJUNO,aVESTA",
  "aCHIRON,1aSEXTILE,aSEMISEXTILE,aQUINCUNX,aSESQUIQUADRATE,aSOCCER BALL,aBASEBALL",
  "5aSNOWMAN WITHOUT SNOW,1aRAIN,1aTHUNDER CLOUD AND RAIN,3aCROSSING LANES,aDISABLED CAR",
  "aOPHIUCHUS,aPICK,aCAR SLIDING,aHELMET WITH WHITE CROSS,1aCHAINS",
  "1aALTERNATE ONE-WAY LEFT WAY TRAFFIC,4aDRIVE SLOW SIGN,5aRESTRICTED LEFT ENTRY-1,cENTRY-2",
  "aASTRONOMICAL SYMBOL FOR URANUS,1aPENTAGRAM,aRIGHT-HANDED INTERLACED PENTAGRAM",
  "aLEFT-HANDED INTERLACED PENTAGRAM,2aSHINTO SHRINE,aCHURCH,aCASTLE,aHISTORIC SITE",
  "2aMAP SYMBOL FOR LIGHTHOUSE,2aFOUNTAIN,aFLAG IN HOLE,aFERRY,aSAILBOAT,1aSKIER,2aTENT",
  "1aHEADSTONE GRAVEYARD SYMBOL,aFUEL PUMP,aCUP ON BLACK SQUARE,8aTAPE DRIVE,4aVICTORY HAND",
  "aWRITING HAND,1aPENCIL,3aCHECK MARK,12aMALTESE CROSS,7aSPARKLES,aSTRESS OUTLINED WHITE STAR",
  "5aPINWHEEL STAR,9aTWELVE POINTED BLACK STAR,aSIXTEEN POINTED ASTERISK",
  "aTEARDROP-SPOKED ASTERISK,8aSNOWFLAKE,aTIGHT TRIFOLIATE SNOWFLAKE,1aSPARKLE",
  "1aBALLOON-SPOKED ASTERISK,23aCURVED STEM PARAGRAPH SIGN ORNAMENT,4aFLORAL HEART",
  "52aDRAFTING POINT RIGHTWARDS ARROW,1aTRIANGLE-HEADED RIGHTWARDS ARROW",
  "9aSQUAT BLACK RIGHTWARDS ARROW,1aRIGHT-SHADED WHITE RIGHTWARDS ARROW",
  "aLEFT-SHADED WHITE RIGHTWARDS ARROW,aBACK-TILTED SHADOWED WHITE RIGHTWARDS ARROW",
  "aFRONT-TILTED SHADOWED WHITE RIGHTWARDS ARROW,6aWHITE-FEATHERED RIGHTWARDS ARROW",
  "6aTEARDROP-BARBED RIGHTWARDS ARROW,1aWEDGE-TAILED RIGHTWARDS ARROW",
  "1aOPEN-OUTLINED RIGHTWARDS ARROW,3aPERPENDICULAR,4aOR WITH DOT INSIDE,9aAND WITH DOT",
  "14aLOZENGE DIVIDED BY HORIZONTAL RULE,330aRISING DIAGONAL CROSSING FALLING DIAGONAL",
  "4dSOUTH EAST ARROW,7aRIGHT-SIDE ARC CLOCKWISE ARROW,aLEFT-SIDE ARC ANTICLOCKWISE ARROW",
  "101aACUTE ANGLE,44aS IN TRIANGLE,7aTIMES WITH LEFT HALF BLACK,cRIGHT HALF BLACK",
  "6aINCOMPLETE INFINITY,aTIE OVER INFINITY,aINFINITY NEGATED WITH VERTICAL BAR",
  "aDOUBLE-ENDED MULTIMAP,1aINCREASES AS,aSHUFFLE PRODUCT,3aGLEICH STARK,aTHERMODYNAMIC",
  "12aRULE-DELAYED,1aSOLIDUS WITH OVERBAR,1aBIG SOLIDUS,bREVERSE SOLIDUS,4aTINY,aMINY",
  "10aMODULO TWO SUM,1aQUADRUPLE INTEGRAL OPERATOR,aFINITE PART INTEGRAL",
  "2aCIRCULATION FUNCTION,5aQUATERNION INTEGRAL OPERATOR,6aJOIN,17aVECTOR OR CROSS PRODUCT",
  "2aSEMIDIRECT PRODUCT WITH BOTTOM CLOSED,aSMASH PRODUCT,8aINTERIOR PRODUCT",
  "aRIGHTHAND INTERIOR PRODUCT,1aAMALGAMATION OR COPRODUCT,23aSLOPING LARGE OR,cAND",
  "20aCONGRUENT WITH DOT ABOVE,10aEQUIVALENT WITH FOUR DOTS ABOVE,49aSMALLER THAN,aLARGER THAN",
  "aSMALLER THAN OR EQUAL TO,aLARGER THAN OR EQUAL TO,44aPITCHFORK WITH TEE TOP",
  "aTRANSVERSAL INTERSECTION,aFORKING,aNONFORKING,3aPERPENDICULAR WITH S",
  "121aBACKSLANTED SOUTH ARROW WITH HOOKED TAIL,1eHORIZONTAL TAIL",
  "aBENT ARROW POINTING DOWNWARDS THEN NORTH EAST,51aNEWLINE LEFT,bRIGHT,53aNEPTUNE FORM TWO",
  "7aUNCERTAINTY SIGN,aGROUP MARK,4aTRANSPLUTO,aPROSERPINA,aASTRAEA,aHYGIEA,aPHOLUS,aNESSUS",
  "2aTRUE LIGHT MOON ARTA,aCUPIDO,aHADES,aZEUS,aKRONOS,aAPOLLON,aADMETOS,aVULCANUS,aPOSEIDON",
  "8aERIS FORM ONE,cTWO,aSEDNA,7aUNITED SYMBOL,aSEPARATED SYMBOL,1aPASSED SYMBOL",
  "1aHELLSCHREIBER PAUSE SYMBOL,526aEDITORIAL CORONIS,aPARAGRAPHOS,aFORKED PARAGRAPHOS",
  "1aHYPODIASTOLE,26aFIVE DOT MARK,3aWORD SEPARATOR MIDDLE DOT,8aTWO-EM DASH,aTHREE-EM DASH",
  "aSTENOGRAPHIC FULL STOP,1aWIGGLY VERTICAL LINE,aCAPITULUM,3aDASH WITH LEFT UPTURN",
  "9aPARAGRAPHUS MARK,aPUNCTUS ELEVATUS MARK,aCORNISH VERSE DIVIDER,2aTIRONIAN SIGN CAPITAL ET",
  "432aDITTO MARK,15aGETA MARK,40aMASU MARK,aPART ALTERNATION MARK,530aPARTNERSHIP SIGN",
  "46aKOREAN STANDARD SYMBOL,79aLIMITED LIABILITY SIGN,29603aSLAVONIC ASTERISK",
  "22218aORNATE LEFT PARENTHESIS,bRIGHT PARENTHESIS,188aRIAL SIGN,72aSESAME DOT",
  "4aCENTRELINE OVERLINE,3bLOW LINE,429aOBJECT REPLACEMENT CHARACTER,aREPLACEMENT CHARACTER",
  "400aNOMISMA SIGN,13aASCIA SYMBOL,2461aTINY TWO DOTS OVER ONE DOT PUNCTUATION",
  "25765aTANGUT ITERATION MARK,aNUSHU ITERATION MARK,2aKHITAN SMALL SCRIPT FILLER",
  "11aVIETNAMESE ALTERNATE READING MARK CA,eNHAY,25477aTALLY MARK ONE,cFIVE",
  "7606aCOPYLEFT SYMBOL,125aMASK WORK SYMBOL,338aCYCLONE,aFOGGY,1aNIGHT WITH STARS",
  "aSUNRISE OVER MOUNTAINS,b,aCITYSCAPE AT DUSK,aSUNSET OVER BUILDINGS,aRAINBOW",
  "aBRIDGE AT NIGHT,1aVOLCANO,aMILKY WAY,3aGLOBE WITH MERIDIANS,1aWAXING CRESCENT MOON SYMBOL",
  "1bGIBBOUS MOON SYMBOL,1aWANING GIBBOUS MOON SYMBOL,1bCRESCENT MOON SYMBOL,aCRESCENT MOON",
  "5aGLOWING STAR,aSHOOTING STAR,aTHERMOMETER,9aFOG,aWIND BLOWING FACE,1aTACO,aBURRITO",
  "aCHESTNUT,aSEEDLING,aEVERGREEN TREE,aDECIDUOUS TREE,1aCACTUS,1aTULIP,aCHERRY BLOSSOM,aROSE",
  "aHIBISCUS,aSUNFLOWER,aBLOSSOM,2aHERB,1aMAPLE LEAF,aFALLEN LEAF,aLEAF FLUTTERING IN WIND",
  "aMUSHROOM,aTOMATO,aAUBERGINE,aGRAPES,aMELON,aWATERMELON,aTANGERINE,aLEMON,aBANANA",
  "aPINEAPPLE,aRED APPLE,1aPEAR,aPEACH,aCHERRIES,aSTRAWBERRY,aHAMBURGER,aSLICE OF PIZZA",
  "aMEAT ON BONE,aPOULTRY LEG,aRICE CRACKER,bBALL,aCOOKED RICE,aCURRY AND RICE,aSTEAMING BOWL",
  "aSPAGHETTI,aBREAD,aFRENCH FRIES,aROASTED SWEET POTATO,aDANGO,aODEN,aSUSHI,aFRIED SHRIMP",
  "aFISH CAKE WITH SWIRL DESIGN,1aSHAVED ICE,1aDOUGHNUT,aCOOKIE,aCHOCOLATE BAR,aCANDY",
  "aLOLLIPOP,aCUSTARD,aHONEY POT,aSHORTCAKE,aBENTO BOX,aPOT OF FOOD,aCOOKING,aFORK AND KNIFE",
  "aTEACUP WITHOUT HANDLE,aSAKE BOTTLE AND CUP,aWINE GLASS,aCOCKTAIL GLASS,aTROPICAL DRINK",
  "aBEER MUG,aCLINKING BEER MUGS,1aFORK AND KNIFE WITH PLATE,aBOTTLE WITH POPPING CORK",
  "aPOPCORN,1aWRAPPED PRESENT,aBIRTHDAY CAKE,aJACK-O-LANTERN,aCHRISTMAS TREE,aFATHER CHRISTMAS",
  "aFIREWORKS,aFIREWORK SPARKLER,aBALLOON,aPARTY POPPER,aCONFETTI BALL,aTANABATA TREE",
  "1aPINE DECORATION,1aCARP STREAMER,aWIND CHIME,aMOON VIEWING CEREMONY,aSCHOOL SATCHEL",
  "aGRADUATION CAP,1aBOUQUET OF FLOWERS,aMILITARY MEDAL,aREMINDER RIBBON,1aSTUDIO MICROPHONE",
  "aLEVEL SLIDER,aCONTROL KNOBS,2aFILM FRAMES,aADMISSION TICKETS,aCAROUSEL HORSE,aFERRIS WHEEL",
  "aROLLER COASTER,aFISHING POLE AND FISH,aMICROPHONE,aMOVIE CAMERA,aCINEMA,aHEADPHONE",
  "aARTIST PALETTE,1aCIRCUS TENT,aTICKET,aCLAPPER BOARD,aPERFORMING ARTS,aVIDEO GAME",
  "aDIRECT HIT,aSLOT MACHINE,aBILLIARDS,aGAME DIE,aBOWLING,2aMULTIPLE MUSICAL NOTES,aSAXOPHONE",
  "aGUITAR,1aTRUMPET,aVIOLIN,1aRUNNING SHIRT WITH SASH,aTENNIS RACQUET AND BALL",
  "aSKI AND SKI BOOT,aBASKETBALL AND HOOP,aCHEQUERED FLAG,aSNOWBOARDER,aRUNNER,aSURFER",
  "aSPORTS MEDAL,aTROPHY,1aAMERICAN FOOTBALL,aRUGBY FOOTBALL,aSWIMMER,aWEIGHT LIFTER,aGOLFER",
  "aRACING MOTORCYCLE,bCAR,aCRICKET BAT AND BALL,aVOLLEYBALL,aFIELD HOCKEY STICK AND BALL",
  "1aTABLE TENNIS PADDLE AND BALL,aSNOW CAPPED MOUNTAIN,aCAMPING,aBEACH WITH UMBRELLA",
  "aBUILDING CONSTRUCTION,1aCITYSCAPE,aDERELICT HOUSE BUILDING,aCLASSICAL BUILDING,aDESERT",
  "bISLAND,aNATIONAL PARK,aSTADIUM,2aOFFICE BUILDING,1aEUROPEAN POST OFFICE,aHOSPITAL,aBANK",
  "aAUTOMATED TELLER MACHINE,aHOTEL,aLOVE HOTEL,aCONVENIENCE STORE,aSCHOOL,aDEPARTMENT STORE",
  "aFACTORY,aIZAKAYA LANTERN,1aEUROPEAN CASTLE,4aROSETTE,1aLABEL",
  "aBADMINTON RACQUET AND SHUTTLECOCK,aBOW AND ARROW,aAMPHORA,5aRAT,1aOX,1aCOW,aTIGER,aLEOPARD",
  "aRABBIT,1aDRAGON,aCROCODILE,aWHALE,aSNAIL,aSNAKE,1aRAM,aGOAT,aSHEEP,aMONKEY,aROOSTER",
  "aCHICKEN,aDOG,1aBOAR,aELEPHANT,aOCTOPUS,1aBUG,aANT,aHONEYBEE,aLADY BEETLE,aFISH",
  "aTROPICAL FISH,aBLOWFISH,aTURTLE,aHATCHING CHICK,1aFRONT-FACING BABY CHICK,aBIRD,aPENGUIN",
  "aKOALA,aPOODLE,aDROMEDARY CAMEL,aBACTRIAN CAMEL,aDOLPHIN,1aCOW FACE,aTIGER FACE",
  "aRABBIT FACE,1aDRAGON FACE,aSPOUTING WHALE,1aMONKEY FACE,aDOG FACE,1aFROG FACE",
  "aHAMSTER FACE,aWOLF FACE,aBEAR FACE,aPANDA FACE,1aPAW PRINTS,aCHIPMUNK,aEYES,aEYE,1aNOSE",
  "aMOUTH,aTONGUE,4aFISTED HAND SIGN,1aOK HAND SIGN,aTHUMBS UP SIGN,bDOWN SIGN",
  "aCLAPPING HANDS SIGN,1aCROWN,1aEYEGLASSES,aNECKTIE,aT-SHIRT,aJEANS,aDRESS,aKIMONO,aBIKINI",
  "1aPURSE,aHANDBAG,aPOUCH,aMANS SHOE,aATHLETIC SHOE,aHIGH-HEELED SHOE,2aFOOTPRINTS",
  "aBUST IN SILHOUETTE,aBUSTS IN SILHOUETTE,aBOY,aGIRL,1aWOMAN,aFAMILY,4aWOMAN WITH BUNNY EARS",
  "aBRIDE WITH VEIL,6aCONSTRUCTION WORKER,aPRINCESS,2aGHOST,1aEXTRATERRESTRIAL ALIEN",
  "aALIEN MONSTER,aIMP,aSKULL,aINFORMATION DESK PERSON,aGUARDSMAN,aDANCER,aLIPSTICK",
  "aNAIL POLISH,1aHAIRCUT,aBARBER POLE,aSYRINGE,aPILL,aKISS MARK,aLOVE LETTER,1aGEM STONE",
  "aKISS,aBOUQUET,aCOUPLE WITH HEART,aWEDDING,aBEATING HEART,2aSPARKLING HEART,aGROWING HEART",
  "1aBLUE HEART,1aYELLOW HEART,aPURPLE HEART,1aREVOLVING HEARTS,3aANGER SYMBOL,aBOMB",
  "1aCOLLISION SYMBOL,aSPLASHING SWEAT SYMBOL,aDROPLET,aDASH SYMBOL,aPILE OF POO",
  "aFLEXED BICEPS,aDIZZY SYMBOL,aSPEECH BALLOON,aTHOUGHT BALLOON,1aHUNDRED POINTS SYMBOL",
  "aMONEY BAG,aCURRENCY EXCHANGE,1aCREDIT CARD,4aMONEY WITH WINGS,1aSEAT,aPERSONAL COMPUTER",
  "aBRIEFCASE,aMINIDISC,aFLOPPY DISK,aOPTICAL DISC,aDVD,aFILE FOLDER,3aCALENDAR",
  "aTEAR-OFF CALENDAR,3aBAR CHART,aCLIPBOARD,aPUSHPIN,aROUND PUSHPIN,aPAPERCLIP",
  "aSTRAIGHT RULER,1aBOOKMARK TABS,aLEDGER,aNOTEBOOK,bWITH DECORATIVE COVER,3aBLUE BOOK",
  "aORANGE BOOK,aBOOKS,aNAME BADGE,aSCROLL,aMEMO,1aPAGER,aFAX MACHINE,aSATELLITE ANTENNA",
  "aPUBLIC ADDRESS LOUDSPEAKER,aCHEERING MEGAPHONE,aOUTBOX TRAY,aINBOX TRAY,aPACKAGE",
  "aE-MAIL SYMBOL,aINCOMING ENVELOPE,5aPOSTBOX,1aNEWSPAPER,2aVIBRATION MODE",
  "2aANTENNA WITH BARS,aCAMERA,bWITH FLASH,aVIDEO CAMERA,aTELEVISION,aRADIO,aVIDEOCASSETTE",
  "aFILM PROJECTOR,aPORTABLE STEREO,aPRAYER BEADS,aTWISTED RIGHTWARDS ARROWS",
  "5aHIGH BRIGHTNESS SYMBOL,4aBATTERY,3aLOCK WITH INK PEN,1aKEY,aLOCK,3aBOOKMARK,aLINK SYMBOL",
  "aRADIO BUTTON,aBACK WITH LEFTWARDS ARROW ABOVE,aEND WITH LEFTWARDS ARROW ABOVE",
  "aON WITH EXCLAMATION MARK WITH LEFT RIGHT ARROW ABOVE,aSOON WITH RIGHTWARDS ARROW ABOVE",
  "2aKEYCAP TEN,7aWRENCH,1aNUT AND BOLT,aHOCHO,aPISTOL,aMICROSCOPE,aTELESCOPE,aCRYSTAL BALL",
  "2aTRIDENT EMBLEM,22aCELTIC CROSS,aOM SYMBOL,aDOVE OF PEACE,aKAABA,aMOSQUE,aSYNAGOGUE",
  "aMENORAH WITH NINE BRANCHES,aBOWL OF HYGIEIA,27aBULLHORN,bWITH SOUND WAVES,aRINGING BELL",
  "aBOOK,aCANDLE,aMANTELPIECE CLOCK,2aHOLE,1aSLEUTH OR SPY,aDARK SUNGLASSES,aSPIDER,bWEB",
  "aJOYSTICK,7aCLAMSHELL MOBILE PHONE,aBACK OF ENVELOPE,aSTAMPED ENVELOPE",
  "2aPEN OVER STAMPED ENVELOPE,aLINKED PAPERCLIPS,29aDESKTOP COMPUTER,aKEYBOARD AND MOUSE",
  "1aPRINTER,aPOCKET CALCULATOR,3aTAPE CARTRIDGE,aWIRED KEYBOARD,3aTRACKBALL,1aHARD DISK",
  "aSCREEN,aPRINTER ICON,aFAX ICON,aOPTICAL DISC ICON,7aFOLDER,3aFILE CABINET,11aPAGES",
  "aWASTEBASKET,2aDESKTOP WINDOW,aMINIMIZE,aMAXIMIZE,aOVERLAP,1aCANCELLATION X",
  "aINCREASE FONT SIZE SYMBOL,aDECREASE FONT SIZE SYMBOL,aCOMPRESSION,1aROLLED-UP NEWSPAPER",
  "1aSTOCK CHART,1aLIPS,aSPEAKING HEAD IN SILHOUETTE,12aMOOD BUBBLE,9aWORLD MAP,aMOUNT FUJI",
  "aTOKYO TOWER,aSTATUE OF LIBERTY,aSILHOUETTE OF JAPAN,aMOYAI,9aWINKING FACE,2aRELIEVED FACE",
  "2aSMIRKING FACE,1aEXPRESSIONLESS FACE,aUNAMUSED FACE,1aPENSIVE FACE,aCONFUSED FACE",
  "aCONFOUNDED FACE,7aDISAPPOINTED FACE,aWORRIED FACE,aANGRY FACE,aPOUTING FACE,aCRYING FACE",
  "aPERSEVERING FACE,1aDISAPPOINTED BUT RELIEVED FACE,aFROWNING FACE WITH OPEN MOUTH",
  "aANGUISHED FACE,aFEARFUL FACE,aWEARY FACE,aSLEEPY FACE,aTIRED FACE,aGRIMACING FACE",
  "aLOUDLY CRYING FACE,1aHUSHED FACE,2aASTONISHED FACE,aFLUSHED FACE,1aDIZZY FACE",
  "8aPOUTING CAT FACE,aCRYING CAT FACE,aWEARY CAT FACE,aSLIGHTLY FROWNING FACE,bSMILING FACE",
  "aUPSIDE-DOWN FACE,4aSEE-NO-EVIL MONKEY,aHEAR-NO-EVIL MONKEY,aSPEAK-NO-EVIL MONKEY",
  "aHAPPY PERSON RAISING ONE HAND,28aHOLLOW QUILT SQUARE ORNAMENT,eIN BLACK SQUARE",
  "aSOLID QUILT SQUARE ORNAMENT,eIN BLACK SQUARE,6aLIGATURE OPEN ET ORNAMENT",
  "2aSWASH AMPERSAND ORNAMENT,8aCHECKER BOARD,1aROCKET,aHELICOPTER,aSTEAM LOCOMOTIVE",
  "aRAILWAY CAR,aHIGH-SPEED TRAIN,cWITH BULLET NOSE,aTRAIN,aMETRO,1aSTATION,aTRAM,bCAR,aBUS",
  "1aTROLLEYBUS,aBUS STOP,aMINIBUS,aAMBULANCE,3aTAXI,1aAUTOMOBILE,1aRECREATIONAL VEHICLE",
  "aDELIVERY TRUCK,aARTICULATED LORRY,aTRACTOR,aMONORAIL,1aSUSPENSION RAILWAY,1aAERIAL TRAMWAY",
  "aSHIP,aROWBOAT,aSPEEDBOAT,2aCONSTRUCTION SIGN,2aDOOR,1aSMOKING SYMBOL",
  "1aPUT LITTER IN ITS PLACE SYMBOL,aDO NOT LITTER SYMBOL,aPOTABLE WATER SYMBOL",
  "aNON-POTABLE WATER SYMBOL,aBICYCLE,1aBICYCLIST,1aPEDESTRIAN,1aCHILDREN CROSSING",
  "aMENS SYMBOL,aWOMENS SYMBOL,aRESTROOM,1aTOILET,1aSHOWER,aBATH,aBATHTUB,aPASSPORT CONTROL",
  "aCUSTOMS,aBAGGAGE CLAIM,2aPROHIBITED SIGN,1aBOYS SYMBOL,aGIRLS SYMBOL,aCOUCH AND LAMP",
  "1aSHOPPING BAGS,aBELLHOP BELL,aBED,aPLACE OF WORSHIP,aOCTAGONAL SIGN,aSHOPPING TROLLEY",
  "aSTUPA,aPAGODA,aHINDU TEMPLE,aHUT,aELEVATOR,5aPLAYGROUND SLIDE,aWHEEL,2aSHIELD,aOIL DRUM",
  "aMOTORWAY,aRAILWAY TRACK,aMOTOR BOAT,4aNORTHEAST-POINTING AIRPLANE,5aSATELLITE",
  "1aDIESEL LOCOMOTIVE,aPASSENGER SHIP,aSCOOTER,aMOTOR SCOOTER,aCANOE,aSLED,1aSKATEBOARD",
  "aAUTO RICKSHAW,aPICKUP TRUCK,aROLLER SKATE,142aROUND TARGET,384aPINCHED FINGERS",
  "1aBROWN HEART,aPINCHING HAND,aZIPPER-MOUTH FACE,aMONEY-MOUTH FACE,1aNERD FACE",
  "aTHINKING FACE,1aROBOT FACE,aHUGGING FACE,aSIGN OF THE HORNS,aCALL ME HAND,3aHANDSHAKE",
  "aHAND WITH INDEX AND MIDDLE FINGERS CROSSED,aI LOVE YOU HAND SIGN,1aCLOWN FACE",
  "aNAUSEATED FACE,aROLLING ON THE FLOOR LAUGHING,aDROOLING FACE,aLYING FACE,1aSNEEZING FACE",
  "4aSERIOUS FACE WITH SYMBOLS COVERING MOUTH,2aSHOCKED FACE WITH EXPLODING HEAD",
  "1aBREAST-FEEDING,aPALMS UP TOGETHER,aSELFIE,aPRINCE,1aMOTHER CHRISTMAS,aSHRUG,1aJUGGLING",
  "aFENCER,aMODERN PENTATHLON,aWRESTLERS,1aHANDBALL,aDIVING MASK,aWILTED FLOWER",
  "aDRUM WITH DRUMSTICKS,aCLINKING GLASSES,aTUMBLER GLASS,aSPOON,aGOAL NET,aRIFLE",
  "1aSECOND PLACE MEDAL,aTHIRD PLACE MEDAL,aBOXING GLOVE,aMARTIAL ARTS UNIFORM,aCURLING STONE",
  "aLACROSSE STICK AND BALL,aSOFTBALL,1aCROISSANT,aAVOCADO,aCUCUMBER,aBACON,aPOTATO,aCARROT",
  "aBAGUETTE BREAD,1aSHALLOW PAN OF FOOD,aSTUFFED FLATBREAD,aEGG,aGLASS OF MILK,aPEANUTS",
  "aKIWIFRUIT,aPANCAKES,aDUMPLING,aFORTUNE COOKIE,aTAKEOUT BOX,aCHOPSTICKS,aBOWL WITH SPOON",
  "aCUP WITH STRAW,aCOCONUT,aBROCCOLI,aPIE,aPRETZEL,aCUT OF MEAT,aSANDWICH,aCANNED FOOD",
  "aLEAFY GREEN,aMANGO,aMOON CAKE,aBAGEL,1aYAWNING FACE,3aOVERHEATED FACE,aFREEZING FACE",
  "aNINJA,aDISGUISED FACE,2aSARI,aLAB COAT,aGOGGLES,aHIKING BOOT,aFLAT SHOE,aCRAB,aLION FACE",
  "aSCORPION,aTURKEY,aUNICORN FACE,aEAGLE,aDUCK,aBAT,aSHARK,aOWL,aFOX FACE,aBUTTERFLY,aDEER",
  "aGORILLA,aLIZARD,aRHINOCEROS,aSHRIMP,aSQUID,aGIRAFFE FACE,aZEBRA FACE,aHEDGEHOG,aSAUROPOD",
  "aT-REX,aCRICKET,aKANGAROO,aLLAMA,aPEACOCK,aHIPPOPOTAMUS,aPARROT,aRACCOON,aLOBSTER,aMOSQUITO",
  "aMICROBE,aBADGER,aSWAN,aMAMMOTH,aDODO,aSLOTH,aOTTER,aORANGUTAN,aSKUNK,aFLAMINGO,aOYSTER",
  "aBEAVER,aBISON,aSEAL,aGUIDE DOG,aPROBING CANE,4aBONE,aLEG,aFOOT,aTOOTH,aSUPERHERO",
  "aSUPERVILLAIN,aSAFETY VEST,1aMOTORIZED WHEELCHAIR,aMANUAL WHEELCHAIR,aMECHANICAL ARM,bLEG",
  "aCHEESE WEDGE,aCUPCAKE,aSALT SHAKER,aBEVERAGE BOX,aGARLIC,aONION,aFALAFEL,aWAFFLE,aBUTTER",
  "aMATE DRINK,1aBUBBLE TEA,aTROLL,aSTANDING PERSON,aKNEELING PERSON,aDEAF PERSON,1aADULT",
  "aCHILD,1aBEARDED PERSON,4aMAGE,aFAIRY,aVAMPIRE,aMERPERSON,aELF,aGENIE,aZOMBIE,aBRAIN",
  "aORANGE HEART,aBILLED CAP,aSCARF,aGLOVES,aCOAT,aSOCKS,aRED GIFT ENVELOPE,aFIRECRACKER",
  "aJIGSAW PUZZLE PIECE,aTEST TUBE,aPETRI DISH,aDNA DOUBLE HELIX,aCOMPASS,aABACUS,1aTOOLBOX",
  "aBRICK,aMAGNET,aLUGGAGE,aLOTION BOTTLE,aSPOOL OF THREAD,aBALL OF YARN,aSAFETY PIN",
  "aTEDDY BEAR,aBROOM,aBASKET,aROLL OF PAPER,aBAR OF SOAP,aSPONGE,aRECEIPT,aNAZAR AMULET",
  "112aBALLET SHOES,aONE-PIECE SWIMSUIT,aBRIEFS,aSHORTS,aTHONG SANDAL,3aDROP OF BLOOD",
  "aADHESIVE BANDAGE,aSTETHOSCOPE,aX-RAY,aCRUTCH,3aYO-YO,aKITE,aPARACHUTE,aBOOMERANG",
  "aMAGIC WAND,aPINATA,aNESTING DOLLS,9aRINGED PLANET,aCHAIR,aRAZOR,aAXE,aDIYA LAMP,aBANJO",
  "aMILITARY HELMET,aACCORDION,1aCOIN,aCARPENTRY SAW,aSCREWDRIVER,aLADDER,aHOOK,aMIRROR",
  "aWINDOW,aPLUNGER,aSEWING NEEDLE,aKNOT,aBUCKET,1aTOOTHBRUSH,aHEADSTONE,aPLACARD,aROCK",
  "aMIRROR BALL,aIDENTIFICATION CARD,1aHAMSA,3aFLY,aWORM,aBEETLE,aCOCKROACH,aPOTTED PLANT",
  "aWOOD,aFEATHER,aLOTUS,aCORAL,1aNEST WITH EGGS,5aANATOMICAL HEART,aLUNGS,aPEOPLE HUGGING",
  "13aBLUEBERRIES,1aOLIVE,aFLATBREAD,aTAMALE,aFONDUE,aTEAPOT,aPOURING LIQUID,aBEANS,aJAR",
  "6aMELTING FACE,aSALUTING FACE,4aBITING LIP,aBUBBLES",
  "8aHAND WITH INDEX FINGER AND THUMB CROSSED,4aINDEX POINTING AT THE VIEWER",
  "159aCHECKER BOARD FILL,26aARROWHEAD-SHAPED POINTER,10aVOIDED GREEK CROSS",
  "6aMIDDLE THIRD WHITE RIGHT POINTING INDEX,787518aLANGUAGE TAG,125aCANCEL TAG"]

/-- Second names, each with the number of its character. -/
def aliases : List String := [
  "NUL=0,NULL=0,SOH=1,START OF HEADING=1,START OF TEXT=2,STX=2,END OF TEXT=3,ETX=3",
  "END OF TRANSMISSION=4,EOT=4,ENQ=5,ENQUIRY=5,ACK=6,ACKNOWLEDGE=6,ALERT=7,BEL=7,BACKSPACE=8",
  "BS=8,CHARACTER TABULATION=9,HORIZONTAL TABULATION=9,HT=9,TAB=9,END OF LINE=A,EOL=A,LF=A",
  "LINE FEED=A,NEW LINE=A,NL=A,LINE TABULATION=B,VERTICAL TABULATION=B,VT=B,FF=C,FORM FEED=C",
  "CARRIAGE RETURN=D,CR=D,LOCKING-SHIFT ONE=E,SHIFT OUT=E,SO=E,LOCKING-SHIFT ZERO=F,SHIFT IN=F",
  "SI=F,DATA LINK ESCAPE=10,DLE=10,DC1=11,DEVICE CONTROL ONE=11,DC2=12,DEVICE CONTROL TWO=12",
  "DC3=13,DEVICE CONTROL THREE=13,DC4=14,DEVICE CONTROL FOUR=14,NAK=15,NEGATIVE ACKNOWLEDGE=15",
  "SYN=16,SYNCHRONOUS IDLE=16,END OF TRANSMISSION BLOCK=17,ETB=17,CAN=18,CANCEL=18",
  "END OF MEDIUM=19,EOM=19,SUB=1A,SUBSTITUTE=1A,ESC=1B,ESCAPE=1B,FILE SEPARATOR=1C,FS=1C",
  "INFORMATION SEPARATOR FOUR=1C,GROUP SEPARATOR=1D,GS=1D,INFORMATION SEPARATOR THREE=1D",
  "INFORMATION SEPARATOR TWO=1E,RECORD SEPARATOR=1E,RS=1E,INFORMATION SEPARATOR ONE=1F",
  "UNIT SEPARATOR=1F,US=1F,SP=20,DEL=7F,DELETE=7F,PAD=80,PADDING CHARACTER=80",
  "HIGH OCTET PRESET=81,HOP=81,BPH=82,BREAK PERMITTED HERE=82,NBH=83,NO BREAK HERE=83,IND=84",
  "INDEX=84,NEL=85,NEXT LINE=85,SSA=86,START OF SELECTED AREA=86,END OF SELECTED AREA=87",
  "ESA=87,CHARACTER TABULATION SET=88,HORIZONTAL TABULATION SET=88,HTS=88",
  "CHARACTER TABULATION WITH JUSTIFICATION=89,HORIZONTAL TABULATION WITH JUSTIFICATION=89",
  "HTJ=89,LINE TABULATION SET=8A,VERTICAL TABULATION SET=8A,VTS=8A,PARTIAL LINE DOWN=8B",
  "PARTIAL LINE FORWARD=8B,PLD=8B,PARTIAL LINE BACKWARD=8C,PARTIAL LINE UP=8C,PLU=8C",
  "REVERSE INDEX=8D,REVERSE LINE FEED=8D,RI=8D,SINGLE SHIFT TWO=8E,SINGLE-SHIFT-2=8E,SS2=8E",
  "SINGLE SHIFT THREE=8F,SINGLE-SHIFT-3=8F,SS3=8F,DCS=90,DEVICE CONTROL STRING=90",
  "PRIVATE USE ONE=91,PRIVATE USE-1=91,PU1=91,PRIVATE USE TWO=92,PRIVATE USE-2=92,PU2=92",
  "SET TRANSMIT STATE=93,STS=93,CANCEL CHARACTER=94,CCH=94,MESSAGE WAITING=95,MW=95,SPA=96",
  "START OF GUARDED AREA=96,START OF PROTECTED AREA=96,END OF GUARDED AREA=97",
  "END OF PROTECTED AREA=97,EPA=97,SOS=98,START OF STRING=98,SGC=99",
  "SINGLE GRAPHIC CHARACTER INTRODUCER=99,SCI=9A,SINGLE CHARACTER INTRODUCER=9A",
  "CONTROL SEQUENCE INTRODUCER=9B,CSI=9B,ST=9C,STRING TERMINATOR=9C",
  "OPERATING SYSTEM COMMAND=9D,OSC=9D,PM=9E,PRIVACY MESSAGE=9E,APC=9F",
  "APPLICATION PROGRAM COMMAND=9F,NBSP=A0,SHY=AD,LATIN CAPITAL LETTER GHA=1A2",
  "LATIN SMALL LETTER GHA=1A3,CGJ=34F,ALM=61C,SYRIAC SUBLINEAR COLON SKEWED LEFT=709",
  "KANNADA LETTER LLLA=CDE,LAO LETTER FO FON=E9D,LAO LETTER FO FAY=E9F,LAO LETTER RO=EA3",
  "LAO LETTER LO=EA5,TIBETAN MARK BKA- SHOG GI MGO RGYAN=FD0",
  "HANGUL JONGSEONG YESIEUNG-KIYEOK=11EC,HANGUL JONGSEONG YESIEUNG-SSANGKIYEOK=11ED",
  "HANGUL JONGSEONG SSANGYESIEUNG=11EE,HANGUL JONGSEONG YESIEUNG-KHIEUKH=11EF,FVS1=180B",
  "FVS2=180C,FVS3=180D,MVS=180E,FVS4=180F,ZWSP=200B,ZWNJ=200C,ZWJ=200D,LRM=200E,RLM=200F",
  "LRE=202A,RLE=202B,PDF=202C,LRO=202D,RLO=202E,NNBSP=202F,MMSP=205F,WJ=2060,LRI=2066,RLI=2067",
  "FSI=2068,PDI=2069,WEIERSTRASS ELLIPTIC FUNCTION=2118,MICR ON US SYMBOL=2448",
  "MICR DASH SYMBOL=2449,LEFTWARDS TRIANGLE-HEADED ARROW WITH DOUBLE VERTICAL STROKE=2B7A",
  "RIGHTWARDS TRIANGLE-HEADED ARROW WITH DOUBLE VERTICAL STROKE=2B7C",
  "YI SYLLABLE ITERATION MARK=A015,MYANMAR LETTER KHAMTI LLA=AA6E",
  "PRESENTATION FORM FOR VERTICAL RIGHT WHITE LENTICULAR BRACKET=FE18,BOM=FEFF",
  "BYTE ORDER MARK=FEFF,ZWNBSP=FEFF,CUNEIFORM SIGN NU11 TENU=122D4",
  "CUNEIFORM SIGN NU11 OVER NU11 BUR OVER BUR=122D5,MEDEFAIDRIN CAPITAL LETTER H=16E56",
  "MEDEFAIDRIN CAPITAL LETTER NG=16E57,MEDEFAIDRIN SMALL LETTER H=16E76",
  "MEDEFAIDRIN SMALL LETTER NG=16E77,HENTAIGANA LETTER E-1=1B001",
  "BYZANTINE MUSICAL SYMBOL FTHORA SKLIRON CHROMA VASIS=1D0C5"]

end Phrasebook.CharName
