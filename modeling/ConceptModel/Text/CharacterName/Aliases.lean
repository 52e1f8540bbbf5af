import ConceptModel.Text.CharacterName.Run

/-!
# Further names of characters

The names that characters have beside their own: those of control characters,
abbreviations and corrected spellings.
-/

namespace ConceptModel.Text

/-- The further names of characters, a character once for each of them. -/
def aliasNames : List NameRun :=
  [⟨0x0, "", [
     "NULL,START OF HEADING,START OF TEXT,END OF TEXT,END OF TRANSMISSION,ENQUIRY,ACKNOWLEDGE",
     "ALERT,BACKSPACE,CHARACTER TABULATION,LINE FEED,LINE TABULATION,FORM FEED,CARRIAGE RETURN",
     "SHIFT OUT,SHIFT IN,DATA LINK ESCAPE"]⟩,
   ⟨0x11, "DEVICE CONTROL ", ["ONE,TWO,THREE,FOUR"]⟩,
   ⟨0x15, "", [
     "NEGATIVE ACKNOWLEDGE,SYNCHRONOUS IDLE,END OF TRANSMISSION BLOCK,CANCEL,END OF MEDIUM",
     "SUBSTITUTE,ESCAPE"]⟩,
   ⟨0x1C, "INFORMATION SEPARATOR ", ["FOUR,THREE,TWO,ONE"]⟩, ⟨0x20, "SP", [""]⟩,
   ⟨0x7F, "", [
     "DELETE,PADDING CHARACTER,HIGH OCTET PRESET,BREAK PERMITTED HERE,NO BREAK HERE,INDEX",
     "NEXT LINE,START OF SELECTED AREA,END OF SELECTED AREA,CHARACTER TABULATION SET",
     "CHARACTER TABULATION WITH JUSTIFICATION,LINE TABULATION SET,PARTIAL LINE FORWARD",
     "PARTIAL LINE BACKWARD,REVERSE LINE FEED,SINGLE SHIFT TWO,SINGLE SHIFT THREE",
     "DEVICE CONTROL STRING,PRIVATE USE ONE,PRIVATE USE TWO,SET TRANSMIT STATE,CANCEL CHARACTER",
     "MESSAGE WAITING,START OF GUARDED AREA,END OF GUARDED AREA,START OF STRING",
     "SINGLE GRAPHIC CHARACTER INTRODUCER,SINGLE CHARACTER INTRODUCER",
     "CONTROL SEQUENCE INTRODUCER,STRING TERMINATOR,OPERATING SYSTEM COMMAND,PRIVACY MESSAGE",
     "APPLICATION PROGRAM COMMAND,NBSP"]⟩,
   ⟨0xAD, "SHY", [""]⟩, ⟨0x1A2, "LATIN ", ["CAPITAL LETTER GHA,SMALL LETTER GHA"]⟩,
   ⟨0x34F, "CGJ", [""]⟩, ⟨0x61C, "ALM", [""]⟩, ⟨0x709, "SYRIAC SUBLINEAR COLON SKEWED LEFT", [""]⟩,
   ⟨0xCDE, "KANNADA LETTER LLLA", [""]⟩, ⟨0xE9D, "LAO LETTER FO FON", [""]⟩,
   ⟨0xE9F, "LAO LETTER FO FAY", [""]⟩, ⟨0xEA3, "LAO LETTER RO", [""]⟩,
   ⟨0xEA5, "LAO LETTER LO", [""]⟩, ⟨0xFD0, "TIBETAN MARK BKA- SHOG GI MGO RGYAN", [""]⟩,
   ⟨0x11EC, "HANGUL JONGSEONG ", [
     "YESIEUNG-KIYEOK,YESIEUNG-SSANGKIYEOK,SSANGYESIEUNG,YESIEUNG-KHIEUKH"]⟩,
   ⟨0x180B, "", ["FVS1,FVS2,FVS3,MVS,FVS4"]⟩, ⟨0x200B, "", ["ZWSP,ZWNJ,ZWJ,LRM,RLM"]⟩,
   ⟨0x202A, "", ["LRE,RLE,PDF,LRO,RLO,NNBSP"]⟩, ⟨0x205F, "", ["MMSP,WJ"]⟩,
   ⟨0x2066, "", ["LRI,RLI,FSI,PDI"]⟩, ⟨0x2118, "WEIERSTRASS ELLIPTIC FUNCTION", [""]⟩,
   ⟨0x2448, "MICR ", ["ON US SYMBOL,DASH SYMBOL"]⟩,
   ⟨0x2B7A, "LEFTWARDS TRIANGLE-HEADED ARROW WITH DOUBLE VERTICAL STROKE", [""]⟩,
   ⟨0x2B7C, "RIGHTWARDS TRIANGLE-HEADED ARROW WITH DOUBLE VERTICAL STROKE", [""]⟩,
   ⟨0xA015, "YI SYLLABLE ITERATION MARK", [""]⟩, ⟨0xAA6E, "MYANMAR LETTER KHAMTI LLA", [""]⟩,
   ⟨0xFE18, "PRESENTATION FORM FOR VERTICAL RIGHT WHITE LENTICULAR BRACKET", [""]⟩,
   ⟨0xFEFF, "BYTE ORDER MARK", [""]⟩,
   ⟨0x122D4, "CUNEIFORM SIGN NU11 ", ["TENU,OVER NU11 BUR OVER BUR"]⟩,
   ⟨0x16E56, "MEDEFAIDRIN CAPITAL LETTER ", ["H,NG"]⟩,
   ⟨0x16E76, "MEDEFAIDRIN SMALL LETTER ", ["H,NG"]⟩, ⟨0x1B001, "HENTAIGANA LETTER E-1", [""]⟩,
   ⟨0x1D0C5, "BYZANTINE MUSICAL SYMBOL FTHORA SKLIRON CHROMA VASIS", [""]⟩,
   ⟨0x0, "", [
     "NUL,SOH,STX,ETX,EOT,ENQ,ACK,BEL,BS,HORIZONTAL TABULATION,NEW LINE,VERTICAL TABULATION,FF",
     "CR,LOCKING-SHIFT ONE,LOCKING-SHIFT ZERO,DLE,DC1,DC2,DC3,DC4,NAK,SYN,ETB,CAN,EOM,SUB,ESC",
     "FILE SEPARATOR,GROUP SEPARATOR,RECORD SEPARATOR,UNIT SEPARATOR"]⟩,
   ⟨0x7F, "", [
     "DEL,PAD,HOP,BPH,NBH,IND,NEL,SSA,ESA,HORIZONTAL TABULATION SET",
     "HORIZONTAL TABULATION WITH JUSTIFICATION,VERTICAL TABULATION SET,PARTIAL LINE DOWN",
     "PARTIAL LINE UP,REVERSE INDEX,SINGLE-SHIFT-2,SINGLE-SHIFT-3,DCS,PRIVATE USE-1",
     "PRIVATE USE-2,STS,CCH,MW,START OF PROTECTED AREA,END OF PROTECTED AREA,SOS,SGC,SCI,CSI,ST",
     "OSC,PM,APC"]⟩,
   ⟨0xFEFF, "BOM", [""]⟩, ⟨0x9, "", ["HT,END OF LINE,VT"]⟩, ⟨0xE, "", ["SO,SI"]⟩,
   ⟨0x1C, "", ["FS,GS,RS,US"]⟩, ⟨0x88, "", ["HTS,HTJ,VTS,PLD,PLU,RI,SS2,SS3"]⟩,
   ⟨0x91, "", ["PU1,PU2"]⟩, ⟨0x96, "", ["SPA,EPA"]⟩, ⟨0xFEFF, "ZWNBSP", [""]⟩,
   ⟨0x9, "", ["TAB,LF"]⟩, ⟨0xA, "NL", [""]⟩, ⟨0xA, "EOL", [""]⟩]

end ConceptModel.Text
