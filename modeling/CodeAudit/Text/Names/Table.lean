/-
  CodeAudit.Text.Names.Table
  ──────────────────────────
  **NAMES OF CHARACTERS.**

  Code points and names of the character database, for the scripts and
  symbols that programs write by name.
-/

namespace CodeAudit.Text.Names.Table

/-- Entries `41 LATIN CAPITAL LETTER A`, divided by semicolons. -/
def names : List String :=
  ["20 SPACE; 21 EXCLAMATION MARK; 22 QUOTATION MARK; 23 NUMBER SIGN; 24 DOLLAR SIGN",
   "25 PERCENT SIGN; 26 AMPERSAND; 27 APOSTROPHE; 28 LEFT PARENTHESIS; 29 RIGHT PARENTHESIS",
   "2A ASTERISK; 2B PLUS SIGN; 2C COMMA; 2D HYPHEN-MINUS; 2E FULL STOP; 2F SOLIDUS",
   "30 DIGIT ZERO; 31 DIGIT ONE; 32 DIGIT TWO; 33 DIGIT THREE; 34 DIGIT FOUR; 35 DIGIT FIVE",
   "36 DIGIT SIX; 37 DIGIT SEVEN; 38 DIGIT EIGHT; 39 DIGIT NINE; 3A COLON; 3B SEMICOLON",
   "3C LESS-THAN SIGN; 3D EQUALS SIGN; 3E GREATER-THAN SIGN; 3F QUESTION MARK",
   "40 COMMERCIAL AT; 41 LATIN CAPITAL LETTER A; 42 LATIN CAPITAL LETTER B",
   "43 LATIN CAPITAL LETTER C; 44 LATIN CAPITAL LETTER D; 45 LATIN CAPITAL LETTER E",
   "46 LATIN CAPITAL LETTER F; 47 LATIN CAPITAL LETTER G; 48 LATIN CAPITAL LETTER H",
   "49 LATIN CAPITAL LETTER I; 4A LATIN CAPITAL LETTER J; 4B LATIN CAPITAL LETTER K",
   "4C LATIN CAPITAL LETTER L; 4D LATIN CAPITAL LETTER M; 4E LATIN CAPITAL LETTER N",
   "4F LATIN CAPITAL LETTER O; 50 LATIN CAPITAL LETTER P; 51 LATIN CAPITAL LETTER Q",
   "52 LATIN CAPITAL LETTER R; 53 LATIN CAPITAL LETTER S; 54 LATIN CAPITAL LETTER T",
   "55 LATIN CAPITAL LETTER U; 56 LATIN CAPITAL LETTER V; 57 LATIN CAPITAL LETTER W",
   "58 LATIN CAPITAL LETTER X; 59 LATIN CAPITAL LETTER Y; 5A LATIN CAPITAL LETTER Z",
   "5B LEFT SQUARE BRACKET; 5C REVERSE SOLIDUS; 5D RIGHT SQUARE BRACKET; 5E CIRCUMFLEX ACCENT",
   "5F LOW LINE; 60 GRAVE ACCENT; 61 LATIN SMALL LETTER A; 62 LATIN SMALL LETTER B",
   "63 LATIN SMALL LETTER C; 64 LATIN SMALL LETTER D; 65 LATIN SMALL LETTER E",
   "66 LATIN SMALL LETTER F; 67 LATIN SMALL LETTER G; 68 LATIN SMALL LETTER H",
   "69 LATIN SMALL LETTER I; 6A LATIN SMALL LETTER J; 6B LATIN SMALL LETTER K",
   "6C LATIN SMALL LETTER L; 6D LATIN SMALL LETTER M; 6E LATIN SMALL LETTER N",
   "6F LATIN SMALL LETTER O; 70 LATIN SMALL LETTER P; 71 LATIN SMALL LETTER Q",
   "72 LATIN SMALL LETTER R; 73 LATIN SMALL LETTER S; 74 LATIN SMALL LETTER T",
   "75 LATIN SMALL LETTER U; 76 LATIN SMALL LETTER V; 77 LATIN SMALL LETTER W",
   "78 LATIN SMALL LETTER X; 79 LATIN SMALL LETTER Y; 7A LATIN SMALL LETTER Z",
   "7B LEFT CURLY BRACKET; 7C VERTICAL LINE; 7D RIGHT CURLY BRACKET; 7E TILDE",
   "A0 NO-BREAK SPACE; A1 INVERTED EXCLAMATION MARK; A2 CENT SIGN; A3 POUND SIGN",
   "A4 CURRENCY SIGN; A5 YEN SIGN; A6 BROKEN BAR; A7 SECTION SIGN; A8 DIAERESIS",
   "A9 COPYRIGHT SIGN; AA FEMININE ORDINAL INDICATOR",
   "AB LEFT-POINTING DOUBLE ANGLE QUOTATION MARK; AC NOT SIGN; AD SOFT HYPHEN",
   "AE REGISTERED SIGN; AF MACRON; B0 DEGREE SIGN; B1 PLUS-MINUS SIGN; B2 SUPERSCRIPT TWO",
   "B3 SUPERSCRIPT THREE; B4 ACUTE ACCENT; B5 MICRO SIGN; B6 PILCROW SIGN; B7 MIDDLE DOT",
   "B8 CEDILLA; B9 SUPERSCRIPT ONE; BA MASCULINE ORDINAL INDICATOR",
   "BB RIGHT-POINTING DOUBLE ANGLE QUOTATION MARK; BC VULGAR FRACTION ONE QUARTER",
   "BD VULGAR FRACTION ONE HALF; BE VULGAR FRACTION THREE QUARTERS; BF INVERTED QUESTION MARK",
   "C0 LATIN CAPITAL LETTER A WITH GRAVE; C1 LATIN CAPITAL LETTER A WITH ACUTE",
   "C2 LATIN CAPITAL LETTER A WITH CIRCUMFLEX; C3 LATIN CAPITAL LETTER A WITH TILDE",
   "C4 LATIN CAPITAL LETTER A WITH DIAERESIS; C5 LATIN CAPITAL LETTER A WITH RING ABOVE",
   "C6 LATIN CAPITAL LETTER AE; C7 LATIN CAPITAL LETTER C WITH CEDILLA",
   "C8 LATIN CAPITAL LETTER E WITH GRAVE; C9 LATIN CAPITAL LETTER E WITH ACUTE",
   "CA LATIN CAPITAL LETTER E WITH CIRCUMFLEX; CB LATIN CAPITAL LETTER E WITH DIAERESIS",
   "CC LATIN CAPITAL LETTER I WITH GRAVE; CD LATIN CAPITAL LETTER I WITH ACUTE",
   "CE LATIN CAPITAL LETTER I WITH CIRCUMFLEX; CF LATIN CAPITAL LETTER I WITH DIAERESIS",
   "D0 LATIN CAPITAL LETTER ETH; D1 LATIN CAPITAL LETTER N WITH TILDE",
   "D2 LATIN CAPITAL LETTER O WITH GRAVE; D3 LATIN CAPITAL LETTER O WITH ACUTE",
   "D4 LATIN CAPITAL LETTER O WITH CIRCUMFLEX; D5 LATIN CAPITAL LETTER O WITH TILDE",
   "D6 LATIN CAPITAL LETTER O WITH DIAERESIS; D7 MULTIPLICATION SIGN",
   "D8 LATIN CAPITAL LETTER O WITH STROKE; D9 LATIN CAPITAL LETTER U WITH GRAVE",
   "DA LATIN CAPITAL LETTER U WITH ACUTE; DB LATIN CAPITAL LETTER U WITH CIRCUMFLEX",
   "DC LATIN CAPITAL LETTER U WITH DIAERESIS; DD LATIN CAPITAL LETTER Y WITH ACUTE",
   "DE LATIN CAPITAL LETTER THORN; DF LATIN SMALL LETTER SHARP S",
   "E0 LATIN SMALL LETTER A WITH GRAVE; E1 LATIN SMALL LETTER A WITH ACUTE",
   "E2 LATIN SMALL LETTER A WITH CIRCUMFLEX; E3 LATIN SMALL LETTER A WITH TILDE",
   "E4 LATIN SMALL LETTER A WITH DIAERESIS; E5 LATIN SMALL LETTER A WITH RING ABOVE",
   "E6 LATIN SMALL LETTER AE; E7 LATIN SMALL LETTER C WITH CEDILLA",
   "E8 LATIN SMALL LETTER E WITH GRAVE; E9 LATIN SMALL LETTER E WITH ACUTE",
   "EA LATIN SMALL LETTER E WITH CIRCUMFLEX; EB LATIN SMALL LETTER E WITH DIAERESIS",
   "EC LATIN SMALL LETTER I WITH GRAVE; ED LATIN SMALL LETTER I WITH ACUTE",
   "EE LATIN SMALL LETTER I WITH CIRCUMFLEX; EF LATIN SMALL LETTER I WITH DIAERESIS",
   "F0 LATIN SMALL LETTER ETH; F1 LATIN SMALL LETTER N WITH TILDE",
   "F2 LATIN SMALL LETTER O WITH GRAVE; F3 LATIN SMALL LETTER O WITH ACUTE",
   "F4 LATIN SMALL LETTER O WITH CIRCUMFLEX; F5 LATIN SMALL LETTER O WITH TILDE",
   "F6 LATIN SMALL LETTER O WITH DIAERESIS; F7 DIVISION SIGN",
   "F8 LATIN SMALL LETTER O WITH STROKE; F9 LATIN SMALL LETTER U WITH GRAVE",
   "FA LATIN SMALL LETTER U WITH ACUTE; FB LATIN SMALL LETTER U WITH CIRCUMFLEX",
   "FC LATIN SMALL LETTER U WITH DIAERESIS; FD LATIN SMALL LETTER Y WITH ACUTE",
   "FE LATIN SMALL LETTER THORN; FF LATIN SMALL LETTER Y WITH DIAERESIS",
   "100 LATIN CAPITAL LETTER A WITH MACRON; 101 LATIN SMALL LETTER A WITH MACRON",
   "102 LATIN CAPITAL LETTER A WITH BREVE; 103 LATIN SMALL LETTER A WITH BREVE",
   "104 LATIN CAPITAL LETTER A WITH OGONEK; 105 LATIN SMALL LETTER A WITH OGONEK",
   "106 LATIN CAPITAL LETTER C WITH ACUTE; 107 LATIN SMALL LETTER C WITH ACUTE",
   "108 LATIN CAPITAL LETTER C WITH CIRCUMFLEX; 109 LATIN SMALL LETTER C WITH CIRCUMFLEX",
   "10A LATIN CAPITAL LETTER C WITH DOT ABOVE; 10B LATIN SMALL LETTER C WITH DOT ABOVE",
   "10C LATIN CAPITAL LETTER C WITH CARON; 10D LATIN SMALL LETTER C WITH CARON",
   "10E LATIN CAPITAL LETTER D WITH CARON; 10F LATIN SMALL LETTER D WITH CARON",
   "110 LATIN CAPITAL LETTER D WITH STROKE; 111 LATIN SMALL LETTER D WITH STROKE",
   "112 LATIN CAPITAL LETTER E WITH MACRON; 113 LATIN SMALL LETTER E WITH MACRON",
   "114 LATIN CAPITAL LETTER E WITH BREVE; 115 LATIN SMALL LETTER E WITH BREVE",
   "116 LATIN CAPITAL LETTER E WITH DOT ABOVE; 117 LATIN SMALL LETTER E WITH DOT ABOVE",
   "118 LATIN CAPITAL LETTER E WITH OGONEK; 119 LATIN SMALL LETTER E WITH OGONEK",
   "11A LATIN CAPITAL LETTER E WITH CARON; 11B LATIN SMALL LETTER E WITH CARON",
   "11C LATIN CAPITAL LETTER G WITH CIRCUMFLEX; 11D LATIN SMALL LETTER G WITH CIRCUMFLEX",
   "11E LATIN CAPITAL LETTER G WITH BREVE; 11F LATIN SMALL LETTER G WITH BREVE",
   "120 LATIN CAPITAL LETTER G WITH DOT ABOVE; 121 LATIN SMALL LETTER G WITH DOT ABOVE",
   "122 LATIN CAPITAL LETTER G WITH CEDILLA; 123 LATIN SMALL LETTER G WITH CEDILLA",
   "124 LATIN CAPITAL LETTER H WITH CIRCUMFLEX; 125 LATIN SMALL LETTER H WITH CIRCUMFLEX",
   "126 LATIN CAPITAL LETTER H WITH STROKE; 127 LATIN SMALL LETTER H WITH STROKE",
   "128 LATIN CAPITAL LETTER I WITH TILDE; 129 LATIN SMALL LETTER I WITH TILDE",
   "12A LATIN CAPITAL LETTER I WITH MACRON; 12B LATIN SMALL LETTER I WITH MACRON",
   "12C LATIN CAPITAL LETTER I WITH BREVE; 12D LATIN SMALL LETTER I WITH BREVE",
   "12E LATIN CAPITAL LETTER I WITH OGONEK; 12F LATIN SMALL LETTER I WITH OGONEK",
   "130 LATIN CAPITAL LETTER I WITH DOT ABOVE; 131 LATIN SMALL LETTER DOTLESS I",
   "132 LATIN CAPITAL LIGATURE IJ; 133 LATIN SMALL LIGATURE IJ",
   "134 LATIN CAPITAL LETTER J WITH CIRCUMFLEX; 135 LATIN SMALL LETTER J WITH CIRCUMFLEX",
   "136 LATIN CAPITAL LETTER K WITH CEDILLA; 137 LATIN SMALL LETTER K WITH CEDILLA",
   "138 LATIN SMALL LETTER KRA; 139 LATIN CAPITAL LETTER L WITH ACUTE",
   "13A LATIN SMALL LETTER L WITH ACUTE; 13B LATIN CAPITAL LETTER L WITH CEDILLA",
   "13C LATIN SMALL LETTER L WITH CEDILLA; 13D LATIN CAPITAL LETTER L WITH CARON",
   "13E LATIN SMALL LETTER L WITH CARON; 13F LATIN CAPITAL LETTER L WITH MIDDLE DOT",
   "140 LATIN SMALL LETTER L WITH MIDDLE DOT; 141 LATIN CAPITAL LETTER L WITH STROKE",
   "142 LATIN SMALL LETTER L WITH STROKE; 143 LATIN CAPITAL LETTER N WITH ACUTE",
   "144 LATIN SMALL LETTER N WITH ACUTE; 145 LATIN CAPITAL LETTER N WITH CEDILLA",
   "146 LATIN SMALL LETTER N WITH CEDILLA; 147 LATIN CAPITAL LETTER N WITH CARON",
   "148 LATIN SMALL LETTER N WITH CARON; 149 LATIN SMALL LETTER N PRECEDED BY APOSTROPHE",
   "14A LATIN CAPITAL LETTER ENG; 14B LATIN SMALL LETTER ENG",
   "14C LATIN CAPITAL LETTER O WITH MACRON; 14D LATIN SMALL LETTER O WITH MACRON",
   "14E LATIN CAPITAL LETTER O WITH BREVE; 14F LATIN SMALL LETTER O WITH BREVE",
   "150 LATIN CAPITAL LETTER O WITH DOUBLE ACUTE; 151 LATIN SMALL LETTER O WITH DOUBLE ACUTE",
   "152 LATIN CAPITAL LIGATURE OE; 153 LATIN SMALL LIGATURE OE",
   "154 LATIN CAPITAL LETTER R WITH ACUTE; 155 LATIN SMALL LETTER R WITH ACUTE",
   "156 LATIN CAPITAL LETTER R WITH CEDILLA; 157 LATIN SMALL LETTER R WITH CEDILLA",
   "158 LATIN CAPITAL LETTER R WITH CARON; 159 LATIN SMALL LETTER R WITH CARON",
   "15A LATIN CAPITAL LETTER S WITH ACUTE; 15B LATIN SMALL LETTER S WITH ACUTE",
   "15C LATIN CAPITAL LETTER S WITH CIRCUMFLEX; 15D LATIN SMALL LETTER S WITH CIRCUMFLEX",
   "15E LATIN CAPITAL LETTER S WITH CEDILLA; 15F LATIN SMALL LETTER S WITH CEDILLA",
   "160 LATIN CAPITAL LETTER S WITH CARON; 161 LATIN SMALL LETTER S WITH CARON",
   "162 LATIN CAPITAL LETTER T WITH CEDILLA; 163 LATIN SMALL LETTER T WITH CEDILLA",
   "164 LATIN CAPITAL LETTER T WITH CARON; 165 LATIN SMALL LETTER T WITH CARON",
   "166 LATIN CAPITAL LETTER T WITH STROKE; 167 LATIN SMALL LETTER T WITH STROKE",
   "168 LATIN CAPITAL LETTER U WITH TILDE; 169 LATIN SMALL LETTER U WITH TILDE",
   "16A LATIN CAPITAL LETTER U WITH MACRON; 16B LATIN SMALL LETTER U WITH MACRON",
   "16C LATIN CAPITAL LETTER U WITH BREVE; 16D LATIN SMALL LETTER U WITH BREVE",
   "16E LATIN CAPITAL LETTER U WITH RING ABOVE; 16F LATIN SMALL LETTER U WITH RING ABOVE",
   "170 LATIN CAPITAL LETTER U WITH DOUBLE ACUTE; 171 LATIN SMALL LETTER U WITH DOUBLE ACUTE",
   "172 LATIN CAPITAL LETTER U WITH OGONEK; 173 LATIN SMALL LETTER U WITH OGONEK",
   "174 LATIN CAPITAL LETTER W WITH CIRCUMFLEX; 175 LATIN SMALL LETTER W WITH CIRCUMFLEX",
   "176 LATIN CAPITAL LETTER Y WITH CIRCUMFLEX; 177 LATIN SMALL LETTER Y WITH CIRCUMFLEX",
   "178 LATIN CAPITAL LETTER Y WITH DIAERESIS; 179 LATIN CAPITAL LETTER Z WITH ACUTE",
   "17A LATIN SMALL LETTER Z WITH ACUTE; 17B LATIN CAPITAL LETTER Z WITH DOT ABOVE",
   "17C LATIN SMALL LETTER Z WITH DOT ABOVE; 17D LATIN CAPITAL LETTER Z WITH CARON",
   "17E LATIN SMALL LETTER Z WITH CARON; 17F LATIN SMALL LETTER LONG S",
   "391 GREEK CAPITAL LETTER ALPHA; 392 GREEK CAPITAL LETTER BETA",
   "393 GREEK CAPITAL LETTER GAMMA; 394 GREEK CAPITAL LETTER DELTA",
   "395 GREEK CAPITAL LETTER EPSILON; 396 GREEK CAPITAL LETTER ZETA",
   "397 GREEK CAPITAL LETTER ETA; 398 GREEK CAPITAL LETTER THETA",
   "399 GREEK CAPITAL LETTER IOTA; 39A GREEK CAPITAL LETTER KAPPA",
   "39B GREEK CAPITAL LETTER LAMDA; 39C GREEK CAPITAL LETTER MU; 39D GREEK CAPITAL LETTER NU",
   "39E GREEK CAPITAL LETTER XI; 39F GREEK CAPITAL LETTER OMICRON; 3A0 GREEK CAPITAL LETTER PI",
   "3A1 GREEK CAPITAL LETTER RHO; 3A3 GREEK CAPITAL LETTER SIGMA; 3A4 GREEK CAPITAL LETTER TAU",
   "3A5 GREEK CAPITAL LETTER UPSILON; 3A6 GREEK CAPITAL LETTER PHI",
   "3A7 GREEK CAPITAL LETTER CHI; 3A8 GREEK CAPITAL LETTER PSI; 3A9 GREEK CAPITAL LETTER OMEGA",
   "3AA GREEK CAPITAL LETTER IOTA WITH DIALYTIKA",
   "3AB GREEK CAPITAL LETTER UPSILON WITH DIALYTIKA; 3AC GREEK SMALL LETTER ALPHA WITH TONOS",
   "3AD GREEK SMALL LETTER EPSILON WITH TONOS; 3AE GREEK SMALL LETTER ETA WITH TONOS",
   "3AF GREEK SMALL LETTER IOTA WITH TONOS",
   "3B0 GREEK SMALL LETTER UPSILON WITH DIALYTIKA AND TONOS; 3B1 GREEK SMALL LETTER ALPHA",
   "3B2 GREEK SMALL LETTER BETA; 3B3 GREEK SMALL LETTER GAMMA; 3B4 GREEK SMALL LETTER DELTA",
   "3B5 GREEK SMALL LETTER EPSILON; 3B6 GREEK SMALL LETTER ZETA; 3B7 GREEK SMALL LETTER ETA",
   "3B8 GREEK SMALL LETTER THETA; 3B9 GREEK SMALL LETTER IOTA; 3BA GREEK SMALL LETTER KAPPA",
   "3BB GREEK SMALL LETTER LAMDA; 3BC GREEK SMALL LETTER MU; 3BD GREEK SMALL LETTER NU",
   "3BE GREEK SMALL LETTER XI; 3BF GREEK SMALL LETTER OMICRON; 3C0 GREEK SMALL LETTER PI",
   "3C1 GREEK SMALL LETTER RHO; 3C2 GREEK SMALL LETTER FINAL SIGMA",
   "3C3 GREEK SMALL LETTER SIGMA; 3C4 GREEK SMALL LETTER TAU; 3C5 GREEK SMALL LETTER UPSILON",
   "3C6 GREEK SMALL LETTER PHI; 3C7 GREEK SMALL LETTER CHI; 3C8 GREEK SMALL LETTER PSI",
   "3C9 GREEK SMALL LETTER OMEGA; 200B ZERO WIDTH SPACE; 200C ZERO WIDTH NON-JOINER",
   "200D ZERO WIDTH JOINER; 200E LEFT-TO-RIGHT MARK; 200F RIGHT-TO-LEFT MARK; 2010 HYPHEN",
   "2011 NON-BREAKING HYPHEN; 2012 FIGURE DASH; 2013 EN DASH; 2014 EM DASH",
   "2015 HORIZONTAL BAR; 2016 DOUBLE VERTICAL LINE; 2017 DOUBLE LOW LINE",
   "2018 LEFT SINGLE QUOTATION MARK; 2019 RIGHT SINGLE QUOTATION MARK",
   "201A SINGLE LOW-9 QUOTATION MARK; 201B SINGLE HIGH-REVERSED-9 QUOTATION MARK",
   "201C LEFT DOUBLE QUOTATION MARK; 201D RIGHT DOUBLE QUOTATION MARK",
   "201E DOUBLE LOW-9 QUOTATION MARK; 201F DOUBLE HIGH-REVERSED-9 QUOTATION MARK; 2020 DAGGER",
   "2021 DOUBLE DAGGER; 2022 BULLET; 2023 TRIANGULAR BULLET; 2024 ONE DOT LEADER",
   "2025 TWO DOT LEADER; 2026 HORIZONTAL ELLIPSIS; 2027 HYPHENATION POINT; 2028 LINE SEPARATOR",
   "2029 PARAGRAPH SEPARATOR; 202A LEFT-TO-RIGHT EMBEDDING; 202B RIGHT-TO-LEFT EMBEDDING",
   "202C POP DIRECTIONAL FORMATTING; 202D LEFT-TO-RIGHT OVERRIDE; 202E RIGHT-TO-LEFT OVERRIDE",
   "202F NARROW NO-BREAK SPACE; 2030 PER MILLE SIGN; 2031 PER TEN THOUSAND SIGN; 2032 PRIME",
   "2033 DOUBLE PRIME; 2034 TRIPLE PRIME; 2035 REVERSED PRIME; 2036 REVERSED DOUBLE PRIME",
   "2037 REVERSED TRIPLE PRIME; 2038 CARET; 2039 SINGLE LEFT-POINTING ANGLE QUOTATION MARK",
   "203A SINGLE RIGHT-POINTING ANGLE QUOTATION MARK; 203B REFERENCE MARK",
   "203C DOUBLE EXCLAMATION MARK; 203D INTERROBANG; 203E OVERLINE; 203F UNDERTIE",
   "2040 CHARACTER TIE; 2041 CARET INSERTION POINT; 2042 ASTERISM; 2043 HYPHEN BULLET",
   "2044 FRACTION SLASH; 20A0 EURO-CURRENCY SIGN; 20A1 COLON SIGN; 20A2 CRUZEIRO SIGN",
   "20A3 FRENCH FRANC SIGN; 20A4 LIRA SIGN; 20A5 MILL SIGN; 20A6 NAIRA SIGN; 20A7 PESETA SIGN",
   "20A8 RUPEE SIGN; 20A9 WON SIGN; 20AA NEW SHEQEL SIGN; 20AB DONG SIGN; 20AC EURO SIGN",
   "20AD KIP SIGN; 20AE TUGRIK SIGN; 20AF DRACHMA SIGN; 20B0 GERMAN PENNY SIGN; 20B1 PESO SIGN",
   "20B2 GUARANI SIGN; 20B3 AUSTRAL SIGN; 20B4 HRYVNIA SIGN; 20B5 CEDI SIGN",
   "20B6 LIVRE TOURNOIS SIGN; 20B7 SPESMILO SIGN; 20B8 TENGE SIGN; 20B9 INDIAN RUPEE SIGN",
   "20BA TURKISH LIRA SIGN; 20BB NORDIC MARK SIGN; 20BC MANAT SIGN; 20BD RUBLE SIGN",
   "20BE LARI SIGN; 20BF BITCOIN SIGN; 2122 TRADE MARK SIGN; 2126 OHM SIGN; 212B ANGSTROM SIGN",
   "2190 LEFTWARDS ARROW; 2191 UPWARDS ARROW; 2192 RIGHTWARDS ARROW; 2193 DOWNWARDS ARROW",
   "2194 LEFT RIGHT ARROW; 2195 UP DOWN ARROW; 2196 NORTH WEST ARROW; 2197 NORTH EAST ARROW",
   "2198 SOUTH EAST ARROW; 2199 SOUTH WEST ARROW; 219A LEFTWARDS ARROW WITH STROKE",
   "219B RIGHTWARDS ARROW WITH STROKE; 219C LEFTWARDS WAVE ARROW; 219D RIGHTWARDS WAVE ARROW",
   "219E LEFTWARDS TWO HEADED ARROW; 219F UPWARDS TWO HEADED ARROW",
   "21A0 RIGHTWARDS TWO HEADED ARROW; 21A1 DOWNWARDS TWO HEADED ARROW",
   "21A2 LEFTWARDS ARROW WITH TAIL; 21A3 RIGHTWARDS ARROW WITH TAIL",
   "21A4 LEFTWARDS ARROW FROM BAR; 21A5 UPWARDS ARROW FROM BAR; 21A6 RIGHTWARDS ARROW FROM BAR",
   "21A7 DOWNWARDS ARROW FROM BAR; 21A8 UP DOWN ARROW WITH BASE",
   "21A9 LEFTWARDS ARROW WITH HOOK; 21AA RIGHTWARDS ARROW WITH HOOK",
   "21AB LEFTWARDS ARROW WITH LOOP; 21AC RIGHTWARDS ARROW WITH LOOP",
   "21AD LEFT RIGHT WAVE ARROW; 21AE LEFT RIGHT ARROW WITH STROKE; 21AF DOWNWARDS ZIGZAG ARROW",
   "21B0 UPWARDS ARROW WITH TIP LEFTWARDS; 21B1 UPWARDS ARROW WITH TIP RIGHTWARDS",
   "21B2 DOWNWARDS ARROW WITH TIP LEFTWARDS; 21B3 DOWNWARDS ARROW WITH TIP RIGHTWARDS",
   "21B4 RIGHTWARDS ARROW WITH CORNER DOWNWARDS; 21B5 DOWNWARDS ARROW WITH CORNER LEFTWARDS",
   "21B6 ANTICLOCKWISE TOP SEMICIRCLE ARROW; 21B7 CLOCKWISE TOP SEMICIRCLE ARROW",
   "21B8 NORTH WEST ARROW TO LONG BAR",
   "21B9 LEFTWARDS ARROW TO BAR OVER RIGHTWARDS ARROW TO BAR",
   "21BA ANTICLOCKWISE OPEN CIRCLE ARROW; 21BB CLOCKWISE OPEN CIRCLE ARROW",
   "21BC LEFTWARDS HARPOON WITH BARB UPWARDS; 21BD LEFTWARDS HARPOON WITH BARB DOWNWARDS",
   "21BE UPWARDS HARPOON WITH BARB RIGHTWARDS; 21BF UPWARDS HARPOON WITH BARB LEFTWARDS",
   "21C0 RIGHTWARDS HARPOON WITH BARB UPWARDS; 21C1 RIGHTWARDS HARPOON WITH BARB DOWNWARDS",
   "21C2 DOWNWARDS HARPOON WITH BARB RIGHTWARDS; 21C3 DOWNWARDS HARPOON WITH BARB LEFTWARDS",
   "21C4 RIGHTWARDS ARROW OVER LEFTWARDS ARROW",
   "21C5 UPWARDS ARROW LEFTWARDS OF DOWNWARDS ARROW",
   "21C6 LEFTWARDS ARROW OVER RIGHTWARDS ARROW; 21C7 LEFTWARDS PAIRED ARROWS",
   "21C8 UPWARDS PAIRED ARROWS; 21C9 RIGHTWARDS PAIRED ARROWS; 21CA DOWNWARDS PAIRED ARROWS",
   "21CB LEFTWARDS HARPOON OVER RIGHTWARDS HARPOON",
   "21CC RIGHTWARDS HARPOON OVER LEFTWARDS HARPOON; 21CD LEFTWARDS DOUBLE ARROW WITH STROKE",
   "21CE LEFT RIGHT DOUBLE ARROW WITH STROKE; 21CF RIGHTWARDS DOUBLE ARROW WITH STROKE",
   "21D0 LEFTWARDS DOUBLE ARROW; 21D1 UPWARDS DOUBLE ARROW; 21D2 RIGHTWARDS DOUBLE ARROW",
   "21D3 DOWNWARDS DOUBLE ARROW; 21D4 LEFT RIGHT DOUBLE ARROW; 21D5 UP DOWN DOUBLE ARROW",
   "21D6 NORTH WEST DOUBLE ARROW; 21D7 NORTH EAST DOUBLE ARROW; 21D8 SOUTH EAST DOUBLE ARROW",
   "21D9 SOUTH WEST DOUBLE ARROW; 21DA LEFTWARDS TRIPLE ARROW; 21DB RIGHTWARDS TRIPLE ARROW",
   "21DC LEFTWARDS SQUIGGLE ARROW; 21DD RIGHTWARDS SQUIGGLE ARROW",
   "21DE UPWARDS ARROW WITH DOUBLE STROKE; 21DF DOWNWARDS ARROW WITH DOUBLE STROKE",
   "21E0 LEFTWARDS DASHED ARROW; 21E1 UPWARDS DASHED ARROW; 21E2 RIGHTWARDS DASHED ARROW",
   "21E3 DOWNWARDS DASHED ARROW; 21E4 LEFTWARDS ARROW TO BAR; 21E5 RIGHTWARDS ARROW TO BAR",
   "21E6 LEFTWARDS WHITE ARROW; 21E7 UPWARDS WHITE ARROW; 21E8 RIGHTWARDS WHITE ARROW",
   "21E9 DOWNWARDS WHITE ARROW; 21EA UPWARDS WHITE ARROW FROM BAR",
   "21EB UPWARDS WHITE ARROW ON PEDESTAL",
   "21EC UPWARDS WHITE ARROW ON PEDESTAL WITH HORIZONTAL BAR",
   "21ED UPWARDS WHITE ARROW ON PEDESTAL WITH VERTICAL BAR; 21EE UPWARDS WHITE DOUBLE ARROW",
   "21EF UPWARDS WHITE DOUBLE ARROW ON PEDESTAL; 21F0 RIGHTWARDS WHITE ARROW FROM WALL",
   "21F1 NORTH WEST ARROW TO CORNER; 21F2 SOUTH EAST ARROW TO CORNER; 21F3 UP DOWN WHITE ARROW",
   "21F4 RIGHT ARROW WITH SMALL CIRCLE; 21F5 DOWNWARDS ARROW LEFTWARDS OF UPWARDS ARROW",
   "21F6 THREE RIGHTWARDS ARROWS; 21F7 LEFTWARDS ARROW WITH VERTICAL STROKE",
   "21F8 RIGHTWARDS ARROW WITH VERTICAL STROKE; 21F9 LEFT RIGHT ARROW WITH VERTICAL STROKE",
   "21FA LEFTWARDS ARROW WITH DOUBLE VERTICAL STROKE",
   "21FB RIGHTWARDS ARROW WITH DOUBLE VERTICAL STROKE",
   "21FC LEFT RIGHT ARROW WITH DOUBLE VERTICAL STROKE; 21FD LEFTWARDS OPEN-HEADED ARROW",
   "21FE RIGHTWARDS OPEN-HEADED ARROW; 21FF LEFT RIGHT OPEN-HEADED ARROW; 2200 FOR ALL",
   "2201 COMPLEMENT; 2202 PARTIAL DIFFERENTIAL; 2203 THERE EXISTS; 2204 THERE DOES NOT EXIST",
   "2205 EMPTY SET; 2206 INCREMENT; 2207 NABLA; 2208 ELEMENT OF; 2209 NOT AN ELEMENT OF",
   "220A SMALL ELEMENT OF; 220B CONTAINS AS MEMBER; 220C DOES NOT CONTAIN AS MEMBER",
   "220D SMALL CONTAINS AS MEMBER; 220E END OF PROOF; 220F N-ARY PRODUCT; 2210 N-ARY COPRODUCT",
   "2211 N-ARY SUMMATION; 2212 MINUS SIGN; 2213 MINUS-OR-PLUS SIGN; 2214 DOT PLUS",
   "2215 DIVISION SLASH; 2216 SET MINUS; 2217 ASTERISK OPERATOR; 2218 RING OPERATOR",
   "2219 BULLET OPERATOR; 221A SQUARE ROOT; 221B CUBE ROOT; 221C FOURTH ROOT",
   "221D PROPORTIONAL TO; 221E INFINITY; 221F RIGHT ANGLE; 2220 ANGLE; 2221 MEASURED ANGLE",
   "2222 SPHERICAL ANGLE; 2223 DIVIDES; 2224 DOES NOT DIVIDE; 2225 PARALLEL TO",
   "2226 NOT PARALLEL TO; 2227 LOGICAL AND; 2228 LOGICAL OR; 2229 INTERSECTION; 222A UNION",
   "222B INTEGRAL; 222C DOUBLE INTEGRAL; 222D TRIPLE INTEGRAL; 222E CONTOUR INTEGRAL",
   "222F SURFACE INTEGRAL; 2230 VOLUME INTEGRAL; 2231 CLOCKWISE INTEGRAL",
   "2232 CLOCKWISE CONTOUR INTEGRAL; 2233 ANTICLOCKWISE CONTOUR INTEGRAL; 2234 THEREFORE",
   "2235 BECAUSE; 2236 RATIO; 2237 PROPORTION; 2238 DOT MINUS; 2239 EXCESS",
   "223A GEOMETRIC PROPORTION; 223B HOMOTHETIC; 223C TILDE OPERATOR; 223D REVERSED TILDE",
   "223E INVERTED LAZY S; 223F SINE WAVE; 2240 WREATH PRODUCT; 2241 NOT TILDE",
   "2242 MINUS TILDE; 2243 ASYMPTOTICALLY EQUAL TO; 2244 NOT ASYMPTOTICALLY EQUAL TO",
   "2245 APPROXIMATELY EQUAL TO; 2246 APPROXIMATELY BUT NOT ACTUALLY EQUAL TO",
   "2247 NEITHER APPROXIMATELY NOR ACTUALLY EQUAL TO; 2248 ALMOST EQUAL TO",
   "2249 NOT ALMOST EQUAL TO; 224A ALMOST EQUAL OR EQUAL TO; 224B TRIPLE TILDE",
   "224C ALL EQUAL TO; 224D EQUIVALENT TO; 224E GEOMETRICALLY EQUIVALENT TO",
   "224F DIFFERENCE BETWEEN; 2250 APPROACHES THE LIMIT; 2251 GEOMETRICALLY EQUAL TO",
   "2252 APPROXIMATELY EQUAL TO OR THE IMAGE OF; 2253 IMAGE OF OR APPROXIMATELY EQUAL TO",
   "2254 COLON EQUALS; 2255 EQUALS COLON; 2256 RING IN EQUAL TO; 2257 RING EQUAL TO",
   "2258 CORRESPONDS TO; 2259 ESTIMATES; 225A EQUIANGULAR TO; 225B STAR EQUALS",
   "225C DELTA EQUAL TO; 225D EQUAL TO BY DEFINITION; 225E MEASURED BY",
   "225F QUESTIONED EQUAL TO; 2260 NOT EQUAL TO; 2261 IDENTICAL TO; 2262 NOT IDENTICAL TO",
   "2263 STRICTLY EQUIVALENT TO; 2264 LESS-THAN OR EQUAL TO; 2265 GREATER-THAN OR EQUAL TO",
   "25A0 BLACK SQUARE; 25A1 WHITE SQUARE; 25A2 WHITE SQUARE WITH ROUNDED CORNERS",
   "25A3 WHITE SQUARE CONTAINING BLACK SMALL SQUARE; 25A4 SQUARE WITH HORIZONTAL FILL",
   "25A5 SQUARE WITH VERTICAL FILL; 25A6 SQUARE WITH ORTHOGONAL CROSSHATCH FILL",
   "25A7 SQUARE WITH UPPER LEFT TO LOWER RIGHT FILL",
   "25A8 SQUARE WITH UPPER RIGHT TO LOWER LEFT FILL; 25A9 SQUARE WITH DIAGONAL CROSSHATCH FILL",
   "25AA BLACK SMALL SQUARE; 25AB WHITE SMALL SQUARE; 25AC BLACK RECTANGLE",
   "25AD WHITE RECTANGLE; 25AE BLACK VERTICAL RECTANGLE; 25AF WHITE VERTICAL RECTANGLE",
   "25B0 BLACK PARALLELOGRAM; 25B1 WHITE PARALLELOGRAM; 25B2 BLACK UP-POINTING TRIANGLE",
   "25B3 WHITE UP-POINTING TRIANGLE; 25B4 BLACK UP-POINTING SMALL TRIANGLE",
   "25B5 WHITE UP-POINTING SMALL TRIANGLE; 25B6 BLACK RIGHT-POINTING TRIANGLE",
   "25B7 WHITE RIGHT-POINTING TRIANGLE; 25B8 BLACK RIGHT-POINTING SMALL TRIANGLE",
   "25B9 WHITE RIGHT-POINTING SMALL TRIANGLE; 25BA BLACK RIGHT-POINTING POINTER",
   "25BB WHITE RIGHT-POINTING POINTER; 25BC BLACK DOWN-POINTING TRIANGLE",
   "25BD WHITE DOWN-POINTING TRIANGLE; 25BE BLACK DOWN-POINTING SMALL TRIANGLE",
   "25BF WHITE DOWN-POINTING SMALL TRIANGLE; 25C0 BLACK LEFT-POINTING TRIANGLE",
   "25C1 WHITE LEFT-POINTING TRIANGLE; 25C2 BLACK LEFT-POINTING SMALL TRIANGLE",
   "25C3 WHITE LEFT-POINTING SMALL TRIANGLE; 25C4 BLACK LEFT-POINTING POINTER",
   "25C5 WHITE LEFT-POINTING POINTER; 25C6 BLACK DIAMOND; 25C7 WHITE DIAMOND",
   "25C8 WHITE DIAMOND CONTAINING BLACK SMALL DIAMOND; 25C9 FISHEYE; 25CA LOZENGE",
   "25CB WHITE CIRCLE; 25CC DOTTED CIRCLE; 25CD CIRCLE WITH VERTICAL FILL; 25CE BULLSEYE",
   "25CF BLACK CIRCLE; 2600 BLACK SUN WITH RAYS; 2601 CLOUD; 2602 UMBRELLA; 2603 SNOWMAN",
   "2604 COMET; 2605 BLACK STAR; 2606 WHITE STAR; 2607 LIGHTNING; 2608 THUNDERSTORM; 2609 SUN",
   "260A ASCENDING NODE; 260B DESCENDING NODE; 260C CONJUNCTION; 260D OPPOSITION",
   "260E BLACK TELEPHONE; 260F WHITE TELEPHONE; 2610 BALLOT BOX; 2611 BALLOT BOX WITH CHECK",
   "2612 BALLOT BOX WITH X; 2613 SALTIRE; 2614 UMBRELLA WITH RAIN DROPS; 2615 HOT BEVERAGE",
   "2616 WHITE SHOGI PIECE; 2617 BLACK SHOGI PIECE; 2618 SHAMROCK",
   "2619 REVERSED ROTATED FLORAL HEART BULLET; 261A BLACK LEFT POINTING INDEX",
   "261B BLACK RIGHT POINTING INDEX; 261C WHITE LEFT POINTING INDEX",
   "261D WHITE UP POINTING INDEX; 261E WHITE RIGHT POINTING INDEX",
   "261F WHITE DOWN POINTING INDEX; 2620 SKULL AND CROSSBONES; 2700 BLACK SAFETY SCISSORS",
   "2701 UPPER BLADE SCISSORS; 2702 BLACK SCISSORS; 2703 LOWER BLADE SCISSORS",
   "2704 WHITE SCISSORS; 2705 WHITE HEAVY CHECK MARK; 2706 TELEPHONE LOCATION SIGN",
   "2707 TAPE DRIVE; 2708 AIRPLANE; 2709 ENVELOPE; 270A RAISED FIST; 270B RAISED HAND",
   "270C VICTORY HAND; 270D WRITING HAND; 270E LOWER RIGHT PENCIL; 270F PENCIL",
   "2710 UPPER RIGHT PENCIL; 2711 WHITE NIB; 2712 BLACK NIB; 2713 CHECK MARK",
   "2714 HEAVY CHECK MARK; 2715 MULTIPLICATION X; 2716 HEAVY MULTIPLICATION X; 2717 BALLOT X",
   "2718 HEAVY BALLOT X; FEFF ZERO WIDTH NO-BREAK SPACE; FFFD REPLACEMENT CHARACTER",
   "1F40D SNAKE; 1F511 KEY; 1F512 LOCK; 1F525 FIRE; 1F600 GRINNING FACE",
   "1F601 GRINNING FACE WITH SMILING EYES; 1F602 FACE WITH TEARS OF JOY",
   "1F603 SMILING FACE WITH OPEN MOUTH; 1F604 SMILING FACE WITH OPEN MOUTH AND SMILING EYES",
   "1F605 SMILING FACE WITH OPEN MOUTH AND COLD SWEAT",
   "1F606 SMILING FACE WITH OPEN MOUTH AND TIGHTLY-CLOSED EYES; 1F607 SMILING FACE WITH HALO",
   "1F608 SMILING FACE WITH HORNS; 1F609 WINKING FACE; 1F60A SMILING FACE WITH SMILING EYES",
   "1F60B FACE SAVOURING DELICIOUS FOOD; 1F60C RELIEVED FACE",
   "1F60D SMILING FACE WITH HEART-SHAPED EYES; 1F60E SMILING FACE WITH SUNGLASSES",
   "1F60F SMIRKING FACE; 1F610 NEUTRAL FACE; 1F611 EXPRESSIONLESS FACE; 1F612 UNAMUSED FACE",
   "1F613 FACE WITH COLD SWEAT; 1F614 PENSIVE FACE; 1F615 CONFUSED FACE; 1F616 CONFOUNDED FACE",
   "1F617 KISSING FACE; 1F618 FACE THROWING A KISS; 1F619 KISSING FACE WITH SMILING EYES",
   "1F61A KISSING FACE WITH CLOSED EYES; 1F61B FACE WITH STUCK-OUT TONGUE",
   "1F61C FACE WITH STUCK-OUT TONGUE AND WINKING EYE",
   "1F61D FACE WITH STUCK-OUT TONGUE AND TIGHTLY-CLOSED EYES; 1F61E DISAPPOINTED FACE",
   "1F61F WORRIED FACE; 1F620 ANGRY FACE; 1F621 POUTING FACE; 1F622 CRYING FACE",
   "1F623 PERSEVERING FACE; 1F624 FACE WITH LOOK OF TRIUMPH",
   "1F625 DISAPPOINTED BUT RELIEVED FACE; 1F626 FROWNING FACE WITH OPEN MOUTH",
   "1F627 ANGUISHED FACE; 1F628 FEARFUL FACE; 1F629 WEARY FACE; 1F62A SLEEPY FACE",
   "1F62B TIRED FACE; 1F62C GRIMACING FACE; 1F62D LOUDLY CRYING FACE",
   "1F62E FACE WITH OPEN MOUTH; 1F62F HUSHED FACE; 1F630 FACE WITH OPEN MOUTH AND COLD SWEAT",
   "1F631 FACE SCREAMING IN FEAR; 1F632 ASTONISHED FACE; 1F633 FLUSHED FACE",
   "1F634 SLEEPING FACE; 1F635 DIZZY FACE; 1F636 FACE WITHOUT MOUTH",
   "1F637 FACE WITH MEDICAL MASK; 1F638 GRINNING CAT FACE WITH SMILING EYES",
   "1F639 CAT FACE WITH TEARS OF JOY; 1F63A SMILING CAT FACE WITH OPEN MOUTH",
   "1F63B SMILING CAT FACE WITH HEART-SHAPED EYES; 1F63C CAT FACE WITH WRY SMILE",
   "1F63D KISSING CAT FACE WITH CLOSED EYES; 1F63E POUTING CAT FACE; 1F63F CRYING CAT FACE",
   "1F640 WEARY CAT FACE; 1F641 SLIGHTLY FROWNING FACE; 1F642 SLIGHTLY SMILING FACE",
   "1F643 UPSIDE-DOWN FACE; 1F644 FACE WITH ROLLING EYES; 1F680 ROCKET"]

/-- Other names of characters, control characters among them. -/
def aliases : List String :=
  ["0 NULL; 0 NUL; 1 START OF HEADING; 1 SOH; 2 START OF TEXT; 2 STX; 3 END OF TEXT; 3 ETX",
   "4 END OF TRANSMISSION; 4 EOT; 5 ENQUIRY; 5 ENQ; 6 ACKNOWLEDGE; 6 ACK; 7 ALERT; 7 BEL",
   "8 BACKSPACE; 8 BS; 9 CHARACTER TABULATION; 9 HORIZONTAL TABULATION; 9 HT; 9 TAB",
   "A LINE FEED; A NEW LINE; A END OF LINE; A EOL; A LF; A NL; B LINE TABULATION",
   "B VERTICAL TABULATION; B VT; C FORM FEED; C FF; D CARRIAGE RETURN; D CR; E SHIFT OUT",
   "E LOCKING-SHIFT ONE; E SO; F SHIFT IN; F LOCKING-SHIFT ZERO; F SI; 10 DATA LINK ESCAPE",
   "10 DLE; 11 DEVICE CONTROL ONE; 11 DC1; 12 DEVICE CONTROL TWO; 12 DC2",
   "13 DEVICE CONTROL THREE; 13 DC3; 14 DEVICE CONTROL FOUR; 14 DC4; 15 NEGATIVE ACKNOWLEDGE",
   "15 NAK; 16 SYNCHRONOUS IDLE; 16 SYN; 17 END OF TRANSMISSION BLOCK; 17 ETB; 18 CANCEL",
   "18 CAN; 19 END OF MEDIUM; 19 EOM; 1A SUBSTITUTE; 1A SUB; 1B ESCAPE; 1B ESC",
   "1C INFORMATION SEPARATOR FOUR; 1C FILE SEPARATOR; 1C FS; 1D INFORMATION SEPARATOR THREE",
   "1D GROUP SEPARATOR; 1D GS; 1E INFORMATION SEPARATOR TWO; 1E RECORD SEPARATOR; 1E RS",
   "1F INFORMATION SEPARATOR ONE; 1F UNIT SEPARATOR; 1F US; 20 SP; 7F DELETE; 7F DEL",
   "80 PADDING CHARACTER; 80 PAD; 81 HIGH OCTET PRESET; 81 HOP; 82 BREAK PERMITTED HERE",
   "82 BPH; 83 NO BREAK HERE; 83 NBH; 84 INDEX; 84 IND; 85 NEXT LINE; 85 NEL",
   "86 START OF SELECTED AREA; 86 SSA; 87 END OF SELECTED AREA; 87 ESA",
   "88 CHARACTER TABULATION SET; 88 HORIZONTAL TABULATION SET; 88 HTS",
   "89 CHARACTER TABULATION WITH JUSTIFICATION; 89 HORIZONTAL TABULATION WITH JUSTIFICATION",
   "89 HTJ; 8A LINE TABULATION SET; 8A VERTICAL TABULATION SET; 8A VTS",
   "8B PARTIAL LINE FORWARD; 8B PARTIAL LINE DOWN; 8B PLD; 8C PARTIAL LINE BACKWARD",
   "8C PARTIAL LINE UP; 8C PLU; 8D REVERSE LINE FEED; 8D REVERSE INDEX; 8D RI",
   "8E SINGLE SHIFT TWO; 8E SINGLE-SHIFT-2; 8E SS2; 8F SINGLE SHIFT THREE; 8F SINGLE-SHIFT-3",
   "8F SS3; 90 DEVICE CONTROL STRING; 90 DCS; 91 PRIVATE USE ONE; 91 PRIVATE USE-1; 91 PU1",
   "92 PRIVATE USE TWO; 92 PRIVATE USE-2; 92 PU2; 93 SET TRANSMIT STATE; 93 STS",
   "94 CANCEL CHARACTER; 94 CCH; 95 MESSAGE WAITING; 95 MW; 96 START OF GUARDED AREA",
   "96 START OF PROTECTED AREA; 96 SPA; 97 END OF GUARDED AREA; 97 END OF PROTECTED AREA",
   "97 EPA; 98 START OF STRING; 98 SOS; 99 SINGLE GRAPHIC CHARACTER INTRODUCER; 99 SGC",
   "9A SINGLE CHARACTER INTRODUCER; 9A SCI; 9B CONTROL SEQUENCE INTRODUCER; 9B CSI",
   "9C STRING TERMINATOR; 9C ST; 9D OPERATING SYSTEM COMMAND; 9D OSC; 9E PRIVACY MESSAGE",
   "9E PM; 9F APPLICATION PROGRAM COMMAND; 9F APC; A0 NBSP; AD SHY",
   "1A2 LATIN CAPITAL LETTER GHA; 1A3 LATIN SMALL LETTER GHA; 34F CGJ; 61C ALM",
   "709 SYRIAC SUBLINEAR COLON SKEWED LEFT; CDE KANNADA LETTER LLLA; E9D LAO LETTER FO FON",
   "E9F LAO LETTER FO FAY; EA3 LAO LETTER RO; EA5 LAO LETTER LO",
   "FD0 TIBETAN MARK BKA- SHOG GI MGO RGYAN; 11EC HANGUL JONGSEONG YESIEUNG-KIYEOK",
   "11ED HANGUL JONGSEONG YESIEUNG-SSANGKIYEOK; 11EE HANGUL JONGSEONG SSANGYESIEUNG",
   "11EF HANGUL JONGSEONG YESIEUNG-KHIEUKH; 180B FVS1; 180C FVS2; 180D FVS3; 180E MVS",
   "180F FVS4; 200B ZWSP; 200C ZWNJ; 200D ZWJ; 200E LRM; 200F RLM; 202A LRE; 202B RLE",
   "202C PDF; 202D LRO; 202E RLO; 202F NNBSP; 205F MMSP; 2060 WJ; 2066 LRI; 2067 RLI",
   "2068 FSI; 2069 PDI; 2118 WEIERSTRASS ELLIPTIC FUNCTION; 2448 MICR ON US SYMBOL",
   "2449 MICR DASH SYMBOL; 2B7A LEFTWARDS TRIANGLE-HEADED ARROW WITH DOUBLE VERTICAL STROKE",
   "2B7C RIGHTWARDS TRIANGLE-HEADED ARROW WITH DOUBLE VERTICAL STROKE",
   "A015 YI SYLLABLE ITERATION MARK; AA6E MYANMAR LETTER KHAMTI LLA",
   "FE18 PRESENTATION FORM FOR VERTICAL RIGHT WHITE LENTICULAR BRACKET; FEFF BYTE ORDER MARK",
   "FEFF BOM; FEFF ZWNBSP; 122D4 CUNEIFORM SIGN NU11 TENU",
   "122D5 CUNEIFORM SIGN NU11 OVER NU11 BUR OVER BUR; 16E56 MEDEFAIDRIN CAPITAL LETTER H",
   "16E57 MEDEFAIDRIN CAPITAL LETTER NG; 16E76 MEDEFAIDRIN SMALL LETTER H",
   "16E77 MEDEFAIDRIN SMALL LETTER NG; 1B001 HENTAIGANA LETTER E-1",
   "1D0C5 BYZANTINE MUSICAL SYMBOL FTHORA SKLIRON CHROMA VASIS"]

end CodeAudit.Text.Names.Table
