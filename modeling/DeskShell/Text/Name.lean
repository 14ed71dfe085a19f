/-!
# Names of characters

The names of characters in Unicode, for the blocks in common use: the Latin, Greek and Cyrillic
letters, punctuation, currency signs, arrows, operators, and the plain symbols.

* `pointOfName?`: the code point of a name, in which case makes no difference.
-/
namespace DeskShell.Text

/-- Names of code points in a row from `first` on: each is `lead` and one of the endings, between
which stand semicolons. -/
structure NameRow where
  first : Nat
  lead : String
  endings : String
  deriving Repr

def nameRowsA : List NameRow := [
    ⟨0x20, "", "SPACE;EXCLAMATION MARK;QUOTATION MARK;NUMBER SIGN;DOLLAR SIGN;PERCENT SIGN"⟩,
    ⟨0x26, "", "AMPERSAND;APOSTROPHE;LEFT PARENTHESIS;RIGHT PARENTHESIS;ASTERISK;PLUS SIGN;COMMA"⟩,
    ⟨0x2d, "", "HYPHEN-MINUS;FULL STOP;SOLIDUS;DIGIT ZERO;DIGIT ONE;DIGIT TWO;DIGIT THREE"⟩,
    ⟨0x34, "", "DIGIT FOUR;DIGIT FIVE;DIGIT SIX;DIGIT SEVEN;DIGIT EIGHT;DIGIT NINE;COLON"⟩,
    ⟨0x3b, "", "SEMICOLON;LESS-THAN SIGN;EQUALS SIGN;GREATER-THAN SIGN;QUESTION MARK"⟩,
    ⟨0x40, "", "COMMERCIAL AT;LATIN CAPITAL LETTER A;LATIN CAPITAL LETTER B"⟩,
    ⟨0x43, "LATIN CAPITAL LETTER ", "C;D;E;F;G;H;I;J;K;L;M;N;O;P;Q;R;S;T;U;V;W;X;Y;Z"⟩,
    ⟨0x5b, "", "LEFT SQUARE BRACKET;REVERSE SOLIDUS;RIGHT SQUARE BRACKET;CIRCUMFLEX ACCENT"⟩,
    ⟨0x5f, "", "LOW LINE;GRAVE ACCENT;LATIN SMALL LETTER A;LATIN SMALL LETTER B"⟩,
    ⟨0x63, "LATIN SMALL LETTER ", "C;D;E;F;G;H;I;J;K;L;M;N;O;P;Q;R;S;T;U;V;W;X;Y;Z"⟩,
    ⟨0x7b, "", "LEFT CURLY BRACKET;VERTICAL LINE;RIGHT CURLY BRACKET;TILDE"⟩,
    ⟨0xa0, "", "NO-BREAK SPACE;INVERTED EXCLAMATION MARK;CENT SIGN;POUND SIGN;CURRENCY SIGN"⟩,
    ⟨0xa5, "", "YEN SIGN;BROKEN BAR;SECTION SIGN;DIAERESIS"⟩,
    ⟨0xaa, "", "FEMININE ORDINAL INDICATOR;LEFT-POINTING DOUBLE ANGLE QUOTATION MARK;NOT SIGN"⟩,
    ⟨0xad, "", "SOFT HYPHEN;REGISTERED SIGN;MACRON;DEGREE SIGN;PLUS-MINUS SIGN;SUPERSCRIPT TWO"⟩,
    ⟨0xb3, "", "SUPERSCRIPT THREE;ACUTE ACCENT;MICRO SIGN;PILCROW SIGN;MIDDLE DOT;CEDILLA"⟩,
    ⟨0xb9, "", "SUPERSCRIPT ONE;MASCULINE ORDINAL INDICATOR"⟩,
    ⟨0xbb, "", "RIGHT-POINTING DOUBLE ANGLE QUOTATION MARK;VULGAR FRACTION ONE QUARTER"⟩,
    ⟨0xbd, "", "VULGAR FRACTION ONE HALF;VULGAR FRACTION THREE QUARTERS;INVERTED QUESTION MARK"⟩,
    ⟨0xc0, "LATIN CAPITAL LETTER A WITH ", "GRAVE;ACUTE;CIRCUMFLEX;TILDE;DIAERESIS;RING ABOVE"⟩,
    ⟨0xc6, "LATIN CAPITAL LETTER ", "AE;C WITH CEDILLA;E WITH GRAVE;E WITH ACUTE"⟩,
    ⟨0xca, "LATIN CAPITAL LETTER ", "E WITH CIRCUMFLEX;E WITH DIAERESIS;I WITH GRAVE"⟩,
    ⟨0xcd, "LATIN CAPITAL LETTER ", "I WITH ACUTE;I WITH CIRCUMFLEX;I WITH DIAERESIS;ETH"⟩,
    ⟨0xd1, "LATIN CAPITAL LETTER ", "N WITH TILDE;O WITH GRAVE;O WITH ACUTE;O WITH CIRCUMFLEX"⟩,
    ⟨0xd5, "LATIN CAPITAL LETTER O WITH ", "TILDE;DIAERESIS"⟩,
    ⟨0xd7, "", "MULTIPLICATION SIGN;LATIN CAPITAL LETTER O WITH STROKE"⟩,
    ⟨0xd9, "LATIN CAPITAL LETTER U WITH ", "GRAVE;ACUTE;CIRCUMFLEX;DIAERESIS"⟩,
    ⟨0xdd, "LATIN ", "CAPITAL LETTER Y WITH ACUTE;CAPITAL LETTER THORN;SMALL LETTER SHARP S"⟩,
    ⟨0xe0, "LATIN SMALL LETTER A WITH ", "GRAVE;ACUTE;CIRCUMFLEX;TILDE;DIAERESIS;RING ABOVE"⟩,
    ⟨0xe6, "LATIN SMALL LETTER ", "AE;C WITH CEDILLA;E WITH GRAVE;E WITH ACUTE;E WITH CIRCUMFLEX"⟩,
    ⟨0xeb, "LATIN SMALL LETTER ", "E WITH DIAERESIS;I WITH GRAVE;I WITH ACUTE;I WITH CIRCUMFLEX"⟩,
    ⟨0xef, "LATIN SMALL LETTER ", "I WITH DIAERESIS;ETH;N WITH TILDE;O WITH GRAVE;O WITH ACUTE"⟩,
    ⟨0xf4, "LATIN SMALL LETTER O WITH ", "CIRCUMFLEX;TILDE;DIAERESIS"⟩,
    ⟨0xf7, "", "DIVISION SIGN;LATIN SMALL LETTER O WITH STROKE;LATIN SMALL LETTER U WITH GRAVE"⟩,
    ⟨0xfa, "LATIN SMALL LETTER ", "U WITH ACUTE;U WITH CIRCUMFLEX;U WITH DIAERESIS;Y WITH ACUTE"⟩,
    ⟨0xfe, "LATIN SMALL LETTER ", "THORN;Y WITH DIAERESIS"⟩,
    ⟨0x100, "LATIN ", "CAPITAL LETTER A WITH MACRON;SMALL LETTER A WITH MACRON"⟩,
    ⟨0x102, "LATIN ", "CAPITAL LETTER A WITH BREVE;SMALL LETTER A WITH BREVE"⟩,
    ⟨0x104, "LATIN ", "CAPITAL LETTER A WITH OGONEK;SMALL LETTER A WITH OGONEK"⟩,
    ⟨0x106, "LATIN ", "CAPITAL LETTER C WITH ACUTE;SMALL LETTER C WITH ACUTE"⟩,
    ⟨0x108, "LATIN ", "CAPITAL LETTER C WITH CIRCUMFLEX;SMALL LETTER C WITH CIRCUMFLEX"⟩,
    ⟨0x10a, "LATIN ", "CAPITAL LETTER C WITH DOT ABOVE;SMALL LETTER C WITH DOT ABOVE"⟩,
    ⟨0x10c, "LATIN ", "CAPITAL LETTER C WITH CARON;SMALL LETTER C WITH CARON"⟩,
    ⟨0x10e, "LATIN ", "CAPITAL LETTER D WITH CARON;SMALL LETTER D WITH CARON"⟩,
    ⟨0x110, "LATIN ", "CAPITAL LETTER D WITH STROKE;SMALL LETTER D WITH STROKE"⟩,
    ⟨0x112, "LATIN ", "CAPITAL LETTER E WITH MACRON;SMALL LETTER E WITH MACRON"⟩,
    ⟨0x114, "LATIN ", "CAPITAL LETTER E WITH BREVE;SMALL LETTER E WITH BREVE"⟩,
    ⟨0x116, "LATIN ", "CAPITAL LETTER E WITH DOT ABOVE;SMALL LETTER E WITH DOT ABOVE"⟩,
    ⟨0x118, "LATIN ", "CAPITAL LETTER E WITH OGONEK;SMALL LETTER E WITH OGONEK"⟩,
    ⟨0x11a, "LATIN ", "CAPITAL LETTER E WITH CARON;SMALL LETTER E WITH CARON"⟩,
    ⟨0x11c, "LATIN ", "CAPITAL LETTER G WITH CIRCUMFLEX;SMALL LETTER G WITH CIRCUMFLEX"⟩,
    ⟨0x11e, "LATIN ", "CAPITAL LETTER G WITH BREVE;SMALL LETTER G WITH BREVE"⟩,
    ⟨0x120, "LATIN ", "CAPITAL LETTER G WITH DOT ABOVE;SMALL LETTER G WITH DOT ABOVE"⟩,
    ⟨0x122, "LATIN ", "CAPITAL LETTER G WITH CEDILLA;SMALL LETTER G WITH CEDILLA"⟩,
    ⟨0x124, "LATIN ", "CAPITAL LETTER H WITH CIRCUMFLEX;SMALL LETTER H WITH CIRCUMFLEX"⟩,
    ⟨0x126, "LATIN ", "CAPITAL LETTER H WITH STROKE;SMALL LETTER H WITH STROKE"⟩,
    ⟨0x128, "LATIN ", "CAPITAL LETTER I WITH TILDE;SMALL LETTER I WITH TILDE"⟩,
    ⟨0x12a, "LATIN ", "CAPITAL LETTER I WITH MACRON;SMALL LETTER I WITH MACRON"⟩,
    ⟨0x12c, "LATIN ", "CAPITAL LETTER I WITH BREVE;SMALL LETTER I WITH BREVE"⟩,
    ⟨0x12e, "LATIN ", "CAPITAL LETTER I WITH OGONEK;SMALL LETTER I WITH OGONEK"⟩,
    ⟨0x130, "LATIN ", "CAPITAL LETTER I WITH DOT ABOVE;SMALL LETTER DOTLESS I"⟩,
    ⟨0x132, "LATIN ", "CAPITAL LIGATURE IJ;SMALL LIGATURE IJ;CAPITAL LETTER J WITH CIRCUMFLEX"⟩,
    ⟨0x135, "LATIN ", "SMALL LETTER J WITH CIRCUMFLEX;CAPITAL LETTER K WITH CEDILLA"⟩,
    ⟨0x137, "LATIN ", "SMALL LETTER K WITH CEDILLA;SMALL LETTER KRA;CAPITAL LETTER L WITH ACUTE"⟩,
    ⟨0x13a, "LATIN ", "SMALL LETTER L WITH ACUTE;CAPITAL LETTER L WITH CEDILLA"⟩,
    ⟨0x13c, "LATIN ", "SMALL LETTER L WITH CEDILLA;CAPITAL LETTER L WITH CARON"⟩,
    ⟨0x13e, "LATIN ", "SMALL LETTER L WITH CARON;CAPITAL LETTER L WITH MIDDLE DOT"⟩,
    ⟨0x140, "LATIN ", "SMALL LETTER L WITH MIDDLE DOT;CAPITAL LETTER L WITH STROKE"⟩,
    ⟨0x142, "LATIN ", "SMALL LETTER L WITH STROKE;CAPITAL LETTER N WITH ACUTE"⟩,
    ⟨0x144, "LATIN ", "SMALL LETTER N WITH ACUTE;CAPITAL LETTER N WITH CEDILLA"⟩,
    ⟨0x146, "LATIN ", "SMALL LETTER N WITH CEDILLA;CAPITAL LETTER N WITH CARON"⟩,
    ⟨0x148, "LATIN SMALL LETTER N ", "WITH CARON;PRECEDED BY APOSTROPHE"⟩,
    ⟨0x14a, "LATIN ", "CAPITAL LETTER ENG;SMALL LETTER ENG;CAPITAL LETTER O WITH MACRON"⟩,
    ⟨0x14d, "LATIN ", "SMALL LETTER O WITH MACRON;CAPITAL LETTER O WITH BREVE"⟩,
    ⟨0x14f, "LATIN ", "SMALL LETTER O WITH BREVE;CAPITAL LETTER O WITH DOUBLE ACUTE"⟩,
    ⟨0x151, "LATIN ", "SMALL LETTER O WITH DOUBLE ACUTE;CAPITAL LIGATURE OE;SMALL LIGATURE OE"⟩,
    ⟨0x154, "LATIN ", "CAPITAL LETTER R WITH ACUTE;SMALL LETTER R WITH ACUTE"⟩,
    ⟨0x156, "LATIN ", "CAPITAL LETTER R WITH CEDILLA;SMALL LETTER R WITH CEDILLA"⟩,
    ⟨0x158, "LATIN ", "CAPITAL LETTER R WITH CARON;SMALL LETTER R WITH CARON"⟩,
    ⟨0x15a, "LATIN ", "CAPITAL LETTER S WITH ACUTE;SMALL LETTER S WITH ACUTE"⟩,
    ⟨0x15c, "LATIN ", "CAPITAL LETTER S WITH CIRCUMFLEX;SMALL LETTER S WITH CIRCUMFLEX"⟩,
    ⟨0x15e, "LATIN ", "CAPITAL LETTER S WITH CEDILLA;SMALL LETTER S WITH CEDILLA"⟩,
    ⟨0x160, "LATIN ", "CAPITAL LETTER S WITH CARON;SMALL LETTER S WITH CARON"⟩,
    ⟨0x162, "LATIN ", "CAPITAL LETTER T WITH CEDILLA;SMALL LETTER T WITH CEDILLA"⟩,
    ⟨0x164, "LATIN ", "CAPITAL LETTER T WITH CARON;SMALL LETTER T WITH CARON"⟩,
    ⟨0x166, "LATIN ", "CAPITAL LETTER T WITH STROKE;SMALL LETTER T WITH STROKE"⟩,
    ⟨0x168, "LATIN ", "CAPITAL LETTER U WITH TILDE;SMALL LETTER U WITH TILDE"⟩,
    ⟨0x16a, "LATIN ", "CAPITAL LETTER U WITH MACRON;SMALL LETTER U WITH MACRON"⟩,
    ⟨0x16c, "LATIN ", "CAPITAL LETTER U WITH BREVE;SMALL LETTER U WITH BREVE"⟩,
    ⟨0x16e, "LATIN ", "CAPITAL LETTER U WITH RING ABOVE;SMALL LETTER U WITH RING ABOVE"⟩,
    ⟨0x170, "LATIN ", "CAPITAL LETTER U WITH DOUBLE ACUTE;SMALL LETTER U WITH DOUBLE ACUTE"⟩,
    ⟨0x172, "LATIN ", "CAPITAL LETTER U WITH OGONEK;SMALL LETTER U WITH OGONEK"⟩,
    ⟨0x174, "LATIN ", "CAPITAL LETTER W WITH CIRCUMFLEX;SMALL LETTER W WITH CIRCUMFLEX"⟩,
    ⟨0x176, "LATIN ", "CAPITAL LETTER Y WITH CIRCUMFLEX;SMALL LETTER Y WITH CIRCUMFLEX"⟩,
    ⟨0x178, "LATIN CAPITAL LETTER ", "Y WITH DIAERESIS;Z WITH ACUTE"⟩,
    ⟨0x17a, "LATIN ", "SMALL LETTER Z WITH ACUTE;CAPITAL LETTER Z WITH DOT ABOVE"⟩,
    ⟨0x17c, "LATIN ", "SMALL LETTER Z WITH DOT ABOVE;CAPITAL LETTER Z WITH CARON"⟩,
    ⟨0x17e, "LATIN SMALL LETTER ", "Z WITH CARON;LONG S"⟩,
    ⟨0x370, "GREEK ", "CAPITAL LETTER HETA;SMALL LETTER HETA;CAPITAL LETTER ARCHAIC SAMPI"⟩,
    ⟨0x373, "GREEK ", "SMALL LETTER ARCHAIC SAMPI;NUMERAL SIGN;LOWER NUMERAL SIGN"⟩,
    ⟨0x376, "GREEK ", "CAPITAL LETTER PAMPHYLIAN DIGAMMA;SMALL LETTER PAMPHYLIAN DIGAMMA"⟩,
    ⟨0x37a, "GREEK ", "YPOGEGRAMMENI;SMALL REVERSED LUNATE SIGMA SYMBOL"⟩,
    ⟨0x37c, "GREEK SMALL ", "DOTTED LUNATE SIGMA SYMBOL;REVERSED DOTTED LUNATE SIGMA SYMBOL"⟩,
    ⟨0x37e, "GREEK ", "QUESTION MARK;CAPITAL LETTER YOT"⟩,
    ⟨0x384, "GREEK ", "TONOS;DIALYTIKA TONOS;CAPITAL LETTER ALPHA WITH TONOS;ANO TELEIA"⟩,
    ⟨0x388, "GREEK CAPITAL LETTER ", "EPSILON WITH TONOS;ETA WITH TONOS;IOTA WITH TONOS"⟩,
    ⟨0x38c, "GREEK CAPITAL LETTER OMICRON WITH ", "TONOS"⟩,
    ⟨0x38e, "GREEK CAPITAL LETTER ", "UPSILON WITH TONOS;OMEGA WITH TONOS"⟩,
    ⟨0x390, "GREEK ", "SMALL LETTER IOTA WITH DIALYTIKA AND TONOS;CAPITAL LETTER ALPHA"⟩,
    ⟨0x392, "GREEK CAPITAL LETTER ", "BETA;GAMMA;DELTA;EPSILON;ZETA;ETA;THETA;IOTA;KAPPA;LAMDA"⟩,
    ⟨0x39c, "GREEK CAPITAL LETTER ", "MU;NU;XI;OMICRON;PI;RHO"⟩,
    ⟨0x3a3, "GREEK CAPITAL LETTER ", "SIGMA;TAU;UPSILON;PHI;CHI;PSI;OMEGA;IOTA WITH DIALYTIKA"⟩,
    ⟨0x3ab, "GREEK ", "CAPITAL LETTER UPSILON WITH DIALYTIKA;SMALL LETTER ALPHA WITH TONOS"⟩,
    ⟨0x3ad, "GREEK SMALL LETTER ", "EPSILON WITH TONOS;ETA WITH TONOS;IOTA WITH TONOS"⟩,
    ⟨0x3b0, "GREEK SMALL LETTER ", "UPSILON WITH DIALYTIKA AND TONOS;ALPHA;BETA;GAMMA;DELTA"⟩,
    ⟨0x3b5, "GREEK SMALL LETTER ", "EPSILON;ZETA;ETA;THETA;IOTA;KAPPA;LAMDA;MU;NU;XI;OMICRON;PI"⟩,
    ⟨0x3c1, "GREEK SMALL LETTER ", "RHO;FINAL SIGMA;SIGMA;TAU;UPSILON;PHI;CHI;PSI;OMEGA"⟩,
    ⟨0x3ca, "GREEK SMALL LETTER ", "IOTA WITH DIALYTIKA;UPSILON WITH DIALYTIKA"⟩,
    ⟨0x3cc, "GREEK SMALL LETTER ", "OMICRON WITH TONOS;UPSILON WITH TONOS;OMEGA WITH TONOS"⟩,
    ⟨0x3cf, "GREEK ", "CAPITAL KAI SYMBOL;BETA SYMBOL;THETA SYMBOL;UPSILON WITH HOOK SYMBOL"⟩]

def nameRowsB : List NameRow := [
    ⟨0x3d3, "GREEK UPSILON WITH ", "ACUTE AND HOOK SYMBOL;DIAERESIS AND HOOK SYMBOL"⟩,
    ⟨0x3d5, "GREEK ", "PHI SYMBOL;PI SYMBOL;KAI SYMBOL;LETTER ARCHAIC KOPPA"⟩,
    ⟨0x3d9, "GREEK ", "SMALL LETTER ARCHAIC KOPPA;LETTER STIGMA;SMALL LETTER STIGMA"⟩,
    ⟨0x3dc, "GREEK ", "LETTER DIGAMMA;SMALL LETTER DIGAMMA;LETTER KOPPA;SMALL LETTER KOPPA"⟩,
    ⟨0x3e0, "", "GREEK LETTER SAMPI;GREEK SMALL LETTER SAMPI;COPTIC CAPITAL LETTER SHEI"⟩,
    ⟨0x3e3, "COPTIC ", "SMALL LETTER SHEI;CAPITAL LETTER FEI;SMALL LETTER FEI"⟩,
    ⟨0x3e6, "COPTIC ", "CAPITAL LETTER KHEI;SMALL LETTER KHEI;CAPITAL LETTER HORI"⟩,
    ⟨0x3e9, "COPTIC ", "SMALL LETTER HORI;CAPITAL LETTER GANGIA;SMALL LETTER GANGIA"⟩,
    ⟨0x3ec, "COPTIC ", "CAPITAL LETTER SHIMA;SMALL LETTER SHIMA;CAPITAL LETTER DEI"⟩,
    ⟨0x3ef, "", "COPTIC SMALL LETTER DEI;GREEK KAPPA SYMBOL;GREEK RHO SYMBOL"⟩,
    ⟨0x3f2, "GREEK ", "LUNATE SIGMA SYMBOL;LETTER YOT;CAPITAL THETA SYMBOL;LUNATE EPSILON SYMBOL"⟩,
    ⟨0x3f6, "GREEK ", "REVERSED LUNATE EPSILON SYMBOL;CAPITAL LETTER SHO;SMALL LETTER SHO"⟩,
    ⟨0x3f9, "GREEK ", "CAPITAL LUNATE SIGMA SYMBOL;CAPITAL LETTER SAN;SMALL LETTER SAN"⟩,
    ⟨0x3fc, "GREEK ", "RHO WITH STROKE SYMBOL;CAPITAL REVERSED LUNATE SIGMA SYMBOL"⟩,
    ⟨0x3fe, "GREEK CAPITAL ", "DOTTED LUNATE SIGMA SYMBOL;REVERSED DOTTED LUNATE SIGMA SYMBOL"⟩,
    ⟨0x400, "CYRILLIC CAPITAL LETTER ", "IE WITH GRAVE;IO;DJE;GJE;UKRAINIAN IE;DZE"⟩,
    ⟨0x406, "CYRILLIC CAPITAL LETTER ", "BYELORUSSIAN-UKRAINIAN I;YI;JE;LJE;NJE;TSHE;KJE"⟩,
    ⟨0x40d, "CYRILLIC CAPITAL LETTER ", "I WITH GRAVE;SHORT U;DZHE;A;BE;VE;GHE;DE;IE;ZHE;ZE;I"⟩,
    ⟨0x419, "CYRILLIC CAPITAL LETTER ", "SHORT I;KA;EL;EM;EN;O;PE;ER;ES;TE;U;EF;HA;TSE;CHE;SHA"⟩,
    ⟨0x429, "CYRILLIC CAPITAL LETTER ", "SHCHA;HARD SIGN;YERU;SOFT SIGN;E;YU;YA"⟩,
    ⟨0x430, "CYRILLIC SMALL LETTER ", "A;BE;VE;GHE;DE;IE;ZHE;ZE;I;SHORT I;KA;EL;EM;EN;O;PE;ER;ES"⟩,
    ⟨0x442, "CYRILLIC SMALL LETTER ", "TE;U;EF;HA;TSE;CHE;SHA;SHCHA;HARD SIGN;YERU;SOFT SIGN;E"⟩,
    ⟨0x44e, "CYRILLIC SMALL LETTER ", "YU;YA;IE WITH GRAVE;IO;DJE;GJE;UKRAINIAN IE;DZE"⟩,
    ⟨0x456, "CYRILLIC SMALL LETTER ", "BYELORUSSIAN-UKRAINIAN I;YI;JE;LJE;NJE;TSHE;KJE"⟩,
    ⟨0x45d, "CYRILLIC SMALL LETTER ", "I WITH GRAVE;SHORT U;DZHE"⟩,
    ⟨0x2000, "", "EN QUAD;EM QUAD;EN SPACE;EM SPACE;THREE-PER-EM SPACE;FOUR-PER-EM SPACE"⟩,
    ⟨0x2006, "", "SIX-PER-EM SPACE;FIGURE SPACE;PUNCTUATION SPACE;THIN SPACE;HAIR SPACE"⟩,
    ⟨0x200b, "", "ZERO WIDTH SPACE;ZERO WIDTH NON-JOINER;ZERO WIDTH JOINER;LEFT-TO-RIGHT MARK"⟩,
    ⟨0x200f, "", "RIGHT-TO-LEFT MARK;HYPHEN;NON-BREAKING HYPHEN;FIGURE DASH;EN DASH;EM DASH"⟩,
    ⟨0x2015, "", "HORIZONTAL BAR;DOUBLE VERTICAL LINE;DOUBLE LOW LINE;LEFT SINGLE QUOTATION MARK"⟩,
    ⟨0x2019, "", "RIGHT SINGLE QUOTATION MARK;SINGLE LOW-9 QUOTATION MARK"⟩,
    ⟨0x201b, "", "SINGLE HIGH-REVERSED-9 QUOTATION MARK;LEFT DOUBLE QUOTATION MARK"⟩,
    ⟨0x201d, "", "RIGHT DOUBLE QUOTATION MARK;DOUBLE LOW-9 QUOTATION MARK"⟩,
    ⟨0x201f, "", "DOUBLE HIGH-REVERSED-9 QUOTATION MARK;DAGGER;DOUBLE DAGGER;BULLET"⟩,
    ⟨0x2023, "", "TRIANGULAR BULLET;ONE DOT LEADER;TWO DOT LEADER;HORIZONTAL ELLIPSIS"⟩,
    ⟨0x2027, "", "HYPHENATION POINT;LINE SEPARATOR;PARAGRAPH SEPARATOR;LEFT-TO-RIGHT EMBEDDING"⟩,
    ⟨0x202b, "", "RIGHT-TO-LEFT EMBEDDING;POP DIRECTIONAL FORMATTING;LEFT-TO-RIGHT OVERRIDE"⟩,
    ⟨0x202e, "", "RIGHT-TO-LEFT OVERRIDE;NARROW NO-BREAK SPACE;PER MILLE SIGN"⟩,
    ⟨0x2031, "", "PER TEN THOUSAND SIGN;PRIME;DOUBLE PRIME;TRIPLE PRIME;REVERSED PRIME"⟩,
    ⟨0x2036, "", "REVERSED DOUBLE PRIME;REVERSED TRIPLE PRIME;CARET"⟩,
    ⟨0x2039, "SINGLE ", "LEFT-POINTING ANGLE QUOTATION MARK;RIGHT-POINTING ANGLE QUOTATION MARK"⟩,
    ⟨0x203b, "", "REFERENCE MARK;DOUBLE EXCLAMATION MARK;INTERROBANG;OVERLINE;UNDERTIE"⟩,
    ⟨0x2040, "", "CHARACTER TIE;CARET INSERTION POINT;ASTERISM;HYPHEN BULLET;FRACTION SLASH"⟩,
    ⟨0x2045, "", "LEFT SQUARE BRACKET WITH QUILL;RIGHT SQUARE BRACKET WITH QUILL"⟩,
    ⟨0x2047, "", "DOUBLE QUESTION MARK;QUESTION EXCLAMATION MARK;EXCLAMATION QUESTION MARK"⟩,
    ⟨0x204a, "", "TIRONIAN SIGN ET;REVERSED PILCROW SIGN;BLACK LEFTWARDS BULLET"⟩,
    ⟨0x204d, "", "BLACK RIGHTWARDS BULLET;LOW ASTERISK;REVERSED SEMICOLON;CLOSE UP"⟩,
    ⟨0x2051, "", "TWO ASTERISKS ALIGNED VERTICALLY;COMMERCIAL MINUS SIGN;SWUNG DASH"⟩,
    ⟨0x2054, "", "INVERTED UNDERTIE;FLOWER PUNCTUATION MARK;THREE DOT PUNCTUATION"⟩,
    ⟨0x2057, "", "QUADRUPLE PRIME;FOUR DOT PUNCTUATION;FIVE DOT PUNCTUATION;TWO DOT PUNCTUATION"⟩,
    ⟨0x205b, "", "FOUR DOT MARK;DOTTED CROSS;TRICOLON;VERTICAL FOUR DOTS"⟩,
    ⟨0x205f, "", "MEDIUM MATHEMATICAL SPACE;WORD JOINER;FUNCTION APPLICATION;INVISIBLE TIMES"⟩,
    ⟨0x2063, "INVISIBLE ", "SEPARATOR;PLUS"⟩,
    ⟨0x2066, "", "LEFT-TO-RIGHT ISOLATE;RIGHT-TO-LEFT ISOLATE;FIRST STRONG ISOLATE"⟩,
    ⟨0x2069, "", "POP DIRECTIONAL ISOLATE;INHIBIT SYMMETRIC SWAPPING;ACTIVATE SYMMETRIC SWAPPING"⟩,
    ⟨0x206c, "", "INHIBIT ARABIC FORM SHAPING;ACTIVATE ARABIC FORM SHAPING;NATIONAL DIGIT SHAPES"⟩,
    ⟨0x206f, "NOMINAL DIGIT ", "SHAPES"⟩,
    ⟨0x2070, "SUPERSCRIPT ", "ZERO;LATIN SMALL LETTER I"⟩,
    ⟨0x2074, "SUPERSCRIPT ", "FOUR;FIVE;SIX;SEVEN;EIGHT;NINE;PLUS SIGN;MINUS;EQUALS SIGN"⟩,
    ⟨0x207d, "SUPERSCRIPT ", "LEFT PARENTHESIS;RIGHT PARENTHESIS;LATIN SMALL LETTER N"⟩,
    ⟨0x2080, "SUBSCRIPT ", "ZERO;ONE;TWO;THREE;FOUR;FIVE;SIX;SEVEN;EIGHT;NINE;PLUS SIGN;MINUS"⟩,
    ⟨0x208c, "SUBSCRIPT ", "EQUALS SIGN;LEFT PARENTHESIS;RIGHT PARENTHESIS"⟩,
    ⟨0x2090, "LATIN SUBSCRIPT SMALL LETTER ", "A;E;O;X;SCHWA;H;K;L;M;N;P;S;T"⟩,
    ⟨0x20a0, "", "EURO-CURRENCY SIGN;COLON SIGN;CRUZEIRO SIGN;FRENCH FRANC SIGN;LIRA SIGN"⟩,
    ⟨0x20a5, "", "MILL SIGN;NAIRA SIGN;PESETA SIGN;RUPEE SIGN;WON SIGN;NEW SHEQEL SIGN;DONG SIGN"⟩,
    ⟨0x20ac, "", "EURO SIGN;KIP SIGN;TUGRIK SIGN;DRACHMA SIGN;GERMAN PENNY SIGN;PESO SIGN"⟩,
    ⟨0x20b2, "", "GUARANI SIGN;AUSTRAL SIGN;HRYVNIA SIGN;CEDI SIGN;LIVRE TOURNOIS SIGN"⟩,
    ⟨0x20b7, "", "SPESMILO SIGN;TENGE SIGN;INDIAN RUPEE SIGN;TURKISH LIRA SIGN;NORDIC MARK SIGN"⟩,
    ⟨0x20bc, "", "MANAT SIGN;RUBLE SIGN;LARI SIGN;BITCOIN SIGN;SOM SIGN"⟩,
    ⟨0x2100, "", "ACCOUNT OF;ADDRESSED TO THE SUBJECT;DOUBLE-STRUCK CAPITAL C;DEGREE CELSIUS"⟩,
    ⟨0x2104, "", "CENTRE LINE SYMBOL;CARE OF;CADA UNA;EULER CONSTANT;SCRUPLE;DEGREE FAHRENHEIT"⟩,
    ⟨0x210a, "", "SCRIPT SMALL G;SCRIPT CAPITAL H;BLACK-LETTER CAPITAL H;DOUBLE-STRUCK CAPITAL H"⟩,
    ⟨0x210e, "", "PLANCK CONSTANT;PLANCK CONSTANT OVER TWO PI;SCRIPT CAPITAL I"⟩,
    ⟨0x2111, "", "BLACK-LETTER CAPITAL I;SCRIPT CAPITAL L;SCRIPT SMALL L;L B BAR SYMBOL"⟩,
    ⟨0x2115, "", "DOUBLE-STRUCK CAPITAL N;NUMERO SIGN"⟩,
    ⟨0x2118, "", "SCRIPT CAPITAL P;DOUBLE-STRUCK CAPITAL P;DOUBLE-STRUCK CAPITAL Q"⟩,
    ⟨0x211b, "", "SCRIPT CAPITAL R;BLACK-LETTER CAPITAL R;DOUBLE-STRUCK CAPITAL R"⟩,
    ⟨0x211e, "", "PRESCRIPTION TAKE;RESPONSE;SERVICE MARK;TELEPHONE SIGN;TRADE MARK SIGN"⟩,
    ⟨0x2123, "", "VERSICLE;DOUBLE-STRUCK CAPITAL Z;OUNCE SIGN;OHM SIGN;INVERTED OHM SIGN"⟩,
    ⟨0x2128, "", "BLACK-LETTER CAPITAL Z;TURNED GREEK SMALL LETTER IOTA;KELVIN SIGN"⟩,
    ⟨0x212b, "", "ANGSTROM SIGN;SCRIPT CAPITAL B;BLACK-LETTER CAPITAL C;ESTIMATED SYMBOL"⟩,
    ⟨0x212f, "", "SCRIPT SMALL E;SCRIPT CAPITAL E;SCRIPT CAPITAL F;TURNED CAPITAL F"⟩,
    ⟨0x2133, "", "SCRIPT CAPITAL M;SCRIPT SMALL O;ALEF SYMBOL;BET SYMBOL;GIMEL SYMBOL"⟩,
    ⟨0x2138, "", "DALET SYMBOL;INFORMATION SOURCE;ROTATED CAPITAL Q;FACSIMILE SIGN"⟩,
    ⟨0x213c, "DOUBLE-STRUCK ", "SMALL PI;SMALL GAMMA;CAPITAL GAMMA;CAPITAL PI;N-ARY SUMMATION"⟩,
    ⟨0x2141, "TURNED SANS-SERIF CAPITAL ", "G;L"⟩,
    ⟨0x2143, "", "REVERSED SANS-SERIF CAPITAL L;TURNED SANS-SERIF CAPITAL Y"⟩,
    ⟨0x2145, "DOUBLE-STRUCK ITALIC ", "CAPITAL D;SMALL D;SMALL E;SMALL I;SMALL J"⟩,
    ⟨0x214a, "", "PROPERTY LINE;TURNED AMPERSAND;PER SIGN;AKTIESELSKAB;TURNED SMALL F"⟩,
    ⟨0x214f, "SYMBOL FOR SAMARITAN ", "SOURCE"⟩,
    ⟨0x2190, "", "LEFTWARDS ARROW;UPWARDS ARROW;RIGHTWARDS ARROW;DOWNWARDS ARROW"⟩,
    ⟨0x2194, "", "LEFT RIGHT ARROW;UP DOWN ARROW;NORTH WEST ARROW;NORTH EAST ARROW"⟩,
    ⟨0x2198, "", "SOUTH EAST ARROW;SOUTH WEST ARROW;LEFTWARDS ARROW WITH STROKE"⟩,
    ⟨0x219b, "", "RIGHTWARDS ARROW WITH STROKE;LEFTWARDS WAVE ARROW;RIGHTWARDS WAVE ARROW"⟩,
    ⟨0x219e, "", "LEFTWARDS TWO HEADED ARROW;UPWARDS TWO HEADED ARROW"⟩,
    ⟨0x21a0, "", "RIGHTWARDS TWO HEADED ARROW;DOWNWARDS TWO HEADED ARROW"⟩,
    ⟨0x21a2, "", "LEFTWARDS ARROW WITH TAIL;RIGHTWARDS ARROW WITH TAIL;LEFTWARDS ARROW FROM BAR"⟩,
    ⟨0x21a5, "", "UPWARDS ARROW FROM BAR;RIGHTWARDS ARROW FROM BAR;DOWNWARDS ARROW FROM BAR"⟩,
    ⟨0x21a8, "", "UP DOWN ARROW WITH BASE;LEFTWARDS ARROW WITH HOOK;RIGHTWARDS ARROW WITH HOOK"⟩,
    ⟨0x21ab, "", "LEFTWARDS ARROW WITH LOOP;RIGHTWARDS ARROW WITH LOOP;LEFT RIGHT WAVE ARROW"⟩,
    ⟨0x21ae, "", "LEFT RIGHT ARROW WITH STROKE;DOWNWARDS ZIGZAG ARROW"⟩,
    ⟨0x21b0, "UPWARDS ARROW WITH TIP ", "LEFTWARDS;RIGHTWARDS"⟩,
    ⟨0x21b2, "DOWNWARDS ARROW WITH TIP ", "LEFTWARDS;RIGHTWARDS"⟩,
    ⟨0x21b4, "", "RIGHTWARDS ARROW WITH CORNER DOWNWARDS;DOWNWARDS ARROW WITH CORNER LEFTWARDS"⟩,
    ⟨0x21b6, "", "ANTICLOCKWISE TOP SEMICIRCLE ARROW;CLOCKWISE TOP SEMICIRCLE ARROW"⟩,
    ⟨0x21b8, "NORTH WEST ARROW TO LONG ", "BAR"⟩,
    ⟨0x21b9, "LEFTWARDS ARROW TO BAR OVER RIGHTWARDS ARROW TO ", "BAR"⟩,
    ⟨0x21ba, "", "ANTICLOCKWISE OPEN CIRCLE ARROW;CLOCKWISE OPEN CIRCLE ARROW"⟩,
    ⟨0x21bc, "LEFTWARDS HARPOON WITH BARB ", "UPWARDS;DOWNWARDS"⟩,
    ⟨0x21be, "UPWARDS HARPOON WITH BARB ", "RIGHTWARDS;LEFTWARDS"⟩,
    ⟨0x21c0, "RIGHTWARDS HARPOON WITH BARB ", "UPWARDS;DOWNWARDS"⟩,
    ⟨0x21c2, "DOWNWARDS HARPOON WITH BARB ", "RIGHTWARDS;LEFTWARDS"⟩,
    ⟨0x21c4, "RIGHTWARDS ARROW OVER LEFTWARDS ", "ARROW"⟩,
    ⟨0x21c5, "UPWARDS ARROW LEFTWARDS OF DOWNWARDS ", "ARROW"⟩,
    ⟨0x21c6, "LEFTWARDS ", "ARROW OVER RIGHTWARDS ARROW;PAIRED ARROWS"⟩,
    ⟨0x21c8, "", "UPWARDS PAIRED ARROWS;RIGHTWARDS PAIRED ARROWS;DOWNWARDS PAIRED ARROWS"⟩,
    ⟨0x21cb, "LEFTWARDS HARPOON OVER RIGHTWARDS ", "HARPOON"⟩,
    ⟨0x21cc, "", "RIGHTWARDS HARPOON OVER LEFTWARDS HARPOON;LEFTWARDS DOUBLE ARROW WITH STROKE"⟩,
    ⟨0x21ce, "", "LEFT RIGHT DOUBLE ARROW WITH STROKE;RIGHTWARDS DOUBLE ARROW WITH STROKE"⟩,
    ⟨0x21d0, "", "LEFTWARDS DOUBLE ARROW;UPWARDS DOUBLE ARROW;RIGHTWARDS DOUBLE ARROW"⟩]

def nameRowsC : List NameRow := [
    ⟨0x21d3, "", "DOWNWARDS DOUBLE ARROW;LEFT RIGHT DOUBLE ARROW;UP DOWN DOUBLE ARROW"⟩,
    ⟨0x21d6, "", "NORTH WEST DOUBLE ARROW;NORTH EAST DOUBLE ARROW;SOUTH EAST DOUBLE ARROW"⟩,
    ⟨0x21d9, "", "SOUTH WEST DOUBLE ARROW;LEFTWARDS TRIPLE ARROW;RIGHTWARDS TRIPLE ARROW"⟩,
    ⟨0x21dc, "", "LEFTWARDS SQUIGGLE ARROW;RIGHTWARDS SQUIGGLE ARROW"⟩,
    ⟨0x21de, "", "UPWARDS ARROW WITH DOUBLE STROKE;DOWNWARDS ARROW WITH DOUBLE STROKE"⟩,
    ⟨0x21e0, "", "LEFTWARDS DASHED ARROW;UPWARDS DASHED ARROW;RIGHTWARDS DASHED ARROW"⟩,
    ⟨0x21e3, "", "DOWNWARDS DASHED ARROW;LEFTWARDS ARROW TO BAR;RIGHTWARDS ARROW TO BAR"⟩,
    ⟨0x21e6, "", "LEFTWARDS WHITE ARROW;UPWARDS WHITE ARROW;RIGHTWARDS WHITE ARROW"⟩,
    ⟨0x21e9, "", "DOWNWARDS WHITE ARROW;UPWARDS WHITE ARROW FROM BAR"⟩,
    ⟨0x21eb, "UPWARDS WHITE ARROW ON ", "PEDESTAL;PEDESTAL WITH HORIZONTAL BAR"⟩,
    ⟨0x21ed, "UPWARDS WHITE ", "ARROW ON PEDESTAL WITH VERTICAL BAR;DOUBLE ARROW"⟩,
    ⟨0x21ef, "", "UPWARDS WHITE DOUBLE ARROW ON PEDESTAL;RIGHTWARDS WHITE ARROW FROM WALL"⟩,
    ⟨0x21f1, "", "NORTH WEST ARROW TO CORNER;SOUTH EAST ARROW TO CORNER;UP DOWN WHITE ARROW"⟩,
    ⟨0x21f4, "", "RIGHT ARROW WITH SMALL CIRCLE;DOWNWARDS ARROW LEFTWARDS OF UPWARDS ARROW"⟩,
    ⟨0x21f6, "", "THREE RIGHTWARDS ARROWS;LEFTWARDS ARROW WITH VERTICAL STROKE"⟩,
    ⟨0x21f8, "", "RIGHTWARDS ARROW WITH VERTICAL STROKE;LEFT RIGHT ARROW WITH VERTICAL STROKE"⟩,
    ⟨0x21fa, "LEFTWARDS ARROW WITH DOUBLE VERTICAL ", "STROKE"⟩,
    ⟨0x21fb, "RIGHTWARDS ARROW WITH DOUBLE VERTICAL ", "STROKE"⟩,
    ⟨0x21fc, "", "LEFT RIGHT ARROW WITH DOUBLE VERTICAL STROKE;LEFTWARDS OPEN-HEADED ARROW"⟩,
    ⟨0x21fe, "", "RIGHTWARDS OPEN-HEADED ARROW;LEFT RIGHT OPEN-HEADED ARROW"⟩,
    ⟨0x2200, "", "FOR ALL;COMPLEMENT;PARTIAL DIFFERENTIAL;THERE EXISTS;THERE DOES NOT EXIST"⟩,
    ⟨0x2205, "", "EMPTY SET;INCREMENT;NABLA;ELEMENT OF;NOT AN ELEMENT OF;SMALL ELEMENT OF"⟩,
    ⟨0x220b, "", "CONTAINS AS MEMBER;DOES NOT CONTAIN AS MEMBER;SMALL CONTAINS AS MEMBER"⟩,
    ⟨0x220e, "", "END OF PROOF;N-ARY PRODUCT;N-ARY COPRODUCT;N-ARY SUMMATION;MINUS SIGN"⟩,
    ⟨0x2213, "", "MINUS-OR-PLUS SIGN;DOT PLUS;DIVISION SLASH;SET MINUS;ASTERISK OPERATOR"⟩,
    ⟨0x2218, "", "RING OPERATOR;BULLET OPERATOR;SQUARE ROOT;CUBE ROOT;FOURTH ROOT"⟩,
    ⟨0x221d, "", "PROPORTIONAL TO;INFINITY;RIGHT ANGLE;ANGLE;MEASURED ANGLE;SPHERICAL ANGLE"⟩,
    ⟨0x2223, "", "DIVIDES;DOES NOT DIVIDE;PARALLEL TO;NOT PARALLEL TO;LOGICAL AND;LOGICAL OR"⟩,
    ⟨0x2229, "", "INTERSECTION;UNION;INTEGRAL;DOUBLE INTEGRAL;TRIPLE INTEGRAL;CONTOUR INTEGRAL"⟩,
    ⟨0x222f, "", "SURFACE INTEGRAL;VOLUME INTEGRAL;CLOCKWISE INTEGRAL;CLOCKWISE CONTOUR INTEGRAL"⟩,
    ⟨0x2233, "", "ANTICLOCKWISE CONTOUR INTEGRAL;THEREFORE;BECAUSE;RATIO;PROPORTION;DOT MINUS"⟩,
    ⟨0x2239, "", "EXCESS;GEOMETRIC PROPORTION;HOMOTHETIC;TILDE OPERATOR;REVERSED TILDE"⟩,
    ⟨0x223e, "", "INVERTED LAZY S;SINE WAVE;WREATH PRODUCT;NOT TILDE;MINUS TILDE"⟩,
    ⟨0x2243, "", "ASYMPTOTICALLY EQUAL TO;NOT ASYMPTOTICALLY EQUAL TO;APPROXIMATELY EQUAL TO"⟩,
    ⟨0x2246, "APPROXIMATELY BUT NOT ACTUALLY EQUAL ", "TO"⟩,
    ⟨0x2247, "", "NEITHER APPROXIMATELY NOR ACTUALLY EQUAL TO;ALMOST EQUAL TO"⟩,
    ⟨0x2249, "", "NOT ALMOST EQUAL TO;ALMOST EQUAL OR EQUAL TO;TRIPLE TILDE;ALL EQUAL TO"⟩,
    ⟨0x224d, "", "EQUIVALENT TO;GEOMETRICALLY EQUIVALENT TO;DIFFERENCE BETWEEN"⟩,
    ⟨0x2250, "", "APPROACHES THE LIMIT;GEOMETRICALLY EQUAL TO"⟩,
    ⟨0x2252, "", "APPROXIMATELY EQUAL TO OR THE IMAGE OF;IMAGE OF OR APPROXIMATELY EQUAL TO"⟩,
    ⟨0x2254, "", "COLON EQUALS;EQUALS COLON;RING IN EQUAL TO;RING EQUAL TO;CORRESPONDS TO"⟩,
    ⟨0x2259, "", "ESTIMATES;EQUIANGULAR TO;STAR EQUALS;DELTA EQUAL TO;EQUAL TO BY DEFINITION"⟩,
    ⟨0x225e, "", "MEASURED BY;QUESTIONED EQUAL TO;NOT EQUAL TO;IDENTICAL TO;NOT IDENTICAL TO"⟩,
    ⟨0x2263, "", "STRICTLY EQUIVALENT TO;LESS-THAN OR EQUAL TO;GREATER-THAN OR EQUAL TO"⟩,
    ⟨0x2266, "", "LESS-THAN OVER EQUAL TO;GREATER-THAN OVER EQUAL TO;LESS-THAN BUT NOT EQUAL TO"⟩,
    ⟨0x2269, "", "GREATER-THAN BUT NOT EQUAL TO;MUCH LESS-THAN;MUCH GREATER-THAN;BETWEEN"⟩,
    ⟨0x226d, "NOT ", "EQUIVALENT TO;LESS-THAN;GREATER-THAN"⟩,
    ⟨0x2270, "NEITHER ", "LESS-THAN NOR EQUAL TO;GREATER-THAN NOR EQUAL TO"⟩,
    ⟨0x2272, "", "LESS-THAN OR EQUIVALENT TO;GREATER-THAN OR EQUIVALENT TO"⟩,
    ⟨0x2274, "NEITHER ", "LESS-THAN NOR EQUIVALENT TO;GREATER-THAN NOR EQUIVALENT TO"⟩,
    ⟨0x2276, "", "LESS-THAN OR GREATER-THAN;GREATER-THAN OR LESS-THAN"⟩,
    ⟨0x2278, "", "NEITHER LESS-THAN NOR GREATER-THAN;NEITHER GREATER-THAN NOR LESS-THAN;PRECEDES"⟩,
    ⟨0x227b, "", "SUCCEEDS;PRECEDES OR EQUAL TO;SUCCEEDS OR EQUAL TO;PRECEDES OR EQUIVALENT TO"⟩,
    ⟨0x227f, "", "SUCCEEDS OR EQUIVALENT TO;DOES NOT PRECEDE;DOES NOT SUCCEED;SUBSET OF"⟩,
    ⟨0x2283, "", "SUPERSET OF;NOT A SUBSET OF;NOT A SUPERSET OF;SUBSET OF OR EQUAL TO"⟩,
    ⟨0x2287, "", "SUPERSET OF OR EQUAL TO;NEITHER A SUBSET OF NOR EQUAL TO"⟩,
    ⟨0x2289, "", "NEITHER A SUPERSET OF NOR EQUAL TO;SUBSET OF WITH NOT EQUAL TO"⟩,
    ⟨0x228b, "", "SUPERSET OF WITH NOT EQUAL TO;MULTISET;MULTISET MULTIPLICATION;MULTISET UNION"⟩,
    ⟨0x228f, "SQUARE IMAGE ", "OF"⟩,
    ⟨0x2291, "SQUARE IMAGE OF OR EQUAL ", "TO"⟩,
    ⟨0x2293, "", "SQUARE CAP;SQUARE CUP;CIRCLED PLUS;CIRCLED MINUS;CIRCLED TIMES"⟩,
    ⟨0x2298, "CIRCLED ", "DIVISION SLASH;DOT OPERATOR;RING OPERATOR;ASTERISK OPERATOR;EQUALS"⟩,
    ⟨0x229d, "", "CIRCLED DASH;SQUARED PLUS;SQUARED MINUS;SQUARED TIMES;SQUARED DOT OPERATOR"⟩,
    ⟨0x22a2, "", "RIGHT TACK;LEFT TACK;DOWN TACK;UP TACK;ASSERTION;MODELS;TRUE;FORCES"⟩,
    ⟨0x22aa, "", "TRIPLE VERTICAL BAR RIGHT TURNSTILE;DOUBLE VERTICAL BAR DOUBLE RIGHT TURNSTILE"⟩,
    ⟨0x22ac, "", "DOES NOT PROVE;NOT TRUE;DOES NOT FORCE"⟩,
    ⟨0x22af, "", "NEGATED DOUBLE VERTICAL BAR DOUBLE RIGHT TURNSTILE;PRECEDES UNDER RELATION"⟩,
    ⟨0x22b1, "", "SUCCEEDS UNDER RELATION;NORMAL SUBGROUP OF;CONTAINS AS NORMAL SUBGROUP"⟩,
    ⟨0x22b4, "", "NORMAL SUBGROUP OF OR EQUAL TO;CONTAINS AS NORMAL SUBGROUP OR EQUAL TO"⟩,
    ⟨0x22b7, "", "IMAGE OF;MULTIMAP;HERMITIAN CONJUGATE MATRIX;INTERCALATE;XOR;NAND;NOR"⟩,
    ⟨0x22be, "", "RIGHT ANGLE WITH ARC;RIGHT TRIANGLE;N-ARY LOGICAL AND;N-ARY LOGICAL OR"⟩,
    ⟨0x22c2, "", "N-ARY INTERSECTION;N-ARY UNION;DIAMOND OPERATOR;DOT OPERATOR;STAR OPERATOR"⟩,
    ⟨0x22c7, "", "DIVISION TIMES;BOWTIE;LEFT NORMAL FACTOR SEMIDIRECT PRODUCT"⟩,
    ⟨0x22ca, "", "RIGHT NORMAL FACTOR SEMIDIRECT PRODUCT;LEFT SEMIDIRECT PRODUCT"⟩,
    ⟨0x22cc, "", "RIGHT SEMIDIRECT PRODUCT;REVERSED TILDE EQUALS;CURLY LOGICAL OR"⟩,
    ⟨0x22cf, "", "CURLY LOGICAL AND;DOUBLE SUBSET;DOUBLE SUPERSET;DOUBLE INTERSECTION"⟩,
    ⟨0x22d3, "", "DOUBLE UNION;PITCHFORK;EQUAL AND PARALLEL TO;LESS-THAN WITH DOT"⟩,
    ⟨0x22d7, "", "GREATER-THAN WITH DOT;VERY MUCH LESS-THAN;VERY MUCH GREATER-THAN"⟩,
    ⟨0x22da, "", "LESS-THAN EQUAL TO OR GREATER-THAN;GREATER-THAN EQUAL TO OR LESS-THAN"⟩,
    ⟨0x22dc, "EQUAL TO OR ", "LESS-THAN;GREATER-THAN;PRECEDES;SUCCEEDS"⟩,
    ⟨0x22e0, "DOES NOT ", "PRECEDE OR EQUAL;SUCCEED OR EQUAL"⟩,
    ⟨0x22e2, "NOT SQUARE IMAGE OF OR EQUAL ", "TO"⟩,
    ⟨0x22e4, "SQUARE IMAGE OF OR NOT EQUAL ", "TO"⟩,
    ⟨0x22e6, "", "LESS-THAN BUT NOT EQUIVALENT TO;GREATER-THAN BUT NOT EQUIVALENT TO"⟩,
    ⟨0x22e8, "", "PRECEDES BUT NOT EQUIVALENT TO;SUCCEEDS BUT NOT EQUIVALENT TO"⟩,
    ⟨0x22ea, "", "NOT NORMAL SUBGROUP OF;DOES NOT CONTAIN AS NORMAL SUBGROUP"⟩,
    ⟨0x22ec, "NOT NORMAL SUBGROUP OF OR EQUAL ", "TO"⟩,
    ⟨0x22ed, "", "DOES NOT CONTAIN AS NORMAL SUBGROUP OR EQUAL;VERTICAL ELLIPSIS"⟩,
    ⟨0x22ef, "", "MIDLINE HORIZONTAL ELLIPSIS;UP RIGHT DIAGONAL ELLIPSIS"⟩,
    ⟨0x22f1, "", "DOWN RIGHT DIAGONAL ELLIPSIS;ELEMENT OF WITH LONG HORIZONTAL STROKE"⟩,
    ⟨0x22f3, "ELEMENT OF WITH VERTICAL BAR AT END OF HORIZONTAL ", "STROKE"⟩,
    ⟨0x22f4, "SMALL ELEMENT OF WITH VERTICAL BAR AT END OF HORIZONTAL ", "STROKE"⟩,
    ⟨0x22f5, "ELEMENT OF WITH ", "DOT ABOVE;OVERBAR"⟩,
    ⟨0x22f7, "", "SMALL ELEMENT OF WITH OVERBAR;ELEMENT OF WITH UNDERBAR"⟩,
    ⟨0x22f9, "", "ELEMENT OF WITH TWO HORIZONTAL STROKES;CONTAINS WITH LONG HORIZONTAL STROKE"⟩,
    ⟨0x22fb, "CONTAINS WITH VERTICAL BAR AT END OF HORIZONTAL ", "STROKE"⟩,
    ⟨0x22fc, "SMALL CONTAINS WITH VERTICAL BAR AT END OF HORIZONTAL ", "STROKE"⟩,
    ⟨0x22fd, "", "CONTAINS WITH OVERBAR;SMALL CONTAINS WITH OVERBAR;Z NOTATION BAG MEMBERSHIP"⟩,
    ⟨0x2500, "BOX DRAWINGS ", "LIGHT HORIZONTAL;HEAVY HORIZONTAL;LIGHT VERTICAL;HEAVY VERTICAL"⟩,
    ⟨0x2504, "BOX DRAWINGS ", "LIGHT TRIPLE DASH HORIZONTAL;HEAVY TRIPLE DASH HORIZONTAL"⟩,
    ⟨0x2506, "BOX DRAWINGS ", "LIGHT TRIPLE DASH VERTICAL;HEAVY TRIPLE DASH VERTICAL"⟩,
    ⟨0x2508, "BOX DRAWINGS ", "LIGHT QUADRUPLE DASH HORIZONTAL;HEAVY QUADRUPLE DASH HORIZONTAL"⟩,
    ⟨0x250a, "BOX DRAWINGS ", "LIGHT QUADRUPLE DASH VERTICAL;HEAVY QUADRUPLE DASH VERTICAL"⟩,
    ⟨0x250c, "BOX DRAWINGS ", "LIGHT DOWN AND RIGHT;DOWN LIGHT AND RIGHT HEAVY"⟩,
    ⟨0x250e, "BOX DRAWINGS ", "DOWN HEAVY AND RIGHT LIGHT;HEAVY DOWN AND RIGHT"⟩,
    ⟨0x2510, "BOX DRAWINGS ", "LIGHT DOWN AND LEFT;DOWN LIGHT AND LEFT HEAVY"⟩,
    ⟨0x2512, "BOX DRAWINGS ", "DOWN HEAVY AND LEFT LIGHT;HEAVY DOWN AND LEFT;LIGHT UP AND RIGHT"⟩,
    ⟨0x2515, "BOX DRAWINGS UP ", "LIGHT AND RIGHT HEAVY;HEAVY AND RIGHT LIGHT"⟩,
    ⟨0x2517, "BOX DRAWINGS ", "HEAVY UP AND RIGHT;LIGHT UP AND LEFT;UP LIGHT AND LEFT HEAVY"⟩,
    ⟨0x251a, "BOX DRAWINGS ", "UP HEAVY AND LEFT LIGHT;HEAVY UP AND LEFT"⟩,
    ⟨0x251c, "BOX DRAWINGS ", "LIGHT VERTICAL AND RIGHT;VERTICAL LIGHT AND RIGHT HEAVY"⟩,
    ⟨0x251e, "BOX DRAWINGS ", "UP HEAVY AND RIGHT DOWN LIGHT;DOWN HEAVY AND RIGHT UP LIGHT"⟩,
    ⟨0x2520, "BOX DRAWINGS ", "VERTICAL HEAVY AND RIGHT LIGHT;DOWN LIGHT AND RIGHT UP HEAVY"⟩,
    ⟨0x2522, "BOX DRAWINGS ", "UP LIGHT AND RIGHT DOWN HEAVY;HEAVY VERTICAL AND RIGHT"⟩,
    ⟨0x2524, "BOX DRAWINGS ", "LIGHT VERTICAL AND LEFT;VERTICAL LIGHT AND LEFT HEAVY"⟩,
    ⟨0x2526, "BOX DRAWINGS ", "UP HEAVY AND LEFT DOWN LIGHT;DOWN HEAVY AND LEFT UP LIGHT"⟩,
    ⟨0x2528, "BOX DRAWINGS ", "VERTICAL HEAVY AND LEFT LIGHT;DOWN LIGHT AND LEFT UP HEAVY"⟩,
    ⟨0x252a, "BOX DRAWINGS ", "UP LIGHT AND LEFT DOWN HEAVY;HEAVY VERTICAL AND LEFT"⟩,
    ⟨0x252c, "BOX DRAWINGS ", "LIGHT DOWN AND HORIZONTAL;LEFT HEAVY AND RIGHT DOWN LIGHT"⟩,
    ⟨0x252e, "BOX DRAWINGS ", "RIGHT HEAVY AND LEFT DOWN LIGHT;DOWN LIGHT AND HORIZONTAL HEAVY"⟩]

def nameRowsD : List NameRow := [
    ⟨0x2530, "BOX DRAWINGS ", "DOWN HEAVY AND HORIZONTAL LIGHT;RIGHT LIGHT AND LEFT DOWN HEAVY"⟩,
    ⟨0x2532, "BOX DRAWINGS ", "LEFT LIGHT AND RIGHT DOWN HEAVY;HEAVY DOWN AND HORIZONTAL"⟩,
    ⟨0x2534, "BOX DRAWINGS ", "LIGHT UP AND HORIZONTAL;LEFT HEAVY AND RIGHT UP LIGHT"⟩,
    ⟨0x2536, "BOX DRAWINGS ", "RIGHT HEAVY AND LEFT UP LIGHT;UP LIGHT AND HORIZONTAL HEAVY"⟩,
    ⟨0x2538, "BOX DRAWINGS ", "UP HEAVY AND HORIZONTAL LIGHT;RIGHT LIGHT AND LEFT UP HEAVY"⟩,
    ⟨0x253a, "BOX DRAWINGS ", "LEFT LIGHT AND RIGHT UP HEAVY;HEAVY UP AND HORIZONTAL"⟩,
    ⟨0x253c, "BOX DRAWINGS ", "LIGHT VERTICAL AND HORIZONTAL;LEFT HEAVY AND RIGHT VERTICAL LIGHT"⟩,
    ⟨0x253e, "BOX DRAWINGS RIGHT HEAVY AND LEFT VERTICAL ", "LIGHT"⟩,
    ⟨0x253f, "BOX DRAWINGS VERTICAL LIGHT AND HORIZONTAL ", "HEAVY"⟩,
    ⟨0x2540, "BOX DRAWINGS UP HEAVY AND DOWN HORIZONTAL ", "LIGHT"⟩,
    ⟨0x2541, "BOX DRAWINGS DOWN HEAVY AND UP HORIZONTAL ", "LIGHT"⟩,
    ⟨0x2542, "BOX DRAWINGS VERTICAL HEAVY AND HORIZONTAL ", "LIGHT"⟩,
    ⟨0x2543, "BOX DRAWINGS LEFT UP HEAVY AND RIGHT DOWN ", "LIGHT"⟩,
    ⟨0x2544, "BOX DRAWINGS RIGHT UP HEAVY AND LEFT DOWN ", "LIGHT"⟩,
    ⟨0x2545, "BOX DRAWINGS LEFT DOWN HEAVY AND RIGHT UP ", "LIGHT"⟩,
    ⟨0x2546, "BOX DRAWINGS RIGHT DOWN HEAVY AND LEFT UP ", "LIGHT"⟩,
    ⟨0x2547, "BOX DRAWINGS DOWN LIGHT AND UP HORIZONTAL ", "HEAVY"⟩,
    ⟨0x2548, "BOX DRAWINGS UP LIGHT AND DOWN HORIZONTAL ", "HEAVY"⟩,
    ⟨0x2549, "BOX DRAWINGS RIGHT LIGHT AND LEFT VERTICAL ", "HEAVY"⟩,
    ⟨0x254a, "BOX DRAWINGS ", "LEFT LIGHT AND RIGHT VERTICAL HEAVY;HEAVY VERTICAL AND HORIZONTAL"⟩,
    ⟨0x254c, "BOX DRAWINGS ", "LIGHT DOUBLE DASH HORIZONTAL;HEAVY DOUBLE DASH HORIZONTAL"⟩,
    ⟨0x254e, "BOX DRAWINGS ", "LIGHT DOUBLE DASH VERTICAL;HEAVY DOUBLE DASH VERTICAL"⟩,
    ⟨0x2550, "BOX DRAWINGS ", "DOUBLE HORIZONTAL;DOUBLE VERTICAL;DOWN SINGLE AND RIGHT DOUBLE"⟩,
    ⟨0x2553, "BOX DRAWINGS ", "DOWN DOUBLE AND RIGHT SINGLE;DOUBLE DOWN AND RIGHT"⟩,
    ⟨0x2555, "BOX DRAWINGS DOWN ", "SINGLE AND LEFT DOUBLE;DOUBLE AND LEFT SINGLE"⟩,
    ⟨0x2557, "BOX DRAWINGS ", "DOUBLE DOWN AND LEFT;UP SINGLE AND RIGHT DOUBLE"⟩,
    ⟨0x2559, "BOX DRAWINGS ", "UP DOUBLE AND RIGHT SINGLE;DOUBLE UP AND RIGHT"⟩,
    ⟨0x255b, "BOX DRAWINGS UP ", "SINGLE AND LEFT DOUBLE;DOUBLE AND LEFT SINGLE"⟩,
    ⟨0x255d, "BOX DRAWINGS ", "DOUBLE UP AND LEFT;VERTICAL SINGLE AND RIGHT DOUBLE"⟩,
    ⟨0x255f, "BOX DRAWINGS ", "VERTICAL DOUBLE AND RIGHT SINGLE;DOUBLE VERTICAL AND RIGHT"⟩,
    ⟨0x2561, "BOX DRAWINGS VERTICAL ", "SINGLE AND LEFT DOUBLE;DOUBLE AND LEFT SINGLE"⟩,
    ⟨0x2563, "BOX DRAWINGS ", "DOUBLE VERTICAL AND LEFT;DOWN SINGLE AND HORIZONTAL DOUBLE"⟩,
    ⟨0x2565, "BOX DRAWINGS ", "DOWN DOUBLE AND HORIZONTAL SINGLE;DOUBLE DOWN AND HORIZONTAL"⟩,
    ⟨0x2567, "BOX DRAWINGS UP ", "SINGLE AND HORIZONTAL DOUBLE;DOUBLE AND HORIZONTAL SINGLE"⟩,
    ⟨0x2569, "BOX DRAWINGS ", "DOUBLE UP AND HORIZONTAL;VERTICAL SINGLE AND HORIZONTAL DOUBLE"⟩,
    ⟨0x256b, "BOX DRAWINGS VERTICAL DOUBLE AND HORIZONTAL ", "SINGLE"⟩,
    ⟨0x256c, "BOX DRAWINGS ", "DOUBLE VERTICAL AND HORIZONTAL;LIGHT ARC DOWN AND RIGHT"⟩,
    ⟨0x256e, "BOX DRAWINGS LIGHT ARC ", "DOWN AND LEFT;UP AND LEFT;UP AND RIGHT"⟩,
    ⟨0x2571, "BOX DRAWINGS LIGHT DIAGONAL UPPER ", "RIGHT TO LOWER LEFT;LEFT TO LOWER RIGHT"⟩,
    ⟨0x2573, "BOX DRAWINGS LIGHT ", "DIAGONAL CROSS;LEFT;UP;RIGHT;DOWN"⟩,
    ⟨0x2578, "BOX DRAWINGS HEAVY ", "LEFT;UP;RIGHT;DOWN"⟩,
    ⟨0x257c, "BOX DRAWINGS LIGHT ", "LEFT AND HEAVY RIGHT;UP AND HEAVY DOWN"⟩,
    ⟨0x257e, "BOX DRAWINGS HEAVY ", "LEFT AND LIGHT RIGHT;UP AND LIGHT DOWN"⟩,
    ⟨0x2580, "", "UPPER HALF BLOCK;LOWER ONE EIGHTH BLOCK;LOWER ONE QUARTER BLOCK"⟩,
    ⟨0x2583, "LOWER ", "THREE EIGHTHS BLOCK;HALF BLOCK;FIVE EIGHTHS BLOCK;THREE QUARTERS BLOCK"⟩,
    ⟨0x2587, "", "LOWER SEVEN EIGHTHS BLOCK;FULL BLOCK;LEFT SEVEN EIGHTHS BLOCK"⟩,
    ⟨0x258a, "LEFT ", "THREE QUARTERS BLOCK;FIVE EIGHTHS BLOCK;HALF BLOCK;THREE EIGHTHS BLOCK"⟩,
    ⟨0x258e, "", "LEFT ONE QUARTER BLOCK;LEFT ONE EIGHTH BLOCK;RIGHT HALF BLOCK;LIGHT SHADE"⟩,
    ⟨0x2592, "", "MEDIUM SHADE;DARK SHADE;UPPER ONE EIGHTH BLOCK;RIGHT ONE EIGHTH BLOCK"⟩,
    ⟨0x2596, "QUADRANT ", "LOWER LEFT;LOWER RIGHT;UPPER LEFT"⟩,
    ⟨0x2599, "QUADRANT UPPER LEFT AND LOWER ", "LEFT AND LOWER RIGHT;RIGHT"⟩,
    ⟨0x259b, "QUADRANT UPPER LEFT AND UPPER RIGHT AND LOWER ", "LEFT;RIGHT"⟩,
    ⟨0x259d, "QUADRANT UPPER ", "RIGHT;RIGHT AND LOWER LEFT;RIGHT AND LOWER LEFT AND LOWER RIGHT"⟩,
    ⟨0x25a0, "", "BLACK SQUARE;WHITE SQUARE;WHITE SQUARE WITH ROUNDED CORNERS"⟩,
    ⟨0x25a3, "", "WHITE SQUARE CONTAINING BLACK SMALL SQUARE;SQUARE WITH HORIZONTAL FILL"⟩,
    ⟨0x25a5, "SQUARE WITH ", "VERTICAL FILL;ORTHOGONAL CROSSHATCH FILL"⟩,
    ⟨0x25a7, "SQUARE WITH UPPER ", "LEFT TO LOWER RIGHT FILL;RIGHT TO LOWER LEFT FILL"⟩,
    ⟨0x25a9, "", "SQUARE WITH DIAGONAL CROSSHATCH FILL;BLACK SMALL SQUARE;WHITE SMALL SQUARE"⟩,
    ⟨0x25ac, "", "BLACK RECTANGLE;WHITE RECTANGLE;BLACK VERTICAL RECTANGLE"⟩,
    ⟨0x25af, "", "WHITE VERTICAL RECTANGLE;BLACK PARALLELOGRAM;WHITE PARALLELOGRAM"⟩,
    ⟨0x25b2, "", "BLACK UP-POINTING TRIANGLE;WHITE UP-POINTING TRIANGLE"⟩,
    ⟨0x25b4, "", "BLACK UP-POINTING SMALL TRIANGLE;WHITE UP-POINTING SMALL TRIANGLE"⟩,
    ⟨0x25b6, "", "BLACK RIGHT-POINTING TRIANGLE;WHITE RIGHT-POINTING TRIANGLE"⟩,
    ⟨0x25b8, "", "BLACK RIGHT-POINTING SMALL TRIANGLE;WHITE RIGHT-POINTING SMALL TRIANGLE"⟩,
    ⟨0x25ba, "", "BLACK RIGHT-POINTING POINTER;WHITE RIGHT-POINTING POINTER"⟩,
    ⟨0x25bc, "", "BLACK DOWN-POINTING TRIANGLE;WHITE DOWN-POINTING TRIANGLE"⟩,
    ⟨0x25be, "", "BLACK DOWN-POINTING SMALL TRIANGLE;WHITE DOWN-POINTING SMALL TRIANGLE"⟩,
    ⟨0x25c0, "", "BLACK LEFT-POINTING TRIANGLE;WHITE LEFT-POINTING TRIANGLE"⟩,
    ⟨0x25c2, "", "BLACK LEFT-POINTING SMALL TRIANGLE;WHITE LEFT-POINTING SMALL TRIANGLE"⟩,
    ⟨0x25c4, "", "BLACK LEFT-POINTING POINTER;WHITE LEFT-POINTING POINTER;BLACK DIAMOND"⟩,
    ⟨0x25c7, "", "WHITE DIAMOND;WHITE DIAMOND CONTAINING BLACK SMALL DIAMOND;FISHEYE;LOZENGE"⟩,
    ⟨0x25cb, "", "WHITE CIRCLE;DOTTED CIRCLE;CIRCLE WITH VERTICAL FILL;BULLSEYE;BLACK CIRCLE"⟩,
    ⟨0x25d0, "CIRCLE WITH ", "LEFT HALF BLACK;RIGHT HALF BLACK;LOWER HALF BLACK;UPPER HALF BLACK"⟩,
    ⟨0x25d4, "CIRCLE WITH ", "UPPER RIGHT QUADRANT BLACK;ALL BUT UPPER LEFT QUADRANT BLACK"⟩,
    ⟨0x25d6, "", "LEFT HALF BLACK CIRCLE;RIGHT HALF BLACK CIRCLE;INVERSE BULLET"⟩,
    ⟨0x25d9, "", "INVERSE WHITE CIRCLE;UPPER HALF INVERSE WHITE CIRCLE"⟩,
    ⟨0x25db, "", "LOWER HALF INVERSE WHITE CIRCLE;UPPER LEFT QUADRANT CIRCULAR ARC"⟩,
    ⟨0x25dd, "", "UPPER RIGHT QUADRANT CIRCULAR ARC;LOWER RIGHT QUADRANT CIRCULAR ARC"⟩,
    ⟨0x25df, "", "LOWER LEFT QUADRANT CIRCULAR ARC;UPPER HALF CIRCLE;LOWER HALF CIRCLE"⟩,
    ⟨0x25e2, "BLACK ", "LOWER RIGHT TRIANGLE;LOWER LEFT TRIANGLE;UPPER LEFT TRIANGLE"⟩,
    ⟨0x25e5, "", "BLACK UPPER RIGHT TRIANGLE;WHITE BULLET;SQUARE WITH LEFT HALF BLACK"⟩,
    ⟨0x25e8, "SQUARE WITH ", "RIGHT HALF BLACK;UPPER LEFT DIAGONAL HALF BLACK"⟩,
    ⟨0x25ea, "SQUARE WITH LOWER RIGHT DIAGONAL HALF ", "BLACK"⟩,
    ⟨0x25eb, "WHITE ", "SQUARE WITH VERTICAL BISECTING LINE;UP-POINTING TRIANGLE WITH DOT"⟩,
    ⟨0x25ed, "UP-POINTING TRIANGLE WITH ", "LEFT HALF BLACK;RIGHT HALF BLACK"⟩,
    ⟨0x25ef, "", "LARGE CIRCLE;WHITE SQUARE WITH UPPER LEFT QUADRANT"⟩,
    ⟨0x25f1, "WHITE SQUARE WITH LOWER ", "LEFT QUADRANT;RIGHT QUADRANT"⟩,
    ⟨0x25f3, "WHITE ", "SQUARE WITH UPPER RIGHT QUADRANT;CIRCLE WITH UPPER LEFT QUADRANT"⟩,
    ⟨0x25f5, "WHITE CIRCLE WITH LOWER ", "LEFT QUADRANT;RIGHT QUADRANT"⟩,
    ⟨0x25f7, "", "WHITE CIRCLE WITH UPPER RIGHT QUADRANT;UPPER LEFT TRIANGLE"⟩,
    ⟨0x25f9, "", "UPPER RIGHT TRIANGLE;LOWER LEFT TRIANGLE;WHITE MEDIUM SQUARE"⟩,
    ⟨0x25fc, "", "BLACK MEDIUM SQUARE;WHITE MEDIUM SMALL SQUARE;BLACK MEDIUM SMALL SQUARE"⟩,
    ⟨0x25ff, "LOWER RIGHT ", "TRIANGLE"⟩,
    ⟨0x2600, "", "BLACK SUN WITH RAYS;CLOUD;UMBRELLA;SNOWMAN;COMET;BLACK STAR;WHITE STAR"⟩,
    ⟨0x2607, "", "LIGHTNING;THUNDERSTORM;SUN;ASCENDING NODE;DESCENDING NODE;CONJUNCTION"⟩,
    ⟨0x260d, "", "OPPOSITION;BLACK TELEPHONE;WHITE TELEPHONE;BALLOT BOX;BALLOT BOX WITH CHECK"⟩,
    ⟨0x2612, "", "BALLOT BOX WITH X;SALTIRE;UMBRELLA WITH RAIN DROPS;HOT BEVERAGE"⟩,
    ⟨0x2616, "", "WHITE SHOGI PIECE;BLACK SHOGI PIECE;SHAMROCK"⟩,
    ⟨0x2619, "", "REVERSED ROTATED FLORAL HEART BULLET;BLACK LEFT POINTING INDEX"⟩,
    ⟨0x261b, "", "BLACK RIGHT POINTING INDEX;WHITE LEFT POINTING INDEX;WHITE UP POINTING INDEX"⟩,
    ⟨0x261e, "", "WHITE RIGHT POINTING INDEX;WHITE DOWN POINTING INDEX;SKULL AND CROSSBONES"⟩,
    ⟨0x2621, "", "CAUTION SIGN;RADIOACTIVE SIGN;BIOHAZARD SIGN;CADUCEUS;ANKH;ORTHODOX CROSS"⟩,
    ⟨0x2627, "", "CHI RHO;CROSS OF LORRAINE;CROSS OF JERUSALEM;STAR AND CRESCENT;FARSI SYMBOL"⟩,
    ⟨0x262c, "", "ADI SHAKTI;HAMMER AND SICKLE;PEACE SYMBOL;YIN YANG;TRIGRAM FOR HEAVEN"⟩,
    ⟨0x2631, "TRIGRAM FOR ", "LAKE;FIRE;THUNDER;WIND;WATER;MOUNTAIN;EARTH"⟩,
    ⟨0x2638, "", "WHEEL OF DHARMA;WHITE FROWNING FACE;WHITE SMILING FACE;BLACK SMILING FACE"⟩,
    ⟨0x263c, "", "WHITE SUN WITH RAYS;FIRST QUARTER MOON;LAST QUARTER MOON;MERCURY;FEMALE SIGN"⟩,
    ⟨0x2641, "", "EARTH;MALE SIGN;JUPITER;SATURN;URANUS;NEPTUNE;PLUTO;ARIES;TAURUS;GEMINI;CANCER"⟩,
    ⟨0x264c, "", "LEO;VIRGO;LIBRA;SCORPIUS;SAGITTARIUS;CAPRICORN;AQUARIUS;PISCES"⟩,
    ⟨0x2654, "WHITE CHESS ", "KING;QUEEN;ROOK;BISHOP;KNIGHT;PAWN"⟩,
    ⟨0x265a, "BLACK CHESS ", "KING;QUEEN;ROOK;BISHOP;KNIGHT;PAWN"⟩,
    ⟨0x2660, "", "BLACK SPADE SUIT;WHITE HEART SUIT;WHITE DIAMOND SUIT;BLACK CLUB SUIT"⟩,
    ⟨0x2664, "", "WHITE SPADE SUIT;BLACK HEART SUIT;BLACK DIAMOND SUIT;WHITE CLUB SUIT"⟩,
    ⟨0x2668, "", "HOT SPRINGS;QUARTER NOTE;EIGHTH NOTE;BEAMED EIGHTH NOTES"⟩,
    ⟨0x266c, "", "BEAMED SIXTEENTH NOTES;MUSIC FLAT SIGN;MUSIC NATURAL SIGN;MUSIC SHARP SIGN"⟩,
    ⟨0x2670, "", "WEST SYRIAC CROSS;EAST SYRIAC CROSS;UNIVERSAL RECYCLING SYMBOL"⟩,
    ⟨0x2673, "RECYCLING SYMBOL FOR ", "TYPE-1 PLASTICS;TYPE-2 PLASTICS;TYPE-3 PLASTICS"⟩,
    ⟨0x2676, "RECYCLING SYMBOL FOR ", "TYPE-4 PLASTICS;TYPE-5 PLASTICS;TYPE-6 PLASTICS"⟩,
    ⟨0x2679, "RECYCLING SYMBOL FOR ", "TYPE-7 PLASTICS;GENERIC MATERIALS"⟩,
    ⟨0x267b, "", "BLACK UNIVERSAL RECYCLING SYMBOL;RECYCLED PAPER SYMBOL"⟩]

def nameRowsE : List NameRow := [
    ⟨0x267d, "", "PARTIALLY-RECYCLED PAPER SYMBOL;PERMANENT PAPER SIGN;WHEELCHAIR SYMBOL"⟩,
    ⟨0x2680, "DIE ", "FACE-1;FACE-2;FACE-3;FACE-4;FACE-5;FACE-6"⟩,
    ⟨0x2686, "WHITE CIRCLE WITH ", "DOT RIGHT;TWO DOTS"⟩,
    ⟨0x2688, "BLACK CIRCLE WITH ", "WHITE DOT RIGHT;TWO WHITE DOTS"⟩,
    ⟨0x268a, "", "MONOGRAM FOR YANG;MONOGRAM FOR YIN;DIGRAM FOR GREATER YANG"⟩,
    ⟨0x268d, "", "DIGRAM FOR LESSER YIN;DIGRAM FOR LESSER YANG;DIGRAM FOR GREATER YIN;WHITE FLAG"⟩,
    ⟨0x2691, "", "BLACK FLAG;HAMMER AND PICK;ANCHOR;CROSSED SWORDS;STAFF OF AESCULAPIUS;SCALES"⟩,
    ⟨0x2697, "", "ALEMBIC;FLOWER;GEAR;STAFF OF HERMES;ATOM SYMBOL;FLEUR-DE-LIS"⟩,
    ⟨0x269d, "", "OUTLINED WHITE STAR;THREE LINES CONVERGING RIGHT;THREE LINES CONVERGING LEFT"⟩,
    ⟨0x26a0, "", "WARNING SIGN;HIGH VOLTAGE SIGN;DOUBLED FEMALE SIGN;DOUBLED MALE SIGN"⟩,
    ⟨0x26a4, "", "INTERLOCKED FEMALE AND MALE SIGN;MALE AND FEMALE SIGN;MALE WITH STROKE SIGN"⟩,
    ⟨0x26a7, "", "MALE WITH STROKE AND MALE AND FEMALE SIGN;VERTICAL MALE WITH STROKE SIGN"⟩,
    ⟨0x26a9, "", "HORIZONTAL MALE WITH STROKE SIGN;MEDIUM WHITE CIRCLE;MEDIUM BLACK CIRCLE"⟩,
    ⟨0x26ac, "", "MEDIUM SMALL WHITE CIRCLE;MARRIAGE SYMBOL;DIVORCE SYMBOL"⟩,
    ⟨0x26af, "", "UNMARRIED PARTNERSHIP SYMBOL;COFFIN;FUNERAL URN;NEUTER;CERES;PALLAS;JUNO;VESTA"⟩,
    ⟨0x26b7, "", "CHIRON;BLACK MOON LILITH;SEXTILE;SEMISEXTILE;QUINCUNX;SESQUIQUADRATE"⟩,
    ⟨0x26bd, "", "SOCCER BALL;BASEBALL;SQUARED KEY;WHITE DRAUGHTS MAN;WHITE DRAUGHTS KING"⟩,
    ⟨0x26c2, "", "BLACK DRAUGHTS MAN;BLACK DRAUGHTS KING;SNOWMAN WITHOUT SNOW;SUN BEHIND CLOUD"⟩,
    ⟨0x26c6, "", "RAIN;BLACK SNOWMAN;THUNDER CLOUD AND RAIN;TURNED WHITE SHOGI PIECE"⟩,
    ⟨0x26ca, "", "TURNED BLACK SHOGI PIECE;WHITE DIAMOND IN SQUARE;CROSSING LANES;DISABLED CAR"⟩,
    ⟨0x26ce, "", "OPHIUCHUS;PICK;CAR SLIDING;HELMET WITH WHITE CROSS;CIRCLED CROSSING LANES"⟩,
    ⟨0x26d3, "", "CHAINS;NO ENTRY;ALTERNATE ONE-WAY LEFT WAY TRAFFIC"⟩,
    ⟨0x26d6, "", "BLACK TWO-WAY LEFT WAY TRAFFIC;WHITE TWO-WAY LEFT WAY TRAFFIC"⟩,
    ⟨0x26d8, "", "BLACK LEFT LANE MERGE;WHITE LEFT LANE MERGE;DRIVE SLOW SIGN"⟩,
    ⟨0x26db, "", "HEAVY WHITE DOWN-POINTING TRIANGLE;LEFT CLOSED ENTRY;SQUARED SALTIRE"⟩,
    ⟨0x26de, "", "FALLING DIAGONAL IN WHITE CIRCLE IN BLACK SQUARE;BLACK TRUCK"⟩,
    ⟨0x26e0, "", "RESTRICTED LEFT ENTRY-1;RESTRICTED LEFT ENTRY-2;ASTRONOMICAL SYMBOL FOR URANUS"⟩,
    ⟨0x26e3, "", "HEAVY CIRCLE WITH STROKE AND TWO DOTS ABOVE;PENTAGRAM"⟩,
    ⟨0x26e5, "", "RIGHT-HANDED INTERLACED PENTAGRAM;LEFT-HANDED INTERLACED PENTAGRAM"⟩,
    ⟨0x26e7, "", "INVERTED PENTAGRAM;BLACK CROSS ON SHIELD;SHINTO SHRINE;CHURCH;CASTLE"⟩,
    ⟨0x26ec, "", "HISTORIC SITE;GEAR WITHOUT HUB;GEAR WITH HANDLES;MAP SYMBOL FOR LIGHTHOUSE"⟩,
    ⟨0x26f0, "", "MOUNTAIN;UMBRELLA ON GROUND;FOUNTAIN;FLAG IN HOLE;FERRY;SAILBOAT"⟩,
    ⟨0x26f6, "", "SQUARE FOUR CORNERS;SKIER;ICE SKATE;PERSON WITH BALL;TENT;JAPANESE BANK SYMBOL"⟩,
    ⟨0x26fc, "", "HEADSTONE GRAVEYARD SYMBOL;FUEL PUMP;CUP ON BLACK SQUARE"⟩,
    ⟨0x26ff, "WHITE FLAG WITH HORIZONTAL MIDDLE BLACK ", "STRIPE"⟩,
    ⟨0x2700, "", "BLACK SAFETY SCISSORS;UPPER BLADE SCISSORS;BLACK SCISSORS;LOWER BLADE SCISSORS"⟩,
    ⟨0x2704, "", "WHITE SCISSORS;WHITE HEAVY CHECK MARK;TELEPHONE LOCATION SIGN;TAPE DRIVE"⟩,
    ⟨0x2708, "", "AIRPLANE;ENVELOPE;RAISED FIST;RAISED HAND;VICTORY HAND;WRITING HAND"⟩,
    ⟨0x270e, "", "LOWER RIGHT PENCIL;PENCIL;UPPER RIGHT PENCIL;WHITE NIB;BLACK NIB;CHECK MARK"⟩,
    ⟨0x2714, "", "HEAVY CHECK MARK;MULTIPLICATION X;HEAVY MULTIPLICATION X;BALLOT X"⟩,
    ⟨0x2718, "", "HEAVY BALLOT X;OUTLINED GREEK CROSS;HEAVY GREEK CROSS;OPEN CENTRE CROSS"⟩,
    ⟨0x271c, "", "HEAVY OPEN CENTRE CROSS;LATIN CROSS;SHADOWED WHITE LATIN CROSS"⟩,
    ⟨0x271f, "", "OUTLINED LATIN CROSS;MALTESE CROSS;STAR OF DAVID;FOUR TEARDROP-SPOKED ASTERISK"⟩,
    ⟨0x2723, "", "FOUR BALLOON-SPOKED ASTERISK;HEAVY FOUR BALLOON-SPOKED ASTERISK"⟩,
    ⟨0x2725, "", "FOUR CLUB-SPOKED ASTERISK;BLACK FOUR POINTED STAR;WHITE FOUR POINTED STAR"⟩,
    ⟨0x2728, "", "SPARKLES;STRESS OUTLINED WHITE STAR;CIRCLED WHITE STAR;OPEN CENTRE BLACK STAR"⟩,
    ⟨0x272c, "", "BLACK CENTRE WHITE STAR;OUTLINED BLACK STAR;HEAVY OUTLINED BLACK STAR"⟩,
    ⟨0x272f, "", "PINWHEEL STAR;SHADOWED WHITE STAR;HEAVY ASTERISK;OPEN CENTRE ASTERISK"⟩,
    ⟨0x2733, "EIGHT ", "SPOKED ASTERISK;POINTED BLACK STAR;POINTED PINWHEEL STAR"⟩,
    ⟨0x2736, "", "SIX POINTED BLACK STAR;EIGHT POINTED RECTILINEAR BLACK STAR"⟩,
    ⟨0x2738, "", "HEAVY EIGHT POINTED RECTILINEAR BLACK STAR;TWELVE POINTED BLACK STAR"⟩,
    ⟨0x273a, "", "SIXTEEN POINTED ASTERISK;TEARDROP-SPOKED ASTERISK"⟩,
    ⟨0x273c, "", "OPEN CENTRE TEARDROP-SPOKED ASTERISK;HEAVY TEARDROP-SPOKED ASTERISK"⟩,
    ⟨0x273e, "", "SIX PETALLED BLACK AND WHITE FLORETTE;BLACK FLORETTE;WHITE FLORETTE"⟩,
    ⟨0x2741, "", "EIGHT PETALLED OUTLINED BLACK FLORETTE;CIRCLED OPEN CENTRE EIGHT POINTED STAR"⟩,
    ⟨0x2743, "", "HEAVY TEARDROP-SPOKED PINWHEEL ASTERISK;SNOWFLAKE;TIGHT TRIFOLIATE SNOWFLAKE"⟩,
    ⟨0x2746, "", "HEAVY CHEVRON SNOWFLAKE;SPARKLE;HEAVY SPARKLE;BALLOON-SPOKED ASTERISK"⟩,
    ⟨0x274a, "EIGHT TEARDROP-SPOKED PROPELLER ", "ASTERISK"⟩,
    ⟨0x274b, "", "HEAVY EIGHT TEARDROP-SPOKED PROPELLER ASTERISK;CROSS MARK"⟩,
    ⟨0x274d, "", "SHADOWED WHITE CIRCLE;NEGATIVE SQUARED CROSS MARK"⟩,
    ⟨0x274f, "", "LOWER RIGHT DROP-SHADOWED WHITE SQUARE;UPPER RIGHT DROP-SHADOWED WHITE SQUARE"⟩,
    ⟨0x2751, "", "LOWER RIGHT SHADOWED WHITE SQUARE;UPPER RIGHT SHADOWED WHITE SQUARE"⟩,
    ⟨0x2753, "", "BLACK QUESTION MARK ORNAMENT;WHITE QUESTION MARK ORNAMENT"⟩,
    ⟨0x2755, "", "WHITE EXCLAMATION MARK ORNAMENT;BLACK DIAMOND MINUS WHITE X"⟩,
    ⟨0x2757, "", "HEAVY EXCLAMATION MARK SYMBOL;LIGHT VERTICAL BAR;MEDIUM VERTICAL BAR"⟩,
    ⟨0x275a, "HEAVY ", "VERTICAL BAR;SINGLE TURNED COMMA QUOTATION MARK ORNAMENT"⟩,
    ⟨0x275c, "HEAVY SINGLE COMMA QUOTATION MARK ", "ORNAMENT"⟩,
    ⟨0x275d, "HEAVY DOUBLE TURNED COMMA QUOTATION MARK ", "ORNAMENT"⟩,
    ⟨0x275e, "HEAVY DOUBLE COMMA QUOTATION MARK ", "ORNAMENT"⟩,
    ⟨0x275f, "HEAVY LOW SINGLE COMMA QUOTATION MARK ", "ORNAMENT"⟩,
    ⟨0x2760, "HEAVY LOW DOUBLE COMMA QUOTATION MARK ", "ORNAMENT"⟩,
    ⟨0x2761, "", "CURVED STEM PARAGRAPH SIGN ORNAMENT;HEAVY EXCLAMATION MARK ORNAMENT"⟩,
    ⟨0x2763, "HEAVY ", "HEART EXCLAMATION MARK ORNAMENT;BLACK HEART"⟩,
    ⟨0x2765, "", "ROTATED HEAVY BLACK HEART BULLET;FLORAL HEART;ROTATED FLORAL HEART BULLET"⟩,
    ⟨0x2768, "MEDIUM ", "LEFT PARENTHESIS ORNAMENT;RIGHT PARENTHESIS ORNAMENT"⟩,
    ⟨0x276a, "MEDIUM FLATTENED ", "LEFT PARENTHESIS ORNAMENT;RIGHT PARENTHESIS ORNAMENT"⟩,
    ⟨0x276c, "MEDIUM LEFT-POINTING ANGLE BRACKET ", "ORNAMENT"⟩,
    ⟨0x276d, "MEDIUM RIGHT-POINTING ANGLE BRACKET ", "ORNAMENT"⟩,
    ⟨0x276e, "HEAVY LEFT-POINTING ANGLE QUOTATION MARK ", "ORNAMENT"⟩,
    ⟨0x276f, "HEAVY RIGHT-POINTING ANGLE QUOTATION MARK ", "ORNAMENT"⟩,
    ⟨0x2770, "HEAVY LEFT-POINTING ANGLE BRACKET ", "ORNAMENT"⟩,
    ⟨0x2771, "HEAVY RIGHT-POINTING ANGLE BRACKET ", "ORNAMENT"⟩,
    ⟨0x2772, "LIGHT LEFT TORTOISE SHELL BRACKET ", "ORNAMENT"⟩,
    ⟨0x2773, "", "LIGHT RIGHT TORTOISE SHELL BRACKET ORNAMENT;MEDIUM LEFT CURLY BRACKET ORNAMENT"⟩,
    ⟨0x2775, "", "MEDIUM RIGHT CURLY BRACKET ORNAMENT;DINGBAT NEGATIVE CIRCLED DIGIT ONE"⟩,
    ⟨0x2777, "DINGBAT NEGATIVE CIRCLED DIGIT ", "TWO;THREE;FOUR;FIVE;SIX;SEVEN;EIGHT;NINE"⟩,
    ⟨0x277f, "DINGBAT ", "NEGATIVE CIRCLED NUMBER TEN;CIRCLED SANS-SERIF DIGIT ONE"⟩,
    ⟨0x2781, "DINGBAT CIRCLED SANS-SERIF DIGIT ", "TWO;THREE;FOUR;FIVE;SIX;SEVEN;EIGHT;NINE"⟩,
    ⟨0x2789, "DINGBAT ", "CIRCLED SANS-SERIF NUMBER TEN;NEGATIVE CIRCLED SANS-SERIF DIGIT ONE"⟩,
    ⟨0x278b, "DINGBAT NEGATIVE CIRCLED SANS-SERIF DIGIT ", "TWO;THREE;FOUR;FIVE;SIX;SEVEN;EIGHT"⟩,
    ⟨0x2792, "DINGBAT NEGATIVE CIRCLED SANS-SERIF ", "DIGIT NINE;NUMBER TEN"⟩,
    ⟨0x2794, "HEAVY ", "WIDE-HEADED RIGHTWARDS ARROW;PLUS SIGN;MINUS SIGN;DIVISION SIGN"⟩,
    ⟨0x2798, "HEAVY ", "SOUTH EAST ARROW;RIGHTWARDS ARROW;NORTH EAST ARROW"⟩,
    ⟨0x279b, "", "DRAFTING POINT RIGHTWARDS ARROW;HEAVY ROUND-TIPPED RIGHTWARDS ARROW"⟩,
    ⟨0x279d, "", "TRIANGLE-HEADED RIGHTWARDS ARROW;HEAVY TRIANGLE-HEADED RIGHTWARDS ARROW"⟩,
    ⟨0x279f, "DASHED TRIANGLE-HEADED RIGHTWARDS ", "ARROW"⟩,
    ⟨0x27a0, "", "HEAVY DASHED TRIANGLE-HEADED RIGHTWARDS ARROW;BLACK RIGHTWARDS ARROW"⟩,
    ⟨0x27a2, "THREE-D ", "TOP-LIGHTED RIGHTWARDS ARROWHEAD;BOTTOM-LIGHTED RIGHTWARDS ARROWHEAD"⟩,
    ⟨0x27a4, "", "BLACK RIGHTWARDS ARROWHEAD;HEAVY BLACK CURVED DOWNWARDS AND RIGHTWARDS ARROW"⟩,
    ⟨0x27a6, "", "HEAVY BLACK CURVED UPWARDS AND RIGHTWARDS ARROW;SQUAT BLACK RIGHTWARDS ARROW"⟩,
    ⟨0x27a8, "HEAVY CONCAVE-POINTED BLACK RIGHTWARDS ", "ARROW"⟩,
    ⟨0x27a9, "", "RIGHT-SHADED WHITE RIGHTWARDS ARROW;LEFT-SHADED WHITE RIGHTWARDS ARROW"⟩,
    ⟨0x27ab, "BACK-TILTED SHADOWED WHITE RIGHTWARDS ", "ARROW"⟩,
    ⟨0x27ac, "FRONT-TILTED SHADOWED WHITE RIGHTWARDS ", "ARROW"⟩,
    ⟨0x27ad, "HEAVY LOWER RIGHT-SHADOWED WHITE RIGHTWARDS ", "ARROW"⟩,
    ⟨0x27ae, "HEAVY UPPER RIGHT-SHADOWED WHITE RIGHTWARDS ", "ARROW"⟩,
    ⟨0x27af, "", "NOTCHED LOWER RIGHT-SHADOWED WHITE RIGHTWARDS ARROW;CURLY LOOP"⟩,
    ⟨0x27b1, "NOTCHED UPPER RIGHT-SHADOWED WHITE RIGHTWARDS ", "ARROW"⟩,
    ⟨0x27b2, "", "CIRCLED HEAVY WHITE RIGHTWARDS ARROW;WHITE-FEATHERED RIGHTWARDS ARROW"⟩,
    ⟨0x27b4, "BLACK-FEATHERED ", "SOUTH EAST ARROW;RIGHTWARDS ARROW;NORTH EAST ARROW"⟩,
    ⟨0x27b7, "HEAVY BLACK-FEATHERED ", "SOUTH EAST ARROW;RIGHTWARDS ARROW;NORTH EAST ARROW"⟩,
    ⟨0x27ba, "", "TEARDROP-BARBED RIGHTWARDS ARROW;HEAVY TEARDROP-SHANKED RIGHTWARDS ARROW"⟩,
    ⟨0x27bc, "", "WEDGE-TAILED RIGHTWARDS ARROW;HEAVY WEDGE-TAILED RIGHTWARDS ARROW"⟩,
    ⟨0x27be, "", "OPEN-OUTLINED RIGHTWARDS ARROW;DOUBLE CURLY LOOP"⟩,
    ⟨0x1f600, "", "GRINNING FACE;GRINNING FACE WITH SMILING EYES;FACE WITH TEARS OF JOY"⟩,
    ⟨0x1f603, "SMILING FACE WITH OPEN ", "MOUTH;MOUTH AND SMILING EYES;MOUTH AND COLD SWEAT"⟩,
    ⟨0x1f606, "SMILING FACE WITH ", "OPEN MOUTH AND TIGHTLY-CLOSED EYES;HALO;HORNS"⟩,
    ⟨0x1f609, "", "WINKING FACE;SMILING FACE WITH SMILING EYES;FACE SAVOURING DELICIOUS FOOD"⟩,
    ⟨0x1f60c, "", "RELIEVED FACE;SMILING FACE WITH HEART-SHAPED EYES"⟩,
    ⟨0x1f60e, "", "SMILING FACE WITH SUNGLASSES;SMIRKING FACE;NEUTRAL FACE;EXPRESSIONLESS FACE"⟩]

def nameRowsF : List NameRow := [
    ⟨0x1f612, "", "UNAMUSED FACE;FACE WITH COLD SWEAT;PENSIVE FACE;CONFUSED FACE;CONFOUNDED FACE"⟩,
    ⟨0x1f617, "", "KISSING FACE;FACE THROWING A KISS;KISSING FACE WITH SMILING EYES"⟩,
    ⟨0x1f61a, "", "KISSING FACE WITH CLOSED EYES;FACE WITH STUCK-OUT TONGUE"⟩,
    ⟨0x1f61c, "FACE WITH STUCK-OUT TONGUE AND ", "WINKING EYE;TIGHTLY-CLOSED EYES"⟩,
    ⟨0x1f61e, "", "DISAPPOINTED FACE;WORRIED FACE;ANGRY FACE;POUTING FACE;CRYING FACE"⟩,
    ⟨0x1f623, "", "PERSEVERING FACE;FACE WITH LOOK OF TRIUMPH;DISAPPOINTED BUT RELIEVED FACE"⟩,
    ⟨0x1f626, "", "FROWNING FACE WITH OPEN MOUTH;ANGUISHED FACE;FEARFUL FACE;WEARY FACE"⟩,
    ⟨0x1f62a, "", "SLEEPY FACE;TIRED FACE;GRIMACING FACE;LOUDLY CRYING FACE;FACE WITH OPEN MOUTH"⟩,
    ⟨0x1f62f, "", "HUSHED FACE;FACE WITH OPEN MOUTH AND COLD SWEAT;FACE SCREAMING IN FEAR"⟩,
    ⟨0x1f632, "", "ASTONISHED FACE;FLUSHED FACE;SLEEPING FACE;DIZZY FACE;FACE WITHOUT MOUTH"⟩,
    ⟨0x1f637, "", "FACE WITH MEDICAL MASK;GRINNING CAT FACE WITH SMILING EYES"⟩,
    ⟨0x1f639, "", "CAT FACE WITH TEARS OF JOY;SMILING CAT FACE WITH OPEN MOUTH"⟩,
    ⟨0x1f63b, "", "SMILING CAT FACE WITH HEART-SHAPED EYES;CAT FACE WITH WRY SMILE"⟩,
    ⟨0x1f63d, "", "KISSING CAT FACE WITH CLOSED EYES;POUTING CAT FACE;CRYING CAT FACE"⟩,
    ⟨0x1f640, "", "WEARY CAT FACE;SLIGHTLY FROWNING FACE;SLIGHTLY SMILING FACE;UPSIDE-DOWN FACE"⟩,
    ⟨0x1f644, "FACE WITH ", "ROLLING EYES;NO GOOD GESTURE;OK GESTURE"⟩,
    ⟨0x1f647, "", "PERSON BOWING DEEPLY;SEE-NO-EVIL MONKEY;HEAR-NO-EVIL MONKEY"⟩,
    ⟨0x1f64a, "", "SPEAK-NO-EVIL MONKEY;HAPPY PERSON RAISING ONE HAND"⟩,
    ⟨0x1f64c, "PERSON ", "RAISING BOTH HANDS IN CELEBRATION;FROWNING;WITH POUTING FACE"⟩,
    ⟨0x1f64f, "PERSON WITH FOLDED ", "HANDS"⟩]

def nameRows : List NameRow :=
  nameRowsA ++ nameRowsB ++ nameRowsC ++ nameRowsD ++ nameRowsE ++ nameRowsF

/-- Other names and short names, several for one code point. -/
def otherNames : List (Nat × String) := [
    (0x0, "NUL;NULL"), (0x1, "SOH;START OF HEADING"), (0x2, "START OF TEXT;STX"),
    (0x3, "END OF TEXT;ETX"), (0x4, "END OF TRANSMISSION;EOT"), (0x5, "ENQ;ENQUIRY"),
    (0x6, "ACK;ACKNOWLEDGE"), (0x7, "ALERT;BEL"), (0x8, "BACKSPACE;BS"),
    (0x9, "CHARACTER TABULATION;HORIZONTAL TABULATION;HT;TAB"),
    (0xa, "END OF LINE;EOL;LF;LINE FEED;NEW LINE;NL"),
    (0xb, "LINE TABULATION;VERTICAL TABULATION;VT"), (0xc, "FF;FORM FEED"),
    (0xd, "CARRIAGE RETURN;CR"), (0xe, "SHIFT OUT;SO"), (0xf, "SHIFT IN;SI"),
    (0x10, "DATA LINK ESCAPE;DLE"), (0x18, "CAN;CANCEL"), (0x1a, "SUB;SUBSTITUTE"),
    (0x1b, "ESC;ESCAPE"), (0x1c, "FILE SEPARATOR;FS;INFORMATION SEPARATOR FOUR"),
    (0x1d, "GROUP SEPARATOR;GS;INFORMATION SEPARATOR THREE"),
    (0x1e, "INFORMATION SEPARATOR TWO;RECORD SEPARATOR;RS"),
    (0x1f, "INFORMATION SEPARATOR ONE;UNIT SEPARATOR;US"), (0x20, "SP"), (0x7f, "DEL;DELETE"),
    (0x85, "NEL;NEXT LINE"), (0xa0, "NBSP"), (0xad, "SHY"), (0x200b, "ZWSP"), (0x200c, "ZWNJ"),
    (0x200d, "ZWJ"), (0x200e, "LRM"), (0x200f, "RLM"), (0x202f, "NNBSP"), (0x2060, "WJ"),
    (0xfeff, "BOM;BYTE ORDER MARK;ZERO WIDTH NO-BREAK SPACE;ZWNBSP")]

/-- The code point of a name in a row. -/
def NameRow.find? (name : String) (r : NameRow) : Option Nat :=
  if r.lead.toList.isPrefixOf name.toList then
    let ending := name.toList.drop r.lead.length
    ((r.endings.toList.splitOn ';').idxOf? ending).map (r.first + ·)
  else none

def pointOfName? (name : String) : Option Nat :=
  let word := name.toUpper
  match nameRows.findSome? (·.find? word) with
  | some n => some n
  | none =>
    (otherNames.find? fun other => (other.2.toList.splitOn ';').contains word.toList).map (·.1)

end DeskShell.Text
