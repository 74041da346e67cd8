import BrowserPlan.Text.NameRun

/-!
# Names of characters: letters and digits
-/
namespace BrowserPlan.Text.CharacterName

/-- Runs of letters and digits. -/
def lettersRuns : List NameRun :=
  [
   -- Basic Latin
   ⟨0x20,
    "SPACE|EXCLAMATION MARK|QUOTATION MARK|NUMBER SIGN|DOLLAR SIGN|PERCENT SIGN|AMPERSAND|" ++
    "APOSTROPHE|LEFT PARENTHESIS|RIGHT PARENTHESIS|ASTERISK|PLUS SIGN|COMMA|HYPHEN-MINUS|" ++
    "FULL STOP|SOLIDUS|DIGIT ZERO|DIGIT ONE|DIGIT TWO|DIGIT THREE|DIGIT FOUR|DIGIT FIVE|" ++
    "DIGIT SIX|DIGIT SEVEN|DIGIT EIGHT|DIGIT NINE|COLON|SEMICOLON|LESS-THAN SIGN|EQUALS SIGN|" ++
    "GREATER-THAN SIGN|QUESTION MARK|COMMERCIAL AT|LATIN CAPITAL LETTER A|" ++
    "LATIN CAPITAL LETTER B|LATIN CAPITAL LETTER C|LATIN CAPITAL LETTER D|" ++
    "LATIN CAPITAL LETTER E|LATIN CAPITAL LETTER F|LATIN CAPITAL LETTER G|" ++
    "LATIN CAPITAL LETTER H|LATIN CAPITAL LETTER I|LATIN CAPITAL LETTER J|" ++
    "LATIN CAPITAL LETTER K|LATIN CAPITAL LETTER L|LATIN CAPITAL LETTER M|" ++
    "LATIN CAPITAL LETTER N|LATIN CAPITAL LETTER O|LATIN CAPITAL LETTER P|" ++
    "LATIN CAPITAL LETTER Q|LATIN CAPITAL LETTER R|LATIN CAPITAL LETTER S|" ++
    "LATIN CAPITAL LETTER T|LATIN CAPITAL LETTER U|LATIN CAPITAL LETTER V|" ++
    "LATIN CAPITAL LETTER W|LATIN CAPITAL LETTER X|LATIN CAPITAL LETTER Y|" ++
    "LATIN CAPITAL LETTER Z|LEFT SQUARE BRACKET|REVERSE SOLIDUS|RIGHT SQUARE BRACKET|" ++
    "CIRCUMFLEX ACCENT|LOW LINE|GRAVE ACCENT|LATIN SMALL LETTER A|LATIN SMALL LETTER B|" ++
    "LATIN SMALL LETTER C|LATIN SMALL LETTER D|LATIN SMALL LETTER E|LATIN SMALL LETTER F|" ++
    "LATIN SMALL LETTER G|LATIN SMALL LETTER H|LATIN SMALL LETTER I|LATIN SMALL LETTER J|" ++
    "LATIN SMALL LETTER K|LATIN SMALL LETTER L|LATIN SMALL LETTER M|LATIN SMALL LETTER N|" ++
    "LATIN SMALL LETTER O|LATIN SMALL LETTER P|LATIN SMALL LETTER Q|LATIN SMALL LETTER R|" ++
    "LATIN SMALL LETTER S|LATIN SMALL LETTER T|LATIN SMALL LETTER U|LATIN SMALL LETTER V|" ++
    "LATIN SMALL LETTER W|LATIN SMALL LETTER X|LATIN SMALL LETTER Y|LATIN SMALL LETTER Z|" ++
    "LEFT CURLY BRACKET|VERTICAL LINE|RIGHT CURLY BRACKET|TILDE"⟩,
   -- Latin-1 Supplement
   ⟨0xa0,
    "NO-BREAK SPACE|INVERTED EXCLAMATION MARK|CENT SIGN|POUND SIGN|CURRENCY SIGN|YEN SIGN|" ++
    "BROKEN BAR|SECTION SIGN|DIAERESIS|COPYRIGHT SIGN|FEMININE ORDINAL INDICATOR|" ++
    "LEFT-POINTING DOUBLE ANGLE QUOTATION MARK|NOT SIGN|SOFT HYPHEN|REGISTERED SIGN|MACRON|" ++
    "DEGREE SIGN|PLUS-MINUS SIGN|SUPERSCRIPT TWO|SUPERSCRIPT THREE|ACUTE ACCENT|MICRO SIGN|" ++
    "PILCROW SIGN|MIDDLE DOT|CEDILLA|SUPERSCRIPT ONE|MASCULINE ORDINAL INDICATOR|" ++
    "RIGHT-POINTING DOUBLE ANGLE QUOTATION MARK|VULGAR FRACTION ONE QUARTER|" ++
    "VULGAR FRACTION ONE HALF|VULGAR FRACTION THREE QUARTERS|INVERTED QUESTION MARK|" ++
    "LATIN CAPITAL LETTER A WITH GRAVE|LATIN CAPITAL LETTER A WITH ACUTE|" ++
    "LATIN CAPITAL LETTER A WITH CIRCUMFLEX|LATIN CAPITAL LETTER A WITH TILDE|" ++
    "LATIN CAPITAL LETTER A WITH DIAERESIS|LATIN CAPITAL LETTER A WITH RING ABOVE|" ++
    "LATIN CAPITAL LETTER AE|LATIN CAPITAL LETTER C WITH CEDILLA|" ++
    "LATIN CAPITAL LETTER E WITH GRAVE|LATIN CAPITAL LETTER E WITH ACUTE|" ++
    "LATIN CAPITAL LETTER E WITH CIRCUMFLEX|LATIN CAPITAL LETTER E WITH DIAERESIS|" ++
    "LATIN CAPITAL LETTER I WITH GRAVE|LATIN CAPITAL LETTER I WITH ACUTE|" ++
    "LATIN CAPITAL LETTER I WITH CIRCUMFLEX|LATIN CAPITAL LETTER I WITH DIAERESIS|" ++
    "LATIN CAPITAL LETTER ETH|LATIN CAPITAL LETTER N WITH TILDE|" ++
    "LATIN CAPITAL LETTER O WITH GRAVE|LATIN CAPITAL LETTER O WITH ACUTE|" ++
    "LATIN CAPITAL LETTER O WITH CIRCUMFLEX|LATIN CAPITAL LETTER O WITH TILDE|" ++
    "LATIN CAPITAL LETTER O WITH DIAERESIS|MULTIPLICATION SIGN|" ++
    "LATIN CAPITAL LETTER O WITH STROKE|LATIN CAPITAL LETTER U WITH GRAVE|" ++
    "LATIN CAPITAL LETTER U WITH ACUTE|LATIN CAPITAL LETTER U WITH CIRCUMFLEX|" ++
    "LATIN CAPITAL LETTER U WITH DIAERESIS|LATIN CAPITAL LETTER Y WITH ACUTE|" ++
    "LATIN CAPITAL LETTER THORN|LATIN SMALL LETTER SHARP S|LATIN SMALL LETTER A WITH GRAVE|" ++
    "LATIN SMALL LETTER A WITH ACUTE|LATIN SMALL LETTER A WITH CIRCUMFLEX|" ++
    "LATIN SMALL LETTER A WITH TILDE|LATIN SMALL LETTER A WITH DIAERESIS|" ++
    "LATIN SMALL LETTER A WITH RING ABOVE|LATIN SMALL LETTER AE|" ++
    "LATIN SMALL LETTER C WITH CEDILLA|LATIN SMALL LETTER E WITH GRAVE|" ++
    "LATIN SMALL LETTER E WITH ACUTE|LATIN SMALL LETTER E WITH CIRCUMFLEX|" ++
    "LATIN SMALL LETTER E WITH DIAERESIS|LATIN SMALL LETTER I WITH GRAVE|" ++
    "LATIN SMALL LETTER I WITH ACUTE|LATIN SMALL LETTER I WITH CIRCUMFLEX|" ++
    "LATIN SMALL LETTER I WITH DIAERESIS|LATIN SMALL LETTER ETH|" ++
    "LATIN SMALL LETTER N WITH TILDE|LATIN SMALL LETTER O WITH GRAVE|" ++
    "LATIN SMALL LETTER O WITH ACUTE|LATIN SMALL LETTER O WITH CIRCUMFLEX|" ++
    "LATIN SMALL LETTER O WITH TILDE|LATIN SMALL LETTER O WITH DIAERESIS|DIVISION SIGN|" ++
    "LATIN SMALL LETTER O WITH STROKE|LATIN SMALL LETTER U WITH GRAVE|" ++
    "LATIN SMALL LETTER U WITH ACUTE|LATIN SMALL LETTER U WITH CIRCUMFLEX|" ++
    "LATIN SMALL LETTER U WITH DIAERESIS|LATIN SMALL LETTER Y WITH ACUTE|" ++
    "LATIN SMALL LETTER THORN|LATIN SMALL LETTER Y WITH DIAERESIS"⟩,
   -- Latin Extended-A
   ⟨0x100,
    "LATIN CAPITAL LETTER A WITH MACRON|LATIN SMALL LETTER A WITH MACRON|" ++
    "LATIN CAPITAL LETTER A WITH BREVE|LATIN SMALL LETTER A WITH BREVE|" ++
    "LATIN CAPITAL LETTER A WITH OGONEK|LATIN SMALL LETTER A WITH OGONEK|" ++
    "LATIN CAPITAL LETTER C WITH ACUTE|LATIN SMALL LETTER C WITH ACUTE|" ++
    "LATIN CAPITAL LETTER C WITH CIRCUMFLEX|LATIN SMALL LETTER C WITH CIRCUMFLEX|" ++
    "LATIN CAPITAL LETTER C WITH DOT ABOVE|LATIN SMALL LETTER C WITH DOT ABOVE|" ++
    "LATIN CAPITAL LETTER C WITH CARON|LATIN SMALL LETTER C WITH CARON|" ++
    "LATIN CAPITAL LETTER D WITH CARON|LATIN SMALL LETTER D WITH CARON|" ++
    "LATIN CAPITAL LETTER D WITH STROKE|LATIN SMALL LETTER D WITH STROKE|" ++
    "LATIN CAPITAL LETTER E WITH MACRON|LATIN SMALL LETTER E WITH MACRON|" ++
    "LATIN CAPITAL LETTER E WITH BREVE|LATIN SMALL LETTER E WITH BREVE|" ++
    "LATIN CAPITAL LETTER E WITH DOT ABOVE|LATIN SMALL LETTER E WITH DOT ABOVE|" ++
    "LATIN CAPITAL LETTER E WITH OGONEK|LATIN SMALL LETTER E WITH OGONEK|" ++
    "LATIN CAPITAL LETTER E WITH CARON|LATIN SMALL LETTER E WITH CARON|" ++
    "LATIN CAPITAL LETTER G WITH CIRCUMFLEX|LATIN SMALL LETTER G WITH CIRCUMFLEX|" ++
    "LATIN CAPITAL LETTER G WITH BREVE|LATIN SMALL LETTER G WITH BREVE|" ++
    "LATIN CAPITAL LETTER G WITH DOT ABOVE|LATIN SMALL LETTER G WITH DOT ABOVE|" ++
    "LATIN CAPITAL LETTER G WITH CEDILLA|LATIN SMALL LETTER G WITH CEDILLA|" ++
    "LATIN CAPITAL LETTER H WITH CIRCUMFLEX|LATIN SMALL LETTER H WITH CIRCUMFLEX|" ++
    "LATIN CAPITAL LETTER H WITH STROKE|LATIN SMALL LETTER H WITH STROKE|" ++
    "LATIN CAPITAL LETTER I WITH TILDE|LATIN SMALL LETTER I WITH TILDE|" ++
    "LATIN CAPITAL LETTER I WITH MACRON|LATIN SMALL LETTER I WITH MACRON|" ++
    "LATIN CAPITAL LETTER I WITH BREVE|LATIN SMALL LETTER I WITH BREVE|" ++
    "LATIN CAPITAL LETTER I WITH OGONEK|LATIN SMALL LETTER I WITH OGONEK|" ++
    "LATIN CAPITAL LETTER I WITH DOT ABOVE|LATIN SMALL LETTER DOTLESS I|" ++
    "LATIN CAPITAL LIGATURE IJ|LATIN SMALL LIGATURE IJ|" ++
    "LATIN CAPITAL LETTER J WITH CIRCUMFLEX|LATIN SMALL LETTER J WITH CIRCUMFLEX|" ++
    "LATIN CAPITAL LETTER K WITH CEDILLA|LATIN SMALL LETTER K WITH CEDILLA|" ++
    "LATIN SMALL LETTER KRA|LATIN CAPITAL LETTER L WITH ACUTE|" ++
    "LATIN SMALL LETTER L WITH ACUTE|LATIN CAPITAL LETTER L WITH CEDILLA|" ++
    "LATIN SMALL LETTER L WITH CEDILLA|LATIN CAPITAL LETTER L WITH CARON|" ++
    "LATIN SMALL LETTER L WITH CARON|LATIN CAPITAL LETTER L WITH MIDDLE DOT|" ++
    "LATIN SMALL LETTER L WITH MIDDLE DOT|LATIN CAPITAL LETTER L WITH STROKE|" ++
    "LATIN SMALL LETTER L WITH STROKE|LATIN CAPITAL LETTER N WITH ACUTE|" ++
    "LATIN SMALL LETTER N WITH ACUTE|LATIN CAPITAL LETTER N WITH CEDILLA|" ++
    "LATIN SMALL LETTER N WITH CEDILLA|LATIN CAPITAL LETTER N WITH CARON|" ++
    "LATIN SMALL LETTER N WITH CARON|LATIN SMALL LETTER N PRECEDED BY APOSTROPHE|" ++
    "LATIN CAPITAL LETTER ENG|LATIN SMALL LETTER ENG|LATIN CAPITAL LETTER O WITH MACRON|" ++
    "LATIN SMALL LETTER O WITH MACRON|LATIN CAPITAL LETTER O WITH BREVE|" ++
    "LATIN SMALL LETTER O WITH BREVE|LATIN CAPITAL LETTER O WITH DOUBLE ACUTE|" ++
    "LATIN SMALL LETTER O WITH DOUBLE ACUTE|LATIN CAPITAL LIGATURE OE|" ++
    "LATIN SMALL LIGATURE OE|LATIN CAPITAL LETTER R WITH ACUTE|" ++
    "LATIN SMALL LETTER R WITH ACUTE|LATIN CAPITAL LETTER R WITH CEDILLA|" ++
    "LATIN SMALL LETTER R WITH CEDILLA|LATIN CAPITAL LETTER R WITH CARON|" ++
    "LATIN SMALL LETTER R WITH CARON|LATIN CAPITAL LETTER S WITH ACUTE|" ++
    "LATIN SMALL LETTER S WITH ACUTE|LATIN CAPITAL LETTER S WITH CIRCUMFLEX|" ++
    "LATIN SMALL LETTER S WITH CIRCUMFLEX|LATIN CAPITAL LETTER S WITH CEDILLA|" ++
    "LATIN SMALL LETTER S WITH CEDILLA|LATIN CAPITAL LETTER S WITH CARON|" ++
    "LATIN SMALL LETTER S WITH CARON|LATIN CAPITAL LETTER T WITH CEDILLA|" ++
    "LATIN SMALL LETTER T WITH CEDILLA|LATIN CAPITAL LETTER T WITH CARON|" ++
    "LATIN SMALL LETTER T WITH CARON|LATIN CAPITAL LETTER T WITH STROKE|" ++
    "LATIN SMALL LETTER T WITH STROKE|LATIN CAPITAL LETTER U WITH TILDE|" ++
    "LATIN SMALL LETTER U WITH TILDE|LATIN CAPITAL LETTER U WITH MACRON|" ++
    "LATIN SMALL LETTER U WITH MACRON|LATIN CAPITAL LETTER U WITH BREVE|" ++
    "LATIN SMALL LETTER U WITH BREVE|LATIN CAPITAL LETTER U WITH RING ABOVE|" ++
    "LATIN SMALL LETTER U WITH RING ABOVE|LATIN CAPITAL LETTER U WITH DOUBLE ACUTE|" ++
    "LATIN SMALL LETTER U WITH DOUBLE ACUTE|LATIN CAPITAL LETTER U WITH OGONEK|" ++
    "LATIN SMALL LETTER U WITH OGONEK|LATIN CAPITAL LETTER W WITH CIRCUMFLEX|" ++
    "LATIN SMALL LETTER W WITH CIRCUMFLEX|LATIN CAPITAL LETTER Y WITH CIRCUMFLEX|" ++
    "LATIN SMALL LETTER Y WITH CIRCUMFLEX|LATIN CAPITAL LETTER Y WITH DIAERESIS|" ++
    "LATIN CAPITAL LETTER Z WITH ACUTE|LATIN SMALL LETTER Z WITH ACUTE|" ++
    "LATIN CAPITAL LETTER Z WITH DOT ABOVE|LATIN SMALL LETTER Z WITH DOT ABOVE|" ++
    "LATIN CAPITAL LETTER Z WITH CARON|LATIN SMALL LETTER Z WITH CARON|" ++
    "LATIN SMALL LETTER LONG S"⟩,
   -- Latin Extended Additional, in part
   ⟨0x1e80,
    "LATIN CAPITAL LETTER W WITH GRAVE|LATIN SMALL LETTER W WITH GRAVE|" ++
    "LATIN CAPITAL LETTER W WITH ACUTE|LATIN SMALL LETTER W WITH ACUTE|" ++
    "LATIN CAPITAL LETTER W WITH DIAERESIS|LATIN SMALL LETTER W WITH DIAERESIS|" ++
    "LATIN CAPITAL LETTER W WITH DOT ABOVE|LATIN SMALL LETTER W WITH DOT ABOVE|" ++
    "LATIN CAPITAL LETTER W WITH DOT BELOW|LATIN SMALL LETTER W WITH DOT BELOW|" ++
    "LATIN CAPITAL LETTER X WITH DOT ABOVE|LATIN SMALL LETTER X WITH DOT ABOVE|" ++
    "LATIN CAPITAL LETTER X WITH DIAERESIS|LATIN SMALL LETTER X WITH DIAERESIS|" ++
    "LATIN CAPITAL LETTER Y WITH DOT ABOVE|LATIN SMALL LETTER Y WITH DOT ABOVE|" ++
    "LATIN CAPITAL LETTER Z WITH CIRCUMFLEX|LATIN SMALL LETTER Z WITH CIRCUMFLEX|" ++
    "LATIN CAPITAL LETTER Z WITH DOT BELOW|LATIN SMALL LETTER Z WITH DOT BELOW|" ++
    "LATIN CAPITAL LETTER Z WITH LINE BELOW|LATIN SMALL LETTER Z WITH LINE BELOW|" ++
    "LATIN SMALL LETTER H WITH LINE BELOW|LATIN SMALL LETTER T WITH DIAERESIS|" ++
    "LATIN SMALL LETTER W WITH RING ABOVE|LATIN SMALL LETTER Y WITH RING ABOVE|" ++
    "LATIN SMALL LETTER A WITH RIGHT HALF RING|LATIN SMALL LETTER LONG S WITH DOT ABOVE|" ++
    "LATIN SMALL LETTER LONG S WITH DIAGONAL STROKE|" ++
    "LATIN SMALL LETTER LONG S WITH HIGH STROKE|LATIN CAPITAL LETTER SHARP S"⟩,
   -- Greek and Coptic
   ⟨0x370,
    "GREEK CAPITAL LETTER HETA|GREEK SMALL LETTER HETA|GREEK CAPITAL LETTER ARCHAIC SAMPI|" ++
    "GREEK SMALL LETTER ARCHAIC SAMPI|GREEK NUMERAL SIGN|GREEK LOWER NUMERAL SIGN|" ++
    "GREEK CAPITAL LETTER PAMPHYLIAN DIGAMMA|GREEK SMALL LETTER PAMPHYLIAN DIGAMMA|||" ++
    "GREEK YPOGEGRAMMENI|GREEK SMALL REVERSED LUNATE SIGMA SYMBOL|" ++
    "GREEK SMALL DOTTED LUNATE SIGMA SYMBOL|GREEK SMALL REVERSED DOTTED LUNATE SIGMA SYMBOL|" ++
    "GREEK QUESTION MARK|GREEK CAPITAL LETTER YOT|||||GREEK TONOS|GREEK DIALYTIKA TONOS|" ++
    "GREEK CAPITAL LETTER ALPHA WITH TONOS|GREEK ANO TELEIA|" ++
    "GREEK CAPITAL LETTER EPSILON WITH TONOS|GREEK CAPITAL LETTER ETA WITH TONOS|" ++
    "GREEK CAPITAL LETTER IOTA WITH TONOS||GREEK CAPITAL LETTER OMICRON WITH TONOS||" ++
    "GREEK CAPITAL LETTER UPSILON WITH TONOS|GREEK CAPITAL LETTER OMEGA WITH TONOS|" ++
    "GREEK SMALL LETTER IOTA WITH DIALYTIKA AND TONOS|GREEK CAPITAL LETTER ALPHA|" ++
    "GREEK CAPITAL LETTER BETA|GREEK CAPITAL LETTER GAMMA|GREEK CAPITAL LETTER DELTA|" ++
    "GREEK CAPITAL LETTER EPSILON|GREEK CAPITAL LETTER ZETA|GREEK CAPITAL LETTER ETA|" ++
    "GREEK CAPITAL LETTER THETA|GREEK CAPITAL LETTER IOTA|GREEK CAPITAL LETTER KAPPA|" ++
    "GREEK CAPITAL LETTER LAMDA|GREEK CAPITAL LETTER MU|GREEK CAPITAL LETTER NU|" ++
    "GREEK CAPITAL LETTER XI|GREEK CAPITAL LETTER OMICRON|GREEK CAPITAL LETTER PI|" ++
    "GREEK CAPITAL LETTER RHO||GREEK CAPITAL LETTER SIGMA|GREEK CAPITAL LETTER TAU|" ++
    "GREEK CAPITAL LETTER UPSILON|GREEK CAPITAL LETTER PHI|GREEK CAPITAL LETTER CHI|" ++
    "GREEK CAPITAL LETTER PSI|GREEK CAPITAL LETTER OMEGA|" ++
    "GREEK CAPITAL LETTER IOTA WITH DIALYTIKA|GREEK CAPITAL LETTER UPSILON WITH DIALYTIKA|" ++
    "GREEK SMALL LETTER ALPHA WITH TONOS|GREEK SMALL LETTER EPSILON WITH TONOS|" ++
    "GREEK SMALL LETTER ETA WITH TONOS|GREEK SMALL LETTER IOTA WITH TONOS|" ++
    "GREEK SMALL LETTER UPSILON WITH DIALYTIKA AND TONOS|GREEK SMALL LETTER ALPHA|" ++
    "GREEK SMALL LETTER BETA|GREEK SMALL LETTER GAMMA|GREEK SMALL LETTER DELTA|" ++
    "GREEK SMALL LETTER EPSILON|GREEK SMALL LETTER ZETA|GREEK SMALL LETTER ETA|" ++
    "GREEK SMALL LETTER THETA|GREEK SMALL LETTER IOTA|GREEK SMALL LETTER KAPPA|" ++
    "GREEK SMALL LETTER LAMDA|GREEK SMALL LETTER MU|GREEK SMALL LETTER NU|" ++
    "GREEK SMALL LETTER XI|GREEK SMALL LETTER OMICRON|GREEK SMALL LETTER PI|" ++
    "GREEK SMALL LETTER RHO|GREEK SMALL LETTER FINAL SIGMA|GREEK SMALL LETTER SIGMA|" ++
    "GREEK SMALL LETTER TAU|GREEK SMALL LETTER UPSILON|GREEK SMALL LETTER PHI|" ++
    "GREEK SMALL LETTER CHI|GREEK SMALL LETTER PSI|GREEK SMALL LETTER OMEGA|" ++
    "GREEK SMALL LETTER IOTA WITH DIALYTIKA|GREEK SMALL LETTER UPSILON WITH DIALYTIKA|" ++
    "GREEK SMALL LETTER OMICRON WITH TONOS|GREEK SMALL LETTER UPSILON WITH TONOS|" ++
    "GREEK SMALL LETTER OMEGA WITH TONOS|GREEK CAPITAL KAI SYMBOL|GREEK BETA SYMBOL|" ++
    "GREEK THETA SYMBOL|GREEK UPSILON WITH HOOK SYMBOL|" ++
    "GREEK UPSILON WITH ACUTE AND HOOK SYMBOL|GREEK UPSILON WITH DIAERESIS AND HOOK SYMBOL|" ++
    "GREEK PHI SYMBOL|GREEK PI SYMBOL|GREEK KAI SYMBOL|GREEK LETTER ARCHAIC KOPPA|" ++
    "GREEK SMALL LETTER ARCHAIC KOPPA|GREEK LETTER STIGMA|GREEK SMALL LETTER STIGMA|" ++
    "GREEK LETTER DIGAMMA|GREEK SMALL LETTER DIGAMMA|GREEK LETTER KOPPA|" ++
    "GREEK SMALL LETTER KOPPA|GREEK LETTER SAMPI|GREEK SMALL LETTER SAMPI|" ++
    "COPTIC CAPITAL LETTER SHEI|COPTIC SMALL LETTER SHEI|COPTIC CAPITAL LETTER FEI|" ++
    "COPTIC SMALL LETTER FEI|COPTIC CAPITAL LETTER KHEI|COPTIC SMALL LETTER KHEI|" ++
    "COPTIC CAPITAL LETTER HORI|COPTIC SMALL LETTER HORI|COPTIC CAPITAL LETTER GANGIA|" ++
    "COPTIC SMALL LETTER GANGIA|COPTIC CAPITAL LETTER SHIMA|COPTIC SMALL LETTER SHIMA|" ++
    "COPTIC CAPITAL LETTER DEI|COPTIC SMALL LETTER DEI|GREEK KAPPA SYMBOL|GREEK RHO SYMBOL|" ++
    "GREEK LUNATE SIGMA SYMBOL|GREEK LETTER YOT|GREEK CAPITAL THETA SYMBOL|" ++
    "GREEK LUNATE EPSILON SYMBOL|GREEK REVERSED LUNATE EPSILON SYMBOL|" ++
    "GREEK CAPITAL LETTER SHO|GREEK SMALL LETTER SHO|GREEK CAPITAL LUNATE SIGMA SYMBOL|" ++
    "GREEK CAPITAL LETTER SAN|GREEK SMALL LETTER SAN|GREEK RHO WITH STROKE SYMBOL|" ++
    "GREEK CAPITAL REVERSED LUNATE SIGMA SYMBOL|GREEK CAPITAL DOTTED LUNATE SIGMA SYMBOL|" ++
    "GREEK CAPITAL REVERSED DOTTED LUNATE SIGMA SYMBOL"⟩,
   -- Cyrillic, in part
   ⟨0x400,
    "CYRILLIC CAPITAL LETTER IE WITH GRAVE|CYRILLIC CAPITAL LETTER IO|" ++
    "CYRILLIC CAPITAL LETTER DJE|CYRILLIC CAPITAL LETTER GJE|" ++
    "CYRILLIC CAPITAL LETTER UKRAINIAN IE|CYRILLIC CAPITAL LETTER DZE|" ++
    "CYRILLIC CAPITAL LETTER BYELORUSSIAN-UKRAINIAN I|CYRILLIC CAPITAL LETTER YI|" ++
    "CYRILLIC CAPITAL LETTER JE|CYRILLIC CAPITAL LETTER LJE|CYRILLIC CAPITAL LETTER NJE|" ++
    "CYRILLIC CAPITAL LETTER TSHE|CYRILLIC CAPITAL LETTER KJE|" ++
    "CYRILLIC CAPITAL LETTER I WITH GRAVE|CYRILLIC CAPITAL LETTER SHORT U|" ++
    "CYRILLIC CAPITAL LETTER DZHE|CYRILLIC CAPITAL LETTER A|CYRILLIC CAPITAL LETTER BE|" ++
    "CYRILLIC CAPITAL LETTER VE|CYRILLIC CAPITAL LETTER GHE|CYRILLIC CAPITAL LETTER DE|" ++
    "CYRILLIC CAPITAL LETTER IE|CYRILLIC CAPITAL LETTER ZHE|CYRILLIC CAPITAL LETTER ZE|" ++
    "CYRILLIC CAPITAL LETTER I|CYRILLIC CAPITAL LETTER SHORT I|CYRILLIC CAPITAL LETTER KA|" ++
    "CYRILLIC CAPITAL LETTER EL|CYRILLIC CAPITAL LETTER EM|CYRILLIC CAPITAL LETTER EN|" ++
    "CYRILLIC CAPITAL LETTER O|CYRILLIC CAPITAL LETTER PE|CYRILLIC CAPITAL LETTER ER|" ++
    "CYRILLIC CAPITAL LETTER ES|CYRILLIC CAPITAL LETTER TE|CYRILLIC CAPITAL LETTER U|" ++
    "CYRILLIC CAPITAL LETTER EF|CYRILLIC CAPITAL LETTER HA|CYRILLIC CAPITAL LETTER TSE|" ++
    "CYRILLIC CAPITAL LETTER CHE|CYRILLIC CAPITAL LETTER SHA|CYRILLIC CAPITAL LETTER SHCHA|" ++
    "CYRILLIC CAPITAL LETTER HARD SIGN|CYRILLIC CAPITAL LETTER YERU|" ++
    "CYRILLIC CAPITAL LETTER SOFT SIGN|CYRILLIC CAPITAL LETTER E|CYRILLIC CAPITAL LETTER YU|" ++
    "CYRILLIC CAPITAL LETTER YA|CYRILLIC SMALL LETTER A|CYRILLIC SMALL LETTER BE|" ++
    "CYRILLIC SMALL LETTER VE|CYRILLIC SMALL LETTER GHE|CYRILLIC SMALL LETTER DE|" ++
    "CYRILLIC SMALL LETTER IE|CYRILLIC SMALL LETTER ZHE|CYRILLIC SMALL LETTER ZE|" ++
    "CYRILLIC SMALL LETTER I|CYRILLIC SMALL LETTER SHORT I|CYRILLIC SMALL LETTER KA|" ++
    "CYRILLIC SMALL LETTER EL|CYRILLIC SMALL LETTER EM|CYRILLIC SMALL LETTER EN|" ++
    "CYRILLIC SMALL LETTER O|CYRILLIC SMALL LETTER PE|CYRILLIC SMALL LETTER ER|" ++
    "CYRILLIC SMALL LETTER ES|CYRILLIC SMALL LETTER TE|CYRILLIC SMALL LETTER U|" ++
    "CYRILLIC SMALL LETTER EF|CYRILLIC SMALL LETTER HA|CYRILLIC SMALL LETTER TSE|" ++
    "CYRILLIC SMALL LETTER CHE|CYRILLIC SMALL LETTER SHA|CYRILLIC SMALL LETTER SHCHA|" ++
    "CYRILLIC SMALL LETTER HARD SIGN|CYRILLIC SMALL LETTER YERU|" ++
    "CYRILLIC SMALL LETTER SOFT SIGN|CYRILLIC SMALL LETTER E|CYRILLIC SMALL LETTER YU|" ++
    "CYRILLIC SMALL LETTER YA|CYRILLIC SMALL LETTER IE WITH GRAVE|CYRILLIC SMALL LETTER IO|" ++
    "CYRILLIC SMALL LETTER DJE|CYRILLIC SMALL LETTER GJE|CYRILLIC SMALL LETTER UKRAINIAN IE|" ++
    "CYRILLIC SMALL LETTER DZE|CYRILLIC SMALL LETTER BYELORUSSIAN-UKRAINIAN I|" ++
    "CYRILLIC SMALL LETTER YI|CYRILLIC SMALL LETTER JE|CYRILLIC SMALL LETTER LJE|" ++
    "CYRILLIC SMALL LETTER NJE|CYRILLIC SMALL LETTER TSHE|CYRILLIC SMALL LETTER KJE|" ++
    "CYRILLIC SMALL LETTER I WITH GRAVE|CYRILLIC SMALL LETTER SHORT U|" ++
    "CYRILLIC SMALL LETTER DZHE"⟩,
   -- Hebrew letters
   ⟨0x5d0,
    "HEBREW LETTER ALEF|HEBREW LETTER BET|HEBREW LETTER GIMEL|HEBREW LETTER DALET|" ++
    "HEBREW LETTER HE|HEBREW LETTER VAV|HEBREW LETTER ZAYIN|HEBREW LETTER HET|" ++
    "HEBREW LETTER TET|HEBREW LETTER YOD|HEBREW LETTER FINAL KAF|HEBREW LETTER KAF|" ++
    "HEBREW LETTER LAMED|HEBREW LETTER FINAL MEM|HEBREW LETTER MEM|HEBREW LETTER FINAL NUN|" ++
    "HEBREW LETTER NUN|HEBREW LETTER SAMEKH|HEBREW LETTER AYIN|HEBREW LETTER FINAL PE|" ++
    "HEBREW LETTER PE|HEBREW LETTER FINAL TSADI|HEBREW LETTER TSADI|HEBREW LETTER QOF|" ++
    "HEBREW LETTER RESH|HEBREW LETTER SHIN|HEBREW LETTER TAV"⟩,
   -- Hiragana
   ⟨0x3041,
    "HIRAGANA LETTER SMALL A|HIRAGANA LETTER A|HIRAGANA LETTER SMALL I|HIRAGANA LETTER I|" ++
    "HIRAGANA LETTER SMALL U|HIRAGANA LETTER U|HIRAGANA LETTER SMALL E|HIRAGANA LETTER E|" ++
    "HIRAGANA LETTER SMALL O|HIRAGANA LETTER O|HIRAGANA LETTER KA|HIRAGANA LETTER GA|" ++
    "HIRAGANA LETTER KI|HIRAGANA LETTER GI|HIRAGANA LETTER KU|HIRAGANA LETTER GU|" ++
    "HIRAGANA LETTER KE|HIRAGANA LETTER GE|HIRAGANA LETTER KO|HIRAGANA LETTER GO|" ++
    "HIRAGANA LETTER SA|HIRAGANA LETTER ZA|HIRAGANA LETTER SI|HIRAGANA LETTER ZI|" ++
    "HIRAGANA LETTER SU|HIRAGANA LETTER ZU|HIRAGANA LETTER SE|HIRAGANA LETTER ZE|" ++
    "HIRAGANA LETTER SO|HIRAGANA LETTER ZO|HIRAGANA LETTER TA|HIRAGANA LETTER DA|" ++
    "HIRAGANA LETTER TI|HIRAGANA LETTER DI|HIRAGANA LETTER SMALL TU|HIRAGANA LETTER TU|" ++
    "HIRAGANA LETTER DU|HIRAGANA LETTER TE|HIRAGANA LETTER DE|HIRAGANA LETTER TO|" ++
    "HIRAGANA LETTER DO|HIRAGANA LETTER NA|HIRAGANA LETTER NI|HIRAGANA LETTER NU|" ++
    "HIRAGANA LETTER NE|HIRAGANA LETTER NO|HIRAGANA LETTER HA|HIRAGANA LETTER BA|" ++
    "HIRAGANA LETTER PA|HIRAGANA LETTER HI|HIRAGANA LETTER BI|HIRAGANA LETTER PI|" ++
    "HIRAGANA LETTER HU|HIRAGANA LETTER BU|HIRAGANA LETTER PU|HIRAGANA LETTER HE|" ++
    "HIRAGANA LETTER BE|HIRAGANA LETTER PE|HIRAGANA LETTER HO|HIRAGANA LETTER BO|" ++
    "HIRAGANA LETTER PO|HIRAGANA LETTER MA|HIRAGANA LETTER MI|HIRAGANA LETTER MU|" ++
    "HIRAGANA LETTER ME|HIRAGANA LETTER MO|HIRAGANA LETTER SMALL YA|HIRAGANA LETTER YA|" ++
    "HIRAGANA LETTER SMALL YU|HIRAGANA LETTER YU|HIRAGANA LETTER SMALL YO|HIRAGANA LETTER YO|" ++
    "HIRAGANA LETTER RA|HIRAGANA LETTER RI|HIRAGANA LETTER RU|HIRAGANA LETTER RE|" ++
    "HIRAGANA LETTER RO|HIRAGANA LETTER SMALL WA|HIRAGANA LETTER WA|HIRAGANA LETTER WI|" ++
    "HIRAGANA LETTER WE|HIRAGANA LETTER WO|HIRAGANA LETTER N|HIRAGANA LETTER VU|" ++
    "HIRAGANA LETTER SMALL KA|HIRAGANA LETTER SMALL KE"⟩,
   -- Katakana
   ⟨0x30a1,
    "KATAKANA LETTER SMALL A|KATAKANA LETTER A|KATAKANA LETTER SMALL I|KATAKANA LETTER I|" ++
    "KATAKANA LETTER SMALL U|KATAKANA LETTER U|KATAKANA LETTER SMALL E|KATAKANA LETTER E|" ++
    "KATAKANA LETTER SMALL O|KATAKANA LETTER O|KATAKANA LETTER KA|KATAKANA LETTER GA|" ++
    "KATAKANA LETTER KI|KATAKANA LETTER GI|KATAKANA LETTER KU|KATAKANA LETTER GU|" ++
    "KATAKANA LETTER KE|KATAKANA LETTER GE|KATAKANA LETTER KO|KATAKANA LETTER GO|" ++
    "KATAKANA LETTER SA|KATAKANA LETTER ZA|KATAKANA LETTER SI|KATAKANA LETTER ZI|" ++
    "KATAKANA LETTER SU|KATAKANA LETTER ZU|KATAKANA LETTER SE|KATAKANA LETTER ZE|" ++
    "KATAKANA LETTER SO|KATAKANA LETTER ZO|KATAKANA LETTER TA|KATAKANA LETTER DA|" ++
    "KATAKANA LETTER TI|KATAKANA LETTER DI|KATAKANA LETTER SMALL TU|KATAKANA LETTER TU|" ++
    "KATAKANA LETTER DU|KATAKANA LETTER TE|KATAKANA LETTER DE|KATAKANA LETTER TO|" ++
    "KATAKANA LETTER DO|KATAKANA LETTER NA|KATAKANA LETTER NI|KATAKANA LETTER NU|" ++
    "KATAKANA LETTER NE|KATAKANA LETTER NO|KATAKANA LETTER HA|KATAKANA LETTER BA|" ++
    "KATAKANA LETTER PA|KATAKANA LETTER HI|KATAKANA LETTER BI|KATAKANA LETTER PI|" ++
    "KATAKANA LETTER HU|KATAKANA LETTER BU|KATAKANA LETTER PU|KATAKANA LETTER HE|" ++
    "KATAKANA LETTER BE|KATAKANA LETTER PE|KATAKANA LETTER HO|KATAKANA LETTER BO|" ++
    "KATAKANA LETTER PO|KATAKANA LETTER MA|KATAKANA LETTER MI|KATAKANA LETTER MU|" ++
    "KATAKANA LETTER ME|KATAKANA LETTER MO|KATAKANA LETTER SMALL YA|KATAKANA LETTER YA|" ++
    "KATAKANA LETTER SMALL YU|KATAKANA LETTER YU|KATAKANA LETTER SMALL YO|KATAKANA LETTER YO|" ++
    "KATAKANA LETTER RA|KATAKANA LETTER RI|KATAKANA LETTER RU|KATAKANA LETTER RE|" ++
    "KATAKANA LETTER RO|KATAKANA LETTER SMALL WA|KATAKANA LETTER WA|KATAKANA LETTER WI|" ++
    "KATAKANA LETTER WE|KATAKANA LETTER WO|KATAKANA LETTER N|KATAKANA LETTER VU|" ++
    "KATAKANA LETTER SMALL KA|KATAKANA LETTER SMALL KE|KATAKANA LETTER VA|KATAKANA LETTER VI|" ++
    "KATAKANA LETTER VE|KATAKANA LETTER VO|KATAKANA MIDDLE DOT|" ++
    "KATAKANA-HIRAGANA PROLONGED SOUND MARK"⟩,
   -- Latin ligatures
   ⟨0xfb00,
    "LATIN SMALL LIGATURE FF|LATIN SMALL LIGATURE FI|LATIN SMALL LIGATURE FL|" ++
    "LATIN SMALL LIGATURE FFI|LATIN SMALL LIGATURE FFL|LATIN SMALL LIGATURE LONG S T|" ++
    "LATIN SMALL LIGATURE ST"⟩,
   -- Fullwidth forms
   ⟨0xff01,
    "FULLWIDTH EXCLAMATION MARK|FULLWIDTH QUOTATION MARK|FULLWIDTH NUMBER SIGN|" ++
    "FULLWIDTH DOLLAR SIGN|FULLWIDTH PERCENT SIGN|FULLWIDTH AMPERSAND|FULLWIDTH APOSTROPHE|" ++
    "FULLWIDTH LEFT PARENTHESIS|FULLWIDTH RIGHT PARENTHESIS|FULLWIDTH ASTERISK|" ++
    "FULLWIDTH PLUS SIGN|FULLWIDTH COMMA|FULLWIDTH HYPHEN-MINUS|FULLWIDTH FULL STOP|" ++
    "FULLWIDTH SOLIDUS|FULLWIDTH DIGIT ZERO|FULLWIDTH DIGIT ONE|FULLWIDTH DIGIT TWO|" ++
    "FULLWIDTH DIGIT THREE|FULLWIDTH DIGIT FOUR|FULLWIDTH DIGIT FIVE|FULLWIDTH DIGIT SIX|" ++
    "FULLWIDTH DIGIT SEVEN|FULLWIDTH DIGIT EIGHT|FULLWIDTH DIGIT NINE|FULLWIDTH COLON|" ++
    "FULLWIDTH SEMICOLON|FULLWIDTH LESS-THAN SIGN|FULLWIDTH EQUALS SIGN|" ++
    "FULLWIDTH GREATER-THAN SIGN|FULLWIDTH QUESTION MARK|FULLWIDTH COMMERCIAL AT|" ++
    "FULLWIDTH LATIN CAPITAL LETTER A|FULLWIDTH LATIN CAPITAL LETTER B|" ++
    "FULLWIDTH LATIN CAPITAL LETTER C|FULLWIDTH LATIN CAPITAL LETTER D|" ++
    "FULLWIDTH LATIN CAPITAL LETTER E|FULLWIDTH LATIN CAPITAL LETTER F|" ++
    "FULLWIDTH LATIN CAPITAL LETTER G|FULLWIDTH LATIN CAPITAL LETTER H|" ++
    "FULLWIDTH LATIN CAPITAL LETTER I|FULLWIDTH LATIN CAPITAL LETTER J|" ++
    "FULLWIDTH LATIN CAPITAL LETTER K|FULLWIDTH LATIN CAPITAL LETTER L|" ++
    "FULLWIDTH LATIN CAPITAL LETTER M|FULLWIDTH LATIN CAPITAL LETTER N|" ++
    "FULLWIDTH LATIN CAPITAL LETTER O|FULLWIDTH LATIN CAPITAL LETTER P|" ++
    "FULLWIDTH LATIN CAPITAL LETTER Q|FULLWIDTH LATIN CAPITAL LETTER R|" ++
    "FULLWIDTH LATIN CAPITAL LETTER S|FULLWIDTH LATIN CAPITAL LETTER T|" ++
    "FULLWIDTH LATIN CAPITAL LETTER U|FULLWIDTH LATIN CAPITAL LETTER V|" ++
    "FULLWIDTH LATIN CAPITAL LETTER W|FULLWIDTH LATIN CAPITAL LETTER X|" ++
    "FULLWIDTH LATIN CAPITAL LETTER Y|FULLWIDTH LATIN CAPITAL LETTER Z|" ++
    "FULLWIDTH LEFT SQUARE BRACKET|FULLWIDTH REVERSE SOLIDUS|FULLWIDTH RIGHT SQUARE BRACKET|" ++
    "FULLWIDTH CIRCUMFLEX ACCENT|FULLWIDTH LOW LINE|FULLWIDTH GRAVE ACCENT|" ++
    "FULLWIDTH LATIN SMALL LETTER A|FULLWIDTH LATIN SMALL LETTER B|" ++
    "FULLWIDTH LATIN SMALL LETTER C|FULLWIDTH LATIN SMALL LETTER D|" ++
    "FULLWIDTH LATIN SMALL LETTER E|FULLWIDTH LATIN SMALL LETTER F|" ++
    "FULLWIDTH LATIN SMALL LETTER G|FULLWIDTH LATIN SMALL LETTER H|" ++
    "FULLWIDTH LATIN SMALL LETTER I|FULLWIDTH LATIN SMALL LETTER J|" ++
    "FULLWIDTH LATIN SMALL LETTER K|FULLWIDTH LATIN SMALL LETTER L|" ++
    "FULLWIDTH LATIN SMALL LETTER M|FULLWIDTH LATIN SMALL LETTER N|" ++
    "FULLWIDTH LATIN SMALL LETTER O|FULLWIDTH LATIN SMALL LETTER P|" ++
    "FULLWIDTH LATIN SMALL LETTER Q|FULLWIDTH LATIN SMALL LETTER R|" ++
    "FULLWIDTH LATIN SMALL LETTER S|FULLWIDTH LATIN SMALL LETTER T|" ++
    "FULLWIDTH LATIN SMALL LETTER U|FULLWIDTH LATIN SMALL LETTER V|" ++
    "FULLWIDTH LATIN SMALL LETTER W|FULLWIDTH LATIN SMALL LETTER X|" ++
    "FULLWIDTH LATIN SMALL LETTER Y|FULLWIDTH LATIN SMALL LETTER Z|" ++
    "FULLWIDTH LEFT CURLY BRACKET|FULLWIDTH VERTICAL LINE|FULLWIDTH RIGHT CURLY BRACKET|" ++
    "FULLWIDTH TILDE"⟩]

end BrowserPlan.Text.CharacterName
