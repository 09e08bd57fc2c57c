/-!
The names by which properties are known.  Names are in small letters without blanks, hyphens and
underscores; a property has several, written one after another.
-/
namespace RequestBinding.Unicode

/-- General categories: their names, and the two-letter categories each one covers. -/
def categoryNames : List (String × String) := [
    ("c other", "Cc Cf Co Cn"), ("cc control cntrl", "Cc"), ("cf format", "Cf"),
    ("cn unassigned", "Cn"), ("co privateuse", "Co"), ("cs surrogate", ""),
    ("l letter", "Lu Ll Lt Lm Lo"), ("lc casedletter", "Lu Ll Lt"), ("ll lowercaseletter", "Ll"),
    ("lm modifierletter", "Lm"), ("lo otherletter", "Lo"), ("lt titlecaseletter", "Lt"),
    ("lu uppercaseletter", "Lu"), ("m mark combiningmark", "Mn Mc Me"), ("mc spacingmark", "Mc"),
    ("me enclosingmark", "Me"), ("mn nonspacingmark", "Mn"), ("n number", "Nd Nl No"),
    ("nd decimalnumber digit", "Nd"), ("nl letternumber", "Nl"), ("no othernumber", "No"),
    ("p punctuation punct", "Pc Pd Ps Pe Pi Pf Po"), ("pc connectorpunctuation", "Pc"),
    ("pd dashpunctuation", "Pd"), ("pe closepunctuation", "Pe"), ("pf finalpunctuation", "Pf"),
    ("pi initialpunctuation", "Pi"), ("po otherpunctuation", "Po"), ("ps openpunctuation", "Ps"),
    ("s symbol", "Sm Sc Sk So"), ("sc currencysymbol", "Sc"), ("sk modifiersymbol", "Sk"),
    ("sm mathsymbol", "Sm"), ("so othersymbol", "So"), ("z separator", "Zs Zl Zp"),
    ("zl lineseparator", "Zl"), ("zp paragraphseparator", "Zp"), ("zs spaceseparator", "Zs")]

/-- Scripts: the four letters of each, and its names. -/
def scriptNames : List (String × String) := [
    ("Adlm", "adlm adlam"), ("Aghb", "aghb caucasianalbanian"), ("Ahom", "ahom"),
    ("Arab", "arab arabic"), ("Armi", "armi imperialaramaic"), ("Armn", "armn armenian"),
    ("Avst", "avst avestan"), ("Bali", "bali balinese"), ("Bamu", "bamu bamum"),
    ("Bass", "bass bassavah"), ("Batk", "batk batak"), ("Beng", "beng bengali"),
    ("Bhks", "bhks bhaiksuki"), ("Bopo", "bopo bopomofo"), ("Brah", "brah brahmi"),
    ("Brai", "brai braille"), ("Bugi", "bugi buginese"), ("Buhd", "buhd buhid"),
    ("Cakm", "cakm chakma"), ("Cans", "cans canadianaboriginal"), ("Cari", "cari carian"),
    ("Cham", "cham"), ("Cher", "cher cherokee"), ("Chrs", "chrs chorasmian"),
    ("Copt", "copt coptic qaac"), ("Cpmn", "cpmn cyprominoan"), ("Cprt", "cprt cypriot"),
    ("Cyrl", "cyrl cyrillic"), ("Deva", "deva devanagari"), ("Diak", "diak divesakuru"),
    ("Dogr", "dogr dogra"), ("Dsrt", "dsrt deseret"), ("Dupl", "dupl duployan"),
    ("Egyp", "egyp egyptianhieroglyphs"), ("Elba", "elba elbasan"), ("Elym", "elym elymaic"),
    ("Ethi", "ethi ethiopic"), ("Gara", "gara garay"), ("Geor", "geor georgian"),
    ("Glag", "glag glagolitic"), ("Gong", "gong gunjalagondi"), ("Gonm", "gonm masaramgondi"),
    ("Goth", "goth gothic"), ("Gran", "gran grantha"), ("Grek", "grek greek"),
    ("Gujr", "gujr gujarati"), ("Gukh", "gukh gurungkhema"), ("Guru", "guru gurmukhi"),
    ("Hang", "hang hangul"), ("Hani", "hani han"), ("Hano", "hano hanunoo"),
    ("Hatr", "hatr hatran"), ("Hebr", "hebr hebrew"), ("Hira", "hira hiragana"),
    ("Hluw", "hluw anatolianhieroglyphs"), ("Hmng", "hmng pahawhhmong"),
    ("Hmnp", "hmnp nyiakengpuachuehmong"), ("Hrkt", "hrkt katakanaorhiragana"),
    ("Hung", "hung oldhungarian"), ("Ital", "ital olditalic"), ("Java", "java javanese"),
    ("Kali", "kali kayahli"), ("Kana", "kana katakana"), ("Kawi", "kawi"),
    ("Khar", "khar kharoshthi"), ("Khmr", "khmr khmer"), ("Khoj", "khoj khojki"),
    ("Kits", "kits khitansmallscript"), ("Knda", "knda kannada"), ("Krai", "krai kiratrai"),
    ("Kthi", "kthi kaithi"), ("Lana", "lana taitham"), ("Laoo", "laoo lao"),
    ("Latn", "latn latin"), ("Lepc", "lepc lepcha"), ("Limb", "limb limbu"),
    ("Lina", "lina lineara"), ("Linb", "linb linearb"), ("Lisu", "lisu"), ("Lyci", "lyci lycian"),
    ("Lydi", "lydi lydian"), ("Mahj", "mahj mahajani"), ("Maka", "maka makasar"),
    ("Mand", "mand mandaic"), ("Mani", "mani manichaean"), ("Marc", "marc marchen"),
    ("Medf", "medf medefaidrin"), ("Mend", "mend mendekikakui"), ("Merc", "merc meroiticcursive"),
    ("Mero", "mero meroitichieroglyphs"), ("Mlym", "mlym malayalam"), ("Modi", "modi"),
    ("Mong", "mong mongolian"), ("Mroo", "mroo mro"), ("Mtei", "mtei meeteimayek"),
    ("Mult", "mult multani"), ("Mymr", "mymr myanmar"), ("Nagm", "nagm nagmundari"),
    ("Nand", "nand nandinagari"), ("Narb", "narb oldnortharabian"), ("Nbat", "nbat nabataean"),
    ("Newa", "newa"), ("Nkoo", "nkoo nko"), ("Nshu", "nshu nushu"), ("Ogam", "ogam ogham"),
    ("Olck", "olck olchiki"), ("Onao", "onao olonal"), ("Orkh", "orkh oldturkic"),
    ("Orya", "orya oriya"), ("Osge", "osge osage"), ("Osma", "osma osmanya"),
    ("Ougr", "ougr olduyghur"), ("Palm", "palm palmyrene"), ("Pauc", "pauc paucinhau"),
    ("Perm", "perm oldpermic"), ("Phag", "phag phagspa"), ("Phli", "phli inscriptionalpahlavi"),
    ("Phlp", "phlp psalterpahlavi"), ("Phnx", "phnx phoenician"), ("Plrd", "plrd miao"),
    ("Prti", "prti inscriptionalparthian"), ("Rjng", "rjng rejang"),
    ("Rohg", "rohg hanifirohingya"), ("Runr", "runr runic"), ("Samr", "samr samaritan"),
    ("Sarb", "sarb oldsoutharabian"), ("Saur", "saur saurashtra"), ("Sgnw", "sgnw signwriting"),
    ("Shaw", "shaw shavian"), ("Shrd", "shrd sharada"), ("Sidd", "sidd siddham"),
    ("Sind", "sind khudawadi"), ("Sinh", "sinh sinhala"), ("Sogd", "sogd sogdian"),
    ("Sogo", "sogo oldsogdian"), ("Sora", "sora sorasompeng"), ("Soyo", "soyo soyombo"),
    ("Sund", "sund sundanese"), ("Sunu", "sunu sunuwar"), ("Sylo", "sylo sylotinagri"),
    ("Syrc", "syrc syriac"), ("Tagb", "tagb tagbanwa"), ("Takr", "takr takri"),
    ("Tale", "tale taile"), ("Talu", "talu newtailue"), ("Taml", "taml tamil"),
    ("Tang", "tang tangut"), ("Tavt", "tavt taiviet"), ("Telu", "telu telugu"),
    ("Tfng", "tfng tifinagh"), ("Tglg", "tglg tagalog"), ("Thaa", "thaa thaana"),
    ("Thai", "thai"), ("Tibt", "tibt tibetan"), ("Tirh", "tirh tirhuta"), ("Tnsa", "tnsa tangsa"),
    ("Todr", "todr todhri"), ("Toto", "toto"), ("Tutg", "tutg tulutigalari"),
    ("Ugar", "ugar ugaritic"), ("Vaii", "vaii vai"), ("Vith", "vith vithkuqi"),
    ("Wara", "wara warangciti"), ("Wcho", "wcho wancho"), ("Xpeo", "xpeo oldpersian"),
    ("Xsux", "xsux cuneiform"), ("Yezi", "yezi yezidi"), ("Yiii", "yiii yi"),
    ("Zanb", "zanb zanabazarsquare"), ("Zinh", "zinh inherited qaai"), ("Zyyy", "zyyy common"),
    ("Zzzz", "zzzz unknown")]

/-- Properties that hold or do not hold: the name in the tables, and all names. -/
def propertyNames : List (String × String) := [
    ("ASCII_Hex_Digit", "ahex asciihexdigit"), ("Alphabetic", "alpha alphabetic"),
    ("Bidi_Control", "bidic bidicontrol"), ("Case_Ignorable", "ci caseignorable"),
    ("Cased", "cased"), ("Changes_When_Casefolded", "cwcf changeswhencasefolded"),
    ("Changes_When_Casemapped", "cwcm changeswhencasemapped"),
    ("Changes_When_Lowercased", "cwl changeswhenlowercased"),
    ("Changes_When_Titlecased", "cwt changeswhentitlecased"),
    ("Changes_When_Uppercased", "cwu changeswhenuppercased"), ("Dash", "dash"),
    ("Default_Ignorable_Code_Point", "di defaultignorablecodepoint"),
    ("Deprecated", "dep deprecated"), ("Diacritic", "dia diacritic"), ("Emoji", "emoji"),
    ("Emoji_Component", "ecomp emojicomponent"), ("Emoji_Modifier", "emod emojimodifier"),
    ("Emoji_Modifier_Base", "ebase emojimodifierbase"),
    ("Emoji_Presentation", "epres emojipresentation"),
    ("Extended_Pictographic", "extpict extendedpictographic"), ("Extender", "ext extender"),
    ("Grapheme_Base", "grbase graphemebase"), ("Grapheme_Extend", "grext graphemeextend"),
    ("Grapheme_Link", "grlink graphemelink"), ("Hex_Digit", "hex hexdigit"), ("Hyphen", "hyphen"),
    ("IDS_Binary_Operator", "idsb idsbinaryoperator"),
    ("IDS_Trinary_Operator", "idst idstrinaryoperator"),
    ("IDS_Unary_Operator", "idsu idsunaryoperator"),
    ("ID_Compat_Math_Continue", "idcompatmathcontinue"),
    ("ID_Compat_Math_Start", "idcompatmathstart"), ("ID_Continue", "idc idcontinue"),
    ("ID_Start", "ids idstart"), ("Ideographic", "ideo ideographic"),
    ("Join_Control", "joinc joincontrol"),
    ("Logical_Order_Exception", "loe logicalorderexception"), ("Lowercase", "lower lowercase"),
    ("Math", "math"), ("Modifier_Combining_Mark", "mcm modifiercombiningmark"),
    ("Noncharacter_Code_Point", "nchar noncharactercodepoint"),
    ("Other_Alphabetic", "oalpha otheralphabetic"),
    ("Other_Default_Ignorable_Code_Point", "odi otherdefaultignorablecodepoint"),
    ("Other_Grapheme_Extend", "ogrext othergraphemeextend"),
    ("Other_ID_Continue", "oidc otheridcontinue"), ("Other_ID_Start", "oids otheridstart"),
    ("Other_Lowercase", "olower otherlowercase"), ("Other_Math", "omath othermath"),
    ("Other_Uppercase", "oupper otheruppercase"), ("Pattern_Syntax", "patsyn patternsyntax"),
    ("Pattern_White_Space", "patws patternwhitespace"),
    ("Prepended_Concatenation_Mark", "pcm prependedconcatenationmark"),
    ("Quotation_Mark", "qmark quotationmark"), ("Radical", "radical"),
    ("Regional_Indicator", "ri regionalindicator"),
    ("Sentence_Terminal", "sterm sentenceterminal"), ("Soft_Dotted", "sd softdotted"),
    ("Terminal_Punctuation", "term terminalpunctuation"),
    ("Unified_Ideograph", "uideo unifiedideograph"), ("Uppercase", "upper uppercase"),
    ("Variation_Selector", "vs variationselector"), ("White_Space", "wspace whitespace space"),
    ("XID_Continue", "xidc xidcontinue"), ("XID_Start", "xids xidstart")]

/-- Names of properties with other values, which cannot be asked for. -/
def otherPropertyNames : String := String.join [
  "bc bidiclass bidim bidimirrored bidimirroringglyph bidipairedbracket bidipairedbrackettype ",
  "blk block bmg bpb bpt canonicalcombiningclass casefolding ccc ce cf ",
  "changeswhennfkccasefolded cjkaccountingnumeric cjkcompatibilityvariant cjkiicore ",
  "cjkirggsource cjkirghsource cjkirgjsource cjkirgkpsource cjkirgksource cjkirgmsource ",
  "cjkirgssource cjkirgtsource cjkirguksource cjkirgusource cjkirgvsource cjkothernumeric ",
  "cjkprimarynumeric cjkrsunicode cjkunihancore2020 compex compositionexclusion cwkcf ",
  "decompositionmapping decompositiontype dm dt ea eastasianwidth equideo ",
  "equivalentunifiedideograph expandsonnfc expandsonnfd expandsonnfkc expandsonnfkd fcnfkc ",
  "fcnfkcclosure fullcompositionexclusion hangulsyllabletype hst incb indicconjunctbreak ",
  "indicpositionalcategory indicsyllabiccategory inpc insc isc isocomment jamoshortname jg ",
  "joininggroup joiningtype jsn jt kaccountingnumeric kcompatibilityvariant kehcat kehcore ",
  "kehdesc kehfval kehhg kehifao kehjsesh kehnomirror kehnorotate kehunik kiicore kirggsource ",
  "kirghsource kirgjsource kirgkpsource kirgksource kirgmsource kirgssource kirgtsource ",
  "kirguksource kirgusource kirgvsource kothernumeric kprimarynumeric krsunicode ",
  "kunihancore2020 lb lc linebreak lowercasemapping na na1 name nfcqc nfcquickcheck nfdqc ",
  "nfdquickcheck nfkccasefold nfkccf nfkcqc nfkcquickcheck nfkcscf nfkcsimplecasefold nfkdqc ",
  "nfkdquickcheck nt numerictype numericvalue nv scf sfc simplecasefolding ",
  "simplelowercasemapping simpletitlecasemapping simpleuppercasemapping slc stc suc tc ",
  "titlecasemapping uc unicode1name unicoderadicalstroke uppercasemapping urs ",
  "verticalorientation vo xonfc xonfd xonfkc xonfkd"]

end RequestBinding.Unicode
