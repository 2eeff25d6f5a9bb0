import GatewayNat.Text.Codec

/-!
# Names of codecs

A codec has a name of its own and aliases.  In a name capitals do not matter, and
other characters than letters, digits and points only separate words.  The points
of a name may separate words too if it is an alias.

The name `locale` stands for UTF-8.  Some names belong to codecs that are not
about text.
-/

namespace GatewayNat.Text.Codec

/-! ## The form of a name -/

/-- Whether a character belongs to a word of a name. -/
def isWordChar (c : Char) : Bool := c.isAlphanum || c = '.'

/-- The words of a name with an underscore between them. -/
def joinWords : List Char → List Char
  | [] => []
  | [c] => if isWordChar c then [c] else []
  | c :: d :: rest =>
    if isWordChar c then c :: joinWords (d :: rest)
    else if isWordChar d then '_' :: joinWords (d :: rest)
    else joinWords (d :: rest)

/-- The form in which a name is looked up. -/
def lookupName (name : String) : String :=
  String.ofList (joinWords ((name.toList.map Char.toLower).dropWhile (!isWordChar ·)))

/-- The form of a name in which points separate words. -/
def withoutPoints (name : String) : String :=
  String.ofList (name.toList.map fun c => if c = '.' then '_' else c)

/-! ## Tables -/

/-- The codecs that are neither code pages nor for East Asian scripts, with their names. -/
def generalCodecs : List (Codec × String × List String) :=
  [(.utf8, "utf_8", ["u8", "utf", "utf8", "utf8_ucs2", "utf8_ucs4", "cp65001"]),
    (.unmarkedUtf8, "utf_8_sig", []),
    (.utf7, "utf_7", ["u7", "utf7", "unicode_1_1_utf_7"]),
    (.utf16 none, "utf_16", ["u16", "utf16"]),
    (.utf16 (some true), "utf_16_le", ["unicodelittleunmarked", "utf_16le"]),
    (.utf16 (some false), "utf_16_be", ["unicodebigunmarked", "utf_16be"]),
    (.utf32 none, "utf_32", ["u32", "utf32"]),
    (.utf32 (some true), "utf_32_le", ["utf_32le"]),
    (.utf32 (some false), "utf_32_be", ["utf_32be"]),
    (.ascii, "ascii",
      ["646", "ansi_x3.4_1968", "ansi_x3_4_1968", "ansi_x3.4_1986", "cp367", "csascii",
       "ibm367", "iso646_us", "iso_646.irv_1991", "iso_ir_6", "us", "us_ascii"]),
    (.idna, "idna", []),
    (.latin1, "latin_1",
      ["8859", "cp819", "csisolatin1", "ibm819", "iso8859", "iso8859_1", "iso_8859_1",
       "iso_8859_1_1987", "iso_ir_100", "l1", "latin", "latin1"]),
    (.latin1, "iso8859_1", []),
    (.latin1, "charmap", []),
    (.escaped .full, "unicode_escape", []),
    (.escaped .numeric, "raw_unicode_escape", []),
    (.punycode, "punycode", []),
    (.undefined, "undefined", [])]

/-- The codecs for East Asian scripts, with their names. -/
def eastAsianCodecs : List (EastAsian × String × List String) :=
  [(.shiftJis, "shift_jis", ["csshiftjis", "shiftjis", "sjis", "s_jis", "x_mac_japanese"]),
    (.shiftJisPlanes .first, "shift_jisx0213", ["shiftjisx0213", "sjisx0213", "s_jisx0213"]),
    (.shiftJisPlanes .later, "shift_jis_2004", ["shiftjis2004", "sjis_2004", "s_jis_2004"]),
    (.codePage932, "cp932", ["932", "ms932", "mskanji", "ms_kanji"]),
    (.eucJp, "euc_jp", ["eucjp", "ujis", "u_jis"]),
    (.eucPlanes .first, "euc_jisx0213", ["eucjisx0213"]),
    (.eucPlanes .later, "euc_jis_2004", ["jisx0213", "eucjis2004", "euc_jis2004"]),
    (.iso2022 Iso2022.jp, "iso2022_jp", ["csiso2022jp", "iso2022jp", "iso_2022_jp"]),
    (.iso2022 Iso2022.jp1, "iso2022_jp_1", ["iso2022jp_1", "iso_2022_jp_1"]),
    (.iso2022 Iso2022.jp2, "iso2022_jp_2", ["iso2022jp_2", "iso_2022_jp_2"]),
    (.iso2022 (Iso2022.jpPlanes .first), "iso2022_jp_3", ["iso2022jp_3", "iso_2022_jp_3"]),
    (.iso2022 (Iso2022.jpPlanes .later), "iso2022_jp_2004",
      ["iso_2022_jp_2004", "iso2022jp_2004"]),
    (.iso2022 Iso2022.jpExtended, "iso2022_jp_ext", ["iso2022jp_ext", "iso_2022_jp_ext"]),
    (.gb2312, "gb2312",
      ["chinese", "csiso58gb231280", "euc_cn", "euccn", "eucgb2312_cn", "gb2312_1980",
       "gb2312_80", "iso_ir_58", "x_mac_simp_chinese"]),
    (.gbk, "gbk", ["936", "cp936", "ms936"]),
    (.gb18030, "gb18030", ["gb18030_2000"]),
    (.hz, "hz", ["hzgb", "hz_gb", "hz_gb_2312"]),
    (.big5, "big5", ["big5_tw", "csbig5", "x_mac_trad_chinese"]),
    (.codePage950, "cp950", ["950", "ms950"]),
    (.hkscs, "big5hkscs", ["big5_hkscs", "hkscs"]),
    (.eucKr, "euc_kr",
      ["euckr", "korean", "ksc5601", "ks_c_5601", "ks_c_5601_1987", "ksx1001", "ks_x_1001",
       "x_mac_korean"]),
    (.unifiedHangul, "cp949", ["949", "ms949", "uhc"]),
    (.johab, "johab", ["cp1361", "ms1361"]),
    (.iso2022 Iso2022.kr, "iso2022_kr", ["csiso2022kr", "iso2022kr", "iso_2022_kr"])]

/-- The code pages of ISO 8859 and of other standards, with their names. -/
def standardPages : List (CodePage × String × List String) :=
  [(.iso8859_2, "iso8859_2",
      ["csisolatin2", "iso_8859_2", "iso_8859_2_1987", "iso_ir_101", "l2", "latin2"]),
    (.iso8859_3, "iso8859_3",
      ["csisolatin3", "iso_8859_3", "iso_8859_3_1988", "iso_ir_109", "l3", "latin3"]),
    (.iso8859_4, "iso8859_4",
      ["csisolatin4", "iso_8859_4", "iso_8859_4_1988", "iso_ir_110", "l4", "latin4"]),
    (.iso8859_5, "iso8859_5",
      ["csisolatincyrillic", "cyrillic", "iso_8859_5", "iso_8859_5_1988", "iso_ir_144"]),
    (.iso8859_6, "iso8859_6",
      ["arabic", "asmo_708", "csisolatinarabic", "ecma_114", "iso_8859_6", "iso_8859_6_1987",
       "iso_ir_127"]),
    (.iso8859_7, "iso8859_7",
      ["csisolatingreek", "ecma_118", "elot_928", "greek", "greek8", "iso_8859_7",
       "iso_8859_7_1987", "iso_ir_126"]),
    (.iso8859_8, "iso8859_8",
      ["csisolatinhebrew", "hebrew", "iso_8859_8", "iso_8859_8_1988", "iso_ir_138"]),
    (.iso8859_9, "iso8859_9",
      ["csisolatin5", "iso_8859_9", "iso_8859_9_1989", "iso_ir_148", "l5", "latin5"]),
    (.iso8859_10, "iso8859_10",
      ["csisolatin6", "iso_8859_10", "iso_8859_10_1992", "iso_ir_157", "l6", "latin6"]),
    (.iso8859_11, "iso8859_11", ["thai", "iso_8859_11", "iso_8859_11_2001"]),
    (.iso8859_13, "iso8859_13", ["iso_8859_13", "l7", "latin7"]),
    (.iso8859_14, "iso8859_14",
      ["iso_8859_14", "iso_8859_14_1998", "iso_celtic", "iso_ir_199", "l8", "latin8"]),
    (.iso8859_15, "iso8859_15", ["iso_8859_15", "l9", "latin9"]),
    (.iso8859_16, "iso8859_16",
      ["iso_8859_16", "iso_8859_16_2001", "iso_ir_226", "l10", "latin10"]),
    (.tis620, "tis_620",
      ["tis620", "tis_620_0", "tis_620_2529_0", "tis_620_2529_1", "iso_ir_166"]),
    (.koi8R, "koi8_r", ["cskoi8r"]),
    (.koi8T, "koi8_t", []),
    (.koi8U, "koi8_u", []),
    (.kz1048, "kz1048", ["kz_1048", "rk1048", "strk1048_2002"]),
    (.ptcp154, "ptcp154", ["csptcp154", "pt154", "cp154", "cyrillic_asian"]),
    (.roman8, "hp_roman8", ["roman8", "r8", "csHPRoman8", "cp1051", "ibm1051"]),
    (.handheld, "palmos", []),
    (.cp1006, "cp1006", [])]

/-- The code pages of Windows, with their names. -/
def windowsPages : List (CodePage × String × List String) :=
  [(.cp1250, "cp1250", ["1250", "windows_1250"]),
    (.cp1251, "cp1251", ["1251", "windows_1251"]),
    (.cp1252, "cp1252", ["1252", "windows_1252"]),
    (.cp1253, "cp1253", ["1253", "windows_1253"]),
    (.cp1254, "cp1254", ["1254", "windows_1254"]),
    (.cp1255, "cp1255", ["1255", "windows_1255"]),
    (.cp1256, "cp1256", ["1256", "windows_1256"]),
    (.cp1257, "cp1257", ["1257", "windows_1257"]),
    (.cp1258, "cp1258", ["1258", "windows_1258"]),
    (.cp874, "cp874", [])]

/-- The code pages of DOS, with their names. -/
def dosPages : List (CodePage × String × List String) :=
  [(.cp1125, "cp1125", ["1125", "ibm1125", "cp866u", "ruscii"]),
    (.cp437, "cp437", ["437", "cspc8codepage437", "ibm437"]),
    (.cp720, "cp720", []),
    (.cp737, "cp737", []),
    (.cp775, "cp775", ["775", "cspc775baltic", "ibm775"]),
    (.cp850, "cp850", ["850", "cspc850multilingual", "ibm850"]),
    (.cp852, "cp852", ["852", "cspcp852", "ibm852"]),
    (.cp855, "cp855", ["855", "csibm855", "ibm855"]),
    (.cp856, "cp856", []),
    (.cp857, "cp857", ["857", "csibm857", "ibm857"]),
    (.cp858, "cp858", ["858", "csibm858", "ibm858"]),
    (.cp860, "cp860", ["860", "csibm860", "ibm860"]),
    (.cp861, "cp861", ["861", "cp_is", "csibm861", "ibm861"]),
    (.cp862, "cp862", ["862", "cspc862latinhebrew", "ibm862"]),
    (.cp863, "cp863", ["863", "csibm863", "ibm863"]),
    (.cp864, "cp864", ["864", "csibm864", "ibm864"]),
    (.cp865, "cp865", ["865", "csibm865", "ibm865"]),
    (.cp866, "cp866", ["866", "csibm866", "ibm866"]),
    (.cp869, "cp869", ["869", "cp_gr", "csibm869", "ibm869"])]

/-- The code pages of EBCDIC, with their names. -/
def ebcdicPages : List (CodePage × String × List String) :=
  [(.cp037, "cp037",
      ["037", "csibm037", "ebcdic_cp_ca", "ebcdic_cp_nl", "ebcdic_cp_us", "ebcdic_cp_wt",
       "ibm037", "ibm039"]),
    (.cp1026, "cp1026", ["1026", "csibm1026", "ibm1026"]),
    (.cp1140, "cp1140", ["1140", "ibm1140"]),
    (.cp273, "cp273", ["273", "ibm273", "csibm273"]),
    (.cp424, "cp424", ["424", "csibm424", "ebcdic_cp_he", "ibm424"]),
    (.cp500, "cp500", ["500", "csibm500", "ebcdic_cp_be", "ebcdic_cp_ch", "ibm500"]),
    (.cp875, "cp875", [])]

/-- The code pages of the Macintosh, with their names. -/
def macintoshPages : List (CodePage × String × List String) :=
  [(.macArabic, "mac_arabic", []),
    (.macCroatian, "mac_croatian", []),
    (.macCyrillic, "mac_cyrillic", ["maccyrillic"]),
    (.macFarsi, "mac_farsi", []),
    (.macGreek, "mac_greek", ["macgreek"]),
    (.macIceland, "mac_iceland", ["maciceland"]),
    (.macLatin2, "mac_latin2", ["maccentraleurope", "mac_centeuro", "maclatin2"]),
    (.macRoman, "mac_roman", ["macintosh", "macroman"]),
    (.macRomanian, "mac_romanian", []),
    (.macTurkish, "mac_turkish", ["macturkish"])]

/-- The names of the codecs that are not about text. -/
def textlessCodecs : List (String × List String) :=
  [("base64_codec", ["base64", "base_64"]),
    ("bz2_codec", ["bz2"]),
    ("hex_codec", ["hex"]),
    ("quopri_codec", ["quopri", "quoted_printable", "quotedprintable"]),
    ("rot_13", ["rot13"]),
    ("uu_codec", ["uu"]),
    ("zlib_codec", ["zip", "zlib"])]

/-! ## Looking up -/

/-- The codecs with their names.  Nothing stands for a codec that is not about text. -/
def named : List (Option Codec × String × List String) :=
  generalCodecs.map (Prod.map some id) ++
    eastAsianCodecs.map (Prod.map (some ∘ .eastAsian) id) ++
    (standardPages ++ windowsPages ++ dosPages ++ ebcdicPages ++ macintoshPages).map
      (Prod.map (some ∘ .page) id) ++
    textlessCodecs.map fun names => (none, names)

/-- What a name in the form for looking up belongs to. -/
def lookup? (name : String) : Option (Option Codec) :=
  let byAlias (name : String) := named.find? fun entry => entry.2.2.contains name
  (((byAlias name).or (byAlias (withoutPoints name))).or
    (named.find? fun entry => entry.2.1 = name)).map (·.1)

/-- The codec of a name. -/
def ofName? (name : String) : Option Codec :=
  if name = "locale" then some .utf8 else (lookup? (lookupName name)).join

/-- Whether a name is that of a codec which is not about text. -/
def isTextless (name : String) : Bool := lookup? (lookupName name) = some none

end GatewayNat.Text.Codec
