import Assay.Text.Encoding.Escaped
import Assay.Text.Encoding.HongKong
import Assay.Text.Encoding.Switched
import Assay.Web.Domain.Punycode

/-!
# Encodings by name

A message names the encoding of its text. A replacement character stands for every fault of such a
text. Only a text in units whose order is open must begin with a mark of the order.

* `Charset`: how bytes are read as a text;
* `Charset.named?`: the encoding of a name; of several names the first is an encoding's own.
-/

namespace Assay.Web

open Text (Encoding Machine CharsetFault)

/-- How bytes are read as a text. -/
structure Charset where
  text : List UInt8 → Except CharsetFault (List Char)

namespace Charset

/-- An encoding that goes on after every fault. -/
def plain (e : Encoding) : Charset where
  text bytes := .ok (e.lenient bytes)

/-- An encoding with states. -/
def stateful {σ : Type} (m : Machine σ) : Charset where
  text := m.text

/-- An encoding in which nothing is read. -/
def useless (f : CharsetFault) : Charset where
  text _ := .error f

def utf8 : Charset := plain Text.utf8

/-- The mark of UTF-8. -/
def utf8Mark : List UInt8 := [0xEF, 0xBB, 0xBF]

/-- UTF-8 after a mark that may be missing. A part of the mark alone is no text. -/
def marked : Charset where
  text bytes :=
    .ok (
      if bytes.take 3 = utf8Mark then Text.decode (bytes.drop 3)
      else if bytes.length < 3 ∧ utf8Mark.take bytes.length = bytes then []
      else Text.decode bytes)

/-- Units of two bytes, or of four, after a mark of their order. Less than a unit is a fault like
any other. -/
def ordered (wide : Bool) : Charset where
  text bytes :=
    let unit := if wide then 4 else 2
    let little : List UInt8 := if wide then [0xFF, 0xFE, 0, 0] else [0xFF, 0xFE]
    let encoding (big : Bool) : Encoding :=
      if wide then Text.utf32 big false else Text.utf16 big false
    if bytes.take unit = little then .ok ((encoding false).lenient (bytes.drop unit))
    else if bytes.take unit = little.reverse then .ok ((encoding true).lenient (bytes.drop unit))
    else if unit ≤ bytes.length then .error (.unmarked (8 * unit))
    else if bytes.isEmpty then .ok []
    else .ok [Text.replacement]

/-- A letter or a digit of a name, or a dot. -/
def isNameLetter (c : Char) : Bool :=
  c.isAlphanum || c == '.'

/-- A name in small letters, with one low line for all that stands between two words. -/
def plainName (name : List Char) : String :=
  "_".intercalate ((name.splitBy fun a b => isNameLetter a == isNameLetter b).filterMap fun word =>
    if word.all isNameLetter then some (String.ofList (word.map Char.toLower)) else none)

/-- The encodings of Unicode. -/
def ofUnicode : List (List String × Charset) :=
  [(["utf_8", "utf8", "u8", "utf", "cp65001", "utf8_ucs2", "utf8_ucs4"], utf8),
   (["utf_8_sig"], marked),
   (["utf_7", "utf7", "u7", "unicode_1_1_utf_7"], stateful Text.utf7),
   (["utf_16", "utf16", "u16"], ordered false),
   (["utf_16_le", "utf_16le", "unicodelittleunmarked"], plain (Text.utf16 false false)),
   (["utf_16_be", "utf_16be", "unicodebigunmarked"], plain (Text.utf16 true false)),
   (["utf_32", "utf32", "u32"], ordered true),
   (["utf_32_le", "utf_32le"], plain (Text.utf32 false false)),
   (["utf_32_be", "utf_32be"], plain (Text.utf32 true false)),
   (["unicode_escape"], stateful Text.escaped),
   (["raw_unicode_escape"], stateful Text.unitEscaped),
   (["punycode"], ⟨Punycode.text⟩)]

/-- Encodings of Japanese. -/
def ofJapan : List (List String × Charset) :=
  [(["shift_jis", "shiftjis", "sjis", "s_jis", "csshiftjis", "x_mac_japanese"],
    plain Text.Japanese.shiftJis),
   (["cp932", "932", "ms932", "mskanji", "ms_kanji"], plain Text.Japanese.shiftJisExtended),
   (["shift_jisx0213", "s_jisx0213", "shiftjisx0213", "sjisx0213"],
    plain (Text.Japanese.shiftJisOf .first)),
   (["shift_jis_2004", "s_jis_2004", "shiftjis2004", "sjis_2004"],
    plain (Text.Japanese.shiftJisOf .revised)),
   (["euc_jp", "eucjp", "ujis", "u_jis"], plain Text.Japanese.euc),
   (["euc_jisx0213", "eucjisx0213"], plain (Text.Japanese.eucOf .first)),
   (["euc_jis_2004", "euc_jis2004", "eucjis2004", "jisx0213"],
    plain (Text.Japanese.eucOf .revised)),
   (["iso2022_jp", "csiso2022jp", "iso2022jp", "iso_2022_jp"],
    stateful Text.japaneseSwitched.machine),
   (["iso2022_jp_3", "iso2022jp_3", "iso_2022_jp_3"],
    stateful (Text.planesSwitched .first 'O').machine),
   (["iso2022_jp_2004", "iso2022jp_2004", "iso_2022_jp_2004"],
    stateful (Text.planesSwitched .revised 'Q').machine),
   (["iso2022_jp_1", "iso2022jp_1", "iso_2022_jp_1"], stateful Text.supplementSwitched.machine),
   (["iso2022_jp_2", "iso2022jp_2", "iso_2022_jp_2"], stateful Text.manySwitched.machine),
   (["iso2022_jp_ext", "iso2022jp_ext", "iso_2022_jp_ext"], stateful Text.narrowSwitched.machine)]

/-- Encodings of Chinese. -/
def ofChina : List (List String × Charset) :=
  [(["gb2312", "chinese", "csiso58gb231280", "euc_cn", "euccn", "eucgb2312_cn", "gb2312_1980",
     "gb2312_80", "iso_ir_58", "x_mac_simp_chinese"], plain Text.Simplified.small),
   (["gbk", "936", "cp936", "ms936"], plain Text.Simplified.large),
   (["gb18030", "gb18030_2000"], plain Text.Simplified.largest),
   (["hz", "hz_gb", "hz_gb_2312", "hzgb"], stateful Text.tilde),
   (["big5", "big5_tw", "csbig5", "x_mac_trad_chinese"], plain Text.Traditional.big5),
   (["big5hkscs", "big5_hkscs", "hkscs"], plain Text.Traditional.hongKong),
   (["cp950", "950", "ms950"], plain Text.Traditional.big5Extended)]

/-- Encodings of Korean. -/
def ofKorea : List (List String × Charset) :=
  [(["euc_kr", "euckr", "korean", "ksc5601", "ks_c_5601", "ks_c_5601_1987", "ksx1001", "ks_x_1001",
     "x_mac_korean"], plain Text.Korean.small),
   (["cp949", "949", "ms949", "uhc"], plain Text.Korean.large),
   (["johab", "cp1361", "ms1361"], plain Text.Korean.composed),
   (["iso2022_kr", "csiso2022kr", "iso2022kr", "iso_2022_kr"],
    stateful Text.koreanSwitched.machine)]

/-- Encodings that need no table. -/
def withoutTable : List (List String × Charset) :=
  [(["ascii", "646", "ansi_x3.4_1968", "ansi_x3.4_1986", "ansi_x3_4_1968", "cp367", "csascii",
     "ibm367", "iso646_us", "iso_646.irv_1991", "iso_ir_6", "us", "us_ascii"], plain Text.ascii),
   (["latin_1", "8859", "charmap", "cp819", "csisolatin1", "ibm819", "iso8859", "iso8859_1",
     "iso_8859_1", "iso_8859_1_1987", "iso_ir_100", "l1", "latin", "latin1"], plain Text.latin)]

/-- Encodings that are none of texts as bytes. -/
def ofOtherKinds : List (List String × Charset) :=
  [(["undefined"], useless .none), (["idna"], useless .noReplacements),
   (["rot_13", "rot13"], useless .takesText),
   (["base64", "base64_codec", "base_64", "bz2", "bz2_codec", "hex", "hex_codec", "quopri",
     "quopri_codec", "quoted_printable", "quotedprintable", "uu", "uu_codec", "zip", "zlib",
     "zlib_codec"], useless .givesBytes)]

/-- The encodings that are no pages. -/
def all : List (List String × Charset) :=
  ofUnicode ++ withoutTable ++ ofJapan ++ ofChina ++ ofKorea ++ ofOtherKinds

/-- The encoding of which a name is one of some. -/
def ofName? (names : List String → List String) (name : String) : Option Charset :=
  ((all.find? fun entry => (names entry.1).contains name).map (·.2)).or
    ((Text.pages.find? fun page => (names page.names).contains name).map fun page =>
      plain page.encoding)

/-- The encoding of a name. In a name that is not its own, a dot may stand for a low line. -/
def named? (name : List Char) : Option Charset :=
  let name := plainName name
  let undotted := String.ofList (name.toList.map fun c => if c == '.' then '_' else c)
  (ofName? id name).or (ofName? List.tail undotted)

end Charset

end Assay.Web
