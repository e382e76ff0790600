import RecordFix.Text.Case
import RecordFix.Text.Charset.Big5
import RecordFix.Text.Charset.EucJp
import RecordFix.Text.Charset.EucKr
import RecordFix.Text.Charset.Gb18030
import RecordFix.Text.Charset.Iso2022Jp
import RecordFix.Text.Charset.Table
import RecordFix.Text.Utf

/-!
# Character sets

A character set is known by several labels. Bytes are decoded in the set of a label, unless they begin with the mark
of a Unicode format, which decides; without a known label they are read as UTF-8. `guessCharset` names the set of
bytes that have no label.
-/

namespace RecordFix.Text

inductive Charset where
  | utf8
  | utf16 (bigEndian : Bool)
  | table (t : ByteTable)
  | chinese
  | traditional
  | japanese
  | japaneseSevenBit
  | japaneseShifted
  | korean
  | privateUse
  | replaced
  deriving Inhabited

namespace Charset

/-- The character sets with their labels. -/
def labels : List (Charset × String) :=
  [(.utf8, "unicode-1-1-utf-8 unicode11utf8 unicode20utf8 utf-8 utf8 x-unicode20utf8"),
   (.utf16 false, "csunicode iso-10646-ucs-2 ucs-2 unicode unicodefeff utf-16 utf-16le"),
   (.utf16 true, "unicodefffe utf-16be"),
   (.replaced, "csiso2022kr hz-gb-2312 iso-2022-cn iso-2022-cn-ext iso-2022-kr replacement"),
   (.privateUse, "x-user-defined"),
   (.chinese, "gb18030 chinese csgb2312 csiso58gb231280 gb2312 gb_2312 gb_2312-80 gbk iso-ir-58 x-gbk"),
   (.traditional, "big5 big5-hkscs cn-big5 csbig5 x-x-big5"),
   (.japanese, "cseucpkdfmtjapanese euc-jp x-euc-jp"),
   (.japaneseSevenBit, "csiso2022jp iso-2022-jp"),
   (.japaneseShifted, "csshiftjis ms932 ms_kanji shift-jis shift_jis sjis windows-31j x-sjis"),
   (.korean, "cseuckr csksc56011987 euc-kr iso-ir-149 korean ks_c_5601-1987 ks_c_5601-1989 ksc5601 ksc_5601
      windows-949"),
   (.table .ibm866, "866 cp866 csibm866 ibm866"),
   (.table .latin2, "csisolatin2 iso-8859-2 iso-ir-101 iso8859-2 iso88592 iso_8859-2 iso_8859-2:1987 l2 latin2"),
   (.table .latin3, "csisolatin3 iso-8859-3 iso-ir-109 iso8859-3 iso88593 iso_8859-3 iso_8859-3:1988 l3 latin3"),
   (.table .latin4, "csisolatin4 iso-8859-4 iso-ir-110 iso8859-4 iso88594 iso_8859-4 iso_8859-4:1988 l4 latin4"),
   (.table .latinCyrillic, "csisolatincyrillic cyrillic iso-8859-5 iso-ir-144 iso8859-5 iso88595 iso_8859-5
      iso_8859-5:1988"),
   (.table .latinArabic, "arabic asmo-708 csiso88596e csiso88596i csisolatinarabic ecma-114 iso-8859-6
      iso-8859-6-e iso-8859-6-i iso-ir-127 iso8859-6 iso88596 iso_8859-6 iso_8859-6:1987"),
   (.table .latinGreek, "csisolatingreek ecma-118 elot_928 greek greek8 iso-8859-7 iso-ir-126 iso8859-7
      iso88597 iso_8859-7 iso_8859-7:1987 sun_eu_greek"),
   (.table .latinHebrew, "csiso88598e csisolatinhebrew hebrew iso-8859-8 iso-8859-8-e iso-ir-138 iso8859-8
      iso88598 iso_8859-8 iso_8859-8:1988 visual csiso88598i iso-8859-8-i logical"),
   (.table .latin6, "csisolatin6 iso-8859-10 iso-ir-157 iso8859-10 iso885910 l6 latin6"),
   (.table .latin7, "iso-8859-13 iso8859-13 iso885913"),
   (.table .latin8, "iso-8859-14 iso8859-14 iso885914"),
   (.table .latin9, "csisolatin9 iso-8859-15 iso8859-15 iso885915 iso_8859-15 l9"),
   (.table .latin10, "iso-8859-16"),
   (.table .koi8r, "cskoi8r koi koi8 koi8-r koi8_r"),
   (.table .koi8u, "koi8-ru koi8-u"),
   (.table .macRoman, "csmacintosh mac macintosh x-mac-roman"),
   (.table .windows874, "dos-874 iso-8859-11 iso8859-11 iso885911 tis-620 windows-874"),
   (.table .windows1250, "cp1250 windows-1250 x-cp1250"),
   (.table .windows1251, "cp1251 windows-1251 x-cp1251"),
   (.table .windows1252, "ansi_x3.4-1968 ascii cp1252 cp819 csisolatin1 ibm819 iso-8859-1 iso-ir-100 iso8859-1
      iso88591 iso_8859-1 iso_8859-1:1987 l1 latin1 us-ascii windows-1252 x-cp1252"),
   (.table .windows1253, "cp1253 windows-1253 x-cp1253"),
   (.table .windows1254, "cp1254 csisolatin5 iso-8859-9 iso-ir-148 iso8859-9 iso88599 iso_8859-9
      iso_8859-9:1989 l5 latin5 windows-1254 x-cp1254"),
   (.table .windows1255, "cp1255 windows-1255 x-cp1255"),
   (.table .windows1256, "cp1256 windows-1256 x-cp1256"),
   (.table .windows1257, "cp1257 windows-1257 x-cp1257"),
   (.table .windows1258, "cp1258 windows-1258 x-cp1258"),
   (.table .macCyrillic, "x-mac-cyrillic x-mac-ukrainian")]

private def isLabelSpace (c : Char) : Bool :=
  c == ' ' || c == '\t' || c == '\n' || c == '\x0c' || c == '\r'

/-- The set of a label in lower case, with spaces around it or not. -/
def ofLabel? (label : String) : Option Charset :=
  let cs := ((label.toList.dropWhile isLabelSpace).reverse.dropWhile isLabelSpace).reverse
  (labels.find? fun (_, names) => (words names).contains (String.ofList cs)).map (·.1)

/-- The set that a label stands for here: the three usual names of the first Latin set stand for its revision. -/
def ofName? (name : String) : Option Charset :=
  match lower name with
  | "iso-8859-1" | "latin-1" | "latin1" => some (.table .latin9)
  | label => ofLabel? label

/-- A byte in a set that puts its upper half into the private use area. -/
def privateChar (b : UInt8) : Char :=
  if b < 128 then Char.ofNat b.toNat else Char.ofNat (0xF700 + b.toNat)

/-- The characters of bytes without a mark. -/
def decode (c : Charset) (bs : List UInt8) : List Char :=
  match c with
  | utf8 => readUtf8 none bs
  | utf16 bigEndian => readUtf16 bigEndian none bs
  | table t => bs.map t.char
  | chinese => gb18030.run bs
  | traditional => big5.transducer.run bs
  | japanese => eucJp.run bs
  | japaneseSevenBit => iso2022Jp.run bs
  | japaneseShifted => shiftJis.transducer.run bs
  | korean => eucKr.transducer.run bs
  | privateUse => bs.map privateChar
  | replaced => if bs.isEmpty then [] else [replacement]

/-- The characters of bytes; a mark at the beginning decides about the set. -/
def decodeMarked (c : Charset) : List UInt8 → List Char
  | 0xEF :: 0xBB :: 0xBF :: bs => readUtf8 none bs
  | 0xFE :: 0xFF :: bs => readUtf16 true none bs
  | 0xFF :: 0xFE :: bs => readUtf16 false none bs
  | bs => c.decode bs

end Charset

/-- Bytes without the mark of UTF-8. -/
def dropMark : List UInt8 → List UInt8
  | 0xEF :: 0xBB :: 0xBF :: bs => bs
  | bs => bs

/-- The text of bytes in a set that is given by name. -/
def decodeBytes (bytes : ByteArray) (name : String) : String :=
  let bs := dropMark bytes.toList
  String.ofList
    (match Charset.ofName? name with
    | none => readUtf8 none bs
    | some .utf8 => readUtf8 none bs
    | some c => c.decodeMarked bs)

/-- The name of the set that bytes seem to be in. -/
def guessCharset (bytes : ByteArray) : String :=
  match bytes.toList with
  | 0xFE :: 0xFF :: _ => "utf-16be"
  | 0xFF :: 0xFE :: _ => "utf-16le"
  | _ => if (String.fromUTF8? bytes).isSome then "utf-8" else "iso-8859-1"

end RecordFix.Text
