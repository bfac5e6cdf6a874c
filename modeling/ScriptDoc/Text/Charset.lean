import ScriptDoc.Text.CodeUnit
import ScriptDoc.Text.Utf8

/-!
# Character sets

How bytes stand for characters under the names by which media types call character sets.  Bytes that
stand for no character become `U+FFFD`, but not all bytes can be read.

* `Charset.ofName?`, the character set of a name, in which letter case and punctuation do not matter;
* `Charset.decode?`, the characters of bytes.
-/

namespace ScriptDoc.Text

/-- The order of the bytes of a unit. -/
inductive ByteOrder where
  | little
  | big
  /-- The order that a mark at the front tells. -/
  | detected
  deriving DecidableEq, Repr

/-- A character set. -/
inductive Charset where
  | utf8
  /-- UTF-8, of which a byte order mark at the front is dropped. -/
  | utf8Marked
  | ascii
  | latin1
  /-- ASCII with other characters for the last bytes. -/
  | page (upper : String)
  /-- UTF-16. -/
  | words (order : ByteOrder)
  /-- UTF-32. -/
  | quads (order : ByteOrder)
  /-- A conversion of bytes to bytes that goes by a name like those of character sets. -/
  | conversion
  deriving DecidableEq, Repr

namespace Charset

/-- What stands for bytes that are no character. -/
def substitute : Char := '\ufffd'

/-- The last characters of ISO 8859-2. -/
def latin2 : String :=
  "\u00a0Ą˘Ł¤ĽŚ§¨ŠŞŤŹ\u00adŽŻ°ą˛ł´ľśˇ¸šşťź˝žżŔÁÂĂÄĹĆÇČÉĘËĚÍÎĎĐŃŇÓÔŐÖ×ŘŮÚŰÜÝŢßŕáâăäĺćçčéęëěíîďđń" ++
    "ňóôőö÷řůúűüýţ˙"

/-- The last characters of ISO 8859-5. -/
def cyrillic : String :=
  "\u00a0ЁЂЃЄЅІЇЈЉЊЋЌ\u00adЎЏАБВГДЕЖЗИЙКЛМНОПРСТУФХЦЧШЩЪЫЬЭЮЯабвгдежзийклмнопрстуфхцчшщъыьэюя№ё" ++
    "ђѓєѕіїјљњћќ§ўџ"

/-- The last characters of ISO 8859-7. -/
def greek : String :=
  "\u00a0‘’£€₯¦§¨©ͺ«¬\u00ad\ufffd―°±²³΄΅Ά·ΈΉΊ»Ό½ΎΏΐΑΒΓΔΕΖΗΘΙΚΛΜΝΞΟΠΡ\ufffdΣΤΥΦΧΨΩΪΫάέήίΰαβγδεζη" ++
    "θικλμνξοπρςστυφχψωϊϋόύώ\ufffd"

/-- The last characters of ISO 8859-9. -/
def latin5 : String :=
  "\u00a0¡¢£¤¥¦§¨©ª«¬\u00ad®¯°±²³´µ¶·¸¹º»¼½¾¿ÀÁÂÃÄÅÆÇÈÉÊËÌÍÎÏĞÑÒÓÔÕÖ×ØÙÚÛÜİŞßàáâãäåæçèéêëìíîïğñ" ++
    "òóôõö÷øùúûüışÿ"

/-- The last characters of ISO 8859-15. -/
def latin9 : String :=
  "\u00a0¡¢£€¥Š§š©ª«¬\u00ad®¯°±²³Žµ¶·ž¹º»ŒœŸ¿ÀÁÂÃÄÅÆÇÈÉÊËÌÍÎÏÐÑÒÓÔÕÖ×ØÙÚÛÜÝÞßàáâãäåæçèéêëìíîïðñ" ++
    "òóôõö÷øùúûüýþÿ"

/-- The last characters of Windows code page 1250. -/
def windows1250 : String :=
  "€\ufffd‚\ufffd„…†‡\ufffd‰Š‹ŚŤŽŹ\ufffd‘’“”•–—\ufffd™š›śťžź\u00a0ˇ˘Ł¤Ą¦§¨©Ş«¬\u00ad®Ż°±˛ł´µ¶·¸" ++
    "ąş»Ľ˝ľżŔÁÂĂÄĹĆÇČÉĘËĚÍÎĎĐŃŇÓÔŐÖ×ŘŮÚŰÜÝŢßŕáâăäĺćçčéęëěíîďđńňóôőö÷řůúűüýţ˙"

/-- The last characters of Windows code page 1251. -/
def windows1251 : String :=
  "ЂЃ‚ѓ„…†‡€‰Љ‹ЊЌЋЏђ‘’“”•–—\ufffd™љ›њќћџ\u00a0ЎўЈ¤Ґ¦§Ё©Є«¬\u00ad®Ї°±Ііґµ¶·ё№є»јЅѕїАБВГДЕЖЗИЙКЛМ" ++
    "НОПРСТУФХЦЧШЩЪЫЬЭЮЯабвгдежзийклмнопрстуфхцчшщъыьэюя"

/-- The last characters of Windows code page 1252. -/
def windows1252 : String :=
  "€\ufffd‚ƒ„…†‡ˆ‰Š‹Œ\ufffdŽ\ufffd\ufffd‘’“”•–—˜™š›œ\ufffdžŸ\u00a0¡¢£¤¥¦§¨©ª«¬\u00ad®¯°±²³´µ¶·¸" ++
    "¹º»¼½¾¿ÀÁÂÃÄÅÆÇÈÉÊËÌÍÎÏÐÑÒÓÔÕÖ×ØÙÚÛÜÝÞßàáâãäåæçèéêëìíîïðñòóôõö÷øùúûüýþÿ"

/-- The last characters of Windows code page 1253. -/
def windows1253 : String :=
  "€\ufffd‚ƒ„…†‡\ufffd‰\ufffd‹\ufffd\ufffd\ufffd\ufffd\ufffd‘’“”•–—\ufffd™\ufffd›\ufffd\ufffd" ++
    "\ufffd\ufffd\u00a0΅Ά£¤¥¦§¨©\ufffd«¬\u00ad®―°±²³΄µ¶·ΈΉΊ»Ό½ΎΏΐΑΒΓΔΕΖΗΘΙΚΛΜΝΞΟΠΡ\ufffdΣΤΥΦΧΨΩΪΫ" ++
    "άέήίΰαβγδεζηθικλμνξοπρςστυφχψωϊϋόύώ\ufffd"

/-- The last characters of Windows code page 1254. -/
def windows1254 : String :=
  "€\ufffd‚ƒ„…†‡ˆ‰Š‹Œ\ufffd\ufffd\ufffd\ufffd‘’“”•–—˜™š›œ\ufffd\ufffdŸ\u00a0¡¢£¤¥¦§¨©ª«¬\u00ad®" ++
    "¯°±²³´µ¶·¸¹º»¼½¾¿ÀÁÂÃÄÅÆÇÈÉÊËÌÍÎÏĞÑÒÓÔÕÖ×ØÙÚÛÜİŞßàáâãäåæçèéêëìíîïğñòóôõö÷øùúûüışÿ"

/-- The last characters of KOI8-R. -/
def koi8 : String :=
  "─│┌┐└┘├┤┬┴┼▀▄█▌▐░▒▓⌠■∙√≈≤≥\u00a0⌡°²·÷═║╒ё╓╔╕╖╗╘╙╚╛╜╝╞╟╠╡Ё╢╣╤╥╦╧╨╩╪╫╬©юабцдефгхийклмнопярстуж" ++
    "вьызшэщчъЮАБЦДЕФГХИЙКЛМНОПЯРСТУЖВЬЫЗШЭЩЧЪ"

/-- The last characters of DOS code page 437. -/
def dos437 : String :=
  "ÇüéâäàåçêëèïîìÄÅÉæÆôöòûùÿÖÜ¢£¥₧ƒáíóúñÑªº¿⌐¬½¼¡«»░▒▓│┤╡╢╖╕╣║╗╝╜╛┐└┴┬├─┼╞╟╚╔╩╦╠═╬╧╨╤╥╙╘╒╓╫╪┘┌█" ++
    "▄▌▐▀αßΓπΣσµτΦΘΩδ∞φε∩≡±≥≤⌠⌡÷≈°∙·√ⁿ²■\u00a0"

/-- The last characters of DOS code page 850. -/
def dos850 : String :=
  "ÇüéâäàåçêëèïîìÄÅÉæÆôöòûùÿÖÜø£Ø×ƒáíóúñÑªº¿®¬½¼¡«»░▒▓│┤ÁÂÀ©╣║╗╝¢¥┐└┴┬├─┼ãÃ╚╔╩╦╠═╬¤ðÐÊËÈıÍÎÏ┘┌█" ++
    "▄¦Ì▀ÓßÔÒõÕµþÞÚÛÙýÝ¯´\u00ad±‗¾¶§÷¸°¨·¹³²■\u00a0"

/-- The last characters of Mac OS Roman. -/
def macRoman : String :=
  "ÄÅÇÉÑÖÜáàâäãåçéèêëíìîïñóòôöõúùûü†°¢£§•¶ß®©™´¨≠ÆØ∞±≤≥¥µ∂∑∏π∫ªºΩæø¿¡¬√ƒ≈∆«»…\u00a0ÀÃÕŒœ–—“”‘’÷" ++
    "◊ÿŸ⁄€‹›ﬁﬂ‡·‚„‰ÂÊÁËÈÍÎÏÌÓÔ\uf8ffÒÚÛÙıˆ˜¯˘˙˚¸˝˛ˇ"

/-- The names of character sets, in lower case and with low lines as their punctuation. -/
def names : List (Charset × List String) :=
  [(.utf8, ["utf_8", "cp65001", "u8", "utf", "utf8", "utf8_ucs2", "utf8_ucs4"]),
   (.utf8Marked, ["utf_8_sig"]),
   (.ascii, ["ascii", "646", "ansi_x3.4_1968", "ansi_x3.4_1986", "ansi_x3_4_1968", "cp367",
      "csascii", "ibm367", "iso646_us", "iso_646.irv_1991", "iso_ir_6", "us", "us_ascii"]),
   (.latin1, ["latin_1", "8859", "cp819", "csisolatin1", "ibm819", "iso8859", "iso8859_1",
      "iso_8859_1", "iso_8859_1_1987", "iso_ir_100", "l1", "latin", "latin1"]),
   (.words .detected, ["utf_16", "u16", "utf16"]),
   (.words .little, ["utf_16_le", "unicodelittleunmarked", "utf_16le"]),
   (.words .big, ["utf_16_be", "unicodebigunmarked", "utf_16be"]),
   (.quads .detected, ["utf_32", "u32", "utf32"]),
   (.quads .little, ["utf_32_le", "utf_32le"]),
   (.quads .big, ["utf_32_be", "utf_32be"]),
   (.page latin2, ["iso8859_2", "csisolatin2", "iso_8859_2", "iso_8859_2_1987", "iso_ir_101",
      "l2", "latin2"]),
   (.page cyrillic, ["iso8859_5", "csisolatincyrillic", "cyrillic", "iso_8859_5",
      "iso_8859_5_1988", "iso_ir_144"]),
   (.page greek, ["iso8859_7", "csisolatingreek", "ecma_118", "elot_928", "greek", "greek8",
      "iso_8859_7", "iso_8859_7_1987", "iso_ir_126"]),
   (.page latin5, ["iso8859_9", "csisolatin5", "iso_8859_9", "iso_8859_9_1989", "iso_ir_148",
      "l5", "latin5"]),
   (.page latin9, ["iso8859_15", "iso_8859_15", "l9", "latin9"]),
   (.page windows1250, ["cp1250", "1250", "windows_1250"]),
   (.page windows1251, ["cp1251", "1251", "windows_1251"]),
   (.page windows1252, ["cp1252", "1252", "windows_1252"]),
   (.page windows1253, ["cp1253", "1253", "windows_1253"]),
   (.page windows1254, ["cp1254", "1254", "windows_1254"]),
   (.page koi8, ["koi8_r", "cskoi8r"]),
   (.page dos437, ["cp437", "437", "cspc8codepage437", "ibm437"]),
   (.page dos850, ["cp850", "850", "cspc850multilingual", "ibm850"]),
   (.page macRoman, ["mac_roman", "macintosh", "macroman"]),
   (.conversion, ["base64_codec", "base64", "base_64", "bz2_codec", "bz2", "hex_codec", "hex",
      "quopri_codec", "quopri", "quoted_printable", "quotedprintable", "rot_13", "rot13", "uu_codec",
      "uu", "zlib_codec", "zip", "zlib"])]

/-- Splits a name at its punctuation, which may have dots within. -/
def nameParts (name : List Char) : List (List Char) :=
  let isInner (c : Char) : Bool := c.isAlphanum || c == '.'
  (name.splitBy fun a b => isInner a == isInner b).filter (·.all isInner)

/-- The character set of a name. -/
def ofName? (name : String) : Option Charset :=
  let parts := (nameParts name.toList).map fun p => String.ofList (p.map Char.toLower)
  let normal := "_".intercalate parts
  (names.find? fun e => e.2.contains normal).map (·.1)

/-- The character of a byte, if the last bytes have characters of their own. -/
def pageChar (upper : List Char) (b : UInt8) : Char :=
  let first := 256 - upper.length
  if b.toNat < first then Char.ofNat b.toNat else upper.getD (b.toNat - first) substitute

/-- The numbers that groups of bytes give, the little end first, and whether bytes are left over. -/
def units (size : Nat) (bytes : List UInt8) : List Nat × Bool :=
  let value (group : List UInt8) : Nat := group.foldr (fun b n => 256 * n + b.toNat) 0
  let count := bytes.length / size
  ((List.range count).map fun i => value ((bytes.drop (size * i)).take size),
    bytes.length % size != 0)

/-- The number of a unit with its bytes in the other order. -/
def swapped (size n : Nat) : Nat :=
  (List.range size).foldl (fun m i => 256 * m + n / Nat.pow 256 i % 256) 0

/-- The byte order mark as a unit. -/
def mark : Nat := 0xFEFF

/-- Units in their right order, without a mark that tells it, if one has to. -/
def ordered? (size : Nat) (order : ByteOrder) (us : List Nat) : Option (List Nat) :=
  match order with
  | .little => some us
  | .big => some (us.map (swapped size))
  | .detected =>
    match us with
    | u :: rest =>
      if u == mark then some rest
      else if u == swapped size mark then some (rest.map (swapped size))
      else none
    | [] => some []

/-- The characters of UTF-16 units. -/
def wordChars : List Nat → List Char
  | [] => []
  | [u] => [unitChar u]
  | u :: v :: rest =>
    if isHighSurrogate u && isLowSurrogate v then Char.ofNat (joinSurrogates u v) :: wordChars rest
    else unitChar u :: wordChars (v :: rest)

/-- The character of a UTF-32 unit. -/
def quadChar (u : Nat) : Char := if u > 0x10FFFF then substitute else unitChar u

/-- The characters of bytes. A conversion gives none, and neither do units without the mark that would tell
their order. -/
def decode? (c : Charset) (bytes : List UInt8) : Option (List Char) :=
  let leftOver (more : Bool) : List Char := if more then [substitute] else []
  match c with
  | .utf8 => some (Utf8.decodeLossy bytes)
  | .utf8Marked =>
    match Utf8.decodeLossy bytes with
    | '\ufeff' :: rest => some rest
    | cs => some cs
  | .ascii => some (bytes.map fun b => if b < 128 then Char.ofNat b.toNat else substitute)
  | .latin1 => some (bytes.map fun b => Char.ofNat b.toNat)
  | .page upper => some (bytes.map (pageChar upper.toList))
  | .words order =>
    let (us, more) := units 2 bytes
    (ordered? 2 order us).map fun us => wordChars us ++ leftOver more
  | .quads order =>
    let (us, more) := units 4 bytes
    (ordered? 4 order us).map fun us => us.map quadChar ++ leftOver more
  | .conversion => none

end Charset

end ScriptDoc.Text
