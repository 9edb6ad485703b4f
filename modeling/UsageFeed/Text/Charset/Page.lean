import UsageFeed.Text.Charset.Table

/-!
# `UsageFeed.Text.Charset.Page` — encodings of one byte a character

## Contents
- `Page`, an encoding; `Page.labels`, its names.
- `Page.text`, the characters of the bytes from 0x80 on; `Page.charOf` finds one. All other bytes
  are ASCII.
-/

namespace UsageFeed.Text.Charset

/-- An encoding of one byte a character. -/
inductive Page where
  | ibm866 | latin2 | latin3 | latin4 | cyrillic | arabic
  | greek | hebrew | latin6 | latin7 | latin8 | latin9
  | latin10 | koi8r | koi8u | macintosh | windows874 | windows1250
  | windows1251 | windows1252 | windows1253 | windows1254 | windows1255 | windows1256
  | windows1257 | windows1258 | macCyrillic | privateUse
  deriving DecidableEq, Repr

namespace Page

/-- All encodings of one byte a character. -/
def all : List Page :=
  [.ibm866, .latin2, .latin3, .latin4, .cyrillic, .arabic, .greek, .hebrew, .latin6, .latin7,
    .latin8, .latin9, .latin10, .koi8r, .koi8u, .macintosh, .windows874, .windows1250,
    .windows1251, .windows1252, .windows1253, .windows1254, .windows1255, .windows1256,
    .windows1257, .windows1258, .macCyrillic, .privateUse]

/-- The names of an encoding. -/
def labels : Page → String
  | .ibm866 => "866 cp866 csibm866 ibm866"
  | .latin2 =>
    "csisolatin2 iso-8859-2 iso-ir-101 iso8859-2 iso88592 iso_8859-2 iso_8859-2:1987 l2 latin2"
  | .latin3 =>
    "csisolatin3 iso-8859-3 iso-ir-109 iso8859-3 iso88593 iso_8859-3 iso_8859-3:1988 l3 latin3"
  | .latin4 =>
    "csisolatin4 iso-8859-4 iso-ir-110 iso8859-4 iso88594 iso_8859-4 iso_8859-4:1988 l4 latin4"
  | .cyrillic =>
    "csisolatincyrillic cyrillic iso-8859-5 iso-ir-144 iso8859-5 iso88595 iso_8859-5
     iso_8859-5:1988"
  | .arabic =>
    "arabic asmo-708 csiso88596e csiso88596i csisolatinarabic ecma-114 iso-8859-6 iso-8859-6-e
     iso-8859-6-i iso-ir-127 iso8859-6 iso88596 iso_8859-6 iso_8859-6:1987"
  | .greek =>
    "csisolatingreek ecma-118 elot_928 greek greek8 iso-8859-7 iso-ir-126 iso8859-7 iso88597
     iso_8859-7 iso_8859-7:1987 sun_eu_greek"
  | .hebrew =>
    "csiso88598e csisolatinhebrew hebrew iso-8859-8 iso-8859-8-e iso-ir-138 iso8859-8 iso88598
     iso_8859-8 iso_8859-8:1988 visual csiso88598i iso-8859-8-i logical"
  | .latin6 => "csisolatin6 iso-8859-10 iso-ir-157 iso8859-10 iso885910 l6 latin6"
  | .latin7 => "iso-8859-13 iso8859-13 iso885913"
  | .latin8 => "iso-8859-14 iso8859-14 iso885914"
  | .latin9 => "csisolatin9 iso-8859-15 iso8859-15 iso885915 iso_8859-15 l9"
  | .latin10 => "iso-8859-16"
  | .koi8r => "cskoi8r koi koi8 koi8-r koi8_r"
  | .koi8u => "koi8-ru koi8-u"
  | .macintosh => "csmacintosh mac macintosh x-mac-roman"
  | .windows874 => "dos-874 iso-8859-11 iso8859-11 iso885911 tis-620 windows-874"
  | .windows1250 => "cp1250 windows-1250 x-cp1250"
  | .windows1251 => "cp1251 windows-1251 x-cp1251"
  | .windows1252 =>
    "ansi_x3.4-1968 ascii cp1252 cp819 csisolatin1 ibm819 iso-8859-1 iso-ir-100 iso8859-1
     iso88591 iso_8859-1 iso_8859-1:1987 l1 latin1 us-ascii windows-1252 x-cp1252"
  | .windows1253 => "cp1253 windows-1253 x-cp1253"
  | .windows1254 =>
    "cp1254 csisolatin5 iso-8859-9 iso-ir-148 iso8859-9 iso88599 iso_8859-9 iso_8859-9:1989 l5
     latin5 windows-1254 x-cp1254"
  | .windows1255 => "cp1255 windows-1255 x-cp1255"
  | .windows1256 => "cp1256 windows-1256 x-cp1256"
  | .windows1257 => "cp1257 windows-1257 x-cp1257"
  | .windows1258 => "cp1258 windows-1258 x-cp1258"
  | .macCyrillic => "x-mac-cyrillic x-mac-ukrainian"
  | .privateUse => "x-user-defined"

/-- The characters of the bytes from 0x80 on. -/
def text : Page → String
  | .ibm866 => "А-п░-▓│┤╡╢╖╕╣║╗╝╜╛┐└┴┬├─┼╞╟╚╔╩╦╠═╬╧╨╤╥╙╘╒╓╫╪┘┌█▄▌▐▀р-яЁёЄєЇїЎў°∙·√№¤■\xA0"
  | .latin2 => "
    \x80-\xA0Ą˘Ł¤ĽŚ§¨ŠŞŤŹ\xADŽŻ°ą˛ł´ľśˇ¸šşťź˝žżŔÁÂĂÄĹĆÇČÉĘËĚÍÎĎĐŃŇÓÔŐÖ×ŘŮÚŰÜÝŢßŕáâăäĺćçčéęëěíîďđńňóô
    őö÷řůúűüýţ˙"
  | .latin3 => "
    \x80-\xA0Ħ˘£¤1Ĥ§¨İŞĞĴ\xAD1Ż°ħ²-µĥ·¸ışğĵ½1żÀ-Â1ÄĊĈÇ-Ï1Ñ-ÔĠÖ×ĜÙ-ÜŬŜß-â1äċĉç-ï1ñ-ôġö÷ĝù-üŭŝ˙"
  | .latin4 => "
    \x80-\xA0ĄĸŖ¤ĨĻ§¨ŠĒĢŦ\xADŽ¯°ą˛ŗ´ĩļˇ¸šēģŧŊžŋĀÁ-ÆĮČÉĘËĖÍÎĪĐŅŌĶÔ-ØŲÚ-ÜŨŪßāá-æįčéęëėíîīđņōķô-øųú-üũū
    ˙"
  | .cyrillic => "\x80-\xA0Ё-Ќ\xADЎ-я№ё-ќ§ўџ"
  | .arabic => "\x80-\xA03¤7،\xAD13\u061B3\u061F1\u0621-\u063A5\u0640-\u0652"
  | .greek => "\x80-\xA0‘’£€₯¦-©ͺ«-\xAD1―°-³΄-Ά·Έ-Ί»Ό½Ύ-Ρ1Σ-ώ"
  | .hebrew => "\x80-\xA01¢-©×«-¹÷»-¾32‗\u05D0-\u05EA2\u200E\u200F"
  | .latin6 => "
    \x80-\xA0ĄĒĢĪĨĶ§ĻĐŠŦŽ\xADŪŊ°ąēģīĩķ·ļđšŧž―ūŋĀÁ-ÆĮČÉĘËĖÍ-ÐŅŌÓ-ÖŨØŲÚ-ßāá-æįčéęëėí-ðņōó-öũøųú-þĸ"
  | .latin7 => "
    \x80-\xA0”¢-¤„¦§Ø©Ŗ«-®Æ°-³“µ-·ø¹ŗ»-¾æĄĮĀĆÄÅĘĒČÉŹĖĢĶĪĻŠŃŅÓŌÕ-×ŲŁŚŪÜŻŽßąįāćäåęēčéźėģķīļšńņóōõ-÷ųłś
    ūüżž’"
  | .latin8 => "\x80-\xA0Ḃḃ£ĊċḊ§Ẁ©ẂḋỲ\xAD®ŸḞḟĠġṀṁ¶ṖẁṗẃṠỳẄẅṡÀ-ÏŴÑ-ÖṪØ-ÝŶß-ïŵñ-öṫø-ýŷÿ"
  | .latin9 => "\x80-£€¥Š§š©-³Žµ-·ž¹-»ŒœŸ¿-ÿ"
  | .latin10 => "
    \x80-\xA0ĄąŁ€„Š§š©Ș«Ź\xADźŻ°±ČłŽ”¶·žčș»ŒœŸżÀ-ÂĂÄĆÆ-ÏĐŃÒ-ÔŐÖŚŰÙ-ÜĘȚß-âăäćæ-ïđńò-ôőöśűù-üęțÿ"
  | .koi8r => "
    ─│┌┐└┘├┤┬┴┼▀▄█▌▐-▓⌠■∙√≈≤≥\xA0⌡°²·÷═-╒ё╓-╡Ё╢-╬©юабцдефгхи-пяр-ужвьызшэщчъЮАБЦДЕФГХИ-ПЯР-УЖВЬЫЗШЭЩ
    ЧЪ"
  | .koi8u => "
    ─│┌┐└┘├┤┬┴┼▀▄█▌▐-▓⌠■∙√≈≤≥\xA0⌡°²·÷═-╒ёє╔ії╗-╛ґў╞-╡ЁЄ╣ІЇ╦-╪ҐЎ©юабцдефгхи-пяр-ужвьызшэщчъЮАБЦДЕФГХ
    И-ПЯР-УЖВЬЫЗШЭЩЧЪ"
  | .macintosh => "
    ÄÅÇÉÑÖÜáàâäãåçéèêëíìîïñóòôöõúùûü†°¢£§•¶ß®©™´¨≠ÆØ∞±≤≥¥µ∂∑∏π∫ªºΩæø¿¡¬√ƒ≈∆«»…\xA0ÀÃÕŒœ–—“”‘’÷◊ÿŸ⁄€‹
    ›ﬁﬂ‡·‚„‰ÂÊÁËÈÍ-ÏÌÓÔ\uF8FFÒÚÛÙıˆ˜¯˘-˚¸˝˛ˇ"
  | .windows874 => "€\x81-\x84…\x86-\x90‘’“”•–—\x98-\xA0ก-\u0E3A4฿-๛"
  | .windows1250 => "
    €\x81‚\x83„…†‡\x88‰Š‹ŚŤŽŹ\x90‘’“”•–—\x98™š›śťžź\xA0ˇ˘Ł¤Ą¦-©Ş«-®Ż°±˛ł´-¸ąş»Ľ˝ľżŔÁÂĂÄĹĆÇČÉĘËĚÍÎĎĐŃ
    ŇÓÔŐÖ×ŘŮÚŰÜÝŢßŕáâăäĺćçčéęëěíîďđńňóôőö÷řůúűüýţ˙"
  | .windows1251 => "ЂЃ‚ѓ„…†‡€‰Љ‹ЊЌЋЏђ‘’“”•–—\x98™љ›њќћџ\xA0ЎўЈ¤Ґ¦§Ё©Є«-®Ї°±Ііґµ-·ё№є»јЅѕїА-я"
  | .windows1252 => "€\x81‚ƒ„…†‡ˆ‰Š‹Œ\x8DŽ\x8F\x90‘’“”•–—˜™š›œ\x9DžŸ\xA0-ÿ"
  | .windows1253 => "
    €\x81‚ƒ„…†‡\x88‰\x8A‹\x8C-\x90‘’“”•–—\x98™\x9A›\x9C-\xA0΅Ά£-©1«-®―°-³΄µ-·Έ-Ί»Ό½Ύ-Ρ1Σ-ώ"
  | .windows1254 => "€\x81‚ƒ„…†‡ˆ‰Š‹Œ\x8D-\x90‘’“”•–—˜™š›œ\x9D\x9EŸ\xA0-ÏĞÑ-ÜİŞß-ïğñ-üışÿ"
  | .windows1255 => "
    €\x81‚ƒ„…†‡ˆ‰\x8A‹\x8C-\x90‘’“”•–—˜™\x9A›\x9C-£₪¥-©×«-¹÷»-¿\u05B0-\u05C3\u05F0-\u05F47
    \u05D0-\u05EA2\u200E\u200F"
  | .windows1256 => "
    €\u067E‚ƒ„…†‡ˆ‰\u0679‹Œ\u0686\u0698\u0688\u06AF‘’“”•–—\u06A9™\u0691›œ\u200C\u200D\u06BA\xA0،¢-©
    \u06BE«-¹\u061B»-¾\u061F\u06C1\u0621-\u0636×\u0637-\u063A\u0640-\u0643à\u0644â\u0645-\u0648ç-ë
    \u0649\u064Aîï\u064B-\u064Eô\u064F\u0650÷\u0651ù\u0652ûü\u200E\u200F\u06D2"
  | .windows1257 => "
    €\x81‚\x83„…†‡\x88‰\x8A‹\x8C¨ˇ¸\x90‘’“”•–—\x98™\x9A›\x9C¯˛\x9F\xA01¢-¤1¦§Ø©Ŗ«-®Æ°-·ø¹ŗ»-¾æĄĮĀĆÄÅ
    ĘĒČÉŹĖĢĶĪĻŠŃŅÓŌÕ-×ŲŁŚŪÜŻŽßąįāćäåęēčéźėģķīļšńņóōõ-÷ųłśūüżž˙"
  | .windows1258 => "
    €\x81‚ƒ„…†‡ˆ‰\x8A‹Œ\x8D-\x90‘’“”•–—˜™\x9A›œ\x9D\x9EŸ\xA0-ÂĂÄ-Ë\u0300Í-ÏĐÑ\u0309ÓÔƠÖ-ÜƯ\u0303ß-âă
    ä-ë\u0301í-ïđñ\u0323óôơö-üư₫ÿ"
  | .macCyrillic => "А-Я†°Ґ£§•¶І®©™Ђђ≠Ѓѓ∞±≤≥іµґЈЄєЇїЉљЊњјЅ¬√ƒ≈∆«»…\xA0ЋћЌќѕ–—“”‘’÷„ЎўЏџ№Ёёяа-ю€"
  | .privateUse => "\uF780-\uF7FF"

/-- The characters of the bytes from 0x80 on by place. -/
def table (page : Page) : Table := .ofText page.text

/-- The character of a byte in an encoding with a table. -/
def charOf (table : Table) (b : UInt8) : Char :=
  if b < 0x80 then Char.ofNat b.toNat else (table.charAt? (b.toNat - 0x80)).getD '\uFFFD'

end Page
end UsageFeed.Text.Charset
