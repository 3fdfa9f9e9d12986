import InstanceScripts.Text.Utf8

/-!
# Code pages

Encodings that write every character as one octet.  The first half of a page is ASCII;
the second half is a table, with `U+FFFD` where the page has no character.
-/

namespace InstanceScripts
namespace Text

/-- A code page with its names, all in lower case, and the characters of the octets
from `0x80` on. -/
structure CodePage where
  names : List String
  upper : List Char
  deriving DecidableEq, Repr

namespace CodePage

/-- The character for an octet. -/
def char (page : CodePage) (octet : UInt8) : Char :=
  if octet.toNat < 0x80 then Char.ofNat octet.toNat
  else page.upper.getD (octet.toNat - 0x80) '\uFFFD'

/-- The text of octets. -/
def decode (page : CodePage) (octets : Octets) : List Char :=
  octets.map page.char

@[simp] theorem decode_append (page : CodePage) (front back : Octets) :
    page.decode (front ++ back) = page.decode front ++ page.decode back := by
  simp [decode]

@[simp] theorem length_decode (page : CodePage) (octets : Octets) :
    (page.decode octets).length = octets.length := by
  simp [decode]

/-- On octets below `0x80` every page is ASCII. -/
theorem char_of_lt (page : CodePage) (octet : UInt8) (small : octet.toNat < 0x80) :
    page.char octet = Char.ofNat octet.toNat := by
  simp [char, small]

/-! ## Tables -/

/-- The characters of the rows of a table, from left to right. -/
def characters (rows : List String) : List Char :=
  rows.flatMap String.toList

/-- Control characters, which many pages have from `0x80` to `0x9F`. -/
def controls : List String :=
  ["\x80\x81\x82\x83\x84\x85\x86\x87\x88\x89\x8a\x8b\x8c\x8d\x8e\x8f",
    "\x90\x91\x92\x93\x94\x95\x96\x97\x98\x99\x9a\x9b\x9c\x9d\x9e\x9f"]

/-- Cyrillic letters with box drawings. -/
def ibm866 : CodePage :=
  ⟨["866", "cp866", "csibm866", "ibm866"],
    characters [
      "АБВГДЕЖЗИЙКЛМНОП",
      "РСТУФХЦЧШЩЪЫЬЭЮЯ",
      "абвгдежзийклмноп",
      "░▒▓│┤╡╢╖╕╣║╗╝╜╛┐",
      "└┴┬├─┼╞╟╚╔╩╦╠═╬╧",
      "╨╤╥╙╘╒╓╫╪┘┌█▄▌▐▀",
      "рстуфхцчшщъыьэюя",
      "ЁёЄєЇїЎў°∙·√№¤■\xa0"]⟩

/-- Central European. -/
def latin2 : CodePage :=
  ⟨["csisolatin2", "iso-8859-2", "iso-ir-101", "iso8859-2", "iso88592", "iso_8859-2",
      "iso_8859-2:1987", "l2", "latin2"],
    characters (controls ++ [
      "\xa0Ą˘Ł¤ĽŚ§¨ŠŞŤŹ\xadŽŻ",
      "°ą˛ł´ľśˇ¸šşťź˝žż",
      "ŔÁÂĂÄĹĆÇČÉĘËĚÍÎĎ",
      "ĐŃŇÓÔŐÖ×ŘŮÚŰÜÝŢß",
      "ŕáâăäĺćçčéęëěíîď",
      "đńňóôőö÷řůúűüýţ˙"])⟩

/-- South European. -/
def latin3 : CodePage :=
  ⟨["csisolatin3", "iso-8859-3", "iso-ir-109", "iso8859-3", "iso88593", "iso_8859-3",
      "iso_8859-3:1988", "l3", "latin3"],
    characters (controls ++ [
      "\xa0Ħ˘£¤\uFFFDĤ§¨İŞĞĴ\xad\uFFFDŻ",
      "°ħ²³´µĥ·¸ışğĵ½\uFFFDż",
      "ÀÁÂ\uFFFDÄĊĈÇÈÉÊËÌÍÎÏ",
      "\uFFFDÑÒÓÔĠÖ×ĜÙÚÛÜŬŜß",
      "àáâ\uFFFDäċĉçèéêëìíîï",
      "\uFFFDñòóôġö÷ĝùúûüŭŝ˙"])⟩

/-- North European. -/
def latin4 : CodePage :=
  ⟨["csisolatin4", "iso-8859-4", "iso-ir-110", "iso8859-4", "iso88594", "iso_8859-4",
      "iso_8859-4:1988", "l4", "latin4"],
    characters (controls ++ [
      "\xa0ĄĸŖ¤ĨĻ§¨ŠĒĢŦ\xadŽ¯",
      "°ą˛ŗ´ĩļˇ¸šēģŧŊžŋ",
      "ĀÁÂÃÄÅÆĮČÉĘËĖÍÎĪ",
      "ĐŅŌĶÔÕÖ×ØŲÚÛÜŨŪß",
      "āáâãäåæįčéęëėíîī",
      "đņōķôõö÷øųúûüũū˙"])⟩

/-- Cyrillic. -/
def cyrillic : CodePage :=
  ⟨["csisolatincyrillic", "cyrillic", "iso-8859-5", "iso-ir-144", "iso8859-5", "iso88595",
      "iso_8859-5", "iso_8859-5:1988"],
    characters (controls ++ [
      "\xa0ЁЂЃЄЅІЇЈЉЊЋЌ\xadЎЏ",
      "АБВГДЕЖЗИЙКЛМНОП",
      "РСТУФХЦЧШЩЪЫЬЭЮЯ",
      "абвгдежзийклмноп",
      "рстуфхцчшщъыьэюя",
      "№ёђѓєѕіїјљњћќ§ўџ"])⟩

/-- Arabic. -/
def arabic : CodePage :=
  ⟨["arabic", "asmo-708", "csiso88596e", "csiso88596i", "csisolatinarabic", "ecma-114",
      "iso-8859-6", "iso-8859-6-e", "iso-8859-6-i", "iso-ir-127", "iso8859-6", "iso88596",
      "iso_8859-6", "iso_8859-6:1987"],
    characters (controls ++ [
      "\xa0\uFFFD\uFFFD\uFFFD¤\uFFFD\uFFFD\uFFFD\uFFFD\uFFFD\uFFFD\uFFFD\u060c\xad\uFFFD\uFFFD",
      "\uFFFD\uFFFD\uFFFD\uFFFD\uFFFD\uFFFD\uFFFD\uFFFD",
      "\uFFFD\uFFFD\uFFFD\u061b\uFFFD\uFFFD\uFFFD\u061f",
      "\uFFFD\u0621\u0622\u0623\u0624\u0625\u0626\u0627",
      "\u0628\u0629\u062a\u062b\u062c\u062d\u062e\u062f",
      "\u0630\u0631\u0632\u0633\u0634\u0635\u0636\u0637",
      "\u0638\u0639\u063a\uFFFD\uFFFD\uFFFD\uFFFD\uFFFD",
      "\u0640\u0641\u0642\u0643\u0644\u0645\u0646\u0647",
      "\u0648\u0649\u064a\u064b\u064c\u064d\u064e\u064f",
      "\u0650\u0651\u0652\uFFFD\uFFFD\uFFFD\uFFFD\uFFFD",
      "\uFFFD\uFFFD\uFFFD\uFFFD\uFFFD\uFFFD\uFFFD\uFFFD"])⟩

/-- Greek. -/
def greek : CodePage :=
  ⟨["csisolatingreek", "ecma-118", "elot_928", "greek", "greek8", "iso-8859-7", "iso-ir-126",
      "iso8859-7", "iso88597", "iso_8859-7", "iso_8859-7:1987", "sun_eu_greek"],
    characters (controls ++ [
      "\xa0‘’£€₯¦§¨©ͺ«¬\xad\uFFFD―",
      "°±²³΄΅Ά·ΈΉΊ»Ό½ΎΏ",
      "ΐΑΒΓΔΕΖΗΘΙΚΛΜΝΞΟ",
      "ΠΡ\uFFFDΣΤΥΦΧΨΩΪΫάέήί",
      "ΰαβγδεζηθικλμνξο",
      "πρςστυφχψωϊϋόύώ\uFFFD"])⟩

/-- Hebrew. -/
def hebrew : CodePage :=
  ⟨["csiso88598e", "csiso88598i", "csisolatinhebrew", "hebrew", "iso-8859-8", "iso-8859-8-e",
      "iso-8859-8-i", "iso-ir-138", "iso8859-8", "iso88598", "iso_8859-8", "iso_8859-8:1988",
      "logical", "visual"],
    characters (controls ++ [
      "\xa0\uFFFD¢£¤¥¦§¨©×«¬\xad®¯",
      "°±²³´µ¶·¸¹÷»¼½¾\uFFFD",
      "\uFFFD\uFFFD\uFFFD\uFFFD\uFFFD\uFFFD\uFFFD\uFFFD",
      "\uFFFD\uFFFD\uFFFD\uFFFD\uFFFD\uFFFD\uFFFD\uFFFD",
      "\uFFFD\uFFFD\uFFFD\uFFFD\uFFFD\uFFFD\uFFFD\uFFFD",
      "\uFFFD\uFFFD\uFFFD\uFFFD\uFFFD\uFFFD\uFFFD‗",
      "\u05d0\u05d1\u05d2\u05d3\u05d4\u05d5\u05d6\u05d7",
      "\u05d8\u05d9\u05da\u05db\u05dc\u05dd\u05de\u05df",
      "\u05e0\u05e1\u05e2\u05e3\u05e4\u05e5\u05e6\u05e7",
      "\u05e8\u05e9\u05ea\uFFFD\uFFFD\u200e\u200f\uFFFD"])⟩

/-- Nordic. -/
def latin6 : CodePage :=
  ⟨["csisolatin6", "iso-8859-10", "iso-ir-157", "iso8859-10", "iso885910", "l6", "latin6"],
    characters (controls ++ [
      "\xa0ĄĒĢĪĨĶ§ĻĐŠŦŽ\xadŪŊ",
      "°ąēģīĩķ·ļđšŧž―ūŋ",
      "ĀÁÂÃÄÅÆĮČÉĘËĖÍÎÏ",
      "ÐŅŌÓÔÕÖŨØŲÚÛÜÝÞß",
      "āáâãäåæįčéęëėíîï",
      "ðņōóôõöũøųúûüýþĸ"])⟩

/-- Baltic. -/
def baltic : CodePage :=
  ⟨["iso-8859-13", "iso8859-13", "iso885913"],
    characters (controls ++ [
      "\xa0”¢£¤„¦§Ø©Ŗ«¬\xad®Æ",
      "°±²³“µ¶·ø¹ŗ»¼½¾æ",
      "ĄĮĀĆÄÅĘĒČÉŹĖĢĶĪĻ",
      "ŠŃŅÓŌÕÖ×ŲŁŚŪÜŻŽß",
      "ąįāćäåęēčéźėģķīļ",
      "šńņóōõö÷ųłśūüżž’"])⟩

/-- Celtic. -/
def celtic : CodePage :=
  ⟨["iso-8859-14", "iso8859-14", "iso885914"],
    characters (controls ++ [
      "\xa0Ḃḃ£ĊċḊ§Ẁ©ẂḋỲ\xad®Ÿ",
      "ḞḟĠġṀṁ¶ṖẁṗẃṠỳẄẅṡ",
      "ÀÁÂÃÄÅÆÇÈÉÊËÌÍÎÏ",
      "ŴÑÒÓÔÕÖṪØÙÚÛÜÝŶß",
      "àáâãäåæçèéêëìíîï",
      "ŵñòóôõöṫøùúûüýŷÿ"])⟩

/-- Western European with the euro sign. -/
def latin9 : CodePage :=
  ⟨["csisolatin9", "iso-8859-15", "iso8859-15", "iso885915", "iso_8859-15", "l9"],
    characters (controls ++ [
      "\xa0¡¢£€¥Š§š©ª«¬\xad®¯",
      "°±²³Žµ¶·ž¹º»ŒœŸ¿",
      "ÀÁÂÃÄÅÆÇÈÉÊËÌÍÎÏ",
      "ÐÑÒÓÔÕÖ×ØÙÚÛÜÝÞß",
      "àáâãäåæçèéêëìíîï",
      "ðñòóôõö÷øùúûüýþÿ"])⟩

/-- South-Eastern European. -/
def latin10 : CodePage :=
  ⟨["iso-8859-16"],
    characters (controls ++ [
      "\xa0ĄąŁ€„Š§š©Ș«Ź\xadźŻ",
      "°±ČłŽ”¶·žčș»ŒœŸż",
      "ÀÁÂĂÄĆÆÇÈÉÊËÌÍÎÏ",
      "ĐŃÒÓÔŐÖŚŰÙÚÛÜĘȚß",
      "àáâăäćæçèéêëìíîï",
      "đńòóôőöśűùúûüęțÿ"])⟩

/-- Russian letters in the order of their Latin likenesses. -/
def koi8Russian : CodePage :=
  ⟨["cskoi8r", "koi", "koi8", "koi8-r", "koi8_r"],
    characters [
      "─│┌┐└┘├┤┬┴┼▀▄█▌▐",
      "░▒▓⌠■∙√≈≤≥\xa0⌡°²·÷",
      "═║╒ё╓╔╕╖╗╘╙╚╛╜╝╞",
      "╟╠╡Ё╢╣╤╥╦╧╨╩╪╫╬©",
      "юабцдефгхийклмно",
      "пярстужвьызшэщчъ",
      "ЮАБЦДЕФГХИЙКЛМНО",
      "ПЯРСТУЖВЬЫЗШЭЩЧЪ"]⟩

/-- Ukrainian letters in the order of their Latin likenesses. -/
def koi8Ukrainian : CodePage :=
  ⟨["koi8-ru", "koi8-u"],
    characters [
      "─│┌┐└┘├┤┬┴┼▀▄█▌▐",
      "░▒▓⌠■∙√≈≤≥\xa0⌡°²·÷",
      "═║╒ёє╔ії╗╘╙╚╛ґў╞",
      "╟╠╡ЁЄ╣ІЇ╦╧╨╩╪ҐЎ©",
      "юабцдефгхийклмно",
      "пярстужвьызшэщчъ",
      "ЮАБЦДЕФГХИЙКЛМНО",
      "ПЯРСТУЖВЬЫЗШЭЩЧЪ"]⟩

/-- Western European letters with mathematical signs. -/
def macintosh : CodePage :=
  ⟨["csmacintosh", "mac", "macintosh", "x-mac-roman"],
    characters [
      "ÄÅÇÉÑÖÜáàâäãåçéè",
      "êëíìîïñóòôöõúùûü",
      "†°¢£§•¶ß®©™´¨≠ÆØ",
      "∞±≤≥¥µ∂∑∏π∫ªºΩæø",
      "¿¡¬√ƒ≈∆«»…\xa0ÀÃÕŒœ",
      "–—“”‘’÷◊ÿŸ⁄€‹›ﬁﬂ",
      "‡·‚„‰ÂÊÁËÈÍÎÏÌÓÔ",
      "\uf8ffÒÚÛÙıˆ˜¯˘˙˚¸˝˛ˇ"]⟩

/-- Thai. -/
def windows874 : CodePage :=
  ⟨["dos-874", "iso-8859-11", "iso8859-11", "iso885911", "tis-620", "windows-874"],
    characters [
      "€\x81\x82\x83\x84…\x86\x87\x88\x89\x8a\x8b\x8c\x8d\x8e\x8f",
      "\x90‘’“”•–—\x98\x99\x9a\x9b\x9c\x9d\x9e\x9f",
      "\xa0กขฃคฅฆงจฉชซฌญฎฏ",
      "ฐฑฒณดตถทธนบปผฝพฟ",
      "ภมยรฤลฦวศษสหฬอฮฯ",
      "ะ\u0e31าำ\u0e34\u0e35\u0e36\u0e37\u0e38\u0e39\u0e3a\uFFFD\uFFFD\uFFFD\uFFFD฿",
      "เแโใไๅๆ\u0e47\u0e48\u0e49\u0e4a\u0e4b\u0e4c\u0e4d\u0e4e๏",
      "๐๑๒๓๔๕๖๗๘๙๚๛\uFFFD\uFFFD\uFFFD\uFFFD"]⟩

/-- Central European with typographic quotes. -/
def windows1250 : CodePage :=
  ⟨["cp1250", "windows-1250", "x-cp1250"],
    characters [
      "€\x81‚\x83„…†‡\x88‰Š‹ŚŤŽŹ",
      "\x90‘’“”•–—\x98™š›śťžź",
      "\xa0ˇ˘Ł¤Ą¦§¨©Ş«¬\xad®Ż",
      "°±˛ł´µ¶·¸ąş»Ľ˝ľż",
      "ŔÁÂĂÄĹĆÇČÉĘËĚÍÎĎ",
      "ĐŃŇÓÔŐÖ×ŘŮÚŰÜÝŢß",
      "ŕáâăäĺćçčéęëěíîď",
      "đńňóôőö÷řůúűüýţ˙"]⟩

/-- Cyrillic with typographic quotes. -/
def windows1251 : CodePage :=
  ⟨["cp1251", "windows-1251", "x-cp1251"],
    characters [
      "ЂЃ‚ѓ„…†‡€‰Љ‹ЊЌЋЏ",
      "ђ‘’“”•–—\x98™љ›њќћџ",
      "\xa0ЎўЈ¤Ґ¦§Ё©Є«¬\xad®Ї",
      "°±Ііґµ¶·ё№є»јЅѕї",
      "АБВГДЕЖЗИЙКЛМНОП",
      "РСТУФХЦЧШЩЪЫЬЭЮЯ",
      "абвгдежзийклмноп",
      "рстуфхцчшщъыьэюя"]⟩

/-- Western European with typographic quotes, which also answers to the names of ASCII. -/
def windows1252 : CodePage :=
  ⟨["ansi_x3.4-1968", "ascii", "cp1252", "cp819", "csisolatin1", "ibm819", "iso-8859-1",
      "iso-ir-100", "iso8859-1", "iso88591", "iso_8859-1", "iso_8859-1:1987", "l1", "latin1",
      "us-ascii", "windows-1252", "x-cp1252"],
    characters [
      "€\x81‚ƒ„…†‡ˆ‰Š‹Œ\x8dŽ\x8f",
      "\x90‘’“”•–—˜™š›œ\x9džŸ",
      "\xa0¡¢£¤¥¦§¨©ª«¬\xad®¯",
      "°±²³´µ¶·¸¹º»¼½¾¿",
      "ÀÁÂÃÄÅÆÇÈÉÊËÌÍÎÏ",
      "ÐÑÒÓÔÕÖ×ØÙÚÛÜÝÞß",
      "àáâãäåæçèéêëìíîï",
      "ðñòóôõö÷øùúûüýþÿ"]⟩

/-- Greek with typographic quotes. -/
def windows1253 : CodePage :=
  ⟨["cp1253", "windows-1253", "x-cp1253"],
    characters [
      "€\x81‚ƒ„…†‡\x88‰\x8a‹\x8c\x8d\x8e\x8f",
      "\x90‘’“”•–—\x98™\x9a›\x9c\x9d\x9e\x9f",
      "\xa0΅Ά£¤¥¦§¨©\uFFFD«¬\xad®―",
      "°±²³΄µ¶·ΈΉΊ»Ό½ΎΏ",
      "ΐΑΒΓΔΕΖΗΘΙΚΛΜΝΞΟ",
      "ΠΡ\uFFFDΣΤΥΦΧΨΩΪΫάέήί",
      "ΰαβγδεζηθικλμνξο",
      "πρςστυφχψωϊϋόύώ\uFFFD"]⟩

/-- Turkish with typographic quotes. -/
def windows1254 : CodePage :=
  ⟨["cp1254", "csisolatin5", "iso-8859-9", "iso-ir-148", "iso8859-9", "iso88599", "iso_8859-9",
      "iso_8859-9:1989", "l5", "latin5", "windows-1254", "x-cp1254"],
    characters [
      "€\x81‚ƒ„…†‡ˆ‰Š‹Œ\x8d\x8e\x8f",
      "\x90‘’“”•–—˜™š›œ\x9d\x9eŸ",
      "\xa0¡¢£¤¥¦§¨©ª«¬\xad®¯",
      "°±²³´µ¶·¸¹º»¼½¾¿",
      "ÀÁÂÃÄÅÆÇÈÉÊËÌÍÎÏ",
      "ĞÑÒÓÔÕÖ×ØÙÚÛÜİŞß",
      "àáâãäåæçèéêëìíîï",
      "ğñòóôõö÷øùúûüışÿ"]⟩

/-- Hebrew with typographic quotes. -/
def windows1255 : CodePage :=
  ⟨["cp1255", "windows-1255", "x-cp1255"],
    characters [
      "€\x81‚ƒ„…†‡ˆ‰\x8a‹\x8c\x8d\x8e\x8f",
      "\x90‘’“”•–—˜™\x9a›\x9c\x9d\x9e\x9f",
      "\xa0¡¢£₪¥¦§¨©×«¬\xad®¯",
      "°±²³´µ¶·¸¹÷»¼½¾¿",
      "\u05b0\u05b1\u05b2\u05b3\u05b4\u05b5\u05b6\u05b7",
      "\u05b8\u05b9\u05ba\u05bb\u05bc\u05bd\u05be\u05bf",
      "\u05c0\u05c1\u05c2\u05c3\u05f0\u05f1\u05f2\u05f3",
      "\u05f4\uFFFD\uFFFD\uFFFD\uFFFD\uFFFD\uFFFD\uFFFD",
      "\u05d0\u05d1\u05d2\u05d3\u05d4\u05d5\u05d6\u05d7",
      "\u05d8\u05d9\u05da\u05db\u05dc\u05dd\u05de\u05df",
      "\u05e0\u05e1\u05e2\u05e3\u05e4\u05e5\u05e6\u05e7",
      "\u05e8\u05e9\u05ea\uFFFD\uFFFD\u200e\u200f\uFFFD"]⟩

/-- Arabic with typographic quotes. -/
def windows1256 : CodePage :=
  ⟨["cp1256", "windows-1256", "x-cp1256"],
    characters [
      "€\u067e‚ƒ„…†‡ˆ‰\u0679‹Œ\u0686\u0698\u0688",
      "\u06af‘’“”•–—\u06a9™\u0691›œ\u200c\u200d\u06ba",
      "\xa0\u060c¢£¤¥¦§¨©\u06be«¬\xad®¯",
      "°±²³´µ¶·¸¹\u061b»¼½¾\u061f",
      "\u06c1\u0621\u0622\u0623\u0624\u0625\u0626\u0627",
      "\u0628\u0629\u062a\u062b\u062c\u062d\u062e\u062f",
      "\u0630\u0631\u0632\u0633\u0634\u0635\u0636×",
      "\u0637\u0638\u0639\u063a\u0640\u0641\u0642\u0643",
      "à\u0644â\u0645\u0646\u0647\u0648çèéêë\u0649\u064aîï",
      "\u064b\u064c\u064d\u064eô\u064f\u0650÷\u0651ù\u0652ûü\u200e\u200f\u06d2"]⟩

/-- Baltic with typographic quotes. -/
def windows1257 : CodePage :=
  ⟨["cp1257", "windows-1257", "x-cp1257"],
    characters [
      "€\x81‚\x83„…†‡\x88‰\x8a‹\x8c¨ˇ¸",
      "\x90‘’“”•–—\x98™\x9a›\x9c¯˛\x9f",
      "\xa0\uFFFD¢£¤\uFFFD¦§Ø©Ŗ«¬\xad®Æ",
      "°±²³´µ¶·ø¹ŗ»¼½¾æ",
      "ĄĮĀĆÄÅĘĒČÉŹĖĢĶĪĻ",
      "ŠŃŅÓŌÕÖ×ŲŁŚŪÜŻŽß",
      "ąįāćäåęēčéźėģķīļ",
      "šńņóōõö÷ųłśūüżž˙"]⟩

/-- Vietnamese with typographic quotes. -/
def windows1258 : CodePage :=
  ⟨["cp1258", "windows-1258", "x-cp1258"],
    characters [
      "€\x81‚ƒ„…†‡ˆ‰\x8a‹Œ\x8d\x8e\x8f",
      "\x90‘’“”•–—˜™\x9a›œ\x9d\x9eŸ",
      "\xa0¡¢£¤¥¦§¨©ª«¬\xad®¯",
      "°±²³´µ¶·¸¹º»¼½¾¿",
      "ÀÁÂĂÄÅÆÇÈÉÊË\u0300ÍÎÏ",
      "ĐÑ\u0309ÓÔƠÖ×ØÙÚÛÜƯ\u0303ß",
      "àáâăäåæçèéêë\u0301íîï",
      "đñ\u0323óôơö÷øùúûüư₫ÿ"]⟩

/-- Cyrillic with mathematical signs. -/
def macCyrillic : CodePage :=
  ⟨["x-mac-cyrillic", "x-mac-ukrainian"],
    characters [
      "АБВГДЕЖЗИЙКЛМНОП",
      "РСТУФХЦЧШЩЪЫЬЭЮЯ",
      "†°Ґ£§•¶І®©™Ђђ≠Ѓѓ",
      "∞±≤≥іµґЈЄєЇїЉљЊњ",
      "јЅ¬√ƒ≈∆«»…\xa0ЋћЌќѕ",
      "–—“”‘’÷„ЎўЏџ№Ёёя",
      "абвгдежзийклмноп",
      "рстуфхцчшщъыьэю€"]⟩

/-- Private characters, from which the octets can be read off. -/
def userDefined : CodePage :=
  ⟨["x-user-defined"],
    (List.range 128).map fun index => Char.ofNat (0xF780 + index)⟩

/-- All pages. -/
def all : List CodePage :=
  [ibm866, latin2, latin3, latin4, cyrillic, arabic, greek, hebrew, latin6, baltic, celtic, latin9,
    latin10, koi8Russian, koi8Ukrainian, macintosh, windows874, windows1250, windows1251,
    windows1252, windows1253, windows1254, windows1255, windows1256, windows1257, windows1258,
    macCyrillic, userDefined]

/-- The page with a name. -/
def named? (name : String) : Option CodePage :=
  all.find? (·.names.contains name)

end CodePage
end Text
end InstanceScripts
