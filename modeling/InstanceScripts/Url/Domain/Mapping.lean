import InstanceScripts.Unicode.Ranges

/-!
# Characters of domains

A domain may be written in characters that only stand for others: capital letters,
ligatures, forms of a letter for one place in a word, full-width forms.  They are
replaced by the characters that they stand for.  Some characters are dropped, and many
do not belong in a domain at all.
-/

namespace InstanceScripts
namespace Url
namespace Domain

/-- Characters that are dropped. -/
def droppedRanges : Unicode.Ranges :=
  [(0xAD, 0xAD), (0x34F, 0x34F), (0x115F, 0x1160), (0x17B4, 0x17B5), (0x180B, 0x180F),
   (0x200B, 0x200B), (0x2060, 0x2064), (0x206A, 0x206F), (0x3164, 0x3164), (0xFE00, 0xFE0F),
   (0xFEFF, 0xFEFF), (0xFFA0, 0xFFA0), (0x1BCA0, 0x1BCA3), (0x1D173, 0x1D17A),
   (0xE0100, 0xE01EF)]

/-- Ranges moved as they stand: the first and the last character, and what the first
one is replaced by. -/
def shifts : List (Nat × Nat × Nat) :=
  [(0xC0, 0xD6, 0xE0), (0xD8, 0xDE, 0xF8), (0x388, 0x38A, 0x3AD), (0x391, 0x3A1, 0x3B1),
   (0x3A3, 0x3AB, 0x3C3), (0x3FD, 0x3FF, 0x37B), (0x400, 0x40F, 0x450), (0x410, 0x42F, 0x430),
   (0x531, 0x556, 0x561), (0x10A0, 0x10C5, 0x2D00), (0x13F8, 0x13FD, 0x13F0),
   (0x1C90, 0x1CBA, 0x10D0), (0x1CBD, 0x1CBF, 0x10FD), (0x1D33, 0x1D3A, 0x67),
   (0x1D5D, 0x1D5F, 0x3B2), (0x1DA4, 0x1DA6, 0x268), (0x1DAE, 0x1DB1, 0x272),
   (0x1DBC, 0x1DBE, 0x290), (0x1F08, 0x1F0F, 0x1F00), (0x1F18, 0x1F1D, 0x1F10),
   (0x1F28, 0x1F2F, 0x1F20), (0x1F38, 0x1F3F, 0x1F30), (0x1F48, 0x1F4D, 0x1F40),
   (0x1F68, 0x1F6F, 0x1F60), (0x2074, 0x2079, 0x34), (0x2080, 0x2089, 0x30),
   (0x2096, 0x2099, 0x6B), (0x2119, 0x211B, 0x70), (0x2135, 0x2138, 0x5D0),
   (0x2460, 0x2468, 0x31), (0x24B6, 0x24CF, 0x61), (0x24D0, 0x24E9, 0x61),
   (0x2C00, 0x2C2F, 0x2C30), (0x3137, 0x3139, 0x1103), (0x313A, 0x313F, 0x11B0),
   (0x3141, 0x3143, 0x1106), (0x3145, 0x314E, 0x1109), (0x314F, 0x3163, 0x1161),
   (0x3178, 0x317C, 0x112B), (0x3184, 0x3186, 0x1157), (0x3263, 0x3265, 0x1105),
   (0x3269, 0x326D, 0x110E), (0x32E4, 0x32E9, 0x30CA), (0x32EE, 0x32F2, 0x30DE),
   (0x32F5, 0x32FA, 0x30E8), (0x32FB, 0x32FE, 0x30EF), (0xAB70, 0xABBF, 0x13A0),
   (0xFB24, 0xFB26, 0x5DB), (0xFE41, 0xFE44, 0x300C), (0xFF01, 0xFF20, 0x21),
   (0xFF21, 0xFF3A, 0x61), (0xFF3B, 0xFF5E, 0x5B), (0xFF85, 0xFF8A, 0x30CA),
   (0xFF8F, 0xFF93, 0x30DE), (0xFF96, 0xFF9B, 0x30E8), (0xFFA7, 0xFFA9, 0x1103),
   (0xFFAA, 0xFFAF, 0x11B0), (0xFFB1, 0xFFB3, 0x1106), (0xFFB5, 0xFFBE, 0x1109),
   (0xFFC2, 0xFFC7, 0x1161), (0xFFCA, 0xFFCF, 0x1167), (0xFFD2, 0xFFD7, 0x116D),
   (0xFFDA, 0xFFDC, 0x1173), (0xFFE9, 0xFFEC, 0x2190), (0x10400, 0x10427, 0x10428),
   (0x104B0, 0x104D3, 0x104D8), (0x10570, 0x1057A, 0x10597), (0x1057C, 0x1058A, 0x105A3),
   (0x1058C, 0x10592, 0x105B3), (0x107B6, 0x107B8, 0x1C0), (0x10C80, 0x10CB2, 0x10CC0),
   (0x10D50, 0x10D65, 0x10D70), (0x118A0, 0x118BF, 0x118C0), (0x16E40, 0x16E5F, 0x16E60),
   (0x16EA0, 0x16EB8, 0x16EBB), (0x1CCD6, 0x1CCEF, 0x61), (0x1CCF0, 0x1CCF9, 0x30),
   (0x1D400, 0x1D419, 0x61), (0x1D41A, 0x1D433, 0x61), (0x1D434, 0x1D44D, 0x61),
   (0x1D44E, 0x1D454, 0x61), (0x1D456, 0x1D467, 0x69), (0x1D468, 0x1D481, 0x61),
   (0x1D482, 0x1D49B, 0x61), (0x1D4A9, 0x1D4AC, 0x6E), (0x1D4AE, 0x1D4B5, 0x73),
   (0x1D4B6, 0x1D4B9, 0x61), (0x1D4BD, 0x1D4C3, 0x68), (0x1D4C5, 0x1D4CF, 0x70),
   (0x1D4D0, 0x1D4E9, 0x61), (0x1D4EA, 0x1D503, 0x61), (0x1D507, 0x1D50A, 0x64),
   (0x1D50D, 0x1D514, 0x6A), (0x1D516, 0x1D51C, 0x73), (0x1D51E, 0x1D537, 0x61),
   (0x1D53B, 0x1D53E, 0x64), (0x1D540, 0x1D544, 0x69), (0x1D54A, 0x1D550, 0x73),
   (0x1D552, 0x1D56B, 0x61), (0x1D56C, 0x1D585, 0x61), (0x1D586, 0x1D59F, 0x61),
   (0x1D5A0, 0x1D5B9, 0x61), (0x1D5BA, 0x1D5D3, 0x61), (0x1D5D4, 0x1D5ED, 0x61),
   (0x1D5EE, 0x1D607, 0x61), (0x1D608, 0x1D621, 0x61), (0x1D622, 0x1D63B, 0x61),
   (0x1D63C, 0x1D655, 0x61), (0x1D656, 0x1D66F, 0x61), (0x1D670, 0x1D689, 0x61),
   (0x1D68A, 0x1D6A3, 0x61), (0x1D6A8, 0x1D6B8, 0x3B1), (0x1D6BA, 0x1D6C0, 0x3C3),
   (0x1D6C2, 0x1D6D2, 0x3B1), (0x1D6D4, 0x1D6DA, 0x3C3), (0x1D6E2, 0x1D6F2, 0x3B1),
   (0x1D6F4, 0x1D6FA, 0x3C3), (0x1D6FC, 0x1D70C, 0x3B1), (0x1D70E, 0x1D714, 0x3C3),
   (0x1D71C, 0x1D72C, 0x3B1), (0x1D72E, 0x1D734, 0x3C3), (0x1D736, 0x1D746, 0x3B1),
   (0x1D748, 0x1D74E, 0x3C3), (0x1D756, 0x1D766, 0x3B1), (0x1D768, 0x1D76E, 0x3C3),
   (0x1D770, 0x1D780, 0x3B1), (0x1D782, 0x1D788, 0x3C3), (0x1D790, 0x1D7A0, 0x3B1),
   (0x1D7A2, 0x1D7A8, 0x3C3), (0x1D7AA, 0x1D7BA, 0x3B1), (0x1D7BC, 0x1D7C2, 0x3C3),
   (0x1D7CE, 0x1D7D7, 0x30), (0x1D7D8, 0x1D7E1, 0x30), (0x1D7E2, 0x1D7EB, 0x30),
   (0x1D7EC, 0x1D7F5, 0x30), (0x1D7F6, 0x1D7FF, 0x30), (0x1E030, 0x1E038, 0x430),
   (0x1E039, 0x1E03B, 0x43A), (0x1E03C, 0x1E046, 0x43E), (0x1E051, 0x1E059, 0x430),
   (0x1E05F, 0x1E064, 0x443), (0x1E900, 0x1E921, 0x1E922), (0x1EE0A, 0x1EE0D, 0x643),
   (0x1EE2A, 0x1EE2D, 0x643), (0x1EE8B, 0x1EE8D, 0x644), (0x1EEAB, 0x1EEAD, 0x644),
   (0x1F130, 0x1F149, 0x61), (0x1FBF0, 0x1FBF9, 0x30)]

/-- Ranges in which capital and small letters take turns; each capital letter is
replaced by the letter after it. -/
def alternations : Unicode.Ranges :=
  [(0x100, 0x12F), (0x139, 0x13E), (0x141, 0x148), (0x14A, 0x177), (0x179, 0x17E),
   (0x1A0, 0x1A5), (0x1CD, 0x1DC), (0x1DE, 0x1EF), (0x1F8, 0x21F), (0x222, 0x233),
   (0x246, 0x24F), (0x3D8, 0x3EF), (0x460, 0x481), (0x48A, 0x4BF), (0x4C1, 0x4CE),
   (0x4D0, 0x52F), (0x1E00, 0x1E95), (0x1EA0, 0x1EFF), (0x2C67, 0x2C6C), (0x2C80, 0x2CE3),
   (0xA640, 0xA66D), (0xA680, 0xA69B), (0xA722, 0xA72F), (0xA732, 0xA76F), (0xA77E, 0xA787),
   (0xA796, 0xA7A9), (0xA7B4, 0xA7C3), (0xA7CC, 0xA7DB)]

/-- Characters replaced by one other: where they begin, and their replacements in a
row. -/
def strips : List (Nat × String) :=
  [(0xA0, " "), (0xAA, "a"), (0xB2, "23"), (0xB5, "μ"), (0xB9, "1o"), (0x134, "ĵ"), (0x136, "ķ"),
   (0x178, "ÿ"), (0x17F, "s"), (0x181, "ɓƃ"), (0x184, "ƅ"), (0x186, "ɔƈ"), (0x189, "ɖɗƌ"),
   (0x18E, "ǝəɛƒ"), (0x193, "ɠɣ"), (0x196, "ɩɨƙ"), (0x19C, "ɯɲ"), (0x19F, "ɵ"), (0x1A6, "ʀƨ"),
   (0x1A9, "ʃ"), (0x1AC, "ƭ"), (0x1AE, "ʈư"), (0x1B1, "ʊʋƴ"), (0x1B5, "ƶ"), (0x1B7, "ʒƹ"),
   (0x1BC, "ƽ"), (0x1F4, "ǵ"), (0x1F6, "ƕƿ"), (0x220, "ƞ"), (0x23A, "ⱥȼ"), (0x23D, "ƚⱦ"),
   (0x241, "ɂ"), (0x243, "ƀʉʌ"), (0x2B0, "hɦjrɹɻʁwy"), (0x2E0, "ɣlsxʕ"), (0x340, "\u0300\u0301"),
   (0x343, "\u0313"), (0x345, "ι"), (0x370, "ͱ"), (0x372, "ͳ"), (0x374, "ʹ"), (0x376, "ͷ"),
   (0x37E, ";ϳ"), (0x386, "ά·"), (0x38C, "ό"), (0x38E, "ύώ"), (0x3CF, "ϗβθυύϋφπ"),
   (0x3F0, "κρσ"), (0x3F4, "θε"), (0x3F7, "ϸ"), (0x3F9, "σϻ"), (0x4C0, "ӏ"), (0xF0C, "་"),
   (0x10C7, "ⴧ"), (0x10CD, "ⴭ"), (0x10FC, "ნ"), (0x1C80, "вдосттъѣꙋᲊ"), (0x1D2C, "aæb"),
   (0x1D30, "deǝ"), (0x1D3C, "oȣprtuwaɐɑᴂbdeəɛɜg"), (0x1D4F, "kmŋoɔᴖᴗptuᴝɯvᴥ"),
   (0x1D60, "φχiruvβγρφχ"), (0x1D78, "н"), (0x1D9B, "ɒcɕðɜfɟɡɥ"), (0x1DA7, "ᵻʝɭᶅʟɱɰ"),
   (0x1DB2, "ɸʂʃƫʉʊᴜʋʌz"), (0x1DBF, "θ"), (0x1E9B, "ṡ"), (0x1E9E, "ß"), (0x1F59, "ὑ"),
   (0x1F5B, "ὓ"), (0x1F5D, "ὕ"), (0x1F5F, "ὗ"), (0x1F71, "ά"), (0x1F73, "έ"), (0x1F75, "ή"),
   (0x1F77, "ί"), (0x1F79, "ό"), (0x1F7B, "ύ"), (0x1F7D, "ώ"), (0x1FB8, "ᾰᾱὰά"), (0x1FBE, "ι"),
   (0x1FC8, "ὲέὴή"), (0x1FD3, "ΐ"), (0x1FD8, "ῐῑὶί"), (0x1FE3, "ΰ"), (0x1FE8, "ῠῡὺύῥ"),
   (0x1FEF, "\x60"), (0x1FF8, "ὸόὼώ"), (0x2000, "           "), (0x2011, "‐"), (0x202F, " "),
   (0x205F, " "), (0x2070, "0i"), (0x207A, "+−=()n"), (0x208A, "+−=()"), (0x2090, "aeoxəh"),
   (0x209A, "pst"), (0x2102, "c"), (0x2107, "ɛ"), (0x210A, "ghhhhħiill"), (0x2115, "n"),
   (0x211C, "rr"), (0x2124, "z"), (0x2126, "ω"), (0x2128, "z"), (0x212A, "kåbc"),
   (0x212F, "eefⅎmo"), (0x2139, "i"), (0x213C, "πγγπ∑"), (0x2145, "ddeij"), (0x2160, "i"),
   (0x2164, "v"), (0x2169, "x"), (0x216C, "lcdmi"), (0x2174, "v"), (0x2179, "x"),
   (0x217C, "lcdm"), (0x2183, "ↄ"), (0x2329, "〈〉"), (0x24EA, "0"), (0x2C60, "ⱡ"),
   (0x2C62, "ɫᵽɽ"), (0x2C6D, "ɑɱɐɒ"), (0x2C72, "ⱳ"), (0x2C75, "ⱶ"), (0x2C7C, "jvȿɀ"),
   (0x2CEB, "ⳬ"), (0x2CED, "ⳮ"), (0x2CF2, "ⳳ"), (0x2D6F, "ⵡ"), (0x2E9F, "母"), (0x2EF3, "龟"),
   (0x2F00, "一丨丶丿乙亅二亠人儿入八冂冖冫几凵刀力勹匕匚匸十卜卩厂厶又口囗土士夂夊夕大女子宀寸小尢尸屮山巛工己巾干幺广廴廾弋弓彐彡彳"),
   (0x2F3C, "心戈戶手支攴文斗斤方无日曰月木欠止歹殳毋比毛氏气水火爪父爻爿片牙牛犬玄玉瓜瓦甘生用田疋疒癶白皮皿目矛矢石示禸禾穴立竹米糸"),
   (0x2F78, "缶网羊羽老而耒耳聿肉臣自至臼舌舛舟艮色艸虍虫血行衣襾見角言谷豆豕豸貝赤走足身車辛辰辵邑酉釆里金長門阜隶隹雨靑非面革韋韭音"),
   (0x2FB4, "頁風飛食首香馬骨高髟鬥鬯鬲鬼魚鳥鹵鹿麥麻黃黍黑黹黽鼎鼓鼠鼻齊齒龍龜龠"), (0x3000, " "), (0x3002, "."), (0x3036, "〒"),
   (0x3038, "十卄卅"), (0x3131, "ᄀᄁᆪᄂᆬᆭ"), (0x3140, "ᄚ"), (0x3144, "ᄡ"),
   (0x3165, "ᄔᄕᇇᇈᇌᇎᇓᇗᇙᄜᇝᇟᄝᄞᄠᄢᄣᄧᄩ"), (0x317D, "ᄲᄶᅀᅇᅌᇱᇲ"), (0x3187, "ᆄᆅᆈᆑᆒᆔᆞᆡ"),
   (0x3192, "一二三四上中下甲乙丙丁天地人"), (0x3244, "問幼文箏"), (0x3260, "ᄀᄂᄃ"), (0x3266, "ᄉᄋᄌ"),
   (0x326E, "가나다라마바사아자차카타파하"), (0x327E, "우"),
   (0x3280, "一二三四五六七八九十月火水木金土日株有社名特財祝労秘男女適優印注項休写正上中下左右医宗学監企資協夜"),
   (0x32D0, "アイウエオカキクケコサシスセソタチツテト"), (0x32EA, "ヒフヘホ"), (0x32F3, "ヤユ"), (0xA69C, "ъь"),
   (0xA770, "ꝯ"), (0xA779, "ꝺ"), (0xA77B, "ꝼ"), (0xA77D, "ᵹ"), (0xA78B, "ꞌ"), (0xA78D, "ɥ"),
   (0xA790, "ꞑ"), (0xA792, "ꞓ"), (0xA7AA, "ɦɜɡɬɪ"), (0xA7B0, "ʞʇʝꭓ"), (0xA7C4, "ꞔʂᶎꟈ"),
   (0xA7C9, "ꟊ"), (0xA7CB, "ɤ"), (0xA7DC, "ƛ"), (0xA7F1, "scfqꟶ"), (0xA7F8, "ħœ"),
   (0xAB5C, "ꜧꬷɫꭒ"), (0xAB69, "ʍ"),
   (0xF900, "豈更車賈滑串句龜龜契金喇奈懶癩羅蘿螺裸邏樂洛烙珞落酪駱亂卵欄爛蘭鸞嵐濫藍襤拉臘蠟廊朗浪狼郎來冷勞擄櫓爐盧老蘆虜路露魯鷺碌"),
   (0xF93C, "祿綠菉錄鹿論壟弄籠聾牢磊賂雷壘屢樓淚漏累縷陋勒肋凜凌稜綾菱陵讀拏樂諾丹寧怒率異北磻便復不泌數索參塞省葉說殺辰沈拾若掠略亮"),
   (0xF978, "兩凉梁糧良諒量勵呂女廬旅濾礪閭驪麗黎力曆歷轢年憐戀撚漣煉璉秊練聯輦蓮連鍊列劣咽烈裂說廉念捻殮簾獵令囹寧嶺怜玲瑩羚聆鈴零靈"),
   (0xF9B4, "領例禮醴隸惡了僚寮尿料樂燎療蓼遼龍暈阮劉杻柳流溜琉留硫紐類六戮陸倫崙淪輪律慄栗率隆利吏履易李梨泥理痢罹裏裡里離匿溺吝燐璘"),
   (0xF9F0, "藺隣鱗麟林淋臨立笠粒狀炙識什茶刺切度拓糖宅洞暴輻行降見廓兀嗀"), (0xFA10, "塚"), (0xFA12, "晴"),
   (0xFA15, "凞猪益礼神祥福靖精羽"), (0xFA20, "蘒"), (0xFA22, "諸"), (0xFA25, "逸都"),
   (0xFA2A, "飯飼館鶴郞隷侮僧免勉勤卑喝嘆器塀墨層屮悔慨憎懲敏既暑梅海渚漢煮爫琢碑社祉祈祐祖祝禍禎穀突節練縉繁署者臭艹艹著褐視謁謹賓贈"),
   (0xFA66, "辶逸難響頻恵𤋮舘"),
   (0xFA70, "並况全侀充冀勇勺喝啕喙嗢塚墳奄奔婢嬨廒廙彩徭惘慎愈憎慠懲戴揄搜摒敖晴朗望杖歹殺流滛滋漢瀞煮瞧爵犯猪瑱甆画瘝瘟益盛直睊着磌"),
   (0xFAAC, "窱節类絛練缾者荒華蝹襁覆視調諸請謁諾諭謹變贈輸遲醙鉶陼難靖韛響頋頻鬒龜𢡊𢡄𣏕㮝䀘䀹𥉉𥳐𧻓齃龎"),
   (0xFB20, "\u05e2\u05d0\u05d3\u05d4"), (0xFB27, "\u05e8\u05ea+"),
   (0xFB50, "\u0671\u0671\u067b\u067b\u067b\u067b\u067e\u067e\u067e\u067e"),
   (0xFB5A, "\u0680\u0680\u0680\u0680\u067a\u067a\u067a\u067a\u067f\u067f"),
   (0xFB64, "\u067f\u067f\u0679\u0679\u0679\u0679\u06a4\u06a4\u06a4\u06a4"),
   (0xFB6E, "\u06a6\u06a6\u06a6\u06a6\u0684\u0684\u0684\u0684\u0683\u0683"),
   (0xFB78, "\u0683\u0683\u0686\u0686\u0686\u0686\u0687\u0687\u0687\u0687"),
   (0xFB82, "\u068d\u068d\u068c\u068c\u068e\u068e\u0688\u0688\u0698\u0698"),
   (0xFB8C, "\u0691\u0691\u06a9\u06a9\u06a9\u06a9\u06af\u06af\u06af\u06af"),
   (0xFB96, "\u06b3\u06b3\u06b3\u06b3\u06b1\u06b1\u06b1\u06b1\u06ba\u06ba"),
   (0xFBA0, "\u06bb\u06bb\u06bb\u06bb\u06c0\u06c0\u06c1\u06c1\u06c1\u06c1"),
   (0xFBAA, "\u06be\u06be\u06be\u06be\u06d2\u06d2\u06d3\u06d3"),
   (0xFBD3, "\u06ad\u06ad\u06ad\u06ad\u06c7\u06c7\u06c6\u06c6\u06c8\u06c8"),
   (0xFBDE, "\u06cb\u06cb\u06c5\u06c5\u06c9\u06c9\u06d0\u06d0\u06d0\u06d0"),
   (0xFBE8, "\u0649\u0649"), (0xFBFC, "\u06cc\u06cc\u06cc\u06cc"), (0xFE10, ",、"),
   (0xFE13, ":;!?〖〗"), (0xFE31, "—–__()\x7b\x7d〔〕【】《》〈〉"), (0xFE47, "[]"), (0xFE4D, "___,、"),
   (0xFE54, ";:?!—()\x7b\x7d〔〕#&*+-<>="), (0xFE68, "\x5c$%@"),
   (0xFE80, "\u0621\u0622\u0622\u0623\u0623\u0624\u0624\u0625\u0625\u0626"),
   (0xFE8A, "\u0626\u0626\u0626\u0627\u0627\u0628\u0628\u0628\u0628\u0629"),
   (0xFE94, "\u0629\u062a\u062a\u062a\u062a\u062b\u062b\u062b\u062b\u062c"),
   (0xFE9E, "\u062c\u062c\u062c\u062d\u062d\u062d\u062d\u062e\u062e\u062e"),
   (0xFEA8, "\u062e\u062f\u062f\u0630\u0630\u0631\u0631\u0632\u0632\u0633"),
   (0xFEB2, "\u0633\u0633\u0633\u0634\u0634\u0634\u0634\u0635\u0635\u0635"),
   (0xFEBC, "\u0635\u0636\u0636\u0636\u0636\u0637\u0637\u0637\u0637\u0638"),
   (0xFEC6, "\u0638\u0638\u0638\u0639\u0639\u0639\u0639\u063a\u063a\u063a"),
   (0xFED0, "\u063a\u0641\u0641\u0641\u0641\u0642\u0642\u0642\u0642\u0643"),
   (0xFEDA, "\u0643\u0643\u0643\u0644\u0644\u0644\u0644\u0645\u0645\u0645"),
   (0xFEE4, "\u0645\u0646\u0646\u0646\u0646\u0647\u0647\u0647\u0647\u0648"),
   (0xFEEE, "\u0648\u0649\u0649\u064a\u064a\u064a\u064a"),
   (0xFF5F, "⦅⦆.「」、・ヲァィゥェォャュョッーアイウエオカキクケコサシスセソタチツテト"), (0xFF8B, "ヒフヘホ"), (0xFF94, "ヤユ"),
   (0xFF9C, "ワン\u3099\u309a"), (0xFFA1, "ᄀᄁᆪᄂᆬᆭ"), (0xFFB0, "ᄚ"), (0xFFB4, "ᄡ"), (0xFFE0, "¢£¬"),
   (0xFFE4, "¦¥₩"), (0xFFE8, "│"), (0xFFED, "■○"), (0x10594, "𐖻𐖼"), (0x10781, "ːˑæʙɓ"),
   (0x10787, "ʣꭦʥʤɖɗᶑɘɞʩɤɢɠʛħʜɧʄʪʫɬ𝼄ꞎɮ𝼅ʎ𝼆øɶɷqɺ𝼈ɽɾʀʨʦꭧʧʈⱱ"), (0x107B2, "ʏʡʢʘ"), (0x107B9, "𝼊𝼞"),
   (0x1D49C, "a"), (0x1D49E, "cd"), (0x1D4A2, "g"), (0x1D4A5, "jk"), (0x1D4BB, "f"),
   (0x1D504, "ab"), (0x1D538, "ab"), (0x1D546, "o"), (0x1D6A4, "ıȷ"), (0x1D6B9, "θ"),
   (0x1D6C1, "∇"), (0x1D6D3, "σ"), (0x1D6DB, "∂εθκφρπ"), (0x1D6F3, "θ"), (0x1D6FB, "∇"),
   (0x1D70D, "σ"), (0x1D715, "∂εθκφρπ"), (0x1D72D, "θ"), (0x1D735, "∇"), (0x1D747, "σ"),
   (0x1D74F, "∂εθκφρπ"), (0x1D767, "θ"), (0x1D76F, "∇"), (0x1D781, "σ"), (0x1D789, "∂εθκφρπ"),
   (0x1D7A1, "θ"), (0x1D7A9, "∇"), (0x1D7BB, "σ"), (0x1D7C3, "∂εθκφρπϝϝ"),
   (0x1E047, "ыэюꚉәіјөүӏ"), (0x1E05A, "клопс"), (0x1E065, "ъыґіѕџҫꙑұ"),
   (0x1EE00, "\u0627\u0628\u062c\u062f"), (0x1EE05, "\u0648\u0632\u062d\u0637\u064a"),
   (0x1EE0E, "\u0633\u0639\u0641\u0635\u0642\u0631\u0634\u062a\u062b\u062e"),
   (0x1EE18, "\u0630\u0636\u0638\u063a\u066e\u06ba\u06a1\u066f"), (0x1EE21, "\u0628\u062c"),
   (0x1EE24, "\u0647"), (0x1EE27, "\u062d"), (0x1EE29, "\u064a"),
   (0x1EE2E, "\u0633\u0639\u0641\u0635\u0642"), (0x1EE34, "\u0634\u062a\u062b\u062e"),
   (0x1EE39, "\u0636"), (0x1EE3B, "\u063a"), (0x1EE42, "\u062c"), (0x1EE47, "\u062d"),
   (0x1EE49, "\u064a"), (0x1EE4B, "\u0644"), (0x1EE4D, "\u0646\u0633\u0639"),
   (0x1EE51, "\u0635\u0642"), (0x1EE54, "\u0634"), (0x1EE57, "\u062e"), (0x1EE59, "\u0636"),
   (0x1EE5B, "\u063a"), (0x1EE5D, "\u06ba"), (0x1EE5F, "\u066f"), (0x1EE61, "\u0628\u062c"),
   (0x1EE64, "\u0647"), (0x1EE67, "\u062d\u0637\u064a\u0643"),
   (0x1EE6C, "\u0645\u0646\u0633\u0639\u0641\u0635\u0642"),
   (0x1EE74, "\u0634\u062a\u062b\u062e"), (0x1EE79, "\u0636\u0638\u063a\u066e"),
   (0x1EE7E, "\u06a1"),
   (0x1EE80, "\u0627\u0628\u062c\u062f\u0647\u0648\u0632\u062d\u0637\u064a"),
   (0x1EE8E, "\u0633\u0639\u0641\u0635\u0642\u0631\u0634\u062a\u062b\u062e"),
   (0x1EE98, "\u0630\u0636\u0638\u063a"), (0x1EEA1, "\u0628\u062c\u062f"),
   (0x1EEA5, "\u0648\u0632\u062d\u0637\u064a"),
   (0x1EEAE, "\u0633\u0639\u0641\u0635\u0642\u0631\u0634\u062a\u062b\u062e"),
   (0x1EEB8, "\u0630\u0636\u0638\u063a"), (0x1F12B, "cr"), (0x1F202, "サ"),
   (0x1F210, "手字双デ二多解天交映無料前後再新初終生販声吹演投捕一三遊左中右指走打禁空合満有月申割営配"), (0x1F250, "得可"),
   (0x2F800, "丽丸乁𠄢你侮侻倂偺備僧像㒞𠘺免兔兤具𠔜㒹內再𠕋冗冤仌冬况𩇟凵刃㓟刻剆割剷㔕勇勉勤勺包匆北卉卑博即卽卿卿卿𠨬灰及叟𠭣叫叱吆"),
   (0x2F83C, "咞吸呈周咢哶唐啓啣善善喙喫喳嗂圖嘆圗噑噴切壮城埴堍型堲報墬𡓤売壷夆多夢奢𡚨𡛪姬娛娧姘婦㛮㛼嬈嬾嬾𡧈寃寘寧寳𡬘寿将当尢㞁屠"),
   (0x2F878, "屮峀岍𡷤嵃𡷦嵮嵫嵼巡巢㠯巽帨帽幩㡢𢆃㡼庰庳庶廊𪎒廾𢌱𢌱舁弢弢㣇𣊸𦇚形彫㣣徚忍志忹悁㤺㤜悔𢛔惇慈慌慎慌慺憎憲憤憯懞懲懶成戛"),
   (0x2F8B4, "扝抱拔捐𢬌挽拼捨掃揤𢯱搢揅掩㨮摩摾撝摷㩬敏敬𣀊旣書晉㬙暑㬈㫤冒冕最暜肭䏙朗望朡杞杓𣏃㭉柺枅桒梅𣑭梎栟椔㮝楂榣槪檨𣚣櫛㰘次"),
   (0x2F8F0, "𣢧歔㱎歲殟殺殻𣪍𡴋𣫺汎𣲼沿泍汧洖派海流浩浸涅𣴞洴港湮㴳滋滇𣻑淹潮𣽞𣾎濆瀹瀞瀛㶖灊災灷炭𠔥煅𤉣熜𤎫爨爵牐𤘈犀犕𤜵𤠔獺王㺬玥"),
   (0x2F92C, "㺸㺸瑇瑜瑱璅瓊㼛甤𤰶甾𤲒異𢆟瘐𤾡𤾸𥁄㿼䀈直𥃳𥃲𥄙𥄳眞真真睊䀹瞋䁆䂖𥐝硎碌磌䃣𥘦祖𥚚𥛅福秫䄯穀穊穏𥥼𥪧𥪧竮䈂𥮫篆築䈧𥲀糒䊠"),
   (0x2F968, "糨糣紀𥾆絣䌁緇縂繅䌴𦈨𦉇䍙𦋙罺𦌾羕翺者𦓚𦔣聠𦖨聰𣍟䏕育脃䐋脾媵𦞧𦞵𣎓𣎜舁舄辞䑫芑芋芝劳花芳芽苦𦬼若茝荣莭茣莽菧著荓菊菌菜"),
   (0x2F9A4, "𦰶𦵫𦳕䔫蓱蓳蔖𧏊蕤𦼬䕝䕡𦾱𧃒䕫虐虜虧虩蚩蚈蜎蛢蝹蜨蝫螆䗗蟡蠁䗹衠衣𧙧裗裞䘵裺㒻𧢮𧥦䚾䛇誠諭變豕𧲨貫賁贛起𧼯𠠄跋趼跰𠣞軔輸"),
   (0x2F9E0, "𨗒𨗭邔郱鄑𨜮鄛鈸鋗鋘鉼鏹鐕𨯺開䦕閷𨵷䧦雃嶲霣𩅅𩈚䩮䩶韠𩐊䪲𩒖頋頋頩𩖶飢䬳餩馧駂駾䯎𩬰鬒鱀鳽䳎䳭鵧𪃎䳸𪄅𪈎𪊑麻䵖黹黾鼅鼏鼖"), (0x2FA1C, "鼻𪘀")]

/-- Characters replaced by several. -/
def spellings : List (Nat × String) :=
  [(0xA8, " \u0308"), (0xAF, " \u0304"), (0xB4, " \u0301"), (0xB8, " \u0327"), (0xBC, "1⁄4"),
   (0xBD, "1⁄2"), (0xBE, "3⁄4"), (0x130, "i\u0307"), (0x132, "ij"), (0x133, "ij"), (0x13F, "l·"),
   (0x140, "l·"), (0x149, "ʼn"), (0x1C4, "dž"), (0x1C5, "dž"), (0x1C6, "dž"), (0x1C7, "lj"),
   (0x1C8, "lj"), (0x1C9, "lj"), (0x1CA, "nj"), (0x1CB, "nj"), (0x1CC, "nj"), (0x1F1, "dz"),
   (0x1F2, "dz"), (0x1F3, "dz"), (0x2D8, " \u0306"), (0x2D9, " \u0307"), (0x2DA, " \u030a"),
   (0x2DB, " \u0328"), (0x2DC, " \u0303"), (0x2DD, " \u030b"), (0x344, "\u0308\u0301"),
   (0x37A, " ι"), (0x384, " \u0301"), (0x385, " \u0308\u0301"), (0x587, "եւ"),
   (0x675, "\u0627\u0674"), (0x676, "\u0648\u0674"), (0x677, "\u06c7\u0674"),
   (0x678, "\u064a\u0674"), (0x958, "क\u093c"), (0x959, "ख\u093c"), (0x95A, "ग\u093c"),
   (0x95B, "ज\u093c"), (0x95C, "ड\u093c"), (0x95D, "ढ\u093c"), (0x95E, "फ\u093c"),
   (0x95F, "य\u093c"), (0x9DC, "ড\u09bc"), (0x9DD, "ঢ\u09bc"), (0x9DF, "য\u09bc"),
   (0xA33, "ਲ\u0a3c"), (0xA36, "ਸ\u0a3c"), (0xA59, "ਖ\u0a3c"), (0xA5A, "ਗ\u0a3c"),
   (0xA5B, "ਜ\u0a3c"), (0xA5E, "ਫ\u0a3c"), (0xB5C, "ଡ\u0b3c"), (0xB5D, "ଢ\u0b3c"),
   (0xE33, "\u0e4dา"), (0xEB3, "\u0ecdາ"), (0xEDC, "ຫນ"), (0xEDD, "ຫມ"), (0xF43, "ག\u0fb7"),
   (0xF4D, "ཌ\u0fb7"), (0xF52, "ད\u0fb7"), (0xF57, "བ\u0fb7"), (0xF5C, "ཛ\u0fb7"),
   (0xF69, "ཀ\u0fb5"), (0xF73, "\u0f71\u0f72"), (0xF75, "\u0f71\u0f74"), (0xF76, "\u0fb2\u0f80"),
   (0xF77, "\u0fb2\u0f71\u0f80"), (0xF78, "\u0fb3\u0f80"), (0xF79, "\u0fb3\u0f71\u0f80"),
   (0xF81, "\u0f71\u0f80"), (0xF93, "\u0f92\u0fb7"), (0xF9D, "\u0f9c\u0fb7"),
   (0xFA2, "\u0fa1\u0fb7"), (0xFA7, "\u0fa6\u0fb7"), (0xFAC, "\u0fab\u0fb7"),
   (0xFB9, "\u0f90\u0fb5"), (0x1E9A, "aʾ"), (0x1F80, "ἀι"), (0x1F81, "ἁι"), (0x1F82, "ἂι"),
   (0x1F83, "ἃι"), (0x1F84, "ἄι"), (0x1F85, "ἅι"), (0x1F86, "ἆι"), (0x1F87, "ἇι"),
   (0x1F88, "ἀι"), (0x1F89, "ἁι"), (0x1F8A, "ἂι"), (0x1F8B, "ἃι"), (0x1F8C, "ἄι"),
   (0x1F8D, "ἅι"), (0x1F8E, "ἆι"), (0x1F8F, "ἇι"), (0x1F90, "ἠι"), (0x1F91, "ἡι"),
   (0x1F92, "ἢι"), (0x1F93, "ἣι"), (0x1F94, "ἤι"), (0x1F95, "ἥι"), (0x1F96, "ἦι"),
   (0x1F97, "ἧι"), (0x1F98, "ἠι"), (0x1F99, "ἡι"), (0x1F9A, "ἢι"), (0x1F9B, "ἣι"),
   (0x1F9C, "ἤι"), (0x1F9D, "ἥι"), (0x1F9E, "ἦι"), (0x1F9F, "ἧι"), (0x1FA0, "ὠι"),
   (0x1FA1, "ὡι"), (0x1FA2, "ὢι"), (0x1FA3, "ὣι"), (0x1FA4, "ὤι"), (0x1FA5, "ὥι"),
   (0x1FA6, "ὦι"), (0x1FA7, "ὧι"), (0x1FA8, "ὠι"), (0x1FA9, "ὡι"), (0x1FAA, "ὢι"),
   (0x1FAB, "ὣι"), (0x1FAC, "ὤι"), (0x1FAD, "ὥι"), (0x1FAE, "ὦι"), (0x1FAF, "ὧι"),
   (0x1FB2, "ὰι"), (0x1FB3, "αι"), (0x1FB4, "άι"), (0x1FB7, "ᾶι"), (0x1FBC, "αι"),
   (0x1FBD, " \u0313"), (0x1FBF, " \u0313"), (0x1FC0, " \u0342"), (0x1FC1, " \u0308\u0342"),
   (0x1FC2, "ὴι"), (0x1FC3, "ηι"), (0x1FC4, "ήι"), (0x1FC7, "ῆι"), (0x1FCC, "ηι"),
   (0x1FCD, " \u0313\u0300"), (0x1FCE, " \u0313\u0301"), (0x1FCF, " \u0313\u0342"),
   (0x1FDD, " \u0314\u0300"), (0x1FDE, " \u0314\u0301"), (0x1FDF, " \u0314\u0342"),
   (0x1FED, " \u0308\u0300"), (0x1FEE, " \u0308\u0301"), (0x1FF2, "ὼι"), (0x1FF3, "ωι"),
   (0x1FF4, "ώι"), (0x1FF7, "ῶι"), (0x1FFC, "ωι"), (0x1FFD, " \u0301"), (0x1FFE, " \u0314"),
   (0x2017, " \u0333"), (0x2033, "′′"), (0x2034, "′′′"), (0x2036, "‵‵"), (0x2037, "‵‵‵"),
   (0x203C, "!!"), (0x203E, " \u0305"), (0x2047, "??"), (0x2048, "?!"), (0x2049, "!?"),
   (0x2057, "′′′′"), (0x20A8, "rs"), (0x2100, "a/c"), (0x2101, "a/s"), (0x2103, "°c"),
   (0x2105, "c/o"), (0x2106, "c/u"), (0x2109, "°f"), (0x2116, "no"), (0x2120, "sm"),
   (0x2121, "tel"), (0x2122, "tm"), (0x213B, "fax"), (0x2150, "1⁄7"), (0x2151, "1⁄9"),
   (0x2152, "1⁄10"), (0x2153, "1⁄3"), (0x2154, "2⁄3"), (0x2155, "1⁄5"), (0x2156, "2⁄5"),
   (0x2157, "3⁄5"), (0x2158, "4⁄5"), (0x2159, "1⁄6"), (0x215A, "5⁄6"), (0x215B, "1⁄8"),
   (0x215C, "3⁄8"), (0x215D, "5⁄8"), (0x215E, "7⁄8"), (0x215F, "1⁄"), (0x2161, "ii"),
   (0x2162, "iii"), (0x2163, "iv"), (0x2165, "vi"), (0x2166, "vii"), (0x2167, "viii"),
   (0x2168, "ix"), (0x216A, "xi"), (0x216B, "xii"), (0x2171, "ii"), (0x2172, "iii"),
   (0x2173, "iv"), (0x2175, "vi"), (0x2176, "vii"), (0x2177, "viii"), (0x2178, "ix"),
   (0x217A, "xi"), (0x217B, "xii"), (0x2189, "0⁄3"), (0x222C, "∫∫"), (0x222D, "∫∫∫"),
   (0x222F, "∮∮"), (0x2230, "∮∮∮"), (0x2469, "10"), (0x246A, "11"), (0x246B, "12"),
   (0x246C, "13"), (0x246D, "14"), (0x246E, "15"), (0x246F, "16"), (0x2470, "17"),
   (0x2471, "18"), (0x2472, "19"), (0x2473, "20"), (0x2474, "(1)"), (0x2475, "(2)"),
   (0x2476, "(3)"), (0x2477, "(4)"), (0x2478, "(5)"), (0x2479, "(6)"), (0x247A, "(7)"),
   (0x247B, "(8)"), (0x247C, "(9)"), (0x247D, "(10)"), (0x247E, "(11)"), (0x247F, "(12)"),
   (0x2480, "(13)"), (0x2481, "(14)"), (0x2482, "(15)"), (0x2483, "(16)"), (0x2484, "(17)"),
   (0x2485, "(18)"), (0x2486, "(19)"), (0x2487, "(20)"), (0x249C, "(a)"), (0x249D, "(b)"),
   (0x249E, "(c)"), (0x249F, "(d)"), (0x24A0, "(e)"), (0x24A1, "(f)"), (0x24A2, "(g)"),
   (0x24A3, "(h)"), (0x24A4, "(i)"), (0x24A5, "(j)"), (0x24A6, "(k)"), (0x24A7, "(l)"),
   (0x24A8, "(m)"), (0x24A9, "(n)"), (0x24AA, "(o)"), (0x24AB, "(p)"), (0x24AC, "(q)"),
   (0x24AD, "(r)"), (0x24AE, "(s)"), (0x24AF, "(t)"), (0x24B0, "(u)"), (0x24B1, "(v)"),
   (0x24B2, "(w)"), (0x24B3, "(x)"), (0x24B4, "(y)"), (0x24B5, "(z)"), (0x2A0C, "∫∫∫∫"),
   (0x2A74, "::="), (0x2A75, "=="), (0x2A76, "==="), (0x2ADC, "⫝\u0338"), (0x309B, " \u3099"),
   (0x309C, " \u309a"), (0x309F, "より"), (0x30FF, "コト"), (0x3200, "(ᄀ)"), (0x3201, "(ᄂ)"),
   (0x3202, "(ᄃ)"), (0x3203, "(ᄅ)"), (0x3204, "(ᄆ)"), (0x3205, "(ᄇ)"), (0x3206, "(ᄉ)"),
   (0x3207, "(ᄋ)"), (0x3208, "(ᄌ)"), (0x3209, "(ᄎ)"), (0x320A, "(ᄏ)"), (0x320B, "(ᄐ)"),
   (0x320C, "(ᄑ)"), (0x320D, "(ᄒ)"), (0x320E, "(가)"), (0x320F, "(나)"), (0x3210, "(다)"),
   (0x3211, "(라)"), (0x3212, "(마)"), (0x3213, "(바)"), (0x3214, "(사)"), (0x3215, "(아)"),
   (0x3216, "(자)"), (0x3217, "(차)"), (0x3218, "(카)"), (0x3219, "(타)"), (0x321A, "(파)"),
   (0x321B, "(하)"), (0x321C, "(주)"), (0x321D, "(오전)"), (0x321E, "(오후)"), (0x3220, "(一)"),
   (0x3221, "(二)"), (0x3222, "(三)"), (0x3223, "(四)"), (0x3224, "(五)"), (0x3225, "(六)"),
   (0x3226, "(七)"), (0x3227, "(八)"), (0x3228, "(九)"), (0x3229, "(十)"), (0x322A, "(月)"),
   (0x322B, "(火)"), (0x322C, "(水)"), (0x322D, "(木)"), (0x322E, "(金)"), (0x322F, "(土)"),
   (0x3230, "(日)"), (0x3231, "(株)"), (0x3232, "(有)"), (0x3233, "(社)"), (0x3234, "(名)"),
   (0x3235, "(特)"), (0x3236, "(財)"), (0x3237, "(祝)"), (0x3238, "(労)"), (0x3239, "(代)"),
   (0x323A, "(呼)"), (0x323B, "(学)"), (0x323C, "(監)"), (0x323D, "(企)"), (0x323E, "(資)"),
   (0x323F, "(協)"), (0x3240, "(祭)"), (0x3241, "(休)"), (0x3242, "(自)"), (0x3243, "(至)"),
   (0x3250, "pte"), (0x3251, "21"), (0x3252, "22"), (0x3253, "23"), (0x3254, "24"),
   (0x3255, "25"), (0x3256, "26"), (0x3257, "27"), (0x3258, "28"), (0x3259, "29"),
   (0x325A, "30"), (0x325B, "31"), (0x325C, "32"), (0x325D, "33"), (0x325E, "34"),
   (0x325F, "35"), (0x327C, "참고"), (0x327D, "주의"), (0x32B1, "36"), (0x32B2, "37"),
   (0x32B3, "38"), (0x32B4, "39"), (0x32B5, "40"), (0x32B6, "41"), (0x32B7, "42"),
   (0x32B8, "43"), (0x32B9, "44"), (0x32BA, "45"), (0x32BB, "46"), (0x32BC, "47"),
   (0x32BD, "48"), (0x32BE, "49"), (0x32BF, "50"), (0x32C0, "1月"), (0x32C1, "2月"),
   (0x32C2, "3月"), (0x32C3, "4月"), (0x32C4, "5月"), (0x32C5, "6月"), (0x32C6, "7月"),
   (0x32C7, "8月"), (0x32C8, "9月"), (0x32C9, "10月"), (0x32CA, "11月"), (0x32CB, "12月"),
   (0x32CC, "hg"), (0x32CD, "erg"), (0x32CE, "ev"), (0x32CF, "ltd"), (0x32FF, "令和"),
   (0x3300, "アパート"), (0x3301, "アルファ"), (0x3302, "アンペア"), (0x3303, "アール"), (0x3304, "イニング"),
   (0x3305, "インチ"), (0x3306, "ウォン"), (0x3307, "エスクード"), (0x3308, "エーカー"), (0x3309, "オンス"),
   (0x330A, "オーム"), (0x330B, "カイリ"), (0x330C, "カラット"), (0x330D, "カロリー"), (0x330E, "ガロン"),
   (0x330F, "ガンマ"), (0x3310, "ギガ"), (0x3311, "ギニー"), (0x3312, "キュリー"), (0x3313, "ギルダー"),
   (0x3314, "キロ"), (0x3315, "キログラム"), (0x3316, "キロメートル"), (0x3317, "キロワット"), (0x3318, "グラム"),
   (0x3319, "グラムトン"), (0x331A, "クルゼイロ"), (0x331B, "クローネ"), (0x331C, "ケース"), (0x331D, "コルナ"),
   (0x331E, "コーポ"), (0x331F, "サイクル"), (0x3320, "サンチーム"), (0x3321, "シリング"), (0x3322, "センチ"),
   (0x3323, "セント"), (0x3324, "ダース"), (0x3325, "デシ"), (0x3326, "ドル"), (0x3327, "トン"),
   (0x3328, "ナノ"), (0x3329, "ノット"), (0x332A, "ハイツ"), (0x332B, "パーセント"), (0x332C, "パーツ"),
   (0x332D, "バーレル"), (0x332E, "ピアストル"), (0x332F, "ピクル"), (0x3330, "ピコ"), (0x3331, "ビル"),
   (0x3332, "ファラッド"), (0x3333, "フィート"), (0x3334, "ブッシェル"), (0x3335, "フラン"), (0x3336, "ヘクタール"),
   (0x3337, "ペソ"), (0x3338, "ペニヒ"), (0x3339, "ヘルツ"), (0x333A, "ペンス"), (0x333B, "ページ"),
   (0x333C, "ベータ"), (0x333D, "ポイント"), (0x333E, "ボルト"), (0x333F, "ホン"), (0x3340, "ポンド"),
   (0x3341, "ホール"), (0x3342, "ホーン"), (0x3343, "マイクロ"), (0x3344, "マイル"), (0x3345, "マッハ"),
   (0x3346, "マルク"), (0x3347, "マンション"), (0x3348, "ミクロン"), (0x3349, "ミリ"), (0x334A, "ミリバール"),
   (0x334B, "メガ"), (0x334C, "メガトン"), (0x334D, "メートル"), (0x334E, "ヤード"), (0x334F, "ヤール"),
   (0x3350, "ユアン"), (0x3351, "リットル"), (0x3352, "リラ"), (0x3353, "ルピー"), (0x3354, "ルーブル"),
   (0x3355, "レム"), (0x3356, "レントゲン"), (0x3357, "ワット"), (0x3358, "0点"), (0x3359, "1点"),
   (0x335A, "2点"), (0x335B, "3点"), (0x335C, "4点"), (0x335D, "5点"), (0x335E, "6点"),
   (0x335F, "7点"), (0x3360, "8点"), (0x3361, "9点"), (0x3362, "10点"), (0x3363, "11点"),
   (0x3364, "12点"), (0x3365, "13点"), (0x3366, "14点"), (0x3367, "15点"), (0x3368, "16点"),
   (0x3369, "17点"), (0x336A, "18点"), (0x336B, "19点"), (0x336C, "20点"), (0x336D, "21点"),
   (0x336E, "22点"), (0x336F, "23点"), (0x3370, "24点"), (0x3371, "hpa"), (0x3372, "da"),
   (0x3373, "au"), (0x3374, "bar"), (0x3375, "ov"), (0x3376, "pc"), (0x3377, "dm"),
   (0x3378, "dm2"), (0x3379, "dm3"), (0x337A, "iu"), (0x337B, "平成"), (0x337C, "昭和"),
   (0x337D, "大正"), (0x337E, "明治"), (0x337F, "株式会社"), (0x3380, "pa"), (0x3381, "na"),
   (0x3382, "μa"), (0x3383, "ma"), (0x3384, "ka"), (0x3385, "kb"), (0x3386, "mb"),
   (0x3387, "gb"), (0x3388, "cal"), (0x3389, "kcal"), (0x338A, "pf"), (0x338B, "nf"),
   (0x338C, "μf"), (0x338D, "μg"), (0x338E, "mg"), (0x338F, "kg"), (0x3390, "hz"),
   (0x3391, "khz"), (0x3392, "mhz"), (0x3393, "ghz"), (0x3394, "thz"), (0x3395, "μl"),
   (0x3396, "ml"), (0x3397, "dl"), (0x3398, "kl"), (0x3399, "fm"), (0x339A, "nm"),
   (0x339B, "μm"), (0x339C, "mm"), (0x339D, "cm"), (0x339E, "km"), (0x339F, "mm2"),
   (0x33A0, "cm2"), (0x33A1, "m2"), (0x33A2, "km2"), (0x33A3, "mm3"), (0x33A4, "cm3"),
   (0x33A5, "m3"), (0x33A6, "km3"), (0x33A7, "m∕s"), (0x33A8, "m∕s2"), (0x33A9, "pa"),
   (0x33AA, "kpa"), (0x33AB, "mpa"), (0x33AC, "gpa"), (0x33AD, "rad"), (0x33AE, "rad∕s"),
   (0x33AF, "rad∕s2"), (0x33B0, "ps"), (0x33B1, "ns"), (0x33B2, "μs"), (0x33B3, "ms"),
   (0x33B4, "pv"), (0x33B5, "nv"), (0x33B6, "μv"), (0x33B7, "mv"), (0x33B8, "kv"),
   (0x33B9, "mv"), (0x33BA, "pw"), (0x33BB, "nw"), (0x33BC, "μw"), (0x33BD, "mw"),
   (0x33BE, "kw"), (0x33BF, "mw"), (0x33C0, "kω"), (0x33C1, "mω"), (0x33C3, "bq"),
   (0x33C4, "cc"), (0x33C5, "cd"), (0x33C6, "c∕kg"), (0x33C8, "db"), (0x33C9, "gy"),
   (0x33CA, "ha"), (0x33CB, "hp"), (0x33CC, "in"), (0x33CD, "kk"), (0x33CE, "km"),
   (0x33CF, "kt"), (0x33D0, "lm"), (0x33D1, "ln"), (0x33D2, "log"), (0x33D3, "lx"),
   (0x33D4, "mb"), (0x33D5, "mil"), (0x33D6, "mol"), (0x33D7, "ph"), (0x33D9, "ppm"),
   (0x33DA, "pr"), (0x33DB, "sr"), (0x33DC, "sv"), (0x33DD, "wb"), (0x33DE, "v∕m"),
   (0x33DF, "a∕m"), (0x33E0, "1日"), (0x33E1, "2日"), (0x33E2, "3日"), (0x33E3, "4日"),
   (0x33E4, "5日"), (0x33E5, "6日"), (0x33E6, "7日"), (0x33E7, "8日"), (0x33E8, "9日"),
   (0x33E9, "10日"), (0x33EA, "11日"), (0x33EB, "12日"), (0x33EC, "13日"), (0x33ED, "14日"),
   (0x33EE, "15日"), (0x33EF, "16日"), (0x33F0, "17日"), (0x33F1, "18日"), (0x33F2, "19日"),
   (0x33F3, "20日"), (0x33F4, "21日"), (0x33F5, "22日"), (0x33F6, "23日"), (0x33F7, "24日"),
   (0x33F8, "25日"), (0x33F9, "26日"), (0x33FA, "27日"), (0x33FB, "28日"), (0x33FC, "29日"),
   (0x33FD, "30日"), (0x33FE, "31日"), (0x33FF, "gal"), (0xFB00, "ff"), (0xFB01, "fi"),
   (0xFB02, "fl"), (0xFB03, "ffi"), (0xFB04, "ffl"), (0xFB05, "st"), (0xFB06, "st"),
   (0xFB13, "մն"), (0xFB14, "մե"), (0xFB15, "մի"), (0xFB16, "վն"), (0xFB17, "մխ"),
   (0xFB1D, "\u05d9\u05b4"), (0xFB1F, "\u05f2\u05b7"), (0xFB2A, "\u05e9\u05c1"),
   (0xFB2B, "\u05e9\u05c2"), (0xFB2C, "\u05e9\u05bc\u05c1"), (0xFB2D, "\u05e9\u05bc\u05c2"),
   (0xFB2E, "\u05d0\u05b7"), (0xFB2F, "\u05d0\u05b8"), (0xFB30, "\u05d0\u05bc"),
   (0xFB31, "\u05d1\u05bc"), (0xFB32, "\u05d2\u05bc"), (0xFB33, "\u05d3\u05bc"),
   (0xFB34, "\u05d4\u05bc"), (0xFB35, "\u05d5\u05bc"), (0xFB36, "\u05d6\u05bc"),
   (0xFB38, "\u05d8\u05bc"), (0xFB39, "\u05d9\u05bc"), (0xFB3A, "\u05da\u05bc"),
   (0xFB3B, "\u05db\u05bc"), (0xFB3C, "\u05dc\u05bc"), (0xFB3E, "\u05de\u05bc"),
   (0xFB40, "\u05e0\u05bc"), (0xFB41, "\u05e1\u05bc"), (0xFB43, "\u05e3\u05bc"),
   (0xFB44, "\u05e4\u05bc"), (0xFB46, "\u05e6\u05bc"), (0xFB47, "\u05e7\u05bc"),
   (0xFB48, "\u05e8\u05bc"), (0xFB49, "\u05e9\u05bc"), (0xFB4A, "\u05ea\u05bc"),
   (0xFB4B, "\u05d5\u05b9"), (0xFB4C, "\u05d1\u05bf"), (0xFB4D, "\u05db\u05bf"),
   (0xFB4E, "\u05e4\u05bf"), (0xFB4F, "\u05d0\u05dc"), (0xFBDD, "\u06c7\u0674"),
   (0xFBEA, "\u0626\u0627"), (0xFBEB, "\u0626\u0627"), (0xFBEC, "\u0626\u06d5"),
   (0xFBED, "\u0626\u06d5"), (0xFBEE, "\u0626\u0648"), (0xFBEF, "\u0626\u0648"),
   (0xFBF0, "\u0626\u06c7"), (0xFBF1, "\u0626\u06c7"), (0xFBF2, "\u0626\u06c6"),
   (0xFBF3, "\u0626\u06c6"), (0xFBF4, "\u0626\u06c8"), (0xFBF5, "\u0626\u06c8"),
   (0xFBF6, "\u0626\u06d0"), (0xFBF7, "\u0626\u06d0"), (0xFBF8, "\u0626\u06d0"),
   (0xFBF9, "\u0626\u0649"), (0xFBFA, "\u0626\u0649"), (0xFBFB, "\u0626\u0649"),
   (0xFC00, "\u0626\u062c"), (0xFC01, "\u0626\u062d"), (0xFC02, "\u0626\u0645"),
   (0xFC03, "\u0626\u0649"), (0xFC04, "\u0626\u064a"), (0xFC05, "\u0628\u062c"),
   (0xFC06, "\u0628\u062d"), (0xFC07, "\u0628\u062e"), (0xFC08, "\u0628\u0645"),
   (0xFC09, "\u0628\u0649"), (0xFC0A, "\u0628\u064a"), (0xFC0B, "\u062a\u062c"),
   (0xFC0C, "\u062a\u062d"), (0xFC0D, "\u062a\u062e"), (0xFC0E, "\u062a\u0645"),
   (0xFC0F, "\u062a\u0649"), (0xFC10, "\u062a\u064a"), (0xFC11, "\u062b\u062c"),
   (0xFC12, "\u062b\u0645"), (0xFC13, "\u062b\u0649"), (0xFC14, "\u062b\u064a"),
   (0xFC15, "\u062c\u062d"), (0xFC16, "\u062c\u0645"), (0xFC17, "\u062d\u062c"),
   (0xFC18, "\u062d\u0645"), (0xFC19, "\u062e\u062c"), (0xFC1A, "\u062e\u062d"),
   (0xFC1B, "\u062e\u0645"), (0xFC1C, "\u0633\u062c"), (0xFC1D, "\u0633\u062d"),
   (0xFC1E, "\u0633\u062e"), (0xFC1F, "\u0633\u0645"), (0xFC20, "\u0635\u062d"),
   (0xFC21, "\u0635\u0645"), (0xFC22, "\u0636\u062c"), (0xFC23, "\u0636\u062d"),
   (0xFC24, "\u0636\u062e"), (0xFC25, "\u0636\u0645"), (0xFC26, "\u0637\u062d"),
   (0xFC27, "\u0637\u0645"), (0xFC28, "\u0638\u0645"), (0xFC29, "\u0639\u062c"),
   (0xFC2A, "\u0639\u0645"), (0xFC2B, "\u063a\u062c"), (0xFC2C, "\u063a\u0645"),
   (0xFC2D, "\u0641\u062c"), (0xFC2E, "\u0641\u062d"), (0xFC2F, "\u0641\u062e"),
   (0xFC30, "\u0641\u0645"), (0xFC31, "\u0641\u0649"), (0xFC32, "\u0641\u064a"),
   (0xFC33, "\u0642\u062d"), (0xFC34, "\u0642\u0645"), (0xFC35, "\u0642\u0649"),
   (0xFC36, "\u0642\u064a"), (0xFC37, "\u0643\u0627"), (0xFC38, "\u0643\u062c"),
   (0xFC39, "\u0643\u062d"), (0xFC3A, "\u0643\u062e"), (0xFC3B, "\u0643\u0644"),
   (0xFC3C, "\u0643\u0645"), (0xFC3D, "\u0643\u0649"), (0xFC3E, "\u0643\u064a"),
   (0xFC3F, "\u0644\u062c"), (0xFC40, "\u0644\u062d"), (0xFC41, "\u0644\u062e"),
   (0xFC42, "\u0644\u0645"), (0xFC43, "\u0644\u0649"), (0xFC44, "\u0644\u064a"),
   (0xFC45, "\u0645\u062c"), (0xFC46, "\u0645\u062d"), (0xFC47, "\u0645\u062e"),
   (0xFC48, "\u0645\u0645"), (0xFC49, "\u0645\u0649"), (0xFC4A, "\u0645\u064a"),
   (0xFC4B, "\u0646\u062c"), (0xFC4C, "\u0646\u062d"), (0xFC4D, "\u0646\u062e"),
   (0xFC4E, "\u0646\u0645"), (0xFC4F, "\u0646\u0649"), (0xFC50, "\u0646\u064a"),
   (0xFC51, "\u0647\u062c"), (0xFC52, "\u0647\u0645"), (0xFC53, "\u0647\u0649"),
   (0xFC54, "\u0647\u064a"), (0xFC55, "\u064a\u062c"), (0xFC56, "\u064a\u062d"),
   (0xFC57, "\u064a\u062e"), (0xFC58, "\u064a\u0645"), (0xFC59, "\u064a\u0649"),
   (0xFC5A, "\u064a\u064a"), (0xFC5B, "\u0630\u0670"), (0xFC5C, "\u0631\u0670"),
   (0xFC5D, "\u0649\u0670"), (0xFC5E, " \u064c\u0651"), (0xFC5F, " \u064d\u0651"),
   (0xFC60, " \u064e\u0651"), (0xFC61, " \u064f\u0651"), (0xFC62, " \u0650\u0651"),
   (0xFC63, " \u0651\u0670"), (0xFC64, "\u0626\u0631"), (0xFC65, "\u0626\u0632"),
   (0xFC66, "\u0626\u0645"), (0xFC67, "\u0626\u0646"), (0xFC68, "\u0626\u0649"),
   (0xFC69, "\u0626\u064a"), (0xFC6A, "\u0628\u0631"), (0xFC6B, "\u0628\u0632"),
   (0xFC6C, "\u0628\u0645"), (0xFC6D, "\u0628\u0646"), (0xFC6E, "\u0628\u0649"),
   (0xFC6F, "\u0628\u064a"), (0xFC70, "\u062a\u0631"), (0xFC71, "\u062a\u0632"),
   (0xFC72, "\u062a\u0645"), (0xFC73, "\u062a\u0646"), (0xFC74, "\u062a\u0649"),
   (0xFC75, "\u062a\u064a"), (0xFC76, "\u062b\u0631"), (0xFC77, "\u062b\u0632"),
   (0xFC78, "\u062b\u0645"), (0xFC79, "\u062b\u0646"), (0xFC7A, "\u062b\u0649"),
   (0xFC7B, "\u062b\u064a"), (0xFC7C, "\u0641\u0649"), (0xFC7D, "\u0641\u064a"),
   (0xFC7E, "\u0642\u0649"), (0xFC7F, "\u0642\u064a"), (0xFC80, "\u0643\u0627"),
   (0xFC81, "\u0643\u0644"), (0xFC82, "\u0643\u0645"), (0xFC83, "\u0643\u0649"),
   (0xFC84, "\u0643\u064a"), (0xFC85, "\u0644\u0645"), (0xFC86, "\u0644\u0649"),
   (0xFC87, "\u0644\u064a"), (0xFC88, "\u0645\u0627"), (0xFC89, "\u0645\u0645"),
   (0xFC8A, "\u0646\u0631"), (0xFC8B, "\u0646\u0632"), (0xFC8C, "\u0646\u0645"),
   (0xFC8D, "\u0646\u0646"), (0xFC8E, "\u0646\u0649"), (0xFC8F, "\u0646\u064a"),
   (0xFC90, "\u0649\u0670"), (0xFC91, "\u064a\u0631"), (0xFC92, "\u064a\u0632"),
   (0xFC93, "\u064a\u0645"), (0xFC94, "\u064a\u0646"), (0xFC95, "\u064a\u0649"),
   (0xFC96, "\u064a\u064a"), (0xFC97, "\u0626\u062c"), (0xFC98, "\u0626\u062d"),
   (0xFC99, "\u0626\u062e"), (0xFC9A, "\u0626\u0645"), (0xFC9B, "\u0626\u0647"),
   (0xFC9C, "\u0628\u062c"), (0xFC9D, "\u0628\u062d"), (0xFC9E, "\u0628\u062e"),
   (0xFC9F, "\u0628\u0645"), (0xFCA0, "\u0628\u0647"), (0xFCA1, "\u062a\u062c"),
   (0xFCA2, "\u062a\u062d"), (0xFCA3, "\u062a\u062e"), (0xFCA4, "\u062a\u0645"),
   (0xFCA5, "\u062a\u0647"), (0xFCA6, "\u062b\u0645"), (0xFCA7, "\u062c\u062d"),
   (0xFCA8, "\u062c\u0645"), (0xFCA9, "\u062d\u062c"), (0xFCAA, "\u062d\u0645"),
   (0xFCAB, "\u062e\u062c"), (0xFCAC, "\u062e\u0645"), (0xFCAD, "\u0633\u062c"),
   (0xFCAE, "\u0633\u062d"), (0xFCAF, "\u0633\u062e"), (0xFCB0, "\u0633\u0645"),
   (0xFCB1, "\u0635\u062d"), (0xFCB2, "\u0635\u062e"), (0xFCB3, "\u0635\u0645"),
   (0xFCB4, "\u0636\u062c"), (0xFCB5, "\u0636\u062d"), (0xFCB6, "\u0636\u062e"),
   (0xFCB7, "\u0636\u0645"), (0xFCB8, "\u0637\u062d"), (0xFCB9, "\u0638\u0645"),
   (0xFCBA, "\u0639\u062c"), (0xFCBB, "\u0639\u0645"), (0xFCBC, "\u063a\u062c"),
   (0xFCBD, "\u063a\u0645"), (0xFCBE, "\u0641\u062c"), (0xFCBF, "\u0641\u062d"),
   (0xFCC0, "\u0641\u062e"), (0xFCC1, "\u0641\u0645"), (0xFCC2, "\u0642\u062d"),
   (0xFCC3, "\u0642\u0645"), (0xFCC4, "\u0643\u062c"), (0xFCC5, "\u0643\u062d"),
   (0xFCC6, "\u0643\u062e"), (0xFCC7, "\u0643\u0644"), (0xFCC8, "\u0643\u0645"),
   (0xFCC9, "\u0644\u062c"), (0xFCCA, "\u0644\u062d"), (0xFCCB, "\u0644\u062e"),
   (0xFCCC, "\u0644\u0645"), (0xFCCD, "\u0644\u0647"), (0xFCCE, "\u0645\u062c"),
   (0xFCCF, "\u0645\u062d"), (0xFCD0, "\u0645\u062e"), (0xFCD1, "\u0645\u0645"),
   (0xFCD2, "\u0646\u062c"), (0xFCD3, "\u0646\u062d"), (0xFCD4, "\u0646\u062e"),
   (0xFCD5, "\u0646\u0645"), (0xFCD6, "\u0646\u0647"), (0xFCD7, "\u0647\u062c"),
   (0xFCD8, "\u0647\u0645"), (0xFCD9, "\u0647\u0670"), (0xFCDA, "\u064a\u062c"),
   (0xFCDB, "\u064a\u062d"), (0xFCDC, "\u064a\u062e"), (0xFCDD, "\u064a\u0645"),
   (0xFCDE, "\u064a\u0647"), (0xFCDF, "\u0626\u0645"), (0xFCE0, "\u0626\u0647"),
   (0xFCE1, "\u0628\u0645"), (0xFCE2, "\u0628\u0647"), (0xFCE3, "\u062a\u0645"),
   (0xFCE4, "\u062a\u0647"), (0xFCE5, "\u062b\u0645"), (0xFCE6, "\u062b\u0647"),
   (0xFCE7, "\u0633\u0645"), (0xFCE8, "\u0633\u0647"), (0xFCE9, "\u0634\u0645"),
   (0xFCEA, "\u0634\u0647"), (0xFCEB, "\u0643\u0644"), (0xFCEC, "\u0643\u0645"),
   (0xFCED, "\u0644\u0645"), (0xFCEE, "\u0646\u0645"), (0xFCEF, "\u0646\u0647"),
   (0xFCF0, "\u064a\u0645"), (0xFCF1, "\u064a\u0647"), (0xFCF2, "\u0640\u064e\u0651"),
   (0xFCF3, "\u0640\u064f\u0651"), (0xFCF4, "\u0640\u0650\u0651"), (0xFCF5, "\u0637\u0649"),
   (0xFCF6, "\u0637\u064a"), (0xFCF7, "\u0639\u0649"), (0xFCF8, "\u0639\u064a"),
   (0xFCF9, "\u063a\u0649"), (0xFCFA, "\u063a\u064a"), (0xFCFB, "\u0633\u0649"),
   (0xFCFC, "\u0633\u064a"), (0xFCFD, "\u0634\u0649"), (0xFCFE, "\u0634\u064a"),
   (0xFCFF, "\u062d\u0649"), (0xFD00, "\u062d\u064a"), (0xFD01, "\u062c\u0649"),
   (0xFD02, "\u062c\u064a"), (0xFD03, "\u062e\u0649"), (0xFD04, "\u062e\u064a"),
   (0xFD05, "\u0635\u0649"), (0xFD06, "\u0635\u064a"), (0xFD07, "\u0636\u0649"),
   (0xFD08, "\u0636\u064a"), (0xFD09, "\u0634\u062c"), (0xFD0A, "\u0634\u062d"),
   (0xFD0B, "\u0634\u062e"), (0xFD0C, "\u0634\u0645"), (0xFD0D, "\u0634\u0631"),
   (0xFD0E, "\u0633\u0631"), (0xFD0F, "\u0635\u0631"), (0xFD10, "\u0636\u0631"),
   (0xFD11, "\u0637\u0649"), (0xFD12, "\u0637\u064a"), (0xFD13, "\u0639\u0649"),
   (0xFD14, "\u0639\u064a"), (0xFD15, "\u063a\u0649"), (0xFD16, "\u063a\u064a"),
   (0xFD17, "\u0633\u0649"), (0xFD18, "\u0633\u064a"), (0xFD19, "\u0634\u0649"),
   (0xFD1A, "\u0634\u064a"), (0xFD1B, "\u062d\u0649"), (0xFD1C, "\u062d\u064a"),
   (0xFD1D, "\u062c\u0649"), (0xFD1E, "\u062c\u064a"), (0xFD1F, "\u062e\u0649"),
   (0xFD20, "\u062e\u064a"), (0xFD21, "\u0635\u0649"), (0xFD22, "\u0635\u064a"),
   (0xFD23, "\u0636\u0649"), (0xFD24, "\u0636\u064a"), (0xFD25, "\u0634\u062c"),
   (0xFD26, "\u0634\u062d"), (0xFD27, "\u0634\u062e"), (0xFD28, "\u0634\u0645"),
   (0xFD29, "\u0634\u0631"), (0xFD2A, "\u0633\u0631"), (0xFD2B, "\u0635\u0631"),
   (0xFD2C, "\u0636\u0631"), (0xFD2D, "\u0634\u062c"), (0xFD2E, "\u0634\u062d"),
   (0xFD2F, "\u0634\u062e"), (0xFD30, "\u0634\u0645"), (0xFD31, "\u0633\u0647"),
   (0xFD32, "\u0634\u0647"), (0xFD33, "\u0637\u0645"), (0xFD34, "\u0633\u062c"),
   (0xFD35, "\u0633\u062d"), (0xFD36, "\u0633\u062e"), (0xFD37, "\u0634\u062c"),
   (0xFD38, "\u0634\u062d"), (0xFD39, "\u0634\u062e"), (0xFD3A, "\u0637\u0645"),
   (0xFD3B, "\u0638\u0645"), (0xFD3C, "\u0627\u064b"), (0xFD3D, "\u0627\u064b"),
   (0xFD50, "\u062a\u062c\u0645"), (0xFD51, "\u062a\u062d\u062c"),
   (0xFD52, "\u062a\u062d\u062c"), (0xFD53, "\u062a\u062d\u0645"),
   (0xFD54, "\u062a\u062e\u0645"), (0xFD55, "\u062a\u0645\u062c"),
   (0xFD56, "\u062a\u0645\u062d"), (0xFD57, "\u062a\u0645\u062e"),
   (0xFD58, "\u062c\u0645\u062d"), (0xFD59, "\u062c\u0645\u062d"),
   (0xFD5A, "\u062d\u0645\u064a"), (0xFD5B, "\u062d\u0645\u0649"),
   (0xFD5C, "\u0633\u062d\u062c"), (0xFD5D, "\u0633\u062c\u062d"),
   (0xFD5E, "\u0633\u062c\u0649"), (0xFD5F, "\u0633\u0645\u062d"),
   (0xFD60, "\u0633\u0645\u062d"), (0xFD61, "\u0633\u0645\u062c"),
   (0xFD62, "\u0633\u0645\u0645"), (0xFD63, "\u0633\u0645\u0645"),
   (0xFD64, "\u0635\u062d\u062d"), (0xFD65, "\u0635\u062d\u062d"),
   (0xFD66, "\u0635\u0645\u0645"), (0xFD67, "\u0634\u062d\u0645"),
   (0xFD68, "\u0634\u062d\u0645"), (0xFD69, "\u0634\u062c\u064a"),
   (0xFD6A, "\u0634\u0645\u062e"), (0xFD6B, "\u0634\u0645\u062e"),
   (0xFD6C, "\u0634\u0645\u0645"), (0xFD6D, "\u0634\u0645\u0645"),
   (0xFD6E, "\u0636\u062d\u0649"), (0xFD6F, "\u0636\u062e\u0645"),
   (0xFD70, "\u0636\u062e\u0645"), (0xFD71, "\u0637\u0645\u062d"),
   (0xFD72, "\u0637\u0645\u062d"), (0xFD73, "\u0637\u0645\u0645"),
   (0xFD74, "\u0637\u0645\u064a"), (0xFD75, "\u0639\u062c\u0645"),
   (0xFD76, "\u0639\u0645\u0645"), (0xFD77, "\u0639\u0645\u0645"),
   (0xFD78, "\u0639\u0645\u0649"), (0xFD79, "\u063a\u0645\u0645"),
   (0xFD7A, "\u063a\u0645\u064a"), (0xFD7B, "\u063a\u0645\u0649"),
   (0xFD7C, "\u0641\u062e\u0645"), (0xFD7D, "\u0641\u062e\u0645"),
   (0xFD7E, "\u0642\u0645\u062d"), (0xFD7F, "\u0642\u0645\u0645"),
   (0xFD80, "\u0644\u062d\u0645"), (0xFD81, "\u0644\u062d\u064a"),
   (0xFD82, "\u0644\u062d\u0649"), (0xFD83, "\u0644\u062c\u062c"),
   (0xFD84, "\u0644\u062c\u062c"), (0xFD85, "\u0644\u062e\u0645"),
   (0xFD86, "\u0644\u062e\u0645"), (0xFD87, "\u0644\u0645\u062d"),
   (0xFD88, "\u0644\u0645\u062d"), (0xFD89, "\u0645\u062d\u062c"),
   (0xFD8A, "\u0645\u062d\u0645"), (0xFD8B, "\u0645\u062d\u064a"),
   (0xFD8C, "\u0645\u062c\u062d"), (0xFD8D, "\u0645\u062c\u0645"),
   (0xFD8E, "\u0645\u062e\u062c"), (0xFD8F, "\u0645\u062e\u0645"),
   (0xFD92, "\u0645\u062c\u062e"), (0xFD93, "\u0647\u0645\u062c"),
   (0xFD94, "\u0647\u0645\u0645"), (0xFD95, "\u0646\u062d\u0645"),
   (0xFD96, "\u0646\u062d\u0649"), (0xFD97, "\u0646\u062c\u0645"),
   (0xFD98, "\u0646\u062c\u0645"), (0xFD99, "\u0646\u062c\u0649"),
   (0xFD9A, "\u0646\u0645\u064a"), (0xFD9B, "\u0646\u0645\u0649"),
   (0xFD9C, "\u064a\u0645\u0645"), (0xFD9D, "\u064a\u0645\u0645"),
   (0xFD9E, "\u0628\u062e\u064a"), (0xFD9F, "\u062a\u062c\u064a"),
   (0xFDA0, "\u062a\u062c\u0649"), (0xFDA1, "\u062a\u062e\u064a"),
   (0xFDA2, "\u062a\u062e\u0649"), (0xFDA3, "\u062a\u0645\u064a"),
   (0xFDA4, "\u062a\u0645\u0649"), (0xFDA5, "\u062c\u0645\u064a"),
   (0xFDA6, "\u062c\u062d\u0649"), (0xFDA7, "\u062c\u0645\u0649"),
   (0xFDA8, "\u0633\u062e\u0649"), (0xFDA9, "\u0635\u062d\u064a"),
   (0xFDAA, "\u0634\u062d\u064a"), (0xFDAB, "\u0636\u062d\u064a"),
   (0xFDAC, "\u0644\u062c\u064a"), (0xFDAD, "\u0644\u0645\u064a"),
   (0xFDAE, "\u064a\u062d\u064a"), (0xFDAF, "\u064a\u062c\u064a"),
   (0xFDB0, "\u064a\u0645\u064a"), (0xFDB1, "\u0645\u0645\u064a"),
   (0xFDB2, "\u0642\u0645\u064a"), (0xFDB3, "\u0646\u062d\u064a"),
   (0xFDB4, "\u0642\u0645\u062d"), (0xFDB5, "\u0644\u062d\u0645"),
   (0xFDB6, "\u0639\u0645\u064a"), (0xFDB7, "\u0643\u0645\u064a"),
   (0xFDB8, "\u0646\u062c\u062d"), (0xFDB9, "\u0645\u062e\u064a"),
   (0xFDBA, "\u0644\u062c\u0645"), (0xFDBB, "\u0643\u0645\u0645"),
   (0xFDBC, "\u0644\u062c\u0645"), (0xFDBD, "\u0646\u062c\u062d"),
   (0xFDBE, "\u062c\u062d\u064a"), (0xFDBF, "\u062d\u062c\u064a"),
   (0xFDC0, "\u0645\u062c\u064a"), (0xFDC1, "\u0641\u0645\u064a"),
   (0xFDC2, "\u0628\u062d\u064a"), (0xFDC3, "\u0643\u0645\u0645"),
   (0xFDC4, "\u0639\u062c\u0645"), (0xFDC5, "\u0635\u0645\u0645"),
   (0xFDC6, "\u0633\u062e\u064a"), (0xFDC7, "\u0646\u062c\u064a"),
   (0xFDF0, "\u0635\u0644\u06d2"), (0xFDF1, "\u0642\u0644\u06d2"),
   (0xFDF2, "\u0627\u0644\u0644\u0647"), (0xFDF3, "\u0627\u0643\u0628\u0631"),
   (0xFDF4, "\u0645\u062d\u0645\u062f"), (0xFDF5, "\u0635\u0644\u0639\u0645"),
   (0xFDF6, "\u0631\u0633\u0648\u0644"), (0xFDF7, "\u0639\u0644\u064a\u0647"),
   (0xFDF8, "\u0648\u0633\u0644\u0645"), (0xFDF9, "\u0635\u0644\u0649"),
   (0xFDFA, "\u0635\u0644\u0649 \u0627\u0644\u0644\u0647 \u0639\u0644\u064a\u0647 \u0648\u0633\u0644\u0645"),
   (0xFDFB, "\u062c\u0644 \u062c\u0644\u0627\u0644\u0647"), (0xFDFC, "\u0631\u06cc\u0627\u0644"),
   (0xFE49, " \u0305"), (0xFE4A, " \u0305"), (0xFE4B, " \u0305"), (0xFE4C, " \u0305"),
   (0xFE70, " \u064b"), (0xFE71, "\u0640\u064b"), (0xFE72, " \u064c"), (0xFE74, " \u064d"),
   (0xFE76, " \u064e"), (0xFE77, "\u0640\u064e"), (0xFE78, " \u064f"), (0xFE79, "\u0640\u064f"),
   (0xFE7A, " \u0650"), (0xFE7B, "\u0640\u0650"), (0xFE7C, " \u0651"), (0xFE7D, "\u0640\u0651"),
   (0xFE7E, " \u0652"), (0xFE7F, "\u0640\u0652"), (0xFEF5, "\u0644\u0622"),
   (0xFEF6, "\u0644\u0622"), (0xFEF7, "\u0644\u0623"), (0xFEF8, "\u0644\u0623"),
   (0xFEF9, "\u0644\u0625"), (0xFEFA, "\u0644\u0625"), (0xFEFB, "\u0644\u0627"),
   (0xFEFC, "\u0644\u0627"), (0xFFE3, " \u0304"), (0x1D15E, "𝅗𝅥"), (0x1D15F, "𝅘𝅥"),
   (0x1D160, "𝅘𝅥𝅮"), (0x1D161, "𝅘𝅥𝅯"), (0x1D162, "𝅘𝅥𝅰"), (0x1D163, "𝅘𝅥𝅱"), (0x1D164, "𝅘𝅥𝅲"),
   (0x1D1BB, "𝆹𝅥"), (0x1D1BC, "𝆺𝅥"), (0x1D1BD, "𝆹𝅥𝅮"), (0x1D1BE, "𝆺𝅥𝅮"), (0x1D1BF, "𝆹𝅥𝅯"),
   (0x1D1C0, "𝆺𝅥𝅯"), (0x1F101, "0,"), (0x1F102, "1,"), (0x1F103, "2,"), (0x1F104, "3,"),
   (0x1F105, "4,"), (0x1F106, "5,"), (0x1F107, "6,"), (0x1F108, "7,"), (0x1F109, "8,"),
   (0x1F10A, "9,"), (0x1F110, "(a)"), (0x1F111, "(b)"), (0x1F112, "(c)"), (0x1F113, "(d)"),
   (0x1F114, "(e)"), (0x1F115, "(f)"), (0x1F116, "(g)"), (0x1F117, "(h)"), (0x1F118, "(i)"),
   (0x1F119, "(j)"), (0x1F11A, "(k)"), (0x1F11B, "(l)"), (0x1F11C, "(m)"), (0x1F11D, "(n)"),
   (0x1F11E, "(o)"), (0x1F11F, "(p)"), (0x1F120, "(q)"), (0x1F121, "(r)"), (0x1F122, "(s)"),
   (0x1F123, "(t)"), (0x1F124, "(u)"), (0x1F125, "(v)"), (0x1F126, "(w)"), (0x1F127, "(x)"),
   (0x1F128, "(y)"), (0x1F129, "(z)"), (0x1F12A, "〔s〕"), (0x1F12D, "cd"), (0x1F12E, "wz"),
   (0x1F14A, "hv"), (0x1F14B, "mv"), (0x1F14C, "sd"), (0x1F14D, "ss"), (0x1F14E, "ppv"),
   (0x1F14F, "wc"), (0x1F16A, "mc"), (0x1F16B, "md"), (0x1F16C, "mr"), (0x1F190, "dj"),
   (0x1F200, "ほか"), (0x1F201, "ココ"), (0x1F240, "〔本〕"), (0x1F241, "〔三〕"), (0x1F242, "〔二〕"),
   (0x1F243, "〔安〕"), (0x1F244, "〔点〕"), (0x1F245, "〔打〕"), (0x1F246, "〔盗〕"), (0x1F247, "〔勝〕"),
   (0x1F248, "〔敗〕")]

/-- Characters that do not belong in a domain, unless they are dropped or replaced. -/
def refusedRanges : Unicode.Ranges :=
  [(0x80, 0x9F), (0x378, 0x379), (0x380, 0x38D), (0x3A2, 0x3A2), (0x530, 0x558), (0x58B, 0x58C),
   (0x590, 0x590), (0x5C8, 0x5CF), (0x5EB, 0x5EE), (0x5F5, 0x605), (0x61C, 0x61C),
   (0x6DD, 0x6DD), (0x70E, 0x70F), (0x74B, 0x74C), (0x7B2, 0x7BF), (0x7FB, 0x7FC),
   (0x82E, 0x82F), (0x83F, 0x83F), (0x85C, 0x85D), (0x85F, 0x85F), (0x86B, 0x86F),
   (0x890, 0x896), (0x8E2, 0x8E2), (0x984, 0x984), (0x98D, 0x98E), (0x991, 0x992),
   (0x9A9, 0x9A9), (0x9B1, 0x9B1), (0x9B3, 0x9B5), (0x9BA, 0x9BB), (0x9C5, 0x9C6),
   (0x9C9, 0x9CA), (0x9CF, 0x9D6), (0x9D8, 0x9DE), (0x9E4, 0x9E5), (0x9FF, 0xA00),
   (0xA04, 0xA04), (0xA0B, 0xA0E), (0xA11, 0xA12), (0xA29, 0xA29), (0xA31, 0xA31),
   (0xA34, 0xA34), (0xA37, 0xA37), (0xA3A, 0xA3B), (0xA3D, 0xA3D), (0xA43, 0xA46),
   (0xA49, 0xA4A), (0xA4E, 0xA50), (0xA52, 0xA58), (0xA5D, 0xA65), (0xA77, 0xA80),
   (0xA84, 0xA84), (0xA8E, 0xA8E), (0xA92, 0xA92), (0xAA9, 0xAA9), (0xAB1, 0xAB1),
   (0xAB4, 0xAB4), (0xABA, 0xABB), (0xAC6, 0xAC6), (0xACA, 0xACA), (0xACE, 0xACF),
   (0xAD1, 0xADF), (0xAE4, 0xAE5), (0xAF2, 0xAF8), (0xB00, 0xB00), (0xB04, 0xB04),
   (0xB0D, 0xB0E), (0xB11, 0xB12), (0xB29, 0xB29), (0xB31, 0xB31), (0xB34, 0xB34),
   (0xB3A, 0xB3B), (0xB45, 0xB46), (0xB49, 0xB4A), (0xB4E, 0xB54), (0xB58, 0xB5E),
   (0xB64, 0xB65), (0xB78, 0xB81), (0xB84, 0xB84), (0xB8B, 0xB8D), (0xB91, 0xB91),
   (0xB96, 0xB98), (0xB9B, 0xB9B), (0xB9D, 0xB9D), (0xBA0, 0xBA2), (0xBA5, 0xBA7),
   (0xBAB, 0xBAD), (0xBBA, 0xBBD), (0xBC3, 0xBC5), (0xBC9, 0xBC9), (0xBCE, 0xBCF),
   (0xBD1, 0xBD6), (0xBD8, 0xBE5), (0xBFB, 0xBFF), (0xC0D, 0xC0D), (0xC11, 0xC11),
   (0xC29, 0xC29), (0xC3A, 0xC3B), (0xC45, 0xC45), (0xC49, 0xC49), (0xC4E, 0xC54),
   (0xC57, 0xC57), (0xC5B, 0xC5B), (0xC5E, 0xC5F), (0xC64, 0xC65), (0xC70, 0xC76),
   (0xC8D, 0xC8D), (0xC91, 0xC91), (0xCA9, 0xCA9), (0xCB4, 0xCB4), (0xCBA, 0xCBB),
   (0xCC5, 0xCC5), (0xCC9, 0xCC9), (0xCCE, 0xCD4), (0xCD7, 0xCDB), (0xCDF, 0xCDF),
   (0xCE4, 0xCE5), (0xCF0, 0xCF0), (0xCF4, 0xCFF), (0xD0D, 0xD0D), (0xD11, 0xD11),
   (0xD45, 0xD45), (0xD49, 0xD49), (0xD50, 0xD53), (0xD64, 0xD65), (0xD80, 0xD80),
   (0xD84, 0xD84), (0xD97, 0xD99), (0xDB2, 0xDB2), (0xDBC, 0xDBC), (0xDBE, 0xDBF),
   (0xDC7, 0xDC9), (0xDCB, 0xDCE), (0xDD5, 0xDD5), (0xDD7, 0xDD7), (0xDE0, 0xDE5),
   (0xDF0, 0xDF1), (0xDF5, 0xE00), (0xE3B, 0xE3E), (0xE5C, 0xE80), (0xE83, 0xE83),
   (0xE85, 0xE85), (0xE8B, 0xE8B), (0xEA4, 0xEA4), (0xEA6, 0xEA6), (0xEBE, 0xEBF),
   (0xEC5, 0xEC5), (0xEC7, 0xEC7), (0xECF, 0xECF), (0xEDA, 0xEDB), (0xEE0, 0xEFF),
   (0xF48, 0xF48), (0xF6D, 0xF70), (0xF98, 0xF98), (0xFBD, 0xFBD), (0xFCD, 0xFCD),
   (0xFDB, 0xFFF), (0x10C6, 0x10CF), (0x1249, 0x1249), (0x124E, 0x124F), (0x1257, 0x1257),
   (0x1259, 0x1259), (0x125E, 0x125F), (0x1289, 0x1289), (0x128E, 0x128F), (0x12B1, 0x12B1),
   (0x12B6, 0x12B7), (0x12BF, 0x12BF), (0x12C1, 0x12C1), (0x12C6, 0x12C7), (0x12D7, 0x12D7),
   (0x1311, 0x1311), (0x1316, 0x1317), (0x135B, 0x135C), (0x137D, 0x137F), (0x139A, 0x139F),
   (0x13F6, 0x13FF), (0x1680, 0x1680), (0x169D, 0x169F), (0x16F9, 0x16FF), (0x1716, 0x171E),
   (0x1737, 0x173F), (0x1754, 0x175F), (0x176D, 0x176D), (0x1771, 0x1771), (0x1774, 0x177F),
   (0x17DE, 0x17DF), (0x17EA, 0x17EF), (0x17FA, 0x17FF), (0x181A, 0x181F), (0x1879, 0x187F),
   (0x18AB, 0x18AF), (0x18F6, 0x18FF), (0x191F, 0x191F), (0x192C, 0x192F), (0x193C, 0x193F),
   (0x1941, 0x1943), (0x196E, 0x196F), (0x1975, 0x197F), (0x19AC, 0x19AF), (0x19CA, 0x19CF),
   (0x19DB, 0x19DD), (0x1A1C, 0x1A1D), (0x1A5F, 0x1A5F), (0x1A7D, 0x1A7E), (0x1A8A, 0x1A8F),
   (0x1A9A, 0x1A9F), (0x1AAE, 0x1AAF), (0x1ADE, 0x1ADF), (0x1AEC, 0x1AFF), (0x1B4D, 0x1B4D),
   (0x1BF4, 0x1BFB), (0x1C38, 0x1C3A), (0x1C4A, 0x1C4C), (0x1C8B, 0x1CBC), (0x1CC8, 0x1CCF),
   (0x1CFB, 0x1CFF), (0x1F16, 0x1F1F), (0x1F46, 0x1F4F), (0x1F58, 0x1F5E), (0x1F7E, 0x1F7F),
   (0x1FB5, 0x1FB5), (0x1FC5, 0x1FC5), (0x1FD4, 0x1FD5), (0x1FDC, 0x1FDC), (0x1FF0, 0x1FF5),
   (0x1FFF, 0x1FFF), (0x200E, 0x200F), (0x2024, 0x2026), (0x2028, 0x202E), (0x2065, 0x209F),
   (0x20C2, 0x20CF), (0x20F1, 0x20FF), (0x218C, 0x218F), (0x242A, 0x243F), (0x244B, 0x249B),
   (0x2B74, 0x2B75), (0x2CF4, 0x2CF8), (0x2D26, 0x2D26), (0x2D28, 0x2D2C), (0x2D2E, 0x2D2F),
   (0x2D68, 0x2D6E), (0x2D71, 0x2D7E), (0x2D97, 0x2D9F), (0x2DA7, 0x2DA7), (0x2DAF, 0x2DAF),
   (0x2DB7, 0x2DB7), (0x2DBF, 0x2DBF), (0x2DC7, 0x2DC7), (0x2DCF, 0x2DCF), (0x2DD7, 0x2DD7),
   (0x2DDF, 0x2DDF), (0x2E5E, 0x2E7F), (0x2E9A, 0x2E9A), (0x2EF4, 0x2FFF), (0x3040, 0x3040),
   (0x3097, 0x3098), (0x3100, 0x3104), (0x3130, 0x318F), (0x31E6, 0x31EF), (0x321F, 0x321F),
   (0x33C2, 0x33D8), (0xA48D, 0xA48F), (0xA4C7, 0xA4CF), (0xA62C, 0xA63F), (0xA6F8, 0xA6FF),
   (0xA7DD, 0xA7F0), (0xA82D, 0xA82F), (0xA83A, 0xA83F), (0xA878, 0xA87F), (0xA8C6, 0xA8CD),
   (0xA8DA, 0xA8DF), (0xA954, 0xA95E), (0xA97D, 0xA97F), (0xA9CE, 0xA9CE), (0xA9DA, 0xA9DD),
   (0xA9FF, 0xA9FF), (0xAA37, 0xAA3F), (0xAA4E, 0xAA4F), (0xAA5A, 0xAA5B), (0xAAC3, 0xAADA),
   (0xAAF7, 0xAB00), (0xAB07, 0xAB08), (0xAB0F, 0xAB10), (0xAB17, 0xAB1F), (0xAB27, 0xAB27),
   (0xAB2F, 0xAB2F), (0xAB6C, 0xAB6F), (0xABEE, 0xABEF), (0xABFA, 0xABFF), (0xD7A4, 0xD7AF),
   (0xD7C7, 0xD7CA), (0xD7FC, 0xF8FF), (0xFA6E, 0xFB1C), (0xFB37, 0xFB45), (0xFDD0, 0xFDEF),
   (0xFE12, 0xFE1F), (0xFE30, 0xFE30), (0xFE52, 0xFE6F), (0xFE75, 0xFFFF), (0x1000C, 0x1000C),
   (0x10027, 0x10027), (0x1003B, 0x1003B), (0x1003E, 0x1003E), (0x1004E, 0x1004F),
   (0x1005E, 0x1007F), (0x100FB, 0x100FF), (0x10103, 0x10106), (0x10134, 0x10136),
   (0x1018F, 0x1018F), (0x1019D, 0x1019F), (0x101A1, 0x101CF), (0x101FE, 0x1027F),
   (0x1029D, 0x1029F), (0x102D1, 0x102DF), (0x102FC, 0x102FF), (0x10324, 0x1032C),
   (0x1034B, 0x1034F), (0x1037B, 0x1037F), (0x1039E, 0x1039E), (0x103C4, 0x103C7),
   (0x103D6, 0x103FF), (0x1049E, 0x1049F), (0x104AA, 0x104D7), (0x104FC, 0x104FF),
   (0x10528, 0x1052F), (0x10564, 0x1056E), (0x1057B, 0x10596), (0x105A2, 0x105A2),
   (0x105B2, 0x105B2), (0x105BA, 0x105BA), (0x105BD, 0x105BF), (0x105F4, 0x105FF),
   (0x10737, 0x1073F), (0x10756, 0x1075F), (0x10768, 0x1077F), (0x10786, 0x107FF),
   (0x10806, 0x10807), (0x10809, 0x10809), (0x10836, 0x10836), (0x10839, 0x1083B),
   (0x1083D, 0x1083E), (0x10856, 0x10856), (0x1089F, 0x108A6), (0x108B0, 0x108DF),
   (0x108F3, 0x108F3), (0x108F6, 0x108FA), (0x1091C, 0x1091E), (0x1093A, 0x1093E),
   (0x1095A, 0x1097F), (0x109B8, 0x109BB), (0x109D0, 0x109D1), (0x10A04, 0x10A04),
   (0x10A07, 0x10A0B), (0x10A14, 0x10A14), (0x10A18, 0x10A18), (0x10A36, 0x10A37),
   (0x10A3B, 0x10A3E), (0x10A49, 0x10A4F), (0x10A59, 0x10A5F), (0x10AA0, 0x10ABF),
   (0x10AE7, 0x10AEA), (0x10AF7, 0x10AFF), (0x10B36, 0x10B38), (0x10B56, 0x10B57),
   (0x10B73, 0x10B77), (0x10B92, 0x10B98), (0x10B9D, 0x10BA8), (0x10BB0, 0x10BFF),
   (0x10C49, 0x10CBF), (0x10CF3, 0x10CF9), (0x10D28, 0x10D2F), (0x10D3A, 0x10D3F),
   (0x10D66, 0x10D68), (0x10D86, 0x10D8D), (0x10D90, 0x10E5F), (0x10E7F, 0x10E7F),
   (0x10EAA, 0x10EAA), (0x10EAE, 0x10EAF), (0x10EB2, 0x10EC1), (0x10EC8, 0x10ECF),
   (0x10ED9, 0x10EF9), (0x10F28, 0x10F2F), (0x10F5A, 0x10F6F), (0x10F8A, 0x10FAF),
   (0x10FCC, 0x10FDF), (0x10FF7, 0x10FFF), (0x1104E, 0x11051), (0x11076, 0x1107E),
   (0x110BD, 0x110BD), (0x110C3, 0x110CF), (0x110E9, 0x110EF), (0x110FA, 0x110FF),
   (0x11135, 0x11135), (0x11148, 0x1114F), (0x11177, 0x1117F), (0x111E0, 0x111E0),
   (0x111F5, 0x111FF), (0x11212, 0x11212), (0x11242, 0x1127F), (0x11287, 0x11287),
   (0x11289, 0x11289), (0x1128E, 0x1128E), (0x1129E, 0x1129E), (0x112AA, 0x112AF),
   (0x112EB, 0x112EF), (0x112FA, 0x112FF), (0x11304, 0x11304), (0x1130D, 0x1130E),
   (0x11311, 0x11312), (0x11329, 0x11329), (0x11331, 0x11331), (0x11334, 0x11334),
   (0x1133A, 0x1133A), (0x11345, 0x11346), (0x11349, 0x1134A), (0x1134E, 0x1134F),
   (0x11351, 0x11356), (0x11358, 0x1135C), (0x11364, 0x11365), (0x1136D, 0x1136F),
   (0x11375, 0x1137F), (0x1138A, 0x1138A), (0x1138C, 0x1138D), (0x1138F, 0x1138F),
   (0x113B6, 0x113B6), (0x113C1, 0x113C1), (0x113C3, 0x113C4), (0x113C6, 0x113C6),
   (0x113CB, 0x113CB), (0x113D6, 0x113D6), (0x113D9, 0x113E0), (0x113E3, 0x113FF),
   (0x1145C, 0x1145C), (0x11462, 0x1147F), (0x114C8, 0x114CF), (0x114DA, 0x1157F),
   (0x115B6, 0x115B7), (0x115DE, 0x115FF), (0x11645, 0x1164F), (0x1165A, 0x1165F),
   (0x1166D, 0x1167F), (0x116BA, 0x116BF), (0x116CA, 0x116CF), (0x116E4, 0x116FF),
   (0x1171B, 0x1171C), (0x1172C, 0x1172F), (0x11747, 0x117FF), (0x1183C, 0x1189F),
   (0x118F3, 0x118FE), (0x11907, 0x11908), (0x1190A, 0x1190B), (0x11914, 0x11914),
   (0x11917, 0x11917), (0x11936, 0x11936), (0x11939, 0x1193A), (0x11947, 0x1194F),
   (0x1195A, 0x1199F), (0x119A8, 0x119A9), (0x119D8, 0x119D9), (0x119E5, 0x119FF),
   (0x11A48, 0x11A4F), (0x11AA3, 0x11AAF), (0x11AF9, 0x11AFF), (0x11B0A, 0x11B5F),
   (0x11B68, 0x11BBF), (0x11BE2, 0x11BEF), (0x11BFA, 0x11BFF), (0x11C09, 0x11C09),
   (0x11C37, 0x11C37), (0x11C46, 0x11C4F), (0x11C6D, 0x11C6F), (0x11C90, 0x11C91),
   (0x11CA8, 0x11CA8), (0x11CB7, 0x11CFF), (0x11D07, 0x11D07), (0x11D0A, 0x11D0A),
   (0x11D37, 0x11D39), (0x11D3B, 0x11D3B), (0x11D3E, 0x11D3E), (0x11D48, 0x11D4F),
   (0x11D5A, 0x11D5F), (0x11D66, 0x11D66), (0x11D69, 0x11D69), (0x11D8F, 0x11D8F),
   (0x11D92, 0x11D92), (0x11D99, 0x11D9F), (0x11DAA, 0x11DAF), (0x11DDC, 0x11DDF),
   (0x11DEA, 0x11EDF), (0x11EF9, 0x11EFF), (0x11F11, 0x11F11), (0x11F3B, 0x11F3D),
   (0x11F5B, 0x11FAF), (0x11FB1, 0x11FBF), (0x11FF2, 0x11FFE), (0x1239A, 0x123FF),
   (0x1246F, 0x1246F), (0x12475, 0x1247F), (0x12544, 0x12F8F), (0x12FF3, 0x12FFF),
   (0x13430, 0x1343F), (0x13456, 0x1345F), (0x143FB, 0x143FF), (0x14647, 0x160FF),
   (0x1613A, 0x167FF), (0x16A39, 0x16A3F), (0x16A5F, 0x16A5F), (0x16A6A, 0x16A6D),
   (0x16ABF, 0x16ABF), (0x16ACA, 0x16ACF), (0x16AEE, 0x16AEF), (0x16AF6, 0x16AFF),
   (0x16B46, 0x16B4F), (0x16B5A, 0x16B5A), (0x16B62, 0x16B62), (0x16B78, 0x16B7C),
   (0x16B90, 0x16D3F), (0x16D7A, 0x16E3F), (0x16E9B, 0x16EBA), (0x16ED4, 0x16EFF),
   (0x16F4B, 0x16F4E), (0x16F88, 0x16F8E), (0x16FA0, 0x16FDF), (0x16FE5, 0x16FEF),
   (0x16FF7, 0x16FFF), (0x18CD6, 0x18CFE), (0x18D1F, 0x18D7F), (0x18DF3, 0x1AFEF),
   (0x1AFF4, 0x1AFF4), (0x1AFFC, 0x1AFFC), (0x1AFFF, 0x1AFFF), (0x1B123, 0x1B131),
   (0x1B133, 0x1B14F), (0x1B153, 0x1B154), (0x1B156, 0x1B163), (0x1B168, 0x1B16F),
   (0x1B2FC, 0x1BBFF), (0x1BC6B, 0x1BC6F), (0x1BC7D, 0x1BC7F), (0x1BC89, 0x1BC8F),
   (0x1BC9A, 0x1BC9B), (0x1BCA4, 0x1CBFF), (0x1CCFD, 0x1CCFF), (0x1CEB4, 0x1CEB9),
   (0x1CED1, 0x1CEDF), (0x1CEF1, 0x1CEFF), (0x1CF2E, 0x1CF2F), (0x1CF47, 0x1CF4F),
   (0x1CFC4, 0x1CFFF), (0x1D0F6, 0x1D0FF), (0x1D127, 0x1D128), (0x1D1EB, 0x1D1FF),
   (0x1D246, 0x1D2BF), (0x1D2D4, 0x1D2DF), (0x1D2F4, 0x1D2FF), (0x1D357, 0x1D35F),
   (0x1D379, 0x1D7CD), (0x1DA8C, 0x1DA9A), (0x1DAA0, 0x1DAA0), (0x1DAB0, 0x1DEFF),
   (0x1DF1F, 0x1DF24), (0x1DF2B, 0x1DFFF), (0x1E007, 0x1E007), (0x1E019, 0x1E01A),
   (0x1E022, 0x1E022), (0x1E025, 0x1E025), (0x1E02B, 0x1E08E), (0x1E090, 0x1E0FF),
   (0x1E12D, 0x1E12F), (0x1E13E, 0x1E13F), (0x1E14A, 0x1E14D), (0x1E150, 0x1E28F),
   (0x1E2AF, 0x1E2BF), (0x1E2FA, 0x1E2FE), (0x1E300, 0x1E4CF), (0x1E4FA, 0x1E5CF),
   (0x1E5FB, 0x1E5FE), (0x1E600, 0x1E6BF), (0x1E6DF, 0x1E6DF), (0x1E6F6, 0x1E6FD),
   (0x1E700, 0x1E7DF), (0x1E7E7, 0x1E7E7), (0x1E7EC, 0x1E7EC), (0x1E7EF, 0x1E7EF),
   (0x1E7FF, 0x1E7FF), (0x1E8C5, 0x1E8C6), (0x1E8D7, 0x1E8FF), (0x1E94C, 0x1E94F),
   (0x1E95A, 0x1E95D), (0x1E960, 0x1EC70), (0x1ECB5, 0x1ED00), (0x1ED3E, 0x1EEEF),
   (0x1EEF2, 0x1EFFF), (0x1F02C, 0x1F02F), (0x1F094, 0x1F09F), (0x1F0AF, 0x1F0B0),
   (0x1F0C0, 0x1F0C0), (0x1F0D0, 0x1F0D0), (0x1F0F6, 0x1F100), (0x1F1AE, 0x1F1E5),
   (0x1F203, 0x1F25F), (0x1F266, 0x1F2FF), (0x1F6D9, 0x1F6DB), (0x1F6ED, 0x1F6EF),
   (0x1F6FD, 0x1F6FF), (0x1F7DA, 0x1F7DF), (0x1F7EC, 0x1F7EF), (0x1F7F1, 0x1F7FF),
   (0x1F80C, 0x1F80F), (0x1F848, 0x1F84F), (0x1F85A, 0x1F85F), (0x1F888, 0x1F88F),
   (0x1F8AE, 0x1F8AF), (0x1F8BC, 0x1F8BF), (0x1F8C2, 0x1F8CF), (0x1F8D9, 0x1F8FF),
   (0x1FA58, 0x1FA5F), (0x1FA6E, 0x1FA6F), (0x1FA7D, 0x1FA7F), (0x1FA8B, 0x1FA8D),
   (0x1FAC7, 0x1FAC7), (0x1FAC9, 0x1FACC), (0x1FADD, 0x1FADE), (0x1FAEB, 0x1FAEE),
   (0x1FAF9, 0x1FAFF), (0x1FB93, 0x1FB93), (0x1FBFB, 0x1FFFF), (0x2A6E0, 0x2A6FF),
   (0x2B81E, 0x2B81F), (0x2CEAE, 0x2CEAF), (0x2EBE1, 0x2EBEF), (0x2EE5E, 0x2FFFF),
   (0x3134B, 0x3134F), (0x3347A, 0x10FFFF)]

/-- The character that a range puts in place of another. -/
def shifted? (code : Nat) : Option Char :=
  (shifts.find? fun (first, last, _) => first ≤ code && code ≤ last).map
    fun (first, _, target) => Char.ofNat (target + (code - first))

/-- The small letter that follows a capital one. -/
def alternated? (code : Nat) : Option Char :=
  (alternations.find? fun (first, last) =>
    first ≤ code && code ≤ last && (code - first) % 2 == 0).map fun _ => Char.ofNat (code + 1)

/-- The character in the same place of a row of replacements. -/
def inStrip? (code : Nat) : Option Char :=
  strips.findSome? fun (first, replacements) =>
    if first ≤ code then replacements.toList[code - first]? else none

/-- What a character is replaced by, if it stands for something else. -/
def replacement? (char : Char) : Option (List Char) :=
  let code := char.toNat
  match shifted? code with
  | some other => some [other]
  | none =>
      match alternated? code with
      | some other => some [other]
      | none =>
          match inStrip? code with
          | some other => some [other]
          | none => (spellings.lookup code).map String.toList

/-- What a character of a domain stands for; nothing if it does not belong there. -/
def mapped? (char : Char) : Option (List Char) :=
  if char.toNat < 0x80 then some [char.toLower]
  else if droppedRanges.holds char then some []
  else
    match replacement? char with
    | some chars => some chars
    | none => if refusedRanges.holds char then none else some [char]

/-- Whether a character stands for itself. -/
def isPlain (char : Char) : Bool :=
  mapped? char == some [char]

theorem mapped?_ascii (char : Char) (ascii : char.toNat < 0x80) :
    mapped? char = some [char.toLower] := by
  simp [mapped?, ascii]

end Domain
end Url
end InstanceScripts
