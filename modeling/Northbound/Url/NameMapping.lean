import Northbound.Url.Ip

/-!
# Characters that stand for others in names

In the name of a host many characters stand for others: capital letters for small ones, letters of
another width or form for the ordinary ones, ligatures and signs for the letters that they are made
of. The tables go through the code points in ascending order.
-/

namespace Northbound.Url

/-- Part 1 of 2 of the replacements. -/
def replacementsA : List (Nat × String) := [
  (0xaa, "a"), (0xb2, "2 3  μ"),
  (0xb9, "1 o  1⁄4 1⁄2 3⁄4  à á â ã ä å æ ç è é ê ë ì í î ï ð ñ ò ó ô õ ö  ø ù ú û ü ý þ"),
  (0x100, "ā  ă  ą  ć  ĉ  ċ  č  ď  đ  ē  ĕ  ė  ę  ě  ĝ  ğ  ġ  ģ  ĥ  ħ  ĩ  ī  ĭ  į  i\u0307"),
  (0x132, "ij ij ĵ  ķ   ĺ  ļ  ľ  l· l· ł  ń  ņ  ň  ʼn ŋ  ō  ŏ  ő  œ  ŕ  ŗ  ř  ś  ŝ  ş  š  ţ"),
  (0x164, "ť  ŧ  ũ  ū  ŭ  ů  ű  ų  ŵ  ŷ  ÿ ź  ż  ž  s  ɓ ƃ  ƅ  ɔ ƈ  ɖ ɗ ƌ   ǝ ə ɛ ƒ  ɠ ɣ  ɩ"),
  (0x197, "ɨ ƙ"), (0x19c, "ɯ ɲ  ɵ ơ  ƣ  ƥ  ʀ ƨ  ʃ   ƭ  ʈ ư  ʊ ʋ ƴ  ƶ  ʒ ƹ"), (0x1bc, "ƽ"),
  (0x1c4, "dž dž dž lj lj lj nj nj nj ǎ  ǐ  ǒ  ǔ  ǖ  ǘ  ǚ  ǜ   ǟ  ǡ  ǣ  ǥ  ǧ  ǩ  ǫ  ǭ  ǯ"),
  (0x1f1, "dz dz dz ǵ  ƕ ƿ ǹ  ǻ  ǽ  ǿ  ȁ  ȃ  ȅ  ȇ  ȉ  ȋ  ȍ  ȏ  ȑ  ȓ  ȕ  ȗ  ș  ț  ȝ  ȟ  ƞ  ȣ"),
  (0x224, "ȥ  ȧ  ȩ  ȫ  ȭ  ȯ  ȱ  ȳ"), (0x23a, "ⱥ ȼ  ƚ ⱦ   ɂ  ƀ ʉ ʌ ɇ  ɉ  ɋ  ɍ  ɏ"),
  (0x2b0, "h ɦ j r ɹ ɻ ʁ w y"), (0x2e0, "ɣ l s x ʕ"),
  (0x340, "\u0300 \u0301  \u0313 \u0308\u0301 ι"), (0x370, "ͱ  ͳ  ʹ  ͷ"), (0x37e, "; ϳ"),
  (0x386, "ά · έ ή ί  ό  ύ ώ  α β γ δ ε ζ η θ ι κ λ μ ν ξ ο π ρ  σ τ υ φ χ ψ ω ϊ ϋ"),
  (0x3cf, "ϗ β θ υ ύ ϋ φ π  ϙ  ϛ  ϝ  ϟ  ϡ  ϣ  ϥ  ϧ  ϩ  ϫ  ϭ  ϯ  κ ρ σ  θ ε  ϸ  σ ϻ   ͻ ͼ ͽ"),
  (0x400, "ѐ ё ђ ѓ є ѕ і ї ј љ њ ћ ќ ѝ ў џ а б в г д е ж з и й к л м н о п р с т у ф х ц ч"),
  (0x428, "ш щ ъ ы ь э ю я"), (0x460, "ѡ  ѣ  ѥ  ѧ  ѩ  ѫ  ѭ  ѯ  ѱ  ѳ  ѵ  ѷ  ѹ  ѻ  ѽ  ѿ  ҁ"),
  (0x48a, "ҋ  ҍ  ҏ  ґ  ғ  ҕ  җ  ҙ  қ  ҝ  ҟ  ҡ  ң  ҥ  ҧ  ҩ  ҫ  ҭ  ү  ұ  ҳ  ҵ  ҷ  ҹ  һ  ҽ  ҿ"),
  (0x4c0, "ӏ ӂ  ӄ  ӆ  ӈ  ӊ  ӌ  ӎ   ӑ  ӓ  ӕ  ӗ  ә  ӛ  ӝ  ӟ  ӡ  ӣ  ӥ  ӧ  ө  ӫ  ӭ  ӯ  ӱ  ӳ  ӵ"),
  (0x4f6, "ӷ  ӹ  ӻ  ӽ  ӿ  ԁ  ԃ  ԅ  ԇ  ԉ  ԋ  ԍ  ԏ  ԑ  ԓ  ԕ  ԗ  ԙ  ԛ  ԝ  ԟ  ԡ  ԣ  ԥ  ԧ  ԩ  ԫ"),
  (0x52c, "ԭ  ԯ   ա բ գ դ ե զ է ը թ ժ ի լ խ ծ կ հ ձ ղ ճ մ յ ն շ ո չ պ ջ ռ ս վ տ ր ց ւ փ ք օ"),
  (0x556, "ֆ"), (0x587, "եւ"), (0x675, "اٴ وٴ ۇٴ يٴ"),
  (0x958, "क\u093c ख\u093c ग\u093c ज\u093c ड\u093c ढ\u093c फ\u093c य\u093c"),
  (0x9dc, "ড\u09bc ঢ\u09bc  য\u09bc"), (0xa33, "ਲ\u0a3c   ਸ\u0a3c"),
  (0xa59, "ਖ\u0a3c ਗ\u0a3c ਜ\u0a3c   ਫ\u0a3c"), (0xb5c, "ଡ\u0b3c ଢ\u0b3c"), (0xe33, "\u0e4dา"),
  (0xeb3, "\u0ecdາ"), (0xedc, "ຫນ ຫມ"), (0xf0c, "་"), (0xf43, "ག\u0fb7"), (0xf4d, "ཌ\u0fb7"),
  (0xf52, "ད\u0fb7"), (0xf57, "བ\u0fb7"), (0xf5c, "ཛ\u0fb7"), (0xf69, "ཀ\u0fb5"),
  (0xf73, "\u0f71\u0f72  \u0f71\u0f74 \u0fb2\u0f80 \u0fb2\u0f71\u0f80 \u0fb3\u0f80"),
  (0xf79, "\u0fb3\u0f71\u0f80"), (0xf81, "\u0f71\u0f80"), (0xf93, "\u0f92\u0fb7"),
  (0xf9d, "\u0f9c\u0fb7"), (0xfa2, "\u0fa1\u0fb7"), (0xfa7, "\u0fa6\u0fb7"),
  (0xfac, "\u0fab\u0fb7"), (0xfb9, "\u0f90\u0fb5"),
  (0x10a0, "ⴀ ⴁ ⴂ ⴃ ⴄ ⴅ ⴆ ⴇ ⴈ ⴉ ⴊ ⴋ ⴌ ⴍ ⴎ ⴏ ⴐ ⴑ ⴒ ⴓ ⴔ ⴕ ⴖ ⴗ ⴘ ⴙ ⴚ ⴛ ⴜ ⴝ ⴞ ⴟ ⴠ ⴡ ⴢ ⴣ ⴤ ⴥ  ⴧ"),
  (0x10cd, "ⴭ"), (0x10fc, "ნ"), (0x13f8, "Ᏸ Ᏹ Ᏺ Ᏻ Ᏼ Ᏽ"), (0x1c80, "в д о с т т ъ ѣ ꙋ ᲊ"),
  (0x1c90, "ა ბ გ დ ე ვ ზ თ ი კ ლ მ ნ ო პ ჟ რ ს ტ უ ფ ქ ღ ყ შ ჩ ც ძ წ ჭ ხ ჯ ჰ ჱ ჲ ჳ ჴ ჵ ჶ ჷ"),
  (0x1cb8, "ჸ ჹ ჺ   ჽ ჾ ჿ"),
  (0x1d2c, "a æ b  d e ǝ g h i j k l m n  o ȣ p r t u w a ɐ ɑ ᴂ b d e ə ɛ ɜ g  k m ŋ o ɔ ᴖ ᴗ"),
  (0x1d56, "p t u ᴝ ɯ v ᴥ β γ δ φ χ i r u v β γ ρ φ χ"), (0x1d78, "н"),
  (0x1d9b, "ɒ c ɕ ð ɜ f ɟ ɡ ɥ ɨ ɩ ɪ ᵻ ʝ ɭ ᶅ ʟ ɱ ɰ ɲ ɳ ɴ ɵ ɸ ʂ ʃ ƫ ʉ ʊ ᴜ ʋ ʌ z ʐ ʑ ʒ θ"),
  (0x1e00, "ḁ  ḃ  ḅ  ḇ  ḉ  ḋ  ḍ  ḏ  ḑ  ḓ  ḕ  ḗ  ḙ  ḛ  ḝ  ḟ  ḡ  ḣ  ḥ  ḧ  ḩ  ḫ  ḭ  ḯ  ḱ  ḳ  ḵ"),
  (0x1e36, "ḷ  ḹ  ḻ  ḽ  ḿ  ṁ  ṃ  ṅ  ṇ  ṉ  ṋ  ṍ  ṏ  ṑ  ṓ  ṕ  ṗ  ṙ  ṛ  ṝ  ṟ  ṡ  ṣ  ṥ  ṧ  ṩ  ṫ"),
  (0x1e6c, "ṭ  ṯ  ṱ  ṳ  ṵ  ṷ  ṹ  ṻ  ṽ  ṿ  ẁ  ẃ  ẅ  ẇ  ẉ  ẋ  ẍ  ẏ  ẑ  ẓ  ẕ"),
  (0x1e9a, "aʾ ṡ   ß  ạ  ả  ấ  ầ  ẩ  ẫ  ậ  ắ  ằ  ẳ  ẵ  ặ  ẹ  ẻ  ẽ  ế  ề  ể  ễ  ệ  ỉ  ị  ọ  ỏ"),
  (0x1ed0, "ố  ồ  ổ  ỗ  ộ  ớ  ờ  ở  ỡ  ợ  ụ  ủ  ứ  ừ  ử  ữ  ự  ỳ  ỵ  ỷ  ỹ  ỻ  ỽ  ỿ"),
  (0x1f08, "ἀ ἁ ἂ ἃ ἄ ἅ ἆ ἇ"), (0x1f18, "ἐ ἑ ἒ ἓ ἔ ἕ"), (0x1f28, "ἠ ἡ ἢ ἣ ἤ ἥ ἦ ἧ"),
  (0x1f38, "ἰ ἱ ἲ ἳ ἴ ἵ ἶ ἷ"), (0x1f48, "ὀ ὁ ὂ ὃ ὄ ὅ"), (0x1f59, "ὑ  ὓ  ὕ  ὗ"),
  (0x1f68, "ὠ ὡ ὢ ὣ ὤ ὥ ὦ ὧ  ά  έ  ή  ί  ό  ύ  ώ   ἀι ἁι ἂι ἃι ἄι ἅι ἆι ἇι ἀι ἁι ἂι ἃι ἄι ἅι"),
  (0x1f8e, "ἆι ἇι ἠι ἡι ἢι ἣι ἤι ἥι ἦι ἧι ἠι ἡι ἢι ἣι ἤι ἥι ἦι ἧι ὠι ὡι ὢι ὣι ὤι ὥι ὦι ὧι ὠι"),
  (0x1fa9, "ὡι ὢι ὣι ὤι ὥι ὦι ὧι   ὰι αι άι   ᾶι ᾰ ᾱ ὰ ά αι  ι"),
  (0x1fc2, "ὴι ηι ήι   ῆι ὲ έ ὴ ή ηι"), (0x1fd3, "ΐ"), (0x1fd8, "ῐ ῑ ὶ ί"), (0x1fe3, "ΰ"),
  (0x1fe8, "ῠ ῡ ὺ ύ ῥ   `   ὼι ωι ώι   ῶι ὸ ό ὼ ώ ωι"), (0x2011, "‐"), (0x2033, "′′ ′′′  ‵‵ ‵‵‵"),
  (0x203c, "!!"), (0x2047, "?? ?! !?"), (0x2057, "′′′′"),
  (0x2070, "0 i   4 5 6 7 8 9 + − = ( ) n 0 1 2 3 4 5 6 7 8 9 + − = ( )  a e o x ə h k l m n"),
  (0x209a, "p s t"), (0x20a8, "rs"),
  (0x2100, "a/c a/s c °c  c/o c/u ɛ  °f g h h h h ħ i i l l  n no   p q r r r   sm tel tm  z"),
  (0x2126, "ω  z  k å b c  e e f ⅎ m o א ב ג ד i  fax π γ γ π ∑"), (0x2145, "d d e i j"),
  (0x2150, "1⁄7 1⁄9 1⁄10 1⁄3 2⁄3 1⁄5 2⁄5 3⁄5 4⁄5 1⁄6 5⁄6 1⁄8 3⁄8 5⁄8 7⁄8 1⁄ i ii iii iv v vi"),
  (0x2166, "vii viii ix x xi xii l c d m i ii iii iv v vi vii viii ix x xi xii l c d m"),
  (0x2183, "ↄ"), (0x2189, "0⁄3"), (0x222c, "∫∫ ∫∫∫  ∮∮ ∮∮∮"), (0x2329, "〈 〉"),
  (0x2460, "1 2 3 4 5 6 7 8 9 10 11 12 13 14 15 16 17 18 19 20 (1) (2) (3) (4) (5) (6) (7)"),
  (0x247b, "(8) (9) (10) (11) (12) (13) (14) (15) (16) (17) (18) (19) (20)"),
  (0x249c, "(a) (b) (c) (d) (e) (f) (g) (h) (i) (j) (k) (l) (m) (n) (o) (p) (q) (r) (s) (t)"),
  (0x24b0, "(u) (v) (w) (x) (y) (z) a b c d e f g h i j k l m n o p q r s t u v w x y z a b"),
  (0x24d2, "c d e f g h i j k l m n o p q r s t u v w x y z 0"), (0x2a0c, "∫∫∫∫"),
  (0x2a74, "::= == ==="), (0x2adc, "⫝\u0338"),
  (0x2c00, "ⰰ ⰱ ⰲ ⰳ ⰴ ⰵ ⰶ ⰷ ⰸ ⰹ ⰺ ⰻ ⰼ ⰽ ⰾ ⰿ ⱀ ⱁ ⱂ ⱃ ⱄ ⱅ ⱆ ⱇ ⱈ ⱉ ⱊ ⱋ ⱌ ⱍ ⱎ ⱏ ⱐ ⱑ ⱒ ⱓ ⱔ ⱕ ⱖ ⱗ"),
  (0x2c28, "ⱘ ⱙ ⱚ ⱛ ⱜ ⱝ ⱞ ⱟ"), (0x2c60, "ⱡ  ɫ ᵽ ɽ   ⱨ  ⱪ  ⱬ  ɑ ɱ ɐ ɒ  ⱳ   ⱶ"),
  (0x2c7c, "j v ȿ ɀ ⲁ  ⲃ  ⲅ  ⲇ  ⲉ  ⲋ  ⲍ  ⲏ  ⲑ  ⲓ  ⲕ  ⲗ  ⲙ  ⲛ  ⲝ  ⲟ  ⲡ  ⲣ  ⲥ  ⲧ  ⲩ  ⲫ  ⲭ  ⲯ"),
  (0x2cb0, "ⲱ  ⲳ  ⲵ  ⲷ  ⲹ  ⲻ  ⲽ  ⲿ  ⳁ  ⳃ  ⳅ  ⳇ  ⳉ  ⳋ  ⳍ  ⳏ  ⳑ  ⳓ  ⳕ  ⳗ  ⳙ  ⳛ  ⳝ  ⳟ  ⳡ  ⳣ"),
  (0x2ceb, "ⳬ  ⳮ"), (0x2cf2, "ⳳ"), (0x2d6f, "ⵡ"), (0x2e9f, "母"), (0x2ef3, "龟"),
  (0x2f00, "一 丨 丶 丿 乙 亅 二 亠 人 儿 入 八 冂 冖 冫 几 凵 刀 力 勹 匕 匚 匸 十 卜 卩 厂 厶 又 口 囗 土 士 夂 夊 夕 大 女 子 宀"),
  (0x2f28, "寸 小 尢 尸 屮 山 巛 工 己 巾 干 幺 广 廴 廾 弋 弓 彐 彡 彳 心 戈 戶 手 支 攴 文 斗 斤 方 无 日 曰 月 木 欠 止 歹 殳 毋"),
  (0x2f50, "比 毛 氏 气 水 火 爪 父 爻 爿 片 牙 牛 犬 玄 玉 瓜 瓦 甘 生 用 田 疋 疒 癶 白 皮 皿 目 矛 矢 石 示 禸 禾 穴 立 竹 米 糸"),
  (0x2f78, "缶 网 羊 羽 老 而 耒 耳 聿 肉 臣 自 至 臼 舌 舛 舟 艮 色 艸 虍 虫 血 行 衣 襾 見 角 言 谷 豆 豕 豸 貝 赤 走 足 身 車 辛"),
  (0x2fa0, "辰 辵 邑 酉 釆 里 金 長 門 阜 隶 隹 雨 靑 非 面 革 韋 韭 音 頁 風 飛 食 首 香 馬 骨 高 髟 鬥 鬯 鬲 鬼 魚 鳥 鹵 鹿 麥 麻"),
  (0x2fc8, "黃 黍 黑 黹 黽 鼎 鼓 鼠 鼻 齊 齒 龍 龜 龠"), (0x3002, "."), (0x3036, "〒  十 卄 卅"), (0x309f, "より"),
  (0x30ff, "コト"),
  (0x3131, "ᄀ ᄁ ᆪ ᄂ ᆬ ᆭ ᄃ ᄄ ᄅ ᆰ ᆱ ᆲ ᆳ ᆴ ᆵ ᄚ ᄆ ᄇ ᄈ ᄡ ᄉ ᄊ ᄋ ᄌ ᄍ ᄎ ᄏ ᄐ ᄑ ᄒ ᅡ ᅢ ᅣ ᅤ ᅥ ᅦ ᅧ ᅨ ᅩ ᅪ"),
  (0x3159, "ᅫ ᅬ ᅭ ᅮ ᅯ ᅰ ᅱ ᅲ ᅳ ᅴ ᅵ  ᄔ ᄕ ᇇ ᇈ ᇌ ᇎ ᇓ ᇗ ᇙ ᄜ ᇝ ᇟ ᄝ ᄞ ᄠ ᄢ ᄣ ᄧ ᄩ ᄫ ᄬ ᄭ ᄮ ᄯ ᄲ ᄶ ᅀ ᅇ ᅌ"),
  (0x3182, "ᇱ ᇲ ᅗ ᅘ ᅙ ᆄ ᆅ ᆈ ᆑ ᆒ ᆔ ᆞ ᆡ"), (0x3192, "一 二 三 四 上 中 下 甲 乙 丙 丁 天 地 人"),
  (0x3200, "(ᄀ) (ᄂ) (ᄃ) (ᄅ) (ᄆ) (ᄇ) (ᄉ) (ᄋ) (ᄌ) (ᄎ) (ᄏ) (ᄐ) (ᄑ) (ᄒ) (가) (나) (다) (라) (마) (바)"),
  (0x3214, "(사) (아) (자) (차) (카) (타) (파) (하) (주) (오전) (오후)  (一) (二) (三) (四) (五) (六) (七) (八)"),
  (0x3228, "(九) (十) (月) (火) (水) (木) (金) (土) (日) (株) (有) (社) (名) (特) (財) (祝) (労) (代) (呼) (学)"),
  (0x323c, "(監) (企) (資) (協) (祭) (休) (自) (至) 問 幼 文 箏"),
  (0x3250, "pte 21 22 23 24 25 26 27 28 29 30 31 32 33 34 35 ᄀ ᄂ ᄃ ᄅ ᄆ ᄇ ᄉ ᄋ ᄌ ᄎ ᄏ ᄐ ᄑ ᄒ 가 나"),
  (0x3270, "다 라 마 바 사 아 자 차 카 타 파 하 참고 주의 우  一 二 三 四 五 六 七 八 九 十 月 火 水 木 金 土 日 株 有 社 名 特 財 祝"),
  (0x3298, "労 秘 男 女 適 優 印 注 項 休 写 正 上 中 下 左 右 医 宗 学 監 企 資 協 夜 36 37 38 39 40 41 42 43 44 45"),
  (0x32bb, "46 47 48 49 50 1月 2月 3月 4月 5月 6月 7月 8月 9月 10月 11月 12月 hg erg ev ltd ア イ ウ エ オ カ"),
  (0x32d6, "キ ク ケ コ サ シ ス セ ソ タ チ ツ テ ト ナ ニ ヌ ネ ノ ハ ヒ フ ヘ ホ マ ミ ム メ モ ヤ ユ ヨ ラ リ ル レ ロ ワ ヰ ヱ"),
  (0x32fe, "ヲ 令和 アパート アルファ アンペア アール イニング インチ ウォン エスクード エーカー オンス オーム カイリ カラット カロリー ガロン ガンマ ギガ"),
  (0x3311, "ギニー キュリー ギルダー キロ キログラム キロメートル キロワット グラム グラムトン クルゼイロ クローネ ケース コルナ コーポ サイクル サンチーム"),
  (0x3321, "シリング センチ セント ダース デシ ドル トン ナノ ノット ハイツ パーセント パーツ バーレル ピアストル ピクル ピコ ビル ファラッド フィート"),
  (0x3334, "ブッシェル フラン ヘクタール ペソ ペニヒ ヘルツ ペンス ページ ベータ ポイント ボルト ホン ポンド ホール ホーン マイクロ マイル マッハ マルク"),
  (0x3347, "マンション ミクロン ミリ ミリバール メガ メガトン メートル ヤード ヤール ユアン リットル リラ ルピー ルーブル レム レントゲン ワット 0点 1点"),
  (0x335a, "2点 3点 4点 5点 6点 7点 8点 9点 10点 11点 12点 13点 14点 15点 16点 17点 18点 19点 20点 21点 22点 23点"),
  (0x3370, "24点 hpa da au bar ov pc dm dm2 dm3 iu 平成 昭和 大正 明治 株式会社 pa na μa ma ka kb mb gb"),
  (0x3388, "cal kcal pf nf μf μg mg kg hz khz mhz ghz thz μl ml dl kl fm nm μm mm cm km mm2"),
  (0x33a0, "cm2 m2 km2 mm3 cm3 m3 km3 m∕s m∕s2 pa kpa mpa gpa rad rad∕s rad∕s2 ps ns μs ms"),
  (0x33b4, "pv nv μv mv kv mv pw nw μw mw kw mw kω mω  bq cc cd c∕kg  db gy ha hp in kk km"),
  (0x33cf, "kt lm ln log lx mb mil mol ph  ppm pr sr sv wb v∕m a∕m 1日 2日 3日 4日 5日 6日 7日 8日"),
  (0x33e8, "9日 10日 11日 12日 13日 14日 15日 16日 17日 18日 19日 20日 21日 22日 23日 24日 25日 26日 27日 28日"),
  (0x33fc, "29日 30日 31日 gal"),
  (0xa640, "ꙁ  ꙃ  ꙅ  ꙇ  ꙉ  ꙋ  ꙍ  ꙏ  ꙑ  ꙓ  ꙕ  ꙗ  ꙙ  ꙛ  ꙝ  ꙟ  ꙡ  ꙣ  ꙥ  ꙧ  ꙩ  ꙫ  ꙭ"),
  (0xa680, "ꚁ  ꚃ  ꚅ  ꚇ  ꚉ  ꚋ  ꚍ  ꚏ  ꚑ  ꚓ  ꚕ  ꚗ  ꚙ  ꚛ  ъ ь"), (0xa722, "ꜣ  ꜥ  ꜧ  ꜩ  ꜫ  ꜭ  ꜯ"),
  (0xa732, "ꜳ  ꜵ  ꜷ  ꜹ  ꜻ  ꜽ  ꜿ  ꝁ  ꝃ  ꝅ  ꝇ  ꝉ  ꝋ  ꝍ  ꝏ  ꝑ  ꝓ  ꝕ  ꝗ  ꝙ  ꝛ  ꝝ  ꝟ  ꝡ  ꝣ  ꝥ  ꝧ"),
  (0xa768, "ꝩ  ꝫ  ꝭ  ꝯ  ꝯ"), (0xa779, "ꝺ  ꝼ  ᵹ ꝿ  ꞁ  ꞃ  ꞅ  ꞇ"), (0xa78b, "ꞌ  ɥ   ꞑ  ꞓ"),
  (0xa796, "ꞗ  ꞙ  ꞛ  ꞝ  ꞟ  ꞡ  ꞣ  ꞥ  ꞧ  ꞩ  ɦ ɜ ɡ ɬ ɪ  ʞ ʇ ʝ ꭓ ꞵ  ꞷ  ꞹ  ꞻ  ꞽ  ꞿ  ꟁ  ꟃ  ꞔ ʂ ᶎ ꟈ"),
  (0xa7c9, "ꟊ  ɤ ꟍ  ꟏  ꟑ  ꟓ  ꟕ  ꟗ  ꟙ  ꟛ  ƛ"), (0xa7f1, "s c f q ꟶ   ħ œ"), (0xab5c, "ꜧ ꬷ ɫ ꭒ"),
  (0xab69, "ʍ"),
  (0xab70, "Ꭰ Ꭱ Ꭲ Ꭳ Ꭴ Ꭵ Ꭶ Ꭷ Ꭸ Ꭹ Ꭺ Ꭻ Ꭼ Ꭽ Ꭾ Ꭿ Ꮀ Ꮁ Ꮂ Ꮃ Ꮄ Ꮅ Ꮆ Ꮇ Ꮈ Ꮉ Ꮊ Ꮋ Ꮌ Ꮍ Ꮎ Ꮏ Ꮐ Ꮑ Ꮒ Ꮓ Ꮔ Ꮕ Ꮖ Ꮗ"),
  (0xab98, "Ꮘ Ꮙ Ꮚ Ꮛ Ꮜ Ꮝ Ꮞ Ꮟ Ꮠ Ꮡ Ꮢ Ꮣ Ꮤ Ꮥ Ꮦ Ꮧ Ꮨ Ꮩ Ꮪ Ꮫ Ꮬ Ꮭ Ꮮ Ꮯ Ꮰ Ꮱ Ꮲ Ꮳ Ꮴ Ꮵ Ꮶ Ꮷ Ꮸ Ꮹ Ꮺ Ꮻ Ꮼ Ꮽ Ꮾ Ꮿ"),
  (0xf900, "豈 更 車 賈 滑 串 句 龜 龜 契 金 喇 奈 懶 癩 羅 蘿 螺 裸 邏 樂 洛 烙 珞 落 酪 駱 亂 卵 欄 爛 蘭 鸞 嵐 濫 藍 襤 拉 臘 蠟")]

/-- Part 2 of 2 of the replacements. -/
def replacementsB : List (Nat × String) := [
  (0xf928, "廊 朗 浪 狼 郎 來 冷 勞 擄 櫓 爐 盧 老 蘆 虜 路 露 魯 鷺 碌 祿 綠 菉 錄 鹿 論 壟 弄 籠 聾 牢 磊 賂 雷 壘 屢 樓 淚 漏 累"),
  (0xf950, "縷 陋 勒 肋 凜 凌 稜 綾 菱 陵 讀 拏 樂 諾 丹 寧 怒 率 異 北 磻 便 復 不 泌 數 索 參 塞 省 葉 說 殺 辰 沈 拾 若 掠 略 亮"),
  (0xf978, "兩 凉 梁 糧 良 諒 量 勵 呂 女 廬 旅 濾 礪 閭 驪 麗 黎 力 曆 歷 轢 年 憐 戀 撚 漣 煉 璉 秊 練 聯 輦 蓮 連 鍊 列 劣 咽 烈"),
  (0xf9a0, "裂 說 廉 念 捻 殮 簾 獵 令 囹 寧 嶺 怜 玲 瑩 羚 聆 鈴 零 靈 領 例 禮 醴 隸 惡 了 僚 寮 尿 料 樂 燎 療 蓼 遼 龍 暈 阮 劉"),
  (0xf9c8, "杻 柳 流 溜 琉 留 硫 紐 類 六 戮 陸 倫 崙 淪 輪 律 慄 栗 率 隆 利 吏 履 易 李 梨 泥 理 痢 罹 裏 裡 里 離 匿 溺 吝 燐 璘"),
  (0xf9f0, "藺 隣 鱗 麟 林 淋 臨 立 笠 粒 狀 炙 識 什 茶 刺 切 度 拓 糖 宅 洞 暴 輻 行 降 見 廓 兀 嗀   塚  晴   凞 猪 益 礼 神 祥"),
  (0xfa1b, "福 靖 精 羽  蘒  諸   逸 都"),
  (0xfa2a, "飯 飼 館 鶴 郞 隷 侮 僧 免 勉 勤 卑 喝 嘆 器 塀 墨 層 屮 悔 慨 憎 懲 敏 既 暑 梅 海 渚 漢 煮 爫 琢 碑 社 祉 祈 祐 祖 祝"),
  (0xfa52, "禍 禎 穀 突 節 練 縉 繁 署 者 臭 艹 艹 著 褐 視 謁 謹 賓 贈 辶 逸 難 響 頻 恵 𤋮 舘   並 况 全 侀 充 冀 勇 勺 喝 啕 喙"),
  (0xfa7b, "嗢 塚 墳 奄 奔 婢 嬨 廒 廙 彩 徭 惘 慎 愈 憎 慠 懲 戴 揄 搜 摒 敖 晴 朗 望 杖 歹 殺 流 滛 滋 漢 瀞 煮 瞧 爵 犯 猪 瑱 甆"),
  (0xfaa3, "画 瘝 瘟 益 盛 直 睊 着 磌 窱 節 类 絛 練 缾 者 荒 華 蝹 襁 覆 視 調 諸 請 謁 諾 諭 謹 變 贈 輸 遲 醙 鉶 陼 難 靖 韛 響"),
  (0xfacb, "頋 頻 鬒 龜 𢡊 𢡄 𣏕 㮝 䀘 䀹 𥉉 𥳐 𧻓 齃 龎"), (0xfb00, "ff fi fl ffi ffl st st"),
  (0xfb13, "մն մե մի վն մխ"),
  (0xfb1d, "י\u05b4  ײ\u05b7 ע א ד ה כ ל ם ר ת + ש\u05c1 ש\u05c2 ש\u05bc\u05c1 ש\u05bc\u05c2"),
  (0xfb2e, "א\u05b7 א\u05b8 א\u05bc ב\u05bc ג\u05bc ד\u05bc ה\u05bc ו\u05bc ז\u05bc  ט\u05bc"),
  (0xfb39, "י\u05bc ך\u05bc כ\u05bc ל\u05bc  מ\u05bc  נ\u05bc ס\u05bc  ף\u05bc פ\u05bc"),
  (0xfb46, "צ\u05bc ק\u05bc ר\u05bc ש\u05bc ת\u05bc ו\u05b9 ב\u05bf כ\u05bf פ\u05bf אל ٱ ٱ ٻ"),
  (0xfb53, "ٻ ٻ ٻ پ پ پ پ ڀ ڀ ڀ ڀ ٺ ٺ ٺ ٺ ٿ ٿ ٿ ٿ ٹ ٹ ٹ ٹ ڤ ڤ ڤ ڤ ڦ ڦ ڦ ڦ ڄ ڄ ڄ ڄ ڃ ڃ ڃ ڃ چ"),
  (0xfb7b, "چ چ چ ڇ ڇ ڇ ڇ ڍ ڍ ڌ ڌ ڎ ڎ ڈ ڈ ژ ژ ڑ ڑ ک ک ک ک گ گ گ گ ڳ ڳ ڳ ڳ ڱ ڱ ڱ ڱ ں ں ڻ ڻ ڻ"),
  (0xfba3, "ڻ ۀ ۀ ہ ہ ہ ہ ھ ھ ھ ھ ے ے ۓ ۓ"),
  (0xfbd3, "ڭ ڭ ڭ ڭ ۇ ۇ ۆ ۆ ۈ ۈ ۇٴ ۋ ۋ ۅ ۅ ۉ ۉ ې ې ې ې ى ى ئا ئا ئە ئە ئو ئو ئۇ ئۇ ئۆ ئۆ ئۈ"),
  (0xfbf5, "ئۈ ئې ئې ئې ئى ئى ئى ی ی ی ی ئج ئح ئم ئى ئي بج بح بخ بم بى بي تج تح تخ تم تى تي"),
  (0xfc11, "ثج ثم ثى ثي جح جم حج حم خج خح خم سج سح سخ سم صح صم ضج ضح ضخ ضم طح طم ظم عج عم غج"),
  (0xfc2c, "غم فج فح فخ فم فى في قح قم قى قي كا كج كح كخ كل كم كى كي لج لح لخ لم لى لي مج مح"),
  (0xfc47, "مخ مم مى مي نج نح نخ نم نى ني هج هم هى هي يج يح يخ يم يى يي ذ\u0670 ر\u0670"),
  (0xfc5d, "ى\u0670"),
  (0xfc64, "ئر ئز ئم ئن ئى ئي بر بز بم بن بى بي تر تز تم تن تى تي ثر ثز ثم ثن ثى ثي فى في قى"),
  (0xfc7f, "قي كا كل كم كى كي لم لى لي ما مم نر نز نم نن نى ني ى\u0670 ير يز يم ين يى يي ئج"),
  (0xfc98, "ئح ئخ ئم ئه بج بح بخ بم به تج تح تخ تم ته ثم جح جم حج حم خج خم سج سح سخ سم صح صخ"),
  (0xfcb3, "صم ضج ضح ضخ ضم طح ظم عج عم غج غم فج فح فخ فم قح قم كج كح كخ كل كم لج لح لخ لم له"),
  (0xfcce, "مج مح مخ مم نج نح نخ نم نه هج هم ه\u0670 يج يح يخ يم يه ئم ئه بم به تم ته ثم ثه"),
  (0xfce7, "سم سه شم شه كل كم لم نم نه يم يه ـ\u064e\u0651 ـ\u064f\u0651 ـ\u0650\u0651 طى طي"),
  (0xfcf7, "عى عي غى غي سى سي شى شي حى حي جى جي خى خي صى صي ضى ضي شج شح شخ شم شر سر صر ضر طى"),
  (0xfd12, "طي عى عي غى غي سى سي شى شي حى حي جى جي خى خي صى صي ضى ضي شج شح شخ شم شر سر صر ضر"),
  (0xfd2d, "شج شح شخ شم سه شه طم سج سح سخ شج شح شخ طم ظم ا\u064b ا\u064b"),
  (0xfd50, "تجم تحج تحج تحم تخم تمج تمح تمخ جمح جمح حمي حمى سحج سجح سجى سمح سمح سمج سمم سمم"),
  (0xfd64, "صحح صحح صمم شحم شحم شجي شمخ شمخ شمم شمم ضحى ضخم ضخم طمح طمح طمم طمي عجم عمم عمم"),
  (0xfd78, "عمى غمم غمي غمى فخم فخم قمح قمم لحم لحي لحى لجج لجج لخم لخم لمح لمح محج محم محي"),
  (0xfd8c, "مجح مجم مخج مخم   مجخ همج همم نحم نحى نجم نجم نجى نمي نمى يمم يمم بخي تجي تجى"),
  (0xfda1, "تخي تخى تمي تمى جمي جحى جمى سخى صحي شحي ضحي لجي لمي يحي يجي يمي ممي قمي نحي قمح"),
  (0xfdb5, "لحم عمي كمي نجح مخي لجم كمم لجم نجح جحي حجي مجي فمي بحي كمم عجم صمم سخي نجي"),
  (0xfdf0, "صلے قلے الله اكبر محمد صلعم رسول عليه وسلم صلى   ریال"), (0xfe10, ", 、  : ; ! ? 〖 〗"),
  (0xfe31, "— – _ _ ( ) \x7b \x7d 〔 〕 【 】 《 》 〈 〉 「 」 『 』   [ ]"),
  (0xfe4d, "_ _ _ , 、   ; : ? ! — ( ) \x7b \x7d 〔 〕 # & * + - < > =  \\ $ % @"),
  (0xfe71, "ـ\u064b"),
  (0xfe77, "ـ\u064e  ـ\u064f  ـ\u0650  ـ\u0651  ـ\u0652 ء آ آ أ أ ؤ ؤ إ إ ئ ئ ئ ئ ا ا ب ب ب"),
  (0xfe92, "ب ة ة ت ت ت ت ث ث ث ث ج ج ج ج ح ح ح ح خ خ خ خ د د ذ ذ ر ر ز ز س س س س ش ش ش ش ص"),
  (0xfeba, "ص ص ص ض ض ض ض ط ط ط ط ظ ظ ظ ظ ع ع ع ع غ غ غ غ ف ف ف ف ق ق ق ق ك ك ك ك ل ل ل ل م"),
  (0xfee2, "م م م ن ن ن ن ه ه ه ه و و ى ى ي ي ي ي لآ لآ لأ لأ لإ لإ لا لا"),
  (0xff01, "! \" # $ % & ' ( ) * + , - . / 0 1 2 3 4 5 6 7 8 9 : ; < = > ? @ a b c d e f g h"),
  (0xff29, "i j k l m n o p q r s t u v w x y z [ \\ ] ^ _ ` a b c d e f g h i j k l m n o p"),
  (0xff51, "q r s t u v w x y z \x7b | \x7d ~ ⦅ ⦆ . 「 」 、 ・ ヲ ァ ィ ゥ ェ ォ ャ ュ ョ ッ ー ア イ ウ エ オ"),
  (0xff76, "カ キ ク ケ コ サ シ ス セ ソ タ チ ツ テ ト ナ ニ ヌ ネ ノ ハ ヒ フ ヘ ホ マ ミ ム メ モ ヤ ユ ヨ ラ リ ル レ ロ ワ ン"),
  (0xff9e, "\u3099 \u309a  ᄀ ᄁ ᆪ ᄂ ᆬ ᆭ ᄃ ᄄ ᄅ ᆰ ᆱ ᆲ ᆳ ᆴ ᆵ ᄚ ᄆ ᄇ ᄈ ᄡ ᄉ ᄊ ᄋ ᄌ ᄍ ᄎ ᄏ ᄐ ᄑ ᄒ"),
  (0xffc2, "ᅡ ᅢ ᅣ ᅤ ᅥ ᅦ   ᅧ ᅨ ᅩ ᅪ ᅫ ᅬ   ᅭ ᅮ ᅯ ᅰ ᅱ ᅲ   ᅳ ᅴ ᅵ"),
  (0xffe0, "¢ £ ¬  ¦ ¥ ₩  │ ← ↑ → ↓ ■ ○"),
  (0x10400, "𐐨 𐐩 𐐪 𐐫 𐐬 𐐭 𐐮 𐐯 𐐰 𐐱 𐐲 𐐳 𐐴 𐐵 𐐶 𐐷 𐐸 𐐹 𐐺 𐐻 𐐼 𐐽 𐐾 𐐿 𐑀 𐑁 𐑂 𐑃 𐑄 𐑅 𐑆 𐑇 𐑈 𐑉 𐑊 𐑋 𐑌 𐑍 𐑎 𐑏"),
  (0x104b0, "𐓘 𐓙 𐓚 𐓛 𐓜 𐓝 𐓞 𐓟 𐓠 𐓡 𐓢 𐓣 𐓤 𐓥 𐓦 𐓧 𐓨 𐓩 𐓪 𐓫 𐓬 𐓭 𐓮 𐓯 𐓰 𐓱 𐓲 𐓳 𐓴 𐓵 𐓶 𐓷 𐓸 𐓹 𐓺 𐓻"),
  (0x10570, "𐖗 𐖘 𐖙 𐖚 𐖛 𐖜 𐖝 𐖞 𐖟 𐖠 𐖡  𐖣 𐖤 𐖥 𐖦 𐖧 𐖨 𐖩 𐖪 𐖫 𐖬 𐖭 𐖮 𐖯 𐖰 𐖱  𐖳 𐖴 𐖵 𐖶 𐖷 𐖸 𐖹  𐖻 𐖼"),
  (0x10781, "ː ˑ æ ʙ ɓ  ʣ ꭦ ʥ ʤ ɖ ɗ ᶑ ɘ ɞ ʩ ɤ ɢ ɠ ʛ ħ ʜ ɧ ʄ ʪ ʫ ɬ 𝼄 ꞎ ɮ 𝼅 ʎ 𝼆 ø ɶ ɷ q ɺ 𝼈 ɽ ɾ"),
  (0x107aa, "ʀ ʨ ʦ ꭧ ʧ ʈ ⱱ  ʏ ʡ ʢ ʘ ǀ ǁ ǂ 𝼊 𝼞"),
  (0x10c80, "𐳀 𐳁 𐳂 𐳃 𐳄 𐳅 𐳆 𐳇 𐳈 𐳉 𐳊 𐳋 𐳌 𐳍 𐳎 𐳏 𐳐 𐳑 𐳒 𐳓 𐳔 𐳕 𐳖 𐳗 𐳘 𐳙 𐳚 𐳛 𐳜 𐳝 𐳞 𐳟 𐳠 𐳡 𐳢 𐳣 𐳤 𐳥 𐳦 𐳧"),
  (0x10ca8, "𐳨 𐳩 𐳪 𐳫 𐳬 𐳭 𐳮 𐳯 𐳰 𐳱 𐳲"), (0x10d50, "𐵰 𐵱 𐵲 𐵳 𐵴 𐵵 𐵶 𐵷 𐵸 𐵹 𐵺 𐵻 𐵼 𐵽 𐵾 𐵿 𐶀 𐶁 𐶂 𐶃 𐶄 𐶅"),
  (0x118a0, "𑣀 𑣁 𑣂 𑣃 𑣄 𑣅 𑣆 𑣇 𑣈 𑣉 𑣊 𑣋 𑣌 𑣍 𑣎 𑣏 𑣐 𑣑 𑣒 𑣓 𑣔 𑣕 𑣖 𑣗 𑣘 𑣙 𑣚 𑣛 𑣜 𑣝 𑣞 𑣟"),
  (0x16e40, "𖹠 𖹡 𖹢 𖹣 𖹤 𖹥 𖹦 𖹧 𖹨 𖹩 𖹪 𖹫 𖹬 𖹭 𖹮 𖹯 𖹰 𖹱 𖹲 𖹳 𖹴 𖹵 𖹶 𖹷 𖹸 𖹹 𖹺 𖹻 𖹼 𖹽 𖹾 𖹿"),
  (0x16ea0, "𖺻 𖺼 𖺽 𖺾 𖺿 𖻀 𖻁 𖻂 𖻃 𖻄 𖻅 𖻆 𖻇 𖻈 𖻉 𖻊 𖻋 𖻌 𖻍 𖻎 𖻏 𖻐 𖻑 𖻒 𖻓"),
  (0x1ccd6, "a b c d e f g h i j k l m n o p q r s t u v w x y z 0 1 2 3 4 5 6 7 8 9"),
  (0x1d15e, "𝅗𝅥 𝅘𝅥 𝅘𝅥𝅮 𝅘𝅥𝅯 𝅘𝅥𝅰 𝅘𝅥𝅱 𝅘𝅥𝅲"), (0x1d1bb, "𝆹𝅥 𝆺𝅥 𝆹𝅥𝅮 𝆺𝅥𝅮 𝆹𝅥𝅯 𝆺𝅥𝅯"),
  (0x1d400, "a b c d e f g h i j k l m n o p q r s t u v w x y z a b c d e f g h i j k l m n"),
  (0x1d428, "o p q r s t u v w x y z a b c d e f g h i j k l m n o p q r s t u v w x y z a b"),
  (0x1d450, "c d e f g  i j k l m n o p q r s t u v w x y z a b c d e f g h i j k l m n o p q"),
  (0x1d479, "r s t u v w x y z a b c d e f g h i j k l m n o p q r s t u v w x y z a  c d   g"),
  (0x1d4a5, "j k   n o p q  s t u v w x y z a b c d  f  h i j k l m n  p q r s t u v w x y z"),
  (0x1d4d0, "a b c d e f g h i j k l m n o p q r s t u v w x y z a b c d e f g h i j k l m n"),
  (0x1d4f8, "o p q r s t u v w x y z a b  d e f g   j k l m n o p q  s t u v w x y  a b c d e"),
  (0x1d523, "f g h i j k l m n o p q r s t u v w x y z a b  d e f g  i j k l m  o"),
  (0x1d54a, "s t u v w x y  a b c d e f g h i j k l m n o p q r s t u v w x y z a b c d e f g"),
  (0x1d573, "h i j k l m n o p q r s t u v w x y z a b c d e f g h i j k l m n o p q r s t u"),
  (0x1d59b, "v w x y z a b c d e f g h i j k l m n o p q r s t u v w x y z a b c d e f g h i"),
  (0x1d5c3, "j k l m n o p q r s t u v w x y z a b c d e f g h i j k l m n o p q r s t u v w"),
  (0x1d5eb, "x y z a b c d e f g h i j k l m n o p q r s t u v w x y z a b c d e f g h i j k"),
  (0x1d613, "l m n o p q r s t u v w x y z a b c d e f g h i j k l m n o p q r s t u v w x y"),
  (0x1d63b, "z a b c d e f g h i j k l m n o p q r s t u v w x y z a b c d e f g h i j k l m"),
  (0x1d663, "n o p q r s t u v w x y z a b c d e f g h i j k l m n o p q r s t u v w x y z a"),
  (0x1d68b, "b c d e f g h i j k l m n o p q r s t u v w x y z ı ȷ   α β γ δ ε ζ η θ ι κ λ μ"),
  (0x1d6b4, "ν ξ ο π ρ θ σ τ υ φ χ ψ ω ∇ α β γ δ ε ζ η θ ι κ λ μ ν ξ ο π ρ σ σ τ υ φ χ ψ ω ∂"),
  (0x1d6dc, "ε θ κ φ ρ π α β γ δ ε ζ η θ ι κ λ μ ν ξ ο π ρ θ σ τ υ φ χ ψ ω ∇ α β γ δ ε ζ η θ"),
  (0x1d704, "ι κ λ μ ν ξ ο π ρ σ σ τ υ φ χ ψ ω ∂ ε θ κ φ ρ π α β γ δ ε ζ η θ ι κ λ μ ν ξ ο π"),
  (0x1d72c, "ρ θ σ τ υ φ χ ψ ω ∇ α β γ δ ε ζ η θ ι κ λ μ ν ξ ο π ρ σ σ τ υ φ χ ψ ω ∂ ε θ κ φ"),
  (0x1d754, "ρ π α β γ δ ε ζ η θ ι κ λ μ ν ξ ο π ρ θ σ τ υ φ χ ψ ω ∇ α β γ δ ε ζ η θ ι κ λ μ"),
  (0x1d77c, "ν ξ ο π ρ σ σ τ υ φ χ ψ ω ∂ ε θ κ φ ρ π α β γ δ ε ζ η θ ι κ λ μ ν ξ ο π ρ θ σ τ"),
  (0x1d7a4, "υ φ χ ψ ω ∇ α β γ δ ε ζ η θ ι κ λ μ ν ξ ο π ρ σ σ τ υ φ χ ψ ω ∂ ε θ κ φ ρ π ϝ ϝ"),
  (0x1d7ce, "0 1 2 3 4 5 6 7 8 9 0 1 2 3 4 5 6 7 8 9 0 1 2 3 4 5 6 7 8 9 0 1 2 3 4 5 6 7 8 9"),
  (0x1d7f6, "0 1 2 3 4 5 6 7 8 9"),
  (0x1e030, "а б в г д е ж з и к л м о п р с т у ф х ц ч ш ы э ю ꚉ ә і ј ө ү ӏ а б в г д е ж"),
  (0x1e058, "з и к л о п с у ф х ц ч ш ъ ы ґ і ѕ џ ҫ ꙑ ұ"),
  (0x1e900, "𞤢 𞤣 𞤤 𞤥 𞤦 𞤧 𞤨 𞤩 𞤪 𞤫 𞤬 𞤭 𞤮 𞤯 𞤰 𞤱 𞤲 𞤳 𞤴 𞤵 𞤶 𞤷 𞤸 𞤹 𞤺 𞤻 𞤼 𞤽 𞤾 𞤿 𞥀 𞥁 𞥂 𞥃"),
  (0x1ee00, "ا ب ج د  و ز ح ط ي ك ل م ن س ع ف ص ق ر ش ت ث خ ذ ض ظ غ ٮ ں ڡ ٯ  ب ج  ه   ح  ي ك"),
  (0x1ee2b, "ل م ن س ع ف ص ق  ش ت ث خ  ض  غ"), (0x1ee42, "ج"),
  (0x1ee47, "ح  ي  ل  ن س ع  ص ق  ش   خ  ض  غ  ں  ٯ  ب ج  ه   ح ط ي ك  م ن س ع ف ص ق  ش ت ث خ"),
  (0x1ee79, "ض ظ غ ٮ  ڡ  ا ب ج د ه و ز ح ط ي  ل م ن س ع ف ص ق ر ش ت ث خ ذ ض ظ غ"),
  (0x1eea1, "ب ج د  و ز ح ط ي  ل م ن س ع ف ص ق ر ش ت ث خ ذ ض ظ غ"),
  (0x1f101, "0, 1, 2, 3, 4, 5, 6, 7, 8, 9,"),
  (0x1f110, "(a) (b) (c) (d) (e) (f) (g) (h) (i) (j) (k) (l) (m) (n) (o) (p) (q) (r) (s) (t)"),
  (0x1f124, "(u) (v) (w) (x) (y) (z) 〔s〕 c r cd wz  a b c d e f g h i j k l m n o p q r s t u"),
  (0x1f145, "v w x y z hv mv sd ss ppv wc"), (0x1f16a, "mc md mr"), (0x1f190, "dj"),
  (0x1f200, "ほか ココ サ"),
  (0x1f210, "手 字 双 デ 二 多 解 天 交 映 無 料 前 後 再 新 初 終 生 販 声 吹 演 投 捕 一 三 遊 左 中 右 指 走 打 禁 空 合 満 有 月"),
  (0x1f238, "申 割 営 配"), (0x1f240, "〔本〕 〔三〕 〔二〕 〔安〕 〔点〕 〔打〕 〔盗〕 〔勝〕 〔敗〕"), (0x1f250, "得 可"),
  (0x1fbf0, "0 1 2 3 4 5 6 7 8 9"),
  (0x2f800, "丽 丸 乁 𠄢 你 侮 侻 倂 偺 備 僧 像 㒞 𠘺 免 兔 兤 具 𠔜 㒹 內 再 𠕋 冗 冤 仌 冬 况 𩇟 凵 刃 㓟 刻 剆 割 剷 㔕 勇 勉 勤"),
  (0x2f828, "勺 包 匆 北 卉 卑 博 即 卽 卿 卿 卿 𠨬 灰 及 叟 𠭣 叫 叱 吆 咞 吸 呈 周 咢 哶 唐 啓 啣 善 善 喙 喫 喳 嗂 圖 嘆 圗 噑 噴"),
  (0x2f850, "切 壮 城 埴 堍 型 堲 報 墬 𡓤 売 壷 夆 多 夢 奢 𡚨 𡛪 姬 娛 娧 姘 婦 㛮 㛼 嬈 嬾 嬾 𡧈 寃 寘 寧 寳 𡬘 寿 将 当 尢 㞁 屠"),
  (0x2f878, "屮 峀 岍 𡷤 嵃 𡷦 嵮 嵫 嵼 巡 巢 㠯 巽 帨 帽 幩 㡢 𢆃 㡼 庰 庳 庶 廊 𪎒 廾 𢌱 𢌱 舁 弢 弢 㣇 𣊸 𦇚 形 彫 㣣 徚 忍 志 忹"),
  (0x2f8a0, "悁 㤺 㤜 悔 𢛔 惇 慈 慌 慎 慌 慺 憎 憲 憤 憯 懞 懲 懶 成 戛 扝 抱 拔 捐 𢬌 挽 拼 捨 掃 揤 𢯱 搢 揅 掩 㨮 摩 摾 撝 摷 㩬"),
  (0x2f8c8, "敏 敬 𣀊 旣 書 晉 㬙 暑 㬈 㫤 冒 冕 最 暜 肭 䏙 朗 望 朡 杞 杓 𣏃 㭉 柺 枅 桒 梅 𣑭 梎 栟 椔 㮝 楂 榣 槪 檨 𣚣 櫛 㰘 次"),
  (0x2f8f0, "𣢧 歔 㱎 歲 殟 殺 殻 𣪍 𡴋 𣫺 汎 𣲼 沿 泍 汧 洖 派 海 流 浩 浸 涅 𣴞 洴 港 湮 㴳 滋 滇 𣻑 淹 潮 𣽞 𣾎 濆 瀹 瀞 瀛 㶖 灊"),
  (0x2f918, "災 灷 炭 𠔥 煅 𤉣 熜 𤎫 爨 爵 牐 𤘈 犀 犕 𤜵 𤠔 獺 王 㺬 玥 㺸 㺸 瑇 瑜 瑱 璅 瓊 㼛 甤 𤰶 甾 𤲒 異 𢆟 瘐 𤾡 𤾸 𥁄 㿼 䀈"),
  (0x2f940, "直 𥃳 𥃲 𥄙 𥄳 眞 真 真 睊 䀹 瞋 䁆 䂖 𥐝 硎 碌 磌 䃣 𥘦 祖 𥚚 𥛅 福 秫 䄯 穀 穊 穏 𥥼 𥪧 𥪧 竮 䈂 𥮫 篆 築 䈧 𥲀 糒 䊠"),
  (0x2f968, "糨 糣 紀 𥾆 絣 䌁 緇 縂 繅 䌴 𦈨 𦉇 䍙 𦋙 罺 𦌾 羕 翺 者 𦓚 𦔣 聠 𦖨 聰 𣍟 䏕 育 脃 䐋 脾 媵 𦞧 𦞵 𣎓 𣎜 舁 舄 辞 䑫 芑"),
  (0x2f990, "芋 芝 劳 花 芳 芽 苦 𦬼 若 茝 荣 莭 茣 莽 菧 著 荓 菊 菌 菜 𦰶 𦵫 𦳕 䔫 蓱 蓳 蔖 𧏊 蕤 𦼬 䕝 䕡 𦾱 𧃒 䕫 虐 虜 虧 虩 蚩"),
  (0x2f9b8, "蚈 蜎 蛢 蝹 蜨 蝫 螆 䗗 蟡 蠁 䗹 衠 衣 𧙧 裗 裞 䘵 裺 㒻 𧢮 𧥦 䚾 䛇 誠 諭 變 豕 𧲨 貫 賁 贛 起 𧼯 𠠄 跋 趼 跰 𠣞 軔 輸"),
  (0x2f9e0, "𨗒 𨗭 邔 郱 鄑 𨜮 鄛 鈸 鋗 鋘 鉼 鏹 鐕 𨯺 開 䦕 閷 𨵷 䧦 雃 嶲 霣 𩅅 𩈚 䩮 䩶 韠 𩐊 䪲 𩒖 頋 頋 頩 𩖶 飢 䬳 餩 馧 駂 駾"),
  (0x2fa08, "䯎 𩬰 鬒 鱀 鳽 䳎 䳭 鵧 𪃎 䳸 𪄅 𪈎 𪊑 麻 䵖 黹 黾 鼅 鼏 鼖 鼻 𪘀")]

/-- What characters outside ASCII stand for: runs of code points, each with its first code point
and what it and those behind it stand for, with blanks in between. Where that is empty, a character
stands for itself. -/
def replacementRuns : List (Nat × String) :=
  replacementsA ++ replacementsB

/-- What a character outside ASCII stands for, unless it stands for itself. -/
def replacement? (c : Char) : Option (List Char) := do
  let (first, texts) ← (replacementRuns.takeWhile fun run => run.1 ≤ c.toNat).getLast?
  let text ← (splitAtChar ' ' texts.toList)[c.toNat - first]?
  if text.isEmpty then none else some text

end Northbound.Url
