/-
How the characters of a host name are read.

A host name is written in many ways: with large letters, in wide or in raised ones, with
ligatures.  Each character stands for the small and plain ones it reads as.  Some stand for
nothing, and those that do not show or that read as marks of a URL are refused.
-/
import PoolRewards.Text.Hollow

namespace PoolRewards.HostName

open Text (inRanges isHollow)

/-- What characters stand for, from a first code on and each so many codes further. -/
def readings : List (Nat × Nat × String) :=
  [(0xaa, 1, "a"),
   (0xb2, 1, "2 3"),
   (0xb5, 1, "μ"),
   (0xb9, 1, "1 o"),
   (0xbc, 1, "1⁄4 1⁄2 3⁄4"),
   (0xc0, 1, "à á â ã ä å æ ç è é ê ë ì í î ï ð ñ ò ó ô õ ö"),
   (0xd8, 1, "ø ù ú û ü ý þ"),
   (0x100, 2, "ā ă ą ć ĉ ċ č ď đ ē ĕ ė ę ě ĝ ğ ġ ģ ĥ ħ ĩ ī ĭ į i̇ ij ĵ ķ"),
   (0x133, 1, "ij"),
   (0x139, 2, "ĺ ļ ľ l· ł ń ņ ň ʼn"),
   (0x140, 1, "l·"),
   (0x14a, 2, "ŋ ō ŏ ő œ ŕ ŗ ř ś ŝ ş š ţ ť ŧ ũ ū ŭ ů ű ų ŵ ŷ ÿ"),
   (0x179, 2, "ź ż ž s ɓ"),
   (0x182, 2, "ƃ ƅ ɔ"),
   (0x187, 2, "ƈ ɖ ƌ"),
   (0x18a, 1, "ɗ"),
   (0x18e, 1, "ǝ ə ɛ ƒ"),
   (0x193, 1, "ɠ ɣ"),
   (0x196, 1, "ɩ ɨ ƙ"),
   (0x19c, 1, "ɯ ɲ"),
   (0x19f, 1, "ɵ ơ"),
   (0x1a2, 2, "ƣ ƥ ʀ"),
   (0x1a7, 2, "ƨ ʃ"),
   (0x1ac, 2, "ƭ ʈ"),
   (0x1af, 2, "ư ʊ ƴ ƶ ʒ"),
   (0x1b2, 1, "ʋ"),
   (0x1b8, 1, "ƹ"),
   (0x1bc, 1, "ƽ"),
   (0x1c4, 1, "dž dž dž lj lj lj nj nj nj ǎ"),
   (0x1cf, 2, "ǐ ǒ ǔ ǖ ǘ ǚ ǜ"),
   (0x1de, 2, "ǟ ǡ ǣ ǥ ǧ ǩ ǫ ǭ ǯ"),
   (0x1f1, 1, "dz dz dz ǵ"),
   (0x1f6, 1, "ƕ ƿ ǹ"),
   (0x1fa, 2, "ǻ ǽ ǿ ȁ ȃ ȅ ȇ ȉ ȋ ȍ ȏ ȑ ȓ ȕ ȗ ș ț ȝ ȟ ƞ ȣ ȥ ȧ ȩ ȫ ȭ ȯ ȱ ȳ"),
   (0x23a, 1, "ⱥ ȼ"),
   (0x23d, 1, "ƚ ⱦ"),
   (0x241, 2, "ɂ ƀ ʌ"),
   (0x244, 2, "ʉ ɇ ɉ ɋ ɍ ɏ"),
   (0x2b0, 1, "h ɦ j r ɹ ɻ ʁ w y"),
   (0x2e0, 1, "ɣ l s x ʕ"),
   (0x340, 1, "̀ ́"),
   (0x343, 1, "̓ ̈́ ι"),
   (0x370, 2, "ͱ ͳ ʹ ͷ"),
   (0x37e, 1, "; ϳ"),
   (0x386, 1, "ά · έ ή ί"),
   (0x38c, 2, "ό ύ"),
   (0x38f, 2, "ώ α γ ε η ι λ ν ο ρ σ υ χ ω ϋ"),
   (0x392, 2, "β δ ζ θ κ μ ξ π"),
   (0x3a4, 2, "τ φ ψ ϊ"),
   (0x3cf, 1, "ϗ β θ υ ύ ϋ φ π"),
   (0x3d8, 2, "ϙ ϛ ϝ ϟ ϡ ϣ ϥ ϧ ϩ ϫ ϭ ϯ κ σ θ"),
   (0x3f1, 1, "ρ"),
   (0x3f5, 2, "ε ϸ σ"),
   (0x3fa, 1, "ϻ"),
   (0x3fd, 1, "ͻ ͼ ͽ ѐ ё ђ ѓ є ѕ і ї ј љ њ ћ ќ ѝ ў џ а б в г д е ж з и й к л м н о п р с т у"),
   (0x424, 1, "ф х ц ч ш щ ъ ы ь э ю я"),
   (0x460, 2, "ѡ ѣ ѥ ѧ ѩ ѫ ѭ ѯ ѱ ѳ ѵ ѷ ѹ ѻ ѽ ѿ ҁ"),
   (0x48a, 2, "ҋ ҍ ҏ ґ ғ ҕ җ ҙ қ ҝ ҟ ҡ ң ҥ ҧ ҩ ҫ ҭ ү ұ ҳ ҵ ҷ ҹ һ ҽ ҿ ӏ"),
   (0x4c1, 2, "ӂ ӄ ӆ ӈ ӊ ӌ ӎ"),
   (0x4d0, 2, "ӑ ӓ ӕ ӗ ә ӛ ӝ ӟ ӡ ӣ ӥ ӧ ө ӫ ӭ ӯ ӱ ӳ ӵ ӷ ӹ ӻ ӽ ӿ ԁ ԃ ԅ ԇ ԉ ԋ ԍ ԏ ԑ ԓ ԕ ԗ ԙ ԛ ԝ"),
   (0x51e, 2, "ԟ ԡ ԣ ԥ ԧ ԩ ԫ ԭ ԯ"),
   (0x531, 1, "ա բ գ դ ե զ է ը թ ժ ի լ խ ծ կ հ ձ ղ ճ մ յ ն շ ո չ պ ջ ռ ս վ տ ր ց ւ փ ք օ ֆ"),
   (0x587, 1, "եւ"),
   (0x675, 1, "اٴ وٴ ۇٴ يٴ"),
   (0x958, 1, "क़ ख़ ग़ ज़ ड़ ढ़ फ़ य़"),
   (0x9dc, 1, "ড় ঢ়"),
   (0x9df, 1, "য়"),
   (0xa33, 1, "ਲ਼"),
   (0xa36, 1, "ਸ਼"),
   (0xa59, 1, "ਖ਼ ਗ਼ ਜ਼"),
   (0xa5e, 1, "ਫ਼"),
   (0xb5c, 1, "ଡ଼ ଢ଼"),
   (0xe33, 1, "ํา"),
   (0xeb3, 1, "ໍາ"),
   (0xedc, 1, "ຫນ ຫມ"),
   (0xf0c, 1, "་"),
   (0xf43, 1, "གྷ"),
   (0xf4d, 1, "ཌྷ"),
   (0xf52, 1, "དྷ"),
   (0xf57, 1, "བྷ"),
   (0xf5c, 1, "ཛྷ"),
   (0xf69, 1, "ཀྵ"),
   (0xf73, 2, "ཱི ཱུ ྲཱྀ ླཱྀ"),
   (0xf76, 2, "ྲྀ ླྀ"),
   (0xf81, 1, "ཱྀ"),
   (0xf93, 1, "ྒྷ"),
   (0xf9d, 1, "ྜྷ"),
   (0xfa2, 1, "ྡྷ"),
   (0xfa7, 1, "ྦྷ"),
   (0xfac, 1, "ྫྷ"),
   (0xfb9, 1, "ྐྵ"),
   (0x10a0, 1, "ⴀ ⴁ ⴂ ⴃ ⴄ ⴅ ⴆ ⴇ ⴈ ⴉ ⴊ ⴋ ⴌ ⴍ ⴎ ⴏ ⴐ ⴑ ⴒ ⴓ ⴔ ⴕ ⴖ ⴗ ⴘ ⴙ ⴚ ⴛ ⴜ ⴝ ⴞ ⴟ ⴠ ⴡ ⴢ ⴣ ⴤ ⴥ"),
   (0x10c7, 1, "ⴧ"),
   (0x10cd, 1, "ⴭ"),
   (0x10fc, 1, "ნ"),
   (0x13f8, 1, "Ᏸ Ᏹ Ᏺ Ᏻ Ᏼ Ᏽ"),
   (0x1c80, 1, "в д о с т т ъ ѣ ꙋ ᲊ"),
   (0x1c90, 1, "ა ბ გ დ ე ვ ზ თ ი კ ლ მ ნ ო პ ჟ რ ს ტ უ ფ ქ ღ ყ შ ჩ ც ძ წ ჭ ხ ჯ ჰ ჱ ჲ ჳ ჴ ჵ ჶ"),
   (0x1cb7, 1, "ჷ ჸ ჹ ჺ"),
   (0x1cbd, 1, "ჽ ჾ ჿ"),
   (0x1d2c, 1, "a æ b"),
   (0x1d30, 1, "d e ǝ g h i j k l m n"),
   (0x1d3c, 1, "o ȣ p r t u w a ɐ ɑ ᴂ b d e ə ɛ ɜ g"),
   (0x1d4f, 1, "k m ŋ o ɔ ᴖ ᴗ p t u ᴝ ɯ v ᴥ β γ δ φ χ i r u v β γ ρ φ χ"),
   (0x1d78, 1, "н"),
   (0x1d9b, 1, "ɒ c ɕ ð ɜ f ɟ ɡ ɥ ɨ ɩ ɪ ᵻ ʝ ɭ ᶅ ʟ ɱ ɰ ɲ ɳ ɴ ɵ ɸ ʂ ʃ ƫ ʉ ʊ ᴜ ʋ ʌ z ʐ ʑ ʒ θ"),
   (0x1e00, 2, "ḁ ḃ ḅ ḇ ḉ ḋ ḍ ḏ ḑ ḓ ḕ ḗ ḙ ḛ ḝ ḟ ḡ ḣ ḥ ḧ ḩ ḫ ḭ ḯ ḱ ḳ ḵ ḷ ḹ ḻ ḽ ḿ ṁ ṃ ṅ ṇ ṉ ṋ ṍ"),
   (0x1e4e, 2, "ṏ ṑ ṓ ṕ ṗ ṙ ṛ ṝ ṟ ṡ ṣ ṥ ṧ ṩ ṫ ṭ ṯ ṱ ṳ ṵ ṷ ṹ ṻ ṽ ṿ ẁ ẃ ẅ ẇ ẉ ẋ ẍ ẏ ẑ ẓ ẕ"),
   (0x1e9a, 1, "aʾ ṡ"),
   (0x1e9e, 2, "ß ạ ả ấ ầ ẩ ẫ ậ ắ ằ ẳ ẵ ặ ẹ ẻ ẽ ế ề ể ễ ệ ỉ ị ọ ỏ ố ồ ổ ỗ ộ ớ ờ ở ỡ ợ ụ ủ ứ ừ"),
   (0x1eec, 2, "ử ữ ự ỳ ỵ ỷ ỹ ỻ ỽ ỿ"),
   (0x1f08, 1, "ἀ ἁ ἂ ἃ ἄ ἅ ἆ ἇ"),
   (0x1f18, 1, "ἐ ἑ ἒ ἓ ἔ ἕ"),
   (0x1f28, 1, "ἠ ἡ ἢ ἣ ἤ ἥ ἦ ἧ"),
   (0x1f38, 1, "ἰ ἱ ἲ ἳ ἴ ἵ ἶ ἷ"),
   (0x1f48, 1, "ὀ ὁ ὂ ὃ ὄ ὅ"),
   (0x1f59, 2, "ὑ ὓ ὕ ὗ"),
   (0x1f68, 1, "ὠ ὡ ὢ ὣ ὤ ὥ ὦ ὧ"),
   (0x1f71, 2, "ά έ ή ί ό ύ ώ"),
   (0x1f80, 1, "ἀι ἁι ἂι ἃι ἄι ἅι ἆι ἇι ἀι ἁι ἂι ἃι ἄι ἅι ἆι ἇι ἠι ἡι ἢι ἣι ἤι ἥι ἦι ἧι ἠι ἡι"),
   (0x1f9a, 1, "ἢι ἣι ἤι ἥι ἦι ἧι ὠι ὡι ὢι ὣι ὤι ὥι ὦι ὧι ὠι ὡι ὢι ὣι ὤι ὥι ὦι ὧι"),
   (0x1fb2, 1, "ὰι αι άι"),
   (0x1fb7, 1, "ᾶι ᾰ ᾱ ὰ ά αι"),
   (0x1fbe, 1, "ι"),
   (0x1fc2, 1, "ὴι ηι ήι"),
   (0x1fc7, 1, "ῆι ὲ έ ὴ ή ηι"),
   (0x1fd3, 1, "ΐ"),
   (0x1fd8, 1, "ῐ ῑ ὶ ί"),
   (0x1fe3, 1, "ΰ"),
   (0x1fe8, 1, "ῠ ῡ ὺ ύ ῥ"),
   (0x1fef, 1, "\x60"),
   (0x1ff2, 1, "ὼι ωι ώι"),
   (0x1ff7, 1, "ῶι ὸ ό ὼ ώ ωι"),
   (0x2011, 1, "‐"),
   (0x2033, 1, "′′ ′′′"),
   (0x2036, 1, "‵‵ ‵‵‵"),
   (0x203c, 1, "!!"),
   (0x2057, 1, "′′′′"),
   (0x2070, 1, "0 i"),
   (0x2074, 1, "4 5 6 7 8 9 + − = ( ) n 0 1 2 3 4 5 6 7 8 9 + − = ( )"),
   (0x2090, 1, "a e o x ə h k l m n p s t"),
   (0x20a8, 1, "rs"),
   (0x2102, 1, "c °c"),
   (0x2107, 2, "ɛ °f h h ħ i l n"),
   (0x210a, 2, "g h h i l"),
   (0x2116, 1, "no"),
   (0x2119, 1, "p q r r r"),
   (0x2120, 1, "sm tel tm"),
   (0x2124, 2, "z ω z k b"),
   (0x212b, 2, "å c e f m א ג i fax γ π"),
   (0x2130, 2, "e ⅎ o ב ד"),
   (0x213c, 2, "π γ ∑"),
   (0x2145, 1, "d d e i j"),
   (0x2150, 1, "1⁄7 1⁄9 1⁄10 1⁄3 2⁄3 1⁄5 2⁄5 3⁄5 4⁄5 1⁄6 5⁄6 1⁄8 3⁄8 5⁄8 7⁄8 1⁄ i ii iii iv v"),
   (0x2165, 1, "vi vii viii ix x xi xii l c d m i ii iii iv v vi vii viii ix x xi xii l c d m"),
   (0x2183, 1, "ↄ"),
   (0x2189, 1, "0⁄3"),
   (0x222c, 1, "∫∫ ∫∫∫"),
   (0x222f, 1, "∮∮ ∮∮∮"),
   (0x2329, 1, "〈 〉"),
   (0x2460, 1, "1 2 3 4 5 6 7 8 9 10 11 12 13 14 15 16 17 18 19 20 (1) (2) (3) (4) (5) (6) (7)"),
   (0x247b, 1, "(8) (9) (10) (11) (12) (13) (14) (15) (16) (17) (18) (19) (20)"),
   (0x249c, 1, "(a) (b) (c) (d) (e) (f) (g) (h) (i) (j) (k) (l) (m) (n) (o) (p) (q) (r) (s)"),
   (0x24af, 1, "(t) (u) (v) (w) (x) (y) (z) a b c d e f g h i j k l m n o p q r s t u v w x y"),
   (0x24cf, 1, "z a b c d e f g h i j k l m n o p q r s t u v w x y z 0"),
   (0x2a0c, 1, "∫∫∫∫"),
   (0x2a75, 1, "== ==="),
   (0x2adc, 1, "⫝̸"),
   (0x2c00, 1, "ⰰ ⰱ ⰲ ⰳ ⰴ ⰵ ⰶ ⰷ ⰸ ⰹ ⰺ ⰻ ⰼ ⰽ ⰾ ⰿ ⱀ ⱁ ⱂ ⱃ ⱄ ⱅ ⱆ ⱇ ⱈ ⱉ ⱊ ⱋ ⱌ ⱍ ⱎ ⱏ ⱐ ⱑ ⱒ ⱓ ⱔ ⱕ ⱖ"),
   (0x2c27, 1, "ⱗ ⱘ ⱙ ⱚ ⱛ ⱜ ⱝ ⱞ ⱟ"),
   (0x2c60, 2, "ⱡ ɫ ɽ"),
   (0x2c63, 1, "ᵽ"),
   (0x2c67, 2, "ⱨ ⱪ ⱬ ɑ ɐ"),
   (0x2c6e, 2, "ɱ ɒ ⱳ"),
   (0x2c75, 1, "ⱶ"),
   (0x2c7c, 1, "j v ȿ ɀ ⲁ"),
   (0x2c82, 2, "ⲃ ⲅ ⲇ ⲉ ⲋ ⲍ ⲏ ⲑ ⲓ ⲕ ⲗ ⲙ ⲛ ⲝ ⲟ ⲡ ⲣ ⲥ ⲧ ⲩ ⲫ ⲭ ⲯ ⲱ ⲳ ⲵ ⲷ ⲹ ⲻ ⲽ ⲿ ⳁ ⳃ ⳅ ⳇ ⳉ ⳋ ⳍ ⳏ"),
   (0x2cd0, 2, "ⳑ ⳓ ⳕ ⳗ ⳙ ⳛ ⳝ ⳟ ⳡ ⳣ"),
   (0x2ceb, 2, "ⳬ ⳮ"),
   (0x2cf2, 1, "ⳳ"),
   (0x2d6f, 1, "ⵡ"),
   (0x2e9f, 1, "母"),
   (0x2ef3, 1, "龟"),
   (0x2f00, 1, "一 丨 丶 丿 乙 亅 二 亠 人 儿 入 八 冂 冖 冫 几 凵 刀 力 勹 匕 匚 匸 十 卜 卩 厂 厶 又 口 囗 土 士 夂 夊 夕 大 女 子"),
   (0x2f27, 1, "宀 寸 小 尢 尸 屮 山 巛 工 己 巾 干 幺 广 廴 廾 弋 弓 彐 彡 彳 心 戈 戶 手 支 攴 文 斗 斤 方 无 日 曰 月 木 欠 止 歹"),
   (0x2f4e, 1, "殳 毋 比 毛 氏 气 水 火 爪 父 爻 爿 片 牙 牛 犬 玄 玉 瓜 瓦 甘 生 用 田 疋 疒 癶 白 皮 皿 目 矛 矢 石 示 禸 禾 穴 立"),
   (0x2f75, 1, "竹 米 糸 缶 网 羊 羽 老 而 耒 耳 聿 肉 臣 自 至 臼 舌 舛 舟 艮 色 艸 虍 虫 血 行 衣 襾 見 角 言 谷 豆 豕 豸 貝 赤 走"),
   (0x2f9c, 1, "足 身 車 辛 辰 辵 邑 酉 釆 里 金 長 門 阜 隶 隹 雨 靑 非 面 革 韋 韭 音 頁 風 飛 食 首 香 馬 骨 高 髟 鬥 鬯 鬲 鬼 魚"),
   (0x2fc3, 1, "鳥 鹵 鹿 麥 麻 黃 黍 黑 黹 黽 鼎 鼓 鼠 鼻 齊 齒 龍 龜 龠"),
   (0x3002, 1, "."),
   (0x3036, 2, "〒 十 卅"),
   (0x3039, 1, "卄"),
   (0x309f, 1, "より"),
   (0x30ff, 1, "コト"),
   (0x3131, 1, "ᄀ ᄁ ᆪ ᄂ ᆬ ᆭ ᄃ ᄄ ᄅ ᆰ ᆱ ᆲ ᆳ ᆴ ᆵ ᄚ ᄆ ᄇ ᄈ ᄡ ᄉ ᄊ ᄋ ᄌ ᄍ ᄎ ᄏ ᄐ ᄑ ᄒ ᅡ ᅢ ᅣ ᅤ ᅥ ᅦ ᅧ ᅨ ᅩ"),
   (0x3158, 1, "ᅪ ᅫ ᅬ ᅭ ᅮ ᅯ ᅰ ᅱ ᅲ ᅳ ᅴ ᅵ"),
   (0x3165, 1, "ᄔ ᄕ ᇇ ᇈ ᇌ ᇎ ᇓ ᇗ ᇙ ᄜ ᇝ ᇟ ᄝ ᄞ ᄠ ᄢ ᄣ ᄧ ᄩ ᄫ ᄬ ᄭ ᄮ ᄯ ᄲ ᄶ ᅀ ᅇ ᅌ ᇱ ᇲ ᅗ ᅘ ᅙ ᆄ ᆅ ᆈ ᆑ ᆒ"),
   (0x318c, 1, "ᆔ ᆞ ᆡ"),
   (0x3192, 1, "一 二 三 四 上 中 下 甲 乙 丙 丁 天 地 人"),
   (0x3200, 1, "(ᄀ) (ᄂ) (ᄃ) (ᄅ) (ᄆ) (ᄇ) (ᄉ) (ᄋ) (ᄌ) (ᄎ) (ᄏ) (ᄐ) (ᄑ) (ᄒ) (가) (나) (다) (라) (마)"),
   (0x3213, 1, "(바) (사) (아) (자) (차) (카) (타) (파) (하) (주) (오전) (오후)"),
   (0x3220, 1, "(一) (二) (三) (四) (五) (六) (七) (八) (九) (十) (月) (火) (水) (木) (金) (土) (日) (株) (有)"),
   (0x3233, 1, "(社) (名) (特) (財) (祝) (労) (代) (呼) (学) (監) (企) (資) (協) (祭) (休) (自) (至) 問 幼 文 箏"),
   (0x3250, 1, "pte 21 22 23 24 25 26 27 28 29 30 31 32 33 34 35 ᄀ ᄂ ᄃ ᄅ ᄆ ᄇ ᄉ ᄋ ᄌ ᄎ ᄏ ᄐ ᄑ ᄒ 가"),
   (0x326f, 1, "나 다 라 마 바 사 아 자 차 카 타 파 하 참고 주의 우"),
   (0x3280, 1, "一 二 三 四 五 六 七 八 九 十 月 火 水 木 金 土 日 株 有 社 名 特 財 祝 労 秘 男 女 適 優 印 注 項 休 写 正 上 中 下"),
   (0x32a7, 1, "左 右 医 宗 学 監 企 資 協 夜 36 37 38 39 40 41 42 43 44 45 46 47 48 49 50 1月 2月 3月 4月"),
   (0x32c4, 1, "5月 6月 7月 8月 9月 10月 11月 12月 hg erg ev ltd ア イ ウ エ オ カ キ ク ケ コ サ シ ス セ ソ タ チ ツ テ"),
   (0x32e3, 1, "ト ナ ニ ヌ ネ ノ ハ ヒ フ ヘ ホ マ ミ ム メ モ ヤ ユ ヨ ラ リ ル レ ロ ワ ヰ ヱ ヲ 令和 アパート アルファ アンペア アール"),
   (0x3304, 1, "イニング インチ ウォン エスクード エーカー オンス オーム カイリ カラット カロリー ガロン ガンマ ギガ ギニー キュリー ギルダー キロ"),
   (0x3315, 1, "キログラム キロメートル キロワット グラム グラムトン クルゼイロ クローネ ケース コルナ コーポ サイクル サンチーム シリング センチ セント"),
   (0x3324, 1, "ダース デシ ドル トン ナノ ノット ハイツ パーセント パーツ バーレル ピアストル ピクル ピコ ビル ファラッド フィート ブッシェル フラン"),
   (0x3336, 1, "ヘクタール ペソ ペニヒ ヘルツ ペンス ページ ベータ ポイント ボルト ホン ポンド ホール ホーン マイクロ マイル マッハ マルク マンション"),
   (0x3348, 1, "ミクロン ミリ ミリバール メガ メガトン メートル ヤード ヤール ユアン リットル リラ ルピー ルーブル レム レントゲン ワット 0点 1点 2点"),
   (0x335b, 1, "3点 4点 5点 6点 7点 8点 9点 10点 11点 12点 13点 14点 15点 16点 17点 18点 19点 20点 21点 22点 23点"),
   (0x3370, 1, "24点 hpa da au bar ov pc dm dm2 dm3 iu 平成 昭和 大正 明治 株式会社 pa na μa ma ka kb mb gb"),
   (0x3388, 1, "cal kcal pf nf μf μg mg kg hz khz mhz ghz thz μl ml dl kl fm nm μm mm cm km"),
   (0x339f, 1, "mm2 cm2 m2 km2 mm3 cm3 m3 km3 m∕s m∕s2 pa kpa mpa gpa rad rad∕s rad∕s2 ps ns"),
   (0x33b2, 1, "μs ms pv nv μv mv kv mv pw nw μw mw kw mw kω mω"),
   (0x33c3, 1, "bq cc cd c∕kg"),
   (0x33c8, 1, "db gy ha hp in kk km kt lm ln log lx mb mil mol ph"),
   (0x33d9, 1, "ppm pr sr sv wb v∕m a∕m 1日 2日 3日 4日 5日 6日 7日 8日 9日 10日 11日 12日 13日 14日 15日 16日"),
   (0x33f0, 1, "17日 18日 19日 20日 21日 22日 23日 24日 25日 26日 27日 28日 29日 30日 31日 gal"),
   (0xa640, 2, "ꙁ ꙃ ꙅ ꙇ ꙉ ꙋ ꙍ ꙏ ꙑ ꙓ ꙕ ꙗ ꙙ ꙛ ꙝ ꙟ ꙡ ꙣ ꙥ ꙧ ꙩ ꙫ ꙭ"),
   (0xa680, 2, "ꚁ ꚃ ꚅ ꚇ ꚉ ꚋ ꚍ ꚏ ꚑ ꚓ ꚕ ꚗ ꚙ ꚛ ъ"),
   (0xa69d, 1, "ь"),
   (0xa722, 2, "ꜣ ꜥ ꜧ ꜩ ꜫ ꜭ ꜯ"),
   (0xa732, 2, "ꜳ ꜵ ꜷ ꜹ ꜻ ꜽ ꜿ ꝁ ꝃ ꝅ ꝇ ꝉ ꝋ ꝍ ꝏ ꝑ ꝓ ꝕ ꝗ ꝙ ꝛ ꝝ ꝟ ꝡ ꝣ ꝥ ꝧ ꝩ ꝫ ꝭ ꝯ ꝯ"),
   (0xa779, 2, "ꝺ ꝼ ᵹ"),
   (0xa77e, 2, "ꝿ ꞁ ꞃ ꞅ ꞇ"),
   (0xa78b, 2, "ꞌ ɥ"),
   (0xa790, 2, "ꞑ ꞓ"),
   (0xa796, 2, "ꞗ ꞙ ꞛ ꞝ ꞟ ꞡ ꞣ ꞥ ꞧ ꞩ ɦ ɡ ɪ ʞ ʝ ꞵ ꞷ ꞹ ꞻ ꞽ ꞿ ꟁ ꟃ ꞔ ᶎ"),
   (0xa7ab, 2, "ɜ ɬ"),
   (0xa7b1, 2, "ʇ ꭓ"),
   (0xa7c5, 2, "ʂ ꟈ ꟊ ɤ"),
   (0xa7cc, 2, "ꟍ ꟏ ꟑ ꟓ ꟕ ꟗ ꟙ ꟛ ƛ"),
   (0xa7f1, 1, "s c f q ꟶ"),
   (0xa7f8, 1, "ħ œ"),
   (0xab5c, 1, "ꜧ ꬷ ɫ ꭒ"),
   (0xab69, 1, "ʍ"),
   (0xab70, 1, "Ꭰ Ꭱ Ꭲ Ꭳ Ꭴ Ꭵ Ꭶ Ꭷ Ꭸ Ꭹ Ꭺ Ꭻ Ꭼ Ꭽ Ꭾ Ꭿ Ꮀ Ꮁ Ꮂ Ꮃ Ꮄ Ꮅ Ꮆ Ꮇ Ꮈ Ꮉ Ꮊ Ꮋ Ꮌ Ꮍ Ꮎ Ꮏ Ꮐ Ꮑ Ꮒ Ꮓ Ꮔ Ꮕ Ꮖ"),
   (0xab97, 1, "Ꮗ Ꮘ Ꮙ Ꮚ Ꮛ Ꮜ Ꮝ Ꮞ Ꮟ Ꮠ Ꮡ Ꮢ Ꮣ Ꮤ Ꮥ Ꮦ Ꮧ Ꮨ Ꮩ Ꮪ Ꮫ Ꮬ Ꮭ Ꮮ Ꮯ Ꮰ Ꮱ Ꮲ Ꮳ Ꮴ Ꮵ Ꮶ Ꮷ Ꮸ Ꮹ Ꮺ Ꮻ Ꮼ Ꮽ"),
   (0xabbe, 1, "Ꮾ Ꮿ"),
   (0xf900, 1, "豈 更 車 賈 滑 串 句 龜 龜 契 金 喇 奈 懶 癩 羅 蘿 螺 裸 邏 樂 洛 烙 珞 落 酪 駱 亂 卵 欄 爛 蘭 鸞 嵐 濫 藍 襤 拉 臘"),
   (0xf927, 1, "蠟 廊 朗 浪 狼 郎 來 冷 勞 擄 櫓 爐 盧 老 蘆 虜 路 露 魯 鷺 碌 祿 綠 菉 錄 鹿 論 壟 弄 籠 聾 牢 磊 賂 雷 壘 屢 樓 淚"),
   (0xf94e, 1, "漏 累 縷 陋 勒 肋 凜 凌 稜 綾 菱 陵 讀 拏 樂 諾 丹 寧 怒 率 異 北 磻 便 復 不 泌 數 索 參 塞 省 葉 說 殺 辰 沈 拾 若"),
   (0xf975, 1, "掠 略 亮 兩 凉 梁 糧 良 諒 量 勵 呂 女 廬 旅 濾 礪 閭 驪 麗 黎 力 曆 歷 轢 年 憐 戀 撚 漣 煉 璉 秊 練 聯 輦 蓮 連 鍊"),
   (0xf99c, 1, "列 劣 咽 烈 裂 說 廉 念 捻 殮 簾 獵 令 囹 寧 嶺 怜 玲 瑩 羚 聆 鈴 零 靈 領 例 禮 醴 隸 惡 了 僚 寮 尿 料 樂 燎 療 蓼"),
   (0xf9c3, 1, "遼 龍 暈 阮 劉 杻 柳 流 溜 琉 留 硫 紐 類 六 戮 陸 倫 崙 淪 輪 律 慄 栗 率 隆 利 吏 履 易 李 梨 泥 理 痢 罹 裏 裡 里"),
   (0xf9ea, 1, "離 匿 溺 吝 燐 璘 藺 隣 鱗 麟 林 淋 臨 立 笠 粒 狀 炙 識 什 茶 刺 切 度 拓 糖 宅 洞 暴 輻 行 降 見 廓 兀 嗀"),
   (0xfa10, 2, "塚 晴"),
   (0xfa15, 1, "凞 猪 益 礼 神 祥 福 靖 精 羽"),
   (0xfa20, 2, "蘒 諸"),
   (0xfa25, 1, "逸 都"),
   (0xfa2a, 1, "飯 飼 館 鶴 郞 隷 侮 僧 免 勉 勤 卑 喝 嘆 器 塀 墨 層 屮 悔 慨 憎 懲 敏 既 暑 梅 海 渚 漢 煮 爫 琢 碑 社 祉 祈 祐 祖"),
   (0xfa51, 1, "祝 禍 禎 穀 突 節 練 縉 繁 署 者 臭 艹 艹 著 褐 視 謁 謹 賓 贈 辶 逸 難 響 頻 恵 𤋮 舘"),
   (0xfa70, 1, "並 况 全 侀 充 冀 勇 勺 喝 啕 喙 嗢 塚 墳 奄 奔 婢 嬨 廒 廙 彩 徭 惘 慎 愈 憎 慠 懲 戴 揄 搜 摒 敖 晴 朗 望 杖 歹 殺"),
   (0xfa97, 1, "流 滛 滋 漢 瀞 煮 瞧 爵 犯 猪 瑱 甆 画 瘝 瘟 益 盛 直 睊 着 磌 窱 節 类 絛 練 缾 者 荒 華 蝹 襁 覆 視 調 諸 請 謁 諾"),
   (0xfabe, 1, "諭 謹 變 贈 輸 遲 醙 鉶 陼 難 靖 韛 響 頋 頻 鬒 龜 𢡊 𢡄 𣏕 㮝 䀘 䀹 𥉉 𥳐 𧻓 齃 龎"),
   (0xfb00, 1, "ff fi fl ffi ffl st st"),
   (0xfb13, 1, "մն մե մի վն մխ"),
   (0xfb1d, 2, "יִ ײַ א ה ל ר + שׂ שּׂ אָ בּ דּ וּ"),
   (0xfb20, 2, "ע ד כ ם ת שׁ שּׁ אַ אּ גּ הּ זּ טּ ךּ לּ מּ נּ"),
   (0xfb39, 2, "יּ כּ"),
   (0xfb41, 2, "סּ ףּ"),
   (0xfb44, 2, "פּ צּ רּ תּ בֿ פֿ ٱ ٻ ٻ پ پ ڀ ڀ ٺ ٺ ٿ ٿ ٹ ٹ ڤ ڤ ڦ ڦ ڄ ڄ ڃ ڃ چ چ ڇ ڇ ڍ ڌ ڎ ڈ ژ"),
   (0xfb8c, 2, "ڑ ک ک گ گ ڳ ڳ ڱ ڱ ں ڻ ڻ ۀ ہ ہ ھ ھ ے ۓ"),
   (0xfb47, 2, "קּ שּ וֹ כֿ אל ٱ ٻ ٻ پ پ ڀ ڀ ٺ ٺ ٿ ٿ ٹ ٹ ڤ ڤ ڦ ڦ ڄ ڄ ڃ ڃ چ چ ڇ ڇ ڍ ڌ ڎ ڈ ژ ڑ ک"),
   (0xfb91, 2, "ک گ گ ڳ ڳ ڱ ڱ ں ڻ ڻ ۀ ہ ہ ھ ھ ے ۓ"),
   (0xfbd3, 1, "ڭ ڭ ڭ ڭ ۇ ۇ ۆ ۆ ۈ ۈ ۇٴ ۋ ۋ ۅ ۅ ۉ ۉ ې ې ې ې ى ى ئا ئا ئە ئە ئو ئو ئۇ ئۇ ئۆ ئۆ"),
   (0xfbf4, 1, "ئۈ ئۈ ئې ئې ئې ئى ئى ئى ی ی ی ی ئج ئح ئم ئى ئي بج بح بخ بم بى بي تج تح تخ تم"),
   (0xfc0f, 1, "تى تي ثج ثم ثى ثي جح جم حج حم خج خح خم سج سح سخ سم صح صم ضج ضح ضخ ضم طح طم ظم"),
   (0xfc29, 1, "عج عم غج غم فج فح فخ فم فى في قح قم قى قي كا كج كح كخ كل كم كى كي لج لح لخ لم"),
   (0xfc43, 1, "لى لي مج مح مخ مم مى مي نج نح نخ نم نى ني هج هم هى هي يج يح يخ يم يى يي ذٰ رٰ"),
   (0xfc5d, 1, "ىٰ"),
   (0xfc64, 1, "ئر ئز ئم ئن ئى ئي بر بز بم بن بى بي تر تز تم تن تى تي ثر ثز ثم ثن ثى ثي فى في"),
   (0xfc7e, 1, "قى قي كا كل كم كى كي لم لى لي ما مم نر نز نم نن نى ني ىٰ ير يز يم ين يى يي ئج"),
   (0xfc98, 1, "ئح ئخ ئم ئه بج بح بخ بم به تج تح تخ تم ته ثم جح جم حج حم خج خم سج سح سخ سم صح"),
   (0xfcb2, 1, "صخ صم ضج ضح ضخ ضم طح ظم عج عم غج غم فج فح فخ فم قح قم كج كح كخ كل كم لج لح لخ"),
   (0xfccc, 1, "لم له مج مح مخ مم نج نح نخ نم نه هج هم هٰ يج يح يخ يم يه ئم ئه بم به تم ته ثم"),
   (0xfce6, 1, "ثه سم سه شم شه كل كم لم نم نه يم يه ـَّ ـُّ ـِّ طى طي عى عي غى غي سى سي شى شي"),
   (0xfcff, 1, "حى حي جى جي خى خي صى صي ضى ضي شج شح شخ شم شر سر صر ضر طى طي عى عي غى غي سى سي"),
   (0xfd19, 1, "شى شي حى حي جى جي خى خي صى صي ضى ضي شج شح شخ شم شر سر صر ضر شج شح شخ شم سه شه"),
   (0xfd33, 1, "طم سج سح سخ شج شح شخ طم ظم اً اً"),
   (0xfd50, 1, "تجم تحج تحج تحم تخم تمج تمح تمخ جمح جمح حمي حمى سحج سجح سجى سمح سمح سمج سمم"),
   (0xfd63, 1, "سمم صحح صحح صمم شحم شحم شجي شمخ شمخ شمم شمم ضحى ضخم ضخم طمح طمح طمم طمي عجم"),
   (0xfd76, 1, "عمم عمم عمى غمم غمي غمى فخم فخم قمح قمم لحم لحي لحى لجج لجج لخم لخم لمح لمح"),
   (0xfd89, 1, "محج محم محي مجح مجم مخج مخم"),
   (0xfd92, 1, "مجخ همج همم نحم نحى نجم نجم نجى نمي نمى يمم يمم بخي تجي تجى تخي تخى تمي تمى"),
   (0xfda5, 1, "جمي جحى جمى سخى صحي شحي ضحي لجي لمي يحي يجي يمي ممي قمي نحي قمح لحم عمي كمي"),
   (0xfdb8, 1, "نجح مخي لجم كمم لجم نجح جحي حجي مجي فمي بحي كمم عجم صمم سخي نجي"),
   (0xfdf0, 1, "صلے قلے الله اكبر محمد صلعم رسول عليه وسلم صلى"),
   (0xfdfc, 1, "ریال"),
   (0xfe10, 1, ", 、"),
   (0xfe14, 1, "; !"),
   (0xfe17, 1, "〖 〗"),
   (0xfe31, 1, "— – _ _ ( ) \x7b \x7d 〔 〕 【 】 《 》 〈 〉 「 」 『 』"),
   (0xfe4d, 1, "_ _ _ , 、"),
   (0xfe54, 1, ";"),
   (0xfe57, 1, "! — ( ) \x7b \x7d 〔 〕"),
   (0xfe60, 1, "& * + - < > ="),
   (0xfe69, 1, "$"),
   (0xfe71, 1, "ـً"),
   (0xfe77, 2, "ـَ ـُ ـِ ـّ ـْ آ أ ؤ إ ئ ئ ا ب ب ة ت ت ث ث ج ج ح ح خ خ د ذ ر ز س س ش ش ص ص ض ض"),
   (0xfec1, 2, "ط ط ظ ظ ع ع غ غ ف ف ق ق ك ك ل ل م م ن ن ه ه و ى ي ي لآ لأ لإ لا"),
   (0xfe80, 2, "ء آ أ ؤ إ ئ ئ ا ب ب ة ت ت ث ث ج ج ح ح خ خ د ذ ر ز س س ش ش ص ص ض ض ط ط ظ ظ ع ع"),
   (0xfece, 2, "غ غ ف ف ق ق ك ك ل ل م م ن ن ه ه و ى ي ي لآ لأ لإ لا"),
   (0xff01, 1, "! \""),
   (0xff04, 2, "$ & ( * , . 0 2 4 6 8"),
   (0xff07, 2, "' ) + -"),
   (0xff11, 2, "1 3 5 7 9 ; ="),
   (0xff1c, 2, "< >"),
   (0xff21, 1, "a b c d e f g h i j k l m n o p q r s t u v w x y z"),
   (0xff3f, 1, "_ \x60 a b c d e f g h i j k l m n o p q r s t u v w x y z \x7b"),
   (0xff5d, 1, "\x7d ~ ⦅ ⦆ . 「 」 、 ・ ヲ ァ ィ ゥ ェ ォ ャ ュ ョ ッ ー ア イ ウ エ オ カ キ ク ケ コ サ シ ス セ ソ タ チ ツ テ"),
   (0xff84, 1, "ト ナ ニ ヌ ネ ノ ハ ヒ フ ヘ ホ マ ミ ム メ モ ヤ ユ ヨ ラ リ ル レ ロ ワ ン ゙ ゚"),
   (0xffa1, 1, "ᄀ ᄁ ᆪ ᄂ ᆬ ᆭ ᄃ ᄄ ᄅ ᆰ ᆱ ᆲ ᆳ ᆴ ᆵ ᄚ ᄆ ᄇ ᄈ ᄡ ᄉ ᄊ ᄋ ᄌ ᄍ ᄎ ᄏ ᄐ ᄑ ᄒ"),
   (0xffc2, 1, "ᅡ ᅢ ᅣ ᅤ ᅥ ᅦ"),
   (0xffca, 1, "ᅧ ᅨ ᅩ ᅪ ᅫ ᅬ"),
   (0xffd2, 1, "ᅭ ᅮ ᅯ ᅰ ᅱ ᅲ"),
   (0xffda, 1, "ᅳ ᅴ ᅵ"),
   (0xffe0, 1, "¢ £ ¬"),
   (0xffe4, 1, "¦ ¥ ₩"),
   (0xffe8, 1, "│ ← ↑ → ↓ ■ ○"),
   (0x10400, 1, "𐐨 𐐩 𐐪 𐐫 𐐬 𐐭 𐐮 𐐯 𐐰 𐐱 𐐲 𐐳 𐐴 𐐵 𐐶 𐐷 𐐸 𐐹 𐐺 𐐻 𐐼 𐐽 𐐾 𐐿 𐑀 𐑁 𐑂 𐑃 𐑄 𐑅 𐑆 𐑇 𐑈 𐑉 𐑊 𐑋 𐑌 𐑍 𐑎"),
   (0x10427, 1, "𐑏"),
   (0x104b0, 1, "𐓘 𐓙 𐓚 𐓛 𐓜 𐓝 𐓞 𐓟 𐓠 𐓡 𐓢 𐓣 𐓤 𐓥 𐓦 𐓧 𐓨 𐓩 𐓪 𐓫 𐓬 𐓭 𐓮 𐓯 𐓰 𐓱 𐓲 𐓳 𐓴 𐓵 𐓶 𐓷 𐓸 𐓹 𐓺 𐓻"),
   (0x10570, 1, "𐖗 𐖘 𐖙 𐖚 𐖛 𐖜 𐖝 𐖞 𐖟 𐖠 𐖡"),
   (0x1057c, 1, "𐖣 𐖤 𐖥 𐖦 𐖧 𐖨 𐖩 𐖪 𐖫 𐖬 𐖭 𐖮 𐖯 𐖰 𐖱"),
   (0x1058c, 1, "𐖳 𐖴 𐖵 𐖶 𐖷 𐖸 𐖹"),
   (0x10594, 1, "𐖻 𐖼"),
   (0x10781, 1, "ː ˑ æ ʙ ɓ"),
   (0x10787, 1, "ʣ ꭦ ʥ ʤ ɖ ɗ ᶑ ɘ ɞ ʩ ɤ ɢ ɠ ʛ ħ ʜ ɧ ʄ ʪ ʫ ɬ 𝼄 ꞎ ɮ 𝼅 ʎ 𝼆 ø ɶ ɷ q ɺ 𝼈 ɽ ɾ ʀ ʨ ʦ ꭧ"),
   (0x107ae, 1, "ʧ ʈ ⱱ"),
   (0x107b2, 1, "ʏ ʡ ʢ ʘ ǀ ǁ ǂ 𝼊 𝼞"),
   (0x10c80, 1, "𐳀 𐳁 𐳂 𐳃 𐳄 𐳅 𐳆 𐳇 𐳈 𐳉 𐳊 𐳋 𐳌 𐳍 𐳎 𐳏 𐳐 𐳑 𐳒 𐳓 𐳔 𐳕 𐳖 𐳗 𐳘 𐳙 𐳚 𐳛 𐳜 𐳝 𐳞 𐳟 𐳠 𐳡 𐳢 𐳣 𐳤 𐳥 𐳦"),
   (0x10ca7, 1, "𐳧 𐳨 𐳩 𐳪 𐳫 𐳬 𐳭 𐳮 𐳯 𐳰 𐳱 𐳲"),
   (0x10d50, 1, "𐵰 𐵱 𐵲 𐵳 𐵴 𐵵 𐵶 𐵷 𐵸 𐵹 𐵺 𐵻 𐵼 𐵽 𐵾 𐵿 𐶀 𐶁 𐶂 𐶃 𐶄 𐶅"),
   (0x118a0, 1, "𑣀 𑣁 𑣂 𑣃 𑣄 𑣅 𑣆 𑣇 𑣈 𑣉 𑣊 𑣋 𑣌 𑣍 𑣎 𑣏 𑣐 𑣑 𑣒 𑣓 𑣔 𑣕 𑣖 𑣗 𑣘 𑣙 𑣚 𑣛 𑣜 𑣝 𑣞 𑣟"),
   (0x16e40, 1, "𖹠 𖹡 𖹢 𖹣 𖹤 𖹥 𖹦 𖹧 𖹨 𖹩 𖹪 𖹫 𖹬 𖹭 𖹮 𖹯 𖹰 𖹱 𖹲 𖹳 𖹴 𖹵 𖹶 𖹷 𖹸 𖹹 𖹺 𖹻 𖹼 𖹽 𖹾 𖹿"),
   (0x16ea0, 1, "𖺻 𖺼 𖺽 𖺾 𖺿 𖻀 𖻁 𖻂 𖻃 𖻄 𖻅 𖻆 𖻇 𖻈 𖻉 𖻊 𖻋 𖻌 𖻍 𖻎 𖻏 𖻐 𖻑 𖻒 𖻓"),
   (0x1ccd6, 1, "a b c d e f g h i j k l m n o p q r s t u v w x y z 0 1 2 3 4 5 6 7 8 9"),
   (0x1d15e, 1, "𝅗𝅥 𝅘𝅥 𝅘𝅥𝅮 𝅘𝅥𝅯 𝅘𝅥𝅰 𝅘𝅥𝅱 𝅘𝅥𝅲"),
   (0x1d1bb, 1, "𝆹𝅥 𝆺𝅥 𝆹𝅥𝅮 𝆺𝅥𝅮 𝆹𝅥𝅯 𝆺𝅥𝅯"),
   (0x1d400, 1, "a b c d e f g h i j k l m n o p q r s t u v w x y z a b c d e f g h i j k l m"),
   (0x1d427, 1, "n o p q r s t u v w x y z a b c d e f g h i j k l m n o p q r s t u v w x y z"),
   (0x1d44e, 1, "a b c d e f g"),
   (0x1d456, 1, "i j k l m n o p q r s t u v w x y z a b c d e f g h i j k l m n o p q r s t u"),
   (0x1d47d, 1, "v w x y z a b c d e f g h i j k l m n o p q r s t u v w x y z a"),
   (0x1d49e, 1, "c d"),
   (0x1d4a2, 1, "g"),
   (0x1d4a5, 1, "j k"),
   (0x1d4a9, 1, "n o p q"),
   (0x1d4ae, 1, "s t u v w x y z a b c d"),
   (0x1d4bb, 2, "f h j l n p r t v x z b d f h j l n p r t v x z b d f h j l n p r t v x z b d"),
   (0x1d509, 1, "f"),
   (0x1d4be, 2, "i k m"),
   (0x1d4c6, 2, "q s u w y a c e g i k m o q s u w y a c e g i k m o q s u w y a"),
   (0x1d508, 2, "e g"),
   (0x1d50d, 1, "j k l m n o p q"),
   (0x1d516, 1, "s t u v w x y"),
   (0x1d51e, 1, "a b c d e f g h i j k l m n o p q r s t u v w x y z a b"),
   (0x1d53b, 1, "d e f g"),
   (0x1d540, 1, "i j k l m"),
   (0x1d546, 1, "o"),
   (0x1d54a, 1, "s t u v w x y"),
   (0x1d552, 1, "a b c d e f g h i j k l m n o p q r s t u v w x y z a b c d e f g h i j k l m"),
   (0x1d579, 1, "n o p q r s t u v w x y z a b c d e f g h i j k l m n o p q r s t u v w x y z"),
   (0x1d5a0, 1, "a b c d e f g h i j k l m n o p q r s t u v w x y z a b c d e f g h i j k l m"),
   (0x1d5c7, 1, "n o p q r s t u v w x y z a b c d e f g h i j k l m n o p q r s t u v w x y z"),
   (0x1d5ee, 1, "a b c d e f g h i j k l m n o p q r s t u v w x y z a b c d e f g h i j k l m"),
   (0x1d615, 1, "n o p q r s t u v w x y z a b c d e f g h i j k l m n o p q r s t u v w x y z"),
   (0x1d63c, 1, "a b c d e f g h i j k l m n o p q r s t u v w x y z a b c d e f g h i j k l m"),
   (0x1d663, 1, "n o p q r s t u v w x y z a b c d e f g h i j k l m n o p q r s t u v w x y z"),
   (0x1d68a, 1, "a b c d e f g h i j k l m n o p q r s t u v w x y z ı ȷ"),
   (0x1d6a8, 1, "α β γ δ ε ζ η θ ι κ λ μ ν ξ ο π ρ θ σ τ υ φ χ ψ ω ∇ α β γ δ ε ζ η θ ι κ λ μ ν"),
   (0x1d6cf, 1, "ξ ο π ρ σ σ τ υ φ χ ψ ω ∂ ε θ κ φ ρ π α β γ δ ε ζ η θ ι κ λ μ ν ξ ο π ρ θ σ τ"),
   (0x1d6f6, 1, "υ φ χ ψ ω ∇ α β γ δ ε ζ η θ ι κ λ μ ν ξ ο π ρ σ σ τ υ φ χ ψ ω ∂ ε θ κ φ ρ π α"),
   (0x1d71d, 1, "β γ δ ε ζ η θ ι κ λ μ ν ξ ο π ρ θ σ τ υ φ χ ψ ω ∇ α β γ δ ε ζ η θ ι κ λ μ ν ξ"),
   (0x1d744, 1, "ο π ρ σ σ τ υ φ χ ψ ω ∂ ε θ κ φ ρ π α β γ δ ε ζ η θ ι κ λ μ ν ξ ο π ρ θ σ τ υ"),
   (0x1d76b, 1, "φ χ ψ ω ∇ α β γ δ ε ζ η θ ι κ λ μ ν ξ ο π ρ σ σ τ υ φ χ ψ ω ∂ ε θ κ φ ρ π α β"),
   (0x1d792, 1, "γ δ ε ζ η θ ι κ λ μ ν ξ ο π ρ θ σ τ υ φ χ ψ ω ∇ α β γ δ ε ζ η θ ι κ λ μ ν ξ ο"),
   (0x1d7b9, 1, "π ρ σ σ τ υ φ χ ψ ω ∂ ε θ κ φ ρ π ϝ ϝ"),
   (0x1d7ce, 1, "0 1 2 3 4 5 6 7 8 9 0 1 2 3 4 5 6 7 8 9 0 1 2 3 4 5 6 7 8 9 0 1 2 3 4 5 6 7 8"),
   (0x1d7f5, 1, "9 0 1 2 3 4 5 6 7 8 9"),
   (0x1e030, 1, "а б в г д е ж з и к л м о п р с т у ф х ц ч ш ы э ю ꚉ ә і ј ө ү ӏ а б в г д е"),
   (0x1e057, 1, "ж з и к л о п с у ф х ц ч ш ъ ы ґ і ѕ џ ҫ ꙑ ұ"),
   (0x1e900, 1, "𞤢 𞤣 𞤤 𞤥 𞤦 𞤧 𞤨 𞤩 𞤪 𞤫 𞤬 𞤭 𞤮 𞤯 𞤰 𞤱 𞤲 𞤳 𞤴 𞤵 𞤶 𞤷 𞤸 𞤹 𞤺 𞤻 𞤼 𞤽 𞤾 𞤿 𞥀 𞥁 𞥂 𞥃"),
   (0x1ee00, 1, "ا ب ج د"),
   (0x1ee05, 1, "و ز ح ط ي ك ل م ن س ع ف ص ق ر ش ت ث خ ذ ض ظ غ ٮ ں ڡ ٯ"),
   (0x1ee21, 1, "ب ج"),
   (0x1ee24, 1, "ه"),
   (0x1ee27, 2, "ح ي ل ن ع ص"),
   (0x1ee2a, 2, "ك م س ف ق ش ث"),
   (0x1ee35, 2, "ت خ ض غ"),
   (0x1ee42, 1, "ج"),
   (0x1ee47, 2, "ح ي ل ن ع ص"),
   (0x1ee4e, 1, "س"),
   (0x1ee52, 2, "ق ش"),
   (0x1ee57, 2, "خ ض غ ں ٯ ب"),
   (0x1ee62, 2, "ج ه"),
   (0x1ee67, 1, "ح ط ي ك"),
   (0x1ee6c, 1, "م ن س ع ف ص ق"),
   (0x1ee74, 1, "ش ت ث خ"),
   (0x1ee79, 1, "ض ظ غ ٮ"),
   (0x1ee7e, 2, "ڡ ا ج ه ز ط"),
   (0x1ee81, 2, "ب د و ح ي ل ن ع ص ر ت خ ض غ"),
   (0x1ee8c, 2, "م س ف ق ش ث ذ ظ"),
   (0x1eea1, 1, "ب ج د"),
   (0x1eea5, 1, "و ز ح ط ي"),
   (0x1eeab, 1, "ل م ن س ع ف ص ق ر ش ت ث خ ذ ض ظ غ"),
   (0x1f101, 1, "0, 1, 2, 3, 4, 5, 6, 7, 8, 9,"),
   (0x1f110, 1, "(a) (b) (c) (d) (e) (f) (g) (h) (i) (j) (k) (l) (m) (n) (o) (p) (q) (r) (s)"),
   (0x1f123, 1, "(t) (u) (v) (w) (x) (y) (z) 〔s〕 c r cd wz"),
   (0x1f130, 1, "a b c d e f g h i j k l m n o p q r s t u v w x y z hv mv sd ss ppv wc"),
   (0x1f16a, 1, "mc md mr"),
   (0x1f190, 1, "dj"),
   (0x1f200, 1, "ほか ココ サ"),
   (0x1f210, 1, "手 字 双 デ 二 多 解 天 交 映 無 料 前 後 再 新 初 終 生 販 声 吹 演 投 捕 一 三 遊 左 中 右 指 走 打 禁 空 合 満 有"),
   (0x1f237, 1, "月 申 割 営 配"),
   (0x1f240, 1, "〔本〕 〔三〕 〔二〕 〔安〕 〔点〕 〔打〕 〔盗〕 〔勝〕 〔敗〕"),
   (0x1f250, 1, "得 可"),
   (0x1fbf0, 1, "0 1 2 3 4 5 6 7 8 9"),
   (0x2f800, 1, "丽 丸 乁 𠄢 你 侮 侻 倂 偺 備 僧 像 㒞 𠘺 免 兔 兤 具 𠔜 㒹 內 再 𠕋 冗 冤 仌 冬 况 𩇟 凵 刃 㓟 刻 剆 割 剷 㔕 勇 勉"),
   (0x2f827, 1, "勤 勺 包 匆 北 卉 卑 博 即 卽 卿 卿 卿 𠨬 灰 及 叟 𠭣 叫 叱 吆 咞 吸 呈 周 咢 哶 唐 啓 啣 善 善 喙 喫 喳 嗂 圖 嘆 圗"),
   (0x2f84e, 1, "噑 噴 切 壮 城 埴 堍 型 堲 報 墬 𡓤 売 壷 夆 多 夢 奢 𡚨 𡛪 姬 娛 娧 姘 婦 㛮 㛼 嬈 嬾 嬾 𡧈 寃 寘 寧 寳 𡬘 寿 将 当"),
   (0x2f875, 1, "尢 㞁 屠 屮 峀 岍 𡷤 嵃 𡷦 嵮 嵫 嵼 巡 巢 㠯 巽 帨 帽 幩 㡢 𢆃 㡼 庰 庳 庶 廊 𪎒 廾 𢌱 𢌱 舁 弢 弢 㣇 𣊸 𦇚 形 彫 㣣"),
   (0x2f89c, 1, "徚 忍 志 忹 悁 㤺 㤜 悔 𢛔 惇 慈 慌 慎 慌 慺 憎 憲 憤 憯 懞 懲 懶 成 戛 扝 抱 拔 捐 𢬌 挽 拼 捨 掃 揤 𢯱 搢 揅 掩 㨮"),
   (0x2f8c3, 1, "摩 摾 撝 摷 㩬 敏 敬 𣀊 旣 書 晉 㬙 暑 㬈 㫤 冒 冕 最 暜 肭 䏙 朗 望 朡 杞 杓 𣏃 㭉 柺 枅 桒 梅 𣑭 梎 栟 椔 㮝 楂 榣"),
   (0x2f8ea, 1, "槪 檨 𣚣 櫛 㰘 次 𣢧 歔 㱎 歲 殟 殺 殻 𣪍 𡴋 𣫺 汎 𣲼 沿 泍 汧 洖 派 海 流 浩 浸 涅 𣴞 洴 港 湮 㴳 滋 滇 𣻑 淹 潮 𣽞"),
   (0x2f911, 1, "𣾎 濆 瀹 瀞 瀛 㶖 灊 災 灷 炭 𠔥 煅 𤉣 熜 𤎫 爨 爵 牐 𤘈 犀 犕 𤜵 𤠔 獺 王 㺬 玥 㺸 㺸 瑇 瑜 瑱 璅 瓊 㼛 甤 𤰶 甾 𤲒"),
   (0x2f938, 1, "異 𢆟 瘐 𤾡 𤾸 𥁄 㿼 䀈 直 𥃳 𥃲 𥄙 𥄳 眞 真 真 睊 䀹 瞋 䁆 䂖 𥐝 硎 碌 磌 䃣 𥘦 祖 𥚚 𥛅 福 秫 䄯 穀 穊 穏 𥥼 𥪧 𥪧"),
   (0x2f95f, 1, "竮 䈂 𥮫 篆 築 䈧 𥲀 糒 䊠 糨 糣 紀 𥾆 絣 䌁 緇 縂 繅 䌴 𦈨 𦉇 䍙 𦋙 罺 𦌾 羕 翺 者 𦓚 𦔣 聠 𦖨 聰 𣍟 䏕 育 脃 䐋 脾"),
   (0x2f986, 1, "媵 𦞧 𦞵 𣎓 𣎜 舁 舄 辞 䑫 芑 芋 芝 劳 花 芳 芽 苦 𦬼 若 茝 荣 莭 茣 莽 菧 著 荓 菊 菌 菜 𦰶 𦵫 𦳕 䔫 蓱 蓳 蔖 𧏊 蕤"),
   (0x2f9ad, 1, "𦼬 䕝 䕡 𦾱 𧃒 䕫 虐 虜 虧 虩 蚩 蚈 蜎 蛢 蝹 蜨 蝫 螆 䗗 蟡 蠁 䗹 衠 衣 𧙧 裗 裞 䘵 裺 㒻 𧢮 𧥦 䚾 䛇 誠 諭 變 豕 𧲨"),
   (0x2f9d4, 1, "貫 賁 贛 起 𧼯 𠠄 跋 趼 跰 𠣞 軔 輸 𨗒 𨗭 邔 郱 鄑 𨜮 鄛 鈸 鋗 鋘 鉼 鏹 鐕 𨯺 開 䦕 閷 𨵷 䧦 雃 嶲 霣 𩅅 𩈚 䩮 䩶 韠"),
   (0x2f9fb, 1, "𩐊 䪲 𩒖 頋 頋 頩 𩖶 飢 䬳 餩 馧 駂 駾 䯎 𩬰 鬒 鱀 鳽 䳎 䳭 鵧 𪃎 䳸 𪄅 𪈎 𪊑 麻 䵖 黹 黾 鼅 鼏 鼖 鼻 𪘀")]

/-- The ranges of characters that stand for nothing, ascending. -/
def ignoredRanges : List (Nat × Nat) :=
  [(0xad, 0xad), (0x34f, 0x34f), (0x115f, 0x1160), (0x17b4, 0x17b5), (0x180b, 0x180f),
   (0x200b, 0x200b), (0x2060, 0x2064), (0x206a, 0x206f), (0x3164, 0x3164), (0xfe00, 0xfe0f),
   (0xfeff, 0xfeff), (0xffa0, 0xffa0), (0x1bca0, 0x1bca3), (0x1d173, 0x1d17a), (0xe0100, 0xe01ef)]

/-- The ranges of characters that show but are refused, ascending. -/
def refusedRanges : List (Nat × Nat) :=
  [(0xa8, 0xa8), (0xaf, 0xaf), (0xb4, 0xb4), (0xb8, 0xb8), (0x2d8, 0x2dd), (0x37a, 0x37a),
   (0x384, 0x385), (0x1fbd, 0x1fbd), (0x1fbf, 0x1fc1), (0x1fcd, 0x1fcf), (0x1fdd, 0x1fdf),
   (0x1fed, 0x1fee), (0x1ffd, 0x1ffe), (0x2017, 0x2017), (0x2024, 0x2026), (0x203e, 0x203e),
   (0x2047, 0x2049), (0x2100, 0x2101), (0x2105, 0x2106), (0x2488, 0x249b), (0x2a74, 0x2a74),
   (0x2ff0, 0x2fff), (0x309b, 0x309c), (0x31ef, 0x31ef), (0x33c2, 0x33c2), (0x33c7, 0x33c7),
   (0x33d8, 0x33d8), (0xfc5e, 0xfc63), (0xfdfa, 0xfdfb), (0xfe12, 0xfe13), (0xfe16, 0xfe16),
   (0xfe19, 0xfe19), (0xfe30, 0xfe30), (0xfe47, 0xfe4c), (0xfe52, 0xfe52), (0xfe55, 0xfe56),
   (0xfe5f, 0xfe5f), (0xfe68, 0xfe68), (0xfe6a, 0xfe6b), (0xfe70, 0xfe70), (0xfe72, 0xfe72),
   (0xfe74, 0xfe74), (0xfe76, 0xfe76), (0xfe78, 0xfe78), (0xfe7a, 0xfe7a), (0xfe7c, 0xfe7c),
   (0xfe7e, 0xfe7e), (0xff03, 0xff03), (0xff05, 0xff05), (0xff0f, 0xff0f), (0xff1a, 0xff1a),
   (0xff1f, 0xff20), (0xff3b, 0xff3e), (0xff5c, 0xff5c), (0xffe3, 0xffe3), (0xfffc, 0xfffd),
   (0x1f100, 0x1f100)]

/-- The character that joins the ones beside it.  It shows in what it does. -/
def joiner : Char := '\u200d'

/-- The character that keeps the ones beside it apart.  It shows in what it does. -/
def nonJoiner : Char := '\u200c'

/-- What a character stands for in one row of readings. -/
def readingIn (c : Char) : Nat × Nat × String → Option (List Char)
  | (first, step, texts) =>
    let distance := c.toNat - first
    if first ≤ c.toNat && distance % step = 0 then
      ((texts.splitOn " ")[distance / step]?).map String.toList
    else none

/-- The ASCII characters that no host name has. -/
def isDenied (c : Char) : Bool :=
  c.toNat ≤ 32 || c.toNat = 127 || "#%/:<>?@[\\]^|".contains c

/-- What a character stands for.  Nothing is said of one that is refused. -/
def reading (c : Char) : Option (List Char) :=
  if c.toNat < 128 then some [c.toLower]
  else if inRanges ignoredRanges c then some []
  else if c = joiner || c = nonJoiner then some [c]
  else if isHollow c || inRanges refusedRanges c then none
  else some ((readings.findSome? (readingIn c)).getD [c])

end PoolRewards.HostName
