import Chunkwise.Text.Normal.Row

/-!
The characters of names that are only another form of one or more characters: wide and narrow
ones, raised and lowered ones, ligatures, the letters of mathematics and the like.
-/
namespace Chunkwise.Text

/-- Characters that stand for others, with those that they stand for in the end. -/
def variants : List Row := [
  (170, "a"),
  (181, "μ     o"),
  (306, "IJ ij"),
  (319, "L· l·"),
  (329, "ʼn"),
  (383, "s"),
  (452, "DZ\u030c Dz\u030c dz\u030c LJ Lj lj NJ Nj nj"),
  (497, "DZ Dz dz"),
  (688, "h ɦ j r ɹ ɻ ʁ w y"),
  (736, "ɣ l s x ʕ"),
  (832, "\u0300 \u0301  \u0313 \u0308\u0301"),
  (884, "ʹ"),
  (903, "·"),
  (976, "β θ Υ   φ π"),
  (1008, "κ ρ ς  Θ ε    Σ"),
  (1415, "եւ"),
  (1653, "اٴ وٴ ۇٴ يٴ"),
  (2392, "क\u093c ख\u093c ग\u093c ज\u093c ड\u093c ढ\u093c फ\u093c य\u093c"),
  (2524, "ড\u09bc ঢ\u09bc  য\u09bc"),
  (2611, "ਲ\u0a3c   ਸ\u0a3c"),
  (2649, "ਖ\u0a3c ਗ\u0a3c ਜ\u0a3c   ਫ\u0a3c"),
  (2908, "ଡ\u0b3c ଢ\u0b3c"),
  (3635, "\u0e4dา"),
  (3763, "\u0ecdາ"),
  (3804, "ຫນ ຫມ"),
  (3907, "ག\u0fb7"),
  (3917, "ཌ\u0fb7     ད\u0fb7     བ\u0fb7     ཛ\u0fb7"),
  (3945, "ཀ\u0fb5"),
  (3955, "\u0f71\u0f72  \u0f71\u0f74 \u0fb2\u0f80 \u0fb2\u0f71\u0f80 \u0fb3\u0f80"),
  (3961, "\u0fb3\u0f71\u0f80"),
  (3969, "\u0f71\u0f80"),
  (3987, "\u0f92\u0fb7"),
  (3997, "\u0f9c\u0fb7     \u0fa1\u0fb7     \u0fa6\u0fb7     \u0fab\u0fb7"),
  (4025, "\u0f90\u0fb5"),
  (4348, "ნ"),
  (7468, "A Æ B  D E Ǝ G H I J K L M N  O Ȣ P R T U W a ɐ ɑ ᴂ b d e ə ɛ ɜ g  k m ŋ o ɔ ᴖ"),
  (7509, "ᴗ p t u ᴝ ɯ v ᴥ β γ δ φ χ i r u v β γ ρ φ χ"),
  (7544, "н"),
  (7579, "ɒ c ɕ ð ɜ f ɟ ɡ ɥ ɨ ɩ ɪ ᵻ ʝ ɭ ᶅ ʟ ɱ ɰ ɲ ɳ ɴ ɵ ɸ ʂ ʃ ƫ ʉ ʊ ᴜ ʋ ʌ z ʐ ʑ ʒ θ"),
  (7834, "aʾ"),
  (8049, "α\u0301  ε\u0301  η\u0301  ι\u0301  ο\u0301  υ\u0301  ω\u0301"),
  (8123, "Α\u0301   ι"),
  (8137, "Ε\u0301  Η\u0301"),
  (8147, "ι\u0308\u0301"),
  (8155, "Ι\u0301"),
  (8163, "υ\u0308\u0301"),
  (8171, "Υ\u0301"),
  (8185, "Ο\u0301  Ω\u0301"),
  (8305, "i"),
  (8319, "n"),
  (8336, "a e o x ə h k l m n p s t"),
  (8450, "C     Ɛ   g H H H h ħ I I L l  N    P Q R R R"),
  (8484, "Z  Ω  Z  K A\u030a B C  e E F  M o א ב ג ד i   π γ Γ Π      D d e i j"),
  (8544, "I II III IV V VI VII VIII IX X XI XII L C D M i ii iii iv v vi vii viii ix x xi"),
  (8571, "xii l c d m"),
  (11388, "j V"),
  (11631, "ⵡ"),
  (12344, "十 卄 卅"),
  (12447, "より"),
  (12543, "コト"),
  (12593, "ᄀ ᄁ ᆪ ᄂ ᆬ ᆭ ᄃ ᄄ ᄅ ᆰ ᆱ ᆲ ᆳ ᆴ ᆵ ᄚ ᄆ ᄇ ᄈ ᄡ ᄉ ᄊ ᄋ ᄌ ᄍ ᄎ ᄏ ᄐ ᄑ ᄒ ᅡ ᅢ ᅣ ᅤ ᅥ ᅦ ᅧ ᅨ ᅩ"),
  (12632, "ᅪ ᅫ ᅬ ᅭ ᅮ ᅯ ᅰ ᅱ ᅲ ᅳ ᅴ ᅵ ᅠ ᄔ ᄕ ᇇ ᇈ ᇌ ᇎ ᇓ ᇗ ᇙ ᄜ ᇝ ᇟ ᄝ ᄞ ᄠ ᄢ ᄣ ᄧ ᄩ ᄫ ᄬ ᄭ ᄮ ᄯ ᄲ ᄶ"),
  (12671, "ᅀ ᅇ ᅌ ᇱ ᇲ ᅗ ᅘ ᅙ ᆄ ᆅ ᆈ ᆑ ᆒ ᆔ ᆞ ᆡ"),
  (42652, "ъ ь"),
  (42864, "ꝯ"),
  (42994, "C F Q    Ħ œ"),
  (43868, "ꜧ ꬷ ɫ ꭒ"),
  (43881, "ʍ"),
  (63744, "豈 更 車 賈 滑 串 句 龜 龜 契 金 喇 奈 懶 癩 羅 蘿 螺 裸 邏 樂 洛 烙 珞 落 酪 駱 亂 卵 欄 爛 蘭 鸞 嵐 濫 藍 襤 拉 臘"),
  (63783, "蠟 廊 朗 浪 狼 郎 來 冷 勞 擄 櫓 爐 盧 老 蘆 虜 路 露 魯 鷺 碌 祿 綠 菉 錄 鹿 論 壟 弄 籠 聾 牢 磊 賂 雷 壘 屢 樓 淚"),
  (63822, "漏 累 縷 陋 勒 肋 凜 凌 稜 綾 菱 陵 讀 拏 樂 諾 丹 寧 怒 率 異 北 磻 便 復 不 泌 數 索 參 塞 省 葉 說 殺 辰 沈 拾 若"),
  (63861, "掠 略 亮 兩 凉 梁 糧 良 諒 量 勵 呂 女 廬 旅 濾 礪 閭 驪 麗 黎 力 曆 歷 轢 年 憐 戀 撚 漣 煉 璉 秊 練 聯 輦 蓮 連 鍊"),
  (63900, "列 劣 咽 烈 裂 說 廉 念 捻 殮 簾 獵 令 囹 寧 嶺 怜 玲 瑩 羚 聆 鈴 零 靈 領 例 禮 醴 隸 惡 了 僚 寮 尿 料 樂 燎 療 蓼"),
  (63939, "遼 龍 暈 阮 劉 杻 柳 流 溜 琉 留 硫 紐 類 六 戮 陸 倫 崙 淪 輪 律 慄 栗 率 隆 利 吏 履 易 李 梨 泥 理 痢 罹 裏 裡 里"),
  (63978, "離 匿 溺 吝 燐 璘 藺 隣 鱗 麟 林 淋 臨 立 笠 粒 狀 炙 識 什 茶 刺 切 度 拓 糖 宅 洞 暴 輻 行 降 見 廓 兀 嗀   塚  晴"),
  (64021, "凞 猪 益 礼 神 祥 福 靖 精 羽  蘒  諸   逸 都    飯 飼 館 鶴 郞 隷 侮 僧 免 勉 勤 卑 喝 嘆 器 塀 墨 層 屮 悔 慨 憎"),
  (64064, "懲 敏 既 暑 梅 海 渚 漢 煮 爫 琢 碑 社 祉 祈 祐 祖 祝 禍 禎 穀 突 節 練 縉 繁 署 者 臭 艹 艹 著 褐 視 謁 謹 賓 贈 辶"),
  (64103, "逸 難 響 頻 恵 𤋮 舘   並 况 全 侀 充 冀 勇 勺 喝 啕 喙 嗢 塚 墳 奄 奔 婢 嬨 廒 廙 彩 徭 惘 慎 愈 憎 慠 懲 戴 揄 搜"),
  (64143, "摒 敖 晴 朗 望 杖 歹 殺 流 滛 滋 漢 瀞 煮 瞧 爵 犯 猪 瑱 甆 画 瘝 瘟 益 盛 直 睊 着 磌 窱 節 类 絛 練 缾 者 荒 華 蝹"),
  (64182, "襁 覆 視 調 諸 請 謁 諾 諭 謹 變 贈 輸 遲 醙 鉶 陼 難 靖 韛 響 頋 頻 鬒 龜 𢡊 𢡄 𣏕 㮝 䀘 䀹 𥉉 𥳐 𧻓 齃 龎"),
  (64256, "ff fi fl ffi ffl st st"),
  (64275, "մն մե մի վն մխ      י\u05b4  ײ\u05b7 ע א ד ה כ ל ם ר ת  ש\u05c1 ש\u05c2"),
  (64300, "ש\u05bc\u05c1 ש\u05bc\u05c2 א\u05b7 א\u05b8 א\u05bc ב\u05bc ג\u05bc ד\u05bc"),
  (64308, "ה\u05bc ו\u05bc ז\u05bc  ט\u05bc י\u05bc ך\u05bc כ\u05bc ל\u05bc  מ\u05bc"),
  (64320, "נ\u05bc ס\u05bc  ף\u05bc פ\u05bc  צ\u05bc ק\u05bc ר\u05bc ש\u05bc ת\u05bc"),
  (64331, "ו\u05b9 ב\u05bf כ\u05bf פ\u05bf אל ٱ ٱ ٻ ٻ ٻ ٻ پ پ پ پ ڀ ڀ ڀ ڀ ٺ ٺ ٺ ٺ ٿ ٿ ٿ ٿ"),
  (64358, "ٹ ٹ ٹ ٹ ڤ ڤ ڤ ڤ ڦ ڦ ڦ ڦ ڄ ڄ ڄ ڄ ڃ ڃ ڃ ڃ چ چ چ چ ڇ ڇ ڇ ڇ ڍ ڍ ڌ ڌ ڎ ڎ ڈ ڈ ژ ژ ڑ"),
  (64397, "ڑ ک ک ک ک گ گ گ گ ڳ ڳ ڳ ڳ ڱ ڱ ڱ ڱ ں ں ڻ ڻ ڻ ڻ ە\u0654 ە\u0654 ہ ہ ہ ہ ھ ھ ھ ھ"),
  (64430, "ے ے ے\u0654 ے\u0654"),
  (64467, "ڭ ڭ ڭ ڭ ۇ ۇ ۆ ۆ ۈ ۈ ۇٴ ۋ ۋ ۅ ۅ ۉ ۉ ې ې ې ې ى ى ي\u0654ا ي\u0654ا ي\u0654ە"),
  (64493, "ي\u0654ە ي\u0654و ي\u0654و ي\u0654ۇ ي\u0654ۇ ي\u0654ۆ ي\u0654ۆ ي\u0654ۈ"),
  (64501, "ي\u0654ۈ ي\u0654ې ي\u0654ې ي\u0654ې ي\u0654ى ي\u0654ى ي\u0654ى ی ی ی ی"),
  (64512, "ي\u0654ج ي\u0654ح ي\u0654م ي\u0654ى ي\u0654ي بج بح بخ بم بى بي تج تح تخ تم تى"),
  (64528, "تي ثج ثم ثى ثي جح جم حج حم خج خح خم سج سح سخ سم صح صم ضج ضح ضخ ضم طح طم ظم عج"),
  (64554, "عم غج غم فج فح فخ فم فى في قح قم قى قي كا كج كح كخ كل كم كى كي لج لح لخ لم لى"),
  (64580, "لي مج مح مخ مم مى مي نج نح نخ نم نى ني هج هم هى هي يج يح يخ يم يى يي ذ\u0670"),
  (64604, "ر\u0670 ى\u0670"),
  (64612, "ي\u0654ر ي\u0654ز ي\u0654م ي\u0654ن ي\u0654ى ي\u0654ي بر بز بم بن بى بي تر تز"),
  (64626, "تم تن تى تي ثر ثز ثم ثن ثى ثي فى في قى قي كا كل كم كى كي لم لى لي ما مم نر نز"),
  (64652, "نم نن نى ني ى\u0670 ير يز يم ين يى يي ي\u0654ج ي\u0654ح ي\u0654خ ي\u0654م"),
  (64667, "ي\u0654ه بج بح بخ بم به تج تح تخ تم ته ثم جح جم حج حم خج خم سج سح سخ سم صح صخ"),
  (64691, "صم ضج ضح ضخ ضم طح ظم عج عم غج غم فج فح فخ فم قح قم كج كح كخ كل كم لج لح لخ لم"),
  (64717, "له مج مح مخ مم نج نح نخ نم نه هج هم ه\u0670 يج يح يخ يم يه ي\u0654م ي\u0654ه"),
  (64737, "بم به تم ته ثم ثه سم سه شم شه كل كم لم نم نه يم يه ـ\u064e\u0651 ـ\u064f\u0651"),
  (64756, "ـ\u0650\u0651 طى طي عى عي غى غي سى سي شى شي حى حي جى جي خى خي صى صي ضى ضي شج"),
  (64778, "شح شخ شم شر سر صر ضر طى طي عى عي غى غي سى سي شى شي حى حي جى جي خى خي صى صي ضى"),
  (64804, "ضي شج شح شخ شم شر سر صر ضر شج شح شخ شم سه شه طم سج سح سخ شج شح شخ طم ظم"),
  (64828, "ا\u064b ا\u064b"),
  (64848, "تجم تحج تحج تحم تخم تمج تمح تمخ جمح جمح حمي حمى سحج سجح سجى سمح سمح سمج سمم"),
  (64867, "سمم صحح صحح صمم شحم شحم شجي شمخ شمخ شمم شمم ضحى ضخم ضخم طمح طمح طمم طمي عجم"),
  (64886, "عمم عمم عمى غمم غمي غمى فخم فخم قمح قمم لحم لحي لحى لجج لجج لخم لخم لمح لمح"),
  (64905, "محج محم محي مجح مجم مخج مخم   مجخ همج همم نحم نحى نجم نجم نجى نمي نمى يمم يمم"),
  (64926, "بخي تجي تجى تخي تخى تمي تمى جمي جحى جمى سخى صحي شحي ضحي لجي لمي يحي يجي يمي"),
  (64945, "ممي قمي نحي قمح لحم عمي كمي نجح مخي لجم كمم لجم نجح جحي حجي مجي فمي بحي كمم"),
  (64964, "عجم صمم سخي نجي"),
  (65008, "صلے قلے الله اكبر محمد صلعم رسول عليه وسلم صلى"),
  (65075, "_ _"),
  (65101, "_ _ _"),
  (65137, "ـ\u064b      ـ\u064e  ـ\u064f  ـ\u0650  ـ\u0651  ـ\u0652 ء ا\u0653 ا\u0653"),
  (65155, "ا\u0654 ا\u0654 و\u0654 و\u0654 ا\u0655 ا\u0655 ي\u0654 ي\u0654 ي\u0654"),
  (65164, "ي\u0654 ا ا ب ب ب ب ة ة ت ت ت ت ث ث ث ث ج ج ج ج ح ح ح ح خ خ خ خ د د ذ ذ ر ر ز"),
  (65200, "ز س س س س ش ش ش ش ص ص ص ص ض ض ض ض ط ط ط ط ظ ظ ظ ظ ع ع ع ع غ غ غ غ ف ف ف ف ق ق"),
  (65239, "ق ق ك ك ك ك ل ل ل ل م م م م ن ن ن ن ه ه ه ه و و ى ى ي ي ي ي لا\u0653 لا\u0653"),
  (65271, "لا\u0654 لا\u0654 لا\u0655 لا\u0655 لا لا"),
  (65296, "0 1 2 3 4 5 6 7 8 9"),
  (65313, "A B C D E F G H I J K L M N O P Q R S T U V W X Y Z     _  a b c d e f g h i j"),
  (65355, "k l m n o p q r s t u v w x y z"),
  (65382, "ヲ ァ ィ ゥ ェ ォ ャ ュ ョ ッ ー ア イ ウ エ オ カ キ ク ケ コ サ シ ス セ ソ タ チ ツ テ ト ナ ニ ヌ ネ ノ ハ ヒ フ"),
  (65421, "ヘ ホ マ ミ ム メ モ ヤ ユ ヨ ラ リ ル レ ロ ワ ン \u3099 \u309a ᅠ ᄀ ᄁ ᆪ ᄂ ᆬ ᆭ ᄃ ᄄ ᄅ ᆰ ᆱ ᆲ ᆳ ᆴ"),
  (65455, "ᆵ ᄚ ᄆ ᄇ ᄈ ᄡ ᄉ ᄊ ᄋ ᄌ ᄍ ᄎ ᄏ ᄐ ᄑ ᄒ    ᅡ ᅢ ᅣ ᅤ ᅥ ᅦ   ᅧ ᅨ ᅩ ᅪ ᅫ ᅬ   ᅭ ᅮ ᅯ ᅰ ᅱ ᅲ   ᅳ"),
  (65499, "ᅴ ᅵ"),
  (67457, "ː ˑ æ ʙ ɓ  ʣ ꭦ ʥ ʤ ɖ ɗ ᶑ ɘ ɞ ʩ ɤ ɢ ɠ ʛ ħ ʜ ɧ ʄ ʪ ʫ ɬ 𝼄 ꞎ ɮ 𝼅 ʎ 𝼆 ø ɶ ɷ q ɺ 𝼈 ɽ"),
  (67497, "ɾ ʀ ʨ ʦ ꭧ ʧ ʈ ⱱ  ʏ ʡ ʢ ʘ ǀ ǁ ǂ 𝼊 𝼞"),
  (119808, "A B C D E F G H I J K L M N O P Q R S T U V W X Y Z a b c d e f g h i j k l m"),
  (119847, "n o p q r s t u v w x y z A B C D E F G H I J K L M N O P Q R S T U V W X Y Z"),
  (119886, "a b c d e f g  i j k l m n o p q r s t u v w x y z A B C D E F G H I J K L M"),
  (119925, "N O P Q R S T U V W X Y Z a b c d e f g h i j k l m n o p q r s t u v w x y z"),
  (119964, "A  C D   G   J K   N O P Q  S T U V W X Y Z a b c d  f  h i j k l m n  p q r"),
  (120008, "s t u v w x y z A B C D E F G H I J K L M N O P Q R S T U V W X Y Z a b c d e"),
  (120047, "f g h i j k l m n o p q r s t u v w x y z A B  D E F G   J K L M N O P Q  S T"),
  (120088, "U V W X Y  a b c d e f g h i j k l m n o p q r s t u v w x y z A B  D E F G"),
  (120128, "I J K L M  O    S T U V W X Y  a b c d e f g h i j k l m n o p q r s t u v w"),
  (120169, "x y z A B C D E F G H I J K L M N O P Q R S T U V W X Y Z a b c d e f g h i j"),
  (120208, "k l m n o p q r s t u v w x y z A B C D E F G H I J K L M N O P Q R S T U V W"),
  (120247, "X Y Z a b c d e f g h i j k l m n o p q r s t u v w x y z A B C D E F G H I J"),
  (120286, "K L M N O P Q R S T U V W X Y Z a b c d e f g h i j k l m n o p q r s t u v w"),
  (120325, "x y z A B C D E F G H I J K L M N O P Q R S T U V W X Y Z a b c d e f g h i j"),
  (120364, "k l m n o p q r s t u v w x y z A B C D E F G H I J K L M N O P Q R S T U V W"),
  (120403, "X Y Z a b c d e f g h i j k l m n o p q r s t u v w x y z A B C D E F G H I J"),
  (120442, "K L M N O P Q R S T U V W X Y Z a b c d e f g h i j k l m n o p q r s t u v w"),
  (120481, "x y z ı ȷ   Α Β Γ Δ Ε Ζ Η Θ Ι Κ Λ Μ Ν Ξ Ο Π Ρ Θ Σ Τ Υ Φ Χ Ψ Ω  α β γ δ ε ζ η"),
  (120521, "θ ι κ λ μ ν ξ ο π ρ ς σ τ υ φ χ ψ ω  ε θ κ φ ρ π Α Β Γ Δ Ε Ζ Η Θ Ι Κ Λ Μ Ν Ξ"),
  (120560, "Ο Π Ρ Θ Σ Τ Υ Φ Χ Ψ Ω  α β γ δ ε ζ η θ ι κ λ μ ν ξ ο π ρ ς σ τ υ φ χ ψ ω  ε θ"),
  (120600, "κ φ ρ π Α Β Γ Δ Ε Ζ Η Θ Ι Κ Λ Μ Ν Ξ Ο Π Ρ Θ Σ Τ Υ Φ Χ Ψ Ω  α β γ δ ε ζ η θ ι"),
  (120639, "κ λ μ ν ξ ο π ρ ς σ τ υ φ χ ψ ω  ε θ κ φ ρ π Α Β Γ Δ Ε Ζ Η Θ Ι Κ Λ Μ Ν Ξ Ο Π"),
  (120678, "Ρ Θ Σ Τ Υ Φ Χ Ψ Ω  α β γ δ ε ζ η θ ι κ λ μ ν ξ ο π ρ ς σ τ υ φ χ ψ ω  ε θ κ φ"),
  (120718, "ρ π Α Β Γ Δ Ε Ζ Η Θ Ι Κ Λ Μ Ν Ξ Ο Π Ρ Θ Σ Τ Υ Φ Χ Ψ Ω  α β γ δ ε ζ η θ ι κ λ"),
  (120757, "μ ν ξ ο π ρ ς σ τ υ φ χ ψ ω  ε θ κ φ ρ π Ϝ ϝ   0 1 2 3 4 5 6 7 8 9 0 1 2 3 4"),
  (120797, "5 6 7 8 9 0 1 2 3 4 5 6 7 8 9 0 1 2 3 4 5 6 7 8 9 0 1 2 3 4 5 6 7 8 9"),
  (126464, "ا ب ج د  و ز ح ط ي ك ل م ن س ع ف ص ق ر ش ت ث خ ذ ض ظ غ ٮ ں ڡ ٯ  ب ج  ه   ح  ي"),
  (126506, "ك ل م ن س ع ف ص ق  ش ت ث خ  ض  غ"),
  (126530, "ج     ح  ي  ل  ن س ع  ص ق  ش   خ  ض  غ  ں  ٯ  ب ج  ه   ح ط ي ك  م ن س ع ف ص ق"),
  (126580, "ش ت ث خ  ض ظ غ ٮ  ڡ  ا ب ج د ه و ز ح ط ي  ل م ن س ع ف ص ق ر ش ت ث خ ذ ض ظ غ"),
  (126625, "ب ج د  و ز ح ط ي  ل م ن س ع ف ص ق ر ش ت ث خ ذ ض ظ غ"),
  (130032, "0 1 2 3 4 5 6 7 8 9"),
  (194560, "丽 丸 乁 𠄢 你 侮 侻 倂 偺 備 僧 像 㒞 𠘺 免 兔 兤 具 𠔜 㒹 內 再 𠕋 冗 冤 仌 冬 况 𩇟 凵 刃 㓟 刻 剆 割 剷 㔕 勇 勉"),
  (194599, "勤 勺 包 匆 北 卉 卑 博 即 卽 卿 卿 卿 𠨬 灰 及 叟 𠭣 叫 叱 吆 咞 吸 呈 周 咢 哶 唐 啓 啣 善 善 喙 喫 喳 嗂 圖 嘆 圗"),
  (194638, "噑 噴 切 壮 城 埴 堍 型 堲 報 墬 𡓤 売 壷 夆 多 夢 奢 𡚨 𡛪 姬 娛 娧 姘 婦 㛮 㛼 嬈 嬾 嬾 𡧈 寃 寘 寧 寳 𡬘 寿 将 当"),
  (194677, "尢 㞁 屠 屮 峀 岍 𡷤 嵃 𡷦 嵮 嵫 嵼 巡 巢 㠯 巽 帨 帽 幩 㡢 𢆃 㡼 庰 庳 庶 廊 𪎒 廾 𢌱 𢌱 舁 弢 弢 㣇 𣊸 𦇚 形 彫 㣣"),
  (194716, "徚 忍 志 忹 悁 㤺 㤜 悔 𢛔 惇 慈 慌 慎 慌 慺 憎 憲 憤 憯 懞 懲 懶 成 戛 扝 抱 拔 捐 𢬌 挽 拼 捨 掃 揤 𢯱 搢 揅 掩 㨮"),
  (194755, "摩 摾 撝 摷 㩬 敏 敬 𣀊 旣 書 晉 㬙 暑 㬈 㫤 冒 冕 最 暜 肭 䏙 朗 望 朡 杞 杓 𣏃 㭉 柺 枅 桒 梅 𣑭 梎 栟 椔 㮝 楂 榣"),
  (194794, "槪 檨 𣚣 櫛 㰘 次 𣢧 歔 㱎 歲 殟 殺 殻 𣪍 𡴋 𣫺 汎 𣲼 沿 泍 汧 洖 派 海 流 浩 浸 涅 𣴞 洴 港 湮 㴳 滋 滇 𣻑 淹 潮 𣽞"),
  (194833, "𣾎 濆 瀹 瀞 瀛 㶖 灊 災 灷 炭 𠔥 煅 𤉣 熜 𤎫 爨 爵 牐 𤘈 犀 犕 𤜵 𤠔 獺 王 㺬 玥 㺸 㺸 瑇 瑜 瑱 璅 瓊 㼛 甤 𤰶 甾 𤲒"),
  (194872, "異 𢆟 瘐 𤾡 𤾸 𥁄 㿼 䀈 直 𥃳 𥃲 𥄙 𥄳 眞 真 真 睊 䀹 瞋 䁆 䂖 𥐝 硎 碌 磌 䃣 𥘦 祖 𥚚 𥛅 福 秫 䄯 穀 穊 穏 𥥼 𥪧 𥪧"),
  (194911, "竮 䈂 𥮫 篆 築 䈧 𥲀 糒 䊠 糨 糣 紀 𥾆 絣 䌁 緇 縂 繅 䌴 𦈨 𦉇 䍙 𦋙 罺 𦌾 羕 翺 者 𦓚 𦔣 聠 𦖨 聰 𣍟 䏕 育 脃 䐋 脾"),
  (194950, "媵 𦞧 𦞵 𣎓 𣎜 舁 舄 辞 䑫 芑 芋 芝 劳 花 芳 芽 苦 𦬼 若 茝 荣 莭 茣 莽 菧 著 荓 菊 菌 菜 𦰶 𦵫 𦳕 䔫 蓱 蓳 蔖 𧏊 蕤"),
  (194989, "𦼬 䕝 䕡 𦾱 𧃒 䕫 虐 虜 虧 虩 蚩 蚈 蜎 蛢 蝹 蜨 蝫 螆 䗗 蟡 蠁 䗹 衠 衣 𧙧 裗 裞 䘵 裺 㒻 𧢮 𧥦 䚾 䛇 誠 諭 變 豕 𧲨"),
  (195028, "貫 賁 贛 起 𧼯 𠠄 跋 趼 跰 𠣞 軔 輸 𨗒 𨗭 邔 郱 鄑 𨜮 鄛 鈸 鋗 鋘 鉼 鏹 鐕 𨯺 開 䦕 閷 𨵷 䧦 雃 嶲 霣 𩅅 𩈚 䩮 䩶 韠"),
  (195067, "𩐊 䪲 𩒖 頋 頋 頩 𩖶 飢 䬳 餩 馧 駂 駾 䯎 𩬰 鬒 鱀 鳽 䳎 䳭 鵧 𪃎 䳸 𪄅 𪈎 𪊑 麻 䵖 黹 黾 鼅 鼏 鼖 鼻 𪘀")]

end Chunkwise.Text
