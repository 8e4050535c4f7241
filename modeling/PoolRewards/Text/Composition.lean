/-
The composed form of a text.

A character and a mark on it may be one character or two.  In the composed form of a text
whatever can be one character is one, with the marks put in order first, so that texts that
look and read the same are the same.  The syllables of one script follow a rule of their own.

Characters that only stand for others, and so are in no composed text, are left alone.
-/
import PoolRewards.Text.Combining

namespace PoolRewards.Text

/-- Second characters, each with the pairs of a first character and of what both together are. -/
def compositions : List (Nat × String) :=
  [(0x300, "AÀEÈIÌNǸOÒUÙWẀYỲaàeèiìnǹoòuùwẁyỳ¨῭ÂẦÊỀÔỒÜǛâầêềôồ"),
   (0x300, "üǜĂẰăằĒḔēḕŌṐōṑƠỜơờƯỪưừΑᾺΕῈΗῊΙῚΟῸΥῪΩῺαὰεὲηὴιὶοὸυὺ"),
   (0x300, "ωὼϊῒϋῢЕЀИЍеѐиѝἀἂἁἃἈἊἉἋἐἒἑἓἘἚἙἛἠἢἡἣἨἪἩἫἰἲἱἳἸἺἹἻὀὂ"),
   (0x300, "ὁὃὈὊὉὋὐὒὑὓὙὛὠὢὡὣὨὪὩὫ᾿῍῾῝"),
   (0x301, "AÁCĆEÉGǴIÍKḰLĹMḾNŃOÓPṔRŔSŚUÚWẂYÝZŹaácćeégǵiíkḱlĺ"),
   (0x301, "mḿnńoópṕrŕsśuúwẃyýzź¨΅ÂẤÅǺÆǼÇḈÊẾÏḮÔỐÕṌØǾÜǗâấåǻæǽ"),
   (0x301, "çḉêếïḯôốõṍøǿüǘĂẮăắĒḖēḗŌṒōṓŨṸũṹƠỚơớƯỨưứΑΆΕΈΗΉΙΊΟΌ"),
   (0x301, "ΥΎΩΏαάεέηήιίοόυύωώϊΐϋΰϒϓГЃКЌгѓкќἀἄἁἅἈἌἉἍἐἔἑἕἘἜἙἝ"),
   (0x301, "ἠἤἡἥἨἬἩἭἰἴἱἵἸἼἹἽὀὄὁὅὈὌὉὍὐὔὑὕὙὝὠὤὡὥὨὬὩὭ᾿῎῾῞"),
   (0x302, "AÂCĈEÊGĜHĤIÎJĴOÔSŜUÛWŴYŶZẐaâcĉeêgĝhĥiîjĵoôsŝuûwŵ"),
   (0x302, "yŷzẑẠẬạậẸỆẹệỌỘọộ"),
   (0x303, "AÃEẼIĨNÑOÕUŨVṼYỸaãeẽiĩnñoõuũvṽyỹÂẪÊỄÔỖâẫêễôỗĂẴăẵ"),
   (0x303, "ƠỠơỡƯỮưữ"),
   (0x304, "AĀEĒGḠIĪOŌUŪYȲaāeēgḡiīoōuūyȳÄǞÆǢÕȬÖȪÜǕäǟæǣõȭöȫüǖ"),
   (0x304, "ǪǬǫǭȦǠȧǡȮȰȯȱΑᾹΙῙΥῩαᾱιῑυῡИӢУӮиӣуӯḶḸḷḹṚṜṛṝ"),
   (0x306, "AĂEĔGĞIĬOŎUŬaăeĕgğiĭoŏuŭȨḜȩḝΑᾸΙῘΥῨαᾰιῐυῠАӐЕӖЖӁИЙ"),
   (0x306, "УЎаӑеӗжӂийуўẠẶạặ"),
   (0x307, "AȦBḂCĊDḊEĖFḞGĠHḢIİMṀNṄOȮPṖRṘSṠTṪWẆXẊYẎZŻaȧbḃcċdḋ"),
   (0x307, "eėfḟgġhḣmṁnṅoȯpṗrṙsṡtṫwẇxẋyẏzżŚṤśṥŠṦšṧſẛṢṨṣṩ𐗒𐗉𐗚𐗤"),
   (0x308, "AÄEËHḦIÏOÖUÜWẄXẌYŸaäeëhḧiïoötẗuüwẅxẍyÿÕṎõṏŪṺūṻΙΪ"),
   (0x308, "ΥΫιϊυϋϒϔІЇАӒЕЁЖӜЗӞИӤОӦУӰЧӴЫӸЭӬаӓеёжӝзӟиӥоӧуӱчӵыӹ"),
   (0x308, "эӭіїӘӚәӛӨӪөӫ"),
   (0x309, "AẢEẺIỈOỎUỦYỶaảeẻiỉoỏuủyỷÂẨÊỂÔỔâẩêểôổĂẲăẳƠỞơởƯỬưử"),
   (0x30a, "AÅUŮaåuůwẘyẙ"),
   (0x30b, "OŐUŰoőuűУӲуӳ"),
   (0x30c, "AǍCČDĎEĚGǦHȞIǏKǨLĽNŇOǑRŘSŠTŤUǓZŽaǎcčdďeěgǧhȟiǐjǰ"),
   (0x30c, "kǩlľnňoǒrřsštťuǔzžÜǙüǚƷǮʒǯ"),
   (0x30f, "AȀEȄIȈOȌRȐUȔaȁeȅiȉoȍrȑuȕѴѶѵѷ"),
   (0x311, "AȂEȆIȊOȎRȒUȖaȃeȇiȋoȏrȓuȗ"),
   (0x313, "ΑἈΕἘΗἨΙἸΟὈΩὨαἀεἐηἠιἰοὀρῤυὐωὠ"),
   (0x314, "ΑἉΕἙΗἩΙἹΟὉΡῬΥὙΩὩαἁεἑηἡιἱοὁρῥυὑωὡ"),
   (0x31b, "OƠUƯoơuư"),
   (0x323, "AẠBḄDḌEẸHḤIỊKḲLḶMṂNṆOỌRṚSṢTṬUỤVṾWẈYỴZẒaạbḅdḍeẹhḥ"),
   (0x323, "iịkḳlḷmṃnṇoọrṛsṣtṭuụvṿwẉyỵzẓƠỢơợƯỰưự"),
   (0x324, "UṲuṳ"),
   (0x325, "AḀaḁ"),
   (0x326, "SȘTȚsștț"),
   (0x327, "CÇDḐEȨGĢHḨKĶLĻNŅRŖSŞTŢcçdḑeȩgģhḩkķlļnņrŗsştţ"),
   (0x328, "AĄEĘIĮOǪUŲaąeęiįoǫuų"),
   (0x32d, "DḒEḘLḼNṊTṰUṶdḓeḙlḽnṋtṱuṷ"),
   (0x32e, "HḪhḫ"),
   (0x330, "EḚIḬUṴeḛiḭuṵ"),
   (0x331, "BḆDḎKḴLḺNṈRṞTṮZẔbḇdḏhẖkḵlḻnṉrṟtṯzẕ"),
   (0x338, "<≮=≠>≯←↚→↛↔↮⇐⇍⇒⇏⇔⇎∃∄∈∉∋∌∣∤∥∦∼≁≃≄≅≇≈≉≍≭≡≢≤≰≥≱≲≴≳≵"),
   (0x338, "≶≸≷≹≺⊀≻⊁≼⋠≽⋡⊂⊄⊃⊅⊆⊈⊇⊉⊑⋢⊒⋣⊢⊬⊨⊭⊩⊮⊫⊯⊲⋪⊳⋫⊴⋬⊵⋭"),
   (0x342, "¨῁αᾶηῆιῖυῦωῶϊῗϋῧἀἆἁἇἈἎἉἏἠἦἡἧἨἮἩἯἰἶἱἷἸἾἹἿὐὖὑὗὙὟὠὦ"),
   (0x342, "ὡὧὨὮὩὯ᾿῏῾῟"),
   (0x345, "ΑᾼΗῌΩῼάᾴήῄαᾳηῃωῳώῴἀᾀἁᾁἂᾂἃᾃἄᾄἅᾅἆᾆἇᾇἈᾈἉᾉἊᾊἋᾋἌᾌἍᾍἎᾎ"),
   (0x345, "ἏᾏἠᾐἡᾑἢᾒἣᾓἤᾔἥᾕἦᾖἧᾗἨᾘἩᾙἪᾚἫᾛἬᾜἭᾝἮᾞἯᾟὠᾠὡᾡὢᾢὣᾣὤᾤὥᾥὦᾦ"),
   (0x345, "ὧᾧὨᾨὩᾩὪᾪὫᾫὬᾬὭᾭὮᾮὯᾯὰᾲὴῂὼῲᾶᾷῆῇῶῷ"),
   (0x653, "اآ"),
   (0x654, "اأوؤيئہۂےۓەۀ"),
   (0x655, "اإ"),
   (0x93c, "नऩरऱळऴ"),
   (0x9be, "েো"),
   (0x9d7, "েৌ"),
   (0xb3e, "େୋ"),
   (0xb56, "େୈ"),
   (0xb57, "େୌ"),
   (0xbbe, "ெொேோ"),
   (0xbd7, "ஒஔெௌ"),
   (0xc56, "ెై"),
   (0xcc2, "ೆೊ"),
   (0xcd5, "ಿೀೆೇೊೋ"),
   (0xcd6, "ೆೈ"),
   (0xd3e, "െൊേോ"),
   (0xd57, "െൌ"),
   (0xdca, "ෙේොෝ"),
   (0xdcf, "ෙො"),
   (0xddf, "ෙෞ"),
   (0x102e, "ဥဦ"),
   (0x1b35, "ᬅᬆᬇᬈᬉᬊᬋᬌᬍᬎᬑᬒᬺᬻᬼᬽᬾᭀᬿᭁᭂᭃ"),
   (0x3099, "うゔかがきぎくぐけげこごさざしじすずせぜそぞただちぢつづてでとどはばひびふぶへべほぼゝゞウヴカガ"),
   (0x3099, "キギクグケゲコゴサザシジスズセゼソゾタダチヂツヅテデトドハバヒビフブヘベホボワヷヰヸヱヹヲヺヽヾ"),
   (0x309a, "はぱひぴふぷへぺほぽハパヒピフプヘペホポ"),
   (0x110ba, "𑂙𑂚𑂛𑂜𑂥𑂫"),
   (0x11127, "𑄱𑄮𑄲𑄯"),
   (0x1133e, "𑍇𑍋"),
   (0x11357, "𑍇𑍌"),
   (0x113b8, "𑏅𑎸"),
   (0x113bb, "𑎄𑎅"),
   (0x113c2, "𑎋𑎎𑏅𑏂"),
   (0x113c9, "𑎂𑎃𑎐𑎑𑏅𑏉"),
   (0x114b0, "𑒹𑒼"),
   (0x114ba, "𑒹𑒻"),
   (0x114bd, "𑒹𑒾"),
   (0x115af, "𑖸𑖺𑖹𑖻"),
   (0x11930, "𑤵𑤸"),
   (0x1611e, "𖄡𖄞"),
   (0x1611f, "𖄦𖄡𖄦𖄢𖄧𖄩𖄤"),
   (0x16120, "𖄨𖄡𖄨"),
   (0x16129, "𖄡𖄩"),
   (0x16d67, "𖵣𖵪𖵨𖵩𖵪")]

/-! ### Syllables -/

/-- The code of the first syllable. -/
def firstSyllable : Nat := 0xac00

/-- The code of the first consonant that leads a syllable. -/
def firstLeading : Nat := 0x1100

/-- The code of the first vowel. -/
def firstVowel : Nat := 0x1161

/-- The code before the first consonant that closes a syllable, for one that is open. -/
def noTrailing : Nat := 0x11a7

/-- How many consonants lead a syllable. -/
def leadingCount : Nat := 19

/-- How many vowels there are. -/
def vowelCount : Nat := 21

/-- How many consonants close a syllable, with none as one of them. -/
def trailingCount : Nat := 28

/-- The parts of a syllable. -/
def splitSyllable? (c : Char) : Option (List Char) :=
  let index := c.toNat - firstSyllable
  if firstSyllable ≤ c.toNat && index < leadingCount * vowelCount * trailingCount then
    let opened := [firstLeading + index / trailingCount / vowelCount,
      firstVowel + index / trailingCount % vowelCount]
    let closed := if index % trailingCount = 0 then [] else [noTrailing + index % trailingCount]
    some ((opened ++ closed).map Char.ofNat)
  else none

/-- The syllable of two parts, of which the first may be a syllable that is still open. -/
def joinSyllable? (first second : Char) : Option Char :=
  let leading := first.toNat - firstLeading
  let vowel := second.toNat - firstVowel
  let syllable := first.toNat - firstSyllable
  let trailing := second.toNat - noTrailing
  if firstLeading ≤ first.toNat && leading < leadingCount
      && firstVowel ≤ second.toNat && vowel < vowelCount then
    some (.ofNat (firstSyllable + (leading * vowelCount + vowel) * trailingCount))
  else if firstSyllable ≤ first.toNat && syllable < leadingCount * vowelCount * trailingCount
      && syllable % trailingCount = 0 && noTrailing < second.toNat && trailing < trailingCount then
    some (.ofNat (first.toNat + trailing))
  else none

/-! ### Pairs -/

/-- The composite of a first character in a list of pairs. -/
def findComposite (first : Char) : List Char → Option Char
  | a :: b :: rest => if a = first then some b else findComposite first rest
  | _ => none

/-- The first character of a composite in a list of pairs. -/
def findFirst (composite : Char) : List Char → Option Char
  | a :: b :: rest => if b = composite then some a else findFirst composite rest
  | _ => none

/-- What two characters are together. -/
def join? (first second : Char) : Option Char :=
  (joinSyllable? first second).or <|
    compositions.findSome? fun (code, pairs) =>
      if code = second.toNat then findComposite first pairs.toList else none

/-- The two characters of a composite. -/
def split? (c : Char) : Option (Char × Char) :=
  compositions.findSome? fun (code, pairs) => (findFirst c pairs.toList).map (·, Char.ofNat code)

/-- The parts of a character, which is split at most so many times. -/
def partsWithin : (splits : Nat) → Char → List Char
  | 0, c => [c]
  | splits + 1, c =>
    match split? c with
    | some (first, second) => partsWithin splits first ++ partsWithin splits second
    | none => [c]

/-- All parts of a character.  None has more than four. -/
def parts (c : Char) : List Char := (splitSyllable? c).getD (partsWithin 3 c)

/-! ### Whole texts -/

/-- Put a mark before marks, which are in order. -/
def insertMark (mark : Char) : List Char → List Char
  | [] => [mark]
  | c :: rest =>
    if 0 < combiningClass c && combiningClass c < combiningClass mark then c :: insertMark mark rest
    else mark :: c :: rest

/-- Put the marks on each character in order.  Marks of one class stay as they are. -/
def sortMarks (cs : List Char) : List Char := cs.foldr insertMark []

/-- Compose what follows a character.  Marks that wait between them do not hinder one that
comes after them in order. -/
def composeOnto (first : Char) (waiting : List Char) : List Char → List Char
  | [] => first :: waiting.reverse
  | c :: rest =>
    let isNext := match waiting with
      | [] => true
      | last :: _ => combiningClass last < combiningClass c
    match if isNext then join? first c else none with
    | some composite => composeOnto composite waiting rest
    | none =>
      if combiningClass c = 0 then first :: waiting.reverse ++ composeOnto c [] rest
      else composeOnto first (c :: waiting) rest

/-- Compose a text whose marks are in order.  Marks in front of all else stay alone. -/
def compose : List Char → List Char
  | [] => []
  | c :: rest => if combiningClass c = 0 then composeOnto c [] rest else c :: compose rest

/-- The composed form of a text. -/
def composed (cs : List Char) : List Char := compose (sortMarks (cs.flatMap parts))

end PoolRewards.Text
