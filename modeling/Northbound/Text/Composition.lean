/-!
# Composed characters

Many characters stand for two others in a row: a letter and an accent, or a syllable and what closes
it. The table gives the pairs; the syllables of Hangul are computed.
-/

namespace Northbound.Text

/-- The composed characters by the code point of their second part: the first part and the composed
character in turn. Parts that are composed themselves have an entry of their own. -/
def compositionTable : List (Nat × String) := [
  (0x300, "AÀEÈIÌNǸOÒUÙWẀYỲaàeèiìnǹoòuùwẁyỳ¨῭ÂẦÊỀÔỒÜǛâầêềôồüǜĂẰăằĒḔēḕŌṐōṑƠỜơờƯỪưừΑᾺΕῈΗῊΙῚ"),
  (0x300, "ΟῸΥῪΩῺαὰεὲηὴιὶοὸυὺωὼϊῒϋῢЕЀИЍеѐиѝἀἂἁἃἈἊἉἋἐἒἑἓἘἚἙἛἠἢἡἣἨἪἩἫἰἲἱἳἸἺἹἻὀὂὁὃὈὊὉὋὐὒὑὓὙὛ"),
  (0x300, "ὠὢὡὣὨὪὩὫ᾿῍῾῝"),
  (0x301, "AÁCĆEÉGǴIÍKḰLĹMḾNŃOÓPṔRŔSŚUÚWẂYÝZŹaácćeégǵiíkḱlĺmḿnńoópṕrŕsśuúwẃyýzź¨΅ÂẤÅǺÆǼÇḈ"),
  (0x301, "ÊẾÏḮÔỐÕṌØǾÜǗâấåǻæǽçḉêếïḯôốõṍøǿüǘĂẮăắĒḖēḗŌṒōṓŨṸũṹƠỚơớƯỨưứΑΆΕΈΗΉΙΊΟΌΥΎΩΏαάεέηήιί"),
  (0x301, "οόυύωώϊΐϋΰϒϓГЃКЌгѓкќἀἄἁἅἈἌἉἍἐἔἑἕἘἜἙἝἠἤἡἥἨἬἩἭἰἴἱἵἸἼἹἽὀὄὁὅὈὌὉὍὐὔὑὕὙὝὠὤὡὥὨὬὩὭ᾿῎῾῞"),
  (0x302, "AÂCĈEÊGĜHĤIÎJĴOÔSŜUÛWŴYŶZẐaâcĉeêgĝhĥiîjĵoôsŝuûwŵyŷzẑẠẬạậẸỆẹệỌỘọộ"),
  (0x303, "AÃEẼIĨNÑOÕUŨVṼYỸaãeẽiĩnñoõuũvṽyỹÂẪÊỄÔỖâẫêễôỗĂẴăẵƠỠơỡƯỮưữ"),
  (0x304, "AĀEĒGḠIĪOŌUŪYȲaāeēgḡiīoōuūyȳÄǞÆǢÕȬÖȪÜǕäǟæǣõȭöȫüǖǪǬǫǭȦǠȧǡȮȰȯȱΑᾹΙῙΥῩαᾱιῑυῡИӢУӮиӣ"),
  (0x304, "уӯḶḸḷḹṚṜṛṝ"),
  (0x306, "AĂEĔGĞIĬOŎUŬaăeĕgğiĭoŏuŭȨḜȩḝΑᾸΙῘΥῨαᾰιῐυῠАӐЕӖЖӁИЙУЎаӑеӗжӂийуўẠẶạặ"),
  (0x307, "AȦBḂCĊDḊEĖFḞGĠHḢIİMṀNṄOȮPṖRṘSṠTṪWẆXẊYẎZŻaȧbḃcċdḋeėfḟgġhḣmṁnṅoȯpṗrṙsṡtṫwẇxẋyẏzż"),
  (0x307, "ŚṤśṥŠṦšṧſẛṢṨṣṩ𐗒𐗉𐗚𐗤"),
  (0x308, "AÄEËHḦIÏOÖUÜWẄXẌYŸaäeëhḧiïoötẗuüwẅxẍyÿÕṎõṏŪṺūṻΙΪΥΫιϊυϋϒϔІЇАӒЕЁЖӜЗӞИӤОӦУӰЧӴЫӸЭӬ"),
  (0x308, "аӓеёжӝзӟиӥоӧуӱчӵыӹэӭіїӘӚәӛӨӪөӫ"),
  (0x309, "AẢEẺIỈOỎUỦYỶaảeẻiỉoỏuủyỷÂẨÊỂÔỔâẩêểôổĂẲăẳƠỞơởƯỬưử"),
  (0x30a, "AÅUŮaåuůwẘyẙ"),
  (0x30b, "OŐUŰoőuűУӲуӳ"),
  (0x30c, "AǍCČDĎEĚGǦHȞIǏKǨLĽNŇOǑRŘSŠTŤUǓZŽaǎcčdďeěgǧhȟiǐjǰkǩlľnňoǒrřsštťuǔzžÜǙüǚƷǮʒǯ"),
  (0x30f, "AȀEȄIȈOȌRȐUȔaȁeȅiȉoȍrȑuȕѴѶѵѷ"),
  (0x311, "AȂEȆIȊOȎRȒUȖaȃeȇiȋoȏrȓuȗ"),
  (0x313, "ΑἈΕἘΗἨΙἸΟὈΩὨαἀεἐηἠιἰοὀρῤυὐωὠ"),
  (0x314, "ΑἉΕἙΗἩΙἹΟὉΡῬΥὙΩὩαἁεἑηἡιἱοὁρῥυὑωὡ"),
  (0x31b, "OƠUƯoơuư"),
  (0x323, "AẠBḄDḌEẸHḤIỊKḲLḶMṂNṆOỌRṚSṢTṬUỤVṾWẈYỴZẒaạbḅdḍeẹhḥiịkḳlḷmṃnṇoọrṛsṣtṭuụvṿwẉyỵzẓƠỢ"),
  (0x323, "ơợƯỰưự"),
  (0x324, "UṲuṳ"),
  (0x325, "AḀaḁ"),
  (0x326, "SȘTȚsștț"),
  (0x327, "CÇDḐEȨGĢHḨKĶLĻNŅRŖSŞTŢcçdḑeȩgģhḩkķlļnņrŗsştţ"),
  (0x328, "AĄEĘIĮOǪUŲaąeęiįoǫuų"),
  (0x32d, "DḒEḘLḼNṊTṰUṶdḓeḙlḽnṋtṱuṷ"),
  (0x32e, "HḪhḫ"),
  (0x330, "EḚIḬUṴeḛiḭuṵ"),
  (0x331, "BḆDḎKḴLḺNṈRṞTṮZẔbḇdḏhẖkḵlḻnṉrṟtṯzẕ"),
  (0x338, "<≮=≠>≯←↚→↛↔↮⇐⇍⇒⇏⇔⇎∃∄∈∉∋∌∣∤∥∦∼≁≃≄≅≇≈≉≍≭≡≢≤≰≥≱≲≴≳≵≶≸≷≹≺⊀≻⊁≼⋠≽⋡⊂⊄⊃⊅⊆⊈⊇⊉⊑⋢⊒⋣⊢⊬⊨⊭⊩⊮"),
  (0x338, "⊫⊯⊲⋪⊳⋫⊴⋬⊵⋭"),
  (0x342, "¨῁αᾶηῆιῖυῦωῶϊῗϋῧἀἆἁἇἈἎἉἏἠἦἡἧἨἮἩἯἰἶἱἷἸἾἹἿὐὖὑὗὙὟὠὦὡὧὨὮὩὯ᾿῏῾῟"),
  (0x345, "ΑᾼΗῌΩῼάᾴήῄαᾳηῃωῳώῴἀᾀἁᾁἂᾂἃᾃἄᾄἅᾅἆᾆἇᾇἈᾈἉᾉἊᾊἋᾋἌᾌἍᾍἎᾎἏᾏἠᾐἡᾑἢᾒἣᾓἤᾔἥᾕἦᾖἧᾗἨᾘἩᾙἪᾚἫᾛἬᾜἭᾝ"),
  (0x345, "ἮᾞἯᾟὠᾠὡᾡὢᾢὣᾣὤᾤὥᾥὦᾦὧᾧὨᾨὩᾩὪᾪὫᾫὬᾬὭᾭὮᾮὯᾯὰᾲὴῂὼῲᾶᾷῆῇῶῷ"),
  (0x653, "اآ"),
  (0x654, "اأوؤيئہۂےۓەۀ"),
  (0x655, "اإ"),
  (0x93c, "नऩरऱळऴ"),
  (0x9be, "\u09c7\u09cb"),
  (0x9d7, "\u09c7\u09cc"),
  (0xb3e, "\u0b47\u0b4b"),
  (0xb56, "\u0b47\u0b48"),
  (0xb57, "\u0b47\u0b4c"),
  (0xbbe, "\u0bc6\u0bca\u0bc7\u0bcb"),
  (0xbd7, "ஒஔ\u0bc6\u0bcc"),
  (0xc56, "\u0c46\u0c48"),
  (0xcc2, "\u0cc6\u0cca"),
  (0xcd5, "\u0cbf\u0cc0\u0cc6\u0cc7\u0cca\u0ccb"),
  (0xcd6, "\u0cc6\u0cc8"),
  (0xd3e, "\u0d46\u0d4a\u0d47\u0d4b"),
  (0xd57, "\u0d46\u0d4c"),
  (0xdca, "\u0dd9\u0dda\u0ddc\u0ddd"),
  (0xdcf, "\u0dd9\u0ddc"),
  (0xddf, "\u0dd9\u0dde"),
  (0x102e, "ဥဦ"),
  (0x1b35, "ᬅᬆᬇᬈᬉᬊᬋᬌᬍᬎᬑᬒ\u1b3a\u1b3b\u1b3c\u1b3d\u1b3e\u1b40\u1b3f\u1b41\u1b42\u1b43"),
  (0x3099, "うゔかがきぎくぐけげこごさざしじすずせぜそぞただちぢつづてでとどはばひびふぶへべほぼゝゞウヴカガキギクグケゲコゴサザシジスズセゼソゾタダチヂツヅテデトドハバ"),
  (0x3099, "ヒビフブヘベホボワヷヰヸヱヹヲヺヽヾ"),
  (0x309a, "はぱひぴふぷへぺほぽハパヒピフプヘペホポ"),
  (0x110ba, "𑂙𑂚𑂛𑂜𑂥𑂫"),
  (0x11127, "𑄱𑄮𑄲𑄯"),
  (0x1133e, "𑍇𑍋"),
  (0x11357, "𑍇𑍌"),
  (0x113b8, "𑏅𑎸"),
  (0x113bb, "𑎄𑎅"),
  (0x113c2, "𑎋𑎎𑏅𑏂"),
  (0x113c9, "𑎂𑎃𑎐𑎑𑏅𑏉"),
  (0x114b0, "𑒹𑒼"),
  (0x114ba, "𑒹𑒻"),
  (0x114bd, "𑒹𑒾"),
  (0x115af, "𑖸𑖺𑖹𑖻"),
  (0x11930, "𑤵𑤸"),
  (0x1611e, "𖄡𖄞"),
  (0x1611f, "𖄦𖄡𖄦𖄢𖄧𖄩𖄤"),
  (0x16120, "𖄨𖄡𖄨"),
  (0x16129, "𖄡𖄩"),
  (0x16d67, "𖵣𖵪𖵨𖵩𖵪")]

/-- The pairs in a text of an even number of characters. -/
def inPairs : List Char → List (Char × Char)
  | a :: b :: rest => (a, b) :: inPairs rest
  | _ => []

/-- The composed characters: the code point of the second part, the first part, the character. -/
def compositions : List (Nat × Char × Char) :=
  compositionTable.flatMap fun (second, pairs) => (inPairs pairs.toList).map (second, ·)

/-- The first syllable of Hangul. -/
def hangulBase : Nat := 0xAC00

/-- The first letter that opens a syllable of Hangul. -/
def hangulOpening : Nat := 0x1100

/-- The first vowel of Hangul. -/
def hangulVowel : Nat := 0x1161

/-- The code point in front of the first letter that closes a syllable of Hangul. -/
def hangulClosing : Nat := 0x11A7

/-- The character that two characters of Hangul make: an opening letter and a vowel make an open
syllable, and an open syllable and a closing letter a closed one. -/
def hangulSyllable? (a b : Nat) : Option Nat :=
  if hangulOpening ≤ a ∧ a < hangulOpening + 19 ∧ hangulVowel ≤ b ∧ b < hangulVowel + 21 then
    some (hangulBase + ((a - hangulOpening) * 21 + (b - hangulVowel)) * 28)
  else if hangulBase ≤ a ∧ a < hangulBase + 11172 ∧ (a - hangulBase) % 28 = 0 ∧
      hangulClosing < b ∧ b < hangulClosing + 28 then some (a + (b - hangulClosing))
  else none

/-- The parts of a syllable of Hangul. -/
def hangulParts? (n : Nat) : Option (Nat × Nat) :=
  if n < hangulBase ∨ hangulBase + 11172 ≤ n then none
  else
    let k := n - hangulBase
    if k % 28 = 0 then some (hangulOpening + k / 588, hangulVowel + k % 588 / 28)
    else some (n - k % 28, hangulClosing + k % 28)

/-- The character that two characters make. -/
def composed? (a b : Char) : Option Char :=
  match hangulSyllable? a.toNat b.toNat with
  | some n => some (Char.ofNat n)
  | none =>
    (compositions.find? fun p => p.1 == b.toNat && p.2.1 == a).map fun p => p.2.2

/-- The two characters that make a character. -/
def parts? (c : Char) : Option (Char × Char) :=
  match hangulParts? c.toNat with
  | some (a, b) => some (Char.ofNat a, Char.ofNat b)
  | none => (compositions.find? fun p => p.2.2 == c).map fun p => (p.2.1, Char.ofNat p.1)

end Northbound.Text
