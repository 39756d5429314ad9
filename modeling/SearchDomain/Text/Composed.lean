import SearchDomain.Text.CombiningClass
/-!
# Composed — texts in composed form

One text has several spellings: a letter and its marks may be one character or many, and marks at different places
may stand in any order. The composed form takes every character apart, sorts the marks that follow a starter by their
classes, and puts together again what can be one character. The table knows the characters that may stand in a name,
which have no capitals and no better spelling; Korean syllables are computed.
-/
namespace SearchDomain.Text

namespace Hangul

def firstSyllable : Nat := 0xAC00

def firstLead : Nat := 0x1100

def firstVowel : Nat := 0x1161

/-- The code point in front of the first tail: a syllable without a tail counts as having this one. -/
def noTail : Nat := 0x11A7

def leads : Nat := 19

def vowels : Nat := 21

def tails : Nat := 28

def isSyllable (n : Nat) : Bool := firstSyllable ≤ n && n < firstSyllable + leads * vowels * tails

/-- A syllable as a shorter one, or a lead, and what follows it. -/
def parts? (n : Nat) : Option (Nat × Nat) :=
  let index := n - firstSyllable
  if !isSyllable n then none
  else if index % tails = 0 then some (firstLead + index / (vowels * tails), firstVowel + index / tails % vowels)
  else some (n - index % tails, noTail + index % tails)

/-- The syllable of a lead and a vowel, or of a syllable without a tail and a tail. -/
def joined? (a b : Nat) : Option Nat :=
  if firstLead ≤ a ∧ a < firstLead + leads ∧ firstVowel ≤ b ∧ b < firstVowel + vowels then
    some (firstSyllable + ((a - firstLead) * vowels + (b - firstVowel)) * tails)
  else if isSyllable a ∧ (a - firstSyllable) % tails = 0 ∧ noTail < b ∧ b < noTail + tails then some (a + (b - noTail))
  else none

end Hangul

/-- For a second character: first characters, each followed by what the two are together. -/
def compositionRows : Array (Nat × String) := #[
  (0x300, "aàeèiìoòuùüǜnǹеѐиѝēḕōṑwẁâầăằêềôồơờưừyỳἀἂἁἃἐἒἑἓἠἢἡἣἰἲἱἳὀὂὁὃὐὒὑὓὠὢὡὣαὰεὲηὴιὶοὸυὺωὼϊῒϋῢ"),
  (0x301, "aáeéiíoóuúyýcćlĺnńrŕsśzźüǘgǵåǻæǽøǿϊΐαάεέηήιίϋΰοόυύωώгѓкќçḉēḗïḯkḱmḿõṍōṓpṕũṹwẃâấăắêếôốơớưứἀἄἁἅἐἔἑἕἠἤἡἥ"),
  (0x301, "ἰἴἱἵὀὄὁὅὐὔὑὕὠὤὡὥ"), (0x302, "aâeêiîoôuûcĉgĝhĥjĵsŝwŵyŷzẑạậẹệọộ"), (0x303, "aãnñoõiĩuũvṽâẫăẵeẽêễôỗơỡưữyỹ"),
  (0x304, "aāeēiīoōuūüǖäǟȧǡæǣǫǭöȫõȭȯȱyȳиӣуӯgḡḷḹṛṝαᾱιῑυῡ"), (0x306, "aăeĕgğiĭoŏuŭийуўжӂаӑеӗȩḝạặαᾰιῐυῠ"),
  (0x307, "cċeėgġzżaȧoȯbḃdḋfḟhḣmṁnṅpṗrṙsṡśṥšṧṣṩtṫwẇxẋyẏ𐗒𐗉𐗚𐗤"),
  (0x308, "aäeëiïoöuüyÿιϊυϋеёіїаӓәӛжӝзӟиӥоӧөӫэӭуӱчӵыӹhḧõṏūṻwẅxẍtẗ"), (0x309, "aảâẩăẳeẻêểiỉoỏôổơởuủưửyỷ"),
  (0x30A, "aåuůwẘyẙ"), (0x30B, "oőuűуӳ"), (0x30C, "cčdďeělľnňrřsštťzžaǎiǐoǒuǔüǚgǧkǩʒǯjǰhȟ"),
  (0x30F, "aȁeȅiȉoȍrȑuȕѵѷ"), (0x311, "aȃeȇiȋoȏrȓuȗ"), (0x313, "αἀεἐηἠιἰοὀυὐωὠρῤ"), (0x314, "αἁεἑηἡιἱοὁυὑωὡρῥ"),
  (0x31B, "oơuư"), (0x323, "bḅdḍhḥkḳlḷmṃnṇrṛsṣtṭvṿwẉzẓaạeẹiịoọơợuụưựyỵ"), (0x324, "uṳ"), (0x325, "aḁ"),
  (0x326, "sștț"), (0x327, "cçgģkķlļnņrŗsştţeȩdḑhḩ"), (0x328, "aąeęiįuųoǫ"), (0x32D, "dḓeḙlḽnṋtṱuṷ"), (0x32E, "hḫ"),
  (0x330, "eḛiḭuṵ"), (0x331, "bḇdḏkḵlḻnṉrṟtṯzẕhẖ"),
  (0x338, "←↚→↛↔↮⇐⇍⇔⇎⇒⇏∃∄∈∉∋∌∣∤∥∦∼≁≃≄≅≇≈≉=≠≡≢≍≭<≮>≯≤≰≥≱≲≴≳≵≶≸≷≹≺⊀≻⊁⊂⊄⊃⊅⊆⊈⊇⊉⊢⊬⊨⊭⊩⊮⊫⊯≼⋠≽⋡⊑⋢⊒⋣⊲⋪⊳⋫⊴⋬⊵⋭"),
  (0x342, "ἀἆἁἇἠἦἡἧἰἶἱἷὐὖὑὗὠὦὡὧαᾶηῆιῖϊῗυῦϋῧωῶ"), (0x653, "اآ"), (0x654, "اأوؤيئەۀہۂےۓ"), (0x655, "اإ"),
  (0x93C, "नऩरऱळऴ"), (0x9BE, "\u09c7\u09cb"), (0x9D7, "\u09c7\u09cc"), (0xB3E, "\u0b47\u0b4b"),
  (0xB56, "\u0b47\u0b48"), (0xB57, "\u0b47\u0b4c"), (0xBBE, "\u0bc6\u0bca\u0bc7\u0bcb"), (0xBD7, "ஒஔ\u0bc6\u0bcc"),
  (0xC56, "\u0c46\u0c48"), (0xCC2, "\u0cc6\u0cca"), (0xCD5, "\u0cbf\u0cc0\u0cc6\u0cc7\u0cca\u0ccb"),
  (0xCD6, "\u0cc6\u0cc8"), (0xD3E, "\u0d46\u0d4a\u0d47\u0d4b"), (0xD57, "\u0d46\u0d4c"),
  (0xDCA, "\u0dd9\u0dda\u0ddc\u0ddd"), (0xDCF, "\u0dd9\u0ddc"), (0xDDF, "\u0dd9\u0dde"), (0x102E, "ဥဦ"),
  (0x1B35, "ᬅᬆᬇᬈᬉᬊᬋᬌᬍᬎᬑᬒ\u1b3a\u1b3b\u1b3c\u1b3d\u1b3e\u1b40\u1b3f\u1b41\u1b42\u1b43"),
  (0x3099, "かがきぎくぐけげこごさざしじすずせぜそぞただちぢつづてでとどはばひびふぶへべほぼうゔゝゞカガキギクグ"),
  (0x3099, "ケゲコゴサザシジスズセゼソゾタダチヂツヅテデトドハバヒビフブヘベホボウヴワヷヰヸヱヹヲヺヽヾ"),
  (0x309A, "はぱひぴふぷへぺほぽハパヒピフプヘペホポ"), (0x110BA, "𑂙𑂚𑂛𑂜𑂥𑂫"), (0x11127, "𑄱𑄮𑄲𑄯"), (0x1133E, "𑍇𑍋"),
  (0x11357, "𑍇𑍌"), (0x113B8, "𑏅𑎸"), (0x113BB, "𑎄𑎅"), (0x113C2, "𑎋𑎎𑏅𑏂"), (0x113C9, "𑎂𑎃𑎐𑎑𑏅𑏉"),
  (0x114B0, "𑒹𑒼"), (0x114BA, "𑒹𑒻"), (0x114BD, "𑒹𑒾"), (0x115AF, "𑖸𑖺𑖹𑖻"), (0x11930, "𑤵𑤸"), (0x1611E, "𖄡𖄞"),
  (0x1611F, "𖄦𖄩𖄤𖄡𖄦𖄢𖄧"), (0x16120, "𖄨𖄡𖄨"), (0x16129, "𖄡𖄩"), (0x16D67, "𖵨𖵧𖵣𖵩𖵩𖵪")]

def pairsOf (second : Char) : List Char → List (Char × Char × Char)
  | first :: whole :: rest => (first, second, whole) :: pairsOf second rest
  | _ => []

/-- A first character, a second, and the one character that they are together. -/
def compositions : List (Char × Char × Char) :=
  compositionRows.toList.flatMap fun (second, pairs) => pairsOf (Char.ofNat second) pairs.toList

/-- The one character that two are together. -/
def joined? (first second : Char) : Option Char :=
  match Hangul.joined? first.toNat second.toNat with
  | some n => some (Char.ofNat n)
  | none => (compositions.find? fun (a, b, _) => a = first && b = second).map fun (_, _, whole) => whole

def parts? (c : Char) : Option (Char × Char) :=
  match Hangul.parts? c.toNat with
  | some (a, b) => some (Char.ofNat a, Char.ofNat b)
  | none => (compositions.find? fun (_, _, whole) => whole = c).map fun (a, b, _) => (a, b)

/-- A character taken apart, at most `depth` times. -/
def takenApart : (depth : Nat) → Char → List Char
  | 0, c => [c]
  | depth + 1, c =>
    match parts? c with
    | some (first, second) => takenApart depth first ++ [second]
    | none => [c]

/-- More than the marks of any one character. -/
def maxParts : Nat := 4

/-- Put a character in front of sorted marks: a mark moves behind those of lower classes. -/
def insertMark (c : Char) : List Char → List Char
  | [] => [c]
  | d :: ds => if !isStarter d && combiningClass d < combiningClass c then d :: insertMark c ds else c :: d :: ds

/-- The marks behind every starter in the order of their classes. -/
def sortMarks (cs : List Char) : List Char := cs.foldr insertMark []

/-- Put together what follows a starter. Between the two stand the marks in `skipped`; a mark of the same or a higher
class among them, or a starter, keeps a character off. -/
def joinAfter (starter : Char) (skipped : List Char) : List Char → List Char
  | [] => starter :: skipped
  | c :: cs =>
    let blocked := skipped.getLast?.any fun d => combiningClass c ≤ combiningClass d
    match (if blocked then none else joined? starter c) with
    | some whole => joinAfter whole skipped cs
    | none =>
      if isStarter c then starter :: skipped ++ joinAfter c [] cs else joinAfter starter (skipped ++ [c]) cs

/-- Put together what belongs together; marks without a starter stay as they are. -/
def join : List Char → List Char
  | [] => []
  | c :: cs => if isStarter c then joinAfter c [] cs else c :: join cs

def composed (cs : List Char) : List Char := join (sortMarks (cs.flatMap (takenApart maxParts)))

end SearchDomain.Text
