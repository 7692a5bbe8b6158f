import Assay.Web.Domain.Ranges
import Assay.Text.Class

/-!
# Composed characters

A letter with marks can be written as one character or as several. A text is in composed form if its
marks stand in the order of their classes and no mark is left apart that a character with the letter
before it could stand for.

* `composites`: the characters that stand for a letter and a mark;
* `decomposed`, `ordered`, `composed`: the steps on the way to composed form;
* `isComposed`: whether a text is in composed form.

Only characters that a domain name may hold are covered.
-/

namespace Assay.Web.Domain

/-- For a mark, letters each followed by the character that stands for the letter and the mark. -/
def composites : List (Nat × String) :=
  [(0x300, "aàeèiìoòuùüǜnǹеѐиѝēḕōṑwẁâầăằêềôồơờưừyỳἀἂἁἃἐἒἑἓἠἢἡἣἰἲἱἳὀὂὁὃὐὒὑὓὠὢὡὣαὰεὲηὴ"),
   (0x300, "ιὶοὸυὺωὼϊῒϋῢ"),
   (0x301, "aáeéiíoóuúyýcćlĺnńrŕsśzźüǘgǵåǻæǽøǿϊΐαάεέηήιίϋΰοόυύωώгѓкќçḉēḗïḯkḱmḿõṍōṓpṕ"),
   (0x301, "ũṹwẃâấăắêếôốơớưứἀἄἁἅἐἔἑἕἠἤἡἥἰἴἱἵὀὄὁὅὐὔὑὕὠὤὡὥ"),
   (0x302, "aâeêiîoôuûcĉgĝhĥjĵsŝwŵyŷzẑạậẹệọộ"), (0x303, "aãnñoõiĩuũvṽâẫăẵeẽêễôỗơỡưữyỹ"),
   (0x304, "aāeēiīoōuūüǖäǟȧǡæǣǫǭöȫõȭȯȱyȳиӣуӯgḡḷḹṛṝαᾱιῑυῡ"),
   (0x306, "aăeĕgğiĭoŏuŭийуўжӂаӑеӗȩḝạặαᾰιῐυῠ"),
   (0x307, "cċeėgġzżaȧoȯbḃdḋfḟhḣmṁnṅpṗrṙsṡśṥšṧṣṩtṫwẇxẋyẏ"),
   (0x308, "aäeëiïoöuüyÿιϊυϋеёіїаӓәӛжӝзӟиӥоӧөӫэӭуӱчӵыӹhḧõṏūṻwẅxẍtẗ"),
   (0x309, "aảâẩăẳeẻêểiỉoỏôổơởuủưửyỷ"), (0x30A, "aåuůwẘyẙ"), (0x30B, "oőuűуӳ"),
   (0x30C, "cčdďeělľnňrřsštťzžaǎiǐoǒuǔüǚgǧkǩʒǯjǰhȟ"), (0x30F, "aȁeȅiȉoȍrȑuȕѵѷ"),
   (0x311, "aȃeȇiȋoȏrȓuȗ"), (0x313, "αἀεἐηἠιἰοὀυὐωὠρῤ"), (0x314, "αἁεἑηἡιἱοὁυὑωὡρῥ"),
   (0x31B, "oơuư"), (0x323, "bḅdḍhḥkḳlḷmṃnṇrṛsṣtṭvṿwẉzẓaạeẹiịoọơợuụưựyỵ"), (0x324, "uṳ"),
   (0x325, "aḁ"), (0x326, "sștț"), (0x327, "cçgģkķlļnņrŗsştţeȩdḑhḩ"), (0x328, "aąeęiįuųoǫ"),
   (0x32D, "dḓeḙlḽnṋtṱuṷ"), (0x32E, "hḫ"), (0x330, "eḛiḭuṵ"), (0x331, "bḇdḏkḵlḻnṉrṟtṯzẕhẖ"),
   (0x342, "ἀἆἁἇἠἦἡἧἰἶἱἷὐὖὑὗὠὦὡὧαᾶηῆιῖϊῗυῦϋῧωῶ"), (0x653, "اآ"), (0x654, "اأوؤيئەۀہۂےۓ"),
   (0x655, "اإ"), (0x93C, "नऩरऱळऴ"), (0x9BE, "েো"), (0x9D7, "েৌ"), (0xB3E, "େୋ"),
   (0xB56, "େୈ"), (0xB57, "େୌ"), (0xBBE, "ெொேோ"), (0xBD7, "ஒஔெௌ"), (0xC56, "ెై"),
   (0xCC2, "ೆೊ"), (0xCD5, "ಿೀೆೇೊೋ"), (0xCD6, "ೆೈ"), (0xD3E, "െൊേോ"), (0xD57, "െൌ"),
   (0xDCA, "ෙේොෝ"), (0xDCF, "ෙො"), (0xDDF, "ෙෞ"), (0x102E, "ဥဦ"),
   (0x1B35, "ᬅᬆᬇᬈᬉᬊᬋᬌᬍᬎᬑᬒᬺᬻᬼᬽᬾᭀᬿᭁᭂᭃ"),
   (0x3099, "かがきぎくぐけげこごさざしじすずせぜそぞただちぢつづてでとどはばひびふぶへべほぼうゔゝゞカガキギクグケゲコゴサザシジスズセゼソゾタダチヂツヅテデ"),
   (0x3099, "トドハバヒビフブヘベホボウヴワヷヰヸヱヹヲヺヽヾ"), (0x309A, "はぱひぴふぷへぺほぽハパヒピフプヘペホポ"),
   (0x110BA, "𑂙𑂚𑂛𑂜𑂥𑂫"), (0x11127, "𑄱𑄮𑄲𑄯"), (0x1133E, "𑍇𑍋"), (0x11357, "𑍇𑍌"),
   (0x114B0, "𑒹𑒼"), (0x114BA, "𑒹𑒻"), (0x114BD, "𑒹𑒾"), (0x115AF, "𑖸𑖺𑖹𑖻"), (0x11930, "𑤵𑤸")]

/-- The mark's class. -/
def orderOf (c : Char) : Nat :=
  if c.toNat < 0x300 then 0
  else ((orderRows.find? fun (a, b, _) => a ≤ c.toNat && c.toNat ≤ b).map (·.2.2)).getD 0

/-- The character of a pair list that comes after a letter. -/
def after? (letter : Char) : List Char → Option Char
  | a :: c :: rest => if a == letter then some c else after? letter rest
  | _ => none

/-- The letter of a pair list that comes before a character. -/
def before? (composite : Char) : List Char → Option Char
  | a :: c :: rest => if c == composite then some a else before? composite rest
  | _ => none

/-- The character that stands for a letter and a mark. -/
def composite? (letter mark : Char) : Option Char :=
  composites.findSome? fun (m, pairs) =>
    if m = mark.toNat then after? letter pairs.toList else none

/-- The letter and the mark that a character stands for. -/
def parts? (c : Char) : Option (Char × Char) :=
  if c.toNat < 0xC0 then none
  else composites.findSome? fun (m, pairs) =>
    (before? c pairs.toList).map fun letter => (letter, Char.ofNat m)

/-- The most marks that one character stands for along with its letter. -/
def maxMarks : Nat := 3

/-- A character as a letter and marks. -/
def decompose : (fuel : Nat) → Char → List Char
  | 0, c => [c]
  | fuel + 1, c =>
    match parts? c with
    | some (letter, mark) => decompose fuel letter ++ decompose fuel mark
    | none => [c]

/-- A text with all letters and marks apart. -/
def decomposed (s : List Char) : List Char :=
  s.flatMap (decompose maxMarks)

/-- A mark in its place among marks of ascending classes. -/
def insertMark (c : Char) : List Char → List Char
  | [] => [c]
  | d :: rest => if orderOf c < orderOf d then c :: d :: rest else d :: insertMark c rest

/-- A text with the marks after each letter in the order of their classes; `marks` are those of the
letter before. -/
def ordered (marks : List Char) : List Char → List Char
  | [] => marks
  | c :: rest =>
    if orderOf c = 0 then marks ++ c :: ordered [] rest else ordered (insertMark c marks) rest

/-- A text with marks put together with the letter before them. `apart` are the marks of the letter
that stay apart; a mark of the class of the last of them stays apart too, and so does a sign that is
no mark behind any. -/
def composed (letter : Char) (apart : List Char) : List Char → List Char
  | [] => letter :: apart
  | c :: rest =>
    let last := (apart.getLast?.map orderOf).getD 0
    let isFree := apart.isEmpty || last < orderOf c
    match if isFree then composite? letter c else none with
    | some d => composed d apart rest
    | none =>
      if orderOf c = 0 then letter :: apart ++ composed c [] rest
      else composed letter (apart ++ [c]) rest

/-- Whether a text is in composed form. -/
def isComposed (s : List Char) : Bool :=
  match ordered [] (decomposed s) with
  | [] => true
  | c :: rest => composed c [] rest == s

end Assay.Web.Domain
