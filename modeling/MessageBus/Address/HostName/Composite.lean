import MessageBus.Address.HostName.Mark
/-!
# Composite characters

A letter with a mark is often one character as well. In the composed form of a text the marks of each letter are in
order, and what can be one character is one.
-/

namespace MessageBus.Address.HostName

/-- The composites of a mark: the characters before it, and in the same order what they become with it. -/
structure Composites where
  mark : Char
  bases : String
  composites : String

/-- The composites that host names can have, but for Korean syllables. -/
def composites : Array Composites :=
  #[⟨'\u0300', "aeiouünеиēōwâăêôơưyἀἁἐἑἠἡἰἱὀὁὐ", "àèìòùǜǹѐѝḕṑẁầằềồờừỳἂἃἒἓἢἣἲἳὂὃὒ"⟩,
    ⟨'\u0300', "ὑὠὡαεηιουωϊϋ", "ὓὢὣὰὲὴὶὸὺὼῒῢ"⟩,
    ⟨'\u0301', "aeiouyclnrszügåæøϊαεηιϋουωгкçē", "áéíóúýćĺńŕśźǘǵǻǽǿΐάέήίΰόύώѓќḉḗ"⟩,
    ⟨'\u0301', "ïkmõōpũwâăêôơưἀἁἐἑἠἡἰἱὀὁὐὑὠὡ", "ḯḱḿṍṓṕṹẃấắếốớứἄἅἔἕἤἥἴἵὄὅὔὕὤὥ"⟩,
    ⟨'\u0302', "aeioucghjswyzạẹọ", "âêîôûĉĝĥĵŝŵŷẑậệộ"⟩, ⟨'\u0303', "anoiuvâăeêôơưy", "ãñõĩũṽẫẵẽễỗỡữỹ"⟩,
    ⟨'\u0304', "aeiouüäȧæǫöõȯyиуgḷṛαιυ", "āēīōūǖǟǡǣǭȫȭȱȳӣӯḡḹṝᾱῑῡ"⟩,
    ⟨'\u0306', "aegiouиужаеȩạαιυ", "ăĕğĭŏŭйўӂӑӗḝặᾰῐῠ"⟩,
    ⟨'\u0307', "cegzaobdfhmnprsśšṣtwxy𐗒𐗚", "ċėġżȧȯḃḋḟḣṁṅṗṙṡṥṧṩṫẇẋẏ𐗉𐗤"⟩,
    ⟨'\u0308', "aeiouyιυеіаәжзиоөэучыhõūwxt", "äëïöüÿϊϋёїӓӛӝӟӥӧӫӭӱӵӹḧṏṻẅẍẗ"⟩,
    ⟨'\u0309', "aâăeêioôơuưy", "ảẩẳẻểỉỏổởủửỷ"⟩, ⟨'\u030a', "auwy", "åůẘẙ"⟩, ⟨'\u030b', "ouу", "őűӳ"⟩,
    ⟨'\u030c', "cdelnrstzaiouügkʒjh", "čďěľňřšťžǎǐǒǔǚǧǩǯǰȟ"⟩, ⟨'\u030f', "aeioruѵ", "ȁȅȉȍȑȕѷ"⟩,
    ⟨'\u0311', "aeioru", "ȃȇȋȏȓȗ"⟩, ⟨'\u0313', "αεηιουωρ", "ἀἐἠἰὀὐὠῤ"⟩, ⟨'\u0314', "αεηιουωρ", "ἁἑἡἱὁὑὡῥ"⟩,
    ⟨'\u031b', "ou", "ơư"⟩, ⟨'\u0323', "bdhklmnrstvwzaeioơuưy", "ḅḍḥḳḷṃṇṛṣṭṿẉẓạẹịọợụựỵ"⟩, ⟨'\u0324', "u", "ṳ"⟩,
    ⟨'\u0325', "a", "ḁ"⟩, ⟨'\u0326', "st", "șț"⟩, ⟨'\u0327', "cgklnrstedh", "çģķļņŗşţȩḑḩ"⟩,
    ⟨'\u0328', "aeiuo", "ąęįųǫ"⟩, ⟨'\u032d', "delntu", "ḓḙḽṋṱṷ"⟩, ⟨'\u032e', "h", "ḫ"⟩, ⟨'\u0330', "eiu", "ḛḭṵ"⟩,
    ⟨'\u0331', "bdklnrtzh", "ḇḏḵḻṉṟṯẕẖ"⟩,
    ⟨'\u0338', "←→↔⇐⇔⇒∃∈∋∣∥∼≃≅≈=≡≍<>≤≥≲≳≶≷≺≻⊂⊃", "↚↛↮⇍⇎⇏∄∉∌∤∦≁≄≇≉≠≢≭≮≯≰≱≴≵≸≹⊀⊁⊄⊅"⟩,
    ⟨'\u0338', "⊆⊇⊢⊨⊩⊫≼≽⊑⊒⊲⊳⊴⊵", "⊈⊉⊬⊭⊮⊯⋠⋡⋢⋣⋪⋫⋬⋭"⟩, ⟨'\u0342', "ἀἁἠἡἰἱὐὑὠὡαηιϊυϋω", "ἆἇἦἧἶἷὖὗὦὧᾶῆῖῗῦῧῶ"⟩,
    ⟨'\u0653', "\u0627", "\u0622"⟩,
    ⟨'\u0654', "\u0627\u0648\u064a\u06d5\u06c1\u06d2", "\u0623\u0624\u0626\u06c0\u06c2\u06d3"⟩,
    ⟨'\u0655', "\u0627", "\u0625"⟩, ⟨'\u093c', "नरळ", "ऩऱऴ"⟩, ⟨'\u09be', "\u09c7", "\u09cb"⟩,
    ⟨'\u09d7', "\u09c7", "\u09cc"⟩, ⟨'\u0b3e', "\u0b47", "\u0b4b"⟩, ⟨'\u0b56', "\u0b47", "\u0b48"⟩,
    ⟨'\u0b57', "\u0b47", "\u0b4c"⟩, ⟨'\u0bbe', "\u0bc6\u0bc7", "\u0bca\u0bcb"⟩, ⟨'\u0bd7', "ஒ\u0bc6", "ஔ\u0bcc"⟩,
    ⟨'\u0c56', "\u0c46", "\u0c48"⟩, ⟨'\u0cc2', "\u0cc6", "\u0cca"⟩,
    ⟨'\u0cd5', "\u0cbf\u0cc6\u0cca", "\u0cc0\u0cc7\u0ccb"⟩, ⟨'\u0cd6', "\u0cc6", "\u0cc8"⟩,
    ⟨'\u0d3e', "\u0d46\u0d47", "\u0d4a\u0d4b"⟩, ⟨'\u0d57', "\u0d46", "\u0d4c"⟩,
    ⟨'\u0dca', "\u0dd9\u0ddc", "\u0dda\u0ddd"⟩, ⟨'\u0dcf', "\u0dd9", "\u0ddc"⟩, ⟨'\u0ddf', "\u0dd9", "\u0dde"⟩,
    ⟨'\u102e', "ဥ", "ဦ"⟩,
    ⟨'\u1b35', "ᬅᬇᬉᬋᬍᬑ\u1b3a\u1b3c\u1b3e\u1b3f\u1b42", "ᬆᬈᬊᬌᬎᬒ\u1b3b\u1b3d\u1b40\u1b41\u1b43"⟩,
    ⟨'\u3099', "かきくけこさしすせそたちつてとはひふへほうゝカキクケコサシス", "がぎぐげござじずぜぞだぢづでどばびぶべぼゔゞガギグゲゴザジズ"⟩,
    ⟨'\u3099', "セソタチツテトハヒフヘホウワヰヱヲヽ", "ゼゾダヂヅデドバビブベボヴヷヸヹヺヾ"⟩, ⟨'\u309a', "はひふへほハヒフヘホ", "ぱぴぷぺぽパピプペポ"⟩,
    ⟨'𑂺', "𑂙𑂛𑂥", "𑂚𑂜𑂫"⟩, ⟨'𑄧', "𑄱𑄲", "𑄮𑄯"⟩, ⟨'𑌾', "𑍇", "𑍋"⟩, ⟨'𑍗', "𑍇", "𑍌"⟩, ⟨'𑎸', "𑏂", "𑏇"⟩, ⟨'𑎻', "𑎄", "𑎅"⟩,
    ⟨'𑏂', "𑎎", "𑎎𑏅"⟩, ⟨'𑏉', "𑎂𑎐𑏂", "𑎃𑎑𑏈"⟩, ⟨'𑒰', "𑒹", "𑒼"⟩, ⟨'𑒺', "𑒹", "𑒻"⟩, ⟨'𑒽', "𑒹", "𑒾"⟩, ⟨'𑖯', "𑖸𑖹", "𑖺𑖻"⟩,
    ⟨'𑤰', "𑤵", "𑤸"⟩, ⟨'𖄞', "𖄞", "𖄡"⟩, ⟨'𖄟', "𖄢𖄡𖄢", "𖄣𖄤𖄦𖄧"⟩, ⟨'𖄠', "𖄡𖄞", "𖄥𖄨"⟩, ⟨'𖄩', "𖄞", "𖄢"⟩,
    ⟨'𖵧', "𖵧𖵣𖵩", "𖵨𖵩𖵪"⟩]

/-- The bases of a mark with their composites. -/
def Composites.pairs (r : Composites) : List (Char × Char) := r.bases.toList.zip r.composites.toList

/-! ## Korean syllables

A syllable is a leading consonant with a vowel, and perhaps with a trailing consonant. All of them follow each other. -/

/-- The first syllable; it has no trailing consonant. -/
def firstSyllable : Nat := 0xac00

/-- The first leading consonant. -/
def firstLeading : Nat := 0x1100

/-- The first vowel. -/
def firstVowel : Nat := 0x1161

/-- The code point before the first trailing consonant. -/
def noTrailing : Nat := 0x11a7

/-- The number of leading consonants. -/
def leadingCount : Nat := 19

/-- The number of vowels. -/
def vowelCount : Nat := 21

/-- The number of trailing consonants, and one for none. -/
def trailingCount : Nat := 28

/-- The parts of a syllable. -/
def syllableParts? (c : Char) : Option (Char × Char) :=
  let n := c.toNat - firstSyllable
  if firstSyllable ≤ c.toNat ∧ n < leadingCount * vowelCount * trailingCount then
    if n % trailingCount = 0 then
      some (Char.ofNat (firstLeading + n / trailingCount / vowelCount),
        Char.ofNat (firstVowel + n / trailingCount % vowelCount))
    else some (Char.ofNat (c.toNat - n % trailingCount), Char.ofNat (noTrailing + n % trailingCount))
  else none

/-- The syllable of two parts. -/
def syllable? (a b : Char) : Option Char :=
  let leading := a.toNat - firstLeading
  let vowel := b.toNat - firstVowel
  let syllable := a.toNat - firstSyllable
  if firstLeading ≤ a.toNat ∧ leading < leadingCount ∧ firstVowel ≤ b.toNat ∧ vowel < vowelCount then
    some (Char.ofNat (firstSyllable + (leading * vowelCount + vowel) * trailingCount))
  else if firstSyllable ≤ a.toNat ∧ syllable < leadingCount * vowelCount * trailingCount ∧
      syllable % trailingCount = 0 ∧ noTrailing < b.toNat ∧ b.toNat < noTrailing + trailingCount then
    some (Char.ofNat (a.toNat + (b.toNat - noTrailing)))
  else none

/-! ## The composed form -/

/-- The two parts of a composite; no character of ASCII is one. -/
def parts? (c : Char) : Option (Char × Char) :=
  if c.toNat < 0x80 then none
  else (syllableParts? c).or (composites.findSome? fun r => (r.pairs.find? (·.2 = c)).map fun p => (p.1, r.mark))

/-- What two characters are as one. -/
def composite? (a b : Char) : Option Char :=
  (syllable? a b).or (composites.findSome? fun r => if r.mark = b then (r.pairs.find? (·.1 = a)).map (·.2) else none)

/-- The characters that a composite is made of, taken apart so many times. -/
def takeApart : Nat → Char → List Char
  | 0, c => [c]
  | depth + 1, c =>
    match parts? c with
    | some (a, b) => takeApart depth a ++ [b]
    | none => [c]

/-- How often a composite can be taken apart at most. -/
def compositeDepth : Nat := 2

/-- Adds a character to those before it, nearest first: a mark goes before the marks of a higher class. -/
def place (c : Char) : List Char → List Char
  | [] => [c]
  | d :: ds => if order c ≠ 0 ∧ order c < order d then d :: place c ds else c :: d :: ds

/-- The characters with the marks of each letter in order. -/
def ordered (cs : List Char) : List Char :=
  (cs.foldl (fun before c => place c before) []).reverse

/-- Composes `base` with what follows; `between` holds the marks, nearest first, that stay by themselves. Such a mark
keeps the others of its class from the base. -/
def composeFrom (base : Char) (between : List Char) : List Char → List Char
  | [] => base :: between.reverse
  | c :: cs =>
    match if between.head?.all (order · < order c) then composite? base c else none with
    | some d => composeFrom d between cs
    | none =>
      if order c = 0 then base :: between.reverse ++ composeFrom c [] cs else composeFrom base (c :: between) cs

/-- The composed form of a text. -/
def composed (cs : List Char) : List Char :=
  match ordered (cs.flatMap (takeApart compositeDepth)) with
  | [] => []
  | c :: cs => composeFrom c [] cs

end MessageBus.Address.HostName
