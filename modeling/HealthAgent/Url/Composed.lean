import HealthAgent.Url.Mark
/-!
# Letters joined with their marks

One text can be written in several ways: a letter with a mark may be one character or two, and marks
may stand in any order. The composed form is the one in which the marks stand in the order of their
places and every letter is joined with the marks that it can take. The syllables of the Korean
script are joined from their two or three letters by reckoning.

Results:
* `joinSyllable?_of_splitSyllable?`: the parts of a syllable are joined to it.
* `composed_ascii`: a text in ASCII is its own composed form.
-/
namespace HealthAgent.Url

/-- A row `(mark, pairs)`: `pairs` lists letters, each followed by what it is joined with the mark
to. -/
def joinedPairs : Array (Nat × String) := #[
  (0x300, "aàeèiìnǹoòuùwẁyỳâầêềôồüǜăằēḕōṑơờưừαὰεὲηὴιὶοὸυὺωὼϊῒϋῢеѐиѝἀἂἁἃἐἒἑἓἠἢἡἣἰἲἱἳὀὂὁὃὐὒ"),
  (0x300, "ὑὓὠὢὡὣ"),
  (0x301, "aácćeégǵiíkḱlĺmḿnńoópṕrŕsśuúwẃyýzźâấåǻæǽçḉêếïḯôốõṍøǿüǘăắēḗōṓũṹơớưứαάεέηήιίοόυύ"),
  (0x301, "ωώϊΐϋΰгѓкќἀἄἁἅἐἔἑἕἠἤἡἥἰἴἱἵὀὄὁὅὐὔὑὕὠὤὡὥ"), (0x302, "aâcĉeêgĝhĥiîjĵoôsŝuûwŵyŷzẑạậẹệọộ"),
  (0x303, "aãeẽiĩnñoõuũvṽyỹâẫêễôỗăẵơỡưữ"), (0x304, "aāeēgḡiīoōuūyȳäǟæǣõȭöȫüǖǫǭȧǡȯȱαᾱιῑυῡиӣуӯḷḹṛṝ"),
  (0x306, "aăeĕgğiĭoŏuŭȩḝαᾰιῐυῠаӑеӗжӂийуўạặ"),
  (0x307, "aȧbḃcċdḋeėfḟgġhḣmṁnṅoȯpṗrṙsṡtṫwẇxẋyẏzżśṥšṧṣṩ𐗒𐗉𐗚𐗤"),
  (0x308, "aäeëhḧiïoötẗuüwẅxẍyÿõṏūṻιϊυϋаӓеёжӝзӟиӥоӧуӱчӵыӹэӭіїәӛөӫ"),
  (0x309, "aảeẻiỉoỏuủyỷâẩêểôổăẳơởưử"), (0x30A, "aåuůwẘyẙ"), (0x30B, "oőuűуӳ"),
  (0x30C, "aǎcčdďeěgǧhȟiǐjǰkǩlľnňoǒrřsštťuǔzžüǚʒǯ"), (0x30F, "aȁeȅiȉoȍrȑuȕѵѷ"),
  (0x311, "aȃeȇiȋoȏrȓuȗ"), (0x313, "αἀεἐηἠιἰοὀρῤυὐωὠ"), (0x314, "αἁεἑηἡιἱοὁρῥυὑωὡ"),
  (0x31B, "oơuư"), (0x323, "aạbḅdḍeẹhḥiịkḳlḷmṃnṇoọrṛsṣtṭuụvṿwẉyỵzẓơợưự"), (0x324, "uṳ"),
  (0x325, "aḁ"), (0x326, "sștț"), (0x327, "cçdḑeȩgģhḩkķlļnņrŗsştţ"), (0x328, "aąeęiįoǫuų"),
  (0x32D, "dḓeḙlḽnṋtṱuṷ"), (0x32E, "hḫ"), (0x330, "eḛiḭuṵ"), (0x331, "bḇdḏhẖkḵlḻnṉrṟtṯzẕ"),
  (0x338, "<≮=≠>≯←↚→↛↔↮⇐⇍⇒⇏⇔⇎∃∄∈∉∋∌∣∤∥∦∼≁≃≄≅≇≈≉≍≭≡≢≤≰≥≱≲≴≳≵≶≸≷≹≺⊀≻⊁≼⋠≽⋡⊂⊄⊃⊅⊆⊈⊇⊉⊑⋢⊒⋣⊢⊬⊨⊭⊩⊮"),
  (0x338, "⊫⊯⊲⋪⊳⋫⊴⋬⊵⋭"), (0x342, "αᾶηῆιῖυῦωῶϊῗϋῧἀἆἁἇἠἦἡἧἰἶἱἷὐὖὑὗὠὦὡὧ"), (0x653, "\u0627\u0622"),
  (0x654, "\u0627\u0623\u0648\u0624\u064a\u0626\u06c1\u06c2\u06d2\u06d3\u06d5\u06c0"),
  (0x655, "\u0627\u0625"), (0x93C, "नऩरऱळऴ"), (0x9BE, "\u09c7\u09cb"), (0x9D7, "\u09c7\u09cc"),
  (0xB3E, "\u0b47\u0b4b"), (0xB56, "\u0b47\u0b48"), (0xB57, "\u0b47\u0b4c"),
  (0xBBE, "\u0bc6\u0bca\u0bc7\u0bcb"), (0xBD7, "ஒஔ\u0bc6\u0bcc"), (0xC56, "\u0c46\u0c48"),
  (0xCC2, "\u0cc6\u0cca"), (0xCD5, "\u0cbf\u0cc0\u0cc6\u0cc7\u0cca\u0ccb"),
  (0xCD6, "\u0cc6\u0cc8"), (0xD3E, "\u0d46\u0d4a\u0d47\u0d4b"), (0xD57, "\u0d46\u0d4c"),
  (0xDCA, "\u0dd9\u0dda\u0ddc\u0ddd"), (0xDCF, "\u0dd9\u0ddc"), (0xDDF, "\u0dd9\u0dde"),
  (0x102E, "ဥဦ"),
  (0x1B35, "ᬅᬆᬇᬈᬉᬊᬋᬌᬍᬎᬑᬒ\u1b3a\u1b3b\u1b3c\u1b3d\u1b3e\u1b40\u1b3f\u1b41\u1b42\u1b43"),
  (0x3099, "うゔかがきぎくぐけげこごさざしじすずせぜそぞただちぢつづてでとどはばひびふぶへべほぼゝゞウヴカガキギクグケゲコゴサザシジスズセゼソゾタダチヂツヅテデトドハバ"),
  (0x3099, "ヒビフブヘベホボワヷヰヸヱヹヲヺヽヾ"), (0x309A, "はぱひぴふぷへぺほぽハパヒピフプヘペホポ"), (0x110BA, "𑂙𑂚𑂛𑂜𑂥𑂫"),
  (0x11127, "𑄱𑄮𑄲𑄯"), (0x1133E, "𑍇𑍋"), (0x11357, "𑍇𑍌"), (0x113B8, "𑏅𑎸"), (0x113BB, "𑎄𑎅"),
  (0x113C2, "𑎋𑎎𑏅𑏂"), (0x113C9, "𑎂𑎃𑎐𑎑𑏅𑏉"), (0x114B0, "𑒹𑒼"), (0x114BA, "𑒹𑒻"), (0x114BD, "𑒹𑒾"),
  (0x115AF, "𑖸𑖺𑖹𑖻"), (0x11930, "𑤵𑤸"), (0x1611E, "𖄡𖄞"), (0x1611F, "𖄦𖄡𖄦𖄢𖄧𖄩𖄤"), (0x16120, "𖄨𖄡𖄨"),
  (0x16129, "𖄡𖄩"), (0x16D67, "𖵣𖵪𖵨𖵩𖵪")]

/-- The syllable, without a last consonant or with one, that two code points are joined to. -/
def joinSyllable? (a b : Nat) : Option Nat :=
  if 0x1100 ≤ a && a < 0x1113 && 0x1161 ≤ b && b < 0x1176 then
    some (0xAC00 + ((a - 0x1100) * 21 + (b - 0x1161)) * 28)
  else if 0xAC00 ≤ a && a < 0xD7A4 && (a - 0xAC00) % 28 = 0 && 0x11A8 ≤ b && b < 0x11C3 then
    some (a + (b - 0x11A7))
  else none

/-- The parts of a syllable: its last consonant and what is before it, or its two letters. -/
def splitSyllable? (n : Nat) : Option (Nat × Nat) :=
  if 0xAC00 ≤ n && n < 0xD7A4 then
    let k := n - 0xAC00
    if k % 28 = 0 then some (0x1100 + k / 588, 0x1161 + k / 28 % 21)
    else some (n - k % 28, 0x11A7 + k % 28)
  else none

/-- The letters and what they are joined to, as they stand in a row. -/
def rowPairs : List Char → List (Char × Char)
  | a :: b :: rest => (a, b) :: rowPairs rest
  | _ => []

/-- What a letter and a mark are joined to. -/
def join? (letter mark : Char) : Option Char :=
  if mark.toNat < 0x300 then none
  else match joinSyllable? letter.toNat mark.toNat with
    | some n => some (Char.ofNat n)
    | none => joinedPairs.findSome? fun (m, pairs) =>
      if m = mark.toNat then (rowPairs pairs.toList).lookup letter else none

/-- The letter and the mark that a character is joined from. -/
def split? (c : Char) : Option (Char × Char) :=
  if c.toNat < 0xC0 then none
  else match splitSyllable? c.toNat with
    | some (a, b) => some (Char.ofNat a, Char.ofNat b)
    | none => joinedPairs.findSome? fun (m, pairs) =>
      ((rowPairs pairs.toList).find? (·.2 = c)).map fun (a, _) => (a, Char.ofNat m)

/-- A character as a letter and its marks, of which at most `most` are split off. -/
def parts : Nat → Char → List Char
  | 0, c => [c]
  | most + 1, c => match split? c with
    | some (a, m) => parts most a ++ [m]
    | none => [c]

/-- The most marks that a character is joined from. -/
def mostMarks : Nat := 3

/-- Puts a character before an arranged text, behind the marks there that have an earlier place. -/
def settle (c : Char) : List Char → List Char
  | [] => [c]
  | d :: rest => if 0 < place d && place d < place c then d :: settle c rest else c :: d :: rest

/-- A text whose marks stand in the order of their places. -/
def arrange (cs : List Char) : List Char := cs.foldr settle []

/-- Whether a character cannot reach the letter past the marks that were kept, latest first. -/
def isBarred (kept : List Char) (c : Char) : Bool :=
  match kept with
  | [] => false
  | m :: _ => place c ≤ place m

/-- Joins a letter with what follows in an arranged text, where `kept` are the marks behind it that
were not joined, latest first. -/
def joinOn (letter : Char) (kept : List Char) : List Char → List Char
  | [] => letter :: kept.reverse
  | c :: rest =>
    match if isBarred kept c then none else join? letter c with
    | some joined => joinOn joined kept rest
    | none =>
      if place c = 0 then letter :: (kept.reverse ++ joinOn c [] rest)
      else joinOn letter (c :: kept) rest

/-- Joins the letters of an arranged text with their marks. -/
def joinAll : List Char → List Char
  | [] => []
  | c :: rest => joinOn c [] rest

/-- The composed form of a text. -/
def composed (cs : List Char) : List Char := joinAll (arrange (cs.flatMap (parts mostMarks)))

theorem joinSyllable?_of_splitSyllable? {n a b : Nat} (h : splitSyllable? n = some (a, b)) :
    joinSyllable? a b = some n := by
  unfold splitSyllable? at h
  simp only [Bool.and_eq_true, decide_eq_true_eq] at h
  split at h
  · split at h <;> simp only [Option.some.injEq, Prod.mk.injEq] at h
    · simp only [joinSyllable?, Bool.and_eq_true, decide_eq_true_eq]
      rw [if_pos (by omega)]
      simp only [Option.some.injEq]
      omega
    · simp only [joinSyllable?, Bool.and_eq_true, decide_eq_true_eq]
      rw [if_neg (by omega), if_pos (by omega)]
      simp only [Option.some.injEq]
      omega
  · simp at h

theorem parts_ascii {c : Char} (h : c.toNat < 0x80) (most : Nat) : parts most c = [c] := by
  cases most with
  | zero => rfl
  | succ n => simp [parts, split?, show c.toNat < 0xC0 by omega]

theorem arrange_ascii {cs : List Char} (h : ∀ c ∈ cs, c.toNat < 0x80) : arrange cs = cs := by
  induction cs with
  | nil => rfl
  | cons c rest ih =>
    have hr := ih fun d hd => h d (List.mem_cons_of_mem _ hd)
    have hs : arrange (c :: rest) = settle c (arrange rest) := rfl
    rw [hs, hr]
    cases rest with
    | nil => rfl
    | cons d ds => simp [settle, place_ascii (h d (by simp))]

theorem joinOn_ascii {cs : List Char} (a : Char) (h : ∀ c ∈ cs, c.toNat < 0x80) :
    joinOn a [] cs = a :: cs := by
  induction cs generalizing a with
  | nil => rfl
  | cons c rest ih =>
    have hc : c.toNat < 0x80 := h c (by simp)
    have hj : join? a c = none := by simp [join?, show c.toNat < 0x300 by omega]
    simp [joinOn, isBarred, hj, place_ascii hc, ih c fun d hd => h d (List.mem_cons_of_mem _ hd)]

theorem composed_ascii {cs : List Char} (h : ∀ c ∈ cs, c.toNat < 0x80) : composed cs = cs := by
  have hp : cs.flatMap (parts mostMarks) = cs := by
    induction cs with
    | nil => rfl
    | cons c rest ih =>
      simp [parts_ascii (h c (by simp)), ih fun d hd => h d (List.mem_cons_of_mem _ hd)]
  rw [composed, hp, arrange_ascii h]
  cases cs with
  | nil => rfl
  | cons c rest => exact joinOn_ascii c fun d hd => h d (List.mem_cons_of_mem _ hd)

end HealthAgent.Url
