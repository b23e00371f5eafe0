import Precedents.Proofs.Address
import Precedents.Proofs.Formula.Lexeme

/-!
# Words, mentions and areas

Areas apart from the text that they are found in. A mention is the text of an address that stands
for itself (`IsMention`); an area is one mention, or two with a joint between them (`IsArea`). The
lemmas that end in `_iff` say that `mention?` and `area?` find exactly these, and by which
characters behind them they are kept from doing so.
-/

namespace Precedents.Formula

variable {c : Char} {text v w z z' : List Char} {m : Mention}

/-! ## Words -/

/-- A word can begin with an ASCII letter. -/
lemma startsWord_of_isAlpha (h : c.isAlpha = true) : startsWord c = true := by
  have hc := isAlpha_iff_toNat.1 h
  simp [startsWord, Text.isLetter_eq_isAlpha (c := c) (by omega), h]

/-- An ASCII digit can stand in a word. -/
lemma inWord_of_isDigit (h : c.isDigit = true) : inWord c = true := by
  have hc := isDigit_iff_toNat.1 h
  simp [inWord, Text.isNumeral_eq_isDigit (c := c) (by omega), h]

/-- No number goes on with what a word can begin with. -/
lemma inNumber_of_startsWord (h : startsWord c = true) : inNumber c = false := by
  rw [Bool.eq_false_iff, ne_eq, inNumber, Bool.or_eq_true, beq_iff_eq]
  rintro (hd | rfl)
  · have hc := isDigit_iff_toNat.1 hd
    rw [startsWord, Text.isLetter_eq_isAlpha (by omega), isAlpha_of_isDigit hd] at h
    simp only [Bool.false_or, Bool.or_eq_true, beq_iff_eq] at h
    rcases h with (rfl | rfl) | rfl <;> exact absurd hd (by decide)
  · exact absurd h (by decide)

/-- What can stand in a word goes on with a name. -/
lemma continuesName_of_inWord (h : inWord c = true) : continuesName c = true := by
  simp [continuesName, h]

/-- Where no name goes on, no word does. -/
lemma leadsWith_inWord (h : leadsWith continuesName z = false) : leadsWith inWord z = false :=
  leadsWith_of_imp (fun _ => continuesName_of_inWord) h

/-- A function name, a sheet name, a defined name or an address. -/
def IsWord (w : List Char) : Prop :=
  ∃ c cs, w = c :: cs ∧ startsWord c = true ∧ ∀ d ∈ cs, inWord d = true

/-- All characters of a word can stand in one. -/
lemma IsWord.inWord (h : IsWord w) : ∀ c ∈ w, inWord c = true := by
  obtain ⟨c, cs, rfl, hc, hcs⟩ := h
  intro d hd
  rcases List.mem_cons.1 hd with rfl | hd
  · exact inWord_of_startsWord hc
  · exact hcs d hd

lemma IsWord.ne_nil (h : IsWord w) : w ≠ [] := by
  obtain ⟨c, cs, rfl, -⟩ := h
  exact List.cons_ne_nil c cs

lemma IsWord.leadsWith_append (h : IsWord w) (z : List Char) :
    leadsWith startsWord (w ++ z) = true := by
  obtain ⟨c, cs, rfl, hc, -⟩ := h
  exact hc

/-- A word is all that is dropped where nothing goes on with it. -/
lemma IsWord.dropWhile (h : IsWord w) (hz : leadsWith Formula.inWord z = false) :
    (w ++ z).dropWhile Formula.inWord = z :=
  dropWhile_append h.inWord hz

/-! ## Mentions -/

/-- The spelling of an address is a word. -/
lemma isWord_text (s : Spelling) : IsWord s.text := by
  have hm : ∀ fixed, ∀ c ∈ mark fixed, startsWord c = true := by
    intro fixed c hc
    cases fixed with
    | true => rw [List.mem_singleton.1 hc]; decide
    | false => exact absurd hc List.not_mem_nil
  have hall : ∀ c ∈ s.text, inWord c = true := by
    intro c hc
    simp only [Spelling.text, List.mem_append] at hc
    rcases hc with ((hc | hc) | hc) | hc
    · exact inWord_of_startsWord (hm _ c hc)
    · exact inWord_of_startsWord (startsWord_of_isAlpha (s.isAlpha c hc))
    · exact inWord_of_startsWord (hm _ c hc)
    · exact inWord_of_isDigit (s.isDigit c hc)
  obtain ⟨l, ls, hl⟩ := List.exists_cons_of_ne_nil s.letters_ne
  have hstart : leadsWith startsWord s.text = true := by
    rw [Spelling.text, List.append_assoc, List.append_assoc, hl]
    cases s.colFixed with
    | true => exact hm true '$' List.mem_cons_self
    | false => exact startsWord_of_isAlpha (s.isAlpha l (hl ▸ List.mem_cons_self))
  obtain ⟨c, cs, e, hc⟩ := exists_cons_of_leadsWith hstart
  exact ⟨c, cs, e, hc, fun d hd => hall d (e ▸ List.mem_cons_of_mem c hd)⟩

/-- A mark and what stands behind it make up the text. -/
lemma mark_append_takeMark (text : List Char) :
    mark (Address.takeMark text).1 ++ (Address.takeMark text).2 = text := by
  unfold Address.takeMark
  split <;> rfl

/-- What stands in front of an end of a text is had back. -/
lemma upTo_append_self (w z : List Char) : upTo (w ++ z) z = w := by simp [upTo]

/-- Whether a spelling is a mention is decided by what follows it and by the address parser. -/
lemma mention?_spelling (s : Spelling) (hz : leadsWith Char.isDigit z = false) :
    mention? (s.text ++ z) =
      if leadsWith continuesName z then none
      else (Address.parse (String.ofList s.text)).toOption.map
        fun address => (⟨s.text, address⟩, z) := by
  have hl : leadsWith Char.isAlpha (s.letters ++ (mark s.rowFixed ++ (s.digits ++ z))) = true := by
    obtain ⟨l, ls, e⟩ := List.exists_cons_of_ne_nil s.letters_ne
    rw [leadsWith_append s.letters_ne, e]
    exact s.isAlpha l (e ▸ List.mem_cons_self)
  have hd : leadsWith Char.isDigit (s.digits ++ z) = true := by
    obtain ⟨d, ds, e⟩ := List.exists_cons_of_ne_nil s.digits_ne
    rw [leadsWith_append s.digits_ne, e]
    exact s.isDigit d (e ▸ List.mem_cons_self)
  simp only [mention?, s.takeMark_text, s.dropWhile_letters, s.takeMark_digits,
    dropWhile_append s.isDigit hz, hl, hd, Bool.not_true, Bool.false_or, upTo_append_self]
  by_cases hc : leadsWith continuesName z = true
  · rw [if_pos hc, if_pos hc]
  · rw [if_neg hc, if_neg hc]
    cases Address.parse (String.ofList s.text) with
    | ok address => rfl
    | error e => rfl

/-- A mention that is read is the spelling of its address, and no name goes on behind it. -/
lemma mention?_split (h : mention? text = some (m, z)) :
    ∃ s : Spelling, m.text = s.text ∧ text = m.text ++ z ∧ leadsWith continuesName z = false ∧
      Address.parse (String.ofList m.text) = .ok m.address := by
  obtain ⟨happ, -⟩ := mention?_append h
  simp only [mention?] at h
  split at h
  case isTrue => simp at h
  case isFalse hne =>
    simp only [Bool.or_eq_true, Bool.not_eq_true', not_or, Bool.not_eq_false,
      Bool.not_eq_true] at hne
    obtain ⟨⟨hl, hd⟩, hz⟩ := hne
    split at h
    case h_2 => simp at h
    case h_1 address hp =>
      obtain ⟨rfl, rfl⟩ := Prod.mk.inj (Option.some.inj h)
      obtain ⟨ls, hls, -, hla⟩ := dropWhile_split Char.isAlpha (Address.takeMark text).2
      obtain ⟨ds, hds, -, hda⟩ := dropWhile_split Char.isDigit
        (Address.takeMark ((Address.takeMark text).2.dropWhile Char.isAlpha)).2
      -- The parts that were passed one after another are those of a spelling.
      let s : Spelling :=
        { colFixed := (Address.takeMark text).1
          letters := ls
          rowFixed := (Address.takeMark ((Address.takeMark text).2.dropWhile Char.isAlpha)).1
          digits := ds
          letters_ne := ne_nil_of_dropWhile hl hls
          digits_ne := ne_nil_of_dropWhile hd hds
          isAlpha := hla
          isDigit := hda }
      refine ⟨s, ?_, happ.symm, hz, hp⟩
      refine List.append_cancel_right (happ.trans ?_)
      change _ = (mark _ ++ ls ++ mark _ ++ ds) ++ _
      rw [List.append_assoc, ← hds, List.append_assoc, mark_append_takeMark,
        List.append_assoc, ← hls, mark_append_takeMark]

/-- The text of an address that stands for itself. -/
def IsMention (m : Mention) : Prop := mention? m.text = some (m, [])

/-- A mention is found wherever no character behind it makes it part of a name. -/
theorem mention?_iff :
    mention? text = some (m, z) ↔
      text = m.text ++ z ∧ IsMention m ∧ leadsWith continuesName z = false := by
  have digit : ∀ {z}, leadsWith continuesName z = false → leadsWith Char.isDigit z = false :=
    fun hz => leadsWith_of_imp (fun _ hc => continuesName_of_inWord (inWord_of_isDigit hc)) hz
  constructor
  · intro h
    obtain ⟨s, hs, ht, hz, hp⟩ := mention?_split h
    refine ⟨ht, ?_, hz⟩
    have hm := mention?_spelling s (z := []) rfl
    rw [← hs, hp, List.append_nil] at hm
    exact hm
  · rintro ⟨rfl, hm, hz⟩
    obtain ⟨s, hs, -, -, hp⟩ := mention?_split hm
    rw [hs, mention?_spelling s (digit hz), hz, if_neg Bool.false_ne_true, ← hs, hp]
    rfl

/-- A mention is a word. -/
lemma IsMention.isWord (h : IsMention m) : IsWord m.text := by
  obtain ⟨s, hs, -⟩ := mention?_split h
  rw [hs]
  exact isWord_text s

/-- The column of a mention that begins with a mark is fixed. -/
lemma IsMention.colFixed (h : IsMention m) (hm : leadsWith (· == '$') m.text = true) :
    m.address.colFixed = true := by
  obtain ⟨s, hs, -, -, hp⟩ := mention?_split h
  have hc : s.colFixed = true := by
    rw [hs, Spelling.text, List.append_assoc, List.append_assoc] at hm
    obtain ⟨l, ls, e⟩ := List.exists_cons_of_ne_nil s.letters_ne
    cases hf : s.colFixed with
    | true => rfl
    | false =>
      rw [hf, e] at hm
      exact absurd (beq_iff_eq.1 hm) (ne_dollar_of_isAlphanum (.inl (s.isAlpha l (by simp [e]))))
  rw [hs, s.parse] at hp
  exact (s.of_ofChars hp).2.trans hc

/-- A mention is of a cell of the grid. -/
lemma IsMention.inGrid (h : IsMention m) : m.address.InGrid := by
  obtain ⟨s, hs, -, -, hp⟩ := mention?_split h
  rw [hs, s.parse] at hp
  exact (s.of_ofChars hp).1

/-- The text of an address of the grid is a mention of it. -/
lemma isMention_chars {a : Address} (h : a.InGrid) : IsMention ⟨a.chars, a⟩ := by
  have hm := mention?_spelling a.spelling (z := []) rfl
  rw [Spelling.parse, a.text_spelling, Address.ofChars_chars h, List.append_nil] at hm
  exact hm

/-- Where no word begins there is no mention. -/
lemma mention?_of_leadsWith (h : leadsWith startsWord text = false) : mention? text = none := by
  rw [Option.eq_none_iff_forall_ne_some]
  rintro ⟨m, z⟩ hm
  obtain ⟨rfl, hm, -⟩ := mention?_iff.1 hm
  rw [hm.isWord.leadsWith_append z] at h
  exact Bool.false_ne_true h.symm

/-- A mention at the start of a text is the whole word that stands there. -/
lemma eq_of_mention?_word (hw : ∀ c ∈ w, inWord c = true) (hz : leadsWith inWord z = false)
    {r : List Char} (h : mention? (w ++ z) = some (m, r)) : m.text = w ∧ r = z := by
  obtain ⟨e, hm, hr⟩ := mention?_iff.1 h
  obtain ⟨h₁, h₂⟩ := run_unique e hw hz hm.isWord.inWord (leadsWith_inWord hr)
  exact ⟨h₁.symm, h₂.symm⟩

/-- A word that what follows it makes a name of is no mention. -/
lemma mention?_of_continuesName (hw : ∀ c ∈ w, inWord c = true) (hz : leadsWith inWord z = false)
    (hc : leadsWith continuesName z = true) : mention? (w ++ z) = none := by
  rw [Option.eq_none_iff_forall_ne_some]
  rintro ⟨m, r⟩ hm
  obtain ⟨-, rfl⟩ := eq_of_mention?_word hw hz hm
  obtain ⟨-, -, hr⟩ := mention?_iff.1 hm
  exact Bool.false_ne_true (hr.symm.trans hc)

/-- A word that is no mention in front of one text is none in front of another, unless what kept it
from being one is missing there. -/
lemma mention?_word_none (hw : ∀ c ∈ w, inWord c = true) (hz' : leadsWith inWord z' = false)
    (hc : leadsWith continuesName z' = false → leadsWith continuesName z = false)
    (h : mention? (w ++ z) = none) : mention? (w ++ z') = none := by
  rw [Option.eq_none_iff_forall_ne_some]
  rintro ⟨m, r⟩ hm
  obtain ⟨rfl, rfl⟩ := eq_of_mention?_word hw hz' hm
  obtain ⟨-, hm, hr⟩ := mention?_iff.1 hm
  rw [mention?_iff.2 ⟨rfl, hm, hc hr⟩] at h
  exact Option.some_ne_none _ h

/-! ## Corners and areas -/

/-- How a sheet name stands in front of an exclamation mark: as a word, or between apostrophes. -/
inductive Names : List Char → List Char → Prop where
  | bare {w : List Char} : IsWord w → Names w w
  | quoted {w name : List Char} : quotedName w = some (name, []) → Names ('\'' :: w) name

/-- No word begins with an apostrophe. -/
lemma ne_apostrophe_of_startsWord (h : startsWord c = true) : c ≠ '\'' := by
  rintro rfl
  exact absurd h (by decide)

/-- What stands in front of an exclamation mark is no mention. -/
lemma Names.mention? {l name : List Char} (h : Names l name) (z : List Char) :
    Formula.mention? (l ++ '!' :: z) = none := by
  cases h with
  | quoted => exact mention?_of_leadsWith rfl
  | bare hw => exact mention?_of_continuesName hw.inWord rfl rfl

/-- A name in front of an exclamation mark repeats a sheet if it is the name of that sheet. -/
lemma Names.afterSameQualifier {l name : List Char} (h : Names l name) (sheet : String)
    (z : List Char) :
    Formula.afterSameQualifier sheet (l ++ '!' :: z) =
      if Text.lowercase (String.ofList name) = Text.lowercase sheet then some z else none := by
  cases h with
  | quoted hq =>
    have hq : quotedName _ = _ := quotedName_append (z := '!' :: z) hq rfl
    simp only [List.cons_append, Formula.afterSameQualifier, hq]
  | bare hw =>
    obtain ⟨c, cs, rfl, hc, hcs⟩ := hw
    have hz : leadsWith inWord ('!' :: z) = false := rfl
    rw [List.cons_append, Formula.afterSameQualifier]
    · simp only [if_pos hc, takeWhile_append hcs hz, dropWhile_append hcs hz]
    · exact ne_apostrophe_of_startsWord hc

/-- A qualifier that is repeated is a name in front of an exclamation mark, the same up to case. -/
lemma afterSameQualifier_split {sheet : String} (h : afterSameQualifier sheet text = some z) :
    ∃ l name, text = l ++ '!' :: z ∧ Names l name ∧
      Text.lowercase (String.ofList name) = Text.lowercase sheet := by
  simp only [afterSameQualifier] at h
  split at h
  case h_2 => simp at h
  case h_1 name rest e =>
    split at h
    case isFalse => simp at h
    case isTrue hlower =>
      obtain rfl := Option.some.inj h
      split at e
      case h_1 => simp at e
      case h_2 cs =>
        obtain ⟨w, rfl, hw, -⟩ := quotedName_split e
        exact ⟨'\'' :: w, name, rfl, .quoted hw, hlower⟩
      case h_3 c cs _ =>
        split at e
        case isFalse => simp at e
        case isTrue hc =>
          obtain ⟨rfl, hrest⟩ := Prod.mk.inj (Option.some.inj e)
          obtain ⟨w, hs, ht, hw⟩ := dropWhile_split inWord cs
          rw [ht] at hlower
          rw [hrest] at hs
          exact ⟨c :: w, c :: w, congrArg (c :: ·) hs, .bare ⟨c, w, rfl, hc, hw⟩, hlower⟩

/-- The addresses of an area, one or two. -/
def Area.addresses (a : Area) : List Address :=
  a.first.address :: (a.second.map (·.mention.address)).toList

/-- What may stand behind the colon of an area: nothing, or the name of its sheet once more. -/
inductive Repeats (name : Option String) : List Char → Prop where
  | nothing : Repeats name []
  | sheet {l again : List Char} {s : String} : name = some s → Names l again →
    Text.lowercase (String.ofList again) = Text.lowercase s → Repeats name (l ++ ['!'])

/-- A second corner that stands for itself. -/
def IsCorner (name : Option String) (k : Corner) : Prop :=
  ∃ lead, k.joint = ':' :: lead ∧ Repeats name lead ∧ IsMention k.mention

/-- An area that stands for itself. -/
def IsArea (name : Option String) (a : Area) : Prop :=
  IsMention a.first ∧ ∀ k, a.second = some k → IsCorner name k

variable {name : Option String} {k : Corner} {a : Area}

/-- A corner is found wherever no character behind it makes it part of a name. -/
theorem corner?_iff :
    corner? name text = some (k, z) ↔
      text = k.joint ++ k.mention.text ++ z ∧ IsCorner name k ∧
        leadsWith continuesName z = false := by
  constructor
  · intro h
    obtain ⟨happ, -⟩ := corner?_append h
    refine ⟨happ.symm, ?_⟩
    unfold corner? at h
    split at h
    case h_2 => simp at h
    case h_1 cs =>
      split at h
      case h_1 m r hm =>
        obtain ⟨rfl, rfl⟩ := Prod.mk.inj (Option.some.inj h)
        obtain ⟨-, hm, hz⟩ := mention?_iff.1 hm
        exact ⟨⟨[], rfl, .nothing, hm⟩, hz⟩
      case h_2 =>
        simp only [Option.bind_eq_bind, Option.bind_eq_some_iff] at h
        obtain ⟨s, hs, again, ha, ⟨m, r⟩, hm, he⟩ := h
        obtain ⟨rfl, rfl⟩ := Prod.mk.inj (Option.some.inj he)
        obtain ⟨-, hm, hz⟩ := mention?_iff.1 hm
        obtain ⟨l, n, rfl, hn, hlower⟩ := afterSameQualifier_split ha
        refine ⟨⟨l ++ ['!'], ?_, .sheet hs hn hlower, hm⟩, hz⟩
        have hu := upTo_append_self (':' :: (l ++ ['!'])) again
        rwa [List.cons_append, List.append_assoc] at hu
  · rintro ⟨rfl, ⟨lead, hj, hr, hm⟩, hz⟩
    obtain ⟨joint, m⟩ := k
    obtain rfl : joint = ':' :: lead := hj
    have hfound : mention? (m.text ++ z) = some (m, z) := mention?_iff.2 ⟨rfl, hm, hz⟩
    cases hr with
    | nothing => simp only [List.cons_append, List.nil_append, corner?, hfound]
    | @sheet l again s hs hn hlower =>
      -- The name in front of the exclamation mark is no mention, so it is compared with the sheet.
      have hnone := hn.mention? (m.text ++ z)
      have hsame := hn.afterSameQualifier s (m.text ++ z)
      rw [if_pos hlower] at hsame
      have hu := upTo_append_self (':' :: (l ++ ['!'])) (m.text ++ z)
      simp only [List.cons_append, List.append_assoc, List.nil_append] at hu ⊢
      simp only [corner?, hnone, hs, Option.bind_eq_bind, Option.bind_some, hsame, hfound,
        hu]
      rfl

/-- There is no area exactly where there is no mention. -/
lemma area?_eq_none_iff : area? name text = none ↔ mention? text = none := by
  unfold area?
  split
  case h_1 h => simp [h]
  case h_2 m r h => split <;> simp [h]

/-- An area is found wherever no character behind it makes it part of a name, and none of two
corners is found for it where it has but one. -/
theorem area?_iff :
    area? name text = some (a, z) ↔
      text = a.text ++ z ∧ IsArea name a ∧ leadsWith continuesName z = false ∧
        (a.second = none → corner? name z = none) := by
  constructor
  · intro h
    obtain ⟨happ, -⟩ := area?_append h
    refine ⟨happ.symm, ?_⟩
    unfold area? at h
    split at h
    case h_1 => simp at h
    case h_2 m r hm =>
      obtain ⟨-, hm, hz⟩ := mention?_iff.1 hm
      split at h
      case h_1 k r' hk =>
        obtain ⟨rfl, rfl⟩ := Prod.mk.inj (Option.some.inj h)
        obtain ⟨-, hk, hz⟩ := corner?_iff.1 hk
        refine ⟨⟨hm, ?_⟩, hz, nofun⟩
        rintro _ ⟨⟩
        exact hk
      case h_2 hk =>
        obtain ⟨rfl, rfl⟩ := Prod.mk.inj (Option.some.inj h)
        exact ⟨⟨hm, nofun⟩, hz, fun _ => hk⟩
  · rintro ⟨rfl, ⟨hm, hk⟩, hz, hc⟩
    obtain ⟨m, second⟩ := a
    cases second with
    | none =>
      have hm : mention? (m.text ++ z) = some (m, z) := mention?_iff.2 ⟨rfl, hm, hz⟩
      simp only [Area.text, List.append_nil, area?, hm, hc rfl]
    | some k =>
      have hk := hk k rfl
      have hcorner : corner? name (k.joint ++ k.mention.text ++ z) = some (k, z) :=
        corner?_iff.2 ⟨rfl, hk, hz⟩
      -- A joint begins with a colon, behind which no name goes on.
      have hcolon : leadsWith continuesName (k.joint ++ k.mention.text ++ z) = false := by
        obtain ⟨lead, hj, -⟩ := hk
        rw [hj]
        rfl
      have hm : mention? (m.text ++ (k.joint ++ k.mention.text ++ z)) =
          some (m, k.joint ++ k.mention.text ++ z) := mention?_iff.2 ⟨rfl, hm, hcolon⟩
      have happ : Area.text ⟨m, some k⟩ ++ z = m.text ++ (k.joint ++ k.mention.text ++ z) := by
        simp [Area.text]
      simp only [happ, area?, hm, hcorner]

/-- An area begins with its first mention, and no name goes on behind that. -/
lemma IsArea.split (h : IsArea name a) (hz : leadsWith continuesName z = false) :
    ∃ rest, a.text ++ z = a.first.text ++ rest ∧ leadsWith continuesName rest = false := by
  obtain ⟨m, second⟩ := a
  cases second with
  | none => exact ⟨z, by simp [Area.text], hz⟩
  | some k =>
    obtain ⟨lead, hj, -⟩ := h.2 k rfl
    exact ⟨k.joint ++ k.mention.text ++ z, by simp [Area.text], by rw [hj]; rfl⟩

/-- The first mention of an area is what is read of it first. -/
lemma IsArea.mention? (h : IsArea name a) (hz : leadsWith continuesName z = false) :
    ∃ rest, Formula.mention? (a.text ++ z) = some (a.first, rest) := by
  obtain ⟨rest, e, hrest⟩ := h.split hz
  exact ⟨rest, mention?_iff.2 ⟨e, h.1, hrest⟩⟩

end Precedents.Formula
