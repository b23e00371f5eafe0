import Precedents.Package.SharedStrings
import Precedents.Proofs.RichText

/-!
# The list of shared strings

The reader of shared strings knows which elements are open from three flags. Inside an item they
agree with the elements that are open there (`State.Follows`), whatever runs, phonetic runs and
other elements come one after another, so that exactly the texts outside of phonetic runs are
gathered (`run_content`). Between items nothing is gathered, and no phonetic run is taken for open
that is not (`State.Rests`). So the list has the text of each item at the place of the item
(`strings_aligned`).
-/

namespace Precedents.SharedStrings

open Markup RichText

/-! ## Parts as lists of items -/

/-- The events of a part, where some elements are open, the innermost first, and what is inside its
complete items. The events are well nested; an item lies in no other and in no phonetic run, and it
has no inside or a rich text; and the last item may be incomplete. -/
inductive Lists : List (List UInt8) → List Event → List (List Event) → Prop where
  | nil {opened} : Lists opened [] []
  | item {opened tag inside name es items} :
    tag.localName = ascii "si" → ascii "rPh" ∉ opened → Content [] inside →
    localName name = ascii "si" → Lists opened es items →
    Lists opened (.opening tag :: (inside ++ .closing name :: es)) (inside :: items)
  | bare {opened tag es items} :
    tag.localName = ascii "si" → Lists opened es items →
    Lists opened (.empty tag :: es) ([] :: items)
  | unfinished {opened tag es} :
    tag.localName = ascii "si" → (∀ e ∈ es, ¬ e.Touches "si") → Lists opened (.opening tag :: es) []
  | opening {opened tag es items} :
    tag.localName ≠ ascii "si" → Lists (tag.localName :: opened) es items →
    Lists opened (.opening tag :: es) items
  | closing {opened name es items} :
    localName name ≠ ascii "si" → Lists opened es items →
    Lists (localName name :: opened) (.closing name :: es) items
  | empty {opened tag es items} :
    tag.localName ≠ ascii "si" → Lists opened es items → Lists opened (.empty tag :: es) items
  | text {opened content es items} :
    Lists opened es items → Lists opened (.text content :: es) items
  | other {opened es items} : Lists opened es items → Lists opened (.other :: es) items

variable {s t : State} {e : Event} {es : List Event} {items : List (List Event)} {tag : Tag}
variable {opened : List (List UInt8)} {name : List UInt8} {content : Option String}

/-- The state after some events. -/
def State.run (s : State) (es : List Event) : Except Failure State := es.foldlM State.event s

lemma run_cons : s.run (e :: es) = s.event e >>= (·.run es) := List.foldlM_cons

lemma run_opened : s.run (.opening tag :: es) = (s.opening tag).run es := rfl

lemma run_closed : s.run (.closing name :: es) = (s.closing name).run es := rfl

lemma run_append {es' : List Event} : s.run (es ++ es') = s.run es >>= (·.run es') :=
  List.foldlM_append

/-! ## Inside an item -/

/-- What the reader takes for open in an item agrees with what is open there. It does not hear the
end of a phonetic run that holds no text, so that only a run of the item itself is sure. -/
structure State.Follows (s : State) (opened : List (List UInt8)) : Prop where
  inItem : s.inItem = true
  inText : s.inText = true ↔ opened.head? = some (ascii "t") ∧ ascii "rPh" ∉ opened
  silent : s.inPhonetic = true → ascii "rPh" ∈ opened
  phonetic : opened.getLast? = some (ascii "rPh") → s.inPhonetic = true

lemma getLast?_of_cons {α : Type} {a b : α} {as : List α} (h : (a :: as).getLast? = some b) :
    a = b ∨ as.getLast? = some b := by
  cases as with
  | nil => exact .inl (Option.some.inj h)
  | cons c as => exact .inr h

lemma getLast?_cons_of_some {α : Type} {a b : α} {as : List α} (h : as.getLast? = some b) :
    (a :: as).getLast? = some b := by
  cases as with
  | nil => cases h
  | cons c as => exact h

lemma phonetic_ne_text : ascii "rPh" ≠ ascii "t" := by decide

namespace State.Follows

/-- Where no text element is open, nothing is gathered. -/
lemma inText_eq_false (h : s.Follows opened) (hleaf : opened.head? ≠ some (ascii "t")) :
    s.inText = false := by
  rw [Bool.eq_false_iff]
  exact fun ht => hleaf (h.inText.1 ht).1

/-- A phonetic run that starts keeps the reader in step with what is open. -/
lemma opening_phonetic (h : s.Follows opened) (ha : Admits opened tag.localName)
    (hph : tag.localName = ascii "rPh") : (s.opening tag).Follows (tag.localName :: opened) := by
  have hsi : tag.isNamed "si" = false := isNamed_eq_false ha.apart
  have hnamed : tag.isNamed "rPh" = true := beq_iff_eq.2 hph
  have hs : s.opening tag = { s with inPhonetic := true } := by
    simp only [State.opening, hsi, hnamed, Bool.false_eq_true, if_false, if_true]
  rw [hs, hph]
  refine ⟨h.inItem, iff_of_false ?_ fun hhead => ?_, fun _ => List.mem_cons_self, fun _ => rfl⟩
  · exact Bool.eq_false_iff.1 (h.inText_eq_false ha.leaf)
  · exact phonetic_ne_text (Option.some.inj hhead.1)

/-- A text element stands where the reader is sure of the phonetic run. -/
lemma inPhonetic_iff (h : s.Follows opened)
    (hplaced : opened = [] ∨ opened = [ascii "r"] ∨ opened = [ascii "rPh"]) :
    s.inPhonetic = true ↔ ascii "rPh" ∈ opened := by
  refine ⟨h.silent, fun hmem => ?_⟩
  rcases hplaced with rfl | rfl | rfl
  · cases hmem
  · exact absurd hmem (by decide)
  · exact h.phonetic rfl

/-- A text element that starts keeps the reader in step with what is open. -/
lemma opening_text (h : s.Follows opened) (ha : Admits opened tag.localName)
    (ht : tag.localName = ascii "t") : (s.opening tag).Follows (tag.localName :: opened) := by
  have hph : tag.localName ≠ ascii "rPh" := fun he => phonetic_ne_text (he.symm.trans ht)
  have hsi : tag.isNamed "si" = false := isNamed_eq_false ha.apart
  have hrph : tag.isNamed "rPh" = false := isNamed_eq_false hph
  have hnamed : tag.isNamed "t" = true := beq_iff_eq.2 ht
  have hmem : ascii "rPh" ∈ tag.localName :: opened ↔ s.inPhonetic = true := by
    rw [h.inPhonetic_iff (ha.placed ht), List.mem_cons]
    exact or_iff_right hph.symm
  have hlast : (tag.localName :: opened).getLast? = some (ascii "rPh") → s.inPhonetic = true :=
    fun hlast => h.phonetic ((getLast?_of_cons hlast).resolve_left hph)
  cases hp : s.inPhonetic with
  | true =>
    have hs : s.opening tag = s := by
      simp only [State.opening, hsi, hrph, hp, Bool.not_true, Bool.and_false,
        Bool.false_eq_true, if_false]
    rw [hs]
    refine ⟨h.inItem, iff_of_false ?_ fun hhead => hhead.2 (hmem.2 hp), hmem.2, hlast⟩
    exact Bool.eq_false_iff.1 (h.inText_eq_false ha.leaf)
  | false =>
    have hs : s.opening tag = { s with inText := true } := by
      simp only [State.opening, hsi, hrph, hnamed, h.inItem, hp, Bool.not_false, Bool.and_true,
        Bool.false_eq_true, if_false, if_true]
    rw [hs]
    refine ⟨h.inItem, iff_of_true rfl ⟨congrArg some ht, fun hin => ?_⟩, hmem.2, hlast⟩
    exact Bool.eq_false_iff.1 hp (hmem.1 hin)

/-- An element that may start in an item keeps the reader in step with what is open. -/
lemma opening (h : s.Follows opened) (ha : Admits opened tag.localName) :
    (s.opening tag).Follows (tag.localName :: opened) := by
  by_cases hph : tag.localName = ascii "rPh"
  · exact h.opening_phonetic ha hph
  by_cases ht : tag.localName = ascii "t"
  · exact h.opening_text ha ht
  have hsi : tag.isNamed "si" = false := isNamed_eq_false ha.apart
  have hrph : tag.isNamed "rPh" = false := isNamed_eq_false hph
  have hnamed : tag.isNamed "t" = false := isNamed_eq_false ht
  have hs : s.opening tag = s := by
    simp only [State.opening, hsi, hrph, hnamed, Bool.false_and, Bool.false_eq_true, if_false]
  rw [hs]
  refine ⟨h.inItem, iff_of_false ?_ fun hhead => ht (Option.some.inj hhead.1), ?_, ?_⟩
  · exact Bool.eq_false_iff.1 (h.inText_eq_false ha.leaf)
  · exact fun hp => List.mem_cons_of_mem _ (h.silent hp)
  · exact fun hlast => h.phonetic ((getLast?_of_cons hlast).resolve_left hph)

/-- The end of an element keeps the reader in step with what is open. -/
lemma closing (h : s.Follows (localName name :: opened)) (ha : Admits opened (localName name)) :
    (s.closing name).Follows opened := by
  have hleaf : ¬ (opened.head? = some (ascii "t") ∧ ascii "rPh" ∉ opened) :=
    fun hhead => ha.leaf hhead.1
  have hlast : opened.getLast? = some (ascii "rPh") → s.inPhonetic = true :=
    fun hlast => h.phonetic (getLast?_cons_of_some hlast)
  by_cases hph : localName name = ascii "rPh"
  · have hs : s.closing name = { s with inPhonetic := false } := by
      rw [State.closing, if_neg ha.apart, if_pos hph]
    rw [hs]
    refine ⟨h.inItem, iff_of_false ?_ hleaf, nofun, fun hlast => absurd hlast (ha.single hph)⟩
    have hidle : s.inText = false := h.inText_eq_false fun hhead =>
      phonetic_ne_text (hph.symm.trans (Option.some.inj hhead))
    exact Bool.eq_false_iff.1 hidle
  have hsilent : s.inPhonetic = true → ascii "rPh" ∈ opened := fun hp =>
    (List.mem_cons.1 (h.silent hp)).resolve_left (Ne.symm hph)
  by_cases ht : localName name = ascii "t"
  · have hs : s.closing name = { s with inText := false } := by
      rw [State.closing, if_neg ha.apart, if_neg hph, if_pos ht]
    rw [hs]
    exact ⟨h.inItem, iff_of_false Bool.false_ne_true hleaf, hsilent, hlast⟩
  · have hs : s.closing name = s := by
      rw [State.closing, if_neg ha.apart, if_neg hph, if_neg ht]
    rw [hs]
    refine ⟨h.inItem, iff_of_false ?_ hleaf, hsilent, hlast⟩
    exact Bool.eq_false_iff.1 (h.inText_eq_false fun hhead => ht (Option.some.inj hhead))

end State.Follows

/-- What has been gathered of an item from one state to another: some texts, all of which could be
decoded. -/
structure State.Gathers (s t : State) (xs : List (Option String)) : Prop where
  strings : t.strings = s.strings
  current : t.current = s.current ++ joined xs
  decoded : ∀ x ∈ xs, x.isSome

/-- What is gathered from a state with the same texts is gathered. -/
lemma State.Gathers.after {u : State} {xs : List (Option String)} (h : u.Gathers t xs)
    (hstrings : u.strings = s.strings) (hcurrent : u.current = s.current) : s.Gathers t xs :=
  ⟨h.strings.trans hstrings, h.current.trans (congrArg (· ++ _) hcurrent), h.decoded⟩

/-- A start tag of no item gathers nothing. -/
lemma opening_keeps (h : tag.localName ≠ ascii "si") :
    (s.opening tag).strings = s.strings ∧ (s.opening tag).current = s.current := by
  have hsi : tag.isNamed "si" = false := isNamed_eq_false h
  simp only [State.opening, hsi, Bool.false_eq_true, if_false]
  split_ifs
  all_goals exact ⟨rfl, rfl⟩

/-- An end tag of no item gathers nothing. -/
lemma closing_keeps (h : localName name ≠ ascii "si") :
    (s.closing name).strings = s.strings ∧ (s.closing name).current = s.current := by
  simp only [State.closing, if_neg h]
  split_ifs
  all_goals exact ⟨rfl, rfl⟩

/-- An element without an inside that is no item changes nothing. -/
lemma event_empty (h : tag.localName ≠ ascii "si") : s.event (.empty tag) = .ok s := by
  have hsi : tag.isNamed "si" = false := isNamed_eq_false h
  simp only [State.event, hsi, Bool.false_eq_true, if_false]
  rfl

/-- A text counts where a text element is open, and has to be decoded there. -/
lemma event_text (h : s.event (.text content) = .ok t) :
    (s.inText = false ∧ t = s) ∨
      s.inText = true ∧ ∃ x, content = some x ∧ t = { s with current := s.current ++ x } := by
  unfold State.event at h
  cases ht : s.inText with
  | false =>
    rw [ht] at h
    exact .inl ⟨rfl, (Except.ok.inj h).symm⟩
  | true =>
    rw [ht] at h
    cases content with
    | none => cases h
    | some x => exact .inr ⟨rfl, x, rfl, (Except.ok.inj h).symm⟩

/-- Through the inside of an item the reader gathers the texts outside of phonetic runs. -/
lemma run_content (h : Content opened es) (hstanding : Standing opened) (hs : s.Follows opened)
    (hrun : s.run es = .ok t) : t.Follows [] ∧ s.Gathers t (plain (texts opened es)) := by
  induction h generalizing s with
  | nil =>
    obtain rfl := Except.ok.inj hrun
    exact ⟨hs, rfl, String.append_empty.symm, nofun⟩
  | opening ha _ ih =>
    rw [run_opened] at hrun
    obtain ⟨hend, hgathers⟩ := ih (.cons ha hstanding) (hs.opening ha) hrun
    obtain ⟨hstrings, hcurrent⟩ := opening_keeps (s := s) ha.apart
    exact ⟨hend, hgathers.after hstrings hcurrent⟩
  | closing _ ih =>
    rw [run_closed] at hrun
    cases hstanding with
    | cons ha hstanding =>
      obtain ⟨hend, hgathers⟩ := ih hstanding (hs.closing ha) hrun
      obtain ⟨hstrings, hcurrent⟩ := closing_keeps (s := s) ha.apart
      exact ⟨hend, hgathers.after hstrings hcurrent⟩
  | empty hsi _ ih =>
    rw [run_cons, event_empty hsi] at hrun
    exact ih hstanding hs hrun
  | @text opened content es _ ih =>
    rw [run_cons] at hrun
    obtain ⟨u, hu, hrest⟩ := exists_ok_of_bind hrun
    rw [texts]
    rcases event_text hu with ⟨hidle, rfl⟩ | ⟨hopen, x, rfl, rfl⟩
    · obtain ⟨hend, hgathers⟩ := ih hstanding hs hrest
      refine ⟨hend, ?_⟩
      split
      case isTrue hhead =>
        -- The text element that is open is that of a phonetic run.
        have hin : ascii "rPh" ∈ opened := by
          by_contra hout
          exact Bool.eq_false_iff.1 hidle (hs.inText.2 ⟨hhead, hout⟩)
        rw [decide_eq_true hin]
        exact hgathers
      case isFalse => exact hgathers
    · obtain ⟨hhead, hout⟩ := hs.inText.1 hopen
      have hs' : State.Follows { s with current := s.current ++ x } opened :=
        ⟨hs.inItem, hs.inText, hs.silent, hs.phonetic⟩
      obtain ⟨hend, hgathers⟩ := ih hstanding hs' hrest
      rw [if_pos hhead, decide_eq_false hout, plain_cons_false]
      refine ⟨hend, hgathers.strings, ?_, List.forall_mem_cons.2 ⟨rfl, hgathers.decoded⟩⟩
      rw [hgathers.current, joined_cons]
      exact String.append_assoc
  | other _ ih => exact ih hstanding hs hrun

/-! ## Between items -/

/-- Between items nothing is gathered, and a phonetic run is taken for open only if it is. -/
structure State.Rests (s : State) (opened : List (List UInt8)) : Prop where
  inItem : s.inItem = false
  inText : s.inText = false
  silent : s.inPhonetic = true → ascii "rPh" ∈ opened

/-- An element that starts between items leaves the reader at rest. -/
lemma State.Rests.opening (h : s.Rests opened) (hsi : tag.localName ≠ ascii "si") :
    (s.opening tag).Rests (tag.localName :: opened) := by
  have hnamed : tag.isNamed "si" = false := isNamed_eq_false hsi
  simp only [State.opening, hnamed, h.inItem, Bool.and_false, Bool.false_and, Bool.false_eq_true,
    if_false]
  split
  case isTrue hph =>
    exact ⟨rfl, h.inText, fun _ => beq_iff_eq.1 hph ▸ List.mem_cons_self⟩
  case isFalse => exact ⟨h.inItem, h.inText, fun hp => List.mem_cons_of_mem _ (h.silent hp)⟩

/-- An element that ends between items leaves the reader at rest. -/
lemma State.Rests.closing (h : s.Rests (localName name :: opened))
    (hsi : localName name ≠ ascii "si") : (s.closing name).Rests opened := by
  simp only [State.closing, if_neg hsi]
  split
  case isTrue => exact ⟨h.inItem, h.inText, nofun⟩
  case isFalse hph =>
    have hsilent : s.inPhonetic = true → ascii "rPh" ∈ opened := fun hp =>
      (List.mem_cons.1 (h.silent hp)).resolve_left (Ne.symm hph)
    split
    case isTrue => exact ⟨h.inItem, rfl, hsilent⟩
    case isFalse => exact ⟨h.inItem, h.inText, hsilent⟩

/-- An item outside of phonetic runs begins with nothing gathered. -/
lemma State.Rests.enter (h : s.Rests opened) (hout : ascii "rPh" ∉ opened) :
    State.Follows { s with inItem := true, current := "" } [] where
  inItem := rfl
  inText := iff_of_false (Bool.eq_false_iff.1 h.inText) nofun
  silent hp := absurd (h.silent hp) hout
  phonetic := nofun

/-- Its end leaves nothing open and adds its text to the list. -/
lemma State.Follows.leave (h : s.Follows []) (hsi : localName name = ascii "si") :
    (s.closing name).Rests opened ∧ (s.closing name).strings = s.strings.push s.current := by
  have hs : s.closing name =
      { s with strings := s.strings.push s.current, current := "", inItem := false } := by
    rw [State.closing, if_pos hsi]
  rw [hs]
  exact ⟨⟨rfl, h.inText_eq_false nofun, fun hp => absurd (h.silent hp) nofun⟩, rfl⟩

/-- Where no item ends and none is without an inside, nothing is added to the list. -/
lemma strings_run (h : ∀ e ∈ es, ¬ e.Touches "si") (hrun : s.run es = .ok t) :
    t.strings = s.strings := by
  refine (foldlM_invariant (I := fun es u => (∀ e ∈ es, ¬ e.Touches "si") ∧ u.strings = s.strings)
    ?_ ⟨h, rfl⟩ hrun).2
  rintro e es u u' ⟨hes, hstrings⟩ hu
  obtain ⟨he, hes⟩ := List.forall_mem_cons.1 hes
  refine ⟨hes, Eq.trans ?_ hstrings⟩
  cases e with
  | opening tag =>
    obtain rfl := Except.ok.inj hu
    exact (opening_keeps he).1
  | empty tag =>
    rw [event_empty he] at hu
    obtain rfl := Except.ok.inj hu
    rfl
  | closing name =>
    obtain rfl := Except.ok.inj hu
    exact (closing_keeps he).1
  | text content =>
    rcases event_text hu with ⟨-, rfl⟩ | ⟨-, x, -, rfl⟩
    · rfl
    · rfl
  | other =>
    obtain rfl := Except.ok.inj hu
    rfl

/-! ## The list -/

/-- Over a part the reader adds the text of each item to the list. -/
lemma run_lists (h : Lists opened es items) (hs : s.Rests opened) (hrun : s.run es = .ok t) :
    t.strings.toList = s.strings.toList ++ items.map plainText ∧
      ∀ item ∈ items, ∀ x ∈ plain (texts [] item), x.isSome := by
  -- On how the part lists its items; between two of them the reader is at rest.
  induction h generalizing s with
  | nil =>
    obtain rfl := Except.ok.inj hrun
    exact ⟨(List.append_nil _).symm, nofun⟩
  | @item opened tag inside name es items hsi hout hinside hname _ ih =>
    have hnamed : tag.isNamed "si" = true := beq_iff_eq.2 hsi
    have hopening : s.opening tag = { s with inItem := true, current := "" } := by
      rw [State.opening, if_pos hnamed]
    rw [run_opened, hopening, run_append] at hrun
    obtain ⟨u, hu, hrun⟩ := exists_ok_of_bind hrun
    rw [run_closed] at hrun
    obtain ⟨hend, hgathers⟩ := run_content hinside .nil (hs.enter hout) hu
    obtain ⟨hrests, hpush⟩ : (u.closing name).Rests opened ∧ _ := hend.leave hname
    obtain ⟨hstrings, hdecoded⟩ := ih hrests hrun
    refine ⟨?_, List.forall_mem_cons.2 ⟨hgathers.decoded, hdecoded⟩⟩
    have hcurrent : u.current = plainText inside :=
      hgathers.current.trans String.empty_append
    rw [hstrings, hpush, hgathers.strings, Array.toList_push, hcurrent, List.map_cons,
      List.append_assoc]
    rfl
  | @bare opened tag es items hsi _ ih =>
    have hnamed : tag.isNamed "si" = true := beq_iff_eq.2 hsi
    have hempty : s.event (.empty tag) = .ok { s with strings := s.strings.push "" } := by
      simp only [State.event, hnamed, if_true]
      rfl
    rw [run_cons, hempty] at hrun
    obtain ⟨hstrings, hdecoded⟩ := ih (s := { s with strings := s.strings.push "" })
      ⟨hs.inItem, hs.inText, hs.silent⟩ hrun
    refine ⟨?_, List.forall_mem_cons.2 ⟨nofun, hdecoded⟩⟩
    rw [hstrings, Array.toList_push, List.map_cons, List.append_assoc]
    rfl
  -- The last item has no end, so nothing of it is added.
  | @unfinished opened tag es hsi hes =>
    have hnamed : tag.isNamed "si" = true := beq_iff_eq.2 hsi
    rw [run_opened] at hrun
    refine ⟨?_, nofun⟩
    rw [strings_run hes hrun, State.opening, if_pos hnamed]
    exact (List.append_nil _).symm
  | opening hsi _ ih =>
    rw [run_opened] at hrun
    rw [← (opening_keeps (s := s) hsi).1]
    exact ih (hs.opening hsi) hrun
  | closing hsi _ ih =>
    rw [run_closed] at hrun
    rw [← (closing_keeps (s := s) hsi).1]
    exact ih (hs.closing hsi) hrun
  | empty hsi _ ih =>
    rw [run_cons, event_empty hsi] at hrun
    exact ih hs hrun
  | text _ ih =>
    rw [run_cons] at hrun
    obtain ⟨u, hu, hrest⟩ := exists_ok_of_bind hrun
    rcases event_text hu with ⟨-, rfl⟩ | ⟨hopen, -⟩
    · exact ih hs hrest
    · exact absurd hopen (Bool.eq_false_iff.1 hs.inText)
  | other _ ih => exact ih hs hrun

/-- At the start the reader is at rest. -/
lemma State.Rests.start : State.start.Rests [] := ⟨rfl, rfl, fun hp => absurd hp Bool.false_ne_true⟩

/-- The strings of a document are those at the end of a run over it. -/
lemma run_of_ofDocument {d : Document} {strings : Array String} (h : ofDocument d = .ok strings) :
    ∃ t, State.start.run d.events = .ok t ∧ t.strings = strings := by
  obtain ⟨t, ht, h⟩ := exists_ok_of_bind h
  obtain ⟨u, hu, ht⟩ := exists_ok_of_bind ht
  cases hd : d.complete with
  | false =>
    rw [hd] at ht
    cases ht
  | true =>
    rw [hd] at ht
    obtain rfl := Except.ok.inj ht
    exact ⟨u, hu, Except.ok.inj h⟩

/-- If a list of shared strings can be read, it has one string for each complete item of the part,
in their order: what stands directly in the text elements of the item outside of phonetic runs, all
of which can be decoded. What stands between the items does not matter. -/
theorem strings_aligned {d : Document} {strings : Array String} (h : Lists [] d.events items)
    (hread : ofDocument d = .ok strings) :
    strings.toList = items.map plainText ∧
      ∀ item ∈ items, ∀ x ∈ plain (texts [] item), x.isSome := by
  obtain ⟨t, hrun, rfl⟩ := run_of_ofDocument hread
  exact run_lists h .start hrun

/-- The inside of an item with a run, a phonetic run and an element of its own kind. -/
def mixedItem : List Event :=
  [.opening (tagNamed "r"), .empty (tagNamed "rPr"), .opening (tagNamed "t"), .text (some "A"),
    .closing (ascii "t"), .closing (ascii "r"), .opening (tagNamed "rPh"), .opening (tagNamed "t"),
    .text (some "B"), .closing (ascii "t"), .closing (ascii "rPh"), .opening (tagNamed "x"),
    .text (some "?"), .closing (ascii "x"), .opening (tagNamed "t"), .text (some "C"),
    .closing (ascii "t")]

/-- The inside of an item with one text. -/
def shortItem : List Event :=
  [.opening (tagNamed "t"), .text (some "D"), .closing (ascii "t")]

/-- A part with these items and one without an inside, and a text between them. -/
def mixedPart : List Event :=
  element (tagNamed "sst") (List.flatten [element (tagNamed "si") mixedItem,
    [.text (some "t"), .empty (tagNamed "si"), .other], element (tagNamed "si") shortItem])

/-- A phonetic run and an unknown element add nothing to the text of their item, and an item without
an inside has its place in the list. -/
theorem strings_aligned_mixed :
    ∃ strings,
      Lists [] mixedPart [mixedItem, [], shortItem] ∧ ofDocument ⟨mixedPart, true⟩ = .ok strings ∧
      strings.toList = [mixedItem, [], shortItem].map plainText ∧
      strings.toList = ["AC", "", "D"] := by
  have hmixed : Content [] mixedItem := by
    refine .opening (by decide) (.empty (by decide) (.opening (by decide) (.text ?_)))
    refine .closing (.closing (.opening (by decide) (.opening (by decide) (.text ?_))))
    refine .closing (.closing (.opening (by decide) (.text (.closing ?_))))
    exact .opening (by decide) (.text (.closing .nil))
  have hshort : Content [] shortItem := .opening (by decide) (.text (.closing .nil))
  have hlists : Lists [] mixedPart [mixedItem, [], shortItem] := by
    refine .opening (by decide) (.item (by decide) (by decide) hmixed (by decide) ?_)
    refine .text (.bare (by decide) (.other ?_))
    exact .item (by decide) (by decide) hshort (by decide) (.closing (by decide) .nil)
  have hread : ofDocument ⟨mixedPart, true⟩ = .ok #["AC", "", "D"] := by decide +kernel
  exact ⟨_, hlists, hread, (strings_aligned hlists hread).1, rfl⟩

end Precedents.SharedStrings
