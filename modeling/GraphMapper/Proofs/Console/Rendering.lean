import GraphMapper.Console.Page
import Mathlib.Data.List.Basic

/-!
# Messages that can be printed

A message is printed with markup, and what comes from outside and looks like a closing tag is a
fault of the message.  Then nothing of it is printed.

A tag needs an opening bracket, so a text without one is printed as it is, whatever else is in it
(`Markup.piecesWithin_of_notMem`).  `Page.exists_line_eq_ok` says this of the messages that commands
report faults in: a heading in red and the message of the fault.  `Page.notRaised_line` is about all
messages: one that cannot be printed is a fault of printing, and no failure from outside.

The names of the colours are one long text, in which every colour of a tag is looked up.  The proofs
never look one up: whether red is a colour or a word without meaning, a heading in red is printed.
-/

namespace GraphMapper

namespace Markup

/-! ## 1.  The pieces of a message -/

/-- Without an opening bracket there is no tag. -/
theorem readEscapedTag_of_notMem {s : List Char} (h : '[' ∉ s) : readEscapedTag s = none := by
  unfold readEscapedTag
  dsimp only
  split
  · rename_i inner hinner
    have hmem : '[' ∈ s.drop (s.takeWhile (· == '\\')).length := by
      rw [hinner]
      exact List.mem_cons_self
    exact absurd (List.mem_of_mem_drop hmem) h
  · rfl

/-- **A text without an opening bracket is one piece.** -/
theorem piecesWithin_of_notMem {s : List Char} (h : '[' ∉ s) {fuel : ℕ} (hfuel : s.length ≤ fuel)
    (position : ℕ) (before : List Char) :
    piecesWithin fuel position before s = plainPiece (s.reverse ++ before) := by
  induction s generalizing fuel position before with
  | nil => cases fuel <;> rfl
  | cons c rest ih =>
    cases fuel with
    | zero => exact absurd hfuel (Nat.not_succ_le_zero _)
    | succ fuel =>
      have hrest : '[' ∉ rest := fun hmem => h (List.mem_cons_of_mem c hmem)
      have hnone : (if c = '[' ∨ c = '\\' then readEscapedTag (c :: rest) else none) = none := by
        rw [readEscapedTag_of_notMem h, ite_self]
      rw [piecesWithin, hnone]
      dsimp only
      rw [ih hrest (Nat.le_of_succ_le_succ hfuel), List.reverse_cons, List.append_assoc]
      rfl

/-- Characters that begin no tag are read one after the other. -/
theorem piecesWithin_append {s : List Char} (h : ∀ c ∈ s, c ≠ '[' ∧ c ≠ '\\') {fuel : ℕ}
    (position : ℕ) (before rest : List Char) :
    piecesWithin (s.length + fuel) position before (s ++ rest) =
      piecesWithin fuel (position + s.length) (s.reverse ++ before) rest := by
  induction s generalizing position before with
  | nil =>
    rw [List.length_nil, Nat.zero_add]
    rfl
  | cons c more ih =>
    obtain ⟨hc, hmore⟩ := List.forall_mem_cons.mp h
    have hplain : ¬ (c = '[' ∨ c = '\\') := not_or.mpr hc
    have hfuel : (c :: more).length + fuel = (more.length + fuel) + 1 := by
      rw [List.length_cons]
      omega
    have hposition : position + 1 + more.length = position + (c :: more).length := by
      rw [List.length_cons]
      omega
    rw [hfuel, List.cons_append, piecesWithin, if_neg hplain]
    dsimp only
    rw [ih hmore, hposition, List.reverse_cons, List.append_assoc]
    rfl

/-- A text between brackets that is a tag. -/
def IsTag (text : List Char) : Prop :=
  (∃ c rest, text = c :: rest ∧ isTagStart c = true) ∧
    (text.all fun c => c != '[' && c != ']') = true

theorem readTag_of_isTag {text : List Char} (h : IsTag text) (rest : List Char) :
    readTag (text ++ ']' :: rest) = some (text, rest) := by
  obtain ⟨⟨c, more, rfl, hc⟩, hinside⟩ := h
  have hall : ∀ d ∈ c :: more, (d != '[' && d != ']') = true := List.all_eq_true.mp hinside
  have htake : (c :: more ++ ']' :: rest).takeWhile (fun d => d != '[' && d != ']') = c :: more := by
    rw [List.takeWhile_append_of_pos hall, List.takeWhile_cons_of_neg (by decide), List.append_nil]
  have hdrop : (c :: more ++ ']' :: rest).drop (c :: more).length = ']' :: rest := List.drop_left
  unfold readTag
  rw [htake]
  dsimp only
  rw [hdrop]
  exact if_pos hc

/-- A tag ends the text before it. -/
theorem piecesWithin_tag {text : List Char} (h : IsTag text) (fuel position : ℕ)
    (before rest : List Char) :
    piecesWithin (fuel + 1) position before ('[' :: (text ++ ']' :: rest)) =
      plainPiece before ++ .tag text position ::
        piecesWithin fuel (position + text.length + 2) [] rest := by
  have hread : readEscapedTag ('[' :: (text ++ ']' :: rest)) = some (0, text, rest) := by
    have htag := readTag_of_isTag h rest
    unfold readEscapedTag
    change (readTag (text ++ ']' :: rest)).map _ = _
    rw [htag]
    rfl
  rw [piecesWithin, if_pos (Or.inl rfl), hread]
  dsimp only
  rw [List.append_assoc]
  rfl

/-! ## 2.  A heading and a message -/

/-- The tag that a heading is opened with, and the one that it is closed with. -/
def redTag : List Char := ['r', 'e', 'd']

@[inherit_doc redTag] def redEnd : List Char := '/' :: redTag

/-- A heading in red and a message. -/
def headed (heading message : List Char) : List Char :=
  '[' :: (redTag ++ ']' :: (heading ++ '[' :: (redEnd ++ ']' :: message)))

theorem pieces_headed {heading message : List Char} (hheading : ∀ c ∈ heading, c ≠ '[' ∧ c ≠ '\\')
    (hmessage : '[' ∉ message) :
    pieces (headed heading message) =
      .tag redTag 0 :: (plainPiece heading.reverse ++ .tag redEnd (5 + heading.length) ::
        plainPiece message.reverse) := by
  have hred : IsTag redTag := ⟨⟨'r', ['e', 'd'], rfl, by decide⟩, by decide⟩
  have hend : IsTag redEnd := ⟨⟨'/', redTag, rfl, by decide⟩, by decide⟩
  have hlength : (headed heading message).length =
      heading.length + (message.length + 9 + 1) + 1 := by
    have hopened : redTag.length = 3 := rfl
    have hclosed : redEnd.length = 4 := rfl
    simp only [headed, List.length_cons, List.length_append, hopened, hclosed]
    omega
  have hposition : 0 + redTag.length + 2 + heading.length = 5 + heading.length := rfl
  rw [pieces, hlength, headed, piecesWithin_tag hred, piecesWithin_append hheading,
    piecesWithin_tag hend, piecesWithin_of_notMem hmessage (Nat.le_add_right _ _), hposition,
    List.append_nil, List.append_nil]
  rfl

end Markup

/-! ## 3.  The style of a heading -/

namespace Style

open Markup

/-- The heading is red, or there is no such colour; either way, its style is read without a fault. -/
theorem readColour_red : readColour redTag = .colour redTag ∨ readColour redTag = .none := by
  have hcolor : argument? "color" redTag = none := by decide +kernel
  have hrgb : argument? "rgb" redTag = none := by decide +kernel
  unfold readColour
  by_cases h : (Text.words colourNames.toList).contains redTag = true
  · rw [if_pos h]
    exact Or.inl rfl
  · rw [if_neg h]
    right
    split
    · rename_i digits hdigits
      exact absurd (List.cons.inj hdigits).1 (by decide)
    · rw [hcolor, hrgb]

/-- What becomes of a colour word. -/
theorem withColour_cases (word : List Char) (set : List Char → Style) :
    (∃ name, readColour (Text.lower word) = .colour name ∧
        withColour word set = .ok (some (set name))) ∨
      withColour word set = .ok none ∨
      ∃ fault, readColour (Text.lower word) = .faulty fault ∧ withColour word set = .error fault := by
  -- Unfolded as a function, so that no colour is looked up.
  have hread : ∀ read, withColour = read →
      (∃ name, readColour (Text.lower word) = .colour name ∧ read word set = .ok (some (set name))) ∨
        read word set = .ok none ∨
        ∃ fault, readColour (Text.lower word) = .faulty fault ∧ read word set = .error fault := by
    delta withColour
    rintro _ rfl
    dsimp only
    cases readColour (Text.lower word) with
    | colour name => exact Or.inl ⟨name, rfl, rfl⟩
    | none => exact Or.inr (Or.inl rfl)
    | faulty fault => exact Or.inr (Or.inr ⟨fault, rfl, rfl⟩)
  exact hread withColour rfl

theorem withColour_red (set : List Char → Style) :
    withColour redTag set = .ok (some (set redTag)) ∨ withColour redTag set = .ok none := by
  have hlower : Text.lower redTag = redTag := by decide +kernel
  have hread := readColour_red
  rw [← hlower] at hread
  rcases withColour_cases redTag set with ⟨name, hname, hset⟩ | hnone | ⟨fault, hfault, -⟩
  · rw [hname] at hread
    rcases hread with h | h
    · cases h
      rw [hset, hlower]
      exact Or.inl rfl
    · exact nomatch h
  · exact Or.inr hnone
  · rw [hfault] at hread
    rcases hread with h | h <;> exact nomatch h

theorem readWords_red : readWords {} [redTag] = .ok (some { colour := some redTag }) ∨
    readWords {} [redTag] = .ok none := by
  have hword : Attribute.ofWord? (Text.lower redTag) = none := by decide +kernel
  have hread : readWords {} [redTag] =
      withColour redTag fun name => { colour := some name } := by
    rw [readWords, hword]
  rw [hread]
  exact withColour_red _

theorem normal_red : normal redTag = .ok "red" := by
  have hwords : Text.words redTag = [redTag] := by decide +kernel
  rw [normal, hwords]
  rcases readWords_red with h | h
  · have htext : Style.text { colour := some redTag } = "red" := by decide +kernel
    rw [h]
    exact congrArg Except.ok htext
  · have htext : String.ofList (Text.lower (Text.trim redTag)) = "red" := by decide +kernel
    rw [h]
    exact congrArg Except.ok htext

theorem check_red : check ("red".toList ++ [' ']) = .ok () := by
  have hwords : Text.words ("red".toList ++ [' ']) = [redTag] := by decide +kernel
  rw [check, hwords]
  rcases readWords_red with h | h
  · rw [h]
    rfl
  · rw [h]
    rfl

end Style

/-! ## 4.  Rendering -/

namespace Markup

/-- Pieces that are rendered without a fault, wherever they stand, and whose styles can be read. -/
def Renders (opened : List OpenTag) (pieces : List Piece) : Prop :=
  ∀ place, ∃ styled, textOf opened place pieces = .ok styled ∧
    ∀ span ∈ styled.spans, Style.check span.style = .ok ()

theorem renders_nil : Renders [] [] :=
  fun _ => ⟨⟨[], []⟩, rfl, fun _ hspan => absurd hspan List.not_mem_nil⟩

theorem Renders.plainPiece {opened : List OpenTag} {rest : List Piece} (h : Renders opened rest)
    (backwards : List Char) : Renders opened (plainPiece backwards ++ rest) := by
  intro place
  unfold Markup.plainPiece
  by_cases hempty : backwards.isEmpty = true
  · rw [if_pos hempty]
    exact h place
  · rw [if_neg hempty, List.singleton_append, textOf]
    obtain ⟨styled, hstyled, hspans⟩ :=
      h (place + ((plainText backwards.reverse).filter (!isDropped ·)).length)
    rw [hstyled]
    exact ⟨_, rfl, hspans⟩

/-- The heading when it was opened at a place. -/
def openedRed (start : ℕ) : OpenTag := ⟨"red", [], start⟩

theorem Renders.redEnd {rest : List Piece} (h : Renders [] rest) (start position : ℕ) :
    Renders [openedRed start] (.tag redEnd position :: rest) := by
  intro place
  have hname : Text.trim ((splitTag Markup.redEnd).1.drop 1) = Markup.redTag := by decide
  have hplain : (openedRed start).isAction = false := by
    have hmark : ("red" : String).startsWith "@" = false := by decide +kernel
    exact hmark
  have hclosed : closeTag [openedRed start] Markup.redEnd position = .ok (openedRed start, []) := by
    have htake : takeTag "red" [openedRed start] = some (openedRed start, []) := if_pos rfl
    unfold closeTag
    rw [hname]
    have hne : ¬ Markup.redTag.isEmpty = true := by decide
    rw [if_neg hne, Style.normal_red]
    dsimp only [Bind.bind, Except.bind]
    rw [htake]
    dsimp only [Pure.pure, Except.pure]
    rw [hplain]
    rfl
  obtain ⟨styled, hstyled, hspans⟩ := h place
  refine ⟨{ styled with spans := (openedRed start).span place :: styled.spans }, ?_, ?_⟩
  · have hslash : Markup.redEnd.head? = some '/' := rfl
    rw [textOf, if_pos hslash, hclosed]
    change (do
      let after ← textOf [] place rest
      return if (openedRed start).isAction then after
        else { after with spans := (openedRed start).span place :: after.spans }) = _
    rw [hstyled, hplain]
    rfl
  · refine List.forall_mem_cons.mpr ⟨?_, hspans⟩
    exact Style.check_red

theorem Renders.redTag {rest : List Piece} (h : ∀ start, Renders [openedRed start] rest)
    (position : ℕ) : Renders [] (.tag redTag position :: rest) := by
  intro place
  obtain ⟨styled, hstyled, hspans⟩ := h place place
  refine ⟨styled, ?_, hspans⟩
  have hslash : ¬ Markup.redTag.head? = some '/' := by decide
  have hsplit : splitTag Markup.redTag = (Markup.redTag, []) := by decide
  rw [textOf, if_neg hslash, hsplit]
  dsimp only
  rw [Style.normal_red]
  exact hstyled

/-- A heading in red and a message are rendered, if no tag begins in them. -/
theorem exists_render_headed {heading message : String}
    (hheading : ∀ c ∈ heading.toList, c ≠ '[' ∧ c ≠ '\\') (hmessage : '[' ∉ message.toList) :
    ∃ styled, render ("[red]" ++ heading ++ "[/red]" ++ message) = .ok styled ∧
      ∀ span ∈ styled.spans, Style.check span.style = .ok () := by
  have hlist : ("[red]" ++ heading ++ "[/red]" ++ message).toList =
      headed heading.toList message.toList := by
    have hopened : ("[red]" : String).toList = '[' :: (Markup.redTag ++ [']']) := by decide
    have hclosed : ("[/red]" : String).toList = '[' :: (Markup.redEnd ++ [']']) := by decide
    simp only [String.toList_append, hopened, hclosed, headed, List.append_assoc, List.cons_append,
      List.nil_append]
  have hpieces := pieces_headed hheading hmessage
  have hlast : Renders [] (Markup.plainPiece message.toList.reverse) := by
    have hplain := renders_nil.plainPiece message.toList.reverse
    rwa [List.append_nil] at hplain
  have hrenders : Renders [] (pieces (headed heading.toList message.toList)) := by
    rw [hpieces]
    exact Renders.redTag (fun start => (hlast.redEnd start _).plainPiece _) 0
  obtain ⟨styled, hstyled, hspans⟩ := hrenders 0
  refine ⟨{ styled with spans := sortSpans styled.spans }, ?_, fun span hspan => ?_⟩
  · rw [render, hlist, hstyled]
    rfl
  · have hmem : span ∈ styled.spans := by
      rw [sortSpans, List.mem_mergeSort, List.mem_reverse] at hspan
      exact hspan
    exact hspans span hmem

theorem forM_eq_ok {α : Type} {check : α → Except Fault Unit} {items : List α}
    (h : ∀ item ∈ items, check item = .ok ()) : items.forM check = .ok () := by
  induction items with
  | nil => rfl
  | cons item rest ih =>
    obtain ⟨hitem, hrest⟩ := List.forall_mem_cons.mp h
    change (do
      check item
      rest.forM check) = _
    rw [hitem]
    exact ih hrest

/-- Styles that can be read are read without a fault, on whatever lines they show. -/
theorem check_eq_ok {styled : Styled} (h : ∀ span ∈ styled.spans, Style.check span.style = .ok ())
    (layout : Lines.Layout) : styled.check layout = .ok () := by
  refine forM_eq_ok fun line _ => forM_eq_ok fun span hspan => ?_
  split
  · exact h span hspan
  · rfl

end Markup

/-- **What is reported can be printed**, unless the message has an opening bracket in it. -/
theorem Page.exists_line_eq_ok {what message : String}
    (hwhat : ∀ c ∈ what.toList, c ≠ '[' ∧ c ≠ '\\') (hmessage : '[' ∉ message.toList) :
    ∃ text, line ("[red]" ++ what ++ ":[/red] " ++ message) = .ok text := by
  have hparts : "[red]" ++ what ++ ":[/red] " ++ message =
      "[red]" ++ (what ++ ":") ++ "[/red]" ++ (" " ++ message) := by
    have hmiddle : (":[/red] " : String) = ":" ++ "[/red]" ++ " " := by decide +kernel
    rw [hmiddle]
    simp only [String.append_assoc]
  have hheading : ∀ c ∈ (what ++ ":").toList, c ≠ '[' ∧ c ≠ '\\' := by
    intro c hc
    rw [String.toList_append, List.mem_append] at hc
    rcases hc with hc | hc
    · exact hwhat c hc
    · obtain rfl := List.mem_singleton.mp hc
      decide
  have hrest : '[' ∉ (" " ++ message).toList := by
    rw [String.toList_append, List.mem_append]
    rintro (hblank | hmem)
    · exact absurd hblank (by decide)
    · exact hmessage hmem
  obtain ⟨styled, hrender, hspans⟩ := Markup.exists_render_headed hheading hrest
  rw [hparts, line, folded, hrender]
  refine ⟨linesText (Lines.folded width styled.text).texts, ?_⟩
  change (do
    styled.check (Lines.folded width styled.text)
    return linesText (Lines.folded width styled.text).texts) = _
  rw [Markup.check_eq_ok hspans]
  rfl

/-! ## 5.  What cannot be printed -/

variable {α β : Type}

/-- A result that is not a failure from outside. -/
def NotRaised (result : Except Fault α) : Prop := ∀ failure, result ≠ .error (.raised failure)

theorem notRaised_ok (a : α) : NotRaised (.ok a : Except Fault α) :=
  fun _ h => nomatch h

theorem notRaised_error {fault : Fault} (h : ∀ failure, fault ≠ .raised failure) :
    NotRaised (.error fault : Except Fault α) :=
  fun failure hfault => h failure (Except.error.inj hfault)

theorem NotRaised.bind {result : Except Fault α} {next : α → Except Fault β}
    (h : NotRaised result) (hnext : ∀ a, NotRaised (next a)) : NotRaised (result >>= next) := by
  cases result with
  | ok a => exact hnext a
  | error fault =>
    exact notRaised_error fun failure hfault => h failure (congrArg Except.error hfault)

theorem NotRaised.map {result : Except Fault α} (h : NotRaised result) (f : α → β) :
    NotRaised (result.map f) := by
  cases result with
  | ok a => exact notRaised_ok (f a)
  | error fault =>
    exact notRaised_error fun failure hfault => h failure (congrArg Except.error hfault)

theorem notRaised_mapM {read : α → Except Fault β} (h : ∀ a, NotRaised (read a)) (items : List α) :
    NotRaised (items.mapM read) := by
  induction items with
  | nil => exact notRaised_ok []
  | cons item rest ih =>
    rw [List.mapM_cons]
    exact (h item).bind fun _ => ih.bind fun _ => notRaised_ok _

theorem notRaised_forM {check : α → Except Fault Unit} (h : ∀ a, NotRaised (check a))
    (items : List α) : NotRaised (items.forM check) := by
  induction items with
  | nil => exact notRaised_ok ()
  | cons item rest ih => exact (h item).bind fun _ => ih

theorem notRaised_readCountText (given : Value) (s : List Char) :
    NotRaised (readCountText given s) := by
  unfold readCountText
  rcases readWhole s with fault | n
  · cases fault <;> exact notRaised_error fun _ h => nomatch h
  · exact notRaised_ok n

namespace Style

theorem readColour_ne_faulty_raised (word : List Char) (failure : Failure) :
    readColour word ≠ .faulty (.raised failure) := by
  have hparts (name : List Char) (parts : List (List Char)) :
      readParts name parts ≠ .faulty (.raised failure) := by
    unfold readParts
    split
    · exact fun h => nomatch h
    · have hvalues : NotRaised (parts.mapM fun part => readCount (.text (String.ofList part))) :=
        notRaised_mapM (fun part => notRaised_readCountText _ _) parts
      split
      · rename_i fault hfault
        rintro ⟨⟩
        exact hvalues failure hfault
      · split <;> exact fun h => nomatch h
  unfold readColour
  by_cases h : (Text.words colourNames.toList).contains word = true
  · rw [if_pos h]
    exact fun h => nomatch h
  · rw [if_neg h]
    split
    · split <;> exact fun h => nomatch h
    · split
      · split <;> exact fun h => nomatch h
      · split
        · exact hparts _ _
        · exact fun h => nomatch h
      · exact fun h => nomatch h

theorem notRaised_withColour (word : List Char) (set : List Char → Style) :
    NotRaised (withColour word set) := by
  rcases withColour_cases word set with ⟨name, -, hset⟩ | hnone | ⟨fault, hread, hfault⟩
  · rw [hset]
    exact notRaised_ok _
  · rw [hnone]
    exact notRaised_ok _
  · rw [hfault]
    exact notRaised_error fun failure h => readColour_ne_faulty_raised _ failure (h ▸ hread)

theorem notRaised_readWords : ∀ (words : List (List Char)) (style : Style),
    NotRaised (readWords style words)
  | [], style => notRaised_ok (some style)
  | [word], style => by
    rw [readWords]
    cases Attribute.ofWord? (Text.lower word) with
    | some trait => exact notRaised_ok _
    | none => exact notRaised_withColour _ _
  | word :: next :: rest, style => by
    rw [readWords]
    split
    · refine (notRaised_withColour _ _).bind fun changed => ?_
      cases changed with
      | some changed => exact notRaised_readWords rest changed
      | none => exact notRaised_ok none
    · split
      · split
        · exact notRaised_readWords rest _
        · exact notRaised_ok none
      · split
        · exact notRaised_readWords rest _
        · split
          · exact notRaised_readWords (next :: rest) _
          · refine (notRaised_withColour _ _).bind fun changed => ?_
            cases changed with
            | some changed => exact notRaised_readWords (next :: rest) changed
            | none => exact notRaised_ok none

theorem notRaised_normal (description : List Char) : NotRaised (normal description) := by
  refine (notRaised_readWords _ _).bind fun style => ?_
  cases style <;> exact notRaised_ok _

theorem notRaised_check (description : List Char) : NotRaised (check description) :=
  (notRaised_readWords _ _).map _

end Style

theorem Action.notRaised_check (written : List Char) : NotRaised (check written) := by
  unfold check
  dsimp only
  split
  · exact notRaised_ok ()
  · split
    · exact notRaised_ok ()
    · exact notRaised_error fun _ h => nomatch h
    · exact notRaised_error fun _ h => nomatch h

namespace Markup

theorem notRaised_closeTag (opened : List OpenTag) (text : List Char) (position : ℕ) :
    NotRaised (closeTag opened text position) := by
  have hfound (found : OpenTag × List OpenTag) : NotRaised (do
      if found.1.isAction then Action.check found.1.action
      return found) := by
    split
    · exact (Action.notRaised_check _).bind fun _ => notRaised_ok found
    · exact notRaised_ok found
  unfold closeTag
  dsimp only
  split
  · cases opened with
    | nil => exact notRaised_error fun _ h => nomatch h
    | cons tag rest => exact hfound (tag, rest)
  · refine (Style.notRaised_normal _).bind fun name => ?_
    cases takeTag name opened with
    | some found => exact hfound found
    | none => exact notRaised_error fun _ h => nomatch h

theorem notRaised_textOf (pieces : List Piece) (opened : List OpenTag) (place : ℕ) :
    NotRaised (textOf opened place pieces) := by
  induction pieces generalizing opened place with
  | nil => exact notRaised_ok _
  | cons piece rest ih =>
    cases piece with
    | plain text =>
      rw [textOf]
      exact (ih _ _).bind fun _ => notRaised_ok _
    | tag text position =>
      rw [textOf]
      split
      · exact (notRaised_closeTag _ _ _).bind fun found => (ih _ _).bind fun _ => notRaised_ok _
      · exact (Style.notRaised_normal _).bind fun name => ih _ _

end Markup

/-- **What cannot be printed is a fault of its own**, and not a failure from outside. -/
theorem Page.notRaised_line (message : String) : NotRaised (line message) := by
  refine NotRaised.bind ((Markup.notRaised_textOf _ _ _).map _) fun styled => ?_
  refine NotRaised.bind ?_ fun _ => notRaised_ok _
  refine notRaised_forM (fun line => notRaised_forM (fun span => ?_) _) _
  split
  · exact Style.notRaised_check _
  · exact notRaised_ok ()

end GraphMapper
