import GraphMapper.Maintenance
import GraphMapper.Proofs.Builder.PathWording
import GraphMapper.Proofs.Placeholder.Properties
import Mathlib.Computability.Language

/-!
# The allow-list of names

Which texts are accepted as names is said here once more, as a language over characters and
without the test that decides it: a letter or an underscore of the basic Latin alphabet, then
letters, digits and underscores, then perhaps one line feed (`acceptedNames`).  Without that line
feed it is the language of the intended rule (`plainNames`), and the two differ in nothing else.

What the line feed costs is seen where names are written.  Each place at which a name stands in a
statement is framed: in front of it stands a mark or a blank, and what follows goes on with no name
(`NamePlace.exists_frame`).  So an accepted name is read as one word there, whatever it is, and two
of them are told apart by that word.  For plain names that is the name itself.  A name and the same
name with a line feed are one word.

* `mem_plainNames`, `isIdentifier_iff`: the two tests decide the two languages.
* `NamePlace.exists_tokens_text`: how a name is read at its place.
* `names_exact`: which values are accepted, how they are read, and which are told apart.
* `line_feed_accepted`: a name that is accepted and not intended.
-/

namespace GraphMapper

open scoped Computability

/-! ## 1.  Two languages -/

/-- The letters of the basic Latin alphabet, and the underscore. -/
def latinStarts : Set Char := {c | ('A' ≤ c ∧ c ≤ 'Z') ∨ ('a' ≤ c ∧ c ≤ 'z') ∨ c = '_'}

/-- The letters of the basic Latin alphabet, the underscore, and the ten digits. -/
def latinNameChars : Set Char := latinStarts ∪ {c | '0' ≤ c ∧ c ≤ '9'}

/-- The words of one character from a set. -/
def oneOf (characters : Set Char) : Language Char := {word | ∃ c ∈ characters, word = [c]}

/-- The intended names: a letter or an underscore, then letters, digits and underscores. -/
def plainNames : Language Char := oneOf latinStarts * (oneOf latinNameChars)∗

/-- The accepted names: an intended one, and then perhaps one line feed. -/
def acceptedNames : Language Char := plainNames * (1 + oneOf {'\n'})

theorem mem_latinStarts {c : Char} : c ∈ latinStarts ↔ isNameStart c = true := by
  have hupper : c.isUpper = true ↔ 'A' ≤ c ∧ c ≤ 'Z' := decide_eq_true_iff
  have hlower : c.isLower = true ↔ 'a' ≤ c ∧ c ≤ 'z' := by
    have htest : c.isLower = (decide ('a' ≤ c) && decide (c ≤ 'z')) := rfl
    rw [htest, Bool.and_eq_true, decide_eq_true_iff, decide_eq_true_iff]
  have halpha : c.isAlpha = (c.isUpper || c.isLower) := rfl
  rw [isNameStart, halpha, Bool.or_eq_true, Bool.or_eq_true, hupper, hlower, beq_iff_eq, or_assoc]
  rfl

theorem mem_latinNameChars {c : Char} : c ∈ latinNameChars ↔ isNameChar c = true := by
  have hdigit : c.isDigit = true ↔ '0' ≤ c ∧ c ≤ '9' := by
    rw [Char.isDigit, Bool.and_eq_true, decide_eq_true_iff, decide_eq_true_iff]
    rfl
  have hstart : isNameStart c = true ↔ c.isAlpha = true ∨ c = '_' := by
    rw [isNameStart, Bool.or_eq_true, beq_iff_eq]
  rw [latinNameChars, Set.mem_union, mem_latinStarts, hstart, isNameChar, Char.isAlphanum,
    Bool.or_eq_true, Bool.or_eq_true, beq_iff_eq, or_right_comm]
  exact or_congr_left (or_congr_right hdigit.symm)

/-- What is repeated character by character is made of those characters. -/
theorem mem_kstar_oneOf {characters : Set Char} {word : List Char} :
    word ∈ (oneOf characters)∗ ↔ ∀ c ∈ word, c ∈ characters := by
  rw [Language.mem_kstar]
  constructor
  · rintro ⟨parts, rfl, hparts⟩ c hc
    obtain ⟨part, hpart, hc⟩ := List.mem_flatten.mp hc
    obtain ⟨d, hd, rfl⟩ := hparts part hpart
    rw [List.mem_singleton.mp hc]
    exact hd
  · intro h
    refine ⟨word.map fun c => [c], (List.flatMap_singleton' word).symm, ?_⟩
    intro part hpart
    obtain ⟨c, hc, rfl⟩ := List.mem_map.mp hpart
    exact ⟨c, h c hc, rfl⟩

/-- **The test for plain names decides the intended language.** -/
theorem mem_plainNames {word : List Char} : word ∈ plainNames ↔ isName word = true := by
  rw [plainNames, Language.mem_mul]
  constructor
  · rintro ⟨first, ⟨c, hc, rfl⟩, rest, hrest, rfl⟩
    rw [List.singleton_append, isName, Bool.and_eq_true, List.all_eq_true]
    exact ⟨mem_latinStarts.mp hc, fun d hd => mem_latinNameChars.mp (mem_kstar_oneOf.mp hrest d hd)⟩
  · intro h
    cases word with
    | nil => exact absurd h Bool.false_ne_true
    | cons c rest =>
      rw [isName, Bool.and_eq_true, List.all_eq_true] at h
      exact ⟨[c], ⟨c, mem_latinStarts.mpr h.1, rfl⟩, rest,
        mem_kstar_oneOf.mpr fun d hd => mem_latinNameChars.mpr (h.2 d hd), rfl⟩

/-- An accepted name is a plain one, or a plain one with a line feed after it. -/
theorem mem_acceptedNames {name : String} :
    name.toList ∈ acceptedNames ↔
      ∃ plain : String, plain.toList ∈ plainNames ∧ (name = plain ∨ name = plain ++ "\n") := by
  have hfeed : ("\n" : String).toList = ['\n'] := rfl
  rw [acceptedNames, Language.mem_mul]
  constructor
  · rintro ⟨word, hword, final, hfinal, hname⟩
    refine ⟨String.ofList word, by rwa [String.toList_ofList], ?_⟩
    rw [Language.mem_add, Language.mem_one] at hfinal
    rw [← String.toList_inj, ← String.toList_inj, String.toList_append, String.toList_ofList,
      ← hname, hfeed]
    rcases hfinal with rfl | ⟨c, hc, rfl⟩
    · exact Or.inl (List.append_nil word)
    · rw [Set.mem_singleton_iff.mp hc]
      exact Or.inr rfl
  · rintro ⟨plain, hplain, rfl | rfl⟩
    · exact ⟨_, hplain, [], (Language.mem_add ..).mpr (Or.inl rfl), List.append_nil _⟩
    · refine ⟨_, hplain, ['\n'], (Language.mem_add ..).mpr (Or.inr ⟨'\n', rfl, rfl⟩), ?_⟩
      rw [String.toList_append, hfeed]

/-- A name is accepted if the name without a final line feed is plain. -/
theorem isIdentifier_iff_readName {name : String} :
    isIdentifier name = true ↔ (readName name).toList ∈ plainNames := by
  rw [mem_plainNames, readName, String.toList_ofList]
  rfl

/-- **The test decides the language of the accepted names.** -/
theorem isIdentifier_iff {name : String} :
    isIdentifier name = true ↔ name.toList ∈ acceptedNames := by
  rw [isIdentifier_iff_readName, mem_acceptedNames]
  constructor
  · intro h
    exact ⟨readName name, h, (readName_eq_iff (mem_plainNames.mp h)).mp rfl⟩
  · rintro ⟨plain, hplain, hname⟩
    rwa [(readName_eq_iff (mem_plainNames.mp hplain)).mpr hname]

/-- A line feed at the end is not read. -/
theorem readName_append_lineFeed (name : String) : readName (name ++ "\n") = name := by
  have hfeed : ("\n" : String).toList = ['\n'] := rfl
  rw [readName, dropFinalLineFeed, String.toList_append, hfeed, List.getLast?_concat, if_pos rfl,
    List.dropLast_concat, String.ofList_toList]

/-- Two accepted names are read as one word exactly if they are the same name, but perhaps for one
final line feed. -/
theorem readName_eq_readName_iff {s t : String} (hs : isIdentifier s = true)
    (ht : isIdentifier t = true) :
    readName s = readName t ↔ s = t ∨ s = t ++ "\n" ∨ t = s ++ "\n" := by
  have hplain {name : String} (h : isIdentifier name = true) :
      isName (readName name).toList = true :=
    mem_plainNames.mp (isIdentifier_iff_readName.mp h)
  -- Of two names that differ by a line feed, the shorter one is plain: the longer is accepted.
  have hfeed {name : String} (h : isIdentifier (name ++ "\n") = true) :
      readName (name ++ "\n") = readName name := by
    have hname := hplain h
    rw [readName_append_lineFeed] at hname
    rw [readName_append_lineFeed, readName_of_isName hname]
  constructor
  · intro hread
    have hsplit := (readName_eq_iff (hplain ht)).mp rfl
    rcases (readName_eq_iff (hplain ht)).mp hread with hshort | hlong
    · rcases hsplit with hsame | hlonger
      · exact Or.inl (hshort.trans hsame.symm)
      · rw [← hshort] at hlonger
        exact Or.inr (Or.inr hlonger)
    · rcases hsplit with hsame | hlonger
      · rw [← hsame] at hlong
        exact Or.inr (Or.inl hlong)
      · exact Or.inl (hlong.trans hlonger.symm)
  · rintro (rfl | rfl | rfl)
    · rfl
    · exact hfeed hs
    · exact (hfeed ht).symm

/-! ## 2.  The places of names -/

/-- The places of a statement at which a name stands, each with the rest of the piece that is
written there. -/
inductive NamePlace where
  /-- Among the labels of a pattern. -/
  | label (earlier later : List String)
  /-- The property that a condition is about. -/
  | condition (compared : Condition) (var : String)
  /-- Among the properties in the pattern of something new. -/
  | inlineProperty (earlier later : List (String × String)) (parameter : String)
  /-- A property that an update assigns. -/
  | assignment (var parameter : String)
  /-- The property that results are ordered by. -/
  | ordering (direction : SortDirection)
  /-- The type of a relationship that is followed. -/
  | followed (direction : PathDirection)
  /-- The type of a relationship that is created with properties. -/
  | created (entries : List (String × String))
  /-- The type of the relationships that are counted. -/
  | counted

namespace NamePlace

/-- The piece of a text in which a name is written. -/
def text : NamePlace → String → String
  | .label earlier later, name => Fault.labelsText (earlier ++ name :: later)
  | .condition compared var, name => Condition.text { compared with field := name } var
  | .inlineProperty earlier later parameter, name =>
    inlineMap (earlier ++ (name, parameter) :: later)
  | .assignment var parameter, name => GraphMapper.assignment var (name, parameter)
  | .ordering direction, name => Query.sortingClause (some ⟨name, direction⟩)
  | .followed direction, name => direction.patternText name
  | .created entries, name => relationshipText name entries
  | .counted, name => (Maintenance.typeTotal name).text

end NamePlace

/-- What ends with a mark or a blank does so whatever stands in front. -/
theorem shut_append (s : String) {t : String} (h : Shut t.toList) (hne : t.toList ≠ []) :
    Shut (s ++ t).toList := by
  rwa [Shut, String.toList_append, List.getLast?_append_of_ne_nil _ hne]

/-- One of several texts that are joined stands behind a comma or first, and in front of a comma or
last. -/
theorem exists_frame_joinTexts (earlier later : List String) :
    ∃ before after : String, (∀ lead : String, Shut lead.toList → Shut (lead ++ before).toList) ∧
      Closed after ∧
      ∀ text, joinTexts ", " (earlier ++ text :: later) = before ++ (text ++ after) := by
  induction earlier with
  | nil =>
    cases later with
    | nil =>
      refine ⟨"", "", fun lead hlead => ?_, closed_empty, fun text => ?_⟩
      · rwa [String.append_empty]
      · rw [List.nil_append, joinTexts, String.intercalate_singleton, String.empty_append,
          String.append_empty]
    | cons next later =>
      refine ⟨"", ", " ++ joinTexts ", " (next :: later), fun lead hlead => ?_, closed_comma _,
        fun text => ?_⟩
      · rwa [String.append_empty]
      · rw [List.nil_append, joinTexts_cons_cons, String.empty_append]
  | cons first earlier ih =>
    obtain ⟨before, after, hbefore, hafter, htexts⟩ := ih
    refine ⟨first ++ (", " ++ before), after, fun lead hlead => ?_, hafter, fun text => ?_⟩
    · have hcomma : Shut (lead ++ first ++ ", ").toList := shut_append _ (by decide) (by decide)
      have hshut := hbefore _ hcomma
      rwa [String.append_assoc, String.append_assoc] at hshut
    · obtain ⟨next, rest, hrest⟩ : ∃ next rest, earlier ++ text :: later = next :: rest :=
        List.exists_cons_of_ne_nil (by simp)
      have htext := htexts text
      rw [hrest] at htext
      rw [List.cons_append, hrest, joinTexts_cons_cons, htext]
      simp only [String.append_assoc]

namespace NamePlace

/-- **A name is framed**: it stands behind a mark or a blank, and is not gone on with. -/
theorem exists_frame (place : NamePlace) :
    ∃ before after : String, (∀ lead : String, Shut (lead ++ before).toList) ∧ Closed after ∧
      ∀ name, place.text name = before ++ (name ++ after) := by
  have hcolon (front lead : String) : Shut (lead ++ (front ++ ":")).toList := by
    rw [← String.append_assoc]
    exact shut_append _ (by decide) (by decide)
  have hdot (front lead : String) : Shut (lead ++ (front ++ ".")).toList := by
    rw [← String.append_assoc]
    exact shut_append _ (by decide) (by decide)
  have hspace (rest : String) : Closed (" " ++ rest) :=
    closed_append_left (closed_of_toList_eq rfl (by decide)) (by decide)
  cases place with
  | label earlier later =>
    refine ⟨Fault.labelsText earlier ++ ":", Fault.labelsText later, hcolon _,
      closed_labelsText later, fun name => ?_⟩
    rw [text, Fault.labelsText, List.map_append, List.map_cons, String.join_append,
      String.join_cons, String.append_assoc, String.append_assoc]
    rfl
  | condition compared var =>
    refine ⟨var ++ ".", " " ++ (compared.operator.text ++ (" $" ++ compared.parameter)), hdot var,
      hspace _, fun name => ?_⟩
    rw [text, Condition.text]
    simp only [String.append_assoc]
  | inlineProperty earlier later parameter =>
    obtain ⟨before, after, hbefore, hafter, htexts⟩ :=
      exists_frame_joinTexts (earlier.map inlineEntry) (later.map inlineEntry)
    have hbrace : Closed "\x7d" := closed_of_toList_eq rfl (by decide)
    have hcolon : Closed (": $" ++ parameter) :=
      closed_append_left (closed_of_toList_eq rfl (by decide)) (by decide)
    refine ⟨" \x7b" ++ before, ": $" ++ parameter ++ (after ++ "\x7d"), fun lead => ?_,
      hcolon.append (hafter.append hbrace), fun name => ?_⟩
    · rw [← String.append_assoc]
      exact hbefore _ (shut_append lead (by decide) (by decide))
    · have hne : (earlier ++ (name, parameter) :: later).isEmpty = false := by simp
      rw [text, inlineMap, hne, if_neg Bool.false_ne_true, List.map_append, List.map_cons, htexts,
        inlineEntry]
      simp only [String.append_assoc]
  | assignment var parameter =>
    refine ⟨var ++ ".", " " ++ ("= $" ++ parameter), hdot var, hspace _, fun name => ?_⟩
    rw [text, GraphMapper.assignment]
    simp only [String.append_assoc]
    rfl
  | ordering direction =>
    refine ⟨" ORDER BY n" ++ ".", " " ++ direction.text, hdot _, hspace _, fun name => ?_⟩
    change " ORDER BY n" ++ "." ++ name ++ " " ++ direction.text = _
    simp only [String.append_assoc]
  | followed direction =>
    refine ⟨direction.opening ++ ":", direction.closing, hcolon _, ?_, fun name => ?_⟩
    · rcases direction.closing_eq with h | h <;> rw [h]
      · exact closed_of_toList_eq rfl (by decide)
      · exact closed_of_toList_eq rfl (by decide)
    · rw [text, PathDirection.patternText]
      simp only [String.append_assoc]
  | created entries =>
    have hlead : Shut
        "MATCH (a), (b) WHERE a.id = $fromId AND b.id = $toId CREATE (a)-[r:".toList := by
      decide +kernel
    have hend : Closed "]->(b) RETURN r" := closed_of_toList_eq rfl (by decide)
    exact ⟨_, _, fun front => shut_append front hlead (by decide),
      (closed_inlineMap entries).append hend, fun name =>
        String.append_assoc.trans String.append_assoc⟩
  | counted =>
    have hlead : Shut "MATCH ()-[r:".toList := by decide +kernel
    have hend : Closed "]->() RETURN count(r) AS total" := closed_of_toList_eq rfl (by decide)
    exact ⟨_, _, fun front => shut_append front hlead (by decide), hend, fun name =>
      String.append_assoc⟩

/-- **An accepted name is read as one word at its place**, wherever the piece stands in a text, and
what is read around it does not depend on the name. -/
theorem exists_tokens_text (place : NamePlace) (lead : String) {rest : String}
    (hrest : Closed rest) :
    ∃ before after : List Token, ∀ name, isIdentifier name = true →
      tokens (lead ++ (place.text name ++ rest)) = before ++ .word (readName name) :: after := by
  obtain ⟨before, after, hbefore, hafter, htext⟩ := place.exists_frame
  refine ⟨tokens (lead ++ before), tokens (after ++ rest), fun name hname => ?_⟩
  have hsplit : lead ++ (place.text name ++ rest) =
      (lead ++ before) ++ (name ++ (after ++ rest)) := by
    rw [htext]
    simp only [String.append_assoc]
  rw [hsplit, tokens_append_of_shut (hbefore lead), tokens_append name (hafter.append hrest),
    tokens_of_isIdentifier hname]
  rfl

/-- **Two accepted names are told apart at their place** unless they differ by one final line feed
only. -/
theorem tokens_text_eq_iff (place : NamePlace) (lead : String) {rest : String}
    (hrest : Closed rest) {s t : String} (hs : isIdentifier s = true) (ht : isIdentifier t = true) :
    tokens (lead ++ (place.text s ++ rest)) = tokens (lead ++ (place.text t ++ rest)) ↔
      s = t ∨ s = t ++ "\n" ∨ t = s ++ "\n" := by
  obtain ⟨before, after, hread⟩ := place.exists_tokens_text lead hrest
  rw [← readName_eq_readName_iff hs ht, hread s hs, hread t ht, List.append_cancel_left_eq,
    List.cons.injEq, Token.word.injEq, and_iff_left rfl]

end NamePlace

/-! ## 3.  The names that are accepted -/

/-- No character of a plain name is white space. -/
theorem isBlank_eq_false_of_mem {c : Char} (h : c ∈ latinNameChars) : Text.isBlank c = false := by
  have hrange {low high : Char} (h : low ≤ c ∧ c ≤ high) :
      low.toNat ≤ c.toNat ∧ c.toNat ≤ high.toNat :=
    ⟨UInt32.le_iff_toNat_le.mp h.1, UInt32.le_iff_toNat_le.mp h.2⟩
  have hbounds : 48 ≤ c.toNat ∧ c.toNat ≤ 122 := by
    rcases h with (hupper | hlower | rfl) | hdigit
    · have hupper : 65 ≤ c.toNat ∧ c.toNat ≤ 90 := hrange hupper
      omega
    · have hlower : 97 ≤ c.toNat ∧ c.toNat ≤ 122 := hrange hlower
      omega
    · decide
    · have hdigit : 48 ≤ c.toNat ∧ c.toNat ≤ 57 := hrange hdigit
      omega
  exact Text.isBlank_of_graphic (by omega)

/-- No plain name ends in a line feed. -/
theorem append_lineFeed_notMem_plainNames (name : String) :
    (name ++ "\n").toList ∉ plainNames := by
  intro h
  have hfeed : '\n' ∈ (name ++ "\n").toList := by
    rw [String.toList_append]
    exact List.mem_append_right _ List.mem_cons_self
  exact absurd (isNameChar_of_mem_of_isName (mem_plainNames.mp h) hfeed) (by decide)

/-- The test is as it is intended to be, except at a plain name with a line feed after it. -/
theorem accepted_iff_plain_iff {name : String} :
    (name.toList ∈ acceptedNames ↔ name.toList ∈ plainNames) ↔
      ∀ plain : String, plain.toList ∈ plainNames → name ≠ plain ++ "\n" := by
  constructor
  · rintro hsame plain hplain rfl
    have haccepted : (plain ++ "\n").toList ∈ acceptedNames :=
      mem_acceptedNames.mpr ⟨plain, hplain, Or.inr rfl⟩
    exact append_lineFeed_notMem_plainNames plain (hsame.mp haccepted)
  · intro hnone
    constructor
    · intro haccepted
      obtain ⟨plain, hplain, rfl | hname⟩ := mem_acceptedNames.mp haccepted
      · exact hplain
      · exact absurd hname (hnone plain hplain)
    · exact fun hname => mem_acceptedNames.mpr ⟨name, hname, Or.inl rfl⟩

/-- **Which values are accepted as names, and which names are told apart.**

* A value is accepted exactly if it is a text of the language of accepted names, and any other value
  is refused, with a fault that tells its role and the value.
* A text is accepted exactly if it is a plain name, unless it is a plain name with a line feed after
  it.
* An accepted name is read as one word, which is the name itself or the name without a final line
  feed, and has no white space.
* Wherever two accepted names stand in a text, in the same place, they are read alike exactly if
  they are equal or one is the other with a line feed after it. -/
theorem names_exact (role : String) (v : Value) (s t : String) :
    (∀ name, identifier role v = .ok name ↔ v = .text name ∧ name.toList ∈ acceptedNames) ∧
    (identifier role v = .error (.invalidIdentifier role v) ↔
      ∀ name, v = .text name → name.toList ∉ acceptedNames) ∧
    ((identifier role (.text s) = .ok s ↔ s.toList ∈ plainNames) ↔
      ∀ plain : String, plain.toList ∈ plainNames → s ≠ plain ++ "\n") ∧
    (s.toList ∈ acceptedNames ↔
      ∃ plain : String, plain.toList ∈ plainNames ∧ (s = plain ∨ s = plain ++ "\n") ∧
        tokens s = [.word plain] ∧ ∀ c ∈ plain.toList, Text.isBlank c = false) ∧
    ∀ (place : NamePlace) (lead rest : String), Closed rest →
      s.toList ∈ acceptedNames → t.toList ∈ acceptedNames →
        (tokens (lead ++ (place.text s ++ rest)) = tokens (lead ++ (place.text t ++ rest)) ↔
          s = t ∨ s = t ++ "\n" ∨ t = s ++ "\n") := by
  have haccepted (v : Value) (name : String) :
      identifier role v = .ok name ↔ v = .text name ∧ name.toList ∈ acceptedNames := by
    rw [identifier_eq_ok_iff, isIdentifier_iff]
  refine ⟨haccepted v, ?_, ?_, ?_, ?_⟩
  · constructor
    · intro hrefused name hv hname
      rw [(haccepted v name).mpr ⟨hv, hname⟩] at hrefused
      exact absurd hrefused (by simp)
    · intro hnone
      cases hresult : identifier role v with
      | error fault => rw [identifier_eq_error hresult]
      | ok name =>
        obtain ⟨hv, hname⟩ := (haccepted v name).mp hresult
        exact absurd hname (hnone name hv)
  · rw [haccepted, and_iff_right rfl]
    exact accepted_iff_plain_iff
  · constructor
    · intro hs
      obtain ⟨plain, hplain, hsplit⟩ := mem_acceptedNames.mp hs
      have hread : readName s = plain := (readName_eq_iff (mem_plainNames.mp hplain)).mpr hsplit
      refine ⟨plain, hplain, hsplit, ?_, fun c hc => isBlank_eq_false_of_mem ?_⟩
      · rw [tokens_of_isIdentifier (isIdentifier_iff.mpr hs), hread]
      · exact mem_latinNameChars.mpr (isNameChar_of_mem_of_isName (mem_plainNames.mp hplain) hc)
    · rintro ⟨plain, hplain, hsplit, -⟩
      exact mem_acceptedNames.mpr ⟨plain, hplain, hsplit⟩
  · intro place lead rest hrest hs ht
    exact place.tokens_text_eq_iff lead hrest (isIdentifier_iff.mpr hs) (isIdentifier_iff.mpr ht)

/-- Two labels, the one with a line feed after it. -/
theorem names_exact_line_feed :
    (Closed ")" ∧ "a\n".toList ∈ acceptedNames ∧ "b".toList ∈ acceptedNames) ∧
    (tokens ("MATCH (n" ++ ((NamePlace.label [] []).text "a\n" ++ ")")) =
        tokens ("MATCH (n" ++ ((NamePlace.label [] []).text "b" ++ ")")) ↔
      "a\n" = "b" ∨ "a\n" = "b" ++ "\n" ∨ "b" = "a\n" ++ "\n") := by
  have hclosed : Closed ")" := closed_of_toList_eq rfl (by decide)
  have ha : "a\n".toList ∈ acceptedNames := isIdentifier_iff.mp (by decide)
  have hb : "b".toList ∈ acceptedNames := isIdentifier_iff.mp (by decide)
  obtain ⟨-, -, -, -, happart⟩ := names_exact labelRole (.text "a\n") "a\n" "b"
  exact ⟨⟨hclosed, ha, hb⟩, happart (.label [] []) "MATCH (n" ")" hclosed ha hb⟩

/-- **Not only the intended names are accepted.**  A name with a line feed after it is accepted in
every role, and is not told apart from the name without it as a label. -/
theorem line_feed_accepted :
    (∀ role, identifier role (.text "a\n") = .ok "a\n") ∧ "a\n".toList ∉ plainNames ∧
      (∀ role, identifier role (.text "a") = .ok "a") ∧ "a\n" ≠ "a" ∧
      tokens ("MATCH (n" ++ Fault.labelsText ["a\n"] ++ ") RETURN n") =
        tokens ("MATCH (n" ++ Fault.labelsText ["a"] ++ ") RETURN n") := by
  refine ⟨fun role => identifier_eq_ok_iff.mpr ⟨rfl, by decide⟩, fun h => ?_,
    fun role => identifier_eq_ok_iff.mpr ⟨rfl, by decide⟩, by decide, by decide +kernel⟩
  exact absurd (mem_plainNames.mp h) (by decide)

end GraphMapper
