import GraphMapper.Proofs.Builder.Journal
import GraphMapper.Proofs.Placeholder.Spelling
import GraphMapper.Traversal.Statements

/-!
# Whose value a placeholder stands for

Every statement of a family is written from the conditions of its source, the conditions of a
traversal and the assignments of an update.  Each of these writes one placeholder, and each was
given one value by whoever made the call.  A `Carrier` is such a place in a text together with the
value that was given for it; the carriers of a statement are read off the journal.

`Statement.Carries` says that a statement fits its carriers: its placeholders stand exactly where
the carriers are, no two of them are the same, and the store finds under each of them the value
that was given.  `Family.compile_carries` says this of every statement of every family.

## How the proof is put together

A text is cut where its slots are.  The slots of the source come from `Query.Keeps`, those of a
traversal from `Traversal.Keeps`, and those of an update from `bindProperties_eq_ok`.  What is
left to see is that the parameters of the whole agree with the parameters of each part on the
names of that part: an update binds fresh names only, and a traversal shares no name with its
source.
-/

namespace GraphMapper

/-! ## 1.  Carriers -/

/-- What a placeholder is for: the text in front of it, and the value that was given for it. -/
structure Carrier where
  lead : String
  value : Value

/-- The carrier of a requirement on a pattern variable. -/
def Requirement.carrier (entry : Requirement × String) : Carrier :=
  ⟨conditionLead entry.2 entry.1.field entry.1.operator, entry.1.value⟩

/-- The carrier of an assignment of an update. -/
def assignmentCarrier (entry : Key × Value) : Carrier :=
  ⟨assignmentLead Query.variableName entry.1.plain, entry.2⟩

/-- A statement fits its carriers. -/
structure Statement.Carries (statement : Statement) (carriers : List Carrier) : Prop where
  spells : Spells statement.text
    ((carriers.map (·.lead)).zip (placeholders statement.text))
  nodup : (placeholders statement.text).Nodup
  bound : (placeholders statement.text).map (fun name => statement.parameters.get? (.text name)) =
    carriers.map (fun carrier => some carrier.value)

/-- Slots fit carriers under parameters: they have the same leads, and under each name the value
of its carrier is found. -/
structure Fits (parameters : Entries) (slots : List Slot) (carriers : List Carrier) : Prop where
  leads : slots.map (·.1) = carriers.map (·.lead)
  bound : slots.map (fun slot => parameters.get? (.text slot.2)) =
    carriers.map (fun carrier => some carrier.value)

namespace Fits

variable {parameters : Entries} {slots others : List Slot} {carriers more : List Carrier}

theorem append (h : Fits parameters slots carriers) (h' : Fits parameters others more) :
    Fits parameters (slots ++ others) (carriers ++ more) := by
  refine ⟨?_, ?_⟩
  · rw [List.map_append, List.map_append, h.leads, h'.leads]
  · rw [List.map_append, List.map_append, h.bound, h'.bound]

/-- Parameters can be replaced by others that agree on the names of the slots. -/
theorem congr (h : Fits parameters slots carriers) {changed : Entries}
    (hchanged : ∀ slot ∈ slots,
      changed.get? (.text slot.2) = parameters.get? (.text slot.2)) :
    Fits changed slots carriers :=
  ⟨h.leads, (List.map_congr_left hchanged).trans h.bound⟩

/-- **A statement that consists of slots fits their carriers.** -/
theorem carries {statement : Statement} (h : Fits statement.parameters slots carriers)
    (hspells : Spells statement.text slots) (hnodup : (slots.map (·.2)).Nodup) :
    statement.Carries carriers := by
  have hnames := hspells.placeholders_eq
  refine ⟨?_, ?_, ?_⟩
  · have hslots : (slots.map (·.1)).zip (slots.map (·.2)) = slots :=
      (List.zip_of_prod rfl rfl).symm
    rw [hnames, ← h.leads, hslots]
    exact hspells
  · rw [hnames]
    exact hnodup
  · rw [hnames, List.map_map]
    exact h.bound

end Fits

/-! ## 2.  The slots of conditions -/

namespace Holds

variable {allocator : Allocator} {parameters : Entries}
  {conditions : List (Condition × String)} {requirements : List (Requirement × String)}

theorem fits (h : Holds allocator parameters conditions requirements) :
    Fits parameters (conditions.map Condition.slot) (requirements.map Requirement.carrier) := by
  refine ⟨?_, ?_⟩
  · rw [List.map_map, List.map_map]
    refine h.map_eq_map fun condition requirement hmet => ?_
    rw [hmet.written]
    rfl
  · rw [List.map_map, List.map_map]
    exact h.map_get?

theorem nodup_slots (h : Holds allocator parameters conditions requirements) :
    ((conditions.map Condition.slot).map (·.2)).Nodup := by
  rw [List.map_map]
  exact h.nodup

theorem drawn_of_mem_slots (h : Holds allocator parameters conditions requirements) {slot : Slot}
    (hmem : slot ∈ conditions.map Condition.slot) : allocator.Drawn slot.2 := by
  obtain ⟨condition, hcondition, rfl⟩ := List.mem_map.mp hmem
  exact h.drawn_of_mem hcondition

/-- A placeholder of a condition is bound. -/
theorem get?_ne_none_of_mem_slots (h : Holds allocator parameters conditions requirements)
    {slot : Slot} (hmem : slot ∈ conditions.map Condition.slot) :
    parameters.get? (.text slot.2) ≠ none := by
  have hvalue := List.mem_map_of_mem (f := fun slot : Slot => parameters.get? (.text slot.2)) hmem
  rw [h.fits.bound, List.mem_map] at hvalue
  obtain ⟨carrier, -, hsome⟩ := hvalue
  rw [← hsome]
  exact Option.some_ne_none _

/-- The conditions can be written. -/
theorem legible (h : Holds allocator parameters conditions requirements)
    (hstem : ∀ c ∈ allocator.stem.toList, isNameChar c = true)
    (hvars : ∀ condition ∈ conditions, DollarFree condition.2) :
    ∀ condition ∈ conditions, Condition.Legible condition := fun condition hmem =>
  ⟨hvars condition hmem, h.isIdentifier_field hmem, (h.drawn_of_mem hmem).isNameChar hstem⟩

theorem spells (h : Holds allocator parameters conditions requirements)
    (hstem : ∀ c ∈ allocator.stem.toList, isNameChar c = true)
    (hvars : ∀ condition ∈ conditions, DollarFree condition.2) :
    Spells (whereClauseFor conditions) (conditions.map Condition.slot) :=
  spells_whereClauseFor (h.legible hstem hvars)

end Holds

/-! ## 3.  Statements of a source -/

namespace Query.Keeps

variable {query : Query} {requirements : List Requirement}

/-- The carriers of the conditions of a source. -/
abbrev carriers (requirements : List Requirement) (var : String) : List Carrier :=
  (requirements.map (·, var)).map Requirement.carrier

/-- The slots of the conditions of a source. -/
abbrev slots (query : Query) (var : String) : List Slot :=
  (query.conditions.map (·, var)).map Condition.slot

/-- The pattern of a source can be written, and has no dollar sign. -/
theorem matchClause (h : query.Keeps requirements) {var : String} (hvar : DollarFree var) :
    ∃ pattern, query.matchClause var = .ok pattern ∧ DollarFree pattern := by
  refine ⟨"MATCH (" ++ var ++ Fault.labelsText query.labels ++ ")", ?_, ?_⟩
  · rw [Query.matchClause, labelFragment_map_text h.labels]
    rfl
  · exact ((DollarFree.append (by decide) hvar).append (dollarFree_labelsText h.labels)).append
      (by decide)

/-- The conditions of a source can be written on a variable. -/
theorem legible (h : query.Keeps requirements) {var : String} (hvar : DollarFree var) :
    ∀ condition ∈ query.conditions.map (·, var), Condition.Legible condition := by
  refine (h.held var).legible h.stem fun condition hcondition => ?_
  obtain ⟨written, -, rfl⟩ := List.mem_map.mp hcondition
  exact hvar

/-- The part of a source that all its statements share, with its slots. -/
theorem rows (h : query.Keeps requirements) (var : String) (hvar : DollarFree var) :
    ∃ text, query.rows var = .ok text ∧ Spells text (slots query var) := by
  obtain ⟨pattern, hpattern, hfree⟩ := h.matchClause hvar
  refine ⟨_, by rw [Query.rows, hpattern]; rfl, ?_⟩
  exact Spells.prepend hfree (spells_whereClauseFor (h.legible hvar))

/-- A statement that only adds plain text to the shared part fits the conditions. -/
theorem carries_rows (h : query.Keeps requirements) {var text tail : String}
    (hvar : DollarFree var) (htext : query.rows var = .ok text) (htail : DollarFree tail)
    (hclosed : Closed tail) :
    Statement.Carries ⟨text ++ tail, query.parameters⟩ (carriers requirements var) := by
  obtain ⟨shared, hshared, hspells⟩ := h.rows var hvar
  obtain rfl : shared = text := Except.ok.inj (hshared.symm.trans htext)
  exact (h.held var).fits.carries (hspells.append_plain htail hclosed) (h.held var).nodup_slots

theorem dollarFree_sortingClause (h : query.Keeps requirements) :
    DollarFree (sortingClause query.sorting) := by
  cases hsorting : query.sorting with
  | none =>
    change DollarFree ""
    decide
  | some sorting =>
    have hfield := dollarFree_of_isIdentifier (h.sorting sorting (by rw [hsorting]; rfl))
    have hdirection : DollarFree (" " ++ sorting.direction.text) := by
      cases sorting.direction <;> decide
    have hlead : DollarFree (" ORDER BY " ++ variableName ++ ".") := by decide
    have htext := (hlead.append hfield).append hdirection
    rwa [← String.append_assoc] at htext

theorem dollarFree_limitClause (limit : Option ℕ) : DollarFree (limitClause limit) := by
  cases limit with
  | none =>
    change DollarFree ""
    decide
  | some count => exact DollarFree.append (by decide) (dollarFree_repr count)

/-- What a statement that returns the nodes adds to the shared part. -/
def selectTail (query : Query) : String :=
  " RETURN n" ++ sortingClause query.sorting ++ limitClause query.limit

/-- What a statement that deletes the nodes adds to the shared part. -/
def deleteTail (detach : Bool) : String :=
  " " ++ Node.deleteKeyword detach ++ " n" ++ returnCount deletedColumn

theorem dollarFree_selectTail (h : query.Keeps requirements) : DollarFree (selectTail query) :=
  (DollarFree.append (by decide) h.dollarFree_sortingClause).append (dollarFree_limitClause _)

theorem closed_selectTail (query : Query) : Closed (selectTail query) := by
  rw [selectTail, String.append_assoc]
  exact closed_append_left (closed_of_toList_eq rfl (by decide)) (by decide)

theorem dollarFree_deleteTail (detach : Bool) : DollarFree (deleteTail detach) := by
  cases detach <;> decide

theorem closed_deleteTail (detach : Bool) : Closed (deleteTail detach) := by
  cases detach <;> exact closed_of_toList_eq rfl (by decide)

theorem selectStatement_eq_map (query : Query) :
    query.selectStatement = (query.rows variableName).map fun rows =>
      ⟨rows ++ selectTail query, query.parameters⟩ := by
  rw [selectStatement]
  cases query.rows variableName with
  | error fault => rfl
  | ok rows =>
    have htext : rows ++ " RETURN " ++ variableName ++ sortingClause query.sorting ++
        limitClause query.limit = rows ++ selectTail query := by
      rw [selectTail]
      simp only [String.append_assoc]
      rfl
    exact congrArg (fun text => (.ok ⟨text, query.parameters⟩ : Except Fault Statement)) htext

theorem deleteStatement_eq_bind (query : Query) (detach : Bool) :
    query.deleteStatement detach = query.guardMutation .delete >>= fun _ =>
      (query.rows variableName).map fun rows => ⟨rows ++ deleteTail detach, query.parameters⟩ := by
  rw [deleteStatement]
  cases query.guardMutation .delete with
  | error fault => rfl
  | ok _ =>
    cases query.rows variableName with
    | error fault => rfl
    | ok rows =>
      have htext : rows ++ " " ++ Node.deleteKeyword detach ++ " " ++ variableName ++
          returnCount deletedColumn = rows ++ deleteTail detach := by
        rw [deleteTail]
        simp only [String.append_assoc]
        rfl
      exact congrArg (fun text => (.ok ⟨text, query.parameters⟩ : Except Fault Statement)) htext

theorem carries_selectStatement (h : query.Keeps requirements) {statement : Statement}
    (hstatement : query.selectStatement = .ok statement) :
    statement.Carries (carriers requirements variableName) := by
  obtain ⟨text, htext, -⟩ := h.rows variableName (by decide)
  rw [selectStatement_eq_map, htext] at hstatement
  rw [← Except.ok.inj hstatement]
  exact h.carries_rows (by decide) htext h.dollarFree_selectTail (closed_selectTail query)

theorem carries_countStatement (h : query.Keeps requirements) {statement : Statement}
    (hstatement : query.countStatement = .ok statement) :
    statement.Carries (carriers requirements variableName) := by
  obtain ⟨text, htext, -⟩ := h.rows variableName (by decide)
  rw [countStatement, htext] at hstatement
  rw [← Except.ok.inj hstatement]
  exact h.carries_rows (by decide) htext (by decide) (closed_of_toList_eq rfl (by decide))

theorem carries_deleteStatement (h : query.Keeps requirements) {detach : Bool}
    {statement : Statement} (hstatement : query.deleteStatement detach = .ok statement) :
    statement.Carries (carriers requirements variableName) := by
  obtain ⟨text, htext, -⟩ := h.rows variableName (by decide)
  rw [deleteStatement_eq_bind] at hstatement
  obtain ⟨-, -, hstatement⟩ := exists_of_bind_eq_ok hstatement
  rw [htext] at hstatement
  rw [← Except.ok.inj hstatement]
  exact h.carries_rows (by decide) htext (dollarFree_deleteTail detach) (closed_deleteTail detach)

/-- The attributes that an update assigns. -/
def changes (attributes : Value) : Entries :=
  match attributes.bare with
  | .map entries => entries
  | _ => []

theorem changes_of_readChanges {attributes : Value} {entries : Entries}
    (h : readChanges attributes = .ok entries) : changes attributes = entries := by
  obtain ⟨given, hbare⟩ | hnot := attributes.bare_eq_map_or
  · rw [readChanges_of_map hbare] at h
    rw [changes, hbare]
    split at h
    · exact absurd h (by simp)
    · split at h
      · exact absurd h (by simp)
      · exact Except.ok.inj h
  · obtain ⟨fault, -, hfault⟩ := readChanges_of_not_map hnot
    exact absurd (h.symm.trans hfault) (by simp)

/-- The assignments of an update fit what they assign, under the parameters that they leave. -/
theorem fits_assignments (binding : Binding) {changes : Entries} {keys : List String}
    (hkeys : changes.map (·.1) = keys.map .text) :
    Fits (binding.bindAll (changes.map (·.2))).parameters
      ((keys.zip (binding.allocator.names changes.length)).map (assignmentSlot variableName))
      (changes.map assignmentCarrier) := by
  have hlength : changes.length = keys.length := by
    rw [← List.length_map (f := (·.1)), hkeys, List.length_map]
  have hnames : (binding.allocator.names changes.length).length = keys.length := by
    rw [Allocator.length_names, hlength]
  have hleft : (keys.zip (binding.allocator.names changes.length)).map Prod.fst = keys :=
    List.map_fst_zip (Nat.le_of_eq hnames.symm)
  have hright : (keys.zip (binding.allocator.names changes.length)).map Prod.snd =
      binding.allocator.names changes.length :=
    List.map_snd_zip (Nat.le_of_eq hnames)
  refine ⟨?_, ?_⟩
  · have hkeysPlain : changes.map (fun entry => entry.1.plain) = keys := by
      have := congrArg (List.map Key.plain) hkeys
      rw [List.map_map, List.map_map] at this
      exact this.trans (List.map_id _)
    calc ((keys.zip (binding.allocator.names changes.length)).map
            (assignmentSlot variableName)).map (·.1)
        = ((keys.zip (binding.allocator.names changes.length)).map Prod.fst).map
            (assignmentLead variableName) := by rw [List.map_map, List.map_map]; rfl
      _ = (changes.map (fun entry => entry.1.plain)).map (assignmentLead variableName) := by
          rw [hleft, hkeysPlain]
      _ = (changes.map assignmentCarrier).map (·.lead) := by
          rw [List.map_map, List.map_map]; rfl
  · have hbound := binding.map_get?_bindAll (changes.map (·.2))
    rw [List.length_map, ← hright, List.map_map, List.map_map] at hbound
    rw [List.map_map, List.map_map]
    exact hbound

/-- What binding changes compiles to, in terms of the loop over the properties. -/
theorem bindChanges_fst (query : Query) (changes : Entries) :
    (query.bindChanges changes).1 =
      ((bindProperties ⟨query.allocator, query.parameters⟩ changes).1.map
        (assignmentsText variableName)).bind fun assignments =>
          (query.rows variableName).bind fun rows =>
            .ok ⟨rows ++ assignments ++ returnCount updatedColumn,
              (bindProperties ⟨query.allocator, query.parameters⟩ changes).2.parameters⟩ := rfl

/-- The statement of an update, when it can be written. -/
theorem bindChanges_eq_ok {changes : Entries} {statement : Statement}
    (h : (query.bindChanges changes).1 = .ok statement) :
    ∃ rows assignments, query.rows variableName = .ok rows ∧
      (setClause variableName ⟨query.allocator, query.parameters⟩ changes).1 = .ok assignments ∧
      statement = ⟨rows ++ assignments ++ returnCount updatedColumn,
        (setClause variableName ⟨query.allocator, query.parameters⟩ changes).2.parameters⟩ := by
  have hbind : ((setClause variableName ⟨query.allocator, query.parameters⟩ changes).1.bind
      fun assignments => (query.rows variableName).bind fun rows =>
        .ok ⟨rows ++ assignments ++ returnCount updatedColumn,
          (setClause variableName ⟨query.allocator, query.parameters⟩ changes).2.parameters⟩) =
        Except.ok statement := h
  obtain ⟨assignments, hset, hbind⟩ := exists_of_bind_eq_ok hbind
  obtain ⟨rows, hrows, hbind⟩ := exists_of_bind_eq_ok hbind
  exact ⟨rows, assignments, hrows, hset, (Except.ok.inj hbind).symm⟩

/-- An update fits its conditions and its assignments.  The values of the conditions are still
found because the assignments are bound to names that were not drawn before. -/
theorem carries_bindChanges (h : query.Keeps requirements) {changes : Entries}
    {statement : Statement} (hstatement : (query.bindChanges changes).1 = .ok statement) :
    statement.Carries (carriers requirements variableName ++ changes.map assignmentCarrier) := by
  obtain ⟨text, assignments, htext, hassignments, rfl⟩ := bindChanges_eq_ok hstatement
  obtain ⟨shared, hshared, hspells⟩ := h.rows variableName (by decide)
  obtain rfl : shared = text := Except.ok.inj (hshared.symm.trans htext)
  obtain ⟨keys, hlength, hkeys, haccepted, rfl, hfinal⟩ := setClause_eq_ok hassignments
  have hfits : Fits (setClause variableName ⟨query.allocator, query.parameters⟩
      changes).2.parameters (slots query variableName) (carriers requirements variableName) := by
    refine (h.held variableName).fits.congr fun slot hslot => ?_
    rw [hfinal]
    exact Binding.get?_bindAll_of_drawn _ _ ((h.held variableName).drawn_of_mem_slots hslot)
  have hassigned := fits_assignments ⟨query.allocator, query.parameters⟩ hkeys
  rw [← hfinal] at hassigned
  refine (hfits.append hassigned).carries ?_ ?_
  · have hset := spells_assignmentsText variableName (by decide)
      (keys.zip (query.allocator.names changes.length))
      (fun e he => haccepted _ (List.of_mem_zip he).1)
      (fun e he => Allocator.isNameChar_of_mem_names h.stem (List.of_mem_zip he).2)
    exact (hspells.append hset (closed_assignmentsText _ _)).append_plain (by decide)
      (closed_of_toList_eq rfl (by decide))
  · rw [List.map_append, List.nodup_append]
    have hnames : ((keys.zip (query.allocator.names changes.length)).map
        (assignmentSlot variableName)).map (·.2) = query.allocator.names changes.length := by
      rw [List.map_map]
      exact List.map_snd_zip (Nat.le_of_eq (by rw [Allocator.length_names, hlength]))
    rw [hnames]
    refine ⟨(h.held variableName).nodup_slots, Allocator.nodup_names _ _, ?_⟩
    rintro name hname other hother rfl
    obtain ⟨slot, hslot, rfl⟩ := List.mem_map.mp hname
    exact Allocator.not_drawn_of_mem_names hother
      ((h.held variableName).drawn_of_mem_slots hslot)

theorem carries_updateStatement (h : query.Keeps requirements) {attributes : Value}
    {statement : Statement} (hstatement : (query.updateStatement attributes).1 = .ok statement) :
    statement.Carries (carriers requirements variableName ++
      (changes attributes).map assignmentCarrier) := by
  rw [updateStatement] at hstatement
  cases hguard : query.guardMutation .update with
  | error fault =>
    rw [hguard] at hstatement
    exact absurd hstatement (by simp)
  | ok _ =>
    cases hchanges : readChanges attributes with
    | error fault =>
      rw [hguard, hchanges] at hstatement
      exact absurd hstatement (by simp)
    | ok entries =>
      rw [hguard, hchanges] at hstatement
      rw [changes_of_readChanges hchanges]
      exact h.carries_bindChanges hstatement

end Query.Keeps

/-! ## 4.  Statements of a traversal -/

theorem PathPart.dollarFree_var (part : PathPart) : DollarFree part.var := by
  cases part <;> decide

/-- The relationship of a pattern, when it can be written. -/
theorem PathDirection.dollarFree_of_pattern {direction : PathDirection} {name text : String}
    (hname : isIdentifier name = true) (h : direction.pattern name = .ok text) :
    DollarFree text := by
  have hname := dollarFree_of_isIdentifier hname
  cases direction with
  | outgoing =>
    rw [← Except.ok.inj h]
    exact (DollarFree.append (by decide) hname).append (by decide)
  | incoming =>
    rw [← Except.ok.inj h]
    exact (DollarFree.append (by decide) hname).append (by decide)
  | both =>
    rw [← Except.ok.inj h]
    exact (DollarFree.append (by decide) hname).append (by decide)
  | unknown given => exact absurd h (by simp [pattern])

namespace Traversal.Keeps

variable {source : Query} {traversal : Traversal} {asked : List Requirement}
  {requirements : List (Requirement × PathPart)}

/-- The carriers of the conditions of a traversal. -/
abbrev carriers (requirements : List (Requirement × PathPart)) : List Carrier :=
  (requirements.map fun r => (r.1, r.2.var)).map Requirement.carrier

/-- The slots of the conditions of a traversal. -/
abbrev slots (traversal : Traversal) : List Slot :=
  (traversal.conditions.map fun c => (c.1, c.2.var)).map Condition.slot

/-- What is found under a name of the source in the parameters of a traversal. -/
theorem get?_allParameters_source (h : traversal.Keeps source requirements) {name : String}
    (hname : source.parameters.get? (.text name) ≠ none) :
    (traversal.allParameters source).get? (.text name) =
      source.parameters.get? (.text name) := by
  rw [allParameters, Entries.get?_merge h.held.distinct]
  rcases h.apart name with hnone | hnone
  · exact absurd hnone hname
  · rw [hnone, Option.none_or]

/-- What is found under a name of the traversal itself. -/
theorem get?_allParameters_own (h : traversal.Keeps source requirements) {name : String}
    (hname : traversal.parameters.get? (.text name) ≠ none) :
    (traversal.allParameters source).get? (.text name) =
      traversal.parameters.get? (.text name) := by
  rw [allParameters, Entries.get?_merge h.held.distinct]
  cases hvalue : traversal.parameters.get? (.text name) with
  | none => exact absurd hvalue hname
  | some value => exact Option.some_or

/-- The slots of both halves fit the carriers of both halves. -/
theorem fits (hsource : source.Keeps asked) (h : traversal.Keeps source requirements) :
    Fits (traversal.allParameters source)
      (Query.Keeps.slots source sourceName ++ slots traversal)
      (Query.Keeps.carriers asked sourceName ++ carriers requirements) := by
  have hheld := hsource.held sourceName
  refine Fits.append (hheld.fits.congr fun slot hslot => ?_)
    (h.held.fits.congr fun slot hslot => ?_)
  · exact h.get?_allParameters_source (hheld.get?_ne_none_of_mem_slots hslot)
  · exact h.get?_allParameters_own (h.held.get?_ne_none_of_mem_slots hslot)

/-- No placeholder is used in both halves. -/
theorem nodup (hsource : source.Keeps asked) (h : traversal.Keeps source requirements) :
    ((Query.Keeps.slots source sourceName ++ slots traversal).map (·.2)).Nodup := by
  have hheld := hsource.held sourceName
  rw [List.map_append, List.nodup_append]
  refine ⟨hheld.nodup_slots, h.held.nodup_slots, ?_⟩
  rintro name hname other hother rfl
  obtain ⟨first, hfirst, rfl⟩ := List.mem_map.mp hname
  obtain ⟨second, hsecond, heq⟩ := List.mem_map.mp hother
  rcases h.apart first.2 with hnone | hnone
  · exact hheld.get?_ne_none_of_mem_slots hfirst hnone
  · rw [← heq] at hnone
    exact h.held.get?_ne_none_of_mem_slots hsecond hnone

/-- The part of a traversal that both its statements share, with its slots. -/
theorem rows (hsource : source.Keeps asked) (h : traversal.Keeps source requirements)
    {text : String} (htext : traversal.rows source = .ok text) :
    Spells text (Query.Keeps.slots source sourceName ++ slots traversal) := by
  obtain ⟨shared, hshared, hspells⟩ := hsource.rows sourceName (by decide)
  rw [Traversal.rows] at htext
  obtain ⟨start, hstart, htext⟩ := exists_of_bind_eq_ok htext
  obtain rfl : shared = start := Except.ok.inj (hshared.symm.trans hstart)
  obtain ⟨relationship, hpattern, htext⟩ := exists_of_bind_eq_ok htext
  rw [labelFragment_map_text h.targetLabels] at htext
  have heq : text = shared ++ (" MATCH (source)" ++ relationship ++ "(target" ++
      Fault.labelsText traversal.targetLabels ++ ")") ++ traversal.filter := by
    rw [← Except.ok.inj htext]
    simp only [String.append_assoc]
    rfl
  rw [heq]
  have hrelationship := PathDirection.dollarFree_of_pattern h.relationshipType hpattern
  have hmiddle : DollarFree (" MATCH (source)" ++ relationship ++ "(target" ++
      Fault.labelsText traversal.targetLabels ++ ")") :=
    ((((DollarFree.append (by decide) hrelationship).append (by decide)).append
      (dollarFree_labelsText h.targetLabels)).append (by decide))
  refine (hspells.append_plain hmiddle ?_).append (h.held.spells hsource.stem ?_)
    (closed_whereClauseFor _)
  · simp only [String.append_assoc]
    exact closed_append_left (closed_of_toList_eq rfl (by decide)) (by decide)
  · intro condition hcondition
    obtain ⟨written, -, rfl⟩ := List.mem_map.mp hcondition
    exact written.2.dollarFree_var

/-- The limit of a traversal's statement, as it is written. -/
def limitText (limit : Option String) : String := limit.elim "" (" LIMIT " ++ ·)

/-- A statement of a traversal is the shared part with plain text after it, under the parameters
of both halves. -/
def Ends (source : Query) (traversal : Traversal) (statement : Statement) : Prop :=
  ∃ text tail, traversal.rows source = .ok text ∧ DollarFree tail ∧ Closed tail ∧
    statement = ⟨text ++ tail, traversal.allParameters source⟩

theorem ends_of_selectLimited {limit : Option String} (hlimit : ∀ text ∈ limit, DollarFree text)
    {statement : Statement} (hstatement : traversal.selectLimited source limit = .ok statement) :
    Ends source traversal statement := by
  have hbind : (traversal.rows source).bind (fun rows =>
      .ok ⟨rows ++ " RETURN " ++ targetName ++ limitText limit, traversal.allParameters source⟩) =
        Except.ok statement := by
    rw [← hstatement]
    cases limit <;> rfl
  obtain ⟨text, htext, hbind⟩ := exists_of_bind_eq_ok hbind
  have hlimitText : DollarFree (limitText limit) := by
    cases limit with
    | none =>
      change DollarFree ""
      decide
    | some text => exact DollarFree.append (by decide) (hlimit text rfl)
  refine ⟨text, " RETURN target" ++ limitText limit, htext,
    DollarFree.append (by decide) hlimitText,
    closed_append_left (closed_of_toList_eq rfl (by decide)) (by decide), ?_⟩
  rw [← Except.ok.inj hbind, Statement.mk.injEq]
  refine ⟨?_, rfl⟩
  simp only [String.append_assoc]
  rfl

theorem ends_of_countStatement {statement : Statement}
    (hstatement : traversal.countStatement source = .ok statement) :
    Ends source traversal statement := by
  rw [countStatement] at hstatement
  obtain ⟨text, htext, hstatement⟩ := exists_of_bind_eq_ok hstatement
  refine ⟨text, " RETURN count(target) AS total", htext, by decide,
    closed_of_toList_eq rfl (by decide), ?_⟩
  rw [← Except.ok.inj hstatement, Statement.mk.injEq]
  refine ⟨?_, rfl⟩
  simp only [String.append_assoc]
  rfl

/-- The text of such a statement consists of the slots of both halves. -/
theorem spells_of_ends (hsource : source.Keeps asked) (h : traversal.Keeps source requirements)
    {statement : Statement} (hends : Ends source traversal statement) :
    Spells statement.text (Query.Keeps.slots source sourceName ++ slots traversal) := by
  obtain ⟨text, tail, htext, htail, hclosed, rfl⟩ := hends
  exact (rows hsource h htext).append_plain htail hclosed

theorem carries_of_ends (hsource : source.Keeps asked) (h : traversal.Keeps source requirements)
    {statement : Statement} (hends : Ends source traversal statement) :
    statement.Carries (Query.Keeps.carriers asked sourceName ++ carriers requirements) := by
  have hspells := spells_of_ends hsource h hends
  obtain ⟨text, tail, -, -, -, rfl⟩ := hends
  exact (fits hsource h).carries hspells (nodup hsource h)

end Traversal.Keeps

/-! ## 5.  Statements of a family -/

/-- What can be compiled from a family.  A traversal is compiled with a limit of its own or with
another one. -/
inductive Request where
  | select
  | count
  | delete (detach : Bool)
  | update (attributes : Value)
  | traversalSelect (index : Nat) (limit : Option Int)
  | traversalCount (index : Nat)

namespace Request

/-- The statement that is asked for; nothing if there is no such traversal. -/
def compile (family : Family) : Request → Option (Except Fault Statement)
  | .select => some family.source.selectStatement
  | .count => some family.source.countStatement
  | .delete detach => some (family.source.deleteStatement detach)
  | .update attributes => some (family.source.updateStatement attributes).1
  | .traversalSelect index limit =>
    family.traversals[index]?.map fun traversal =>
      traversal.selectStatement family.source (limit.elim .null .int)
  | .traversalCount index =>
    family.traversals[index]?.map fun traversal => traversal.countStatement family.source

/-- The places of the statement that are filled with a value, by the journal: the conditions of
the source, then the assignments of the update or the conditions of the traversal. -/
def carriers (journal : Journal) : Request → List Carrier
  | .select | .count | .delete _ => Query.Keeps.carriers journal.source Query.variableName
  | .update attributes =>
    Query.Keeps.carriers journal.source Query.variableName ++
      (Query.Keeps.changes attributes).map assignmentCarrier
  | .traversalSelect index _ | .traversalCount index =>
    Query.Keeps.carriers journal.source Traversal.sourceName ++
      Traversal.Keeps.carriers (journal.traversals[index]?.getD [])

/-- The traversal whose statement is asked for. -/
def traversal? : Request → Option Nat
  | .traversalSelect index _ | .traversalCount index => some index
  | _ => none

end Request

theorem dollarFree_toString_int (n : Int) : DollarFree (toString n) := by
  rw [Int.toString_eq_repr, Int.repr_eq_if]
  by_cases hn : 0 ≤ n
  · rw [if_pos hn]
    exact dollarFree_repr _
  · rw [if_neg hn]
    exact DollarFree.append (by decide) (dollarFree_repr _)

/-- A statement of a traversal is that of a traversal which holds what the journal says. -/
theorem Family.Keeps.ends {family : Family} {journal : Journal} (h : family.Keeps journal)
    {request : Request} {index : ℕ} (hindex : request.traversal? = some index)
    {statement : Statement} (hstatement : request.compile family = some (.ok statement)) :
    ∃ traversal requirements, family.traversals[index]? = some traversal ∧
      journal.traversals[index]? = some requirements ∧
      traversal.Keeps family.source requirements ∧
      Traversal.Keeps.Ends family.source traversal statement := by
  cases request with
  | traversalSelect place limit =>
    obtain rfl : place = index := Option.some.inj hindex
    obtain ⟨traversal, htraversal, hstatement⟩ := Option.map_eq_some_iff.mp hstatement
    obtain ⟨requirements, hrequirements, hkeeps⟩ := h.traversals place traversal htraversal
    refine ⟨traversal, requirements, htraversal, hrequirements, hkeeps, ?_⟩
    rw [Traversal.selectStatement] at hstatement
    refine Traversal.Keeps.ends_of_selectLimited ?_ hstatement
    intro text htext
    cases limit with
    | none =>
      obtain ⟨count, -, rfl⟩ := Option.map_eq_some_iff.mp htext
      exact dollarFree_repr count
    | some n =>
      obtain rfl : toString n = text := Option.some.inj htext
      exact dollarFree_toString_int n
  | traversalCount place =>
    obtain rfl : place = index := Option.some.inj hindex
    obtain ⟨traversal, htraversal, hstatement⟩ := Option.map_eq_some_iff.mp hstatement
    obtain ⟨requirements, hrequirements, hkeeps⟩ := h.traversals place traversal htraversal
    exact ⟨traversal, requirements, htraversal, hrequirements, hkeeps,
      Traversal.Keeps.ends_of_countStatement hstatement⟩
  | _ => exact absurd hindex (by simp [Request.traversal?])

/-- **The statements of a family that holds what its journal says fit that journal.** -/
theorem Family.Keeps.carries {family : Family} {journal : Journal} (h : family.Keeps journal)
    {request : Request} {statement : Statement}
    (hstatement : request.compile family = some (.ok statement)) :
    statement.Carries (request.carriers journal) := by
  cases request with
  | select => exact h.source.carries_selectStatement (Option.some.inj hstatement)
  | count => exact h.source.carries_countStatement (Option.some.inj hstatement)
  | delete detach => exact h.source.carries_deleteStatement (Option.some.inj hstatement)
  | update attributes => exact h.source.carries_updateStatement (Option.some.inj hstatement)
  | traversalSelect index limit =>
    obtain ⟨traversal, requirements, -, hrequirements, hkeeps, hends⟩ := h.ends rfl hstatement
    rw [Request.carriers, hrequirements]
    exact Traversal.Keeps.carries_of_ends h.source hkeeps hends
  | traversalCount index =>
    obtain ⟨traversal, requirements, -, hrequirements, hkeeps, hends⟩ := h.ends rfl hstatement
    rw [Request.carriers, hrequirements]
    exact Traversal.Keeps.carries_of_ends h.source hkeeps hends

/-- Nothing that a family has bound is bound anew by later calls. -/
theorem Family.Keeps.kept {family : Family} {journal : Journal} (h : family.Keeps journal)
    {later : Family} (hlater : family.Later later) :
    (∀ condition ∈ family.source.conditions, condition ∈ later.source.conditions ∧
        later.source.parameters.get? (.text condition.parameter) =
          family.source.parameters.get? (.text condition.parameter)) ∧
      ∀ (index : Nat) (traversal : Traversal), family.traversals[index]? = some traversal →
        ∃ changed : Traversal, later.traversals[index]? = some changed ∧
          ∀ condition ∈ traversal.conditions, condition ∈ changed.conditions ∧
            changed.parameters.get? (.text condition.1.parameter) =
              traversal.parameters.get? (.text condition.1.parameter) := by
  refine ⟨fun condition hcondition => ?_, fun index traversal htraversal => ?_⟩
  · have hdrawn := (h.source.held "").drawn_of_mem (List.mem_map_of_mem hcondition)
    exact ⟨hlater.source.held.conditions.subset hcondition,
      hlater.source.held.bound _ hdrawn⟩
  · obtain ⟨changed, hchanged, hheld⟩ := hlater.traversals index traversal htraversal
    obtain ⟨requirements, -, hkeeps⟩ := h.traversals index traversal htraversal
    refine ⟨changed, hchanged, fun condition hcondition => ?_⟩
    have hdrawn := hkeeps.held.drawn_of_mem (List.mem_map_of_mem hcondition)
    exact ⟨hheld.conditions.subset hcondition, hheld.bound _ hdrawn⟩

/-- **Every placeholder stands for the value that was given with its condition or assignment.**
After any calls on a new query and the traversals started from it, refused ones included, every
statement that compiles has exactly the placeholders of its conditions and assignments, each in
its own place and no two of them alike, and under each the value is bound that was passed to the
call that made it.  No call after that binds the placeholder of a condition anew. -/
theorem placeholders_afterCalls {given : List Value} {fresh : Query}
    (h : Query.ofLabels given = .ok fresh) (calls : List FamilyCall) :
    (∀ request statement,
        Request.compile ((Family.mk fresh []).afterCalls calls) request = some (.ok statement) →
        statement.Carries (request.carriers (Journal.ofCalls calls))) ∧
      ∀ (more : List FamilyCall) (family later : Family),
        family = (Family.mk fresh []).afterCalls calls → later = family.afterCalls more →
        (∀ condition ∈ family.source.conditions, condition ∈ later.source.conditions ∧
            later.source.parameters.get? (.text condition.parameter) =
              family.source.parameters.get? (.text condition.parameter)) ∧
          ∀ (index : Nat) (traversal : Traversal), family.traversals[index]? = some traversal →
            ∃ changed : Traversal, later.traversals[index]? = some changed ∧
              ∀ condition ∈ traversal.conditions, condition ∈ changed.conditions ∧
                changed.parameters.get? (.text condition.1.parameter) =
                  traversal.parameters.get? (.text condition.1.parameter) := by
  have hkeeps := Family.keeps_afterCalls h calls
  refine ⟨fun request statement hstatement => hkeeps.carries hstatement, ?_⟩
  rintro more family later rfl rfl
  exact hkeeps.kept (Family.later_afterCalls _ more)

/-- Two members of a family in turns, with a refused operator and an update in between. -/
def colleagues : List FamilyCall :=
  [.onSource (.«where» (.text "age") (.text ">") (some (.int 25))),
    .start (.text "outgoing") (.text "WORKS_FOR"),
    .onTraversal 0 (.«where» .relationship (.text "since") (.int 2020) none),
    .onTraversal 0 (.«where» .target (.text "name") (.text "about") (some (.int 7))),
    .update (.map [(.text "age", .int 26)]),
    .onSource (.orWhere (.text "city") (.text "Oakland") none)]

/-- The refused operator and the update draw placeholders too, so the last condition of
`colleagues` gets the fifth. -/
theorem placeholders_afterCalls_colleagues :
    ∃ fresh statement, Query.ofLabels [.text "Person"] = .ok fresh ∧
      Request.compile ((Family.mk fresh []).afterCalls colleagues) (.traversalSelect 0 none) =
        some (.ok statement) ∧
      placeholders statement.text = ["p1", "p5", "p2"] ∧
      statement.Carries [⟨conditionLead "source" "age" .greater, .int 25⟩,
        ⟨conditionLead "source" "city" .equal, .text "Oakland"⟩,
        ⟨conditionLead "r" "since" .equal, .int 2020⟩] := by
  have hfresh : Query.ofLabels [.text "Person"] = .ok { labels := ["Person"] } := rfl
  refine ⟨_, _, hfresh, rfl, by decide +kernel, ?_⟩
  exact (placeholders_afterCalls hfresh colleagues).1 (.traversalSelect 0 none) _ rfl

end GraphMapper
