/-
# The messages that `git merge-tree -z` lists

The loop over the message records: what the fields write, up to the empty ones at
the end.  A message that does not fit into its record stops the loop with another
error than the parser's own, whatever comes after it (`parseMessages_spec`,
`parseMessages_of_unfit`).
-/

import DevFlow.Runtime.MergeTreeStages

namespace DevFlow

open MergeConflictClassifier

/-! ### The messages -/

/-- A message, with the paths it is about in their bytes. -/
structure MessageEntry where
  conflictType : List Char
  paths : List (List UInt8)
  message : List Char
  type_ne : conflictType ≠ []
  message_ne : message ≠ []

namespace MessageEntry

/-- The fields write the number of the paths, the paths, the type and the text. -/
def WrittenIn (entry : MessageEntry) (fields : List (List UInt8)) : Prop :=
  ∃ count conflictType message, fields = count :: (entry.paths ++ [conflictType, message]) ∧
    decodeCount count = .ok entry.paths.length ∧ decodeText conflictType = entry.conflictType ∧
    decodeText message = entry.message

/-- A message that `MergeConflictMessage` takes. -/
def Fits (entry : MessageEntry) : Prop :=
  entry.conflictType.length ≤ 256 ∧ entry.message.length ≤ 4096

/-- The record says what the entry says. -/
def SaidBy (entry : MessageEntry) (message : MergeConflictMessage) : Prop :=
  message.conflictType = entry.conflictType ∧
    message.paths = entry.paths.map Utf8.fsdecode ∧ message.message = entry.message

/-- `MergeConflictMessage` of the entry. -/
def make (entry : MessageEntry) : Except Failure MergeConflictMessage :=
  makeMessage entry.conflictType (entry.paths.map Utf8.fsdecode) entry.message

theorem make_eq_ok {entry : MessageEntry} {message : MergeConflictMessage} :
    entry.make = .ok message ↔ entry.SaidBy message := by
  unfold make makeMessage
  constructor
  · intro h
    split_ifs at h
    obtain rfl := Except.ok.inj h
    exact ⟨rfl, rfl, rfl⟩
  · rintro ⟨htype, hpaths, hmessage⟩
    have htype' := message.type_length
    have hmessage' := message.message_length
    rw [htype] at htype'
    rw [hmessage] at hmessage'
    rw [dif_pos htype', dif_pos hmessage']
    simp only [← htype, ← hpaths, ← hmessage]

theorem exists_make_iff {entry : MessageEntry} : (∃ message, entry.make = .ok message) ↔ entry.Fits := by
  constructor
  · rintro ⟨message, hmessage⟩
    obtain ⟨htype, -, htext⟩ := make_eq_ok.1 hmessage
    exact ⟨htype ▸ message.type_length.2, htext ▸ message.message_length.2⟩
  · intro hfits
    exact ⟨⟨entry.conflictType, _, entry.message,
      ⟨List.length_pos_iff.2 entry.type_ne, hfits.1⟩,
      ⟨List.length_pos_iff.2 entry.message_ne, hfits.2⟩⟩, make_eq_ok.2 ⟨rfl, rfl, rfl⟩⟩

theorem make_eq_error {entry : MessageEntry} {failure : Failure} (h : entry.make = .error failure) :
    failure = recordError "MergeConflictMessage" := by
  unfold make makeMessage at h
  split_ifs at h
  all_goals exact (Except.error.inj h).symm

end MessageEntry

/-- An empty field is no number. -/
theorem decodeCount_nil {count : ℕ} : decodeCount [] ≠ .ok count := by
  intro h
  cases h

/-- **One round of the loop over the message records.** -/
theorem parseMessages_append {entry : MessageEntry} {fields : List (List UInt8)}
    (h : entry.WrittenIn fields) (rest : List (List UInt8)) :
    parseMessages (fields ++ rest) = (do
      let message ← entry.make
      let messages ← parseMessages rest
      return message :: messages) := by
  obtain ⟨count, conflictType, message, rfl, hcount, htype, htext⟩ := h
  have hne : count ≠ [] := by
    rintro rfl
    exact decodeCount_nil hcount
  have hlength : ¬(count :: (entry.paths ++ [conflictType, message]) ++ rest).length < 2 := by
    simp only [List.length_append, List.length_cons, List.length_nil]
    omega
  have henough : ¬(entry.paths ++ [conflictType, message] ++ rest).length <
      entry.paths.length + 2 := by
    simp only [List.length_append, List.length_cons, List.length_nil]
    omega
  have hpaths : (entry.paths ++ [conflictType, message] ++ rest).take entry.paths.length =
      entry.paths := by
    rw [List.append_assoc, List.take_left]
  have hfirst : (entry.paths ++ [conflictType, message] ++ rest).getD entry.paths.length [] =
      conflictType := by
    simp
  have hsecond : (entry.paths ++ [conflictType, message] ++ rest).getD (entry.paths.length + 1) [] =
      message := by
    simp
  have hread : readMessage entry.paths entry.conflictType entry.message = entry.make := by
    rw [readMessage, Raising.raiseIf_of_not (not_or.2 ⟨entry.type_ne, entry.message_ne⟩)]
    rfl
  have hdrop : (entry.paths ++ [conflictType, message] ++ rest).drop (entry.paths.length + 2) =
      rest := List.drop_left' (by simp)
  rw [parseMessages, if_neg hlength, List.cons_append, List.headD_cons, if_neg hne, hcount]
  simp only [List.tail_cons, if_neg henough, hpaths, hfirst, hsecond, hdrop, htype, htext, hread]

/-- Nothing but empty fields. -/
theorem parseMessages_ending {ending : List (List UInt8)} (h : ∀ field ∈ ending, field = []) :
    parseMessages ending = .ok [] := by
  rw [parseMessages]
  cases ending with
  | nil => rfl
  | cons field ending =>
    have hfield : field = [] := h field List.mem_cons_self
    have hnone : ¬(field :: ending).any (· ≠ []) = true := by
      rw [List.any_eq_true]
      rintro ⟨other, hother, hne⟩
      exact of_decide_eq_true hne (h other hother)
    rw [List.headD_cons, if_pos hfield, if_neg hnone, ite_self]

theorem decodeCount_eq_error {value : List UInt8} {failure : Failure}
    (h : decodeCount value = .error failure) : ∃ text, failure = classificationError text := by
  unfold decodeCount at h
  split at h
  · exact ⟨_, (Except.error.inj h).symm⟩
  · rcases Raising.bind_eq_error.1 h with hbound | ⟨_, -, hreturn⟩
    · exact ⟨_, (Raising.raiseIf_eq_error.1 hbound).2.symm⟩
    · cases hreturn

theorem decodeText_nil : decodeText [] = [] := by
  have hnil : Utf8.decodeReplace [] = [] := by
    rw [Utf8.decodeReplace, Utf8.pieces, List.map_nil]
  rw [decodeText, hnil]
  rfl

theorem getD_of_lt {fields : List (List UInt8)} {n : ℕ} (h : n < fields.length) :
    fields.getD n [] = fields[n] := by
  rw [List.getD_eq_getElem?_getD, List.getElem?_eq_getElem h, Option.getD_some]

/-- The fields of a record, put together again. -/
theorem append_drop_messageFields {count : ℕ} {fields : List (List UInt8)}
    (h : count + 2 ≤ fields.length) :
    fields.take count ++ [fields.getD count [], fields.getD (count + 1) []] ++
      fields.drop (count + 2) = fields := by
  have hcount : count < fields.length := by omega
  have hnext : count + 1 < fields.length := by omega
  conv_rhs => rw [← List.take_append_drop count fields, List.drop_eq_getElem_cons hcount,
    List.drop_eq_getElem_cons hnext]
  rw [List.append_assoc, getD_of_lt hcount, getD_of_lt hnext]
  rfl

/-- The text of a record is not the empty field at the end. -/
theorem drop_messageFields_ne_nil {count : ℕ} {fields : List (List UInt8)}
    (h : count + 2 ≤ fields.length) (hlast : ∀ field ∈ fields.getLast?, field = [])
    (htext : decodeText (fields.getD (count + 1) []) ≠ []) : fields.drop (count + 2) ≠ [] := by
  intro hnil
  have hlength : fields.length = count + 2 := le_antisymm (List.drop_eq_nil_iff.1 hnil) h
  have hnext : count + 1 < fields.length := by omega
  have hend : fields.getLast? = some fields[count + 1] := by
    rw [List.getLast?_eq_getElem?, ← List.getElem?_eq_getElem hnext, hlength]
    rfl
  rw [getD_of_lt hnext, hlast _ hend] at htext
  exact htext decodeText_nil

/-- A record of enough fields writes an entry, or a text is missing. -/
theorem exists_writtenIn {first : List UInt8} {count : ℕ} {fields : List (List UInt8)}
    (hcount : decodeCount first = .ok count) (h : count + 2 ≤ fields.length)
    {conflictType message : List Char}
    (htype : decodeText (fields.getD count []) = conflictType) (htype_ne : conflictType ≠ [])
    (htext : decodeText (fields.getD (count + 1) []) = message) (htext_ne : message ≠ []) :
    ∃ entry : MessageEntry, entry.WrittenIn (first :: (fields.take count ++
      [fields.getD count [], fields.getD (count + 1) []])) := by
  have hlength : (fields.take count).length = count := by
    rw [List.length_take, Nat.min_eq_left (by omega)]
  exact ⟨⟨conflictType, fields.take count, message, htype_ne, htext_ne⟩, first,
    fields.getD count [], fields.getD (count + 1) [], rfl, hlength.symm ▸ hcount, htype, htext⟩

/-- **What the loop over the message records meets**: the end, an error of the parser, or a
record. -/
theorem message_cases (fields : List (List UInt8)) (hlast : ∀ field ∈ fields.getLast?, field = []) :
    (∀ field ∈ fields, field = []) ∨
      (∃ text, parseMessages fields = .error (classificationError text)) ∨
      ∃ (entry : MessageEntry) (record rest : List (List UInt8)),
        fields = record ++ rest ∧ rest ≠ [] ∧ entry.WrittenIn record := by
  cases fields with
  | nil => exact Or.inl fun field hfield => absurd hfield List.not_mem_nil
  | cons first rest =>
    rw [parseMessages, List.headD_cons, List.tail_cons]
    by_cases hrest : rest = []
    · -- the empty field behind the last zero byte
      subst hrest
      refine Or.inl fun field hfield => ?_
      rw [List.mem_singleton.1 hfield]
      exact hlast first rfl
    have hshort : ¬(first :: rest).length < 2 := by
      have hpos := List.length_pos_iff.2 hrest
      rw [List.length_cons]
      omega
    rw [if_neg hshort]
    split_ifs with hhead hany
    · exact Or.inr (Or.inl ⟨_, rfl⟩)
    · refine Or.inl fun field hfield => ?_
      by_contra hne
      exact hany (List.any_eq_true.2 ⟨field, hfield, decide_eq_true hne⟩)
    · refine Or.inr ?_
      cases hcount : decodeCount first with
      | error failure =>
        obtain ⟨text, rfl⟩ := decodeCount_eq_error hcount
        exact Or.inl ⟨text, rfl⟩
      | ok count =>
        simp only
        split_ifs with hcut
        · exact Or.inl ⟨_, rfl⟩
        rw [not_lt] at hcut
        have hlast' : ∀ field ∈ rest.getLast?, field = [] := by
          rw [List.getLast?_cons_of_ne_nil hrest] at hlast
          exact hlast
        generalize htype : decodeText (rest.getD count []) = conflictType
        generalize htext : decodeText (rest.getD (count + 1) []) = message
        by_cases hempty : conflictType = [] ∨ message = []
        · refine Or.inl ⟨"merge-tree message record is missing type or message", ?_⟩
          rw [readMessage, Raising.raiseIf_of hempty]
          rfl
        · rw [not_or] at hempty
          obtain ⟨entry, hentry⟩ := exists_writtenIn hcount hcut htype hempty.1 htext hempty.2
          refine Or.inr ⟨entry, _, rest.drop (count + 2), ?_,
            drop_messageFields_ne_nil hcut hlast' (htext ▸ hempty.2), hentry⟩
          rw [List.cons_append, append_drop_messageFields hcut]

/-- Records, one after the other, that write the entries. -/
def MessagesWrittenIn (entries : List MessageEntry) (groups : List (List (List UInt8))) : Prop :=
  List.Forall₂ MessageEntry.WrittenIn entries groups

/-- **The loop over the message records:** it returns the messages that the fields write up to
the empty ones at the end, and raises another error than its own only for a message that does
not fit. -/
theorem parseMessages_spec (fields : List (List UInt8))
    (hlast : ∀ field ∈ fields.getLast?, field = []) :
    ∃ entries groups rest, fields = groups.flatten ++ rest ∧ MessagesWrittenIn entries groups ∧
      (groups = [] ∨ rest ≠ []) ∧
      ((∃ messages, parseMessages fields = .ok messages ∧ (∀ field ∈ rest, field = []) ∧
          List.Forall₂ MessageEntry.SaidBy entries messages) ∨
        (∃ text, parseMessages fields = .error (classificationError text)) ∨
        (parseMessages fields = .error (recordError "MergeConflictMessage") ∧
          ∃ entry ∈ entries, ¬entry.Fits)) := by
  induction hn : fields.length using Nat.strong_induction_on generalizing fields with
  | _ n ih =>
    rcases message_cases fields hlast with hend | herror | ⟨entry, record, rest, rfl, hne, hentry⟩
    · exact ⟨[], [], fields, rfl, .nil, Or.inl rfl,
        Or.inl ⟨[], parseMessages_ending hend, hend, .nil⟩⟩
    · exact ⟨[], [], fields, rfl, .nil, Or.inl rfl, Or.inr (Or.inl herror)⟩
    · have hlast' : ∀ field ∈ rest.getLast?, field = [] := by
        rw [List.getLast?_append_of_ne_nil _ hne] at hlast
        exact hlast
      have hshorter : rest.length < n := by
        obtain ⟨count, conflictType, message, rfl, -⟩ := hentry
        rw [List.length_append, List.length_cons] at hn
        omega
      obtain ⟨entries, groups, ending, rfl, hwritten, hgroups, hcases⟩ :=
        ih rest.length hshorter rest hlast' rfl
      have hending : ending ≠ [] := by
        rcases hgroups with rfl | hending
        · exact hne
        · exact hending
      refine ⟨entry :: entries, record :: groups, ending, ?_, .cons hentry hwritten,
        Or.inr hending, ?_⟩
      · rw [List.flatten_cons, List.append_assoc]
      rw [parseMessages_append hentry]
      cases hmake : entry.make with
      | error failure =>
        obtain rfl := MessageEntry.make_eq_error hmake
        refine Or.inr (Or.inr ⟨rfl, entry, List.mem_cons_self, fun hfits => ?_⟩)
        obtain ⟨message, hmessage⟩ := MessageEntry.exists_make_iff.2 hfits
        rw [hmake] at hmessage
        cases hmessage
      | ok message =>
        rcases hcases with ⟨messages, hmessages, hempty, hsaid⟩ | ⟨text, herror⟩ | ⟨herror, other, hmem, hunfit⟩
        · refine Or.inl ⟨message :: messages, ?_, hempty, .cons (MessageEntry.make_eq_ok.1 hmake) hsaid⟩
          rw [hmessages]
          rfl
        · refine Or.inr (Or.inl ⟨text, ?_⟩)
          rw [herror]
          rfl
        · refine Or.inr (Or.inr ⟨?_, other, List.mem_cons_of_mem _ hmem, hunfit⟩)
          rw [herror]
          rfl

/-- **Messages that fit are returned.** -/
theorem parseMessages_of_fits {entries : List MessageEntry} {groups : List (List (List UInt8))}
    {ending : List (List UInt8)} (hwritten : MessagesWrittenIn entries groups)
    (hfits : ∀ entry ∈ entries, entry.Fits) (hending : ∀ field ∈ ending, field = []) :
    ∃ messages, parseMessages (groups.flatten ++ ending) = .ok messages ∧
      List.Forall₂ MessageEntry.SaidBy entries messages := by
  induction hwritten with
  | nil => exact ⟨[], parseMessages_ending hending, .nil⟩
  | @cons entry record entries groups hentry _ ih =>
    obtain ⟨messages, hmessages, hsaid⟩ := ih fun other hother =>
      hfits other (List.mem_cons_of_mem _ hother)
    obtain ⟨message, hmessage⟩ := MessageEntry.exists_make_iff.2 (hfits entry List.mem_cons_self)
    refine ⟨message :: messages, ?_, .cons (MessageEntry.make_eq_ok.1 hmessage) hsaid⟩
    rw [List.flatten_cons, List.append_assoc, parseMessages_append hentry, hmessage, hmessages]
    rfl

/-- A message that does not fit stops the loop, whatever comes after it. -/
theorem parseMessages_of_unfit {entries : List MessageEntry} {groups : List (List (List UInt8))}
    (rest : List (List UInt8)) (hwritten : MessagesWrittenIn entries groups)
    (hunfit : ∃ entry ∈ entries, ¬entry.Fits) :
    parseMessages (groups.flatten ++ rest) = .error (recordError "MergeConflictMessage") := by
  induction hwritten with
  | nil =>
    obtain ⟨entry, hentry, -⟩ := hunfit
    cases hentry
  | @cons entry record entries groups hentry _ ih =>
    rw [List.flatten_cons, List.append_assoc, parseMessages_append hentry]
    cases hmake : entry.make with
    | error failure =>
      obtain rfl := MessageEntry.make_eq_error hmake
      rfl
    | ok message =>
      obtain ⟨other, hother, hbad⟩ := hunfit
      rcases List.mem_cons.1 hother with rfl | hother
      · exact absurd (MessageEntry.exists_make_iff.1 ⟨message, hmake⟩) hbad
      · rw [ih ⟨other, hother, hbad⟩]
        rfl

end DevFlow
