import DnsForwarder.Proofs.Message.Reading

/-!
# Messages that are too large

No message of more than 65535 bytes can travel.  What is written instead is what is left of it
(`LeftOf`): the front of each section that there is room for, marked as truncated.

Questions are not left out.  So a message has a written form exactly if its header and its
questions fit (`length_cut_le`, `exists_encode?`): whatever its records are, a message with one
question has one.
-/

namespace DnsForwarder

open Wire

namespace Message

variable {place : Place}

/-! ## The records that there is room for -/

theorem fitting_prefix (place : Place) (records : List Record) :
    fitting place records <+: records := by
  induction records generalizing place with
  | nil => exact List.prefix_refl []
  | cons record rest ih =>
      rw [fitting]
      split
      · exact List.cons_prefix_cons.mpr ⟨rfl, ih _⟩
      · exact List.nil_prefix

/-- They end where there still is room. -/
theorem offset_behind_fitting_le (hplace : place.offset ≤ largestSize) (records : List Record) :
    ((Writer.concat ((fitting place records).map Record.write)).behind place).offset ≤
      largestSize := by
  induction records generalizing place with
  | nil => exact hplace
  | cons record rest ih =>
      rw [fitting]
      split
      · rename_i hnext
        rw [List.map_cons, Writer.concat, Writer.behind_append]
        exact ih hnext
      · exact hplace

/-- The OPT record is a section of its own. -/
theorem toList_filter_fitting (place : Place) (edns : Option Edns) :
    ((edns.filter fun edns => !(fitting place [edns.toRecord]).isEmpty).map
        Edns.toRecord).toList = fitting place (edns.map Edns.toRecord).toList := by
  cases edns with
  | none => rfl
  | some edns =>
      simp only [Option.filter_some, Option.map_some, Option.toList_some, fitting]
      split <;> rfl

/-! ## How large the rest is -/

/-- The size of a message is where its last section ends. -/
theorem length_write (message : Message) :
    (message.write.run 0 []).1.length =
      ((Writer.concat (message.allAdditionals.map Record.write)).behind
        ((Writer.concat (message.authorities.map Record.write)).behind
          ((Writer.concat (message.answers.map Record.write)).behind
            ((Writer.concat (message.questions.map Question.write)).behind
              ⟨Datagram.headerLength, []⟩)))).offset := by
  have hend : (message.write.behind ⟨0, []⟩).offset = (message.write.run 0 []).1.length :=
    Nat.zero_add _
  rw [← hend]
  simp only [write, Writer.behind_append]
  rfl

/-- If header and questions can travel, so can what is left of the message. -/
theorem length_cut_le {message : Message}
    (hquestions : ((Writer.concat (message.questions.map Question.write)).behind
      ⟨Datagram.headerLength, []⟩).offset ≤ largestSize) :
    (message.cut.write.run 0 []).1.length ≤ largestSize := by
  have hanswers := offset_behind_fitting_le hquestions message.answers
  have hauthorities := offset_behind_fitting_le hanswers message.authorities
  have hadditionals := offset_behind_fitting_le hauthorities message.additionals
  have hedns := offset_behind_fitting_le hadditionals (message.edns.map Edns.toRecord).toList
  simp only [length_write, cut, allAdditionals, toList_filter_fitting, List.map_append,
    Writer.concat_append, Writer.behind_append]
  exact hedns

/-- A question takes at most 255 bytes for its name and four for type and class. -/
theorem length_write_question_le (question : Question) (offset : Nat) (known : Suffixes) :
    (question.write.run offset known).1.length ≤ 259 := by
  have hallowed := question.name.allowed.2
  have hname : ((question.name.write .shared).run offset known).1.length ≤
      wireLength question.name.labels + 1 := length_writeLabels_le _ _ _ _ _
  simp only [Question.write, Writer.run_append, Writer.word, Writer.bytes, List.length_append,
    length_bytes16]
  omega

theorem offset_behind_questions_le (questions : List Question) (place : Place) :
    ((Writer.concat (questions.map Question.write)).behind place).offset ≤
      place.offset + 259 * questions.length := by
  induction questions generalizing place with
  | nil => exact Nat.le_refl _
  | cons question rest ih =>
      have hfirst : (question.write.behind place).offset ≤ place.offset + 259 :=
        Nat.add_le_add_left (length_write_question_le question _ _) _
      have hrest := ih (question.write.behind place)
      rw [List.map_cons, Writer.concat, Writer.behind_append, List.length_cons]
      omega

/-! ## What is written -/

theorem trimmed_of_length_le {message : Message}
    (h : (message.write.run 0 []).1.length ≤ largestSize) : message.trimmed = message :=
  if_pos h

theorem encode?_of_length_le {message : Message}
    (h : (message.write.run 0 []).1.length ≤ largestSize) :
    message.encode? = some (message.write.run 0 []).1 := by
  rw [encode?, trimmed_of_length_le h]
  exact if_pos h

theorem encode?_eq_some_iff {message : Message} {out : Bytes} :
    message.encode? = some out ↔
      (message.trimmed.write.run 0 []).1 = out ∧ out.length ≤ largestSize := by
  unfold encode?
  dsimp only
  constructor
  · intro h
    obtain ⟨hsize, hout⟩ := Option.ite_none_right_eq_some.mp h
    obtain rfl := Option.some.inj hout
    exact ⟨rfl, hsize⟩
  · rintro ⟨rfl, hsize⟩
    exact if_pos hsize

/-- A message with so few questions has a written form. -/
theorem exists_encode? {message : Message} (hfew : message.questions.length ≤ 252) :
    ∃ out, message.encode? = some out := by
  refine ⟨_, encode?_eq_some_iff.mpr ⟨rfl, ?_⟩⟩
  unfold trimmed
  split
  · assumption
  · refine length_cut_le (Nat.le_trans (offset_behind_questions_le _ _) ?_)
    simp only [Datagram.headerLength, largestSize]
    omega

/-- `rest` is all of the message if that can travel.  Otherwise every section has lost records
from its end, possibly all of them, and the header says so. -/
structure LeftOf (message rest : Message) : Prop where
  complete : (message.write.run 0 []).1.length ≤ largestSize → rest = message
  marked : rest = message ∨ rest.header.truncated = true
  header : rest.header = { message.header with truncated := rest.header.truncated }
  questions : rest.questions = message.questions
  answers : rest.answers <+: message.answers
  authorities : rest.authorities <+: message.authorities
  additionals : rest.additionals <+: message.additionals
  edns : rest.edns = message.edns ∨ rest.edns = none

theorem trimmed_leftOf (message : Message) : message.LeftOf message.trimmed := by
  by_cases hsize : (message.write.run 0 []).1.length ≤ largestSize
  · rw [trimmed_of_length_le hsize]
    exact ⟨fun _ => rfl, Or.inl rfl, rfl, rfl, List.prefix_refl _, List.prefix_refl _,
      List.prefix_refl _, Or.inl rfl⟩
  · have hedns : message.cut.edns = message.edns ∨ message.cut.edns = none := by
      simp only [cut]
      cases message.edns with
      | none => exact Or.inl rfl
      | some edns =>
          rw [Option.filter_some]
          split
          · exact Or.inl rfl
          · exact Or.inr rfl
    rw [trimmed, if_neg hsize]
    exact ⟨fun h => absurd h hsize, Or.inr rfl, rfl, rfl, fitting_prefix _ _,
      fitting_prefix _ _, fitting_prefix _ _, hedns⟩

/-- A code that stands in the header is not lost with the extension. -/
theorem LeftOf.responseCode_eq {message rest : Message} (h : message.LeftOf rest)
    (hcode : message.responseCode < 16) : rest.responseCode = message.responseCode := by
  have hheader : rest.header.code = message.header.code := by rw [h.header]
  rcases h.edns with hsame | hnone
  · rw [responseCode, responseCode, hsame, hheader]
  · cases hedns : message.edns with
    | none => rw [responseCode, responseCode, hnone, hedns, hheader]
    | some edns =>
        simp only [responseCode, hedns] at hcode
        simp only [responseCode, hnone, hedns, hheader]
        omega

/-- What is left of a message that reading can give is such a message. -/
theorem LeftOf.readable {message rest : Message} (h : message.LeftOf rest)
    (hreadable : message.Readable) : rest.Readable := by
  have hedns : ∀ edns ∈ rest.edns, edns ∈ message.edns := by
    intro edns hmem
    rcases h.edns with hsame | hnone
    · rwa [hsame] at hmem
    · rw [hnone] at hmem
      cases hmem
  have hopt : (rest.edns.map Edns.toRecord).toList.length ≤
      (message.edns.map Edns.toRecord).toList.length := by
    rcases h.edns with hsame | hnone
    · rw [hsame]
    · rw [hnone]
      exact Nat.zero_le _
  refine ⟨h.questions ▸ hreadable.questionCount,
    Nat.lt_of_le_of_lt h.answers.length_le hreadable.answerCount,
    Nat.lt_of_le_of_lt h.authorities.length_le hreadable.authorityCount, ?_, ?_,
    fun record hmem => hreadable.additionals record (h.additionals.subset hmem),
    fun edns hmem => hreadable.edns edns (hedns edns hmem)⟩
  · have hcount := hreadable.additionalCount
    have hadditionals := h.additionals.length_le
    rw [allAdditionals, List.length_append] at hcount ⊢
    omega
  · intro record hmem
    refine hreadable.records record ?_
    simp only [records, List.mem_append] at hmem ⊢
    exact hmem.imp (Or.imp (h.answers.subset ·) (h.authorities.subset ·)) (h.additionals.subset ·)

end Message

end DnsForwarder
