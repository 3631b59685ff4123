import DnsForwarder.Name.Basic

/-!
# The text of a name determines the name

Labels hold any bytes, dots and backslashes included, so the text of a name is
read from the left: what stands at the front of a label's text is one byte,
written in one of three ways, and which way it was shows in the first two
characters (`byteText_append_inj`).  No byte is written with a dot or a colon in
front, so a dot in front ends a label and a colon ends the name.

The main statement is `text_append_colon_inj`: also with more text behind a
colon, the name and what follows it can be told apart again.
-/

namespace DnsForwarder.Name

/-! ## One byte -/

theorem toNat_charOfSmall {code : Nat} (h : code < 256) : (Char.ofNat code).toNat = code := by
  rw [Char.ofNat, dif_pos (Or.inl (by omega))]
  rfl

theorem toNat_charOfByte (byte : UInt8) : (Char.ofNat byte.toNat).toNat = byte.toNat :=
  toNat_charOfSmall byte.toNat_lt

theorem charOfByte_inj {one other : UInt8}
    (h : Char.ofNat one.toNat = Char.ofNat other.toNat) : one = other := by
  apply UInt8.toNat_inj.mp
  rw [← toNat_charOfByte one, h, toNat_charOfByte other]

theorem toNat_octalDigit (value : UInt8) : (octalDigit value).toNat = 48 + value.toNat % 8 :=
  toNat_charOfSmall (by omega)

/-- Three octal digits determine a byte. -/
theorem octalDigits_inj {one other : UInt8}
    (hhigh : octalDigit (one / 64) = octalDigit (other / 64))
    (hmiddle : octalDigit (one / 8) = octalDigit (other / 8))
    (hlow : octalDigit one = octalDigit other) : one = other := by
  have hone := one.toNat_lt
  have hother := other.toNat_lt
  have hhigh := congrArg Char.toNat hhigh
  have hmiddle := congrArg Char.toNat hmiddle
  have hlow := congrArg Char.toNat hlow
  simp only [toNat_octalDigit, UInt8.toNat_div, UInt8.reduceToNat] at hhigh hmiddle hlow
  apply UInt8.toNat_inj.mp
  omega

/-- The bytes that are written without a backslash. -/
theorem isPlain_iff {first : Bool} {byte : UInt8} :
    isPlain first byte = true ↔
      (48 ≤ byte.toNat ∧ byte.toNat ≤ 57) ∨ (65 ≤ byte.toNat ∧ byte.toNat ≤ 90) ∨
        (97 ≤ byte.toNat ∧ byte.toNat ≤ 122) ∨ byte.toNat = 95 ∨
        (byte.toNat = 45 ∧ first = false) ∨ (byte.toNat = 42 ∧ first = true) := by
  simp only [isPlain, Bool.or_eq_true, Bool.and_eq_true, decide_eq_true_eq, beq_iff_eq,
    UInt8.le_iff_toNat_le, ← UInt8.toNat_inj, UInt8.reduceToNat, Bool.not_eq_true', or_assoc]

/-- A byte is written as itself, behind a backslash, or as three octal digits
behind a backslash; in the second case it is no digit. -/
theorem byteText_cases (first : Bool) (byte : UInt8) :
    (byteText first byte = [Char.ofNat byte.toNat] ∧ byte.toNat ≠ 92 ∧ byte.toNat ≠ 46 ∧
        byte.toNat ≠ 58) ∨
      (byteText first byte = ['\\', Char.ofNat byte.toNat] ∧
        ¬ (48 ≤ byte.toNat ∧ byte.toNat ≤ 57)) ∨
      byteText first byte = ['\\', octalDigit (byte / 64), octalDigit (byte / 8),
        octalDigit byte] := by
  unfold byteText
  split
  · rename_i hplain
    have := isPlain_iff.mp hplain
    exact Or.inl ⟨rfl, by omega⟩
  · rename_i hplain
    rw [isPlain_iff] at hplain
    split
    · exact Or.inr (Or.inl ⟨rfl, by omega⟩)
    · exact Or.inr (Or.inr rfl)

/-- A byte's text begins neither with a dot nor with a colon. -/
theorem head_byteText (first : Bool) (byte : UInt8) (rest : List Char) :
    ∃ c text, byteText first byte ++ rest = c :: text ∧ c ≠ '.' ∧ c ≠ ':' := by
  rcases byteText_cases first byte with ⟨h, _, hdot, hcolon⟩ | ⟨h, _⟩ | h
  · refine ⟨_, _, by rw [h]; rfl, ?_, ?_⟩
    · intro hc
      exact hdot ((toNat_charOfByte byte).symm.trans (congrArg Char.toNat hc))
    · intro hc
      exact hcolon ((toNat_charOfByte byte).symm.trans (congrArg Char.toNat hc))
  · exact ⟨_, _, by rw [h]; rfl, by decide, by decide⟩
  · exact ⟨_, _, by rw [h]; rfl, by decide, by decide⟩

private theorem backslash_ne_charOfByte {byte : UInt8} (hbyte : byte.toNat ≠ 92) :
    '\\' ≠ Char.ofNat byte.toNat := by
  intro h
  exact hbyte ((toNat_charOfByte byte).symm.trans (congrArg Char.toNat h).symm)

private theorem octalDigit_ne_charOfByte {byte value : UInt8}
    (hbyte : ¬ (48 ≤ byte.toNat ∧ byte.toNat ≤ 57)) :
    octalDigit value ≠ Char.ofNat byte.toNat := by
  intro h
  have := congrArg Char.toNat h
  rw [toNat_octalDigit, toNat_charOfByte] at this
  omega

/-- What stands in front of a label's text is one byte, and which one. -/
theorem byteText_append_inj {first : Bool} {one other : UInt8} {rest more : List Char}
    (h : byteText first one ++ rest = byteText first other ++ more) :
    one = other ∧ rest = more := by
  rcases byteText_cases first one with ⟨h₁, hone, _⟩ | ⟨h₁, hone⟩ | h₁ <;>
    rcases byteText_cases first other with ⟨h₂, hother, _⟩ | ⟨h₂, hother⟩ | h₂ <;>
    simp only [h₁, h₂, List.cons_append, List.nil_append, List.cons.injEq, true_and] at h
  · exact ⟨charOfByte_inj h.1, h.2⟩
  · exact absurd h.1.symm (backslash_ne_charOfByte hone)
  · exact absurd h.1.symm (backslash_ne_charOfByte hone)
  · exact absurd h.1 (backslash_ne_charOfByte hother)
  · exact ⟨charOfByte_inj h.1, h.2⟩
  · exact absurd h.1.symm (octalDigit_ne_charOfByte hone)
  · exact absurd h.1 (backslash_ne_charOfByte hother)
  · exact absurd h.1 (octalDigit_ne_charOfByte hother)
  · exact ⟨octalDigits_inj h.1 h.2.1 h.2.2.1, h.2.2.2⟩

/-! ## Labels -/

private theorem bytesText_append_dot_inj :
    ∀ {one other : Bytes} {rest more : List Char},
      one.flatMap (byteText false) ++ '.' :: rest = other.flatMap (byteText false) ++ '.' :: more →
        one = other ∧ rest = more := by
  intro one
  induction one with
  | nil =>
      intro other rest more h
      cases other with
      | nil => exact ⟨rfl, by simpa using h⟩
      | cons byte other =>
          obtain ⟨c, text, hc, hdot, _⟩ := head_byteText false byte
            (other.flatMap (byteText false) ++ '.' :: more)
          rw [List.flatMap_cons, List.append_assoc, hc] at h
          exact absurd (List.cons.inj h).1.symm hdot
  | cons byte one ih =>
      intro other rest more h
      cases other with
      | nil =>
          obtain ⟨c, text, hc, hdot, _⟩ := head_byteText false byte
            (one.flatMap (byteText false) ++ '.' :: rest)
          rw [List.flatMap_cons, List.append_assoc, hc] at h
          exact absurd (List.cons.inj h).1 hdot
      | cons byte' other =>
          rw [List.flatMap_cons, List.flatMap_cons, List.append_assoc, List.append_assoc] at h
          obtain ⟨rfl, htail⟩ := byteText_append_inj h
          obtain ⟨rfl, hrest⟩ := ih htail
          exact ⟨rfl, hrest⟩

theorem labelText_append_dot_inj {one other : Bytes} {rest more : List Char}
    (hone : one ≠ []) (hother : other ≠ [])
    (h : labelText one ++ '.' :: rest = labelText other ++ '.' :: more) :
    one = other ∧ rest = more := by
  obtain ⟨byte, one, rfl⟩ := List.exists_cons_of_ne_nil hone
  obtain ⟨byte', other, rfl⟩ := List.exists_cons_of_ne_nil hother
  simp only [labelText, List.append_assoc] at h
  obtain ⟨rfl, htail⟩ := byteText_append_inj h
  obtain ⟨rfl, hrest⟩ := bytesText_append_dot_inj htail
  exact ⟨rfl, hrest⟩

/-- The characters of some labels, each followed by a dot. -/
def labelsText (labels : List Bytes) : List Char :=
  labels.flatMap fun label => labelText label ++ ['.']

theorem labelsText_cons (label : Bytes) (labels : List Bytes) (rest : List Char) :
    labelsText (label :: labels) ++ rest =
      labelText label ++ '.' :: (labelsText labels ++ rest) := by
  simp [labelsText]

/-- A label's text begins neither with a dot nor with a colon. -/
theorem head_labelsText {label : Bytes} (hlabel : label ≠ []) (labels : List Bytes)
    (rest : List Char) :
    ∃ c text, labelsText (label :: labels) ++ rest = c :: text ∧ c ≠ '.' ∧ c ≠ ':' := by
  obtain ⟨byte, label, rfl⟩ := List.exists_cons_of_ne_nil hlabel
  rw [labelsText_cons, labelText, List.append_assoc]
  exact head_byteText true byte _

theorem labelsText_append_colon_inj :
    ∀ {one other : List Bytes} {rest more : List Char},
      (∀ label ∈ one, label ≠ []) → (∀ label ∈ other, label ≠ []) →
      labelsText one ++ ':' :: rest = labelsText other ++ ':' :: more →
        one = other ∧ rest = more := by
  intro one
  induction one with
  | nil =>
      intro other rest more _ hother h
      cases other with
      | nil => exact ⟨rfl, by simpa [labelsText] using h⟩
      | cons label other =>
          obtain ⟨c, text, hc, _, hcolon⟩ :=
            head_labelsText (hother label List.mem_cons_self) other (':' :: more)
          rw [hc] at h
          exact absurd (List.cons.inj h).1.symm hcolon
  | cons label one ih =>
      intro other rest more hone hother h
      cases other with
      | nil =>
          obtain ⟨c, text, hc, _, hcolon⟩ :=
            head_labelsText (hone label List.mem_cons_self) one (':' :: rest)
          rw [hc] at h
          exact absurd (List.cons.inj h).1 hcolon
      | cons label' other =>
          rw [labelsText_cons, labelsText_cons] at h
          obtain ⟨rfl, htail⟩ := labelText_append_dot_inj (hone label List.mem_cons_self)
            (hother label' List.mem_cons_self) h
          obtain ⟨rfl, hrest⟩ := ih (fun _ hmem => hone _ (List.mem_cons_of_mem _ hmem))
            (fun _ hmem => hother _ (List.mem_cons_of_mem _ hmem)) htail
          exact ⟨rfl, hrest⟩

/-! ## Names -/

theorem labels_inj {one other : Name} (h : one.labels = other.labels) : one = other := by
  cases one
  cases other
  cases h
  rfl

theorem label_ne_nil (name : Name) : ∀ label ∈ name.labels, label ≠ [] := by
  intro label hmem
  exact List.ne_nil_of_length_pos (name.allowed.1 label hmem).1

theorem toList_text_of_isRoot {name : Name} (h : name.labels = []) : name.text.toList = ['.'] := by
  unfold text
  rw [h]
  rfl

theorem toList_text_of_ne_nil {name : Name} (h : name.labels ≠ []) :
    name.text.toList = labelsText name.labels := by
  unfold text
  split
  · exact absurd ‹_› h
  · exact String.toList_ofList

/-- The text of a name can be told apart from what follows it behind a colon,
and it determines the name. -/
theorem text_append_colon_inj {one other : Name} {rest more : List Char}
    (h : one.text.toList ++ ':' :: rest = other.text.toList ++ ':' :: more) :
    one = other ∧ rest = more := by
  by_cases hone : one.labels = [] <;> by_cases hother : other.labels = []
  · rw [toList_text_of_isRoot hone, toList_text_of_isRoot hother] at h
    exact ⟨labels_inj (hone.trans hother.symm), by simpa using h⟩
  · obtain ⟨label, labels, hlabels⟩ := List.exists_cons_of_ne_nil hother
    obtain ⟨c, text, hc, hdot, _⟩ := head_labelsText
      (other.label_ne_nil label (hlabels ▸ List.mem_cons_self)) labels (':' :: more)
    rw [toList_text_of_isRoot hone, toList_text_of_ne_nil hother, hlabels, hc] at h
    exact absurd (List.cons.inj h).1.symm hdot
  · obtain ⟨label, labels, hlabels⟩ := List.exists_cons_of_ne_nil hone
    obtain ⟨c, text, hc, hdot, _⟩ := head_labelsText
      (one.label_ne_nil label (hlabels ▸ List.mem_cons_self)) labels (':' :: rest)
    rw [toList_text_of_isRoot hother, toList_text_of_ne_nil hone, hlabels, hc] at h
    exact absurd (List.cons.inj h).1 hdot
  · rw [toList_text_of_ne_nil hone, toList_text_of_ne_nil hother] at h
    obtain ⟨hlabels, hrest⟩ :=
      labelsText_append_colon_inj one.label_ne_nil other.label_ne_nil h
    exact ⟨labels_inj hlabels, hrest⟩

end DnsForwarder.Name
