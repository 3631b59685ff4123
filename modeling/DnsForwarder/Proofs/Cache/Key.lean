import DnsForwarder.Cache.Key
import DnsForwarder.Proofs.Name.Text
import DnsForwarder.Text.Split
import Mathlib.Data.List.Forall2

/-!
# What a key says about its request

`questionKey_eq_iff` takes a key apart.  Its fields are separated by colons.  The
name may hold colons, but only escaped ones; the mnemonics hold none.  So two
keys are equal exactly if they agree field by field.

For the name that means equality up to case.  For the type and the class it
means equal mnemonics, which is less than equal numbers: all numbers without a
mnemonic are written alike (`RecordType.text_eq_iff`, `RecordClass.text_eq_iff`).  So
a request whose type and class have mnemonics shares its key exactly with those that
ask the same and with the same flags (`requestKey?_eq_iff`).
-/

namespace DnsForwarder

/-! ## Mnemonics -/

theorem mem_of_lookup_eq_some {table : List (UInt16 × String)} {code : UInt16} {text : String}
    (h : table.lookup code = some text) : (code, text) ∈ table := by
  obtain ⟨front, back, rfl, _⟩ := List.lookup_eq_some_iff.mp h
  exact List.mem_append_right _ List.mem_cons_self

/-- Numbers are told apart by the texts of a table if its texts differ and none
of them is the one for missing numbers. -/
theorem lookup_getD_eq_iff {table : List (UInt16 × String)} {missing : String}
    (hdistinct : ∀ one ∈ table, ∀ other ∈ table, one.2 = other.2 → one.1 = other.1)
    (hmissing : ∀ entry ∈ table, entry.2 ≠ missing) (one other : UInt16) :
    (table.lookup one).getD missing = (table.lookup other).getD missing ↔
      one = other ∨ (table.lookup one = none ∧ table.lookup other = none) := by
  constructor
  · intro h
    cases hone : table.lookup one <;> cases hother : table.lookup other <;>
      simp only [hone, hother, Option.getD_none, Option.getD_some] at h
    · exact Or.inr ⟨rfl, rfl⟩
    · exact absurd h.symm (hmissing _ (mem_of_lookup_eq_some hother))
    · exact absurd h (hmissing _ (mem_of_lookup_eq_some hone))
    · exact Or.inl
        (hdistinct _ (mem_of_lookup_eq_some hone) _ (mem_of_lookup_eq_some hother) h)
  · rintro (rfl | ⟨hone, hother⟩)
    · rfl
    · rw [hone, hother]

theorem colon_not_mem_lookup_getD {table : List (UInt16 × String)} {missing : String}
    (htable : ∀ entry ∈ table, ':' ∉ entry.2.toList) (hmissing : ':' ∉ missing.toList)
    (code : UInt16) : ':' ∉ ((table.lookup code).getD missing).toList := by
  cases h : table.lookup code with
  | none => exact hmissing
  | some text => exact htable _ (mem_of_lookup_eq_some h)

namespace RecordType

/-- A type with a mnemonic. -/
def Assigned (kind : RecordType) : Prop := (assigned.lookup kind.code).isSome

instance (kind : RecordType) : Decidable kind.Assigned :=
  inferInstanceAs (Decidable (_ = true))

theorem text_eq_iff (one other : RecordType) :
    one.text = other.text ↔ one = other ∨ (¬ one.Assigned ∧ ¬ other.Assigned) := by
  have hcode : one = other ↔ one.code = other.code :=
    ⟨congrArg code, fun h => by cases one; cases other; exact congrArg mk h⟩
  rw [hcode, Assigned, Assigned, Option.not_isSome_iff_eq_none, Option.not_isSome_iff_eq_none]
  exact lookup_getD_eq_iff (by decide +kernel) (by decide +kernel) one.code other.code

/-- A type that is not written like those without a mnemonic has one. -/
theorem assigned_of_text_ne {kind : RecordType} (h : kind.text ≠ "Unknown") : kind.Assigned := by
  by_contra hmissing
  rw [Assigned, Option.not_isSome_iff_eq_none] at hmissing
  exact h (by rw [text, hmissing, Option.getD_none])

theorem colon_not_mem_text (kind : RecordType) : ':' ∉ kind.text.toList := by
  exact colon_not_mem_lookup_getD (by decide +kernel) (by decide +kernel) kind.code

end RecordType

namespace RecordClass

/-- A class with a mnemonic. -/
def Assigned (cls : RecordClass) : Prop := (assigned.lookup cls.code).isSome

instance (cls : RecordClass) : Decidable cls.Assigned :=
  inferInstanceAs (Decidable (_ = true))

theorem text_eq_iff (one other : RecordClass) :
    one.text = other.text ↔ one = other ∨ (¬ one.Assigned ∧ ¬ other.Assigned) := by
  have hcode : one = other ↔ one.code = other.code :=
    ⟨congrArg code, fun h => by cases one; cases other; exact congrArg mk h⟩
  rw [hcode, Assigned, Assigned, Option.not_isSome_iff_eq_none, Option.not_isSome_iff_eq_none]
  exact lookup_getD_eq_iff (by decide +kernel) (by decide +kernel) one.code other.code

/-- The five classes with a mnemonic. -/
theorem assigned_of_mem {cls : RecordClass} (h : cls.code ∈ [1, 3, 4, 254, 255]) :
    cls.Assigned := by
  simp only [List.mem_cons, List.not_mem_nil, or_false] at h
  rw [Assigned]
  rcases h with h | h | h | h | h <;> rw [h] <;> decide

theorem colon_not_mem_text (cls : RecordClass) : ':' ∉ cls.text.toList := by
  exact colon_not_mem_lookup_getD (by decide +kernel) (by decide +kernel) cls.code

end RecordClass

/-! ## Names -/

/-- The same names have the same number of labels, which agree in turn up to the case of
ASCII letters. -/
theorem Name.sameName_iff_forall₂ (one other : Name) :
    one.SameName other ↔
      List.Forall₂ (fun label twin => label.map lowerByte = twin.map lowerByte)
        one.labels other.labels := by
  have hlabels : one.lower = other.lower ↔
      lowerLabels one.labels = lowerLabels other.labels :=
    ⟨congrArg labels, @labels_inj one.lower other.lower⟩
  rw [SameName, hlabels, lowerLabels, lowerLabels, ← List.forall₂_eq_eq_eq,
    List.forall₂_map_left_iff, List.forall₂_map_right_iff]

namespace Cache

/-! ## Keys -/

theorem bit_inj {one other : Bool} : bit one = bit other ↔ one = other := by
  cases one <;> cases other <;> decide

/-- Text without a colon can be told apart from what follows it behind one. -/
theorem append_colon_inj {one other rest more : List Char} (hone : ':' ∉ one)
    (hother : ':' ∉ other) (h : one ++ ':' :: rest = other ++ ':' :: more) :
    one = other ∧ rest = more := by
  have hsplit := congrArg (Text.splitOn ':') h
  rw [Text.splitOn_append hone, Text.splitOn_append hother] at hsplit
  obtain rfl := (List.cons.inj hsplit).1
  exact ⟨rfl, (List.cons.inj (List.append_cancel_left h)).2⟩

/-- The flags of a key. -/
def flagsText (hasEdns dnssecOk checkingDisabled : Bool) : List Char :=
  "edns=".toList ++ ((bit hasEdns).toList ++ (":do=".toList ++ ((bit dnssecOk).toList ++
    (":cd=".toList ++ (bit checkingDisabled).toList))))

/-- The characters of a key: its fields with colons between them. -/
theorem toList_questionKey (question : Question) (hasEdns dnssecOk checkingDisabled : Bool) :
    (questionKey question hasEdns dnssecOk checkingDisabled).toList =
      "aufloes:q:".toList ++ (question.name.lower.text.toList ++
        ':' :: (question.kind.text.toList ++ ':' :: (question.cls.text.toList ++
          ':' :: flagsText hasEdns dnssecOk checkingDisabled))) := by
  have hcolon : ":".toList = [':'] := rfl
  have hedns : ":edns=".toList = ':' :: "edns=".toList := rfl
  unfold questionKey flagsText
  simp only [String.toList_append, List.append_assoc, hcolon, hedns, List.cons_append,
    List.nil_append]

private theorem append_bit_inj {one other : Bool} {rest more : List Char}
    (h : (bit one).toList ++ rest = (bit other).toList ++ more) : one = other ∧ rest = more := by
  cases one <;> cases other <;> simp_all [bit]

theorem flagsText_inj {e d c e' d' c' : Bool} (h : flagsText e d c = flagsText e' d' c') :
    e = e' ∧ d = d' ∧ c = c' := by
  obtain ⟨hedns, h₁⟩ := append_bit_inj (List.append_cancel_left h)
  obtain ⟨hdnssec, h₂⟩ := append_bit_inj (List.append_cancel_left h₁)
  have hchecking := String.toList_inj.mp (List.append_cancel_left h₂)
  exact ⟨hedns, hdnssec, bit_inj.mp hchecking⟩

/-- Two keys are equal exactly if all their fields are. -/
theorem questionKey_eq_iff (one other : Question) (e d c e' d' c' : Bool) :
    questionKey one e d c = questionKey other e' d' c' ↔
      one.name.SameName other.name ∧ one.kind.text = other.kind.text ∧
        one.cls.text = other.cls.text ∧ e = e' ∧ d = d' ∧ c = c' := by
  constructor
  · intro h
    have hkey := congrArg String.toList h
    rw [toList_questionKey, toList_questionKey] at hkey
    obtain ⟨hname, hkey₁⟩ := Name.text_append_colon_inj (List.append_cancel_left hkey)
    obtain ⟨hkind, hkey₂⟩ := append_colon_inj one.kind.colon_not_mem_text
      other.kind.colon_not_mem_text hkey₁
    obtain ⟨hcls, hkey₃⟩ := append_colon_inj one.cls.colon_not_mem_text
      other.cls.colon_not_mem_text hkey₂
    exact ⟨hname, String.toList_inj.mp hkind, String.toList_inj.mp hcls, flagsText_inj hkey₃⟩
  · rintro ⟨hname, hkind, hcls, rfl, rfl, rfl⟩
    unfold Name.SameName at hname
    unfold questionKey
    rw [hname, hkind, hcls]

/-- Only a standard query with a single question has a key. -/
theorem requestKey?_eq_some_iff {request : Message} {key : String} :
    requestKey? request = some key ↔
      ∃ question, request.header.opcode = .query ∧ request.questions = [question] ∧
        key = questionKey question request.edns.isSome (request.edns.any Edns.dnssecOk)
          request.header.checkingDisabled := by
  unfold requestKey?
  split
  · rename_i question hopcode hquestions
    rw [hopcode, hquestions]
    simp [eq_comm]
  · rename_i hno
    simp only [reduceCtorEq, false_iff]
    rintro ⟨question, hopcode, hquestions, _⟩
    exact hno question hopcode hquestions

/-! ## Requests -/

/-- **Which requests share a key.**  Requests with keys have one question each.  If type
and class of the one have mnemonics, the keys are equal exactly if the names agree label
by label up to case, type and class are the same, and so are the presence of an OPT
record and the two flags. -/
theorem requestKey?_eq_iff {request other : Message} {key otherKey : String}
    (hrequest : requestKey? request = some key) (hother : requestKey? other = some otherKey)
    (hkinds : ∀ question ∈ request.questions, question.kind.text ≠ "Unknown")
    (hclasses : ∀ question ∈ request.questions, question.cls.code ∈ [1, 3, 4, 254, 255]) :
    ∃ question twin, request.questions = [question] ∧ other.questions = [twin] ∧
      (key = otherKey ↔
        List.Forall₂ (fun label spelled => label.map Name.lowerByte = spelled.map Name.lowerByte)
            question.name.labels twin.name.labels ∧
          question.kind = twin.kind ∧ question.cls = twin.cls ∧
          request.edns.isSome = other.edns.isSome ∧
          request.edns.any Edns.dnssecOk = other.edns.any Edns.dnssecOk ∧
          request.header.checkingDisabled = other.header.checkingDisabled) := by
  obtain ⟨question, _, hquestion, rfl⟩ := requestKey?_eq_some_iff.mp hrequest
  obtain ⟨twin, _, htwin, rfl⟩ := requestKey?_eq_some_iff.mp hother
  refine ⟨question, twin, hquestion, htwin, ?_⟩
  have hmem : question ∈ request.questions := hquestion ▸ List.mem_singleton_self question
  have hkind : question.kind.Assigned := RecordType.assigned_of_text_ne (hkinds question hmem)
  have hcls : question.cls.Assigned := RecordClass.assigned_of_mem (hclasses question hmem)
  -- with a mnemonic on one side, equal texts mean equal numbers
  have hkindText : question.kind.text = twin.kind.text ↔ question.kind = twin.kind :=
    (RecordType.text_eq_iff _ _).trans (or_iff_left fun h => h.1 hkind)
  have hclsText : question.cls.text = twin.cls.text ↔ question.cls = twin.cls :=
    (RecordClass.text_eq_iff _ _).trans (or_iff_left fun h => h.1 hcls)
  rw [questionKey_eq_iff, Name.sameName_iff_forall₂, hkindText, hclsText]

/-- A query for the addresses of a name. -/
def addressQuery (name : Name) : Message where
  header := ⟨1, false, .query, false, false, true, false, false, false, ⟨0, by decide⟩⟩
  questions := [⟨name, .a, ⟨1⟩⟩]
  answers := []
  authorities := []
  additionals := []
  edns := none

/-- The labels `a.:` and `\`. -/
def dottedName : Name := ⟨[[97, 46, 58], [92]], by decide⟩

def dottedUpperName : Name := ⟨[[65, 46, 58], [92]], by decide⟩

/-- The labels `a`, `:` and `\`, of which the text would be the same without escapes. -/
def partedName : Name := ⟨[[97], [58], [92]], by decide⟩

theorem requestKey?_eq_iff_escaped :
    requestKey? (addressQuery dottedUpperName) = requestKey? (addressQuery dottedName) ∧
      requestKey? (addressQuery dottedUpperName) ≠ requestKey? (addressQuery partedName) := by
  constructor
  · obtain ⟨question, twin, hquestion, htwin, hkeys⟩ := @requestKey?_eq_iff
      (addressQuery dottedUpperName) (addressQuery dottedName) _ _ rfl rfl (by decide +kernel)
      (by decide)
    obtain rfl := List.singleton_inj.mp hquestion
    obtain rfl := List.singleton_inj.mp htwin
    exact congrArg some (hkeys.mpr ⟨by decide, rfl, rfl, rfl, rfl, rfl⟩)
  · obtain ⟨question, twin, hquestion, htwin, hkeys⟩ := @requestKey?_eq_iff
      (addressQuery dottedUpperName) (addressQuery partedName) _ _ rfl rfl (by decide +kernel)
      (by decide)
    obtain rfl := List.singleton_inj.mp hquestion
    obtain rfl := List.singleton_inj.mp htwin
    intro hsame
    exact absurd (hkeys.mp (Option.some.inj hsame)).1 (by decide)

end Cache

end DnsForwarder
