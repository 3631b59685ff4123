import DnsForwarder.Proofs.Wire.Faithful

/-!
# Names read back from the wire

A name that was written reads back label for label, whether or not it ends in a
pointer (`write_faithful`).

The suffixes of a name are remembered while it is being written, but it never
points into itself: a suffix that is looked up has fewer labels than all that were
added for the same name before.  So every pointer leads to a place in front of the
name, as the reader demands.
-/

namespace DnsForwarder

open Wire

/-! ## One step of writing -/

/-- Writing a name with a first label either ends in a pointer or puts the label
down, and then the remembered suffixes grow by this one at most. -/
theorem writeLabels_cons (form : NameForm) (finish : Nat) (label : Bytes) (labels : List Bytes)
    (offset : Nat) (known : Suffixes) :
    (∃ target, (target, label :: labels) ∈ known ∧
      writeLabels form finish (label :: labels) offset known = (pointerBytes target, known)) ∨
    (∃ more : Suffixes,
      (∀ entry ∈ more, entry ∈ known ∨ entry = (offset, label :: labels) ∧ finish < 0x3FFF) ∧
      writeLabels form finish (label :: labels) offset known =
        (characterBytes label ++
            (writeLabels form finish labels (offset + (label.length + 1)) more).1,
          (writeLabels form finish labels (offset + (label.length + 1)) more).2)) := by
  rw [writeLabels.eq_def]
  dsimp only
  split
  · rename_i target hfound
    left
    obtain ⟨⟨place, suffix⟩, hentry, rfl⟩ := Option.map_eq_some_iff.mp hfound
    have hsuffix : suffix = label :: labels := by simpa using List.find?_some hentry
    exact ⟨place, hsuffix ▸ List.mem_of_find?_eq_some hentry, rfl⟩
  · right
    refine ⟨_, fun entry hentry => ?_, rfl⟩
    split at hentry
    · rename_i hremember
      rcases List.mem_cons.mp hentry with rfl | hold
      · exact Or.inr ⟨rfl, by simpa using (Bool.and_eq_true_iff.mp hremember).2⟩
      · exact Or.inl hold
    · exact Or.inl hentry

/-! ## Reading one step back -/

private theorem not_reached {limit : Option Nat} {offset : Nat}
    (hlimit : ∀ bound ∈ limit, offset < bound) : ¬ limit.any (· ≤ offset) = true := by
  cases limit with
  | none => simp
  | some bound => simpa using hlimit bound rfl

theorem readLabels_zero {message : Bytes} {start : Nat} {limit : Option Nat} {offset : Nat}
    {tail : Bytes} (hlimit : ∀ bound ∈ limit, offset < bound) :
    readLabels message start limit offset (0 :: tail) = some ([], ⟨offset + 1, tail⟩) := by
  rw [readLabels.eq_def]
  dsimp only
  rw [if_neg (not_reached hlimit), if_pos rfl]

theorem readLabels_label {message : Bytes} {start : Nat} {limit : Option Nat} {offset : Nat}
    {label tail : Bytes} (hlimit : ∀ bound ∈ limit, offset < bound)
    (hlabel : 0 < label.length ∧ label.length ≤ 63) :
    readLabels message start limit offset (characterBytes label ++ tail) =
      (readLabels message start limit (offset + (label.length + 1)) tail).map
        fun (labels, after) => (label :: labels, after) := by
  have hsize : (UInt8.ofNat label.length).toNat = label.length := by
    rw [UInt8.toNat_ofNat']
    omega
  have hnonzero : UInt8.ofNat label.length ≠ 0 := by
    intro h
    rw [h] at hsize
    exact absurd hsize (by simpa using Nat.ne_of_lt hlabel.1)
  have hsmall : UInt8.ofNat label.length < 64 := by
    rw [UInt8.lt_iff_toNat_lt, hsize]
    exact Nat.lt_of_le_of_lt hlabel.2 (by decide)
  have hrest : offset + 1 + label.length = offset + (label.length + 1) := by omega
  rw [characterBytes, List.cons_append, readLabels.eq_def]
  dsimp only
  rw [if_neg (not_reached hlimit), if_neg hnonzero, if_pos hsmall, hsize, List.take_left,
    if_pos rfl, List.drop_left, hrest]
  cases readLabels message start limit (offset + (label.length + 1)) tail <;> rfl

theorem readLabels_pointer {message : Bytes} {start : Nat} {limit : Option Nat}
    {offset target : Nat} {tail : Bytes} (hlimit : ∀ bound ∈ limit, offset < bound)
    (htarget : target < 0x4000) (hbefore : target < start) :
    readLabels message start limit offset (pointerBytes target ++ tail) =
      (readLabels message target (some start) target (message.drop target)).map
        fun (labels, _) => (labels, ⟨offset + 2, tail⟩) := by
  have hword : (UInt16.ofNat (0xC000 + target)).toNat = 0xC000 + target := by
    rw [UInt16.toNat_ofNat']
    omega
  obtain ⟨high, hhigh⟩ : ∃ high, UInt8.ofNat ((0xC000 + target) / 256) = high := ⟨_, rfl⟩
  obtain ⟨low, hlow⟩ : ∃ low, UInt8.ofNat (0xC000 + target) = low := ⟨_, rfl⟩
  have hhighNat : high.toNat = 192 + target / 256 := by
    rw [← hhigh, UInt8.toNat_ofNat']
    omega
  have hlowNat : low.toNat = target % 256 := by
    rw [← hlow, UInt8.toNat_ofNat']
    omega
  have hbytes : pointerBytes target ++ tail = high :: low :: tail := by
    rw [pointerBytes, bytes16, hword, hhigh, hlow]
    rfl
  have hnonzero : high ≠ 0 := by
    intro h
    rw [h] at hhighNat
    simp at hhighNat
    omega
  have hlarge : ¬ high < 64 := by
    rw [UInt8.lt_iff_toNat_lt, hhighNat]
    simp
    omega
  have hpointer : 192 ≤ high := by
    rw [UInt8.le_iff_toNat_le, hhighNat]
    simp
  have hplace : (high.toNat - 192) * 256 + low.toNat = target := by omega
  rw [hbytes, readLabels.eq_def]
  dsimp only
  rw [if_neg (not_reached hlimit), if_neg hnonzero, if_neg hlarge, if_pos hpointer]
  simp only [hplace, if_pos hbefore]
  cases readLabels message target (some start) target (message.drop target) <;> rfl

/-! ## Reading a name back -/

theorem readLabels_writeLabels (form : NameForm) (finish : Nat) {front : Bytes} {start : Nat}
    (limit : Option Nat) (hstart : front.length ≤ start) (rest tail : Bytes)
    (labels : List Bytes) (hlabels : ∀ label ∈ labels, 0 < label.length ∧ label.length ≤ 63)
    (offset : Nat) (known : Suffixes)
    (hknown : ∀ entry ∈ known, entry.2.length ≤ labels.length → Stands front entry.1 entry.2)
    (hlimit : ∀ bound ∈ limit,
      offset + (writeLabels form finish labels offset known).1.length ≤ bound) :
    readLabels (front ++ rest) start limit offset
        ((writeLabels form finish labels offset known).1 ++ tail) =
      some (labels, ⟨offset + (writeLabels form finish labels offset known).1.length, tail⟩) := by
  induction labels generalizing offset known with
  | nil =>
      simp only [writeLabels] at hlimit ⊢
      exact readLabels_zero fun bound hbound => hlimit bound hbound
  | cons label labels ih =>
      rcases writeLabels_cons form finish label labels offset known with
        ⟨target, hentry, hwritten⟩ | ⟨more, hmore, hwritten⟩
      · rw [hwritten] at hlimit ⊢
        obtain ⟨hinside, hpointer, hread⟩ := hknown _ hentry (Nat.le_refl _)
        obtain ⟨after, hafter⟩ := hread rest start hstart
        have hplace : ∀ bound ∈ limit, offset < bound := fun bound hbound =>
          Nat.lt_of_lt_of_le (Nat.lt_add_of_pos_right Nat.zero_lt_two) (hlimit bound hbound)
        rw [readLabels_pointer hplace hpointer (Nat.lt_of_lt_of_le hinside hstart), hafter]
        rfl
      · rw [hwritten] at hlimit ⊢
        have hlabel := hlabels label List.mem_cons_self
        have hsizes : (characterBytes label).length = label.length + 1 := rfl
        simp only [List.length_append, hsizes] at hlimit ⊢
        have hplace : ∀ bound ∈ limit, offset < bound := fun bound hbound =>
          Nat.lt_of_lt_of_le (by omega) (hlimit bound hbound)
        have hshorter : ∀ entry ∈ more, entry.2.length ≤ labels.length →
            Stands front entry.1 entry.2 := by
          intro entry hentry hlength
          rcases hmore entry hentry with hold | ⟨rfl, _⟩
          · exact hknown entry hold (Nat.le_succ_of_le hlength)
          -- the suffix that was just remembered is longer than what is left of the name
          · exact absurd hlength (by simp)
        have htail := ih (fun other hother => hlabels other (List.mem_cons_of_mem label hother))
          (offset + (label.length + 1)) more hshorter
          fun bound hbound => by have hbound := hlimit bound hbound; omega
        rw [List.append_assoc, readLabels_label hplace hlabel, htail, Option.map_some]
        simp only [Nat.add_assoc]

theorem writeLabels_ne_nil (form : NameForm) (finish : Nat) (labels : List Bytes) (offset : Nat)
    (known : Suffixes) : (writeLabels form finish labels offset known).1 ≠ [] := by
  cases labels with
  | nil => simp [writeLabels]
  | cons label labels =>
      rcases writeLabels_cons form finish label labels offset known with
        ⟨target, _, hwritten⟩ | ⟨more, _, hwritten⟩
      · simp [hwritten, pointerBytes, bytes16]
      · simp [hwritten, characterBytes]

/-- A pointer takes no more bytes than the labels it stands for. -/
theorem length_writeLabels_le (form : NameForm) (finish : Nat) (labels : List Bytes)
    (offset : Nat) (known : Suffixes) :
    (writeLabels form finish labels offset known).1.length ≤ wireLength labels + 1 := by
  induction labels generalizing offset known with
  | nil => exact Nat.le_refl 1
  | cons label labels ih =>
      rw [wireLength]
      rcases writeLabels_cons form finish label labels offset known with
        ⟨target, _, hwritten⟩ | ⟨more, _, hwritten⟩
      · rw [hwritten, pointerBytes, length_bytes16]
        omega
      · have hrest := ih (offset + (label.length + 1)) more
        rw [hwritten, List.length_append, characterBytes, List.length_cons]
        omega

/-! ## Remembered suffixes -/

theorem stands_writeLabels (form : NameForm) (finish : Nat) {front before : Bytes}
    (hbefore : front <+: before) (labels : List Bytes)
    (hlabels : ∀ label ∈ labels, 0 < label.length ∧ label.length ≤ 63) (known : Suffixes)
    (hknown : ∀ entry ∈ known, entry.2.length ≤ labels.length → Stands front entry.1 entry.2)
    (hpointer : before.length < 0x4000) :
    Stands (before ++ (writeLabels form finish labels before.length known).1) before.length
      labels := by
  have hwritten := List.length_pos_iff.mpr
    (writeLabels_ne_nil form finish labels before.length known)
  refine ⟨?_, hpointer, fun tail limit hlimit => ?_⟩
  · rw [List.length_append]
    omega
  · rw [List.length_append] at hlimit
    have hread := readLabels_writeLabels form finish (some limit) hbefore.length_le
      (before.drop front.length ++ ((writeLabels form finish labels before.length known).1 ++ tail))
      tail labels hlabels before.length known hknown (by rintro bound ⟨⟩; exact hlimit)
    rw [← List.append_assoc, List.prefix_iff_eq_append.mp hbefore] at hread
    refine ⟨_, Eq.trans ?_ hread⟩
    rw [List.append_assoc, List.drop_left]

/-- Every suffix that is remembered stands where it was written. -/
theorem stands_of_mem_writeLabels {form : NameForm} {finish : Nat} {front : Bytes}
    (labels : List Bytes) (hlabels : ∀ label ∈ labels, 0 < label.length ∧ label.length ≤ 63)
    (before : Bytes) (hbefore : front <+: before)
    (hfinish : finish = before.length + wireLength labels) (known : Suffixes)
    (hknown : ∀ entry ∈ known, entry.2.length ≤ labels.length → Stands front entry.1 entry.2) :
    ∀ entry ∈ (writeLabels form finish labels before.length known).2, entry ∈ known ∨
      Stands (before ++ (writeLabels form finish labels before.length known).1)
        entry.1 entry.2 := by
  induction labels generalizing before known with
  | nil => exact fun entry hentry => Or.inl hentry
  | cons label labels ih =>
      have hwhole := stands_writeLabels form finish hbefore
        (label :: labels) hlabels known hknown
      intro entry hentry
      rcases writeLabels_cons form finish label labels before.length known with
        ⟨target, _, hwritten⟩ | ⟨more, hmore, hwritten⟩
      · rw [hwritten] at hentry
        exact Or.inl hentry
      · have hlength : (before ++ characterBytes label).length =
            before.length + (label.length + 1) := by
          rw [List.length_append]
          rfl
        have hshorter : ∀ entry ∈ more, entry.2.length ≤ labels.length →
            Stands front entry.1 entry.2 := by
          intro entry hentry hle
          rcases hmore entry hentry with hold | ⟨rfl, _⟩
          · exact hknown entry hold (Nat.le_succ_of_le hle)
          · exact absurd hle (by simp)
        have htail := ih (fun other hother => hlabels other (List.mem_cons_of_mem label hother))
          (before ++ characterBytes label) (hbefore.trans (List.prefix_append _ _))
          (by rw [hlength, hfinish, wireLength]; omega) more hshorter
        rw [hlength, List.append_assoc] at htail
        rw [hwritten] at hentry hwhole ⊢
        -- the suffix stands in front, begins at this label or begins further behind
        rcases htail entry hentry with hadded | hstands
        · rcases hmore entry hadded with hold | ⟨rfl, hsmall⟩
          · exact Or.inl hold
          · exact Or.inr (hwhole (by omega))
        · exact Or.inr hstands

namespace Name

theorem ofLabels?_labels (name : Name) : ofLabels? name.labels = some name :=
  dif_pos name.allowed

theorem write_faithful (form : NameForm) (name : Name) :
    Faithful (name.write form) read name := by
  have hlabels := name.allowed.1
  refine ⟨fun front known hknown entry hentry => ?_, fun front known tail hknown _ => ?_⟩
  · rcases stands_of_mem_writeLabels name.labels hlabels front (List.prefix_refl front) rfl known
      (fun entry hentry _ => hknown entry hentry) entry hentry with hold | hstands
    · exact (hknown entry hold).append _
    · exact hstands
  · have hread := readLabels_writeLabels form
      (front.length + wireLength name.labels) none (Nat.le_refl front.length)
      ((name.write form).output front known ++ tail) tail name.labels hlabels front.length known
      (fun entry hentry _ => hknown entry hentry) (by simp)
    rw [← List.append_assoc] at hread
    unfold read
    rw [Writer.output, Name.write] at hread ⊢
    simp only [hread, Option.bind_eq_bind, Option.bind_some, ofLabels?_labels,
      List.length_append]
    rfl

end Name

end DnsForwarder
