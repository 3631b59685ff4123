import Mathlib
import DnsForwarder.Name.Wire

/-!
# Writers whose output can be read back

`Faithful writer read part` says that `read` gets `part` back from what `writer`
writes, wherever in a message that stands and whatever follows it.

## Strategy

What a writer writes depends on the suffixes that stand before it, so reading it
back needs that they really stand there: `Suffixes.Sound`.  This is the invariant
of writing, and `Faithful` includes that the writer preserves it.  `Faithful.bind`
joins two parts; with it the proof for a writer follows the steps of its reader.

A part may be at most 65535 bytes long, since the length of record data is written
as a word.  Only `Faithful.sized` makes use of this.
-/

namespace DnsForwarder.Wire

/-! ## Suffixes that stand in a message -/

/-- A pointer to `target` from behind `front` leads to `labels`, in every message
that begins with `front`. -/
def Stands (front : Bytes) (target : Nat) (labels : List Bytes) : Prop :=
  target < front.length ∧ target < 0x4000 ∧
    ∀ (tail : Bytes) (limit : Nat), front.length ≤ limit →
      ∃ after, readLabels (front ++ tail) target (some limit) target
        ((front ++ tail).drop target) = some (labels, after)

theorem Stands.append {front : Bytes} {target : Nat} {labels : List Bytes}
    (h : Stands front target labels) (more : Bytes) : Stands (front ++ more) target labels := by
  obtain ⟨hinside, hpointer, hread⟩ := h
  refine ⟨?_, hpointer, fun tail limit hlimit => ?_⟩
  · rw [List.length_append]
    omega
  · rw [List.length_append] at hlimit
    rw [List.append_assoc]
    exact hread (more ++ tail) limit (by omega)

/-- All known suffixes stand in `front`. -/
def Suffixes.Sound (front : Bytes) (known : Suffixes) : Prop :=
  ∀ entry ∈ known, Stands front entry.1 entry.2

theorem Suffixes.Sound.append {front : Bytes} {known : Suffixes} (h : known.Sound front)
    (more : Bytes) : known.Sound (front ++ more) :=
  fun entry hentry => (h entry hentry).append more

namespace Writer

/-- What is written behind `front`. -/
def output (writer : Writer) (front : Bytes) (known : Suffixes) : Bytes :=
  (writer.run front.length known).1

/-- The suffixes known behind what is written behind `front`. -/
def suffixes (writer : Writer) (front : Bytes) (known : Suffixes) : Suffixes :=
  (writer.run front.length known).2

variable (front : Bytes) (known : Suffixes)

@[simp] theorem output_bytes (content : Bytes) : (bytes content).output front known = content :=
  rfl

@[simp] theorem suffixes_bytes (content : Bytes) : (bytes content).suffixes front known = known :=
  rfl

@[simp] theorem output_append (first second : Writer) :
    (first ++ second).output front known = first.output front known ++
      second.output (front ++ first.output front known) (first.suffixes front known) := by
  rw [output, run_append, output, output, List.length_append]
  rfl

@[simp] theorem suffixes_append (first second : Writer) :
    (first ++ second).suffixes front known =
      second.suffixes (front ++ first.output front known) (first.suffixes front known) := by
  rw [suffixes, run_append, suffixes, output, List.length_append]
  rfl

theorem ext_run {first second : Writer}
    (h : ∀ offset known, first.run offset known = second.run offset known) : first = second := by
  cases first
  cases second
  congr
  funext offset known
  exact h offset known

protected theorem append_assoc (first second third : Writer) :
    first ++ second ++ third = first ++ (second ++ third) := by
  refine ext_run fun offset known => ?_
  simp only [run_append, List.length_append, List.append_assoc, Nat.add_assoc]

protected theorem append_nothing (writer : Writer) : writer ++ nothing = writer := by
  refine ext_run fun offset known => ?_
  simp [run_append, nothing, bytes]

protected theorem nothing_append (writer : Writer) : nothing ++ writer = writer := by
  refine ext_run fun offset known => ?_
  simp [run_append, nothing, bytes]

theorem concat_append (first second : List Writer) :
    concat (first ++ second) = concat first ++ concat second := by
  induction first with
  | nil => exact (Writer.nothing_append _).symm
  | cons writer first ih => rw [List.cons_append, concat, concat, ih, Writer.append_assoc]

theorem bytes_append (first second : Bytes) :
    bytes (first ++ second) = bytes first ++ bytes second :=
  rfl

/-- The writer leaves behind only suffixes that stand in the message. -/
def KeepsSound (writer : Writer) : Prop :=
  ∀ front known, known.Sound front →
    (writer.suffixes front known).Sound (front ++ writer.output front known)

theorem bytes_keepsSound (content : Bytes) : (bytes content).KeepsSound :=
  fun _ _ hknown => hknown.append content

theorem KeepsSound.append {first second : Writer} (hfirst : first.KeepsSound)
    (hsecond : second.KeepsSound) : (first ++ second).KeepsSound := by
  intro front known hknown
  rw [output_append, suffixes_append, ← List.append_assoc]
  exact hsecond _ _ (hfirst front known hknown)

theorem KeepsSound.sized {writer : Writer} (h : writer.KeepsSound) : writer.sized.KeepsSound := by
  intro front known hknown
  have hbody := h (front ++ bytes16 (UInt16.ofNat (writer.run (front.length + 2) known).1.length))
    known (hknown.append _)
  rw [suffixes, output, List.length_append, List.append_assoc] at hbody
  exact hbody

end Writer

/-! ## Reading back -/

/-- From what `writer` writes `read` gets `part` and stops right behind it. -/
structure Faithful {Part : Type} (writer : Writer)
    (read : Bytes → Cursor → Option (Part × Cursor)) (part : Part) : Prop where
  sound : writer.KeepsSound
  reads : ∀ (front : Bytes) (known : Suffixes) (tail : Bytes), known.Sound front →
    (writer.output front known).length < 65536 →
      read (front ++ writer.output front known ++ tail)
          ⟨front.length, writer.output front known ++ tail⟩ =
        some (part, ⟨(front ++ writer.output front known).length, tail⟩)

namespace Faithful

variable {Part Other : Type} {first second : Writer} {part : Part} {other : Other}
  {read : Bytes → Cursor → Option (Part × Cursor)}

/-- Reading two parts that were written one behind the other. -/
theorem bind {next : Bytes → Part × Cursor → Option (Other × Cursor)}
    (hfirst : Faithful first read part)
    (hsecond : Faithful second (fun message cursor => next message (part, cursor)) other) :
    Faithful (first ++ second) (fun message cursor => (read message cursor).bind (next message))
      other := by
  refine ⟨hfirst.sound.append hsecond.sound, fun front known tail hknown hlength => ?_⟩
  rw [Writer.output_append, List.length_append] at hlength
  have hread := hfirst.reads front known
    (second.output (front ++ first.output front known) (first.suffixes front known) ++ tail)
    hknown (by omega)
  have hrest := hsecond.reads (front ++ first.output front known) (first.suffixes front known)
    tail (hfirst.sound front known hknown) (by omega)
  simp only [Writer.output_append, List.append_assoc] at hread hrest ⊢
  rw [hread, Option.bind_some]
  exact hrest

/-- Nothing more is read. -/
theorem pure (part : Part) :
    Faithful .nothing (fun _ cursor => some (part, cursor)) part := by
  refine ⟨Writer.bytes_keepsSound [], fun front known tail hknown _ => ?_⟩
  simp [Writer.nothing]

/-- Reading the last part of several. -/
theorem last {next : Part × Cursor → Option (Other × Cursor)}
    (h : Faithful first read part) (hnext : ∀ cursor, next (part, cursor) = some (other, cursor)) :
    Faithful first (fun message cursor => (read message cursor).bind next) other := by
  rw [← Writer.append_nothing first]
  refine @bind _ _ _ _ _ _ _ (fun _ => next) h ?_
  simp only [hnext]
  exact pure other

/-- A test that the part passed when it was read. -/
theorem passing {failed : Prop} [Decidable failed]
    {stop : Bytes → Cursor → Option (Part × Cursor)} (hpassed : ¬ failed)
    (h : Faithful first read part) :
    Faithful first
      (fun message cursor => if failed then stop message cursor else read message cursor) part := by
  simpa only [if_neg hpassed] using h

/-- A value that what was read so far determines. -/
theorem given {Value : Type} {found : Option Value} {value : Value}
    {next : Value → Bytes → Cursor → Option (Part × Cursor)} (hfound : found = some value)
    (h : Faithful first (next value) part) :
    Faithful first (fun message cursor => found.bind fun value => next value message cursor)
      part := by
  rw [hfound]
  exact h

theorem word (value : UInt16) : Faithful (.word value) (fun _ cursor => cursor.word) value :=
  ⟨Writer.bytes_keepsSound _, fun front known tail _ _ => by
    rw [Writer.word, Writer.output_bytes, Cursor.word_bytes16, List.length_append,
      length_bytes16]⟩

theorem long (value : UInt32) : Faithful (.long value) (fun _ cursor => cursor.long) value :=
  ⟨Writer.bytes_keepsSound _, fun front known tail _ _ => by
    rw [Writer.long, Writer.output_bytes, Cursor.long_bytes32, List.length_append,
      length_bytes32]⟩

theorem take (content : Bytes) :
    Faithful (.bytes content) (fun _ cursor => cursor.take content.length) content :=
  ⟨Writer.bytes_keepsSound _, fun front known tail _ _ => by
    rw [Writer.output_bytes, Cursor.take_append, List.length_append]⟩

theorem octet (byte : UInt8) : Faithful (.bytes [byte]) (fun _ cursor => cursor.octet) byte :=
  ⟨Writer.bytes_keepsSound _, fun front known tail _ _ => by
    rw [Writer.output_bytes, List.length_append]
    rfl⟩

theorem characterString {string : Bytes} (hstring : string.length < 256) :
    Faithful (.bytes (characterBytes string)) (fun _ cursor => cursor.characterString) string := by
  refine ⟨Writer.bytes_keepsSound _, fun front known tail _ _ => ?_⟩
  have hsize : (UInt8.ofNat string.length).toNat = string.length :=
    UInt8.toNat_ofNat_of_lt' hstring
  rw [Writer.output_bytes, characterBytes, Cursor.characterString]
  change Cursor.take (UInt8.ofNat string.length).toNat ⟨front.length + 1, string ++ tail⟩ = _
  rw [hsize, Cursor.take_append, List.length_append, List.length_cons, Nat.add_assoc,
    Nat.add_comm 1]

/-- A part behind the word that holds the number of its bytes. -/
theorem sized {next : Bytes → UInt16 × Cursor → Option (Part × Cursor)}
    (hsound : first.KeepsSound)
    (hreads : ∀ (size : UInt16) (front : Bytes) (known : Suffixes) (tail : Bytes),
      known.Sound front → size.toNat = (first.output front known).length →
        next (front ++ first.output front known ++ tail)
            (size, ⟨front.length, first.output front known ++ tail⟩) =
          some (part, ⟨(front ++ first.output front known).length, tail⟩)) :
    Faithful first.sized (fun message cursor => cursor.word.bind (next message)) part := by
  refine ⟨hsound.sized, fun front known tail hknown hlength => ?_⟩
  -- the part is written behind a gap of two bytes, which its length fills
  obtain ⟨body, hbody⟩ : ∃ body, (first.run (front.length + 2) known).1 = body := ⟨_, rfl⟩
  have houtput : first.sized.output front known = bytes16 (UInt16.ofNat body.length) ++ body := by
    rw [← hbody]
    rfl
  have hinner : first.output (front ++ bytes16 (UInt16.ofNat body.length)) known = body := by
    rw [Writer.output, List.length_append, length_bytes16, hbody]
  rw [houtput, List.length_append, length_bytes16] at hlength
  have hsize : (UInt16.ofNat body.length).toNat = body.length := by
    rw [UInt16.toNat_ofNat']
    omega
  have hread := hreads (UInt16.ofNat body.length) (front ++ bytes16 (UInt16.ofNat body.length))
    known tail (hknown.append _) (by rw [hinner, hsize])
  rw [hinner] at hread
  rw [houtput, List.append_assoc, Cursor.word_bytes16, Option.bind_some]
  simpa [List.append_assoc, Nat.add_assoc] using hread

end Faithful

end DnsForwarder.Wire
