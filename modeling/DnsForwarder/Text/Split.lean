/-!
# Taking text apart at a separator

`splitOn` gives the parts between the separators, so one more than there are
separators; joining them with the separator gives the text back.
-/

namespace DnsForwarder.Text

def splitOn (separator : Char) : List Char → List (List Char)
  | [] => [[]]
  | c :: rest =>
    if c = separator then [] :: splitOn separator rest
    else
      match splitOn separator rest with
      | [] => [[c]]
      | first :: others => (c :: first) :: others

def joinWith (separator : List Char) : List (List Char) → List Char
  | [] => []
  | [part] => part
  | part :: rest => part ++ separator ++ joinWith separator rest

theorem splitOn_ne_nil (separator : Char) (text : List Char) : splitOn separator text ≠ [] := by
  cases text with
  | nil => simp [splitOn]
  | cons c rest =>
    simp only [splitOn]
    split
    · simp
    · split <;> simp

theorem joinWith_splitOn (separator : Char) (text : List Char) :
    joinWith [separator] (splitOn separator text) = text := by
  induction text with
  | nil => rfl
  | cons c rest ih =>
    have shape := splitOn_ne_nil separator rest
    simp only [splitOn]
    split
    · rename_i same
      cases parts : splitOn separator rest with
      | nil => exact absurd parts shape
      | cons part others =>
        rw [parts] at ih
        simp [joinWith, ih, same]
    · cases parts : splitOn separator rest with
      | nil => exact absurd parts shape
      | cons part others =>
        rw [parts] at ih
        cases others <;> simp_all [joinWith]

/-- A part without the separator followed by it is split off whole. -/
theorem splitOn_append {separator : Char} {part : List Char} (clean : separator ∉ part)
    (rest : List Char) :
    splitOn separator (part ++ separator :: rest) = part :: splitOn separator rest := by
  induction part with
  | nil => simp [splitOn]
  | cons c part ih =>
    simp only [List.mem_cons, not_or] at clean
    simp [splitOn, ih clean.2, Ne.symm clean.1]

theorem splitOn_clean {separator : Char} {part : List Char} (clean : separator ∉ part) :
    splitOn separator part = [part] := by
  induction part with
  | nil => rfl
  | cons c part ih =>
    simp only [List.mem_cons, not_or] at clean
    simp [splitOn, ih clean.2, Ne.symm clean.1]

/-- Parts without the separator are found again when they were joined by it. -/
theorem splitOn_joinWith {separator : Char} {parts : List (List Char)} (nonempty : parts ≠ [])
    (clean : ∀ part ∈ parts, separator ∉ part) :
    splitOn separator (joinWith [separator] parts) = parts := by
  induction parts with
  | nil => exact absurd rfl nonempty
  | cons part rest ih =>
    have cleanPart := clean part List.mem_cons_self
    cases rest with
    | nil => exact splitOn_clean cleanPart
    | cons other others =>
      have rejoined := ih (List.cons_ne_nil other others)
        fun one member => clean one (List.mem_cons_of_mem part member)
      have shape : joinWith [separator] (part :: other :: others) =
          part ++ separator :: joinWith [separator] (other :: others) := by
        simp [joinWith]
      rw [shape, splitOn_append cleanPart, rejoined]

/-- The text before the first separator and the text behind it. -/
def splitOnce (separator : Char) : List Char → Option (List Char × List Char)
  | [] => none
  | c :: rest =>
    if c = separator then some ([], rest)
    else (splitOnce separator rest).map fun (front, back) => (c :: front, back)

theorem splitOnce_append {separator : Char} {front : List Char} (clean : separator ∉ front)
    (rest : List Char) : splitOnce separator (front ++ separator :: rest) = some (front, rest) := by
  induction front with
  | nil => simp [splitOnce]
  | cons c front ih =>
    simp only [List.mem_cons, not_or] at clean
    simp [splitOnce, ih clean.2, Ne.symm clean.1]

theorem splitOnce_clean {separator : Char} {text : List Char} (clean : separator ∉ text) :
    splitOnce separator text = none := by
  induction text with
  | nil => rfl
  | cons c text ih =>
    simp only [List.mem_cons, not_or] at clean
    simp [splitOnce, ih clean.2, Ne.symm clean.1]

end DnsForwarder.Text
