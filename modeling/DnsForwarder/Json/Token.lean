import DnsForwarder.Number.Binary64
import DnsForwarder.Text.Digits

/-!
# JSON tokens

The words of a JSON text: punctuation, the three names, numbers and strings.
Blanks between them are skipped.  A number has no leading zero, digits on both
sides of its point, and digits in its exponent; one that no double-precision
number can hold is refused.  A string holds no control character, and a pair of
escapes for one character outside the basic plane has to be complete.
-/

namespace DnsForwarder.Json

inductive Token
  | openArray
  | closeArray
  | openObject
  | closeObject
  | comma
  | colon
  | null
  | bool (value : Bool)
  | integer (value : Int)
  | decimal (digits : Int) (exponent : Int)
  | string (value : String)
deriving DecidableEq, Repr

/-! ## Strings -/

def hexUnit? (a b c d : Char) : Option Nat := Text.ofDigits? 16 [a, b, c, d]

/-- The character an escape stands for, read behind its backslash. -/
def unescape? : List Char → Option (Char × List Char)
  | '"' :: rest => some ('"', rest)
  | '\\' :: rest => some ('\\', rest)
  | '/' :: rest => some ('/', rest)
  | 'b' :: rest => some ('\x08', rest)
  | 'f' :: rest => some ('\x0c', rest)
  | 'n' :: rest => some ('\n', rest)
  | 'r' :: rest => some ('\r', rest)
  | 't' :: rest => some ('\t', rest)
  | 'u' :: a :: b :: c :: d :: rest =>
    match hexUnit? a b c d with
    | none => none
    | some unit =>
      if 0xD800 ≤ unit ∧ unit < 0xDC00 then
        match rest with
        | '\\' :: 'u' :: e :: f :: g :: h :: rest =>
          match hexUnit? e f g h with
          | none => none
          | some low =>
            if 0xDC00 ≤ low ∧ low < 0xE000 then
              some (Char.ofNat (0x10000 + (unit - 0xD800) * 1024 + (low - 0xDC00)), rest)
            else none
        | _ => none
      else if 0xDC00 ≤ unit ∧ unit < 0xE000 then none
      else some (Char.ofNat unit, rest)
  | _ => none

theorem length_unescape? {text rest : List Char} {c : Char}
    (found : unescape? text = some (c, rest)) : rest.length < text.length := by
  unfold unescape? at found
  split at found
  case h_9 =>
    split at found
    · cases found
    · split at found
      · split at found
        · split at found
          · cases found
          · split at found
            · obtain ⟨-, rfl⟩ := Prod.mk.inj (Option.some.inj found)
              simp only [List.length_cons]
              omega
            · cases found
        · cases found
      · split at found
        · cases found
        · obtain ⟨-, rfl⟩ := Prod.mk.inj (Option.some.inj found)
          simp only [List.length_cons]
          omega
  all_goals first | (cases found; done) | (cases found; simp)

/-- The content of a string up to its closing quote, and what is behind that. -/
def stringContent? : List Char → Option (List Char × List Char)
  | [] => none
  | c :: rest =>
    if c = '"' then some ([], rest)
    else if c = '\\' then
      match _ : unescape? rest with
      | none => none
      | some (c, rest) => (stringContent? rest).map fun (content, rest) => (c :: content, rest)
    else if c.toNat < 32 then none
    else (stringContent? rest).map fun (content, rest) => (c :: content, rest)
termination_by text => text.length
decreasing_by
  · rename_i found
    have := length_unescape? found
    simp only [List.length_cons]
    omega
  · simp

theorem length_stringContent? {text content rest : List Char}
    (found : stringContent? text = some (content, rest)) : rest.length < text.length := by
  fun_induction stringContent? text generalizing content rest
  case case1 => cases found
  case case2 => cases found; simp
  case case3 => cases found
  case case4 inner _ ih =>
    obtain ⟨⟨content', rest'⟩, shape, same⟩ := Option.map_eq_some_iff.mp found
    cases same
    have := ih shape
    have := length_unescape? inner
    simp only [List.length_cons]
    omega
  case case5 => cases found
  case case6 ih =>
    obtain ⟨⟨content', rest'⟩, shape, same⟩ := Option.map_eq_some_iff.mp found
    cases same
    have := ih shape
    simp only [List.length_cons]
    omega

/-! ## Numbers -/

/-- The digits a text starts with, and the rest. -/
def spanDigits (text : List Char) : List Char × List Char :=
  (text.takeWhile Text.isDecimal, text.dropWhile Text.isDecimal)

theorem length_spanDigits (text : List Char) :
    (spanDigits text).1.length + (spanDigits text).2.length = text.length := by
  rw [← List.length_append]
  exact congrArg List.length List.takeWhile_append_dropWhile

/-- Whether a minus sign stands in front, and what is behind the sign. -/
def signPart : List Char → Bool × List Char
  | '-' :: rest => (true, rest)
  | '+' :: rest => (false, rest)
  | rest => (false, rest)

theorem length_signPart (text : List Char) : (signPart text).2.length ≤ text.length := by
  unfold signPart
  split <;> simp

/-- What an exponent adds to the power of ten. -/
def exponentPart? : List Char → Option (Option Int × List Char)
  | [] => some (none, [])
  | mark :: rest =>
    if mark = 'e' ∨ mark = 'E' then
      let digits := spanDigits (signPart rest).2
      (Text.ofDigits? 10 digits.1).map fun value =>
        (some (if (signPart rest).1 then -(value : Int) else value), digits.2)
    else some (none, mark :: rest)

/-- The digits behind a point, none without a point. -/
def fractionPart? : List Char → Option (List Char × List Char)
  | '.' :: rest =>
    match spanDigits rest with
    | ([], _) => none
    | (digits, rest) => some (digits, rest)
  | rest => some ([], rest)

/-- The number that digits make behind `value` as far as it fits 64 bits, and the
digits from the first on that does not fit. -/
def takeDigits (value : Nat) : List Char → Nat × List Char
  | [] => (value, [])
  | c :: rest =>
    let longer := 10 * value + (Text.digitIn? 10 c).getD 0
    if longer < twoTo 64 then takeDigits longer rest else (value, c :: rest)

/-- A number's significand of at most 64 bits and the power of ten it is multiplied
by.  Digits that do not fit count as places in front of the point and not at all
behind it. -/
def significand (digits fraction : List Char) (exponent : Int) : Nat × Int :=
  let front := takeDigits 0 digits
  let back := takeDigits front.1 fraction
  (back.1, exponent + front.2.length - ((fraction.length : Int) - back.2.length))

/-- Whether a double can hold `value · 10 ^ exponent`, where value and power are
rounded before they are multiplied. -/
def fitsDouble (value : Nat) (exponent : Int) : Bool :=
  if value = 0 ∨ exponent < 0 then true
  else if 308 < exponent then false
  else ((Binary64.ofNat value).times (Binary64.ofNat (tenTo exponent.toNat))).isFinite

/-- The number that starts with these digits. -/
def number? (negative : Bool) (text : List Char) : Option (Token × List Char) :=
  match spanDigits text with
  | ([], _) => none
  | (digits, rest) =>
    if digits.head? = some '0' ∧ digits.length ≠ 1 then none
    else
      match fractionPart? rest with
      | none => none
      | some (fraction, rest) =>
        match exponentPart? rest with
        | none => none
        | some (exponent, rest) =>
          match Text.ofDigits? 10 (digits ++ fraction) with
          | none => none
          | some value =>
            let rounded := significand digits fraction (exponent.getD 0)
            if ¬fitsDouble rounded.1 rounded.2 then none
            else
              let signed : Int := if negative then -(value : Int) else value
              -- minus zero is no integer
              if fraction.isEmpty ∧ exponent.isNone ∧ ¬(negative ∧ value = 0) then
                some (.integer signed, rest)
              else some (.decimal signed (exponent.getD 0 - fraction.length), rest)

theorem length_exponentPart? {text rest : List Char} {exponent : Option Int}
    (found : exponentPart? text = some (exponent, rest)) : rest.length ≤ text.length := by
  unfold exponentPart? at found
  split at found
  · cases found; simp
  · rename_i mark tail
    split at found
    · obtain ⟨value, _, same⟩ := Option.map_eq_some_iff.mp found
      cases same
      have := length_spanDigits (signPart tail).2
      have := length_signPart tail
      simp only [List.length_cons]
      omega
    · cases found; simp

theorem length_fractionPart? {text rest fraction : List Char}
    (found : fractionPart? text = some (fraction, rest)) : rest.length ≤ text.length := by
  unfold fractionPart? at found
  split at found
  · rename_i tail
    have := length_spanDigits tail
    split at found
    · cases found
    · rename_i digits rest' shape
      cases found
      rw [shape] at this
      simp only [List.length_cons] at *
      omega
  · cases found; simp

theorem length_number? {negative : Bool} {text rest : List Char} {token : Token}
    (found : number? negative text = some (token, rest)) : rest.length < text.length := by
  unfold number? at found
  have whole := length_spanDigits text
  split at found
  · cases found
  · rename_i digits tail notEmpty shape
    rw [shape] at whole
    have positive : 0 < digits.length := by
      rcases digits with _ | ⟨digit, digits⟩
      · exact absurd rfl notEmpty
      · simp
    simp only at whole
    split at found
    · cases found
    · split at found
      · cases found
      · rename_i fractionShape
        have := length_fractionPart? fractionShape
        split at found
        · cases found
        · rename_i exponentShape
          have := length_exponentPart? exponentShape
          split at found
          · cases found
          · simp only at found
            split at found
            · cases found
            · split at found
              · cases found; omega
              · cases found; omega

/-! ## Tokens -/

def isBlank (c : Char) : Bool := c == ' ' || c == '\n' || c == '\t' || c == '\r'

/-- The token that starts with `c`. -/
def token? (c : Char) (rest : List Char) : Option (Token × List Char) :=
  match c with
  | '[' => some (.openArray, rest)
  | ']' => some (.closeArray, rest)
  | '\x7b' => some (.openObject, rest)
  | '\x7d' => some (.closeObject, rest)
  | ',' => some (.comma, rest)
  | ':' => some (.colon, rest)
  | '"' => (stringContent? rest).map fun (content, rest) => (.string (String.ofList content), rest)
  | '-' => number? true rest
  | 'n' =>
    match rest with
    | 'u' :: 'l' :: 'l' :: rest => some (.null, rest)
    | _ => none
  | 't' =>
    match rest with
    | 'r' :: 'u' :: 'e' :: rest => some (.bool true, rest)
    | _ => none
  | 'f' =>
    match rest with
    | 'a' :: 'l' :: 's' :: 'e' :: rest => some (.bool false, rest)
    | _ => none
  | c => number? false (c :: rest)

theorem length_token? {c : Char} {rest after : List Char} {token : Token}
    (found : token? c rest = some (token, after)) : after.length ≤ rest.length := by
  unfold token? at found
  split at found
  case h_7 =>
    obtain ⟨⟨content, tail⟩, shape, same⟩ := Option.map_eq_some_iff.mp found
    cases same
    exact Nat.le_of_lt (length_stringContent? shape)
  case h_8 => exact Nat.le_of_lt (length_number? found)
  case h_12 =>
    have := length_number? found
    simp only [List.length_cons] at this
    omega
  all_goals first
    | (cases found; exact Nat.le_refl _)
    | (split at found
       · cases found; simp only [List.length_cons]; omega
       · cases found)

/-- All tokens of a text. -/
def tokens? : List Char → Option (List Token)
  | [] => some []
  | c :: rest =>
    if isBlank c then tokens? rest
    else
      match _ : token? c rest with
      | none => none
      | some (token, rest) => (tokens? rest).map (token :: ·)
termination_by text => text.length
decreasing_by
  · simp
  · rename_i found
    have := length_token? found
    simp only [List.length_cons]
    omega

end DnsForwarder.Json
