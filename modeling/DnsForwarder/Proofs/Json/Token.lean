import DnsForwarder.Json.Printer
import DnsForwarder.Json.Token
import Mathlib

/-!
# Words of JSON read back from their text

`tokens?` takes a text apart into words.  A string in quotes is one word, whatever its characters
are (`tokens?_quoted`), and the digits of an integer of 64 bits are one word, unless what stands
behind them goes on as a number (`tokens?_integer`).

A number is refused if no number of double precision is near it.  Integers of 64 bits pass: they
have less than 118 bits in any unit that is chosen for them, so that neither they nor their product
with one come near the largest number (`exists_ofQuotient`).
-/

namespace DnsForwarder

namespace Text

theorem isSome_of_mem_readDigits {base start value : Nat} {text : List Char} {c : Char}
    (h : readDigits base start text = some value) (hc : c ∈ text) :
    (digitIn? base c).isSome = true := by
  induction text generalizing start with
  | nil => cases hc
  | cons first rest ih =>
      rw [readDigits] at h
      cases hdigit : digitIn? base first with
      | none =>
          rw [hdigit] at h
          cases h
      | some digit =>
          rw [hdigit] at h
          rcases List.mem_cons.mp hc with rfl | hrest
          · rw [hdigit]
            rfl
          · exact ih h hrest

theorem readDigits_digits {base : Nat} (hlarge : 1 < base) (hsmall : base ≤ 16) (value : Nat) :
    readDigits base 0 (digits base value) = some value := by
  have h := ofDigits?_digits hlarge hsmall value
  rwa [ofDigits?, if_neg (by simpa using digits_ne_nil hlarge)] at h

theorem isDecimal_of_mem_digits {value : Nat} {c : Char} (hc : c ∈ digits 10 value) :
    isDecimal c = true :=
  isSome_of_mem_readDigits (readDigits_digits (by decide) (by decide) value) hc

theorem le_of_readDigits {base start value : Nat} (hbase : 0 < base) {text : List Char}
    (h : readDigits base start text = some value) : start ≤ value := by
  induction text generalizing start with
  | nil => exact (Option.some.inj h).le
  | cons c rest ih =>
      rw [readDigits] at h
      split at h
      · exact (Nat.le_mul_of_pos_right start hbase).trans ((Nat.le_add_right _ _).trans (ih h))
      · cases h

end Text

namespace Binary64

theorem exponentOf_le (numerator denominator : Nat) :
    exponentOf numerator denominator ≤
      max ((Nat.log2 numerator : Int) - Nat.log2 denominator - 52) lowestExponent := by
  unfold exponentOf
  dsimp only
  split <;> omega

theorem le_exponentOf (numerator denominator : Nat) :
    (Nat.log2 numerator : Int) - Nat.log2 denominator - 53 ≤ exponentOf numerator denominator := by
  unfold exponentOf
  dsimp only
  split <;> omega

theorem roundedQuotient_le (numerator denominator : Nat) :
    roundedQuotient numerator denominator ≤ numerator + 1 := by
  have hquotient : numerator / denominator ≤ numerator := Nat.div_le_self _ _
  unfold roundedQuotient
  dsimp only
  split <;> omega

/-- A quotient is finite if its numerator is far below the largest number.  Its mantissa is not
much larger than the numerator in the units of the smaller steps. -/
theorem exists_ofQuotient (negative : Bool) {numerator denominator : Nat}
    (hnumerator : Nat.log2 numerator < 250) :
    ∃ mantissa exponent, ofQuotient negative numerator denominator =
        finite negative mantissa exponent ∧
      exponentOf numerator denominator ≤ exponent ∧
      exponent ≤ exponentOf numerator denominator + 1 ∧
      mantissa ≤ (inUnits numerator denominator (exponentOf numerator denominator)).1 + 1 := by
  have hle := exponentOf_le numerator denominator
  have hrounded := roundedQuotient_le
    (inUnits numerator denominator (exponentOf numerator denominator)).1
    (inUnits numerator denominator (exponentOf numerator denominator)).2
  have hbound : exponentOf numerator denominator + 1 ≤ highestExponent := by
    simp only [highestExponent, lowestExponent] at *
    omega
  unfold ofQuotient
  dsimp only
  split
  · rename_i hcarry
    rw [if_neg (by dsimp only; omega)]
    refine ⟨_, _, rfl, by omega, le_rfl, ?_⟩
    rw [hcarry] at hrounded
    exact le_trans (show twoTo 52 ≤ twoTo 53 by decide) hrounded
  · rw [if_neg (by dsimp only; omega)]
    exact ⟨_, _, rfl, le_rfl, by omega, hrounded⟩

/-- Integers of 64 bits are finite. -/
theorem exists_ofNat {value : Nat} (hvalue : value < twoTo 64) :
    ∃ mantissa exponent, ofNat value = finite false mantissa exponent ∧
      Nat.log2 mantissa < 118 ∧ exponent ≤ 12 := by
  unfold ofNat ofScaled
  split
  · exact ⟨0, lowestExponent, rfl, by decide, by decide⟩
  · rename_i hpositive
    have hlog : Nat.log2 value < 64 := (Nat.log2_lt hpositive).mpr hvalue
    have hunit : value * twoTo (0 : Int).toNat = value := Nat.mul_one value
    rw [if_pos le_rfl, hunit]
    obtain ⟨mantissa, exponent, hfinite, hlow, hhigh, hmantissa⟩ :=
      @exists_ofQuotient false value 1 (by omega)
    have hle := exponentOf_le value 1
    have hge := le_exponentOf value 1
    have hone : Nat.log2 1 = 0 := by decide
    rw [hone] at hle hge
    refine ⟨mantissa, exponent, hfinite, ?_, ?_⟩
    -- the unit is at least `2 ^ -53`
    · have hscaled : (inUnits value 1 (exponentOf value 1)).1 ≤ value * 2 ^ 53 := by
        unfold inUnits
        split
        · exact Nat.le_mul_of_pos_right value (by decide)
        · exact Nat.mul_le_mul_left value (Nat.pow_le_pow_right (by decide) (by omega))
      by_cases hzero : mantissa = 0
      · rw [hzero]
        decide
      · refine (Nat.log2_lt hzero).mpr ?_
        have : value < 2 ^ 64 := hvalue
        omega
    · simp only [lowestExponent] at hle
      omega

end Binary64

namespace Json

/-- Integers of 64 bits are numbers of JSON. -/
theorem fitsDouble_natural {value : Nat} (hvalue : value < twoTo 64) :
    fitsDouble value 0 = true := by
  have hone : Binary64.ofNat (tenTo (0 : Int).toNat) = .finite false (2 ^ 52) (-52) := by decide
  obtain ⟨mantissa, exponent, hfinite, hmantissa, hexponent⟩ := Binary64.exists_ofNat hvalue
  unfold fitsDouble
  rw [hone, hfinite]
  split
  · rfl
  · rw [if_neg (by decide), Binary64.times, Binary64.ofScaled]
    split
    · rfl
    · rename_i hpositive
      have hlog : Nat.log2 (mantissa * 2 ^ 52) < 250 := by
        refine (Nat.log2_lt hpositive).mpr ?_
        have hsmall : mantissa < 2 ^ 118 :=
          (Nat.log2_lt (by rintro rfl; exact hpositive (Nat.zero_mul _))).mp hmantissa
        calc mantissa * 2 ^ 52 < 2 ^ 118 * 2 ^ 52 := Nat.mul_lt_mul_of_pos_right hsmall (by decide)
          _ ≤ 2 ^ 250 := by rw [← pow_add]; exact Nat.pow_le_pow_right (by decide) (by decide)
      rw [if_neg (by omega)]
      obtain ⟨_, _, hproduct, _⟩ :=
        @Binary64.exists_ofQuotient (false != false) _ (twoTo (-(exponent + -52)).toNat) hlog
      rw [hproduct]
      rfl

/-! ## Strings -/

theorem stringContent?_quote (rest : List Char) :
    stringContent? ('"' :: rest) = some ([], rest) := by
  rw [stringContent?, if_pos rfl]

theorem stringContent?_backslash {c : Char} {text rest : List Char}
    (h : unescape? text = some (c, rest)) :
    stringContent? ('\\' :: text) =
      (stringContent? rest).map fun found => (c :: found.1, found.2) := by
  rw [stringContent?, if_neg (by decide), if_pos rfl]
  split
  · rename_i hnone
    rw [h] at hnone
    cases hnone
  · rename_i hsome
    rw [h] at hsome
    cases hsome
    rfl

/-- A control character is written as the hexadecimal digits of its code. -/
theorem unescape?_control {c : Char} (hc : c.toNat < 32) (rest : List Char) :
    unescape? ('u' :: '0' :: '0' :: Text.digitChar (c.toNat / 16) ::
      Text.digitChar (c.toNat % 16) :: rest) = some (c, rest) := by
  have hunit : ∀ code : Fin 32, hexUnit? '0' '0' (Text.digitChar (code / 16))
      (Text.digitChar (code % 16)) = some code.val := by decide
  have hcode : hexUnit? '0' '0' (Text.digitChar (c.toNat / 16)) (Text.digitChar (c.toNat % 16)) =
      some c.toNat := hunit ⟨c.toNat, hc⟩
  simp only [unescape?, hcode]
  rw [if_neg (by omega), if_neg (by omega), Char.ofNat_toNat]

theorem stringContent?_escape (c : Char) (text : List Char) :
    stringContent? (escape c ++ text) =
      (stringContent? text).map fun found => (c :: found.1, found.2) := by
  unfold escape
  split_ifs with hquote hbackslash hback hform hline hreturn htab hcontrol
  any_goals
    subst c
    exact stringContent?_backslash rfl
  · exact stringContent?_backslash (unescape?_control hcontrol text)
  · rw [List.singleton_append, stringContent?, if_neg hquote, if_neg hbackslash, if_neg hcontrol]

theorem stringContent?_flatMap_escape (content rest : List Char) :
    stringContent? (content.flatMap escape ++ '"' :: rest) = some (content, rest) := by
  induction content with
  | nil => exact stringContent?_quote rest
  | cons c content ih =>
      rw [List.flatMap_cons, List.append_assoc, stringContent?_escape, ih]
      rfl

/-! ## Numbers -/

/-- The characters that a number can go on with behind its digits. -/
def continuesNumber (c : Char) : Bool := Text.isDecimal c || c == '.' || c == 'e' || c == 'E'

/-- Whether a number that stands in front of a text ends there. -/
def EndsNumber (rest : List Char) : Prop := ∀ c ∈ rest.head?, continuesNumber c = false

theorem spanDigits_digits {value : Nat} {rest : List Char} (hrest : EndsNumber rest) :
    spanDigits (Text.digits 10 value ++ rest) = (Text.digits 10 value, rest) := by
  have hall : ∀ c ∈ Text.digits 10 value, Text.isDecimal c = true :=
    fun c hc => Text.isDecimal_of_mem_digits hc
  rw [spanDigits, List.takeWhile_append_of_pos hall, List.dropWhile_append_of_pos hall]
  cases rest with
  | nil => simp
  | cons c rest =>
      have hstop := hrest c rfl
      simp only [continuesNumber, Bool.or_eq_false_iff] at hstop
      simp [hstop.1.1.1]

theorem fractionPart?_of_ends {rest : List Char} (hrest : EndsNumber rest) :
    fractionPart? rest = some ([], rest) := by
  unfold fractionPart?
  split
  · exact absurd (hrest '.' rfl) (by decide)
  · rfl

theorem exponentPart?_of_ends {rest : List Char} (hrest : EndsNumber rest) :
    exponentPart? rest = some (none, rest) := by
  cases rest with
  | nil => rfl
  | cons c rest =>
      have hstop := hrest c rfl
      rw [exponentPart?, if_neg]
      rintro (rfl | rfl) <;> exact absurd hstop (by decide)

/-- Digits of a number of 64 bits all fit. -/
theorem takeDigits_of_readDigits {start value : Nat} {text : List Char}
    (h : Text.readDigits 10 start text = some value) (hvalue : value < twoTo 64) :
    takeDigits start text = (value, []) := by
  induction text generalizing start with
  | nil =>
      rw [takeDigits, Option.some.inj h]
  | cons c rest ih =>
      rw [Text.readDigits] at h
      cases hdigit : Text.digitIn? 10 c with
      | none =>
          rw [hdigit] at h
          cases h
      | some digit =>
          rw [hdigit] at h
          dsimp only at h
          have hle := Text.le_of_readDigits (by decide) h
          rw [takeDigits, hdigit]
          dsimp only [Option.getD_some]
          rw [Nat.mul_comm, if_pos (by omega)]
          exact ih h

theorem significand_digits {value : Nat} (hvalue : value < twoTo 64) :
    significand (Text.digits 10 value) [] 0 = (value, 0) := by
  have hdigits := takeDigits_of_readDigits
    (Text.readDigits_digits (by decide) (by decide) value) hvalue
  simp [significand, hdigits, takeDigits]

/-- An integer of 64 bits is read back from its digits. -/
theorem number?_digits {negative : Bool} {value : Nat} {rest : List Char}
    (hvalue : value < twoTo 64) (hzero : ¬(negative = true ∧ value = 0))
    (hrest : EndsNumber rest) :
    number? negative (Text.digits 10 value ++ rest) =
      some (.integer (if negative then -(value : Int) else value), rest) := by
  have hplain : ¬((Text.digits 10 value).head? = some '0' ∧ (Text.digits 10 value).length ≠ 1) := by
    rintro ⟨hhead, hlength⟩
    by_cases hnone : value = 0
    · rw [hnone] at hlength
      exact absurd rfl hlength
    · exact Text.head?_digits_ne (by decide) (by decide) hnone hhead
  have hsome : Text.digits 10 value ≠ [] := Text.digits_ne_nil (by decide)
  unfold number?
  rw [spanDigits_digits hrest]
  split
  · rename_i hnone
    exact absurd (Prod.mk.inj hnone).1 hsome
  · rename_i digits behind hparts
    obtain ⟨rfl, rfl⟩ := Prod.mk.inj hparts
    rw [if_neg hplain, fractionPart?_of_ends hrest]
    dsimp only
    rw [exponentPart?_of_ends hrest]
    dsimp only [Option.getD_none]
    rw [List.append_nil, Text.ofDigits?_digits (by decide) (by decide)]
    simp [significand_digits hvalue, fitsDouble_natural hvalue, hzero]

/-! ## Tokens -/

theorem tokens?_cons {c : Char} {rest after : List Char} {token : Token}
    (hblank : isBlank c = false) (h : token? c rest = some (token, after)) :
    tokens? (c :: rest) = (tokens? after).map (token :: ·) := by
  rw [tokens?, hblank, if_neg (by decide)]
  split
  · rename_i hnone
    rw [h] at hnone
    cases hnone
  · rename_i hsome
    rw [h] at hsome
    cases hsome
    rfl

theorem tokens?_blanks {blanks : List Char} (hblanks : ∀ c ∈ blanks, isBlank c = true)
    (rest : List Char) : tokens? (blanks ++ rest) = tokens? rest := by
  induction blanks with
  | nil => rfl
  | cons c blanks ih =>
      rw [List.cons_append, tokens?, hblanks c List.mem_cons_self, if_pos rfl]
      exact ih fun other hother => hblanks other (List.mem_cons_of_mem c hother)

theorem tokens?_lineBreak (depth : Nat) (rest : List Char) :
    tokens? (lineBreak depth ++ rest) = tokens? rest := by
  refine tokens?_blanks (fun c hc => ?_) rest
  rcases List.mem_cons.mp hc with rfl | hspace
  · rfl
  · rw [List.eq_of_mem_replicate hspace]
    rfl

theorem tokens?_quoted (text : String) (rest : List Char) :
    tokens? (quoted text ++ rest) = (tokens? rest).map (.string text :: ·) := by
  have hcontent := stringContent?_flatMap_escape text.toList rest
  simp only [quoted, List.cons_append, List.append_assoc, List.nil_append]
  refine tokens?_cons rfl ?_
  simp only [token?, hcontent, Option.map_some, String.ofList_toList]

theorem isBlank_of_isDecimal {c : Char} (hc : Text.isDecimal c = true) : isBlank c = false := by
  by_contra hblank
  simp only [Bool.not_eq_false, isBlank, Bool.or_eq_true, beq_iff_eq] at hblank
  rcases hblank with ((rfl | rfl) | rfl) | rfl <;> exact absurd hc (by decide)

theorem token?_of_isDecimal {c : Char} (hc : Text.isDecimal c = true) (rest : List Char) :
    token? c rest = number? false (c :: rest) := by
  unfold token?
  split
  -- the other words begin with characters that are no digits
  case h_12 => rfl
  all_goals exact absurd hc (by decide)

theorem tokens?_integer {value : Int} (hvalue : value.natAbs < twoTo 64) {rest : List Char}
    (hrest : EndsNumber rest) :
    tokens? (Text.integer value ++ rest) = (tokens? rest).map (.integer value :: ·) := by
  unfold Text.integer
  split
  · rename_i hnegative
    rw [List.cons_append]
    refine tokens?_cons rfl ?_
    have hread := @number?_digits true _ _ hvalue (by omega) hrest
    rw [if_pos rfl, show -(value.natAbs : Int) = value by omega] at hread
    exact hread
  · rename_i hnatural
    obtain ⟨c, digits, hdigits⟩ :=
      List.exists_cons_of_ne_nil (@Text.digits_ne_nil 10 value.natAbs (by decide))
    have hc : Text.isDecimal c = true :=
      Text.isDecimal_of_mem_digits (hdigits ▸ List.mem_cons_self)
    have hread := @number?_digits false _ _ hvalue (by simp) hrest
    rw [if_neg (by decide), show (value.natAbs : Int) = value by omega, hdigits,
      List.cons_append, ← token?_of_isDecimal hc] at hread
    rw [hdigits, List.cons_append]
    exact tokens?_cons (isBlank_of_isDecimal hc) hread

end Json
end DnsForwarder
