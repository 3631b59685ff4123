/-!
# Digits

Reading and writing natural numbers in a base up to sixteen.  Writing uses no
leading zero and lowercase letters; `ofDigits_digits` says that reading undoes
writing.
-/

namespace DnsForwarder.Text

def digitChar (digit : Nat) : Char :=
  if digit < 10 then Char.ofNat (48 + digit) else Char.ofNat (87 + digit)

/-- The value of a digit of either case, below sixteen. -/
def digitValue? (c : Char) : Option Nat :=
  if '0' ≤ c ∧ c ≤ '9' then some (c.toNat - 48)
  else if 'a' ≤ c ∧ c ≤ 'f' then some (c.toNat - 87)
  else if 'A' ≤ c ∧ c ≤ 'F' then some (c.toNat - 55)
  else none

/-- The value of a digit in `base`. -/
def digitIn? (base : Nat) (c : Char) : Option Nat :=
  (digitValue? c).filter (· < base)

def isDecimal (c : Char) : Bool := (digitIn? 10 c).isSome

def isHex (c : Char) : Bool := (digitIn? 16 c).isSome

/-- The digits of a number, the last first; none for zero. -/
def reversedDigits (base : Nat) (value : Nat) : List Char :=
  if 0 < value ∧ 1 < base then
    digitChar (value % base) :: reversedDigits base (value / base)
  else []
termination_by value
decreasing_by rename_i positive; exact Nat.div_lt_self positive.1 positive.2

def digits (base value : Nat) : List Char :=
  if value = 0 then ['0'] else (reversedDigits base value).reverse

def decimal (value : Nat) : String := String.ofList (digits 10 value)

/-- The decimal digits of an integer, behind a minus sign if it is negative. -/
def integer (value : Int) : List Char :=
  if value < 0 then '-' :: digits 10 value.natAbs else digits 10 value.natAbs

/-- Reads digits on from `start`; none if another character is among them. -/
def readDigits (base : Nat) (start : Nat) : List Char → Option Nat
  | [] => some start
  | c :: rest =>
    match digitIn? base c with
    | some digit => readDigits base (start * base + digit) rest
    | none => none

/-- The number that digits stand for; there has to be one at least. -/
def ofDigits? (base : Nat) (text : List Char) : Option Nat :=
  if text.isEmpty then none else readDigits base 0 text

/-! ## Reading undoes writing -/

theorem digitIn?_digitChar {base digit : Nat} (small : base ≤ 16) (fits : digit < base) :
    digitIn? base (digitChar digit) = some digit := by
  have value : ∀ d : Fin 16, digitValue? (digitChar d.val) = some d.val := by decide
  have this := value ⟨digit, by omega⟩
  simp only at this
  simp [digitIn?, this, fits]

theorem readDigits_append (base start : Nat) (front back : List Char) :
    readDigits base start (front ++ back) =
      (readDigits base start front).bind fun value => readDigits base value back := by
  induction front generalizing start with
  | nil => rfl
  | cons c rest ih =>
    simp only [List.cons_append, readDigits]
    cases digitIn? base c with
    | none => rfl
    | some digit => exact ih _

theorem readDigits_reversedDigits {base : Nat} (large : 1 < base) (small : base ≤ 16)
    (value : Nat) : readDigits base 0 (reversedDigits base value).reverse = some value := by
  induction value using Nat.strongRecOn with
  | _ value ih =>
    rw [reversedDigits]
    split
    · rename_i positive
      rw [List.reverse_cons, readDigits_append,
        ih (value / base) (Nat.div_lt_self positive.1 large)]
      simp only [Option.bind_some, readDigits,
        digitIn?_digitChar small (Nat.mod_lt value (by omega))]
      rw [Nat.mul_comm, Nat.div_add_mod]
    · rename_i notPositive
      have : value = 0 := by omega
      simp [readDigits, this]

theorem ofDigits?_digits {base : Nat} (large : 1 < base) (small : base ≤ 16) (value : Nat) :
    ofDigits? base (digits base value) = some value := by
  unfold ofDigits? digits
  by_cases zero : value = 0
  · subst zero
    have : (0 : Nat) < base := by omega
    simp [readDigits, digitIn?, Option.filter, this, show digitValue? '0' = some 0 by decide]
  · have shape : (reversedDigits base value).reverse.isEmpty = false := by
      rw [reversedDigits, if_pos ⟨by omega, large⟩]
      simp
    rw [if_neg zero, shape]
    exact readDigits_reversedDigits large small value

/-! ## What digits are -/

theorem isHex_digitChar {digit : Nat} (fits : digit < 16) : isHex (digitChar digit) = true := by
  simp [isHex, digitIn?_digitChar (Nat.le_refl 16) fits]

theorem isHex_of_mem_digits {base value : Nat} {c : Char} (large : 1 < base) (small : base ≤ 16)
    (member : c ∈ digits base value) : isHex c = true := by
  have reversed : ∀ rest, c ∈ reversedDigits base rest → isHex c = true := by
    intro rest
    induction rest using Nat.strongRecOn with
    | _ rest ih =>
      intro member
      rw [reversedDigits] at member
      split at member
      · rename_i positive
        rcases List.mem_cons.mp member with same | member
        · rw [same]
          exact isHex_digitChar (Nat.lt_of_lt_of_le (Nat.mod_lt rest (by omega)) small)
        · exact ih (rest / base) (Nat.div_lt_self positive.1 large) member
      · cases member
  unfold digits at member
  split at member
  · rw [List.mem_singleton.mp member]
    decide
  · exact reversed value (List.mem_reverse.mp member)

theorem not_mem_digits {base value : Nat} {c : Char} (large : 1 < base) (small : base ≤ 16)
    (other : isHex c = false) : c ∉ digits base value := by
  intro member
  rw [isHex_of_mem_digits large small member] at other
  cases other

theorem digits_ne_nil {base value : Nat} (large : 1 < base) : digits base value ≠ [] := by
  unfold digits
  split
  · simp
  · rw [reversedDigits, if_pos ⟨by omega, large⟩]
    simp

/-- The first digit is zero only of zero. -/
theorem head?_digits_ne {base value : Nat} (large : 1 < base) (small : base ≤ 16)
    (positive : value ≠ 0) : (digits base value).head? ≠ some '0' := by
  rw [digits, if_neg positive, List.head?_reverse]
  induction value using Nat.strongRecOn with
  | _ value ih =>
    rw [reversedDigits, if_pos ⟨by omega, large⟩]
    by_cases one : value / base = 0
    · have nothing : reversedDigits base 0 = [] := by
        rw [reversedDigits]
        simp
      have fits : value < base := (Nat.div_eq_zero_iff.mp one).resolve_left (by omega)
      rw [one, nothing, Nat.mod_eq_of_lt fits]
      have distinct : ∀ digit : Fin 16, digit.val ≠ 0 → digitChar digit.val ≠ '0' := by
        decide
      simpa using distinct ⟨value, by omega⟩ positive
    · have rest := ih (value / base) (Nat.div_lt_self (by omega) large) one
      rw [reversedDigits, if_pos ⟨Nat.pos_of_ne_zero one, large⟩] at rest ⊢
      rw [List.getLast?_cons_cons]
      exact rest

end DnsForwarder.Text
