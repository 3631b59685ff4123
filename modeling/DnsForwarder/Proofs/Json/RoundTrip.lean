import DnsForwarder.Json.Parser
import DnsForwarder.Proofs.Json.Token

/-!
# JSON read back from its indented text

Values that the parser can hold are read back from their indented text (`parse?_indented`).  They
are the plain ones: with integers of 64 bits as their only numbers, and not nested too deep.

The tokens of a value (`words`) stand between its text and itself.  The text stands for these
tokens (`standsFor_indentedText`), whatever the indentation is; only a number has to know what
follows it, and what follows a value in a text is a line break or punctuation.  Of the tokens the
parser makes the value again (`value?_words`), for there are at least half as many tokens as it
takes steps.
-/

namespace DnsForwarder.Json

/-- Values that are read back: nested at most so deep, with no numbers but integers of 64 bits. -/
inductive Plain : Nat → Json → Prop
  | null {depth : Nat} : Plain depth null
  | bool {depth : Nat} (value : Bool) : Plain depth (bool value)
  | integer {depth : Nat} {value : Int} (hvalue : value.natAbs < twoTo 64) :
      Plain depth (integer value)
  | string {depth : Nat} (value : String) : Plain depth (string value)
  | array {depth : Nat} {items : List Json} (hitems : ∀ item ∈ items, Plain depth item) :
      Plain (depth + 1) (array items)
  | object {depth : Nat} {fields : List (String × Json)}
      (hfields : ∀ field ∈ fields, Plain depth field.2) : Plain (depth + 1) (object fields)

mutual

/-- The tokens that a value is written with. -/
def words : Json → List Token
  | null => [.null]
  | bool value => [.bool value]
  | integer value => [.integer value]
  | decimal digits exponent => [.decimal digits exponent]
  | string value => [.string value]
  | array [] => [.openArray, .closeArray]
  | array (item :: rest) => .openArray :: words item ++ itemWords rest ++ [.closeArray]
  | object [] => [.openObject, .closeObject]
  | object ((name, value) :: rest) =>
    .openObject :: .string name :: .colon :: words value ++ fieldWords rest ++ [.closeObject]

/-- The tokens of further items. -/
def itemWords : List Json → List Token
  | [] => []
  | item :: rest => .comma :: words item ++ itemWords rest

/-- The tokens of further fields. -/
def fieldWords : List (String × Json) → List Token
  | [] => []
  | (name, value) :: rest => .comma :: .string name :: .colon :: words value ++ fieldWords rest

end

/-! ## The text stands for the words -/

theorem endsNumber_nil : EndsNumber [] := by
  rintro c ⟨⟩

theorem endsNumber_cons {c : Char} (hc : continuesNumber c = false) (rest : List Char) :
    EndsNumber (c :: rest) := by
  rintro _ ⟨⟩
  exact hc

theorem EndsNumber.append {front rest : List Char} (hfront : EndsNumber front)
    (hrest : EndsNumber rest) : EndsNumber (front ++ rest) := by
  cases front with
  | nil => exact hrest
  | cons c front => exact endsNumber_cons (hfront c rfl) _

/-- Whether a text is read as these tokens, whatever follows that ends a number. -/
def StandsFor (text : List Char) (tokens : List Token) : Prop :=
  ∀ rest, EndsNumber rest → tokens? (text ++ rest) = (tokens? rest).map (tokens ++ ·)

namespace StandsFor

variable {text front back : List Char} {tokens first last : List Token}

theorem nil : StandsFor [] [] := by
  intro rest _
  simp

theorem append (hfront : StandsFor front first) (hback : StandsFor back last)
    (hends : EndsNumber back) : StandsFor (front ++ back) (first ++ last) := by
  intro rest hrest
  rw [List.append_assoc, hfront _ (hends.append hrest), hback rest hrest, Option.map_map]
  simp [Function.comp_def]

/-- Punctuation needs nothing of what follows. -/
theorem cons {c : Char} {token : Token} (hblank : isBlank c = false)
    (htoken : ∀ rest, token? c rest = some (token, rest)) (htext : StandsFor text tokens) :
    StandsFor (c :: text) (token :: tokens) := by
  intro rest hrest
  rw [List.cons_append, tokens?_cons hblank (htoken _), htext rest hrest, Option.map_map]
  rfl

theorem lineBreak (depth : Nat) (htext : StandsFor text tokens) :
    StandsFor (Json.lineBreak depth ++ text) tokens := by
  intro rest hrest
  rw [List.append_assoc, tokens?_lineBreak, htext rest hrest]

theorem space (htext : StandsFor text tokens) : StandsFor (' ' :: text) tokens := by
  intro rest hrest
  rw [← htext rest hrest]
  exact @tokens?_blanks [' '] (by simp [isBlank]) _

theorem name (name : String) : StandsFor (quoted name) [.string name] :=
  fun rest _ => tokens?_quoted name rest

theorem number {value : Int} (hvalue : value.natAbs < twoTo 64) :
    StandsFor (Text.integer value) [.integer value] :=
  fun _ hrest => tokens?_integer hvalue hrest

end StandsFor

theorem endsNumber_lineBreak (depth : Nat) (rest : List Char) :
    EndsNumber (lineBreak depth ++ rest) :=
  endsNumber_cons (by decide) _

theorem endsNumber_indentedItems (depth : Nat) (items : List Json) {rest : List Char}
    (hrest : EndsNumber rest) : EndsNumber (indentedItems depth items ++ rest) := by
  cases items with
  | nil => exact hrest
  | cons item items => exact endsNumber_cons (by decide) _

theorem endsNumber_indentedFields (depth : Nat) (fields : List (String × Json))
    {rest : List Char} (hrest : EndsNumber rest) :
    EndsNumber (indentedFields depth fields ++ rest) := by
  cases fields with
  | nil => exact hrest
  | cons field fields => exact endsNumber_cons (by decide) _

theorem standsFor_indentedItems {depth : Nat} {items : List Json}
    (hitems : ∀ item ∈ items, StandsFor (indentedText depth item) item.words)
    {text : List Char} {tokens : List Token} (htext : StandsFor text tokens)
    (hends : EndsNumber text) :
    StandsFor (indentedItems depth items ++ text) (itemWords items ++ tokens) := by
  induction items with
  | nil => exact htext
  | cons item items ih =>
      have hmore := ih fun other hother => hitems other (List.mem_cons_of_mem item hother)
      simp only [indentedItems, itemWords, List.cons_append, List.append_assoc]
      have hitem := (hitems item List.mem_cons_self).append hmore
        (endsNumber_indentedItems depth items hends)
      exact .cons rfl (fun _ => rfl) (.lineBreak depth hitem)

theorem standsFor_field {depth : Nat} (name : String) {value : Json}
    (hvalue : StandsFor (indentedText depth value) value.words)
    {text : List Char} {tokens : List Token} (htext : StandsFor text tokens)
    (hends : EndsNumber text) :
    StandsFor (quoted name ++ ':' :: ' ' :: (indentedText depth value ++ text))
      (.string name :: .colon :: (value.words ++ tokens)) :=
  (StandsFor.name name).append (.cons rfl (fun _ => rfl) (.space (hvalue.append htext hends)))
    (endsNumber_cons (by decide) _)

theorem standsFor_indentedFields {depth : Nat} {fields : List (String × Json)}
    (hfields : ∀ field ∈ fields, StandsFor (indentedText depth field.2) field.2.words)
    {text : List Char} {tokens : List Token} (htext : StandsFor text tokens)
    (hends : EndsNumber text) :
    StandsFor (indentedFields depth fields ++ text) (fieldWords fields ++ tokens) := by
  induction fields with
  | nil => exact htext
  | cons field fields ih =>
      have hmore := ih fun other hother => hfields other (List.mem_cons_of_mem field hother)
      have hfield := standsFor_field field.1 (hfields field List.mem_cons_self) hmore
        (endsNumber_indentedFields depth fields hends)
      simp only [indentedFields, fieldWords, List.cons_append, List.append_assoc]
      exact .cons rfl (fun _ => rfl) (.lineBreak depth hfield)

/-- The indented text of a plain value is read as the tokens of the value. -/
theorem standsFor_indentedText {limit : Nat} {value : Json} (hvalue : Plain limit value)
    (depth : Nat) : StandsFor (indentedText depth value) value.words := by
  induction hvalue generalizing depth with
  | null =>
    intro rest _
    exact tokens?_cons rfl rfl
  | bool value =>
    intro rest _
    cases value <;> exact tokens?_cons rfl rfl
  | integer hvalue => exact .number hvalue
  | string value => exact .name value
  | @array limit items _ ih =>
    cases items with
    | nil => exact .cons rfl (fun _ => rfl) (.cons rfl (fun _ => rfl) .nil)
    | cons item items =>
        -- from the end, since an item that is a number has to know what follows it
        have hclose : StandsFor (lineBreak depth ++ [']']) [.closeArray] :=
          .lineBreak depth (.cons rfl (fun _ => rfl) .nil)
        have hends := endsNumber_lineBreak depth [']']
        have hmore := standsFor_indentedItems (fun other hother =>
          ih other (List.mem_cons_of_mem item hother) (depth + 1)) hclose hends
        simp only [indentedText, words, List.cons_append, List.append_assoc]
        exact .cons rfl (fun _ => rfl) (.lineBreak _ ((ih item List.mem_cons_self _).append hmore
          (endsNumber_indentedItems (depth + 1) items hends)))
  | @object limit fields _ ih =>
    cases fields with
    | nil => exact .cons rfl (fun _ => rfl) (.cons rfl (fun _ => rfl) .nil)
    | cons field fields =>
        have hclose : StandsFor (lineBreak depth ++ ['\x7d']) [.closeObject] :=
          .lineBreak depth (.cons rfl (fun _ => rfl) .nil)
        have hends := endsNumber_lineBreak depth ['\x7d']
        have hmore := standsFor_indentedFields (fun other hother =>
          ih other (List.mem_cons_of_mem field hother) (depth + 1)) hclose hends
        have hfield := standsFor_field field.1 (ih field List.mem_cons_self (depth + 1)) hmore
          (endsNumber_indentedFields (depth + 1) fields hends)
        simp only [indentedText, words, List.cons_append, List.append_assoc]
        exact .cons rfl (fun _ => rfl) (.lineBreak _ hfield)

/-! ## The words are read as the value -/

/-- No value begins with the end of an array. -/
theorem exists_head_words (value : Json) :
    ∃ token more, value.words = token :: more ∧ token ≠ .closeArray := by
  unfold words
  split <;> exact ⟨_, _, rfl, by simp⟩

theorem exists_eq_succ_of_words {value : Json} {fuel : Nat}
    (hfuel : 2 * value.words.length ≤ fuel) : ∃ less, fuel = less + 1 := by
  obtain ⟨token, more, hwords, _⟩ := exists_head_words value
  rw [hwords, List.length_cons] at hfuel
  exact Nat.exists_eq_succ_of_ne_zero (by omega)

theorem items?_words {depth : Nat} {item : Json} {items : List Json}
    (hitems : ∀ one ∈ item :: items, ∀ fuel rest, 2 * one.words.length ≤ fuel →
      value? fuel depth (one.words ++ rest) = some (one, rest))
    {fuel : Nat} (hfuel : 2 * (item.words.length + (itemWords items).length) < fuel)
    (rest : List Token) :
    items? fuel depth (item.words ++ (itemWords items ++ .closeArray :: rest)) =
      some (item :: items, rest) := by
  obtain ⟨fuel, rfl⟩ := Nat.exists_eq_succ_of_ne_zero (Nat.ne_zero_of_lt hfuel)
  rw [items?, hitems item List.mem_cons_self fuel _ (by omega)]
  -- each further item costs one step and has a comma before it, so two steps to a token suffice
  induction items generalizing item fuel with
  | nil => rfl
  | cons other items ih =>
      simp only [itemWords, List.cons_append, List.length_cons, List.length_append,
        List.append_assoc] at hfuel ⊢
      obtain ⟨less, rfl⟩ : ∃ less, fuel = less + 1 := ⟨fuel - 1, by omega⟩
      have hrest : ∀ one ∈ other :: items, _ := fun one hone =>
        hitems one (List.mem_cons_of_mem item hone)
      have hmore := ih hrest less (by omega)
      rw [items?, hrest other List.mem_cons_self less _ (by omega), hmore]
      rfl

theorem fields?_words {depth : Nat} {field : String × Json} {fields : List (String × Json)}
    (hfields : ∀ one ∈ field :: fields, ∀ fuel rest, 2 * one.2.words.length ≤ fuel →
      value? fuel depth (one.2.words ++ rest) = some (one.2, rest))
    {fuel : Nat} (hfuel : 2 * (field.2.words.length + (fieldWords fields).length) < fuel)
    (rest : List Token) :
    fields? fuel depth (.string field.1 :: .colon ::
        (field.2.words ++ (fieldWords fields ++ .closeObject :: rest))) =
      some (field :: fields, rest) := by
  obtain ⟨fuel, rfl⟩ := Nat.exists_eq_succ_of_ne_zero (Nat.ne_zero_of_lt hfuel)
  rw [fields?, hfields field List.mem_cons_self fuel _ (by omega)]
  induction fields generalizing field fuel with
  | nil => rfl
  | cons other fields ih =>
      simp only [fieldWords, List.cons_append, List.length_cons, List.length_append,
        List.append_assoc] at hfuel ⊢
      obtain ⟨less, rfl⟩ : ∃ less, fuel = less + 1 := ⟨fuel - 1, by omega⟩
      have hrest : ∀ one ∈ other :: fields, _ := fun one hone =>
        hfields one (List.mem_cons_of_mem field hone)
      have hmore := ih hrest less (by omega)
      rw [fields?, hrest other List.mem_cons_self less _ (by omega), hmore]
      rfl

/-- The tokens of a plain value are read as that value. -/
theorem value?_words {depth : Nat} {value : Json} (hvalue : Plain depth value) (fuel : Nat)
    (rest : List Token) (hfuel : 2 * value.words.length ≤ fuel) :
    value? fuel depth (value.words ++ rest) = some (value, rest) := by
  induction hvalue generalizing fuel rest with
  | null | bool _ | integer _ | string _ =>
    obtain ⟨fuel, rfl⟩ := exists_eq_succ_of_words hfuel
    rfl
  | @array depth items _ ih =>
    obtain ⟨fuel, rfl⟩ := exists_eq_succ_of_words hfuel
    cases items with
    | nil => rfl
    | cons item items =>
        simp only [words, List.cons_append, List.append_assoc, List.nil_append, List.length_cons,
          List.length_append, List.length_nil] at hfuel ⊢
        have hitems := @items?_words depth item items ih fuel (by omega) rest
        rw [value?, hitems]
        · rfl
        · intro behind hclose
          obtain ⟨token, more, hwords, htoken⟩ := exists_head_words item
          rw [hwords, List.cons_append] at hclose
          exact htoken (List.cons.inj hclose).1
  | @object depth fields _ ih =>
    obtain ⟨fuel, rfl⟩ := exists_eq_succ_of_words hfuel
    cases fields with
    | nil => rfl
    | cons field fields =>
        simp only [words, List.cons_append, List.append_assoc, List.nil_append, List.length_cons,
          List.length_append, List.length_nil] at hfuel ⊢
        have hfields := @fields?_words depth field fields ih fuel (by omega) rest
        rw [value?, hfields]
        · rfl
        · intro behind hclose
          cases hclose

/-- The indented text of a plain value is read as that value. -/
theorem parse?_indented {value : Json} (hvalue : Plain deepest value) :
    parse? value.indented = some value := by
  have htokens : tokens? (indentedText 0 value) = some value.words := by
    have h := standsFor_indentedText hvalue 0 [] endsNumber_nil
    simpa [tokens?] using h
  have hread := value?_words hvalue (2 * value.words.length + 1) [] (Nat.le_succ _)
  rw [List.append_nil] at hread
  rw [parse?, indented, String.toList_ofList, htokens]
  dsimp only
  rw [hread]

end DnsForwarder.Json
