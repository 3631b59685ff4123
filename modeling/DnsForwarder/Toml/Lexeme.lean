import DnsForwarder.Text.Digits

/-!
# TOML below the values

Blanks, line ends, comments, strings and keys.  A line ends with a line feed,
with or without a carriage return in front.  Comments and strings hold no control
character but the tab.  Each function reads from the start of a text and gives
what is left of it.
-/

namespace DnsForwarder.Toml

/-! ## Between the words -/

def isBlank (c : Char) : Bool := c == ' ' || c == '\t'

/-- Whether a character may stand in a comment or a literal string. -/
def isPlain (c : Char) : Bool := c == '\t' || (32 ≤ c.toNat && c.toNat != 127)

def skipBlanks (text : List Char) : List Char := text.dropWhile isBlank

/-- What is behind a line end. -/
def newline? : List Char → Option (List Char)
  | '\n' :: rest => some rest
  | '\r' :: '\n' :: rest => some rest
  | _ => none

/-- Skips blanks, line ends and comments; `comment` says whether the text starts
inside a comment. -/
def skipSpace (comment : Bool) : List Char → List Char
  | [] => []
  | '\r' :: '\n' :: rest => skipSpace false rest
  | c :: rest =>
    if c = '\n' then skipSpace false rest
    else if comment then
      if isPlain c then skipSpace true rest else c :: rest
    else if isBlank c then skipSpace false rest
    else if c = '#' then skipSpace true rest
    else c :: rest

/-- What is behind the end of the line, if only a comment comes before it. -/
def lineEnd? (text : List Char) : Option (List Char) :=
  let afterComment :=
    match skipBlanks text with
    | '#' :: comment => comment.dropWhile isPlain
    | rest => rest
  match afterComment with
  | [] => some []
  | rest => newline? rest

/-! ## Strings -/

/-- The character with this code in hexadecimal. -/
def scalar? (digits : List Char) : Option Char :=
  match Text.ofDigits? 16 digits with
  | none => none
  | some code =>
    if code < 0xD800 ∨ (0xDFFF < code ∧ code < 0x110000) then some (Char.ofNat code) else none

/-- The character an escape stands for, read behind its backslash. -/
def unescape? : List Char → Option (Char × List Char)
  | 'b' :: rest => some ('\x08', rest)
  | 't' :: rest => some ('\t', rest)
  | 'n' :: rest => some ('\n', rest)
  | 'f' :: rest => some ('\x0c', rest)
  | 'r' :: rest => some ('\r', rest)
  | 'e' :: rest => some ('\x1b', rest)
  | '"' :: rest => some ('"', rest)
  | '\\' :: rest => some ('\\', rest)
  | 'x' :: a :: b :: rest => (scalar? [a, b]).map (·, rest)
  | 'u' :: a :: b :: c :: d :: rest => (scalar? [a, b, c, d]).map (·, rest)
  | 'U' :: a :: b :: c :: d :: e :: f :: g :: h :: rest =>
    (scalar? [a, b, c, d, e, f, g, h]).map (·, rest)
  | _ => none

theorem length_unescape? {text rest : List Char} {c : Char}
    (found : unescape? text = some (c, rest)) : rest.length < text.length := by
  unfold unescape? at found
  split at found
  case h_9 | h_10 | h_11 =>
    obtain ⟨code, _, same⟩ := Option.map_eq_some_iff.mp found
    cases same
    simp only [List.length_cons]
    omega
  all_goals first | (cases found; done) | (cases found; simp)

/-- Skips blanks and line ends. -/
def skipLines : List Char → List Char
  | [] => []
  | '\r' :: '\n' :: rest => skipLines rest
  | c :: rest => if isBlank c ∨ c = '\n' then skipLines rest else c :: rest

theorem length_skipLines (text : List Char) : (skipLines text).length ≤ text.length := by
  fun_induction skipLines text <;> simp_all <;> omega

theorem length_newline? {text rest : List Char} (found : newline? text = some rest) :
    rest.length < text.length := by
  unfold newline? at found
  split at found
  · cases found; simp
  · cases found; simp only [List.length_cons]; omega
  · cases found

/-- What is behind a line end and the blank lines and blanks that follow it. -/
def continued? (text : List Char) : Option (List Char) :=
  (newline? (skipBlanks text)).map skipLines

theorem length_continued? {text rest : List Char} (found : continued? text = some rest) :
    rest.length < text.length := by
  obtain ⟨line, shape, rfl⟩ := Option.map_eq_some_iff.mp found
  have blanks : (skipBlanks text).length ≤ text.length :=
    (List.dropWhile_suffix isBlank).length_le
  have := length_newline? shape
  have := length_skipLines line
  omega

/-- The content of a string with escapes, up to its closing quote. -/
def basic? : List Char → Option (List Char × List Char)
  | [] => none
  | c :: rest =>
    if c = '"' then some ([], rest)
    else if c = '\\' then
      match _ : unescape? rest with
      | none => none
      | some (c, rest) => (basic? rest).map fun (content, rest) => (c :: content, rest)
    else if isPlain c then (basic? rest).map fun (content, rest) => (c :: content, rest)
    else none
termination_by text => text.length
decreasing_by
  · rename_i found
    have := length_unescape? found
    simp only [List.length_cons]
    omega
  · simp

/-- The content of a string without escapes, up to its closing quote. -/
def literal? : List Char → Option (List Char × List Char)
  | [] => none
  | c :: rest =>
    if c = '\'' then some ([], rest)
    else if isPlain c then (literal? rest).map fun (content, rest) => (c :: content, rest)
    else none

/-- Whether a text starts with three quotes, and what is behind these.  Of up to
five quotes in a row the last three close a string. -/
def closing? (quote : Char) : List Char → Option (List Char × List Char)
  | a :: b :: c :: rest =>
    if a = quote ∧ b = quote ∧ c = quote then
      let more := (rest.take 2).takeWhile (· == quote)
      some (more, rest.drop more.length)
    else none
  | _ => none

/-- The content of a string with escapes over several lines. -/
def basicLines? : List Char → Option (List Char × List Char)
  | [] => none
  | c :: rest =>
    match closing? '"' (c :: rest) with
    | some ending => some ending
    | none =>
      if c = '\\' then
        match _ : continued? rest with
        | some rest => basicLines? rest
        | none =>
          match _ : unescape? rest with
          | none => none
          | some (c, rest) => (basicLines? rest).map fun (content, rest) => (c :: content, rest)
      else if isPlain c ∨ (newline? (c :: rest)).isSome then
        (basicLines? rest).map fun (content, rest) => (c :: content, rest)
      else none
termination_by text => text.length
decreasing_by
  · rename_i found
    have := length_continued? found
    simp only [List.length_cons]
    omega
  · rename_i found
    have := length_unescape? found
    simp only [List.length_cons]
    omega
  · simp

/-- The content of a string without escapes over several lines. -/
def literalLines? : List Char → Option (List Char × List Char)
  | [] => none
  | c :: rest =>
    match closing? '\'' (c :: rest) with
    | some ending => some ending
    | none =>
      if isPlain c ∨ (newline? (c :: rest)).isSome then
        (literalLines? rest).map fun (content, rest) => (c :: content, rest)
      else none

/-- A line end right behind the opening quotes does not belong to the string. -/
def dropFirstNewline (text : List Char) : List Char := (newline? text).getD text

/-- A string in any of its four forms. -/
def string? : List Char → Option (String × List Char)
  | '"' :: '"' :: '"' :: rest =>
    (basicLines? (dropFirstNewline rest)).map fun (content, rest) => (String.ofList content, rest)
  | '\'' :: '\'' :: '\'' :: rest =>
    (literalLines? (dropFirstNewline rest)).map fun (content, rest) =>
      (String.ofList content, rest)
  | '"' :: rest => (basic? rest).map fun (content, rest) => (String.ofList content, rest)
  | '\'' :: rest => (literal? rest).map fun (content, rest) => (String.ofList content, rest)
  | _ => none

/-! ## Keys -/

def isBareKey (c : Char) : Bool := c.isAlphanum || c == '_' || c == '-'

/-- One part of a key. -/
def keyPart? : List Char → Option (String × List Char)
  | '"' :: rest => (basic? rest).map fun (content, rest) => (String.ofList content, rest)
  | '\'' :: rest => (literal? rest).map fun (content, rest) => (String.ofList content, rest)
  | text =>
    match text.takeWhile isBareKey with
    | [] => none
    | name => some (String.ofList name, text.dropWhile isBareKey)

/-- A key of parts with dots between them, and blanks around these.  Every part
uses up a character, so the length of the text is fuel enough. -/
def key? (fuel : Nat) (text : List Char) : Option (List String × List Char) :=
  match fuel with
  | 0 => none
  | fuel + 1 =>
    match keyPart? (skipBlanks text) with
    | none => none
    | some (part, rest) =>
      match skipBlanks rest with
      | '.' :: rest => (key? fuel rest).map fun (parts, rest) => (part :: parts, rest)
      | rest => some ([part], rest)

end DnsForwarder.Toml
