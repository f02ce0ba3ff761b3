/-!
# Quoted strings

The four forms of a TOML string: basic and literal, each on one line or on several. A basic string
has escapes, a literal one has none. Reading takes the text after the opening quotes and gives the
string with what follows the closing quotes.
-/

namespace StagedBuild.Toml.Quoted

/-- Control characters other than the tab may not stand in a string as they are. -/
def isPlain (c : Char) : Bool :=
  c == '\t' || (0x20 ≤ c.toNat && c.toNat != 0x7F)

/-- The value of a hexadecimal digit. -/
def hexDigit? (c : Char) : Option Nat :=
  if '0' ≤ c ∧ c ≤ '9' then some (c.toNat - '0'.toNat)
  else if 'a' ≤ c ∧ c ≤ 'f' then some (c.toNat - 'a'.toNat + 10)
  else if 'A' ≤ c ∧ c ≤ 'F' then some (c.toNat - 'A'.toNat + 10)
  else none

/-- Reads exactly `count` hexadecimal digits. -/
def hexNumber? : (count value : Nat) → List Char → Option (Nat × List Char)
  | 0, value, rest => some (value, rest)
  | _ + 1, _, [] => none
  | count + 1, value, c :: rest =>
    match hexDigit? c with
    | some digit => hexNumber? count (value * 16 + digit) rest
    | none => none

/-- Reads a character given by `count` hexadecimal digits. -/
def hexEscape? (count : Nat) (text : List Char) : Option (Char × List Char) :=
  match hexNumber? count 0 text with
  | some (n, rest) => if n.isValidChar then some (Char.ofNat n, rest) else none
  | none => none

/-- The character that a letter stands for after a backslash. -/
def escapeLetter? : Char → Option Char
  | 'b' => some '\x08'
  | 't' => some '\t'
  | 'n' => some '\n'
  | 'f' => some '\x0c'
  | 'r' => some '\r'
  | 'e' => some '\x1b'
  | '"' => some '"'
  | '\\' => some '\\'
  | _ => none

/-- Reads an escape after its backslash. -/
def escape? : List Char → Option (Char × List Char)
  | [] => none
  | c :: rest =>
    if c = 'x' then hexEscape? 2 rest
    else if c = 'u' then hexEscape? 4 rest
    else if c = 'U' then hexEscape? 8 rest
    else (escapeLetter? c).map fun found => (found, rest)

theorem length_of_hexNumber? {count value n : Nat} {text rest : List Char}
    (h : hexNumber? count value text = some (n, rest)) : rest.length ≤ text.length := by
  induction count generalizing value text with
  | zero =>
    simp only [hexNumber?, Option.some.injEq, Prod.mk.injEq] at h
    exact h.2 ▸ Nat.le_refl _
  | succ count ih =>
    cases text with
    | nil => simp [hexNumber?] at h
    | cons c tail =>
      simp only [hexNumber?] at h
      split at h
      · exact Nat.le_succ_of_le (ih h)
      · simp at h

theorem length_of_hexEscape? {count : Nat} {c : Char} {text rest : List Char}
    (h : hexEscape? count text = some (c, rest)) : rest.length ≤ text.length := by
  unfold hexEscape? at h
  split at h
  · next hn =>
    split at h
    · obtain ⟨-, rfl⟩ := Prod.mk.inj (Option.some.inj h)
      exact length_of_hexNumber? hn
    · simp at h
  · simp at h

theorem length_of_escape? {c : Char} {text rest : List Char} (h : escape? text = some (c, rest)) :
    rest.length < text.length := by
  cases text with
  | nil => simp [escape?] at h
  | cons letter tail =>
    simp only [escape?] at h
    simp only [List.length_cons]
    split at h
    · exact Nat.lt_succ_of_le (length_of_hexEscape? h)
    · split at h
      · exact Nat.lt_succ_of_le (length_of_hexEscape? h)
      · split at h
        · exact Nat.lt_succ_of_le (length_of_hexEscape? h)
        · obtain ⟨found, -, he⟩ := Option.map_eq_some_iff.mp h
          obtain ⟨-, rfl⟩ := Prod.mk.inj he
          exact Nat.lt_succ_self _

/-- Puts characters before the string that was read. -/
def before (front : List Char) (found : List Char × List Char) : List Char × List Char :=
  (front ++ found.1, found.2)

/-- Reads a basic string of one line. -/
def basic? : List Char → Option (List Char × List Char)
  | [] => none
  | '"' :: rest => some ([], rest)
  | '\\' :: rest =>
    match _h : escape? rest with
    | some (c, more) => (basic? more).map (before [c])
    | none => none
  | c :: rest => if isPlain c then (basic? rest).map (before [c]) else none
termination_by text => text.length
decreasing_by
  · have := length_of_escape? _h
    simp only [List.length_cons]
    omega
  · simp

/-- Reads a literal string of one line. -/
def literal? : List Char → Option (List Char × List Char)
  | [] => none
  | '\'' :: rest => some ([], rest)
  | c :: rest => if isPlain c then (literal? rest).map (before [c]) else none

/-- Drops spaces, tabs and newlines. -/
def dropGap : List Char → List Char
  | ' ' :: rest | '\t' :: rest | '\n' :: rest => dropGap rest
  | '\r' :: '\n' :: rest => dropGap rest
  | rest => rest

/-- The text after a backslash that ends its line: the newline and all blanks around it do not
belong to the string. -/
def continued? (text : List Char) : Option (List Char) :=
  match text.dropWhile (fun c => c == ' ' || c == '\t') with
  | '\n' :: rest => some (dropGap rest)
  | '\r' :: '\n' :: rest => some (dropGap rest)
  | _ => none

theorem length_dropGap_le (text : List Char) : (dropGap text).length ≤ text.length := by
  fun_induction dropGap text with
  | case1 rest ih => simp only [List.length_cons]; omega
  | case2 rest ih => simp only [List.length_cons]; omega
  | case3 rest ih => simp only [List.length_cons]; omega
  | case4 rest ih => simp only [List.length_cons]; omega
  | case5 => exact Nat.le_refl _

theorem length_of_continued? {text rest : List Char} (h : continued? text = some rest) :
    rest.length < text.length := by
  have hd := (List.dropWhile_sublist (l := text) (fun c => c == ' ' || c == '\t')).length_le
  unfold continued? at h
  split at h
  · next tail ht =>
    obtain rfl := Option.some.inj h
    have := length_dropGap_le tail
    rw [ht, List.length_cons] at hd
    omega
  · next tail ht =>
    obtain rfl := Option.some.inj h
    have := length_dropGap_le tail
    rw [ht, List.length_cons, List.length_cons] at hd
    omega
  · simp at h

/-- Reads a basic string of several lines. Up to two quotes may stand before the closing three. -/
def multilineBasic? : List Char → Option (List Char × List Char)
  | [] => none
  | '"' :: '"' :: '"' :: '"' :: '"' :: rest => some (['"', '"'], rest)
  | '"' :: '"' :: '"' :: '"' :: rest => some (['"'], rest)
  | '"' :: '"' :: '"' :: rest => some ([], rest)
  | '\\' :: rest =>
    match _he : escape? rest with
    | some (c, more) => (multilineBasic? more).map (before [c])
    | none =>
      match _hc : continued? rest with
      | some more => multilineBasic? more
      | none => none
  | '\r' :: '\n' :: rest => (multilineBasic? rest).map (before ['\r', '\n'])
  | c :: rest =>
    if c == '\n' || isPlain c then (multilineBasic? rest).map (before [c]) else none
termination_by text => text.length
decreasing_by
  · have := length_of_escape? _he
    simp only [List.length_cons]
    omega
  · have := length_of_continued? _hc
    simp only [List.length_cons]
    omega
  · simp only [List.length_cons]
    omega
  · simp

/-- Reads a literal string of several lines. Up to two quotes may stand before the closing
three. -/
def multilineLiteral? : List Char → Option (List Char × List Char)
  | [] => none
  | '\'' :: '\'' :: '\'' :: '\'' :: '\'' :: rest => some (['\'', '\''], rest)
  | '\'' :: '\'' :: '\'' :: '\'' :: rest => some (['\''], rest)
  | '\'' :: '\'' :: '\'' :: rest => some ([], rest)
  | '\r' :: '\n' :: rest => (multilineLiteral? rest).map (before ['\r', '\n'])
  | c :: rest =>
    if c == '\n' || isPlain c then (multilineLiteral? rest).map (before [c]) else none

/-- A newline right after the opening quotes of a string of several lines does not belong to it. -/
def dropFirstNewline : List Char → List Char
  | '\n' :: rest => rest
  | '\r' :: '\n' :: rest => rest
  | rest => rest

/-- Reads a string of one line in either form, quotes included. -/
def singleLine? : List Char → Option (List Char × List Char)
  | '"' :: rest => basic? rest
  | '\'' :: rest => literal? rest
  | _ => none

/-- Reads a string in any form, quotes included. -/
def string? : List Char → Option (List Char × List Char)
  | '"' :: '"' :: '"' :: rest => multilineBasic? (dropFirstNewline rest)
  | '\'' :: '\'' :: '\'' :: rest => multilineLiteral? (dropFirstNewline rest)
  | text => singleLine? text

end StagedBuild.Toml.Quoted
