import StagedBuild.Toml.Quoted.Writer

/-!
# Reading back what was written

A string that was written in quotes is read back as the same string, whichever of the four forms
the writer chose (`string?_write`).

* Inside the basic forms every character is an escape or stands for itself (`escaped_cases`).
* In the forms on several lines the reader closes the string at three quotes and lets up to two
  more stand before them. The writer never puts three in a row, so wherever the reader meets two
  more quotes behind a quote, the string is at its end (`text_of_twoQuotes`).
* The newline that the reader drops behind the opening quotes is one that the writer put there
  (`dropFirstNewline_opening`).
-/

namespace StagedBuild.Toml.Quoted

theorem not_prefix_cons {c d : Char} {text rest : List Char} (other : c ≠ d) :
    ¬ c :: text <+: d :: rest :=
  fun h => other (List.cons_prefix_cons.mp h).1

/-- What needs no escape may stand as it is, newlines apart. -/
theorem isPlain_of_not_needsCode {c : Char} (free : needsCode c = false) (inLine : c ≠ '\n') :
    isPlain c = true := by
  by_cases tab : c = '\t'
  · simp [isPlain, tab]
  · simp only [needsCode, Bool.and_eq_false_iff, Bool.or_eq_false_iff, bne_eq_false_iff_eq] at free
    rcases free with (⟨high, notDel⟩ | isTab) | isNewline
    · simp only [decide_eq_false_iff_not, Nat.not_lt, beq_eq_false_iff_ne] at high notDel
      simp [isPlain, high, notDel]
    · exact absurd isTab tab
    · exact absurd isNewline inLine

theorem hexDigit?_upperHex : ∀ n < 16, hexDigit? (upperHex n) = some n := by
  decide

/-- The four digits of an escape give back the number they were made from. -/
theorem hexEscape?_code {c : Char} (low : c.toNat < 256) (rest : List Char) :
    hexEscape? 4 ('0' :: '0' :: upperHex (c.toNat / 16) :: upperHex (c.toNat % 16) :: rest) =
      some (c, rest) := by
  have value : ((0 * 16 + 0) * 16 + 0) * 16 + c.toNat / 16 = c.toNat / 16 := by omega
  have zero : hexDigit? '0' = some 0 := by decide
  have read : hexNumber? 4 0
      ('0' :: '0' :: upperHex (c.toNat / 16) :: upperHex (c.toNat % 16) :: rest) =
        some (c.toNat, rest) := by
    simp only [hexNumber?, zero, hexDigit?_upperHex _ (show c.toNat / 16 < 16 by omega),
      hexDigit?_upperHex _ (show c.toNat % 16 < 16 by omega)]
    simp only [Option.some.injEq, Prod.mk.injEq, and_true]
    omega
  have valid : c.toNat.isValidChar := c.valid
  rw [hexEscape?, read]
  simp only [valid, if_true, Char.ofNat_toNat]

/-- A character is written as an escape that reads back as it, or as itself. -/
theorem escaped_cases (c : Char) (inLine : c ≠ '\n') :
    (∃ tail, escaped c = '\\' :: tail ∧ ∀ rest, escape? (tail ++ rest) = some (c, rest)) ∨
      (escaped c = [c] ∧ c ≠ '\\' ∧ isPlain c = true) := by
  unfold escaped
  split
  · next h => exact .inl ⟨['b'], rfl, fun rest => by subst h; rfl⟩
  split
  · next h => exact .inl ⟨['t'], rfl, fun rest => by subst h; rfl⟩
  split
  · next h => exact .inl ⟨['f'], rfl, fun rest => by subst h; rfl⟩
  split
  · next h => exact .inl ⟨['r'], rfl, fun rest => by subst h; rfl⟩
  split
  · next h => exact .inl ⟨['\\'], rfl, fun rest => by subst h; rfl⟩
  split
  · next h =>
    refine .inl ⟨_, rfl, fun rest => ?_⟩
    have low : c.toNat < 256 := by
      simp [needsCode] at h
      omega
    exact hexEscape?_code low rest
  · next slash coded =>
    exact .inr ⟨rfl, slash, isPlain_of_not_needsCode (by simpa using coded) inLine⟩

theorem basic?_escape {text rest : List Char} {c : Char} (h : escape? text = some (c, rest)) :
    basic? ('\\' :: text) = (basic? rest).map (before [c]) := by
  rw [basic?]
  split
  · next found he =>
    rw [h] at he
    cases he
    rfl
  · next he => rw [h] at he; cases he

theorem basic?_plain {text : List Char} {c : Char} (quote : c ≠ '"') (slash : c ≠ '\\')
    (plain : isPlain c = true) : basic? (c :: text) = (basic? text).map (before [c]) := by
  rw [basic?]
  · rw [if_pos plain]
  · exact fun h => quote h
  · exact fun h => slash h

/-- The inside of a basic string of one line reads back, up to the first quote that follows. -/
theorem basic?_basicBody (text rest : List Char) :
    basic? (basicBody text ++ '"' :: rest) = some (text, rest) := by
  induction text with
  | nil => rw [basicBody, List.nil_append, basic?]
  | cons c text ih =>
    rw [basicBody]
    by_cases quote : c = '"'
    · subst quote
      rw [if_pos rfl, List.cons_append, List.cons_append, basic?_escape rfl, ih]
      rfl
    rw [if_neg quote]
    by_cases newline : c = '\n'
    · subst newline
      rw [if_pos rfl, List.cons_append, List.cons_append, basic?_escape rfl, ih]
      rfl
    rw [if_neg newline]
    rcases escaped_cases c newline with ⟨tail, eq, reads⟩ | ⟨eq, slash, plain⟩
    · rw [eq, List.append_assoc, List.cons_append, basic?_escape (reads _), ih]
      rfl
    · rw [eq, List.append_assoc, List.singleton_append, basic?_plain quote slash plain, ih]
      rfl

theorem multilineBasic?_escape {text rest : List Char} {c : Char}
    (h : escape? text = some (c, rest)) :
    multilineBasic? ('\\' :: text) = (multilineBasic? rest).map (before [c]) := by
  rw [multilineBasic?]
  split
  · next found he =>
    rw [h] at he
    cases he
    rfl
  · next he => rw [h] at he; cases he

theorem multilineBasic?_plain {text : List Char} {c : Char} (slash : c ≠ '\\')
    (plain : (c == '\n' || isPlain c) = true) (goesOn : c = '"' → ¬ ['"', '"'] <+: text) :
    multilineBasic? (c :: text) = (multilineBasic? text).map (before [c]) := by
  have noReturn : c ≠ '\r' := by
    rintro rfl
    revert plain
    decide
  rw [multilineBasic?]
  · rw [if_pos plain]
  · rintro rest rfl rfl
    exact goesOn rfl ⟨_, rfl⟩
  · rintro rest rfl rfl
    exact goesOn rfl ⟨_, rfl⟩
  · rintro rest rfl rfl
    exact goesOn rfl ⟨_, rfl⟩
  · exact slash
  · rintro rest rfl
    exact absurd rfl noReturn

/-- The inside of a basic string starts with a backslash or with a character that stands for
itself; a quote does so only if less than two quotes stand before it. -/
theorem multilineBasicBody_cons (run : Nat) (c : Char) (text : List Char) :
    ∃ head tail, multilineBasicBody run (c :: text) = head :: tail ∧
      (head = '\\' ∨ head = c ∧ (c == '\n' || isPlain c) = true ∧ (c = '"' → run < 2)) := by
  rw [multilineBasicBody]
  split
  · next quote =>
    split
    · next few => exact ⟨_, _, rfl, .inr ⟨quote.symm, by rw [quote]; decide, fun _ => few⟩⟩
    · exact ⟨_, _, rfl, .inl rfl⟩
  · next quote =>
    split
    · next newline =>
      exact ⟨_, _, rfl, .inr ⟨newline.symm, by rw [newline]; decide, fun h => absurd h quote⟩⟩
    · next inLine =>
      rcases escaped_cases c inLine with ⟨tail, eq, _⟩ | ⟨eq, _, plain⟩
      · exact ⟨_, _, by rw [eq]; rfl, .inl rfl⟩
      · exact ⟨_, _, by rw [eq]; rfl, .inr ⟨rfl, by simp [plain], fun h => absurd h quote⟩⟩

/-- Behind a quote that stands for itself come two more only at the end. -/
theorem text_of_twoQuotes {run : Nat} {text rest : List Char}
    (two : ['"', '"'] <+: multilineBasicBody (run + 1) text ++ '"' :: '"' :: '"' :: rest) :
    text = [] ∨ text = ['"'] ∧ run = 0 := by
  cases text with
  | nil => exact .inl rfl
  | cons c text =>
    obtain ⟨head, tail, eq, starts⟩ := multilineBasicBody_cons (run + 1) c text
    rw [eq, List.cons_append, List.cons_prefix_cons] at two
    obtain ⟨rfl, two⟩ := two
    rcases starts with slash | ⟨rfl, _, few⟩
    · exact absurd slash (by decide)
    have first : run = 0 := by have := few rfl; omega
    subst first
    cases text with
    | nil => exact .inr ⟨rfl, rfl⟩
    | cons c' text' =>
      obtain ⟨head', tail', eq', starts'⟩ := multilineBasicBody_cons 2 c' text'
      rw [multilineBasicBody, if_pos rfl, if_pos (by decide)] at eq
      obtain rfl := (List.cons.inj eq).2
      rw [eq', List.cons_append, List.cons_prefix_cons] at two
      obtain ⟨rfl, _⟩ := two
      rcases starts' with slash | ⟨rfl, _, few'⟩
      · exact absurd slash (by decide)
      · exact absurd (few' rfl) (by decide)

/-- The inside of a basic string of several lines reads back, wherever in a run of quotes it is
taken up. -/
theorem multilineBasic?_body {rest : List Char} (clear : ¬ ['"'] <+: rest) (text : List Char)
    (run : Nat) :
    multilineBasic? (multilineBasicBody run text ++ '"' :: '"' :: '"' :: rest) =
      some (text, rest) := by
  induction text generalizing run with
  | nil =>
    rw [multilineBasicBody, List.nil_append, multilineBasic?]
    · rintro more rfl
      exact clear ⟨_, rfl⟩
    · rintro more rfl
      exact clear ⟨_, rfl⟩
  | cons c text ih =>
    by_cases quote : c = '"'
    · subst quote
      rw [multilineBasicBody, if_pos rfl]
      by_cases few : run < 2
      · rw [if_pos few, List.cons_append]
        -- Two more quotes: the reader closes the string here and takes what is left of it at once.
        by_cases two : ['"', '"'] <+: multilineBasicBody (run + 1) text ++ '"' :: '"' :: '"' :: rest
        · rcases text_of_twoQuotes two with rfl | ⟨rfl, rfl⟩
          · rw [multilineBasicBody, List.nil_append, multilineBasic?]
            rintro more rfl
            exact clear ⟨_, rfl⟩
          · show multilineBasic? ('"' :: '"' :: '"' :: '"' :: '"' :: rest) = _
            rw [multilineBasic?]
        · rw [multilineBasic?_plain (by decide) (by decide) fun _ => two, ih]
          rfl
      · rw [if_neg few, List.cons_append, List.cons_append, multilineBasic?_escape rfl, ih]
        rfl
    by_cases newline : c = '\n'
    · subst newline
      rw [multilineBasicBody, if_neg quote, if_pos rfl, List.cons_append,
        multilineBasic?_plain (by decide) (by decide) fun h => absurd h quote, ih]
      rfl
    rw [multilineBasicBody, if_neg quote, if_neg newline]
    rcases escaped_cases c newline with ⟨tail, eq, reads⟩ | ⟨eq, slash, plain⟩
    · rw [eq, List.append_assoc, List.cons_append, multilineBasic?_escape (reads _), ih]
      rfl
    · rw [eq, List.append_assoc, List.singleton_append,
        multilineBasic?_plain slash (by simp [plain]) fun h => absurd h quote, ih]
      rfl

/-- A literal string of one line reads back, up to the first quote that follows. -/
theorem literal?_append {text : List Char} (rest : List Char)
    (plain : ∀ c ∈ text, isPlain c = true ∧ c ≠ '\'') :
    literal? (text ++ '\'' :: rest) = some (text, rest) := by
  induction text with
  | nil => rfl
  | cons c text ih =>
    obtain ⟨fits, quote⟩ := plain c List.mem_cons_self
    rw [List.cons_append, literal?]
    · rw [if_pos fits, ih fun d member => plain d (List.mem_cons_of_mem c member)]
      rfl
    · exact fun h => quote h

theorem multilineLiteral?_plain {text : List Char} {c : Char}
    (plain : (c == '\n' || isPlain c) = true) (goesOn : c = '\'' → ¬ ['\'', '\''] <+: text) :
    multilineLiteral? (c :: text) = (multilineLiteral? text).map (before [c]) := by
  have noReturn : c ≠ '\r' := by
    rintro rfl
    revert plain
    decide
  rw [multilineLiteral?]
  · rw [if_pos plain]
  · rintro rest rfl rfl
    exact goesOn rfl ⟨_, rfl⟩
  · rintro rest rfl rfl
    exact goesOn rfl ⟨_, rfl⟩
  · rintro rest rfl rfl
    exact goesOn rfl ⟨_, rfl⟩
  · rintro rest rfl
    exact absurd rfl noReturn

theorem hasLongRun_cons {quote c : Char} {text : List Char} :
    hasLongRun quote (c :: text) = false ↔
      ¬ [quote, quote, quote] <+: c :: text ∧ hasLongRun quote text = false := by
  rw [hasLongRun, Bool.or_eq_false_iff, beq_eq_false_iff_ne, List.prefix_iff_eq_take]
  exact and_congr_left' (not_congr eq_comm)

/-- A literal string of several lines reads back if it has no three quotes in a row. -/
theorem multilineLiteral?_append {rest : List Char} (clear : ¬ ['\''] <+: rest) {text : List Char}
    (plain : ∀ c ∈ text, (c == '\n' || isPlain c) = true)
    (short : hasLongRun '\'' text = false) :
    multilineLiteral? (text ++ '\'' :: '\'' :: '\'' :: rest) = some (text, rest) := by
  induction text with
  | nil =>
    rw [List.nil_append, multilineLiteral?]
    · rintro more rfl
      exact clear ⟨_, rfl⟩
    · rintro more rfl
      exact clear ⟨_, rfl⟩
  | cons c text ih =>
    obtain ⟨noRun, shortRest⟩ := hasLongRun_cons.mp short
    have readRest := ih (fun d member => plain d (List.mem_cons_of_mem c member)) shortRest
    have goesOn (two : c = '\'' ∧ ['\'', '\''] <+: text ++ '\'' :: '\'' :: '\'' :: rest) :
        text = [] ∨ text = ['\''] := by
      obtain ⟨rfl, two⟩ := two
      match text with
      | [] => exact .inl rfl
      | [d] =>
        rw [List.cons_append, List.cons_prefix_cons] at two
        exact .inr (by rw [two.1])
      | d :: e :: more =>
        rw [List.cons_append, List.cons_append, List.cons_prefix_cons, List.cons_prefix_cons] at two
        obtain ⟨rfl, rfl, _⟩ := two
        exact absurd ⟨more, rfl⟩ noRun
    by_cases two : c = '\'' ∧ ['\'', '\''] <+: text ++ '\'' :: '\'' :: '\'' :: rest
    · obtain ⟨rfl, _⟩ := id two
      rcases goesOn two with rfl | rfl
      · show multilineLiteral? ('\'' :: '\'' :: '\'' :: '\'' :: rest) = _
        rw [multilineLiteral?]
        rintro more rfl
        exact clear ⟨_, rfl⟩
      · show multilineLiteral? ('\'' :: '\'' :: '\'' :: '\'' :: '\'' :: rest) = _
        rw [multilineLiteral?]
    · rw [List.cons_append, multilineLiteral?_plain (plain c List.mem_cons_self)
        fun quote starts => two ⟨quote, starts⟩, readRest]
      rfl

/-- A string on one line without escapes holds no character that ends it. -/
theorem plain_of_formOf_literal {text : List Char} (form : formOf text = .literal) :
    ∀ c ∈ text, isPlain c = true ∧ c ≠ '\'' := by
  simp only [formOf] at form
  split at form
  · cases form
  split at form
  · cases form
  split at form
  · next fits =>
    simp only [Bool.and_eq_true, Bool.not_eq_true', List.any_eq_false, List.contains_eq_mem,
      decide_eq_false_iff_not] at fits
    obtain ⟨⟨uncoded, quote⟩, newline⟩ := fits
    intro c member
    refine ⟨isPlain_of_not_needsCode (by simpa using uncoded c member) ?_, ?_⟩
    · exact fun h => newline (h ▸ member)
    · exact fun h => quote (h ▸ member)
  split at form
  · cases form
  split at form
  · cases form
  split at form <;> cases form

/-- A string on several lines without escapes holds no three quotes in a row. -/
theorem fits_of_formOf_multilineLiteral {text : List Char}
    (form : formOf text = .multilineLiteral) :
    (∀ c ∈ text, (c == '\n' || isPlain c) = true) ∧ hasLongRun '\'' text = false := by
  simp only [formOf] at form
  split at form
  · cases form
  split at form
  · cases form
  split at form
  · cases form
  split at form
  · cases form
  split at form
  · next fits =>
    simp only [Bool.and_eq_true, Bool.not_eq_true', List.any_eq_false] at fits
    obtain ⟨uncoded, short⟩ := fits
    refine ⟨fun c member => ?_, short⟩
    by_cases newline : c = '\n'
    · simp [newline]
    · simp [isPlain_of_not_needsCode (by simpa using uncoded c member) newline]
  split at form <;> cases form

theorem string?_basic {text : List Char} (single : ¬ ['"', '"'] <+: text) :
    string? ('"' :: text) = basic? text := by
  rw [string?]
  · rfl
  · rintro rest ⟨⟩
    exact single ⟨_, rfl⟩
  · rintro rest ⟨⟩

theorem string?_literal {text : List Char} (single : ¬ ['\'', '\''] <+: text) :
    string? ('\'' :: text) = literal? text := by
  rw [string?]
  · rfl
  · rintro rest ⟨⟩
  · rintro rest ⟨⟩
    exact single ⟨_, rfl⟩

/-- The newline after the opening quotes is there whenever the string could lose one. -/
theorem dropFirstNewline_opening {text body : List Char}
    (starts : '\n' ∉ text → ¬ ['\n'] <+: body ∧ ¬ ['\r'] <+: body) :
    dropFirstNewline (opening text ++ body) = body := by
  by_cases newline : '\n' ∈ text
  · simp [opening, newline, dropFirstNewline]
  · obtain ⟨noNewline, noReturn⟩ := starts newline
    simp only [opening, List.contains_eq_mem, newline, decide_false, Bool.false_eq_true, if_false,
      List.nil_append]
    rw [dropFirstNewline]
    · rintro rest rfl
      exact noNewline ⟨_, rfl⟩
    · rintro rest rfl
      exact noReturn ⟨_, rfl⟩

/-- The opening quote of a basic string is followed by another one only if the string is empty. -/
theorem not_twoQuotes_basicBody {rest : List Char} (clear : ¬ ['"'] <+: rest) (text : List Char) :
    ¬ ['"', '"'] <+: basicBody text ++ '"' :: rest := by
  intro two
  cases text with
  | nil =>
    rw [basicBody, List.nil_append, List.cons_prefix_cons] at two
    exact clear two.2
  | cons c text =>
    rw [basicBody] at two
    split at two
    · exact not_prefix_cons (by decide) two
    · next quote =>
      split at two
      · exact not_prefix_cons (by decide) two
      · next inLine =>
        rcases escaped_cases c inLine with ⟨tail, eq, _⟩ | ⟨eq, _, _⟩
        · rw [eq] at two
          exact not_prefix_cons (by decide) two
        · rw [eq] at two
          exact not_prefix_cons (Ne.symm quote) two

/-- Likewise for a literal string. -/
theorem not_twoQuotes_literal {text rest : List Char} (clear : ¬ ['\''] <+: rest)
    (plain : ∀ c ∈ text, isPlain c = true ∧ c ≠ '\'') :
    ¬ ['\'', '\''] <+: text ++ '\'' :: rest := by
  intro two
  cases text with
  | nil =>
    rw [List.nil_append, List.cons_prefix_cons] at two
    exact clear two.2
  | cons c text => exact not_prefix_cons (Ne.symm (plain c List.mem_cons_self).2) two

/-- Without a newline in the string, none comes first. -/
theorem multilineBasicBody_starts {text : List Char} (inLine : '\n' ∉ text) (rest : List Char) :
    ¬ ['\n'] <+: multilineBasicBody 0 text ++ '"' :: rest ∧
      ¬ ['\r'] <+: multilineBasicBody 0 text ++ '"' :: rest := by
  cases text with
  | nil => exact ⟨not_prefix_cons (by decide), not_prefix_cons (by decide)⟩
  | cons c text =>
    obtain ⟨head, tail, eq, starts⟩ := multilineBasicBody_cons 0 c text
    rw [eq, List.cons_append, List.cons_prefix_cons, List.cons_prefix_cons]
    rcases starts with rfl | ⟨rfl, plain, _⟩
    · exact ⟨fun h => absurd h.1 (by decide), fun h => absurd h.1 (by decide)⟩
    · refine ⟨fun h => inLine (h.1 ▸ List.mem_cons_self), ?_⟩
      rintro ⟨rfl, _⟩
      revert plain
      decide

/-- Likewise for a literal string. -/
theorem multilineLiteral_starts {text : List Char} (inLine : '\n' ∉ text)
    (plain : ∀ c ∈ text, (c == '\n' || isPlain c) = true) (rest : List Char) :
    ¬ ['\n'] <+: text ++ '\'' :: rest ∧ ¬ ['\r'] <+: text ++ '\'' :: rest := by
  cases text with
  | nil => exact ⟨not_prefix_cons (by decide), not_prefix_cons (by decide)⟩
  | cons c text =>
    have fits := plain c List.mem_cons_self
    rw [List.cons_append, List.cons_prefix_cons, List.cons_prefix_cons]
    refine ⟨fun h => inLine (h.1 ▸ List.mem_cons_self), ?_⟩
    rintro ⟨rfl, _⟩
    revert fits
    decide

/-- Reading undoes writing, whatever the string and whatever follows it but a quote. -/
theorem string?_write (text : List Char) {rest : List Char} (noBasic : ¬ ['"'] <+: rest)
    (noLiteral : ¬ ['\''] <+: rest) : string? (write text ++ rest) = some (text, rest) := by
  rw [write]
  split
  · simp only [List.append_assoc, List.cons_append, List.nil_append]
    rw [string?_basic (not_twoQuotes_basicBody noBasic text), basic?_basicBody]
  · next form =>
    have plain := plain_of_formOf_literal form
    simp only [List.append_assoc, List.cons_append, List.nil_append]
    rw [string?_literal (not_twoQuotes_literal noLiteral plain), literal?_append rest plain]
  · simp only [List.append_assoc, List.cons_append, List.nil_append]
    rw [string?, dropFirstNewline_opening fun inLine => multilineBasicBody_starts inLine _,
      multilineBasic?_body noBasic]
  · next form =>
    obtain ⟨plain, short⟩ := fits_of_formOf_multilineLiteral form
    simp only [List.append_assoc, List.cons_append, List.nil_append]
    rw [string?, dropFirstNewline_opening fun inLine => multilineLiteral_starts inLine plain _,
      multilineLiteral?_append noLiteral plain short]

/-- With three quotes of either kind only escapes are left, and every third quote gets one. -/
example : write ['\'', '\'', '\'', '\n', '"', '"', '"', '"'] =
    ['"', '"', '"', '\n', '\'', '\'', '\'', '\n', '"', '"', '\\', '"', '"', '"', '"', '"'] := by
  decide

end StagedBuild.Toml.Quoted
