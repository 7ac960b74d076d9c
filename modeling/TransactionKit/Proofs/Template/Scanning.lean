import Mathlib.Data.List.TakeWhile
import TransactionKit.Template.Token

/-!
What the tokens of a template say about its text. `Token.Reads` has one rule for each sort of
token: the characters that stand for it and how they end. `Token.Scanned` puts the tokens of a text
together, so a property of all tokens is shown by one case for each sort. `reads_of_next` and
`scanned_of_scan` say that the reader follows the rules, `next_of_reads` and `scan_of_scanned` that
the rules determine the reader.
-/

namespace TransactionKit

namespace Token

/-- Whether a character encloses quoted literals. -/
def isQuote (c : Char) : Bool :=
  c = '\'' || c = '"'

/-- Whether a character opens a region in which blanks are kept: a quoted literal or a
parameter. -/
def opensRegion (options : TemplateOptions) (c : Char) : Bool :=
  isQuote c || (c = '$' && options.parameters)

theorem opensRegion_dollar {options : TemplateOptions} (enabled : options.parameters = true) :
    opensRegion options '$' = true := by
  simp [opensRegion, enabled]

/-- Whether a character stands for itself outside literals and parameters. -/
def isPlain (options : TemplateOptions) (c : Char) : Bool :=
  !isSpace c && !opensRegion options c

theorem isQuote_eq_false_of_isPlain {options : TemplateOptions} {c : Char}
    (plain : isPlain options c = true) : isQuote c = false := by
  simp only [isPlain, opensRegion, Bool.and_eq_true, Bool.not_eq_true', Bool.or_eq_false_iff]
    at plain
  exact plain.2.1

theorem ne_dollar_of_isPlain {options : TemplateOptions} {c : Char}
    (enabled : options.parameters = true) (plain : isPlain options c = true) : c ≠ '$' := by
  rintro rfl
  simp [isPlain, opensRegion, enabled] at plain

/-- A class of characters that has no blank, no quote and no dollar sign consists of plain ones. -/
theorem isPlain_of_mem {options : TemplateOptions} {group : Char → Bool} {c : Char}
    (excludes : [' ', '\n', '\r', '\t', '\'', '"', '$'].any group = false)
    (member : group c = true) : isPlain options c = true := by
  have differs : ∀ d ∈ [' ', '\n', '\r', '\t', '\'', '"', '$'], c ≠ d := by
    rintro d special rfl
    exact List.any_eq_false.mp excludes c special member
  simp only [List.mem_cons, List.not_mem_nil, or_false, forall_eq_or_imp, forall_eq] at differs
  simp [isPlain, opensRegion, isQuote, isSpace, differs]

theorem isPlain_of_isNumberPart {options : TemplateOptions} {c : Char}
    (part : isNumberPart c = true) : isPlain options c = true :=
  isPlain_of_mem (by decide) part

theorem isPlain_of_isPunctuation {options : TemplateOptions} {c : Char}
    (punctuation : isPunctuation c = true) : isPlain options c = true :=
  isPlain_of_mem (by decide) punctuation

theorem isPlain_of_isIdentifierPart {options : TemplateOptions} {c : Char}
    (part : isIdentifierPart c = true) : isPlain options c = true :=
  isPlain_of_mem (by decide) part

/-- The digits and points of a number stand for themselves. -/
theorem isPlain_of_number {options : TemplateOptions} {c : Char} {run : List Char}
    (digit : c.isDigit = true) (parts : ∀ d ∈ run, isNumberPart d = true) :
    ∀ d ∈ c :: run, isPlain options d = true := by
  have first : isNumberPart c = true := by simp [isNumberPart, digit]
  rintro d (_ | ⟨_, member⟩)
  · exact isPlain_of_isNumberPart first
  · exact isPlain_of_isNumberPart (parts d member)

/-- A character that starts an identifier may also continue one. -/
theorem isIdentifierPart_of_isIdentifierStart {c : Char} (start : isIdentifierStart c = true) :
    isIdentifierPart c = true := by
  simp only [isIdentifierStart, isIdentifierPart, Text.isAlphanumeric, Bool.or_eq_true] at start ⊢
  exact start.imp_left .inl

/-- The characters of an identifier stand for themselves. -/
theorem isPlain_of_identifier {options : TemplateOptions} {c : Char} {run : List Char}
    (start : isIdentifierStart c = true) (parts : ∀ d ∈ run, isIdentifierPart d = true) :
    ∀ d ∈ c :: run, isPlain options d = true := by
  rintro d (_ | ⟨_, member⟩)
  · exact isPlain_of_isIdentifierPart (isIdentifierPart_of_isIdentifierStart start)
  · exact isPlain_of_isIdentifierPart (parts d member)

/-- The text of a parameter is what stands between its dollar signs. -/
theorem source_of_parameterBetween {position : Nat} {inside : List Char} {p : Parameter}
    (between : parameterBetween position inside = .ok p) :
    p.source.toList = '$' :: inside ++ ['$'] := by
  simp only [parameterBetween] at between
  split at between
  · cases between
  · have names := Parameter.names_of_ofNames between
    have parts : p.names.map String.toList = inside.splitOn ',' := by
      rw [names, List.map_map, splitCommas_eq_splitOn]
      simp
    simp [Parameter.source, String.toList_intercalate, parts]

/-- What the front of a text is read as: the token, and the text after it. -/
inductive Reads (options : TemplateOptions) : List Char → Token → List Char → Prop
  | number {c : Char} {run after : List Char} (digit : c.isDigit = true)
      (parts : ∀ d ∈ run, isNumberPart d = true)
      (stops : ∀ d ∈ after.head?, isNumberPart d = false) :
      Reads options (c :: (run ++ after)) (.number (String.ofList (c :: run))) after
  | blank {c : Char} {run after : List Char} (space : isSpace c = true)
      (parts : ∀ d ∈ run, isSpace d = true) (stops : ∀ d ∈ after.head?, isSpace d = false) :
      Reads options (c :: (run ++ after)) .blank after
  | mark {c : Char} {after : List Char} (punctuation : isPunctuation c = true) :
      Reads options (c :: after) (.mark c) after
  | identifier {c : Char} {run after : List Char} (start : isIdentifierStart c = true)
      (parts : ∀ d ∈ run, isIdentifierPart d = true)
      (stops : ∀ d ∈ after.head?, isIdentifierPart d = false) :
      Reads options (c :: (run ++ after)) (.identifier (String.ofList (c :: run))) after
  | quoted {delimiter : Char} {text after : List Char} (quote : isQuote delimiter = true)
      (stops : after.head? ≠ some delimiter) :
      Reads options (Text.Quoting.encode ⟨delimiter, false⟩ text ++ after)
        (.quoted (String.ofList text) delimiter) after
  | dollar {after : List Char} (enabled : options.parameters = true) :
      Reads options ('$' :: '$' :: after) .dollar after
  | parameter {position : Nat} {inside after : List Char} {p : Parameter}
      (enabled : options.parameters = true) (nonempty : inside ≠ []) (closed : '$' ∉ inside)
      (between : parameterBetween position inside = .ok p) :
      Reads options ('$' :: (inside ++ '$' :: after)) (.parameter p) after
  | other {c : Char} {after : List Char} (lenient : options.strict = false)
      (digit : c.isDigit = false) (space : isSpace c = false)
      (punctuation : isPunctuation c = false) (start : isIdentifierStart c = false)
      (region : opensRegion options c = false) : Reads options (c :: after) (.other c) after

/-- The tokens of a text. -/
inductive Scanned (options : TemplateOptions) : List Char → List Lexeme → Prop
  | nil : Scanned options [] []
  | cons {cs after : List Char} {token : Token} {position : Nat} {lexemes : List Lexeme}
      (reads : Reads options cs token after) (scanned : Scanned options after lexemes) :
      Scanned options cs (⟨token, position⟩ :: lexemes)

/-- What is left after the longest run of a class does not start with a character of it. -/
theorem eq_false_of_mem_head?_dropWhile {group : Char → Bool} {cs : List Char} {c : Char}
    (first : c ∈ (cs.dropWhile group).head?) : group c = false := by
  have stops := List.head?_dropWhile_not group cs
  rw [Option.mem_def.mp first] at stops
  exact stops

theorem reads_of_readParameter {options : TemplateOptions} {position : Nat} {rest after : List Char}
    {token : Token} (enabled : options.parameters = true)
    (read : readParameter position rest = .ok (token, after)) :
    Reads options ('$' :: rest) token after := by
  unfold readParameter at read
  split at read
  · cases read
  · rename_i last after' closing
    have dollar : last = '$' := by
      have first : last ∈ (rest.dropWhile (· ≠ '$')).head? := by
        rw [closing]
        rfl
      simpa using eq_false_of_mem_head?_dropWhile first
    have whole : rest = rest.takeWhile (· ≠ '$') ++ '$' :: after' := by
      subst dollar
      rw [← closing, List.takeWhile_append_dropWhile]
    have closed : '$' ∉ rest.takeWhile (· ≠ '$') := by
      intro member
      simpa using List.mem_takeWhile_imp member
    split at read
    · rename_i empty
      cases read
      rw [whole, empty]
      exact .dollar enabled
    · rename_i nonempty
      cases between : parameterBetween position (rest.takeWhile (· ≠ '$')) with
      | error e => rw [between] at read; cases read
      | ok p =>
        rw [between] at read
        cases read
        rw [whole]
        exact .parameter enabled nonempty closed between

/-- The reader takes the longest token of its sort. -/
theorem reads_of_next {options : TemplateOptions} {position : Nat} {c : Char}
    {rest after : List Char} {token : Token}
    (read : next options position c rest = .ok (token, after)) :
    Reads options (c :: rest) token after := by
  unfold next at read
  split at read
  · rename_i digit
    cases read
    have reads : Reads options
        (c :: (rest.takeWhile isNumberPart ++ rest.dropWhile isNumberPart)) _ _ :=
      .number digit (fun _ member => List.mem_takeWhile_imp member)
        (fun _ first => eq_false_of_mem_head?_dropWhile first)
    rwa [List.takeWhile_append_dropWhile] at reads
  split at read
  · rename_i space
    cases read
    have reads : Reads options
        (c :: (rest.takeWhile isSpace ++ rest.dropWhile isSpace)) _ _ :=
      .blank space (fun _ member => List.mem_takeWhile_imp member)
        (fun _ first => eq_false_of_mem_head?_dropWhile first)
    rwa [List.takeWhile_append_dropWhile] at reads
  split at read
  · rename_i punctuation
    cases read
    exact .mark punctuation
  split at read
  · rename_i start
    cases read
    have reads : Reads options
        (c :: (rest.takeWhile isIdentifierPart ++ rest.dropWhile isIdentifierPart)) _ _ :=
      .identifier start (fun _ member => List.mem_takeWhile_imp member)
        (fun _ first => eq_false_of_mem_head?_dropWhile first)
    rwa [List.takeWhile_append_dropWhile] at reads
  split at read
  · rename_i quote
    split at read
    · rename_i text rest' inside
      cases read
      obtain ⟨rfl, stops⟩ := Text.Quoting.eq_of_readInside? rfl inside
      have reads : Reads options (Text.Quoting.encode ⟨c, false⟩ text ++ after) _ _ :=
        .quoted (by simpa [isQuote] using quote) stops
      simpa [Text.Quoting.encode] using reads
    · cases read
  split at read
  · rename_i dollar
    obtain ⟨rfl, enabled⟩ := dollar
    exact reads_of_readParameter enabled read
  split at read
  · cases read
  · rename_i digit space punctuation start quote dollar strict
    cases read
    have region : opensRegion options c = false := by
      simp only [opensRegion, isQuote, Bool.or_eq_false_iff, Bool.and_eq_false_imp,
        decide_eq_false_iff_not, decide_eq_true_eq]
      exact ⟨not_or.mp quote, fun same => by simpa [same] using dollar⟩
    exact .other (by simpa using strict) (by simpa using digit) (by simpa using space)
      (by simpa using punctuation) (by simpa using start) region

theorem scanned_of_scanFrom {options : TemplateOptions} {position : Nat} {cs : List Char}
    {lexemes : List Lexeme} (scan : scanFrom options position cs = .ok lexemes) :
    Scanned options cs lexemes := by
  fun_induction scanFrom options position cs generalizing lexemes with
  | case1 =>
    cases scan
    exact .nil
  | case2 => cases scan
  | case3 position c rest token after read shorter ih =>
    cases later : scanFrom options (position + 1 + (rest.length - after.length)) after with
    | error e =>
      rw [later] at scan
      cases scan
    | ok lexemes =>
      rw [later] at scan
      cases scan
      exact .cons (reads_of_next read) (ih later)

/-- The reader finds the tokens that the rules give. -/
theorem scanned_of_scan {options : TemplateOptions} {text : List Char} {lexemes : List Lexeme}
    (scan : Token.scan options text = .ok lexemes) : Scanned options text lexemes :=
  scanned_of_scanFrom scan

/-! ## The reader step by step -/

section Steps

variable {options : TemplateOptions}

theorem scanFrom_nil (position : Nat) : scanFrom options position [] = .ok [] := by
  rw [scanFrom]

theorem scanFrom_of_error {position : Nat} {c : Char} {rest : List Char} {e : Error}
    (read : next options position c rest = .error e) :
    scanFrom options position (c :: rest) = .error e := by
  rw [scanFrom]
  split
  · rename_i failed
    rw [read] at failed
    cases failed
    rfl
  · rename_i found
    rw [read] at found
    cases found

theorem scanFrom_of_next {position : Nat} {c : Char} {rest after : List Char} {token : Token}
    (read : next options position c rest = .ok (token, after)) :
    scanFrom options position (c :: rest) =
      (scanFrom options (position + 1 + (rest.length - after.length)) after).map
        (⟨token, position⟩ :: ·) := by
  rw [scanFrom]
  split
  · rename_i failed
    rw [read] at failed
    cases failed
  · rename_i found
    rw [read] at found
    cases found
    rfl

/-- The first token of a text is an opening parenthesis only if the text starts with one. -/
theorem eq_cons_of_scanFrom {position : Nat} {cs : List Char} {first : Lexeme} {later : List Lexeme}
    (scan : scanFrom options position cs = .ok (first :: later)) (paren : first.token = .mark '(') :
    ∃ after, cs = '(' :: after := by
  cases scanned_of_scanFrom scan with
  | cons reads scanned =>
    cases paren
    cases reads with
    | mark punctuation => exact ⟨_, rfl⟩

end Steps

/-! ## From the rules back to the reader -/

section Completeness

variable {options : TemplateOptions}

/-- A digit starts no identifier. -/
theorem isIdentifierStart_of_isDigit {c : Char} (digit : c.isDigit = true) :
    isIdentifierStart c = false := by
  have bounds : 48 ≤ c.toNat ∧ c.toNat ≤ 57 := by
    simp only [Char.isDigit, Bool.and_eq_true, decide_eq_true_eq] at digit
    exact digit
  have ascii : c.toNat < 0x80 := by omega
  have noCapital : c.isUpper = false := by
    refine Bool.eq_false_iff.mpr fun capital => ?_
    have letters : c.val ≥ 'A'.val ∧ c.val ≤ 'Z'.val := of_decide_eq_true capital
    have least : 65 ≤ c.toNat := letters.1
    omega
  have noSmall : c.isLower = false := by
    refine Bool.eq_false_iff.mpr fun small => ?_
    have letters : (decide (c.val ≥ 'a'.val) && decide (c.val ≤ 'z'.val)) = true := small
    have least : 97 ≤ c.toNat := of_decide_eq_true (Bool.and_eq_true_iff.mp letters).1
    omega
  have noLetter : c.isAlpha = false := Bool.or_eq_false_iff.mpr ⟨noCapital, noSmall⟩
  have noUnderscore : c ≠ '_' := by
    rintro rfl
    cases digit
  simp [isIdentifierStart, Text.isAlphabetic, ascii, noLetter, noUnderscore]

/-- A punctuation mark is outside every class that has none of them. -/
theorem eq_false_of_isPunctuation {group : Char → Bool} {c : Char}
    (excludes : "-+()*=><!/,.|&%".toList.any group = false)
    (punctuation : isPunctuation c = true) : group c = false := by
  have member : c ∈ "-+()*=><!/,.|&%".toList := by
    simpa only [isPunctuation, List.contains_iff_mem] using punctuation
  simpa using List.any_eq_false.mp excludes c member

/-- A blank is outside every class that has none of them. -/
theorem eq_false_of_isSpace {group : Char → Bool} {c : Char}
    (excludes : [' ', '\n', '\r', '\t'].any group = false) (space : isSpace c = true) :
    group c = false := by
  have member : c ∈ [' ', '\n', '\r', '\t'] := by simpa [isSpace, or_assoc] using space
  simpa using List.any_eq_false.mp excludes c member

/-- A run of a class that something else stops is the longest one. -/
theorem takeWhile_of_stops {group : Char → Bool} {run after : List Char}
    (parts : ∀ d ∈ run, group d = true) (stops : ∀ d ∈ after.head?, group d = false) :
    (run ++ after).takeWhile group = run ∧ (run ++ after).dropWhile group = after := by
  rw [List.takeWhile_append_of_pos parts, List.dropWhile_append_of_pos parts]
  cases after with
  | nil => simp
  | cons d after =>
    have stop : group d = false := stops d rfl
    simp [stop]

/-- A parameter that can be read at one position can be read at every other. -/
theorem parameterBetween_of_ok {position other : Nat} {inside : List Char} {p : Parameter}
    (between : parameterBetween position inside = .ok p) :
    parameterBetween other inside = .ok p := by
  unfold parameterBetween at between ⊢
  dsimp only at between ⊢
  split at between
  · cases between
  · rename_i key
    rw [if_neg key]
    exact between

theorem readParameter_of_closed {position other : Nat} {inside after : List Char} {p : Parameter}
    (nonempty : inside ≠ []) (closed : '$' ∉ inside)
    (between : parameterBetween position inside = .ok p) :
    readParameter other (inside ++ '$' :: after) = .ok (.parameter p, after) := by
  have parts : ∀ d ∈ inside, decide (d ≠ '$') = true := by
    intro d member
    simpa using fun same : d = '$' => closed (same ▸ member)
  obtain ⟨taken, left⟩ := @takeWhile_of_stops _ inside ('$' :: after) parts (by simp)
  unfold readParameter
  rw [left, taken]
  cases inside with
  | nil => exact absurd rfl nonempty
  | cons d inside => simp [parameterBetween_of_ok between, Except.map]

/-- At a dollar sign that means something the reader looks for a parameter. -/
theorem next_dollar (enabled : options.parameters = true) (position : Nat) (rest : List Char) :
    next options position '$' rest = readParameter position rest := by
  have others : ('$'.isDigit = false ∧ isSpace '$' = false ∧ isPunctuation '$' = false) ∧
      isIdentifierStart '$' = false ∧ ¬('$' = '\'' ∨ '$' = '"') := by decide
  simp [next, others, enabled]

/-- What a rule reads off the front of a text, the reader finds there at every position. -/
theorem next_of_reads {cs after : List Char} {token : Token} (reads : Reads options cs token after) :
    ∃ c rest, cs = c :: rest ∧ ∀ position, next options position c rest = .ok (token, after) := by
  cases reads with
  | @number c run _ digit parts stops =>
    obtain ⟨taken, left⟩ := takeWhile_of_stops parts stops
    refine ⟨c, run ++ after, rfl, fun position => ?_⟩
    rw [next, if_pos digit, taken, left]
  | @blank c run _ space parts stops =>
    obtain ⟨-, left⟩ := takeWhile_of_stops parts stops
    have digit : c.isDigit = false := eq_false_of_isSpace (by decide) space
    refine ⟨c, run ++ after, rfl, fun position => ?_⟩
    rw [next, if_neg (by simp [digit]), if_pos space, left]
  | @mark c _ punctuation =>
    have digit : c.isDigit = false := eq_false_of_isPunctuation (by decide) punctuation
    have space : isSpace c = false := eq_false_of_isPunctuation (by decide) punctuation
    refine ⟨c, after, rfl, fun position => ?_⟩
    rw [next, if_neg (by simp [digit]), if_neg (by simp [space]), if_pos punctuation]
  | @identifier c run _ start parts stops =>
    obtain ⟨taken, left⟩ := takeWhile_of_stops parts stops
    have digit : ¬c.isDigit = true := fun digit =>
      Bool.false_ne_true ((isIdentifierStart_of_isDigit digit).symm.trans start)
    have space : ¬isSpace c = true := fun space =>
      Bool.false_ne_true ((eq_false_of_isSpace (by decide) space).symm.trans start)
    have punctuation : ¬isPunctuation c = true := fun punctuation =>
      Bool.false_ne_true ((eq_false_of_isPunctuation (by decide) punctuation).symm.trans start)
    refine ⟨c, run ++ after, rfl, fun position => ?_⟩
    rw [next, if_neg digit, if_neg space, if_neg punctuation, if_pos start, taken, left]
  | @quoted delimiter text _ quote stops =>
    have read := Text.Quoting.readInside?_flatMap (q := ⟨delimiter, false⟩) text stops
    simp only [isQuote, Bool.or_eq_true, decide_eq_true_eq] at quote
    have others : delimiter.isDigit = false ∧ isSpace delimiter = false ∧
        isPunctuation delimiter = false ∧ isIdentifierStart delimiter = false := by
      rcases quote with rfl | rfl <;> exact ⟨rfl, rfl, rfl, rfl⟩
    obtain ⟨digit, space, punctuation, start⟩ := others
    refine ⟨delimiter, text.flatMap (Text.Quoting.encodeChar ⟨delimiter, false⟩) ++
      delimiter :: after, by simp [Text.Quoting.encode], fun position => ?_⟩
    simp only [next, digit, space, punctuation, start, quote, read, Bool.false_eq_true, if_false,
      if_true]
  | dollar enabled =>
    refine ⟨'$', '$' :: after, rfl, fun position => ?_⟩
    rw [next_dollar enabled]
    rfl
  | @parameter position inside _ p enabled nonempty closed between =>
    refine ⟨'$', inside ++ '$' :: after, rfl, fun other => ?_⟩
    rw [next_dollar enabled, readParameter_of_closed nonempty closed between]
  | @other c _ lenient digit space punctuation start region =>
    simp only [opensRegion, isQuote, Bool.or_eq_false_iff, decide_eq_false_iff_not,
      Bool.and_eq_false_imp, decide_eq_true_eq] at region
    have quote : ¬(c = '\'' ∨ c = '"') := not_or.mpr region.1
    have dollar : ¬(c = '$' ∧ options.parameters = true) := by
      intro opens
      exact Bool.false_ne_true ((region.2 opens.1).symm.trans opens.2)
    refine ⟨c, after, rfl, fun position => ?_⟩
    simp only [next, digit, space, punctuation, start, quote, dollar, lenient, Bool.false_eq_true,
      if_false]

/-- The reader finds the tokens that the rules give, up to the positions, which the rules leave
open. -/
theorem scan_of_scanned {cs : List Char} {lexemes : List Lexeme}
    (scanned : Scanned options cs lexemes) (position : Nat) :
    ∃ found, scanFrom options position cs = .ok found ∧
      found.map Lexeme.token = lexemes.map Lexeme.token := by
  induction scanned generalizing position with
  | nil => exact ⟨[], scanFrom_nil position, rfl⟩
  | @cons cs after token place lexemes reads scanned ih =>
    obtain ⟨c, rest, rfl, read⟩ := next_of_reads reads
    obtain ⟨later, scan, same⟩ := ih (position + 1 + (rest.length - after.length))
    refine ⟨⟨token, position⟩ :: later, ?_, by rw [List.map_cons, same, List.map_cons]⟩
    rw [scanFrom_of_next (read position), scan]
    rfl

end Completeness

end Token

end TransactionKit
