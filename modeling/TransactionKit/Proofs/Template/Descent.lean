import TransactionKit.Proofs.Template.Assembly
import TransactionKit.Proofs.Template.Scanning
import TransactionKit.Template

/-!
Reading by descent compared with the moves on a stack. A row that is being read has its place: it
is the template, an argument of the innermost open call or the inside of the innermost open group,
and ends accordingly (`Frame.stop`). Reading it on by descent and then going on with the moves comes
to the same as the moves alone, and so it is for groups, calls and arguments
(`Assembly.readFrom_row`). Since the calls that the descent is in are the frames on the stack, both
blame the same one where the text ends too early. For a whole template: `Node.parse_eq`.
-/

namespace TransactionKit

open Token

/-- Where the rows that stand directly in a call or a group end. -/
def Frame.stop (frame : Frame) : Stop :=
  match frame.opening with
  | .call _ => .argument
  | .group => .group

/-- Where a row with some frames around it ends. -/
def Stop.within : List Frame → Stop
  | [] => .finish
  | frame :: _ => frame.stop

namespace Portion

/-- Go on with what was read, if it was, after it. -/
def follow {α β : Type} {cs : List Char} (portion : Except Error (Portion α cs))
    (goOn : α → Nat → List Char → Except Error β) : Except Error β :=
  portion.bind fun portion => goOn portion.value portion.position portion.rest

variable {α β γ : Type} {shorter cs : List Char}

theorem follow_widen (portion : Except Error (Portion α shorter)) (le : shorter.length ≤ cs.length)
    (goOn : α → Nat → List Char → Except Error β) :
    follow (portion.map fun portion => (portion.widen le : Portion α cs)) goOn =
      follow portion goOn := by
  cases portion <;> rfl

theorem follow_bind {x : Except Error γ} {f : γ → Except Error (Portion α cs)}
    (goOn : α → Nat → List Char → Except Error β) :
    follow (x.bind f) goOn = x.bind fun y => follow (f y) goOn := by
  cases x <;> rfl

end Portion

namespace Token

/-- The characters of a class at the front of a text are counted by what is left without them. -/
theorem length_takeWhile (group : Char → Bool) (cs : List Char) :
    (cs.takeWhile group).length = cs.length - (cs.dropWhile group).length := by
  have whole := congrArg List.length (List.takeWhile_append_dropWhile (p := group) (l := cs))
  rw [List.length_append] at whole
  omega

/-- What stands between dollar signs is a parameter, or nothing. -/
theorem readParameter_eq_dollar {position : Nat} {rest after : List Char} {token : Token}
    (read : readParameter position rest = .ok (token, after))
    (other : ∀ p, token ≠ .parameter p) : token = .dollar := by
  unfold readParameter at read
  split at read
  · cases read
  · split at read
    · cases read
      rfl
    · cases between : parameterBetween position (rest.takeWhile (· ≠ '$')) with
      | error e =>
        rw [between] at read
        cases read
      | ok p =>
        rw [between] at read
        cases read
        exact absurd rfl (other p)

end Token

namespace Node

/-- A second space after a space is none. -/
theorem pushSpace_pushSpace (nodes : List Node) :
    pushSpace (pushSpace nodes) = pushSpace nodes := by
  match nodes with
  | [] => rfl
  | .word w :: nodes =>
    by_cases spaced : w.toList.getLast? = some ' '
    · simp [pushSpace, spaced]
    · simp [pushSpace, spaced]
  | .literal _ :: _ | .sequence _ :: _ | .group _ :: _ | .number _ :: _ | .quoted _ _ :: _
  | .call _ _ :: _ | .parameter _ :: _ => rfl

/-! ## Where a row ends -/

section Rows

variable {options : TemplateOptions} {rule : CallRule}

theorem pushText_ne_nil (text : String) (nodes : List Node) : pushText text nodes ≠ [] := by
  unfold pushText
  split <;> simp

theorem pushSpace_ne_nil (nodes : List Node) : pushSpace nodes ≠ [] := by
  unfold pushSpace
  split
  · split <;> simp
  · simp

/-- How a row is read when there is a character: it ends before that, or something is read and added
to the nodes, and the row goes on after it. -/
theorem readRow_cons_eq_ok {stop : Stop} {nodes : List Node} {position : Nat} {c : Char}
    {rest : List Char} {row : Portion (List Node) (c :: rest)}
    (read : readRow options rule stop nodes position (c :: rest) = .ok row) :
    (stop.endsBefore c = true ∧ row.value = nodes.reverse ∧ row.rest = c :: rest) ∨
      ∃ more place after, ∃ later : Portion (List Node) after, more ≠ [] ∧
        after.length ≤ rest.length ∧ readRow options rule stop more place after = .ok later ∧
        row.value = later.value ∧ row.rest = later.rest := by
  have goOn {more : List Node} {place : Nat} {after : List Char} (filled : more ≠ [])
      (shorter : after.length ≤ rest.length)
      (read : ((readRow options rule stop more place after).map fun later =>
        (later.widen (Nat.le_succ_of_le shorter) : Portion (List Node) (c :: rest))) = .ok row) :
      ∃ more place after, ∃ later : Portion (List Node) after, more ≠ [] ∧
        after.length ≤ rest.length ∧ readRow options rule stop more place after = .ok later ∧
        row.value = later.value ∧ row.rest = later.rest := by
    cases found : readRow options rule stop more place after with
    | error e =>
      rw [found] at read
      cases read
    | ok later =>
      rw [found] at read
      cases read
      exact ⟨more, place, after, later, filled, shorter, found, rfl, rfl⟩
  rw [readRow] at read
  dsimp only at read
  by_cases ends : stop.endsBefore c = true
  · rw [if_pos ends] at read
    cases read
    exact .inl ⟨ends, rfl, rfl⟩
  right
  rw [if_neg ends] at read
  by_cases digit : c.isDigit = true
  · rw [if_pos digit] at read
    exact goOn (by simp) (length_dropWhile_le _ _) read
  rw [if_neg digit] at read
  by_cases opening : c = '(' ∧ stop ≠ .finish
  · rw [if_pos opening] at read
    cases found : readGroup options rule position rest with
    | error e =>
      rw [found] at read
      cases read
    | ok group =>
      rw [found] at read
      exact goOn (by simp) group.rest_le read
  rw [if_neg opening] at read
  by_cases space : isSpace c = true
  · rw [if_pos space] at read
    exact goOn (pushSpace_ne_nil nodes) (Nat.le_refl _) read
  rw [if_neg space] at read
  by_cases punctuation : isPunctuation c = true
  · rw [if_pos punctuation] at read
    exact goOn (pushText_ne_nil _ nodes) (Nat.le_refl _) read
  rw [if_neg punctuation] at read
  by_cases start : isIdentifierStart c = true
  · rw [if_pos start] at read
    have shorter := length_dropWhile_le isIdentifierPart rest
    split at read
    · rename_i inside same
      rw [same] at shorter
      cases found : readCall options rule (String.ofList (c :: rest.takeWhile isIdentifierPart))
          (position + (String.ofList (c :: rest.takeWhile isIdentifierPart)).length) inside with
      | error e =>
        rw [found] at read
        cases read
      | ok call =>
        rw [found] at read
        exact goOn (by simp) (Nat.le_trans call.rest_le (Nat.le_of_lt shorter)) read
    · exact goOn (pushText_ne_nil _ nodes) shorter read
  rw [if_neg start] at read
  by_cases quote : c = '\'' ∨ c = '"'
  · rw [if_pos quote] at read
    split at read
    · rename_i closed
      exact goOn (by simp) (Nat.le_of_lt (Text.Quoting.length_lt_of_readInside? closed)) read
    · cases read
  rw [if_neg quote] at read
  by_cases dollar : c = '$' ∧ options.parameters = true
  · rw [if_pos dollar] at read
    split at read
    · rename_i closed
      exact goOn (by simp) (length_le_of_readParameter closed) read
    · rename_i closed
      exact goOn (by simp) (length_le_of_readParameter closed) read
    · cases read
  rw [if_neg dollar] at read
  by_cases strict : options.strict = true
  · rw [if_pos strict] at read
    cases read
  · rw [if_neg strict] at read
    exact goOn (pushText_ne_nil _ nodes) (Nat.le_refl _) read

/-- A row ends before a character that ends it, or with the text. -/
theorem endsBefore_of_readRow {stop : Stop} {nodes : List Node} {position : Nat} {cs : List Char}
    {row : Portion (List Node) cs} (read : readRow options rule stop nodes position cs = .ok row) :
    ∀ c ∈ row.rest.head?, stop.endsBefore c = true := by
  induction size : cs.length using Nat.strongRecOn generalizing nodes position cs with
  | ind size hypothesis =>
    subst size
    cases cs with
    | nil =>
      rw [readRow] at read
      cases read
      simp
    | cons c rest =>
      rcases readRow_cons_eq_ok read with
        ⟨ends, -, left⟩ | ⟨_, _, _, _, -, shorter, later, -, left⟩
      · rw [left]
        rintro d ⟨⟩
        exact ends
      · rw [left]
        exact hypothesis _ (Nat.lt_succ_of_le shorter) later rfl

/-- A row without nodes is one of which nothing was read. -/
theorem readRow_eq_nil {stop : Stop} {nodes : List Node} {position : Nat} {cs : List Char}
    {row : Portion (List Node) cs} (read : readRow options rule stop nodes position cs = .ok row)
    (empty : row.value = []) : nodes = [] ∧ row.rest = cs := by
  induction size : cs.length using Nat.strongRecOn generalizing nodes position cs with
  | ind size hypothesis =>
    subst size
    cases cs with
    | nil =>
      rw [readRow] at read
      cases read
      exact ⟨List.reverse_eq_nil_iff.mp empty, rfl⟩
    | cons c rest =>
      rcases readRow_cons_eq_ok read with
        ⟨-, all, left⟩ | ⟨_, _, _, _, filled, shorter, later, all, -⟩
      · rw [all] at empty
        exact ⟨List.reverse_eq_nil_iff.mp empty, left⟩
      · have none := hypothesis _ (Nat.lt_succ_of_le shorter) later (all ▸ empty) rfl
        exact absurd none.1 filled

end Rows

end Node

namespace Assembly

/-! ## The rest of a text as moves -/

/-- Read the rest of a template into a tree, token by token. -/
def readFrom (options : TemplateOptions) (rule : CallRule) (asm : Assembly) (position : Nat)
    (cs : List Char) : Except Error (List Node) :=
  (scanFrom options position cs).bind (run rule asm)

section Moves

variable {options : TemplateOptions} {rule : CallRule} {asm : Assembly} {position : Nat} {c : Char}
  {rest after : List Char}

theorem readFrom_nil : readFrom options rule asm position [] = run rule asm [] := by
  rw [readFrom, scanFrom_nil]
  rfl

theorem readFrom_of_error {e : Error} (read : Token.next options position c rest = .error e) :
    readFrom options rule asm position (c :: rest) = .error e := by
  rw [readFrom, scanFrom_of_error read]
  rfl

theorem readFrom_of_next {token : Token}
    (read : Token.next options position c rest = .ok (token, after))
    (noCall : ∀ name, token = .identifier name → after.head? ≠ some '(') :
    readFrom options rule asm position (c :: rest) =
      readFrom options rule (asm.add rule ⟨token, position⟩)
        (position + 1 + (rest.length - after.length)) after := by
  unfold readFrom
  rw [scanFrom_of_next read]
  cases scan : scanFrom options (position + 1 + (rest.length - after.length)) after with
  | error e => rfl
  | ok later =>
    show run rule asm (⟨token, position⟩ :: later) = _
    apply run_cons
    intro name identifier next first paren
    cases later with
    | nil => cases first
    | cons following later =>
      cases first
      obtain ⟨tail, rfl⟩ := eq_cons_of_scanFrom scan paren
      exact noCall name identifier rfl

/-- An identifier and the parenthesis after it are two tokens, and open one call. -/
theorem readFrom_of_call {name : String}
    (read : Token.next options position c rest = .ok (.identifier name, '(' :: after)) :
    readFrom options rule asm position (c :: rest) =
      readFrom options rule (asm.enter (.call name) position)
        (position + 1 + (rest.length - after.length)) after := by
  have shorter := length_le_of_next read
  rw [List.length_cons] at shorter
  have paren (place : Nat) : Token.next options place '(' after = .ok (.mark '(', after) := rfl
  have place : position + 1 + (rest.length - ('(' :: after).length) + 1 +
      (after.length - after.length) = position + 1 + (rest.length - after.length) := by
    rw [List.length_cons]
    omega
  unfold readFrom
  rw [scanFrom_of_next read, scanFrom_of_next (paren _), place]
  cases scanFrom options (position + 1 + (rest.length - after.length)) after with
  | error e => rfl
  | ok later =>
    simp only [Except.map, Except.bind]
    rw [run_call rfl rfl]

end Moves

section

variable {options : TemplateOptions} {rule : CallRule}

open Node (readRow readGroup readCall readArguments)
open Portion (follow)

/-! ## What one character starts, as moves -/

section Steps

variable {nodes : List Node} {frames : List Frame} {position : Nat} {c : Char}
  {rest after : List Char}

theorem readFrom_number (digit : c.isDigit = true) :
    readFrom options rule ⟨nodes, frames⟩ position (c :: rest) =
      readFrom options rule
        ⟨.number (String.ofList (c :: rest.takeWhile isNumberPart)) :: nodes, frames⟩
        (position + (c :: rest.takeWhile isNumberPart).length) (rest.dropWhile isNumberPart) := by
  have read : Token.next options position c rest =
      .ok (.number (String.ofList (c :: rest.takeWhile isNumberPart)),
        rest.dropWhile isNumberPart) := by
    rw [Token.next, if_pos digit]
  rw [readFrom_of_next read (by simp), ← length_takeWhile, List.length_cons, Nat.add_assoc,
    Nat.add_comm 1]
  rfl

/-- A run of blanks is one space, whether it is read as a whole or one by one. -/
theorem readFrom_space (space : isSpace c = true) :
    readFrom options rule ⟨nodes, frames⟩ position (c :: rest) =
      readFrom options rule ⟨Node.pushSpace nodes, frames⟩ (position + 1) rest := by
  have read {d : Char} (space : isSpace d = true) (place : Nat) (cs : List Char) :
      Token.next options place d cs = .ok (.blank, cs.dropWhile isSpace) := by
    have digit : d.isDigit = false := eq_false_of_isSpace (by decide) space
    rw [Token.next, if_neg (by simp [digit]), if_pos space]
  have blank (nodes : List Node) (place : Nat) :
      (Assembly.mk nodes frames).add rule ⟨.blank, place⟩ = ⟨Node.pushSpace nodes, frames⟩ := rfl
  rw [readFrom_of_next (read space position rest) (by simp), blank]
  cases rest with
  | nil => rfl
  | cons d rest =>
    by_cases more : isSpace d = true
    · have shorter := length_dropWhile_le isSpace rest
      rw [readFrom_of_next (read more (position + 1) rest) (by simp), blank,
        Node.pushSpace_pushSpace, List.dropWhile_cons_of_pos more, List.length_cons]
      congr 1
      omega
    · rw [List.dropWhile_cons_of_neg more, Nat.sub_self, Nat.add_zero]

/-- A mark is a token of its own. -/
theorem readFrom_of_mark {asm : Assembly} (digit : ¬c.isDigit = true) (space : ¬isSpace c = true)
    (punctuation : isPunctuation c = true) :
    readFrom options rule asm position (c :: rest) =
      readFrom options rule (asm.add rule ⟨.mark c, position⟩) (position + 1) rest := by
  have read : Token.next options position c rest = .ok (.mark c, rest) := by
    rw [Token.next, if_neg digit, if_neg space, if_pos punctuation]
  rw [readFrom_of_next read (by simp), Nat.sub_self, Nat.add_zero]

/-- A mark is text where it neither ends a row nor opens a group. -/
theorem readFrom_mark (digit : ¬c.isDigit = true) (space : ¬isSpace c = true)
    (punctuation : isPunctuation c = true) (text : ¬(Stop.within frames).endsBefore c = true)
    (noGroup : ¬(c = '(' ∧ Stop.within frames ≠ .finish)) :
    readFrom options rule ⟨nodes, frames⟩ position (c :: rest) =
      readFrom options rule ⟨Node.pushText c.toString nodes, frames⟩ (position + 1) rest := by
  have add : (Assembly.mk nodes frames).add rule ⟨.mark c, position⟩ =
      ⟨Node.pushText c.toString nodes, frames⟩ := by
    unfold Assembly.add
    dsimp only
    split
    · rename_i opening
      subst opening
      match frames with
      | [] => rfl
      | ⟨.group, _, _, _⟩ :: _ => exact absurd ⟨rfl, nofun⟩ noGroup
      | ⟨.call _, _, _, _⟩ :: _ => exact absurd ⟨rfl, nofun⟩ noGroup
    split
    · rename_i comma
      subst comma
      match frames with
      | [] => rfl
      | ⟨.group, _, _, _⟩ :: _ => rfl
      | ⟨.call _, _, _, _⟩ :: _ => exact absurd rfl text
    split
    · rename_i closing
      subst closing
      match frames with
      | [] => rfl
      | ⟨.group, _, _, _⟩ :: _ => exact absurd rfl text
      | ⟨.call _, _, _, _⟩ :: _ => exact absurd rfl text
    · rfl
  rw [readFrom_of_mark digit space punctuation, add]

/-- Inside a call or a group an opening parenthesis that belongs to no name opens a group. -/
theorem readFrom_opening (inside : Stop.within frames ≠ .finish) :
    readFrom options rule ⟨nodes, frames⟩ position ('(' :: rest) =
      readFrom options rule ⟨[], ⟨.group, position, [], nodes⟩ :: frames⟩ (position + 1) rest := by
  rw [readFrom_of_mark (by decide) (by decide) (by decide)]
  cases frames with
  | nil => exact absurd rfl inside
  | cons frame frames => rfl

section Identifiers

variable (digit : ¬c.isDigit = true) (space : ¬isSpace c = true)
  (punctuation : ¬isPunctuation c = true) (start : isIdentifierStart c = true)

include digit space punctuation start

theorem next_identifier : Token.next options position c rest =
    .ok (.identifier (String.ofList (c :: rest.takeWhile isIdentifierPart)),
      rest.dropWhile isIdentifierPart) := by
  rw [Token.next, if_neg digit, if_neg space, if_neg punctuation, if_pos start]

theorem readFrom_word (noCall : ∀ inside, rest.dropWhile isIdentifierPart ≠ '(' :: inside) :
    readFrom options rule ⟨nodes, frames⟩ position (c :: rest) =
      readFrom options rule
        ⟨Node.pushText (String.ofList (c :: rest.takeWhile isIdentifierPart)) nodes, frames⟩
        (position + (String.ofList (c :: rest.takeWhile isIdentifierPart)).length)
        (rest.dropWhile isIdentifierPart) := by
  have plain : ∀ name, Token.identifier (String.ofList (c :: rest.takeWhile isIdentifierPart)) =
      .identifier name → (rest.dropWhile isIdentifierPart).head? ≠ some '(' := by
    intro _ _ first
    obtain ⟨inside, same⟩ := List.head?_eq_some_iff.mp first
    exact noCall inside same
  rw [readFrom_of_next (next_identifier digit space punctuation start) plain, ← length_takeWhile,
    String.length_ofList, List.length_cons, Nat.add_assoc, Nat.add_comm 1]
  rfl

/-- A call starts where its name does, which is found again by counting back from the
parenthesis. -/
theorem readFrom_call {inside : List Char}
    (call : rest.dropWhile isIdentifierPart = '(' :: inside) :
    let name := String.ofList (c :: rest.takeWhile isIdentifierPart)
    readFrom options rule ⟨nodes, frames⟩ position (c :: rest) =
      readFrom options rule
        ⟨[], ⟨.call name, position + name.length - name.length, [], nodes⟩ :: frames⟩
        (position + name.length + 1) inside := by
  have read : Token.next options position c rest =
      .ok (.identifier (String.ofList (c :: rest.takeWhile isIdentifierPart)), '(' :: inside) := by
    rw [next_identifier digit space punctuation start, call]
  have count := length_takeWhile isIdentifierPart rest
  have shorter := length_dropWhile_le isIdentifierPart rest
  rw [call, List.length_cons] at count shorter
  have place : position + 1 + (rest.length - inside.length) =
      position + (String.ofList (c :: rest.takeWhile isIdentifierPart)).length + 1 := by
    rw [String.length_ofList, List.length_cons]
    omega
  dsimp only
  rw [readFrom_of_call read, Nat.add_sub_cancel, place]
  rfl

end Identifiers

end Steps

/-! ## Descent and moves -/

mutual

/-- A row is read on by descent or by moves. -/
theorem readFrom_row (stop : Stop) (nodes : List Node) (position : Nat) (cs : List Char)
    {frames : List Frame} (within : Stop.within frames = stop) :
    readFrom options rule ⟨nodes, frames⟩ position cs =
      follow (readRow options rule stop nodes position cs) fun row =>
        readFrom options rule ⟨row.reverse, frames⟩ := by
  -- by recursion on the rest of the text, as the reader does it; the frames stay as they are
  match cs with
  | [] =>
    rw [readRow]
    simp [follow, Except.bind]
  | c :: rest =>
    have goOn (more : List Node) (place : Nat) {after : List Char}
        (shorter : after.length ≤ rest.length) :
        readFrom options rule ⟨more, frames⟩ place after =
          follow ((readRow options rule stop more place after).map fun later =>
            (later.widen (Nat.le_succ_of_le shorter) : Portion (List Node) (c :: rest)))
            fun row => readFrom options rule ⟨row.reverse, frames⟩ := by
      rw [Portion.follow_widen]
      exact readFrom_row stop more place after within
    rw [readRow]
    dsimp only
    by_cases ends : stop.endsBefore c = true
    · rw [if_pos ends]
      simp [follow, Except.bind]
    rw [if_neg ends]
    by_cases digit : c.isDigit = true
    · rw [if_pos digit, readFrom_number digit]
      exact goOn _ _ (length_dropWhile_le _ _)
    rw [if_neg digit]
    by_cases opening : c = '(' ∧ stop ≠ .finish
    · rw [if_pos opening]
      obtain ⟨rfl, inside⟩ := opening
      rw [readFrom_opening (within ▸ inside), readFrom_group, Portion.follow_bind]
      exact congrArg (Except.bind _) (funext fun group => goOn _ _ group.rest_le)
    rw [if_neg opening]
    by_cases space : isSpace c = true
    · rw [if_pos space, readFrom_space space]
      exact goOn _ _ (Nat.le_refl _)
    rw [if_neg space]
    by_cases punctuation : isPunctuation c = true
    · subst within
      rw [if_pos punctuation, readFrom_mark digit space punctuation ends opening]
      exact goOn _ _ (Nat.le_refl _)
    rw [if_neg punctuation]
    by_cases start : isIdentifierStart c = true
    · rw [if_pos start]
      have shorter := length_dropWhile_le isIdentifierPart rest
      split
      · rename_i inside call
        have smaller : inside.length < rest.length := by rwa [call] at shorter
        rw [readFrom_call digit space punctuation start call, readFrom_inside, Portion.follow_bind]
        exact congrArg (Except.bind _) (funext fun call =>
          goOn _ _ (Nat.le_trans call.rest_le (Nat.le_of_lt smaller)))
      · rename_i noCall
        rw [readFrom_word digit space punctuation start noCall]
        exact goOn _ _ shorter
    rw [if_neg start]
    by_cases quote : c = '\'' ∨ c = '"'
    · rw [if_pos quote]
      split
      · rename_i inside after closed
        have read : Token.next options position c rest =
            .ok (.quoted (String.ofList inside) c, after) := by
          simp [Token.next, digit, space, punctuation, start, quote, closed]
        rw [readFrom_of_next read (by simp)]
        exact goOn _ _ (Nat.le_of_lt (Text.Quoting.length_lt_of_readInside? closed))
      · rename_i unclosed
        have read : Token.next options position c rest =
            .error (.unterminated .quotedLiteral position) := by
          simp [Token.next, digit, space, punctuation, start, quote, unclosed]
        rw [readFrom_of_error read]
        rfl
    rw [if_neg quote]
    by_cases dollar : c = '$' ∧ options.parameters = true
    · rw [if_pos dollar]
      obtain ⟨rfl, enabled⟩ := dollar
      split
      · rename_i p after closed
        rw [readFrom_of_next ((next_dollar enabled position rest).trans closed) (by simp)]
        exact goOn _ _ (length_le_of_readParameter closed)
      · rename_i token after other closed
        obtain rfl := readParameter_eq_dollar closed fun p same => other p same
        rw [readFrom_of_next ((next_dollar enabled position rest).trans closed) (by simp)]
        exact goOn _ _ (length_le_of_readParameter closed)
      · rename_i e failed
        rw [readFrom_of_error ((next_dollar enabled position rest).trans failed)]
        rfl
    rw [if_neg dollar]
    by_cases strict : options.strict = true
    · have read : Token.next options position c rest = .error (.unexpectedChar c position) := by
        simp [Token.next, digit, space, punctuation, start, quote, dollar, strict]
      rw [if_pos strict, readFrom_of_error read]
      rfl
    · have read : Token.next options position c rest = .ok (.other c, rest) := by
        simp [Token.next, digit, space, punctuation, start, quote, dollar, strict]
      rw [if_neg strict, readFrom_of_next read (by simp), Nat.sub_self]
      exact goOn _ _ (Nat.le_refl _)
termination_by 2 * cs.length
decreasing_by all_goals (try simp only [List.length_cons]); omega

/-- A group is read by descent or by moves. -/
theorem readFrom_group (start : Nat) (cs : List Char) (nodes : List Node) (frames : List Frame) :
    readFrom options rule ⟨[], ⟨.group, start, [], nodes⟩ :: frames⟩ (start + 1) cs =
      follow (readGroup options rule start cs) fun group =>
        readFrom options rule ⟨group :: nodes, frames⟩ := by
  rw [readFrom_row .group [] (start + 1) cs rfl, readGroup]
  cases found : readRow options rule .group [] (start + 1) cs with
  | error e => rfl
  | ok row =>
    have ends := Node.endsBefore_of_readRow found
    obtain ⟨inside, position, left, le⟩ := row
    simp only [follow, Except.bind]
    dsimp only at ends
    match left with
    | [] =>
      rw [readFrom_nil]
      rfl
    | d :: after =>
      have closing : d = ')' := by simpa [Stop.endsBefore] using ends d rfl
      subst closing
      rw [readFrom_of_mark (by decide) (by decide) (by decide)]
      simp [Assembly.add, closeParen]
termination_by 2 * cs.length + 1

/-- A call is read by descent or by moves. -/
theorem readFrom_inside (name : String) (position : Nat) (cs : List Char) (nodes : List Node)
    (frames : List Frame) :
    readFrom options rule ⟨[], ⟨.call name, position - name.length, [], nodes⟩ :: frames⟩
        (position + 1) cs =
      follow (readCall options rule name position cs) fun call =>
        readFrom options rule ⟨call :: nodes, frames⟩ := by
  unfold readCall
  split
  · rw [readFrom_of_mark (by decide) (by decide) (by decide)]
    rfl
  · rename_i filled
    have some : cs.head? ≠ some ')' := by
      intro first
      obtain ⟨after, same⟩ := List.head?_eq_some_iff.mp first
      exact filled after same
    rw [readFrom_arguments name _ [] _ cs nodes frames (.inr some)]
    cases readArguments options rule (position - name.length) [] (position + 1) cs <;> rfl
termination_by 2 * cs.length + 2

/-- The arguments of a call are read on by descent or by moves. -/
theorem readFrom_arguments (name : String) (start : Nat) (args : List Node) (position : Nat)
    (cs : List Char) (nodes : List Node) (frames : List Frame)
    (some : args ≠ [] ∨ cs.head? ≠ some ')') :
    readFrom options rule ⟨[], ⟨.call name, start, args, nodes⟩ :: frames⟩ position cs =
      follow (readArguments options rule start args position cs) fun args =>
        readFrom options rule ⟨rule name args :: nodes, frames⟩ := by
  rw [readFrom_row .argument [] position cs rfl, readArguments]
  cases found : readRow options rule .argument [] position cs with
  | error e => rfl
  | ok row =>
    have ends := Node.endsBefore_of_readRow found
    have nothing := Node.readRow_eq_nil found
    obtain ⟨arg, place, left, le⟩ := row
    simp only [follow, Except.bind]
    dsimp only at ends nothing
    match left with
    | [] =>
      rw [readFrom_nil]
      rfl
    | d :: after =>
      have stop : d = ',' ∨ d = ')' := by simpa [Stop.endsBefore] using ends d rfl
      rcases stop with rfl | rfl
      · have more : Node.sequence arg :: args ≠ [] ∨ after.head? ≠ Option.some ')' := .inl (by simp)
        have later := readFrom_arguments name start (.sequence arg :: args) (place + 1) after nodes
          frames more
        rw [readFrom_of_mark (by decide) (by decide) (by decide)]
        have moved : Assembly.add rule ⟨arg.reverse, ⟨.call name, start, args, nodes⟩ :: frames⟩
            ⟨.mark ',', place⟩ =
            ⟨[], ⟨.call name, start, .sequence arg :: args, nodes⟩ :: frames⟩ := by
          simp [Assembly.add, comma]
        rw [moved, later]
        cases read : readArguments options rule start (.sequence arg :: args) (place + 1) after <;>
          simp [follow, Except.bind, Except.map, Portion.widen, read]
      · have filled : ¬(args = [] ∧ arg = []) := by
          rintro ⟨rfl, rfl⟩
          have unread := (nothing rfl).2
          subst unread
          simp at some
        rw [readFrom_of_mark (by decide) (by decide) (by decide)]
        simp [Assembly.add, closeParen, arguments, filled]
termination_by 2 * cs.length + 1

end

end

end Assembly

/-- Reading by descent builds the tree that the moves build from the tokens, and fails as they do:
on the first token that cannot be read, else at the innermost call or group that is left open. -/
theorem Node.parse_eq (options : TemplateOptions) (rule : CallRule) (text : String) :
    Node.parse options rule text =
      (Token.scan options text.toList).bind (Node.ofLexemes rule) := by
  have whole : Assembly.readFrom options rule ⟨[], []⟩ 0 text.toList = _ :=
    Assembly.readFrom_row .finish [] 0 text.toList rfl
  have moves : (Token.scan options text.toList).bind (ofLexemes rule) =
      (Assembly.readFrom options rule ⟨[], []⟩ 0 text.toList).map sequence := by
    rw [Assembly.readFrom, Token.scan]
    cases Token.scanFrom options 0 text.toList <;> rfl
  rw [moves, whole, parse]
  cases read : readRow options rule .finish [] 0 text.toList with
  | error e => rfl
  | ok row =>
    have finished : row.rest = [] := by
      cases left : row.rest with
      | nil => rfl
      | cons c rest =>
        have ends := endsBefore_of_readRow read c (by simp [left])
        cases ends
    simp [Portion.follow, Except.bind, Except.map, finished, Assembly.readFrom_nil, Assembly.run]

/-- A template can be read exactly if its tokens can, and they can be assembled to a tree. -/
theorem TemplateCompiler.parse_eq_ok_iff {compiler : TemplateCompiler} {text : String}
    {tree : Node} :
    compiler.parse text = .ok tree ↔
      ∃ lexemes nodes, Token.scan compiler.options text.toList = .ok lexemes ∧
        Assembly.run (compiler.callRule?.getD .plain) ⟨[], []⟩ lexemes = .ok nodes ∧
        tree = .sequence nodes := by
  simp only [parse, Node.parse_eq, Node.ofLexemes, Except.bind]
  cases Token.scan compiler.options text.toList with
  | error e => simp
  | ok lexemes =>
    cases assembled : Assembly.run (compiler.callRule?.getD .plain) ⟨[], []⟩ lexemes with
    | error e => simp [assembled, Except.map]
    | ok nodes => simp [assembled, Except.map, eq_comm]

end TransactionKit
