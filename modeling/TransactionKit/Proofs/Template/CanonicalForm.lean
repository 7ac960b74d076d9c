import Mathlib.Data.List.Chain
import TransactionKit.Proofs.Template.Descent

/-!
The form of the trees that are read. A tree consists of rows of nodes: the root, the arguments of
calls and the contents of groups. What a node of a row may be depends on where the row stands, and
only some nodes may be neighbours, so that no text is divided in two ways (`Node.CanonicalRow`). The
tokens of a text determine which nodes become neighbours (`Token.Scanned.canonical`), and every move
of an assembly keeps its finished and its open rows in this form (`Assembly.Canonical`):
`TemplateCompiler.parse_canonical`.
-/

namespace TransactionKit

open Token

/-! ## Canonical trees -/

/-- Where a row of nodes stands. -/
structure Setting where
  /-- Whether the row is inside an argument of a call, at any depth. -/
  inArgument : Bool
  /-- Whether the row is the content of a group. -/
  inGroup : Bool
deriving DecidableEq, Repr, Inhabited

namespace Setting

/-- The root of a tree. -/
def root : Setting :=
  ⟨false, false⟩

/-- An argument of a call. -/
def argument : Setting :=
  ⟨true, false⟩

/-- A group in a row. -/
def group (setting : Setting) : Setting :=
  { setting with inGroup := true }

end Setting

/-- A text that the grammar reads as one identifier. -/
def Token.IsIdentifier (name : List Char) : Prop :=
  ∃ c rest, name = c :: rest ∧ isIdentifierStart c = true ∧ ∀ d ∈ rest, isIdentifierPart d = true

/-- The text of a word in a setting. Parentheses inside an argument belong to calls and groups, and
a comma directly in an argument ends it. -/
structure Token.IsWord (options : TemplateOptions) (setting : Setting) (text : List Char) :
    Prop where
  nonempty : text ≠ []
  characters : ∀ c ∈ text,
    c ∉ ['\t', '\r', '\n', '\'', '"'] ∧ (options.parameters = true → c ≠ '$')
  spaces : text.IsChain fun c d => ¬(c = ' ' ∧ d = ' ')
  parentheses : setting.inArgument = true → '(' ∉ text ∧ ')' ∉ text
  commas : setting.inArgument = true → setting.inGroup = false → ',' ∉ text

namespace Node

/-- What a node of a row may be, apart from the rows inside it. -/
def Canonical (options : TemplateOptions) (setting : Setting) : Node → Prop
  | literal text => text = "$"
  | sequence _ => False
  | group _ => setting.inArgument = true
  | number text => ∃ c ∈ text.toList.head?, c.isDigit = true
  | word text => IsWord options setting text.toList
  | quoted _ delimiter => isQuote delimiter = true
  | call name args =>
    IsIdentifier name.toList ∧ args ≠ [.sequence []] ∧ ∀ arg ∈ args, ∃ row, arg = .sequence row
  | parameter p => ∃ c ∈ p.key.toList, Text.isBlank c = false

/-- Whether two nodes may be neighbours. Others would be read as one word, one number or one
literal. -/
def MayPrecede : Node → Node → Prop
  | word _, word _ => False
  | number _, number _ => False
  | number _, word text => text.toList.head? ≠ some '.'
  | quoted _ first, quoted _ second => first ≠ second
  | _, _ => True

/-- The rows of a row: itself and the rows of the groups and of the arguments in it, each with its
setting. -/
inductive Row : Setting → List Node → Setting → List Node → Prop
  | whole (setting : Setting) (row : List Node) : Row setting row setting row
  | group {setting within : Setting} {row content inner : List Node} (member : .group content ∈ row)
      (inside : Row setting.group content within inner) : Row setting row within inner
  | argument {setting within : Setting} {row args content inner : List Node} {name : String}
      (member : .call name args ∈ row) (arg : .sequence content ∈ args)
      (inside : Row .argument content within inner) : Row setting row within inner

/-- A row in canonical form, apart from the rows inside it. -/
structure CanonicalRow (options : TemplateOptions) (setting : Setting) (row : List Node) :
    Prop where
  nodes : ∀ node ∈ row, node.Canonical options setting
  neighbours : row.IsChain MayPrecede

/-- A row in canonical form with all rows inside it. -/
def CanonicalRows (options : TemplateOptions) (setting : Setting) (row : List Node) : Prop :=
  ∀ within inner, Row setting row within inner → CanonicalRow options within inner

end Node

/-! ## Words -/

namespace Token

variable {options : TemplateOptions} {setting : Setting} {text more : List Char}

theorem IsIdentifier.parts (identifier : IsIdentifier text) :
    text ≠ [] ∧ ∀ c ∈ text, isIdentifierPart c = true := by
  obtain ⟨c, rest, rfl, start, parts⟩ := identifier
  have first := isIdentifierPart_of_isIdentifierStart start
  exact ⟨List.cons_ne_nil c rest, List.forall_mem_cons.mpr ⟨first, parts⟩⟩

theorem isPunctuation_of_isIdentifierPart {c : Char} (part : isIdentifierPart c = true) :
    isPunctuation c = false := by
  by_contra punctuation
  rw [Bool.not_eq_false] at punctuation
  have noPart : isIdentifierPart c = false := eq_false_of_isPunctuation (by decide) punctuation
  exact Bool.false_ne_true (noPart.symm.trans part)

/-- A plain character is no blank, no quote and no dollar sign that means something. -/
theorem of_isPlain {c : Char} (plain : isPlain options c = true) :
    c ∉ ['\t', '\r', '\n', '\'', '"'] ∧ (options.parameters = true → c ≠ '$') ∧ c ≠ ' ' := by
  refine ⟨fun member => ?_, fun enabled => ne_dollar_of_isPlain enabled plain, ?_⟩
  · simp only [List.mem_cons, List.not_mem_nil, or_false] at member
    rcases member with rfl | rfl | rfl | rfl | rfl <;> cases plain
  · rintro rfl
    cases plain

/-- Plain characters form a word where no parentheses and commas among them mean something. -/
theorem isWord_of_plain (nonempty : text ≠ []) (plain : ∀ c ∈ text, isPlain options c = true)
    (parentheses : setting.inArgument = true → '(' ∉ text ∧ ')' ∉ text)
    (commas : setting.inArgument = true → setting.inGroup = false → ',' ∉ text) :
    IsWord options setting text where
  nonempty := nonempty
  characters c member := by
    obtain ⟨special, dollar, -⟩ := of_isPlain (plain c member)
    exact ⟨special, dollar⟩
  spaces := by
    apply List.Pairwise.isChain
    apply List.pairwise_of_forall_mem_list
    rintro c member d - ⟨space, -⟩
    exact (of_isPlain (plain c member)).2.2 space
  parentheses := parentheses
  commas := commas

theorem isWord_space : IsWord options setting [' '] where
  nonempty := by simp
  characters := by simp
  spaces := .singleton _
  parentheses := by simp
  commas := by simp

/-- Two words side by side are one, unless two spaces meet. -/
theorem IsWord.append (first : IsWord options setting text) (second : IsWord options setting more)
    (apart : text.getLast? = some ' ' → more.head? ≠ some ' ') :
    IsWord options setting (text ++ more) where
  nonempty := by simp [first.nonempty]
  characters c member := (List.mem_append.mp member).elim (first.characters c) (second.characters c)
  spaces := by
    refine List.isChain_append.mpr ⟨first.spaces, second.spaces, ?_⟩
    rintro c last d next ⟨rfl, rfl⟩
    exact apart last next
  parentheses inside := by
    obtain ⟨noOpening, noClosing⟩ := first.parentheses inside
    obtain ⟨alsoNoOpening, alsoNoClosing⟩ := second.parentheses inside
    simp [noOpening, noClosing, alsoNoOpening, alsoNoClosing]
  commas inside direct := by
    simp [first.commas inside direct, second.commas inside direct]

end Token

/-! ## Tokens -/

namespace Token

/-- What a token of a text is. -/
def Canonical (options : TemplateOptions) : Token → Prop
  | number text => ∃ c ∈ text.toList.head?, c.isDigit = true
  | blank => True
  | mark c => isPunctuation c = true
  | identifier name => IsIdentifier name.toList
  | quoted _ delimiter => isQuote delimiter = true
  | dollar => True
  | parameter p => ∃ c ∈ p.key.toList, Text.isBlank c = false
  | other c => isPunctuation c = false ∧ isPlain options c = true

/-- Whether a token may follow directly on what became a node. -/
def MayFollow : Node → Token → Prop
  | .number _, number _ => False
  | .number _, mark c => c ≠ '.'
  | .quoted _ first, quoted _ second => first ≠ second
  | _, _ => True

/-- The node that a token becomes in any case, if it matters to what may follow. -/
def node? : Token → Option Node
  | number text => some (.number text)
  | quoted text delimiter => some (.quoted text delimiter)
  | _ => none

/-- Whether two tokens may be neighbours. -/
def MayPrecede (first second : Token) : Prop :=
  ∀ node ∈ first.node?, MayFollow node second

variable {options : TemplateOptions}

/-- What is left of a text that is not blank when it is trimmed has a character that is no blank. -/
theorem exists_mem_trimList {cs : List Char} (nonempty : (Text.trimList cs).isEmpty = false) :
    ∃ c ∈ Text.trimList cs, Text.isBlank c = false := by
  by_contra none
  simp only [not_exists, not_and, Bool.not_eq_false] at none
  obtain ⟨before, after, split, blankBefore, blankAfter⟩ := Text.exists_append_trimList cs
  have blank : ∀ c ∈ cs, Text.isBlank c = true := by
    intro c member
    rw [split, List.mem_append, List.mem_append] at member
    rcases member with (member | member) | member
    · exact blankBefore c member
    · exact none c member
    · exact blankAfter c member
  have empty : Text.trimList (cs ++ [] ++ []) = [] :=
    Text.trimList_append blank (by simp) (by simp) (by simp)
  simp only [List.append_nil] at empty
  simp [empty] at nonempty

theorem key_of_parameterBetween {position : Nat} {inside : List Char} {p : Parameter}
    (between : parameterBetween position inside = .ok p) :
    ∃ c ∈ p.key.toList, Text.isBlank c = false := by
  unfold parameterBetween at between
  dsimp only at between
  split at between
  · cases between
  · rename_i nonempty
    rw [← Parameter.names_of_ofNames between, Bool.not_eq_true] at nonempty
    simpa [Parameter.key, Text.trim] using exists_mem_trimList nonempty

/-- Every token that is read is of its sort. -/
theorem Reads.canonical {cs after : List Char} {token : Token}
    (reads : Reads options cs token after) : token.Canonical options := by
  cases reads with
  | @number c run _ digit => exact ⟨c, by simp, digit⟩
  | blank | dollar => trivial
  | mark punctuation => exact punctuation
  | @identifier c run _ start parts => exact ⟨c, run, by simp, start, parts⟩
  | quoted quote => exact quote
  | parameter _ _ _ between => exact key_of_parameterBetween between
  | other _ _ space punctuation _ region =>
    exact ⟨punctuation, by simp [isPlain, space, region]⟩

/-- The sort of a token can be told from the first character of the text. -/
theorem Reads.mayFollow {node : Node} {cs after : List Char} {token : Token}
    (reads : Reads options cs token after)
    (number : ∀ text, node = .number text → ∀ c ∈ cs.head?, isNumberPart c = false)
    (quoted : ∀ text delimiter, node = .quoted text delimiter → cs.head? ≠ some delimiter) :
    MayFollow node token := by
  cases node with
  | number text =>
    have stops := number text rfl
    cases reads with
    | number digit parts =>
      have noPart := stops _ rfl
      simp [isNumberPart, digit] at noPart
    | mark punctuation =>
      rintro rfl
      cases stops _ rfl
    | _ => trivial
  | quoted text delimiter =>
    have stops := quoted text delimiter rfl
    cases reads with
    | quoted quote =>
      rintro rfl
      simp [Text.Quoting.encode] at stops
    | _ => trivial
  | _ => trivial

/-- A number is followed by no digit and no point, and a literal not by its own delimiter. -/
theorem Reads.mayPrecede {cs between after : List Char} {first second : Token}
    (reads : Reads options cs first between) (following : Reads options between second after) :
    first.MayPrecede second := by
  cases reads with
  | number digit parts stops =>
    rintro _ ⟨⟩
    exact following.mayFollow (fun _ _ => stops) nofun
  | quoted quote stops =>
    rintro _ ⟨⟩
    refine following.mayFollow nofun fun text delimiter same => ?_
    cases same
    exact stops
  | _ => exact nofun

/-- The tokens of a text are of their sorts, and only some are neighbours. -/
theorem Scanned.canonical {cs : List Char} {lexemes : List Lexeme}
    (scanned : Scanned options cs lexemes) :
    (∀ lexeme ∈ lexemes, lexeme.token.Canonical options) ∧
      lexemes.IsChain fun first second => first.token.MayPrecede second.token := by
  induction scanned with
  | nil => exact ⟨nofun, .nil⟩
  | @cons cs after token position lexemes reads scanned ih =>
    obtain ⟨canonical, chain⟩ := ih
    refine ⟨List.forall_mem_cons.mpr ⟨reads.canonical, canonical⟩, chain.cons ?_⟩
    intro next first
    cases scanned with
    | nil => cases first
    | cons following =>
      cases first
      exact reads.mayPrecede following

end Token

/-! ## Rows under construction -/

namespace Node

/-- A node with everything inside it in canonical form. -/
structure Sound (options : TemplateOptions) (setting : Setting) (node : Node) : Prop where
  canonical : node.Canonical options setting
  group : ∀ content, node = .group content → CanonicalRows options setting.group content
  argument : ∀ name args content, node = .call name args → .sequence content ∈ args →
    CanonicalRows options .argument content

/-- A row in canonical form with everything inside it, the last node first. -/
structure Built (options : TemplateOptions) (setting : Setting) (nodes : List Node) : Prop where
  sound : ∀ node ∈ nodes, node.Sound options setting
  neighbours : nodes.IsChain fun later earlier => earlier.MayPrecede later

variable {options : TemplateOptions} {setting : Setting} {nodes : List Node}

theorem built_nil : Built options setting [] :=
  ⟨nofun, .nil⟩

theorem Built.canonicalRows (built : Built options setting nodes) :
    CanonicalRows options setting nodes.reverse := by
  intro within inner row
  cases row with
  | whole =>
    refine ⟨fun node member => ?_, List.isChain_reverse.mpr built.neighbours⟩
    exact (built.sound node (List.mem_reverse.mp member)).canonical
  | group member inside =>
    exact (built.sound _ (List.mem_reverse.mp member)).group _ rfl within inner inside
  | argument member arg inside =>
    exact (built.sound _ (List.mem_reverse.mp member)).argument _ _ _ rfl arg within inner inside

theorem Built.push {node : Node} (built : Built options setting nodes)
    (sound : node.Sound options setting) (apart : ∀ last ∈ nodes.head?, last.MayPrecede node) :
    Built options setting (node :: nodes) :=
  ⟨List.forall_mem_cons.mpr ⟨sound, built.sound⟩, built.neighbours.cons apart⟩

theorem sound_word {text : String} (word : IsWord options setting text.toList) :
    Sound options setting (.word text) :=
  ⟨word, nofun, nofun⟩

/-- What stands before a word may also stand before a longer one. -/
theorem mayPrecede_word_append {node : Node} {w text : String} (nonempty : w.toList ≠ [])
    (apart : node.MayPrecede (.word w)) : node.MayPrecede (.word (w ++ text)) := by
  cases node with
  | number digits =>
    simp only [MayPrecede, String.toList_append] at apart ⊢
    rwa [List.head?_append_of_ne_nil _ nonempty]
  | word other => exact apart
  | _ => trivial

/-- A word at the end may become longer. -/
theorem Built.extend {w text : String} (built : Built options setting (.word w :: nodes))
    (word : IsWord options setting (w ++ text).toList) :
    Built options setting (.word (w ++ text) :: nodes) := by
  obtain ⟨sound, chain⟩ := built
  obtain ⟨last, others⟩ := List.forall_mem_cons.mp sound
  obtain ⟨apart, chain⟩ := List.isChain_cons.mp chain
  have shorter : IsWord options setting w.toList := last.canonical
  refine Built.push ⟨others, chain⟩ (sound_word word) fun node first => ?_
  exact mayPrecede_word_append shorter.nonempty (apart node first)

/-- Calls and groups may follow on everything. -/
theorem mayPrecede_call (node : Node) (name : String) (args : List Node) :
    node.MayPrecede (.call name args) := by
  cases node <;> trivial

theorem mayPrecede_group (node : Node) (content : List Node) :
    node.MayPrecede (.group content) := by
  cases node <;> trivial

end Node

/-! ## Trees under construction -/

/-- The setting of the row under construction in the innermost of some open frames. -/
def Setting.ofFrames : List Frame → Setting
  | [] => root
  | ⟨.call _, _, _, _⟩ :: _ => argument
  | ⟨.group, _, _, _⟩ :: outer => (ofFrames outer).group

/-- Open frames with everything that is finished in them in canonical form, the innermost first. -/
inductive Frame.Canonical (options : TemplateOptions) : List Frame → Prop
  | nil : Canonical options []
  | call {name : String} {position : Nat} {args before : List Node} {outer : List Frame}
      (identifier : IsIdentifier name.toList)
      (finished : ∀ arg ∈ args, ∃ content, arg = .sequence content ∧
        Node.CanonicalRows options .argument content)
      (built : Node.Built options (.ofFrames outer) before) (frames : Canonical options outer) :
      Canonical options (⟨.call name, position, args, before⟩ :: outer)
  | group {position : Nat} {args before : List Node} {outer : List Frame}
      (inArgument : (Setting.ofFrames outer).inArgument = true)
      (built : Node.Built options (.ofFrames outer) before) (frames : Canonical options outer) :
      Canonical options (⟨.group, position, args, before⟩ :: outer)

/-- Whatever is inside a call or a group is inside an argument. -/
theorem Frame.Canonical.inArgument {options : TemplateOptions} {frames : List Frame}
    (canonical : Canonical options frames) (nonempty : frames ≠ []) :
    (Setting.ofFrames frames).inArgument = true := by
  cases canonical with
  | nil => exact absurd rfl nonempty
  | call => rfl
  | group inArgument => exact inArgument

namespace Assembly

/-- A tree under construction with everything in it in canonical form. -/
structure Canonical (options : TemplateOptions) (asm : Assembly) : Prop where
  built : Node.Built options (.ofFrames asm.frames) asm.nodes
  frames : Frame.Canonical options asm.frames

variable {options : TemplateOptions} {asm : Assembly}

/-- Plain text is added to the word at the end, or becomes a word that does not go on with a
number. -/
theorem Canonical.pushText {text : String} (canonical : asm.Canonical options)
    (word : IsWord options (.ofFrames asm.frames) text.toList)
    (plain : ∀ c ∈ text.toList, isPlain options c = true)
    (apart : ∀ digits, .number digits ∈ asm.nodes.head? → text.toList.head? ≠ some '.') :
    (asm.pushText text).Canonical options := by
  obtain ⟨nodes, frames⟩ := asm
  obtain ⟨built, opened⟩ := canonical
  unfold Assembly.pushText Node.pushText
  split
  · rename_i w before last
    obtain rfl : nodes = .word w :: before := last
    refine ⟨built.extend ?_, opened⟩
    rw [String.toList_append]
    have shorter : IsWord options (.ofFrames frames) w.toList :=
      (built.sound _ List.mem_cons_self).canonical
    refine shorter.append word fun _ first => ?_
    exact (of_isPlain (plain ' ' (List.mem_of_mem_head? first))).2.2 rfl
  · rename_i noWord
    refine ⟨built.push (Node.sound_word word) fun node first => ?_, opened⟩
    cases node with
    | word w =>
      obtain ⟨before, last⟩ := List.head?_eq_some_iff.mp first
      exact absurd last (noWord w before)
    | number digits => exact apart digits first
    | _ => trivial

theorem Canonical.pushSpace (canonical : asm.Canonical options) :
    asm.pushSpace.Canonical options := by
  obtain ⟨nodes, frames⟩ := asm
  obtain ⟨built, opened⟩ := canonical
  unfold Assembly.pushSpace Node.pushSpace
  split
  · rename_i w before last
    obtain rfl : nodes = .word w :: before := last
    split
    · exact ⟨built, opened⟩
    · rename_i noSpace
      refine ⟨built.extend ?_, opened⟩
      rw [String.toList_append]
      have shorter : IsWord options (.ofFrames frames) w.toList :=
        (built.sound _ List.mem_cons_self).canonical
      exact shorter.append isWord_space fun space => absurd space noSpace
  · rename_i noWord
    refine ⟨built.push (Node.sound_word isWord_space) fun node first => ?_, opened⟩
    cases node with
    | word w =>
      obtain ⟨before, last⟩ := List.head?_eq_some_iff.mp first
      exact absurd last (noWord w before)
    | number digits => simp [Node.MayPrecede]
    | _ => trivial

/-- A punctuation mark that is text where the tree is built. -/
theorem Canonical.pushMark (canonical : asm.Canonical options) (c : Char)
    (punctuation : isPunctuation c = true)
    (parentheses : (Setting.ofFrames asm.frames).inArgument = true → c ≠ '(' ∧ c ≠ ')')
    (commas : (Setting.ofFrames asm.frames).inArgument = true →
      (Setting.ofFrames asm.frames).inGroup = false → c ≠ ',')
    (apart : ∀ digits, .number digits ∈ asm.nodes.head? → c ≠ '.') :
    (asm.pushText c.toString).Canonical options := by
  have plain : ∀ d ∈ c.toString.toList, isPlain options d = true := by
    simp [isPlain_of_isPunctuation punctuation]
  refine canonical.pushText (isWord_of_plain (by simp) plain ?_ ?_) plain ?_
  · intro inside
    obtain ⟨noOpening, noClosing⟩ := parentheses inside
    simp [noOpening.symm, noClosing.symm]
  · intro inside direct
    simp [(commas inside direct).symm]
  · intro digits last
    simpa using apart digits last

theorem Canonical.openParen (canonical : asm.Canonical options) (position : Nat) :
    (asm.openParen position).Canonical options := by
  unfold Assembly.openParen
  split
  · rename_i outside
    have root : (Setting.ofFrames asm.frames).inArgument = false := by
      rw [List.isEmpty_iff.mp outside]
      rfl
    exact canonical.pushMark '(' rfl (by simp [root]) (by simp [root]) (by simp)
  · rename_i inside
    have nonempty : asm.frames ≠ [] := by simpa using inside
    exact ⟨Node.built_nil,
      .group (canonical.frames.inArgument nonempty) canonical.built canonical.frames⟩

theorem Canonical.comma (canonical : asm.Canonical options) : asm.comma.Canonical options := by
  obtain ⟨nodes, frames⟩ := asm
  obtain ⟨built, opened⟩ := canonical
  cases opened with
  | nil => exact Canonical.pushMark ⟨built, .nil⟩ ',' rfl nofun nofun (by simp)
  | call identifier finished before outer =>
    refine ⟨Node.built_nil, .call identifier ?_ before outer⟩
    exact List.forall_mem_cons.mpr ⟨⟨_, rfl, built.canonicalRows⟩, finished⟩
  | group inArgument before outer =>
    exact Canonical.pushMark ⟨built, .group inArgument before outer⟩ ',' rfl (by simp)
      (by simp [Setting.ofFrames, Setting.group]) (by simp)

/-- The arguments of a call are rows, and a single one is not empty. -/
theorem canonical_arguments {args nodes : List Node}
    (finished : ∀ arg ∈ args, ∃ content, arg = .sequence content ∧
      Node.CanonicalRows options .argument content)
    (last : Node.CanonicalRows options .argument nodes.reverse) :
    arguments args nodes ≠ [.sequence []] ∧ ∀ arg ∈ arguments args nodes,
      ∃ content, arg = .sequence content ∧ Node.CanonicalRows options .argument content := by
  unfold arguments
  split
  · simp
  · rename_i some
    constructor
    · intro single
      rw [List.reverse_eq_iff, List.reverse_singleton, List.cons.injEq] at single
      obtain ⟨empty, none⟩ := single
      simp only [Node.sequence.injEq, List.reverse_eq_nil_iff] at empty
      simp [empty, none] at some
    · intro arg member
      rcases List.mem_cons.mp (List.mem_reverse.mp member) with rfl | earlier
      · exact ⟨_, rfl, last⟩
      · exact finished arg earlier

theorem Canonical.closeParen (canonical : asm.Canonical options) :
    (asm.closeParen .plain).Canonical options := by
  obtain ⟨nodes, frames⟩ := asm
  obtain ⟨built, opened⟩ := canonical
  cases opened with
  | nil => exact Canonical.pushMark ⟨built, .nil⟩ ')' rfl nofun nofun (by simp)
  | @call name position args before outer identifier finished beforeBuilt outerOpen =>
    obtain ⟨nonempty, rows⟩ := canonical_arguments finished built.canonicalRows
    refine ⟨beforeBuilt.push ⟨⟨identifier, nonempty, ?_⟩, nofun, ?_⟩ ?_, outerOpen⟩
    · intro arg member
      obtain ⟨content, same, -⟩ := rows arg member
      exact ⟨content, same⟩
    · rintro _ _ content ⟨⟩ member
      obtain ⟨_, ⟨⟩, canonical⟩ := rows _ member
      exact canonical
    · exact fun node _ => node.mayPrecede_call name _
  | group inArgument beforeBuilt outerOpen =>
    refine ⟨beforeBuilt.push ⟨inArgument, ?_, nofun⟩ ?_, outerOpen⟩
    · rintro _ ⟨⟩
      exact built.canonicalRows
    · exact fun node _ => node.mayPrecede_group _

/-- Whether a token may follow on the node at the end. -/
def Admits (asm : Assembly) (token : Token) : Prop :=
  ∀ node ∈ asm.nodes.head?, MayFollow node token

/-- No number is followed by a character that would continue it. -/
theorem Canonical.pushUnnumbered {text : String} (canonical : asm.Canonical options)
    (nonempty : text.toList ≠ []) (plain : ∀ c ∈ text.toList, isPlain options c = true)
    (unmarked : ∀ c ∈ text.toList, isPunctuation c = false) :
    (asm.pushText text).Canonical options := by
  have differs (mark : Char) (punctuation : isPunctuation mark = true) : mark ∉ text.toList := by
    intro member
    rw [unmarked mark member] at punctuation
    cases punctuation
  refine canonical.pushText (isWord_of_plain nonempty plain ?_ ?_) plain ?_
  · exact fun _ => ⟨differs '(' rfl, differs ')' rfl⟩
  · exact fun _ _ => differs ',' rfl
  · exact fun _ _ first => differs '.' rfl (List.mem_of_mem_head? first)

/-- Adding a token keeps a tree in canonical form. -/
theorem Canonical.add {lexeme : Lexeme} (canonical : asm.Canonical options)
    (token : lexeme.token.Canonical options) (admits : asm.Admits lexeme.token) :
    (asm.add .plain lexeme).Canonical options := by
  unfold Assembly.add
  cases shape : lexeme.token with
  | number text =>
    rw [shape] at token admits
    -- only another number at the end would be in the way, and then the token is not admitted
    refine ⟨canonical.built.push ⟨token, nofun, nofun⟩ fun node last => ?_, canonical.frames⟩
    have follows := admits node last
    cases node <;> trivial
  | blank => exact canonical.pushSpace
  | mark c =>
    rw [shape] at token admits
    dsimp only
    split
    · exact canonical.openParen lexeme.position
    split
    · exact canonical.comma
    split
    · exact canonical.closeParen
    · rename_i noOpening noComma noClosing
      exact canonical.pushMark c token (fun _ => ⟨noOpening, noClosing⟩) (fun _ _ => noComma)
        fun digits last => admits _ last
  | identifier name =>
    rw [shape] at token
    obtain ⟨nonempty, parts⟩ := token.parts
    exact canonical.pushUnnumbered nonempty
      (fun c member => isPlain_of_isIdentifierPart (parts c member))
      (fun c member => isPunctuation_of_isIdentifierPart (parts c member))
  | quoted text delimiter =>
    rw [shape] at token admits
    refine ⟨canonical.built.push ⟨token, nofun, nofun⟩ fun node last => ?_, canonical.frames⟩
    have follows := admits node last
    cases node <;> trivial
  | dollar =>
    refine ⟨canonical.built.push ⟨rfl, nofun, nofun⟩ fun node _ => ?_, canonical.frames⟩
    cases node <;> trivial
  | parameter p =>
    rw [shape] at token
    refine ⟨canonical.built.push ⟨token, nofun, nofun⟩ fun node _ => ?_, canonical.frames⟩
    cases node <;> trivial
  | other c =>
    rw [shape] at token
    obtain ⟨punctuation, plain⟩ := token
    exact canonical.pushUnnumbered (by simp) (by simpa using plain) (by simpa using punctuation)

/-! ## What may follow on a tree under construction -/

/-- Every token may follow on the node at the end. -/
def Open (asm : Assembly) : Prop :=
  ∀ token, asm.Admits token

theorem open_pushText (asm : Assembly) (text : String) : (asm.pushText text).Open := by
  unfold Assembly.pushText Node.pushText
  split <;> rintro token _ ⟨⟩ <;> trivial

theorem open_pushSpace (asm : Assembly) : asm.pushSpace.Open := by
  unfold Assembly.pushSpace Node.pushSpace
  split
  · split <;> rintro token _ ⟨⟩ <;> trivial
  · rintro token _ ⟨⟩
    trivial

theorem open_openParen (asm : Assembly) (position : Nat) : (asm.openParen position).Open := by
  unfold Assembly.openParen
  split
  · exact asm.open_pushText "("
  · exact nofun

theorem open_comma (asm : Assembly) : asm.comma.Open := by
  unfold Assembly.comma
  split
  · exact nofun
  · exact asm.open_pushText ","

theorem open_closeParen (asm : Assembly) : (asm.closeParen .plain).Open := by
  unfold Assembly.closeParen
  split
  · exact asm.open_pushText ")"
  · rintro token _ ⟨⟩
    trivial
  · rintro token _ ⟨⟩
    trivial

/-- What may follow on a token may follow on what it is added to. -/
theorem admits_add {lexeme : Lexeme} {next : Token} (asm : Assembly)
    (mayPrecede : lexeme.token.MayPrecede next) : (asm.add .plain lexeme).Admits next := by
  unfold Assembly.add
  cases shape : lexeme.token with
  | number text | quoted text delimiter =>
    rw [shape] at mayPrecede
    rintro _ ⟨⟩
    exact mayPrecede _ rfl
  | blank => exact asm.open_pushSpace next
  | mark c =>
    dsimp only
    split
    · exact asm.open_openParen lexeme.position next
    split
    · exact asm.open_comma next
    split
    · exact asm.open_closeParen next
    · exact asm.open_pushText c.toString next
  | identifier name => exact asm.open_pushText name next
  | dollar | parameter p =>
    rintro _ ⟨⟩
    trivial
  | other c => exact asm.open_pushText c.toString next

/-- The nodes that a row of tokens is assembled to are in canonical form. -/
theorem Canonical.run {lexemes : List Lexeme} {nodes : List Node}
    (canonical : asm.Canonical options) (assembled : run .plain asm lexemes = .ok nodes)
    (tokens : ∀ lexeme ∈ lexemes, lexeme.token.Canonical options)
    (chain : lexemes.IsChain fun first second => first.token.MayPrecede second.token)
    (admits : ∀ first ∈ lexemes.head?, asm.Admits first.token) :
    Node.CanonicalRows options .root nodes := by
  induction asm, lexemes using run_induction .plain with
  | done asm =>
    obtain ⟨last, frames⟩ := asm
    cases frames with
    | nil =>
      cases assembled
      exact canonical.built.canonicalRows
    | cons => cases assembled
  | call asm lexeme next later name identifier paren ih =>
    rw [run_call identifier paren] at assembled
    simp only [List.forall_mem_cons] at tokens
    obtain ⟨first, -, tokens⟩ := tokens
    rw [identifier] at first
    -- the parenthesis belongs to the name, so the row inside it starts without a node
    refine ih ⟨Node.built_nil, .call first ?_ canonical.built canonical.frames⟩ assembled tokens
      chain.tail.tail ?_
    · exact nofun
    · exact nofun
  | other asm lexeme later noCall ih =>
    rw [run_cons noCall] at assembled
    obtain ⟨first, tokens⟩ := List.forall_mem_cons.mp tokens
    obtain ⟨mayPrecede, chain⟩ := List.isChain_cons.mp chain
    refine ih (canonical.add first (admits lexeme rfl)) assembled tokens chain ?_
    exact fun next follows => asm.admits_add (mayPrecede next follows)

end Assembly

/-! ## The form of a template -/

namespace TemplateCompiler

/-- The tree of a template is a row in canonical form, and so is everything inside it. -/
theorem parse_canonical {compiler : TemplateCompiler} (plain : compiler.callRule? = none)
    {text : String} {tree : Node} (parsed : compiler.parse text = .ok tree) :
    ∃ nodes, tree = .sequence nodes ∧ Node.CanonicalRows compiler.options .root nodes := by
  obtain ⟨lexemes, nodes, scan, assembled, rfl⟩ := parse_eq_ok_iff.mp parsed
  rw [plain, Option.getD_none] at assembled
  obtain ⟨tokens, chain⟩ := (scanned_of_scan scan).canonical
  have start : Assembly.Canonical compiler.options ⟨[], []⟩ := ⟨Node.built_nil, .nil⟩
  exact ⟨nodes, rfl, start.run assembled tokens chain nofun⟩

/-- A comma and a space in a group, inside an argument beside an argument of one space. -/
theorem lenient_parse_canonical : lenient.callRule? = none ∧ ∃ nodes,
    lenient.parse "(a,1.5) f( ,g((x,\t\"q\"),$n, text$))''\"\"$$" = .ok (.sequence nodes) ∧
      Node.Row .root nodes Setting.argument.group [.word "x, ", .quoted "q" '"'] ∧
      Node.CanonicalRow {} Setting.argument.group [.word "x, ", .quoted "q" '"'] := by
  let group : List Node := [.word "x, ", .quoted "q" '"']
  let inner : List Node :=
    [.call "g" [.sequence [.group group], .sequence [.parameter ⟨["n", " text"], some .text⟩]]]
  let nodes : List Node :=
    [.word "(a,", .number "1.5", .word ") ", .call "f" [.sequence [.word " "], .sequence inner],
      .quoted "" '\'', .quoted "" '"', .literal "$"]
  have parsed : lenient.parse "(a,1.5) f( ,g((x,\t\"q\"),$n, text$))''\"\"$$" =
      .ok (.sequence nodes) := by
    decide +kernel
  have outer : .call "f" [.sequence [.word " "], .sequence inner] ∈ nodes := by
    simp [nodes]
  have second : Node.sequence inner ∈ [.sequence [.word " "], .sequence inner] := by
    simp
  have row : Node.Row .root nodes Setting.argument.group group :=
    .argument outer second (.argument List.mem_cons_self List.mem_cons_self
      (.group List.mem_cons_self (.whole _ _)))
  obtain ⟨_, ⟨⟩, canonical⟩ := parse_canonical rfl parsed
  exact ⟨rfl, nodes, parsed, row, canonical _ _ row⟩

end TemplateCompiler

end TransactionKit
