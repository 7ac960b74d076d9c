import TransactionKit.Proofs.Template.Descent

/-!
What a text literal says. The literal of a text can be told from whatever is written after it, as
long as that does not start with the quote character again, so a statement has room for one text
only where the literal stands: `RendererConfig.read?_textLiteral`. Two texts never share a literal,
and a template that consists of a literal is the quoted text and nothing else.
-/

namespace TransactionKit

open Token

variable {config : RendererConfig}

/-- The literal of a text is the quoted text to every compiler, whatever its options and its rule
for calls: a literal without protected backslashes is what a template reader calls a literal. -/
theorem TemplateCompiler.parse_textLiteral (compiler : TemplateCompiler)
    (quote : isQuote config.quote = true) (plain : config.escapeBackslash = false) (s : String) :
    compiler.parse (config.textLiteral s) = .ok (.sequence [.quoted s config.quote]) := by
  have quoting : config.quoting = ⟨config.quote, false⟩ := by
    rw [RendererConfig.quoting, plain]
  have scanned : Scanned compiler.options (config.textLiteral s).toList
      [⟨.quoted s config.quote, 0⟩] := by
    have reads := @Reads.quoted compiler.options config.quote s.toList [] quote (by simp)
    rw [List.append_nil, String.ofList_toList, ← quoting] at reads
    rw [RendererConfig.textLiteral, String.toList_ofList]
    exact .cons reads .nil
  obtain ⟨lexemes, scan, tokens⟩ := scan_of_scanned scanned 0
  have alone : ∃ lexeme, lexemes = [lexeme] ∧ lexeme.token = .quoted s config.quote := by
    obtain ⟨lexeme, later, rfl, token, rest⟩ := List.map_eq_cons_iff.mp tokens
    obtain rfl := List.map_eq_nil_iff.mp rest
    exact ⟨lexeme, rfl, token⟩
  obtain ⟨lexeme, rfl, token⟩ := alone
  refine parse_eq_ok_iff.mpr ⟨_, _, scan, ?_, rfl⟩
  simp [Assembly.run, Assembly.add, token, Assembly.push]

namespace RendererConfig

/-- Where a text literal is followed by anything but its quote character, the text and what follows
the literal are known from the whole. -/
theorem textLiteral_append_inj {s t : String} {rest after : List Char}
    (restStops : rest.head? ≠ some config.quote) (afterStops : after.head? ≠ some config.quote)
    (same : (config.textLiteral s).toList ++ rest = (config.textLiteral t).toList ++ after) :
    s = t ∧ rest = after := by
  have first := (config.quoting.read?_encode_append s.toList rest).mpr restStops
  have second := (config.quoting.read?_encode_append t.toList after).mpr afterStops
  simp only [textLiteral, String.toList_ofList] at same
  rw [same, second] at first
  simp only [Option.some.injEq, Prod.mk.injEq, String.toList_inj] at first
  exact ⟨first.1.symm, first.2.symm⟩

/-- A reader of literals finds the text in its literal, and leaves exactly what follows the literal,
if and only if that does not start with the quote character. A literal between single or double
quote characters, with its backslashes as they are, is also what a template reader takes for one
quoted text. -/
theorem read?_textLiteral (config : RendererConfig) (s : String) :
    (∀ rest, config.quoting.read? ((config.textLiteral s).toList ++ rest) = some (s.toList, rest) ↔
        rest.head? ≠ some config.quote) ∧
      (config.quote = '\'' ∨ config.quote = '"' → config.escapeBackslash = false →
        ∀ compiler : TemplateCompiler,
          compiler.parse (config.textLiteral s) = .ok (.sequence [.quoted s config.quote])) := by
  constructor
  · intro rest
    rw [textLiteral, String.toList_ofList]
    exact config.quoting.read?_encode_append s.toList rest
  · intro quote plain compiler
    exact compiler.parse_textLiteral (by simpa [isQuote] using quote) plain s

/-- A text of quote characters and backslashes at both ends is read back in front of a backslash. -/
theorem read?_textLiteral_backslashes :
    RendererConfig.textLiteral { escapeBackslash := true } "'\\'\\" = "'''\\\\''\\\\'" ∧
      Text.Quoting.read? ⟨'\'', true⟩ "'''\\\\''\\\\'\\'".toList =
        some ("'\\'\\".toList, "\\'".toList) ∧
      TemplateCompiler.strict.parse "\"'\\\"\"\"" = .ok (.sequence [.quoted "'\\\"" '"']) := by
  have literal : RendererConfig.textLiteral { escapeBackslash := true } "'\\'\\" =
      "'''\\\\''\\\\'" := by
    decide +kernel
  have other : RendererConfig.textLiteral { quote := '"' } "'\\\"" = "\"'\\\"\"\"" := by
    decide +kernel
  have first := ((read?_textLiteral { escapeBackslash := true } "'\\'\\").1 ['\\', '\'']).mpr
    (by decide)
  have second := (read?_textLiteral { quote := '"' } "'\\\"").2 (.inr rfl) rfl .strict
  rw [literal] at first
  rw [other] at second
  exact ⟨literal, first, second⟩

end RendererConfig

end TransactionKit
