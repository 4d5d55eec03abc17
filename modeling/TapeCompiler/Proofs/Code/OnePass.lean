import TapeCompiler.Proofs.Code.Emission
import TapeCompiler.Proofs.Source.RoundTrip
import TapeCompiler.Proofs.Text.Lines

/-!
# Compiling in one pass

A compiler could do without the tree: it reads the words of a source from left to right, writes the
lines of each as it meets it, and keeps nothing but a depth that it counts up behind an opening
bracket and down in front of a closing one. Such a translator writes the same code as the compiler,
which puts the whole program together first.

The compiler alone refuses a tape whose number of cells has more than 4300 digits.

## Main definitions

* `OnePass.lines` — the lines that the translator writes for a row of words

## Main results

* `OnePass.lines_eq` — they are the lines of the compiler
* `compile_eq_onePass` — the code of a source
* `not_forall_compile_eq_onePass` — there are sizes of the tape for which there is no code
-/

namespace TapeCompiler

namespace OnePass

/-- A line at a depth: behind as many indentations. An empty line stays empty. -/
def placed (indent : Text) (depth : Int) (line : Text) : Text :=
  if line = [] then [] else (List.replicate depth.toNat indent).flatten ++ line

/-- The lines of a word that is no bracket. A move or a change goes by one, forward or backward. -/
def word : Instruction → List Text
  | .move offset => if offset = 1 then ["ptr += 1;".toList] else ["ptr -= 1;".toList]
  | .cell _ operand => if operand = 1 then ["*ptr += 1;".toList] else ["*ptr += -1;".toList]
  | .output => ["putchar(*ptr);".toList]
  | .input => ["*ptr = getchar();".toList]
  | .insert t =>
    "/* Start of inserted section */".toList :: t.splitLines ++
      ["/* End of inserted section */".toList]

/-- The lines of a row of words, one word after another, from a depth on. -/
def lines (indent : Text) : Int → List (Token Instruction) → List Text :=
  Token.lines (placed indent) word "while (*ptr) \x7b".toList "\x7d".toList

theorem placed_eq (indent : Text) (depth : Int) :
    placed indent depth = Lines.indented (indent.times depth) := by
  funext line
  rw [placed, Lines.indented, Text.times_eq_flatten]

theorem word_eq {i : Instruction} (h : i.IsBare) : word i = C.statement i := by
  cases i with
  | move offset => rcases h with rfl | rfl <;> decide
  | cell op operand => obtain ⟨rfl, rfl | rfl⟩ := h <;> decide
  | output => rfl
  | input => rfl
  | insert t => rfl

/-- The translator writes the lines that the tokens have in C. -/
theorem lines_eq (indent : Text) {text : Text} {ts : List (Token Instruction)}
    (h : IsRow text ts) (depth : Int) : lines indent depth ts = C.lines indent depth ts := by
  induction h generalizing depth with
  | nil _ => rfl
  | @cons _ _ _ t _ _ hword _ ih =>
    simp only [lines, C.lines] at ih ⊢
    cases t with
    | leaf i => rw [Token.lines, Token.lines, word_eq hword.isBare, ih, placed_eq]
    | opening =>
      rw [Token.lines, Token.lines, ih, placed_eq]
      rfl
    | closing =>
      rw [Token.lines, Token.lines, ih, placed_eq]
      rfl

end OnePass

/-- A source that holds a program is a row of words in exactly one way. Its code is the opening
lines, the lines that the translator writes for these words from depth one on, and the ending lines,
each with a line break behind it; unless the number of all cells is too large to be written. -/
theorem compile_eq_onePass {o : Options} {indent source : Text} {program : Program}
    (accepted : parse source = .ok program) :
    ∃ words, IsRow source words ∧ (∀ others, IsRow source others → others = words) ∧
      ((o.settings (.text indent)).compile source).map Code.text =
        if Tape.isWritable (o.pre + o.post) then
          .ok (Text.endLines (C.opening indent o.pre o.post ++ OnePass.lines indent 1 words ++
            C.ending indent))
        else .error (.tape .unwritable) := by
  have hrow := parse_eq_ok_iff.mp accepted
  -- The words are the tokens of the tree, so that both sides write the lines of one row.
  refine ⟨program.tokens, hrow, fun others h => h.unique hrow, ?_⟩
  simp only [Options.compile_eq, accepted, OnePass.lines_eq indent hrow]
  have htext : (o.code indent program).text = Text.endLines (o.code indent program).lines :=
    Code.text_eq (by simp [Options.code_eq, C.opening])
  rw [Options.code_eq] at htext ⊢
  cases Tape.isWritable (o.pre + o.post) with
  | true => exact congrArg Except.ok htext
  | false => rfl

/-- The code of a loop with an insert, whose text has an empty line, and with a comment. -/
theorem compile_eq_onePass_insert :
    parse ['[', ':', ':', '\n', 'a', ':', ':', '#', '+', '#', ']'] =
        .ok [.loop [.leaf (.insert ['\n', 'a'])]] ∧
      ((({} : Options).settings (.text ['\t'])).compile
          ['[', ':', ':', '\n', 'a', ':', ':', '#', '+', '#', ']']).map Code.text =
        .ok (Text.endLines ["#include <stdio.h>".toList, [], "int main(void) \x7b".toList,
          "\tstatic unsigned char cells[30000] = \x7b0\x7d;".toList,
          "\tunsigned char *ptr = cells;".toList,
          "\twhile (*ptr) \x7b".toList,
          "\t\t/* Start of inserted section */".toList, [], "\t\ta".toList,
          "\t\t/* End of inserted section */".toList,
          "\t\x7d".toList, "\treturn 0;".toList, "\x7d".toList]) := by
  have hinsert : Enclosable ['\n', 'a'] := by decide
  have hcomment : IsGap ['#', '+', '#'] := .comment (by decide : '#' ∉ ['+']) .nil
  have hrow := IsRow.cons .nil .opening (.cons .nil (.insert hinsert)
    (.cons hcomment .closing (.nil .nil)))
  have accepted : parse ['[', ':', ':', '\n', 'a', ':', ':', '#', '+', '#', ']'] =
      .ok [.loop [.leaf (.insert ['\n', 'a'])]] := by
    rw [parse_eq_ok_iff]
    simpa using hrow
  refine ⟨accepted, ?_⟩
  have hpass := @compile_eq_onePass {} ['\t'] _ _ accepted
  obtain ⟨words, -, hunique, hcode⟩ := hpass
  have hwritable : Tape.isWritable (0 + defaultLength) = true := by decide +kernel
  rw [hcode, if_pos hwritable, ← hunique _ hrow]
  refine congrArg Except.ok ?_
  decide +kernel

/-- A tape of `10 ^ 4300` cells is accepted, but nothing is compiled for it. -/
theorem not_forall_compile_eq_onePass :
    ¬ ∀ (o : Options) (indent source : Text) (program : Program), parse source = .ok program →
      ∃ words, IsRow source words ∧
        ((o.settings (.text indent)).compile source).map Code.text =
          .ok (Text.endLines (C.opening indent o.pre o.post ++ OnePass.lines indent 1 words ++
            C.ending indent)) := by
  intro h
  have accepted : parse ['+'] = .ok [.leaf (.cell .add 1)] := by
    rw [parse_eq_ok_iff]
    simpa using IsRow.word .increment
  obtain ⟨words, -, hcode⟩ := h .vast Indentation.standard ['+'] _ accepted
  rw [Options.compile_vast _ accepted] at hcode
  cases hcode

end TapeCompiler
