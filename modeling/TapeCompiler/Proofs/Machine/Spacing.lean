import Mathlib.Data.List.DropRight
import TapeCompiler.Proofs.Machine.CodeListing

/-!
# Code with white space in its margins

White space in front of a line means nothing in C, and neither does a line of white space alone. So
whatever white space the lines of a program are indented with, tabs and line breaks included, its
code says the same. Behind its margin every line is one of those that the plain reader knows.

## Main definitions

* `C.isSpace` — the white space of C
* `Listing.solidLines` — the lines of a text without their margins and without the empty ones
* `Listing.IsSolid` — the lines that are kept as they are
* `Listing.ofSpaced?` — the sizes and the statements of a text with any margins
* `Options.listing` — the sizes and the statements of a program

## Main results

* `Listing.solidLines_append` — a margin means nothing
* `Listing.exists_solidLines` — the solid lines of a row of tokens
* `Listing.ofSpaced?_lines`, `Options.ofSpaced?_code` — the listing of the code of a program, with
  any white space as margins
-/

namespace TapeCompiler

/-- Whether a character is white space in C: a blank, a tab in either direction, a line break or a
form feed. -/
def C.isSpace (c : Char) : Bool :=
  [' ', '\t', '\n', '\x0b', '\x0c'].contains c

namespace Listing

/-- The lines of a text in C, each without the white space in front of it. Lines of white space are
left out. -/
def solidLines (t : Text) : List Text :=
  (t.splitLines.map (List.dropWhile C.isSpace)).filter (· ≠ [])

/-- A single line that begins with a character other than white space. -/
def IsSolid (line : Text) : Prop :=
  '\n' ∉ line ∧ ∃ c rest, line = c :: rest ∧ C.isSpace c = false

/-- What a text in C says, whatever white space its lines begin with. -/
def ofSpaced? (t : Text) : Option Listing :=
  match solidLines t with
  | header :: rest => ofLines? (header :: [] :: rest)
  | [] => none

/-! ### Margins -/

theorem solidLines_cons_space {c : Char} (hc : C.isSpace c = true) (t : Text) :
    solidLines (c :: t) = solidLines t := by
  obtain ⟨line, rest, hsplit⟩ := List.exists_cons_of_ne_nil (Text.splitLines_ne_nil t)
  by_cases hbreak : c = '\n'
  · rw [solidLines, hbreak, Text.splitLines_lineBreak]
    simp [solidLines]
  · -- The character belongs to the margin of the first line.
    rw [solidLines, Text.splitLines_cons hbreak hsplit]
    simp [solidLines, hsplit, hc]

/-- White space in front of a text means nothing. -/
theorem solidLines_append {margin : Text} (h : ∀ c ∈ margin, C.isSpace c = true) (t : Text) :
    solidLines (margin ++ t) = solidLines t := by
  induction margin with
  | nil => rfl
  | cons c margin ih =>
    rw [List.cons_append, solidLines_cons_space (h c (by simp)), ih fun d hd => h d (by simp [hd])]

theorem solidLines_lineBreak (t : Text) : solidLines ('\n' :: t) = solidLines t :=
  solidLines_cons_space (by decide) t

/-- A single line that begins with no white space is kept as it is, without its margin. -/
theorem solidLines_line {line margin core : Text} (hline : line = margin ++ core)
    (hmargin : ∀ c ∈ margin, C.isSpace c = true) (hcore : IsSolid core) (t : Text) :
    solidLines (line ++ '\n' :: t) = core :: solidLines t := by
  obtain ⟨hbreak, c, rest, rfl, hc⟩ := hcore
  rw [hline, List.append_assoc, solidLines_append hmargin, solidLines,
    Text.splitLines_append hbreak]
  simp [solidLines, hc]

/-! ### Statements -/

/-- No statement begins with white space. -/
theorem isSpace_eq_false {c : Char} {line : Text} {s : Statement}
    (h : Statement.ofLine? (c :: line) = some s) : C.isSpace c = false := by
  rw [← Bool.not_eq_true, C.isSpace, List.contains_iff_mem]
  intro hc
  -- None of the texts a statement can begin with has such a character in front.
  have hnone : Statement.ofLine? (c :: line) = none := by
    simp only [List.mem_cons, List.not_mem_nil, or_false] at hc
    rcases hc with rfl | rfl | rfl | rfl | rfl <;>
      simp [Statement.ofLine?, Statement.ofAssignment?, Text.between?, List.dropPrefix?]
  rw [h] at hnone
  cases hnone

end Listing

namespace Statement

theorem Means.dedent {line : Text} {s : Statement} (h : Means line s) :
    Means (Listing.dedent line) s where
  lineBreak_not_mem hmem := h.lineBreak_not_mem ((List.dropWhile_sublist _).mem hmem)
  ofLine?_dedent := by
    rw [← h.ofLine?_dedent]
    exact congrArg ofLine? (List.dropWhile_idempotent _ line)

/-- A line that says something is solid, whatever white space is in front of it. -/
theorem Means.solidLines {line : Text} {s : Statement} (h : Means line s) {margin : Text}
    (hmargin : ∀ c ∈ margin, C.isSpace c = true) (t : Text) :
    Listing.solidLines (Lines.indented margin line ++ '\n' :: t) =
      Listing.dedent line :: Listing.solidLines t := by
  obtain ⟨c, rest, hrest⟩ := List.exists_cons_of_ne_nil h.dedent_ne_nil
  have hread := h.ofLine?_dedent
  rw [hrest] at hread
  have hsolid : Listing.IsSolid (Listing.dedent line) :=
    ⟨h.dedent.lineBreak_not_mem, c, rest, hrest, Listing.isSpace_eq_false hread⟩
  have hne : line ≠ [] := by
    rintro rfl
    cases hrest
  -- The blanks with which the line begins are a part of its margin.
  have hline : Lines.indented margin line =
      margin ++ line.takeWhile (· = ' ') ++ Listing.dedent line := by
    rw [Lines.indented, if_neg hne, List.append_assoc]
    exact congrArg _ List.takeWhile_append_dropWhile.symm
  apply Listing.solidLines_line hline _ hsolid
  intro d hd
  rcases List.mem_append.mp hd with hd | hd
  · exact hmargin d hd
  · have hblank : d = ' ' := by simpa using List.mem_takeWhile_imp hd
    rw [hblank]
    decide

end Statement

namespace Listing

variable {indent : Text} (hindent : ∀ c ∈ indent, C.isSpace c = true)
include hindent

/-- The solid lines of a row of tokens without inserts say what the tokens become. -/
theorem exists_solidLines {ts : List (Token Instruction)} (h : ∀ text, .leaf (.insert text) ∉ ts)
    (depth : Int) (others : List Text) :
    ∃ lines, List.Forall₂ Statement.Means lines (ts.map Statement.ofToken) ∧
      solidLines (Text.endLines (C.lines indent depth ts ++ others)) =
        lines ++ solidLines (Text.endLines others) := by
  induction ts generalizing depth with
  | nil => exact ⟨[], .nil, rfl⟩
  | cons token ts ih =>
    have htoken : ∀ text, token ≠ .leaf (.insert text) := by
      rintro text rfl
      exact h text (by simp)
    -- The token is a single line, and what is solid of it says the same.
    obtain ⟨line, place, hline, hmeans⟩ :=
      Statement.exists_means_indented htoken indent depth
    obtain ⟨lines, hlines, hsolid⟩ := ih (fun text htext => h text (by simp [htext]))
      (token.depthBehind depth)
    have hmargin : ∀ c ∈ indent.times place, C.isSpace c = true :=
      fun c hc => hindent c (Text.mem_of_mem_times hc)
    refine ⟨dedent line :: lines, .cons hmeans.dedent hlines, ?_⟩
    rw [C.lines_cons, hline, List.singleton_append, List.cons_append, Text.endLines_cons,
      hmeans.solidLines hmargin, hsolid, List.cons_append]

theorem solidLines_opening (pre post : Nat) (others : List Text) :
    solidLines (Text.endLines (C.opening indent pre post ++ others)) =
      "#include <stdio.h>".toList ::
        ((C.opening [] pre post).drop 2 ++ solidLines (Text.endLines others)) := by
  have hheader : IsSolid "#include <stdio.h>".toList := ⟨by decide, '#', _, rfl, by decide⟩
  have hfunction : IsSolid "int main(void) \x7b".toList := ⟨by decide, 'i', _, rfl, by decide⟩
  have htape : IsSolid ([] ++ "static unsigned char cells[".toList ++ Numeral.ofNat (pre + post)
      ++ "] = \x7b0\x7d;".toList) :=
    ⟨by simp [Numeral.lineBreak_not_mem_ofNat], 's', _, rfl, by decide⟩
  have hpointer : IsSolid ([] ++ "unsigned char *ptr = cells".toList
      ++ (if pre = 0 then [] else " + ".toList ++ Numeral.ofNat pre) ++ [';']) :=
    ⟨by split <;> simp [Numeral.lineBreak_not_mem_ofNat], 'u', _, rfl, by decide⟩
  -- The empty line is left out, and the first line of a file has no margin.
  rw [C.opening]
  simp only [List.cons_append, Text.endLines_cons]
  rw [solidLines_line (List.nil_append _).symm (by simp) hheader, List.nil_append,
    solidLines_lineBreak, solidLines_line (List.nil_append _).symm (by simp) hfunction,
    solidLines_line (by simp) hindent htape, solidLines_line (by simp) hindent hpointer]
  rfl

theorem solidLines_ending : solidLines (Text.endLines (C.ending indent)) = C.ending [] := by
  have hfinish : IsSolid "return 0;".toList := ⟨by decide, 'r', _, rfl, by decide⟩
  have hclose : IsSolid ['\x7d'] := ⟨by decide, '\x7d', _, rfl, by decide⟩
  rw [C.ending, Text.endLines_cons, Text.endLines_cons, solidLines_line rfl hindent hfinish,
    solidLines_line (List.nil_append _).symm (by simp) hclose]
  rfl

/-- The code of tokens without inserts says what they become, with any white space as margins. -/
theorem ofSpaced?_lines (pre post : Nat) {ts : List (Token Instruction)}
    (h : ∀ text, .leaf (.insert text) ∉ ts) (extension : Text) :
    ofSpaced? (Code.text
        ⟨C.opening indent pre post ++ C.lines indent 1 ts ++ C.ending indent, extension⟩) =
      some ⟨pre + post, pre, ts.map Statement.ofToken ++ [.finish, .close]⟩ := by
  obtain ⟨lines, hlines, hsolid⟩ := exists_solidLines hindent h 1 (C.ending indent)
  have hending : statements? (C.ending []) = some [.finish, .close] := by decide
  have hstatements := statements?_of_means hlines (C.ending [])
  rw [hending, Option.map_some] at hstatements
  -- Without any margin, the lines of the code are its solid lines, but for the empty line.
  have hlisting := @ofLines?_opening_append [] (by simp) pre post _ _ hstatements
  rw [Code.text_eq (by simp [C.opening]), List.append_assoc, ofSpaced?,
    solidLines_opening hindent, hsolid, solidLines_ending hindent]
  exact hlisting

end Listing

/-- The listing of the code of a program. -/
def Options.listing (o : Options) (program : Program) : Listing where
  size := o.pre + o.post
  start := o.pre
  body := program.tokens.map Statement.ofToken ++ [.finish, .close]

/-- The code of a program without inserts says its listing, with any white space as margins. -/
theorem Options.ofSpaced?_code (o : Options) {indent : Text}
    (hindent : ∀ c ∈ indent, C.isSpace c = true) {program : Program}
    (h : ∀ text, .leaf (.insert text) ∉ program.tokens) :
    Listing.ofSpaced? (o.code indent program).text = some (o.listing program) := by
  rw [Options.code_eq]
  exact Listing.ofSpaced?_lines hindent o.pre o.post h C.extension

end TapeCompiler
