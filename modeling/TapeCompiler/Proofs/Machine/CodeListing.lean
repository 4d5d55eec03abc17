import Mathlib.Data.List.Forall2
import TapeCompiler.Proofs.Code.Emission
import TapeCompiler.Proofs.Machine.Listing
import TapeCompiler.Proofs.Text.Lines
import TapeCompiler.Proofs.Text.Numeral

/-!
# The listing of compiled code

The code of a program without inserts can be read line by line. Each token of the program is one
line, and the two sizes of the tape are found in front of these lines; behind them, the program and
the function end.

## Main definitions

* `Statement.ofToken` — the statement that a token becomes
* `Statement.Means` — a line stands for a statement

## Main results

* `Text.integer?_ofInt` — numerals are read back
* `Statement.exists_means` — the line of a token
* `Options.ofText?_code` — the listing of the code of a program
-/

namespace TapeCompiler

/-! ### Numerals -/

namespace Text

theorem between?_append (before middle behind : Text) :
    between? before behind (before ++ (middle ++ behind)) = some middle := by
  have hbefore : (before ++ (middle ++ behind)).dropPrefix? before = some (middle ++ behind) :=
    List.dropPrefix?_append_of_beq _ (by simp)
  have hbehind : (middle ++ behind).dropSuffix? behind = some middle :=
    List.dropSuffix?_eq_some_iff.mpr ⟨behind, rfl, by simp⟩
  simp [between?, hbefore, hbehind]

/-- A text that begins otherwise does not stand between two others. -/
theorem between?_eq_none {before behind t : Text} (h : t.dropPrefix? before = none) :
    between? before behind t = none := by
  simp [between?, h]

theorem natural?_ofNat (n : Nat) : natural? (Numeral.ofNat n) = some n := by
  simp [natural?, Numeral.ofNat, Nat.ofDigitChars_ten_toDigits]

/-- A numeral is read back. -/
theorem integer?_ofInt (n : Int) : integer? (Numeral.ofInt n) = some n := by
  cases n with
  | negSucc n =>
    rw [Numeral.ofInt, integer?, natural?_ofNat]
    rfl
  | ofNat n =>
    rw [Numeral.ofInt, integer?, natural?_ofNat]
    · rfl
    · -- A minus sign is no digit, so the numeral is not taken for a negative one.
      intro t ht
      have hdigit := Numeral.isDigit_of_mem_ofNat (n := n) (c := '-') (by simp [ht])
      revert hdigit
      decide

end Text

namespace Listing

/-! ### Indentation -/

theorem dedent_append {margin : Text} (hmargin : ∀ c ∈ margin, c = ' ') (line : Text) :
    dedent (margin ++ line) = dedent line := by
  have hblank : ∀ c ∈ margin, decide (c = ' ') = true := by simpa using hmargin
  exact List.dropWhile_append_of_pos hblank

theorem eq_blank_of_mem_standard {c : Char} (h : c ∈ Indentation.standard) : c = ' ' := by
  simpa [Indentation.standard] using h

theorem eq_blank_of_mem_times {depth : Int} {c : Char} (h : c ∈ Indentation.standard.times depth) :
    c = ' ' :=
  eq_blank_of_mem_standard (Text.mem_of_mem_times h)

end Listing

namespace Statement

/-- The statement that a token becomes. An insert becomes none. -/
def ofToken : Token Instruction → Statement
  | .leaf (.move offset) => if offset = 0 then .comment else .move offset.toInt
  | .leaf (.cell op operand) => .cell op operand.toInt
  | .leaf .output => .put
  | .leaf .input => .get
  | .leaf (.insert _) => .comment
  | .opening => .loop
  | .closing => .close

/-- A line, which may be indented, stands for a statement. -/
structure Means (line : Text) (s : Statement) : Prop where
  /-- It is a single line. -/
  lineBreak_not_mem : '\n' ∉ line
  /-- It is read as the statement. -/
  ofLine?_dedent : ofLine? (Listing.dedent line) = some s

theorem Means.dedent_ne_nil {line : Text} {s : Statement} (h : Means line s) :
    Listing.dedent line ≠ [] := by
  intro hnil
  have hnone : ofLine? [] = none := by decide
  have hread := h.ofLine?_dedent
  rw [hnil, hnone] at hread
  cases hread

/-- Blanks in front of a line mean nothing. -/
theorem Means.append {line : Text} {s : Statement} (h : Means line s) {margin : Text}
    (hmargin : ∀ c ∈ margin, c = ' ') : Means (margin ++ line) s where
  lineBreak_not_mem := by
    rw [List.mem_append, not_or]
    exact ⟨fun hmem => absurd (hmargin _ hmem) (by decide), h.lineBreak_not_mem⟩
  ofLine?_dedent := by rw [Listing.dedent_append hmargin, h.ofLine?_dedent]

theorem Means.indented {line : Text} {s : Statement} (h : Means line s) {margin : Text}
    (hmargin : ∀ c ∈ margin, c = ' ') : Means (Lines.indented margin line) s := by
  rw [Lines.indented]
  split
  · next hnil =>
    rw [hnil] at h
    exact absurd rfl h.dedent_ne_nil
  · exact h.append hmargin

/-! ### Statements -/

theorem means_move_add (n : Int) :
    Means ("ptr += ".toList ++ (Numeral.ofInt n ++ [';'])) (.move n) where
  lineBreak_not_mem := by simp [Numeral.lineBreak_not_mem_ofInt]
  ofLine?_dedent := by
    have hread := Text.between?_append "ptr += ".toList (Numeral.ofInt n) [';']
    change ofLine? ("ptr += ".toList ++ (Numeral.ofInt n ++ [';'])) = _
    unfold ofLine?
    rw [hread]
    simp [Text.integer?_ofInt]

theorem means_move_sub (n : Nat) :
    Means ("ptr -= ".toList ++ (Numeral.ofNat n ++ [';'])) (.move (-n)) where
  lineBreak_not_mem := by simp [Numeral.lineBreak_not_mem_ofNat]
  ofLine?_dedent := by
    have hother : Text.between? "ptr += ".toList [';']
        ("ptr -= ".toList ++ (Numeral.ofNat n ++ [';'])) = none :=
      Text.between?_eq_none (by simp [List.dropPrefix?])
    have hread := Text.between?_append "ptr -= ".toList (Numeral.ofNat n) [';']
    have hnumber := Text.integer?_ofInt (.ofNat n)
    change ofLine? ("ptr -= ".toList ++ (Numeral.ofNat n ++ [';'])) = _
    unfold ofLine?
    rw [hother, hread]
    rw [Numeral.ofInt] at hnumber
    simp [hnumber]

theorem ofAssignment?_eq (op : Operator) (n : Int) :
    ofAssignment? ("*ptr ".toList ++
      ((op.symbol :: ("= ".toList ++ Numeral.ofInt n)) ++ [';'])) = some (.cell op n) := by
  have hoperand := Text.between?_append "= ".toList (Numeral.ofInt n) []
  rw [List.append_nil] at hoperand
  rw [ofAssignment?, Text.between?_append]
  simp only [bind, Option.bind, Operator.ofSymbol?_symbol, hoperand, Text.integer?_ofInt]
  rfl

theorem means_cell (op : Operator) (n : Int) :
    Means ("*ptr ".toList ++ (op.symbol :: ("= ".toList ++ Numeral.ofInt n) ++ [';']))
      (.cell op n) where
  lineBreak_not_mem := by cases op <;> simp [Numeral.lineBreak_not_mem_ofInt, Operator.symbol]
  ofLine?_dedent := by
    -- The line begins with a star, so it is no move.
    have hadd : Text.between? "ptr += ".toList [';'] ("*ptr ".toList ++
        ((op.symbol :: ("= ".toList ++ Numeral.ofInt n)) ++ [';'])) = none :=
      Text.between?_eq_none (by simp [List.dropPrefix?])
    have hsub : Text.between? "ptr -= ".toList [';'] ("*ptr ".toList ++
        ((op.symbol :: ("= ".toList ++ Numeral.ofInt n)) ++ [';'])) = none :=
      Text.between?_eq_none (by simp [List.dropPrefix?])
    change ofLine? ("*ptr ".toList ++
      ((op.symbol :: ("= ".toList ++ Numeral.ofInt n)) ++ [';'])) = _
    unfold ofLine?
    rw [hadd, hsub, ofAssignment?_eq]
    cases op <;> simp [Operator.symbol]

example : ofLine? "*ptr %= -7;".toList = some (.cell .mod (-7)) := by decide

/-- The line of an instruction that is no insert. -/
theorem exists_means_instruction {i : Instruction} (h : ∀ t, i ≠ .insert t) :
    ∃ line, C.statement i = [line] ∧ Means line (ofToken (.leaf i)) := by
  cases i with
  | move offset =>
    refine ⟨C.move offset, rfl, ?_⟩
    have hzero : offset = 0 ↔ offset.toInt = 0 := by rw [← Int32.toInt_inj, Int32.toInt_zero]
    -- The signs of a word of 32 bits are those of its value as an integer.
    unfold C.move ofToken
    simp only [hzero, Int32.lt_iff_toInt_lt, Int32.toInt_zero]
    split_ifs
    · omega
    · simpa using means_move_add offset.toInt
    · omega
    · -- A move backward is written with its size, also the longest one.
      have hsize : offset.toInt = -(offset.toInt.natAbs : Int) := by omega
      have hmeans := means_move_sub offset.toInt.natAbs
      rw [← hsize] at hmeans
      simpa only [List.append_assoc] using hmeans
    · exact ⟨by decide, by decide⟩
    · omega
  | cell op operand => exact ⟨_, rfl, by simpa [ofToken] using means_cell op operand.toInt⟩
  | output => exact ⟨_, rfl, by decide, by decide⟩
  | input => exact ⟨_, rfl, by decide, by decide⟩
  | insert t => exact absurd rfl (h t)

/-- A token that is no insert becomes one line, which stands behind some margin. -/
theorem exists_means_indented {t : Token Instruction} (h : ∀ text, t ≠ .leaf (.insert text))
    (indent : Text) (depth : Int) :
    ∃ line place, C.lines indent depth [t] = [Lines.indented (indent.times place) line] ∧
      Means line (ofToken t) := by
  cases t with
  | leaf i =>
    have hi : ∀ text, i ≠ .insert text := fun text ht => h text (by rw [ht])
    obtain ⟨line, hline, hmeans⟩ := exists_means_instruction hi
    exact ⟨line, depth, by simp [C.lines, Token.lines, hline], hmeans⟩
  | opening => exact ⟨C.loopOpening, depth, rfl, by decide, by decide⟩
  | closing => exact ⟨C.loopEnding, depth - 1, rfl, by decide, by decide⟩

/-- The line of a token that is no insert, at some depth. -/
theorem exists_means {t : Token Instruction} (h : ∀ text, t ≠ .leaf (.insert text)) (depth : Int) :
    ∃ line, C.lines Indentation.standard depth [t] = [line] ∧ Means line (ofToken t) := by
  obtain ⟨line, place, hline, hmeans⟩ := exists_means_indented h Indentation.standard depth
  exact ⟨_, hline, hmeans.indented fun _ => Listing.eq_blank_of_mem_times⟩

/-- The lines of tokens without inserts say what the tokens become. -/
theorem forall₂_means_lines {ts : List (Token Instruction)}
    (h : ∀ text, .leaf (.insert text) ∉ ts) (depth : Int) :
    List.Forall₂ Means (C.lines Indentation.standard depth ts) (ts.map ofToken) := by
  induction ts generalizing depth with
  | nil => exact .nil
  | cons t ts ih =>
    have ht : ∀ text, t ≠ .leaf (.insert text) := by
      rintro text rfl
      exact h text (by simp)
    obtain ⟨line, hline, hmeans⟩ := exists_means ht depth
    rw [C.lines_cons, hline]
    exact .cons hmeans (ih (fun text htext => h text (by simp [htext])) _)

theorem forall₂_means_ending :
    List.Forall₂ Means (C.ending Indentation.standard) [.finish, .close] := by
  have hfinish : Means "return 0;".toList .finish := ⟨by decide, by decide⟩
  have hclose : Means ['\x7d'] .close := ⟨by decide, by decide⟩
  exact .cons (hfinish.append fun _ => Listing.eq_blank_of_mem_standard) (.cons hclose .nil)

theorem lineBreak_not_mem_of_means {lines : List Text} {body : List Statement}
    (h : List.Forall₂ Means lines body) {line : Text} (hline : line ∈ lines) : '\n' ∉ line := by
  induction h with
  | nil => cases hline
  | cons hmeans _ ih =>
    rcases List.mem_cons.mp hline with rfl | hline
    · exact hmeans.lineBreak_not_mem
    · exact ih hline

end Statement

namespace Listing

theorem statements?_of_means {lines : List Text} {body : List Statement}
    (h : List.Forall₂ Statement.Means lines body) (rest : List Text) :
    statements? (lines ++ rest) = (statements? rest).map (body ++ ·) := by
  induction h with
  | nil => simp
  | cons hmeans _ ih =>
    rw [List.cons_append, statements?, if_neg hmeans.dedent_ne_nil, hmeans.ofLine?_dedent, ih]
    cases statements? rest <;> rfl

theorem statements?_empty : statements? [[]] = some [] := by
  simp [statements?, dedent]

/-! ### Sizes -/

section Sizes

variable {margin : Text} (hmargin : ∀ c ∈ margin, c = ' ')
include hmargin

theorem size?_opening (cells : Nat) :
    size? (dedent (margin ++ "static unsigned char cells[".toList ++
      Numeral.ofNat cells ++ "] = \x7b0\x7d;".toList)) = some cells := by
  rw [List.append_assoc, List.append_assoc, dedent_append hmargin]
  change size? ("static unsigned char cells[".toList ++ (_ ++ _)) = _
  rw [size?, Text.between?_append, Option.bind_some, Text.natural?_ofNat]

theorem start?_opening (pre : Nat) :
    start? (dedent (margin ++ "unsigned char *ptr = cells".toList ++
      (if pre = 0 then [] else " + ".toList ++ Numeral.ofNat pre) ++ [';'])) = some pre := by
  rw [List.append_assoc, List.append_assoc, dedent_append hmargin]
  split
  · next hzero =>
    rw [hzero]
    decide
  · next hpre =>
    have hread :=
      Text.between?_append "unsigned char *ptr = cells + ".toList (Numeral.ofNat pre) [';']
    change start? ("unsigned char *ptr = cells + ".toList ++ (Numeral.ofNat pre ++ [';'])) = _
    rw [start?, if_neg (by simp), hread, Option.bind_some, Text.natural?_ofNat]

/-- The listing of lines that begin as the compiler begins them. -/
theorem ofLines?_opening_append (pre post : Nat) {lines : List Text} {body : List Statement}
    (h : statements? lines = some body) :
    ofLines? (C.opening margin pre post ++ lines) = some ⟨pre + post, pre, body⟩ := by
  simp only [C.opening, List.cons_append, List.nil_append, ofLines?, h, size?_opening hmargin,
    start?_opening hmargin]
  rfl

end Sizes

end Listing

theorem lineBreak_not_mem_opening {indent : Text} (hindent : '\n' ∉ indent) {pre post : Nat}
    {line : Text} (h : line ∈ C.opening indent pre post) : '\n' ∉ line := by
  simp only [C.opening, List.mem_cons, List.not_mem_nil, or_false] at h
  rcases h with rfl | rfl | rfl | rfl | rfl
  · decide
  · decide
  · decide
  · simp [hindent, Numeral.lineBreak_not_mem_ofNat]
  · split <;> simp [hindent, Numeral.lineBreak_not_mem_ofNat]

/-- The listing of the code of a program without inserts. -/
theorem Options.ofText?_code (o : Options) {program : Program}
    (h : ∀ text, .leaf (.insert text) ∉ program.tokens) :
    Listing.ofText? (o.code Indentation.standard program).text =
      some ⟨o.pre + o.post, o.pre, program.tokens.map Statement.ofToken ++ [.finish, .close]⟩ := by
  have hbody : List.Forall₂ Statement.Means
      (C.lines Indentation.standard 1 program.tokens ++ C.ending Indentation.standard)
      (program.tokens.map Statement.ofToken ++ [.finish, .close]) :=
    List.rel_append (Statement.forall₂_means_lines h 1) Statement.forall₂_means_ending
  have hlines : ∀ line ∈ (o.code Indentation.standard program).lines, '\n' ∉ line := by
    intro line hline
    rw [Options.code_eq, List.append_assoc, List.mem_append] at hline
    rcases hline with hline | hline
    · exact lineBreak_not_mem_opening (by decide) hline
    · exact Statement.lineBreak_not_mem_of_means hbody hline
  -- No line holds a line break, so cutting the text at its line breaks gives the lines back.
  have htext : (o.code Indentation.standard program).text =
      Text.endLines (o.code Indentation.standard program).lines :=
    Code.text_eq (by simp [Options.code_eq, C.opening])
  have hstatements := Listing.statements?_of_means hbody [[]]
  simp only [Listing.statements?_empty, Option.map_some, List.append_nil] at hstatements
  have hlisting := Listing.ofLines?_opening_append
    (fun _ => Listing.eq_blank_of_mem_standard) o.pre o.post hstatements
  rw [Listing.ofText?, htext, Text.splitLines_endLines hlines, Options.code_eq]
  simpa only [List.append_assoc] using hlisting

end TapeCompiler
