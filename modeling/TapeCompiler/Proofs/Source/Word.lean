import TapeCompiler.Proofs.Source.Gap

/-!
# Words

Every lexeme of a source is written as a word: a single character, or a text between double colons.
A word ends by itself, so a reader finds its end whatever stands behind it. The text of an insert
ends at the first double colon; therefore no double colon can begin in it, not even one that is
completed by the closing one.

## Main definitions

* `Enclosable` — the texts that can stand between double colons
* `Spells` — the words, with what they stand for

## Main results

* `enclosable_iff` — such a text holds no double colon and does not end in a colon
* `Cursor.insert?_append`, `Cursor.enclosable_of_insert?` — the text of an insert is delimited
* `Cursor.lexeme_append` — a word is read, whatever follows it
* `Cursor.finds_lexeme`, `Cursor.Finds.lexeme_eq` — what is read is a word, the end, or a reason why
  there is neither
-/

namespace TapeCompiler

/-- A text in which no double colon begins, even if a colon stands behind it. -/
def Enclosable (t : Text) : Prop :=
  ¬ [':', ':'] <:+: t ++ [':']

instance (t : Text) : Decidable (Enclosable t) :=
  inferInstanceAs (Decidable (¬ [':', ':'] <:+: t ++ [':']))

/-- A word of the source, and what it stands for. -/
inductive Spells : Text → Token Instruction → Prop
  /-- A move forward. -/
  | forward : Spells ['>'] (.leaf (.move 1))
  /-- A move backward. -/
  | backward : Spells ['<'] (.leaf (.move (-1)))
  /-- An increment. -/
  | increment : Spells ['+'] (.leaf (.cell .add 1))
  /-- A decrement. -/
  | decrement : Spells ['-'] (.leaf (.cell .add (-1)))
  /-- Input. -/
  | input : Spells [','] (.leaf .input)
  /-- Output. -/
  | output : Spells ['.'] (.leaf .output)
  /-- An insert: a text between double colons. -/
  | insert {t : Text} (ht : Enclosable t) :
      Spells (':' :: ':' :: t ++ [':', ':']) (.leaf (.insert t))
  /-- The beginning of a loop. -/
  | opening : Spells ['['] .opening
  /-- The end of a loop. -/
  | closing : Spells [']'] .closing

/-! ### Texts between double colons -/

theorem doubleColon_prefix_cons {c : Char} {rest : Text} :
    [':', ':'] <+: c :: rest ↔ c = ':' ∧ rest.head? = some ':' := by
  rw [List.cons_prefix_cons]
  cases rest with
  | nil => simp
  | cons d rest =>
    rw [List.cons_prefix_cons]
    simp [eq_comm]

/-- Behind a text, one colon decides as well as any text that begins with a colon whether a double
colon begins at its last character. -/
theorem head?_append_colon (t rest : Text) : (t ++ ':' :: rest).head? = (t ++ [':']).head? := by
  cases t <;> rfl

theorem enclosable_nil : Enclosable [] := by
  simp [Enclosable, List.infix_cons_iff]

theorem enclosable_cons {c : Char} {t : Text} :
    Enclosable (c :: t) ↔ ¬ (c = ':' ∧ (t ++ [':']).head? = some ':') ∧ Enclosable t := by
  rw [Enclosable, List.cons_append, List.infix_cons_iff, doubleColon_prefix_cons, not_or,
    Enclosable]

/-- A text can stand between double colons if it holds none and does not end in a colon. -/
theorem enclosable_iff {t : Text} : Enclosable t ↔ ¬ [':', ':'] <:+: t ∧ ¬ [':'] <:+ t := by
  have hsuffix : [':', ':'] <:+ t ++ [':'] ↔ [':'] <:+ t := by
    constructor
    · rintro ⟨u, hu⟩
      refine ⟨u, ?_⟩
      have : (u ++ [':']) ++ [':'] = t ++ [':'] := by simpa using hu
      exact List.append_cancel_right this
    · rintro ⟨u, rfl⟩
      exact ⟨u, by simp⟩
  rw [Enclosable, List.infix_concat_iff, hsuffix, not_or, and_comm]

namespace Cursor

theorem untilDoubleColon?_colons (before : Text) (offset : Nat) (rest : Text) :
    untilDoubleColon? before offset (':' :: ':' :: rest) =
      some (before.reverse, ⟨offset + 2, rest⟩) := by
  rw [untilDoubleColon?]

theorem untilDoubleColon?_cons {c : Char} {rest : Text}
    (h : ¬ (c = ':' ∧ rest.head? = some ':')) (before : Text) (offset : Nat) :
    untilDoubleColon? before offset (c :: rest) =
      untilDoubleColon? (c :: before) (offset + 1) rest := by
  rw [untilDoubleColon?]
  rintro rest' rfl rfl
  exact h ⟨rfl, rfl⟩

/-- The search stops at the double colon behind a text that can stand between two of them. -/
theorem untilDoubleColon?_append {t : Text} (ht : Enclosable t) (before : Text) (offset : Nat)
    (rest : Text) :
    untilDoubleColon? before offset (t ++ ':' :: ':' :: rest) =
      some (before.reverse ++ t, ⟨offset + t.length + 2, rest⟩) := by
  induction t generalizing before offset with
  | nil => simp [untilDoubleColon?_colons]
  | cons c t ih =>
    obtain ⟨hc, ht⟩ := enclosable_cons.mp ht
    rw [List.cons_append, untilDoubleColon?_cons (by rw [head?_append_colon]; exact hc), ih ht]
    simp only [List.reverse_cons, List.append_assoc, List.singleton_append, List.length_cons]
    congr 3
    omega

/-- What the search passes over can stand between double colons. -/
theorem enclosable_of_untilDoubleColon? {before : Text} {offset : Nat} {text inner : Text}
    {behind : Cursor} (h : untilDoubleColon? before offset text = some (inner, behind)) :
    ∃ t, Enclosable t ∧ inner = before.reverse ++ t ∧ text = t ++ ':' :: ':' :: behind.rest ∧
      behind.offset = offset + t.length + 2 := by
  induction text generalizing before offset with
  | nil => simp [untilDoubleColon?] at h
  | cons c rest ih =>
    by_cases hcolons : c = ':' ∧ rest.head? = some ':'
    · obtain ⟨rfl, hhead⟩ := hcolons
      obtain ⟨rest, rfl⟩ := List.head?_eq_some_iff.mp hhead
      rw [untilDoubleColon?_colons] at h
      cases h
      exact ⟨[], enclosable_nil, by simp, rfl, rfl⟩
    · rw [untilDoubleColon?_cons hcolons] at h
      obtain ⟨t, ht, hinner, hrest, hoffset⟩ := ih h
      refine ⟨c :: t, enclosable_cons.mpr ⟨?_, ht⟩, by simp [hinner], by simp [hrest], ?_⟩
      · rwa [hrest, head?_append_colon] at hcolons
      · rw [hoffset, List.length_cons]
        omega

theorem untilDoubleColon?_eq_none_iff {before : Text} {offset : Nat} {text : Text} :
    untilDoubleColon? before offset text = none ↔ ¬ [':', ':'] <:+: text := by
  induction text generalizing before offset with
  | nil => simp [untilDoubleColon?]
  | cons c rest ih =>
    by_cases hcolons : c = ':' ∧ rest.head? = some ':'
    · obtain ⟨rfl, hhead⟩ := hcolons
      obtain ⟨rest, rfl⟩ := List.head?_eq_some_iff.mp hhead
      have hprefix : [':', ':'] <:+: ':' :: ':' :: rest := ⟨[], rest, rfl⟩
      simp [untilDoubleColon?_colons, hprefix]
    · rw [untilDoubleColon?_cons hcolons, ih, List.infix_cons_iff, doubleColon_prefix_cons, not_or]
      exact (and_iff_right hcolons).symm

/-- An insert is read up to its closing double colon. -/
theorem insert?_append {t : Text} (ht : Enclosable t) (offset : Nat) (rest : Text) :
    insert? ⟨offset, ':' :: ':' :: t ++ ':' :: ':' :: rest⟩ =
      some (t, ⟨offset + t.length + 4, rest⟩) := by
  have h := untilDoubleColon?_append ht [] (offset + 2) rest
  rw [insert?]
  simp only [List.cons_append, List.drop_succ_cons, List.drop_zero, h, List.reverse_nil,
    List.nil_append]
  congr 3
  omega

theorem enclosable_of_insert? {offset : Nat} {text inner : Text} {behind : Cursor}
    (h : insert? ⟨offset, ':' :: ':' :: text⟩ = some (inner, behind)) :
    Enclosable inner ∧ text = inner ++ ':' :: ':' :: behind.rest ∧
      behind.offset = offset + inner.length + 4 := by
  obtain ⟨t, ht, hinner, htext, hoffset⟩ := enclosable_of_untilDoubleColon? h
  obtain rfl : inner = t := by simpa using hinner
  refine ⟨ht, by simpa using htext, ?_⟩
  simp only at hoffset
  omega

end Cursor

/-! ### Words -/

/-- No gap begins where a word stands. -/
theorem Spells.settled {word : Text} {t : Token Instruction} (h : Spells word t) (rest : Text) :
    Settled (word ++ rest) := by
  cases h <;> exact settled_cons (by decide) (by decide) _

/-- No gap begins at a character that is no blank and with which no word and no comment begins. -/
theorem settled_of_unexpected {c : Char} (hblank : isBlank c = false)
    (hc : c ∉ ['>', '<', '+', '-', ',', '.', '[', ']', '#']) (rest : Text) :
    Settled (c :: rest) := by
  refine settled_cons hblank ?_ rest
  rintro rfl
  simp at hc

theorem Spells.ne_nil {word : Text} {t : Token Instruction} (h : Spells word t) : word ≠ [] := by
  cases h <;> simp

theorem spells_of_ofChar? {c : Char} {i : Instruction} (h : Instruction.ofChar? c = some i) :
    Spells [c] (.leaf i) := by
  unfold Instruction.ofChar? at h
  split at h <;> cases h
  · exact .forward
  · exact .backward
  · exact .increment
  · exact .decrement
  · exact .input
  · exact .output

namespace Cursor

/-- A word is read, whatever stands behind it. -/
theorem lexeme_append {word : Text} {t : Token Instruction} (h : Spells word t) (offset : Nat)
    (rest : Text) :
    lexeme ⟨offset, word ++ rest⟩ = .token t ⟨offset + word.length, rest⟩ := by
  cases h with
  | @insert inner hinner =>
    have hread := insert?_append hinner offset rest
    simp only [List.cons_append, List.append_assoc, List.nil_append, lexeme] at hread ⊢
    simp [Instruction.ofChar?, hread, Nat.add_assoc]
  | _ => rfl

/-- What stands at a cursor that is not in front of a gap: the end, a word, or the reason why there
is neither. -/
inductive Finds : Cursor → Lexeme → Prop
  /-- The end of the source. -/
  | none {offset : Nat} : Finds ⟨offset, []⟩ .none
  /-- A word, whatever stands behind it. -/
  | word {offset : Nat} {word rest : Text} {t : Token Instruction} (h : Spells word t) :
      Finds ⟨offset, word ++ rest⟩ (.token t ⟨offset + word.length, rest⟩)
  /-- A double colon behind which there is no other. -/
  | unterminatedInsert {offset : Nat} {rest : Text} (h : ¬ [':', ':'] <:+: rest) :
      Finds ⟨offset, ':' :: ':' :: rest⟩ (.fault .unterminatedInsert)
  /-- A comment. -/
  | unterminatedComment {offset : Nat} {rest : Text} :
      Finds ⟨offset, '#' :: rest⟩ (.fault .unterminatedComment)
  /-- A character with which no word begins. -/
  | unexpected {offset : Nat} {c : Char} {rest : Text}
      (hc : c ∉ ['>', '<', '+', '-', ',', '.', '[', ']', '#'])
      (hcolons : ¬ (c = ':' ∧ rest.head? = some ':')) :
      Finds ⟨offset, c :: rest⟩ (.fault (.unexpected c))

theorem Finds.char {offset : Nat} {c : Char} {rest : Text} {t : Token Instruction}
    (h : Spells [c] t) : Finds ⟨offset, c :: rest⟩ (.token t ⟨offset + 1, rest⟩) := by
  have hword : Finds ⟨offset, [c] ++ rest⟩ _ := .word h
  exact hword

theorem ofChar?_eq_none {c : Char} (h : Instruction.ofChar? c = Option.none) :
    c ∉ ['>', '<', '+', '-', ',', '.'] := by
  intro hc
  simp only [List.mem_cons, List.not_mem_nil, or_false] at hc
  rcases hc with rfl | rfl | rfl | rfl | rfl | rfl <;> cases h

theorem ofChar?_of_not_mem {c : Char} (h : c ∉ ['>', '<', '+', '-', ',', '.']) :
    Instruction.ofChar? c = Option.none := by
  cases hchar : Instruction.ofChar? c with
  | none => rfl
  | some i =>
    have hword := spells_of_ofChar? hchar
    generalize hc : [c] = word at hword
    cases hword <;> cases hc <;> simp at h

/-- Reading a lexeme tells what stands at the cursor. -/
theorem finds_lexeme (c : Cursor) : Finds c c.lexeme := by
  obtain ⟨offset, text⟩ := c
  cases text with
  | nil => exact .none
  | cons x rest =>
    simp only [lexeme]
    split
    · next i hi => exact .char (spells_of_ofChar? hi)
    · next hi =>
      split
      · next hcolons =>
        obtain ⟨rfl, hhead⟩ := hcolons
        obtain ⟨rest, rfl⟩ := List.head?_eq_some_iff.mp hhead
        split
        · next inner behind hinsert =>
          obtain ⟨hinner, htext, hoffset⟩ := enclosable_of_insert? hinsert
          have hbehind : behind =
              ⟨offset + (':' :: ':' :: inner ++ [':', ':']).length, behind.rest⟩ := by
            obtain ⟨_, _⟩ := behind
            simpa [Nat.add_assoc] using hoffset
          rw [hbehind, htext]
          have hword : Finds ⟨offset, (':' :: ':' :: inner ++ [':', ':']) ++ behind.rest⟩ _ :=
            .word (.insert hinner)
          simpa using hword
        · next hinsert => exact .unterminatedInsert (untilDoubleColon?_eq_none_iff.mp hinsert)
      · next hcolons =>
        split
        · next hx => subst hx; exact .char .opening
        · split
          · next hx => subst hx; exact .char .closing
          · split
            · next hx => subst hx; exact .unterminatedComment
            · have := ofChar?_eq_none hi
              exact .unexpected (by simp_all) hcolons

/-- What stands at a cursor is what is read there. -/
theorem Finds.lexeme_eq {c : Cursor} {lexeme : Lexeme} (h : Finds c lexeme) :
    c.lexeme = lexeme := by
  cases h with
  | none => rfl
  | word hword => exact lexeme_append hword _ _
  | @unterminatedInsert offset rest hcolons =>
    have hinsert : insert? ⟨offset, ':' :: ':' :: rest⟩ = Option.none :=
      untilDoubleColon?_eq_none_iff.mpr hcolons
    simp [Cursor.lexeme, Instruction.ofChar?, hinsert]
  | unterminatedComment => rfl
  | @unexpected offset c rest hc hcolons =>
    have hchar := ofChar?_of_not_mem (fun h => hc (List.mem_append_left ['[', ']', '#'] h))
    simp_all [Cursor.lexeme]

/-- What is read is a word. -/
theorem spells_of_lexeme {c behind : Cursor} {t : Token Instruction}
    (h : c.lexeme = .token t behind) :
    ∃ word, Spells word t ∧ c.rest = word ++ behind.rest ∧
      behind.offset = c.offset + word.length := by
  have hfinds := finds_lexeme c
  rw [h] at hfinds
  cases hfinds with
  | word hword => exact ⟨_, hword, rfl, rfl⟩

/-- Nothing is left where no lexeme is found. -/
theorem rest_of_lexeme_none {c : Cursor} (h : c.lexeme = .none) : c.rest = [] := by
  have hfinds := finds_lexeme c
  rw [h] at hfinds
  cases hfinds
  rfl

end Cursor

end TapeCompiler
