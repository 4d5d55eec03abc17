/-!
# Texts

A text is a list of characters, so that every position, length and column counts characters.
This file holds the few operations on texts that the rest of the library shares.

## Main definitions

* `Text` — a list of characters
* `Text.pieces` — the pieces between the characters with a property
* `Text.splitLines`, `Text.joinLines` — the pieces between line breaks, and back
* `Text.replace` — replaces every occurrence of a pattern, from left to right
-/

namespace TapeCompiler

/-- A list of characters. -/
abbrev Text := List Char

namespace Text

/-- Puts a character in front of a text that is already split at the characters with a property. -/
def addToPieces (p : Char → Bool) (c : Char) : List Text → List Text
  | [] => [[c]]
  | piece :: others => if p c then [] :: piece :: others else (c :: piece) :: others

/-- The pieces between the characters with a property: one more than there are such characters. -/
def pieces (p : Char → Bool) (t : Text) : List Text :=
  t.foldr (addToPieces p) [[]]

/-- Puts a character in front of a text that is already split into lines. -/
def addToLines (c : Char) : List Text → List Text
  | [] => [[c]]
  | line :: lines => if c = '\n' then [] :: line :: lines else (c :: line) :: lines

/-- The pieces between the line breaks: one more than there are line breaks. -/
def splitLines (t : Text) : List Text :=
  t.foldr addToLines [[]]

/-- Joins texts, with a separator between neighbours. -/
def join (separator : Text) (pieces : List Text) : Text :=
  (pieces.intersperse separator).flatten

/-- Joins lines, with a line break between neighbours. -/
def joinLines (lines : List Text) : Text :=
  join ['\n'] lines

/-- A text repeated `n` times; nothing if `n` is not positive. -/
def times (n : Int) (t : Text) : Text :=
  if t = [] then [] else (List.replicate n.toNat t).flatten

theorem times_eq_flatten (n : Int) (t : Text) : times n t = (List.replicate n.toNat t).flatten := by
  unfold times
  split
  · simp [*]
  · rfl

theorem times_one (t : Text) : times 1 t = t := by
  simp [times_eq_flatten]

theorem length_times (n : Int) (t : Text) : (times n t).length = n.toNat * t.length := by
  rw [times_eq_flatten]
  simp

theorem mem_of_mem_times {n : Int} {t : Text} {c : Char} (h : c ∈ times n t) : c ∈ t := by
  rw [times_eq_flatten, List.mem_flatten] at h
  obtain ⟨copy, hcopy, hc⟩ := h
  rwa [List.eq_of_mem_replicate hcopy] at hc

/-- Replaces the occurrences of a pattern, searching on behind each one that was found.
An empty pattern occurs nowhere. -/
def replace (pattern substitute t : Text) : Text :=
  match pattern with
  | [] => t
  | first :: others => go first others 0 t
where
  /-- Passes over the next `skip` characters, which belong to an occurrence, and searches on. -/
  go (first : Char) (others : Text) (skip : Nat) : Text → Text
    | [] => []
    | c :: rest =>
      match skip with
      | skip + 1 => go first others skip rest
      | 0 =>
        if c = first ∧ others.isPrefixOf rest then
          substitute ++ go first others others.length rest
        else
          c :: go first others 0 rest

end Text

end TapeCompiler
