import Mathlib.Tactic.ByContra
import Mathlib.Tactic.SplitIfs
import TapeCompiler.Proofs.Program.Tree

/-!
# Partners of brackets

A machine that runs over a flat row of symbols finds the end of a loop by counting: it goes on from
the opening symbol, and the first closing one that closes none of the loops opened on the way is its
partner. The beginning of a loop is found in the same way, going back.

In the row of the tokens of a program, every bracket has a partner on either way, and the way back
from a partner leads to where it started.

## Main definitions

* `Brackets` — which symbols open and which close a loop
* `Brackets.closing?`, `Brackets.opening?` — the partner of a bracket
* `Token.brackets` — the brackets among tokens
* `Block.LoopAt` — where a loop begins and ends

## Main results

* `Brackets.closing?_map`, `Brackets.opening?_map` — partners only depend on which symbols open and
  close
* `Block.exists_loopAt` — every bracket of a program belongs to a loop
* `Block.exists_closing`, `Block.exists_opening` — every bracket of a program has its partner
-/

namespace TapeCompiler

variable {α β γ : Type}

/-- The symbols that open a loop, and those that close one. -/
structure Brackets (β : Type) where
  /-- Whether a symbol opens a loop. -/
  opens : β → Bool
  /-- Whether a symbol closes a loop. -/
  closes : β → Bool

namespace Brackets

/-- The brackets of a row that is read from right to left. -/
def flip (b : Brackets β) : Brackets β where
  opens := b.closes
  closes := b.opens

/-- The number of symbols in front of the one that closes a loop, if `depth` more loops are open
inside it. -/
def inner? (b : Brackets β) : Nat → List β → Option Nat
  | _, [] => none
  | depth, x :: rest =>
    if b.closes x then
      if depth = 0 then some 0 else (b.inner? (depth - 1) rest).map (· + 1)
    else if b.opens x then (b.inner? (depth + 1) rest).map (· + 1)
    else (b.inner? depth rest).map (· + 1)

/-- The place of the symbol that closes the loop opened at a place of a row. -/
def closing? (b : Brackets β) (row : List β) (place : Nat) : Option Nat :=
  (b.inner? 0 (row.drop (place + 1))).map (place + 1 + ·)

/-- The place of the symbol that opens the loop closed at a place of a row. -/
def opening? (b : Brackets β) (row : List β) (place : Nat) : Option Nat :=
  (b.flip.inner? 0 (row.take place).reverse).map (place - 1 - ·)

variable {b : Brackets β}

theorem inner?_of_closes_zero {x : β} (hcloses : b.closes x = true) (rest : List β) :
    b.inner? 0 (x :: rest) = some 0 := by
  simp [inner?, hcloses]

theorem inner?_of_closes {x : β} (hcloses : b.closes x = true) (depth : Nat) (rest : List β) :
    b.inner? (depth + 1) (x :: rest) = (b.inner? depth rest).map (· + 1) := by
  simp [inner?, hcloses]

theorem inner?_of_opens {x : β} (hcloses : b.closes x = false) (hopens : b.opens x = true)
    (depth : Nat) (rest : List β) :
    b.inner? depth (x :: rest) = (b.inner? (depth + 1) rest).map (· + 1) := by
  simp [inner?, hcloses, hopens]

theorem inner?_of_neither {x : β} (hcloses : b.closes x = false) (hopens : b.opens x = false)
    (depth : Nat) (rest : List β) :
    b.inner? depth (x :: rest) = (b.inner? depth rest).map (· + 1) := by
  simp [inner?, hcloses, hopens]

/-! ### Other rows -/

theorem inner?_map {b' : Brackets γ} {f : β → γ} {row : List β}
    (h : ∀ x ∈ row, b'.opens (f x) = b.opens x ∧ b'.closes (f x) = b.closes x) (depth : Nat) :
    b'.inner? depth (row.map f) = b.inner? depth row := by
  induction row generalizing depth with
  | nil => rfl
  | cons x rest ih =>
    obtain ⟨hopens, hcloses⟩ := h x (by simp)
    have ih := ih fun y hy => h y (by simp [hy])
    rw [List.map_cons, inner?, inner?, hopens, hcloses, ih, ih, ih]

/-- Partners only depend on which symbols open and close a loop. -/
theorem closing?_map {b' : Brackets γ} {f : β → γ} {row : List β}
    (h : ∀ x ∈ row, b'.opens (f x) = b.opens x ∧ b'.closes (f x) = b.closes x) (place : Nat) :
    b'.closing? (row.map f) place = b.closing? row place := by
  have hrest : ∀ x ∈ row.drop (place + 1),
      b'.opens (f x) = b.opens x ∧ b'.closes (f x) = b.closes x :=
    fun x hx => h x (List.mem_of_mem_drop hx)
  rw [closing?, closing?, ← List.map_drop, inner?_map hrest]

theorem opening?_map {b' : Brackets γ} {f : β → γ} {row : List β}
    (h : ∀ x ∈ row, b'.opens (f x) = b.opens x ∧ b'.closes (f x) = b.closes x) (place : Nat) :
    b'.opening? (row.map f) place = b.opening? row place := by
  have hfront : ∀ x ∈ (row.take place).reverse,
      b'.flip.opens (f x) = b.flip.opens x ∧ b'.flip.closes (f x) = b.flip.closes x :=
    fun x hx => (h x (List.mem_of_mem_take (List.mem_reverse.mp hx))).symm
  rw [opening?, opening?, ← List.map_take, ← List.map_reverse, inner?_map hfront]

theorem inner?_append {depth n : Nat} {row : List β} (h : b.inner? depth row = some n)
    (more : List β) : b.inner? depth (row ++ more) = some n := by
  induction row generalizing depth n with
  | nil => simp [inner?] at h
  | cons x rest ih =>
    rw [List.cons_append]
    rw [inner?] at h ⊢
    split_ifs at h ⊢
    · exact h
    · obtain ⟨m, hm, rfl⟩ := Option.map_eq_some_iff.mp h
      exact Option.map_eq_some_iff.mpr ⟨m, ih hm, rfl⟩
    · obtain ⟨m, hm, rfl⟩ := Option.map_eq_some_iff.mp h
      exact Option.map_eq_some_iff.mpr ⟨m, ih hm, rfl⟩
    · obtain ⟨m, hm, rfl⟩ := Option.map_eq_some_iff.mp h
      exact Option.map_eq_some_iff.mpr ⟨m, ih hm, rfl⟩

/-- A partner that is found in a row is also found if more stands behind the row. -/
theorem closing?_append {row : List β} {place other : Nat} (h : b.closing? row place = some other)
    (more : List β) : b.closing? (row ++ more) place = some other := by
  obtain ⟨n, hn, rfl⟩ := Option.map_eq_some_iff.mp h
  -- Behind the end of the row there is nothing to be found.
  have hplace : place + 1 ≤ row.length := by
    by_contra hbeyond
    rw [List.drop_eq_nil_of_le (by omega), inner?] at hn
    cases hn
  rw [closing?, List.drop_append_of_le_length hplace, inner?_append hn]
  rfl

theorem opening?_append {row : List β} {place : Nat} (h : place ≤ row.length) (more : List β) :
    b.opening? (row ++ more) place = b.opening? row place := by
  rw [opening?, opening?, List.take_append_of_le_length h]

end Brackets

/-! ### Tokens -/

/-- The brackets among the tokens of a program. -/
def Token.brackets : Brackets (Token α) where
  opens
    | .opening => true
    | _ => false
  closes
    | .closing => true
    | _ => false

namespace Block

open Brackets

/-- The search passes over the tokens of a whole block, since every loop that is opened in it is
closed in it again. -/
theorem inner?_tokens_append (block : Block α) (depth : Nat) (rest : List (Token α)) :
    Token.brackets.inner? depth (block.tokens ++ rest) =
      (Token.brackets.inner? depth rest).map (· + block.tokens.length) := by
  induction block using tree_induction generalizing depth rest with
  | nil => simp
  | leaf a others ih =>
    rw [tokens_leaf, List.cons_append, inner?_of_neither rfl rfl, ih, Option.map_map]
    rfl
  | loop body others ih_body ih_others =>
    -- One more loop is open inside the body, and its end closes it before the search goes on.
    rw [tokens_loop, List.cons_append, List.cons_append, inner?_of_opens rfl rfl,
      List.append_assoc, ih_body, List.cons_append, inner?_of_closes rfl, ih_others]
    rw [Option.map_map, Option.map_map, Option.map_map]
    congr 1
    funext n
    simp only [Function.comp, List.length_append, List.length_cons]
    omega

/-- The same for the search that goes back. -/
theorem inner?_reverse_tokens_append (block : Block α) (depth : Nat) (rest : List (Token α)) :
    Token.brackets.flip.inner? depth (block.tokens.reverse ++ rest) =
      (Token.brackets.flip.inner? depth rest).map (· + block.tokens.length) := by
  induction block using tree_induction generalizing depth rest with
  | nil => simp
  | leaf a others ih =>
    rw [tokens_leaf, List.reverse_cons, List.append_assoc, ih, List.singleton_append,
      inner?_of_neither rfl rfl, Option.map_map, List.length_cons]
    congr 1
    funext n
    simp only [Function.comp]
    omega
  | loop body others ih_body ih_others =>
    -- Going back, what stands behind the loop comes first.
    have hreverse : (tokens (.loop body :: others)).reverse ++ rest =
        others.tokens.reverse ++ (.closing :: (body.tokens.reverse ++ (.opening :: rest))) := by
      simp
    rw [hreverse, ih_others, inner?_of_opens rfl rfl, ih_body, inner?_of_closes rfl]
    rw [Option.map_map, Option.map_map, Option.map_map]
    congr 1
    funext n
    simp only [Function.comp, tokens_loop, List.length_append, List.length_cons]
    omega

/-- A loop of a row of tokens begins at one place and ends at another. -/
def LoopAt (row : List (Token α)) (beginning ending : Nat) : Prop :=
  ∃ (before behind : List (Token α)) (body : Block α),
    row = before ++ .opening :: (body.tokens ++ .closing :: behind) ∧
      beginning = before.length ∧ ending = before.length + 1 + body.tokens.length

namespace LoopAt

variable {row : List (Token α)} {beginning ending : Nat}

theorem append_left (h : LoopAt row beginning ending) (front : List (Token α)) :
    LoopAt (front ++ row) (front.length + beginning) (front.length + ending) := by
  obtain ⟨before, behind, body, rfl, rfl, rfl⟩ := h
  refine ⟨front ++ before, behind, body, by simp, by simp, ?_⟩
  rw [List.length_append]
  omega

theorem append_right (h : LoopAt row beginning ending) (more : List (Token α)) :
    LoopAt (row ++ more) beginning ending := by
  obtain ⟨before, behind, body, rfl, rfl, rfl⟩ := h
  exact ⟨before, behind ++ more, body, by simp, rfl, rfl⟩

theorem getElem?_beginning (h : LoopAt row beginning ending) :
    row[beginning]? = some .opening := by
  obtain ⟨before, behind, body, rfl, rfl, rfl⟩ := h
  simp

theorem getElem?_ending (h : LoopAt row beginning ending) : row[ending]? = some .closing := by
  obtain ⟨before, behind, body, rfl, rfl, rfl⟩ := h
  have hplace : before.length + 1 + body.tokens.length - before.length =
      body.tokens.length + 1 := by omega
  rw [List.getElem?_append_right (by omega), hplace, List.getElem?_cons_succ,
    List.getElem?_append_right (by omega), Nat.sub_self, List.getElem?_cons_zero]

theorem closing?_eq (h : LoopAt row beginning ending) :
    Token.brackets.closing? row beginning = some ending := by
  obtain ⟨before, behind, body, rfl, rfl, rfl⟩ := h
  have hdrop : (before ++ .opening :: (body.tokens ++ .closing :: behind)).drop
      (before.length + 1) = body.tokens ++ .closing :: behind := by
    simp [List.drop_append]
  rw [closing?, hdrop, inner?_tokens_append, inner?_of_closes_zero rfl]
  simp

theorem opening?_eq (h : LoopAt row beginning ending) :
    Token.brackets.opening? row ending = some beginning := by
  obtain ⟨before, behind, body, rfl, rfl, rfl⟩ := h
  -- What stands in front of the end, read backward, begins with the body.
  have hassoc : before ++ .opening :: (body.tokens ++ .closing :: behind) =
      (before ++ .opening :: body.tokens) ++ .closing :: behind := by simp
  have hlength : before.length + 1 + body.tokens.length =
      (before ++ .opening :: body.tokens).length := by
    simp only [List.length_append, List.length_cons]
    omega
  have hreverse : (before ++ .opening :: body.tokens).reverse =
      body.tokens.reverse ++ .opening :: before.reverse := by simp
  rw [opening?, hassoc, hlength, List.take_left, hreverse, inner?_reverse_tokens_append,
    inner?_of_closes_zero rfl]
  simp only [Option.map_some, Option.some.injEq, ← hlength]
  omega

end LoopAt

/-- Every bracket of a program is one of the two brackets of a loop. -/
theorem exists_loopAt {block : Block α} {place : Nat} {t : Token α}
    (h : block.tokens[place]? = some t) (ht : ∀ a, t ≠ .leaf a) :
    ∃ beginning ending, LoopAt block.tokens beginning ending ∧
      (place = beginning ∨ place = ending) := by
  induction block using tree_induction generalizing place with
  | nil => simp at h
  | leaf a rest ih =>
    cases place with
    | zero => exact absurd (by simpa using h.symm) (ht a)
    | succ place =>
      rw [tokens_leaf] at h ⊢
      obtain ⟨beginning, ending, hloop, hplace⟩ := ih h
      refine ⟨_, _, hloop.append_left [.leaf a], ?_⟩
      simp only [List.length_singleton]
      omega
  | loop body rest ih_body ih_rest =>
    have hfront : LoopAt (tokens (.loop body :: rest)) 0 (body.tokens.length + 1) :=
      ⟨[], rest.tokens, body, by simp, rfl, by simp [Nat.add_comm]⟩
    have htokens : tokens (.loop body :: rest) =
        [.opening] ++ (body.tokens ++ .closing :: rest.tokens) := by simp
    -- The place is that of the first bracket, in the body, that of its partner, or behind the loop.
    rcases Nat.lt_trichotomy place (body.tokens.length + 1) with hlt | heq | hgt
    · cases place with
      | zero => exact ⟨_, _, hfront, .inl rfl⟩
      | succ place =>
        have hbody : body.tokens[place]? = some t := by
          rw [htokens, List.singleton_append, List.getElem?_cons_succ,
            List.getElem?_append_left (by omega)] at h
          exact h
        obtain ⟨beginning, ending, hloop, hplace⟩ := ih_body hbody
        rw [htokens]
        refine ⟨_, _, (hloop.append_right _).append_left _, ?_⟩
        simp only [List.length_singleton]
        omega
    · exact ⟨_, _, hfront, .inr heq⟩
    · obtain ⟨offset, rfl⟩ := Nat.exists_eq_add_of_lt hgt
      have hbehind : tokens (.loop body :: rest) =
          (.opening :: body.tokens ++ [.closing]) ++ rest.tokens := by simp
      have hlength : (.opening :: body.tokens ++ [.closing] : List (Token α)).length =
          body.tokens.length + 2 := by simp
      have hrest : rest.tokens[offset]? = some t := by
        have hoffset : body.tokens.length + 1 + offset + 1 - (body.tokens.length + 2) = offset := by
          omega
        rw [hbehind, List.getElem?_append_right (by omega), hlength, hoffset] at h
        exact h
      obtain ⟨beginning, ending, hloop, hplace⟩ := ih_rest hrest
      rw [hbehind]
      refine ⟨_, _, hloop.append_left _, ?_⟩
      omega

/-- The partner of an opening bracket stands in the program, and its own partner is that bracket. -/
theorem exists_closing {block : Block α} {place : Nat}
    (h : block.tokens[place]? = some .opening) :
    ∃ other, Token.brackets.closing? block.tokens place = some other ∧
      block.tokens[other]? = some .closing ∧
      Token.brackets.opening? block.tokens other = some place := by
  obtain ⟨_, ending, hloop, rfl | rfl⟩ := exists_loopAt h (by simp)
  · exact ⟨ending, hloop.closing?_eq, hloop.getElem?_ending, hloop.opening?_eq⟩
  · cases h.symm.trans hloop.getElem?_ending

/-- The partner of a closing bracket stands in the program, and its own partner is that bracket. -/
theorem exists_opening {block : Block α} {place : Nat}
    (h : block.tokens[place]? = some .closing) :
    ∃ other, Token.brackets.opening? block.tokens place = some other ∧
      block.tokens[other]? = some .opening ∧
      Token.brackets.closing? block.tokens other = some place := by
  obtain ⟨beginning, _, hloop, rfl | rfl⟩ := exists_loopAt h (by simp)
  · cases h.symm.trans hloop.getElem?_beginning
  · exact ⟨beginning, hloop.opening?_eq, hloop.getElem?_beginning, hloop.closing?_eq⟩

end Block

end TapeCompiler
