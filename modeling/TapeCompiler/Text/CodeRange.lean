/-!
# Ranges of code points

What Unicode says about characters is kept in blocks: arrays of ascending closed ranges of code
points, each with a value where there is one. The range of a code point is found by halving.

## Main definitions

* `CodeRange.find?` — the range with a value that holds a code point
* `CodeRange.pair?` — the range without a value that holds a code point
* `CodeRange.contains` — whether a code point lies in one of the ranges
-/

namespace TapeCompiler.CodeRange

/-- The entry of a block whose range holds a code point, among those with indices from `low` below
`high`. -/
def search {α : Type} (range : α → Nat × Nat) (block : Array α) (code low high : Nat) : Option α :=
  if low < high then
    let middle := (low + high) / 2
    match block[middle]? with
    | none => none
    | some entry =>
      if code < (range entry).1 then search range block code low middle
      else if (range entry).2 < code then search range block code (middle + 1) high
      else some entry
  else
    none
termination_by high - low

/-- The range with a value that holds a code point. -/
def find? {α : Type} (block : Array (Nat × Nat × α)) (code : Nat) : Option (Nat × Nat × α) :=
  search (fun (first, last, _) => (first, last)) block code 0 block.size

/-- The range without a value that holds a code point. -/
def pair? (block : Array (Nat × Nat)) (code : Nat) : Option (Nat × Nat) :=
  search id block code 0 block.size

/-- Whether a code point lies in one of the ranges. -/
def contains (block : Array (Nat × Nat)) (code : Nat) : Bool :=
  (pair? block code).isSome

end TapeCompiler.CodeRange
