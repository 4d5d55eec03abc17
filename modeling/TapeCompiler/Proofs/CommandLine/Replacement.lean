import TapeCompiler.Proofs.CommandLine.SourceFile
import TapeCompiler.Proofs.Source.Gapless

/-!
# Printed files in the place of their sources

A program that is printed into a new file can be compiled from there. What the file holds is the
program without its gaps and a line break, and that is a source of the same program: nothing is lost
when it is written and read again, since the text that was read has no carriage returns. So from the
new file the same code comes as from the old one, whatever the sizes are, and printed once more it
comes out as it is.

Only a tape with too many cells has no code, neither from the one file nor from the other.

## Main results

* `parse_text_lineBreak` — a printed program with a line break is read as that program
* `Invocation.plan_of_holdsText` — what is planned for a source that can be read
* `Compiler.print_replaces_source` — all runs together
-/

namespace TapeCompiler

/-! ### Printed programs as sources -/

/-- A line break behind a printed program is a gap. -/
theorem parse_text_lineBreak {source : Text} {program : Program}
    (h : parse source = .ok program) : parse (program.text ++ ['\n']) = .ok program := by
  rw [parse_eq_ok_iff, ← List.append_nil program.tokens]
  exact (isRow_text (everyLeaf_isBare_of_parse h)).append (.nil (.blank (by simp) .nil))

/-- A program that was read from a text without carriage returns is printed without any. -/
theorem carriageReturn_not_mem_text {source : Text} {program : Program}
    (h : parse source = .ok program) (hsource : '\r' ∉ source) :
    '\r' ∉ program.text ++ ['\n'] := by
  rw [List.mem_append, not_or, ← withoutGaps_of_parse h]
  exact ⟨fun hmem => hsource ((Text.withoutGaps_sublist _ _).subset hmem), by decide⟩

/-! ### Files beside each other -/

namespace Tree.HoldsText

variable {before after : Tree} {path other : Path} {text : Text} {place : Files.Place}
  {bytes : ByteArray}

/-- A file still holds its text after something was written to a new place. -/
theorem of_write_new (h : before.HoldsText path text)
    (hwrite : before.write other bytes = .ok after) (hplace : before.place other = .ok place)
    (hnew : before.entry? place = none) : after.HoldsText path text := by
  obtain ⟨held, decoded, hread, hdecode, htext⟩ := h
  obtain ⟨source, entry, hbefore, hentry⟩ := exists_place_of_read hread
  have hafter := place_congr (fun _ => entry?_directory_of_write hwrite) hbefore
  -- There was something at the place of the file, and nothing at the new place.
  have hapart : ¬ before.LeadTogether other path := by
    rw [leadTogether_iff hplace hbefore]
    rintro rfl
    rw [hnew] at hentry
    cases hentry
  have hkept := (receives_of_write hwrite).read_of_not_leadTogether hbefore hafter hapart
  exact ⟨held, decoded, hkept.trans hread, hdecode, htext⟩

/-- A text without carriage returns that was written to a new place is held there. -/
theorem of_write_text (hwrite : before.write path (Utf8.encode text) = .ok after)
    (hplace : before.place path = .ok place) (hnew : before.entry? place = none)
    (htext : '\r' ∉ text) :
    after.read path = .ok (Utf8.encode text) ∧ after.HoldsText path text := by
  have hfind : before.find path ≠ .ok (some .sink) := by simp [find, hplace, hnew]
  have hread := (receives_of_write hwrite).read hfind
  exact ⟨hread, _, text, hread, Utf8.decode_encode text, (Text.unifyLineBreaks_eq_self htext).symm⟩

theorem carriageReturn_not_mem (h : before.HoldsText path text) : '\r' ∉ text := by
  obtain ⟨_, decoded, -, -, rfl⟩ := h
  exact Text.carriageReturn_not_mem_unifyLineBreaks decoded

end Tree.HoldsText

namespace CommandLine

open Arguments

/-! ### What is done with a source -/

namespace Invocation

variable {i : Invocation} {tree : Tree} {o : Options} {text : Text} {program : Program}

/-- If the source can be read, its text decides what is done. -/
theorem plan_of_holdsText (hcheck : i.options.check = .ok o)
    (hholds : tree.HoldsText (.ofText i.source) text) (main : Text)
    (toDirectory : Except Files.Fault Bool) :
    i.plan main (Compiler.source tree (.ofText i.source)) toDirectory =
      i.process main toDirectory o text := by
  obtain ⟨bytes, decoded, hread, hdecode, rfl⟩ := hholds
  simp only [plan, hcheck, Compiler.source_eq_ok_iff.mpr hread, hdecode]

end Invocation

namespace Compiler

variable {i : Invocation} {tree : Tree} {o : Options} {text : Text} {program : Program}
  {main : Text}

theorem perform_print (hcheck : i.options.check = .ok o)
    (hholds : tree.HoldsText (.ofText i.source) text) (hparse : parse text = .ok program)
    (hprint : i.printProgram = true) (hverbose : i.verbose = false) (hemit : i.emit = []) :
    perform main i tree = (⟨.exit 0, program.text ++ ['\n'], []⟩, tree) := by
  simp only [perform, i.plan_of_holdsText hcheck hholds, Invocation.process, hparse, hprint,
    Invocation.deliver, hemit, Invocation.notes, hverbose, if_true, Bool.false_eq_true, if_false]

theorem perform_printTo {after : Tree} (hcheck : i.options.check = .ok o)
    (hholds : tree.HoldsText (.ofText i.source) text) (hparse : parse text = .ok program)
    (hprint : i.printProgram = true) (hverbose : i.verbose = false) (hemit : i.emit ≠ [])
    (hdirectory : tree.isDirectory (.ofText i.emit) = .ok false)
    (hwrite : tree.write (.ofText i.emit) (Utf8.encode (program.text ++ ['\n'])) = .ok after) :
    perform main i tree = (⟨.exit 0, [], []⟩, after) := by
  simp only [perform, i.plan_of_holdsText hcheck hholds, Invocation.process, hparse, hprint,
    Invocation.deliver, hemit, Invocation.notes, hverbose, if_true, Bool.false_eq_true, if_false,
    hdirectory, Invocation.destination, hwrite, List.append_nil]

theorem perform_code {code : Code} (hcheck : i.options.check = .ok o)
    (hholds : tree.HoldsText (.ofText i.source) text) (hparse : parse text = .ok program)
    (hcode : o.code? Indentation.standard program = some code) (hprint : i.printProgram = false)
    (hverbose : i.verbose = false) (hemit : i.emit = []) :
    perform main i tree = (⟨.exit 0, code.text, []⟩, tree) := by
  simp only [perform, i.plan_of_holdsText hcheck hholds, Invocation.process, hparse, hcode, hprint,
    Invocation.deliver, hemit, Invocation.notes, hverbose, if_true, Bool.false_eq_true, if_false]

theorem perform_unwritable (hcheck : i.options.check = .ok o)
    (hholds : tree.HoldsText (.ofText i.source) text) (hparse : parse text = .ok program)
    (hcode : o.code? Indentation.standard program = none) (hprint : i.printProgram = false)
    (hverbose : i.verbose = false) :
    perform main i tree = (⟨.broken .unwritable, [], []⟩, tree) := by
  simp only [perform, i.plan_of_holdsText hcheck hholds, Invocation.process, hparse, hcode, hprint,
    Invocation.notes, hverbose, Bool.false_eq_true, if_false]

theorem check_standard : ({} : Options.Unchecked).check = .ok {} :=
  Options.Unchecked.check_of_cells (by decide) _

theorem check_sizes (o : Options) :
    ({ pre := .int o.pre, post := .int o.post } : Options.Unchecked).check = .ok o := by
  obtain ⟨pre, post, target, pos_cells⟩ := o
  cases target
  exact Options.Unchecked.check_of_cells pos_cells _

/-- With sizes, a file that holds a program gives the code of the program, unless the number of all
cells cannot be written. -/
theorem run_sizes {src held p q : Text} {tree : Tree} {program : Program} {o : Options}
    (hsrc : IsOperand src) (hholds : tree.HoldsText (.ofText src) held)
    (hparse : parse held = .ok program) (hp : IsSize p o.pre) (hq : IsSize q o.post)
    (main : Text) :
    (Tape.isWritable (o.pre + o.post) = true →
      run main [src, "--pre".toList, p, "--post".toList, q] tree =
        (⟨.exit 0, (o.code Indentation.standard program).text, []⟩, tree)) ∧
    (Tape.isWritable (o.pre + o.post) = false →
      run main [src, "--pre".toList, p, "--post".toList, q] tree =
        (⟨.broken .unwritable, [], []⟩, tree)) := by
  rw [run_eq_perform (read_sizes hsrc hp hq)]
  constructor
  · intro hwritable
    have hcode : o.code? Indentation.standard program =
        some (o.code Indentation.standard program) := if_pos hwritable
    exact perform_code (check_sizes o) hholds hparse hcode rfl rfl rfl
  · intro hwritable
    have hcode : o.code? Indentation.standard program = none := by simp [Options.code?, hwritable]
    exact perform_unwritable (check_sizes o) hholds hparse hcode rfl rfl

/-! ### All runs -/

section

variable {src dst text : Text} {tree : Tree} {program : Program} {place : Files.Place}
  (hsrc : IsOperand src) (hdst : IsOperand dst)
  (hholds : tree.HoldsText (.ofText src) text) (accepted : parse text = .ok program)
  (hplace : tree.place (.ofText dst) = .ok place) (hnew : tree.entry? place = none)

include hsrc hdst hholds accepted hplace hnew

/-- After a program was printed into a new file, the source and the new file both hold it. -/
theorem exists_run_printTo (main : Text) :
    ∃ after,
      run main [src, "--print-ir".toList, "-o".toList, dst] tree = (⟨.exit 0, [], []⟩, after) ∧
      after.read (.ofText dst) = .ok (Utf8.encode (program.text ++ ['\n'])) ∧
      after.HoldsText (.ofText dst) (program.text ++ ['\n']) ∧
      after.HoldsText (.ofText src) text := by
  obtain ⟨after, hwrite⟩ : ∃ after,
      tree.write (.ofText dst) (Utf8.encode (program.text ++ ['\n'])) = .ok after := by
    simp only [Tree.write, hplace, Except.mapError, bind, Except.bind, hnew]
    exact ⟨_, rfl⟩
  have hdirectory : tree.isDirectory (.ofText dst) = .ok false := by
    simp only [Tree.isDirectory, Tree.find, hplace, hnew, Except.map]
  -- The empty path leads to the working directory, which is there.
  have hemit : dst ≠ [] := by
    rintro rfl
    have hworking : tree.place (.ofText []) = .ok [] := by with_unfolding_all rfl
    obtain rfl := Except.ok.inj (hworking.symm.trans hplace)
    cases hnew
  obtain ⟨hread, hprinted⟩ := Tree.HoldsText.of_write_text hwrite hplace hnew
    (carriageReturn_not_mem_text accepted hholds.carriageReturn_not_mem)
  refine ⟨after, ?_, hread, hprinted, hholds.of_write_new hwrite hplace hnew⟩
  rw [run_eq_perform (read_printTo hsrc hdst)]
  exact perform_printTo check_standard hholds accepted rfl rfl hemit hdirectory hwrite

/-- A printed program can take the place of its source. Printed into a new file it is there with a
line break, and if it is printed from there, it comes out as it is in the file. And whatever sizes
the tape is given, by numerals or other words, the new file gives what the source gives: the same
code, or none if the number of all cells has too many digits. -/
theorem print_replaces_source (main : Text) :
    ∃ after,
      run main [src, "--print-ir".toList, "-o".toList, dst] tree = (⟨.exit 0, [], []⟩, after) ∧
      after.read (.ofText dst) = .ok (Utf8.encode (program.text ++ ['\n'])) ∧
      run main [dst, "--print-ir".toList] after =
        (⟨.exit 0, program.text ++ ['\n'], []⟩, after) ∧
      (∀ n < Tape.tooLarge, IsSize (Numeral.ofNat n) n) ∧
      ∀ (o : Options) (p q : Text), IsSize p o.pre → IsSize q o.post →
        (Tape.isWritable (o.pre + o.post) = true → ∃ code,
          (o.settings (.text Indentation.standard)).compile text = .ok code ∧
          ∀ file ∈ [src, dst], run main [file, "--pre".toList, p, "--post".toList, q] after =
            (⟨.exit 0, code.text, []⟩, after)) ∧
        (Tape.isWritable (o.pre + o.post) = false →
          ∀ file ∈ [src, dst], run main [file, "--pre".toList, p, "--post".toList, q] after =
            (⟨.broken .unwritable, [], []⟩, after)) := by
  obtain ⟨after, hrun, hread, hprinted, hkept⟩ :=
    exists_run_printTo hsrc hdst hholds accepted hplace hnew main
  have hreparse := parse_text_lineBreak accepted
  refine ⟨after, hrun, hread, ?_, fun n => isSize_ofNat, fun o p q hp hq => ?_⟩
  · rw [run_eq_perform (read_print hdst)]
    exact perform_print check_standard hprinted hreparse rfl rfl rfl
  · obtain ⟨hsrc_code, hsrc_none⟩ := run_sizes hsrc hkept accepted hp hq main
    obtain ⟨hdst_code, hdst_none⟩ := run_sizes hdst hprinted hreparse hp hq main
    simp only [List.forall_mem_cons, List.not_mem_nil, false_implies, implies_true, and_true]
    refine ⟨fun hwritable => ?_, fun hlong => ⟨hsrc_none hlong, hdst_none hlong⟩⟩
    exact ⟨_, Options.compile_of_isWritable accepted hwritable _, hsrc_code hwritable,
      hdst_code hwritable⟩

end

/-- The source ends its lines in two characters, and an insert in it goes over a line break and
holds a letter of two bytes. -/
theorem print_replaces_source_insert :
    let tree : Tree := { entries := [(["a.bf".toList], .file (Utf8.encode "+ ::é\r\n::".toList))] }
    ∃ after code,
      run "main".toList ["a.bf".toList, "--print-ir".toList, "-o".toList, "b.bf".toList] tree =
        (⟨.exit 0, [], []⟩, after) ∧
      after.read (.ofText "b.bf".toList) = .ok (Utf8.encode "+::é\n::\n".toList) ∧
      ∀ file ∈ ["a.bf".toList, "b.bf".toList],
        run "main".toList [file, "--pre".toList, "1".toList, "--post".toList, "2".toList] after =
          (⟨.exit 0, code, []⟩, after) := by
  intro tree
  let program : Program := [.leaf (.cell .add 1), .leaf (.insert "é\n".toList)]
  have hholds : tree.HoldsText (.ofText "a.bf".toList) "+ ::é\n::".toList :=
    ⟨_, "+ ::é\r\n::".toList, by with_unfolding_all rfl, Utf8.decode_encode _,
      by with_unfolding_all rfl⟩
  have accepted : parse "+ ::é\n::".toList = .ok program := by with_unfolding_all rfl
  have hplace : tree.place (.ofText "b.bf".toList) = .ok ["b.bf".toList] := by
    with_unfolding_all rfl
  have hnew : tree.entry? ["b.bf".toList] = none := by with_unfolding_all rfl
  obtain ⟨after, hrun, hread, -, -, hsizes⟩ := print_replaces_source (by decide) (by decide) hholds
    accepted hplace hnew "main".toList
  have hp : IsSize "1".toList 1 := ⟨by decide, by decide +kernel⟩
  have hq : IsSize "2".toList 2 := ⟨by decide, by decide +kernel⟩
  obtain ⟨code, -, hfiles⟩ := (hsizes { pre := 1, post := 2 } _ _ hp hq).1 (by decide +kernel)
  have htext : program.text ++ ['\n'] = "+::é\n::\n".toList := by with_unfolding_all rfl
  rw [htext] at hread
  exact ⟨after, code.text, hrun, hread, hfiles⟩

/-- For a tape whose number of cells has one digit too many, neither of the files has code. -/
theorem not_forall_print_replaces_source :
    ¬ ∀ (src dst text : Text) (tree after : Tree) (program : Program) (place : Files.Place),
      IsOperand src → IsOperand dst → tree.HoldsText (.ofText src) text →
      parse text = .ok program → tree.place (.ofText dst) = .ok place →
      tree.entry? place = none →
      run "main".toList [src, "--print-ir".toList, "-o".toList, dst] tree =
        (⟨.exit 0, [], []⟩, after) →
      ∀ (o : Options) (p q : Text), IsSize p o.pre → IsSize q o.post →
        (run "main".toList [src, "--pre".toList, p, "--post".toList, q] after).1.ending =
          .exit 0 := by
  intro h
  let tree : Tree := { entries := [(["a.bf".toList], .file (Utf8.encode "+".toList))] }
  have hholds : tree.HoldsText (.ofText "a.bf".toList) "+".toList :=
    ⟨_, "+".toList, by with_unfolding_all rfl, Utf8.decode_encode _, by with_unfolding_all rfl⟩
  have accepted : parse "+".toList = .ok [.leaf (.cell .add 1)] := by with_unfolding_all rfl
  have hplace : tree.place (.ofText "b.bf".toList) = .ok ["b.bf".toList] := by
    with_unfolding_all rfl
  have hnew : tree.entry? ["b.bf".toList] = none := by with_unfolding_all rfl
  obtain ⟨after, hrun, -, -, hkept⟩ := exists_run_printTo (by decide) (by decide) hholds accepted
    hplace hnew "main".toList
  have hp : IsSize (Numeral.ofNat Options.vast.pre) Options.vast.pre :=
    isSize_ofNat (Nat.sub_lt Numeral.tooLarge_pos Nat.one_pos)
  have hq : IsSize "1".toList Options.vast.post := ⟨by decide, by decide +kernel⟩
  have hzero := h _ _ _ tree after _ _ (by decide) (by decide) hholds accepted hplace hnew hrun
    Options.vast _ _ hp hq
  obtain ⟨-, hnone⟩ := run_sizes (by decide) hkept accepted hp hq "main".toList
  rw [hnone Options.isWritable_vast] at hzero
  cases hzero

end Compiler

end CommandLine

end TapeCompiler
