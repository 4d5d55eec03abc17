import TapeCompiler.CommandLine.Compiler
import TapeCompiler.Proofs.Code.Outcome
import TapeCompiler.Proofs.Files.Tree

/-!
# How the command line of the compiler ends

All that can go wrong is looked for before anything is written, and what is written is one text in
one place. So there is a single list of what can be decided, each entry with all that led to it, and
from it follows how a run ends: with what exit code, with what on the standard output, and with what
change of the files. A source path that is too long to be looked for is a case of its own: the run
breaks off, as if there were something.

## Main definitions

* `Tree.HoldsText` — the text of a file, as it is read
* `Invocation.Produces` — the result for the text of a source
* `Invocation.Decides` — all that can be decided to be done, and when
* `Invocation.LacksProgram` — that there is nothing at the source path, or no program
* `Invocation.Delivers` — the one place to which a result goes
* `Invocation.Ends` — how a run ends, and what it writes

## Main results

* `Invocation.decides_plan` — every plan is in the list
* `Compiler.ends_run` — how a command line that was accepted ends
-/

namespace TapeCompiler

/-- A path leads to a file with a text: its bytes are UTF-8, and its line breaks were unified. -/
def Tree.HoldsText (tree : Tree) (path : Path) (text : Text) : Prop :=
  ∃ bytes decoded, tree.read path = .ok bytes ∧ Utf8.decode bytes = .ok decoded ∧
    text = decoded.unifyLineBreaks

theorem Tree.HoldsText.unique {tree : Tree} {path : Path} {text other : Text}
    (h : tree.HoldsText path text) (h' : tree.HoldsText path other) : text = other := by
  obtain ⟨bytes, decoded, hread, hdecode, rfl⟩ := h
  obtain ⟨bytes', decoded', hread', hdecode', rfl⟩ := h'
  obtain rfl := Except.ok.inj (hread.symm.trans hread')
  obtain rfl := Except.ok.inj (hdecode.symm.trans hdecode')
  rfl

namespace CommandLine

namespace Invocation

/-! ### What can be decided -/

/-- The result for a text, with the extension of files that hold such: the printed form of its
program with a line break, or its code. -/
def Produces (i : Invocation) (o : Options) (text output extension : Text) : Prop :=
  if i.printProgram then
    ∃ t, format text = .ok t ∧ output = t ++ ['\n'] ∧ extension = "bf".toList
  else
    ∃ code, (o.settings (.text Indentation.standard)).compile text = .ok code ∧
      output = code.text ∧ extension = ['c']

/-- All that can be decided to be done, given what the source path leads to. -/
inductive Decides (i : Invocation) (found : Option (Except Files.Fault ByteArray))
    (toDirectory : Except Files.Fault Bool) : Action → Prop
  /-- The options are refused, whatever there is at the source path. -/
  | badOptions {fault : Options.Fault} (hcheck : i.options.check = .error fault) :
      Decides i found toDirectory (.stop 2)
  /-- There is nothing at the source path. -/
  | missing {o : Options} (hcheck : i.options.check = .ok o) (hfound : found = none) :
      Decides i found toDirectory (.stop 1)
  /-- The source cannot be read. -/
  | unusable {o : Options} {fault : Files.Fault} (hcheck : i.options.check = .ok o)
      (hfound : found = some (.error fault)) :
      Decides i found toDirectory (.breakOff (.file fault))
  /-- The source is not UTF-8. -/
  | undecodable {o : Options} {bytes : ByteArray} {fault : Utf8.Fault}
      (hcheck : i.options.check = .ok o) (hfound : found = some (.ok bytes))
      (hdecode : Utf8.decode bytes = .error fault) :
      Decides i found toDirectory (.breakOff (.undecodable fault))
  /-- The source is no program. -/
  | rejected {o : Options} {bytes : ByteArray} {text : Text} {e : SyntaxError}
      (hcheck : i.options.check = .ok o) (hfound : found = some (.ok bytes))
      (hdecode : Utf8.decode bytes = .ok text) (hparse : parse text.unifyLineBreaks = .error e) :
      Decides i found toDirectory (.stop 1)
  /-- The number of cells cannot be written. -/
  | unwritable {o : Options} {bytes : ByteArray} {text : Text} {program : Program}
      (hcheck : i.options.check = .ok o) (hfound : found = some (.ok bytes))
      (hdecode : Utf8.decode bytes = .ok text) (hparse : parse text.unifyLineBreaks = .ok program)
      (hprint : i.printProgram = false) (hwritable : Tape.isWritable (o.pre + o.post) = false) :
      Decides i found toDirectory (.breakOff .unwritable)
  /-- There is a result. -/
  | result {o : Options} {bytes : ByteArray} {text output extension : Text}
      (hcheck : i.options.check = .ok o) (hfound : found = some (.ok bytes))
      (hdecode : Utf8.decode bytes = .ok text)
      (hproduces : i.Produces o text.unifyLineBreaks output extension) :
      Decides i found toDirectory (i.deliver toDirectory output extension)

theorem decides_process {i : Invocation} {main : Text} {toDirectory : Except Files.Fault Bool}
    {o : Options} {bytes : ByteArray} {text : Text} (hcheck : i.options.check = .ok o)
    (hdecode : Utf8.decode bytes = .ok text) :
    i.Decides (some (.ok bytes)) toDirectory
      (i.process main toDirectory o text.unifyLineBreaks).action := by
  rw [process]
  cases hparse : parse text.unifyLineBreaks with
  | error e => exact .rejected hcheck rfl hdecode hparse
  | ok program =>
    simp only
    by_cases hprint : i.printProgram
    · rw [if_pos hprint]
      refine .result hcheck rfl hdecode ?_
      rw [Produces, if_pos hprint]
      have hformat : format text.unifyLineBreaks = .ok program.text := by
        rw [format, hparse]
        rfl
      exact ⟨_, hformat, rfl, rfl⟩
    · rw [if_neg hprint]
      -- The options are in order, so only their sum is left to be refused.
      cases hwritable : Tape.isWritable (o.pre + o.post) with
      | false =>
        simp only [Options.code?, hwritable, Bool.false_eq_true, if_false]
        exact .unwritable hcheck rfl hdecode hparse (by simpa using hprint) hwritable
      | true =>
        simp only [Options.code?, hwritable, if_true]
        refine .result hcheck rfl hdecode ?_
        rw [Produces, if_neg hprint]
        refine ⟨_, Options.compile_of_isWritable hparse hwritable _, rfl, ?_⟩
        rw [Options.code_eq]
        rfl

/-- Every plan is in the list. -/
theorem decides_plan (i : Invocation) (main : Text)
    (found : Option (Except Files.Fault ByteArray)) (toDirectory : Except Files.Fault Bool) :
    i.Decides found toDirectory (i.plan main found toDirectory).action := by
  rw [plan]
  cases hcheck : i.options.check with
  | error fault => exact .badOptions hcheck
  | ok o =>
    cases found with
    | none => exact .missing hcheck rfl
    | some read =>
      cases read with
      | error fault => exact .unusable hcheck rfl
      | ok bytes =>
        simp only
        cases hdecode : Utf8.decode bytes with
        | error fault => exact .undecodable hcheck rfl hdecode
        | ok text => exact decides_process hcheck hdecode

/-- Only for a program there is a result. -/
theorem Produces.exists_parse {i : Invocation} {o : Options} {text output extension : Text}
    (h : i.Produces o text output extension) : ∃ program, parse text = .ok program := by
  rw [Produces] at h
  cases hparse : parse text with
  | ok program => exact ⟨program, rfl⟩
  | error e =>
    split_ifs at h
    · obtain ⟨t, hformat, -⟩ := h
      rw [format, hparse] at hformat
      cases hformat
    · obtain ⟨code, hcode, -⟩ := h
      rw [(Options.compile_eq_syntaxError_iff _ _ _ _).mpr hparse] at hcode
      cases hcode

end Invocation

/-! ### What the source path leads to -/

namespace Compiler

theorem source_eq_none_iff {tree : Tree} {path : Path} :
    source tree path = none ↔ tree.find path = .ok none := by
  rw [source]
  cases tree.find path with
  | error fault => simp
  | ok found => cases found <;> simp

theorem source_of_find_eq_error {tree : Tree} {path : Path} {fault : Files.Fault}
    (h : tree.find path = .error fault) : source tree path = some (.error fault) := by
  rw [source, h]

theorem source_eq_ok_iff {tree : Tree} {path : Path} {bytes : ByteArray} :
    source tree path = some (.ok bytes) ↔ tree.read path = .ok bytes := by
  constructor
  · intro h
    rw [source] at h
    cases hfind : tree.find path with
    | error fault =>
      rw [hfind] at h
      cases h
    | ok found =>
      rw [hfind] at h
      cases found with
      | none => cases h
      | some entry => exact Option.some.inj h
  · intro h
    obtain ⟨entry, hfind⟩ := Tree.find_of_read h
    rw [source, hfind, ← h]
    rfl

end Compiler

/-- There is nothing at the source path, or no program. -/
def Invocation.LacksProgram (i : Invocation) (tree : Tree) : Prop :=
  tree.find (.ofText i.source) = .ok none ∨
    ∃ text e, tree.HoldsText (.ofText i.source) text ∧ parse text = .error e

theorem Invocation.lacksProgram_iff {i : Invocation} {tree : Tree} :
    i.LacksProgram tree ↔ Compiler.source tree (.ofText i.source) = none ∨
      ∃ bytes text e, Compiler.source tree (.ofText i.source) = some (.ok bytes) ∧
        Utf8.decode bytes = .ok text ∧ parse text.unifyLineBreaks = .error e := by
  simp only [LacksProgram, Tree.HoldsText, Compiler.source_eq_none_iff, Compiler.source_eq_ok_iff]
  constructor
  · rintro (hnone | ⟨_, e, ⟨bytes, text, hread, hdecode, rfl⟩, hparse⟩)
    · exact .inl hnone
    · exact .inr ⟨bytes, text, e, hread, hdecode, hparse⟩
  · rintro (hnone | ⟨bytes, text, e, hread, hdecode, hparse⟩)
    · exact .inl hnone
    · exact .inr ⟨_, e, ⟨bytes, text, hread, hdecode, rfl⟩, hparse⟩

/-! ### How a run ends -/

/-- A result goes to one place: to the standard output if there is no destination, or else to one
file, under the name of the source if the destination is a directory. -/
def Invocation.Delivers (i : Invocation) (before after : Tree) (report : Report)
    (output extension : Text) : Prop :=
  (i.emit = [] ∧ report.output = output ∧ after = before) ∨
    (i.emit ≠ [] ∧ report.output = [] ∧
      (before.isDirectory (.ofText i.emit) = .ok false ∧
          before.Receives after (.ofText i.emit) (Utf8.encode output) ∨
        before.isDirectory (.ofText i.emit) = .ok true ∧
          before.Receives after
            ((Path.ofText i.emit).child ((Path.ofText i.source).stem ++ '.' :: extension))
            (Utf8.encode output)))

/-- How a command line that was accepted ends. -/
structure Invocation.Ends (i : Invocation) (before : Tree) (report : Report) (after : Tree) :
    Prop where
  /-- The options are refused. -/
  two : report.ending = .exit 2 ↔ ∃ fault, i.options.check = .error fault
  /-- The options are in order, and it is the source that is not. -/
  one : report.ending = .exit 1 ↔ (∃ o, i.options.check = .ok o) ∧ i.LacksProgram before
  /-- A source that cannot be looked for is not taken for a missing one. -/
  unsearchable : ∀ fault, (∃ o, i.options.check = .ok o) →
    before.find (.ofText i.source) = .error fault → report.ending = .broken (.file fault)
  /-- Without success nothing is written. -/
  failure : report.ending ≠ .exit 0 → report.output = [] ∧ after = before
  /-- With success, the result for the text of the source is written. -/
  success : report.ending = .exit 0 → ∃ o text output extension, i.options.check = .ok o ∧
    before.HoldsText (.ofText i.source) text ∧ i.Produces o text output extension ∧
    i.Delivers before after report output extension

namespace Invocation

variable {i : Invocation} {tree : Tree} {errors : Text}

theorem Ends.of_success {report : Report} {after : Tree} {o : Options}
    (hcheck : i.options.check = .ok o) (hprogram : ¬ i.LacksProgram tree)
    (hfind : ∀ fault, tree.find (.ofText i.source) ≠ .error fault)
    (hending : report.ending = .exit 0)
    (hsuccess : ∃ o text output extension, i.options.check = .ok o ∧
      tree.HoldsText (.ofText i.source) text ∧ i.Produces o text output extension ∧
      i.Delivers tree after report output extension) : i.Ends tree report after where
  two := by simp [hending, hcheck]
  one := by simp [hending, hprogram]
  unsearchable := fun fault _ h => absurd h (hfind fault)
  failure := fun h => absurd hending h
  success := fun _ => hsuccess

theorem Ends.of_break {cause : Break} {o : Options} (hcheck : i.options.check = .ok o)
    (hprogram : ¬ i.LacksProgram tree)
    (hfind : ∀ fault, tree.find (.ofText i.source) = .error fault → cause = .file fault) :
    i.Ends tree ⟨.broken cause, [], errors⟩ tree where
  two := by simp [hcheck]
  one := by simp [hprogram]
  unsearchable := fun fault _ h => congrArg Ending.broken (hfind fault h)
  failure := fun _ => ⟨rfl, rfl⟩
  success := nofun

theorem Ends.of_stop_one {o : Options} (hcheck : i.options.check = .ok o)
    (hprogram : i.LacksProgram tree)
    (hfind : ∀ fault, tree.find (.ofText i.source) ≠ .error fault) :
    i.Ends tree ⟨.exit 1, [], errors⟩ tree where
  two := by simp [hcheck]
  one := by simp [hcheck, hprogram]
  unsearchable := fun fault _ h => absurd h (hfind fault)
  failure := fun _ => ⟨rfl, rfl⟩
  success := nofun

theorem Ends.of_stop_two {fault : Options.Fault} (hcheck : i.options.check = .error fault) :
    i.Ends tree ⟨.exit 2, [], errors⟩ tree where
  two := by simp [hcheck]
  one := by simp [hcheck]
  unsearchable := by simp [hcheck]
  failure := fun _ => ⟨rfl, rfl⟩
  success := nofun

end Invocation

theorem Compiler.ends_perform (main : Text) (i : Invocation) (tree : Tree) :
    i.Ends tree (perform main i tree).1 (perform main i tree).2 := by
  have hdecides := i.decides_plan main (source tree (.ofText i.source))
    (tree.isDirectory (.ofText i.emit))
  have hlacks : i.LacksProgram tree ↔ _ := Invocation.lacksProgram_iff
  have hsearched : ∀ fault, source tree (.ofText i.source) ≠ some (.error fault) →
      tree.find (.ofText i.source) ≠ .error fault :=
    fun _ hne h => hne (source_of_find_eq_error h)
  rw [perform]
  -- What is done follows from the decision alone, so the plan behind it is forgotten.
  generalize i.plan main _ _ = plan at hdecides ⊢
  obtain ⟨errors, action⟩ := plan
  simp only at hdecides ⊢
  cases hdecides with
  | badOptions hcheck => exact .of_stop_two hcheck
  | missing hcheck hfound =>
    exact .of_stop_one hcheck (hlacks.mpr (.inl hfound))
      fun fault => hsearched fault (by simp [hfound])
  | unusable hcheck hfound =>
    refine .of_break hcheck (by simp [hlacks, hfound]) fun fault h => ?_
    -- What cannot be looked for is reported, even if it could not be read either.
    rw [source_of_find_eq_error h] at hfound
    cases hfound
    rfl
  | undecodable hcheck hfound hdecode =>
    exact .of_break hcheck (by simp [hlacks, hfound, hdecode])
      fun fault h => absurd h (hsearched fault (by simp [hfound]))
  | rejected hcheck hfound hdecode hparse =>
    exact .of_stop_one hcheck (hlacks.mpr (.inr ⟨_, _, _, hfound, hdecode, hparse⟩))
      fun fault => hsearched fault (by simp [hfound])
  | unwritable hcheck hfound hdecode hparse _ _ =>
    exact .of_break hcheck (by simp [hlacks, hfound, hdecode, hparse])
      fun fault h => absurd h (hsearched fault (by simp [hfound]))
  | @result o bytes text output extension hcheck hfound hdecode hproduces =>
    obtain ⟨program, hparse⟩ := hproduces.exists_parse
    have hprogram : ¬ i.LacksProgram tree := by simp [hlacks, hfound, hdecode, hparse]
    have hfind : ∀ fault, tree.find (.ofText i.source) ≠ .error fault :=
      fun fault => hsearched fault (by simp [hfound])
    have hholds : tree.HoldsText (.ofText i.source) text.unifyLineBreaks :=
      ⟨bytes, text, source_eq_ok_iff.mp hfound, hdecode, rfl⟩
    -- Looking at the destination and writing to it are all that can still fail.
    by_cases hemit : i.emit = []
    · have hdeliver : i.deliver (tree.isDirectory (.ofText i.emit)) output extension =
          .print output := if_pos hemit
      rw [hdeliver]
      exact .of_success hcheck hprogram hfind rfl
        ⟨o, _, output, extension, hcheck, hholds, hproduces, .inl ⟨hemit, rfl, rfl⟩⟩
    · cases hdirectory : tree.isDirectory (.ofText i.emit) with
      | error fault =>
        have hdeliver : i.deliver (.error fault) output extension = .breakOff (.file fault) :=
          if_neg hemit
        rw [hdeliver]
        exact .of_break hcheck hprogram fun fault h => absurd h (hfind fault)
      | ok toDirectory =>
        have hdeliver : i.deliver (.ok toDirectory) output extension =
            .write (i.destination toDirectory extension) output := if_neg hemit
        rw [hdeliver]
        simp only
        cases hwrite : tree.write (i.destination toDirectory extension) (Utf8.encode output) with
        | error fault =>
          exact .of_break hcheck hprogram fun fault h => absurd h (hfind fault)
        | ok after =>
          have hreceives := Tree.receives_of_write hwrite
          refine .of_success hcheck hprogram hfind rfl
            ⟨o, _, output, extension, hcheck, hholds, hproduces, .inr ⟨hemit, rfl, ?_⟩⟩
          cases toDirectory with
          | false => exact .inl ⟨hdirectory, hreceives⟩
          | true => exact .inr ⟨hdirectory, hreceives⟩

/-- A command line that is accepted and asks for no help ends with 2 if its options are refused, and
otherwise with 1 if there is nothing at the source path or no program there; it breaks off if the
source path is too long to be looked for. Unless it ends with 0, nothing is written; and if it does,
the code of the source, or its printed form, is all that is written, in one place. -/
theorem Compiler.ends_run {line : List Text} {i : Invocation}
    (accepted : command.read {} line = .ok (.set i)) (main : Text) (tree : Tree) :
    i.Ends tree (run main line tree).1 (run main line tree).2 := by
  rw [run, accepted]
  exact ends_perform main i tree

/-- The options are refused before the source is missed. A name that is too long is missed as well
if the directory in front of it is missing, and stops the run otherwise. And a printed program ends
up in a directory under the name of its source. -/
theorem Compiler.ends_run_directory :
    let main := "main".toList
    let tree : Tree := { entries :=
      [(["a.bf".toList], .file (Utf8.encode "+ -".toList)), (["d".toList], .directory)] }
    let name := List.replicate 256 'a'
    let done := run main ["a.bf".toList, "--print-ir".toList, "-o".toList, "d".toList] tree
    (run main ["b.bf".toList, "--post".toList, "0".toList] tree).1.ending = .exit 2 ∧
      (run main ["b.bf".toList] tree).1.ending = .exit 1 ∧
      (run main ["e/".toList ++ name] tree).1.ending = .exit 1 ∧
      (run main ["d/".toList ++ name] tree).1.ending =
        .broken (.file ⟨.tooLong, .ofText ("d/".toList ++ name)⟩) ∧
      done.1.ending = .exit 0 ∧ done.1.output = [] ∧
      done.2.read (.ofText "d/a.bf".toList) = .ok (Utf8.encode "+-\n".toList) := by
  intro main tree name done
  have refused : command.read {} ["b.bf".toList, "--post".toList, "0".toList] =
      .ok (.set { source := "b.bf".toList, options := { post := .int 0 } }) := by
    with_unfolding_all rfl
  have missing : command.read {} ["b.bf".toList] = .ok (.set { source := "b.bf".toList }) := by
    with_unfolding_all rfl
  have behind : command.read {} ["e/".toList ++ name] =
      .ok (.set { source := "e/".toList ++ name }) := by with_unfolding_all rfl
  have long : command.read {} ["d/".toList ++ name] =
      .ok (.set { source := "d/".toList ++ name }) := by with_unfolding_all rfl
  have directory : command.read {} ["a.bf".toList, "--print-ir".toList, "-o".toList, "d".toList] =
      .ok (.set { source := "a.bf".toList, emit := "d".toList, printProgram := true }) := by
    with_unfolding_all rfl
  have hrefused := ends_run refused main tree
  have hmissing := ends_run missing main tree
  have hbehind := ends_run behind main tree
  have hlong := ends_run long main tree
  have hdone := ends_run directory main tree
  have hzero : done.1.ending = .exit 0 := by with_unfolding_all rfl
  obtain ⟨o, text, output, extension, -, ⟨bytes, decoded, hread, hdecode, rfl⟩,
    ⟨t, hformat, rfl, rfl⟩, hdelivers⟩ := hdone.success hzero
  have hbytes : tree.read (.ofText "a.bf".toList) = .ok (Utf8.encode "+ -".toList) := by
    with_unfolding_all rfl
  rw [hbytes] at hread
  cases hread
  have hdecoded : Utf8.decode (Utf8.encode "+ -".toList) = .ok "+ -".toList := by
    with_unfolding_all rfl
  rw [hdecoded] at hdecode
  cases hdecode
  have hformatted : format (Text.unifyLineBreaks "+ -".toList) = .ok "+-".toList := by
    with_unfolding_all rfl
  rw [hformatted] at hformat
  cases hformat
  have hdirectory : tree.isDirectory (.ofText "d".toList) = .ok true := by with_unfolding_all rfl
  have checked : ({} : Options.Unchecked).check = .ok {} := by with_unfolding_all rfl
  have hnowhere : tree.find (.ofText ("e/".toList ++ name)) = .ok none := by
    have hpath : Path.ofText ("e/".toList ++ name) = ⟨[], ["e".toList, name]⟩ := by decide +kernel
    have hplace : tree.place ⟨[], ["e".toList, name]⟩ = .error .notFound := by
      rw [Tree.place, if_neg (by decide +kernel), if_neg (by decide +kernel)]
      with_unfolding_all rfl
    rw [hpath, Tree.find, hplace]
  have hunsearchable : tree.find (.ofText ("d/".toList ++ name)) =
      .error ⟨.tooLong, .ofText ("d/".toList ++ name)⟩ := by
    have hpath : Path.ofText ("d/".toList ++ name) = ⟨[], ["d".toList, name]⟩ := by decide +kernel
    rw [hpath]
    exact Tree.find_eq_error_iff.mpr ⟨rfl, by decide +kernel, .inr ⟨["d".toList], name, [],
      ["d".toList], rfl, by with_unfolding_all rfl, by with_unfolding_all rfl, by decide +kernel⟩⟩
  refine ⟨hrefused.two.mpr ⟨_, by with_unfolding_all rfl⟩,
    hmissing.one.mpr ⟨⟨_, checked⟩, .inl (by with_unfolding_all rfl)⟩,
    hbehind.one.mpr ⟨⟨_, checked⟩, .inl hnowhere⟩,
    hlong.unsearchable _ ⟨_, checked⟩ hunsearchable, hzero, ?_⟩
  rcases hdelivers with ⟨hemit, -, -⟩ | ⟨-, hempty, ⟨hfile, -⟩ | ⟨-, hreceives⟩⟩
  · cases hemit
  · rw [hdirectory] at hfile
    cases hfile
  · have hpath : (Path.ofText "d".toList).child
        ((Path.ofText "a.bf".toList).stem ++ '.' :: "bf".toList) = .ofText "d/a.bf".toList := by
      decide +kernel
    replace hreceives : tree.Receives done.2 (.ofText "d/a.bf".toList)
        (Utf8.encode "+-\n".toList) := by
      rw [← hpath]
      exact hreceives
    have hnew : tree.find (.ofText "d/a.bf".toList) = .ok none := by with_unfolding_all rfl
    exact ⟨hempty, hreceives.read (by rw [hnew]; simp)⟩

/-- A name that is too long leads to nothing, and cannot even be looked for. -/
theorem Compiler.not_forall_ends_run :
    let name := List.replicate 256 'a'
    Compiler.command.read {} [name] = .ok (.set { source := name }) ∧
      ({} : Options.Unchecked).check = .ok {} ∧ Tree.entry? {} [name] = none ∧
      (run "main".toList [name] {}).1.ending = .broken (.file ⟨.tooLong, .ofText name⟩) := by
  intro name
  have accepted : Compiler.command.read {} [name] = .ok (.set { source := name }) := by
    with_unfolding_all rfl
  have checked : ({} : Options.Unchecked).check = .ok {} := by with_unfolding_all rfl
  have hfind : ({} : Tree).find (.ofText name) = .error ⟨.tooLong, .ofText name⟩ := by
    have hname : Path.ofText name = ⟨[], [name]⟩ := by decide +kernel
    have hsize : Tree.maxNameSize < Tree.size name := by decide +kernel
    rw [hname]
    exact Tree.find_eq_error_iff.mpr ⟨rfl, by decide +kernel,
      .inr ⟨[], name, [], [], rfl, rfl, rfl, hsize⟩⟩
  have hfound : source {} (.ofText name) = some (.error ⟨.tooLong, .ofText name⟩) := by
    rw [source, hfind]
  refine ⟨accepted, checked, by decide +kernel, ?_⟩
  simp only [run, accepted, perform, Invocation.plan, checked, hfound]

end CommandLine

end TapeCompiler
