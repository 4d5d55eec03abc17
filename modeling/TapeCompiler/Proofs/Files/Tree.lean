import Mathlib.Tactic.SplitIfs
import TapeCompiler.Files.Tree

/-!
# Writing a single file

A file is written to one place, and what there is in all other places stays as it was. On the way to
the place there are only directories, which are never written to, so the path leads to the same
place afterwards, and what is read there is what was written. A device is the one exception: it
takes everything and keeps nothing.

## Main definitions

* `Tree.Receives` — one path receives bytes, and nothing else is touched

## Main results

* `Tree.put_same`, `Tree.put_of_ne` — what there is after a change
* `Tree.follow_congr` — the way of a path depends on directories alone
* `Tree.find_eq_error_iff` — which paths cannot be looked for
* `Tree.receives_of_write`, `Tree.entry?_directory_of_write` — what writing does, and what it leaves
  alone
* `Tree.Receives.read` — what is read from a file that was written
-/

namespace TapeCompiler.Tree

open Files

/-! ### Changing one place -/

theorem isOuter_eq_false {tree : Tree} {place : Place} (h : tree.entry? place ≠ some .directory) :
    place.isOuter = false := by
  cases houter : place.isOuter with
  | false => rfl
  | true =>
    unfold entry? at h
    rw [houter] at h
    exact absurd rfl h

theorem put_same (tree : Tree) {place : Place} (entry : Entry) (h : place.isOuter = false) :
    Tree.entry? (tree.put place entry) place = some entry := by
  unfold Tree.entry?
  simp [put, h]

theorem lookup_filter_of_ne {entries : List (Place × Entry)} {place other : Place}
    (hne : other ≠ place) :
    (entries.filter fun (p, _) => p ≠ place).lookup other = entries.lookup other := by
  induction entries with
  | nil => rfl
  | cons entry rest ih =>
    obtain ⟨p, e⟩ := entry
    by_cases hp : p = place
    · -- The entry is left out, and it is not the one that is looked for.
      have hother : (other == p) = false := by simpa [hp] using hne
      rw [List.lookup_cons, hother, List.filter_cons_of_neg (by simpa using hp), ih]
    · rw [List.filter_cons_of_pos (by simpa using hp), List.lookup_cons, List.lookup_cons, ih]

theorem put_of_ne (tree : Tree) {place other : Place} (entry : Entry) (hne : other ≠ place) :
    Tree.entry? (tree.put place entry) other = tree.entry? other := by
  have hother : (other == place) = false := by simpa using hne
  have hlookup : (tree.put place entry).entries.lookup other = tree.entries.lookup other := by
    rw [put, List.lookup_cons, hother]
    exact lookup_filter_of_ne hne
  unfold Tree.entry?
  rw [hlookup]

/-! ### The way of a path -/

/-- A way leads to the same place in a tree with the same directories, and maybe others. -/
theorem follow_congr {tree other : Tree}
    (hdirectories : ∀ p, tree.entry? p = some .directory → other.entry? p = some .directory)
    {names : List Text} {start place : Place} (h : tree.follow start names = .ok place) :
    other.follow start names = .ok place := by
  induction names generalizing start with
  | nil => exact h
  | cons name rest ih =>
    rw [follow] at h
    split at h
    · cases h
    · cases h
    · cases h
    · next hstart =>
      rw [follow, hdirectories _ hstart]
      simp only
      split_ifs at h ⊢
      exact ih h

theorem place_congr {tree other : Tree}
    (hdirectories : ∀ p, tree.entry? p = some .directory → other.entry? p = some .directory)
    {path : Path} {place : Place} (h : tree.place path = .ok place) :
    other.place path = .ok place := by
  rw [Tree.place] at h ⊢
  split_ifs at h ⊢ <;> exact follow_congr hdirectories h

/-! ### Paths that are too long -/

/-- A name that is too long stops a way only if the way comes to it. -/
theorem follow_eq_tooLong_iff {tree : Tree} {start : Place} {names : List Text} :
    tree.follow start names = .error .tooLong ↔ ∃ before name after inner,
      names = before ++ name :: after ∧ tree.follow start before = .ok inner ∧
        tree.entry? inner = some .directory ∧ maxNameSize < size name := by
  induction names generalizing start with
  | nil => simp [follow]
  | cons name rest ih =>
    constructor
    · intro h
      rw [follow] at h
      split at h
      · cases h
      · cases h
      · cases h
      · next hstart =>
        split_ifs at h with hsize
        · exact ⟨[], name, rest, start, rfl, rfl, hstart, hsize⟩
        · obtain ⟨before, long, after, inner, rfl, hbefore, hinner, hlong⟩ := ih.mp h
          refine ⟨name :: before, long, after, inner, rfl, ?_, hinner, hlong⟩
          rw [follow, hstart]
          simp only
          rw [if_neg hsize, hbefore]
    · rintro ⟨before, long, after, inner, hnames, hbefore, hinner, hlong⟩
      cases before with
      | nil =>
        obtain ⟨rfl, rfl⟩ := List.cons.inj hnames
        obtain rfl := Except.ok.inj hbefore
        rw [follow, hinner]
        exact if_pos hlong
      | cons first before =>
        obtain ⟨rfl, rfl⟩ := List.cons.inj hnames
        rw [follow] at hbefore ⊢
        split at hbefore
        · cases hbefore
        · cases hbefore
        · cases hbefore
        · split_ifs at hbefore with hsize
          rw [if_neg hsize]
          exact ih.mpr ⟨before, long, after, inner, rfl, hbefore, hinner, hlong⟩

/-- A path cannot be looked for if it is too long, or if it leads to a directory behind which it
goes on with a name that is too long. Behind a directory that is missing such a name does no
harm. -/
theorem find_eq_error_iff {tree : Tree} {path : Path} {fault : Fault} :
    tree.find path = .error fault ↔ fault = ⟨.tooLong, path⟩ ∧ '\x00' ∉ path.text ∧
      (maxPathSize < size path.text ∨ ∃ before name after inner,
        path.names = before ++ name :: after ∧
          tree.follow (if path.root = [] then [] else [['/']]) before = .ok inner ∧
          tree.entry? inner = some .directory ∧ maxNameSize < size name) := by
  have hfind : tree.find path = .error fault ↔
      fault = ⟨.tooLong, path⟩ ∧ tree.place path = .error .tooLong := by
    rw [find]
    split
    · next hplace => simp [hplace]
    · next hplace => simp [hplace, eq_comm]
    · next cause hcause hplace => simpa [hplace] using fun _ => hcause
  rw [hfind, place, ← follow_eq_tooLong_iff]
  generalize (if path.root = [] then [] else [['/']] : Place) = start
  split_ifs with hnull hsize
  · simp [hnull]
  · simp [hnull, hsize]
  · simp [hnull, hsize]

/-! ### Writing -/

/-- A path receives bytes, and nothing else is touched. A file at its place holds exactly the bytes
afterwards; a device takes them and stays what it was. -/
def Receives (before after : Tree) (path : Path) (bytes : ByteArray) : Prop :=
  ∃ place, before.place path = .ok place ∧ after.place path = .ok place ∧
    (∀ other, other ≠ place → after.entry? other = before.entry? other) ∧
    match before.entry? place with
    | some .sink => after.entry? place = some .sink
    | _ => after.entry? place = some (.file bytes)

theorem receives_put {tree : Tree} {path : Path} {place : Place} (bytes : ByteArray)
    (hplace : tree.place path = .ok place) (hdirectory : tree.entry? place ≠ some .directory)
    (hsink : tree.entry? place ≠ some .sink) :
    tree.Receives (tree.put place (.file bytes)) path bytes := by
  -- The place is no directory, so no way goes through it.
  have hdirectories : ∀ p, tree.entry? p = some .directory →
      Tree.entry? (tree.put place (.file bytes)) p = some .directory := by
    intro p hp
    have hne : p ≠ place := by
      rintro rfl
      exact hdirectory hp
    rw [put_of_ne tree _ hne, hp]
  refine ⟨place, hplace, place_congr hdirectories hplace, fun _ => put_of_ne tree _, ?_⟩
  split
  · next hentry => exact absurd hentry hsink
  · exact put_same tree _ (isOuter_eq_false hdirectory)

theorem receives_of_write {before after : Tree} {path : Path} {bytes : ByteArray}
    (h : before.write path bytes = .ok after) : before.Receives after path bytes := by
  rw [write] at h
  cases hplace : before.place path with
  | error cause =>
    rw [hplace] at h
    cases h
  | ok place =>
    rw [hplace] at h
    simp only [Except.mapError, bind, Except.bind] at h
    cases hentry : before.entry? place with
    | none =>
      rw [hentry] at h
      cases h
      exact receives_put bytes hplace (by simp [hentry]) (by simp [hentry])
    | some entry =>
      rw [hentry] at h
      cases entry with
      | file old =>
        cases h
        exact receives_put bytes hplace (by simp [hentry]) (by simp [hentry])
      | directory => cases h
      | sink =>
        cases h
        exact ⟨place, hplace, hplace, fun _ _ => rfl, by simp [hentry]⟩

/-- Directories stay what they are. -/
theorem entry?_directory_of_write {before after : Tree} {path : Path} {bytes : ByteArray}
    (h : before.write path bytes = .ok after) {p : Place}
    (hp : before.entry? p = some .directory) : after.entry? p = some .directory := by
  obtain ⟨place, hplace, -, hothers, -⟩ := receives_of_write h
  have hne : p ≠ place := by
    rintro rfl
    simp [write, hplace, Except.mapError, bind, Except.bind, hp, throw, throwThe,
      MonadExceptOf.throw] at h
  rw [hothers p hne, hp]

/-! ### Reading -/

/-- What can be read has a place, and is there. -/
theorem exists_place_of_read {tree : Tree} {path : Path} {bytes : ByteArray}
    (h : tree.read path = .ok bytes) :
    ∃ place entry, tree.place path = .ok place ∧ tree.entry? place = some entry := by
  rw [read] at h
  cases hplace : tree.place path with
  | error cause =>
    rw [hplace] at h
    cases h
  | ok place =>
    rw [hplace] at h
    simp only [Except.mapError, bind, Except.bind] at h
    cases hentry : tree.entry? place with
    | none =>
      rw [hentry] at h
      cases h
    | some entry => exact ⟨place, entry, rfl, hentry⟩

theorem find_of_read {tree : Tree} {path : Path} {bytes : ByteArray}
    (h : tree.read path = .ok bytes) : ∃ entry, tree.find path = .ok (some entry) := by
  obtain ⟨place, entry, hplace, hentry⟩ := exists_place_of_read h
  exact ⟨entry, by rw [find, hplace, ← hentry]⟩

/-- What is read depends on what there is at the place of the path. -/
theorem read_congr {before after : Tree} {path : Path} {place : Place}
    (hbefore : before.place path = .ok place) (hafter : after.place path = .ok place)
    (hentry : after.entry? place = before.entry? place) : after.read path = before.read path := by
  simp only [read, hbefore, hafter, Except.mapError, bind, Except.bind, hentry]

/-- What was written to a path that leads to no device is read from it. -/
theorem Receives.read {before after : Tree} {path : Path} {bytes : ByteArray}
    (h : before.Receives after path bytes) (hsink : before.find path ≠ .ok (some .sink)) :
    after.read path = .ok bytes := by
  obtain ⟨place, hbefore, hafter, -, hentry⟩ := h
  split at hentry
  · next hdevice =>
    rw [find, hbefore] at hsink
    exact absurd (congrArg Except.ok hdevice) hsink
  · simp only [Tree.read, hafter, Except.mapError, bind, Except.bind, hentry]
    rfl

end TapeCompiler.Tree
