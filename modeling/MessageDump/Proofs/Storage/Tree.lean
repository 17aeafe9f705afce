import MessageDump.Storage.Disk
import MessageDump.Proofs.Fault.Sequence
import MessageDump.Proofs.Text.Split
/-! # Files that are written and read

What is written to a path is read from it again, until something else is written
there; files that are written to other paths do not matter (`Tree.Holds`).  A
path leads through directories to a place (`Tree.LeadsTo`), and since writing
puts a file where no directory is, all ways through directories stay as they are.
-/
namespace MessageDump
namespace Storage

/-! ## The path of a file in a directory -/

section Paths
variable {directory name : String}

theorem join_of_empty (h : directory.toList.getLast? = none) : join directory name = name := by
  rw [join, h]

theorem join_of_slash (h : directory.toList.getLast? = some '/') :
    join directory name = directory ++ name := by
  rw [join, h]
  rfl

theorem join_of_ne {c : Char} (h : directory.toList.getLast? = some c) (hc : c ≠ '/') :
    join directory name = directory ++ "/" ++ name := by
  rw [join, h]
  split
  · next heq => cases heq
  · next heq => exact absurd (Option.some.inj heq) hc
  · rfl

/-- A name without a slash is one step. -/
theorem steps_of_not_mem (h : '/' ∉ name.toList) : steps name = [name] := by
  rw [steps, Text.splitAt_of_not_mem h, List.map_singleton, String.ofList_toList]

/-- Behind a slash, a name is the last step. -/
theorem getLast?_steps_of_toList_eq {path : String} {above : List Char}
    (hpath : path.toList = above ++ '/' :: name.toList) (h : '/' ∉ name.toList) :
    (steps path).getLast? = some name := by
  rw [steps, hpath, Text.splitAt_append_sep, Text.splitAt_of_not_mem h, List.map_append,
    List.map_singleton, String.ofList_toList, List.getLast?_concat]

/-- The last step to a file in a directory is the name of the file. -/
theorem getLast?_steps_join (h : '/' ∉ name.toList) :
    (steps (join directory name)).getLast? = some name := by
  cases hlast : directory.toList.getLast? with
  | none =>
    rw [join_of_empty hlast, steps_of_not_mem h, List.getLast?_singleton]
  | some c =>
    by_cases hc : c = '/'
    · subst hc
      obtain ⟨above, habove⟩ := List.getLast?_eq_some_iff.mp hlast
      have hpath : (join directory name).toList = above ++ '/' :: name.toList := by
        rw [join_of_slash hlast, String.toList_append, habove, List.append_assoc]
        rfl
      exact getLast?_steps_of_toList_eq hpath h
    · have hpath : (join directory name).toList = directory.toList ++ '/' :: name.toList := by
        rw [join_of_ne hlast hc]
        simp
      exact getLast?_steps_of_toList_eq hpath h

theorem validSteps_eq_ok {path : String} {result : List String}
    (h : validSteps path = .ok result) : result = steps path := by
  unfold validSteps at h
  split at h
  · cases h
  · split at h
    · cases h
    · split at h
      · cases h
      · exact (Except.ok.inj h).symm

end Paths

namespace Tree

variable {tree tree' : Tree} {place other : List String} {entry : Entry}

/-! ## Entries -/

@[simp] theorem find?_nil (tree : Tree) : tree.find? [] = some .directory := rfl

theorem find?_of_ne_nil (h : place ≠ []) : tree.find? place = tree.entries.lookup place := by
  rw [find?, if_neg h]

theorem lookup_filter_ne {entries : List (List String × Entry)} (h : other ≠ place) :
    (entries.filter fun e => e.1 ≠ place).lookup other = entries.lookup other := by
  induction entries with
  | nil => rfl
  | cons e rest ih =>
    obtain ⟨key, value⟩ := e
    by_cases hkey : key = place
    · subst hkey
      rw [List.filter_cons_of_neg (by simp), ih, List.lookup_cons, beq_eq_false_iff_ne.mpr h]
    · rw [List.filter_cons_of_pos (by simpa using hkey), List.lookup_cons, List.lookup_cons, ih]

theorem lookup_filter_self {entries : List (List String × Entry)} :
    (entries.filter fun e => e.1 ≠ place).lookup place = none := by
  rw [List.lookup_eq_none_iff]
  intro e he
  simpa using Ne.symm (of_decide_eq_true (List.mem_filter.mp he).2)

theorem find?_put_self (h : place ≠ []) : (tree.put place entry).find? place = some entry := by
  rw [find?_of_ne_nil h, put, List.lookup_append, lookup_filter_self, List.lookup_cons, beq_self_eq_true]
  rfl

theorem find?_put_of_ne (h : other ≠ place) :
    (tree.put place entry).find? other = tree.find? other := by
  by_cases hnil : other = []
  · rw [hnil, find?_nil, find?_nil]
  · rw [find?_of_ne_nil hnil, find?_of_ne_nil hnil, put, List.lookup_append, lookup_filter_ne h,
      List.lookup_cons, beq_eq_false_iff_ne.mpr h]
    exact Option.or_none

/-! ## Ways through directories -/

/-- Putting a file where no directory is changes nothing about directories. -/
theorem isDirectory_put_file {content : ByteArray} (h : tree.find? place ≠ some .directory) :
    (tree.put place (.file content)).isDirectory other = tree.isDirectory other := by
  have hplace : place ≠ [] := fun hnil => h (hnil ▸ find?_nil tree)
  by_cases hother : other = place
  · subst hother
    rw [isDirectory, isDirectory, find?_put_self hplace, decide_eq_false h]
    rfl
  · rw [isDirectory, isDirectory, find?_put_of_ne hother]

theorem find?_put_ne_none (hplace : place ≠ []) (h : tree.find? other ≠ none) :
    (tree.put place entry).find? other ≠ none := by
  by_cases hother : other = place
  · rw [hother, find?_put_self hplace]
    exact Option.some_ne_none entry
  · rwa [find?_put_of_ne hother]

theorem child_of_short {name : String} (h : name.utf8ByteSize ≤ longestName) :
    tree.child place name = .ok (place ++ [name], tree.find? (place ++ [name])) := by
  rw [child, if_neg (Nat.not_lt.mpr h)]

theorem child_of_long {name : String} (h : ¬ name.utf8ByteSize ≤ longestName) :
    tree.child place name = .error .nameTooLong := by
  rw [child, if_pos (Nat.lt_of_not_le h)]

/-- A step from a directory that has a name leads to what has that name there. -/
theorem next_name_eq_ok_iff {step name : String} {result : List String}
    (hdirectory : tree.isDirectory place = true) (hname : nameOf? step = some name) :
    tree.next place step = .ok result ↔
      name.utf8ByteSize ≤ longestName ∧ tree.find? (place ++ [name]) ≠ none ∧
        place ++ [name] = result := by
  rw [next, hdirectory, hname]
  by_cases hshort : name.utf8ByteSize ≤ longestName
  · cases hfound : tree.find? (place ++ [name]) with
    | none => simp [child_of_short hshort, hfound, bind, Except.bind]
    | some entry => simp [child_of_short hshort, hfound, bind, Except.bind, hshort]
  · simp [child_of_long hshort, hshort, bind, Except.bind]

/-- A step that can be taken can be taken after a file is put where no directory is. -/
theorem next_put_file {content : ByteArray} {step : String} {result : List String}
    (h : tree.find? place ≠ some .directory) (hnext : tree.next other step = .ok result) :
    (tree.put place (.file content)).next other step = .ok result := by
  have hplace : place ≠ [] := fun hnil => h (hnil ▸ find?_nil tree)
  cases hdirectory : tree.isDirectory other with
  | false =>
    rw [next, hdirectory] at hnext
    cases hnext
  | true =>
    have hdirectory' : (tree.put place (.file content)).isDirectory other = true :=
      (isDirectory_put_file h).trans hdirectory
    cases hname : nameOf? step with
    | none =>
      rw [next, hdirectory', hname]
      rwa [next, hdirectory, hname] at hnext
    | some name =>
      rw [next_name_eq_ok_iff hdirectory hname] at hnext
      rw [next_name_eq_ok_iff hdirectory' hname]
      exact ⟨hnext.1, find?_put_ne_none hplace hnext.2.1, hnext.2.2⟩

/-- So can a whole way. -/
theorem foldlM_next_put_file {content : ByteArray} {steps result : List String}
    (h : tree.find? place ≠ some .directory) (hway : steps.foldlM tree.next other = .ok result) :
    steps.foldlM (tree.put place (.file content)).next other = .ok result := by
  induction steps generalizing other with
  | nil => exact hway
  | cons step rest ih =>
    rw [List.foldlM_cons, bind_eq_ok] at hway ⊢
    obtain ⟨next, hnext, hrest⟩ := hway
    exact ⟨next, next_put_file h hnext, ih hrest⟩

/-! ## Paths -/

/-- A path leads to a name in the directory at a place, where something may stand or
nothing. -/
structure LeadsTo (tree : Tree) (path : String) (place : List String) (name : String) : Prop where
  way : ∃ steps, validSteps path = .ok steps ∧ steps.getLast?.bind nameOf? = some name ∧
    steps.dropLast.foldlM tree.next (tree.start path) = .ok place
  directory : tree.isDirectory place = true
  short : name.utf8ByteSize ≤ longestName

variable {path name : String}

theorem LeadsTo.put_file {content : ByteArray} (hleads : tree.LeadsTo path other name)
    (h : tree.find? place ≠ some .directory) :
    (tree.put place (.file content)).LeadsTo path other name := by
  obtain ⟨⟨steps, hsteps, hlast, hway⟩, hdirectory, hshort⟩ := hleads
  exact ⟨⟨steps, hsteps, hlast, foldlM_next_put_file h hway⟩,
    (isDirectory_put_file h).trans hdirectory, hshort⟩

/-- Where no directory stands at the last step, this step is a name in a directory
that the steps before it lead to. -/
theorem exists_of_target_eq_ok {steps result : List String} {found : Option Entry}
    (h : tree.target other steps = .ok (result, found)) (hfound : found ≠ some .directory) :
    ∃ place name, steps.getLast?.bind nameOf? = some name ∧
      steps.dropLast.foldlM tree.next other = .ok place ∧ tree.isDirectory place = true ∧
      name.utf8ByteSize ≤ longestName ∧ place ++ [name] = result ∧ tree.find? result = found := by
  rw [target, bind_eq_ok] at h
  obtain ⟨place, hway, h⟩ := h
  cases hdirectory : tree.isDirectory place with
  | false =>
    rw [hdirectory] at h
    cases h
  | true =>
    rw [hdirectory] at h
    cases hname : steps.getLast?.bind nameOf? with
    | none =>
      rw [hname] at h
      cases h
      exact absurd rfl hfound
    | some name =>
      rw [hname] at h
      change tree.child place name = .ok (result, found) at h
      by_cases hshort : name.utf8ByteSize ≤ longestName
      · rw [child_of_short hshort] at h
        cases h
        exact ⟨place, name, rfl, hway, hdirectory, hshort, rfl, rfl⟩
      · rw [child_of_long hshort] at h
        cases h

/-- A file is written where a path leads and no directory is. -/
theorem exists_leadsTo_of_writable {result : List String} (h : tree.writable path = .ok result) :
    ∃ place name, tree.LeadsTo path place name ∧ place ++ [name] = result ∧
      tree.find? result ≠ some .directory := by
  rw [writable, bind_eq_ok] at h
  obtain ⟨steps, hsteps, h⟩ := h
  obtain ⟨⟨target, found⟩, htarget, h⟩ := bind_eq_ok.mp h
  have hfound : found ≠ some .directory := by
    rintro rfl
    cases h
  have hresult : target = result := by
    split at h
    · cases h
    · next heq =>
      cases heq
      exact Except.ok.inj h
  obtain ⟨place, name, hlast, hway, hdirectory, hshort, rfl, hentry⟩ :=
    exists_of_target_eq_ok htarget hfound
  rw [hresult] at hentry
  exact ⟨place, name, ⟨⟨steps, hsteps, hlast, hway⟩, hdirectory, hshort⟩, hresult, hentry ▸ hfound⟩

/-! ## What a path holds -/

/-- A path holds a text if it leads to a file with this text. -/
def Holds (tree : Tree) (path : String) (text : String) : Prop :=
  ∃ place name, tree.LeadsTo path place name ∧
    tree.find? (place ++ [name]) = some (.file text.toUTF8)

theorem write_eq_none {text : String} (h : tree.write path text = (none, tree')) :
    ∃ place name, tree.LeadsTo path place name ∧ tree.find? (place ++ [name]) ≠ some .directory ∧
      tree' = tree.put (place ++ [name]) (.file text.toUTF8) := by
  rw [write] at h
  split at h
  · next result hresult =>
    obtain ⟨place, name, hleads, rfl, hfound⟩ := exists_leadsTo_of_writable hresult
    exact ⟨place, name, hleads, hfound, (Prod.mk.inj h).2.symm⟩
  · cases h

/-- **A path holds what was written to it.** -/
theorem holds_of_write {text : String} (h : tree.write path text = (none, tree')) :
    tree'.Holds path text := by
  obtain ⟨place, name, hleads, hfound, rfl⟩ := write_eq_none h
  exact ⟨place, name, hleads.put_file hfound, find?_put_self (by simp)⟩

/-- A text is decoded from its own UTF-8 form. -/
theorem fromUTF8?_toUTF8 (text : String) : String.fromUTF8? text.toUTF8 = some text := by
  have hsame : String.fromUTF8 text.toByteArray text.isValidUTF8 = text := rfl
  simp [String.fromUTF8?, text.isValidUTF8, hsame]

theorem LeadsTo.locate_eq (h : tree.LeadsTo path place name)
    (hentry : tree.find? (place ++ [name]) ≠ none) : tree.locate path = .ok (place ++ [name]) := by
  obtain ⟨⟨steps, hsteps, hlast, hway⟩, hdirectory, hshort⟩ := h
  obtain ⟨step, hstep, hname⟩ := Option.bind_eq_some_iff.mp hlast
  have hnext : tree.next place step = .ok (place ++ [name]) :=
    (next_name_eq_ok_iff hdirectory hname).mpr ⟨hshort, hentry, rfl⟩
  have hsplit : steps = steps.dropLast ++ [step] :=
    (List.dropLast_append_getLast? step hstep).symm
  rw [locate, hsteps, hsplit]
  change (steps.dropLast ++ [step]).foldlM tree.next (tree.start path) = _
  rw [List.foldlM_append, hway]
  change [step].foldlM tree.next place = _
  rw [List.foldlM_cons, hnext]
  rfl

/-- **What a path holds is read from it.** -/
theorem Holds.read_eq {text : String} (h : tree.Holds path text) : tree.read path = .ok text := by
  obtain ⟨place, name, hleads, hentry⟩ := h
  have hlocate := hleads.locate_eq (hentry ▸ Option.some_ne_none _)
  simp only [read, hlocate, bind, Except.bind, hentry, fromUTF8?_toUTF8]

/-! ## Files in one directory -/

variable {directory : String}

/-- The path of a file in a directory leads to its name. -/
theorem LeadsTo.name_eq {last : String} (h : tree.LeadsTo (join directory name) place last)
    (hslash : '/' ∉ name.toList) : last = name := by
  obtain ⟨⟨steps, hsteps, hlast, _⟩, _, _⟩ := h
  rw [validSteps_eq_ok hsteps, getLast?_steps_join hslash, Option.bind_some] at hlast
  unfold nameOf? at hlast
  split at hlast
  · cases hlast
  · exact (Option.some.inj hlast).symm

/-- **Writing a file leaves the other files of its directory as they are.** -/
theorem Holds.of_write {other : String} {text text' : String}
    (hholds : tree.Holds (join directory name) text) (hslash : '/' ∉ name.toList)
    (hslash' : '/' ∉ other.toList) (hne : name ≠ other)
    (h : tree.write (join directory other) text' = (none, tree')) :
    tree'.Holds (join directory name) text := by
  obtain ⟨place, last, hleads, hentry⟩ := hholds
  obtain ⟨place', last', hleads', hfound, rfl⟩ := write_eq_none h
  obtain rfl := hleads.name_eq hslash
  obtain rfl := hleads'.name_eq hslash'
  have hplaces : place ++ [last] ≠ place' ++ [last'] := fun heq =>
    hne (List.cons.inj (List.append_inj_right' heq rfl)).1
  exact ⟨place, last, hleads.put_file hfound, (find?_put_of_ne hplaces).trans hentry⟩

end Tree
end Storage
end MessageDump
