import Mathlib.Data.List.Induction
import Mathlib.Tactic.Common
import LanguageServer.Proofs.File.Evolution
import LanguageServer.Proofs.Text.Split

/-!
# Files in one directory

A directory is given by its path, and a file in it by the path of the directory and a name.  This
file separates the two questions that such a path raises: whether the directory can be entered
(`FileTree.Opens`), and what stands at the name inside it.  The place of the directory depends on
its path and, if the path is relative, on the working directory (`FileTree.placeOf`), but on nothing
else in the tree, so that two names give two places, and the files of a directory can be followed
through changes of the tree (`FileTree.file?_child`).

A path that climbs out of a directory with a pair of dots can be entered only when that directory is
there.  A directory may therefore have files in it and yet not be entered by its path, until
somebody makes the missing directory.  `FileTree.Reaches` excludes this: what lies in the directory
can be had by its path.  For a path without pairs of dots every file system is of this kind
(`FileTree.reaches_of_rooted`).
-/

namespace LanguageServer

open Text

/-! ## The place of a directory -/

namespace Path

/-- The place that is reached from another one through the parts, all of them taken for
directories. -/
def placeFrom : Place → List FileName → Place
  | place, [] => place
  | place, part :: rest =>
    if part = [] || part = here then placeFrom place rest
    else if part = above then placeFrom place.dropLast rest
    else placeFrom (place ++ [part]) rest

end Path

/-- A name that a path can end with to name something in a directory. -/
structure FileName.Plain (name : FileName) : Prop where
  nonempty : name ≠ []
  noSlash : Path.slash ∉ name
  notHere : name ≠ Path.here
  notAbove : name ≠ Path.above
  short : name.length ≤ FileName.limit

/-! ## Entering a directory -/

namespace FileTree

variable {tree before after : FileTree} {storage : Path} {name : FileName}

/-- From the place, the parts lead through directories to a directory. -/
def Leads (tree : FileTree) : Place → List FileName → Prop
  | place, [] => tree.node? place = some .directory
  | place, part :: rest =>
    tree.node? place = some .directory ∧
      if part = [] || part = Path.here then Leads tree place rest
      else if part = Path.above then Leads tree place.dropLast rest
      else part.length ≤ FileName.limit ∧ Leads tree (place ++ [part]) rest

/-- The path leads through directories to a directory. -/
def Opens (tree : FileTree) (path : Path) : Prop :=
  tree.Leads (tree.start path) path.parts

/-- The place that the path leads to. -/
def placeOf (tree : FileTree) (path : Path) : Place :=
  Path.placeFrom (tree.start path) path.parts

/-- What stands at the name in the directory. -/
def nodeIn (tree : FileTree) (storage : Path) (name : FileName) : Option Node :=
  tree.node? (tree.placeOf storage ++ [name])

lemma Leads.directory {place : Place} {parts : List FileName} (h : tree.Leads place parts) :
    tree.node? place = some .directory := by
  cases parts with
  | nil => exact h
  | cons part rest => exact h.1

/-- An empty part at the end, which a slash at the end gives, asks for nothing new. -/
lemma leads_append_empty (place : Place) (parts : List FileName) :
    tree.Leads place (parts ++ [[]]) ↔ tree.Leads place parts := by
  fun_induction Path.placeFrom place parts with
  | case1 place => simp [Leads]
  | case2 place part rest hidle ih => simp [Leads, hidle, ih]
  | case3 place rest hidle ih => simp [Leads, hidle, ih]
  | case4 place part rest hidle habove ih => simp [Leads, hidle, habove, ih]

lemma placeFrom_append_empty (place : Place) (parts : List FileName) :
    Path.placeFrom place (parts ++ [[]]) = Path.placeFrom place parts := by
  fun_induction Path.placeFrom place parts with
  | case1 place => simp [Path.placeFrom]
  | case2 place part rest hidle ih => simp [Path.placeFrom, hidle, ih]
  | case3 place rest hidle ih => simp [Path.placeFrom, hidle, ih]
  | case4 place part rest hidle habove ih => simp [Path.placeFrom, hidle, habove, ih]

lemma follow_plain (hname : name.Plain) (start found : Place) (node : Option Node) :
    tree.follow start [name] = .ok (found, node) ↔
      tree.node? start = some .directory ∧ found = start ++ [name] ∧ node = tree.node? found := by
  have hidle : ¬ (name = [] || name = Path.here) = true := by
    simp [hname.nonempty, hname.notHere]
  have hshort : ¬ FileName.limit < name.length := Nat.not_lt.2 hname.short
  constructor
  · intro h
    have hnode := node?_of_follow h
    simp only [follow, hidle, hname.notAbove, hshort, if_false] at h
    split at h
    next hstart =>
      cases hnext : tree.node? (start ++ [name]) with
      | none =>
        simp only [hnext, List.all_nil, if_true] at h
        cases h
        exact ⟨hstart, rfl, hnode⟩
      | some next =>
        simp only [hnext] at h
        cases h
        exact ⟨hstart, rfl, hnode⟩
    · cases h
    · cases h
  · rintro ⟨hstart, rfl, rfl⟩
    simp only [follow, hidle, hname.notAbove, hshort, if_false, hstart]
    cases tree.node? (start ++ [name]) <;> rfl

/-- **Following a path to a name** succeeds if and only if the parts before the name lead to a
directory; it then ends at the name in the place of that directory. -/
lemma follow_name (hname : name.Plain) (start : Place) (parts : List FileName) (found : Place)
    (node : Option Node) :
    tree.follow start (parts ++ [name]) = .ok (found, node) ↔
      tree.Leads start parts ∧ found = Path.placeFrom start parts ++ [name] ∧
        node = tree.node? found := by
  fun_induction Path.placeFrom start parts with
  | case1 start => simp only [List.nil_append, follow_plain hname, Leads]
  | case2 start part rest hidle ih =>
    simp only [List.cons_append, follow, Leads, hidle, if_true]
    cases hstart : tree.node? start with
    | none => simp
    | some standing => cases standing <;> simp [ih]
  | case3 start rest hidle ih =>
    simp only [List.cons_append, follow, Leads, hidle, if_true]
    cases hstart : tree.node? start with
    | none => simp
    | some standing => cases standing <;> simp [ih]
  | case4 start part rest hidle habove ih =>
    simp only [List.cons_append, follow, Leads, hidle, habove, if_false]
    cases hstart : tree.node? start with
    | none => simp
    | some standing =>
      cases standing with
      | file file => simp
      | directory =>
        by_cases hlong : FileName.limit < part.length
        · simp [hlong, Nat.not_le.2 hlong]
        · cases hnext : tree.node? (start ++ [part]) with
          | some next => simpa [hlong, hnext, Nat.not_lt.1 hlong] using ih
          | none =>
            have hleads : ¬ tree.Leads (start ++ [part]) rest := by
              intro h
              cases hnext.symm.trans h.directory
            simp [hlong, hname.nonempty, hleads]

/-! ## The files of a directory -/

/-- The parts of a path in a directory are those of the directory, less an empty one that a slash at
the end gives, and then the name. -/
lemma parts_child (hname : name.Plain) (storage : Path) :
    ∃ lead, (storage.child name).parts = lead ++ [name] ∧
      (storage.parts = lead ∨ storage.parts = lead ++ [[]]) := by
  have hhead : name.head? ≠ some Path.slash := fun h => hname.noSlash (List.mem_of_mem_head? h)
  have hchild (stem : List UInt8) : splitOn Path.slash (stem ++ Path.slash :: name) =
      splitOn Path.slash stem ++ [name] := by
    rw [splitOn_append, splitOn_of_notMem hname.noSlash]
  rcases List.eq_nil_or_concat storage.bytes with hbytes | ⟨stem, last, hbytes⟩
  · refine ⟨[], ?_, .inr ?_⟩
    · simp [Path.child, Path.parts, hhead, hbytes, splitOn_of_notMem hname.noSlash]
    · simp [Path.parts, hbytes, splitOn]
  · have hgetLast : storage.bytes.getLast? = some last := by simp [hbytes]
    by_cases hlast : last = Path.slash
    · refine ⟨splitOn Path.slash stem, ?_, .inr ?_⟩
      · simp [Path.child, Path.parts, hhead, hbytes, hlast, hchild]
      · simp [Path.parts, hbytes, hlast, splitOn_append, splitOn]
    · refine ⟨splitOn Path.slash storage.bytes, ?_, .inl rfl⟩
      simp [Path.child, Path.parts, hhead, hgetLast, hlast, hchild]

lemma start_child (hname : name.Plain) (storage : Path) :
    tree.start (storage.child name) = tree.start storage := by
  have hhead : name.head? ≠ some Path.slash := fun h => hname.noSlash (List.mem_of_mem_head? h)
  have habsolute : (storage.child name).isAbsolute = storage.isAbsolute := by
    cases hbytes : storage.bytes with
    | nil => simp [Path.child, Path.isAbsolute, hbytes, hhead]
    | cons b bs =>
      have hlast : (b :: bs).getLast? = some ((b :: bs).getLast (List.cons_ne_nil b bs)) :=
        List.getLast?_eq_some_getLast _
      rw [Path.child, if_neg hhead, hbytes, hlast]
      dsimp only
      split <;> simp [Path.isAbsolute, hbytes]
  rw [start, start, habsolute]

/-- **A path in a directory leads somewhere if and only if the directory opens**, and then to the
name in the place of the directory. -/
lemma locate_child (hname : name.Plain) (found : Place) (node : Option Node) :
    tree.locate (storage.child name) = .ok (found, node) ↔
      check (storage.child name) = .ok () ∧ tree.Opens storage ∧
        found = tree.placeOf storage ++ [name] ∧ node = tree.node? found := by
  have hfollow : tree.follow (tree.start (storage.child name)) (storage.child name).parts =
        .ok (found, node) ↔
      tree.Opens storage ∧ found = tree.placeOf storage ++ [name] ∧ node = tree.node? found := by
    obtain ⟨lead, hchild, hstorage⟩ := parts_child hname storage
    rw [hchild, start_child hname, follow_name hname, Opens, placeOf]
    rcases hstorage with h | h
    · rw [h]
    · rw [h, leads_append_empty, placeFrom_append_empty]
  constructor
  · intro h
    obtain ⟨⟨⟩, hcheck, hfollowed⟩ := exists_of_bind_ok h
    exact ⟨hcheck, hfollow.1 hfollowed⟩
  · rintro ⟨hcheck, h⟩
    rw [locate, hcheck]
    exact hfollow.2 h

/-- **The file that a path in a directory leads to** is the file at the name, if the path can be
followed at all. -/
lemma file?_child (hname : name.Plain) (file : File) :
    tree.file? (storage.child name) = some file ↔
      check (storage.child name) = .ok () ∧ tree.Opens storage ∧
        tree.nodeIn storage name = some (.file file) := by
  cases hlocate : tree.locate (storage.child name) with
  | ok found =>
    obtain ⟨place, node⟩ := found
    obtain ⟨hcheck, hopens, rfl, -⟩ := (locate_child hname place node).1 hlocate
    rw [file?_of_locate hlocate]
    simp [hcheck, hopens, nodeIn]
  | error e =>
    rw [file?, hlocate]
    constructor
    · intro h
      cases h
    · rintro ⟨hcheck, hopens, -⟩
      have hfound := (locate_child hname _ _).2 ⟨hcheck, hopens, rfl, rfl⟩
      cases hlocate.symm.trans hfound

lemma file?_child_eq_none (hname : name.Plain) (h : tree.nodeIn storage name = none) :
    tree.file? (storage.child name) = none := by
  refine Option.eq_none_iff_forall_ne_some.2 fun file hfile => ?_
  obtain ⟨-, -, hnode⟩ := (file?_child hname file).1 hfile
  cases h.symm.trans hnode

/-! ## A directory in a changing tree -/

lemma Evolves.start_eq {touched : List Place} (h : Evolves touched before after) (path : Path) :
    after.start path = before.start path := by
  rw [start, start, h.workingDirectory]

lemma Evolves.placeOf_eq {touched : List Place} (h : Evolves touched before after) (path : Path) :
    after.placeOf path = before.placeOf path := by
  rw [placeOf, placeOf, h.start_eq]

lemma Leads.evolve {touched : List Place} (h : Evolves touched before after) {place : Place}
    {parts : List FileName} (hleads : before.Leads place parts) : after.Leads place parts := by
  fun_induction Path.placeFrom place parts with
  | case1 place => exact h.directories place hleads
  | case2 place part rest hidle ih =>
    simp only [Leads, hidle, if_true] at hleads ⊢
    exact ⟨h.directories place hleads.1, ih hleads.2⟩
  | case3 place rest hidle ih =>
    simp only [Leads, hidle, if_true] at hleads ⊢
    exact ⟨h.directories place hleads.1, ih hleads.2⟩
  | case4 place part rest hidle habove ih =>
    simp only [Leads, hidle, habove, if_false] at hleads ⊢
    exact ⟨h.directories place hleads.1, hleads.2.1, ih hleads.2.2⟩

/-- A directory that opens goes on to do so, because no directory is lost. -/
lemma Opens.evolve {touched : List Place} (h : Evolves touched before after)
    (hopens : before.Opens storage) : after.Opens storage := by
  rw [Opens, h.start_eq]
  exact Leads.evolve h hopens

/-- There is nothing in the place. -/
def Vacant (tree : FileTree) (place : Place) : Prop :=
  ∀ name below, tree.node? (place ++ name :: below) = none

/-- What lies in the directory can be had by its path. -/
def Reaches (tree : FileTree) (storage : Path) : Prop :=
  tree.Opens storage ∨ tree.Vacant (tree.placeOf storage)

lemma reaches_of_file? {file : File} (hname : name.Plain)
    (h : tree.file? (storage.child name) = some file) : tree.Reaches storage := by
  obtain ⟨-, hopens, -⟩ := (file?_child hname file).1 h
  exact .inl hopens

/-- The second tree is the first one with changes at the names in the directory, and with new
directories where nothing stood. -/
abbrev EvolvesIn (storage : Path) (names : List FileName) (before after : FileTree) : Prop :=
  Evolves (names.map (before.placeOf storage ++ [·])) before after

namespace EvolvesIn

variable {names more : List FileName} {middle : FileTree}

lemma mono (h : EvolvesIn storage names before after) (hmore : names ⊆ more) :
    EvolvesIn storage more before after :=
  Evolves.mono h (List.map_subset _ hmore)

lemma trans (h₁ : EvolvesIn storage names before middle)
    (h₂ : EvolvesIn storage names middle after) : EvolvesIn storage names before after := by
  rw [EvolvesIn, Evolves.placeOf_eq h₁] at h₂
  exact Evolves.trans h₁ h₂

lemma file_iff (h : EvolvesIn storage names before after) (hname : name ∉ names) (file : File) :
    after.nodeIn storage name = some (.file file) ↔
      before.nodeIn storage name = some (.file file) := by
  rw [nodeIn, Evolves.placeOf_eq h]
  exact Evolves.file_iff h (by simpa using hname) file

/-- **An untouched file of a directory stays what it is, and none appears**, even if the directory
itself is made on the way. -/
lemma file?_child (h : EvolvesIn storage names before after) (hreaches : before.Reaches storage)
    (hplain : name.Plain) (hname : name ∉ names) :
    after.file? (storage.child name) = before.file? (storage.child name) := by
  refine Option.ext fun file => ?_
  rw [FileTree.file?_child hplain, FileTree.file?_child hplain, h.file_iff hname]
  rcases hreaches with hopens | hvacant
  · simp [hopens, hopens.evolve h]
  · simp [nodeIn, hvacant name []]

end EvolvesIn

/-! ## Changing a file of a directory -/

section

variable {written made : FileTree} {content : Content}

/-- **Writing a file of a directory touches nothing else**, whether or not it succeeds. -/
lemma evolves_write_child {cause : Option FileError} (hname : name.Plain)
    (h : tree.write (storage.child name) content = (written, cause)) :
    EvolvesIn storage [name] tree written := by
  obtain rfl : (tree.write (storage.child name) content).1 = written := by rw [h]
  cases hlocate : tree.locate (storage.child name) with
  | error e =>
    rw [write, hlocate]
    exact .refl _ _
  | ok found =>
    obtain ⟨place, node⟩ := found
    obtain ⟨-, -, rfl, -⟩ := (locate_child hname place node).1 hlocate
    exact evolves_write hlocate content

lemma nodeIn_of_write (hname : name.Plain)
    (h : tree.write (storage.child name) content = (written, none)) :
    ∃ executable, written.nodeIn storage name = some (.file ⟨content, executable⟩) := by
  have hevolves := evolves_write_child hname h
  obtain ⟨place, node, executable, hlocate, hnode, rfl, -, -⟩ := write_ok h
  obtain ⟨-, -, rfl, rfl⟩ := (locate_child hname place node).1 hlocate
  refine ⟨executable, ?_⟩
  rw [nodeIn, Evolves.placeOf_eq hevolves, node?_set_self (by simp)]

lemma makeExecutable_child {file : File} (hname : name.Plain)
    (hfile : tree.nodeIn storage name = some (.file file))
    (h : tree.makeExecutable (storage.child name) = .ok made) :
    EvolvesIn storage [name] tree made ∧
      made.nodeIn storage name = some (.file { file with executable := true }) := by
  obtain ⟨place, node, hlocate, hmade⟩ := makeExecutable_ok h
  obtain ⟨-, -, rfl, rfl⟩ := (locate_child hname place node).1 hlocate
  rcases hmade with ⟨hdirectory, -⟩ | ⟨found, hfound, rfl⟩
  · cases hfile.symm.trans hdirectory
  · cases hfile.symm.trans hfound
    have hevolves := evolves_set_file (by rw [hfound]; simp) { file with executable := true }
    refine ⟨hevolves, ?_⟩
    rw [nodeIn, Evolves.placeOf_eq hevolves, node?_set_self (by simp)]

lemma rename_child {target : FileName} (hname : name.Plain) (htarget : target.Plain)
    (hne : name ≠ target)
    (h : tree.rename (storage.child name) (storage.child target) = .ok made) :
    EvolvesIn storage [name, target] tree made ∧
      made.nodeIn storage name = none ∧
      ∃ file, tree.nodeIn storage name = some (.file file) ∧
        made.file? (storage.child target) = some file := by
  obtain ⟨old, new, node, file, hold, hnew, hnode, rfl, -⟩ := rename_ok h
  obtain ⟨-, -, rfl, hfile⟩ := (locate_child hname old _).1 hold
  obtain ⟨hcheck, hopens, rfl, rfl⟩ := (locate_child htarget new node).1 hnew
  set place := tree.placeOf storage with hplace
  have hplaces : place ++ [target] ≠ place ++ [name] := by simp [Ne.symm hne]
  have herase : Evolves [place ++ [name]] tree (tree.erase (place ++ [name])) :=
    evolves_erase (by simp [← hfile])
  have hset : Evolves [place ++ [target]] (tree.erase (place ++ [name]))
      ((tree.erase (place ++ [name])).set (place ++ [target]) (.file file)) :=
    evolves_set_file (by rwa [node?_erase_of_ne hplaces]) file
  have hevolves : EvolvesIn storage [name, target] tree
      ((tree.erase (place ++ [name])).set (place ++ [target]) (.file file)) :=
    (herase.mono (by simp [hplace])).trans (hset.mono (by simp [hplace]))
  refine ⟨hevolves, ?_, file, hfile.symm, ?_⟩
  · rw [nodeIn, Evolves.placeOf_eq hevolves, node?_set_of_ne hplaces.symm,
      node?_erase_self (by simp)]
  · refine (file?_child htarget file).2 ⟨hcheck, hopens.evolve hevolves, ?_⟩
    rw [nodeIn, Evolves.placeOf_eq hevolves, node?_set_self (by simp)]

lemma remove_child (hname : name.Plain) (h : tree.remove (storage.child name) = .ok made) :
    EvolvesIn storage [name] tree made ∧ made.nodeIn storage name = none := by
  obtain ⟨place, file, hlocate, rfl⟩ := remove_ok h
  obtain ⟨-, -, rfl, hfile⟩ := (locate_child hname place _).1 hlocate
  have hevolves : EvolvesIn storage [name] tree (tree.erase (tree.placeOf storage ++ [name])) :=
    evolves_erase (by simp [← hfile])
  refine ⟨hevolves, ?_⟩
  rw [nodeIn, Evolves.placeOf_eq hevolves, node?_erase_self (by simp)]

/-- A file of a directory that opens can be written, unless a directory stands at its name or the
medium fails. -/
lemma exists_write_child (hname : name.Plain) (hcheck : check (storage.child name) = .ok ())
    (hopens : tree.Opens storage) (hnode : tree.nodeIn storage name ≠ some .directory)
    (hopen : tree.medium.failure? (.openFile (tree.placeOf storage ++ [name])) = none)
    (hfill : tree.medium.failure? (.fill (tree.placeOf storage ++ [name]) content) = none) :
    ∃ written, tree.write (storage.child name) content = (written, none) := by
  have hlocate := (locate_child hname _ _).2 ⟨hcheck, hopens, rfl, rfl⟩
  rw [nodeIn] at hnode
  rw [write, hlocate]
  cases hfound : tree.node? (tree.placeOf storage ++ [name]) with
  | none =>
    simp only [fill, hopen, hfill]
    exact ⟨_, rfl⟩
  | some found =>
    cases found with
    | directory => exact absurd hfound hnode
    | file file =>
      simp only [fill, hopen, hfill]
      exact ⟨_, rfl⟩

/-- A file can be renamed inside a directory that opens, unless a directory is in the way or the
medium fails. -/
lemma exists_rename_child {target : FileName} {file : File} (hname : name.Plain)
    (htarget : target.Plain) (hcheck : check (storage.child name) = .ok ())
    (htargetCheck : check (storage.child target) = .ok ()) (hopens : tree.Opens storage)
    (hfile : tree.nodeIn storage name = some (.file file))
    (hnode : tree.nodeIn storage target ≠ some .directory)
    (hmove : tree.medium.failure? (.rename (tree.placeOf storage ++ [name])
      (tree.placeOf storage ++ [target])) = none) :
    ∃ moved, tree.rename (storage.child name) (storage.child target) = .ok moved := by
  have hold := (locate_child hname _ _).2 ⟨hcheck, hopens, rfl, rfl⟩
  have hnew := (locate_child htarget _ _).2 ⟨htargetCheck, hopens, rfl, rfl⟩
  rw [nodeIn] at hfile hnode
  rw [rename, hold, hfile]
  simp only [bind, Except.bind, hnew]
  cases hfound : tree.node? (tree.placeOf storage ++ [target]) with
  | none =>
    simp only [commit, hmove]
    exact ⟨_, rfl⟩
  | some found =>
    cases found with
    | directory => exact absurd hfound hnode
    | file replaced =>
      simp only [commit, hmove]
      exact ⟨_, rfl⟩

end

/-! ## File systems -/

/-- Everything in the tree is in a directory of the tree. -/
def Rooted (tree : FileTree) : Prop :=
  ∀ place name, tree.node? (place ++ [name]) ≠ none → tree.node? place = some .directory

/-- It is enough to look at the nodes that the tree lists. -/
lemma rooted_of_entries
    (h : ∀ entry ∈ tree.entries, tree.node? entry.1.dropLast = some .directory) :
    tree.Rooted := by
  intro place name hnode
  cases hfound : tree.entries.find? (·.1 = place ++ [name]) with
  | none => simp [node?, hfound] at hnode
  | some entry =>
    have hentry : entry.1 = place ++ [name] := by simpa using List.find?_some hfound
    have hdirectory := h entry (List.mem_of_find?_eq_some hfound)
    rwa [hentry, List.dropLast_concat] at hdirectory

lemma Rooted.node?_eq_none (hrooted : tree.Rooted) {place : Place}
    (hplace : tree.node? place ≠ some .directory) {below : List FileName} (hbelow : below ≠ []) :
    tree.node? (place ++ below) = none := by
  induction below using List.reverseRecOn with
  | nil => exact absurd rfl hbelow
  | append_singleton lead name ih =>
    by_contra hnode
    rw [← List.append_assoc] at hnode
    have hlead := hrooted _ _ hnode
    by_cases hnil : lead = []
    · subst hnil
      exact hplace (by simpa using hlead)
    · rw [ih hnil] at hlead
      cases hlead

lemma placeFrom_of_notMem_above {parts : List FileName} (habove : Path.above ∉ parts)
    (place : Place) : ∃ below, Path.placeFrom place parts = place ++ below := by
  fun_induction Path.placeFrom place parts with
  | case1 place => exact ⟨[], by simp⟩
  | case2 place part rest hidle ih => exact ih fun h => habove (List.mem_cons_of_mem _ h)
  | case3 place rest => exact absurd List.mem_cons_self habove
  | case4 place part rest hidle hpart ih =>
    obtain ⟨below, hbelow⟩ := ih fun h => habove (List.mem_cons_of_mem _ h)
    exact ⟨part :: below, by simp [hbelow]⟩

/-- Where no directory is, nothing is in any place further on. -/
lemma Rooted.vacant_of_not_directory (hrooted : tree.Rooted) {place : Place}
    {parts : List FileName} (habove : Path.above ∉ parts)
    (hplace : tree.node? place ≠ some .directory) : tree.Vacant (Path.placeFrom place parts) := by
  obtain ⟨below, hbelow⟩ := placeFrom_of_notMem_above habove place
  intro name more
  rw [hbelow, List.append_assoc]
  exact hrooted.node?_eq_none hplace (by simp)

/-- The parts lead into a directory, or to a place with nothing in it. -/
lemma Rooted.leads_or_vacant (hrooted : tree.Rooted) {place : Place} {parts : List FileName}
    (habove : Path.above ∉ parts) (hshort : ∀ part ∈ parts, part.length ≤ FileName.limit) :
    tree.Leads place parts ∨ tree.Vacant (Path.placeFrom place parts) := by
  by_cases hplace : tree.node? place = some .directory
  · fun_induction Path.placeFrom place parts with
    | case1 place => exact .inl hplace
    | case2 place part rest hidle ih =>
      simp only [Leads, hidle, if_true, hplace, true_and]
      exact ih (fun h => habove (List.mem_cons_of_mem _ h))
        (fun part h => hshort part (List.mem_cons_of_mem _ h)) hplace
    | case3 place rest => exact absurd List.mem_cons_self habove
    | case4 place part rest hidle hpart ih =>
      have hrest : Path.above ∉ rest := fun h => habove (List.mem_cons_of_mem _ h)
      simp only [Leads, hidle, hpart, if_false, hplace, true_and]
      by_cases hnext : tree.node? (place ++ [part]) = some .directory
      · rcases ih hrest (fun part h => hshort part (List.mem_cons_of_mem _ h)) hnext with h | h
        · exact .inl ⟨hshort part List.mem_cons_self, h⟩
        · exact .inr h
      · exact .inr (hrooted.vacant_of_not_directory hrest hnext)
  · exact .inr (hrooted.vacant_of_not_directory habove hplace)

/-- **A path without pairs of dots reaches what lies in its directory**, in every file system. -/
lemma reaches_of_rooted (hrooted : tree.Rooted) (habove : Path.above ∉ storage.parts)
    (hshort : ∀ part ∈ storage.parts, part.length ≤ FileName.limit) : tree.Reaches storage :=
  hrooted.leads_or_vacant habove hshort

end FileTree

end LanguageServer
