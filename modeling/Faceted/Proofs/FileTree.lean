import Faceted.FileTree
import Faceted.Proofs.Basic

/-!
# What changes in a tree of files

Making directories and writing a file change little, and leave what is there where it was.

* Putting something at a place that is no directory changes what is at this place only (`node?_put`).
* A path leads where it led as long as directories stay directories (`locate_of_keepsDirs`): looking up a
  path walks through directories, and nothing else is looked at on the way.
* Making the directories above a path gives new directories only, at places that the directories on the way
  to the path lead to (`gainsDirs_makeDirs`); the induction goes along the names from the last one back, as
  the directories are made.
* What is written is found under its path, and nothing else is changed (`eq_put_of_write`,
  `eq_put_of_append`).
* Texts that are appended to files one after the other stand in each file in their order, after what it held
  (`Appends`); runs that append one after the other compose (`Appends.trans`), since a path leads where it
  led.
-/

namespace Faceted

open Text

/-- The directory is one of those that a path goes through before its last name. -/
def Path.IsAbove (dir path : Path) : Prop := dir.root = path.root ∧ dir.parts <+: path.parent.parts

namespace FileTree

variable {tree made after : FileTree} {path : Path} {place other : List String} {node : FileNode}

/-! ## One place -/

theorem lookup_map_put {nodes : List (List String × FileNode)} :
    (nodes.map fun n => if n.1 = place then (place, node) else n).lookup other
      = if other = place then (nodes.lookup place).map fun _ => node else nodes.lookup other := by
  induction nodes with
  | nil => simp
  | cons n nodes ih =>
    obtain ⟨p, x⟩ := n
    rw [List.map_cons]
    by_cases hp : p = place
    · subst hp
      by_cases ho : other = p
      · subst ho
        simp
      · have hne : (other == p) = false := beq_eq_false_iff_ne.mpr ho
        simp [List.lookup_cons, hne, ih, ho]
    · by_cases ho : other = place
      · subst ho
        have hne : (other == p) = false := beq_eq_false_iff_ne.mpr (Ne.symm hp)
        simp [hp, List.lookup_cons, hne, ih]
      · simp [hp, List.lookup_cons, ih, ho]

/-- **Putting something at a place changes what is there, and nothing elsewhere**, unless the place is above
the tree. -/
theorem node?_put (h : tree.node? place ≠ some .dir) (node : FileNode) (other : List String) :
    (tree.put place node).node? other = if other = place then some node else tree.node? other := by
  have habove : place.all (fun n => n = ".." || n = "/") = false := by
    rw [Bool.eq_false_iff]
    exact fun hall => h (by rw [node?, if_pos hall])
  have hlookup : (tree.put place node).nodes.lookup other
      = if other = place then some node else tree.nodes.lookup other := by
    unfold put
    cases hfound : tree.nodes.lookup place with
    | some found =>
      rw [Option.isSome_some, if_pos rfl, lookup_map_put, hfound]
      rfl
    | none =>
      rw [Option.isSome_none, if_neg (by simp), List.lookup_append, List.lookup_cons, List.lookup_nil]
      by_cases ho : other = place
      · subst ho
        simp [hfound]
      · simp [beq_eq_false_iff_ne.mpr ho, ho]
  unfold node?
  rw [hlookup]
  by_cases ho : other = place
  · subst ho
    simp [habove]
  · rw [if_neg ho, if_neg ho]

/-! ## Directories that stay -/

/-- Every directory of the first tree is one of the second. -/
def KeepsDirs (tree after : FileTree) : Prop :=
  ∀ place, tree.node? place = some .dir → after.node? place = some .dir

theorem KeepsDirs.trans (h : KeepsDirs tree made) (h' : KeepsDirs made after) : KeepsDirs tree after :=
  fun place hplace => h' place (h place hplace)

theorem keepsDirs_put (h : tree.node? place ≠ some .dir) (node : FileNode) :
    KeepsDirs tree (tree.put place node) := by
  intro other hother
  have hne : other ≠ place := by
    rintro rfl
    exact h hother
  rwa [node?_put h, if_neg hne]

theorem walk_of_keepsDirs (h : KeepsDirs tree after) {names : List String} {target : List String}
    (hwalk : tree.walk place names = .ok target) : after.walk place names = .ok target := by
  induction names generalizing place with
  | nil => exact hwalk
  | cons name names ih =>
    rw [walk] at hwalk ⊢
    split at hwalk
    · next hdir =>
      rw [h place hdir]
      dsimp only
      split at hwalk
      · cases hwalk
      · next hlong =>
        rw [if_neg hlong]
        exact ih hwalk
    · cases hwalk
    · cases hwalk

/-- **A path leads where it led as long as directories stay.** -/
theorem locate_of_keepsDirs (h : KeepsDirs tree after) (hplace : tree.locate path = .ok place) :
    after.locate path = .ok place := by
  obtain ⟨_, htext, hwalk⟩ := bind_eq_ok_iff.mp hplace
  rw [locate, htext, ok_bind]
  exact walk_of_keepsDirs h hwalk

/-- What a path names is what is at its place. -/
theorem at?_of_locate (h : tree.locate path = .ok place) : tree.at? path = tree.node? place := by
  rw [at?, h]

theorem exists_locate_of_at? (h : tree.at? path = some node) :
    ∃ place, tree.locate path = .ok place ∧ tree.node? place = some node := by
  unfold at? at h
  split at h
  · next place hplace => exact ⟨place, hplace, h⟩
  · cases h

/-! ## New directories -/

/-- The second tree has what the first one has and, at places that one of the paths leads to, directories. -/
def GainsDirs (paths : Path → Prop) (tree after : FileTree) : Prop :=
  ∀ place, after.node? place = tree.node? place ∨
    tree.node? place = none ∧ after.node? place = some .dir ∧
      ∃ path, paths path ∧ after.locate path = .ok place

namespace GainsDirs

variable {paths others : Path → Prop}

theorem refl (paths : Path → Prop) (tree : FileTree) : GainsDirs paths tree tree := fun _ => Or.inl rfl

theorem node?_eq (h : GainsDirs paths tree after) (hplace : tree.node? place = some node) :
    after.node? place = some node := by
  rcases h place with heq | ⟨hnone, -⟩
  · rw [heq, hplace]
  · rw [hplace] at hnone
    cases hnone

theorem keepsDirs (h : GainsDirs paths tree after) : KeepsDirs tree after := fun _ => h.node?_eq

theorem mono (h : GainsDirs paths tree after) (himp : ∀ path, paths path → others path) :
    GainsDirs others tree after := by
  intro place
  refine (h place).imp_right ?_
  rintro ⟨hnone, hdir, path, hpath, hlocate⟩
  exact ⟨hnone, hdir, path, himp path hpath, hlocate⟩

theorem trans (h : GainsDirs paths tree made) (h' : GainsDirs paths made after) :
    GainsDirs paths tree after := by
  intro place
  rcases h place with heq | ⟨hnone, hdir, path, hpath, hlocate⟩
  · rw [← heq]
    exact h' place
  · exact Or.inr ⟨hnone, h'.node?_eq hdir, path, hpath, locate_of_keepsDirs h'.keepsDirs hlocate⟩

end GainsDirs

theorem gainsDirs_of_makeDir {paths : Path → Prop} (hpath : paths path)
    (h : tree.makeDir path = .ok made) : GainsDirs paths tree made := by
  obtain ⟨place, hlocate, h⟩ := bind_eq_ok_iff.mp h
  split at h
  · cases h
  next hnone =>
  obtain rfl := Except.ok.inj h
  have hfile : tree.node? place ≠ some .dir := by simp [hnone]
  intro other
  rw [node?_put hfile]
  by_cases ho : other = place
  · subst ho
    rw [if_pos rfl]
    exact Or.inr ⟨hnone, rfl, path, hpath, locate_of_keepsDirs (keepsDirs_put hfile .dir) hlocate⟩
  · rw [if_neg ho]
    exact Or.inl rfl

/-- The path is that of a directory with the first ones of some names. -/
def IsWithin (root : String) (names : List String) (path : Path) : Prop :=
  path.root = root ∧ path.parts <+: names

theorem gainsDirs_makeDirsBack (root : String) (tree : FileTree) (names : List String) :
    GainsDirs (IsWithin root names.reverse) tree (makeDirsBack root tree names).1 := by
  induction names generalizing tree with
  | nil => exact .refl _ tree
  | cons name above ih =>
    have hself : IsWithin root (name :: above).reverse ⟨root, (name :: above).reverse⟩ :=
      ⟨rfl, List.prefix_refl _⟩
    have hwithin (path : Path) (hpath : IsWithin root above.reverse path) :
        IsWithin root (name :: above).reverse path := by
      refine ⟨hpath.1, hpath.2.trans ?_⟩
      rw [List.reverse_cons]
      exact List.prefix_append _ _
    have habove := (ih tree).mono hwithin
    rw [makeDirsBack]
    split
    · next made hmade => exact gainsDirs_of_makeDir hself hmade
    · -- the directories above are made first, then this one is tried again
      cases hback : makeDirsBack root tree above with
      | mk tree' result =>
        rw [hback] at habove
        cases result with
        | error fault => exact habove
        | ok =>
          dsimp only
          split
          · next made hmade => exact habove.trans (gainsDirs_of_makeDir hself hmade)
          · exact habove
          · exact habove
    · exact .refl _ tree

/-- **Making directories gives directories on the way only.** -/
theorem gainsDirs_makeDirs (tree : FileTree) (path : Path) :
    GainsDirs (Path.IsAbove · path) tree (tree.makeDirs path.parent).1 := by
  have h := gainsDirs_makeDirsBack path.parent.root tree path.parent.parts.reverse
  rw [List.reverse_reverse] at h
  exact h.mono fun _ hdir => hdir

/-! ## Files that are written -/

/-- **A file that is written is put where its path leads**, and no directory was there. -/
theorem eq_put_of_write {content : List UInt8} (h : tree.write path content = .ok after) :
    ∃ place, tree.locate path = .ok place ∧ tree.node? place ≠ some .dir ∧
      after = tree.put place (.file content) := by
  obtain ⟨place, hlocate, h⟩ := bind_eq_ok_iff.mp h
  split at h
  · cases h
  next hfile => exact ⟨place, hlocate, hfile, (Except.ok.inj h).symm⟩

/-- What the file at a place holds, nothing if there is none. -/
def contentAt (tree : FileTree) (place : List String) : List UInt8 :=
  match tree.node? place with
  | some (.file content) => content
  | _ => []

theorem contentAt_of_node? {content : List UInt8} (h : tree.node? place = some (.file content)) :
    tree.contentAt place = content := by
  rw [contentAt, h]

/-- **What is appended is put at the end of the file that its path leads to.** -/
theorem eq_put_of_append {content : List UInt8} (h : tree.append path content = .ok after) :
    ∃ place, tree.locate path = .ok place ∧ tree.node? place ≠ some .dir ∧
      after = tree.put place (.file (tree.contentAt place ++ content)) := by
  obtain ⟨place, hlocate, h⟩ := bind_eq_ok_iff.mp h
  refine ⟨place, hlocate, ?_⟩
  unfold contentAt
  split at h
  · cases h
  · next old hold =>
    rw [hold]
    exact ⟨by simp, (Except.ok.inj h).symm⟩
  · next hnone =>
    rw [hnone]
    exact ⟨by simp, (Except.ok.inj h).symm⟩

theorem exists_append_of_at? {old : List UInt8} (h : tree.at? path = some (.file old))
    (content : List UInt8) : ∃ after, tree.append path content = .ok after := by
  obtain ⟨place, hplace, hold⟩ := exists_locate_of_at? h
  exact ⟨_, by rw [append, hplace, ok_bind, hold]; rfl⟩

/-! ## Texts that are appended -/

/-- The path leads to the place. -/
def leadsTo (tree : FileTree) (place : List String) (path : Path) : Bool :=
  match tree.locate path with
  | .ok found => found = place
  | .error _ => false

theorem leadsTo_iff : tree.leadsTo place path = true ↔ tree.locate path = .ok place := by
  unfold leadsTo
  cases tree.locate path <;> simp

/-- What is appended to the file at a place, by texts that are appended to files of paths. -/
def appendedAt (tree : FileTree) (place : List String) (texts : List (Path × List UInt8)) : List UInt8 :=
  (texts.filter fun e => tree.leadsTo place e.1).flatMap Prod.snd

/-- The second tree is the first one with texts appended to the files of paths, one after the other. Besides
these files there are new directories at most. -/
structure Appends (tree : FileTree) (texts : List (Path × List UInt8)) (after : FileTree) : Prop where
  dirs : KeepsDirs tree after
  located : ∀ e ∈ texts, ∃ place, after.locate e.1 = .ok place
  holds : ∀ e ∈ texts, ∀ place, after.locate e.1 = .ok place →
    after.node? place = some (.file (tree.contentAt place ++ after.appendedAt place texts))
  others : ∀ place, (∀ e ∈ texts, after.locate e.1 ≠ .ok place) →
    after.node? place = tree.node? place ∨ tree.node? place = none ∧ after.node? place = some .dir

namespace Appends

variable {texts more : List (Path × List UInt8)}

theorem of_gainsDirs {paths : Path → Prop} (h : GainsDirs paths tree after) : Appends tree [] after where
  dirs := h.keepsDirs
  located _ he := absurd he List.not_mem_nil
  holds _ he := absurd he List.not_mem_nil
  others place _ := (h place).imp_right fun ⟨hnone, hdir, _⟩ => ⟨hnone, hdir⟩

theorem refl (tree : FileTree) : Appends tree [] tree := of_gainsDirs (.refl (fun _ => False) tree)

theorem of_append {content : List UInt8} (h : tree.append path content = .ok after) :
    Appends tree [(path, content)] after := by
  obtain ⟨place, hlocate, hfile, rfl⟩ := eq_put_of_append h
  have hkeeps := keepsDirs_put hfile (.file (tree.contentAt place ++ content))
  have hafter := locate_of_keepsDirs hkeeps hlocate
  refine ⟨hkeeps, ?_, ?_, ?_⟩
  · intro e he
    obtain rfl := List.mem_singleton.mp he
    exact ⟨place, hafter⟩
  · intro e he other hother
    obtain rfl := List.mem_singleton.mp he
    obtain rfl : place = other := Except.ok.inj (hafter.symm.trans hother)
    rw [node?_put hfile, if_pos rfl, appendedAt]
    simp [leadsTo_iff.mpr hafter]
  · intro other hother
    have hne : other ≠ place := by
      rintro rfl
      exact hother _ List.mem_cons_self hafter
    rw [node?_put hfile, if_neg hne]
    exact Or.inl rfl

theorem appendedAt_eq_nil {place : List String} (h : ∀ e ∈ texts, after.locate e.1 ≠ .ok place) :
    after.appendedAt place texts = [] := by
  have hnone : texts.filter (fun e => after.leadsTo place e.1) = [] :=
    List.filter_eq_nil_iff.mpr fun e he hlead => h e he (leadsTo_iff.mp hlead)
  rw [appendedAt, hnone, List.flatMap_nil]

/-- What each file holds, whether something has been appended to it or not. -/
theorem contentAt_eq (h : Appends tree texts after) (place : List String) :
    after.contentAt place = tree.contentAt place ++ after.appendedAt place texts := by
  by_cases hplace : ∃ e ∈ texts, after.locate e.1 = .ok place
  · obtain ⟨e, he, hlead⟩ := hplace
    exact contentAt_of_node? (h.holds e he place hlead)
  · have hnone : ∀ e ∈ texts, after.locate e.1 ≠ .ok place := fun e he hlead => hplace ⟨e, he, hlead⟩
    rw [appendedAt_eq_nil hnone, List.append_nil]
    rcases h.others place hnone with heq | ⟨htree, hafter⟩
    · rw [contentAt, contentAt, heq]
    · rw [contentAt, contentAt, htree, hafter]

/-- Texts are appended to the same places later on. -/
theorem appendedAt_of_keepsDirs (h : Appends tree texts made) (hkeeps : KeepsDirs made after)
    (place : List String) : after.appendedAt place texts = made.appendedAt place texts := by
  have hsame : texts.filter (fun e => after.leadsTo place e.1)
      = texts.filter (fun e => made.leadsTo place e.1) := by
    refine List.filter_congr fun e he => ?_
    obtain ⟨other, hmade⟩ := h.located e he
    rw [leadsTo, leadsTo, locate_of_keepsDirs hkeeps hmade, hmade]
  rw [appendedAt, appendedAt, hsame]

/-- **Texts that are appended one after the other stand one after the other.** -/
theorem trans (h : Appends tree texts made) (h' : Appends made more after) :
    Appends tree (texts ++ more) after := by
  have happended (place : List String) : after.appendedAt place (texts ++ more)
      = made.appendedAt place texts ++ after.appendedAt place more := by
    rw [← h.appendedAt_of_keepsDirs h'.dirs, appendedAt, appendedAt, appendedAt, List.filter_append,
      List.flatMap_append]
  refine ⟨h.dirs.trans h'.dirs, ?_, ?_, ?_⟩
  · intro e he
    rcases List.mem_append.mp he with he | he
    · obtain ⟨place, hplace⟩ := h.located e he
      exact ⟨place, locate_of_keepsDirs h'.dirs hplace⟩
    · exact h'.located e he
  · intro e he place hlead
    rw [happended, ← List.append_assoc, ← h.contentAt_eq]
    by_cases hmore : ∃ e ∈ more, after.locate e.1 = .ok place
    · obtain ⟨later, hlater, hlead⟩ := hmore
      exact h'.holds later hlater place hlead
    · -- the file is as the first texts have left it
      have hnone : ∀ e ∈ more, after.locate e.1 ≠ .ok place := fun e he hlead => hmore ⟨e, he, hlead⟩
      have hfirst : e ∈ texts := by
        rcases List.mem_append.mp he with he | he
        · exact he
        · exact absurd hlead (hnone e he)
      obtain ⟨other, hmade⟩ := h.located e hfirst
      obtain rfl : other = place :=
        Except.ok.inj ((locate_of_keepsDirs h'.dirs hmade).symm.trans hlead)
      have hfile := h.holds e hfirst other hmade
      rw [appendedAt_eq_nil hnone, List.append_nil, contentAt_of_node? hfile]
      rcases h'.others other hnone with heq | ⟨hgone, -⟩
      · rw [heq, hfile]
      · rw [hfile] at hgone
        cases hgone
  · intro place hplace
    have hsecond := h'.others place fun e he => hplace e (List.mem_append_right _ he)
    have hfirst := h.others place fun e he hlead =>
      hplace e (List.mem_append_left _ he) (locate_of_keepsDirs h'.dirs hlead)
    rcases hfirst with heq | ⟨hnone, hdir⟩
    · rw [← heq]
      exact hsecond
    · exact Or.inr ⟨hnone, h'.dirs place hdir⟩

/-- A file that is there stays one. -/
theorem exists_file (h : Appends tree texts after) {content : List UInt8}
    (hfile : tree.at? path = some (.file content)) :
    ∃ more, after.at? path = some (.file (content ++ more)) := by
  obtain ⟨place, hplace, hnode⟩ := exists_locate_of_at? hfile
  have hlead := locate_of_keepsDirs h.dirs hplace
  rw [at?_of_locate hlead]
  by_cases hsome : ∃ e ∈ texts, after.locate e.1 = .ok place
  · obtain ⟨e, he, hlead⟩ := hsome
    have hholds := h.holds e he place hlead
    rw [contentAt_of_node? hnode] at hholds
    exact ⟨_, hholds⟩
  · rcases h.others place fun e he hlead => hsome ⟨e, he, hlead⟩ with heq | ⟨hnone, -⟩
    · exact ⟨[], by rw [heq, hnode, List.append_nil]⟩
    · rw [hnode] at hnone
      cases hnone

/-- A file that texts are appended to holds the first one, between what it held before and the others. -/
theorem exists_at?_of_cons {content : List UInt8} (h : Appends tree ((path, content) :: texts) after) :
    ∃ before more, after.at? path = some (.file (before ++ content ++ more)) := by
  obtain ⟨place, hplace⟩ := h.located _ List.mem_cons_self
  have hfirst : after.appendedAt place ((path, content) :: texts) =
      content ++ after.appendedAt place texts := by
    simp [appendedAt, leadsTo_iff.mpr hplace]
  refine ⟨tree.contentAt place, after.appendedAt place texts, ?_⟩
  rw [at?_of_locate hplace, h.holds _ List.mem_cons_self place hplace, hfirst, List.append_assoc]

end Appends

end FileTree

end Faceted
