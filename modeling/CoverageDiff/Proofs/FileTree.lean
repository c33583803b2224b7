import Mathlib.Data.List.Basic
import CoverageDiff.Files.Tree

/-!
# CoverageDiff.Proofs.FileTree

Reading and writing in a tree of files.

1. What is put at a place stands there, and what stands elsewhere stays;
   places above it become folders if nothing stood there (`at?_set_of_ne`).
2. A path leads through folders only, so it leads to the same place after a
   file was put where no folder stood (`locate_set`).  Hence what was written
   is what is read (`read_write`).
3. Two trees that differ at one place at most, which is no folder in either,
   lead every path to the same place or block it in both (`Differ.locate`).
   Paths that do not lead to that place cannot tell the trees apart.
4. Trees with the same at every place are changed in the same way by writing
   (`Same.write`).
-/

namespace CoverageDiff.Files.Tree

variable {t t' : Tree} {current place other : Location} {s : Stored} {p : Path}

/-! ## Putting something at a place -/

/-- What stands at another place stays, and places above become folders. -/
theorem at?_set_of_ne (h : other ≠ place) :
    (t.set place s).at? other =
      (t.at? other).or (if other <+: place then some .folder else none) := by
  have hfind : (t.set place s).entries.find? (fun e => e.1 == other) =
      t.entries.find? fun e => e.1 == other := by
    have hne : (place == other) = false := by simpa using h.symm
    simp only [set, List.find?_cons, hne, List.find?_filter]
    congr 1
    funext e
    by_cases he : e.1 = other <;> simp [he, h]
  have hany : (t.set place s).entries.any (fun e => other.isPrefixOf e.1) =
      (t.entries.any (fun e => other.isPrefixOf e.1) || other.isPrefixOf place) := by
    rw [Bool.eq_iff_iff]
    simp only [set, List.any_cons, Bool.or_eq_true, List.any_eq_true, List.mem_filter]
    constructor
    · rintro (hplace | ⟨e, ⟨he, _⟩, hbelow⟩)
      · exact .inr hplace
      · exact .inl ⟨e, he, hbelow⟩
    · rintro (⟨e, he, hbelow⟩ | hplace)
      · by_cases heq : e.1 = place
        · exact .inl (heq ▸ hbelow)
        · exact .inr ⟨e, ⟨he, by simpa using heq⟩, hbelow⟩
      · exact .inl hplace
  rw [at?, at?, hfind, hany, ← Bool.or_assoc]
  cases t.entries.find? fun e => e.1 == other with
  | some e => rfl
  | none =>
      generalize (other.isEmpty || t.entries.any fun e => other.isPrefixOf e.1) = above
      cases above <;> by_cases hbelow : other <+: place <;> simp [hbelow]

/-- A folder stays one if something is put elsewhere. -/
theorem at?_set_of_folder (h : t.at? other = some .folder) (hplace : t.at? place ≠ some .folder) :
    (t.set place s).at? other = some .folder := by
  have hne : other ≠ place := fun heq => hplace (heq ▸ h)
  rw [at?_set_of_ne hne, h, Option.some_or]

/-! ## Following a path -/

/-- A step is one from a folder. -/
theorem folder_of_step {name : String} (h : t.step place name = .ok other) :
    t.at? place = some .folder := by
  unfold step at h
  split at h
  · contradiction
  · contradiction
  · assumption

/-- Where a folder stands in both trees, a name leads to the same place. -/
theorem step_congr {name : String} (h : t.at? place = t'.at? place) :
    t.step place name = t'.step place name := by
  rw [step, step, h]

/-- A walk stays the same if a file is put where no folder stands. -/
theorem foldlM_step_set {names : List String} {start : Location}
    (hplace : t.at? place ≠ some .folder) (h : names.foldlM t.step start = .ok other) :
    names.foldlM (t.set place s).step start = .ok other := by
  induction names generalizing start with
  | nil => exact h
  | cons name names ih =>
      rw [List.foldlM_cons] at h ⊢
      cases hstep : t.step start name with
      | error e =>
          rw [hstep] at h
          contradiction
      | ok next =>
          have hfolder := folder_of_step hstep
          have hset := at?_set_of_folder (s := s) hfolder hplace
          rw [← step_congr (hfolder.trans hset.symm), hstep]
          rw [hstep] at h
          exact ih h

/-- A path leads to a place through folders, so it still does after a file was put where no folder
stood. -/
theorem locate_set (hplace : t.at? place ≠ some .folder) (h : t.locate current p = .ok other) :
    (t.set place s).locate current p = .ok other := by
  unfold locate at h ⊢
  split at h
  · contradiction
  · next hlen =>
      rw [if_neg hlen]
      exact foldlM_step_set hplace h

/-! ## What was written is read -/

theorem writeFile_eq (t : Tree) (current : Location) (p : Path) (bytes : List UInt8) :
    t.writeFile current p bytes =
      (t.locate current p).bind fun place =>
        if t.at? place = some .folder then .error .isFolder
        else .ok (t.set place (.file bytes)) := by
  unfold writeFile
  cases t.locate current p with
  | error e => rfl
  | ok place =>
      simp only [bind, Except.bind]
      cases t.at? place with
      | none => rfl
      | some s => cases s <;> rfl

theorem writeFile_eq_ok_iff {bytes : List UInt8} :
    t.writeFile current p bytes = .ok t' ↔
      ∃ place, t.locate current p = .ok place ∧ t.at? place ≠ some .folder ∧
        t.set place (.file bytes) = t' := by
  rw [writeFile_eq]
  cases t.locate current p with
  | error e => simp [Except.bind]
  | ok place => by_cases hfolder : t.at? place = some .folder <;> simp [Except.bind, hfolder]

theorem read_writeFile {bytes : List UInt8} (h : t.writeFile current p bytes = .ok t') :
    t'.read current p = .ok bytes := by
  obtain ⟨place, hlocate, hfolder, rfl⟩ := writeFile_eq_ok_iff.mp h
  have hset := locate_set (s := .file bytes) hfolder hlocate
  simp [read, find, hset, bind, Except.bind, pure, Except.pure]

theorem write_eq_ok_iff {bytes : List UInt8} :
    t.write current p bytes = .ok t' ↔
      ∃ made, t.makeFolder current p.parent = .ok made ∧
        made.writeFile current p bytes = .ok t' := by
  unfold write
  cases t.makeFolder current p.parent <;> simp [bind, Except.bind]

/-- **Reading after writing**: what was written to a path is what the path then leads to. -/
theorem read_write {bytes : List UInt8} (h : t.write current p bytes = .ok t') :
    t'.read current p = .ok bytes := by
  obtain ⟨made, _, hwrite⟩ := write_eq_ok_iff.mp h
  exact read_writeFile hwrite

/-! ## Trees that differ at one place -/

/-- Two trees have the same everywhere but at a place that is no folder in either. -/
structure Differ (place : Location) (t t' : Tree) : Prop where
  elsewhere : ∀ other, other ≠ place → t.at? other = t'.at? other
  left : t.at? place ≠ some .folder
  right : t'.at? place ≠ some .folder

/-- Something is missing on the way, or is a file. -/
def Blocked {α : Type} (x : Except PathError α) : Prop :=
  x = .error .missing ∨ x = .error .notFolder

theorem Blocked.ne_ok {α : Type} {x : Except PathError α} (h : Blocked x) (a : α) : x ≠ .ok a := by
  rcases h with rfl | rfl <;> simp

/-- No name leads on from what is not a folder. -/
theorem blocked_step (h : t.at? place ≠ some .folder) (name : String) :
    Blocked (t.step place name) := by
  unfold step
  cases hat : t.at? place with
  | none => exact .inl rfl
  | some stored =>
      cases stored with
      | file bytes => exact .inr rfl
      | folder => exact absurd hat h

theorem Blocked.foldlM {names : List String} {name : String}
    (h : Blocked (t.step place name)) : Blocked ((name :: names).foldlM t.step place) := by
  rw [List.foldlM_cons]
  rcases h with h | h
  · rw [h]
    exact .inl rfl
  · rw [h]
    exact .inr rfl

/-- A walk goes the same way in both trees, or both block it at the place where they differ. -/
theorem Differ.foldlM (h : Differ place t t') (names : List String) (start : Location) :
    names.foldlM t.step start = names.foldlM t'.step start ∨
      Blocked (names.foldlM t.step start) ∧ Blocked (names.foldlM t'.step start) := by
  induction names generalizing start with
  | nil => exact .inl rfl
  | cons name names ih =>
      by_cases hstart : start = place
      · have hleft := blocked_step (hstart ▸ h.left) name
        have hright := blocked_step (hstart ▸ h.right) name
        exact .inr ⟨hleft.foldlM, hright.foldlM⟩
      · rw [List.foldlM_cons, List.foldlM_cons, step_congr (h.elsewhere start hstart)]
        cases t'.step start name with
        | error e => exact .inl rfl
        | ok next => exact ih next

theorem Differ.locate (h : Differ place t t') (current : Location) (p : Path) :
    t.locate current p = t'.locate current p ∨
      Blocked (t.locate current p) ∧ Blocked (t'.locate current p) := by
  unfold Tree.locate
  split
  · exact .inl rfl
  · exact h.foldlM p.names (startOf current p)

theorem Differ.locate_eq_ok (h : Differ place t t') (hlocate : t.locate current p = .ok other) :
    t'.locate current p = .ok other := by
  rcases h.locate current p with heq | ⟨hblocked, _⟩
  · rw [← heq, hlocate]
  · exact absurd hlocate (hblocked.ne_ok other)

theorem find_eq (t : Tree) (current : Location) (p : Path) :
    t.find current p =
      (t.locate current p).bind fun place =>
        match t.at? place with
        | some s => .ok (place, s)
        | none => .error .missing := by
  unfold find
  cases t.locate current p with
  | error e => rfl
  | ok place => cases t.at? place <;> rfl

/-- A path that does not lead to the place where the trees differ finds the same in both, or finds
nothing in both. -/
theorem Differ.find (h : Differ place t t') (hp : t.locate current p ≠ .ok place) :
    t.find current p = t'.find current p ∨
      Blocked (t.find current p) ∧ Blocked (t'.find current p) := by
  rw [find_eq, find_eq]
  rcases h.locate current p with heq | ⟨hblocked, hblocked'⟩
  · left
    rw [← heq]
    cases hlocate : t.locate current p with
    | error e => rfl
    | ok other =>
        have hne : other ≠ place := fun hother => hp (hother ▸ hlocate)
        simp only [Except.bind, h.elsewhere other hne]
  · right
    rcases hblocked with hx | hx <;> rcases hblocked' with hy | hy <;>
      simp [hx, hy, Except.bind, Blocked]

theorem Differ.existsAt (h : Differ place t t') (hp : t.locate current p ≠ .ok place) :
    t.existsAt current p = t'.existsAt current p := by
  unfold Tree.existsAt
  rcases h.find hp with heq | ⟨hx | hx, hy | hy⟩
  · rw [heq]
  all_goals rw [hx, hy]

theorem Differ.read (h : Differ place t t') (hp : t.locate current p ≠ .ok place)
    (hexists : t.existsAt current p = .ok true) : t.read current p = t'.read current p := by
  rcases h.find hp with heq | ⟨hx | hx, _⟩
  · rw [Tree.read, Tree.read, heq]
  all_goals
    rw [Tree.existsAt, hx] at hexists
    contradiction

/-! ## Trees with the same at every place -/

/-- The same stands at every place. -/
def Same (t t' : Tree) : Prop :=
  ∀ place, t.at? place = t'.at? place

theorem Same.step (h : Same t t') : t.step = t'.step := by
  funext place name
  exact step_congr (h place)

theorem Same.locate (h : Same t t') (current : Location) (p : Path) :
    t.locate current p = t'.locate current p := by
  rw [Tree.locate, Tree.locate, h.step]

theorem Same.find (h : Same t t') (current : Location) (p : Path) :
    t.find current p = t'.find current p := by
  rw [find_eq, find_eq, h.locate]
  congr 1
  funext place
  rw [h place]

theorem Same.set (h : Same t t') (place : Location) (s : Stored) :
    Same (t.set place s) (t'.set place s) := by
  intro other
  by_cases hne : other = place
  · rw [hne, at?_set, at?_set]
  · rw [at?_set_of_ne hne, at?_set_of_ne hne, h other]

/-- Both changes fail with one error, or give trees with the same at every place. -/
inductive Alike : Except PathError Tree → Except PathError Tree → Prop
  | error (e : PathError) : Alike (.error e) (.error e)
  | ok {t t' : Tree} (h : Same t t') : Alike (.ok t) (.ok t')

theorem Alike.exists_ok {x x' : Except PathError Tree} (h : Alike x x') (hx : x = .ok t) :
    ∃ t', x' = .ok t' := by
  cases h with
  | error e => contradiction
  | @ok _ t' _ => exact ⟨t', rfl⟩

theorem Alike.bind {x x' : Except PathError Tree} {f f' : Tree → Except PathError Tree}
    (h : Alike x x') (hf : ∀ t t', Same t t' → Alike (f t) (f' t')) :
    Alike (x.bind f) (x'.bind f') := by
  cases h with
  | error e => exact .error e
  | ok hsame => exact hf _ _ hsame

theorem Alike.tryCatch {x x' : Except PathError Tree} {f f' : PathError → Except PathError Tree}
    (h : Alike x x') (hf : ∀ e, Alike (f e) (f' e)) : Alike (x.tryCatch f) (x'.tryCatch f') := by
  cases h with
  | error e => exact hf e
  | ok hsame => exact .ok hsame

theorem Same.keepFolder (h : Same t t') (current : Location) (p : Path) (e : PathError) :
    Alike (t.keepFolder current p e) (t'.keepFolder current p e) := by
  unfold Tree.keepFolder
  rw [h.find]
  split
  · exact .ok h
  · exact .error e

theorem makeOne_eq (t : Tree) (current : Location) (p : Path) :
    t.makeOne current p =
      (t.locate current p).bind fun place =>
        match t.at? place with
        | some _ => .error .isFile
        | none => .ok (t.set place .folder) := by
  unfold makeOne
  cases t.locate current p with
  | error e => rfl
  | ok place => cases t.at? place <;> rfl

theorem makeFolder_eq (t : Tree) (current : Location) (p : Path) :
    t.makeFolder current p =
      (t.makeOne current p).tryCatch fun e =>
        if e = .missing then
          if p.names = [] then .error .missing
          else
            (t.makeFolder current p.parent).bind fun above =>
              (above.makeOne current p).tryCatch (above.keepFolder current p)
        else t.keepFolder current p e := by
  rw [makeFolder]
  cases t.makeOne current p with
  | ok made => rfl
  | error e =>
      cases e with
      | missing =>
          simp only [Except.tryCatch, if_true]
          split
          · rfl
          · cases t.makeFolder current p.parent with
            | error e => rfl
            | ok above =>
                simp only [Except.bind]
                cases above.makeOne current p <;> rfl
      | notFolder => rfl
      | nameTooLong => rfl
      | isFolder => rfl
      | isFile => rfl

theorem Same.makeOne (h : Same t t') (current : Location) (p : Path) :
    Alike (t.makeOne current p) (t'.makeOne current p) := by
  rw [makeOne_eq, makeOne_eq, h.locate]
  cases t'.locate current p with
  | error e => exact .error e
  | ok place =>
      simp only [Except.bind, h place]
      cases t'.at? place with
      | some s => exact .error .isFile
      | none => exact .ok (h.set place .folder)

theorem Same.makeFolder (h : Same t t') (current : Location) (p : Path) :
    Alike (t.makeFolder current p) (t'.makeFolder current p) := by
  induction hn : p.names.length using Nat.strongRecOn generalizing p with
  | ind n ih =>
      rw [makeFolder_eq t, makeFolder_eq t']
      refine (h.makeOne current p).tryCatch fun e => ?_
      split
      · split
        · exact .error .missing
        · next hnames =>
            have hlt : p.parent.names.length < n := by
              have hpos := List.length_pos_iff.mpr hnames
              rw [Path.length_parent_names]
              omega
            refine (ih _ hlt p.parent rfl).bind fun above above' habove => ?_
            exact (habove.makeOne current p).tryCatch fun e => habove.keepFolder current p e
      · exact h.keepFolder current p e

theorem Same.writeFile (h : Same t t') (current : Location) (p : Path) (bytes : List UInt8) :
    Alike (t.writeFile current p bytes) (t'.writeFile current p bytes) := by
  rw [writeFile_eq, writeFile_eq, h.locate]
  cases t'.locate current p with
  | error e => exact .error e
  | ok place =>
      simp only [Except.bind, h place]
      split
      · exact .error .isFolder
      · exact .ok (h.set place (.file bytes))

/-- Writing changes trees with the same at every place in the same way. -/
theorem Same.write (h : Same t t') (current : Location) (p : Path) (bytes : List UInt8) :
    Alike (t.write current p bytes) (t'.write current p bytes) :=
  (h.makeFolder current p.parent).bind fun _ _ hmade => hmade.writeFile current p bytes

/-! ## Writing where two trees differ -/

/-- Where something stands no folder is made; a folder that stands there is kept. -/
theorem makeFolder_of_at? (hlocate : t.locate current p = .ok place) (hs : t.at? place = some s) :
    t.makeFolder current p = if s = .folder then .ok t else .error .isFile := by
  have hone : t.makeOne current p = .error .isFile := by
    simp [makeOne_eq, hlocate, hs, Except.bind]
  have hfind : t.find current p = .ok (place, s) := by
    simp [find_eq, hlocate, hs, Except.bind]
  rw [makeFolder_eq, hone]
  cases s <;> simp [Except.tryCatch, keepFolder, hfind]

theorem makeFolder_of_too_long (h : t.locate current p = .error .nameTooLong) :
    t.makeFolder current p = .error .nameTooLong := by
  have hone : t.makeOne current p = .error .nameTooLong := by
    simp [makeOne_eq, h, Except.bind]
  have hfind : t.find current p = .error .nameTooLong := by
    simp [find_eq, h, Except.bind]
  rw [makeFolder_eq, hone]
  simp [Except.tryCatch, keepFolder, hfind]

/-- A path with names leads on from a folder, unless the path of that folder is too long. -/
theorem locate_parent (hnames : p.names ≠ []) (h : t.locate current p = .ok place) :
    t.locate current p.parent = .error .nameTooLong ∨
      ∃ above, t.locate current p.parent = .ok above ∧ t.at? above = some .folder := by
  have hstart : startOf current p.parent = startOf current p := rfl
  have hparent : p.parent.names = p.names.dropLast := rfl
  unfold locate at h ⊢
  split at h
  · contradiction
  · split
    · exact .inl rfl
    · rw [← List.dropLast_concat_getLast hnames, List.foldlM_append, ← hparent, ← hstart] at h
      cases hwalk : p.parent.names.foldlM t.step (startOf current p.parent) with
      | error e =>
          rw [hwalk] at h
          contradiction
      | ok above =>
          rw [hwalk] at h
          refine .inr ⟨above, rfl, ?_⟩
          cases hstep : t.step above (p.names.getLast hnames) with
          | error e => simp [bind, Except.bind, hstep] at h
          | ok next => exact folder_of_step hstep

/-- A path without names is its own folder, so nothing is written to it. -/
theorem write_of_no_names {bytes : List UInt8} (hnames : p.names = [])
    (hlocate : t.locate current p = .ok place) : t.write current p bytes ≠ .ok t' := by
  have hparent : p.parent = p := by
    cases p with
    | mk anchor names =>
        cases hnames
        rfl
  intro hwrite
  obtain ⟨made, hmade, hfile⟩ := write_eq_ok_iff.mp hwrite
  obtain ⟨other, hother, hplace, _⟩ := writeFile_eq_ok_iff.mp hfile
  rw [hparent] at hmade
  cases hat : t.at? place with
  | none =>
      have hone : t.makeOne current p = .ok (t.set place .folder) := by
        simp [makeOne_eq, hlocate, hat, Except.bind]
      rw [makeFolder_eq, hone] at hmade
      cases hmade
      have hnone : t.at? place ≠ some .folder := by simp [hat]
      have hset := locate_set (s := .folder) hnone hlocate
      rw [hset, Except.ok.injEq] at hother
      rw [← hother, at?_set] at hplace
      contradiction
  | some s =>
      rw [makeFolder_of_at? hlocate hat] at hmade
      split at hmade
      · next hfolder =>
          cases hmade
          rw [hlocate, Except.ok.injEq] at hother
          rw [← hother, hat, hfolder] at hplace
          contradiction
      · contradiction

/-- **Writing where the trees differ**: what can be written to one can be written to the other. -/
theorem Differ.write (h : Differ place t t') (hlocate : t.locate current p = .ok place)
    {bytes : List UInt8} {u : Tree} (hwrite : t.write current p bytes = .ok u) :
    ∃ u', t'.write current p bytes = .ok u' := by
  have hnames : p.names ≠ [] := fun hnames => write_of_no_names hnames hlocate hwrite
  have hlocate' := h.locate_eq_ok hlocate
  obtain ⟨made, hmade, _⟩ := write_eq_ok_iff.mp hwrite
  rcases locate_parent hnames hlocate with hlong | ⟨above, habove, hfolder⟩
  · rw [makeFolder_of_too_long hlong] at hmade
    contradiction
  · have hne : above ≠ place := fun heq => h.left (heq ▸ hfolder)
    have hfolder' : t'.at? above = some .folder := h.elsewhere above hne ▸ hfolder
    have hmade' : t'.makeFolder current p.parent = .ok t' :=
      makeFolder_of_at? (h.locate_eq_ok habove) hfolder'
    exact ⟨_, write_eq_ok_iff.mpr
      ⟨t', hmade', writeFile_eq_ok_iff.mpr ⟨place, hlocate', h.right, rfl⟩⟩⟩

end CoverageDiff.Files.Tree

/-! ## Seen from a folder -/

namespace CoverageDiff.Files.Workspace

open CoverageDiff.Files.Tree

variable {w w' : Workspace} {p q : Path} {bytes : List UInt8}

theorem write_eq_ok_iff :
    w.write p bytes = .ok w' ↔
      ∃ t, w.tree.write w.current p bytes = .ok t ∧ { w with tree := t } = w' := by
  unfold write
  cases w.tree.write w.current p bytes <;> simp [bind, Except.bind, pure, Except.pure]

/-- **Reading after writing**, seen from a folder. -/
theorem read_write (h : w.write p bytes = .ok w') : w'.read p = .ok bytes := by
  obtain ⟨t, hwrite, rfl⟩ := write_eq_ok_iff.mp h
  exact Tree.read_write hwrite

/-- The files are the same but at the end of a path, where in neither a folder stands. -/
structure DifferAt (p : Path) (w w' : Workspace) : Prop where
  current : w.current = w'.current
  places : ∀ place, w.tree.at? place ≠ w'.tree.at? place → w.tree.locate w.current p = .ok place
  target : ∀ place, w.tree.locate w.current p = .ok place →
    w.tree.at? place ≠ some .folder ∧ w'.tree.at? place ≠ some .folder

/-- The trees have the same everywhere, or differ at the place that the path leads to. -/
theorem DifferAt.same_or_differ (h : DifferAt p w w') :
    Same w.tree w'.tree ∨
      ∃ place, Differ place w.tree w'.tree ∧ w.tree.locate w.current p = .ok place := by
  by_cases hsame : Same w.tree w'.tree
  · exact .inl hsame
  · obtain ⟨place, hne⟩ := not_forall.mp hsame
    have hlocate := h.places place hne
    obtain ⟨hleft, hright⟩ := h.target place hlocate
    refine .inr ⟨place, ⟨?_, hleft, hright⟩, hlocate⟩
    intro other hother
    by_contra hdiff
    have hsecond := h.places other hdiff
    rw [hlocate, Except.ok.injEq] at hsecond
    exact hother hsecond.symm

/-- A file put where the path leads is the only thing that differs, if all folders above exist. -/
theorem differAt_set {place : Location} (hlocate : w.tree.locate w.current p = .ok place)
    (hplace : w.tree.at? place ≠ some .folder)
    (habove : ∀ other, other <+: place → other ≠ place → w.tree.at? other = some .folder) :
    w.DifferAt p { w with tree := w.tree.set place (.file bytes) } where
  current := rfl
  places := by
    intro other hother
    by_cases hne : other = place
    · rw [hne, hlocate]
    · rw [at?_set_of_ne hne] at hother
      by_cases hbelow : other <+: place
      · simp [habove other hbelow hne] at hother
      · simp [hbelow] at hother
  target := by
    intro other hother
    rw [hlocate, Except.ok.injEq] at hother
    rw [← hother, at?_set]
    exact ⟨hplace, by simp⟩

/-- What is written to the path is read back in both, whatever was there. -/
theorem DifferAt.write (h : DifferAt p w w') {u : Workspace} (hwrite : w.write p bytes = .ok u) :
    ∃ u', w'.write p bytes = .ok u' ∧ u.read p = .ok bytes ∧ u'.read p = .ok bytes := by
  obtain ⟨t, ht, _⟩ := write_eq_ok_iff.mp hwrite
  have hexists : ∃ t', w'.tree.write w'.current p bytes = .ok t' := by
    rw [← h.current]
    rcases h.same_or_differ with hsame | ⟨place, hdiffer, hlocate⟩
    · exact (hsame.write w.current p bytes).exists_ok ht
    · exact hdiffer.write hlocate ht
  obtain ⟨t', ht'⟩ := hexists
  have hwrite' : w'.write p bytes = .ok { w' with tree := t' } :=
    write_eq_ok_iff.mpr ⟨t', ht', rfl⟩
  exact ⟨_, hwrite', read_write hwrite, read_write hwrite'⟩

end CoverageDiff.Files.Workspace
