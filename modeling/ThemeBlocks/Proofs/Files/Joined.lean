import Mathlib.Data.List.Basic
import ThemeBlocks.Proofs.Files.Changes

/-! Joined paths. A path is looked at through the names between its slashes: the names of a joined path
are those of its two parts, and without the names that are only a dot they tell where a path leads from
a directory, as long as none of them goes up. -/

namespace ThemeBlocks.Text

theorem splitAtChar_append (mark : Char) (front back : List Char) :
    splitAtChar mark (front ++ mark :: back) = splitAtChar mark front ++ splitAtChar mark back := by
  induction front with
  | nil => simp [splitAtChar]
  | cons c front ih =>
    rw [List.cons_append, splitAtChar, splitAtChar, ih]
    split
    · rfl
    · cases h : splitAtChar mark front with
      | nil => exact absurd h (splitAtChar_ne_nil mark front)
      | cons piece pieces => rfl

theorem splitAtChar_of_not_mem {mark : Char} {text : List Char} (h : mark ∉ text) :
    splitAtChar mark text = [text] := by
  induction text with
  | nil => rfl
  | cons c text ih =>
    obtain ⟨hc, htext⟩ := not_or.1 (mt List.mem_cons.2 h)
    rw [splitAtChar, ih htext, if_neg (Ne.symm hc)]

end ThemeBlocks.Text

namespace ThemeBlocks.Files

namespace Path

/-- The path, its single dots resolved: a dot at its start is none of its components here. -/
def resolved (path : Path) : List Component :=
  path.components.filter (· ≠ .here)

def isPlain (segment : String) : Bool :=
  segment ≠ "" && segment ≠ "."

/-- The names that a path goes through, without those that are only a dot. -/
def plainNames (path : Path) : List String :=
  path.segments.filter isPlain

def componentOf (name : String) : Component :=
  if name = ".." then .up else .name name

theorem componentOf_injective : Function.Injective componentOf := by
  intro name other h
  unfold componentOf at h
  split at h <;> split at h <;> simp_all

theorem componentOf?_eq (segment : String) :
    componentOf? segment = if isPlain segment then some (componentOf segment) else none := by
  unfold componentOf? isPlain componentOf
  split <;> simp_all

theorem filterMap_componentOf? (segments : List String) :
    segments.filterMap componentOf? = (segments.filter isPlain).map componentOf := by
  induction segments with
  | nil => rfl
  | cons segment segments ih =>
    rw [List.filterMap_cons, componentOf?_eq, ih]
    by_cases h : isPlain segment <;> simp [h]

theorem resolved_eq (path : Path) :
    path.resolved = (if path.isAbsolute then [.root] else []) ++ path.plainNames.map componentOf := by
  have hnames : ∀ names : List String,
      (names.map componentOf).filter (· ≠ .here) = names.map componentOf := by
    intro names
    refine List.filter_eq_self.2 (List.forall_mem_map.2 fun name _ => ?_)
    unfold componentOf
    split <;> simp
  rw [resolved, components, filterMap_componentOf?, List.filter_append, hnames, plainNames]
  congr 1
  split
  · rfl
  · split <;> rfl

theorem segments_slash (front back : String) :
    (⟨front ++ "/" ++ back⟩ : Path).segments =
      (⟨front⟩ : Path).segments ++ (⟨back⟩ : Path).segments := by
  have htext : (front ++ "/" ++ back).toList = front.toList ++ '/' :: back.toList := by simp
  rw [segments, htext, Text.splitAtChar_append, List.map_append]
  rfl

theorem segments_empty : (⟨""⟩ : Path).segments = [""] :=
  rfl

theorem filter_segments_endSlash {keep : String → Bool} (hkeep : keep "" = false) (front : String) :
    (⟨front ++ "/"⟩ : Path).segments.filter keep = (⟨front⟩ : Path).segments.filter keep := by
  have hslash := segments_slash front ""
  rw [String.append_empty] at hslash
  rw [hslash, List.filter_append, segments_empty]
  simp [hkeep]

section Join

variable {base path : Path}

theorem isAbsolute_join (h : path.isAbsolute = false) : (base.join path).isAbsolute = base.isAbsolute := by
  unfold join
  rw [if_neg (by simp [h])]
  by_cases hempty : base.text.isEmpty
  · have hbase : base.isAbsolute = false := by simp_all [isAbsolute]
    rw [if_pos hempty, h, hbase]
  · have hne : base.text.toList ≠ [] := by simpa using hempty
    rw [if_neg hempty]
    split <;> simp [isAbsolute, List.head?_append_of_ne_nil _ hne]

theorem filter_segments_join (h : path.isAbsolute = false) {keep : String → Bool}
    (hkeep : keep "" = false) :
    (base.join path).segments.filter keep =
      base.segments.filter keep ++ path.segments.filter keep := by
  obtain ⟨text⟩ := base
  unfold join
  rw [if_neg (by simp [h])]
  split
  · next hempty =>
    obtain rfl : text = "" := by simpa using hempty
    simp [segments_empty, hkeep]
  · split
    · next hlast =>
      obtain ⟨front, hfront⟩ := List.getLast?_eq_some_iff.1 hlast
      obtain rfl : text = .ofList front ++ "/" := by
        rw [← String.toList_inj]
        simpa using hfront
      rw [segments_slash, List.filter_append, filter_segments_endSlash hkeep]
    · rw [segments_slash, List.filter_append]

theorem plainNames_join (h : path.isAbsolute = false) :
    (base.join path).plainNames = base.plainNames ++ path.plainNames :=
  filter_segments_join h rfl

theorem resolved_join (h : path.isAbsolute = false) :
    (base.join path).resolved = base.resolved ++ path.plainNames.map componentOf := by
  rw [resolved_eq, resolved_eq, isAbsolute_join h, plainNames_join h, List.map_append,
    List.append_assoc]

theorem nodup_resolved_join_iff (base : Path) {paths : List Path}
    (hrelative : ∀ path ∈ paths, path.isAbsolute = false) :
    (paths.map fun path => (base.join path).resolved).Nodup ↔ (paths.map plainNames).Nodup := by
  rw [List.Nodup, List.Nodup, List.pairwise_map, List.pairwise_map]
  refine List.Pairwise.iff_of_mem fun {path other} hpath hother => not_congr ?_
  rw [resolved_join (hrelative path hpath), resolved_join (hrelative other hother),
    List.append_cancel_left_eq, componentOf_injective.list_map.eq_iff]

end Join

end Path

namespace Tree

open Files.Path (plainNames isPlain)

variable {tree : Tree} {current place target : Location} {path : Path}

theorem eq_of_advance_stay (h : tree.advance place .stay = .ok target) : target = place := by
  unfold advance at h
  split at h <;> cases h
  rfl

theorem eq_of_advance_down {name : String} (h : tree.advance place (.down name) = .ok target) :
    target = place ++ [name] := by
  unfold advance at h
  split at h
  · cases h
  · cases h
  · by_cases hlong : nameLimit < name.utf8ByteSize
    · simp [hlong] at h
    · simpa [hlong] using h.symm

theorem stepOf_of_plain {segment : String} (hup : segment ≠ "..") (hplain : isPlain segment) :
    stepOf segment = .down segment := by
  unfold stepOf
  split <;> simp_all [isPlain]

theorem eq_append_of_walk {segments : List String} (hup : ".." ∉ segments)
    (h : tree.walk place ((segments.filter (!·.isEmpty)).map stepOf) = .ok target) :
    target = place ++ segments.filter isPlain := by
  induction segments generalizing place with
  | nil =>
    cases h
    simp
  | cons segment segments ih =>
    obtain ⟨hne, hrest⟩ := not_or.1 (mt List.mem_cons.2 hup)
    by_cases hempty : segment = ""
    · subst hempty
      exact ih hrest h
    · rw [List.filter_cons_of_pos (by simpa using hempty), List.map_cons] at h
      rw [walk_cons] at h
      obtain ⟨next, hnext, hwalk⟩ := exists_ok_of_bind h
      by_cases hdot : segment = "."
      · subst hdot
        obtain rfl := eq_of_advance_stay hnext
        exact ih hrest hwalk
      · have hplain : isPlain segment := by simp [isPlain, hempty, hdot]
        rw [stepOf_of_plain (Ne.symm hne) hplain] at hnext
        obtain rfl := eq_of_advance_down hnext
        rw [ih hrest hwalk, List.filter_cons_of_pos hplain, List.append_assoc]
        rfl

theorem walk_nameSteps_of_locate (h : tree.locate current path = .ok target) :
    tree.walk (startOf current path) (nameSteps path) = .ok target := by
  unfold locate at h
  split at h
  · cases h
  · rw [stepsOf, walk_append] at h
    obtain ⟨reached, hreached, hend⟩ := exists_ok_of_bind h
    rw [hreached]
    split at hend
    · rw [walk_cons] at hend
      obtain ⟨next, hnext, hlast⟩ := exists_ok_of_bind hend
      cases hlast
      rw [eq_of_advance_stay hnext]
    · exact hend

section Join

variable {base : Path}

theorem startOf_join (h : path.isAbsolute = false) :
    startOf current (base.join path) = startOf current base := by
  simp [startOf, Path.isAbsolute_join h]

theorem nameSteps_join (h : path.isAbsolute = false) :
    nameSteps (base.join path) = nameSteps base ++ nameSteps path := by
  rw [nameSteps, Path.filter_segments_join h (by rfl), List.map_append]
  rfl

theorem exists_base_of_locate_join (hrelative : path.isAbsolute = false) (hup : ".." ∉ path.segments)
    (h : tree.locate current (base.join path) = .ok target) :
    ∃ place, tree.walk (startOf current base) (nameSteps base) = .ok place ∧
      target = place ++ path.plainNames := by
  have hwalk := walk_nameSteps_of_locate h
  rw [startOf_join hrelative, nameSteps_join hrelative, walk_append] at hwalk
  obtain ⟨place, hplace, hrest⟩ := exists_ok_of_bind hwalk
  exact ⟨place, hplace, eq_append_of_walk hup hrest⟩

/-- Two joined paths that lead to one place have the same names. -/
theorem plainNames_eq_of_locate_join {other : Path} (hrelative : path.isAbsolute = false)
    (hup : ".." ∉ path.segments) (hrelative' : other.isAbsolute = false)
    (hup' : ".." ∉ other.segments) (h : tree.locate current (base.join path) = .ok target)
    (hother : tree.locate current (base.join other) = .ok target) :
    path.plainNames = other.plainNames := by
  obtain ⟨place, hplace, hnext⟩ := exists_base_of_locate_join hrelative hup h
  obtain ⟨place', hplace', hnext'⟩ := exists_base_of_locate_join hrelative' hup' hother
  obtain rfl : place = place' := Except.ok.inj (hplace.symm.trans hplace')
  exact List.append_cancel_left (hnext.symm.trans hnext')

theorem nodup_locate_join {paths : List Path}
    (hrelative : ∀ path ∈ paths, path.isAbsolute = false)
    (hup : ∀ path ∈ paths, ".." ∉ path.segments)
    (hfound : ∀ path ∈ paths, ∃ target, tree.locate current (base.join path) = .ok target)
    (hnodup : (paths.map plainNames).Nodup) :
    (paths.map fun path => tree.locate current (base.join path)).Nodup := by
  rw [List.Nodup, List.pairwise_map] at hnodup ⊢
  refine hnodup.imp_of_mem fun {path other} hpath hother hnames hsame => hnames ?_
  obtain ⟨target, htarget⟩ := hfound path hpath
  exact plainNames_eq_of_locate_join (hrelative path hpath) (hup path hpath) (hrelative other hother)
    (hup other hother) htarget (hsame ▸ htarget)

end Join

end Tree

end ThemeBlocks.Files
