import Mathlib.Data.List.Induction
import ThemeBlocks.Proofs.Files.Changes

/-! Texts that are stored one after the other, in a tree to which directories may be added in between. If
no two of the places are the same, each text is read back; in any case the last text at a place is there
in the end, so that storing all of them once more changes nothing. -/

namespace ThemeBlocks.Files.Tree

variable {current location : Location} {path : Path} {text : String} {before after tree : Tree}
  {writes : List (Path × String)}

/-- Texts are stored at their paths in order; before each one, entries may be added. -/
inductive Stored (current : Location) : Tree → List (Path × String) → Tree → Prop
  | nil (tree : Tree) : Stored current tree [] tree
  | cons {before made stored after : Tree} {path : Path} {text : String}
      {writes : List (Path × String)} : Extends before made →
      made.writeText current path text = .ok stored → Stored current stored writes after →
      Stored current before ((path, text) :: writes) after

namespace Stored

theorem keepsDirectories (h : Stored current before writes after) : KeepsDirectories before after := by
  induction h with
  | nil tree => exact .refl tree
  | cons hmade hstored _ ih =>
    obtain ⟨_, -, -, hkeeps, -⟩ := writeText_spec hstored
    exact (hmade.keepsDirectories.trans hkeeps).trans ih

theorem node?_of_forall_ne (h : Stored current before writes after)
    (hne : ∀ write ∈ writes, after.locate current write.1 ≠ .ok location)
    (hnode : before.node? location = some (.file text)) :
    after.node? location = some (.file text) := by
  induction h with
  | nil => exact hnode
  | cons hmade hstored hrest ih =>
    obtain ⟨hfirst, hothers⟩ := List.forall_mem_cons.1 hne
    obtain ⟨target, hlocate, -, -, hsame⟩ := writeText_spec hstored
    have htarget : location ≠ target := by
      rintro rfl
      exact hfirst (locate_of_keepsDirectories hrest.keepsDirectories hlocate)
    refine ih hothers ?_
    rw [hsame location htarget]
    exact hmade location _ hnode

theorem exists_locate (h : Stored current before writes after) :
    ∀ write ∈ writes, ∃ location, after.locate current write.1 = .ok location := by
  induction h with
  | nil => simp
  | cons _ hstored hrest ih =>
    obtain ⟨target, hlocate, -, -, -⟩ := writeText_spec hstored
    exact List.forall_mem_cons.2
      ⟨⟨target, locate_of_keepsDirectories hrest.keepsDirectories hlocate⟩, ih⟩

theorem readText_of_nodup (h : Stored current before writes after)
    (hnodup : (writes.map fun write => after.locate current write.1).Nodup) :
    ∀ write ∈ writes, after.readText current write.1 = .ok write.2 := by
  induction h with
  | nil => simp
  | cons _ hstored hrest ih =>
    rw [List.map_cons, List.nodup_cons] at hnodup
    obtain ⟨hfresh, hothers⟩ := hnodup
    obtain ⟨target, hlocate, hnode, -, -⟩ := writeText_spec hstored
    have hplace := locate_of_keepsDirectories hrest.keepsDirectories hlocate
    refine List.forall_mem_cons.2 ⟨?_, ih hothers⟩
    refine readText_eq_ok_iff.2 ⟨target, hplace, hrest.node?_of_forall_ne ?_ hnode⟩
    intro write hwrite hsame
    exact hfresh (List.mem_map.2 ⟨write, hwrite, hsame.trans hplace.symm⟩)

theorem exists_file (h : Stored current before writes after)
    (hnode : before.node? location = some (.file text)) :
    ∃ text, after.node? location = some (.file text) := by
  induction h generalizing text with
  | nil => exact ⟨text, hnode⟩
  | cons hmade hstored _ ih =>
    obtain ⟨target, -, htarget, -, hsame⟩ := writeText_spec hstored
    by_cases hplace : location = target
    · exact ih (hplace ▸ htarget)
    · exact ih ((hsame location hplace).trans (hmade location _ hnode))

theorem node?_of_last {front back : List (Path × String)}
    (h : Stored current before (front ++ (path, text) :: back) after)
    (hplace : after.locate current path = .ok location)
    (hback : ∀ write ∈ back, after.locate current write.1 ≠ .ok location) :
    after.node? location = some (.file text) := by
  generalize hall : front ++ (path, text) :: back = all at h
  induction h generalizing front with
  | nil => simp at hall
  | @cons _ _ _ _ first written rest _ hstored hrest ih =>
    cases front with
    | nil =>
      obtain ⟨hwrite, rfl⟩ := List.cons_eq_cons.1 hall
      cases hwrite
      obtain ⟨target, hlocate, hnode, -, -⟩ := writeText_spec hstored
      have hsame := locate_of_keepsDirectories hrest.keepsDirectories hlocate
      obtain rfl : target = location := Except.ok.inj (hsame.symm.trans hplace)
      exact hrest.node?_of_forall_ne hback hnode
    | cons write front => exact ih hplace hback (List.cons_eq_cons.1 hall).2

end Stored

/-- Texts are stored at their paths in order, and nothing else happens. -/
inductive Overwritten (current : Location) : Tree → List (Path × String) → Tree → Prop
  | nil (tree : Tree) : Overwritten current tree [] tree
  | cons {before stored after : Tree} {path : Path} {text : String} {writes : List (Path × String)} :
      before.writeText current path text = .ok stored → Overwritten current stored writes after →
      Overwritten current before ((path, text) :: writes) after

namespace Overwritten

theorem stored (h : Overwritten current before writes after) : Stored current before writes after := by
  induction h with
  | nil tree => exact .nil tree
  | cons hstored _ ih => exact .cons (.refl _) hstored ih

theorem node?_of_forall_ne (h : Overwritten current before writes after)
    (hne : ∀ write ∈ writes, after.locate current write.1 ≠ .ok location) :
    after.node? location = before.node? location := by
  induction h with
  | nil => rfl
  | cons hstored hrest ih =>
    obtain ⟨hfirst, hothers⟩ := List.forall_mem_cons.1 hne
    obtain ⟨target, hlocate, -, -, hsame⟩ := writeText_spec hstored
    have hother : location ≠ target := by
      rintro rfl
      exact hfirst (locate_of_keepsDirectories hrest.stored.keepsDirectories hlocate)
    exact (ih hothers).trans (hsame location hother)

end Overwritten

theorem exists_last {α : Type} {p : α → Prop} {xs : List α} (h : ∃ x ∈ xs, p x) :
    ∃ front x back, xs = front ++ x :: back ∧ p x ∧ ∀ y ∈ back, ¬ p y := by
  induction xs using List.reverseRecOn with
  | nil => simp at h
  | append_singleton xs last ih =>
    by_cases hlast : p last
    · exact ⟨xs, last, [], rfl, hlast, by simp⟩
    · obtain ⟨x, hx, hp⟩ := h
      have hbefore : x ∈ xs := by
        rcases List.mem_append.1 hx with hx | hx
        · exact hx
        · cases List.mem_singleton.1 hx
          exact absurd hp hlast
      obtain ⟨front, y, back, rfl, hy, hback⟩ := ih ⟨x, hbefore, hp⟩
      refine ⟨front, y, back ++ [last], by simp, hy, fun z hz => ?_⟩
      rcases List.mem_append.1 hz with hz | hz
      · exact hback z hz
      · cases List.mem_singleton.1 hz
        exact hlast

theorem node?_of_same_writes {start first second : Tree} (hstored : Stored current start writes first)
    (hagain : Overwritten current first writes second) (location : Location) :
    second.node? location = first.node? location := by
  have hkeeps := hagain.stored.keepsDirectories
  have hsame : ∀ write ∈ writes, second.locate current write.1 = first.locate current write.1 := by
    intro write hwrite
    obtain ⟨place, hplace⟩ := hstored.exists_locate write hwrite
    rw [hplace, locate_of_keepsDirectories hkeeps hplace]
  by_cases h : ∃ write ∈ writes, first.locate current write.1 = .ok location
  · obtain ⟨front, ⟨path, text⟩, back, rfl, hplace, hback⟩ := exists_last h
    rw [hstored.node?_of_last hplace hback]
    refine hagain.stored.node?_of_last ((hsame _ (by simp)).trans hplace) fun write hwrite => ?_
    rw [hsame write (by simp [hwrite])]
    exact hback write hwrite
  · refine hagain.node?_of_forall_ne fun write hwrite hplace => h ⟨write, hwrite, ?_⟩
    rw [← hsame write hwrite, hplace]

/-- Storing all but the last text once more shows the last text, and that alone. -/
theorem node?_unchanged_iff {start first second : Tree} {front : List (Path × String)}
    {text other : String} (hstored : Stored current start (front ++ [(path, text)]) first)
    (hagain : Overwritten current first (front ++ [(path, other)]) second) :
    (∀ location, second.node? location = first.node? location) ↔ other = text := by
  constructor
  · intro hsame
    obtain ⟨location, hplace⟩ := hstored.exists_locate (path, text) (by simp)
    have hlater := locate_of_keepsDirectories hagain.stored.keepsDirectories hplace
    have hfirst := hstored.node?_of_last hplace (by simp)
    have hsecond := hagain.stored.node?_of_last hlater (by simp)
    rw [hsame location, hfirst] at hsecond
    cases hsecond
    rfl
  · rintro rfl
    exact node?_of_same_writes hstored hagain

end ThemeBlocks.Files.Tree
