import Mathlib.Data.List.Basic
import SlideFill.Files.Save

/-!
# What saving a file changes

Saving makes directories on the way to the place of the file, where nothing stood, and then the file. A save that fails
has made directories at most (`save_error`); one that succeeds has put the file at its place as well (`save_ok`).
-/

namespace SlideFill

namespace FileTree

/-- What the file at a place holds, if there is one. -/
def content? (t : FileTree) (place : List String) : Option Content :=
  match t.at? place with
  | some (.file c) => some c
  | _ => none

/-- Whether a tree is another one with no more than directories added, all of them on the way to a place. -/
def GainsDirectories (t : FileTree) (place : List String) (left : FileTree) : Prop :=
  ∀ q, left.at? q = t.at? q ∨ t.at? q = none ∧ left.at? q = some .directory ∧ q <+: place

variable {t left : FileTree} {place : List String}

/-- The content of a place depends on the entry that is there. -/
theorem content?_congr {q : List String} (h : left.at? q = t.at? q) : left.content? q = t.content? q := by
  rw [content?, content?, h]

/-- Making directories puts them where nothing is on the way to a place, and nowhere else. -/
theorem at?_makeDirectories (t : FileTree) (place q : List String) :
    (t.makeDirectories place).at? q = (t.at? q).or (if q <+: place then some .directory else none) := by
  by_cases hq : q = []
  · rw [at?, at?, if_pos hq, if_pos hq]
    rfl
  · simp only [at?, if_neg hq, makeDirectories]
    cases t.entry? q with
    | none => simp [hq]
    | some e => rfl

/-- Putting an entry in a place changes no other place. -/
theorem at?_put (t : FileTree) {place : List String} (h : place ≠ []) (e : Entry) (q : List String) :
    (t.put place e).at? q = if q = place then some e else t.at? q := by
  by_cases hq : q = []
  · have hne : q ≠ place := fun heq => h (heq ▸ hq)
    rw [at?, if_pos hq, if_neg hne, at?, if_pos hq]
  · simp only [at?, if_neg hq, put]

/-- A tree that is left as it is gains no directories. -/
theorem gainsDirectories_refl (t : FileTree) (place : List String) : t.GainsDirectories place t :=
  fun _ => .inl rfl

/-- Making directories on the way to a place gains directories on that way. -/
theorem gainsDirectories_makeDirectories (t : FileTree) {made : List String} (h : made <+: place) :
    t.GainsDirectories place (t.makeDirectories made) := by
  intro q
  rw [at?_makeDirectories]
  cases t.at? q with
  | some e => exact .inl rfl
  | none =>
    by_cases hq : q <+: made
    · exact .inr ⟨rfl, by rw [if_pos hq]; rfl, hq.trans h⟩
    · exact .inl (by rw [if_neg hq]; rfl)

/-- Directories that are added are no files, and where they are added there was none. -/
theorem GainsDirectories.content?_eq (h : t.GainsDirectories place left) (q : List String) :
    left.content? q = t.content? q := by
  rcases h q with heq | ⟨hnone, hdir, -⟩
  · exact content?_congr heq
  · rw [content?, content?, hnone, hdir]

/-- Making sure of a directory adds no more than it and those on the way to it, even if it fails. -/
theorem ensureDirectory_gains (t : FileTree) (p : Path) : t.GainsDirectories p.parts (t.ensureDirectory p).1 := by
  unfold ensureDirectory
  dsimp only
  split_ifs
  · exact t.gainsDirectories_refl _
  · exact t.gainsDirectories_refl _
  · exact t.gainsDirectories_refl _
  · exact t.gainsDirectories_makeDirectories (List.prefix_refl _)
  · exact t.gainsDirectories_refl _
  · exact t.gainsDirectories_makeDirectories (List.takeWhile_prefix _)

/-- A file is not written where a directory stands, so not at the root. -/
theorem write_ok {p : Path} {c : Content} {written : FileTree} (h : t.write p c = .ok written) :
    p.parts ≠ [] ∧ written = t.put p.parts (.file c) := by
  unfold write at h
  split at h
  · cases h
  · split at h
    · cases h
    · rename_i hplace
      refine ⟨fun hroot => hplace ?_, (Except.ok.inj h).symm⟩
      rw [at?, if_pos hroot]

/-- A save that fails has made directories at most. -/
theorem save_error {p : Path} {c : Content} {e : FileFault} (h : t.save p c = (left, .error e)) :
    t.GainsDirectories p.parent.parts left := by
  have hgains := t.ensureDirectory_gains p.parent
  unfold save at h
  split at h
  · rename_i made e' hmade
    rw [hmade] at hgains
    rwa [← (Prod.mk.inj h).1]
  · rename_i made hmade
    rw [hmade] at hgains
    split at h
    · rwa [← (Prod.mk.inj h).1]
    · cases (Prod.mk.inj h).2

/-- A save that succeeds has made directories at most, and then put the file at its place. -/
theorem save_ok {p : Path} {c : Content} (h : t.save p c = (left, .ok ())) :
    p.parts ≠ [] ∧ ∃ made, t.GainsDirectories p.parent.parts made ∧ left = made.put p.parts (.file c) := by
  have hgains := t.ensureDirectory_gains p.parent
  unfold save at h
  split at h
  · cases (Prod.mk.inj h).2
  · rename_i made hmade
    rw [hmade] at hgains
    split at h
    · cases (Prod.mk.inj h).2
    · rename_i written hwritten
      obtain ⟨hroot, hput⟩ := write_ok hwritten
      exact ⟨hroot, made, hgains, (Prod.mk.inj h).1 ▸ hput⟩

/-- A file has the content that it was put in with. -/
theorem content?_put_self (t : FileTree) (h : place ≠ []) (c : Content) :
    (t.put place (.file c)).content? place = some c := by
  rw [content?, at?_put t h, if_pos rfl]

/-- Putting an entry in a place changes no other content. -/
theorem content?_put_of_ne (t : FileTree) (h : place ≠ []) (e : Entry) {q : List String} (hq : q ≠ place) :
    (t.put place e).content? q = t.content? q :=
  content?_congr (by rw [at?_put t h, if_neg hq])

end FileTree

end SlideFill
