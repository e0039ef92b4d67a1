import Mathlib.Data.List.Basic
import SlideFill.Proofs.Mapping.Denotation

/-!
# Where images are looked for

An image is looked for at its path as it is given, and else below the base directory. `Answers.ofData_looks_twice` says
so of all data whose paths, as they are given, do not lead to directories: a directory there hides a file below the base
directory (`directory_hides_file`).
-/

namespace SlideFill

namespace OfData

/-- The path below the base directory that a path means; one from the root means itself. -/
def Place.belowBase (p : Place) (given : Path) : Path :=
  match p.base with
  | none => given
  | some base => base.join given

/-- The content of the file that a path leads to as it is given or, if there is none, below the base directory. -/
def Place.content? (p : Place) (given : Path) : Option Content :=
  (p.tree.file? p.directory given).or (p.tree.file? p.directory (p.belowBase given))

/-- The issue of an image with no file at either place. -/
def Place.nowhere? (p : Place) (e : String × Json) : Option Issue :=
  e.2.imagePath?.bind fun given =>
    if (p.content? given).isSome then none else some (.imageNotFound e.1 (p.belowBase given).render)

/-- Whether no path of an image, as it is given, leads to a directory. -/
def Place.HidesNothing (p : Place) (j : Json) : Prop :=
  ∀ e ∈ j.entriesOf .images, ∀ given, e.2.imagePath? = some given → p.tree.find p.directory given ≠ .ok .directory

variable {p : Place} {j : Json} {given path : Path}

/-- A file with a content is found when it is looked for. -/
theorem look_file {c : Content} (h : p.tree.file? p.directory given = some c) :
    p.tree.look p.directory given = .ok (some (.file c)) := by
  unfold FileTree.file? at h
  unfold FileTree.look
  split at h
  · rename_i c' hfind
    rw [hfind, Option.some.inj h]
  · cases h

/-- Where nothing is at a path as it is given, the path below the base directory is taken. -/
theorem locate_of_none (h : p.tree.look p.directory given = .ok none) : p.locate given = .ok (p.belowBase given) := by
  have habsolute : given.isAbsolute → p.belowBase given = given := fun habs => by
    unfold Place.belowBase
    split
    · rfl
    · rw [Path.join, if_pos habs]
  rw [Place.locate, h]
  by_cases habs : given.isAbsolute
  · simp [Except.map, habs, habsolute habs]
  · simp only [Except.map, habs, Place.belowBase]
    rfl

/-- A file at a path as it is given is taken. -/
theorem locate_of_file {c : Content} (h : p.tree.file? p.directory given = some c) : p.locate given = .ok given := by
  rw [Place.locate, look_file h]
  rfl

/-- Where no file is, and no directory either, nothing is. -/
theorem look_of_none (hlook : (p.fetch given).isOk) (hdir : p.tree.find p.directory given ≠ .ok .directory)
    (hnone : p.tree.file? p.directory given = none) : p.tree.look p.directory given = .ok none := by
  obtain ⟨found, hfetch⟩ := isOk_iff.mp hlook
  obtain ⟨path, hlocate, -⟩ := bind_eq_ok.mp hfetch
  obtain ⟨found?, hentry, -⟩ := map_eq_ok.mp hlocate
  unfold FileTree.file? at hnone
  unfold FileTree.look at hentry ⊢
  cases hfind : p.tree.find p.directory given with
  | ok entry =>
    cases entry with
    | directory => exact absurd hfind hdir
    | file c =>
      rw [hfind] at hnone
      cases hnone
  | error obstacle =>
    rw [hfind] at hentry
    cases obstacle with
    | tooLong => cases hentry
    | _ => rfl

/-- The content that is taken is that of the file at the path as it is given or else below the base directory. -/
theorem content?_eq (hlook : (p.fetch given).isOk) (hdir : p.tree.find p.directory given ≠ .ok .directory)
    (hlocate : p.locate given = .ok path) : p.tree.file? p.directory path = p.content? given := by
  unfold Place.content?
  cases hfile : p.tree.file? p.directory given with
  | none =>
    rw [locate_of_none (look_of_none hlook hdir hfile)] at hlocate
    rw [Option.none_or, Except.ok.inj hlocate]
  | some c =>
    rw [locate_of_file hfile] at hlocate
    rw [Option.some_or, ← Except.ok.inj hlocate, hfile]

/-- Where no directory stands in the way, an image is not found if it is in neither place. -/
theorem unfound?_eq_nowhere? {e : String × Json} (hlook : ∀ given, e.2.imagePath? = some given → (p.fetch given).isOk)
    (hdir : ∀ given, e.2.imagePath? = some given → p.tree.find p.directory given ≠ .ok .directory) :
    p.unfound? e = p.nowhere? e := by
  rw [Place.unfound?, Place.nowhere?]
  cases hpath : e.2.imagePath? with
  | none => rfl
  | some given =>
    obtain ⟨path, hlocate, -⟩ := fetch_ok (hlook given hpath)
    have hcontent := content?_eq (hlook given hpath) (hdir given hpath) hlocate
    simp only [Option.map_some, Option.bind_some, hlocate, hcontent]
    split
    · rfl
    · rename_i hnone
      have hfile : p.tree.file? p.directory given = none := by
        unfold Place.content? at hnone
        simp only [Option.isSome_or, Bool.or_eq_true, not_or, Option.not_isSome_iff_eq_none] at hnone
        exact hnone.1
      rw [locate_of_none (look_of_none (hlook given hpath) (hdir given hpath) hfile)] at hlocate
      rw [Except.ok.inj hlocate]

end OfData

/-- Where no path of an image leads to a directory, an image is reported exactly if there is no file at its path, neither
as it is given nor below the base directory; and of two files it is the one at the path as it is given that counts. The
texts come before the images: if they cannot all be written out, that is the fault. -/
theorem Answers.ofData_looks_twice {p : OfData.Place} {j : Json} (hvalid : (validate j).isOk) (hlook : p.CanLook j)
    (hdir : p.HidesNothing j) :
    let nowhere := (j.entriesOf .images).filterMap p.nowhere?
    (j.HasShortTexts →
      (nowhere = [] → ∃ a, Answers.ofData p j = .ok a ∧ ∀ name e given, j.valueIn? .images name = some e →
        e.imagePath? = some given → ∃ r c, a.images.lookup name = some r ∧ p.content? given = some c ∧
          r.bytes = c.imageBytes) ∧
      (nowhere ≠ [] → ∃ r, Answers.ofData p j = .error (.rejected r) ∧
        r.issues = nowhere.map fun i => Text.trim i.message)) ∧
    (¬j.HasShortTexts → Answers.ofData p j = .error (.number .tooLong)) := by
  have hchecked := validate_isOk_iff.mp hvalid
  have hsame : p.unfound j = (j.entriesOf .images).filterMap p.nowhere? :=
    List.filterMap_congr fun e he => OfData.unfound?_eq_nowhere? (hlook e he) (hdir e he)
  simp only [← hsame]
  refine ⟨fun hshort => ?_, OfData.ofData_of_long hchecked⟩
  rcases OfData.ofData_cases hchecked hshort hlook with ⟨hfound, hok, hdenotes⟩ | ⟨hmissing, herror⟩
  · refine ⟨fun _ => ⟨_, hok, fun name e given hentry hgiven => ?_⟩, fun hmissing => absurd hfound hmissing⟩
    have hmem := OfData.mem_of_lookup_reverse hentry
    obtain ⟨r, hr, given', path, c, format, mode, hpath, hlocate, hcontent, -, -, rfl⟩ := hdenotes.image name e hentry
    obtain rfl : given' = given := Option.some.inj (hpath.symm.trans hgiven)
    refine ⟨_, c, hr, ?_, rfl⟩
    rw [← OfData.content?_eq (hlook _ hmem given' hgiven) (hdir _ hmem given' hgiven) hlocate, hcontent]
  · exact ⟨fun hfound => absurd hfound hmissing, fun _ => ⟨_, herror, rfl⟩⟩

/-- Data with one image. -/
def badge : Json :=
  .object [("images", .object [("logo", .string "logo.png")])]

/-- A directory to work in, empty, and beside it one with a file for the image. -/
def drawers : FileTree :=
  ((FileTree.empty.put ["work"] .directory).put ["base"] .directory).put ["base", "logo.png"]
    (.file (.image ⟨.png, ⟨.rgb, 1, [[200, 30, 30]]⟩⟩))

/-- Where images are looked for: in the one directory, and with the other as the base directory. -/
def bench (tree : FileTree) : OfData.Place where
  tree := tree
  directory := ["work"]
  base := some (Path.ofString "../base")

/-- Data without texts has none that are too long. -/
theorem badge_hasShortTexts : badge.HasShortTexts :=
  fun e he => by cases he

/-- An image that is only below the base directory is taken from there. -/
theorem badge_found_below_base : ∃ a, Answers.ofData (bench drawers) badge = .ok a ∧
    ∀ name e given, badge.valueIn? .images name = some e → e.imagePath? = some given →
      ∃ r c, a.images.lookup name = some r ∧ (bench drawers).content? given = some c ∧ r.bytes = c.imageBytes := by
  have hvalid : (validate badge).isOk := by decide +kernel
  have hlook : (bench drawers).CanLook badge := by
    intro e he given hgiven
    obtain rfl := List.mem_singleton.mp he
    obtain rfl := Option.some.inj hgiven
    decide +kernel
  have hdir : (bench drawers).HidesNothing badge := by
    intro e he given hgiven hfind
    obtain rfl := List.mem_singleton.mp he
    obtain rfl := Option.some.inj hgiven
    have hnothing : ((bench drawers).tree.find (bench drawers).directory (Path.ofString "logo.png")).isOk = false := by
      decide +kernel
    rw [hfind] at hnothing
    cases hnothing
  exact ((Answers.ofData_looks_twice hvalid hlook hdir).1 badge_hasShortTexts).1 (by decide +kernel)

/-- A directory at the path as it is given hides the file below the base directory: the image is reported though there is
a file for it. -/
theorem directory_hides_file :
    ((bench (drawers.put ["work", "logo.png"] .directory)).content? (Path.ofString "logo.png")).isSome ∧
      ∃ r, Answers.ofData (bench (drawers.put ["work", "logo.png"] .directory)) badge = .error (.rejected r) ∧
        r.issues = ["images.logo.path not found: logo.png"] := by
  have hvalid : (validate badge).isOk := by decide +kernel
  have hlook : (bench (drawers.put ["work", "logo.png"] .directory)).CanLook badge := by
    intro e he given hgiven
    obtain rfl := List.mem_singleton.mp he
    obtain rfl := Option.some.inj hgiven
    decide +kernel
  refine ⟨by decide +kernel, ?_⟩
  rcases OfData.ofData_cases (validate_isOk_iff.mp hvalid) badge_hasShortTexts hlook with ⟨hfound, -⟩ | ⟨-, herror⟩
  · exact absurd hfound (by decide +kernel)
  · exact ⟨_, herror, by decide +kernel⟩

end SlideFill
