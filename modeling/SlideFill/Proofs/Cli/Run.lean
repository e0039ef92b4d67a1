import SlideFill.Cli.Run
import SlideFill.Proofs.Fill.Passage
import SlideFill.Proofs.Files.Save
import SlideFill.Proofs.Mapping.Checked

/-!
# What a run does to files

A run ends in one of three ways (`Cli.run_ends`): it touches nothing, it fails to save a deck, or it saves one.
`run_writes_output_only` says what this means for the files: a run that does not return normally, or that lists
variables, leaves all of them as they were, and any other one writes the filled deck to the output path and nothing
else.
-/

namespace SlideFill

/-- What is there when it is looked for is found. -/
theorem FileTree.find_of_look {t : FileTree} {directory : List String} {p : Path} {e : Entry}
    (h : t.look directory p = .ok (some e)) : t.find directory p = .ok e := by
  unfold look at h
  split at h
  · rename_i e' hfind
    cases h
    exact hfind
  · cases h
  · cases h

namespace Cli

/-- Whether the arguments ask for a list of variables. -/
def ListsVariables (arguments : List String) : Prop :=
  ∃ template o, parse arguments = .ok (.run template o) ∧ o.listVariables

/-- What a run has come to that saves a deck, or tries to: the arguments are read, the template is there and holds a
deck, the data are valid, the images that they name are found, and the deck is filled. All of it is read from the files
as they are before the run. -/
structure Saving (t : FileTree) (directory arguments : List String) where
  template : String
  settings : Settings
  hparse : parse arguments = .ok (.run (some template) settings)
  hsaves : settings.listVariables = false
  templatePath : Path
  htemplate : pathOf directory template = .ok templatePath
  deck : Deck
  hdeck : t.find directory templatePath = .ok (.file (.deck deck))
  dataGiven : String
  hdata : given settings.data = some dataGiven
  dataPath : Path
  hdataPath : pathOf directory dataGiven = .ok dataPath
  data : Json
  hread : readData t directory dataPath = .ok data
  hvalid : checkData data = []
  answers : Answers
  hanswers : Answers.ofData { tree := t, directory, base := some dataPath.parent } data = .ok answers
  hfill : (Deck.fill answers.mapping deck).outcome.isOk
  outputGiven : String
  houtput : given settings.output = some outputGiven
  output : Path
  houtputPath : pathOf directory outputGiven = .ok output

/-- The deck that is saved: the template, filled. -/
def Saving.filled {t : FileTree} {directory arguments : List String} (s : Saving t directory arguments) : Deck :=
  (Deck.fill s.answers.mapping s.deck).after

/-- How a run ends. -/
inductive Ends (t : FileTree) (directory arguments : List String) (o : Outcome) : Prop where
  | untouched (htree : o.tree = t) (hexit : o.exit ≠ .returned ∨ ListsVariables arguments)
  | unsaved (s : Saving t directory arguments) (e : FileFault)
      (hsave : t.save s.output (.deck s.filled) = (o.tree, .error e)) (hexit : o.exit ≠ .returned)
  | saved (s : Saving t directory arguments) (hsave : t.save s.output (.deck s.filled) = (o.tree, .ok ()))
      (hexit : o.exit = .returned)

variable {t : FileTree} {directory arguments : List String}

/-- A run that saves a deck lists no variables. -/
theorem Saving.not_listsVariables (s : Saving t directory arguments) : ¬ListsVariables arguments := by
  rintro ⟨template, o, hparse, hlists⟩
  rw [s.hparse] at hparse
  cases hparse
  rw [s.hsaves] at hlists
  cases hlists

/-- No fault ends in a normal return. -/
theorem exitOf_ne_returned (f : Fault) : exitOf f ≠ .returned := by
  cases f <;> exact nofun

/-- A run that ends with a fault before anything is saved. -/
theorem ends_fail (o : Settings) (err : String) (f : Fault) : Ends t directory arguments (fail o err t f) :=
  .untouched rfl (.inl (exitOf_ne_returned f))

/-- Data that are read are valid. -/
theorem checkData_of_readData {p : Path} {j : Json} (h : readData t directory p = .ok j) : checkData j = [] := by
  obtain ⟨text, -, hparse⟩ := bind_eq_ok.mp h
  unfold parseData at hparse
  split at hparse
  · cases hparse
  · cases hparse
  · cases hparse
  · split at hparse
    · cases hparse
    · rename_i hvalid
      rw [← Except.ok.inj hparse]
      exact checkData_of_validate hvalid

/-- Only a deck is opened as one. -/
theorem openDeck_eq_ok {p : Path} {c : Content} {d : Deck} (h : openDeck p c = .ok d) : c = .deck d := by
  cases c <;> cases h
  rfl

/-! ## How runs end -/

/-- Filling and saving keeps to what runs are said to do. -/
theorem fill_ends {templateGiven dataGiven outputGiven : String} {o : Settings} {template data output : Path}
    {c : Content} (hparse : parse arguments = .ok (.run (some templateGiven) o)) (hsaves : o.listVariables = false)
    (htemplate : pathOf directory templateGiven = .ok template) (hfile : t.find directory template = .ok (.file c))
    (hdata : given o.data = some dataGiven) (hdataPath : pathOf directory dataGiven = .ok data)
    (houtput : given o.output = some outputGiven) (houtputPath : pathOf directory outputGiven = .ok output) :
    Ends t directory arguments (fill t directory o template data output c) := by
  unfold fill
  split
  · exact ends_fail ..
  · rename_i mapping hmapping
    obtain ⟨j, hread, hmade⟩ := bind_eq_ok.mp hmapping
    obtain ⟨answers, hanswers, rfl⟩ := map_eq_ok.mp hmade
    split
    · exact ends_fail ..
    · rename_i deck hdeck
      obtain rfl := openDeck_eq_ok hdeck
      dsimp only
      split
      · exact ends_fail ..
      · rename_i tally hfill
        -- What can go wrong before the save has not gone wrong, and the files are still those of the beginning.
        let s : Saving t directory arguments :=
          { template := templateGiven, settings := o, hparse, hsaves, templatePath := template, htemplate, deck,
            hdeck := hfile, dataGiven, hdata, dataPath := data, hdataPath, data := j, hread,
            hvalid := checkData_of_readData hread, answers, hanswers, hfill := isOk_iff.mpr ⟨tally, hfill⟩,
            outputGiven, houtput, output, houtputPath }
        split
        · rename_i left e hsave
          exact .unsaved s e hsave (exitOf_ne_returned (.file e))
        · rename_i left hsave
          exact .saved s hsave rfl

/-- What is done with a template keeps to what runs are said to do. -/
theorem runOn_ends {templateGiven : String} {o : Settings} {template : Path} {c : Content}
    (hparse : parse arguments = .ok (.run (some templateGiven) o))
    (htemplate : pathOf directory templateGiven = .ok template) (hfile : t.find directory template = .ok (.file c)) :
    Ends t directory arguments (runOn t directory template o c) := by
  unfold runOn
  split
  · rename_i hlists
    unfold list
    split
    · exact ends_fail ..
    · exact .untouched rfl (.inr ⟨_, _, hparse, hlists⟩)
  · rename_i hsaves
    split
    · rename_i hdata houtput
      split
      · exact ends_fail ..
      · exact ends_fail ..
      · rename_i hdataPath houtputPath
        exact fill_ends hparse (by simpa using hsaves) htemplate hfile hdata hdataPath houtput houtputPath
    · exact .untouched rfl (.inl nofun)

/-- Each run keeps to what runs are said to do. -/
theorem run_ends (t : FileTree) (directory arguments : List String) :
    Ends t directory arguments (run t directory arguments) := by
  unfold run
  split
  · exact .untouched rfl (.inl nofun)
  · exact .untouched rfl (.inl nofun)
  · rename_i template o hparse
    unfold runWith
    split
    · exact ends_fail ..
    · rename_i path htemplate
      split
      · exact ends_fail ..
      · rename_i c hlook
        cases template with
        | none => cases htemplate
        | some text => exact runOn_ends hparse htemplate (FileTree.find_of_look hlook)
      · exact .untouched rfl (.inl nofun)

end Cli

/-- What a run does to files. If it does not return normally or lists variables, every file is as it was and none is
new; directories are new only if it is the save that failed, and then on the way to the output. If it returns normally
and lists nothing, the file at the output path holds the template as it was read, filled with the answers that the valid
data give beside the data file; and every other file is as it was. -/
theorem run_writes_output_only (t : FileTree) (directory arguments : List String) :
    ((Cli.run t directory arguments).exit ≠ .returned ∨ Cli.ListsVariables arguments →
      (∀ place, (Cli.run t directory arguments).tree.content? place = t.content? place) ∧
      ((Cli.run t directory arguments).tree = t ∨ ∃ (s : Cli.Saving t directory arguments) (e : FileFault),
        t.save s.output (.deck s.filled) = ((Cli.run t directory arguments).tree, .error e) ∧
        t.GainsDirectories s.output.parent.parts (Cli.run t directory arguments).tree)) ∧
    ((Cli.run t directory arguments).exit = .returned → ¬Cli.ListsVariables arguments →
      ∃ s : Cli.Saving t directory arguments,
        (Cli.run t directory arguments).tree.content? s.output.parts = some (.deck s.filled) ∧
        (∀ place, place ≠ s.output.parts →
          (Cli.run t directory arguments).tree.content? place = t.content? place) ∧
        ∃ made, t.GainsDirectories s.output.parent.parts made ∧
          (Cli.run t directory arguments).tree = made.put s.output.parts (.file (.deck s.filled))) := by
  have hends := Cli.run_ends t directory arguments
  generalize Cli.run t directory arguments = o at hends ⊢
  cases hends with
  | untouched htree hexit =>
    rw [htree]
    refine ⟨fun _ => ⟨fun _ => rfl, .inl rfl⟩, fun hreturned hsaves => ?_⟩
    exact absurd hexit (not_or.mpr ⟨not_not.mpr hreturned, hsaves⟩)
  | unsaved s e hsave hexit =>
    have hgains := FileTree.save_error hsave
    exact ⟨fun _ => ⟨hgains.content?_eq, .inr ⟨s, e, hsave, hgains⟩⟩, fun hreturned => absurd hreturned hexit⟩
  | saved s hsave hexit =>
    obtain ⟨hroot, made, hgains, hput⟩ := FileTree.save_ok hsave
    refine ⟨fun hends => ?_, fun _ _ => ⟨s, ?_, ?_, made, hgains, hput⟩⟩
    · exact absurd hends (not_or.mpr ⟨not_not.mpr hexit, s.not_listsVariables⟩)
    · rw [hput, made.content?_put_self hroot]
    · intro place hplace
      rw [hput, made.content?_put_of_ne hroot _ hplace, hgains.content?_eq]

namespace RunWitness

/-- A template that asks for a text. -/
def deck : Deck :=
  [[.text ⟨2, "Box", none, [⟨[.run ⟨"On $/day/", none, {}⟩]⟩]⟩]]

/-- A tree with a template and with data that have a text for it. -/
def tree : FileTree :=
  ⟨fun place =>
    if place = ["deck"] then some (.file (.deck deck))
    else if place = ["data"] then
      some (.file (.bytes ("\x7b\"text\": \x7b\"day\": \"Monday\"\x7d\x7d".toList.map fun c => c.toNat.toUInt8)))
    else none⟩

/-- Arguments that ask for an output. -/
def arguments (output : String) : List String :=
  ["--template", "deck", "--data", "data", "--output", output]

/-- A path in a directory that is not there, with a name that is too long. -/
def longOutput : String :=
  "new/" ++ String.ofList (List.replicate 256 'x')

/-- These arguments do not ask for a list. -/
theorem arguments_save : ¬Cli.ListsVariables (arguments "deck") := by
  rintro ⟨template, o, hparse, hlists⟩
  have hsaves : ((Cli.parse (arguments "deck")).toOption.all fun request =>
      match request with
      | .run _ o => !o.listVariables
      | .help => true) = true := by decide +kernel
  rw [hparse] at hsaves
  simp [Except.toOption, hlists] at hsaves

end RunWitness

open RunWitness in
/-- A run that fails to save writes nothing; one that saves onto its template writes nothing else. -/
theorem run_writes_output_only_onto_template :
    ((Cli.run tree [] (arguments longOutput)).exit ≠ .returned ∧
      ∀ place, (Cli.run tree [] (arguments longOutput)).tree.content? place = tree.content? place) ∧
    (Cli.run tree [] (arguments "deck")).exit = .returned ∧ ¬Cli.ListsVariables (arguments "deck") ∧
      ∃ s : Cli.Saving tree [] (arguments "deck"),
        (Cli.run tree [] (arguments "deck")).tree.content? s.output.parts = some (.deck s.filled) ∧
        ∀ place, place ≠ s.output.parts →
          (Cli.run tree [] (arguments "deck")).tree.content? place = tree.content? place := by
  have hfails : (Cli.run tree [] (arguments longOutput)).exit ≠ .returned := by decide +kernel
  have hreturns : (Cli.run tree [] (arguments "deck")).exit = .returned := by decide +kernel
  obtain ⟨s, hself, hothers, -⟩ := (run_writes_output_only tree [] (arguments "deck")).2 hreturns arguments_save
  exact ⟨⟨hfails, ((run_writes_output_only tree [] (arguments longOutput)).1 (.inl hfails)).1⟩, hreturns,
    arguments_save, s, hself, hothers⟩

end SlideFill
