import SlideFill.Cli.Arguments
import SlideFill.Document.Files
import SlideFill.Mapping.OfData

/-!
# Files that a run reads

A run of the command reads the template, the data, and the images that the data names. Here are their paths, so that
they can be read before the run.
-/

namespace SlideFill

namespace Cli

/-- The template and the data of a request. -/
def inputPaths : Request → List Path
  | .help => []
  | .run template o => (template.toList ++ o.data.toList).map .ofString

/-- The paths of the images in a data document, as given and as seen from a base directory. -/
def imagePaths (base : Path) (data : Json) : List Path :=
  let entries := (OfData.entries data .images).toOption.getD []
  let paths := entries.filterMap fun e => ((OfData.imageFields e.2).bind OfData.imagePath).toOption
  paths.flatMap fun p => [p, base.join p]

/-- The images that the data file of a request names, seen from a directory. -/
def imagesOf (t : FileTree) (directory : List String) : Request → List Path
  | .run _ { data := some data, .. } =>
    let path := (Path.ofString data).resolve directory
    match readData t directory path with
    | .ok j => imagePaths path.parent j
    | .error _ => []
  | _ => []

/-- The deck that a run has written, and where. -/
def written? (o : Request) (directory : List String) (left : FileTree) : Option (Path × Deck) :=
  match o with
  | .run _ { output := some output, listVariables := false, .. } =>
    let path := (Path.ofString output).resolve directory
    match left.file? directory path with
    | some (.deck d) => some (path, d)
    | _ => none
  | _ => none

end Cli

end SlideFill
