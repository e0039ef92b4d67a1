import SlideFill.Text.Blank
import SlideFill.Text.Case
import SlideFill.Text.Quoted
import SlideFill.Text.Utf8
import SlideFill.Number.Layout
import SlideFill.Number.Literal
import SlideFill.Json.Text
import SlideFill.Json.Reader
import SlideFill.Json.Writer
import SlideFill.Variable.Substitution
import SlideFill.Fault
import SlideFill.Data.Check
import SlideFill.Image.Resize
import SlideFill.Deck.Link
import SlideFill.Deck.Text
import SlideFill.Mapping.OfData
import SlideFill.Fill.Package
import SlideFill.Listing
import SlideFill.Document.Files
import SlideFill.Cli.Run
import SlideFill.Main
import SlideFill.Proofs.Variable.Spelling
import SlideFill.Proofs.Variable.Scan
import SlideFill.Proofs.Fill.Directives
import SlideFill.Proofs.Fill.Relations
import SlideFill.Proofs.Fill.Asked
import SlideFill.Proofs.Fill.Listing
import SlideFill.Proofs.Fill.Dependence
import SlideFill.Proofs.Fill.Silence
import SlideFill.Proofs.Fill.Safety
import SlideFill.Proofs.Fill.Stopped
import SlideFill.Proofs.Fill.Identity
import SlideFill.Proofs.Fill.Channels
import SlideFill.Proofs.Fill.OnePass
import SlideFill.Proofs.Fill.Hiding
import SlideFill.Proofs.Fill.Removal
import SlideFill.Proofs.Fill.Replacement
import SlideFill.Proofs.Data.Grouping
import SlideFill.Proofs.Mapping.Lookup
import SlideFill.Proofs.Mapping.Styling
import SlideFill.Proofs.Cli.Run
