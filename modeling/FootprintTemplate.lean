import FootprintTemplate.Main
import FootprintTemplate.Proofs.CommandLine.Run
import FootprintTemplate.Proofs.CommandLine.Shape
import FootprintTemplate.Proofs.NetNamer.Search
import FootprintTemplate.Proofs.Group.Interleaving
import FootprintTemplate.Proofs.Pads
import FootprintTemplate.Proofs.Preview.OwnNames
import FootprintTemplate.Proofs.Preview.Repeated
import FootprintTemplate.Proofs.Properties
import FootprintTemplate.Proofs.Requoted
import FootprintTemplate.Proofs.Sexpr.Faults
import FootprintTemplate.Proofs.Withheld
import FootprintTemplate.Proofs.CommandLine.ExitCode
import FootprintTemplate.Proofs.Number.Decimal
import FootprintTemplate.Proofs.Script.Numeral
import FootprintTemplate.Proofs.Script.Expression
import FootprintTemplate.Proofs.Writer.Numbers
import FootprintTemplate.Proofs.Config.Entries
import FootprintTemplate.Proofs.CommandLine.Given
import FootprintTemplate.Proofs.CommandLine.Layers
import FootprintTemplate.Proofs.CommandLine.Reordering
import FootprintTemplate.Proofs.Number.Exact
import FootprintTemplate.Proofs.Sexpr.Unclosed
import FootprintTemplate.Proofs.Writer.Negated
import FootprintTemplate.Proofs.Script.Choice
import FootprintTemplate.Proofs.Writer.Faced
import FootprintTemplate.Proofs.Preview.Faces
import FootprintTemplate.Proofs.Preview.Numbering
import FootprintTemplate.Proofs.Sexpr.Appended
import FootprintTemplate.Proofs.Writer.Rotation
import FootprintTemplate.Proofs.Quoting
import FootprintTemplate.Proofs.Preview.Declared
import FootprintTemplate.Proofs.NetPlaces
import FootprintTemplate.Proofs.Preview.ReadBack
import FootprintTemplate.Proofs.Preview.NetNumbers
