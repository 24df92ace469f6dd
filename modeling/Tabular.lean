import Tabular.Preview
import Tabular.Program.Basic
import Tabular.Style
import Tabular.Proofs.Formula.Grammar
import Tabular.Proofs.Formula.Yard
import Tabular.Proofs.Formula.Reading
import Tabular.Proofs.Formula.Value
import Tabular.Proofs.Formula.Unambiguous
import Tabular.Proofs.Formula.Compile
import Tabular.Proofs.Condition.Compile
import Tabular.Proofs.Condition.Printing
import Tabular.Proofs.Decimal.Sign
import Tabular.Proofs.Formula.Scanning
import Tabular.Proofs.Formula.Printing
import Tabular.Proofs.Condition.Asking
import Tabular.Proofs.Filter.Cache
import Tabular.Proofs.Pattern.Search
import Tabular.Proofs.Pattern.Wildcard
import Tabular.Proofs.Filter.OwnText
import Tabular.Proofs.Filter.LineFeed
import Tabular.Proofs.Program.RowByRow
import Tabular.Proofs.Program.Headers
import Tabular.Proofs.Decimal.Packing
import Tabular.Proofs.Decimal.Rounding
import Tabular.Proofs.Decimal.Nearest
import Tabular.Proofs.Decimal.Positional
import Tabular.Proofs.Decimal.Readback
import Tabular.Proofs.Alike.Reading
import Tabular.Proofs.Alike.Program
import Tabular.Proofs.Row.Columns
import Tabular.Proofs.Filter.CommonFragment
import Tabular.Proofs.Text.Lowercase
import Tabular.Proofs.Program.IgnoringCase
import Tabular.Proofs.Condition.Embedding
import Tabular.Proofs.Formula.Embedding
import Tabular.Proofs.Program.Composing
import Tabular.Proofs.Decimal.Quotient
import Tabular.Proofs.Program.Dependencies
import Tabular.Proofs.Program.Overflow
import Tabular.Proofs.Condition.Depth
import Tabular.Proofs.Formula.Dialects
import Tabular.Proofs.Compiled.Faults
import Tabular.Proofs.Compiled.Equality
import Tabular.Proofs.Program.Concatenation
import Tabular.Proofs.Condition.Tiling
import Tabular.Proofs.Compiled.Separation
import Tabular.Proofs.Condition.Balance
import Tabular.Proofs.Condition.Comparing
import Tabular.Proofs.Condition.KeywordCase
import Tabular.Proofs.Program.TextTests
import Tabular.Proofs.Style.LastRule
import Tabular.Proofs.Program.Appending
import Tabular.Proofs.Row.Store
import Tabular.Proofs.Text.JsonString
import Tabular.Proofs.Decimal.Literal
import Tabular.Proofs.Condition.Locality
