import FacetedSearch.Compiler
import FacetedSearch.Configuration.Text
import FacetedSearch.Facet.Meaning
import FacetedSearch.Proofs.Compile.Body
import FacetedSearch.Proofs.Compile.Form
import FacetedSearch.Proofs.Compile.Identifiers
import FacetedSearch.Proofs.Compile.Independence
import FacetedSearch.Proofs.Compile.Inertness
import FacetedSearch.Proofs.Compile.Meaning
import FacetedSearch.Proofs.Compile.Moments
import FacetedSearch.Proofs.Text.Digits
import FacetedSearch.Proofs.Time.Order
import FacetedSearch.Proofs.Time.Written
import FacetedSearch.Proofs.Time.Spellings
import FacetedSearch.Proofs.Time.Offsets
import FacetedSearch.Proofs.Compile.Spellings
import FacetedSearch.Proofs.Compile.Runs
import FacetedSearch.Proofs.Text.AsciiCase
import FacetedSearch.Proofs.Time.Strict
import FacetedSearch.Proofs.Time.Agreement
import FacetedSearch.Proofs.Time.Loose
import FacetedSearch.Proofs.Time.Days
import FacetedSearch.Proofs.Schema.Moments
import FacetedSearch.Proofs.Facet.SellerText
import FacetedSearch.Proofs.Compile.Days
import FacetedSearch.Proofs.Text.Surroundings
import FacetedSearch.Proofs.Text.Stability
import FacetedSearch.Proofs.Facet.Quoting
import FacetedSearch.Proofs.Compile.FreeText
import FacetedSearch.Proofs.Schema.Normal
import FacetedSearch.Proofs.Compile.Documents
import FacetedSearch.Proofs.Compile.Controls
import FacetedSearch.Proofs.Compile.Counting
import FacetedSearch.Proofs.Compile.Integers
import FacetedSearch.Proofs.Configuration.Reading
import FacetedSearch.Proofs.Compile.Configurations
import FacetedSearch.Proofs.Facet.Grouping
