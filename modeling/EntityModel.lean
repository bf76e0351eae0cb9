import EntityModel.Calendar.Day
import EntityModel.Calendar.Fragment
import EntityModel.Enumeration.Basic
import EntityModel.Enumeration.Literal
import EntityModel.Enumeration.Uri
import EntityModel.ErrorClass
import EntityModel.Literal.Duration
import EntityModel.Literal.Error
import EntityModel.Literal.Facets
import EntityModel.Literal.Floating
import EntityModel.Literal.Instant
import EntityModel.Literal.Kind
import EntityModel.Literal.Reading
import EntityModel.Literal.Scalar
import EntityModel.Literal.Spelling
import EntityModel.Literal.Uri
import EntityModel.Literal.Writing
import EntityModel.Number.Decimal
import EntityModel.Number.Floating
import EntityModel.Number.Numeral
import EntityModel.Number.Shortest
import EntityModel.Number.Width
import EntityModel.Octets.Base64
import EntityModel.Octets.Hex
import EntityModel.Proofs.Calendar.Day
import EntityModel.Proofs.Calendar.Fraction
import EntityModel.Proofs.Calendar.Fragment
import EntityModel.Proofs.Calendar.Order
import EntityModel.Proofs.Enumeration.Bits
import EntityModel.Proofs.Enumeration.Combination
import EntityModel.Proofs.Enumeration.Elaboration
import EntityModel.Proofs.Enumeration.Hosting
import EntityModel.Proofs.Enumeration.Rendering
import EntityModel.Proofs.Enumeration.RoundTrip
import EntityModel.Proofs.Enumeration.Uri
import EntityModel.Proofs.Literal.Agreement
import EntityModel.Proofs.Literal.DecimalFacets
import EntityModel.Proofs.Literal.Duration
import EntityModel.Proofs.Literal.DurationExactness
import EntityModel.Proofs.Literal.DurationNotation
import EntityModel.Proofs.Literal.Exactness
import EntityModel.Proofs.Literal.Facets
import EntityModel.Proofs.Literal.Floating
import EntityModel.Proofs.Literal.FloatingLayout
import EntityModel.Proofs.Literal.Hosting
import EntityModel.Proofs.Literal.InstantRoundTrip
import EntityModel.Proofs.Literal.Integers
import EntityModel.Proofs.Literal.Moment
import EntityModel.Proofs.Literal.Octets
import EntityModel.Proofs.Literal.Representable
import EntityModel.Proofs.Literal.RoundTrip
import EntityModel.Proofs.Literal.Target
import EntityModel.Proofs.Literal.Temporal
import EntityModel.Proofs.Literal.Uri
import EntityModel.Proofs.Lookup
import EntityModel.Proofs.Number.Decimal
import EntityModel.Proofs.Number.Exactness
import EntityModel.Proofs.Number.Notation
import EntityModel.Proofs.Number.Numeral
import EntityModel.Proofs.Number.Rounding
import EntityModel.Proofs.Number.Scientific
import EntityModel.Proofs.Number.Shortest
import EntityModel.Proofs.Octets
import EntityModel.Proofs.Outcome
import EntityModel.Proofs.QualifiedName
import EntityModel.Proofs.Registry.Ascent
import EntityModel.Proofs.Registry.Caches
import EntityModel.Proofs.Registry.Cataloged
import EntityModel.Proofs.Registry.Derivation
import EntityModel.Proofs.Registry.Failure
import EntityModel.Proofs.Registry.History
import EntityModel.Proofs.Registry.Inheritance
import EntityModel.Proofs.Registry.Listing
import EntityModel.Proofs.Registry.Publication
import EntityModel.Proofs.Registry.Transparency
import EntityModel.Proofs.Registry.Walk
import EntityModel.Proofs.Schema.Catalog
import EntityModel.Proofs.Schema.Draft
import EntityModel.Proofs.Schema.Fault
import EntityModel.Proofs.Schema.Reference
import EntityModel.Proofs.Text.Digits
import EntityModel.Proofs.Version
import EntityModel.QualifiedName
import EntityModel.Registry.Basic
import EntityModel.Registry.Inheritance
import EntityModel.Registry.Session
import EntityModel.Schema.Catalog
import EntityModel.Schema.Declaration
import EntityModel.Schema.Draft
import EntityModel.Schema.Error
import EntityModel.Schema.Resolution
import EntityModel.Schema.Structured
import EntityModel.Text.Digits
import EntityModel.Text.Hidden
import EntityModel.Text.Quoted
import EntityModel.Value.Basic
import EntityModel.Value.Guid
import EntityModel.Value.Moment
import EntityModel.Version
