import FactModel.Binary64
import FactModel.Binary64.Decimal
import FactModel.Builder
import FactModel.Builder.Argument
import FactModel.Builder.Assigned
import FactModel.Builder.Request
import FactModel.Calendar
import FactModel.Calendar.Moment
import FactModel.Command
import FactModel.Constraint
import FactModel.Conversion
import FactModel.Csv
import FactModel.Csv.Column
import FactModel.Csv.Population
import FactModel.Datum
import FactModel.Ddl
import FactModel.DecimalNumber
import FactModel.Dialect
import FactModel.Document
import FactModel.FileTree
import FactModel.Graph
import FactModel.Integrity
import FactModel.KeyStyle
import FactModel.Log
import FactModel.Main
import FactModel.OrderedMap
import FactModel.Path
import FactModel.Population
import FactModel.Proofs.Binary64.Rounding
import FactModel.Proofs.Binary64.Shortest
import FactModel.Proofs.Builder.Arranged
import FactModel.Proofs.Builder.Atomicity
import FactModel.Proofs.Builder.Changes
import FactModel.Proofs.Builder.DrawnIds
import FactModel.Proofs.Builder.Edit
import FactModel.Proofs.Builder.FreshIds
import FactModel.Proofs.Builder.Identification
import FactModel.Proofs.Builder.IdentifierRoles
import FactModel.Proofs.Builder.KeyedRuns
import FactModel.Proofs.Builder.OptionalRoles
import FactModel.Proofs.Builder.Removal
import FactModel.Proofs.Builder.Requests
import FactModel.Proofs.Builder.RoleNumbers
import FactModel.Proofs.Builder.Roles
import FactModel.Proofs.Builder.RoundTrips
import FactModel.Proofs.Builder.Tidy
import FactModel.Proofs.Builder.UniqueIds
import FactModel.Proofs.Conversion.DrawingOrder
import FactModel.Proofs.Conversion.DrawnRoles
import FactModel.Proofs.Conversion.Edges
import FactModel.Proofs.Conversion.Identification
import FactModel.Proofs.Conversion.Keyed
import FactModel.Proofs.Conversion.Lookups
import FactModel.Proofs.Conversion.MandatoryRoles
import FactModel.Proofs.Conversion.Nodes
import FactModel.Proofs.Ddl.Literals
import FactModel.Proofs.Ddl.Quoting
import FactModel.Proofs.Ddl.Statements
import FactModel.Proofs.Ddl.Words
import FactModel.Proofs.Document.Elements
import FactModel.Proofs.Document.Graphs
import FactModel.Proofs.Document.Populations
import FactModel.Proofs.Document.Reading
import FactModel.Proofs.Document.RoundTrip
import FactModel.Proofs.Document.Schemas
import FactModel.Proofs.FreshNames
import FactModel.Proofs.Identification
import FactModel.Proofs.Instances
import FactModel.Proofs.Lists
import FactModel.Proofs.Maps
import FactModel.Proofs.Positions
import FactModel.Proofs.Relational.BareTables
import FactModel.Proofs.Relational.ConstraintNames
import FactModel.Proofs.Relational.Dialects
import FactModel.Proofs.Relational.EntityTables
import FactModel.Proofs.Relational.EnumerationChecks
import FactModel.Proofs.Relational.FactTables
import FactModel.Proofs.Relational.ForeignKeys
import FactModel.Proofs.Relational.IdentifierColumns
import FactModel.Proofs.Relational.Identifiers
import FactModel.Proofs.Relational.InheritedKeys
import FactModel.Proofs.Relational.Integrity
import FactModel.Proofs.Relational.JustifiedKeys
import FactModel.Proofs.Relational.KeyAgreement
import FactModel.Proofs.Relational.KeyReferrals
import FactModel.Proofs.Relational.KeyRequests
import FactModel.Proofs.Relational.KeyShapes
import FactModel.Proofs.Relational.Lookups
import FactModel.Proofs.Relational.Nullability
import FactModel.Proofs.Relational.Placement
import FactModel.Proofs.Relational.PlainKeys
import FactModel.Proofs.Relational.PlannedKeys
import FactModel.Proofs.Relational.ReorderedKeys
import FactModel.Proofs.Relational.Representation
import FactModel.Proofs.Relational.RetypedTables
import FactModel.Proofs.Relational.Retyping
import FactModel.Proofs.Relational.RoleColumns
import FactModel.Proofs.Relational.RoleGroups
import FactModel.Proofs.Relational.StableNames
import FactModel.Proofs.Relational.TableKeys
import FactModel.Proofs.Relational.TableNames
import FactModel.Proofs.Schema.Arranged
import FactModel.Proofs.Schema.Identification
import FactModel.Proofs.Schema.InPlace
import FactModel.Proofs.Schema.Issues
import FactModel.Proofs.Schema.Keyed
import FactModel.Proofs.Schema.Linked
import FactModel.Proofs.Schema.Losses
import FactModel.Proofs.Schema.Resolution
import FactModel.Proofs.Schema.Same
import FactModel.Proofs.Text.Digits
import FactModel.Proofs.Text.Escapes
import FactModel.Proofs.Text.Numerals
import FactModel.Proofs.Totality
import FactModel.Proofs.Validation.Enumerations
import FactModel.Proofs.Validation.Rearranged
import FactModel.Proofs.Validation.Repairs
import FactModel.Proofs.Validation.Satisfaction
import FactModel.Proofs.Validation.Unresolved
import FactModel.Proofs.Value.Encodings
import FactModel.Proofs.Value.Lines
import FactModel.Proofs.Value.Numbers
import FactModel.Proofs.Value.ReadBack
import FactModel.Proofs.Value.Saved
import FactModel.Proofs.Value.Strings
import FactModel.Proofs.Value.StructuralEquality
import FactModel.Proofs.Value.Structure
import FactModel.Reading
import FactModel.Relational
import FactModel.Relational.Derivation
import FactModel.Relational.Key
import FactModel.Relational.Name
import FactModel.Relational.Placement
import FactModel.Relational.Table
import FactModel.Schema
import FactModel.Schema.Assignment
import FactModel.Schema.Document
import FactModel.Settings
import FactModel.Settings.Dotenv
import FactModel.Text.Blank
import FactModel.Text.DecimalDigit
import FactModel.Text.Digits
import FactModel.Text.Printable
import FactModel.Text.Quoted
import FactModel.Text.Upper
import FactModel.Validation
import FactModel.Value
import FactModel.Value.Loose
import FactModel.Value.Parser
