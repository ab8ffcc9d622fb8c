import DynamicSql.CommandLine.Directory
import DynamicSql.Main
import DynamicSql.Navigation.Consulted
import DynamicSql.Proofs.Classes.Overriding
import DynamicSql.Proofs.Expr.Comparison
import DynamicSql.Proofs.Expr.IntegerArithmetic
import DynamicSql.Proofs.Expr.IntegerText
import DynamicSql.Proofs.Expr.Spans
import DynamicSql.Proofs.Expr.StatementCache
import DynamicSql.Proofs.Heap.IntegerConversion
import DynamicSql.Proofs.Heap.Rendering
import DynamicSql.Proofs.Json.Reading
import DynamicSql.Proofs.Json.Scalars
import DynamicSql.Proofs.Navigation.Divergence
import DynamicSql.Proofs.Navigation.Failure
import DynamicSql.Proofs.Navigation.Probes
import DynamicSql.Proofs.Navigation.Sharing
import DynamicSql.Proofs.Path.Cursors
import DynamicSql.Proofs.Property.Components
import DynamicSql.Proofs.Property.Consistency
import DynamicSql.Proofs.Property.Contents
import DynamicSql.Proofs.Property.GenericTypes
import DynamicSql.Proofs.Property.Independence
import DynamicSql.Proofs.Property.ReservedNames
import DynamicSql.Proofs.Property.Setters
import DynamicSql.Proofs.Property.SharedTables
import DynamicSql.Proofs.Property.Specificity
import DynamicSql.Proofs.Rendering.Agreement
import DynamicSql.Proofs.Rendering.Encoding
import DynamicSql.Proofs.Rendering.Evaluation
import DynamicSql.Proofs.Rendering.Fragments
import DynamicSql.Proofs.Rendering.Noninterference
import DynamicSql.Proofs.Rendering.Runs
import DynamicSql.Proofs.Rendering.TemplateText
import DynamicSql.Proofs.Types.Assignability
import DynamicSql.Proofs.Value.JsonForm
import DynamicSql.Proofs.Value.JsonNumbers
