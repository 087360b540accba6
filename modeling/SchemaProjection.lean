import SchemaProjection.Catalogue
import SchemaProjection.Proofs.DeclaringClasses
import SchemaProjection.Proofs.DefaultsReach
import SchemaProjection.Proofs.InterfaceText
import SchemaProjection.Proofs.ModelConstruction
import SchemaProjection.Proofs.NormalForm
import SchemaProjection.Proofs.OutputForm
import SchemaProjection.Proofs.Positions
import SchemaProjection.Proofs.ProjectionModes
import SchemaProjection.Proofs.ProjectionNotices
import SchemaProjection.Proofs.Refusals
import SchemaProjection.Proofs.ReachedClasses
import SchemaProjection.Proofs.WrappedCores
import SchemaProjection.Proofs.LevelNames
import SchemaProjection.Proofs.KeptAnnotations
import SchemaProjection.Proofs.NamePaths
import SchemaProjection.Proofs.UniformExpansion
import SchemaProjection.Proofs.Loosening
import SchemaProjection.Proofs.CommentedText
