import JsonSchema.Main
import JsonSchema.Rule.Display
import JsonSchema.Proofs.Division
import JsonSchema.Proofs.Location
import JsonSchema.Proofs.Plan
import JsonSchema.Proofs.Pointer
import JsonSchema.Proofs.Reader
import JsonSchema.Proofs.Observation
import JsonSchema.Proofs.Reading
import JsonSchema.Proofs.Subschema
import JsonSchema.Proofs.Table
import JsonSchema.Proofs.Totality
import JsonSchema.Proofs.Interpreter
import JsonSchema.Proofs.Refinement
import JsonSchema.Proofs.Errors
import JsonSchema.Proofs.ErrorLocation
import JsonSchema.Proofs.Trace
import JsonSchema.Proofs.Unguarded
import JsonSchema.Proofs.Verbosity
import JsonSchema.Proofs.Frames
import JsonSchema.Proofs.Guards
import JsonSchema.Proofs.DepthLimit
import JsonSchema.Proofs.Compilation
import JsonSchema.Proofs.Closure
import JsonSchema.Proofs.Reach
import JsonSchema.Proofs.KeywordGroups
import JsonSchema.Proofs.Independence
import JsonSchema.Proofs.OrderFree
import JsonSchema.Proofs.KeyOrder
import JsonSchema.Proofs.NumberSpelling
import JsonSchema.Proofs.Relocation
import JsonSchema.Proofs.DepthCeiling
import JsonSchema.Proofs.ExitStatus
import JsonSchema.Proofs.History
import JsonSchema.Proofs.Equality
import JsonSchema.Proofs.Uniqueness
import JsonSchema.Proofs.Addressing
import JsonSchema.Proofs.PropertyChecks
import JsonSchema.Proofs.PointerText
import JsonSchema.Proofs.IgnoredKeywords
import JsonSchema.Proofs.DeclaredKeys
import JsonSchema.Proofs.Rounding
import JsonSchema.Proofs.Multiples
import JsonSchema.Proofs.Language
import JsonSchema.Proofs.DottedQuad
import JsonSchema.Proofs.Stacks
import JsonSchema.Proofs.StackDiscipline
import JsonSchema.Proofs.WellFormedResults
