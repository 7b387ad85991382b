import ToolBindings.CommandLine
import ToolBindings.Main
import ToolBindings.Proofs.Generation.NameScope
import ToolBindings.Proofs.Generation.Visibility
import ToolBindings.Proofs.Literal.Faithful
import ToolBindings.Proofs.Schema.FieldMetadata
import ToolBindings.Proofs.Schema.Form
import ToolBindings.Proofs.Schema.Reachability
import ToolBindings.Proofs.Schema.Termination
import ToolBindings.Proofs.Schema.Unfolding
import ToolBindings.Proofs.Session
import ToolBindings.Wire.RoundTrip
import ToolBindings.Proofs.Wire.Selection
import ToolBindings.Proofs.Metadata
import ToolBindings.Proofs.Wire.Writing
import ToolBindings.Proofs.Descriptor.RoundTrip
import ToolBindings.Proofs.CommandLine
import ToolBindings.Proofs.Tool.Acceptance
import ToolBindings.Proofs.Tool.DerivedNames
import ToolBindings.Proofs.Schema.Dictionary
import ToolBindings.Proofs.Generation.FileOrder
import ToolBindings.Proofs.Metadata.Writing
import ToolBindings.Proofs.Metadata.Grammar
import ToolBindings.Proofs.Bindings.ImportLine
import ToolBindings.Proofs.Bindings.Using
import ToolBindings.Proofs.Bindings.SourceName
import ToolBindings.Proofs.Literal.Indentation
import ToolBindings.Proofs.Schema.Recovery
import ToolBindings.Proofs.Generation.Records
